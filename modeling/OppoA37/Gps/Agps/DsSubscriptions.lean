import OppoA37.Gps.Agps.DsMachine

/-!
# Is every subscription of a data call honoured?

A connection that subscribed holds the data call until it unsubscribes, or is told that
its subscription ended. A monitor keeps the set of the holders; the list of subscribers
should have an active subscriber for each of them.

It does not always. `addSubscriber` asks `equals` whether the connection is listed
already, and a subscriber that only waits for its close equals the new one: a connection
that subscribes again before its close is complete is swallowed. `honoured_iff` says
that nothing else goes wrong, as long as data calls start.
-/

namespace OppoA37.Agps

open Lts

namespace DsNif

/-! ## The holders -/

/-- The connection that a step subscribes. -/
def subscribes (d : DsNif) (l : DsLabel) : Option UInt32 :=
  match callOf d l with
  | some (.requestSuplEs ID) => some ID
  | _ => none

/-- A notification ends the subscription of `ID`. -/
def Ended (ID : UInt32) (out : List DsOutput) : Prop :=
  .informStatus .rsrcDenied ID ∈ out ∨ .informStatus .rsrcReleased ID ∈ out

/-- Who holds the data call after a step: those who subscribed, and neither unsubscribed
nor were told that it ended. -/
def holders (held : UInt32 → Prop) (e : Event DsNif DsLabel DsOutput) : UInt32 → Prop :=
  fun ID => (subscribes e.pre e.label = some ID ∨
    held ID ∧ e.label.msg ≠ .call (.releaseATL ID)) ∧ ¬ Ended ID e.out

/-- The connection `ID` has an active subscriber. -/
def IsActive (ID : UInt32) (l : List DSSubscriber) : Prop :=
  ∃ s ∈ l, s.ID = ID ∧ s.mIsInactive = false

/-- Every holder is represented by an active subscriber, and the data call is not
stopped while somebody holds it. -/
def Honoured (held : UInt32 → Prop) (e : Event DsNif DsLabel DsOutput) : Prop :=
  (∀ ID, holders held e ID → IsActive ID e.post.sm.mSubscribers) ∧
  ∀ ret, .dataCallCb .gpsReleaseAgpsDataConn ret ∈ e.out → ∀ ID, ¬ holders held e ID

/-- A connection that subscribes is not waiting for its close. -/
def NotClosing (d : DsNif) (l : DsLabel) : Prop :=
  ∀ ID, subscribes d l = some ID → ∀ s ∈ d.sm.mSubscribers, s.ID = ID → s.mIsInactive = false

instance (d : DsNif) (l : DsLabel) : Decidable (NotClosing d l) :=
  decidable_of_iff
    (((subscribes d l).all fun ID =>
      decide (∀ s ∈ d.sm.mSubscribers, s.ID = ID → s.mIsInactive = false)) = true)
    (by simp only [Option.all_eq_true, decide_eq_true_eq, NotClosing])

/-- The data call starts when asked to. -/
def Starts (_ : DsNif) (l : DsLabel) : Prop := l.env.start = .success

/-! ## Lists of connections -/

/-- Of the notes only those matter that are noted. -/
theorem mem_notes {o : DsOutput} {out : List DsOutput} (ho : o.isNote = true) :
    o ∈ notes out ↔ o ∈ out := by simp [notes, ho]

theorem ended_iff {ID : UInt32} {out : List DsOutput} : Ended ID out ↔ Ended ID (notes out) := by
  rw [Ended, Ended, mem_notes rfl, mem_notes rfl]

/-- Marking one connection keeps the others active. -/
theorem IsActive.set {ID : UInt32} {l : List DSSubscriber} {position : ℕ} {s : DSSubscriber}
    (h : IsActive ID l) (hpos : l[position]? = some s) (hne : s.ID ≠ ID) :
    IsActive ID (l.set position ⟨s.ID, true⟩) := by
  obtain ⟨t, ht, rfl, hact⟩ := h
  obtain ⟨j, hj⟩ := List.getElem?_of_mem ht
  have hij : position ≠ j := by
    rintro rfl
    rw [hpos] at hj
    exact hne (congrArg DSSubscriber.ID (Option.some.inj hj))
  refine ⟨t, List.mem_of_getElem? (i := j) ?_, rfl, hact⟩
  rw [List.getElem?_set_ne hij]
  exact hj

/-- Whoever is active is among the active. -/
theorem IsActive.active {ID : UInt32} {l : List DSSubscriber} (h : IsActive ID l) :
    IsActive ID (DSStateMachine.active l) := by
  obtain ⟨s, hs, rfl, hact⟩ := h
  exact ⟨s, List.mem_filter.mpr ⟨hs, by rw [hact]; rfl⟩, rfl, hact⟩

theorem not_isActive_of_active_nil {ID : UInt32} {l : List DSSubscriber}
    (hnil : DSStateMachine.active l = []) : ¬ IsActive ID l := by
  intro h
  obtain ⟨s, hs, -⟩ := h.active
  rw [hnil] at hs
  cases hs

theorem IsActive.subscribed {ID ID' : UInt32} {l : List DSSubscriber} (h : IsActive ID l) :
    IsActive ID (DSStateMachine.subscribed l ID') := by
  rw [DSStateMachine.subscribed]
  split
  · exact h
  · obtain ⟨s, hs, hID, hact⟩ := h
    exact ⟨s, List.mem_cons_of_mem _ hs, hID, hact⟩

/-- A connection that is not waiting for its close is active once it subscribed. -/
theorem isActive_subscribed {ID : UInt32} {l : List DSSubscriber}
    (hopen : ∀ s ∈ l, s.ID = ID → s.mIsInactive = false) :
    IsActive ID (DSStateMachine.subscribed l ID) := by
  rw [DSStateMachine.subscribed]
  split
  · next hex =>
    obtain ⟨s, hs, hID⟩ := hex
    exact ⟨s, hs, hID, hopen s hs hID⟩
  · exact ⟨⟨ID, false⟩, List.mem_cons_self, rfl, rfl⟩

/-- No connection is listed twice. -/
def NodupIDs (l : List DSSubscriber) : Prop := (l.map DSSubscriber.ID).Nodup

theorem NodupIDs.subscribed {l : List DSSubscriber} (h : NodupIDs l) (ID : UInt32) :
    NodupIDs (DSStateMachine.subscribed l ID) := by
  rw [DSStateMachine.subscribed]
  split
  · exact h
  · next hno =>
    refine List.nodup_cons.mpr ⟨fun hmem => hno ?_, h⟩
    obtain ⟨s, hs, hID⟩ := List.mem_map.mp hmem
    exact ⟨s, hs, hID⟩

theorem NodupIDs.set {l : List DSSubscriber} (h : NodupIDs l) {position : ℕ} {s : DSSubscriber}
    (hpos : l[position]? = some s) : NodupIDs (l.set position ⟨s.ID, true⟩) := by
  have hsame : (l.set position ⟨s.ID, true⟩).map DSSubscriber.ID = l.map DSSubscriber.ID := by
    rw [List.map_set]
    refine List.ext_getElem? fun j => ?_
    by_cases hj : position = j
    · subst hj
      obtain ⟨hlt, rfl⟩ := List.getElem?_eq_some_iff.mp hpos
      simp [hlt]
    · rw [List.getElem?_set_ne hj]
  rw [NodupIDs, hsame]
  exact h

theorem NodupIDs.filter {l : List DSSubscriber} (h : NodupIDs l) (p : DSSubscriber → Bool) :
    NodupIDs (l.filter p) := h.sublist (List.filter_sublist.map _)

/-- Two listed subscribers of one connection are the same. -/
theorem NodupIDs.eq {l : List DSSubscriber} (h : NodupIDs l) {s t : DSSubscriber}
    (hs : s ∈ l) (ht : t ∈ l) (hID : s.ID = t.ID) : s = t :=
  List.inj_on_of_nodup_map h hs ht hID

/-! ## The invariant -/

/-- Where a run stands whose data calls start: nothing to retry, nobody listed twice or
in released, and an active subscriber for every holder. -/
structure Serves (held : UInt32 → Prop) (d : DsNif) : Prop where
  single : d.sm.mEnforceSingleSubscriber = false
  noTimer : d.sm.world.timers = 0
  noRetry : d.queued = []
  released : d.sm.mStatePtr = .released → d.sm.mSubscribers = []
  nodup : NodupIDs d.sm.mSubscribers
  active : ∀ ID, held ID → IsActive ID d.sm.mSubscribers

theorem serves_init : Serves (fun _ => False) init :=
  ⟨rfl, rfl, rfl, fun _ => rfl, List.nodup_nil, fun _ h => h.elim⟩

/-- Every start is accepted. -/
theorem startOutcome_of_starts {d : DsNif} {l : DsLabel} (h : Starts d l) (mRetries : UInt8) :
    DSStateMachine.startOutcome l.env mRetries = .accepted := by
  rw [DSStateMachine.startOutcome, h]

theorem startNotes_of_starts {d : DsNif} {l : DsLabel} (h : Starts d l) (mRetries : UInt8)
    (subs : List DSSubscriber) : DSStateMachine.startNotes l.env mRetries subs =
      [.dataCallCb .gpsRequestAgpsDataConn 0] := by
  rw [DSStateMachine.startNotes, startOutcome_of_starts h, h]
  rfl

variable {held : UInt32 → Prop} {e : Event DsNif DsLabel DsOutput}

/-- Without retries every step is a call from outside. -/
theorem Serves.call (hI : Serves held e.pre)
    (hs : machine.step e.pre e.label = some (e.post, e.out)) :
    ∃ c, e.label.msg = .call c ∧ callOf e.pre e.label = some c ∧
      Moves e.label.env e.pre c e.post e.out ∧ e.post.queued = [] := by
  rcases step_cases hI.single hs with ⟨c, hc, hmove, ⟨hm, hq⟩ | ⟨-, -, hne⟩⟩ | ⟨-, hpos, -⟩
  · exact ⟨c, hm, hc, hmove, hq.trans hI.noRetry⟩
  · exact absurd hI.noRetry hne
  · rw [hI.noTimer] at hpos
    cases hpos

/-- Whoever holds the data call after a step that subscribes nobody held it before, and
did not unsubscribe. -/
theorem held_of_holders {ID : UInt32} {c : DsCall} (hm : e.label.msg = .call c)
    (hsub : ∀ ID', c ≠ .requestSuplEs ID') (h : holders held e ID) :
    held ID ∧ c ≠ .releaseATL ID := by
  obtain ⟨hsubs | ⟨hheld, hne⟩, -⟩ := h
  · simp only [subscribes, callOf, hm] at hsubs
    cases c with
    | requestSuplEs ID' => exact absurd rfl (hsub ID')
    | releaseATL | suplEsOpened | suplEsClosed => cases hsubs
  · exact ⟨hheld, fun hc => hne (by rw [hm, hc])⟩

/-- Whoever holds the data call after `ID` subscribed is `ID`, or held it before. -/
theorem held_of_holders_subscribe {ID ID' : UInt32} (hm : e.label.msg = .call (.requestSuplEs ID))
    (h : holders held e ID') : ID' = ID ∨ held ID' := by
  obtain ⟨hsubs | ⟨hheld, -⟩, -⟩ := h
  · simp only [subscribes, callOf, hm] at hsubs
    exact Or.inl (Option.some.inj hsubs).symm
  · exact Or.inr hheld

/-- A step in which nobody subscribes who waits for its close keeps the invariant. -/
theorem Serves.step (hI : Serves held e.pre) (hstart : Starts e.pre e.label)
    (hok : NotClosing e.pre e.label)
    (hs : machine.step e.pre e.label = some (e.post, e.out)) :
    Serves (holders held e) e.post ∧
      ∀ ret, .dataCallCb .gpsReleaseAgpsDataConn ret ∈ e.out → ∀ ID, ¬ holders held e ID := by
  obtain ⟨c, hm, hc, hmove, hq⟩ := hI.call hs
  have hsingle := single_step hI.single hs
  rw [Moves] at hmove
  -- who is told what stands in the notes of the move
  have hended (ID : UInt32) (h : holders held e ID) : ¬ Ended ID (notes e.out) :=
    fun hend => h.2 (ended_iff.mpr hend)
  have hstops (ret : ℤ) : .dataCallCb .gpsReleaseAgpsDataConn ret ∈ e.out ↔
      .dataCallCb .gpsReleaseAgpsDataConn ret ∈ notes e.out := (mem_notes rfl).symm
  generalize hst : e.post.sm.mStatePtr = state at hmove
  generalize hl : e.post.sm.mSubscribers = subs at hmove
  generalize ht : e.post.sm.world.timers = timers at hmove
  generalize hn : notes e.out = out at hmove hended hstops
  have hmk (hreleased : state = .released → subs = []) (hnodup : NodupIDs subs)
      (htimers : timers = 0) (hactive : ∀ ID, holders held e ID → IsActive ID subs) :
      Serves (holders held e) e.post :=
    ⟨hsingle, ht.trans htimers, hq, fun h => hl.trans (hreleased (hst.symm.trans h)),
      hl ▸ hnodup, fun ID h => hl ▸ hactive ID h⟩
  have hquiet : out = [] → ∀ ret, .dataCallCb .gpsReleaseAgpsDataConn ret ∈ e.out →
      ∀ ID, ¬ holders held e ID := by
    rintro rfl ret hret
    exact absurd ((hstops ret).mp hret) List.not_mem_nil
  have hsubscribe (ID : UInt32) (hc : c = .requestSuplEs ID) (ID' : UInt32)
      (h : holders held e ID') :
      IsActive ID' (DSStateMachine.subscribed e.pre.sm.mSubscribers ID) := by
    subst hc
    rcases held_of_holders_subscribe hm h with rfl | hheld
    · exact isActive_subscribed (hok ID' (by simp only [subscribes, hc]))
    · exact (hI.active ID' hheld).subscribed
  cases hmove with
  | @started ID hreleased =>
    have hacc := startOutcome_of_starts hstart e.pre.sm.world.mRetries
    refine ⟨hmk ?_ (hI.nodup.subscribed ID) ?_ (hsubscribe ID rfl), ?_⟩
    · rw [if_pos hacc]
      exact nofun
    · rw [hI.noTimer, hacc]
      rfl
    · intro ret hret
      rw [hstops, startNotes_of_starts hstart] at hret
      simp at hret
  | @joined ID state hst₀ hne =>
    exact ⟨hmk (fun h => absurd h hne) (hI.nodup.subscribed ID) hI.noTimer (hsubscribe ID rfl),
      hquiet rfl⟩
  | ignored hst₀ hign =>
    refine ⟨hmk (fun h => hI.released (hst₀.trans h)) hI.nodup hI.noTimer fun ID h => ?_,
      hquiet rfl⟩
    have hsub : ∀ ID', c ≠ .requestSuplEs ID' := by
      rintro ID' rfl
      exact hign
    exact hI.active ID (held_of_holders hm hsub h).1
  | @marked ID position t state hst₀ hne hpos hID hactive =>
    refine ⟨hmk (fun h => absurd h hne) (hI.nodup.set hpos) hI.noTimer fun ID' h => ?_, hquiet rfl⟩
    obtain ⟨hheld, hne'⟩ := held_of_holders hm nofun h
    refine (hI.active ID' hheld).set hpos fun heq => hne' ?_
    rw [← heq, hID]
  | @markedLast ID position t hst₀ hpos hID hactive =>
    -- nobody is active, so nobody holds the data call
    have hnobody (ID' : UInt32) : ¬ holders held e ID' := by
      intro h
      obtain ⟨hheld, hne'⟩ := held_of_holders hm nofun h
      refine not_isActive_of_active_nil hactive ((hI.active ID' hheld).set hpos fun heq => hne' ?_)
      rw [← heq, hID]
    exact ⟨hmk nofun (hI.nodup.set hpos) hI.noTimer fun ID' h => absurd h (hnobody ID'),
      fun _ _ ID' => hnobody ID'⟩
  | granted hst₀ =>
    exact ⟨hmk nofun hI.nodup hI.noTimer fun ID h => hI.active ID (held_of_holders hm nofun h).1,
      hquiet rfl⟩
  | @ended status hst₀ =>
    -- everybody was told
    have hnobody (ID : UInt32) : ¬ holders held e ID := by
      intro h
      obtain ⟨t, ht, rfl, -⟩ := hI.active ID (held_of_holders hm nofun h).1
      refine hended t.ID h ?_
      have htold : DsOutput.informStatus status t.ID ∈
          e.pre.sm.mSubscribers.map fun s => .informStatus status s.ID := List.mem_map_of_mem ht
      rcases hst₀ with ⟨-, rfl⟩ | ⟨-, rfl⟩
      · exact Or.inl htold
      · exact Or.inr htold
    exact ⟨hmk (fun _ => rfl) List.nodup_nil hI.noTimer fun ID h => absurd h (hnobody ID),
      fun _ _ ID => hnobody ID⟩
  | closed hst₀ hactive =>
    have hnobody (ID : UInt32) : ¬ holders held e ID := by
      intro h
      exact not_isActive_of_active_nil hactive (hI.active ID (held_of_holders hm nofun h).1)
    exact ⟨hmk (fun _ => rfl) List.nodup_nil hI.noTimer fun ID h => absurd h (hnobody ID),
      fun _ _ ID => hnobody ID⟩
  | reopened hst₀ hactive =>
    have hacc := startOutcome_of_starts hstart e.pre.sm.world.mRetries
    refine ⟨hmk nofun (hI.nodup.filter _) ?_ fun ID h => ?_, ?_⟩
    · rw [hI.noTimer, hacc]
      rfl
    · exact (hI.active ID (held_of_holders hm nofun h).1).active
    · intro ret hret
      rw [hstops, startNotes_of_starts hstart] at hret
      simp at hret

/-- A connection that subscribes while it waits for its close is swallowed. -/
theorem not_honoured_of_closing (hI : Serves held e.pre) (hno : ¬ NotClosing e.pre e.label)
    (hs : machine.step e.pre e.label = some (e.post, e.out)) : ¬ Honoured held e := by
  obtain ⟨c, hm, hc, hmove, -⟩ := hI.call hs
  simp only [NotClosing, not_forall] at hno
  obtain ⟨ID, hsub, s, hmem, hID, hinactive⟩ := hno
  rintro ⟨hactive, -⟩
  obtain rfl : c = .requestSuplEs ID := by
    simp only [subscribes, hc] at hsub
    cases c with
    | requestSuplEs ID' => rw [Option.some.inj hsub]
    | releaseATL | suplEsOpened | suplEsClosed => cases hsub
  rw [Moves] at hmove
  generalize hst : e.post.sm.mStatePtr = state at hmove
  generalize hl : e.post.sm.mSubscribers = subs at hmove
  generalize ht : e.post.sm.world.timers = timers at hmove
  generalize hn : notes e.out = out at hmove
  cases hmove with
  | started hreleased =>
    -- nobody is listed in released
    rw [hI.released hreleased] at hmem
    cases hmem
  | joined hst₀ hne =>
    have hholds : holders held e ID := by
      refine ⟨Or.inl hsub, fun hend => ?_⟩
      rw [ended_iff, hn] at hend
      rcases hend with h | h <;> cases h
    obtain ⟨t, ht, htID, hact⟩ := hactive ID hholds
    rw [hl, DSStateMachine.subscribed, if_pos ⟨s, hmem, hID⟩] at ht
    obtain rfl := hI.nodup.eq hmem ht (hID.trans htID.symm)
    exact hinactive hact
  | ignored hst₀ hign => exact hign

/-- **Which subscriptions are honoured.** In a run whose data calls start, every holder
is represented by an active subscriber after every step, and the data call is never
stopped while somebody holds it, exactly when no connection subscribes while an older
subscription of it still waits for its close. -/
theorem honoured_iff {h : List (Event DsNif DsLabel DsOutput)} {d : DsNif}
    (hrun : Run machine init h d) (hstart : ∀ e ∈ h, e.label.env.start = .success) :
    (∀ e ∈ h, NotClosing e.pre e.label) ↔ Watched holders (fun _ => False) Honoured h := by
  refine Run.watched_iff Serves Starts NotClosing serves_init ?_ ?_ hrun hstart
  · intro held e hI hside hok hs
    obtain ⟨hserves, hstops⟩ := hI.step hside hok hs
    exact ⟨hserves, hserves.active, hstops⟩
  · intro held e hI _ hno hs
    exact not_honoured_of_closing hI hno hs

/-- A call while data calls start. -/
def starting (c : DsCall) : DsLabel := ⟨.call c, ⟨.success, true⟩⟩

/-- Two connections share a data call, and one of them leaves. -/
theorem honoured_iff_two_connections :
    ∃ h d, Run machine init h d ∧ h.length = 4 ∧ Watched holders (fun _ => False) Honoured h := by
  obtain ⟨h, d, hrun, hl, hok⟩ := machine.exists_run init
    [starting (.requestSuplEs 1), starting .suplEsOpened, starting (.requestSuplEs 2),
      starting (.releaseATL 1)]
    (fun h _ => decide (∀ e ∈ h, NotClosing e.pre e.label)) (by decide)
  have hstart : ∀ e ∈ h, e.label.env.start = .success :=
    forall_label (P := fun l : DsLabel => l.env.start = .success) hl (by simp [starting])
  refine ⟨h, d, hrun, ?_, (honoured_iff hrun hstart).mp (of_decide_eq_true hok)⟩
  rw [← List.length_map Event.label, hl]
  rfl

/-- A connection that closes and subscribes again before its close is complete has no
active subscriber. -/
theorem not_honoured_of_reopen :
    ¬ ∀ (h : List (Event DsNif DsLabel DsOutput)) (d : DsNif), Run machine init h d →
      (∀ e ∈ h, e.label.env.start = .success) → Watched holders (fun _ => False) Honoured h := by
  intro hall
  obtain ⟨h, e, hrun, hl, hle, hcheck⟩ := machine.exists_run_last init
    [starting (.requestSuplEs 1), starting .suplEsOpened, starting (.releaseATL 1)]
    (starting (.requestSuplEs 1))
    (fun _ e => decide (e.out = [] ∧ e.post.sm.mSubscribers = [⟨1, true⟩])) (by decide)
  obtain ⟨hout, hlist⟩ := of_decide_eq_true hcheck
  have hl' : (h ++ [e]).map Event.label = [starting (.requestSuplEs 1), starting .suplEsOpened,
      starting (.releaseATL 1), starting (.requestSuplEs 1)] := by
    rw [List.map_append, hl, List.map_singleton, hle]
    rfl
  have hstart : ∀ e' ∈ h ++ [e], e'.label.env.start = .success :=
    forall_label (P := fun l : DsLabel => l.env.start = .success) hl' (by simp [starting])
  obtain ⟨hactive, -⟩ := hall (h ++ [e]) e.post hrun hstart h e [] rfl
  obtain ⟨s, hs, -, hact⟩ := hactive 1 ⟨Or.inl (by rw [subscribes, callOf, hle]; rfl), by
    rw [Ended, hout]
    exact fun hend => hend.elim List.not_mem_nil List.not_mem_nil⟩
  rw [hlist] at hs
  obtain rfl := List.mem_singleton.mp hs
  cases hact

end DsNif

end OppoA37.Agps
