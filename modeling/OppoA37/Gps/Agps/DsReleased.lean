import OppoA37.Gps.Agps.DsSubscriptions

/-!
# Is nobody left behind in released?

A start of the data call that fails leaves the machine in released, with the connection
already on the list. If a timer retries, the connection waits there for a reason. If the
start is refused, the connection is told to fall back to normal ATL, and stays on the
list all the same; and an unsubscribe in released leaves the list alone, on the grounds
that it should be empty. `settled_iff` names the steps after which somebody is left.
-/

namespace OppoA37.Agps

open Lts

namespace DsNif

/-! ## The property and its condition -/

/-- Nobody is left behind: in released with no retry under way the list is empty; and
neither a connection that was told to fall back, nor one that unsubscribed in released,
is listed as active. -/
structure Settled (e : Event DsNif DsLabel DsOutput) : Prop where
  empty : e.post.sm.mStatePtr = .released → ¬ e.post.RetryPending → e.post.sm.mSubscribers = []
  denied : ∀ ID, .informStatus .rsrcDenied ID ∈ e.out → ¬ IsActive ID e.post.sm.mSubscribers
  left : ∀ ID, e.label.msg = .call (.releaseATL ID) → e.pre.sm.mStatePtr = .released →
    ¬ IsActive ID e.post.sm.mSubscribers

/-- The step asks the servicer to start the data call: somebody subscribes in released,
or a close is complete and somebody is active. -/
def StartsCall (d : DsNif) (l : DsLabel) : Prop :=
  (∃ ID, callOf d l = some (.requestSuplEs ID)) ∧ d.sm.mStatePtr = .released ∨
  callOf d l = some .suplEsClosed ∧ d.sm.mStatePtr = .releasing ∧
    DSStateMachine.active d.sm.mSubscribers ≠ []

/-- The messages of expired timers that are left after a step. -/
def queuedAfter (d : DsNif) (l : DsLabel) : List UInt32 :=
  if l.msg = .retry then d.queued.tail else d.queued

/-- The steps that leave nobody behind. -/
structure LeavesNobody (d : DsNif) (l : DsLabel) : Prop where
  /-- nobody who is listed unsubscribes in released -/
  release : ∀ ID, l.msg = .call (.releaseATL ID) → d.sm.mStatePtr = .released →
    ∀ s ∈ d.sm.mSubscribers, s.ID ≠ ID
  /-- no start is refused -/
  start : StartsCall d l → DSStateMachine.startOutcome l.env d.sm.world.mRetries ≠ .refused
  /-- and when no timer could be started in released, another retry is under way -/
  timer : StartsCall d l → d.sm.mStatePtr = .released →
    DSStateMachine.startOutcome l.env d.sm.world.mRetries = .stalled →
    0 < d.sm.world.timers ∨ queuedAfter d l ≠ []

/-- What is on the list in released: active subscribers that wait for a retry. -/
structure Waits (d : DsNif) : Prop where
  single : d.sm.mEnforceSingleSubscriber = false
  active : d.sm.mStatePtr = .released → ∀ s ∈ d.sm.mSubscribers, s.mIsInactive = false
  retry : d.sm.mStatePtr = .released → d.sm.mSubscribers = [] ∨ d.RetryPending

theorem waits_init : Waits init :=
  ⟨rfl, fun _ _ hs => absurd hs List.not_mem_nil, fun _ => Or.inl rfl⟩

/-! ## The first active subscriber -/

/-- The connection a start falls back for is active, if anybody is. -/
theorem isActive_connHandle {l : List DSSubscriber} (h : ∃ s ∈ l, s.mIsInactive = false) :
    IsActive (DSStateMachine.connHandle l) l := by
  rcases hs : AgpsStateMachine.search (.pattern .broadcastActive) l with _ | ⟨i, s⟩
  · obtain ⟨t, ht, hact⟩ := h
    have hno := AgpsStateMachine.search_eq_none.mp hs t ht
    rw [forMe_patternActive, show isInactive t = false from hact] at hno
    cases hno
  · obtain ⟨hi, hfor⟩ := AgpsStateMachine.search_eq_some hs
    rw [forMe_patternActive, Bool.not_eq_true'] at hfor
    rw [DSStateMachine.connHandle, hs]
    exact ⟨s, List.mem_of_getElem? hi, rfl, hfor⟩

/-- Whoever subscribes to a list of active subscribers finds an active one listed. -/
theorem exists_active_subscribed {l : List DSSubscriber} (hall : ∀ s ∈ l, s.mIsInactive = false)
    (ID : UInt32) : ∃ s ∈ DSStateMachine.subscribed l ID, s.mIsInactive = false := by
  have hactive : IsActive ID (DSStateMachine.subscribed l ID) :=
    isActive_subscribed fun s hs _ => hall s hs
  obtain ⟨s, hs, -, hact⟩ := hactive
  exact ⟨s, hs, hact⟩

theorem active_subscribed {l : List DSSubscriber} (hall : ∀ s ∈ l, s.mIsInactive = false)
    (ID : UInt32) : ∀ s ∈ DSStateMachine.subscribed l ID, s.mIsInactive = false := by
  intro s hs
  rw [DSStateMachine.subscribed] at hs
  split at hs
  · exact hall s hs
  · rcases List.mem_cons.mp hs with rfl | hs
    · rfl
    · exact hall s hs

/-- A timer that expires while somebody is active posts a message. -/
theorem retryCallback_ne_nil {sm : DSStateMachine}
    (h : ∃ s ∈ sm.mSubscribers, s.mIsInactive = false) :
    (DSStateMachine.retryCallback sm).toList ≠ [] := by
  obtain ⟨t, ht, hact⟩ := h
  have hsome :
      (AgpsStateMachine.search (.pattern .broadcastActive) sm.mSubscribers).isSome = true :=
    AgpsStateMachine.search_isSome.mpr ⟨t, ht, by
      rw [forMe_patternActive, show isInactive t = false from hact]
      rfl⟩
  obtain ⟨d, hd⟩ := Option.isSome_iff_exists.mp hsome
  simp [DSStateMachine.retryCallback, hd]

/-! ## What starts note -/

theorem not_denied_of_startNotes {env : DsEnv} {mRetries : UInt8} {l : List DSSubscriber}
    (h : DSStateMachine.startOutcome env mRetries ≠ .refused) (ID : UInt32) :
    .informStatus .rsrcDenied ID ∉ DSStateMachine.startNotes env mRetries l := by
  rw [DSStateMachine.startNotes, if_neg h]
  simp

theorem denied_of_startNotes {env : DsEnv} {mRetries : UInt8} {l : List DSSubscriber}
    (h : DSStateMachine.startOutcome env mRetries = .refused) :
    .informStatus .rsrcDenied (DSStateMachine.connHandle l) ∈
      DSStateMachine.startNotes env mRetries l := by
  rw [DSStateMachine.startNotes, if_pos h]
  exact List.mem_cons_of_mem _ (List.mem_singleton_self _)

/-! ## One step -/

variable {e : Event DsNif DsLabel DsOutput}

/-- The queue after a step that is a call of the machine. -/
theorem queued_eq_queuedAfter {d d' : DsNif} {l : DsLabel} {c : DsCall}
    (h : (l.msg = .call c ∧ d'.queued = d.queued) ∨
      (l.msg = .retry ∧ d'.queued = d.queued.tail ∧ d.queued ≠ [])) :
    d'.queued = queuedAfter d l := by
  rcases h with ⟨hm, hq⟩ | ⟨hm, hq, -⟩
  · rw [hq, queuedAfter, hm, if_neg nofun]
  · rw [hq, queuedAfter, if_pos hm]

/-- The end of a retry timer leaves nobody behind: while somebody waits, it posts its
message. -/
theorem Waits.delayCallback (hI : Waits e.pre) (hm : e.label.msg = .delayCallback)
    (hst : e.post.sm.mStatePtr = e.pre.sm.mStatePtr)
    (hl : e.post.sm.mSubscribers = e.pre.sm.mSubscribers)
    (hq : e.post.queued = e.pre.queued ++ (DSStateMachine.retryCallback e.pre.sm).toList)
    (hout : e.out = []) (hsingle : e.post.sm.mEnforceSingleSubscriber = false) :
    Waits e.post ∧ Settled e := by
  have hretry : e.post.sm.mStatePtr = .released →
      e.post.sm.mSubscribers = [] ∨ e.post.RetryPending := by
    intro h
    rw [hst] at h
    rcases List.eq_nil_or_concat e.pre.sm.mSubscribers with hnil | ⟨rest, s, hs⟩
    · exact Or.inl (hl.trans hnil)
    · have hmem : s ∈ e.pre.sm.mSubscribers := by rw [hs]; simp
      have hne := retryCallback_ne_nil ⟨s, hmem, hI.active h s hmem⟩
      refine Or.inr (Or.inr ?_)
      rw [hq]
      exact List.append_ne_nil_of_right_ne_nil _ hne
  refine ⟨⟨hsingle, fun h => ?_, hretry⟩, ⟨fun h hno => (hretry h).resolve_right hno, ?_, ?_⟩⟩
  · rw [hl]
    exact hI.active (hst ▸ h)
  · rw [hout]
    exact fun _ h => absurd h List.not_mem_nil
  · intro ID h
    rw [hm] at h
    cases h

/-- **One step.** A step that meets the condition keeps the invariant and leaves nobody
behind. -/
theorem Waits.step (hI : Waits e.pre) (hok : LeavesNobody e.pre e.label)
    (hs : machine.step e.pre e.label = some (e.post, e.out)) : Waits e.post ∧ Settled e := by
  have hsingle := single_step hI.single hs
  rcases step_cases hI.single hs with ⟨c, hc, hmove, hq⟩ | ⟨hm, -, hst, hl, -, hq, hout⟩
  swap
  · exact hI.delayCallback hm hst hl hq hout hsingle
  have hqueued := queued_eq_queuedAfter hq
  -- an unsubscribe is this very call
  have hrelease (ID : UInt32) (h : e.label.msg = .call (.releaseATL ID)) : c = .releaseATL ID := by
    rcases hq with ⟨hm, -⟩ | ⟨hm, -⟩
    · rw [hm] at h
      exact DsMsg.call.inj h
    · rw [hm] at h
      cases h
  have hdenied (ID : UInt32) : .informStatus .rsrcDenied ID ∈ e.out ↔
      .informStatus .rsrcDenied ID ∈ notes e.out := (mem_notes rfl).symm
  rw [Moves] at hmove
  generalize hst : e.post.sm.mStatePtr = state at hmove
  generalize hl : e.post.sm.mSubscribers = subs at hmove
  generalize ht : e.post.sm.world.timers = timers at hmove
  generalize hn : notes e.out = out at hmove hdenied
  -- what is left to show, on what the move says
  have hmk (hactive : state = .released → ∀ s ∈ subs, s.mIsInactive = false)
      (hretry : state = .released → subs = [] ∨ 0 < timers ∨ queuedAfter e.pre e.label ≠ [])
      (htold : ∀ ID, .informStatus .rsrcDenied ID ∈ out → ¬ IsActive ID subs)
      (hleft : ∀ ID, c = .releaseATL ID → e.pre.sm.mStatePtr = .released → ¬ IsActive ID subs) :
      Waits e.post ∧ Settled e := by
    subst hst hl ht
    have hretry' : e.post.sm.mStatePtr = .released →
        e.post.sm.mSubscribers = [] ∨ e.post.RetryPending := by
      intro h
      rw [RetryPending, hqueued]
      exact hretry h
    exact ⟨⟨hsingle, hactive, hretry'⟩, ⟨fun h hno => (hretry' h).resolve_right hno,
      fun ID h => htold ID ((hdenied ID).mp h), fun ID h => hleft ID (hrelease ID h)⟩⟩
  have hquiet (ID : UInt32) (h : DsOutput.informStatus .rsrcDenied ID ∈ ([] : List DsOutput)) :
      ¬ IsActive ID subs := absurd h List.not_mem_nil
  cases hmove with
  | @started ID hreleased =>
    have hstarts : StartsCall e.pre e.label := Or.inl ⟨⟨ID, hc⟩, hreleased⟩
    have hall := hI.active hreleased
    refine hmk (fun _ => active_subscribed hall ID) (fun _ => Or.inr ?_) ?_ (by rintro _ ⟨⟩)
    · -- the start was stalled or will be retried
      rcases ho : DSStateMachine.startOutcome e.label.env e.pre.sm.world.mRetries
      · rename_i hstate
        rw [if_pos ho] at hstate
        cases hstate
      · exact Or.inl (Nat.succ_pos _)
      · simpa using hok.timer hstarts hreleased ho
      · exact absurd ho (hok.start hstarts)
    · exact fun ID' h => absurd h (not_denied_of_startNotes (hok.start hstarts) ID')
  | joined hst₀ hne =>
    exact hmk (fun h => absurd h hne) (fun h => absurd h hne) hquiet (by rintro _ ⟨⟩)
  | @ignored _ _ hst₀ hign =>
    refine hmk (fun h => hI.active (hst₀.trans h)) (fun h => ?_) hquiet ?_
    · -- no retry is used up by a call that is ignored
      refine (hI.retry (hst₀.trans h)).imp_right fun hpend => ?_
      rcases hq with ⟨hm, -⟩ | ⟨hm, -, hne⟩
      · rw [queuedAfter, hm, if_neg (by rintro ⟨⟩)]
        exact hpend
      · rcases hqq : e.pre.queued with _ | ⟨ID, rest⟩
        · exact absurd hqq hne
        · simp only [callOf, hm, hqq, List.head?_cons, Option.map_some, Option.some.injEq] at hc
          subst hc
          exact hign.elim
    · rintro ID rfl hreleased ⟨s, hs, hID, -⟩
      rcases hq with ⟨hm, -⟩ | ⟨hm, -, hne⟩
      · exact hok.release ID hm hreleased s hs hID
      · rcases hqq : e.pre.queued with _ | ⟨ID', rest⟩
        · exact absurd hqq hne
        · simp [callOf, hm, hqq] at hc
  | marked hst₀ hne hpos hID hactive =>
    refine hmk (fun h => absurd h hne) (fun h => absurd h hne) hquiet fun _ _ h => ?_
    exact absurd (hst₀.symm.trans h) hne
  | markedLast hst₀ hpos hID hactive =>
    refine hmk (by rintro ⟨⟩) (by rintro ⟨⟩) (fun ID h => by simp at h) fun _ _ h => ?_
    rcases hst₀ with h' | h' <;> rw [h] at h' <;> cases h'
  | granted hst₀ => exact hmk (by rintro ⟨⟩) (by rintro ⟨⟩) hquiet (by rintro _ ⟨⟩)
  | ended hst₀ =>
    exact hmk (fun _ _ hs => absurd hs List.not_mem_nil) (fun _ => Or.inl rfl)
      (fun _ _ => not_isActive_of_active_nil rfl) (by rintro _ ⟨⟩)
  | closed hst₀ hactive =>
    exact hmk (fun _ _ hs => absurd hs List.not_mem_nil) (fun _ => Or.inl rfl)
      (fun _ _ => not_isActive_of_active_nil rfl) (by rintro _ ⟨⟩)
  | reopened hst₀ hactive =>
    have hstarts : StartsCall e.pre e.label := Or.inr ⟨hc, hst₀, hactive⟩
    refine hmk (by rintro ⟨⟩) (by rintro ⟨⟩) (fun ID h => ?_) (by rintro _ ⟨⟩)
    rcases List.mem_append.mp h with h | h
    · -- the closing connections are told a release
      simp at h
    · exact absurd h (not_denied_of_startNotes (hok.start hstarts) ID)

/-- What a start in released leaves behind. -/
theorem started_inv {d d' : DsNif} {l : DsLabel} {out : List DsOutput} {ID : UInt32}
    (hreleased : d.sm.mStatePtr = .released) (hmove : Moves l.env d (.requestSuplEs ID) d' out) :
    d'.sm.mStatePtr = (if DSStateMachine.startOutcome l.env d.sm.world.mRetries = .accepted then
      .pending else .released) ∧
    d'.sm.mSubscribers = DSStateMachine.subscribed d.sm.mSubscribers ID ∧
    d'.sm.world.timers = d.sm.world.timers +
      (if DSStateMachine.startOutcome l.env d.sm.world.mRetries = .retried then 1 else 0) ∧
    notes out = DSStateMachine.startNotes l.env d.sm.world.mRetries
      (DSStateMachine.subscribed d.sm.mSubscribers ID) := by
  rw [Moves] at hmove
  generalize d'.sm.mStatePtr = state at hmove ⊢
  generalize d'.sm.mSubscribers = subs at hmove ⊢
  generalize d'.sm.world.timers = timers at hmove ⊢
  generalize notes out = out at hmove ⊢
  cases hmove with
  | started => exact ⟨rfl, rfl, rfl, rfl⟩
  | joined hst hne => exact absurd (hst.symm.trans hreleased) hne
  | ignored hst hign => exact hign.elim

/-- What a start at the end of a close leaves behind. -/
theorem reopened_inv {d d' : DsNif} {l : DsLabel} {out : List DsOutput}
    (hreleasing : d.sm.mStatePtr = .releasing)
    (hactive : DSStateMachine.active d.sm.mSubscribers ≠ [])
    (hmove : Moves l.env d .suplEsClosed d' out) :
    d'.sm.mStatePtr = .pending ∧
    d'.sm.mSubscribers = DSStateMachine.active d.sm.mSubscribers ∧
    notes out = (DSStateMachine.inactive d.sm.mSubscribers).map
      (fun s => .informStatus .rsrcReleased s.ID) ++
      DSStateMachine.startNotes l.env d.sm.world.mRetries
        (DSStateMachine.active d.sm.mSubscribers) := by
  rw [Moves] at hmove
  generalize d'.sm.mStatePtr = state at hmove ⊢
  generalize d'.sm.mSubscribers = subs at hmove ⊢
  generalize d'.sm.world.timers = timers at hmove
  generalize notes out = out at hmove ⊢
  cases hmove with
  | reopened => exact ⟨rfl, rfl, rfl⟩
  | closed hst hnil => exact absurd hnil hactive
  | ignored hst hign => rw [hign] at hreleasing; cases hreleasing
  | ended hst => rcases hst with ⟨h, -⟩ | ⟨h, -⟩ <;> rw [h] at hreleasing <;> cases hreleasing

/-- An unsubscribe of a listed connection in released leaves it on the list. -/
theorem not_settled_of_release (hI : Waits e.pre)
    (hs : machine.step e.pre e.label = some (e.post, e.out)) {ID : UInt32}
    (hm : e.label.msg = .call (.releaseATL ID)) (hreleased : e.pre.sm.mStatePtr = .released)
    {s : DSSubscriber} (hmem : s ∈ e.pre.sm.mSubscribers) (hID : s.ID = ID) : ¬ Settled e := by
  intro hsettled
  have hmove := called_moves e.pre e.label.env (.releaseATL ID) hI.single
  have hs' : (e.pre.called e.label.env (.releaseATL ID)) = (e.post, e.out) := by
    simpa [machine, hm] using hs
  rw [hs', Moves] at hmove
  refine hsettled.left ID hm hreleased ⟨s, ?_, hID, hI.active hreleased s hmem⟩
  generalize e.post.sm.mStatePtr = state at hmove
  generalize e.post.sm.mSubscribers = subs at hmove ⊢
  generalize e.post.sm.world.timers = timers at hmove
  generalize notes e.out = out at hmove
  cases hmove with
  | ignored => exact hmem
  | marked hst hne => exact absurd (hst.symm.trans hreleased) hne
  | markedLast hst => rcases hst with h | h <;> rw [h] at hreleased <;> cases hreleased

/-- A refused start leaves the connection that fell back on the list. -/
theorem not_settled_of_refused (hI : Waits e.pre)
    (hs : machine.step e.pre e.label = some (e.post, e.out)) (hstarts : StartsCall e.pre e.label)
    (hrefused : DSStateMachine.startOutcome e.label.env e.pre.sm.world.mRetries = .refused) :
    ¬ Settled e := by
  intro hsettled
  rcases step_cases hI.single hs with ⟨c, hc, hmove, -⟩ | ⟨hm, -⟩
  · rcases hstarts with ⟨⟨ID, hID⟩, hreleased⟩ | ⟨hclosed, hreleasing, hactive⟩
    · obtain rfl := Option.some.inj (hc.symm.trans hID)
      obtain ⟨-, hl, -, hn⟩ := started_inv hreleased hmove
      have htold := denied_of_startNotes (l := DSStateMachine.subscribed e.pre.sm.mSubscribers ID)
        hrefused
      rw [← hn, mem_notes rfl] at htold
      apply hsettled.denied _ htold
      rw [hl]
      exact isActive_connHandle (exists_active_subscribed (hI.active hreleased) ID)
    · obtain rfl := Option.some.inj (hc.symm.trans hclosed)
      obtain ⟨-, hl, hn⟩ := reopened_inv hreleasing hactive hmove
      have htold := denied_of_startNotes (l := DSStateMachine.active e.pre.sm.mSubscribers) hrefused
      have htold' := List.mem_append_right ((DSStateMachine.inactive e.pre.sm.mSubscribers).map
        fun s => .informStatus .rsrcReleased s.ID) htold
      rw [← hn, mem_notes rfl] at htold'
      apply hsettled.denied _ htold'
      rw [hl]
      obtain ⟨s, hs⟩ := List.exists_mem_of_ne_nil _ hactive
      exact isActive_connHandle ⟨s, hs, by simpa using List.of_mem_filter hs⟩
  · -- the end of a timer starts nothing
    rcases hstarts with ⟨⟨ID, hID⟩, -⟩ | ⟨hclosed, -⟩
    · simp [callOf, hm] at hID
    · simp [callOf, hm] at hclosed

/-- A start in released that cannot be retried leaves the connection on the list. -/
theorem not_settled_of_stalled (hI : Waits e.pre)
    (hs : machine.step e.pre e.label = some (e.post, e.out)) (hstarts : StartsCall e.pre e.label)
    (hreleased : e.pre.sm.mStatePtr = .released)
    (hstalled : DSStateMachine.startOutcome e.label.env e.pre.sm.world.mRetries = .stalled)
    (hno : ¬ (0 < e.pre.sm.world.timers ∨ queuedAfter e.pre e.label ≠ [])) : ¬ Settled e := by
  intro hsettled
  rcases step_cases hI.single hs with ⟨c, hc, hmove, hq⟩ | ⟨hm, -⟩
  · rcases hstarts with ⟨⟨ID, hID⟩, -⟩ | ⟨-, hreleasing, -⟩
    · obtain rfl := Option.some.inj (hc.symm.trans hID)
      obtain ⟨hst, hl, ht, -⟩ := started_inv hreleased hmove
      rw [hstalled] at hst ht
      have hnil := hsettled.empty hst (by
        rw [RetryPending, ht, queued_eq_queuedAfter hq]
        exact hno)
      obtain ⟨s, hs, -⟩ := exists_active_subscribed (hI.active hreleased) ID
      rw [← hl, hnil] at hs
      cases hs
    · rw [hreleased] at hreleasing
      cases hreleasing
  · rcases hstarts with ⟨⟨ID, hID⟩, -⟩ | ⟨hclosed, -⟩
    · simp [callOf, hm] at hID
    · simp [callOf, hm] at hclosed

/-! ## Whole runs -/

/-- **Who is left behind in released.** Whatever the servicer answers and whenever timers
expire: after every step of a run nobody is left behind, exactly when no listed
connection unsubscribes in released, no start is refused, and a start in released that is
not retried itself finds another retry under way. -/
theorem settled_iff {h : List (Event DsNif DsLabel DsOutput)} {d : DsNif}
    (hrun : Run machine init h d) :
    (∀ e ∈ h, LeavesNobody e.pre e.label) ↔ ∀ e ∈ h, Settled e := by
  refine Run.forall_iff Waits LeavesNobody Settled waits_init ?_ ?_ hrun
  · intro d l d' out hI hok hs
    exact Waits.step (e := ⟨d, l, out, d'⟩) hI hok hs
  · intro d l d' out hI hno hs hsettled
    refine hno ⟨fun ID hm hreleased s hmem hID => ?_, fun hstarts hrefused => ?_,
      fun hstarts hreleased hstalled => by_contra fun hnone => ?_⟩
    · exact not_settled_of_release (e := ⟨d, l, out, d'⟩) hI hs hm hreleased hmem hID hsettled
    · exact not_settled_of_refused (e := ⟨d, l, out, d'⟩) hI hs hstarts hrefused hsettled
    · exact not_settled_of_stalled (e := ⟨d, l, out, d'⟩) hI hs hstarts hreleased hstalled hnone
        hsettled

/-! ## Two runs -/

/-- The connection that a message unsubscribes. -/
def unsubscribes : DsMsg → Option UInt32
  | .call (.releaseATL ID) => some ID
  | _ => none

theorem unsubscribes_eq_some {m : DsMsg} {ID : UInt32} :
    unsubscribes m = some ID ↔ m = .call (.releaseATL ID) := by
  rcases m with (_ | _ | _ | _) | _ | _ <;> simp [unsubscribes]

theorem subscribes_isSome {d : DsNif} {l : DsLabel} :
    (subscribes d l).isSome = true ↔ ∃ ID, callOf d l = some (.requestSuplEs ID) := by
  rw [subscribes]
  rcases callOf d l with _ | _ | _ | _ | _ <;> simp

instance (d : DsNif) (l : DsLabel) : Decidable (StartsCall d l) :=
  decidable_of_iff ((subscribes d l).isSome = true ∧ d.sm.mStatePtr = .released ∨
    callOf d l = some .suplEsClosed ∧ d.sm.mStatePtr = .releasing ∧
      DSStateMachine.active d.sm.mSubscribers ≠ []) (by rw [subscribes_isSome, StartsCall])

instance (d : DsNif) (l : DsLabel) : Decidable (LeavesNobody d l) :=
  decidable_of_iff (((unsubscribes l.msg).all fun ID => decide (d.sm.mStatePtr = .released →
      ∀ s ∈ d.sm.mSubscribers, s.ID ≠ ID)) = true ∧
    (StartsCall d l → DSStateMachine.startOutcome l.env d.sm.world.mRetries ≠ .refused) ∧
    (StartsCall d l → d.sm.mStatePtr = .released →
      DSStateMachine.startOutcome l.env d.sm.world.mRetries = .stalled →
      0 < d.sm.world.timers ∨ queuedAfter d l ≠ []))
    (by
      simp only [Option.all_eq_true, decide_eq_true_eq, unsubscribes_eq_some]
      exact ⟨fun ⟨hr, hs, ht⟩ => ⟨hr, hs, ht⟩, fun h => ⟨h.release, h.start, h.timer⟩⟩)

/-- A busy servicer is asked again after a while, and then accepts. -/
theorem settled_iff_retried :
    ∃ h d, Run machine init h d ∧ d.sm.mStatePtr = .pending ∧ ∀ e ∈ h, Settled e := by
  obtain ⟨h, d, hrun, -, hcheck⟩ := machine.exists_run init
    [⟨.call (.requestSuplEs 1), ⟨.engineBusy, true⟩⟩, ⟨.delayCallback, ⟨.success, true⟩⟩,
      ⟨.retry, ⟨.success, true⟩⟩]
    (fun h d => decide ((∀ e ∈ h, LeavesNobody e.pre e.label) ∧ d.sm.mStatePtr = .pending))
    (by decide)
  obtain ⟨hok, hst⟩ := of_decide_eq_true hcheck
  exact ⟨h, d, hrun, hst, (settled_iff hrun).mp hok⟩

/-- A connection without a profile for emergency calls stays listed in released. -/
theorem not_settled_of_unsupported :
    ¬ ∀ (h : List (Event DsNif DsLabel DsOutput)) (d : DsNif), Run machine init h d →
      ∀ e ∈ h, Settled e := by
  intro hall
  obtain ⟨h, e, hrun, -, -, hcheck⟩ := machine.exists_run_last init []
    ⟨.call (.requestSuplEs 1), ⟨.unsupported, true⟩⟩
    (fun _ e => decide (e.post.sm.mStatePtr = .released ∧ ¬ e.post.RetryPending ∧
      e.post.sm.mSubscribers = [⟨1, false⟩])) (by decide)
  obtain ⟨hst, hno, hlist⟩ := of_decide_eq_true hcheck
  have hsettled := hall (h ++ [e]) e.post hrun e (List.mem_append_right _ List.mem_cons_self)
  have hnil := hsettled.empty hst hno
  rw [hlist] at hnil
  cases hnil

end DsNif

end OppoA37.Agps
