import OppoA37.Gps.Agps.StateMachine

/-!
# What a call does to the subscriber list

One lemma per function says what it leaves in the list, and `ListMove` what a whole
event does to it. From these follow two invariants, both about the pair (state, list)
only, whatever the virtual calls do to the world:

* `Distinct` — no two listed subscribers are equal;
* `StateMatches` — the list is what the state says it is: empty in released, with
  an active subscriber in pending and acquired, with an inactive one in releasing.

Both are relative to a predicate `Q` on subscribers, for machines that hold one
class only: `Distinct` needs equality symmetric on `Q`, `StateMatches` needs that
all of `Q` or none of it waits for its close. `StateMatches` also needs that a
request to start the NIF answers `0`; that is what a `DSStateMachine` does not
guarantee.
-/

namespace OppoA37.Agps

namespace AgpsStateMachine

variable {σ W : Type} [SubscriberOps σ] {vt : Virtuals σ W} {sm : AgpsStateMachine σ W}

/-! ## The list after each function -/

omit [SubscriberOps σ] in
@[simp] theorem mSubscribers_request (action : AGpsStatusValue) :
    (sm.request vt action).2.mSubscribers = sm.mSubscribers := rfl

/-- A notification that is told and deletes unlinks those it is for. -/
theorem mSubscribers_notifySubscribers_delete (vt : Virtuals σ W) (sm : AgpsStateMachine σ W)
    {n : Notification σ} (hdel : n.postNotifyDelete = true)
    (htold : n.rsrcStatus.isTold = true) :
    (sm.notifySubscribers vt n).mSubscribers = sm.mSubscribers.filter fun s => !forMe n s := by
  simp only [notifySubscribers, hdel, if_true]
  refine searchAndDelete_list (fun s w => ?_) _ _ _ (Nat.lt_succ_self _)
  rw [Bool.and_true, notifyRsrcStatus_fst, htold, Bool.and_true]

/-- A notification that does not delete leaves the list alone. -/
theorem mSubscribers_notifySubscribers_keep {n : Notification σ}
    (hdel : n.postNotifyDelete = false) :
    (sm.notifySubscribers vt n).mSubscribers = sm.mSubscribers := by
  simp only [notifySubscribers, hdel, Bool.false_eq_true, if_false]
  exact linkedListSearch_keep _ _

/-- A notification that has something to tell tells it to everyone it is for, in the
order of the list, whether it deletes them or not. -/
theorem world_notifySubscribers (vt : Virtuals σ W) (sm : AgpsStateMachine σ W)
    (n : Notification σ) (htold : n.rsrcStatus.isTold = true) :
    (sm.notifySubscribers vt n).world = (sm.mSubscribers.filter (forMe n)).foldl
      (fun w s => vt.inform sm s n.rsrcStatus w) sm.world := by
  have hnotify (s : σ) (w : W) : notifyRsrcStatus (vt.inform sm) n s w =
      (forMe n s, if forMe n s then vt.inform sm s n.rsrcStatus w else w) := by
    simp only [notifyRsrcStatus, htold, Bool.and_true]
    split <;> simp_all
  unfold notifySubscribers
  split
  · next hdel =>
    refine searchAndDelete_world (fun s w => vt.inform sm s n.rsrcStatus w)
      (fun s w => ?_) _ _ _ (Nat.lt_succ_self _)
    simp only [hnotify, hdel, Bool.and_true]
  · next hdel =>
    refine linkedListSearch_world_all (fun s w => vt.inform sm s n.rsrcStatus w)
      (fun s w => ?_) _ _ _
    simp only [hnotify, Bool.eq_false_iff.mpr hdel, Bool.and_false]

@[simp] theorem mStatePtr_notifySubscribers (n : Notification σ) :
    (sm.notifySubscribers vt n).mStatePtr = sm.mStatePtr := by
  unfold notifySubscribers
  split <;> rfl

/-- `addSubscriber` either finds an equal subscriber and adds nothing, or adds a clone
in front of the list. -/
theorem addSubscriber_cases (sm : AgpsStateMachine σ W) (s : σ) :
    (∃ t ∈ sm.mSubscribers, equals t s = true) ∧ sm.addSubscriber s = sm ∨
    (∀ t ∈ sm.mSubscribers, equals t s = false) ∧
      sm.addSubscriber s = { sm with mSubscribers := clone s :: sm.mSubscribers } := by
  rcases hs : search (.patternTo s) sm.mSubscribers with _ | ⟨i, t⟩
  · refine Or.inr ⟨?_, by simp [addSubscriber, hs, linkedListAdd]⟩
    simpa using search_eq_none.mp hs
  · obtain ⟨hi, ht⟩ := search_eq_some hs
    exact Or.inl ⟨⟨t, List.mem_of_getElem? hi, by simpa using ht⟩, by simp [addSubscriber, hs]⟩

@[simp] theorem mStatePtr_addSubscriber (s : σ) :
    (sm.addSubscriber s).mStatePtr = sm.mStatePtr := by
  rcases addSubscriber_cases sm s with ⟨-, h⟩ | ⟨-, h⟩ <;> rw [h]

/-- Whoever was listed still is after `addSubscriber`. -/
theorem mem_addSubscriber {s t : σ} (ht : t ∈ sm.mSubscribers) :
    t ∈ (sm.addSubscriber s).mSubscribers := by
  rcases addSubscriber_cases sm s with ⟨-, h⟩ | ⟨-, h⟩
  · rwa [h]
  · rw [h]
    exact List.mem_cons_of_mem _ ht

/-- What was told before does not matter to `addSubscriber`. -/
@[simp] theorem mSubscribers_addSubscriber_world (w : W) (s : σ) :
    ({ sm with world := w }.addSubscriber s).mSubscribers = (sm.addSubscriber s).mSubscribers := by
  rcases hs : search (.patternTo s) sm.mSubscribers with _ | _ <;> simp [addSubscriber, hs]

/-- A grant to the active subscribers leaves the list alone. -/
@[simp] theorem mSubscribers_notifySubscribers_granted :
    (sm.notifySubscribers vt (.broadcast .broadcastActive .rsrcGranted false)).mSubscribers =
      sm.mSubscribers :=
  mSubscribers_notifySubscribers_keep rfl

/-- A deleting broadcast to all empties the list. -/
theorem mSubscribers_notifySubscribers_all {status : AgpsRsrcStatus}
    (htold : status.isTold = true) :
    (sm.notifySubscribers vt (.broadcast .broadcastAll status true)).mSubscribers = [] := by
  rw [mSubscribers_notifySubscribers_delete vt sm rfl htold]
  simp

/-- A deleting broadcast to the inactive keeps the active subscribers. -/
theorem mSubscribers_notifySubscribers_inactive {status : AgpsRsrcStatus}
    (htold : status.isTold = true) :
    (sm.notifySubscribers vt (.broadcast .broadcastInactive status true)).mSubscribers =
      sm.mSubscribers.filter fun s => !isInactive s := by
  rw [mSubscribers_notifySubscribers_delete vt sm rfl htold]
  simp

/-- In an empty list the clone is the only subscriber afterwards. -/
theorem mSubscribers_addSubscriber_nil {s : σ} (hnil : sm.mSubscribers = []) :
    (sm.addSubscriber s).mSubscribers = [clone s] := by
  rcases addSubscriber_cases sm s with ⟨⟨t, ht, -⟩, -⟩ | ⟨-, h⟩
  · rw [hnil] at ht
    cases ht
  · rw [h, hnil]

/-- `closeSubscriber` marks the listed subscriber or unlinks it with its equals. -/
theorem closeSubscriber_cases (vt : Virtuals σ W) (sm : AgpsStateMachine σ W) (position : ℕ) :
    (sm.closeSubscriber vt position).mSubscribers = sm.mSubscribers ∨
    ∃ s, sm.mSubscribers[position]? = some s ∧
      (waitForCloseComplete s = true ∧
        (sm.closeSubscriber vt position).mSubscribers =
          sm.mSubscribers.set position (setInactive s) ∨
      waitForCloseComplete s = false ∧
        (sm.closeSubscriber vt position).mSubscribers =
          sm.mSubscribers.filter fun t => !equals t s) := by
  unfold closeSubscriber
  rcases hs : sm.mSubscribers[position]? with _ | s
  · exact Or.inl rfl
  · refine Or.inr ⟨s, rfl, ?_⟩
    by_cases hw : waitForCloseComplete s = true
    · exact Or.inl ⟨hw, by simp [hw]⟩
    · rw [Bool.not_eq_true] at hw
      refine Or.inr ⟨hw, ?_⟩
      simp only [hw, Bool.false_eq_true, if_false]
      rw [mSubscribers_notifySubscribers_delete vt sm rfl rfl]
      simp

/-- `releaseIfUnused` never touches the list. -/
@[simp] theorem mSubscribers_releaseIfUnused (this : AgpsState) :
    (sm.releaseIfUnused vt this).2.mSubscribers = sm.mSubscribers := by
  unfold releaseIfUnused
  split
  · rfl
  · split <;> rfl

/-- The close of the releasing state keeps exactly the active subscribers. -/
theorem mSubscribers_closeComplete {event : AgpsRsrcStatus} (htold : event.isTold = true) :
    (sm.closeComplete vt event).2.mSubscribers =
      sm.mSubscribers.filter fun s => !isInactive s := by
  unfold closeComplete
  simp only
  split
  · rw [mSubscribers_request, mSubscribers_notifySubscribers_inactive htold]
  · exact mSubscribers_notifySubscribers_inactive htold

/-! ## The frame: what no event touches -/

omit [SubscriberOps σ] in
@[simp] theorem mEnforceSingleSubscriber_request (action : AGpsStatusValue) :
    (sm.request vt action).2.mEnforceSingleSubscriber = sm.mEnforceSingleSubscriber := rfl

@[simp] theorem mEnforceSingleSubscriber_notifySubscribers (n : Notification σ) :
    (sm.notifySubscribers vt n).mEnforceSingleSubscriber = sm.mEnforceSingleSubscriber := by
  unfold notifySubscribers
  split <;> rfl

@[simp] theorem mEnforceSingleSubscriber_addSubscriber (s : σ) :
    (sm.addSubscriber s).mEnforceSingleSubscriber = sm.mEnforceSingleSubscriber := by
  rcases addSubscriber_cases sm s with ⟨-, h⟩ | ⟨-, h⟩ <;> rw [h]

@[simp] theorem mEnforceSingleSubscriber_closeSubscriber (position : ℕ) :
    (sm.closeSubscriber vt position).mEnforceSingleSubscriber = sm.mEnforceSingleSubscriber := by
  unfold closeSubscriber
  rcases sm.mSubscribers[position]? with _ | s
  · rfl
  · by_cases hw : waitForCloseComplete s = true
    · simp [hw]
    · simp [hw]

@[simp] theorem mEnforceSingleSubscriber_releaseIfUnused (this : AgpsState) :
    (sm.releaseIfUnused vt this).2.mEnforceSingleSubscriber = sm.mEnforceSingleSubscriber := by
  unfold releaseIfUnused
  split
  · rfl
  · split <;> rfl

@[simp] theorem mEnforceSingleSubscriber_closeComplete (event : AgpsRsrcStatus) :
    (sm.closeComplete vt event).2.mEnforceSingleSubscriber = sm.mEnforceSingleSubscriber := by
  simp only [closeComplete]
  split <;> simp

theorem mEnforceSingleSubscriber_dispatch (event : RsrcEvent σ) :
    (sm.dispatch vt event).mEnforceSingleSubscriber = sm.mEnforceSingleSubscriber := by
  unfold dispatch
  rcases sm.mStatePtr with _ | _ | _ | _
  · cases event with
    | rsrcUnsubscribe position =>
      simp only [releasedOnRsrcEvent]
      split <;> rfl
    | rsrcSubscribe | rsrcGranted | rsrcReleased | rsrcDenied => simp [releasedOnRsrcEvent]
  · cases event <;> simp [pendingOnRsrcEvent]
  · cases event <;> simp [acquiredOnRsrcEvent]
  · cases event <;> simp [releasingOnRsrcEvent]

theorem mEnforceSingleSubscriber_subscribeRsrc (s : σ) :
    (sm.subscribeRsrc vt s).mEnforceSingleSubscriber = sm.mEnforceSingleSubscriber := by
  simp only [subscribeRsrc]
  split
  · rfl
  · exact mEnforceSingleSubscriber_dispatch _

theorem mEnforceSingleSubscriber_unsubscribeRsrc (s : σ) :
    (sm.unsubscribeRsrc vt s).2.mEnforceSingleSubscriber = sm.mEnforceSingleSubscriber := by
  simp only [unsubscribeRsrc]
  split
  · exact mEnforceSingleSubscriber_dispatch _
  · rfl

/-! ## What an event does to the list -/

/-- The list before an event of a state object, the event, and the list after it. -/
inductive ListMove (l : List σ) : RsrcEvent σ → List σ → Prop where
  /-- nobody comes or goes -/
  | keep {event : RsrcEvent σ} : ListMove l event l
  /-- a clone of the new subscriber is listed first -/
  | add {s : σ} (hno : ∀ t ∈ l, equals t s = false) : ListMove l (.rsrcSubscribe s) (clone s :: l)
  /-- the subscriber waits for its close -/
  | mark {position : ℕ} {s : σ} (hpos : l[position]? = some s) :
      ListMove l (.rsrcUnsubscribe position) (l.set position (setInactive s))
  /-- those that were told for the last time are gone -/
  | remove {event : RsrcEvent σ} (p : σ → Bool) : ListMove l event (l.filter p)

theorem addSubscriber_listMove (sm : AgpsStateMachine σ W) (s : σ) :
    ListMove sm.mSubscribers (.rsrcSubscribe s) (sm.addSubscriber s).mSubscribers := by
  rcases addSubscriber_cases sm s with ⟨-, he⟩ | ⟨hno, he⟩
  · rw [he]
    exact ListMove.keep
  · rw [he]
    exact ListMove.add hno

theorem closeSubscriber_listMove (vt : Virtuals σ W) (sm : AgpsStateMachine σ W)
    (position : ℕ) : ListMove sm.mSubscribers (.rsrcUnsubscribe position)
      (sm.closeSubscriber vt position).mSubscribers := by
  rcases closeSubscriber_cases vt sm position with he | ⟨s, hpos, ⟨-, he⟩ | ⟨-, he⟩⟩ <;> rw [he]
  · exact ListMove.keep
  · exact ListMove.mark hpos
  · exact ListMove.remove _

/-- Every event makes one move on the list. -/
theorem dispatch_listMove (vt : Virtuals σ W) (sm : AgpsStateMachine σ W) (event : RsrcEvent σ) :
    ListMove sm.mSubscribers event (sm.dispatch vt event).mSubscribers := by
  have hall (status : AgpsRsrcStatus) (htold : status.isTold = true) : ListMove sm.mSubscribers
      event (sm.notifySubscribers vt (.broadcast .broadcastAll status true)).mSubscribers := by
    rw [mSubscribers_notifySubscribers_delete vt sm rfl htold]
    exact ListMove.remove _
  have hclose (status : AgpsRsrcStatus) (htold : status.isTold = true) :
      ListMove sm.mSubscribers event (sm.closeComplete vt status).2.mSubscribers := by
    rw [mSubscribers_closeComplete htold]
    exact ListMove.remove _
  unfold dispatch
  rcases sm.mStatePtr with _ | _ | _ | _
  · -- released
    cases event with
    | rsrcSubscribe s => exact addSubscriber_listMove sm s
    | rsrcUnsubscribe position =>
      simp only [releasedOnRsrcEvent]
      split <;> exact ListMove.keep
    | rsrcGranted | rsrcReleased | rsrcDenied => exact ListMove.keep
  · -- pending
    cases event with
    | rsrcSubscribe s => exact addSubscriber_listMove sm s
    | rsrcUnsubscribe position =>
      simpa [pendingOnRsrcEvent] using closeSubscriber_listMove vt sm position
    | rsrcGranted =>
      simpa [pendingOnRsrcEvent] using ListMove.keep
    | rsrcReleased => exact ListMove.keep
    | rsrcDenied => exact hall _ rfl
  · -- acquired: the subscriber is told before it is added
    cases event with
    | rsrcSubscribe s =>
      simpa [acquiredOnRsrcEvent] using addSubscriber_listMove sm s
    | rsrcUnsubscribe position =>
      simpa [acquiredOnRsrcEvent] using closeSubscriber_listMove vt sm position
    | rsrcGranted | rsrcDenied => exact ListMove.keep
    | rsrcReleased => exact hall _ rfl
  · -- releasing
    cases event with
    | rsrcSubscribe s => exact addSubscriber_listMove sm s
    | rsrcUnsubscribe position => exact closeSubscriber_listMove vt sm position
    | rsrcGranted => exact ListMove.keep
    | rsrcReleased | rsrcDenied => exact hclose _ rfl

end AgpsStateMachine

/-! ## No two listed subscribers are equal -/

section Distinct

variable {σ W : Type} [SubscriberOps σ]

/-- No two subscribers of the list are equal, in either order. -/
def Distinct (l : List σ) : Prop :=
  l.Pairwise fun a b => equals a b = false ∧ equals b a = false

/-- All listed subscribers are of the kind `Q`, and no two are equal. -/
structure DistinctOf (Q : σ → Prop) (l : List σ) : Prop where
  /-- all of one kind -/
  all : ∀ s ∈ l, Q s
  /-- no two equal -/
  distinct : Distinct l

variable {Q : σ → Prop} {event : RsrcEvent σ} {l l' : List σ}

theorem DistinctOf.nil : DistinctOf Q ([] : List σ) :=
  ⟨fun _ hs => absurd hs List.not_mem_nil, List.Pairwise.nil⟩

/-- A move keeps all subscribers of one kind, if clones and closing subscribers are. -/
theorem AgpsStateMachine.ListMove.forall (hmove : ListMove l event l')
    (hclone : ∀ s, Q s → Q (clone s)) (hset : ∀ s, Q s → Q (setInactive s))
    (hevent : ∀ s, event = .rsrcSubscribe s → Q s) (hall : ∀ s ∈ l, Q s) : ∀ s ∈ l', Q s := by
  intro t ht
  cases hmove with
  | keep => exact hall t ht
  | @add s hno =>
    rcases List.mem_cons.mp ht with rfl | ht
    · exact hclone s (hevent s rfl)
    · exact hall t ht
  | @mark position s hpos =>
    rcases List.mem_or_eq_of_mem_set ht with ht | rfl
    · exact hall t ht
    · exact hset s (hall s (List.mem_of_getElem? hpos))
  | remove p => exact hall t (List.mem_of_mem_filter ht)

variable [LawfulSubscriber σ]

/-- Marking a subscriber inactive changes no identity. -/
theorem Distinct.set {l : List σ} (h : Distinct l) {i : ℕ} {s : σ} (hi : l[i]? = some s) :
    Distinct (l.set i (setInactive s)) := by
  induction l generalizing i with
  | nil => simpa using h
  | cons a rest ih =>
    obtain ⟨ha, hrest⟩ := List.pairwise_cons.mp h
    cases i with
    | zero =>
      obtain rfl : a = s := by simpa using hi
      refine List.pairwise_cons.mpr ⟨fun b hb => ?_, hrest⟩
      simpa using ha b hb
    | succ i =>
      have hi' : rest[i]? = some s := by simpa using hi
      refine List.pairwise_cons.mpr ⟨fun b hb => ?_, ih hrest hi'⟩
      rcases List.mem_or_eq_of_mem_set hb with hb | rfl
      · exact ha b hb
      · simpa using ha s (List.mem_of_getElem? hi')

/-- A move keeps the list distinct, if equality is symmetric on the kind. -/
theorem DistinctOf.move (h : DistinctOf Q l) (hmove : AgpsStateMachine.ListMove l event l')
    (hclone : ∀ s, Q s → Q (clone s)) (hset : ∀ s, Q s → Q (setInactive s))
    (hcomm : ∀ a b, Q a → Q b → equals a b = equals b a)
    (hevent : ∀ s, event = .rsrcSubscribe s → Q s) : DistinctOf Q l' := by
  refine ⟨hmove.forall hclone hset hevent h.all, ?_⟩
  cases hmove with
  | keep => exact h.distinct
  | @add s hno =>
    refine List.pairwise_cons.mpr ⟨fun t ht => ?_, h.distinct⟩
    have hts := hno t ht
    simp [hts, hcomm s t (hevent s rfl) (h.all t ht)]
  | mark hpos => exact h.distinct.set hpos
  | remove p => exact h.distinct.filter p

end Distinct

/-! ## The list is what the state says -/

section StateMatches

variable {σ W : Type} [SubscriberOps σ]

/-- What each state says about the subscriber list. -/
def StateMatches : AgpsState → List σ → Prop
  | .released, l => l = []
  | .pending, l | .acquired, l => ∃ s ∈ l, isInactive s = false
  | .releasing, l => ∃ s ∈ l, isInactive s = true

variable {vt : Virtuals σ W} {sm : AgpsStateMachine σ W}

/-- After `releaseIfUnused` the state matches, whatever it was given: it looks at the
list to choose the state. -/
theorem StateMatches.releaseIfUnused (vt : Virtuals σ W) (sm : AgpsStateMachine σ W)
    {this : AgpsState} (hthis : this = .pending ∨ this = .acquired) :
    StateMatches (sm.releaseIfUnused vt this).1 sm.mSubscribers := by
  unfold AgpsStateMachine.releaseIfUnused
  by_cases hsubs : sm.hasSubscribers = true
  · simp only [hsubs, Bool.not_true, Bool.false_eq_true, if_false]
    by_cases hactive : sm.hasActiveSubscribers = true
    · simp only [hactive, Bool.not_true, Bool.false_eq_true, if_false]
      have hex := AgpsStateMachine.hasActiveSubscribers_iff.mp hactive
      rcases hthis with rfl | rfl <;> exact hex
    · -- someone is listed and nobody is active
      simp only [hactive, Bool.not_false, if_true]
      obtain ⟨s, hs⟩ := List.exists_mem_of_ne_nil _ (AgpsStateMachine.hasSubscribers_iff.mp hsubs)
      refine ⟨s, hs, Bool.of_not_eq_false fun hact => hactive ?_⟩
      exact AgpsStateMachine.hasActiveSubscribers_iff.mpr ⟨s, hs, hact⟩
  · simp only [hsubs, Bool.not_false, if_true]
    exact not_not.mp fun hne => hsubs (AgpsStateMachine.hasSubscribers_iff.mpr hne)

/-- After the close of the releasing state the state matches. -/
theorem StateMatches.closeComplete {event : AgpsRsrcStatus} (htold : event.isTold = true) :
    StateMatches (sm.closeComplete vt event).1 (sm.closeComplete vt event).2.mSubscribers := by
  unfold AgpsStateMachine.closeComplete
  simp only
  split
  · next hactive => exact AgpsStateMachine.hasActiveSubscribers_iff.mp hactive
  · next hactive =>
    -- only active ones were kept, and there are none
    rw [AgpsStateMachine.hasActiveSubscribers_iff] at hactive
    refine List.eq_nil_iff_forall_not_mem.mpr fun s hs => hactive ⟨s, hs, ?_⟩
    rw [AgpsStateMachine.mSubscribers_notifySubscribers_inactive htold] at hs
    simpa using List.of_mem_filter hs

variable [LawfulSubscriber σ] {Q : σ → Prop}

/-- Marking or unlinking a subscriber leaves an inactive one, if there was one. -/
theorem exists_inactive_closeSubscriber
    (hwait : ∀ a b, Q a → Q b → waitForCloseComplete a = waitForCloseComplete b)
    (hall : ∀ s ∈ sm.mSubscribers, Q s) (position : ℕ)
    (h : ∃ s ∈ sm.mSubscribers, isInactive s = true) :
    ∃ s ∈ (sm.closeSubscriber vt position).mSubscribers, isInactive s = true := by
  rcases AgpsStateMachine.closeSubscriber_cases vt sm position with
    he | ⟨s, hpos, ⟨hw, he⟩ | ⟨hw, -⟩⟩
  · rwa [he]
  · rw [he]
    refine ⟨setInactive s, ?_, LawfulSubscriber.isInactive_setInactive s hw⟩
    obtain ⟨hlt, -⟩ := List.getElem?_eq_some_iff.mp hpos
    exact List.mem_set hlt _
  · -- nobody waits for a close, so nobody is inactive
    obtain ⟨t, ht, hinactive⟩ := h
    have hwt := LawfulSubscriber.waits_of_isInactive t hinactive
    rw [hwait t s (hall t ht) (hall s (List.mem_of_getElem? hpos)), hw] at hwt
    cases hwt

/-- Every event of a state object keeps the state matching, if starting the NIF
answers `0`. -/
theorem StateMatches.dispatch
    (hwait : ∀ a b, Q a → Q b → waitForCloseComplete a = waitForCloseComplete b)
    (hall : ∀ s ∈ sm.mSubscribers, Q s) {event : RsrcEvent σ}
    (hstart : ∀ sm, (vt.sendRsrcRequest sm .gpsRequestAgpsDataConn).1 = 0)
    (h : StateMatches sm.mStatePtr sm.mSubscribers) :
    StateMatches (sm.dispatch vt event).mStatePtr (sm.dispatch vt event).mSubscribers := by
  unfold AgpsStateMachine.dispatch
  rcases hst : sm.mStatePtr with _ | _ | _ | _ <;> rw [hst] at h
  · -- released: the list is empty, so the clone is the only subscriber
    cases event with
    | rsrcSubscribe s =>
      simp only [AgpsStateMachine.releasedOnRsrcEvent, AgpsStateMachine.request, hstart, if_true]
      refine ⟨clone s, ?_, LawfulSubscriber.isInactive_clone s⟩
      rw [AgpsStateMachine.mSubscribers_addSubscriber_nil h]
      exact List.mem_singleton_self _
    | rsrcUnsubscribe position =>
      simp only [AgpsStateMachine.releasedOnRsrcEvent]
      split <;> exact h
    | rsrcGranted | rsrcReleased | rsrcDenied => exact h
  · -- pending
    cases event with
    | rsrcSubscribe s =>
      obtain ⟨t, ht, hact⟩ := h
      exact ⟨t, AgpsStateMachine.mem_addSubscriber ht, hact⟩
    | rsrcUnsubscribe position =>
      have hm := StateMatches.releaseIfUnused vt (sm.closeSubscriber vt position) (Or.inl rfl)
      simpa [AgpsStateMachine.pendingOnRsrcEvent] using hm
    | rsrcGranted =>
      simpa [AgpsStateMachine.pendingOnRsrcEvent, StateMatches] using h
    | rsrcReleased => exact h
    | rsrcDenied => exact AgpsStateMachine.mSubscribers_notifySubscribers_all rfl
  · -- acquired
    cases event with
    | rsrcSubscribe s =>
      obtain ⟨t, ht, hact⟩ := h
      have ht' := AgpsStateMachine.mem_addSubscriber (s := s) ht
      exact ⟨t, by simpa [AgpsStateMachine.acquiredOnRsrcEvent] using ht', hact⟩
    | rsrcUnsubscribe position =>
      have hm := StateMatches.releaseIfUnused vt (sm.closeSubscriber vt position) (Or.inr rfl)
      simpa [AgpsStateMachine.acquiredOnRsrcEvent] using hm
    | rsrcGranted | rsrcDenied => exact h
    | rsrcReleased => exact AgpsStateMachine.mSubscribers_notifySubscribers_all rfl
  · -- releasing
    cases event with
    | rsrcSubscribe s =>
      obtain ⟨t, ht, hinact⟩ := h
      exact ⟨t, AgpsStateMachine.mem_addSubscriber ht, hinact⟩
    | rsrcUnsubscribe position =>
      have hex : ∃ s ∈ (sm.closeSubscriber vt position).mSubscribers, isInactive s = true :=
        exists_inactive_closeSubscriber hwait hall position h
      have hsubs : (sm.closeSubscriber vt position).hasSubscribers = true := by
        obtain ⟨t, ht, -⟩ := hex
        exact AgpsStateMachine.hasSubscribers_iff.mpr (List.ne_nil_of_mem ht)
      simpa [AgpsStateMachine.releasingOnRsrcEvent, hsubs, StateMatches] using hex
    | rsrcGranted => exact h
    | rsrcReleased | rsrcDenied => exact StateMatches.closeComplete rfl

/-- What remains of it when subscribers of several classes share a machine. -/
def ReleasedEmpty (sm : AgpsStateMachine σ W) : Prop :=
  sm.mStatePtr = .released → sm.mSubscribers = []

omit [LawfulSubscriber σ] in
/-- Every event keeps the list empty in released, if starting the NIF answers `0`. -/
theorem ReleasedEmpty.dispatch {event : RsrcEvent σ}
    (hstart : ∀ sm, (vt.sendRsrcRequest sm .gpsRequestAgpsDataConn).1 = 0)
    (h : ReleasedEmpty sm) : ReleasedEmpty (sm.dispatch vt event) := by
  have hmatches {st : AgpsState} {l : List σ} (hm : StateMatches st l) :
      st = .released → l = [] := by
    rintro rfl
    exact hm
  unfold AgpsStateMachine.dispatch
  rcases hst : sm.mStatePtr with _ | _ | _ | _
  · -- released
    have hnil := h hst
    cases event with
    | rsrcSubscribe s =>
      simp [AgpsStateMachine.releasedOnRsrcEvent, AgpsStateMachine.request, hstart, ReleasedEmpty]
    | rsrcUnsubscribe position =>
      simp only [AgpsStateMachine.releasedOnRsrcEvent]
      split <;> exact fun _ => hnil
    | rsrcGranted | rsrcReleased | rsrcDenied => exact fun _ => hnil
  · -- pending
    cases event with
    | rsrcSubscribe s => exact nofun
    | rsrcUnsubscribe position =>
      have hm := StateMatches.releaseIfUnused vt (sm.closeSubscriber vt position) (Or.inl rfl)
      exact hmatches (by simpa [AgpsStateMachine.pendingOnRsrcEvent] using hm)
    | rsrcGranted | rsrcReleased => exact nofun
    | rsrcDenied => exact fun _ => AgpsStateMachine.mSubscribers_notifySubscribers_all rfl
  · -- acquired
    cases event with
    | rsrcSubscribe s => exact nofun
    | rsrcUnsubscribe position =>
      have hm := StateMatches.releaseIfUnused vt (sm.closeSubscriber vt position) (Or.inr rfl)
      exact hmatches (by simpa [AgpsStateMachine.acquiredOnRsrcEvent] using hm)
    | rsrcGranted | rsrcDenied => exact nofun
    | rsrcReleased => exact fun _ => AgpsStateMachine.mSubscribers_notifySubscribers_all rfl
  · -- releasing
    cases event with
    | rsrcSubscribe s => exact nofun
    | rsrcUnsubscribe position =>
      intro hreleased
      by_cases hsubs : (sm.closeSubscriber vt position).hasSubscribers = true
      · simp [AgpsStateMachine.releasingOnRsrcEvent, hsubs] at hreleased
      · exact not_not.mp fun hne => hsubs (AgpsStateMachine.hasSubscribers_iff.mpr hne)
    | rsrcGranted => exact nofun
    | rsrcReleased | rsrcDenied => exact hmatches (StateMatches.closeComplete rfl)

end StateMatches

end OppoA37.Agps
