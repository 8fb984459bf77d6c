import OppoA37.Gps.Agps.BaseMachine

/-!
# Broadcasts

`notifySubscribers` with a notification that has no receiver. Every listed subscriber
is asked once, in the order of the list, and decides for itself; with
`postNotifyDelete` those that were told are unlinked on the way, one walk for each.

* `SearchLoop` — the `while` loop of the deleting branch as the source writes it, with
  no bound on its turns: it goes on for as long as a walk finds someone;
* `broadcast_told` — a status that clients are told: each subscriber the broadcast is
  meant for is told once, and those and no others are unlinked;
* `broadcast_untold` — any other status: the `default` branch of `notifyRsrcStatus`
  answers `false`, so nobody is told and nobody is unlinked.
-/

namespace OppoA37

variable {α : Type*} {W : Type*}

/-! ## The loop, turn by turn -/

/-- `while (NULL != s) { s = NULL; linked_list_search(.., &s, .., true); delete s; }`: what
the loop makes of a list and a world, if it ends. -/
inductive SearchLoop (equal : α → W → Bool × W) : List α → W → List α × W → Prop where
  /-- a walk finds nobody: `s` stays `NULL` -/
  | last {l : List α} {w : W} (hnone : (linkedListSearch equal true l w).dataP = none) :
      SearchLoop equal l w
        ((linkedListSearch equal true l w).list, (linkedListSearch equal true l w).world)
  /-- a walk finds someone, who is unlinked: one more turn -/
  | turn {l : List α} {w : W} {d : ℕ × α} {r : List α × W}
      (hsome : (linkedListSearch equal true l w).dataP = some d)
      (hrest : SearchLoop equal (linkedListSearch equal true l w).list
        (linkedListSearch equal true l w).world r) : SearchLoop equal l w r

namespace SearchLoop

variable {equal : α → W → Bool × W} {l : List α} {w : W} {r r' : List α × W}

/-- The loop has one outcome at most. -/
theorem unique (h : SearchLoop equal l w r) (h' : SearchLoop equal l w r') : r = r' := by
  induction h with
  | last hnone =>
    cases h' with
    | last _ => rfl
    | turn hsome _ =>
      rw [hnone] at hsome
      cases hsome
  | turn hsome _ ih =>
    cases h' with
    | last hnone =>
      rw [hnone] at hsome
      cases hsome
    | turn _ hrest => exact ih hrest

/-- The loop ends on every list: each turn but the last one unlinks a subscriber. -/
theorem searchAndDelete {p : α → Bool} (hp : ∀ a w, (equal a w).1 = p a) :
    ∀ (n : ℕ) (l : List α) (w : W), l.length < n →
      SearchLoop equal l w (OppoA37.searchAndDelete equal n l w) := by
  intro n
  induction n with
  | zero => intro l w hn; omega
  | succ n ih =>
    intro l w hn
    rw [OppoA37.searchAndDelete]
    rcases hd : (linkedListSearch equal true l w).dataP with _ | ⟨i, a⟩
    · exact SearchLoop.last hd
    · refine SearchLoop.turn hd (ih _ _ ?_)
      -- the walk found `a`, so the list it leaves is shorter
      obtain ⟨hi, ha⟩ := linkedListSearch_dataP_eq_some hp true l w hd
      have hlen := List.length_eraseP_of_mem (List.mem_of_getElem? hi) ha
      have hpos := List.length_pos_of_mem (List.mem_of_getElem? hi)
      rw [linkedListSearch_remove hp]
      omega

end SearchLoop

namespace Agps.AgpsStateMachine

variable {σ W : Type} [SubscriberOps σ]

/-! ## One broadcast -/

/-- `notifySubscriber`, the comparator: whoever is told matches, if the notification
says that it is to be deleted. -/
def notifySubscriber (vt : Virtuals σ W) (sm : AgpsStateMachine σ W) (n : Notification σ)
    (s1 : σ) (w : W) : Bool × W :=
  let r := notifyRsrcStatus (vt.inform sm) n s1 w
  (r.1 && n.postNotifyDelete, r.2)

/-- The deleting branch of `notifySubscribers` is what its loop makes of list and world. -/
theorem searchLoop_notifySubscribers (vt : Virtuals σ W) (sm : AgpsStateMachine σ W)
    {n : Notification σ} (hdel : n.postNotifyDelete = true) :
    SearchLoop (sm.notifySubscriber vt n) sm.mSubscribers sm.world
      ((sm.notifySubscribers vt n).mSubscribers, (sm.notifySubscribers vt n).world) := by
  have heq : sm.notifySubscribers vt n =
      let r := searchAndDelete (sm.notifySubscriber vt n) (sm.mSubscribers.length + 1)
        sm.mSubscribers sm.world
      { sm with mSubscribers := r.1, world := r.2 } := by
    unfold notifySubscribers
    rw [if_pos hdel]
    rfl
  rw [heq]
  exact SearchLoop.searchAndDelete
    (p := fun s => forMe n s && n.rsrcStatus.isTold && n.postNotifyDelete)
    (fun s w => by rw [notifySubscriber, notifyRsrcStatus_fst]) _ sm.mSubscribers sm.world
    (Nat.lt_succ_self _)

/-- A notification that is not told leaves the machine as it was. -/
theorem notifySubscribers_untold (vt : Virtuals σ W) (sm : AgpsStateMachine σ W)
    {n : Notification σ} (hquiet : n.rsrcStatus.isTold = false) :
    sm.notifySubscribers vt n = sm := by
  have hnotify (s : σ) (w : W) : notifyRsrcStatus (vt.inform sm) n s w = (false, w) := by
    simp [notifyRsrcStatus, hquiet]
  -- the walk asks everyone and nothing comes of it
  have hwalk (rm : Bool) (l : List σ) (w : W) :
      linkedListSearch (fun (_ : σ) (w : W) => (false, w)) rm l w = ⟨none, l, w⟩ := by
    induction l with
    | nil => rfl
    | cons s l ih => simp [linkedListSearch, ih]
  unfold notifySubscribers
  split
  · simp [hnotify, searchAndDelete, hwalk]
  · simp [hnotify, hwalk]

/-- What a broadcast with a status that clients are told leaves behind: everyone it is
meant for was told once, in the order of the list, and is gone if it says so. -/
structure BroadcastTold (vt : Virtuals σ W) (sm : AgpsStateMachine σ W) (n : Notification σ) :
    Prop where
  /-- the subscribers the broadcast is meant for, told one after the other -/
  told : (sm.notifySubscribers vt n).world = (sm.mSubscribers.filter (forMe n)).foldl
    (fun w s => vt.inform sm s n.rsrcStatus w) sm.world
  /-- with `postNotifyDelete` the others stay, in their order -/
  deleted : n.postNotifyDelete = true →
    (sm.notifySubscribers vt n).mSubscribers = sm.mSubscribers.filter fun s => !forMe n s
  /-- without it everyone stays -/
  kept : n.postNotifyDelete = false →
    (sm.notifySubscribers vt n).mSubscribers = sm.mSubscribers

/-- Telling a status to the subscribers it is meant for. -/
theorem broadcast_told (vt : Virtuals σ W) (sm : AgpsStateMachine σ W) {n : Notification σ}
    (htold : n.rsrcStatus.isTold = true) : BroadcastTold vt sm n where
  told := world_notifySubscribers vt sm n htold
  deleted hdel := mSubscribers_notifySubscribers_delete vt sm hdel htold
  kept hdel := mSubscribers_notifySubscribers_keep hdel

/-- **Broadcasts.** Whatever the list, the subscribers and the effect of telling them: the
deleting loop of a broadcast ends, with one outcome. A status that clients are told
reaches each subscriber the broadcast is meant for exactly once, and unlinks exactly
those if it says so. Any other status reaches nobody and unlinks nobody. -/
theorem broadcast (vt : Virtuals σ W) (sm : AgpsStateMachine σ W) (group : GroupID)
    (status : AgpsRsrcStatus) (deleteAfterwards : Bool) :
    let n : Notification σ := .broadcast group status deleteAfterwards
    (deleteAfterwards = true → ∀ r, SearchLoop (sm.notifySubscriber vt n) sm.mSubscribers sm.world
      r ↔ r = ((sm.notifySubscribers vt n).mSubscribers, (sm.notifySubscribers vt n).world)) ∧
    (status.isTold = true → BroadcastTold vt sm n) ∧
    (status.isTold = false → sm.notifySubscribers vt n = sm) := by
  refine ⟨fun hdel r => ?_, fun htold => broadcast_told vt sm htold,
    fun hquiet => notifySubscribers_untold vt sm hquiet⟩
  have hloop := searchLoop_notifySubscribers vt sm
    (n := .broadcast group status deleteAfterwards) hdel
  exact ⟨fun h => h.unique hloop, fun h => h ▸ hloop⟩

end Agps.AgpsStateMachine

namespace Agps.BaseMachine

/-- A broadcast to all with `RSRC_SUBSCRIBE`: it is meant for the one subscriber, which is
neither told nor deleted. -/
theorem broadcast_subscribe_kept : ¬ ∀ (sm : BaseMachine) (n : Notification Subscriber),
    n.rcver = none → n.postNotifyDelete = true →
      (sm.notifySubscribers virtuals n).mSubscribers =
        sm.mSubscribers.filter fun s => !forMe n s := by
  intro hall
  let s : Subscriber := ⟨7, Vector.replicate 16 0, .bitSubscriber⟩
  have h := hall { init 1 false with mSubscribers := [s], mStatePtr := .pending }
    (.broadcast .broadcastAll .rsrcSubscribe true) rfl rfl
  exact absurd h (by decide)

end Agps.BaseMachine

end OppoA37
