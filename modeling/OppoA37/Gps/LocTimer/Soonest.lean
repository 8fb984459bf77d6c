import OppoA37.Gps.LocTimer.Due

/-!
# Is the `timerfd` armed for the earliest deadline?

A container arms its `timerfd` when the top of its heap seems to change. The heap is ordered by
seconds only, so its top need not be the earliest delegate of its second; and `updateSoonestTime`
does nothing when it is called with `NULL` for an empty heap, so the `timerfd` stays armed when
the last delegate is removed or popped. `soonest_run` says that nothing else goes wrong. From when
the poll thread has disarmed the `timerfd` until its message was processed, an expiry is under
way, and it is for the message to arm it again.
-/

namespace OppoA37.LocTimer

open Lts LocHeap

/-! ## Containers -/

namespace LocTimerContainer

variable {c : LocTimerContainer} {timer top : LocTimerDelegate}

/-- The `timerfd` is in the poll, and armed for a time that is no later than the top. -/
structure Armed (c : LocTimerContainer) : Prop where
  /-- it is in the poll -/
  polled : c.polled = true
  /-- it is armed in time -/
  time : ∃ t, c.mDevFd = some t ∧ ∀ top, c.getSoonestTimer = some top → t ≤ top.mFutureTime

/-- A `timerfd` that is set for the top. -/
theorem armed_settime (htop : c.getSoonestTimer = some top)
    (hpos : 0 < top.mFutureTime.nanos) : (c.addPoll.settime top.mFutureTime).Armed where
  polled := rfl
  time := by
    have hne : ¬ (top.mFutureTime.tvSec = 0 ∧ top.mFutureTime.tvNsec = 0) := by
      rintro ⟨hsec, hnsec⟩
      rw [Timespec.nanos, hsec, hnsec] at hpos
      simp at hpos
    refine ⟨top.mFutureTime, if_neg hne, fun top' htop' => ?_⟩
    have htop'' : c.getSoonestTimer = some top' := htop'
    obtain rfl := Option.some.inj (htop.symm.trans htop'')
    exact Timespec.le_refl _

/-- An update that is told of no prior top arms the `timerfd`, unless the heap is empty. -/
theorem armed_updateSoonestTime (htop : c.getSoonestTimer = some top)
    (hpos : 0 < top.mFutureTime.nanos) : (c.updateSoonestTime none).Armed := by
  have hupdate : c.updateSoonestTime none = c.addPoll.settime top.mFutureTime := by
    simp [updateSoonestTime, htop]
  rw [hupdate]
  exact armed_settime htop hpos

/-- For an empty heap it does nothing. -/
theorem updateSoonestTime_of_empty (htop : c.getSoonestTimer = none) :
    c.updateSoonestTime none = c := by
  simp [updateSoonestTime, htop]

/-- A push keeps the `timerfd` armed. -/
theorem armed_procPush (h : ∀ top, c.getSoonestTimer = some top → c.Armed)
    (hpos : 0 < timer.mFutureTime.nanos) : (c.procPush timer).Armed := by
  have hpush : (c.mTree.push ranking timer).mData = some (c.getSoonestTimer.elim timer fun top =>
      if ranking.outRanks timer top then timer else top) := LocHeapNode.mData_push c.mTree timer
  cases htop : c.getSoonestTimer with
  | none =>
    rw [htop] at hpush
    rw [procPush, htop]
    exact armed_updateSoonestTime hpush hpos
  | some top =>
    obtain ⟨hpolled, t, ht, hle⟩ := h top htop
    rw [htop, Option.elim_some] at hpush
    by_cases hrank : ranking.outRanks timer top = true
    · -- a new top
      have hnew : (c.mTree.push ranking timer).mData = some timer := by
        rw [hpush, if_pos hrank]
      have hne : timer ≠ top := by
        rintro rfl
        rw [LocRankable.outRanks_self] at hrank
        cases hrank
      have hset : c.procPush timer = ({ c with
          mTree := c.mTree.push ranking timer } : LocTimerContainer).addPoll.settime
            timer.mFutureTime := by
        simp [procPush, updateSoonestTime, getSoonestTimer, hnew, hrank, hne,
          show c.mTree.mData = some top from htop]
      rw [hset]
      exact armed_settime hnew hpos
    · -- the old one
      have hold : (c.mTree.push ranking timer).mData = some top := by
        rw [hpush, if_neg hrank]
      have hsame : c.procPush timer = { c with mTree := c.mTree.push ranking timer } := by
        simp [procPush, updateSoonestTime, getSoonestTimer, hold,
          show c.mTree.mData = some top from htop]
      rw [hsame]
      refine ⟨hpolled, t, ht, fun top' htop' => ?_⟩
      have htop'' : (c.mTree.push ranking timer).mData = some top' := htop'
      exact hle top' (htop.trans (hold.symm.trans htop''))

/-- A removal, by what it finds: nothing, the top, or another delegate, and then the top stays. -/
inductive Removal (c : LocTimerContainer) (timer : LocTimerDelegate) :
    LocTimerContainer → Prop where
  | nothing (hno : timer ∉ c.mTree.stored) : Removal c timer c
  | top (mTree : LocHeapNode LocTimerDelegate) (hstored : timer ::ₘ mTree.stored = c.mTree.stored)
    (hempty : mTree.mData = none → mTree.stored = 0) :
    Removal c timer ({ c with mTree := mTree }.updateSoonestTime none)
  | other (mTree : LocHeapNode LocTimerDelegate) (hstored : timer ::ₘ mTree.stored = c.mTree.stored)
    (top : LocTimerDelegate) (htop : c.getSoonestTimer = some top)
    (htop' : mTree.mData = some top) :
    Removal c timer { c with mTree := mTree }

/-- A heap without a top is empty. -/
theorem stored_of_top_none {t : LocHeapNode LocTimerDelegate} (h : t.mData = none) :
    t.stored = 0 := by
  cases t with
  | null => rfl
  | node => cases h

theorem procRemove_removal (hc : c.mTree.checkNodes ranking = true) (timer : LocTimerDelegate) :
    Removal c timer (c.procRemove timer).2 := by
  rcases LocHeapNode.remove_spec hc timer with ⟨hfst, hstored, -⟩ | ⟨hno, heq⟩
  · by_cases htop : c.getSoonestTimer = some timer
    · have hpair : (c.procRemove timer).2 =
          { c with mTree := (c.mTree.remove ranking timer).2 }.updateSoonestTime none := by
        rw [procRemove, hfst]
        exact if_pos htop
      rw [hpair]
      exact .top _ hstored stored_of_top_none
    · have hpair : (c.procRemove timer).2 =
          { c with mTree := (c.mTree.remove ranking timer).2 } := by
        rw [procRemove, hfst]
        exact if_neg htop
      rw [hpair]
      cases hd : c.getSoonestTimer with
      | none =>
        rw [stored_of_top_none hd] at hstored
        exact absurd hstored (Multiset.cons_ne_zero)
      | some top =>
        refine .other _ hstored top hd (LocHeapNode.mData_remove hd ?_)
        rintro rfl
        exact htop hd
  · have hpair : (c.procRemove timer).2 = c := by
      rw [procRemove, heq]
      dsimp only
      split
      · next htop => exact updateSoonestTime_of_empty htop
      · rfl
    rw [hpair]
    exact .nothing hno

/-- A removal keeps the `timerfd` armed, unless the heap is empty afterwards. -/
theorem Removal.armed {c' : LocTimerContainer} (h : Removal c timer c')
    (hpos : ∀ x ∈ c.mTree.stored, 0 < x.mFutureTime.nanos)
    (harmed : ∀ top, c.getSoonestTimer = some top → c.Armed) {top : LocTimerDelegate}
    (htop : c'.getSoonestTimer = some top) : c'.Armed := by
  cases h with
  | nothing hno => exact harmed top htop
  | top mTree hstored hempty =>
    have htop' : ({ c with mTree := mTree } : LocTimerContainer).getSoonestTimer = some top := by
      rw [← htop, getSoonestTimer, getSoonestTimer, mTree_updateSoonestTime]
    refine armed_updateSoonestTime htop' (hpos top ?_)
    rw [← hstored]
    exact Multiset.mem_cons_of_mem (LocHeapNode.mem_stored htop')
  | other mTree hstored top' htop₁ htop₂ =>
    obtain ⟨hpolled, t, ht, hle⟩ := harmed top' htop₁
    refine ⟨hpolled, t, ht, fun top₃ htop₃ => hle top₃ ?_⟩
    exact htop₁.trans (htop₂.symm.trans htop₃)

/-- And leaves it disarmed for an empty heap, if it was. -/
theorem Removal.empty {c' : LocTimerContainer} (h : Removal c timer c')
    (hempty : c.getSoonestTimer = none → c.mDevFd = none)
    (hlast : c.mTree.stored = {timer} → c.mDevFd = none)
    (htop : c'.getSoonestTimer = none) : c'.mDevFd = none := by
  cases h with
  | nothing hno => exact hempty htop
  | top mTree hstored hzero =>
    have htop' : ({ c with mTree := mTree } : LocTimerContainer).getSoonestTimer = none := by
      rw [← htop, getSoonestTimer, getSoonestTimer, mTree_updateSoonestTime]
    rw [updateSoonestTime_of_empty htop']
    apply hlast
    rw [← hstored, hzero htop']
    rfl
  | other mTree hstored top' htop₁ htop₂ =>
    have hnone : mTree.mData = none := htop
    rw [htop₂] at hnone
    cases hnone

/-- What a removal leaves was in the heap. -/
theorem Removal.mem {c' : LocTimerContainer} (h : Removal c timer c') {x : LocTimerDelegate}
    (hx : x ∈ c'.mTree.stored) : x ∈ c.mTree.stored := by
  cases h with
  | nothing => exact hx
  | top mTree hstored =>
    rw [mTree_updateSoonestTime] at hx
    rw [← hstored]
    exact Multiset.mem_cons_of_mem hx
  | other mTree hstored =>
    rw [← hstored]
    exact Multiset.mem_cons_of_mem hx

end LocTimerContainer

/-! ## The property -/

/-- The container that the poll thread has disarmed, and has not sent a message for. -/
def PollPc.disarmed : PollPc → Option Bool
  | .removePoll w _ => some w
  | .send w _ => some w
  | _ => none

/-- An expiry of the container is under way: its message was not processed yet. -/
def UnderWay (s : Sys) (w : Bool) : Prop := s.poll.disarmed = some w ∨ .expire w ∈ s.mQ

/-- What should hold of a container between two messages. -/
structure Soonest (s : Sys) (w : Bool) : Prop where
  /-- the top has the least deadline -/
  least : ∀ top, (s.containers w).getSoonestTimer = some top →
    ∀ timer ∈ (s.containers w).mTree.stored, top.mFutureTime ≤ timer.mFutureTime
  /-- the `timerfd` is armed for it, unless an expiry is under way -/
  armed : ∀ top, (s.containers w).getSoonestTimer = some top → ¬ UnderWay s w →
    (s.containers w).polled = true ∧
      ∃ t, (s.containers w).mDevFd = some t ∧ t ≤ top.mFutureTime
  /-- and not armed at all if there is none -/
  empty : (s.containers w).getSoonestTimer = none → (s.containers w).mDevFd = none

/-- A step of neither kind. -/
structure Tidy (s : Sys) (l : Label) : Prop where
  /-- no delegate is pushed to others that have its second, and other nanoseconds -/
  push : l = .task → s.task = .idle → ∀ w timer rest, s.mQ = .push w timer :: rest →
    ∀ other ∈ (s.containers w).mTree.stored, other.mFutureTime.tvSec = timer.mFutureTime.tvSec →
      other.mFutureTime.tvNsec = timer.mFutureTime.tvNsec
  /-- no removal takes the last delegate while the `timerfd` is armed -/
  remove : l = .task → s.task = .idle → ∀ w timer rest, s.mQ = .remove w timer :: rest →
    (s.containers w).mTree.stored = {timer} → (s.containers w).mDevFd = none
  /-- no expiry has popped the last one while the `timerfd` was armed again -/
  expire : l = .task → ∀ w now, s.task = .next w now →
    (s.containers w).getSoonestTimer = none → (s.containers w).mDevFd = none

/-! ## The invariant -/

variable {s s' : Sys} {l : Label} {out : List Out} {h : List (Event Sys Label Out)}
  {timer : LocTimerDelegate} {w : Bool} {now : Timespec}

/-- The message task is not in an expiry of the container. -/
def TaskPc.Away (task : TaskPc) (w : Bool) : Prop := ∀ now, task.expiry ≠ some (w, now)

theorem away_idle (w : Bool) : TaskPc.idle.Away w := by
  intro now hno
  cases hno

/-- What holds of a container at all times. -/
structure Tended (s : Sys) (w : Bool) : Prop where
  /-- in a second there is one deadline -/
  distinct : ∀ timer ∈ (s.containers w).mTree.stored,
    ∀ timer' ∈ (s.containers w).mTree.stored,
      timer.mFutureTime.tvSec = timer'.mFutureTime.tvSec →
        timer.mFutureTime.tvNsec = timer'.mFutureTime.tvNsec
  /-- no deadline is 0 -/
  stored : ∀ timer ∈ (s.containers w).mTree.stored, 0 < timer.mFutureTime.nanos
  /-- nor will one be -/
  queued : ∀ timer, .push w timer ∈ s.mQ → 0 < timer.mFutureTime.nanos
  /-- the `timerfd` is armed, unless an expiry is under way, or in progress -/
  armed : s.task.Away w → ¬ UnderWay s w →
    ∀ top, (s.containers w).getSoonestTimer = some top → (s.containers w).Armed
  /-- and it is not armed for an empty heap -/
  empty : s.task.Away w → (s.containers w).getSoonestTimer = none →
    (s.containers w).mDevFd = none

theorem tended_start (w : Bool) : Tended {} w where
  distinct timer h := absurd h (Multiset.notMem_zero timer)
  stored timer h := absurd h (Multiset.notMem_zero timer)
  queued timer h := by cases h
  armed _ _ top h := by cases h
  empty _ _ := rfl

/-- A step that leaves a container alone. -/
theorem Tended.stay (h : Tended s w) (hcontainers : s'.containers w = s.containers w)
    (hqueued : ∀ timer, .push w timer ∈ s'.mQ →
      .push w timer ∈ s.mQ ∨ 0 < timer.mFutureTime.nanos)
    (haway : s'.task.Away w → s.task.Away w)
    (hunder : s'.task.Away w → UnderWay s w → UnderWay s' w) : Tended s' w where
  distinct := by
    rw [hcontainers]
    exact h.distinct
  stored := by
    rw [hcontainers]
    exact h.stored
  queued timer ht := by
    rcases hqueued timer ht with hold | hpos
    · exact h.queued timer hold
    · exact hpos
  armed htask hno := by
    rw [hcontainers]
    exact h.armed (haway htask) fun hunder' => hno (hunder htask hunder')
  empty htask := by
    rw [hcontainers]
    exact h.empty (haway htask)

/-- A message that is sent. -/
theorem Tended.sends (h : Tended s w) {m : LocMsg} (hcontainers : s'.containers = s.containers)
    (hmQ : s'.mQ = s.mQ ++ [m]) (htask : s'.task.Away w → s.task.Away w)
    (hpoll : s'.poll = s.poll)
    (hm : ∀ timer, m = .push w timer → 0 < timer.mFutureTime.nanos) : Tended s' w := by
  refine h.stay (by rw [hcontainers]) (fun timer ht => ?_) htask fun _ hunder => ?_
  · rw [hmQ] at ht
    rcases List.mem_append.mp ht with ht | ht
    · exact .inl ht
    · exact .inr (hm timer (List.mem_singleton.mp ht).symm)
  · rw [UnderWay, hpoll, hmQ]
    rcases hunder with hunder | hunder
    · exact .inl hunder
    · exact .inr (List.mem_append_left _ hunder)

/-- The message task goes on in an expiry. -/
theorem Tended.goes (h : Tended s w) (hcontainers : s'.containers w = s.containers w)
    (hmQ : s'.mQ = s.mQ) (hpoll : s'.poll = s.poll) (htask : s'.task.Away w → s.task.Away w) :
    Tended s' w := by
  refine h.stay hcontainers (fun timer ht => .inl (hmQ ▸ ht)) htask fun _ hunder => ?_
  rw [UnderWay, hpoll, hmQ]
  exact hunder

/-- Messages that are taken out of the queue. -/
theorem mem_of_rest {m m' : LocMsg} {rest : List LocMsg} (hq : s.mQ = m :: rest)
    (hm : m' ∈ rest) : m' ∈ s.mQ := hq ▸ List.mem_cons_of_mem _ hm

theorem mem_rest {m m' : LocMsg} {rest : List LocMsg} (hq : s.mQ = m :: rest) (hne : m' ≠ m)
    (hm : m' ∈ s.mQ) : m' ∈ rest := by
  rw [hq] at hm
  exact (List.mem_cons.mp hm).resolve_left hne

/-- A message that is taken, and is not the expiry of this container. -/
theorem Tended.takes (h : Tended s w) {m : LocMsg} {rest : List LocMsg} (hq : s.mQ = m :: rest)
    (hm : .expire w ≠ m) (hcontainers : s'.containers w = s.containers w) (hmQ : s'.mQ = rest)
    (hpoll : s'.poll = s.poll) (haway : s'.task.Away w → s.task.Away w) : Tended s' w := by
  refine h.stay hcontainers (fun timer ht => .inl (mem_of_rest hq (hmQ ▸ ht))) haway
    fun _ hunder => ?_
  rw [UnderWay, hpoll, hmQ]
  exact hunder.imp_right (mem_rest hq hm)

/-- A container after another one was written. -/
theorem containers_write_of_ne {w₀ : Bool} (hw : w ≠ w₀) (c : LocTimerContainer) :
    (s.write w₀ c).containers w = s.containers w := Function.update_of_ne hw ..

theorem containers_write (s : Sys) (w : Bool) (c : LocTimerContainer) :
    (s.write w c).containers w = c := Function.update_self ..

/-- A container that an expiry works on. -/
theorem Tended.popTop (h : Tended s w) (hsorted : Sorted s) {now : Timespec}
    (htop : (s.containers w).getSoonestTimer = some timer) : Tended (s.popTop w now timer) w := by
  have hmem : ∀ x ∈ ((s.popTop w now timer).containers w).mTree.stored,
      x ∈ (s.containers w).mTree.stored := by
    intro x hx
    have hx' : x ∈ ((s.write w (s.containers w).pop.2).containers w).mTree.stored := hx
    rw [containers_write] at hx'
    rw [← stored_pop (hsorted w) htop]
    exact Multiset.mem_cons_of_mem hx'
  have haway : ¬ (s.popTop w now timer).task.Away w := fun haway => haway now rfl
  refine ⟨fun x hx y hy => h.distinct x (hmem x hx) y (hmem y hy),
    fun x hx => h.stored x (hmem x hx), h.queued, fun htask => absurd htask haway,
    fun htask => absurd htask haway⟩

/-- A push into a container. -/
theorem Tended.pushes (h : Tended s w) {rest : List LocMsg} (htask : s.task = .idle)
    (hq : s.mQ = .push w timer :: rest) (hok : Tidy s .task) :
    Tended (({ s with mQ := rest }).write w ((s.containers w).procPush timer)) w := by
  have hpos : 0 < timer.mFutureTime.nanos := h.queued timer (hq ▸ List.mem_cons_self)
  have hstored : ((s.containers w).procPush timer).mTree.stored =
      timer ::ₘ (s.containers w).mTree.stored := by
    rw [LocTimerContainer.mTree_procPush, LocHeapNode.stored_push]
  have hsecond := hok.push rfl htask w timer rest hq
  refine ⟨?_, ?_, fun x hx => h.queued x (mem_of_rest hq hx), fun _ hno => ?_, fun _ htop => ?_⟩
  · rw [containers_write, hstored]
    intro x hx y hy hsec
    rcases Multiset.mem_cons.mp hx with hxt | hxs
    · rcases Multiset.mem_cons.mp hy with hyt | hys
      · rw [hxt, hyt]
      · rw [hxt] at hsec ⊢
        exact (hsecond y hys hsec.symm).symm
    · rcases Multiset.mem_cons.mp hy with hyt | hys
      · rw [hyt] at hsec ⊢
        exact hsecond x hxs hsec
      · exact h.distinct x hxs y hys hsec
  · rw [containers_write, hstored]
    intro x hx
    rcases Multiset.mem_cons.mp hx with rfl | hx
    · exact hpos
    · exact h.stored x hx
  · rw [containers_write]
    intro top _
    refine LocTimerContainer.armed_procPush (h.armed ?_ ?_) hpos
    · rw [htask]
      exact away_idle w
    · rintro (hunder | hunder)
      · exact hno (.inl hunder)
      · exact hno (.inr (mem_rest hq (by simp) hunder))
  · rw [containers_write] at htop
    have hpush := LocHeapNode.mData_push (R := ranking) (s.containers w).mTree timer
    rw [LocTimerContainer.getSoonestTimer, LocTimerContainer.mTree_procPush, hpush] at htop
    cases htop

/-- A removal from a container. -/
theorem Tended.removes (h : Tended s w) (hsorted : Sorted s) {rest : List LocMsg}
    {delegates : LocTimerDelegate → Option Links} (htask : s.task = .idle)
    (hq : s.mQ = .remove w timer :: rest) (hok : Tidy s .task) :
    Tended (({ s with mQ := rest, delegates := delegates }).write w
      ((s.containers w).procRemove timer).2) w := by
  have hremoval := LocTimerContainer.procRemove_removal (hsorted w) timer
  generalize ((s.containers w).procRemove timer).2 = c at hremoval
  have haway : s.task.Away w := by
    rw [htask]
    exact away_idle w
  refine ⟨?_, ?_, fun x hx => h.queued x (mem_of_rest hq hx), fun _ hno => ?_, fun _ htop => ?_⟩
  · rw [containers_write]
    exact fun x hx y hy => h.distinct x (hremoval.mem hx) y (hremoval.mem hy)
  · rw [containers_write]
    exact fun x hx => h.stored x (hremoval.mem hx)
  · rw [containers_write]
    intro top htop
    refine hremoval.armed h.stored (h.armed haway ?_) htop
    rintro (hunder | hunder)
    · exact hno (.inl hunder)
    · exact hno (.inr (mem_rest hq (by simp) hunder))
  · rw [containers_write] at htop ⊢
    exact hremoval.empty (h.empty haway) (hok.remove rfl htask w timer rest hq) htop

/-- The end of an expiry. -/
theorem Tended.finishes (h : Tended s w) (htask : s.task = .next w now) (hok : Tidy s .task) :
    Tended { s.write w ((s.containers w).updateSoonestTime none) with task := .idle } w := by
  have hwrite : (({ s.write w ((s.containers w).updateSoonestTime none) with
      task := .idle } : Sys).containers w) = (s.containers w).updateSoonestTime none :=
    containers_write ..
  refine ⟨?_, ?_, h.queued, fun _ _ => ?_, fun _ => ?_⟩
  · rw [hwrite, LocTimerContainer.mTree_updateSoonestTime]
    exact h.distinct
  · rw [hwrite, LocTimerContainer.mTree_updateSoonestTime]
    exact h.stored
  · rw [hwrite]
    intro top htop
    rw [LocTimerContainer.getSoonestTimer, LocTimerContainer.mTree_updateSoonestTime] at htop
    exact LocTimerContainer.armed_updateSoonestTime htop
      (h.stored top (LocHeapNode.mem_stored htop))
  · rw [hwrite]
    intro htop
    rw [LocTimerContainer.getSoonestTimer, LocTimerContainer.mTree_updateSoonestTime] at htop
    rw [LocTimerContainer.updateSoonestTime_of_empty htop]
    exact hok.expire rfl w now htask htop

/-- The container that the poll thread is not at is under way for its message. -/
theorem UnderWay.mem (h : UnderWay s w) (hpoll : s.poll.disarmed ≠ some w) : .expire w ∈ s.mQ :=
  h.resolve_left hpoll

/-- The poll thread begins with a container. -/
theorem Tended.disarms (h : Tended s w) (rest : List Bool) :
    Tended { s.write w (s.containers w).disarm with poll := .removePoll w rest } w := by
  have hwrite : (({ s.write w (s.containers w).disarm with
      poll := .removePoll w rest } : Sys).containers w) = (s.containers w).disarm :=
    containers_write ..
  refine ⟨?_, ?_, h.queued, fun _ hno => absurd (.inl rfl) hno, fun _ _ => ?_⟩
  · rw [hwrite]
    exact h.distinct
  · rw [hwrite]
    exact h.stored
  · rw [hwrite]
    rfl

/-- And goes on with it. -/
theorem Tended.removesPoll (h : Tended s w) (rest : List Bool) :
    Tended { s.write w (s.containers w).removePoll with poll := .send w rest } w := by
  have hwrite : (({ s.write w (s.containers w).removePoll with
      poll := .send w rest } : Sys).containers w) = (s.containers w).removePoll :=
    containers_write ..
  refine ⟨?_, ?_, h.queued, fun _ hno => absurd (.inl rfl) hno, fun htask => ?_⟩
  · rw [hwrite]
    exact h.distinct
  · rw [hwrite]
    exact h.stored
  · rw [hwrite]
    exact h.empty htask

/-- A step of neither kind keeps all containers tended. -/
theorem tended_step (h : ∀ w, Tended s w) (hsorted : Sorted s) (hnow : 0 < s.now.nanos)
    (hok : Tidy s l) (hmove : Move s l s' out) (w : Bool) : Tended s' w := by
  -- the task goes on in an expiry, or begins one
  have hgoes : ∀ {task : TaskPc}, task.expiry = s.task.expiry → task.Away w → s.task.Away w := by
    intro task heq haway now
    rw [← heq]
    exact haway now
  have hidle : s.task = .idle → s.task.Away w := by
    intro htask
    rw [htask]
    exact away_idle w
  cases hmove with
  | ticks now hnow => exact (h w).goes rfl rfl rfl fun ht => ht
  | running | notRunning => exact h w
  | starts client timeOutInMs w₀ hclient timer htimer =>
    refine (h w).sends rfl rfl (fun ht => ht) rfl fun timer' heq => ?_
    obtain ⟨-, rfl⟩ := LocMsg.push.inj heq
    rw [htimer, Timespec.nanos_after]
    exact Nat.add_pos_left hnow _
  | stops client timer w₀ hclient hlinks =>
    refine (h w).sends rfl rfl (fun ht => ht) rfl fun timer' heq => ?_
    cases heq
  | wakes ws hpoll hready =>
    refine (h w).stay rfl (fun _ ht => .inl ht) (fun ht => ht) fun _ hunder => ?_
    refine .inr (hunder.mem ?_)
    simp [hpoll, PollPc.disarmed]
  | disarms w₀ rest hpoll =>
    by_cases hw : w = w₀
    · subst hw
      exact (h w).disarms rest
    · refine (h w).stay (containers_write_of_ne hw _) (fun _ ht => .inl ht) (fun ht => ht)
        fun _ hunder => .inr (hunder.mem ?_)
      simp [hpoll, PollPc.disarmed]
  | removesPoll w₀ rest hpoll =>
    by_cases hw : w = w₀
    · subst hw
      exact (h w).removesPoll rest
    · refine (h w).stay (containers_write_of_ne hw _) (fun _ ht => .inl ht) (fun ht => ht)
        fun _ hunder => .inr (hunder.mem ?_)
      rw [hpoll]
      exact fun heq => hw (Option.some.inj heq).symm
  | sends w₀ rest hpoll =>
    refine (h w).stay rfl (fun timer ht => .inl ?_) (fun ht => ht) fun _ hunder => .inr ?_
    · simpa using ht
    · rcases hunder with hunder | hunder
      · rw [hpoll] at hunder
        obtain rfl := Option.some.inj hunder
        simp
      · exact List.mem_append_left _ hunder
  | pushes w₀ timer rest htask hq =>
    by_cases hw : w = w₀
    · subst hw
      exact (h w).pushes htask hq hok
    · exact (h w).takes hq (by simp) (containers_write_of_ne hw _) rfl rfl fun _ => hidle htask
  | removes w₀ timer rest htask hq =>
    by_cases hw : w = w₀
    · subst hw
      exact (h w).removes hsorted htask hq hok
    · exact (h w).takes hq (by simp) (containers_write_of_ne hw _) rfl rfl fun _ => hidle htask
  | expiresNone w₀ rest htask hq htop =>
    by_cases hw : w = w₀
    · subst hw
      refine ⟨(h w).distinct, (h w).stored, fun _ ht => (h w).queued _ (mem_of_rest hq ht),
        fun _ _ top htop' => ?_, (h w).empty⟩
      cases htop.symm.trans htop'
    · exact (h w).takes hq (by simpa using hw) rfl rfl rfl fun ht => ht
  | popsFirst w₀ timer rest htask hq htop =>
    by_cases hw : w = w₀
    · subst hw
      have hpop : Tended (s.popTop w s.now timer) w := (h w).popTop hsorted htop
      refine hpop.stay rfl (fun _ ht => .inl (mem_of_rest hq ht)) (fun ht => ht) fun haway => ?_
      exact absurd rfl (haway s.now)
    · exact (h w).takes hq (by simpa using hw) (containers_write_of_ne hw _) rfl rfl
        fun _ => hidle htask
  | reads w₀ now timer client container htask hlinks =>
    exact (h w).goes rfl rfl rfl (hgoes (by rw [htask]; rfl))
  | skips w₀ now timer container htask hlinks =>
    exact (h w).goes rfl rfl rfl (hgoes (by rw [htask]; rfl))
  | misses w₀ now timer client htask hclient =>
    exact (h w).goes rfl rfl rfl (hgoes (by rw [htask]; rfl))
  | detaches w₀ now timer client stopped w' htask hclient hlinks =>
    refine (h w).sends rfl rfl (hgoes (by rw [htask]; rfl)) rfl fun timer' heq => ?_
    cases heq
  | calls w₀ now timer client stopped htask =>
    exact (h w).goes rfl rfl rfl (hgoes (by rw [htask]; rfl))
  | popsNext w₀ now timer htask htop hdue =>
    by_cases hw : w = w₀
    · subst hw
      exact (h w).popTop hsorted htop
    · refine (h w).goes (containers_write_of_ne hw _) rfl rfl (hgoes ?_)
      rw [htask]
      rfl
  | finishes w₀ now htask hlater =>
    by_cases hw : w = w₀
    · subst hw
      exact (h w).finishes htask hok
    · refine (h w).goes (containers_write_of_ne hw _) rfl rfl fun _ now' hno => ?_
      rw [htask] at hno
      exact hw (Prod.mk.inj (Option.some.inj hno)).1.symm

/-! ## Whole runs -/

/-- Time goes on. -/
theorem now_pos_step (hnow : 0 < s.now.nanos) (hmove : Move s l s' out) : 0 < s'.now.nanos := by
  cases hmove with
  | ticks now hle => exact hnow.trans_le (Timespec.le_iff_nanos.mp hle)
  | _ => exact hnow

theorem tended_run (hr : Run machine {} h s) (hok : ∀ e ∈ h, Tidy e.pre e.label) :
    0 < s.now.nanos ∧ ∀ w, Tended s w := by
  induction hr with
  | nil => exact ⟨by decide, tended_start⟩
  | @snoc h s s' l out hr hs ih =>
    obtain ⟨hnow, htended⟩ := ih fun e he => hok e (List.mem_append_left _ he)
    have htimers := timers_run hr
    have hmove := move_of_step htimers.linked hs
    refine ⟨now_pos_step hnow hmove, tended_step htended htimers.sorted hnow ?_ hmove⟩
    exact hok _ (List.mem_append_right _ (List.mem_singleton_self _))

/-- **The `timerfd` is armed for the earliest deadline.** In a run in which delegates that are
pushed to others of the same second have the same nanoseconds, and in which no removal and no
expiry leaves a heap empty while its `timerfd` is armed, between two messages: the top of each
heap has the least deadline, and the `timerfd` is in the poll and armed in time for it, unless
an expiry is under way; for an empty heap it is not armed. -/
theorem soonest_run (hr : Run machine {} h s) (hok : ∀ e ∈ h, Tidy e.pre e.label)
    (htask : s.task = .idle) (w : Bool) : Soonest s w := by
  obtain ⟨-, htended⟩ := tended_run hr hok
  have haway : s.task.Away w := by
    rw [htask]
    exact away_idle w
  refine ⟨fun top htop timer hmem => ?_, fun top htop hno => ?_, (htended w).empty haway⟩
  · have hrank := LocHeapNode.outRanks_mData ((timers_run hr).sorted w) htop timer hmem
    have hsec : top.mFutureTime.tvSec ≤ timer.mFutureTime.tvSec :=
      Nat.le_of_not_lt fun hlt => Bool.eq_false_iff.mp hrank (outRanks_iff.mpr hlt)
    rcases Nat.lt_or_eq_of_le hsec with hlt | heq
    · exact .inl hlt
    · -- of the same second: of the same time
      have hnsec := (htended w).distinct top (LocHeapNode.mem_stored htop) timer hmem heq
      exact .inr ⟨heq, hnsec.le⟩
  · obtain ⟨hpolled, t, ht, hle⟩ := (htended w).armed haway hno top htop
    exact ⟨hpolled, t, ht, hle top htop⟩

/-- Test the conditions on a step. -/
def isTidy (s : Sys) (l : Label) : Bool :=
  match l, s.task, s.mQ with
  | .task, .idle, .push w timer :: _ =>
    decide (∀ other ∈ (s.containers w).mTree.stored,
      other.mFutureTime.tvSec = timer.mFutureTime.tvSec →
        other.mFutureTime.tvNsec = timer.mFutureTime.tvNsec)
  | .task, .idle, .remove w timer :: _ =>
    decide ((s.containers w).mTree.stored = {timer} → (s.containers w).mDevFd = none)
  | .task, .next w _, _ =>
    decide ((s.containers w).getSoonestTimer = none → (s.containers w).mDevFd = none)
  | _, _, _ => true

theorem tidy_of_isTidy (hok : isTidy s l = true) : Tidy s l := by
  refine ⟨?_, ?_, ?_⟩
  · rintro rfl htask w timer rest hq
    simpa only [isTidy, htask, hq, decide_eq_true_eq] using hok
  · rintro rfl htask w timer rest hq
    simpa only [isTidy, htask, hq, decide_eq_true_eq] using hok
  · rintro rfl w now htask
    simpa only [isTidy, htask, decide_eq_true_eq] using hok

/-- Of three timers one expires and one is stopped; the `timerfd` is armed for the third. -/
theorem soonest_run_three :
    ∃ h s, Run machine {} h s ∧ s.task = .idle ∧ s.mQ = [] ∧
      (s.containers false).mDevFd = some ⟨4, 1, by decide⟩ ∧ ∀ w, Soonest s w := by
  obtain ⟨h, s, hr, -, hcheck⟩ := machine.exists_run {}
    [.start 0 4000 false, .task, .start 1 1000 false, .task, .start 2 3000 false, .task,
      .tick ⟨1, 1, by decide⟩, .wake [false], .poll, .poll, .poll, .task, .task, .task, .task,
      .stop 2, .task, .task, .task]
    (fun h s => decide (s.task = .idle ∧ s.mQ = [] ∧
      (s.containers false).mDevFd = some ⟨4, 1, by decide⟩ ∧
      ∀ e ∈ h, isTidy e.pre e.label = true)) (by decide +kernel)
  obtain ⟨htask, hq, harmed, hok⟩ := of_decide_eq_true hcheck
  exact ⟨h, s, hr, htask, hq, harmed,
    soonest_run hr (fun e he => tidy_of_isTidy (hok e he)) htask⟩

/-- The only timer is stopped: the `timerfd` stays armed. -/
theorem armed_for_nobody :
    ¬ ∀ (h : List (Event Sys Label Out)) (s : Sys), Run machine {} h s → s.task = .idle →
      ∀ w, Soonest s w := by
  intro hall
  obtain ⟨h, s, hr, -, hcheck⟩ := machine.exists_run {}
    [.start 0 1000 false, .task, .stop 0, .task]
    (fun _ s => decide (s.task = .idle ∧ (s.containers false).getSoonestTimer = none ∧
      (s.containers false).mDevFd = some ⟨1, 1, by decide⟩)) (by decide +kernel)
  obtain ⟨htask, htop, harmed⟩ := of_decide_eq_true hcheck
  have hempty := (hall h s hr htask false).empty htop
  rw [harmed] at hempty
  cases hempty

end OppoA37.LocTimer
