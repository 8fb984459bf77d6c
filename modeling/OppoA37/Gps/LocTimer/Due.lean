import OppoA37.Gps.LocTimer.Callbacks

/-!
# Does a timer fire early?

An expiry message says only that a `timerfd` has expired at some time. The first delegate that it
pops is not compared with the time at all, and the others are compared by seconds; so a delegate
is popped early if the heap has changed before the message comes up, or if it is due later in the
same second. It calls back early, too, if its client was started again under way.
`notEarly_run` says that nothing else does.
-/

namespace OppoA37.LocTimer

open Lts LocHeap

/-- Every callback is for a start, and not before the time that was asked for. -/
def NotEarly (h : List (Event Sys Label Out)) : Prop :=
  ∀ h₁ e h₂, h = h₁ ++ e :: h₂ → ∀ client timer stopped, .timeOut client timer stopped ∈ e.out →
    ∃ e₀ ∈ h₁, ∃ timeOutInMs w, e₀.label = .start client timeOutInMs w ∧
      .started client stopped e₀.pre.now timeOutInMs ∈ e₀.out ∧
      e₀.pre.now.nanos + timeOutInMs * 1000000 ≤ e.pre.now.nanos

/-- What an expiry pops is due, and is still that of its client. -/
structure Timely (s : Sys) (l : Label) : Prop where
  /-- when the message comes up, the top of the heap is due -/
  top : l = .task → s.task = .idle → ∀ w rest, s.mQ = .expire w :: rest →
    ∀ timer, (s.containers w).getSoonestTimer = some timer → timer.mFutureTime ≤ s.now
  /-- and no delegate in it is due later in this second -/
  second : l = .task → s.task = .idle → ∀ w rest, s.mQ = .expire w :: rest →
    ∀ timer ∈ (s.containers w).mTree.stored, timer.mFutureTime.tvSec = s.now.tvSec →
      timer.mFutureTime.tvNsec ≤ s.now.tvNsec
  /-- no client was started again between the read and the stop -/
  notRestarted : NotRestarted s l

/-- The container that an expiry works on, and its time. -/
def TaskPc.expiry : TaskPc → Option (Bool × Timespec)
  | .idle => none
  | .popped w now _ => some (w, now)
  | .stopping w now _ _ => some (w, now)
  | .calling w now _ _ _ => some (w, now)
  | .next w now => some (w, now)

/-- An expiry is at a delegate that is due, and will pop only such. -/
structure Pops (s : Sys) : Prop where
  /-- the delegate that was popped is due -/
  hand : ∀ timer, s.task.hand = some timer → timer.mFutureTime ≤ s.now
  /-- the time was read in the past -/
  past : ∀ w now, s.task.expiry = some (w, now) → now ≤ s.now
  /-- what is in the heap up to this second was due then -/
  stored : ∀ w now, s.task.expiry = some (w, now) →
    ∀ timer ∈ (s.containers w).mTree.stored, timer.mFutureTime.tvSec ≤ now.tvSec →
      timer.mFutureTime ≤ now

variable {s s' : Sys} {l : Label} {out : List Out} {h : List (Event Sys Label Out)}
  {timer : LocTimerDelegate} {w : Bool} {now : Timespec}

theorem pops_start : Pops {} := by
  refine ⟨fun _ h => ?_, fun _ _ h => ?_, fun _ _ h => ?_⟩
  all_goals cases h

/-- The expiry goes on, and no heap changes. -/
theorem Pops.goes (h : Pops s) (hnow : s.now ≤ s'.now)
    (hhand : ∀ timer, s'.task.hand = some timer → s.task.hand = some timer)
    (hexpiry : ∀ w now, s'.task.expiry = some (w, now) → s.task.expiry = some (w, now))
    (hmTree : ∀ w, (s'.containers w).mTree = (s.containers w).mTree) : Pops s' where
  hand timer ht := Timespec.le_trans (h.hand timer (hhand timer ht)) hnow
  past w now hw := Timespec.le_trans (h.past w now (hexpiry w now hw)) hnow
  stored w now hw := by
    rw [hmTree]
    exact h.stored w now (hexpiry w now hw)

/-- Between two messages nothing is said. -/
theorem pops_idle (htask : s.task = .idle) : Pops s := by
  have hhand : s.task.hand = none := by rw [htask]; rfl
  have hexpiry : s.task.expiry = none := by rw [htask]; rfl
  refine ⟨fun timer ht => ?_, fun w now hw => ?_, fun w now hw => ?_⟩
  · rw [hhand] at ht
    cases ht
  · rw [hexpiry] at hw
    cases hw
  · rw [hexpiry] at hw
    cases hw

/-- A delegate that is due is popped. -/
theorem pops_popTop (hsorted : Sorted s) (htop : (s.containers w).getSoonestTimer = some timer)
    (hpast : now ≤ s.now) (hdue : timer.mFutureTime ≤ s.now)
    (hstored : ∀ timer ∈ (s.containers w).mTree.stored,
      timer.mFutureTime.tvSec ≤ now.tvSec → timer.mFutureTime ≤ now) :
    Pops (s.popTop w now timer) := by
  refine ⟨fun timer' ht => ?_, fun w' now' hw => ?_, fun w' now' hw timer' hmem => ?_⟩
  · obtain rfl := Option.some.inj ht
    exact hdue
  · obtain ⟨-, rfl⟩ := Prod.mk.inj (Option.some.inj hw)
    exact hpast
  · obtain ⟨rfl, rfl⟩ := Prod.mk.inj (Option.some.inj hw)
    refine hstored timer' ?_
    rw [← stored_pop (hsorted w) htop]
    have hmem' : timer' ∈ (s.containers w).pop.2.mTree.stored := by
      simpa [Sys.popTop, Sys.write] using hmem
    exact Multiset.mem_cons_of_mem hmem'

/-- Every step keeps to what is due. -/
theorem Pops.step (h : Pops s) (hsorted : Sorted s) (hok : Timely s l)
    (hmove : Move s l s' out) : Pops s' := by
  cases hmove with
  | ticks now hnow =>
    exact h.goes hnow (fun _ ht => ht) (fun _ _ hw => hw) fun _ => rfl
  | running | notRunning => exact h
  | starts | stops | wakes | sends =>
    exact h.goes (Timespec.le_refl _) (fun _ ht => ht) (fun _ _ hw => hw) fun _ => rfl
  | disarms w rest hpoll =>
    exact h.goes (Timespec.le_refl _) (fun _ ht => ht) (fun _ _ hw => hw) (mTree_write rfl)
  | removesPoll w rest hpoll =>
    exact h.goes (Timespec.le_refl _) (fun _ ht => ht) (fun _ _ hw => hw) (mTree_write rfl)
  | pushes w timer rest htask hq => exact pops_idle htask
  | removes w timer rest htask hq => exact pops_idle htask
  | expiresNone w rest htask hq htop => exact pops_idle htask
  | popsFirst w timer rest htask hq htop =>
    refine pops_popTop (s := { s with mQ := rest }) hsorted htop (Timespec.le_refl _)
      (hok.top rfl htask w rest hq timer htop) fun timer' hmem hsec => ?_
    rcases Nat.lt_or_eq_of_le hsec with hlt | heq
    · exact .inl hlt
    · exact .inr ⟨heq, hok.second rfl htask w rest hq timer' hmem heq⟩
  | reads w now timer client container htask hlinks =>
    refine h.goes (Timespec.le_refl _) (fun _ ht => ?_) (fun _ _ hw => ?_) fun _ => rfl
    · rw [htask]
      exact ht
    · rw [htask]
      exact hw
  | skips w now timer container htask hlinks =>
    refine h.goes (Timespec.le_refl _) (fun _ ht => ?_) (fun _ _ hw => ?_) fun _ => rfl
    · cases ht
    · rw [htask]
      exact hw
  | misses w now timer client htask hclient =>
    refine h.goes (Timespec.le_refl _) (fun _ ht => ?_) (fun _ _ hw => ?_) fun _ => rfl
    · cases ht
    · rw [htask]
      exact hw
  | detaches w now timer client stopped w' htask hclient hlinks =>
    refine h.goes (Timespec.le_refl _) (fun _ ht => ?_) (fun _ _ hw => ?_) fun _ => rfl
    · rw [htask]
      exact ht
    · rw [htask]
      exact hw
  | calls w now timer client stopped htask =>
    refine h.goes (Timespec.le_refl _) (fun _ ht => ?_) (fun _ _ hw => ?_) fun _ => rfl
    · cases ht
    · rw [htask]
      exact hw
  | popsNext w now timer htask htop hdue =>
    have hexpiry : s.task.expiry = some (w, now) := by rw [htask]; rfl
    have hpast := h.past w now hexpiry
    have htimer := h.stored w now hexpiry timer (LocHeapNode.mem_stored htop) hdue
    exact pops_popTop hsorted htop hpast (Timespec.le_trans htimer hpast)
      (h.stored w now hexpiry)
  | finishes w now htask hlater => exact pops_idle rfl

theorem pops_run (hr : Run machine {} h s) (hok : ∀ e ∈ h, Timely e.pre e.label) : Pops s := by
  induction hr with
  | nil => exact pops_start
  | @snoc h s s' l out hr hs ih =>
    have htimers := timers_run hr
    refine (ih fun e he => hok e (List.mem_append_left _ he)).step htimers.sorted ?_
      (move_of_step htimers.linked hs)
    exact hok _ (List.mem_append_right _ (List.mem_singleton_self _))

/-- A start tells what time the delegate has. -/
theorem started_of_move {client timeOutInMs : ℕ} {t : Timespec} (hmove : Move s l s' out)
    (hout : .started client timer t timeOutInMs ∈ out) :
    ∃ w, l = .start client timeOutInMs w ∧ t = s.now ∧
      timer.mFutureTime = s.now.after timeOutInMs := by
  cases hmove with
  | starts client' timeOutInMs' w hclient timer' htimer =>
    obtain ⟨rfl, rfl, rfl, rfl⟩ := Out.started.inj (List.mem_singleton.mp hout)
    exact ⟨w, rfl, rfl, by rw [htimer]⟩
  | _ => simp at hout

/-- A start in a life was shown. -/
theorem started_of_mem (hr : Run machine {} h s) {client : ℕ} {d : LocTimerDelegate}
    (hmem : .start client ∈ trace (uses d) h) :
    ∃ e ∈ h, ∃ timeOutInMs w, e.label = .start client timeOutInMs w ∧
      .started client d e.pre.now timeOutInMs ∈ e.out ∧
      d.mFutureTime = e.pre.now.after timeOutInMs := by
  obtain ⟨e, he, huse⟩ := List.mem_flatMap.mp hmem
  obtain ⟨o, ho, hu⟩ := List.mem_flatMap.mp huse
  obtain ⟨h₁, h₂, rfl⟩ := List.append_of_mem he
  refine ⟨e, he, ?_⟩
  cases o with
  | started client' timer t timeOutInMs =>
    obtain ⟨rfl, rfl⟩ : timer = d ∧ client = client' := by
      simp only [Out.uses] at hu
      split_ifs at hu with hd
      · exact ⟨hd, Use.start.inj (List.mem_singleton.mp hu)⟩
      · cases hu
    obtain ⟨w, hl, rfl, htime⟩ := started_of_move (move_of_run hr) ho
    exact ⟨timeOutInMs, w, hl, ho, htime⟩
  | _ =>
    simp only [Out.uses] at hu
    first
    | contradiction
    | split_ifs at hu <;> simp at hu

/-- **No timer fires early.** In a run in which, whenever an expiry message comes up, the top of
the heap is due and no delegate in it is due later in the same second, and in which no client is
started again between the read and the stop of an expiry, no callback comes before the start of
its delegate and the delay, to the nanosecond. -/
theorem notEarly_run (hr : Run machine {} h s) (hok : ∀ e ∈ h, Timely e.pre e.label) :
    NotEarly h := by
  rintro h₁ e h₂ rfl client timer stopped hout
  obtain ⟨hr₁, -, -⟩ := hr.event
  have hok₁ : ∀ e ∈ h₁, Timely e.pre e.label := fun e he => hok e (List.mem_append_left _ he)
  obtain ⟨-, w, now, htask⟩ := called_of_timeOut (move_of_run hr) hout
  obtain rfl : stopped = timer :=
    callsItsOwn_run hr₁ (fun e he => (hok₁ e he).notRestarted) w now timer client stopped htask
  have hdue : stopped.mFutureTime ≤ e.pre.now :=
    (pops_run hr₁ hok₁).hand stopped (by rw [htask]; rfl)
  obtain ⟨place, hread⟩ := (timers_run hr₁).expiring (by rw [htask]; rfl)
  have hstart := ((tally_of_read hread).started _ _ _ rfl client).mpr rfl
  obtain ⟨e₀, he₀, timeOutInMs, w', hl, hstarted, htime⟩ := started_of_mem hr₁ hstart
  refine ⟨e₀, he₀, timeOutInMs, w', hl, hstarted, ?_⟩
  rw [← Timespec.nanos_after, ← htime]
  exact Timespec.le_iff_nanos.mp hdue

/-- Test whether what an expiry pops is due. -/
def isTimely (s : Sys) (l : Label) : Bool :=
  isNotRestarted s l &&
    match l, s.task, s.mQ with
    | .task, .idle, .expire w :: _ =>
      ((s.containers w).getSoonestTimer.all fun timer => timer.mFutureTime ≤ s.now) &&
        decide (∀ timer ∈ (s.containers w).mTree.stored,
          timer.mFutureTime.tvSec = s.now.tvSec → timer.mFutureTime.tvNsec ≤ s.now.tvNsec)
    | _, _, _ => true

theorem timely_of_isTimely (hok : isTimely s l = true) : Timely s l := by
  obtain ⟨hnot, hdue⟩ := Bool.and_eq_true_iff.mp hok
  refine ⟨?_, ?_, notRestarted_of_isNotRestarted hnot⟩
  · rintro rfl htask w rest hq timer htop
    simp only [htask, hq, htop, Bool.and_eq_true] at hdue
    simpa using hdue.1
  · rintro rfl htask w rest hq
    simp only [htask, hq, Bool.and_eq_true, decide_eq_true_eq] at hdue
    exact hdue.2

/-- Two timers of different seconds expire one after the other. -/
theorem notEarly_run_two :
    ∃ h s, Run machine {} h s ∧ NotEarly h ∧
      (∃ e ∈ h, Out.timeOut 0 ⟨1, 2, 500000001, by decide⟩ ⟨1, 2, 500000001, by decide⟩ ∈ e.out) ∧
      ∃ e ∈ h, Out.timeOut 1 ⟨2, 1, 1, by decide⟩ ⟨2, 1, 1, by decide⟩ ∈ e.out := by
  obtain ⟨h, s, hr, -, hcheck⟩ := machine.exists_run {}
    [.start 0 2500 false, .task, .start 1 1000 false, .task, .tick ⟨1, 1, by decide⟩,
      .wake [false], .poll, .poll, .poll, .task, .task, .task, .task, .task,
      .tick ⟨2, 600000000, by decide⟩, .wake [false], .poll, .poll, .poll, .task, .task, .task,
      .task, .task, .task]
    (fun h _ => decide (
      (∃ e ∈ h, Out.timeOut 0 ⟨1, 2, 500000001, by decide⟩ ⟨1, 2, 500000001, by decide⟩ ∈ e.out) ∧
      (∃ e ∈ h, Out.timeOut 1 ⟨2, 1, 1, by decide⟩ ⟨2, 1, 1, by decide⟩ ∈ e.out) ∧
      ∀ e ∈ h, isTimely e.pre e.label = true)) (by decide +kernel)
  obtain ⟨hfirst, hsecond, hok⟩ := of_decide_eq_true hcheck
  exact ⟨h, s, hr, notEarly_run hr fun e he => timely_of_isTimely (hok e he), hfirst, hsecond⟩

/-- Two timers of the same second: the later one fires together with the earlier one. -/
theorem early_in_second :
    ¬ ∀ (h : List (Event Sys Label Out)) (s : Sys), Run machine {} h s → NotEarly h := by
  intro hall
  obtain ⟨h, e, hr, hl, -, hcheck⟩ := machine.exists_run_last {}
    [.start 0 1000 false, .start 1 1900 false, .task, .task, .tick ⟨1, 1, by decide⟩,
      .wake [false], .poll, .poll, .poll, .task, .task, .task, .task, .task, .task, .task] .task
    (fun _ e => decide (
      Out.timeOut 1 ⟨2, 1, 900000001, by decide⟩ ⟨2, 1, 900000001, by decide⟩ ∈ e.out ∧
      e.pre.now = ⟨1, 1, by decide⟩)) (by decide +kernel)
  obtain ⟨htimeOut, hnow⟩ := of_decide_eq_true hcheck
  obtain ⟨e₀, he₀, timeOutInMs, w, hstart, -, hle⟩ := hall _ _ hr h e [] rfl _ _ _ htimeOut
  have hdelay : ∀ e ∈ h, ∀ timeOutInMs w, e.label = .start 1 timeOutInMs w →
      timeOutInMs = 1900 := by
    refine forall_label (P := fun l => ∀ timeOutInMs w, l = .start 1 timeOutInMs w →
      timeOutInMs = 1900) hl ?_
    simp
  obtain rfl := hdelay e₀ he₀ timeOutInMs w hstart
  rw [hnow] at hle
  simp only [Timespec.nanos] at hle
  omega

end OppoA37.LocTimer
