import OppoA37.Lib.Machine

/-!
# The daemon connection: launching the thread

`loc_eng_dmn_conn_launch_thelper` creates a thread and waits until it is ready. The thread calls its
init function, says in `thread_exit` if that failed, and signals in either case. What is returned is
`thread_exit`, read again when the lock was dropped.

The wait is a single `pthread_cond_wait`, which may return without a signal. Then nobody looks
whether the thread is ready, and the launch succeeds before the init function was even called:
`spurious_launch`. `launch_run` says that it is honest when every wait ends with a signal.
-/

namespace OppoA37.ThreadHelper

open Lts

/-! ## The two threads -/

/-- Which functions there are. -/
structure Procs where
  /-- `thread_proc_init` -/
  init : Bool
  /-- `thread_proc_pre` -/
  pre : Bool
  /-- `thread_proc` -/
  task : Bool
  deriving DecidableEq, Repr

/-- Where the launching thread is in `loc_eng_dmn_conn_launch_thelper`. -/
inductive Launcher where
  /-- before `thelper_signal_init` -/
  | start
  /-- before `thelper_signal_wait` -/
  | created
  /-- in `pthread_cond_wait` -/
  | waiting
  /-- behind `thelper_signal_wait`, with what it returned -/
  | waited (result : ℤ)
  /-- at its end -/
  | returned (result : ℤ)
  deriving DecidableEq, Repr

/-- Where the new thread is in `thelper_main`. -/
inductive Main where
  /-- not yet created -/
  | unborn
  /-- before `thread_proc_init` -/
  | init
  /-- before `thread_exit` is set, when that failed -/
  | initFailed
  /-- before `thelper_signal_ready` then -/
  | exiting
  /-- before `thelper_signal_ready` otherwise -/
  | ready
  /-- before `thread_proc_pre` -/
  | pre
  /-- before `thread_exit` is set, when that failed -/
  | preFailed
  /-- before `thread_proc` -/
  | task
  /-- before `thread_exit` is set, when that failed -/
  | taskFailed
  /-- before the test of `thread_exit` -/
  | test
  /-- before `thread_proc_post` -/
  | post
  /-- at its end -/
  | ended
  deriving DecidableEq, Repr

/-- A `loc_eng_dmn_conn_thelper`, and where its threads are. -/
structure Thelper where
  /-- `thread_exit` -/
  threadExit : Bool
  /-- `thread_ready` -/
  threadReady : Bool
  /-- `thread_cond` was signalled while somebody waited -/
  signalled : Bool := false
  /-- the launching thread -/
  launcher : Launcher := .start
  /-- the new thread -/
  main : Main := .unborn
  /-- what `thread_proc_init` returned -/
  initResult : Option ℤ := none
  deriving DecidableEq, Repr

/-- Who acts. -/
inductive ThelperLabel where
  /-- `thelper_signal_init`, and the thread is created -/
  | launch
  /-- `thelper_signal_wait` up to its wait, or to its end -/
  | lock
  /-- `pthread_cond_wait` returns, and `thelper_signal_wait` goes on -/
  | wake
  /-- `thread_exit` is returned -/
  | read
  /-- the new thread goes on; `result` is what the function returns that it calls -/
  | thread (result : ℤ)
  deriving DecidableEq, Repr

namespace Thelper

/-- The end of `thelper_signal_wait`. -/
def unlock (s : Thelper) : Thelper :=
  { s with launcher := .waited (if s.threadExit then -1 else 0) }

/-- `thelper_signal_ready` -/
def signalReady (s : Thelper) : Thelper :=
  { s with threadReady := true, signalled := s.signalled || decide (s.launcher = .waiting) }

/-- What the new thread does next in `thelper_main`. -/
def thread (procs : Procs) (s : Thelper) (result : ℤ) : Option Thelper :=
  match s.main with
  | .unborn => none
  | .init =>
    if procs.init then
      some { s with initResult := some result, main := if result < 0 then .initFailed else .ready }
    else some { s with main := .ready }
  -- without the mutex
  | .initFailed => some { s with threadExit := true, main := .exiting }
  | .exiting => some { s.signalReady with main := .ended }
  | .ready => some { s.signalReady with main := .pre }
  | .pre => some { s with main := if procs.pre ∧ result < 0 then .preFailed else .task }
  | .preFailed => some { s with threadExit := true, main := .ended }
  | .task => some { s with main := if procs.task ∧ result < 0 then .taskFailed else .test }
  | .taskFailed => some { s with threadExit := true, main := .test }
  | .test => some { s with main := if s.threadExit then .post else .task }
  -- the result of `thread_proc_post` is only logged
  | .post => some { s with main := .ended }
  | .ended => none

/-- A step of either thread. -/
def step (procs : Procs) (s : Thelper) : ThelperLabel → Option Thelper
  | .launch =>
    if s.launcher = .start then
      some { s with threadExit := false, threadReady := false, launcher := .created, main := .init }
    else none
  | .lock =>
    if s.launcher = .created then
      if s.threadReady = false ∧ s.threadExit = false then some { s with launcher := .waiting }
      else some s.unlock
    else none
  | .wake =>
    if s.launcher = .waiting then some { s.unlock with signalled := false } else none
  | .read =>
    match s.launcher with
    -- the result of `thelper_signal_wait` is dropped
    | .waited _ => some { s with launcher := .returned (if s.threadExit then 1 else 0) }
    | _ => none
  | .thread result => s.thread procs result

end Thelper

/-- The two threads. -/
def machine (procs : Procs) : Machine Thelper ThelperLabel Unit where
  step s l := (s.step procs l).map fun s' => (s', [])

/-! ## An honest launch -/

variable {procs : Procs} {s s' : Thelper} {l : ThelperLabel}

/-- The init function has completed successfully, or there is none. -/
def Initialised (procs : Procs) (s : Thelper) : Prop :=
  (∃ result, s.initResult = some result ∧ 0 ≤ result) ∨
    procs.init = false ∧ s.initResult = none

/-- It has failed. -/
def Failed (s : Thelper) : Prop := ∃ result, s.initResult = some result ∧ result < 0

/-- What is returned says whether the init function succeeded. -/
structure Honest (procs : Procs) (s : Thelper) : Prop where
  /-- 0 is a success -/
  success : s.launcher = .returned 0 → Initialised procs s
  /-- a failure is not 0 -/
  failure : Failed s → s.launcher ≠ .returned 0

/-- A wait ends with a signal. -/
def Signalled (s : Thelper) (l : ThelperLabel) : Prop := l = .wake → s.signalled = true

instance instDecidableSignalled (s : Thelper) (l : ThelperLabel) : Decidable (Signalled s l) :=
  inferInstanceAs (Decidable (_ → _))

/-- The flags say how far the new thread is. -/
def FlagsRight (procs : Procs) (s : Thelper) : Prop :=
  match s.main with
  | .unborn => s.initResult = none
  | .init => s.threadExit = false ∧ s.threadReady = false ∧ s.initResult = none
  | .initFailed => s.threadExit = false ∧ s.threadReady = false ∧ Failed s
  | .exiting => s.threadExit = true ∧ s.threadReady = false ∧ Failed s
  | .ready => s.threadExit = false ∧ s.threadReady = false ∧ Initialised procs s
  | .ended => s.threadReady = true ∧ (s.threadExit = true ∧ Failed s ∨ Initialised procs s)
  | _ => s.threadReady = true ∧ Initialised procs s

/-- The launching thread is past its wait only when the new thread let it. -/
def WaitRight (procs : Procs) (s : Thelper) : Prop :=
  match s.launcher with
  | .start => s.main = .unborn ∧ s.signalled = false
  | .created => s.main ≠ .unborn ∧ s.signalled = false
  | .waiting => s.main ≠ .unborn ∧ (s.signalled = true → s.threadReady = true)
  | .waited _ => s.main ≠ .unborn ∧ (s.threadReady = true ∨ s.threadExit = true)
  | .returned result => s.main ≠ .unborn ∧ (s.threadReady = true ∨ s.threadExit = true) ∧
      (result = 0 → Initialised procs s)

/-! ## What one step does -/

/-- What the new thread leaves alone: it only raises flags, and does not forget a success. -/
structure Advances (procs : Procs) (s s' : Thelper) : Prop where
  launcher : s'.launcher = s.launcher
  born : s'.main ≠ .unborn
  exit : s.threadExit = true → s'.threadExit = true
  ready : s.threadReady = true → s'.threadReady = true
  signalled : s'.signalled = true →
    s.signalled = true ∨ s.launcher = .waiting ∧ s'.threadReady = true
  initialised : s.threadReady = true ∨ s.threadExit = true → Initialised procs s →
    Initialised procs s'

theorem advances_of_thread {result : ℤ} (h : FlagsRight procs s)
    (hstep : s.thread procs result = some s') : Advances procs s s' := by
  rw [Thelper.thread] at hstep
  rw [FlagsRight] at h
  cases hmain : s.main <;> rw [hmain] at hstep h
  case unborn | ended => cases hstep
  case init =>
    -- no flag is set before
    have hno : ¬ (s.threadReady = true ∨ s.threadExit = true) := by simp [h.1, h.2.1]
    dsimp only at hstep
    split_ifs at hstep <;> obtain rfl := Option.some.inj hstep <;>
      exact ⟨rfl, by simp, id, id, Or.inl, fun hflag => absurd hflag hno⟩
  case pre | task | test =>
    obtain rfl := Option.some.inj hstep
    refine ⟨rfl, ?_, id, id, Or.inl, fun _ => id⟩
    dsimp only
    split_ifs <;> simp
  case initFailed | preFailed | taskFailed =>
    obtain rfl := Option.some.inj hstep
    exact ⟨rfl, by simp, fun _ => rfl, id, Or.inl, fun _ => id⟩
  case exiting | ready =>
    obtain rfl := Option.some.inj hstep
    refine ⟨rfl, by simp, id, fun _ => rfl, fun hsignalled => ?_, fun _ => id⟩
    exact (Bool.or_eq_true_iff.mp hsignalled).imp id fun hwait => ⟨of_decide_eq_true hwait, rfl⟩
  case post =>
    obtain rfl := Option.some.inj hstep
    exact ⟨rfl, by simp, id, id, Or.inl, fun _ => id⟩

/-- The new thread keeps the flags right. -/
theorem FlagsRight.thread {result : ℤ} (h : FlagsRight procs s)
    (hstep : s.thread procs result = some s') : FlagsRight procs s' := by
  rw [Thelper.thread] at hstep
  rw [FlagsRight] at h
  cases hmain : s.main <;> rw [hmain] at hstep h <;> dsimp only at hstep h
  case unborn | ended => cases hstep
  case init =>
    obtain ⟨hexit, hready, hresult⟩ := h
    split_ifs at hstep with hinit hneg <;> obtain rfl := Option.some.inj hstep
    · exact ⟨hexit, hready, result, rfl, hneg⟩
    · exact ⟨hexit, hready, Or.inl ⟨result, rfl, not_lt.mp hneg⟩⟩
    · exact ⟨hexit, hready, Or.inr ⟨Bool.eq_false_iff.mpr hinit, hresult⟩⟩
  case initFailed =>
    obtain rfl := Option.some.inj hstep
    exact ⟨rfl, h.2⟩
  case exiting =>
    obtain rfl := Option.some.inj hstep
    exact ⟨rfl, Or.inl ⟨h.1, h.2.2⟩⟩
  case ready =>
    obtain rfl := Option.some.inj hstep
    exact ⟨rfl, h.2.2⟩
  case pre | task | test =>
    obtain rfl := Option.some.inj hstep
    rw [FlagsRight]
    dsimp only
    split_ifs <;> exact h
  case preFailed | post =>
    obtain rfl := Option.some.inj hstep
    exact ⟨h.1, Or.inr h.2⟩
  case taskFailed =>
    obtain rfl := Option.some.inj hstep
    exact h

/-- The new thread does not move the launching one. -/
theorem WaitRight.thread (h : WaitRight procs s) (hadv : Advances procs s s')
    (hmain : s.main ≠ .unborn) : WaitRight procs s' := by
  rw [WaitRight, hadv.launcher]
  rw [WaitRight] at h
  have hflags : s.threadReady = true ∨ s.threadExit = true →
      s'.threadReady = true ∨ s'.threadExit = true :=
    Or.imp hadv.ready hadv.exit
  cases hlauncher : s.launcher <;> rw [hlauncher] at h <;> dsimp only at h ⊢
  case start => exact absurd h.1 hmain
  case created =>
    refine ⟨hadv.born, Bool.eq_false_iff.mpr fun hsignalled => ?_⟩
    rcases hadv.signalled hsignalled with hold | ⟨hwait, -⟩
    · exact Bool.eq_false_iff.mp h.2 hold
    · rw [hlauncher] at hwait
      cases hwait
  case waiting =>
    refine ⟨hadv.born, fun hsignalled => ?_⟩
    rcases hadv.signalled hsignalled with hold | ⟨-, hready⟩
    · exact hadv.ready (h.2 hold)
    · exact hready
  case waited => exact ⟨hadv.born, hflags h.2⟩
  case returned =>
    exact ⟨hadv.born, hflags h.2.1, fun hzero => hadv.initialised h.2.1 (h.2.2 hzero)⟩

/-- A failure is no success. -/
theorem Failed.not_initialised (h : Failed s) : ¬ Initialised procs s := by
  obtain ⟨result, hresult, hneg⟩ := h
  rintro (⟨result', hresult', hpos⟩ | ⟨-, hnone⟩)
  · rw [hresult] at hresult'
    obtain rfl := Option.some.inj hresult'
    exact absurd hneg (not_lt.mpr hpos)
  · rw [hresult] at hnone
    cases hnone

/-- Once the new thread has let the launching one go on without setting `thread_exit`, its init
function has succeeded. -/
theorem FlagsRight.initialised (h : FlagsRight procs s)
    (hflags : s.threadReady = true ∨ s.threadExit = true) (hexit : s.threadExit = false)
    (hmain : s.main ≠ .unborn) : Initialised procs s := by
  have hready : s.threadReady = true := hflags.resolve_right (by simp [hexit])
  rw [FlagsRight] at h
  cases hpc : s.main <;> rw [hpc] at h <;> dsimp only at h
  case unborn => exact absurd hpc hmain
  case init | initFailed | exiting | ready => simp [hready] at h
  case ended => exact h.2.resolve_left (by simp [hexit])
  all_goals exact h.2

/-- **One step** keeps the flags and the wait right, if it does not end a wait without a signal. -/
theorem right_step (h : FlagsRight procs s ∧ WaitRight procs s) (hok : Signalled s l)
    (hstep : s.step procs l = some s') : FlagsRight procs s' ∧ WaitRight procs s' := by
  obtain ⟨hflags, hwait⟩ := h
  cases l <;> rw [Thelper.step] at hstep
  case launch =>
    split_ifs at hstep with hstart
    obtain rfl := Option.some.inj hstep
    rw [WaitRight, hstart] at hwait
    rw [FlagsRight, hwait.1] at hflags
    exact ⟨⟨rfl, rfl, hflags⟩, by simp, hwait.2⟩
  case lock =>
    split_ifs at hstep with hcreated hno <;> obtain rfl := Option.some.inj hstep <;>
      rw [WaitRight, hcreated] at hwait
    · exact ⟨hflags, hwait.1, fun hyes => absurd hyes (by simp [hwait.2])⟩
    · refine ⟨hflags, hwait.1, ?_⟩
      by_contra! hnone
      exact hno ⟨Bool.eq_false_iff.mpr hnone.1, Bool.eq_false_iff.mpr hnone.2⟩
  case wake =>
    split_ifs at hstep with hwaiting
    obtain rfl := Option.some.inj hstep
    rw [WaitRight, hwaiting] at hwait
    exact ⟨hflags, hwait.1, Or.inl (hwait.2 (hok rfl))⟩
  case read =>
    cases hwaited : s.launcher <;> rw [hwaited] at hstep <;> try cases hstep
    rw [WaitRight, hwaited] at hwait
    refine ⟨hflags, hwait.1, hwait.2, fun hzero => ?_⟩
    refine hflags.initialised hwait.2 ?_ hwait.1
    by_contra hexit
    rw [Bool.not_eq_false] at hexit
    simp [hexit] at hzero
  case thread result =>
    have hadv := advances_of_thread hflags hstep
    refine ⟨hflags.thread hstep, hwait.thread hadv ?_⟩
    intro hunborn
    rw [Thelper.thread, hunborn] at hstep
    cases hstep

/-! ## Runs -/

/-- Before the launch; what the flags are then does not matter. -/
def fresh (threadExit threadReady : Bool) : Thelper := { threadExit, threadReady }

/-- **Launches are honest** in every run in which waits end with a signal: 0 is returned only when
the init function has completed successfully. -/
theorem launch_run (procs : Procs) (threadExit threadReady : Bool)
    {h : List (Event Thelper ThelperLabel Unit)} {s : Thelper}
    (hrun : Run (machine procs) (fresh threadExit threadReady) h s)
    (hok : ∀ e ∈ h, Signalled e.pre e.label) : Honest procs s := by
  have hright : FlagsRight procs s ∧ WaitRight procs s := by
    have hfresh : FlagsRight procs (fresh threadExit threadReady) ∧
        WaitRight procs (fresh threadExit threadReady) := ⟨rfl, rfl, rfl⟩
    refine hrun.invariant_of (fun s => FlagsRight procs s ∧ WaitRight procs s) Signalled
      hfresh (fun s l s' out hI hok hstep => ?_) hok
    obtain ⟨s'', hs, heq⟩ := Option.map_eq_some_iff.mp hstep
    obtain ⟨rfl, -⟩ := Prod.mk.inj heq
    exact right_step hI hok hs
  have hsuccess : s.launcher = .returned 0 → Initialised procs s := by
    intro hreturned
    have hwait := hright.2
    rw [WaitRight, hreturned] at hwait
    exact hwait.2.2 rfl
  exact ⟨hsuccess, fun hfailed hreturned => hfailed.not_initialised (hsuccess hreturned)⟩

/-- A launch that waits until the new thread is ready. -/
theorem signalled_launch :
    ∃ h s, Run (machine ⟨true, true, true⟩) (fresh false false) h s ∧
      h.map Event.label = [.launch, .lock, .thread 0, .thread 0, .wake, .read] ∧
      s.launcher = .returned 0 ∧ s.main = .pre ∧ Honest ⟨true, true, true⟩ s := by
  obtain ⟨h, s, hrun, hl, hcheck⟩ := (machine ⟨true, true, true⟩).exists_run (fresh false false)
    [.launch, .lock, .thread 0, .thread 0, .wake, .read]
    (fun h s => decide (s.launcher = .returned 0 ∧ s.main = .pre) &&
      h.all fun e => decide (Signalled e.pre e.label)) (by decide)
  obtain ⟨hend, hok⟩ := Bool.and_eq_true_iff.mp hcheck
  obtain ⟨hlauncher, hmain⟩ := of_decide_eq_true hend
  refine ⟨h, s, hrun, hl, hlauncher, hmain, ?_⟩
  exact launch_run _ _ _ hrun fun e he => of_decide_eq_true (List.all_eq_true.mp hok e he)

/-- The wait ends before the new thread has done anything. The launch returns 0, and then the init
function fails. -/
theorem spurious_launch :
    ∃ h s, Run (machine ⟨true, true, true⟩) (fresh false false) h s ∧
      h.map Event.label = [.launch, .lock, .wake, .read, .thread (-1)] ∧
      s.launcher = .returned 0 ∧ Failed s ∧ ¬ Honest ⟨true, true, true⟩ s := by
  obtain ⟨h, s, hrun, hl, hcheck⟩ := (machine ⟨true, true, true⟩).exists_run (fresh false false)
    [.launch, .lock, .wake, .read, .thread (-1)]
    (fun _ s => decide (s.launcher = .returned 0 ∧ s.initResult = some (-1))) (by decide)
  obtain ⟨hlauncher, hresult⟩ := of_decide_eq_true hcheck
  have hfailed : Failed s := ⟨-1, hresult, by omega⟩
  exact ⟨h, s, hrun, hl, hlauncher, hfailed, fun hhonest => hhonest.failure hfailed hlauncher⟩

end OppoA37.ThreadHelper
