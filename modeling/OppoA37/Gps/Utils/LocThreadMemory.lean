import OppoA37.Gps.Utils.LocThread

/-!
# The memory of `LocThread.cpp`

A delegate is deleted by whoever lets go of it last, and a runnable by its thread.

* `safe_run` says that no memory is used after it was freed, and that no delegate is lost;
* `joined_run` says that a thread that is not detached has ended when it was stopped.
-/

namespace OppoA37.LocThread

open Lts

/-! ## Deletions -/

/-- The delegate that a step reads or writes. -/
def touches (s : State) : Label → Option ℕ
  | .client _ =>
    match s.client with
    | .busy i _ => some i
    | .empty | .has _ => none
  | .thread i _ => some i
  | .start _ _ | .stop | .delete => none

/-- The runnable that a step calls or deletes, or that the next steps will. -/
def usesRunnable (s : State) : Label → Option ℕ
  | .thread i _ => if (s.delegates i).thread.uses then some i else none
  | .client _ | .start _ _ | .stop | .delete => none

/-- No memory is used after it was freed, and none is freed twice, or lost. -/
structure Safe (h : List (Event State Label Out)) (s : State) : Prop where
  delegate : ∀ e ∈ h, ∀ i, touches e.pre e.label = some i → (e.pre.delegates i).freed = false
  runnable : ∀ e ∈ h, ∀ i, usesRunnable e.pre e.label = some i →
    (e.pre.delegates i).runnableFreed = false
  /-- a delegate was deleted once, or not at all -/
  delegateOnce : ∀ i, (h.flatMap Event.out).count (.deletedDelegate i) =
    if (s.delegates i).freed then 1 else 0
  runnableOnce : ∀ i, (h.flatMap Event.out).count (.deletedRunnable i) =
    if (s.delegates i).runnableFreed then 1 else 0
  /-- when the client is done with a delegate and the thread is, it was deleted -/
  lossless : ∀ i < s.next, s.client.role i = .none →
    (s.delegates i).thread = .unborn ∨ (s.delegates i).thread = .ended →
    (s.delegates i).freed = true

/-- A thread that goes on was made. -/
theorem right_of_thread {s : State} {i : ℕ} {result : Bool} {p : Delegate × List Out}
    (hI : AllRight s) (hstep : (s.delegates i).threadStep i result = some p) :
    Right (s.delegates i) (s.client.role i) := by
  have hi := hI i
  split_ifs at hi
  · exact hi
  · rw [Delegate.threadStep, hi.1] at hstep
    cases hstep

/-- What the client is busy with was made. -/
theorem right_of_busy {s : State} {i : ℕ} {pc : ClientPc} (hI : AllRight s)
    (hclient : s.client = .busy i pc) : Right (s.delegates i) (.busy pc) := by
  have hi := hI i
  rw [hclient, Client.role, if_pos rfl] at hi
  split_ifs at hi
  · exact hi
  · cases hi.2

/-- Who touches a delegate still needs it, or is about to delete it. -/
theorem freed_of_touches {s s' : State} {l : Label} {out : List Out} (hI : AllRight s)
    (hs : machine.step s l = some (s', out)) {i : ℕ} (ht : touches s l = some i) :
    (s.delegates i).freed = false := by
  cases l with
  | start | stop | delete => cases ht
  | client created =>
    cases hclient : s.client with
    | empty | has =>
      rw [touches, hclient] at ht
      cases ht
    | busy j pc =>
      rw [touches, hclient] at ht
      obtain rfl := Option.some.inj ht
      have hright := right_of_busy hI hclient
      by_cases hdel : (Role.busy pc).deletes = true
      · exact hright.freed.mpr (Or.inr (Or.inl hdel))
      · refine (hright.freed_eq_false (Or.inl fun hzero => hdel ?_)).2
        cases pc <;> first | rfl | cases hzero
  | thread j result =>
    obtain rfl := Option.some.inj ht
    obtain ⟨p, hstep, -⟩ := Option.map_eq_some_iff.mp hs
    have hright := right_of_thread hI hstep
    by_cases hdel : (s.delegates j).thread = .delete
    · exact hright.freed.mpr (Or.inr (Or.inr hdel))
    · refine (hright.freed_eq_false (Or.inr fun hzero => hdel ?_)).2
      rw [Delegate.threadStep] at hstep
      cases hthread : (s.delegates j).thread <;> rw [hthread] at hstep hzero
      case unborn | ended => cases hstep
      all_goals cases hzero

/-- Who calls a runnable finds it. -/
theorem runnableFreed_of_uses {s s' : State} {l : Label} {out : List Out} (hI : AllRight s)
    (hs : machine.step s l = some (s', out)) {i : ℕ} (hu : usesRunnable s l = some i) :
    (s.delegates i).runnableFreed = false := by
  cases l with
  | start | stop | delete | client => cases hu
  | thread j result =>
    rw [usesRunnable] at hu
    split_ifs at hu with huses
    obtain rfl := Option.some.inj hu
    obtain ⟨p, hstep, -⟩ := Option.map_eq_some_iff.mp hs
    exact (right_of_thread hI hstep).runnableFreed_eq_false (Or.inr huses)

/-- What a step of the client deletes. -/
theorem deletions_of_clientStep {j : ℕ} {created : Bool} {pc : ClientPc} {d d' : Delegate}
    {a : After} {out : List Out} (hstep : d.clientStep j created pc = some (d', a, out)) (i : ℕ) :
    out.count (.deletedDelegate i) = (if j = i ∧ (Role.busy pc).deletes then 1 else 0) ∧
      out.count (.deletedRunnable i) = 0 ∧ d'.freed = (d.freed || (Role.busy pc).deletes) ∧
      d'.runnableFreed = d.runnableFreed := by
  cases pc <;> dsimp only [Delegate.clientStep] at hstep <;> (try split_ifs at hstep) <;>
    simp only [Option.some.injEq, Prod.mk.injEq] at hstep <;> obtain ⟨rfl, rfl, rfl⟩ := hstep <;>
    simp [Role.deletes, List.count_singleton]

/-- What a step of a thread deletes. -/
theorem deletions_of_threadStep {j : ℕ} {result : Bool} {d d' : Delegate} {out : List Out}
    (hstep : d.threadStep j result = some (d', out)) (i : ℕ) :
    out.count (.deletedDelegate i) = (if j = i ∧ d.thread = .delete then 1 else 0) ∧
      out.count (.deletedRunnable i) = (if j = i ∧ d.thread = .deleteRunnable then 1 else 0) ∧
      d'.freed = (d.freed || decide (d.thread = .delete)) ∧
      d'.runnableFreed = (d.runnableFreed || decide (d.thread = .deleteRunnable)) := by
  rw [Delegate.threadStep] at hstep
  cases hthread : d.thread <;> rw [hthread] at hstep <;> dsimp only at hstep
  case unborn | ended => cases hstep
  all_goals
    obtain ⟨rfl, rfl⟩ := Prod.mk.inj (Option.some.inj hstep)
  case prerun | postrun => cases d.mRunnable <;> simp
  all_goals simp [List.count_singleton]

/-- The deletions of a step, and what it leaves. -/
theorem deletions_of_step {s s' : State} {l : Label} {out : List Out} (hI : AllRight s)
    (hs : machine.step s l = some (s', out)) (i : ℕ) :
    (out.count (.deletedDelegate i) + if (s.delegates i).freed then 1 else 0) =
        (if (s'.delegates i).freed then 1 else 0) ∧
      (out.count (.deletedRunnable i) + if (s.delegates i).runnableFreed then 1 else 0) =
        if (s'.delegates i).runnableFreed then 1 else 0 := by
  have hfreed : ∀ j, touches s l = some j → (s.delegates j).freed = false :=
    fun j => freed_of_touches hI hs
  have hrunnable : ∀ j, usesRunnable s l = some j → (s.delegates j).runnableFreed = false :=
    fun j => runnableFreed_of_uses hI hs
  cases steps_of_step hs with
  | refused | idles | stops | leaves => simp
  | starts joinable hclient =>
    have hi := hI i
    by_cases hij : i = s.next
    · rw [if_neg (by omega)] at hi
      subst hij
      simp [hi.1, Delegate.new]
    · simp [Function.update_of_ne hij]
  | client created j pc hclient d a out hstep =>
    obtain ⟨hout, hnone, hd, hr⟩ := deletions_of_clientStep hstep i
    have hresult : (a.result j).2.count (.deletedDelegate i) = 0 ∧
        (a.result j).2.count (.deletedRunnable i) = 0 := by
      cases a <;> simp [After.result]
    have hlive := hfreed j (by rw [touches, hclient])
    rw [List.count_append, List.count_append, hresult.1, hresult.2, hout, hnone]
    by_cases hij : j = i
    · subst hij
      simp [hd, hr, hlive]
    · simp [hij, Function.update_of_ne (Ne.symm hij)]
  | thread j result d out hstep =>
    obtain ⟨hout, hout', hd, hr⟩ := deletions_of_threadStep hstep i
    have hlive := hfreed j rfl
    rw [hout, hout']
    by_cases hij : j = i
    · subst hij
      have hnot : (s.delegates j).thread = .deleteRunnable →
          (s.delegates j).runnableFreed = false := by
        intro hthread
        exact hrunnable j (by simp [usesRunnable, hthread, ThreadPc.uses])
      refine ⟨by simp [hd, hlive], ?_⟩
      by_cases hthread : (s.delegates j).thread = .deleteRunnable
      · simp [hr, hthread, hnot hthread]
      · simp [hr, hthread]
    · simp [hij, Function.update_of_ne (Ne.symm hij)]

/-- **Memory is safe**, however the client and the threads get in each other's way. -/
theorem safe_run {h : List (Event State Label Out)} {s : State}
    (hrun : Run machine .initial h s) : Safe h s := by
  have hpre : ∀ e ∈ h, AllRight e.pre ∧ machine.step e.pre e.label = some (e.post, e.out) := by
    intro e he
    obtain ⟨h₁, h₂, rfl⟩ := List.append_of_mem he
    obtain ⟨hbefore, hs, -⟩ := hrun.event
    exact ⟨right_run hbefore, hs⟩
  have hcount : ∀ i, (h.flatMap Event.out).count (.deletedDelegate i) =
        (if (s.delegates i).freed then 1 else 0) ∧
      (h.flatMap Event.out).count (.deletedRunnable i) =
        if (s.delegates i).runnableFreed then 1 else 0 := by
    intro i
    clear hpre
    induction hrun with
    | nil => exact ⟨rfl, rfl⟩
    | snoc hbefore hs ih =>
      obtain ⟨hd, hr⟩ := deletions_of_step (right_run hbefore) hs i
      simp only [List.flatMap_append, List.flatMap_singleton, List.count_append]
      omega
  refine ⟨fun e he i => freed_of_touches (hpre e he).1 (hpre e he).2,
    fun e he i => runnableFreed_of_uses (hpre e he).1 (hpre e he).2, fun i => (hcount i).1,
    fun i => (hcount i).2, fun i hi hrole hthread => ?_⟩
  have hright := right_run hrun i
  rw [if_pos hi, hrole] at hright
  exact hright.freed_of_done hthread

/-- The client leaves a detached thread alone, which is the last to need the delegate. -/
theorem safe_detached : ∃ h s, Run machine .initial h s ∧
    h.map Event.label = [.start true false, .client true, .client true, .thread 0 true,
      .thread 0 true, .delete, .client true, .client true, .client true] ++
      List.replicate 8 (.thread 0 false) ∧
    (h.flatMap Event.out).count (.deletedDelegate 0) = 1 ∧ Safe h s := by
  obtain ⟨h, s, hrun, hl, hcheck⟩ := machine.exists_run .initial
    ([.start true false, .client true, .client true, .thread 0 true, .thread 0 true, .delete,
      .client true, .client true, .client true] ++ List.replicate 8 (.thread 0 false))
    (fun h _ => decide ((h.flatMap Event.out).count (.deletedDelegate 0) = 1))
    (by decide +kernel)
  exact ⟨h, s, hrun, hl, of_decide_eq_true hcheck, safe_run hrun⟩

/-! ## Joining -/

/-- A thread does not return from a call of the client. -/
theorem not_mem_of_threadStep {i : ℕ} {result : Bool} {d d' : Delegate} {out : List Out}
    (hstep : d.threadStep i result = some (d', out)) (j : Option ℕ) (success : Bool) :
    .started j success ∉ out ∧ .stopped j ∉ out := by
  rw [Delegate.threadStep] at hstep
  cases hthread : d.thread <;> rw [hthread] at hstep <;> dsimp only at hstep
  case unborn | ended => cases hstep
  all_goals
    obtain ⟨rfl, rfl⟩ := Prod.mk.inj (Option.some.inj hstep)
  case prerun | postrun => cases d.mRunnable <;> simp
  all_goals simp

/-- Before its last step, neither does the client. -/
theorem not_mem_of_clientStep {i : ℕ} {created : Bool} {pc : ClientPc} {d d' : Delegate}
    {a : After} {out : List Out} (hstep : d.clientStep i created pc = some (d', a, out))
    (j : Option ℕ) (success : Bool) : .started j success ∉ out ∧ .stopped j ∉ out := by
  cases pc <;> dsimp only [Delegate.clientStep] at hstep <;> (try split_ifs at hstep) <;>
    simp only [Option.some.injEq, Prod.mk.injEq] at hstep <;> obtain ⟨rfl, rfl, rfl⟩ := hstep <;>
    simp

/-- `stop` returns when the thread was joined, if it is to be joined. -/
theorem stopped_of_clientStep {i : ℕ} {created : Bool} {pc : ClientPc} {d d' : Delegate}
    {out : List Out} (hstep : d.clientStep i created pc = some (d', .stopped, out)) :
    (Role.busy pc).afterJoin = true ∧ d'.thread = d.thread ∧ d'.detached = d.detached := by
  cases pc <;> dsimp only [Delegate.clientStep] at hstep <;> (try split_ifs at hstep) <;>
    simp only [Option.some.injEq, Prod.mk.injEq, reduceCtorEq, false_and, and_false,
      destroyed_eq_stopped] at hstep
  all_goals
    obtain ⟨rfl, rfl, -⟩ := hstep
    exact ⟨rfl, rfl, rfl⟩

/-- **A thread that was stopped has ended**, and nothing of it is left, unless it was detached. -/
theorem joined_run {h : List (Event State Label Out)} {s : State} (hrun : Run machine .initial h s)
    (e : Event State Label Out) (he : e ∈ h) (i : ℕ) (hstopped : .stopped (some i) ∈ e.out)
    (hattached : (e.post.delegates i).detached = false) :
    (e.post.delegates i).thread = .ended ∧ (e.post.delegates i).freed = true := by
  obtain ⟨h₁, h₂, rfl⟩ := List.append_of_mem he
  obtain ⟨hbefore, hs, -⟩ := hrun.event
  have hpre := right_run hbefore
  have hpost := hpre.step hs
  obtain ⟨pre, l, out, post⟩ := e
  dsimp only at hstopped hattached hs hpre hpost ⊢
  cases steps_of_step hs with
  | refused | idles | starts | stops | leaves => simp at hstopped
  | thread j result d out hstep =>
    exact absurd hstopped (not_mem_of_threadStep hstep (some i) true).2
  | client created j pc hclient d a out hstep =>
    rcases List.mem_append.mp hstopped with hmem | hmem
    · exact absurd hmem (not_mem_of_clientStep hstep (some i) true).2
    have ha : a = .stopped ∧ i = j := by cases a <;> simp_all [After.result]
    obtain ⟨rfl, rfl⟩ := ha
    dsimp only at hattached ⊢
    rw [Function.update_self] at hattached ⊢
    obtain ⟨hjoin, hthread, hdetached⟩ := stopped_of_clientStep hstep
    rw [hdetached] at hattached
    have hended := (right_of_busy hpre hclient).joined hattached hjoin
    rw [← hthread] at hended
    have hright := (right_of_busy hpre hclient).client hstep
    exact ⟨hended, hright.freed_of_done (Or.inr hended)⟩

/-- A thread is stopped while it runs. -/
theorem joined : ∃ h e, Run machine .initial (h ++ [e]) e.post ∧
    h.map Event.label = [.start true true, .client true, .client true, .thread 0 true,
      .thread 0 true, .thread 0 true, .stop, .client true, .client true] ++
      List.replicate 7 (.thread 0 true) ++ List.replicate 3 (.client true) ∧
    e.out = [.deletedDelegate 0, .stopped (some 0)] ∧
    (e.post.delegates 0).thread = .ended ∧ (e.post.delegates 0).freed = true := by
  obtain ⟨h, e, hrun, hl, -, hcheck⟩ := machine.exists_run_last .initial
    ([.start true true, .client true, .client true, .thread 0 true, .thread 0 true,
      .thread 0 true, .stop, .client true, .client true] ++
      List.replicate 7 (.thread 0 true) ++ List.replicate 3 (.client true)) (.client true)
    (fun _ e => decide (e.out = [.deletedDelegate 0, .stopped (some 0)]) &&
      !(e.post.delegates 0).detached)
    (by decide +kernel)
  simp only [Bool.and_eq_true, decide_eq_true_eq, Bool.not_eq_true'] at hcheck
  obtain ⟨hout, hattached⟩ := hcheck
  obtain ⟨hended, hfreed⟩ := joined_run hrun e (by simp) 0 (by simp [hout]) hattached
  exact ⟨h, e, hrun, hl, hout, hended, hfreed⟩

end OppoA37.LocThread
