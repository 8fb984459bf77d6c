import OppoA37.Lib.Monitor

/-!
# The threads of `LocThread.cpp`

A client starts a thread with a `LocRunnable` and stops it again. The client and the thread share
a `LocThreadDelegate` and count who still needs it; whoever lets go of it last deletes it. The
thread runs the runnable as long as `mRunnable` is not `NULL`, and deletes the runnable at its end.
`mRunnable` is written by both without a lock, so every read and every write of it is a step of its
own.

A client uses one `LocThread` after the other. The delegates are numbered in the order in which
they are made; a detached thread may outlive the client's interest in it, so any number of threads
may be running.

`Right` is the invariant, seen from one delegate, and `right_run` the run lemma.
-/

namespace OppoA37.LocThread

open Lts

/-! ## The two sides of a delegate -/

/-- Where the thread is in `threadMain`. -/
inductive ThreadPc where
  /-- not created -/
  | unborn
  /-- before it reads `mRunnable` -/
  | start
  /-- before `prerun` -/
  | prerun
  /-- at the head of the loop -/
  | loop
  /-- in `run` -/
  | running
  /-- before `postrun` -/
  | postrun
  /-- before `mRunnable` is set to `NULL` -/
  | clear
  /-- before `delete runnable` -/
  | deleteRunnable
  /-- at the head of `destroy` -/
  | destroy
  /-- before the critical section of `destroy` -/
  | lock
  /-- before `delete this` -/
  | delete
  /-- at its end -/
  | ended
  deriving DecidableEq, Repr

/-- Where the client is with a delegate. What it is destroyed for is whether it was stopped, or
could not be started. -/
inductive ClientPc where
  /-- before the thread is created -/
  | create
  /-- before `isRunning` in `create` -/
  | check
  /-- in `bye` -/
  | bye
  /-- at the head of `stop` -/
  | stop
  /-- before `mJoinable` is looked at -/
  | join
  /-- in `pthread_join` -/
  | joining
  /-- at the head of `destroy` -/
  | destroy (stopped : Bool)
  /-- before the critical section of `destroy` -/
  | lock (stopped : Bool)
  /-- before `delete this` -/
  | delete (stopped : Bool)
  deriving DecidableEq, Repr

/-- A `LocThreadDelegate` with its thread and its runnable. -/
structure Delegate where
  /-- `mRunnable` is not `NULL` -/
  mRunnable : Bool
  /-- `mJoinable` -/
  mJoinable : Bool
  /-- `mRefCount` -/
  mRefCount : ℤ
  /-- the delegate was deleted -/
  freed : Bool
  /-- the runnable was deleted -/
  runnableFreed : Bool
  /-- the thread was detached -/
  detached : Bool
  /-- where the thread is -/
  thread : ThreadPc
  deriving DecidableEq, Repr

/-- The delegate before its thread is created. -/
def Delegate.new (joinable : Bool) : Delegate where
  mRunnable := true
  mJoinable := joinable
  mRefCount := 2
  freed := false
  runnableFreed := false
  detached := false
  thread := .unborn

/-- What the outside sees. -/
inductive Out where
  /-- `start` returns, with a new delegate or because of what there is -/
  | started (i : Option ℕ) (success : Bool)
  /-- `stop` or the destructor returns -/
  | stopped (i : Option ℕ)
  /-- a function of the runnable is called -/
  | prerun (i : ℕ)
  | run (i : ℕ)
  | postrun (i : ℕ)
  /-- `delete runnable` -/
  | deletedRunnable (i : ℕ)
  /-- `delete this` -/
  | deletedDelegate (i : ℕ)
  deriving DecidableEq, Repr

/-- What the client does after a step. -/
inductive After where
  /-- it goes on -/
  | goes (pc : ClientPc)
  /-- `start` has succeeded -/
  | started
  /-- `start` has failed -/
  | failed
  /-- `stop` or the destructor is done -/
  | stopped
  deriving DecidableEq, Repr

/-- The end of `destroy`. -/
def After.destroyed (stopped : Bool) : After := if stopped then .stopped else .failed

namespace Delegate

/-- A step of `threadMain`; `result` is what `run` returns. -/
def threadStep (i : ℕ) (result : Bool) (d : Delegate) : Option (Delegate × List Out) :=
  match d.thread with
  | .unborn | .ended => none
  | .start => some ({ d with thread := if d.mRunnable then .prerun else .destroy }, [])
  | .prerun => some ({ d with thread := .loop }, if d.mRunnable then [.prerun i] else [])
  | .loop => some ({ d with thread := if d.mRunnable then .running else .postrun }, [])
  | .running => some ({ d with thread := if result then .loop else .postrun }, [.run i])
  | .postrun => some ({ d with thread := .clear }, if d.mRunnable then [.postrun i] else [])
  | .clear => some ({ d with mRunnable := false, thread := .deleteRunnable }, [])
  | .deleteRunnable =>
    some ({ d with runnableFreed := true, thread := .destroy }, [.deletedRunnable i])
  | .destroy => some ({ d with thread := if 0 < d.mRefCount then .lock else .ended }, [])
  | .lock =>
    some ({ d with
        mRefCount := d.mRefCount - 1
        thread := if d.mRefCount = 1 then .delete else .ended }, [])
  | .delete => some ({ d with freed := true, thread := .ended }, [.deletedDelegate i])

/-- A step of the client; `created` says whether a thread can be created. -/
def clientStep (i : ℕ) (created : Bool) (d : Delegate) :
    ClientPc → Option (Delegate × After × List Out)
  | .create =>
    if created then some ({ d with thread := .start, detached := !d.mJoinable }, .goes .check, [])
    else
      -- must set these values upon failure
      some ({ d with mRunnable := false, mJoinable := false, mRefCount := 1 }, .goes .check, [])
  | .check => some (d, if d.mRunnable then .started else .goes (.destroy false), [])
  | .bye => some (d, .goes (if d.mJoinable then .stop else .destroy true), [])
  | .stop => some ({ d with mRunnable := false }, .goes .join, [])
  | .join =>
    if d.mJoinable then some ({ d with mJoinable := false }, .goes .joining, [])
    else some (d, .goes (.destroy true), [])
  | .joining => if d.thread = .ended then some (d, .goes (.destroy true), []) else none
  | .destroy stopped =>
    some (d, if 0 < d.mRefCount then .goes (.lock stopped) else .destroyed stopped, [])
  | .lock stopped =>
    some ({ d with mRefCount := d.mRefCount - 1 },
      if d.mRefCount = 1 then .goes (.delete stopped) else .destroyed stopped, [])
  | .delete stopped => some ({ d with freed := true }, .destroyed stopped, [.deletedDelegate i])

end Delegate

/-! ## The machine -/

/-- The client and its `LocThread`. -/
inductive Client where
  /-- `mThread` is `NULL` -/
  | empty
  /-- `mThread` is a delegate -/
  | has (i : ℕ)
  /-- it is in a call -/
  | busy (i : ℕ) (pc : ClientPc)
  deriving DecidableEq, Repr

/-- The client and all delegates. -/
structure State where
  /-- the delegates -/
  delegates : ℕ → Delegate
  /-- how many there are -/
  next : ℕ
  /-- the client -/
  client : Client

/-- Who acts. -/
inductive Label where
  /-- `LocThread::start` is called -/
  | start (runnable joinable : Bool)
  /-- `LocThread::stop` is called -/
  | stop
  /-- the `LocThread` is deleted; the client goes on with a new one -/
  | delete
  /-- the client goes on in a call -/
  | client (created : Bool)
  /-- a thread goes on -/
  | thread (i : ℕ) (result : Bool)
  deriving DecidableEq, Repr

/-- Nothing was started yet. -/
def State.initial : State where
  delegates _ := .new false
  next := 0
  client := .empty

/-- What a call returns, and what it leaves in `mThread`. -/
def After.result (i : ℕ) : After → Client × List Out
  | .goes pc => (.busy i pc, [])
  | .started => (.has i, [.started (some i) true])
  | .failed => (.empty, [.started (some i) false])
  | .stopped => (.empty, [.stopped (some i)])

/-- The client and the threads. -/
def machine : Machine State Label Out where
  step s
    | .start runnable joinable =>
      match s.client with
      | .busy _ _ => none
      | .has _ => some (s, [.started none false])
      | .empty =>
        if runnable then
          some ({ delegates := Function.update s.delegates s.next (.new joinable)
                  next := s.next + 1
                  client := .busy s.next .create }, [])
        else some (s, [.started none false])
    | .stop =>
      match s.client with
      | .busy _ _ => none
      | .empty => some (s, [.stopped none])
      | .has i => some ({ s with client := .busy i .stop }, [])
    | .delete =>
      match s.client with
      | .busy _ _ => none
      | .empty => some (s, [.stopped none])
      | .has i => some ({ s with client := .busy i .bye }, [])
    | .client created =>
      match s.client with
      | .busy i pc =>
        ((s.delegates i).clientStep i created pc).map fun p =>
          ({ s with
              delegates := Function.update s.delegates i p.1
              client := (p.2.1.result i).1 }, p.2.2 ++ (p.2.1.result i).2)
      | .empty | .has _ => none
    | .thread i result =>
      ((s.delegates i).threadStep i result).map fun p =>
        ({ s with delegates := Function.update s.delegates i p.1 }, p.2)

/-- What the steps do, one constructor for each. -/
inductive Steps (s : State) : Label → State → List Out → Prop
  /-- there is a thread already, or nothing to run -/
  | refused (runnable joinable : Bool) (hno : s.client ≠ .empty ∨ runnable = false) :
    Steps s (.start runnable joinable) s [.started none false]
  | starts (joinable : Bool) (hclient : s.client = .empty) : Steps s (.start true joinable)
      { delegates := Function.update s.delegates s.next (.new joinable)
        next := s.next + 1
        client := .busy s.next .create } []
  /-- there is nothing to stop -/
  | idles (l : Label) (hl : l = .stop ∨ l = .delete) (hclient : s.client = .empty) :
    Steps s l s [.stopped none]
  | stops (i : ℕ) (hclient : s.client = .has i) :
    Steps s .stop { s with client := .busy i .stop } []
  | leaves (i : ℕ) (hclient : s.client = .has i) :
    Steps s .delete { s with client := .busy i .bye } []
  | client (created : Bool) (i : ℕ) (pc : ClientPc) (hclient : s.client = .busy i pc) (d : Delegate)
    (a : After) (out : List Out)
    (hstep : (s.delegates i).clientStep i created pc = some (d, a, out)) :
    Steps s (.client created)
      { s with delegates := Function.update s.delegates i d, client := (a.result i).1 }
      (out ++ (a.result i).2)
  | thread (i : ℕ) (result : Bool) (d : Delegate) (out : List Out)
    (hstep : (s.delegates i).threadStep i result = some (d, out)) :
    Steps s (.thread i result) { s with delegates := Function.update s.delegates i d } out

/-- Every step is one of these. -/
theorem steps_of_step {s s' : State} {l : Label} {out : List Out}
    (hs : machine.step s l = some (s', out)) : Steps s l s' out := by
  cases l with
  | start runnable joinable =>
    simp only [machine] at hs
    cases hclient : s.client <;> rw [hclient] at hs <;> dsimp only at hs
    case busy => cases hs
    case has =>
      obtain ⟨rfl, rfl⟩ := Prod.mk.inj (Option.some.inj hs)
      exact .refused runnable joinable (Or.inl (by simp [hclient]))
    case empty =>
      split_ifs at hs with hrunnable
      · subst hrunnable
        obtain ⟨rfl, rfl⟩ := Prod.mk.inj (Option.some.inj hs)
        exact .starts joinable hclient
      · obtain ⟨rfl, rfl⟩ := Prod.mk.inj (Option.some.inj hs)
        exact .refused runnable joinable (Or.inr (Bool.eq_false_of_not_eq_true hrunnable))
  | stop =>
    simp only [machine] at hs
    cases hclient : s.client <;> rw [hclient] at hs <;> dsimp only at hs
    case busy => cases hs
    all_goals
      obtain ⟨rfl, rfl⟩ := Prod.mk.inj (Option.some.inj hs)
    · exact .idles .stop (Or.inl rfl) hclient
    · exact .stops _ hclient
  | delete =>
    simp only [machine] at hs
    cases hclient : s.client <;> rw [hclient] at hs <;> dsimp only at hs
    case busy => cases hs
    all_goals
      obtain ⟨rfl, rfl⟩ := Prod.mk.inj (Option.some.inj hs)
    · exact .idles .delete (Or.inr rfl) hclient
    · exact .leaves _ hclient
  | client created =>
    simp only [machine] at hs
    cases hclient : s.client <;> rw [hclient] at hs <;> dsimp only at hs
    case empty | has => cases hs
    case busy i pc =>
      obtain ⟨⟨d, a, out'⟩, hstep, heq⟩ := Option.map_eq_some_iff.mp hs
      obtain ⟨rfl, rfl⟩ := Prod.mk.inj heq
      exact .client created i pc hclient d a out' hstep
  | thread i result =>
    simp only [machine] at hs
    obtain ⟨⟨d, out'⟩, hstep, heq⟩ := Option.map_eq_some_iff.mp hs
    obtain ⟨rfl, rfl⟩ := Prod.mk.inj heq
    exact .thread i result d out' hstep

/-! ## Seen from a delegate -/

/-- What the client is to a delegate. -/
inductive Role where
  /-- it knows nothing of it, or is done with it -/
  | none
  /-- it has it -/
  | has
  /-- it is in a call for it -/
  | busy (pc : ClientPc)
  deriving DecidableEq, Repr

/-- What the client is to the delegate `i`. -/
def Client.role (i : ℕ) : Client → Role
  | .empty => .none
  | .has j => if j = i then .has else .none
  | .busy j pc => if j = i then .busy pc else .none

/-- What the client is to its delegate after a step. -/
def After.role : After → Role
  | .goes pc => .busy pc
  | .started => .has
  | .failed | .stopped => .none

@[simp] theorem role_result (i : ℕ) (a : After) : (a.result i).1.role i = a.role := by
  cases a <;> simp [After.result, Client.role, After.role]

@[simp] theorem role_destroyed (stopped : Bool) : (After.destroyed stopped).role = .none := by
  cases stopped <;> rfl

@[simp] theorem destroyed_eq_stopped {stopped : Bool} :
    After.destroyed stopped = .stopped ↔ stopped = true := by
  cases stopped <;> simp [After.destroyed]

theorem role_result_of_ne {i j : ℕ} (hne : j ≠ i) (a : After) :
    (a.result j).1.role i = .none := by
  cases a <;> simp [After.result, Client.role, hne]

/-- What a step does to one delegate. -/
inductive Moves (i : ℕ) (d : Delegate) (r : Role) : Delegate → Role → Prop
  /-- nothing -/
  | rests : Moves i d r d r
  /-- the client stops it -/
  | stops (hr : r = .has) : Moves i d r d (.busy .stop)
  /-- the client deletes its `LocThread` -/
  | leaves (hr : r = .has) : Moves i d r d (.busy .bye)
  /-- the client goes on -/
  | client (created : Bool) (pc : ClientPc) (d' : Delegate) (a : After) (out : List Out)
    (hr : r = .busy pc) (hstep : d.clientStep i created pc = some (d', a, out)) :
    Moves i d r d' a.role
  /-- the thread goes on -/
  | thread (result : Bool) (d' : Delegate) (out : List Out)
    (hstep : d.threadStep i result = some (d', out)) : Moves i d r d' r

/-! ## The invariant -/

/-- The references that the client still has to give back. -/
def Role.refs : Role → ℤ
  | .none | .busy (.delete _) => 0
  -- the one that is for the thread, too
  | .busy .create => 2
  | .has | .busy _ => 1

/-- The client is about to delete the delegate. -/
def Role.deletes : Role → Bool
  | .busy (.delete _) => true
  | _ => false

/-- `start` has succeeded, and the client is not done with the delegate. -/
def Role.owns : Role → Bool
  | .none | .busy .create | .busy .check | .busy (.destroy false) | .busy (.lock false)
  | .busy (.delete false) => false
  | .has | .busy _ => true

/-- The client has not yet looked whether the thread is to be joined. -/
def Role.beforeJoin : Role → Bool
  | .has | .busy .check | .busy .bye | .busy .stop | .busy .join => true
  | _ => false

/-- The client has joined the thread, if it is to be joined. -/
def Role.afterJoin : Role → Bool
  | .busy (.destroy true) | .busy (.lock true) | .busy (.delete true) => true
  | _ => false

/-- The reference that the thread still has to give back. -/
def ThreadPc.refs : ThreadPc → ℤ
  | .unborn | .delete | .ended => 0
  | _ => 1

/-- The thread may still use the runnable. -/
def ThreadPc.uses : ThreadPc → Bool
  | .prerun | .loop | .running | .postrun | .clear | .deleteRunnable => true
  | _ => false

/-- The thread is past `mRunnable = NULL`, or has not found a runnable. -/
def ThreadPc.cleared : ThreadPc → Bool
  | .deleteRunnable | .destroy | .lock | .delete | .ended => true
  | _ => false

/-- What a delegate and the client's interest in it have to do with each other. -/
structure Right (d : Delegate) (r : Role) : Prop where
  /-- everybody who still has to let go of the delegate is counted -/
  refs : d.mRefCount = r.refs + d.thread.refs
  /-- it is there as long as somebody needs it, or is about to delete it -/
  freed : d.freed = false ↔ 0 < d.mRefCount ∨ r.deletes = true ∨ d.thread = .delete
  /-- only one of the two deletes it, and then nobody needs it -/
  once : r.deletes = true → d.mRefCount = 0 ∧ d.thread ≠ .delete
  alone : d.thread = .delete → d.mRefCount = 0
  /-- before the thread is created -/
  create : r = .busy .create → d.thread = .unborn ∧ d.mRunnable = true ∧ d.runnableFreed = false
  /-- if it cannot be created -/
  unborn : d.thread = .unborn → r ≠ .busy .create → d.mRunnable = false ∧ r.owns = false
  /-- the thread does not come back to the runnable -/
  cleared : d.thread.cleared = true → d.mRunnable = false
  runnable : d.runnableFreed = true → d.thread ≠ .unborn ∧ d.thread ≠ .start ∧ d.thread.uses = false
  /-- a thread that is not detached is going to be joined -/
  joinable : d.thread ≠ .unborn → d.detached = false → r.beforeJoin = true → d.mJoinable = true
  joined : d.detached = false → r.afterJoin = true → d.thread = .ended

theorem right_new (joinable : Bool) : Right (.new joinable) (.busy .create) where
  refs := rfl
  freed := by simp [Delegate.new]
  once := by simp [Role.deletes]
  alone := by simp [Delegate.new]
  create := by simp [Delegate.new]
  unborn := by simp
  cleared := by simp [Delegate.new, ThreadPc.cleared]
  runnable := by simp [Delegate.new]
  joinable := by simp [Role.beforeJoin]
  joined := by simp [Role.afterJoin]

section Steps

variable {i : ℕ} {d d' : Delegate} {r r' : Role}

theorem Role.refs_nonneg (r : Role) : 0 ≤ r.refs := by
  unfold Role.refs
  split <;> omega

theorem ThreadPc.refs_nonneg (t : ThreadPc) : 0 ≤ t.refs := by
  cases t <;> simp [ThreadPc.refs]

theorem Role.deletes_eq_false (hr : r.refs ≠ 0) : r.deletes = false := by
  unfold Role.deletes
  split
  · exact absurd rfl hr
  · rfl

theorem Role.ne_create (hr : r.refs = 1) : r ≠ .busy .create := by
  rintro rfl
  cases hr

/-- Nobody who needs the delegate finds it deleted. -/
theorem Right.freed_eq_false (h : Right d r) (hneeds : r.refs ≠ 0 ∨ d.thread.refs ≠ 0) :
    0 < d.mRefCount ∧ d.freed = false := by
  have hr := r.refs_nonneg
  have ht := d.thread.refs_nonneg
  have hpos : 0 < d.mRefCount := by
    rw [h.refs]
    omega
  exact ⟨hpos, h.freed.mpr (Or.inl hpos)⟩

/-- When both are done with it, it was deleted. -/
theorem Right.freed_of_done (h : Right d .none) (hdone : d.thread = .unborn ∨ d.thread = .ended) :
    d.freed = true := by
  by_contra hlive
  rcases h.freed.mp (Bool.eq_false_of_not_eq_true hlive) with hpos | hdel | hdel
  · rw [h.refs] at hpos
    rcases hdone with hthread | hthread <;> simp [hthread, Role.refs, ThreadPc.refs] at hpos
  · cases hdel
  · rcases hdone with hthread | hthread <;> simp [hthread] at hdel

/-- Nor does the thread find the runnable deleted. -/
theorem Right.runnableFreed_eq_false (h : Right d r)
    (huses : d.thread = .start ∨ d.thread.uses = true) : d.runnableFreed = false := by
  by_contra hfreed
  obtain ⟨-, hstart, hno⟩ := h.runnable (Bool.eq_true_of_not_eq_false hfreed)
  rcases huses with heq | huses
  · exact hstart heq
  · rw [huses] at hno
    cases hno

/-- The thread moves on, without giving its reference back. -/
theorem Right.thread_moves {mRunnable runnableFreed : Bool} {t : ThreadPc} (h : Right d r)
    (ht : d.thread.refs = 1) (ht' : t.refs = 1) (hcleared : t.cleared = true → mRunnable = false)
    (hfreed : runnableFreed = true → t ≠ .start ∧ t.uses = false) :
    Right { d with mRunnable := mRunnable, runnableFreed := runnableFreed, thread := t } r := by
  obtain ⟨hpos, hlive⟩ := h.freed_eq_false (Or.inr (by omega))
  have hborn : d.thread ≠ .unborn := fun heq => by simp [heq, ThreadPc.refs] at ht
  have hborn' : t ≠ .unborn := fun heq => by simp [heq, ThreadPc.refs] at ht'
  exact {
    refs := by rw [ht', h.refs, ht]
    freed := iff_of_true hlive (Or.inl hpos)
    once := fun hdel => absurd (h.once hdel).1 hpos.ne'
    alone := fun heq : t = .delete => by simp [heq, ThreadPc.refs] at ht'
    create := fun hr => absurd (h.create hr).1 hborn
    unborn := fun heq => absurd heq hborn'
    cleared := hcleared
    runnable := fun hf => ⟨hborn', hfreed hf⟩
    joinable := fun _ => h.joinable hborn
    joined := fun hd hr => by simp [h.joined hd hr, ThreadPc.refs] at ht }

/-- The client moves on, without giving its reference back. -/
theorem Right.client_moves {mRunnable mJoinable : Bool} (h : Right d r) (hr : r.refs = 1)
    (hr' : r'.refs = 1) (hrunnable : mRunnable = true → d.mRunnable = true)
    (howns : d.thread = .unborn → r'.owns = false)
    (hjoinable : d.thread ≠ .unborn → d.detached = false → r'.beforeJoin = true →
      mJoinable = true)
    (hjoined : d.detached = false → r'.afterJoin = true → d.thread = .ended) :
    Right { d with mRunnable := mRunnable, mJoinable := mJoinable } r' := by
  obtain ⟨hpos, hlive⟩ := h.freed_eq_false (Or.inl (by omega))
  have hdel : r'.deletes = false := Role.deletes_eq_false (by omega)
  have hnull : d.mRunnable = false → mRunnable = false := by
    intro hno
    by_contra hm
    rw [hrunnable (Bool.eq_true_of_not_eq_false hm)] at hno
    cases hno
  exact {
    refs := by rw [hr', h.refs, hr]
    freed := iff_of_true hlive (Or.inl hpos)
    once := fun hno => absurd hno (by simp [hdel])
    alone := h.alone
    create := fun hno => absurd hno (Role.ne_create hr')
    unborn := fun hun _ => ⟨hnull (h.unborn hun (Role.ne_create hr)).1, howns hun⟩
    cleared := fun hc => hnull (h.cleared hc)
    runnable := h.runnable
    joinable := hjoinable
    joined := hjoined }

theorem Right.born_of_owns (h : Right d r) (howns : r.owns = true) : d.thread ≠ .unborn := by
  intro hno
  have hne : r ≠ .busy .create := by
    rintro rfl
    cases howns
  rw [(h.unborn hno hne).2] at howns
  cases howns

/-- **A step of the thread.** -/
theorem Right.thread {result : Bool} {out : List Out} (h : Right d r)
    (hstep : d.threadStep i result = some (d', out)) : Right d' r := by
  have hrefs := h.refs
  have hnonneg := r.refs_nonneg
  rw [Delegate.threadStep] at hstep
  cases hthread : d.thread <;> rw [hthread] at hstep hrefs <;> dsimp only at hstep
  case unborn | ended => cases hstep
  all_goals
    obtain ⟨rfl, rfl⟩ := Prod.mk.inj (Option.some.inj hstep)
  case start =>
    have hnot := h.runnableFreed_eq_false (Or.inl hthread)
    cases hrun : d.mRunnable <;>
      exact h.thread_moves (by simp [hthread, ThreadPc.refs]) rfl (by simp [ThreadPc.cleared])
        (by simp [hnot])
  case prerun | loop | running | postrun | clear =>
    have hnot := h.runnableFreed_eq_false (Or.inr (by simp [hthread, ThreadPc.uses]))
    refine h.thread_moves (by simp [hthread, ThreadPc.refs]) ?_ ?_ (by simp [hnot]) <;>
      (try split_ifs) <;> simp [ThreadPc.refs, ThreadPc.cleared]
  case deleteRunnable =>
    have hnull := h.cleared (by simp [hthread, ThreadPc.cleared])
    exact h.thread_moves (by simp [hthread, ThreadPc.refs]) rfl (fun _ => hnull)
      (by simp [ThreadPc.uses])
  case destroy =>
    obtain ⟨hpos, -⟩ := h.freed_eq_false (Or.inr (by simp [hthread, ThreadPc.refs]))
    have hnull := h.cleared (by simp [hthread, ThreadPc.cleared])
    rw [if_pos hpos]
    exact h.thread_moves (by simp [hthread, ThreadPc.refs]) rfl (fun _ => hnull)
      (by simp [ThreadPc.uses])
  case lock =>
    obtain ⟨hpos, hlive⟩ := h.freed_eq_false (Or.inr (by simp [hthread, ThreadPc.refs]))
    have hborn : d.thread ≠ .unborn := by simp [hthread]
    have hnull := h.cleared (by simp [hthread, ThreadPc.cleared])
    have hdel : r.deletes = true → False := fun hno => absurd (h.once hno).1 hpos.ne'
    have hjoined : d.detached = false → r.afterJoin = true → False := fun hd hr => by
      simp [h.joined hd hr] at hthread
    replace hrefs : d.mRefCount = r.refs + 1 := hrefs
    by_cases hlast : d.mRefCount = 1
    · rw [if_pos hlast]
      exact {
        refs := show d.mRefCount - 1 = r.refs + 0 by omega
        freed := iff_of_true hlive (Or.inr (Or.inr rfl))
        once := fun hno => (hdel hno).elim
        alone := fun _ => by simp [hlast]
        create := fun hr => absurd (h.create hr).1 hborn
        unborn := fun hno => by cases hno
        cleared := fun _ => hnull
        runnable := fun _ => by simp [ThreadPc.uses]
        joinable := fun _ => h.joinable hborn
        joined := fun hd hr => (hjoined hd hr).elim }
    · rw [if_neg hlast]
      exact {
        refs := show d.mRefCount - 1 = r.refs + 0 by omega
        freed := iff_of_true hlive (Or.inl (show 0 < d.mRefCount - 1 by omega))
        once := fun hno => (hdel hno).elim
        alone := fun hno => by cases hno
        create := fun hr => absurd (h.create hr).1 hborn
        unborn := fun hno => by cases hno
        cleared := fun _ => hnull
        runnable := fun _ => by simp [ThreadPc.uses]
        joinable := fun _ => h.joinable hborn
        joined := fun hd hr => (hjoined hd hr).elim }
  case delete =>
    have hborn : d.thread ≠ .unborn := by simp [hthread]
    have hzero := h.alone hthread
    have hdel : r.deletes = false := by
      by_contra hno
      exact (h.once (Bool.eq_true_of_not_eq_false hno)).2 hthread
    exact {
      refs := hrefs
      freed := by simp [hzero, hdel]
      once := fun hno => by simp [hdel] at hno
      alone := fun hno => by cases hno
      create := fun hr => absurd (h.create hr).1 hborn
      unborn := fun hno => by cases hno
      cleared := fun _ => h.cleared (by simp [hthread, ThreadPc.cleared])
      runnable := fun _ => by simp [ThreadPc.uses]
      joinable := fun _ => h.joinable hborn
      joined := fun _ _ => rfl }

/-- **A step of the client.** -/
theorem Right.client {created : Bool} {pc : ClientPc} {a : After} {out : List Out}
    (h : Right d (.busy pc)) (hstep : d.clientStep i created pc = some (d', a, out)) :
    Right d' a.role := by
  have hrefs := h.refs
  have ht := d.thread.refs_nonneg
  cases pc <;> dsimp only [Delegate.clientStep] at hstep
  case create =>
    obtain ⟨hthread, hrun, hnot⟩ := h.create rfl
    rw [hthread] at hrefs
    obtain ⟨-, hlive⟩ := h.freed_eq_false (Or.inl (by simp [Role.refs]))
    split_ifs at hstep
    · -- the thread has the second reference now
      simp only [Option.some.injEq, Prod.mk.injEq] at hstep
      obtain ⟨rfl, rfl, rfl⟩ := hstep
      exact {
        refs := hrefs
        freed := iff_of_true hlive (Or.inl (by simp [hrefs, Role.refs, ThreadPc.refs]))
        once := fun hno => by cases hno
        alone := fun hno => by cases hno
        create := fun hno => by cases hno
        unborn := fun hno => by cases hno
        cleared := fun hno => by cases hno
        runnable := fun hno => by simp [hnot] at hno
        joinable := fun _ hd _ => by simpa using hd
        joined := fun _ hno => by cases hno }
    · simp only [Option.some.injEq, Prod.mk.injEq] at hstep
      obtain ⟨rfl, rfl, rfl⟩ := hstep
      exact {
        refs := by simp [After.role, Role.refs, hthread, ThreadPc.refs]
        freed := iff_of_true hlive (Or.inl Int.one_pos)
        once := fun hno => by cases hno
        alone := fun hno => by simp [hthread] at hno
        create := fun hno => by cases hno
        unborn := fun _ _ => ⟨rfl, rfl⟩
        cleared := fun _ => rfl
        runnable := fun hno => by simp [hnot] at hno
        joinable := fun hno => absurd hthread hno
        joined := fun _ hno => by cases hno }
  case check =>
    simp only [Option.some.injEq, Prod.mk.injEq] at hstep
    obtain ⟨rfl, rfl, rfl⟩ := hstep
    by_cases hrun : d.mRunnable = true
    · rw [if_pos hrun]
      refine h.client_moves rfl rfl id (fun hno => ?_) (fun hborn hd _ => h.joinable hborn hd rfl)
        (by simp [After.role, Role.afterJoin])
      rw [(h.unborn hno (Role.ne_create rfl)).1] at hrun
      cases hrun
    · rw [if_neg hrun]
      exact h.client_moves rfl rfl id (fun _ => rfl) (by simp [After.role, Role.beforeJoin])
        (by simp [After.role, Role.afterJoin])
  case bye =>
    have hborn := h.born_of_owns rfl
    simp only [Option.some.injEq, Prod.mk.injEq] at hstep
    obtain ⟨rfl, rfl, rfl⟩ := hstep
    by_cases hjoin : d.mJoinable = true
    · rw [if_pos hjoin]
      exact h.client_moves rfl rfl id (fun hno => absurd hno hborn) (fun _ _ _ => hjoin)
        (by simp [After.role, Role.afterJoin])
    · rw [if_neg hjoin]
      exact h.client_moves rfl rfl id (fun hno => absurd hno hborn)
        (by simp [After.role, Role.beforeJoin]) fun hd _ => absurd (h.joinable hborn hd rfl) hjoin
  case stop =>
    have hborn := h.born_of_owns rfl
    simp only [Option.some.injEq, Prod.mk.injEq] at hstep
    obtain ⟨rfl, rfl, rfl⟩ := hstep
    exact h.client_moves rfl rfl (by simp) (fun hno => absurd hno hborn)
      (fun _ hd _ => h.joinable hborn hd rfl) (by simp [After.role, Role.afterJoin])
  case join =>
    have hborn := h.born_of_owns rfl
    split_ifs at hstep with hjoin
    all_goals
      simp only [Option.some.injEq, Prod.mk.injEq] at hstep
      obtain ⟨rfl, rfl, rfl⟩ := hstep
    · exact h.client_moves rfl rfl id (fun hno => absurd hno hborn)
        (by simp [After.role, Role.beforeJoin]) (by simp [After.role, Role.afterJoin])
    · exact h.client_moves rfl rfl id (fun hno => absurd hno hborn)
        (by simp [After.role, Role.beforeJoin]) fun hd _ => absurd (h.joinable hborn hd rfl) hjoin
  case joining =>
    have hborn := h.born_of_owns rfl
    split_ifs at hstep with hended
    simp only [Option.some.injEq, Prod.mk.injEq] at hstep
    obtain ⟨rfl, rfl, rfl⟩ := hstep
    exact h.client_moves rfl rfl id (fun hno => absurd hno hborn)
      (by simp [After.role, Role.beforeJoin]) fun _ _ => hended
  case destroy stopped =>
    obtain ⟨hpos, -⟩ := h.freed_eq_false (Or.inl (by simp [Role.refs]))
    simp only [Option.some.injEq, Prod.mk.injEq] at hstep
    obtain ⟨rfl, rfl, rfl⟩ := hstep
    rw [if_pos hpos]
    refine h.client_moves rfl rfl id (fun hno => ?_) (by simp [After.role, Role.beforeJoin])
      fun hd hr => h.joined hd ?_
    · cases stopped
      · rfl
      · exact absurd hno (h.born_of_owns rfl)
    · cases stopped
      · cases hr
      · rfl
  case lock stopped =>
    obtain ⟨hpos, hlive⟩ := h.freed_eq_false (Or.inl (by simp [Role.refs]))
    have halone : d.thread ≠ .delete := fun hno => absurd (h.alone hno) hpos.ne'
    replace hrefs : d.mRefCount = 1 + d.thread.refs := hrefs
    simp only [Option.some.injEq, Prod.mk.injEq] at hstep
    obtain ⟨rfl, rfl, rfl⟩ := hstep
    by_cases hlast : d.mRefCount = 1
    · rw [if_pos hlast]
      exact {
        refs := show d.mRefCount - 1 = 0 + d.thread.refs by omega
        freed := iff_of_true hlive (Or.inr (Or.inl rfl))
        once := fun _ => ⟨by simp [hlast], halone⟩
        alone := fun hno => absurd hno halone
        create := fun hno => by cases hno
        unborn := fun hno _ => by
          refine ⟨(h.unborn hno (Role.ne_create rfl)).1, ?_⟩
          cases stopped
          · rfl
          · exact absurd hno (h.born_of_owns rfl)
        cleared := h.cleared
        runnable := h.runnable
        joinable := fun _ _ hno => by cases hno
        joined := fun hd hr => by
          refine h.joined hd ?_
          cases stopped
          · cases hr
          · rfl }
    · rw [if_neg hlast, role_destroyed]
      exact {
        refs := show d.mRefCount - 1 = 0 + d.thread.refs by omega
        freed := iff_of_true hlive (Or.inl (show 0 < d.mRefCount - 1 by omega))
        once := fun hno => by cases hno
        alone := fun hno => absurd hno halone
        create := fun hno => by cases hno
        unborn := fun hno _ => ⟨(h.unborn hno (Role.ne_create rfl)).1, rfl⟩
        cleared := h.cleared
        runnable := h.runnable
        joinable := fun _ _ hno => by cases hno
        joined := fun _ hno => by cases hno }
  case delete stopped =>
    obtain ⟨hzero, halone⟩ := h.once rfl
    simp only [Option.some.injEq, Prod.mk.injEq] at hstep
    obtain ⟨rfl, rfl, rfl⟩ := hstep
    rw [role_destroyed]
    exact {
      refs := hrefs
      freed := by simp [hzero, halone, Role.deletes]
      once := fun hno => by cases hno
      alone := fun _ => hzero
      create := fun hno => by cases hno
      unborn := fun hno _ => ⟨(h.unborn hno (by simp)).1, rfl⟩
      cleared := h.cleared
      runnable := h.runnable
      joinable := fun _ _ hno => by cases hno
      joined := fun _ hno => by cases hno }

/-- Stopping or leaving begins. -/
theorem Right.calls {pc : ClientPc} (h : Right d .has) (hpc : pc = .stop ∨ pc = .bye) :
    Right d (.busy pc) := by
  have hborn := h.born_of_owns rfl
  have hbefore : (Role.busy pc).beforeJoin = true := by rcases hpc with rfl | rfl <;> rfl
  refine h.client_moves rfl ?_ id (fun hno => absurd hno hborn)
    (fun _ hd _ => h.joinable hborn hd rfl) ?_
  · rcases hpc with rfl | rfl <;> rfl
  · rcases hpc with rfl | rfl <;> simp [Role.afterJoin]

/-- **The invariant is kept**, whatever happens to a delegate. -/
theorem Right.moves (h : Right d r) (hmoves : Moves i d r d' r') : Right d' r' := by
  cases hmoves with
  | rests => exact h
  | stops hr => exact (hr ▸ h).calls (Or.inl rfl)
  | leaves hr => exact (hr ▸ h).calls (Or.inr rfl)
  | client created pc d' a out hr hstep => exact (hr ▸ h).client hstep
  | thread result d' out hstep => exact h.thread hstep

end Steps

/-! ## Runs -/

/-- The invariant of all delegates; those that were not made yet are nobody's business. -/
def AllRight (s : State) : Prop :=
  ∀ i, if i < s.next then Right (s.delegates i) (s.client.role i)
    else s.delegates i = .new false ∧ s.client.role i = .none

/-- A step does something to a delegate, or makes it. -/
theorem moves_of_step {s s' : State} {l : Label} {out : List Out}
    (hs : machine.step s l = some (s', out)) (i : ℕ) :
    s'.next = s.next ∧
        Moves i (s.delegates i) (s.client.role i) (s'.delegates i) (s'.client.role i) ∨
      s'.next = s.next + 1 ∧ s.client = .empty ∧
        (i ≠ s.next → s'.delegates i = s.delegates i ∧ s'.client.role i = .none) ∧
        (i = s.next → ∃ joinable, s'.delegates i = .new joinable ∧
          s'.client.role i = .busy .create) := by
  cases steps_of_step hs with
  | refused | idles => exact Or.inl ⟨rfl, .rests⟩
  | starts joinable hclient =>
    refine Or.inr ⟨rfl, hclient, fun hne => ?_, ?_⟩
    · simp [Function.update_of_ne hne, Client.role, Ne.symm hne]
    · rintro rfl
      exact ⟨joinable, Function.update_self .., by simp [Client.role]⟩
  | stops j hclient =>
    refine Or.inl ⟨rfl, ?_⟩
    rw [hclient]
    by_cases heq : j = i
    · simpa [Client.role, heq] using Moves.stops rfl
    · simpa [Client.role, heq] using Moves.rests
  | leaves j hclient =>
    refine Or.inl ⟨rfl, ?_⟩
    rw [hclient]
    by_cases heq : j = i
    · simpa [Client.role, heq] using Moves.leaves rfl
    · simpa [Client.role, heq] using Moves.rests
  | client created j pc hclient d a out hstep =>
    refine Or.inl ⟨rfl, ?_⟩
    rw [hclient]
    by_cases hij : j = i
    · subst hij
      dsimp only
      rw [Function.update_self, role_result]
      exact .client created pc d a out (by simp [Client.role]) hstep
    · dsimp only
      rw [Function.update_of_ne (Ne.symm hij), role_result_of_ne hij, Client.role, if_neg hij]
      exact .rests
  | thread j result d out hstep =>
    refine Or.inl ⟨rfl, ?_⟩
    by_cases hij : j = i
    · subst hij
      dsimp only
      rw [Function.update_self]
      exact .thread result d out hstep
    · dsimp only
      rw [Function.update_of_ne (Ne.symm hij)]
      exact .rests

/-- What was not made yet is left alone. -/
theorem Moves.untouched {i : ℕ} {d d' : Delegate} {r r' : Role} (hmoves : Moves i d r d' r')
    (hd : d = .new false) (hr : r = .none) : d' = .new false ∧ r' = .none := by
  subst hd hr
  cases hmoves with
  | rests => exact ⟨rfl, rfl⟩
  | stops hr => cases hr
  | leaves hr => cases hr
  | client created pc d' a out hr hstep => cases hr
  | thread result d' out hstep => cases hstep

theorem AllRight.step {s s' : State} {l : Label} {out : List Out} (hI : AllRight s)
    (hs : machine.step s l = some (s', out)) : AllRight s' := by
  intro i
  have hi := hI i
  rcases moves_of_step hs i with ⟨hnext, hmoves⟩ | ⟨hnext, hempty, hold, hnew⟩
  · rw [hnext]
    split_ifs at hi ⊢
    · exact hi.moves hmoves
    · exact hmoves.untouched hi.1 hi.2
  · by_cases hij : i = s.next
    · obtain ⟨joinable, hd, hr⟩ := hnew hij
      rw [hd, hr, if_pos (by omega)]
      exact right_new joinable
    · obtain ⟨hd, hr⟩ := hold hij
      have hlt : i < s'.next ↔ i < s.next := by omega
      rw [hempty, Client.role] at hi
      rwa [hd, hr, if_congr hlt rfl rfl]

/-- **The invariant holds at all times.** -/
theorem right_run {h : List (Event State Label Out)} {s : State}
    (hrun : Run machine .initial h s) : AllRight s := by
  refine Run.invariant_of AllRight (fun _ _ => True) ?_ (fun s l s' out hI _ => hI.step) hrun
    fun _ _ => trivial
  exact fun i => ⟨rfl, rfl⟩

end OppoA37.LocThread
