import OppoA37.Gps.Utils.LocHeap

/-!
# The timers of `LocTimer.cpp`

A `LocTimer` that is started has a delegate, which a container keeps in a heap; the container
arms a `timerfd` for the top of its heap. Four kinds of parties take steps in any order:

* clients call `start()` and `stop()`, each one section under the lock of the client;
* the poll thread is woken by a container whose `timerfd` has expired; it disarms it, takes it out
  of the poll, and sends an expiry message, one step each;
* the message task works off the queue. A push or a removal is one step; an expiry pops delegates
  as long as they are due, and for each of them reads its client, calls `stop()`, and calls back;
* time passes.

A delegate is known by its number, in the order of the starts, and by its `mFutureTime`, which
never changes. There is one container for each value of `wakeOnExpire`.
-/

namespace OppoA37.LocTimer

open Lts LocHeap

/-! ## Time -/

/-- `struct timespec`, normalised. -/
structure Timespec where
  /-- `tv_sec` -/
  tvSec : ℕ
  /-- `tv_nsec` -/
  tvNsec : ℕ
  /-- nanoseconds make less than a second -/
  tvNsec_lt : tvNsec < 1000000000
  deriving DecidableEq, Repr

namespace Timespec

/-- All of it in nanoseconds. -/
def nanos (t : Timespec) : ℕ := t.tvSec * 1000000000 + t.tvNsec

/-- Times are compared by both fields. -/
instance : LE Timespec :=
  ⟨fun a b => a.tvSec < b.tvSec ∨ a.tvSec = b.tvSec ∧ a.tvNsec ≤ b.tvNsec⟩

instance (a b : Timespec) : Decidable (a ≤ b) :=
  inferInstanceAs (Decidable (a.tvSec < b.tvSec ∨ a.tvSec = b.tvSec ∧ a.tvNsec ≤ b.tvNsec))

/-- The time in `timeOutInMs` milliseconds, as `LocTimer::start` computes it. -/
def after (t : Timespec) (timeOutInMs : ℕ) : Timespec :=
  let tvSec := t.tvSec + timeOutInMs / 1000
  let tvNsec := t.tvNsec + timeOutInMs % 1000 * 1000000
  if h : 1000000000 ≤ tvNsec then
    ⟨tvSec + tvNsec / 1000000000, tvNsec % 1000000000, Nat.mod_lt _ (by decide)⟩
  else ⟨tvSec, tvNsec, Nat.lt_of_not_le h⟩

variable {a b c : Timespec}

theorem le_def : a ≤ b ↔ a.tvSec < b.tvSec ∨ a.tvSec = b.tvSec ∧ a.tvNsec ≤ b.tvNsec := Iff.rfl

/-- The order is that of the nanoseconds. -/
theorem le_iff_nanos : a ≤ b ↔ a.nanos ≤ b.nanos := by
  have ha := a.tvNsec_lt
  have hb := b.tvNsec_lt
  rw [le_def, nanos, nanos]
  omega

theorem le_refl (a : Timespec) : a ≤ a := le_iff_nanos.mpr (Nat.le_refl _)

theorem le_trans (hab : a ≤ b) (hbc : b ≤ c) : a ≤ c :=
  le_iff_nanos.mpr ((le_iff_nanos.mp hab).trans (le_iff_nanos.mp hbc))

/-- The carry from nanoseconds to seconds loses nothing. -/
theorem nanos_after (t : Timespec) (timeOutInMs : ℕ) :
    (t.after timeOutInMs).nanos = t.nanos + timeOutInMs * 1000000 := by
  have hms := Nat.div_add_mod timeOutInMs 1000
  rw [after]
  split
  · next h =>
    have hns := Nat.div_add_mod (t.tvNsec + timeOutInMs % 1000 * 1000000) 1000000000
    simp only [nanos]
    omega
  · next h =>
    simp only [nanos]
    omega

end Timespec

/-! ## Containers -/

/-- A `LocTimerDelegate`. -/
structure LocTimerDelegate where
  /-- its number -/
  id : ℕ
  /-- `mFutureTime` -/
  mFutureTime : Timespec
  deriving DecidableEq, Repr

/-- `LocTimerDelegate::ranks`: larger times rank lower. -/
def ranking : LocRankable LocTimerDelegate := .ofKey fun timer => timer.mFutureTime.tvSec

/-- The delegate that is made for comparisons with the present only. -/
def timerOfNow (now : Timespec) : LocTimerDelegate := ⟨0, now⟩

/-- The second field of a time does not count. -/
theorem outRanks_iff {a b : LocTimerDelegate} :
    ranking.outRanks a b = true ↔ a.mFutureTime.tvSec < b.mFutureTime.tvSec := by
  have hranks : ranking.ranks a b = (b.mFutureTime.tvSec : ℤ) - a.mFutureTime.tvSec := rfl
  rw [LocRankable.outRanks, decide_eq_true_iff, hranks]
  omega

/-- `LocTimerContainer`, with what the kernel knows of it. -/
structure LocTimerContainer where
  /-- `mTree` -/
  mTree : LocHeapNode LocTimerDelegate := .null
  /-- what `mDevFd` is armed for -/
  mDevFd : Option Timespec := none
  /-- `mDevFd` is in the poll -/
  polled : Bool := false
  deriving DecidableEq, Repr

namespace LocTimerContainer

variable (c : LocTimerContainer)

/-- `getSoonestTimer`. -/
def getSoonestTimer : Option LocTimerDelegate := c.mTree.mData

/-- `timerfd_settime`: the time 0 disarms. -/
def settime (t : Timespec) : LocTimerContainer :=
  { c with mDevFd := if t.tvSec = 0 ∧ t.tvNsec = 0 then none else some t }

/-- `timerfd_settime` with the time 0. -/
def disarm : LocTimerContainer := c.settime ⟨0, 0, by decide⟩

/-- `LocTimerPollTask::addPoll`. -/
def addPoll : LocTimerContainer := { c with polled := true }

/-- `LocTimerPollTask::removePoll`. -/
def removePoll : LocTimerContainer := { c with polled := false }

/-- `updateSoonestTime`. -/
def updateSoonestTime (priorTop : Option LocTimerDelegate) : LocTimerContainer :=
  let curTop := c.getSoonestTimer
  if curTop = priorTop then c
  else
    match curTop, priorTop with
    | none, _ => c.removePoll.disarm
    | some cur, none => c.addPoll.settime cur.mFutureTime
    | some cur, some prior =>
      if ranking.outRanks cur prior then c.addPoll.settime cur.mFutureTime else c

/-- `MsgTimerPush::proc`. -/
def procPush (timer : LocTimerDelegate) : LocTimerContainer :=
  { c with mTree := c.mTree.push ranking timer }.updateSoonestTime c.getSoonestTimer

/-- `MsgTimerRemove::proc`, before it deletes the delegate; and what it took out of the heap. -/
def procRemove (timer : LocTimerDelegate) : Option LocTimerDelegate × LocTimerContainer :=
  let removed := c.mTree.remove ranking timer
  let c' := { c with mTree := removed.2 }
  (removed.1, if c.getSoonestTimer = removed.1 then c'.updateSoonestTime none else c')

/-- `pop`. -/
def pop : Option LocTimerDelegate × LocTimerContainer :=
  let popped := c.mTree.pop ranking
  (popped.1, { c with mTree := popped.2 })

/-- `popIfOutRanks`. -/
def popIfOutRanks (timer : LocTimerDelegate) : Option LocTimerDelegate × LocTimerContainer :=
  match c.getSoonestTimer with
  | none => (none, c)
  | some top => if ranking.outRanks timer top then (none, c) else c.pop

/-- `epoll_wait` reports the `timerfd`. -/
def ready (now : Timespec) : Bool := c.polled && c.mDevFd.any fun t => t ≤ now

/-! ### What becomes of the heap -/

@[simp] theorem mTree_settime (t : Timespec) : (c.settime t).mTree = c.mTree := rfl

@[simp] theorem mTree_disarm : c.disarm.mTree = c.mTree := rfl

@[simp] theorem mTree_addPoll : c.addPoll.mTree = c.mTree := rfl

@[simp] theorem mTree_removePoll : c.removePoll.mTree = c.mTree := rfl

@[simp] theorem mTree_updateSoonestTime (priorTop : Option LocTimerDelegate) :
    (c.updateSoonestTime priorTop).mTree = c.mTree := by
  unfold updateSoonestTime
  dsimp only
  split
  · rfl
  · split
    · rfl
    · rfl
    · split <;> rfl

@[simp] theorem mTree_procPush (timer : LocTimerDelegate) :
    (c.procPush timer).mTree = c.mTree.push ranking timer := by
  rw [procPush, mTree_updateSoonestTime]

@[simp] theorem procRemove_fst (timer : LocTimerDelegate) :
    (c.procRemove timer).1 = (c.mTree.remove ranking timer).1 := rfl

@[simp] theorem mTree_procRemove (timer : LocTimerDelegate) :
    (c.procRemove timer).2.mTree = (c.mTree.remove ranking timer).2 := by
  rw [procRemove]
  dsimp only
  split
  · rw [mTree_updateSoonestTime]
  · rfl

@[simp] theorem pop_fst : c.pop.1 = c.getSoonestTimer := LocHeapNode.pop_fst c.mTree

@[simp] theorem mTree_pop : c.pop.2.mTree = (c.mTree.pop ranking).2 := rfl

/-- What `popIfOutRanks` pops has a second that is not after the present one. -/
theorem popIfOutRanks_cases (now : Timespec) :
    (∃ timer, c.getSoonestTimer = some timer ∧ timer.mFutureTime.tvSec ≤ now.tvSec ∧
      c.popIfOutRanks (timerOfNow now) = (some timer, c.pop.2)) ∨
    (∀ timer, c.getSoonestTimer = some timer → now.tvSec < timer.mFutureTime.tvSec) ∧
      c.popIfOutRanks (timerOfNow now) = (none, c) := by
  rw [popIfOutRanks]
  cases htop : c.getSoonestTimer with
  | none =>
    refine .inr ⟨fun timer h => ?_, rfl⟩
    cases h
  | some top =>
    by_cases hrank : ranking.outRanks (timerOfNow now) top = true
    · refine .inr ⟨fun timer h => ?_, if_pos hrank⟩
      obtain rfl := Option.some.inj h
      exact outRanks_iff.mp hrank
    · refine .inl ⟨top, rfl, Nat.le_of_not_lt fun hlt => hrank (outRanks_iff.mpr hlt), ?_⟩
      dsimp only
      rw [if_neg hrank, ← htop, ← pop_fst]

/-- An expiry of an empty container leaves it alone. -/
theorem updateSoonestTime_pop_none (h : c.getSoonestTimer = none) :
    c.pop.2.updateSoonestTime none = c := by
  obtain ⟨mTree, mDevFd, polled⟩ := c
  cases mTree with
  | null => rfl
  | node => cases h

end LocTimerContainer

/-! ## The machine -/

/-- The fields of a `LocTimerDelegate` that change. -/
structure Links where
  /-- `mClient` -/
  mClient : Option ℕ
  /-- `mContainer` -/
  mContainer : Option Bool
  deriving DecidableEq, Repr

/-- The messages of the timer task. -/
inductive LocMsg where
  /-- `MsgTimerPush` -/
  | push (wakeOnExpire : Bool) (timer : LocTimerDelegate)
  /-- `MsgTimerRemove` -/
  | remove (wakeOnExpire : Bool) (timer : LocTimerDelegate)
  /-- `MsgTimerExpire` -/
  | expire (wakeOnExpire : Bool)
  deriving DecidableEq, Repr

/-- Where the poll thread is, with the containers that it has still to come to. -/
inductive PollPc where
  /-- in `epoll_wait` -/
  | waiting
  /-- before it disarms the container -/
  | disarm (w : Bool) (rest : List Bool)
  /-- before it takes it out of the poll -/
  | removePoll (w : Bool) (rest : List Bool)
  /-- before it sends the message -/
  | send (w : Bool) (rest : List Bool)
  deriving DecidableEq, Repr

/-- Where the message task is; in an expiry, with the time that it read at the begin. -/
inductive TaskPc where
  /-- between two messages -/
  | idle
  /-- the delegate was popped: before its client is read -/
  | popped (w : Bool) (now : Timespec) (timer : LocTimerDelegate)
  /-- before `stop()` of the client that was read -/
  | stopping (w : Bool) (now : Timespec) (timer : LocTimerDelegate) (client : ℕ)
  /-- `stop()` has returned true, for the delegate `stopped`: before `timeOutCallback()` -/
  | calling (w : Bool) (now : Timespec) (timer : LocTimerDelegate) (client : ℕ)
    (stopped : LocTimerDelegate)
  /-- before it pops the next one -/
  | next (w : Bool) (now : Timespec)
  deriving DecidableEq, Repr

/-- The timers, and everybody who uses them. -/
structure Sys where
  /-- `CLOCK_BOOTTIME`; the boot itself is over -/
  now : Timespec := ⟨0, 1, by decide⟩
  /-- `mTimer` of the clients -/
  mTimer : ℕ → Option LocTimerDelegate := fun _ => none
  /-- the delegates that are allocated -/
  delegates : LocTimerDelegate → Option Links := fun _ => none
  /-- so many delegates were created -/
  created : ℕ := 0
  /-- the containers -/
  containers : Bool → LocTimerContainer := fun _ => {}
  /-- the messages, oldest first -/
  mQ : List LocMsg := []
  /-- the poll thread -/
  poll : PollPc := .waiting
  /-- the message task -/
  task : TaskPc := .idle

/-- What a step shows to the outside. -/
inductive Out where
  /-- `start()` creates a delegate, at the time `t` -/
  | started (client : ℕ) (timer : LocTimerDelegate) (t : Timespec) (timeOutInMs : ℕ)
  /-- `stop()` of a client returns true -/
  | stopped (client : ℕ) (timer : LocTimerDelegate)
  /-- `stop()` returns true to an expiry -/
  | detached (client : ℕ) (timer : LocTimerDelegate)
  /-- a delegate is pushed into a heap -/
  | pushed (timer : LocTimerDelegate)
  /-- the message task pops a delegate -/
  | popped (timer : LocTimerDelegate)
  /-- a removal takes a delegate out of a heap -/
  | removed (timer : LocTimerDelegate)
  /-- the expiry of `timer` calls back, `stop()` was for the delegate `stopped` -/
  | timeOut (client : ℕ) (timer stopped : LocTimerDelegate)
  /-- a delegate is deleted -/
  | destroyed (timer : LocTimerDelegate)
  /-- a delegate is used that is not allocated -/
  | dangling (timer : LocTimerDelegate)
  deriving DecidableEq, Repr

namespace Sys

variable (s : Sys)

/-- Change a container. -/
def write (w : Bool) (c : LocTimerContainer) : Sys :=
  { s with containers := Function.update s.containers w c }

/-- `sendMsg`. -/
def sendMsg (msg : LocMsg) : Sys := { s with mQ := s.mQ ++ [msg] }

/-- `LocTimer::start`. -/
def start (client timeOutInMs : ℕ) (wakeOnExpire : Bool) : Sys × List Out :=
  match s.mTimer client with
  | some _ => (s, [])
  | none =>
    let timer : LocTimerDelegate := ⟨s.created + 1, s.now.after timeOutInMs⟩
    let s' := { s with
      mTimer := Function.update s.mTimer client (some timer)
      delegates := Function.update s.delegates timer (some ⟨some client, some wakeOnExpire⟩)
      created := s.created + 1 }
    (s'.sendMsg (.push wakeOnExpire timer), [.started client timer s.now timeOutInMs])

/-- `LocTimerDelegate::destroyLocked`. -/
def destroyLocked (timer : LocTimerDelegate) : Sys × List Out :=
  match s.delegates timer with
  | none => (s, [.dangling timer])
  | some links =>
    let s' := { s with delegates := Function.update s.delegates timer (some ⟨none, none⟩) }
    match links.mContainer with
    | none => (s', [])
    | some w => (s'.sendMsg (.remove w timer), [])

/-- `LocTimer::stop`; the delegate that was stopped, if there was one. -/
def stop (client : ℕ) : Option LocTimerDelegate × Sys × List Out :=
  match s.mTimer client with
  | none => (none, s, [])
  | some timer =>
    (some timer, ({ s with mTimer := Function.update s.mTimer client none }).destroyLocked timer)

/-- The end of a loop turn in `MsgTimerExpire::proc`: a delegate was popped, or the expiry is
over. -/
def turn (w : Bool) (now : Timespec) (popped : Option LocTimerDelegate × LocTimerContainer) :
    Sys × List Out :=
  match popped with
  | (some timer, c) => ({ s.write w c with task := .popped w now timer }, [.popped timer])
  | (none, c) => ({ s.write w (c.updateSoonestTime none) with task := .idle }, [])

/-- The message task goes on. -/
def taskStep : Option (Sys × List Out) :=
  match s.task with
  | .idle =>
    match s.mQ with
    | [] => none
    | .push w timer :: rest =>
      some (({ s with mQ := rest }).write w ((s.containers w).procPush timer), [.pushed timer])
    | .remove w timer :: rest =>
      let removed := (s.containers w).procRemove timer
      let s' := { s with mQ := rest, delegates := Function.update s.delegates timer none }
      some (s'.write w removed.2, removed.1.toList.map .removed ++ [.destroyed timer])
    | .expire w :: rest => some (({ s with mQ := rest }).turn w s.now (s.containers w).pop)
  | .popped w now timer =>
    match s.delegates timer with
    | none => some ({ s with task := .next w now }, [.dangling timer])
    | some ⟨none, _⟩ => some ({ s with task := .next w now }, [])
    | some ⟨some client, _⟩ => some ({ s with task := .stopping w now timer client }, [])
  | .stopping w now timer client =>
    match s.stop client with
    | (none, s', out) => some ({ s' with task := .next w now }, out)
    | (some stopped, s', out) =>
      some ({ s' with task := .calling w now timer client stopped },
        out ++ [.detached client stopped])
  | .calling w now timer client stopped =>
    some ({ s with task := .next w now }, [.timeOut client timer stopped])
  | .next w now => some (s.turn w now ((s.containers w).popIfOutRanks (timerOfNow now)))

/-- The poll thread begins with the next container. -/
def pollNext : List Bool → PollPc
  | [] => .waiting
  | w :: rest => .disarm w rest

/-- The poll thread goes on in `LocTimerContainer::expire`. -/
def pollStep : Option (Sys × List Out) :=
  match s.poll with
  | .waiting => none
  | .disarm w rest =>
    some ({ s.write w (s.containers w).disarm with poll := .removePoll w rest }, [])
  | .removePoll w rest =>
    some ({ s.write w (s.containers w).removePoll with poll := .send w rest }, [])
  | .send w rest => some ({ s.sendMsg (.expire w) with poll := pollNext rest }, [])

end Sys

/-- Who takes a step. -/
inductive Label where
  /-- time passes -/
  | tick (now : Timespec)
  /-- a client calls `start()` -/
  | start (client timeOutInMs : ℕ) (wakeOnExpire : Bool)
  /-- a client calls `stop()` -/
  | stop (client : ℕ)
  /-- `epoll_wait` returns these containers -/
  | wake (ws : List Bool)
  /-- the poll thread goes on -/
  | poll
  /-- the message task goes on -/
  | task
  deriving DecidableEq, Repr

/-- The machine of all parties. -/
def machine : Machine Sys Label Out where
  step s
    | .tick now => if s.now ≤ now then some ({ s with now := now }, []) else none
    | .start client timeOutInMs wakeOnExpire => some (s.start client timeOutInMs wakeOnExpire)
    | .stop client =>
      match s.stop client with
      | (none, s', out) => some (s', out)
      | (some timer, s', out) => some (s', out ++ [.stopped client timer])
    | .wake ws =>
      if s.poll = .waiting ∧ ws ≠ [] ∧ ws.Nodup ∧
          ∀ w ∈ ws, (s.containers w).ready s.now = true then
        some ({ s with poll := Sys.pollNext ws }, [])
      else none
    | .poll => s.pollStep
    | .task => s.taskStep

/-! ## What a step can do -/

namespace Sys

variable (s : Sys)

/-- A delegate loses its client, and is to be removed. -/
def detach (client : ℕ) (timer : LocTimerDelegate) (w : Bool) : Sys :=
  { s with
    mTimer := Function.update s.mTimer client none
    delegates := Function.update s.delegates timer (some ⟨none, none⟩)
    mQ := s.mQ ++ [.remove w timer] }

/-- The top of a heap is popped. -/
def popTop (w : Bool) (now : Timespec) (timer : LocTimerDelegate) : Sys :=
  { s.write w (s.containers w).pop.2 with task := .popped w now timer }

end Sys

/-- The links between clients and delegates that every step relies on. -/
structure Linked (s : Sys) : Prop where
  /-- the delegate of a client knows the client, and its container -/
  client : ∀ client timer, s.mTimer client = some timer →
    ∃ w, s.delegates timer = some ⟨some client, some w⟩
  /-- the delegate that an expiry has popped is allocated -/
  popped : ∀ w now timer, s.task = .popped w now timer → s.delegates timer ≠ none

/-- The steps, one constructor each. -/
inductive Move (s : Sys) : Label → Sys → List Out → Prop where
  | ticks (now : Timespec) (hnow : s.now ≤ now) : Move s (.tick now) { s with now := now } []
  | running (client timeOutInMs : ℕ) (w : Bool) (hclient : s.mTimer client ≠ none) :
    Move s (.start client timeOutInMs w) s []
  | starts (client timeOutInMs : ℕ) (w : Bool) (hclient : s.mTimer client = none)
    (timer : LocTimerDelegate) (htimer : timer = ⟨s.created + 1, s.now.after timeOutInMs⟩) :
    Move s (.start client timeOutInMs w)
      { s with
        mTimer := Function.update s.mTimer client (some timer)
        delegates := Function.update s.delegates timer (some ⟨some client, some w⟩)
        created := s.created + 1
        mQ := s.mQ ++ [.push w timer] }
      [.started client timer s.now timeOutInMs]
  | notRunning (client : ℕ) (hclient : s.mTimer client = none) : Move s (.stop client) s []
  | stops (client : ℕ) (timer : LocTimerDelegate) (w : Bool)
    (hclient : s.mTimer client = some timer)
    (hlinks : s.delegates timer = some ⟨some client, some w⟩) :
    Move s (.stop client) (s.detach client timer w) [.stopped client timer]
  | wakes (ws : List Bool) (hpoll : s.poll = .waiting)
    (hready : ∀ w ∈ ws, (s.containers w).ready s.now = true) :
    Move s (.wake ws) { s with poll := Sys.pollNext ws } []
  | disarms (w : Bool) (rest : List Bool) (hpoll : s.poll = .disarm w rest) :
    Move s .poll { s.write w (s.containers w).disarm with poll := .removePoll w rest } []
  | removesPoll (w : Bool) (rest : List Bool) (hpoll : s.poll = .removePoll w rest) :
    Move s .poll { s.write w (s.containers w).removePoll with poll := .send w rest } []
  | sends (w : Bool) (rest : List Bool) (hpoll : s.poll = .send w rest) :
    Move s .poll { s with mQ := s.mQ ++ [.expire w], poll := Sys.pollNext rest } []
  | pushes (w : Bool) (timer : LocTimerDelegate) (rest : List LocMsg) (htask : s.task = .idle)
    (hq : s.mQ = .push w timer :: rest) :
    Move s .task (({ s with mQ := rest }).write w ((s.containers w).procPush timer))
      [.pushed timer]
  | removes (w : Bool) (timer : LocTimerDelegate) (rest : List LocMsg) (htask : s.task = .idle)
    (hq : s.mQ = .remove w timer :: rest) :
    Move s .task
      (({ s with mQ := rest, delegates := Function.update s.delegates timer none }).write w
        ((s.containers w).procRemove timer).2)
      (((s.containers w).procRemove timer).1.toList.map .removed ++ [.destroyed timer])
  | expiresNone (w : Bool) (rest : List LocMsg) (htask : s.task = .idle)
    (hq : s.mQ = .expire w :: rest) (htop : (s.containers w).getSoonestTimer = none) :
    Move s .task { s with mQ := rest } []
  | popsFirst (w : Bool) (timer : LocTimerDelegate) (rest : List LocMsg) (htask : s.task = .idle)
    (hq : s.mQ = .expire w :: rest) (htop : (s.containers w).getSoonestTimer = some timer) :
    Move s .task (({ s with mQ := rest }).popTop w s.now timer) [.popped timer]
  | reads (w : Bool) (now : Timespec) (timer : LocTimerDelegate) (client : ℕ)
    (container : Option Bool) (htask : s.task = .popped w now timer)
    (hlinks : s.delegates timer = some ⟨some client, container⟩) :
    Move s .task { s with task := .stopping w now timer client } []
  | skips (w : Bool) (now : Timespec) (timer : LocTimerDelegate) (container : Option Bool)
    (htask : s.task = .popped w now timer) (hlinks : s.delegates timer = some ⟨none, container⟩) :
    Move s .task { s with task := .next w now } []
  | misses (w : Bool) (now : Timespec) (timer : LocTimerDelegate) (client : ℕ)
    (htask : s.task = .stopping w now timer client) (hclient : s.mTimer client = none) :
    Move s .task { s with task := .next w now } []
  | detaches (w : Bool) (now : Timespec) (timer : LocTimerDelegate) (client : ℕ)
    (stopped : LocTimerDelegate) (w' : Bool) (htask : s.task = .stopping w now timer client)
    (hclient : s.mTimer client = some stopped)
    (hlinks : s.delegates stopped = some ⟨some client, some w'⟩) :
    Move s .task { s.detach client stopped w' with task := .calling w now timer client stopped }
      [.detached client stopped]
  | calls (w : Bool) (now : Timespec) (timer : LocTimerDelegate) (client : ℕ)
    (stopped : LocTimerDelegate) (htask : s.task = .calling w now timer client stopped) :
    Move s .task { s with task := .next w now } [.timeOut client timer stopped]
  | popsNext (w : Bool) (now : Timespec) (timer : LocTimerDelegate) (htask : s.task = .next w now)
    (htop : (s.containers w).getSoonestTimer = some timer)
    (hdue : timer.mFutureTime.tvSec ≤ now.tvSec) :
    Move s .task (s.popTop w now timer) [.popped timer]
  | finishes (w : Bool) (now : Timespec) (htask : s.task = .next w now)
    (hlater : ∀ timer, (s.containers w).getSoonestTimer = some timer →
      now.tvSec < timer.mFutureTime.tvSec) :
    Move s .task { s.write w ((s.containers w).updateSoonestTime none) with task := .idle } []

variable {s s' : Sys} {l : Label} {out : List Out}

theorem move_start {client timeOutInMs : ℕ} {w : Bool}
    (h : s.start client timeOutInMs w = (s', out)) :
    Move s (.start client timeOutInMs w) s' out := by
  rw [Sys.start] at h
  cases hclient : s.mTimer client with
  | none =>
    rw [hclient] at h
    obtain ⟨rfl, rfl⟩ := Prod.mk.inj h
    exact .starts client timeOutInMs w hclient _ rfl
  | some timer =>
    rw [hclient] at h
    obtain ⟨rfl, rfl⟩ := Prod.mk.inj h
    exact .running client timeOutInMs w (by rw [hclient]; exact Option.some_ne_none _)

/-- `stop()` detaches the delegate of its client, if there is one. -/
theorem stop_cases (hlinked : Linked s) (client : ℕ) :
    s.mTimer client = none ∧ s.stop client = (none, s, []) ∨
    ∃ timer w, s.mTimer client = some timer ∧
      s.delegates timer = some ⟨some client, some w⟩ ∧
      s.stop client = (some timer, s.detach client timer w, []) := by
  rw [Sys.stop]
  cases hclient : s.mTimer client with
  | none => exact .inl ⟨rfl, rfl⟩
  | some timer =>
    obtain ⟨w, hlinks⟩ := hlinked.client client timer hclient
    refine .inr ⟨timer, w, rfl, hlinks, ?_⟩
    simp only [Sys.destroyLocked, hlinks]
    rfl

theorem move_poll (h : s.pollStep = some (s', out)) : Move s .poll s' out := by
  rw [Sys.pollStep] at h
  split at h
  · cases h
  · next w rest hpoll =>
    obtain ⟨rfl, rfl⟩ := Prod.mk.inj (Option.some.inj h)
    exact .disarms w rest hpoll
  · next w rest hpoll =>
    obtain ⟨rfl, rfl⟩ := Prod.mk.inj (Option.some.inj h)
    exact .removesPoll w rest hpoll
  · next w rest hpoll =>
    obtain ⟨rfl, rfl⟩ := Prod.mk.inj (Option.some.inj h)
    exact .sends w rest hpoll

/-- A turn of the loop that has popped a delegate. -/
theorem turn_some {w : Bool} {now : Timespec} {timer : LocTimerDelegate}
    {popped : Option LocTimerDelegate × LocTimerContainer} (h : popped.1 = some timer) :
    s.turn w now popped =
      ({ s.write w popped.2 with task := .popped w now timer }, [.popped timer]) := by
  obtain ⟨o, c⟩ := popped
  obtain rfl : o = some timer := h
  rfl

/-- The last turn of the loop. -/
theorem turn_none {w : Bool} {now : Timespec}
    {popped : Option LocTimerDelegate × LocTimerContainer} (h : popped.1 = none) :
    s.turn w now popped =
      ({ s.write w (popped.2.updateSoonestTime none) with task := .idle }, []) := by
  obtain ⟨o, c⟩ := popped
  obtain rfl : o = none := h
  rfl

theorem move_task (hlinked : Linked s) (h : s.taskStep = some (s', out)) :
    Move s .task s' out := by
  unfold Sys.taskStep at h
  split at h
  · next htask =>
    split at h
    · cases h
    · next w timer rest hq =>
      obtain ⟨rfl, rfl⟩ := Prod.mk.inj (Option.some.inj h)
      exact .pushes w timer rest htask hq
    · next w timer rest hq =>
      obtain ⟨rfl, rfl⟩ := Prod.mk.inj (Option.some.inj h)
      exact .removes w timer rest htask hq
    · next w rest hq =>
      have hturn := Option.some.inj h
      cases htop : (s.containers w).getSoonestTimer with
      | none =>
        rw [turn_none ((LocTimerContainer.pop_fst _).trans htop),
          LocTimerContainer.updateSoonestTime_pop_none _ htop] at hturn
        obtain ⟨rfl, rfl⟩ := Prod.mk.inj hturn
        have hmove := Move.expiresNone w rest htask hq htop
        simpa [Sys.write, ← htask] using hmove
      | some timer =>
        rw [turn_some ((LocTimerContainer.pop_fst _).trans htop)] at hturn
        obtain ⟨rfl, rfl⟩ := Prod.mk.inj hturn
        exact .popsFirst w timer rest htask hq htop
  · next w now timer htask =>
    split at h
    · next hnone => exact absurd hnone (hlinked.popped w now timer htask)
    · next container hlinks =>
      obtain ⟨rfl, rfl⟩ := Prod.mk.inj (Option.some.inj h)
      exact .skips w now timer container htask hlinks
    · next client container hlinks =>
      obtain ⟨rfl, rfl⟩ := Prod.mk.inj (Option.some.inj h)
      exact .reads w now timer client container htask hlinks
  · next w now timer client htask =>
    rcases stop_cases hlinked client with ⟨hclient, hstop⟩ | ⟨stopped, w', hclient, hlinks, hstop⟩
    · rw [hstop] at h
      obtain ⟨rfl, rfl⟩ := Prod.mk.inj (Option.some.inj h)
      exact .misses w now timer client htask hclient
    · rw [hstop] at h
      obtain ⟨rfl, rfl⟩ := Prod.mk.inj (Option.some.inj h)
      exact .detaches w now timer client stopped w' htask hclient hlinks
  · next w now timer client stopped htask =>
    obtain ⟨rfl, rfl⟩ := Prod.mk.inj (Option.some.inj h)
    exact .calls w now timer client stopped htask
  · next w now htask =>
    have hturn := Option.some.inj h
    rcases (s.containers w).popIfOutRanks_cases now with ⟨timer, htop, hdue, hpop⟩ | ⟨hlater, hpop⟩
    · rw [hpop, turn_some rfl] at hturn
      obtain ⟨rfl, rfl⟩ := Prod.mk.inj hturn
      exact .popsNext w now timer htask htop hdue
    · rw [hpop, turn_none rfl] at hturn
      obtain ⟨rfl, rfl⟩ := Prod.mk.inj hturn
      exact .finishes w now htask hlater

/-- Every step is one of the moves. -/
theorem move_of_step (hlinked : Linked s) (h : machine.step s l = some (s', out)) :
    Move s l s' out := by
  cases l with
  | tick now =>
    simp only [machine] at h
    split at h
    · next hnow =>
      obtain ⟨rfl, rfl⟩ := Prod.mk.inj (Option.some.inj h)
      exact .ticks now hnow
    · cases h
  | start client timeOutInMs w => exact move_start (Option.some.inj h)
  | stop client =>
    simp only [machine] at h
    rcases stop_cases hlinked client with ⟨hclient, hstop⟩ | ⟨timer, w, hclient, hlinks, hstop⟩
    · rw [hstop] at h
      obtain ⟨rfl, rfl⟩ := Prod.mk.inj (Option.some.inj h)
      exact .notRunning client hclient
    · rw [hstop] at h
      obtain ⟨rfl, rfl⟩ := Prod.mk.inj (Option.some.inj h)
      exact .stops client timer w hclient hlinks
  | wake ws =>
    simp only [machine] at h
    split at h
    · next hwake =>
      obtain ⟨rfl, rfl⟩ := Prod.mk.inj (Option.some.inj h)
      exact .wakes ws hwake.1 hwake.2.2.2
    · cases h
  | poll => exact move_poll h
  | task => exact move_task hlinked h

end OppoA37.LocTimer
