import OppoA37.Gps.LocTimer.Timers
import OppoA37.Lib.Observer

/-!
# The life of a delegate

A delegate is created by `start()`, pushed into a heap, taken out of it by an expiry or a
removal, and deleted; meanwhile it is detached from its client by `stop()`, which is called by
the client or by an expiry. An observer that sees only what happens to one delegate accepts a
single life of it, and the machine shows it nothing else (`timers_run`).
-/

namespace OppoA37.LocTimer

open Lts LocHeap

/-! ## Lives -/

/-- Where a delegate is for the message task. -/
inductive Place where
  /-- its push is in the queue -/
  | queued
  /-- in its heap -/
  | kept
  /-- popped by an expiry that has not called back -/
  | popped
  /-- behind -/
  | out
  deriving DecidableEq, Repr

/-- What a delegate is to its client. -/
inductive Tie where
  /-- it is `mTimer` -/
  | attached
  /-- the client has stopped it -/
  | stopped
  /-- an expiry has stopped it, and will call back -/
  | expiring
  /-- and has called back -/
  | called
  deriving DecidableEq, Repr

/-- How far a delegate is in its life. -/
inductive Fate where
  /-- not created yet -/
  | fresh
  /-- allocated -/
  | live (client : ℕ) (place : Place) (tie : Tie)
  /-- deleted -/
  | gone
  deriving DecidableEq, Repr

/-- What happens to a delegate. -/
inductive Use where
  | start (client : ℕ)
  | push
  | pop
  | remove
  | stop (client : ℕ)
  | detach (client : ℕ)
  | call (client : ℕ)
  /-- an expiry of it calls back -/
  | fire
  | destroy
  deriving DecidableEq, Repr

/-- What an output says of the delegate `d`. -/
def Out.uses (d : LocTimerDelegate) : Out → List Use
  | .started client timer _ _ => if timer = d then [.start client] else []
  | .stopped client timer => if timer = d then [.stop client] else []
  | .detached client timer => if timer = d then [.detach client] else []
  | .pushed timer => if timer = d then [.push] else []
  | .popped timer => if timer = d then [.pop] else []
  | .removed timer => if timer = d then [.remove] else []
  | .timeOut client timer d' =>
    (if d' = d then [.call client] else []) ++ if timer = d then [.fire] else []
  | .destroyed timer => if timer = d then [.destroy] else []
  | .dangling _ => []

/-- What a step does to the delegate `d`. -/
def uses (d : LocTimerDelegate) (e : Event Sys Label Out) : List Use := e.out.flatMap (·.uses d)

/-- The lives that a delegate may have. -/
def lives : Observer Fate Use where
  next
    | .fresh, .start client => some (.live client .queued .attached)
    | .live client .queued tie, .push => some (.live client .kept tie)
    | .live client .kept tie, .pop => some (.live client .popped tie)
    | .live client .kept tie, .remove => some (.live client .out tie)
    | .live client place .attached, .stop client' =>
      if client' = client then some (.live client place .stopped) else none
    | .live client place .attached, .detach client' =>
      if client' = client then some (.live client place .expiring) else none
    | .live client place .expiring, .call client' =>
      if client' = client then some (.live client place .called) else none
    | .live client .popped tie, .fire => some (.live client .out tie)
    | .live _ .popped .stopped, .destroy => some .gone
    | .live _ .popped .called, .destroy => some .gone
    | .live _ .out .stopped, .destroy => some .gone
    | .live _ .out .called, .destroy => some .gone
    | _, _ => none

/-! ## Where a delegate is -/

/-- A message is about a delegate. -/
def LocMsg.about (d : LocTimerDelegate) : LocMsg → Bool
  | .push _ timer => timer = d
  | .remove _ timer => timer = d
  | .expire _ => false

/-- The delegate that an expiry is at. -/
def TaskPc.hand : TaskPc → Option LocTimerDelegate
  | .popped _ _ timer => some timer
  | .stopping _ _ timer _ => some timer
  | .calling _ _ timer _ _ => some timer
  | _ => none

/-- The client that an expiry will call back, and the delegate that was stopped. -/
def TaskPc.stopped : TaskPc → Option (ℕ × LocTimerDelegate)
  | .calling _ _ _ client stopped => some (client, stopped)
  | _ => none

/-- What is said of a delegate that is allocated. -/
structure Alive (d : LocTimerDelegate) (client : ℕ) (w : Bool) (place : Place) (tie : Tie)
    (s : Sys) : Prop where
  /-- it was created -/
  id : d.id ≤ s.created
  /-- the messages about it, in this order -/
  msgs : s.mQ.filter (LocMsg.about d) = (if place = .queued then [.push w d] else []) ++
    if tie = .attached then [] else [.remove w d]
  /-- it is in its heap, and once, or in none -/
  stored : ∀ w', (s.containers w').mTree.stored.count d = if place = .kept ∧ w' = w then 1 else 0
  /-- its fields -/
  delegates : s.delegates d =
    some (if tie = .attached then ⟨some client, some w⟩ else ⟨none, none⟩)
  /-- its client -/
  mTimer : ∀ c, s.mTimer c = some d ↔ c = client ∧ tie = .attached
  /-- an expiry that is at it has popped it -/
  hand : s.task.hand = some d → place = .popped
  /-- and one that calls back for it has stopped it -/
  stopped : ∀ c, s.task.stopped = some (c, d) ↔ c = client ∧ tie = .expiring

/-- Nobody knows the delegate. -/
structure Absent (d : LocTimerDelegate) (s : Sys) : Prop where
  /-- no message is about it -/
  msgs : s.mQ.filter (LocMsg.about d) = []
  /-- it is in no heap -/
  stored : ∀ w, (s.containers w).mTree.stored.count d = 0
  /-- it is not allocated -/
  delegates : s.delegates d = none
  /-- it has no client -/
  mTimer : ∀ c, s.mTimer c ≠ some d
  /-- no expiry is at it -/
  hand : s.task.hand ≠ some d
  /-- nor calls back for it -/
  stopped : ∀ c, s.task.stopped ≠ some (c, d)

/-- A delegate is where it should be in its life, and nowhere else. -/
def Located (d : LocTimerDelegate) (s : Sys) : Fate → Prop
  | .fresh => Absent d s
  | .live client place tie => ∃ w, Alive d client w place tie s
  | .gone => d.id ≤ s.created ∧ Absent d s

/-- The heaps are consistent. -/
def Sorted (s : Sys) : Prop := ∀ w, (s.containers w).mTree.checkNodes ranking = true

variable {s s' : Sys} {l : Label} {out : List Out} {d timer : LocTimerDelegate} {v : Fate}
  {w : Bool} {client : ℕ}

/-- Nothing happens to the delegate. -/
theorem Located.stay (h : Located d s v) (hid : s.created ≤ s'.created)
    (hmsgs : s'.mQ.filter (LocMsg.about d) = s.mQ.filter (LocMsg.about d))
    (hstored : ∀ w, (s'.containers w).mTree.stored.count d =
      (s.containers w).mTree.stored.count d)
    (hdelegates : s'.delegates d = s.delegates d)
    (hmTimer : ∀ c, s'.mTimer c = some d ↔ s.mTimer c = some d)
    (hhand : s'.task.hand = some d → s.task.hand = some d)
    (hstopped : ∀ c, s'.task.stopped = some (c, d) ↔ s.task.stopped = some (c, d)) :
    Located d s' v := by
  have habsent : Absent d s → Absent d s' := fun h =>
    { msgs := hmsgs.trans h.msgs
      stored := fun w => (hstored w).trans (h.stored w)
      delegates := hdelegates.trans h.delegates
      mTimer := fun c hc => h.mTimer c ((hmTimer c).mp hc)
      hand := fun hc => h.hand (hhand hc)
      stopped := fun c hc => h.stopped c ((hstopped c).mp hc) }
  cases v with
  | fresh => exact habsent h
  | live client place tie =>
    obtain ⟨w, h⟩ := h
    exact ⟨w,
      { id := h.id.trans hid
        msgs := hmsgs.trans h.msgs
        stored := fun w => (hstored w).trans (h.stored w)
        delegates := hdelegates.trans h.delegates
        mTimer := fun c => (hmTimer c).trans (h.mTimer c)
        hand := fun hc => h.hand (hhand hc)
        stopped := fun c => (hstopped c).trans (h.stopped c) }⟩
  | gone => exact ⟨h.1.trans hid, habsent h.2⟩

/-- Only the clock, the poll thread, or the containers without their heaps change. -/
theorem Located.stay_heap (h : Located d s v) (hcreated : s'.created = s.created)
    (hmQ : s'.mQ.filter (LocMsg.about d) = s.mQ.filter (LocMsg.about d))
    (hmTree : ∀ w, (s'.containers w).mTree = (s.containers w).mTree)
    (hdelegates : s'.delegates = s.delegates) (hmTimer : s'.mTimer = s.mTimer)
    (hhand : s'.task.hand = some d → s.task.hand = some d)
    (hstopped : s'.task.stopped = s.task.stopped) : Located d s' v := by
  refine h.stay hcreated.ge hmQ (fun w => by rw [hmTree]) (by rw [hdelegates])
    (fun c => by rw [hmTimer]) hhand fun c => by rw [hstopped]

/-- A change of a container that leaves its heap alone. -/
theorem mTree_write {c : LocTimerContainer} (hc : c.mTree = (s.containers w).mTree) (w' : Bool) :
    ((s.write w c).containers w').mTree = (s.containers w').mTree := by
  by_cases hw : w' = w
  · subst hw
    simp only [Sys.write, Function.update_self]
    exact hc
  · simp only [Sys.write, Function.update_of_ne hw]

/-- A change of the heap of a container. -/
theorem count_write {c : LocTimerContainer}
    (hc : c.mTree.stored.count d = (s.containers w).mTree.stored.count d) (w' : Bool) :
    ((s.write w c).containers w').mTree.stored.count d =
      (s.containers w').mTree.stored.count d := by
  by_cases hw : w' = w
  · subst hw
    simp only [Sys.write, Function.update_self]
    exact hc
  · simp only [Sys.write, Function.update_of_ne hw]

/-! ## Steps -/

/-- What a step shows of a delegate is its life, and then it is where it should be. -/
def Follows (d : LocTimerDelegate) (v : Fate) (out : List Out) (s : Sys) : Prop :=
  ∃ v', lives.read v (out.flatMap (·.uses d)) = some v' ∧ Located d s v'

/-- A step that shows nothing of the delegate. -/
theorem Located.follows (h : Located d s v) (hout : out.flatMap (·.uses d) = []) :
    Follows d v out s := by
  refine ⟨v, ?_, h⟩
  rw [hout]
  rfl

/-- A step that shows nothing at all. -/
theorem Located.quiet (h : Located d s v) : Follows d v [] s := h.follows rfl

/-- A client starts its timer. -/
theorem Located.starts (h : Located d s v) (hclient : s.mTimer client = none)
    (hid : timer.id = s.created + 1) {t : Timespec} {timeOutInMs : ℕ} :
    Follows d v [.started client timer t timeOutInMs]
      { s with
        mTimer := Function.update s.mTimer client (some timer)
        delegates := Function.update s.delegates timer (some ⟨some client, some w⟩)
        created := s.created + 1
        mQ := s.mQ ++ [.push w timer] } := by
  by_cases hd : timer = d
  · subst hd
    have hlt : ¬ timer.id ≤ s.created := by
      rw [hid]
      exact Nat.not_succ_le_self _
    cases v with
    | fresh =>
      have habsent : Absent timer s := h
      refine ⟨.live client .queued .attached, by simp [Out.uses, lives], w, ?_⟩
      refine ⟨hid.le, ?_, fun w' => ?_, ?_, fun c => ?_, fun hc => ?_, fun c => ?_⟩
      · simp [habsent.msgs, LocMsg.about]
      · simpa using habsent.stored w'
      · simp
      · by_cases hc : c = client
        · subst hc
          simp
        · simp [hc, habsent.mTimer c]
      · exact absurd hc habsent.hand
      · simp [habsent.stopped c]
    | live client' place tie =>
      obtain ⟨w', halive⟩ := h
      exact absurd halive.id hlt
    | gone => exact absurd h.1 hlt
  · refine Located.follows (h.stay (Nat.le_succ _) ?_ (fun w => rfl) ?_ (fun c => ?_) (fun hc => hc)
      fun c => Iff.rfl) (by simp [Out.uses, hd])
    · simp [LocMsg.about, hd]
    · exact Function.update_of_ne (Ne.symm hd) ..
    · by_cases hc : c = client
      · subst hc
        simp [hclient, hd]
      · simp [hc]

/-- A delegate is detached from its client. -/
theorem Located.detach (h : Located d s v) (hclient : s.mTimer client = some timer)
    (hlinks : s.delegates timer = some ⟨some client, some w⟩) (hd : timer ≠ d) :
    Located d (s.detach client timer w) v := by
  refine h.stay (Nat.le_refl _) ?_ (fun w => rfl) ?_ (fun c => ?_) (fun hc => hc)
    fun c => Iff.rfl
  · simp [Sys.detach, LocMsg.about, hd]
  · exact Function.update_of_ne (Ne.symm hd) ..
  · by_cases hc : c = client
    · subst hc
      simp [Sys.detach, hclient, hd]
    · simp [Sys.detach, hc]

/-- The delegate of a client is attached to it. -/
theorem Located.attached (h : Located timer s v) (hclient : s.mTimer client = some timer)
    (hlinks : s.delegates timer = some ⟨some client, some w⟩) :
    ∃ place, v = .live client place .attached ∧ Alive timer client w place .attached s := by
  cases v with
  | fresh => exact absurd hclient (Absent.mTimer h client)
  | gone => exact absurd hclient (h.2.mTimer client)
  | live client' place tie =>
    obtain ⟨w', halive⟩ := h
    obtain ⟨rfl, rfl⟩ := (halive.mTimer client).mp hclient
    have hlinks' := halive.delegates
    rw [if_pos rfl, hlinks] at hlinks'
    obtain rfl : w = w' := by simpa using hlinks'
    exact ⟨place, rfl, halive⟩

/-- A delegate that is detached is to be removed. -/
theorem Alive.detach {place : Place} {tie : Tie} {task : TaskPc}
    (h : Alive timer client w place .attached s)
    (htie : tie ≠ .attached) (hhand : task.hand = some timer → place = .popped)
    (hstopped : ∀ c, task.stopped = some (c, timer) ↔ c = client ∧ tie = .expiring) :
    Alive timer client w place tie { s.detach client timer w with task := task } where
  id := h.id
  msgs := by
    show (s.mQ ++ [LocMsg.remove w timer]).filter _ = _
    rw [List.filter_append, h.msgs, if_pos rfl, List.append_nil, if_neg htie]
    simp [LocMsg.about]
  stored := h.stored
  delegates := by simp [Sys.detach, htie]
  mTimer c := by
    by_cases hc : c = client
    · subst hc
      simp [Sys.detach, htie]
    · have hno := h.mTimer c
      simp only [hc, false_and, iff_false] at hno ⊢
      simpa [Sys.detach, hc] using hno
  hand := hhand
  stopped := hstopped

/-- A client stops its timer. -/
theorem Located.stops (h : Located d s v) (hclient : s.mTimer client = some timer)
    (hlinks : s.delegates timer = some ⟨some client, some w⟩) :
    Follows d v [.stopped client timer] (s.detach client timer w) := by
  by_cases hd : timer = d
  · subst hd
    obtain ⟨place, rfl, halive⟩ := h.attached hclient hlinks
    refine ⟨.live client place .stopped, by simp [Out.uses, lives], w, ?_⟩
    have hstopped : ∀ c, s.task.stopped ≠ some (c, timer) := by
      intro c hc
      have htie := ((halive.stopped c).mp hc).2
      cases htie
    refine halive.detach (by decide) halive.hand fun c => ?_
    simp [hstopped c]
  · exact (h.detach hclient hlinks hd).follows (by simp [Out.uses, hd])

/-- An expiry stops a timer. -/
theorem Located.detaches (h : Located d s v) {now : Timespec} {timer' : LocTimerDelegate}
    {w' : Bool} (htask : s.task = .stopping w' now timer' client)
    (hclient : s.mTimer client = some timer)
    (hlinks : s.delegates timer = some ⟨some client, some w⟩) :
    Follows d v [.detached client timer]
      { s.detach client timer w with task := .calling w' now timer' client timer } := by
  by_cases hd : timer = d
  · subst hd
    obtain ⟨place, rfl, halive⟩ := h.attached hclient hlinks
    refine ⟨.live client place .expiring, by simp [Out.uses, lives], w, ?_⟩
    refine halive.detach (by decide) (fun hc => halive.hand ?_) fun c => ?_
    · rw [htask]
      exact hc
    · simp [TaskPc.stopped, eq_comm]
  · refine Located.follows ((h.detach hclient hlinks hd).stay (Nat.le_refl _) rfl (fun _ => rfl) rfl
      (fun _ => Iff.rfl) (fun hc => ?_) fun c => ?_) (by simp [Out.uses, hd])
    · show s.task.hand = _
      rw [htask]
      exact hc
    · show _ ↔ s.task.stopped = _
      rw [htask]
      simp [TaskPc.stopped, hd]

/-- A message that is about another delegate. -/
theorem filter_of_not_about {m : LocMsg} {rest : List LocMsg} (hq : s.mQ = m :: rest)
    (hm : m.about d = false) : rest.filter (LocMsg.about d) = s.mQ.filter (LocMsg.about d) := by
  rw [hq, List.filter_cons_of_neg (by rw [hm]; exact Bool.false_ne_true)]

/-- A delegate that a message is about is allocated. -/
theorem Located.alive_of_mem (h : Located d s v) {m : LocMsg} (hm : m ∈ s.mQ)
    (habout : m.about d = true) :
    ∃ client place tie w, v = .live client place tie ∧ Alive d client w place tie s := by
  have hmem : m ∈ s.mQ.filter (LocMsg.about d) := List.mem_filter.mpr ⟨hm, habout⟩
  cases v with
  | fresh =>
    rw [Absent.msgs h] at hmem
    cases hmem
  | gone =>
    rw [h.2.msgs] at hmem
    cases hmem
  | live client place tie =>
    obtain ⟨w, halive⟩ := h
    exact ⟨client, place, tie, w, rfl, halive⟩

/-- A push is processed. -/
theorem Located.pushes (h : Located d s v) {rest : List LocMsg} (htask : s.task = .idle)
    (hq : s.mQ = .push w timer :: rest) :
    Follows d v [.pushed timer]
      (({ s with mQ := rest }).write w ((s.containers w).procPush timer)) := by
  by_cases hd : timer = d
  · subst hd
    obtain ⟨client, place, tie, w', rfl, halive⟩ :=
      h.alive_of_mem (hq ▸ List.mem_cons_self) (by simp [LocMsg.about])
    have hmsgs := halive.msgs
    rw [hq, List.filter_cons_of_pos (by simp [LocMsg.about])] at hmsgs
    -- the first message about it is its push
    obtain rfl : place = .queued := by
      by_contra hplace
      rw [if_neg hplace, List.nil_append] at hmsgs
      split at hmsgs
      all_goals cases hmsgs
    rw [if_pos rfl, List.singleton_append] at hmsgs
    obtain ⟨hhead, hrest⟩ := List.cons.inj hmsgs
    obtain ⟨rfl, -⟩ := LocMsg.push.inj hhead
    refine ⟨.live client .kept tie, by simp [Out.uses, lives], w, ?_⟩
    refine ⟨halive.id, ?_, fun w' => ?_, halive.delegates, halive.mTimer, fun hc => ?_,
      halive.stopped⟩
    · simpa [Sys.write] using hrest
    · have hcount := halive.stored w'
      by_cases hw : w' = w
      · subst hw
        simpa [Sys.write, LocHeapNode.stored_push] using hcount
      · simpa [Sys.write, hw] using hcount
    · have hnone : s.task.hand = some timer := hc
      rw [htask] at hnone
      cases hnone
  · refine Located.follows (h.stay (Nat.le_refl _) (filter_of_not_about hq ?_) (fun w' => ?_) rfl
      (fun _ => Iff.rfl) (fun hc => hc) fun _ => Iff.rfl) (by simp [Out.uses, hd])
    · simp [LocMsg.about, hd]
    · refine count_write (s := { s with mQ := rest }) ?_ w'
      rw [LocTimerContainer.mTree_procPush, LocHeapNode.stored_push]
      exact Multiset.count_cons_of_ne (Ne.symm hd) _

/-- What a removal does to a heap. -/
theorem procRemove_cases {c : LocTimerContainer} (hc : c.mTree.checkNodes ranking = true)
    (timer : LocTimerDelegate) :
    ((c.procRemove timer).1 = some timer ∧
      timer ::ₘ (c.procRemove timer).2.mTree.stored = c.mTree.stored) ∨
    (timer ∉ c.mTree.stored ∧ (c.procRemove timer).1 = none ∧
      (c.procRemove timer).2.mTree = c.mTree) := by
  rw [LocTimerContainer.procRemove_fst, LocTimerContainer.mTree_procRemove]
  rcases LocHeapNode.remove_spec hc timer with ⟨hfst, hstored, -⟩ | ⟨hno, heq⟩
  · exact .inl ⟨hfst, hstored⟩
  · rw [heq]
    exact .inr ⟨hno, rfl, rfl⟩

/-- A removal is processed. -/
theorem Located.removes (h : Located d s v) (hsorted : Sorted s) {rest : List LocMsg}
    (htask : s.task = .idle) (hq : s.mQ = .remove w timer :: rest) :
    Follows d v (((s.containers w).procRemove timer).1.toList.map .removed ++ [.destroyed timer])
      (({ s with mQ := rest, delegates := Function.update s.delegates timer none }).write w
        ((s.containers w).procRemove timer).2) := by
  have hcases := procRemove_cases (hsorted w) timer
  by_cases hd : timer = d
  · subst hd
    obtain ⟨client, place, tie, w', rfl, halive⟩ :=
      h.alive_of_mem (hq ▸ List.mem_cons_self) (by simp [LocMsg.about])
    have hmsgs := halive.msgs
    rw [hq, List.filter_cons_of_pos (by simp [LocMsg.about])] at hmsgs
    -- its push was processed, and it was stopped
    have hplace : place ≠ .queued := by
      rintro rfl
      rw [if_pos rfl, List.singleton_append] at hmsgs
      cases (List.cons.inj hmsgs).1
    have htie : tie ≠ .attached := by
      rintro rfl
      rw [if_neg hplace, if_pos rfl] at hmsgs
      cases hmsgs
    rw [if_neg hplace, if_neg htie, List.nil_append] at hmsgs
    obtain ⟨hhead, hrest⟩ := List.cons.inj hmsgs
    obtain ⟨rfl, -⟩ := LocMsg.remove.inj hhead
    have hnotExpiring : tie ≠ .expiring := by
      rintro rfl
      have hcalls := (halive.stopped client).mpr ⟨rfl, rfl⟩
      rw [htask] at hcalls
      cases hcalls
    have habsent : Absent timer
        (({ s with mQ := rest, delegates := Function.update s.delegates timer none }).write w
          ((s.containers w).procRemove timer).2) := by
      refine ⟨hrest, fun w' => ?_, by simp [Sys.write], fun c hc => ?_, fun hc => ?_,
        fun c hc => ?_⟩
      · have hcount := halive.stored w'
        by_cases hw : w' = w
        · subst hw
          simp only [Sys.write, Function.update_self]
          rcases hcases with ⟨-, hstored⟩ | ⟨hno, -, hsame⟩
          · rw [← hstored, Multiset.count_cons_self] at hcount
            split at hcount <;> omega
          · rw [hsame]
            exact Multiset.count_eq_zero.mpr hno
        · simpa [Sys.write, hw] using hcount
      · exact htie ((halive.mTimer c).mp hc).2
      · have hnone : s.task.hand = some timer := hc
        rw [htask] at hnone
        cases hnone
      · exact hnotExpiring ((halive.stopped c).mp hc).2
    refine ⟨.gone, ?_, halive.id, habsent⟩
    have hcount := halive.stored w
    rcases hcases with ⟨hfst, hstored⟩ | ⟨hno, hfst, -⟩
    · -- still in its heap
      obtain rfl : place = .kept := by
        by_contra hkept
        rw [← hstored, Multiset.count_cons_self] at hcount
        simp [hkept] at hcount
      rw [hfst]
      cases tie with
      | stopped | called => simp [Out.uses, lives]
      | attached => exact absurd rfl htie
      | expiring => exact absurd rfl hnotExpiring
    · rw [Multiset.count_eq_zero.mpr hno] at hcount
      rw [hfst]
      cases place with
      | queued => exact absurd rfl hplace
      | kept => simp at hcount
      | popped | out =>
        cases tie with
        | stopped | called => simp [Out.uses, lives]
        | attached => exact absurd rfl htie
        | expiring => exact absurd rfl hnotExpiring
  · refine Located.follows (h.stay (Nat.le_refl _) (filter_of_not_about hq ?_) (fun w' => ?_) ?_
      (fun _ => Iff.rfl) (fun hc => hc) fun _ => Iff.rfl) ?_
    · simp [LocMsg.about, hd]
    · refine count_write
        (s := { s with mQ := rest, delegates := Function.update s.delegates timer none }) ?_ w'
      rcases hcases with ⟨-, hstored⟩ | ⟨-, -, hsame⟩
      · rw [← hstored]
        exact (Multiset.count_cons_of_ne (Ne.symm hd) _).symm
      · rw [hsame]
    · exact Function.update_of_ne (Ne.symm hd) ..
    · rcases hcases with ⟨hfst, -⟩ | ⟨-, hfst, -⟩
      all_goals
        rw [hfst]
        simp [Out.uses, hd]

/-- What a pop leaves in the heap. -/
theorem stored_pop {c : LocTimerContainer} (hc : c.mTree.checkNodes ranking = true)
    (htop : c.getSoonestTimer = some timer) : timer ::ₘ c.pop.2.mTree.stored = c.mTree.stored :=
  (LocHeapNode.pop_spec hc htop).1

/-- An expiry pops the top of a heap. -/
theorem Located.pops (h : Located d s v) (hsorted : Sorted s) {now : Timespec}
    (hstopped : s.task.stopped = none)
    (htop : (s.containers w).getSoonestTimer = some timer) :
    Follows d v [.popped timer] (s.popTop w now timer) := by
  have hstored := stored_pop (hsorted w) htop
  by_cases hd : timer = d
  · subst hd
    have hpos : 0 < (s.containers w).mTree.stored.count timer := by
      rw [← hstored, Multiset.count_cons_self]
      exact Nat.succ_pos _
    cases v with
    | fresh => exact absurd (Absent.stored h w) hpos.ne'
    | gone => exact absurd (h.2.stored w) hpos.ne'
    | live client place tie =>
      obtain ⟨w', halive⟩ := h
      rw [halive.stored w] at hpos
      obtain ⟨rfl, rfl⟩ : place = .kept ∧ w = w' := by
        by_contra hno
        rw [if_neg hno] at hpos
        exact lt_irrefl _ hpos
      refine ⟨.live client .popped tie, by simp [Out.uses, lives], w, ?_⟩
      refine ⟨halive.id, ?_, fun w' => ?_, halive.delegates, halive.mTimer, fun _ => rfl,
        fun c => ?_⟩
      · simpa [Sys.popTop, Sys.write] using halive.msgs
      · have hcount := halive.stored w'
        by_cases hw : w' = w
        · subst hw
          rw [← hstored, Multiset.count_cons_self] at hcount
          simpa [Sys.popTop, Sys.write] using hcount
        · simpa [Sys.popTop, Sys.write, hw] using hcount
      · have hno := halive.stopped c
        rw [hstopped] at hno
        simpa [Sys.popTop, TaskPc.stopped] using hno
  · refine Located.follows (h.stay (Nat.le_refl _) rfl (fun w' => count_write ?_ w') rfl
      (fun _ => Iff.rfl) (fun hc => absurd (Option.some.inj hc) hd) fun c => ?_)
      (by simp [Out.uses, hd])
    · rw [← hstored]
      exact (Multiset.count_cons_of_ne (Ne.symm hd) _).symm
    · rw [hstopped]
      simp [Sys.popTop, TaskPc.stopped]

/-- An expiry calls back. -/
theorem Located.calls (h : Located d s v) {now : Timespec} {stopped : LocTimerDelegate}
    (htask : s.task = .calling w now timer client stopped) :
    Follows d v [.timeOut client timer stopped] { s with task := .next w now } := by
  have hstopped : ∀ c, s.task.stopped = some (c, d) ↔ client = c ∧ stopped = d := by
    intro c
    rw [htask]
    simp [TaskPc.stopped]
  have hhand : s.task.hand = some d ↔ timer = d := by
    rw [htask]
    simp [TaskPc.hand]
  by_cases hneither : stopped ≠ d ∧ timer ≠ d
  · refine Located.follows (h.stay (Nat.le_refl _) rfl (fun _ => rfl) rfl (fun _ => Iff.rfl)
      (fun hc => ?_) fun c => ?_) (by simp [Out.uses, hneither])
    · cases hc
    · rw [hstopped]
      simp [TaskPc.stopped, hneither]
  · cases v with
    | fresh =>
      refine absurd ⟨?_, ?_⟩ hneither
      · exact fun hd => Absent.stopped h client ((hstopped client).mpr ⟨rfl, hd⟩)
      · exact fun hd => Absent.hand h (hhand.mpr hd)
    | gone =>
      refine absurd ⟨?_, ?_⟩ hneither
      · exact fun hd => h.2.stopped client ((hstopped client).mpr ⟨rfl, hd⟩)
      · exact fun hd => h.2.hand (hhand.mpr hd)
    | live client' place tie =>
      obtain ⟨w', halive⟩ := h
      have hpopped : timer = d → place = .popped := fun hd => halive.hand (hhand.mpr hd)
      have hexpiring : stopped = d ↔ client = client' ∧ tie = .expiring := by
        rw [← halive.stopped client, hstopped]
        simp
      have hback : ∀ place' tie', (place' = .queued ↔ place = .queued) →
          (place' = .kept ↔ place = .kept) → (tie' = .attached ↔ tie = .attached) →
          tie' ≠ .expiring → Alive d client' w' place' tie' { s with task := .next w now } := by
        intro place' tie' hqueued hkept hattached hexp
        refine ⟨halive.id, ?_, fun w => ?_, ?_, fun c => ?_, fun hc => ?_, fun c => ?_⟩
        · simpa only [hqueued, hattached] using halive.msgs
        · simpa only [hkept] using halive.stored w
        · simpa only [hattached] using halive.delegates
        · simpa only [hattached] using halive.mTimer c
        · cases hc
        · simp [TaskPc.stopped, hexp]
      by_cases hd : stopped = d
      · obtain ⟨rfl, rfl⟩ := hexpiring.mp hd
        by_cases hd' : timer = d
        · -- it was popped by the same expiry that has stopped it
          obtain rfl := hpopped hd'
          refine ⟨.live client .out .called, by simp [Out.uses, lives, hd, hd'], w', ?_⟩
          refine hback _ _ ?_ ?_ ?_ ?_ <;> simp
        · refine ⟨.live client place .called, by simp [Out.uses, lives, hd, hd'], w', ?_⟩
          refine hback _ _ ?_ ?_ ?_ ?_ <;> simp
      · have hd' : timer = d := by
          by_contra hno
          exact hneither ⟨hd, hno⟩
        obtain rfl := hpopped hd'
        have hnot : tie ≠ .expiring := by
          intro htie
          have hcalls := (halive.stopped client').mpr ⟨rfl, htie⟩
          exact hd ((hstopped client').mp hcalls).2
        refine ⟨.live client' .out tie, by simp [Out.uses, lives, hd, hd'], w', ?_⟩
        refine hback _ _ ?_ ?_ Iff.rfl hnot <;> simp

/-- Every step continues the life of every delegate. -/
theorem Located.step (h : Located d s v) (hsorted : Sorted s) (hmove : Move s l s' out) :
    Follows d v out s' := by
  cases hmove with
  | ticks now hnow =>
    exact Located.quiet (h.stay_heap rfl rfl (fun _ => rfl) rfl rfl (fun hc => hc) rfl)
  | running | notRunning => exact h.quiet
  | starts client timeOutInMs w hclient timer htimer =>
    exact h.starts hclient (by rw [htimer])
  | stops client timer w hclient hlinks => exact h.stops hclient hlinks
  | wakes ws hpoll hready =>
    exact Located.quiet (h.stay_heap rfl rfl (fun _ => rfl) rfl rfl (fun hc => hc) rfl)
  | disarms w rest hpoll =>
    exact Located.quiet (h.stay_heap rfl rfl (mTree_write rfl) rfl rfl (fun hc => hc) rfl)
  | removesPoll w rest hpoll =>
    exact Located.quiet (h.stay_heap rfl rfl (mTree_write rfl) rfl rfl (fun hc => hc) rfl)
  | sends w rest hpoll =>
    refine Located.quiet (h.stay_heap rfl ?_ (fun _ => rfl) rfl rfl (fun hc => hc) rfl)
    simp [LocMsg.about]
  | pushes w timer rest htask hq => exact h.pushes htask hq
  | removes w timer rest htask hq => exact h.removes hsorted htask hq
  | expiresNone w rest htask hq htop =>
    exact Located.quiet
      (h.stay_heap rfl (filter_of_not_about hq rfl) (fun _ => rfl) rfl rfl (fun hc => hc) rfl)
  | popsFirst w timer rest htask hq htop =>
    have hrest : Located d { s with mQ := rest } v :=
      h.stay_heap rfl (filter_of_not_about hq rfl) (fun _ => rfl) rfl rfl (fun hc => hc) rfl
    refine hrest.pops hsorted ?_ htop
    rw [htask]
    rfl
  | reads w now timer client container htask hlinks =>
    refine Located.quiet (h.stay_heap rfl rfl (fun _ => rfl) rfl rfl (fun hc => ?_) ?_)
    · rw [htask]
      exact hc
    · rw [htask]
      rfl
  | skips w now timer container htask hlinks =>
    refine Located.quiet (h.stay_heap rfl rfl (fun _ => rfl) rfl rfl (fun hc => ?_) ?_)
    · cases hc
    · rw [htask]
      rfl
  | misses w now timer client htask hclient =>
    refine Located.quiet (h.stay_heap rfl rfl (fun _ => rfl) rfl rfl (fun hc => ?_) ?_)
    · cases hc
    · rw [htask]
      rfl
  | detaches w now timer client stopped w' htask hclient hlinks =>
    exact h.detaches htask hclient hlinks
  | calls w now timer client stopped htask => exact h.calls htask
  | popsNext w now timer htask htop hdue =>
    refine h.pops hsorted ?_ htop
    rw [htask]
    rfl
  | finishes w now htask hlater =>
    refine Located.quiet (h.stay_heap rfl rfl (mTree_write ?_) rfl rfl (fun hc => ?_) ?_)
    · exact LocTimerContainer.mTree_updateSoonestTime ..
    · cases hc
    · rw [htask]
      rfl

/-- A container with a consistent heap takes the place of another. -/
theorem Sorted.write (h : Sorted s) {c : LocTimerContainer}
    (hc : c.mTree.checkNodes ranking = true) : Sorted (s.write w c) := by
  intro w'
  by_cases hw : w' = w
  · subst hw
    simpa [Sys.write] using hc
  · simpa [Sys.write, hw] using h w'

/-- The heaps stay consistent. -/
theorem Sorted.step (h : Sorted s) (hmove : Move s l s' out) : Sorted s' := by
  cases hmove with
  | ticks | running | starts | notRunning | stops | wakes | sends | expiresNone | reads | skips
    | misses | detaches | calls => exact h
  | disarms w rest hpoll => exact h.write (h w)
  | removesPoll w rest hpoll => exact h.write (h w)
  | pushes w timer rest htask hq =>
    refine Sorted.write (s := { s with mQ := rest }) h ?_
    rw [LocTimerContainer.mTree_procPush]
    exact LocHeapNode.checkNodes_push (h w) timer
  | removes w timer rest htask hq =>
    refine Sorted.write
      (s := { s with mQ := rest, delegates := Function.update s.delegates timer none }) h ?_
    rw [LocTimerContainer.mTree_procRemove]
    rcases LocHeapNode.remove_spec (h w) timer with ⟨-, -, -, hcheck, -⟩ | ⟨-, heq⟩
    · exact hcheck
    · rw [heq]
      exact h w
  | popsFirst w timer rest htask hq htop =>
    exact Sorted.write (s := { s with mQ := rest }) h (LocHeapNode.pop_spec (h w) htop).2.2.1
  | popsNext w now timer htask htop hdue =>
    exact h.write (LocHeapNode.pop_spec (h w) htop).2.2.1
  | finishes w now htask hlater =>
    apply h.write
    rw [LocTimerContainer.mTree_updateSoonestTime]
    exact h w

/-! ## Whole runs -/

/-- What holds of all delegates after a run. -/
structure Timers (h : List (Event Sys Label Out)) (s : Sys) : Prop where
  /-- the heaps are consistent -/
  sorted : Sorted s
  /-- every delegate has had a life so far, and is where it should be -/
  life : ∀ d, ∃ v, lives.read .fresh (trace (uses d) h) = some v ∧ Located d s v

variable {h : List (Event Sys Label Out)}

/-- Clients and expiries know only delegates that know them. -/
theorem Timers.linked (ht : Timers h s) : Linked s where
  client client timer hclient := by
    obtain ⟨v, -, hloc⟩ := ht.life timer
    cases v with
    | fresh => exact absurd hclient (Absent.mTimer hloc client)
    | gone => exact absurd hclient (hloc.2.mTimer client)
    | live client' place tie =>
      obtain ⟨w, halive⟩ := hloc
      obtain ⟨rfl, rfl⟩ := (halive.mTimer client).mp hclient
      exact ⟨w, by rw [halive.delegates, if_pos rfl]⟩
  popped w now timer htask := by
    obtain ⟨v, -, hloc⟩ := ht.life timer
    have hhand : s.task.hand = some timer := by rw [htask]; rfl
    cases v with
    | fresh => exact absurd hhand (Absent.hand hloc)
    | gone => exact absurd hhand hloc.2.hand
    | live client' place tie =>
      obtain ⟨w, halive⟩ := hloc
      rw [halive.delegates]
      exact Option.some_ne_none _

theorem sorted_start : Sorted {} := fun _ => rfl

theorem absent_start (d : LocTimerDelegate) : Absent d {} := by
  refine ⟨rfl, fun _ => rfl, rfl, fun c hc => ?_, fun hc => ?_, fun c hc => ?_⟩
  all_goals cases hc

/-- In every run, every delegate has a life. -/
theorem timers_run (hr : Run machine {} h s) : Timers h s := by
  induction hr with
  | nil => exact ⟨sorted_start, fun d => ⟨.fresh, rfl, absent_start d⟩⟩
  | @snoc h s s' l out _ hs ih =>
    have hmove := move_of_step ih.linked hs
    refine ⟨ih.sorted.step hmove, fun d => ?_⟩
    obtain ⟨v, hread, hloc⟩ := ih.life d
    obtain ⟨v', hread', hloc'⟩ := hloc.step ih.sorted hmove
    refine ⟨v', ?_, hloc'⟩
    rw [trace, List.flatMap_append, Observer.read_append, ← trace, hread, List.flatMap_singleton]
    exact hread'

/-- Every event of a run is a move. -/
theorem move_of_run {h₁ h₂ : List (Event Sys Label Out)} {e : Event Sys Label Out}
    (hr : Run machine {} (h₁ ++ e :: h₂) s) : Move e.pre e.label e.post e.out :=
  move_of_step (timers_run hr.event.1).linked hr.event.2.1

end OppoA37.LocTimer
