import OppoA37.Lib.Fifo
import OppoA37.Gps.Utils.ListState

/-!
# `msg_q.c`

A queue between threads: a `linked_list.c` list under a mutex, with a condition variable for
receivers that find it empty. Every section under the mutex is one step. A receiver that waits
may wake at any time, whether it was signalled or not, and then looks at the list again.

`msgQ_run` is what the queue is for: objects come out in the order in which they were accepted,
each of them once, except for the ones that a flush throws out.
-/

namespace OppoA37

open Lts Fifo

universe u

/-- `msq_q_err_type`, as far as these functions return it. -/
inductive MsgQErr where
  /-- `eMSG_Q_SUCCESS` -/
  | success
  /-- `eMSG_Q_FAILURE_GENERAL` -/
  | failureGeneral
  /-- `eMSG_Q_INVALID_PARAMETER` -/
  | invalidParameter
  /-- `eMSG_Q_INVALID_HANDLE` -/
  | invalidHandle
  /-- `eMSG_Q_UNAVAILABLE_RESOURCE` -/
  | unavailableResource
  deriving DecidableEq, Repr

/-- `convert_linked_list_err_type`. -/
def convertLinkedListErrType : LinkedListErr → MsgQErr
  | .success => .success
  | .invalidParameter => .invalidParameter
  | .invalidHandle => .invalidHandle
  | .unavailableResource => .unavailableResource
  | .failureGeneral => .failureGeneral

/-- `msg_q`, and the receivers that wait for its condition variable. -/
structure MsgQ (T D F : Type u) where
  /-- `msg_list` -/
  msgList : ListState D F
  /-- `unblocked` -/
  unblocked : Bool
  /-- the threads in `pthread_cond_wait` -/
  waiting : T → Bool

/-- What a call answers, and what it does with objects. -/
structure MsgQResult (T D F : Type u) where
  /-- the thread of the call -/
  thread : T
  /-- the value returned -/
  err : MsgQErr
  /-- what is stored in `*msg_obj` -/
  msgObj : Option D
  /-- the calls of dealloc functions, in order -/
  deallocs : List (F × D)
  deriving DecidableEq

namespace MsgQ

variable {T D F : Type u}

/-- `msg_q_init`. -/
def msgQInit : MsgQ T D F := ⟨.linkedListInit, false, fun _ => false⟩

/-- `msg_q_snd`, with the list element that `malloc` answers. -/
def msgQSnd (q : MsgQ T D F) (t : T) (msgObj : Option D) (dealloc : Option F)
    (elem : Option ℕ) : Option (MsgQ T D F × List (MsgQResult T D F)) :=
  if msgObj = none then some (q, [⟨t, .invalidParameter, none, []⟩])
  else if q.unblocked then some (q, [⟨t, .unavailableResource, none, []⟩])
  else do
    let (l, r) ← q.msgList.linkedListAdd msgObj dealloc elem
    some ({ q with msgList := l }, [⟨t, convertLinkedListErrType r.err, none, r.deallocs⟩])

variable [DecidableEq T]

/-- `msg_q_rcv` from its loop on, with the mutex held: wait, or remove an object. -/
def rcvLoop (q : MsgQ T D F) (t : T) : Option (MsgQ T D F × List (MsgQResult T D F)) :=
  if q.msgList.linkedListEmpty && !q.unblocked then
    some ({ q with waiting := Function.update q.waiting t true }, [])
  else do
    let (l, r) ← q.msgList.linkedListRemove true
    some ({ q with msgList := l, waiting := Function.update q.waiting t false },
      [⟨t, convertLinkedListErrType r.err, r.dataObj.bind id, r.deallocs⟩])

/-- `msg_q_rcv` up to its first wait; the flag says whether `msg_obj` is given. -/
def msgQRcv (q : MsgQ T D F) (t : T) (msgObj : Bool) :
    Option (MsgQ T D F × List (MsgQResult T D F)) :=
  if !msgObj then some (q, [⟨t, .invalidParameter, none, []⟩])
  else if q.unblocked then some (q, [⟨t, .unavailableResource, none, []⟩])
  else q.rcvLoop t

/-- `msg_q_flush`. -/
def msgQFlush (q : MsgQ T D F) (t : T) : Option (MsgQ T D F × List (MsgQResult T D F)) := do
  let (l, r) ← q.msgList.linkedListFlush
  some ({ q with msgList := l }, [⟨t, convertLinkedListErrType r.err, none, r.deallocs⟩])

/-- `msg_q_unblock`. -/
def msgQUnblock (q : MsgQ T D F) (t : T) : MsgQ T D F × List (MsgQResult T D F) :=
  if q.unblocked then (q, [⟨t, .unavailableResource, none, []⟩])
  else ({ q with unblocked := true }, [⟨t, .success, none, []⟩])

/-- A step of a thread: a call, or the end of a wait. -/
inductive Step (T D F : Type u) where
  /-- `msg_q_snd` -/
  | snd (t : T) (msgObj : Option D) (dealloc : Option F) (elem : Option ℕ)
  /-- `msg_q_rcv` -/
  | rcv (t : T) (msgObj : Bool)
  /-- `pthread_cond_wait` returns -/
  | wake (t : T)
  /-- `msg_q_flush` -/
  | flush (t : T)
  /-- `msg_q_unblock` -/
  | unblock (t : T)

/-- The thread of a step. -/
def Step.thread : Step T D F → T
  | .snd t .. => t
  | .rcv t _ => t
  | .wake t => t
  | .flush t => t
  | .unblock t => t

/-- A thread that waits can only wake, and a thread that does not wait can make a call, in which
`malloc` answers a free address. -/
def Enabled (q : MsgQ T D F) : Step T D F → Prop
  | .wake t => q.waiting t = true
  | .snd t msgObj dealloc elem => q.waiting t = false ∧
    (ListState.Call.add msgObj dealloc elem).Fresh q.msgList
  | l => q.waiting l.thread = false

instance (q : MsgQ T D F) (l : Step T D F) : Decidable (q.Enabled l) :=
  match l with
  | .wake t => inferInstanceAs (Decidable (q.waiting t = true))
  | .snd t msgObj dealloc elem => inferInstanceAs (Decidable (q.waiting t = false ∧
    (ListState.Call.add msgObj dealloc elem).Fresh q.msgList))
  | .rcv t _ => inferInstanceAs (Decidable (q.waiting t = false))
  | .flush t => inferInstanceAs (Decidable (q.waiting t = false))
  | .unblock t => inferInstanceAs (Decidable (q.waiting t = false))

/-- What a thread does in a step. -/
def perform (q : MsgQ T D F) : Step T D F → Option (MsgQ T D F × List (MsgQResult T D F))
  | .snd t msgObj dealloc elem => q.msgQSnd t msgObj dealloc elem
  | .rcv t msgObj => q.msgQRcv t msgObj
  | .wake t => q.rcvLoop t
  | .flush t => q.msgQFlush t
  | .unblock t => some (q.msgQUnblock t)

/-- Any number of threads on one queue. -/
def machine (T D F : Type u) [DecidableEq T] :
    Machine (MsgQ T D F) (Step T D F) (MsgQResult T D F) where
  step q l := if q.Enabled l then q.perform l else none

/-! ## The queue -/

/-- The objects in the queue, oldest first. -/
def queue (q : MsgQ T D F) : List (ListState.Item D F) := q.msgList.items.reverse

/-- The objects that a step accepts into the queue. -/
def accepted (e : Event (MsgQ T D F) (Step T D F) (MsgQResult T D F)) :
    List (ListState.Item D F) :=
  match e.label with
  | .snd _ (some d) dealloc _ => if e.out.any (·.err = .success) then [(d, dealloc)] else []
  | _ => []

/-- The objects that a step returns, with the receiver. -/
def returned (e : Event (MsgQ T D F) (Step T D F) (MsgQResult T D F)) : List (T × D) :=
  e.out.filterMap fun r => r.msgObj.map (r.thread, ·)

/-- The objects that a step flushes, oldest first. -/
def flushed (e : Event (MsgQ T D F) (Step T D F) (MsgQResult T D F)) :
    List (ListState.Item D F) :=
  match e.label with
  | .flush _ => e.pre.queue
  | _ => []

/-- The calls of dealloc functions in a step. -/
def deallocs (e : Event (MsgQ T D F) (Step T D F) (MsgQResult T D F)) : List (F × D) :=
  e.out.flatMap (·.deallocs)

variable {q q' : MsgQ T D F} {l : List ℕ} {t : T}

omit [DecidableEq T] in
/-- An empty list is an empty queue. -/
theorem linkedListEmpty_iff (h : q.msgList.Cells l) :
    q.msgList.linkedListEmpty = true ↔ q.queue = [] := by
  rw [queue, List.reverse_eq_nil_iff, h.items_eq_nil, ListState.linkedListEmpty, h.head,
    Option.isNone_iff_eq_none, List.head?_eq_none_iff]

omit [DecidableEq T] in
/-- A sender adds its object, or the queue stays as it is. -/
theorem msgQSnd_spec (h : q.msgList.Cells l) (t : T) (msgObj : Option D) (dealloc : Option F)
    (elem : Option ℕ) (hfresh : (ListState.Call.add msgObj dealloc elem).Fresh q.msgList) :
    ∃ ml l' err, ml.Cells l' ∧ q.msgQSnd t msgObj dealloc elem =
        some ({ q with msgList := ml }, [⟨t, err, none, []⟩]) ∧
      ((err ≠ .success ∧ ml.items = q.msgList.items) ∨
        ∃ d, msgObj = some d ∧ q.unblocked = false ∧ err = .success ∧
          ml.items = (d, dealloc) :: q.msgList.items) := by
  cases msgObj with
  | none => exact ⟨q.msgList, l, _, h, rfl, .inl ⟨by decide, rfl⟩⟩
  | some d =>
    by_cases hu : q.unblocked = true
    · refine ⟨q.msgList, l, .unavailableResource, h, ?_, .inl ⟨by decide, rfl⟩⟩
      rw [msgQSnd, if_neg (Option.some_ne_none d), if_pos hu]
    · rw [Bool.not_eq_true] at hu
      cases elem with
      | none =>
        refine ⟨q.msgList, l, .failureGeneral, h, ?_, .inl ⟨by decide, rfl⟩⟩
        simp [msgQSnd, hu, ListState.linkedListAdd, convertLinkedListErrType]
      | some a =>
        obtain ⟨ml, hml, hcells, hitems⟩ := h.add hfresh d dealloc
        refine ⟨ml, _, .success, hcells, ?_, .inr ⟨d, rfl, hu, rfl, hitems⟩⟩
        simp [msgQSnd, hu, hml, convertLinkedListErrType]

/-- What a receiver does once it holds the mutex: it waits, or leaves with nothing, or takes the
oldest object. -/
theorem rcvLoop_spec (h : q.msgList.Cells l) (t : T) :
    (q.queue = [] ∧ q.unblocked = false ∧
      q.rcvLoop t = some ({ q with waiting := Function.update q.waiting t true }, [])) ∨
    ∃ ml l' err obj, ml.Cells l' ∧
      q.rcvLoop t =
        some (⟨ml, q.unblocked, Function.update q.waiting t false⟩, [⟨t, err, obj, []⟩]) ∧
      ((q.queue = [] ∧ ml.items = [] ∧ obj = none) ∨
        ∃ x, q.queue = x :: ml.items.reverse ∧ obj = some x.1) := by
  by_cases hwait : (q.msgList.linkedListEmpty && !q.unblocked) = true
  · rw [Bool.and_eq_true, linkedListEmpty_iff h, Bool.not_eq_true'] at hwait
    refine .inl ⟨hwait.1, hwait.2, if_pos ?_⟩
    rw [(linkedListEmpty_iff h).mpr hwait.1, hwait.2]
    rfl
  · obtain ⟨ml, l', r, hremove, hcells, hspec⟩ := h.remove_spec
    have hloop : q.rcvLoop t = some (⟨ml, q.unblocked, Function.update q.waiting t false⟩,
        [⟨t, convertLinkedListErrType r.err, r.dataObj.bind id, r.deallocs⟩]) := by
      rw [rcvLoop, if_neg hwait, hremove]
      rfl
    rw [hloop]
    rw [ListState.spec] at hspec
    rcases List.eq_nil_or_concat q.msgList.items with hnil | ⟨items, x, hitems⟩
    · simp only [hnil, List.getLast?_nil] at hspec
      obtain ⟨hml, rfl⟩ := Prod.mk.inj hspec
      exact .inr ⟨ml, l', _, none, hcells, rfl, .inl ⟨by simp [queue, hnil], hml, rfl⟩⟩
    · simp only [hitems, List.concat_eq_append, List.getLast?_concat, List.dropLast_concat] at hspec
      obtain ⟨hml, rfl⟩ := Prod.mk.inj hspec
      exact .inr ⟨ml, l', _, _, hcells, rfl, .inr ⟨x, by simp [queue, hitems, hml], rfl⟩⟩

/-- A step is what its thread does. -/
theorem step_inv {l : Step T D F} {r : MsgQ T D F × List (MsgQResult T D F)}
    (hs : (machine T D F).step q l = some r) : q.Enabled l ∧ q.perform l = some r :=
  Option.ite_none_right_eq_some.mp hs

/-- What a step does to the queue. -/
def Serves (e : Event (MsgQ T D F) (Step T D F) (MsgQResult T D F)) : Prop :=
  (∃ taken : List (T × ListState.Item D F),
    Fates (e.pre.queue ++ accepted e) e.post.queue taken (flushed e) ∧
    returned e = taken.map fun p => (p.1, p.2.1)) ∧
  (deallocs e).Perm ((flushed e).flatMap ListState.release)

omit [DecidableEq T] in
/-- A step that neither adds nor takes an object. -/
theorem serves_stay {e : Event (MsgQ T D F) (Step T D F) (MsgQResult T D F)}
    (hqueue : e.post.queue = e.pre.queue) (ha : accepted e = []) (hr : returned e = [])
    (hf : flushed e = []) (hd : deallocs e = []) : Serves e := by
  rw [Serves, hqueue, ha, hr, hf, hd, List.append_nil]
  exact ⟨⟨[], fates_stay _, rfl⟩, List.Perm.nil⟩

/-- The end of `msg_q_rcv`, for a call and for a receiver that wakes. -/
theorem serves_rcvLoop {e : Event (MsgQ T D F) (Step T D F) (MsgQResult T D F)}
    (h : ∃ l, e.pre.msgList.Cells l) (t : T) (hs : e.pre.rcvLoop t = some (e.post, e.out))
    (ha : accepted e = []) (hf : flushed e = []) :
    (∃ l, e.post.msgList.Cells l) ∧ Serves e := by
  obtain ⟨l, hl⟩ := h
  obtain ⟨-, -, hloop⟩ | ⟨ml, l', err, obj, hml, hloop, hobj⟩ := rcvLoop_spec hl t
  · rw [hs] at hloop
    obtain ⟨hpost, hout⟩ := Prod.mk.inj (Option.some.inj hloop)
    refine ⟨⟨l, hpost ▸ hl⟩, serves_stay ?_ ha ?_ hf ?_⟩
    · rw [hpost]
      rfl
    · simp [returned, hout]
    · simp [deallocs, hout]
  · rw [hs] at hloop
    obtain ⟨hpost, hout⟩ := Prod.mk.inj (Option.some.inj hloop)
    have hqueue : e.post.queue = ml.items.reverse := by
      rw [hpost]
      rfl
    have hd : deallocs e = [] := by simp [deallocs, hout]
    refine ⟨⟨l', hpost ▸ hml⟩, ?_⟩
    obtain ⟨hnil, hitems, rfl⟩ | ⟨x, hcons, rfl⟩ := hobj
    · refine serves_stay ?_ ha ?_ hf hd
      · rw [hqueue, hnil, hitems]
        rfl
      · simp [returned, hout]
    · rw [Serves, hqueue, hcons, ha, hf, hd, List.append_nil]
      exact ⟨⟨_, fates_take t x _, by simp [returned, hout]⟩, List.Perm.nil⟩

theorem step_serves {e : Event (MsgQ T D F) (Step T D F) (MsgQResult T D F)}
    (h : ∃ l, e.pre.msgList.Cells l)
    (hs : (machine T D F).step e.pre e.label = some (e.post, e.out)) :
    (∃ l, e.post.msgList.Cells l) ∧ Serves e := by
  obtain ⟨hen, hs⟩ := step_inv hs
  obtain ⟨q, label, out, q'⟩ := e
  dsimp only at h hen hs ⊢
  cases label with
  | snd t msgObj dealloc elem =>
    obtain ⟨l, hl⟩ := h
    obtain ⟨ml, l', err, hml, hsnd, hcase⟩ := msgQSnd_spec hl t msgObj dealloc elem hen.2
    rw [perform, hsnd] at hs
    obtain ⟨rfl, rfl⟩ := Prod.mk.inj (Option.some.inj hs)
    refine ⟨⟨l', hml⟩, ?_⟩
    obtain ⟨herr, hitems⟩ | ⟨d, rfl, -, rfl, hitems⟩ := hcase
    · refine serves_stay ?_ ?_ rfl rfl rfl
      · simp [queue, hitems]
      · cases msgObj <;> simp [accepted, herr]
    · refine ⟨⟨[], ?_, rfl⟩, List.Perm.nil⟩
      have hqueue : queue { q with msgList := ml } = q.queue ++ [(d, dealloc)] := by
        simp [queue, hitems]
      dsimp only
      rw [hqueue]
      exact fates_stay _
  | rcv t msgObj =>
    rw [perform, msgQRcv] at hs
    split at hs
    · obtain ⟨rfl, rfl⟩ := Prod.mk.inj (Option.some.inj hs)
      exact ⟨h, serves_stay rfl rfl rfl rfl rfl⟩
    · split at hs
      · obtain ⟨rfl, rfl⟩ := Prod.mk.inj (Option.some.inj hs)
        exact ⟨h, serves_stay rfl rfl rfl rfl rfl⟩
      · exact serves_rcvLoop (e := ⟨q, .rcv t msgObj, out, q'⟩) h t hs rfl rfl
  | wake t => exact serves_rcvLoop (e := ⟨q, .wake t, out, q'⟩) h t hs rfl rfl
  | flush t =>
    obtain ⟨l, hl⟩ := h
    obtain ⟨ml, hflush, hml⟩ := hl.flush
    simp only [perform, msgQFlush, hflush] at hs
    obtain ⟨rfl, rfl⟩ := Prod.mk.inj (Option.some.inj hs)
    refine ⟨⟨[], hml⟩, ⟨[], ?_, rfl⟩, ?_⟩
    · have hqueue : queue { q with msgList := ml } = [] := by
        rw [queue, hml.items_eq_nil.mpr rfl]
        rfl
      dsimp only
      rw [hqueue]
      simpa [accepted, flushed] using fates_drop q.queue
    · simp only [deallocs, flushed, queue, List.flatMap_singleton]
      exact (List.reverse_perm _).symm.flatMap_right _
  | unblock t =>
    rw [perform, msgQUnblock] at hs
    split at hs
    · obtain ⟨rfl, rfl⟩ := Prod.mk.inj (Option.some.inj hs)
      exact ⟨h, serves_stay rfl rfl rfl rfl rfl⟩
    · obtain ⟨rfl, rfl⟩ := Prod.mk.inj (Option.some.inj hs)
      exact ⟨h, serves_stay rfl rfl rfl rfl rfl⟩

/-- Once the queue is unblocked, nothing is accepted any more, and only a receiver that was
waiting before can still get an object. -/
theorem step_unblocked {e : Event (MsgQ T D F) (Step T D F) (MsgQResult T D F)}
    (h : ∃ l, e.pre.msgList.Cells l) (hu : e.pre.unblocked = true)
    (hs : (machine T D F).step e.pre e.label = some (e.post, e.out)) :
    e.post.unblocked = true ∧ accepted e = [] ∧
    (∀ t d, (t, d) ∈ returned e → e.label = .wake t) ∧
    ∀ t, e.post.waiting t = true → e.pre.waiting t = true ∧ e.label.thread ≠ t := by
  obtain ⟨hen, hs⟩ := step_inv hs
  obtain ⟨q, label, out, q'⟩ := e
  dsimp only at h hu hen hs ⊢
  -- a thread that makes a call was not waiting
  have hcall : q.waiting label.thread = false → q'.waiting = q.waiting →
      ∀ t, q'.waiting t = true → q.waiting t = true ∧ label.thread ≠ t := by
    rintro hidle hsame t ht
    rw [hsame] at ht
    refine ⟨ht, ?_⟩
    rintro rfl
    rw [hidle] at ht
    cases ht
  cases label with
  | snd t msgObj dealloc elem =>
    obtain ⟨l, hl⟩ := h
    obtain ⟨ml, l', err, hml, hsnd, hcase⟩ := msgQSnd_spec hl t msgObj dealloc elem hen.2
    rw [perform, hsnd] at hs
    obtain ⟨rfl, rfl⟩ := Prod.mk.inj (Option.some.inj hs)
    refine ⟨hu, ?_, by simp [returned], hcall hen.1 rfl⟩
    obtain ⟨herr, -⟩ | ⟨d, -, hu', -⟩ := hcase
    · cases msgObj <;> simp [accepted, herr]
    · rw [hu] at hu'
      cases hu'
  | rcv t msgObj =>
    rw [perform, msgQRcv, hu] at hs
    split at hs
    all_goals
      obtain ⟨rfl, rfl⟩ := Prod.mk.inj (Option.some.inj hs)
      exact ⟨hu, rfl, by simp [returned], hcall hen rfl⟩
  | wake t =>
    obtain ⟨l, hl⟩ := h
    rw [perform] at hs
    obtain ⟨-, hu', -⟩ | ⟨ml, l', err, obj, -, hloop, -⟩ := rcvLoop_spec hl t
    · rw [hu] at hu'
      cases hu'
    · rw [hs] at hloop
      obtain ⟨rfl, rfl⟩ := Prod.mk.inj (Option.some.inj hloop)
      refine ⟨hu, rfl, ?_, ?_⟩
      · intro t' d hmem
        simp only [returned, List.filterMap_cons, List.filterMap_nil] at hmem
        cases obj with
        | none => simp at hmem
        | some x =>
          obtain ⟨rfl, -⟩ := Prod.mk.inj (List.mem_singleton.mp hmem)
          rfl
      · intro t' ht'
        dsimp only at ht'
        by_cases heq : t' = t
        · subst heq
          simp at ht'
        · rw [Function.update_of_ne heq] at ht'
          exact ⟨ht', Ne.symm heq⟩
  | flush t =>
    obtain ⟨l, hl⟩ := h
    obtain ⟨ml, hflush, hml⟩ := hl.flush
    simp only [perform, msgQFlush, hflush] at hs
    obtain ⟨rfl, rfl⟩ := Prod.mk.inj (Option.some.inj hs)
    exact ⟨hu, rfl, by simp [returned], hcall hen rfl⟩
  | unblock t =>
    rw [perform, msgQUnblock, if_pos hu] at hs
    obtain ⟨rfl, rfl⟩ := Prod.mk.inj (Option.some.inj hs)
    exact ⟨hu, rfl, by simp [returned], hcall hen rfl⟩

/-- In a run from an unblocked queue nothing is accepted, and a receiver that gets an object has
waited since the start. -/
theorem run_unblocked {h : List (Event (MsgQ T D F) (Step T D F) (MsgQResult T D F))}
    (hr : Run (machine T D F) q h q') (hcells : ∃ l, q.msgList.Cells l)
    (hu : q.unblocked = true) :
    (∃ l, q'.msgList.Cells l) ∧ q'.unblocked = true ∧ (∀ e ∈ h, accepted e = []) ∧
    ∀ t, q'.waiting t = true → q.waiting t = true ∧ ∀ e ∈ h, e.label.thread ≠ t := by
  induction hr with
  | nil => exact ⟨hcells, hu, by simp, fun t ht => ⟨ht, by simp⟩⟩
  | @snoc h s s' label out _ hs ih =>
    obtain ⟨hcells, hu, haccepted, hwaiting⟩ := ih
    obtain ⟨hu', ha, -, hw⟩ := step_unblocked (e := ⟨s, label, out, s'⟩) hcells hu hs
    refine ⟨(step_serves (e := ⟨s, label, out, s'⟩) hcells hs).1, hu', ?_, ?_⟩
    · simp only [List.forall_mem_append, List.forall_mem_singleton]
      exact ⟨haccepted, ha⟩
    · intro t ht
      obtain ⟨ht, hne⟩ := hw t ht
      obtain ⟨hstart, hall⟩ := hwaiting t ht
      simp only [List.forall_mem_append, List.forall_mem_singleton]
      exact ⟨hstart, hall, hne⟩

/-- After these events nothing is accepted, and a receiver gets an object only from a wait that
it was in before them, and has not left since. -/
def Quiet (h : List (Event (MsgQ T D F) (Step T D F) (MsgQResult T D F))) : Prop :=
  (∀ e ∈ h, accepted e = []) ∧
  ∀ h₁ e h₂, h = h₁ ++ e :: h₂ → ∀ t d, (t, d) ∈ returned e →
    e.label = .wake t ∧ ∀ e' ∈ h₁, e'.label.thread ≠ t

/-- Every reachable list is consistent. -/
theorem cells_run {h : List (Event (MsgQ T D F) (Step T D F) (MsgQResult T D F))}
    (hr : Run (machine T D F) msgQInit h q) : ∃ l, q.msgList.Cells l := by
  refine Run.invariant_of (fun q : MsgQ T D F => ∃ l, q.msgList.Cells l) (fun _ _ => True)
    ⟨[], ListState.cells_init⟩ ?_ hr fun _ _ => trivial
  intro q l q' out hq _ hs
  exact (step_serves (e := ⟨q, l, out, q'⟩) hq hs).1

/-- No enabled step fails. -/
theorem exists_step (h : ∃ l, q.msgList.Cells l) {l : Step T D F} (hen : q.Enabled l) :
    ∃ r, (machine T D F).step q l = some r := by
  obtain ⟨cells, hl⟩ := h
  have hloop : ∀ t, ∃ r, q.rcvLoop t = some r := by
    intro t
    obtain ⟨-, -, hloop⟩ | ⟨ml, l', err, obj, -, hloop, -⟩ := rcvLoop_spec hl t
    · exact ⟨_, hloop⟩
    · exact ⟨_, hloop⟩
  have hstep : (machine T D F).step q l = q.perform l := if_pos hen
  rw [hstep]
  cases l with
  | snd t msgObj dealloc elem =>
    obtain ⟨ml, l', err, -, hsnd, -⟩ := msgQSnd_spec hl t msgObj dealloc elem hen.2
    exact ⟨_, hsnd⟩
  | rcv t msgObj =>
    rw [perform, msgQRcv]
    split
    · exact ⟨_, rfl⟩
    · split
      · exact ⟨_, rfl⟩
      · exact hloop t
  | wake t => exact hloop t
  | flush t =>
    obtain ⟨ml, hflush, -⟩ := hl.flush
    exact ⟨_, by simp only [perform, msgQFlush, hflush]; rfl⟩
  | unblock t => exact ⟨_, rfl⟩

/-- After an unblock the queue is quiet. -/
theorem quiet_of_unblock {h : List (Event (MsgQ T D F) (Step T D F) (MsgQResult T D F))}
    {e : Event (MsgQ T D F) (Step T D F) (MsgQResult T D F)} (hcells : ∃ l, e.pre.msgList.Cells l)
    (hs : (machine T D F).step e.pre e.label = some (e.post, e.out))
    (hl : e.label = .unblock t) (hr : Run (machine T D F) e.post h q) : Quiet h := by
  have hu : e.post.unblocked = true := by
    obtain ⟨-, hperform⟩ := step_inv hs
    rw [hl, perform, msgQUnblock] at hperform
    split at hperform
    · next hu =>
      obtain ⟨hpost, -⟩ := Prod.mk.inj (Option.some.inj hperform)
      rwa [← hpost]
    · obtain ⟨hpost, -⟩ := Prod.mk.inj (Option.some.inj hperform)
      rw [← hpost]
  have hcells' := (step_serves hcells hs).1
  refine ⟨(run_unblocked hr hcells' hu).2.2.1, ?_⟩
  rintro h₁ e' h₂ rfl t' d hmem
  obtain ⟨hr₁, hs', -⟩ := hr.event
  obtain ⟨hcells₁, hu₁, -, hwaiting⟩ := run_unblocked hr₁ hcells' hu
  have hlabel := (step_unblocked hcells₁ hu₁ hs').2.2.1 t' d hmem
  refine ⟨hlabel, (hwaiting t' ?_).2⟩
  have hen := (step_inv hs').1
  rw [hlabel] at hen
  exact hen

/-- **A queue between threads.** In every run: the receivers get the objects that were accepted,
in that order, each once, except for the ones that were flushed; the dealloc functions of the
flushed objects are called, once each, and no others; after an unblock the queue is quiet; and
no step ever fails. -/
theorem msgQ_run {h : List (Event (MsgQ T D F) (Step T D F) (MsgQResult T D F))}
    (hr : Run (machine T D F) msgQInit h q) :
    (∃ taken : List (T × ListState.Item D F),
      Fates (h.flatMap accepted) q.queue taken (h.flatMap flushed) ∧
      h.flatMap returned = taken.map fun p => (p.1, p.2.1)) ∧
    (h.flatMap deallocs).Perm ((h.flatMap flushed).flatMap ListState.release) ∧
    (∀ h₁ e h₂ t, h = h₁ ++ e :: h₂ → e.label = .unblock t → Quiet h₂) ∧
    ∀ l, q.Enabled l → ∃ r, (machine T D F).step q l = some r := by
  have hfates : (∃ taken : List (T × ListState.Item D F),
      Fates (h.flatMap accepted) q.queue taken (h.flatMap flushed) ∧
      h.flatMap returned = taken.map fun p => (p.1, p.2.1)) ∧
      (h.flatMap deallocs).Perm ((h.flatMap flushed).flatMap ListState.release) := by
    induction hr with
    | nil => exact ⟨⟨[], fates_stay _, rfl⟩, List.Perm.nil⟩
    | @snoc h s s' l out hr hs ih =>
      obtain ⟨⟨taken, hfates, hreturned⟩, hdeallocs⟩ := ih
      obtain ⟨-, ⟨taken', hfates', hreturned'⟩, hdeallocs'⟩ :=
        step_serves (e := ⟨s, l, out, s'⟩) (cells_run hr) hs
      simp only [List.flatMap_append, List.flatMap_singleton]
      refine ⟨⟨taken ++ taken', hfates.trans hfates', ?_⟩, hdeallocs.append hdeallocs'⟩
      rw [hreturned, hreturned', List.map_append]
  refine ⟨hfates.1, hfates.2, ?_, fun l => exists_step (cells_run hr)⟩
  rintro h₁ e h₂ t rfl hl
  obtain ⟨hr₁, hs, hr₂⟩ := hr.event
  exact quiet_of_unblock (cells_run hr₁) hs hl hr₂

/-- Objects 1, 2 and 3: the first is received, the others are flushed, and 2 has no dealloc
function. -/
theorem msgQ_run_numbers :
    ∃ h q, Run (machine ℕ ℕ ℕ) msgQInit h q ∧ h.flatMap returned = [(0, 1)] ∧
      h.flatMap flushed = [(2, none), (3, some 7)] ∧
      (h.flatMap deallocs).Perm ((h.flatMap flushed).flatMap ListState.release) := by
  obtain ⟨h, q, hr, -, hcheck⟩ := (machine ℕ ℕ ℕ).exists_run msgQInit
    [.rcv 0 true, .snd 1 (some 1) (some 7) (some 0), .snd 1 (some 2) none (some 1), .wake 0,
      .snd 1 (some 3) (some 7) (some 0), .flush 1]
    (fun h _ => decide (h.flatMap returned = [(0, 1)] ∧
      h.flatMap flushed = [(2, none), (3, some 7)])) (by decide)
  obtain ⟨hreturned, hflushed⟩ := of_decide_eq_true hcheck
  exact ⟨h, q, hr, hreturned, hflushed, (msgQ_run hr).2.1⟩

/-- A receiver waits, an object is accepted, the queue is unblocked, and only then the receiver
gets the mutex: it returns the object. -/
theorem returned_after_unblock :
    ¬ ∀ (h : List (Event (MsgQ ℕ ℕ ℕ) (Step ℕ ℕ ℕ) (MsgQResult ℕ ℕ ℕ))) (q : MsgQ ℕ ℕ ℕ),
      Run (machine ℕ ℕ ℕ) msgQInit h q → ∀ h₁ e h₂ t, h = h₁ ++ e :: h₂ →
        e.label = .unblock t → ∀ e' ∈ h₂, returned e' = [] := by
  intro hall
  obtain ⟨h, e, hr, hl, -, hcheck⟩ := (machine ℕ ℕ ℕ).exists_run_last msgQInit
    ([.rcv 0 true, .snd 1 (some 1) none (some 0)] ++ [.unblock 1]) (.wake 0)
    (fun _ e => decide (returned e = [(0, 1)])) (by decide)
  obtain ⟨h₁, h₂, rfl, -, hl₂⟩ := List.map_eq_append_iff.mp hl
  obtain ⟨u, rfl, hu⟩ := List.map_eq_singleton_iff.mp hl₂
  have hnone := hall _ _ hr h₁ u [e] 1 (by simp) hu e (List.mem_singleton_self e)
  rw [of_decide_eq_true hcheck] at hnone
  cases hnone

end MsgQ

end OppoA37
