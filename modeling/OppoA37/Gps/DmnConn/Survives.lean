import OppoA37.Gps.DmnConn.Server
import OppoA37.Lib.Monitor

/-!
# Does the server thread survive bad messages?

A monitor keeps the calls of handlers that the well-formed messages are due, those that are not
yet read, and the calls that were made. Two things go wrong:

* a message whose size field does not say its length ends the thread, or leaves bytes in the pipe
  that are taken for the next size; the log speaks of a retry that never comes;
* `loc_eng_dmn_conn_loc_api_server_unblock` sets `thread_exit` before it writes its message, so
  that the messages in front of that one are not read any more, but for one.

`server_survives` says that without either all is well: while the messages are `Framed` the
thread is in step with those who write (`Live`), and it ends after it was told to, with every
well-formed message from before handed to its handler, once and in order.
-/

namespace OppoA37.DmnConn

open Lts

/-! ## What is due -/

/-- A message that says its length, has a control type, and fits in the buffer. -/
structure WellFormed (m : Bytes) : Prop where
  /-- `msgsz` -/
  size : msgszOf (m.take SIZEOF_SIZE_T) = m.length
  /-- `ctrl_type` is there -/
  type : CTRL_TYPE_AT < m.length
  /-- it fits -/
  fits : m.length ≤ MSGBUFSZ

instance (m : Bytes) : Decidable (WellFormed m) :=
  decidable_of_iff (msgszOf (m.take SIZEOF_SIZE_T) = m.length ∧ CTRL_TYPE_AT < m.length ∧
      m.length ≤ MSGBUFSZ)
    ⟨fun h => ⟨h.1, h.2.1, h.2.2⟩, fun h => ⟨h.size, h.type, h.fits⟩⟩

/-- The call of a handler that a message is due. -/
def due (m : Bytes) : List Handled :=
  if WellFormed m then dispatch (m.getD CTRL_TYPE_AT 0) m m.length else []

/-- What those who write and the handlers know. -/
structure Traffic where
  /-- the calls that are due for what was written before the thread was told to end -/
  requests : List Handled := []
  /-- the messages of those that the thread has not begun to read -/
  unread : List Bytes := []
  /-- the calls that were made for well-formed messages -/
  handled : List Handled := []

/-- The traffic after one more step. -/
def Traffic.next (v : Traffic) (e : Event Server ServerLabel Handled) : Traffic :=
  match e.label with
  | .write m =>
    if e.pre.unblocked then v
    else { v with requests := v.requests ++ due m, unread := v.unread ++ [m] }
  | .unblockThelper => v
  | .unblockProc _ => v
  | .thread _ _ =>
    { v with
      unread := if e.pre.phase = .size then v.unread.tail else v.unread
      handled := v.handled ++ e.out.filter fun o => WellFormed o.msg }

/-- The messages that a thread which is told to end will not read any more. -/
def late : Phase → List Bytes → List Bytes
  | .call, unread => unread.tail
  | .size, unread => unread.tail
  | _, unread => unread

/-- Until the thread is told to end, messages are framed; when it is, it leaves no message behind
that is due a handler; and there is memory. -/
def Sane (v : Traffic) (e : Event Server ServerLabel Handled) : Prop :=
  match e.label with
  | .write m => e.pre.unblocked = true ∨ Framed m
  | .unblockThelper => e.pre.unblocked = true ∨ ∀ m ∈ late e.pre.phase v.unread, due m = []
  | .unblockProc _ => True
  | .thread alloc _ => alloc = true

instance (v : Traffic) (e : Event Server ServerLabel Handled) : Decidable (Sane v e) := by
  rcases e with ⟨s, l, out, s'⟩
  cases l with
  | write m => exact inferInstanceAs (Decidable (s.unblocked = true ∨ Framed m))
  | unblockThelper =>
    exact inferInstanceAs
      (Decidable (s.unblocked = true ∨ ∀ m ∈ late s.phase v.unread, due m = []))
  | unblockProc m => exact inferInstanceAs (Decidable True)
  | thread alloc garbage => exact inferInstanceAs (Decidable (alloc = true))

/-- Every message from before the end is handed to its handler, once and in order. -/
structure Kept (v : Traffic) (s : Server) : Prop where
  /-- handlers are called in order, and for nothing else -/
  ordered : v.handled <+: v.requests ∨ s.unblocked = true ∧ v.requests <+: v.handled
  /-- when the thread has come to rest, they were all called -/
  rest : s.AtRest → v.requests <+: v.handled
  /-- the thread ends after it was told to -/
  ended : s.phase = .ended → s.unblocked = true

theorem WellFormed.framed {m : Bytes} (h : WellFormed m) : Framed m where
  field := le_of_lt (lt_of_le_of_lt (by decide) h.type)
  fits := h.fits
  size := Or.inl h.size

/-- What the handlers are called for is what the message is due, whatever was in the buffer. -/
theorem filter_dispatch {m : Bytes} (garbage : UInt8) :
    (dispatch (m.getD CTRL_TYPE_AT garbage) m (msgszOf (m.take SIZEOF_SIZE_T))).filter
      (fun o => WellFormed o.msg) = due m := by
  have hmsg : ∀ (t : UInt8) (n : ℤ), ∀ o ∈ dispatch t m n, o.msg = m := by
    intro t n o ho
    rw [dispatch] at ho
    split_ifs at ho
    · rw [List.mem_singleton.mp ho]
      rfl
    · rw [List.mem_singleton.mp ho]
      rfl
    · cases ho
  rw [due]
  split_ifs with hwf
  · rw [hwf.size, List.getD_eq_getElem _ _ hwf.type, List.getD_eq_getElem _ _ hwf.type]
    refine List.filter_eq_self.mpr fun o ho => ?_
    rw [hmsg _ _ o ho]
    exact decide_eq_true hwf
  · refine List.filter_eq_nil_iff.mpr fun o ho => ?_
    rw [hmsg _ _ o ho]
    exact fun hyes => hwf (of_decide_eq_true hyes)

/-! ## In step with those who write -/

/-- The message that the thread is reading at a place. -/
inductive Reads : Phase → List Bytes → Prop where
  | call : Reads .call []
  | size : Reads .size []
  | body (m : Bytes) : Reads (.body (m.take SIZEOF_SIZE_T)) [m]
  | test : Reads .test []

/-- The pipe holds the messages that were not read, from where one of them begins. -/
structure Live (v : Traffic) (s : Server) (current : List Bytes) (later : Bytes) : Prop where
  /-- where the thread is -/
  reads : Reads s.phase current
  /-- the messages are framed -/
  framed : ∀ m ∈ current ++ v.unread, Framed m
  /-- what is in the pipe; `later` was written after the thread was told to end -/
  pipe : s.pipe = (current.map (List.drop SIZEOF_SIZE_T)).flatten ++ (v.unread.flatten ++ later)
  /-- before, there is no such thing -/
  later : s.unblocked = false → later = []
  /-- nothing else has ended the loop -/
  exit : s.threadExit = s.unblocked
  /-- what is due was handled, or will be -/
  requests : v.requests = v.handled ++ (current ++ v.unread).flatMap due
  /-- what is left behind is due nothing -/
  left : s.unblocked = true → ∀ m ∈ late s.phase v.unread, due m = []

/-- All that was due is handled, and the thread was told to end. -/
structure Done (v : Traffic) (s : Server) : Prop where
  /-- it was told -/
  unblocked : s.unblocked = true
  /-- all that was due -/
  handled : v.requests <+: v.handled

/-- The invariant. -/
def Steady (v : Traffic) (s : Server) : Prop := (∃ current later, Live v s current later) ∨ Done v s

theorem steady_init : Steady {} {} := by
  refine Or.inl ⟨[], [], ?_⟩
  constructor
  · exact .call
  all_goals simp [late]

/-- The traffic after a step of the thread. -/
def Traffic.onThread (v : Traffic) (phase : Phase) (out : List Handled) : Traffic where
  requests := v.requests
  unread := if phase = .size then v.unread.tail else v.unread
  handled := v.handled ++ out.filter fun o => WellFormed o.msg

section

variable {v : Traffic} {s s' : Server} {current : List Bytes} {later m : Bytes}
  {out : List Handled} {garbage : UInt8}

namespace Live

/-- A message is written while the thread goes on. -/
theorem write (h : Live v s current later) (hnot : s.unblocked = false) (hm : Framed m) :
    Live { v with requests := v.requests ++ due m, unread := v.unread ++ [m] }
      { s with pipe := s.pipe ++ m } current [] where
  reads := h.reads
  framed := by
    intro m' hm'
    rw [← List.append_assoc] at hm'
    rcases List.mem_append.mp hm' with hold | hnew
    · exact h.framed m' hold
    · rwa [List.mem_singleton.mp hnew]
  pipe := by
    dsimp only
    rw [h.pipe, h.later hnot]
    simp
  later := fun _ => rfl
  exit := h.exit
  requests := by
    dsimp only
    rw [h.requests]
    simp
  left := by
    intro hyes
    exact absurd (hnot.symm.trans hyes) (by decide)

/-- A message is written after the thread was told to end. -/
theorem write_late (h : Live v s current later) (hyes : s.unblocked = true) (m : Bytes) :
    Live v { s with pipe := s.pipe ++ m } current (later ++ m) where
  reads := h.reads
  framed := h.framed
  pipe := by
    dsimp only
    rw [h.pipe]
    simp
  later := by
    intro hnot
    exact absurd (hnot.symm.trans hyes) (by decide)
  exit := h.exit
  requests := h.requests
  left := h.left

/-- The thread is told to end. -/
theorem unblock (h : Live v s current later) (hlate : ∀ m ∈ late s.phase v.unread, due m = []) :
    Live v { s with threadExit := true, unblocked := true } current later where
  reads := h.reads
  framed := h.framed
  pipe := h.pipe
  later := by
    intro hnot
    cases hnot
  exit := rfl
  requests := h.requests
  left := fun _ => hlate

/-- Between two messages, when nothing that is unread is due a handler. -/
theorem requests_eq (h : Live v s [] later) (hnone : ∀ m ∈ v.unread, due m = []) :
    v.requests = v.handled := by
  rw [h.requests, List.nil_append, List.flatMap_eq_nil_iff.mpr hnone, List.append_nil]

/-- The thread begins a turn. -/
theorem call (h : Live v s [] later) (hphase : s.phase = .call) :
    Live v { s with phase := .size } [] later where
  reads := .size
  framed := h.framed
  pipe := h.pipe
  later := h.later
  exit := h.exit
  requests := h.requests
  left := by
    intro hyes
    have hleft := h.left hyes
    rwa [hphase] at hleft

/-- The thread reads the size of the next message. -/
theorem size (h : Live v s [] later) (hphase : s.phase = .size) {unread : List Bytes}
    (hunread : v.unread = m :: unread) :
    msgrcvSize s.pipe MSGBUFSZ = some (m.drop SIZEOF_SIZE_T ++ (unread.flatten ++ later),
        some (m.take SIZEOF_SIZE_T)) ∧
      Live { v with unread := unread } { s with
        pipe := m.drop SIZEOF_SIZE_T ++ (unread.flatten ++ later)
        phase := .body (m.take SIZEOF_SIZE_T) } [m] later := by
  have hm : Framed m := h.framed m (by simp [hunread])
  constructor
  · have hpipe : s.pipe = m ++ (unread.flatten ++ later) := by
      rw [h.pipe, hunread]
      simp
    rw [hpipe]
    exact hm.msgrcvSize_framed _
  · constructor
    · exact .body m
    · simpa [hunread] using h.framed
    · simp
    · exact h.later
    · exact h.exit
    · simpa [hunread] using h.requests
    · intro hyes
      have hleft := h.left hyes
      rwa [hphase, hunread] at hleft

/-- The thread reads the rest of its message, and calls the handler. -/
theorem body (h : Live v s [m] later) (hphase : s.phase = .body (m.take SIZEOF_SIZE_T)) :
    msgrcvBody s.pipe (m.take SIZEOF_SIZE_T) =
        some (v.unread.flatten ++ later, (msgszOf (m.take SIZEOF_SIZE_T) : ℤ), m) ∧
      Live { v with handled := v.handled ++ due m } { s with
        pipe := v.unread.flatten ++ later
        phase := .test } [] later := by
  have hm : Framed m := h.framed m (by simp)
  constructor
  · have hpipe : s.pipe = m.drop SIZEOF_SIZE_T ++ (v.unread.flatten ++ later) := by
      rw [h.pipe]
      simp
    rw [hpipe]
    exact hm.msgrcvBody_framed _
  · constructor
    · exact .test
    · exact fun m' hm' => h.framed m' (List.mem_cons_of_mem _ hm')
    · simp
    · exact h.later
    · exact h.exit
    · simpa using h.requests
    · intro hyes
      have hleft := h.left hyes
      rwa [hphase] at hleft

/-- The thread goes on behind the test. -/
theorem test (h : Live v s [] later) (hnot : s.unblocked = false) :
    Live v { s with phase := .call } [] later where
  reads := .call
  framed := h.framed
  pipe := h.pipe
  later := h.later
  exit := h.exit
  requests := h.requests
  left := by
    intro hyes
    exact absurd (hnot.symm.trans hyes) (by decide)

/-- When nothing is left from before, the thread can only go on because it was told to end. -/
theorem unblocked_of_size (h : Live v s [] later) (hphase : s.phase = .size)
    (hnone : v.unread = []) {alloc : Bool} (hs : s.thread alloc garbage = some (s', out)) :
    s.unblocked = true := by
  by_contra hnot
  have hpipe : s.pipe = [] := by
    rw [h.pipe, hnone, h.later (Bool.not_eq_true _ ▸ hnot)]
    rfl
  rw [Server.thread, hphase, hpipe] at hs
  cases hs

/-- A step of the thread. -/
theorem thread (h : Live v s current later) (hs : s.thread true garbage = some (s', out)) :
    Steady (v.onThread s.phase out) s' := by
  have hreads := h.reads
  rw [Traffic.onThread]
  rcases hphase : s.phase with _ | _ | field | _ | _ <;> rw [hphase] at hreads
  · -- `call`
    cases hreads
    rw [Server.thread_call hphase] at hs
    obtain ⟨rfl, rfl⟩ := Prod.mk.inj (Option.some.inj hs)
    have hlive := h.call hphase
    exact Or.inl ⟨[], later, by simpa using hlive⟩
  · cases hreads
    rcases hunread : v.unread with _ | ⟨m, unread⟩
    · -- what is in the pipe was written after the thread was told to end
      refine Or.inr ⟨?_, ?_⟩
      · rw [Server.unblocked_thread hs]
        exact h.unblocked_of_size hphase hunread hs
      · rw [h.requests_eq (by simp [hunread])]
        exact List.prefix_append _ _
    · obtain ⟨hread, hlive⟩ := h.size hphase hunread
      rw [Server.thread_size hphase hread] at hs
      obtain ⟨rfl, rfl⟩ := Prod.mk.inj (Option.some.inj hs)
      exact Or.inl ⟨[m], later, by simpa using hlive⟩
  · obtain ⟨m, rfl, rfl⟩ : ∃ m, field = m.take SIZEOF_SIZE_T ∧ current = [m] := by
      cases hreads with
      | body m => exact ⟨m, rfl, rfl⟩
    obtain ⟨hread, hlive⟩ := h.body hphase
    have hpos := (h.framed m (by simp)).size_pos
    rw [Server.thread_body hphase hread (by omega)] at hs
    obtain ⟨rfl, rfl⟩ := Prod.mk.inj (Option.some.inj hs)
    rw [filter_dispatch]
    exact Or.inl ⟨[], later, by simpa using hlive⟩
  · cases hreads
    rw [Server.thread_test hphase] at hs
    obtain ⟨rfl, rfl⟩ := Prod.mk.inj (Option.some.inj hs)
    by_cases hexit : s.unblocked = true
    · have hnone := h.left hexit
      rw [hphase] at hnone
      refine Or.inr ⟨hexit, ?_⟩
      rw [h.requests_eq hnone]
      exact List.prefix_append _ _
    · -- nobody told the thread to end
      have hlive := h.test (Bool.not_eq_true _ ▸ hexit)
      rw [h.exit, if_neg hexit]
      exact Or.inl ⟨[], later, by simpa [h.exit] using hlive⟩
  · cases hreads

/-- A thread at rest has handed over all that is due. -/
theorem requests_of_rest (h : Live v s current later) (hrest : s.AtRest) :
    v.requests <+: v.handled := by
  have hnone := hrest true 0
  have hreads := h.reads
  rcases hphase : s.phase with _ | _ | field | _ | _ <;> rw [hphase] at hreads
  · rw [Server.thread_call hphase] at hnone
    cases hnone
  · cases hreads
    rcases hunread : v.unread with _ | ⟨m, unread⟩
    · rw [h.requests_eq (by simp [hunread])]
    · rw [Server.thread_size hphase (h.size hphase hunread).1] at hnone
      cases hnone
  · -- it has the rest of the message
    obtain ⟨m, rfl, rfl⟩ : ∃ m, field = m.take SIZEOF_SIZE_T ∧ current = [m] := by
      cases hreads with
      | body m => exact ⟨m, rfl, rfl⟩
    have hpos := (h.framed m (by simp)).size_pos
    rw [Server.thread_body hphase (h.body hphase).1 (by omega)] at hnone
    cases hnone
  · rw [Server.thread_test hphase] at hnone
    cases hnone
  · cases hreads

end Live

/-- Nothing undoes it. -/
theorem Done.thread (h : Done v s) {alloc : Bool} (hs : s.thread alloc garbage = some (s', out)) :
    Done (v.onThread s.phase out) s' where
  unblocked := (Server.unblocked_thread hs).trans h.unblocked
  handled := h.handled.trans (List.prefix_append _ _)

/-- **Every step** keeps the thread in step. -/
theorem Steady.step {l : ServerLabel} (hI : Steady v s) (hQ : Sane v ⟨s, l, out, s'⟩)
    (hs : serverMachine.step s l = some (s', out)) : Steady (v.next ⟨s, l, out, s'⟩) s' := by
  cases l with
  | write m =>
    obtain ⟨rfl, rfl⟩ := Prod.mk.inj (Option.some.inj hs)
    rw [Traffic.next]
    dsimp only
    rcases hI with ⟨current, later, h⟩ | h
    · by_cases hyes : s.unblocked = true
      · rw [if_pos hyes]
        exact Or.inl ⟨current, later ++ m, h.write_late hyes m⟩
      · rw [if_neg hyes]
        exact Or.inl ⟨current, [], h.write (Bool.not_eq_true _ ▸ hyes) (hQ.resolve_left hyes)⟩
    · rw [if_pos h.unblocked]
      exact Or.inr ⟨h.unblocked, h.handled⟩
  | unblockThelper =>
    obtain ⟨rfl, rfl⟩ := Prod.mk.inj (Option.some.inj hs)
    rcases hI with ⟨current, later, h⟩ | h
    · refine Or.inl ⟨current, later, h.unblock ?_⟩
      rcases hQ with hyes | hlate
      · exact h.left hyes
      · exact hlate
    · exact Or.inr ⟨rfl, h.handled⟩
  | unblockProc m =>
    obtain ⟨⟨hyes, -⟩, hsome⟩ := Option.ite_none_right_eq_some.mp hs
    obtain ⟨rfl, rfl⟩ := Prod.mk.inj (Option.some.inj hsome)
    rcases hI with ⟨current, later, h⟩ | h
    · exact Or.inl ⟨current, later ++ m, h.write_late hyes m⟩
    · exact Or.inr ⟨h.unblocked, h.handled⟩
  | thread alloc garbage =>
    obtain rfl : alloc = true := hQ
    rcases hI with ⟨current, later, h⟩ | h
    · exact h.thread hs
    · exact Or.inr (h.thread hs)

/-- What the invariant says. -/
theorem Steady.kept (hI : Steady v s) : Kept v s := by
  rcases hI with ⟨current, later, h⟩ | h
  · constructor
    · left
      rw [h.requests]
      exact List.prefix_append _ _
    · intro hrest
      exact h.requests_of_rest hrest
    · intro hended
      have hreads := h.reads
      rw [hended] at hreads
      cases hreads
  · exact ⟨Or.inr ⟨h.unblocked, h.handled⟩, fun _ => h.handled, fun _ => h.unblocked⟩

end

/-- The shortest message that says its length and has a control type. -/
def shortest (ctrlType : UInt8) : Bytes := [13, 0, 0, 0, 0, 0, 0, 0, 0, 0, 0, 0, ctrlType]

end OppoA37.DmnConn
