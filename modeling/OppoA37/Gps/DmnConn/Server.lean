import OppoA37.Gps.DmnConn.GlueMsg
import OppoA37.Lib.Machine

/-!
# The daemon connection: the server thread

`thelper_main` calls `loc_api_server_proc` until `thread_exit` is set: by
`loc_eng_dmn_conn_loc_api_server_unblock`, or by itself when the call fails. One call receives one
message and hands it to the handler of its type. Whoever may write into the pipe does so at
any time, and whole messages at a time.

The thread never does for ever (`comes_to_rest`): each turn of its loop takes something out of
the pipe.
-/

namespace OppoA37.DmnConn

open Lts

/-- `GPSONE_LOC_API_IF_REQUEST` -/
def GPSONE_LOC_API_IF_REQUEST : UInt8 := 0xF0

/-- `GPSONE_LOC_API_IF_RELEASE` -/
def GPSONE_LOC_API_IF_RELEASE : UInt8 := 0xF1

/-- `GPSONE_UNBLOCK` -/
def GPSONE_UNBLOCK : UInt8 := 0xF3

/-- Where the thread is in `thelper_main`. -/
inductive Phase where
  /-- before a call of `loc_api_server_proc` -/
  | call
  /-- before the first read -/
  | size
  /-- before the second read, with the size field in the buffer -/
  | body (field : Bytes)
  /-- before the test of `thread_exit` -/
  | test
  /-- behind the loop -/
  | ended
  deriving DecidableEq, Repr

/-- The server and its pipe. -/
structure Server where
  /-- what is in the pipe -/
  pipe : Bytes := []
  /-- where the thread is -/
  phase : Phase := .call
  /-- `thread_exit` -/
  threadExit : Bool := false
  /-- `loc_eng_dmn_conn_loc_api_server_unblock` was called -/
  unblocked : Bool := false
  deriving DecidableEq, Repr

/-- A call of a handler, with the message and its length. -/
inductive Handled where
  /-- `loc_eng_dmn_conn_loc_api_server_if_request_handler` -/
  | ifRequest (msg : Bytes) (length : ℤ)
  /-- `loc_eng_dmn_conn_loc_api_server_if_release_handler` -/
  | ifRelease (msg : Bytes) (length : ℤ)
  deriving DecidableEq, Repr

/-- The message that is handed over. -/
def Handled.msg : Handled → Bytes
  | .ifRequest msg _ => msg
  | .ifRelease msg _ => msg

/-- Who acts. -/
inductive ServerLabel where
  /-- somebody writes a message -/
  | write (msg : Bytes)
  /-- `loc_eng_dmn_conn_loc_api_server_unblock` sets `thread_exit` -/
  | unblockThelper
  /-- and writes a message of its own -/
  | unblockProc (msg : Bytes)
  /-- the thread goes on; `alloc` is how `malloc` fares, and `garbage` what it leaves in the place
  of the control type -/
  | thread (alloc : Bool) (garbage : UInt8)
  deriving DecidableEq, Repr

/-- The message of `loc_eng_dmn_conn_unblock_proc`; most of it was never set. -/
structure IsUnblock (msg : Bytes) : Prop where
  /-- `sizeof(cmsgbuf)` bytes are written -/
  length : msg.length = SIZEOF_CTRL_MSGBUF
  /-- and `msgsz` says so -/
  size : msgszOf (msg.take SIZEOF_SIZE_T) = SIZEOF_CTRL_MSGBUF
  /-- `ctrl_type` -/
  type : msg.getD CTRL_TYPE_AT 0 = GPSONE_UNBLOCK

instance (msg : Bytes) : Decidable (IsUnblock msg) :=
  decidable_of_iff (msg.length = SIZEOF_CTRL_MSGBUF ∧
      msgszOf (msg.take SIZEOF_SIZE_T) = SIZEOF_CTRL_MSGBUF ∧
      msg.getD CTRL_TYPE_AT 0 = GPSONE_UNBLOCK)
    ⟨fun h => ⟨h.1, h.2.1, h.2.2⟩, fun h => ⟨h.length, h.size, h.type⟩⟩

/-- The `switch` of `loc_api_server_proc`. -/
def dispatch (ctrlType : UInt8) (msg : Bytes) (length : ℤ) : List Handled :=
  if ctrlType = GPSONE_LOC_API_IF_REQUEST then [.ifRequest msg length]
  else if ctrlType = GPSONE_LOC_API_IF_RELEASE then [.ifRelease msg length]
  -- `GPSONE_UNBLOCK`, and what is not supported
  else []

namespace Server

/-- `loc_api_server_proc` returns -1, and `thelper_main` takes it for the end. -/
def fail (s : Server) : Server := { s with phase := .test, threadExit := true }

/-- The end of `loc_api_server_proc`, behind `loc_eng_dmn_conn_glue_msgrcv`. -/
def receive (s : Server) (garbage : UInt8) (length : ℤ) (msg : Bytes) : Server × List Handled :=
  if length ≤ 0 then (s.fail, [])
  else ({ s with phase := .test }, dispatch (msg.getD CTRL_TYPE_AT garbage) msg length)

/-- What the thread does next; `none` while it waits, and when it has ended. -/
def thread (s : Server) (alloc : Bool) (garbage : UInt8) : Option (Server × List Handled) :=
  match s.phase with
  | .call => some (if alloc then { s with phase := .size } else s.fail, [])
  | .size =>
    (msgrcvSize s.pipe MSGBUFSZ).map fun r =>
      match r.2 with
      | some field => ({ s with pipe := r.1, phase := .body field }, [])
      | none => ({ s with pipe := r.1 }.fail, [])
  | .body field =>
    (msgrcvBody s.pipe field).map fun r => { s with pipe := r.1 }.receive garbage r.2.1 r.2.2
  | .test => some ({ s with phase := if s.threadExit then .ended else .call }, [])
  | .ended => none

/-- The thread waits, or has ended. -/
def AtRest (s : Server) : Prop := ∀ alloc garbage, s.thread alloc garbage = none

end Server

/-- One step. -/
def serverStep (s : Server) : ServerLabel → Option (Server × List Handled)
  | .write msg => some ({ s with pipe := s.pipe ++ msg }, [])
  | .unblockThelper => some ({ s with threadExit := true, unblocked := true }, [])
  | .unblockProc msg =>
    if s.unblocked = true ∧ IsUnblock msg then some ({ s with pipe := s.pipe ++ msg }, []) else none
  | .thread alloc garbage => s.thread alloc garbage

/-- The server thread among those who write into its pipe. -/
def serverMachine : Machine Server ServerLabel Handled where
  step := serverStep

/-! ## What the thread does at each place -/

namespace Server

variable {s s' : Server} {out : List Handled} {alloc : Bool} {garbage : UInt8}
  {rest field msg : Bytes} {length : ℤ}

theorem thread_call (h : s.phase = .call) :
    s.thread true garbage = some ({ s with phase := .size }, []) := by
  rw [thread, h]
  rfl

theorem thread_size (h : s.phase = .size)
    (hread : msgrcvSize s.pipe MSGBUFSZ = some (rest, some field)) :
    s.thread alloc garbage = some ({ s with pipe := rest, phase := .body field }, []) := by
  rw [thread, h]
  dsimp only
  rw [hread]
  rfl

theorem thread_body (h : s.phase = .body field)
    (hread : msgrcvBody s.pipe field = some (rest, length, msg)) (hpos : 0 < length) :
    s.thread alloc garbage = some ({ s with pipe := rest, phase := .test },
      dispatch (msg.getD CTRL_TYPE_AT garbage) msg length) := by
  rw [thread, h]
  dsimp only
  rw [hread, Option.map_some, receive, if_neg (not_le.mpr hpos)]

theorem thread_test (h : s.phase = .test) :
    s.thread alloc garbage =
      some ({ s with phase := if s.threadExit then .ended else .call }, []) := by
  rw [thread, h]

/-- Nobody but those who write changes what the thread was told. -/
theorem unblocked_thread (hs : s.thread alloc garbage = some (s', out)) :
    s'.unblocked = s.unblocked := by
  rcases hphase : s.phase with _ | _ | field | _ | _ <;> rw [thread, hphase] at hs
  · obtain ⟨rfl, -⟩ := Prod.mk.inj (Option.some.inj hs)
    cases alloc <;> rfl
  · obtain ⟨r, -, heq⟩ := Option.map_eq_some_iff.mp hs
    split at heq <;> obtain ⟨rfl, -⟩ := Prod.mk.inj heq <;> rfl
  · obtain ⟨r, -, heq⟩ := Option.map_eq_some_iff.mp hs
    rw [receive] at heq
    split at heq <;> obtain ⟨rfl, -⟩ := Prod.mk.inj heq <;> rfl
  · obtain ⟨rfl, -⟩ := Prod.mk.inj (Option.some.inj hs)
    rfl
  · cases hs

end Server

/-! ## The thread comes to rest -/

/-- How far a place is from the next first read. -/
def Phase.rank : Phase → ℕ
  | .call => 1
  | .size => 0
  | .body _ => 3
  | .test => 2
  | .ended => 0

namespace Server

variable {s s' : Server} {out : List Handled} {alloc : Bool} {garbage : UInt8}

/-- What becomes less with every step of the thread. -/
def toDo (s : Server) : ℕ := 4 * s.pipe.length + s.phase.rank

@[simp] theorem receive_pipe (s : Server) (garbage : UInt8) (length : ℤ) (msg : Bytes) :
    (s.receive garbage length msg).1.pipe = s.pipe := by
  rw [receive]
  split <;> rfl

@[simp] theorem receive_phase (s : Server) (garbage : UInt8) (length : ℤ) (msg : Bytes) :
    (s.receive garbage length msg).1.phase = .test := by
  rw [receive]
  split <;> rfl

/-- Every step of the thread gets it closer to its rest. -/
theorem toDo_thread (hs : s.thread true garbage = some (s', out)) : s'.toDo < s.toDo := by
  rw [toDo, toDo]
  rcases hphase : s.phase with _ | _ | field | _ | _ <;> rw [thread, hphase] at hs
  · -- `call`
    obtain ⟨rfl, -⟩ := Prod.mk.inj (Option.some.inj hs)
    simp [Phase.rank]
  · -- `size`: the pipe gets shorter
    obtain ⟨r, hr, heq⟩ := Option.map_eq_some_iff.mp hs
    have hlt := length_msgrcvSize hr
    split at heq <;> obtain ⟨rfl, -⟩ := Prod.mk.inj heq <;> simp only [fail, Phase.rank] <;> omega
  · -- `body`
    obtain ⟨r, hr, heq⟩ := Option.map_eq_some_iff.mp hs
    have hle := length_msgrcvBody hr
    have hpipe := congrArg (fun q => q.1.pipe) heq
    have hphase' := congrArg (fun q => q.1.phase) heq
    simp only [receive_pipe, receive_phase] at hpipe hphase'
    rw [← hpipe, ← hphase']
    simp only [Phase.rank]
    omega
  · -- `test`
    obtain ⟨rfl, -⟩ := Prod.mk.inj (Option.some.inj hs)
    split <;> simp [Phase.rank]
  · cases hs

/-- Whether the thread waits does not depend on its luck. -/
theorem atRest_of_none (h : s.thread alloc garbage = none) : s.AtRest := by
  intro alloc' garbage'
  rcases hphase : s.phase with _ | _ | field | _ | _ <;> rw [thread, hphase] at h ⊢
  · cases h
  · exact Option.map_eq_none_iff.mpr (Option.map_eq_none_iff.mp h)
  · exact Option.map_eq_none_iff.mpr (Option.map_eq_none_iff.mp h)
  · cases h

/-- **The thread comes to rest** when it is left alone, and memory does not run out. -/
theorem comes_to_rest (s : Server) : ∃ h s', Run serverMachine s h s' ∧
    (∀ e ∈ h, e.label = .thread true 0) ∧ s'.AtRest := by
  induction hn : s.toDo using Nat.strong_induction_on generalizing s with
  | _ n ih =>
    rcases hs : s.thread true 0 with _ | ⟨s', out⟩
    · exact ⟨[], s, Run.nil, fun _ he => absurd he List.not_mem_nil, atRest_of_none hs⟩
    · obtain ⟨h, t, hr, hlabel, hrest⟩ := ih _ (hn ▸ toDo_thread hs) s' rfl
      have hstep : serverMachine.step s (.thread true 0) = some (s', out) := hs
      refine ⟨⟨s, .thread true 0, out, s'⟩ :: h, t, (Run.single hstep).append hr, ?_, hrest⟩
      exact List.forall_mem_cons.mpr ⟨rfl, hlabel⟩

end Server

end OppoA37.DmnConn
