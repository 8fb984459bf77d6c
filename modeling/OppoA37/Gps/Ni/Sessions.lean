import OppoA37.Lib.Machine

/-!
# The NI sessions of `loc_eng_ni.cpp`

The modem asks for the user's consent with a request; `loc_eng_ni_request_handler` keeps its raw
payload in a session, one for emergencies (`sessionEs`) and one for all others (`session`), and
starts a thread that waits for the user. Four kinds of parties take steps in any order:

* the deferred thread handles a request, a restart of the modem, or a message with a response,
  each in one step;
* calls of `loc_eng_ni_respond` look at the sessions without a mutex, one look a step, and write
  into them under one;
* a thread of a request takes its section under the mutex in one step, whenever it gets there or
  `pthread_cond_timedwait` returns: by a signal, at the end of the time, or for no reason at all;
* after the section it writes into the session once more, without the mutex, and sends its message.

A request is known by its `reqID`, and so is its thread; a payload by when it was handed over.
-/

namespace OppoA37.Ni

open Lts

/-- `GpsUserResponseType`, an integer. -/
abbrev Response := ℕ

/-- `GPS_NI_RESPONSE_ACCEPT` -/
def accept : Response := 1

/-- `GPS_NI_RESPONSE_NORESP` -/
def noResp : Response := 3

/-- `GPS_NI_RESPONSE_IGNORE` -/
def ignore : Response := 4

/-- The sessions of `loc_eng_ni_data_s_type`. -/
inductive Which where
  | session
  | sessionEs
  deriving DecidableEq, Repr

/-- `loc_eng_ni_session_s_type`. -/
structure Session where
  /-- `respTimeLeft` -/
  respTimeLeft : ℕ := 0
  /-- `respRecvd` -/
  respRecvd : Bool := false
  /-- `rawRequest` -/
  rawRequest : Option ℕ := none
  /-- `reqID` -/
  reqID : ℕ := 0
  /-- `resp` -/
  resp : Response := 0
  deriving DecidableEq, Repr

/-- `GpsNiType`. -/
inductive NiType where
  | voice
  | umtsSupl
  | umtsCtrlPlane
  | emergencySupl
  deriving DecidableEq, Repr

/-- What the handler reads of a `GpsNiNotification`. -/
structure Notification where
  /-- `ni_type` -/
  niType : NiType
  /-- `notify_flags` is `GPS_NI_PRIVACY_OVERRIDE` -/
  privacyOverride : Bool
  /-- `timeout` -/
  timeout : ℕ
  deriving DecidableEq, Repr

/-- Where `ni_thread_proc` is, with its `msg`. -/
inductive Pc where
  /-- before it locks the session -/
  | created
  /-- in `pthread_cond_timedwait` -/
  | waiting
  /-- behind its section -/
  | leaving (msg : Option (Response × ℕ))
  /-- before `sendMsg` -/
  | sending (msg : Option (Response × ℕ))
  /-- it has returned -/
  | done
  deriving DecidableEq, Repr

/-- A thread of a request. -/
structure Thread where
  /-- `pSession` -/
  session : Which
  /-- where it is -/
  pc : Pc
  deriving DecidableEq, Repr

/-- Where a call of `loc_eng_ni_respond` is. -/
inductive CallPc where
  /-- before it reads `sessionEs.reqID` -/
  | readEsId
  /-- before it reads `sessionEs.rawRequest` -/
  | readEsRequest
  /-- the emergency session is accepted: before it reads `session.rawRequest` -/
  | readOther
  /-- before it locks `session` to have it ignored -/
  | ignoreOther
  /-- before it reads `session.reqID` -/
  | readId
  /-- before it reads `session.rawRequest` -/
  | readRequest
  /-- before it locks `pSession` -/
  | store (pSession : Which)
  /-- it has returned -/
  | returned
  deriving DecidableEq, Repr

/-- A call of `loc_eng_ni_respond`. -/
structure Call where
  /-- `notif_id` -/
  notifId : ℕ
  /-- `user_response` -/
  userResponse : Response
  /-- where it is -/
  pc : CallPc
  deriving DecidableEq, Repr

/-- The sessions, and everybody who uses them. -/
structure Sys where
  /-- `ni_notify_cb` is set -/
  niNotifyCb : Bool := false
  /-- the sessions -/
  sessions : Which → Session := fun _ => {}
  /-- `reqIDCounter` -/
  reqIDCounter : ℕ := 0
  /-- the threads, by the requests they were started for -/
  threads : ℕ → Option Thread := fun _ => none
  /-- the calls of `loc_eng_ni_respond` -/
  calls : ℕ → Option Call := fun _ => none
  /-- so many payloads were handed over -/
  given : ℕ := 0
  /-- the `LocEngInformNiResponse` messages, oldest first -/
  queue : List (Response × ℕ) := []

/-- What a step shows to the outside. -/
inductive Out where
  /-- a payload is freed -/
  | free (payload : ℕ)
  /-- `loc_eng_mute_one_session` -/
  | mute
  /-- `ni_notify_cb`, for the payload that is kept in the session -/
  | notify (id payload : ℕ)
  /-- `loc_eng_ni_respond` stores a response for a request -/
  | stored (id : ℕ) (resp : Response)
  /-- the call `c` finds that a request is not an active session -/
  | notActive (c id : ℕ)
  /-- the thread `r` makes a message of a payload -/
  | place (r : ℕ) (resp : Response) (payload : ℕ)
  /-- the thread `r` resets the session `w` -/
  | reset (r : ℕ) (w : Which)
  /-- the thread `r` sends its message -/
  | send (r : ℕ) (resp : Response) (payload : ℕ)
  /-- `informNiResponse` -/
  | inform (resp : Response) (payload : ℕ)
  /-- the message is destroyed, with its payload -/
  | destroy (payload : ℕ)
  deriving DecidableEq, Repr

namespace Sys

variable (s : Sys)

/-- Change a session. -/
def write (w : Which) (f : Session → Session) : Sys :=
  { s with sessions := Function.update s.sessions w (f (s.sessions w)) }

/-- A thread goes on. -/
def goto (r : ℕ) (w : Which) (pc : Pc) : Sys :=
  { s with threads := Function.update s.threads r (some ⟨w, pc⟩) }

/-- A call goes on. -/
def callTo (c : ℕ) (call : Call) (pc : CallPc) : Sys :=
  { s with calls := Function.update s.calls c (some { call with pc := pc }) }

/-- The session of a new request, if it is free: an emergency waits for no other request. -/
def pSession (notif : Notification) : Option Which :=
  if notif.niType = .emergencySupl then
    if (s.sessions .sessionEs).rawRequest ≠ none then none else some .sessionEs
  else if (s.sessions .session).rawRequest ≠ none ∨ (s.sessions .sessionEs).rawRequest ≠ none then
    none
  else some .session

/-- `loc_eng_ni_request_handler`. -/
def requestHandler (notif : Notification) : Sys × List Out :=
  let passThrough := s.given
  let s := { s with given := s.given + 1 }
  if !s.niNotifyCb then (s, [])
  else
    match s.pSession notif with
    | none => (s, [.free passThrough])
    | some w =>
      let id := s.reqIDCounter + 1
      let s := { s with reqIDCounter := id }
      let s := s.write w fun i => { i with
        rawRequest := some passThrough
        reqID := id
        respTimeLeft := 5 + if notif.timeout ≠ 0 then notif.timeout else 20 }
      (s.goto id w .created,
        (if notif.privacyOverride then [.mute] else []) ++ [.notify id passThrough])

/-- A session in `loc_eng_ni_reset_on_engine_restart`. -/
def resetSession (w : Which) : Sys × List Out :=
  match (s.sessions w).rawRequest with
  | none => (s, [])
  | some p => (s.write w fun i => { i with rawRequest := none, respRecvd := true }, [.free p])

/-- `loc_eng_ni_reset_on_engine_restart`. -/
def resetOnEngineRestart : Sys × List Out :=
  if !s.niNotifyCb then (s, [])
  else
    let (s, out) := s.resetSession .sessionEs
    let (s, out') := s.resetSession .session
    (s, out ++ out')

/-- `ni_thread_proc` from the end of its loop to the end of its section. -/
def finish (r : ℕ) (w : Which) : Sys × List Out :=
  let i := s.sessions w
  let s := s.write w fun i => { i with respRecvd := false, rawRequest := none }
  match i.rawRequest with
  | none => (s.goto r w (.leaving none), [.reset r w])
  | some p =>
    if i.resp ≠ ignore then
      (s.goto r w (.leaving (some (i.resp, p))), [.place r i.resp p, .reset r w])
    else (s.goto r w (.leaving none), [.free p, .reset r w])

/-- A step of `ni_thread_proc`; `timedOut` says that `pthread_cond_timedwait` returns
`ETIMEDOUT`. -/
def threadStep (r : ℕ) (timedOut : Bool) : Option (Sys × List Out) :=
  match s.threads r, timedOut with
  | some ⟨w, .created⟩, false =>
    some (if (s.sessions w).respRecvd then s.finish r w else (s.goto r w .waiting, []))
  | some ⟨w, .waiting⟩, false =>
    some (if (s.sessions w).respRecvd then s.finish r w else (s, []))
  | some ⟨w, .waiting⟩, true => some ((s.write w fun i => { i with resp := noResp }).finish r w)
  | some ⟨w, .leaving msg⟩, false =>
    some ((s.write w fun i => { i with respTimeLeft := 0, reqID := 0 }).goto r w (.sending msg),
      [.reset r w])
  | some ⟨w, .sending msg⟩, false =>
    match msg with
    | none => some (s.goto r w .done, [])
    | some (resp, p) =>
      some ({ s.goto r w .done with queue := s.queue ++ [(resp, p)] }, [.send r resp p])
  | _, _ => none

/-- A step of `loc_eng_ni_respond`. -/
def callStep (c : ℕ) : Option (Sys × List Out) := do
  let call ← s.calls c
  match call.pc with
  | .readEsId =>
    let found := call.notifId = (s.sessions .sessionEs).reqID
    some (s.callTo c call (if found then .readEsRequest else .readId), [])
  | .readEsRequest =>
    if (s.sessions .sessionEs).rawRequest = none then some (s.callTo c call .readId, [])
    else if call.userResponse = accept then some (s.callTo c call .readOther, [])
    else some (s.callTo c call (.store .sessionEs), [])
  | .readOther =>
    let free := (s.sessions .session).rawRequest = none
    some (s.callTo c call (if free then .store .sessionEs else .ignoreOther), [])
  | .ignoreOther =>
    let s := s.write .session fun i => { i with resp := ignore, respRecvd := true }
    some (s.callTo c call (.store .sessionEs), [])
  | .readId =>
    if call.notifId = (s.sessions .session).reqID then some (s.callTo c call .readRequest, [])
    else some (s.callTo c call .returned, [.notActive c call.notifId])
  | .readRequest =>
    if (s.sessions .session).rawRequest = none then
      some (s.callTo c call .returned, [.notActive c call.notifId])
    else some (s.callTo c call (.store .session), [])
  | .store w =>
    let s := s.write w fun i => { i with resp := call.userResponse, respRecvd := true }
    some (s.callTo c call .returned, [.stored call.notifId call.userResponse])
  | .returned => none

/-- The deferred thread handles a `LocEngInformNiResponse`. -/
def deliver : Option (Sys × List Out) :=
  match s.queue with
  | [] => none
  | (resp, p) :: rest => some ({ s with queue := rest }, [.inform resp p, .destroy p])

/-- `loc_eng_ni_init`, with a callback. -/
def niInit : Sys :=
  if s.niNotifyCb then s
  else
    let reset : Session → Session := fun i =>
      { i with respTimeLeft := 0, respRecvd := false, rawRequest := none, reqID := 0 }
    { (s.write .sessionEs reset).write .session reset with niNotifyCb := true }

end Sys

/-- Who takes a step. -/
inductive Label where
  /-- the modem asks -/
  | request (notif : Notification)
  /-- the modem restarts -/
  | restart
  /-- the deferred thread comes to a message with a response -/
  | deliver
  /-- the user responds -/
  | respond (c id : ℕ) (resp : Response)
  /-- a call of `loc_eng_ni_respond` goes on -/
  | call (c : ℕ)
  /-- the thread of a request goes on -/
  | run (r : ℕ)
  /-- its time is over -/
  | timeOut (r : ℕ)
  deriving DecidableEq, Repr

/-- The machine of all parties. -/
def machine : Machine Sys Label Out where
  step s
    | .request notif => some (s.requestHandler notif)
    | .restart => some s.resetOnEngineRestart
    | .deliver => s.deliver
    | .respond c id resp =>
      if s.calls c = none then
        some ({ s with calls := Function.update s.calls c (some ⟨id, resp, .readEsId⟩) }, [])
      else none
    | .call c => s.callStep c
    | .run r => s.threadStep r false
    | .timeOut r => s.threadStep r true

/-- The state that `loc_eng_ni_init` leaves behind. -/
def start : Sys := Sys.niInit {}

/-! ## What a step can do -/

/-- A session after a restart. -/
def Session.restarted (i : Session) : Session :=
  if i.rawRequest = none then i else { i with rawRequest := none, respRecvd := true }

/-- What becomes of the payload in a session when the thread `r` finishes with the response `v`:
the message, and what it shows. -/
inductive Takes (r : ℕ) (v : Response) : Option ℕ → Option (Response × ℕ) → List Out → Prop where
  | gone : Takes r v none none []
  | placed (p : ℕ) (hv : v ≠ ignore) : Takes r v (some p) (some (v, p)) [.place r v p]
  | ignored (p : ℕ) (hv : v = ignore) : Takes r v (some p) none [.free p]

/-- A look of a call at the sessions, and where it leads. -/
inductive Look (s : Sys) (call : Call) : CallPc → Prop where
  | es (hpc : call.pc = .readEsId) (hid : call.notifId = (s.sessions .sessionEs).reqID) :
    Look s call .readEsRequest
  | notEs (hpc : call.pc = .readEsId) (hid : call.notifId ≠ (s.sessions .sessionEs).reqID) :
    Look s call .readId
  | esGone (hpc : call.pc = .readEsRequest) (hraw : (s.sessions .sessionEs).rawRequest = none) :
    Look s call .readId
  | esAccepted (hpc : call.pc = .readEsRequest) : Look s call .readOther
  | esFound (hpc : call.pc = .readEsRequest) : Look s call (.store .sessionEs)
  | noOther (hpc : call.pc = .readOther) : Look s call (.store .sessionEs)
  | other (hpc : call.pc = .readOther) : Look s call .ignoreOther
  | id (hpc : call.pc = .readId) (hid : call.notifId = (s.sessions .session).reqID) :
    Look s call .readRequest
  | found (hpc : call.pc = .readRequest) : Look s call (.store .session)

/-- A look of a call after which it gives up. -/
inductive GivesUp (s : Sys) (call : Call) : Prop where
  | id (hpc : call.pc = .readId) (hid : call.notifId ≠ (s.sessions .session).reqID)
  | gone (hpc : call.pc = .readRequest) (hraw : (s.sessions .session).rawRequest = none)

/-- The steps, one constructor each. -/
inductive Move (s : Sys) : Label → Sys → List Out → Prop where
  | rejected (notif : Notification) (hw : s.pSession notif = none) :
    Move s (.request notif) { s with given := s.given + 1 } [.free s.given]
  | accepted (notif : Notification) (w : Which) (hw : s.pSession notif = some w) (i : Session)
    (hi : i = { s.sessions w with
      rawRequest := some s.given
      reqID := s.reqIDCounter + 1
      respTimeLeft := 5 + if notif.timeout ≠ 0 then notif.timeout else 20 }) :
    Move s (.request notif)
      { s with
        given := s.given + 1
        reqIDCounter := s.reqIDCounter + 1
        sessions := Function.update s.sessions w i
        threads := Function.update s.threads (s.reqIDCounter + 1) (some ⟨w, .created⟩) }
      ((if notif.privacyOverride then [.mute] else []) ++ [.notify (s.reqIDCounter + 1) s.given])
  | restarted :
    Move s .restart { s with sessions := fun w => (s.sessions w).restarted }
      (((s.sessions .sessionEs).rawRequest.toList ++
        (s.sessions .session).rawRequest.toList).map .free)
  | delivers (v : Response) (p : ℕ) (rest : List (Response × ℕ)) (hq : s.queue = (v, p) :: rest) :
    Move s .deliver { s with queue := rest } [.inform v p, .destroy p]
  | asked (c id : ℕ) (v : Response) (hc : s.calls c = none) :
    Move s (.respond c id v)
      { s with calls := Function.update s.calls c (some ⟨id, v, .readEsId⟩) } []
  | looked (c : ℕ) (call : Call) (pc : CallPc) (hc : s.calls c = some call)
    (hlook : Look s call pc) : Move s (.call c) (s.callTo c call pc) []
  | refused (c : ℕ) (call : Call) (hc : s.calls c = some call) (hno : GivesUp s call) :
    Move s (.call c) (s.callTo c call .returned) [.notActive c call.notifId]
  | ignored (c : ℕ) (call : Call) (hc : s.calls c = some call) (hpc : call.pc = .ignoreOther) :
    Move s (.call c)
      ((s.write .session fun i => { i with resp := ignore, respRecvd := true }).callTo
        c call (.store .sessionEs)) []
  | stored (c : ℕ) (call : Call) (w : Which) (hc : s.calls c = some call)
    (hpc : call.pc = .store w) :
    Move s (.call c) ((s.write w fun i =>
      { i with resp := call.userResponse, respRecvd := true }).callTo c call .returned)
      [.stored call.notifId call.userResponse]
  | waits (r : ℕ) (w : Which) (pc : Pc) (ht : s.threads r = some ⟨w, pc⟩)
    (hpc : pc = .created ∨ pc = .waiting) (hrecvd : (s.sessions w).respRecvd = false) :
    Move s (.run r) (s.goto r w .waiting) []
  | leaves (r : ℕ) (w : Which) (pc : Pc) (timedOut : Bool) (v : Response)
    (msg : Option (Response × ℕ)) (out : List Out) (ht : s.threads r = some ⟨w, pc⟩)
    (hpc : pc = .created ∨ pc = .waiting)
    (hv : timedOut = false ∧ (s.sessions w).respRecvd = true ∧ v = (s.sessions w).resp ∨
      timedOut = true ∧ v = noResp)
    (htakes : Takes r v (s.sessions w).rawRequest msg out) :
    Move s (if timedOut then .timeOut r else .run r) ((s.write w fun i =>
      { i with resp := v, respRecvd := false, rawRequest := none }).goto r w (.leaving msg))
      (out ++ [.reset r w])
  | clears (r : ℕ) (w : Which) (msg : Option (Response × ℕ))
    (ht : s.threads r = some ⟨w, .leaving msg⟩) :
    Move s (.run r) ((s.write w fun i => { i with respTimeLeft := 0, reqID := 0 }).goto r w
      (.sending msg)) [.reset r w]
  | silent (r : ℕ) (w : Which) (ht : s.threads r = some ⟨w, .sending none⟩) :
    Move s (.run r) (s.goto r w .done) []
  | sends (r : ℕ) (w : Which) (v : Response) (p : ℕ)
    (ht : s.threads r = some ⟨w, .sending (some (v, p))⟩) :
    Move s (.run r) { s.goto r w .done with queue := s.queue ++ [(v, p)] } [.send r v p]

variable {s s' : Sys} {l : Label} {out : List Out}

/-- The end of a section, by what it does with the payload. -/
theorem finish_spec (s : Sys) (r : ℕ) (w : Which) :
    ∃ msg out, Takes r (s.sessions w).resp (s.sessions w).rawRequest msg out ∧
      s.finish r w = ((s.write w fun i => { i with respRecvd := false, rawRequest := none }).goto
        r w (.leaving msg), out ++ [.reset r w]) := by
  rw [Sys.finish]
  cases hraw : (s.sessions w).rawRequest with
  | none => exact ⟨none, [], .gone, by simp⟩
  | some p =>
    by_cases hv : (s.sessions w).resp = ignore
    · exact ⟨none, [.free p], .ignored p hv, by simp [hv]⟩
    · exact ⟨_, _, .placed p hv, by simp [hv]⟩

/-- A thread that finishes leaves its section. -/
theorem move_finish {r : ℕ} {w : Which} {pc : Pc} (timedOut : Bool)
    (ht : s.threads r = some ⟨w, pc⟩) (hpc : pc = .created ∨ pc = .waiting)
    (hrecvd : timedOut = false → (s.sessions w).respRecvd = true)
    (h : (if timedOut then s.write w fun i => { i with resp := noResp } else s).finish r w =
      (s', out)) :
    Move s (if timedOut then .timeOut r else .run r) s' out := by
  cases timedOut with
  | false =>
    obtain ⟨msg, out', htakes, heq⟩ := finish_spec s r w
    rw [if_neg Bool.false_ne_true, heq] at h
    obtain ⟨rfl, rfl⟩ := Prod.mk.inj h
    exact .leaves r w pc false _ msg out' ht hpc (.inl ⟨rfl, hrecvd rfl, rfl⟩) htakes
  | true =>
    obtain ⟨msg, out', htakes, heq⟩ :=
      finish_spec (s.write w fun i => { i with resp := noResp }) r w
    rw [if_pos rfl, heq] at h
    obtain ⟨rfl, rfl⟩ := Prod.mk.inj h
    have hmove := Move.leaves r w pc true noResp msg out' ht hpc (.inr ⟨rfl, rfl⟩)
      (by simpa [Sys.write] using htakes)
    simpa [Sys.write, Function.update_idem] using hmove

/-- A session that is reset by a restart. -/
theorem resetSession_eq (s : Sys) (w : Which) : s.resetSession w =
    ({ s with sessions := Function.update s.sessions w (s.sessions w).restarted },
      (s.sessions w).rawRequest.toList.map .free) := by
  rw [Sys.resetSession, Session.restarted]
  cases hraw : (s.sessions w).rawRequest with
  | none => simp
  | some p => simp [Sys.write]

theorem move_restart (hcb : s.niNotifyCb = true) (h : s.resetOnEngineRestart = (s', out)) :
    Move s .restart s' out := by
  rw [Sys.resetOnEngineRestart, hcb, resetSession_eq] at h
  simp only [Bool.not_true, Bool.false_eq_true, if_false] at h
  rw [resetSession_eq] at h
  have hsessions : Function.update (Function.update s.sessions .sessionEs
      (s.sessions .sessionEs).restarted) .session (s.sessions .session).restarted =
        fun w => (s.sessions w).restarted := by
    funext w
    cases w <;> simp [Function.update]
  obtain ⟨rfl, rfl⟩ := Prod.mk.inj h
  have hne : Which.session ≠ .sessionEs := by decide
  simp only [Function.update_of_ne hne, hsessions, ← List.map_append]
  exact .restarted

theorem move_request (hcb : s.niNotifyCb = true) {notif : Notification}
    (h : s.requestHandler notif = (s', out)) : Move s (.request notif) s' out := by
  have hsame : Sys.pSession { s with given := s.given + 1 } notif = s.pSession notif := rfl
  have hcb' : (!s.niNotifyCb) = false := by rw [hcb, Bool.not_true]
  rw [Sys.requestHandler] at h
  simp only [hcb', Bool.false_eq_true, if_false, hsame] at h
  cases hw : s.pSession notif with
  | none =>
    rw [hw] at h
    obtain ⟨rfl, rfl⟩ := Prod.mk.inj h
    exact .rejected notif hw
  | some w =>
    rw [hw] at h
    obtain ⟨rfl, rfl⟩ := Prod.mk.inj h
    exact .accepted notif w hw _ rfl

theorem move_call {c : ℕ} (h : s.callStep c = some (s', out)) : Move s (.call c) s' out := by
  obtain ⟨call, hc, h⟩ := Option.bind_eq_some_iff.mp h
  cases hpc : call.pc with
  | readEsId =>
    simp only [hpc] at h
    obtain ⟨rfl, rfl⟩ := Prod.mk.inj (Option.some.inj h)
    split
    · next hid => exact .looked c call _ hc (.es hpc hid)
    · next hid => exact .looked c call _ hc (.notEs hpc hid)
  | readEsRequest =>
    simp only [hpc] at h
    split at h
    · next hraw =>
      obtain ⟨rfl, rfl⟩ := Prod.mk.inj (Option.some.inj h)
      exact .looked c call _ hc (.esGone hpc hraw)
    · split at h
      · obtain ⟨rfl, rfl⟩ := Prod.mk.inj (Option.some.inj h)
        exact .looked c call _ hc (.esAccepted hpc)
      · obtain ⟨rfl, rfl⟩ := Prod.mk.inj (Option.some.inj h)
        exact .looked c call _ hc (.esFound hpc)
  | readOther =>
    simp only [hpc] at h
    obtain ⟨rfl, rfl⟩ := Prod.mk.inj (Option.some.inj h)
    split
    · exact .looked c call _ hc (.noOther hpc)
    · exact .looked c call _ hc (.other hpc)
  | ignoreOther =>
    simp only [hpc] at h
    obtain ⟨rfl, rfl⟩ := Prod.mk.inj (Option.some.inj h)
    exact .ignored c call hc hpc
  | readId =>
    simp only [hpc] at h
    split at h
    · next hid =>
      obtain ⟨rfl, rfl⟩ := Prod.mk.inj (Option.some.inj h)
      exact .looked c call _ hc (.id hpc hid)
    · next hid =>
      obtain ⟨rfl, rfl⟩ := Prod.mk.inj (Option.some.inj h)
      exact .refused c call hc (.id hpc hid)
  | readRequest =>
    simp only [hpc] at h
    split at h
    · next hraw =>
      obtain ⟨rfl, rfl⟩ := Prod.mk.inj (Option.some.inj h)
      exact .refused c call hc (.gone hpc hraw)
    · obtain ⟨rfl, rfl⟩ := Prod.mk.inj (Option.some.inj h)
      exact .looked c call _ hc (.found hpc)
  | store w =>
    simp only [hpc] at h
    obtain ⟨rfl, rfl⟩ := Prod.mk.inj (Option.some.inj h)
    exact .stored c call w hc hpc
  | returned =>
    simp only [hpc] at h
    cases h

theorem move_thread {r : ℕ} (timedOut : Bool) (h : s.threadStep r timedOut = some (s', out)) :
    Move s (if timedOut then .timeOut r else .run r) s' out := by
  unfold Sys.threadStep at h
  split at h
  · next w ht =>
    rw [if_neg Bool.false_ne_true]
    split at h
    · next hrecvd =>
      have heq := Option.some.inj h
      exact move_finish false ht (.inl rfl) (fun _ => hrecvd) heq
    · next hrecvd =>
      obtain ⟨rfl, rfl⟩ := Prod.mk.inj (Option.some.inj h)
      exact .waits r w _ ht (.inl rfl) (Bool.eq_false_iff.mpr hrecvd)
  · next w ht =>
    rw [if_neg Bool.false_ne_true]
    split at h
    · next hrecvd =>
      have heq := Option.some.inj h
      exact move_finish false ht (.inr rfl) (fun _ => hrecvd) heq
    · next hrecvd =>
      obtain ⟨rfl, rfl⟩ := Prod.mk.inj (Option.some.inj h)
      have hself : s.goto r w .waiting = s := by
        rw [Sys.goto, ← ht, Function.update_eq_self]
      have hmove := Move.waits r w _ ht (.inr rfl) (Bool.eq_false_iff.mpr hrecvd)
      rwa [hself] at hmove
  · next w ht => exact move_finish true ht (.inr rfl) (fun hno => by cases hno) (Option.some.inj h)
  · next w msg ht =>
    obtain ⟨rfl, rfl⟩ := Prod.mk.inj (Option.some.inj h)
    exact .clears r w msg ht
  · next w msg ht =>
    cases msg with
    | none =>
      obtain ⟨rfl, rfl⟩ := Prod.mk.inj (Option.some.inj h)
      exact .silent r w ht
    | some m =>
      obtain ⟨rfl, rfl⟩ := Prod.mk.inj (Option.some.inj h)
      exact .sends r w m.1 m.2 ht
  · cases h

/-- Every step is one of the moves. -/
theorem move_of_step (hcb : s.niNotifyCb = true) (h : machine.step s l = some (s', out)) :
    Move s l s' out := by
  cases l with
  | request notif => exact move_request hcb (Option.some.inj h)
  | restart => exact move_restart hcb (Option.some.inj h)
  | deliver =>
    have h' : s.deliver = some (s', out) := h
    rw [Sys.deliver] at h'
    split at h'
    · cases h'
    · next v p rest hq =>
      obtain ⟨rfl, rfl⟩ := Prod.mk.inj (Option.some.inj h')
      exact .delivers v p rest hq
  | respond c id v =>
    simp only [machine] at h
    split at h
    · next hc =>
      obtain ⟨rfl, rfl⟩ := Prod.mk.inj (Option.some.inj h)
      exact .asked c id v hc
    · cases h
  | call c => exact move_call h
  | run r => exact move_thread false h
  | timeOut r => exact move_thread true h

/-- Nobody unsets the callback. -/
theorem Move.niNotifyCb (h : Move s l s' out) : s'.niNotifyCb = s.niNotifyCb := by
  cases h <;> rfl

theorem start_niNotifyCb : start.niNotifyCb = true := rfl

/-- Threads are numbered by the requests. -/
def Numbered (s : Sys) : Prop := ∀ r t, s.threads r = some t → 0 < r ∧ r ≤ s.reqIDCounter

theorem numbered_start : Numbered start := by
  intro r t ht
  cases ht

/-- A thread that goes on is still numbered. -/
theorem Numbered.goto (h : Numbered s) {r : ℕ} {w : Which} {pc : Pc} {t : Thread}
    (ht : s.threads r = some t) : Numbered (s.goto r w pc) := by
  intro r' t' ht'
  by_cases hr : r' = r
  · subst hr
    exact h r' t ht
  · simp only [Sys.goto, Function.update_of_ne hr] at ht'
    exact h r' t' ht'

theorem Numbered.step (h : Numbered s) (hmove : Move s l s' out) : Numbered s' := by
  cases hmove with
  | accepted notif w hw i hi =>
    intro r t ht
    by_cases hr : r = s.reqIDCounter + 1
    · subst hr
      exact ⟨Nat.succ_pos _, le_refl _⟩
    · simp only [Function.update_of_ne hr] at ht
      exact ⟨(h r t ht).1, (h r t ht).2.trans (Nat.le_succ _)⟩
  | rejected | restarted | delivers | asked | looked | refused | ignored | stored => exact h
  | waits r w pc ht => exact h.goto ht
  | leaves r w pc timedOut v msg out' ht => exact Numbered.goto (s := s.write w _) h ht
  | clears r w msg ht => exact Numbered.goto (s := s.write w _) h ht
  | silent r w ht => exact h.goto ht
  | sends r w v p ht => exact h.goto ht

/-- The number of the next request is free. -/
theorem Numbered.next (h : Numbered s) : s.threads (s.reqIDCounter + 1) = none := by
  by_contra hno
  obtain ⟨t, ht⟩ := Option.ne_none_iff_exists'.mp hno
  exact absurd (h _ t ht).2 (Nat.not_succ_le_self _)

end OppoA37.Ni
