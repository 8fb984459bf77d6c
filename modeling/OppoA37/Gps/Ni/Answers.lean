import OppoA37.Gps.Ni.Payloads
import OppoA37.Lib.Monitor

/-!
# Is every request answered as the user said?

A view keeps, from what the steps show, which payload belongs to which request, which response
the user gave last for it, and whether the user was told that it is not active. A thread should
send the payload of its own request, with the response that the user gave or, if there is none,
`GPS_NI_RESPONSE_NORESP`; and it should reset no session but that of its own request.

There are three ways in which this fails. A session is free again as soon as a restart has freed
its payload, but its thread still has to finish, and then to set `reqID` to 0; a wait that times
out does not look whether there is a response by now; and `loc_eng_ni_respond` writes into the
session that it found without looking whether it is still that of the request. `answers_run` says
that nothing else goes wrong.
-/

namespace OppoA37.Ni

open Lts

/-! ## What the user sees -/

/-- What was shown so far. -/
structure View where
  /-- the payload of a request -/
  payload : ℕ → Option ℕ := fun _ => none
  /-- the response that the user gave last for a request -/
  stored : ℕ → Option Response := fun _ => none
  /-- a call of `loc_eng_ni_respond` was made after its request was announced -/
  known : ℕ → Bool := fun _ => false
  /-- such a call was told that the request is not active -/
  turnedDown : ℕ → Bool := fun _ => false

/-- Write an output into the view. -/
def record (v : View) : Out → View
  | .notify id p => { v with payload := Function.update v.payload id (some p) }
  | .stored id resp => { v with stored := Function.update v.stored id (some resp) }
  | .notActive c id =>
    if v.known c then { v with turnedDown := Function.update v.turnedDown id true } else v
  | _ => v

/-- Write the begin of a call into the view. -/
def called (v : View) (s : Sys) : Label → View
  | .respond c id _ => { v with known := Function.update v.known c (decide (id ≤ s.reqIDCounter)) }
  | _ => v

/-- The view after one more step. -/
def view (v : View) (e : Event Sys Label Out) : View := e.out.foldl record (called v e.pre e.label)

/-- A step does what the user said. -/
structure Answers (v : View) (e : Event Sys Label Out) : Prop where
  /-- a message is made of the payload of the thread's own request, with the response that the
  user gave for it, or because there is none -/
  placed : ∀ r resp p, .place r resp p ∈ e.out → v.payload r = some p ∧
    (v.stored r = some resp ∨ resp = noResp ∧ v.stored r = none ∧ v.turnedDown r = false)
  /-- this is the message that is sent -/
  sent : ∀ r resp p, .send r resp p ∈ e.out → v.payload r = some p ∧
    (v.stored r = some resp ∨ resp = noResp ∧ v.stored r = none)
  /-- a thread resets the session of its own request -/
  reset : ∀ r w, .reset r w ∈ e.out → (e.pre.sessions w).reqID = r

/-- A thread has written into its session for the last time. -/
def Pc.left : Pc → Bool
  | .sending _ | .done => true
  | _ => false

/-- A step of none of the three kinds. -/
structure Ordered (v : View) (e : Event Sys Label Out) : Prop where
  /-- no request is accepted while a thread of an earlier one has still to write into the session -/
  request : ∀ notif w, e.label = .request notif → e.pre.pSession notif = some w →
    ∀ r pc, e.pre.threads r = some ⟨w, pc⟩ → pc.left = true
  /-- no wait for a request with a response times out, unless its payload is gone or the response
  is `GPS_NI_RESPONSE_NORESP` -/
  timeOut : ∀ r w pc, e.label = .timeOut r → e.pre.threads r = some ⟨w, pc⟩ →
    (e.pre.sessions w).rawRequest = none ∨ v.stored r = none ∨ v.stored r = some noResp
  /-- a response is stored before the thread of its request has finished -/
  store : ∀ c call w, e.label = .call c → e.pre.calls c = some call → call.pc = .store w →
    ∃ pc, e.pre.threads call.notifId = some ⟨w, pc⟩ ∧ pc.finished = false

/-! ## The invariant -/

variable {s s' : Sys} {l : Label} {out : List Out} {v : View} {r : ℕ} {w : Which}

/-- The thread `r` of the session `w` has not finished. -/
def Unfinished (s : Sys) (r : ℕ) (w : Which) : Prop :=
  ∃ pc, s.threads r = some ⟨w, pc⟩ ∧ pc.finished = false

/-- The thread `r` will write into the session `w`. -/
def Unleft (s : Sys) (r : ℕ) (w : Which) : Prop :=
  ∃ pc, s.threads r = some ⟨w, pc⟩ ∧ pc.left = false

theorem Unfinished.unleft (h : Unfinished s r w) : Unleft s r w := by
  obtain ⟨pc, ht, hpc⟩ := h
  refine ⟨pc, ht, ?_⟩
  cases pc <;> first | rfl | cases hpc

/-- View and state agree. -/
structure Agrees (v : View) (s : Sys) : Prop where
  /-- `loc_eng_ni_init` was called -/
  niNotifyCb : s.niNotifyCb = true
  /-- threads are numbered -/
  numbered : Numbered s
  /-- a session is that of the thread that will write into it -/
  cur : ∀ r w, Unleft s r w → (s.sessions w).reqID = r
  /-- a payload in a session is that of a thread that has not finished -/
  slot : ∀ w p, (s.sessions w).rawRequest = some p → ∃ r, Unfinished s r w ∧ v.payload r = some p
  /-- what was received is to be ignored, or the response of the user -/
  recvd : ∀ r w p, Unfinished s r w → (s.sessions w).rawRequest = some p →
    (s.sessions w).respRecvd = true →
      (s.sessions w).resp = ignore ∨ v.stored r = some (s.sessions w).resp
  /-- what was received for nobody is to be ignored -/
  stale : ∀ w, (s.sessions w).respRecvd = true → (∀ r, ¬ Unfinished s r w) →
    (s.sessions w).resp = ignore
  /-- nothing is said of requests to come -/
  fresh : ∀ r, s.reqIDCounter < r → v.stored r = none ∧ v.turnedDown r = false
  /-- a request that is not active has finished, or its payload is gone -/
  turned : ∀ r w, v.turnedDown r = true → Unfinished s r w → (s.sessions w).rawRequest = none
  /-- a call that did not find its request in `sessionEs` need not look there again -/
  known : ∀ c call, s.calls c = some call → v.known c = true → call.notifId ≤ s.reqIDCounter ∧
    (call.pc = .readId ∨ call.pc = .readRequest → Unfinished s call.notifId .sessionEs →
      (s.sessions .sessionEs).rawRequest = none)
  /-- a message has the payload of its request, and its response -/
  message : ∀ r t m, s.threads r = some t → t.pc.msg = some m → v.payload r = some m.2 ∧
    (v.stored r = some m.1 ∨ m.1 = noResp ∧ v.stored r = none)

theorem agrees_start : Agrees {} start where
  niNotifyCb := rfl
  numbered := numbered_start
  cur r w h := by
    obtain ⟨pc, ht, -⟩ := h
    cases ht
  slot w p h := by cases w <;> cases h
  recvd r w p h := by
    obtain ⟨pc, ht, -⟩ := h
    cases ht
  stale w h := by cases w <;> cases h
  fresh r _ := ⟨rfl, rfl⟩
  turned r w h := by cases h
  known c call h := by cases h
  message r t m h := by cases h

/-- Two threads that will write into a session are one. -/
theorem Agrees.unique (h : Agrees v s) {r' : ℕ} (hr : Unleft s r w) (hr' : Unleft s r' w) :
    r = r' :=
  (h.cur r w hr).symm.trans (h.cur r' w hr')

/-- A thread has one session. -/
theorem Unleft.session {w' : Which} (h : Unleft s r w) (h' : Unleft s r w') : w = w' := by
  obtain ⟨pc, ht, -⟩ := h
  obtain ⟨pc', ht', -⟩ := h'
  exact congrArg Thread.session (Option.some.inj (ht.symm.trans ht'))

/-! ## Threads that go on -/

/-- A thread is in one place. -/
theorem exists_pc_iff {P : Pc → Prop} {w' : Which} {pc : Pc} (ht : s.threads r = some ⟨w, pc⟩) :
    (∃ pc', s.threads r = some ⟨w', pc'⟩ ∧ P pc') ↔ w' = w ∧ P pc := by
  refine ⟨?_, ?_⟩
  · rintro ⟨pc', ht', hpc⟩
    obtain ⟨rfl, rfl⟩ := Thread.mk.inj (Option.some.inj (ht'.symm.trans ht))
    exact ⟨rfl, hpc⟩
  · rintro ⟨rfl, hpc⟩
    exact ⟨pc, ht, hpc⟩

theorem unfinished_iff {w' : Which} {pc : Pc} (ht : s.threads r = some ⟨w, pc⟩) :
    Unfinished s r w' ↔ w' = w ∧ pc.finished = false := exists_pc_iff ht

theorem unleft_iff {w' : Which} {pc : Pc} (ht : s.threads r = some ⟨w, pc⟩) :
    Unleft s r w' ↔ w' = w ∧ pc.left = false := exists_pc_iff ht

theorem threads_goto (s : Sys) (r : ℕ) (w : Which) (pc : Pc) :
    (s.goto r w pc).threads r = some ⟨w, pc⟩ := Function.update_self ..

theorem threads_goto_of_ne {r' : ℕ} (hr : r' ≠ r) (s : Sys) (w : Which) (pc : Pc) :
    (s.goto r w pc).threads r' = s.threads r' := Function.update_of_ne hr ..

/-- Other threads do not notice. -/
theorem unfinished_goto_of_ne {r' : ℕ} (hr : r' ≠ r) (s : Sys) (w w' : Which) (pc : Pc) :
    Unfinished (s.goto r w pc) r' w' ↔ Unfinished s r' w' := by
  rw [Unfinished, threads_goto_of_ne hr, Unfinished]

theorem unleft_goto_of_ne {r' : ℕ} (hr : r' ≠ r) (s : Sys) (w w' : Which) (pc : Pc) :
    Unleft (s.goto r w pc) r' w' ↔ Unleft s r' w' := by
  rw [Unleft, threads_goto_of_ne hr, Unleft]

/-- A thread that goes on in its section, or behind it. -/
theorem unfinished_goto_same {pc pc' : Pc} (ht : s.threads r = some ⟨w, pc⟩)
    (hpc : pc'.finished = pc.finished) (r' : ℕ) (w' : Which) :
    Unfinished (s.goto r w pc') r' w' ↔ Unfinished s r' w' := by
  by_cases hr : r' = r
  · subst hr
    rw [unfinished_iff (threads_goto ..), unfinished_iff ht, hpc]
  · exact unfinished_goto_of_ne hr ..

/-- A thread that goes on before or after it has written for the last time. -/
theorem unleft_goto_same {pc pc' : Pc} (ht : s.threads r = some ⟨w, pc⟩)
    (hpc : pc'.left = pc.left) (r' : ℕ) (w' : Which) :
    Unleft (s.goto r w pc') r' w' ↔ Unleft s r' w' := by
  by_cases hr : r' = r
  · subst hr
    rw [unleft_iff (threads_goto ..), unleft_iff ht, hpc]
  · exact unleft_goto_of_ne hr ..

/-- The message of a thread that goes on. -/
theorem msg_goto {r' : ℕ} {pc : Pc} {t : Thread} {m : Response × ℕ}
    (ht : (s.goto r w pc).threads r' = some t) (hm : t.pc.msg = some m) :
    r' = r ∧ pc.msg = some m ∨ s.threads r' = some t := by
  by_cases hr : r' = r
  · subst hr
    simp only [Sys.goto, Function.update_self] at ht
    obtain rfl := Option.some.inj ht
    exact .inl ⟨rfl, hm⟩
  · simp only [Sys.goto, Function.update_of_ne hr] at ht
    exact .inr ht

/-! ## Steps that leave the sessions alone -/

/-- A step that changes no session. -/
theorem Agrees.stay (h : Agrees v s) (hcb : s'.niNotifyCb = s.niNotifyCb) (hnum : Numbered s')
    (hsessions : s'.sessions = s.sessions) (hcounter : s'.reqIDCounter = s.reqIDCounter)
    (hunfinished : ∀ r w, Unfinished s' r w ↔ Unfinished s r w)
    (hunleft : ∀ r w, Unleft s' r w ↔ Unleft s r w)
    (hmsg : ∀ r t m, s'.threads r = some t → t.pc.msg = some m →
      ∃ t', s.threads r = some t' ∧ t'.pc.msg = some m)
    (hcalls : ∀ c call, s'.calls c = some call → s.calls c = some call ∨
      (v.known c = true → call.notifId ≤ s.reqIDCounter ∧
        (call.pc = .readId ∨ call.pc = .readRequest → Unfinished s call.notifId .sessionEs →
          (s.sessions .sessionEs).rawRequest = none))) : Agrees v s' where
  niNotifyCb := hcb.trans h.niNotifyCb
  numbered := hnum
  cur r w hr := hsessions ▸ h.cur r w ((hunleft r w).mp hr)
  slot w p hp := by
    obtain ⟨r, hr, hv⟩ := h.slot w p (hsessions ▸ hp)
    exact ⟨r, (hunfinished r w).mpr hr, hv⟩
  recvd r w p hr hp hrecvd := by
    rw [hsessions] at hp hrecvd ⊢
    exact h.recvd r w p ((hunfinished r w).mp hr) hp hrecvd
  stale w hrecvd hno := by
    rw [hsessions] at hrecvd ⊢
    exact h.stale w hrecvd fun r hr => hno r ((hunfinished r w).mpr hr)
  fresh r hr := h.fresh r (hcounter ▸ hr)
  turned r w hv hr := hsessions ▸ h.turned r w hv ((hunfinished r w).mp hr)
  known c call hc hv := by
    rw [hcounter, hsessions, hunfinished]
    rcases hcalls c call hc with hold | hnew
    · exact h.known c call hold hv
    · exact hnew hv
  message r t m ht hm := by
    obtain ⟨t', ht', hm'⟩ := hmsg r t m ht hm
    exact h.message r t' m ht' hm'

/-- A thread goes on without writing into a session. -/
theorem Agrees.goto (h : Agrees v s) {pc pc' : Pc} (ht : s.threads r = some ⟨w, pc⟩)
    (hfinished : pc'.finished = pc.finished) (hleft : pc'.left = pc.left)
    (hmsg : pc'.msg = none ∨ pc'.msg = pc.msg) : Agrees v (s.goto r w pc') := by
  refine h.stay rfl (h.numbered.goto ht) rfl rfl (unfinished_goto_same ht hfinished)
    (unleft_goto_same ht hleft) (fun r' t m ht' hm => ?_) (fun c call hc => .inl hc)
  rcases msg_goto ht' hm with ⟨rfl, hm'⟩ | hold
  · rcases hmsg with hnone | hsame
    · rw [hnone] at hm'
      cases hm'
    · exact ⟨_, ht, hsame.symm.trans hm'⟩
  · exact ⟨t, hold, hm⟩

/-- The begin of a call. -/
theorem Agrees.asked (h : Agrees v s) {c id : ℕ} {resp : Response} (hc : s.calls c = none) :
    Agrees { v with known := Function.update v.known c (decide (id ≤ s.reqIDCounter)) }
      { s with calls := Function.update s.calls c (some ⟨id, resp, .readEsId⟩) } where
  niNotifyCb := h.niNotifyCb
  numbered := h.numbered
  cur := h.cur
  slot := h.slot
  recvd := h.recvd
  stale := h.stale
  fresh := h.fresh
  turned := h.turned
  known c' call hc' hv := by
    by_cases heq : c' = c
    · subst heq
      simp only [Function.update_self] at hc' hv
      obtain rfl := Option.some.inj hc'
      refine ⟨of_decide_eq_true hv, ?_⟩
      rintro (hpc | hpc)
      all_goals cases hpc
    · simp only [Function.update_of_ne heq] at hc' hv
      exact h.known c' call hc' hv
  message := h.message

/-- A call that goes on. -/
theorem Agrees.callTo (h : Agrees v s) {c : ℕ} {call : Call} {pc : CallPc}
    (hc : s.calls c = some call)
    (hpc : pc = .readId ∨ pc = .readRequest → Unfinished s call.notifId .sessionEs →
      call.notifId ≤ s.reqIDCounter → call.pc = .readId ∨
        (s.sessions .sessionEs).rawRequest = none) : Agrees v (s.callTo c call pc) := by
  refine h.stay rfl h.numbered rfl rfl (fun r w => Iff.rfl) (fun r w => Iff.rfl)
    (fun r t m ht hm => ⟨t, ht, hm⟩) (fun c' call' hc' => ?_)
  by_cases heq : c' = c
  · subst heq
    simp only [Sys.callTo, Function.update_self] at hc'
    obtain rfl := Option.some.inj hc'
    refine .inr fun hv => ?_
    obtain ⟨hle, hgone⟩ := h.known c' call hc hv
    refine ⟨hle, fun hpc' hr => ?_⟩
    rcases hpc hpc' hr hle with hread | hnone
    · exact hgone (.inl hread) hr
    · exact hnone
  · simp only [Sys.callTo, Function.update_of_ne heq] at hc'
    exact .inl hc'

/-- A look of a call at the sessions. -/
theorem Agrees.looked (h : Agrees v s) {c : ℕ} {call : Call} {pc : CallPc}
    (hc : s.calls c = some call) (hlook : Look s call pc) : Agrees v (s.callTo c call pc) := by
  refine h.callTo hc fun hpc hr _ => ?_
  cases hlook with
  | notEs _ hid => exact absurd (h.cur _ _ hr.unleft).symm hid
  | esGone _ hraw => exact .inr hraw
  | id hread _ => exact .inl hread
  | es | esAccepted | esFound | noOther | other | found => simp at hpc

/-- A call that gives up, whoever it was for. -/
theorem Agrees.gone (h : Agrees v s) {c : ℕ} {call : Call} (hc : s.calls c = some call)
    (hknown : v.known c = true) (hno : GivesUp s call) :
    Unfinished s call.notifId w → (s.sessions w).rawRequest = none := by
  intro hr
  obtain ⟨-, hes⟩ := h.known c call hc hknown
  cases w with
  | sessionEs =>
    cases hno with
    | id hpc _ => exact hes (.inl hpc) hr
    | gone hpc _ => exact hes (.inr hpc) hr
  | session =>
    cases hno with
    | id _ hid => exact absurd (h.cur _ _ hr.unleft).symm hid
    | gone _ hraw => exact hraw

/-- The user is told that a request is not active. -/
theorem Agrees.turnDown (h : Agrees v s) {id : ℕ} (hid : id ≤ s.reqIDCounter)
    (hgone : ∀ w, Unfinished s id w → (s.sessions w).rawRequest = none) :
    Agrees { v with turnedDown := Function.update v.turnedDown id true } s where
  niNotifyCb := h.niNotifyCb
  numbered := h.numbered
  cur := h.cur
  slot := h.slot
  recvd := h.recvd
  stale := h.stale
  fresh r hr := by
    have hne : r ≠ id := by omega
    simp only [Function.update_of_ne hne]
    exact h.fresh r hr
  turned r w hv hr := by
    by_cases heq : r = id
    · subst heq
      exact hgone w hr
    · simp only [Function.update_of_ne heq] at hv
      exact h.turned r w hv hr
  known := h.known
  message := h.message

/-! ## Steps that write into a session -/

theorem write_self (s : Sys) (w : Which) (f : Session → Session) :
    (s.write w f).sessions w = f (s.sessions w) := Function.update_self ..

theorem write_of_ne {w' : Which} (hw : w' ≠ w) (s : Sys) (f : Session → Session) :
    (s.write w f).sessions w' = s.sessions w' := Function.update_of_ne hw ..

/-- A restart frees the payloads, and wakes the threads. -/
theorem Agrees.restarted (h : Agrees v s) :
    Agrees v { s with sessions := fun w => (s.sessions w).restarted } := by
  have hraw : ∀ i : Session, i.restarted.rawRequest = none := by
    intro i
    rw [Session.restarted]
    split
    · next hnone => exact hnone
    · rfl
  have hsame : ∀ i : Session, i.restarted.reqID = i.reqID ∧ i.restarted.resp = i.resp := by
    intro i
    rw [Session.restarted]
    split <;> exact ⟨rfl, rfl⟩
  refine ⟨h.niNotifyCb, h.numbered, fun r w hr => ?_, fun w p hp => ?_, fun r w p _ hp => ?_,
    fun w hrecvd hno => ?_, h.fresh, fun r w _ _ => hraw _, fun c call hc hv => ?_, h.message⟩
  · exact (hsame _).1.trans (h.cur r w hr)
  · exact absurd ((hraw _).symm.trans hp) (by simp)
  · exact absurd ((hraw _).symm.trans hp) (by simp)
  · -- nobody waits in a session without a payload
    dsimp only at hrecvd ⊢
    rw [(hsame _).2]
    refine h.stale w ?_ hno
    cases hp : (s.sessions w).rawRequest with
    | none => simpa [Session.restarted, hp] using hrecvd
    | some p =>
      obtain ⟨r, hr, -⟩ := h.slot w p hp
      exact absurd hr (hno r)
  · exact ⟨(h.known c call hc hv).1, fun _ _ => hraw _⟩

/-- A response touches neither payloads nor numbers. -/
theorem received_frame (s : Sys) (w : Which) (resp : Response) (w' : Which) :
    ((s.write w fun i => { i with resp := resp, respRecvd := true }).sessions w').rawRequest =
        (s.sessions w').rawRequest ∧
      ((s.write w fun i => { i with resp := resp, respRecvd := true }).sessions w').reqID =
        (s.sessions w').reqID := by
  by_cases hw : w' = w
  · subst hw
    rw [write_self]
    exact ⟨rfl, rfl⟩
  · rw [write_of_ne hw]
    exact ⟨rfl, rfl⟩

/-- The response of the user to a request whose thread has not finished. -/
theorem Agrees.store (h : Agrees v s) {id : ℕ} (resp : Response) (hid : Unfinished s id w) :
    Agrees { v with stored := Function.update v.stored id (some resp) }
      (s.write w fun i => { i with resp := resp, respRecvd := true }) := by
  have hframe := received_frame s w resp
  refine ⟨h.niNotifyCb, h.numbered, fun r w' hr => ?_, fun w' p hp => ?_,
    fun r w' p hr hp hrecvd => ?_, fun w' hrecvd hno => ?_, fun r hr => ?_, fun r w' hv hr => ?_,
    fun c call hc hv => ?_, fun r t m ht hm => ?_⟩
  · exact (hframe w').2.trans (h.cur r w' hr)
  · rw [(hframe w').1] at hp
    exact h.slot w' p hp
  · rw [(hframe w').1] at hp
    by_cases hw : w' = w
    · -- its session
      subst hw
      obtain rfl : r = id := h.unique hr.unleft hid.unleft
      rw [write_self]
      exact .inr (Function.update_self ..)
    · have hne : r ≠ id := by
        rintro rfl
        exact hw (hr.unleft.session hid.unleft)
      rw [write_of_ne hw] at hrecvd ⊢
      simp only [Function.update_of_ne hne]
      exact h.recvd r w' p hr hp hrecvd
  · have hw : w' ≠ w := by
      rintro rfl
      exact hno id hid
    rw [write_of_ne hw] at hrecvd ⊢
    exact h.stale w' hrecvd hno
  · obtain ⟨pc, ht, -⟩ := hid
    have hle : id ≤ s.reqIDCounter := (h.numbered id _ ht).2
    have hne : r ≠ id := (hle.trans_lt hr).ne'
    simp only [Function.update_of_ne hne]
    exact h.fresh r hr
  · rw [(hframe w').1]
    exact h.turned r w' hv hr
  · rw [(hframe _).1]
    exact h.known c call hc hv
  · have hne : r ≠ id := by
      rintro rfl
      obtain ⟨pc, ht', hpc⟩ := hid
      obtain rfl := Option.some.inj (ht'.symm.trans ht)
      rw [Pc.msg_of_not_finished hpc] at hm
      cases hm
    simp only [Function.update_of_ne hne]
    exact h.message r t m ht hm

/-- An emergency that is accepted has the other session ignored. -/
theorem Agrees.ignored (h : Agrees v s) :
    Agrees v (s.write w fun i => { i with resp := ignore, respRecvd := true }) := by
  have hframe := received_frame s w ignore
  refine ⟨h.niNotifyCb, h.numbered, fun r w' hr => ?_, fun w' p hp => ?_,
    fun r w' p hr hp hrecvd => ?_, fun w' hrecvd hno => ?_, h.fresh, fun r w' hv hr => ?_,
    fun c call hc hv => ?_, h.message⟩
  · exact (hframe w').2.trans (h.cur r w' hr)
  · rw [(hframe w').1] at hp
    exact h.slot w' p hp
  · rw [(hframe w').1] at hp
    by_cases hw : w' = w
    · subst hw
      rw [write_self]
      exact .inl rfl
    · rw [write_of_ne hw] at hrecvd ⊢
      exact h.recvd r w' p hr hp hrecvd
  · by_cases hw : w' = w
    · subst hw
      rw [write_self]
    · rw [write_of_ne hw] at hrecvd ⊢
      exact h.stale w' hrecvd hno
  · rw [(hframe w').1]
    exact h.turned r w' hv hr
  · rw [(hframe _).1]
    exact h.known c call hc hv

/-- A request is accepted in a session whose threads have all written for the last time. -/
theorem Agrees.accepted (h : Agrees v s) {i : Session} (hleft : ∀ r, ¬ Unleft s r w)
    (hraw : i.rawRequest = some s.given) (hid : i.reqID = s.reqIDCounter + 1)
    (hrecvd : i.respRecvd = (s.sessions w).respRecvd) (hresp : i.resp = (s.sessions w).resp) :
    Agrees { v with payload := Function.update v.payload (s.reqIDCounter + 1) (some s.given) }
      { s with
        given := s.given + 1
        reqIDCounter := s.reqIDCounter + 1
        sessions := Function.update s.sessions w i
        threads := Function.update s.threads (s.reqIDCounter + 1) (some ⟨w, .created⟩) } := by
  have hnext := h.numbered.next
  have hself : Unfinished (s.goto (s.reqIDCounter + 1) w .created) (s.reqIDCounter + 1) w :=
    ⟨.created, threads_goto .., rfl⟩
  have hold : ∀ r w', Unfinished (s.goto (s.reqIDCounter + 1) w .created) r w' →
      r = s.reqIDCounter + 1 ∧ w' = w ∨ w' ≠ w ∧ Unfinished s r w' := by
    intro r w' hr
    by_cases hrc : r = s.reqIDCounter + 1
    · subst hrc
      exact .inl ⟨rfl, ((unfinished_iff (threads_goto ..)).mp hr).1⟩
    · have hr' := (unfinished_goto_of_ne hrc ..).mp hr
      refine .inr ⟨?_, hr'⟩
      rintro rfl
      exact hleft r hr'.unleft
  have hnew : ∀ r w', Unfinished s r w' → r ≠ s.reqIDCounter + 1 ∧
      Unfinished (s.goto (s.reqIDCounter + 1) w .created) r w' := by
    intro r w' hr
    have hrc : r ≠ s.reqIDCounter + 1 := by
      rintro rfl
      obtain ⟨pc, ht, -⟩ := hr
      rw [hnext] at ht
      cases ht
    exact ⟨hrc, (unfinished_goto_of_ne hrc ..).mpr hr⟩
  have hsessions : ∀ w', w' ≠ w → Function.update s.sessions w i w' = s.sessions w' :=
    fun w' hw => Function.update_of_ne hw ..
  refine ⟨h.niNotifyCb, ?_, fun r w' hr => ?_, fun w' p hp => ?_, fun r w' p hr hp hrecvd' => ?_,
    fun w' hrecvd' hno => ?_, fun r hr => ?_, fun r w' hv hr => ?_, fun c call hc hv => ?_,
    fun r t m ht hm => ?_⟩
  · intro r t ht
    by_cases hrc : r = s.reqIDCounter + 1
    · subst hrc
      exact ⟨Nat.succ_pos _, le_refl _⟩
    · simp only [Function.update_of_ne hrc] at ht
      exact ⟨(h.numbered r t ht).1, (h.numbered r t ht).2.trans (Nat.le_succ _)⟩
  · by_cases hrc : r = s.reqIDCounter + 1
    · subst hrc
      obtain ⟨rfl, -⟩ := (unleft_iff (threads_goto s ..)).mp hr
      simpa using hid
    · have hr' : Unleft s r w' := (unleft_goto_of_ne hrc ..).mp hr
      have hw : w' ≠ w := by
        rintro rfl
        exact hleft r hr'
      simp only [hsessions w' hw]
      exact h.cur r w' hr'
  · by_cases hw : w' = w
    · subst hw
      simp only [Function.update_self, hraw] at hp
      obtain rfl := Option.some.inj hp
      exact ⟨_, hself, Function.update_self ..⟩
    · simp only [hsessions w' hw] at hp
      obtain ⟨r, hr, hv⟩ := h.slot w' p hp
      obtain ⟨hrc, hr'⟩ := hnew r w' hr
      exact ⟨r, hr', (Function.update_of_ne hrc ..).trans hv⟩
  · rcases hold r w' hr with ⟨rfl, rfl⟩ | ⟨hw, hr'⟩
    · -- what is left over in the session is to be ignored
      simp only [Function.update_self, hrecvd, hresp] at hrecvd' ⊢
      exact .inl (h.stale w' hrecvd' fun r hr => hleft r hr.unleft)
    · simp only [hsessions w' hw] at hp hrecvd' ⊢
      exact h.recvd r w' p hr' hp hrecvd'
  · have hw : w' ≠ w := by
      rintro rfl
      exact hno _ hself
    simp only [hsessions w' hw] at hrecvd' ⊢
    exact h.stale w' hrecvd' fun r hr => hno r (hnew r w' hr).2
  · exact h.fresh r ((Nat.lt_succ_self _).trans hr)
  · rcases hold r w' hr with ⟨rfl, rfl⟩ | ⟨hw, hr'⟩
    · have hfresh := (h.fresh _ (Nat.lt_succ_self _)).2
      exact absurd (hfresh.symm.trans hv) (by decide)
    · simp only [hsessions w' hw]
      exact h.turned r w' hv hr'
  · obtain ⟨hle, hgone⟩ := h.known c call hc hv
    refine ⟨hle.trans (Nat.le_succ _), fun hpc hr => ?_⟩
    rcases hold _ _ hr with ⟨heq, -⟩ | ⟨hw, hr'⟩
    · exact absurd hle (by omega)
    · simp only [hsessions _ hw]
      exact hgone hpc hr'
  · rcases msg_goto ht hm with ⟨-, hnone⟩ | ht'
    · cases hnone
    · have hrc : r ≠ s.reqIDCounter + 1 := by
        rintro rfl
        rw [hnext] at ht'
        cases ht'
      simp only [Function.update_of_ne hrc]
      exact h.message r t m ht' hm

/-- A thread finishes, with the right message if it has one. -/
theorem Agrees.leaves (h : Agrees v s) {pc : Pc} {resp : Response} {msg : Option (Response × ℕ)}
    (ht : s.threads r = some ⟨w, pc⟩) (hpc : pc.finished = false)
    (hmsg : ∀ m, msg = some m → v.payload r = some m.2 ∧
      (v.stored r = some m.1 ∨ m.1 = noResp ∧ v.stored r = none)) :
    Agrees v ((s.write w fun i => { i with
      resp := resp, respRecvd := false, rawRequest := none }).goto r w (.leaving msg)) := by
  have hleft : (Pc.leaving msg).left = pc.left := by
    cases pc with
    | created | waiting => rfl
    | leaving | sending | done => cases hpc
  have hr : Unfinished s r w := ⟨pc, ht, hpc⟩
  generalize hs : (s.write w fun i => { i with
    resp := resp, respRecvd := false, rawRequest := none }) = s₁
  have ht₁ : s₁.threads r = some ⟨w, pc⟩ := by rw [← hs]; exact ht
  have hthreads : ∀ r' w', Unfinished (s₁.goto r w (.leaving msg)) r' w' ↔
      r' ≠ r ∧ Unfinished s r' w' := by
    intro r' w'
    by_cases hrr : r' = r
    · subst hrr
      rw [unfinished_iff (threads_goto ..)]
      simp [Pc.finished]
    · rw [unfinished_goto_of_ne hrr, ← hs]
      exact (and_iff_right hrr).symm
  have hunleft : ∀ r' w', Unleft (s₁.goto r w (.leaving msg)) r' w' ↔ Unleft s r' w' := by
    intro r' w'
    rw [unleft_goto_same ht₁ hleft, ← hs]
    exact Iff.rfl
  have hself : (s₁.sessions w).rawRequest = none ∧ (s₁.sessions w).respRecvd = false ∧
      (s₁.sessions w).reqID = (s.sessions w).reqID := by
    rw [← hs, write_self]
    exact ⟨rfl, rfl, rfl⟩
  have hother : ∀ w', w' ≠ w → s₁.sessions w' = s.sessions w' := by
    intro w' hw
    rw [← hs, write_of_ne hw]
  have hraw : ∀ w', (s.sessions w').rawRequest = none → (s₁.sessions w').rawRequest = none := by
    intro w' hnone
    by_cases hw : w' = w
    · subst hw
      exact hself.1
    · rwa [hother w' hw]
  refine ⟨?_, ?_, fun r' w' hr' => ?_, fun w' p hp => ?_, fun r' w' p hr' hp hrecvd => ?_,
    fun w' hrecvd hno => ?_, fun r' hr' => ?_, fun r' w' hv hr' => ?_, fun c call hc hv => ?_,
    fun r' t m ht' hm => ?_⟩
  · rw [← hs]
    exact h.niNotifyCb
  · refine Numbered.goto ?_ ht₁
    rw [← hs]
    exact h.numbered
  · by_cases hw : w' = w
    · subst hw
      exact hself.2.2.trans (h.cur r' w' ((hunleft r' w').mp hr'))
    · show (s₁.sessions w').reqID = r'
      rw [hother w' hw]
      exact h.cur r' w' ((hunleft r' w').mp hr')
  · have hw : w' ≠ w := by
      rintro rfl
      exact absurd (hself.1.symm.trans hp) (by simp)
    have hp' : (s.sessions w').rawRequest = some p := by
      rw [← hother w' hw]
      exact hp
    obtain ⟨r', hr', hv⟩ := h.slot w' p hp'
    refine ⟨r', (hthreads r' w').mpr ⟨?_, hr'⟩, hv⟩
    rintro rfl
    exact hw (hr'.unleft.session hr.unleft)
  · have hw : w' ≠ w := by
      rintro rfl
      exact absurd (hself.1.symm.trans hp) (by simp)
    simp only [Sys.goto, hother w' hw] at hp hrecvd ⊢
    exact h.recvd r' w' p ((hthreads r' w').mp hr').2 hp hrecvd
  · have hw : w' ≠ w := by
      rintro rfl
      exact absurd (hself.2.1.symm.trans hrecvd) (by simp)
    simp only [Sys.goto, hother w' hw] at hrecvd ⊢
    refine h.stale w' hrecvd fun r' hr' => hno r' ((hthreads r' w').mpr ⟨?_, hr'⟩)
    rintro rfl
    exact hw (hr'.unleft.session hr.unleft)
  · apply h.fresh r'
    rw [← hs] at hr'
    exact hr'
  · exact hraw w' (h.turned r' w' hv ((hthreads r' w').mp hr').2)
  · have hc' : s.calls c = some call := by
      rw [← hs] at hc
      exact hc
    obtain ⟨hle, hgone⟩ := h.known c call hc' hv
    refine ⟨?_, fun hread hr' => hraw _ (hgone hread ((hthreads _ _).mp hr').2)⟩
    rw [← hs]
    exact hle
  · rcases msg_goto ht' hm with ⟨rfl, hm'⟩ | hold
    · exact hmsg m hm'
    · rw [← hs] at hold
      exact h.message r' t m hold hm

/-- A thread writes into its session for the last time. -/
theorem Agrees.clears (h : Agrees v s) {msg : Option (Response × ℕ)}
    (ht : s.threads r = some ⟨w, .leaving msg⟩) :
    Agrees v ((s.write w fun i => { i with respTimeLeft := 0, reqID := 0 }).goto r w
      (.sending msg)) := by
  have hr : Unleft s r w := ⟨_, ht, rfl⟩
  generalize hs : (s.write w fun i => { i with respTimeLeft := 0, reqID := 0 }) = s₁
  have ht₁ : s₁.threads r = some ⟨w, .leaving msg⟩ := by rw [← hs]; exact ht
  have hfinished : (Pc.sending msg).finished = (Pc.leaving msg).finished := rfl
  have hthreads : ∀ r' w', Unfinished (s₁.goto r w (.sending msg)) r' w' ↔
      Unfinished s r' w' := by
    intro r' w'
    rw [unfinished_goto_same ht₁ hfinished, ← hs]
    exact Iff.rfl
  have hframe : ∀ w', (s₁.sessions w').rawRequest = (s.sessions w').rawRequest ∧
      (s₁.sessions w').respRecvd = (s.sessions w').respRecvd ∧
      (s₁.sessions w').resp = (s.sessions w').resp := by
    intro w'
    rw [← hs]
    by_cases hw : w' = w
    · subst hw
      rw [write_self]
      exact ⟨rfl, rfl, rfl⟩
    · rw [write_of_ne hw]
      exact ⟨rfl, rfl, rfl⟩
  refine ⟨?_, ?_, fun r' w' hr' => ?_, fun w' p hp => ?_, fun r' w' p hr' hp hrecvd => ?_,
    fun w' hrecvd hno => ?_, fun r' hr' => ?_, fun r' w' hv hr' => ?_, fun c call hc hv => ?_,
    fun r' t m ht' hm => ?_⟩
  · rw [← hs]
    exact h.niNotifyCb
  · refine Numbered.goto ?_ ht₁
    rw [← hs]
    exact h.numbered
  · have hrr : r' ≠ r := by
      rintro rfl
      obtain ⟨-, hno⟩ := (unleft_iff (threads_goto ..)).mp hr'
      cases hno
    have hold : Unleft s r' w' := by
      rw [unleft_goto_of_ne hrr, ← hs] at hr'
      exact hr'
    have hw : w' ≠ w := by
      rintro rfl
      exact hrr (h.unique hold hr)
    show (s₁.sessions w').reqID = r'
    rw [← hs, write_of_ne hw]
    exact h.cur r' w' hold
  · obtain ⟨r', hr', hv⟩ := h.slot w' p ((hframe w').1.symm.trans hp)
    exact ⟨r', (hthreads r' w').mpr hr', hv⟩
  · simp only [Sys.goto, hframe] at hp hrecvd ⊢
    exact h.recvd r' w' p ((hthreads r' w').mp hr') hp hrecvd
  · simp only [Sys.goto, hframe] at hrecvd ⊢
    exact h.stale w' hrecvd fun r' hr' => hno r' ((hthreads r' w').mpr hr')
  · apply h.fresh r'
    rw [← hs] at hr'
    exact hr'
  · exact (hframe w').1.trans (h.turned r' w' hv ((hthreads r' w').mp hr'))
  · have hc' : s.calls c = some call := by
      rw [← hs] at hc
      exact hc
    obtain ⟨hle, hgone⟩ := h.known c call hc' hv
    refine ⟨?_, fun hread hr' => (hframe _).1.trans (hgone hread ((hthreads _ _).mp hr'))⟩
    rw [← hs]
    exact hle
  · rcases msg_goto ht' hm with ⟨rfl, hm'⟩ | hold
    · exact h.message r' _ m ht hm'
    · rw [← hs] at hold
      exact h.message r' t m hold hm

/-! ## Whole runs -/

/-- What a thread does with its payload is none of the user's business. -/
theorem Takes.record {resp : Response} {raw : Option ℕ} {msg : Option (Response × ℕ)}
    (h : Takes r resp raw msg out) (v : View) : (out ++ [Out.reset r w]).foldl record v = v := by
  cases h <;> rfl

/-- Nor is a message sent, or a session reset, before the end of the section. -/
theorem Takes.quiet {resp : Response} {raw : Option ℕ} {msg : Option (Response × ℕ)}
    (h : Takes r resp raw msg out) :
    (∀ r' resp' p, .send r' resp' p ∉ out) ∧ ∀ r' w', .reset r' w' ∉ out := by
  cases h <;> simp

/-- The message of a thread that finishes is right. -/
theorem Agrees.message_of_takes (h : Agrees v s) {pc : Pc} {timedOut : Bool} {resp : Response}
    {msg : Option (Response × ℕ)} (ht : s.threads r = some ⟨w, pc⟩) (hpc : pc.finished = false)
    (hresp : timedOut = false ∧ (s.sessions w).respRecvd = true ∧ resp = (s.sessions w).resp ∨
      timedOut = true ∧ resp = noResp)
    (hok : timedOut = true → (s.sessions w).rawRequest = none ∨ v.stored r = none ∨
      v.stored r = some noResp)
    (htakes : Takes r resp (s.sessions w).rawRequest msg out) :
    (∀ m, msg = some m → v.payload r = some m.2 ∧
      (v.stored r = some m.1 ∨ m.1 = noResp ∧ v.stored r = none ∧ v.turnedDown r = false)) ∧
    ∀ r' resp' p, .place r' resp' p ∈ out → r' = r ∧ msg = some (resp', p) := by
  have hr : Unfinished s r w := ⟨pc, ht, hpc⟩
  generalize hraw : (s.sessions w).rawRequest = raw at htakes
  cases htakes with
  | gone => simp
  | ignored p hv => simp
  | placed p hv =>
    refine ⟨fun m hm => ?_, fun r' resp' p' hin => ?_⟩
    swap
    · obtain ⟨rfl, rfl, rfl⟩ := Out.place.inj (List.mem_singleton.mp hin)
      exact ⟨rfl, rfl⟩
    obtain rfl := Option.some.inj hm
    obtain ⟨r', hr', hpayload⟩ := h.slot w p hraw
    obtain rfl := h.unique hr'.unleft hr.unleft
    refine ⟨hpayload, ?_⟩
    have hturned : v.turnedDown r' = false := by
      by_contra hno
      have hnone := h.turned r' w (Bool.eq_true_of_not_eq_false hno) hr
      exact absurd (hraw.symm.trans hnone) (by simp)
    rcases hresp with ⟨-, hrecvd, rfl⟩ | ⟨htimedOut, rfl⟩
    · exact .inl ((h.recvd r' w p hr hraw hrecvd).resolve_left hv)
    · rcases hok htimedOut with hnone | hnone | hsome
      · exact absurd (hraw.symm.trans hnone) (by simp)
      · exact .inr ⟨rfl, hnone, hturned⟩
      · exact .inl hsome

/-- A step of none of the three kinds keeps the invariant, and does what the user said. -/
theorem Agrees.step {e : Event Sys Label Out} (h : Agrees v e.pre) (hok : Ordered v e)
    (hs : machine.step e.pre e.label = some (e.post, e.out)) :
    Agrees (view v e) e.post ∧ Answers v e := by
  obtain ⟨s, l, out, s'⟩ := e
  have hfinished : ∀ pc : Pc, pc = .created ∨ pc = .waiting →
      pc.finished = false ∧ pc.left = false ∧ pc.msg = none := by
    rintro pc (rfl | rfl)
    all_goals exact ⟨rfl, rfl, rfl⟩
  have hmove := move_of_step h.niNotifyCb hs
  dsimp only at h hmove ⊢
  cases hmove with
  | rejected notif hw =>
    refine ⟨?_, by simp, by simp, by simp⟩
    exact h.stay rfl h.numbered rfl rfl (fun r w => Iff.rfl) (fun r w => Iff.rfl)
      (fun r t m ht hm => ⟨t, ht, hm⟩) (fun c call hc => .inl hc)
  | accepted notif w hw i hi =>
    have hleft : ∀ r, ¬ Unleft s r w := by
      rintro r ⟨pc, ht, hpc⟩
      exact absurd ((hok.request notif w rfl hw r pc ht).symm.trans hpc) (by decide)
    have hview : view v ⟨s, .request notif, (if notif.privacyOverride then [.mute] else []) ++
        [.notify (s.reqIDCounter + 1) s.given], s⟩ =
          { v with payload := Function.update v.payload (s.reqIDCounter + 1) (some s.given) } := by
      rw [view]
      cases notif.privacyOverride <;> rfl
    refine ⟨?_, ?_, ?_, ?_⟩
    · exact hview ▸ h.accepted hleft (by rw [hi]) (by rw [hi]) (by rw [hi]) (by rw [hi])
    all_goals
      cases notif.privacyOverride <;> simp
  | restarted =>
    have hview : ∀ ps : List ℕ, (ps.map Out.free).foldl record v = v := by
      intro ps
      induction ps with
      | nil => rfl
      | cons p ps ih => exact ih
    refine ⟨?_, by simp, by simp, by simp⟩
    show Agrees ((List.map Out.free _).foldl record v) _
    rw [hview]
    exact h.restarted
  | delivers resp p rest hq =>
    refine ⟨?_, by simp, by simp, by simp⟩
    exact h.stay rfl h.numbered rfl rfl (fun r w => Iff.rfl) (fun r w => Iff.rfl)
      (fun r t m ht hm => ⟨t, ht, hm⟩) (fun c call hc => .inl hc)
  | asked c id resp hc => exact ⟨h.asked hc, by simp, by simp, by simp⟩
  | looked c call pc hc hlook => exact ⟨h.looked hc hlook, by simp, by simp, by simp⟩
  | refused c call hc hno =>
    refine ⟨?_, by simp, by simp, by simp⟩
    have hcall : Agrees v (s.callTo c call .returned) := by
      apply h.callTo hc
      simp
    by_cases hknown : v.known c = true
    · show Agrees (record v (.notActive c call.notifId)) _
      rw [record, if_pos hknown]
      exact hcall.turnDown (h.known c call hc hknown).1 fun w => h.gone hc hknown hno
    · show Agrees (record v (.notActive c call.notifId)) _
      rw [record, if_neg hknown]
      exact hcall
  | ignored c call hc hpc =>
    refine ⟨?_, by simp, by simp, by simp⟩
    apply h.ignored.callTo hc
    simp
  | stored c call w hc hpc =>
    refine ⟨?_, by simp, by simp, by simp⟩
    refine (h.store call.userResponse (hok.store c call w rfl hc hpc)).callTo hc ?_
    simp
  | waits r w pc ht hpc hrecvd =>
    obtain ⟨hunfinished, hunleft, hnone⟩ := hfinished pc hpc
    refine ⟨?_, by simp, by simp, by simp⟩
    exact h.goto ht hunfinished.symm hunleft.symm (.inl rfl)
  | leaves r w pc timedOut resp msg out' ht hpc hresp htakes =>
    obtain ⟨hunfinished, hunleft, -⟩ := hfinished pc hpc
    have hcalled : called v s (if timedOut then .timeOut r else .run r) = v := by
      cases timedOut <;> rfl
    obtain ⟨hmsg, hplaced⟩ := h.message_of_takes ht hunfinished hresp (fun htimedOut =>
      hok.timeOut r w pc (if_pos htimedOut) ht) htakes
    refine ⟨?_, fun r' resp' p hout => ?_, fun r' resp' p hout => ?_, fun r' w' hout => ?_⟩
    · rw [view, hcalled, htakes.record]
      refine h.leaves ht hunfinished fun m hm => ?_
      obtain ⟨hpayload, hvalue⟩ := hmsg m hm
      refine ⟨hpayload, ?_⟩
      rcases hvalue with hvalue | ⟨hvalue, hnone, -⟩
      · exact .inl hvalue
      · exact .inr ⟨hvalue, hnone⟩
    · have hout' : .place r' resp' p ∈ out' := by simpa using hout
      obtain ⟨rfl, hm⟩ := hplaced r' resp' p hout'
      exact hmsg _ hm
    · have hout' : .send r' resp' p ∈ out' := by simpa using hout
      exact absurd hout' (htakes.quiet.1 _ _ _)
    · have hout' : .reset r' w' ∈ out' ∨ r' = r ∧ w' = w := by simpa using hout
      obtain ⟨rfl, rfl⟩ := hout'.resolve_left (htakes.quiet.2 _ _)
      exact h.cur _ _ ⟨pc, ht, hunleft⟩
  | clears r w msg ht =>
    refine ⟨h.clears ht, by simp, by simp, fun r' w' hout => ?_⟩
    obtain ⟨rfl, rfl⟩ := Out.reset.inj (List.mem_singleton.mp hout)
    exact h.cur r' w' ⟨_, ht, rfl⟩
  | silent r w ht => exact ⟨h.goto ht rfl rfl (.inl rfl), by simp, by simp, by simp⟩
  | sends r w resp p ht =>
    have hgoto : Agrees v (s.goto r w .done) := h.goto ht rfl rfl (.inl rfl)
    refine ⟨?_, by simp, fun r' resp' p' hout => ?_, by simp⟩
    · exact hgoto.stay rfl hgoto.numbered rfl rfl (fun r w => Iff.rfl) (fun r w => Iff.rfl)
        (fun r t m ht hm => ⟨t, ht, hm⟩) (fun c call hc => .inl hc)
    · obtain ⟨rfl, rfl, rfl⟩ := Out.send.inj (List.mem_singleton.mp hout)
      exact h.message _ _ _ ht rfl

/-- **Answers go to the right request.** In a run in which no request is accepted on a session
while a thread of an earlier one has still to write into it, no wait for a request that has a
response times out, and every response is stored before the thread of its request has finished,
each thread sends the payload of its own request with the response of the user, or with
`GPS_NI_RESPONSE_NORESP` if there is none, and resets the session of its own request. -/
theorem answers_run {h : List (Event Sys Label Out)} (hr : Run machine start h s)
    (hok : Watched view {} Ordered h) : Watched view {} Answers h :=
  Run.watched_of Agrees agrees_start (fun _ _ h hok hs => h.step hok hs) hr hok

/-- Test the conditions on a step. -/
def isOrdered (v : View) (e : Event Sys Label Out) : Bool :=
  match e.label with
  | .request notif =>
    (e.pre.pSession notif).all fun w => (List.range (e.pre.reqIDCounter + 1)).all fun r =>
      (e.pre.threads r).all fun t => t.session ≠ w || t.pc.left
  | .timeOut r =>
    (e.pre.threads r).all fun t => (e.pre.sessions t.session).rawRequest = none ||
      v.stored r = none || v.stored r = some noResp
  | .call c =>
    (e.pre.calls c).all fun call =>
      match call.pc with
      | .store w =>
        (e.pre.threads call.notifId).any fun t => t.session = w && t.pc.finished = false
      | _ => true
  | _ => true

/-- What the test tells, where threads are numbered. -/
theorem ordered_of_isOrdered {e : Event Sys Label Out} (hnum : Numbered e.pre)
    (h : isOrdered v e = true) : Ordered v e := by
  refine ⟨fun notif w hl hw r pc ht => ?_, fun r w pc hl ht => ?_, fun c call w hl hc hpc => ?_⟩
  · simp only [isOrdered, hl, hw, Option.all_some, List.all_eq_true] at h
    have hr : r ∈ List.range (e.pre.reqIDCounter + 1) :=
      List.mem_range.mpr (Nat.lt_succ_of_le (hnum r _ ht).2)
    simpa [ht] using h r hr
  · simp only [isOrdered, hl, ht, Option.all_some] at h
    simpa [or_assoc] using h
  · simp only [isOrdered, hl, hc, hpc, Option.all_some, Option.any_eq_true] at h
    obtain ⟨⟨w', pc⟩, ht, hboth⟩ := h
    obtain ⟨rfl, hpc'⟩ : w' = w ∧ pc.finished = false := by simpa using hboth
    exact ⟨pc, ht, hpc'⟩

/-- An emergency session is accepted while another request waits, which is ignored; a third
request is not answered. -/
theorem answers_run_two : ∃ h s, Run machine start h s ∧ Watched view {} Answers h ∧
    s.queue = [(accept, 1), (noResp, 2)] := by
  obtain ⟨h, s, hr, -, hcheck⟩ := machine.exists_run start
    [.request ⟨.umtsSupl, false, 0⟩, .request ⟨.emergencySupl, true, 0⟩, .run 1, .run 2,
      .respond 0 2 accept, .call 0, .call 0, .call 0, .call 0, .call 0, .run 2, .run 2, .run 2,
      .run 1, .run 1, .run 1, .request ⟨.umtsSupl, false, 0⟩, .run 3, .timeOut 3, .run 3, .run 3]
    (fun h s => decide (s.queue = [(accept, 1), (noResp, 2)]) &&
      checkWatched view isOrdered {} h) (by decide +kernel)
  obtain ⟨hqueue, hordered⟩ := Bool.and_eq_true_iff.mp hcheck
  refine ⟨h, s, hr, answers_run hr ?_, of_decide_eq_true hqueue⟩
  rintro h₁ e h₂ rfl
  exact ordered_of_isOrdered (lives_run hr.event.1).numbered
    (watched_of_check hordered h₁ e h₂ rfl)

/-- A restart frees the payload of the second request, whose session is taken by the third one
before its thread runs: it sends the payload of the third request, with the response that the
user gave for the first. -/
theorem answered_for_another :
    ¬ ∀ (h : List (Event Sys Label Out)) (s : Sys), Run machine start h s →
      Watched view {} Answers h := by
  intro hall
  obtain ⟨h, e, hr, -, -, hcheck⟩ := machine.exists_run_last start
    [.request ⟨.umtsSupl, false, 0⟩, .run 1, .respond 0 1 accept, .call 0, .call 0, .call 0,
      .call 0, .run 1, .run 1, .run 1, .request ⟨.umtsSupl, false, 0⟩, .run 2, .restart,
      .request ⟨.umtsSupl, false, 0⟩] (.run 2)
    (fun h e => decide (.place 2 accept 2 ∈ e.out ∧ (watch view {} h).payload 2 = some 1))
    (by decide +kernel)
  obtain ⟨hplace, hpayload⟩ := of_decide_eq_true hcheck
  have hanswers := (watched_snoc.mp (hall _ _ hr)).2
  exact absurd (hpayload.symm.trans (hanswers.placed _ _ _ hplace).1) (by decide)

end OppoA37.Ni
