import OppoA37.Lib.Machine

/-!
# The radio wrapper: dialling

The wrapper offers a radio of version 1.4 over an older real one. A real radio that knows
only `dial` gets emergency calls through it, and one global serial number remembers which
of its answers belongs to an emergency call.

* `Radio` and `RadioResponse` hold the two directions, as the code has them;
* `DialService` closes the system: the framework asks with serials it never used before, and
  the real radio answers, in any order, the calls that reached it.
-/

namespace OppoA37.Hidl

open Lts

/-! ## Data -/

/-- What the caller of a `Return<void>` method sees. -/
inductive Return where
  /-- the call went through -/
  | ok
  /-- `EX_ILLEGAL_STATE` -/
  | illegalState
  /-- the transport to the real radio failed -/
  | transport
  deriving DecidableEq, Repr

/-- `V1_0::RadioResponseInfo`: the head of every answer. -/
structure RadioResponseInfo where
  /-- solicited, or with an acknowledgement -/
  type : ℤ
  /-- the serial of the request -/
  serial : ℤ
  /-- the error code -/
  error : ℤ
  deriving DecidableEq, Repr

/-- What only an emergency call of version 1.4 carries. -/
structure EmergencyInfo where
  /-- the emergency service categories -/
  categories : ℕ
  /-- the emergency numbers, by name -/
  urns : List String
  /-- how to route the call -/
  routing : ℕ
  /-- the user wants an emergency call -/
  hasKnownUserIntentEmergency : Bool
  /-- a test of the call -/
  isTesting : Bool
  deriving DecidableEq, Repr

/-- A real radio, by the minor version of its interface. -/
structure RealRadio where
  /-- version `1.minor` -/
  minor : ℕ
  deriving DecidableEq, Repr

variable {Dial : Type}

/-- What the wrapper does to the outside, in order. -/
inductive DialOut (Dial : Type) where
  /-- `dial` on the real radio -/
  | dial (serial : ℤ) (dialInfo : Dial)
  /-- `emergencyDial` on the real radio -/
  | emergencyDial (serial : ℤ) (dialInfo : Dial) (info : EmergencyInfo)
  /-- what the caller gets back -/
  | returned (r : Return)
  /-- `dialResponse` to the framework -/
  | dialResponse (info : RadioResponseInfo)
  /-- `emergencyDialResponse` to the framework -/
  | emergencyDialResponse (info : RadioResponseInfo)
  deriving DecidableEq, Repr

/-! ## Requests and answers -/

/-- `class Radio`. -/
structure Radio where
  /-- the radio behind the wrapper; `none` is the null pointer -/
  mRealRadio : Option RealRadio
  deriving DecidableEq, Repr

namespace Radio

/-- `V1_4::IRadio::castFrom(mRealRadio)`. -/
def getRealRadio_V1_4 (radio : Radio) : Option RealRadio :=
  radio.mRealRadio.filter fun realRadio => decide (4 ≤ realRadio.minor)

/-- `WRAP_V1_0_CALL`; `sent` tells whether the transport takes the call. -/
def wrapV1_0Call (radio : Radio) (call : DialOut Dial) (sent : Bool) : List (DialOut Dial) :=
  match radio.mRealRadio with
  | some _ => [call, .returned (if sent then .ok else .transport)]
  | none => [.returned .illegalState]

/-- `MAYBE_WRAP_V1_4_CALL`; `none` when control goes on behind it. -/
def maybeWrapV1_4Call (radio : Radio) (call : DialOut Dial) (sent : Bool) :
    Option (List (DialOut Dial)) :=
  match radio.getRealRadio_V1_4 with
  | some _ => some [call, .returned (if sent then .ok else .transport)]
  | none => none

/-- `Radio::dial`. -/
def dial (radio : Radio) (serial : ℤ) (dialInfo : Dial) (sent : Bool) : List (DialOut Dial) :=
  radio.wrapV1_0Call (.dial serial dialInfo) sent

/-- `Radio::emergencyDial`, with the global `emergency_dial_serial` before and after. -/
def emergencyDial (radio : Radio) (emergencyDialSerial : ℤ) (serial : ℤ) (dialInfo : Dial)
    (info : EmergencyInfo) (sent : Bool) : ℤ × List (DialOut Dial) :=
  match radio.maybeWrapV1_4Call (.emergencyDial serial dialInfo info) sent with
  | some out => (emergencyDialSerial, out)
  | none =>
    if emergencyDialSerial = -1 then
      (serial, radio.wrapV1_0Call (.dial serial dialInfo) sent)
    else
      (emergencyDialSerial, [.returned .ok])

end Radio

/-- `RadioResponse::dialResponse`, with `emergency_dial_serial` before and after. -/
def RadioResponse.dialResponse (emergencyDialSerial : ℤ) (info : RadioResponseInfo) :
    ℤ × List (DialOut Dial) :=
  if info.serial = emergencyDialSerial then (-1, [.emergencyDialResponse info])
  else (emergencyDialSerial, [.dialResponse info])

/-! ## The closed system -/

/-- The wrapper between the framework and the real radio. -/
structure DialService where
  /-- the global `emergency_dial_serial` -/
  emergencyDialSerial : ℤ := -1
  /-- the serials the framework has used -/
  requested : List ℤ := []
  /-- the serials of the `dial`s that reached the real radio and have no answer yet -/
  unanswered : List ℤ := []
  deriving DecidableEq, Repr

/-- Who acts: the framework asks, or the real radio answers. -/
inductive DialLabel (Dial : Type) where
  /-- a call; `sent` tells whether a forwarded call gets through -/
  | dial (serial : ℤ) (dialInfo : Dial) (sent : Bool)
  /-- an emergency call -/
  | emergencyDial (serial : ℤ) (dialInfo : Dial) (info : EmergencyInfo) (sent : Bool)
  /-- an answer of the real radio -/
  | dialResponse (info : RadioResponseInfo)
  deriving DecidableEq, Repr

/-- The serials of the calls that reached the `dial` of the real radio. -/
def reached : List (DialOut Dial) → List ℤ
  | [.dial serial _, .returned .ok] => [serial]
  | _ => []

/-- A serial the framework may use: not negative, and new. -/
def DialService.Fresh (w : DialService) (serial : ℤ) : Prop := 0 ≤ serial ∧ serial ∉ w.requested

instance (w : DialService) (serial : ℤ) : Decidable (w.Fresh serial) :=
  inferInstanceAs (Decidable (_ ∧ _))

/-- One step of the closed system. -/
def dialStep (radio : Radio) (w : DialService) :
    DialLabel Dial → Option (DialService × List (DialOut Dial))
  | .dial serial dialInfo sent =>
    if w.Fresh serial then
      let out := radio.dial serial dialInfo sent
      some (⟨w.emergencyDialSerial, serial :: w.requested, reached out ++ w.unanswered⟩, out)
    else none
  | .emergencyDial serial dialInfo info sent =>
    if w.Fresh serial then
      let r := radio.emergencyDial w.emergencyDialSerial serial dialInfo info sent
      some (⟨r.1, serial :: w.requested, reached r.2 ++ w.unanswered⟩, r.2)
    else none
  | .dialResponse info =>
    if info.serial ∈ w.unanswered then
      let r := RadioResponse.dialResponse w.emergencyDialSerial info
      some (⟨r.1, w.requested, w.unanswered.erase info.serial⟩, r.2)
    else none

/-- The wrapper over a given real radio. -/
def dialMachine (radio : Radio) : Machine DialService (DialLabel Dial) (DialOut Dial) where
  step := dialStep radio

/-! ## What the functions do -/

variable {radio : Radio}

/-- A forwarded `dial` reaches the real radio if there is one and the transport takes it. -/
theorem reached_wrapV1_0Call (radio : Radio) (serial : ℤ) (dialInfo : Dial) (sent : Bool) :
    reached (radio.wrapV1_0Call (.dial serial dialInfo) sent) =
      if radio.mRealRadio.isSome = true ∧ sent = true then [serial] else [] := by
  rcases radio with ⟨_ | realRadio⟩
  · rfl
  · rcases sent with _ | _ <;> rfl

/-- What reaches a real radio of a forwarded `dial` is that call, if anything. -/
theorem eq_of_mem_reached {serial s : ℤ} {dialInfo : Dial} {sent : Bool}
    (hs : s ∈ reached (radio.wrapV1_0Call (.dial serial dialInfo) sent)) : s = serial := by
  rw [reached_wrapV1_0Call] at hs
  split at hs
  · exact List.mem_singleton.mp hs
  · cases hs

/-- At most one call gets through at a time. -/
theorem nodup_reached (radio : Radio) (serial : ℤ) (dialInfo : Dial) (sent : Bool) :
    (reached (radio.wrapV1_0Call (.dial serial dialInfo) sent)).Nodup := by
  rw [reached_wrapV1_0Call]
  split
  · exact List.pairwise_singleton _ serial
  · exact List.nodup_nil

/-- A forwarded call is forwarded, or refused where the caller sees it. -/
theorem dial_mem_wrapV1_0Call (radio : Radio) (call : DialOut Dial) (sent : Bool) :
    call ∈ radio.wrapV1_0Call call sent ∨
      .returned .illegalState ∈ radio.wrapV1_0Call call sent := by
  rw [Radio.wrapV1_0Call]
  rcases radio.mRealRadio with _ | realRadio
  · exact Or.inr List.mem_cons_self
  · exact Or.inl List.mem_cons_self

/-- An emergency call over an old radio, when none is remembered. -/
theorem emergencyDial_of_free (hold : radio.getRealRadio_V1_4 = none) (serial : ℤ)
    (dialInfo : Dial) (info : EmergencyInfo) (sent : Bool) :
    radio.emergencyDial (-1) serial dialInfo info sent =
      (serial, radio.wrapV1_0Call (.dial serial dialInfo) sent) := by
  rw [Radio.emergencyDial, Radio.maybeWrapV1_4Call, hold]
  rfl

/-- An emergency call over an old radio, while one is remembered: nothing happens, and the
caller is told that all is well. -/
theorem emergencyDial_of_taken (hold : radio.getRealRadio_V1_4 = none) {emergencyDialSerial : ℤ}
    (htaken : emergencyDialSerial ≠ -1) (serial : ℤ) (dialInfo : Dial) (info : EmergencyInfo)
    (sent : Bool) :
    radio.emergencyDial emergencyDialSerial serial dialInfo info sent =
      (emergencyDialSerial, [.returned .ok]) := by
  rw [Radio.emergencyDial, Radio.maybeWrapV1_4Call, hold]
  exact if_neg htaken

/-! ## What a step does -/

section

variable {w w' : DialService} {out : List (DialOut Dial)} {serial : ℤ} {dialInfo : Dial}

/-- Inversion of a call. -/
theorem step_dial_inv {sent : Bool}
    (hs : (dialMachine radio).step w (.dial serial dialInfo sent) = some (w', out)) :
    w.Fresh serial ∧ out = radio.dial serial dialInfo sent ∧
      w' = ⟨w.emergencyDialSerial, serial :: w.requested, reached out ++ w.unanswered⟩ := by
  simp only [dialMachine, dialStep, Option.ite_none_right_eq_some, Option.some.injEq,
    Prod.mk.injEq] at hs
  obtain ⟨hfresh, rfl, rfl⟩ := hs
  exact ⟨hfresh, rfl, rfl⟩

/-- Inversion of an emergency call. -/
theorem step_emergencyDial_inv {info : EmergencyInfo} {sent : Bool}
    (hs : (dialMachine radio).step w (.emergencyDial serial dialInfo info sent) = some (w', out)) :
    w.Fresh serial ∧ ∃ emergencyDialSerial,
      radio.emergencyDial w.emergencyDialSerial serial dialInfo info sent
        = (emergencyDialSerial, out) ∧
      w' = ⟨emergencyDialSerial, serial :: w.requested, reached out ++ w.unanswered⟩ := by
  simp only [dialMachine, dialStep, Option.ite_none_right_eq_some, Option.some.injEq,
    Prod.mk.injEq] at hs
  obtain ⟨hfresh, rfl, rfl⟩ := hs
  exact ⟨hfresh, _, rfl, rfl⟩

/-- Inversion of an answer. -/
theorem step_dialResponse_inv {info : RadioResponseInfo}
    (hs : (dialMachine radio).step w (.dialResponse info) = some (w', out)) :
    info.serial ∈ w.unanswered ∧ ∃ emergencyDialSerial,
      RadioResponse.dialResponse w.emergencyDialSerial info = (emergencyDialSerial, out) ∧
      w' = ⟨emergencyDialSerial, w.requested, w.unanswered.erase info.serial⟩ := by
  simp only [dialMachine, dialStep, Option.ite_none_right_eq_some, Option.some.injEq,
    Prod.mk.injEq] at hs
  obtain ⟨hmem, rfl, rfl⟩ := hs
  exact ⟨hmem, _, rfl, rfl⟩

end

end OppoA37.Hidl
