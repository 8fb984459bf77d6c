import OppoA37.Hidl.Radio.Types

/-!
# The radio wrapper: carrier restrictions

Version 1.4 restricts carriers by two lists, a priority and a policy; version 1.0 by the lists, or
not at all. `setAllowedCarriers_1_4` hands on what it takes to be expressible, and
`getAllowedCarriersResponse` makes a restriction of version 1.4 of what comes back.

What the wrapper does not take to be expressible it drops, and the framework waits for an answer:
`excluded_dropped`. `carriers_iff` says that everything else is answered once and comes back as it
was given.
-/

namespace OppoA37.Hidl

/-! ## Restrictions -/

/-- `V1_0::CarrierRestrictions`; `C` is a carrier, which is only handed on. -/
structure V1_0.CarrierRestrictions (C : Type) where
  /-- `allowedCarriers` -/
  allowedCarriers : List C := []
  /-- `excludedCarriers` -/
  excludedCarriers : List C := []
  deriving DecidableEq, Repr

/-- `V1_4::CarrierRestrictionsWithPriority` -/
structure V1_4.CarrierRestrictionsWithPriority (C : Type) where
  /-- `allowedCarriers` -/
  allowedCarriers : List C := []
  /-- `excludedCarriers` -/
  excludedCarriers : List C := []
  /-- `allowedCarriersPrioritized` -/
  allowedCarriersPrioritized : Bool := false
  deriving DecidableEq, Repr

/-- `V1_4::SimLockMultiSimPolicy` -/
inductive SimLockMultiSimPolicy where
  | NO_MULTISIM_POLICY
  | ONE_VALID_SIM_MUST_BE_PRESENT
  deriving DecidableEq, Repr

variable {C : Type}

/-- A restriction of version 1.4. -/
structure Restriction (C : Type) where
  /-- `carriers` -/
  carriers : V1_4.CarrierRestrictionsWithPriority C
  /-- `multiSimPolicy` -/
  multiSimPolicy : SimLockMultiSimPolicy
  deriving DecidableEq, Repr

/-- A restriction as a real radio of version 1.0 stores it. -/
structure LegacyRestriction (C : Type) where
  /-- `allAllowed` -/
  allAllowed : Bool
  /-- `carriers` -/
  carriers : V1_0.CarrierRestrictions C
  deriving DecidableEq, Repr

/-- `isAllCarriersAllowed` -/
def isAllCarriersAllowed (carriers : V1_4.CarrierRestrictionsWithPriority C) : Bool :=
  carriers.allowedCarriers.length = 0 && carriers.excludedCarriers.length = 0 &&
    !carriers.allowedCarriersPrioritized

/-- `supported` -/
def supported (r : Restriction C) : Bool :=
  (isAllCarriersAllowed r.carriers ||
    r.carriers.excludedCarriers.length = 0 && r.carriers.allowedCarriersPrioritized) &&
      r.multiSimPolicy = .NO_MULTISIM_POLICY

/-! ## Requests and answers -/

/-- A request of the framework. -/
inductive CarrierRequest (C : Type) where
  | setAllowedCarriers_1_4 (r : Restriction C)
  | getAllowedCarriers_1_4
  deriving DecidableEq

/-- A call of the real radio. -/
inductive CarrierCall (C : Type) where
  /-- the same method, which version 1.4 added -/
  | same (request : CarrierRequest C)
  | setAllowedCarriers (allAllowed : Bool) (carriers : V1_0.CarrierRestrictions C)
  | getAllowedCarriers
  deriving DecidableEq

/-- An answer of a real radio of version 1.0. -/
inductive CarrierAnswer (C : Type) where
  | setAllowedCarriersResponse (numAllowed : ℤ)
  | getAllowedCarriersResponse (allAllowed : Bool) (carriers : V1_0.CarrierRestrictions C)
  deriving DecidableEq

/-- An answer to the framework. -/
inductive CarrierResponse (C : Type) where
  | setAllowedCarriersResponse_1_4
  | getAllowedCarriersResponse_1_4 (carriers : V1_4.CarrierRestrictionsWithPriority C)
    (multiSimPolicy : SimLockMultiSimPolicy)
  deriving DecidableEq

/-- What a real radio of an earlier version is called with, if it is. -/
def CarrierRequest.legacy : CarrierRequest C → Option (CarrierCall C)
  | .setAllowedCarriers_1_4 r =>
    if supported r then
      some (.setAllowedCarriers (isAllCarriersAllowed r.carriers)
        { allowedCarriers := r.carriers.allowedCarriers })
    -- `return Void()`: nobody answers
    else none
  | .getAllowedCarriers_1_4 => some .getAllowedCarriers

/-- `Radio::setAllowedCarriers_1_4` and `Radio::getAllowedCarriers_1_4`: the call of the real radio,
if there is one. -/
def Radio.carriers (radio : Radio) (serial : ℤ) (request : CarrierRequest C) :
    Option (ℤ × CarrierCall C) :=
  match radio.getRealRadio_V1_4 with
  | some _ => some (serial, .same request)
  | none =>
    match radio.mRealRadio with
    | some _ => request.legacy.map fun call => (serial, call)
    | none => none

/-- What a real radio of version 1.0 decides about an answer. -/
structure CarrierOutcome where
  /-- its head, for the serial of the call -/
  head : ℤ → RadioResponseInfo
  /-- `numAllowed` -/
  numAllowed : ℤ

/-- A real radio of version 1.0, which stores what it is given unless it reports an error. -/
def CarrierCall.answer (outcome : CarrierOutcome) (serial : ℤ) (stored : LegacyRestriction C) :
    CarrierCall C → Option (LegacyRestriction C × CarrierAnswer C)
  | .same _ => none
  | .setAllowedCarriers allAllowed carriers =>
    some (if (outcome.head serial).error = RadioError.NONE then ⟨allAllowed, carriers⟩ else stored,
      .setAllowedCarriersResponse outcome.numAllowed)
  | .getAllowedCarriers =>
    some (stored, .getAllowedCarriersResponse stored.allAllowed stored.carriers)

/-- The restriction that `getAllowedCarriersResponse` hands on. -/
def LegacyRestriction.raise (stored : LegacyRestriction C) : Restriction C :=
  if stored.allAllowed then ⟨{}, .NO_MULTISIM_POLICY⟩
  else
    ⟨{ allowedCarriers := stored.carriers.allowedCarriers
       excludedCarriers := stored.carriers.excludedCarriers
       allowedCarriersPrioritized := true }, .NO_MULTISIM_POLICY⟩

/-- `RadioResponse::setAllowedCarriersResponse` and `RadioResponse::getAllowedCarriersResponse` -/
def RadioResponse.carriers (info : RadioResponseInfo) :
    CarrierAnswer C → RadioResponseInfo × CarrierResponse C
  | .setAllowedCarriersResponse _ => (info, .setAllowedCarriersResponse_1_4)
  | .getAllowedCarriersResponse allAllowed carriers =>
    let r := LegacyRestriction.raise ⟨allAllowed, carriers⟩
    (info, .getAllowedCarriersResponse_1_4 r.carriers r.multiSimPolicy)

/-- A request, up to its answers: what is stored then, and what the framework gets. -/
def carrierExchange (radio : Radio) (outcome : CarrierOutcome) (stored : LegacyRestriction C)
    (serial : ℤ) (request : CarrierRequest C) :
    LegacyRestriction C × List (RadioResponseInfo × CarrierResponse C) :=
  match radio.carriers serial request with
  | none => (stored, [])
  | some (serial, call) =>
    match call.answer outcome serial stored with
    | none => (stored, [])
    | some (stored, answer) => (stored, [RadioResponse.carriers (outcome.head serial) answer])

/-! ## What is claimed -/

/-- A restriction that a real radio of version 1.0 can store. -/
def Expressible (r : Restriction C) : Prop := ∃ stored : LegacyRestriction C, stored.raise = r

/-- A restriction is answered once. If it is set it comes back, and if it can't be expressed it is
refused. -/
structure SetOrRefused (radio : Radio) (outcome outcome' : CarrierOutcome)
    (stored : LegacyRestriction C) (serial serial' : ℤ) (r : Restriction C)
    (stored' : LegacyRestriction C) (info : RadioResponseInfo) : Prop where
  /-- one response, and what is stored then -/
  answered : carrierExchange radio outcome stored serial (.setAllowedCarriers_1_4 r) =
    (stored', [(info, .setAllowedCarriersResponse_1_4)])
  /-- a success -/
  success : info.error = RadioError.NONE →
    carrierExchange radio outcome' stored' serial' .getAllowedCarriers_1_4 =
      (stored', [(outcome'.head serial', .getAllowedCarriersResponse_1_4 r.carriers
        r.multiSimPolicy)])
  /-- a refusal -/
  refused : ¬ Expressible r → info.error ≠ RadioError.NONE ∧ stored' = stored

/-! ## What is supported -/

variable {r : Restriction C}

theorem isAllCarriersAllowed_iff {carriers : V1_4.CarrierRestrictionsWithPriority C} :
    isAllCarriersAllowed carriers = true ↔ carriers = {} := by
  obtain ⟨allowed, excluded, prioritized⟩ := carriers
  simp [isAllCarriersAllowed, and_assoc]

/-- What is handed on comes back. -/
theorem raise_of_supported (h : supported r = true) : LegacyRestriction.raise
    ⟨isAllCarriersAllowed r.carriers, { allowedCarriers := r.carriers.allowedCarriers }⟩ = r := by
  obtain ⟨⟨allowed, excluded, prioritized⟩, policy⟩ := r
  rw [supported, Bool.and_eq_true, Bool.or_eq_true, Bool.and_eq_true, decide_eq_true_eq,
    decide_eq_true_eq, List.length_eq_zero_iff] at h
  obtain ⟨hcarriers, rfl⟩ := h
  rw [LegacyRestriction.raise]
  rcases hall : isAllCarriersAllowed
    (⟨allowed, excluded, prioritized⟩ : V1_4.CarrierRestrictionsWithPriority C) with _ | _
  · obtain ⟨rfl, rfl⟩ := hcarriers.resolve_left (by rw [hall]; exact Bool.false_ne_true)
    rfl
  · rw [isAllCarriersAllowed_iff.mp hall]
    rfl

variable {radio : Radio} {realRadio : RealRadio} {outcome outcome' : CarrierOutcome}
variable {stored : LegacyRestriction C} {serial : ℤ}

/-- Over a real radio of an earlier version than 1.4, what is not supported is dropped. -/
theorem carrierExchange_set (hradio : radio.mRealRadio = some realRadio)
    (hminor : realRadio.minor < 4) :
    carrierExchange radio outcome stored serial (.setAllowedCarriers_1_4 r) =
      if supported r then
        (if (outcome.head serial).error = RadioError.NONE then
            ⟨isAllCarriersAllowed r.carriers, { allowedCarriers := r.carriers.allowedCarriers }⟩
          else stored,
          [(outcome.head serial, .setAllowedCarriersResponse_1_4)])
      else (stored, []) := by
  have hold : radio.getRealRadio_V1_4 = none := by
    rw [Radio.getRealRadio_V1_4, hradio, Option.filter_some, if_neg (by simpa using hminor)]
  rw [carrierExchange, Radio.carriers, hold, hradio, CarrierRequest.legacy]
  by_cases hsupported : supported r = true
  · rw [if_pos hsupported, if_pos hsupported]
    rfl
  · rw [if_neg hsupported, if_neg hsupported]
    rfl

/-- What is stored is reported. -/
theorem carrierExchange_get (hradio : radio.mRealRadio = some realRadio)
    (hminor : realRadio.minor < 4) :
    carrierExchange radio outcome stored serial .getAllowedCarriers_1_4 =
      (stored, [(outcome.head serial,
        .getAllowedCarriersResponse_1_4 stored.raise.carriers stored.raise.multiSimPolicy)]) := by
  have hold : radio.getRealRadio_V1_4 = none := by
    rw [Radio.getRealRadio_V1_4, hradio, Option.filter_some, if_neg (by simpa using hminor)]
  rw [carrierExchange, Radio.carriers, hold, hradio]
  rfl

/-- **A restriction comes back or is refused** exactly if the wrapper takes it to be supported. -/
theorem carriers_iff (hradio : radio.mRealRadio = some realRadio) (hminor : realRadio.minor < 4)
    (outcome outcome' : CarrierOutcome) (stored : LegacyRestriction C) (serial serial' : ℤ)
    (r : Restriction C) :
    (∃ stored' info, SetOrRefused radio outcome outcome' stored serial serial' r stored' info) ↔
      supported r = true := by
  refine ⟨?_, ?_⟩
  · rintro ⟨stored', info, ⟨hanswered, -, -⟩⟩
    by_contra hno
    rw [carrierExchange_set hradio hminor, if_neg hno] at hanswered
    cases congrArg Prod.snd hanswered
  · intro hsupported
    have hraise := raise_of_supported hsupported
    have hset := @carrierExchange_set _ r _ _ outcome stored serial hradio hminor
    rw [if_pos hsupported] at hset
    refine ⟨_, _, hset, fun hnone => ?_, fun hno => absurd ⟨_, hraise⟩ hno⟩
    rw [carrierExchange_get hradio hminor, if_pos hnone, hraise]

/-- A real radio that does what it is told. -/
def willing : CarrierOutcome := ⟨fun serial => ⟨SOLICITED, serial, RadioError.NONE⟩, 1⟩

/-- A restriction to a single carrier is set. -/
theorem carriers_set : 0 < 4 ∧
    ((∃ stored' info, SetOrRefused ⟨some ⟨0⟩⟩ willing willing ⟨true, {}⟩ 1 2
      ⟨{ allowedCarriers := ["51010"], allowedCarriersPrioritized := true }, .NO_MULTISIM_POLICY⟩
      stored' info) ↔
      supported (⟨{ allowedCarriers := ["51010"], allowedCarriersPrioritized := true },
        .NO_MULTISIM_POLICY⟩ : Restriction String) = true) :=
  ⟨Nat.succ_pos 3, carriers_iff rfl (Nat.succ_pos 3) willing willing ⟨true, {}⟩ 1 2 _⟩

/-- One that excludes a carrier is dropped: nobody answers. -/
theorem excluded_dropped :
    carrierExchange ⟨some ⟨0⟩⟩ willing ⟨true, {}⟩ 1
      (.setAllowedCarriers_1_4 ⟨{ excludedCarriers := ["51010"] }, .NO_MULTISIM_POLICY⟩) =
        (⟨true, {}⟩, []) ∧
    ¬ ∃ stored' info, SetOrRefused ⟨some ⟨0⟩⟩ willing willing ⟨true, {}⟩ 1 2
      ⟨{ excludedCarriers := ["51010"] }, .NO_MULTISIM_POLICY⟩ stored' info := by
  refine ⟨rfl, ?_⟩
  rintro ⟨stored', info, ⟨hanswered, -, -⟩⟩
  cases congrArg Prod.snd hanswered

end OppoA37.Hidl
