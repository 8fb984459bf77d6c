import OppoA37.Hidl.Radio.Types
import OppoA37.Lib.BitMask

/-!
# The radio wrapper: preferred network types

The framework names the networks that it prefers by a bitmap, and a real radio of version 1.0 by a
`PreferredNetworkType`. The bits come in families. `setPreferredNetworkTypeBitmap` adds the rest of
every family that the bitmap touches and looks for the type with these families;
`getPreferredNetworkTypeResponse` goes back by a table of its own.

Not every set of families has a type. What has none gets the type of all families but TD-SCDMA, also
when the framework asked for TD-SCDMA: `tdScdma_lost`. `roundTrip_iff` says that this is all that is
lost.
-/

namespace OppoA37.Hidl

open BitMask

/-! ## Families -/

/-- `V1_0::RadioAccessFamily`, without `UNKNOWN` -/
inductive RadioAccessFamily where
  | GPRS
  | EDGE
  | UMTS
  | IS95A
  | IS95B
  | ONE_X_RTT
  | EVDO_0
  | EVDO_A
  | HSDPA
  | HSUPA
  | HSPA
  | EVDO_B
  | EHRPD
  | LTE
  | HSPAP
  | GSM
  | TD_SCDMA
  | LTE_CA
  deriving DecidableEq, Repr

/-- The interface gives each of them a bit of its own. -/
structure AccessBits where
  /-- the number of the bit -/
  bit : RadioAccessFamily → Fin 32
  injective : Function.Injective bit

/-- The families that have a macro. -/
inductive Family where
  | gsm
  | cdma
  | evdo
  | wcdma
  | lte
  | tdScdma
  deriving DecidableEq, Repr

/-- What is in a family. -/
def Family.members : Family → List RadioAccessFamily
  | gsm => [.GSM, .GPRS, .EDGE]
  | cdma => [.IS95A, .IS95B, .ONE_X_RTT]
  | evdo => [.EVDO_0, .EVDO_A, .EVDO_B, .EHRPD]
  | wcdma => [.HSUPA, .HSDPA, .HSPA, .HSPAP, .UMTS]
  | lte => [.LTE, .LTE_CA]
  | tdScdma => [.TD_SCDMA]

/-- `GSMBITS`, `CDMABITS`, `EVDOBITS`, `WCDMABITS`, `LTEBITS` and `TDSCDMABIT` -/
def AccessBits.bits (v : AccessBits) (family : Family) : BitVec 32 :=
  union (family.members.map fun a => BitVec.twoPow 32 (v.bit a))

/-- All of them. -/
def families : List Family := [.gsm, .cdma, .evdo, .wcdma, .lte, .tdScdma]

theorem mem_families (family : Family) : family ∈ families := by
  cases family <;> decide

instance instFintypeFamily : Fintype Family := Fintype.ofList families mem_families

/-! ## Types -/

/-- `V1_0::PreferredNetworkType` -/
inductive PreferredNetworkType where
  | GSM_WCDMA
  | GSM_ONLY
  | WCDMA
  | GSM_WCDMA_AUTO
  | CDMA_EVDO_AUTO
  | CDMA_ONLY
  | EVDO_ONLY
  | GSM_WCDMA_CDMA_EVDO_AUTO
  | LTE_CDMA_EVDO
  | LTE_GSM_WCDMA
  | LTE_CMDA_EVDO_GSM_WCDMA
  | LTE_ONLY
  | LTE_WCDMA
  | TD_SCDMA_ONLY
  | TD_SCDMA_WCDMA
  | TD_SCDMA_LTE
  | TD_SCDMA_GSM
  | TD_SCDMA_GSM_LTE
  | TD_SCDMA_GSM_WCDMA
  | TD_SCDMA_WCDMA_LTE
  | TD_SCDMA_GSM_WCDMA_LTE
  | TD_SCDMA_GSM_WCDMA_CDMA_EVDO_AUTO
  | TD_SCDMA_LTE_CDMA_EVDO_GSM_WCDMA
  deriving DecidableEq, Repr

/-- All of them. -/
def nwTypes : List PreferredNetworkType :=
  [.GSM_WCDMA, .GSM_ONLY, .WCDMA, .GSM_WCDMA_AUTO, .CDMA_EVDO_AUTO, .CDMA_ONLY, .EVDO_ONLY,
    .GSM_WCDMA_CDMA_EVDO_AUTO, .LTE_CDMA_EVDO, .LTE_GSM_WCDMA, .LTE_CMDA_EVDO_GSM_WCDMA, .LTE_ONLY,
    .LTE_WCDMA, .TD_SCDMA_ONLY, .TD_SCDMA_WCDMA, .TD_SCDMA_LTE, .TD_SCDMA_GSM, .TD_SCDMA_GSM_LTE,
    .TD_SCDMA_GSM_WCDMA, .TD_SCDMA_WCDMA_LTE, .TD_SCDMA_GSM_WCDMA_LTE,
    .TD_SCDMA_GSM_WCDMA_CDMA_EVDO_AUTO, .TD_SCDMA_LTE_CDMA_EVDO_GSM_WCDMA]

instance instFintypePreferredNetworkType : Fintype PreferredNetworkType :=
  Fintype.ofList nwTypes fun nwType => by cases nwType <;> decide

/-- The cases of the `switch` in `setPreferredNetworkTypeBitmap`. -/
def networkCases : List (List Family × PreferredNetworkType) :=
  [([.gsm, .wcdma], .GSM_WCDMA_AUTO),
    ([.gsm], .GSM_ONLY),
    ([.wcdma], .WCDMA),
    ([.cdma, .evdo], .CDMA_EVDO_AUTO),
    ([.cdma], .CDMA_ONLY),
    ([.evdo], .EVDO_ONLY),
    ([.gsm, .wcdma, .cdma, .evdo], .GSM_WCDMA_CDMA_EVDO_AUTO),
    ([.lte, .cdma, .evdo], .LTE_CDMA_EVDO),
    ([.lte, .gsm, .wcdma], .LTE_GSM_WCDMA),
    ([.lte, .cdma, .evdo, .gsm, .wcdma], .LTE_CMDA_EVDO_GSM_WCDMA),
    ([.lte], .LTE_ONLY),
    ([.lte, .wcdma], .LTE_WCDMA),
    ([.tdScdma], .TD_SCDMA_ONLY),
    ([.tdScdma, .wcdma], .TD_SCDMA_WCDMA),
    ([.tdScdma, .lte], .TD_SCDMA_LTE),
    ([.tdScdma, .gsm], .TD_SCDMA_GSM),
    ([.tdScdma, .gsm, .lte], .TD_SCDMA_GSM_LTE),
    ([.tdScdma, .gsm, .wcdma], .TD_SCDMA_GSM_WCDMA),
    ([.tdScdma, .wcdma, .lte], .TD_SCDMA_WCDMA_LTE),
    ([.tdScdma, .gsm, .wcdma, .lte], .TD_SCDMA_GSM_WCDMA_LTE),
    ([.tdScdma, .gsm, .wcdma, .cdma, .evdo], .TD_SCDMA_GSM_WCDMA_CDMA_EVDO_AUTO),
    ([.tdScdma, .lte, .cdma, .evdo, .gsm, .wcdma], .TD_SCDMA_LTE_CDMA_EVDO_GSM_WCDMA)]

/-- The `switch` in `getPreferredNetworkTypeResponse`. -/
def PreferredNetworkType.families : PreferredNetworkType → List Family
  | GSM_WCDMA => [.gsm, .wcdma]
  | GSM_WCDMA_AUTO => [.gsm, .wcdma]
  | GSM_ONLY => [.gsm]
  | WCDMA => [.wcdma]
  | CDMA_EVDO_AUTO => [.cdma, .evdo]
  | CDMA_ONLY => [.cdma]
  | EVDO_ONLY => [.evdo]
  | GSM_WCDMA_CDMA_EVDO_AUTO => [.gsm, .wcdma, .cdma, .evdo]
  | LTE_CDMA_EVDO => [.lte, .cdma, .evdo]
  | LTE_GSM_WCDMA => [.lte, .gsm, .wcdma]
  | LTE_CMDA_EVDO_GSM_WCDMA => [.lte, .cdma, .evdo, .gsm, .wcdma]
  | LTE_ONLY => [.lte]
  | LTE_WCDMA => [.lte, .wcdma]
  | TD_SCDMA_ONLY => [.tdScdma]
  | TD_SCDMA_WCDMA => [.tdScdma, .wcdma]
  | TD_SCDMA_LTE => [.tdScdma, .lte]
  | TD_SCDMA_GSM => [.tdScdma, .gsm]
  | TD_SCDMA_GSM_LTE => [.tdScdma, .gsm, .lte]
  | TD_SCDMA_GSM_WCDMA => [.tdScdma, .gsm, .wcdma]
  | TD_SCDMA_WCDMA_LTE => [.tdScdma, .wcdma, .lte]
  | TD_SCDMA_GSM_WCDMA_LTE => [.tdScdma, .gsm, .wcdma, .lte]
  | TD_SCDMA_GSM_WCDMA_CDMA_EVDO_AUTO => [.tdScdma, .gsm, .wcdma, .cdma, .evdo]
  | TD_SCDMA_LTE_CDMA_EVDO_GSM_WCDMA => [.tdScdma, .lte, .cdma, .evdo, .gsm, .wcdma]

variable (v : AccessBits)

/-- The type that `setPreferredNetworkTypeBitmap` finds. -/
def nwTypeOf (networkTypeBitmap : BitVec 32) : PreferredNetworkType :=
  let networkTypeBitmap := close v.bits [.gsm, .cdma, .evdo, .wcdma, .lte] networkTypeBitmap
  match networkCases.find? fun c => joined v.bits c.1 = networkTypeBitmap with
  | some c => c.2
  | none => .LTE_CMDA_EVDO_GSM_WCDMA

/-- The bitmap that `getPreferredNetworkTypeResponse` gives for a type. -/
def nwTypeBitmap (nwType : PreferredNetworkType) : BitVec 32 := joined v.bits nwType.families

/-! ## Requests and answers -/

/-- A request of the framework. -/
inductive NetworkRequest where
  | setPreferredNetworkTypeBitmap (networkTypeBitmap : BitVec 32)
  | getPreferredNetworkTypeBitmap
  deriving DecidableEq

/-- A call of the real radio. -/
inductive NetworkCall where
  /-- the same method, which version 1.4 added -/
  | same (request : NetworkRequest)
  | setPreferredNetworkType (nwType : PreferredNetworkType)
  | getPreferredNetworkType
  deriving DecidableEq

/-- An answer of a real radio of version 1.0. -/
inductive NetworkAnswer where
  | setPreferredNetworkTypeResponse
  | getPreferredNetworkTypeResponse (nwType : PreferredNetworkType)
  deriving DecidableEq

/-- An answer to the framework. -/
inductive NetworkResponse where
  | setPreferredNetworkTypeBitmapResponse
  | getPreferredNetworkTypeBitmapResponse (networkTypeBitmap : BitVec 32)
  deriving DecidableEq

/-- What a real radio of an earlier version is called with. -/
def NetworkRequest.legacy : NetworkRequest → NetworkCall
  | .setPreferredNetworkTypeBitmap networkTypeBitmap =>
    .setPreferredNetworkType (nwTypeOf v networkTypeBitmap)
  | .getPreferredNetworkTypeBitmap => .getPreferredNetworkType

/-- `Radio::setPreferredNetworkTypeBitmap` and `Radio::getPreferredNetworkTypeBitmap`: the call of
the real radio, if there is one. -/
def Radio.network (radio : Radio) (serial : ℤ) (request : NetworkRequest) :
    Option (ℤ × NetworkCall) :=
  match radio.getRealRadio_V1_4 with
  | some _ => some (serial, .same request)
  | none => radio.mRealRadio.map fun _ => (serial, request.legacy v)

/-- A real radio of version 1.0 that stores the type it is given. -/
def NetworkCall.answer (nwType : PreferredNetworkType) :
    NetworkCall → Option (PreferredNetworkType × NetworkAnswer)
  | .same _ => none
  | .setPreferredNetworkType nwType => some (nwType, .setPreferredNetworkTypeResponse)
  | .getPreferredNetworkType => some (nwType, .getPreferredNetworkTypeResponse nwType)

/-- `RadioResponse::setPreferredNetworkTypeResponse` and
`RadioResponse::getPreferredNetworkTypeResponse` -/
def RadioResponse.network (info : RadioResponseInfo) :
    NetworkAnswer → RadioResponseInfo × NetworkResponse
  | .setPreferredNetworkTypeResponse => (info, .setPreferredNetworkTypeBitmapResponse)
  | .getPreferredNetworkTypeResponse nwType =>
    (info, .getPreferredNetworkTypeBitmapResponse (nwTypeBitmap v nwType))

/-- A request, up to its answer; `head` is the head that the real radio gives the answer to a
serial. -/
def exchange (radio : Radio) (head : ℤ → RadioResponseInfo) (nwType : PreferredNetworkType)
    (serial : ℤ) (request : NetworkRequest) :
    Option (PreferredNetworkType × RadioResponseInfo × NetworkResponse) := do
  let (serial, call) ← radio.network v serial request
  let (nwType, answer) ← call.answer nwType
  some (nwType, RadioResponse.network v (head serial) answer)

/-! ## What is claimed -/

/-- The families that a bitmap touches. -/
def touchedFamilies (networkTypeBitmap : BitVec 32) : List Family :=
  touched v.bits networkTypeBitmap families

/-- What is stored after the bitmap was set, and reported then. -/
structure RoundTrip (radio : Radio) (head : ℤ → RadioResponseInfo) (nwType : PreferredNetworkType)
    (serial serial' serial'' : ℤ) (networkTypeBitmap : BitVec 32)
    (stored : PreferredNetworkType) (reported : BitVec 32) : Prop where
  /-- the bitmap is set -/
  set : exchange v radio head nwType serial (.setPreferredNetworkTypeBitmap networkTypeBitmap) =
    some (stored, head serial, .setPreferredNetworkTypeBitmapResponse)
  /-- a bitmap is reported -/
  get : exchange v radio head stored serial' .getPreferredNetworkTypeBitmap =
    some (stored, head serial', .getPreferredNetworkTypeBitmapResponse reported)
  /-- every family of the request is in it -/
  contains : ∀ family ∈ touchedFamilies v networkTypeBitmap, Within (v.bits family) reported
  /-- it is these families, if a type has them -/
  exact : (∃ nwType, nwTypeBitmap v nwType = joined v.bits (touchedFamilies v networkTypeBitmap)) →
    reported = joined v.bits (touchedFamilies v networkTypeBitmap)
  /-- and leads to a type with the same bitmap -/
  again : ∃ nwType,
    exchange v radio head stored serial'' (.setPreferredNetworkTypeBitmap reported) =
      some (nwType, head serial'', .setPreferredNetworkTypeBitmapResponse) ∧
    nwTypeBitmap v nwType = reported

/-- A bitmap that touches TD-SCDMA touches the families of a type. -/
def HasType (networkTypeBitmap : BitVec 32) : Prop :=
  networkTypeBitmap &&& v.bits .tdScdma ≠ 0 →
    ∃ nwType, nwTypeBitmap v nwType = joined v.bits (touchedFamilies v networkTypeBitmap)

/-! ## Families and their bits -/

theorem getLsbD_bits {v : AccessBits} {family : Family} {k : ℕ} :
    (v.bits family).getLsbD k = true ↔ ∃ a ∈ family.members, (v.bit a : ℕ) = k := by
  rw [AccessBits.bits, getLsbD_union]
  simp only [List.mem_map, exists_exists_and_eq_and, BitVec.getLsbD_twoPow, Fin.is_lt,
    decide_true, Bool.true_and, decide_eq_true_eq]

/-- What is in two families is not there. -/
theorem Family.eq_of_mem {family family' : Family} {a : RadioAccessFamily}
    (h : a ∈ family.members) (h' : a ∈ family'.members) : family = family' := by
  cases family <;> cases family' <;> first | rfl | (cases a <;> revert h h' <;> decide)

/-- Families have no bits in common. -/
theorem apart_bits : Apart v.bits where
  disjoint family family' hne := by
    by_contra hand
    obtain ⟨k, hk, hk'⟩ := and_ne_zero_iff.mp hand
    obtain ⟨a, ha, rfl⟩ := getLsbD_bits.mp hk
    obtain ⟨a', ha', heq⟩ := getLsbD_bits.mp hk'
    obtain rfl := v.injective (Fin.ext heq)
    exact hne (Family.eq_of_mem ha ha')
  nonempty family := by
    have hmem : ∃ a, a ∈ family.members := by
      cases family <;> exact ⟨_, List.mem_cons_self⟩
    obtain ⟨a, ha⟩ := hmem
    exact ne_zero_iff.mpr ⟨_, getLsbD_bits.mpr ⟨a, ha, rfl⟩⟩

/-- The families in two lists are the same. -/
def SameFamilies (l l' : List Family) : Prop := ∀ family, family ∈ l ↔ family ∈ l'

instance instDecidableSameFamilies (l l' : List Family) : Decidable (SameFamilies l l') :=
  inferInstanceAs (Decidable (∀ _, _))

/-- The type for some families. -/
def typeFor (l : List Family) : PreferredNetworkType :=
  match networkCases.find? fun c => SameFamilies c.1 l with
  | some c => c.2
  | none => .LTE_CMDA_EVDO_GSM_WCDMA

/-- The type depends on the families that are touched. -/
theorem nwTypeOf_eq {b : BitVec 32} (hb : Within b (joined v.bits families)) :
    nwTypeOf v b = typeFor (touchedFamilies v b) := by
  have hclose : close v.bits [.gsm, .cdma, .evdo, .wcdma, .lte] b =
      joined v.bits (touchedFamilies v b) := by
    refine (apart_bits v).close_eq_joined hb (by decide) ?_
    intro family _
    cases family
    case tdScdma =>
      refine Or.inr ⟨v.bit .TD_SCDMA, fun k => ?_⟩
      rw [getLsbD_bits, Family.members]
      simp [eq_comm]
    all_goals exact Or.inl (by decide)
  have hfind : (fun c : List Family × PreferredNetworkType =>
      decide (joined v.bits c.1 = joined v.bits (touchedFamilies v b))) =
        fun c => decide (SameFamilies c.1 (touchedFamilies v b)) := by
    funext c
    exact decide_eq_decide.mpr (apart_bits v).joined_eq_iff
  rw [nwTypeOf, typeFor, hclose, hfind]

/-! ## The tables -/

/-- The families of a type lead back to them. -/
theorem sameFamilies_typeFor (nwType : PreferredNetworkType) :
    SameFamilies (typeFor nwType.families).families nwType.families := by
  cases nwType <;> decide

/-- The order of the families does not matter. -/
theorem SameFamilies.typeFor_eq {l l' : List Family} (h : SameFamilies l l') :
    typeFor l = typeFor l' := by
  have hfind : (fun c : List Family × PreferredNetworkType => decide (SameFamilies c.1 l)) =
      fun c => decide (SameFamilies c.1 l') := by
    funext c
    refine decide_eq_decide.mpr (forall_congr' fun family => ?_)
    rw [h family]
  rw [typeFor, typeFor, hfind]

/-- Families that have a type get one that has them. -/
theorem sameFamilies_of_exists {l : List Family}
    (h : ∃ nwType : PreferredNetworkType, SameFamilies nwType.families l) :
    SameFamilies (typeFor l).families l := by
  obtain ⟨nwType, hsame⟩ := h
  rw [← hsame.typeFor_eq]
  exact fun family => (sameFamilies_typeFor nwType family).trans (hsame family)

/-- The type that is found has all families of the request, unless TD-SCDMA is one of them and no
type has just these. -/
theorem families_typeFor : ∀ l ∈ families.sublists,
    (∀ family ∈ l, family ∈ (typeFor l).families) ↔
      (Family.tdScdma ∈ l → ∃ nwType : PreferredNetworkType, SameFamilies nwType.families l) := by
  decide +kernel

/-! ## There and back -/

variable {v}

theorem hasType_iff {b : BitVec 32} : HasType v b ↔ (Family.tdScdma ∈ touchedFamilies v b →
    ∃ nwType : PreferredNetworkType, SameFamilies nwType.families (touchedFamilies v b)) := by
  rw [HasType, touchedFamilies, mem_touched, and_iff_right (mem_families .tdScdma)]
  exact imp_congr_right fun _ => exists_congr fun nwType => (apart_bits v).joined_eq_iff

/-- The families that a type's bitmap touches are its own. -/
theorem sameFamilies_touched (nwType : PreferredNetworkType) :
    SameFamilies (touchedFamilies v (nwTypeBitmap v nwType)) nwType.families := by
  intro family
  rw [touchedFamilies, mem_touched, and_iff_right (mem_families family), and_ne_zero_iff]
  refine ⟨?_, ?_⟩
  · rintro ⟨k, hk, hfamily⟩
    obtain ⟨family', hmem, hfamily'⟩ := getLsbD_joined.mp hk
    rwa [(apart_bits v).eq_of_getLsbD hfamily hfamily']
  · intro hmem
    obtain ⟨k, hk⟩ := ne_zero_iff.mp ((apart_bits v).nonempty family)
    exact ⟨k, getLsbD_joined.mpr ⟨family, hmem, hk⟩, hk⟩

/-- The bitmap of a type is made of families. -/
theorem within_nwTypeBitmap (nwType : PreferredNetworkType) :
    Within (nwTypeBitmap v nwType) (joined v.bits families) := by
  refine within_iff.mpr fun k _ hk => ?_
  obtain ⟨family, -, hfamily⟩ := getLsbD_joined.mp hk
  exact getLsbD_joined.mpr ⟨family, mem_families family, hfamily⟩

/-- A bitmap that was reported leads to a type with the same one. -/
theorem nwTypeBitmap_nwTypeOf (nwType : PreferredNetworkType) :
    nwTypeBitmap v (nwTypeOf v (nwTypeBitmap v nwType)) = nwTypeBitmap v nwType := by
  rw [nwTypeOf_eq v (within_nwTypeBitmap nwType), (sameFamilies_touched nwType).typeFor_eq]
  exact (apart_bits v).joined_eq_iff.mpr (sameFamilies_typeFor nwType)

variable {radio : Radio} {realRadio : RealRadio} {head : ℤ → RadioResponseInfo}
variable {nwType stored : PreferredNetworkType} {serial serial' serial'' : ℤ}
variable {b reported : BitVec 32}

/-- What a real radio of an earlier version than 1.4 does. -/
theorem exchange_eq (hradio : radio.mRealRadio = some realRadio) (hminor : realRadio.minor < 4)
    (request : NetworkRequest) : exchange v radio head nwType serial request =
      match request with
      | .setPreferredNetworkTypeBitmap b =>
        some (nwTypeOf v b, head serial, .setPreferredNetworkTypeBitmapResponse)
      | .getPreferredNetworkTypeBitmap => some (nwType, head serial,
          .getPreferredNetworkTypeBitmapResponse (nwTypeBitmap v nwType)) := by
  have hold : radio.getRealRadio_V1_4 = none := by
    rw [Radio.getRealRadio_V1_4, hradio, Option.filter_some, if_neg (by simpa using hminor)]
  rw [exchange, Radio.network, hold, hradio]
  cases request <;> rfl

/-- **A bitmap comes back** with every family of the request, and with no others where some type
has just these, exactly if it does not ask for TD-SCDMA together with families for which there is
no type. -/
theorem roundTrip_iff (v : AccessBits) (hradio : radio.mRealRadio = some realRadio)
    (hminor : realRadio.minor < 4) (head : ℤ → RadioResponseInfo) (nwType : PreferredNetworkType)
    (serial serial' serial'' : ℤ) {b : BitVec 32} (hb : Within b (joined v.bits families)) :
    (∃ stored reported,
      RoundTrip v radio head nwType serial serial' serial'' b stored reported) ↔ HasType v b := by
  have hsub : touchedFamilies v b ∈ families.sublists :=
    List.mem_sublists.mpr List.filter_sublist
  rw [hasType_iff, ← families_typeFor _ hsub]
  refine ⟨?_, ?_⟩
  · rintro ⟨stored, reported, ⟨hset, hget, hcontains, -, -⟩⟩ family hmem
    rw [exchange_eq hradio hminor] at hset hget
    have hstored : stored = typeFor (touchedFamilies v b) := by
      rw [← nwTypeOf_eq v hb]
      exact (congrArg Prod.fst (Option.some.inj hset)).symm
    have hreported : NetworkResponse.getPreferredNetworkTypeBitmapResponse
        (nwTypeBitmap v stored) = .getPreferredNetworkTypeBitmapResponse reported :=
      congrArg (fun r => r.2.2) (Option.some.inj hget)
    have hwithin := hcontains family hmem
    rw [← NetworkResponse.getPreferredNetworkTypeBitmapResponse.inj hreported, nwTypeBitmap,
      (apart_bits v).within_joined_iff, hstored] at hwithin
    exact hwithin
  · intro hall
    have htype := nwTypeOf_eq v hb
    refine ⟨nwTypeOf v b, nwTypeBitmap v (nwTypeOf v b), ?_, ?_, ?_, ?_, ?_⟩
    · exact exchange_eq hradio hminor _
    · exact exchange_eq hradio hminor _
    · intro family hmem
      rw [nwTypeBitmap, (apart_bits v).within_joined_iff, htype]
      exact hall family hmem
    · rintro ⟨nwType, hsame⟩
      rw [htype]
      exact (apart_bits v).joined_eq_iff.mpr
        (sameFamilies_of_exists ⟨nwType, (apart_bits v).joined_eq_iff.mp hsame⟩)
    · exact ⟨_, exchange_eq hradio hminor _, nwTypeBitmap_nwTypeOf _⟩

/-- The bits of the interface. -/
def accessBits : AccessBits where
  bit
    | .GPRS => 1
    | .EDGE => 2
    | .UMTS => 3
    | .IS95A => 4
    | .IS95B => 5
    | .ONE_X_RTT => 6
    | .EVDO_0 => 7
    | .EVDO_A => 8
    | .HSDPA => 9
    | .HSUPA => 10
    | .HSPA => 11
    | .EVDO_B => 12
    | .EHRPD => 13
    | .LTE => 14
    | .HSPAP => 15
    | .GSM => 16
    | .TD_SCDMA => 17
    | .LTE_CA => 19
  injective a a' h := by cases a <;> cases a' <;> first | rfl | cases h

/-- TD-SCDMA alone comes back. -/
theorem tdScdma_roundTrip : 0 < 4 ∧
    Within (1 <<< 17 : BitVec 32) (joined accessBits.bits families) ∧
    ((∃ stored reported, RoundTrip accessBits ⟨some ⟨0⟩⟩ (fun serial => ⟨SOLICITED, serial, 0⟩)
      .GSM_WCDMA 1 2 3 (1 <<< 17 : BitVec 32) stored reported) ↔
      HasType accessBits (1 <<< 17 : BitVec 32)) :=
  ⟨Nat.succ_pos 3, by decide, roundTrip_iff accessBits rfl (Nat.succ_pos 3)
    (fun serial => ⟨SOLICITED, serial, 0⟩) .GSM_WCDMA 1 2 3 (by decide)⟩

/-- TD-SCDMA together with CDMA does not: the type that is set is without it. -/
theorem tdScdma_lost :
    nwTypeOf accessBits (1 <<< 17 ||| 1 <<< 6 : BitVec 32) = .LTE_CMDA_EVDO_GSM_WCDMA ∧
    ¬ ∃ stored reported, RoundTrip accessBits ⟨some ⟨0⟩⟩ (fun serial => ⟨SOLICITED, serial, 0⟩)
      .GSM_WCDMA 1 2 3 (1 <<< 17 ||| 1 <<< 6 : BitVec 32) stored reported := by
  have htype : nwTypeOf accessBits (1 <<< 17 ||| 1 <<< 6 : BitVec 32) =
      .LTE_CMDA_EVDO_GSM_WCDMA := by decide +kernel
  refine ⟨htype, ?_⟩
  rintro ⟨stored, reported, ⟨hset, hget, hcontains, -, -⟩⟩
  rw [exchange_eq rfl (Nat.succ_pos 3)] at hset hget
  have hstored : nwTypeOf accessBits (1 <<< 17 ||| 1 <<< 6 : BitVec 32) = stored :=
    congrArg Prod.fst (Option.some.inj hset)
  have hreported : NetworkResponse.getPreferredNetworkTypeBitmapResponse
      (nwTypeBitmap accessBits stored) = .getPreferredNetworkTypeBitmapResponse reported :=
    congrArg (fun r => r.2.2) (Option.some.inj hget)
  have hwithin := hcontains .tdScdma (by decide)
  rw [← NetworkResponse.getPreferredNetworkTypeBitmapResponse.inj hreported, ← hstored, htype,
    nwTypeBitmap, (apart_bits accessBits).within_joined_iff] at hwithin
  exact absurd hwithin (by decide)

end OppoA37.Hidl
