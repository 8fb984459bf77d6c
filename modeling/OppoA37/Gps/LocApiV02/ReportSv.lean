import OppoA37.Lib.BitMask
import OppoA37.Lib.Block
import OppoA37.Lib.CInt

/-!
# `LocApiV02::reportSv`

The modem reports up to 80 satellites. The first `GPS_MAX_SVS` of them are passed on, with the
numbers that NMEA has for them, and with masks of those that are used in a fix or have data about
orbits. Satellites of other systems are passed over.

But a satellite without a valid system and number is not passed over: it is reported with the number
zero. And the bits for BeiDou, of which there are 37, are made with an `int`. `reportSv_iff` says
that the report is right otherwise.
-/

namespace OppoA37.LocApiV02

open BitMask CInt

variable {F : Type}

/-! ## Reports -/

/-- `GPS_MAX_SVS` -/
def GPS_MAX_SVS : ℕ := 32

/-- `qmiLocSvSystemEnumT_v02` -/
inductive SvSystem where
  | gps
  | galileo
  | sbas
  | compass
  | glonass
  | bds
  | qzss
  | other
  deriving DecidableEq, Repr

/-- `qmiLocSvStatusEnumT_v02` -/
inductive ProcessStatus where
  | idle
  | search
  | track
  | other
  deriving DecidableEq, Repr

/-- What is read of a `qmiLocSvInfoStructT_v02`. -/
structure SvInfo (F : Type) where
  /-- `validMask` -/
  validMask : BitVec 32
  /-- `system` -/
  system : SvSystem
  /-- `gnssSvId` -/
  gnssSvId : UInt16
  /-- `svStatus` -/
  svStatus : ProcessStatus
  /-- `svInfoMask` -/
  svInfoMask : BitVec 8
  /-- `elevation` -/
  elevation : F
  /-- `azimuth` -/
  azimuth : F
  /-- `snr` -/
  snr : F

/-- What is read of a `qmiLocEventGnssSvInfoIndMsgT_v02`. -/
structure SvInfoInd (F : Type) where
  /-- `svList_valid` -/
  svListValid : UInt8
  /-- `svList_len` -/
  svListLen : UInt32
  /-- `svList` -/
  svList : ℕ → SvInfo F

/-- `GpsSvInfo` -/
structure GpsSvInfo (F : Type) where
  /-- `size` -/
  size : ℕ
  /-- `prn` -/
  prn : ℤ
  /-- `snr` -/
  snr : F
  /-- `elevation` -/
  elevation : F
  /-- `azimuth` -/
  azimuth : F

/-- `QcomSvStatus` -/
structure SvStatus (F : Type) where
  /-- `num_svs` -/
  numSvs : ℕ
  /-- `sv_list` -/
  svList : ℕ → GpsSvInfo F
  /-- `ephemeris_mask` -/
  ephemerisMask : BitVec 32
  /-- `almanac_mask` -/
  almanacMask : BitVec 32
  /-- `gps_used_in_fix_mask` -/
  gpsUsedInFixMask : BitVec 32
  /-- `glo_used_in_fix_mask` -/
  gloUsedInFixMask : BitVec 32
  /-- `bds_used_in_fix_mask` -/
  bdsUsedInFixMask : BitVec 64

namespace SvInfo

variable (sv : SvInfo F)

/-- A flag of `validMask`. -/
def valid (flag : BitVec 32) : Bool := sv.validMask &&& flag != 0

/-- The number of the satellite, as an `int`. -/
def id : ℤ := sv.gnssSvId.toNat

/-- `VALID_SYSTEM`, `VALID_GNSS_SVID`, and a number that is not zero -/
def hasId : Bool := sv.valid 0x01 && sv.valid 0x02 && sv.gnssSvId != 0

/-- `VALID_SVINFO_MASK` and `HAS_EPHEMERIS` -/
def hasEphemeris : Bool := sv.valid 0x10 && sv.svInfoMask &&& 0x01 != 0

/-- `VALID_SVINFO_MASK` and `HAS_ALMANAC` -/
def hasAlmanac : Bool := sv.valid 0x10 && sv.svInfoMask &&& 0x02 != 0

/-- `VALID_PROCESS_STATUS` and `eQMI_LOC_SV_STATUS_TRACK_V02` -/
def usedInFix : Bool := sv.valid 0x08 && decide (sv.svStatus = .track)

end SvInfo

/-! ## The loop -/

/-- `mask |= (1 << k)`, if a condition holds -/
def orBitIf {w : ℕ} (cond : Bool) (mask : BitVec w) (k : ℤ) : Option (BitVec w) :=
  if cond then (shiftOne k).map fun bit => mask ||| BitVec.ofInt w bit else some mask

/-- `sizeof(GpsSvInfo)` -/
def sizeofGpsSvInfo : ℕ := 20

namespace SvStatus

/-- The status after `memset` -/
def empty [Zero F] : SvStatus F where
  numSvs := 0
  svList := fun _ => ⟨0, 0, 0, 0, 0⟩
  ephemerisMask := 0
  almanacMask := 0
  gpsUsedInFixMask := 0
  gloUsedInFixMask := 0
  bdsUsedInFixMask := 0

variable (s : SvStatus F) (sv : SvInfo F)

/-- Write to `sv_list[num_svs]`. -/
def write (f : GpsSvInfo F → GpsSvInfo F) : SvStatus F :=
  { s with svList := Function.update s.svList s.numSvs (f (s.svList s.numSvs)) }

/-- The end of a turn; all that is written in a turn goes to the same cell. -/
def next : Option (SvStatus F) :=
  if s.numSvs < GPS_MAX_SVS then
    some { s.write fun e =>
      { e with
        snr := if sv.valid 0x80 then sv.snr else e.snr
        elevation := if sv.valid 0x20 then sv.elevation else e.elevation
        azimuth := if sv.valid 0x40 then sv.azimuth else e.azimuth } with
      numSvs := s.numSvs + 1 }
  else none

/-- A turn of the loop -/
def turn : Option (SvStatus F) :=
  if sv.hasId then
    match sv.system with
    | .gps => do
      let s := s.write fun e => { e with size := sizeofGpsSvInfo, prn := sv.id }
      let ephemerisMask ← orBitIf sv.hasEphemeris s.ephemerisMask (sv.id - 1)
      let almanacMask ← orBitIf sv.hasAlmanac s.almanacMask (sv.id - 1)
      let gpsUsedInFixMask ← orBitIf sv.usedInFix s.gpsUsedInFixMask (sv.id - 1)
      { s with ephemerisMask, almanacMask, gpsUsedInFixMask }.next sv
    | .sbas => (s.write fun e => { e with prn := sv.id + 33 - 120 }).next sv
    | .glonass => do
      let gloUsedInFixMask ← orBitIf sv.usedInFix s.gloUsedInFixMask (sv.id - 1)
      ({ s with gloUsedInFixMask }.write fun e => { e with prn := sv.id + (65 - 1) }).next sv
    | .bds => do
      let bdsUsedInFixMask ← orBitIf sv.usedInFix s.bdsUsedInFixMask (sv.id - 1 - 200)
      ({ s with bdsUsedInFixMask }.write fun e => { e with prn := sv.id }).next sv
    | _ => some s
  else s.next sv

/-- What is reported. -/
def svs : List (GpsSvInfo F) := (List.range s.numSvs).map s.svList

end SvStatus

/-- The satellites that the loop looks at; `num_svs_max` is an `int`. -/
def SvInfoInd.looked (ind : SvInfoInd F) : List (SvInfo F) :=
  if ind.svListValid = 1 then
    (List.range (min (toInt ind.svListLen.toNat) GPS_MAX_SVS).toNat).map ind.svList
  else []

/-- `LocApiV02::reportSv`; undefined after a shift that is, or behind the end of `sv_list`. -/
def reportSv [Zero F] (ind : SvInfoInd F) : Option (SvStatus F) :=
  ind.looked.foldlM SvStatus.turn .empty

/-! ## What is to be reported -/

/-- The first `GPS_MAX_SVS` satellites. -/
def SvInfoInd.first (ind : SvInfoInd F) : List (SvInfo F) :=
  if ind.svListValid = 1 then
    (List.range (min ind.svListLen.toNat GPS_MAX_SVS)).map ind.svList
  else []

namespace SvInfo

variable (sv : SvInfo F)

/-- A satellite with a valid number in a system. -/
def isIn (system : SvSystem) : Bool := sv.hasId && decide (sv.system = system)

/-- The number of a satellite in NMEA, if its system is supported. -/
def nmea : Option ℤ :=
  if sv.hasId then
    match sv.system with
    | .gps => some sv.id
    | .sbas => some (sv.id - 87)
    | .glonass => some (sv.id + 64)
    | .bds => some sv.id
    | _ => none
  else none

/-- What is reported of a satellite with a number in NMEA; only for GPS there is a size. -/
def reported [Zero F] (prn : ℤ) : GpsSvInfo F where
  size := if sv.isIn .gps then sizeofGpsSvInfo else 0
  prn := prn
  snr := if sv.valid 0x80 then sv.snr else 0
  elevation := if sv.valid 0x20 then sv.elevation else 0
  azimuth := if sv.valid 0x40 then sv.azimuth else 0

/-- The number is in the range of its system. -/
def InRange : Prop :=
  sv.hasId = true →
    match sv.system with
    | .gps => 1 ≤ sv.id ∧ sv.id ≤ 32
    | .sbas => 120 ≤ sv.id ∧ sv.id ≤ 151
    | .glonass => 1 ≤ sv.id ∧ sv.id ≤ 32
    | .bds => 201 ≤ sv.id ∧ sv.id ≤ 237
    | _ => True

end SvInfo

/-- The bits of a mask are those of the satellites of a system with a property; the first number of
the system has the first bit. -/
def MaskOf {w : ℕ} (mask : BitVec w) (svs : List (SvInfo F)) (system : SvSystem)
    (has : SvInfo F → Bool) (base : ℤ) : Prop :=
  ∀ k, mask.getLsbD k = true ↔
    ∃ sv ∈ svs, sv.isIn system = true ∧ has sv = true ∧ sv.id = base + k

/-- A report of these satellites is right. -/
structure ReportRight [Zero F] (l : List (SvInfo F)) (s : SvStatus F) : Prop where
  numSvs : s.numSvs ≤ GPS_MAX_SVS
  svs : s.svs = l.filterMap fun sv => sv.nmea.map sv.reported
  ephemeris : MaskOf s.ephemerisMask l .gps SvInfo.hasEphemeris 1
  almanac : MaskOf s.almanacMask l .gps SvInfo.hasAlmanac 1
  gpsUsed : MaskOf s.gpsUsedInFixMask l .gps SvInfo.usedInFix 1
  gloUsed : MaskOf s.gloUsedInFixMask l .glonass SvInfo.usedInFix 1
  bdsUsed : MaskOf s.bdsUsedInFixMask l .bds SvInfo.usedInFix 201

/-! ## Bits -/

/-- The bit that a satellite adds to a mask, with what there is at the upper end. -/
def bitsOf (w : ℕ) (cond : Bool) (k : ℤ) : BitVec w :=
  if cond then BitVec.ofInt w ((shiftOne k).getD 0) else 0

theorem orBitIf_eq_some {w : ℕ} {cond : Bool} {mask mask' : BitVec w} {k : ℤ} :
    orBitIf cond mask k = some mask' ↔
      (cond = true → 0 ≤ k ∧ k < 32) ∧ mask ||| bitsOf w cond k = mask' := by
  cases cond with
  | false => simp [orBitIf, bitsOf]
  | true =>
    simp only [orBitIf, bitsOf, if_true, Option.map_eq_some_iff, forall_const]
    by_cases hk : 0 ≤ k ∧ k < 32
    · obtain ⟨x, hx⟩ : ∃ x, shiftOne k = some x := ⟨_, if_pos hk⟩
      simp only [hx, Option.some.injEq, exists_eq_left', Option.getD_some, and_iff_right hk]
    · have hx : shiftOne k = none := if_neg hk
      simp only [hx, hk, false_and, reduceCtorEq, exists_const]

/-- For a shift by less than 31 it is the bit of that number. -/
theorem getLsbD_bitsOf {w : ℕ} {cond : Bool} {k i : ℕ} (hk : k < 31) (hw : k < w) :
    (bitsOf w cond k).getLsbD i = true ↔ cond = true ∧ i = k := by
  cases cond with
  | false => simp [bitsOf]
  | true =>
    have hbit : BitVec.ofInt w (2 ^ k) = BitVec.twoPow w k := by
      have hcast : (2 : ℤ) ^ k = ((2 ^ k : ℕ) : ℤ) := by norm_cast
      apply BitVec.eq_of_toNat_eq
      rw [BitVec.toNat_twoPow, hcast, BitVec.ofInt_natCast, BitVec.toNat_ofNat]
    simp only [bitsOf, if_true, shiftOne_of_lt hk, Option.getD_some, hbit, BitVec.getLsbD_twoPow]
    simp [hw, eq_comm]

/-- In a mask of 32 bits, the last shift gives the last bit. -/
theorem getLsbD_bitsOf_int {cond : Bool} {k : ℤ} {i : ℕ} (hk : cond = true → 0 ≤ k ∧ k < 32) :
    (bitsOf 32 cond k).getLsbD i = true ↔ cond = true ∧ k = i := by
  cases cond with
  | false => simp [bitsOf]
  | true =>
    obtain ⟨hnonneg, hlt⟩ := hk rfl
    obtain ⟨n, rfl⟩ := Int.eq_ofNat_of_zero_le hnonneg
    rcases Nat.lt_or_ge n 31 with hn | hn
    · rw [getLsbD_bitsOf hn (by omega), and_iff_right rfl, and_iff_right rfl]
      omega
    · obtain rfl : n = 31 := by omega
      have hbit : bitsOf 32 true ((31 : ℕ) : ℤ) = BitVec.twoPow 32 31 := by decide
      rw [hbit, BitVec.getLsbD_twoPow, and_iff_right rfl, decide_eq_true (by omega : 31 < 32),
        Bool.true_and, decide_eq_true_eq]
      omega

/-! ## A turn -/

namespace SvInfo

variable (sv : SvInfo F)

/-- What is made for a satellite, if anything is written. -/
def isCounted : Bool := !sv.hasId || sv.nmea.isSome

/-- The bits that it adds to `ephemeris_mask`. -/
def ephemerisBits : BitVec 32 := bitsOf 32 (sv.isIn .gps && sv.hasEphemeris) (sv.id - 1)

/-- The bits that it adds to `almanac_mask`. -/
def almanacBits : BitVec 32 := bitsOf 32 (sv.isIn .gps && sv.hasAlmanac) (sv.id - 1)

/-- The bits that it adds to `gps_used_in_fix_mask`. -/
def gpsBits : BitVec 32 := bitsOf 32 (sv.isIn .gps && sv.usedInFix) (sv.id - 1)

/-- The bits that it adds to `glo_used_in_fix_mask`. -/
def gloBits : BitVec 32 := bitsOf 32 (sv.isIn .glonass && sv.usedInFix) (sv.id - 1)

/-- The bits that it adds to `bds_used_in_fix_mask`. -/
def bdsBits : BitVec 64 := bitsOf 64 (sv.isIn .bds && sv.usedInFix) (sv.id - 201)

/-- All shifts for it are defined. -/
def ShiftsOk : Prop :=
  ((sv.isIn .gps && sv.hasEphemeris) = true → 0 ≤ sv.id - 1 ∧ sv.id - 1 < 32) ∧
  ((sv.isIn .gps && sv.hasAlmanac) = true → 0 ≤ sv.id - 1 ∧ sv.id - 1 < 32) ∧
  ((sv.isIn .gps && sv.usedInFix) = true → 0 ≤ sv.id - 1 ∧ sv.id - 1 < 32) ∧
  ((sv.isIn .glonass && sv.usedInFix) = true → 0 ≤ sv.id - 1 ∧ sv.id - 1 < 32) ∧
  ((sv.isIn .bds && sv.usedInFix) = true → 0 ≤ sv.id - 201 ∧ sv.id - 201 < 32)

end SvInfo

namespace SvStatus

variable {s s' : SvStatus F} {sv : SvInfo F}

/-- Behind what is reported, all is zero. -/
def Fresh [Zero F] (s : SvStatus F) : Prop := ∀ i, s.numSvs ≤ i → s.svList i = ⟨0, 0, 0, 0, 0⟩

/-- One more is reported. -/
def push (s : SvStatus F) (e : GpsSvInfo F) : SvStatus F :=
  { s with svList := Function.update s.svList s.numSvs e, numSvs := s.numSvs + 1 }

/-- The bits of a satellite are added. -/
def addBits (s : SvStatus F) (sv : SvInfo F) : SvStatus F :=
  { s with
    ephemerisMask := s.ephemerisMask ||| sv.ephemerisBits
    almanacMask := s.almanacMask ||| sv.almanacBits
    gpsUsedInFixMask := s.gpsUsedInFixMask ||| sv.gpsBits
    gloUsedInFixMask := s.gloUsedInFixMask ||| sv.gloBits
    bdsUsedInFixMask := s.bdsUsedInFixMask ||| sv.bdsBits }

theorem svs_push (s : SvStatus F) (e : GpsSvInfo F) : (s.push e).svs = s.svs ++ [e] :=
  Block.map_range_update _ _ _

theorem Fresh.push [Zero F] (h : s.Fresh) (e : GpsSvInfo F) : (s.push e).Fresh := by
  intro i hi
  have hlt : s.numSvs + 1 ≤ i := hi
  have hne : i ≠ s.numSvs := by omega
  exact (Function.update_of_ne hne _ _).trans (h i (by omega))

/-- The end of a turn reports what was written before, with what is measured. -/
theorem next_write_eq_some [Zero F] (h : s.Fresh) {f : GpsSvInfo F → GpsSvInfo F} :
    (s.write f).next sv = some s' ↔ s.numSvs < GPS_MAX_SVS ∧
      s.push { f ⟨0, 0, 0, 0, 0⟩ with
        snr := if sv.valid 0x80 then sv.snr else (f ⟨0, 0, 0, 0, 0⟩).snr
        elevation := if sv.valid 0x20 then sv.elevation else (f ⟨0, 0, 0, 0, 0⟩).elevation
        azimuth := if sv.valid 0x40 then sv.azimuth else (f ⟨0, 0, 0, 0, 0⟩).azimuth } = s' := by
  have hcell : (s.write f).svList s.numSvs = f ⟨0, 0, 0, 0, 0⟩ :=
    (Function.update_self _ _ _).trans (congrArg f (h _ le_rfl))
  rw [next, Option.ite_none_right_eq_some, Option.some.injEq]
  simp only [write, push] at hcell ⊢
  rw [hcell, Function.update_idem]

/-- A satellite that is in none of the systems with masks adds no bits, -/
theorem addBits_of_other (s : SvStatus F) (hgps : sv.isIn .gps = false)
    (hglonass : sv.isIn .glonass = false) (hbds : sv.isIn .bds = false) : s.addBits sv = s := by
  simp [addBits, SvInfo.ephemerisBits, SvInfo.almanacBits, SvInfo.gpsBits, SvInfo.gloBits,
    SvInfo.bdsBits, bitsOf, hgps, hglonass, hbds]

/-- and shifts nothing. -/
theorem shiftsOk_of_other (hgps : sv.isIn .gps = false) (hglonass : sv.isIn .glonass = false)
    (hbds : sv.isIn .bds = false) : sv.ShiftsOk := by
  simp [SvInfo.ShiftsOk, hgps, hglonass, hbds]

/-- **A turn** adds the bits of a satellite, and reports it if it is counted. -/
theorem turn_eq_some [Zero F] (h : s.Fresh) : s.turn sv = some s' ↔ sv.ShiftsOk ∧
    (sv.isCounted = true → s.numSvs < GPS_MAX_SVS) ∧
      (if sv.isCounted then (s.addBits sv).push (sv.reported (sv.nmea.getD 0))
        else s.addBits sv) = s' := by
  cases hid : sv.hasId with
  | false =>
    have hwrite : s.turn sv = (s.write fun e => e).next sv := by
      have hself : (s.write fun e => e) = s := by rw [write, Function.update_eq_self]
      rw [hself, turn, hid]
      rfl
    have hother : ∀ system, sv.isIn system = false := by simp [SvInfo.isIn, hid]
    rw [hwrite, next_write_eq_some h, addBits_of_other s (hother _) (hother _) (hother _),
      and_iff_right (shiftsOk_of_other (hother _) (hother _) (hother _))]
    simp [SvInfo.isCounted, SvInfo.nmea, hid, hother, SvInfo.reported]
  | true =>
    have hin : ∀ system, sv.isIn system = decide (sv.system = system) := by
      simp [SvInfo.isIn, hid]
    cases hsystem : sv.system with
    | gps =>
      have hturn : s.turn sv =
          (orBitIf sv.hasEphemeris s.ephemerisMask (sv.id - 1)).bind fun ephemerisMask =>
            (orBitIf sv.hasAlmanac s.almanacMask (sv.id - 1)).bind fun almanacMask =>
              (orBitIf sv.usedInFix s.gpsUsedInFixMask (sv.id - 1)).bind fun gpsUsedInFixMask =>
                ({ s with ephemerisMask, almanacMask, gpsUsedInFixMask }.write fun e =>
                  { e with size := sizeofGpsSvInfo, prn := sv.id }).next sv := by
        rw [turn, hid, hsystem]
        rfl
      rw [hturn]
      simp only [Option.bind_eq_some_iff, orBitIf_eq_some, and_assoc, exists_and_left,
        exists_eq_left']
      rw [next_write_eq_some]
      · simp [SvInfo.ShiftsOk, SvInfo.isCounted, SvInfo.nmea, SvInfo.isIn, hid, hsystem,
          SvInfo.reported, addBits, SvInfo.ephemerisBits, SvInfo.almanacBits, SvInfo.gpsBits,
          SvInfo.gloBits, SvInfo.bdsBits, bitsOf, and_assoc]
      · exact h
    | sbas =>
      have hwrite : s.turn sv = (s.write fun e => { e with prn := sv.id + 33 - 120 }).next sv := by
        rw [turn, hid, hsystem]
        rfl
      have hprn : sv.id + 33 - 120 = sv.id - 87 := by omega
      rw [hsystem] at hin
      rw [hwrite, hprn, next_write_eq_some h, addBits_of_other s (hin _) (hin _) (hin _),
        and_iff_right (shiftsOk_of_other (hin _) (hin _) (hin _))]
      simp [SvInfo.isCounted, SvInfo.nmea, hid, hsystem, hin, SvInfo.reported]
    | glonass =>
      have hturn : s.turn sv = (orBitIf sv.usedInFix s.gloUsedInFixMask (sv.id - 1)).bind
          fun gloUsedInFixMask => ({ s with gloUsedInFixMask }.write fun e =>
            { e with prn := sv.id + 64 }).next sv := by
        rw [turn, hid, hsystem]
        rfl
      rw [hturn, Option.bind_eq_some_iff]
      simp only [orBitIf_eq_some, and_assoc, exists_and_left, exists_eq_left']
      rw [next_write_eq_some]
      · simp [SvInfo.ShiftsOk, SvInfo.isCounted, SvInfo.nmea, SvInfo.isIn, hid, hsystem,
          SvInfo.reported, addBits, SvInfo.ephemerisBits, SvInfo.almanacBits, SvInfo.gpsBits,
          SvInfo.gloBits, SvInfo.bdsBits, bitsOf]
      · exact h
    | bds =>
      have hturn : s.turn sv = (orBitIf sv.usedInFix s.bdsUsedInFixMask (sv.id - 201)).bind
          fun bdsUsedInFixMask => ({ s with bdsUsedInFixMask }.write fun e =>
            { e with prn := sv.id }).next sv := by
        rw [turn, hid, hsystem, show sv.id - 201 = sv.id - 1 - 200 by omega]
        rfl
      rw [hturn, Option.bind_eq_some_iff]
      simp only [orBitIf_eq_some, and_assoc, exists_and_left, exists_eq_left']
      rw [next_write_eq_some]
      · simp [SvInfo.ShiftsOk, SvInfo.isCounted, SvInfo.nmea, SvInfo.isIn, hid, hsystem,
          SvInfo.reported, addBits, SvInfo.ephemerisBits, SvInfo.almanacBits, SvInfo.gpsBits,
          SvInfo.gloBits, SvInfo.bdsBits, bitsOf]
      · exact h
    | _ =>
      have hturn : s.turn sv = some s := by
        rw [turn, hid, hsystem]
        rfl
      rw [hsystem] at hin
      rw [hturn, addBits_of_other s (hin _) (hin _) (hin _),
        and_iff_right (shiftsOk_of_other (hin _) (hin _) (hin _))]
      simp [SvInfo.isCounted, SvInfo.nmea, hid, hsystem]

theorem fresh_empty [Zero F] : (empty : SvStatus F).Fresh := fun _ _ => rfl

/-- What a loop over some satellites leaves. -/
structure Looped [Zero F] (l : List (SvInfo F)) (s s' : SvStatus F) : Prop where
  numSvs : s'.numSvs = s.numSvs + l.countP SvInfo.isCounted
  svs : s'.svs = s.svs ++ (l.filter SvInfo.isCounted).map fun sv => sv.reported (sv.nmea.getD 0)
  ephemeris : s'.ephemerisMask = s.ephemerisMask ||| union (l.map SvInfo.ephemerisBits)
  almanac : s'.almanacMask = s.almanacMask ||| union (l.map SvInfo.almanacBits)
  gpsUsed : s'.gpsUsedInFixMask = s.gpsUsedInFixMask ||| union (l.map SvInfo.gpsBits)
  gloUsed : s'.gloUsedInFixMask = s.gloUsedInFixMask ||| union (l.map SvInfo.gloBits)
  bdsUsed : s'.bdsUsedInFixMask = s.bdsUsedInFixMask ||| union (l.map SvInfo.bdsBits)
  shiftsOk : ∀ sv ∈ l, sv.ShiftsOk

/-- A turn is a loop over one satellite. -/
theorem looped_of_turn [Zero F] (h : s.Fresh) (hturn : s.turn sv = some s') :
    s'.Fresh ∧ Looped [sv] s s' := by
  obtain ⟨hshifts, -, rfl⟩ := (turn_eq_some h).mp hturn
  cases hcounted : sv.isCounted with
  | true =>
    refine ⟨Fresh.push (s := s.addBits sv) h _, ⟨?_, ?_, ?_, ?_, ?_, ?_, ?_, ?_⟩⟩
    · rw [List.countP_singleton, hcounted]
      rfl
    · rw [List.filter_singleton, hcounted]
      exact svs_push _ _
    all_goals simp [push, addBits, hshifts]
  | false =>
    refine ⟨h, ⟨?_, ?_, ?_, ?_, ?_, ?_, ?_, ?_⟩⟩
    · rw [List.countP_singleton, hcounted]
      rfl
    · rw [List.filter_singleton, hcounted]
      exact (List.append_nil _).symm
    all_goals simp [addBits, hshifts]

theorem Looped.cons [Zero F] {l : List (SvInfo F)} {t : SvStatus F} (h : Looped [sv] s t)
    (h' : Looped l t s') : Looped (sv :: l) s s' := by
  refine ⟨?_, ?_, ?_, ?_, ?_, ?_, ?_, ?_⟩
  · rw [h'.numSvs, h.numSvs, add_assoc, ← List.countP_append, List.singleton_append]
  · rw [h'.svs, h.svs, List.append_assoc, ← List.map_append, ← List.filter_append,
      List.singleton_append]
  · rw [h'.ephemeris, h.ephemeris, List.map_cons, union_cons, BitVec.or_assoc]
    simp
  · rw [h'.almanac, h.almanac, List.map_cons, union_cons, BitVec.or_assoc]
    simp
  · rw [h'.gpsUsed, h.gpsUsed, List.map_cons, union_cons, BitVec.or_assoc]
    simp
  · rw [h'.gloUsed, h.gloUsed, List.map_cons, union_cons, BitVec.or_assoc]
    simp
  · rw [h'.bdsUsed, h.bdsUsed, List.map_cons, union_cons, BitVec.or_assoc]
    simp
  · exact List.forall_mem_cons.mpr ⟨h.shiftsOk sv List.mem_cons_self, h'.shiftsOk⟩

/-- **The loop** reports the satellites that are counted, and adds all bits. -/
theorem looped_of_foldlM [Zero F] {l : List (SvInfo F)} (h : s.Fresh)
    (hrun : l.foldlM turn s = some s') : Looped l s s' := by
  induction l generalizing s with
  | nil =>
    obtain rfl := Option.some.inj hrun
    constructor <;> simp
  | cons sv l ih =>
    obtain ⟨t, hturn, hrest⟩ := Option.bind_eq_some_iff.mp hrun
    obtain ⟨hfresh, hfirst⟩ := looped_of_turn h hturn
    exact hfirst.cons (ih hfresh hrest)

/-- It comes to its end if the shifts are defined and there is room. -/
theorem exists_foldlM [Zero F] {l : List (SvInfo F)} (h : s.Fresh)
    (hshifts : ∀ sv ∈ l, sv.ShiftsOk) (hroom : s.numSvs + l.length ≤ GPS_MAX_SVS) :
    ∃ s', l.foldlM turn s = some s' := by
  induction l generalizing s with
  | nil => exact ⟨s, rfl⟩
  | cons sv l ih =>
    rw [List.length_cons] at hroom
    obtain ⟨t, hturn⟩ : ∃ t, s.turn sv = some t :=
      ⟨_, (turn_eq_some h).mpr ⟨hshifts sv List.mem_cons_self, fun _ => by omega, rfl⟩⟩
    obtain ⟨hfresh, hfirst⟩ := looped_of_turn h hturn
    have hnum := hfirst.numSvs
    have hone := List.countP_le_length (p := SvInfo.isCounted) (l := [sv])
    rw [List.length_singleton] at hone
    obtain ⟨s', hs'⟩ := ih hfresh (fun sv' hsv' => hshifts sv' (List.mem_cons_of_mem _ hsv'))
      (by omega)
    refine ⟨s', ?_⟩
    rw [List.foldlM_cons, hturn]
    exact hs'

end SvStatus

/-! ## When a report is right -/

/-- A satellite has a valid number, and no bit that an `int` does not have. -/
def SvInfo.Passes (sv : SvInfo F) : Prop :=
  sv.hasId = true ∧ (sv.isIn .bds = true → sv.usedInFix = true → sv.id ≤ 231)

section Right

variable {l : List (SvInfo F)}

theorem SvInfo.isIn_iff {sv : SvInfo F} {system : SvSystem} :
    sv.isIn system = true ↔ sv.hasId = true ∧ sv.system = system := by
  rw [isIn, Bool.and_eq_true, decide_eq_true_eq]

/-- A mask that is made of the bits of all satellites. -/
theorem maskOf_union {w : ℕ} {system : SvSystem} {has : SvInfo F → Bool} {base : ℤ}
    {bits : SvInfo F → BitVec w}
    (h : ∀ sv ∈ l, ∀ i : ℕ, (bits sv).getLsbD i = true ↔
      (sv.isIn system && has sv) = true ∧ sv.id - base = i) :
    MaskOf (0 ||| union (l.map bits)) l system has base := by
  intro k
  simp only [BitVec.ofNat_eq_ofNat, BitVec.zero_or, getLsbD_union, List.mem_map,
    exists_exists_and_eq_and]
  refine exists_congr fun sv => and_congr_right fun hsv => ?_
  rw [h sv hsv k, Bool.and_eq_true, and_assoc]
  refine and_congr_right fun _ => and_congr_right fun _ => ?_
  omega

/-- Satellites that pass have shifts that are defined. -/
theorem SvInfo.Passes.shiftsOk {sv : SvInfo F} (h : sv.Passes) (hrange : sv.InRange) :
    sv.ShiftsOk := by
  have hin := hrange h.1
  have hgps : ∀ cond, (sv.isIn .gps && cond) = true → 0 ≤ sv.id - 1 ∧ sv.id - 1 < 32 := by
    intro cond hgps
    rw [Bool.and_eq_true, isIn_iff] at hgps
    simp only [hgps.1.2] at hin
    omega
  refine ⟨hgps _, hgps _, hgps _, fun hglo => ?_, fun hbds => ?_⟩
  · rw [Bool.and_eq_true, isIn_iff] at hglo
    simp only [hglo.1.2] at hin
    omega
  · rw [Bool.and_eq_true] at hbds
    have hle := h.2 hbds.1 hbds.2
    simp only [(isIn_iff.mp hbds.1).2] at hin
    omega

/-- The bit of a satellite that passes is the one for its number. -/
theorem SvInfo.Passes.getLsbD_bdsBits {sv : SvInfo F} (h : sv.Passes) (hrange : sv.InRange)
    (i : ℕ) : sv.bdsBits.getLsbD i = true ↔
      (sv.isIn .bds && sv.usedInFix) = true ∧ sv.id - 201 = i := by
  rw [bdsBits]
  cases hcond : sv.isIn .bds && sv.usedInFix with
  | false => simp [bitsOf]
  | true =>
    have hle : 0 ≤ sv.id - 201 ∧ sv.id - 201 < 31 := by
      rw [Bool.and_eq_true] at hcond
      have hin := hrange h.1
      have hle := h.2 hcond.1 hcond.2
      simp only [(isIn_iff.mp hcond.1).2] at hin
      omega
    obtain ⟨n, hn⟩ := Int.eq_ofNat_of_zero_le hle.1
    rw [hn, getLsbD_bitsOf (by omega) (by omega)]
    refine and_congr_right fun _ => ?_
    omega

/-- Without a valid number there is none in NMEA. -/
theorem SvInfo.nmea_of_not_hasId {sv : SvInfo F} (h : sv.hasId = false) : sv.nmea = none := by
  rw [nmea, h]
  rfl

/-- What is counted has a number in NMEA, or no valid number. -/
theorem countP_isCounted (l : List (SvInfo F)) : l.countP SvInfo.isCounted =
    l.countP (fun sv => sv.nmea.isSome) + l.countP (fun sv => !sv.hasId) := by
  induction l with
  | nil => rfl
  | cons sv l ih =>
    rw [List.countP_cons, List.countP_cons, List.countP_cons, ih, SvInfo.isCounted]
    cases hid : sv.hasId with
    | false =>
      rw [SvInfo.nmea_of_not_hasId hid]
      simp
      omega
    | true =>
      simp
      omega

/-- If all have valid numbers, those with a number in NMEA are counted. -/
theorem map_filter_isCounted [Zero F] (h : ∀ sv ∈ l, sv.hasId = true) :
    (l.filter SvInfo.isCounted).map (fun sv => sv.reported (sv.nmea.getD 0)) =
      l.filterMap fun sv => sv.nmea.map sv.reported := by
  induction l with
  | nil => rfl
  | cons sv l ih =>
    obtain ⟨hid, hrest⟩ := List.forall_mem_cons.mp h
    rw [List.filter_cons, List.filterMap_cons, SvInfo.isCounted, hid]
    cases hnmea : sv.nmea with
    | none => exact ih hrest
    | some prn => simpa [hnmea] using ih hrest

/-- **A loop over satellites** gives a report of them just if all of them pass. -/
theorem loop_right_iff [Zero F] (hlength : l.length ≤ GPS_MAX_SVS)
    (hrange : ∀ sv ∈ l, sv.InRange) :
    (∃ s, l.foldlM SvStatus.turn .empty = some s ∧ ReportRight l s) ↔ ∀ sv ∈ l, sv.Passes := by
  constructor
  · rintro ⟨s, hrun, hright⟩ sv hsv
    have hloop := SvStatus.looped_of_foldlM SvStatus.fresh_empty hrun
    refine ⟨?_, fun hbds hused => ?_⟩
    · -- who is counted for nothing makes the list too long
      have hnum : s.svs.length = l.countP SvInfo.isCounted := by
        rw [SvStatus.svs, List.length_map, List.length_range, hloop.numSvs]
        exact Nat.zero_add _
      have hlist : s.svs.length = l.countP fun sv => sv.nmea.isSome := by
        rw [hright.svs, List.length_filterMap_eq_countP]
        simp only [Option.isSome_map]
      have hzero : l.countP (fun sv => !sv.hasId) = 0 := by
        have hsum := countP_isCounted l
        omega
      simpa using List.countP_eq_zero.mp hzero sv hsv
    · -- the last shift of an `int` gives all bits from there on
      have hshift := (hloop.shiftsOk sv hsv).2.2.2.2 (by rw [hbds, hused]; rfl)
      by_contra hno
      have hid : sv.id - 201 = 31 := by omega
      have hbit : sv.bdsBits.getLsbD 63 = true := by
        rw [SvInfo.bdsBits, hbds, hused, hid]
        decide
      have hmask : s.bdsUsedInFixMask.getLsbD 63 = true := by
        rw [hloop.bdsUsed, BitVec.getLsbD_or, Bool.or_eq_true, getLsbD_union]
        exact Or.inr ⟨_, List.mem_map_of_mem hsv, hbit⟩
      obtain ⟨sv', hsv', hin', -, hid'⟩ := (hright.bdsUsed 63).mp hmask
      obtain ⟨hvalid', hsystem'⟩ := SvInfo.isIn_iff.mp hin'
      have hrange' := hrange sv' hsv' hvalid'
      simp only [hsystem'] at hrange'
      omega
  · intro hall
    have hshifts : ∀ sv ∈ l, sv.ShiftsOk := fun sv hsv => (hall sv hsv).shiftsOk (hrange sv hsv)
    obtain ⟨s, hrun⟩ := SvStatus.exists_foldlM SvStatus.fresh_empty hshifts
      ((Nat.zero_add _).trans_le hlength)
    have hloop := SvStatus.looped_of_foldlM SvStatus.fresh_empty hrun
    refine ⟨s, hrun, ?_, ?_, ?_, ?_, ?_, ?_, ?_⟩
    · rw [hloop.numSvs]
      exact (Nat.zero_add _).trans_le (List.countP_le_length.trans hlength)
    · rw [hloop.svs, map_filter_isCounted fun sv hsv => (hall sv hsv).1]
      rfl
    · rw [hloop.ephemeris]
      exact maskOf_union fun sv hsv i => getLsbD_bitsOf_int (hshifts sv hsv).1
    · rw [hloop.almanac]
      exact maskOf_union fun sv hsv i => getLsbD_bitsOf_int (hshifts sv hsv).2.1
    · rw [hloop.gpsUsed]
      exact maskOf_union fun sv hsv i => getLsbD_bitsOf_int (hshifts sv hsv).2.2.1
    · rw [hloop.gloUsed]
      exact maskOf_union fun sv hsv i => getLsbD_bitsOf_int (hshifts sv hsv).2.2.2.1
    · rw [hloop.bdsUsed]
      exact maskOf_union fun sv hsv i => (hall sv hsv).getLsbD_bdsBits (hrange sv hsv) i

/-- Without a number in NMEA there are no bits. -/
theorem maskOf_zero {w : ℕ} {system : SvSystem} {has : SvInfo F → Bool} {base : ℤ}
    (h : ∀ sv ∈ l, sv.isIn system = false) : MaskOf (0 : BitVec w) l system has base := by
  intro k
  simp only [BitVec.ofNat_eq_ofNat, BitVec.getLsbD_zero, Bool.false_eq_true, false_iff]
  rintro ⟨sv, hsv, hin, -⟩
  rw [h sv hsv] at hin
  exact Bool.false_ne_true hin

/-- An empty report is right if there is nothing to be reported. -/
theorem empty_right_iff [Zero F] : ReportRight l SvStatus.empty ↔ ∀ sv ∈ l, sv.nmea = none := by
  constructor
  · intro hright sv hsv
    have hnil := hright.svs.symm
    simpa using List.filterMap_eq_nil_iff.mp hnil sv hsv
  · intro hall
    have hno (system : SvSystem) (hsystem : ∀ sv : SvInfo F, sv.hasId = true →
        sv.system = system → sv.nmea.isSome = true) : ∀ sv ∈ l, sv.isIn system = false := by
      intro sv hsv
      rw [← Bool.not_eq_true, SvInfo.isIn_iff]
      rintro ⟨hid, hin⟩
      have hsome := hsystem sv hid hin
      rw [hall sv hsv] at hsome
      exact Bool.false_ne_true hsome
    have hgps := hno .gps fun sv hid hin => by simp [SvInfo.nmea, hid, hin]
    have hglo := hno .glonass fun sv hid hin => by simp [SvInfo.nmea, hid, hin]
    have hbds := hno .bds fun sv hid hin => by simp [SvInfo.nmea, hid, hin]
    refine ⟨Nat.zero_le _, ?_, maskOf_zero hgps, maskOf_zero hgps, maskOf_zero hgps,
      maskOf_zero hglo, maskOf_zero hbds⟩
    refine (List.filterMap_eq_nil_iff.mpr fun sv hsv => ?_).symm
    rw [hall sv hsv]
    rfl

/-- The loop looks at the first satellites, unless their number is negative as an `int`. -/
theorem looked_eq (ind : SvInfoInd F) :
    ind.looked = if ind.svListLen.toNat < 2147483648 then ind.first else [] := by
  have hlt := ind.svListLen.toNat_lt
  rw [SvInfoInd.looked, SvInfoInd.first]
  split_ifs with hvalid hlen
  · have hint : toInt ind.svListLen.toNat = ind.svListLen.toNat := by
      rw [toInt_eq_self, IsInt]
      omega
    have hmin : (min (toInt ind.svListLen.toNat) GPS_MAX_SVS).toNat =
        min ind.svListLen.toNat GPS_MAX_SVS := by
      rw [hint]
      omega
    rw [hmin]
  · have hint : toInt ind.svListLen.toNat = (ind.svListLen.toNat : ℤ) - 4294967296 :=
      (toInt_eq_iff_dvd (by rw [IsInt]; omega)).mpr (by omega)
    have hzero : (min (toInt ind.svListLen.toNat) GPS_MAX_SVS).toNat = 0 := by
      rw [hint]
      omega
    rw [hzero]
    rfl
  · rfl
  · rfl

theorem length_first_le (ind : SvInfoInd F) : ind.first.length ≤ GPS_MAX_SVS := by
  rw [SvInfoInd.first]
  split_ifs
  · rw [List.length_map, List.length_range]
    exact Nat.min_le_right _ _
  · exact Nat.zero_le _

/-- **Reports are right** just if all satellites pass; or, if their number is negative as an `int`,
if there is nothing to be reported. -/
theorem reportSv_iff [Zero F] (ind : SvInfoInd F) (hrange : ∀ sv ∈ ind.first, sv.InRange) :
    (∃ s, reportSv ind = some s ∧ ReportRight ind.first s) ↔
      if ind.svListLen.toNat < 2147483648 then ∀ sv ∈ ind.first, sv.Passes
      else ∀ sv ∈ ind.first, sv.nmea = none := by
  rw [reportSv, looked_eq]
  split_ifs with hlen
  · exact loop_right_iff (length_first_le ind) hrange
  · rw [← empty_right_iff]
    constructor
    · rintro ⟨s, hrun, hright⟩
      obtain rfl := Option.some.inj hrun
      exact hright
    · exact fun hright => ⟨_, rfl, hright⟩

end Right

/-- A satellite that was tracked, with nothing measured. -/
def trackedSv (system : SvSystem) (gnssSvId : UInt16) : SvInfo ℤ :=
  ⟨0x0b, system, gnssSvId, .track, 0, 0, 0, 0⟩

/-- A report of three satellites. -/
def threeSvs (sv₀ sv₁ sv₂ : SvInfo ℤ) : SvInfoInd ℤ :=
  ⟨1, 3, fun i => if i = 0 then sv₀ else if i = 1 then sv₁ else sv₂⟩

/-- Satellites of GPS, Galileo and BeiDou. -/
theorem reportSv_tracked : ∃ s,
    reportSv (threeSvs (trackedSv .gps 32) (trackedSv .galileo 301) (trackedSv .bds 231)) =
      some s ∧
    ReportRight
      (threeSvs (trackedSv .gps 32) (trackedSv .galileo 301) (trackedSv .bds 231)).first s := by
  have hfirst :
      (threeSvs (trackedSv .gps 32) (trackedSv .galileo 301) (trackedSv .bds 231)).first =
        [trackedSv .gps 32, trackedSv .galileo 301, trackedSv .bds 231] := rfl
  refine (reportSv_iff _ ?_).mpr ?_
  · rw [hfirst]
    simp only [List.forall_mem_cons, List.not_mem_nil, false_implies, implies_true, and_true]
    have hgps : 1 ≤ (trackedSv .gps 32).id ∧ (trackedSv .gps 32).id ≤ 32 := by decide
    have hbds : 201 ≤ (trackedSv .bds 231).id ∧ (trackedSv .bds 231).id ≤ 237 := by decide
    exact ⟨fun _ => hgps, fun _ => trivial, fun _ => hbds⟩
  · rw [hfirst, if_pos (by decide)]
    simp only [List.forall_mem_cons, SvInfo.Passes]
    decide

/-- A satellite without a valid number between two others. -/
theorem not_reportSv_invalid : ¬ ∃ s,
    reportSv (threeSvs (trackedSv .gps 5) ⟨0, .gps, 7, .track, 0, 0, 0, 0⟩ (trackedSv .gps 9)) =
      some s ∧
    ReportRight (threeSvs (trackedSv .gps 5) ⟨0, .gps, 7, .track, 0, 0, 0, 0⟩
      (trackedSv .gps 9)).first s := by
  rintro ⟨s, hrun, hright⟩
  have hnum : (reportSv (threeSvs (trackedSv .gps 5) ⟨0, .gps, 7, .track, 0, 0, 0, 0⟩
      (trackedSv .gps 9))).map SvStatus.numSvs = some 3 := by decide
  rw [hrun] at hnum
  have hlength := congrArg List.length hright.svs
  rw [SvStatus.svs, List.length_map, List.length_range, Option.some.inj hnum] at hlength
  exact absurd hlength (by decide)

end OppoA37.LocApiV02
