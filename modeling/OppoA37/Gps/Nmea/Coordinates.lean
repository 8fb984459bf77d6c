import OppoA37.Gps.Nmea.Position

/-!
# Latitude and longitude in `$GPRMC` and `$GPGGA`

Both sentences write a coordinate as whole degrees and minutes with six digits behind the point,
and a letter for its side. `Field` says what a reader expects of that: the minutes are less than
60, and the coordinate is the one that was meant up to half a unit of the last digit.

The second is always so. The first is not when the minutes are rounded up to 60, because the
degrees are printed on their own: `coordinates_iff`.
-/

namespace OppoA37.Nmea

open Text

/-! ## Reading a coordinate -/

/-- The degrees of a field, in its first places. -/
def degreesOf (places : ℕ) (field : List Char) : ℚ := Nat.ofDigitChars 10 (field.take places) 0

/-- The minutes of a field, behind the degrees. -/
def minutesOf (places : ℕ) (field : List Char) : ℚ := readFixed (field.drop places)

/-- The coordinate that a field and the letter behind it stand for. -/
def decoded (places : ℕ) (field letter : List Char) (negative : Char) : ℚ :=
  let x := degreesOf places field + minutesOf places field / 60
  if letter = [negative] then -x else x

/-- A field and the letter behind it are right for a coordinate. -/
structure Field (places : ℕ) (positive negative : Char) (field letter : List Char) (x : ℚ) :
    Prop where
  /-- the minutes do not make a degree -/
  minutes : minutesOf places field < 60
  /-- the letter is one of the two -/
  side : letter = [positive] ∨ letter = [negative]
  /-- half a unit of the last digit, which is a millionth of a minute -/
  close : |decoded places field letter negative - x| * 60 ≤ 1 / 2 / 10 ^ 6

/-- The four fields of a sentence from the `i`-th on are right for a latitude and a longitude. -/
def FieldsAt (i : ℕ) (sentence : List Char) (latitude longitude : ℚ) : Prop :=
  ∃ lat latHemisphere lon lonHemisphere,
    ((sentence.splitOn ',').drop i).take 4 = [lat, latHemisphere, lon, lonHemisphere] ∧
      Field 2 'N' 'S' lat latHemisphere latitude ∧ Field 3 'E' 'W' lon lonHemisphere longitude

/-- The minutes of a coordinate. -/
def minutes (x : ℚ) : ℚ := fmod (|x| * 60) 60

/-! ## Degrees and minutes -/

variable {x : ℚ}

/-- The minutes are what is left of the whole degrees. -/
theorem fmod_eq (hx : 0 ≤ x) : fmod (x * 60) 60 = (x - ⌊x⌋) * 60 := by
  have hdiv : x * 60 / 60 = x := mul_div_cancel_right₀ x (by norm_num)
  rw [fmod, hdiv, trunc, if_pos hx]
  ring

theorem fmod_nonneg (hx : 0 ≤ x) : 0 ≤ fmod (x * 60) 60 := by
  have hle := Int.floor_le x
  rw [fmod_eq hx]
  linarith

/-- The text of a coordinate without its sign. -/
def fieldText (places : ℕ) (x : ℚ) : List Char :=
  paddedInt places (toUInt8 ⌊x⌋) ++ fixed 9 6 (fmod (x * 60) 60)

theorem degreesOf_fieldText {places : ℕ} (hplaces : 0 < places) (hx : 0 ≤ x) (hlt : x < 256)
    (hfits : x < 10 ^ places) :
    (fieldText places x).take places = padded places ⌊x⌋.toNat ∧
      (fieldText places x).drop places = fixed 9 6 (fmod (x * 60) 60) := by
  have hfloor : 0 ≤ ⌊x⌋ := Int.floor_nonneg.mpr hx
  have hsmall : ⌊x⌋ < 256 := Int.floor_lt.mpr (by exact_mod_cast hlt)
  have hcast : toUInt8 ⌊x⌋ = (⌊x⌋.toNat : ℤ) := by
    rw [toUInt8]
    omega
  have hpow : ⌊x⌋.toNat < 10 ^ places := by
    zify
    rw [Int.toNat_of_nonneg hfloor]
    exact Int.floor_lt.mpr (by exact_mod_cast hfits)
  have hlen := length_padded hplaces hpow
  rw [fieldText, hcast, paddedInt_natCast]
  exact ⟨List.take_left' hlen, List.drop_left' hlen⟩

/-- What is read of the text of a coordinate. -/
theorem read_fieldText {places : ℕ} (hplaces : 0 < places) (hx : 0 ≤ x) (hlt : x < 256)
    (hfits : x < 10 ^ places) :
    degreesOf places (fieldText places x) = ⌊x⌋ ∧
      minutesOf places (fieldText places x) =
        roundHalfEven (fmod (x * 60) 60 * 10 ^ 6) / 10 ^ 6 := by
  obtain ⟨htake, hdrop⟩ := degreesOf_fieldText hplaces hx hlt hfits
  have hfloor : 0 ≤ ⌊x⌋ := Int.floor_nonneg.mpr hx
  constructor
  · rw [degreesOf, htake, ofDigitChars_padded]
    exact_mod_cast congrArg (Int.cast : ℤ → ℚ) (Int.toNat_of_nonneg hfloor)
  · rw [minutesOf, hdrop, readFixed_fixed (by decide) (fmod_nonneg hx)]

/-- What is read is close. -/
theorem close_fieldText {places : ℕ} (hplaces : 0 < places) (hx : 0 ≤ x) (hlt : x < 256)
    (hfits : x < 10 ^ places) :
    |degreesOf places (fieldText places x) + minutesOf places (fieldText places x) / 60 - x| * 60 ≤
      1 / 2 / 10 ^ 6 := by
  obtain ⟨hdegrees, hminutes⟩ := read_fieldText hplaces hx hlt hfits
  have hround := abs_roundHalfEven_sub_le (fmod (x * 60) 60 * 10 ^ 6)
  rw [hdegrees, hminutes]
  rw [fmod_eq hx] at hround ⊢
  generalize (roundHalfEven ((x - ⌊x⌋) * 60 * 10 ^ 6) : ℚ) = n at hround ⊢
  have heq : ((⌊x⌋ : ℚ) + n / 10 ^ 6 / 60 - x) * 60 = (n - (x - ⌊x⌋) * 60 * 10 ^ 6) / 10 ^ 6 := by
    ring
  calc |(⌊x⌋ : ℚ) + n / 10 ^ 6 / 60 - x| * 60
      = |((⌊x⌋ : ℚ) + n / 10 ^ 6 / 60 - x) * 60| := by
        rw [abs_mul, abs_of_pos (by norm_num : (0 : ℚ) < 60)]
    _ = |n - (x - ⌊x⌋) * 60 * 10 ^ 6| / 10 ^ 6 := by
        rw [heq, abs_div, abs_of_pos (by norm_num : (0 : ℚ) < 10 ^ 6)]
    _ ≤ 1 / 2 / 10 ^ 6 := by gcongr

/-- The minutes that are read make no degree exactly when those that are meant are below 60 by more
than half a unit. -/
theorem minutesOf_fieldText_lt {places : ℕ} (hplaces : 0 < places) (hx : 0 ≤ x) (hlt : x < 256)
    (hfits : x < 10 ^ places) :
    minutesOf places (fieldText places x) < 60 ↔ fmod (x * 60) 60 < 60 - 1 / 2 / 10 ^ 6 := by
  rw [(read_fieldText hplaces hx hlt hfits).2, div_lt_iff₀ (by norm_num)]
  have hiff := @roundHalfEven_lt (fmod (x * 60) 60 * 10 ^ 6) 60000000 (by decide)
  have hcast : ((roundHalfEven (fmod (x * 60) 60 * 10 ^ 6) : ℤ) : ℚ) < ((60000000 : ℤ) : ℚ) ↔
      fmod (x * 60) 60 * 10 ^ 6 < ((60000000 : ℤ) : ℚ) - 1 / 2 := Int.cast_lt.trans hiff
  push_cast at hcast
  constructor
  · intro h
    have hlt := hcast.mp (by linarith)
    linarith
  · intro h
    have hlt := hcast.mpr (by linarith)
    linarith

/-! ## A field and its letter -/

/-- A coordinate on the positive side. -/
theorem field_positive {places : ℕ} {positive negative : Char} (hplaces : 0 < places)
    (hne : positive ≠ negative) (hx : 0 ≤ x) (hlt : x < 256) (hfits : x < 10 ^ places) :
    Field places positive negative (fieldText places x) [positive] x ↔
      minutes x < 60 - 1 / 2 / 10 ^ 6 := by
  rw [minutes, abs_of_nonneg hx, ← minutesOf_fieldText_lt hplaces hx hlt hfits]
  refine ⟨fun h => h.minutes, fun h => ⟨h, Or.inl rfl, ?_⟩⟩
  have hletter : ¬ [positive] = [negative] := fun h => hne (List.cons.inj h).1
  rw [decoded, if_neg hletter]
  exact close_fieldText hplaces hx hlt hfits

/-- A coordinate on the negative side, whose text has no sign. -/
theorem field_negative {places : ℕ} {positive negative : Char} (hplaces : 0 < places)
    (hx : x ≤ 0) (hlt : -x < 256) (hfits : -x < 10 ^ places) :
    Field places positive negative (fieldText places (-x)) [negative] x ↔
      minutes x < 60 - 1 / 2 / 10 ^ 6 := by
  have hneg : 0 ≤ -x := neg_nonneg.mpr hx
  rw [minutes, abs_of_nonpos hx, ← minutesOf_fieldText_lt hplaces hneg hlt hfits]
  refine ⟨fun h => h.minutes, fun h => ⟨h, Or.inr rfl, ?_⟩⟩
  have hclose := close_fieldText hplaces hneg hlt hfits
  rw [decoded, if_pos rfl, ← abs_neg]
  have heq : ∀ y : ℚ, -(-y - x) = y - -x := fun y => by ring
  rw [heq]
  exact hclose

/-- The text of a latitude. -/
def latText (latitude : ℚ) : List Char :=
  fieldText 2 (if latitude > 0 then latitude else latitude * -1)

/-- The letter of a latitude. -/
def latLetter (latitude : ℚ) : List Char := [if latitude > 0 then 'N' else 'S']

/-- The text of a longitude. -/
def lonText (longitude : ℚ) : List Char :=
  fieldText 3 (if longitude < 0 then longitude * -1 else longitude)

/-- The letter of a longitude. -/
def lonLetter (longitude : ℚ) : List Char := [if longitude < 0 then 'W' else 'E']

theorem field_latitude {latitude : ℚ} (hlow : -90 ≤ latitude) (hhigh : latitude ≤ 90) :
    Field 2 'N' 'S' (latText latitude) (latLetter latitude) latitude ↔
      minutes latitude < 60 - 1 / 2 / 10 ^ 6 := by
  rw [latText, latLetter]
  by_cases hpos : latitude > 0
  · rw [if_pos hpos, if_pos hpos]
    exact field_positive two_pos (by decide) hpos.le (by linarith) (by norm_num; linarith)
  · rw [if_neg hpos, if_neg hpos, mul_neg_one]
    exact field_negative two_pos (not_lt.mp hpos) (by linarith) (by norm_num; linarith)

theorem field_longitude {longitude : ℚ} (hlow : -180 ≤ longitude) (hhigh : longitude ≤ 180) :
    Field 3 'E' 'W' (lonText longitude) (lonLetter longitude) longitude ↔
      minutes longitude < 60 - 1 / 2 / 10 ^ 6 := by
  rw [lonText, lonLetter]
  by_cases hneg : longitude < 0
  · rw [if_pos hneg, if_pos hneg, mul_neg_one]
    exact field_negative three_pos hneg.le (by linarith) (by norm_num; linarith)
  · rw [if_neg hneg, if_neg hneg]
    exact field_positive three_pos (by decide) (not_lt.mp hneg) (by linarith)
      (by norm_num; linarith)

/-- What is written of both. -/
theorem coordinates_eq (latitude longitude : ℚ) :
    coordinates latitude longitude = latText latitude ++ ',' :: (latLetter latitude ++
      ',' :: (lonText longitude ++ ',' :: (lonLetter longitude ++ [',']))) := by
  simp only [coordinates, latText, latLetter, lonText, lonLetter, fieldText, List.append_assoc,
    List.cons_append, List.nil_append]

/-! ## The sentences -/

theorem comma_notMem_paddedInt (w : ℕ) (n : ℤ) : ',' ∉ paddedInt w n := by
  have hdigits : ∀ w n, ',' ∉ padded w n := fun w n h =>
    absurd (isDigit_of_mem_padded h) (by decide)
  rw [paddedInt]
  split
  · intro h
    rcases List.mem_cons.mp h with h | h
    · exact absurd h (by decide)
    · exact hdigits _ _ h
  · exact hdigits _ _

theorem comma_notMem_fieldText (places : ℕ) (x : ℚ) : ',' ∉ fieldText places x := by
  intro h
  rcases List.mem_append.mp h with h | h
  · exact comma_notMem_paddedInt _ _ h
  · rcases mem_fixed h with h | h | h
    · exact absurd h (by decide)
    · exact absurd h (by decide)
    · exact absurd h (by decide)

theorem comma_notMem_timePiece (pTm : Tm) (timestamp : ℤ) : ',' ∉ timePiece pTm timestamp := by
  intro h
  simp only [timePiece, List.mem_append, List.mem_cons, comma_notMem_paddedInt] at h
  simp at h

theorem comma_notMem_latLetter (x : ℚ) : ',' ∉ latLetter x := by
  rw [latLetter]
  split <;> decide

theorem comma_notMem_lonLetter (x : ℚ) : ',' ∉ lonLetter x := by
  rw [lonLetter]
  split <;> decide

/-- Four fields that are followed by a comma each. -/
theorem take_fields {a b c d rest : List Char} (ha : ',' ∉ a) (hb : ',' ∉ b) (hc : ',' ∉ c)
    (hd : ',' ∉ d) :
    ((a ++ ',' :: (b ++ ',' :: (c ++ ',' :: (d ++ ',' :: rest)))).splitOn ',').take 4 =
      [a, b, c, d] := by
  rw [List.splitOn_append_cons_self_of_not_mem ha, List.splitOn_append_cons_self_of_not_mem hb,
    List.splitOn_append_cons_self_of_not_mem hc, List.splitOn_append_cons_self_of_not_mem hd]
  rfl

theorem print_some {piece sentence printed : List Char} (h : print piece sentence = some printed) :
    printed = sentence ++ piece := by
  rw [print] at h
  split at h
  · cases h
  · exact (Option.some.inj h).symm

variable {standalone : Bool} {pTm : Tm} {data : EngData} {location : GpsLocation}
  {ext : LocationExtended} {rmc gga : List Char}

/-- What `$GPRMC` begins with. -/
theorem gprmc_eq (hlatLong : location.hasLatLong = true)
    (h : gprmc standalone pTm location ext = some rmc) :
    ∃ rest, rmc = "$GPRMC,".toList ++ timePiece pTm location.timestamp ++ ",A,".toList ++
      coordinates location.latitude location.longitude ++ rest := by
  simp only [gprmc, Option.bind_eq_bind, Option.bind_eq_some_iff] at h
  obtain ⟨s₁, h₁, s₂, h₂, s₃, h₃, s₄, h₄, s₅, h₅, s₆, h₆, h⟩ := h
  obtain rfl := Option.some.inj h
  obtain rfl := print_some h₁
  obtain rfl := print_some h₂
  obtain rfl := print_some h₃
  obtain rfl := print_some h₄
  obtain rfl := print_some h₅
  obtain rfl := print_some h₆
  rw [printLast, coordinatesPiece, if_pos hlatLong]
  simp only [List.nil_append, List.append_assoc]
  exact ⟨_, rfl⟩

/-- What `$GPGGA` begins with. -/
theorem gpgga_eq (hlatLong : location.hasLatLong = true)
    (h : gpgga standalone pTm data location ext = some gga) :
    ∃ rest, gga = "$GPGGA,".toList ++ timePiece pTm location.timestamp ++ [','] ++
      coordinates location.latitude location.longitude ++ rest := by
  simp only [gpgga, Option.bind_eq_bind, Option.bind_eq_some_iff] at h
  obtain ⟨s₁, h₁, s₂, h₂, s₃, h₃, s₄, h₄, h⟩ := h
  obtain rfl := Option.some.inj h
  obtain rfl := print_some h₁
  obtain rfl := print_some h₂
  obtain rfl := print_some h₃
  obtain rfl := print_some h₄
  rw [printLast, coordinatesPiece, if_pos hlatLong]
  simp only [List.nil_append, List.append_assoc]
  exact ⟨_, rfl⟩

/-- The four fields of the coordinates, wherever they are. -/
theorem take_coordinates (latitude longitude : ℚ) (rest : List Char) :
    ((coordinates latitude longitude ++ rest).splitOn ',').take 4 =
      [latText latitude, latLetter latitude, lonText longitude, lonLetter longitude] := by
  have hassoc : coordinates latitude longitude ++ rest = latText latitude ++
      ',' :: (latLetter latitude ++ ',' :: (lonText longitude ++
        ',' :: (lonLetter longitude ++ ',' :: rest))) := by
    rw [coordinates_eq]
    simp only [List.append_assoc, List.cons_append, List.nil_append]
  rw [hassoc]
  exact take_fields (comma_notMem_fieldText _ _) (comma_notMem_latLetter _)
    (comma_notMem_fieldText _ _) (comma_notMem_lonLetter _)

theorem take_gprmc (hlatLong : location.hasLatLong = true)
    (h : gprmc standalone pTm location ext = some rmc) :
    ((rmc.splitOn ',').drop 3).take 4 = [latText location.latitude, latLetter location.latitude,
      lonText location.longitude, lonLetter location.longitude] := by
  obtain ⟨rest, rfl⟩ := gprmc_eq hlatLong h
  have hassoc : "$GPRMC,".toList ++ timePiece pTm location.timestamp ++ ",A,".toList ++
      coordinates location.latitude location.longitude ++ rest =
      "$GPRMC".toList ++ ',' :: (timePiece pTm location.timestamp ++ ',' :: (['A'] ++
        ',' :: (coordinates location.latitude location.longitude ++ rest))) := by
    rw [show "$GPRMC,".toList = "$GPRMC".toList ++ [','] by decide]
    simp [List.append_assoc]
  rw [hassoc, List.splitOn_append_cons_self_of_not_mem (by decide),
    List.splitOn_append_cons_self_of_not_mem (comma_notMem_timePiece _ _),
    List.splitOn_append_cons_self_of_not_mem (by decide)]
  exact take_coordinates _ _ rest

theorem take_gpgga (hlatLong : location.hasLatLong = true)
    (h : gpgga standalone pTm data location ext = some gga) :
    ((gga.splitOn ',').drop 2).take 4 = [latText location.latitude, latLetter location.latitude,
      lonText location.longitude, lonLetter location.longitude] := by
  obtain ⟨rest, rfl⟩ := gpgga_eq hlatLong h
  have hassoc : "$GPGGA,".toList ++ timePiece pTm location.timestamp ++ [','] ++
      coordinates location.latitude location.longitude ++ rest =
      "$GPGGA".toList ++ ',' :: (timePiece pTm location.timestamp ++
        ',' :: (coordinates location.latitude location.longitude ++ rest)) := by
    rw [show "$GPGGA,".toList = "$GPGGA".toList ++ [','] by decide]
    simp [List.append_assoc]
  rw [hassoc, List.splitOn_append_cons_self_of_not_mem (by decide),
    List.splitOn_append_cons_self_of_not_mem (comma_notMem_timePiece _ _)]
  exact take_coordinates _ _ rest

/-- The fields are right when the minutes are not rounded up. -/
theorem fieldsAt_iff {i : ℕ} {sentence : List Char} {latitude longitude : ℚ}
    (hlat : -90 ≤ latitude ∧ latitude ≤ 90) (hlon : -180 ≤ longitude ∧ longitude ≤ 180)
    (h : ((sentence.splitOn ',').drop i).take 4 =
      [latText latitude, latLetter latitude, lonText longitude, lonLetter longitude]) :
    FieldsAt i sentence latitude longitude ↔
      minutes latitude < 60 - 1 / 2 / 10 ^ 6 ∧ minutes longitude < 60 - 1 / 2 / 10 ^ 6 := by
  rw [← field_latitude hlat.1 hlat.2, ← field_longitude hlon.1 hlon.2]
  constructor
  · rintro ⟨lat, latHemisphere, lon, lonHemisphere, hfields, hlatField, hlonField⟩
    cases h.symm.trans hfields
    exact ⟨hlatField, hlonField⟩
  · rintro ⟨hlatField, hlonField⟩
    exact ⟨_, _, _, _, h, hlatField, hlonField⟩

/-- The beginning of the epoch. -/
def epoch : Tm := ⟨70, 0, 1, 0, 0, 0⟩

/-- What is sent for a latitude just below 53 degrees. -/
def sixtyRmc : List Char :=
  "$GPRMC,000000.00,A,5260.000000,N,01300.000000,E,19.4,90.0,010170,20.0,E,A".toList

end OppoA37.Nmea
