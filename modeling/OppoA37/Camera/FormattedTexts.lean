import OppoA37.Camera.ZoomRatios

/-!
# The texts of a capture request

`camera3_process_capture_request` prints numbers of the settings to arrays on the stack, which were
made for the numbers that are expected. Some are brought into a range before, others are printed as
they are; only the exposure time is printed with `snprintf`, which stops at the end of its array.
The regions for focus and metering are scaled first, with arithmetic that may overflow.

`requestRight_iff` says for which settings all texts fit and all areas are right. `RequestFits` has
a condition for each text that may be too long, and one for the regions. The texts for white
balance, zoom and quality always fit, and so do the areas, which have no character to spare.
-/

namespace OppoA37.Camera

open CInt

/-! ## Floating numbers -/

/-- A `float`, as `printf` sees it. -/
inductive FloatValue where
  | finite (negative : Bool) (magnitude : ℚ≥0)
  | infinite (negative : Bool)
  | nan (negative : Bool)

/-- A sign. -/
def signOf (negative : Bool) : List Char := if negative then ['-'] else []

/-- `%.df` of `printf` -/
def FloatValue.printed (d : ℕ) : FloatValue → List Char
  | finite negative magnitude => signOf negative ++ Text.fixed 0 d magnitude
  | infinite negative => signOf negative ++ "inf".toList
  | nan negative => signOf negative ++ "nan".toList

/-- `std::clamp(gain, 1.0f, 4.0f)`: what is no number stays so. -/
def FloatValue.clampGain : FloatValue → FloatValue
  | finite false magnitude => finite false (min 4 (max 1 magnitude))
  | finite true _ => finite false 1
  | infinite false => finite false 4
  | infinite true => finite false 1
  | nan negative => nan negative

/-! ## What is printed -/

/-- `r_gain`, `g_gain` and `b_gain` before they are clamped, whatever came out of the arithmetic. -/
structure Gains where
  /-- `r_gain` -/
  r : FloatValue
  /-- `g_gain` -/
  g : FloatValue
  /-- `b_gain` -/
  b : FloatValue

/-- `manual_awb_value_str` -/
def Gains.str (gains : Gains) : List Char :=
  gains.r.clampGain.printed 4 ++ ',' :: gains.g.clampGain.printed 4 ++
    ',' :: gains.b.clampGain.printed 4

/-- The settings, with the numbers that are printed with a point. -/
structure PrintedSettings where
  /-- the settings -/
  cm : Settings
  /-- the gains -/
  gains : Gains
  /-- `focus_distance` -/
  focusDistance : FloatValue
  /-- the gains are those of the settings -/
  gains_eq : ∀ str ∈ cm.colorCorrectionGains, str.toList = gains.str
  /-- the qualities are bytes -/
  quality_lt : ∀ q, q ∈ cm.thumbnailQuality ∨ q ∈ cm.jpegQuality → q < 256

/-- What is known of a camera that has a sensor, with the zoom ratios that their array holds. -/
structure CameraInfo extends StaticMetadata where
  /-- `sensor_width` is positive -/
  sensorWidth_pos : 0 < sensorWidth
  /-- `sensor_height` is positive -/
  sensorHeight_pos : 0 < sensorHeight
  /-- there are 256 ratios at most -/
  zoomRatios_le : zoomRatios.length ≤ 256

/-- A text with the size of the array that it is printed to. -/
structure FormattedText where
  /-- the size of the array -/
  size : ℕ
  /-- the text, without the end -/
  text : List Char

/-- The text fits, with its end. -/
def FormattedText.Fits (t : FormattedText) : Prop := t.text.length < t.size

/-- `snprintf` leaves out what does not fit. -/
def snprintf (size : ℕ) (text : List Char) : FormattedText := ⟨size, text.take (size - 1)⟩

/-- `sprintf` -/
def sprintf (size : ℕ) (text : List Char) : FormattedText := ⟨size, text⟩

section Texts

variable (p : PrintedSettings) (info : CameraInfo)

/-- `exposure_compensation_str` -/
def exposureCompensationTexts : List FormattedText :=
  match p.cm.exposureCompensation with
  | none => []
  | some value => if p.cm.useScene then [] else [sprintf 4 (toString value).toList]

/-- `manual_awb_value_str` -/
def awbTexts : List FormattedText :=
  if p.cm.manualWb then [sprintf 32 p.gains.str] else []

/-- `exposure_time_str`, `iso_str` and `exact_iso_str` -/
def exposureTexts : List FormattedText :=
  match p.cm.aeModeOr, p.cm.sensitivity, p.cm.exposureTime with
  | .off, some sensitivity, some exposureTime =>
    let exposureTime := limit info.exposureTimeRange exposureTime
    let iso := limit info.sensitivityRange sensitivity
    snprintf 20 (Text.fixed 0 6 ((exposureTime : ℚ) / 1000000)) ::
      sprintf 8 (isoStr iso).toList ::
        if iso < 1251 then [sprintf 8 (toString iso).toList] else []
  | _, _, _ => []

/-- `zoom_idx` -/
def zoomTexts : List FormattedText :=
  match p.cm.cropWidth with
  | none => []
  | some width => [sprintf 5 (toString (hal3ToHal1Zoom info.toStaticMetadata width)).toList]

/-- A coordinate that is scaled; `none` if that overflows. -/
def scaled (x sensor : ℤ) : Option ℤ := do
  let product ← CInt.mul x 2000
  let difference ← CInt.sub (product.tdiv sensor) 1000
  return clamp difference (-999) 999

/-- The area of a region: nothing is scaled when there is nothing. -/
def areaOf (region : Region) : Option Region :=
  if region = ⟨0, 0, 0, 0, 0⟩ then some region
  else do
    let left ← scaled region.left info.sensorWidth
    let top ← scaled region.top info.sensorHeight
    let right ← scaled region.right info.sensorWidth
    let bottom ← scaled region.bottom info.sensorHeight
    return ⟨left, top, right, bottom, clamp region.weight 1 1000⟩

/-- How an area is sent. -/
def Region.str (area : Region) : String :=
  s!"({area.left}, {area.top}, {area.right}, {area.bottom}, {area.weight})"

/-- `focus_areas_str` and `ae_areas_str` -/
def areaTexts : Option Region → Option (List FormattedText)
  | none => some []
  | some region =>
    (areaOf info region).map fun area =>
      if region = ⟨0, 0, 0, 0, 0⟩ then [] else [sprintf 31 area.str.toList]

/-- `jpeg_thumbnail_size_str`, two arrays -/
def thumbnailTexts : List FormattedText :=
  match p.cm.thumbnailSize with
  | none => []
  | some size => [sprintf 5 (unsigned size.1).toList, sprintf 5 (unsigned size.2).toList]

/-- `jpeg_thumbnail_quality_str` and `jpeg_quality_str` -/
def qualityTexts : Option ℕ → List FormattedText
  | none => []
  | some quality => [sprintf 4 (toString quality).toList]

/-- `orientation_str` -/
def orientationTexts : List FormattedText :=
  match p.cm.jpegOrientation with
  | none => []
  | some orientation => [sprintf 4 (unsigned orientation).toList]

/-- `focus_distance_str` -/
def focusDistanceTexts : List FormattedText :=
  match p.cm.manualFocus, p.cm.focusDistance with
  | true, some _ => [sprintf 5 (p.focusDistance.printed 1)]
  | _, _ => []

/-- All texts, in order; `none` if the arithmetic of an area overflows. -/
def formattedTexts : Option (List FormattedText) := do
  let focusAreas ← areaTexts info p.cm.afRegions
  let meteringAreas ← areaTexts info p.cm.aeRegions
  return exposureCompensationTexts p ++ awbTexts p ++ exposureTexts p info ++ zoomTexts p info ++
    focusAreas ++ meteringAreas ++ thumbnailTexts p ++ qualityTexts p.cm.thumbnailQuality ++
    qualityTexts p.cm.jpegQuality ++ orientationTexts p ++ focusDistanceTexts p

end Texts

/-! ## What ought to be -/

/-- An area is within the bounds, and its edges are in order if those of the region are. -/
structure AreaRight (region area : Region) : Prop where
  within : ∀ x ∈ [area.left, area.top, area.right, area.bottom], -1000 ≤ x ∧ x ≤ 1000
  horizontal : region.left ≤ region.right → area.left ≤ area.right
  vertical : region.top ≤ region.bottom → area.top ≤ area.bottom

/-- All texts fit, and the areas that are sent are right. -/
structure RequestRight (p : PrintedSettings) (info : CameraInfo) : Prop where
  fits : ∃ texts, formattedTexts p info = some texts ∧ ∀ t ∈ texts, t.Fits
  areas : ∀ region, region ∈ p.cm.afRegions ∨ region ∈ p.cm.aeRegions →
    ∃ area, areaOf info region = some area ∧
      areasStr info.toStaticMetadata region = area.str ∧ AreaRight region area

/-- A coordinate that can be multiplied. -/
def Scalable (x : ℤ) : Prop := -1073742 < x ∧ x < 1073742

/-- A focus distance with few digits. -/
def FloatValue.Short : FloatValue → Prop
  | finite false magnitude => (magnitude : ℚ) < 9995 / 100
  | finite true magnitude => (magnitude : ℚ) < 995 / 100
  | infinite _ => True
  | nan _ => True

/-- The numbers are small enough. -/
structure RequestFits (p : PrintedSettings) (info : CameraInfo) : Prop where
  exposureCompensation : p.cm.useScene = false →
    ∀ value ∈ p.cm.exposureCompensation, -100 < value ∧ value < 1000
  iso : p.cm.aeModeOr = .off → ∀ sensitivity ∈ p.cm.sensitivity, p.cm.exposureTime.isSome →
    -1000000 < limit info.sensitivityRange sensitivity
  regions : ∀ region, region ∈ p.cm.afRegions ∨ region ∈ p.cm.aeRegions →
    region ≠ ⟨0, 0, 0, 0, 0⟩ → ∀ x ∈ [region.left, region.top, region.right, region.bottom],
      Scalable x
  thumbnailSize : ∀ size ∈ p.cm.thumbnailSize,
    size.1 % 4294967296 < 10000 ∧ size.2 % 4294967296 < 10000
  jpegOrientation : ∀ orientation ∈ p.cm.jpegOrientation, orientation % 4294967296 < 1000
  focusDistance : p.cm.manualFocus = true → p.cm.focusDistance.isSome → p.focusDistance.Short

/-! ## Areas -/

section Areas

variable {info : CameraInfo} {region area : Region} {x y sensor : ℤ}

/-- A product that fits leaves room for the difference. -/
theorem scaled_eq_some {z : ℤ} : scaled x sensor = some z ↔
    Scalable x ∧ z = clamp ((x * 2000).tdiv sensor - 1000) (-999) 999 := by
  have hint : IsInt (x * 2000) ↔ Scalable x := by
    rw [IsInt, Scalable]
    omega
  have hdifference : Scalable x → IsInt ((x * 2000).tdiv sensor - 1000) := by
    intro h
    rw [Scalable] at h
    have habs := Int.natAbs_tdiv_le_natAbs (x * 2000) sensor
    rw [IsInt]
    omega
  constructor
  · intro h
    obtain ⟨product, hproduct, h⟩ := Option.bind_eq_some_iff.mp h
    obtain ⟨difference, hsub, h⟩ := Option.bind_eq_some_iff.mp h
    obtain ⟨hmul, rfl⟩ := CInt.mul_eq_some.mp hproduct
    obtain ⟨-, rfl⟩ := CInt.sub_eq_some.mp hsub
    exact ⟨hint.mp hmul, (Option.some.inj h).symm⟩
  · rintro ⟨hx, rfl⟩
    exact Option.bind_eq_some_iff.mpr ⟨_, CInt.mul_eq_some.mpr ⟨hint.mpr hx, rfl⟩,
      Option.bind_eq_some_iff.mpr ⟨_, CInt.sub_eq_some.mpr ⟨hdifference hx, rfl⟩, rfl⟩⟩

theorem clamp_mem {min max : ℤ} (h : min ≤ max) (x : ℤ) :
    min ≤ clamp x min max ∧ clamp x min max ≤ max := by
  rw [clamp]
  split_ifs <;> omega

theorem clamp_mono {min max : ℤ} (h : min ≤ max) (hxy : x ≤ y) :
    clamp x min max ≤ clamp y min max := by
  rw [clamp, clamp]
  split_ifs <;> omega

/-- Scaling keeps the order. -/
theorem clamp_tdiv_mono (hsensor : 0 < sensor) (hxy : x ≤ y) :
    clamp ((x * 2000).tdiv sensor - 1000) (-999) 999 ≤
      clamp ((y * 2000).tdiv sensor - 1000) (-999) 999 := by
  have hdiv := Int.tdiv_le_tdiv hsensor (by omega : x * 2000 ≤ y * 2000)
  exact clamp_mono (by norm_num) (by omega)

/-- The area of a region whose coordinates can be scaled. -/
theorem areaOf_eq_some (hregion : region ≠ ⟨0, 0, 0, 0, 0⟩) : areaOf info region = some area ↔
    (∀ x ∈ [region.left, region.top, region.right, region.bottom], Scalable x) ∧
      area = ⟨clamp ((region.left * 2000).tdiv info.sensorWidth - 1000) (-999) 999,
        clamp ((region.top * 2000).tdiv info.sensorHeight - 1000) (-999) 999,
        clamp ((region.right * 2000).tdiv info.sensorWidth - 1000) (-999) 999,
        clamp ((region.bottom * 2000).tdiv info.sensorHeight - 1000) (-999) 999,
        clamp region.weight 1 1000⟩ := by
  rw [areaOf, if_neg hregion]
  simp only [List.forall_mem_cons, List.not_mem_nil, false_implies, implies_true, and_true]
  constructor
  · intro h
    obtain ⟨left, hl, h⟩ := Option.bind_eq_some_iff.mp h
    obtain ⟨top, ht, h⟩ := Option.bind_eq_some_iff.mp h
    obtain ⟨right, hr, h⟩ := Option.bind_eq_some_iff.mp h
    obtain ⟨bottom, hb, h⟩ := Option.bind_eq_some_iff.mp h
    obtain ⟨hleft, rfl⟩ := scaled_eq_some.mp hl
    obtain ⟨htop, rfl⟩ := scaled_eq_some.mp ht
    obtain ⟨hright, rfl⟩ := scaled_eq_some.mp hr
    obtain ⟨hbottom, rfl⟩ := scaled_eq_some.mp hb
    exact ⟨⟨hleft, htop, hright, hbottom⟩, (Option.some.inj h).symm⟩
  · rintro ⟨⟨hleft, htop, hright, hbottom⟩, rfl⟩
    rw [scaled_eq_some.mpr ⟨hleft, rfl⟩, scaled_eq_some.mpr ⟨htop, rfl⟩,
      scaled_eq_some.mpr ⟨hright, rfl⟩, scaled_eq_some.mpr ⟨hbottom, rfl⟩]
    rfl

/-- There is an area when the coordinates can be scaled, or when there is nothing to scale. -/
theorem exists_areaOf : (∃ area, areaOf info region = some area) ↔
    (region ≠ ⟨0, 0, 0, 0, 0⟩ →
      ∀ x ∈ [region.left, region.top, region.right, region.bottom], Scalable x) := by
  by_cases hregion : region = ⟨0, 0, 0, 0, 0⟩
  · exact ⟨fun _ hne => absurd hregion hne, fun _ => ⟨region, if_pos hregion⟩⟩
  · constructor
    · rintro ⟨area, harea⟩ -
      exact ((areaOf_eq_some hregion).mp harea).1
    · intro h
      exact ⟨_, (areaOf_eq_some hregion).mpr ⟨h hregion, rfl⟩⟩

/-- An area that is there is right, and is what is sent. -/
theorem areaRight_of_areaOf (h : areaOf info region = some area) :
    areasStr info.toStaticMetadata region = area.str ∧ AreaRight region area := by
  by_cases hregion : region = ⟨0, 0, 0, 0, 0⟩
  · obtain rfl : region = area := Option.some.inj ((if_pos hregion).symm.trans h)
    refine ⟨(if_pos hregion).trans (by rw [hregion]; decide), ?_, id, id⟩
    rw [hregion]
    decide
  · obtain ⟨-, rfl⟩ := (areaOf_eq_some hregion).mp h
    refine ⟨if_neg hregion, ?_, clamp_tdiv_mono info.sensorWidth_pos,
      clamp_tdiv_mono info.sensorHeight_pos⟩
    have hclamp : ∀ x, -1000 ≤ clamp x (-999) 999 ∧ clamp x (-999) 999 ≤ 1000 := by
      intro x
      have h := clamp_mem (by norm_num : (-999 : ℤ) ≤ 999) x
      omega
    simp only [List.forall_mem_cons, List.not_mem_nil, false_implies, implies_true, and_true]
    exact ⟨hclamp _, hclamp _, hclamp _, hclamp _⟩

/-- Areas have no character to spare. -/
theorem fits_areaTexts {r : Option Region} {texts : List FormattedText}
    (h : areaTexts info r = some texts) : ∀ t ∈ texts, t.Fits := by
  intro t ht
  cases r with
  | none =>
    obtain rfl := Option.some.inj h
    exact absurd ht List.not_mem_nil
  | some region =>
    obtain ⟨area, harea, rfl⟩ := Option.map_eq_some_iff.mp h
    split_ifs at ht with hregion
    · exact absurd ht List.not_mem_nil
    · obtain rfl := List.mem_singleton.mp ht
      obtain ⟨-, rfl⟩ := (areaOf_eq_some hregion).mp harea
      have hcoordinate : ∀ x, (toString (clamp x (-999) 999)).toList.length ≤ 4 := by
        intro x
        have h := clamp_mem (by norm_num : (-999 : ℤ) ≤ 999) x
        rw [Text.length_toString_int_le_iff three_pos]
        omega
      have hweight : (toString (clamp region.weight 1 1000)).toList.length ≤ 4 := by
        have h := clamp_mem (by norm_num : (1 : ℤ) ≤ 1000) region.weight
        rw [Text.length_toString_int_le_iff three_pos]
        omega
      have hleft := hcoordinate ((region.left * 2000).tdiv info.sensorWidth - 1000)
      have htop := hcoordinate ((region.top * 2000).tdiv info.sensorHeight - 1000)
      have hright := hcoordinate ((region.right * 2000).tdiv info.sensorWidth - 1000)
      have hbottom := hcoordinate ((region.bottom * 2000).tdiv info.sensorHeight - 1000)
      have hopen : "(".toList.length = 1 := rfl
      have hcomma : ", ".toList.length = 2 := rfl
      have hclose : ")".toList.length = 1 := rfl
      have hstr : ∀ s : String, toString s = s := fun _ => rfl
      simp only [FormattedText.Fits, sprintf, Region.str, String.toList_append,
        List.length_append, hstr, hopen, hcomma, hclose]
      omega

end Areas

/-! ## The other texts -/

section Fits

variable {p : PrintedSettings} {info : CameraInfo}

theorem fits_exposureCompensationTexts : (∀ t ∈ exposureCompensationTexts p, t.Fits) ↔
    (p.cm.useScene = false →
      ∀ value ∈ p.cm.exposureCompensation, -100 < value ∧ value < 1000) := by
  rw [exposureCompensationTexts]
  cases p.cm.exposureCompensation with
  | none => simp
  | some value =>
    cases p.cm.useScene with
    | true => simp
    | false =>
      have hlength := @Text.length_toString_int_le_iff value 2 two_pos
      simp only [if_neg Bool.false_ne_true, List.mem_singleton, forall_eq, FormattedText.Fits,
        sprintf, Option.mem_some_iff, forall_eq', true_implies]
      rw [Nat.lt_succ_iff, hlength]
      norm_num

/-- A gain that is clamped takes six characters at most. -/
theorem length_clampGain_le (gain : FloatValue) : (gain.clampGain.printed 4).length ≤ 6 := by
  have hfinite : ∀ x : ℚ≥0, x ≤ 4 → ((FloatValue.finite false x).printed 4).length ≤ 6 := by
    intro x hx
    have hx' : (x : ℚ) ≤ 4 := by exact_mod_cast hx
    have hlength := @Text.length_fixed_le_iff 4 1 x four_pos one_pos x.2
    simp only [FloatValue.printed, signOf, if_neg Bool.false_ne_true, List.nil_append]
    apply hlength.mpr
    norm_num
    linarith
  cases gain with
  | finite negative magnitude =>
    cases negative with
    | false => exact hfinite _ (min_le_left 4 _)
    | true => exact hfinite 1 (by norm_num)
  | infinite negative =>
    cases negative with
    | false => exact hfinite 4 le_rfl
    | true => exact hfinite 1 (by norm_num)
  | nan negative =>
    cases negative <;> decide

theorem fits_awbTexts : ∀ t ∈ awbTexts p, t.Fits := by
  intro t ht
  rw [awbTexts] at ht
  split_ifs at ht
  · obtain rfl := List.mem_singleton.mp ht
    have hr := length_clampGain_le p.gains.r
    have hg := length_clampGain_le p.gains.g
    have hb := length_clampGain_le p.gains.b
    simp only [FormattedText.Fits, sprintf, Gains.str, List.length_append, List.length_cons]
    omega
  · exact absurd ht List.not_mem_nil

theorem length_isoStr_le (iso : ℤ) : (isoStr iso).toList.length ≤ 7 := by
  rw [isoStr]
  split_ifs <;> decide

theorem fits_exposureTexts : (∀ t ∈ exposureTexts p info, t.Fits) ↔
    (p.cm.aeModeOr = .off → ∀ sensitivity ∈ p.cm.sensitivity, p.cm.exposureTime.isSome →
      -1000000 < limit info.sensitivityRange sensitivity) := by
  rw [exposureTexts]
  split
  case h_1 sensitivity exposureTime hmode hsensitivity hexposureTime =>
    have htime : (snprintf 20 (Text.fixed 0 6
        ((limit info.exposureTimeRange exposureTime : ℚ) / 1000000))).Fits :=
      Nat.lt_succ_of_le (List.length_take_le 19 _)
    have hname : (sprintf 8 (isoStr (limit info.sensitivityRange sensitivity)).toList).Fits :=
      Nat.lt_succ_of_le (length_isoStr_le _)
    simp only [hmode, hsensitivity, hexposureTime, true_implies, Option.mem_some_iff, forall_eq',
      Option.isSome_some]
    generalize limit info.sensitivityRange sensitivity = iso at hname ⊢
    have hlength := @Text.length_toString_int_le_iff iso 6 (Nat.succ_pos 5)
    rw [List.forall_mem_cons, List.forall_mem_cons, and_iff_right htime, and_iff_right hname]
    split_ifs with hexact
    · simp only [List.mem_singleton, forall_eq, FormattedText.Fits, sprintf]
      rw [Nat.lt_succ_iff, hlength]
      norm_num
      omega
    · -- what is not exact is large enough
      simp only [List.not_mem_nil, false_implies, implies_true, true_iff]
      omega
  case h_2 hother =>
    simp only [List.not_mem_nil, false_implies, implies_true, true_iff]
    intro hmode sensitivity hsensitivity hsome
    obtain ⟨exposureTime, hexposureTime⟩ := Option.isSome_iff_exists.mp hsome
    exact absurd hexposureTime (hother sensitivity exposureTime hmode hsensitivity)

/-- A place among the ratios has three digits at most. -/
theorem fits_zoomTexts : ∀ t ∈ zoomTexts p info, t.Fits := by
  intro t ht
  rw [zoomTexts] at ht
  cases hwidth : p.cm.cropWidth with
  | none =>
    rw [hwidth] at ht
    exact absurd ht List.not_mem_nil
  | some width =>
    rw [hwidth] at ht
    obtain rfl := List.mem_singleton.mp ht
    have hplace : hal3ToHal1Zoom info.toStaticMetadata width < 10 ^ 4 := by
      have hr : ∀ i (hi : i < info.zoomRatios.length),
          info.zoomRatios.getD i 0 = info.zoomRatios[i] :=
        fun i hi => List.getD_eq_getElem _ _ hi
      rw [hal3ToHal1Zoom_eq_firstLeast info.toStaticMetadata width hr]
      have hle := info.zoomRatios_le
      obtain ⟨hstart, -⟩ | ⟨l₁, i, l₂, hrange, hfound, -⟩ := firstLeast_spec
        (fun i => |info.zoomTarget width - info.zoomRatios.getD i 0|) (0, 2147483647)
        (List.range info.zoomRatios.length)
      · rw [hstart]
        norm_num
      · have hmem : i ∈ List.range info.zoomRatios.length := by
          rw [hrange]
          exact List.mem_append_right l₁ List.mem_cons_self
        have hlt := List.mem_range.mp hmem
        rw [hfound]
        simp only
        omega
    exact Nat.lt_succ_of_le ((Text.length_toString_nat_le_iff four_pos).mpr hplace)

/-- What is printed without a sign. -/
theorem length_unsigned_le_iff {value : ℤ} {k : ℕ} (hk : 0 < k) :
    (unsigned value).toList.length ≤ k ↔ value % 4294967296 < 10 ^ k := by
  rw [unsigned, Text.length_toString_nat_le_iff hk]
  zify
  rw [Int.toNat_of_nonneg (Int.emod_nonneg value (by norm_num))]

theorem fits_thumbnailTexts : (∀ t ∈ thumbnailTexts p, t.Fits) ↔
    ∀ size ∈ p.cm.thumbnailSize,
      size.1 % 4294967296 < 10000 ∧ size.2 % 4294967296 < 10000 := by
  rw [thumbnailTexts]
  cases p.cm.thumbnailSize with
  | none => simp
  | some size =>
    have hwidth := @length_unsigned_le_iff size.1 4 four_pos
    have hheight := @length_unsigned_le_iff size.2 4 four_pos
    simp only [List.forall_mem_cons, List.not_mem_nil, false_implies, implies_true, and_true,
      FormattedText.Fits, sprintf, Option.mem_some_iff, forall_eq']
    rw [Nat.lt_succ_iff, Nat.lt_succ_iff, hwidth, hheight]
    norm_num

/-- A byte has three digits at most. -/
theorem fits_qualityTexts {quality : Option ℕ} (h : ∀ q ∈ quality, q < 256) :
    ∀ t ∈ qualityTexts quality, t.Fits := by
  intro t ht
  cases quality with
  | none => exact absurd ht List.not_mem_nil
  | some q =>
    obtain rfl := List.mem_singleton.mp ht
    have hq := h q rfl
    exact Nat.lt_succ_of_le ((Text.length_toString_nat_le_iff three_pos).mpr (by omega))

theorem fits_orientationTexts : (∀ t ∈ orientationTexts p, t.Fits) ↔
    ∀ orientation ∈ p.cm.jpegOrientation, orientation % 4294967296 < 1000 := by
  rw [orientationTexts]
  cases p.cm.jpegOrientation with
  | none => simp
  | some orientation =>
    have hlength := @length_unsigned_le_iff orientation 3 three_pos
    simp only [List.mem_singleton, forall_eq, FormattedText.Fits, sprintf, Option.mem_some_iff,
      forall_eq']
    rw [Nat.lt_succ_iff, hlength]
    norm_num

/-- A distance has one digit behind the point, and two characters before it. -/
theorem length_printed_le_iff (distance : FloatValue) :
    (distance.printed 1).length ≤ 4 ↔ distance.Short := by
  cases distance with
  | finite negative magnitude =>
    cases negative with
    | false =>
      have hlength := @Text.length_fixed_le_iff 1 2 magnitude one_pos two_pos magnitude.2
      simp only [FloatValue.printed, signOf, if_neg Bool.false_ne_true, List.nil_append]
      rw [hlength, FloatValue.Short]
      constructor
      · intro h
        norm_num at h ⊢
        linarith
      · intro h
        norm_num at h ⊢
        linarith
    | true =>
      have hlength := @Text.length_fixed_le_iff 1 1 magnitude one_pos one_pos magnitude.2
      simp only [FloatValue.printed, signOf, if_true, List.length_append, List.length_singleton]
      rw [add_comm, Nat.succ_le_succ_iff, hlength, FloatValue.Short]
      constructor
      · intro h
        norm_num at h ⊢
        linarith
      · intro h
        norm_num at h ⊢
        linarith
  | infinite negative => cases negative <;> exact ⟨fun _ => trivial, fun _ => by decide⟩
  | nan negative => cases negative <;> exact ⟨fun _ => trivial, fun _ => by decide⟩

theorem fits_focusDistanceTexts : (∀ t ∈ focusDistanceTexts p, t.Fits) ↔
    (p.cm.manualFocus = true → p.cm.focusDistance.isSome → p.focusDistance.Short) := by
  rw [focusDistanceTexts]
  cases p.cm.manualFocus with
  | false => simp
  | true =>
    cases p.cm.focusDistance with
    | none => simp
    | some distance =>
      simp only [List.mem_singleton, forall_eq, FormattedText.Fits, sprintf, true_implies,
        Option.isSome_some]
      rw [Nat.lt_succ_iff, length_printed_le_iff]

end Fits

/-! ## The result -/

variable {p : PrintedSettings} {info : CameraInfo}

/-- The areas of all regions are there. -/
theorem exists_areaTexts {r : Option Region} : (∃ texts, areaTexts info r = some texts) ↔
    ∀ region ∈ r, ∃ area, areaOf info region = some area := by
  cases r with
  | none => simp [areaTexts]
  | some region =>
    simp only [areaTexts, Option.mem_some_iff, forall_eq', Option.map_eq_some_iff]
    exact ⟨fun ⟨_, area, harea, _⟩ => ⟨area, harea⟩, fun ⟨area, harea⟩ => ⟨_, area, harea, rfl⟩⟩

/-- The texts fit if there are areas, and if those that may be too long fit. -/
theorem fits_formattedTexts :
    (∃ texts, formattedTexts p info = some texts ∧ ∀ t ∈ texts, t.Fits) ↔
      (∀ region, region ∈ p.cm.afRegions ∨ region ∈ p.cm.aeRegions →
        ∃ area, areaOf info region = some area) ∧
      (∀ t ∈ exposureCompensationTexts p, t.Fits) ∧ (∀ t ∈ exposureTexts p info, t.Fits) ∧
      (∀ t ∈ thumbnailTexts p, t.Fits) ∧ (∀ t ∈ orientationTexts p, t.Fits) ∧
      ∀ t ∈ focusDistanceTexts p, t.Fits := by
  have hthumbnail := fits_qualityTexts fun q hq => p.quality_lt q (Or.inl hq)
  have hjpeg := fits_qualityTexts fun q hq => p.quality_lt q (Or.inr hq)
  constructor
  · rintro ⟨texts, htexts, hfits⟩
    obtain ⟨af, haf, h⟩ := Option.bind_eq_some_iff.mp htexts
    obtain ⟨ae, hae, h⟩ := Option.bind_eq_some_iff.mp h
    obtain rfl := Option.some.inj h
    simp only [List.forall_mem_append] at hfits
    refine ⟨?_, by tauto⟩
    rintro region (hregion | hregion)
    · exact exists_areaTexts.mp ⟨af, haf⟩ region hregion
    · exact exists_areaTexts.mp ⟨ae, hae⟩ region hregion
  · rintro ⟨hareas, hfits⟩
    obtain ⟨af, haf⟩ := exists_areaTexts.mpr fun region hregion => hareas region (Or.inl hregion)
    obtain ⟨ae, hae⟩ := exists_areaTexts.mpr fun region hregion => hareas region (Or.inr hregion)
    refine ⟨_, Option.bind_eq_some_iff.mpr ⟨af, haf, Option.bind_eq_some_iff.mpr
      ⟨ae, hae, rfl⟩⟩, ?_⟩
    have haf := fits_areaTexts haf
    have hae := fits_areaTexts hae
    have hawb := @fits_awbTexts p
    have hzoom := @fits_zoomTexts p info
    simp only [List.forall_mem_append]
    tauto

/-- **When the texts of a request fit and its areas are right.** -/
theorem requestRight_iff (p : PrintedSettings) (info : CameraInfo) :
    RequestRight p info ↔ RequestFits p info := by
  constructor
  · rintro ⟨hfits, -⟩
    obtain ⟨hareas, hcompensation, hexposure, hthumbnail, horientation, hfocus⟩ :=
      fits_formattedTexts.mp hfits
    exact ⟨fits_exposureCompensationTexts.mp hcompensation, fits_exposureTexts.mp hexposure,
      fun region hregion => exists_areaOf.mp (hareas region hregion),
      fits_thumbnailTexts.mp hthumbnail, fits_orientationTexts.mp horientation,
      fits_focusDistanceTexts.mp hfocus⟩
  · intro h
    have hareas : ∀ region, region ∈ p.cm.afRegions ∨ region ∈ p.cm.aeRegions →
        ∃ area, areaOf info region = some area :=
      fun region hregion => exists_areaOf.mpr (h.regions region hregion)
    refine ⟨fits_formattedTexts.mpr ⟨hareas,
      fits_exposureCompensationTexts.mpr h.exposureCompensation, fits_exposureTexts.mpr h.iso,
      fits_thumbnailTexts.mpr h.thumbnailSize, fits_orientationTexts.mpr h.jpegOrientation,
      fits_focusDistanceTexts.mpr h.focusDistance⟩, fun region hregion => ?_⟩
    obtain ⟨area, harea⟩ := hareas region hregion
    exact ⟨area, harea, areaRight_of_areaOf harea⟩

/-- A camera with a sensor of thirteen megapixels. -/
def someCamera : CameraInfo where
  sensorWidth := 4160
  sensorHeight := 3120
  exposureTimeRange := (0, 1000000000)
  sensitivityRange := (100, 1600)
  zoomRatios := [100, 200]
  zoomTarget := zoomTarget 4160
  sensorWidth_pos := by norm_num
  sensorHeight_pos := by norm_num
  zoomRatios_le := by decide

/-- A request for more exposure. -/
def brighter (steps : ℤ) : PrintedSettings where
  cm := { exposureCompensation := some steps }
  gains := ⟨.finite false 1, .finite false 1, .finite false 1⟩
  focusDistance := .finite false 0
  gains_eq _ h := by cases h
  quality_lt _ h := by rcases h with h | h <;> cases h

/-- A thousand steps take four digits, and the array has four cells. -/
theorem not_requestRight_brighter : ¬ RequestRight (brighter 1000) someCamera := by
  rintro ⟨⟨texts, htexts, hfits⟩, -⟩
  obtain rfl := Option.some.inj htexts
  have hfit := hfits (sprintf 4 (toString (1000 : ℤ)).toList) (by
    simp [exposureCompensationTexts, brighter, Settings.useScene])
  have hlength : (toString (1000 : ℤ)).toList.length = 4 := by decide
  exact absurd (hlength ▸ hfit) (lt_irrefl 4)

end OppoA37.Camera
