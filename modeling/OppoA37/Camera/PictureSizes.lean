import OppoA37.Camera.StreamTables
import OppoA37.Lib.Block
import OppoA37.Lib.CInt
import OppoA37.Lib.FirstLeast
import OppoA37.Lib.Text

/-!
# The picture sizes of `camera_convert_parameters`

One loop writes the picture sizes of the legacy HAL to an array of `MAX_SIZES_CNT` cells, two cells
a picture, and looks for the largest picture, whose size is taken for that of the sensor. Nothing
stops the loop at the end of the array, and the array is published as a whole, twice, whatever part
of it was written.

`picturesRight_iff` says for which lists this is right. Exactly twenty pictures fill the array. And
the areas, which are compared as a `size_t`, must not be mixed: either none is negative and some
picture has one that is not zero, so that the sensor gets a size at all, or all of them are
negative.
-/

namespace OppoA37.Camera

open CInt

/-- `MAX_SIZES_CNT` -/
def MAX_SIZES_CNT : ℕ := 40

/-- `sizeof(camera3_jpeg_blob_t)` -/
def SIZEOF_JPEG_BLOB : ℕ := 8

/-- What the loop over the pictures changes. -/
structure PictureLoop where
  /-- `available_resolutions` -/
  availableResolutions : Block ℤ
  /-- `n` -/
  n : ℕ
  /-- `sensor_width` and `sensor_height` -/
  sensor : Size
  /-- `max_jpeg_size_sz` -/
  maxJpegSizeSz : ℕ

namespace PictureLoop

/-- Before the loop: the array and the size of the sensor were not written yet. -/
def start (garbage : ℕ → ℤ) (sensor : Size) : PictureLoop :=
  ⟨⟨MAX_SIZES_CNT, garbage⟩, 0, sensor, 0⟩

/-- A turn of the loop; `none` if it leaves the array, or if the area does not fit in an `int`. -/
def turn (l : PictureLoop) (size : Size) : Option PictureLoop := do
  let availableResolutions ← l.availableResolutions.write l.n size.width
  let availableResolutions ← availableResolutions.write (l.n + 1) size.height
  let area ← CInt.mul size.width size.height
  if l.maxJpegSizeSz < toSize area then
    return ⟨availableResolutions, l.n + 2, size, toSize area⟩
  else return ⟨availableResolutions, l.n + 2, l.sensor, l.maxJpegSizeSz⟩

end PictureLoop

/-- What is published of the pictures. -/
structure PictureTags where
  /-- `ANDROID_SCALER_AVAILABLE_PROCESSED_SIZES` -/
  processedSizes : List ℤ
  /-- `ANDROID_JPEG_MAX_SIZE` -/
  jpegMaxSize : ℤ
  /-- the size of the sensor, as the loop leaves it -/
  sensor : Size
  /-- `ANDROID_SENSOR_INFO_PIXEL_ARRAY_SIZE` -/
  pixelArraySize : Size
  /-- `ANDROID_SCALER_AVAILABLE_RAW_SIZES` -/
  rawSizes : List ℤ

/-- `sscanf(sensor_size_str, "%dx%d", &sensor_width, &sensor_height)` -/
def scanSensorSize (sensor : Size) (sensorSizeStr : List Char) : Size :=
  match Text.scanPair 'x' sensorSizeStr with
  | [] => sensor
  | [width] => { sensor with width := width }
  | width :: height :: _ => ⟨width, height⟩

/-- The part of `camera_convert_parameters` about pictures, with what is in memory before, the
pictures, and the parameter `raw-size`. -/
def convertPictureSizes (garbage : ℕ → ℤ) (uninitialised : Size) (pictureSizes : List Size)
    (rawSize : Option (List Char)) : Option PictureTags := do
  let l ← pictureSizes.foldlM PictureLoop.turn (.start garbage uninitialised)
  let published := (List.range MAX_SIZES_CNT).map l.availableResolutions.get
  return {
    processedSizes := published
    jpegMaxSize := toInt ((l.maxJpegSizeSz * 3 % 4294967296 / 2 + SIZEOF_JPEG_BLOB : ℕ) : ℤ)
    sensor := l.sensor
    pixelArraySize := rawSize.elim l.sensor (scanSensorSize l.sensor)
    rawSizes := published }

/-! ## What ought to be published -/

/-- The area of a picture. -/
def Size.area (s : Size) : ℤ := s.width * s.height

/-- Widths and heights, in order. -/
def cellsOf (sizes : List Size) : List ℤ := sizes.flatMap fun s => [s.width, s.height]

/-- A picture of maximal area. -/
def IsLargest (s : Size) (sizes : List Size) : Prop := s ∈ sizes ∧ ∀ t ∈ sizes, t.area ≤ s.area

/-- The tags hold the pictures in order and nothing else, and the sensor is as large as the largest
of them. -/
structure PictureTags.Right (sizes : List Size) (tags : PictureTags) : Prop where
  processedSizes : tags.processedSizes = cellsOf sizes
  rawSizes : tags.rawSizes = cellsOf sizes
  sensor : IsLargest tags.sensor sizes

/-- Whatever is in memory, the loop stays within its array, and its tags are right. -/
def PicturesRight (sizes : List Size) (rawSize : Option (List Char)) : Prop :=
  ∀ garbage uninitialised, ∃ tags,
    convertPictureSizes garbage uninitialised sizes rawSize = some tags ∧ tags.Right sizes

/-- The pictures fill the array, their areas fit in an `int`, and these are not mixed. -/
def PicturesFill (sizes : List Size) : Prop :=
  2 * sizes.length = MAX_SIZES_CNT ∧ (∀ s ∈ sizes, IsInt s.area) ∧
    ((∀ s ∈ sizes, 0 ≤ s.area) ∧ (∃ s ∈ sizes, 0 < s.area) ∨ ∀ s ∈ sizes, s.area < 0)

/-! ## The loop -/

namespace PictureLoop

variable {l l' : PictureLoop} {size : Size} {sizes : List Size}

/-- What was written. -/
def written (l : PictureLoop) : List ℤ := (List.range l.n).map l.availableResolutions.get

/-- The largest picture so far, with the order of its size turned around. -/
def best (l : PictureLoop) : Size × ℕᵒᵈ := (l.sensor, OrderDual.toDual l.maxJpegSizeSz)

/-- The size of a picture, in that order. -/
def negArea (s : Size) : ℕᵒᵈ := OrderDual.toDual (toSize s.area)

/-- The array with a picture written to it. -/
def filled (l : PictureLoop) (size : Size) : Block ℤ where
  size := l.availableResolutions.size
  get := Function.update (Function.update l.availableResolutions.get l.n size.width) (l.n + 1)
    size.height

/-- A turn needs two cells and an area that fits. -/
theorem turn_eq_some : l.turn size = some l' ↔
    l.n + 2 ≤ l.availableResolutions.size ∧ IsInt size.area ∧
      l' = if l.maxJpegSizeSz < toSize size.area then
          ⟨l.filled size, l.n + 2, size, toSize size.area⟩
        else ⟨l.filled size, l.n + 2, l.sensor, l.maxJpegSizeSz⟩ := by
  constructor
  · intro h
    obtain ⟨b, hb, h⟩ := Option.bind_eq_some_iff.mp h
    obtain ⟨b', hb', h⟩ := Option.bind_eq_some_iff.mp h
    obtain ⟨area, harea, h⟩ := Option.bind_eq_some_iff.mp h
    obtain ⟨-, rfl⟩ := Block.write_eq_some.mp hb
    obtain ⟨hroom, rfl⟩ := Block.write_eq_some.mp hb'
    obtain ⟨hint, rfl⟩ := CInt.mul_eq_some.mp harea
    refine ⟨hroom, hint, ?_⟩
    split_ifs at h with hlt
    · exact (Option.some.inj h).symm.trans (if_pos hlt).symm
    · exact (Option.some.inj h).symm.trans (if_neg hlt).symm
  · rintro ⟨hroom, harea, rfl⟩
    refine Option.bind_eq_some_iff.mpr ⟨_, Block.write_eq_some.mpr ⟨by omega, rfl⟩, ?_⟩
    refine Option.bind_eq_some_iff.mpr ⟨l.filled size, Block.write_eq_some.mpr ⟨hroom, rfl⟩, ?_⟩
    refine Option.bind_eq_some_iff.mpr ⟨size.area, CInt.mul_eq_some.mpr ⟨harea, rfl⟩, ?_⟩
    split_ifs <;> rfl

/-- What a turn does, if it can be made. -/
theorem turn_spec (h : l.turn size = some l') :
    l'.availableResolutions.size = l.availableResolutions.size ∧ l'.n = l.n + 2 ∧
      l'.n ≤ l.availableResolutions.size ∧ IsInt size.area ∧
      l'.written = l.written ++ [size.width, size.height] ∧
      l'.best = if negArea size < l.best.2 then (size, negArea size) else l.best := by
  obtain ⟨hroom, harea, rfl⟩ := turn_eq_some.mp h
  have hwritten : (List.range (l.n + 2)).map (l.filled size).get =
      l.written ++ [size.width, size.height] := by
    rw [filled, Block.map_range_update, Block.map_range_update, List.append_assoc]
    rfl
  -- the larger area is the lesser one in the order turned around
  have hbest : l.maxJpegSizeSz < toSize size.area ↔ negArea size < l.best.2 := Iff.rfl
  by_cases hlt : l.maxJpegSizeSz < toSize size.area
  · rw [if_pos hlt, if_pos (hbest.mp hlt)]
    exact ⟨rfl, rfl, hroom, harea, hwritten, rfl⟩
  · rw [if_neg hlt, if_neg (mt hbest.mpr hlt)]
    exact ⟨rfl, rfl, hroom, harea, hwritten, rfl⟩

/-- What the loop does, if it comes to an end. -/
theorem loop_spec (h : sizes.foldlM turn l = some l') (hn : l.n ≤ l.availableResolutions.size) :
    l'.n = l.n + 2 * sizes.length ∧ l'.n ≤ l.availableResolutions.size ∧
      (∀ s ∈ sizes, IsInt s.area) ∧ l'.written = l.written ++ cellsOf sizes ∧
      l'.best = firstLeast negArea l.best sizes := by
  induction sizes generalizing l with
  | nil =>
    obtain rfl := Option.some.inj h
    exact ⟨rfl, hn, fun s hs => absurd hs List.not_mem_nil, (List.append_nil _).symm, rfl⟩
  | cons size sizes ih =>
    obtain ⟨m, hm, hrest⟩ := Option.bind_eq_some_iff.mp h
    obtain ⟨hsize, hnext, hroom, harea, hwritten, hbest⟩ := turn_spec hm
    obtain ⟨hn', hle, hareas, hwritten', hbest'⟩ := ih hrest (by rw [hsize]; exact hroom)
    refine ⟨by rw [hn', hnext, List.length_cons]; omega, hsize ▸ hle, ?_, ?_, ?_⟩
    · intro s hs
      rcases List.mem_cons.mp hs with rfl | hs
      · exact harea
      · exact hareas s hs
    · rw [hwritten', hwritten, List.append_assoc]
      rfl
    · rw [hbest', hbest, firstLeast_cons]

/-- The loop comes to an end when there is room, and the areas fit. -/
theorem exists_loop (hroom : l.n + 2 * sizes.length ≤ l.availableResolutions.size)
    (hareas : ∀ s ∈ sizes, IsInt s.area) : ∃ l', sizes.foldlM turn l = some l' := by
  induction sizes generalizing l with
  | nil => exact ⟨l, rfl⟩
  | cons size sizes ih =>
    rw [List.length_cons] at hroom
    obtain ⟨m, hm⟩ : ∃ m, l.turn size = some m :=
      ⟨_, turn_eq_some.mpr ⟨by omega, hareas size List.mem_cons_self, rfl⟩⟩
    obtain ⟨hsize, hnext, -⟩ := turn_spec hm
    obtain ⟨l', hl'⟩ := ih (by rw [hnext, hsize]; omega)
      fun s hs => hareas s (List.mem_cons_of_mem _ hs)
    refine ⟨l', ?_⟩
    rw [List.foldlM_cons, hm]
    exact hl'

end PictureLoop

/-! ## The largest picture -/

section Largest

open PictureLoop

variable {sizes : List Size} {uninitialised : Size}

/-- Among areas that are not mixed, the loop finds the largest. -/
theorem isLargest_of_fill (hareas : ∀ s ∈ sizes, IsInt s.area)
    (h : (∀ s ∈ sizes, 0 ≤ s.area) ∧ (∃ s ∈ sizes, 0 < s.area) ∨
      sizes ≠ [] ∧ ∀ s ∈ sizes, s.area < 0) :
    IsLargest (firstLeast negArea (uninitialised, OrderDual.toDual 0) sizes).1 sizes := by
  have hsome : ∃ s ∈ sizes, 0 < toSize s.area := by
    obtain ⟨-, s, hs, hpos⟩ | ⟨hne, hneg⟩ := h
    · have hsize := toSize_of_nonneg (hareas s hs) hpos.le
      exact ⟨s, hs, by omega⟩
    · obtain ⟨s, hs⟩ := List.exists_mem_of_ne_nil sizes hne
      have hint := hareas s hs
      have hsize := toSize_of_neg hint (hneg s hs)
      rw [IsInt] at hint
      exact ⟨s, hs, by omega⟩
  obtain ⟨hmem, -, hleast⟩ :=
    @firstLeast_mem _ _ _ negArea (uninitialised, OrderDual.toDual 0) _ hsome
  refine ⟨hmem, fun t ht => ?_⟩
  have hle : ¬ toSize (firstLeast negArea (uninitialised, OrderDual.toDual 0) sizes).1.area <
      toSize t.area := not_lt.mpr (hleast t ht)
  rw [toSize_lt_toSize (hareas _ hmem) (hareas t ht)] at hle
  obtain ⟨hnonneg, -⟩ | ⟨-, hneg⟩ := h
  · have hmem := hnonneg _ hmem
    have ht := hnonneg t ht
    omega
  · have hmem := hneg _ hmem
    have ht := hneg t ht
    omega

/-- Areas that are mixed: a picture that is not the largest is found, or none at all. -/
theorem fill_of_isLargest (hareas : ∀ s ∈ sizes, IsInt s.area)
    (h : ∀ uninitialised,
      IsLargest (firstLeast negArea (uninitialised, OrderDual.toDual 0) sizes).1 sizes) :
    (∀ s ∈ sizes, 0 ≤ s.area) ∧ (∃ s ∈ sizes, 0 < s.area) ∨ ∀ s ∈ sizes, s.area < 0 := by
  by_contra hmixed
  rw [not_or] at hmixed
  obtain ⟨hnot, hsome⟩ := hmixed
  obtain ⟨t, ht, htarea⟩ : ∃ t ∈ sizes, 0 ≤ t.area := by
    by_contra hnone
    exact hsome fun s hs => not_le.mp fun hle => hnone ⟨s, hs, hle⟩
  by_cases hneg : ∃ s ∈ sizes, s.area < 0
  · obtain ⟨s, hs, hsarea⟩ := hneg
    have hint := hareas s hs
    have hsize := toSize_of_neg hint hsarea
    obtain ⟨hmem, hle⟩ := h t
    have hlarge := hle t ht
    have hpos : negArea s < OrderDual.toDual 0 := by
      show 0 < toSize s.area
      rw [IsInt] at hint
      omega
    obtain ⟨-, -, hleast⟩ :=
      @firstLeast_mem _ _ _ negArea (t, OrderDual.toDual 0) _ ⟨s, hs, hpos⟩
    have hnot : ¬ toSize (firstLeast negArea (t, OrderDual.toDual 0) sizes).1.area <
        toSize s.area := not_lt.mpr (hleast s hs)
    rw [toSize_lt_toSize (hareas _ hmem) hint] at hnot
    omega
  · have hnonneg : ∀ s ∈ sizes, 0 ≤ s.area := fun s hs => not_lt.mp fun hlt => hneg ⟨s, hs, hlt⟩
    have hzero : ∀ s ∈ sizes, s.area ≤ 0 :=
      fun s hs => not_lt.mp fun hlt => hnot ⟨hnonneg, s, hs, hlt⟩
    -- the loop finds nothing, and leaves what was in memory
    have hstart : firstLeast negArea ((⟨1, 1⟩ : Size), OrderDual.toDual 0) sizes =
        (⟨1, 1⟩, OrderDual.toDual 0) := by
      apply firstLeast_of_le
      intro s hs
      have hsize := toSize_of_nonneg (hareas s hs) (hnonneg s hs)
      have harea := hzero s hs
      show toSize s.area ≤ 0
      omega
    obtain ⟨hmem, -⟩ := h ⟨1, 1⟩
    rw [hstart] at hmem
    exact absurd (hzero _ hmem) (by decide)

end Largest

/-! ## The result -/

variable {sizes : List Size} {rawSize : Option (List Char)}

/-- What is published, when the loop comes to an end. -/
theorem convertPictureSizes_spec {garbage : ℕ → ℤ} {uninitialised : Size} {tags : PictureTags}
    (h : convertPictureSizes garbage uninitialised sizes rawSize = some tags) :
    2 * sizes.length ≤ MAX_SIZES_CNT ∧ (∀ s ∈ sizes, IsInt s.area) ∧
      tags.rawSizes = tags.processedSizes ∧ tags.processedSizes.length = MAX_SIZES_CNT ∧
      (2 * sizes.length = MAX_SIZES_CNT → tags.processedSizes = cellsOf sizes) ∧
      tags.sensor =
        (firstLeast PictureLoop.negArea (uninitialised, OrderDual.toDual 0) sizes).1 := by
  obtain ⟨l, hl, htags⟩ := Option.bind_eq_some_iff.mp h
  obtain rfl := Option.some.inj htags
  obtain ⟨hn, hle, hareas, hwritten, hbest⟩ := PictureLoop.loop_spec hl (Nat.zero_le _)
  have hn : l.n = 2 * sizes.length := hn.trans (Nat.zero_add _)
  refine ⟨hn ▸ hle, hareas, rfl, by simp, ?_, congrArg Prod.fst hbest⟩
  intro hfull
  rw [PictureLoop.written, hn, hfull] at hwritten
  exact hwritten

/-- **When the picture sizes are right.** The array is filled by exactly twenty pictures, and their
areas fit in an `int` and are not mixed. -/
theorem picturesRight_iff : PicturesRight sizes rawSize ↔ PicturesFill sizes := by
  constructor
  · intro h
    obtain ⟨tags, htags, hright⟩ := h (fun _ => 0) ⟨0, 0⟩
    obtain ⟨-, hareas, -, hlength, -, -⟩ := convertPictureSizes_spec htags
    refine ⟨?_, hareas, fill_of_isLargest hareas fun uninitialised => ?_⟩
    · rw [← hlength, hright.processedSizes, cellsOf, List.length_flatMap]
      simp [mul_comm]
    · obtain ⟨tags, htags, hright⟩ := h (fun _ => 0) uninitialised
      obtain ⟨-, -, -, -, -, hsensor⟩ := convertPictureSizes_spec htags
      rw [← hsensor]
      exact hright.sensor
  · rintro ⟨hfull, hareas, hmixed⟩ garbage uninitialised
    obtain ⟨l, hl⟩ := PictureLoop.exists_loop (l := .start garbage uninitialised)
      (by rw [hfull]; exact (Nat.zero_add _).le) hareas
    have htags : ∃ tags,
        convertPictureSizes garbage uninitialised sizes rawSize = some tags :=
      ⟨_, Option.bind_eq_some_iff.mpr ⟨l, hl, rfl⟩⟩
    obtain ⟨tags, htags⟩ := htags
    obtain ⟨-, -, hraw, -, hcells, hsensor⟩ := convertPictureSizes_spec htags
    refine ⟨tags, htags, hcells hfull, hraw.trans (hcells hfull), ?_⟩
    rw [hsensor]
    apply isLargest_of_fill hareas
    refine hmixed.imp_right fun hneg => ⟨?_, hneg⟩
    rintro rfl
    exact absurd hfull (by decide)

/-- Twenty-one pictures leave the array. -/
theorem not_picturesRight_twentyOne :
    ¬ PicturesRight (List.replicate 21 ⟨640, 480⟩) none := by
  intro h
  obtain ⟨tags, htags, -⟩ := h (fun _ => 0) ⟨0, 0⟩
  exact absurd (convertPictureSizes_spec htags).1 (by decide)

end OppoA37.Camera
