import OppoA37.Camera.Adapter

/-!
# The tables of `camera_convert_parameters`

From the sizes that the legacy HAL lists for pictures, previews and videos, three tables are
published:

* the stream configurations: pictures for `BLOB`, and for the other formats the previews that can
  be recorded as well;
* the shortest durations of a frame, with the previews for *every* format;
* the stall durations, with the pictures for `BLOB`.

Each is an array of a size that is computed beforehand, filled four cells at a time. The second
table has no pictures in it: `consistent_iff` says when that shows.
-/

namespace OppoA37.Camera

/-- `Size` -/
structure Size where
  /-- `width` -/
  width : ℤ
  /-- `height` -/
  height : ℤ
  deriving DecidableEq, Repr

/-- Four cells of a table. -/
structure Entry where
  /-- cell 0 -/
  format : PixelFormat
  /-- cell 1 -/
  width : ℤ
  /-- cell 2 -/
  height : ℤ
  /-- cell 3: the direction of a stream, or a duration -/
  value : ℤ
  deriving DecidableEq, Repr

/-- The cells 1 and 2. -/
def Entry.size (e : Entry) : Size := ⟨e.width, e.height⟩

/-- The sizes in `params`. -/
structure Sizes where
  /-- `picture_sizes` -/
  picture : List Size
  /-- `preview_sizes` -/
  preview : List Size
  /-- `video_sizes` -/
  video : List Size

/-- An array of `size` cells that is filled from its start. -/
structure Table where
  /-- the size of the array -/
  size : ℕ
  /-- what was written; `idx` is four times their number -/
  entries : List Entry

namespace Table

/-- An array, with nothing in it. -/
def empty (size : ℕ) : Table := ⟨size, []⟩

/-- Write an entry at `idx`; `none` if that is past the array. -/
def push (t : Table) (e : Entry) : Option Table :=
  if 4 * t.entries.length + 3 < t.size then some { t with entries := t.entries ++ [e] } else none

/-- Write an entry for each size that `keep` lets through. -/
def pushSizes (keep : Size → Bool) (format : PixelFormat) (value : ℤ) (t : Table)
    (sizes : List Size) : Option Table :=
  sizes.foldlM
    (fun t s => if keep s then t.push ⟨format, s.width, s.height, value⟩ else some t) t

end Table

/-- `scalar_formats` -/
def scalarFormats : List PixelFormat :=
  [.yCrCb420Sp, .blob, .implementationDefined, .yCbCr420_888]

/-- `ANDROID_SCALER_AVAILABLE_STREAM_CONFIGURATIONS_OUTPUT` -/
def ANDROID_SCALER_AVAILABLE_STREAM_CONFIGURATIONS_OUTPUT : ℤ := 0

namespace Sizes

variable (sizes : Sizes)

/-- `max_stream_configs_size` -/
def maxStreamConfigsSize : ℕ :=
  (sizes.picture.length + sizes.preview.length + sizes.video.length) * scalarFormats.length * 4

/-- `recordable`, after its loop -/
def recordable (s : Size) : Bool :=
  sizes.video.isEmpty || sizes.video.any fun v => v.width = s.width && v.height = s.height

/-- The `switch` of the first table. -/
def configsOf (t : Table) (format : PixelFormat) : Option Table :=
  match format with
  | .blob => t.pushSizes (fun _ => true) format
      ANDROID_SCALER_AVAILABLE_STREAM_CONFIGURATIONS_OUTPUT sizes.picture
  | .implementationDefined | .yCrCb420Sp | .yCbCr420_888 => t.pushSizes sizes.recordable format
      ANDROID_SCALER_AVAILABLE_STREAM_CONFIGURATIONS_OUTPUT sizes.preview
  | _ => some t

/-- The `switch` of the second table, with nothing but a `default`. -/
def minDurationsOf (t : Table) (format : PixelFormat) : Option Table :=
  t.pushSizes (fun _ => true) format 33333333 sizes.preview

/-- The turn of the third table. -/
def stallDurationsOf (t : Table) (format : PixelFormat) : Option Table :=
  if format = .blob then t.pushSizes (fun _ => true) format 33333333 sizes.picture else some t

/-- `available_stream_configs` -/
def availableStreamConfigs : Option Table :=
  scalarFormats.foldlM sizes.configsOf (.empty sizes.maxStreamConfigsSize)

/-- `available_min_durations` -/
def availableMinDurations : Option Table :=
  scalarFormats.foldlM sizes.minDurationsOf (.empty sizes.maxStreamConfigsSize)

/-- `available_stall_durations` -/
def availableStallDurations : Option Table :=
  [PixelFormat.blob].foldlM sizes.stallDurationsOf (.empty (sizes.picture.length * 4))

end Sizes

/-- What is published: the part of each table that was filled. -/
structure Tables where
  /-- `ANDROID_SCALER_AVAILABLE_STREAM_CONFIGURATIONS` -/
  streamConfigs : List Entry
  /-- `ANDROID_SCALER_AVAILABLE_MIN_FRAME_DURATIONS` -/
  minFrameDurations : List Entry
  /-- `ANDROID_SCALER_AVAILABLE_STALL_DURATIONS` -/
  stallDurations : List Entry
  deriving DecidableEq

/-- The three tables; `none` if one of them is written past its size. -/
def Sizes.tables (sizes : Sizes) : Option Tables := do
  let configs ← sizes.availableStreamConfigs
  let minDurations ← sizes.availableMinDurations
  let stallDurations ← sizes.availableStallDurations
  return ⟨configs.entries, minDurations.entries, stallDurations.entries⟩

/-! ## Tables that are long enough -/

namespace Table

/-- A table with more entries. -/
def append (t : Table) (es : List Entry) : Table := { t with entries := t.entries ++ es }

/-- There is room for `n` more entries. -/
def HasRoom (t : Table) (n : ℕ) : Prop := 4 * (t.entries.length + n) ≤ t.size

variable {t : Table} {n : ℕ} {keep : Size → Bool} {format : PixelFormat} {value : ℤ}

@[simp] theorem append_nil (t : Table) : t.append [] = t := by
  rw [append, List.append_nil]

theorem append_append (t : Table) (es es' : List Entry) :
    (t.append es).append es' = t.append (es ++ es') := by
  rw [append, append, append, List.append_assoc]

/-- Entries take up their room. -/
theorem HasRoom.append {es : List Entry} (h : t.HasRoom (es.length + n)) :
    (t.append es).HasRoom n := by
  rw [HasRoom, Table.append, List.length_append, Nat.add_assoc]
  exact h

theorem HasRoom.mono {m : ℕ} (h : t.HasRoom n) (hle : m ≤ n) : t.HasRoom m := by
  have hroom : 4 * (t.entries.length + n) ≤ t.size := h
  rw [HasRoom]
  omega

theorem push_of_hasRoom (e : Entry) (h : t.HasRoom (n + 1)) : t.push e = some (t.append [e]) := by
  have hroom : 4 * (t.entries.length + (n + 1)) ≤ t.size := h
  rw [push, if_pos (by omega)]
  rfl

/-- The entries of some sizes. -/
def entriesOf (keep : Size → Bool) (format : PixelFormat) (value : ℤ) (sizes : List Size) :
    List Entry :=
  (sizes.filter keep).map fun s => ⟨format, s.width, s.height, value⟩

theorem mem_entriesOf {e : Entry} {sizes : List Size} :
    e ∈ entriesOf keep format value sizes ↔
      e.format = format ∧ e.value = value ∧ e.size ∈ sizes ∧ keep e.size = true := by
  rw [entriesOf, List.mem_map]
  constructor
  · rintro ⟨s, hs, rfl⟩
    exact ⟨rfl, rfl, List.mem_filter.mp hs⟩
  · rintro ⟨rfl, rfl, hmem⟩
    exact ⟨e.size, List.mem_filter.mpr hmem, rfl⟩

theorem length_entriesOf_le (keep : Size → Bool) (format : PixelFormat) (value : ℤ)
    (sizes : List Size) : (entriesOf keep format value sizes).length ≤ sizes.length := by
  rw [entriesOf, List.length_map]
  exact List.length_filter_le _ _

/-- A loop over sizes for which there is room. -/
theorem pushSizes_of_hasRoom {sizes : List Size} (h : t.HasRoom sizes.length) :
    t.pushSizes keep format value sizes = some (t.append (entriesOf keep format value sizes)) := by
  induction sizes generalizing t with
  | nil => simp [pushSizes, entriesOf]
  | cons s sizes ih =>
    rw [pushSizes, List.foldlM_cons]
    by_cases hkeep : keep s
    · have hrest : (t.append [⟨format, s.width, s.height, value⟩]).HasRoom sizes.length :=
        HasRoom.append (by rwa [List.length_singleton, Nat.add_comm])
      rw [if_pos hkeep, push_of_hasRoom _ h]
      have hloop := ih hrest
      rw [pushSizes] at hloop
      rw [Option.bind_eq_bind, Option.bind_some, hloop, append_append]
      simp [entriesOf, hkeep]
    · have hloop := ih (h.mono (Nat.le_succ _))
      rw [pushSizes] at hloop
      rw [if_neg hkeep, Option.bind_eq_bind, Option.bind_some, hloop]
      simp [entriesOf, hkeep]

/-- A loop over formats, when there is room for `n` entries of each. -/
theorem foldlM_of_hasRoom {step : Table → PixelFormat → Option Table}
    {new : PixelFormat → List Entry} (hlength : ∀ f, (new f).length ≤ n)
    (hstep : ∀ t f, HasRoom t n → step t f = some (t.append (new f))) {formats : List PixelFormat}
    (h : t.HasRoom (formats.length * n)) :
    formats.foldlM step t = some (t.append (formats.flatMap new)) := by
  induction formats generalizing t with
  | nil => simp
  | cons f formats ih =>
    rw [List.length_cons, Nat.succ_mul] at h
    have hrest : (t.append (new f)).HasRoom (formats.length * n) :=
      HasRoom.append (h.mono (by have := hlength f; omega))
    rw [List.foldlM_cons, hstep t f (h.mono (Nat.le_add_left _ _)), Option.bind_eq_bind,
      Option.bind_some, ih hrest, append_append, List.flatMap_cons]

end Table

/-! ## What is in the tables -/

namespace Sizes

variable (sizes : Sizes)

/-- The stream configurations of a format. -/
def configEntries (format : PixelFormat) : List Entry :=
  match format with
  | .blob => Table.entriesOf (fun _ => true) format
      ANDROID_SCALER_AVAILABLE_STREAM_CONFIGURATIONS_OUTPUT sizes.picture
  | .implementationDefined | .yCrCb420Sp | .yCbCr420_888 =>
    Table.entriesOf sizes.recordable format
      ANDROID_SCALER_AVAILABLE_STREAM_CONFIGURATIONS_OUTPUT sizes.preview
  | _ => []

theorem length_configEntries_le (format : PixelFormat) :
    (sizes.configEntries format).length ≤
      sizes.picture.length + sizes.preview.length + sizes.video.length := by
  have hpicture := Table.length_entriesOf_le (fun _ => true) .blob
    ANDROID_SCALER_AVAILABLE_STREAM_CONFIGURATIONS_OUTPUT sizes.picture
  have hpreview := fun format => Table.length_entriesOf_le sizes.recordable format
    ANDROID_SCALER_AVAILABLE_STREAM_CONFIGURATIONS_OUTPUT sizes.preview
  cases format with
  | blob => exact hpicture.trans (by omega)
  | implementationDefined => exact (hpreview _).trans (by omega)
  | yCrCb420Sp => exact (hpreview _).trans (by omega)
  | yCbCr420_888 => exact (hpreview _).trans (by omega)
  | nv12Encodeable => exact Nat.zero_le _
  | other => exact Nat.zero_le _

theorem configsOf_of_hasRoom (t : Table) (format : PixelFormat)
    (h : t.HasRoom (sizes.picture.length + sizes.preview.length + sizes.video.length)) :
    sizes.configsOf t format = some (t.append (sizes.configEntries format)) := by
  have hpicture : t.HasRoom sizes.picture.length := h.mono (by omega)
  have hpreview : t.HasRoom sizes.preview.length := h.mono (by omega)
  cases format with
  | blob => exact Table.pushSizes_of_hasRoom hpicture
  | implementationDefined => exact Table.pushSizes_of_hasRoom hpreview
  | yCrCb420Sp => exact Table.pushSizes_of_hasRoom hpreview
  | yCbCr420_888 => exact Table.pushSizes_of_hasRoom hpreview
  | nv12Encodeable => simp [configsOf, configEntries]
  | other => simp [configsOf, configEntries]

/-- **No table is written past its size**, and this is what is in them. -/
theorem tables_eq : sizes.tables = some
    { streamConfigs := scalarFormats.flatMap sizes.configEntries
      minFrameDurations := scalarFormats.flatMap fun format =>
        Table.entriesOf (fun _ => true) format 33333333 sizes.preview
      stallDurations := Table.entriesOf (fun _ => true) .blob 33333333 sizes.picture } := by
  have hroom : (Table.empty sizes.maxStreamConfigsSize).HasRoom (scalarFormats.length *
      (sizes.picture.length + sizes.preview.length + sizes.video.length)) := by
    simp only [Table.HasRoom, Table.empty, maxStreamConfigsSize, List.length_nil, scalarFormats,
      List.length_cons]
    omega
  have hconfigs : sizes.availableStreamConfigs = some
      ((Table.empty sizes.maxStreamConfigsSize).append
        (scalarFormats.flatMap sizes.configEntries)) :=
    Table.foldlM_of_hasRoom sizes.length_configEntries_le sizes.configsOf_of_hasRoom hroom
  have hmin : sizes.availableMinDurations = some
      ((Table.empty sizes.maxStreamConfigsSize).append (scalarFormats.flatMap fun format =>
        Table.entriesOf (fun _ => true) format 33333333 sizes.preview)) := by
    refine Table.foldlM_of_hasRoom (fun _ => ?_) (fun t _ h => ?_) hroom
    · exact (Table.length_entriesOf_le _ _ _ _).trans (by omega)
    · exact Table.pushSizes_of_hasRoom (h.mono (by omega))
  have hstall : sizes.availableStallDurations = some
      ((Table.empty (sizes.picture.length * 4)).append
        (Table.entriesOf (fun _ => true) .blob 33333333 sizes.picture)) := by
    have hpush : (Table.empty (sizes.picture.length * 4)).pushSizes (fun _ => true) .blob 33333333
        sizes.picture = some ((Table.empty (sizes.picture.length * 4)).append
          (Table.entriesOf (fun _ => true) .blob 33333333 sizes.picture)) :=
      Table.pushSizes_of_hasRoom (by simp [Table.HasRoom, Table.empty, mul_comm])
    simp [availableStallDurations, stallDurationsOf, hpush]
  simp [tables, hconfigs, hmin, hstall, Table.append, Table.empty]

variable {sizes} {e : Entry}

theorem mem_configs : e ∈ scalarFormats.flatMap sizes.configEntries ↔
    e.value = ANDROID_SCALER_AVAILABLE_STREAM_CONFIGURATIONS_OUTPUT ∧
      (e.format = .blob ∧ e.size ∈ sizes.picture ∨
        (e.format = .implementationDefined ∨ e.format = .yCrCb420Sp ∨ e.format = .yCbCr420_888) ∧
          e.size ∈ sizes.preview ∧ sizes.recordable e.size = true) := by
  simp only [scalarFormats, List.flatMap_cons, List.flatMap_nil, List.mem_append, configEntries,
    Table.mem_entriesOf, List.not_mem_nil]
  tauto

theorem mem_minFrameDurations {value : ℤ} :
    e ∈ scalarFormats.flatMap (fun format =>
      Table.entriesOf (fun _ => true) format value sizes.preview) ↔
      e.format ∈ scalarFormats ∧ e.value = value ∧ e.size ∈ sizes.preview := by
  simp only [List.mem_flatMap, Table.mem_entriesOf]
  constructor
  · rintro ⟨format, hformat, rfl, hvalue, hsize, -⟩
    exact ⟨hformat, hvalue, hsize⟩
  · rintro ⟨hformat, hvalue, hsize⟩
    exact ⟨e.format, hformat, rfl, hvalue, hsize, trivial⟩

/-- A preview that is recordable is one of the video sizes, if there are any. -/
theorem recordable_iff {s : Size} :
    sizes.recordable s = true ↔ (sizes.video ≠ [] → s ∈ sizes.video) := by
  have heq : ∀ v : Size, v.width = s.width ∧ v.height = s.height ↔ v = s := by
    rintro ⟨w, h⟩
    obtain ⟨w', h'⟩ := s
    simp
  simp only [recordable, Bool.or_eq_true, List.isEmpty_iff, List.any_eq_true, Bool.and_eq_true,
    decide_eq_true_eq, heq, exists_eq_right]
  tauto

end Sizes

/-! ## Consistency -/

/-- What clients rely on in the tables. -/
structure Tables.Consistent (sizes : Sizes) (tables : Tables) : Prop where
  /-- every configuration has a shortest duration of its frames -/
  duration : ∀ c ∈ tables.streamConfigs, ∃ d ∈ tables.minFrameDurations,
    d.format = c.format ∧ d.size = c.size
  /-- every picture has a stall duration -/
  stall : ∀ c ∈ tables.streamConfigs, c.format = .blob → ∃ d ∈ tables.stallDurations,
    d.format = c.format ∧ d.size = c.size
  /-- the other configurations can be previewed and recorded -/
  usable : ∀ c ∈ tables.streamConfigs, c.format ≠ .blob →
    c.size ∈ sizes.preview ∧ (sizes.video ≠ [] → c.size ∈ sizes.video)

/-- **The tables are consistent** just if every picture has the size of a preview. -/
theorem consistent_iff (sizes : Sizes) :
    (∃ tables, sizes.tables = some tables ∧ tables.Consistent sizes) ↔
      ∀ s ∈ sizes.picture, s ∈ sizes.preview := by
  rw [sizes.tables_eq]
  constructor
  · rintro ⟨_, ⟨⟩, hconsistent⟩ s hs
    -- the configuration of the picture
    let c : Entry :=
      ⟨.blob, s.width, s.height, ANDROID_SCALER_AVAILABLE_STREAM_CONFIGURATIONS_OUTPUT⟩
    have hmem : c ∈ scalarFormats.flatMap sizes.configEntries :=
      Sizes.mem_configs.mpr ⟨rfl, Or.inl ⟨rfl, hs⟩⟩
    obtain ⟨d, hd, -, hsize⟩ := hconsistent.duration c hmem
    have hpreview := (Sizes.mem_minFrameDurations.mp hd).2.2
    rwa [hsize] at hpreview
  · intro hall
    refine ⟨_, rfl, ⟨fun c hc => ?_, fun c hc hblob => ?_, fun c hc hblob => ?_⟩⟩
    · obtain ⟨-, hcases⟩ := Sizes.mem_configs.mp hc
      refine ⟨⟨c.format, c.width, c.height, 33333333⟩, Sizes.mem_minFrameDurations.mpr ?_, rfl, rfl⟩
      rcases hcases with ⟨hformat, hsize⟩ | ⟨hformat, hsize, -⟩
      · exact ⟨by rw [hformat]; decide, rfl, hall _ hsize⟩
      · refine ⟨?_, rfl, hsize⟩
        rcases hformat with hformat | hformat | hformat <;> rw [hformat] <;> decide
    · rcases (Sizes.mem_configs.mp hc).2 with ⟨-, hsize⟩ | ⟨hformat, -⟩
      · refine ⟨⟨.blob, c.width, c.height, 33333333⟩, Table.mem_entriesOf.mpr ?_, hblob.symm, rfl⟩
        exact ⟨rfl, rfl, hsize, rfl⟩
      · simp [hblob] at hformat
    · rcases (Sizes.mem_configs.mp hc).2 with ⟨hformat, -⟩ | ⟨-, hsize, hrecordable⟩
      · exact absurd hformat hblob
      · exact ⟨hsize, Sizes.recordable_iff.mp hrecordable⟩

/-- A camera that takes larger pictures than it previews: the picture has no shortest duration. -/
theorem picture_without_duration :
    ¬ ∃ tables, (Sizes.mk [⟨4160, 3120⟩] [⟨1280, 960⟩] [⟨1280, 960⟩]).tables = some tables ∧
      tables.Consistent (Sizes.mk [⟨4160, 3120⟩] [⟨1280, 960⟩] [⟨1280, 960⟩]) := by
  rintro ⟨tables, htables, hconsistent⟩
  obtain rfl := Option.some.inj ((Sizes.tables_eq _).symm.trans htables)
  obtain ⟨d, hd, -, hsize⟩ := hconsistent.duration ⟨.blob, 4160, 3120, 0⟩ (by decide)
  have hpreview := (Sizes.mem_minFrameDurations.mp hd).2.2
  rw [hsize] at hpreview
  exact absurd hpreview (by decide)

end OppoA37.Camera
