import OppoA37.Camera.ModeLists
import OppoA37.Camera.Settings
import OppoA37.Lib.CInt
import OppoA37.Lib.FirstLeast

/-!
# The zoom ratios

`camera_convert_parameters` reads the zoom ratios of the legacy HAL, a list in hundredths with
commas, to an array of 256 cells, and keeps the last place that it wrote. `hal3_to_hal1_zoom` looks
there for the ratio that is nearest to that of a crop region.

`zoomValue_spec` says that it finds one, when the ratios are positive and do not decrease, and that
a narrower crop region never comes with an earlier place.

Floating numbers are exact here. A ratio that does not fit in an `int` becomes the largest one, as
the processor converts it.
-/

namespace OppoA37.Camera

open CInt

/-- `atoi` -/
def atoi (s : List Char) : ℤ := saturate ((Text.scanInt s).getD 0)

/-- What is kept of the zoom ratios of a camera. -/
structure ZoomTable where
  /-- `hal1_zoom_ratios[camera_id]` -/
  ratios : ℕ → ℤ
  /-- `hal1_zoom_steps[camera_id]` -/
  steps : ℤ

/-- The loop over the tokens, with `count`. -/
def storeRatios : List (List Char) → ℕ → (ℕ → ℤ) → ℕ × (ℕ → ℤ)
  | [], count, ratios => (count, ratios)
  | token :: tokens, count, ratios =>
    if count < 256 then
      storeRatios tokens (count + 1) (Function.update ratios count (atoi token))
    else (count, ratios)

/-- The part of `camera_convert_parameters` about zoom: the table, and `zoom_max`. -/
def convertZoom (z : ZoomTable) (zoomSupported zoomRatios : Option (List Char)) : ZoomTable × ℚ :=
  match zoomSupported, zoomRatios with
  | some _, some zoomRatios =>
    let (count, ratios) := storeRatios (tokensOf (zoomRatios.take 1023)) 0 z.ratios
    (⟨ratios, count - 1⟩, if 1 < count then ratios (count - 1) / 100 else 1)
  | _, _ => (z, 1)

/-- `target` in `hal3_to_hal1_zoom` -/
def zoomTarget (activeWidth cropWidth : ℤ) : ℤ :=
  saturate (truncate ((activeWidth : ℚ) / cropWidth * 100))

/-- `zoom_value` and `min_diff` after the loop of `hal3_to_hal1_zoom` -/
def ZoomTable.search (z : ZoomTable) (target : ℤ) : ℕ × ℤ :=
  firstLeast (fun i => |target - z.ratios i|) (0, 2147483647) (List.range (z.steps + 1).toNat)

/-- `hal3_to_hal1_zoom` -/
def ZoomTable.zoomValue (z : ZoomTable) (activeWidth cropWidth : ℤ) : ℕ :=
  (z.search (zoomTarget activeWidth cropWidth)).1

/-! ## The list that is read -/

/-- The ratios in a text. -/
def parsedRatios (zoomRatios : List Char) : List ℤ :=
  ((tokensOf (zoomRatios.take 1023)).take 256).map atoi

/-- The loop stores the tokens one after the other, as far as there is room. -/
theorem storeRatios_eq {tokens : List (List Char)} {count : ℕ} {ratios : ℕ → ℤ} :
    (List.range (storeRatios tokens count ratios).1).map (storeRatios tokens count ratios).2 =
      (List.range count).map ratios ++ (tokens.take (256 - count)).map atoi := by
  induction tokens generalizing count ratios with
  | nil => simp [storeRatios]
  | cons token tokens ih =>
    rw [storeRatios]
    split_ifs with hroom
    · obtain ⟨n, hn⟩ : ∃ n, 256 - count = n + 1 := ⟨255 - count, by omega⟩
      have hn' : 256 - (count + 1) = n := by omega
      rw [ih, Block.map_range_update, hn, hn', List.take_succ_cons, List.map_cons,
        List.append_assoc, List.singleton_append]
    · have hnone : 256 - count = 0 := by omega
      rw [hnone, List.take_zero, List.map_nil, List.append_nil]

variable {z : ZoomTable} {zoomSupported zoomRatios : List Char} {rs : List ℤ}

/-- The table after `camera_convert_parameters`: as many places as there are ratios. -/
theorem convertZoom_spec (hrs : parsedRatios zoomRatios = rs) :
    ((convertZoom z (some zoomSupported) (some zoomRatios)).1.steps + 1).toNat = rs.length ∧
      ∀ i (hi : i < rs.length),
        (convertZoom z (some zoomSupported) (some zoomRatios)).1.ratios i = rs[i] := by
  have hstored := @storeRatios_eq (tokensOf (zoomRatios.take 1023)) 0 z.ratios
  rw [List.range_zero, List.map_nil, List.nil_append, Nat.sub_zero] at hstored
  have hstored : _ = rs := hstored.trans hrs
  have hcount := congrArg List.length hstored
  rw [List.length_map, List.length_range] at hcount
  refine ⟨?_, ?_⟩
  · simp only [convertZoom]
    omega
  · intro i hi
    simp only [convertZoom, ← hstored, List.getElem_map, List.getElem_range]

/-! ## The nearest ratio -/

/-- A place whose ratio is nearest to a target. -/
def IsNearest (rs : List ℤ) (target : ℤ) (i : ℕ) : Prop :=
  ∃ hi : i < rs.length, ∀ r ∈ rs, |target - rs[i]| ≤ |target - r|

/-- A ratio as `hal3_to_hal1_zoom` computes it. -/
theorem zoomTarget_eq {activeWidth cropWidth : ℤ} (hcrop : 1 ≤ cropWidth)
    (hactive : cropWidth ≤ activeWidth) :
    zoomTarget activeWidth cropWidth = min 2147483647 ⌊100 * (activeWidth : ℚ) / cropWidth⌋ ∧
      100 ≤ ⌊100 * (activeWidth : ℚ) / cropWidth⌋ := by
  have hcrop' : (1 : ℚ) ≤ cropWidth := by exact_mod_cast hcrop
  have hactive' : (cropWidth : ℚ) ≤ activeWidth := by exact_mod_cast hactive
  have hfloor : 100 ≤ ⌊100 * (activeWidth : ℚ) / cropWidth⌋ := by
    rw [Int.le_floor, le_div_iff₀ (by linarith)]
    push_cast
    linarith
  have hcomm : (activeWidth : ℚ) / cropWidth * 100 = 100 * activeWidth / cropWidth := by ring
  have hnonneg : 0 ≤ 100 * (activeWidth : ℚ) / cropWidth :=
    div_nonneg (by linarith) (by linarith)
  rw [zoomTarget, hcomm, truncate_of_nonneg hnonneg, saturate_of_nonneg (by linarith)]
  exact ⟨rfl, hfloor⟩

/-- A narrower crop region has a ratio that is not less. -/
theorem zoomTarget_mono {activeWidth cropWidth narrower : ℤ} (hnarrower : 1 ≤ narrower)
    (hle : narrower ≤ cropWidth) (hactive : cropWidth ≤ activeWidth) :
    zoomTarget activeWidth cropWidth ≤ zoomTarget activeWidth narrower := by
  have hpos : (0 : ℚ) < narrower := by exact_mod_cast hnarrower
  have hle' : (narrower : ℚ) ≤ cropWidth := by exact_mod_cast hle
  have hnonneg : (0 : ℚ) ≤ 100 * activeWidth := by
    have hactive' : (cropWidth : ℚ) ≤ activeWidth := by exact_mod_cast hactive
    linarith
  rw [(zoomTarget_eq (hnarrower.trans hle) hactive).1,
    (zoomTarget_eq hnarrower (hle.trans hactive)).1]
  exact min_le_min_left _ (Int.floor_mono (div_le_div_of_nonneg_left hnonneg hpos hle'))

/-- All ratios are an `int`. -/
theorem le_of_mem_parsedRatios {r : ℤ} (h : r ∈ parsedRatios zoomRatios) : r ≤ 2147483647 := by
  obtain ⟨token, -, rfl⟩ := List.mem_map.mp h
  exact saturate_le _

/-- Cutting off a target that is too large does not change what is nearest. -/
theorem isNearest_of_min {t : ℤ} {i : ℕ} (hrs : ∀ r ∈ rs, r ≤ 2147483647)
    (h : IsNearest rs (min 2147483647 t) i) : IsNearest rs t i := by
  obtain ⟨hi, hleast⟩ := h
  refine ⟨hi, fun r hr => ?_⟩
  have hle := hleast r hr
  rcases le_or_gt t 2147483647 with ht | ht
  · rwa [min_eq_right ht] at hle
  · rw [min_eq_left ht.le] at hle
    have hri := hrs _ (List.getElem_mem hi)
    have hr := hrs r hr
    rw [abs_of_nonneg (by linarith), abs_of_nonneg (by linarith)] at hle ⊢
    linarith

/-- **The zoom is the nearest one.** The place is one of the list, its ratio is nearest to that of
the crop region, and for a narrower one the place is not less. -/
theorem zoomValue_spec {activeWidth cropWidth : ℤ} (hrs : parsedRatios zoomRatios = rs)
    (hne : rs ≠ []) (hsorted : rs.Pairwise (· ≤ ·)) (hpos : ∀ r ∈ rs, 0 < r)
    (hcrop : 1 ≤ cropWidth) (hactive : cropWidth ≤ activeWidth) :
    let table := (convertZoom z (some zoomSupported) (some zoomRatios)).1
    IsNearest rs ⌊100 * (activeWidth : ℚ) / cropWidth⌋ (table.zoomValue activeWidth cropWidth) ∧
      ∀ narrower, 1 ≤ narrower → narrower ≤ cropWidth →
        table.zoomValue activeWidth cropWidth ≤ table.zoomValue activeWidth narrower := by
  intro table
  obtain ⟨hsteps, hratios⟩ : (table.steps + 1).toNat = rs.length ∧
      ∀ i (hi : i < rs.length), table.ratios i = rs[i] := convertZoom_spec hrs
  have hint : ∀ r ∈ rs, r ≤ 2147483647 := fun r hr => le_of_mem_parsedRatios (hrs ▸ hr)
  -- the first ratio is nearer than what the search starts with
  have hfound : ∀ w, 1 ≤ w → w ≤ activeWidth →
      ∃ i < rs.length, |zoomTarget activeWidth w - table.ratios i| < 2147483647 := by
    intro w hw hle
    have hzero := List.length_pos_of_ne_nil hne
    obtain ⟨htarget, hlarge⟩ := zoomTarget_eq hw hle
    refine ⟨0, hzero, ?_⟩
    have hfirst := hpos _ (List.getElem_mem hzero)
    have hfirst' := hint _ (List.getElem_mem hzero)
    rw [hratios 0 hzero, htarget, abs_lt]
    omega
  have hmono : ∀ i j, i ≤ j → j < rs.length → table.ratios i ≤ table.ratios j := by
    intro i j hij hj
    rw [hratios i (hij.trans_lt hj), hratios j hj]
    rcases hij.lt_or_eq with hlt | rfl
    · exact List.pairwise_iff_getElem.mp hsorted i j _ hj hlt
    · exact le_rfl
  constructor
  · apply isNearest_of_min hint
    rw [← (zoomTarget_eq hcrop hactive).1]
    obtain ⟨hlt, hleast, -⟩ := @firstLeast_range _ _ (fun i =>
      |zoomTarget activeWidth cropWidth - table.ratios i|) (0, 2147483647) _
      (hfound cropWidth hcrop hactive)
    rw [ZoomTable.zoomValue, ZoomTable.search, hsteps]
    refine ⟨hlt, fun r hr => ?_⟩
    obtain ⟨j, hj, rfl⟩ := List.getElem_of_mem hr
    rw [← hratios _ hlt, ← hratios j hj]
    exact hleast j hj
  · intro narrower hnarrower hle
    rw [ZoomTable.zoomValue, ZoomTable.zoomValue, ZoomTable.search, ZoomTable.search, hsteps]
    exact firstLeast_dist_mono hmono (zoomTarget_mono hnarrower hle hactive)
      (hfound cropWidth hcrop hactive) (hfound narrower hnarrower (hle.trans hactive))

/-- Ratios from one to two, and a region of half the width. -/
theorem zoomValue_half :
    let table := (convertZoom ⟨fun _ => 0, 0⟩ (some "true".toList)
      (some "100,150,200".toList)).1
    IsNearest [100, 150, 200] ⌊100 * ((4160 : ℤ) : ℚ) / (2080 : ℤ)⌋ (table.zoomValue 4160 2080) ∧
      ∀ narrower, 1 ≤ narrower → narrower ≤ 2080 →
        table.zoomValue 4160 2080 ≤ table.zoomValue 4160 narrower :=
  zoomValue_spec (by decide) (by decide) (by decide) (by decide) (by decide) (by decide)

/-! ## As a setting -/

/-- The search with the places of a list instead of an array. -/
theorem foldl_search (t : ℤ) (r : ℕ → ℤ) (best : ℤ × ℕ) (l : List ℕ) :
    (l.map fun i => (r i, i)).foldl (fun best ratio =>
      if |t - ratio.1| < best.1 then (|t - ratio.1|, ratio.2) else best) best =
      (firstLeast (fun i => |t - r i|) best.swap l).swap := by
  induction l generalizing best with
  | nil => rfl
  | cons i l ih =>
    rw [List.map_cons, List.foldl_cons, ih, firstLeast_cons]
    simp only [Prod.snd_swap]
    split_ifs <;> rfl

/-- A list of ratios is searched like an array that holds them. -/
theorem hal3ToHal1Zoom_eq_firstLeast (info : StaticMetadata) (cropWidth : ℤ) {r : ℕ → ℤ}
    (hr : ∀ i (hi : i < info.zoomRatios.length), r i = info.zoomRatios[i]) :
    hal3ToHal1Zoom info cropWidth =
      (firstLeast (fun i => |info.zoomTarget cropWidth - r i|) (0, 2147483647)
        (List.range info.zoomRatios.length)).1 := by
  have hplaces : info.zoomRatios.zipIdx =
      (List.range info.zoomRatios.length).map fun i => (r i, i) := by
    apply List.ext_getElem
    · simp
    · intro i hi _
      rw [List.length_zipIdx] at hi
      simp [hr i hi]
  simp only [hal3ToHal1Zoom, hplaces, foldl_search]
  rfl

/-- What the settings of a request say about zoom is what the search finds. -/
theorem hal3ToHal1Zoom_eq {info : StaticMetadata} {activeWidth : ℤ}
    (hrs : parsedRatios zoomRatios = info.zoomRatios)
    (htarget : info.zoomTarget = zoomTarget activeWidth) (cropWidth : ℤ) :
    hal3ToHal1Zoom info cropWidth =
      (convertZoom z (some zoomSupported) (some zoomRatios)).1.zoomValue activeWidth cropWidth := by
  obtain ⟨hsteps, hratios⟩ := @convertZoom_spec z zoomSupported _ _ hrs
  rw [hal3ToHal1Zoom_eq_firstLeast info cropWidth hratios, ZoomTable.zoomValue, ZoomTable.search,
    hsteps, htarget]

end OppoA37.Camera
