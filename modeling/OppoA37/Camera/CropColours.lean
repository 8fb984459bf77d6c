import OppoA37.Camera.Copies

/-!
# The colours of a part of a picture

The colours of a `yuv420sp` picture are half as many rows as there are pixels, and in each row
a pair of bytes for two pixels: V first, then U. A part of a picture keeps whole rows of its
colours together, shifted by as many bytes as its pixels. A shift by an odd number of bytes
takes U for V and the V of the next pair for U.

`cropsRight_iff` says which parts from the middle of a picture come out right: those whose sides
are even, for only they have colours for all of their pixels, and which are shifted by an even
number of pixels.
-/

namespace OppoA37.Camera

universe u

variable {α : Type u} {srcWidth srcHeight width height x y : ℕ}

/-! ## The property -/

/-- What is cropped has the pixels of a part of the picture, and for each pair of its colours a
pair of the picture's colours. -/
structure CroppedRight (src : Block α) (srcWidth srcHeight x y width height : ℕ) (b : Block α) :
    Prop where
  /-- exactly the bytes of a picture of this size are written -/
  size : b.size = width * height * 3 / 2
  luma : ∀ i < height, ∀ j < width,
    b.get (i * width + j) = src.get ((y + i) * srcWidth + x + j)
  chroma : ∀ i < height / 2, ∀ q < width / 2, ∃ r c, r < srcHeight / 2 ∧ 2 * c + 1 < srcWidth ∧
    b.get (width * height + i * width + 2 * q) =
      src.get (srcWidth * srcHeight + r * srcWidth + 2 * c) ∧
    b.get (width * height + i * width + (2 * q + 1)) =
      src.get (srcWidth * srcHeight + r * srcWidth + (2 * c + 1))

/-- Every frame is cropped right, in memory that may hold anything. -/
def CropsRight (α : Type u) (srcWidth srcHeight width height : ℕ) : Prop :=
  ∀ (uninitialised : ℕ → α) (src : Block α), src.size = pictureSize srcWidth srcHeight →
    let point := getCropPoint srcWidth srcHeight width height
    ∃ b, yuv420spCrop uninitialised src srcWidth srcHeight point.1 point.2 width height = some b ∧
      CroppedRight src srcWidth srcHeight point.1 point.2 width height b

/-- Both sides are even, so that there are colours for all pixels, and the part is shifted by an
even number of pixels. -/
def KeepsPairs (srcWidth width height : ℕ) : Prop :=
  Even width ∧ Even height ∧ Even ((srcWidth - width) / 2)

instance (srcWidth width height : ℕ) : Decidable (KeepsPairs srcWidth width height) :=
  inferInstanceAs (Decidable (_ ∧ _ ∧ _))

/-! ## Sizes -/

/-- The point of a part that is not larger. -/
theorem getCropPoint_eq (hw : width ≤ srcWidth) (hh : height ≤ srcHeight) :
    getCropPoint srcWidth srcHeight width height =
      ((srcWidth - width) / 2, (srcHeight - height) / 2) :=
  if_neg (by omega)

/-- What is set aside for the colours is half of the picture just if both sides are even, or if
there is no more than a pixel. -/
theorem half_iff (width height : ℕ) : width / 2 * (height / 2) * 2 = width * height / 2 ↔
    width * height ≤ 1 ∨ Even width ∧ Even height := by
  obtain ⟨m, rfl | rfl⟩ := Nat.even_or_odd' width <;>
    obtain ⟨n, rfl | rfl⟩ := Nat.even_or_odd' height
  · have hsides : Even (2 * m) ∧ Even (2 * n) := ⟨even_two_mul m, even_two_mul n⟩
    have hhalf : 2 * m * (2 * n) / 2 = m * n * 2 :=
      Nat.div_eq_of_eq_mul_left two_pos (by ring)
    simp [hsides, hhalf]
  · have hodd : ¬ Even (2 * n + 1) := Nat.not_even_iff_odd.mpr ⟨n, rfl⟩
    have hhalf : 2 * m * (2 * n + 1) / 2 = m * n * 2 + m :=
      Nat.div_eq_of_eq_mul_left two_pos (by ring)
    have hn : (2 * n + 1) / 2 = n := by omega
    rw [hhalf, hn, Nat.mul_div_cancel_left m two_pos]
    simp only [hodd, and_false, or_false]
    constructor
    · intro h
      obtain rfl : m = 0 := by omega
      simp
    · intro h
      rcases Nat.eq_zero_or_pos m with rfl | hpos
      · simp
      · exact absurd h (by nlinarith)
  · have hodd : ¬ Even (2 * m + 1) := Nat.not_even_iff_odd.mpr ⟨m, rfl⟩
    have hhalf : (2 * m + 1) * (2 * n) / 2 = m * n * 2 + n :=
      Nat.div_eq_of_eq_mul_left two_pos (by ring)
    have hm : (2 * m + 1) / 2 = m := by omega
    rw [hhalf, hm, Nat.mul_div_cancel_left n two_pos]
    simp only [hodd, false_and, or_false]
    constructor
    · intro h
      obtain rfl : n = 0 := by omega
      simp
    · intro h
      rcases Nat.eq_zero_or_pos n with rfl | hpos
      · simp
      · exact absurd h (by nlinarith)
  · have hodd : ¬ Even (2 * m + 1) := Nat.not_even_iff_odd.mpr ⟨m, rfl⟩
    have hprod : (2 * m + 1) * (2 * n + 1) = 2 * (m * n * 2 + m + n) + 1 := by ring
    have hm : (2 * m + 1) / 2 = m := by omega
    have hn : (2 * n + 1) / 2 = n := by omega
    rw [hprod, hm, hn]
    simp only [hodd, false_and, or_false]
    constructor
    · intro h
      obtain ⟨rfl, rfl⟩ : m = 0 ∧ n = 0 := by omega
      simp
    · intro h
      omega

/-! ## Parts that are shifted by an even number -/

/-- Such a part is cropped right. -/
theorem croppedRight_of_even {src b : Block α} (hx : x + width ≤ srcWidth)
    (hy : y + height ≤ srcHeight) (heven : Even x ∨ width < 2 ∨ height < 2)
    (hsize : b.size = pictureSize width height)
    (hluma : ∀ i < height, ∀ j < width,
      b.get (i * width + j) = src.get ((y + i) * srcWidth + x + j))
    (hchroma : ∀ i < height / 2, ∀ j < width, b.get (width * height + i * width + j) =
      src.get (srcWidth * srcHeight + (y / 2 + i) * srcWidth + x + j)) :
    CroppedRight src srcWidth srcHeight x y width height b := by
  refine ⟨hsize, hluma, fun i hi q hq => ?_⟩
  obtain ⟨c, hc⟩ : Even x := by
    rcases heven with hx | hw | hh
    · exact hx
    · omega
    · omega
  refine ⟨y / 2 + i, c + q, by omega, by omega, ?_, ?_⟩
  · rw [hchroma i hi (2 * q) (by omega), hc]
    congr 1
    ring
  · rw [hchroma i hi (2 * q + 1) (by omega), hc]
    congr 1
    ring

/-! ## Parts that are shifted by an odd number -/

/-- A picture of one colour: all bytes V have the value `v`, and the others another one. -/
def plain (v other : α) (srcWidth srcHeight : ℕ) : Block α where
  size := pictureSize srcWidth srcHeight
  get k := if (k - srcWidth * srcHeight) % srcWidth % 2 = 0 then v else other

/-- A byte of its colours, by row and column. -/
theorem get_plain {v other : α} {r j : ℕ} (hj : j < srcWidth) :
    (plain v other srcWidth srcHeight).get (srcWidth * srcHeight + r * srcWidth + j) =
      if j % 2 = 0 then v else other := by
  have hcol : (srcWidth * srcHeight + r * srcWidth + j - srcWidth * srcHeight) % srcWidth = j := by
    rw [Nat.add_assoc, Nat.add_sub_cancel_left, mul_comm r, Nat.mul_add_mod, Nat.mod_eq_of_lt hj]
  simp only [plain, hcol]

/-- A part of it that is shifted by an odd number has V and U interchanged. -/
theorem not_croppedRight_of_odd {v other : α} (hne : v ≠ other) {b : Block α}
    (hx : x + width ≤ srcWidth) (hodd : ¬ Even x) (hw : 2 ≤ width) (hh : 2 ≤ height)
    (hchroma : ∀ i < height / 2, ∀ j < width, b.get (width * height + i * width + j) =
      (plain v other srcWidth srcHeight).get
        (srcWidth * srcHeight + (y / 2 + i) * srcWidth + x + j)) :
    ¬ CroppedRight (plain v other srcWidth srcHeight) srcWidth srcHeight x y width height b := by
  intro hright
  obtain ⟨r, c, -, hc, hV, -⟩ := hright.chroma 0 (by omega) 0 (by omega)
  have hfirst := hchroma 0 (by omega) (2 * 0) (by omega)
  rw [Nat.add_assoc _ x, get_plain (by omega)] at hfirst
  rw [hfirst, get_plain (by omega), if_neg (by rw [Nat.even_iff] at hodd; omega),
    if_pos (by omega)] at hV
  exact hne hV.symm

/-! ## Which parts come out right -/

/-- A part from the middle that is not larger than the picture, as it is cropped. -/
theorem crop_middle (uninitialised : ℕ → α) {src : Block α} (hw : width ≤ srcWidth)
    (hh : height ≤ srcHeight) (hsize : src.size = pictureSize srcWidth srcHeight)
    (hhalf : width / 2 * (height / 2) * 2 = width * height / 2) :
    let x := (srcWidth - width) / 2
    let y := (srcHeight - height) / 2
    ∃ b, yuv420spCrop uninitialised src srcWidth srcHeight x y width height = some b ∧
      b.size = pictureSize width height ∧
      (∀ i < height, ∀ j < width,
        b.get (i * width + j) = src.get ((y + i) * srcWidth + x + j)) ∧
      ∀ i < height / 2, ∀ j < width, b.get (width * height + i * width + j) =
        src.get (srcWidth * srcHeight + (y / 2 + i) * srcWidth + x + j) :=
  yuv420spCrop_spec (by omega) (by omega) hsize hhalf

/-- A picture of one colour shows that a part that is shifted by an odd number is not right. -/
theorem not_cropsRight_of_odd [Nontrivial α] (hw : width ≤ srcWidth) (hh : height ≤ srcHeight)
    (hhalf : width / 2 * (height / 2) * 2 = width * height / 2)
    (hodd : ¬ Even ((srcWidth - width) / 2)) (hwidth : 2 ≤ width) (hheight : 2 ≤ height) :
    ¬ CropsRight α srcWidth srcHeight width height := by
  intro hall
  obtain ⟨v, other, hne⟩ := exists_pair_ne α
  have hsize : (plain v other srcWidth srcHeight).size = pictureSize srcWidth srcHeight := rfl
  obtain ⟨b, hb, hright⟩ := hall (fun _ => v) _ hsize
  rw [getCropPoint_eq hw hh] at hb hright
  obtain ⟨b', hb', -, -, hchroma⟩ := crop_middle (fun _ => v) hw hh hsize hhalf
  obtain rfl : b = b' := Option.some.inj (hb.symm.trans hb')
  exact not_croppedRight_of_odd hne (by omega) hodd hwidth hheight hchroma hright

/-- **The colours of a part.** Of pictures of any size, the parts from their middle that come out
right whatever the picture are those with even sides that are shifted by an even number of
pixels, besides those with no more than one pixel. -/
theorem cropsRight_iff [Nontrivial α] (hw : width ≤ srcWidth) (hh : height ≤ srcHeight) :
    CropsRight α srcWidth srcHeight width height ↔
      width * height ≤ 1 ∨ KeepsPairs srcWidth width height := by
  constructor
  · intro hall
    -- the sides, by what is set aside
    have hhalf : width / 2 * (height / 2) * 2 = width * height / 2 := by
      obtain ⟨v, other, -⟩ := exists_pair_ne α
      obtain ⟨b, hb, hright⟩ := hall (fun _ => v) (plain v other srcWidth srcHeight) rfl
      have hpicture : b.size = pictureSize width height := hright.size
      rw [size_of_crop hb, pictureSize_eq] at hpicture
      omega
    rcases (half_iff width height).mp hhalf with hsmall | ⟨hwidth, hheight⟩
    · exact Or.inl hsmall
    · by_cases hzero : width * height ≤ 1
      · exact Or.inl hzero
      · refine Or.inr ⟨hwidth, hheight, ?_⟩
        by_contra hodd
        have hw₀ : width ≠ 0 := fun h0 => hzero (by simp [h0])
        have hh₀ : height ≠ 0 := fun h0 => hzero (by simp [h0])
        rw [Nat.even_iff] at hwidth hheight
        exact not_cropsRight_of_odd hw hh hhalf hodd (by omega) (by omega) hall
  · intro hcond uninitialised src hsrc
    have hhalf : width / 2 * (height / 2) * 2 = width * height / 2 :=
      (half_iff width height).mpr (hcond.imp_right fun h => ⟨h.1, h.2.1⟩)
    have heven : Even ((srcWidth - width) / 2) ∨ width < 2 ∨ height < 2 := by
      rcases hcond with hsmall | ⟨-, -, hpoint⟩
      · by_contra hno
        have hsides : 2 ≤ width ∧ 2 ≤ height := by omega
        have hprod : 2 * 2 ≤ width * height := Nat.mul_le_mul hsides.1 hsides.2
        omega
      · exact Or.inl hpoint
    obtain ⟨b, hb, hsize, hluma, hchroma⟩ := crop_middle uninitialised hw hh hsrc hhalf
    rw [getCropPoint_eq hw hh]
    exact ⟨b, hb, croppedRight_of_even (by omega) (by omega) heven hsize hluma hchroma⟩

/-- There are two bytes at least. -/
instance nontrivialByte : Nontrivial UInt8 := ⟨0, 1, by decide⟩

/-- Pictures from the middle of a preview, shifted by 320 pixels. -/
theorem cropsRight_middle : CropsRight UInt8 1280 720 640 480 :=
  (cropsRight_iff (by decide) (by decide)).mpr (Or.inr (by decide))

/-- Pictures that are shifted by 213 pixels: V and U are interchanged. -/
theorem not_cropsRight_shifted : ¬ CropsRight UInt8 1280 720 854 480 :=
  not_cropsRight_of_odd (by decide) (by decide) (by decide) (by decide) (by decide) (by decide)

end OppoA37.Camera
