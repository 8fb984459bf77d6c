import OppoA37.Lib.Block

/-!
# Pictures for the encoder

The encoder wants its pictures in the layout `venus`: rows of a multiple of 128 bytes, a
multiple of 32 of them for the brightness, and behind these a multiple of 16 for the colours.
What the legacy camera records has the same layout for its own size, which may be another one.

`a37_copy_yuv420sp_to_venus` copies what both pictures have, and fills the rest with black. It has
a plain path, row by row, and one for pictures without gaps, which copies a plane at once.

* `venusPlane_eq` — either path frames the picture in its plane;
* `copy_contig` — so both come to the same;
* `copy_spec` — what is in the visible part, and that nothing is written behind the picture.

Sizes are natural numbers here; those of the source are `int`s, of pictures that are in memory.
-/

namespace OppoA37.Camera

/-- `A37_ALIGN` -/
def a37Align (v a : ℕ) : ℕ := (v + a - 1) / a * a

/-- Bytes of a row. -/
def venusStride (w : ℕ) : ℕ := a37Align w 128

/-- Rows of the brightness. -/
def venusScanlines (h : ℕ) : ℕ := a37Align h 32

/-- Rows of the colours. -/
def venusUvLines (h : ℕ) : ℕ := a37Align (h / 2) 16

/-- Where the colours begin. -/
def venusUvOffset (w h : ℕ) : ℕ := venusStride w * venusScanlines h

/-- The bytes of a picture. -/
def venusSize (w h : ℕ) : ℕ := venusStride w * (venusScanlines h + venusUvLines h)

/-- One plane of `a37_copy_yuv420sp_to_venus`: the rows that are copied, at once or one by one,
and the lines below them. -/
def venusPlane (a37Contig : Bool) (neutral : UInt8) (dst : Block UInt8) (dstOff : ℕ)
    (src : Block UInt8) (srcOff dstStride srcStride copyW copyH lines : ℕ) :
    Option (Block UInt8) :=
  (if a37Contig then dst.copy dstOff src srcOff (copyH * dstStride)
    else dst.copyRowsPadded dstOff src srcOff dstStride srcStride copyW neutral copyH).bind
    fun dst =>
      if copyH < lines then
        dst.fill (dstOff + copyH * dstStride) ((lines - copyH) * dstStride) neutral
      else some dst

/-- `a37_copy_yuv420sp_to_venus`, with the path it takes. -/
def a37CopyBy (a37Contig : Bool) (dst : Block UInt8) (dstW dstH : ℕ) (src : Block UInt8)
    (srcW srcH : ℕ) : Option (Block UInt8) :=
  let copyW := min srcW dstW
  let copyH := min srcH dstH
  (venusPlane a37Contig 16 dst 0 src 0 (venusStride dstW) (venusStride srcW) copyW copyH
    (venusScanlines dstH)).bind fun dst =>
      venusPlane a37Contig 128 dst (venusUvOffset dstW dstH) src (venusUvOffset srcW srcH)
        (venusStride dstW) (venusStride srcW) copyW (copyH / 2) (venusUvLines dstH)

/-- `a37_contig` -/
def a37Contig (dstW srcW : ℕ) : Bool :=
  venusStride srcW = venusStride dstW ∧ min srcW dstW = venusStride dstW

/-- `a37_copy_yuv420sp_to_venus` -/
def a37CopyYuv420spToVenus (dst : Block UInt8) (dstW dstH : ℕ) (src : Block UInt8)
    (srcW srcH : ℕ) : Option (Block UInt8) :=
  a37CopyBy (a37Contig dstW srcW) dst dstW dstH src srcW srcH

/-! ## Alignment -/

/-- What is aligned is not less. -/
theorem le_a37Align (v : ℕ) {a : ℕ} (ha : 0 < a) : v ≤ a37Align v a := by
  have hmod := Nat.div_add_mod (v + a - 1) a
  have hlt := Nat.mod_lt (v + a - 1) ha
  rw [mul_comm] at hmod
  rw [a37Align]
  omega

theorem le_venusStride (w : ℕ) : w ≤ venusStride w := le_a37Align w (Nat.succ_pos _)

theorem le_venusScanlines (h : ℕ) : h ≤ venusScanlines h := le_a37Align h (Nat.succ_pos _)

theorem le_venusUvLines (h : ℕ) : h / 2 ≤ venusUvLines h := le_a37Align _ (Nat.succ_pos _)

theorem venusSize_eq (w h : ℕ) :
    venusSize w h = venusUvOffset w h + venusUvLines h * venusStride w := by
  rw [venusSize, venusUvOffset]
  ring

/-! ## One plane -/

section Plane

variable {neutral : UInt8} {dst src : Block UInt8}
  {dstOff srcOff dstStride srcStride copyW copyH lines : ℕ}

/-- **One plane.** Either path frames the picture, the short one if neither side has gaps. -/
theorem venusPlane_eq {a37Contig : Bool}
    (hcontig : a37Contig = true → srcStride = dstStride ∧ copyW = dstStride)
    (hcopyW : copyW ≤ dstStride) (hcopyH : copyH ≤ lines)
    (hdst : dstOff + lines * dstStride ≤ dst.size)
    (hsrc : srcOff + copyH * srcStride ≤ src.size) (hwidth : copyW ≤ srcStride) :
    venusPlane a37Contig neutral dst dstOff src srcOff dstStride srcStride copyW copyH lines =
      some (dst.framed dstOff src srcOff dstStride srcStride copyW neutral copyH lines) := by
  have hrows : dstOff + copyH * dstStride ≤ dst.size := by
    have hle : copyH * dstStride ≤ lines * dstStride := Nat.mul_le_mul_right _ hcopyH
    omega
  have hcopied : (if a37Contig = true then dst.copy dstOff src srcOff (copyH * dstStride)
      else dst.copyRowsPadded dstOff src srcOff dstStride srcStride copyW neutral copyH) =
      some (dst.framed dstOff src srcOff dstStride srcStride copyW neutral copyH copyH) := by
    split_ifs with hpath
    · obtain ⟨hstride, hw⟩ := hcontig hpath
      rw [hstride, hw]
      exact Block.copy_eq_framed hrows (by rwa [hstride] at hsrc)
    · refine Block.copyRowsPadded_eq hcopyW hrows fun i hi => ?_
      have hrow : i * srcStride + srcStride ≤ copyH * srcStride := by
        rw [← Nat.succ_mul]
        exact Nat.mul_le_mul_right _ hi
      omega
  rw [venusPlane, hcopied, Option.bind_some]
  split_ifs with hbelow
  · exact Block.fill_framed hcopyH hdst
  · rw [Nat.le_antisymm hcopyH (not_lt.mp hbelow)]

end Plane

/-! ## Whole pictures -/

section Picture

variable {dst src : Block UInt8} {dstW dstH srcW srcH : ℕ}

/-- The picture with its brightness framed. -/
def lumaFramed (dst : Block UInt8) (dstW dstH : ℕ) (src : Block UInt8) (srcW srcH : ℕ) :
    Block UInt8 :=
  dst.framed 0 src 0 (venusStride dstW) (venusStride srcW) (min srcW dstW) 16 (min srcH dstH)
    (venusScanlines dstH)

/-- The picture with brightness and colours framed. -/
def venusFramed (dst : Block UInt8) (dstW dstH : ℕ) (src : Block UInt8) (srcW srcH : ℕ) :
    Block UInt8 :=
  (lumaFramed dst dstW dstH src srcW srcH).framed (venusUvOffset dstW dstH) src
    (venusUvOffset srcW srcH) (venusStride dstW) (venusStride srcW) (min srcW dstW) 128
    (min srcH dstH / 2) (venusUvLines dstH)

/-- On either path that may be taken, both planes are framed. -/
theorem a37CopyBy_eq {path : Bool} (hpath : path = true → a37Contig dstW srcW = true)
    (hdst : venusSize dstW dstH ≤ dst.size) (hsrc : venusSize srcW srcH ≤ src.size) :
    a37CopyBy path dst dstW dstH src srcW srcH =
      some (venusFramed dst dstW dstH src srcW srcH) := by
  rw [venusSize_eq] at hdst hsrc
  have hcontig (h : path = true) :
      venusStride srcW = venusStride dstW ∧ min srcW dstW = venusStride dstW :=
    of_decide_eq_true (hpath h)
  have hdstW : min srcW dstW ≤ venusStride dstW := (min_le_right _ _).trans (le_venusStride _)
  have hsrcW : min srcW dstW ≤ venusStride srcW := (min_le_left _ _).trans (le_venusStride _)
  have hoffset (w h : ℕ) : venusUvOffset w h = venusScanlines h * venusStride w := mul_comm _ _
  -- the rows that are copied are there on both sides
  have hlines : min srcH dstH ≤ venusScanlines dstH :=
    (min_le_right _ _).trans (le_venusScanlines _)
  have huvLines : min srcH dstH / 2 ≤ venusUvLines dstH :=
    (Nat.div_le_div_right (min_le_right _ _)).trans (le_venusUvLines _)
  have hlumaSrc : 0 + min srcH dstH * venusStride srcW ≤ src.size := by
    have hle : min srcH dstH * venusStride srcW ≤ venusUvOffset srcW srcH := by
      rw [hoffset]
      exact Nat.mul_le_mul_right _ ((min_le_left _ _).trans (le_venusScanlines _))
    omega
  have huvSrc : venusUvOffset srcW srcH + min srcH dstH / 2 * venusStride srcW ≤ src.size := by
    have hle : min srcH dstH / 2 * venusStride srcW ≤ venusUvLines srcH * venusStride srcW :=
      Nat.mul_le_mul_right _
        ((Nat.div_le_div_right (min_le_left _ _)).trans (le_venusUvLines _))
    omega
  have hluma : venusPlane path 16 dst 0 src 0 (venusStride dstW) (venusStride srcW)
      (min srcW dstW) (min srcH dstH) (venusScanlines dstH) =
      some (lumaFramed dst dstW dstH src srcW srcH) :=
    venusPlane_eq hcontig hdstW hlines (by rw [hoffset] at hdst; omega) hlumaSrc hsrcW
  rw [a37CopyBy, hluma, Option.bind_some]
  exact venusPlane_eq hcontig hdstW huvLines hdst huvSrc hsrcW

/-- **Both paths come to the same** where the short one is taken. -/
theorem copy_contig (hdst : venusSize dstW dstH ≤ dst.size)
    (hsrc : venusSize srcW srcH ≤ src.size) :
    a37CopyYuv420spToVenus dst dstW dstH src srcW srcH =
      a37CopyBy false dst dstW dstH src srcW srcH := by
  have hplain : a37CopyBy false dst dstW dstH src srcW srcH =
      some (venusFramed dst dstW dstH src srcW srcH) :=
    a37CopyBy_eq (fun h => absurd h Bool.false_ne_true) hdst hsrc
  rw [a37CopyYuv420spToVenus, a37CopyBy_eq id hdst hsrc, hplain]

/-- What is framed, byte by byte. -/
structure Copied (dst : Block UInt8) (dstW dstH : ℕ) (src : Block UInt8) (srcW srcH : ℕ)
    (b : Block UInt8) : Prop where
  size : b.size = dst.size
  /-- the brightness of a pixel: that of the source, or black where the source has no pixel -/
  luma : ∀ x y, x < dstW → y < dstH → b.get (y * venusStride dstW + x) =
    if x < srcW ∧ y < srcH then src.get (y * venusStride srcW + x) else 16
  /-- a byte of the colours of two rows of pixels: that of the source, or grey -/
  chroma : ∀ x r, x < dstW → 2 * r < dstH →
    b.get (venusUvOffset dstW dstH + r * venusStride dstW + x) =
      if x < srcW ∧ 2 * r < srcH then
        src.get (venusUvOffset srcW srcH + r * venusStride srcW + x)
      else 128
  /-- nothing is written behind the picture -/
  behind : ∀ k, venusSize dstW dstH ≤ k → b.get k = dst.get k

/-- The framed picture has the pixels of the source. -/
theorem copied_venusFramed (hsrcH : Even srcH) (hdstH : Even dstH) :
    Copied dst dstW dstH src srcW srcH (venusFramed dst dstW dstH src srcW srcH) where
  size := rfl
  luma x y hx hy := by
    have hline : y < venusScanlines dstH := hy.trans_le (le_venusScanlines _)
    have hcol : x < venusStride dstW := hx.trans_le (le_venusStride _)
    -- the colours are framed behind the brightness
    have hbefore : y * venusStride dstW + x < venusUvOffset dstW dstH := by
      have hrow : y * venusStride dstW + venusStride dstW ≤
          venusScanlines dstH * venusStride dstW := by
        rw [← Nat.succ_mul]
        exact Nat.mul_le_mul_right _ hline
      rw [venusUvOffset, mul_comm (venusStride dstW) (venusScanlines dstH)]
      omega
    have hget : (lumaFramed dst dstW dstH src srcW srcH).get (0 + y * venusStride dstW + x) =
        if y < min srcH dstH ∧ x < min srcW dstW then src.get (0 + y * venusStride srcW + x)
        else 16 := Block.get_framed hline hcol
    rw [zero_add, zero_add] at hget
    rw [venusFramed, Block.get_framed_of_lt hbefore, hget]
    exact if_congr (by omega) rfl rfl
  chroma x r hx hr := by
    have hline : r < venusUvLines dstH :=
      lt_of_lt_of_le (by obtain ⟨m, rfl⟩ := hdstH; omega) (le_venusUvLines dstH)
    rw [venusFramed, Block.get_framed hline (hx.trans_le (le_venusStride _))]
    -- half of the rows that both have
    obtain ⟨m, rfl⟩ := hsrcH
    obtain ⟨m', rfl⟩ := hdstH
    exact if_congr (by omega) rfl rfl
  behind k hk := by
    rw [venusSize_eq] at hk
    have hoffset : venusUvOffset dstW dstH = venusScanlines dstH * venusStride dstW := mul_comm _ _
    rw [venusFramed, Block.get_framed_of_le hk, lumaFramed, Block.get_framed_of_le (by omega)]

/-- **Pictures for the encoder.** For even heights and all contents: the visible part of the
picture has the bytes of the source where both have the pixel and is black elsewhere; nothing is
written behind the picture, so a buffer of its size is enough; and the path for pictures without
gaps writes the same buffer as the other one. -/
theorem copy_spec (dst src : Block UInt8) (dstW dstH srcW srcH : ℕ) (hsrcH : Even srcH)
    (hdstH : Even dstH) (hdst : venusSize dstW dstH ≤ dst.size)
    (hsrc : venusSize srcW srcH ≤ src.size) :
    (∃ b, a37CopyYuv420spToVenus dst dstW dstH src srcW srcH = some b ∧
      Copied dst dstW dstH src srcW srcH b) ∧
    a37CopyYuv420spToVenus dst dstW dstH src srcW srcH =
      a37CopyBy false dst dstW dstH src srcW srcH :=
  ⟨⟨_, a37CopyBy_eq id hdst hsrc, copied_venusFramed hsrcH hdstH⟩, copy_contig hdst hsrc⟩

/-- A narrow source in a wide buffer of just the right size: what is copied, what is black, and
that the plain path was taken. -/
theorem copy_spec_narrow : ∃ b : Block UInt8,
    a37CopyYuv420spToVenus ⟨12288, fun _ => 0⟩ 256 2 ⟨venusSize 2 4, fun _ => 7⟩ 2 4 = some b ∧
      b.get 257 = 7 ∧ b.get 258 = 16 ∧ b.get 8192 = 7 ∧ b.get 8194 = 128 := by
  obtain ⟨⟨b, hb, hcopied⟩, -⟩ := copy_spec ⟨12288, fun _ => 0⟩ ⟨venusSize 2 4, fun _ => 7⟩
    256 2 2 4 (by decide) (by decide) (by decide) (by decide)
  refine ⟨b, hb, ?_, ?_, ?_, ?_⟩
  · exact hcopied.luma 1 1 (by decide) (by decide)
  · exact hcopied.luma 2 1 (by decide) (by decide)
  · exact hcopied.chroma 0 0 (by decide) (by decide)
  · exact hcopied.chroma 2 0 (by decide) (by decide)

end Picture

end OppoA37.Camera
