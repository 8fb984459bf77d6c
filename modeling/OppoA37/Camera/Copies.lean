import OppoA37.Camera.Adapter
import OppoA37.Lib.Monitor

/-!
# The copies of preview frames

What a request writes to a stream is to have the size of its picture and to come from the last
preview frame: from a rectangle inside it if the stream is cropped, and from all of it if not,
which is then as large as the stream.

A stream is cropped as soon as one of its sides is shorter than that of the preview, whatever the
other one is, and a stream whose sides are not shorter gets the whole frame, even if it is larger.
While streams are configured the preview only grows in both directions at once. So all is well
just for the streams that are in no direction larger than the preview: `copiesWell_iff`.
-/

namespace OppoA37.Camera

open Lts

universe u

variable {α : Type u} {host : Host α} {s : CameraState α}
  {h : List (Event (CameraState α) (CameraCall α) (CameraOut α))}

/-! ## Cropping -/

theorem pictureSize_eq (width height : ℕ) :
    pictureSize width height = width * height + width * height / 2 := by
  rw [pictureSize]
  omega

/-- Rows of a part of a picture lie in the picture. -/
theorem row_le {width height x y w n i : ℕ} (hx : x + w ≤ width) (hy : y + n ≤ height)
    (hi : i < n) :
    y * width + x + i * width + w ≤ height * width := by
  have hrow : (y + i + 1) * width ≤ height * width := Nat.mul_le_mul_right _ (by omega)
  have hsum : (y + i + 1) * width = y * width + i * width + width := by ring
  omega

/-- Rows of a picture lie in the picture. -/
theorem full_row_le {width n i : ℕ} (hi : i < n) : i * width + width ≤ n * width := by
  rw [← Nat.succ_mul]
  exact Nat.mul_le_mul_right width hi

/-- The colours take up half as many rows. -/
theorem half_rows_le (width height : ℕ) : height / 2 * width ≤ width * height / 2 := by
  rw [mul_comm]
  exact Nat.mul_div_le_mul_div_assoc width height 2

/-- **A rectangle inside the picture is cropped**, if half its size is what is set aside for its
colours. -/
theorem yuv420spCrop_spec {uninitialised : ℕ → α} {src : Block α}
    {srcWidth srcHeight x y width height : ℕ} (hx : x + width ≤ srcWidth)
    (hy : y + height ≤ srcHeight) (hsize : src.size = pictureSize srcWidth srcHeight)
    (hhalf : width / 2 * (height / 2) * 2 = width * height / 2) :
    ∃ b, yuv420spCrop uninitialised src srcWidth srcHeight x y width height = some b ∧
      b.size = pictureSize width height ∧
      (∀ i < height, ∀ j < width,
        b.get (i * width + j) = src.get ((y + i) * srcWidth + x + j)) ∧
      ∀ i < height / 2, ∀ j < width, b.get (width * height + i * width + j) =
        src.get (srcWidth * srcHeight + (y / 2 + i) * srcWidth + x + j) := by
  rw [pictureSize_eq, mul_comm srcWidth srcHeight] at hsize
  have huv : height / 2 * width ≤ width / 2 * (height / 2) * 2 := by
    rw [hhalf]
    exact half_rows_le width height
  set dst : Block α := ⟨width * height + width / 2 * (height / 2) * 2, uninitialised⟩ with hdst
  -- the brightness
  have hlumaRows : ∀ i < height, 0 + i * width + width ≤ dst.size ∧
      y * srcWidth + x + i * srcWidth + width ≤ src.size := by
    intro i hi
    have hrow : i * width + width ≤ height * width := full_row_le hi
    have hsrc := row_le hx hy hi
    have hcomm := mul_comm width height
    rw [hdst, hsize]
    dsimp only
    omega
  obtain ⟨luma, hluma, hlumaSize, hlumaIn, -⟩ := Block.copyRows_spec le_rfl hlumaRows
  -- and the colours
  have huvRows : ∀ i < height / 2, width * height + i * width + width ≤ luma.size ∧
      srcWidth * srcHeight + y / 2 * srcWidth + x + i * srcWidth + width ≤ src.size := by
    intro i hi
    have hrow : i * width + width ≤ height / 2 * width := full_row_le hi
    have hsrc : y / 2 * srcWidth + x + i * srcWidth + width ≤ srcHeight / 2 * srcWidth :=
      row_le hx (by omega) hi
    have hle := half_rows_le srcWidth srcHeight
    have hcomm := mul_comm srcWidth srcHeight
    rw [hlumaSize, hdst, hsize]
    dsimp only
    omega
  obtain ⟨b, hb, hbSize, hbIn, hbOut⟩ := Block.copyRows_spec le_rfl huvRows
  refine ⟨b, ?_, ?_, fun i hi j hj => ?_, fun i hi j hj => ?_⟩
  · simp only [yuv420spCrop]
    rw [← hdst, hluma]
    exact hb
  · rw [hbSize, hlumaSize, hdst, pictureSize_eq, hhalf]
  · -- the colours are written behind
    have hrow : i * width + width ≤ height * width := full_row_le hi
    have hcomm := mul_comm width height
    rw [hbOut _ (Or.inl (by omega))]
    have hpixel := hlumaIn i hi j hj
    rw [zero_add] at hpixel
    rw [hpixel]
    congr 1
    ring
  · rw [hbIn i hi j hj]
    congr 1
    ring

/-- Whatever is cropped has this size. -/
theorem size_of_crop {uninitialised : ℕ → α} {src b : Block α}
    {srcWidth srcHeight x y width height : ℕ}
    (h : yuv420spCrop uninitialised src srcWidth srcHeight x y width height = some b) :
    b.size = width * height + width / 2 * (height / 2) * 2 := by
  obtain ⟨luma, hluma, huv⟩ := Option.bind_eq_some_iff.mp h
  rw [Block.size_of_copyRows huv, Block.size_of_copyRows hluma]

/-! ## One copy -/

/-- The stream gets preview frames. -/
def Stream.isPicture (s : Stream) : Bool :=
  match s.format with
  | .blob | .nv12Encodeable => false
  | .yCbCr420_888 | .implementationDefined | .yCrCb420Sp | .other => true

namespace Adapter

variable (a : Adapter α)

/-- The rectangle of a stream lies in the preview. -/
def Inside (s : Stream) : Prop :=
  (a.cropPoint s).1 + s.width ≤ a.streamWidth ∧ (a.cropPoint s).2 + s.height ≤ a.streamHeight

/-- The stream has the size of the preview. -/
def SameSize (s : Stream) : Prop := s.width = a.streamWidth ∧ s.height = a.streamHeight

/-- What a stream gets is inside the preview and has the size of the stream. -/
def CopiedWell (s : Stream) (written : Option (Block α)) : Prop :=
  (∃ b, written = some b ∧ b.size = pictureSize s.width s.height) ∧
    (a.Crops s → a.Inside s) ∧ (¬ a.Crops s → a.SameSize s)

/-- The stream is in no direction larger than the preview, and if it is not as large, its area is a
number of whole pixels with colours: both sides are even, or there is next to nothing. -/
def Fits (s : Stream) : Prop :=
  s.width ≤ a.streamWidth ∧ s.height ≤ a.streamHeight ∧
    (a.SameSize s ∨ s.width / 2 * (s.height / 2) * 2 = s.width * s.height / 2)

instance (s : Stream) : Decidable (a.SameSize s) := inferInstanceAs (Decidable (_ ∧ _))

instance (s : Stream) : Decidable (a.Fits s) := inferInstanceAs (Decidable (_ ∧ _ ∧ _))

/-- The buffer holds a frame that is as large as the preview. -/
structure HoldsFrame (a : Adapter α) : Prop where
  buffer : a.buffer.size = pictureSize a.streamWidth a.streamHeight
  bufferSize : a.bufferSize = pictureSize a.streamWidth a.streamHeight

variable {a}

/-- **One copy** is well just if the stream fits. -/
theorem copiedWell_iff (hframe : HoldsFrame a) (uninitialised : ℕ → α) (s : Stream) :
    a.CopiedWell s (a.copyTo uninitialised s) ↔ a.Fits s := by
  by_cases hcrops : a.Crops s
  · rw [copyTo, if_pos hcrops]
    constructor
    · rintro ⟨⟨b, hb, hsize⟩, hinside, -⟩
      obtain ⟨hx, hy⟩ := hinside hcrops
      rw [size_of_crop hb, pictureSize_eq] at hsize
      exact ⟨by omega, by omega, Or.inr (by omega)⟩
    · rintro ⟨hx, hy, hhalf⟩
      have hpoint : a.cropPoint s =
          ((a.streamWidth - s.width) / 2, (a.streamHeight - s.height) / 2) := by
        rw [cropPoint, getCropPoint, if_neg (by omega)]
      have hinside : a.Inside s := by
        rw [Inside, hpoint]
        dsimp only
        omega
      have hhalf : s.width / 2 * (s.height / 2) * 2 = s.width * s.height / 2 := by
        rcases hhalf with ⟨hw, hh⟩ | hhalf
        · -- it is not cropped then
          rw [Crops] at hcrops
          omega
        · exact hhalf
      obtain ⟨b, hb, hsize, -⟩ := yuv420spCrop_spec hinside.1 hinside.2 hframe.buffer hhalf
      exact ⟨⟨b, hb, hsize⟩, fun _ => hinside, fun hno => absurd hcrops hno⟩
  · have hle : a.bufferSize ≤ a.buffer.size := by rw [hframe.buffer, hframe.bufferSize]
    rw [copyTo, if_neg hcrops, if_pos hle]
    constructor
    · rintro ⟨-, -, hsame⟩
      obtain ⟨hw, hh⟩ := hsame hcrops
      exact ⟨hw.le, hh.le, Or.inl ⟨hw, hh⟩⟩
    · rintro ⟨hx, hy, -⟩
      have hsame : a.SameSize s := by
        rw [Crops] at hcrops
        exact ⟨by omega, by omega⟩
      refine ⟨⟨_, rfl, ?_⟩, fun hyes => absurd hyes hcrops, fun _ => hsame⟩
      show a.bufferSize = _
      rw [hframe.bufferSize, hsame.1, hsame.2]

end Adapter

/-! ## Requests -/

/-- The loop over the output buffers leaves the preview alone, and copies it to every stream that
gets preview frames. -/
theorem deliverAll_spec (host : Host α) (a : Adapter α) (params : CameraParameters)
    (streams : List Stream) :
    (∃ videoStream, (host.deliverAll a params streams).1.1 = { a with videoStream }) ∧
      ∀ s written, .copied s written ∈ (host.deliverAll a params streams).2 ↔
        s ∈ streams ∧ s.isPicture = true ∧ written = a.copyTo host.uninitialised s := by
  induction streams generalizing a params with
  | nil => exact ⟨⟨a.videoStream, rfl⟩, by simp [Host.deliverAll]⟩
  | cons s streams ih =>
    obtain ⟨⟨video, hfirst⟩, hcopied⟩ : (∃ videoStream,
        (host.deliver a params s).1.1 = { a with videoStream }) ∧
        ∀ s' written, .copied s' written ∈ (host.deliver a params s).2 ↔
          s' = s ∧ s.isPicture = true ∧ written = a.copyTo host.uninitialised s := by
      cases hformat : s.format with
      | nv12Encodeable =>
        simp only [Host.deliver, hformat, Stream.isPicture]
        split_ifs with hvideo
        · exact ⟨⟨a.videoStream, rfl⟩, by simp⟩
        · exact ⟨⟨true, rfl⟩, by simp⟩
      | _ =>
        simp only [Host.deliver, hformat, Stream.isPicture]
        exact ⟨⟨a.videoStream, rfl⟩, by simp⟩
    obtain ⟨⟨video', hrest⟩, hrestCopied⟩ :=
      ih (host.deliver a params s).1.1 (host.deliver a params s).1.2
    refine ⟨⟨video', ?_⟩, fun s' written => ?_⟩
    · rw [Host.deliverAll, hrest, hfirst]
    · rw [Host.deliverAll, List.mem_append, hcopied, hrestCopied, hfirst, List.mem_cons]
      -- the copy does not depend on whether a video is recorded
      show _ ∨ s' ∈ streams ∧ s'.isPicture = true ∧ written = a.copyTo host.uninitialised s' ↔ _
      constructor
      · rintro (⟨rfl, hpicture, hwritten⟩ | ⟨hmem, hpicture, hwritten⟩)
        · exact ⟨Or.inl rfl, hpicture, hwritten⟩
        · exact ⟨Or.inr hmem, hpicture, hwritten⟩
      · rintro ⟨rfl | hmem, hpicture, hwritten⟩
        · exact Or.inl ⟨rfl, hpicture, hwritten⟩
        · exact Or.inr ⟨hmem, hpicture, hwritten⟩

/-- The streams that the output buffers of a request belong to. -/
theorem mem_of_mapM {l : List Stream} {outputs : List ℕ} {streams : List Stream}
    (h : (outputs.mapM fun i => l[i]?) = some streams) (s : Stream) :
    s ∈ streams ↔ ∃ i ∈ outputs, l[i]? = some s := by
  induction outputs generalizing streams with
  | nil =>
    obtain rfl : streams = [] := by simpa using h.symm
    simp
  | cons i outputs ih =>
    rw [List.mapM_cons] at h
    obtain ⟨first, hfirst, h⟩ := Option.bind_eq_some_iff.mp h
    obtain ⟨rest, hrest, h⟩ := Option.bind_eq_some_iff.mp h
    obtain rfl := Option.some.inj h
    rw [List.mem_cons, ih hrest]
    simp only [List.exists_mem_cons_iff]
    rw [hfirst, Option.some.injEq, eq_comm]

/-! ## Runs -/

/-- The streams of a request that get preview frames fit. -/
def CameraState.fits (s : CameraState α) : CameraCall α → Bool
  | .request _ outputs =>
    s.adapter.all fun a => outputs.all fun i => (a.streams[i]?).all fun stream =>
      !stream.isPicture || decide (a.Fits stream)
  | .deviceOpen _ _ | .configure _ | .frame _ | .close => true

/-- All streams of a request that get preview frames get what they are to get. -/
def CopiesWell (e : Event (CameraState α) (CameraCall α) (CameraOut α)) : Prop :=
  ∀ a, e.pre.adapter = some a → ∀ stream written, .copied stream written ∈ e.out →
    a.CopiedWell stream written

/-- The frame in the buffer is always as large as the preview. -/
def HoldsFrames (s : CameraState α) : Prop := ∀ a, s.adapter = some a → a.HoldsFrame

theorem HoldsFrames.step {s' : CameraState α} {l : CameraCall α} {out : List (CameraOut α)}
    (hI : HoldsFrames s) (hs : host.machine.step s l = some (s', out)) : HoldsFrames s' := by
  have hhandles : Handles host s l s' out := handles_of_step hs
  cases hhandles with
  | opens id defaults hnone =>
    intro a ha
    rw [← Option.some.inj ha]
    constructor <;> simp [pictureSize]
  | configures streams a ha =>
    intro a' ha'
    rw [← Option.some.inj ha']
    exact ⟨rfl, rfl⟩
  | frames data a ha =>
    intro a' ha'
    rw [← Option.some.inj ha']
    obtain ⟨hbuffer, hsize⟩ := hI a ha
    rw [Adapter.previewFrame]
    split_ifs
    · exact ⟨hbuffer, hsize⟩
    · exact ⟨hbuffer, rfl⟩
  | invalid settings => exact hI
  | requests settings outputs a ha streams hne hstreams =>
    intro a' ha'
    obtain ⟨⟨video, hvideo⟩, -⟩ := deliverAll_spec host a (host.asked s settings) streams
    obtain ⟨hbuffer, hsize⟩ := hI a ha
    rw [← Option.some.inj ha', hvideo]
    exact ⟨hbuffer, hsize⟩
  | closes =>
    intro a' ha'
    cases ha'

/-- **One step** copies well just if the streams fit. -/
theorem HoldsFrames.copiesWell_iff {s' : CameraState α} {l : CameraCall α}
    {out : List (CameraOut α)} (hI : HoldsFrames s)
    (hs : host.machine.step s l = some (s', out)) :
    CopiesWell ⟨s, l, out, s'⟩ ↔ s.fits l = true := by
  have hhandles : Handles host s l s' out := handles_of_step hs
  cases hhandles with
  | requests settings outputs a ha streams hne hstreams =>
    have hcopied : ∀ stream written,
        .copied stream written ∈ (host.processCaptureRequest s a settings streams).2 ↔
          stream ∈ streams ∧ stream.isPicture = true ∧
            written = a.copyTo host.uninitialised stream := by
      intro stream written
      rw [← (deliverAll_spec host a (host.asked s settings) streams).2]
      simp only [Host.processCaptureRequest, List.mem_append, List.mem_map]
      split_ifs <;> simp
    have hiff : CopiesWell ⟨s, .request settings outputs,
        (host.processCaptureRequest s a settings streams).2,
        (host.processCaptureRequest s a settings streams).1⟩ ↔
        ∀ stream ∈ streams, stream.isPicture = true → a.Fits stream := by
      constructor
      · intro hall stream hmem hpicture
        have hwell := hall a ha stream _ ((hcopied stream _).mpr ⟨hmem, hpicture, rfl⟩)
        exact (Adapter.copiedWell_iff (hI a ha) host.uninitialised stream).mp hwell
      · intro hall a' ha' stream written hout
        obtain rfl : a' = a := Option.some.inj (ha'.symm.trans ha)
        obtain ⟨hmem, hpicture, rfl⟩ := (hcopied stream written).mp hout
        exact (Adapter.copiedWell_iff (hI a' ha) host.uninitialised stream).mpr
          (hall stream hmem hpicture)
    rw [hiff]
    simp only [CameraState.fits, ha, Option.all_some, List.all_eq_true, Option.all_eq_true,
      Bool.or_eq_true, Bool.not_eq_true', decide_eq_true_eq]
    constructor
    · intro hall i hi stream hstream
      cases hpicture : stream.isPicture with
      | false => exact Or.inl rfl
      | true =>
        have hmem := (mem_of_mapM hstreams stream).mpr ⟨i, hi, hstream⟩
        exact Or.inr (hall stream hmem hpicture)
    · intro hall stream hmem hpicture
      obtain ⟨i, hi, hstream⟩ := (mem_of_mapM hstreams stream).mp hmem
      refine (hall i hi stream hstream).resolve_left fun hno => ?_
      exact Bool.false_ne_true (hno.symm.trans hpicture)
  | invalid settings =>
    refine ⟨fun _ => ?_, fun _ a ha stream written hout => ?_⟩
    · cases ha : s.adapter <;> simp [CameraState.fits, ha]
    · simp at hout
  | _ => exact ⟨fun _ => rfl, fun _ a ha stream written hout => by simp at hout⟩

/-- **The runs in which every stream gets what it is to get** are those in which the streams of the
requests fit. -/
theorem copies_iff (hrun : Run host.machine .start h s) :
    (∀ e ∈ h, e.pre.fits e.label = true) ↔ ∀ e ∈ h, CopiesWell e := by
  refine Run.forall_iff HoldsFrames (fun s l => s.fits l = true) CopiesWell ?_ ?_ ?_ hrun
  · intro a ha
    cases ha
  · intro s l s' out hI hfits hs
    exact ⟨hI.step hs, (hI.copiesWell_iff hs).mpr hfits⟩
  · intro s l s' out hI hno hs hwell
    exact hno ((hI.copiesWell_iff hs).mp hwell)

/-- A stream for the preview. -/
def previewStream (width height : ℕ) : Stream := ⟨true, .implementationDefined, 0, width, height⟩

/-- A stream for pictures that are looked at. -/
def yuvStream (width height : ℕ) : Stream := ⟨true, .yCbCr420_888, 0, width, height⟩

/-- A preview, a second one that is smaller and gets enlarged to it, and pictures from its
middle. -/
theorem copies_three :
    ∃ h s, Run plainHost.machine .start h s ∧
      h.map Event.label = [.deviceOpen 0 .empty,
        .configure [previewStream 1280 720, previewStream 640 480, yuvStream 640 480],
        .frame id, .request {} [0, 1, 2]] ∧
      s.adapter.map Adapter.streams = some
        [⟨true, .yCrCb420Sp, 48, 1280, 720⟩, ⟨true, .yCrCb420Sp, 48, 1280, 720⟩,
          ⟨true, .yCrCb420Sp, 0, 640, 480⟩] ∧
      ∀ e ∈ h, CopiesWell e := by
  obtain ⟨h, s, hrun, hl, hcheck⟩ := plainHost.machine.exists_run .start
    [.deviceOpen 0 .empty,
      .configure [previewStream 1280 720, previewStream 640 480, yuvStream 640 480], .frame id,
      .request {} [0, 1, 2]]
    (fun h s => decide (s.adapter.map Adapter.streams = some
      [⟨true, .yCrCb420Sp, 48, 1280, 720⟩, ⟨true, .yCrCb420Sp, 48, 1280, 720⟩,
        ⟨true, .yCrCb420Sp, 0, 640, 480⟩]) && h.all fun e => e.pre.fits e.label)
    (by decide +kernel)
  obtain ⟨hstreams, hcheck⟩ := Bool.and_eq_true_iff.mp hcheck
  refine ⟨h, s, hrun, hl, of_decide_eq_true hstreams, ?_⟩
  exact (copies_iff hrun).mp (List.all_eq_true.mp hcheck)

/-- Memory that is not there was used for a copy. -/
def CameraOut.overruns : CameraOut α → Bool
  | copied _ none => true
  | copied _ (some _) | sent _ | returned _ => false

/-- A second preview is as high as it is wide: it is not as wide as the first, but higher, and the
colours of its copy are read from behind the frame. -/
theorem copy_overruns :
    ∃ h e, Run plainHost.machine .start (h ++ [e]) e.post ∧
      h.map Event.label = [.deviceOpen 0 .empty,
        .configure [previewStream 1280 720, previewStream 960 960], .frame id] ∧
      e.label = .request {} [1] ∧ (∃ o ∈ e.out, o.overruns = true) ∧ ¬ CopiesWell e := by
  obtain ⟨h, e, hrun, hl, he, hcheck⟩ := plainHost.machine.exists_run_last .start
    [.deviceOpen 0 .empty, .configure [previewStream 1280 720, previewStream 960 960], .frame id]
    (.request {} [1]) (fun _ e => e.pre.adapter.isSome && e.out.any CameraOut.overruns)
    (by decide +kernel)
  obtain ⟨hopen, hout⟩ := Bool.and_eq_true_iff.mp hcheck
  obtain ⟨o, ho, hoverruns⟩ := List.any_eq_true.mp hout
  obtain ⟨a, ha⟩ := Option.isSome_iff_exists.mp hopen
  refine ⟨h, e, hrun, hl, he, ⟨o, ho, hoverruns⟩, fun hwell => ?_⟩
  cases o with
  | copied stream written =>
    obtain ⟨⟨b, hb, -⟩, -⟩ := hwell a ha stream written ho
    rw [hb] at hoverruns
    cases hoverruns
  | _ => cases hoverruns

end OppoA37.Camera
