import OppoA37.Camera.Settings
import OppoA37.Lib.Block
import OppoA37.Lib.Machine

/-!
# The camera adapter of `HAL3on1-adapter.cpp`

The adapter drives a legacy camera, which has one preview and one set of parameters, for a
framework that configures several streams and sends settings with every request. While streams
are configured the preview grows, and they may be enlarged to it; every request then gets a copy
of the last preview frame for each of its streams, or a part from its middle.

The legacy camera takes every set of parameters it is sent as its new state, and a camera that is
opened has its own. `current_params` and `previous_params` are static: they belong to no camera.

Pictures are blocks of memory. Still pictures and what is recorded are left out, but for the
parameters that are sent when recording starts.
-/

namespace OppoA37.Camera

open Lts

universe u

variable {α : Type u}

/-! ## Streams -/

/-- The formats that are told apart. -/
inductive PixelFormat where
  /-- `HAL_PIXEL_FORMAT_BLOB` -/
  | blob
  /-- `HAL_PIXEL_FORMAT_YCbCr_420_888` -/
  | yCbCr420_888
  /-- `HAL_PIXEL_FORMAT_IMPLEMENTATION_DEFINED` -/
  | implementationDefined
  /-- `HAL_PIXEL_FORMAT_YCrCb_420_SP` -/
  | yCrCb420Sp
  /-- `HAL_PIXEL_FORMAT_NV12_ENCODEABLE` -/
  | nv12Encodeable
  /-- any other -/
  | other
  deriving DecidableEq, Repr

/-- `camera3_stream_t` -/
structure Stream where
  /-- `stream_type` is `CAMERA3_STREAM_OUTPUT` -/
  output : Bool
  /-- `format` -/
  format : PixelFormat
  /-- `usage` -/
  usage : ℕ
  /-- `width` -/
  width : ℕ
  /-- `height` -/
  height : ℕ
  deriving DecidableEq, Repr

/-- `GRALLOC_USAGE_SW_WRITE_OFTEN` -/
def GRALLOC_USAGE_SW_WRITE_OFTEN : ℕ := 0x30

/-- `GRALLOC_USAGE_HW_COMPOSER` -/
def GRALLOC_USAGE_HW_COMPOSER : ℕ := 0x800

/-- The preview while streams are configured, with `preview_params`. -/
structure Preview where
  /-- `adapter->stream_width` -/
  width : ℕ
  /-- `adapter->stream_height` -/
  height : ℕ
  /-- `preview_params` -/
  params : CameraParameters

/-- A turn of the loop over the streams. -/
def configureStream (useHwcomposer : Bool) (v : Preview) (s : Stream) : Preview × Stream :=
  if s.output then
    match s.format with
    | .blob =>
      let params : CameraParameters := v.params.set "picture-format" "jpeg"
      ({ v with params := params.setPictureSize s.width s.height }, s)
    | .yCbCr420_888 => (v, { s with format := .yCrCb420Sp })
    | .implementationDefined =>
      if s.usage = 0x00010000 then
        ({ v with params := v.params.setVideoSize s.width s.height },
          { s with format := .nv12Encodeable })
      else
        let v : Preview :=
          if s.width > v.width ∧ s.height > v.height then
            ⟨s.width, s.height, v.params.setPreviewSize s.width s.height⟩
          else v
        let s :=
          if s.width < v.width ∧ s.height < v.height then
            { s with width := v.width, height := v.height }
          else s
        (v, { s with
          format := .yCrCb420Sp
          usage := if useHwcomposer then GRALLOC_USAGE_HW_COMPOSER
            else GRALLOC_USAGE_SW_WRITE_OFTEN })
    | .yCrCb420Sp | .nv12Encodeable | .other => (v, s)
  else (v, s)

/-- The loop over the streams. -/
def configureAll (useHwcomposer : Bool) : Preview → List Stream → Preview × List Stream
  | v, [] => (v, [])
  | v, s :: streams =>
    let first := configureStream useHwcomposer v s
    let rest := configureAll useHwcomposer first.1 streams
    (rest.1, first.2 :: rest.2)

/-! ## The state -/

/-- `adapter_camera3_device_t` -/
structure Adapter (α : Type u) where
  /-- `stream_width` -/
  streamWidth : ℕ
  /-- `stream_height` -/
  streamHeight : ℕ
  /-- `buffer` -/
  buffer : Block α
  /-- `buffer_size` -/
  bufferSize : ℕ
  /-- `video_stream` -/
  videoStream : Bool
  /-- `preview_really_started` -/
  previewReallyStarted : Bool
  /-- the streams of the framework, as they were configured -/
  streams : List Stream

/-- The adapter, the legacy camera and what is static. -/
structure CameraState (α : Type u) where
  /-- `hal3on1_dev`, of a camera that is open -/
  adapter : Option (Adapter α)
  /-- `current_camera_id` -/
  cameraId : ℕ
  /-- what the legacy camera that is open was sent last, or its defaults -/
  hal1 : CameraParameters
  /-- `current_params` -/
  currentParams : CameraParameters
  /-- `previous_params` -/
  previousParams : CameraParameters

/-- Where the adapter runs. -/
structure Host (α : Type u) where
  /-- `static_metadata`, with the zoom ratios -/
  staticMetadata : ℕ → StaticMetadata
  /-- `properties.use_hwcomposer` -/
  useHwcomposer : Bool
  /-- what is in memory that was not written -/
  uninitialised : ℕ → α

/-- What happens. -/
inductive CameraCall (α : Type u) where
  /-- `camera_device_open`, of a camera with these parameters -/
  | deviceOpen (id : ℕ) (defaults : CameraParameters)
  /-- `camera3_configure_streams` -/
  | configure (streams : List Stream)
  /-- a preview frame, as large as the preview -/
  | frame (data : ℕ → α)
  /-- `camera3_process_capture_request`, for some of the streams -/
  | request (settings : Settings) (outputs : List ℕ)
  /-- `camera3_close` -/
  | close

/-- What others see. -/
inductive CameraOut (α : Type u) where
  /-- `set_parameters` of the legacy camera -/
  | sent (params : CameraParameters)
  /-- what was written to the buffer of a stream; `none` if memory was used that is not there -/
  | copied (stream : Stream) (written : Option (Block α))
  /-- `camera3_process_capture_request` returns -/
  | returned (err : ℤ)

/-- `EINVAL` -/
def EINVAL : ℤ := 22

/-! ## Copies -/

/-- The size of a picture. -/
def pictureSize (width height : ℕ) : ℕ := width * height * 3 / 2

/-- `get_crop_point` -/
def getCropPoint (srcWidth srcHeight cropWidth cropHeight : ℕ) : ℕ × ℕ :=
  if cropWidth > srcWidth ∨ cropHeight > srcHeight then (0, 0)
  else ((srcWidth - cropWidth) / 2, (srcHeight - cropHeight) / 2)

/-- `yuv420sp_crop` -/
def yuv420spCrop (uninitialised : ℕ → α) (src : Block α) (srcWidth srcHeight cropX cropY cropWidth
    cropHeight : ℕ) : Option (Block α) :=
  let srcYSize := srcWidth * srcHeight
  let dstYSize := cropWidth * cropHeight
  let dstUvSize := cropWidth / 2 * (cropHeight / 2) * 2
  let dst : Block α := ⟨dstYSize + dstUvSize, uninitialised⟩
  (dst.copyRows 0 src (cropY * srcWidth + cropX) cropWidth srcWidth cropWidth cropHeight).bind
    fun dst => dst.copyRows dstYSize src (srcYSize + cropY / 2 * srcWidth + cropX) cropWidth
      srcWidth cropWidth (cropHeight / 2)

namespace Adapter

variable (a : Adapter α)

/-- The stream is cropped. -/
def Crops (s : Stream) : Prop := s.width < a.streamWidth ∨ s.height < a.streamHeight

instance (s : Stream) : Decidable (a.Crops s) := inferInstanceAs (Decidable (_ ∨ _))

/-- `crop_x` and `crop_y` -/
def cropPoint (s : Stream) : ℕ × ℕ := getCropPoint a.streamWidth a.streamHeight s.width s.height

/-- What is written to the buffer of a stream that is neither `BLOB` nor for the encoder. -/
def copyTo (uninitialised : ℕ → α) (s : Stream) : Option (Block α) :=
  if a.Crops s then
    yuv420spCrop uninitialised a.buffer a.streamWidth a.streamHeight (a.cropPoint s).1
      (a.cropPoint s).2 s.width s.height
  else if a.bufferSize ≤ a.buffer.size then some { a.buffer with size := a.bufferSize }
  else none

/-- `hal1_data_callback`, for a preview frame that is as large as the preview -/
def previewFrame (data : ℕ → α) : Adapter α :=
  let size := pictureSize a.streamWidth a.streamHeight
  if size = 0 then a
  else { a with buffer := ⟨a.buffer.size, data⟩, bufferSize := size, previewReallyStarted := true }

end Adapter

/-! ## The machine -/

namespace Host

variable (host : Host α)

/-- `camera3_configure_streams`, with the parameters of the legacy camera -/
def configureStreams (a : Adapter α) (hal1 : CameraParameters) (streams : List Stream) :
    Adapter α × CameraParameters :=
  let configured := configureAll host.useHwcomposer ⟨a.streamWidth, a.streamHeight, hal1⟩ streams
  let size := pictureSize configured.1.width configured.1.height
  ({ streamWidth := configured.1.width
     streamHeight := configured.1.height
     buffer := ⟨size, host.uninitialised⟩
     bufferSize := size
     videoStream := a.videoStream
     previewReallyStarted := false
     streams := configured.2 },
    (configured.1.params.set "no-display-mode" "1").set "preview-frame-rate" "30")

/-- A turn of the loop over the output buffers, with `current_params`. -/
def deliver (a : Adapter α) (params : CameraParameters) (s : Stream) :
    (Adapter α × CameraParameters) × List (CameraOut α) :=
  match s.format with
  | .blob => ((a, params), [])
  | .nv12Encodeable =>
    if a.videoStream then ((a, params), [])
    else
      let params := (((params.set "video-frame-format" "nv12-venus").set "iso" "auto").set
        "exposure-time" "0").set "zsl" "on"
      (({ a with videoStream := true }, params), [.sent params])
  | .yCbCr420_888 | .implementationDefined | .yCrCb420Sp | .other =>
    ((a, params), [.copied s (a.copyTo host.uninitialised s)])

/-- The loop over the output buffers. -/
def deliverAll : Adapter α → CameraParameters → List Stream →
    (Adapter α × CameraParameters) × List (CameraOut α)
  | a, params, [] => ((a, params), [])
  | a, params, s :: streams =>
    let first := host.deliver a params s
    let rest := deliverAll first.1.1 first.1.2 streams
    (rest.1, first.2 ++ rest.2)

end Host

/-- What the legacy camera was sent last. -/
def lastSent (hal1 : CameraParameters) (out : List (CameraOut α)) : CameraParameters :=
  out.foldl (fun hal1 o => match o with
    | .sent params => params
    | .copied _ _ | .returned _ => hal1) hal1

/-- A request has to wait for a frame. -/
def Adapter.Waits (a : Adapter α) (streams : List Stream) : Prop :=
  a.previewReallyStarted = false ∧ ∃ s ∈ streams, s.format ≠ .blob

instance (a : Adapter α) (streams : List Stream) : Decidable (a.Waits streams) :=
  inferInstanceAs (Decidable (_ ∧ _))

namespace Host

variable (host : Host α)

/-- The parameters that a request sends until the exposure; the last are `current_params` then. -/
def early (s : CameraState α) (settings : Settings) : List CameraParameters :=
  setExposure settings (setModes settings s.currentParams) (host.staticMetadata s.cameraId)

/-- `current_params` after the exposure. -/
def afterExposure (s : CameraState α) (settings : Settings) : CameraParameters :=
  (host.early s settings).getLastD s.currentParams

/-- `current_params` after all settings. -/
def asked (s : CameraState α) (settings : Settings) : CameraParameters :=
  setLate settings (host.afterExposure s settings) (host.staticMetadata s.cameraId)

/-- `camera3_process_capture_request`, for a request with output buffers -/
def processCaptureRequest (s : CameraState α) (a : Adapter α) (settings : Settings)
    (streams : List Stream) : CameraState α × List (CameraOut α) :=
  let asked := host.asked s settings
  let cached := if asked ≠ s.previousParams then [.sent asked] else []
  let delivered := host.deliverAll a asked streams
  let out := (host.early s settings).map .sent ++ cached ++ delivered.2
  ({ s with
      adapter := some delivered.1.1
      hal1 := lastSent s.hal1 out
      currentParams := delivered.1.2
      previousParams := asked }, out ++ [.returned 0])

/-- The machine of the adapter. -/
def machine : Machine (CameraState α) (CameraCall α) (CameraOut α) where
  step s
    | .deviceOpen id defaults =>
      match s.adapter with
      | some _ => none
      | none =>
        some ({ s with
            adapter := some
              { streamWidth := 0
                streamHeight := 0
                buffer := ⟨0, host.uninitialised⟩
                bufferSize := 0
                videoStream := false
                previewReallyStarted := false
                streams := [] }
            cameraId := id
            hal1 := defaults }, [])
    | .configure streams =>
      match s.adapter with
      | none => none
      | some a =>
        let (a, params) := host.configureStreams a s.hal1 streams
        some ({ s with adapter := some a, hal1 := params, currentParams := params }, [.sent params])
    | .frame data =>
      match s.adapter with
      | none => none
      | some a => some ({ s with adapter := some (a.previewFrame data) }, [])
    | .request settings outputs =>
      match s.adapter with
      | none => none
      | some a =>
        if outputs = [] then some (s, [.returned (-EINVAL)])
        else
          match outputs.mapM fun i => a.streams[i]? with
          | none => none
          | some streams =>
            if a.Waits streams then none
            else some (host.processCaptureRequest s a settings streams)
    | .close =>
      match s.adapter with
      | none => none
      | some _ => some ({ s with adapter := none }, [])

end Host

/-- What the steps do, one constructor for each. -/
inductive Handles (host : Host α) (s : CameraState α) :
    CameraCall α → CameraState α → List (CameraOut α) → Prop
  | opens (id : ℕ) (defaults : CameraParameters) (hnone : s.adapter = none) :
    Handles host s (.deviceOpen id defaults)
      { s with
          adapter := some
            { streamWidth := 0
              streamHeight := 0
              buffer := ⟨0, host.uninitialised⟩
              bufferSize := 0
              videoStream := false
              previewReallyStarted := false
              streams := [] }
          cameraId := id
          hal1 := defaults } []
  | configures (streams : List Stream) (a : Adapter α) (ha : s.adapter = some a) :
    Handles host s (.configure streams)
      { s with
          adapter := some (host.configureStreams a s.hal1 streams).1
          hal1 := (host.configureStreams a s.hal1 streams).2
          currentParams := (host.configureStreams a s.hal1 streams).2 }
      [.sent (host.configureStreams a s.hal1 streams).2]
  | frames (data : ℕ → α) (a : Adapter α) (ha : s.adapter = some a) :
    Handles host s (.frame data) { s with adapter := some (a.previewFrame data) } []
  /-- a request without output buffers is turned away -/
  | invalid (settings : Settings) : Handles host s (.request settings []) s [.returned (-EINVAL)]
  | requests (settings : Settings) (outputs : List ℕ) (a : Adapter α) (ha : s.adapter = some a)
    (streams : List Stream) (hne : outputs ≠ [])
    (hstreams : (outputs.mapM fun i => a.streams[i]?) = some streams) :
    Handles host s (.request settings outputs)
      (host.processCaptureRequest s a settings streams).1
      (host.processCaptureRequest s a settings streams).2
  | closes : Handles host s .close { s with adapter := none } []

/-- Every step is one of these. -/
theorem handles_of_step {host : Host α} {s s' : CameraState α} {l : CameraCall α}
    {out : List (CameraOut α)} (hs : host.machine.step s l = some (s', out)) :
    Handles host s l s' out := by
  cases ha : s.adapter with
  | none =>
    cases l with
    | deviceOpen id defaults =>
      simp only [Host.machine, ha] at hs
      obtain ⟨rfl, rfl⟩ := Prod.mk.inj (Option.some.inj hs)
      exact .opens id defaults ha
    | _ =>
      simp only [Host.machine, ha] at hs
      cases hs
  | some a =>
    cases l with
    | deviceOpen id defaults =>
      simp only [Host.machine, ha] at hs
      cases hs
    | configure streams =>
      simp only [Host.machine, ha] at hs
      obtain ⟨rfl, rfl⟩ := Prod.mk.inj (Option.some.inj hs)
      exact .configures streams a ha
    | frame data =>
      simp only [Host.machine, ha] at hs
      obtain ⟨rfl, rfl⟩ := Prod.mk.inj (Option.some.inj hs)
      exact .frames data a ha
    | request settings outputs =>
      simp only [Host.machine, ha] at hs
      split_ifs at hs with hnil
      · obtain ⟨rfl, rfl⟩ := Prod.mk.inj (Option.some.inj hs)
        subst hnil
        exact .invalid settings
      · cases hstreams : outputs.mapM fun i => a.streams[i]? with
        | none =>
          rw [hstreams] at hs
          cases hs
        | some streams =>
          rw [hstreams] at hs
          dsimp only at hs
          split_ifs at hs
          obtain ⟨hpost, hout⟩ := Prod.mk.inj (Option.some.inj hs)
          rw [← hpost, ← hout]
          exact .requests settings outputs a ha streams hnil hstreams
    | close =>
      simp only [Host.machine, ha] at hs
      obtain ⟨rfl, rfl⟩ := Prod.mk.inj (Option.some.inj hs)
      exact .closes

/-- A camera with zoom up to four times, and memory that is full of zeros. -/
def plainHost : Host ℕ where
  staticMetadata _ :=
    { sensorWidth := 4000
      sensorHeight := 3000
      exposureTimeRange := (0, 1000000000)
      sensitivityRange := (100, 1600)
      zoomRatios := [100, 200, 400]
      zoomTarget := fun cropWidth => 400000 / cropWidth }
  useHwcomposer := false
  uninitialised _ := 0

/-- Before a camera is opened. -/
def CameraState.start : CameraState α where
  adapter := none
  cameraId := 0
  hal1 := .empty
  currentParams := .empty
  previousParams := .empty

end OppoA37.Camera
