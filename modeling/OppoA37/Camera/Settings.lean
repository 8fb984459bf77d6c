import OppoA37.Camera.CameraParameters

/-!
# The settings of a capture request

`camera3_process_capture_request` turns the settings of a request into parameters, one after the
other. Up to the exposure, the legacy camera is told of each change at once; the settings that
follow are only told when the whole set is.

A setting that a request does not have is `none`. Where the source leaves a text uninitialised, for
a mode that it does not know, that text is part of the mode. What is printed of numbers with a
fraction is given as text.
-/

namespace OppoA37.Camera

/-! ## What is set -/

/-- `ANDROID_CONTROL_MODE` -/
inductive ControlMode where
  | off
  | auto
  | useSceneMode
  | other
  deriving DecidableEq

/-- `ANDROID_CONTROL_SCENE_MODE` -/
inductive SceneMode where
  | landscape
  | snow
  | sunset
  | steadyphoto
  | party
  | candlelight
  | portrait
  | nightPortrait
  | theatre
  | night
  | action
  | beach
  | fireworks
  | sports
  | facePriority
  | barcode
  | other (uninitialised : String)
  deriving DecidableEq

/-- `scene_mode_str` -/
def SceneMode.str : SceneMode → String
  | landscape => "landscape"
  | snow => "snow"
  | sunset => "sunset"
  | steadyphoto => "steadyphoto"
  | party => "party"
  | candlelight => "candelight"
  | portrait => "portrait"
  | nightPortrait => "night-portrait"
  | theatre => "theatre"
  | night => "night"
  | action => "action"
  | beach => "beach"
  | fireworks => "fireworks"
  | sports => "sports"
  | facePriority => "face-priority"
  | barcode => "barcode"
  | other uninitialised => uninitialised

/-- `ANDROID_CONTROL_AE_MODE` -/
inductive AeMode where
  | off
  | on
  | onAutoFlash
  | onAlwaysFlash
  | onAutoFlashRedeye
  | other
  deriving DecidableEq

/-- `ANDROID_FLASH_MODE` -/
inductive FlashMode where
  | off
  | single
  | torch
  | other
  deriving DecidableEq

/-- `ANDROID_CONTROL_AWB_MODE`, but for `OFF` -/
inductive AwbMode where
  | auto
  | incandescent
  | fluorescent
  | warmFluorescent
  | daylight
  | cloudyDaylight
  | twilight
  | shade
  | other (uninitialised : String)
  deriving DecidableEq

/-- `awb_mode_str` -/
def AwbMode.str : AwbMode → String
  | auto => "auto"
  | incandescent => "incandescent"
  | fluorescent => "fluorescent"
  | warmFluorescent => "warm-fluorescent"
  | daylight => "daylight"
  | cloudyDaylight => "cloudy-daylight"
  | twilight => "twilight"
  | shade => "shade"
  | other uninitialised => uninitialised

/-- `ANDROID_CONTROL_AF_MODE` -/
inductive AfMode where
  | off
  | auto
  | macroFocus
  | continuousVideo
  | continuousPicture
  | edof
  | other (uninitialised : String)
  deriving DecidableEq

/-- `af_mode_str` -/
def AfMode.str : AfMode → String
  | off => "manual"
  | auto => "auto"
  | macroFocus => "macro"
  | continuousVideo => "continuous-video"
  | continuousPicture => "continuous-picture"
  | edof => "edof"
  | other uninitialised => uninitialised

/-- `ANDROID_CONTROL_EFFECT_MODE` -/
inductive EffectMode where
  | off
  | mono
  | negative
  | solarize
  | sepia
  | posterize
  | whiteboard
  | blackboard
  | aqua
  | other (uninitialised : String)
  deriving DecidableEq

/-- `effect_mode_str` -/
def EffectMode.str : EffectMode → String
  | off => "none"
  | mono => "mono"
  | negative => "negative"
  | solarize => "solarize"
  | sepia => "sepia"
  | posterize => "posterize"
  | whiteboard => "whiteboard"
  | blackboard => "blackboard"
  | aqua => "aqua"
  | other uninitialised => uninitialised

/-- `ANDROID_CONTROL_AE_ANTIBANDING_MODE` -/
inductive AntibandingMode where
  | off
  | auto
  | hz50
  | hz60
  | other (uninitialised : String)
  deriving DecidableEq

/-- `antibanding_mode_str` -/
def AntibandingMode.str : AntibandingMode → String
  | off => "off"
  | auto => "auto"
  | hz50 => "50hz"
  | hz60 => "60hz"
  | other uninitialised => uninitialised

/-- A region of the picture. -/
structure Region where
  left : ℤ
  top : ℤ
  right : ℤ
  bottom : ℤ
  weight : ℤ
  deriving DecidableEq

/-- The settings that are looked at. -/
structure Settings where
  /-- `ANDROID_CONTROL_MODE` -/
  controlMode : Option ControlMode := none
  /-- `ANDROID_CONTROL_SCENE_MODE` -/
  sceneMode : Option SceneMode := none
  /-- `ANDROID_CONTROL_AE_MODE` -/
  aeMode : Option AeMode := none
  /-- `ANDROID_FLASH_MODE` -/
  flashMode : Option FlashMode := none
  /-- `ANDROID_CONTROL_AE_EXPOSURE_COMPENSATION` -/
  exposureCompensation : Option ℤ := none
  /-- `ANDROID_CONTROL_AWB_MODE`; `some none` is `OFF` -/
  awbMode : Option (Option AwbMode) := none
  /-- what is printed of `ANDROID_COLOR_CORRECTION_GAINS` -/
  colorCorrectionGains : Option String := none
  /-- `ANDROID_CONTROL_AF_MODE` -/
  afMode : Option AfMode := none
  /-- `ANDROID_CONTROL_EFFECT_MODE` -/
  effectMode : Option EffectMode := none
  /-- `ANDROID_CONTROL_AE_ANTIBANDING_MODE` -/
  antibandingMode : Option AntibandingMode := none
  /-- `ANDROID_SENSOR_SENSITIVITY` -/
  sensitivity : Option ℤ := none
  /-- `ANDROID_SENSOR_EXPOSURE_TIME` -/
  exposureTime : Option ℤ := none
  /-- the width in `ANDROID_SCALER_CROP_REGION` -/
  cropWidth : Option ℤ := none
  /-- `ANDROID_CONTROL_AF_REGIONS` -/
  afRegions : Option Region := none
  /-- `ANDROID_CONTROL_AE_REGIONS` -/
  aeRegions : Option Region := none
  /-- `ANDROID_CONTROL_AE_LOCK` is `ON` -/
  aeLock : Option Bool := none
  /-- `ANDROID_CONTROL_AWB_LOCK` is `ON` -/
  awbLock : Option Bool := none
  /-- `ANDROID_NOISE_REDUCTION_MODE` is `FAST` -/
  noiseReduction : Option Bool := none
  /-- `ANDROID_SHADING_MODE` is `FAST` -/
  shadingMode : Option Bool := none
  /-- `ANDROID_JPEG_THUMBNAIL_SIZE` -/
  thumbnailSize : Option (ℤ × ℤ) := none
  /-- `ANDROID_JPEG_THUMBNAIL_QUALITY` -/
  thumbnailQuality : Option ℕ := none
  /-- `ANDROID_JPEG_QUALITY` -/
  jpegQuality : Option ℕ := none
  /-- `ANDROID_JPEG_ORIENTATION` -/
  jpegOrientation : Option ℤ := none
  /-- what is left of `ANDROID_LENS_FOCUS_DISTANCE` as an integer -/
  focusDistance : Option ℤ := none
  deriving DecidableEq

/-- What is known of a camera. -/
structure StaticMetadata where
  /-- the width in `ANDROID_SENSOR_INFO_ACTIVE_ARRAY_SIZE` -/
  sensorWidth : ℤ
  /-- the height there -/
  sensorHeight : ℤ
  /-- `ANDROID_SENSOR_INFO_EXPOSURE_TIME_RANGE` -/
  exposureTimeRange : ℤ × ℤ
  /-- `ANDROID_SENSOR_INFO_SENSITIVITY_RANGE` -/
  sensitivityRange : ℤ × ℤ
  /-- `hal1_zoom_ratios`, up to `hal1_zoom_steps` -/
  zoomRatios : List ℤ
  /-- `target` in `hal3_to_hal1_zoom`, of the width of the crop region -/
  zoomTarget : ℤ → ℤ

/-! ## Until the exposure -/

/-- `use_scene`, before it is asked for the scene -/
def Settings.useScene (cm : Settings) : Bool := decide (cm.controlMode = some .useSceneMode)

/-- `ae_mode` -/
def Settings.aeModeOr (cm : Settings) : AeMode :=
  if cm.useScene then .on else cm.aeMode.getD .on

/-- `manual_wb` -/
def Settings.manualWb (cm : Settings) : Bool :=
  !cm.useScene && decide (cm.awbMode = some none) && cm.colorCorrectionGains.isSome

/-- `manual_focus` -/
def Settings.manualFocus (cm : Settings) : Bool :=
  !cm.useScene && decide (cm.afMode = some .off)

variable (cm : Settings) (p : CameraParameters)

/-- `ANDROID_CONTROL_MODE` -/
def setControlMode : CameraParameters :=
  match cm.controlMode with
  | some .useSceneMode => p.set "scene-detect" "off"
  | some .auto => (p.set "scene-detect" "on").set "scene-mode" "auto"
  | some .off => (p.set "scene-detect" "off").set "scene-mode" "auto"
  | some .other | none => p

/-- `ANDROID_CONTROL_SCENE_MODE` -/
def setSceneMode : CameraParameters :=
  match cm.sceneMode with
  | none => p
  | some mode =>
    if cm.useScene then (p.set "scene-mode" mode.str).set "scene-detect" "off" else p

/-- `ANDROID_CONTROL_AE_MODE` -/
def setAeMode : CameraParameters :=
  match cm.aeMode with
  | none => p
  | some mode =>
    if cm.useScene then p
    else
      let p := (p.set "redeye-reduction" "disable").set "iso" "auto"
      match mode with
      | .off | .on => p.set "flash-mode" "off"
      | .onAutoFlash => p.set "flash-mode" "auto"
      | .onAlwaysFlash => p.set "flash-mode" "on"
      | .onAutoFlashRedeye => (p.set "redeye-reduction" "enable").set "flash-mode" "auto"
      | .other => p

/-- `ANDROID_FLASH_MODE` -/
def setFlashMode : CameraParameters :=
  match cm.flashMode with
  | none => p
  | some mode =>
    if cm.useScene then p
    else
      match mode with
      | .off =>
        if cm.aeModeOr = .off ∨ cm.aeModeOr = .on then p.set "flash-mode" "off" else p
      | .single => if cm.aeModeOr = .off then p.set "flash-mode" "on" else p
      | .torch => p.set "flash-mode" "torch"
      | .other => p

/-- `ANDROID_CONTROL_AE_EXPOSURE_COMPENSATION` -/
def setExposureCompensation : CameraParameters :=
  match cm.exposureCompensation with
  | none => p
  | some value => if cm.useScene then p else p.set "exposure-compensation" (toString value)

/-- `ANDROID_CONTROL_AWB_MODE` -/
def setAwbMode : CameraParameters :=
  match cm.awbMode with
  | none => p
  | some mode =>
    if cm.useScene then p
    else
      match mode with
      | some mode => p.set "whitebalance" mode.str
      | none =>
        match cm.colorCorrectionGains with
        | none => p
        | some gains =>
          ((p.set "manual-wb-type" "1").set "manual-wb-value" gains).set "whitebalance" "manual"

/-- `ANDROID_CONTROL_AF_MODE` -/
def setAfMode : CameraParameters :=
  match cm.afMode with
  | none => p
  | some mode => if cm.useScene then p else p.set "focus-mode" mode.str

/-- `ANDROID_CONTROL_EFFECT_MODE` -/
def setEffectMode : CameraParameters :=
  match cm.effectMode with
  | none => p
  | some mode => p.set "effect" mode.str

/-- `ANDROID_CONTROL_AE_ANTIBANDING_MODE` -/
def setAntibandingMode : CameraParameters :=
  match cm.antibandingMode with
  | none => p
  | some mode => p.set "antibanding" mode.str

/-- The parameters before the exposure. -/
def setModes : CameraParameters :=
  let p := setControlMode cm p
  let p := setSceneMode cm p
  let p := setAeMode cm p
  let p := setFlashMode cm p
  let p := setExposureCompensation cm p
  let p := setAwbMode cm p
  let p := setAfMode cm p
  let p := setEffectMode cm p
  setAntibandingMode cm p

/-- Between two bounds, the lower one first; as the source does it for exposure and sensitivity. -/
def limit (range : ℤ × ℤ) (value : ℤ) : ℤ :=
  let value := if value > range.2 then range.2 else value
  if value < range.1 then range.1 else value

/-- `exposure_time_str`: nanoseconds as milliseconds, with six digits after the point -/
def exposureTimeStr (exposureTime : ℕ) : String :=
  let digits := toString (exposureTime % 1000000)
  toString (exposureTime / 1000000) ++ "." ++
    String.ofList (List.replicate (6 - digits.length) '0') ++ digits

/-- `iso_str`, which `manual` overwrites for what is exact -/
def isoStr (iso : ℤ) : String :=
  if iso < 1251 then "manual" else if iso > 1600 then "ISO3200" else "ISO1600"

/-- The parameters of the exposure, every time that they are sent. -/
def setExposure (info : StaticMetadata) : List CameraParameters :=
  match cm.aeModeOr, cm.sensitivity, cm.exposureTime with
  | .off, some sensitivity, some exposureTime =>
    let exposureTime := limit info.exposureTimeRange exposureTime
    let iso := limit info.sensitivityRange sensitivity
    let p := if iso < 1251 then p.set "continuous-iso" (toString iso) else p
    let p₁ := (p.set "iso" (isoStr iso)).set "whitebalance" "auto"
    let p₂ := p₁.set "zsl" "off"
    [p₁, p₂, p₂.set "exposure-time" (exposureTimeStr exposureTime.toNat)]
  | _, _, _ =>
    let p := ((p.set "iso" "auto").set "exposure-time" "0").set "zsl" "on"
    match cm.manualWb, cm.colorCorrectionGains with
    | true, some gains =>
      [((p.set "whitebalance" "manual").set "manual-wb-type" "1").set "manual-wb-value" gains]
    | _, _ => [p]

/-! ## After the exposure -/

/-- What `%u` prints of an `int32_t` -/
def unsigned (value : ℤ) : String := toString (value % 4294967296).toNat

/-- `clamp` -/
def clamp (value min max : ℤ) : ℤ := if value < min then min else if value > max then max else value

/-- `hal3_to_hal1_zoom`: the first of the ratios that are closest -/
def hal3ToHal1Zoom (info : StaticMetadata) (cropWidth : ℤ) : ℕ :=
  let target := info.zoomTarget cropWidth
  (info.zoomRatios.zipIdx.foldl (fun best ratio =>
    if |target - ratio.1| < best.1 then (|target - ratio.1|, ratio.2) else best)
    (2147483647, 0)).2

/-- `focus_areas_str` and `ae_areas_str` -/
def areasStr (info : StaticMetadata) (region : Region) : String :=
  if region = ⟨0, 0, 0, 0, 0⟩ then "(0, 0, 0, 0, 0)"
  else
    let left := clamp ((region.left * 2000).tdiv info.sensorWidth - 1000) (-999) 999
    let top := clamp ((region.top * 2000).tdiv info.sensorHeight - 1000) (-999) 999
    let right := clamp ((region.right * 2000).tdiv info.sensorWidth - 1000) (-999) 999
    let bottom := clamp ((region.bottom * 2000).tdiv info.sensorHeight - 1000) (-999) 999
    let weight := clamp region.weight 1 1000
    s!"({left}, {top}, {right}, {bottom}, {weight})"

/-- A parameter that a setting decides, if the request has it. -/
def setIfExists {α : Type} (setting : Option α) (name : String) (str : α → String) :
    CameraParameters :=
  match setting with
  | none => p
  | some value => p.set name (str value)

/-- `ANDROID_LENS_FOCUS_DISTANCE` -/
def setFocusDistance : CameraParameters :=
  match cm.manualFocus, cm.focusDistance with
  | true, some distance =>
    ((p.set "focus-mode" "manual").set "manual-focus-pos-type" "3").set "manual-focus-position"
      (toString distance)
  | _, _ => p

/-- The parameters after the exposure. -/
def setLate (info : StaticMetadata) : CameraParameters :=
  let p := setIfExists p cm.cropWidth "zoom" fun width => toString (hal3ToHal1Zoom info width)
  let p := setIfExists p cm.afRegions "focus-areas" (areasStr info)
  let p := setIfExists p cm.aeRegions "metering-areas" (areasStr info)
  let p := setIfExists p cm.aeLock "auto-exposure-lock" fun on => if on then "true" else "false"
  let p := setIfExists p cm.awbLock "auto-whitebalance-lock" fun on =>
    if on then "true" else "false"
  let p := setIfExists p cm.noiseReduction "denoise" fun fast =>
    if fast then "denoise-on" else "denoise-off"
  let p := setIfExists p cm.shadingMode "lensshade" fun fast => if fast then "enable" else "disable"
  let p := setIfExists p cm.thumbnailSize "jpeg-thumbnail-width" fun size => unsigned size.1
  let p := setIfExists p cm.thumbnailSize "jpeg-thumbnail-height" fun size => unsigned size.2
  let p := setIfExists p cm.thumbnailQuality "jpeg-thumbnail-quality" toString
  let p := setIfExists p cm.jpegQuality "jpeg-quality" toString
  let p := setIfExists p cm.jpegOrientation "rotation" unsigned
  setFocusDistance cm p

end OppoA37.Camera
