import OppoA37.Lib.OrderedMap

/-!
# `CameraParameters`

The parameters of a legacy camera: names with values, ordered by name. `flatten` writes them one
after the other, so two sets of parameters have the same text just if they are the same; nothing
that is set here has the separators in it.
-/

namespace OppoA37.Camera

/-- `CameraParameters` -/
abbrev CameraParameters := OrderedMap String String

namespace CameraParameters

/-- The value of a dimension, as it is written. -/
def size (width height : ℕ) : String := s!"{width}x{height}"

/-- `setPictureSize` -/
def setPictureSize (p : CameraParameters) (width height : ℕ) : CameraParameters :=
  p.set "picture-size" (size width height)

/-- `setVideoSize` -/
def setVideoSize (p : CameraParameters) (width height : ℕ) : CameraParameters :=
  p.set "video-size" (size width height)

/-- `setPreviewSize` -/
def setPreviewSize (p : CameraParameters) (width height : ℕ) : CameraParameters :=
  p.set "preview-size" (size width height)

end CameraParameters

end OppoA37.Camera
