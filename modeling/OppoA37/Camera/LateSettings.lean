import OppoA37.Camera.Settings

/-!
# Which settings come late

A request sets the parameters of its modes and of the exposure first. The settings that follow have
names of their own, so the ones do not touch what the others set; but for `focus-mode`, which both
set to the same. `LateAgree` compares just these settings.
-/

namespace OppoA37.Camera

open OrderedMap

/-- The names that `setModes` sets. -/
def modeNames : List String :=
  ["scene-detect", "scene-mode", "redeye-reduction", "iso", "flash-mode", "exposure-compensation",
    "whitebalance", "manual-wb-type", "manual-wb-value", "focus-mode", "effect", "antibanding"]

/-- The names that `setExposure` sets. -/
def exposureNames : List String :=
  ["continuous-iso", "iso", "whitebalance", "zsl", "exposure-time", "manual-wb-type",
    "manual-wb-value"]

/-- The names that only `setLate` sets. -/
def lateNames : List String :=
  ["zoom", "focus-areas", "metering-areas", "auto-exposure-lock", "auto-whitebalance-lock",
    "denoise", "lensshade", "jpeg-thumbnail-width", "jpeg-thumbnail-height",
    "jpeg-thumbnail-quality", "jpeg-quality", "rotation", "manual-focus-pos-type",
    "manual-focus-position"]

variable {cm : Settings} {p q : CameraParameters} {names : List String}

/-! ## The modes -/

theorem setControlMode_frame (h : Frame modeNames p q) :
    Frame modeNames p (setControlMode cm q) := by
  have hdetect (value : String) : Frame modeNames p (q.set "scene-detect" value) :=
    h.set (by decide) value
  rw [setControlMode]
  cases cm.controlMode with
  | none => exact h
  | some mode =>
    cases mode with
    | useSceneMode => exact hdetect _
    | auto | off => exact (hdetect _).set (by decide) _
    | other => exact h

theorem setSceneMode_frame (h : Frame modeNames p q) :
    Frame modeNames p (setSceneMode cm q) := by
  rw [setSceneMode]
  cases cm.sceneMode with
  | none => exact h
  | some mode =>
    dsimp only
    split_ifs
    · exact (h.set (by decide) _).set (by decide) _
    · exact h

theorem setAeMode_frame (h : Frame modeNames p q) : Frame modeNames p (setAeMode cm q) := by
  have hreset : Frame modeNames p ((q.set "redeye-reduction" "disable").set "iso" "auto") :=
    (h.set (by decide) _).set (by decide) _
  rw [setAeMode]
  cases cm.aeMode with
  | none => exact h
  | some mode =>
    dsimp only
    split_ifs
    · exact h
    · cases mode with
      | off | on | onAutoFlash | onAlwaysFlash => exact hreset.set (by decide) _
      | onAutoFlashRedeye => exact (hreset.set (by decide) _).set (by decide) _
      | other => exact hreset

theorem setFlashMode_frame (h : Frame modeNames p q) :
    Frame modeNames p (setFlashMode cm q) := by
  have hset (value : String) : Frame modeNames p (q.set "flash-mode" value) :=
    h.set (by decide) value
  rw [setFlashMode]
  cases cm.flashMode with
  | none => exact h
  | some mode =>
    -- every mode sets it or leaves it
    cases mode <;> dsimp only <;> split_ifs <;> first | exact h | exact hset _

theorem setExposureCompensation_frame (h : Frame modeNames p q) :
    Frame modeNames p (setExposureCompensation cm q) := by
  rw [setExposureCompensation]
  cases cm.exposureCompensation with
  | none => exact h
  | some value =>
    dsimp only
    split_ifs
    · exact h
    · exact h.set (by decide) _

theorem setAwbMode_frame (h : Frame modeNames p q) : Frame modeNames p (setAwbMode cm q) := by
  rw [setAwbMode]
  cases cm.awbMode with
  | none => exact h
  | some mode =>
    dsimp only
    split_ifs
    · exact h
    · cases mode with
      | some mode => exact h.set (by decide) _
      | none =>
        cases cm.colorCorrectionGains with
        | none => exact h
        | some gains => exact ((h.set (by decide) _).set (by decide) _).set (by decide) _

theorem setAfMode_frame (h : Frame modeNames p q) : Frame modeNames p (setAfMode cm q) := by
  rw [setAfMode]
  cases cm.afMode with
  | none => exact h
  | some mode =>
    dsimp only
    split_ifs
    · exact h
    · exact h.set (by decide) _

/-- The effect and the antibanding have names of their own. -/
theorem setEffects_frame (h : Frame names p q) (heffect : "effect" ∈ names)
    (hantibanding : "antibanding" ∈ names) :
    Frame names p (setAntibandingMode cm (setEffectMode cm q)) := by
  have hset : Frame names p (setEffectMode cm q) := by
    rw [setEffectMode]
    cases cm.effectMode with
    | none => exact h
    | some mode => exact h.set heffect _
  rw [setAntibandingMode]
  cases cm.antibandingMode with
  | none => exact hset
  | some mode => exact hset.set hantibanding _

/-- The modes leave everything else alone. -/
theorem setModes_frame (cm : Settings) (p : CameraParameters) :
    Frame modeNames p (setModes cm p) := by
  rw [setModes]
  refine setEffects_frame ?_ (by decide) (by decide)
  apply setAfMode_frame
  apply setAwbMode_frame
  apply setExposureCompensation_frame
  apply setFlashMode_frame
  apply setAeMode_frame
  apply setSceneMode_frame
  apply setControlMode_frame
  exact Frame.refl _ _

/-- A request that focuses by hand says so in the modes. -/
theorem setModes_manualFocus (hmanual : cm.manualFocus = true) (p : CameraParameters) :
    (setModes cm p).get "focus-mode" = some "manual" := by
  obtain ⟨hscene, hoff⟩ := Bool.and_eq_true_iff.mp hmanual
  have haf (q : CameraParameters) : (setAfMode cm q).get "focus-mode" = some "manual" := by
    have huse : ¬ cm.useScene = true := by simpa using hscene
    rw [setAfMode, of_decide_eq_true hoff]
    dsimp only
    rw [if_neg huse, get_set, if_pos rfl, AfMode.str]
  -- what comes after it does not touch the focus
  have hafter (q : CameraParameters) :
      Frame ["effect", "antibanding"] q (setAntibandingMode cm (setEffectMode cm q)) :=
    setEffects_frame (Frame.refl _ _) (by decide) (by decide)
  rw [setModes, ← haf]
  exact hafter _ "focus-mode" (by decide)

/-! ## The exposure -/

/-- The exposure leaves everything else alone, whenever the parameters are sent. -/
theorem frame_of_mem_setExposure {info : StaticMetadata} (hq : q ∈ setExposure cm p info) :
    Frame exposureNames p q := by
  rw [setExposure] at hq
  split at hq
  · have hiso (iso : ℤ) : Frame exposureNames p
        (if iso < 1251 then p.set "continuous-iso" (toString iso) else p) := by
      split_ifs
      · exact (Frame.refl _ _).set (by decide) _
      · exact Frame.refl _ _
    -- each one is the one before, with another setting
    have h₁ (iso : ℤ) : Frame exposureNames p (((if iso < 1251 then
        p.set "continuous-iso" (toString iso) else p).set "iso" (isoStr iso)).set
        "whitebalance" "auto") := ((hiso iso).set (by decide) _).set (by decide) _
    have h₂ (iso : ℤ) := (h₁ iso).set (by decide : "zsl" ∈ exposureNames) "off"
    simp only [List.mem_cons, List.not_mem_nil, or_false] at hq
    rcases hq with rfl | rfl | rfl
    · exact h₁ _
    · exact h₂ _
    · exact (h₂ _).set (by decide) _
  · dsimp only at hq
    have hp : Frame exposureNames p
        (((p.set "iso" "auto").set "exposure-time" "0").set "zsl" "on") :=
      (((Frame.refl _ _).set (by decide) _).set (by decide) _).set (by decide) _
    split at hq
    · rw [List.mem_singleton.mp hq]
      exact ((hp.set (by decide) _).set (by decide) _).set (by decide) _
    · rw [List.mem_singleton.mp hq]
      exact hp

/-- The sensitivity is always set. -/
theorem get_iso_of_mem_setExposure {info : StaticMetadata} (hq : q ∈ setExposure cm p info) :
    q.get "iso" ≠ none := by
  rw [setExposure] at hq
  split at hq
  · simp only [List.mem_cons, List.not_mem_nil, or_false] at hq
    rcases hq with rfl | rfl | rfl <;> simp [get_set]
  · dsimp only at hq
    split at hq <;> rw [List.mem_singleton.mp hq] <;> simp [get_set]

/-! ## What comes late -/

theorem setIfExists_frame {β : Type} (setting : Option β) (str : β → String) {name : String}
    (h : Frame lateNames p q) (hname : name ∈ lateNames) :
    Frame lateNames p (setIfExists q setting name str) := by
  cases setting with
  | none => exact h
  | some value => exact h.set hname _

theorem setFocusDistance_frame (hfocus : cm.manualFocus = true → p.get "focus-mode" = some "manual")
    (h : Frame lateNames p q) : Frame lateNames p (setFocusDistance cm q) := by
  rw [setFocusDistance]
  split
  · rename_i hmanual _
    have hsame := h.set_same (hfocus hmanual) (by decide)
    exact (hsame.set (by decide) _).set (by decide) _
  · exact h

/-- What comes late leaves everything else alone, if the modes say that the focus is manual when it
is. -/
theorem setLate_frame (info : StaticMetadata)
    (hfocus : cm.manualFocus = true → p.get "focus-mode" = some "manual") :
    Frame lateNames p (setLate cm p info) := by
  rw [setLate]
  apply setFocusDistance_frame hfocus
  repeat refine setIfExists_frame _ _ ?_ (by decide)
  exact Frame.refl _ _

/-- The settings that come late are the same. -/
def LateAgree (p q : CameraParameters) : Prop := ∀ name ∈ lateNames, p.get name = q.get name

instance (p q : CameraParameters) : Decidable (LateAgree p q) :=
  inferInstanceAs (Decidable (∀ name ∈ lateNames, p.get name = q.get name))

namespace LateAgree

variable {r : CameraParameters}

theorem symm (h : LateAgree p q) : LateAgree q p := fun name hname => (h name hname).symm

theorem trans (hpq : LateAgree p q) (hqr : LateAgree q r) : LateAgree p r :=
  fun name hname => (hpq name hname).trans (hqr name hname)

/-- Setting something else leaves what comes late alone. -/
theorem of_frame (h : Frame names p q) (hnames : ∀ name ∈ lateNames, name ∉ names) :
    LateAgree q p :=
  fun name hname => h name (hnames name hname)

/-- Then it is all the same, if nothing else was set. -/
theorem eq (h : LateAgree p q) (hframe : Frame lateNames p q) : p = q := by
  refine ext_get fun name => ?_
  by_cases hname : name ∈ lateNames
  · exact h name hname
  · exact (hframe name hname).symm

end LateAgree

end OppoA37.Camera
