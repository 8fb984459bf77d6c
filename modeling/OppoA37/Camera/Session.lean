import OppoA37.Camera.SetParameters

/-!
# Cameras that are opened before the first request

What the legacy camera was sent can only fall behind after a camera was opened again: as long as
none is opened once a request was made, whatever else happens, what comes late is the same in what
the legacy camera was sent, in `current_params` and in `previous_params` (`Told`). So nothing is
ever held back.
-/

namespace OppoA37.Camera

open Lts OrderedMap

universe u

variable {α : Type u} {host : Host α} {s s' : CameraState α} {l : CameraCall α}
  {out : List (CameraOut α)} {h : List (Event (CameraState α) (CameraCall α) (CameraOut α))}

/-! ## What the other calls set -/

/-- The names that are set while streams are configured. -/
def streamNames : List String :=
  ["picture-format", "picture-size", "video-size", "preview-size", "no-display-mode",
    "preview-frame-rate"]

/-- The names that are set when recording starts. -/
def recordingNames : List String := ["video-frame-format", "iso", "exposure-time", "zsl"]

theorem configureStream_frame (useHwcomposer : Bool) (v : Preview) (s : Stream) :
    Frame streamNames v.params (configureStream useHwcomposer v s).1.params := by
  have hrefl : Frame streamNames v.params v.params := Frame.refl _ _
  rw [configureStream]
  by_cases houtput : s.output = true
  · rw [if_pos houtput]
    cases s.format with
    | blob => exact (hrefl.set (by decide) _).set (by decide) _
    | implementationDefined =>
      by_cases husage : s.usage = 0x00010000
      · simp only [if_pos husage]
        exact hrefl.set (by decide) _
      · simp only [if_neg husage]
        -- what becomes of the stream does not matter
        split_ifs
        · exact hrefl.set (by decide) _
        · exact hrefl
    | _ => exact hrefl
  · rw [if_neg houtput]
    exact hrefl

theorem configureAll_frame (useHwcomposer : Bool) (v : Preview) (streams : List Stream) :
    Frame streamNames v.params (configureAll useHwcomposer v streams).1.params := by
  induction streams generalizing v with
  | nil => exact Frame.refl _ _
  | cons s streams ih => exact (configureStream_frame useHwcomposer v s).trans (ih _)

/-- Configuring streams leaves what comes late alone. -/
theorem Host.configureStreams_lateAgree (host : Host α) (a : Adapter α) (hal1 : CameraParameters)
    (streams : List Stream) : LateAgree (host.configureStreams a hal1 streams).2 hal1 := by
  have hall := configureAll_frame host.useHwcomposer ⟨a.streamWidth, a.streamHeight, hal1⟩ streams
  exact LateAgree.of_frame ((hall.set (by decide) "1").set (by decide) "30") (by decide)

theorem Host.deliver_frame (host : Host α) (a : Adapter α) (params : CameraParameters)
    (s : Stream) : Frame recordingNames params (host.deliver a params s).1.2 := by
  have hrefl : Frame recordingNames params params := Frame.refl _ _
  rw [deliver]
  cases s.format with
  | nv12Encodeable =>
    dsimp only
    split_ifs
    · exact hrefl
    · exact (((hrefl.set (by decide) _).set (by decide) _).set (by decide) _).set (by decide) _
  | _ => exact hrefl

theorem Host.deliverAll_frame (host : Host α) (a : Adapter α) (params : CameraParameters)
    (streams : List Stream) :
    Frame recordingNames params (host.deliverAll a params streams).1.2 := by
  induction streams generalizing a params with
  | nil => exact Frame.refl _ _
  | cons s streams ih => exact (host.deliver_frame a params s).trans (ih _ _)

/-- A request always asks for something. -/
theorem Host.asked_ne_empty (host : Host α) (s : CameraState α) (settings : Settings) :
    host.asked s settings ≠ .empty := by
  intro hempty
  have hiso := host.asked_frame s settings "iso" (by decide)
  rw [hempty, get_empty] at hiso
  exact get_iso_of_mem_setExposure (host.afterExposure_mem s settings) hiso.symm

/-! ## Runs -/

/-- No camera is opened after a request was made. -/
def CameraState.opensFirst (s : CameraState α) : CameraCall α → Bool
  | .deviceOpen _ _ => decide (s.previousParams = .empty)
  | .configure _ | .frame _ | .request _ _ | .close => true

/-- No request was made yet, or what comes late is the same everywhere. -/
def Told (s : CameraState α) : Prop :=
  s.previousParams = .empty ∨
    (LateAgree s.hal1 s.currentParams ∧ LateAgree s.currentParams s.previousParams)

/-- Then a request holds nothing back. -/
theorem Told.tells (hI : Told s) (l : CameraCall α) : host.tells s l = true := by
  cases l with
  | request settings outputs =>
    rcases hI with hempty | ⟨-, hlate⟩
    · have hne : host.asked s settings ≠ s.previousParams := hempty ▸ host.asked_ne_empty s settings
      simp [Host.tells, hne]
    · simp [Host.tells, hlate]
  | _ => rfl

theorem Told.step (hI : Told s) (hopens : s.opensFirst l = true)
    (hs : host.machine.step s l = some (s', out)) : Told s' := by
  have hfresh := (fresh_step_iff hs).mpr (hI.tells l)
  have hhandles : Handles host s l s' out := handles_of_step hs
  cases hhandles with
  | opens id defaults hnone => exact Or.inl (of_decide_eq_true hopens)
  | configures streams a ha =>
    refine hI.imp_right fun hlate => ⟨fun _ _ => rfl, ?_⟩
    -- they are made from what the legacy camera has
    have hhal1 := host.configureStreams_lateAgree a s.hal1 streams
    exact (hhal1.trans hlate.1).trans hlate.2
  | requests settings outputs a ha streams hne hstreams =>
    refine Or.inr ⟨?_, ?_⟩
    · have heq := hfresh (List.mem_append_right _ List.mem_cons_self)
      exact fun name _ => congrArg (fun p : CameraParameters => p.get name) heq
    · exact LateAgree.of_frame (host.deliverAll_frame a _ streams) (by decide)
  | _ => exact hI

/-- **Nothing is held back** in the runs in which no camera is opened after a request was made. -/
theorem fresh_of_opensFirst (hrun : Run host.machine .start h s)
    (hopens : ∀ e ∈ h, e.pre.opensFirst e.label = true) : ∀ e ∈ h, Fresh e := by
  intro e he
  obtain ⟨hI, hs, -⟩ := hrun.invariant_of_mem Told (fun s l => s.opensFirst l = true)
    (Or.inl rfl) (fun _ _ _ _ hI hopens hs => hI.step hopens hs) hopens he
  exact (fresh_step_iff hs).mpr (hI.tells e.label)

end OppoA37.Camera
