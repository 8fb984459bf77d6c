import OppoA37.Camera.Adapter
import OppoA37.Camera.LateSettings
import OppoA37.Lib.Monitor

/-!
# The parameters of the legacy camera

When a request returns, the legacy camera is to have been told of all its settings: what it was
sent last is to be `current_params`. Up to the exposure everything is sent at once. The settings
that come later are sent with the whole set, unless that is the set of the request before,
`previous_params`; and `current_params` are sent once more when recording starts.

But `previous_params` outlive the camera. When one was opened again, the first request may ask for
just what the last one before asked for, and then the settings that come late are never sent to
the new camera. `fresh_iff` is exact about the requests for which this happens.
-/

namespace OppoA37.Camera

open Lts OrderedMap

universe u

variable {α : Type u} {host : Host α} {s : CameraState α} {settings : Settings}
  {h : List (Event (CameraState α) (CameraCall α) (CameraOut α))}

/-! ## What is sent -/

theorem lastSent_append (hal1 : CameraParameters) (o₁ o₂ : List (CameraOut α)) :
    lastSent hal1 (o₁ ++ o₂) = lastSent (lastSent hal1 o₁) o₂ :=
  List.foldl_append

theorem lastSent_map (hal1 : CameraParameters) (l : List CameraParameters) :
    lastSent hal1 (l.map CameraOut.sent : List (CameraOut α)) = l.getLastD hal1 := by
  induction l generalizing hal1 with
  | nil => rfl
  | cons p l ih =>
    rw [List.getLastD_cons, ← ih]
    rfl

/-- The exposure is always sent. -/
theorem setExposure_ne_nil (cm : Settings) (p : CameraParameters) (info : StaticMetadata) :
    setExposure cm p info ≠ [] := by
  rw [setExposure]
  split
  · simp
  · dsimp only
    split <;> simp

/-- Some stream is the first that is recorded. -/
def Adapter.Records (a : Adapter α) (streams : List Stream) : Prop :=
  a.videoStream = false ∧ ∃ s ∈ streams, s.format = .nv12Encodeable

instance (a : Adapter α) (streams : List Stream) : Decidable (a.Records streams) :=
  inferInstanceAs (Decidable (_ ∧ _))

/-- The loop over the output buffers sends the parameters just if recording starts. -/
theorem deliverAll_sent (host : Host α) (a : Adapter α) (params hal1 : CameraParameters)
    (streams : List Stream) :
    (a.Records streams → lastSent hal1 (host.deliverAll a params streams).2 =
        (host.deliverAll a params streams).1.2) ∧
      (¬ a.Records streams → lastSent hal1 (host.deliverAll a params streams).2 = hal1 ∧
        (host.deliverAll a params streams).1.2 = params) := by
  induction streams generalizing a params hal1 with
  | nil => simp [Host.deliverAll, Adapter.Records, lastSent]
  | cons s streams ih =>
    rw [Host.deliverAll, lastSent_append]
    dsimp only
    by_cases hstarts : a.videoStream = false ∧ s.format = .nv12Encodeable
    · -- it starts here, and only once
      obtain ⟨hvideo, hformat⟩ := hstarts
      have hrecords : a.Records (s :: streams) := ⟨hvideo, s, List.mem_cons_self, hformat⟩
      refine ⟨fun _ => ?_, fun hno => absurd hrecords hno⟩
      simp only [Host.deliver, hformat, hvideo, Bool.false_eq_true, if_false]
      set params' := (((params.set "video-frame-format" "nv12-venus").set "iso" "auto").set
        "exposure-time" "0").set "zsl" "on"
      have hno : ¬ Adapter.Records { a with videoStream := true } streams := by
        rintro ⟨hoff, -⟩
        cases hoff
      obtain ⟨hsent, hparams⟩ := (ih { a with videoStream := true } params'
        (lastSent hal1 [.sent params'])).2 hno
      rw [hsent, hparams]
      rfl
    · have hsame : (host.deliver a params s).1 = (a, params) ∧
          ∀ hal1, lastSent hal1 (host.deliver a params s).2 = hal1 := by
        cases hformat : s.format with
        | nv12Encodeable =>
          have hvideo : a.videoStream = true :=
            Bool.eq_true_of_not_eq_false fun hoff => hstarts ⟨hoff, hformat⟩
          simp [Host.deliver, hformat, hvideo, lastSent]
        | _ => simp [Host.deliver, hformat, lastSent]
      rw [hsame.1, hsame.2]
      have hrecords : a.Records (s :: streams) ↔ a.Records streams := by
        simp only [Adapter.Records, List.exists_mem_cons_iff]
        constructor
        · rintro ⟨hvideo, hformat | hmem⟩
          · exact absurd ⟨hvideo, hformat⟩ hstarts
          · exact ⟨hvideo, hmem⟩
        · rintro ⟨hvideo, hmem⟩
          exact ⟨hvideo, Or.inr hmem⟩
      rw [hrecords]
      exact ih a params hal1

/-! ## What is asked for -/

/-- The exposure ends with one of the sets that it sends. -/
theorem Host.afterExposure_mem (host : Host α) (s : CameraState α) (settings : Settings) :
    host.afterExposure s settings ∈ setExposure settings (setModes settings s.currentParams)
      (host.staticMetadata s.cameraId) := by
  obtain ⟨p, l, hl⟩ := List.exists_cons_of_ne_nil (setExposure_ne_nil settings
    (setModes settings s.currentParams) (host.staticMetadata s.cameraId))
  rw [Host.afterExposure, Host.early, hl, List.getLastD_cons]
  exact List.getLastD_mem_cons

/-- Up to the exposure, what comes late is as it was. -/
theorem Host.afterExposure_lateAgree (host : Host α) (s : CameraState α) (settings : Settings) :
    LateAgree (host.afterExposure s settings) s.currentParams := by
  have hexposure := frame_of_mem_setExposure (host.afterExposure_mem s settings)
  exact (LateAgree.of_frame hexposure (by decide)).trans
    (LateAgree.of_frame (setModes_frame settings s.currentParams) (by decide))

/-- After it, only what comes late is set. -/
theorem Host.asked_frame (host : Host α) (s : CameraState α) (settings : Settings) :
    Frame lateNames (host.afterExposure s settings) (host.asked s settings) := by
  refine setLate_frame _ fun hmanual => ?_
  rw [frame_of_mem_setExposure (host.afterExposure_mem s settings) "focus-mode" (by decide)]
  exact setModes_manualFocus hmanual s.currentParams

/-- A request that asks for what the one before asked for has sent all of it up to the exposure just
if what comes late was in `current_params`. -/
theorem Host.afterExposure_eq_iff (hasked : host.asked s settings = s.previousParams) :
    host.afterExposure s settings = host.asked s settings ↔
      LateAgree s.currentParams s.previousParams := by
  have hafter := host.afterExposure_lateAgree s settings
  constructor
  · intro heq
    rw [← hasked, ← heq]
    exact hafter.symm
  · intro hlate
    rw [← hasked] at hlate
    exact (hafter.trans hlate).eq (host.asked_frame s settings)

/-! ## Runs -/

/-- Nothing that a request asks for is held back: recording starts, or the set that it asks for is
not `previous_params`, or what comes late in these is in `current_params` already. -/
def Host.tells (host : Host α) (s : CameraState α) : CameraCall α → Bool
  | .request settings outputs =>
    decide (outputs = []) ||
      (s.adapter.any fun a => decide (a.Records (outputs.filterMap fun i => a.streams[i]?))) ||
      decide (host.asked s settings ≠ s.previousParams) ||
      decide (LateAgree s.currentParams s.previousParams)
  | .deviceOpen _ _ | .configure _ | .frame _ | .close => true

/-- When a request returns, what the legacy camera was sent last are `current_params`. -/
def Fresh (e : Event (CameraState α) (CameraCall α) (CameraOut α)) : Prop :=
  .returned 0 ∈ e.out → e.post.hal1 = e.post.currentParams

/-- A request returns without an error. -/
def CameraOut.succeeds : CameraOut α → Bool
  | returned err => decide (err = 0)
  | sent _ | copied _ _ => false

theorem CameraOut.succeeds_iff (o : CameraOut α) : o.succeeds = true ↔ o = .returned 0 := by
  cases o <;> simp [succeeds]

/-- The streams of the output buffers, when all of them exist. -/
theorem filterMap_of_mapM {l : List Stream} {outputs : List ℕ} {streams : List Stream}
    (h : (outputs.mapM fun i => l[i]?) = some streams) :
    (outputs.filterMap fun i => l[i]?) = streams := by
  induction outputs generalizing streams with
  | nil => simpa using h
  | cons i outputs ih =>
    rw [List.mapM_cons] at h
    obtain ⟨first, hfirst, h⟩ := Option.bind_eq_some_iff.mp h
    obtain ⟨rest, hrest, h⟩ := Option.bind_eq_some_iff.mp h
    rw [List.filterMap_cons_some hfirst, ih hrest]
    exact Option.some.inj h

/-- **One request.** -/
theorem processCaptureRequest_hal1 (s : CameraState α) (a : Adapter α) (settings : Settings)
    (streams : List Stream) :
    (host.processCaptureRequest s a settings streams).1.hal1 =
        (host.processCaptureRequest s a settings streams).1.currentParams ↔
      a.Records streams ∨ host.asked s settings ≠ s.previousParams ∨
        LateAgree s.currentParams s.previousParams := by
  have hearly : lastSent s.hal1 ((host.early s settings).map CameraOut.sent : List (CameraOut α)) =
      host.afterExposure s settings := by
    obtain ⟨p, l, hl⟩ := List.exists_cons_of_ne_nil (setExposure_ne_nil settings
      (setModes settings s.currentParams) (host.staticMetadata s.cameraId))
    rw [lastSent_map, Host.afterExposure, Host.early, hl, List.getLastD_cons, List.getLastD_cons]
  simp only [Host.processCaptureRequest]
  rw [lastSent_append, lastSent_append, hearly]
  by_cases hrecords : a.Records streams
  · rw [(deliverAll_sent host a _ _ streams).1 hrecords]
    exact ⟨fun _ => Or.inl hrecords, fun _ => rfl⟩
  · obtain ⟨hsent, hparams⟩ := (deliverAll_sent host a (host.asked s settings)
      (lastSent (host.afterExposure s settings)
        (if host.asked s settings ≠ s.previousParams then [.sent (host.asked s settings)] else []))
      streams).2 hrecords
    rw [hsent, hparams]
    by_cases hcached : host.asked s settings ≠ s.previousParams
    · rw [if_pos hcached]
      exact ⟨fun _ => Or.inr (Or.inl hcached), fun _ => rfl⟩
    · -- nothing is sent after the exposure
      rw [if_neg hcached]
      have hiff := Host.afterExposure_eq_iff (not_not.mp hcached)
      constructor
      · exact fun heq => Or.inr (Or.inr (hiff.mp heq))
      · rintro (hyes | hyes | hlate)
        · exact absurd hyes hrecords
        · exact absurd hyes hcached
        · exact hiff.mpr hlate

/-- **One step** is fresh just if nothing is held back. -/
theorem fresh_step_iff {s' : CameraState α} {l : CameraCall α} {out : List (CameraOut α)}
    (hs : host.machine.step s l = some (s', out)) :
    Fresh ⟨s, l, out, s'⟩ ↔ host.tells s l = true := by
  have hhandles : Handles host s l s' out := handles_of_step hs
  cases hhandles with
  | invalid settings =>
    refine ⟨fun _ => by simp [Host.tells], fun _ hout => ?_⟩
    simp [EINVAL] at hout
  | requests settings outputs a ha streams hne hstreams =>
    have hfresh : Fresh ⟨s, .request settings outputs,
        (host.processCaptureRequest s a settings streams).2,
        (host.processCaptureRequest s a settings streams).1⟩ ↔
        (host.processCaptureRequest s a settings streams).1.hal1 =
          (host.processCaptureRequest s a settings streams).1.currentParams :=
      imp_iff_right (List.mem_append_right _ List.mem_cons_self)
    rw [hfresh, processCaptureRequest_hal1]
    simp [Host.tells, ha, filterMap_of_mapM hstreams, hne, or_assoc]
  | _ => exact ⟨fun _ => rfl, fun _ hout => by simp at hout⟩

/-- **The runs in which the legacy camera has been told of everything** when a request returns are
those in which nothing is held back. -/
theorem fresh_iff (hrun : Run host.machine .start h s) :
    (∀ e ∈ h, host.tells e.pre e.label = true) ↔ ∀ e ∈ h, Fresh e := by
  refine Run.forall_iff (fun _ => True) (fun s l => host.tells s l = true) Fresh trivial ?_ ?_ hrun
  · intro s l s' out _ htells hs
    exact ⟨trivial, (fresh_step_iff hs).mpr htells⟩
  · intro s l s' out _ hno hs hfresh
    exact hno ((fresh_step_iff hs).mp hfresh)

/-- Some of what a camera has been set to when it is opened. -/
def someDefaults : CameraParameters := (OrderedMap.empty.set "zoom" "0").set "rotation" "0"

/-- A request that zooms, and that is repeated after the streams were configured again. -/
theorem fresh_repeated :
    ∃ h s, Run plainHost.machine .start h s ∧
      h.map Event.label = [.deviceOpen 0 someDefaults,
        .configure [⟨true, .implementationDefined, 0, 640, 480⟩], .frame id,
        .request { cropWidth := some 2000 } [0],
        .configure [⟨true, .yCrCb420Sp, 48, 640, 480⟩], .frame id,
        .request { cropWidth := some 2000 } [0]] ∧
      s.hal1.get "zoom" = some "1" ∧ ∀ e ∈ h, Fresh e := by
  obtain ⟨h, s, hrun, hl, hcheck⟩ := plainHost.machine.exists_run .start
    [.deviceOpen 0 someDefaults, .configure [⟨true, .implementationDefined, 0, 640, 480⟩],
      .frame id, .request { cropWidth := some 2000 } [0],
      .configure [⟨true, .yCrCb420Sp, 48, 640, 480⟩], .frame id,
      .request { cropWidth := some 2000 } [0]]
    (fun h s => decide (s.hal1.get "zoom" = some "1") &&
      h.all fun e => plainHost.tells e.pre e.label) (by decide +kernel)
  obtain ⟨hzoom, hcheck⟩ := Bool.and_eq_true_iff.mp hcheck
  refine ⟨h, s, hrun, hl, of_decide_eq_true hzoom, ?_⟩
  exact (fresh_iff hrun).mp (List.all_eq_true.mp hcheck)

/-- A request that zooms, and the same as the first one after the camera was closed and opened
again: the legacy camera does not zoom. -/
theorem zoom_held_back :
    ∃ h e, Run plainHost.machine .start (h ++ [e]) e.post ∧
      h.map Event.label = [.deviceOpen 0 someDefaults,
        .configure [⟨true, .implementationDefined, 0, 640, 480⟩], .frame id,
        .request { cropWidth := some 2000 } [0], .close, .deviceOpen 0 someDefaults,
        .configure [⟨true, .implementationDefined, 0, 640, 480⟩], .frame id] ∧
      e.label = .request { cropWidth := some 2000 } [0] ∧
      e.post.currentParams.get "zoom" = some "1" ∧ e.post.hal1.get "zoom" = some "0" ∧
      ¬ Fresh e := by
  obtain ⟨h, e, hrun, hl, he, hcheck⟩ := plainHost.machine.exists_run_last .start
    [.deviceOpen 0 someDefaults, .configure [⟨true, .implementationDefined, 0, 640, 480⟩],
      .frame id, .request { cropWidth := some 2000 } [0], .close, .deviceOpen 0 someDefaults,
      .configure [⟨true, .implementationDefined, 0, 640, 480⟩], .frame id]
    (.request { cropWidth := some 2000 } [0])
    (fun _ e => decide (e.post.currentParams.get "zoom" = some "1" ∧
      e.post.hal1.get "zoom" = some "0") && e.out.any CameraOut.succeeds)
    (by decide +kernel)
  obtain ⟨hzoom, hout⟩ := Bool.and_eq_true_iff.mp hcheck
  obtain ⟨hcurrent, hhal1⟩ := of_decide_eq_true hzoom
  obtain ⟨o, ho, hsucceeds⟩ := List.any_eq_true.mp hout
  refine ⟨h, e, hrun, hl, he, hcurrent, hhal1, fun hfresh => ?_⟩
  have heq := hfresh ((CameraOut.succeeds_iff o).mp hsucceeds ▸ ho)
  rw [← heq, hhal1] at hcurrent
  exact absurd hcurrent (by decide)

end OppoA37.Camera
