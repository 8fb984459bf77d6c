import OppoA37.Lib.CInt

/-!
# The white light

Attention and notifications share one light of three colours. `handleWhiteLed` stores what either
asks for and shows the first of the two that is not black; if both are, it takes the first one. A
light that blinks gets the part of the time that it is on, as a number up to 255, from the times
that the caller gives.

Three things go wrong:

* The times are added and multiplied as `int`s.
* A part below one in 255 is not rounded up to 16, but stays 0: `faint_blink`.
* When both are black, the light may blink as attention asks, and not as notifications do. The same
  goes for what is in the array before anybody has asked.

`led_iff` says that nothing else does, for every sequence of calls.
-/

namespace OppoA37.Lights

open CInt

/-! ## Data -/

/-- `Flash` -/
inductive Flash where
  | NONE
  | TIMED
  | HARDWARE
  deriving DecidableEq, Repr

/-- `LightState` -/
structure LightState where
  /-- `color` -/
  color : BitVec 32
  /-- `flashMode` -/
  flashMode : Flash
  /-- `flashOnMs` -/
  flashOnMs : ℤ
  /-- `flashOffMs` -/
  flashOffMs : ℤ
  isInt_on : IsInt flashOnMs
  isInt_off : IsInt flashOffMs
  deriving DecidableEq

/-- `Type` -/
inductive LightType where
  | BACKLIGHT
  | KEYBOARD
  | BUTTONS
  | BATTERY
  | NOTIFICATIONS
  | ATTENTION
  | BLUETOOTH
  | WIFI
  deriving DecidableEq, Repr

/-- `Status`, as far as it is returned. -/
inductive Status where
  | SUCCESS
  | LIGHT_NOT_SUPPORTED
  deriving DecidableEq, Repr

/-- The files that are written. -/
structure Files where
  /-- `leds/lcd-backlight/brightness` -/
  lcdBacklight : ℤ
  /-- `leds/button-backlight/brightness` -/
  buttonBacklight : ℤ
  /-- `leds/red/brightness` -/
  red : ℤ
  /-- `leds/green/brightness` -/
  green : ℤ
  /-- `leds/blue/brightness` -/
  blue : ℤ
  /-- `leds/red/device/grpfreq` -/
  grpfreq : ℤ
  /-- `leds/red/device/grppwm` -/
  grppwm : ℤ
  /-- `leds/red/device/blink` -/
  blink : ℤ
  deriving DecidableEq, Repr

/-- A `Light`, and the files. -/
structure Light where
  /-- `mLightStates` -/
  mLightStates : Fin 2 → LightState
  /-- the files -/
  files : Files

/-! ## The light -/

/-- `color & 0xffffff` is not 0. -/
def LightState.isLit (state : LightState) : Bool := state.color &&& 0xffffff#32 ≠ 0

/-- `rgbToBrightness`; the sum is 65280 at most. -/
def rgbToBrightness (state : LightState) : ℤ :=
  let color := state.color &&& 0x00ffffff#32
  ((77 * ((color >>> 16) &&& 0x00ff#32).toNat + 150 * ((color >>> 8) &&& 0x00ff#32).toNat +
    29 * (color &&& 0x00ff#32).toNat) >>> 8 : ℕ)

/-- `stateToUse` -/
def stateToUse (mLightStates : Fin 2 → LightState) : LightState :=
  ((List.ofFn mLightStates).find? LightState.isLit).getD (mLightStates 0)

/-- `onMs` -/
def LightState.onMs (state : LightState) : ℤ :=
  if state.flashMode = .TIMED then state.flashOnMs else 0

/-- `offMs` -/
def LightState.offMs (state : LightState) : ℤ :=
  if state.flashMode = .TIMED then state.flashOffMs else 0

/-- `blink` -/
def LightState.blinks (state : LightState) : Bool := 0 < state.onMs ∧ 0 < state.offMs

/-- The files that tell how to blink. -/
def Files.setBlinking (files : Files) (onMs offMs : ℤ) : Option Files := do
  let totalMs ← add onMs offMs
  let freq := totalMs.tdiv 50
  let pwm := (← mul onMs 255).tdiv totalMs
  let pwm := if 0 < pwm ∧ pwm < 16 then 16 else pwm
  some { files with grpfreq := freq, grppwm := pwm }

/-- The files that `handleWhiteLed` writes. -/
def Files.showState (files : Files) (state : LightState) : Option Files := do
  let brightness := rgbToBrightness state
  let files := { files with red := brightness, green := brightness, blue := brightness }
  let files ← if state.blinks then files.setBlinking state.onMs state.offMs else some files
  some { files with blink := if state.blinks then 1 else 0 }

/-- `handleWhiteLed` -/
def Light.handleWhiteLed (light : Light) (state : LightState) (index : Fin 2) : Option Light := do
  let mLightStates := Function.update light.mLightStates index state
  let files ← light.files.showState (stateToUse mLightStates)
  some ⟨mLightStates, files⟩

/-- `setLight` -/
def Light.setLight (light : Light) (type : LightType) (state : LightState) :
    Option (Light × Status) :=
  match type with
  | .ATTENTION => (light.handleWhiteLed state 0).map (·, .SUCCESS)
  | .BACKLIGHT => some ({ light with files :=
      { light.files with lcdBacklight := rgbToBrightness state } }, .SUCCESS)
  | .BUTTONS => some ({ light with files :=
      { light.files with buttonBacklight := rgbToBrightness state } }, .SUCCESS)
  | .NOTIFICATIONS => (light.handleWhiteLed state 1).map (·, .SUCCESS)
  | _ => some (light, .LIGHT_NOT_SUPPORTED)

/-! ## What is claimed -/

/-- A call for the white light: attention is 0, and notifications are 1. -/
abbrev Call := Fin 2 × LightState

/-- What is asked for. -/
def lightType (index : Fin 2) : LightType := if index = 0 then .ATTENTION else .NOTIFICATIONS

/-- A sequence of calls. -/
def Light.setLights (light : Light) (calls : List Call) : Option Light :=
  calls.foldlM (fun light c => (light.setLight (lightType c.1) c.2).map Prod.fst) light

/-- What was last asked for, from given states on. -/
def lastStates (states : Fin 2 → LightState) (calls : List Call) : Fin 2 → LightState :=
  calls.foldl (fun states c => Function.update states c.1 c.2) states

/-- The state of a light that nobody has asked for. -/
def dark : LightState where
  color := 0
  flashMode := .NONE
  flashOnMs := 0
  flashOffMs := 0
  isInt_on := by decide
  isInt_off := by decide

/-- Attention if it is not black, and else notifications. -/
def toShow (states : Fin 2 → LightState) : LightState :=
  if (states 0).isLit then states 0 else states 1

/-- The part of the time that the light is to be on, in 255 parts and not below 16. -/
def LightState.duty (state : LightState) : ℤ :=
  max 16 (255 * state.onMs / (state.onMs + state.offMs))

/-- The files show a state. -/
structure Files.Shows (files : Files) (state : LightState) : Prop where
  red : files.red = rgbToBrightness state
  green : files.green = rgbToBrightness state
  blue : files.blue = rgbToBrightness state
  blink : files.blink = if state.blinks then 1 else 0
  freq : state.blinks = true → 0 ≤ files.grpfreq
  pwm : state.blinks = true → files.grppwm = state.duty ∧ 1 ≤ files.grppwm ∧ files.grppwm ≤ 255

/-- The light does what was asked for, after some calls of a light that is new. -/
def ShowsLast (light : Light) (calls : List Call) : Prop :=
  ∃ light', light.setLights calls = some light' ∧
    light'.files.Shows (toShow (lastStates (fun _ => dark) calls))

/-- The times of a state are short enough, and it is not almost always off. -/
structure LightState.Fits (state : LightState) : Prop where
  total : state.onMs + state.offMs ≤ 2147483647
  on : state.onMs ≤ 8421504
  off : state.offMs ≤ 254 * state.onMs

/-- The state that the light takes looks like the one that was asked for, and fits if it blinks. -/
structure Looks (taken asked : LightState) : Prop where
  brightness : rgbToBrightness taken = rgbToBrightness asked
  blinks : taken.blinks = asked.blinks
  duty : taken.blinks = true → taken.duty = asked.duty
  fits : taken.blinks = true → taken.Fits

/-- After some calls, the state that is taken looks like the one that was asked for. -/
def LooksLast (light : Light) (calls : List Call) : Prop :=
  Looks (stateToUse (lastStates light.mLightStates calls))
    (toShow (lastStates (fun _ => dark) calls))

/-! ## Blinking -/

variable {files : Files} {onMs offMs : ℤ}

/-- Times that fit are written. -/
theorem setBlinking_of_fits (hon : 0 < onMs) (hoff : 0 < offMs)
    (htotal : onMs + offMs ≤ 2147483647) (hmul : onMs ≤ 8421504) (hpart : offMs ≤ 254 * onMs) :
    files.setBlinking onMs offMs = some { files with
      grpfreq := (onMs + offMs) / 50, grppwm := max 16 (255 * onMs / (onMs + offMs)) } := by
  have hadd : add onMs offMs = some (onMs + offMs) := if_pos ⟨by omega, htotal⟩
  have hprod : mul onMs 255 = some (onMs * 255) := if_pos ⟨by omega, by omega⟩
  have hpos : 1 ≤ 255 * onMs / (onMs + offMs) := by
    rw [Int.le_ediv_iff_mul_le (by omega)]
    omega
  have hmax : (if 0 < 255 * onMs / (onMs + offMs) ∧ 255 * onMs / (onMs + offMs) < 16 then 16
      else 255 * onMs / (onMs + offMs)) = max 16 (255 * onMs / (onMs + offMs)) := by
    split_ifs <;> omega
  rw [Files.setBlinking, hadd, hprod]
  simp only [Option.bind_eq_bind, Option.bind_some]
  rw [Int.tdiv_eq_ediv_of_nonneg (by omega), Int.tdiv_eq_ediv_of_nonneg (by omega),
    mul_comm onMs 255, hmax]

/-- Times that don't fit are not written, or lead to a part of 0. -/
theorem setBlinking_of_not_fits (hon : 0 < onMs)
    (h : ¬ (onMs + offMs ≤ 2147483647 ∧ onMs ≤ 8421504 ∧ offMs ≤ 254 * onMs)) {files' : Files}
    (hrun : files.setBlinking onMs offMs = some files') : files'.grppwm = 0 := by
  rw [Files.setBlinking, add, mul] at hrun
  split_ifs at hrun with htotal hmul hmul
  · rw [IsInt] at htotal hmul
    have hzero : 255 * onMs / (onMs + offMs) = 0 :=
      Int.ediv_eq_zero_of_lt (by omega) (by omega)
    simp only [Option.bind_eq_bind, Option.bind_some] at hrun
    rw [Int.tdiv_eq_ediv_of_nonneg (by omega : 0 ≤ onMs * 255), mul_comm onMs 255, hzero] at hrun
    obtain rfl := Option.some.inj hrun
    rfl
  all_goals cases hrun

/-- A part of the time, in 255 parts. -/
theorem duty_le {state : LightState} (h : state.blinks = true) : state.duty ≤ 255 := by
  rw [LightState.blinks, decide_eq_true_eq] at h
  rw [LightState.duty]
  have hle : 255 * state.onMs / (state.onMs + state.offMs) ≤ 255 := by
    apply Int.ediv_le_of_le_mul (by omega)
    omega
  omega

/-! ## One call -/

variable {taken asked : LightState}

/-- A state that does not blink. -/
theorem showState_of_steady (h : taken.blinks = false) :
    files.showState taken = some { files with
      red := rgbToBrightness taken, green := rgbToBrightness taken, blue := rgbToBrightness taken,
      blink := 0 } := by
  rw [Files.showState, h]
  rfl

/-- A state that blinks. -/
theorem showState_of_blinks (h : taken.blinks = true) :
    files.showState taken = (Files.setBlinking { files with
      red := rgbToBrightness taken, green := rgbToBrightness taken, blue := rgbToBrightness taken }
        taken.onMs taken.offMs).bind fun files => some { files with blink := 1 } := by
  rw [Files.showState, h]
  rfl

/-- The file tells whether the state that is shown blinks. -/
theorem Files.Shows.blinks_eq (h : files.Shows asked) :
    asked.blinks = decide (files.blink = 1) := by
  rw [h.blink]
  cases asked.blinks <;> rfl

/-- A call when the state that is taken does not blink. -/
theorem showState_iff_of_steady (h : taken.blinks = false) :
    (∃ files', files.showState taken = some files' ∧ files'.Shows asked) ↔ Looks taken asked := by
  rw [showState_of_steady h]
  refine ⟨?_, fun hlooks => ?_⟩
  · rintro ⟨files', hrun, hshows⟩
    obtain rfl := Option.some.inj hrun
    have hasked : asked.blinks = false := hshows.blinks_eq
    exact ⟨hshows.red, h.trans hasked.symm, fun hyes => absurd hyes (by simp [h]),
      fun hyes => absurd hyes (by simp [h])⟩
  · have hasked : asked.blinks = false := hlooks.blinks.symm.trans h
    have hred := hlooks.brightness
    exact ⟨_, rfl, hred, hred, hred, by rw [hasked]; rfl,
      fun hyes => absurd hyes (by simp [hasked]), fun hyes => absurd hyes (by simp [hasked])⟩

/-- A call when it does. -/
theorem showState_iff_of_blinks (h : taken.blinks = true) :
    (∃ files', files.showState taken = some files' ∧ files'.Shows asked) ↔ Looks taken asked := by
  have hpos := of_decide_eq_true h
  rw [showState_of_blinks h]
  refine ⟨?_, fun hlooks => ?_⟩
  · rintro ⟨files', hrun, hshows⟩
    obtain ⟨files₁, hset, hfiles⟩ := Option.bind_eq_some_iff.mp hrun
    obtain rfl := Option.some.inj hfiles
    have hasked : asked.blinks = true := hshows.blinks_eq
    obtain ⟨hpwm, hle, -⟩ := hshows.pwm hasked
    by_cases hfits : taken.onMs + taken.offMs ≤ 2147483647 ∧ taken.onMs ≤ 8421504 ∧
        taken.offMs ≤ 254 * taken.onMs
    · rw [setBlinking_of_fits hpos.1 hpos.2 hfits.1 hfits.2.1 hfits.2.2] at hset
      obtain rfl := Option.some.inj hset
      exact ⟨hshows.red, h.trans hasked.symm, fun _ => hpwm,
        fun _ => ⟨hfits.1, hfits.2.1, hfits.2.2⟩⟩
    · have hzero := setBlinking_of_not_fits hpos.1 hfits hset
      have hone : 1 ≤ files₁.grppwm := hle
      omega
  · have hasked : asked.blinks = true := hlooks.blinks.symm.trans h
    have hred := hlooks.brightness
    obtain ⟨htotal, hmul, hpart⟩ := hlooks.fits h
    have hduty := hlooks.duty h
    rw [setBlinking_of_fits hpos.1 hpos.2 htotal hmul hpart]
    refine ⟨_, rfl, hred, hred, hred, by rw [hasked]; rfl, fun _ => ?_, fun _ => ⟨hduty, ?_, ?_⟩⟩
    · exact Int.ediv_nonneg (by omega) (by omega)
    · exact (by omega : (1 : ℤ) ≤ 16).trans (le_max_left _ _)
    · exact (duty_le h : taken.duty ≤ 255)

/-- **One call** shows what was asked for just if the state that is taken looks like it, and
fits. -/
theorem showState_iff (files : Files) (taken asked : LightState) :
    (∃ files', files.showState taken = some files' ∧ files'.Shows asked) ↔ Looks taken asked := by
  rcases hblinks : taken.blinks with _ | _
  · exact showState_iff_of_steady hblinks
  · exact showState_iff_of_blinks hblinks

/-! ## Sequences of calls -/

variable {light light' : Light} {calls pre : List Call}

/-- A call for either light. -/
theorem setLight_lightType (light : Light) (index : Fin 2) (state : LightState) :
    (light.setLight (lightType index) state).map Prod.fst = light.handleWhiteLed state index := by
  have hsame : ∀ o : Option Light, (o.map (·, Status.SUCCESS)).map Prod.fst = o := by
    intro o
    cases o <;> rfl
  match index with
  | 0 => exact hsame _
  | 1 => exact hsame _

theorem setLights_snoc (light : Light) (pre : List Call) (c : Call) :
    light.setLights (pre ++ [c]) =
      (light.setLights pre).bind fun light' => light'.handleWhiteLed c.2 c.1 := by
  rw [Light.setLights, List.foldlM_append]
  refine congrArg (light.setLights pre).bind (funext fun light' => ?_)
  rw [List.foldlM_cons, setLight_lightType]
  exact bind_pure _

theorem lastStates_snoc (states : Fin 2 → LightState) (pre : List Call) (c : Call) :
    lastStates states (pre ++ [c]) = Function.update (lastStates states pre) c.1 c.2 := by
  rw [lastStates, List.foldl_append]
  rfl

/-- The array holds what was last asked for. -/
theorem mLightStates_setLights (h : light.setLights pre = some light') :
    light'.mLightStates = lastStates light.mLightStates pre := by
  induction pre using List.reverseRecOn generalizing light' with
  | nil =>
    obtain rfl := Option.some.inj h
    rfl
  | append_singleton pre c ih =>
    rw [setLights_snoc] at h
    obtain ⟨light₁, hpre, hlast⟩ := Option.bind_eq_some_iff.mp h
    obtain ⟨files, -, hfiles⟩ := Option.bind_eq_some_iff.mp hlast
    obtain rfl := Option.some.inj hfiles
    rw [lastStates_snoc, ← ih hpre]

/-- One more call. -/
theorem showsLast_snoc_iff (h : light.setLights pre = some light') (c : Call) :
    ShowsLast light (pre ++ [c]) ↔ LooksLast light (pre ++ [c]) := by
  rw [LooksLast, lastStates_snoc light.mLightStates, ← mLightStates_setLights h,
    ← showState_iff light'.files, ShowsLast, setLights_snoc, h, Option.bind_some]
  refine ⟨?_, ?_⟩
  · rintro ⟨light₂, hrun, hshows⟩
    obtain ⟨files, hfiles, heq⟩ := Option.bind_eq_some_iff.mp hrun
    obtain rfl := Option.some.inj heq
    exact ⟨files, hfiles, hshows⟩
  · rintro ⟨files, hfiles, hshows⟩
    refine ⟨⟨Function.update light'.mLightStates c.1 c.2, files⟩, ?_, hshows⟩
    rw [Light.handleWhiteLed, hfiles]
    rfl

/-- Calls that lead to states that look right go through. -/
theorem exists_setLights (h : ∀ pre, pre ≠ [] → pre <+: calls → LooksLast light pre)
    (hpre : pre <+: calls) : ∃ light', light.setLights pre = some light' := by
  induction pre using List.reverseRecOn with
  | nil => exact ⟨light, rfl⟩
  | append_singleton pre c ih =>
    obtain ⟨light', hrun⟩ := ih ((List.prefix_append pre [c]).trans hpre)
    obtain ⟨light₂, hlast, -⟩ := (showsLast_snoc_iff hrun c).mpr
      (h _ (List.append_ne_nil_of_right_ne_nil _ (List.cons_ne_nil c [])) hpre)
    exact ⟨light₂, hlast⟩

/-- **The light shows what was asked for** after every call, just if the state that it takes always
looks like that, and fits if it blinks. -/
theorem led_iff (light : Light) (calls : List Call) :
    (∀ pre, pre ≠ [] → pre <+: calls → ShowsLast light pre) ↔
      ∀ pre, pre ≠ [] → pre <+: calls → LooksLast light pre := by
  refine ⟨?_, ?_⟩
  · intro h pre hne hpre
    obtain ⟨pre, c, rfl⟩ := (List.eq_nil_or_concat' pre).resolve_left hne
    have hrun : ∃ light', light.setLights pre = some light' := by
      rcases eq_or_ne pre [] with rfl | hpre'
      · exact ⟨light, rfl⟩
      · obtain ⟨light', hrun, -⟩ := h pre hpre' ((List.prefix_append pre [c]).trans hpre)
        exact ⟨light', hrun⟩
    obtain ⟨light', hrun⟩ := hrun
    exact (showsLast_snoc_iff hrun c).mp (h _ hne hpre)
  · intro h pre hne hpre
    obtain ⟨pre, c, rfl⟩ := (List.eq_nil_or_concat' pre).resolve_left hne
    obtain ⟨light', hrun⟩ := exists_setLights h ((List.prefix_append pre [c]).trans hpre)
    exact (showsLast_snoc_iff hrun c).mpr (h _ hne hpre)

/-- Once both have asked, and one of them for a colour, it is enough that the times fit. -/
theorem looksLast_iff_of_lit {states : Fin 2 → LightState}
    (hold : lastStates light.mLightStates calls = states)
    (hnew : lastStates (fun _ => dark) calls = states)
    (hlit : (states 0).isLit = true ∨ (states 1).isLit = true) :
    LooksLast light calls ↔ ((toShow states).blinks = true → (toShow states).Fits) := by
  have hsame : stateToUse states = toShow states := by
    rw [stateToUse, toShow, List.ofFn_succ, List.ofFn_succ, List.ofFn_zero]
    rcases hfirst : (states 0).isLit with _ | _
    · have hsecond := hlit.resolve_left (by simp [hfirst])
      simp [hfirst, hsecond]
    · simp [hfirst]
  rw [LooksLast, hold, hnew, hsame]
  exact ⟨fun h => h.fits, fun h => ⟨rfl, rfl, fun _ => rfl, h⟩⟩

/-- A light that nobody has asked for. -/
def darkLight : Light := ⟨fun _ => dark, ⟨0, 0, 0, 0, 0, 0, 0, 0⟩⟩

/-- White, and on for one millisecond in a second or so. -/
def faint : LightState where
  color := 0xffffffff
  flashMode := .TIMED
  flashOnMs := 1
  flashOffMs := 1000
  isInt_on := by decide
  isInt_off := by decide

/-- It gets no part of the time at all, and not 16. -/
theorem faint_blink : ¬ ∀ pre, pre ≠ [] → pre <+: [((1 : Fin 2), faint)] →
    ShowsLast darkLight pre := by
  intro h
  obtain ⟨light', hrun, hshows⟩ := h _ (List.cons_ne_nil _ []) (List.prefix_refl _)
  have hpwm : (darkLight.setLights [(1, faint)]).map (·.files.grppwm) = some 0 := by decide
  rw [hrun] at hpwm
  have hzero : light'.files.grppwm = 0 := Option.some.inj hpwm
  have hone := (hshows.pwm (by decide)).2.1
  omega

end OppoA37.Lights
