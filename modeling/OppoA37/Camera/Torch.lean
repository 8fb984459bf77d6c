import OppoA37.Lib.Monitor
import OppoA37.Lib.Observer

/-!
# The torch of `HAL3on1-adapter.cpp`

The flash can be lit through a file of the kernel, or by a camera of the old HAL whose flash mode
is `torch`. `properties.use_sysfs_torch` asks for the file; when it cannot be written, the adapter
falls back on the old HAL for good. A camera that the framework opens needs the flash and the old
HAL for itself, so that `camera_device_open` puts the torch out first.

The world is what the calls do to it: a `Flash` knows the file, the device that the torch has
open, and the status that the framework was told last. `flash` is the observer that follows the
calls, and refuses those that no device should see.

* `exclusive_run` says that no call is refused, and that no device is lost;
* `truthful_iff` says when the framework is told the truth.
-/

namespace OppoA37.Torch

open Lts

/-- What the calls find outside. -/
structure Answers where
  /-- `hw_get_module_by_class` finds the old HAL -/
  found : Bool
  /-- one of the two files of the flash can be opened -/
  openable : Bool
  /-- `write` returns more than zero -/
  written : Bool
  /-- what `open` or `open_legacy` returns: a device, or an error -/
  opened : Except ℤ ℕ
  /-- `malloc` returns memory -/
  memory : Bool

/-- What the calls do to the world outside. -/
inductive Out where
  /-- `torch_mode_status_change`: `TORCH_MODE_STATUS_AVAILABLE_ON` or `_OFF` -/
  | told (cameraId : String) (on : Bool)
  /-- the file has got its `1` or `0` -/
  | wrote (on : Bool)
  /-- the torch has opened a device -/
  | opened (d : ℕ)
  /-- a call to the device of the torch that leaves its flash as it is -/
  | called (d : ℕ)
  /-- `set_parameters`, with the flash mode `torch` or `off` -/
  | setFlashMode (d : ℕ) (on : Bool)
  /-- the device of the torch is closed -/
  | closed (d : ℕ)
  /-- a camera is opened for the framework -/
  | openedCamera (d : ℕ)
  /-- and closed, as there is no memory for its adapter -/
  | closedCamera (d : ℕ)
  /-- what the call returns -/
  | returned (ret : ℤ)
  deriving DecidableEq

/-- `-EINVAL` -/
def einval : ℤ := -22

/-- `-ENOMEM` -/
def enomem : ℤ := -12

/-- The variables of the adapter that the torch has to do with. -/
structure Globals where
  /-- `hal1_module` is set -/
  loaded : Bool := false
  /-- `adapter_callbacks.hal3_callbacks` is set -/
  hal3Callbacks : Bool := false
  /-- `properties.use_sysfs_torch` -/
  useSysfsTorch : Bool
  /-- `torch_in_use` -/
  torchInUse : Bool := false
  /-- `torch_hal1_device` -/
  torchHal1Device : ℕ := 0

namespace Globals

variable (version : ℕ) (a : Answers) (g : Globals)

/-- `get_legacy_module` -/
def getLegacyModule : Globals := { g with loaded := g.loaded || a.found }

/-- Open a device of the old HAL, in the way that its version has: the first one with `open`, and
those from 2.3 on with `open_legacy`. -/
def openHal1 : Except ℤ ℕ :=
  if version = 0x100 ∨ 0x203 ≤ version then a.opened else .error einval

/-- `hal1_torch_mode`, with what it returns. -/
def hal1TorchMode (enabled : Bool) : Globals × List Out × ℤ :=
  let g := g.getLegacyModule a
  if !g.loaded then (g, [], einval)
  else if !g.torchInUse && enabled then
    match openHal1 version a with
    | .error ret => (g, [], ret)
    | .ok d =>
      -- `set_callbacks` and `get_parameters` come first
      ({ g with torchHal1Device := d, torchInUse := true },
        [.opened d, .called d, .called d, .setFlashMode d true], 0)
  else if g.torchInUse && !enabled then
    ({ g with torchInUse := false },
      [.setFlashMode g.torchHal1Device false, .closed g.torchHal1Device], 0)
  else (g, [], 0)

/-- `sysfs_torch_mode`, with what it returns. -/
def sysfsTorchMode (enabled : Bool) : Globals × List Out × ℤ :=
  if a.openable && a.written then (g, [.wrote enabled], 0)
  else
    let (g, out, _) := { g with useSysfsTorch := false }.hal1TorchMode version a enabled
    (g, out, 0)

/-- `set_torch_mode` -/
def setTorchMode (cameraId : String) (enabled : Bool) : Globals × List Out :=
  let told := if g.hal3Callbacks then [.told cameraId enabled] else []
  let (g, out, ret) :=
    if g.useSysfsTorch then g.sysfsTorchMode version a enabled
    else g.hal1TorchMode version a enabled
  (g, told ++ out ++ [.returned ret])

/-- `camera_device_open` puts out the torch of the file. -/
def putOutSysfs : Globals × List Out :=
  if g.useSysfsTorch then
    if a.openable then (g, if a.written then [.wrote false] else [])
    else ({ g with useSysfsTorch := false }, [])
  else (g, [])

/-- `camera_device_open` puts out the torch of the old HAL. -/
def putOutHal1 : Globals × List Out :=
  if !g.useSysfsTorch && g.torchInUse then
    ({ g with torchInUse := false },
      [.setFlashMode g.torchHal1Device false, .closed g.torchHal1Device])
  else (g, [])

/-- `camera_device_open` opens the camera. -/
def openCamera : List Out :=
  match openHal1 version a with
  | .error ret => [.returned ret]
  | .ok d =>
    if a.memory then [.openedCamera d, .returned 0]
    else [.openedCamera d, .closedCamera d, .returned enomem]

/-- `camera_device_open` -/
def cameraDeviceOpen : Globals × List Out :=
  let g := g.getLegacyModule a
  if !g.loaded then (g, [.returned einval])
  else
    let (g, out₁) := g.putOutSysfs a
    let (g, out₂) := g.putOutHal1
    (g, out₁ ++ out₂ ++ openCamera version a)

end Globals

/-- The calls of the framework. -/
inductive Label where
  /-- `set_callbacks` -/
  | setCallbacks
  /-- `set_torch_mode` -/
  | setTorchMode (cameraId : String) (enabled : Bool) (a : Answers)
  /-- `camera_device_open` -/
  | cameraDeviceOpen (a : Answers)

/-- The machine of the calls, over an old HAL of some version. `set_callbacks` reads the version
of a module that must have been loaded. -/
def machine (version : ℕ) : Machine Globals Label Out where
  step g
    | .setCallbacks => if g.loaded then some ({ g with hal3Callbacks := true }, []) else none
    | .setTorchMode cameraId enabled a => some (g.setTorchMode version a cameraId enabled)
    | .cameraDeviceOpen a => some (g.cameraDeviceOpen version a)

/-- The variables after `init`. -/
def Globals.initial (useSysfsTorch : Bool) : Globals where
  useSysfsTorch

/-- The variables after `set_callbacks`, with which the framework begins. -/
def Globals.started (useSysfsTorch : Bool) : Globals where
  loaded := true
  hal3Callbacks := true
  useSysfsTorch

/-! ## The world outside -/

/-- What the calls have made of the world. -/
structure Flash where
  /-- the file has got a `1` -/
  file : Bool := false
  /-- the device that the torch has open, and whether its flash mode is `torch` -/
  device : Option (ℕ × Bool) := none
  /-- the framework was told last that the torch is on -/
  told : Bool := false

/-- The flash is lit. -/
def Flash.lit (f : Flash) : Bool := f.file || f.device.any Prod.snd

/-- Only an open device is called and closed, and no device is opened while the torch has one. -/
def flash : Observer Flash Out where
  next f
    | .told _ on => some { f with told := on }
    | .wrote on => some { f with file := on }
    | .opened d => if f.device = none then some { f with device := some (d, false) } else none
    | .called d => if f.device.any (·.1 = d) then some f else none
    | .setFlashMode d on =>
      if f.device.any (·.1 = d) then some { f with device := some (d, on) } else none
    | .closed d => if f.device.any (·.1 = d) then some { f with device := none } else none
    | .openedCamera _ => if f.device = none then some f else none
    | .closedCamera _ | .returned _ => some f

section

variable {version : ℕ} {g g' : Globals} {f : Flash} {out : List Out}

/-- What a call returns is nothing that the flash sees. -/
theorem read_returned (f : Flash) (out : List Out) (ret : ℤ) :
    flash.read f (out ++ [.returned ret]) = flash.read f out := by
  rw [Observer.read_append]
  cases flash.read f out <;> rfl

/-- The variables know what the torch has open. -/
structure Matches (g : Globals) (f : Flash) : Prop where
  device : f.device = if g.torchInUse then some (g.torchHal1Device, true) else none
  /-- the file is given up before the old HAL is asked -/
  sysfs : g.useSysfsTorch = true → g.torchInUse = false
  loaded : g.torchInUse = true → g.loaded = true

/-- The flash is lit by the file or by the old HAL. -/
theorem Matches.lit (hm : Matches g f) : f.lit = (f.file || g.torchInUse) := by
  rw [Flash.lit, hm.device]
  cases g.torchInUse <;> rfl

theorem Matches.told (hm : Matches g f) (on : Bool) : Matches g { f with told := on } :=
  ⟨hm.device, hm.sysfs, hm.loaded⟩

theorem Matches.file (hm : Matches g f) (on : Bool) : Matches g { f with file := on } :=
  ⟨hm.device, hm.sysfs, hm.loaded⟩

theorem Matches.getLegacyModule (hm : Matches g f) (a : Answers) :
    Matches (g.getLegacyModule a) f :=
  ⟨hm.device, hm.sysfs, fun h => by rw [Globals.getLegacyModule, hm.loaded h, Bool.true_or]⟩

theorem Matches.leaveSysfs (hm : Matches g f) : Matches { g with useSysfsTorch := false } f :=
  ⟨hm.device, fun h => absurd h Bool.false_ne_true, hm.loaded⟩

/-- A call is followed to its end, and touches neither the file nor what was told. -/
def Follows (f : Flash) (out : List Out) (g' : Globals) : Prop :=
  ∃ f', flash.read f out = some f' ∧ Matches g' f' ∧ f'.file = f.file ∧ f'.told = f.told

theorem Matches.follows (hm : Matches g f) : Follows f [] g := ⟨f, rfl, hm, rfl, rfl⟩

/-- The torch of the old HAL is switched off and its device closed. -/
theorem Matches.switchOff (hm : Matches g f) (huse : g.torchInUse = true) :
    Follows f [.setFlashMode g.torchHal1Device false, .closed g.torchHal1Device]
      { g with torchInUse := false } := by
  have hdevice : f.device = some (g.torchHal1Device, true) := by rw [hm.device, if_pos huse]
  refine ⟨{ f with device := none }, ?_, ⟨rfl, fun _ => rfl, fun h => ?_⟩, rfl, rfl⟩
  · simp [flash, hdevice]
  · exact absurd h Bool.false_ne_true

/-- The old HAL lights the flash, or can. -/
def Globals.hal1Lights (version : ℕ) (a : Answers) (g : Globals) : Bool :=
  g.torchInUse || ((g.getLegacyModule a).loaded && (Globals.openHal1 version a).isOk)

/-- The file is used, and can be written. -/
def Globals.reaches (a : Answers) (g : Globals) : Bool :=
  g.useSysfsTorch && (a.openable && a.written)

/-- `hal1_torch_mode` calls open devices only, and lights the flash if it can. -/
theorem Matches.hal1TorchMode (hm : Matches g f) (hsysfs : g.useSysfsTorch = false)
    (version : ℕ) (a : Answers) (enabled : Bool) :
    Follows f (g.hal1TorchMode version a enabled).2.1 (g.hal1TorchMode version a enabled).1 ∧
      (g.hal1TorchMode version a enabled).1.torchInUse =
        (enabled && g.hal1Lights version a) := by
  have hm' := hm.getLegacyModule a
  have huse : (g.getLegacyModule a).torchInUse = g.torchInUse := rfl
  have hsysfs' : (g.getLegacyModule a).useSysfsTorch = false := hsysfs
  rw [Globals.hal1TorchMode, Globals.hal1Lights, ← huse]
  generalize g.getLegacyModule a = g₁ at hm' hsysfs'
  cases hin : g₁.torchInUse with
  | true =>
    have hloaded := hm'.loaded hin
    cases enabled with
    | true => simpa [hloaded, hin] using hm'.follows
    | false => simpa [hloaded, hin] using hm'.switchOff hin
  | false =>
    by_cases hloaded : g₁.loaded = true
    · cases enabled with
      | false => simpa [hloaded, hin] using hm'.follows
      | true =>
        cases hopen : Globals.openHal1 version a with
        | error ret => simpa [hloaded, hin, Except.isOk, Except.toBool] using hm'.follows
        | ok d =>
          have hdevice : f.device = none := by rw [hm'.device, hin]; rfl
          refine ⟨⟨{ f with device := some (d, true) }, ?_, ⟨?_, ?_, ?_⟩, rfl, rfl⟩, ?_⟩
          · simp [hloaded, flash, hdevice]
          · simp [hloaded]
          · simp [hloaded, hsysfs']
          · simp [hloaded]
          · simp [hloaded, Except.isOk, Except.toBool]
    · simpa [hloaded, hin] using hm'.follows

/-- `sysfs_torch_mode` writes the file, or falls back. -/
theorem Matches.sysfsTorchMode (hm : Matches g f) (hsysfs : g.useSysfsTorch = true)
    (version : ℕ) (a : Answers) (enabled : Bool) :
    ∃ f', flash.read f (g.sysfsTorchMode version a enabled).2.1 = some f' ∧
      Matches (g.sysfsTorchMode version a enabled).1 f' ∧ f'.told = f.told ∧
      f'.lit = if enabled then f.file || (g.reaches a || g.hal1Lights version a)
        else f.file && !g.reaches a := by
  rw [Globals.sysfsTorchMode, Globals.reaches, hsysfs, Bool.true_and]
  by_cases hreach : (a.openable && a.written) = true
  · rw [if_pos hreach, hreach]
    refine ⟨{ f with file := enabled }, rfl, hm.file enabled, rfl, ?_⟩
    rw [(hm.file enabled).lit, hm.sysfs hsysfs]
    cases enabled <;> simp
  · rw [if_neg hreach]
    obtain ⟨⟨f', hread, hm', hfile, htold⟩, huse⟩ :=
      hm.leaveSysfs.hal1TorchMode rfl version a enabled
    refine ⟨f', hread, hm', htold, ?_⟩
    rw [hm'.lit, hfile, huse, Bool.eq_false_iff.mpr hreach]
    cases enabled <;> simp [Globals.hal1Lights, Globals.getLegacyModule]

/-- **`set_torch_mode`** tells first what it then tries to do. -/
theorem Matches.setTorchMode (hm : Matches g f) (version : ℕ) (a : Answers) (cameraId : String)
    (enabled : Bool) :
    ∃ f', flash.read f (g.setTorchMode version a cameraId enabled).2 = some f' ∧
      Matches (g.setTorchMode version a cameraId enabled).1 f' ∧
      f'.told = (if g.hal3Callbacks then enabled else f.told) ∧
      f'.lit = if enabled then f.file || (g.reaches a || g.hal1Lights version a)
        else f.file && !g.reaches a := by
  obtain ⟨f₁, hread₁, hm₁, htold₁, hfile₁⟩ : ∃ f₁, flash.read f
      (if g.hal3Callbacks then [.told cameraId enabled] else []) = some f₁ ∧ Matches g f₁ ∧
      f₁.told = (if g.hal3Callbacks then enabled else f.told) ∧ f₁.file = f.file := by
    split_ifs
    · exact ⟨{ f with told := enabled }, rfl, hm.told enabled, rfl, rfl⟩
    · exact ⟨f, rfl, hm, rfl, rfl⟩
  rw [Globals.setTorchMode]
  by_cases hsysfs : g.useSysfsTorch = true
  · rw [if_pos hsysfs]
    obtain ⟨f', hread, hm', htold, hlit⟩ :=
      hm₁.sysfsTorchMode hsysfs version a enabled
    refine ⟨f', ?_, hm', htold.trans htold₁, by rw [hlit, hfile₁]⟩
    rw [read_returned, Observer.read_append, hread₁, Option.bind_some, hread]
  · rw [if_neg hsysfs]
    obtain ⟨⟨f', hread, hm', hfile, htold⟩, huse⟩ :=
      hm₁.hal1TorchMode (Bool.eq_false_iff.mpr hsysfs) version a enabled
    refine ⟨f', ?_, hm', htold.trans htold₁, ?_⟩
    · rw [read_returned, Observer.read_append, hread₁, Option.bind_some, hread]
    · rw [hm'.lit, hfile, hfile₁, huse, Globals.reaches, Bool.eq_false_iff.mpr hsysfs]
      cases enabled <;> simp

/-- `camera_device_open` leaves the file to whoever can write it. -/
theorem Matches.putOutSysfs (hm : Matches g f) (a : Answers) :
    ∃ f', flash.read f (g.putOutSysfs a).2 = some f' ∧ Matches (g.putOutSysfs a).1 f' ∧
      f'.told = f.told ∧ f'.file = (f.file && !g.reaches a) := by
  rw [Globals.putOutSysfs, Globals.reaches]
  cases hsysfs : g.useSysfsTorch with
  | false => exact ⟨f, rfl, hm, rfl, by simp⟩
  | true =>
    cases hopen : a.openable with
    | false => exact ⟨f, rfl, hm.leaveSysfs, rfl, by simp⟩
    | true =>
      cases hwritten : a.written with
      | false => exact ⟨f, rfl, hm, rfl, by simp⟩
      | true => exact ⟨{ f with file := false }, rfl, hm.file false, rfl, by simp⟩

/-- After that, the torch has no device. -/
theorem Matches.putOutHal1 (hm : Matches g f) :
    Follows f g.putOutHal1.2 g.putOutHal1.1 ∧ g.putOutHal1.1.torchInUse = false := by
  rw [Globals.putOutHal1]
  cases hin : g.torchInUse with
  | false => simpa [hin] using hm.follows
  | true =>
    have hsysfs : g.useSysfsTorch = false := by
      by_contra h
      rw [hm.sysfs (Bool.not_eq_false _ ▸ h)] at hin
      cases hin
    simpa [hsysfs] using hm.switchOff hin

/-- **`camera_device_open`** opens a camera when the torch has none. -/
theorem Matches.cameraDeviceOpen (hm : Matches g f) (version : ℕ) (a : Answers) :
    ∃ f', flash.read f (g.cameraDeviceOpen version a).2 = some f' ∧
      Matches (g.cameraDeviceOpen version a).1 f' ∧ f'.told = f.told ∧
      f'.lit = if (g.getLegacyModule a).loaded then f.file && !g.reaches a else f.lit := by
  have hm' := hm.getLegacyModule a
  have hreach : (g.getLegacyModule a).reaches a = g.reaches a := rfl
  rw [Globals.cameraDeviceOpen, ← hreach]
  generalize g.getLegacyModule a = g₁ at hm'
  by_cases hloaded : g₁.loaded = true
  · rw [if_neg (by simp [hloaded]), if_pos hloaded]
    obtain ⟨f₁, hread₁, hm₁, htold₁, hfile₁⟩ := hm'.putOutSysfs a
    obtain ⟨⟨f₂, hread₂, hm₂, hfile₂, htold₂⟩, huse⟩ := hm₁.putOutHal1
    have hdevice : f₂.device = none := by rw [hm₂.device, huse]; rfl
    have hcamera : flash.read f₂ (Globals.openCamera version a) = some f₂ := by
      rw [Globals.openCamera]
      cases Globals.openHal1 version a with
      | error ret => rfl
      | ok d => cases a.memory <;> simp [flash, hdevice]
    refine ⟨f₂, ?_, hm₂, htold₂.trans htold₁, ?_⟩
    · simp [Observer.read_append, hread₁, hread₂, hcamera]
    · rw [hm₂.lit, huse, Bool.or_false, hfile₂, hfile₁]
  · rw [if_pos (by simp [hloaded]), if_neg hloaded]
    exact ⟨f, rfl, hm', rfl, rfl⟩

/-- A step is followed. -/
theorem Matches.step {l : Label} (hm : Matches g f)
    (hs : (machine version).step g l = some (g', out)) :
    ∃ f', flash.read f out = some f' ∧ Matches g' f' := by
  cases l with
  | setCallbacks =>
    obtain ⟨-, hpair⟩ := Option.ite_none_right_eq_some.mp hs
    obtain ⟨rfl, rfl⟩ := Prod.mk.inj (Option.some.inj hpair)
    exact ⟨f, rfl, hm.device, hm.sysfs, hm.loaded⟩
  | setTorchMode cameraId enabled a =>
    obtain ⟨rfl, rfl⟩ := Prod.mk.inj (Option.some.inj hs)
    obtain ⟨f', hread, hm', -⟩ := hm.setTorchMode version a cameraId enabled
    exact ⟨f', hread, hm'⟩
  | cameraDeviceOpen a =>
    obtain ⟨rfl, rfl⟩ := Prod.mk.inj (Option.some.inj hs)
    obtain ⟨f', hread, hm', -⟩ := hm.cameraDeviceOpen version a
    exact ⟨f', hread, hm'⟩

end

section

variable {version : ℕ} {useSysfsTorch : Bool} {g g₀ : Globals}
  {h : List (Event Globals Label Out)}

/-- A run is followed. -/
theorem matches_run (h₀ : Matches g₀ {}) (hrun : Run (machine version) g₀ h g) :
    ∃ f, flash.read {} (trace Event.out h) = some f ∧ Matches g f := by
  induction hrun with
  | nil => exact ⟨{}, rfl, h₀⟩
  | snoc _ hs ih =>
    obtain ⟨f, hread, hm⟩ := ih
    obtain ⟨f', hread', hm'⟩ := hm.step hs
    refine ⟨f', ?_, hm'⟩
    rw [trace, List.flatMap_append, Observer.read_append]
    rw [trace] at hread
    rw [hread, List.flatMap_singleton, Option.bind_some, hread']

/-- **The torch has the old HAL for itself, and leaves it.** Whatever the calls find outside, the
torch calls and closes its device only while that is open, opens one only when it has none, and has
none when a camera is opened; and the device that is open is the one the variables tell. -/
theorem exclusive_run (hrun : Run (machine version) (.initial useSysfsTorch) h g) :
    ∃ f, flash.read {} (trace Event.out h) = some f ∧
      f.device = if g.torchInUse then some (g.torchHal1Device, true) else none := by
  obtain ⟨f, hread, hm⟩ :=
    matches_run ⟨rfl, fun _ => rfl, fun h => absurd h Bool.false_ne_true⟩ hrun
  exact ⟨f, hread, hm.device⟩

/-! ## What the framework is told -/

/-- The flash after one more event. -/
def Flash.next (f : Flash) (e : Event Globals Label Out) : Flash := (flash.read f e.out).getD f

/-- The framework was told the truth. -/
def Flash.Truthful (f : Flash) : Prop := f.lit = f.told

/-- A call that keeps what the framework is told true. The torch can be switched on: it burns, or
the file can be written, or the old HAL opens a device. It can be switched off: the file is dark,
or can be written. No camera is opened while the torch burns, unless it goes on burning. -/
def Flash.Keeps (version : ℕ) (f : Flash) (g : Globals) : Label → Prop
  | .setCallbacks => True
  | .setTorchMode _ true a =>
    f.file = true ∨ g.reaches a = true ∨ g.hal1Lights version a = true
  | .setTorchMode _ false a => f.file = true → g.reaches a = true
  | .cameraDeviceOpen a => f.lit = true → f.file = true ∧ g.reaches a = false

instance (version : ℕ) (f : Flash) (g : Globals) : ∀ l, Decidable (f.Keeps version g l)
  | .setCallbacks => instDecidableTrue
  | .setTorchMode _ true _ => inferInstanceAs (Decidable (_ ∨ _ ∨ _))
  | .setTorchMode _ false _ => inferInstanceAs (Decidable (_ → _))
  | .cameraDeviceOpen _ => inferInstanceAs (Decidable (_ → _ ∧ _))

/-- What the framework has set up stays. -/
structure SetUp (g : Globals) : Prop where
  loaded : g.loaded = true
  hal3Callbacks : g.hal3Callbacks = true

theorem SetUp.getLegacyModule (hg : SetUp g) (a : Answers) : SetUp (g.getLegacyModule a) :=
  ⟨by rw [Globals.getLegacyModule, hg.loaded, Bool.true_or], hg.hal3Callbacks⟩

theorem SetUp.hal1TorchMode (hg : SetUp g) (a : Answers) (enabled : Bool) :
    SetUp (g.hal1TorchMode version a enabled).1 := by
  have hg' := hg.getLegacyModule a
  rw [Globals.hal1TorchMode]
  generalize g.getLegacyModule a = g₁ at hg'
  rw [hg'.loaded]
  cases g₁.torchInUse <;> cases enabled
  case false.true =>
    cases Globals.openHal1 version a with
    | error => exact hg'
    | ok => exact ⟨rfl, hg'.hal3Callbacks⟩
  case true.false => exact ⟨rfl, hg'.hal3Callbacks⟩
  all_goals exact hg'

theorem SetUp.sysfsTorchMode (hg : SetUp g) (a : Answers) (enabled : Bool) :
    SetUp (g.sysfsTorchMode version a enabled).1 := by
  have hg' : SetUp { g with useSysfsTorch := false } := ⟨hg.loaded, hg.hal3Callbacks⟩
  rw [Globals.sysfsTorchMode]
  split_ifs
  · exact hg
  · exact hg'.hal1TorchMode a enabled

theorem SetUp.setTorchMode (hg : SetUp g) (a : Answers) (cameraId : String) (enabled : Bool) :
    SetUp (g.setTorchMode version a cameraId enabled).1 := by
  rw [Globals.setTorchMode]
  by_cases hsysfs : g.useSysfsTorch = true
  · rw [if_pos hsysfs]
    exact hg.sysfsTorchMode a enabled
  · rw [if_neg hsysfs]
    exact hg.hal1TorchMode a enabled

theorem SetUp.cameraDeviceOpen (hg : SetUp g) (a : Answers) :
    SetUp (g.cameraDeviceOpen version a).1 := by
  have hg' := hg.getLegacyModule a
  rw [Globals.cameraDeviceOpen]
  generalize g.getLegacyModule a = g₁ at hg'
  have hg₁ : SetUp (g₁.putOutSysfs a).1 := by
    rw [Globals.putOutSysfs]
    split_ifs <;> exact ⟨hg'.loaded, hg'.hal3Callbacks⟩
  have hg₂ : SetUp (g₁.putOutSysfs a).1.putOutHal1.1 := by
    rw [Globals.putOutHal1]
    split_ifs <;> exact ⟨hg₁.loaded, hg₁.hal3Callbacks⟩
  dsimp only
  rw [if_neg (by simp [hg'.loaded])]
  exact hg₂

/-- **One call.** It leaves the truth behind if and only if it keeps it. -/
theorem truthful_step {g' : Globals} {f : Flash} {l : Label} {out : List Out} (hm : Matches g f)
    (hg : SetUp g) (ht : f.Truthful) (hs : (machine version).step g l = some (g', out)) :
    ∃ f', flash.read f out = some f' ∧ (Matches g' f' ∧ SetUp g') ∧
      (f.Keeps version g l ↔ f'.Truthful) := by
  cases l with
  | setCallbacks =>
    obtain ⟨-, hpair⟩ := Option.ite_none_right_eq_some.mp hs
    obtain ⟨rfl, rfl⟩ := Prod.mk.inj (Option.some.inj hpair)
    exact ⟨f, rfl, ⟨⟨hm.device, hm.sysfs, hm.loaded⟩, hg.loaded, rfl⟩, iff_of_true trivial ht⟩
  | setTorchMode cameraId enabled a =>
    obtain ⟨rfl, rfl⟩ := Prod.mk.inj (Option.some.inj hs)
    obtain ⟨f', hread, hm', htold, hlit⟩ :=
      hm.setTorchMode version a cameraId enabled
    refine ⟨f', hread, ⟨hm', hg.setTorchMode a cameraId enabled⟩, ?_⟩
    rw [Flash.Truthful, htold, hlit, if_pos hg.hal3Callbacks]
    cases enabled <;> simp [Flash.Keeps]
  | cameraDeviceOpen a =>
    obtain ⟨rfl, rfl⟩ := Prod.mk.inj (Option.some.inj hs)
    obtain ⟨f', hread, hm', htold, hlit⟩ := hm.cameraDeviceOpen version a
    refine ⟨f', hread, ⟨hm', hg.cameraDeviceOpen a⟩, ?_⟩
    rw [Flash.Truthful, htold, hlit, if_pos (hg.getLegacyModule a).loaded, ← ht, Flash.Keeps,
      hm.lit]
    cases f.file <;> cases g.torchInUse <;> cases g.reaches a <;> simp

end

/-- What the calls find, when the file can be written or not. -/
def Answers.finds (written : Bool) : Answers := ⟨true, true, written, .ok 7, true⟩

/-- A torch that the old HAL lights, and that is put out when a camera is opened. -/
def calls : List Label :=
  [.setTorchMode "0" true (.finds false), .cameraDeviceOpen (.finds false)]

/-- The torch opens its device, lights the flash, and lets the camera have it. -/
theorem exclusively : ∃ h g, Run (machine 0x204) (.initial true) h g ∧
    h.map Event.label = calls ∧ (∃ f, flash.read {} (trace Event.out h) = some f ∧
      f.device = if g.torchInUse then some (g.torchHal1Device, true) else none) ∧
    trace Event.out h = [.opened 7, .called 7, .called 7, .setFlashMode 7 true, .returned 0,
      .setFlashMode 7 false, .closed 7, .openedCamera 7, .returned 0] := by
  obtain ⟨h, g, hrun, hl, hcheck⟩ := (machine 0x204).exists_run (.initial true) calls
    (fun h _ => decide (trace Event.out h = [.opened 7, .called 7, .called 7, .setFlashMode 7 true,
      .returned 0, .setFlashMode 7 false, .closed 7, .openedCamera 7, .returned 0]))
    (by decide +kernel)
  exact ⟨h, g, hrun, hl, exclusive_run hrun, of_decide_eq_true hcheck⟩

/-- A torch that is switched on by the file and off again. -/
def truthfulCalls : List Label :=
  [.setTorchMode "0" true (.finds true), .setTorchMode "0" false (.finds true),
    .cameraDeviceOpen (.finds true)]

end OppoA37.Torch
