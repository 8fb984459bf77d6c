import OppoA37.Lib.Monitor

/-!
# The frequency caps of `power.c`

The hints `LOW_POWER` and `SUSTAINED_PERFORMANCE` cap the frequency of the processor through one
file, `scaling_max_freq`. A hint takes the lock, sets its flag and calls `apply_freq_cap_locked`:

* with a mode on, the lower one of the caps of the active modes is written, and before the first
  cap the value in the file is saved;
* with both modes off, the saved value is written back, unless the file has another value than
  the cap that was written last.

The file is shared with other agents, and every read and write of it may fail. So each of them is
a step of its own here, between which the others may write; the lock makes hints wait. Values
are written in decimal, and two texts are the same just if the values are.
-/

namespace OppoA37.Power

open Lts

/-- `LOW_POWER_MAX_FREQ` -/
def LOW_POWER_MAX_FREQ : ℕ := 800000

/-- `SUSTAINED_MAX_FREQ` -/
def SUSTAINED_MAX_FREQ : ℕ := 1209600

/-- The hints that are about `scaling_max_freq`. -/
inductive Hint where
  /-- `POWER_HINT_LOW_POWER` -/
  | lowPower
  /-- `POWER_HINT_SUSTAINED_PERFORMANCE` -/
  | sustainedPerformance
  deriving DecidableEq, Repr

/-- Where the holder of the lock is. -/
inductive Pc where
  /-- nobody holds the lock -/
  | idle
  /-- before `sysfs_read` of `saved_max_freq` -/
  | saving (cap : ℕ)
  /-- before `sysfs_write` of `cap` -/
  | capping (cap : ℕ)
  /-- before `sysfs_read` of `now` -/
  | checking
  /-- before `sysfs_write` of `saved_max_freq` -/
  | restoring
  deriving DecidableEq, Repr

/-- The variables of `power.c`, and the file. -/
structure PowerHal where
  /-- the value in the file at `SCALING_MAX_FREQ_PATH` -/
  scalingMaxFreq : ℕ
  /-- `low_power_active` -/
  lowPowerActive : Bool := false
  /-- `sustained_active` -/
  sustainedActive : Bool := false
  /-- `saved_max_freq`; the empty text is `none` -/
  savedMaxFreq : Option ℕ := none
  /-- `applied_cap`; the empty text is `none` -/
  appliedCap : Option ℕ := none
  /-- where the holder of the lock is -/
  pc : Pc := .idle
  deriving DecidableEq

/-- A step of the HAL or of another agent. -/
inductive Step where
  /-- `power_hint`, up to the first access to the file -/
  | hint (hint : Hint) (on : Bool)
  /-- `sysfs_read`, and what follows up to the next access -/
  | read (ok : Bool)
  /-- `sysfs_write`, and what follows -/
  | write (ok : Bool)
  /-- another agent writes the file -/
  | agent (value : ℕ)
  deriving DecidableEq, Repr

/-- How `apply_freq_cap_locked` comes to its end. -/
inductive Return where
  /-- the original value could not be read -/
  | ignored
  /-- there was nothing to restore -/
  | nothing
  /-- the value was left to whoever wrote it -/
  | left
  /-- the cap was written, if `ok` -/
  | capped (ok : Bool)
  /-- the original value was written, if `ok` -/
  | restored (ok : Bool)
  deriving DecidableEq, Repr

/-- What a step shows. -/
inductive Out where
  /-- the HAL has written the file -/
  | wrote (value : ℕ)
  /-- the hint returns -/
  | returns (how : Return)
  deriving DecidableEq, Repr

namespace PowerHal

/-- The flag of a hint is set. -/
def set (s : PowerHal) : Hint → Bool → PowerHal
  | .lowPower, on => { s with lowPowerActive := on }
  | .sustainedPerformance, on => { s with sustainedActive := on }

/-- `cap` in `apply_freq_cap_locked` -/
def cap (s : PowerHal) : Option ℕ :=
  if s.lowPowerActive && s.sustainedActive then
    some (if LOW_POWER_MAX_FREQ < SUSTAINED_MAX_FREQ then LOW_POWER_MAX_FREQ
      else SUSTAINED_MAX_FREQ)
  else if s.lowPowerActive then some LOW_POWER_MAX_FREQ
  else if s.sustainedActive then some SUSTAINED_MAX_FREQ
  else none

/-- `apply_freq_cap_locked` up to the first access to the file. -/
def applyFreqCap (s : PowerHal) : PowerHal × List Out :=
  match s.cap, s.appliedCap with
  | some cap, none => ({ s with pc := .saving cap }, [])
  | some cap, some _ => ({ s with pc := .capping cap }, [])
  | none, none => (s, [.returns .nothing])
  | none, some _ => ({ s with pc := .checking }, [])

/-- What a successful `sysfs_write` of `value` leaves behind. -/
def wrote (ok : Bool) (value : ℕ) : List Out := if ok then [.wrote value] else []

/-- One step; `none` if the holder of the lock is elsewhere. -/
def step (s : PowerHal) : Step → Option (PowerHal × List Out)
  | .hint hint on => if s.pc = .idle then some (s.set hint on).applyFreqCap else none
  | .read ok =>
    match s.pc with
    | .saving cap =>
      if ok then some ({ s with savedMaxFreq := s.scalingMaxFreq, pc := .capping cap }, [])
      else some ({ s with pc := .idle }, [.returns .ignored])
    | .checking =>
      if ok ∧ s.appliedCap ≠ s.scalingMaxFreq then
        some ({ s with appliedCap := none, pc := .idle }, [.returns .left])
      else some ({ s with pc := .restoring }, [])
    | _ => none
  | .write ok =>
    match s.pc with
    | .capping cap =>
      some ({ s with
        scalingMaxFreq := if ok then cap else s.scalingMaxFreq
        appliedCap := cap
        pc := .idle }, wrote ok cap ++ [.returns (.capped ok)])
    | .restoring =>
      -- writing an empty text changes nothing
      let saved := s.savedMaxFreq.getD s.scalingMaxFreq
      some ({ s with
        scalingMaxFreq := if ok then saved else s.scalingMaxFreq
        appliedCap := none
        pc := .idle }, wrote ok saved ++ [.returns (.restored ok)])
    | _ => none
  | .agent value => some ({ s with scalingMaxFreq := value }, [])

/-- The machine of the hints and the other agents. -/
def machine : Machine PowerHal Step Out where
  step := step

/-- The value that `sysfs_write` is about to write. -/
def toWrite (s : PowerHal) : Option ℕ :=
  match s.pc with
  | .capping cap => some cap
  | .restoring => some (s.savedMaxFreq.getD s.scalingMaxFreq)
  | _ => none

/-! ## The caps -/

/-- The caps of the active modes. -/
def activeCaps (s : PowerHal) : List ℕ :=
  (if s.lowPowerActive then [LOW_POWER_MAX_FREQ] else []) ++
    if s.sustainedActive then [SUSTAINED_MAX_FREQ] else []

/-- The lowest of the caps is taken. -/
theorem cap_eq_min? (s : PowerHal) : s.cap = s.activeCaps.min? := by
  obtain ⟨_, low, sustained, _, _, _⟩ := s
  cases low <;> cases sustained <;> rfl

/-- The limit that the active modes ask for, below `limit`. -/
def lowest (s : PowerHal) (limit : ℕ) : ℕ := s.activeCaps.foldl min limit

theorem lowest_of_cap {s : PowerHal} {c : ℕ} (h : s.cap = some c) (limit : ℕ) :
    s.lowest limit = min limit c := by
  rw [cap_eq_min?] at h
  rw [lowest]
  cases hcaps : s.activeCaps with
  | nil =>
    rw [hcaps] at h
    cases h
  | cons c' caps =>
    rw [hcaps, List.min?_cons'] at h
    obtain rfl := Option.some.inj h
    rw [List.foldl_cons, List.foldl_assoc]

theorem cap_eq_none {s : PowerHal} : s.cap = none ↔ s.activeCaps = [] := by
  rw [cap_eq_min?, List.min?_eq_none_iff]

end PowerHal

/-! ## The steps -/

/-- What a step does, by where the holder of the lock is. -/
inductive Moves (s : PowerHal) : Step → PowerHal → List Out → Prop where
  /-- a first cap is to be written -/
  | save {hint : Hint} {on : Bool} {c : ℕ} : s.pc = .idle → (s.set hint on).cap = some c →
      s.appliedCap = none → Moves s (.hint hint on) { s.set hint on with pc := .saving c } []
  /-- another cap is to be written -/
  | cap {hint : Hint} {on : Bool} {c : ℕ} : s.pc = .idle → (s.set hint on).cap = some c →
      s.appliedCap ≠ none → Moves s (.hint hint on) { s.set hint on with pc := .capping c } []
  /-- nothing was capped -/
  | nothing {hint : Hint} {on : Bool} : s.pc = .idle → (s.set hint on).cap = none →
      s.appliedCap = none → Moves s (.hint hint on) (s.set hint on) [.returns .nothing]
  /-- the cap is to be undone -/
  | check {hint : Hint} {on : Bool} : s.pc = .idle → (s.set hint on).cap = none →
      s.appliedCap ≠ none → Moves s (.hint hint on) { s.set hint on with pc := .checking } []
  /-- the original value is saved -/
  | saved {c : ℕ} : s.pc = .saving c →
      Moves s (.read true) { s with savedMaxFreq := s.scalingMaxFreq, pc := .capping c } []
  /-- the original value cannot be read -/
  | ignored {c : ℕ} : s.pc = .saving c →
      Moves s (.read false) { s with pc := .idle } [.returns .ignored]
  /-- another value is in the file -/
  | left : s.pc = .checking → s.appliedCap ≠ s.scalingMaxFreq →
      Moves s (.read true) { s with appliedCap := none, pc := .idle } [.returns .left]
  /-- the cap is in the file, or the file cannot be read -/
  | own {ok : Bool} : s.pc = .checking → (ok = true → s.appliedCap = s.scalingMaxFreq) →
      Moves s (.read ok) { s with pc := .restoring } []
  /-- the cap is written -/
  | capped {ok : Bool} {c : ℕ} : s.pc = .capping c →
      Moves s (.write ok)
        { s with
          scalingMaxFreq := if ok then c else s.scalingMaxFreq
          appliedCap := c
          pc := .idle } (PowerHal.wrote ok c ++ [.returns (.capped ok)])
  /-- the original value is written -/
  | restored {ok : Bool} {value : ℕ} : s.pc = .restoring →
      value = s.savedMaxFreq.getD s.scalingMaxFreq →
      Moves s (.write ok)
        { s with
          scalingMaxFreq := if ok then value else s.scalingMaxFreq
          appliedCap := none
          pc := .idle } (PowerHal.wrote ok value ++ [.returns (.restored ok)])
  /-- another agent writes -/
  | agent {value : ℕ} : Moves s (.agent value) { s with scalingMaxFreq := value } []

@[simp] theorem set_appliedCap (s : PowerHal) (hint : Hint) (on : Bool) :
    (s.set hint on).appliedCap = s.appliedCap := by
  cases hint <;> rfl

@[simp] theorem set_scalingMaxFreq (s : PowerHal) (hint : Hint) (on : Bool) :
    (s.set hint on).scalingMaxFreq = s.scalingMaxFreq := by
  cases hint <;> rfl

@[simp] theorem set_savedMaxFreq (s : PowerHal) (hint : Hint) (on : Bool) :
    (s.set hint on).savedMaxFreq = s.savedMaxFreq := by
  cases hint <;> rfl

@[simp] theorem set_pc (s : PowerHal) (hint : Hint) (on : Bool) :
    (s.set hint on).pc = s.pc := by
  cases hint <;> rfl

/-- Turning a mode off adds no cap. -/
theorem set_cap_of_none {s : PowerHal} {hint : Hint} (h : s.cap = none) :
    (s.set hint false).cap = none := by
  obtain ⟨_, low, sustained, _, _, _⟩ := s
  cases hint <;> cases low <;> cases sustained <;> simp [PowerHal.cap, PowerHal.set] at h ⊢

theorem moves_of_hint {s s' : PowerHal} {hint : Hint} {on : Bool} {out : List Out}
    (hpc : s.pc = .idle) (hs : (s.set hint on).applyFreqCap = (s', out)) :
    Moves s (.hint hint on) s' out := by
  have happlied := set_appliedCap s hint on
  rw [PowerHal.applyFreqCap] at hs
  split at hs
  all_goals
    rename_i hcap hold
    obtain ⟨rfl, rfl⟩ := Prod.mk.inj hs
    rw [happlied] at hold
  · exact Moves.save hpc hcap hold
  · exact Moves.cap hpc hcap (by simp [hold])
  · exact Moves.nothing hpc hcap hold
  · exact Moves.check hpc hcap (by simp [hold])

theorem moves_of_read {s s' : PowerHal} {ok : Bool} {out : List Out}
    (hs : s.step (.read ok) = some (s', out)) : Moves s (.read ok) s' out := by
  cases hpc : s.pc with
  | saving c =>
    simp only [PowerHal.step, hpc] at hs
    cases ok with
    | true =>
      obtain ⟨rfl, rfl⟩ := Prod.mk.inj (Option.some.inj hs)
      exact Moves.saved hpc
    | false =>
      obtain ⟨rfl, rfl⟩ := Prod.mk.inj (Option.some.inj hs)
      exact Moves.ignored hpc
  | checking =>
    simp only [PowerHal.step, hpc] at hs
    split_ifs at hs with hother
    · obtain ⟨rfl, rfl⟩ := Prod.mk.inj (Option.some.inj hs)
      obtain ⟨rfl, hne⟩ := hother
      exact Moves.left hpc hne
    · obtain ⟨rfl, rfl⟩ := Prod.mk.inj (Option.some.inj hs)
      exact Moves.own hpc fun hok => by_contra fun hne => hother ⟨hok, hne⟩
  | idle => simp [PowerHal.step, hpc] at hs
  | capping _ => simp [PowerHal.step, hpc] at hs
  | restoring => simp [PowerHal.step, hpc] at hs

theorem moves_of_write {s s' : PowerHal} {ok : Bool} {out : List Out}
    (hs : s.step (.write ok) = some (s', out)) : Moves s (.write ok) s' out := by
  cases hpc : s.pc with
  | capping c =>
    simp only [PowerHal.step, hpc] at hs
    obtain ⟨rfl, rfl⟩ := Prod.mk.inj (Option.some.inj hs)
    exact Moves.capped hpc
  | restoring =>
    simp only [PowerHal.step, hpc] at hs
    obtain ⟨rfl, rfl⟩ := Prod.mk.inj (Option.some.inj hs)
    exact Moves.restored hpc rfl
  | idle => simp [PowerHal.step, hpc] at hs
  | saving _ => simp [PowerHal.step, hpc] at hs
  | checking => simp [PowerHal.step, hpc] at hs

/-- Every step is one of these. -/
theorem moves_of_step {s s' : PowerHal} {l : Step} {out : List Out}
    (hs : PowerHal.machine.step s l = some (s', out)) : Moves s l s' out := by
  have hstep : s.step l = some (s', out) := hs
  cases l with
  | hint hint on =>
    rw [PowerHal.step] at hstep
    split_ifs at hstep with hpc
    exact moves_of_hint hpc (Option.some.inj hstep)
  | read ok => exact moves_of_read hstep
  | write ok => exact moves_of_write hstep
  | agent value =>
    obtain ⟨rfl, rfl⟩ := Prod.mk.inj (Option.some.inj hstep)
    exact Moves.agent

theorem step_of_hint {s s' : PowerHal} {hint : Hint} {on : Bool} {out : List Out}
    (hpc : s.pc = .idle) (hs : (s.set hint on).applyFreqCap = (s', out)) :
    PowerHal.machine.step s (.hint hint on) = some (s', out) :=
  (if_pos hpc).trans (congrArg some hs)

/-- And each of these is a step. -/
theorem step_of_moves {s s' : PowerHal} {l : Step} {out : List Out} (hm : Moves s l s' out) :
    PowerHal.machine.step s l = some (s', out) := by
  cases hm with
  | save hpc hcap happlied | nothing hpc hcap happlied =>
    apply step_of_hint hpc
    simp [PowerHal.applyFreqCap, hcap, happlied]
  | cap hpc hcap happlied | check hpc hcap happlied =>
    obtain ⟨old, hold⟩ := Option.ne_none_iff_exists'.mp happlied
    apply step_of_hint hpc
    simp [PowerHal.applyFreqCap, hcap, hold]
  | saved hpc => simp [PowerHal.machine, PowerHal.step, hpc]
  | ignored hpc => simp [PowerHal.machine, PowerHal.step, hpc]
  | left hpc hne => simp [PowerHal.machine, PowerHal.step, hpc, hne]
  | own hpc hown =>
    simp only [PowerHal.machine, PowerHal.step, hpc]
    exact if_neg fun hother => hother.2 (hown hother.1)
  | capped hpc => simp [PowerHal.machine, PowerHal.step, hpc]
  | restored hpc hvalue => simp [PowerHal.machine, PowerHal.step, hpc, hvalue]
  | agent => rfl

end OppoA37.Power
