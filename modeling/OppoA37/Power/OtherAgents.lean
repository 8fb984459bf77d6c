import OppoA37.Power.FreqCap

/-!
# Lower limits of other agents

Another agent, such as the driver for the temperature, may lower `scaling_max_freq` at any time. The
HAL should not raise it above what that agent wrote last.

Only the restoring of the original value is guarded, by a look at the file just before. A cap is
written whatever is in the file; and the look does not help when the other agent writes between it
and the write, or has written the same value as the cap.
-/

namespace OppoA37.Power

open Lts

/-- What the other agent has written. -/
structure Agent where
  /-- the last value -/
  last : Option ℕ := none
  /-- the last value since the HAL saved the original one -/
  sinceSaved : Option ℕ := none
  deriving DecidableEq

/-- The view after a step. -/
def Agent.after (v : Agent) (s : PowerHal) : Step → Agent
  | .agent value => ⟨some value, some value⟩
  | .read true =>
    match s.pc with
    | .saving _ => { v with sinceSaved := none }
    | _ => v
  | _ => v

/-- The view after one more event. -/
def seen (v : Agent) (e : Event PowerHal Step Out) : Agent := v.after e.pre e.label

/-- A write of the HAL does not raise the file above what the other agent wrote last. -/
def Respects (v : Agent) (e : Event PowerHal Step Out) : Prop :=
  ∀ value, .wrote value ∈ e.out → ∀ last ∈ v.last, e.pre.scalingMaxFreq < value → value ≤ last

/-- Is there room for the write at `pc`? A cap must not be above what the other agent wrote last,
and the original value not above what that agent wrote after it was saved. -/
def HasRoom (v : Agent) (s : PowerHal) : Pc → Prop
  | .capping cap => ∀ last ∈ v.last, cap ≤ last
  | .restoring => ∀ saved ∈ s.savedMaxFreq, ∀ last ∈ v.sinceSaved, saved ≤ last
  | _ => True

instance (v : Agent) (s : PowerHal) (pc : Pc) : Decidable (HasRoom v s pc) := by
  cases pc with
  | capping cap => exact inferInstanceAs (Decidable (∀ last ∈ v.last, cap ≤ last))
  | restoring =>
    exact inferInstanceAs
      (Decidable (∀ saved ∈ s.savedMaxFreq, ∀ last ∈ v.sinceSaved, saved ≤ last))
  | idle => exact isTrue trivial
  | saving _ => exact isTrue trivial
  | checking => exact isTrue trivial

/-- There is room for every write. -/
def WritesFit (v : Agent) (s : PowerHal) (l : Step) : Prop := l = .write true → HasRoom v s s.pc

instance (v : Agent) (s : PowerHal) (l : Step) : Decidable (WritesFit v s l) :=
  inferInstanceAs (Decidable (_ → HasRoom v s s.pc))

variable {v : Agent} {s s' : PowerHal} {l : Step} {out : List Out}

/-- The file is not above what the other agent wrote last, and the saved value only if that was
written later. -/
structure Below (v : Agent) (s : PowerHal) : Prop where
  file : ∀ last ∈ v.last, s.scalingMaxFreq ≤ last
  saved : v.sinceSaved = none → ∀ saved ∈ s.savedMaxFreq, ∀ last ∈ v.last, saved ≤ last
  since : ∀ last ∈ v.sinceSaved, v.last = some last

/-- There is room for a write just if its value is not above what the other agent wrote last. -/
theorem Below.hasRoom_iff (hI : Below v s) {value : ℕ} (hvalue : s.toWrite = some value) :
    HasRoom v s s.pc ↔ ∀ last ∈ v.last, value ≤ last := by
  cases hpc : s.pc with
  | capping cap =>
    obtain rfl : cap = value := by simpa [PowerHal.toWrite, hpc] using hvalue
    exact Iff.rfl
  | restoring =>
    have hgetD : s.savedMaxFreq.getD s.scalingMaxFreq = value := by
      simpa [PowerHal.toWrite, hpc] using hvalue
    constructor
    · intro hroom last hlast
      cases hsaved : s.savedMaxFreq with
      | none =>
        rw [← hgetD, hsaved]
        exact hI.file last hlast
      | some saved =>
        rw [← hgetD, hsaved, Option.getD_some]
        cases hsince : v.sinceSaved with
        | none => exact hI.saved hsince saved hsaved last hlast
        | some last' =>
          obtain rfl : last' = last :=
            Option.some.inj ((hI.since last' hsince).symm.trans hlast)
          exact hroom saved hsaved last' hsince
    · intro hle saved hsaved last hlast
      obtain rfl : saved = value := by
        rw [← hgetD, Option.mem_def.mp hsaved, Option.getD_some]
      exact hle last (hI.since last hlast)
  | idle => simp [PowerHal.toWrite, hpc] at hvalue
  | saving _ => simp [PowerHal.toWrite, hpc] at hvalue
  | checking => simp [PowerHal.toWrite, hpc] at hvalue

/-- What a step does to the file and the saved value. -/
inductive Files (s : PowerHal) : Step → PowerHal → List Out → Prop where
  /-- the HAL writes the file -/
  | hal {s' : PowerHal} {out : List Out} {value : ℕ} : s.toWrite = some value →
      s'.scalingMaxFreq = value → s'.savedMaxFreq = s.savedMaxFreq →
      (∀ value', .wrote value' ∈ out ↔ value' = value) → Files s (.write true) s' out
  /-- the other agent writes the file -/
  | other {s' : PowerHal} {value : ℕ} : s'.scalingMaxFreq = value →
      s'.savedMaxFreq = s.savedMaxFreq → Files s (.agent value) s' []
  /-- the HAL saves the value in the file -/
  | saves {s' : PowerHal} {c : ℕ} : s.pc = .saving c → s'.scalingMaxFreq = s.scalingMaxFreq →
      s'.savedMaxFreq = some s.scalingMaxFreq → Files s (.read true) s' []
  /-- nothing changes -/
  | same {s' : PowerHal} {l : Step} {out : List Out} : l ≠ .write true →
      (∀ v : Agent, v.after s l = v) → s'.scalingMaxFreq = s.scalingMaxFreq →
      s'.savedMaxFreq = s.savedMaxFreq → (∀ value, .wrote value ∉ out) → Files s l s' out

theorem files_of_moves (hm : Moves s l s' out) : Files s l s' out := by
  cases hm with
  | @capped ok c hpc =>
    cases ok with
    | true => exact Files.hal (by simp [PowerHal.toWrite, hpc]) rfl rfl (by simp [PowerHal.wrote])
    | false => exact Files.same (by simp) (fun _ => rfl) rfl rfl (by simp [PowerHal.wrote])
  | @restored ok value hpc hvalue =>
    cases ok with
    | true =>
      exact Files.hal (by simp [PowerHal.toWrite, hpc, hvalue]) rfl rfl (by simp [PowerHal.wrote])
    | false => exact Files.same (by simp) (fun _ => rfl) rfl rfl (by simp [PowerHal.wrote])
  | agent => exact Files.other rfl rfl
  | saved hpc => exact Files.saves hpc rfl rfl
  | left hpc =>
    exact Files.same (by simp) (fun _ => by simp [Agent.after, hpc]) rfl rfl (by simp)
  | @own ok hpc =>
    refine Files.same (by simp) (fun _ => ?_) rfl rfl (by simp)
    cases ok <;> simp [Agent.after, hpc]
  | ignored => exact Files.same (by simp) (fun _ => rfl) rfl rfl (by simp)
  | save => exact Files.same (by simp) (fun _ => rfl) (by simp) (by simp) (by simp)
  | cap => exact Files.same (by simp) (fun _ => rfl) (by simp) (by simp) (by simp)
  | nothing => exact Files.same (by simp) (fun _ => rfl) (by simp) (by simp) (by simp)
  | check => exact Files.same (by simp) (fun _ => rfl) (by simp) (by simp) (by simp)

/-- A step that does not write too much. -/
theorem Below.step (hI : Below v s) (hfit : WritesFit v s l) (hf : Files s l s' out) :
    Below (v.after s l) s' ∧ Respects v ⟨s, l, out, s'⟩ := by
  cases hf with
  | hal hvalue hfile hsaved hout =>
    have hle := (hI.hasRoom_iff hvalue).mp (hfit rfl)
    refine ⟨⟨fun last hlast => hfile ▸ hle last hlast, ?_, hI.since⟩, ?_⟩
    · rw [hsaved]
      exact hI.saved
    · intro value hmem last hlast _
      rw [(hout value).mp hmem]
      exact hle last hlast
  | other hfile hsaved =>
    refine ⟨⟨fun last hlast => ?_, fun hno => absurd hno (by simp [Agent.after]),
      fun last hlast => hlast⟩, fun _ hmem => absurd hmem (by simp)⟩
    rw [hfile, Option.some.inj hlast]
  | saves hpc hfile hsaved =>
    have hafter : v.after s (.read true) = { v with sinceSaved := none } := by
      simp [Agent.after, hpc]
    rw [hafter]
    refine ⟨⟨fun last hlast => hfile ▸ hI.file last hlast, fun _ saved hmem last hlast => ?_,
      fun _ hno => absurd hno (by simp)⟩, fun _ hmem => absurd hmem (by simp)⟩
    rw [hsaved] at hmem
    exact Option.some.inj hmem ▸ hI.file last hlast
  | same hwrite hafter hfile hsaved hout =>
    rw [hafter]
    refine ⟨⟨?_, ?_, hI.since⟩, fun value hmem => absurd hmem (hout value)⟩
    · rw [hfile]
      exact hI.file
    · rw [hsaved]
      exact hI.saved

/-- A step that writes too much raises the file. -/
theorem Below.writesFit (hI : Below v s) (hf : Files s l s' out)
    (hrespects : Respects v ⟨s, l, out, s'⟩) : WritesFit v s l := by
  rintro rfl
  cases hf with
  | @hal _ _ value hvalue _ _ hout =>
    refine (hI.hasRoom_iff hvalue).mpr fun last hlast => ?_
    by_cases hraise : s.scalingMaxFreq < value
    · exact hrespects value ((hout value).mpr rfl) last hlast hraise
    · exact (Nat.not_lt.mp hraise).trans (hI.file last hlast)
  | same hwrite => exact absurd rfl hwrite

/-- **The runs in which the HAL respects the other agent** are those in which all its writes
fit. -/
theorem respects_iff {limit : ℕ} {h : List (Event PowerHal Step Out)}
    (hr : Run PowerHal.machine { scalingMaxFreq := limit } h s) :
    Watched seen {} (fun v e => WritesFit v e.pre e.label) h ↔ Watched seen {} Respects h := by
  refine Run.watched_congr Below (fun _ _ => True) ?_ ?_ ?_ hr fun _ _ => trivial
  · exact ⟨by simp, by simp, by simp⟩
  · exact fun v e hI _ hfit hs => hI.step hfit (files_of_moves (moves_of_step hs))
  · exact fun v e hI _ hno hs hrespects =>
      hno (hI.writesFit (files_of_moves (moves_of_step hs)) hrespects)

/-- The other agent lowers the limit below the cap and raises it again before the hint ends. -/
def yielding : List Step :=
  [.hint .lowPower true, .read true, .write true, .agent 533333, .hint .lowPower false, .read true,
    .agent 1209600, .hint .sustainedPerformance true, .read true, .write true]

theorem respects_yielding : ∃ h s, Run PowerHal.machine { scalingMaxFreq := 1209600 } h s ∧
    h.map Event.label = yielding ∧ Watched seen {} Respects h := by
  obtain ⟨h, s, hr, hl, hcheck⟩ := PowerHal.machine.exists_run { scalingMaxFreq := 1209600 }
    yielding (fun h _ => checkWatched seen (fun v e => decide (WritesFit v e.pre e.label)) {} h)
    (by decide +kernel)
  refine ⟨h, s, hr, hl, (respects_iff hr).mp ?_⟩
  exact (watched_of_check hcheck).mono fun _ _ _ hfit => of_decide_eq_true hfit

/-- The limit of the other agent is below the cap when the hint comes: the file is raised. -/
theorem cap_above_limit : ∃ h s, Run PowerHal.machine { scalingMaxFreq := 1209600 } h s ∧
    h.map Event.label = [.agent 533333, .hint .lowPower true, .read true, .write true] ∧
    ¬ Watched seen {} Respects h := by
  obtain ⟨h, e, hr, hl, hle, hcheck⟩ := PowerHal.machine.exists_run_last
    { scalingMaxFreq := 1209600 } [.agent 533333, .hint .lowPower true, .read true] (.write true)
    (fun h e => decide (.wrote 800000 ∈ e.out) && (decide ((watch seen {} h).last = some 533333) &&
      decide (e.pre.scalingMaxFreq < 800000))) (by decide +kernel)
  simp only [Bool.and_eq_true, decide_eq_true_eq] at hcheck
  obtain ⟨hout, hlast, hraise⟩ := hcheck
  refine ⟨h ++ [e], e.post, hr, by simp [hl, hle], fun hwatched => ?_⟩
  have hle : 800000 ≤ 533333 := (watched_snoc.mp hwatched).2 800000 hout 533333 hlast hraise
  omega

end OppoA37.Power
