import OppoA37.Lib.Loop

/-!
# The radio service

`main` looks for the option `-s`, by which the second service is told from the first one, and
registers the wrapper of the slot. Its loop over the arguments does not go on to the next one: it
ends at once, or not at all.

* `options_iff` says when it ends.
* `main_serves_iff` says that nothing is registered otherwise.
-/

namespace OppoA37.RadioService

open Loop

/-! ## The options -/

/-- Where the loop over the arguments is. -/
structure OptionState where
  /-- `i` -/
  i : ℕ := 1
  /-- `slotId` -/
  slotId : ℤ := 1
  deriving DecidableEq, Repr

/-- A turn of the loop. -/
def optionTurn (argv : List String) (s : OptionState) : OptionState ⊕ ℤ :=
  match argv[s.i]? with
  | some arg =>
    if arg = "-s" then .inr 2
    -- there is no `i++`
    else .inl s
  | none => .inr s.slotId

/-- `slotId` behind the loop, if it takes no more than these turns. -/
def options (argv : List String) (turns : ℕ) : Option ℤ := run (optionTurn argv) turns {}

/-! ## The service -/

/-- What `main` does to the outside, in order. -/
inductive ServiceCall where
  /-- `V1_0::IRadio::getService` -/
  | getService (name : String)
  /-- `linkDeathToDeath` -/
  | linkDeathToDeath
  /-- `configureRpcThreadpool` -/
  | configureRpcThreadpool
  /-- `registerAsService` -/
  | registerAsService (name : String)
  /-- `joinRpcThreadpool` -/
  | joinRpcThreadpool
  deriving DecidableEq, Repr

/-- What `main` finds. -/
structure ServiceManager where
  /-- there is a real radio of this name -/
  hasRadio : String → Bool
  /-- `registerAsService` returns `OK` -/
  registers : String → Bool

/-- `"slot" + std::to_string(slotId)` -/
def slotName (slotId : ℤ) : String := "slot" ++ toString slotId

/-- `main` behind its loop. -/
def ServiceManager.serve (manager : ServiceManager) (slotId : ℤ) : List ServiceCall :=
  .getService (slotName slotId) ::
    if manager.hasRadio (slotName slotId) then
      [.linkDeathToDeath, .configureRpcThreadpool, .registerAsService (slotName slotId)] ++
        if manager.registers (slotName slotId) then [.joinRpcThreadpool] else []
    else []

/-- `main`, if its loop takes no more than these turns. -/
def main (manager : ServiceManager) (argv : List String) (turns : ℕ) : Option (List ServiceCall) :=
  (options argv turns).map manager.serve

/-! ## What is claimed -/

/-- The slot that is asked for. -/
def slotOf (argv : List String) : ℤ := if "-s" ∈ argv.tail then 2 else 1

/-- The loop ends with the slot that is asked for. -/
def OptionsRead (argv : List String) : Prop := ∃ turns, options argv turns = some (slotOf argv)

/-- The first argument decides. -/
def Decided (argv : List String) : Prop := argv.length ≤ 1 ∨ argv[1]? = some "-s"

/-! ## When the loop ends -/

variable {argv : List String}

/-- There is no argument. -/
theorem options_of_length_le (h : argv.length ≤ 1) : OptionsRead argv := by
  have hturn : optionTurn argv {} = .inr 1 := by
    rw [optionTurn, List.getElem?_eq_none h]
  have hslot : slotOf argv = 1 := by
    rw [slotOf, List.eq_nil_of_length_eq_zero (l := argv.tail) (by simp; omega)]
    rfl
  exact ⟨1, (run_inr hturn 0).trans (congrArg some hslot.symm)⟩

/-- The first argument is `-s`. -/
theorem options_of_first (h : argv[1]? = some "-s") : OptionsRead argv := by
  have hturn : optionTurn argv {} = .inr 2 := by
    rw [optionTurn, h]
    rfl
  have hmem : "-s" ∈ argv.tail := by
    refine List.mem_of_getElem? (i := 0) ?_
    rw [List.getElem?_tail]
    exact h
  exact ⟨1, (run_inr hturn 0).trans (congrArg some (if_pos hmem).symm)⟩

theorem Decided.optionsRead (h : Decided argv) : OptionsRead argv :=
  h.elim options_of_length_le options_of_first

/-- Any other argument is looked at again and again. -/
theorem options_of_not_decided (h : ¬ Decided argv) (turns : ℕ) : options argv turns = none := by
  rw [Decided, not_or, not_le] at h
  have hget := List.getElem?_eq_getElem h.1
  have hne : argv[1] ≠ "-s" := fun heq => h.2 (by rw [hget, heq])
  refine run_eq_none (I := fun s => s = {}) ?_ rfl turns
  rintro s rfl
  refine ⟨{}, ?_, rfl⟩
  rw [optionTurn, hget]
  exact if_neg hne

/-- **The loop over the arguments** ends with the slot that is asked for, if and only if there is no
argument or the first one is `-s`. -/
theorem options_iff (argv : List String) : OptionsRead argv ↔ Decided argv := by
  refine ⟨fun h => ?_, Decided.optionsRead⟩
  obtain ⟨turns, hread⟩ := h
  by_contra hno
  rw [options_of_not_decided hno] at hread
  cases hread

/-- Another option in front of `-s`: the loop does not end. -/
theorem options_spin : ¬ OptionsRead ["radio", "-v", "-s"] ∧
    ∀ turns, options ["radio", "-v", "-s"] turns = none := by
  have hno : ¬ Decided ["radio", "-v", "-s"] := by
    rintro (hlen | hfirst)
    · exact absurd hlen (by simp)
    · simp at hfirst
  refine ⟨fun h => ?_, options_of_not_decided hno⟩
  obtain ⟨turns, hread⟩ := h
  rw [options_of_not_decided hno] at hread
  cases hread

/-! ## When the service is up -/

theorem joins_iff {manager : ServiceManager} {slotId : ℤ} :
    .joinRpcThreadpool ∈ manager.serve slotId ↔
      manager.hasRadio (slotName slotId) = true ∧ manager.registers (slotName slotId) = true := by
  rw [ServiceManager.serve]
  split_ifs with hradio hregisters <;> simp [*]

/-- **The service** is up if and only if the loop ends, there is a real radio, and the wrapper can
be registered. -/
theorem main_serves_iff (manager : ServiceManager) (argv : List String) :
    (∃ turns calls, main manager argv turns = some calls ∧ .joinRpcThreadpool ∈ calls) ↔
      Decided argv ∧ manager.hasRadio (slotName (slotOf argv)) = true ∧
        manager.registers (slotName (slotOf argv)) = true := by
  refine ⟨?_, ?_⟩
  · rintro ⟨turns, calls, hmain, hjoins⟩
    obtain ⟨slotId, hslot, rfl⟩ := Option.map_eq_some_iff.mp hmain
    have hdecided : Decided argv := by
      by_contra hno
      rw [options_of_not_decided hno] at hslot
      cases hslot
    obtain ⟨turns', hread⟩ := hdecided.optionsRead
    obtain rfl := run_unique hslot hread
    exact ⟨hdecided, joins_iff.mp hjoins⟩
  · rintro ⟨hdecided, hjoins⟩
    obtain ⟨turns, hread⟩ := hdecided.optionsRead
    exact ⟨turns, _, congrArg (Option.map manager.serve) hread, joins_iff.mpr hjoins⟩

end OppoA37.RadioService
