import OppoA37.Gps.Utils.LocCfg

/-!
# `loc_update_conf`

A payload is copied and cut into its lines by `strtok_r`, and every line is offered to the table.
The loop begins with one parameter less than the table has entries, so it stops when only one is
left and never begins for a table of one entry. What it returns is how many lines it has taken.

* `updateConf_eq` says what is returned and what the table holds.
* `updateConf_iff` says for which payloads and tables this is what the comment promises.
* `updateConf_of_fewer` are the payloads where the entries get what the payload says.
-/

namespace OppoA37.LocCfg

open Text

section Update

variable {F : Type*} [Zero F] (atof : List Char → F)

/-- The loop of `loc_update_conf`: `ret` and the table. -/
def updateLoop : UInt32 → List (List Char) → ℤ → List (Param F) → ℤ × List (Param F)
  | _, [], ret, t => (ret, t)
  | numParams, inputBuf :: rest, ret, t =>
    if numParams = 0 then (ret, t)
    else
      let r := fillConfItem atof inputBuf t
      updateLoop (numParams - UInt32.ofNat r.1) rest (ret + 1) r.2

/-- `loc_update_conf`: what it returns, and the table; `malloc` says whether there is memory for the
copy. -/
def updateConf (malloc : Bool) (confData : List Char) (configTable : List (Param F)) :
    ℤ × List (Param F) :=
  if confData ≠ [] ∧ configTable ≠ [] then
    if malloc then
      let confCopy := cString confData
      updateLoop atof (UInt32.ofNat configTable.length - 1) (strtok '\n' confCopy) 0 configTable
    else (-1, configTable)
  else (-1, configTable)

/-- **The loop.** It counts the lines it takes and fills the table by them. -/
theorem updateLoop_eq (numParams : UInt32) (lines : List (List Char)) (ret : ℤ)
    (t : List (Param F)) :
    updateLoop atof numParams lines ret t =
      (ret + (linesRead atof t numParams lines).length,
        t.map fun e => e.assign (lastAssigned atof (linesRead atof t numParams lines) e)) := by
  rw [← foldl_fillConfItem]
  induction lines generalizing numParams ret t with
  | nil => simp [updateLoop, linesRead]
  | cons line lines ih =>
    rw [updateLoop, linesRead]
    split
    · simp
    · rw [List.foldl_cons, fillConfItem_eq]
      dsimp only
      rw [ih, linesRead_fill, List.length_cons, Nat.cast_add, Nat.cast_one, add_right_comm,
        ← add_assoc]

/-- The lines of a payload; there may be a newline behind the last one. -/
def payloadLines (confData : List Char) : List (List Char) := confData.splitOn '\n'

/-- The lines of a payload that are taken for a table. -/
def linesTaken (t : List (Param F)) (confData : List Char) : List (List Char) :=
  linesRead atof t (UInt32.ofNat t.length - 1) (strtok '\n' (cString confData))

/-- **What is taken.** The table is filled by the lines up to the stop, and they are counted. -/
theorem updateConf_eq {confData : List Char} {t : List (Param F)} (hdata : confData ≠ [])
    (ht : t ≠ []) :
    updateConf atof true confData t = (((linesTaken atof t confData).length : ℤ),
      t.map fun e => e.assign (lastAssigned atof (linesTaken atof t confData) e)) := by
  rw [updateConf, if_pos ⟨hdata, ht⟩, if_pos rfl]
  dsimp only
  rw [updateLoop_eq, zero_add]
  rfl

/-- How many entries some lines give a value. -/
def entriesSet (lines : List (List Char)) (t : List (Param F)) : ℕ :=
  t.countP fun e => (lastAssigned atof lines e).isSome

/-- **The payload is applied** exactly when there is a payload, a table and memory, the lines that
are taken give every entry what the payload gives it, and there are as many of them as entries that
the payload names. -/
theorem updateConf_iff (malloc : Bool) (confData : List Char) (t : List (Param F)) :
    updateConf atof malloc confData t = ((entriesSet atof (payloadLines confData) t : ℤ),
        t.map fun e => e.assign (lastAssigned atof (payloadLines confData) e)) ↔
      (confData ≠ [] ∧ t ≠ [] ∧ malloc = true) ∧
      (∀ e ∈ t, GiveTheSame atof (linesTaken atof t confData) (payloadLines confData) e) ∧
      (linesTaken atof t confData).length = entriesSet atof (payloadLines confData) t := by
  by_cases hok : confData ≠ [] ∧ t ≠ [] ∧ malloc = true
  · obtain ⟨hdata, ht, rfl⟩ := hok
    rw [updateConf_eq atof hdata ht, Prod.mk.injEq, List.map_inj_left, Nat.cast_inj, and_comm]
    refine ⟨fun h => ⟨⟨hdata, ht, rfl⟩, fun e he => (assign_eq_iff atof).mp (h.1 e he), h.2⟩,
      fun h => ⟨fun e he => (assign_eq_iff atof).mpr (h.2.1 e he), h.2.2⟩⟩
  · -- the call fails, and says so with a number that counts nothing
    refine iff_of_false (fun h => ?_) fun h => hok h.1
    have hfail : (updateConf atof malloc confData t).1 = -1 := by
      rw [updateConf]
      split
      · rename_i hin
        rw [if_neg fun hm => hok ⟨hin.1, hin.2, hm⟩]
      · rfl
    rw [h] at hfail
    omega

/-- `strtok_r` leaves out the empty lines only. -/
theorem lastAssigned_strtok (s : List Char) (e : Param F) :
    lastAssigned atof (strtok '\n' s) e = lastAssigned atof (payloadLines s) e := by
  rw [lastAssigned, lastAssigned, strtok, List.filterMap_filter, payloadLines]
  congr 1
  apply List.filterMap_congr
  intro line _
  cases line with
  | nil => rfl
  | cons c line => rfl

/-- **Fewer than there are entries.** A payload whose lines name entries less often than the table
has entries gives every entry its value; what is returned is how many lines it has. -/
theorem updateConf_of_fewer {confData : List Char} {t : List (Param F)} (hdata : confData ≠ [])
    (hnul : NUL ∉ confData) (ht : t.length < 2 ^ 32)
    (hfew : ((strtok '\n' confData).map (assignedCount atof t)).sum < t.length) :
    (updateConf atof true confData t).2 =
      t.map fun e => e.assign (lastAssigned atof (payloadLines confData) e) := by
  have hne : t ≠ [] := List.length_pos_iff.mp (Nat.zero_lt_of_lt hfew)
  have hstr : cString confData = confData := takeWhile_ne_nul hnul
  rw [updateConf_eq atof hdata hne]
  apply List.map_congr_left
  intro e he
  have hone : UInt32.ofNat t.length - 1 = UInt32.ofNat (t.length - 1) :=
    (UInt32.ofNat_sub (Nat.one_le_of_lt hfew)).symm
  rw [linesTaken, hstr, hone, lastAssigned_linesRead atof he (by omega) (by omega),
    lastAssigned_strtok]

/-- A table of one entry is left as it is. -/
theorem updateConf_singleton (malloc : Bool) (confData : List Char) (e : Param F) :
    (updateConf atof malloc confData [e]).2 = [e] := by
  rw [updateConf]
  split
  · split
    · have hcount : UInt32.ofNat [e].length - 1 = 0 := by
        rw [List.length_singleton]
        decide
      dsimp only
      rw [updateLoop_eq, hcount, linesRead_zero]
      rfl
    · rfl
  · rfl

end Update

/-- The last parameter is not applied, and its line is not counted. -/
theorem last_parameter :
    let atof : List Char → ℤ := fun s => (scanInt s).getD 0
    let t : List (Param ℤ) :=
      [⟨['A'], some (.num 0), none, 'n'⟩, ⟨['B'], some (.num 0), none, 'n'⟩]
    let confData := "A=1\nB=2\n".toList
    updateConf atof true confData t ≠ ((entriesSet atof (payloadLines confData) t : ℤ),
      t.map fun e => e.assign (lastAssigned atof (payloadLines confData) e)) := by
  decide +kernel

end OppoA37.LocCfg
