import OppoA37.Lib.Text

/-!
# `loc_cfg.cpp`: configuration items and the table they fill

A configuration is text, a line for each item, and an item is a name and a value with `=` between
them. A table lists the names that are looked for, each with the place its value goes to.

* `trimSpace` is the loop of `loc_util_trim_space`, and `trimSpace_eq` what it comes to.
* `parseConfItem` takes a line apart, as the first half of `loc_fill_conf_item` does.
* `setConfigEntry` puts an item in an entry that has its name.
* `fillConfItem` offers an item to every entry.
* `lastAssigned` is the value that the last of some lines gives an entry.

The entries do not know of each other, so filling a table line by line comes to filling each entry
by the last line that names it: `foldl_fillConfItem`.
-/

namespace OppoA37.LocCfg

open Text

/-- `LOC_MAX_PARAM_STRING` -/
def locMaxParamString : ℕ := 80

/-- `LOC_MAX_PARAM_LINE` -/
def locMaxParamLine : ℕ := 160

/-- What is stored behind a `param_ptr`; `F` are the `double`s. -/
inductive Value (F : Type*) where
  /-- a string, for the type `'s'` -/
  | str (s : List Char)
  /-- an `int`, for the type `'n'` -/
  | num (n : ℤ)
  /-- a `double`, for the type `'f'` -/
  | float (x : F)
  deriving DecidableEq, Repr

/-- A `loc_param_s_type`, with what its pointers point to. -/
structure Param (F : Type*) where
  /-- `param_name` -/
  paramName : List Char
  /-- what `param_ptr` points to, if it is not `NULL` -/
  paramPtr : Option (Value F)
  /-- what `param_set` points to, if it is not `NULL` -/
  paramSet : Option Bool
  /-- `param_type` -/
  paramType : Char
  deriving DecidableEq, Repr

attribute [ext] Param

/-- A `loc_param_v_type` -/
structure ParamValue (F : Type*) where
  /-- `param_name` -/
  paramName : List Char
  /-- `param_str_value` -/
  paramStrValue : List Char
  /-- `param_int_value` -/
  paramIntValue : ℤ
  /-- `param_double_value` -/
  paramDoubleValue : F
  deriving DecidableEq, Repr

/-! ## Strings of C -/

/-- The string that a buffer holds. -/
def cString (buf : List Char) : List Char := buf.takeWhile (· ≠ NUL)

/-- What `strtok_r` returns until it returns `NULL`. -/
def strtok (delim : Char) (s : List Char) : List (List Char) :=
  (s.splitOn delim).filter (· ≠ [])

/-- The loop of `loc_util_trim_space`: what is written so far, and what was written when the last
character that is no space was. -/
def trimLoop : List Char → List Char → Option (List Char) → Option (List Char)
  | [], _, lastNonspace => lastNonspace
  | c :: s, written, lastNonspace =>
    if isSpace c = true ∧ written = [] then trimLoop s [] lastNonspace
    else trimLoop s (written ++ [c]) (if isSpace c then lastNonspace else some (written ++ [c]))

/-- `loc_util_trim_space`; a string of spaces is left as it is. -/
def trimSpace (orgString : List Char) : List Char :=
  (trimLoop orgString [] none).getD orgString

/-- The last character that is no space ends a text when its end is trimmed. -/
theorem rdropWhile_spaces (l : List Char) {c : Char} (hc : isSpace c = false) {s : List Char}
    (hs : s.all isSpace = true) : (l ++ c :: s).rdropWhile isSpace = l ++ [c] := by
  have hspaces : ∀ d ∈ s.reverse, isSpace d = true := fun d hd =>
    List.all_eq_true.mp hs d (List.mem_reverse.mp hd)
  rw [List.append_cons, List.rdropWhile, List.reverse_append,
    List.dropWhile_append_of_pos hspaces]
  exact List.rdropWhile_concat_neg _ _ _ (Bool.eq_false_iff.mp hc)

/-- From the first character that is no space on, the loop looks for the last one. -/
theorem trimLoop_eq {written : List Char} (hne : written ≠ []) (s : List Char)
    (lastNonspace : Option (List Char)) :
    trimLoop s written lastNonspace =
      if s.all isSpace then lastNonspace else some ((written ++ s).rdropWhile isSpace) := by
  induction s generalizing written lastNonspace with
  | nil => rfl
  | cons c s ih =>
    have hstep : trimLoop (c :: s) written lastNonspace = trimLoop s (written ++ [c])
        (if isSpace c then lastNonspace else some (written ++ [c])) := if_neg fun h => hne h.2
    rw [hstep, ih (List.append_ne_nil_of_left_ne_nil hne _), List.all_cons, ← List.append_cons]
    cases hs : s.all isSpace with
    | false => simp
    | true =>
      cases hc : isSpace c with
      | true => rfl
      | false =>
        rw [rdropWhile_spaces written hc hs]
        rfl

/-- The loop trims a string that is more than spaces. -/
theorem trimLoop_nil (s : List Char) :
    trimLoop s [] none = if s.all isSpace then none else some (trim s) := by
  induction s with
  | nil => rfl
  | cons c s ih =>
    rw [trimLoop, List.all_cons, trim]
    cases hc : isSpace c with
    | true =>
      rw [if_pos ⟨rfl, rfl⟩, ih, List.dropWhile_cons_of_pos hc]
      rfl
    | false =>
      rw [if_neg fun h => Bool.false_ne_true h.1, List.nil_append, if_neg Bool.false_ne_true,
        trimLoop_eq (List.cons_ne_nil c []) s, List.dropWhile_cons_of_neg (Bool.eq_false_iff.mp hc)]
      cases hs : s.all isSpace with
      | true => exact (congrArg some (rdropWhile_spaces [] hc hs)).symm
      | false => rfl

/-- `loc_util_trim_space` trims, but leaves a string that is nothing but spaces alone. -/
theorem trimSpace_eq (orgString : List Char) :
    trimSpace orgString = if orgString.all isSpace then orgString else trim orgString := by
  rw [trimSpace, trimLoop_nil]
  split <;> rfl

/-- A number in a `long`. -/
def toLong (n : ℤ) : ℤ := max (-2 ^ 31) (min (2 ^ 31 - 1) n)

/-- `atoi` -/
def atoi (s : List Char) : ℤ := toLong ((scanInt s).getD 0)

/-- The value of a hexadecimal digit. -/
def hexDigit (c : Char) : Option ℕ :=
  if c.isDigit then some (c.toNat - '0'.toNat)
  else if 'a' ≤ c ∧ c ≤ 'f' then some (c.toNat - 'a'.toNat + 10)
  else if 'A' ≤ c ∧ c ≤ 'F' then some (c.toNat - 'A'.toNat + 10)
  else none

/-- The hexadecimal digits at the front of a string, after those that were read before. -/
def hexDigits (n : ℕ) : List Char → ℕ
  | [] => n
  | c :: s =>
    match hexDigit c with
    | none => n
    | some d => hexDigits (16 * n + d) s

/-- `0x` -/
def isHexPrefix (s : List Char) : Bool :=
  s.head? = some '0' && (s.tail.head? = some 'x' || s.tail.head? = some 'X')

/-- `strtol` for the base 16. -/
def strtol16 (s : List Char) : ℤ :=
  let s := s.dropWhile isSpace
  let negative := s.head? = some '-'
  let s := if s.head? = some '-' ∨ s.head? = some '+' then s.tail else s
  let s := if isHexPrefix s then s.drop 2 else s
  let n : ℤ := hexDigits 0 s
  toLong (if negative then -n else n)

/-! ## An item -/

section Item

variable {F : Type*}

/-- What an item stores in an entry of a type. -/
def storedValue (paramType : Char) (configValue : ParamValue F) : Option (Value F) :=
  if paramType = 's' then
    if configValue.paramStrValue = "NULL".toList then some (.str [])
    else some (.str (configValue.paramStrValue.take locMaxParamString))
  else if paramType = 'n' then some (.num configValue.paramIntValue)
  else if paramType = 'f' then some (.float configValue.paramDoubleValue)
  else none

/-- What an item stores in an entry, if the item has its name. -/
def valueFor (configEntry : Param F) (configValue : ParamValue F) : Option (Value F) :=
  if configEntry.paramName = configValue.paramName ∧ configEntry.paramPtr.isSome = true then
    storedValue configEntry.paramType configValue
  else none

/-- A value goes in an entry, and its flag is set. -/
def Param.store (configEntry : Param F) (x : Value F) : Param F :=
  { configEntry with
    paramPtr := some x
    paramSet := configEntry.paramSet.map fun _ => true }

/-- `loc_set_config_entry`: the entry afterwards, if the item was for it. -/
def setConfigEntry (configEntry : Param F) (configValue : ParamValue F) : Option (Param F) :=
  (valueFor configEntry configValue).map configEntry.store

/-- An entry after a line that may have given it a value. -/
def Param.assign (e : Param F) (x : Option (Value F)) : Param F := x.elim e e.store

@[simp] theorem Param.assign_none (e : Param F) : e.assign none = e := rfl

@[simp] theorem Param.assign_some (e : Param F) (x : Value F) : e.assign (some x) = e.store x := rfl

/-- The later of two values stays. -/
theorem Param.assign_assign (e : Param F) (x y : Option (Value F)) :
    (e.assign x).assign y = e.assign (y.or x) := by
  cases y with
  | none => rfl
  | some y =>
    cases x with
    | none => rfl
    | some x => simp [Param.store, Function.comp_def]

/-- An entry that takes values is one with a place for them. -/
theorem Param.assign_paramPtr (e : Param F) (x : Option (Value F)) :
    (e.assign x).paramPtr = x.or e.paramPtr := by
  cases x <;> rfl

/-- The flag says whether there was a value. -/
theorem Param.assign_paramSet (e : Param F) (x : Option (Value F)) :
    (e.assign x).paramSet = e.paramSet.map fun b => b || x.isSome := by
  cases x with
  | none => simp
  | some x => simp [Param.store]

/-- Only an entry with a place for it is given a value. -/
theorem isSome_paramPtr_of_valueFor {e : Param F} {v : ParamValue F} {x : Value F}
    (h : valueFor e v = some x) : e.paramPtr.isSome = true := by
  rw [valueFor] at h
  split at h
  · rename_i hv
    exact hv.2
  · cases h

variable [Zero F] (atof : List Char → F)

/-- The first half of `loc_fill_conf_item`: the name and the value of an item, if the line has
both. -/
def parseConfItem (inputBuf : List Char) : Option (ParamValue F) :=
  match strtok '=' (cString inputBuf) with
  | name :: value :: _ =>
    let name := trimSpace name
    let value := trimSpace value
    if 3 ≤ value.length ∧ isHexPrefix value = true then
      some ⟨name, value, strtol16 (value.drop 2), 0⟩
    else some ⟨name, value, atoi value, atof value⟩
  | _ => none

/-- `loc_fill_conf_item`: how many entries the item was for, and the table afterwards. -/
def fillConfItem (inputBuf : List Char) (configTable : List (Param F)) : ℕ × List (Param F) :=
  match parseConfItem atof inputBuf with
  | none => (0, configTable)
  | some configValue =>
    (configTable.countP fun e => (setConfigEntry e configValue).isSome,
      configTable.map fun e => (setConfigEntry e configValue).getD e)

/-! ## What a line gives an entry -/

/-- The value that a line gives an entry, if it is a well-formed item with its name. -/
def assigned (line : List Char) (e : Param F) : Option (Value F) :=
  (parseConfItem atof line).bind (valueFor e)

/-- The value that the last of some lines gives an entry. -/
def lastAssigned (lines : List (List Char)) (e : Param F) : Option (Value F) :=
  (lines.filterMap (assigned atof · e)).getLast?

/-- How many entries a line gives a value. -/
def assignedCount (configTable : List (Param F)) (line : List Char) : ℕ :=
  configTable.countP fun e => (assigned atof line e).isSome

/-- The lines that are read while `num_params` counts down. -/
def linesRead (configTable : List (Param F)) : UInt32 → List (List Char) → List (List Char)
  | _, [] => []
  | numParams, line :: lines =>
    if numParams = 0 then []
    else line :: linesRead configTable
      (numParams - UInt32.ofNat (assignedCount atof configTable line)) lines

/-- What a line gives an entry does not depend on what the entry holds. -/
theorem assigned_assign (line line' : List Char) (e : Param F) :
    assigned atof line (e.assign (assigned atof line' e)) = assigned atof line e := by
  cases hx : assigned atof line' e with
  | none => rfl
  | some x =>
    obtain ⟨v, -, hv⟩ := Option.bind_eq_some_iff.mp hx
    have hptr := isSome_paramPtr_of_valueFor hv
    have hfor : valueFor (e.store x) = valueFor e := by
      funext w
      rw [valueFor, valueFor, hptr]
      rfl
    rw [assigned, assigned, Param.assign_some, hfor]

/-- The last of some lines is among the later ones, if there is one. -/
theorem lastAssigned_cons (line : List Char) (lines : List (List Char)) (e : Param F) :
    lastAssigned atof (line :: lines) e =
      (lastAssigned atof lines e).or (assigned atof line e) := by
  rw [lastAssigned, lastAssigned, List.filterMap_cons]
  cases assigned atof line e with
  | none => simp
  | some x => simp [List.getLast?_cons, Option.or_some]

/-- The last value does not depend on what the entry holds. -/
theorem lastAssigned_assign (lines : List (List Char)) (line : List Char) (e : Param F) :
    lastAssigned atof lines (e.assign (assigned atof line e)) = lastAssigned atof lines e := by
  simp only [lastAssigned, assigned_assign]

/-- **One line.** Every entry takes what the line gives it, and those that are given something are
counted. -/
theorem fillConfItem_eq (line : List Char) (t : List (Param F)) :
    fillConfItem atof line t =
      (assignedCount atof t line, t.map fun e => e.assign (assigned atof line e)) := by
  unfold fillConfItem assignedCount assigned
  cases parseConfItem atof line with
  | none => simp
  | some v =>
    simp only [setConfigEntry, Option.isSome_map, Option.bind_some]
    refine Prod.ext rfl (List.map_congr_left fun e _ => ?_)
    cases valueFor e v <;> rfl

/-- How many entries a line is for stays the same while the table is filled. -/
theorem assignedCount_fill (line line' : List Char) (t : List (Param F)) :
    assignedCount atof (t.map fun e => e.assign (assigned atof line' e)) line =
      assignedCount atof t line := by
  simp only [assignedCount, List.countP_map, Function.comp_def, assigned_assign]

/-- With nothing to look for, no line is read. -/
theorem linesRead_zero (t : List (Param F)) (lines : List (List Char)) :
    linesRead atof t 0 lines = [] := by
  cases lines with
  | nil => rfl
  | cons line lines => exact if_pos rfl

/-- Which lines are read stays the same while the table is filled. -/
theorem linesRead_fill (numParams : UInt32) (lines : List (List Char)) (line : List Char)
    (t : List (Param F)) :
    linesRead atof (t.map fun e => e.assign (assigned atof line e)) numParams lines =
      linesRead atof t numParams lines := by
  induction lines generalizing numParams with
  | nil => rfl
  | cons l lines ih => rw [linesRead, linesRead, assignedCount_fill, ih]

/-- **Many lines.** Every entry takes what the last line with its name gives it. -/
theorem foldl_fillConfItem (lines : List (List Char)) (t : List (Param F)) :
    lines.foldl (fun t line => (fillConfItem atof line t).2) t =
      t.map fun e => e.assign (lastAssigned atof lines e) := by
  induction lines generalizing t with
  | nil => simp [lastAssigned]
  | cons line lines ih =>
    rw [List.foldl_cons, fillConfItem_eq, ih, List.map_map]
    apply List.map_congr_left
    intro e _
    rw [Function.comp_apply, lastAssigned_assign, Param.assign_assign, ← lastAssigned_cons]

/-! ## Lines that give the same -/

/-- Two texts give an entry the same: what it holds afterwards, and whether they name it; only a
flag that is not set can tell the latter. -/
def GiveTheSame (lines lines' : List (List Char)) (e : Param F) : Prop :=
  (lastAssigned atof lines e).or e.paramPtr = (lastAssigned atof lines' e).or e.paramPtr ∧
    (e.paramSet = some false →
      (lastAssigned atof lines e).isSome = (lastAssigned atof lines' e).isSome)

/-- An entry tells no more of the lines than what they give it. -/
theorem assign_eq_iff {lines lines' : List (List Char)} {e : Param F} :
    e.assign (lastAssigned atof lines e) = e.assign (lastAssigned atof lines' e) ↔
      GiveTheSame atof lines lines' e := by
  have hext : ∀ x y : Option (Value F), e.assign x = e.assign y ↔
      (e.assign x).paramPtr = (e.assign y).paramPtr ∧
        (e.assign x).paramSet = (e.assign y).paramSet := by
    intro x y
    cases x <;> cases y <;> simp [Param.store, Param.ext_iff]
  rw [hext, Param.assign_paramPtr, Param.assign_paramPtr, Param.assign_paramSet,
    Param.assign_paramSet, GiveTheSame]
  apply and_congr_right
  intro _
  rcases e.paramSet with _ | _ | _ <;> simp

/-- Lines that are for no entry of a table give its entries nothing. -/
theorem lastAssigned_eq_none {t : List (Param F)} {e : Param F} (he : e ∈ t)
    {lines : List (List Char)} (hnone : ∀ line ∈ lines, assignedCount atof t line = 0) :
    lastAssigned atof lines e = none := by
  rw [lastAssigned, List.getLast?_eq_none_iff, List.filterMap_eq_nil_iff]
  intro line hline
  have := List.countP_eq_zero.mp (hnone line hline) e he
  rwa [Bool.not_eq_true, Option.isSome_eq_false_iff, Option.isNone_iff_eq_none] at this

/-- While there are not more values than the count, the lines that are left give nothing. -/
theorem lastAssigned_linesRead {t : List (Param F)} {e : Param F} (he : e ∈ t) {n : ℕ}
    (hn : n < 2 ^ 32) {lines : List (List Char)}
    (hfew : (lines.map (assignedCount atof t)).sum ≤ n) :
    lastAssigned atof (linesRead atof t (UInt32.ofNat n) lines) e = lastAssigned atof lines e := by
  induction lines generalizing n with
  | nil => rfl
  | cons line lines ih =>
    rw [List.map_cons, List.sum_cons] at hfew
    rw [linesRead]
    split
    · rename_i h0
      have hzero : n = 0 := by
        have := congrArg UInt32.toNat h0
        rwa [UInt32.toNat_ofNat_of_lt' hn] at this
      refine (lastAssigned_eq_none atof he fun l hl => ?_).symm
      have hle := List.single_le_sum (fun _ _ => Nat.zero_le _) _
        (List.mem_map_of_mem (f := assignedCount atof t) hl)
      rw [List.map_cons, List.sum_cons] at hle
      omega
    · rw [lastAssigned_cons, lastAssigned_cons, ← UInt32.ofNat_sub (Nat.le_trans
        (Nat.le_add_right _ _) hfew), ih (Nat.lt_of_le_of_lt (Nat.sub_le _ _) hn)
        (Nat.le_sub_of_add_le' hfew)]

end Item

end OppoA37.LocCfg
