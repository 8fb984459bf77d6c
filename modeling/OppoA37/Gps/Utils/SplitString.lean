import OppoA37.Lib.CString
import OppoA37.Lib.Text

/-!
# Splitting a string in place

`loc_util_split_string` goes through a string once. It puts a `NUL` in place of every delimiter and
notes where the next field begins, until the string or the table of pointers is at its end.

* `splitLoop_spec` is the loop from the middle of a field on: it writes nothing in front of where it
  is, so the fields that were noted before stay what they are.
* `split_string` says that the pointers are to the fields of the string, in order.
-/

namespace OppoA37.SplitString

open CString Text

/-! ## The function -/

/-- What the loop changes. A pointer is the index of a character in `raw_string`. -/
structure SplitState where
  /-- `raw_string` -/
  rawString : Block Char
  /-- `split_strings_ptr` -/
  splitStringsPtr : Block ℕ
  /-- `num_split_strings` -/
  numSplitStrings : ℕ

/-- The loop from an index on, with how many turns it has left; `none` if it leaves an array. -/
def splitLoop (delimiter : Char) (maxNumSubstrings : ℤ) (rawStringLength : ℕ) :
    ℕ → ℕ → SplitState → Option SplitState
  | 0, _, s => some s
  | n + 1, i, s =>
    if i < s.rawString.size then
      let endString := decide (s.rawString.get i = NUL)
      if s.rawString.get i = delimiter ∨ endString = true then do
        let raw ← s.rawString.write i NUL
        let num := s.numSplitStrings + 1
        if i + 1 < rawStringLength ∧ (num : ℤ) < maxNumSubstrings then
          let ptrs ← s.splitStringsPtr.write num (i + 1)
          if endString then some ⟨raw, ptrs, num⟩
          else splitLoop delimiter maxNumSubstrings rawStringLength n (i + 1) ⟨raw, ptrs, num⟩
        else some ⟨raw, s.splitStringsPtr, num⟩
      else splitLoop delimiter maxNumSubstrings rawStringLength n (i + 1) s
    else none

/-- `loc_util_split_string`: what it returns, and the arrays afterwards. -/
def splitString (rawString : Option (Block Char)) (splitStringsPtr : Option (Block ℕ))
    (maxNumSubstrings : ℤ) (delimiter : Char) :
    Option (ℤ × Option (Block Char) × Option (Block ℕ)) :=
  match rawString, splitStringsPtr with
  | some raw, some ptrs => do
    let rawStringLength := (← strlen raw) + 1
    let ptrs ← ptrs.write 0 0
    let s ← splitLoop delimiter maxNumSubstrings rawStringLength rawStringLength 0 ⟨raw, ptrs, 0⟩
    some (s.numSplitStrings, some s.rawString, some s.splitStringsPtr)
  | _, _ => some (-1, rawString, splitStringsPtr)

variable {p : ℕ} {t : List Char} {c : Char}

/-! ## Fields -/

/-- What is in front of the first delimiter is a field. -/
theorem splitOn_append_cons {delimiter : Char} (h : delimiter ∉ t) (rest : List Char) :
    (t ++ delimiter :: rest).splitOn delimiter = t :: rest.splitOn delimiter := by
  have hno : ∀ c ∈ t, (c == delimiter) = false := by
    intro c hc
    rw [beq_eq_false_iff_ne]
    rintro rfl
    exact h hc
  show (t ++ delimiter :: rest).splitOnP (· == delimiter) = _
  rw [splitOnP_append hno, List.splitOnP_cons_eq_if_modifyHead, if_pos (beq_self_eq_true delimiter),
    List.modifyHead_cons, List.append_nil]
  rfl

/-- So is all of it when there is none. -/
theorem splitOn_of_notMem {delimiter : Char} (h : delimiter ∉ t) :
    t.splitOn delimiter = [t] := by
  have hno : ∀ c ∈ t, (c == delimiter) = false := by
    intro c hc
    rw [beq_eq_false_iff_ne]
    rintro rfl
    exact h hc
  have hsplit := @splitOnP_append (· == delimiter) [] t hno
  rw [List.append_nil] at hsplit
  show t.splitOnP (· == delimiter) = _
  rw [hsplit, List.splitOnP_nil, List.modifyHead_cons, List.append_nil]

/-! ## In the middle of a field -/

variable {delimiter : Char} {maxNumSubstrings : ℤ} {rawStringLength i : ℕ}
variable {s s' : SplitState} {cur rest : List Char}

/-- In the middle of a field that has a pointer: `cur` was read of it, and `rest` is left of the
string. -/
structure InField (delimiter : Char) (maxNumSubstrings : ℤ) (rawStringLength i : ℕ)
    (s : SplitState) (p : ℕ) (cur rest : List Char) : Prop where
  index : i = p + cur.length
  chars : CharsAt s.rawString p cur
  left : StringAt s.rawString i rest
  total : i + rest.length + 1 = rawStringLength
  free : (s.numSplitStrings : ℤ) < maxNumSubstrings
  table : maxNumSubstrings ≤ s.splitStringsPtr.size
  noted : s.splitStringsPtr.get s.numSplitStrings = p
  noDelimiter : delimiter ∉ cur
  noNul : NUL ∉ cur

/-- The rest of the loop gives these fields, and leaves alone what is in front of it. -/
structure Splits (maxNumSubstrings : ℤ) (i : ℕ) (s s' : SplitState) (fields : List (List Char)) :
    Prop where
  count : (s'.numSplitStrings : ℤ) =
    min maxNumSubstrings (s.numSplitStrings + fields.length)
  pointers : ∀ (k : ℕ) (field : List Char), fields[k]? = some field →
    (s.numSplitStrings : ℤ) + k < maxNumSubstrings →
    StringAt s'.rawString (s'.splitStringsPtr.get (s.numSplitStrings + k)) field
  size : s'.rawString.size = s.rawString.size
  front : ∀ j < i, s'.rawString.get j = s.rawString.get j
  noted : ∀ k ≤ s.numSplitStrings, s'.splitStringsPtr.get k = s.splitStringsPtr.get k

/-- A field has ended here. -/
def SplitState.endField (s : SplitState) (i : ℕ) : SplitState where
  rawString := { s.rawString with get := Function.update s.rawString.get i NUL }
  splitStringsPtr := s.splitStringsPtr
  numSplitStrings := s.numSplitStrings + 1

/-- And the next one begins. -/
def SplitState.nextField (s : SplitState) (i : ℕ) : SplitState where
  rawString := { s.rawString with get := Function.update s.rawString.get i NUL }
  splitStringsPtr :=
    { s.splitStringsPtr with
      get := Function.update s.splitStringsPtr.get (s.numSplitStrings + 1) (i + 1) }
  numSplitStrings := s.numSplitStrings + 1

@[simp] theorem numSplitStrings_endField (s : SplitState) (i : ℕ) :
    (s.endField i).numSplitStrings = s.numSplitStrings + 1 := rfl

@[simp] theorem numSplitStrings_nextField (s : SplitState) (i : ℕ) :
    (s.nextField i).numSplitStrings = s.numSplitStrings + 1 := rfl

/-- A field that ends here, with a `NUL` in place of what was behind it. -/
theorem InField.stringAt (h : InField delimiter maxNumSubstrings rawStringLength i s p cur rest) :
    StringAt { s.rawString with get := Function.update s.rawString.get i NUL } p cur := by
  refine ⟨?_, h.chars.mono fun j _ hj => Function.update_of_ne ?_ _ _, ?_, h.noNul⟩
  · have hroom := h.left.room
    have hindex := h.index
    show p + cur.length < s.rawString.size
    omega
  · rw [h.index]
    exact hj.ne
  · rw [← h.index]
    exact Function.update_self _ _ _

/-- The loop when a field ends and no other one has a pointer. -/
theorem InField.splits_last
    (h : InField delimiter maxNumSubstrings rawStringLength i s p cur rest)
    {fields : List (List Char)}
    (hlast : fields = [] ∨ maxNumSubstrings ≤ s.numSplitStrings + 1) :
    Splits maxNumSubstrings i s (s.endField i) (cur :: fields) := by
  have hfree := h.free
  refine ⟨?_, fun k field hk hlt => ?_, rfl, fun j hj => Function.update_of_ne hj.ne _ _,
    fun _ _ => rfl⟩
  · rw [List.length_cons, numSplitStrings_endField]
    push_cast
    rcases hlast with rfl | hfull
    · rw [List.length_nil]
      omega
    · omega
  · -- only the first field has a pointer
    have hzero : k = 0 := by
      rcases hlast with rfl | hfull
      · have hlt := (List.getElem?_eq_some_iff.mp hk).1
        rw [List.length_singleton] at hlt
        omega
      · omega
    subst hzero
    obtain rfl : cur = field := Option.some.inj hk
    have hptr : (s.endField i).splitStringsPtr.get s.numSplitStrings = p := h.noted
    rw [Nat.add_zero, hptr]
    exact h.stringAt

/-- The next field begins behind a delimiter. -/
theorem InField.next
    (h : InField delimiter maxNumSubstrings rawStringLength i s p cur (delimiter :: rest))
    (hfree : (s.numSplitStrings : ℤ) + 1 < maxNumSubstrings) :
    InField delimiter maxNumSubstrings rawStringLength (i + 1) (s.nextField i) (i + 1) [] rest where
  index := rfl
  chars j c hj := by cases hj
  left := h.left.of_cons.2.2.mono rfl fun j hj _ =>
    Function.update_of_ne (Nat.lt_of_succ_le hj).ne' _ _
  total := by
    have hlength := h.total
    rw [List.length_cons] at hlength
    omega
  free := by
    rw [numSplitStrings_nextField]
    push_cast
    exact hfree
  table := h.table
  noted := Function.update_self _ _ _
  noDelimiter := List.not_mem_nil
  noNul := List.not_mem_nil

/-- The fields behind a delimiter, and the one in front of it. -/
theorem InField.splits_cons
    (h : InField delimiter maxNumSubstrings rawStringLength i s p cur (delimiter :: rest))
    {fields : List (List Char)}
    (hrest : Splits maxNumSubstrings (i + 1) (s.nextField i) s' fields) :
    Splits maxNumSubstrings i s s' (cur :: fields) := by
  obtain ⟨hcount, hpointers, hsize, hfront, hnoted⟩ := hrest
  refine ⟨?_, fun k field hk hlt => ?_, hsize, fun j hj => ?_, fun k hk => ?_⟩
  · rw [hcount, List.length_cons, numSplitStrings_nextField]
    push_cast
    omega
  · cases k with
    | zero =>
      obtain rfl : cur = field := Option.some.inj hk
      have hptr := hnoted s.numSplitStrings (Nat.le_succ _)
      have hsame : (s.nextField i).splitStringsPtr.get s.numSplitStrings = p := by
        rw [← h.noted]
        exact Function.update_of_ne (Nat.lt_succ_self _).ne _ _
      rw [Nat.add_zero, hptr, hsame]
      refine h.stringAt.mono hsize fun j _ hj => hfront j ?_
      rw [h.index]
      exact Nat.lt_succ_of_le hj
    | succ k =>
      rw [numSplitStrings_nextField] at hpointers
      have hfield := hpointers k field hk (by push_cast at hlt ⊢; omega)
      rwa [Nat.add_assoc, Nat.add_comm 1] at hfield
  · rw [hfront j (Nat.lt_succ_of_lt hj)]
    exact Function.update_of_ne hj.ne _ _
  · rw [hnoted k (Nat.le_succ_of_le hk)]
    exact Function.update_of_ne (Nat.lt_succ_of_le hk).ne _ _

/-- One more character of a field. -/
theorem InField.snoc (h : InField delimiter maxNumSubstrings rawStringLength i s p cur (c :: rest))
    (hc : c ≠ delimiter) :
    InField delimiter maxNumSubstrings rawStringLength (i + 1) s p (cur ++ [c]) rest := by
  obtain ⟨hget, hnul, hrest⟩ := h.left.of_cons
  have hindex := h.index
  have hlength := h.total
  rw [List.length_cons] at hlength
  refine ⟨by rw [List.length_append, List.length_singleton]; omega,
    h.chars.snoc (by rw [← hindex]; exact hget), hrest, by omega, h.free, h.table, h.noted, ?_, ?_⟩
  · rw [List.mem_append, List.mem_singleton, not_or]
    exact ⟨h.noDelimiter, hc.symm⟩
  · rw [List.mem_append, List.mem_singleton, not_or]
    exact ⟨h.noNul, hnul.symm⟩

/-! ## The loop -/

variable {n : ℕ}

/-- A turn that ends the last field. -/
theorem splitLoop_endField (hroom : i < s.rawString.size)
    (hends : s.rawString.get i = delimiter ∨ s.rawString.get i = NUL)
    (hlast : ¬ (i + 1 < rawStringLength ∧ (s.numSplitStrings : ℤ) + 1 < maxNumSubstrings)) :
    splitLoop delimiter maxNumSubstrings rawStringLength (n + 1) i s = some (s.endField i) := by
  have hwrite : s.rawString.write i NUL = some (s.endField i).rawString := if_pos hroom
  rw [splitLoop, if_pos hroom, if_pos (hends.imp_right decide_eq_true), hwrite]
  simp only [Option.bind_eq_bind, Option.bind_some, Nat.cast_succ, if_neg hlast]
  rfl

/-- A turn at a delimiter, when the next field gets a pointer. -/
theorem splitLoop_nextField (hroom : i < s.rawString.size)
    (hends : s.rawString.get i = delimiter) (hnul : s.rawString.get i ≠ NUL)
    (hnext : i + 1 < rawStringLength ∧ (s.numSplitStrings : ℤ) + 1 < maxNumSubstrings)
    (htable : maxNumSubstrings ≤ s.splitStringsPtr.size) :
    splitLoop delimiter maxNumSubstrings rawStringLength (n + 1) i s =
      splitLoop delimiter maxNumSubstrings rawStringLength n (i + 1) (s.nextField i) := by
  have hwrite : s.rawString.write i NUL = some (s.endField i).rawString := if_pos hroom
  have hnote : s.splitStringsPtr.write (s.numSplitStrings + 1) (i + 1) =
      some (s.nextField i).splitStringsPtr := if_pos (by omega)
  rw [splitLoop, if_pos hroom, if_pos (Or.inl hends), decide_eq_false hnul, hwrite]
  simp only [Option.bind_eq_bind, Option.bind_some, Nat.cast_succ, if_pos hnext, hnote,
    Bool.false_eq_true, if_false]
  rfl

/-- A turn in the middle of a field. -/
theorem splitLoop_skip (hroom : i < s.rawString.size) (hne : s.rawString.get i ≠ delimiter)
    (hnul : s.rawString.get i ≠ NUL) :
    splitLoop delimiter maxNumSubstrings rawStringLength (n + 1) i s =
      splitLoop delimiter maxNumSubstrings rawStringLength n (i + 1) s := by
  rw [splitLoop, if_pos hroom, decide_eq_false hnul]
  exact if_neg (by simp [hne])

/-- **The loop**, from the middle of a field on, splits what was read of it and what is left. -/
theorem splitLoop_spec
    (h : InField delimiter maxNumSubstrings rawStringLength i s p cur rest) :
    ∃ s', splitLoop delimiter maxNumSubstrings rawStringLength (rest.length + 1) i s = some s' ∧
      Splits maxNumSubstrings i s s' ((cur ++ rest).splitOn delimiter) := by
  have htotal := h.total
  induction rest generalizing i s p cur with
  | nil =>
    rw [List.length_nil] at htotal
    refine ⟨s.endField i, ?_, ?_⟩
    · exact splitLoop_endField h.left.room (Or.inr h.left.terminated) (by omega)
    · rw [List.append_nil, splitOn_of_notMem h.noDelimiter]
      exact h.splits_last (Or.inl rfl)
  | cons c rest ih =>
    obtain ⟨rfl, hnul, -⟩ := h.left.of_cons
    have hroom : i < s.rawString.size := (Nat.le_add_right _ _).trans_lt h.left.room
    rw [List.length_cons] at htotal ⊢
    by_cases hc : s.rawString.get i = delimiter
    · subst hc
      rw [splitOn_append_cons h.noDelimiter]
      by_cases hfree : (s.numSplitStrings : ℤ) + 1 < maxNumSubstrings
      · obtain ⟨s', hrun, hsplits⟩ := ih (h.next hfree) (h.next hfree).total
        refine ⟨s', ?_, h.splits_cons hsplits⟩
        rw [splitLoop_nextField hroom rfl hnul ⟨by omega, hfree⟩ h.table, hrun]
      · refine ⟨s.endField i, ?_, h.splits_last (Or.inr (not_lt.mp hfree))⟩
        exact splitLoop_endField hroom (Or.inl rfl) fun hnext => hfree hnext.2
    · obtain ⟨s', hrun, hsplits⟩ := ih (h.snoc hc) (h.snoc hc).total
      refine ⟨s', ?_, ?_⟩
      · rw [splitLoop_skip hroom hc hnul, hrun]
      · rw [List.append_assoc] at hsplits
        exact ⟨hsplits.count, hsplits.pointers, hsplits.size,
          fun j hj => hsplits.front j (Nat.lt_succ_of_lt hj), hsplits.noted⟩

/-- **A string is split** into its fields: as many as there are, or as there are pointers. -/
theorem split_string (raw : Block Char) (ptrs : Block ℕ) (maxNumSubstrings : ℤ) (delimiter : Char)
    (t : List Char) (hmax : 1 ≤ maxNumSubstrings) (htable : maxNumSubstrings ≤ ptrs.size)
    (hstring : StringAt raw 0 t) :
    ∃ raw' ptrs', splitString (some raw) (some ptrs) maxNumSubstrings delimiter =
        some (min maxNumSubstrings (t.splitOn delimiter).length, some raw', some ptrs') ∧
      ∀ (k : ℕ) (field : List Char), (t.splitOn delimiter)[k]? = some field →
        (k : ℤ) < maxNumSubstrings → StringAt raw' (ptrs'.get k) field := by
  have hfirst : InField delimiter maxNumSubstrings (t.length + 1) 0
      ⟨raw, { ptrs with get := Function.update ptrs.get 0 0 }, 0⟩ 0 [] t := by
    refine ⟨rfl, fun j c hj => ?_, hstring, by omega, hmax, htable,
      Function.update_self 0 0 ptrs.get,
      List.not_mem_nil, List.not_mem_nil⟩
    cases hj
  obtain ⟨s', hrun, hsplits⟩ := splitLoop_spec hfirst
  obtain ⟨hcount, hpointers, -, -, -⟩ := hsplits
  rw [List.nil_append] at hcount hpointers
  have hwrite : ptrs.write 0 0 = some { ptrs with get := Function.update ptrs.get 0 0 } :=
    if_pos (by omega)
  refine ⟨s'.rawString, s'.splitStringsPtr, ?_, fun k field hk hlt => ?_⟩
  · rw [splitString, hstring.strlen, hwrite]
    simp only [Option.bind_eq_bind, Option.bind_some, hrun]
    rw [hcount, Nat.cast_zero, zero_add]
  · have hfield := hpointers k field hk (by rw [Nat.cast_zero, zero_add]; exact hlt)
    rwa [Nat.zero_add] at hfield

/-- Three words, one of them empty, and pointers for two. -/
theorem split_words : 1 ≤ (2 : ℤ) ∧ (2 : ℤ) ≤ (2 : ℕ) ∧
    ∃ raw' ptrs', splitString (some (ofText "a  b".toList)) (some ⟨2, fun _ => 7⟩) 2 ' ' =
        some (min (2 : ℤ) ("a  b".toList.splitOn ' ').length, some raw', some ptrs') ∧
      ∀ (k : ℕ) (field : List Char), ("a  b".toList.splitOn ' ')[k]? = some field →
        (k : ℤ) < 2 → StringAt raw' (ptrs'.get k) field :=
  ⟨by omega, by omega, split_string (ofText "a  b".toList) ⟨2, fun _ => 7⟩ 2 ' ' "a  b".toList
    (by omega) le_rfl (stringAt_ofText (by decide))⟩

end OppoA37.SplitString
