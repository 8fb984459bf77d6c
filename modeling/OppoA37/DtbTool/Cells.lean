import OppoA37.Lib.Text

/-!
# The cells of a property

`getChipInfo` reads properties from the text that `dtc` prints. Behind the tag of a property it
takes the line apart with `strtok_r`, and puts two, three or four cells at a time into a record,
until it finds the bracket that ends the property, or the end of the line.

* `tupleLoop` is this loop, on a line that `strtok_r` changes while it reads it;
* `completeTuples` are the tuples that it should find;
* `tupleLoop_spec` says that it finds them, on every line.
-/

namespace OppoA37.DtbTool

open Text

/-! ## Strings -/

/-- The string that a buffer holds. -/
def cString (buf : List Char) : List Char := buf.takeWhile (· ≠ NUL)

/-- The separators of `strtok_r`. -/
def isBlank (c : Char) : Bool := c = ' ' || c = '\t'

/-- A line that `strtok_r` takes apart. -/
structure Cursor where
  /-- what is passed -/
  passed : List Char
  /-- what is left -/
  left : List Char

/-- The whole line, as it is in memory. -/
def Cursor.line (cur : Cursor) : List Char := cur.passed ++ cur.left

/-- `strtok_r`, which writes a `NUL` over the separator behind the token. -/
def strtokR (cur : Cursor) : Option (List Char) × Cursor :=
  let blanks := cur.left.takeWhile isBlank
  let s := cur.left.dropWhile isBlank
  if s = [] then (none, ⟨cur.passed ++ blanks, []⟩)
  else
    let tok := s.takeWhile (!isBlank ·)
    match s.dropWhile (!isBlank ·) with
    | [] => (some tok, ⟨cur.passed ++ blanks ++ tok, []⟩)
    | _ :: left => (some tok, ⟨cur.passed ++ blanks ++ tok ++ [NUL], left⟩)

/-! ## Numbers -/

/-- The value of a digit or a letter; nothing else is a digit for any base. -/
def digitValue (c : Char) : ℕ :=
  if '0' ≤ c ∧ c ≤ '9' then c.toNat - 48
  else if 'a' ≤ c ∧ c ≤ 'z' then c.toNat - 87
  else if 'A' ≤ c ∧ c ≤ 'Z' then c.toNat - 55
  else 36

/-- The digits in front, after those that were read before. -/
def scanDigits (base : ℕ) : List Char → ℕ → ℕ
  | [], n => n
  | c :: s, n => if digitValue c < base then scanDigits base s (base * n + digitValue c) else n

/-- The number that `strtoul` reads for base 0, without its sign. -/
def scanNumber (s : List Char) : ℕ :=
  match s with
  | '0' :: x :: c :: _ =>
    if (x = 'x' ∨ x = 'X') ∧ digitValue c < 16 then scanDigits 16 (s.drop 2) 0
    else scanDigits 8 s 0
  | '0' :: _ => scanDigits 8 s 0
  | _ => scanDigits 10 s 0

/-- `strtoul` for base 0, where a `long` has 64 bits. -/
def strtoul (s : List Char) : ℕ :=
  let s := s.dropWhile isSpace
  let negative := s.head? = some '-'
  let s := if s.head? = some '-' ∨ s.head? = some '+' then s.tail else s
  let n := scanNumber s
  if 2 ^ 64 ≤ n then 2 ^ 64 - 1 else if negative then (2 ^ 64 - n) % 2 ^ 64 else n

/-- A token, as it is stored in a `uint32_t`. -/
def cell (tok : List Char) : UInt32 := UInt32.ofNat (strtoul tok)

/-! ## The loops -/

/-- What the inner loop over the cells of a tuple changes. -/
structure Tuple where
  /-- `entryValid` -/
  valid : Bool
  /-- `entryEnded` -/
  ended : Bool
  /-- `data`, as far as it is filled -/
  data : List UInt32
  /-- the line -/
  cur : Cursor

/-- The inner loop, for so many cells. -/
def readCells : ℕ → Tuple → Tuple
  | 0, t => t
  | n + 1, t =>
    match strtokR t.cur with
    | (some tok, cur) =>
      if tok.head? = some '>' then { t with valid := false, ended := true, cur := cur }
      else readCells n { t with data := t.data ++ [cell tok], cur := cur }
    | (none, cur) =>
      readCells n { valid := false, ended := true, data := t.data ++ [0], cur := cur }

variable {α : Type}

/-- The loop over the tuples of a line, for at most so many turns: what is added for a tuple is a
parameter. -/
def tupleLoop (size : ℕ) (add : α → List UInt32 → α) : ℕ → Cursor → α → Option (α × Cursor)
  | 0, _, _ => none
  | n + 1, cur, a =>
    let t := readCells size ⟨true, false, [], cur⟩
    let a := if t.valid then add a t.data else a
    if t.ended then some (a, t.cur) else tupleLoop size add n t.cur a

/-! ## The tokens -/

/-- The tokens in front of the one that begins with the bracket. -/
def cellTokens (left : List Char) : List (List Char) :=
  (words isBlank left).takeWhile fun tok => tok.head? ≠ some '>'

/-- As many tuples of a size as there are; what is left over is dropped. -/
def completeTuples {β : Type} (size : ℕ) (cells : List β) : List (List β) :=
  (List.range (cells.length / size)).map fun i => (cells.drop (i * size)).take size

/-- Fewer cells than a tuple has. -/
theorem completeTuples_of_lt {β : Type} {size : ℕ} {cells : List β} (h : cells.length < size) :
    completeTuples size cells = [] := by
  rw [completeTuples, Nat.div_eq_of_lt h]
  rfl

/-- The first tuple. -/
theorem completeTuples_of_le {β : Type} {size : ℕ} {cells : List β} (hsize : 0 < size)
    (h : size ≤ cells.length) :
    completeTuples size cells = cells.take size :: completeTuples size (cells.drop size) := by
  have hcount : cells.length / size = (cells.drop size).length / size + 1 := by
    rw [List.length_drop, ← Nat.add_div_right _ hsize, Nat.sub_add_cancel h]
  rw [completeTuples, hcount, List.range_succ_eq_map, List.map_cons, List.map_map]
  congr 1
  · simp
  · refine List.map_congr_left fun i _ => ?_
    rw [Function.comp_apply, List.drop_drop, Nat.succ_mul, Nat.add_comm]

/-- A string ends at a `NUL`, wherever it is. -/
theorem cString_prefix (x y : List Char) (c : Char) :
    cString (x ++ NUL :: y) <+: cString (x ++ c :: y) := by
  rw [cString, cString, List.takeWhile_append, List.takeWhile_append]
  split
  · simp
  · exact List.prefix_rfl

/-- **One token**: it is the next word, and the line is cut off behind it. -/
theorem strtokR_spec (cur : Cursor) :
    (strtokR cur).1 = (words isBlank cur.left).head? ∧
    words isBlank (strtokR cur).2.left = (words isBlank cur.left).tail ∧
    cString (strtokR cur).2.line <+: cString cur.line ∧
    ((strtokR cur).1.isSome → (strtokR cur).2.left.length < cur.left.length) := by
  obtain ⟨passed, left⟩ := cur
  rw [strtokR]
  dsimp only [Cursor.line]
  have hleft : left.takeWhile isBlank ++ left.dropWhile isBlank = left :=
    List.takeWhile_append_dropWhile
  split
  · next hnil =>
    rw [hnil, List.append_nil] at hleft
    rw [words_eq_nil hnil, hleft]
    exact ⟨rfl, rfl, by simp, by simp⟩
  next hne =>
  obtain ⟨htok, hwords⟩ := words_eq_cons hne
  have hsplit : (left.dropWhile isBlank).takeWhile (!isBlank ·) ++
      (left.dropWhile isBlank).dropWhile (!isBlank ·) = left.dropWhile isBlank :=
    List.takeWhile_append_dropWhile
  have hhead := List.head?_dropWhile_not (!isBlank ·) (left.dropWhile isBlank)
  rw [hwords]
  generalize left.takeWhile isBlank = blanks at *
  generalize (left.dropWhile isBlank).takeWhile (!isBlank ·) = tok at *
  split
  · next hend =>
    rw [hend, List.append_nil] at hsplit
    rw [hend]
    refine ⟨rfl, rfl, ?_, fun _ => ?_⟩
    · rw [← hleft, ← hsplit]
      simp
    · rw [← hleft, ← hsplit]
      simp [List.length_pos_of_ne_nil htok]
  · next b rest hend =>
    rw [hend] at hhead hsplit
    rw [hend, words_cons_of_sep (by simpa using hhead)]
    refine ⟨rfl, rfl, ?_, fun _ => ?_⟩
    · have hcut := cString_prefix (passed ++ blanks ++ tok) rest b
      rw [← hleft, ← hsplit]
      simpa using hcut
    · rw [← hleft, ← hsplit]
      simp
      omega

/-- The cells in front, by the next token. -/
theorem cellTokens_eq {cur : Cursor} : cellTokens cur.left =
    match (strtokR cur).1 with
    | none => []
    | some tok => if tok.head? = some '>' then [] else tok :: cellTokens (strtokR cur).2.left := by
  obtain ⟨hhead, htail, -, -⟩ := strtokR_spec cur
  rw [hhead, cellTokens, cellTokens, htail]
  rcases words isBlank cur.left with _ | ⟨tok, toks⟩
  · rfl
  · by_cases htok : tok.head? = some '>' <;> simp [htok]

/-- The line is cut off, and nothing else changes. -/
theorem readCells_line (n : ℕ) (t : Tuple) :
    cString (readCells n t).cur.line <+: cString t.cur.line := by
  induction n generalizing t with
  | zero => exact List.prefix_rfl
  | succ n ih =>
    obtain ⟨-, -, hline, -⟩ := strtokR_spec t.cur
    rw [readCells]
    rcases hr : strtokR t.cur with ⟨_ | tok, cur⟩ <;> rw [hr] at hline
    · exact (ih _).trans hline
    · dsimp only
      split
      · exact hline
      · exact (ih _).trans hline

/-- A tuple that has ended stays so. -/
theorem readCells_ended (n : ℕ) {t : Tuple} (hvalid : t.valid = false) (hended : t.ended = true) :
    (readCells n t).valid = false ∧ (readCells n t).ended = true := by
  induction n generalizing t with
  | zero => exact ⟨hvalid, hended⟩
  | succ n ih =>
    rw [readCells]
    rcases strtokR t.cur with ⟨_ | tok, cur⟩
    · exact ih rfl rfl
    · dsimp only
      split
      · exact ⟨rfl, rfl⟩
      · exact ih hvalid hended

/-- **One tuple**: so many cells if there are as many, and otherwise the end. -/
theorem readCells_spec (n : ℕ) (t : Tuple) :
    (n ≤ (cellTokens t.cur.left).length →
      (readCells n t).valid = t.valid ∧ (readCells n t).ended = t.ended ∧
      (readCells n t).data = t.data ++ ((cellTokens t.cur.left).take n).map cell ∧
      cellTokens (readCells n t).cur.left = (cellTokens t.cur.left).drop n ∧
      (readCells n t).cur.left.length + n ≤ t.cur.left.length) ∧
    ((cellTokens t.cur.left).length < n →
      (readCells n t).valid = false ∧ (readCells n t).ended = true) := by
  induction n generalizing t with
  | zero => exact ⟨fun _ => ⟨rfl, rfl, by simp [readCells], rfl, le_rfl⟩, fun h => by omega⟩
  | succ n ih =>
    obtain ⟨-, -, -, hless⟩ := strtokR_spec t.cur
    rw [cellTokens_eq, readCells]
    rcases hr : strtokR t.cur with ⟨_ | tok, cur⟩
    · -- the line is at its end
      refine ⟨fun h => ?_, fun _ => readCells_ended n rfl rfl⟩
      simp at h
    · rw [hr] at hless
      dsimp only
      split
      · refine ⟨fun h => ?_, fun _ => ⟨rfl, rfl⟩⟩
        simp at h
      · obtain ⟨henough, htoofew⟩ := ih { t with data := t.data ++ [cell tok], cur := cur }
        have hlt := hless rfl
        constructor
        · intro h
          obtain ⟨hvalid, hended, hdata, hcells, hleft⟩ := henough (Nat.le_of_succ_le_succ h)
          refine ⟨hvalid, hended, ?_, hcells, ?_⟩
          · rw [hdata]
            simp
          · dsimp only at hleft hlt
            omega
        · exact fun h => htoofew (Nat.lt_of_succ_lt_succ h)

/-- **The loop over the tuples** ends on every line, and adds the complete tuples in turn. -/
theorem tupleLoop_spec {size fuel : ℕ} (hsize : 0 < size) (add : α → List UInt32 → α)
    (cur : Cursor) (a : α) (hfuel : cur.left.length < fuel) :
    ∃ cur', tupleLoop size add fuel cur a =
        some ((completeTuples size ((cellTokens cur.left).map cell)).foldl add a, cur') ∧
      cString cur'.line <+: cString cur.line := by
  induction fuel generalizing cur a with
  | zero => omega
  | succ n ih =>
    obtain ⟨henough, htoofew⟩ := readCells_spec size ⟨true, false, [], cur⟩
    have hline := readCells_line size ⟨true, false, [], cur⟩
    rw [tupleLoop]
    rcases lt_or_ge (cellTokens cur.left).length size with hlt | hle
    · obtain ⟨hvalid, hended⟩ := htoofew hlt
      rw [hvalid, hended, completeTuples_of_lt (by simpa using hlt)]
      exact ⟨_, rfl, hline⟩
    · obtain ⟨hvalid, hended, hdata, hcells, hleft⟩ := henough hle
      dsimp only at hleft ⊢
      obtain ⟨cur', hloop, hcut⟩ := ih (readCells size ⟨true, false, [], cur⟩).cur
        (add a (((cellTokens cur.left).take size).map cell)) (by omega)
      refine ⟨cur', ?_, hcut.trans hline⟩
      rw [hvalid, hended, hdata, List.nil_append, completeTuples_of_le hsize (by simpa using hle),
        List.foldl_cons, ← List.map_take, ← List.map_drop, ← hcells]
      exact hloop

/-! ## Lines of cells -/

/-- The number that digits make. -/
def numeral (base : ℕ) (digits : List Char) : ℕ :=
  digits.foldl (fun n c => base * n + digitValue c) 0

/-- The number that a text stands for: hexadecimal digits behind `0x`, or decimal ones. -/
def literal : List Char → Option ℕ
  | '0' :: 'x' :: digits =>
    if digits ≠ [] ∧ digits.all (digitValue · < 16) then some (numeral 16 digits) else none
  | w =>
    if w ≠ [] ∧ w.all (digitValue · < 10) ∧ (w.head? = some '0' → w = ['0']) then
      some (numeral 10 w)
    else none

/-- What stands behind the tag of a property: cells, separated by blanks, and the bracket, which
may stand alone, with nothing behind it but what belongs to it. -/
structure IsCellLine (rest : List Char) : Prop where
  bracket : '>' ∈ rest
  cells : ∀ w ∈ words isBlank (rest.takeWhile (· ≠ '>')), ∃ n, literal w = some n ∧ n < 2 ^ 32
  behind : ∀ c ∈ rest.dropWhile (· ≠ '>'), isBlank c = false

/-- Digits for a base. -/
theorem all_digits_iff {base : ℕ} {digits : List Char} :
    digits.all (digitValue · < base) = true ↔ ∀ c ∈ digits, digitValue c < base := by
  simp

/-- A number that is small enough, as a test. -/
theorem any_lt_iff {o : Option ℕ} : o.any (· < 2 ^ 32) = true ↔ ∃ n, o = some n ∧ n < 2 ^ 32 := by
  cases o <;> simp

instance (rest : List Char) : Decidable (IsCellLine rest) :=
  decidable_of_iff ('>' ∈ rest ∧
      (∀ w ∈ words isBlank (rest.takeWhile (· ≠ '>')), (literal w).any (· < 2 ^ 32) = true) ∧
      (rest.dropWhile (· ≠ '>')).all (!isBlank ·) = true)
    ⟨fun h => ⟨h.1, fun w hw => any_lt_iff.mp (h.2.1 w hw), by simpa using h.2.2⟩,
      fun h => ⟨h.bracket, fun w hw => any_lt_iff.mpr (h.cells w hw), by simpa using h.behind⟩⟩

/-- The cells of such a line. -/
def lineCells (rest : List Char) : List UInt32 :=
  (words isBlank (rest.takeWhile (· ≠ '>'))).map fun w => UInt32.ofNat ((literal w).getD 0)

/-- Digits are read as their number. -/
theorem scanDigits_append {base : ℕ} {digits t : List Char} (n : ℕ)
    (hdigits : ∀ c ∈ digits, digitValue c < base) (ht : ∀ c ∈ t.head?, base ≤ digitValue c) :
    scanDigits base (digits ++ t) n = digits.foldl (fun n c => base * n + digitValue c) n := by
  induction digits generalizing n with
  | nil =>
    rcases t with _ | ⟨c, t⟩
    · rfl
    · exact if_neg (not_lt.mpr (ht c rfl))
  | cons c digits ih =>
    rw [List.forall_mem_cons] at hdigits
    rw [List.cons_append, scanDigits, if_pos hdigits.1, List.foldl_cons]
    exact ih _ hdigits.2

/-- Decimal digits are in one row. -/
theorem digit_of_lt {c : Char} (h : digitValue c < 10) : 48 ≤ c.toNat ∧ c.toNat ≤ 57 := by
  rw [digitValue] at h
  split at h
  · next hc => exact hc
  · split at h
    · next hc =>
      have hlow : 97 ≤ c.toNat := hc.1
      omega
    · split at h
      · next hc =>
        have hlow : 65 ≤ c.toNat := hc.1
        omega
      · omega

/-- A number that begins with a digit has no sign, and no white space in front. -/
theorem strtoul_of_digit {c : Char} {s : List Char} (hc : 48 ≤ c.toNat)
    (hn : scanNumber (c :: s) < 2 ^ 32) : strtoul (c :: s) = scanNumber (c :: s) := by
  have hne : c ≠ '-' ∧ c ≠ '+' ∧ c ≠ ' ' := by
    refine ⟨?_, ?_, ?_⟩ <;>
    · rintro rfl
      exact absurd hc (by decide)
  have hspace : isSpace c = false := by
    simp only [isSpace, Bool.or_eq_false_iff, decide_eq_false_iff_not, Bool.and_eq_false_iff]
    exact ⟨hne.2.2, by omega⟩
  have hsign : ¬ ((c :: s).head? = some '-' ∨ (c :: s).head? = some '+') := by
    simp [hne.1, hne.2.1]
  rw [strtoul, List.dropWhile_cons_of_neg (by simp [hspace]), if_neg hsign, if_neg (by omega),
    if_neg fun hminus => hsign (Or.inl hminus)]

/-- Hexadecimal digits, in front of the bracket or of nothing. -/
theorem scanNumber_hex {d : Char} {ds t : List Char}
    (hdigits : ∀ c ∈ d :: ds, digitValue c < 16) (ht : ∀ c ∈ t.head?, c = '>') :
    scanNumber ('0' :: 'x' :: (d :: ds ++ t)) = numeral 16 (d :: ds) := by
  have hnumber : scanNumber ('0' :: 'x' :: (d :: ds ++ t)) = scanDigits 16 (d :: ds ++ t) 0 :=
    if_pos ⟨Or.inl rfl, hdigits d List.mem_cons_self⟩
  rw [hnumber]
  apply scanDigits_append 0 hdigits
  intro c hc
  rw [ht c hc]
  decide

/-- Decimal digits, in front of the bracket or of nothing. -/
theorem scanNumber_decimal {c : Char} {s t : List Char}
    (hdigits : ∀ d ∈ c :: s, digitValue d < 10) (hzero : c = '0' → s = [])
    (ht : ∀ c ∈ t.head?, c = '>') : scanNumber (c :: s ++ t) = numeral 10 (c :: s) := by
  have hclosing : ∀ base ≤ 36, ∀ c ∈ t.head?, base ≤ digitValue c := by
    intro base hbase c hc
    rw [ht c hc]
    exact hbase
  by_cases hc : c = '0'
  · -- the one number that is taken for an octal one
    obtain rfl := hc
    obtain rfl := hzero rfl
    have hoctal : scanDigits 8 (['0'] ++ t) 0 = 0 := by
      apply scanDigits_append 0 _ (hclosing 8 (by omega))
      intro c hmem
      rw [List.mem_singleton.mp hmem]
      decide
    rcases t with _ | ⟨x, _ | ⟨y, t⟩⟩
    · rfl
    · exact hoctal
    · have hx : ¬ ((x = 'x' ∨ x = 'X') ∧ digitValue y < 16) := by
        rw [ht x rfl]
        exact fun h => absurd h.1 (by decide)
      exact (if_neg hx).trans hoctal
  · have hnumber : scanNumber (c :: s ++ t) = scanDigits 10 (c :: s ++ t) 0 := by
      rw [scanNumber.eq_def]
      split
      · next heq => exact absurd (List.cons.inj heq).1 hc
      · next heq => exact absurd (List.cons.inj heq).1 hc
      · rfl
    rw [hnumber]
    exact scanDigits_append 0 hdigits (hclosing 10 (by omega))

/-- A number in front of the bracket, or of nothing. -/
theorem strtoul_literal {w t : List Char} {n : ℕ} (h : literal w = some n) (hn : n < 2 ^ 32)
    (ht : ∀ c ∈ t.head?, c = '>') : strtoul (w ++ t) = n := by
  rw [literal.eq_def] at h
  split at h
  · -- hexadecimal
    next digits =>
    split at h
    · next hdigits =>
      obtain ⟨hne, hall⟩ := hdigits
      obtain ⟨d, ds, rfl⟩ := List.exists_cons_of_ne_nil hne
      have hnumber := scanNumber_hex (all_digits_iff.mp hall) ht
      rw [Option.some.inj h] at hnumber
      rw [← hnumber] at hn ⊢
      exact strtoul_of_digit (by decide) hn
    · cases h
  · -- decimal
    split at h
    · next hw =>
      obtain ⟨hne, hall, hzero⟩ := hw
      rw [all_digits_iff] at hall
      obtain ⟨c, s, rfl⟩ := List.exists_cons_of_ne_nil hne
      have hnil : c = '0' → s = [] := fun hc => (List.cons.inj (hzero (congrArg some hc))).2
      have hnumber := scanNumber_decimal hall hnil ht
      rw [Option.some.inj h] at hnumber
      rw [← hnumber] at hn ⊢
      exact strtoul_of_digit (digit_of_lt (hall c List.mem_cons_self)).1 hn
    · cases h

/-- What is in front of the bracket. -/
theorem IsCellLine.eq {rest : List Char} (h : IsCellLine rest) :
    ∃ behind, rest = rest.takeWhile (· ≠ '>') ++ '>' :: behind ∧
      ∀ c ∈ '>' :: behind, isBlank c = false := by
  have hsplit : rest.takeWhile (· ≠ '>') ++ rest.dropWhile (· ≠ '>') = rest :=
    List.takeWhile_append_dropWhile
  have hbehind := h.behind
  rcases hdrop : rest.dropWhile (· ≠ '>') with _ | ⟨c, behind⟩
  · have hall := List.dropWhile_eq_nil_iff.mp hdrop _ h.bracket
    simp at hall
  · have hc := List.head?_dropWhile_not (· ≠ '>') rest
    rw [hdrop] at hc hsplit hbehind
    obtain rfl : c = '>' := by simpa using hc
    exact ⟨behind, hsplit.symm, hbehind⟩

/-- **The cells of a line** are read as the numbers that they stand for. -/
theorem cells_of_line {rest : List Char} (h : IsCellLine rest) :
    (cellTokens rest).map cell = lineCells rest := by
  obtain ⟨behind, hrest, hblank⟩ := h.eq
  have hcells := h.cells
  have hnot : ∀ w ∈ words isBlank (rest.takeWhile (· ≠ '>')), w.head? ≠ some '>' := by
    intro w hw hhead
    have hmem : '>' ∈ rest.takeWhile (· ≠ '>') :=
      (infix_of_mem_words hw).subset (List.mem_of_mem_head? hhead)
    simpa using List.mem_takeWhile_imp hmem
  rw [lineCells]
  generalize rest.takeWhile (· ≠ '>') = front at *
  subst hrest
  have hvalue : ∀ w ∈ words isBlank front, ∀ t : List Char, (∀ c ∈ t.head?, c = '>') →
      cell (w ++ t) = UInt32.ofNat ((literal w).getD 0) := by
    intro w hw t ht
    obtain ⟨n, hn, hlt⟩ := hcells w hw
    rw [cell, strtoul_literal hn hlt ht, hn]
    rfl
  rw [cellTokens]
  rcases words_append_last (s := front) hblank (by simp) with hwords | ⟨ws, w, hne, hfront, hwords⟩
  · -- the bracket stands alone
    rw [hwords, List.takeWhile_append_of_pos (by simpa using hnot)]
    have hstop : [('>' :: behind)].takeWhile (fun tok => tok.head? ≠ some '>') = [] := rfl
    rw [hstop, List.append_nil]
    refine List.map_congr_left fun w hw => ?_
    have h := hvalue w hw [] (by simp)
    rwa [List.append_nil] at h
  · -- the bracket belongs to the last cell
    rw [hfront] at hnot hvalue
    have hall : ∀ tok ∈ ws ++ [w ++ '>' :: behind], tok.head? ≠ some '>' := by
      intro tok htok
      rcases List.mem_append.mp htok with htok | htok
      · exact hnot tok (List.mem_append_left _ htok)
      · rw [List.mem_singleton.mp htok, List.head?_append_of_ne_nil _ hne]
        exact hnot w (List.mem_append_right _ List.mem_cons_self)
    rw [hwords, List.takeWhile_eq_self_iff.mpr (by simpa using hall), hfront, List.map_append,
      List.map_append]
    congr 1
    · refine List.map_congr_left fun v hv => ?_
      have h := hvalue v (List.mem_append_left _ hv) [] (by simp)
      rwa [List.append_nil] at h
    · rw [List.map_singleton, List.map_singleton]
      exact congrArg (fun v => [v])
        (hvalue w (List.mem_append_right _ List.mem_cons_self) ('>' :: behind) (by simp))

/-- A number has no angle brackets. -/
theorem ne_of_mem_literal {w : List Char} {n : ℕ} (h : literal w = some n) {c : Char}
    (hc : c ∈ w) : c ≠ '<' := by
  have hvalue : ∀ base ≤ 36, digitValue c < base → c ≠ '<' := by
    rintro base hbase hlt rfl
    have h36 : digitValue '<' = 36 := rfl
    omega
  rw [literal.eq_def] at h
  split at h
  · split at h
    · next hdigits =>
      rcases List.mem_cons.mp hc with rfl | hc
      · decide
      · rcases List.mem_cons.mp hc with rfl | hc
        · decide
        · exact hvalue 16 (by omega) (all_digits_iff.mp hdigits.2 c hc)
    · cases h
  · split at h
    · next hw => exact hvalue 10 (by omega) (all_digits_iff.mp hw.2.1 c hc)
    · cases h

/-- An opening bracket is behind the closing one, where there are no blanks. -/
theorem IsCellLine.not_blank_before {rest x y : List Char} (h : IsCellLine rest)
    (hrest : rest = x ++ '<' :: y) : ∃ c ∈ x.getLast?, isBlank c = false := by
  obtain ⟨behind, heq, hblank⟩ := h.eq
  have hfront : '<' ∉ rest.takeWhile (· ≠ '>') := by
    intro hmem
    obtain ⟨w, hw, hcw⟩ := exists_mem_words hmem (rfl : isBlank '<' = false)
    obtain ⟨n, hn, -⟩ := h.cells w hw
    exact ne_of_mem_literal hn hcw rfl
  generalize rest.takeWhile (· ≠ '>') = front at *
  rw [hrest] at heq
  rcases List.append_eq_append_iff.mp heq with ⟨z, rfl, hz⟩ | ⟨z, rfl, hz⟩
  · -- in front of the closing bracket
    rcases z with _ | ⟨c, z⟩
    · exact absurd (List.cons.inj hz).1 (by decide)
    · obtain rfl := (List.cons.inj hz).1
      exact absurd (List.mem_append_right _ List.mem_cons_self) hfront
  · rcases z with _ | ⟨c, z⟩
    · exact absurd (List.cons.inj hz).1 (by decide)
    · have hlast : (front ++ c :: z).getLast? = some ((c :: z).getLast (List.cons_ne_nil c z)) := by
        rw [List.getLast?_append_of_ne_nil _ (List.cons_ne_nil c z), List.getLast?_eq_some_getLast]
      refine ⟨_, hlast, hblank _ ?_⟩
      rw [hz]
      exact List.mem_append_left _ (List.getLast_mem _)

/-- A tag does not end behind another one whose line is one of cells. -/
theorem IsCellLine.length_le {line pre rest pre' rest' : List Char} (h : IsCellLine rest)
    (hline : line = pre ++ rest) (hline' : line = pre' ++ ' ' :: '<' :: rest') :
    (pre' ++ [' ', '<']).length ≤ pre.length := by
  by_contra hlong
  have hle : pre.length ≤ (pre' ++ [' ']).length := by
    simp only [List.length_append, List.length_cons, List.length_nil] at hlong ⊢
    omega
  have hprefix' : pre' ++ [' '] <+: line := ⟨'<' :: rest', by simp [hline']⟩
  obtain ⟨x, hx⟩ := List.prefix_of_prefix_length_le ⟨rest, hline.symm⟩ hprefix' hle
  have hsame : pre ++ rest = pre ++ (x ++ '<' :: rest') := by
    rw [← hline, ← List.append_assoc, hx, hline']
    simp
  have hrest : rest = x ++ '<' :: rest' := List.append_cancel_left hsame
  obtain ⟨c, hc, hblank⟩ := h.not_blank_before hrest
  have hlast : (pre ++ x).getLast? = some c := by
    rw [List.getLast?_append, hc]
    rfl
  rw [hx, List.getLast?_concat] at hlast
  obtain rfl := Option.some.inj hlast
  exact absurd hblank (by decide)

end OppoA37.DtbTool
