import Mathlib

/-!
# Text, as C and C++ programs take it apart

* `find` is where a text first occurs in another.
* `getLines` cuts a text at the ends of its lines, and `words` at separators.
* `scanInt` reads a whole number from the front of a text, and `scanPair` two of them.
* `IsDecimal` says which number some digits are.
* `padded` and `paddedInt` print a whole number, with zeros in front.
* `fixed` prints a rational number with some digits behind the point, and `readFixed` reads it.
-/

namespace Text

/-- `NUL`, which ends a string. -/
def NUL : Char := '\x00'

/-- A text without `NUL` does not end sooner. -/
theorem takeWhile_ne_nul {s : List Char} (h : NUL ∉ s) : s.takeWhile (· ≠ NUL) = s := by
  rw [List.takeWhile_eq_self_iff]
  intro c hc
  exact decide_eq_true (ne_of_mem_of_not_mem hc h)

/-! ## Finding -/

/-- Where a text first occurs. -/
def find (sub : List Char) : List Char → Option ℕ
  | [] => if sub.isPrefixOf [] then some 0 else none
  | c :: s => if sub.isPrefixOf (c :: s) then some 0 else (find sub s).map (· + 1)

/-- Nothing is found when the text does not occur. -/
theorem find_eq_none {sub s : List Char} : find sub s = none ↔ ¬ sub <:+: s := by
  induction s with
  | nil =>
    rw [find]
    split
    · rename_i h
      exact iff_of_false (Option.some_ne_none 0)
        (not_not_intro (List.isPrefixOf_iff_prefix.mp h).isInfix)
    · rename_i h
      refine iff_of_true rfl fun hin => h ?_
      rw [List.infix_nil.mp hin]
      rfl
  | cons c s ih =>
    rw [find, List.infix_cons_iff, not_or]
    split
    · rename_i h
      exact iff_of_false (Option.some_ne_none 0) fun hn => hn.1 (List.isPrefixOf_iff_prefix.mp h)
    · rename_i h
      rw [Option.map_eq_none_iff, ih]
      exact ⟨fun hn => ⟨fun hp => h (List.isPrefixOf_iff_prefix.mpr hp), hn⟩, fun hn => hn.2⟩

/-- It is found at the front when the string begins with it. -/
theorem find_eq_zero {sub s : List Char} : find sub s = some 0 ↔ sub <+: s := by
  cases s with
  | nil =>
    rw [find]
    split
    · rename_i h
      exact iff_of_true rfl (List.isPrefixOf_iff_prefix.mp h)
    · rename_i h
      exact iff_of_false (Option.some_ne_none 0).symm fun hp =>
        h (List.isPrefixOf_iff_prefix.mpr hp)
  | cons c s =>
    rw [find]
    split
    · rename_i h
      exact iff_of_true rfl (List.isPrefixOf_iff_prefix.mp h)
    · rename_i h
      refine iff_of_false ?_ fun hp => h (List.isPrefixOf_iff_prefix.mpr hp)
      cases find sub s <;> simp

/-- What is found is there. -/
theorem eq_of_find {sub s : List Char} {k : ℕ} (h : find sub s = some k) :
    s = s.take k ++ sub ++ s.drop (k + sub.length) := by
  induction s generalizing k with
  | nil =>
    rw [find] at h
    split at h
    · next hp =>
      obtain rfl := List.prefix_nil.mp (List.isPrefixOf_iff_prefix.mp hp)
      simp
    · cases h
  | cons c s ih =>
    rw [find] at h
    split at h
    · next hp =>
      obtain rfl := Option.some.inj h
      obtain ⟨t, ht⟩ := List.isPrefixOf_iff_prefix.mp hp
      simp [← ht]
    · obtain ⟨k, hk, rfl⟩ := Option.map_eq_some_iff.mp h
      have hs := ih hk
      rw [List.take_succ_cons, Nat.add_right_comm, List.drop_succ_cons, List.cons_append,
        List.cons_append, ← hs]

/-! ## Lines -/

/-- The lines of a text; the end of the last one need not be there. -/
def getLines (text : List Char) : List (List Char) :=
  let lines := text.splitOn '\n'
  if lines.getLast? = some [] then lines.dropLast else lines

/-- Lines that are written one after another are the lines of the text. -/
theorem getLines_flatMap {lines : List (List Char)} (h : ∀ line ∈ lines, '\n' ∉ line) :
    getLines (lines.flatMap (· ++ ['\n'])) = lines := by
  have htext : lines.flatMap (· ++ ['\n']) = ['\n'].intercalate (lines ++ [[]]) := by
    induction lines with
    | nil => rfl
    | cons line lines ih =>
      have hcons := ih fun l hl => h l (List.mem_cons_of_mem line hl)
      rw [List.flatMap_cons, hcons]
      cases lines with
      | nil => simp
      | cons l lines => simp
  have hlines : ∀ line ∈ lines ++ [[]], '\n' ∉ line := by
    rw [List.forall_mem_append, List.forall_mem_singleton]
    exact ⟨h, List.not_mem_nil⟩
  rw [getLines, htext, List.splitOn_intercalate '\n' hlines (by simp), List.getLast?_concat,
    List.dropLast_concat]
  exact if_pos rfl

/-! ## Words -/

/-- What is between separators, unless it is empty. -/
def words (sep : Char → Bool) (s : List Char) : List (List Char) :=
  (s.splitOnP sep).filter (· ≠ [])

/-- What is in front of the first separator, and what is between two of them, is part of the
text. -/
theorem infix_of_mem_splitOnP {sep : Char → Bool} (s : List Char) :
    (∀ w ∈ (s.splitOnP sep).head?, w <+: s) ∧ ∀ w ∈ s.splitOnP sep, w <:+: s := by
  induction s with
  | nil => simp
  | cons c s ih =>
    obtain ⟨hfront, hall⟩ := ih
    rw [List.splitOnP_cons_eq_if_modifyHead]
    split
    · refine ⟨by simp, fun w hw => ?_⟩
      rcases List.mem_cons.mp hw with rfl | hw
      · exact List.nil_infix
      · exact (hall w hw).trans (List.suffix_cons c s).isInfix
    · rcases hs : s.splitOnP sep with _ | ⟨w₀, ws⟩
      · exact absurd hs (List.splitOnP_ne_nil sep s)
      · rw [hs] at hfront hall
        have hcons : c :: w₀ <+: c :: s := (List.prefix_cons_inj c).mpr (hfront w₀ rfl)
        refine ⟨fun w hw => ?_, fun w hw => ?_⟩
        · obtain rfl : c :: w₀ = w := by simpa using hw
          exact hcons
        · rcases List.mem_cons.mp hw with rfl | hw
          · exact hcons.isInfix
          · exact (hall w (List.mem_cons_of_mem _ hw)).trans (List.suffix_cons c s).isInfix

/-- Words are parts of the text. -/
theorem infix_of_mem_words {sep : Char → Bool} {s w : List Char} (h : w ∈ words sep s) :
    w <:+: s :=
  (infix_of_mem_splitOnP s).2 w (List.mem_of_mem_filter h)

section Words

variable {sep : Char → Bool} {s t : List Char} {c : Char}

/-- A separator in front is skipped. -/
theorem words_cons_of_sep (hc : sep c = true) : words sep (c :: s) = words sep s := by
  rw [words, List.splitOnP_cons_eq_if_modifyHead, if_pos hc]
  exact List.filter_cons_of_neg (by simp)

/-- Separators in front are skipped. -/
theorem words_dropWhile : words sep (s.dropWhile sep) = words sep s := by
  induction s with
  | nil => rfl
  | cons c s ih =>
    rcases hc : sep c with _ | _
    · rw [List.dropWhile_cons_of_neg (by simp [hc])]
    · rw [List.dropWhile_cons_of_pos hc, ih, words_cons_of_sep hc]

/-- Characters in front that are no separators belong to what comes next. -/
theorem splitOnP_append (ht : ∀ c ∈ t, sep c = false) :
    (t ++ s).splitOnP sep = (s.splitOnP sep).modifyHead (t ++ ·) := by
  induction t with
  | nil => rcases hs : s.splitOnP sep with _ | ⟨w, ws⟩ <;> simp [hs]
  | cons c t ih =>
    rw [List.forall_mem_cons] at ht
    rw [List.cons_append, List.splitOnP_cons_eq_if_modifyHead, if_neg (by simp [ht.1]), ih ht.2]
    rcases s.splitOnP sep with _ | ⟨w, ws⟩ <;> rfl

/-- A word in front of a separator. -/
theorem words_append_cons (ht : ∀ c ∈ t, sep c = false) (hne : t ≠ []) (hc : sep c = true) :
    words sep (t ++ c :: s) = t :: words sep s := by
  rw [words, splitOnP_append ht, List.splitOnP_cons_eq_if_modifyHead, if_pos hc, words]
  simp [hne]

/-- A single word. -/
theorem words_of_forall (ht : ∀ c ∈ t, sep c = false) (hne : t ≠ []) : words sep t = [t] := by
  have hsplit := splitOnP_append (s := []) ht
  rw [List.append_nil] at hsplit
  rw [words, hsplit]
  simp [hne]

/-- Separators and nothing else. -/
theorem words_eq_nil (h : s.dropWhile sep = []) : words sep s = [] := by
  rw [← words_dropWhile, h]
  rfl

/-- The first word begins behind the separators in front, and ends at the next one. -/
theorem words_eq_cons (hs : s.dropWhile sep ≠ []) :
    (s.dropWhile sep).takeWhile (!sep ·) ≠ [] ∧
    words sep s = (s.dropWhile sep).takeWhile (!sep ·) ::
      words sep ((s.dropWhile sep).dropWhile (!sep ·)) := by
  rw [← words_dropWhile]
  have hsplit : (s.dropWhile sep).takeWhile (!sep ·) ++ (s.dropWhile sep).dropWhile (!sep ·) =
      s.dropWhile sep := List.takeWhile_append_dropWhile
  have hword : ∀ c ∈ (s.dropWhile sep).takeWhile (!sep ·), sep c = false := by
    intro c hc
    simpa using List.mem_takeWhile_imp hc
  have hne : (s.dropWhile sep).takeWhile (!sep ·) ≠ [] := by
    have hhead := List.head?_dropWhile_not sep s
    obtain ⟨c, t, ht⟩ := List.exists_cons_of_ne_nil hs
    rw [ht] at hhead ⊢
    have hc : sep c = false := by simpa using hhead
    rw [List.takeWhile_cons_of_pos (by simp [hc])]
    exact List.cons_ne_nil _ _
  refine ⟨hne, ?_⟩
  have hhead := List.head?_dropWhile_not (!sep ·) (s.dropWhile sep)
  generalize (s.dropWhile sep).takeWhile (!sep ·) = t at *
  generalize (s.dropWhile sep).dropWhile (!sep ·) = rest at *
  rw [← hsplit]
  rcases rest with _ | ⟨c, rest⟩
  · rw [List.append_nil, words_of_forall hword hne]
    rfl
  · have hc : sep c = true := by simpa using hhead
    rw [words_append_cons hword hne hc, words_cons_of_sep hc]

/-- What is put behind a text goes to its last part. -/
theorem splitOnP_append_last (ht : ∀ c ∈ t, sep c = false) :
    ∃ init last, s.splitOnP sep = init ++ [last] ∧
      (s ++ t).splitOnP sep = init ++ [last ++ t] := by
  induction s with
  | nil =>
    have hsplit := splitOnP_append (s := []) ht
    rw [List.append_nil] at hsplit
    exact ⟨[], [], by simp, by simp [hsplit]⟩
  | cons c s ih =>
    obtain ⟨init, last, hs, hst⟩ := ih
    rw [List.cons_append, List.splitOnP_cons_eq_if_modifyHead, List.splitOnP_cons_eq_if_modifyHead,
      hs, hst]
    rcases hc : sep c with _ | _
    · cases init with
      | nil => exact ⟨[], c :: last, by simp, by simp⟩
      | cons w ws => exact ⟨(c :: w) :: ws, last, by simp, by simp⟩
    · exact ⟨[] :: init, last, by simp, by simp⟩

/-- What is put behind a text is a word of its own, or the end of the last word. -/
theorem words_append_last (ht : ∀ c ∈ t, sep c = false) (hne : t ≠ []) :
    words sep (s ++ t) = words sep s ++ [t] ∨
    ∃ ws w, w ≠ [] ∧ words sep s = ws ++ [w] ∧ words sep (s ++ t) = ws ++ [w ++ t] := by
  obtain ⟨init, last, hs, hst⟩ := splitOnP_append_last (s := s) ht
  rw [words, words, hs, hst]
  rcases eq_or_ne last [] with rfl | hlast
  · exact Or.inl (by simp [hne])
  · exact Or.inr ⟨init.filter (· ≠ []), last, hlast, by simp [hlast], by simp [hlast]⟩

/-- What is no separator is in a word. -/
theorem exists_mem_words (hmem : c ∈ s) (hc : sep c = false) : ∃ w ∈ words sep s, c ∈ w := by
  have hsplit : ∃ w ∈ s.splitOnP sep, c ∈ w := by
    induction s with
    | nil => exact absurd hmem List.not_mem_nil
    | cons d s ih =>
      rw [List.splitOnP_cons_eq_if_modifyHead]
      rcases List.mem_cons.mp hmem with rfl | hmem
      · rw [if_neg (by simp [hc])]
        rcases hs : s.splitOnP sep with _ | ⟨w, ws⟩
        · exact absurd hs (List.splitOnP_ne_nil sep s)
        · exact ⟨c :: w, List.mem_cons_self, List.mem_cons_self⟩
      · obtain ⟨w, hw, hcw⟩ := ih hmem
        split
        · exact ⟨w, List.mem_cons_of_mem _ hw, hcw⟩
        · rcases hs : s.splitOnP sep with _ | ⟨w₀, ws⟩
          · exact absurd hs (List.splitOnP_ne_nil sep s)
          · rw [hs] at hw
            rcases List.mem_cons.mp hw with rfl | hw
            · exact ⟨d :: w, List.mem_cons_self, List.mem_cons_of_mem _ hcw⟩
            · exact ⟨w, List.mem_cons_of_mem _ hw, hcw⟩
  obtain ⟨w, hw, hcw⟩ := hsplit
  exact ⟨w, List.mem_filter.mpr ⟨hw, by simpa using List.ne_nil_of_mem hcw⟩, hcw⟩

end Words

/-! ## White space -/

/-- `isspace` -/
def isSpace (c : Char) : Bool := c = ' ' || (9 ≤ c.toNat && c.toNat ≤ 13)

/-- Without white space at both ends. -/
def trim (s : List Char) : List Char := ((s.dropWhile isSpace).rdropWhile isSpace)

/-- A digit is no white space. -/
theorem isSpace_of_isDigit {c : Char} (h : c.isDigit = true) : isSpace c = false := by
  have hge : 48 ≤ c.toNat := by
    rw [Char.isDigit, Bool.and_eq_true, decide_eq_true_eq] at h
    exact h.1
  have hne : c ≠ ' ' := by
    rintro rfl
    exact absurd hge (by decide)
  rw [isSpace, Bool.or_eq_false_iff]
  exact ⟨decide_eq_false hne, by simp; omega⟩

/-! ## Numbers -/

/-- These are the digits of a number; there may be zeros in front. -/
def IsDecimal (digits : List Char) (n : ℕ) : Prop :=
  digits ≠ [] ∧ digits.all Char.isDigit = true ∧ Nat.ofDigitChars 10 digits 0 = n

instance (digits : List Char) (n : ℕ) : Decidable (IsDecimal digits n) :=
  inferInstanceAs (Decidable (_ ∧ _ ∧ _))

/-- The number at the front of a text, behind white space and a sign. -/
def scanInt (s : List Char) : Option ℤ :=
  let s := s.dropWhile isSpace
  let negative := s.head? = some '-'
  let s := if s.head? = some '-' ∨ s.head? = some '+' then s.tail else s
  let digits := s.takeWhile Char.isDigit
  if digits = [] then none
  else
    let n : ℤ := Nat.ofDigitChars 10 digits 0
    some (if negative then -n else n)

/-- What is behind the number at the front of a text. -/
def afterInt (s : List Char) : List Char :=
  let s := s.dropWhile isSpace
  let s := if s.head? = some '-' ∨ s.head? = some '+' then s.tail else s
  s.dropWhile Char.isDigit

/-- Two numbers with a separator between them, as far as they are there. -/
def scanPair (sep : Char) (s : List Char) : List ℤ :=
  match scanInt s with
  | none => []
  | some a =>
    match afterInt s with
    | [] => [a]
    | c :: rest => if c = sep then a :: (scanInt rest).toList else [a]

/-- A number starts with a digit, and not with white space or a sign. -/
theorem IsDecimal.head {digits : List Char} {n : ℕ} (h : IsDecimal digits n) (rest : List Char) :
    (digits ++ rest).dropWhile isSpace = digits ++ rest ∧
      ¬ (digits ++ rest).head? = some '-' ∧ ¬ (digits ++ rest).head? = some '+' := by
  obtain ⟨hne, hall, rfl⟩ := h
  obtain ⟨c, tail, rfl⟩ := List.exists_cons_of_ne_nil hne
  have hc : c.isDigit = true := List.all_eq_true.mp hall c List.mem_cons_self
  refine ⟨?_, ?_, ?_⟩
  · rw [List.cons_append, List.dropWhile_cons_of_neg]
    rw [isSpace_of_isDigit hc]
    exact Bool.false_ne_true
  · intro heq
    cases heq
    exact absurd hc (by decide)
  · intro heq
    cases heq
    exact absurd hc (by decide)

variable {digits rest : List Char} {n : ℕ}

/-- Digits stand for less than a one with as many zeros; the digits that were read before count. -/
theorem ofDigitChars_lt (h : ∀ c ∈ digits, c.isDigit = true) (init : ℕ) :
    Nat.ofDigitChars 10 digits init < 10 ^ digits.length * (init + 1) := by
  induction digits generalizing init with
  | nil =>
    rw [Nat.ofDigitChars_nil, List.length_nil, pow_zero, one_mul]
    exact Nat.lt_succ_self init
  | cons c digits ih =>
    have hc := h c List.mem_cons_self
    have hle : c.toNat ≤ 57 := by
      rw [Char.isDigit, Bool.and_eq_true, decide_eq_true_eq, decide_eq_true_eq] at hc
      exact hc.2
    have hzero : '0'.toNat = 48 := rfl
    rw [Nat.ofDigitChars_cons, List.length_cons, pow_succ, mul_assoc]
    apply (ih (fun d hd => h d (List.mem_cons_of_mem c hd)) _).trans_le
    apply Nat.mul_le_mul_left
    omega

theorem IsDecimal.lt_pow (h : IsDecimal digits n) : n < 10 ^ digits.length := by
  obtain ⟨-, hall, rfl⟩ := h
  have hlt := ofDigitChars_lt (List.all_eq_true.mp hall) 0
  rwa [Nat.zero_add, mul_one] at hlt

/-- Digits in front of something else are read as their number. -/
theorem IsDecimal.scanInt_append (h : IsDecimal digits n)
    (hrest : rest.takeWhile Char.isDigit = []) : scanInt (digits ++ rest) = some (n : ℤ) := by
  obtain ⟨hspace, hminus, hplus⟩ := h.head rest
  obtain ⟨hne, hall, rfl⟩ := h
  have htake : (digits ++ rest).takeWhile Char.isDigit = digits := by
    rw [List.takeWhile_append_of_pos (List.all_eq_true.mp hall), hrest, List.append_nil]
  simp only [Text.scanInt, hspace, hminus, hplus, or_self, if_false, htake, hne]

/-- And what is behind them is left. -/
theorem IsDecimal.afterInt_append (h : IsDecimal digits n)
    (hrest : rest.takeWhile Char.isDigit = []) : afterInt (digits ++ rest) = rest := by
  obtain ⟨hspace, hminus, hplus⟩ := h.head rest
  simp only [afterInt, hspace, hminus, hplus, or_self, if_false]
  rw [List.dropWhile_append_of_pos (List.all_eq_true.mp h.2.1)]
  cases rest with
  | nil => rfl
  | cons c rest =>
    cases hc : c.isDigit with
    | false => exact List.dropWhile_cons_of_neg (by simp [hc])
    | true =>
      rw [List.takeWhile_cons_of_pos hc] at hrest
      cases hrest

/-- Digits are read as their number. -/
theorem IsDecimal.scanInt (h : IsDecimal digits n) : scanInt digits = some (n : ℤ) := by
  have happend := @IsDecimal.scanInt_append digits [] n h rfl
  rwa [List.append_nil] at happend

/-- Two numbers are read. -/
theorem scanPair_append {sep : Char} {whole fraction : List Char} {m : ℕ}
    (hwhole : IsDecimal whole m) (hfraction : IsDecimal fraction n) (hsep : sep.isDigit = false) :
    scanPair sep (whole ++ sep :: fraction) = [(m : ℤ), (n : ℤ)] := by
  have hrest : (sep :: fraction).takeWhile Char.isDigit = [] :=
    List.takeWhile_cons_of_neg (by simp [hsep])
  simp only [scanPair, hwhole.scanInt_append hrest, hwhole.afterInt_append hrest, if_true,
    hfraction.scanInt, Option.toList_some]

/-! ## Printing -/

/-- The digits of a number, with zeros in front up to a width. -/
def padded (w n : ℕ) : List Char :=
  List.replicate (w - (Nat.toDigits 10 n).length) '0' ++ Nat.toDigits 10 n

/-- `%0wd` of `printf`: the sign counts for the width. -/
def paddedInt (w : ℕ) (n : ℤ) : List Char :=
  if n < 0 then '-' :: padded (w - 1) n.natAbs else padded w n.natAbs

theorem length_padded_le {w n k : ℕ} (hw : w ≤ k) (hk : 0 < k) (hn : n < 10 ^ k) :
    (padded w n).length ≤ k := by
  have hlen := (Nat.length_toDigits_le_iff Nat.one_lt_ofNat hk).mpr hn
  rw [padded, List.length_append, List.length_replicate]
  omega

/-- A whole number of few digits takes little space. -/
theorem length_paddedInt_le {w k : ℕ} {n : ℤ} (hw : w ≤ k + 1) (hk : 0 < k)
    (hlow : -(10 ^ k : ℤ) < n) (hhigh : n < 10 ^ (k + 1)) : (paddedInt w n).length ≤ k + 1 := by
  rw [paddedInt]
  split
  · have hlen := @length_padded_le (w - 1) n.natAbs k (by omega) hk (by zify; rw [abs_lt]; omega)
    rw [List.length_cons]
    omega
  · exact length_padded_le hw (Nat.succ_pos k) (by zify; rw [abs_lt]; omega)

/-- A number is written with digits. -/
theorem isDigit_of_mem_toDigits {n : ℕ} {c : Char} (h : c ∈ Nat.toDigits 10 n) :
    c.isDigit = true :=
  Nat.isDigit_of_mem_toDigits (Nat.succ_pos 9) le_rfl h

theorem isDigit_of_mem_padded {w n : ℕ} {c : Char} (h : c ∈ padded w n) : c.isDigit = true := by
  rcases List.mem_append.mp h with h | h
  · rw [List.eq_of_mem_replicate h]
    rfl
  · exact isDigit_of_mem_toDigits h

/-- Zeros in front do not count. -/
theorem ofDigitChars_padded (w n : ℕ) : Nat.ofDigitChars 10 (padded w n) 0 = n := by
  rw [padded, Nat.ofDigitChars_append, Nat.ofDigitChars_replicate_zero, Nat.mul_zero,
    Nat.ofDigitChars_ten_toDigits]

/-- A number that is small enough has the width that is asked for. -/
theorem length_padded {w n : ℕ} (hw : 0 < w) (hn : n < 10 ^ w) : (padded w n).length = w := by
  have hlen := (Nat.length_toDigits_le_iff Nat.one_lt_ofNat hw).mpr hn
  rw [padded, List.length_append, List.length_replicate]
  omega

theorem paddedInt_natCast (w n : ℕ) : paddedInt w n = padded w n := by
  rw [paddedInt, if_neg (by omega), Int.natAbs_natCast]

/-! ## Printing without a width -/

theorem toList_toString_nat (n : ℕ) : (toString n).toList = Nat.toDigits 10 n := by
  show (Nat.repr n).toList = _
  rw [Nat.repr]
  simp

theorem toList_toString_int (n : ℤ) : (toString n).toList = paddedInt 0 n := by
  cases n with
  | ofNat m =>
    show (Nat.repr m).toList = _
    simp [paddedInt, padded, Nat.repr]
  | negSucc m =>
    show ("-" ++ Nat.repr (m + 1)).toList = _
    simp [paddedInt, padded, Nat.repr]

theorem length_toString_nat_le_iff {n k : ℕ} (hk : 0 < k) :
    (toString n).toList.length ≤ k ↔ n < 10 ^ k := by
  rw [toList_toString_nat, Nat.length_toDigits_le_iff Nat.one_lt_ofNat hk]

theorem length_toString_int_le_iff {n : ℤ} {k : ℕ} (hk : 0 < k) :
    (toString n).toList.length ≤ k + 1 ↔ -10 ^ k < n ∧ n < 10 ^ (k + 1) := by
  rcases lt_or_ge n 0 with hneg | hnonneg
  · have hlarge : (0 : ℤ) < 10 ^ (k + 1) := by positivity
    rw [toList_toString_int, paddedInt, if_pos hneg, List.length_cons, Nat.add_le_add_iff_right,
      padded, Nat.zero_sub, List.replicate_zero, List.nil_append,
      Nat.length_toDigits_le_iff Nat.one_lt_ofNat hk]
    zify
    rw [abs_of_neg hneg]
    omega
  · obtain ⟨m, rfl⟩ := Int.eq_ofNat_of_zero_le hnonneg
    have hsmall : -(10 : ℤ) ^ k < m := by
      have hpos : (0 : ℤ) < 10 ^ k := by positivity
      omega
    have hcast : (m : ℤ) < 10 ^ (k + 1) ↔ m < 10 ^ (k + 1) := by exact_mod_cast Iff.rfl
    rw [hcast, and_iff_right hsmall, ← length_toString_nat_le_iff (Nat.succ_pos k)]
    rfl

/-! ## Fixed point -/

/-- The nearest whole number, and of two the even one. -/
def roundHalfEven (x : ℚ) : ℤ :=
  let n := ⌊x⌋
  if x - n < 1 / 2 then n
  else if 1 / 2 < x - n then n + 1
  else if n % 2 = 0 then n else n + 1

/-- Rounding changes a number by a half at most. -/
theorem abs_roundHalfEven_sub_le (x : ℚ) : |(roundHalfEven x : ℚ) - x| ≤ 1 / 2 := by
  have hle := Int.floor_le x
  have hlt := Int.lt_floor_add_one x
  rw [abs_le]
  unfold roundHalfEven
  dsimp only
  split_ifs
  all_goals push_cast
  all_goals constructor
  all_goals linarith

/-- What is rounded to less than an even number is below it by more than a half. -/
theorem roundHalfEven_lt {x : ℚ} {n : ℤ} (hn : n % 2 = 0) :
    roundHalfEven x < n ↔ x < n - 1 / 2 := by
  have hle := Int.floor_le x
  have hlt := Int.lt_floor_add_one x
  constructor
  · intro h
    by_contra hge
    rw [not_lt] at hge
    have hfloor : n - 1 ≤ ⌊x⌋ := by
      rw [Int.le_floor]
      push_cast
      linarith
    unfold roundHalfEven at h
    dsimp only at h
    have heq : ⌊x⌋ = n - 1 := by
      split_ifs at h <;> omega
    rw [heq] at h
    push_cast at h
    rw [if_neg (by linarith)] at h
    split_ifs at h
    · omega
    · omega
    · omega
  · intro h
    have habs := (abs_le.mp (abs_roundHalfEven_sub_le x)).2
    have hcast : (roundHalfEven x : ℚ) < n := by linarith
    exact_mod_cast hcast

theorem roundHalfEven_nonneg {x : ℚ} (hx : 0 ≤ x) : 0 ≤ roundHalfEven x := by
  have hfloor : 0 ≤ ⌊x⌋ := Int.floor_nonneg.mpr hx
  unfold roundHalfEven
  dsimp only
  split_ifs <;> omega

/-- `%0w.df` of `printf`: `d` digits behind the point, and zeros behind the sign. -/
def fixed (w d : ℕ) (x : ℚ) : List Char :=
  let n := (roundHalfEven (|x| * 10 ^ d)).toNat
  let sign := if x < 0 then ['-'] else []
  let digits := Nat.toDigits 10 (n / 10 ^ d) ++ '.' :: padded d (n % 10 ^ d)
  sign ++ List.replicate (w - sign.length - digits.length) '0' ++ digits

/-- How many characters a number with a point takes. -/
theorem length_fixed_le_iff {d k : ℕ} {x : ℚ} (hd : 0 < d) (hk : 0 < k) (hx : 0 ≤ x) :
    (fixed 0 d x).length ≤ k + 1 + d ↔ x * 10 ^ d < 10 ^ (k + d) - 1 / 2 := by
  have hround : 0 ≤ roundHalfEven (x * 10 ^ d) := roundHalfEven_nonneg (by positivity)
  obtain ⟨n, hn⟩ := Int.eq_ofNat_of_zero_le hround
  have hmod : n % 10 ^ d < 10 ^ d := Nat.mod_lt _ (by positivity)
  have heven : (10 : ℤ) ^ (k + d) % 2 = 0 := by
    rw [← Int.even_iff]
    exact (by decide : Even (10 : ℤ)).pow_of_ne_zero (by omega)
  have hlt := @roundHalfEven_lt (x * 10 ^ d) (10 ^ (k + d)) heven
  push_cast at hlt
  rw [← hlt, hn, fixed, abs_of_nonneg hx, hn, if_neg (not_lt.mpr hx)]
  dsimp only [Int.toNat_natCast]
  rw [Nat.zero_sub, Nat.zero_sub, List.replicate_zero, List.nil_append, List.nil_append,
    List.length_append, List.length_cons, length_padded hd hmod]
  have hdigits : (Nat.toDigits 10 (n / 10 ^ d)).length ≤ k ↔ n < 10 ^ (k + d) := by
    rw [Nat.length_toDigits_le_iff Nat.one_lt_ofNat hk, Nat.div_lt_iff_lt_mul (by positivity),
      pow_add]
  have hcast : (n : ℤ) < 10 ^ (k + d) ↔ n < 10 ^ (k + d) := by exact_mod_cast Iff.rfl
  rw [hcast, ← hdigits]
  omega
/-- The number that is written with a point. -/
def readFixed (s : List Char) : ℚ :=
  let whole := s.takeWhile (· ≠ '.')
  let fraction := (s.dropWhile (· ≠ '.')).tail
  (Nat.ofDigitChars 10 (whole ++ fraction) 0 : ℚ) / 10 ^ fraction.length

theorem readFixed_point {whole fraction : List Char} (h : ∀ c ∈ whole, c.isDigit = true) :
    readFixed (whole ++ '.' :: fraction) =
      (Nat.ofDigitChars 10 (whole ++ fraction) 0 : ℚ) / 10 ^ fraction.length := by
  have hwhole : ∀ c ∈ whole, decide (c ≠ '.') = true := by
    intro c hc
    apply decide_eq_true
    rintro rfl
    exact absurd (h _ hc) (by decide)
  have htake : (whole ++ '.' :: fraction).takeWhile (· ≠ '.') = whole := by
    rw [List.takeWhile_append_of_pos hwhole]
    simp
  have hdrop : (whole ++ '.' :: fraction).dropWhile (· ≠ '.') = '.' :: fraction := by
    rw [List.dropWhile_append_of_pos hwhole]
    simp
  rw [readFixed, htake, hdrop]
  rfl

/-- Digits that are split are put together again. -/
theorem ofDigitChars_split {whole : List Char} {d n : ℕ} (hd : 0 < d)
    (hwhole : Nat.ofDigitChars 10 whole 0 = n / 10 ^ d) :
    Nat.ofDigitChars 10 (whole ++ padded d (n % 10 ^ d)) 0 = n := by
  have hmod : n % 10 ^ d < 10 ^ d := Nat.mod_lt _ (by positivity)
  rw [Nat.ofDigitChars_append, hwhole, Nat.ofDigitChars_eq_ofDigitChars_zero, length_padded hd hmod,
    ofDigitChars_padded, Nat.div_add_mod]

/-- What is written is read as the rounded number. -/
theorem readFixed_fixed {w d : ℕ} {x : ℚ} (hd : 0 < d) (hx : 0 ≤ x) :
    readFixed (fixed w d x) = roundHalfEven (x * 10 ^ d) / 10 ^ d := by
  have hround : 0 ≤ roundHalfEven (x * 10 ^ d) := roundHalfEven_nonneg (by positivity)
  obtain ⟨n, hn⟩ := Int.eq_ofNat_of_zero_le hround
  have hmod : n % 10 ^ d < 10 ^ d := Nat.mod_lt _ (by positivity)
  rw [fixed, abs_of_nonneg hx, hn, if_neg (not_lt.mpr hx)]
  dsimp only [Int.toNat_natCast]
  rw [List.nil_append, ← List.append_assoc, readFixed_point, ofDigitChars_split hd,
    length_padded hd hmod]
  · rfl
  · rw [Nat.ofDigitChars_append, Nat.ofDigitChars_replicate_zero, Nat.mul_zero,
      Nat.ofDigitChars_ten_toDigits]
  · intro c hc
    rcases List.mem_append.mp hc with hc | hc
    · rw [List.eq_of_mem_replicate hc]
      rfl
    · exact isDigit_of_mem_toDigits hc

/-- Digits, a sign and a point are all that is written. -/
theorem mem_fixed {w d : ℕ} {x : ℚ} {c : Char} (h : c ∈ fixed w d x) :
    c.isDigit = true ∨ c = '-' ∨ c = '.' := by
  rw [fixed] at h
  rcases List.mem_append.mp h with h | h
  · rcases List.mem_append.mp h with h | h
    · split at h
      · exact Or.inr (Or.inl (List.mem_singleton.mp h))
      · exact absurd h List.not_mem_nil
    · rw [List.eq_of_mem_replicate h]
      exact Or.inl rfl
  · rcases List.mem_append.mp h with h | h
    · exact Or.inl (isDigit_of_mem_toDigits h)
    · rcases List.mem_cons.mp h with rfl | h
      · exact Or.inr (Or.inr rfl)
      · exact Or.inl (isDigit_of_mem_padded h)

end Text
