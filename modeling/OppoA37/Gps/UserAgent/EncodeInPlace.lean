import OppoA37.Lib.CString
import OppoA37.Lib.Loop
import OppoA37.Lib.Percent

/-!
# The user agent: encoding in place

`encodeInPlace` writes a string with its separators encoded to an array on the stack, as far as
there is room, and copies it back. A code that does not fit ends the loop.

* `encodeTurn_spec` is a turn of the loop: it goes on, or ends where there is no room.
* `encode_in_place` says that the longest beginning that fits comes out, and can be decoded.
-/

namespace OppoA37.UserAgent

open CString Loop Percent Text

/-! ## The function -/

/-- An `ENCODE`. -/
structure Encode where
  /-- `ch` -/
  ch : Char
  /-- `code` -/
  code : List Char
  deriving DecidableEq, Repr

/-- `encodings` -/
def encodings : List Encode :=
  [⟨'/', "%2F".toList⟩, ⟨'+', "%2B".toList⟩, ⟨'|', "%7C".toList⟩, ⟨'%', "%25".toList⟩]

/-- `NUM_CHARS_IN_CODE` -/
def NUM_CHARS_IN_CODE : ℕ := 3

/-- Where the loop is. -/
structure EncodeState where
  /-- `buffer` -/
  buffer : Block Char
  /-- `inpos` -/
  inpos : ℕ
  /-- `outpos` -/
  outpos : ℕ

/-- The loop over the characters of a code, as long as there is room. -/
def copyCode (size : ℤ) : List Char → Block Char × ℕ → Option (Block Char × ℕ)
  | [], out => some out
  | c :: code, (buffer, outpos) =>
    if outpos < size - 1 then do
      let buffer ← buffer.write outpos c
      copyCode size code (buffer, outpos + 1)
    else some (buffer, outpos)

/-- A turn of the loop; `none` if it leaves an array. -/
def encodeTurn (value : Block Char) (size : ℤ) (s : EncodeState) :
    Option (EncodeState ⊕ EncodeState) :=
  if s.inpos < value.size then
    let ch := value.get s.inpos
    if ch ≠ NUL ∧ s.outpos < size - 1 then
      let escchar := encodings.findIdx fun e => e.ch = ch
      match encodings[escchar]? with
      -- `escchar` is `nencodings`
      | none => do
        let buffer ← s.buffer.write s.outpos ch
        some (.inl ⟨buffer, s.inpos + 1, s.outpos + 1⟩)
      | some e =>
        -- there is no room for the code
        if s.outpos + NUM_CHARS_IN_CODE ≥ size then some (.inr s)
        else do
          let (buffer, outpos) ← copyCode size (e.code.take NUM_CHARS_IN_CODE) (s.buffer, s.outpos)
          some (.inl ⟨buffer, s.inpos + 1, outpos⟩)
    else some (.inr s)
  else none

/-- The loop that copies `buffer` to `value`, from behind. -/
def copyBack (buffer : Block Char) : ℕ → Block Char → Option (Block Char)
  | 0, value => some value
  | outpos + 1, value =>
    if outpos < buffer.size then do
      let value ← value.write outpos (buffer.get outpos)
      copyBack buffer outpos value
    else none

/-- `encodeInPlace`, if its loop takes no more than these turns: `value` afterwards, unless an array
was left. `buffer` is as it was on the stack. -/
def encodeInPlace (turns : ℕ) (value : Block Char) (size : ℤ) (buffer : Block Char) :
    Option (Option (Block Char)) :=
  (run (fallible (encodeTurn value size)) turns ⟨buffer, 0, 0⟩).map fun state => do
    let s ← state
    let value ← value.write s.outpos NUL
    copyBack s.buffer s.outpos value

/-! ## What is claimed -/

/-- The characters that are encoded. -/
def isSeparator (c : Char) : Bool := c ∈ ['/', '+', '|', '%']

/-- What a character is encoded by. -/
def codeOf (c : Char) : List Char :=
  match c with
  | '/' => "%2F".toList
  | '+' => "%2B".toList
  | '|' => "%7C".toList
  | '%' => "%25".toList
  | c => [c]

/-- What comes out of a string when there is room for so many characters and the `NUL`. -/
structure InPlace (size : ℤ) (t kept result : List Char) : Prop where
  /-- the longest beginning that fits is kept -/
  longest : IsLongestFitting codeOf (size - 1).toNat t kept
  /-- it is encoded -/
  encoded : result = kept.flatMap codeOf
  /-- there is room for the `NUL` -/
  room : (result.length : ℤ) < size
  /-- there is no separator -/
  noSeparator : '/' ∉ result ∧ '+' ∉ result ∧ '|' ∉ result
  /-- no code is cut off -/
  whole : Whole isSeparator result
  /-- it can be decoded -/
  decodes : decode result = kept

variable {value buffer : Block Char} {size : ℤ} {t : List Char} {c : Char} {s : EncodeState}

/-! ## Codes -/

theorem isSeparator_iff : isSeparator c = true ↔ c = '/' ∨ c = '+' ∨ c = '|' ∨ c = '%' := by
  rw [isSeparator, decide_eq_true_eq]
  simp only [List.mem_cons, List.not_mem_nil, or_false]

theorem codeOf_of_not_separator (h : isSeparator c = false) : codeOf c = [c] := by
  rw [codeOf] <;> rintro rfl <;> cases h

/-- This is percent encoding. -/
theorem codeOf_eq (c : Char) : codeOf c = encodeChar isSeparator c := by
  cases h : isSeparator c with
  | true => rcases isSeparator_iff.mp h with rfl | rfl | rfl | rfl <;> rfl
  | false =>
    rw [encodeChar, h]
    exact codeOf_of_not_separator h

/-- What the loop over `encodings` finds. -/
theorem getElem?_encodings (c : Char) : encodings[encodings.findIdx fun e => e.ch = c]? =
    if isSeparator c then some ⟨c, codeOf c⟩ else none := by
  cases h : isSeparator c with
  | true => rcases isSeparator_iff.mp h with rfl | rfl | rfl | rfl <;> rfl
  | false =>
    have hnone : ∀ e ∈ encodings, decide (e.ch = c) = false := by
      intro e he
      refine decide_eq_false ?_
      rintro rfl
      rw [encodings] at he
      simp only [List.mem_cons, List.not_mem_nil, or_false] at he
      rcases he with rfl | rfl | rfl | rfl <;> cases h
    rw [List.findIdx_eq_length_of_false hnone, List.getElem?_eq_none le_rfl]
    rfl

/-- A code has three characters. -/
theorem length_codeOf (c : Char) : (codeOf c).length = if isSeparator c then 3 else 1 := by
  rw [codeOf_eq, encodeChar]
  split_ifs <;> rfl

/-- A code that fits is copied. -/
theorem copyCode_eq {code : List Char} {outpos : ℕ}
    (h : (outpos : ℤ) + code.length ≤ size - 1) : copyCode size code (buffer, outpos) =
      (buffer.writeList outpos code).map fun buffer => (buffer, outpos + code.length) := by
  induction code generalizing buffer outpos with
  | nil => rfl
  | cons c code ih =>
    rw [List.length_cons] at h ⊢
    push_cast at h
    rw [copyCode, if_pos (by omega), Block.writeList]
    cases hwrite : buffer.write outpos c with
    | none => rfl
    | some b =>
      have hcode : ((outpos + 1 : ℕ) : ℤ) + code.length ≤ size - 1 := by
        push_cast
        omega
      rw [Option.bind_eq_bind, Option.bind_some, Option.bind_some, ih hcode, Nat.add_assoc,
        Nat.add_comm 1]

/-! ## The loop -/

/-- **A turn** writes the code of a character, if there is room. -/
theorem encodeTurn_eq (hin : s.inpos < value.size) (hget : value.get s.inpos = c) (hc : c ≠ NUL) :
    encodeTurn value size s =
      if (s.outpos : ℤ) + (codeOf c).length ≤ size - 1 then
        (s.buffer.writeList s.outpos (codeOf c)).map fun buffer =>
          .inl ⟨buffer, s.inpos + 1, s.outpos + (codeOf c).length⟩
      else some (.inr s) := by
  rw [encodeTurn, if_pos hin, hget]
  dsimp only
  rw [getElem?_encodings, length_codeOf]
  by_cases hroom : (s.outpos : ℤ) < size - 1
  · rw [if_pos ⟨hc, hroom⟩]
    cases hsep : isSeparator c with
    | true =>
      have hthree : (codeOf c).length = 3 := by rw [length_codeOf, hsep]; rfl
      have htake : (codeOf c).take NUM_CHARS_IN_CODE = codeOf c :=
        List.take_of_length_le hthree.le
      simp only [if_true, htake]
      by_cases hfits : (s.outpos : ℤ) + (3 : ℕ) ≤ size - 1
      · have hcopy : copyCode size (codeOf c) (s.buffer, s.outpos) =
            (s.buffer.writeList s.outpos (codeOf c)).map fun buffer =>
              (buffer, s.outpos + (codeOf c).length) := copyCode_eq (by omega)
        have hnot : ¬ (s.outpos : ℤ) + NUM_CHARS_IN_CODE ≥ size := by
          rw [NUM_CHARS_IN_CODE]
          omega
        rw [if_neg hnot, if_pos hfits, hcopy, hthree]
        cases s.buffer.writeList s.outpos (codeOf c) <;> rfl
      · have hover : (s.outpos : ℤ) + NUM_CHARS_IN_CODE ≥ size := by
          rw [NUM_CHARS_IN_CODE]
          omega
        rw [if_pos hover, if_neg hfits]
    | false =>
      have hone : (s.outpos : ℤ) + 1 ≤ size - 1 := by omega
      rw [codeOf_of_not_separator hsep]
      simp only [Bool.false_eq_true, if_false, Nat.cast_one, if_pos hone, Block.writeList]
      cases s.buffer.write s.outpos c <;> rfl
  · have hnot : ¬ (s.outpos : ℤ) + ((if isSeparator c then 3 else 1 : ℕ) : ℤ) ≤ size - 1 := by
      split_ifs <;> push_cast <;> omega
    rw [if_neg fun h => hroom h.2, if_neg hnot]

/-- A turn at the end of the string. -/
theorem encodeTurn_nul (hin : s.inpos < value.size) (hget : value.get s.inpos = NUL) :
    encodeTurn value size s = some (.inr s) := by
  rw [encodeTurn, if_pos hin, hget]
  exact if_neg fun h => h.1 rfl

/-- The loop in a string: `pre` is encoded, and `rest` is left. -/
structure Encoded (size : ℤ) (t : List Char) (s : EncodeState) (pre rest : List Char) : Prop where
  text : t = pre ++ rest
  inpos : s.inpos = pre.length
  outpos : s.outpos = (pre.flatMap codeOf).length
  cells : (List.range s.outpos).map s.buffer.get = pre.flatMap codeOf
  room : (s.outpos : ℤ) ≤ size - 1
  size : (s.buffer.size : ℤ) = size

variable {pre rest : List Char}

/-- What is left of the string is there. -/
theorem Encoded.left (h : Encoded size t s pre rest) (hvalue : StringAt value 0 t) :
    StringAt value s.inpos rest := by
  rw [h.inpos, ← Nat.zero_add pre.length]
  exact StringAt.of_append (h.text ▸ hvalue)

/-- One more character. -/
theorem Encoded.step (h : Encoded size t s pre (c :: rest)) (hvalue : StringAt value 0 t)
    (hfits : (s.outpos : ℤ) + (codeOf c).length ≤ size - 1) :
    ∃ s', encodeTurn value size s = some (.inl s') ∧ Encoded size t s' (pre ++ [c]) rest := by
  have hleft := h.left hvalue
  have hin : s.inpos < value.size := (Nat.le_add_right _ _).trans_lt hleft.room
  obtain ⟨hget, hc, -⟩ := hleft.of_cons
  obtain ⟨rfl, hinpos, houtpos, hcells, hroom, hsize⟩ := h
  obtain ⟨buffer, hwrite, hsize', hcells'⟩ :=
    Block.writeList_of_le (by omega : s.outpos + (codeOf c).length ≤ s.buffer.size)
  refine ⟨⟨buffer, s.inpos + 1, s.outpos + (codeOf c).length⟩, ?_, ?_⟩
  · rw [encodeTurn_eq hin hget hc, if_pos hfits, hwrite]
    rfl
  · have hcode : (pre ++ [c]).flatMap codeOf = pre.flatMap codeOf ++ codeOf c := by
      rw [List.flatMap_append, List.flatMap_singleton]
    refine ⟨by rw [List.append_assoc]; rfl, ?_, ?_, ?_, ?_, ?_⟩
    · rw [List.length_append, hinpos]
      rfl
    · rw [hcode, List.length_append, houtpos]
    · rw [hcode, ← hcells]
      exact hcells'
    · push_cast
      exact hfits
    · rw [hsize', hsize]

/-- **The loop** ends with the longest beginning that fits. -/
theorem encodeLoop_spec (hpos : 1 ≤ size) (hbuffer : (buffer.size : ℤ) = size)
    (hvalue : StringAt value 0 t) :
    ∃ turns s, run (fallible (encodeTurn value size)) turns ⟨buffer, 0, 0⟩ = some (some s) ∧
      ∃ pre rest, Encoded size t s pre rest ∧
        IsLongestFitting codeOf (size - 1).toNat t pre := by
  have hstart : ∃ pre rest, Encoded size t ⟨buffer, 0, 0⟩ pre rest :=
    ⟨[], t, rfl, rfl, rfl, rfl, by simpa using hpos, hbuffer⟩
  refine exists_run_fallible (I := fun s => ∃ pre rest, Encoded size t s pre rest)
    (fun s => t.length - s.inpos) ?_ hstart
  rintro s ⟨pre, rest, h⟩
  have hleft := h.left hvalue
  have hin : s.inpos < value.size := (Nat.le_add_right _ _).trans_lt hleft.room
  have hroom := h.room
  have hfits : (pre.flatMap codeOf).length ≤ (size - 1).toNat := by
    rw [← h.outpos]
    omega
  cases rest with
  | nil =>
    refine Or.inr ⟨s, encodeTurn_nul hin hleft.terminated, pre, [], h, ?_⟩
    rw [h.text]
    exact isLongestFitting_of_next hfits fun a ha => by cases ha
  | cons c rest =>
    by_cases hcode : (s.outpos : ℤ) + (codeOf c).length ≤ size - 1
    · obtain ⟨s', hturn, hs'⟩ := h.step hvalue hcode
      refine Or.inl ⟨s', hturn, ⟨pre ++ [c], rest, hs'⟩, ?_⟩
      rw [hs'.inpos, h.inpos, h.text]
      simp only [List.length_append, List.length_cons, List.length_nil]
      omega
    · -- there is no room for the code of `c`
      obtain ⟨hget, hc, -⟩ := hleft.of_cons
      refine Or.inr ⟨s, ?_, pre, c :: rest, h, ?_⟩
      · rw [encodeTurn_eq hin hget hc, if_neg hcode]
      · rw [h.text]
        refine isLongestFitting_of_next hfits fun a ha => ?_
        obtain rfl := Option.some.inj ha
        rw [← h.outpos]
        omega

/-! ## The way back -/

/-- `buffer` comes to the front of `value`. -/
theorem copyBack_spec {n : ℕ} (hbuffer : n ≤ buffer.size) (hvalue : n ≤ value.size) :
    ∃ value', copyBack buffer n value = some value' ∧ value'.size = value.size ∧
      (∀ i < n, value'.get i = buffer.get i) ∧ ∀ i, n ≤ i → value'.get i = value.get i := by
  induction n generalizing value with
  | zero => exact ⟨value, rfl, rfl, fun i hi => absurd hi (Nat.not_lt_zero i), fun _ _ => rfl⟩
  | succ n ih =>
    obtain ⟨value', hcopy, hsize, hfront, hbehind⟩ :=
      @ih { value with get := Function.update value.get n (buffer.get n) }
        (Nat.le_of_succ_le hbuffer) (Nat.le_of_succ_le hvalue)
    refine ⟨value', ?_, hsize, fun i hi => ?_, fun i hi => ?_⟩
    · rw [copyBack, if_pos (Nat.lt_of_succ_le hbuffer), Block.write,
        if_pos (Nat.lt_of_succ_le hvalue), Option.bind_eq_bind,
        Option.bind_some, hcopy]
    · rcases Nat.lt_succ_iff_lt_or_eq.mp hi with hlt | rfl
      · exact hfront i hlt
      · rw [hbehind i le_rfl]
        exact Function.update_self _ _ _
    · rw [hbehind i (Nat.le_of_succ_le hi)]
      exact Function.update_of_ne (Nat.lt_of_succ_le hi).ne' _ _

/-- A code has no `NUL`. -/
theorem nul_notMem_codeOf (hc : c ≠ NUL) : NUL ∉ codeOf c := by
  cases h : isSeparator c with
  | true => rcases isSeparator_iff.mp h with rfl | rfl | rfl | rfl <;> decide
  | false =>
    rw [codeOf_of_not_separator h, List.mem_singleton]
    exact hc.symm

theorem toNat_lt_of_isSeparator (c : Char) (h : isSeparator c = true) : c.toNat < 256 := by
  rcases isSeparator_iff.mp h with rfl | rfl | rfl | rfl <;> decide

/-- No digit is a separator. -/
theorem isSeparator_hexDigit : ∀ n < 16, isSeparator (hexDigit n) = false := by decide

/-- What is encoded is as claimed. -/
theorem inPlace_of_longest {kept : List Char} (hpos : 1 ≤ size)
    (h : IsLongestFitting codeOf (size - 1).toNat t kept) :
    InPlace size t kept (kept.flatMap codeOf) := by
  have hcode : codeOf = encodeChar isSeparator := funext codeOf_eq
  have hno : ∀ d, isSeparator d = true → d ≠ '%' → d ∉ kept.flatMap codeOf := by
    intro d hd hne
    rw [hcode]
    exact not_mem_encode isSeparator_hexDigit toNat_lt_of_isSeparator hd hne kept
  have hfits := h.fits
  refine ⟨h, rfl, by omega, ?_, ?_, ?_⟩
  · exact ⟨hno '/' rfl (by decide), hno '+' rfl (by decide), hno '|' rfl (by decide)⟩
  · rw [hcode]
    exact whole_encode rfl toNat_lt_of_isSeparator kept
  · rw [hcode]
    exact decode_encode rfl toNat_lt_of_isSeparator kept

/-- **A string is encoded in place**, the longest beginning of it that fits. -/
theorem encode_in_place (value buffer : Block Char) (size : ℤ) (t : List Char) (hpos : 1 ≤ size)
    (hsize : size ≤ value.size) (hbuffer : (buffer.size : ℤ) = size)
    (hvalue : StringAt value 0 t) :
    ∃ turns value' kept result, encodeInPlace turns value size buffer = some (some value') ∧
      value'.size = value.size ∧ StringAt value' 0 result ∧ InPlace size t kept result := by
  obtain ⟨turns, s, hrun, pre, rest, h, hlongest⟩ := encodeLoop_spec hpos hbuffer hvalue
  have hroom := h.room
  have hstack := h.size
  have hin : s.outpos < value.size := by omega
  obtain ⟨value', hcopy, hsize', hfront, hbehind⟩ :=
    @copyBack_spec { value with get := Function.update value.get s.outpos NUL } s.buffer s.outpos
      (by omega) hin.le
  refine ⟨turns, value', pre, pre.flatMap codeOf, ?_, hsize', ?_, inPlace_of_longest hpos hlongest⟩
  · rw [encodeInPlace, hrun, Option.map_some, Option.bind_eq_bind, Option.bind_some, Block.write,
      if_pos hin, Option.bind_eq_bind, Option.bind_some, hcopy]
  · have hcells : (List.range (s.outpos + 1)).map value'.get = pre.flatMap codeOf ++ [NUL] := by
      have hsame : (List.range s.outpos).map value'.get = (List.range s.outpos).map s.buffer.get :=
        List.map_congr_left fun i hi => hfront i (List.mem_range.mp hi)
      have hnul : value'.get s.outpos = NUL := by
        rw [hbehind _ le_rfl]
        exact Function.update_self _ _ _
      rw [List.range_succ, List.map_append, hsame, h.cells, List.map_singleton, hnul]
    refine stringAt_of_cells (hsize' ▸ hin) hcells fun hmem => ?_
    obtain ⟨c, hc, hnul⟩ := List.mem_flatMap.mp hmem
    refine nul_notMem_codeOf ?_ hnul
    rintro rfl
    exact hvalue.first (h.text ▸ List.mem_append_left _ hc)

/-- A string of which the last character does not fit any more. -/
theorem encode_in_place_short :
    ∃ turns value' kept result,
      encodeInPlace turns (stored 8 "a/b+".toList) 8 ⟨8, fun _ => 'x'⟩ = some (some value') ∧
      value'.size = 8 ∧ StringAt value' 0 result ∧ InPlace 8 "a/b+".toList kept result := by
  have hvalue : StringAt (stored 8 "a/b+".toList) 0 "a/b+".toList :=
    stringAt_stored (by decide) (by decide)
  exact encode_in_place _ _ 8 _ (by omega) le_rfl rfl hvalue

example : (encodeInPlace 4 (stored 8 "a/b+".toList) 8 ⟨8, fun _ => 'x'⟩).map
    (Option.map fun value => (List.range 6).map value.get) =
      some (some ("a%2Fb".toList ++ [NUL])) := by decide

end OppoA37.UserAgent
