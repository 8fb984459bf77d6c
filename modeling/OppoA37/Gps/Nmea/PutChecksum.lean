import OppoA37.Gps.Nmea.Sentence
import OppoA37.Lib.CInt
import OppoA37.Lib.CString

/-!
# The checksum of a sentence

`loc_eng_nmea_put_checksum` takes the exclusive or of a sentence in a buffer, and has `snprintf` put
it to the end. What `snprintf` returns counts what was cut off.

* `checksumLoop_spec` is the way to the end of the sentence.
* `putChecksumAt_spec` says what is in the buffer afterwards, and what is returned.
* `stringAt_putChecksum` says that this is the sentence that `putChecksum` gives.
* `returned_eq_length_iff` says when the length is right, and `checksum_iff` when all of the
  checksum is there, too.
-/

namespace OppoA37.Nmea

open CString Text

/-! ## The function -/

/-- The loop from a pointer on: the pointer, the checksum and the length at the end. `none` if there
is no end, or if the length is not an `int`. -/
def checksumLoop (raw : Block Char) : ℕ → ℕ → ℕ → ℤ → Option (ℕ × ℕ × ℤ)
  | 0, _, _, _ => none
  | fuel + 1, pNmea, sum, length =>
    if pNmea < raw.size then
      if raw.get pNmea = NUL then some (pNmea, sum, length)
      else (CInt.add length 1).bind fun length =>
        checksumLoop raw fuel (pNmea + 1) (sum ^^^ ((raw.get pNmea).toNat % 256)) length
    else none

/-- `"*%02X\r\n"` -/
def checksumText (sum : ℕ) : List Char := '*' :: (hexByte sum ++ ['\r', '\n'])

/-- `loc_eng_nmea_put_checksum` of the sentence at the beginning of a buffer: the buffer, and what
is returned. -/
def putChecksumAt (raw : Block Char) (maxSize : ℤ) : Option (Block Char × ℤ) := do
  let (pNmea, sum, length) ← checksumLoop raw raw.size 1 0 0
  let size ← CInt.sub (← CInt.sub maxSize length) 1
  let (raw, checksumLength) ← snprintf raw pNmea size (checksumText sum)
  let total ← CInt.add (← CInt.add length checksumLength) 1
  some (raw, total)

/-- What is expected of it. -/
def ChecksumPut (raw : Block Char) (maxSize : ℤ) (sentence : List Char) : Prop :=
  ∃ raw' returned text, putChecksumAt raw maxSize = some (raw', returned) ∧
    StringAt raw' 0 text ∧ returned = (text.length : ℤ) ∧ (text.length : ℤ) < maxSize ∧
    text = sentence ++ checksumText (checksum sentence.tail)

variable {raw : Block Char} {maxSize : ℤ} {sentence : List Char}

/-! ## The loop -/

/-- The loop goes to the end of a string. -/
theorem checksumLoop_spec {t : List Char} {fuel p sum : ℕ} {length : ℤ} (h : StringAt raw p t)
    (hfuel : t.length < fuel) (hzero : 0 ≤ length) (hlen : length + t.length ≤ 2147483647) :
    checksumLoop raw fuel p sum length = some (p + t.length,
      t.foldl (fun sum c => sum ^^^ (c.toNat % 256)) sum, length + (t.length : ℤ)) := by
  induction t generalizing fuel p sum length with
  | nil =>
    obtain ⟨fuel, rfl⟩ := Nat.exists_eq_succ_of_ne_zero hfuel.ne'
    have hroom : p < raw.size := h.room
    have hend : raw.get p = NUL := h.terminated
    rw [checksumLoop, if_pos hroom, if_pos hend, List.length_nil, List.foldl_nil,
      Nat.cast_zero, add_zero, add_zero]
  | cons c t ih =>
    obtain ⟨fuel, rfl⟩ := Nat.exists_eq_succ_of_ne_zero (Nat.ne_zero_of_lt hfuel)
    obtain ⟨hc, hnul, hrest⟩ := h.of_cons
    have hroom : p < raw.size := lt_of_le_of_lt (Nat.le_add_right p _) h.room
    rw [List.length_cons] at hfuel hlen
    have hadd : CInt.add length 1 = some (length + 1) := if_pos (by rw [CInt.IsInt]; omega)
    rw [checksumLoop, if_pos hroom, hc, if_neg hnul, hadd, Option.bind_some,
      ih hrest (by omega) (by omega) (by omega), List.foldl_cons, List.length_cons,
      Nat.add_assoc p, Nat.add_comm 1, Nat.cast_succ, add_assoc length, add_comm 1]

/-! ## The buffer -/

theorem length_checksumText (sum : ℕ) : (checksumText sum).length = 5 := rfl

/-- There is no `NUL` in a checksum. -/
theorem nul_notMem_checksumText (sum : ℕ) : NUL ∉ checksumText sum := by
  have hdigit : ∀ d < 16, NUL ≠ (Nat.digitChar d).toUpper := by decide
  have hhigh := hdigit (sum / 16 % 16) (Nat.mod_lt _ (Nat.succ_pos 15))
  have hlow := hdigit (sum % 16) (Nat.mod_lt _ (Nat.succ_pos 15))
  have hends : NUL ∉ ['*', '\r', '\n'] := by decide
  simp only [List.mem_cons, List.not_mem_nil, or_false, not_or] at hends
  simp only [checksumText, hexByte, List.mem_cons, List.mem_append, List.not_mem_nil, or_false,
    not_or]
  exact ⟨hends.1, ⟨hhigh, hlow⟩, hends.2⟩

/-- As much of the checksum as there is room for comes behind the sentence, and all of it is
counted. -/
theorem putChecksumAt_spec (hbegin : sentence.head? = some '$') (hat : StringAt raw 0 sentence)
    (hlt : sentence.length < maxSize) (hsize : maxSize ≤ raw.size)
    (hmax : maxSize ≤ 2147483647) (hlen : (sentence.length : ℤ) + 5 ≤ 2147483647) :
    ∃ raw', putChecksumAt raw maxSize = some (raw', (sentence.length : ℤ) + 5) ∧
      raw'.size = raw.size ∧
      StringAt raw' 0 (sentence ++ (checksumText (checksum sentence.tail)).take
        ((maxSize - sentence.length).toNat - 1)) := by
  obtain ⟨t, rfl⟩ := List.head?_eq_some_iff.mp hbegin
  have hroom := hat.room
  rw [List.length_cons] at hlt hlen hroom
  have hpos : 0 < maxSize - ('$' :: t).length := by
    rw [List.length_cons]
    omega
  obtain ⟨raw', hprint, hsize', hat'⟩ :=
    hat.snprintf hpos (by omega) (nul_notMem_checksumText (checksum t))
  refine ⟨raw', ?_, hsize', hat'⟩
  have hloop : checksumLoop raw raw.size 1 0 0 =
      some (('$' :: t).length, checksum t, (t.length : ℤ)) := by
    rw [checksumLoop_spec hat.of_cons.2.2 (by omega) le_rfl (by omega), Nat.add_comm 1,
      zero_add (t.length : ℤ)]
    rfl
  have hleft : CInt.sub maxSize t.length = some (maxSize - t.length) :=
    if_pos (by rw [CInt.IsInt]; omega)
  have hleft' : CInt.sub (maxSize - t.length) 1 = some (maxSize - ('$' :: t).length) := by
    rw [CInt.sub, if_pos (by rw [CInt.IsInt]; omega), List.length_cons, Nat.cast_succ, sub_sub]
  have hsum : CInt.add t.length (checksumText (checksum t)).length = some ((t.length : ℤ) + 5) := by
    rw [length_checksumText, Nat.cast_ofNat, CInt.add, if_pos (by rw [CInt.IsInt]; omega)]
  have htotal : CInt.add ((t.length : ℤ) + 5) 1 = some (('$' :: t).length + 5 : ℤ) := by
    rw [CInt.add, if_pos (by rw [CInt.IsInt]; omega), List.length_cons, Nat.cast_succ,
      add_right_comm]
  rw [putChecksumAt, hloop, Option.bind_eq_bind, Option.bind_some]
  dsimp only
  rw [hleft, Option.bind_eq_bind, Option.bind_some, hleft', Option.bind_eq_bind, Option.bind_some,
    hprint, Option.bind_some, hsum, Option.bind_some, htotal, Option.bind_some]

/-- In a buffer for a sentence this is the sentence that `putChecksum` gives. -/
theorem stringAt_putChecksum (hbegin : sentence.head? = some '$') (hat : StringAt raw 0 sentence)
    (hlt : sentence.length < maxLength) (hsize : maxLength ≤ raw.size) :
    ∃ raw', putChecksumAt raw maxLength = some (raw', (sentence.length : ℤ) + 5) ∧
      StringAt raw' 0 (putChecksum sentence) := by
  have hlt' : (sentence.length : ℤ) < (maxLength : ℤ) := Nat.cast_lt.mpr hlt
  have hsize' : (maxLength : ℤ) ≤ raw.size := Nat.cast_le.mpr hsize
  have hmax : (maxLength : ℤ) = 200 := rfl
  obtain ⟨raw', hput, -, hat'⟩ :=
    putChecksumAt_spec hbegin hat hlt' hsize' (by omega) (by omega)
  refine ⟨raw', hput, ?_⟩
  rw [← Nat.cast_sub hlt.le, Int.toNat_natCast] at hat'
  exact hat'

/-- What is returned is the length of what is in the buffer if and only if there is room for all of
the checksum. -/
theorem returned_eq_length_iff (hbegin : sentence.head? = some '$') (hat : StringAt raw 0 sentence)
    (hlt : sentence.length < maxSize) (hsize : maxSize ≤ raw.size) (hmax : maxSize ≤ 2147483647)
    (hlen : (sentence.length : ℤ) + 5 ≤ 2147483647) :
    (∃ raw' text, putChecksumAt raw maxSize = some (raw', (text.length : ℤ)) ∧
      StringAt raw' 0 text) ↔ sentence.length + 6 ≤ maxSize := by
  obtain ⟨raw', hput, -, hat'⟩ := putChecksumAt_spec hbegin hat hlt hsize hmax hlen
  refine ⟨?_, ?_⟩
  · rintro ⟨raw'', text, hput', htext⟩
    rw [hput, Option.some.injEq, Prod.mk.injEq] at hput'
    obtain ⟨rfl, hreturned⟩ := hput'
    rw [htext.unique hat', List.length_append, List.length_take, length_checksumText] at hreturned
    omega
  · intro hfits
    refine ⟨raw', _, ?_, hat'⟩
    rw [hput, List.length_append, List.length_take, length_checksumText, min_eq_right (by omega)]
    rfl

/-- **The whole checksum** is there, and what is returned is the length of what is in the buffer, if
and only if six more characters fit, the `NUL` among them. -/
theorem checksum_iff (hbegin : sentence.head? = some '$') (hat : StringAt raw 0 sentence)
    (hlt : sentence.length < maxSize) (hsize : maxSize ≤ raw.size) (hint : CInt.IsInt maxSize) :
    ChecksumPut raw maxSize sentence ↔ sentence.length + 6 ≤ maxSize := by
  refine ⟨?_, ?_⟩
  · rintro ⟨raw', returned, text, -, -, -, hfits, rfl⟩
    rw [List.length_append, length_checksumText] at hfits
    omega
  · intro hfits
    have hmax := hint.2
    obtain ⟨raw', hput, -, hat'⟩ := putChecksumAt_spec hbegin hat hlt hsize hmax (by omega)
    rw [List.take_of_length_le (by rw [length_checksumText]; omega)] at hat'
    refine ⟨raw', _, _, hput, hat', ?_, ?_, rfl⟩
    all_goals
      rw [List.length_append, length_checksumText]
      omega

/-- A short sentence in the buffer of the caller. -/
theorem checksum_of_short : ChecksumPut (stored 200 ['$', 'G', 'P']) 200 ['$', 'G', 'P'] := by
  have hno : NUL ∉ ['$', 'G', 'P'] := by decide
  have hat : StringAt (stored 200 ['$', 'G', 'P']) 0 ['$', 'G', 'P'] :=
    stringAt_stored hno (by norm_num)
  have hint : CInt.IsInt 200 := ⟨by norm_num, by norm_num⟩
  have hlt : ((['$', 'G', 'P'] : List Char).length : ℤ) < 200 := by norm_num
  exact (checksum_iff rfl hat hlt le_rfl hint).mpr (by norm_num)

/-- With 195 characters there is no room for the line feed, but it is counted. -/
theorem lineFeed_lost :
    ∃ sentence, sentence.head? = some '$' ∧ sentence.length = 195 ∧
      StringAt (stored 200 sentence) 0 sentence ∧
      ¬ ChecksumPut (stored 200 sentence) 200 sentence ∧
      ∃ raw' text, putChecksumAt (stored 200 sentence) 200 = some (raw', 200) ∧
        StringAt raw' 0 text ∧ text.length = 199 := by
  have hlength : ('$' :: List.replicate 194 'A').length = 195 := by
    rw [List.length_cons, List.length_replicate]
  have hno : NUL ∉ '$' :: List.replicate 194 'A' := by
    rw [List.mem_cons, List.mem_replicate, not_or, not_and]
    exact ⟨by decide, fun _ => by decide⟩
  have hat : StringAt (stored 200 ('$' :: List.replicate 194 'A')) 0
      ('$' :: List.replicate 194 'A') := stringAt_stored hno (by omega)
  refine ⟨'$' :: List.replicate 194 'A', rfl, hlength, hat, ?_, ?_⟩
  · rintro ⟨raw', returned, text, -, -, -, hfits, rfl⟩
    rw [List.length_append, length_checksumText, hlength] at hfits
    omega
  · have hlt : (('$' :: List.replicate 194 'A').length : ℤ) < 200 := by
      rw [hlength]
      norm_num
    obtain ⟨raw', hput, -, hat'⟩ :=
      putChecksumAt_spec rfl hat hlt le_rfl (by norm_num) (by omega)
    rw [hlength] at hput
    refine ⟨raw', _, hput, hat', ?_⟩
    rw [List.length_append, List.length_take, length_checksumText, hlength]
    rfl

end OppoA37.Nmea
