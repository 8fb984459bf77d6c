import OppoA37.Lib.CInt
import OppoA37.Lib.CString
import OppoA37.Lib.Loop

/-!
# The user agent: the serial number of the chipset

`getChipsetSerialNo` reads the number from a file, or takes a default, and removes the spaces at the
end. It counts down until it meets something else: the counter is a `size_t`, so that it never
becomes negative. Where there is nothing but spaces it wraps, and the loop leaves the array.

* `trimTurn_snoc` and `trimTurn_nil` are the turns of the loop.
* `serial_no_iff` says when the number is right, and `serialNo_outside` what happens otherwise.
-/

namespace OppoA37.UserAgent

open CString Loop Text

/-! ## The function -/

/-- `CHIPSET_SERIAL_NUMBER_MAX_LEN` -/
def CHIPSET_SERIAL_NUMBER_MAX_LEN : ℤ := 16

/-- `SIZE_MAX` -/
def SIZE_MAX : ℕ := 4294967295

/-- `--len` of a `size_t` -/
def decrement (len : ℕ) : ℕ := if len = 0 then SIZE_MAX else len - 1

/-- A turn of the loop, with `buf` and `len`; `none` if it leaves the array. -/
def trimTurn (s : Block Char × ℕ) : Option ((Block Char × ℕ) ⊕ Block Char) :=
  -- `len >= 0` is always true
  let len := decrement s.2
  if len < s.1.size then
    if isSpace (s.1.get len) then do
      let buf ← s.1.write len NUL
      some (.inl (buf, len))
    else some (.inr s.1)
  else none

/-- What is read to `buf` from a file that was opened, or else the default. -/
def readSerialNo (content : List Char) (buf : Block Char) (buflen : ℤ) (dflt : Block Char) :
    Option (Block Char) := do
  let bytes := content.take (buflen - 1).toNat
  let buf ← buf.writeList 0 bytes
  if bytes.length = 0 then strlcpy buf dflt buflen.toNat
  else buf.write bytes.length NUL

/-- `getChipsetSerialNo`, if its loop takes no more than these turns: `buf` afterwards, unless an
array was left. The file is what can be read of it, if it can be opened. -/
def getChipsetSerialNo (turns : ℕ) (file : Option (List Char)) (buf : Block Char) (buflen : ℤ)
    (dflt : Block Char) : Option (Option (Block Char)) :=
  match file with
  | none => some (strlcpy buf dflt buflen.toNat)
  | some content =>
    match readSerialNo content buf buflen dflt with
    | none => some none
    | some buf =>
      match strlen buf with
      | none => some none
      | some len => run (fallible trimTurn) turns (buf, len)

/-! ## What is claimed -/

/-- The text that is read, up to its first `NUL`; the default `d`, if nothing is read. -/
def textRead (content : List Char) (buflen : ℤ) (d : List Char) : List Char :=
  let bytes := content.take (buflen - 1).toNat
  if bytes = [] then d.take (buflen.toNat - 1) else bytes.takeWhile (· ≠ NUL)

/-- What is to be left in `buf`. -/
def serialNo (file : Option (List Char)) (buflen : ℤ) (d : List Char) : List Char :=
  match file with
  | none => d.take (buflen.toNat - 1)
  | some content => (textRead content buflen d).rdropWhile isSpace

/-- The function ends, leaves no array, and leaves the number in `buf`. -/
def SerialNoRight (file : Option (List Char)) (buf : Block Char) (buflen : ℤ)
    (dflt : Block Char) (d : List Char) : Prop :=
  ∃ turns buf', getChipsetSerialNo turns file buf buflen dflt = some (some buf') ∧
    buf'.size = buf.size ∧ StringAt buf' 0 (serialNo file buflen d)

/-- The file is not there, or the text is more than spaces. -/
def HasText (file : Option (List Char)) (buflen : ℤ) (d : List Char) : Prop :=
  ∀ content ∈ file, ∃ c ∈ textRead content buflen d, isSpace c = false

variable {file : Option (List Char)} {content d t : List Char} {c : Char}
variable {buf dflt : Block Char} {buflen : ℤ} {len : ℕ}

/-! ## The loop -/

/-- **At the beginning** of the array, the loop leaves it. -/
theorem trimTurn_nil (hsize : buf.size ≤ SIZE_MAX) : trimTurn (buf, 0) = none :=
  if_neg (not_lt.mpr hsize)

/-- **At a character**, the loop removes it, or ends. -/
theorem trimTurn_snoc (h : StringAt buf 0 (t ++ [c])) :
    ∃ buf', buf'.size = buf.size ∧ StringAt buf' 0 t ∧
      trimTurn (buf, (t ++ [c]).length) =
        some (if isSpace c then .inl (buf', t.length) else .inr buf) := by
  have hroom := h.room
  rw [List.length_append, List.length_singleton, Nat.zero_add] at hroom
  obtain ⟨buf', hwrite, hsize, hcut⟩ := h.cut_last
  refine ⟨buf', hsize, hcut, ?_⟩
  have hdecrement : decrement (t ++ [c]).length = t.length := by
    rw [List.length_append, List.length_singleton]
    rfl
  rw [trimTurn]
  dsimp only
  rw [hdecrement, if_pos (by omega), h.get_last, hwrite]
  split_ifs <;> rfl

/-- **The loop** removes the spaces at the end, and leaves the array if there is nothing else. -/
theorem trimLoop_spec (h : StringAt buf 0 t) (hmax : buf.size ≤ SIZE_MAX) :
    ∃ turns out, run (fallible trimTurn) turns (buf, t.length) = some out ∧
      if t.rdropWhile isSpace = [] then out = none
      else ∃ buf', out = some buf' ∧ buf'.size = buf.size ∧
        StringAt buf' 0 (t.rdropWhile isSpace) := by
  induction t using List.reverseRecOn generalizing buf with
  | nil =>
    refine ⟨1, none, run_inr (fallible_none (trimTurn_nil hmax)) 0, ?_⟩
    rw [List.rdropWhile_nil, if_pos rfl]
  | append_singleton t c ih =>
    obtain ⟨buf', hsize, hcut, hturn⟩ := trimTurn_snoc h
    by_cases hc : isSpace c = true
    · rw [if_pos hc] at hturn
      obtain ⟨turns, out, hrun, hout⟩ := ih hcut (hsize.trans_le hmax)
      refine ⟨turns + 1, out, (run_inl (fallible_inl hturn) turns).trans hrun, ?_⟩
      rw [List.rdropWhile_concat_pos _ _ _ hc]
      rwa [hsize] at hout
    · rw [if_neg hc] at hturn
      refine ⟨1, some buf, run_inr (fallible_inr hturn) 0, ?_⟩
      rw [List.rdropWhile_concat_neg _ _ _ hc, if_neg (by simp)]
      exact ⟨buf, rfl, rfl, h⟩

/-! ## The function as a whole -/

/-- What is read is in the array. -/
theorem readSerialNo_spec (hpos : 1 ≤ buflen) (hsize : (buf.size : ℤ) = buflen)
    (hdflt : StringAt dflt 0 d) (content : List Char) :
    ∃ buf', readSerialNo content buf buflen dflt = some buf' ∧ buf'.size = buf.size ∧
      StringAt buf' 0 (textRead content buflen d) := by
  have hlen : (content.take (buflen - 1).toNat).length ≤ (buflen - 1).toNat :=
    List.length_take_le _ _
  rw [readSerialNo, textRead]
  generalize content.take (buflen - 1).toNat = bytes at hlen ⊢
  have hroom : bytes.length < buf.size := by omega
  obtain ⟨buf₁, hwrite, hsize₁, hcells⟩ :=
    Block.writeList_of_le ((Nat.zero_add _).trans_le hroom.le)
  rw [Nat.zero_add] at hcells
  rw [hwrite, Option.bind_eq_bind, Option.bind_some]
  by_cases hnil : bytes = []
  · -- nothing was read
    obtain ⟨buf', hcopy, hsize', hstring⟩ :=
      hdflt.strlcpy (by omega : 0 < buflen.toNat) (by omega : buflen.toNat ≤ buf₁.size)
    rw [if_pos (List.length_eq_zero_iff.mpr hnil), if_pos hnil]
    exact ⟨buf', hcopy, hsize'.trans hsize₁, hstring⟩
  · have hroom₁ : bytes.length < buf₁.size := by rwa [hsize₁]
    rw [if_neg (mt List.length_eq_zero_iff.mp hnil), if_neg hnil, Block.write, if_pos hroom₁]
    refine ⟨_, rfl, hsize₁, stringAt_takeWhile hroom₁ ?_⟩
    rw [Block.map_range_update, hcells]
    rfl

/-- When the file is there, the loop runs. -/
theorem getChipsetSerialNo_some (hpos : 1 ≤ buflen) (hsize : (buf.size : ℤ) = buflen)
    (hint : CInt.IsInt buflen) (hdflt : StringAt dflt 0 d) (content : List Char) :
    ∃ turns out, getChipsetSerialNo turns (some content) buf buflen dflt = some out ∧
      if (textRead content buflen d).rdropWhile isSpace = [] then out = none
      else ∃ buf', out = some buf' ∧ buf'.size = buf.size ∧
        StringAt buf' 0 (serialNo (some content) buflen d) := by
  obtain ⟨buf₁, hread, hsize₁, hstring⟩ := readSerialNo_spec hpos hsize hdflt content
  have hmax : buf₁.size ≤ SIZE_MAX := by
    have hle := hint.2
    rw [SIZE_MAX]
    omega
  obtain ⟨turns, out, hrun, hout⟩ := trimLoop_spec hstring hmax
  refine ⟨turns, out, ?_, ?_⟩
  · rw [getChipsetSerialNo, hread]
    dsimp only
    rw [hstring.strlen]
    exact hrun
  · rwa [hsize₁] at hout

/-- Any other outcome is not right. -/
theorem getChipsetSerialNo_unique {n k : ℕ} {out out' : Option (Block Char)}
    (h : getChipsetSerialNo n file buf buflen dflt = some out)
    (h' : getChipsetSerialNo k file buf buflen dflt = some out') : out = out' := by
  cases file with
  | none =>
    rw [getChipsetSerialNo] at h h'
    exact Option.some.inj (h.symm.trans h')
  | some content =>
    rw [getChipsetSerialNo] at h h'
    split at h
    · rename_i hread
      rw [hread] at h'
      exact Option.some.inj (h.symm.trans h')
    · rename_i buf₁ hread
      rw [hread] at h'
      dsimp only at h'
      split at h
      · rename_i hlen
        rw [hlen] at h'
        exact Option.some.inj (h.symm.trans h')
      · rename_i len hlen
        rw [hlen] at h'
        exact run_unique h h'

/-- A text has more than spaces when something is left of it. -/
theorem rdropWhile_eq_nil_iff_not :
    t.rdropWhile isSpace = [] ↔ ¬ ∃ c ∈ t, isSpace c = false := by
  rw [List.rdropWhile_eq_nil_iff]
  push Not
  simp only [Bool.not_eq_false]

/-- **The serial number is right** if and only if the file is not there, or the text that is read
has more than spaces. -/
theorem serial_no_iff (file : Option (List Char)) (buf : Block Char) (buflen : ℤ)
    (dflt : Block Char) (d : List Char) (hpos : 1 ≤ buflen) (hint : CInt.IsInt buflen)
    (hsize : (buf.size : ℤ) = buflen) (hdflt : StringAt dflt 0 d) :
    SerialNoRight file buf buflen dflt d ↔ HasText file buflen d := by
  cases file with
  | none =>
    refine iff_of_true ?_ fun content h => by cases h
    obtain ⟨buf', hcopy, hsize', hstring⟩ :=
      hdflt.strlcpy (by omega : 0 < buflen.toNat) (by omega : buflen.toNat ≤ buf.size)
    exact ⟨0, buf', congrArg some hcopy, hsize', hstring⟩
  | some content =>
    obtain ⟨turns, out, hrun, hout⟩ := getChipsetSerialNo_some hpos hsize hint hdflt content
    have htext : HasText (some content) buflen d ↔
        (textRead content buflen d).rdropWhile isSpace ≠ [] := by
      rw [Ne, rdropWhile_eq_nil_iff_not, not_not, HasText]
      simp only [Option.mem_some_iff, forall_eq']
    rw [htext]
    split_ifs at hout with hnil
    · refine iff_of_false ?_ fun hne => hne hnil
      rintro ⟨turns', buf', hrun', -, -⟩
      cases hout.symm.trans (getChipsetSerialNo_unique hrun hrun')
    · obtain ⟨buf', rfl, hright⟩ := hout
      exact iff_of_true ⟨turns, buf', hrun, hright⟩ hnil

/-- A number with a line feed. -/
theorem serial_no_of_line : 1 ≤ CHIPSET_SERIAL_NUMBER_MAX_LEN ∧
    (SerialNoRight (some "123\n".toList) (stored 16 []) 16 (ofText ['-']) ['-'] ↔
      HasText (some "123\n".toList) 16 ['-']) :=
  ⟨by decide, serial_no_iff _ _ 16 _ _ (by omega) (by decide) rfl (stringAt_ofText (by decide))⟩

/-- A line feed alone: the loop looks at what is in front of the array. -/
theorem serialNo_outside :
    ¬ SerialNoRight (some ['\n']) (stored 16 []) 16 (ofText ['-']) ['-'] ∧
    getChipsetSerialNo 2 (some ['\n']) (stored 16 []) 16 (ofText ['-']) = some none := by
  have hrun : getChipsetSerialNo 2 (some ['\n']) (stored 16 []) 16 (ofText ['-']) = some none := by
    rfl
  refine ⟨?_, hrun⟩
  rintro ⟨turns, buf', hrun', -, -⟩
  cases getChipsetSerialNo_unique hrun hrun'

end OppoA37.UserAgent
