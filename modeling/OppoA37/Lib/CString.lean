import OppoA37.Lib.Block
import OppoA37.Lib.Text

/-!
# Strings in memory

A string of C is the characters from a pointer on, up to the first `NUL`. `StringAt` says that it
is in a block, and which characters it has.

* `strlen` finds its end: `StringAt.strlen`.
* There is but one string at a pointer: `StringAt.unique`.
* It stays where nothing is written: `StringAt.mono`.
* What is in front of the first `NUL` of some cells is a string: `stringAt_takeWhile`.
* Another `NUL` ends it sooner: `StringAt.cut`.
* `strlcpy` copies it, or what there is room for: `StringAt.strlcpy`.
* `snprintf` puts another text behind it, in the same way: `StringAt.snprintf`.
-/

namespace CString

open Text

/-- `strlen`; `none` if there is no `NUL`. -/
def strlen (raw : Block Char) : Option ℕ :=
  (List.range raw.size).find? fun i => raw.get i = NUL

/-- The characters in front of the first `NUL`, as `atoi` and the like read them. -/
def readString (raw : Block Char) : Option (List Char) :=
  (strlen raw).map fun len => (List.range len).map raw.get

/-- These characters are in memory from `p` on. -/
def CharsAt (raw : Block Char) (p : ℕ) (t : List Char) : Prop :=
  ∀ i c, t[i]? = some c → raw.get (p + i) = c

/-- The string that `p` points to. -/
structure StringAt (raw : Block Char) (p : ℕ) (t : List Char) : Prop where
  /-- it ends in the array -/
  room : p + t.length < raw.size
  /-- its characters -/
  chars : CharsAt raw p t
  /-- the `NUL` behind them -/
  terminated : raw.get (p + t.length) = NUL
  /-- there is none before -/
  first : NUL ∉ t

variable {raw raw' : Block Char} {p : ℕ} {t : List Char} {c : Char}

/-- Characters that stay are still there. -/
theorem CharsAt.mono (h : CharsAt raw p t)
    (hsame : ∀ i, p ≤ i → i < p + t.length → raw'.get i = raw.get i) : CharsAt raw' p t := by
  intro i c hi
  obtain ⟨hlt, -⟩ := List.getElem?_eq_some_iff.mp hi
  rw [hsame (p + i) (Nat.le_add_right p i) (Nat.add_lt_add_left hlt p)]
  exact h i c hi

/-- One more character. -/
theorem CharsAt.snoc (h : CharsAt raw p t) (hc : raw.get (p + t.length) = c) :
    CharsAt raw p (t ++ [c]) := by
  intro i d hi
  rcases lt_or_ge i t.length with hlt | hge
  · rw [List.getElem?_append_left hlt] at hi
    exact h i d hi
  · rw [List.getElem?_append_right hge] at hi
    obtain ⟨hzero, hd⟩ := List.getElem?_eq_some_iff.mp hi
    have hi' : i = t.length := by
      rw [List.length_singleton] at hzero
      omega
    subst hi'
    simp only [Nat.sub_self, List.getElem_cons_zero] at hd
    rw [hc, hd]

/-- A string that is not empty: its first character, and the string behind it. -/
theorem StringAt.of_cons (h : StringAt raw p (c :: t)) :
    raw.get p = c ∧ c ≠ NUL ∧ StringAt raw (p + 1) t := by
  obtain ⟨hroom, hchars, hterminated, hfirst⟩ := h
  rw [List.length_cons] at hroom hterminated
  rw [List.mem_cons, not_or] at hfirst
  refine ⟨hchars 0 c rfl, Ne.symm hfirst.1, by omega, fun i d hi => ?_, ?_, hfirst.2⟩
  · rw [Nat.add_assoc, Nat.add_comm 1]
    exact hchars (i + 1) d hi
  · rw [← hterminated]
    congr 1
    omega

/-- The end of a string is one, too. -/
theorem StringAt.of_append {pre rest : List Char} (h : StringAt raw p (pre ++ rest)) :
    StringAt raw (p + pre.length) rest := by
  obtain ⟨hroom, hchars, hterminated, hfirst⟩ := h
  rw [List.length_append, ← Nat.add_assoc] at hroom hterminated
  refine ⟨hroom, fun i c hi => ?_, hterminated, fun hmem => hfirst (List.mem_append_right _ hmem)⟩
  rw [Nat.add_assoc]
  refine hchars _ _ ?_
  rwa [List.getElem?_append_right (Nat.le_add_right _ _), Nat.add_sub_cancel_left]

/-- A string that stays is still there. -/
theorem StringAt.mono (h : StringAt raw p t) (hsize : raw'.size = raw.size)
    (hsame : ∀ i, p ≤ i → i ≤ p + t.length → raw'.get i = raw.get i) : StringAt raw' p t := by
  refine ⟨hsize ▸ h.room, h.chars.mono fun i hle hlt => hsame i hle hlt.le, ?_, h.first⟩
  rw [hsame _ (Nat.le_add_right p _) le_rfl, h.terminated]

/-- `strlen` finds the end. -/
theorem StringAt.strlen (h : StringAt raw 0 t) : strlen raw = some t.length := by
  obtain ⟨hroom, hchars, hterminated, hfirst⟩ := h
  rw [Nat.zero_add] at hroom hterminated
  rw [CString.strlen, List.find?_range_eq_some]
  refine ⟨decide_eq_true hterminated, List.mem_range.mpr hroom, fun i hi => ?_⟩
  have hchar := hchars i t[i] (List.getElem?_eq_getElem hi)
  rw [Nat.zero_add] at hchar
  rw [Bool.not_eq_true', decide_eq_false_iff_not, hchar]
  intro hnul
  exact hfirst (hnul ▸ List.getElem_mem hi)

/-- At the beginning of a block, the characters are its first cells. -/
theorem charsAt_zero_iff : CharsAt raw 0 t ↔ (List.range t.length).map raw.get = t := by
  refine ⟨?_, ?_⟩
  · intro h
    refine List.ext_getElem (by simp) fun i hi hi' => ?_
    have hchar := h i t[i] (List.getElem?_eq_getElem hi')
    rw [Nat.zero_add] at hchar
    simpa using hchar
  · intro h i c hi
    obtain ⟨hlt, -⟩ := List.getElem?_eq_some_iff.mp hi
    rw [← h, List.getElem?_map, List.getElem?_range hlt] at hi
    rw [Nat.zero_add]
    exact Option.some.inj hi

/-- A string is read. -/
theorem StringAt.readString (h : StringAt raw 0 t) : readString raw = some t := by
  rw [CString.readString, h.strlen, Option.map_some, charsAt_zero_iff.mp h.chars]

/-- There is but one string. -/
theorem StringAt.unique {t' : List Char} (h : StringAt raw 0 t) (h' : StringAt raw 0 t') :
    t = t' := by
  have hlen : t.length = t'.length := Option.some.inj (h.strlen.symm.trans h'.strlen)
  rw [← charsAt_zero_iff.mp h.chars, ← charsAt_zero_iff.mp h'.chars, hlen]

/-- A text with a `NUL` behind it is a string. -/
theorem stringAt_of_cells {n : ℕ} {rest : List Char} (hn : n ≤ raw.size)
    (hcells : (List.range n).map raw.get = t ++ NUL :: rest) (h : NUL ∉ t) : StringAt raw 0 t := by
  have hlen := congrArg List.length hcells
  rw [List.length_map, List.length_range, List.length_append, List.length_cons] at hlen
  have hchars : (List.range t.length).map raw.get = t := by
    have htake := congrArg (List.take t.length) hcells
    rwa [← List.map_take, List.take_range, min_eq_left (by omega), List.take_left] at htake
  have hnul : raw.get t.length = NUL := by
    have hget := congrArg (·[t.length]?) hcells
    simp only [List.getElem?_map, List.getElem?_range (by omega : t.length < n),
      List.getElem?_append_right le_rfl, Nat.sub_self, List.getElem?_cons_zero] at hget
    exact Option.some.inj hget
  refine ⟨by omega, charsAt_zero_iff.mpr hchars, ?_, h⟩
  rw [Nat.zero_add]
  exact hnul

/-- There is a `NUL` in what ends in one. -/
theorem exists_takeWhile_append (cs : List Char) :
    ∃ rest, cs ++ [NUL] = cs.takeWhile (· ≠ NUL) ++ NUL :: rest := by
  rcases hrest : cs.dropWhile (· ≠ NUL) with _ | ⟨c, rest⟩
  · refine ⟨[], ?_⟩
    rw [List.takeWhile_eq_self_iff.mpr (List.dropWhile_eq_nil_iff.mp hrest)]
  · have hhead := List.head?_dropWhile_not (· ≠ NUL) cs
    rw [hrest] at hhead
    obtain rfl : c = NUL := by simpa using hhead
    refine ⟨rest ++ [NUL], ?_⟩
    rw [← List.cons_append, ← hrest, ← List.append_assoc, List.takeWhile_append_dropWhile]

/-- What is in front of it is a string. -/
theorem stringAt_takeWhile {cs : List Char} (hroom : cs.length < raw.size)
    (hcells : (List.range (cs.length + 1)).map raw.get = cs ++ [NUL]) :
    StringAt raw 0 (cs.takeWhile (· ≠ NUL)) := by
  obtain ⟨rest, hrest⟩ := exists_takeWhile_append cs
  refine stringAt_of_cells hroom (hcells.trans hrest) fun hmem => ?_
  have hne := List.mem_takeWhile_imp hmem
  rw [decide_eq_true_eq] at hne
  exact hne rfl

/-- A `NUL` ends a string. -/
theorem StringAt.cut (h : StringAt raw 0 t) {k : ℕ} (hk : k ≤ t.length) :
    ∃ raw', raw.write k NUL = some raw' ∧ raw'.size = raw.size ∧ StringAt raw' 0 (t.take k) := by
  have hroom := h.room
  have hlen : (t.take k).length = k := by rw [List.length_take, min_eq_left hk]
  refine ⟨_, if_pos (by omega), rfl, ?_⟩
  have hcells := Block.map_range_update raw.get k NUL
  have hold : (List.range k).map raw.get = t.take k := by
    have htake := congrArg (List.take k) (charsAt_zero_iff.mp h.chars)
    rwa [← List.map_take, List.take_range, min_eq_left hk] at htake
  rw [hold] at hcells
  refine stringAt_of_cells (show k + 1 ≤ raw.size by omega) hcells fun hmem => ?_
  exact h.first (List.mem_of_mem_take hmem)

/-- The last character of a string. -/
theorem StringAt.get_last (h : StringAt raw 0 (t ++ [c])) : raw.get t.length = c := by
  have hchar := h.chars t.length c List.getElem?_concat_length
  rwa [Nat.zero_add] at hchar

/-- A `NUL` in its place leaves those in front of it. -/
theorem StringAt.cut_last (h : StringAt raw 0 (t ++ [c])) :
    ∃ raw', raw.write t.length NUL = some raw' ∧ raw'.size = raw.size ∧ StringAt raw' 0 t := by
  have hle : t.length ≤ (t ++ [c]).length := by simp
  have hcut := h.cut hle
  rwa [List.take_left] at hcut

/-- A string in an array of some size. -/
def stored (size : ℕ) (t : List Char) : Block Char := ⟨size, fun i => t.getD i NUL⟩

/-- Its cells, and the first one behind them. -/
theorem map_range_stored (size : ℕ) (t : List Char) :
    (List.range (t.length + 1)).map (stored size t).get = t ++ [NUL] := by
  have hcells : (List.range t.length).map (stored size t).get = t := by
    refine List.ext_getElem (by simp) fun i hi hi' => ?_
    simp [stored, hi']
  have hnul : (stored size t).get t.length = NUL := List.getD_eq_default t NUL le_rfl
  rw [List.range_succ, List.map_append, hcells, List.map_singleton, hnul]

theorem stringAt_stored {size : ℕ} (h : NUL ∉ t) (hroom : t.length < size) :
    StringAt (stored size t) 0 t :=
  stringAt_of_cells hroom (map_range_stored size t) h

/-- A string in an array that has just room for it. -/
def ofText (t : List Char) : Block Char := stored (t.length + 1) t

theorem stringAt_ofText (h : NUL ∉ t) : StringAt (ofText t) 0 t :=
  stringAt_stored h (Nat.lt_succ_self _)

/-! ## Copying -/

/-- `strlcpy`; `none` if something is read or written outside. -/
def strlcpy (dst src : Block Char) (size : ℕ) : Option (Block Char) := do
  let len ← strlen src
  if size = 0 then some dst
  else dst.writeList 0 ((List.range (min len (size - 1))).map src.get ++ [NUL])

/-- **A string is copied**, as far as there is room. -/
theorem StringAt.strlcpy (h : StringAt raw 0 t) {dst : Block Char} {size : ℕ} (hpos : 0 < size)
    (hroom : size ≤ dst.size) :
    ∃ dst', strlcpy dst raw size = some dst' ∧ dst'.size = dst.size ∧
      StringAt dst' 0 (t.take (size - 1)) := by
  have hcopy : (List.range (min t.length (size - 1))).map raw.get = t.take (size - 1) := by
    have htake := congrArg (List.take (size - 1)) (charsAt_zero_iff.mp h.chars)
    rwa [← List.map_take, List.take_range, min_comm] at htake
  have hlen : (t.take (size - 1) ++ [NUL]).length ≤ size := by
    have hle : (t.take (size - 1)).length ≤ size - 1 := List.length_take_le _ _
    rw [List.length_append, List.length_singleton]
    omega
  obtain ⟨dst', hwrite, hsize, hcells⟩ :=
    Block.writeList_of_le ((Nat.zero_add _).trans_le (hlen.trans hroom))
  refine ⟨dst', ?_, hsize, ?_⟩
  · rw [CString.strlcpy, h.strlen, Option.bind_eq_bind, Option.bind_some, if_neg hpos.ne', hcopy,
      hwrite]
  · rw [Nat.zero_add] at hcells
    refine stringAt_of_cells (hsize ▸ hlen.trans hroom) hcells fun hmem => ?_
    exact h.first (List.mem_of_mem_take hmem)

/-! ## Printing -/

/-- `snprintf` to a pointer, of a text that is formatted already: the block, and what is returned.
A negative size is a large one as a `size_t`. -/
def snprintf (raw : Block Char) (p : ℕ) (size : ℤ) (text : List Char) : Option (Block Char × ℕ) :=
  if size = 0 then some (raw, text.length)
  else
    let kept := if size < 0 then text else text.take (size.toNat - 1)
    (raw.writeList p (kept ++ [NUL])).map fun raw => (raw, text.length)

/-- **Behind a string**, `snprintf` puts as much of a text as there is room for, and returns how
much there would have been. -/
theorem StringAt.snprintf (h : StringAt raw 0 t) {size : ℤ} (hpos : 0 < size)
    (hroom : t.length + size ≤ raw.size) {text : List Char} (htext : NUL ∉ text) :
    ∃ raw', snprintf raw t.length size text = some (raw', text.length) ∧
      raw'.size = raw.size ∧ StringAt raw' 0 (t ++ text.take (size.toNat - 1)) := by
  have hkept : (text.take (size.toNat - 1)).length ≤ size.toNat - 1 := List.length_take_le _ _
  have hlen : (text.take (size.toNat - 1) ++ [NUL]).length =
      (text.take (size.toNat - 1)).length + 1 := by
    rw [List.length_append, List.length_singleton]
  have hfits : t.length + (text.take (size.toNat - 1) ++ [NUL]).length ≤ raw.size := by omega
  obtain ⟨raw', hwrite, hsize, hcells⟩ := Block.writeList_of_le hfits
  rw [charsAt_zero_iff.mp h.chars, hlen, ← Nat.add_assoc, ← List.append_assoc,
    ← List.length_append, List.range_succ, List.map_append, List.map_singleton] at hcells
  obtain ⟨hchars, hnul⟩ := List.append_inj' hcells rfl
  refine ⟨raw', ?_, hsize, ?_, charsAt_zero_iff.mpr hchars, ?_, ?_⟩
  · rw [CString.snprintf, if_neg hpos.ne', if_neg (not_lt.mpr hpos.le)]
    dsimp only
    rw [hwrite]
    rfl
  · rw [Nat.zero_add, List.length_append, hsize]
    omega
  · rw [Nat.zero_add]
    exact (List.cons.inj hnul).1
  · rw [List.mem_append, not_or]
    exact ⟨h.first, fun hmem => htext (List.mem_of_mem_take hmem)⟩

end CString
