import Mathlib

/-!
# Percent encoding

Some characters are reserved, and stand for something else in a text. They are written as a `%` and
two digits.

* `decode_encode` says that a text comes back, if `%` itself is reserved.
* `not_mem_encode` says that reserved characters do not occur but for `%`.
* `whole_encode` says that every `%` is in front of two digits, those of a reserved character.

Where there is not room for a text, `IsLongestFitting` is its longest beginning that can be encoded
there.
-/

namespace Percent

/-! ## Encoding and decoding -/

/-- A digit of a hexadecimal number. -/
def hexDigit (n : ℕ) : Char := (Nat.digitChar n).toUpper

/-- The number of a digit. -/
def hexValue (c : Char) : Option ℕ :=
  if '0' ≤ c ∧ c ≤ '9' then some (c.toNat - 48)
  else if 'A' ≤ c ∧ c ≤ 'F' then some (c.toNat - 55)
  else if 'a' ≤ c ∧ c ≤ 'f' then some (c.toNat - 87)
  else none

/-- What stands for a reserved character. -/
def escape (c : Char) : List Char := ['%', hexDigit (c.toNat / 16), hexDigit (c.toNat % 16)]

/-- What stands for any character. -/
def encodeChar (reserved : Char → Bool) (c : Char) : List Char :=
  if reserved c then escape c else [c]

/-- A `%` that is not in front of two digits stands for itself. -/
def decode : List Char → List Char
  | '%' :: a :: b :: s =>
    match hexValue a, hexValue b with
    | some x, some y => Char.ofNat (16 * x + y) :: decode s
    | _, _ => '%' :: decode (a :: b :: s)
  | c :: s => c :: decode s
  | [] => []

variable {reserved : Char → Bool} {c : Char} {s l : List Char}

theorem hexValue_hexDigit : ∀ n < 16, hexValue (hexDigit n) = some n := by decide

/-- An escape is decoded. -/
theorem decode_escape (h : c.toNat < 256) (s : List Char) :
    decode (escape c ++ s) = c :: decode s := by
  have hhigh := hexValue_hexDigit (c.toNat / 16) (by omega)
  have hlow := hexValue_hexDigit (c.toNat % 16) (by omega)
  show decode ('%' :: hexDigit (c.toNat / 16) :: hexDigit (c.toNat % 16) :: s) = _
  rw [decode, hhigh, hlow]
  dsimp only
  rw [Nat.div_add_mod, Char.ofNat_toNat]

/-- Any other character is itself. -/
theorem decode_cons (h : c ≠ '%') (s : List Char) : decode (c :: s) = c :: decode s := by
  rw [decode]
  rintro a b s' rfl
  exact absurd rfl h

/-- **A text comes back.** -/
theorem decode_encode (hpercent : reserved '%' = true)
    (hbyte : ∀ c, reserved c = true → c.toNat < 256) (l : List Char) :
    decode (l.flatMap (encodeChar reserved)) = l := by
  induction l with
  | nil => rfl
  | cons c l ih =>
    rw [List.flatMap_cons, encodeChar]
    split_ifs with hreserved
    · rw [decode_escape (hbyte c hreserved), ih]
    · have hne : c ≠ '%' := fun heq => hreserved (heq ▸ hpercent)
      rw [List.singleton_append, decode_cons hne, ih]

/-- **Reserved characters do not occur** in an encoded text, but for `%`. -/
theorem not_mem_encode (hdigit : ∀ n < 16, reserved (hexDigit n) = false)
    (hbyte : ∀ c, reserved c = true → c.toNat < 256) {d : Char} (hd : reserved d = true)
    (hne : d ≠ '%') (l : List Char) : d ∉ l.flatMap (encodeChar reserved) := by
  intro hmem
  obtain ⟨c, -, hc⟩ := List.mem_flatMap.mp hmem
  rw [encodeChar] at hc
  split_ifs at hc with hreserved
  · have hcode := hbyte c hreserved
    have hhigh := hdigit (c.toNat / 16) (by omega)
    have hlow := hdigit (c.toNat % 16) (by omega)
    rw [escape, List.mem_cons, List.mem_cons, List.mem_singleton] at hc
    rcases hc with rfl | rfl | rfl
    · exact hne rfl
    · rw [hd] at hhigh
      cases hhigh
    · rw [hd] at hlow
      cases hlow
  · rw [List.mem_singleton.mp hc] at hd
    exact hreserved hd

/-- Every `%` begins what stands for a reserved character. -/
def Whole (reserved : Char → Bool) (s : List Char) : Prop :=
  ∀ before after, s = before ++ '%' :: after →
    ∃ c rest, reserved c = true ∧ '%' :: after = escape c ++ rest

theorem hexDigit_ne_percent : ∀ n < 16, hexDigit n ≠ '%' := by decide

/-- **No escape is cut off** in an encoded text. -/
theorem whole_encode (hpercent : reserved '%' = true)
    (hbyte : ∀ c, reserved c = true → c.toNat < 256) (l : List Char) :
    Whole reserved (l.flatMap (encodeChar reserved)) := by
  induction l with
  | nil =>
    intro before after h
    simp at h
  | cons c l ih =>
    intro before after h
    rw [List.flatMap_cons, encodeChar] at h
    split_ifs at h with hreserved
    · have hcode := hbyte c hreserved
      have hhigh := hexDigit_ne_percent (c.toNat / 16) (by omega)
      have hlow := hexDigit_ne_percent (c.toNat % 16) (by omega)
      rw [escape, List.cons_append, List.cons_append, List.singleton_append] at h
      -- a `%` is the first of these three characters, or behind them
      match before with
      | [] => exact ⟨c, _, hreserved, h.symm⟩
      | [_] => exact absurd (List.cons.inj (List.cons.inj h).2).1 hhigh
      | [_, _] => exact absurd (List.cons.inj (List.cons.inj (List.cons.inj h).2).2).1 hlow
      | _ :: _ :: _ :: before =>
        exact ih before after (List.cons.inj (List.cons.inj (List.cons.inj h).2).2).2
    · cases before with
      | nil =>
        rw [(List.cons.inj h).1] at hreserved
        exact absurd hpercent hreserved
      | cons _ before => exact ih before after (List.cons.inj h).2

/-! ## Where there is not room -/

variable {α β : Type} {enc : α → List β} {n : ℕ} {p q rest : List α}

/-- The longest beginning that can be encoded with so many symbols. -/
structure IsLongestFitting (enc : α → List β) (n : ℕ) (l p : List α) : Prop where
  /-- it is a beginning -/
  begins : p <+: l
  /-- there is room for it -/
  fits : (p.flatMap enc).length ≤ n
  /-- there is not for a longer one -/
  longest : ∀ q, q <+: l → (q.flatMap enc).length ≤ n → q <+: p

/-- It ends in front of the first symbol for which there is not room. -/
theorem isLongestFitting_of_next (hfits : (p.flatMap enc).length ≤ n)
    (hnext : ∀ a ∈ rest.head?, n < (p.flatMap enc).length + (enc a).length) :
    IsLongestFitting enc n (p ++ rest) p := by
  refine ⟨List.prefix_append p rest, hfits, fun q hq hqfits => ?_⟩
  rcases List.prefix_or_prefix_of_prefix hq (List.prefix_append p rest) with hle | hlonger
  · exact hle
  · obtain ⟨more, rfl⟩ := hlonger
    rw [List.prefix_append_right_inj] at hq
    cases more with
    | nil => rw [List.append_nil]
    | cons a more =>
      have hhead : a ∈ rest.head? := by
        obtain ⟨tail, rfl⟩ := hq
        rfl
      have hover := hnext a hhead
      rw [List.flatMap_append, List.length_append, List.flatMap_cons, List.length_append] at hqfits
      omega

end Percent
