import Mathlib

/-!
# The keys of WireGuard as text, after `encoding.c`

The bytes of a key are written and read without a branch or a table that depends on them. All
that decides is done by arithmetic: a difference that is negative has ones where it is shifted
to, and these are the mask of a summand. An `int` is a word of 32 bits here, and so is an
`unsigned int`. Whether a `char` is signed depends on the platform.

* `keyFromBase64_iff` says that `key_from_base64` takes the text of a key that `key_to_base64`
  writes, and no other;
* `keyFromHex_iff` says the same of `key_from_hex`, but for the case of the letters.
-/

namespace OppoA37.WireGuard

/-- A `uint8_t`, or a `char`. -/
abbrev Byte := BitVec 8

/-- An `int`, or an `unsigned int`. -/
abbrev Word := BitVec 32

/-- `WG_KEY_LEN` -/
def WG_KEY_LEN : ℕ := 32

/-- `WG_KEY_LEN_BASE64` -/
def WG_KEY_LEN_BASE64 : ℕ := (WG_KEY_LEN + 2) / 3 * 4 + 1

/-- `WG_KEY_LEN_HEX` -/
def WG_KEY_LEN_HEX : ℕ := WG_KEY_LEN * 2 + 1

/-- A key. -/
structure Key where
  bytes : List Byte
  length_eq : bytes.length = WG_KEY_LEN
  deriving DecidableEq

/-! ## Base64 -/

/-- The character of six bits, in `encode_base64`. -/
def encodeSextet (input : Byte) : Byte :=
  let x : Word := input.setWidth 32
  (x + 65 + ((25 - x).sshiftRight 8 &&& 6) - ((51 - x).sshiftRight 8 &&& 75)
    - ((61 - x).sshiftRight 8 &&& 15) + ((62 - x).sshiftRight 8 &&& 3)).setWidth 8

/-- The sextets of three bytes, in `encode_base64`. -/
def sextets (a b c : Byte) : List Byte :=
  let a : Word := a.setWidth 32
  let b : Word := b.setWidth 32
  let c : Word := c.setWidth 32
  [(a >>> 2 &&& 63).setWidth 8, ((a <<< 4 ||| b >>> 4) &&& 63).setWidth 8,
    ((b <<< 2 ||| c >>> 6) &&& 63).setWidth 8, (c &&& 63).setWidth 8]

/-- `encode_base64` -/
def encodeBase64 (a b c : Byte) : List Byte := (sextets a b c).map encodeSextet

/-- The loop of `key_to_base64`, and the bytes that are left. -/
def encodeGroups : ℕ → List Byte → List Byte × List Byte
  | n + 1, a :: b :: c :: key =>
    let (base64, rest) := encodeGroups n key
    (encodeBase64 a b c ++ base64, rest)
  | _, key => ([], key)

/-- `key_to_base64`, without the `NUL` at the end. -/
def keyToBase64 (key : List Byte) : List Byte :=
  let (base64, rest) := encodeGroups (WG_KEY_LEN / 3) key
  let last := encodeBase64 (rest.getD 0 0) (rest.getD 1 0) 0
  (base64 ++ last).set (WG_KEY_LEN_BASE64 - 2) 61

/-- A `char` as an `int`. -/
def promote (signed : Bool) (c : Byte) : Word := if signed then c.signExtend 32 else c.setWidth 32

/-- All ones for a character in this range, and zero for others. -/
def within (x lo hi : Word) : Word := ((lo - 1 - x) &&& (x - (hi + 1))).sshiftRight 8

/-- The value of a character, in `decode_base64`: -1 for all that stand for nothing. -/
def decodeValue (x : Word) : Word :=
  -1 + (within x 65 90 &&& (x - 64)) + (within x 97 122 &&& (x - 70))
    + (within x 48 57 &&& (x + 5)) + (within x 43 43 &&& 63) + (within x 47 47 &&& 64)

/-- `decode_base64` -/
def decodeBase64 (signed : Bool) (c₀ c₁ c₂ c₃ : Byte) : Word :=
  let value (c : Byte) := decodeValue (promote signed c)
  value c₀ <<< 18 ||| value c₁ <<< 12 ||| value c₂ <<< 6 ||| value c₃

/-- A byte of the value. -/
def byteOf (val : Word) (shift : ℕ) : Byte := (val.sshiftRight shift &&& 0xff).setWidth 8

/-- The sign of the value. -/
def signOf (val : Word) : Byte := (val >>> 31).setWidth 8

/-- The loop of `key_from_base64`: `ret`, the bytes of the key, and the characters that are left. -/
def decodeGroups (signed : Bool) : ℕ → List Byte → Byte → Byte × List Byte × List Byte
  | n + 1, c₀ :: c₁ :: c₂ :: c₃ :: base64, ret =>
    let val := decodeBase64 signed c₀ c₁ c₂ c₃
    let (ret, key, rest) := decodeGroups signed n base64 (ret ||| signOf val)
    (ret, byteOf val 16 :: byteOf val 8 :: byteOf val 0 :: key, rest)
  | _, base64, ret => (ret, [], base64)

/-- `1 & ((ret - 1) >> 8)`, for a byte: it is zero. -/
def isZero (ret : Byte) : Bool :=
  let x : Word := ret.setWidth 32
  (1 &&& (x - 1).sshiftRight 8) != 0

/-- `key_from_base64`, with what it leaves of the key. -/
def keyFromBase64 (signed : Bool) (key base64 : List Byte) : Bool × List Byte :=
  if base64.length ≠ WG_KEY_LEN_BASE64 - 1 ∨ base64.getD (WG_KEY_LEN_BASE64 - 2) 0 ≠ 61 then
    (false, key)
  else
    let (ret, key, rest) := decodeGroups signed (WG_KEY_LEN / 3) base64 0
    let val := decodeBase64 signed (rest.getD 0 0) (rest.getD 1 0) (rest.getD 2 0) 65
    let ret := ret ||| (signOf val ||| (val &&& 0xff).setWidth 8)
    (isZero ret, key ++ [byteOf val 16, byteOf val 8])

/-! ### One character -/

/-- A character stands for six bits, or for nothing. -/
theorem decodeValue_cases : ∀ (signed : Bool) (c : Byte), decodeValue (promote signed c) = -1 ∨
    (decodeValue (promote signed c)).toNat < 64 ∧
      encodeSextet ((decodeValue (promote signed c)).setWidth 8) = c := by
  decide +kernel

/-- What is written for six bits stands for them. -/
theorem decodeValue_encodeSextet : ∀ (signed : Bool) (x : BitVec 6),
    decodeValue (promote signed (encodeSextet (x.setWidth 8))) = x.setWidth 32 := by
  decide +kernel

theorem isZero_iff : ∀ ret : Byte, isZero ret = true ↔ ret = 0 := by
  decide +kernel

section

variable {signed : Bool} {a b c x c₀ c₁ c₂ c₃ : Byte} {val : Word}

/-- The six bits that a character stands for. -/
def value (signed : Bool) (c : Byte) : ℕ := (decodeValue (promote signed c)).toNat

/-- Six bits are read as they were written. -/
theorem value_encodeSextet (signed : Bool) (hx : x.toNat < 64) :
    value signed (encodeSextet x) = x.toNat := by
  have hsix : (x.setWidth 6).setWidth 8 = x := by
    apply BitVec.eq_of_toNat_eq
    rw [BitVec.toNat_setWidth, BitVec.toNat_setWidth]
    omega
  have h := decodeValue_encodeSextet signed (x.setWidth 6)
  rw [hsix] at h
  rw [value, h, BitVec.toNat_setWidth, BitVec.toNat_setWidth]
  omega

/-- A character that stands for six bits is the one that is written for them. -/
theorem eq_encodeSextet (hc : value signed c < 64) :
    c = encodeSextet (BitVec.ofNat 8 (value signed c)) := by
  rcases decodeValue_cases signed c with h | ⟨-, h⟩
  · rw [value, h] at hc
    exact absurd hc (by decide)
  · rw [value, BitVec.ofNat_toNat]
    exact h.symm

/-- The high bits of a value tell whether it is one. -/
theorem getLsbD_decodeValue {k : ℕ} (hk : 6 ≤ k) (hk' : k < 32) :
    (decodeValue (promote signed c)).getLsbD k = decide (¬ value signed c < 64) := by
  rcases decodeValue_cases signed c with h | ⟨hlt, -⟩
  · have hnot : ¬ value signed c < 64 := by
      rw [value, h]
      decide
    rw [h, decide_eq_true hnot]
    exact BitVec.getLsbD_allOnes.trans (decide_eq_true hk')
  · rw [decide_eq_false (not_not_intro (show value signed c < 64 from hlt))]
    exact Nat.testBit_lt_two_pow (hlt.trans_le (Nat.pow_le_pow_right two_pos hk))

theorem signOf_eq_zero_iff : signOf val = 0 ↔ val.getLsbD 31 = false := by
  rw [BitVec.getLsbD, Nat.testBit_eq_decide_div_mod_eq, decide_eq_false_iff_not,
    ← BitVec.toNat_inj, signOf, BitVec.toNat_setWidth, BitVec.toNat_ushiftRight,
    Nat.shiftRight_eq_div_pow]
  have hlt := val.isLt
  have hzero : (0 : Byte).toNat = 0 := rfl
  omega

/-- The value of four characters is negative when one of them stands for nothing. -/
theorem signOf_decodeBase64 : signOf (decodeBase64 signed c₀ c₁ c₂ c₃) = 0 ↔
    value signed c₀ < 64 ∧ value signed c₁ < 64 ∧ value signed c₂ < 64 ∧ value signed c₃ < 64 := by
  rw [signOf_eq_zero_iff, decodeBase64]
  simp only [BitVec.getLsbD_or, BitVec.getLsbD_shiftLeft]
  rw [getLsbD_decodeValue (by decide) (by decide), getLsbD_decodeValue (by decide) (by decide),
    getLsbD_decodeValue (by decide) (by decide), getLsbD_decodeValue (by decide) (by decide)]
  simp [and_assoc]

/-- Numbers without a common bit are added. -/
theorem mul_two_pow_or {m n i : ℕ} (hn : n < 2 ^ i) : m * 2 ^ i ||| n = m * 2 ^ i + n := by
  rw [← Nat.shiftLeft_eq, Nat.shiftLeft_add_eq_or_of_lt hn]

/-- The value of four characters that all stand for six bits. -/
theorem toNat_decodeBase64 (h₀ : value signed c₀ < 64) (h₁ : value signed c₁ < 64)
    (h₂ : value signed c₂ < 64) (h₃ : value signed c₃ < 64) :
    (decodeBase64 signed c₀ c₁ c₂ c₃).toNat = value signed c₀ * 262144 + value signed c₁ * 4096 +
      value signed c₂ * 64 + value signed c₃ := by
  have h₂₃ : value signed c₂ * 2 ^ 6 ||| value signed c₃ =
      value signed c₂ * 2 ^ 6 + value signed c₃ := mul_two_pow_or h₃
  have h₁₂₃ : value signed c₁ * 2 ^ 12 ||| (value signed c₂ * 2 ^ 6 + value signed c₃) =
      value signed c₁ * 2 ^ 12 + (value signed c₂ * 2 ^ 6 + value signed c₃) :=
    mul_two_pow_or (by omega)
  rw [decodeBase64]
  simp only [BitVec.toNat_or, BitVec.toNat_shiftLeft]
  rw [← value, ← value, ← value, ← value, Nat.shiftLeft_eq, Nat.shiftLeft_eq, Nat.shiftLeft_eq,
    Nat.mod_eq_of_lt (by omega), Nat.mod_eq_of_lt (by omega), Nat.mod_eq_of_lt (by omega),
    Nat.or_assoc, Nat.or_assoc, h₂₃, h₁₂₃, mul_two_pow_or (by omega)]
  omega

theorem toNat_byteOf (hval : val.toNat < 16777216) (shift : ℕ) :
    (byteOf val shift).toNat = val.toNat / 2 ^ shift % 256 := by
  have hmsb : val.msb = false := BitVec.msb_eq_false_iff_two_mul_lt.mpr (by omega)
  rw [byteOf, BitVec.toNat_setWidth, BitVec.toNat_and, BitVec.toNat_sshiftRight_of_msb_false hmsb,
    Nat.shiftRight_eq_div_pow]
  exact (congrArg (· % 256) (Nat.and_two_pow_sub_one_eq_mod _ 8)).trans (Nat.mod_mod _ _)

/-- The low six bits. -/
theorem toNat_sextet (x : Word) : ((x &&& 63).setWidth 8).toNat = x.toNat % 64 := by
  have hand : x.toNat &&& 63 = x.toNat % 64 := Nat.and_two_pow_sub_one_eq_mod x.toNat 6
  have hsix : (63 : Word).toNat = 63 := rfl
  rw [BitVec.toNat_setWidth, BitVec.toNat_and, hsix, hand]
  omega

/-- The bits of two bytes behind one another. -/
theorem toNat_shiftLeft_or {x y : Byte} {i j : ℕ} (hij : i + j = 8) :
    (x.setWidth 32 <<< i ||| y.setWidth 32 >>> j : Word).toNat =
      x.toNat * 2 ^ i + y.toNat / 2 ^ j := by
  have hx := x.isLt
  have hi : 2 ^ i ≤ 2 ^ 8 := Nat.pow_le_pow_right two_pos (by omega)
  have hmul : x.toNat * 2 ^ i < 2 ^ 8 * 2 ^ 8 := Nat.mul_lt_mul_of_lt_of_le hx hi (by positivity)
  have hy : y.toNat / 2 ^ j < 2 ^ i := by
    rw [Nat.div_lt_iff_lt_mul (by positivity), ← pow_add, hij]
    exact y.isLt
  rw [BitVec.toNat_or, BitVec.toNat_shiftLeft, BitVec.toNat_ushiftRight, BitVec.toNat_setWidth,
    BitVec.toNat_setWidth, Nat.shiftLeft_eq, Nat.shiftRight_eq_div_pow,
    Nat.mod_eq_of_lt (a := x.toNat) (by omega), Nat.mod_eq_of_lt (by omega),
    Nat.mod_eq_of_lt (a := y.toNat) (y.isLt.trans (by decide)), mul_two_pow_or hy]

/-- The sextets as numbers. -/
theorem map_toNat_sextets (a b c : Byte) : (sextets a b c).map BitVec.toNat =
    [a.toNat / 4, a.toNat % 4 * 16 + b.toNat / 16, b.toNat % 16 * 4 + c.toNat / 64,
      c.toNat % 64] := by
  have ha := a.isLt
  have hb := b.isLt
  have hc := c.isLt
  have hab := toNat_shiftLeft_or (x := a) (y := b) (i := 4) (j := 4) rfl
  have hbc := toNat_shiftLeft_or (x := b) (y := c) (i := 2) (j := 6) rfl
  have hwide : ∀ x : Byte, (x.setWidth 32).toNat = x.toNat := fun x =>
    (BitVec.toNat_setWidth 32 x).trans (Nat.mod_eq_of_lt (x.isLt.trans (by decide)))
  simp only [sextets, List.map_cons, List.map_nil, toNat_sextet, hab, hbc]
  rw [BitVec.toNat_ushiftRight, hwide, hwide, Nat.shiftRight_eq_div_pow]
  have h₀ : a.toNat / 2 ^ 2 % 64 = a.toNat / 4 := by omega
  have h₁ : (a.toNat * 2 ^ 4 + b.toNat / 2 ^ 4) % 64 = a.toNat % 4 * 16 + b.toNat / 16 := by omega
  have h₂ : (b.toNat * 2 ^ 2 + c.toNat / 2 ^ 6) % 64 = b.toNat % 16 * 4 + c.toNat / 64 := by omega
  rw [h₀, h₁, h₂]

theorem encodeBase64_eq (a b c : Byte) : encodeBase64 a b c =
    ((sextets a b c).map BitVec.toNat).map fun n => encodeSextet (BitVec.ofNat 8 n) := by
  rw [encodeBase64, List.map_map]
  refine List.map_congr_left fun x _ => ?_
  rw [Function.comp_apply, BitVec.ofNat_toNat, BitVec.setWidth_eq]

/-- What is written stands for the sextets. -/
theorem map_value_encodeBase64 (signed : Bool) (a b c : Byte) :
    (encodeBase64 a b c).map (value signed) = (sextets a b c).map BitVec.toNat := by
  rw [encodeBase64, List.map_map]
  refine List.map_congr_left fun x hx => value_encodeSextet signed ?_
  have hmem : x.toNat ∈ (sextets a b c).map BitVec.toNat := List.mem_map_of_mem hx
  have ha := a.isLt
  have hb := b.isLt
  have hc := c.isLt
  rw [map_toNat_sextets] at hmem
  simp only [List.mem_cons, List.not_mem_nil, or_false] at hmem
  omega

/-- **Four characters** stand for three bytes if and only if these are written so. -/
theorem decodeBase64_iff (signed : Bool) : (signOf (decodeBase64 signed c₀ c₁ c₂ c₃) = 0 ∧
    byteOf (decodeBase64 signed c₀ c₁ c₂ c₃) 16 = a ∧
    byteOf (decodeBase64 signed c₀ c₁ c₂ c₃) 8 = b ∧
    byteOf (decodeBase64 signed c₀ c₁ c₂ c₃) 0 = c) ↔ [c₀, c₁, c₂, c₃] = encodeBase64 a b c := by
  constructor
  · rintro ⟨hsign, rfl, rfl, rfl⟩
    obtain ⟨h₀, h₁, h₂, h₃⟩ := signOf_decodeBase64.mp hsign
    have hval := toNat_decodeBase64 h₀ h₁ h₂ h₃
    rw [encodeBase64_eq, map_toNat_sextets, toNat_byteOf (by omega), toNat_byteOf (by omega),
      toNat_byteOf (by omega), hval]
    have hlist : [c₀, c₁, c₂, c₃] =
        [value signed c₀, value signed c₁, value signed c₂, value signed c₃].map
          fun n => encodeSextet (BitVec.ofNat 8 n) := by
      rw [List.map_cons, List.map_cons, List.map_cons, List.map_cons, List.map_nil,
        ← eq_encodeSextet h₀, ← eq_encodeSextet h₁, ← eq_encodeSextet h₂, ← eq_encodeSextet h₃]
    rw [hlist]
    congr 1
    simp only [List.cons.injEq, and_true]
    refine ⟨?_, ?_, ?_, ?_⟩ <;> omega
  · intro heq
    have hvalues := congrArg (List.map (value signed)) heq
    rw [map_value_encodeBase64, map_toNat_sextets] at hvalues
    simp only [List.map_cons, List.map_nil, List.cons.injEq, and_true] at hvalues
    obtain ⟨hv₀, hv₁, hv₂, hv₃⟩ := hvalues
    have ha := a.isLt
    have hb := b.isLt
    have hc := c.isLt
    have hvalid : value signed c₀ < 64 ∧ value signed c₁ < 64 ∧ value signed c₂ < 64 ∧
        value signed c₃ < 64 := ⟨by omega, by omega, by omega, by omega⟩
    have hval := toNat_decodeBase64 hvalid.1 hvalid.2.1 hvalid.2.2.1 hvalid.2.2.2
    refine ⟨signOf_decodeBase64.mpr hvalid, ?_, ?_, ?_⟩ <;>
    · rw [← BitVec.toNat_inj, toNat_byteOf (by omega), hval]
      omega

/-! ### The loops -/

theorem length_encodeBase64 (a b c : Byte) : (encodeBase64 a b c).length = 4 := rfl

/-- The groups of the bytes in front, and the bytes behind them. -/
theorem encodeGroups_append {n : ℕ} {key : List Byte} (hkey : key.length = 3 * n)
    (rest : List Byte) : encodeGroups n (key ++ rest) = ((encodeGroups n key).1, rest) ∧
      (encodeGroups n key).1.length = 4 * n := by
  induction n generalizing key with
  | zero =>
    obtain rfl := List.eq_nil_of_length_eq_zero hkey
    exact ⟨rfl, rfl⟩
  | succ n ih =>
    match key, hkey with
    | a :: b :: c :: key, hkey =>
      have hkey' : key.length = 3 * n := by
        simp only [List.length_cons] at hkey
        omega
      obtain ⟨happend, hlength⟩ := ih hkey'
      refine ⟨?_, ?_⟩
      · rw [List.cons_append, List.cons_append, List.cons_append, encodeGroups, happend,
          encodeGroups]
      · rw [encodeGroups, List.length_append, hlength, length_encodeBase64]
        omega

/-- Groups that were written are read. -/
theorem decodeGroups_encodeGroups {n : ℕ} {key : List Byte} (hkey : key.length = 3 * n)
    (signed : Bool) (rest : List Byte) (ret : Byte) :
    decodeGroups signed n ((encodeGroups n key).1 ++ rest) ret = (ret, key, rest) := by
  induction n generalizing key ret with
  | zero =>
    obtain rfl := List.eq_nil_of_length_eq_zero hkey
    rfl
  | succ n ih =>
    match key, hkey with
    | a :: b :: c :: key, hkey =>
      have hkey' : key.length = 3 * n := by
        simp only [List.length_cons] at hkey
        omega
      obtain ⟨c₀, c₁, c₂, c₃, hfour⟩ : ∃ c₀ c₁ c₂ c₃, [c₀, c₁, c₂, c₃] = encodeBase64 a b c :=
        ⟨_, _, _, _, rfl⟩
      obtain ⟨hsign, hbyte₀, hbyte₁, hbyte₂⟩ := (decodeBase64_iff signed).mpr hfour
      rw [encodeGroups, ← hfour, List.append_assoc]
      simp only [List.cons_append, List.nil_append, decodeGroups]
      have hor : ret ||| 0 = ret := BitVec.or_zero
      rw [hsign, hor, ih hkey', hbyte₀, hbyte₁, hbyte₂]

/-- Groups that are read without an error were written. -/
theorem eq_of_decodeGroups {n : ℕ} {base64 : List Byte} (hlength : 4 * n ≤ base64.length)
    {ret ret' : Byte} {key rest : List Byte}
    (h : decodeGroups signed n base64 ret = (ret', key, rest)) (hret : ret' = 0) :
    ret = 0 ∧ key.length = 3 * n ∧ base64 = (encodeGroups n key).1 ++ rest := by
  induction n generalizing base64 ret key with
  | zero =>
    obtain ⟨rfl, rfl, rfl⟩ := by simpa [decodeGroups] using h
    exact ⟨hret, rfl, rfl⟩
  | succ n ih =>
    match base64, hlength with
    | c₀ :: c₁ :: c₂ :: c₃ :: base64, hlength =>
      have hlength' : 4 * n ≤ base64.length := by
        simp only [List.length_cons] at hlength
        omega
      rw [decodeGroups] at h
      obtain ⟨rfl, hpair⟩ := Prod.mk.inj h
      obtain ⟨rfl, rfl⟩ := Prod.mk.inj hpair
      obtain ⟨hor, hkey, hbase⟩ := ih hlength' rfl
      obtain ⟨hzero, hsign⟩ := BitVec.or_eq_zero_iff.mp hor
      refine ⟨hzero, ?_, ?_⟩
      · simp only [List.length_cons, hkey]
        omega
      · have hfour := (decodeBase64_iff signed).mp ⟨hsign, rfl, rfl, rfl⟩
        rw [encodeGroups, List.append_assoc, ← hbase, ← hfour]
        rfl

/-- The bytes of the groups, whatever they are. -/
theorem length_decodeGroups {n : ℕ} {base64 : List Byte} (hlength : 4 * n ≤ base64.length)
    (signed : Bool) (ret : Byte) : (decodeGroups signed n base64 ret).2.1.length = 3 * n := by
  induction n generalizing base64 ret with
  | zero => simp [decodeGroups]
  | succ n ih =>
    match base64, hlength with
    | c₀ :: c₁ :: c₂ :: c₃ :: base64, hlength =>
      have hlength' : 4 * n ≤ base64.length := by
        simp only [List.length_cons] at hlength
        omega
      rw [decodeGroups]
      simp only [List.length_cons, ih hlength']
      omega

/-- What is left of the key has its length. -/
theorem length_keyFromBase64 (signed : Bool) {key : List Byte} (hkey : key.length = WG_KEY_LEN)
    (base64 : List Byte) : (keyFromBase64 signed key base64).2.length = WG_KEY_LEN := by
  rw [keyFromBase64]
  split_ifs with h
  · exact hkey
  · rw [not_or, not_not] at h
    have hle : 4 * (WG_KEY_LEN / 3) ≤ base64.length := by
      rw [h.1]
      decide
    dsimp only
    rw [List.length_append, length_decodeGroups hle]
    rfl

/-- The last character of a key. -/
theorem encodeBase64_zero (a b : Byte) : ∃ c₀ c₁ c₂, encodeBase64 a b 0 = [c₀, c₁, c₂, 65] := by
  refine ⟨_, _, _, rfl⟩

/-- The text of a key, from its groups and the two bytes that are left. -/
theorem keyToBase64_eq {key : List Byte} (hkey : key.length = 30)
    (h : encodeBase64 a b 0 = [c₀, c₁, c₂, 65]) :
    keyToBase64 (key ++ [a, b]) = (encodeGroups 10 key).1 ++ [c₀, c₁, c₂, 61] := by
  obtain ⟨happend, hlength⟩ := encodeGroups_append (n := 10) hkey [a, b]
  rw [keyToBase64]
  have hdiv : WG_KEY_LEN / 3 = 10 := rfl
  rw [hdiv, happend]
  simp only [List.getD_cons_zero, List.getD_cons_succ, h]
  rw [List.set_append_right _ _ (by rw [hlength]; decide), hlength]
  rfl

/-- A list that is this long ends in so many elements. -/
theorem exists_append_last {l : List Byte} {n k : ℕ} (h : l.length = n + k) :
    ∃ l₁ l₂, l = l₁ ++ l₂ ∧ l₁.length = n ∧ l₂.length = k :=
  ⟨l.take n, l.drop n, (List.take_append_drop n l).symm, by simp [h], by simp [h]⟩

theorem byteOf_zero (val : Word) : byteOf val 0 = (val &&& 0xff).setWidth 8 := by
  rw [byteOf, BitVec.sshiftRight_zero]

/-- The length and the last character of a text of groups. -/
theorem getD_last {front last : List Byte} (hfront : front.length = 40) :
    (front ++ last).getD 43 0 = last.getD 3 0 := by
  rw [List.getD_append_right _ _ _ _ (by omega), hfront]

/-- The characters of a text stand for six bits. -/
theorem exists_sextet {a b c d : Byte} (h : d ∈ encodeBase64 a b c) :
    ∃ x : BitVec 6, d = encodeSextet (x.setWidth 8) := by
  have hsextet : ∀ x : Word, ∃ y : BitVec 6, (x &&& 63).setWidth 8 = (y.setWidth 8 : Byte) := by
    intro x
    refine ⟨x.setWidth 6, ?_⟩
    rw [← BitVec.toNat_inj, toNat_sextet]
    simp
    omega
  obtain ⟨e, he, rfl⟩ := List.mem_map.mp h
  rw [sextets, List.mem_cons, List.mem_cons, List.mem_cons, List.mem_singleton] at he
  rcases he with rfl | rfl | rfl | rfl <;>
  · obtain ⟨y, hy⟩ := hsextet _
    exact ⟨y, congrArg encodeSextet hy⟩

theorem exists_sextet_of_groups {n : ℕ} {key : List Byte} {d : Byte}
    (h : d ∈ (encodeGroups n key).1) : ∃ x : BitVec 6, d = encodeSextet (x.setWidth 8) := by
  fun_induction encodeGroups n key with
  | case1 n a b c key base64 rest hgroups ih =>
    rcases List.mem_append.mp h with h | h
    · exact exists_sextet h
    · rw [hgroups] at ih
      exact ih h
  | case2 => cases h

/-- The characters of a key stand for six bits, or are the sign at the end. -/
theorem mem_keyToBase64 {key : List Byte} {d : Byte} (h : d ∈ keyToBase64 key) :
    d = 61 ∨ ∃ x : BitVec 6, d = encodeSextet (x.setWidth 8) := by
  rw [keyToBase64] at h
  rcases List.mem_or_eq_of_mem_set h with h | h
  · rcases List.mem_append.mp h with h | h
    · exact Or.inr (exists_sextet_of_groups h)
    · exact Or.inr (exists_sextet h)
  · exact Or.inl h

/-- The text of a key has 44 characters. -/
theorem length_keyToBase64 (key : Key) : (keyToBase64 key.bytes).length = 44 := by
  obtain ⟨bytes, hbytes⟩ := key
  obtain ⟨front, last, rfl, hfront, hlast⟩ := exists_append_last (n := 30) (k := 2) hbytes
  obtain ⟨a, b, rfl⟩ := List.length_eq_two.mp hlast
  obtain ⟨c₀, c₁, c₂, hfour⟩ := encodeBase64_zero a b
  obtain ⟨-, hencoded⟩ := encodeGroups_append (n := 10) hfront []
  rw [keyToBase64_eq hfront hfour, List.length_append, hencoded]
  rfl

/-- A key that was written is read. -/
theorem keyFromBase64_keyToBase64 (signed : Bool) (old : List Byte) (key : Key) :
    keyFromBase64 signed old (keyToBase64 key.bytes) = (true, key.bytes) := by
  obtain ⟨bytes, hbytes⟩ := key
  obtain ⟨front, last, rfl, hfront, hlast⟩ := exists_append_last (n := 30) (k := 2) hbytes
  obtain ⟨a, b, rfl⟩ := List.length_eq_two.mp hlast
  obtain ⟨c₀, c₁, c₂, hfour⟩ := encodeBase64_zero a b
  obtain ⟨hsign, hbyte₀, hbyte₁, hbyte₂⟩ := (decodeBase64_iff signed).mpr hfour.symm
  obtain ⟨-, hencoded⟩ := encodeGroups_append (n := 10) hfront []
  have hlen : WG_KEY_LEN_BASE64 - 1 = 44 := rfl
  have hlast43 : WG_KEY_LEN_BASE64 - 2 = 43 := rfl
  have hdiv : WG_KEY_LEN / 3 = 10 := rfl
  rw [keyToBase64_eq hfront hfour, keyFromBase64, hlen, hlast43, hdiv, if_neg,
    decodeGroups_encodeGroups (n := 10) hfront]
  · simp only [List.getD_cons_zero, List.getD_cons_succ]
    rw [hsign, hbyte₀, hbyte₁, ← byteOf_zero, hbyte₂]
    rfl
  · rw [not_or, not_not, not_not, List.length_append, hencoded, getD_last hencoded]
    exact ⟨rfl, rfl⟩

/-- A text that is taken for a key was written for it. -/
theorem eq_of_keyFromBase64 {signed : Bool} {old base64 : List Byte} {key : Key}
    (h : keyFromBase64 signed old base64 = (true, key.bytes)) : base64 = keyToBase64 key.bytes := by
  obtain ⟨bytes, hbytes⟩ := key
  obtain ⟨front, last, rfl, hfront, hlast⟩ := exists_append_last (n := 30) (k := 2) hbytes
  obtain ⟨a, b, rfl⟩ := List.length_eq_two.mp hlast
  obtain ⟨c₀, c₁, c₂, hfour⟩ := encodeBase64_zero a b
  rw [keyToBase64_eq hfront hfour]
  have hlen : WG_KEY_LEN_BASE64 - 1 = 44 := rfl
  have hlast43 : WG_KEY_LEN_BASE64 - 2 = 43 := rfl
  have hdiv : WG_KEY_LEN / 3 = 10 := rfl
  rw [keyFromBase64, hlen, hlast43, hdiv] at h
  split_ifs at h with hno
  · exact absurd (Prod.mk.inj h).1 Bool.false_ne_true
  · rw [not_or, not_not, not_not] at hno
    rcases hgroups : decodeGroups signed 10 base64 0 with ⟨ret, key, rest⟩
    rw [hgroups] at h
    obtain ⟨hzero, hkey⟩ := Prod.mk.inj h
    obtain ⟨hret, hor⟩ := BitVec.or_eq_zero_iff.mp ((isZero_iff _).mp hzero)
    obtain ⟨hsign', hlow⟩ := BitVec.or_eq_zero_iff.mp hor
    obtain ⟨-, hkeyLength, rfl⟩ := eq_of_decodeGroups (by omega) hgroups hret
    obtain ⟨-, hencoded⟩ := encodeGroups_append hkeyLength []
    -- what is left are four characters, the last of which is `=`
    have hrest : rest.length = 4 := by
      have hlength := hno.1
      rw [List.length_append] at hlength
      omega
    obtain ⟨r₀, r₁, r₂, r₃, rfl⟩ := List.length_eq_four.mp hrest
    obtain ⟨rfl, hpair⟩ := List.append_inj hkey (hkeyLength.trans hfront.symm)
    obtain ⟨hread₀, htail⟩ := List.cons.inj hpair
    obtain ⟨hread₁, -⟩ := List.cons.inj htail
    have hequals := hno.2
    rw [getD_last (by omega)] at hequals
    obtain rfl : r₃ = 61 := hequals
    rw [← byteOf_zero] at hlow
    have hread : [r₀, r₁, r₂, 65] = encodeBase64 a b 0 :=
      (decodeBase64_iff signed).mp ⟨hsign', hread₀, hread₁, hlow⟩
    rw [hfour] at hread
    simp only [List.cons.injEq, and_true] at hread
    rw [hread.1, hread.2.1, hread.2.2]

/-- **A text is taken for a key** if and only if it is the one that is written for it. -/
theorem keyFromBase64_iff (signed : Bool) (old base64 : List Byte) (key : Key) :
    keyFromBase64 signed old base64 = (true, key.bytes) ↔ base64 = keyToBase64 key.bytes := by
  constructor
  · exact eq_of_keyFromBase64
  · rintro rfl
    exact keyFromBase64_keyToBase64 signed old key

end

/-! ## Hexadecimal -/

/-- The digit of four bits, in `key_to_hex`, in the arithmetic of `unsigned int`. -/
def hexDigit (x : Word) : Byte := (87 + x + ((x - 10) >>> 8 &&& ~~~38)).setWidth 8

/-- The digits of a byte, in `key_to_hex`. -/
def hexDigits (b : Byte) : List Byte :=
  let x : Word := b.setWidth 32
  [hexDigit (x >>> 4), hexDigit (x &&& 0xf)]

/-- `key_to_hex`, without the `NUL` at the end. -/
def keyToHex (key : List Byte) : List Byte := key.flatMap hexDigits

/-- What `key_from_hex` makes of a character: the bits it puts into `ret`, and `c_val`. -/
def hexValue (c : Byte) : Byte × Byte :=
  let wide (b : Byte) : Word := b.setWidth 32
  let cNum : Byte := (wide c ^^^ 48).setWidth 8
  let cNum0 : Byte := ((wide cNum - 10) >>> 8).setWidth 8
  let cAlpha : Byte := ((wide c &&& ~~~32) - 55).setWidth 8
  let cAlpha0 : Byte := (((wide cAlpha - 10) ^^^ (wide cAlpha - 16)) >>> 8).setWidth 8
  (((wide (cNum0 ||| cAlpha0) - 1).sshiftRight 8).setWidth 8,
    (cNum0 &&& cNum) ||| (cAlpha0 &&& cAlpha))

/-- The loop of `key_from_hex`: `ret`, and the bytes of the key. -/
def hexPairs : List Byte → Byte → Byte × List Byte
  | c :: d :: hex, ret =>
    let (ret₁, high) := hexValue c
    let (ret₂, low) := hexValue d
    let cAcc : Byte := (high.setWidth 32 * (16 : Word)).setWidth 8
    let (ret, key) := hexPairs hex (ret ||| ret₁ ||| ret₂)
    (ret, (cAcc ||| low) :: key)
  | _, ret => (ret, [])

/-- `key_from_hex`, with what it leaves of the key. -/
def keyFromHex (key hex : List Byte) : Bool × List Byte :=
  if hex.length ≠ WG_KEY_LEN_HEX - 1 then (false, key)
  else
    let (ret, key) := hexPairs hex 0
    (isZero ret, key)

/-- A letter of the alphabet as a small one. -/
def lower (c : Byte) : Byte := if 65 ≤ c.toNat ∧ c.toNat ≤ 90 then c + 32 else c

/-- A character has a value if and only if it is a digit, small or capital. -/
theorem hexValue_iff : ∀ (c : Byte) (x : BitVec 4),
    hexValue c = (0, x.setWidth 8) ↔ lower c = hexDigit (x.setWidth 32) := by
  decide +kernel

/-- A value has four bits. -/
theorem exists_hexValue : ∀ c : Byte, (hexValue c).1 = 0 →
    hexValue c = (0, ((hexValue c).2.setWidth 4).setWidth 8) := by
  decide +kernel

/-- A byte and its halves. -/
theorem byte_halves : ∀ b : Byte,
    ((b >>> 4).setWidth 4).setWidth 32 = b.setWidth 32 >>> 4 ∧
    (b.setWidth 4).setWidth 32 = (b.setWidth 32 &&& 0xf : Word) ∧
    (((((b >>> 4).setWidth 4).setWidth 8).setWidth 32 * (16 : Word)).setWidth 8 |||
      (b.setWidth 4).setWidth 8) = b := by
  decide +kernel

/-- The halves of a byte. -/
theorem halves_byte : ∀ x y : BitVec 4,
    ((((x.setWidth 8).setWidth 32 * (16 : Word)).setWidth 8 ||| y.setWidth 8) >>> 4).setWidth 4 =
      x ∧
    (((x.setWidth 8).setWidth 32 * (16 : Word)).setWidth 8 ||| y.setWidth 8).setWidth 4 = y := by
  decide +kernel

section

variable {b c d : Byte}

/-- **Two characters** stand for a byte if and only if they are its digits. -/
theorem hexValue_pair_iff : ((hexValue c).1 = 0 ∧ (hexValue d).1 = 0 ∧
    (((hexValue c).2.setWidth 32 * (16 : Word)).setWidth 8 ||| (hexValue d).2) = b) ↔
      [lower c, lower d] = hexDigits b := by
  obtain ⟨hhigh, hlow, hjoin⟩ := byte_halves b
  rw [hexDigits, ← hhigh, ← hlow]
  constructor
  · rintro ⟨hc, hd, hb⟩
    have hc' := exists_hexValue c hc
    have hd' := exists_hexValue d hd
    rw [hc', hd'] at hb
    obtain ⟨hx, hy⟩ := halves_byte ((hexValue c).2.setWidth 4) ((hexValue d).2.setWidth 4)
    rw [hb] at hx hy
    rw [(hexValue_iff c _).mp (hx ▸ hc'), (hexValue_iff d _).mp (hy ▸ hd')]
  · intro h
    obtain ⟨hc, htail⟩ := List.cons.inj h
    obtain ⟨hd, -⟩ := List.cons.inj htail
    rw [(hexValue_iff c _).mpr hc, (hexValue_iff d _).mpr hd]
    exact ⟨rfl, rfl, hjoin⟩

end

theorem keyToHex_cons (b : Byte) (key : List Byte) :
    keyToHex (b :: key) = hexDigits b ++ keyToHex key := rfl

theorem length_keyToHex (key : List Byte) : (keyToHex key).length = 2 * key.length := by
  induction key with
  | nil => rfl
  | cons b key ih =>
    rw [keyToHex_cons, List.length_append, ih, List.length_cons, hexDigits]
    simp only [List.length_cons, List.length_nil]
    omega

/-- Pairs that are read without an error are the digits of the bytes. -/
theorem hexPairs_iff {hex key : List Byte} (hlength : hex.length = 2 * key.length) (ret : Byte) :
    hexPairs hex ret = (0, key) ↔ ret = 0 ∧ hex.map lower = keyToHex key := by
  induction key generalizing hex ret with
  | nil =>
    obtain rfl := List.eq_nil_of_length_eq_zero hlength
    simp [hexPairs, keyToHex]
  | cons b key ih =>
    match hex, hlength with
    | c :: d :: hex, hlength =>
      have hlength' : hex.length = 2 * key.length := by
        simp only [List.length_cons] at hlength
        omega
      have hrest := ih hlength' (ret ||| (hexValue c).1 ||| (hexValue d).1)
      have hpair : (lower c :: lower d :: hex.map lower = hexDigits b ++ keyToHex key) ↔
          [lower c, lower d] = hexDigits b ∧ hex.map lower = keyToHex key := by
        simp [hexDigits, and_assoc]
      rw [keyToHex_cons, List.map_cons, List.map_cons, hpair, ← hexValue_pair_iff, hexPairs]
      have hor : ∀ x y : Byte, x ||| y = 0 ↔ x = 0 ∧ y = 0 := fun _ _ => BitVec.or_eq_zero_iff
      rw [Prod.ext_iff, hor, hor] at hrest
      simp only [Prod.mk.injEq, List.cons.injEq]
      rw [and_left_comm, hrest]
      constructor
      · rintro ⟨hbyte, ⟨⟨hret, hc⟩, hd⟩, hmap⟩
        exact ⟨hret, ⟨hc, hd, hbyte⟩, hmap⟩
      · rintro ⟨hret, ⟨hc, hd, hbyte⟩, hmap⟩
        exact ⟨hbyte, ⟨⟨hret, hc⟩, hd⟩, hmap⟩

/-- **A text is taken for a key** if and only if it is the one that is written for it, but for the
case of its letters. -/
theorem keyFromHex_iff (old hex : List Byte) (key : Key) :
    keyFromHex old hex = (true, key.bytes) ↔ hex.map lower = keyToHex key.bytes := by
  have hlen : WG_KEY_LEN_HEX - 1 = 2 * key.bytes.length := by
    rw [key.length_eq]
    rfl
  rw [keyFromHex, hlen]
  split_ifs with hno
  · refine iff_of_false (fun h => absurd (Prod.mk.inj h).1 Bool.false_ne_true) fun h => hno ?_
    rw [← length_keyToHex, ← h, List.length_map]
  · have hpairs := hexPairs_iff (not_not.mp hno) 0
    rw [Prod.ext_iff] at hpairs
    rw [Prod.mk.injEq, isZero_iff, hpairs]
    exact and_iff_right rfl

end OppoA37.WireGuard
