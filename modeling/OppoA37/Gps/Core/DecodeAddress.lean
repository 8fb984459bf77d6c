import OppoA37.Lib.Block

/-!
# Addresses of short messages

An address comes as binary coded digits: two in a byte, the first one in its low half, and a filler
where the last byte has but one. `decodeAddress` writes the digits to a buffer, as long as there is
room for one and for the `NUL` behind it, and skips every half that is no digit.

* `decodeAddress_of_prefix` says which text is written.
* `decode_address` says that an address that was encoded and fits comes back, and that whatever the
  bytes are, there is a text in the buffer.
-/

namespace OppoA37.Address

/-! ## The function -/

/-- `addr_prefix` -/
def addrPrefix : UInt8 := 0x91

/-- A half of a byte goes to `addr_string` if it is a digit and there is room. -/
def decodeHalf (stringSize : ℤ) (out : Block UInt8 × ℕ) (half : UInt8) :
    Option (Block UInt8 × ℕ) :=
  if half ≤ 9 ∧ (out.2 : ℤ) < stringSize - 1 then
    (out.1.write out.2 (half + 48)).map fun b => (b, out.2 + 1)
  else some out

/-- A turn of the loop. -/
def decodeByte (stringSize : ℤ) (out : Block UInt8 × ℕ) (ch : UInt8) :
    Option (Block UInt8 × ℕ) :=
  (decodeHalf stringSize out (ch &&& 0x0F)).bind fun out => decodeHalf stringSize out (ch >>> 4)

/-- `decodeAddress`; `none` if something is written outside of `addr_string`. -/
def decodeAddress (addrString : Option (Block UInt8)) (stringSize : ℤ)
    (data : Option (ℕ → UInt8)) (dataSize : ℤ) : Option (Option (Block UInt8) × ℤ) :=
  match data, addrString with
  | some data, some addrString =>
    -- prefix not correct
    if data 0 ≠ addrPrefix then (addrString.write 0 0).map fun b => (some b, 0)
    else do
      let (b, idxOutput) ← ((List.range (dataSize - 1).toNat).map fun i => data (i + 1)).foldlM
        (decodeByte stringSize) (addrString, 0)
      let b ← b.write idxOutput 0
      some (some b, idxOutput)
  | _, _ => some (addrString, 0)

/-! ## What is claimed -/

/-- A digit as a number. -/
def digitByte (a : Fin 10) : UInt8 := UInt8.ofNat a.val

/-- The digits of an address in bytes, two in each. -/
def encodeDigits : List (Fin 10) → List UInt8
  | [] => []
  | [a] => [0xF0 ||| digitByte a]
  | a :: b :: digits => (digitByte b <<< 4 ||| digitByte a) :: encodeDigits digits

/-- The characters of an address. -/
def digitText (digits : List (Fin 10)) : List UInt8 := digits.map fun a => digitByte a + 48

/-- A buffer holds a text, with the `NUL` behind it. -/
structure HoldsText (b : Block UInt8) (text : List UInt8) : Prop where
  /-- there is room for both -/
  room : text.length < b.size
  /-- the text -/
  cells : (List.range text.length).map b.get = text
  /-- the `NUL` -/
  terminated : b.get text.length = 0
  /-- it is the first one -/
  first : 0 ∉ text

/-- Some bytes in memory. -/
def StartsWith (data : ℕ → UInt8) (bytes : List UInt8) : Prop :=
  (List.range bytes.length).map data = bytes

/-! ## The text that is written -/

/-- The halves that are digits. -/
def digitHalves (halves : List UInt8) : List UInt8 := halves.filter fun half => half ≤ 9

/-- The digits in some bytes. -/
def digitsIn (bytes : List UInt8) : List UInt8 :=
  digitHalves (bytes.flatMap fun ch => [ch &&& 0x0F, ch >>> 4])

/-- The text so far: the digits, as long as there is room. -/
structure Written (room : ℕ) (size : ℕ) (digits : List UInt8) (out : Block UInt8 × ℕ) : Prop where
  index : out.2 = (digits.take room).length
  text : (List.range out.2).map out.1.get = (digits.take room).map (· + 48)
  size : out.1.size = size

variable {room size : ℕ} {digits : List UInt8} {out : Block UInt8 × ℕ} {stringSize : ℤ}

/-- **One half** adds a digit, or nothing. -/
theorem decodeHalf_written (hroom : (room : ℤ) = stringSize - 1) (hsize : room < size)
    (h : Written room size digits out) (half : UInt8) :
    ∃ out', decodeHalf stringSize out half = some out' ∧
      Written room size (digits ++ digitHalves [half]) out' := by
  obtain ⟨hindex, htext, hblock⟩ := h
  rw [decodeHalf, ← hroom, digitHalves]
  rw [List.length_take] at hindex
  by_cases hdigit : half ≤ 9
  · rw [List.filter_cons_of_pos (by simpa using hdigit), List.filter_nil]
    by_cases hfree : digits.length < room
    · have hall : out.2 = digits.length := by omega
      rw [if_pos ⟨hdigit, by omega⟩, Block.write, if_pos (by omega)]
      rw [List.take_of_length_le hfree.le] at htext
      refine ⟨_, rfl, ?_, ?_, hblock⟩
      · rw [List.take_of_length_le (by simp; omega), List.length_append, ← hall]
        rfl
      · rw [List.take_of_length_le (by simp; omega), List.map_append, ← htext]
        exact Block.map_range_update _ _ _
    · -- the buffer is full
      rw [if_neg (by omega)]
      have htake : (digits ++ [half]).take room = digits.take room :=
        List.take_append_of_le_length (not_lt.mp hfree)
      exact ⟨out, rfl, by rw [htake, List.length_take]; exact hindex, by rw [htake]; exact htext,
        hblock⟩
  · rw [if_neg fun hand => hdigit hand.1, List.filter_cons_of_neg (by simpa using hdigit),
      List.filter_nil, List.append_nil]
    exact ⟨out, rfl, by rw [List.length_take]; exact hindex, htext, hblock⟩

/-- **The loop** writes the digits of all bytes. -/
theorem foldlM_decodeByte (hroom : (room : ℤ) = stringSize - 1) (hsize : room < size)
    (bytes : List UInt8) (h : Written room size digits out) :
    ∃ out', bytes.foldlM (decodeByte stringSize) out = some out' ∧
      Written room size (digits ++ digitsIn bytes) out' := by
  induction bytes generalizing digits out with
  | nil => exact ⟨out, rfl, by rwa [digitsIn, List.flatMap_nil, digitHalves, List.filter_nil,
      List.append_nil]⟩
  | cons ch bytes ih =>
    obtain ⟨out₁, hlow, h₁⟩ := decodeHalf_written hroom hsize h (ch &&& 0x0F)
    obtain ⟨out₂, hhigh, h₂⟩ := decodeHalf_written hroom hsize h₁ (ch >>> 4)
    obtain ⟨out', hrest, h'⟩ := ih h₂
    refine ⟨out', ?_, ?_⟩
    · rw [List.foldlM_cons, decodeByte, hlow, Option.bind_some, hhigh]
      exact hrest
    · have hsplit : digitsIn (ch :: bytes) = digitHalves [ch &&& 0x0F] ++
          (digitHalves [ch >>> 4] ++ digitsIn bytes) := by
        rw [digitsIn, digitsIn, digitHalves, digitHalves, digitHalves, digitHalves,
          ← List.filter_append, ← List.filter_append]
        rfl
      rw [hsplit, ← List.append_assoc, ← List.append_assoc]
      exact h'

/-- A digit as a character is not `NUL`. -/
theorem zero_notMem_text (l : List UInt8) (h : ∀ x ∈ l, x ≤ 9) : 0 ∉ l.map (· + 48) := by
  intro hmem
  obtain ⟨x, hx, hzero⟩ := List.mem_map.mp hmem
  have hle : x.toNat ≤ 9 := UInt8.le_iff_toNat_le.mp (h x hx)
  have hsum := congrArg UInt8.toNat hzero
  rw [UInt8.toNat_add] at hsum
  have h48 : (48 : UInt8).toNat = 48 := rfl
  have h0 : (0 : UInt8).toNat = 0 := rfl
  omega

/-! ## The address that is decoded -/

variable {addrString : Block UInt8} {data : ℕ → UInt8} {dataSize : ℤ}

/-- The bytes behind the prefix. -/
def behindPrefix (data : ℕ → UInt8) (dataSize : ℤ) : List UInt8 :=
  (List.range (dataSize - 1).toNat).map fun i => data (i + 1)

/-- The text for some bytes: their digits, as many as there is room for. -/
def addressText (stringSize : ℤ) (bytes : List UInt8) : List UInt8 :=
  ((digitsIn bytes).take (stringSize - 1).toNat).map (· + 48)

/-- The `NUL` goes behind the text. -/
theorem holdsText_of_written (hsize : room < size) (h : Written room size digits out)
    (hdigits : ∀ x ∈ digits, x ≤ 9) :
    HoldsText { out.1 with get := Function.update out.1.get out.2 0 }
      ((digits.take room).map (· + 48)) := by
  have hlen : ((digits.take room).map (· + 48)).length = out.2 := by
    rw [List.length_map, h.index]
  have hle : out.2 ≤ room := by
    rw [h.index]
    exact List.length_take_le room digits
  refine ⟨?_, ?_, ?_, zero_notMem_text _ fun x hx => hdigits x (List.mem_of_mem_take hx)⟩
  · rw [hlen, h.size]
    exact hle.trans_lt hsize
  · rw [hlen, ← h.text]
    exact List.map_congr_left fun i hi => Function.update_of_ne (List.mem_range.mp hi).ne _ _
  · rw [hlen]
    exact Function.update_self _ _ _

/-- **An address with the prefix** is written as far as there is room. -/
theorem decodeAddress_of_prefix (hpos : 1 ≤ stringSize) (hroom : stringSize ≤ addrString.size)
    (hfront : data 0 = addrPrefix) (dataSize : ℤ) :
    ∃ b, decodeAddress (some addrString) stringSize (some data) dataSize =
        some (some b, ((addressText stringSize (behindPrefix data dataSize)).length : ℤ)) ∧
      HoldsText b (addressText stringSize (behindPrefix data dataSize)) := by
  have hcast : ((stringSize - 1).toNat : ℤ) = stringSize - 1 := by omega
  have hsize : (stringSize - 1).toNat < addrString.size := by omega
  have hnew : Written (stringSize - 1).toNat addrString.size [] (addrString, 0) :=
    ⟨by rw [List.take_nil]; rfl, by rw [List.take_nil]; rfl, rfl⟩
  obtain ⟨out, hrun, hwritten⟩ := foldlM_decodeByte hcast hsize (behindPrefix data dataSize) hnew
  rw [List.nil_append] at hwritten
  have hdigits : ∀ x ∈ digitsIn (behindPrefix data dataSize), x ≤ 9 := by
    intro x hx
    exact of_decide_eq_true (List.mem_filter.mp hx).2
  have hindex : out.2 = (addressText stringSize (behindPrefix data dataSize)).length := by
    rw [addressText, List.length_map, hwritten.index]
  have hlast : out.1.write out.2 0 =
      some { out.1 with get := Function.update out.1.get out.2 0 } := by
    refine if_pos ?_
    rw [hwritten.size, hwritten.index]
    exact (List.length_take_le _ _).trans_lt hsize
  refine ⟨_, ?_, holdsText_of_written hsize hwritten hdigits⟩
  rw [decodeAddress, if_neg (not_not_intro hfront), ← hindex]
  show (behindPrefix data dataSize).foldlM _ _ >>= _ = _
  rw [hrun]
  show out.1.write out.2 0 >>= _ = _
  rw [hlast]
  rfl

/-- Any other one is an empty text. -/
theorem decodeAddress_of_not_prefix (hpos : 1 ≤ stringSize) (hroom : stringSize ≤ addrString.size)
    (hfront : data 0 ≠ addrPrefix) (dataSize : ℤ) :
    ∃ b, decodeAddress (some addrString) stringSize (some data) dataSize = some (some b, 0) ∧
      HoldsText b [] := by
  have hsize : 0 < addrString.size := by omega
  refine ⟨{ addrString with get := Function.update addrString.get 0 0 }, ?_, hsize, rfl,
    Function.update_self 0 0 addrString.get, List.not_mem_nil⟩
  rw [decodeAddress, if_pos hfront, Block.write, if_pos hsize]
  rfl

/-! ## There and back -/

/-- Two digits in a byte. -/
theorem digitHalves_pair : ∀ a b : Fin 10,
    digitHalves [(digitByte b <<< 4 ||| digitByte a) &&& 0x0F,
      (digitByte b <<< 4 ||| digitByte a) >>> 4] = [digitByte a, digitByte b] := by
  decide

/-- A digit and the filler. -/
theorem digitHalves_filler : ∀ a : Fin 10,
    digitHalves [(0xF0 ||| digitByte a) &&& 0x0F, (0xF0 ||| digitByte a) >>> 4] =
      [digitByte a] := by
  decide

/-- What is encoded has these digits. -/
theorem digitsIn_encodeDigits (digits : List (Fin 10)) :
    digitsIn (encodeDigits digits) = digits.map digitByte := by
  induction digits using encodeDigits.induct with
  | case1 => rfl
  | case2 a => exact digitHalves_filler a
  | case3 a b digits ih =>
    rw [encodeDigits, digitsIn, List.flatMap_cons, digitHalves, List.filter_append]
    exact congrArg₂ (· ++ ·) (digitHalves_pair a b) ih

/-- **Addresses come back** when they were encoded and fit, and whatever the bytes are, the buffer
holds a text behind which there is a `NUL` within its size. -/
theorem decode_address :
    (∀ (digits : List (Fin 10)) (stringSize : ℤ) (addrString : Block UInt8) (data : ℕ → UInt8),
      digits.length < stringSize → stringSize ≤ addrString.size →
      StartsWith data (addrPrefix :: encodeDigits digits) →
      ∃ b, decodeAddress (some addrString) stringSize (some data)
          (addrPrefix :: encodeDigits digits).length = some (some b, (digits.length : ℤ)) ∧
        HoldsText b (digitText digits)) ∧
    ∀ (stringSize : ℤ) (addrString : Block UInt8) (data : ℕ → UInt8) (dataSize : ℤ),
      1 ≤ stringSize → stringSize ≤ addrString.size →
      ∃ b text, decodeAddress (some addrString) stringSize (some data) dataSize =
          some (some b, (text.length : ℤ)) ∧
        HoldsText b text ∧ (text.length : ℤ) < stringSize := by
  refine ⟨?_, ?_⟩
  · intro digits stringSize addrString data hfits hroom hdata
    rw [StartsWith, List.length_cons, List.range_succ_eq_map, List.map_cons, List.map_map] at hdata
    obtain ⟨hfront, hbytes⟩ := List.cons.inj hdata
    have hbehind : behindPrefix data (addrPrefix :: encodeDigits digits).length =
        encodeDigits digits := by
      rw [behindPrefix, List.length_cons, Nat.cast_succ, add_sub_cancel_right, Int.toNat_natCast]
      exact hbytes
    have htext : addressText stringSize (encodeDigits digits) = digitText digits := by
      rw [addressText, digitsIn_encodeDigits, List.take_of_length_le, List.map_map]
      · rfl
      · rw [List.length_map]
        omega
    have hlen : (digitText digits).length = digits.length := List.length_map _
    have hrun := decodeAddress_of_prefix (by omega) hroom hfront
      (addrPrefix :: encodeDigits digits).length
    rwa [hbehind, htext, hlen] at hrun
  · intro stringSize addrString data dataSize hpos hroom
    by_cases hfront : data 0 = addrPrefix
    · obtain ⟨b, hrun, htext⟩ := decodeAddress_of_prefix hpos hroom hfront dataSize
      refine ⟨b, _, hrun, htext, ?_⟩
      have hle : (addressText stringSize (behindPrefix data dataSize)).length ≤
          (stringSize - 1).toNat := by
        rw [addressText, List.length_map]
        exact List.length_take_le _ _
      omega
    · obtain ⟨b, hrun, htext⟩ := decodeAddress_of_not_prefix hpos hroom hfront dataSize
      exact ⟨b, [], hrun, htext, hpos⟩

/-- An odd number of digits in a buffer that has just the room for them. -/
theorem decode_address_odd :
    (∃ b, decodeAddress (some ⟨4, fun _ => 1⟩) 4
        (some fun i => (addrPrefix :: encodeDigits [1, 2, 3]).getD i 0) 3 = some (some b, 3) ∧
      HoldsText b (digitText [1, 2, 3])) ∧
    ∃ b text, decodeAddress (some ⟨1, fun _ => 1⟩) 1 (some fun _ => 0) 0 =
        some (some b, (text.length : ℤ)) ∧
      HoldsText b text ∧ (text.length : ℤ) < 1 :=
  ⟨decode_address.1 [1, 2, 3] 4 ⟨4, fun _ => 1⟩
      (fun i => (addrPrefix :: encodeDigits [1, 2, 3]).getD i 0) (by decide) (by decide) rfl,
    decode_address.2 1 ⟨1, fun _ => 1⟩ (fun _ => 0) 0 (by decide) (by decide)⟩

end OppoA37.Address
