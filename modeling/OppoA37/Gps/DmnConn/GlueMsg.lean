import Mathlib

/-!
# The daemon connection: messages in a pipe

Daemons talk to the location engine through a named pipe. A message starts with its own size,
and `loc_eng_dmn_conn_glue_msgrcv` reads it in two goes: the size, and then as much as it says.
The pipe knows nothing of messages; a `read` hands over what is there, up to what was asked
for, and waits only when nothing is.

* `Framed` is what such a message has to be for the two reads to end where it ends;
* `msgrcvSize_framed` and `msgrcvBody_framed` say that they do, whatever lies behind it.

Sizes are those of the 32-bit ABI that the device is built for.
-/

namespace OppoA37.DmnConn

/-- What a pipe carries. -/
abbrev Bytes := List UInt8

/-! ## The layout of `ctrl_msgbuf` -/

/-- `sizeof(size_t)`, and of the field `msgsz` -/
def SIZEOF_SIZE_T : ℕ := 4

/-- `SSIZE_MAX` -/
def SSIZE_MAX : ℕ := 2 ^ 31 - 1

/-- `offsetof(struct ctrl_msgbuf, ctrl_type)` -/
def CTRL_TYPE_AT : ℕ := 12

/-- `sizeof(struct ctrl_msgbuf)` -/
def SIZEOF_CTRL_MSGBUF : ℕ := 112

/-- The size of the buffer that `loc_api_server_proc` receives in. -/
def MSGBUFSZ : ℕ := SIZEOF_CTRL_MSGBUF + 256

/-- The number in a size field, the lowest byte first. -/
def msgszOf (field : Bytes) : ℕ := Nat.ofDigits 256 (field.map UInt8.toNat)

/-- A difference of two `size_t`. -/
def sizeSub (a b : ℕ) : ℕ := (a + 2 ^ 32 - b) % 2 ^ 32

/-- `(int)` of a `size_t` -/
def asInt (n : ℕ) : ℤ := Int.bmod n (2 ^ 32)

theorem asInt_of_lt {n : ℕ} (h : n < 2 ^ 31) : asInt n = n := by
  apply Int.bmod_eq_of_le <;> omega

theorem sizeSub_of_le {a b : ℕ} (hb : b ≤ a) (ha : a < 2 ^ 32) : sizeSub a b = a - b := by
  rw [sizeSub]
  omega

/-! ## Reading -/

/-- How a `read` ends. -/
inductive PipeRead where
  /-- the pipe is empty, and the reader waits -/
  | blocks
  /-- -1 -/
  | error
  /-- the bytes that are handed over, and those that are left -/
  | got (data rest : Bytes)
  deriving DecidableEq, Repr

/-- `loc_eng_dmn_conn_glue_piperead` -/
def piperead (pipe : Bytes) (sz : ℕ) : PipeRead :=
  if SSIZE_MAX < sz then .error
  else if sz = 0 then .got [] pipe
  else if pipe = [] then .blocks
  else .got (pipe.take sz) (pipe.drop sz)

/-- The first half of `loc_eng_dmn_conn_glue_msgrcv`: what is left in the pipe, and the size
field if it goes on. `none` while it waits. -/
def msgrcvSize (pipe : Bytes) (msgbufsz : ℕ) : Option (Bytes × Option Bytes) :=
  match piperead pipe SIZEOF_SIZE_T with
  | .blocks => none
  | .error => some (pipe, none)
  | .got field rest =>
    if field.length ≠ SIZEOF_SIZE_T then some (rest, none)
    -- the body stays in the pipe
    else if msgbufsz < msgszOf field then some (rest, none)
    else some (rest, some field)

/-- What `loc_eng_dmn_conn_glue_msgrcv` returns when its second read, of `sz` bytes, returned
`result`. -/
def rcvResult (result : ℤ) (sz msgsz : ℕ) : ℤ := if result ≠ asInt sz then -1 else asInt msgsz

/-- The end of `loc_eng_dmn_conn_glue_msgrcv`: what is left in the pipe, what it returns, and
what is in the buffer. `none` while it waits. -/
def afterBody (pipe field : Bytes) (sz : ℕ) : PipeRead → Option (Bytes × ℤ × Bytes)
  | .blocks => none
  | .error => some (pipe, rcvResult (-1) sz (msgszOf field), field)
  | .got body rest => some (rest, rcvResult body.length sz (msgszOf field), field ++ body)

/-- How many bytes the second read asks for. -/
def bodySize (field : Bytes) : ℕ := sizeSub (msgszOf field) SIZEOF_SIZE_T

/-- The second half of `loc_eng_dmn_conn_glue_msgrcv`. -/
def msgrcvBody (pipe field : Bytes) : Option (Bytes × ℤ × Bytes) :=
  afterBody pipe field (bodySize field) (piperead pipe (bodySize field))

/-! ## Messages that are read as they were written -/

/-- A message whose two reads end where it ends: it says its own length, and fits in the buffer.
A size field alone that says 3 is read as a whole as well, because the second read fails with
the very number that is compared to. -/
structure Framed (m : Bytes) : Prop where
  /-- there is a size field -/
  field : SIZEOF_SIZE_T ≤ m.length
  /-- it fits -/
  fits : m.length ≤ MSGBUFSZ
  /-- what the field says -/
  size : msgszOf (m.take SIZEOF_SIZE_T) = m.length ∨
    m.length = SIZEOF_SIZE_T ∧ msgszOf (m.take SIZEOF_SIZE_T) = SIZEOF_SIZE_T - 1

instance (m : Bytes) : Decidable (Framed m) :=
  decidable_of_iff (SIZEOF_SIZE_T ≤ m.length ∧ m.length ≤ MSGBUFSZ ∧
      (msgszOf (m.take SIZEOF_SIZE_T) = m.length ∨
        m.length = SIZEOF_SIZE_T ∧ msgszOf (m.take SIZEOF_SIZE_T) = SIZEOF_SIZE_T - 1))
    ⟨fun h => ⟨h.1, h.2.1, h.2.2⟩, fun h => ⟨h.field, h.fits, h.size⟩⟩

variable {m rest pipe : Bytes} {sz : ℕ}

/-- A read that the pipe has the bytes for. -/
theorem piperead_append (hsz : sz = m.length) (hmax : sz ≤ SSIZE_MAX) :
    piperead (m ++ rest) sz = .got m rest := by
  rw [piperead, if_neg (by omega)]
  by_cases hzero : sz = 0
  · have hnil : m = [] := List.length_eq_zero_iff.mp (by omega)
    rw [if_pos hzero, hnil]
    rfl
  · have hne : m ++ rest ≠ [] := by
      rintro heq
      obtain ⟨rfl, -⟩ := List.append_eq_nil_iff.mp heq
      exact hzero hsz
    rw [if_neg hzero, if_neg hne, hsz, List.take_left, List.drop_left]

/-- A read waits for an empty pipe only. -/
theorem piperead_blocks (h : piperead pipe sz = .blocks) : pipe = [] := by
  rw [piperead] at h
  split_ifs at h with _ _ hnil
  exact hnil

/-- What a read leaves is no longer than what it found, and shorter if it asked for something. -/
theorem length_of_got {data : Bytes} (h : piperead pipe sz = .got data rest) :
    rest.length ≤ pipe.length ∧ (sz ≠ 0 → rest.length < pipe.length) := by
  rw [piperead] at h
  split_ifs at h with _ hzero hnil
  · obtain ⟨-, rfl⟩ := PipeRead.got.inj h
    exact ⟨le_rfl, fun hne => absurd hzero hne⟩
  · obtain ⟨-, rfl⟩ := PipeRead.got.inj h
    have hpos := List.length_pos_iff.mpr hnil
    rw [List.length_drop]
    omega

/-- The first read takes something. -/
theorem length_msgrcvSize {n : ℕ} {r : Bytes × Option Bytes} (h : msgrcvSize pipe n = some r) :
    r.1.length < pipe.length := by
  rw [msgrcvSize] at h
  rcases hread : piperead pipe SIZEOF_SIZE_T with _ | _ | ⟨field, rest⟩
  · rw [hread] at h
    cases h
  · -- four bytes are not too many to ask for
    rw [piperead, if_neg (by decide), if_neg (by decide)] at hread
    split_ifs at hread
  · rw [hread] at h
    have hlt := (length_of_got hread).2 (by decide)
    dsimp only at h
    split_ifs at h <;> obtain rfl := Option.some.inj h <;> exact hlt

/-- The second read leaves no more than it found. -/
theorem length_msgrcvBody {field : Bytes} {r : Bytes × ℤ × Bytes}
    (h : msgrcvBody pipe field = some r) : r.1.length ≤ pipe.length := by
  rw [msgrcvBody] at h
  rcases hread : piperead pipe (bodySize field) with _ | _ | ⟨body, rest⟩
  · rw [hread] at h
    cases h
  · rw [hread] at h
    obtain rfl := Option.some.inj h
    exact le_rfl
  · rw [hread] at h
    obtain rfl := Option.some.inj h
    exact (length_of_got hread).1

namespace Framed

theorem length_take (h : Framed m) : (m.take SIZEOF_SIZE_T).length = SIZEOF_SIZE_T := by
  rw [List.length_take]
  exact min_eq_left h.field

/-- The field says no more than the buffer holds. -/
theorem size_le (h : Framed m) : msgszOf (m.take SIZEOF_SIZE_T) ≤ MSGBUFSZ := by
  have hfits := h.fits
  rcases h.size with heq | ⟨-, heq⟩
  · omega
  · rw [heq]
    decide

/-- **The first read** takes the size field. -/
theorem msgrcvSize_framed (h : Framed m) (rest : Bytes) :
    msgrcvSize (m ++ rest) MSGBUFSZ =
      some (m.drop SIZEOF_SIZE_T ++ rest, some (m.take SIZEOF_SIZE_T)) := by
  have hsplit : m ++ rest = m.take SIZEOF_SIZE_T ++ (m.drop SIZEOF_SIZE_T ++ rest) := by
    rw [← List.append_assoc, List.take_append_drop]
  have hread : piperead (m ++ rest) SIZEOF_SIZE_T =
      .got (m.take SIZEOF_SIZE_T) (m.drop SIZEOF_SIZE_T ++ rest) := by
    rw [hsplit]
    exact piperead_append h.length_take.symm (by decide)
  rw [msgrcvSize, hread]
  dsimp only
  rw [if_neg (not_not.mpr h.length_take), if_neg (not_lt.mpr h.size_le)]

/-- **The second read** takes the rest of the message, and no more. -/
theorem msgrcvBody_framed (h : Framed m) (rest : Bytes) :
    msgrcvBody (m.drop SIZEOF_SIZE_T ++ rest) (m.take SIZEOF_SIZE_T) =
      some (rest, (msgszOf (m.take SIZEOF_SIZE_T) : ℤ), m) := by
  have hfits := h.fits
  have hle := h.size_le
  have hbuf : MSGBUFSZ < 2 ^ 31 := by decide
  rw [msgrcvBody]
  rcases h.size with heq | ⟨hlen, heq⟩
  · -- the message says its own length
    have hsub : bodySize (m.take SIZEOF_SIZE_T) = (m.drop SIZEOF_SIZE_T).length := by
      rw [bodySize, heq, sizeSub_of_le h.field (by omega), List.length_drop]
    have hmax : (m.drop SIZEOF_SIZE_T).length < 2 ^ 31 := by
      rw [List.length_drop]
      omega
    have hread : piperead (m.drop SIZEOF_SIZE_T ++ rest) (m.drop SIZEOF_SIZE_T).length =
        .got (m.drop SIZEOF_SIZE_T) rest := by
      apply piperead_append rfl
      rw [SSIZE_MAX]
      omega
    rw [hsub, hread, afterBody, rcvResult, asInt_of_lt hmax, if_neg (not_not.mpr rfl),
      asInt_of_lt (by omega), List.take_append_drop]
  · -- the size field that says 3
    have hdrop : m.drop SIZEOF_SIZE_T = [] := List.drop_eq_nil_of_le (by omega)
    have htake : m.take SIZEOF_SIZE_T = m := List.take_of_length_le (by omega)
    have hsub : bodySize (m.take SIZEOF_SIZE_T) = 2 ^ 32 - 1 := by
      rw [bodySize, heq]
      rfl
    have hread : piperead ([] ++ rest) (2 ^ 32 - 1) = .error := if_pos (by rw [SSIZE_MAX]; omega)
    rw [hsub, hdrop, hread, afterBody, rcvResult, if_neg (by decide), heq,
      asInt_of_lt (by decide), htake]
    rfl

/-- What `msgrcv` returns for such a message is a success. -/
theorem size_pos (h : Framed m) : 0 < msgszOf (m.take SIZEOF_SIZE_T) := by
  have hfield := h.field
  rcases h.size with heq | ⟨-, heq⟩
  · rw [heq]
    exact lt_of_lt_of_le (by decide) hfield
  · rw [heq]
    decide

end Framed

end OppoA37.DmnConn
