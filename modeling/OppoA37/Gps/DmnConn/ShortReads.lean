import OppoA37.Gps.DmnConn.GlueMsg

/-!
# The daemon connection: short reads, and buffers of any size

A `read` may hand over less than what was asked for, and fail. `msgrcv` is what
`loc_eng_dmn_conn_glue_msgrcv` does then, with a buffer of any size: where it stores bytes, and how
many it asks for. When no read waits it does its two halves, `msgrcvSize` and `msgrcvBody`:
`msgrcv_of_halves`.

It takes the size field away from what that field says, and does not look whether there is so much.
So a field that says less than its own size makes it ask for almost everything there is; and
messages that `msgsnd` has sent come back just if they are neither shorter than a size field nor
longer than an `int`: `msgrcv_iff`.
-/

namespace OppoA37.DmnConn

/-! ## Receiving -/

/-- A `read` of a pipe, with its answer: an error, or the most that it hands over. More than
`SSIZE_MAX` is refused. -/
def shortRead (pipe : Bytes) (sz : ℕ) (answer : Option ℕ) : PipeRead :=
  if SSIZE_MAX < sz then .error
  else
    match answer with
    | none => .error
    | some most => .got (pipe.take (min most sz)) (pipe.drop (min most sz))

/-- What a call of `loc_eng_dmn_conn_glue_msgrcv` does. -/
structure Received where
  /-- what is left in the pipe -/
  rest : Bytes
  /-- what it returns -/
  result : ℤ
  /-- what is stored in the buffer, and where -/
  stores : List (ℕ × Bytes)
  /-- how much is asked for, before it becomes a `size_t` -/
  asks : List ℤ

/-- `loc_eng_dmn_conn_glue_msgrcv`, with the answers to its reads -/
def msgrcv (pipe : Bytes) (msgbufsz : ℕ) (answer answer' : Option ℕ) : Received :=
  match shortRead pipe SIZEOF_SIZE_T answer with
  | .got field rest =>
    if field.length ≠ SIZEOF_SIZE_T then ⟨rest, -1, [(0, field)], [SIZEOF_SIZE_T]⟩
    else if msgbufsz < msgszOf field then ⟨rest, -1, [(0, field)], [SIZEOF_SIZE_T]⟩
    else
      match shortRead rest (bodySize field) answer' with
      | .got body rest =>
        ⟨rest, rcvResult body.length (bodySize field) (msgszOf field),
          [(0, field), (SIZEOF_SIZE_T, body)],
          [SIZEOF_SIZE_T, (msgszOf field : ℤ) - SIZEOF_SIZE_T]⟩
      | _ =>
        ⟨rest, rcvResult (-1) (bodySize field) (msgszOf field), [(0, field)],
          [SIZEOF_SIZE_T, (msgszOf field : ℤ) - SIZEOF_SIZE_T]⟩
  | _ => ⟨pipe, -1, [], [SIZEOF_SIZE_T]⟩

/-- All is stored in the buffer, and nothing negative is asked for. -/
structure Received.Safe (msgbufsz : ℕ) (r : Received) : Prop where
  stores : ∀ p ∈ r.stores, p.1 + p.2.length ≤ msgbufsz
  asks : ∀ n ∈ r.asks, 0 ≤ n

/-- The message that is received: as many bytes of the buffer as `msgrcv` returns. -/
def Received.message (r : Received) : Option Bytes :=
  if 0 ≤ r.result then some ((r.stores.flatMap Prod.snd).take r.result.toNat) else none

/-! ## Sending -/

/-- The size field with a number, the lowest byte first. -/
def fieldOf (msgsz : ℕ) : Bytes :=
  [msgsz, msgsz / 256, msgsz / 65536, msgsz / 16777216].map UInt8.ofNat

/-- What `loc_eng_dmn_conn_glue_msgsnd` writes for a message: its size is stored over the first
bytes. -/
def msgsnd (msg : Bytes) : Bytes :=
  (fieldOf msg.length ++ msg.drop SIZEOF_SIZE_T).take msg.length

/-- The messages of some calls of `msgrcv`, when reads hand over all that is asked for. -/
def received (msgbufsz : ℕ) : ℕ → Bytes → List (Option Bytes)
  | 0, _ => []
  | n + 1, pipe =>
    let r := msgrcv pipe msgbufsz (some pipe.length) (some pipe.length)
    r.message :: received msgbufsz n r.rest

/-! ## What is asked for, and stored -/

variable {pipe field rest m x : Bytes} {msgbufsz sz n : ℕ} {answer answer' : Option ℕ}

/-- A read hands over what is there, and no more than was asked for. -/
theorem shortRead_eq_got {data : Bytes} : shortRead pipe sz answer = .got data rest ↔
    sz ≤ SSIZE_MAX ∧ ∃ most, answer = some most ∧ pipe.take (min most sz) = data ∧
      pipe.drop (min most sz) = rest := by
  rw [shortRead.eq_def]
  split_ifs with hmax
  · simp only [false_iff, not_and]
    exact fun hno => absurd hmax (not_lt.mpr hno)
  · rw [and_iff_right (not_lt.mp hmax)]
    cases answer with
    | none => simp
    | some most => simp [PipeRead.got.injEq]

theorem sizeof_le_max : SIZEOF_SIZE_T ≤ SSIZE_MAX := by decide

theorem shortRead_refused (h : SSIZE_MAX < sz) : shortRead pipe sz answer = .error := by
  rw [shortRead.eq_def, if_pos h]

theorem length_of_shortRead {data : Bytes} (h : shortRead pipe sz answer = .got data rest) :
    data.length ≤ sz := by
  obtain ⟨-, most, -, rfl, -⟩ := shortRead_eq_got.mp h
  rw [List.length_take]
  omega

/-- The first read gets a size field that says less than its own size. -/
def FieldTooSmall (pipe : Bytes) (answer : Option ℕ) : Prop :=
  ∃ most, answer = some most ∧ SIZEOF_SIZE_T ≤ most ∧ SIZEOF_SIZE_T ≤ pipe.length ∧
    msgszOf (pipe.take SIZEOF_SIZE_T) < SIZEOF_SIZE_T

/-- Then it gets a whole field. -/
theorem fieldTooSmall_iff_of_got (h : shortRead pipe SIZEOF_SIZE_T answer = .got field rest) :
    FieldTooSmall pipe answer ↔
      field.length = SIZEOF_SIZE_T ∧ msgszOf field < SIZEOF_SIZE_T := by
  obtain ⟨-, most, rfl, rfl, -⟩ := shortRead_eq_got.mp h
  constructor
  · rintro ⟨most', heq, hmost, hpipe, hsmall⟩
    obtain rfl := Option.some.inj heq
    rw [min_eq_right hmost]
    exact ⟨List.length_take_of_le hpipe, hsmall⟩
  · rintro ⟨hlen, hsmall⟩
    rw [List.length_take] at hlen
    have hmin : min most SIZEOF_SIZE_T = SIZEOF_SIZE_T := by omega
    rw [hmin] at hsmall
    exact ⟨most, rfl, by omega, by omega, hsmall⟩

theorem not_fieldTooSmall
    (h : ∀ field rest, shortRead pipe SIZEOF_SIZE_T answer ≠ .got field rest) :
    ¬ FieldTooSmall pipe answer := by
  rintro ⟨most, rfl, -, -, -⟩
  exact h _ _ (shortRead_eq_got.mpr ⟨sizeof_le_max, most, rfl, rfl, rfl⟩)

/-- A field says less than 2³². -/
theorem msgszOf_lt (h : field.length ≤ SIZEOF_SIZE_T) : msgszOf field < 2 ^ 32 := by
  have hlt : msgszOf field < 256 ^ (field.map UInt8.toNat).length := by
    apply Nat.ofDigits_lt_base_pow_length (by omega)
    intro d hd
    obtain ⟨b, -, rfl⟩ := List.mem_map.mp hd
    exact b.toNat_lt
  rw [List.length_map] at hlt
  calc msgszOf field < 256 ^ field.length := hlt
    _ ≤ 256 ^ SIZEOF_SIZE_T := Nat.pow_le_pow_right (by omega) h
    _ = 2 ^ 32 := by rfl

theorem bodySize_lt (field : Bytes) : bodySize field < 2 ^ 32 := by
  rw [bodySize, sizeSub]
  exact Nat.mod_lt _ (by norm_num)

/-- What the second read asks for, if that is not negative. -/
theorem bodySize_of_le (hlen : field.length = SIZEOF_SIZE_T) (h : SIZEOF_SIZE_T ≤ msgszOf field) :
    bodySize field = msgszOf field - SIZEOF_SIZE_T :=
  sizeSub_of_le h (msgszOf_lt hlen.le)

/-- What it asks for otherwise, which is refused -/
theorem bodySize_of_lt (h : msgszOf field < SIZEOF_SIZE_T) : SSIZE_MAX < bodySize field := by
  rw [SIZEOF_SIZE_T] at h
  rw [bodySize, sizeSub, SIZEOF_SIZE_T, SSIZE_MAX]
  omega

/-- What is stored in the buffer fits, even then: so much is not handed over. -/
theorem body_fits {body : Bytes} (hlen : field.length = SIZEOF_SIZE_T)
    (hfits : msgszOf field ≤ msgbufsz)
    (hread : shortRead rest (bodySize field) answer' = .got body m) :
    SIZEOF_SIZE_T + body.length ≤ msgbufsz := by
  have hbody := length_of_shortRead hread
  have hmax := (shortRead_eq_got.mp hread).1
  by_cases hsmall : msgszOf field < SIZEOF_SIZE_T
  · exact absurd (bodySize_of_lt hsmall) (not_lt.mpr hmax)
  · rw [bodySize_of_le hlen (not_lt.mp hsmall)] at hbody
    omega

@[simp]
theorem Received.safe_mk {result : ℤ} {stores : List (ℕ × Bytes)} {asks : List ℤ} :
    Received.Safe msgbufsz ⟨rest, result, stores, asks⟩ ↔
      (∀ p ∈ stores, p.1 + p.2.length ≤ msgbufsz) ∧ ∀ n ∈ asks, 0 ≤ n :=
  ⟨fun h => ⟨h.stores, h.asks⟩, fun h => ⟨h.1, h.2⟩⟩

/-- **`msgrcv` is safe** just if the field that it reads does not say too little. -/
theorem msgrcv_safe (h : SIZEOF_SIZE_T ≤ msgbufsz) :
    (msgrcv pipe msgbufsz answer answer').Safe msgbufsz ↔ ¬ FieldTooSmall pipe answer := by
  rcases hread : shortRead pipe SIZEOF_SIZE_T answer with _ | _ | ⟨field, rest⟩
  case blocks | error =>
    have hno : ¬ FieldTooSmall pipe answer := not_fieldTooSmall (by simp [hread])
    simp [msgrcv, hread, hno]
  have hfield := length_of_shortRead hread
  rw [fieldTooSmall_iff_of_got hread, msgrcv, hread]
  dsimp only
  split_ifs with hlen hbuf
  · -- the field is cut short
    have hstored : field.length ≤ msgbufsz := hfield.trans h
    simp [hlen, hstored]
  · have hno : ¬ msgszOf field < SIZEOF_SIZE_T := by omega
    have hstored : field.length ≤ msgbufsz := hfield.trans h
    simp [hno, hstored]
  · rw [not_not] at hlen
    have hstored : field.length ≤ msgbufsz := hfield.trans h
    rcases hbody : shortRead rest (bodySize field) answer' with _ | _ | ⟨body, rest'⟩
    case blocks | error => simp [hlen, hlen ▸ hstored]
    have hfits := body_fits hlen (not_lt.mp hbuf) hbody
    simp [hlen, hfits, hlen ▸ hstored]

/-! ## Messages that are sent -/

/-- The number in a field is the one that was stored. -/
theorem msgszOf_fieldOf (h : n < 2 ^ 32) : msgszOf (fieldOf n) = n := by
  simp only [fieldOf, msgszOf, List.map_cons, List.map_nil, UInt8.toNat_ofNat', Nat.ofDigits_cons,
    Nat.ofDigits_nil]
  omega

theorem length_fieldOf (n : ℕ) : (fieldOf n).length = SIZEOF_SIZE_T := rfl

@[simp]
theorem length_msgsnd (m : Bytes) : (msgsnd m).length = m.length := by
  rw [msgsnd, List.length_take, List.length_append, List.length_drop, length_fieldOf]
  omega

/-- A message that is long enough for its size -/
theorem msgsnd_of_le (h : SIZEOF_SIZE_T ≤ m.length) :
    msgsnd m = fieldOf m.length ++ m.drop SIZEOF_SIZE_T := by
  rw [msgsnd, List.take_of_length_le]
  rw [List.length_append, List.length_drop, length_fieldOf]
  omega

/-- starts with it. -/
theorem msgszOf_msgsnd (h : SIZEOF_SIZE_T ≤ m.length) (hlt : m.length < 2 ^ 32) :
    msgszOf ((msgsnd m).take SIZEOF_SIZE_T) = m.length := by
  rw [msgsnd_of_le h, ← length_fieldOf m.length, List.take_left, msgszOf_fieldOf hlt]

/-- No message consists of zeros. -/
theorem exists_ne_zero (h : m ≠ []) (hlt : m.length < 2 ^ 32) : ∃ b ∈ msgsnd m, b ≠ 0 := by
  by_contra! hzero
  have hpos := List.length_pos_iff.mpr h
  by_cases hlen : SIZEOF_SIZE_T ≤ m.length
  · have hfield : fieldOf m.length = List.replicate SIZEOF_SIZE_T 0 := by
      rw [List.eq_replicate_iff]
      refine ⟨rfl, fun b hb => hzero b ?_⟩
      rw [msgsnd_of_le hlen]
      exact List.mem_append_left _ hb
    have hsize := msgszOf_fieldOf hlt
    rw [hfield] at hsize
    exact hpos.ne hsize
  · -- its length is in the first byte
    rw [SIZEOF_SIZE_T] at hlen
    have hfirst : UInt8.ofNat m.length ∈ msgsnd m := by
      obtain ⟨k, hk⟩ := Nat.exists_eq_succ_of_ne_zero hpos.ne'
      rw [msgsnd, hk]
      exact List.mem_cons_self
    have hval := congrArg UInt8.toNat (hzero _ hfirst)
    rw [UInt8.toNat_ofNat', UInt8.toNat_zero] at hval
    omega

/-! ## Messages that are received -/

/-- A read that hands over all it is asked for. -/
theorem shortRead_whole (hpipe : pipe.length ≤ n) (hmax : sz ≤ SSIZE_MAX) :
    shortRead pipe sz (some n) = .got (pipe.take sz) (pipe.drop sz) := by
  refine shortRead_eq_got.mpr ⟨hmax, n, rfl, ?_, ?_⟩
  · rw [min_comm, List.take_take.symm, List.take_of_length_le (l := pipe) hpipe]
  · rcases le_total sz n with hle | hle
    · rw [min_eq_right hle]
    · rw [min_eq_left hle, List.drop_eq_nil_of_le hpipe, List.drop_eq_nil_of_le (hpipe.trans hle)]

/-- A call with two whole reads -/
theorem msgrcv_whole (hn : pipe.length ≤ n) (hpipe : SIZEOF_SIZE_T ≤ pipe.length)
    (hfits : msgszOf (pipe.take SIZEOF_SIZE_T) ≤ msgbufsz)
    (hsz : bodySize (pipe.take SIZEOF_SIZE_T) = sz) (hmax : sz ≤ SSIZE_MAX) :
    msgrcv pipe msgbufsz (some n) (some n) =
      ⟨(pipe.drop SIZEOF_SIZE_T).drop sz,
        rcvResult ((pipe.drop SIZEOF_SIZE_T).take sz).length sz (msgszOf (pipe.take SIZEOF_SIZE_T)),
        [(0, pipe.take SIZEOF_SIZE_T), (SIZEOF_SIZE_T, (pipe.drop SIZEOF_SIZE_T).take sz)],
        [SIZEOF_SIZE_T, (msgszOf (pipe.take SIZEOF_SIZE_T) : ℤ) - SIZEOF_SIZE_T]⟩ := by
  have hdrop : (pipe.drop SIZEOF_SIZE_T).length ≤ n := by
    rw [List.length_drop]
    omega
  rw [msgrcv, shortRead_whole hn sizeof_le_max]
  dsimp only
  rw [if_neg (not_not.mpr (List.length_take_of_le hpipe)), if_neg (not_lt.mpr hfits), hsz,
    shortRead_whole hdrop hmax]

/-- A call whose second read is refused -/
theorem msgrcv_refused (hn : pipe.length ≤ n) (hpipe : SIZEOF_SIZE_T ≤ pipe.length)
    (hfits : msgszOf (pipe.take SIZEOF_SIZE_T) ≤ msgbufsz)
    (hmax : SSIZE_MAX < bodySize (pipe.take SIZEOF_SIZE_T)) :
    msgrcv pipe msgbufsz (some n) (some n) =
      ⟨pipe.drop SIZEOF_SIZE_T,
        rcvResult (-1) (bodySize (pipe.take SIZEOF_SIZE_T)) (msgszOf (pipe.take SIZEOF_SIZE_T)),
        [(0, pipe.take SIZEOF_SIZE_T)],
        [SIZEOF_SIZE_T, (msgszOf (pipe.take SIZEOF_SIZE_T) : ℤ) - SIZEOF_SIZE_T]⟩ := by
  rw [msgrcv, shortRead_whole hn sizeof_le_max]
  dsimp only
  rw [if_neg (not_not.mpr (List.length_take_of_le hpipe)), if_neg (not_lt.mpr hfits),
    shortRead_refused hmax]

/-- **A message that says its length is received**, and no more is taken. -/
theorem message_of_framed (hm : SIZEOF_SIZE_T ≤ m.length) (hlt : m.length < 2 ^ 31)
    (hsize : msgszOf (m.take SIZEOF_SIZE_T) = m.length) (hfits : m.length ≤ msgbufsz)
    (hn : (m ++ rest).length ≤ n) :
    (msgrcv (m ++ rest) msgbufsz (some n) (some n)).message = some m ∧
      (msgrcv (m ++ rest) msgbufsz (some n) (some n)).rest = rest := by
  have htake : (m ++ rest).take SIZEOF_SIZE_T = m.take SIZEOF_SIZE_T :=
    List.take_append_of_le_length hm
  have hdrop : (m ++ rest).drop SIZEOF_SIZE_T = m.drop SIZEOF_SIZE_T ++ rest :=
    List.drop_append_of_le_length hm
  have hbody : bodySize (m.take SIZEOF_SIZE_T) = (m.drop SIZEOF_SIZE_T).length := by
    rw [bodySize_of_le (List.length_take_of_le hm) (hm.trans hsize.ge), hsize, List.length_drop]
  have hmax : (m.drop SIZEOF_SIZE_T).length ≤ SSIZE_MAX := by
    rw [List.length_drop, SSIZE_MAX]
    omega
  have hresult : rcvResult (m.drop SIZEOF_SIZE_T).length (m.drop SIZEOF_SIZE_T).length m.length =
      m.length := by
    rw [rcvResult, asInt_of_lt (by rw [SSIZE_MAX] at hmax; omega), if_neg (not_not.mpr rfl),
      asInt_of_lt hlt]
  have hpipe : SIZEOF_SIZE_T ≤ (m ++ rest).length := by
    rw [List.length_append]
    omega
  rw [msgrcv_whole hn hpipe (by rwa [htake, hsize]) (htake ▸ hbody) hmax, hdrop, htake, hsize,
    List.take_left, List.drop_left, hresult]
  simp [Received.message]

/-- A read that did not wait -/
theorem shortRead_of_piperead (hpipe : pipe.length ≤ n) (hread : piperead pipe sz ≠ .blocks) :
    shortRead pipe sz (some n) = piperead pipe sz := by
  by_cases hmax : sz ≤ SSIZE_MAX
  · rw [shortRead_whole hpipe hmax]
    rw [piperead, if_neg (not_lt.mpr hmax)] at hread ⊢
    split_ifs at hread ⊢ with hzero
    · rw [hzero, List.take_zero, List.drop_zero]
    · exact absurd rfl hread
    · rfl
  · rw [shortRead_refused (not_le.mp hmax), piperead, if_pos (not_le.mp hmax)]

/-- **`msgrcv` does its two halves**, when it waits in neither of them. -/
theorem msgrcv_of_halves {later buf : Bytes} {result : ℤ} (hpipe : pipe.length ≤ n)
    (hsize : msgrcvSize pipe msgbufsz = some (rest, some field))
    (hbody : msgrcvBody rest field = some (later, result, buf)) :
    let r := msgrcv pipe msgbufsz (some n) (some n)
    r.rest = later ∧ r.result = result ∧ r.stores.flatMap Prod.snd = buf := by
  rw [msgrcvSize] at hsize
  rw [msgrcvBody] at hbody
  rcases hfirst : piperead pipe SIZEOF_SIZE_T with _ | _ | ⟨field', rest'⟩
  case blocks | error => simp [hfirst] at hsize
  rw [hfirst] at hsize
  dsimp only at hsize
  split_ifs at hsize with hlen hbuf
  · cases hsize
  · cases hsize
  simp only [Option.some.injEq, Prod.mk.injEq] at hsize
  obtain ⟨rfl, rfl⟩ := hsize
  have hrest := (length_of_got hfirst).1.trans hpipe
  have hgoes : piperead pipe SIZEOF_SIZE_T ≠ .blocks := by simp [hfirst]
  have hshort := shortRead_of_piperead hpipe hgoes
  rcases hsecond : piperead rest' (bodySize field') with _ | _ | ⟨body, later'⟩
  case blocks =>
    rw [hsecond] at hbody
    cases hbody
  all_goals
    have hgoes' : piperead rest' (bodySize field') ≠ .blocks := by simp [hsecond]
    have hshort' := shortRead_of_piperead hrest hgoes'
    rw [hsecond, afterBody] at hbody
    simp only [Option.some.injEq, Prod.mk.injEq] at hbody
    obtain ⟨rfl, rfl, rfl⟩ := hbody
    simp [msgrcv, hshort, hfirst, hlen, hbuf, hshort', hsecond]

theorem Received.message_eq_some {r : Received} : r.message = some x ↔
    0 ≤ r.result ∧ (r.stores.flatMap Prod.snd).take r.result.toNat = x := by
  rw [Received.message]
  split_ifs with h <;> simp [h]

theorem asInt_nonneg (h : n < 2 ^ 32) : 0 ≤ asInt n ↔ n < 2 ^ 31 := by
  constructor
  · intro hle
    have hlt : asInt n < 2 ^ 31 := Int.bmod_lt (by norm_num)
    have hdvd : (2 ^ 32 : ℤ) ∣ asInt n - n := Int.dvd_bmod_sub_self
    omega
  · intro hlt
    rw [asInt_of_lt hlt]
    exact Int.natCast_nonneg n

/-- The one `size_t` that is an error when it is an `int` -/
theorem asInt_eq_neg_one (h : n < 2 ^ 32) (hneg : -1 = asInt n) : n = 2 ^ 32 - 1 := by
  have hdvd : (2 ^ 32 : ℤ) ∣ asInt n - n := Int.dvd_bmod_sub_self
  omega

/-- `msgrcv` succeeds if it has read what it asked for, and that is an `int`. -/
theorem rcvResult_nonneg {result : ℤ} {msgsz : ℕ} (h : msgsz < 2 ^ 32) :
    0 ≤ rcvResult result sz msgsz ↔
      result = asInt sz ∧ msgsz < 2 ^ 31 ∧ rcvResult result sz msgsz = msgsz := by
  by_cases heq : result = asInt sz
  · rw [rcvResult, if_neg (not_not.mpr heq), asInt_nonneg h]
    exact ⟨fun hlt => ⟨heq, hlt, asInt_of_lt hlt⟩, fun hall => hall.2.1⟩
  · rw [rcvResult, if_pos heq]
    exact iff_of_false (by omega) (fun hall => heq hall.1)

/-- A message has a size field, and fits. -/
theorem field_of_message (hn : pipe.length ≤ n)
    (h : (msgrcv pipe msgbufsz (some n) (some n)).message = some x) :
    SIZEOF_SIZE_T ≤ pipe.length ∧ msgszOf (pipe.take SIZEOF_SIZE_T) ≤ msgbufsz := by
  rw [Received.message_eq_some, msgrcv, shortRead_whole hn sizeof_le_max] at h
  dsimp only at h
  split_ifs at h with hlen hbuf
  · exact absurd h.1 (by simp)
  · exact absurd h.1 (by simp)
  · rw [not_not, List.length_take] at hlen
    exact ⟨by omega, not_lt.mp hbuf⟩

/-- A message whose body was read says its length. -/
theorem message_of_body (hn : pipe.length ≤ n)
    (h : (msgrcv pipe msgbufsz (some n) (some n)).message = some x)
    (hle : SIZEOF_SIZE_T ≤ msgszOf (pipe.take SIZEOF_SIZE_T))
    (hmax : bodySize (pipe.take SIZEOF_SIZE_T) ≤ SSIZE_MAX) :
    SIZEOF_SIZE_T ≤ x.length ∧ x.length < 2 ^ 31 ∧ x <+: pipe ∧
      (msgrcv pipe msgbufsz (some n) (some n)).rest = pipe.drop x.length := by
  obtain ⟨hpipe, hfits⟩ := field_of_message hn h
  have hlen : (pipe.take SIZEOF_SIZE_T).length = SIZEOF_SIZE_T := List.length_take_of_le hpipe
  have hint : asInt (bodySize (pipe.take SIZEOF_SIZE_T)) = bodySize (pipe.take SIZEOF_SIZE_T) := by
    apply asInt_of_lt
    rw [SSIZE_MAX] at hmax
    omega
  rw [Received.message_eq_some] at h
  rw [msgrcv_whole hn hpipe hfits rfl hmax] at h ⊢
  dsimp only at h ⊢
  rw [rcvResult_nonneg (msgszOf_lt hlen.le)] at h
  obtain ⟨⟨hwhole, hlt, hresult⟩, hx⟩ := h
  rw [hint, Nat.cast_inj, List.length_take, List.length_drop, bodySize_of_le hlen hle] at hwhole
  rw [hresult, Int.toNat_natCast, bodySize_of_le hlen hle] at hx
  rw [bodySize_of_le hlen hle, List.drop_drop]
  generalize msgszOf (pipe.take SIZEOF_SIZE_T) = msgsz at *
  have htake : pipe.take msgsz = x := by
    rw [← hx]
    simp [← List.take_add, Nat.add_sub_cancel' hle]
  have hwhole : msgsz ≤ pipe.length :=
    (Nat.sub_le_sub_iff_right hpipe).mp (min_eq_left_iff.mp hwhole)
  have hxlen : x.length = msgsz := by
    rw [← htake, List.length_take_of_le hwhole]
  rw [hxlen, Nat.add_sub_cancel' hle]
  exact ⟨hle, hlt, htake ▸ List.take_prefix _ _, rfl⟩

/-- A message whose second read was refused has three bytes: a field that says 3 asks for 2³² - 1
more, and the error that this gives is the number that is compared to. -/
theorem message_of_refused (hn : pipe.length ≤ n)
    (h : (msgrcv pipe msgbufsz (some n) (some n)).message = some x)
    (hmax : SSIZE_MAX < bodySize (pipe.take SIZEOF_SIZE_T)) :
    x = pipe.take 3 ∧ msgszOf (pipe.take SIZEOF_SIZE_T) = 3 ∧ SIZEOF_SIZE_T ≤ pipe.length ∧
      (msgrcv pipe msgbufsz (some n) (some n)).rest = pipe.drop SIZEOF_SIZE_T := by
  obtain ⟨hpipe, hfits⟩ := field_of_message hn h
  have hsz := msgszOf_lt (List.length_take_of_le hpipe).le
  rw [Received.message_eq_some] at h
  rw [msgrcv_refused hn hpipe hfits hmax] at h ⊢
  dsimp only at h ⊢
  rw [rcvResult_nonneg hsz] at h
  obtain ⟨⟨herror, -, hresult⟩, hx⟩ := h
  have hthree : msgszOf (pipe.take SIZEOF_SIZE_T) = 3 := by
    have hask := asInt_eq_neg_one (bodySize_lt _) herror
    rw [bodySize, sizeSub, SIZEOF_SIZE_T] at hask
    rw [SIZEOF_SIZE_T] at hsz ⊢
    omega
  rw [hresult, Int.toNat_natCast, hthree] at hx
  refine ⟨?_, hthree, hpipe, rfl⟩
  simpa [SIZEOF_SIZE_T, List.take_take] using hx.symm

/-- **What is received** is a message that says its length, or three bytes. -/
theorem message_eq_some (hn : pipe.length ≤ n)
    (h : (msgrcv pipe msgbufsz (some n) (some n)).message = some x) :
    (SIZEOF_SIZE_T ≤ x.length ∧ x.length < 2 ^ 31 ∧ x <+: pipe ∧
        (msgrcv pipe msgbufsz (some n) (some n)).rest = pipe.drop x.length) ∨
      x = pipe.take 3 ∧ msgszOf (pipe.take SIZEOF_SIZE_T) = 3 ∧ SIZEOF_SIZE_T ≤ pipe.length ∧
        (msgrcv pipe msgbufsz (some n) (some n)).rest = pipe.drop SIZEOF_SIZE_T := by
  by_cases hmax : bodySize (pipe.take SIZEOF_SIZE_T) ≤ SSIZE_MAX
  · have hle : SIZEOF_SIZE_T ≤ msgszOf (pipe.take SIZEOF_SIZE_T) := by
      by_contra! hsmall
      exact absurd (bodySize_of_lt hsmall) (not_lt.mpr hmax)
    exact Or.inl (message_of_body hn h hle hmax)
  · exact Or.inr (message_of_refused hn h (not_le.mp hmax))

/-- What is received is what the pipe starts with. -/
theorem prefix_of_message (hn : pipe.length ≤ n)
    (h : (msgrcv pipe msgbufsz (some n) (some n)).message = some x) :
    3 ≤ x.length ∧ x <+: pipe := by
  rcases message_eq_some hn h with ⟨hlen, -, hx, -⟩ | ⟨rfl, -, hpipe, -⟩
  · exact ⟨Nat.le_of_succ_le hlen, hx⟩
  · rw [List.length_take]
    exact ⟨le_min le_rfl (Nat.le_of_succ_le hpipe), List.take_prefix _ _⟩

/-! ## The messages of a run -/

/-- What starts a list and its tail has the same byte everywhere. -/
theorem eq_of_prefix_tail {b : UInt8} {l : Bytes} (h : x <+: b :: l) (h' : x <+: l) :
    ∀ c ∈ x, c = b := by
  induction x generalizing b l with
  | nil => simp
  | cons c x ih =>
    obtain ⟨rfl, hx⟩ := List.cons_prefix_cons.mp h
    cases l with
    | nil => exact absurd (List.prefix_nil.mp h') (List.cons_ne_nil _ _)
    | cons d l =>
      obtain ⟨rfl, hx'⟩ := List.cons_prefix_cons.mp h'
      exact List.forall_mem_cons.mpr ⟨rfl, ih hx hx'⟩

variable {msgs : List Bytes}

/-- **Messages are received as they were sent**, if none is too short or too long. -/
theorem received_msgsnd (hfits : ∀ m ∈ msgs, m.length ≤ msgbufsz)
    (h : ∀ m ∈ msgs, SIZEOF_SIZE_T ≤ m.length ∧ m.length < 2 ^ 31) :
    received msgbufsz msgs.length (msgs.flatMap msgsnd) = msgs.map (some ∘ msgsnd) := by
  induction msgs with
  | nil => rfl
  | cons m msgs ih =>
    obtain ⟨⟨hm, hlt⟩, hgood⟩ := List.forall_mem_cons.mp h
    obtain ⟨hfit, hfits⟩ := List.forall_mem_cons.mp hfits
    have hsize : msgszOf ((msgsnd m).take SIZEOF_SIZE_T) = (msgsnd m).length := by
      rw [length_msgsnd, msgszOf_msgsnd hm (by omega)]
    rw [← length_msgsnd] at hm hlt hfit
    obtain ⟨hmessage, hrest⟩ :=
      @message_of_framed (msgs.flatMap msgsnd) _ _ _ hm hlt hsize hfit le_rfl
    rw [List.length_cons, List.flatMap_cons, received, hmessage, hrest, ih hfits hgood]
    rfl

/-- Three bytes are received if a zero comes behind them, which is lost. No message does then:
the one that comes next starts with the zero, and is read from its second byte on. -/
theorem not_received_tail (hlt : ∀ m ∈ msgs, m.length < 2 ^ 32) {pipe : Bytes}
    (hpipe : msgs.flatMap msgsnd = 0 :: pipe) :
    received msgbufsz msgs.length pipe ≠ msgs.map (some ∘ msgsnd) := by
  intro heq
  cases msgs with
  | nil => cases hpipe
  | cons m msgs =>
    rw [List.length_cons, received, List.map_cons] at heq
    have hmessage := (List.cons.inj heq).1
    have hprefix : msgsnd m <+: 0 :: pipe := by
      rw [← hpipe, List.flatMap_cons]
      exact List.prefix_append _ _
    obtain ⟨hlong, hprefix'⟩ := prefix_of_message le_rfl hmessage
    rw [length_msgsnd] at hlong
    have hne : m ≠ [] := List.length_pos_iff.mp (by omega)
    obtain ⟨b, hb, hbzero⟩ := exists_ne_zero hne (hlt m List.mem_cons_self)
    exact hbzero (eq_of_prefix_tail hprefix hprefix' b hb)

/-- **Only such messages are.** -/
theorem of_received_msgsnd (hlt : ∀ m ∈ msgs, m.length < 2 ^ 32)
    (h : received msgbufsz msgs.length (msgs.flatMap msgsnd) = msgs.map (some ∘ msgsnd)) :
    ∀ m ∈ msgs, SIZEOF_SIZE_T ≤ m.length ∧ m.length < 2 ^ 31 := by
  induction msgs with
  | nil => simp
  | cons m msgs ih =>
    have hltmsgs := (List.forall_mem_cons.mp hlt).2
    rw [List.length_cons, List.flatMap_cons, received, List.map_cons] at h
    obtain ⟨hmessage, hlater⟩ := List.cons.inj h
    rcases message_eq_some le_rfl hmessage with ⟨hm, hmlt, -, hrest⟩ | ⟨hx, hsize, hpipe, hrest⟩
    · rw [hrest, List.drop_left] at hlater
      rw [length_msgsnd] at hm hmlt
      exact List.forall_mem_cons.mpr ⟨⟨hm, hmlt⟩, ih hltmsgs hlater⟩
    · -- three bytes, and a zero that belongs to the next message
      have hlen : m.length = 3 := by
        rw [← length_msgsnd, hx, List.length_take]
        exact min_eq_left (Nat.le_of_succ_le hpipe)
      obtain ⟨a, b, c, rfl⟩ := List.length_eq_three.mp hlen
      have hsent : msgsnd [a, b, c] = [3, 0, 0] := by
        simp [msgsnd, fieldOf]
      rw [hsent] at hsize hpipe hrest hlater
      cases hflat : msgs.flatMap msgsnd with
      | nil =>
        rw [hflat] at hpipe
        exact absurd hpipe (Nat.not_succ_le_self 3)
      | cons d pipe =>
        rw [hflat] at hsize hrest hlater
        have hzero : d = 0 := by
          have hfield : msgszOf [3, 0, 0, d] = 3 := hsize
          have hvalue : d.toNat = 0 := by simpa [msgszOf, Nat.ofDigits_cons] using hfield
          exact UInt8.toNat_inj.mp hvalue
        rw [hrest] at hlater
        exact absurd hlater (not_received_tail hltmsgs (hzero ▸ hflat))

/-- **`msgrcv` with its short reads.** It stores within its buffer, and asks for nothing negative,
just if the field that it reads does not say less than its own size. Messages that were sent, no
longer than its buffer and read whole, are received just if each is long enough for its size, and
that is an `int`. -/
theorem msgrcv_iff (msgbufsz : ℕ) (h : SIZEOF_SIZE_T ≤ msgbufsz) (hsize : msgbufsz < 2 ^ 32) :
    (∀ pipe answer answer', (msgrcv pipe msgbufsz answer answer').Safe msgbufsz ↔
        ¬ FieldTooSmall pipe answer) ∧
      ∀ msgs : List Bytes, (∀ m ∈ msgs, m.length ≤ msgbufsz) →
        (received msgbufsz msgs.length (msgs.flatMap msgsnd) = msgs.map (some ∘ msgsnd) ↔
          ∀ m ∈ msgs, SIZEOF_SIZE_T ≤ m.length ∧ m.length < 2 ^ 31) := by
  refine ⟨fun pipe answer answer' => msgrcv_safe h, fun msgs hfits => ⟨?_, ?_⟩⟩
  · exact of_received_msgsnd fun m hm => (hfits m hm).trans_lt hsize
  · exact received_msgsnd hfits

/-- With the buffer that `loc_api_server_proc` has -/
theorem msgrcv_iff_msgbufsz :
    (∀ pipe answer answer', (msgrcv pipe MSGBUFSZ answer answer').Safe MSGBUFSZ ↔
        ¬ FieldTooSmall pipe answer) ∧
      ∀ msgs : List Bytes, (∀ m ∈ msgs, m.length ≤ MSGBUFSZ) →
        (received MSGBUFSZ msgs.length (msgs.flatMap msgsnd) = msgs.map (some ∘ msgsnd) ↔
          ∀ m ∈ msgs, SIZEOF_SIZE_T ≤ m.length ∧ m.length < 2 ^ 31) :=
  msgrcv_iff MSGBUFSZ (by decide) (by decide)

/-- Four zeros in the pipe: what it asks for then is -4, and the empty message that `msgsnd` has
sent is not received. -/
theorem not_msgrcv_zero :
    ¬ ((∀ msgbufsz, SIZEOF_SIZE_T ≤ msgbufsz → msgbufsz < 2 ^ 32 →
          ∀ pipe answer answer', (msgrcv pipe msgbufsz answer answer').Safe msgbufsz)) ∧
      ¬ (∀ msgbufsz, SIZEOF_SIZE_T ≤ msgbufsz → msgbufsz < 2 ^ 32 →
          ∀ msgs : List Bytes, (∀ m ∈ msgs, m.length ≤ msgbufsz) →
            received msgbufsz msgs.length (msgs.flatMap msgsnd) = msgs.map (some ∘ msgsnd)) := by
  have hmin : SIZEOF_SIZE_T ≤ MSGBUFSZ := by decide
  have hmax : MSGBUFSZ < 2 ^ 32 := by decide
  constructor
  · intro hall
    have hsafe := hall MSGBUFSZ hmin hmax [0, 0, 0, 0] (some 4) none
    exact absurd (hsafe.asks (-4)) (by decide)
  · intro hall
    have hreceived := hall MSGBUFSZ hmin hmax [[]] (by decide)
    exact absurd hreceived (by decide)

end OppoA37.DmnConn
