import OppoA37.Lib.Loop

/-!
# The injection of XTRA data in `LocApiV02.cpp`

`setXtraData` cuts a file of predicted orbits into parts and sends them one by one; the modem
answers each of them. A part that is not accepted is not sent again: the next one takes its place
in the file, under the next number. The number of a part is a `uint8_t`, and the length that was
injected a `uint16_t`.

* `ends_iff` says for which files the loop ends, whatever the modem answers;
* `injected_iff` says when the modem gets the file.
-/

namespace OppoA37.XtraData

open Loop

/-! ## The code -/

/-- `locClientStatusEnumType` -/
inductive ClientStatus where
  | success
  | general
  | unsupported
  | invalidParameter
  | engineBusy
  | phoneOffline
  | timeout
  | serviceNotPresent
  | serviceVersionUnsupported
  | clientVersionUnsupported
  | invalidHandle
  | internal
  | notInitialized
  | notEnoughMemory
  deriving DecidableEq, Repr

/-- `loc_api_adapter_err` -/
inductive AdapterErr where
  | success
  | generalFailure
  | unsupported
  | invalidHandle
  | invalidParameter
  | engineBusy
  | phoneOffline
  | timeout
  | serviceNotPresent
  | internal
  | failure
  deriving DecidableEq, Repr

/-- `convertErr` -/
def convertErr : ClientStatus → AdapterErr
  | .success => .success
  | .general => .generalFailure
  | .unsupported => .unsupported
  | .invalidParameter => .invalidParameter
  | .engineBusy => .engineBusy
  | .phoneOffline => .phoneOffline
  | .timeout => .timeout
  | .invalidHandle => .invalidHandle
  | .serviceNotPresent => .serviceNotPresent
  | .internal => .internal
  | _ => .failure

/-- `QMI_LOC_MAX_PREDICTED_ORBITS_PART_LEN_V02` -/
def partLen : ℤ := 1024

/-- `qmiLocInjectPredictedOrbitsDataReqMsgT_v02` -/
structure InjectXtra where
  /-- a `uint32_t` -/
  totalSize : ℤ
  /-- a `uint16_t` -/
  totalParts : ℤ
  partNum : ℕ
  partData : List UInt8

/-- What `loc_sync_send_req` returns, and what is in its indication. -/
structure Answer where
  status : ClientStatus
  /-- `inject_xtra_ind.status` is `eQMI_LOC_SUCCESS_V02` -/
  indSuccess : Bool
  /-- `inject_xtra_ind.partNum` -/
  indPartNum : ℕ

/-- A part is taken for injected. -/
def Answer.accepts (a : Answer) (partNum : ℕ) : Bool :=
  decide (a.status = .success) && a.indSuccess && decide (partNum = a.indPartNum)

/-- Where the loop is. -/
structure State where
  /-- `part`, a `uint8_t` -/
  part : ℕ := 1
  /-- `len_injected`, a `uint16_t` -/
  lenInjected : ℕ := 0
  status : ClientStatus := .success
  /-- the parts that were sent, with their answers -/
  sent : List (InjectXtra × Answer) := []

/-- What the call leaves. -/
structure Result where
  ret : AdapterErr
  sent : List (InjectXtra × Answer)

/-- `total_parts`, in the arithmetic of `int`. -/
def totalParts (length : ℤ) : ℤ := Int.tdiv (length - 1) partLen + 1

/-- `inject_xtra.partData_len` -/
def partDataLen (length lenInjected : ℤ) : ℤ :=
  if partLen > length - lenInjected then length - lenInjected else partLen

/-- The part that is sent. -/
def State.request (s : State) (data : List UInt8) : InjectXtra where
  totalSize := data.length
  totalParts := totalParts data.length % 65536
  partNum := s.part
  partData :=
    (data.drop s.lenInjected).take (partDataLen data.length s.lenInjected).toNat

/-- A turn of the loop. The modem has an answer for every request. -/
def turn (answers : ℕ → Answer) (data : List UInt8) (s : State) : State ⊕ Result :=
  if (s.part : ℤ) ≤ totalParts data.length then
    let answer := answers s.sent.length
    .inl
      { part := (s.part + 1) % 256
        lenInjected :=
          if answer.accepts s.part then
            (s.lenInjected + (partDataLen data.length s.lenInjected).toNat) % 65536
          else s.lenInjected
        status := answer.status
        sent := s.sent ++ [(s.request data, answer)] }
  else .inr ⟨convertErr s.status, s.sent⟩

/-- `setXtraData`, if its loop takes no more than these turns. -/
def setXtraData (answers : ℕ → Answer) (data : List UInt8) (turns : ℕ) : Option Result :=
  run (turn answers data) turns {}

/-! ## What is wanted of it -/

/-- The number of parts of a file. An empty one has one as well. -/
def parts (length : ℕ) : ℕ := (length - 1) / 1024 + 1

/-- A part of a file, counted from zero. -/
def chunk (data : List UInt8) (k : ℕ) : List UInt8 := (data.drop (1024 * k)).take 1024

/-- The parts of a file, under their numbers. -/
def chunks (data : List UInt8) : List (ℕ × List UInt8) :=
  (List.range (parts data.length)).map fun k => (k + 1, chunk data k)

/-- The parts that were accepted. -/
def Result.accepted (r : Result) : List (ℕ × List UInt8) :=
  (r.sent.filter fun p => p.2.accepts p.1.partNum).map fun p => (p.1.partNum, p.1.partData)

/-- The loop ends, and the modem has accepted the parts of the file. -/
def Injected (answers : ℕ → Answer) (data : List UInt8) : Prop :=
  ∃ turns r, setXtraData answers data turns = some r ∧ r.accepted = chunks data

/-! ## When the loop ends -/

variable {answers : ℕ → Answer} {data : List UInt8} {s : State}

theorem totalParts_eq (data : List UInt8) : totalParts data.length = parts data.length := by
  rw [totalParts, parts, partLen]
  rcases Nat.eq_zero_or_pos data.length with h | h
  · rw [h]
    rfl
  · rw [Int.tdiv_eq_ediv_of_nonneg (by omega)]
    omega

/-- There is another part. -/
theorem turn_of_le (h : s.part ≤ parts data.length) : turn answers data s = .inl
    { part := (s.part + 1) % 256
      lenInjected :=
        if (answers s.sent.length).accepts s.part then
          (s.lenInjected + (partDataLen data.length s.lenInjected).toNat) % 65536
        else s.lenInjected
      status := (answers s.sent.length).status
      sent := s.sent ++ [(s.request data, answers s.sent.length)] } :=
  if_pos (by rw [totalParts_eq]; exact_mod_cast h)

/-- There is none. -/
theorem turn_of_lt (h : parts data.length < s.part) :
    turn answers data s = .inr ⟨convertErr s.status, s.sent⟩ :=
  if_neg (by rw [totalParts_eq, not_le]; exact_mod_cast h)

/-- The number of the part comes back to zero before it is too large. -/
theorem setXtraData_of_many (h : 255 ≤ parts data.length) (turns : ℕ) :
    setXtraData answers data turns = none := by
  refine run_eq_none (I := fun s => s.part < 256) (fun s hs => ?_) (by decide) turns
  exact ⟨_, turn_of_le (by omega), Nat.mod_lt _ (by decide)⟩

/-- What the loop has done when it is at a part. -/
structure Reached (answers : ℕ → Answer) (k : ℕ) (s : State) : Prop where
  part : s.part = k + 1
  sent : s.sent.map (fun p => (p.1.partNum, p.2)) =
    (List.range k).map fun i => (i + 1, answers i)

theorem Reached.length {k : ℕ} (h : Reached answers k s) : s.sent.length = k := by
  have hlength := congrArg List.length h.sent
  rwa [List.length_map, List.length_map, List.length_range] at hlength

/-- One more part. -/
theorem Reached.turn {k : ℕ} (h : Reached answers k s) (hk : k < parts data.length)
    (hparts : parts data.length ≤ 254) : ∃ s', turn answers data s = .inl s' ∧
      Reached answers (k + 1) s' ∧ s'.sent = s.sent ++ [(s.request data, answers k)] ∧
      s'.lenInjected = if (answers k).accepts (k + 1) then
        (s.lenInjected + (partDataLen data.length s.lenInjected).toNat) % 65536
        else s.lenInjected := by
  have hpart := h.part
  refine ⟨_, turn_of_le (by omega), ⟨?_, ?_⟩, ?_, ?_⟩
  · rw [hpart]
    exact Nat.mod_eq_of_lt (by omega)
  · rw [List.map_append, h.sent, List.range_succ, List.map_append, h.length, List.map_singleton,
      List.map_singleton, State.request, hpart]
  · rw [h.length]
  · rw [h.length, hpart]

/-- A file of no more than 254 parts is sent to its end, and every part is numbered. -/
theorem exists_sent (answers : ℕ → Answer) (hparts : parts data.length ≤ 254) :
    ∃ turns r, setXtraData answers data turns = some r ∧
      r.sent.map (fun p => (p.1.partNum, p.2)) =
        (List.range (parts data.length)).map fun i => (i + 1, answers i) := by
  refine exists_run (I := fun s => ∃ k ≤ parts data.length, Reached answers k s)
    (fun s => parts data.length + 1 - s.part) (fun s hs => ?_) ⟨0, Nat.zero_le _, rfl, rfl⟩
  obtain ⟨k, hk, h⟩ := hs
  have hpart := h.part
  rcases hk.lt_or_eq with hlt | rfl
  · left
    obtain ⟨s', hturn, hs', -⟩ := h.turn hlt hparts
    have hpart' := hs'.part
    exact ⟨s', hturn, ⟨k + 1, hlt, hs'⟩, by omega⟩
  · exact Or.inr ⟨_, turn_of_lt (by omega), h.sent⟩

/-- **The loop ends**, whatever the modem answers, if and only if the file is cut into less than 255
parts. -/
theorem ends_iff (answers : ℕ → Answer) (data : List UInt8) :
    (∃ turns r, setXtraData answers data turns = some r) ↔ data.length ≤ 254 * 1024 := by
  have hparts : parts data.length ≤ 254 ↔ data.length ≤ 254 * 1024 := by
    rw [parts]
    omega
  rw [← hparts]
  constructor
  · rintro ⟨turns, r, hrun⟩
    by_contra hmany
    rw [setXtraData_of_many (by omega)] at hrun
    cases hrun
  · intro hfew
    obtain ⟨turns, r, hrun, -⟩ := exists_sent answers hfew
    exact ⟨turns, r, hrun⟩

/-! ## What the modem gets -/

/-- What the parts carry whose number is `k + 1`, when all are accepted. -/
def carried (data : List UInt8) (k : ℕ) : List UInt8 := (data.drop (1024 * k % 65536)).take 1024

/-- When every part is accepted, each is taken from where the last one ended, but for the carry
that a `uint16_t` has no room for. -/
structure Carries (answers : ℕ → Answer) (data : List UInt8) (k : ℕ) (s : State) : Prop where
  reached : Reached answers k s
  lenInjected : k < parts data.length → s.lenInjected = 1024 * k % 65536
  partData : s.sent.map (fun p => (p.1.partNum, p.1.partData)) =
    (List.range k).map fun i => (i + 1, carried data i)

/-- A part is as long as there is room for, or ends the file. -/
theorem take_partDataLen (data : List UInt8) (k : ℕ) :
    (data.drop (1024 * k % 65536)).take
      (partDataLen data.length ↑(1024 * k % 65536)).toNat = carried data k := by
  rw [carried, partDataLen, partLen]
  split_ifs with hrest
  · rw [List.take_of_length_le (by rw [List.length_drop]; omega),
      List.take_of_length_le (by rw [List.length_drop]; omega)]
  · rfl

theorem Carries.turn {k : ℕ} (h : Carries answers data k s) (hk : k < parts data.length)
    (hparts : parts data.length ≤ 254) (haccept : (answers k).accepts (k + 1) = true) :
    ∃ s', turn answers data s = .inl s' ∧ Carries answers data (k + 1) s' := by
  obtain ⟨s', hturn, hs', hsent, hlen⟩ := h.reached.turn hk hparts
  have hinjected := h.lenInjected hk
  refine ⟨s', hturn, hs', fun hk' => ?_, ?_⟩
  · rw [hlen, if_pos haccept, hinjected, partDataLen, partLen]
    rw [parts] at hk'
    split_ifs with hrest <;> omega
  · rw [hsent, List.map_append, h.partData, List.range_succ, List.map_append, List.map_singleton,
      List.map_singleton, State.request, h.reached.part, hinjected, take_partDataLen]

/-- The modem accepts the part of every number. -/
def AcceptsAll (answers : ℕ → Answer) (n : ℕ) : Prop :=
  ∀ k < parts n, (answers k).accepts (k + 1) = true

/-- What is sent is accepted. -/
theorem accepted_eq {r : Result} {n : ℕ} (hsent : r.sent.map (fun p => (p.1.partNum, p.2)) =
    (List.range (parts n)).map fun i => (i + 1, answers i)) (hall : AcceptsAll answers n) :
    r.accepted = r.sent.map fun p => (p.1.partNum, p.1.partData) := by
  rw [Result.accepted, List.filter_eq_self.mpr]
  intro p hp
  have hmem : (p.1.partNum, p.2) ∈ r.sent.map fun p => (p.1.partNum, p.2) :=
    List.mem_map_of_mem hp
  rw [hsent] at hmem
  obtain ⟨k, hk, heq⟩ := List.mem_map.mp hmem
  obtain ⟨hnum, hanswer⟩ := Prod.mk.inj heq
  rw [← hnum, ← hanswer]
  exact hall k (List.mem_range.mp hk)

/-- If every part is accepted, the modem has got what they carry. -/
theorem exists_carried (hparts : parts data.length ≤ 254)
    (hall : AcceptsAll answers data.length) :
    ∃ turns r, setXtraData answers data turns = some r ∧
      r.accepted = (List.range (parts data.length)).map fun i => (i + 1, carried data i) := by
  refine exists_run (I := fun s => ∃ k ≤ parts data.length, Carries answers data k s)
    (fun s => parts data.length + 1 - s.part) (fun s hs => ?_)
    ⟨0, Nat.zero_le _, ⟨rfl, rfl⟩, fun _ => rfl, rfl⟩
  obtain ⟨k, hk, h⟩ := hs
  have hpart := h.reached.part
  rcases hk.lt_or_eq with hlt | rfl
  · left
    obtain ⟨s', hturn, hs'⟩ := h.turn hlt hparts (hall k hlt)
    have hpart' := hs'.reached.part
    exact ⟨s', hturn, ⟨k + 1, hlt, hs'⟩, by omega⟩
  · right
    refine ⟨_, turn_of_lt (by omega), ?_⟩
    rw [accepted_eq h.reached.sent hall]
    exact h.partData

/-- Nothing is carried over in a file of 64 KiB. -/
theorem carried_eq {k : ℕ} (hlength : data.length ≤ 65536) (hk : k < parts data.length) :
    carried data k = chunk data k := by
  rw [parts] at hk
  rw [carried, chunk, Nat.mod_eq_of_lt (by omega)]

/-- A file that the modem gets was sent to its end, and accepted. -/
theorem Injected.acceptsAll (h : Injected answers data) :
    parts data.length ≤ 254 ∧ AcceptsAll answers data.length := by
  obtain ⟨turns, r, hrun, haccepted⟩ := h
  have hparts : parts data.length ≤ 254 := by
    by_contra hmany
    rw [setXtraData_of_many (by omega)] at hrun
    cases hrun
  refine ⟨hparts, fun k hk => ?_⟩
  obtain ⟨turns', r', hrun', hsent⟩ := exists_sent answers hparts
  obtain rfl : r = r' := run_unique hrun hrun'
  -- as many were accepted as were sent
  have hlength : (r.sent.filter fun p => p.2.accepts p.1.partNum).length = r.sent.length := by
    have hchunks := congrArg List.length haccepted
    have hcount := congrArg List.length hsent
    rw [Result.accepted, chunks, List.length_map, List.length_map] at hchunks
    rw [List.length_map, List.length_map] at hcount
    exact hchunks.trans hcount.symm
  have hmem : (k + 1, answers k) ∈ r.sent.map fun p => (p.1.partNum, p.2) := by
    rw [hsent]
    exact List.mem_map.mpr ⟨k, List.mem_range.mpr hk, rfl⟩
  obtain ⟨p, hp, heq⟩ := List.mem_map.mp hmem
  obtain ⟨hnum, hanswer⟩ := Prod.mk.inj heq
  rw [← hnum, ← hanswer]
  exact List.length_filter_eq_length_iff.mp hlength p hp

/-- A file whose part 65 is not its part 1. -/
def marked (n : ℕ) : List UInt8 := List.replicate (min n 65536) 0 ++ List.replicate (n - 65536) 1

theorem length_marked (n : ℕ) : (marked n).length = n := by
  rw [marked, List.length_append, List.length_replicate, List.length_replicate]
  omega

/-- Its part 65 is sent from the front again. -/
theorem carried_marked {n : ℕ} (h : 65536 < n) : carried (marked n) 64 ≠ chunk (marked n) 64 := by
  have hcarried : carried (marked n) 64 = List.replicate 1024 0 := by
    rw [carried, Nat.mod_self, List.drop_zero, marked,
      List.take_append_of_le_length (by rw [List.length_replicate]; omega),
      List.take_replicate, min_eq_left (by omega)]
  have hchunk : chunk (marked n) 64 = List.replicate (min 1024 (n - 65536)) 1 := by
    rw [chunk, marked, List.drop_left' (by rw [List.length_replicate]; omega), List.take_replicate]
  intro heq
  have hone : (1 : UInt8) ∈ chunk (marked n) 64 := by
    rw [hchunk]
    exact List.mem_replicate.mpr ⟨by omega, rfl⟩
  rw [← heq, hcarried] at hone
  exact absurd (List.eq_of_mem_replicate hone) (by decide)

/-- **The modem gets the file**, whatever is in it, if and only if it has no more than 64 KiB and
every part is accepted. -/
theorem injected_iff (answers : ℕ → Answer) (n : ℕ) :
    (∀ data : List UInt8, data.length = n → Injected answers data) ↔
      n ≤ 65536 ∧ AcceptsAll answers n := by
  constructor
  · intro h
    obtain ⟨hparts, hall⟩ := (h (marked n) (length_marked n)).acceptsAll
    rw [length_marked] at hall
    refine ⟨?_, hall⟩
    by_contra hlong
    obtain ⟨turns, r, hrun, haccepted⟩ := h (marked n) (length_marked n)
    obtain ⟨turns', r', hrun', hcarried⟩ :=
      exists_carried hparts ((length_marked n).symm ▸ hall)
    obtain rfl : r = r' := run_unique hrun hrun'
    rw [haccepted, chunks, length_marked, List.map_inj_left] at hcarried
    have hparts65 : 64 < parts n := by
      rw [parts]
      omega
    have hpair := hcarried 64 (List.mem_range.mpr hparts65)
    exact carried_marked (not_le.mp hlong) (Prod.mk.inj hpair).2.symm
  · rintro ⟨hlength, hall⟩ data rfl
    have hparts : parts data.length ≤ 254 := by
      rw [parts]
      omega
    obtain ⟨turns, r, hrun, haccepted⟩ := exists_carried hparts hall
    refine ⟨turns, r, hrun, haccepted.trans ?_⟩
    rw [chunks, List.map_inj_left]
    intro k hk
    rw [carried_eq hlength (List.mem_range.mp hk)]

end OppoA37.XtraData
