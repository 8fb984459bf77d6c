import OppoA37.Lib.Block
import OppoA37.Lib.Fifo
import OppoA37.Lib.Monitor
import OppoA37.Lib.Ring
import OppoA37.Sensors.ReadEvents

/-!
# The buffer of `VirtualSensor.cpp`

A `VirtualSensor` has a list of events. In the source this is a ring of `MAX_EVENTS` cells with a
pointer for each end, and `readEvents` writes to the memory of its caller with a pointer that moves:
when `mLastEvent` is set, the pointer is behind what was written, and the cell that is looked at is
as far behind again.

`readEvents_toVirtual` and `injectEvents_toVirtual` say that the ring is the list. So the events
come out in order, and none is lost but for want of room; but what is remembered for a replay is
the last event only if the memory of the caller happened to hold it already: `bufferRight_iff`.
-/

namespace OppoA37.Sensors

open Lts

universe u

variable {F : Type u}

/-- What a `VirtualSensor` has, with its pointers, which count from `mBuffer`. -/
structure VirtualBuffer (F : Type u) where
  /-- `mBuffer` -/
  buffer : ℕ → SensorsEvent F
  /-- `mRead` -/
  read : ℕ
  /-- `mWrite` -/
  write : ℕ
  /-- `mFreeSpace` -/
  freeSpace : ℕ
  /-- `mLastEvent` -/
  lastEvent : SensorsEvent F
  /-- `reportLastEvent` -/
  reportLastEvent : Bool
  /-- `mFirstEventReceived` -/
  firstEventReceived : Bool
  /-- `mHasPendingMetadata` -/
  hasPendingMetadata : ℕ
  /-- `mEnabled` -/
  enabled : Bool

/-- The memory of the caller, where `data` points to, and how many events were counted. -/
structure CallerMemory (F : Type u) where
  /-- the memory, from where `data` points to at first -/
  cells : ℕ → SensorsEvent F
  /-- `data` -/
  data : ℕ
  /-- `number` -/
  number : ℕ

/-- `*data++ = event; number++` -/
def CallerMemory.put (m : CallerMemory F) (event : SensorsEvent F) : CallerMemory F :=
  ⟨Function.update m.cells m.data event, m.data + 1, m.number + 1⟩

/-- What was written. -/
def CallerMemory.written (m : CallerMemory F) : List (SensorsEvent F) :=
  (List.range m.data).map m.cells

namespace VirtualBuffer

/-- `VirtualSensor::VirtualSensor`, with whatever is in its memory -/
def new (buffer : ℕ → SensorsEvent F) (lastEvent : SensorsEvent F) : VirtualBuffer F where
  buffer := buffer
  read := 0
  write := 0
  freeSpace := MAX_EVENTS
  lastEvent := lastEvent
  reportLastEvent := false
  firstEventReceived := false
  hasPendingMetadata := 0
  enabled := false

/-- `VirtualSensor::enable` -/
def enable (flag : Bool) (v : VirtualBuffer F) : VirtualBuffer F :=
  if v.enabled ≠ flag then { v with enabled := flag, firstEventReceived := false }
  else if flag then { v with reportLastEvent := v.firstEventReceived } else v

/-- What `SensorBase::flush` counts for a sensor that has no FIFO of its own. -/
def flush (v : VirtualBuffer F) : VirtualBuffer F :=
  if v.enabled then { v with hasPendingMetadata := v.hasPendingMetadata + 1 } else v

/-- A turn of the loop in `readEvents` -/
def readOne (v : VirtualBuffer F) : VirtualBuffer F :=
  { v with
    read := Ring.advance MAX_EVENTS v.read
    freeSpace := v.freeSpace + 1
    firstEventReceived := true }

/-- The loop in `readEvents`, with `count` -/
def readLoop : ℕ → VirtualBuffer F → CallerMemory F → VirtualBuffer F × CallerMemory F
  | 0, v, m => (v, m)
  | count + 1, v, m =>
    if MAX_EVENTS - v.freeSpace ≠ 0 then readLoop count v.readOne (m.put (v.buffer v.read))
    else (v, m)

/-- The replay at the start of `readEvents` -/
def readLast (v : VirtualBuffer F) (m : CallerMemory F) (count : ℕ) :
    VirtualBuffer F × CallerMemory F × ℕ :=
  if v.reportLastEvent then ({ v with reportLastEvent := false }, m.put v.lastEvent, count - 1)
  else (v, m, count)

/-- The metadata in `readEvents` -/
def readMetadata (sensor : ℕ) (v : VirtualBuffer F) (m : CallerMemory F) (count : ℕ) :
    VirtualBuffer F × CallerMemory F × ℕ :=
  if v.hasPendingMetadata ≠ 0 ∧ count ≠ 0 then
    ({ v with hasPendingMetadata := v.hasPendingMetadata - 1 }, m.put (.flushComplete sensor 0),
      count - 1)
  else (v, m, count)

/-- `VirtualSensor::readEvents`, with the memory of the caller; the number is what it returns. -/
def readEvents (sensor : ℕ) (cells : ℕ → SensorsEvent F) (count : ℤ) (v : VirtualBuffer F) :
    VirtualBuffer F × CallerMemory F × ℤ :=
  if count < 1 ∨ v.enabled = false then (v, ⟨cells, 0, 0⟩, -EINVAL)
  else
    let (v, m, count) := v.readLast ⟨cells, 0, 0⟩ count.toNat
    let (v, m, count) := v.readMetadata sensor m count
    let (v, m) := v.readLoop count m
    -- `data` is behind what was written
    ({ v with
        lastEvent := if m.number > 0 then m.cells (m.data + (m.number - 1)) else v.lastEvent },
      m, m.number)

/-- A turn of the loop in `injectEvents`; `converted` is what the algorithm makes of the event, if
it is asked. -/
def injectOne (sensor : ℕ) (v : VirtualBuffer F) (event : SensorsEvent F) (converted : Option F) :
    VirtualBuffer F :=
  match event with
  | .sample _ timestamp _ =>
    if v.freeSpace ≠ 0 then
      match converted with
      | none => v
      | some data =>
        { v with
          buffer := Function.update v.buffer v.write (.sample sensor timestamp data)
          write := Ring.advance MAX_EVENTS v.write
          freeSpace := v.freeSpace - 1 }
    else v
  | .flushComplete _ _ => v

/-- `VirtualSensor::injectEvents` -/
def injectEvents (sensor : ℕ) (algo : Bool) (events : List (SensorsEvent F × Option F))
    (v : VirtualBuffer F) : VirtualBuffer F :=
  if algo then events.foldl (fun v p => v.injectOne sensor p.1 p.2) v else v

/-- What is in the ring, oldest first. -/
def contents (v : VirtualBuffer F) : List (SensorsEvent F) :=
  Ring.contents MAX_EVENTS v.buffer v.read (MAX_EVENTS - v.freeSpace)

/-- The pointers are where they belong. -/
structure Sound (v : VirtualBuffer F) : Prop where
  read_lt : v.read < MAX_EVENTS
  free_le : v.freeSpace ≤ MAX_EVENTS
  write_eq : v.write = Ring.cell MAX_EVENTS v.read (MAX_EVENTS - v.freeSpace)

/-- The sensor with a list of events. -/
def toVirtual (v : VirtualBuffer F) : VirtualSensor F where
  buffer := v.contents
  lastEvent := v.lastEvent
  reportLastEvent := v.reportLastEvent
  firstEventReceived := v.firstEventReceived
  hasPendingMetadata := v.hasPendingMetadata

end VirtualBuffer

/-! ## The memory of the caller -/

namespace CallerMemory

variable {cells : ℕ → SensorsEvent F} {m : CallerMemory F} {l : List (SensorsEvent F)}

/-- Write some events. -/
def puts (m : CallerMemory F) (l : List (SensorsEvent F)) : CallerMemory F := l.foldl put m

theorem puts_append (m : CallerMemory F) (l l' : List (SensorsEvent F)) :
    m.puts (l ++ l') = (m.puts l).puts l' :=
  List.foldl_append

/-- These events were written, and nothing else. -/
structure Wrote (cells : ℕ → SensorsEvent F) (m : CallerMemory F) (l : List (SensorsEvent F)) :
    Prop where
  written : m.written = l
  data : m.data = l.length
  number : m.number = l.length
  rest : ∀ i, m.data ≤ i → m.cells i = cells i

theorem Wrote.put (h : Wrote cells m l) (event : SensorsEvent F) :
    Wrote cells (m.put event) (l ++ [event]) := by
  refine ⟨?_, ?_, ?_, fun i hi => ?_⟩
  · rw [← h.written]
    exact Block.map_range_update _ _ _
  · rw [List.length_append, List.length_singleton, ← h.data]
    rfl
  · rw [List.length_append, List.length_singleton, ← h.number]
    rfl
  · have hi : m.data + 1 ≤ i := hi
    exact (Function.update_of_ne (by omega) _ _).trans (h.rest i (by omega))

/-- What is written from the start. -/
theorem wrote_puts (cells : ℕ → SensorsEvent F) (l : List (SensorsEvent F)) :
    Wrote cells ((⟨cells, 0, 0⟩ : CallerMemory F).puts l) l := by
  induction l using List.reverseRecOn with
  | nil => exact ⟨rfl, rfl, rfl, fun _ _ => rfl⟩
  | append_singleton l event ih =>
    rw [puts_append]
    exact ih.put event

end CallerMemory

/-! ## The ring is a list -/

namespace VirtualBuffer

variable {v : VirtualBuffer F} {m : CallerMemory F} {sensor count : ℕ}

theorem sound_new (buffer : ℕ → SensorsEvent F) (lastEvent : SensorsEvent F) :
    (new buffer lastEvent).Sound :=
  ⟨Nat.succ_pos 249, le_rfl, rfl⟩

@[simp] theorem contents_new (buffer : ℕ → SensorsEvent F) (lastEvent : SensorsEvent F) :
    (new buffer lastEvent).contents = [] := by
  rw [contents, new, Nat.sub_self]
  rfl

@[simp] theorem length_contents (v : VirtualBuffer F) :
    v.contents.length = MAX_EVENTS - v.freeSpace :=
  Ring.length_contents

/-- A turn of the loop takes the first event. -/
theorem readOne_spec (h : v.Sound) (hne : MAX_EVENTS - v.freeSpace ≠ 0) :
    v.readOne.Sound ∧ v.contents = v.buffer v.read :: v.readOne.contents := by
  obtain ⟨n, hn⟩ := Nat.exists_eq_succ_of_ne_zero hne
  have hle := h.free_le
  have hnext : MAX_EVENTS - (v.freeSpace + 1) = n := by omega
  have hlt : n < MAX_EVENTS := by omega
  refine ⟨⟨Ring.advance_lt h.read_lt, ?_, ?_⟩, ?_⟩
  · simp only [readOne]
    omega
  · simp only [readOne]
    rw [h.write_eq, hnext, hn, Ring.cell_advance h.read_lt hlt]
  · simp only [contents, readOne]
    rw [hnext, hn]
    exact Ring.contents_pop h.read_lt hlt

/-- The loop takes as many events as there are, and as there is room for. -/
theorem readLoop_spec (h : v.Sound) (m : CallerMemory F) (count : ℕ) :
    (v.readLoop count m).1.Sound ∧ (v.readLoop count m).2 = m.puts (v.contents.take count) ∧
      (v.readLoop count m).1.toVirtual = { v.toVirtual with
        buffer := v.contents.drop count
        firstEventReceived := v.firstEventReceived || !(v.contents.take count).isEmpty } ∧
      (v.readLoop count m).1.enabled = v.enabled := by
  induction count generalizing v m with
  | zero => exact ⟨h, rfl, by simp [readLoop, toVirtual], rfl⟩
  | succ count ih =>
    rw [readLoop]
    split_ifs with hne
    · obtain ⟨hsound, hcontents⟩ := readOne_spec h hne
      obtain ⟨hsound', hm, hv, hen⟩ := ih hsound (m.put (v.buffer v.read))
      refine ⟨hsound', ?_, ?_, hen⟩
      · rw [hm, hcontents, List.take_succ_cons]
        rfl
      · rw [hv, hcontents, List.take_succ_cons, List.drop_succ_cons]
        simp [toVirtual, readOne]
    · have hnil : v.contents = [] := by
        rw [← List.length_eq_zero_iff, length_contents]
        exact not_not.mp hne
      refine ⟨h, by rw [hnil]; rfl, ?_, rfl⟩
      simp [toVirtual, hnil]

/-- The event that is handed out again. -/
def last (v : VirtualBuffer F) : List (SensorsEvent F) :=
  if v.reportLastEvent then [v.lastEvent] else []

theorem readLast_eq (v : VirtualBuffer F) (m : CallerMemory F) (count : ℕ) :
    v.readLast m count =
      ({ v with reportLastEvent := false }, m.puts v.last, count - v.last.length) := by
  obtain ⟨buffer, read, write, freeSpace, lastEvent, reportLastEvent, _, _, _⟩ := v
  cases reportLastEvent <;> rfl

/-- The metadata that is handed out. -/
def metadata (sensor : ℕ) (v : VirtualBuffer F) (count : ℕ) : List (SensorsEvent F) :=
  if v.hasPendingMetadata ≠ 0 ∧ count ≠ 0 then [.flushComplete sensor 0] else []

theorem readMetadata_eq (sensor : ℕ) (v : VirtualBuffer F) (m : CallerMemory F) (count : ℕ) :
    v.readMetadata sensor m count =
      ({ v with hasPendingMetadata := v.hasPendingMetadata - (v.metadata sensor count).length },
        m.puts (v.metadata sensor count), count - (v.metadata sensor count).length) := by
  rw [readMetadata, metadata]
  split_ifs <;> rfl

/-- The room that is left for what is in the ring. -/
def room (sensor : ℕ) (v : VirtualBuffer F) (count : ℕ) : ℕ :=
  count - v.last.length - (v.metadata sensor (count - v.last.length)).length

/-- What is handed out to a caller. -/
def handedOut (sensor : ℕ) (v : VirtualBuffer F) (count : ℕ) : List (SensorsEvent F) :=
  v.last ++ v.metadata sensor (count - v.last.length) ++ v.contents.take (v.room sensor count)

/-- Without room, or when it is disabled, a sensor hands out nothing. -/
theorem readEvents_of_error {cells : ℕ → SensorsEvent F} {count : ℤ}
    (h : count < 1 ∨ v.enabled = false) :
    v.readEvents sensor cells count = (v, ⟨cells, 0, 0⟩, -EINVAL) :=
  if_pos h

/-- The sensor when the loop starts. -/
def beforeLoop (sensor : ℕ) (v : VirtualBuffer F) (count : ℕ) : VirtualBuffer F :=
  { v with
    reportLastEvent := false
    hasPendingMetadata := v.hasPendingMetadata -
      (v.metadata sensor (count - v.last.length)).length }

/-- What `readEvents` remembers: the cell behind what was written that is as far from its end as
the last event is from its start. -/
def remembered (sensor : ℕ) (cells : ℕ → SensorsEvent F) (count : ℕ) (v : VirtualBuffer F) :
    SensorsEvent F :=
  if (v.handedOut sensor count).isEmpty then v.lastEvent
  else cells (2 * (v.handedOut sensor count).length - 1)

/-- What `readEvents` does for a caller with room. -/
theorem readEvents_spec (sensor : ℕ) (h : v.Sound) (cells : ℕ → SensorsEvent F) {count : ℤ}
    (hcall : ¬ (count < 1 ∨ v.enabled = false)) :
    ∃ v' m, v.readEvents sensor cells count = (v', m, (m.written.length : ℤ)) ∧ v'.Sound ∧
      CallerMemory.Wrote cells m (v.handedOut sensor count.toNat) ∧
      v'.toVirtual =
        { buffer := v.contents.drop (v.room sensor count.toNat)
          lastEvent := v.remembered sensor cells count.toNat
          reportLastEvent := false
          firstEventReceived := v.firstEventReceived ||
            !(v.contents.take (v.room sensor count.toNat)).isEmpty
          hasPendingMetadata := v.hasPendingMetadata -
            (v.metadata sensor (count.toNat - v.last.length)).length } := by
  generalize hn : count.toNat = n
  have hw : (v.beforeLoop sensor n).Sound := ⟨h.read_lt, h.free_le, h.write_eq⟩
  obtain ⟨hsound, hm, hvirtual, -⟩ := readLoop_spec hw ((⟨cells, 0, 0⟩ : CallerMemory F).puts
    (v.last ++ v.metadata sensor (n - v.last.length))) (v.room sensor n)
  have hread : v.readEvents sensor cells count =
      let r := (v.beforeLoop sensor n).readLoop (v.room sensor n)
        ((⟨cells, 0, 0⟩ : CallerMemory F).puts
          (v.last ++ v.metadata sensor (n - v.last.length)))
      ({ r.1 with lastEvent := if r.2.number > 0 then r.2.cells (r.2.data + (r.2.number - 1))
          else r.1.lastEvent }, r.2, (r.2.number : ℤ)) := by
    rw [readEvents, if_neg hcall, hn, readLast_eq]
    dsimp only
    rw [readMetadata_eq, CallerMemory.puts_append]
    rfl
  rw [← CallerMemory.puts_append] at hm
  generalize (v.beforeLoop sensor n).readLoop (v.room sensor n)
    ((⟨cells, 0, 0⟩ : CallerMemory F).puts
      (v.last ++ v.metadata sensor (n - v.last.length))) = r at hsound hm hvirtual hread
  obtain ⟨v', m⟩ := r
  have hwrote : CallerMemory.Wrote cells m (v.handedOut sensor n) := by
    obtain rfl : m = _ := hm
    exact CallerMemory.wrote_puts cells _
  have hlast : (if m.number > 0 then m.cells (m.data + (m.number - 1)) else v'.lastEvent) =
      v.remembered sensor cells n := by
    rw [remembered, hwrote.number]
    cases hnil : v.handedOut sensor n with
    | nil => exact congrArg VirtualSensor.lastEvent hvirtual
    | cons event events =>
      rw [← hnil]
      have hpos : 0 < (v.handedOut sensor n).length := by rw [hnil]; exact Nat.succ_pos _
      rw [if_pos hpos, if_neg (by rw [hnil]; exact Bool.false_ne_true), hwrote.data,
        hwrote.rest _ (by rw [hwrote.data]; omega)]
      congr 1
      omega
  refine ⟨{ v' with lastEvent := v.remembered sensor cells n }, m, ?_,
    ⟨hsound.read_lt, hsound.free_le, hsound.write_eq⟩, hwrote, ?_⟩
  · rw [hread]
    dsimp only
    rw [hlast, hwrote.written, hwrote.number]
  · exact congrArg (fun u : VirtualSensor F => { u with
      lastEvent := v.remembered sensor cells n }) hvirtual

/-- The list is read like the ring. -/
theorem readEvents_toVirtual (h : v.Sound) {cells : ℕ → SensorsEvent F} {count : ℤ}
    (hcall : ¬ (count < 1 ∨ v.enabled = false)) {world : World F}
    (hbehind : world.behind = cells (2 * (v.handedOut sensor count.toNat).length - 1)) :
    ∃ v' m number, v.readEvents sensor cells count = (v', m, number) ∧
      v.toVirtual.readEvents world sensor v.enabled count.toNat =
        (v'.toVirtual, .ok m.written) := by
  obtain ⟨v', m, hread, -, hwrote, hvirtual⟩ := v.readEvents_spec sensor h cells hcall
  refine ⟨v', m, _, hread, ?_⟩
  have hcall' : ¬ (count.toNat < 1 ∨ v.enabled = false) := by
    rw [not_or] at hcall ⊢
    exact ⟨by omega, hcall.2⟩
  have hmetadata : v.metadata sensor (count.toNat - v.last.length) =
      if v.hasPendingMetadata ≠ 0 ∧ v.last.length < count.toNat then [.flushComplete sensor 0]
      else [] := by
    simp only [metadata, Nat.sub_ne_zero_iff_lt]
  rw [VirtualSensor.readEvents, if_neg hcall', hwrote.written, hvirtual, remembered, ← hbehind,
    handedOut, room, hmetadata]
  rfl

/-! ## Injecting -/

/-- What the algorithm makes of some events: metadata is no input for it. -/
def conversions (sensor : ℕ) (events : List (SensorsEvent F × Option F)) :
    List (SensorsEvent F) :=
  events.filterMap fun p =>
    match p.1, p.2 with
    | .sample _ timestamp _, some data => some (.sample sensor timestamp data)
    | _, _ => none

/-- An event is written behind the last one, if there is room. -/
theorem injectOne_spec (h : v.Sound) (sensor : ℕ) (event : SensorsEvent F)
    (converted : Option F) :
    (v.injectOne sensor event converted).Sound ∧
      (v.injectOne sensor event converted).toVirtual =
        v.toVirtual.injectEvents sensor converted event ∧
      (v.injectOne sensor event converted).contents =
        v.contents ++ (conversions sensor [(event, converted)]).take v.freeSpace := by
  have hfree := h.free_le
  cases event with
  | flushComplete w timestamp =>
    exact ⟨h, rfl, by simp [injectOne, conversions]⟩
  | sample w timestamp data =>
    have hlength : v.contents.length < MAX_EVENTS ↔ v.freeSpace ≠ 0 := by
      rw [length_contents]
      have hpos : 0 < MAX_EVENTS := Nat.succ_pos 249
      omega
    simp only [injectOne, toVirtual, VirtualSensor.injectEvents, hlength]
    split_ifs with hroom
    · cases converted with
      | none => exact ⟨h, rfl, by simp [conversions]⟩
      | some data =>
        have hlt : MAX_EVENTS - v.freeSpace < MAX_EVENTS := by
          have hpos : 0 < MAX_EVENTS := Nat.succ_pos 249
          omega
        have hnext : MAX_EVENTS - (v.freeSpace - 1) = MAX_EVENTS - v.freeSpace + 1 := by omega
        have hcontents : VirtualBuffer.contents { v with
            buffer := Function.update v.buffer v.write (.sample sensor timestamp data)
            write := Ring.advance MAX_EVENTS v.write
            freeSpace := v.freeSpace - 1 } =
            v.contents ++ [SensorsEvent.sample sensor timestamp data] := by
          simp only [contents]
          rw [hnext, h.write_eq]
          exact Ring.contents_push hlt _
        refine ⟨⟨h.read_lt, (Nat.sub_le _ _).trans hfree, ?_⟩, ?_, ?_⟩
        · simp only
          rw [hnext, h.write_eq, Ring.advance_cell h.read_lt hlt]
        · rw [hcontents]
        · obtain ⟨n, hn⟩ := Nat.exists_eq_succ_of_ne_zero hroom
          rw [hcontents, hn]
          simp [conversions]
    · refine ⟨h, rfl, ?_⟩
      rw [not_not.mp hroom, List.take_zero, List.append_nil]

/-- Of what the algorithm makes of the events, as many as there is room for are written behind the
others. -/
theorem injectEvents_spec (h : v.Sound) (sensor : ℕ) (algo : Bool)
    (events : List (SensorsEvent F × Option F)) :
    (v.injectEvents sensor algo events).Sound ∧
      (v.injectEvents sensor algo events).contents =
        v.contents ++ if algo then (conversions sensor events).take v.freeSpace else [] := by
  rw [injectEvents]
  cases algo with
  | false => exact ⟨h, (List.append_nil _).symm⟩
  | true =>
    simp only [if_true]
    induction events generalizing v with
    | nil => exact ⟨h, by simp [conversions]⟩
    | cons p events ih =>
      obtain ⟨event, converted⟩ := p
      obtain ⟨hsound, -, hcontents⟩ := injectOne_spec h sensor event converted
      obtain ⟨hsound', hcontents'⟩ := ih hsound
      refine ⟨hsound', ?_⟩
      have hfree : (v.injectOne sensor event converted).freeSpace =
          v.freeSpace - (conversions sensor [(event, converted)]).length := by
        have hlength := congrArg List.length hcontents
        rw [List.length_append, length_contents, length_contents, List.length_take] at hlength
        have hle := h.free_le
        have hle' := hsound.free_le
        omega
      have hsplit : conversions sensor ((event, converted) :: events) =
          conversions sensor [(event, converted)] ++ conversions sensor events := by
        rw [conversions, conversions, conversions, ← List.filterMap_append]
        rfl
      rw [List.foldl_cons, hcontents', hcontents, hfree, hsplit, List.take_append,
        List.append_assoc]

/-- Nothing is remembered of what is injected. -/
theorem lastEvent_injectEvents (v : VirtualBuffer F) (sensor : ℕ) (algo : Bool)
    (events : List (SensorsEvent F × Option F)) :
    (v.injectEvents sensor algo events).lastEvent = v.lastEvent := by
  have hone (v : VirtualBuffer F) (p : SensorsEvent F × Option F) :
      (v.injectOne sensor p.1 p.2).lastEvent = v.lastEvent := by
    obtain ⟨event, converted⟩ := p
    cases event with
    | flushComplete w timestamp => rfl
    | sample w timestamp data =>
      cases converted with
      | none => exact congrArg VirtualBuffer.lastEvent (ite_self v)
      | some data =>
        simp only [injectOne]
        split_ifs <;> rfl
  rw [injectEvents]
  cases algo with
  | false => rfl
  | true =>
    simp only [if_true]
    induction events generalizing v with
    | nil => rfl
    | cons p events ih => rw [List.foldl_cons, ih, hone]

end VirtualBuffer

/-! ## Runs -/

/-- A call of the manager. -/
inductive BufferCall (F : Type u) where
  /-- `readEvents`, with the memory of the caller -/
  | read (count : ℤ) (cells : ℕ → SensorsEvent F)
  /-- `injectEvents`; with each event comes what the algorithm makes of it if it is asked -/
  | inject (events : List (SensorsEvent F × Option F))
  | enable (flag : Bool)
  | flush

/-- A virtual sensor with the manager; `readEvents` hands out the memory of the caller and a
number. -/
def bufferMachine (F : Type u) (sensor : ℕ) (algo : Bool) :
    Machine (VirtualBuffer F) (BufferCall F) (CallerMemory F × ℤ) where
  step v
    | .read count cells =>
      some ((v.readEvents sensor cells count).1, [(v.readEvents sensor cells count).2])
    | .inject events => some (v.injectEvents sensor algo events, [])
    | .enable flag => some (v.enable flag, [])
    | .flush => some (v.flush, [])

namespace VirtualBuffer

/-- The metadata that is there. -/
def allMetadata (sensor : ℕ) (v : VirtualBuffer F) : List (SensorsEvent F) :=
  if v.hasPendingMetadata ≠ 0 then [.flushComplete sensor 0] else []

/-- All that could be handed out. -/
def pending (sensor : ℕ) (v : VirtualBuffer F) : List (SensorsEvent F) :=
  v.last ++ v.allMetadata sensor ++ v.contents

theorem length_last_le (v : VirtualBuffer F) : v.last.length ≤ 1 := by
  rw [last]
  split_ifs <;> simp

theorem metadata_eq (sensor : ℕ) (v : VirtualBuffer F) (count : ℕ) :
    v.metadata sensor count = (v.allMetadata sensor).take count := by
  rw [metadata, allMetadata]
  cases count with
  | zero => simp
  | succ count => split_ifs <;> simp_all

/-- A caller with room gets the last event again, metadata, and what was injected, in this order. -/
theorem handedOut_eq (sensor : ℕ) (v : VirtualBuffer F) {count : ℕ} (hcount : 1 ≤ count) :
    v.handedOut sensor count = (v.pending sensor).take count := by
  have hlast := v.length_last_le
  rw [handedOut, pending, room, metadata_eq, List.take_append, List.take_append,
    List.take_of_length_le (hlast.trans hcount), List.length_append, List.length_take]
  congr 2
  omega

/-- What comes out of the ring is behind the others. -/
theorem taken_eq (sensor : ℕ) (v : VirtualBuffer F) (count : ℕ) :
    v.contents.take (v.room sensor count) =
      (v.handedOut sensor count).drop (v.last ++ v.allMetadata sensor).length := by
  rw [handedOut, room, metadata_eq, List.length_take]
  rcases Nat.lt_or_ge (count - v.last.length) (v.allMetadata sensor).length with hlt | hge
  · -- no room was left for the ring
    rw [Nat.min_eq_left hlt.le, Nat.sub_self, List.take_zero, List.append_nil,
      List.drop_of_length_le]
    rw [List.length_append, List.length_append, List.length_take]
    omega
  · rw [Nat.min_eq_right hge, List.take_of_length_le hge, List.drop_left]

end VirtualBuffer

/-- An event of a run of a virtual sensor. -/
abbrev BufferEvent (F : Type u) := Event (VirtualBuffer F) (BufferCall F) (CallerMemory F × ℤ)

/-- The events that a call leaves in the ring: what the algorithm makes of those that are injected,
while there is room. -/
def entered (sensor : ℕ) (algo : Bool) (e : BufferEvent F) : List (SensorsEvent F) :=
  match e.label with
  | .inject events =>
    if algo then (VirtualBuffer.conversions sensor events).take e.pre.freeSpace else []
  | _ => []

/-- What a call writes to the memory of its caller. -/
def writtenBy (e : BufferEvent F) : List (SensorsEvent F) := e.out.flatMap fun p => p.1.written

/-- The events of the ring that a call delivers, behind the event that is handed out again and
metadata. -/
def delivered (sensor : ℕ) (e : BufferEvent F) : List (SensorsEvent F) :=
  (writtenBy e).drop (e.pre.last ++ e.pre.allMetadata sensor).length

/-- A caller without room is refused, and so is one of a disabled sensor; any other gets as much of
what is pending as there is room for, and its number. -/
def Answered (sensor : ℕ) (e : BufferEvent F) : Prop :=
  ∀ count cells, e.label = .read count cells → ∀ m number, (m, number) ∈ e.out →
    if count < 1 ∨ e.pre.enabled = false then number = -EINVAL ∧ m.written = []
    else number = m.written.length ∧ m.written = (e.pre.pending sensor).take count.toNat

/-- A call that delivers something leaves the last of it in `mLastEvent`, and no other call changes
that. -/
def Remembers (e : BufferEvent F) : Prop :=
  e.post.lastEvent = (writtenBy e).getLast?.getD e.pre.lastEvent

/-- What a virtual sensor is for. -/
structure BufferRight (sensor : ℕ) (algo : Bool) (h : List (BufferEvent F)) (v : VirtualBuffer F) :
    Prop where
  /-- what entered the ring was delivered, or is there still, in this order -/
  order : h.flatMap (entered sensor algo) = h.flatMap (delivered sensor) ++ v.contents
  /-- `readEvents` returns the number of what it has written -/
  number : ∀ e ∈ h, Answered sensor e
  /-- `mLastEvent` is the last event that was delivered -/
  remembers : ∀ e ∈ h, Remembers e

/-- The memory that is given to `readEvents` already has the last event that will be written, as
far behind the end of what will be written as that event is behind its start. -/
def CallerHasLast (sensor : ℕ) (v : VirtualBuffer F) : BufferCall F → Prop
  | .read count cells => ¬ (count < 1 ∨ v.enabled = false) →
      ∀ event ∈ ((v.pending sensor).take count.toNat).getLast?,
        cells (2 * ((v.pending sensor).take count.toNat).length - 1) = event
  | _ => True

instance instDecidableCallerHasLast [DecidableEq F] (sensor : ℕ) (v : VirtualBuffer F) :
    (call : BufferCall F) → Decidable (CallerHasLast sensor v call)
  | .read _ _ => inferInstanceAs (Decidable (_ → _))
  | .inject _ => inferInstanceAs (Decidable True)
  | .enable _ => inferInstanceAs (Decidable True)
  | .flush => inferInstanceAs (Decidable True)

section Runs

variable {v v' : VirtualBuffer F} {sensor : ℕ} {algo : Bool}

/-- What `readEvents` does is seen by its caller. -/
theorem read_spec (hsound : v.Sound) {count : ℤ} {cells : ℕ → SensorsEvent F}
    {m : CallerMemory F} {number : ℤ} (hread : v.readEvents sensor cells count = (v', m, number))
    {e : BufferEvent F} (he : e = ⟨v, .read count cells, [(m, number)], v'⟩) :
    v'.Sound ∧ v.contents = delivered sensor e ++ v'.contents ∧ Answered sensor e ∧
      (Remembers e ↔ CallerHasLast sensor v (.read count cells)) := by
  subst he
  have hwritten : writtenBy (⟨v, .read count cells, [(m, number)], v'⟩ : BufferEvent F) =
      m.written := List.flatMap_singleton _ _
  simp only [delivered, Answered, Remembers, CallerHasLast, hwritten]
  by_cases hcall : count < 1 ∨ v.enabled = false
  · -- nothing is written
    rw [VirtualBuffer.readEvents_of_error hcall] at hread
    obtain ⟨rfl, hpair⟩ := Prod.mk.inj hread
    obtain ⟨rfl, rfl⟩ := Prod.mk.inj hpair
    have hnil : (⟨cells, 0, 0⟩ : CallerMemory F).written = [] := rfl
    rw [hnil, List.drop_nil]
    refine ⟨hsound, rfl, ?_, iff_of_true rfl fun hno => absurd hcall hno⟩
    intro count' cells' hlabel m' number' hout
    obtain ⟨rfl, -⟩ := BufferCall.read.inj hlabel
    obtain ⟨rfl, rfl⟩ := Prod.mk.inj (List.mem_singleton.mp hout)
    rw [if_pos hcall]
    exact ⟨rfl, hnil⟩
  · obtain ⟨v₁, m₁, hread₁, hsound', hwrote, hvirtual⟩ :=
      v.readEvents_spec sensor hsound cells hcall
    rw [hread] at hread₁
    obtain ⟨rfl, hpair⟩ := Prod.mk.inj hread₁
    obtain ⟨rfl, rfl⟩ := Prod.mk.inj hpair
    have hcount : 1 ≤ count.toNat := by
      rw [not_or] at hcall
      omega
    have hcontents : v'.contents = v.contents.drop (v.room sensor count.toNat) :=
      congrArg VirtualSensor.buffer hvirtual
    have hlast : v'.lastEvent = v.remembered sensor cells count.toNat :=
      congrArg VirtualSensor.lastEvent hvirtual
    rw [hwrote.written, hlast, hcontents, ← VirtualBuffer.taken_eq, List.take_append_drop,
      VirtualBuffer.remembered, ← VirtualBuffer.handedOut_eq sensor v hcount]
    refine ⟨hsound', rfl, ?_, ?_⟩
    · intro count' cells' hlabel m' number' hout
      obtain ⟨rfl, -⟩ := BufferCall.read.inj hlabel
      obtain ⟨rfl, rfl⟩ := Prod.mk.inj (List.mem_singleton.mp hout)
      rw [if_neg hcall, hwrote.written]
      exact ⟨rfl, VirtualBuffer.handedOut_eq sensor v hcount⟩
    · -- the cell behind decides, if anything was written
      generalize v.handedOut sensor count.toNat = l
      rw [forall_prop_of_true hcall]
      cases l using List.reverseRecOn with
      | nil => simp
      | append_singleton l event => simp

theorem delivered_of_out_nil {e : BufferEvent F} (h : e.out = []) : delivered sensor e = [] := by
  rw [delivered, writtenBy, h, List.flatMap_nil, List.drop_nil]

theorem answered_of_out_nil {e : BufferEvent F} (h : e.out = []) : Answered sensor e := by
  intro count cells _ m number hout
  rw [h] at hout
  exact absurd hout List.not_mem_nil

/-- What a call does. -/
theorem bufferStep_spec (hsound : v.Sound) {call : BufferCall F}
    {out : List (CallerMemory F × ℤ)}
    (hs : (bufferMachine F sensor algo).step v call = some (v', out)) {e : BufferEvent F}
    (he : e = ⟨v, call, out, v'⟩) :
    v'.Sound ∧ v.contents ++ entered sensor algo e = delivered sensor e ++ v'.contents ∧
      Answered sensor e ∧ (Remembers e ↔ CallerHasLast sensor v call) := by
  cases call with
  | read count cells =>
    obtain ⟨v₁, m, number, hread⟩ : ∃ v₁ m number,
        v.readEvents sensor cells count = (v₁, m, number) := ⟨_, _, _, rfl⟩
    simp only [bufferMachine, hread, Option.some.injEq, Prod.mk.injEq] at hs
    obtain ⟨rfl, rfl⟩ := hs
    obtain ⟨hsound', hcontents, hanswer, hlast⟩ := read_spec hsound hread he
    refine ⟨hsound', ?_, hanswer, hlast⟩
    rw [← hcontents, he]
    exact List.append_nil _
  | inject events =>
    obtain ⟨rfl, rfl⟩ := Prod.mk.inj (Option.some.inj hs)
    obtain ⟨hsound', hcontents⟩ := VirtualBuffer.injectEvents_spec hsound sensor algo events
    subst he
    refine ⟨hsound', ?_, answered_of_out_nil rfl, iff_of_true ?_ trivial⟩
    · rw [delivered_of_out_nil rfl, hcontents]
      rfl
    · exact v.lastEvent_injectEvents sensor algo events
  | enable flag =>
    obtain ⟨rfl, rfl⟩ := Prod.mk.inj (Option.some.inj hs)
    subst he
    have hkept : (v.enable flag).Sound ∧ (v.enable flag).contents = v.contents ∧
        (v.enable flag).lastEvent = v.lastEvent := by
      rw [VirtualBuffer.enable]
      split_ifs
      all_goals exact ⟨⟨hsound.read_lt, hsound.free_le, hsound.write_eq⟩, rfl, rfl⟩
    refine ⟨hkept.1, ?_, answered_of_out_nil rfl, iff_of_true hkept.2.2 trivial⟩
    rw [delivered_of_out_nil rfl, hkept.2.1]
    exact List.append_nil _
  | flush =>
    obtain ⟨rfl, rfl⟩ := Prod.mk.inj (Option.some.inj hs)
    subst he
    have hkept : v.flush.Sound ∧ v.flush.contents = v.contents ∧
        v.flush.lastEvent = v.lastEvent := by
      rw [VirtualBuffer.flush]
      split_ifs
      all_goals exact ⟨⟨hsound.read_lt, hsound.free_le, hsound.write_eq⟩, rfl, rfl⟩
    refine ⟨hkept.1, ?_, answered_of_out_nil rfl, iff_of_true hkept.2.2 trivial⟩
    rw [delivered_of_out_nil rfl, hkept.2.1]
    exact List.append_nil _

/-- **The buffer is right**, in a run, just if every caller has the last event already where it is
looked for. -/
theorem bufferRight_iff {buffer : ℕ → SensorsEvent F} {lastEvent : SensorsEvent F}
    {h : List (BufferEvent F)}
    (hrun : Run (bufferMachine F sensor algo) (.new buffer lastEvent) h v) :
    BufferRight sensor algo h v ↔ ∀ e ∈ h, CallerHasLast sensor e.pre e.label := by
  have hevent : ∀ e ∈ h,
      e.pre.contents ++ entered sensor algo e = delivered sensor e ++ e.post.contents ∧
        Answered sensor e ∧ (Remembers e ↔ CallerHasLast sensor e.pre e.label) := by
    intro e he
    obtain ⟨hpre, hs, -⟩ := Run.invariant_of_mem VirtualBuffer.Sound (fun _ _ => True)
      (VirtualBuffer.sound_new buffer lastEvent)
      (fun v call v' out hsound _ hs => (bufferStep_spec hsound hs rfl).1) hrun
      (fun _ _ => trivial) he
    exact (bufferStep_spec hpre hs rfl).2
  have horder := Fifo.conserved VirtualBuffer.contents (entered sensor algo) (delivered sensor) hrun
    fun e he => (hevent e he).1
  rw [VirtualBuffer.contents_new, List.nil_append] at horder
  constructor
  · intro hright e he
    exact (hevent e he).2.2.mp (hright.remembers e he)
  · intro hall
    exact ⟨horder, fun e he => (hevent e he).2.1, fun e he => (hevent e he).2.2.mpr (hall e he)⟩

end Runs

/-- An event is read to memory that has it already. -/
theorem bufferRight_held : ∃ h v,
    Run (bufferMachine ℕ 5 true) (.new (fun _ => .flushComplete 0 0) (.flushComplete 0 0)) h v ∧
      h.map Event.label = [.enable true, .inject [(.sample 0 1 7, some 7)],
        .read 8 fun _ => .sample 5 1 7] ∧ BufferRight 5 true h v := by
  obtain ⟨h, v, hrun, hl, hcheck⟩ := (bufferMachine ℕ 5 true).exists_run
    (.new (fun _ => .flushComplete 0 0) (.flushComplete 0 0))
    [.enable true, .inject [(.sample 0 1 7, some 7)], .read 8 fun _ => .sample 5 1 7]
    (fun h _ => h.all fun e => decide (CallerHasLast 5 e.pre e.label)) (by decide)
  refine ⟨h, v, hrun, hl, (bufferRight_iff hrun).mpr fun e he => ?_⟩
  exact of_decide_eq_true (List.all_eq_true.mp hcheck e he)

/-- An event is read to memory that has something else behind it. -/
theorem not_bufferRight_other : ¬ ∀ h v,
    Run (bufferMachine ℕ 5 true) (.new (fun _ => .flushComplete 0 0) (.flushComplete 0 0)) h v →
      BufferRight 5 true h v := by
  intro hall
  obtain ⟨h, e, hrun, -, -, hcheck⟩ := (bufferMachine ℕ 5 true).exists_run_last
    (.new (fun _ => .flushComplete 0 0) (.flushComplete 0 0))
    [.enable true, .inject [(.sample 0 1 7, some 7)]] (.read 8 fun _ => .flushComplete 0 0)
    (fun _ e => decide (e.post.lastEvent ≠ (writtenBy e).getLast?.getD e.pre.lastEvent))
    (by decide)
  exact of_decide_eq_true hcheck
    ((hall _ _ hrun).remembers e (List.mem_append_right _ List.mem_cons_self))

end OppoA37.Sensors
