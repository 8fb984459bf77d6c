import OppoA37.Lib.Fifo
import OppoA37.Sensors.InputEventReader
import OppoA37.Sensors.NativeSensorManager

/-!
# The ring of `InputEventReader.cpp` in use

`InputEventCircularReader` is a ring whose pointers are where they belong. In the source nothing
says so: `next` steps over the current event even if there is none, and then `readEvent` hands out
what was never read (`not_isQueue_next`).

`RawReader` is the ring without the promise, and `readerMachine` takes its calls in any order. As
long as `next` is called for an event that is there, as all drivers do, the ring is an
`InputEventCircularReader` all the time, and a queue: `isQueue_of_run`.
-/

namespace OppoA37.Sensors

open Lts

universe u

/-- `InputEventCircularReader`, wherever its pointers are. -/
structure RawReader (α : Type u) where
  /-- `mBufferEnd` -/
  size : ℕ
  /-- `mBuffer`, with a second half behind `mBufferEnd` -/
  buffer : ℕ → α
  /-- `mHead` -/
  head : ℕ
  /-- `mCurr` -/
  curr : ℕ
  /-- `mFreeSpace` -/
  freeSpace : ℕ

namespace RawReader

variable {α : Type u} (r : RawReader α)

/-- `InputEventCircularReader::InputEventCircularReader` -/
def new (numEvents : ℕ) (buffer : ℕ → α) : RawReader α := ⟨numEvents, buffer, 0, 0, numEvents⟩

/-- `available` in `readEvent` -/
def available : ℤ := r.size - r.freeSpace

/-- What `read` leaves in the buffer. -/
def staged (events : List α) (i : ℕ) : α :=
  if i < r.head then r.buffer i else events[i - r.head]?.getD (r.buffer i)

/-- `fill`, when whole events were read -/
def fill (events : List α) : RawReader α where
  size := r.size
  buffer i := if i < r.head + events.length - r.size then r.staged events (r.size + i)
    else r.staged events i
  head := if r.head + events.length > r.size then r.head + events.length - r.size
    else r.head + events.length
  curr := r.curr
  freeSpace := r.freeSpace - events.length

/-- `fill`, when something else was read: it stays where it is. -/
def spill (events : List α) : RawReader α := { r with buffer := r.staged events }

/-- `readEvent` -/
def readEvent : Option α := if r.available ≠ 0 then some (r.buffer r.curr) else none

/-- `next` -/
def next : RawReader α where
  size := r.size
  buffer := r.buffer
  head := r.head
  curr := if r.curr + 1 ≥ r.size then 0 else r.curr + 1
  freeSpace := r.freeSpace + 1

/-- The cell that is `j` behind `mCurr`. -/
def cell (j : ℕ) : ℕ := if r.curr + j < r.size then r.curr + j else r.curr + j - r.size

/-- What is stored, oldest first. -/
def contents : List α := (List.range r.available.toNat).map fun j => r.buffer (r.cell j)

end RawReader

/-- What a `read` returns. -/
inductive ReadAnswer (α : Type u) where
  /-- whole events, as many as there were -/
  | events (events : List α)
  /-- an error -/
  | error (errno : ℤ)
  /-- an event in pieces, behind others; with what this leaves in the cells -/
  | pieces (cells : List α)

/-- A call of a driver. -/
inductive ReaderCall (α : Type u) where
  | fill (answer : ReadAnswer α)
  | readEvent
  | next

/-- What a call returns. -/
inductive ReaderOut (α : Type u) where
  /-- how many events `fill` has read, or why it failed -/
  | filled (result : ℤ)
  /-- the event that `readEvent` points to, unless it returns 0 -/
  | event (event : Option α)

/-- A ring with its driver. `read` returns no more than it is asked for, and it is not asked at all
when nothing is free. -/
def readerMachine (α : Type u) : Machine (RawReader α) (ReaderCall α) (ReaderOut α) where
  step r
    | .fill (.events events) =>
      if events.length ≤ r.freeSpace then some (r.fill events, [.filled events.length]) else none
    | .fill (.error errno) => if r.freeSpace ≠ 0 then some (r, [.filled (-errno)]) else none
    | .fill (.pieces cells) =>
      if r.freeSpace ≠ 0 ∧ cells.length ≤ r.freeSpace then
        some (r.spill cells, [.filled (-EINVAL)])
      else none
    | .readEvent => some (r, [.event r.readEvent])
    | .next => some (r.next, [])

/-! ## What a ring is for -/

section Spec

variable {α : Type u}

/-- The events that a call has read from the device. -/
def readBy (e : Event (RawReader α) (ReaderCall α) (ReaderOut α)) : List α :=
  match e.label with
  | .fill (.events events) => events
  | _ => []

/-- The event that a call is done with: `next` steps over what `readEvent` hands out. -/
def doneBy (e : Event (RawReader α) (ReaderCall α) (ReaderOut α)) : List α :=
  match e.label with
  | .next => e.pre.readEvent.toList
  | _ => []

/-- A `read` that failed. -/
def ReadAnswer.Failed : ReadAnswer α → Prop
  | events _ => False
  | error _ => True
  | pieces _ => True

/-- A queue of bounded length: what was read is handed out in order, and what was not handed out is
stored and next in turn. What is free is counted, and there is room for it in the buffer. A `read`
that fails changes nothing. -/
structure IsQueue (h : List (Event (RawReader α) (ReaderCall α) (ReaderOut α))) (r : RawReader α) :
    Prop where
  order : h.flatMap readBy = h.flatMap doneBy ++ r.contents
  first : r.readEvent = r.contents.head?
  count : r.freeSpace + r.contents.length = r.size
  room : r.head + r.freeSpace ≤ 2 * r.size
  failed : ∀ e ∈ h, ∀ answer, e.label = .fill answer → answer.Failed →
    e.post.head = e.pre.head ∧ e.post.curr = e.pre.curr ∧ e.post.freeSpace = e.pre.freeSpace ∧
      e.post.contents = e.pre.contents

end Spec

/-! ## Pointers that are where they belong -/

namespace InputEventCircularReader

variable {α : Type u} (r : InputEventCircularReader α)

/-- A ring without its promise. -/
def toRaw : RawReader α := ⟨r.size, r.buffer, r.head, r.curr, r.freeSpace⟩

theorem available_toRaw : r.toRaw.available = (r.available : ℤ) := by
  have h := r.freeSpace_le
  simp only [RawReader.available, toRaw, available]
  omega

@[simp] theorem contents_toRaw : r.toRaw.contents = r.contents := by
  rw [RawReader.contents, available_toRaw, Int.toNat_natCast]
  rfl

theorem fill_toRaw (events : List α) (hfree : events.length ≤ r.freeSpace) :
    r.toRaw.fill events = (r.fill events hfree).toRaw := rfl

theorem next_toRaw (hne : r.available ≠ 0) : r.toRaw.next = (r.next hne).toRaw := rfl

theorem readEvent_toRaw : r.toRaw.readEvent = r.readEvent := by
  rw [RawReader.readEvent, readEvent, available_toRaw]
  simp only [Int.natCast_ne_zero]
  rfl

/-- The ring after a `read` that leaves something in the cells that are free. -/
def spill (cells : List α) : InputEventCircularReader α := { r with buffer := r.staged cells }

theorem spill_toRaw (cells : List α) : r.toRaw.spill cells = (r.spill cells).toRaw := rfl

/-- What is stored is not overwritten. -/
theorem contents_spill (cells : List α) (hfree : cells.length ≤ r.freeSpace) :
    (r.spill cells).contents = r.contents := by
  refine Ring.contents_congr fun j hj => ?_
  have hj : j < r.size - r.freeSpace := hj
  have hcurr := r.curr_lt
  have hhead := r.head_le
  have heq := r.head_eq
  have hsize := r.freeSpace_le
  show r.staged cells (r.cell j) = r.buffer (r.cell j)
  rw [staged]
  split_ifs with hbelow
  · rfl
  · have hbehind : cells.length ≤ r.cell j - r.head := by
      rw [cell] at hbelow ⊢
      split_ifs at hbelow ⊢ <;> omega
    rw [List.getElem?_eq_none hbehind, Option.getD_none]

end InputEventCircularReader

/-! ## Runs -/

namespace RawReader

variable {α : Type u} {r r' : RawReader α}

/-- The pointers are where they belong, or there is no cell to point to. -/
def Sound (r : RawReader α) : Prop :=
  r.size = 0 ∧ r.freeSpace = 0 ∧ r.head = 0 ∨ ∃ ring : InputEventCircularReader α,
    r = ring.toRaw

theorem sound_new (numEvents : ℕ) (buffer : ℕ → α) : (new numEvents buffer).Sound := by
  rcases Nat.eq_zero_or_pos numEvents with rfl | hpos
  · exact Or.inl ⟨rfl, rfl, rfl⟩
  · exact Or.inr ⟨.new numEvents hpos buffer, rfl⟩

/-- A ring without cells holds nothing. -/
theorem available_of_empty (hsize : r.size = 0) (hfree : r.freeSpace = 0) : r.available = 0 := by
  rw [available, hsize, hfree]
  rfl

theorem contents_of_empty (hsize : r.size = 0) (hfree : r.freeSpace = 0) : r.contents = [] := by
  rw [contents, available_of_empty hsize hfree]
  rfl

/-- What a ring shows of its contents. -/
theorem Sound.shows (h : r.Sound) : r.readEvent = r.contents.head? ∧
    r.freeSpace + r.contents.length = r.size ∧ r.head + r.freeSpace ≤ 2 * r.size := by
  obtain ⟨hsize, hfree, hhead⟩ | ⟨ring, rfl⟩ := h
  · rw [contents_of_empty hsize hfree, readEvent, available_of_empty hsize hfree, hsize, hfree,
      hhead]
    exact ⟨rfl, rfl, le_rfl⟩
  · have hhead := ring.head_le
    have hfree := ring.freeSpace_le
    rw [InputEventCircularReader.readEvent_toRaw, InputEventCircularReader.contents_toRaw,
      InputEventCircularReader.length_contents, ring.readEvent_eq]
    refine ⟨rfl, Nat.add_sub_of_le hfree, ?_⟩
    simp only [InputEventCircularReader.toRaw]
    omega

/-- `fill` appends what it has read. -/
theorem Sound.fill (h : r.Sound) {events : List α} (hle : events.length ≤ r.freeSpace) :
    (r.fill events).Sound ∧ (r.fill events).contents = r.contents ++ events := by
  obtain ⟨hsize, hfree, hhead⟩ | ⟨ring, rfl⟩ := h
  · obtain rfl : events = [] := List.length_eq_zero_iff.mp (by omega)
    have hsize' : (r.fill []).size = 0 := hsize
    have hfree' : (r.fill []).freeSpace = 0 := hfree
    have hhead' : (r.fill []).head = 0 := by simp [RawReader.fill, hhead]
    rw [contents_of_empty hsize' hfree', contents_of_empty hsize hfree]
    exact ⟨Or.inl ⟨hsize', hfree', hhead'⟩, rfl⟩
  · have hle : events.length ≤ ring.freeSpace := hle
    rw [ring.fill_toRaw events hle, InputEventCircularReader.contents_toRaw,
      InputEventCircularReader.contents_toRaw, ring.contents_fill]
    exact ⟨Or.inr ⟨_, rfl⟩, rfl⟩

/-- What is spilled is not stored. -/
theorem Sound.spill (h : r.Sound) {cells : List α} (hfree : r.freeSpace ≠ 0)
    (hle : cells.length ≤ r.freeSpace) :
    (r.spill cells).Sound ∧ (r.spill cells).contents = r.contents := by
  obtain ⟨-, hzero, -⟩ | ⟨ring, rfl⟩ := h
  · exact absurd hzero hfree
  · have hle : cells.length ≤ ring.freeSpace := hle
    rw [ring.spill_toRaw, InputEventCircularReader.contents_toRaw,
      InputEventCircularReader.contents_toRaw, ring.contents_spill cells hle]
    exact ⟨Or.inr ⟨_, rfl⟩, rfl⟩

/-- `next` steps over the event that `readEvent` hands out, if there is one. -/
theorem Sound.next (h : r.Sound) (hne : r.available ≠ 0) :
    r.next.Sound ∧ r.contents = r.readEvent.toList ++ r.next.contents := by
  obtain ⟨hsize, hfree, -⟩ | ⟨ring, rfl⟩ := h
  · exact absurd (available_of_empty hsize hfree) hne
  · have hne : ring.available ≠ 0 := by
      rw [ring.available_toRaw] at hne
      exact_mod_cast hne
    rw [ring.next_toRaw hne, InputEventCircularReader.contents_toRaw,
      InputEventCircularReader.contents_toRaw, InputEventCircularReader.readEvent_toRaw,
      InputEventCircularReader.readEvent, if_pos hne, ring.contents_eq hne]
    exact ⟨Or.inr ⟨_, rfl⟩, rfl⟩

end RawReader

section Runs

variable {α : Type u} {r r' : RawReader α}

/-- A driver calls `next` for an event that is there. -/
def CalledRight (r : RawReader α) (call : ReaderCall α) : Prop :=
  call = .next → r.available ≠ 0

/-- What a call of a driver does. -/
theorem readerStep_spec {call : ReaderCall α} {out : List (ReaderOut α)} (hsound : r.Sound)
    (hright : CalledRight r call) (hs : (readerMachine α).step r call = some (r', out)) :
    r'.Sound ∧
      r.contents ++ readBy ⟨r, call, out, r'⟩ = doneBy ⟨r, call, out, r'⟩ ++ r'.contents ∧
      ∀ answer, call = .fill answer → answer.Failed →
        r'.head = r.head ∧ r'.curr = r.curr ∧ r'.freeSpace = r.freeSpace ∧
          r'.contents = r.contents := by
  cases call with
  | fill answer =>
    cases answer with
    | events events =>
      obtain ⟨hle, hs⟩ := Option.ite_none_right_eq_some.mp hs
      obtain ⟨rfl, -⟩ := Prod.mk.inj (Option.some.inj hs)
      obtain ⟨hsound', hcontents⟩ := hsound.fill hle
      refine ⟨hsound', hcontents.symm, ?_⟩
      intro answer hanswer hfailed
      obtain rfl := ReaderCall.fill.inj hanswer
      exact absurd hfailed id
    | error errno =>
      obtain ⟨-, hs⟩ := Option.ite_none_right_eq_some.mp hs
      obtain ⟨rfl, -⟩ := Prod.mk.inj (Option.some.inj hs)
      exact ⟨hsound, List.append_nil _, fun _ _ _ => ⟨rfl, rfl, rfl, rfl⟩⟩
    | pieces cells =>
      obtain ⟨⟨hfree, hle⟩, hs⟩ := Option.ite_none_right_eq_some.mp hs
      obtain ⟨rfl, -⟩ := Prod.mk.inj (Option.some.inj hs)
      obtain ⟨hsound', hcontents⟩ := hsound.spill hfree hle
      refine ⟨hsound', ?_, fun _ _ _ => ⟨rfl, rfl, rfl, hcontents⟩⟩
      exact (List.append_nil _).trans hcontents.symm
  | readEvent =>
    obtain ⟨rfl, -⟩ := Prod.mk.inj (Option.some.inj hs)
    exact ⟨hsound, List.append_nil _, fun _ hanswer => by cases hanswer⟩
  | next =>
    obtain ⟨rfl, -⟩ := Prod.mk.inj (Option.some.inj hs)
    obtain ⟨hsound', hcontents⟩ := hsound.next (hright rfl)
    exact ⟨hsound', (List.append_nil _).trans hcontents, fun _ hanswer => by cases hanswer⟩

variable {numEvents : ℕ} {buffer : ℕ → α}
  {h : List (Event (RawReader α) (ReaderCall α) (ReaderOut α))}

/-- **The ring is a queue**, as long as `next` is called for events that are there. -/
theorem isQueue_of_run (hrun : Run (readerMachine α) (.new numEvents buffer) h r)
    (hright : ∀ e ∈ h, CalledRight e.pre e.label) : IsQueue h r := by
  have hkeep : ∀ r call r' out, r.Sound → CalledRight r call →
      (readerMachine α).step r call = some (r', out) → r'.Sound :=
    fun r call r' out hsound hcall hs => (readerStep_spec hsound hcall hs).1
  have hsound := Run.invariant_of RawReader.Sound CalledRight (RawReader.sound_new numEvents buffer)
    hkeep hrun hright
  have hevent : ∀ e ∈ h, e.pre.contents ++ readBy e = doneBy e ++ e.post.contents ∧
      ∀ answer, e.label = .fill answer → answer.Failed →
        e.post.head = e.pre.head ∧ e.post.curr = e.pre.curr ∧
          e.post.freeSpace = e.pre.freeSpace ∧ e.post.contents = e.pre.contents := by
    intro e he
    obtain ⟨hpre, hs, -⟩ := Run.invariant_of_mem RawReader.Sound CalledRight
      (RawReader.sound_new numEvents buffer) hkeep hrun hright he
    exact (readerStep_spec hpre (hright e he) hs).2
  obtain ⟨hfirst, hcount, hroom⟩ := hsound.shows
  refine ⟨?_, hfirst, hcount, hroom, fun e he => (hevent e he).2⟩
  have horder := Fifo.conserved RawReader.contents readBy doneBy hrun fun e he => (hevent e he).1
  have hnew : (RawReader.new numEvents buffer).contents = [] := by
    simp [RawReader.contents, RawReader.available, RawReader.new]
  rwa [hnew, List.nil_append] at horder

end Runs

/-- Two events that do not fit before the end, after one was handed out. -/
theorem isQueue_around : ∃ h r, Run (readerMachine ℕ) (.new 2 fun _ => 0) h r ∧
    h.map Event.label = [.fill (.events [7]), .readEvent, .next, .fill (.events [8, 9])] ∧
    IsQueue h r := by
  obtain ⟨h, r, hrun, hl, hcheck⟩ := (readerMachine ℕ).exists_run (.new 2 fun _ => 0)
    [.fill (.events [7]), .readEvent, .next, .fill (.events [8, 9])]
    (fun h _ => h.all fun e => decide (e.pre.available ≠ 0) || match e.label with
      | .next => false
      | _ => true) (by decide)
  refine ⟨h, r, hrun, hl, isQueue_of_run hrun fun e he hnext => ?_⟩
  have hcheck := List.all_eq_true.mp hcheck e he
  rw [hnext, Bool.or_false] at hcheck
  exact of_decide_eq_true hcheck

/-- After `next` on an empty ring more is free than there is. -/
theorem not_isQueue_next :
    ¬ ∀ h r, Run (readerMachine ℕ) (.new 1 fun _ => 0) h r → IsQueue h r := by
  intro hall
  have hqueue := hall _ _ (Run.single (l := .next) rfl)
  exact absurd hqueue.count (by decide)

end OppoA37.Sensors
