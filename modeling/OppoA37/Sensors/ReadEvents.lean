import OppoA37.Sensors.InputEventReader
import OppoA37.Sensors.NativeSensorManager

/-!
# `readEvents` of the drivers and of `NativeSensorManager.cpp`

The driver of a hardware sensor fills its ring once and takes events out of it, until the ring is
empty or the caller has no room left; every `SYN_REPORT` makes an event for the caller. Some
drivers fill the ring again if that gave them nothing. A virtual sensor has events that were
computed when those of its background sensors were read. The manager asks a driver again that was
interrupted, hands what it got to the listeners, and reports it if the sensor is enabled.

What `read` answers, and what else comes from outside, is given; the values of an event are of any
type, and `store` is the arithmetic that writes them.
-/

namespace OppoA37.Sensors

universe u

variable {F : Type u}

/-! ## Events -/

/-- An input event, by what the drivers make of it. -/
inductive InputEvent where
  /-- `EV_ABS` -/
  | abs (code : ℕ) (value : ℤ)
  /-- `SYN_TIME_SEC` -/
  | synTimeSec (value : ℤ)
  /-- `SYN_TIME_NSEC` -/
  | synTimeNsec (value : ℤ)
  /-- `SYN_REPORT`, with its time in nanoseconds -/
  | synReport (time : ℤ)
  /-- any other -/
  | other
  deriving DecidableEq, Repr

/-- The event is a `SYN_REPORT`, which completes an event for the caller. -/
def InputEvent.isReport : InputEvent → Bool
  | synReport _ => true
  | abs _ _ | synTimeSec _ | synTimeNsec _ | other => false

/-- `sensors_event_t` -/
inductive SensorsEvent (F : Type u) where
  /-- what a sensor has measured -/
  | sample (sensor : ℕ) (timestamp : ℤ) (data : F)
  /-- `META_DATA_FLUSH_COMPLETE` -/
  | flushComplete (sensor : ℕ) (timestamp : ℤ)
  deriving DecidableEq, Repr

/-- What `read` answers, once the ring has room. Without room it is not called, as if it had found
nothing. -/
inductive Fill where
  | error (errno : ℕ)
  | ok (events : List InputEvent)
  deriving DecidableEq, Repr

/-- What else comes from outside while `readEvents` of the manager runs. -/
structure World (F : Type u) where
  /-- `getTimestamp` -/
  now : ℤ
  /-- what the algorithm of the compass makes of the values, for every room that is left -/
  calibrated : ℕ → F → F
  /-- what the algorithm of a virtual sensor makes of an event, by their numbers -/
  converted : ℕ → ℕ → Option F
  /-- what lies in the memory of the caller, behind the events -/
  behind : SensorsEvent F

/-- What was read. -/
def Fill.events : Fill → List InputEvent
  | error _ => []
  | ok events => events

/-- `read` has failed. -/
def Fill.isError : Fill → Bool
  | error _ => true
  | ok _ => false

/-- `EAGAIN` -/
def EAGAIN : ℕ := 11

/-- `EINTR` -/
def EINTR : ℕ := 4

/-! ## Hardware -/

/-- What the driver of a hardware sensor has. -/
structure Reader (F : Type u) where
  /-- `mInputReader` -/
  ring : InputEventCircularReader InputEvent
  /-- `mPendingEvent.timestamp` -/
  timestamp : ℤ
  /-- `mPendingEvent.data` -/
  data : F
  /-- `mHasPendingEvent` -/
  hasPendingEvent : Bool
  /-- `mHasPendingMetadata` -/
  hasPendingMetadata : ℕ
  /-- `mUseAbsTimeStamp` -/
  useAbsTimeStamp : Bool
  /-- `report_time` -/
  reportTime : ℤ
  /-- `mAbsEventReceived` -/
  absEventReceived : Bool
  /-- `sysclk_sync_offset` -/
  sysclkSyncOffset : ℤ

namespace Reader

section Driver

variable (store : Driver → ℕ → ℤ → F → F) (world : World F) (driver : Driver) (sensor : ℕ)
  (mEnabled : Bool)

/-- What an input event changes. -/
def take (r : Reader F) : InputEvent → Reader F
  | .abs code value =>
    { r with
      -- the proximity is sometimes -1
      data := if driver = .proximity ∧ value = -1 then r.data else store driver code value r.data
      absEventReceived := r.absEventReceived || decide (driver = .accel) }
  | .synTimeSec value => { r with useAbsTimeStamp := true, reportTime := value * 1000000000 }
  | .synTimeNsec value => { r with useAbsTimeStamp := true, timestamp := r.reportTime + value }
  | .synReport time =>
    let timestamp := if r.useAbsTimeStamp then r.timestamp else time
    { r with timestamp := if driver = .accel then timestamp - r.sysclkSyncOffset else timestamp }
  | .other => r

/-- An input event makes an event for the caller. -/
def reports (absEventReceived : Bool) (event : InputEvent) : Bool :=
  event.isReport && mEnabled && (decide (driver ≠ .accel) || absEventReceived)

/-- Take the first event out of the ring. -/
def next (r : Reader F) (hne : r.ring.available ≠ 0) : Reader F :=
  { r.take store driver (r.ring.buffer r.ring.curr) with ring := r.ring.next hne }

/-- The event for the caller. -/
def event (count : ℕ) (r : Reader F) : SensorsEvent F :=
  .sample sensor r.timestamp (if driver = .compass then world.calibrated count r.data else r.data)

/-- The loop over the ring, with room for `count` events; it turns at most `n` times. -/
def drain : ℕ → ℕ → Reader F → Reader F × List (SensorsEvent F)
  | 0, _, r => (r, [])
  | n + 1, count, r =>
    if hne : count ≠ 0 ∧ r.ring.available ≠ 0 then
      let next := r.next store driver hne.2
      if reports driver mEnabled r.absEventReceived (r.ring.buffer r.ring.curr) then
        let rest := drain n (count - 1) next
        (rest.1, next.event world driver sensor count :: rest.2)
      else drain n count next
    else (r, [])

/-- From `again` on: accelerometers and compasses fill the ring again if they have nothing to
report, until there is nothing to read. -/
def fetch (count : ℕ) : Reader F → List Fill → Option (Reader F × List (SensorsEvent F))
  | r, answers =>
    let drained := drain store world driver sensor mEnabled r.ring.available count r
    if drained.2.isEmpty = true ∧ (driver = .accel ∨ driver = .compass) ∧ mEnabled = true then
      match answers with
      | [] => none
      | .error _ :: answers => fetch count drained.1 answers
      | .ok events :: answers =>
        if hfree : events.length ≤ drained.1.ring.freeSpace then
          if events = [] then
            if answers = [] then some drained else none
          else fetch count { drained.1 with ring := drained.1.ring.fill events hfree } answers
        else none
    else if answers = [] then some drained else none

/-- `readEvents` of `AccelSensor`, `CompassSensor`, `LightSensor` and `ProximitySensor` -/
def readEvents (count : ℕ) (r : Reader F) (answers : List Fill) :
    Option (Reader F × Except ℕ (List (SensorsEvent F))) :=
  if count < 1 then if answers = [] then some (r, .error EINVAL.toNat) else none
  else if r.hasPendingEvent then
    if answers = [] then
      some ({ r with hasPendingEvent := false, timestamp := world.now },
        .ok (if mEnabled then [.sample sensor world.now r.data] else []))
    else none
  else if r.hasPendingMetadata ≠ 0 then
    if answers = [] then
      some ({ r with hasPendingMetadata := r.hasPendingMetadata - 1 },
        .ok (if mEnabled then [.flushComplete sensor world.now] else []))
    else none
  else
    match answers with
    | [] => none
    | .error errno :: answers =>
      if r.ring.freeSpace ≠ 0 ∧ answers = [] then some (r, .error errno) else none
    | .ok events :: answers =>
      if hfree : events.length ≤ r.ring.freeSpace then
        (fetch store world driver sensor mEnabled count
          { r with ring := r.ring.fill events hfree } answers).map
            fun fetched => (fetched.1, .ok fetched.2)
      else none

/-- The loop of the manager, which calls the driver again after `EAGAIN` and `EINTR`; for every
call of the driver it is given what `read` answers. -/
def readAgain (count : ℕ) :
    Reader F → List (List Fill) → Option (Reader F × Except ℕ (List (SensorsEvent F)))
  | _, [] => none
  | r, answers :: calls =>
    match r.readEvents store world driver sensor mEnabled count answers with
    | none => none
    | some (r, .error errno) =>
      if errno = EAGAIN ∨ errno = EINTR then readAgain count r calls
      else if calls = [] then some (r, .error errno) else none
    | some (r, .ok data) => if calls = [] then some (r, .ok data) else none

variable {store world driver sensor mEnabled} {count : ℕ} {r r' : Reader F}

/-- A call of the driver with some room fails at once, reads nothing, or goes on to `fetch`. -/
theorem readEvents_cases {answers : List Fill} {nb : Except ℕ (List (SensorsEvent F))}
    (hcount : count ≠ 0)
    (h : r.readEvents store world driver sensor mEnabled count answers = some (r', nb)) :
    (∃ errno, answers = [.error errno] ∧ nb = .error errno ∧ r' = r) ∨
      (answers = [] ∧ r'.ring = r.ring ∧ r'.absEventReceived = r.absEventReceived ∧
        ∃ data, nb = .ok data ∧ data.length ≤ 1) ∨
      ∃ events rest data, ∃ hfree : events.length ≤ r.ring.freeSpace,
        answers = .ok events :: rest ∧ nb = .ok data ∧
        fetch store world driver sensor mEnabled count
          { r with ring := r.ring.fill events hfree } rest = some (r', data) := by
  rw [readEvents.eq_def, if_neg (by omega)] at h
  by_cases hpending : r.hasPendingEvent = true ∨ r.hasPendingMetadata ≠ 0
  · -- an event that is pending is all that is handed out
    right; left
    by_cases hnil : answers = []
    · rcases hpending with hpending | hmeta
      · rw [if_pos hpending, if_pos hnil] at h
        obtain ⟨rfl, rfl⟩ := Prod.mk.inj (Option.some.inj h)
        exact ⟨hnil, rfl, rfl, _, rfl, by split_ifs <;> simp⟩
      · rw [if_pos hmeta, if_pos hnil, if_pos hnil] at h
        split_ifs at h
        all_goals
          obtain ⟨rfl, rfl⟩ := Prod.mk.inj (Option.some.inj h)
          exact ⟨hnil, rfl, rfl, _, rfl, by simp⟩
    · rcases hpending with hpending | hmeta
      · rw [if_pos hpending, if_neg hnil] at h
        cases h
      · rw [if_pos hmeta, if_neg hnil, if_neg hnil] at h
        split_ifs at h
  · rw [if_neg fun hp => hpending (Or.inl hp), if_neg fun hm => hpending (Or.inr hm)] at h
    cases answers with
    | nil => cases h
    | cons answer rest =>
      cases answer with
      | error errno =>
        dsimp only at h
        split_ifs at h with hread
        obtain ⟨rfl, rfl⟩ := Prod.mk.inj (Option.some.inj h)
        exact Or.inl ⟨errno, by rw [hread.2], rfl, rfl⟩
      | ok events =>
        dsimp only at h
        split_ifs at h with hfree
        obtain ⟨⟨r₁, data⟩, hfetch, heq⟩ := Option.map_eq_some_iff.mp h
        obtain ⟨rfl, rfl⟩ := Prod.mk.inj heq
        exact Or.inr (Or.inr ⟨events, rest, data, hfree, rfl, rfl, hfetch⟩)

/-- The loop of the manager passes over calls that have failed and left all as it was; what it
returns is what the last call returns. -/
theorem readAgain_spec {calls : List (List Fill)} {nb : Except ℕ (List (SensorsEvent F))}
    (hcount : count ≠ 0)
    (h : readAgain store world driver sensor mEnabled count r calls = some (r', nb)) :
    ∃ before answers, calls = before ++ [answers] ∧ (∀ a ∈ before, ∃ errno, a = [.error errno]) ∧
      r.readEvents store world driver sensor mEnabled count answers = some (r', nb) := by
  induction calls generalizing r with
  | nil => cases h
  | cons answers calls ih =>
    rw [readAgain] at h
    cases hread : r.readEvents store world driver sensor mEnabled count answers with
    | none =>
      rw [hread] at h
      cases h
    | some read =>
      obtain ⟨r₁, nb₁⟩ := read
      rw [hread] at h
      cases nb₁ with
      | ok data =>
        dsimp only at h
        split_ifs at h with hnil
        subst hnil
        exact ⟨[], answers, rfl, by simp, h ▸ hread⟩
      | error errno =>
        dsimp only at h
        split_ifs at h with hagain hnil
        · -- the driver is called again
          rcases readEvents_cases hcount hread with ⟨errno₁, rfl, -, rfl⟩ | ⟨-, -, -, _, hno, -⟩ |
            ⟨_, _, _, _, -, hno, -⟩
          · obtain ⟨before, last, rfl, hbefore, hlast⟩ := ih h
            refine ⟨[.error errno₁] :: before, last, rfl, fun a ha => ?_, hlast⟩
            rcases List.mem_cons.mp ha with rfl | ha
            · exact ⟨errno₁, rfl⟩
            · exact hbefore a ha
          · cases hno
          · cases hno
        · subst hnil
          exact ⟨[], answers, rfl, by simp, h ▸ hread⟩

end Driver

/-- `hasPendingEvents` of the drivers of hardware -/
def hasPendingEvents (r : Reader F) : Bool := r.hasPendingEvent || decide (r.hasPendingMetadata ≠ 0)

end Reader

/-! ## Virtual sensors -/

/-- What a `VirtualSensor` has. -/
structure VirtualSensor (F : Type u) where
  /-- what was written to `mBuffer` and not read, oldest first -/
  buffer : List (SensorsEvent F)
  /-- `mLastEvent` -/
  lastEvent : SensorsEvent F
  /-- `reportLastEvent` -/
  reportLastEvent : Bool
  /-- `mFirstEventReceived` -/
  firstEventReceived : Bool
  /-- `mHasPendingMetadata` -/
  hasPendingMetadata : ℕ

/-- `MAX_EVENTS` -/
def MAX_EVENTS : ℕ := 250

namespace VirtualSensor

/-- `VirtualSensor::readEvents` -/
def readEvents (world : World F) (sensor : ℕ) (mEnabled : Bool) (count : ℕ) (v : VirtualSensor F) :
    VirtualSensor F × Except ℕ (List (SensorsEvent F)) :=
  if count < 1 ∨ mEnabled = false then (v, .error EINVAL.toNat)
  else
    let last := if v.reportLastEvent then [v.lastEvent] else []
    let metaData :=
      if v.hasPendingMetadata ≠ 0 ∧ last.length < count then [.flushComplete sensor 0] else []
    let room := count - last.length - metaData.length
    let data := last ++ metaData ++ v.buffer.take room
    ({ buffer := v.buffer.drop room
       -- `data` was moved on, so this is not the last one that was read
       lastEvent := if data.isEmpty then v.lastEvent else world.behind
       reportLastEvent := false
       firstEventReceived := v.firstEventReceived || !(v.buffer.take room).isEmpty
       hasPendingMetadata := v.hasPendingMetadata - metaData.length }, .ok data)

/-- `VirtualSensor::injectEvents`, for one event -/
def injectEvents (sensor : ℕ) (converted : Option F) (event : SensorsEvent F)
    (v : VirtualSensor F) : VirtualSensor F :=
  match event with
  | .sample _ timestamp _ =>
    if v.buffer.length < MAX_EVENTS then
      match converted with
      | none => v
      | some data => { v with buffer := v.buffer ++ [.sample sensor timestamp data] }
    else v
  | .flushComplete _ _ => v

/-- `VirtualSensor::hasPendingEvents` -/
def hasPendingEvents (v : VirtualSensor F) : Bool :=
  !v.buffer.isEmpty || v.reportLastEvent || decide (v.hasPendingMetadata ≠ 0)

end VirtualSensor

/-! ## The manager -/

/-- What the drivers have, of all sensors. -/
structure Drivers (F : Type u) where
  /-- those of hardware -/
  readers : ℕ → Reader F
  /-- those of virtual sensors -/
  virtuals : ℕ → VirtualSensor F

namespace Device

variable (dev : Device) (store : Driver → ℕ → ℤ → F → F)

/-- Hand the events of `w` to its listeners; only virtual sensors do anything with them. -/
def inject (world : World F) (ctx : Contexts) (w : ℕ) (data : List (SensorsEvent F))
    (virtuals : ℕ → VirtualSensor F) : ℕ → VirtualSensor F :=
  data.zipIdx.foldl (fun virtuals p =>
    (ctx w).listener.foldl (fun virtuals u =>
      if (ctx u).enable = true ∧ u ≠ w ∧ dev.driver u = some .virtual then
        Function.update virtuals u ((virtuals u).injectEvents u (world.converted u p.2) p.1)
      else virtuals) virtuals) virtuals

/-- `list->driver->readEvents`, until it is not interrupted; a driver of a virtual sensor reads
nothing and is called once. -/
def readDriver (world : World F) (ctx : Contexts) (w count : ℕ) (drivers : Drivers F)
    (calls : List (List Fill)) : Option (Drivers F × Except ℕ (List (SensorsEvent F))) :=
  match dev.driver w with
  | none => none
  | some .virtual =>
    if calls = [[]] then
      let read := (drivers.virtuals w).readEvents world w (ctx w).mEnabled count
      some ({ drivers with virtuals := Function.update drivers.virtuals w read.1 }, read.2)
    else none
  | some driver =>
    (Reader.readAgain store world driver w (ctx w).mEnabled count (drivers.readers w) calls).map
      fun read => ({ drivers with readers := Function.update drivers.readers w read.1 }, read.2)

variable {dev store}

/-- A virtual sensor hands over what it has; any other driver reads from its own device. -/
theorem readDriver_cases {world : World F} {ctx : Contexts} {w count : ℕ}
    {drivers drivers' : Drivers F} {calls : List (List Fill)}
    {nb : Except ℕ (List (SensorsEvent F))}
    (h : dev.readDriver store world ctx w count drivers calls = some (drivers', nb)) :
    (∃ v, dev.driver w = some .virtual ∧ calls = [[]] ∧
      (drivers.virtuals w).readEvents world w (ctx w).mEnabled count = (v, nb) ∧
      drivers' = { drivers with virtuals := Function.update drivers.virtuals w v }) ∨
    ∃ driver r, dev.driver w = some driver ∧ driver ≠ .virtual ∧
      Reader.readAgain store world driver w (ctx w).mEnabled count (drivers.readers w) calls =
        some (r, nb) ∧
      drivers' = { drivers with readers := Function.update drivers.readers w r } := by
  rw [readDriver] at h
  split at h
  · cases h
  · next hdriver =>
    split_ifs at h with hcalls
    obtain ⟨rfl, rfl⟩ := Prod.mk.inj (Option.some.inj h)
    exact Or.inl ⟨_, hdriver, hcalls, rfl, rfl⟩
  · next driver hvirtual hdriver =>
    obtain ⟨⟨r, nb'⟩, hagain, heq⟩ := Option.map_eq_some_iff.mp h
    obtain ⟨rfl, rfl⟩ := Prod.mk.inj heq
    exact Or.inr ⟨driver, r, hdriver, hvirtual, hagain, rfl⟩

variable (dev store)

/-- `NativeSensorManager::readEvents` -/
def readEvents (world : World F) (ctx : Contexts) (w count : ℕ) (drivers : Drivers F)
    (calls : List (List Fill)) : Option (Drivers F × Except ℕ (List (SensorsEvent F))) :=
  (dev.readDriver store world ctx w count drivers calls).map fun read =>
    let drivers := match read.2 with
      | .ok data => { read.1 with virtuals := dev.inject world ctx w data read.1.virtuals }
      | .error _ => read.1
    -- no need to report the events if the sensor is not enabled
    (drivers, if (ctx w).enable then read.2 else .ok [])

/-- `NativeSensorManager::hasPendingEvents`, for a driver that is there -/
def hasPendingEvents (drivers : Drivers F) (w : ℕ) : Bool :=
  if dev.driver w = some .virtual then (drivers.virtuals w).hasPendingEvents
  else (drivers.readers w).hasPendingEvents

end Device

end OppoA37.Sensors
