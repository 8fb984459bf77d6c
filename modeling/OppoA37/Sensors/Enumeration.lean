import OppoA37.Lib.Block
import OppoA37.Lib.CInt
import OppoA37.Lib.Slots
import OppoA37.Lib.Text
import OppoA37.Sensors.NativeSensorManager

/-!
# How sensors are enumerated

`getSensorListInner` looks at every directory under `/sys/class/sensors/`. What it reads there goes
to the next free context, where it stays if the sensor is supported; else the context is used again.
`getDataInfo` then tries some virtual sensors in the same way. There are `MAX_SENSORS` contexts, and
nobody compares their number with `mSensorCount`.

A write behind the last context is undefined. `enumerated_iff` says when there is none, and that
the contexts in use are those that were initialised then.
-/

namespace OppoA37.Sensors

open CInt Text

/-! ## What is read -/

/-- `MAX_SENSORS` -/
def MAX_SENSORS : ℕ := 20

/-- `SYSFS_MAXLEN` -/
def SYSFS_MAXLEN : ℕ := 50

/-- `SENSORS_HANDLE` -/
def SENSORS_HANDLE (n : ℕ) : ℤ := n + 1

/-- The files in the directory of a sensor. -/
inductive Node where
  | name
  | vendor
  | version
  | type
  | maxRange
  | resolution
  | power
  | minDelay
  | fifoReservedEventCount
  | fifoMaxEventCount
  | maxDelay
  | flags
  deriving DecidableEq, Repr

/-- `node_map`, with `required` -/
def nodeMap : List (Node × Bool) :=
  [(.name, true), (.vendor, true), (.version, true), (.type, true), (.maxRange, true),
    (.resolution, true), (.power, true), (.minDelay, true), (.fifoReservedEventCount, false),
    (.fifoMaxEventCount, false), (.maxDelay, false), (.flags, false)]

/-- A directory; files that can't be opened or read have no text. -/
structure Entry where
  /-- `d_name` -/
  name : List Char
  /-- its files -/
  file : Node → Option (List Char)

/-- `strlen` and the like see the characters before the first `NUL`. -/
def beforeNul (s : List Char) : List Char := s.takeWhile (· ≠ NUL)

/-- The text that `getNode` gets from a file, if it is not empty. The last character is cut off,
whatever it is, and then a newline; where nothing is left, it is looked for in front of `tmp`. -/
def nodeText (file : Option (List Char)) : Option (List Char) :=
  match file with
  | none => none
  | some content =>
    let tmp := content.take (SYSFS_MAXLEN - 1)
    if beforeNul tmp = [] then none
    else
      let tmp := beforeNul tmp.dropLast
      some (if tmp.getLast? = some '\n' then tmp.dropLast else tmp)

/-- `atoi` -/
def atoi (s : List Char) : ℤ := saturate ((scanInt s).getD 0)

/-- What is looked at of a `sensor_t`. -/
structure Sensor where
  /-- `type` -/
  type : ℤ
  /-- `handle` -/
  handle : ℤ
  deriving DecidableEq, Repr

/-- `getNode` stores a text, or its number. -/
def Sensor.store (node : Node) (text : List Char) (s : Sensor) : Sensor :=
  match node with
  | .type => { s with type := atoi text }
  | _ => s

/-- `SENSOR_TYPE_ACCELEROMETER` and the like -/
def SensorType.value : SensorType → ℤ
  | accelerometer => 1
  | magneticField => 2
  | proximity => 8
  | light => 5
  | gyroscope => 4
  | pressure => 6
  | significantMotion => 17

/-- `SENSOR_TYPE_POCKET` and the like -/
def VirtualType.value : VirtualType → ℤ
  | pocket => 65537
  | orientation => 3
  | linearAcceleration => 10
  | rotationVector => 11
  | gravity => 9
  | magneticFieldUncalibrated => 14

/-- A type has a bit in `SUPPORTED_SENSORS_TYPE`. A shift of 64 bits or more, or less than none, is
not defined: `odd` says what it hits. -/
def isSupported (odd : ℤ → Bool) (type : ℤ) : Bool :=
  if 0 ≤ type ∧ type < 64 then decide (type ∈ [1, 2, 8, 5, 4, 6, 17]) else odd type

/-! ## The loops -/

/-- `sensor_list`, and the number of contexts in use. -/
structure Tables where
  /-- `sensor_list` -/
  sensorList : ℕ → Sensor
  /-- `number`, and `mSensorCount` later -/
  number : ℕ

namespace Tables

/-- The tables that the constructor has cleared. -/
def empty : Tables := ⟨fun _ => ⟨0, 0⟩, 0⟩

/-- Write to the next context, or to what its `sensor` points to. -/
def write (t : Tables) (f : Sensor → Sensor) : Option Tables :=
  if t.number < MAX_SENSORS then
    some { t with sensorList := Function.update t.sensorList t.number (f (t.sensorList t.number)) }
  else none

/-- The loop over `node_map`, which ends when a file that is required can't be read. -/
def readNodes (e : Entry) : List (Node × Bool) → Tables → Option (Tables × Bool)
  | [], t => some (t, true)
  | (node, required) :: rest, t =>
    match nodeText (e.file node) with
    | none => if required then some (t, false) else readNodes e rest t
    | some text => (t.write (·.store node text)).bind (readNodes e rest)

/-- A turn of the loop in `getSensorListInner` -/
def turn (odd : ℤ → Bool) (t : Tables) (e : Entry) : Option Tables :=
  if e.name = ['.'] ∨ e.name = ['.', '.'] then some t
  else do
    let (t, all) ← t.readNodes e nodeMap
    if all && isSupported odd (t.sensorList t.number).type then
      let t ← t.write fun s => { s with handle := SENSORS_HANDLE t.number }
      some { t with number := t.number + 1 }
    else some t

/-- `getSensorListInner`; there may be no directory. -/
def getSensorListInner (odd : ℤ → Bool) (dir : Option (List Entry)) : Option Tables :=
  match dir with
  | none => some empty
  | some entries => entries.foldlM (turn odd) empty

/-- The contexts in use. -/
def sensors (t : Tables) : List Sensor := (List.range t.number).map t.sensorList

end Tables

/-- The virtual sensors that are tried, for the types that were found. -/
def triedVirtual (types : List ℤ) : List VirtualType :=
  (if SensorType.light.value ∈ types ∧ SensorType.proximity.value ∈ types then
    [VirtualType.pocket] else []) ++
  (if SensorType.accelerometer.value ∈ types ∧ SensorType.magneticField.value ∈ types then
    [VirtualType.orientation, VirtualType.linearAcceleration, VirtualType.rotationVector,
      VirtualType.gravity] else []) ++
  if SensorType.magneticField.value ∈ types then [VirtualType.magneticFieldUncalibrated] else []

/-- The tables with `handle_map`: the handles, with the numbers of their contexts. -/
structure MappedTables extends Tables where
  /-- `handle_map` -/
  handleMap : List (ℤ × ℕ)

/-- The loop in `getDataInfo` over what was found. -/
def Tables.mapped (t : Tables) : MappedTables :=
  { t with handleMap := (List.range t.number).map fun n => ((t.sensorList n).handle, n) }

/-- `initVirtualSensor`, and what is done when it succeeds; `info` is what is copied. -/
def initVirtualSensor (hasAlgo : VirtualType → Bool) (info : VirtualType → Sensor)
    (t : MappedTables) (type : VirtualType) : Option MappedTables := do
  let s ← t.write fun _ => info type
  if hasAlgo type then
    let s ← s.write fun sensor => { sensor with handle := SENSORS_HANDLE s.number }
    some ⟨{ s with number := s.number + 1 }, t.handleMap ++ [(SENSORS_HANDLE s.number, s.number)]⟩
  else some { t with toTables := s }

/-- `virtualSensorList`, with its handle `'_dmy'`; the sensor for the uncalibrated field is a copy
of the last compass. -/
def virtualSensorList (sensors : List Sensor) (type : VirtualType) : Sensor :=
  match type with
  | .magneticFieldUncalibrated =>
    ⟨type.value, ((sensors.reverse.find? fun s => s.type = SensorType.magneticField.value).map
      Sensor.handle).getD 0⟩
  | _ => ⟨type.value, 1600417145⟩

/-- `getDataInfo` -/
def enumerate (odd : ℤ → Bool) (hasAlgo : VirtualType → Bool) (dir : Option (List Entry)) :
    Option MappedTables := do
  let t ← Tables.getSensorListInner odd dir
  (triedVirtual (t.sensors.map Sensor.type)).foldlM
    (initVirtualSensor hasAlgo (virtualSensorList t.sensors)) t.mapped

/-! ## Single turns -/

/-- An entry of the directory itself, or of the one above. -/
def Entry.isDots (e : Entry) : Bool := decide (e.name = ['.'] ∨ e.name = ['.', '.'])

/-- Something of an entry is stored: its first file can be read. -/
def Entry.touches (e : Entry) : Bool := !e.isDots && (nodeText (e.file .name)).isSome

/-- The type in its file. -/
def Entry.type (e : Entry) : ℤ := atoi ((nodeText (e.file .type)).getD [])

/-- All files that are required can be read. -/
def Entry.isReadable (e : Entry) (nodes : List (Node × Bool)) : Bool :=
  nodes.all fun p => !p.2 || (nodeText (e.file p.1)).isSome

/-- A sensor stays in its context. -/
def Entry.isAccepted (odd : ℤ → Bool) (e : Entry) : Bool :=
  !e.isDots && (e.isReadable nodeMap && isSupported odd e.type)

variable {odd : ℤ → Bool} {e : Entry} {t t' : Tables}

/-- What is stored needs a file that is required. -/
theorem Entry.touches_of_isAccepted (h : e.isAccepted odd = true) : e.touches = true := by
  rw [Entry.isAccepted, Bool.and_eq_true, Bool.and_eq_true] at h
  obtain ⟨hdots, hread, -⟩ := h
  rw [Entry.touches, hdots, Bool.true_and]
  have hname := List.all_eq_true.mp hread (.name, true) List.mem_cons_self
  exact hname

namespace Tables

/-- Put a sensor to the next context. -/
def put (t : Tables) (s : Sensor) : Tables :=
  { t with sensorList := Function.update t.sensorList t.number s }

theorem write_of_lt (h : t.number < MAX_SENSORS) (f : Sensor → Sensor) :
    t.write f = some (t.put (f (t.sensorList t.number))) := if_pos h

@[simp] theorem put_self (t : Tables) : t.put (t.sensorList t.number) = t := by
  rw [put, Function.update_eq_self]

@[simp] theorem put_put (t : Tables) (s s' : Sensor) : (t.put s).put s' = t.put s' := by
  rw [put, put, Function.update_idem, put]

@[simp] theorem number_put (t : Tables) (s : Sensor) : (t.put s).number = t.number := rfl

@[simp] theorem sensorList_put (t : Tables) (s : Sensor) :
    (t.put s).sensorList t.number = s := Function.update_self _ _ _

/-- The contexts in use are not written to. -/
theorem sensorList_put_of_lt (s : Sensor) {n : ℕ} (h : n < t.number) :
    (t.put s).sensorList n = t.sensorList n := Function.update_of_ne h.ne _ _

/-- Behind the contexts in use, the loop over the files stores what it can read, up to one that is
required and can't be read. If there is none, the type is that of the entry. -/
theorem readNodes_of_lt (h : t.number < MAX_SENSORS) (e : Entry) (nodes : List (Node × Bool)) :
    ∃ s, t.readNodes e nodes = some (t.put s, e.isReadable nodes) ∧
      (e.isReadable nodes = true → s.type = if ∃ p ∈ nodes, p.1 = .type ∧
        (nodeText (e.file p.1)).isSome then e.type else (t.sensorList t.number).type) := by
  induction nodes generalizing t with
  | nil => exact ⟨t.sensorList t.number, by rw [put_self]; rfl, fun _ => by simp⟩
  | cons p nodes ih =>
    obtain ⟨node, required⟩ := p
    rw [readNodes]
    cases htext : nodeText (e.file node) with
    | none =>
      cases required with
      | true =>
        have hno : e.isReadable ((node, true) :: nodes) = false := by
          simp [Entry.isReadable, htext]
        refine ⟨t.sensorList t.number, by rw [put_self, hno]; rfl, ?_⟩
        rw [hno]
        exact fun hno => absurd hno Bool.false_ne_true
      | false =>
        obtain ⟨s, hrun, htype⟩ := ih h
        have hsame : e.isReadable ((node, false) :: nodes) = e.isReadable nodes := by
          simp [Entry.isReadable]
        refine ⟨s, by rw [hsame]; exact hrun, ?_⟩
        rw [hsame]
        simpa [htext] using htype
    | some text =>
      have hsame : e.isReadable ((node, required) :: nodes) = e.isReadable nodes := by
        simp [Entry.isReadable, htext]
      obtain ⟨s, hrun, htype⟩ :=
        ih (t := t.put ((t.sensorList t.number).store node text)) h
      refine ⟨s, ?_, ?_⟩
      · simp only [write_of_lt h, Option.bind_some]
        rw [hrun, hsame, put_put]
      · rw [hsame]
        intro hread
        rw [htype hread, number_put, sensorList_put]
        by_cases hnode : node = .type
        · -- the last one counts, and they are the same
          subst hnode
          have hnew : (Sensor.store .type text (t.sensorList t.number)).type = e.type := by
            rw [Entry.type, htext]
            rfl
          rw [hnew, ite_self, if_pos ⟨_, List.mem_cons_self, rfl, by rw [htext]; rfl⟩]
        · have hold : (Sensor.store node text (t.sensorList t.number)).type =
              (t.sensorList t.number).type := by
            cases node
            case type => exact absurd rfl hnode
            all_goals rfl
          simp only [hold, List.mem_cons, exists_eq_or_imp, hnode, false_and, false_or]

/-- Put a sensor to the next context, and use it. -/
def use (t : Tables) (s : Sensor) : Tables := { t.put s with number := t.number + 1 }

theorem sensors_use (t : Tables) (s : Sensor) : (t.use s).sensors = t.sensors ++ [s] :=
  Block.map_range_update _ _ _

theorem sensors_put (t : Tables) (s : Sensor) : (t.put s).sensors = t.sensors :=
  List.map_congr_left fun _ hn => sensorList_put_of_lt s (List.mem_range.mp hn)

/-- Where there is a context, a sensor that is not accepted leaves something behind those in use. -/
theorem turn_of_lt (odd : ℤ → Bool) (h : t.number < MAX_SENSORS) (hdots : e.isDots = false) :
    ∃ s, turn odd t e = some (if e.isAccepted odd then t.use ⟨e.type, SENSORS_HANDLE t.number⟩
      else t.put s) := by
  obtain ⟨s, hrun, htype⟩ := readNodes_of_lt h e nodeMap
  have haccepted : e.isAccepted odd = (e.isReadable nodeMap && isSupported odd e.type) := by
    rw [Entry.isAccepted, hdots, Bool.not_false, Bool.true_and]
  refine ⟨s, ?_⟩
  rw [turn, if_neg (of_decide_eq_false hdots), hrun, haccepted]
  simp only [Option.bind_eq_bind, Option.bind_some, number_put, sensorList_put]
  cases hread : e.isReadable nodeMap with
  | false => rfl
  | true =>
    have hfile := List.all_eq_true.mp hread (.type, true) (by decide)
    have hs : s.type = e.type := by
      rw [htype hread, if_pos ⟨(.type, true), by decide, rfl, hfile⟩]
    rw [hs]
    cases isSupported odd e.type with
    | false => rfl
    | true =>
      simp only [Bool.and_true, if_true]
      rw [write_of_lt (t := t.put s) h, Option.bind_some, number_put, sensorList_put, put_put, hs]
      rfl

/-- Where there is none, the first file must not be readable. -/
theorem turn_of_not_lt (h : ¬ t.number < MAX_SENSORS) (hdots : e.isDots = false) :
    turn odd t e = if e.touches then none else some t := by
  rw [turn, if_neg (of_decide_eq_false hdots), Entry.touches, hdots, nodeMap, readNodes]
  cases nodeText (e.file .name) with
  | none => rfl
  | some text =>
    simp only [write, if_neg h]
    rfl

theorem turn_of_isDots (h : e.isDots = true) : turn odd t e = some t := if_pos (of_decide_eq_true h)

/-- A turn uses a context for a sensor that is accepted, and leaves those in use. -/
theorem turn_spec (h : turn odd t e = some t') :
    t'.number = t.number + (if e.isAccepted odd then 1 else 0) ∧
      t'.sensors = t.sensors ++
        if e.isAccepted odd then [⟨e.type, SENSORS_HANDLE t.number⟩] else [] := by
  cases hdots : e.isDots with
  | true =>
    rw [turn_of_isDots hdots] at h
    obtain rfl := Option.some.inj h
    simp [Entry.isAccepted, hdots]
  | false =>
    by_cases hlt : t.number < MAX_SENSORS
    · obtain ⟨s, hturn⟩ := turn_of_lt odd hlt hdots
      rw [hturn] at h
      obtain rfl := Option.some.inj h
      cases e.isAccepted odd with
      | true =>
        exact ⟨rfl, t.sensors_use _⟩
      | false =>
        exact ⟨rfl, (t.sensors_put s).trans (List.append_nil _).symm⟩
    · rw [turn_of_not_lt hlt hdots] at h
      cases htouches : e.touches with
      | true => simp [htouches] at h
      | false =>
        have hno : e.isAccepted odd = false := by
          rw [← Bool.not_eq_true]
          intro hyes
          exact absurd (e.touches_of_isAccepted hyes) (by simp [htouches])
        simp only [htouches, Bool.false_eq_true, if_false, Option.some.injEq] at h
        subst h
        simp [hno]

/-- Every context in use has its handle. -/
def HaveHandles (t : Tables) : Prop :=
  t.sensors.map Sensor.handle = (List.range t.number).map SENSORS_HANDLE

/-- One more has. -/
theorem HaveHandles.use (h : t.HaveHandles) (type : ℤ) :
    (t.use ⟨type, SENSORS_HANDLE t.number⟩).HaveHandles := by
  rw [HaveHandles, sensors_use, List.map_append, h]
  exact (List.map_append.symm.trans (congrArg _ List.range_succ.symm))

/-- The loop over the directory fills contexts. -/
theorem fills_turn (odd : ℤ → Bool) : Slots.Fills MAX_SENSORS Entry.touches (Entry.isAccepted odd)
    Tables.number HaveHandles (turn odd) := by
  refine ⟨fun t e _ => ?_, fun t e t' h hturn => ?_⟩
  · cases hdots : e.isDots with
    | true => simp [turn_of_isDots hdots, Entry.touches, hdots]
    | false =>
      by_cases hlt : t.number < MAX_SENSORS
      · obtain ⟨s, hturn⟩ := turn_of_lt odd hlt hdots
        simp [hturn, hlt]
      · rw [turn_of_not_lt hlt hdots]
        cases e.touches <;> simp [hlt]
  · obtain ⟨hnumber, hsensors⟩ := turn_spec hturn
    refine ⟨?_, hnumber⟩
    rw [HaveHandles, hsensors, hnumber, List.map_append, h]
    split_ifs
    · rw [List.range_succ, List.map_append]
      rfl
    · exact List.append_nil _

/-- The types of what is accepted. -/
theorem types_foldlM {entries : List Entry} (h : entries.foldlM (turn odd) t = some t') :
    t'.sensors.map Sensor.type = t.sensors.map Sensor.type ++
      (entries.filter (Entry.isAccepted odd)).map Entry.type := by
  induction entries generalizing t with
  | nil =>
    obtain rfl := Option.some.inj h
    exact (List.append_nil _).symm
  | cons e entries ih =>
    obtain ⟨u, hturn, hrest⟩ := Option.bind_eq_some_iff.mp h
    rw [ih hrest, (turn_spec hturn).2, List.filter_cons]
    cases e.isAccepted odd <;> simp

end Tables

/-! ## Virtual sensors -/

namespace MappedTables

/-- The contexts in use are those that have their handle, and are found by it. -/
structure Initialised (t : MappedTables) : Prop where
  haveHandles : t.HaveHandles
  handleMap : t.handleMap = (List.range t.number).map fun n => (SENSORS_HANDLE n, n)

/-- What was found in the directory is initialised. -/
theorem initialised_mapped {t : Tables} (h : t.HaveHandles) : t.mapped.Initialised := by
  refine ⟨h, List.map_congr_left fun n hn => ?_⟩
  rw [Tables.HaveHandles, Tables.sensors, List.map_map] at h
  exact congrArg (·, n) (List.map_inj_left.mp h n hn)

variable {hasAlgo : VirtualType → Bool} {info : VirtualType → Sensor} {t : MappedTables}

/-- Where there is a context, it is used if there is an algorithm. -/
theorem initVirtualSensor_of_lt (h : t.number < MAX_SENSORS) (type : VirtualType) :
    initVirtualSensor hasAlgo info t type = some (if hasAlgo type then
      ⟨t.use ⟨(info type).type, SENSORS_HANDLE t.number⟩,
        t.handleMap ++ [(SENSORS_HANDLE t.number, t.number)]⟩
      else { t with toTables := t.put (info type) }) := by
  rw [initVirtualSensor, Tables.write_of_lt h]
  simp only [Option.bind_eq_bind, Option.bind_some, Tables.number_put]
  cases hasAlgo type with
  | false => rfl
  | true =>
    simp only [if_true]
    rw [Tables.write_of_lt (t := t.put (info type)) h, Tables.number_put, Tables.sensorList_put,
      Tables.put_put]
    rfl

theorem initVirtualSensor_of_not_lt (h : ¬ t.number < MAX_SENSORS) (type : VirtualType) :
    initVirtualSensor hasAlgo info t type = none := by
  rw [initVirtualSensor, Tables.write, if_neg h]
  rfl

/-- The loop over the virtual sensors fills contexts, too. -/
theorem fills_initVirtualSensor (hasAlgo : VirtualType → Bool) (info : VirtualType → Sensor) :
    Slots.Fills MAX_SENSORS (fun _ => true) hasAlgo (fun t : MappedTables => t.number) Initialised
      (initVirtualSensor hasAlgo info) := by
  refine ⟨fun t type _ => ?_, fun t type t' h hturn => ?_⟩
  · by_cases hlt : t.number < MAX_SENSORS
    · simp [initVirtualSensor_of_lt hlt, hlt]
    · simp [initVirtualSensor_of_not_lt hlt, hlt]
  · by_cases hlt : t.number < MAX_SENSORS
    · rw [initVirtualSensor_of_lt hlt] at hturn
      obtain rfl := Option.some.inj hturn
      cases hasAlgo type with
      | true =>
        refine ⟨⟨h.haveHandles.use _, ?_⟩, rfl⟩
        show t.handleMap ++ _ = (List.range (t.number + 1)).map _
        rw [h.handleMap, List.range_succ, List.map_append]
        rfl
      | false =>
        refine ⟨⟨?_, h.handleMap⟩, rfl⟩
        have hsensors : (t.put (info type)).sensors = t.sensors := t.sensors_put _
        exact (congrArg (List.map Sensor.handle) hsensors).trans h.haveHandles
    · rw [initVirtualSensor_of_not_lt hlt] at hturn
      exact absurd hturn (Option.some_ne_none _).symm

end MappedTables

/-! ## All of it -/

/-- For each entry of the directory of which something can be read, fewer than `MAX_SENSORS` were
accepted before; and for each virtual sensor that is tried, fewer have a context. -/
def FitsContexts (odd : ℤ → Bool) (hasAlgo : VirtualType → Bool) (entries : List Entry) : Prop :=
  Slots.Fits MAX_SENSORS Entry.touches (Entry.isAccepted odd) 0 entries ∧
    Slots.Fits MAX_SENSORS (fun _ => true) hasAlgo (entries.countP (Entry.isAccepted odd))
      (triedVirtual ((entries.filter (Entry.isAccepted odd)).map Entry.type))

/-- What the loop over the directory leaves. -/
theorem spec_of_foldlM {odd : ℤ → Bool} {entries : List Entry} {t : Tables}
    (h : entries.foldlM (Tables.turn odd) Tables.empty = some t) : t.HaveHandles ∧
      t.number = entries.countP (Entry.isAccepted odd) ∧
      t.sensors.map Sensor.type = (entries.filter (Entry.isAccepted odd)).map Entry.type := by
  have hempty : Tables.empty.HaveHandles := rfl
  obtain ⟨hhandles, hnumber⟩ := Slots.used_foldlM (Tables.fills_turn odd) hempty h
  exact ⟨hhandles, hnumber.trans (Nat.zero_add _), Tables.types_foldlM h⟩

/-- **Enumeration.** Nothing is written behind the contexts just if all that is tried fits; and then
the contexts in use are those that were initialised. -/
theorem enumerated_iff (odd : ℤ → Bool) (hasAlgo : VirtualType → Bool)
    (dir : Option (List Entry)) :
    (∃ t, enumerate odd hasAlgo dir = some t ∧ t.number ≤ MAX_SENSORS ∧ t.Initialised) ↔
      FitsContexts odd hasAlgo (dir.getD []) := by
  have hlist : Tables.getSensorListInner odd dir =
      (dir.getD []).foldlM (Tables.turn odd) Tables.empty := by
    cases dir <;> rfl
  rw [FitsContexts, enumerate, hlist]
  generalize dir.getD [] = entries
  have hfirst : (entries.foldlM (Tables.turn odd) Tables.empty).isSome = true ↔ _ :=
    Slots.isSome_foldlM (Tables.fills_turn odd) rfl
  constructor
  · rintro ⟨t', hrun, -⟩
    obtain ⟨t, ht, hvirtual⟩ := Option.bind_eq_some_iff.mp hrun
    obtain ⟨hhandles, hnumber, htypes⟩ := spec_of_foldlM ht
    refine ⟨hfirst.mp (Option.isSome_of_mem ht), ?_⟩
    rw [← hnumber, ← htypes]
    exact (Slots.isSome_foldlM (MappedTables.fills_initVirtualSensor hasAlgo _)
      (MappedTables.initialised_mapped hhandles)).mp (Option.isSome_of_mem hvirtual)
  · rintro ⟨hfits, hfitsVirtual⟩
    obtain ⟨t, ht⟩ := Option.isSome_iff_exists.mp (hfirst.mpr hfits)
    obtain ⟨hhandles, hnumber, htypes⟩ := spec_of_foldlM ht
    have hle := hfits.le (fun e _ => e.touches_of_isAccepted) (Nat.zero_le _)
    have hle' := hfitsVirtual.le (fun _ _ _ => rfl) (by omega)
    rw [← hnumber, ← htypes] at hfitsVirtual hle'
    obtain ⟨t', ht'⟩ := Option.isSome_iff_exists.mp
      ((Slots.isSome_foldlM (MappedTables.fills_initVirtualSensor hasAlgo
        (virtualSensorList t.sensors)) (MappedTables.initialised_mapped hhandles)).mpr hfitsVirtual)
    obtain ⟨hinitialised, hused⟩ := Slots.used_foldlM
      (MappedTables.fills_initVirtualSensor hasAlgo _)
      (MappedTables.initialised_mapped hhandles) ht'
    refine ⟨t', ?_, ?_, hinitialised⟩
    · rw [ht]
      exact ht'
    · rw [hused]
      exact hle'

/-- Twenty-one accelerometers. -/
theorem not_enumerated_accelerometers : ¬ ∃ t, enumerate (fun _ => false) (fun _ => false)
    (some (List.replicate 21 ⟨['a', 'c', 'c', 'e', 'l'], fun _ => some ['1', '\n']⟩)) = some t ∧
      t.number ≤ MAX_SENSORS ∧ t.Initialised := by
  rintro ⟨t, hrun, -⟩
  exact absurd (Option.isSome_of_mem hrun) (by decide)

/-! ## The sensors that are found -/

/-- A sensor of a type was found just if there is a last one. -/
theorem value_mem_iff {hw : List HwSensor} {type : SensorType} :
    type.value ∈ hw.map (fun h => h.type.value) ↔ (lastOf hw type).isSome = true := by
  have hinj : ∀ type' : SensorType, type'.value = type.value ↔ type' = type := by
    intro type'
    cases type <;> cases type' <;> decide
  have hmem : ∀ h, h ∈ hw ↔ ∃ i, (h, i) ∈ hw.zipIdx := fun h =>
    List.mem_iff_getElem?.trans (exists_congr fun i => List.mk_mem_zipIdx_iff_getElem?.symm)
  rw [lastOf, List.find?_isSome]
  simp only [List.mem_map, hinj, hmem, List.mem_reverse, decide_eq_true_eq]
  constructor
  · rintro ⟨h, ⟨i, hi⟩, htype⟩
    exact ⟨(i, h), ⟨(h, i), hi, rfl⟩, htype⟩
  · rintro ⟨_, ⟨⟨h, i⟩, hi, rfl⟩, htype⟩
    exact ⟨h, ⟨i, hi⟩, htype⟩

/-- The virtual sensors of a device are tried. -/
theorem triedVirtual_map (hw : List HwSensor) :
    triedVirtual (hw.map fun h => h.type.value) = (virtualSensors hw).map Prod.fst := by
  simp only [triedVirtual, value_mem_iff, virtualSensors]
  cases lastOf hw .light <;> cases lastOf hw .proximity <;> cases lastOf hw .accelerometer <;>
    cases lastOf hw .magneticField <;> rfl

/-- When what is accepted are the hardware sensors of a device, `mSensorCount` is the number of its
sensors. -/
theorem number_of_enumerate {odd : ℤ → Bool} {hasAlgo : VirtualType → Bool} {entries : List Entry}
    {hw : List HwSensor} {t : MappedTables}
    (htypes : (entries.filter (Entry.isAccepted odd)).map Entry.type =
      hw.map fun h => h.type.value)
    (h : enumerate odd hasAlgo (some entries) = some t) :
    t.number = (Device.found hw hasAlgo).sensors.length := by
  obtain ⟨t₁, ht₁, hvirtual⟩ := Option.bind_eq_some_iff.mp h
  obtain ⟨hhandles, hnumber, htypes₁⟩ := spec_of_foldlM ht₁
  obtain ⟨-, hused⟩ := Slots.used_foldlM (MappedTables.fills_initVirtualSensor hasAlgo _)
    (MappedTables.initialised_mapped hhandles) hvirtual
  have hlength : entries.countP (Entry.isAccepted odd) = hw.length := by
    simpa [List.countP_eq_length_filter] using congrArg List.length htypes
  have hfirst : t₁.mapped.number = hw.length := hnumber.trans hlength
  show t.number = (getDataInfo hw hasAlgo).length
  rw [hused, hfirst, htypes₁, htypes, triedVirtual_map, List.countP_map, getDataInfo,
    List.length_append, List.length_mapIdx, List.length_map, List.countP_eq_length_filter]
  rfl

end OppoA37.Sensors
