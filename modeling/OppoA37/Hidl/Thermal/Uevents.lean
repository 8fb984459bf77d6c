import OppoA37.Lib.Text
import OppoA37.Hidl.Thermal.ThermalWatcher

/-!
# `ThermalWatcher::parseUevent`

When a uevent has woken the thread, all messages that are there are read. A message is a list of
strings, each with a `NUL` behind it, and the sensors to look at are those that a message of the
thermal subsystem names.

The scan of a message goes from string to string. It waits for `SUBSYSTEM=thermal`, and takes what
is behind the first `NAME=` from then on; but `thermal_event` is not reset for the next message,
and `find` does not care where in a string a key begins. `Found` says in terms of the messages what
is taken, and `named_iff` when that is what the messages carry.
-/

namespace OppoA37.Thermal

open Text

/-! ## Strings -/

/-- The strings of a message. -/
def stringsOf (msg : List Char) : List (List Char) := msg.splitOn NUL

/-- The strings that `cp` comes to: an empty one ends the message. -/
def scanned (msg : List Char) : List (List Char) := (stringsOf msg).takeWhile (· ≠ [])

/-! ## `parseUevent` -/

/-- `kUeventMsgLen` -/
def kUeventMsgLen : ℕ := 2048

/-- `SUBSYSTEM=` -/
def subsystemKey : List Char := "SUBSYSTEM=".toList

/-- `SUBSYSTEM=thermal` -/
def subsystemThermal : List Char := "SUBSYSTEM=thermal".toList

/-- `NAME=` -/
def nameKey : List Char := "NAME=".toList

/-- The loop over the strings of a message, with `thermal_event`, and the `name` that it ends
with. -/
def scan (thermalEvent : Bool) : List (List Char) → Bool × Option (List Char)
  | [] => (thermalEvent, none)
  | uevent :: rest =>
    if !thermalEvent then
      if find subsystemKey uevent = some 0 then
        if find subsystemThermal uevent ≠ none then scan true rest
        else (thermalEvent, none)
      else scan thermalEvent rest
    else
      match find nameKey uevent with
      | some startPos => (thermalEvent, some (uevent.drop (startPos + 5)))
      | none => scan thermalEvent rest

/-- `sensors_set->insert`, if the sensor is one of `monitored_sensors_`. -/
def insertMonitored (monitoredSensors : Finset String) (name : Option (List Char))
    (sensorsSet : Finset String) : Finset String :=
  match name with
  | none => sensorsSet
  | some name =>
    if String.ofList name ∈ monitoredSensors then insert (String.ofList name) sensorsSet
    else sensorsSet

/-- The loop over the messages, as `uevent_kernel_multicast_recv` returns them: the last one, or
one without a byte, ends it. -/
def receive (monitoredSensors : Finset String) :
    Bool → List (List Char) → Finset String → Finset String
  | _, [], sensorsSet => sensorsSet
  | thermalEvent, msg :: msgs, sensorsSet =>
    if msg.length = 0 then sensorsSet
    else if msg.length ≥ kUeventMsgLen then receive monitoredSensors thermalEvent msgs sensorsSet
    else
      let (thermalEvent, name) := scan thermalEvent (scanned msg)
      receive monitoredSensors thermalEvent msgs
        (insertMonitored monitoredSensors name sensorsSet)

/-- `parseUevent` -/
def parseUevent (monitoredSensors : Finset String) (msgs : List (List Char)) : Finset String :=
  receive monitoredSensors false msgs ∅

/-! ## What the messages carry -/

/-- The messages that are scanned: those before an empty one that fit the buffer. -/
def messages (msgs : List (List Char)) : List (List Char) :=
  (msgs.takeWhile (· ≠ [])).filter (·.length < kUeventMsgLen)

/-- A message carries both `SUBSYSTEM=thermal` and the `NAME=` of a sensor. -/
def Carries (msg : List Char) (sensor : String) : Prop :=
  subsystemThermal ∈ stringsOf msg ∧ nameKey ++ sensor.toList ∈ stringsOf msg

/-! ## What the scan takes -/

/-- Among some strings, the first that begins with `SUBSYSTEM=` contains `SUBSYSTEM=thermal`;
`rest` is behind it. -/
def Announces (strings rest : List (List Char)) : Prop :=
  ∃ before uevent, strings = before ++ uevent :: rest ∧ (∀ x ∈ before, ¬ subsystemKey <+: x) ∧
    subsystemKey <+: uevent ∧ subsystemThermal <:+: uevent

/-- Among some strings, the first that contains `NAME=` has a name behind it. -/
def Names (strings : List (List Char)) (name : List Char) : Prop :=
  ∃ before uevent after startPos, strings = before ++ uevent :: after ∧
    (∀ x ∈ before, ¬ nameKey <:+: x) ∧ find nameKey uevent = some startPos ∧
    name = uevent.drop (startPos + 5)

/-- Some of these messages has announced the subsystem. -/
def Announced (msgs : List (List Char)) : Prop := ∃ m ∈ msgs, ∃ rest, Announces (scanned m) rest

/-- A message gives a name: it announces the subsystem and names it behind that, or an earlier
message has announced the subsystem and it names it anywhere. -/
def Gives (earlier : List (List Char)) (msg : List Char) (name : List Char) : Prop :=
  (¬ Announced earlier ∧ ∃ rest, Announces (scanned msg) rest ∧ Names rest name) ∨
    (Announced earlier ∧ Names (scanned msg) name)

/-- Some message gives the name of a sensor. -/
def Found (msgs : List (List Char)) (sensor : String) : Prop :=
  ∃ earlier msg later, msgs = earlier ++ msg :: later ∧ Gives earlier msg sensor.toList

/-! ## The scan of one message -/

/-- The strings from the first with `NAME=` on. -/
theorem names_cons {uevent : List Char} {rest : List (List Char)} {name : List Char} :
    Names (uevent :: rest) name ↔
      (∃ startPos, find nameKey uevent = some startPos ∧ name = uevent.drop (startPos + 5)) ∨
        (find nameKey uevent = none ∧ Names rest name) := by
  constructor
  · rintro ⟨before, uevent', after, startPos, heq, hbefore, hfind, hname⟩
    rcases List.cons_eq_append_iff.mp heq with ⟨rfl, hcons⟩ | ⟨before', rfl, hrest⟩
    · obtain ⟨rfl, -⟩ := List.cons.inj hcons
      exact Or.inl ⟨startPos, hfind, hname⟩
    · refine Or.inr ⟨find_eq_none.mpr (hbefore _ List.mem_cons_self), before', uevent', after,
        startPos, hrest, fun x hx => hbefore x (List.mem_cons_of_mem _ hx), hfind, hname⟩
  · rintro (⟨startPos, hfind, hname⟩ | ⟨hfind, before, uevent', after, startPos, rfl, hbefore,
      hfind', hname⟩)
    · exact ⟨[], uevent, rest, startPos, rfl, List.forall_mem_nil _, hfind, hname⟩
    · exact ⟨uevent :: before, uevent', after, startPos, rfl,
        List.forall_mem_cons.mpr ⟨find_eq_none.mp hfind, hbefore⟩, hfind', hname⟩

theorem not_names_nil {name : List Char} : ¬ Names [] name := by
  rintro ⟨before, uevent, after, startPos, heq, -⟩
  exact List.append_ne_nil_of_right_ne_nil _ (List.cons_ne_nil _ _) heq.symm

/-- The strings from the first that begins with `SUBSYSTEM=` on. -/
theorem announces_cons {uevent : List Char} {strings rest : List (List Char)} :
    Announces (uevent :: strings) rest ↔
      (subsystemKey <+: uevent ∧ subsystemThermal <:+: uevent ∧ strings = rest) ∨
        (¬ subsystemKey <+: uevent ∧ Announces strings rest) := by
  constructor
  · rintro ⟨before, uevent', heq, hbefore, hkey, hthermal⟩
    rcases List.cons_eq_append_iff.mp heq with ⟨rfl, hcons⟩ | ⟨before', rfl, hstrings⟩
    · obtain ⟨rfl, rfl⟩ := List.cons.inj hcons
      exact Or.inl ⟨hkey, hthermal, rfl⟩
    · exact Or.inr ⟨hbefore _ List.mem_cons_self, before', uevent', hstrings,
        fun x hx => hbefore x (List.mem_cons_of_mem _ hx), hkey, hthermal⟩
  · rintro (⟨hkey, hthermal, rfl⟩ | ⟨hkey, before, uevent', rfl, hbefore, hkey', hthermal⟩)
    · exact ⟨[], uevent, rfl, List.forall_mem_nil _, hkey, hthermal⟩
    · exact ⟨uevent :: before, uevent', rfl, List.forall_mem_cons.mpr ⟨hkey, hbefore⟩, hkey',
        hthermal⟩

theorem not_announces_nil {rest : List (List Char)} : ¬ Announces [] rest := by
  rintro ⟨before, uevent, heq, -⟩
  exact List.append_ne_nil_of_right_ne_nil _ (List.cons_ne_nil _ _) heq.symm

/-- Once the subsystem is announced the scan takes the first name. -/
theorem scan_true (strings : List (List Char)) :
    (scan true strings).1 = true ∧ ∀ name, (scan true strings).2 = some name ↔
      Names strings name := by
  induction strings with
  | nil => exact ⟨rfl, fun name => iff_of_false (Option.some_ne_none name).symm not_names_nil⟩
  | cons uevent rest ih =>
    rw [scan, if_neg (by decide)]
    cases hfind : find nameKey uevent with
    | none =>
      refine ⟨ih.1, fun name => ?_⟩
      rw [names_cons, ih.2 name]
      simp [hfind]
    | some startPos =>
      refine ⟨rfl, fun name => ?_⟩
      rw [names_cons]
      simp [hfind, eq_comm]

/-- Until then it waits for the announcement. -/
theorem scan_false (strings : List (List Char)) :
    ((scan false strings).1 = true ↔ ∃ rest, Announces strings rest) ∧
      ∀ name, (scan false strings).2 = some name ↔
        ∃ rest, Announces strings rest ∧ Names rest name := by
  induction strings with
  | nil =>
    refine ⟨iff_of_false Bool.false_ne_true ?_, fun name => iff_of_false ?_ ?_⟩
    · exact fun ⟨_, h⟩ => not_announces_nil h
    · exact (Option.some_ne_none name).symm
    · exact fun ⟨_, h, _⟩ => not_announces_nil h
  | cons uevent rest ih =>
    rw [scan, if_pos (by decide)]
    simp only [announces_cons]
    by_cases hkey : find subsystemKey uevent = some 0
    · have hpre := find_eq_zero.mp hkey
      by_cases hthermal : find subsystemThermal uevent = none
      · rw [if_pos hkey, if_neg (not_not_intro hthermal)]
        simp [hpre, find_eq_none.mp hthermal]
      · have hinfix : subsystemThermal <:+: uevent := by
          by_contra hn
          exact hthermal (find_eq_none.mpr hn)
        rw [if_pos hkey, if_pos hthermal]
        simp [hpre, hinfix, scan_true rest]
    · have hpre : ¬ subsystemKey <+: uevent := fun h => hkey (find_eq_zero.mpr h)
      rw [if_neg hkey]
      simpa [hpre] using ih

/-! ## The loop over the messages -/

/-- What a message adds to the set. -/
theorem mem_insertMonitored {monitoredSensors : Finset String} {name : Option (List Char)}
    {sensorsSet : Finset String} {sensor : String} :
    sensor ∈ insertMonitored monitoredSensors name sensorsSet ↔
      sensor ∈ sensorsSet ∨ (sensor ∈ monitoredSensors ∧ name = some sensor.toList) := by
  cases name with
  | none => simp [insertMonitored]
  | some name =>
    have heq : sensor = String.ofList name ↔ some name = some sensor.toList := by
      rw [Option.some_inj]
      constructor
      · rintro rfl
        exact String.toList_ofList.symm
      · rintro rfl
        exact String.ofList_toList.symm
    rw [insertMonitored, ← heq]
    split
    · rename_i hmem
      rw [Finset.mem_insert, or_comm]
      refine or_congr_right (iff_and_self.mpr ?_)
      rintro rfl
      exact hmem
    · rename_i hmem
      refine (or_iff_left ?_).symm
      rintro ⟨hsensor, rfl⟩
      exact hmem hsensor

/-- After a message the flag says whether the subsystem has been announced, and what is taken from
the message is what it gives. -/
theorem scan_spec {thermalEvent : Bool} {past : List (List Char)}
    (hpast : thermalEvent = true ↔ Announced past) (msg : List Char) :
    ((scan thermalEvent (scanned msg)).1 = true ↔ Announced (past ++ [msg])) ∧
      ∀ name, (scan thermalEvent (scanned msg)).2 = some name ↔ Gives past msg name := by
  have happend : Announced (past ++ [msg]) ↔
      Announced past ∨ ∃ rest, Announces (scanned msg) rest := by
    simp [Announced, or_and_right, exists_or]
  rw [happend]
  cases thermalEvent with
  | true =>
    have hann : Announced past := hpast.mp rfl
    obtain ⟨hflag, hname⟩ := scan_true (scanned msg)
    refine ⟨iff_of_true hflag (Or.inl hann), fun name => ?_⟩
    rw [hname, Gives]
    simp [hann]
  | false =>
    have hann : ¬ Announced past := fun h => Bool.false_ne_true (hpast.mpr h)
    obtain ⟨hflag, hname⟩ := scan_false (scanned msg)
    refine ⟨hflag.trans (or_iff_right hann).symm, fun name => ?_⟩
    rw [hname, Gives]
    simp [hann]

/-- The first message, or one of the others. -/
theorem found_cons {msg : List Char} {msgs : List (List Char)}
    {P : List (List Char) → List Char → Prop} :
    (∃ earlier m later, msg :: msgs = earlier ++ m :: later ∧ P earlier m) ↔
      P [] msg ∨ ∃ earlier m later, msgs = earlier ++ m :: later ∧ P (msg :: earlier) m := by
  constructor
  · rintro ⟨earlier, m, later, heq, hP⟩
    rcases List.cons_eq_append_iff.mp heq with ⟨rfl, hcons⟩ | ⟨earlier', rfl, hmsgs⟩
    · obtain ⟨rfl, -⟩ := List.cons.inj hcons
      exact Or.inl hP
    · exact Or.inr ⟨earlier', m, later, hmsgs, hP⟩
  · rintro (hP | ⟨earlier, m, later, rfl, hP⟩)
    · exact ⟨[], msg, msgs, rfl, hP⟩
    · exact ⟨msg :: earlier, m, later, rfl, hP⟩

/-- What the loop adds to the set, when some messages have been read before. -/
theorem mem_receive {monitoredSensors : Finset String} {sensor : String} :
    ∀ {thermalEvent : Bool} {past msgs : List (List Char)} {sensorsSet : Finset String},
      (thermalEvent = true ↔ Announced past) →
      (sensor ∈ receive monitoredSensors thermalEvent msgs sensorsSet ↔
        sensor ∈ sensorsSet ∨ (sensor ∈ monitoredSensors ∧
          ∃ earlier msg later, messages msgs = earlier ++ msg :: later ∧
            Gives (past ++ earlier) msg sensor.toList)) := by
  intro thermalEvent past msgs
  induction msgs generalizing thermalEvent past with
  | nil =>
    intro sensorsSet _
    simp [receive, messages]
  | cons msg msgs ih =>
    intro sensorsSet hpast
    rw [receive]
    split
    · rename_i hlen
      simp [messages, List.eq_nil_of_length_eq_zero hlen]
    · rename_i hlen
      have hne : msg ≠ [] := fun h => hlen (h ▸ rfl)
      split
      · rename_i hge
        have hmessages : messages (msg :: msgs) = messages msgs := by
          rw [messages, List.takeWhile_cons_of_pos (by simpa using hne),
            List.filter_cons_of_neg (by simpa using hge), ← messages]
        rw [hmessages]
        exact ih hpast
      · rename_i hlt
        have hmessages : messages (msg :: msgs) = msg :: messages msgs := by
          rw [messages, List.takeWhile_cons_of_pos (by simpa using hne),
            List.filter_cons_of_pos (by simpa using hlt), ← messages]
        obtain ⟨hflag, hname⟩ := scan_spec hpast msg
        rw [hmessages, found_cons (P := fun earlier m => Gives (past ++ earlier) m sensor.toList),
          ih hflag, mem_insertMonitored, hname, List.append_nil, and_or_left, or_assoc]
        simp only [List.append_assoc, List.singleton_append]

/-- What is found in the messages that are read. -/
theorem mem_parseUevent {monitoredSensors : Finset String} {msgs : List (List Char)}
    {sensor : String} :
    sensor ∈ parseUevent monitoredSensors msgs ↔
      sensor ∈ monitoredSensors ∧ Found (messages msgs) sensor := by
  have hnone : false = true ↔ Announced [] :=
    iff_of_false Bool.false_ne_true fun ⟨_, hm, _⟩ => List.not_mem_nil hm
  rw [parseUevent, mem_receive hnone, or_iff_right (Finset.notMem_empty _)]
  rfl

/-! ## The result -/

/-- **What is named.** The sensors that are found are those that the messages carry exactly when
each monitored sensor that a message gives, in whatever string `NAME=` is and whichever message
has announced the subsystem, is carried by a message, and each monitored one that a message
carries is given by one. -/
theorem named_iff (monitoredSensors : Finset String) (msgs : List (List Char)) :
    (∀ sensor, sensor ∈ parseUevent monitoredSensors msgs ↔
        sensor ∈ monitoredSensors ∧ ∃ msg ∈ messages msgs, Carries msg sensor) ↔
      ∀ sensor ∈ monitoredSensors,
        (Found (messages msgs) sensor → ∃ msg ∈ messages msgs, Carries msg sensor) ∧
          ∀ msg ∈ messages msgs, Carries msg sensor → Found (messages msgs) sensor := by
  apply forall_congr'
  intro sensor
  rw [mem_parseUevent, and_congr_right_iff]
  apply imp_congr_right
  intro _
  constructor
  · intro hiff
    exact ⟨hiff.mp, fun msg hmsg hcarries => hiff.mpr ⟨msg, hmsg, hcarries⟩⟩
  · rintro ⟨hstray, hmiss⟩
    exact ⟨hstray, fun ⟨msg, hmsg, hcarries⟩ => hmiss msg hmsg hcarries⟩

/-- A uevent of the skin's zone, and one of the battery's power supply. -/
def twoUevents : List (List Char) :=
  ["change@/skin\x00SUBSYSTEM=thermal\x00NAME=skin\x00".toList,
    "change@/bat\x00SUBSYSTEM=power_supply\x00POWER_SUPPLY_NAME=battery\x00".toList]

/-- After the thermal uevent the power supply is taken for a sensor, although no message carries
its name for the thermal subsystem. -/
theorem power_supply_named :
    ¬ ∀ sensor, sensor ∈ parseUevent {"battery"} twoUevents ↔
      sensor ∈ ({"battery"} : Finset String) ∧ ∃ msg ∈ messages twoUevents, Carries msg sensor := by
  intro h
  have hfound : "battery" ∈ parseUevent {"battery"} twoUevents := by decide +kernel
  have hcarries : ¬ ∃ msg ∈ messages twoUevents, subsystemThermal ∈ stringsOf msg ∧
      nameKey ++ "battery".toList ∈ stringsOf msg := by decide +kernel
  exact hcarries ((h "battery").mp hfound).2

end OppoA37.Thermal
