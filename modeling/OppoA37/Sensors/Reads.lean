import OppoA37.Sensors.HandedOver

/-!
# What one read of a driver does

A driver that is read does one of four things, `Reader.Reads`: it fails, hands over the event
that is pending, completes a `flush`, or fetches what there is; `Reader.reads_of_readAgain` says so
of the loop of the manager. `Reader.fetch_induction` is the induction that fetching calls for: over
how often the ring was filled again.
-/

namespace OppoA37.Sensors

open Lts

universe u

variable {F : Type u}

namespace Reader

variable {store : Driver → ℕ → ℤ → F → F} {world : World F} {driver : Driver} {sensor : ℕ}
  {mEnabled : Bool} {count : ℕ} {r r' : Reader F}

/-- What a call of `readEvents` with some room does. -/
inductive Reads (store : Driver → ℕ → ℤ → F → F) (world : World F) (driver : Driver) (sensor : ℕ)
    (mEnabled : Bool) (count : ℕ) (r : Reader F) :
    List Fill → Reader F → Except ℕ (List (SensorsEvent F)) → Prop
  /-- the device cannot be read -/
  | failed (errno : ℕ) (hevent : r.hasPendingEvent = false) (hmeta : r.hasPendingMetadata = 0) :
    Reads store world driver sensor mEnabled count r [.error errno] r (.error errno)
  /-- the last event is reported once more -/
  | pending (hevent : r.hasPendingEvent = true) :
    Reads store world driver sensor mEnabled count r []
      { r with hasPendingEvent := false, timestamp := world.now }
      (.ok (if mEnabled then [.sample sensor world.now r.data] else []))
  /-- a `flush` is complete -/
  | flushed (hevent : r.hasPendingEvent = false) (hmeta : r.hasPendingMetadata ≠ 0) :
    Reads store world driver sensor mEnabled count r []
      { r with hasPendingMetadata := r.hasPendingMetadata - 1 }
      (.ok (if mEnabled then [.flushComplete sensor world.now] else []))
  | fetched (hevent : r.hasPendingEvent = false) (hmeta : r.hasPendingMetadata = 0)
    (events : List InputEvent) (hfree : events.length ≤ r.ring.freeSpace) (answers : List Fill)
    (r' : Reader F) (data : List (SensorsEvent F))
    (hfetch : fetch store world driver sensor mEnabled count
      { r with ring := r.ring.fill events hfree } answers = some (r', data)) :
    Reads store world driver sensor mEnabled count r (.ok events :: answers) r' (.ok data)

theorem reads_of_readEvents {answers : List Fill} {nb : Except ℕ (List (SensorsEvent F))}
    (hcount : count ≠ 0)
    (h : r.readEvents store world driver sensor mEnabled count answers = some (r', nb)) :
    Reads store world driver sensor mEnabled count r answers r' nb := by
  rw [readEvents.eq_def, if_neg (by omega)] at h
  by_cases hevent : r.hasPendingEvent = true
  · rw [if_pos hevent] at h
    by_cases hnil : answers = []
    · rw [if_pos hnil] at h
      obtain ⟨rfl, rfl⟩ := Prod.mk.inj (Option.some.inj h)
      subst hnil
      exact .pending hevent
    · rw [if_neg hnil] at h
      cases h
  rw [if_neg hevent] at h
  rw [Bool.not_eq_true] at hevent
  by_cases hmeta : r.hasPendingMetadata ≠ 0
  · rw [if_pos hmeta] at h
    by_cases hnil : answers = []
    · rw [if_pos hnil] at h
      obtain ⟨rfl, rfl⟩ := Prod.mk.inj (Option.some.inj h)
      subst hnil
      exact .flushed hevent hmeta
    · rw [if_neg hnil] at h
      cases h
  rw [if_neg hmeta] at h
  rw [not_not] at hmeta
  cases answers with
  | nil => cases h
  | cons answer answers =>
    cases answer with
    | error errno =>
      dsimp only at h
      split_ifs at h with hlast
      obtain ⟨rfl, rfl⟩ := Prod.mk.inj (Option.some.inj h)
      rw [hlast.2]
      exact .failed errno hevent hmeta
    | ok events =>
      dsimp only at h
      split_ifs at h with hfree
      obtain ⟨⟨r₁, data⟩, hfetch, heq⟩ := Option.map_eq_some_iff.mp h
      obtain ⟨rfl, rfl⟩ := Prod.mk.inj heq
      exact .fetched hevent hmeta events hfree answers r₁ data hfetch

/-- The loop of the manager passes over failures, and then a call of the driver decides. -/
theorem reads_of_readAgain {calls : List (List Fill)} {nb : Except ℕ (List (SensorsEvent F))}
    (hcount : count ≠ 0)
    (h : readAgain store world driver sensor mEnabled count r calls = some (r', nb)) :
    ∃ before answers, calls = before ++ [answers] ∧ (∀ a ∈ before, ∃ errno, a = [.error errno]) ∧
      Reads store world driver sensor mEnabled count r answers r' nb := by
  obtain ⟨before, answers, hcalls, hbefore, hlast⟩ := readAgain_spec hcount h
  exact ⟨before, answers, hcalls, hbefore, reads_of_readEvents hcount hlast⟩

/-- Without room the driver does nothing. -/
theorem readAgain_zero {calls : List (List Fill)} {nb : Except ℕ (List (SensorsEvent F))}
    (h : readAgain store world driver sensor mEnabled 0 r calls = some (r', nb)) :
    r' = r ∧ calls = [[]] ∧ ∃ errno, nb = .error errno := by
  cases calls with
  | nil => cases h
  | cons answers calls =>
    rw [readAgain, readEvents.eq_def, if_pos Nat.zero_lt_one] at h
    by_cases hnil : answers = []
    · rw [if_pos hnil] at h
      dsimp only at h
      rw [if_neg (by decide)] at h
      split_ifs at h with hlast
      obtain ⟨rfl, rfl⟩ := Prod.mk.inj (Option.some.inj h)
      exact ⟨rfl, by rw [hnil, hlast], _, rfl⟩
    · rw [if_neg hnil] at h
      cases h

/-- **Fetching by induction.** What holds when the ring is worked off once, and whenever it is
worked off without an event for the caller and filled again, holds of `fetch`. -/
theorem fetch_induction {P : Reader F → List Fill → Reader F × List (SensorsEvent F) → Prop}
    (hlast : ∀ r answers, answers = [] ∨ answers = [.ok []] →
      P r answers (drain store world driver sensor mEnabled r.ring.available count r))
    (herror : ∀ r r₁ errno answers out,
      drain store world driver sensor mEnabled r.ring.available count r = (r₁, []) →
      P r₁ answers out → P r (.error errno :: answers) out)
    (hagain : ∀ r r₁ events answers out, ∀ hfree : events.length ≤ r₁.ring.freeSpace,
      drain store world driver sensor mEnabled r.ring.available count r = (r₁, []) →
      P { r₁ with ring := r₁.ring.fill events hfree } answers out →
      P r (.ok events :: answers) out)
    {answers : List Fill} {out : Reader F × List (SensorsEvent F)}
    (h : fetch store world driver sensor mEnabled count r answers = some out) :
    P r answers out := by
  induction answers generalizing r with
  | nil =>
    rw [fetch.eq_def] at h
    dsimp only at h
    split_ifs at h
    rw [← Option.some.inj h]
    exact hlast r [] (Or.inl rfl)
  | cons answer answers ih =>
    have hdone := hlast r
    have herror₁ := herror r
    have hagain₁ := hagain r
    rw [fetch.eq_def] at h
    dsimp only at h
    generalize drain store world driver sensor mEnabled r.ring.available count r = d at *
    obtain ⟨r₁, data⟩ := d
    by_cases hempty : data.isEmpty = true ∧ (driver = .accel ∨ driver = .compass) ∧ mEnabled = true
    swap
    · rw [if_neg hempty, if_neg (List.cons_ne_nil _ _)] at h
      cases h
    rw [if_pos hempty] at h
    obtain rfl := List.isEmpty_iff.mp hempty.1
    cases answer with
    | error errno => exact herror₁ r₁ errno answers out rfl (ih h)
    | ok events =>
      dsimp only at h
      split_ifs at h with hfree hevents hanswers
      · rw [← Option.some.inj h, hevents, hanswers]
        exact hdone [.ok []] (Or.inr rfl)
      · exact hagain₁ r₁ events answers out hfree rfl (ih h)

end Reader

/-! ## The manager reads -/

namespace Device

variable {dev : Device} {store : Driver → ℕ → ℤ → F → F} {w : ℕ}

/-- Another sensor is read. -/
theorem readDriver_readers_of_ne {world : World F} {ctx : Contexts} {i count : ℕ}
    {drivers drivers' : Drivers F} {calls : List (List Fill)}
    {nb : Except ℕ (List (SensorsEvent F))} (hne : i ≠ w)
    (h : dev.readDriver store world ctx i count drivers calls = some (drivers', nb)) :
    drivers'.readers w = drivers.readers w := by
  obtain ⟨v, -, -, -, rfl⟩ | ⟨driver, r, -, -, -, rfl⟩ := readDriver_cases h
  · rfl
  · exact Function.update_of_ne hne.symm _ _

/-- A sensor with hardware is read: without room nothing happens. -/
theorem reads_of_readDriver {driver : Driver} (hw : dev.driver w = some driver)
    (hhw : driver ≠ .virtual) {world : World F} {ctx : Contexts} {count : ℕ}
    {drivers drivers' : Drivers F} {calls : List (List Fill)}
    {nb : Except ℕ (List (SensorsEvent F))}
    (h : dev.readDriver store world ctx w count drivers calls = some (drivers', nb)) :
    (count = 0 ∧ drivers'.readers w = drivers.readers w ∧ calls = [[]] ∧
        ∃ errno, nb = .error errno) ∨
      count ≠ 0 ∧ ∃ before answers, calls = before ++ [answers] ∧
        (∀ a ∈ before, ∃ errno, a = [.error errno]) ∧
        Reader.Reads store world driver w (ctx w).mEnabled count (drivers.readers w) answers
          (drivers'.readers w) nb := by
  obtain ⟨v, hvirtual, -⟩ | ⟨driver', r, hdriver, -, hagain, rfl⟩ := readDriver_cases h
  · exact absurd (Option.some.inj (hw.symm.trans hvirtual)) hhw
  obtain rfl := Option.some.inj (hw.symm.trans hdriver)
  dsimp only
  rw [Function.update_self]
  by_cases hcount : count = 0
  · subst hcount
    obtain ⟨hsame, herror⟩ := Reader.readAgain_zero hagain
    exact Or.inl ⟨rfl, hsame, herror⟩
  · exact Or.inr ⟨hcount, Reader.reads_of_readAgain hcount hagain⟩

/-- What the manager makes of it: the readers are those of the driver, and the events are only
handed on of a sensor that is enabled. -/
theorem readEvents_inv {world : World F} {ctx : Contexts} {i count : ℕ}
    {drivers drivers' : Drivers F} {calls : List (List Fill)}
    {nb : Except ℕ (List (SensorsEvent F))}
    (h : dev.readEvents store world ctx i count drivers calls = some (drivers', nb)) :
    ∃ drivers₁ nb₁, dev.readDriver store world ctx i count drivers calls = some (drivers₁, nb₁) ∧
      drivers'.readers = drivers₁.readers ∧ nb = if (ctx i).enable then nb₁ else .ok [] := by
  obtain ⟨⟨drivers₁, nb₁⟩, hread, heq⟩ := Option.map_eq_some_iff.mp h
  obtain ⟨rfl, rfl⟩ := Prod.mk.inj heq
  refine ⟨drivers₁, nb₁, hread, ?_, rfl⟩
  cases nb₁ <;> rfl

end Device

/-! ## What a step hands over -/

/-- What a step hands over of what was read of `w`. -/
def readOf (w : ℕ) (e : Event (PollState F) (PollCall F) (PollOut F)) : List (SensorsEvent F) :=
  match e.pre.pc with
  | .reading i _ _ => if i = w then e.out.flatMap PollOut.handed else []
  | .idle | .scanning _ _ _ | .polling _ _ => []

/-- A step that hands over nothing. -/
theorem readOf_eq_nil {w : ℕ} {e : Event (PollState F) (PollCall F) (PollOut F)}
    (hout : ∀ o ∈ e.out, o.handed = []) : readOf w e = [] := by
  rw [readOf]
  split
  · split_ifs
    · exact List.flatMap_eq_nil_iff.mpr hout
    · rfl
  all_goals rfl

end OppoA37.Sensors
