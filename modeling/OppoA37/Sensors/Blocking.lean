import OppoA37.Sensors.HandedOver

/-!
# When `pollEvents` waits

`pollEvents` is not to wait for a device while a ring still holds a complete event of it, one that
ends with its `SYN_REPORT`. A sensor is read again only after the device has become ready again,
because its `revents` are cleared even when there was no room for all of its events: the
comparison with the room is `<=`, and what is read is never more than the room.

So what matters is that a ring is never left with a complete event, and it is not as long as there
is room for all that a sensor makes of its ring and of what is read into it: `completes` counts
these events, and `quiet_run` is the run lemma.
-/

namespace OppoA37.Sensors

open Lts

universe u

variable {F : Type u} {dev : Device} {store : Driver → ℕ → ℤ → F → F} {s₀ s : PollState F}
  {h : List (Event (PollState F) (PollCall F) (PollOut F))}

/-! ## Complete events -/

/-- `mAbsEventReceived` after an input event -/
def receives (driver : Driver) (absEventReceived : Bool) : InputEvent → Bool
  | .abs _ _ => absEventReceived || decide (driver = .accel)
  | .synTimeSec _ | .synTimeNsec _ | .synReport _ | .other => absEventReceived

/-- How many events for the caller a driver makes of input events. -/
def completes (driver : Driver) (mEnabled : Bool) : Bool → List InputEvent → ℕ
  | _, [] => 0
  | absEventReceived, event :: events =>
    (if Reader.reports driver mEnabled absEventReceived event then 1 else 0) +
      completes driver mEnabled (receives driver absEventReceived event) events

/-- There is no complete event. -/
def Quiet (events : List InputEvent) : Prop := ∀ event ∈ events, event.isReport = false

/-- The driver reports whatever is complete. -/
def ReportsAll (driver : Driver) (mEnabled absEventReceived : Bool) : Prop :=
  mEnabled = true ∧ (driver ≠ .accel ∨ absEventReceived = true)

section Complete

variable {driver : Driver} {mEnabled absEventReceived : Bool}

theorem completes_append (l₁ l₂ : List InputEvent) :
    completes driver mEnabled absEventReceived (l₁ ++ l₂) =
      completes driver mEnabled absEventReceived l₁ +
        completes driver mEnabled (l₁.foldl (receives driver) absEventReceived) l₂ := by
  induction l₁ generalizing absEventReceived with
  | nil => simp [completes]
  | cons event l₁ ih => rw [List.cons_append, completes, completes, ih, List.foldl_cons, add_assoc]

theorem reports_iff {event : InputEvent} :
    Reader.reports driver mEnabled absEventReceived event = true ↔
      event.isReport = true ∧ ReportsAll driver mEnabled absEventReceived := by
  simp [Reader.reports, ReportsAll, and_assoc]

/-- Once everything is reported, it stays so. -/
theorem ReportsAll.receives (hall : ReportsAll driver mEnabled absEventReceived)
    (event : InputEvent) :
    ReportsAll driver mEnabled (receives driver absEventReceived event) := by
  refine ⟨hall.1, hall.2.imp id fun habs => ?_⟩
  cases event <;> simp [Sensors.receives, habs]

/-- Then only what is not complete makes no event. -/
theorem ReportsAll.quiet {events : List InputEvent}
    (hall : ReportsAll driver mEnabled absEventReceived)
    (hnone : completes driver mEnabled absEventReceived events = 0) : Quiet events := by
  induction events generalizing absEventReceived with
  | nil => simp [Quiet]
  | cons event events ih =>
    rw [completes, Nat.add_eq_zero_iff] at hnone
    obtain ⟨hfirst, hrest⟩ := hnone
    intro event' hmem
    rcases List.mem_cons.mp hmem with rfl | hmem
    · refine Bool.eq_false_of_not_eq_true fun hreport => ?_
      rw [if_pos (reports_iff.mpr ⟨hreport, hall⟩)] at hfirst
      cases hfirst
    · exact ih (hall.receives event) hrest event' hmem

end Complete

/-! ## The loop over the ring -/

namespace Reader

variable {world : World F} {driver : Driver} {sensor : ℕ} {mEnabled : Bool}

theorem absEventReceived_next (store : Driver → ℕ → ℤ → F → F) (driver : Driver) (r : Reader F)
    (hne : r.ring.available ≠ 0) :
    (r.next store driver hne).absEventReceived =
      receives driver r.absEventReceived (r.ring.buffer r.ring.curr) := by
  rw [next]
  cases r.ring.buffer r.ring.curr <;> rfl

theorem contents_next (store : Driver → ℕ → ℤ → F → F) (driver : Driver) (r : Reader F)
    (hne : r.ring.available ≠ 0) :
    r.ring.contents = r.ring.buffer r.ring.curr :: (r.next store driver hne).ring.contents :=
  r.ring.contents_eq hne

/-- What the loop over the ring does. -/
structure Drained (driver : Driver) (mEnabled : Bool) (count : ℕ) (r : Reader F)
    (drained : Reader F × List (SensorsEvent F)) : Prop where
  length_le : drained.2.length ≤ count
  /-- with room for all of them, no complete event is left -/
  quiet : (count = 0 → ReportsAll driver mEnabled r.absEventReceived) →
    completes driver mEnabled r.absEventReceived r.ring.contents ≤ count →
    Quiet drained.1.ring.contents
  /-- if there was none, nothing at all is left -/
  nothing : count ≠ 0 → drained.2 = [] → drained.1.ring.contents = [] ∧
    completes driver mEnabled r.absEventReceived r.ring.contents = 0 ∧
    drained.1.absEventReceived = r.ring.contents.foldl (receives driver) r.absEventReceived

theorem drained (n count : ℕ) (r : Reader F) (hn : r.ring.available ≤ n) :
    Drained driver mEnabled count r
      (drain store world driver sensor mEnabled n count r) := by
  -- a ring that is empty
  have hempty : ∀ {count : ℕ} {r : Reader F}, r.ring.available = 0 →
      Drained driver mEnabled count r (r, []) := by
    intro count r havail
    have hnil : r.ring.contents = [] := by
      rw [← List.length_eq_zero_iff, InputEventCircularReader.length_contents, havail]
    refine ⟨Nat.zero_le _, fun _ _ => ?_, fun _ _ => ?_⟩
    · simp [Quiet, hnil]
    · simp [hnil, completes]
  induction n generalizing count r with
  | zero => exact hempty (Nat.le_zero.mp hn)
  | succ n ih =>
    by_cases hne : count ≠ 0 ∧ r.ring.available ≠ 0
    · obtain ⟨hcount, havail⟩ := hne
      have hcontents := contents_next store driver r havail
      have habs := absEventReceived_next store driver r havail
      have hn' : (r.next store driver havail).ring.available ≤ n := by
        rw [next, InputEventCircularReader.available_next]
        omega
      have hcompletes : completes driver mEnabled r.absEventReceived r.ring.contents =
          (if reports driver mEnabled r.absEventReceived (r.ring.buffer r.ring.curr) then 1 else 0)
            + completes driver mEnabled (r.next store driver havail).absEventReceived
              (r.next store driver havail).ring.contents := by
        rw [hcontents, completes, ← habs]
      rw [drain, dif_pos ⟨hcount, havail⟩]
      by_cases hreports : reports driver mEnabled r.absEventReceived (r.ring.buffer r.ring.curr)
      · -- an event for the caller, and less room
        obtain ⟨hlength, hquiet, -⟩ := ih (count - 1) (r.next store driver havail) hn'
        rw [if_pos hreports] at hcompletes ⊢
        refine ⟨?_, fun _ hfits => hquiet (fun _ => ?_) (by omega), fun _ hnil => ?_⟩
        · rw [List.length_cons]
          omega
        · rw [habs]
          exact (reports_iff.mp hreports).2.receives _
        · cases hnil
      · obtain ⟨hlength, hquiet, hnothing⟩ := ih count (r.next store driver havail) hn'
        rw [if_neg hreports, zero_add] at hcompletes
        rw [if_neg hreports]
        refine ⟨hlength, fun _ hfits => hquiet (fun hno => absurd hno hcount) (by omega),
          fun _ hnil => ?_⟩
        rw [hcompletes, hcontents, List.foldl_cons, ← habs]
        exact hnothing hcount hnil
    · rw [drain, dif_neg hne]
      by_cases havail : r.ring.available = 0
      · exact hempty havail
      · -- no room: what is left makes no event
        have hcount : count = 0 := by
          by_contra hcount
          exact hne ⟨hcount, havail⟩
        refine ⟨Nat.zero_le _, fun hall hfits => ?_, fun hno => absurd hcount hno⟩
        rw [hcount, Nat.le_zero] at hfits
        exact (hall hcount).quiet hfits

/-! ## Reading -/

variable {r r' : Reader F} {count : ℕ}

/-- `fetch` leaves no complete event if there is room for all of them. -/
theorem fetch_spec {answers : List Fill} {data : List (SensorsEvent F)} (hcount : count ≠ 0)
    (h : fetch store world driver sensor mEnabled count r answers = some (r', data)) :
    data.length ≤ count ∧
      (completes driver mEnabled r.absEventReceived
        (r.ring.contents ++ answers.flatMap Fill.events) ≤ count → Quiet r'.ring.contents) := by
  induction answers generalizing r with
  | nil =>
    have hdrained : Drained driver mEnabled count r
        (drain store world driver sensor mEnabled r.ring.available count r) :=
      drained r.ring.available count r le_rfl
    rw [fetch.eq_def] at h
    dsimp only at h
    split_ifs at h
    rw [Option.some.inj h] at hdrained
    refine ⟨hdrained.length_le, fun hfits => hdrained.quiet (fun hno => absurd hno hcount) ?_⟩
    simpa using hfits
  | cons answer answers ih =>
    have hdrained : Drained driver mEnabled count r
        (drain store world driver sensor mEnabled r.ring.available count r) :=
      drained r.ring.available count r le_rfl
    rw [fetch.eq_def] at h
    dsimp only at h
    generalize drain store world driver sensor mEnabled r.ring.available count r = d at hdrained h
    by_cases hagain : d.2.isEmpty = true ∧ (driver = .accel ∨ driver = .compass) ∧ mEnabled = true
    swap
    · rw [if_neg hagain, if_neg (List.cons_ne_nil _ _)] at h
      cases h
    rw [if_pos hagain] at h
    -- the ring is empty, so it is all about what is read now
    obtain ⟨hnil, hzero, habs⟩ := hdrained.nothing hcount (List.isEmpty_iff.mp hagain.1)
    have hrest : ∀ events : List InputEvent, completes driver mEnabled r.absEventReceived
        (r.ring.contents ++ events) = completes driver mEnabled d.1.absEventReceived events := by
      intro events
      rw [completes_append, hzero, zero_add, habs]
    rw [hrest, List.flatMap_cons]
    cases answer with
    | error errno =>
      obtain ⟨hlength, hquiet⟩ := ih h
      rw [hnil] at hquiet
      exact ⟨hlength, hquiet⟩
    | ok events =>
      dsimp only at h
      split_ifs at h with hfree hnothing
      · -- nothing was read
        obtain rfl : d = (r', data) := Option.some.inj h
        refine ⟨hdrained.length_le, fun _ => ?_⟩
        rw [hnil]
        simp [Quiet]
      · obtain ⟨hlength, hquiet⟩ := ih h
        rw [InputEventCircularReader.contents_fill, hnil] at hquiet
        exact ⟨hlength, hquiet⟩

/-- `readEvents` of a driver leaves no complete event if there is room for all of them. -/
theorem readEvents_spec {answers : List Fill} {nb : Except ℕ (List (SensorsEvent F))}
    (hcount : count ≠ 0)
    (h : r.readEvents store world driver sensor mEnabled count answers = some (r', nb)) :
    (∀ data, nb = .ok data → data.length ≤ count) ∧
      (Quiet r.ring.contents → completes driver mEnabled r.absEventReceived
        (r.ring.contents ++ answers.flatMap Fill.events) ≤ count → Quiet r'.ring.contents) := by
  rcases readEvents_cases hcount h with ⟨errno, rfl, rfl, rfl⟩ |
    ⟨rfl, hring, -, data, rfl, hone⟩ | ⟨events, rest, data, hfree, rfl, rfl, hfetch⟩
  · exact ⟨fun _ hno => (by cases hno), fun hquiet _ => hquiet⟩
  · refine ⟨fun data' heq => ?_, fun hquiet _ => hring ▸ hquiet⟩
    obtain rfl := Except.ok.inj heq
    omega
  · obtain ⟨hlength, hquiet⟩ := fetch_spec hcount hfetch
    rw [InputEventCircularReader.contents_fill, List.append_assoc] at hquiet
    refine ⟨fun data' heq => ?_, fun _ => hquiet⟩
    obtain rfl := Except.ok.inj heq
    exact hlength

/-- The same for the loop of the manager. -/
theorem readAgain_quiet {calls : List (List Fill)} {nb : Except ℕ (List (SensorsEvent F))}
    (hcount : count ≠ 0)
    (h : readAgain store world driver sensor mEnabled count r calls = some (r', nb)) :
    (∀ data, nb = .ok data → data.length ≤ count) ∧
      (Quiet r.ring.contents → completes driver mEnabled r.absEventReceived
        (r.ring.contents ++ calls.flatten.flatMap Fill.events) ≤ count →
        Quiet r'.ring.contents) := by
  obtain ⟨before, answers, rfl, hbefore, hlast⟩ := readAgain_spec hcount h
  -- the calls that are passed over have read nothing
  have hnothing : before.flatten.flatMap Fill.events = [] := by
    rw [List.flatMap_eq_nil_iff]
    intro answer hmem
    obtain ⟨a, ha, hanswer⟩ := List.mem_flatten.mp hmem
    obtain ⟨errno, rfl⟩ := hbefore a ha
    obtain rfl := List.mem_singleton.mp hanswer
    rfl
  rw [List.flatten_append, List.flatten_singleton, List.flatMap_append, hnothing,
    List.nil_append]
  exact readEvents_spec hcount hlast

end Reader

/-! ## The manager -/

/-- No ring holds a complete event. -/
def Drivers.Quiet (drivers : Drivers F) : Prop :=
  ∀ w, Sensors.Quiet (drivers.readers w).ring.contents

namespace Device

/-- There is room for all that a sensor makes of its ring and of what is read into it. -/
def fits (dev : Device) (s : PollState F) : PollCall F → Bool
  | .read _ calls =>
    match s.pc with
    | .reading i count _ =>
      let r := s.drivers.readers i
      (dev.driver i).all fun driver => decide (completes driver (s.ctx i).mEnabled
        r.absEventReceived (r.ring.contents ++ calls.flatten.flatMap Fill.events) ≤ count)
    | .idle | .scanning _ _ _ | .polling _ _ => true
  | .call _ _ | .flush _ _ | .poll _ | .check | .pollFailed _ | .polled _ _ => true

variable {world : World F} {ctx ctx' : Contexts} {w count : ℕ} {drivers drivers' : Drivers F}

/-- The driver of `w` changes its own ring only, and leaves no complete event in it if there is
room for all of them. -/
theorem readDriver_quiet {calls : List (List Fill)} {nb : Except ℕ (List (SensorsEvent F))}
    (hcount : count ≠ 0) (hquiet : drivers.Quiet)
    (hfits : ∀ driver, dev.driver w = some driver → completes driver (ctx w).mEnabled
      (drivers.readers w).absEventReceived
      ((drivers.readers w).ring.contents ++ calls.flatten.flatMap Fill.events) ≤ count)
    (h : dev.readDriver store world ctx w count drivers calls = some (drivers', nb)) :
    drivers'.Quiet := by
  obtain ⟨v, -, -, -, rfl⟩ | ⟨driver, r', hdriver, -, hread, rfl⟩ := readDriver_cases h
  · exact hquiet
  · intro u
    dsimp only
    by_cases hu : u = w
    · subst hu
      rw [Function.update_self]
      exact (Reader.readAgain_quiet hcount hread).2 (hquiet u) (hfits driver hdriver)
    · rw [Function.update_of_ne hu]
      exact hquiet u

/-- What is read is never more than the room. -/
theorem length_le_of_readEvents {calls : List (List Fill)} {data : List (SensorsEvent F)}
    (hcount : count ≠ 0)
    (h : dev.readEvents store world ctx w count drivers calls = some (drivers', .ok data)) :
    data.length ≤ count := by
  obtain ⟨⟨drivers₁, nb⟩, hread, heq⟩ := Option.map_eq_some_iff.mp h
  obtain ⟨-, hnb⟩ := Prod.mk.inj heq
  dsimp only at hnb
  split_ifs at hnb
  · subst hnb
    obtain ⟨v, -, -, hdata, -⟩ | ⟨driver, r', -, -, hagain, -⟩ := readDriver_cases hread
    · replace hdata := congrArg Prod.snd hdata
      rw [VirtualSensor.readEvents] at hdata
      split_ifs at hdata
      all_goals
        obtain rfl := Except.ok.inj hdata
        simp only [List.length_append, List.length_take, List.length_cons, List.length_nil]
        split_ifs <;> simp only [List.length_cons, List.length_nil] at * <;> omega
    · exact (Reader.readAgain_quiet hcount hagain).1 data rfl
  · obtain rfl := Except.ok.inj hnb
    exact Nat.zero_le _

/-- Calls of other threads leave the rings alone. -/
theorem callDrivers_quiet {call : Call} {clkOffset : ℤ} (hquiet : drivers.Quiet) :
    (dev.callDrivers call clkOffset ctx ctx' drivers).Quiet := by
  intro u
  have hring : ((dev.callDrivers call clkOffset ctx ctx' drivers).readers u).ring =
      (drivers.readers u).ring := by
    simp only [callDrivers]
    split_ifs <;> rfl
  rw [hring]
  exact hquiet u

theorem flush_quiet {writes : Bool} (hquiet : drivers.Quiet) :
    (dev.flush ctx drivers w writes).1.Quiet := by
  intro u
  have hring : ((dev.flush ctx drivers w writes).1.readers u).ring =
      (drivers.readers u).ring := by
    rw [flush]
    cases dev.sensors[w]? with
    | none => rfl
    | some info =>
      dsimp only
      split_ifs
      · rfl
      · rfl
      · rfl
      · by_cases hu : u = w
        · subst hu
          simp only [Function.update_self]
        · simp only [Function.update_of_ne hu]
  rw [hring]
  exact hquiet u

end Device

/-- So the comparison with the room always holds: a sensor that was read is not ready any more,
whatever is left in its ring. -/
theorem not_ready_of_read {s' : PollState F} {world : World F} {calls : List (List Fill)}
    {i count : ℕ} {data : List (SensorsEvent F)} {out : List (PollOut F)} (hcount : count ≠ 0)
    (hpc : s.pc = .reading i count data) (hgoes : s'.pc ≠ .idle)
    (hs : (dev.polls store).step s (.read world calls) = some (s', out)) :
    s'.revents i = false := by
  have hpolls : Polls dev store s (.read world calls) s' out := polls_of_step hs
  cases hpolls with
  | fails => exact absurd rfl hgoes
  | reads _ _ i' count' data' hpc' drivers new hread =>
    obtain ⟨rfl, rfl, -⟩ := PollPc.reading.inj (hpc.symm.trans hpc')
    dsimp only
    rw [if_pos (Device.length_le_of_readEvents hcount hread), Function.update_self]

/-! ## Runs -/

/-- No ring holds a complete event, and a sensor is only read with room. -/
structure NothingLeft (s : PollState F) : Prop where
  quiet : s.drivers.Quiet
  room : ∀ i count data, s.pc = .reading i count data → count ≠ 0

/-- **One step.** With room for all events, none is left in a ring. -/
theorem NothingLeft.step {s' : PollState F} {l : PollCall F} {out : List (PollOut F)}
    (hI : NothingLeft s) (hfits : dev.fits s l = true)
    (hs : (dev.polls store).step s l = some (s', out)) : NothingLeft s' := by
  obtain ⟨hquiet, hroom⟩ := hI
  have hreads : ∀ {world : World F} {calls : List (List Fill)} {i count : ℕ}
      {data : List (SensorsEvent F)} {drivers : Drivers F}
      {nb : Except ℕ (List (SensorsEvent F))}, s.pc = .reading i count data →
      dev.fits s (.read world calls) = true →
      dev.readEvents store world s.ctx i count s.drivers calls = some (drivers, nb) →
      drivers.Quiet := by
    intro world calls i count data drivers nb hpc hfits hread
    obtain ⟨⟨drivers₁, nb₁⟩, hdriver, heq⟩ := Option.map_eq_some_iff.mp hread
    obtain ⟨rfl, -⟩ := Prod.mk.inj heq
    simp only [Device.fits, hpc, Option.all_eq_true, decide_eq_true_eq] at hfits
    have hquiet₁ : drivers₁.Quiet :=
      Device.readDriver_quiet (hroom i count data hpc) hquiet hfits hdriver
    cases nb₁ <;> exact hquiet₁
  have hpolls : Polls dev store s l s' out := polls_of_step hs
  cases hpolls with
  | called call clkOffset ctx out hstep => exact ⟨Device.callDrivers_quiet hquiet, hroom⟩
  | flushed handle writes => exact ⟨Device.flush_quiet hquiet, hroom⟩
  | visits i count data hpc hcount =>
    refine ⟨hquiet, fun i' count' data' heq => ?_⟩
    obtain ⟨-, rfl, -⟩ := PollPc.reading.inj heq
    exact hcount
  | fails world calls i count data hpc drivers errno hread =>
    exact ⟨hreads hpc hfits hread, fun _ _ _ hno => (by cases hno)⟩
  | reads world calls i count data hpc drivers new hread =>
    exact ⟨hreads hpc hfits hread, fun _ _ _ hno => (by cases hno)⟩
  | interrupted count data hpc => exact ⟨hquiet, hroom⟩
  | _ => exact ⟨hquiet, fun _ _ _ hno => (by cases hno)⟩

/-- No event is left in a ring in a run in which there is always room for all of them. -/
theorem nothingLeft_run (hstart : dev.Started s₀) (hrun : Run (dev.polls store) s₀ h s)
    (hfits : ∀ e ∈ h, dev.fits e.pre e.label = true) : NothingLeft s := by
  refine Run.invariant_of NothingLeft (fun s l => dev.fits s l = true) ⟨fun w => ?_, ?_⟩
    (fun s l s' out hI hok hs => hI.step hok hs) hrun hfits
  · rw [hstart.ring w]
    simp [Quiet]
  · intro i count data hpc
    rw [hstart.pc] at hpc
    cases hpc

/-- **A run in which there is always room** for all that a sensor makes of its ring and of what is
read into it never waits for the devices while the ring of a sensor that is enabled holds a
complete event. -/
theorem quiet_run (hstart : dev.Started s₀) (hrun : Run (dev.polls store) s₀ h s)
    (hfits : ∀ e ∈ h, dev.fits e.pre e.label = true) :
    ∀ e ∈ h, ∀ count, e.post.pc = .polling count [] → ∀ w, (e.post.ctx w).enable = true →
      Quiet (e.post.drivers.readers w).ring.contents := by
  intro e he count _ w _
  obtain ⟨h₁, h₂, rfl⟩ := List.append_of_mem he
  obtain ⟨hpre, hs, -⟩ := Run.event hrun
  refine (nothingLeft_run hstart (Run.snoc hpre hs) fun e' he' => hfits e' ?_).quiet w
  rcases List.mem_append.mp he' with he' | he'
  · exact List.mem_append_left _ he'
  · rw [List.mem_singleton.mp he']
    exact he

/-- Two events of the proximity sensor are read at once with room for two, and then the caller
polls again. -/
theorem quiet_twice :
    ∃ h s, Run (twoSensors.polls asRead) (twoSensors.pollStart (fun _ => true) 0) h s ∧
      h.map Event.label = [.call (.activate 0 true fun _ => true) 0, .poll 2, .check, .check,
        .check, .polled 1 [0], .check,
        .read quietWorld [[.ok [.abs 25 5, .synReport 1000, .abs 25 0, .synReport 2000]]],
        .check, .poll 2, .check, .check, .check] ∧
      s.pc = .polling 2 [] ∧ (s.ctx 0).enable = true ∧
      ∀ e ∈ h, ∀ count, e.post.pc = .polling count [] → ∀ w, (e.post.ctx w).enable = true →
        Quiet (e.post.drivers.readers w).ring.contents := by
  obtain ⟨h, s, hrun, hl, hcheck⟩ := (twoSensors.polls asRead).exists_run
    (twoSensors.pollStart (fun _ => true) 0)
    [.call (.activate 0 true fun _ => true) 0, .poll 2, .check, .check, .check, .polled 1 [0],
      .check, .read quietWorld [[.ok [.abs 25 5, .synReport 1000, .abs 25 0, .synReport 2000]]],
      .check, .poll 2, .check, .check, .check]
    (fun h s => decide (s.pc = .polling 2 [] ∧ (s.ctx 0).enable = true) &&
      h.all fun e => twoSensors.fits e.pre e.label) (by decide +kernel)
  obtain ⟨hend, hcheck⟩ := Bool.and_eq_true_iff.mp hcheck
  obtain ⟨hpc, henable⟩ := of_decide_eq_true hend
  refine ⟨h, s, hrun, hl, hpc, henable, ?_⟩
  exact quiet_run (twoSensors.started_pollStart _ _) hrun (List.all_eq_true.mp hcheck)

/-- Two events of the proximity sensor are read at once with room for one, and then the caller
polls again: `pollEvents` waits for the devices while it holds the second. -/
theorem waits_with_event :
    ∃ h e, Run (twoSensors.polls asRead) (twoSensors.pollStart (fun _ => true) 0) (h ++ [e])
        e.post ∧
      h.map Event.label = [.call (.activate 0 true fun _ => true) 0, .poll 1, .check, .check,
        .check, .polled 1 [0], .check,
        .read quietWorld [[.ok [.abs 25 5, .synReport 1000, .abs 25 0, .synReport 2000]]],
        .check, .poll 1, .check, .check] ∧
      e.label = .check ∧ e.post.pc = .polling 1 [] ∧ (e.post.ctx 0).enable = true ∧
      (e.post.drivers.readers 0).ring.contents = [.abs 25 0, .synReport 2000] ∧
      ¬ Quiet (e.post.drivers.readers 0).ring.contents := by
  obtain ⟨h, e, hrun, hl, he, hcheck⟩ := (twoSensors.polls asRead).exists_run_last
    (twoSensors.pollStart (fun _ => true) 0)
    [.call (.activate 0 true fun _ => true) 0, .poll 1, .check, .check, .check, .polled 1 [0],
      .check, .read quietWorld [[.ok [.abs 25 5, .synReport 1000, .abs 25 0, .synReport 2000]]],
      .check, .poll 1, .check, .check] .check
    (fun _ e => decide (e.post.pc = .polling 1 [] ∧ (e.post.ctx 0).enable = true ∧
      (e.post.drivers.readers 0).ring.contents = [.abs 25 0, .synReport 2000]))
    (by decide +kernel)
  obtain ⟨hpc, henable, hring⟩ := of_decide_eq_true hcheck
  refine ⟨h, e, hrun, hl, he, hpc, henable, hring, fun hquiet => ?_⟩
  have hreport := hquiet (.synReport 2000) (by rw [hring]; simp)
  cases hreport

end OppoA37.Sensors
