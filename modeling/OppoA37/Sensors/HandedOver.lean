import OppoA37.Lib.Monitor
import OppoA37.Sensors.PollEvents

/-!
# What `pollEvents` returns of what was read

Whoever polls is to get every event that was read for it: what `pollEvents` returns is what
`readEvents` of the manager has handed over since it was called, and an error is returned only if
that is nothing. `gathered` is what was handed over, and `Returns` that it is returned.

The events are in the memory of the caller as soon as they were handed over, but when a sensor
cannot be read, or `poll` fails, the error is returned instead of their number:
`returned_iff` is exact about it.
-/

namespace OppoA37.Sensors

open Lts

universe u

variable {F : Type u} {dev : Device} {store : Driver → ℕ → ℤ → F → F} {s₀ s : PollState F}
  {h : List (Event (PollState F) (PollCall F) (PollOut F))}

/-! ## Reading fails -/

/-- The last call of a driver fails to read. -/
def failing (calls : List (List Fill)) : Bool := (calls.getLast?.bind List.head?).any Fill.isError

theorem failing_snoc (before : List (List Fill)) (answers : List Fill) :
    failing (before ++ [answers]) = answers.head?.any Fill.isError := by
  simp [failing]

namespace Device

variable (dev)

/-- The driver of `w` fails; one of a virtual sensor does if it is not enabled. -/
def DriverFails (ctx : Contexts) (w : ℕ) (calls : List (List Fill)) : Prop :=
  failing calls = true ∨ dev.driver w = some .virtual ∧ (ctx w).mEnabled = false

instance (ctx : Contexts) (w : ℕ) (calls : List (List Fill)) :
    Decidable (dev.DriverFails ctx w calls) := inferInstanceAs (Decidable (_ ∨ _))

/-- A sensor that is enabled cannot be read, or `poll` fails. -/
def fails (s : PollState F) : PollCall F → Bool
  | .read _ calls =>
    match s.pc with
    | .reading i _ _ => (s.ctx i).enable && decide (dev.DriverFails s.ctx i calls)
    | .idle | .scanning _ _ _ | .polling _ _ => false
  | .pollFailed errno => decide (errno ≠ EINTR)
  | .call _ _ | .flush _ _ | .poll _ | .check | .polled _ _ => false

variable {dev}

/-- The driver returns an error just if it fails. -/
theorem readDriver_error_iff {world : World F} {ctx : Contexts} {w count : ℕ}
    {drivers drivers' : Drivers F} {calls : List (List Fill)}
    {nb : Except ℕ (List (SensorsEvent F))} (hcount : count ≠ 0)
    (h : dev.readDriver store world ctx w count drivers calls = some (drivers', nb)) :
    (∃ errno, nb = .error errno) ↔ dev.DriverFails ctx w calls := by
  rw [DriverFails]
  obtain ⟨v, hdriver, rfl, hread, -⟩ | ⟨driver, r', hdriver, hvirtual, hagain, -⟩ :=
    readDriver_cases h
  · obtain rfl := congrArg Prod.snd hread
    rw [VirtualSensor.readEvents]
    split_ifs with hrefused
    · simpa [hdriver, failing] using hrefused.resolve_left (by omega)
    · have hon : (ctx w).mEnabled ≠ false := fun hoff => hrefused (Or.inr hoff)
      simp [hdriver, failing, hon]
  · obtain ⟨before, answers, rfl, -, hlast⟩ := Reader.readAgain_spec hcount hagain
    rw [hdriver, failing_snoc]
    rcases Reader.readEvents_cases hcount hlast with ⟨errno, rfl, rfl, -⟩ |
      ⟨rfl, -, -, data, rfl, -⟩ | ⟨events, rest, data, -, rfl, rfl, -⟩
    · simp [Fill.isError]
    · simp [hvirtual]
    · simp [Fill.isError, hvirtual]

/-- What the manager returns is an error just if the sensor is enabled and its driver fails. -/
theorem readEvents_error_iff {world : World F} {ctx : Contexts} {w count : ℕ}
    {drivers drivers' : Drivers F} {calls : List (List Fill)}
    {nb : Except ℕ (List (SensorsEvent F))} (hcount : count ≠ 0)
    (h : dev.readEvents store world ctx w count drivers calls = some (drivers', nb)) :
    (∃ errno, nb = .error errno) ↔ (ctx w).enable = true ∧ dev.DriverFails ctx w calls := by
  obtain ⟨⟨drivers₁, nb₁⟩, hread, heq⟩ := Option.map_eq_some_iff.mp h
  obtain ⟨-, rfl⟩ := Prod.mk.inj heq
  rw [← readDriver_error_iff hcount hread]
  by_cases henable : (ctx w).enable = true
  · simp [henable]
  · simp [henable]

end Device

/-! ## Runs -/

/-- The events of the call of `pollEvents` that is going on. -/
def PollPc.data : PollPc F → List (SensorsEvent F)
  | idle => []
  | scanning _ _ data | reading _ _ data | polling _ data => data

/-- What a callee hands over. -/
def PollOut.handed : PollOut F → List (SensorsEvent F)
  | handedOver data => data
  | answered _ | returned _ _ => []

/-- What was handed over since `pollEvents` was called last. -/
def gathered (v : List (SensorsEvent F)) (e : Event (PollState F) (PollCall F) (PollOut F)) :
    List (SensorsEvent F) :=
  match e.label with
  | .poll _ => []
  | .call _ _ | .flush _ _ | .check | .read _ _ | .pollFailed _ | .polled _ _ =>
    v ++ e.out.flatMap PollOut.handed

/-- When `pollEvents` returns, the caller gets what was handed over, and no error unless that is
nothing. -/
def Returns (v : List (SensorsEvent F)) (e : Event (PollState F) (PollCall F) (PollOut F)) :
    Prop :=
  ∀ ret data, .returned ret data ∈ e.out → data.take ret.toNat = v ∧ (ret < 0 → v = [])

/-- The memory of the caller holds what was handed over, and a sensor is only read with room. -/
def Holds (v : List (SensorsEvent F)) (s : PollState F) : Prop :=
  match s.pc with
  | .idle => True
  | .scanning _ _ data | .polling _ data => data = v
  | .reading _ count data => data = v ∧ count ≠ 0

/-- An error loses what was handed over. -/
theorem returns_failed {v data : List (SensorsEvent F)} {errno : ℕ} {pre post : PollState F}
    {l : PollCall F} :
    Returns v ⟨pre, l, [.returned (-(errno : ℤ)) data], post⟩ ↔ v = [] := by
  have htake : (-(errno : ℤ)).toNat = 0 := by omega
  constructor
  · intro hret
    have hdata := (hret _ data List.mem_cons_self).1
    rw [htake, List.take_zero] at hdata
    exact hdata.symm
  · rintro rfl ret data' hmem
    obtain ⟨rfl, rfl⟩ := PollOut.returned.inj (List.mem_singleton.mp hmem)
    rw [htake]
    exact ⟨rfl, fun _ => rfl⟩

/-- Their number loses nothing. -/
theorem returns_length (data : List (SensorsEvent F)) {pre post : PollState F} {l : PollCall F} :
    Returns data ⟨pre, l, [.returned data.length data], post⟩ := by
  intro ret data' hmem
  obtain ⟨rfl, rfl⟩ := PollOut.returned.inj (List.mem_singleton.mp hmem)
  exact ⟨by simp, fun hneg => absurd hneg (by omega)⟩

/-- **One step.** The memory of the caller goes on to hold what was handed over, and it is returned
just if nothing fails, or nothing was handed over. -/
theorem Holds.step {v : List (SensorsEvent F)}
    {e : Event (PollState F) (PollCall F) (PollOut F)} (hI : Holds v e.pre)
    (hs : (dev.polls store).step e.pre e.label = some (e.post, e.out)) :
    Holds (gathered v e) e.post ∧
      (Returns v e ↔ (dev.fails e.pre e.label = true → e.pre.pc.data = [])) := by
  obtain ⟨pre, l, out, post⟩ := e
  have hpolls : Polls dev store pre l post out := polls_of_step hs
  replace hI : Holds v pre := hI
  show Holds (gathered v ⟨pre, l, out, post⟩) post ∧
    (Returns v ⟨pre, l, out, post⟩ ↔ (dev.fails pre l = true → pre.pc.data = []))
  -- a step that returns nothing and does not fail
  have hquiet : (∀ ret data, .returned ret data ∉ out) → dev.fails pre l = false →
      (Returns v ⟨pre, l, out, post⟩ ↔ (dev.fails pre l = true → pre.pc.data = [])) := by
    intro hout hno
    constructor
    · exact fun _ hfails => absurd (hno.symm.trans hfails) Bool.false_ne_true
    · exact fun _ ret data hmem => absurd hmem (hout ret data)
  cases hpolls with
  | called call clkOffset ctx out hstep =>
    refine ⟨?_, hquiet (by simp) rfl⟩
    have hsame : (out.map PollOut.answered).flatMap PollOut.handed =
        ([] : List (SensorsEvent F)) := by
      simp [List.flatMap_map, PollOut.handed]
    simpa [gathered, hsame, Holds] using hI
  | flushed handle writes =>
    refine ⟨?_, hquiet (by simp) rfl⟩
    simpa [gathered, PollOut.handed, Holds] using hI
  | begins count hpc => exact ⟨rfl, hquiet (by simp) rfl⟩
  | visits i count data hpc hcount =>
    rw [Holds, hpc] at hI
    refine ⟨?_, hquiet (by simp) rfl⟩
    simpa [gathered, Holds] using And.intro hI hcount
  | passes i count data hpc hcount =>
    rw [Holds, hpc] at hI
    refine ⟨?_, hquiet (by simp) rfl⟩
    simpa [gathered, Holds] using hI
  | waits i count data hpc hcount =>
    rw [Holds, hpc] at hI
    refine ⟨?_, hquiet (by simp) rfl⟩
    simpa [gathered, Holds] using hI
  | full i data hpc =>
    rw [Holds, hpc] at hI
    obtain rfl : data = v := hI
    refine ⟨trivial, fun _ hfails => ?_, fun _ => returns_length data⟩
    cases hfails
  | fails world calls i count data hpc drivers errno hread =>
    rw [Holds, hpc] at hI
    obtain ⟨rfl, hcount⟩ := hI
    refine ⟨trivial, ?_⟩
    have hfails : dev.fails pre (.read world calls) = true := by
      simp only [Device.fails, hpc, Bool.and_eq_true, decide_eq_true_eq]
      exact (Device.readEvents_error_iff hcount hread).mp ⟨errno, rfl⟩
    rw [returns_failed, hpc, imp_iff_right hfails, PollPc.data]
  | reads world calls i count data hpc drivers new hread =>
    rw [Holds, hpc] at hI
    obtain ⟨rfl, hcount⟩ := hI
    refine ⟨?_, hquiet (by simp) ?_⟩
    · simp [gathered, PollOut.handed, Holds]
    · refine Bool.eq_false_of_not_eq_true fun hfails => ?_
      simp only [Device.fails, hpc, Bool.and_eq_true, decide_eq_true_eq] at hfails
      obtain ⟨errno, herror⟩ := (Device.readEvents_error_iff hcount hread).mpr hfails
      cases herror
  | interrupted count data hpc =>
    refine ⟨?_, hquiet (by simp) rfl⟩
    simpa [gathered] using hI
  | pollFails errno hne count data hpc =>
    rw [Holds, hpc] at hI
    obtain rfl : data = v := hI
    refine ⟨trivial, ?_⟩
    have hfails : dev.fails pre (.pollFailed errno) = true := decide_eq_true hne
    rw [returns_failed, hpc, imp_iff_right hfails, PollPc.data]
  | timesOut ready count data hpc =>
    rw [Holds, hpc] at hI
    obtain rfl : data = v := hI
    refine ⟨trivial, fun _ hfails => ?_, fun _ => returns_length data⟩
    cases hfails
  | ready n ready count data hpc revents =>
    rw [Holds, hpc] at hI
    refine ⟨?_, hquiet (by simp) rfl⟩
    simpa [gathered, Holds] using hI

/-- **The runs in which no event is lost**, of those that were handed over, are those in which a
sensor that is enabled cannot be read, or `poll` fails, only while there are none. -/
theorem returned_iff (hstart : dev.Started s₀) (hrun : Run (dev.polls store) s₀ h s) :
    (∀ e ∈ h, dev.fails e.pre e.label = true → e.pre.pc.data = []) ↔
      Watched gathered [] Returns h := by
  refine Run.watched_iff Holds (fun _ _ => True)
    (fun s l => dev.fails s l = true → s.pc.data = []) ?_ ?_ ?_ hrun fun _ _ => trivial
  · rw [Holds, hstart.pc]
    trivial
  · intro v e hI _ hok hs
    obtain ⟨hI', hiff⟩ := hI.step hs
    exact ⟨hI', hiff.mpr hok⟩
  · intro v e hI _ hno hs hret
    exact hno ((hI.step hs).2.mp hret)

/-- A proximity sensor and an accelerometer. -/
def twoSensors : Device :=
  .found [⟨.proximity, false, 0, 0⟩, ⟨.accelerometer, false, 10000, 0⟩] fun _ => false

/-- The values of `twoSensors` are the numbers that were read. -/
def asRead (_ : Driver) (_ : ℕ) (value _ : ℤ) : ℤ := value

/-- Nothing of interest happens outside. -/
def quietWorld : World ℤ where
  now := 0
  calibrated _ data := data
  converted _ _ := none
  behind := .flushComplete 0 0

/-- The driver of the proximity sensor is interrupted, reads an event when it is called again, and
the event is returned. -/
theorem returned_once :
    ∃ h s, Run (twoSensors.polls asRead) (twoSensors.pollStart (fun _ => true) 0) h s ∧
      h.map Event.label = [.call (.activate 0 true fun _ => true) 0, .poll 8, .check, .check,
        .check, .polled 1 [0], .check,
        .read quietWorld [[.error EAGAIN], [.ok [.abs 25 5, .synReport 1000]]], .check, .check,
        .polled 0 []] ∧
      h.getLast?.map Event.out = some [.returned 1 [.sample 0 1000 5]] ∧
      Watched gathered [] Returns h := by
  obtain ⟨h, s, hrun, hl, hcheck⟩ := (twoSensors.polls asRead).exists_run
    (twoSensors.pollStart (fun _ => true) 0)
    [.call (.activate 0 true fun _ => true) 0, .poll 8, .check, .check, .check, .polled 1 [0],
      .check, .read quietWorld [[.error EAGAIN], [.ok [.abs 25 5, .synReport 1000]]], .check,
      .check, .polled 0 []]
    (fun h _ => decide (h.getLast?.map Event.out = some [.returned 1 [.sample 0 1000 5]]) &&
      h.all fun e => decide (twoSensors.fails e.pre e.label = true → e.pre.pc.data = []))
    (by decide +kernel)
  obtain ⟨hout, hcheck⟩ := Bool.and_eq_true_iff.mp hcheck
  refine ⟨h, s, hrun, hl, of_decide_eq_true hout, ?_⟩
  refine (returned_iff (twoSensors.started_pollStart _ _) hrun).mp fun e he => ?_
  exact of_decide_eq_true (List.all_eq_true.mp hcheck e he)

/-- The proximity sensor is read, and then the accelerometer cannot be: the device is gone
(`ENODEV`). What was read is lost. -/
theorem lost_event :
    ∃ h e, Run (twoSensors.polls asRead) (twoSensors.pollStart (fun _ => true) 0) (h ++ [e])
        e.post ∧
      h.map Event.label = [.call (.activate 0 true fun _ => true) 0,
        .call (.activate 1 true fun _ => true) 0, .poll 8, .check, .check, .check,
        .polled 2 [0, 1], .check, .read quietWorld [[.ok [.abs 25 5, .synReport 1000]]],
        .check] ∧
      e.label = .read quietWorld [[.error 19]] ∧
      watch gathered [] h = [.sample 0 1000 5] ∧ e.out = [.returned (-19) [.sample 0 1000 5]] ∧
      ¬ Watched gathered [] Returns (h ++ [e]) := by
  obtain ⟨h, e, hrun, hl, he, hcheck⟩ := (twoSensors.polls asRead).exists_run_last
    (twoSensors.pollStart (fun _ => true) 0)
    [.call (.activate 0 true fun _ => true) 0, .call (.activate 1 true fun _ => true) 0, .poll 8,
      .check, .check, .check, .polled 2 [0, 1], .check,
      .read quietWorld [[.ok [.abs 25 5, .synReport 1000]]], .check]
    (.read quietWorld [[.error 19]])
    (fun h e => decide (watch gathered [] h = [.sample 0 1000 5]) &&
      decide (e.out = [.returned (-19) [.sample 0 1000 5]]))
    (by decide +kernel)
  obtain ⟨hview, hout⟩ := Bool.and_eq_true_iff.mp hcheck
  have hview := of_decide_eq_true hview
  have hout := of_decide_eq_true hout
  refine ⟨h, e, hrun, hl, he, hview, hout, fun hall => ?_⟩
  have hret := hall h e [] rfl (-19) [.sample 0 1000 5] (by rw [hout]; exact List.mem_cons_self)
  rw [hview] at hret
  exact List.cons_ne_nil _ _ (hret.2 (by omega))

end OppoA37.Sensors
