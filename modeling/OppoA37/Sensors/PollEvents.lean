import OppoA37.Sensors.ReadEvents

/-!
# `pollEvents` of `sensors.cpp`

One thread polls the device. `pollEvents` reads all sensors that have become ready or have pending
events, one after the other and as long as there is room, and then polls: it waits if it has
nothing yet, and else only looks whether there is more. In between, other threads call the rest of
the interface; the lock keeps them out while a sensor is read.

A step of the machine is a turn of one of the two loops, or a call of another thread. What the
drivers, the algorithms and `poll` answer is in the label; a driver that is `NULL` is a step that
the machine refuses.
-/

namespace OppoA37.Sensors

open Lts

universe u

variable {F : Type u}

/-- Where the polling thread is, with the room that is left and the events so far. -/
inductive PollPc (F : Type u) where
  /-- outside `pollEvents` -/
  | idle
  /-- at the head of the `for` loop -/
  | scanning (i count : ℕ) (data : List (SensorsEvent F))
  /-- before it takes the lock -/
  | reading (i count : ℕ) (data : List (SensorsEvent F))
  /-- in `poll` -/
  | polling (count : ℕ) (data : List (SensorsEvent F))
  deriving DecidableEq, Repr

/-- The state of the device. -/
structure PollState (F : Type u) where
  /-- the contexts -/
  ctx : Contexts
  /-- the drivers -/
  drivers : Drivers F
  /-- `mPollFds[i].revents & POLLIN` -/
  revents : ℕ → Bool
  /-- where the polling thread is -/
  pc : PollPc F

/-- What happens. -/
inductive PollCall (F : Type u) where
  /-- a call of another thread; `clkOffset` is what `getClkOffset` answers -/
  | call (call : Call) (clkOffset : ℤ)
  /-- `flush`; `writes` says whether the sysfs file can be written -/
  | flush (handle : ℕ) (writes : Bool)
  /-- `pollEvents` is called -/
  | poll (count : ℕ)
  /-- the `if` at the start of a turn of the `for` loop, or its end -/
  | check
  /-- a sensor is read -/
  | read (world : World F) (calls : List (List Fill))
  /-- `poll` fails -/
  | pollFailed (errno : ℕ)
  /-- `poll` returns `n` -/
  | polled (n : ℕ) (ready : List ℕ)

/-- What the callers see. -/
inductive PollOut (F : Type u) where
  /-- what a call of another thread returns -/
  | answered (err : ℤ)
  /-- `readEvents` of the manager hands events to `pollEvents` -/
  | handedOver (data : List (SensorsEvent F))
  /-- `pollEvents` returns, with these events in the memory of the caller -/
  | returned (ret : ℤ) (data : List (SensorsEvent F))
  deriving DecidableEq, Repr

namespace Device

variable (dev : Device) (store : Driver → ℕ → ℤ → F → F)

/-- A call enables the driver of `w`. -/
def enables (call : Call) (w : ℕ) : Bool :=
  match call with
  | .activate handle enable _ =>
    match dev.sensors[handle]? with
    | none => false
    | some info =>
      enable && (if info.oneShot then decide (w = handle)
        else decide (w ∈ info.depList) || (info.isVirtual && decide (w = handle)))
  | .setDelay _ _ | .batch _ _ _ => false

/-- What a call changes in the drivers, when it turns the contexts from `ctx` into `ctx'`. -/
def callDrivers (call : Call) (clkOffset : ℤ) (ctx ctx' : Contexts) (drivers : Drivers F) :
    Drivers F where
  readers w :=
    let r := drivers.readers w
    if (ctx w).mEnabled then
      -- already enabled
      if dev.enables call w ∧ (dev.driver w = some .light ∨ dev.driver w = some .proximity) then
        { r with hasPendingEvent := true }
      else r
    else if (ctx' w).mEnabled ∧ dev.driver w = some .accel then
      { r with sysclkSyncOffset := clkOffset }
    else r
  virtuals w :=
    let v := drivers.virtuals w
    if (ctx w).mEnabled ≠ (ctx' w).mEnabled then { v with firstEventReceived := false }
    else if dev.enables call w then { v with reportLastEvent := v.firstEventReceived }
    else v

/-- `flush` of `w`, for a driver that is there; hardware has only itself in `dep_list` -/
def flush (ctx : Contexts) (drivers : Drivers F) (w : ℕ) (writes : Bool) : Drivers F × ℤ :=
  match dev.sensors[w]? with
  | none => (drivers, -EINVAL)
  | some info =>
    if info.oneShot = true ∨ (ctx w).mEnabled = false then (drivers, -EINVAL)
    else if info.fifoMaxEventCount ≠ 0 ∧ writes = false then (drivers, -1)
    else if info.driver = some .virtual then
      let v := drivers.virtuals w
      let v := { v with hasPendingMetadata := v.hasPendingMetadata + 1 }
      ({ drivers with virtuals := Function.update drivers.virtuals w v }, 0)
    else
      let r := drivers.readers w
      let r := { r with hasPendingMetadata := r.hasPendingMetadata + 1 }
      ({ drivers with readers := Function.update drivers.readers w r }, 0)

/-- The machine of the device. -/
def polls : Machine (PollState F) (PollCall F) (PollOut F) where
  step s
    | .call call clkOffset =>
      match dev.machine.step s.ctx call with
      | none => none
      | some (ctx, out) =>
        some ({ s with ctx := ctx
                       drivers := dev.callDrivers call clkOffset s.ctx ctx s.drivers },
          out.map .answered)
    | .flush handle writes =>
      if handle < dev.sensors.length ∧ dev.driver handle = none then none
      else
        let (drivers, err) := dev.flush s.ctx s.drivers handle writes
        some ({ s with drivers }, [.answered err])
    | .poll count =>
      match s.pc with
      | .idle => some ({ s with pc := .scanning 0 count [] }, [])
      | .scanning _ _ _ | .reading _ _ _ | .polling _ _ => none
    | .check =>
      match s.pc with
      | .scanning i count data =>
        if count ≠ 0 ∧ i < dev.sensors.length then
          if dev.driver i = none then none
          else if s.revents i || dev.hasPendingEvents s.drivers i then
            some ({ s with pc := .reading i count data }, [])
          else some ({ s with pc := .scanning (i + 1) count data }, [])
        else if count ≠ 0 then some ({ s with pc := .polling count data }, [])
        else some ({ s with pc := .idle }, [.returned data.length data])
      | .idle | .reading _ _ _ | .polling _ _ => none
    | .read world calls =>
      match s.pc with
      | .reading i count data =>
        match dev.readEvents store world s.ctx i count s.drivers calls with
        | none => none
        | some (drivers, .error errno) =>
          some ({ s with drivers, pc := .idle }, [.returned (-errno) data])
        | some (drivers, .ok new) =>
          some ({ s with
              drivers
              -- no more data for this sensor
              revents := if new.length ≤ count then Function.update s.revents i false else s.revents
              pc := .scanning (i + 1) (count - new.length) (data ++ new) }, [.handedOver new])
      | .idle | .scanning _ _ _ | .polling _ _ => none
    | .pollFailed errno =>
      match s.pc with
      | .polling _ data =>
        if errno = EINTR then some (s, [])
        else some ({ s with pc := .idle }, [.returned (-errno) data])
      | .idle | .scanning _ _ _ | .reading _ _ _ => none
    | .polled n ready =>
      match s.pc with
      | .polling count data =>
        -- only with events it does not wait
        if n = 0 then
          if ready = [] ∧ data.isEmpty = false then
            some ({ s with revents := fun _ => false, pc := .idle }, [.returned data.length data])
          else none
        else
          some ({ s with
              revents := fun i => decide (i ∈ ready ∧ dev.driver i ≠ some .virtual)
              pc := .scanning 0 count data }, [])
      | .idle | .scanning _ _ _ | .reading _ _ _ => none

/-- The state after the constructors. -/
structure Started (s : PollState F) : Prop where
  ctx : ∃ opens, s.ctx = dev.start opens
  size : ∀ w, (s.drivers.readers w).ring.size = 4
  ring : ∀ w, (s.drivers.readers w).ring.contents = []
  hasPendingEvents : ∀ w, dev.hasPendingEvents s.drivers w = false
  absEventReceived : ∀ w, (s.drivers.readers w).absEventReceived = false
  firstEventReceived : ∀ w, (s.drivers.virtuals w).firstEventReceived = false
  revents : ∀ w, s.revents w = false
  pc : s.pc = .idle

/-- The state after the constructors, with zeros in all memory. -/
def pollStart (opens : ℕ → Bool) (zero : F) : PollState F where
  ctx := dev.start opens
  drivers :=
    { readers := fun _ =>
        { ring := .new 4 (by decide) fun _ => .other
          timestamp := 0
          data := zero
          hasPendingEvent := false
          hasPendingMetadata := 0
          useAbsTimeStamp := false
          reportTime := 0
          absEventReceived := false
          sysclkSyncOffset := 0 }
      virtuals := fun w =>
        { buffer := []
          lastEvent := .sample w 0 zero
          reportLastEvent := false
          firstEventReceived := false
          hasPendingMetadata := 0 } }
  revents := fun _ => false
  pc := .idle

theorem started_pollStart (opens : ℕ → Bool) (zero : F) :
    dev.Started (dev.pollStart opens zero) where
  ctx := ⟨opens, rfl⟩
  size _ := rfl
  ring _ := InputEventCircularReader.contents_new _ _ _
  hasPendingEvents w := by
    rw [hasPendingEvents]
    split_ifs <;> rfl
  absEventReceived _ := rfl
  firstEventReceived _ := rfl
  revents _ := rfl
  pc := rfl

end Device

/-! ## The steps -/

/-- What the steps do, one constructor for each. -/
inductive Polls (dev : Device) (store : Driver → ℕ → ℤ → F → F) (s : PollState F) :
    PollCall F → PollState F → List (PollOut F) → Prop
  | called (call : Call) (clkOffset : ℤ) (ctx : Contexts) (out : List ℤ)
    (hstep : dev.machine.step s.ctx call = some (ctx, out)) :
    Polls dev store s (.call call clkOffset)
      { s with ctx := ctx, drivers := dev.callDrivers call clkOffset s.ctx ctx s.drivers }
      (out.map .answered)
  | flushed (handle : ℕ) (writes : Bool) : Polls dev store s (.flush handle writes)
      { s with drivers := (dev.flush s.ctx s.drivers handle writes).1 }
      [.answered (dev.flush s.ctx s.drivers handle writes).2]
  | begins (count : ℕ) (hpc : s.pc = .idle) :
    Polls dev store s (.poll count) { s with pc := .scanning 0 count [] } []
  /-- the sensor is ready, or has pending events -/
  | visits (i count : ℕ) (data : List (SensorsEvent F)) (hpc : s.pc = .scanning i count data)
    (hcount : count ≠ 0) :
    Polls dev store s .check { s with pc := .reading i count data } []
  /-- it is not -/
  | passes (i count : ℕ) (data : List (SensorsEvent F)) (hpc : s.pc = .scanning i count data)
    (hcount : count ≠ 0) :
    Polls dev store s .check { s with pc := .scanning (i + 1) count data } []
  /-- all sensors were looked at -/
  | waits (i count : ℕ) (data : List (SensorsEvent F)) (hpc : s.pc = .scanning i count data)
    (hcount : count ≠ 0) :
    Polls dev store s .check { s with pc := .polling count data } []
  /-- there is no room left -/
  | full (i : ℕ) (data : List (SensorsEvent F)) (hpc : s.pc = .scanning i 0 data) :
    Polls dev store s .check { s with pc := .idle } [.returned data.length data]
  | fails (world : World F) (calls : List (List Fill)) (i count : ℕ)
    (data : List (SensorsEvent F)) (hpc : s.pc = .reading i count data) (drivers : Drivers F)
    (errno : ℕ)
    (hread : dev.readEvents store world s.ctx i count s.drivers calls =
      some (drivers, .error errno)) :
    Polls dev store s (.read world calls) { s with drivers := drivers, pc := .idle }
      [.returned (-errno) data]
  | reads (world : World F) (calls : List (List Fill)) (i count : ℕ)
    (data : List (SensorsEvent F)) (hpc : s.pc = .reading i count data) (drivers : Drivers F)
    (new : List (SensorsEvent F))
    (hread : dev.readEvents store world s.ctx i count s.drivers calls = some (drivers, .ok new)) :
    Polls dev store s (.read world calls)
      { s with
          drivers := drivers
          revents := if new.length ≤ count then Function.update s.revents i false else s.revents
          pc := .scanning (i + 1) (count - new.length) (data ++ new) }
      [.handedOver new]
  /-- `poll` is called again -/
  | interrupted (count : ℕ) (data : List (SensorsEvent F)) (hpc : s.pc = .polling count data) :
    Polls dev store s (.pollFailed EINTR) s []
  | pollFails (errno : ℕ) (hne : errno ≠ EINTR) (count : ℕ) (data : List (SensorsEvent F))
    (hpc : s.pc = .polling count data) :
    Polls dev store s (.pollFailed errno) { s with pc := .idle } [.returned (-errno) data]
  /-- there is nothing more -/
  | timesOut (ready : List ℕ) (count : ℕ) (data : List (SensorsEvent F))
    (hpc : s.pc = .polling count data) :
    Polls dev store s (.polled 0 ready) { s with revents := fun _ => false, pc := .idle }
      [.returned data.length data]
  | ready (n : ℕ) (ready : List ℕ) (count : ℕ) (data : List (SensorsEvent F))
    (hpc : s.pc = .polling count data) (revents : ℕ → Bool) :
    Polls dev store s (.polled n ready)
      { s with revents := revents, pc := .scanning 0 count data } []

/-- Every step is one of these. -/
theorem polls_of_step {dev : Device} {store : Driver → ℕ → ℤ → F → F} {s s' : PollState F}
    {l : PollCall F} {out : List (PollOut F)} (hs : (dev.polls store).step s l = some (s', out)) :
    Polls dev store s l s' out := by
  cases l with
  | call call clkOffset =>
    simp only [Device.polls] at hs
    cases hstep : dev.machine.step s.ctx call with
    | none =>
      rw [hstep] at hs
      cases hs
    | some p =>
      rw [hstep] at hs
      obtain ⟨rfl, rfl⟩ := Prod.mk.inj (Option.some.inj hs)
      exact .called call clkOffset p.1 p.2 hstep
  | flush handle writes =>
    simp only [Device.polls] at hs
    split_ifs at hs
    obtain ⟨rfl, rfl⟩ := Prod.mk.inj (Option.some.inj hs)
    exact .flushed handle writes
  | poll count =>
    simp only [Device.polls] at hs
    cases hpc : s.pc with
    | idle =>
      rw [hpc] at hs
      obtain ⟨rfl, rfl⟩ := Prod.mk.inj (Option.some.inj hs)
      exact .begins count hpc
    | _ =>
      rw [hpc] at hs
      cases hs
  | check =>
    simp only [Device.polls] at hs
    cases hpc : s.pc with
    | scanning i count data =>
      rw [hpc] at hs
      dsimp only at hs
      split_ifs at hs with hturn hdriver hvisit hcount
      · obtain ⟨rfl, rfl⟩ := Prod.mk.inj (Option.some.inj hs)
        exact .visits i count data hpc hturn.1
      · obtain ⟨rfl, rfl⟩ := Prod.mk.inj (Option.some.inj hs)
        exact .passes i count data hpc hturn.1
      · obtain ⟨rfl, rfl⟩ := Prod.mk.inj (Option.some.inj hs)
        exact .waits i count data hpc hcount
      · obtain ⟨rfl, rfl⟩ := Prod.mk.inj (Option.some.inj hs)
        obtain rfl := not_not.mp hcount
        exact .full i data hpc
    | _ =>
      rw [hpc] at hs
      cases hs
  | read world calls =>
    simp only [Device.polls] at hs
    cases hpc : s.pc with
    | reading i count data =>
      rw [hpc] at hs
      dsimp only at hs
      cases hread : dev.readEvents store world s.ctx i count s.drivers calls with
      | none =>
        rw [hread] at hs
        cases hs
      | some read =>
        obtain ⟨drivers, nb⟩ := read
        rw [hread] at hs
        cases nb with
        | error errno =>
          obtain ⟨rfl, rfl⟩ := Prod.mk.inj (Option.some.inj hs)
          exact .fails world calls i count data hpc drivers errno hread
        | ok new =>
          obtain ⟨rfl, rfl⟩ := Prod.mk.inj (Option.some.inj hs)
          exact .reads world calls i count data hpc drivers new hread
    | _ =>
      rw [hpc] at hs
      cases hs
  | pollFailed errno =>
    simp only [Device.polls] at hs
    cases hpc : s.pc with
    | polling count data =>
      rw [hpc] at hs
      dsimp only at hs
      split_ifs at hs with heintr
      · obtain ⟨rfl, rfl⟩ := Prod.mk.inj (Option.some.inj hs)
        subst heintr
        exact .interrupted count data hpc
      · obtain ⟨rfl, rfl⟩ := Prod.mk.inj (Option.some.inj hs)
        exact .pollFails errno heintr count data hpc
    | _ =>
      rw [hpc] at hs
      cases hs
  | polled n ready =>
    simp only [Device.polls] at hs
    cases hpc : s.pc with
    | polling count data =>
      rw [hpc] at hs
      dsimp only at hs
      split_ifs at hs with hn hready
      · obtain ⟨rfl, rfl⟩ := Prod.mk.inj (Option.some.inj hs)
        subst hn
        exact .timesOut ready count data hpc
      · obtain ⟨rfl, rfl⟩ := Prod.mk.inj (Option.some.inj hs)
        exact .ready n ready count data hpc _
    | _ =>
      rw [hpc] at hs
      cases hs

end OppoA37.Sensors
