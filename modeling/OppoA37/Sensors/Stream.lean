import OppoA37.Sensors.Blocking
import OppoA37.Sensors.Reads

/-!
# The stream of a sensor

What a device writes is one stream of input events, but it is read in pieces: a ring takes as much
as it has room for, the caller takes as many events as it has room for, and `read` and the driver
may be interrupted. The values that are measured must not depend on that. `stream` is what the
input events mean, read in one go, and `stream_run` says that a sensor that is enabled whenever it
is read hands over just that, less what its ring still holds.

It is about the accelerometer, the light sensor and the proximity sensor; what the compass hands
over is up to an algorithm. An event that is reported once more is not part of the stream.
-/

namespace OppoA37.Sensors

open Lts

universe u

variable {F : Type u}

/-! ## What input events mean -/

/-- The values after an input event -/
def measures (store : Driver → ℕ → ℤ → F → F) (driver : Driver) (data : F) : InputEvent → F
  | .abs code value =>
    if driver = .proximity ∧ value = -1 then data else store driver code value data
  | .synTimeSec _ | .synTimeNsec _ | .synReport _ | .other => data

/-- The values that a stream of input events reports, from `data` on; an accelerometer reports
nothing before it has measured something. -/
def stream (store : Driver → ℕ → ℤ → F → F) (driver : Driver) :
    F → Bool → List InputEvent → List F
  | _, _, [] => []
  | data, absEventReceived, event :: events =>
    let rest := stream store driver (measures store driver data event)
      (receives driver absEventReceived event) events
    if Reader.reports driver true absEventReceived event then data :: rest else rest

/-- The values of what was measured. -/
def SensorsEvent.value : SensorsEvent F → Option F
  | sample _ _ data => some data
  | flushComplete _ _ => none

/-! ## A driver is read -/

namespace Reader

variable {store : Driver → ℕ → ℤ → F → F} {world : World F} {driver : Driver} {sensor : ℕ}
  {count : ℕ} {r r' : Reader F}

/-- What is to come, if the device writes `events` next. -/
def toCome (store : Driver → ℕ → ℤ → F → F) (driver : Driver) (r : Reader F)
    (events : List InputEvent) : List F :=
  stream store driver r.data r.absEventReceived (r.ring.contents ++ events)

theorem data_next (hne : r.ring.available ≠ 0) :
    (r.next store driver hne).data = measures store driver r.data (r.ring.buffer r.ring.curr) := by
  rw [next]
  cases r.ring.buffer r.ring.curr <;> rfl

/-- An input event that reports measures nothing. -/
theorem data_next_of_report {absEventReceived : Bool} (hne : r.ring.available ≠ 0)
    (h : reports driver true absEventReceived (r.ring.buffer r.ring.curr) = true) :
    (r.next store driver hne).data = r.data := by
  rw [data_next]
  cases hevent : r.ring.buffer r.ring.curr with
  | abs code value =>
    rw [hevent] at h
    cases h
  | _ => rfl

/-- Taking one event out of the ring. -/
theorem toCome_eq (hne : r.ring.available ≠ 0) (events : List InputEvent) :
    r.toCome store driver events =
      if reports driver true r.absEventReceived (r.ring.buffer r.ring.curr) then
        r.data :: (r.next store driver hne).toCome store driver events
      else (r.next store driver hne).toCome store driver events := by
  rw [toCome, contents_next store driver r hne, List.cons_append, stream, toCome, data_next,
    absEventReceived_next]

/-- The loop over the ring hands over the start of what is to come. -/
theorem drain_stream (hdriver : driver ≠ .compass) (n count : ℕ) (r : Reader F)
    (events : List InputEvent) :
    r.toCome store driver events =
      (drain store world driver sensor true n count r).2.filterMap SensorsEvent.value ++
        (drain store world driver sensor true n count r).1.toCome store driver events := by
  induction n generalizing count r with
  | zero => rfl
  | succ n ih =>
    rw [drain]
    split_ifs with hne hreports
    · have hvalue : (r.next store driver hne.2).event world driver sensor count =
          .sample sensor (r.next store driver hne.2).timestamp r.data := by
        rw [event, if_neg hdriver, data_next_of_report hne.2 hreports]
      rw [toCome_eq hne.2, if_pos hreports, ih (count - 1)]
      simp only [hvalue, List.filterMap_cons, SensorsEvent.value, List.cons_append]
    · rw [toCome_eq hne.2, if_neg hreports, ih count]
    · rfl

/-- However often the ring is filled again. -/
theorem fetch_stream (hdriver : driver ≠ .compass) {answers : List Fill}
    {data : List (SensorsEvent F)}
    (h : fetch store world driver sensor true count r answers = some (r', data))
    (events : List InputEvent) :
    r.toCome store driver (answers.flatMap Fill.events ++ events) =
      data.filterMap SensorsEvent.value ++ r'.toCome store driver events := by
  have hdrained : ∀ (r r₁ : Reader F) (events : List InputEvent),
      drain store world driver sensor true r.ring.available count r = (r₁, []) →
      r.toCome store driver events = r₁.toCome store driver events := by
    intro r r₁ events hdrain
    have hsame : r.toCome store driver events =
        (drain store world driver sensor true r.ring.available count r).2.filterMap
            SensorsEvent.value ++
          (drain store world driver sensor true r.ring.available count r).1.toCome store driver
            events := drain_stream hdriver _ count r events
    rwa [hdrain] at hsame
  refine fetch_induction (P := fun r answers out =>
    r.toCome store driver (answers.flatMap Fill.events ++ events) =
      out.2.filterMap SensorsEvent.value ++ out.1.toCome store driver events) ?_ ?_ ?_ h
  · intro r answers hanswers
    have hnil : answers.flatMap Fill.events = [] := by
      rcases hanswers with rfl | rfl <;> rfl
    rw [hnil]
    exact drain_stream hdriver _ _ r events
  · intro r r₁ errno answers out hdrain ih
    exact (hdrained r r₁ _ hdrain).trans ih
  · intro r r₁ new answers out hfree hdrain ih
    rw [hdrained r r₁ _ hdrain, ← ih]
    simp only [toCome, InputEventCircularReader.contents_fill, List.flatMap_cons, Fill.events,
      List.append_assoc]

/-- **One read.** What a driver that is enabled hands over is the start of what is to come, unless
it reports an event once more. -/
theorem Reads.stream (hdriver : driver ≠ .compass) {answers : List Fill}
    {nb : Except ℕ (List (SensorsEvent F))}
    (h : Reads store world driver sensor true count r answers r' nb) (events : List InputEvent) :
    r.toCome store driver (answers.flatMap Fill.events ++ events) =
      (if r.hasPendingEvent then [] else (nb.toOption.getD []).filterMap SensorsEvent.value) ++
        r'.toCome store driver events := by
  cases h with
  | failed errno hevent hmeta => simp [hevent, Fill.events, Except.toOption]
  | pending hevent => simp [hevent, toCome]
  | flushed hevent hmeta => simp [hevent, Except.toOption, SensorsEvent.value, toCome]
  | fetched hevent hmeta new hfree answers r' data hfetch =>
    rw [hevent, if_neg Bool.false_ne_true]
    refine Eq.trans ?_ (fetch_stream hdriver hfetch events)
    simp only [toCome, InputEventCircularReader.contents_fill, List.flatMap_cons, Fill.events,
      List.append_assoc]

end Reader

/-! ## Runs -/

variable {dev : Device} {store : Driver → ℕ → ℤ → F → F} {w : ℕ} {driver : Driver}
  {s₀ s : PollState F} {h : List (Event (PollState F) (PollCall F) (PollOut F))}

/-- The input events that a step reads from the device of `w`. -/
def fed (w : ℕ) (e : Event (PollState F) (PollCall F) (PollOut F)) : List InputEvent :=
  match e.label, e.pre.pc with
  | .read _ calls, .reading i _ _ => if i = w then calls.flatten.flatMap Fill.events else []
  | _, _ => []

/-- The values of `w` that a step hands over, but those of an event that is reported once more. -/
def measuredOf (w : ℕ) (e : Event (PollState F) (PollCall F) (PollOut F)) : List F :=
  if (e.pre.drivers.readers w).hasPendingEvent then []
  else (readOf w e).filterMap SensorsEvent.value

/-- `w` is read while it is switched off, for the driver or for the manager. -/
def readOff (w : ℕ) (s : PollState F) : PollCall F → Bool
  | .read _ _ =>
    match s.pc with
    | .reading i _ _ => decide (i = w) && !((s.ctx w).mEnabled && (s.ctx w).enable)
    | .idle | .scanning _ _ _ | .polling _ _ => false
  | .call _ _ | .flush _ _ | .poll _ | .check | .pollFailed _ | .polled _ _ => false

namespace Device

/-- A call of another thread does not touch what is to come. -/
theorem toCome_callDrivers (call : Call) (clkOffset : ℤ) (ctx ctx' : Contexts)
    (drivers : Drivers F) (events : List InputEvent) :
    ((dev.callDrivers call clkOffset ctx ctx' drivers).readers w).toCome store driver events =
      (drivers.readers w).toCome store driver events := by
  rw [callDrivers]
  dsimp only
  split_ifs <;> rfl

/-- Neither does `flush`. -/
theorem toCome_flush (ctx : Contexts) (drivers : Drivers F) (handle : ℕ) (writes : Bool)
    (events : List InputEvent) :
    ((dev.flush ctx drivers handle writes).1.readers w).toCome store driver events =
      (drivers.readers w).toCome store driver events := by
  rw [flush]
  split
  · rfl
  · split_ifs
    · rfl
    · rfl
    · rfl
    · by_cases heq : w = handle
      · subst heq
        dsimp only
        rw [Function.update_self]
        rfl
      · dsimp only
        rw [Function.update_of_ne heq]

/-- The manager reads `w`, which is enabled. -/
theorem readEvents_stream (hw : dev.driver w = some driver) (hhw : driver ≠ .virtual)
    (hcompass : driver ≠ .compass) {world : World F} {ctx : Contexts} {count : ℕ}
    {drivers drivers' : Drivers F} {calls : List (List Fill)}
    {nb : Except ℕ (List (SensorsEvent F))} (hmEnabled : (ctx w).mEnabled = true)
    (henable : (ctx w).enable = true)
    (h : dev.readEvents store world ctx w count drivers calls = some (drivers', nb))
    (events : List InputEvent) :
    (drivers.readers w).toCome store driver (calls.flatten.flatMap Fill.events ++ events) =
      (if (drivers.readers w).hasPendingEvent then []
        else (nb.toOption.getD []).filterMap SensorsEvent.value) ++
      (drivers'.readers w).toCome store driver events := by
  obtain ⟨drivers₁, nb₁, hread, hreaders, rfl⟩ := readEvents_inv h
  rw [henable, if_pos rfl, hreaders]
  obtain ⟨rfl, hsame, rfl, errno, rfl⟩ | ⟨-, before, answers, rfl, hbefore, hreads⟩ :=
    reads_of_readDriver hw hhw hread
  · simp [hsame, Except.toOption]
  · rw [hmEnabled] at hreads
    -- the calls that are passed over have read nothing
    have hnone : before.flatten.flatMap Fill.events = [] := by
      refine List.flatMap_eq_nil_iff.mpr fun answer hmem => ?_
      obtain ⟨a, ha, hanswer⟩ := List.mem_flatten.mp hmem
      obtain ⟨errno, rfl⟩ := hbefore a ha
      rw [List.mem_singleton.mp hanswer, Fill.events]
    rw [List.flatten_append, List.flatMap_append, hnone, List.nil_append, List.flatten_singleton]
    exact hreads.stream hcompass events

end Device

/-- **One step** hands over the start of what is to come of `w`. -/
theorem Polls.stream (hw : dev.driver w = some driver) (hhw : driver ≠ .virtual)
    (hcompass : driver ≠ .compass) {e : Event (PollState F) (PollCall F) (PollOut F)}
    (hs : (dev.polls store).step e.pre e.label = some (e.post, e.out))
    (hon : readOff w e.pre e.label = false) (events : List InputEvent) :
    (e.pre.drivers.readers w).toCome store driver (fed w e ++ events) =
      measuredOf w e ++ (e.post.drivers.readers w).toCome store driver events := by
  obtain ⟨pre, l, out, post⟩ := e
  have hpolls : Polls dev store pre l post out := polls_of_step hs
  -- a step that neither reads nor hands over
  have hquiet : (∀ o ∈ out, o.handed = []) → fed w ⟨pre, l, out, post⟩ = [] →
      (post.drivers.readers w).toCome store driver events =
        (pre.drivers.readers w).toCome store driver events →
      (pre.drivers.readers w).toCome store driver (fed w ⟨pre, l, out, post⟩ ++ events) =
        measuredOf w ⟨pre, l, out, post⟩ ++
          (post.drivers.readers w).toCome store driver events := by
    intro hout hfed hsame
    rw [measuredOf, readOf_eq_nil hout, hfed, hsame, List.filterMap_nil, ite_self]
    rfl
  dsimp only at hon ⊢
  cases hpolls with
  | called call clkOffset ctx out hstep =>
    exact hquiet (by simp [PollOut.handed]) rfl (Device.toCome_callDrivers call clkOffset _ _ _ _)
  | flushed handle writes =>
    exact hquiet (by simp [PollOut.handed]) rfl (Device.toCome_flush _ _ handle writes _)
  | fails world calls i count data hpc drivers errno hread =>
    by_cases heq : i = w
    · subst heq
      obtain ⟨hmEnabled, henable⟩ : (pre.ctx i).mEnabled = true ∧ (pre.ctx i).enable = true := by
        simpa [readOff, hpc] using hon
      have hstream := Device.readEvents_stream hw hhw hcompass hmEnabled henable hread events
      simpa [measuredOf, readOf, fed, hpc, PollOut.handed, Except.toOption] using hstream
    · obtain ⟨drivers₁, nb₁, hread₁, hreaders, -⟩ := Device.readEvents_inv hread
      refine hquiet (by simp [PollOut.handed]) (by simp [fed, hpc, heq]) ?_
      rw [hreaders, Device.readDriver_readers_of_ne heq hread₁]
  | reads world calls i count data hpc drivers new hread =>
    by_cases heq : i = w
    · subst heq
      obtain ⟨hmEnabled, henable⟩ : (pre.ctx i).mEnabled = true ∧ (pre.ctx i).enable = true := by
        simpa [readOff, hpc] using hon
      have hstream := Device.readEvents_stream hw hhw hcompass hmEnabled henable hread events
      simpa [measuredOf, readOf, fed, hpc, PollOut.handed, Except.toOption] using hstream
    · obtain ⟨drivers₁, nb₁, hread₁, hreaders, -⟩ := Device.readEvents_inv hread
      simp [measuredOf, readOf, fed, hpc, heq, hreaders,
        Device.readDriver_readers_of_ne heq hread₁]
  | visits i count data hpc hcount => exact hquiet (by simp) rfl rfl
  | passes i count data hpc hcount => exact hquiet (by simp) rfl rfl
  | waits i count data hpc hcount => exact hquiet (by simp) rfl rfl
  | begins count hpc => exact hquiet (by simp) rfl rfl
  | full i data hpc => exact hquiet (by simp [PollOut.handed]) rfl rfl
  | interrupted count data hpc => exact hquiet (by simp) rfl rfl
  | pollFails errno hne count data hpc => exact hquiet (by simp [PollOut.handed]) rfl rfl
  | timesOut ready count data hpc => exact hquiet (by simp [PollOut.handed]) rfl rfl
  | ready n ready count data hpc revents => exact hquiet (by simp) rfl rfl

end OppoA37.Sensors
