import OppoA37.Sensors.Reads

/-!
# What becomes of a `flush`

For every `flush` that was accepted there is to be one `META_DATA_FLUSH_COMPLETE`. The driver only
counts: `flush` adds one to `mHasPendingMetadata`, and a later read takes one away and hands the
event over. Between the two the sensor may have been switched off, and then the read takes one
away and hands nothing over: `forgets`.

`flushes_accounted` is the balance of every run, `flushes_iff` says when nothing is missing from
it. It is about the sensors with hardware.
-/

namespace OppoA37.Sensors

open Lts

universe u

variable {F : Type u}

/-- `META_DATA_FLUSH_COMPLETE` of `w` -/
def SensorsEvent.completes (w : ℕ) : SensorsEvent F → Bool
  | flushComplete sensor _ => decide (sensor = w)
  | sample _ _ _ => false

/-! ## A driver is read -/

namespace Reader

variable {store : Driver → ℕ → ℤ → F → F} {world : World F} {driver : Driver} {sensor : ℕ}
  {mEnabled : Bool} {count : ℕ} {r r' : Reader F}

/-- What was measured completes no `flush`. -/
@[simp] theorem completes_event (w : ℕ) : (r.event world driver sensor count).completes w = false :=
  rfl

@[simp] theorem hasPendingMetadata_take (event : InputEvent) :
    (r.take store driver event).hasPendingMetadata = r.hasPendingMetadata := by
  cases event <;> rfl

@[simp] theorem hasPendingMetadata_next (hne : r.ring.available ≠ 0) :
    (r.next store driver hne).hasPendingMetadata = r.hasPendingMetadata :=
  hasPendingMetadata_take _

/-- The loop over the ring completes nothing. -/
theorem drain_flushes (n count : ℕ) (r : Reader F) :
    (drain store world driver sensor mEnabled n count r).1.hasPendingMetadata =
        r.hasPendingMetadata ∧
      (drain store world driver sensor mEnabled n count r).2.countP (·.completes sensor) = 0 := by
  induction n generalizing count r with
  | zero => exact ⟨rfl, rfl⟩
  | succ n ih =>
    rw [drain]
    split_ifs with hne
    · -- a report
      obtain ⟨hmeta, hcount⟩ := ih (count - 1) (r.next store driver hne.2)
      refine ⟨hmeta.trans (hasPendingMetadata_next hne.2), ?_⟩
      rw [List.countP_cons_of_neg (by simp), hcount]
    · obtain ⟨hmeta, hcount⟩ := ih count (r.next store driver hne.2)
      exact ⟨hmeta.trans (hasPendingMetadata_next hne.2), hcount⟩
    · exact ⟨rfl, rfl⟩

/-- However often the ring is filled again. -/
theorem fetch_flushes {answers : List Fill} {data : List (SensorsEvent F)}
    (h : fetch store world driver sensor mEnabled count r answers = some (r', data)) :
    r'.hasPendingMetadata = r.hasPendingMetadata ∧ data.countP (·.completes sensor) = 0 := by
  have hdrained : ∀ r r₁ : Reader F,
      drain store world driver sensor mEnabled r.ring.available count r = (r₁, []) →
      r₁.hasPendingMetadata = r.hasPendingMetadata := by
    intro r r₁ hdrain
    have hsame : (drain store world driver sensor mEnabled r.ring.available count
        r).1.hasPendingMetadata = r.hasPendingMetadata := (drain_flushes _ _ r).1
    rwa [hdrain] at hsame
  refine fetch_induction (P := fun r _ out => out.1.hasPendingMetadata = r.hasPendingMetadata ∧
    out.2.countP (·.completes sensor) = 0) ?_ ?_ ?_ h
  · exact fun r _ _ => drain_flushes _ _ r
  · exact fun r r₁ _ _ _ hdrain ih => ⟨ih.1.trans (hdrained r r₁ hdrain), ih.2⟩
  · exact fun r r₁ _ _ _ _ hdrain ih => ⟨ih.1.trans (hdrained r r₁ hdrain), ih.2⟩

/-- The next thing that a driver reports is that a `flush` is complete. -/
def flushIsNext (r : Reader F) : Bool := !r.hasPendingEvent && decide (r.hasPendingMetadata ≠ 0)

/-- **One read.** It completes what it takes off the counter, unless the driver is not enabled. -/
theorem Reads.flushes {answers : List Fill} {nb : Except ℕ (List (SensorsEvent F))}
    (h : Reads store world driver sensor mEnabled count r answers r' nb) :
    r.hasPendingMetadata = r'.hasPendingMetadata + (if r.flushIsNext then 1 else 0) ∧
      (nb.toOption.getD []).countP (·.completes sensor) =
        if r.flushIsNext && mEnabled then 1 else 0 := by
  cases h with
  | failed errno hevent hmeta => simp [flushIsNext, hmeta, Except.toOption]
  | pending hevent =>
    refine ⟨by simp [flushIsNext, hevent], ?_⟩
    cases mEnabled <;> simp [flushIsNext, hevent, Except.toOption, SensorsEvent.completes]
  | flushed hevent hmeta =>
    have hnext : r.flushIsNext = true := by simp [flushIsNext, hevent, hmeta]
    refine ⟨?_, ?_⟩
    · rw [if_pos hnext]
      exact (Nat.succ_pred_eq_of_ne_zero hmeta).symm
    · cases mEnabled <;> simp [hnext, Except.toOption, SensorsEvent.completes]
  | fetched hevent hmeta events hfree answers r' data hfetch =>
    obtain ⟨hsame, hnone⟩ := fetch_flushes hfetch
    refine ⟨by simp [flushIsNext, hmeta, hsame], ?_⟩
    simp [flushIsNext, hmeta, hnone, Except.toOption]

end Reader

/-! ## The balance -/

variable {dev : Device} {store : Driver → ℕ → ℤ → F → F} {w : ℕ} {s₀ s : PollState F}
  {h : List (Event (PollState F) (PollCall F) (PollOut F))}

/-- A `flush` of `w` is accepted. -/
def accepts (w : ℕ) (e : Event (PollState F) (PollCall F) (PollOut F)) : Bool :=
  match e.label, e.out with
  | .flush handle _, [.answered err] => decide (handle = w ∧ err = 0)
  | _, _ => false

/-- A step takes a `flush` of `w` off the counter although `w` is switched off, as far as the
driver or the manager is concerned. -/
def forgets (w : ℕ) (s : PollState F) : PollCall F → Bool
  | .read _ _ =>
    match s.pc with
    | .reading i count _ =>
      decide (i = w ∧ count ≠ 0) && (s.drivers.readers w).flushIsNext &&
        !((s.ctx w).mEnabled && (s.ctx w).enable)
    | .idle | .scanning _ _ _ | .polling _ _ => false
  | .call _ _ | .flush _ _ | .poll _ | .check | .pollFailed _ | .polled _ _ => false

/-- How many flushes of `w` wait for a read. -/
def PollState.flushesPending (w : ℕ) (s : PollState F) : ℕ :=
  (s.drivers.readers w).hasPendingMetadata

namespace Device

/-- A call of another thread leaves the counters alone. -/
theorem hasPendingMetadata_callDrivers (call : Call) (clkOffset : ℤ) (ctx ctx' : Contexts)
    (drivers : Drivers F) (w : ℕ) :
    ((dev.callDrivers call clkOffset ctx ctx' drivers).readers w).hasPendingMetadata =
      (drivers.readers w).hasPendingMetadata := by
  rw [callDrivers]
  dsimp only
  split_ifs <;> rfl

/-- A `flush` that is accepted adds one. -/
theorem flush_counts {driver : Driver} (hw : dev.driver w = some driver) (hhw : driver ≠ .virtual)
    (ctx : Contexts) (drivers : Drivers F) (handle : ℕ) (writes : Bool) :
    ((dev.flush ctx drivers handle writes).1.readers w).hasPendingMetadata =
      (drivers.readers w).hasPendingMetadata +
        if handle = w ∧ (dev.flush ctx drivers handle writes).2 = 0 then 1 else 0 := by
  generalize hflush : dev.flush ctx drivers handle writes = flushed
  rw [flush] at hflush
  cases hinfo : dev.sensors[handle]? with
  | none =>
    rw [hinfo] at hflush
    subst hflush
    simp [EINVAL]
  | some info =>
    rw [hinfo] at hflush
    dsimp only at hflush
    split_ifs at hflush with hrefused hwrite hvirtual
    · subst hflush
      simp [EINVAL]
    · subst hflush
      simp
    · -- a virtual sensor has a counter of its own
      have hne : handle ≠ w := by
        rintro rfl
        rw [Device.driver, hinfo, Option.bind_some, hvirtual] at hw
        exact hhw (Option.some.inj hw).symm
      subst hflush
      simp [hne]
    · subst hflush
      by_cases heq : handle = w
      · subst heq
        simp
      · simp [heq, Function.update_of_ne (Ne.symm heq)]

/-- What the manager hands over of `w` is what was taken off its counter, but for what is
forgotten. -/
theorem readEvents_flushes {driver : Driver} (hw : dev.driver w = some driver)
    (hhw : driver ≠ .virtual) {world : World F} {calls : List (List Fill)} {count : ℕ}
    {data : List (SensorsEvent F)} {drivers : Drivers F}
    {nb : Except ℕ (List (SensorsEvent F))} (hpc : s.pc = .reading w count data)
    (h : dev.readEvents store world s.ctx w count s.drivers calls = some (drivers, nb)) :
    (s.drivers.readers w).hasPendingMetadata = (drivers.readers w).hasPendingMetadata +
      (nb.toOption.getD []).countP (·.completes w) +
      if forgets w s (.read world calls) then 1 else 0 := by
  obtain ⟨drivers₁, nb₁, hread, hreaders, rfl⟩ := readEvents_inv h
  rw [hreaders]
  obtain ⟨rfl, hsame, -, errno, rfl⟩ | ⟨hcount, -, answers, -, -, hreads⟩ :=
    reads_of_readDriver hw hhw hread
  · rw [hsame]
    cases (s.ctx w).enable <;> simp [forgets, hpc, Except.toOption]
  · obtain ⟨hbalance, hdata⟩ := hreads.flushes
    have hforgets : forgets w s (.read world calls) = ((s.drivers.readers w).flushIsNext &&
        !((s.ctx w).mEnabled && (s.ctx w).enable)) := by
      simp [forgets, hpc, hcount]
    rw [hbalance, hforgets, Nat.add_assoc]
    congr 1
    cases henable : (s.ctx w).enable with
    | false => simp [Except.toOption]
    | true =>
      rw [if_pos rfl, hdata]
      cases (s.drivers.readers w).flushIsNext <;> cases (s.ctx w).mEnabled <;> rfl

end Device

/-- **One step.** What was accepted waits, or is completed, or is forgotten. -/
theorem Polls.balance {driver : Driver} (hw : dev.driver w = some driver)
    (hhw : driver ≠ .virtual) {e : Event (PollState F) (PollCall F) (PollOut F)}
    (hs : (dev.polls store).step e.pre e.label = some (e.post, e.out)) :
    e.pre.flushesPending w + (if accepts w e then 1 else 0) =
      e.post.flushesPending w + (readOf w e).countP (·.completes w) +
        if forgets w e.pre e.label then 1 else 0 := by
  obtain ⟨pre, l, out, post⟩ := e
  have hpolls : Polls dev store pre l post out := polls_of_step hs
  show pre.flushesPending w + (if accepts w ⟨pre, l, out, post⟩ then 1 else 0) =
    post.flushesPending w + (readOf w ⟨pre, l, out, post⟩).countP (·.completes w) +
      if forgets w pre l then 1 else 0
  rw [PollState.flushesPending, PollState.flushesPending]
  -- a step that does not touch the drivers
  have hquiet : (∀ o ∈ out, o.handed = []) → accepts w ⟨pre, l, out, post⟩ = false →
      forgets w pre l = false → post.drivers = pre.drivers →
      (pre.drivers.readers w).hasPendingMetadata +
          (if accepts w ⟨pre, l, out, post⟩ then 1 else 0) =
        (post.drivers.readers w).hasPendingMetadata +
            (readOf w ⟨pre, l, out, post⟩).countP (·.completes w) +
          if forgets w pre l then 1 else 0 := by
    intro hout haccepts hforgets hdrivers
    rw [readOf_eq_nil hout, haccepts, hforgets, hdrivers]
    rfl
  cases hpolls with
  | called call clkOffset ctx out hstep =>
    rw [readOf_eq_nil (by simp [PollOut.handed]), Device.hasPendingMetadata_callDrivers]
    simp [accepts, forgets]
  | flushed handle writes =>
    rw [readOf_eq_nil (by simp [PollOut.handed]), Device.flush_counts hw hhw]
    simp [accepts, forgets]
  | fails world calls i count data hpc drivers errno hread =>
    rw [readOf_eq_nil (by simp [PollOut.handed])]
    by_cases heq : i = w
    · subst heq
      simpa [accepts, Except.toOption] using Device.readEvents_flushes hw hhw hpc hread
    · obtain ⟨drivers₁, nb₁, hread₁, hreaders, -⟩ := Device.readEvents_inv hread
      have hsame := Device.readDriver_readers_of_ne heq hread₁
      simp [accepts, forgets, hpc, heq, hreaders, hsame]
  | reads world calls i count data hpc drivers new hread =>
    have hnew : ∀ post, readOf w ⟨pre, .read world calls, [.handedOver new], post⟩ =
        if i = w then new else [] := by
      simp [readOf, hpc, PollOut.handed]
    rw [hnew]
    by_cases heq : i = w
    · subst heq
      simpa [accepts, Except.toOption] using Device.readEvents_flushes hw hhw hpc hread
    · obtain ⟨drivers₁, nb₁, hread₁, hreaders, -⟩ := Device.readEvents_inv hread
      have hsame := Device.readDriver_readers_of_ne heq hread₁
      simp [accepts, forgets, hpc, heq, hreaders, hsame]
  | visits i count data hpc hcount => exact hquiet (by simp) rfl rfl rfl
  | passes i count data hpc hcount => exact hquiet (by simp) rfl rfl rfl
  | waits i count data hpc hcount => exact hquiet (by simp) rfl rfl rfl
  | begins count hpc => exact hquiet (by simp) rfl rfl rfl
  | full i data hpc =>
    exact hquiet (by simp [PollOut.handed]) rfl rfl rfl
  | interrupted count data hpc => exact hquiet (by simp) rfl rfl rfl
  | pollFails errno hne count data hpc =>
    exact hquiet (by simp [PollOut.handed]) rfl rfl rfl
  | timesOut ready count data hpc =>
    exact hquiet (by simp [PollOut.handed]) rfl rfl rfl
  | ready n ready count data hpc revents => exact hquiet (by simp) rfl rfl rfl

/-- **The balance of a run.** Every `flush` that was accepted was completed, waits, or was
forgotten. -/
theorem flushes_accounted (hstart : dev.Started s₀) (hrun : Run (dev.polls store) s₀ h s)
    {driver : Driver} (hw : dev.driver w = some driver) (hhw : driver ≠ .virtual) :
    h.countP (accepts w) = (h.flatMap (readOf w)).countP (·.completes w) + s.flushesPending w +
      h.countP fun e => forgets w e.pre e.label := by
  have hnone : s₀.flushesPending w = 0 := by
    have hquiet := hstart.hasPendingEvents w
    rw [Device.hasPendingEvents, if_neg (by rw [hw]; simpa using hhw), Reader.hasPendingEvents,
      Bool.or_eq_false_iff] at hquiet
    simpa [PollState.flushesPending] using hquiet.2
  induction hrun with
  | nil => simp [hnone]
  | @snoc h s s' l out _ hs ih =>
    have hstep := Polls.balance (e := ⟨s, l, out, s'⟩) hw hhw hs
    dsimp only at hstep
    rw [List.countP_append, List.countP_append, List.flatMap_append, List.countP_append]
    simp only [List.countP_singleton, List.flatMap_singleton]
    omega

/-- **Nothing is missing** just in the runs in which no read finds `w` switched off with a `flush`
to report next. -/
theorem flushes_iff (hstart : dev.Started s₀) (hrun : Run (dev.polls store) s₀ h s)
    {driver : Driver} (hw : dev.driver w = some driver) (hhw : driver ≠ .virtual) :
    (h.flatMap (readOf w)).countP (·.completes w) + s.flushesPending w ≤ h.countP (accepts w) ∧
      ((h.flatMap (readOf w)).countP (·.completes w) + s.flushesPending w = h.countP (accepts w) ↔
        ∀ e ∈ h, forgets w e.pre e.label = false) := by
  have hbalance := flushes_accounted hstart hrun hw hhw
  have hforgets : (h.countP fun e => forgets w e.pre e.label) = 0 ↔
      ∀ e ∈ h, forgets w e.pre e.label = false := by
    simp [List.countP_eq_zero]
  refine ⟨by omega, ?_⟩
  rw [← hforgets]
  omega

/-- The proximity sensor is flushed twice, read once, and flushed a third time when it is switched
off: one flush is complete and one waits. -/
theorem flushed_twice :
    ∃ h s, Run (twoSensors.polls asRead) (twoSensors.pollStart (fun _ => true) 0) h s ∧
      h.map Event.label = [.call (.activate 0 true fun _ => true) 0, .flush 0 true, .poll 8,
        .flush 0 true, .check, .read quietWorld [[]],
        .call (.activate 0 false fun _ => true) 0, .flush 0 true] ∧
      (h.flatMap (readOf 0)).countP (·.completes 0) = 1 ∧ s.flushesPending 0 = 1 ∧
      h.countP (accepts 0) = 2 := by
  obtain ⟨h, s, hrun, hl, hcheck⟩ := (twoSensors.polls asRead).exists_run
    (twoSensors.pollStart (fun _ => true) 0)
    [.call (.activate 0 true fun _ => true) 0, .flush 0 true, .poll 8, .flush 0 true, .check,
      .read quietWorld [[]], .call (.activate 0 false fun _ => true) 0, .flush 0 true]
    (fun h s => decide ((h.flatMap (readOf 0)).countP (·.completes 0) = 1) &&
      decide (s.flushesPending 0 = 1) && h.all fun e => !forgets 0 e.pre e.label)
    (by decide +kernel)
  simp only [Bool.and_eq_true, decide_eq_true_eq, List.all_eq_true, Bool.not_eq_true'] at hcheck
  obtain ⟨⟨hcompleted, hpending⟩, hforgets⟩ := hcheck
  have hproximity : twoSensors.driver 0 = some .proximity := rfl
  have hbalance := (flushes_iff (twoSensors.started_pollStart (fun _ => true) 0) hrun hproximity
    (by decide)).2.mpr hforgets
  rw [hcompleted, hpending] at hbalance
  exact ⟨h, s, hrun, hl, hcompleted, hpending, hbalance.symm⟩

end OppoA37.Sensors
