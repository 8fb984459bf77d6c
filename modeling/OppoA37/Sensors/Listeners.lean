import OppoA37.Sensors.Calls

/-!
# Who listens to the hardware

The listeners of a hardware sensor are the enabled sensors that depend on it, each of them once,
and as long as there is one the driver is enabled. Whether it is disabled without listeners
depends on its past: the drivers of accelerometers and compasses enable themselves when they are
constructed, and stay so until the first call of `activate` that comes to them.
-/

namespace OppoA37.Sensors

open Lts

variable {dev : Device} {s s' : Contexts} {h : List (Event Contexts Call ℤ)}

namespace Device

variable (dev : Device)

/-- The sensor `v` depends on `w`. -/
def DependsOn (v w : ℕ) : Prop := ∃ info, dev.sensors[v]? = some info ∧ w ∈ info.depList

/-- The context of a hardware sensor. -/
def IsHardware (w : ℕ) : Prop := ∃ info, dev.sensors[w]? = some info ∧ info.isVirtual = false

/-- The hardware that a call of `activate` comes to. -/
def reaches : Call → List ℕ
  | .activate handle _ _ => (dev.sensors[handle]?.map SensorInfo.depList).getD []
  | .setDelay _ _ | .batch _ _ _ => []

/-- A call of `activate` is for a sensor that is not one-shot, and the files of all its drivers
can be opened. -/
def Succeeds : Call → Prop
  | .activate handle _ opens => ∀ info ∈ dev.sensors[handle]?, info.oneShot = false ∧
    ∀ w ∈ info.depList, opens w = true
  | .setDelay _ _ | .batch _ _ _ => True

instance : (call : Call) → Decidable (dev.Succeeds call)
  | .activate handle _ opens => inferInstanceAs (Decidable (∀ info ∈ dev.sensors[handle]?,
    info.oneShot = false ∧ ∀ w ∈ info.depList, opens w = true))
  | .setDelay _ _ | .batch _ _ _ => .isTrue trivial

/-- The hardware that was come to so far. -/
def reached (v : List ℕ) (e : Event Contexts Call ℤ) : List ℕ := v ++ dev.reaches e.label

/-- The driver has enabled itself when it was constructed. -/
def SelfEnabled (w : ℕ) : Prop := dev.driver w = some .accel ∨ dev.driver w = some .compass

instance (w : ℕ) : Decidable (dev.SelfEnabled w) := inferInstanceAs (Decidable (_ ∨ _))

end Device

/-- The listeners of all hardware are the enabled sensors that depend on it, and its driver goes
with them; `v` was come to so far. -/
structure Listens (dev : Device) (v : List ℕ) (s : Contexts) : Prop where
  nodup : ∀ w, (s w).listener.Nodup
  mem_iff : ∀ w u, u ∈ (s w).listener ↔ dev.DependsOn u w ∧ (s u).enable = true
  enabled : ∀ w, (s w).listener ≠ [] → (s w).mEnabled = true
  disabled : ∀ w, dev.IsHardware w → (s w).listener = [] →
    (s w).mEnabled = false ∨ dev.SelfEnabled w ∧ w ∉ v

theorem listens_start (dev : Device) (opens : ℕ → Bool) : Listens dev [] (dev.start opens) := by
  refine ⟨fun _ => List.nodup_nil, fun w u => ?_, fun w hne => absurd rfl hne, fun w _ _ => ?_⟩
  · refine ⟨fun hmem => absurd hmem List.not_mem_nil, ?_⟩
    rintro ⟨-, hu⟩
    exact absurd hu Bool.false_ne_true
  · by_cases hself : dev.SelfEnabled w
    · exact Or.inr ⟨hself, List.not_mem_nil⟩
    · left
      show (decide (dev.SelfEnabled w) && opens w) = false
      rw [decide_eq_false hself, Bool.false_and]

/-- Who listens after a sensor was enabled or disabled. -/
theorem mem_listenersAfter {l : List ℕ} (hl : l.Nodup) {virt u : ℕ} {on : Bool} :
    u ∈ listenersAfter virt on l ↔ if u = virt then on = true else u ∈ l := by
  by_cases hu : u = virt
  · subst hu
    cases on <;> by_cases hmem : u ∈ l <;> simp [listenersAfter, hmem, hl.mem_erase_iff]
  · cases on <;> by_cases hmem : virt ∈ l <;> simp [listenersAfter, hmem, hl.mem_erase_iff, hu]

theorem nodup_listenersAfter {l : List ℕ} (hl : l.Nodup) (virt : ℕ) (on : Bool) :
    (listenersAfter virt on l).Nodup := by
  rw [listenersAfter]
  split_ifs with hon hmem
  · exact hl
  · refine List.nodup_append.mpr ⟨hl, List.nodup_singleton _, ?_⟩
    rintro u hu v hv rfl
    exact hmem (List.mem_singleton.mp hv ▸ hu)
  · exact hl.erase virt

/-- Hardware depends on itself. -/
theorem mem_depList_self {w : ℕ} {info : SensorInfo} (hinfo : dev.sensors[w]? = some info)
    (hhw : dev.IsHardware w) : w ∈ info.depList := by
  obtain ⟨info', hinfo', hvirtual⟩ := hhw
  rw [hinfo] at hinfo'
  obtain rfl := Option.some.inj hinfo'
  rw [dev.wellFormed.self w info hinfo hvirtual]
  exact List.mem_singleton_self w

/-- What somebody depends on is hardware. -/
theorem isHardware_of_dependsOn {u w : ℕ} (h : dev.DependsOn u w) : dev.IsHardware w := by
  obtain ⟨info, hinfo, hw⟩ := h
  exact dev.wellFormed.base u info hinfo w hw

/-- So hardware is among its own dependencies, and what is not is another sensor. -/
theorem ne_of_not_mem_depList {handle w : ℕ} {info : SensorInfo}
    (hinfo : dev.sensors[handle]? = some info) (hhw : dev.IsHardware w) (hw : w ∉ info.depList) :
    w ≠ handle := by
  rintro rfl
  exact hw (mem_depList_self hinfo hhw)

/-- No other call comes to hardware. -/
theorem reaches_eq_nil {call : Call}
    (hno : ∀ handle on opens, call = .activate handle on opens → dev.sensors[handle]? = none) :
    dev.reaches call = [] := by
  cases call with
  | activate handle on opens => simp [Device.reaches, hno handle on opens rfl]
  | _ => rfl

/-- The listeners are right after a sensor was enabled or disabled, if they were before. -/
theorem Listens.mem_iff_activated {v : List ℕ} (hI : Listens dev v s) {handle : ℕ} {on : Bool}
    {info : SensorInfo} (hinfo : dev.sensors[handle]? = some info)
    (henable : ∀ w, (s' w).enable = if w = handle then on else (s w).enable)
    (hlistener : ∀ w, (s' w).listener =
      if w ∈ info.depList then listenersAfter handle on (s w).listener else (s w).listener)
    (w u : ℕ) : u ∈ (s' w).listener ↔ dev.DependsOn u w ∧ (s' u).enable = true := by
  have hdepends : dev.DependsOn handle w ↔ w ∈ info.depList := by
    simp [Device.DependsOn, hinfo]
  rw [hlistener w, henable u]
  by_cases hu : u = handle
  · subst hu
    by_cases hw : w ∈ info.depList
    · simp [mem_listenersAfter (hI.nodup w), hw, hdepends]
    · simp [hw, hdepends, hI.mem_iff]
  · by_cases hw : w ∈ info.depList
    · simp only [if_pos hw, mem_listenersAfter (hI.nodup w), if_neg hu, hI.mem_iff]
    · simp only [if_neg hw, if_neg hu, hI.mem_iff]

/-- **One call** keeps the listeners, and the drivers with them. -/
theorem Listens.step {v : List ℕ} {e : Event Contexts Call ℤ} (hI : Listens dev v e.pre)
    (hok : dev.Succeeds e.label) (hs : dev.machine.step e.pre e.label = some (e.post, e.out)) :
    Listens dev (dev.reached v e) e.post := by
  obtain ⟨pre, call, out, post⟩ := e
  have hdoes : Does dev pre call post := does_of_step hs
  rw [Device.reached]
  cases hdoes with
  | nothing _ hno =>
    rw [reaches_eq_nil hno, List.append_nil]
    exact hI
  | oneShot handle on opens info hinfo hshot mEnabled =>
    have hno := (hok info hinfo).1
    exact absurd (hno.symm.trans hshot) Bool.false_ne_true
  | activated handle on opens info hinfo hshot _ henable hdelays hdeps hothers =>
    have hreaches : dev.reaches (.activate handle on opens) = info.depList := by
      simp [Device.reaches, hinfo]
    have hlistener := listener_of_activated hdeps fun w hw => (hothers w hw).1
    have hmem_iff := hI.mem_iff_activated hinfo henable hlistener
    refine ⟨fun w => ?_, hmem_iff, fun w hne => ?_, fun w hhw hempty => ?_⟩
    · show (post w).listener.Nodup
      rw [hlistener w]
      split_ifs with hw
      · exact nodup_listenersAfter (hI.nodup w) handle on
      · exact hI.nodup w
    · obtain ⟨u, hu⟩ := List.exists_mem_of_ne_nil _ hne
      have hw' : dev.IsHardware w := isHardware_of_dependsOn ((hmem_iff w u).mp hu).1
      show (post w).mEnabled = true
      by_cases hw : w ∈ info.depList
      · rw [(hdeps w hw).mEnabled ((hok info hinfo).2 w hw)]
        cases on with
        | true => rfl
        | false =>
          -- somebody else still listens, and did before
          rw [if_neg Bool.false_ne_true, if_neg hne]
          refine hI.enabled w fun hempty => hne ?_
          have hempty' : (pre w).listener = [] := hempty
          rw [(hdeps w hw).listener, hempty']
          rfl
      · rw [(hothers w hw).2.2 (ne_of_not_mem_depList hinfo hw' hw)]
        exact hI.enabled w ((hothers w hw).1 ▸ hne)
    · show (post w).mEnabled = false ∨ dev.SelfEnabled w ∧ w ∉ v ++ dev.reaches _
      have hempty' : (post w).listener = [] := hempty
      by_cases hw : w ∈ info.depList
      · left
        rw [(hdeps w hw).mEnabled ((hok info hinfo).2 w hw), if_pos hempty']
        cases on with
        | true =>
          -- a sensor that is enabled listens
          have hmem : handle ∈ (post w).listener := by
            rw [(hdeps w hw).listener, mem_listenersAfter (hI.nodup w), if_pos rfl]
          rw [hempty'] at hmem
          cases hmem
        | false => rfl
      · rw [(hothers w hw).2.2 (ne_of_not_mem_depList hinfo hhw hw), hreaches]
        refine (hI.disabled w hhw ((hothers w hw).1 ▸ hempty')).imp_right ?_
        rintro ⟨hself, hv⟩
        refine ⟨hself, fun hmem => ?_⟩
        exact (List.mem_append.mp hmem).elim hv hw
  | requested _ hno handle delayNs hasks info hinfo _ hdelays hkept hdeps hothers =>
    rw [reaches_eq_nil fun handle on opens heq => absurd heq (hno handle on opens), List.append_nil]
    refine ⟨fun w => ?_, fun w u => ?_, fun w hne => ?_, fun w hhw hempty => ?_⟩
    · exact (hkept w).2.1 ▸ hI.nodup w
    · show u ∈ (post w).listener ↔ dev.DependsOn u w ∧ (post u).enable = true
      rw [(hkept w).2.1, (hkept u).1]
      exact hI.mem_iff w u
    · exact (hkept w).2.2.trans (hI.enabled w ((hkept w).2.1 ▸ hne))
    · show (post w).mEnabled = false ∨ _
      rw [(hkept w).2.2]
      exact hI.disabled w hhw ((hkept w).2.1 ▸ hempty)

/-- What was come to in a history. -/
theorem mem_reached {w : ℕ} (h : List (Event Contexts Call ℤ)) :
    w ∈ watch dev.reached [] h ↔ ∃ e ∈ h, w ∈ dev.reaches e.label := by
  induction h using List.reverseRecOn with
  | nil => simp [watch]
  | append_singleton h e ih => simp [Device.reached, ih, or_and_right, exists_or]

/-- In every run whose calls succeed the listeners are right. -/
theorem listens_run {opens : ℕ → Bool} (hrun : Run dev.machine (dev.start opens) h s)
    (hok : ∀ e ∈ h, dev.Succeeds e.label) : Listens dev (watch dev.reached [] h) s := by
  refine Run.watched_invariant (Q := fun _ e => dev.Succeeds e.label) (Listens dev)
    (listens_start dev opens) (fun v e hI hQ hs => hI.step hQ hs) hrun ?_
  exact watched_const.mpr hok

/-- **Listeners.** In a run whose calls succeed, the listeners of a hardware sensor are the enabled
sensors that depend on it, each once. While there are some its driver is enabled, so no sensor
loses its hardware to another one; without any it is disabled, unless it has enabled itself and no
call of `activate` has come to it. -/
theorem listeners_run {opens : ℕ → Bool} (hrun : Run dev.machine (dev.start opens) h s)
    (hok : ∀ e ∈ h, dev.Succeeds e.label) {w : ℕ} (hw : dev.IsHardware w) :
    (s w).listener.Nodup ∧
      (∀ u, u ∈ (s w).listener ↔ dev.DependsOn u w ∧ (s u).enable = true) ∧
      ((s w).listener ≠ [] → (s w).mEnabled = true) ∧
      (∀ u, dev.DependsOn u w → (s u).enable = true → (s w).mEnabled = true) ∧
      ((s w).listener = [] → (s w).mEnabled = false ∨
        dev.SelfEnabled w ∧ ∀ e ∈ h, w ∉ dev.reaches e.label) := by
  have hI := listens_run hrun hok
  refine ⟨hI.nodup w, hI.mem_iff w, hI.enabled w, fun u hdep henable => ?_, fun hempty => ?_⟩
  · exact hI.enabled w (List.ne_nil_of_mem ((hI.mem_iff w u).mpr ⟨hdep, henable⟩))
  · refine (hI.disabled w hw hempty).imp_right ?_
    rintro ⟨hself, hno⟩
    exact ⟨hself, fun e he hmem => hno ((mem_reached h).mpr ⟨e, he, hmem⟩)⟩

/-- An accelerometer, a compass, a light and a proximity sensor, and all their virtual sensors:
the fifth one is the pocket sensor, the sixth the orientation. -/
def fourSensors : Device :=
  .found [⟨.accelerometer, false, 10000, 0⟩, ⟨.magneticField, false, 10000, 0⟩,
    ⟨.light, false, 0, 0⟩, ⟨.proximity, false, 0, 0⟩] fun _ => true

/-- All files can be opened. -/
def allOpen : ℕ → Bool := fun _ => true

/-- The accelerometer is enabled and disabled again, while the orientation depends on it. -/
theorem listeners_run_orientation :
    ∃ h s, Run fourSensors.machine (fourSensors.start allOpen) h s ∧
      h.map Event.label = [.activate 0 true allOpen, .activate 5 true allOpen,
        .activate 0 false allOpen] ∧
      (s 0).listener = [5] ∧ (s 0).mEnabled = true := by
  obtain ⟨h, s, hrun, hl, hcheck⟩ := fourSensors.machine.exists_run (fourSensors.start allOpen)
    [.activate 0 true allOpen, .activate 5 true allOpen, .activate 0 false allOpen]
    (fun _ s => decide ((s 0).listener = [5])) (by decide +kernel)
  have hlistener : (s 0).listener = [5] := of_decide_eq_true hcheck
  refine ⟨h, s, hrun, hl, hlistener, ?_⟩
  have hok : ∀ e ∈ h, fourSensors.Succeeds e.label :=
    forall_label hl (by decide +kernel)
  have hhw : fourSensors.IsHardware 0 := ⟨_, rfl, rfl⟩
  refine (listeners_run hrun hok hhw).2.2.1 ?_
  rw [hlistener]
  exact List.cons_ne_nil _ _

/-- Only the light sensor is enabled, and so is the driver of the accelerometer, to which nobody
listens. -/
theorem accel_enabled_alone :
    ∃ h s, Run fourSensors.machine (fourSensors.start allOpen) h s ∧
      h.map Event.label = [.activate 2 true allOpen] ∧
      (∀ e ∈ h, fourSensors.Succeeds e.label) ∧ fourSensors.IsHardware 0 ∧
      (s 0).listener = [] ∧ (s 0).mEnabled = true := by
  obtain ⟨h, s, hrun, hl, hcheck⟩ := fourSensors.machine.exists_run (fourSensors.start allOpen)
    [.activate 2 true allOpen]
    (fun _ s => decide ((s 0).listener = []) && (s 0).mEnabled) (by decide +kernel)
  obtain ⟨hempty, hon⟩ := Bool.and_eq_true_iff.mp hcheck
  exact ⟨h, s, hrun, hl, forall_label hl (by decide +kernel), ⟨_, rfl, rfl⟩,
    of_decide_eq_true hempty, hon⟩

end OppoA37.Sensors
