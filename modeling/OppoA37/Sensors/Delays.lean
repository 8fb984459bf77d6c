import OppoA37.Sensors.Listeners

/-!
# What the hardware is driven at

The driver of a hardware sensor is to be called with the shortest delay that one of its listeners
has asked for; a delay of zero is none, and zero is what the driver gets when nobody has asked.
Whenever a listener comes, goes or asks, `syncDelay` calls the driver again, so its delay is
always `min_ns` of the listeners.

But `min_ns` starts with the delay of the first listener, even if that one has asked for nothing.
Then it stays zero although others have asked: `delay_iff` is exact about when this happens.
-/

namespace OppoA37.Sensors

open Lts

variable {dev : Device} {s s' : Contexts} {h : List (Event Contexts Call ℤ)}

/-- The shortest delay that was asked for, zero if nobody has asked. -/
def IsShortest (delays : List ℤ) (v : ℤ) : Prop :=
  (∀ d ∈ delays, d = 0) ∧ v = 0 ∨ v ∈ delays ∧ v ≠ 0 ∧ ∀ d ∈ delays, d ≠ 0 → v ≤ d

/-- The first one has asked, or nobody has; or somebody has even asked for less than nothing, as
`batch` lets them. -/
def FirstCounts (delays : List ℤ) : Prop :=
  delays.head? ≠ some 0 ∨ (∀ d ∈ delays, d = 0) ∨ ∃ d ∈ delays, d < 0

instance (delays : List ℤ) : Decidable (FirstCounts delays) :=
  inferInstanceAs (Decidable (_ ∨ _))

/-! ## The loop of `syncDelay` -/

/-- A turn of the loop. -/
def shorter (minNs d : ℤ) : ℤ := if d = 0 then minNs else if minNs > d then d else minNs

theorem minNs_eq (delays : ℕ → ℤ) (l : List ℕ) :
    minNs delays l = (l.map delays).foldl shorter ((l.map delays).head?.getD 0) := by
  cases l with
  | nil => rfl
  | cons w l =>
    rw [minNs, List.foldl_map]
    rfl

theorem shorter_spec (m d : ℤ) : (shorter m d = m ∨ shorter m d = d ∧ d ≠ 0) ∧
    shorter m d ≤ m ∧ (d ≠ 0 → shorter m d ≤ d) := by
  rw [shorter]
  split_ifs <;> omega

/-- What the loop leaves is the start or one of the delays, and none of them is less. -/
theorem foldl_shorter (l : List ℤ) (m : ℤ) :
    (l.foldl shorter m = m ∨ l.foldl shorter m ∈ l ∧ l.foldl shorter m ≠ 0) ∧
      l.foldl shorter m ≤ m ∧ ∀ d ∈ l, d ≠ 0 → l.foldl shorter m ≤ d := by
  induction l generalizing m with
  | nil => simp
  | cons d l ih =>
    obtain ⟨hmem, hle, hall⟩ := ih (shorter m d)
    obtain ⟨hstart, hle', hd⟩ := shorter_spec m d
    rw [List.foldl_cons]
    refine ⟨?_, hle.trans hle', ?_⟩
    · rcases hmem with heq | ⟨hmem, hne⟩
      · rw [heq]
        rcases hstart with hsame | ⟨hnew, hne⟩
        · exact Or.inl hsame
        · rw [hnew]
          exact Or.inr ⟨List.mem_cons_self, hne⟩
      · exact Or.inr ⟨List.mem_cons_of_mem _ hmem, hne⟩
    · intro d' hd' hne
      rcases List.mem_cons.mp hd' with rfl | hd'
      · exact hle.trans (hd hne)
      · exact hall d' hd' hne

/-- The loop finds the shortest delay just if the first one counts. -/
theorem isShortest_minNs {delays : ℕ → ℤ} {l : List ℕ} (hl : l ≠ []) :
    IsShortest (l.map delays) (minNs delays l) ↔ FirstCounts (l.map delays) := by
  rw [minNs_eq]
  obtain ⟨d, ds, hds⟩ : ∃ d ds, l.map delays = d :: ds :=
    List.exists_cons_of_ne_nil fun hno => hl (List.map_eq_nil_iff.mp hno)
  rw [hds, IsShortest, FirstCounts]
  obtain ⟨hmem, hle, hall⟩ := foldl_shorter (d :: ds) d
  simp only [List.head?_cons, Option.getD_some, ne_eq, Option.some.injEq]
  generalize (d :: ds).foldl shorter d = v at hmem hle hall
  have hd : d ∈ d :: ds := List.mem_cons_self
  constructor
  · rintro (⟨hzero, -⟩ | ⟨hv, hne, -⟩)
    · exact Or.inr (Or.inl hzero)
    · -- below zero, unless the loop has not started there
      by_cases hd0 : d = 0
      · exact Or.inr (Or.inr ⟨v, hv, lt_of_le_of_ne (hd0 ▸ hle) hne⟩)
      · exact Or.inl hd0
  · intro hfirst
    by_cases hzero : ∀ d' ∈ d :: ds, d' = 0
    · left
      refine ⟨hzero, ?_⟩
      rcases hmem with rfl | ⟨hv, -⟩
      · exact hzero v hd
      · exact hzero v hv
    · right
      have hv : v ∈ d :: ds := by
        rcases hmem with rfl | ⟨hv, -⟩
        · exact hd
        · exact hv
      refine ⟨hv, ?_, hall⟩
      rcases hfirst with hd0 | hzero' | ⟨d', hd', hneg⟩
      · rcases hmem with rfl | ⟨-, hne⟩
        · exact hd0
        · exact hne
      · exact absurd hzero' hzero
      · have := hall d' hd' hneg.ne
        omega

/-- Whoever listens after a sensor was enabled or disabled is that sensor, or did before. -/
theorem mem_of_mem_listenersAfter {l : List ℕ} {virt u : ℕ} {on : Bool}
    (h : u ∈ listenersAfter virt on l) : u = virt ∨ u ∈ l := by
  rw [listenersAfter] at h
  split_ifs at h
  · exact Or.inr h
  · exact (List.mem_append.mp h).symm.imp_left List.mem_singleton.mp
  · exact Or.inr (List.mem_of_mem_erase h)

/-! ## Runs -/

namespace Device

variable (dev : Device) (s : Contexts)

/-- What the sensors have asked for after a call. -/
def delaysAfter (call : Call) : ℕ → ℤ :=
  match dev.asks call with
  | none => s.delays
  | some (handle, delayNs) => Function.update s.delays handle delayNs

/-- The listeners of `w` after a call. -/
def listeners (call : Call) (w : ℕ) : List ℕ :=
  match call with
  | .activate handle on _ =>
    match dev.sensors[handle]? with
    | none => (s w).listener
    | some info =>
      if info.oneShot = false ∧ w ∈ info.depList then listenersAfter handle on (s w).listener
      else (s w).listener
  | .setDelay _ _ | .batch _ _ _ => (s w).listener

/-- After the call, the first listener of every hardware sensor counts. -/
def FirstListenersCount (call : Call) : Prop :=
  ∀ w < dev.sensors.length, dev.listeners s call w ≠ [] →
    FirstCounts ((dev.listeners s call w).map (dev.delaysAfter s call))

instance (call : Call) : Decidable (dev.FirstListenersCount s call) :=
  inferInstanceAs (Decidable (∀ w < dev.sensors.length, _))

end Device

/-- The driver of `w` was called with the shortest delay that one of its listeners has asked
for. -/
def Shortest (s : Contexts) (w : ℕ) : Prop :=
  ∃ v, (s w).setDelay = some v ∧ IsShortest ((s w).listener.map s.delays) v

/-- The drivers are up to date with `min_ns`, and the listeners depend on the hardware. -/
structure UpToDate (dev : Device) (s : Contexts) : Prop where
  dependsOn : ∀ w, ∀ u ∈ (s w).listener, dev.DependsOn u w
  setDelay : ∀ w, (s w).listener ≠ [] → (s w).setDelay = some (minNs s.delays (s w).listener)

theorem upToDate_start (dev : Device) (opens : ℕ → Bool) : UpToDate dev (dev.start opens) :=
  ⟨fun _ _ hu => absurd hu List.not_mem_nil, fun _ hne => absurd rfl hne⟩

/-- **One call.** The drivers stay up to date, and the listeners and delays are what the call
makes of them. -/
theorem UpToDate.step {call : Call} {out : List ℤ} (hI : UpToDate dev s)
    (hs : dev.machine.step s call = some (s', out)) :
    UpToDate dev s' ∧ s'.delays = dev.delaysAfter s call ∧
      ∀ w, (s' w).listener = dev.listeners s call w := by
  have hdoes : Does dev s call s' := does_of_step hs
  cases hdoes with
  | nothing _ hno hasks =>
    refine ⟨hI, by rw [Device.delaysAfter, hasks], fun w => ?_⟩
    cases call with
    | activate handle on opens => rw [Device.listeners, hno handle on opens rfl]
    | _ => rfl
  | oneShot handle on opens info hinfo hshot mEnabled =>
    have hkept : ∀ w, (s.modify handle (fun c => { c with enable := on, mEnabled }) w).listener =
        (s w).listener ∧ (s.modify handle (fun c => { c with enable := on, mEnabled }) w).setDelay =
        (s w).setDelay := by
      intro w
      by_cases hw : w = handle
      · subst hw
        rw [modify_self]
        exact ⟨rfl, rfl⟩
      · rw [modify_of_ne _ hw]
        exact ⟨rfl, rfl⟩
    have hdelays : (s.modify handle fun c => { c with enable := on, mEnabled }).delays =
        s.delays := delays_modify rfl
    refine ⟨⟨fun w u hu => ?_, fun w hne => ?_⟩, hdelays, fun w => ?_⟩
    · exact hI.dependsOn w u ((hkept w).1 ▸ hu)
    · rw [(hkept w).1] at hne
      rw [(hkept w).1, (hkept w).2, hdelays, hI.setDelay w hne]
    · rw [(hkept w).1, Device.listeners, hinfo]
      simp [hshot]
  | activated handle on opens info hinfo hshot _ henable hdelays hdeps hothers =>
    have hlistener : ∀ w, (s' w).listener = dev.listeners s (.activate handle on opens) w := by
      intro w
      simp only [Device.listeners, hinfo, hshot, true_and]
      exact listener_of_activated hdeps (fun w hw => (hothers w hw).1) w
    refine ⟨⟨fun w u hu => ?_, fun w hne => ?_⟩, hdelays, hlistener⟩
    · by_cases hw : w ∈ info.depList
      · rw [(hdeps w hw).listener] at hu
        rcases mem_of_mem_listenersAfter hu with rfl | hu
        · exact ⟨info, hinfo, hw⟩
        · exact hI.dependsOn w u hu
      · exact hI.dependsOn w u ((hothers w hw).1 ▸ hu)
    · by_cases hw : w ∈ info.depList
      · rw [(hdeps w hw).setDelay, syncedDelay, if_neg hne, hdelays]
      · rw [(hothers w hw).1] at hne
        rw [(hothers w hw).1, (hothers w hw).2.1, hdelays, hI.setDelay w hne]
  | requested _ hno handle delayNs hasks info hinfo _ hdelays hkept hdeps hothers =>
    refine ⟨⟨fun w u hu => ?_, fun w hne => ?_⟩, ?_, fun w => ?_⟩
    · exact hI.dependsOn w u ((hkept w).2.1 ▸ hu)
    · rw [(hkept w).2.1] at hne ⊢
      by_cases hw : w ∈ info.depList
      · rw [hdeps w hw, syncedDelay, if_neg hne]
      · -- the sensor that asks does not listen here
        have hsame : ∀ u ∈ (s w).listener, s'.delays u = s.delays u := by
          intro u hu
          rw [hdelays]
          refine Function.update_of_ne ?_ _ _
          rintro rfl
          obtain ⟨info', hinfo', hmem⟩ := hI.dependsOn w u hu
          rw [hinfo] at hinfo'
          exact hw (Option.some.inj hinfo' ▸ hmem)
        rw [hothers w hw, hI.setDelay w hne, minNs_eq, minNs_eq, List.map_congr_left hsame]
    · rw [Device.delaysAfter, hasks]
      exact hdelays
    · rw [(hkept w).2.1]
      cases call with
      | activate handle on opens => exact absurd rfl (hno handle on opens)
      | _ => rfl

/-- Nobody has listened to the hardware that no call has come to, and its driver was never called
with a delay. -/
def Untouched (v : List ℕ) (s : Contexts) : Prop :=
  ∀ w, w ∉ v → (s w).listener = [] ∧ (s w).setDelay = none

theorem Untouched.step {v : List ℕ} {e : Event Contexts Call ℤ} (hI : Untouched v e.pre)
    (hs : dev.machine.step e.pre e.label = some (e.post, e.out)) :
    Untouched (dev.reached v e) e.post := by
  obtain ⟨pre, call, out, post⟩ := e
  have hdoes : Does dev pre call post := does_of_step hs
  intro w hw
  have hv : w ∉ v := fun hmem => hw (List.mem_append_left _ hmem)
  obtain ⟨hempty, hnone⟩ : (pre w).listener = [] ∧ (pre w).setDelay = none := hI w hv
  show (post w).listener = [] ∧ (post w).setDelay = none
  cases hdoes with
  | nothing _ hno hasks => exact ⟨hempty, hnone⟩
  | oneShot handle on opens info hinfo hshot mEnabled =>
    by_cases heq : w = handle
    · subst heq
      rw [modify_self]
      exact ⟨hempty, hnone⟩
    · rw [modify_of_ne _ heq]
      exact ⟨hempty, hnone⟩
  | activated handle on opens info hinfo hshot _ henable hdelays hdeps hothers =>
    have hdep : w ∉ info.depList := by
      intro hmem
      apply hw
      simp [Device.reached, Device.reaches, hinfo, hmem]
    rw [(hothers w hdep).1, (hothers w hdep).2.1]
    exact ⟨hempty, hnone⟩
  | requested _ hno handle delayNs hasks info hinfo _ hdelays hkept hdeps hothers =>
    refine ⟨(hkept w).2.1.trans hempty, ?_⟩
    by_cases hdep : w ∈ info.depList
    · rw [hdeps w hdep, syncedDelay, if_pos hempty, hnone]
    · rw [hothers w hdep, hnone]

/-- In a run whose calls succeed, a driver that is enabled without listeners has its default. -/
theorem default_of_enabled {opens : ℕ → Bool} (hrun : Run dev.machine (dev.start opens) h s)
    (hok : ∀ e ∈ h, dev.Succeeds e.label) {w : ℕ} (hw : dev.IsHardware w)
    (hon : (s w).mEnabled = true) (hempty : (s w).listener = []) : (s w).setDelay = none := by
  have huntouched : Untouched (watch dev.reached [] h) s := by
    refine Run.watched_invariant (Q := fun _ _ => True) Untouched (fun _ _ => ⟨rfl, rfl⟩)
      (fun v e hI _ hs => hI.step hs) hrun ?_
    exact watched_const.mpr fun _ _ => trivial
  rcases (listens_run hrun hok).disabled w hw hempty with hoff | ⟨-, hno⟩
  · exact absurd (hoff.symm.trans hon) Bool.false_ne_true
  · exact (huntouched w hno).2

/-- **The runs in which the hardware is driven at the shortest delay** that was asked for are those
in which the first listener of every hardware sensor counts, after every call. A driver that is
enabled without listeners has its default, as long as all calls have succeeded. -/
theorem delay_iff {opens : ℕ → Bool} (hrun : Run dev.machine (dev.start opens) h s) :
    (∀ e ∈ h, dev.FirstListenersCount e.pre e.label) ↔
      ∀ h₁ e h₂, h = h₁ ++ e :: h₂ → ∀ w, ((e.post w).listener ≠ [] → Shortest e.post w) ∧
        ((e.post w).listener = [] → (∀ e' ∈ h₁ ++ [e], dev.Succeeds e'.label) →
          dev.IsHardware w → (e.post w).mEnabled = true → (e.post w).setDelay = none) := by
  have hiff : ∀ {s s' call out}, UpToDate dev s → dev.machine.step s call = some (s', out) →
      (dev.FirstListenersCount s call ↔
        ∀ w, (s' w).listener ≠ [] → Shortest s' w) := by
    intro s s' call out hI hs
    obtain ⟨hI', hdelays, hlistener⟩ := hI.step hs
    have hone : ∀ w, (s' w).listener ≠ [] → (Shortest s' w ↔
        FirstCounts ((dev.listeners s call w).map (dev.delaysAfter s call))) := by
      intro w hne
      rw [← hlistener, ← hdelays, ← isShortest_minNs hne, Shortest, hI'.setDelay w hne]
      simp
    constructor
    · intro hfirst w hne
      refine (hone w hne).mpr (hfirst w ?_ (hlistener w ▸ hne))
      -- whoever is listened to exists
      obtain ⟨u, hu⟩ := List.exists_mem_of_ne_nil _ hne
      obtain ⟨info, hinfo, -⟩ := isHardware_of_dependsOn (hI'.dependsOn w u hu)
      exact (List.getElem?_eq_some_iff.mp hinfo).1
    · intro hall w _ hne
      rw [← hlistener] at hne
      exact (hone w hne).mp (hall w hne)
  have hrun_iff : (∀ e ∈ h, dev.FirstListenersCount e.pre e.label) ↔
      ∀ e ∈ h, ∀ w, (e.post w).listener ≠ [] → Shortest e.post w := by
    refine Run.forall_iff (UpToDate dev) dev.FirstListenersCount
      (fun e => ∀ w, (e.post w).listener ≠ [] → Shortest e.post w) (upToDate_start dev opens)
      ?_ ?_ hrun
    · intro s call s' out hI hok hs
      exact ⟨(hI.step hs).1, (hiff hI hs).mp hok⟩
    · intro s call s' out hI hno hs hall
      exact hno ((hiff hI hs).mpr hall)
  rw [hrun_iff]
  constructor
  · rintro hall h₁ e h₂ rfl w
    refine ⟨hall e (by simp) w, fun hempty hok hw hon => ?_⟩
    obtain ⟨hpre, hs, -⟩ := Run.event hrun
    exact default_of_enabled (Run.snoc hpre hs) hok hw hon hempty
  · intro hall e he w
    obtain ⟨h₁, h₂, heq⟩ := List.append_of_mem he
    exact (hall h₁ e h₂ heq w).1

/-- The orientation asks for a delay before it is enabled, and so does the accelerometer, for a
shorter one: the accelerometer is driven at that. -/
theorem delay_orientation :
    ∃ h s, Run fourSensors.machine (fourSensors.start allOpen) h s ∧
      h.map Event.label = [.setDelay 5 66000000, .activate 5 true allOpen, .setDelay 0 20000000,
        .activate 0 true allOpen] ∧
      (s 0).setDelay = some 20000000 ∧
      ∀ e ∈ h, ∀ w, (e.post w).listener ≠ [] → Shortest e.post w := by
  obtain ⟨h, s, hrun, hl, hcheck⟩ := fourSensors.machine.exists_run (fourSensors.start allOpen)
    [.setDelay 5 66000000, .activate 5 true allOpen, .setDelay 0 20000000,
      .activate 0 true allOpen]
    (fun h s => decide ((s 0).setDelay = some 20000000) &&
      h.all fun e => decide (fourSensors.FirstListenersCount e.pre e.label)) (by decide +kernel)
  obtain ⟨hdelay, hcheck⟩ := Bool.and_eq_true_iff.mp hcheck
  refine ⟨h, s, hrun, hl, of_decide_eq_true hdelay, fun e he w => ?_⟩
  have hall := (delay_iff hrun).mp fun e he =>
    of_decide_eq_true (List.all_eq_true.mp hcheck e he)
  obtain ⟨h₁, h₂, heq⟩ := List.append_of_mem he
  exact (hall h₁ e h₂ heq w).1

/-- The accelerometer is enabled before it asks for anything, and then the orientation, which has
asked for a delay: the accelerometer is driven at zero. -/
theorem first_listener_silent :
    ∃ h s, Run fourSensors.machine (fourSensors.start allOpen) h s ∧
      h.map Event.label = [.activate 0 true allOpen, .setDelay 5 66000000,
        .activate 5 true allOpen] ∧
      (∀ e ∈ h, fourSensors.Succeeds e.label ∧ e.out = [0]) ∧
      (s 0).mEnabled = true ∧ (s 0).listener ≠ [] ∧ ¬ Shortest s 0 := by
  obtain ⟨h, s, hrun, hl, hcheck⟩ := fourSensors.machine.exists_run (fourSensors.start allOpen)
    [.activate 0 true allOpen, .setDelay 5 66000000, .activate 5 true allOpen]
    (fun h s => (s 0).mEnabled && decide ((s 0).listener = [0, 5]) &&
      decide ((s 0).setDelay = some 0 ∧ (s 0).delayNs = 0 ∧ (s 5).delayNs = 66000000) &&
      h.all fun e => decide (e.out = [0])) (by decide +kernel)
  simp only [Bool.and_eq_true, decide_eq_true_eq, List.all_eq_true] at hcheck
  obtain ⟨⟨⟨hon, hlistener⟩, hdelay, hzero, hasked⟩, hout⟩ := hcheck
  refine ⟨h, s, hrun, hl, fun e he => ⟨?_, hout e he⟩, hon, by simp [hlistener], ?_⟩
  · exact forall_label hl (by decide +kernel) e he
  · rintro ⟨v, hv, hshortest⟩
    obtain rfl := Option.some.inj (hdelay.symm.trans hv)
    rw [hlistener] at hshortest
    -- somebody has asked, so zero is not the shortest delay
    rcases hshortest with ⟨hnobody, -⟩ | ⟨-, hne, -⟩
    · have := hnobody (s.delays 5) (by simp)
      rw [Contexts.delays, hasked] at this
      cases this
    · exact hne rfl

end OppoA37.Sensors
