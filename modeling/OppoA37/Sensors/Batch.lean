import OppoA37.Lib.CInt
import OppoA37.Sensors.Calls

/-!
# Two ways to ask for a delay

`setDelay` and `batch` store a delay and bring the hardware up to date. They are the same call but
for two things: `setDelay` raises the delay to `minDelay` and refuses a delay of zero, which `batch`
does not; and on its way to `batch` a period goes through a parameter of type `int`.

`alike_iff` says for which periods they do the same to the delays, when the latency is zero. They do
for the periods from `minDelay` up to the greatest `int`, and by accident for a few below.
-/

namespace OppoA37.Sensors

open CInt

variable {dev : Device} {s s' : Contexts}

/-! ## Calls of the framework -/

namespace Device

variable (dev : Device) (s : Contexts)

/-- `poll__setDelay`; undefined where `minDelay * 1000` is computed and is no `int`. -/
def pollSetDelay (handle : ℕ) (ns : ℤ) : Option (Contexts × ℤ) :=
  match dev.sensors[handle]? with
  | none => some (dev.setDelay s handle ns)
  | some info =>
    if ns = 0 ∨ info.oneShot = true then some (dev.setDelay s handle ns)
    else (mul info.minDelay 1000).map fun _ => dev.setDelay s handle ns

/-- `poll__batch`; what it calls in `sensors_poll_context_t` has parameters of type `int`. -/
def pollBatch (handle : ℕ) (sampleNs latencyNs : ℤ) : Contexts × ℤ :=
  dev.batch s handle (toInt sampleNs) (toInt latencyNs)

end Device

/-- The same delays are stored, and the same delays are programmed. -/
def SameDelays (s s' : Contexts) : Prop :=
  ∀ w, (s w).delayNs = (s' w).delayNs ∧ (s w).setDelay = (s' w).setDelay

/-- For a period, `setDelay` leaves the same delays as `batch` with a latency of zero. -/
def Device.Alike (dev : Device) (s : Contexts) (handle : ℕ) (ns : ℤ) : Prop :=
  ∃ after, dev.pollSetDelay s handle ns = some after ∧
    SameDelays after.1 (dev.pollBatch s handle ns 0).1

/-! ## When they are alike -/

/-- A period is an `int` and not below `minDelay`; or below it, and what is left of it as an `int`
is `minDelay`. -/
def PeriodKept (info : SensorInfo) (ns : ℤ) : Prop :=
  IsInt (info.minDelay * 1000) ∧
    (info.minDelay * 1000 ≤ ns ∧ ns ≤ 2147483647 ∨
      ns < info.minDelay * 1000 ∧ 4294967296 ∣ info.minDelay * 1000 - ns)

/-- Nothing changes if a sensor asks for no delay: it has not asked before, and the hardware is
driven at what its listeners ask for. -/
def Contexts.AtRest (s : Contexts) (handle : ℕ) (info : SensorInfo) : Prop :=
  (s handle).delayNs = 0 ∧ ∀ w ∈ info.depList, (s w).listener ≠ [] →
    (s w).setDelay = some (minNs s.delays (s w).listener)

/-- Below `minDelay` a period is raised, and otherwise it stays: that is what is left as an `int`
just if the period is kept. -/
theorem toInt_eq_raised {info : SensorInfo} {ns : ℤ} (hmin : IsInt (info.minDelay * 1000)) :
    toInt ns = (if ns < info.minDelay * 1000 then info.minDelay * 1000 else ns) ↔
      PeriodKept info ns := by
  rw [PeriodKept, and_iff_right hmin]
  split_ifs with hlt
  · rw [toInt_eq_iff_dvd hmin]
    omega
  · rw [toInt_eq_self]
    rw [IsInt] at hmin ⊢
    omega

/-! ## What a call leaves -/

/-- A call that asks for nothing leaves everything. -/
theorem Does.eq_of_asks {call : Call} (h : Does dev s call s')
    (hno : ∀ handle on opens, call ≠ .activate handle on opens) (hasks : dev.asks call = none) :
    s' = s := by
  cases h with
  | nothing => rfl
  | oneShot handle on opens => exact absurd rfl (hno handle on opens)
  | activated handle on opens => exact absurd rfl (hno handle on opens)
  | requested _ _ handle delayNs hasks' =>
    rw [hasks] at hasks'
    exact absurd hasks' (Option.some_ne_none _).symm

/-- The delays that a call leaves are decided by what it asks for. -/
theorem Does.delays_of_asks {call : Call} (h : Does dev s call s') {handle : ℕ} {d : ℤ}
    (hasks : dev.asks call = some (handle, d)) {info : SensorInfo}
    (hinfo : dev.sensors[handle]? = some info) :
    s'.delays = Function.update s.delays handle d ∧ ∀ w, (s' w).setDelay =
      if w ∈ info.depList then syncedDelay s'.delays (s w).listener (s w).setDelay
      else (s w).setDelay := by
  cases h with
  | nothing _ _ hasks' =>
    rw [hasks] at hasks'
    exact absurd hasks' (Option.some_ne_none _)
  | oneShot handle on opens => exact absurd hasks (Option.some_ne_none _).symm
  | activated handle on opens => exact absurd hasks (Option.some_ne_none _).symm
  | requested _ _ handle' d' hasks' info' hinfo' _ hdelays _ hdeps hothers =>
    obtain ⟨rfl, rfl⟩ := Prod.mk.inj (Option.some.inj (hasks.symm.trans hasks'))
    obtain rfl := Option.some.inj (hinfo.symm.trans hinfo')
    refine ⟨hdelays, fun w => ?_⟩
    split_ifs with hw
    · exact hdeps w hw
    · exact hothers w hw

/-- Two calls leave the same delays just if they ask for the same delay. -/
theorem sameDelays_iff_of_asks {call call' : Call} {s₁ s₂ : Contexts} (h₁ : Does dev s call s₁)
    (h₂ : Does dev s call' s₂) {handle : ℕ} {d₁ d₂ : ℤ}
    (hasks₁ : dev.asks call = some (handle, d₁)) (hasks₂ : dev.asks call' = some (handle, d₂))
    {info : SensorInfo} (hinfo : dev.sensors[handle]? = some info) :
    SameDelays s₁ s₂ ↔ d₁ = d₂ := by
  obtain ⟨hdelays₁, hset₁⟩ := h₁.delays_of_asks hasks₁ hinfo
  obtain ⟨hdelays₂, hset₂⟩ := h₂.delays_of_asks hasks₂ hinfo
  constructor
  · intro hsame
    have hone : s₁.delays handle = s₂.delays handle := (hsame handle).1
    rwa [hdelays₁, hdelays₂, Function.update_self, Function.update_self] at hone
  · rintro rfl w
    have hdelays : s₁.delays = s₂.delays := hdelays₁.trans hdelays₂.symm
    refine ⟨congrFun hdelays w, ?_⟩
    rw [hset₁, hset₂, hdelays]

/-- A call that asks for no delay leaves the delays just if the sensor is at rest. -/
theorem sameDelays_iff_atRest {call : Call} (h : Does dev s call s') {handle : ℕ}
    (hasks : dev.asks call = some (handle, 0)) {info : SensorInfo}
    (hinfo : dev.sensors[handle]? = some info) : SameDelays s s' ↔ s.AtRest handle info := by
  obtain ⟨hdelays, hset⟩ := h.delays_of_asks hasks hinfo
  -- the delays are those of before just if there was none
  have hstay : (s handle).delayNs = 0 ↔ s'.delays = s.delays := by
    rw [hdelays, Function.update_eq_self_iff, eq_comm]
    rfl
  rw [Contexts.AtRest, hstay]
  constructor
  · intro hsame
    have hs' : s'.delays = s.delays := funext fun w => (hsame w).1.symm
    refine ⟨hs', fun w hw hne => ?_⟩
    rw [(hsame w).2, hset, if_pos hw, syncedDelay, if_neg hne, hs']
  · rintro ⟨hs', hdriven⟩ w
    refine ⟨(congrFun hs' w).symm, ?_⟩
    rw [hset, hs', syncedDelay]
    split_ifs with hw hempty
    · rfl
    · exact hdriven w hw hempty
    · rfl

/-- For a sensor that exists, `setDelay` has to be defined: it does not use `minDelay`, or can. -/
theorem alike_of_info {handle : ℕ} {ns : ℤ} {info : SensorInfo}
    (hinfo : dev.sensors[handle]? = some info) : dev.Alike s handle ns ↔
      (ns ≠ 0 → info.oneShot = false → IsInt (info.minDelay * 1000)) ∧
        SameDelays (dev.setDelay s handle ns).1 (dev.pollBatch s handle ns 0).1 := by
  simp only [Device.Alike, Device.pollSetDelay, hinfo]
  split_ifs with hskip
  · have hunused : ns ≠ 0 → info.oneShot = false → IsInt (info.minDelay * 1000) := by
      intro hne hshot
      rcases hskip with rfl | hskip
      · exact absurd rfl hne
      · exact absurd (hshot.symm.trans hskip) Bool.false_ne_true
    simp only [Option.some.injEq, exists_eq_left', and_iff_right hunused]
  · rw [not_or, Bool.not_eq_true] at hskip
    simp only [Option.map_eq_some_iff, mul_eq_some, hskip, forall_const, ne_eq, not_false_eq_true]
    constructor
    · rintro ⟨_, ⟨_, ⟨hint, -⟩, rfl⟩, hsame⟩
      exact ⟨hint, hsame⟩
    · rintro ⟨hint, hsame⟩
      exact ⟨_, ⟨_, ⟨hint, rfl⟩, rfl⟩, hsame⟩

/-- **Two ways to ask for a delay.** They are alike just for an unknown or one-shot sensor, for a
period that is kept, and for a period of zero if the sensor is at rest. -/
theorem alike_iff (dev : Device) (s : Contexts) (handle : ℕ) (ns : ℤ) :
    dev.Alike s handle ns ↔ ∀ info, dev.sensors[handle]? = some info → info.oneShot = false →
      if ns = 0 then s.AtRest handle info else PeriodKept info ns := by
  have hset : Does dev s (.setDelay handle ns) (dev.setDelay s handle ns).1 :=
    does_setDelay handle ns
  have hbatch : Does dev s (.batch handle (toInt ns) 0) (dev.pollBatch s handle ns 0).1 :=
    does_batch handle (toInt ns) 0
  have hself : SameDelays s s := fun _ => ⟨rfl, rfl⟩
  cases hinfo : dev.sensors[handle]? with
  | none =>
    -- neither knows the sensor
    have hset' := hset.eq_of_asks (by simp) (by simp only [Device.asks, hinfo])
    have hbatch' := hbatch.eq_of_asks (by simp) (by simp [Device.asks, hinfo])
    have hdefined : dev.pollSetDelay s handle ns = some (dev.setDelay s handle ns) := by
      simp only [Device.pollSetDelay, hinfo]
    refine iff_of_true ⟨_, hdefined, ?_⟩ fun _ hno => absurd hno (Option.some_ne_none _).symm
    rw [hset', hbatch']
    exact hself
  | some info =>
    rw [alike_of_info hinfo]
    simp only [Option.some.injEq, forall_eq']
    cases hshot : info.oneShot with
    | true =>
      -- both ignore the call
      have hset' := hset.eq_of_asks (by simp) (by simp [Device.asks, hinfo, hshot])
      have hbatch' := hbatch.eq_of_asks (by simp) (by simp [Device.asks, hinfo, hshot])
      rw [hset', hbatch']
      simp [hself]
    | false =>
      have hasks : dev.asks (.batch handle (toInt ns) 0) = some (handle, toInt ns) := by
        simp [Device.asks, hinfo, hshot]
      simp only [forall_const]
      split_ifs with hzero
      · -- only `batch` takes it
        subst hzero
        have hset' := hset.eq_of_asks (by simp) (by simp [Device.asks, hinfo])
        rw [hset', sameDelays_iff_atRest hbatch hasks hinfo]
        simp
      · have hasks' : dev.asks (.setDelay handle ns) = some (handle,
            if ns < info.minDelay * 1000 then info.minDelay * 1000 else ns) := by
          simp [Device.asks, hinfo, hshot, hzero]
        rw [sameDelays_iff_of_asks hset hbatch hasks' hasks hinfo, eq_comm]
        constructor
        · rintro ⟨hmin, hsame⟩
          exact (toInt_eq_raised (hmin hzero)).mp hsame
        · intro hkept
          exact ⟨fun _ => hkept.1, (toInt_eq_raised hkept.1).mpr hkept⟩

/-- An accelerometer with a `minDelay` of 10 ms is asked for events every 5 ms. -/
theorem not_alike_short : ¬ (Device.found [⟨.accelerometer, false, 10000, 0⟩] fun _ => false).Alike
    (fun _ => {}) 0 5000000 := by
  rintro ⟨after, hafter, hsame⟩
  obtain rfl := Option.some.inj hafter
  exact absurd (hsame 0).1 (by decide)

end OppoA37.Sensors
