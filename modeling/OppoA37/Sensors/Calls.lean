import OppoA37.Sensors.NativeSensorManager

/-!
# What the calls do to the contexts

A call works on the context of its sensor and, in a loop, on the contexts of the sensors it
depends on. A turn of such a loop only touches its own context, and what the other contexts have
asked for stays the same, so the loop can be read off context by context.
-/

namespace OppoA37.Sensors

open Lts

variable {dev : Device} {s s' : Contexts}

/-- What the sensors have asked for. -/
def Contexts.delays (s : Contexts) : ℕ → ℤ := fun w => (s w).delayNs

/-- The listeners of a sensor, once `virt` is enabled or disabled. -/
def listenersAfter (virt : ℕ) (enable : Bool) (listener : List ℕ) : List ℕ :=
  if enable then if virt ∈ listener then listener else listener ++ [virt]
  else listener.erase virt

/-- The delay of a driver is up to date: while there are listeners, it is `min_ns`. -/
def syncedDelay (delays : ℕ → ℤ) (listener : List ℕ) (old : Option ℤ) : Option ℤ :=
  if listener = [] then old else some (minNs delays listener)

/-- A context of a loop keeps what it has asked for. -/
structure Keeps (c c' : SensorContext) : Prop where
  enable : c'.enable = c.enable
  delayNs : c'.delayNs = c.delayNs

/-- What a turn of the loop in `activate` does to its context. -/
structure Activated (handle : ℕ) (on : Bool) (delays : ℕ → ℤ) (opens : Bool)
    (c c' : SensorContext) : Prop where
  listener : c'.listener = listenersAfter handle on c.listener
  setDelay : c'.setDelay = syncedDelay delays c'.listener c.setDelay
  mEnabled : opens = true →
    c'.mEnabled = if on then true else if c'.listener = [] then false else c.mEnabled

/-- What a turn of the loop in `setDelay` or `batch` does to its context. -/
structure Synced (delays : ℕ → ℤ) (c c' : SensorContext) : Prop where
  listener : c'.listener = c.listener
  setDelay : c'.setDelay = syncedDelay delays c'.listener c.setDelay
  mEnabled : c'.mEnabled = c.mEnabled

/-! ## Single steps -/

@[simp] theorem modify_self (w : ℕ) (f : SensorContext → SensorContext) :
    s.modify w f w = f (s w) := Function.update_self _ _ _

theorem modify_of_ne {w w' : ℕ} (f : SensorContext → SensorContext) (h : w' ≠ w) :
    s.modify w f w' = s w' := Function.update_of_ne h _ _

@[simp] theorem modify_modify (w : ℕ) (f g : SensorContext → SensorContext) :
    (s.modify w f).modify w g = s.modify w fun c => g (f c) := by
  rw [Contexts.modify, modify_self, Contexts.modify, Function.update_idem, Contexts.modify]

theorem modify_id {w : ℕ} {f : SensorContext → SensorContext} (h : f (s w) = s w) :
    s.modify w f = s := by
  rw [Contexts.modify, h, Function.update_eq_self]

/-- The other contexts ask for what they did, and so does one that keeps its own delay. -/
theorem delays_modify {w : ℕ} {f : SensorContext → SensorContext}
    (h : (f (s w)).delayNs = (s w).delayNs) : (s.modify w f).delays = s.delays := by
  funext w'
  by_cases hw : w' = w
  · subst hw
    rw [Contexts.delays, modify_self, h, Contexts.delays]
  · rw [Contexts.delays, modify_of_ne f hw, Contexts.delays]

theorem registerListener_eq (hw virt : ℕ) : s.registerListener hw virt =
    s.modify hw fun c => { c with listener := listenersAfter virt true c.listener } := by
  rw [Contexts.registerListener]
  split_ifs with hmem
  · exact (modify_id (by simp [listenersAfter, hmem])).symm
  · rw [Contexts.modify, Contexts.modify]
    simp [listenersAfter, hmem]

theorem syncDelay_eq (w : ℕ) : Device.syncDelay s w =
    s.modify w fun c => { c with setDelay := syncedDelay s.delays c.listener c.setDelay } := by
  rw [Device.syncDelay]
  split_ifs with hempty
  · exact (modify_id (by rw [syncedDelay, if_pos hempty])).symm
  · rw [Contexts.modify, Contexts.modify, syncedDelay, if_neg hempty]
    rfl

/-- `syncLatency` changes the latency of its driver only. -/
theorem syncLatency_spec (dev : Device) (s : Contexts) (w : ℕ) : ∃ latency,
    dev.syncLatency s w = s.modify w fun c => { c with setLatency := latency } := by
  rw [Device.syncLatency]
  split_ifs
  · exact ⟨(s w).setLatency, (modify_id rfl).symm⟩
  · exact ⟨(s w).setLatency, (modify_id rfl).symm⟩
  · exact ⟨_, rfl⟩

/-- A driver is enabled or disabled, if its file can be opened. -/
theorem driverEnable_spec (s : Contexts) (driver : Option Driver) (opens : Bool) (w : ℕ)
    (on : Bool) : ∃ mEnabled, (s.driverEnable driver opens w on).1 =
      s.modify w (fun c => { c with mEnabled }) ∧ (opens = true → mEnabled = on) := by
  rw [Contexts.driverEnable]
  split_ifs with hopens hsame
  · exact ⟨on, rfl, fun _ => rfl⟩
  · exact ⟨(s w).mEnabled, (modify_id rfl).symm, fun h => absurd (Or.inr h) hopens⟩
  · exact ⟨(s w).mEnabled, (modify_id rfl).symm, fun h => absurd (Or.inr h) hopens⟩

/-! ## Loops -/

/-- A turn of the loop in `activate`. -/
theorem activateDep_spec (dev : Device) (opens : ℕ → Bool) (handle : ℕ) (on : Bool)
    (s : Contexts) (dep : ℕ) : ∃ f, dev.activateDep opens handle on s dep = s.modify dep f ∧
      Keeps (s dep) (f (s dep)) ∧
      Activated handle on s.delays (opens dep) (s dep) (f (s dep)) := by
  cases on with
  | true =>
    obtain ⟨latency, hlatency⟩ := syncLatency_spec dev (s.registerListener dep handle) dep
    obtain ⟨mEnabled, henable, hopens⟩ := driverEnable_spec
      (dev.syncLatency (s.registerListener dep handle) dep) (dev.driver dep) (opens dep) dep true
    refine ⟨fun c => { c with
      listener := listenersAfter handle true c.listener
      setDelay := syncedDelay s.delays (listenersAfter handle true c.listener) c.setDelay
      mEnabled
      setLatency := latency }, ?_, ⟨rfl, rfl⟩, ⟨rfl, rfl, hopens⟩⟩
    rw [Device.activateDep, if_pos rfl]
    show Device.syncDelay ((dev.syncLatency (s.registerListener dep handle) dep).driverEnable
      (dev.driver dep) (opens dep) dep true).1 dep = _
    rw [henable, hlatency, registerListener_eq, modify_modify, modify_modify, syncDelay_eq,
      modify_modify, delays_modify rfl]
  | false =>
    rw [Device.activateDep, if_neg Bool.false_ne_true]
    by_cases hempty : (s dep).listener = []
    · -- nobody is to be unregistered
      obtain ⟨mEnabled, henable, hopens⟩ :=
        driverEnable_spec s (dev.driver dep) (opens dep) dep false
      refine ⟨fun c => { c with mEnabled }, ?_, ⟨rfl, rfl⟩, ⟨?_, ?_, fun h => ?_⟩⟩
      · simp only [hempty, ne_eq, not_true_eq_false, if_false, if_true, henable]
      · simp [listenersAfter, hempty]
      · simp [syncedDelay, hempty]
      · simp [hopens h, hempty]
    · obtain ⟨latency, hlatency⟩ :=
        syncLatency_spec dev (Device.syncDelay (s.unregisterListener dep handle) dep) dep
      have hunregister : dev.syncLatency (Device.syncDelay (s.unregisterListener dep handle) dep)
          dep = s.modify dep fun c => { c with
            listener := listenersAfter handle false c.listener
            setDelay := syncedDelay s.delays (listenersAfter handle false c.listener) c.setDelay
            setLatency := latency } := by
        rw [hlatency, syncDelay_eq, Contexts.unregisterListener, modify_modify, modify_modify,
          delays_modify rfl]
        rfl
      simp only [ne_eq, hempty, not_false_eq_true, if_true, hunregister, modify_self]
      by_cases hlast : listenersAfter handle false (s dep).listener = []
      · obtain ⟨mEnabled, henable, hopens⟩ := driverEnable_spec (s.modify dep fun c => { c with
            listener := listenersAfter handle false c.listener
            setDelay := syncedDelay s.delays (listenersAfter handle false c.listener) c.setDelay
            setLatency := latency }) (dev.driver dep) (opens dep) dep false
        rw [if_pos hlast, henable, modify_modify]
        exact ⟨_, rfl, ⟨rfl, rfl⟩, ⟨rfl, rfl, fun h => by simp [hopens h, hlast]⟩⟩
      · rw [if_neg hlast]
        exact ⟨_, rfl, ⟨rfl, rfl⟩, ⟨rfl, rfl, fun _ => by simp [hlast]⟩⟩

/-- **Loops over contexts.** A loop whose turns change their own context only, and not what it
has asked for, does to each context what a single turn would. -/
theorem foldl_cells {op : Contexts → ℕ → Contexts}
    {R : (ℕ → ℤ) → ℕ → SensorContext → SensorContext → Prop}
    (hop : ∀ s dep, ∃ f, op s dep = s.modify dep f ∧ Keeps (s dep) (f (s dep)) ∧
      R s.delays dep (s dep) (f (s dep))) {deps : List ℕ} (hdeps : deps.Nodup) (s : Contexts) :
    (∀ w, Keeps (s w) (deps.foldl op s w)) ∧
      (∀ w ∈ deps, R s.delays w (s w) (deps.foldl op s w)) ∧
      ∀ w ∉ deps, deps.foldl op s w = s w := by
  induction deps generalizing s with
  | nil =>
    exact ⟨fun _ => ⟨rfl, rfl⟩, fun w hw => absurd hw List.not_mem_nil, fun _ _ => rfl⟩
  | cons dep deps ih =>
    obtain ⟨hnot, hdeps⟩ := List.nodup_cons.mp hdeps
    obtain ⟨f, hf, hkeep, hR⟩ := hop s dep
    obtain ⟨hkeeps, hin, hout⟩ := ih hdeps (op s dep)
    rw [List.foldl_cons]
    rw [hf] at hkeeps hin hout ⊢
    rw [delays_modify hkeep.delayNs] at hin
    refine ⟨fun w => ?_, ?_, ?_⟩
    · have hstep : Keeps (s w) (s.modify dep f w) := by
        by_cases hw : w = dep
        · subst hw
          rwa [modify_self]
        · rw [modify_of_ne f hw]
          exact ⟨rfl, rfl⟩
      exact ⟨(hkeeps w).enable.trans hstep.enable, (hkeeps w).delayNs.trans hstep.delayNs⟩
    · intro w hw
      rcases List.mem_cons.mp hw with rfl | hmem
      · rw [hout w hnot, modify_self]
        exact hR
      · have hne : w ≠ dep := by
          rintro rfl
          exact hnot hmem
        have hcell := hin w hmem
        rwa [modify_of_ne f hne] at hcell
    · intro w hw
      rw [hout w fun h => hw (List.mem_cons_of_mem _ h), modify_of_ne f]
      rintro rfl
      exact hw List.mem_cons_self

/-- The loop in `activate`. -/
theorem foldl_activateDep (dev : Device) (opens : ℕ → Bool) (handle : ℕ) (on : Bool) {deps : List ℕ}
    (hdeps : deps.Nodup) (s : Contexts) :
    (∀ w, Keeps (s w) (deps.foldl (dev.activateDep opens handle on) s w)) ∧
      (∀ w ∈ deps, Activated handle on s.delays (opens w) (s w)
        (deps.foldl (dev.activateDep opens handle on) s w)) ∧
      ∀ w ∉ deps, deps.foldl (dev.activateDep opens handle on) s w = s w :=
  foldl_cells (R := fun delays w => Activated handle on delays (opens w))
    (fun s dep => activateDep_spec dev opens handle on s dep) hdeps s

/-- The loop in `setDelay`. -/
theorem foldl_syncDelay {deps : List ℕ} (hdeps : deps.Nodup) (s : Contexts) :
    (∀ w, Keeps (s w) (deps.foldl Device.syncDelay s w)) ∧
      (∀ w ∈ deps, Synced s.delays (s w) (deps.foldl Device.syncDelay s w)) ∧
      ∀ w ∉ deps, deps.foldl Device.syncDelay s w = s w :=
  foldl_cells (R := fun delays _ => Synced delays)
    (fun _ dep => ⟨_, syncDelay_eq dep, ⟨rfl, rfl⟩, ⟨rfl, rfl, rfl⟩⟩) hdeps s

/-- The loop in `batch`. -/
theorem foldl_syncBoth (dev : Device) {deps : List ℕ} (hdeps : deps.Nodup) (s : Contexts) :
    (∀ w, Keeps (s w)
      (deps.foldl (fun s dep => dev.syncLatency (Device.syncDelay s dep) dep) s w)) ∧
      (∀ w ∈ deps, Synced s.delays (s w)
        (deps.foldl (fun s dep => dev.syncLatency (Device.syncDelay s dep) dep) s w)) ∧
      ∀ w ∉ deps, deps.foldl (fun s dep => dev.syncLatency (Device.syncDelay s dep) dep) s w =
        s w :=
  foldl_cells (R := fun delays _ => Synced delays)
    (fun s dep => by
      obtain ⟨latency, hlatency⟩ := syncLatency_spec dev (Device.syncDelay s dep) dep
      rw [hlatency, syncDelay_eq, modify_modify]
      exact ⟨_, rfl, ⟨rfl, rfl⟩, ⟨rfl, rfl, rfl⟩⟩) hdeps s

/-! ## Calls -/

/-- The sensor that asks for a delay with a call, and the delay. -/
def Device.asks (dev : Device) : Call → Option (ℕ × ℤ)
  | .activate _ _ _ => none
  | .setDelay handle ns =>
    match dev.sensors[handle]? with
    | none => none
    | some info =>
      if ns = 0 then none
      else if info.oneShot then none
      else some (handle, if ns < info.minDelay * 1000 then info.minDelay * 1000 else ns)
  | .batch handle sampleNs latencyNs =>
    if latencyNs ≠ 0 ∧ latencyNs < sampleNs then none
    else
      match dev.sensors[handle]? with
      | none => none
      | some info => if info.oneShot then none else some (handle, sampleNs)

/-- The calls, by what they do to the contexts. -/
inductive Does (dev : Device) (s : Contexts) : Call → Contexts → Prop where
  /-- the call is refused, or ignored -/
  | nothing (call : Call)
    (hno : ∀ handle on opens, call = .activate handle on opens → dev.sensors[handle]? = none)
    (hasks : dev.asks call = none) : Does dev s call s
  /-- a one-shot sensor is enabled or disabled -/
  | oneShot (handle : ℕ) (on : Bool) (opens : ℕ → Bool) (info : SensorInfo)
    (hinfo : dev.sensors[handle]? = some info) (hshot : info.oneShot = true) (mEnabled : Bool) :
    Does dev s (.activate handle on opens)
      (s.modify handle fun c => { c with enable := on, mEnabled })
  /-- any other sensor is enabled or disabled -/
  | activated (handle : ℕ) (on : Bool) (opens : ℕ → Bool) (info : SensorInfo)
    (hinfo : dev.sensors[handle]? = some info) (hshot : info.oneShot = false) (s' : Contexts)
    (henable : ∀ w, (s' w).enable = if w = handle then on else (s w).enable)
    (hdelays : s'.delays = s.delays)
    (hdeps : ∀ w ∈ info.depList, Activated handle on s.delays (opens w) (s w) (s' w))
    (hothers : ∀ w ∉ info.depList, (s' w).listener = (s w).listener ∧
      (s' w).setDelay = (s w).setDelay ∧ (w ≠ handle → (s' w).mEnabled = (s w).mEnabled)) :
    Does dev s (.activate handle on opens) s'
  /-- a sensor asks for a delay -/
  | requested (call : Call) (hno : ∀ handle on opens, call ≠ .activate handle on opens)
    (handle : ℕ) (delayNs : ℤ) (hasks : dev.asks call = some (handle, delayNs))
    (info : SensorInfo) (hinfo : dev.sensors[handle]? = some info) (s' : Contexts)
    (hdelays : s'.delays = Function.update s.delays handle delayNs)
    (hkept : ∀ w, (s' w).enable = (s w).enable ∧ (s' w).listener = (s w).listener ∧
      (s' w).mEnabled = (s w).mEnabled)
    (hdeps : ∀ w ∈ info.depList,
      (s' w).setDelay = syncedDelay s'.delays (s w).listener (s w).setDelay)
    (hothers : ∀ w ∉ info.depList, (s' w).setDelay = (s w).setDelay) : Does dev s call s'

/-- Who listens to hardware after a sensor was enabled or disabled. -/
theorem listener_of_activated {handle : ℕ} {on : Bool} {opens : ℕ → Bool} {depList : List ℕ}
    (hdeps : ∀ w ∈ depList, Activated handle on s.delays (opens w) (s w) (s' w))
    (hothers : ∀ w ∉ depList, (s' w).listener = (s w).listener) (w : ℕ) :
    (s' w).listener =
      if w ∈ depList then listenersAfter handle on (s w).listener else (s w).listener := by
  split_ifs with hw
  · exact (hdeps w hw).listener
  · exact hothers w hw

/-- The contexts of a loop over the dependencies keep what they have asked for. -/
theorem delays_of_keeps (h : ∀ w, Keeps (s w) (s' w)) : s'.delays = s.delays :=
  funext fun w => (h w).delayNs

/-- A virtual sensor is not one of its dependencies. -/
theorem ne_of_mem_depList {handle w : ℕ} {info : SensorInfo}
    (hinfo : dev.sensors[handle]? = some info) (hvirtual : info.isVirtual = true)
    (hw : w ∈ info.depList) : w ≠ handle := by
  rintro rfl
  obtain ⟨base, hbase, hno⟩ := dev.wellFormed.base w info hinfo w hw
  rw [hinfo] at hbase
  obtain rfl := Option.some.inj hbase
  exact Bool.false_ne_true (hno.symm.trans hvirtual)

/-- `activate` is the loop over the dependencies; only the driver of a virtual sensor comes after
it. -/
theorem activate_eq (s : Contexts) (opens : ℕ → Bool) {handle : ℕ} (on : Bool) {info : SensorInfo}
    (hinfo : dev.sensors[handle]? = some info) (hshot : info.oneShot = false) :
    ∃ mEnabled, (dev.activate s opens handle on).1 =
        (info.depList.foldl (dev.activateDep opens handle on)
          (s.modify handle fun c => { c with enable := on })).modify handle
            (fun c => { c with mEnabled }) ∧
      (info.isVirtual = false → mEnabled = (info.depList.foldl (dev.activateDep opens handle on)
        (s.modify handle fun c => { c with enable := on }) handle).mEnabled) := by
  simp only [Device.activate, hinfo, hshot, Bool.false_eq_true, if_false]
  split_ifs with hvirtual
  · obtain ⟨mEnabled, henable, -⟩ := driverEnable_spec
      (info.depList.foldl (dev.activateDep opens handle on)
        (s.modify handle fun c => { c with enable := on })) info.driver (opens handle) handle on
    exact ⟨mEnabled, henable, fun h => absurd (h.symm.trans hvirtual) Bool.false_ne_true⟩
  · exact ⟨_, (modify_id rfl).symm, fun _ => rfl⟩

/-- A call of `activate` for a sensor that is not one-shot. -/
theorem does_activate (opens : ℕ → Bool) {handle : ℕ} (on : Bool) {info : SensorInfo}
    (hinfo : dev.sensors[handle]? = some info) (hshot : info.oneShot = false) :
    Does dev s (.activate handle on opens) (dev.activate s opens handle on).1 := by
  obtain ⟨hkeeps, hin, hout⟩ := foldl_activateDep dev opens handle on
    (dev.wellFormed.nodup handle info hinfo)
    (s.modify handle fun c => { c with enable := on })
  rw [delays_modify rfl] at hin
  -- the loop finds all of a context but `enable` as it was
  have hfirst : ∀ w, ∃ enable, (s.modify handle fun c => { c with enable := on }) w =
      { s w with enable } ∧ enable = if w = handle then on else (s w).enable := by
    intro w
    by_cases hw : w = handle
    · subst hw
      exact ⟨on, by rw [modify_self], by rw [if_pos rfl]⟩
    · exact ⟨(s w).enable, modify_of_ne _ hw, by rw [if_neg hw]⟩
  obtain ⟨mEnabled, hlast, hhw⟩ := activate_eq s opens on hinfo hshot
  generalize info.depList.foldl (dev.activateDep opens handle on)
    (s.modify handle fun c => { c with enable := on }) = s₂ at *
  -- and the driver of a virtual sensor is its own
  have hsame : ∀ w, ∃ m, (dev.activate s opens handle on).1 w = { s₂ w with mEnabled := m } ∧
      (w ∈ info.depList ∨ w ≠ handle → m = (s₂ w).mEnabled) := by
    intro w
    rw [hlast]
    by_cases hw : w = handle
    · subst hw
      refine ⟨mEnabled, by rw [modify_self], ?_⟩
      rintro (hmem | hne)
      · refine hhw ?_
        by_contra hvirtual
        exact ne_of_mem_depList hinfo (Bool.eq_true_of_not_eq_false hvirtual) hmem rfl
      · exact absurd rfl hne
    · exact ⟨(s₂ w).mEnabled, modify_of_ne _ hw, fun _ => rfl⟩
  refine .activated handle on opens info hinfo hshot _ (fun w => ?_) ?_ (fun w hw => ?_)
    fun w hw => ?_
  · obtain ⟨m, hm, -⟩ := hsame w
    obtain ⟨enable, he, heq⟩ := hfirst w
    rw [hm, ← heq]
    show (s₂ w).enable = enable
    rw [(hkeeps w).enable, he]
  · funext w
    obtain ⟨m, hm, -⟩ := hsame w
    obtain ⟨enable, he, -⟩ := hfirst w
    show ((dev.activate s opens handle on).1 w).delayNs = (s w).delayNs
    rw [hm]
    show (s₂ w).delayNs = _
    rw [(hkeeps w).delayNs, he]
  · obtain ⟨m, hm, hmEnabled⟩ := hsame w
    obtain ⟨enable, he, -⟩ := hfirst w
    have hcell := hin w hw
    rw [he] at hcell
    rw [hm, hmEnabled (Or.inl hw)]
    exact ⟨hcell.listener, hcell.setDelay, hcell.mEnabled⟩
  · obtain ⟨m, hm, hmEnabled⟩ := hsame w
    obtain ⟨enable, he, -⟩ := hfirst w
    rw [hm]
    refine ⟨?_, ?_, fun hne => ?_⟩
    · show (s₂ w).listener = _
      rw [hout w hw, he]
    · show (s₂ w).setDelay = _
      rw [hout w hw, he]
    · rw [hmEnabled (Or.inr hne), hout w hw, he]

/-- A loop that brings the delays up to date, after a sensor has asked for one. -/
theorem does_request {call : Call} (hno : ∀ handle on opens, call ≠ .activate handle on opens)
    {handle : ℕ} {delayNs : ℤ} (hasks : dev.asks call = some (handle, delayNs))
    {info : SensorInfo} (hinfo : dev.sensors[handle]? = some info)
    {f : SensorContext → SensorContext}
    (hloop : (∀ w, Keeps (s.modify handle f w) (s' w)) ∧
      (∀ w ∈ info.depList, Synced (s.modify handle f).delays (s.modify handle f w) (s' w)) ∧
      ∀ w ∉ info.depList, s' w = s.modify handle f w)
    (hf : ∀ c, (f c).enable = c.enable ∧ (f c).delayNs = delayNs ∧ (f c).listener = c.listener ∧
      (f c).mEnabled = c.mEnabled ∧ (f c).setDelay = c.setDelay) : Does dev s call s' := by
  obtain ⟨hkeeps, hin, hout⟩ := hloop
  have hdelays : s'.delays = (s.modify handle f).delays := delays_of_keeps hkeeps
  have hfirst : ∀ w, (s.modify handle f w).enable = (s w).enable ∧
      (s.modify handle f w).listener = (s w).listener ∧
      (s.modify handle f w).mEnabled = (s w).mEnabled ∧
      (s.modify handle f w).setDelay = (s w).setDelay := by
    intro w
    by_cases hw : w = handle
    · subst hw
      rw [modify_self]
      exact ⟨(hf _).1, (hf _).2.2.1, (hf _).2.2.2.1, (hf _).2.2.2.2⟩
    · rw [modify_of_ne f hw]
      exact ⟨rfl, rfl, rfl, rfl⟩
  refine .requested call hno handle delayNs hasks info hinfo s' ?_ (fun w => ?_)
    (fun w hw => ?_) fun w hw => ?_
  · rw [hdelays]
    funext w
    by_cases hw : w = handle
    · subst hw
      rw [Contexts.delays, modify_self, (hf _).2.1, Function.update_self]
    · rw [Contexts.delays, modify_of_ne f hw, Function.update_of_ne hw, Contexts.delays]
  · by_cases hw : w ∈ info.depList
    · exact ⟨(hkeeps w).enable.trans (hfirst w).1, (hin w hw).listener.trans (hfirst w).2.1,
        (hin w hw).mEnabled.trans (hfirst w).2.2.1⟩
    · rw [hout w hw]
      exact ⟨(hfirst w).1, (hfirst w).2.1, (hfirst w).2.2.1⟩
  · rw [(hin w hw).setDelay, (hin w hw).listener, (hfirst w).2.1, (hfirst w).2.2.2, hdelays]
  · rw [hout w hw, (hfirst w).2.2.2]

/-- A call of `setDelay`. -/
theorem does_setDelay (handle : ℕ) (ns : ℤ) :
    Does dev s (.setDelay handle ns) (dev.setDelay s handle ns).1 := by
  have hnothing : dev.asks (.setDelay handle ns) = none → Does dev s (.setDelay handle ns) s :=
    .nothing _ (by simp)
  cases hinfo : dev.sensors[handle]? with
  | none =>
    simp only [Device.setDelay, Device.asks, hinfo] at hnothing ⊢
    exact hnothing trivial
  | some info =>
    by_cases hzero : ns = 0
    · simp only [Device.setDelay, Device.asks, hinfo, if_pos hzero] at hnothing ⊢
      exact hnothing trivial
    · by_cases hshot : info.oneShot = true
      · simp only [Device.setDelay, Device.asks, hinfo, if_neg hzero, if_pos hshot] at hnothing ⊢
        exact hnothing trivial
      · have hasks : dev.asks (.setDelay handle ns) = some (handle,
            if ns < info.minDelay * 1000 then info.minDelay * 1000 else ns) := by
          simp only [Device.asks, hinfo, if_neg hzero, if_neg hshot]
        have hloop := foldl_syncDelay (dev.wellFormed.nodup handle info hinfo)
          (s.modify handle fun c => { c with
            delayNs := if ns < info.minDelay * 1000 then info.minDelay * 1000 else ns })
        simp only [Device.setDelay, hinfo, if_neg hzero, if_neg hshot]
        exact does_request (by simp) hasks hinfo hloop fun _ => ⟨rfl, rfl, rfl, rfl, rfl⟩

/-- A call of `batch`. -/
theorem does_batch (handle : ℕ) (sampleNs latencyNs : ℤ) :
    Does dev s (.batch handle sampleNs latencyNs) (dev.batch s handle sampleNs latencyNs).1 := by
  have hnothing : dev.asks (.batch handle sampleNs latencyNs) = none →
      Does dev s (.batch handle sampleNs latencyNs) s := .nothing _ (by simp)
  by_cases hlatency : latencyNs ≠ 0 ∧ latencyNs < sampleNs
  · simp only [Device.batch, Device.asks, if_pos hlatency] at hnothing ⊢
    exact hnothing trivial
  · cases hinfo : dev.sensors[handle]? with
    | none =>
      simp only [Device.batch, Device.asks, if_neg hlatency, hinfo] at hnothing ⊢
      exact hnothing trivial
    | some info =>
      by_cases hshot : info.oneShot = true
      · simp only [Device.batch, Device.asks, if_neg hlatency, hinfo, if_pos hshot] at hnothing ⊢
        exact hnothing trivial
      · have hasks : dev.asks (.batch handle sampleNs latencyNs) = some (handle, sampleNs) := by
          simp only [Device.asks, if_neg hlatency, hinfo, if_neg hshot]
        have hloop := foldl_syncBoth dev (dev.wellFormed.nodup handle info hinfo)
          (s.modify handle fun c => { c with delayNs := sampleNs, latencyNs := latencyNs })
        simp only [Device.batch, if_neg hlatency, hinfo, if_neg hshot]
        exact does_request (by simp) hasks hinfo hloop fun _ => ⟨rfl, rfl, rfl, rfl, rfl⟩

/-- Every call is one of these. -/
theorem does_of_step {call : Call} {out : List ℤ} (hs : dev.machine.step s call = some (s', out)) :
    Does dev s call s' := by
  cases call with
  | activate handle on opens =>
    simp only [Device.machine] at hs
    split_ifs at hs
    obtain ⟨rfl, -⟩ := Prod.mk.inj (Option.some.inj hs)
    cases hinfo : dev.sensors[handle]? with
    | none =>
      have hsame : (dev.activate s opens handle on).1 = s := by
        simp only [Device.activate, hinfo]
      rw [hsame]
      refine .nothing _ (fun h on opens heq => ?_) rfl
      obtain ⟨rfl, -, -⟩ := Call.activate.inj heq
      exact hinfo
    | some info =>
      by_cases hshot : info.oneShot = true
      · obtain ⟨mEnabled, henable, -⟩ := driverEnable_spec
          (s.modify handle fun c => { c with enable := on }) info.driver (opens handle) handle on
        simp only [Device.activate, hinfo, hshot, if_true, henable, modify_modify]
        exact .oneShot handle on opens info hinfo hshot mEnabled
      · exact does_activate opens on hinfo (Bool.eq_false_of_not_eq_true hshot)
  | setDelay handle ns =>
    obtain ⟨rfl, -⟩ := Prod.mk.inj (Option.some.inj hs)
    exact does_setDelay handle ns
  | batch handle sampleNs latencyNs =>
    obtain ⟨rfl, -⟩ := Prod.mk.inj (Option.some.inj hs)
    exact does_batch handle sampleNs latencyNs

end OppoA37.Sensors
