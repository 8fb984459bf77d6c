import OppoA37.Hidl.Thermal.ThermalHelper
import OppoA37.Lib.FanOut

/-!
# The callbacks of `Thermal.cpp`

The framework registers callbacks for changed temperatures, of one type or of all, and the
watcher's notifications are handed to them. `callbacks_` is edited by three calls:

* `registerThermalChangedCallback` appends, unless the object is there already;
* `unregisterThermalChangedCallback` removes what is equal to its argument;
* `sendThermalChangedCallback` goes through the list once for every temperature, and removes the
  callbacks whose transport fails.

A callback is an interface pointer; two of them may stand for one object, and `interfacesEqual`
says so. It is a parameter here, an equivalence of the pointers.
-/

namespace OppoA37.Thermal

open Lts FanOut

/-- `ThermalStatusCode` -/
inductive ThermalStatusCode where
  | success
  | failure
  deriving DecidableEq, Repr

/-- `ThermalStatus` -/
structure ThermalStatus where
  /-- `code` -/
  code : ThermalStatusCode
  /-- `debugMessage` -/
  debugMessage : String
  deriving DecidableEq, Repr

/-- `CallbackSetting` -/
structure CallbackSetting (Cb : Type*) where
  /-- `callback` -/
  callback : Cb
  /-- `is_filter_type` -/
  isFilterType : Bool
  /-- `type` -/
  type : TemperatureType
  deriving DecidableEq

/-- A call that works on `callbacks_`. -/
inductive CallbackCall (Cb F : Type*) where
  /-- a framework call; `none` is `nullptr` -/
  | registerThermalChangedCallback (callback : Option Cb) (filterType : Bool)
    (type : TemperatureType)
  /-- a framework call; `none` is `nullptr` -/
  | unregisterThermalChangedCallback (callback : Option Cb)
  /-- a notification; `isOk i cb` is how the transport of `cb` fares with the `i`-th one -/
  | sendThermalChangedCallback (temps : List (Temperature F)) (isOk : ℕ → Cb → Bool)

/-- What a call shows. -/
inductive CallbackOut (Cb F : Type*) where
  /-- `_hidl_cb` -/
  | hidlCb (status : ThermalStatus)
  /-- `notifyThrottling`, and whether its `Return` is ok -/
  | notifyThrottling (callback : Cb) (t : Temperature F) (isOk : Bool)
  deriving DecidableEq

variable {Cb F : Type*}

/-! ## Notifications -/

/-- Does the filter let the temperature through? -/
def CallbackSetting.wants (c : CallbackSetting Cb) (t : Temperature F) : Bool :=
  !c.isFilterType || t.type = c.type

/-- The predicate of `sendThermalChangedCallback`, at the `m.2`-th temperature. -/
def notifyCallback (isOk : ℕ → Cb → Bool) (m : Temperature F × ℕ) (c : CallbackSetting Cb) :
    Bool × List (CallbackOut Cb F) :=
  if c.wants m.1 then
    (!isOk m.2 c.callback, [.notifyThrottling c.callback m.1 (isOk m.2 c.callback)])
  else (false, [])

/-- `sendThermalChangedCallback` -/
def sendThermalChangedCallback (callbacks : List (CallbackSetting Cb))
    (temps : List (Temperature F)) (isOk : ℕ → Cb → Bool) :
    List (CallbackSetting Cb) × List (CallbackOut Cb F) :=
  fanOut (notifyCallback isOk) callbacks temps.zipIdx

/-- The temperatures that `c` wants, with their places. -/
def CallbackSetting.wanted (c : CallbackSetting Cb) (temps : List (Temperature F)) :
    List (Temperature F × ℕ) :=
  temps.zipIdx.filter fun m => c.wants m.1

/-- What a registered callback is told by a notification, and whether it stays. -/
inductive IsTold (c : CallbackSetting Cb) (temps : List (Temperature F)) (isOk : ℕ → Cb → Bool) :
    List (Temperature F × Bool) → Prop → Prop where
  /-- it is told all that it wants, once and in order -/
  | all {stays : Prop} :
      (∀ m ∈ c.wanted temps, isOk m.2 c.callback = true) → stays →
      IsTold c temps isOk ((c.wanted temps).map fun m => (m.1, true)) stays
  /-- its transport fails, and it is told nothing after that -/
  | dead {stays : Prop} {before after : List (Temperature F × ℕ)} {m : Temperature F × ℕ} :
      c.wanted temps = before ++ m :: after →
      (∀ m' ∈ before, isOk m'.2 c.callback = true) → isOk m.2 c.callback = false → ¬ stays →
      IsTold c temps isOk ((before.map fun m' => (m'.1, true)) ++ [(m.1, false)]) stays

variable {c c' : CallbackSetting Cb} {temps : List (Temperature F)} {isOk : ℕ → Cb → Bool}
  {ms : List (Temperature F × ℕ)} {callbacks : List (CallbackSetting Cb)}

/-- A callback stays if nothing that it was told failed. -/
theorem IsTold.stays_iff {told : List (Temperature F × Bool)} {stays : Prop}
    (h : IsTold c temps isOk told stays) : stays ↔ told.all Prod.snd = true := by
  cases h with
  | all _ hstays => simp [hstays]
  | dead _ _ _ hno => simp [hno]

/-- A callback is dropped at a temperature that it wants and that does not arrive. -/
theorem notifyCallback_fst (m : Temperature F × ℕ) :
    (notifyCallback isOk m c).1 = true ↔ c.wants m.1 = true ∧ isOk m.2 c.callback = false := by
  rw [notifyCallback]
  split_ifs with hwants <;> simp [hwants]

/-- What the predicate leaves behind is a notification of the callback it is applied to. -/
theorem eq_of_mem_notifyCallback {m : Temperature F × ℕ} {o : CallbackOut Cb F}
    (ho : o ∈ (notifyCallback isOk m c).2) :
    c.wants m.1 = true ∧ o = .notifyThrottling c.callback m.1 (isOk m.2 c.callback) := by
  rw [notifyCallback] at ho
  split_ifs at ho with hwants
  · exact ⟨hwants, List.mem_singleton.mp ho⟩
  · cases ho

theorem ok_of_kept (h : ∀ m ∈ ms, (notifyCallback isOk m c).1 = false) :
    ∀ m ∈ ms.filter fun m => c.wants m.1, isOk m.2 c.callback = true := by
  intro m hm
  obtain ⟨hmem, hwants⟩ := List.mem_filter.mp hm
  by_contra hno
  have hdrop : (notifyCallback isOk m c).1 = true :=
    (notifyCallback_fst m).mpr ⟨hwants, Bool.not_eq_true _ ▸ hno⟩
  exact Bool.false_ne_true ((h m hmem).symm.trans hdrop)

theorem map_ok (h : ∀ m ∈ ms, isOk m.2 c.callback = true) :
    (ms.map fun m => (m.1, isOk m.2 c.callback)) = ms.map fun m => (m.1, true) :=
  List.map_congr_left fun m hm => by rw [h m hm]

/-! ## Calls -/

variable [Setoid Cb] [DecidableRel fun a b : Cb => a ≈ b]

/-- `interfacesEqual` -/
def interfacesEqual (left right : Cb) : Bool := decide (left ≈ right)

@[simp] theorem interfacesEqual_eq_true {left right : Cb} :
    interfacesEqual left right = true ↔ left ≈ right := decide_eq_true_iff

@[simp] theorem interfacesEqual_eq_false {left right : Cb} :
    interfacesEqual left right = false ↔ ¬ left ≈ right := decide_eq_false_iff_not

/-- `registerThermalChangedCallback` -/
def registerThermalChangedCallback (callbacks : List (CallbackSetting Cb)) (callback : Option Cb)
    (filterType : Bool) (type : TemperatureType) : List (CallbackSetting Cb) × ThermalStatus :=
  match callback with
  | none => (callbacks, ⟨.failure, "Invalid nullptr callback"⟩)
  | some callback =>
    if callbacks.any fun c => interfacesEqual c.callback callback then
      (callbacks, ⟨.failure, "Same callback registered already"⟩)
    else (callbacks ++ [⟨callback, filterType, type⟩], ⟨.success, ""⟩)

/-- `unregisterThermalChangedCallback`; what the predicate leaves behind are the settings that it
logs, one at least if `removed`. -/
def unregisterThermalChangedCallback (callbacks : List (CallbackSetting Cb))
    (callback : Option Cb) : List (CallbackSetting Cb) × ThermalStatus :=
  match callback with
  | none => (callbacks, ⟨.failure, "Invalid nullptr callback"⟩)
  | some callback =>
    let (rest, removed) := removeIf
      (fun c => if interfacesEqual c.callback callback then (true, [c]) else (false, [])) callbacks
    if removed.isEmpty then (rest, ⟨.failure, "The callback was not registered before"⟩)
    else (rest, ⟨.success, ""⟩)

/-- A call, with what it shows. -/
def CallbackCall.run (callbacks : List (CallbackSetting Cb)) :
    CallbackCall Cb F → List (CallbackSetting Cb) × List (CallbackOut Cb F)
  | .registerThermalChangedCallback callback filterType type =>
    let r := OppoA37.Thermal.registerThermalChangedCallback callbacks callback filterType type
    (r.1, [.hidlCb r.2])
  | .unregisterThermalChangedCallback callback =>
    let r := OppoA37.Thermal.unregisterThermalChangedCallback callbacks callback
    (r.1, [.hidlCb r.2])
  | .sendThermalChangedCallback temps isOk =>
    OppoA37.Thermal.sendThermalChangedCallback callbacks temps isOk

variable (Cb F) in
/-- The machine of `callbacks_`. Its mutex makes each call one step. -/
def callbackMachine :
    Machine (List (CallbackSetting Cb)) (CallbackCall Cb F) (CallbackOut Cb F) where
  step callbacks call := some (call.run callbacks)

/-! ## What a callback is told -/

/-- The notification that an output is, if it goes to the object of `c`. -/
def CallbackSetting.notified (c : CallbackSetting Cb) :
    CallbackOut Cb F → Option (Temperature F × Bool)
  | .hidlCb _ => none
  | .notifyThrottling callback t isOk =>
    if interfacesEqual callback c.callback then some (t, isOk) else none

/-- Does an output go to the object of `c`? -/
def CallbackSetting.owns (c : CallbackSetting Cb) (o : CallbackOut Cb F) : Bool :=
  (c.notified o).isSome

/-- The notifications to the object of `c`, and how they went. -/
def CallbackSetting.told (c : CallbackSetting Cb) (out : List (CallbackOut Cb F)) :
    List (Temperature F × Bool) :=
  out.filterMap c.notified

theorem told_append (out out' : List (CallbackOut Cb F)) :
    c.told (out ++ out') = c.told out ++ c.told out' :=
  List.filterMap_append

theorem told_notifyCallback (m : Temperature F × ℕ) :
    c.told (notifyCallback isOk m c).2 =
      if c.wants m.1 then [(m.1, isOk m.2 c.callback)] else [] := by
  rw [notifyCallback]
  split_ifs <;> simp [CallbackSetting.told, CallbackSetting.notified]

/-- What it is told of some temperatures are those that it wants. -/
theorem told_flatMap (ms : List (Temperature F × ℕ)) :
    c.told (ms.flatMap fun m => (notifyCallback isOk m c).2) =
      (ms.filter fun m => c.wants m.1).map fun m => (m.1, isOk m.2 c.callback) := by
  induction ms with
  | nil => rfl
  | cons m ms ih =>
    rw [List.flatMap_cons, told_append, ih, told_notifyCallback]
    by_cases hwants : c.wants m.1 <;> simp [hwants]

/-- A callback that has the list for itself. -/
theorem isTold_alone (c : CallbackSetting Cb) (temps : List (Temperature F))
    (isOk : ℕ → Cb → Bool) :
    IsTold c temps isOk (c.told (alone (notifyCallback isOk) c temps.zipIdx).2)
      ((alone (notifyCallback isOk) c temps.zipIdx).1 = true) := by
  rcases alone_cases (p := notifyCallback isOk) c temps.zipIdx with
    ⟨hkept, heq⟩ | ⟨before, m, after, hms, hkept, hdrop, heq⟩
  · rw [heq, told_flatMap, map_ok (ok_of_kept hkept)]
    exact IsTold.all (ok_of_kept hkept) rfl
  · obtain ⟨hwants, hno⟩ := (notifyCallback_fst m).mp hdrop
    have hwanted : c.wanted temps = (before.filter fun m' => c.wants m'.1) ++
        m :: after.filter fun m' => c.wants m'.1 := by
      simp [CallbackSetting.wanted, hms, hwants]
    rw [heq, told_append, told_flatMap, map_ok (ok_of_kept hkept), told_notifyCallback,
      if_pos hwants, hno]
    exact IsTold.dead hwanted (ok_of_kept hkept) hno Bool.false_ne_true

/-! ## What the calls do -/

variable {callback : Cb} {filterType : Bool} {type : TemperatureType}

/-- No object is there twice. -/
def Unique (callbacks : List (CallbackSetting Cb)) : Prop :=
  callbacks.Pairwise fun c c' => ¬ c.callback ≈ c'.callback

/-- A new object is appended, and a registered one is refused. -/
theorem register_spec (callbacks : List (CallbackSetting Cb)) (callback : Cb)
    (filterType : Bool) (type : TemperatureType) :
    ((∀ c ∈ callbacks, ¬ c.callback ≈ callback) ∧
      registerThermalChangedCallback callbacks (some callback) filterType type =
        (callbacks ++ [⟨callback, filterType, type⟩], ⟨.success, ""⟩)) ∨
    (∃ c ∈ callbacks, c.callback ≈ callback) ∧
      registerThermalChangedCallback callbacks (some callback) filterType type =
        (callbacks, ⟨.failure, "Same callback registered already"⟩) := by
  rw [registerThermalChangedCallback]
  split_ifs with hany
  · obtain ⟨c, hc, heq⟩ := List.any_eq_true.mp hany
    exact Or.inr ⟨⟨c, hc, interfacesEqual_eq_true.mp heq⟩, rfl⟩
  · refine Or.inl ⟨fun c hc heq => hany ?_, rfl⟩
    exact List.any_eq_true.mpr ⟨c, hc, interfacesEqual_eq_true.mpr heq⟩

/-- An object that is there once is taken out of its place. -/
theorem filter_of_unique {l₁ l₂ : List (CallbackSetting Cb)} (hunique : Unique (l₁ ++ c :: l₂))
    (heq : c.callback ≈ callback) :
    (l₁ ++ c :: l₂).filter (fun c => !interfacesEqual c.callback callback) = l₁ ++ l₂ := by
  obtain ⟨-, hright, hcross⟩ := List.pairwise_append.mp hunique
  have hl₁ : ∀ c' ∈ l₁, (!interfacesEqual c'.callback callback) = true := by
    intro c' hc'
    have hne : ¬ c'.callback ≈ callback := fun heq' =>
      hcross c' hc' c List.mem_cons_self (Setoid.trans heq' (Setoid.symm heq))
    simp [hne]
  have hl₂ : ∀ c' ∈ l₂, (!interfacesEqual c'.callback callback) = true := by
    intro c' hc'
    have hne : ¬ c'.callback ≈ callback := fun heq' =>
      (List.pairwise_cons.mp hright).1 c' hc' (Setoid.trans heq (Setoid.symm heq'))
    simp [hne]
  rw [List.filter_append, List.filter_cons_of_neg (by simp [heq]), List.filter_eq_self.mpr hl₁,
    List.filter_eq_self.mpr hl₂]

theorem unregister_eq (callbacks : List (CallbackSetting Cb)) (callback : Cb) :
    unregisterThermalChangedCallback callbacks (some callback) =
      (callbacks.filter fun c => !interfacesEqual c.callback callback,
        if callbacks.any fun c => interfacesEqual c.callback callback then ⟨.success, ""⟩
        else ⟨.failure, "The callback was not registered before"⟩) := by
  let p : CallbackSetting Cb → Bool × List (CallbackSetting Cb) := fun c =>
    if interfacesEqual c.callback callback then (true, [c]) else (false, [])
  have hdrop : ∀ c, (p c).1 = interfacesEqual c.callback callback := by
    intro c
    by_cases heq : c.callback ≈ callback <;> simp [p, interfacesEqual, heq]
  have hremoved : (callbacks.flatMap fun c => (p c).2).isEmpty =
      !callbacks.any fun c => interfacesEqual c.callback callback := by
    induction callbacks with
    | nil => rfl
    | cons c l ih =>
      by_cases heq : c.callback ≈ callback
      · simp [p, interfacesEqual, heq]
      · simpa [p, interfacesEqual, heq] using ih
  rw [unregisterThermalChangedCallback, removeIf_eq p]
  simp only [hdrop, hremoved]
  by_cases hany : callbacks.any fun c => interfacesEqual c.callback callback <;> simp [hany]

/-- The one registration of an object is removed, and an object that is not there is refused. -/
theorem unregister_spec (hunique : Unique callbacks) (callback : Cb) :
    (∃ l₁ c l₂, callbacks = l₁ ++ c :: l₂ ∧ c.callback ≈ callback ∧
      unregisterThermalChangedCallback callbacks (some callback) =
        (l₁ ++ l₂, ⟨.success, ""⟩)) ∨
    (∀ c ∈ callbacks, ¬ c.callback ≈ callback) ∧
      unregisterThermalChangedCallback callbacks (some callback) =
        (callbacks, ⟨.failure, "The callback was not registered before"⟩) := by
  rw [unregister_eq]
  by_cases hmem : ∃ c ∈ callbacks, c.callback ≈ callback
  · obtain ⟨c, hc, heq⟩ := hmem
    obtain ⟨l₁, l₂, rfl⟩ := List.append_of_mem hc
    refine Or.inl ⟨l₁, c, l₂, rfl, heq, ?_⟩
    rw [filter_of_unique hunique heq, if_pos]
    exact List.any_eq_true.mpr ⟨c, hc, interfacesEqual_eq_true.mpr heq⟩
  · have hne : ∀ c ∈ callbacks, ¬ c.callback ≈ callback := fun c hc heq => hmem ⟨c, hc, heq⟩
    refine Or.inr ⟨hne, ?_⟩
    rw [List.filter_eq_self.mpr fun c hc => by simp [hne c hc], if_neg]
    intro hany
    obtain ⟨c, hc, heq⟩ := List.any_eq_true.mp hany
    exact hne c hc (interfacesEqual_eq_true.mp heq)

theorem told_filter (out : List (CallbackOut Cb F)) :
    c.told (out.filter c.owns) = c.told out := by
  induction out with
  | nil => rfl
  | cons o out ih =>
    cases ho : c.notified o with
    | none => simpa [CallbackSetting.told, CallbackSetting.owns, ho] using ih
    | some r => simpa [CallbackSetting.told, CallbackSetting.owns, ho] using ih

/-- A notification tells every registered callback by itself. -/
theorem send_spec (hunique : Unique callbacks) (temps : List (Temperature F))
    (isOk : ℕ → Cb → Bool) (hc : c ∈ callbacks) :
    IsTold c temps isOk (c.told (sendThermalChangedCallback callbacks temps isOk).2)
      (c ∈ (sendThermalChangedCallback callbacks temps isOk).1) := by
  obtain ⟨l₁, l₂, rfl⟩ := List.append_of_mem hc
  obtain ⟨-, hright, hcross⟩ := List.pairwise_append.mp hunique
  have hapart : ∀ c' : CallbackSetting Cb, ¬ c'.callback ≈ c.callback →
      Apart (notifyCallback (F := F) isOk) CallbackSetting.owns c c' := by
    intro c' hne m o ho
    obtain ⟨-, rfl⟩ := eq_of_mem_notifyCallback ho
    simp [CallbackSetting.owns, CallbackSetting.notified, hne]
  have hself : ∀ m, ∀ o ∈ (notifyCallback (F := F) isOk m c).2, c.owns o = true := by
    intro m o ho
    obtain ⟨-, rfl⟩ := eq_of_mem_notifyCallback ho
    simp [CallbackSetting.owns, CallbackSetting.notified]
  have hout := fanOut_filter hself
    (fun c' hc' => hapart c' (hcross c' hc' c List.mem_cons_self))
    (fun c' hc' => hapart c' fun heq =>
      (List.pairwise_cons.mp hright).1 c' hc' (Setoid.symm heq)) temps.zipIdx
  have htold : c.told (sendThermalChangedCallback (l₁ ++ c :: l₂) temps isOk).2 =
      c.told (alone (notifyCallback isOk) c temps.zipIdx).2 := by
    rw [sendThermalChangedCallback, ← told_filter, hout]
  have hstays : c ∈ (sendThermalChangedCallback (l₁ ++ c :: l₂) temps isOk).1 ↔
      (alone (notifyCallback isOk) c temps.zipIdx).1 = true := by
    rw [sendThermalChangedCallback, fanOut_fst, List.mem_filter, and_iff_right hc]
  rw [htold, propext hstays]
  exact isTold_alone c temps isOk

/-! ## Runs -/

/-- An answer of a framework call with `SUCCESS`. -/
def CallbackOut.isSuccess : CallbackOut Cb F → Bool
  | .hidlCb status => status.code = .success
  | .notifyThrottling _ _ _ => false

/-- A call was answered with `SUCCESS`. -/
def succeeded (out : List (CallbackOut Cb F)) : Bool := out.any CallbackOut.isSuccess

/-- What is registered, by how the calls were answered and how the notifications went. -/
def registered (v : List (CallbackSetting Cb))
    (e : Event (List (CallbackSetting Cb)) (CallbackCall Cb F) (CallbackOut Cb F)) :
    List (CallbackSetting Cb) :=
  match e.label with
  | .registerThermalChangedCallback (some callback) filterType type =>
    if succeeded e.out then v ++ [⟨callback, filterType, type⟩] else v
  | .unregisterThermalChangedCallback (some callback) =>
    if succeeded e.out then v.filter fun c => !interfacesEqual c.callback callback else v
  | .sendThermalChangedCallback _ _ => v.filter fun c => (c.told e.out).all Prod.snd
  | _ => v

/-- What a call does when `v` is registered. -/
structure Serves (v : List (CallbackSetting Cb))
    (e : Event (List (CallbackSetting Cb)) (CallbackCall Cb F) (CallbackOut Cb F)) : Prop where
  /-- `callbacks_` is what is registered -/
  callbacks : e.post = registered v e
  /-- no object is registered twice -/
  unique : Unique e.post
  /-- a registration succeeds if the object is new, and is added -/
  registers : ∀ callback filterType type,
    e.label = .registerThermalChangedCallback (some callback) filterType type →
      (succeeded e.out = true ↔ ∀ c ∈ v, ¬ c.callback ≈ callback) ∧
      e.post = if succeeded e.out then v ++ [⟨callback, filterType, type⟩] else v
  /-- a removal succeeds if the object is registered, and removes exactly that registration -/
  unregisters : ∀ callback, e.label = .unregisterThermalChangedCallback (some callback) →
    (succeeded e.out = true ∧ ∃ l₁ c l₂, v = l₁ ++ c :: l₂ ∧ c.callback ≈ callback ∧
      e.post = l₁ ++ l₂) ∨
    (succeeded e.out = false ∧ (∀ c ∈ v, ¬ c.callback ≈ callback) ∧ e.post = v)
  /-- what is registered is told of a notification, and stays unless its transport fails -/
  tells : ∀ temps isOk, e.label = .sendThermalChangedCallback temps isOk →
    (∀ c ∈ v, IsTold c temps isOk (c.told e.out) (c ∈ e.post)) ∧ e.post.Sublist v
  /-- nobody else is told anything -/
  others : ∀ callback t isOk, .notifyThrottling callback t isOk ∈ e.out →
    ∃ c ∈ v, c.callback = callback ∧ c.wants t = true

/-- A framework call that is refused. -/
theorem serves_refused {call : CallbackCall Cb F} {debugMessage : String}
    (hunique : Unique callbacks)
    (hsend : ∀ temps isOk, call ≠ .sendThermalChangedCallback temps isOk)
    (hregister : ∀ callback filterType type,
      call = .registerThermalChangedCallback (some callback) filterType type →
      ∃ c ∈ callbacks, c.callback ≈ callback)
    (hunregister : ∀ callback, call = .unregisterThermalChangedCallback (some callback) →
      ∀ c ∈ callbacks, ¬ c.callback ≈ callback) :
    Serves callbacks ⟨callbacks, call, [.hidlCb ⟨.failure, debugMessage⟩], callbacks⟩ where
  callbacks := by
    rcases call with ⟨_ | _, _, _⟩ | ⟨_ | _⟩ | ⟨temps, isOk⟩
    · rfl
    · rfl
    · rfl
    · rfl
    · exact absurd rfl (hsend temps isOk)
  unique := hunique
  registers := by
    intro callback filterType type heq
    obtain ⟨c, hc, hequal⟩ := hregister callback filterType type heq
    refine ⟨⟨fun hno => ?_, fun hnew => absurd hequal (hnew c hc)⟩, rfl⟩
    simp [succeeded, CallbackOut.isSuccess] at hno
  unregisters := fun callback heq => Or.inr ⟨rfl, hunregister callback heq, rfl⟩
  tells := fun temps isOk heq => absurd heq (hsend temps isOk)
  others := by simp

theorem serves_register (hunique : Unique callbacks)
    (hnew : ∀ c ∈ callbacks, ¬ c.callback ≈ callback) :
    Serves (F := F) callbacks ⟨callbacks,
      .registerThermalChangedCallback (some callback) filterType type,
      [.hidlCb ⟨.success, ""⟩], callbacks ++ [⟨callback, filterType, type⟩]⟩ where
  callbacks := rfl
  unique := by
    refine List.pairwise_append.mpr ⟨hunique, List.pairwise_singleton _ _, fun c hc c' hc' => ?_⟩
    rw [List.mem_singleton.mp hc']
    exact hnew c hc
  registers := by
    rintro _ _ _ ⟨⟩
    exact ⟨⟨fun _ => hnew, fun _ => rfl⟩, rfl⟩
  unregisters := by simp
  tells := by simp
  others := by simp

theorem serves_unregister {l₁ l₂ : List (CallbackSetting Cb)} (hunique : Unique (l₁ ++ c :: l₂))
    (hequal : c.callback ≈ callback) :
    Serves (F := F) (l₁ ++ c :: l₂) ⟨l₁ ++ c :: l₂,
      .unregisterThermalChangedCallback (some callback), [.hidlCb ⟨.success, ""⟩],
      l₁ ++ l₂⟩ where
  callbacks := (filter_of_unique hunique hequal).symm
  unique := hunique.sublist ((List.sublist_cons_self c l₂).append_left l₁)
  registers := by simp
  unregisters := by
    rintro _ ⟨⟩
    exact Or.inl ⟨rfl, l₁, c, l₂, rfl, hequal, rfl⟩
  tells := by simp
  others := by simp

theorem serves_send (hunique : Unique callbacks) (temps : List (Temperature F))
    (isOk : ℕ → Cb → Bool) :
    Serves callbacks ⟨callbacks, .sendThermalChangedCallback temps isOk,
      (sendThermalChangedCallback callbacks temps isOk).2,
      (sendThermalChangedCallback callbacks temps isOk).1⟩ := by
  have hsub : (sendThermalChangedCallback callbacks temps isOk).1.Sublist callbacks := by
    rw [sendThermalChangedCallback, fanOut_fst]
    exact List.filter_sublist
  refine ⟨?_, hunique.sublist hsub, by simp, by simp, ?_, ?_⟩
  · change (sendThermalChangedCallback callbacks temps isOk).1 = callbacks.filter _
    conv_lhs => rw [sendThermalChangedCallback, fanOut_fst]
    refine List.filter_congr fun c hc => ?_
    have hstays := (send_spec hunique temps isOk hc).stays_iff
    rw [sendThermalChangedCallback, fanOut_fst, List.mem_filter, and_iff_right hc] at hstays
    exact Bool.eq_iff_iff.mpr hstays
  · rintro _ _ ⟨⟩
    exact ⟨fun c hc => send_spec hunique temps isOk hc, hsub⟩
  · intro callback t ok hmem
    obtain ⟨c, hc, m, -, ho⟩ := mem_fanOut_snd hmem
    obtain ⟨hwants, heq⟩ := eq_of_mem_notifyCallback ho
    obtain ⟨rfl, rfl, -⟩ := CallbackOut.notifyThrottling.inj heq
    exact ⟨c, hc, rfl, hwants⟩

/-- A call while the callbacks are distinct. -/
theorem serves_call (hunique : Unique callbacks) (call : CallbackCall Cb F) :
    Serves callbacks ⟨callbacks, call, (call.run callbacks).2, (call.run callbacks).1⟩ := by
  cases call with
  | registerThermalChangedCallback callback filterType type =>
    cases callback with
    | none => exact serves_refused hunique (by simp) (by simp) (by simp)
    | some callback =>
      simp only [CallbackCall.run]
      rcases register_spec callbacks callback filterType type with ⟨hnew, heq⟩ | ⟨hold, heq⟩
      · rw [heq]
        exact serves_register hunique hnew
      · rw [heq]
        refine serves_refused hunique (by simp) ?_ (by simp)
        rintro _ _ _ ⟨⟩
        exact hold
  | unregisterThermalChangedCallback callback =>
    cases callback with
    | none => exact serves_refused hunique (by simp) (by simp) (by simp)
    | some callback =>
      simp only [CallbackCall.run]
      rcases unregister_spec hunique callback with ⟨l₁, c, l₂, rfl, hequal, heq⟩ | ⟨hno, heq⟩
      · rw [heq]
        exact serves_unregister hunique hequal
      · rw [heq]
        apply serves_refused hunique (by simp) (by simp)
        rintro _ ⟨⟩
        exact hno
  | sendThermalChangedCallback temps isOk => exact serves_send hunique temps isOk

/-- **Registration, removal and notification.** -/
theorem fanOut_run {s : List (CallbackSetting Cb)}
    {h : List (Event (List (CallbackSetting Cb)) (CallbackCall Cb F) (CallbackOut Cb F))}
    (hr : Run (callbackMachine Cb F) [] h s) : Watched registered [] Serves h := by
  refine Run.watched_of (Q := fun _ _ => True) (fun v s => v = s ∧ Unique s)
    ⟨rfl, List.Pairwise.nil⟩ ?_ hr fun _ _ _ _ => trivial
  rintro v ⟨_, call, out, callbacks'⟩ ⟨rfl, hunique⟩ - hs
  have hrun : call.run v = (callbacks', out) := Option.some.inj hs
  have hserves := serves_call hunique call
  rw [hrun] at hserves
  exact ⟨⟨hserves.callbacks.symm, hserves.unique⟩, hserves⟩

/-- A proxy of an object in another process. -/
structure Proxy where
  object : ℕ
  proxy : ℕ
  deriving DecidableEq

/-- Proxies are equal if they stand for one object. -/
instance : Setoid Proxy where
  r a b := a.object = b.object
  iseqv := ⟨fun _ => rfl, Eq.symm, Eq.trans⟩

instance : DecidableRel fun a b : Proxy => a ≈ b :=
  fun a b => inferInstanceAs (Decidable (a.object = b.object))

/-- One object registers twice, and another one for skin temperatures only; its transport fails
at the first of them, and it has nothing left to unregister. -/
def listening : List (CallbackCall Proxy ℕ) :=
  [.registerThermalChangedCallback (some ⟨1, 0⟩) false .unknown,
    .registerThermalChangedCallback (some ⟨1, 1⟩) true .cpu,
    .registerThermalChangedCallback (some ⟨2, 0⟩) true .skin,
    .sendThermalChangedCallback [⟨.cpu, "cpu0", 90, .severe⟩, ⟨.skin, "skin", 44, .light⟩,
      ⟨.skin, "skin", 45, .light⟩] (fun i cb => cb.object = 1 || i = 0),
    .unregisterThermalChangedCallback (some ⟨2, 0⟩),
    .unregisterThermalChangedCallback (some ⟨1, 1⟩)]

/-- In the end nothing is registered. -/
theorem fanOut_listening : ∃ h, Run (callbackMachine Proxy ℕ) [] h [] ∧
    h.map Event.label = listening ∧ Watched registered [] Serves h := by
  obtain ⟨h, s, hr, hl, hcheck⟩ := (callbackMachine Proxy ℕ).exists_run [] listening
    (fun h s => s.isEmpty && (h.map fun e => e.out.length) = [1, 1, 1, 4, 1, 1]) (by decide +kernel)
  obtain rfl : s = [] := List.isEmpty_iff.mp (Bool.and_eq_true_iff.mp hcheck).1
  exact ⟨h, hr, hl, fanOut_run hr⟩

end OppoA37.Thermal
