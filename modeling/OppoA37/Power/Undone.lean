import OppoA37.Power.FreqCap

/-!
# The caps are undone

When nobody else writes the file, a hint that leaves a mode on should leave the lower one of the
original limit and the caps, and a hint that leaves both off the original limit, although reads
and writes may fail.

A read that fails does no harm. A write that fails does no harm either while the file still has the
original limit, or when it would not have changed the file; otherwise `applied_cap` does not tell
any more what is in the file, and the original limit is lost: it is not restored, or the cap is
saved in its place. And a cap above the original limit raises it.
-/

namespace OppoA37.Power

open Lts

/-- What a hint leaves behind, if `limit` was there first. -/
def Undoes (limit : ℕ) (e : Event PowerHal Step Out) : Prop :=
  ∀ how, .returns how ∈ e.out →
    -- a mode is on, and the cap was written
    (e.post.activeCaps ≠ [] → how = .capped true → e.post.scalingMaxFreq = e.post.lowest limit) ∧
    -- both modes are off, and what had to be restored was
    (e.post.activeCaps = [] → how ≠ .restored false → e.post.scalingMaxFreq = limit)

/-- A write that does not lose the limit that was there first. -/
def KeepsLimit (limit : ℕ) (s : PowerHal) : Step → Prop
  | .write true => ∀ value ∈ s.toWrite, value ≤ limit
  | .write false => ∀ value ∈ s.toWrite, s.scalingMaxFreq = limit ∨ s.scalingMaxFreq = value
  | _ => True

instance (limit : ℕ) (s : PowerHal) (l : Step) : Decidable (KeepsLimit limit s l) := by
  cases l with
  | hint _ _ => exact isTrue trivial
  | read _ => exact isTrue trivial
  | write ok =>
    cases ok with
    | true => exact inferInstanceAs (Decidable (∀ value ∈ s.toWrite, value ≤ limit))
    | false =>
      exact inferInstanceAs
        (Decidable (∀ value ∈ s.toWrite, s.scalingMaxFreq = limit ∨ s.scalingMaxFreq = value))
  | agent _ => exact isTrue trivial

/-- Where the holder of the lock may be. -/
def Placed (limit : ℕ) (s : PowerHal) : Pc → Prop
  | .idle => True
  | .saving c => s.cap = some c ∧ s.appliedCap = none
  | .capping c => s.cap = some c ∧ s.savedMaxFreq = some limit
  | .checking => s.cap = none ∧ s.appliedCap ≠ none
  | .restoring => s.cap = none ∧ s.savedMaxFreq = some limit

/-- The original limit is in the file or saved. -/
structure Remembers (limit : ℕ) (s : PowerHal) : Prop where
  /-- without a cap it is in the file -/
  uncapped : s.appliedCap = none → s.scalingMaxFreq = limit
  /-- with a cap it is saved, and the file has nothing else but the cap -/
  capped : ∀ c, s.appliedCap = some c →
    s.savedMaxFreq = some limit ∧ (s.scalingMaxFreq = c ∨ s.scalingMaxFreq = limit)
  /-- a hint knows what to do -/
  placed : Placed limit s s.pc

variable {limit : ℕ} {s s' : PowerHal} {l : Step} {out : List Out}

/-- A write that was allowed to fail leaves the file with the value or the original limit. -/
theorem written (value : ℕ) {ok : Bool} (hvalue : s.toWrite = some value)
    (hkeeps : KeepsLimit limit s (.write ok)) :
    (if ok then value else s.scalingMaxFreq) = value ∨
      (if ok then value else s.scalingMaxFreq) = limit := by
  cases ok with
  | true => exact Or.inl rfl
  | false => exact (hkeeps value hvalue).symm

/-- A step that keeps the limit. -/
theorem Remembers.step (hI : Remembers limit s) (hkeeps : KeepsLimit limit s l)
    (hnobody : ∀ value, l ≠ .agent value) (hm : Moves s l s' out) : Remembers limit s' := by
  cases hm with
  | save hpc hcap happlied =>
    exact ⟨by simpa using hI.uncapped, by simpa using hI.capped, hcap, by simpa using happlied⟩
  | cap hpc hcap happlied =>
    obtain ⟨c', hc'⟩ := Option.ne_none_iff_exists'.mp happlied
    exact ⟨by simpa using hI.uncapped, by simpa using hI.capped, hcap,
      by simpa using (hI.capped c' hc').1⟩
  | nothing hpc hcap happlied =>
    refine ⟨by simpa using hI.uncapped, by simpa using hI.capped, ?_⟩
    rw [set_pc, hpc]
    trivial
  | check hpc hcap happlied =>
    exact ⟨by simpa using hI.uncapped, by simpa using hI.capped, hcap, by simpa using happlied⟩
  | saved hpc =>
    obtain ⟨hcap, happlied⟩ : Placed limit s (.saving _) := hpc ▸ hI.placed
    have hfile := hI.uncapped happlied
    exact ⟨hI.uncapped, fun c' hc' => absurd (happlied.symm.trans hc') (by simp), hcap,
      congrArg some hfile⟩
  | ignored hpc => exact ⟨hI.uncapped, hI.capped, trivial⟩
  | left hpc hne =>
    obtain ⟨-, happlied⟩ : Placed limit s .checking := hpc ▸ hI.placed
    obtain ⟨c, hc⟩ := Option.ne_none_iff_exists'.mp happlied
    have hfile : s.scalingMaxFreq = limit :=
      (hI.capped c hc).2.resolve_left fun heq => hne (by rw [hc, heq])
    exact ⟨fun _ => hfile, fun _ hno => absurd hno (by simp), trivial⟩
  | own hpc hown =>
    obtain ⟨hcap, happlied⟩ : Placed limit s .checking := hpc ▸ hI.placed
    obtain ⟨c, hc⟩ := Option.ne_none_iff_exists'.mp happlied
    exact ⟨hI.uncapped, hI.capped, hcap, (hI.capped c hc).1⟩
  | @capped ok c hpc =>
    obtain ⟨-, hsaved⟩ : Placed limit s (.capping c) := hpc ▸ hI.placed
    have hfile := written c (by simp [PowerHal.toWrite, hpc]) hkeeps
    refine ⟨fun hno => absurd hno (by simp), fun c' hc' => ⟨hsaved, ?_⟩, trivial⟩
    obtain rfl := Option.some.inj hc'
    exact hfile
  | @restored ok value hpc hvalue =>
    obtain ⟨-, hsaved⟩ : Placed limit s .restoring := hpc ▸ hI.placed
    have hlimit : value = limit := by rw [hvalue, hsaved, Option.getD_some]
    have hfile := written value (by simp [PowerHal.toWrite, hpc, hvalue]) hkeeps
    rw [hlimit, or_self, ← hlimit] at hfile
    exact ⟨fun _ => hfile.trans hlimit, fun _ hno => absurd hno (by simp), trivial⟩
  | agent => exact absurd rfl (hnobody _)

/-- What a hint leaves behind. -/
theorem Remembers.undoes (hI : Remembers limit s) (hI' : Remembers limit s')
    (hkeeps : KeepsLimit limit s l) (hm : Moves s l s' out) : Undoes limit ⟨s, l, out, s'⟩ := by
  intro how hout
  cases hm with
  | nothing hpc hcap happlied =>
    have hcaps := PowerHal.cap_eq_none.mp hcap
    exact ⟨fun hon => absurd hcaps hon, fun _ _ => hI'.uncapped (by simpa using happlied)⟩
  | @ignored c hpc =>
    obtain ⟨hcap, -⟩ : Placed limit s (.saving c) := hpc ▸ hI.placed
    obtain rfl : how = .ignored := by simpa using hout
    refine ⟨fun _ hno => absurd hno (by simp), fun hoff _ => ?_⟩
    have hnone : s.cap = none := PowerHal.cap_eq_none.mpr hoff
    exact absurd (hcap.symm.trans hnone) (by simp)
  | left hpc hne =>
    obtain rfl : how = .left := by simpa using hout
    exact ⟨fun _ hno => absurd hno (by simp), fun _ _ => hI'.uncapped rfl⟩
  | @capped ok c hpc =>
    obtain ⟨hcap, -⟩ : Placed limit s (.capping c) := hpc ▸ hI.placed
    refine ⟨fun _ hok => ?_, fun hoff _ => ?_⟩
    · -- the cap is not above the limit
      obtain rfl : ok = true := by
        subst hok
        cases ok <;> simp [PowerHal.wrote] at hout ⊢
      have hle : c ≤ limit := hkeeps c (by simp [PowerHal.toWrite, hpc])
      have hlowest : s.lowest limit = min limit c := PowerHal.lowest_of_cap hcap limit
      exact ((min_eq_right hle).symm.trans hlowest.symm)
    · have hnone : s.cap = none := PowerHal.cap_eq_none.mpr hoff
      exact absurd (hcap.symm.trans hnone) (by simp)
  | @restored ok value hpc hvalue =>
    refine ⟨fun _ hok => ?_, fun _ _ => hI'.uncapped rfl⟩
    subst hok
    cases ok <;> simp [PowerHal.wrote] at hout
  | save => cases hout
  | cap => cases hout
  | check => cases hout
  | saved => cases hout
  | own => cases hout
  | agent => cases hout

/-- **Caps are undone** in every run in which no write loses the limit that was there first. -/
theorem undone_run {h : List (Event PowerHal Step Out)}
    (hr : Run PowerHal.machine { scalingMaxFreq := limit } h s)
    (hnobody : ∀ e ∈ h, ∀ value, e.label ≠ .agent value)
    (hkeeps : ∀ e ∈ h, KeepsLimit limit e.pre e.label) : ∀ e ∈ h, Undoes limit e := by
  intro e he
  have hstart : Remembers limit { scalingMaxFreq := limit } :=
    ⟨fun _ => rfl, fun _ hno => absurd hno (by simp), trivial⟩
  obtain ⟨hpre, hs, hpost⟩ := Run.invariant_of_mem (Remembers limit)
    (fun s l => KeepsLimit limit s l ∧ ∀ value, l ≠ .agent value) hstart
    (fun _ _ _ _ hI hok hs => hI.step hok.1 hok.2 (moves_of_step hs)) hr
    (fun e he => ⟨hkeeps e he, hnobody e he⟩) he
  exact hpre.undoes hpost (hkeeps e he) (moves_of_step hs)

/-- A read that fails, a write that fails before the file is changed, and a read that fails
before the limit is restored. -/
def harmless : List Step :=
  [.hint .lowPower true, .read false, .hint .sustainedPerformance true, .read true, .write false,
    .hint .sustainedPerformance false, .write true, .hint .lowPower false, .read false, .write true]

theorem undone_harmless : ∃ h s, Run PowerHal.machine { scalingMaxFreq := 1209600 } h s ∧
    h.map Event.label = harmless ∧ s.scalingMaxFreq = 1209600 ∧
    ∀ e ∈ h, Undoes 1209600 e := by
  obtain ⟨h, s, hr, hl, hcheck⟩ := PowerHal.machine.exists_run { scalingMaxFreq := 1209600 }
    harmless (fun h s => decide (s.scalingMaxFreq = 1209600) &&
      h.all fun e => decide (KeepsLimit 1209600 e.pre e.label)) (by decide +kernel)
  obtain ⟨hfile, hkeeps⟩ := Bool.and_eq_true_iff.mp hcheck
  have hnobody : ∀ l ∈ harmless, ∀ value, l ≠ .agent value := by simp [harmless]
  refine ⟨h, s, hr, hl, of_decide_eq_true hfile, undone_run hr ?_ ?_⟩
  · exact forall_label hl hnobody
  · exact fun e he => of_decide_eq_true (List.all_eq_true.mp hkeeps e he)

/-- The write that should restore the limit fails, and the cap is saved by the next hint. -/
def throttling : List Step :=
  [.hint .lowPower true, .read true, .write true, .hint .lowPower false, .read true, .write false,
    .hint .lowPower true, .read true, .write true, .hint .lowPower false, .read true]

/-- Then the cap is what is restored. -/
theorem throttled_for_good : ∃ h s, Run PowerHal.machine { scalingMaxFreq := 1209600 } h s ∧
    h.map Event.label = throttling ++ [.write true] ∧ ¬ ∀ e ∈ h, Undoes 1209600 e := by
  obtain ⟨h, e, hr, hl, hle, hcheck⟩ := PowerHal.machine.exists_run_last
    { scalingMaxFreq := 1209600 } throttling (.write true)
    (fun _ e => decide (.returns (.restored true) ∈ e.out) && (decide (e.post.activeCaps = []) &&
      decide (e.post.scalingMaxFreq ≠ 1209600))) (by decide +kernel)
  simp only [Bool.and_eq_true, decide_eq_true_eq] at hcheck
  obtain ⟨hout, hoff, hne⟩ := hcheck
  refine ⟨h ++ [e], e.post, hr, by simp [hl, hle], fun hall => hne ?_⟩
  have hundoes := hall e (List.mem_append_right _ (List.mem_singleton_self _))
  exact (hundoes _ hout).2 hoff (by simp)

/-! ## Writes that lose the limit -/

/-- The HAL can go on to a hint that does not leave what it should. -/
def Breaks (limit : ℕ) (s : PowerHal) : Prop :=
  ∃ h t, Run PowerHal.machine s h t ∧ (∀ e ∈ h, ∀ value, e.label ≠ .agent value) ∧
    ∃ e ∈ h, ¬ Undoes limit e

/-- A step of the HAL comes first. -/
theorem Breaks.step (hb : Breaks limit s') (hm : Moves s l s' out)
    (hnobody : ∀ value, l ≠ .agent value) : Breaks limit s := by
  obtain ⟨h, t, hr, hall, e, he, hno⟩ := hb
  refine ⟨⟨s, l, out, s'⟩ :: h, t, (Run.single (step_of_moves hm)).append hr, ?_, e,
    List.mem_cons_of_mem _ he, hno⟩
  exact List.forall_mem_cons.mpr ⟨hnobody, hall⟩

theorem breaks_of_moves (hm : Moves s l s' out) (hnobody : ∀ value, l ≠ .agent value)
    (hno : ¬ Undoes limit ⟨s, l, out, s'⟩) : Breaks limit s :=
  ⟨_, _, Run.single (step_of_moves hm), by simpa using hnobody, _, List.mem_singleton_self _, hno⟩

/-- A hint that leaves both modes off and another value than the limit in the file. -/
theorem not_undoes_of_off {how : Return} (hout : .returns how ∈ out) (hhow : how ≠ .restored false)
    (hoff : s'.cap = none) (hfile : s'.scalingMaxFreq ≠ limit) :
    ¬ Undoes limit ⟨s, l, out, s'⟩ := by
  intro hundoes
  apply hfile
  exact (hundoes how hout).2 (PowerHal.cap_eq_none.mp hoff) hhow

/-- The last mode is turned off while neither the cap nor the original limit is in the file: the
value is left there. -/
theorem breaks_of_left (hint : Hint) (hpc : s.pc = .idle) (hoff : (s.set hint false).cap = none)
    (hfile : s.scalingMaxFreq ≠ limit) (happlied : s.appliedCap ≠ none)
    (hother : s.appliedCap ≠ s.scalingMaxFreq) : Breaks limit s := by
  have hread : Breaks limit { s.set hint false with pc := .checking } := by
    refine breaks_of_moves (Moves.left rfl (by simpa using hother)) (by simp) ?_
    rw [← set_scalingMaxFreq s hint false] at hfile
    exact not_undoes_of_off (List.mem_singleton_self _) (by simp) hoff hfile
  exact hread.step (Moves.check hpc hoff happlied) (by simp)

/-- Neither the original limit nor the cap that should be there is in the file. -/
theorem breaks_of_lost {c : ℕ} (hpc : s.pc = .idle) (hcap : s.cap = some c)
    (happlied : s.appliedCap = some c) (hfile : s.scalingMaxFreq ≠ limit)
    (hother : s.scalingMaxFreq ≠ c) : Breaks limit s := by
  have hne : s.appliedCap ≠ s.scalingMaxFreq := by
    rw [happlied]
    exact fun heq => hother (Option.some.inj heq).symm
  have hsome : s.appliedCap ≠ none := by simp [happlied]
  cases hlow : s.lowPowerActive with
  | false =>
    exact breaks_of_left .sustainedPerformance hpc
      (by simp [PowerHal.cap, PowerHal.set, hlow]) hfile hsome hne
  | true =>
    cases hsustained : s.sustainedActive with
    | false =>
      exact breaks_of_left .lowPower hpc
        (by simp [PowerHal.cap, PowerHal.set, hsustained]) hfile hsome hne
    | true =>
      -- the other mode is turned off first, and its write fails, too
      have hc : c = LOW_POWER_MAX_FREQ := by
        simpa [PowerHal.cap, hlow, hsustained, LOW_POWER_MAX_FREQ, SUSTAINED_MAX_FREQ, eq_comm]
          using hcap
      have hlowOnly : (s.set .sustainedPerformance false).cap = some c := by
        simp [PowerHal.cap, PowerHal.set, hlow, hc]
      refine Breaks.step ?_ (Moves.cap hpc hlowOnly hsome) (by simp)
      have hfails : Moves { s.set .sustainedPerformance false with pc := .capping c } (.write false)
          { s.set .sustainedPerformance false with appliedCap := c, pc := .idle }
          [.returns (.capped false)] := Moves.capped rfl
      refine Breaks.step ?_ hfails (by simp)
      refine breaks_of_left .lowPower rfl (by simp [PowerHal.cap, PowerHal.set]) hfile
        (by simp) ?_
      exact fun heq => hother (Option.some.inj heq).symm

/-- **Every write that loses the limit can be noticed**: it is followed, in some run, by a hint
that does not leave what it should. -/
theorem breaks_of_not_keepsLimit (hI : Remembers limit s) (hm : Moves s l s' out)
    (hnobody : ∀ value, l ≠ .agent value) (hno : ¬ KeepsLimit limit s l) : Breaks limit s := by
  cases hm with
  | @capped ok c hpc =>
    obtain ⟨hcap, hsaved⟩ : Placed limit s (.capping c) := hpc ▸ hI.placed
    have hwrite : s.toWrite = some c := by simp [PowerHal.toWrite, hpc]
    cases ok with
    | true =>
      -- the limit is raised
      have hlt : ¬ c ≤ limit := by simpa [KeepsLimit, hwrite] using hno
      refine breaks_of_moves (Moves.capped hpc) hnobody fun hundoes => hlt ?_
      have hlowest : s.lowest limit = min limit c := PowerHal.lowest_of_cap hcap limit
      have hon : s.activeCaps ≠ [] := fun hoff => by
        rw [PowerHal.cap_eq_none.mpr hoff] at hcap
        cases hcap
      have hfile : c = min limit c := ((hundoes (.capped true) (by simp)).1 hon rfl).trans hlowest
      exact min_eq_right_iff.mp hfile.symm
    | false =>
      have hne : s.scalingMaxFreq ≠ limit ∧ s.scalingMaxFreq ≠ c := by
        simpa [KeepsLimit, hwrite] using hno
      have hfails : Moves s (.write false) { s with appliedCap := c, pc := .idle }
          [.returns (.capped false)] := Moves.capped hpc
      refine Breaks.step ?_ hfails hnobody
      exact breaks_of_lost rfl hcap rfl hne.1 hne.2
  | @restored ok value hpc hvalue =>
    obtain ⟨hcap, hsaved⟩ : Placed limit s .restoring := hpc ▸ hI.placed
    have hwrite : s.toWrite = some limit := by simp [PowerHal.toWrite, hpc, hsaved]
    cases ok with
    | true => simp [KeepsLimit, hwrite] at hno
    | false =>
      have hfile : s.scalingMaxFreq ≠ limit := by simpa [KeepsLimit, hwrite] using hno
      have hfails : Moves s (.write false) { s with appliedCap := none, pc := .idle }
          [.returns (.restored false)] := Moves.restored hpc hvalue
      refine Breaks.step ?_ hfails hnobody
      -- the next hint has nothing to do
      have hoff : (PowerHal.set { s with appliedCap := none, pc := .idle } .lowPower false).cap =
          none := set_cap_of_none hcap
      apply breaks_of_moves (Moves.nothing rfl hoff rfl) (by simp)
      exact not_undoes_of_off (List.mem_singleton_self _) (by simp) hoff hfile
  | save => exact absurd trivial hno
  | cap => exact absurd trivial hno
  | nothing => exact absurd trivial hno
  | check => exact absurd trivial hno
  | saved => exact absurd trivial hno
  | ignored => exact absurd trivial hno
  | left => exact absurd trivial hno
  | own => exact absurd trivial hno
  | agent => exact absurd rfl (hnobody _)

end OppoA37.Power
