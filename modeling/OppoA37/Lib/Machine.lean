import Mathlib

/-!
# Labelled machines, their runs and the rules of invariants

A `Machine` is a partial step function: from a state and a label (who acts, and
what the environment answers) it either refuses, or moves to a next state and
hands some outputs to the outside. All nondeterminism sits in the label, so a
machine stays executable: `exec` runs a list of labels and a concrete run is a
closed term.

A `Run` keeps its whole history as a list of `Event`s, oldest first. Claims
about every reachable state are claims about the state a run ends in; claims
about orders in time are claims about the history. The rule for the first kind is
`Run.invariant_of`: what holds at the start, and is kept by every step that meets a
condition on (state, label), holds at the end of every run all of whose steps meet it.
-/

namespace Lts

universe u v w

/-- A labelled machine: a partial, deterministic step with outputs. -/
structure Machine (S : Type u) (L : Type v) (O : Type w) where
  /-- one step; `none` when the label is not enabled -/
  step : S → L → Option (S × List O)

/-- One step of a run, with the states around it. -/
structure Event (S : Type u) (L : Type v) (O : Type w) where
  /-- the state before the step -/
  pre : S
  /-- the label of the step -/
  label : L
  /-- what the step handed to the outside, in order -/
  out : List O
  /-- the state after the step -/
  post : S

variable {S : Type u} {L : Type v} {O : Type w}

/-- The runs of a machine from `s₀`, with their history (oldest event first). -/
inductive Run (M : Machine S L O) (s₀ : S) : List (Event S L O) → S → Prop where
  /-- nothing happened yet -/
  | nil : Run M s₀ [] s₀
  /-- one more step at the end -/
  | snoc {h : List (Event S L O)} {s s' : S} {l : L} {out : List O} :
      Run M s₀ h s → M.step s l = some (s', out) → Run M s₀ (h ++ [⟨s, l, out, s'⟩]) s'

namespace Run

variable {M : Machine S L O} {s₀ s t : S} {h h₁ h₂ : List (Event S L O)}

/-- A single step is a run. -/
theorem single {l : L} {out : List O} (hs : M.step s l = some (t, out)) :
    Run M s [⟨s, l, out, t⟩] t :=
  Run.snoc Run.nil hs

/-- Runs compose. -/
theorem append (hr₁ : Run M s₀ h₁ s) (hr₂ : Run M s h₂ t) : Run M s₀ (h₁ ++ h₂) t := by
  induction hr₂ with
  | nil => rwa [List.append_nil]
  | snoc _ hs ih =>
    rw [← List.append_assoc]
    exact Run.snoc ih hs

/-- A run splits at every point of its history. -/
theorem split : ∀ {h₂ : List (Event S L O)} {t : S},
    Run M s₀ (h₁ ++ h₂) t → ∃ s, Run M s₀ h₁ s ∧ Run M s h₂ t := by
  intro h₂
  induction h₂ using List.reverseRecOn with
  | nil =>
    intro t hr
    rw [List.append_nil] at hr
    exact ⟨t, hr, Run.nil⟩
  | append_singleton h₂ e ih =>
    intro t hr
    rw [← List.append_assoc] at hr
    generalize hh : (h₁ ++ h₂) ++ [e] = h at hr
    cases hr with
    | nil => simp at hh
    | snoc hr' hs =>
      obtain ⟨hh', he⟩ := List.append_inj' hh rfl
      subst hh'
      obtain ⟨s, hs₁, hs₂⟩ := ih hr'
      refine ⟨s, hs₁, ?_⟩
      rw [List.singleton_inj.mp he]
      exact Run.snoc hs₂ hs

/-- Inversion of a run that starts with the event `e`. -/
theorem cons_inv {e : Event S L O} (hr : Run M s (e :: h) t) :
    e.pre = s ∧ M.step s e.label = some (e.post, e.out) ∧ Run M e.post h t := by
  obtain ⟨m, h₁, h₂⟩ : ∃ m, Run M s [e] m ∧ Run M m h t := split hr
  generalize he : [e] = l at h₁
  cases h₁ with
  | nil => cases he
  | snoc h₀ hs =>
    cases h₀ with
    | nil =>
      obtain rfl := List.singleton_inj.mp (by simpa using he)
      exact ⟨rfl, hs, h₂⟩
    | snoc _ _ =>
      have := congrArg List.length he
      simp at this

/-- Every event of a history is a step from a reached state, and the rest of the
run goes on from where it ends. -/
theorem event {e : Event S L O} (hr : Run M s₀ (h₁ ++ e :: h₂) t) :
    Run M s₀ h₁ e.pre ∧ M.step e.pre e.label = some (e.post, e.out) ∧ Run M e.post h₂ t := by
  obtain ⟨m, hpre, hrest⟩ := split hr
  obtain ⟨rfl, hstep, hpost⟩ := cons_inv hrest
  exact ⟨hpre, hstep, hpost⟩

/-- A run ends in the state after its last event. -/
theorem eq_post {e : Event S L O} (hr : Run M s₀ (h ++ [e]) t) : t = e.post := by
  generalize hl : h ++ [e] = l at hr
  cases hr with
  | nil => simp at hl
  | snoc _ _ =>
    obtain ⟨-, he⟩ := List.append_inj' hl rfl
    rw [List.singleton_inj.mp he]

/-! ### The rules of invariants -/

/-- **Conditional invariant.** If every step that meets `ok` keeps `I`, then `I`
holds at the end of every run all of whose steps meet `ok`. -/
theorem invariant_of (I : S → Prop) (ok : S → L → Prop) (h₀ : I s₀)
    (hstep : ∀ s l s' out, I s → ok s l → M.step s l = some (s', out) → I s')
    (hr : Run M s₀ h s) (hok : ∀ e ∈ h, ok e.pre e.label) : I s := by
  induction hr with
  | nil => exact h₀
  | snoc _ hs ih =>
    refine hstep _ _ _ _ (ih fun e he => hok e (List.mem_append_left _ he)) ?_ hs
    exact hok _ (List.mem_append_right _ (List.mem_singleton_self _))

/-- A conditional invariant holds around every event of the history, too. -/
theorem invariant_of_mem (I : S → Prop) (ok : S → L → Prop) (h₀ : I s₀)
    (hstep : ∀ s l s' out, I s → ok s l → M.step s l = some (s', out) → I s')
    (hr : Run M s₀ h s) (hok : ∀ e ∈ h, ok e.pre e.label) {e : Event S L O} (he : e ∈ h) :
    I e.pre ∧ M.step e.pre e.label = some (e.post, e.out) ∧ I e.post := by
  obtain ⟨h₁, h₂, rfl⟩ := List.append_of_mem he
  obtain ⟨hpre, hs, -⟩ := event hr
  have hIpre : I e.pre :=
    invariant_of I ok h₀ hstep hpre fun e' he' => hok e' (List.mem_append_left _ he')
  exact ⟨hIpre, hs, hstep _ _ _ _ hIpre (hok e he) hs⟩

end Run

/-! ## Executable runs -/

namespace Machine

variable (M : Machine S L O)

/-- Run a list of labels; `none` as soon as one is not enabled. -/
def exec : S → List L → Option (List (Event S L O) × S)
  | s, [] => some ([], s)
  | s, l :: ls =>
    match M.step s l with
    | none => none
    | some (s', out) => (exec s' ls).map fun r => (⟨s, l, out, s'⟩ :: r.1, r.2)

variable {M}

/-- What `exec` computes is a run, with the labels it was given. -/
theorem run_of_exec : ∀ (ls : List L) {s t : S} {h : List (Event S L O)},
    M.exec s ls = some (h, t) → Run M s h t ∧ h.map Event.label = ls := by
  intro ls
  induction ls with
  | nil =>
    intro s t h he
    obtain ⟨rfl, rfl⟩ := Prod.mk.inj (Option.some.inj he)
    exact ⟨Run.nil, rfl⟩
  | cons l ls ih =>
    intro s t h he
    rw [exec] at he
    rcases hs : M.step s l with _ | ⟨s', out⟩
    · rw [hs] at he
      cases he
    · rw [hs] at he
      obtain ⟨⟨h', t'⟩, hrest, heq⟩ := Option.map_eq_some_iff.mp he
      obtain ⟨rfl, rfl⟩ := Prod.mk.inj heq
      obtain ⟨hr, hl⟩ := ih hrest
      exact ⟨(Run.single hs).append hr, congrArg (l :: ·) hl⟩

/-- A list of labels that executes, with a check of what it ends in, is a run of
these labels that passes the check. -/
theorem exists_run (s : S) (ls : List L) (check : List (Event S L O) → S → Bool)
    (he : ((M.exec s ls).any fun r => check r.1 r.2) = true) :
    ∃ h t, Run M s h t ∧ h.map Event.label = ls ∧ check h t = true := by
  obtain ⟨⟨h, t⟩, hexec, hcheck⟩ := (Option.any_eq_true _ _).mp he
  obtain ⟨hr, hl⟩ := run_of_exec ls hexec
  exact ⟨h, t, hr, hl, hcheck⟩

/-- The same for a run with a last step that is looked at on its own. -/
theorem exists_run_last (s : S) (ls : List L) (l : L)
    (check : List (Event S L O) → Event S L O → Bool)
    (he : ((M.exec s ls).any fun r =>
      (M.step r.2 l).any fun q => check r.1 ⟨r.2, l, q.2, q.1⟩) = true) :
    ∃ h e, Run M s (h ++ [e]) e.post ∧ h.map Event.label = ls ∧ e.label = l ∧
      check h e = true := by
  obtain ⟨⟨h, t⟩, hexec, hlast⟩ := (Option.any_eq_true _ _).mp he
  obtain ⟨⟨t', out⟩, hs, hcheck⟩ := (Option.any_eq_true _ _).mp hlast
  obtain ⟨hr, hl⟩ := run_of_exec ls hexec
  exact ⟨h, ⟨t, l, out, t'⟩, Run.snoc hr hs, hl, rfl, hcheck⟩

end Machine

/-- What holds of every label holds of the label of every event. -/
theorem forall_label {P : L → Prop} {ls : List L} {h : List (Event S L O)}
    (hl : h.map Event.label = ls) (hP : ∀ l ∈ ls, P l) : ∀ e ∈ h, P e.label := by
  intro e he
  apply hP
  rw [← hl]
  exact List.mem_map_of_mem he

end Lts
