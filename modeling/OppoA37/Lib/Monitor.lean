import OppoA37.Lib.Machine

/-!
# Monitors

A monitor sums up a history in a view, one event at a time: who still holds something,
whether a request is still unanswered. Properties of a run that speak of its past are
properties of the state and the view together.

* `Run.watched_invariant` is `Run.invariant_of` for an invariant of state and view, and a
  condition that may look at the view, too;
* `Run.watched_of` turns it into a property of every event of a run;
* `Run.watched_congr` says of such a condition that meeting it is *equivalent* to a
  property of every event and the view before it, when a step that misses the condition
  breaks the property at once. `Run.watched_iff` is the case of a condition on states and
  labels, and `Run.forall_iff` the one without a monitor.
-/

namespace Lts

universe u v w x

variable {S : Type u} {L : Type v} {O : Type w} {V : Type x}

/-- The view of a monitor after a history. -/
def watch (next : V → Event S L O → V) (v₀ : V) (h : List (Event S L O)) : V := h.foldl next v₀

@[simp] theorem watch_snoc (next : V → Event S L O → V) (v₀ : V) (h : List (Event S L O))
    (e : Event S L O) : watch next v₀ (h ++ [e]) = next (watch next v₀ h) e := by
  simp [watch]

/-- A monitor goes on where it stopped. -/
theorem watch_append (next : V → Event S L O → V) (v₀ : V) (h₁ h₂ : List (Event S L O)) :
    watch next v₀ (h₁ ++ h₂) = watch next (watch next v₀ h₁) h₂ :=
  List.foldl_append

/-- `P` holds of every event of a history and the view before it. -/
def Watched (next : V → Event S L O → V) (v₀ : V) (P : V → Event S L O → Prop)
    (h : List (Event S L O)) : Prop :=
  ∀ h₁ e h₂, h = h₁ ++ e :: h₂ → P (watch next v₀ h₁) e

variable {next : V → Event S L O → V} {v₀ : V} {P : V → Event S L O → Prop}

theorem watched_nil : Watched next v₀ P [] := by
  intro h₁ e h₂ heq
  simp at heq

theorem watched_snoc {h : List (Event S L O)} {e : Event S L O} :
    Watched next v₀ P (h ++ [e]) ↔ Watched next v₀ P h ∧ P (watch next v₀ h) e := by
  constructor
  · intro hall
    refine ⟨?_, hall h e [] rfl⟩
    rintro h₁ e' h₂ rfl
    exact hall h₁ e' (h₂ ++ [e]) (by simp)
  · rintro ⟨hall, hlast⟩ h₁ e' h₂ heq
    rcases List.eq_nil_or_concat h₂ with rfl | ⟨h₃, b, rfl⟩
    · -- the last event
      obtain ⟨rfl, he⟩ := List.append_inj' heq rfl
      obtain rfl := List.singleton_inj.mp he
      exact hlast
    · have heq' : h ++ [e] = (h₁ ++ e' :: h₃) ++ [b] := by simpa using heq
      obtain ⟨rfl, -⟩ := List.append_inj' heq' rfl
      exact hall h₁ e' h₃ rfl

/-- A prefix is watched as well. -/
theorem Watched.left {h₁ h₂ : List (Event S L O)} (hw : Watched next v₀ P (h₁ ++ h₂)) :
    Watched next v₀ P h₁ := by
  rintro h e h' rfl
  exact hw h e (h' ++ h₂) (by simp)

/-- What follows of an event of the history, follows of every one. -/
theorem Watched.mono {P' : V → Event S L O → Prop} {h : List (Event S L O)}
    (hw : Watched next v₀ P h) (himp : ∀ e ∈ h, ∀ v, P v e → P' v e) : Watched next v₀ P' h := by
  rintro h₁ e h₂ rfl
  exact himp e (List.mem_append_right _ List.mem_cons_self) _ (hw h₁ e h₂ rfl)

/-- Test every event and the view before it. -/
def checkWatched (next : V → Event S L O → V) (p : V → Event S L O → Bool) :
    V → List (Event S L O) → Bool
  | _, [] => true
  | v, e :: h => p v e && checkWatched next p (next v e) h

theorem watched_of_check {p : V → Event S L O → Bool} : ∀ {h : List (Event S L O)} {v : V},
    checkWatched next p v h = true → Watched next v (fun v e => p v e = true) h := by
  intro h
  induction h with
  | nil => exact fun _ => watched_nil
  | cons e h ih =>
    intro v hcheck
    obtain ⟨he, hrest⟩ := Bool.and_eq_true_iff.mp hcheck
    intro h₁ e' h₂ heq
    rcases List.cons_eq_append_iff.mp heq with ⟨rfl, htail⟩ | ⟨h₃, rfl, htail⟩
    · obtain ⟨rfl, -⟩ := List.cons.inj htail
      exact he
    · exact ih hrest h₃ e' h₂ htail

/-- A property that does not look at the view. -/
theorem watched_const {p : Event S L O → Prop} {h : List (Event S L O)} :
    Watched next v₀ (fun _ => p) h ↔ ∀ e ∈ h, p e := by
  constructor
  · intro hall e he
    obtain ⟨h₁, h₂, heq⟩ := List.append_of_mem he
    exact hall h₁ e h₂ heq
  · rintro hall h₁ e h₂ rfl
    exact hall e (List.mem_append_right _ List.mem_cons_self)

namespace Run

variable {M : Machine S L O} {s₀ s : S} {h : List (Event S L O)} {Q : V → Event S L O → Prop}

/-- **Conditional invariant of state and view.** -/
theorem watched_invariant (I : V → S → Prop) (h₀ : I v₀ s₀)
    (hstep : ∀ v e, I v e.pre → Q v e → M.step e.pre e.label = some (e.post, e.out) →
      I (next v e) e.post)
    (hr : Run M s₀ h s) (hQ : Watched next v₀ Q h) : I (watch next v₀ h) s := by
  induction hr with
  | nil => exact h₀
  | @snoc h s s' l out _ hs ih =>
    obtain ⟨hQh, hQe⟩ := watched_snoc.mp hQ
    rw [watch_snoc]
    exact hstep _ ⟨s, l, out, s'⟩ (ih hQh) hQe hs

/-- **Sufficient condition, with a monitor.** If `I` is an invariant of state and view under
`Q` that gives `P` of every step, a run that meets `Q` at every step has `P` there. -/
theorem watched_of (I : V → S → Prop) (h₀ : I v₀ s₀)
    (hstep : ∀ v e, I v e.pre → Q v e → M.step e.pre e.label = some (e.post, e.out) →
      I (next v e) e.post ∧ P v e)
    (hr : Run M s₀ h s) (hQ : Watched next v₀ Q h) : Watched next v₀ P h := by
  rintro h₁ e h₂ rfl
  obtain ⟨hpre, hs, -⟩ := event hr
  have hI := watched_invariant I h₀ (fun v e hI hQ hs => (hstep v e hI hQ hs).1) hpre hQ.left
  exact (hstep _ e hI (hQ h₁ e h₂ rfl) hs).2

/-- **Exact condition, with a monitor.** In runs whose steps all meet `side`, let `I` be
an invariant of state and view under `Q` that gives `P` of every step, and let every
step from an `I`-state that misses `Q` miss `P`. Then a run meets `Q` at every step iff
`P` holds of every event of it. -/
theorem watched_congr (I : V → S → Prop) (side : S → L → Prop) (h₀ : I v₀ s₀)
    (hgood : ∀ v e, I v e.pre → side e.pre e.label → Q v e →
      M.step e.pre e.label = some (e.post, e.out) → I (next v e) e.post ∧ P v e)
    (hbad : ∀ v e, I v e.pre → side e.pre e.label → ¬ Q v e →
      M.step e.pre e.label = some (e.post, e.out) → ¬ P v e)
    (hr : Run M s₀ h s) (hside : ∀ e ∈ h, side e.pre e.label) :
    Watched next v₀ Q h ↔ Watched next v₀ P h := by
  induction hr with
  | nil => exact ⟨fun _ => watched_nil, fun _ => watched_nil⟩
  | @snoc h s s' l out hr hs ih =>
    simp only [List.forall_mem_append, List.forall_mem_singleton] at hside
    rw [watched_snoc, watched_snoc, ih hside.1]
    refine and_congr_right fun hP => ?_
    have hI : I (watch next v₀ h) s := by
      have hsideQ : Watched next v₀ (fun v e => side e.pre e.label ∧ Q v e) h := by
        rintro h₁ e h₂ heq
        have he : e ∈ h := heq ▸ List.mem_append_right _ List.mem_cons_self
        exact ⟨hside.1 e he, (ih hside.1).mpr hP h₁ e h₂ heq⟩
      exact watched_invariant I h₀ (fun v e hI hok hs => (hgood v e hI hok.1 hok.2 hs).1) hr hsideQ
    constructor
    · exact fun hQ => (hgood _ ⟨s, l, out, s'⟩ hI hside.2 hQ hs).2
    · exact fun hPe => by_contra fun hno => hbad _ ⟨s, l, out, s'⟩ hI hside.2 hno hs hPe

/-- The same for a condition on states and labels. -/
theorem watched_iff (I : V → S → Prop) (side ok : S → L → Prop) (h₀ : I v₀ s₀)
    (hgood : ∀ v e, I v e.pre → side e.pre e.label → ok e.pre e.label →
      M.step e.pre e.label = some (e.post, e.out) → I (next v e) e.post ∧ P v e)
    (hbad : ∀ v e, I v e.pre → side e.pre e.label → ¬ ok e.pre e.label →
      M.step e.pre e.label = some (e.post, e.out) → ¬ P v e)
    (hr : Run M s₀ h s) (hside : ∀ e ∈ h, side e.pre e.label) :
    (∀ e ∈ h, ok e.pre e.label) ↔ Watched next v₀ P h := by
  rw [← watched_congr I side h₀ hgood hbad hr hside]
  exact watched_const.symm

/-- **Exact condition.** Let `I` be an invariant under `ok` that gives `P` after the
step, and let every step from an `I`-state that misses `ok` miss `P`. Then a run meets
`ok` at every step iff `P` holds of every event of its history. -/
theorem forall_iff (I : S → Prop) (ok : S → L → Prop) (P : Event S L O → Prop) (h₀ : I s₀)
    (hgood : ∀ s l s' out, I s → ok s l → M.step s l = some (s', out) →
      I s' ∧ P ⟨s, l, out, s'⟩)
    (hbad : ∀ s l s' out, I s → ¬ ok s l → M.step s l = some (s', out) → ¬ P ⟨s, l, out, s'⟩)
    (hr : Run M s₀ h s) : (∀ e ∈ h, ok e.pre e.label) ↔ ∀ e ∈ h, P e := by
  have hiff : (∀ e ∈ h, ok e.pre e.label) ↔ Watched (fun (_ : Unit) _ => ()) () (fun _ => P) h :=
    watched_iff (fun _ => I) (fun _ _ => True) ok h₀
      (fun _ e hI _ => hgood e.pre e.label e.post e.out hI)
      (fun _ e hI _ => hbad e.pre e.label e.post e.out hI) hr fun _ _ => trivial
  exact hiff.trans watched_const

end Run

end Lts
