import OppoA37.Lib.Machine

/-!
# Observers of a run

An `Observer` is a partial automaton over what an outsider sees of a run: it has a
view, updates it with every observation, and refuses an observation its view says
cannot happen. A machine whose every step moves the view along `abs`, the view that
belongs to a state, never shows its observer a refused trace (`Run.read_trace`): to
prove a fact about the order of observations it is then enough to prove it of the
traces the observer accepts, which says nothing about the machine any more.
-/

namespace Lts

universe u v w x y

/-- A partial automaton that reads observations of type `B` in views of type `V`. -/
structure Observer (V : Type u) (B : Type v) where
  /-- the view after an observation; `none` when the view refuses it -/
  next : V → B → Option V

namespace Observer

variable {V : Type u} {B : Type v} (A : Observer V B)

/-- Read a whole trace. -/
def read : V → List B → Option V
  | v, [] => some v
  | v, b :: t => (A.next v b).bind fun v' => read v' t

@[simp] theorem read_nil (v : V) : A.read v [] = some v := rfl

@[simp] theorem read_cons (v : V) (b : B) (t : List B) :
    A.read v (b :: t) = (A.next v b).bind fun v' => A.read v' t := rfl

/-- A trace is read piece by piece. -/
theorem read_append (v : V) (t₁ t₂ : List B) :
    A.read v (t₁ ++ t₂) = (A.read v t₁).bind fun v' => A.read v' t₂ := by
  induction t₁ generalizing v with
  | nil => rfl
  | cons b t₁ ih =>
    rcases hb : A.next v b with _ | v'
    · simp [hb]
    · simp [hb, ih]

variable {A}

/-- An accepted trace is accepted up to every point, and from there on. -/
theorem read_append_inv {v v'' : V} {t₁ t₂ : List B} (h : A.read v (t₁ ++ t₂) = some v'') :
    ∃ v', A.read v t₁ = some v' ∧ A.read v' t₂ = some v'' := by
  rw [read_append] at h
  exact Option.bind_eq_some_iff.mp h

/-- An accepted trace has every one of its observations accepted. -/
theorem read_mid_inv {v v'' : V} {t₁ t₂ : List B} {b : B}
    (h : A.read v (t₁ ++ b :: t₂) = some v'') :
    ∃ v₁ v₂, A.read v t₁ = some v₁ ∧ A.next v₁ b = some v₂ ∧ A.read v₂ t₂ = some v'' := by
  obtain ⟨v₁, h₁, h₂⟩ := read_append_inv h
  obtain ⟨v₂, hb, h₂⟩ := Option.bind_eq_some_iff.mp h₂
  exact ⟨v₁, v₂, h₁, hb, h₂⟩

end Observer

variable {S : Type u} {L : Type v} {O : Type w} {V : Type x} {B : Type y}

/-- What an observer sees of a history. -/
def trace (obs : Event S L O → List B) (h : List (Event S L O)) : List B := h.flatMap obs

/-- **Simulation by an observer.** If every step moves the view from that of its
first state to that of its second, the observer accepts the whole run. -/
theorem Run.read_trace {M : Machine S L O} {s₀ s : S} {h : List (Event S L O)}
    (A : Observer V B) (abs : S → V) (obs : Event S L O → List B) (hr : Run M s₀ h s)
    (hstep : ∀ e ∈ h, A.read (abs e.pre) (obs e) = some (abs e.post)) :
    A.read (abs s₀) (trace obs h) = some (abs s) := by
  induction hr with
  | nil => rfl
  | @snoc h s s' l out hr hs ih =>
    have hlast := hstep _ (List.mem_append_right _ (List.mem_singleton_self _))
    have hh := ih fun e he => hstep e (List.mem_append_left _ he)
    rw [trace, List.flatMap_append, Observer.read_append]
    rw [trace] at hh
    rw [hh, List.flatMap_singleton]
    exact hlast

end Lts
