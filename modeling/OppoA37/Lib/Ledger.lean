import OppoA37.Lib.Machine

/-!
# Requests and their answers

A `Ledger` keeps the keys of what was asked, of what somebody else still has to answer, and of
the answers that came back, oldest first. `Keeps` lists what an honest go-between does to it: a
request is answered on the spot or handed on, and what was handed on is answered later.
`Drops` is the one dishonest thing: a request that leads to nothing.

* `Keeps.sound`, `Drops.sound`: no key is answered twice, whatever happens;
* `Keeps.lossless_iff`, `Drops.not_lossless`: a request that was dropped stays dropped;
* `Sound.count_eq_one_iff`: when nothing is waited for, all keys are answered once exactly
  when none was dropped;
* `run_lossless_iff`: a run whose ledger is kept by every step that meets a condition, and
  drops a request at every other one, has lost nothing exactly when all its steps met it.
-/

open Lts

universe u v w x

/-- Who asked, who waits, and who was answered. -/
structure Ledger (K : Type u) where
  /-- the keys of all requests -/
  asked : List K
  /-- those that were handed on and have no answer yet -/
  waiting : List K
  /-- those of the answers, oldest first -/
  answered : List K

namespace Ledger

variable {K : Type u}

/-- Only requests are answered, and none twice. -/
structure Sound (ℓ : Ledger K) : Prop where
  /-- a key is answered once, and not waited for afterwards -/
  nodup : (ℓ.answered ++ ℓ.waiting).Nodup
  /-- it was asked -/
  known : ∀ k ∈ ℓ.answered ++ ℓ.waiting, k ∈ ℓ.asked

/-- Every request is answered, or will be. -/
def Lossless (ℓ : Ledger K) : Prop := ∀ k ∈ ℓ.asked, k ∈ ℓ.answered ++ ℓ.waiting

/-- What a go-between that loses nothing does. -/
inductive Keeps : Ledger K → Ledger K → Prop where
  /-- nothing -/
  | idle {ℓ : Ledger K} : Keeps ℓ ℓ
  /-- a new request is answered on the spot -/
  | reply {ℓ : Ledger K} {k : K} :
      k ∉ ℓ.asked → Keeps ℓ ⟨k :: ℓ.asked, ℓ.waiting, ℓ.answered ++ [k]⟩
  /-- a new request is handed on -/
  | forward {ℓ : Ledger K} {k : K} :
      k ∉ ℓ.asked → Keeps ℓ ⟨k :: ℓ.asked, k :: ℓ.waiting, ℓ.answered⟩
  /-- the answer to a request that was handed on comes back -/
  | answer {ℓ : Ledger K} {k : K} {waiting : List K} :
      ℓ.waiting.Perm (k :: waiting) → Keeps ℓ ⟨ℓ.asked, waiting, ℓ.answered ++ [k]⟩

/-- A new request leads to nothing. -/
inductive Drops : Ledger K → Ledger K → Prop where
  | drop {ℓ : Ledger K} {k : K} : k ∉ ℓ.asked → Drops ℓ ⟨k :: ℓ.asked, ℓ.waiting, ℓ.answered⟩

variable {ℓ ℓ' : Ledger K} {k : K}

theorem sound_nil : Sound (⟨[], [], []⟩ : Ledger K) where
  nodup := List.nodup_nil
  known := fun _ h => absurd h List.not_mem_nil

theorem lossless_nil : Lossless (⟨[], [], []⟩ : Ledger K) :=
  fun _ h => absurd h List.not_mem_nil

/-- A new key among the answered and the waiting. -/
theorem Sound.insert (hs : Sound ℓ) (hk : k ∉ ℓ.asked) {l : List K}
    (hl : l.Perm (k :: (ℓ.answered ++ ℓ.waiting))) : l.Nodup ∧ ∀ k' ∈ l, k' ∈ k :: ℓ.asked := by
  constructor
  · rw [hl.nodup_iff, List.nodup_cons]
    exact ⟨fun h => hk (hs.known k h), hs.nodup⟩
  · intro k' hk'
    rcases List.mem_cons.mp (hl.mem_iff.mp hk') with rfl | hmem
    · exact List.mem_cons_self
    · exact List.mem_cons_of_mem _ (hs.known k' hmem)

/-- An answer that comes back moves its key from one list to the other. -/
theorem perm_answer {waiting : List K} (hw : ℓ.waiting.Perm (k :: waiting)) :
    ((ℓ.answered ++ [k]) ++ waiting).Perm (ℓ.answered ++ ℓ.waiting) := by
  rw [List.append_assoc]
  exact hw.symm.append_left ℓ.answered

theorem Keeps.sound (h : Keeps ℓ ℓ') (hs : Sound ℓ) : Sound ℓ' := by
  cases h with
  | idle => exact hs
  | @reply k hk =>
    have hl : ((ℓ.answered ++ [k]) ++ ℓ.waiting).Perm (k :: (ℓ.answered ++ ℓ.waiting)) := by
      simp [List.perm_middle]
    obtain ⟨hnodup, hknown⟩ := hs.insert hk hl
    exact ⟨hnodup, hknown⟩
  | forward hk =>
    obtain ⟨hnodup, hknown⟩ := hs.insert hk List.perm_middle
    exact ⟨hnodup, hknown⟩
  | answer hw =>
    refine ⟨(perm_answer hw).nodup_iff.mpr hs.nodup, ?_⟩
    intro k' hk'
    exact hs.known k' ((perm_answer hw).mem_iff.mp hk')

theorem Drops.sound (h : Drops ℓ ℓ') (hs : Sound ℓ) : Sound ℓ' := by
  cases h with
  | drop hk => exact ⟨hs.nodup, fun k' hk' => List.mem_cons_of_mem _ (hs.known k' hk')⟩

/-- What loses nothing neither loses a request nor finds a lost one. -/
theorem Keeps.lossless_iff (h : Keeps ℓ ℓ') : Lossless ℓ' ↔ Lossless ℓ := by
  -- a new key is no excuse for an old one
  have hnew : ∀ {k : K} {l : List K}, k ∉ ℓ.asked →
      l.Perm (k :: (ℓ.answered ++ ℓ.waiting)) →
      ((∀ k' ∈ k :: ℓ.asked, k' ∈ l) ↔ Lossless ℓ) := by
    intro k l hk hl
    constructor
    · intro hall k' hk'
      rcases List.mem_cons.mp (hl.mem_iff.mp (hall k' (List.mem_cons_of_mem _ hk'))) with rfl | hmem
      · exact absurd hk' hk
      · exact hmem
    · intro hall k' hk'
      rcases List.mem_cons.mp hk' with rfl | hk'
      · exact hl.mem_iff.mpr List.mem_cons_self
      · exact hl.mem_iff.mpr (List.mem_cons_of_mem _ (hall k' hk'))
  cases h with
  | idle => exact Iff.rfl
  | reply hk => exact hnew hk (by simp [List.perm_middle])
  | forward hk => exact hnew hk List.perm_middle
  | answer hw => exact forall₂_congr fun k' _ => (perm_answer hw).mem_iff

/-- What is dropped is lost. -/
theorem Drops.not_lossless (h : Drops ℓ ℓ') (hs : Sound ℓ) : ¬ Lossless ℓ' := by
  cases h with
  | drop hk => exact fun hall => hk (hs.known _ (hall _ List.mem_cons_self))

/-- **When nothing is waited for**, all requests are answered once exactly when none was
dropped. -/
theorem Sound.count_eq_one_iff [DecidableEq K] (hs : Sound ℓ) (hdone : ℓ.waiting = []) :
    (∀ k ∈ ℓ.asked, ℓ.answered.count k = 1) ↔ Lossless ℓ := by
  have hnodup : ℓ.answered.Nodup := hs.nodup.of_append_left
  refine forall₂_congr fun k _ => ?_
  rw [hdone, List.append_nil]
  constructor
  · intro hcount
    exact List.count_pos_iff.mp (by omega)
  · exact List.count_eq_one_of_mem hnodup

/-! ## Along a run -/

variable {S : Type v} {L : Type w} {O : Type x} {M : Machine S L O} {s₀ s : S}
  {h : List (Event S L O)}

/-- **Exact condition.** -/
theorem run_lossless_iff (ledger : List (Event S L O) → S → Ledger K) (I : S → Prop)
    (ok : S → L → Prop) (h₀ : I s₀) (hnil : ledger [] s₀ = ⟨[], [], []⟩)
    (hinv : ∀ s l s' out, I s → M.step s l = some (s', out) → I s')
    (hkeep : ∀ h s l s' out, I s → ok s l → M.step s l = some (s', out) →
      Keeps (ledger h s) (ledger (h ++ [⟨s, l, out, s'⟩]) s'))
    (hdrop : ∀ h s l s' out, I s → ¬ ok s l → M.step s l = some (s', out) →
      Drops (ledger h s) (ledger (h ++ [⟨s, l, out, s'⟩]) s'))
    (hr : Run M s₀ h s) :
    Sound (ledger h s) ∧ (Lossless (ledger h s) ↔ ∀ e ∈ h, ok e.pre e.label) := by
  have hI : ∀ {h : List (Event S L O)} {s : S}, Run M s₀ h s → I s := fun hr =>
    Run.invariant_of I (fun _ _ => True) h₀ (fun s l s' out hI _ => hinv s l s' out hI) hr
      fun _ _ => trivial
  induction hr with
  | nil =>
    rw [hnil]
    exact ⟨sound_nil, fun _ e he => absurd he List.not_mem_nil, fun _ => lossless_nil⟩
  | @snoc h s s' l out hr hs ih =>
    obtain ⟨hsound, hiff⟩ := ih
    rw [List.forall_mem_append, List.forall_mem_singleton, ← hiff]
    by_cases hok : ok s l
    · have hkeeps := hkeep h s l s' out (hI hr) hok hs
      refine ⟨hkeeps.sound hsound, hkeeps.lossless_iff.trans ?_⟩
      exact (and_iff_left hok).symm
    · have hdrops := hdrop h s l s' out (hI hr) hok hs
      refine ⟨hdrops.sound hsound, ?_⟩
      exact iff_of_false (hdrops.not_lossless hsound) fun hand => hok hand.2

end Ledger
