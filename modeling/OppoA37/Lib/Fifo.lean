import OppoA37.Lib.Machine

/-!
# The fates of what went through a queue

Objects enter a queue in an order. In that order some were taken out by a receiver, some were
thrown out, and the others are still in the queue: `Fates` numbers them all by their entry, so
each has exactly one fate, and receivers see the order of entry with gaps only where objects
were thrown out.

Where nothing is thrown out, it is enough to look at each step: `conserved` says for a whole run
what was in the queue and entered it, in the order in which it left or is in the queue still.
-/

namespace Fifo

universe u v

variable {X : Type u} {T : Type v}

/-- Of the objects that entered, in that order, `taken` went to a receiver each, `dropped` were
thrown out, and the last ones are in the queue. -/
def Fates (entered queue : List X) (taken : List (T × X)) (dropped : List X) : Prop :=
  ∃ fates : List (X × Option T), entered = fates.map (·.1) ++ queue ∧
    taken = fates.filterMap (fun x => x.2.map (·, x.1)) ∧
    dropped = (fates.filter (·.2.isNone)).map (·.1)

variable {entered entered' queue queue' dropped dropped' : List X} {taken taken' : List (T × X)}

/-- Nothing left the queue. -/
theorem fates_stay (queue : List X) : Fates queue queue ([] : List (T × X)) [] :=
  ⟨[], rfl, rfl, rfl⟩

/-- A receiver takes the first object. -/
theorem fates_take (t : T) (x : X) (queue : List X) : Fates (x :: queue) queue [(t, x)] [] :=
  ⟨[(x, some t)], rfl, rfl, rfl⟩

/-- The queue is cleared. -/
theorem fates_drop (queue : List X) : Fates queue [] ([] : List (T × X)) queue := by
  refine ⟨queue.map (·, none), ?_, ?_, ?_⟩
  · simp [Function.comp_def]
  · simp [List.filterMap_map]
  · simp [Function.comp_def, List.filter_map]

/-- Fates accumulate. -/
theorem Fates.trans (h : Fates entered queue taken dropped)
    (h' : Fates (queue ++ entered') queue' taken' dropped') :
    Fates (entered ++ entered') queue' (taken ++ taken') (dropped ++ dropped') := by
  obtain ⟨fates, rfl, rfl, rfl⟩ := h
  obtain ⟨fates', henter, rfl, rfl⟩ := h'
  refine ⟨fates ++ fates', ?_, ?_, ?_⟩
  · rw [List.append_assoc, henter, List.map_append, List.append_assoc]
  · rw [List.filterMap_append]
  · rw [List.filter_append, List.map_append]

/-- Steps that take from the front and add to the back make a run that does so. -/
theorem conserved {S L O : Type*} {M : Lts.Machine S L O} {s₀ s : S}
    {h : List (Lts.Event S L O)} (contents : S → List X) (enter leave : Lts.Event S L O → List X)
    (hrun : Lts.Run M s₀ h s)
    (hstep : ∀ e ∈ h, contents e.pre ++ enter e = leave e ++ contents e.post) :
    contents s₀ ++ h.flatMap enter = h.flatMap leave ++ contents s := by
  induction hrun with
  | nil => exact List.append_nil _
  | snoc hrun hs ih =>
    have hlast := hstep _ (List.mem_append_right _ List.mem_cons_self)
    have hbefore := ih fun e he => hstep e (List.mem_append_left _ he)
    simp only [List.flatMap_append, List.flatMap_singleton]
    rw [← List.append_assoc, hbefore, List.append_assoc, hlast, List.append_assoc]

end Fifo
