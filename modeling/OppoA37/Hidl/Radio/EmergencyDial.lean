import OppoA37.Hidl.Radio.Dial
import OppoA37.Lib.Monitor

/-!
# Is an emergency call lost?

An emergency call over an old radio goes out as a `dial`, and its serial stays in
`emergency_dial_serial` until the answer with that serial comes back. A monitor keeps what
the framework knows: the serials of its emergency calls, and those with no answer yet.

Every answer finds its way back: an emergency call's answer is the one that is remembered.
A second emergency call is dropped without a word, though, while the first one has no
answer — and when the first one never got through, there will never be one.
`served_iff` says that this is the only way to lose a call.
-/

namespace OppoA37.Hidl

open Lts

variable {Dial : Type}

/-! ## What the framework knows -/

/-- The emergency calls of a history, by serial. -/
structure Calls where
  /-- all of them -/
  emergencies : List ℤ := []
  /-- those that no `dialResponse` has answered -/
  pending : List ℤ := []
  deriving DecidableEq, Repr

/-- The emergency calls after one more step. -/
def Calls.next (v : Calls) (e : Event DialService (DialLabel Dial) (DialOut Dial)) : Calls :=
  match e.label with
  | .dial _ _ _ => v
  | .emergencyDial serial _ _ _ => ⟨serial :: v.emergencies, serial :: v.pending⟩
  | .dialResponse info => ⟨v.emergencies, v.pending.filter (· ≠ info.serial)⟩

/-- The serial that an answer to the framework carries. -/
def DialOut.answers : DialOut Dial → Option ℤ
  | .dialResponse info => some info.serial
  | .emergencyDialResponse info => some info.serial
  | _ => none

/-- No emergency call is lost, and every answer is delivered once, where it belongs. -/
structure Served (v : Calls) (e : Event DialService (DialLabel Dial) (DialOut Dial)) : Prop where
  /-- an emergency call is forwarded, or refused where the caller sees it, or answered -/
  emergency : ∀ serial dialInfo info sent, e.label = .emergencyDial serial dialInfo info sent →
    .dial serial dialInfo ∈ e.out ∨ (∃ r, r ≠ .ok ∧ .returned r ∈ e.out) ∨
      ∃ answer : RadioResponseInfo, answer.serial = serial ∧ .emergencyDialResponse answer ∈ e.out
  /-- an answer of the real radio is delivered once, by the kind of its call -/
  response : ∀ info, e.label = .dialResponse info →
    e.out = if info.serial ∈ v.emergencies then [.emergencyDialResponse info]
      else [.dialResponse info]
  /-- a request hands out no answer but its own -/
  once : ∀ o ∈ e.out, ∀ serial, o.answers = some serial →
    (∃ info, e.label = .dialResponse info) ∨
      ∃ dialInfo info sent, e.label = .emergencyDial serial dialInfo info sent

/-- An emergency call finds every earlier one answered. -/
def AllAnswered (v : Calls) (e : Event DialService (DialLabel Dial) (DialOut Dial)) : Prop :=
  ∀ serial dialInfo info sent, e.label = .emergencyDial serial dialInfo info sent → v.pending = []

/-! ## The invariant -/

/-- The wrapper and the framework agree on the emergency call that is under way. -/
structure Agrees (v : Calls) (w : DialService) : Prop where
  /-- serials in use are not negative -/
  nonneg : ∀ serial ∈ w.requested, 0 ≤ serial
  /-- emergency calls are requests -/
  known : ∀ serial ∈ v.emergencies, serial ∈ w.requested
  /-- the real radio answers requests -/
  asked : ∀ serial ∈ w.unanswered, serial ∈ w.requested
  /-- the real radio answers a request once -/
  nodup : w.unanswered.Nodup
  /-- the emergency call that the real radio may answer is the remembered one -/
  routed : ∀ serial ∈ w.unanswered, serial ∈ v.emergencies → serial = w.emergencyDialSerial
  /-- what is remembered is an emergency call -/
  remembered : w.emergencyDialSerial = -1 ∨ w.emergencyDialSerial ∈ v.emergencies
  /-- only the remembered call is pending -/
  pending : v.pending = if w.emergencyDialSerial = -1 then [] else [w.emergencyDialSerial]

theorem agrees_init : Agrees {} {} where
  nonneg := fun _ h => absurd h List.not_mem_nil
  known := fun _ h => absurd h List.not_mem_nil
  asked := fun _ h => absurd h List.not_mem_nil
  nodup := List.nodup_nil
  routed := fun _ h => absurd h List.not_mem_nil
  remembered := Or.inl rfl
  pending := rfl

namespace Agrees

variable {radio : Radio} {v : Calls} {w w' : DialService} {out : List (DialOut Dial)} {serial : ℤ}

/-- Nothing is pending exactly when nothing is remembered. -/
theorem pending_eq_nil (hI : Agrees v w) : v.pending = [] ↔ w.emergencyDialSerial = -1 := by
  rw [hI.pending]
  split
  · next hfree => simp [hfree]
  · next htaken => simp [htaken]

/-- A serial in use is not the mark of "nothing remembered". -/
theorem ne_of_mem (hI : Agrees v w) (h : serial ∈ w.requested) : serial ≠ -1 := by
  have := hI.nonneg serial h
  omega

/-- The remembered call is the one answered exactly when an emergency call is. -/
theorem eq_iff_mem (hI : Agrees v w) (h : serial ∈ w.unanswered) :
    serial = w.emergencyDialSerial ↔ serial ∈ v.emergencies := by
  constructor
  · rintro rfl
    exact hI.remembered.resolve_left (hI.ne_of_mem (hI.asked _ h))
  · exact hI.routed serial h

/-- A request keeps the list of the unanswered in order. -/
theorem unanswered_request (hI : Agrees v w) (hfresh : w.Fresh serial) (dialInfo : Dial)
    (sent : Bool) :
    (reached (radio.wrapV1_0Call (.dial serial dialInfo) sent) ++ w.unanswered).Nodup ∧
      ∀ s ∈ reached (radio.wrapV1_0Call (.dial serial dialInfo) sent) ++ w.unanswered,
        s ∈ serial :: w.requested := by
  refine ⟨List.Nodup.append (nodup_reached ..) hI.nodup ?_, ?_⟩
  · intro s hs hun
    obtain rfl := eq_of_mem_reached hs
    exact hfresh.2 (hI.asked s hun)
  · intro s hs
    rcases List.mem_append.mp hs with hs | hun
    · exact List.mem_cons.mpr (Or.inl (eq_of_mem_reached hs))
    · exact List.mem_cons_of_mem _ (hI.asked s hun)

/-- Fresh serials keep the serials in use in order. -/
theorem nonneg_request (hI : Agrees v w) (hfresh : w.Fresh serial) :
    ∀ s ∈ serial :: w.requested, 0 ≤ s :=
  List.forall_mem_cons.mpr ⟨hfresh.1, hI.nonneg⟩

/-- A call changes nothing for the emergency calls. -/
theorem dial (hI : Agrees v w) (hfresh : w.Fresh serial) (dialInfo : Dial) (sent : Bool) :
    Agrees v ⟨w.emergencyDialSerial, serial :: w.requested,
      reached (radio.dial serial dialInfo sent) ++ w.unanswered⟩ where
  nonneg := hI.nonneg_request hfresh
  known := fun s hs => List.mem_cons_of_mem _ (hI.known s hs)
  asked := (hI.unanswered_request hfresh dialInfo sent).2
  nodup := (hI.unanswered_request hfresh dialInfo sent).1
  routed := by
    intro s hs hem
    rcases List.mem_append.mp hs with hs | hun
    · -- the new serial is no emergency call's
      obtain rfl := eq_of_mem_reached hs
      exact absurd (hI.known s hem) hfresh.2
    · exact hI.routed s hun hem
  remembered := hI.remembered
  pending := hI.pending

/-- An emergency call that finds nothing remembered is the remembered one. -/
theorem emergencyDial (hI : Agrees v w) (hfresh : w.Fresh serial)
    (hfree : w.emergencyDialSerial = -1) (dialInfo : Dial) (sent : Bool) :
    Agrees ⟨serial :: v.emergencies, serial :: v.pending⟩ ⟨serial, serial :: w.requested,
      reached (radio.wrapV1_0Call (.dial serial dialInfo) sent) ++ w.unanswered⟩ where
  nonneg := hI.nonneg_request hfresh
  known := by
    intro s hs
    rcases List.mem_cons.mp hs with rfl | hs
    · exact List.mem_cons_self
    · exact List.mem_cons_of_mem _ (hI.known s hs)
  asked := (hI.unanswered_request hfresh dialInfo sent).2
  nodup := (hI.unanswered_request hfresh dialInfo sent).1
  routed := by
    intro s hs hem
    rcases List.mem_append.mp hs with hs | hun
    · exact eq_of_mem_reached hs
    · rcases List.mem_cons.mp hem with hs | hem
      · exact hs
      · -- an older emergency call would be the remembered one, and there is none
        have := hI.routed s hun hem
        exact absurd (this.trans hfree) (hI.ne_of_mem (hI.asked s hun))
  remembered := Or.inr List.mem_cons_self
  pending := by
    have hne : serial ≠ -1 := by
      have := hfresh.1
      omega
    rw [if_neg hne, hI.pending_eq_nil.mpr hfree]

/-- An answer ends the call it belongs to. -/
theorem dialResponse (hI : Agrees v w) (info : RadioResponseInfo) :
    Agrees ⟨v.emergencies, v.pending.filter (· ≠ info.serial)⟩
      ⟨if info.serial = w.emergencyDialSerial then -1 else w.emergencyDialSerial, w.requested,
        w.unanswered.erase info.serial⟩ where
  nonneg := hI.nonneg
  known := hI.known
  asked := fun s hs => hI.asked s (List.mem_of_mem_erase hs)
  nodup := hI.nodup.erase _
  routed := by
    intro s hs hem
    obtain ⟨hne, hun⟩ := hI.nodup.mem_erase_iff.mp hs
    have heq := hI.routed s hun hem
    rw [if_neg fun h => hne (heq.trans h.symm)]
    exact heq
  remembered := by
    dsimp only
    split
    · exact Or.inl rfl
    · exact hI.remembered
  pending := by
    dsimp only
    by_cases hanswered : info.serial = w.emergencyDialSerial
    · rw [if_pos hanswered, if_pos rfl, hI.pending, ← hanswered]
      split
      · rfl
      · simp
    · -- the answer to another call
      rw [if_neg hanswered, hI.pending]
      split
      · rfl
      · simp [Ne.symm hanswered]

end Agrees

/-! ## Steps -/

section

variable {radio : Radio} {v : Calls} {e : Event DialService (DialLabel Dial) (DialOut Dial)}

/-- A request over the old interface hands out no answer. -/
theorem answers_eq_none {serial : ℤ} {dialInfo : Dial} {sent : Bool} {o : DialOut Dial}
    (ho : o ∈ radio.wrapV1_0Call (.dial serial dialInfo) sent) : o.answers = none := by
  rw [Radio.wrapV1_0Call] at ho
  split at ho
  · rcases List.mem_pair.mp ho with rfl | rfl <;> rfl
  · rw [List.mem_singleton.mp ho]
    rfl

/-- A step that finds no emergency call pending serves its caller. -/
theorem Agrees.step (hold : radio.getRealRadio_V1_4 = none) (hI : Agrees v e.pre)
    (hok : AllAnswered v e)
    (hs : (dialMachine radio).step e.pre e.label = some (e.post, e.out)) :
    Agrees (v.next e) e.post ∧ Served v e := by
  rcases e with ⟨w, l, out, w'⟩
  dsimp only at hI hok hs ⊢
  cases l with
  | dial serial dialInfo sent =>
    obtain ⟨hfresh, rfl, rfl⟩ := step_dial_inv hs
    refine ⟨hI.dial hfresh dialInfo sent, ⟨nofun, nofun, fun o ho s hans => ?_⟩⟩
    rw [answers_eq_none ho] at hans
    cases hans
  | emergencyDial serial dialInfo info sent =>
    obtain ⟨hfresh, emergencyDialSerial, hr, rfl⟩ := step_emergencyDial_inv hs
    have hfree := hI.pending_eq_nil.mp (hok serial dialInfo info sent rfl)
    rw [hfree, emergencyDial_of_free hold] at hr
    obtain ⟨rfl, rfl⟩ := Prod.mk.inj hr
    refine ⟨hI.emergencyDial hfresh hfree dialInfo sent, ⟨?_, nofun, fun o ho s hans => ?_⟩⟩
    · rintro _ _ _ _ ⟨⟩
      rcases dial_mem_wrapV1_0Call radio (.dial serial dialInfo) sent with hcall | hrefused
      · exact Or.inl hcall
      · exact Or.inr (Or.inl ⟨.illegalState, by decide, hrefused⟩)
    · rw [answers_eq_none ho] at hans
      cases hans
  | dialResponse info =>
    obtain ⟨hmem, emergencyDialSerial, hr, rfl⟩ := step_dialResponse_inv hs
    have hiff := hI.eq_iff_mem hmem
    have hnext := hI.dialResponse info
    refine ⟨?_, ⟨nofun, ?_, fun _ _ _ _ => Or.inl ⟨info, rfl⟩⟩⟩
    · rw [RadioResponse.dialResponse] at hr
      split at hr
      · next heq =>
        obtain ⟨rfl, -⟩ := Prod.mk.inj hr
        rwa [if_pos heq] at hnext
      · next hne =>
        obtain ⟨rfl, -⟩ := Prod.mk.inj hr
        rwa [if_neg hne] at hnext
    · rintro _ ⟨⟩
      rw [RadioResponse.dialResponse] at hr
      simp only [← hiff]
      split at hr
      · next heq => rw [if_pos heq, ← (Prod.mk.inj hr).2]
      · next hne => rw [if_neg hne, ← (Prod.mk.inj hr).2]

/-- An emergency call that finds one pending is lost. -/
theorem Agrees.not_served (hold : radio.getRealRadio_V1_4 = none) (hI : Agrees v e.pre)
    (hno : ¬ AllAnswered v e)
    (hs : (dialMachine radio).step e.pre e.label = some (e.post, e.out)) : ¬ Served v e := by
  intro hserved
  simp only [AllAnswered, not_forall] at hno
  obtain ⟨serial, dialInfo, info, sent, hl, hpending⟩ := hno
  have htaken := mt hI.pending_eq_nil.mpr hpending
  rcases e with ⟨w, l, out, w'⟩
  dsimp only at hl htaken hs
  subst hl
  obtain ⟨-, emergencyDialSerial, hr, -⟩ := step_emergencyDial_inv hs
  rw [emergencyDial_of_taken hold htaken] at hr
  obtain ⟨-, rfl⟩ := Prod.mk.inj hr
  rcases hserved.emergency serial dialInfo info sent rfl with h | ⟨r, hne, h⟩ | ⟨_, -, h⟩
  · cases List.mem_singleton.mp h
  · exact hne (DialOut.returned.inj (List.mem_singleton.mp h))
  · cases List.mem_singleton.mp h

end

/-! ## Whole runs -/

/-- **Which emergency calls are lost.** Over a real radio older than 1.4, in any order of
requests, answers and failures: no emergency call of a run is lost and every answer is
delivered once and as what it is, exactly when every emergency call finds all earlier ones
answered. -/
theorem served_iff {radio : Radio} (hold : radio.getRealRadio_V1_4 = none)
    {h : List (Event DialService (DialLabel Dial) (DialOut Dial))} {w : DialService}
    (hrun : Run (dialMachine radio) {} h w) :
    Watched Calls.next {} AllAnswered h ↔ Watched Calls.next {} Served h := by
  exact Run.watched_congr Agrees (fun _ _ => True) agrees_init
    (fun _ _ hI _ hok hs => hI.step hold hok hs)
    (fun _ _ hI _ hno hs => hI.not_served hold hno hs) hrun fun _ _ => trivial

/-! ## Two runs -/

/-- A real radio that is only 1.0. -/
def oldRadio : Radio := ⟨some ⟨0⟩⟩

/-- An emergency call to 112. -/
def call112 (serial : ℤ) (sent : Bool) : DialLabel String :=
  .emergencyDial serial "112" ⟨0, [], 0, true, false⟩ sent

/-- One emergency call is answered, and the next one fails in transport. -/
theorem served_iff_twice :
    ∃ h w, Run (dialMachine oldRadio) {} h w ∧
      h.map Event.label = [call112 1 true, .dialResponse ⟨0, 1, 0⟩, call112 2 false] ∧
      Watched Calls.next {} Served h := by
  have hnil : Run (dialMachine oldRadio) {}
    ([] : List (Event DialService (DialLabel String) (DialOut String))) {} := Run.nil
  have hrun := Run.snoc (Run.snoc (Run.snoc hnil (l := call112 1 true) rfl)
    (l := .dialResponse ⟨0, 1, 0⟩) rfl) (l := call112 2 false) rfl
  refine ⟨_, _, hrun, rfl, (served_iff (by decide) hrun).mp ?_⟩
  refine watched_snoc.mpr ⟨watched_snoc.mpr ⟨watched_snoc.mpr ⟨watched_nil, ?_⟩, ?_⟩, ?_⟩
  · exact fun _ _ _ _ _ => rfl
  · exact nofun
  · exact fun _ _ _ _ _ => rfl

/-- A second emergency call, while the first one has no answer, is lost. -/
theorem not_served_of_unanswered :
    ¬ ∀ (h : List (Event DialService (DialLabel String) (DialOut String))) (w : DialService),
      Run (dialMachine oldRadio) {} h w → Watched Calls.next {} Served h := by
  intro hall
  obtain ⟨h, e, hrun, -, hl, hcheck⟩ := (dialMachine oldRadio).exists_run_last {}
    [call112 1 true] (call112 2 true) (fun _ e => decide (e.out = [.returned .ok])) (by decide)
  have hout := of_decide_eq_true hcheck
  have hserved := (watched_snoc.mp (hall (h ++ [e]) e.post hrun)).2
  rcases hserved.emergency 2 "112" _ true hl with hmem | ⟨r, hne, hmem⟩ | ⟨_, -, hmem⟩
  · rw [hout] at hmem
    cases List.mem_singleton.mp hmem
  · rw [hout] at hmem
    exact hne (DialOut.returned.inj (List.mem_singleton.mp hmem))
  · rw [hout] at hmem
    cases List.mem_singleton.mp hmem

end OppoA37.Hidl
