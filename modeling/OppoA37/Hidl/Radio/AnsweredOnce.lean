import OppoA37.Hidl.Radio.Requests
import OppoA37.Lib.Ledger

/-!
# Is every request of the radio answered?

A request of version 1.5 that the real radio cannot do is to be refused, not dropped: the
framework waits for an answer with its serial. Over a real radio of version 1.0 a request ends
in one call of it or in one answer (`request_ends`), and each answer of it comes up as one
(`answer_out`). Two things end in neither:

* a list of data profiles none of which is persistent;
* reporting criteria whose serial is `-1`, before any others: the wrapper takes it for its last.

`answered_once_iff` says that nothing else is lost, and nothing is answered twice.
-/

namespace OppoA37.Hidl

open Lts Ledger

variable {R : Type}

/-! ## What a request ends in -/

/-- Data profiles are worth a call if one of them is persistent. -/
def Request.Worthwhile : Request R → Prop
  | .setDataProfile_1_5 profiles => ∃ p ∈ profiles, p.persistent = true
  | .setDataProfile_1_4 profiles => ∃ p ∈ profiles, p.persistent = true
  | _ => True

/-- Does the wrapper do anything about a request? -/
def Handled (m : RadioState) (serial : ℤ) (request : Request R) : Prop :=
  (∀ c ∈ request.criteria, serial ≠ m.last c) ∧ request.Worthwhile

/-- What a request with the given serial ends in. -/
inductive Outcome (serial : ℤ) : List (RadioOut R) → Prop where
  /-- an answer on the spot -/
  | replied (info : RadioResponseInfo) (response : Response R) :
      info.serial = serial → Outcome serial [.respond info response]
  /-- a call of the real radio -/
  | forwarded (realCall : RealCall R) (method : RealMethod) :
      realCall.method = some method → Outcome serial [.call serial realCall]

/-- A request ends in something exactly when it is handled. -/
structure Ends (handled : Prop) (serial : ℤ) (out : List (RadioOut R)) : Prop where
  /-- in one answer or one call -/
  outcome : handled → Outcome serial out
  /-- in nothing -/
  silent : ¬ handled → out = []

theorem Ends.congr {p q : Prop} {serial : ℤ} {out : List (RadioOut R)} (h : Ends p serial out)
    (hpq : p ↔ q) : Ends q serial out where
  outcome := fun hq => h.outcome (hpq.mpr hq)
  silent := fun hq => h.silent fun hp => hq (hpq.mp hp)

/-- A request that is always handled. -/
theorem Outcome.ends {p : Prop} {serial : ℤ} {out : List (RadioOut R)} (h : Outcome serial out)
    (hp : p) : Ends p serial out where
  outcome := fun _ => h
  silent := fun hno => absurd hp hno

/-- Criteria are answered when the serial is not the last one. -/
theorem reportingCriteria_ends (last serial : ℤ) (response : Response R) :
    Ends (serial ≠ last) serial (Radio.reportingCriteria last serial response).2 := by
  rw [Radio.reportingCriteria]
  constructor
  · intro hne
    rw [if_neg hne]
    exact .replied _ _ rfl
  · intro hlast
    rw [if_pos (not_not.mp hlast)]

/-- Profiles are handed on when one of them is persistent. -/
theorem setDataProfile_1_4_ends (m : RadioState) (serial : ℤ)
    (profiles : List V1_4.DataProfileInfo) :
    Ends (R := R) (∃ p ∈ profiles, p.persistent = true) serial
      (radioV1_0.setDataProfile_1_4 m serial profiles) := by
  rw [setDataProfile_1_4_radioV1_0]
  constructor
  · intro hsome
    rw [if_pos hsome]
    exact .forwarded _ _ rfl
  · intro hnone
    rw [if_neg hnone]

/-- **What a request ends in**, over a real radio of version 1.0. -/
theorem request_ends (m : RadioState) (serial : ℤ) (request : Request R) :
    Ends (Handled m serial request) serial (radioV1_0.request m serial request).2 := by
  -- what the definitions say about a request that is no set of criteria or profiles
  have hplain : ∀ {r : Request R}, r.criteria = none → r.Worthwhile → Handled m serial r :=
    fun hnone hw => ⟨fun c hc => absurd hc (by simp [hnone]), hw⟩
  cases request with
  | setSignalStrengthReportingCriteria_1_5 =>
    refine (reportingCriteria_ends ..).congr ?_
    simp [Handled, Request.criteria, Request.Worthwhile, RadioState.last]
  | setLinkCapacityReportingCriteria_1_5 =>
    refine (reportingCriteria_ends ..).congr ?_
    simp [Handled, Request.criteria, Request.Worthwhile, RadioState.last]
  | setDataProfile_1_5 profiles =>
    refine (setDataProfile_1_4_ends m serial _).congr ?_
    simp [Handled, Request.criteria, Request.Worthwhile]
  | setDataProfile_1_4 profiles =>
    refine (setDataProfile_1_4_ends m serial profiles).congr ?_
    simp [Handled, Request.criteria, Request.Worthwhile]
  -- refused on the spot
  | enableUiccApplications | areUiccApplicationsEnabled | setSystemSelectionChannels_1_5
  | startNetworkScan_1_5 | getBarringInfo | sendCdmaSmsExpectMore | supplySimDepersonalization =>
    apply Outcome.ends
    · exact .replied (NotSupported serial) _ rfl
    · exact hplain rfl trivial
  -- handed on
  | setupDataCall_1_5 | setInitialAttachApn_1_5 | setRadioPower_1_5 | setIndicationFilter_1_5
  | getVoiceRegistrationState_1_5 | getDataRegistrationState_1_5
  | setNetworkSelectionModeManual_1_5 | setupDataCall_1_4 | setInitialAttachApn_1_4
  | getDataRegistrationState | getOperator =>
    apply Outcome.ends
    · exact .forwarded _ _ rfl
    · exact hplain rfl trivial

/-! ## What the wrapper remembers -/

/-- The wrapper remembers the last criteria, if there were any. -/
structure Recalled (w : RadioService) : Prop where
  /-- `-1` stands for none -/
  last : ∀ c, w.state.last c = (w.lastCriteria c).getD (-1)
  /-- their serial was asked for -/
  known : ∀ c serial, w.lastCriteria c = some serial → serial ∈ w.requested

/-- The first criteria of a kind have a serial that is not `-1`, and profiles are worth a call. -/
def Answerable (w : RadioService) (serial : ℤ) (request : Request R) : Prop :=
  (∀ c ∈ request.criteria, w.lastCriteria c = none → serial ≠ -1) ∧ request.Worthwhile

/-- A step that loses no request. -/
def Loses (w : RadioService) : RadioLabel R → Prop
  | .request serial request => ¬ Answerable w serial request
  | .answer _ _ => False

theorem recalled_init : Recalled {} where
  last := fun c => by cases c <;> rfl
  known := fun _ _ h => absurd h (by simp)

namespace Recalled

variable {w w' : RadioService} {out : List (RadioOut R)} {serial : ℤ} {request : Request R}

/-- Every step keeps it. -/
theorem step {l : RadioLabel R} (hI : Recalled w)
    (hs : (radioMachine radioV1_0).step w l = some (w', out)) : Recalled w' := by
  cases l with
  | request serial request =>
    obtain ⟨-, -, rfl⟩ := step_request_inv hs
    constructor
    · intro c
      dsimp only [RadioService.note]
      rw [last_request]
      split
      · rfl
      · exact hI.last c
    · intro c s hc
      dsimp only [RadioService.note] at hc
      split at hc
      · obtain rfl := Option.some.inj hc
        exact List.mem_insert_self
      · exact List.mem_insert_of_mem (hI.known c s hc)
  | answer info answer =>
    obtain ⟨-, -, rfl⟩ := step_answer_inv hs
    exact ⟨fun c => (last_answer ..).trans (hI.last c), hI.known⟩

/-- What is asked for the first time is handled when it is answerable. -/
theorem handled_iff (hI : Recalled w) (hnew : serial ∉ w.requested) :
    Handled w.state serial request ↔ Answerable w serial request := by
  refine and_congr_left fun _ => forall₂_congr fun c _ => ?_
  rw [hI.last c]
  rcases hlast : w.lastCriteria c with _ | s
  · simp
  · have hne : serial ≠ s := by
      rintro rfl
      exact hnew (hI.known c serial hlast)
    simp [hne]

/-- Criteria that are set again are no new request. -/
theorem again (hI : Recalled w) {c : Criteria} (hc : c ∈ request.criteria)
    (hlast : w.lastCriteria c = some serial) :
    serial ∈ w.requested ∧ ¬ Handled w.state serial request ∧ Answerable w serial request := by
  refine ⟨hI.known c serial hlast, ?_, ?_, ?_⟩
  · intro hh
    exact hh.1 c hc (by rw [hI.last c, hlast, Option.getD_some])
  · intro c' hc' hnone
    obtain rfl := Option.mem_unique hc hc'
    rw [hlast] at hnone
    cases hnone
  · cases request <;> first | exact trivial | cases hc

end Recalled

/-! ## The ledger -/

/-- The serials of the answers that the framework received, oldest first. -/
def answers (h : List (Event RadioService (RadioLabel R) (RadioOut R))) : List ℤ :=
  (h.flatMap Event.out).filterMap RadioOut.answers

/-- The requests of a run, by serial. -/
def ledger (h : List (Event RadioService (RadioLabel R) (RadioOut R))) (w : RadioService) :
    Ledger ℤ :=
  ⟨w.requested, w.pending.map Prod.fst, answers h⟩

theorem answers_snoc (h : List (Event RadioService (RadioLabel R) (RadioOut R)))
    (e : Event RadioService (RadioLabel R) (RadioOut R)) :
    answers (h ++ [e]) = answers h ++ e.out.filterMap RadioOut.answers := by
  simp [answers]

/-- A new request that ends in something. -/
theorem Outcome.keeps {ℓ : Ledger ℤ} {serial : ℤ} {out : List (RadioOut R)}
    (h : Outcome serial out) (hnew : serial ∉ ℓ.asked) :
    Keeps ℓ ⟨serial :: ℓ.asked, (out.filterMap RadioOut.awaited).map Prod.fst ++ ℓ.waiting,
      ℓ.answered ++ out.filterMap RadioOut.answers⟩ := by
  cases h with
  | replied info response hserial =>
    obtain rfl := hserial
    exact .reply hnew
  | forwarded realCall method hmethod =>
    have hawaited : [RadioOut.call serial realCall].filterMap RadioOut.awaited =
        [(serial, method)] := by
      simp [RadioOut.awaited, hmethod]
    have hanswers : [RadioOut.call serial realCall].filterMap RadioOut.answers = [] := rfl
    rw [hawaited, hanswers, List.append_nil]
    exact .forward hnew

section

variable {w w' : RadioService} {out : List (RadioOut R)} {l : RadioLabel R}
  {h : List (Event RadioService (RadioLabel R) (RadioOut R))}

/-- A step that does not lose a request keeps the ledger. -/
theorem step_keeps (hI : Recalled w) (hok : ¬ Loses w l)
    (hs : (radioMachine radioV1_0).step w l = some (w', out)) :
    Keeps (ledger h w) (ledger (h ++ [⟨w, l, out, w'⟩]) w') := by
  rw [ledger, ledger, answers_snoc]
  cases l with
  | request serial request =>
    have hanswerable : Answerable w serial request := not_not.mp hok
    obtain ⟨hlegal, hout, rfl⟩ := step_request_inv hs
    by_cases hnew : serial ∈ w.requested
    · -- criteria that are set again
      obtain ⟨c, hc, hlast⟩ := hlegal.resolve_left fun hno => hno hnew
      have hsilent := (request_ends ..).silent (hI.again hc hlast).2.1
      rw [hout, hsilent, List.insert_of_mem hnew]
      simpa using Keeps.idle
    · have houtcome := (request_ends ..).outcome ((hI.handled_iff hnew).mpr hanswerable)
      rw [← hout] at houtcome
      rw [List.insert_of_not_mem hnew, List.map_append]
      exact houtcome.keeps hnew
  | answer info answer =>
    obtain ⟨hmem, hout, rfl⟩ := step_answer_inv hs
    obtain ⟨response, hresponse⟩ := answer_out w.state info answer
    rw [hout, hresponse]
    refine .answer ?_
    exact (List.perm_cons_erase hmem).map Prod.fst

/-- A step that loses a request drops it. -/
theorem step_drops (hI : Recalled w) (hbad : Loses w l)
    (hs : (radioMachine radioV1_0).step w l = some (w', out)) :
    Drops (ledger h w) (ledger (h ++ [⟨w, l, out, w'⟩]) w') := by
  rw [ledger, ledger, answers_snoc]
  cases l with
  | request serial request =>
    obtain ⟨hlegal, hout, rfl⟩ := step_request_inv hs
    have hnew : serial ∉ w.requested := by
      apply hlegal.resolve_right
      rintro ⟨c, hc, hlast⟩
      exact hbad (hI.again hc hlast).2.2
    have hsilent := (request_ends ..).silent (mt (hI.handled_iff hnew).mp hbad)
    rw [hout, hsilent, List.insert_of_not_mem hnew]
    have hdrops : Drops ⟨w.requested, w.pending.map Prod.fst, answers h⟩
        ⟨serial :: w.requested, w.pending.map Prod.fst, answers h⟩ := .drop hnew
    simpa using hdrops
  | answer info answer => exact absurd hbad id

/-- **Answered once.** When nothing is waited for any more, the framework has received one
answer for each of its serials exactly when no request was lost: profiles had a persistent one
among them, and the first criteria of each kind had another serial than `-1`. -/
theorem answered_once_iff (hr : Run (radioMachine radioV1_0) {} h w) (hdone : w.pending = []) :
    (∀ serial ∈ w.requested, (answers h).count serial = 1) ↔ ∀ e ∈ h, ¬ Loses e.pre e.label := by
  obtain ⟨hsound, hiff⟩ := run_lossless_iff ledger Recalled (fun w l => ¬ Loses w l)
    recalled_init rfl (fun _ _ _ _ hI hs => hI.step hs)
    (fun _ _ _ _ _ hI hok hs => step_keeps hI hok hs)
    (fun _ _ _ _ _ hI hbad hs => step_drops hI (not_not.mp hbad) hs) hr
  rw [← hiff, ← hsound.count_eq_one_iff]
  · rfl
  · exact List.map_eq_nil_iff.mpr hdone

end

/-- A request that is refused, one that is handed on, and criteria that are set twice. -/
theorem answered_refused_and_forwarded : ∃ h w,
    Run (radioMachine (R := Unit) radioV1_0) {} h w ∧ h.map Event.label =
      [.request 1 .getBarringInfo, .request 2 (.setRadioPower_1_5 true false false),
        .request 3 (.setSignalStrengthReportingCriteria_1_5 () 0),
        .request 3 (.setSignalStrengthReportingCriteria_1_5 () 1),
        .answer ⟨SOLICITED, 2, RadioError.NONE⟩ .setRadioPowerResponse] ∧
      w.requested = [3, 2, 1] ∧ ∀ serial ∈ w.requested, (answers h).count serial = 1 := by
  obtain ⟨h, w, hr, hl, hcheck⟩ := (radioMachine (R := Unit) radioV1_0).exists_run {}
    [.request 1 .getBarringInfo, .request 2 (.setRadioPower_1_5 true false false),
      .request 3 (.setSignalStrengthReportingCriteria_1_5 () 0),
      .request 3 (.setSignalStrengthReportingCriteria_1_5 () 1),
      .answer ⟨SOLICITED, 2, RadioError.NONE⟩ .setRadioPowerResponse]
    (fun _ w => decide (w.pending = []) && decide (w.requested = [3, 2, 1])) (by decide)
  simp only [Bool.and_eq_true, decide_eq_true_iff] at hcheck
  refine ⟨h, w, hr, hl, hcheck.2, (answered_once_iff hr hcheck.1).mpr fun e he => ?_⟩
  refine forall_label (P := fun l => ∀ w, ¬ Loses w l) hl ?_ e he e.pre
  simp [Loses, Answerable, Request.criteria, Request.Worthwhile]

/-- With no persistent profile, `setDataProfile_1_5` is never answered. -/
theorem profiles_never_answered : ∃ h w,
    Run (radioMachine (R := Unit) radioV1_0) {} h w ∧
      h.map Event.label = [.request 0 (.setDataProfile_1_5 [internetProfile false])] ∧
      w.pending = [] ∧ 0 ∈ w.requested ∧ (answers h).count 0 = 0 := by
  obtain ⟨h, w, hr, hl, hcheck⟩ := (radioMachine (R := Unit) radioV1_0).exists_run {}
    [.request 0 (.setDataProfile_1_5 [internetProfile false])]
    (fun h w => decide (w.pending = []) && (decide (0 ∈ w.requested) &&
      decide ((answers h).count 0 = 0))) (by decide)
  simp only [Bool.and_eq_true, decide_eq_true_iff] at hcheck
  exact ⟨h, w, hr, hl, hcheck⟩

end OppoA37.Hidl
