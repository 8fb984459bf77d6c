import OppoA37.Gps.Agps.DsReleased

/-!
# Does pending wait for an answer?

In pending the machine waits for the data call to come up. Somebody has to have been
asked for it. The released state looks at the result of the start and moves to pending
only when it was accepted; the releasing state does not look. A retry that is under way
does not help: what it does in the end is one more subscription, which starts nothing
in pending (`not_retryStarts_of_pending`). `awaits_iff` says that the releasing state is
the only way to get stuck.
-/

namespace OppoA37.Agps

open Lts

namespace DsNif

/-! ## The unanswered start -/

/-- The message answers a start of the data call. -/
def answers : DsMsg → Bool
  | .call .suplEsOpened | .call .suplEsClosed => true
  | _ => false

/-- Whether a start is unanswered after one of the machine's calls. -/
def startedBy (unanswered : Bool) : DsOutput → Bool
  | .dataCallCb .gpsRequestAgpsDataConn ret => unanswered || ret == errSuccess
  | .dataCallCb .gpsReleaseAgpsDataConn _ => false
  | _ => unanswered

/-- Whether a start was accepted after the last release and is still unanswered: the
message of the step comes first, the calls it causes in their order. -/
def unanswered (v : Bool) (e : Event DsNif DsLabel DsOutput) : Bool :=
  e.out.foldl startedBy (v && !answers e.label.msg)

/-- A retry is under way, and would start the data call if its message came now. -/
def RetryStarts (d : DsNif) : Prop :=
  d.RetryPending ∧ ∃ ID env ret,
    .dataCallCb .gpsRequestAgpsDataConn ret ∈ (d.called env (.requestSuplEs ID)).2

/-- A machine in pending waits for an answer that somebody will give. -/
def Awaits (v : Bool) (e : Event DsNif DsLabel DsOutput) : Prop :=
  e.post.sm.mStatePtr = .pending → unanswered v e = true ∨ RetryStarts e.post

/-- A start at the end of a close is accepted. -/
def ReopensAccepted (d : DsNif) (l : DsLabel) : Prop :=
  callOf d l = some .suplEsClosed → d.sm.mStatePtr = .releasing →
    DSStateMachine.active d.sm.mSubscribers ≠ [] → l.env.start = .success

instance (d : DsNif) (l : DsLabel) : Decidable (ReopensAccepted d l) :=
  inferInstanceAs (Decidable (_ → _))

/-- The invariant: in pending there is an unanswered start. -/
structure Asked (v : Bool) (d : DsNif) : Prop where
  single : d.sm.mEnforceSingleSubscriber = false
  asked : d.sm.mStatePtr = .pending → v = true

/-- Only the notes of a step matter to the unanswered start. -/
theorem foldl_startedBy (out : List DsOutput) (v : Bool) :
    out.foldl startedBy v = (notes out).foldl startedBy v := by
  induction out generalizing v with
  | nil => rfl
  | cons o out ih =>
    rw [List.foldl_cons, ih]
    rcases o with ⟨_ | _, _⟩ | ⟨_ | _ | _ | _ | _ | _, _⟩ | _ | _ | _ | _ <;> rfl

/-- Telling connections that their close is complete starts nothing. -/
theorem foldl_startedBy_informed (status : AgpsRsrcStatus) (l : List DSSubscriber) (v : Bool) :
    (l.map fun s => DsOutput.informStatus status s.ID).foldl startedBy v = v := by
  induction l with
  | nil => rfl
  | cons s l ih => exact ih

/-- A start leaves an unanswered start behind when it is accepted. -/
theorem foldl_startedBy_startNotes (env : DsEnv) (mRetries : UInt8) (l : List DSSubscriber)
    (v : Bool) : (DSStateMachine.startNotes env mRetries l).foldl startedBy v =
      (v || decide (env.start = .success)) := by
  rw [DSStateMachine.startNotes]
  rcases env with ⟨_ | _ | _ | _, timer⟩
  · rfl
  · split <;> rfl
  · rfl
  · rfl

/-- Only a successful start is accepted. -/
theorem startOutcome_eq_accepted {env : DsEnv} {mRetries : UInt8} :
    DSStateMachine.startOutcome env mRetries = .accepted ↔ env.start = .success := by
  rw [DSStateMachine.startOutcome]
  rcases env with ⟨_ | _ | _ | _, timer⟩
  · exact iff_of_true rfl rfl
  · refine iff_of_false ?_ (by rintro ⟨⟩)
    simp only
    split
    · rintro ⟨⟩
    · split <;> rintro ⟨⟩
  · exact iff_of_false (by rintro ⟨⟩) (by rintro ⟨⟩)
  · exact iff_of_false (by rintro ⟨⟩) (by rintro ⟨⟩)

/-- In pending one more subscription starts nothing. -/
theorem not_retryStarts_of_pending {d : DsNif} (hsingle : d.sm.mEnforceSingleSubscriber = false)
    (hst : d.sm.mStatePtr = .pending) : ¬ RetryStarts d := by
  rintro ⟨-, ID, env, ret, hmem⟩
  have hmove := called_moves d env (.requestSuplEs ID) hsingle
  rw [← mem_notes rfl] at hmem
  rw [Moves] at hmove
  generalize (d.called env (.requestSuplEs ID)).1.sm.mStatePtr = state at hmove
  generalize (d.called env (.requestSuplEs ID)).1.sm.mSubscribers = subs at hmove
  generalize (d.called env (.requestSuplEs ID)).1.sm.world.timers = timers at hmove
  generalize notes (d.called env (.requestSuplEs ID)).2 = out at hmove hmem
  cases hmove with
  | started hreleased => rw [hst] at hreleased; cases hreleased
  | joined => cases hmem
  | ignored _ hign => exact hign

/-! ## One step -/

variable {v : Bool} {e : Event DsNif DsLabel DsOutput}

/-- A subscription or an unsubscription answers no start. -/
theorem answers_eq_false {c : DsCall} (hc : callOf e.pre e.label = some c)
    (hne : c ≠ .suplEsOpened ∧ c ≠ .suplEsClosed) : answers e.label.msg = false := by
  rcases hm : e.label.msg with c' | _ | _
  · simp only [callOf, hm] at hc
    obtain rfl := Option.some.inj hc
    cases c' with
    | requestSuplEs | releaseATL => rfl
    | suplEsOpened => exact absurd rfl hne.1
    | suplEsClosed => exact absurd rfl hne.2
  · rfl
  · rfl

/-- **One step.** A step that meets the condition leaves an unanswered start in pending. -/
theorem Asked.step (hI : Asked v e.pre) (hok : ReopensAccepted e.pre e.label)
    (hs : machine.step e.pre e.label = some (e.post, e.out)) : Asked (unanswered v e) e.post := by
  refine ⟨single_step hI.single hs, ?_⟩
  rcases step_cases hI.single hs with ⟨c, hc, hmove, -⟩ | ⟨hm, -, hst, -, -, -, hout⟩
  swap
  · -- the end of a timer answers nothing
    intro h
    rw [unanswered, hout, hm, hI.asked (hst.symm.trans h)]
    rfl
  have hquiet (hne : c ≠ .suplEsOpened ∧ c ≠ .suplEsClosed) (hn : notes e.out = [])
      (hpending : e.pre.sm.mStatePtr = .pending) : unanswered v e = true := by
    rw [unanswered, foldl_startedBy, hn, answers_eq_false hc hne, hI.asked hpending]
    rfl
  rw [Moves] at hmove
  generalize hst : e.post.sm.mStatePtr = state at hmove
  generalize e.post.sm.mSubscribers = subs at hmove
  generalize e.post.sm.world.timers = timers at hmove
  generalize hn : notes e.out = out at hmove hquiet
  cases hmove with
  | @started ID hreleased =>
    intro h
    have hacc : DSStateMachine.startOutcome e.label.env e.pre.sm.world.mRetries = .accepted := by
      by_contra hno
      rw [if_neg hno] at h
      cases h
    rw [unanswered, foldl_startedBy, hn, foldl_startedBy_startNotes,
      decide_eq_true (startOutcome_eq_accepted.mp hacc), Bool.or_true]
  | joined hst₀ hne => exact fun h => hquiet ⟨by rintro ⟨⟩, by rintro ⟨⟩⟩ rfl (hst₀.trans h)
  | @ignored c state hst₀ hign =>
    intro h
    have hpending := hst₀.trans h
    refine hquiet ⟨?_, ?_⟩ rfl hpending
    · rintro rfl
      exact hign hpending
    · rintro rfl
      rw [hign] at hpending
      cases hpending
  | marked hst₀ => exact fun h => hquiet ⟨by rintro ⟨⟩, by rintro ⟨⟩⟩ rfl (hst₀.trans h)
  | markedLast | granted | ended | closed => rintro ⟨⟩
  | reopened hst₀ hactive =>
    intro _
    rw [unanswered, foldl_startedBy, hn, List.foldl_append, foldl_startedBy_informed,
      foldl_startedBy_startNotes, decide_eq_true (hok hc hst₀ hactive), Bool.or_true]

/-- A start at the end of a close that is not accepted leaves the machine in pending,
with nobody to answer. -/
theorem not_awaits_of_reopen (hI : Asked v e.pre) (hno : ¬ ReopensAccepted e.pre e.label)
    (hs : machine.step e.pre e.label = some (e.post, e.out)) : ¬ Awaits v e := by
  simp only [ReopensAccepted, Classical.not_imp] at hno
  obtain ⟨hclosed, hreleasing, hactive, hstart⟩ := hno
  rcases step_cases hI.single hs with ⟨c, hc, hmove, hq⟩ | ⟨hm, -⟩
  · obtain rfl := Option.some.inj (hc.symm.trans hclosed)
    obtain ⟨hst, -, hn⟩ := reopened_inv hreleasing hactive hmove
    have hanswers : answers e.label.msg = true := by
      rcases hq with ⟨hm, -⟩ | ⟨hm, -, hne⟩
      · rw [hm]
        rfl
      · rcases hqq : e.pre.queued with _ | ⟨ID, rest⟩
        · exact absurd hqq hne
        · simp [callOf, hm, hqq] at hc
    have hnone : unanswered v e = false := by
      rw [unanswered, foldl_startedBy, hn, List.foldl_append, foldl_startedBy_informed,
        foldl_startedBy_startNotes, decide_eq_false hstart, hanswers]
      simp
    intro hawaits
    rcases hawaits hst with h | h
    · rw [hnone] at h
      cases h
    · exact not_retryStarts_of_pending (single_step hI.single hs) hst h
  · simp [callOf, hm] at hclosed

/-! ## Whole runs -/

/-- **When pending waits for an answer.** Whatever the servicer answers and whenever
timers expire: a machine in pending has an accepted start that is not answered yet, or a
retry under way that would start one, after every step of a run, exactly when every
start at the end of a close is accepted. -/
theorem awaits_iff {h : List (Event DsNif DsLabel DsOutput)} {d : DsNif}
    (hrun : Run machine init h d) :
    (∀ e ∈ h, ReopensAccepted e.pre e.label) ↔ Watched unanswered false Awaits h := by
  have h₀ : Asked false init := ⟨rfl, by
    intro h
    cases h⟩
  refine Run.watched_iff Asked (fun _ _ => True) ReopensAccepted h₀ ?_ ?_ hrun fun _ _ => trivial
  · intro v e hI _ hok hs
    have hasked := hI.step hok hs
    exact ⟨hasked, fun hst => Or.inl (hasked.asked hst)⟩
  · intro v e hI _ hno hs
    exact not_awaits_of_reopen hI hno hs

/-- A close, a reopen and an accepted start. -/
theorem awaits_iff_reopened :
    ∃ h d, Run machine init h d ∧ d.sm.mStatePtr = .pending ∧
      Watched unanswered false Awaits h := by
  obtain ⟨h, d, hrun, -, hcheck⟩ := machine.exists_run init
    [starting (.requestSuplEs 1), starting .suplEsOpened, starting (.releaseATL 1),
      starting (.requestSuplEs 2), starting .suplEsClosed]
    (fun h d => decide ((∀ e ∈ h, ReopensAccepted e.pre e.label) ∧ d.sm.mStatePtr = .pending))
    (by decide)
  obtain ⟨hok, hst⟩ := of_decide_eq_true hcheck
  exact ⟨h, d, hrun, hst, (awaits_iff hrun).mp hok⟩

/-- A connection that subscribes during a close waits for ever when the servicer is busy
at the end of it. -/
theorem not_awaits_of_busy_reopen :
    ¬ ∀ (h : List (Event DsNif DsLabel DsOutput)) (d : DsNif), Run machine init h d →
      Watched unanswered false Awaits h := by
  intro hall
  obtain ⟨h, e, hrun, -, hle, hcheck⟩ := machine.exists_run_last init
    [starting (.requestSuplEs 1), starting .suplEsOpened, starting (.releaseATL 1),
      starting (.requestSuplEs 2)]
    ⟨.call .suplEsClosed, ⟨.engineBusy, true⟩⟩
    (fun _ e => decide (e.post.sm.mStatePtr = .pending ∧
      e.post.sm.mEnforceSingleSubscriber = false ∧ notes e.out =
        [.informStatus .rsrcReleased 1, .dataCallCb .gpsRequestAgpsDataConn errEngineBusy]))
    (by decide)
  obtain ⟨hst, hsingle, hn⟩ := of_decide_eq_true hcheck
  rcases hall (h ++ [e]) e.post hrun h e [] rfl hst with hunanswered | hretry
  · rw [unanswered, foldl_startedBy, hn, hle] at hunanswered
    simp [answers, startedBy, errEngineBusy, errSuccess] at hunanswered
  · exact not_retryStarts_of_pending hsingle hst hretry

end DsNif

end OppoA37.Agps
