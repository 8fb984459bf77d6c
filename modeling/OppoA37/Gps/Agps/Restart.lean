import OppoA37.Gps.Agps.Requests
import OppoA37.Lib.Monitor

/-!
# Modem restarts

`loc_eng_handle_engine_up` empties the subscriber lists of `agnss_nif` and
`internet_nif` with `dropAllSubscribers`. It leaves their states alone, while every
handler of a state object moves to another state, and tells connectivity, when it
takes the last subscriber off the list.

The system here is the pair of machines with the message handlers that reach them.
What a state says about its list survives a restart exactly when the restart finds
the machines in released (`served_iff_restartsReleased`). Under that condition a
subscriber never waits for a NIF that nobody asked for (`arrives_of_restartsReleased`).
-/

namespace OppoA37.Agps

open Lts

/-! ## The two machines -/

/-- `AGPS_TYPE_SUPL` -/
def agpsTypeSupl : ℤ := 1

/-- `AGPS_TYPE_WWAN_ANY` -/
def agpsTypeWwanAny : ℤ := 3

/-- The machines a restart touches. -/
inductive Nif where
  | agnss
  | internet
  deriving DecidableEq, Repr

/-- The part of `loc_eng_data_s_type` a restart touches. -/
structure LocEngData where
  /-- whether `agps_status_cb` is set -/
  agpsStatusCb : Bool
  /-- `agnss_nif`, `none` for `NULL` -/
  agnssNif : Option BaseMachine
  /-- `internet_nif` -/
  internetNif : Option BaseMachine

namespace LocEngData

/-- The machine behind a name. -/
def nif (d : LocEngData) : Nif → Option BaseMachine
  | .agnss => d.agnssNif
  | .internet => d.internetNif

/-- Store a machine behind its name. -/
def setNif (d : LocEngData) (sm : BaseMachine) : Nif → LocEngData
  | .agnss => { d with agnssNif := some sm }
  | .internet => { d with internetNif := some sm }

/-- What `loc_eng_agps_init` leaves behind; `agnss_nif` needs one of the capabilities
MSA and MSB. -/
def agpsInit (msaOrMsb : Bool) : LocEngData where
  agpsStatusCb := true
  agnssNif := if msaOrMsb then some (.init agpsTypeSupl false) else none
  internetNif := some (.init agpsTypeWwanAny false)

/-- `loc_eng_handle_engine_up`, as far as the machines are concerned. -/
def handleEngineUp (d : LocEngData) : LocEngData :=
  if d.agpsStatusCb then
    { d with
      agnssNif := d.agnssNif.map AgpsStateMachine.dropAllSubscribers
      internetNif := d.internetNif.map AgpsStateMachine.dropAllSubscribers }
  else d

@[simp] theorem nif_setNif_self (d : LocEngData) (sm : BaseMachine) (n : Nif) :
    (d.setNif sm n).nif n = some sm := by cases n <;> rfl

theorem nif_setNif_ne (d : LocEngData) (sm : BaseMachine) {m n : Nif} (h : m ≠ n) :
    (d.setNif sm n).nif m = d.nif m := by
  cases m <;> cases n <;> first | rfl | exact absurd rfl h

/-- A restart empties every list and nothing else. -/
theorem nif_handleEngineUp (d : LocEngData) (n : Nif) (hcb : d.agpsStatusCb = true) :
    d.handleEngineUp.nif n = (d.nif n).map AgpsStateMachine.dropAllSubscribers := by
  rw [handleEngineUp, if_pos hcb]
  cases n <;> rfl

end LocEngData

/-- The subscribers of these machines are BIT and ATL clients; WIFI subscribers only
ever reach `wifi_nif`. -/
def NotWifi (s : Subscriber) : Prop := s.className ≠ .wifi

/-- A call that the message handlers make of these machines. -/
structure NifCall where
  /-- the call -/
  call : Call
  /-- with a BIT or an ATL subscriber -/
  notWifi : call.Of NotWifi
  /-- only the restart drops subscribers -/
  notDrop : call ≠ .dropAllSubscribers

/-- A message of the deferred thread. -/
inductive LocEngMsg where
  /-- a call of one machine -/
  | call (n : Nif) (c : NifCall)
  /-- the modem is back up -/
  | engineUp

namespace LocEngData

/-- The runs of the two machines, with restarts. -/
def machine : Machine LocEngData LocEngMsg (Nif × Output) where
  step d
    | .call n c =>
      match d.nif n with
      | none => none
      | some sm => (BaseMachine.machine.step sm c.call).map fun r =>
          (d.setNif r.1 n, r.2.map (Prod.mk n))
    | .engineUp => some (d.handleEngineUp, [])

/-- A call of one machine is a step of that machine and leaves the other one alone. -/
theorem step_call {d d' : LocEngData} {n : Nif} {c : NifCall} {out : List (Nif × Output)}
    (hs : machine.step d (.call n c) = some (d', out)) :
    ∃ sm sm' out', d.nif n = some sm ∧
      BaseMachine.machine.step sm c.call = some (sm', out') ∧
      d' = d.setNif sm' n ∧ out = out'.map (Prod.mk n) := by
  simp only [machine] at hs
  rcases hn : d.nif n with _ | sm <;> rw [hn] at hs
  · cases hs
  · obtain ⟨⟨sm', out'⟩, hstep, heq⟩ := Option.map_eq_some_iff.mp hs
    obtain ⟨rfl, rfl⟩ := Prod.mk.inj heq
    exact ⟨sm, sm', out', rfl, hstep, rfl, rfl⟩

/-! ## What a state says about its list -/

/-- A machine in pending or acquired has an active subscriber, one in releasing an
inactive one. -/
def Served (d : LocEngData) : Prop :=
  ∀ n sm, d.nif n = some sm →
    ((sm.mStatePtr = .pending ∨ sm.mStatePtr = .acquired) →
      ∃ s ∈ sm.mSubscribers, isInactive s = false) ∧
    (sm.mStatePtr = .releasing → ∃ s ∈ sm.mSubscribers, isInactive s = true)

/-- A restart finds every machine in released. -/
def RestartsReleased (d : LocEngData) : LocEngMsg → Prop
  | .call _ _ => True
  | .engineUp => d.agpsStatusCb = true → ∀ n sm, d.nif n = some sm → sm.mStatePtr = .released

instance (d : LocEngData) (l : LocEngMsg) : Decidable (RestartsReleased d l) :=
  match l with
  | .call _ _ => isTrue trivial
  | .engineUp => decidable_of_iff (d.agpsStatusCb = true →
      (∀ sm ∈ d.agnssNif, sm.mStatePtr = .released) ∧
        ∀ sm ∈ d.internetNif, sm.mStatePtr = .released)
      ⟨fun h hcb n sm hn => match n with
        | .agnss => (h hcb).1 sm hn
        | .internet => (h hcb).2 sm hn,
      fun h hcb => ⟨fun sm hn => h hcb .agnss sm hn, fun sm hn => h hcb .internet sm hn⟩⟩

/-- The invariant: each machine's list is what its state says, and its subscribers are of
the classes it is meant for; nobody enforces a single subscriber. -/
def NifsMatch (d : LocEngData) : Prop :=
  ∀ n sm, d.nif n = some sm →
    BaseMachine.MatchesOf NotWifi sm ∧ sm.mEnforceSingleSubscriber = false

theorem NifsMatch.served {d : LocEngData} (h : NifsMatch d) : Served d := by
  intro n sm hn
  obtain ⟨⟨hstate, -⟩, -⟩ := h n sm hn
  refine ⟨?_, ?_⟩
  · rintro (hst | hst) <;> rw [hst] at hstate <;> exact hstate
  · intro hst
    rw [hst] at hstate
    exact hstate

theorem nifsMatch_agpsInit (msaOrMsb : Bool) : NifsMatch (agpsInit msaOrMsb) := by
  have hinit (type : ℤ) : BaseMachine.MatchesOf NotWifi (BaseMachine.init type false) :=
    ⟨rfl, fun _ hs => absurd hs List.not_mem_nil⟩
  rintro (_ | _) sm hn
  · cases msaOrMsb with
    | false => cases hn
    | true =>
      obtain rfl := Option.some.inj hn
      exact ⟨hinit _, rfl⟩
  · obtain rfl := Option.some.inj hn
    exact ⟨hinit _, rfl⟩

/-- A call keeps a machine matching its list. -/
theorem matchesOf_step {sm sm' : BaseMachine} {c : NifCall} {out : List Output}
    (hs : BaseMachine.machine.step sm c.call = some (sm', out))
    (h : BaseMachine.MatchesOf NotWifi sm) : BaseMachine.MatchesOf NotWifi sm' := by
  have hclone (s : Subscriber) (hs : NotWifi s) : NotWifi (clone s) :=
    fun hw => hs ((Subscriber.className_clone s).symm.trans hw)
  have hset (s : Subscriber) (hs : NotWifi s) : NotWifi (setInactive s) :=
    fun hw => hs ((Subscriber.className_setInactive s).symm.trans hw)
  have hwait (a b : Subscriber) (ha : NotWifi a) (hb : NotWifi b) :
      waitForCloseComplete a = waitForCloseComplete b := by
    rw [Subscriber.waitForCloseComplete_eq, Subscriber.waitForCloseComplete_eq,
      decide_eq_false ha, decide_eq_false hb]
  obtain ⟨rfl, -⟩ := Prod.mk.inj (Option.some.inj hs)
  have h₀ : BaseMachine.MatchesOf NotWifi { sm with world := [] } := ⟨h.state, h.all⟩
  have hcall := h₀.call hclone hset hwait c.notWifi c.notDrop
  exact ⟨hcall.state, hcall.all⟩

/-- A step that finds the machines in released, if it is a restart, keeps the invariant. -/
theorem NifsMatch.step {d d' : LocEngData} {l : LocEngMsg} {out : List (Nif × Output)}
    (h : NifsMatch d) (hok : RestartsReleased d l) (hs : machine.step d l = some (d', out)) :
    NifsMatch d' := by
  cases l with
  | call m c =>
    obtain ⟨sm, sm', out', hm, hstep, rfl, -⟩ := step_call hs
    intro n sm₁ hn
    by_cases hnm : n = m
    · subst hnm
      rw [nif_setNif_self] at hn
      obtain rfl := Option.some.inj hn
      obtain ⟨hmatch, hsingle⟩ := h n sm hm
      refine ⟨matchesOf_step hstep hmatch, ?_⟩
      obtain ⟨rfl, -⟩ := Prod.mk.inj (Option.some.inj hstep)
      exact (BaseMachine.mEnforceSingleSubscriber_call _ _).trans hsingle
    · rw [nif_setNif_ne d sm' hnm] at hn
      exact h n sm₁ hn
  | engineUp =>
    obtain ⟨rfl, -⟩ := Prod.mk.inj (Option.some.inj hs)
    by_cases hcb : d.agpsStatusCb = true
    · intro n sm₁ hn
      rw [nif_handleEngineUp d n hcb] at hn
      obtain ⟨sm, hsm, rfl⟩ := Option.map_eq_some_iff.mp hn
      refine ⟨⟨?_, fun _ hs => absurd hs List.not_mem_nil⟩, (h n sm hsm).2⟩
      -- an empty list is what released says
      change StateMatches sm.mStatePtr []
      rw [hok hcb n sm hsm]
      rfl
    · rwa [handleEngineUp, if_neg hcb]

/-- A restart that finds a machine in another state breaks what that state says. -/
theorem not_served_of_restart {d d' : LocEngData} {l : LocEngMsg} {out : List (Nif × Output)}
    (hno : ¬ RestartsReleased d l) (hs : machine.step d l = some (d', out)) : ¬ Served d' := by
  cases l with
  | call n c => exact absurd trivial hno
  | engineUp =>
    obtain ⟨rfl, -⟩ := Prod.mk.inj (Option.some.inj hs)
    intro hserved
    refine hno fun hcb n sm hn => ?_
    have hn' := nif_handleEngineUp d n hcb
    rw [hn] at hn'
    obtain ⟨hactive, hinactive⟩ := hserved n _ hn'
    rcases hst : sm.mStatePtr with _ | _ | _ | _
    · rfl
    · obtain ⟨s, hs, -⟩ := hactive (Or.inl hst)
      cases hs
    · obtain ⟨s, hs, -⟩ := hactive (Or.inr hst)
      cases hs
    · obtain ⟨s, hs, -⟩ := hinactive hst
      cases hs

/-! ## What the framework sees of one of the machines -/

/-- The calls a step made on behalf of the machine `n`. -/
def outOf (n : Nif) (e : Event LocEngData LocEngMsg (Nif × Output)) : List Output :=
  (e.out.filter fun o => o.1 = n).map Prod.snd

/-- What the framework sees of the machine `n` in a step. -/
def nifObs (n : Nif) (e : Event LocEngData LocEngMsg (Nif × Output)) : List NifObs :=
  (match e.label with
    | .call m c => if m = n then c.call.received else []
    | .engineUp => []) ++ sends (outOf n e)

/-- The framework's view of a machine; idle while there is none. -/
def conn (n : Nif) (d : LocEngData) : NifConn :=
  match d.nif n with
  | none => .idle
  | some sm => sm.mStatePtr.conn

theorem conn_of_nif {n : Nif} {d : LocEngData} {sm : BaseMachine} (hn : d.nif n = some sm) :
    conn n d = sm.mStatePtr.conn := by rw [conn, hn]

/-- What a machine sent is what the step sent for it. -/
theorem outOf_self {n : Nif} {e : Event LocEngData LocEngMsg (Nif × Output)} {out : List Output}
    (ho : e.out = out.map (Prod.mk n)) : outOf n e = out := by
  rw [outOf, ho, List.filter_eq_self.mpr (by simp), List.map_map]
  exact List.map_id out

theorem outOf_ne {m n : Nif} {e : Event LocEngData LocEngMsg (Nif × Output)} {out : List Output}
    (ho : e.out = out.map (Prod.mk m)) (hne : m ≠ n) : outOf n e = [] := by
  rw [outOf, ho, List.filter_eq_nil_iff.mpr (by simp [hne])]
  rfl

/-- Every step moves the framework's view of every machine along. -/
theorem step_read (n : Nif) {e : Event LocEngData LocEngMsg (Nif × Output)}
    (h : NifsMatch e.pre) (hs : machine.step e.pre e.label = some (e.post, e.out)) :
    NifConn.observer.read (conn n e.pre) (nifObs n e) = some (conn n e.post) := by
  rcases hl : e.label with ⟨m, c⟩ | _ <;> rw [hl] at hs
  · obtain ⟨sm, sm', out, hm, hstep, hpost, hout⟩ := step_call hs
    by_cases hmn : m = n
    · subst hmn
      have hreleased : ReleasedEmpty sm := by
        intro hst
        have hstate := (h m sm hm).1.state
        rw [hst] at hstate
        exact hstate
      have hread := BaseMachine.step_read (e := ⟨sm, c.call, out, sm'⟩) hreleased hstep
      rw [conn_of_nif hm, hpost, conn_of_nif (nif_setNif_self _ _ _), nifObs, hl, outOf_self hout]
      simpa [Agps.nifObs] using hread
    · rw [nifObs, hl, outOf_ne hout hmn, hpost]
      simp only [if_neg hmn, conn, nif_setNif_ne e.pre sm' (Ne.symm hmn)]
      rfl
  · obtain ⟨hpost, hout⟩ := Prod.mk.inj (Option.some.inj hs)
    rw [nifObs, hl, outOf, ← hout, ← hpost]
    by_cases hcb : e.pre.agpsStatusCb = true
    · simp only [conn, nif_handleEngineUp e.pre n hcb]
      rcases e.pre.nif n with _ | sm <;> rfl
    · rw [handleEngineUp, if_neg hcb]
      rfl

/-! ## Who arrives, and what is there -/

/-- What becomes of a subscriber that arrives at the machine `n` in the step `e` after the
history `h`: it causes exactly one request, or it waits for the answer to an earlier
request, or it is granted the NIF that an earlier request obtained and nobody released. -/
def Arrives (n : Nif) (s : Subscriber) (h : List (Event LocEngData LocEngMsg (Nif × Output)))
    (e : Event LocEngData LocEngMsg (Nif × Output)) : Prop :=
  (∃ listed, sends (outOf n e) = [.sent .gpsRequestAgpsDataConn listed]) ∨
  (sends (outOf n e) = [] ∧ Asked (trace (nifObs n) h)) ∨
  ∃ sm, e.pre.nif n = some sm ∧ outOf n e = s.told sm .rsrcGranted ∧
    Obtained (trace (nifObs n) h)

/-- A subscriber that arrives in acquired is granted the NIF at once. -/
theorem out_of_acquired {sm sm' : BaseMachine} {s : Subscriber} {out : List Output}
    (hst : sm.mStatePtr = .acquired) (hsingle : sm.mEnforceSingleSubscriber = false)
    (hs : BaseMachine.machine.step sm (.subscribeRsrc s) = some (sm', out)) :
    out = s.told sm .rsrcGranted := by
  obtain ⟨-, rfl⟩ := Prod.mk.inj (Option.some.inj hs)
  have hworld (sm₀ : BaseMachine) : (sm₀.addSubscriber s).world = sm₀.world := by
    rcases AgpsStateMachine.addSubscriber_cases sm₀ s with ⟨-, h⟩ | ⟨-, h⟩ <;> rw [h]
  simp only [BaseMachine.call, AgpsStateMachine.subscribeRsrc, hsingle, Bool.false_and,
    Bool.false_eq_true, if_false, AgpsStateMachine.dispatch, hst,
    AgpsStateMachine.acquiredOnRsrcEvent, hworld, notifyRsrcStatus, forMe_addressed,
    LawfulSubscriber.equals_refl, Bool.true_and]
  rfl

/-- Nobody waits for a close on these machines, so none is ever releasing. -/
theorem ne_releasing {sm : BaseMachine} (h : BaseMachine.MatchesOf NotWifi sm) :
    sm.mStatePtr ≠ .releasing := by
  intro hst
  have hstate := h.state
  rw [hst] at hstate
  obtain ⟨t, ht, hinactive⟩ := hstate
  have hwait := LawfulSubscriber.waits_of_isInactive t hinactive
  rw [Subscriber.waitForCloseComplete_eq, decide_eq_false (h.all t ht)] at hwait
  cases hwait

/-- Around every step of a run whose restarts find the machines in released, the
invariant holds, and the framework's view explains the trace. -/
theorem nifsMatch_of_run {msaOrMsb : Bool} {d : LocEngData}
    {h : List (Event LocEngData LocEngMsg (Nif × Output))}
    (hrun : Run machine (agpsInit msaOrMsb) h d)
    (hok : ∀ e ∈ h, RestartsReleased e.pre e.label) :
    NifsMatch d ∧ ∀ n, (conn n d).Explains (trace (nifObs n) h) := by
  have hkeep : ∀ d l d' out, NifsMatch d → RestartsReleased d l →
      machine.step d l = some (d', out) → NifsMatch d' :=
    fun d l d' out hI hok hs => hI.step hok hs
  have h₀ := nifsMatch_agpsInit msaOrMsb
  refine ⟨Run.invariant_of NifsMatch RestartsReleased h₀ hkeep hrun hok, fun n => ?_⟩
  have hread := hrun.read_trace NifConn.observer (conn n) (nifObs n)
    fun e he => by
      obtain ⟨hpre, hs, -⟩ := Run.invariant_of_mem NifsMatch RestartsReleased h₀ hkeep hrun hok he
      exact step_read n hpre hs
  have hidle : conn n (agpsInit msaOrMsb) = .idle := by
    rcases n with _ | _
    · cases msaOrMsb <;> rfl
    · rfl
  rw [hidle] at hread
  exact NifConn.explains_of_read _ hread

/-- **Arrivals.** In a run whose restarts find the machines in released, a subscriber that
arrives finds its NIF asked for. -/
theorem arrives_of_restartsReleased {msaOrMsb : Bool} {d : LocEngData} {n : Nif} {c : NifCall}
    {s : Subscriber} {h₁ h₂ : List (Event LocEngData LocEngMsg (Nif × Output))}
    {e : Event LocEngData LocEngMsg (Nif × Output)}
    (hrun : Run machine (agpsInit msaOrMsb) (h₁ ++ e :: h₂) d)
    (hok : ∀ e' ∈ h₁ ++ e :: h₂, RestartsReleased e'.pre e'.label)
    (hl : e.label = .call n c) (hc : c.call = .subscribeRsrc s) : Arrives n s h₁ e := by
  obtain ⟨hpre, hs, -⟩ := Run.event hrun
  obtain ⟨hmatch, hexp⟩ := nifsMatch_of_run hpre fun e' he' => hok e' (List.mem_append_left _ he')
  rw [hl] at hs
  obtain ⟨sm, sm', out, hn, hstep, -, hout⟩ := step_call hs
  obtain ⟨hsm, hsingle⟩ := hmatch n sm hn
  have hview := hexp n
  rw [conn_of_nif hn] at hview
  rw [hc] at hstep
  have hreleased : ReleasedEmpty sm := by
    intro hst
    have hstate := hsm.state
    rw [hst] at hstate
    exact hstate
  have hraises : BaseMachine.raises sm (.subscribeRsrc s) = some (.rsrcSubscribe s) := by
    simp [BaseMachine.raises, hsingle]
  have hmove : Move sm.mStatePtr (.rsrcSubscribe s) sm'.mStatePtr sm'.mSubscribers (sends out) := by
    rcases BaseMachine.step_move hreleased hstep with ⟨event, hr, hmove⟩ | ⟨hr, -⟩
    · rw [hraises] at hr
      obtain rfl := Option.some.inj hr
      exact hmove
    · rw [hraises] at hr
      cases hr
  rw [← outOf_self hout] at hmove
  rcases hst : sm.mStatePtr with _ | _ | _ | _ <;> rw [hst] at hview hmove
  · exact Or.inl ⟨_, hmove.of_subscribe.1 rfl⟩
  · exact Or.inr (Or.inl ⟨hmove.of_subscribe.2 (by rintro ⟨⟩), hview⟩)
  · -- acquired
    refine Or.inr (Or.inr ⟨sm, hn, ?_, hview⟩)
    rw [outOf_self hout]
    exact out_of_acquired hst hsingle hstep
  · exact absurd hst (ne_releasing hsm)

/-- **Modem restarts.** In a run of the two machines every state keeps its word about its
list, and every subscriber that arrives finds its NIF asked for, exactly when every
restart finds both machines in released. -/
theorem served_iff_restartsReleased (msaOrMsb : Bool) {d : LocEngData}
    {h : List (Event LocEngData LocEngMsg (Nif × Output))}
    (hrun : Run machine (agpsInit msaOrMsb) h d) :
    (∀ e ∈ h, RestartsReleased e.pre e.label) ↔
      (∀ e ∈ h, Served e.post) ∧
      ∀ h₁ e h₂, h = h₁ ++ e :: h₂ → ∀ n c s, e.label = .call n c →
        c.call = .subscribeRsrc s → Arrives n s h₁ e := by
  have hiff : (∀ e ∈ h, RestartsReleased e.pre e.label) ↔ ∀ e ∈ h, Served e.post := by
    refine Run.forall_iff NifsMatch RestartsReleased (fun e => Served e.post)
      (nifsMatch_agpsInit msaOrMsb) ?_ ?_ hrun
    · intro d l d' out hI hok hs
      exact ⟨hI.step hok hs, (hI.step hok hs).served⟩
    · intro d l d' out _ hno hs
      exact not_served_of_restart hno hs
  constructor
  · intro hok
    refine ⟨hiff.mp hok, ?_⟩
    rintro h₁ e h₂ rfl n c s hl hc
    exact arrives_of_restartsReleased hrun hok hl hc
  · exact fun hall => hiff.mpr hall.1

/-- An ATL client of `internet_nif`. -/
def atlClient : Subscriber := ⟨2, Vector.replicate 16 0, .atlSubscriber false⟩

/-- The client asks for the NIF. -/
def atlSubscribe : LocEngMsg :=
  .call .internet ⟨.subscribeRsrc atlClient, by simp [Call.Of, NotWifi, atlClient,
    Subscriber.className], nofun⟩

/-- The client is done with the NIF. -/
def atlUnsubscribe : LocEngMsg :=
  .call .internet ⟨.unsubscribeRsrc atlClient, by simp [Call.Of, NotWifi, atlClient,
    Subscriber.className], nofun⟩

/-- A restart after the last client left: the next client is served again. -/
theorem served_iff_restartsReleased_idle :
    ∃ h d, Run machine (agpsInit true) h d ∧ h.length = 4 ∧ ∀ e ∈ h, Served e.post := by
  obtain ⟨h, d, hrun, hl, hok⟩ := machine.exists_run (agpsInit true)
    [atlSubscribe, atlUnsubscribe, .engineUp, atlSubscribe]
    (fun h _ => decide (∀ e ∈ h, RestartsReleased e.pre e.label)) (by decide)
  refine ⟨h, d, hrun, ?_, ((served_iff_restartsReleased true hrun).mp (of_decide_eq_true hok)).1⟩
  rw [← List.length_map Event.label, hl]
  rfl

/-- A restart while a client waits for the NIF leaves a pending machine with an empty
list. -/
theorem not_served_of_pending_restart :
    ¬ ∀ (msaOrMsb : Bool) (h : List (Event LocEngData LocEngMsg (Nif × Output)))
      (d : LocEngData), Run machine (agpsInit msaOrMsb) h d → ∀ e ∈ h, Served e.post := by
  intro hall
  obtain ⟨h, e, hrun, -, -, hcheck⟩ := machine.exists_run_last (agpsInit true) [atlSubscribe]
    .engineUp
    (fun _ e => e.post.internetNif.any fun sm => sm.mStatePtr = .pending ∧ sm.mSubscribers = [])
    (by decide)
  obtain ⟨sm, hn, hsm⟩ := (Option.any_eq_true _ _).mp hcheck
  obtain ⟨hst, hnil⟩ := of_decide_eq_true hsm
  have hserved := hall true (h ++ [e]) e.post hrun e (List.mem_append_right _ List.mem_cons_self)
  obtain ⟨s, hs, -⟩ := (hserved .internet sm hn).1 (Or.inl hst)
  rw [hnil] at hs
  cases hs

end LocEngData

end OppoA37.Agps
