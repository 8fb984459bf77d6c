import OppoA37.Gps.Agps.BaseMachine
import OppoA37.Lib.Observer

/-!
# What the framework sees of a base machine

The framework gets a status from `sendRsrcRequest` and answers with an event. Whether
a status is really handed over depends on the guard in `sendRsrcRequest`, which looks
at the list after the handler edited it.

* `Move` says once what an event of a state object does: the next state, and what the
  guard lets through. `dispatch_move` proves it of the handlers, for a machine whose
  list is empty in released (`ReleasedEmpty`).
* `NifConn` is the framework's view of one NIF, an observer of the statuses and events:
  idle, requested or granted. Every `Move` moves the view along `AgpsState.conn`.
* What the claim of the alternation says is then a fact about the traces that
  `NifConn` accepts (`NifConn.alternate_of_read`).
-/

namespace OppoA37.Agps

open Lts

/-! ## The framework's view -/

/-- What the framework takes part in. -/
inductive NifObs where
  /-- an event handed to the machine -/
  | received (event : AgpsRsrcStatus)
  /-- a status handed to the callback, with the subscribers listed at that moment -/
  | sent (status : AGpsStatusValue) (listed : List Subscriber)

/-- The framework's view of a NIF. -/
inductive NifConn where
  /-- not asked for, or given back -/
  | idle
  /-- asked for, no answer yet -/
  | requested
  /-- asked for and granted -/
  | granted
  deriving DecidableEq, Repr

namespace NifConn

/-- What each view accepts: a request only when idle, a release only when not. -/
def observer : Observer NifConn NifObs where
  next
    | .idle, .sent .gpsRequestAgpsDataConn _ => some .requested
    | .idle, .sent .gpsReleaseAgpsDataConn _ => none
    | .requested, .sent .gpsReleaseAgpsDataConn _ => some .idle
    | .granted, .sent .gpsReleaseAgpsDataConn _ => some .idle
    | .requested, .sent .gpsRequestAgpsDataConn _ => none
    | .granted, .sent .gpsRequestAgpsDataConn _ => none
    | .requested, .received .rsrcGranted => some .granted
    | .requested, .received .rsrcDenied => some .idle
    | .granted, .received .rsrcReleased => some .idle
    | view, .received _ => some view

end NifConn

/-- In `m` the request made before it ended: it was denied before it was granted, or
released after it was granted. -/
def EndsRequest (m : List NifObs) : Prop :=
  (∃ m₁ m₂, m = m₁ ++ .received .rsrcDenied :: m₂ ∧ .received .rsrcGranted ∉ m₁) ∨
  ∃ m₁ m₂ m₃, m = m₁ ++ .received .rsrcGranted :: m₂ ++ .received .rsrcReleased :: m₃

theorem EndsRequest.append {m : List NifObs} (h : EndsRequest m) (t : List NifObs) :
    EndsRequest (m ++ t) := by
  rcases h with ⟨m₁, m₂, rfl, hno⟩ | ⟨m₁, m₂, m₃, rfl⟩
  · exact Or.inl ⟨m₁, m₂ ++ t, by simp, hno⟩
  · exact Or.inr ⟨m₁, m₂, m₃ ++ t, by simp⟩

/-- The order in which statuses may be handed to the framework. -/
structure RequestsAlternate (t : List NifObs) : Prop where
  /-- the first status is a request -/
  first : ∀ t₁ status listed t₂, t = t₁ ++ .sent status listed :: t₂ →
    (∀ status' listed', .sent status' listed' ∉ t₁) → status = .gpsRequestAgpsDataConn
  /-- between two requests the first one was given back, or ended -/
  requests : ∀ t₁ l₁ m l₂ t₂,
    t = t₁ ++ .sent .gpsRequestAgpsDataConn l₁ :: (m ++ .sent .gpsRequestAgpsDataConn l₂ :: t₂) →
    (∃ l, .sent .gpsReleaseAgpsDataConn l ∈ m) ∨ EndsRequest m
  /-- between two releases there is a request -/
  releases : ∀ t₁ l₁ m l₂ t₂,
    t = t₁ ++ .sent .gpsReleaseAgpsDataConn l₁ :: (m ++ .sent .gpsReleaseAgpsDataConn l₂ :: t₂) →
    ∃ l, .sent .gpsRequestAgpsDataConn l ∈ m

namespace NifConn

/-- Without a request the view stays idle. -/
theorem eq_idle_of_read : ∀ {m : List NifObs} {view : NifConn},
    observer.read .idle m = some view → (∀ l, .sent .gpsRequestAgpsDataConn l ∉ m) →
      view = .idle
  | [], _, h, _ => (Option.some.inj h).symm
  | .received _ :: m, _, h, hno =>
    eq_idle_of_read (m := m) h fun l hl => hno l (List.mem_cons_of_mem _ hl)
  | .sent .gpsRequestAgpsDataConn l :: _, _, _, hno => absurd List.mem_cons_self (hno l)
  | .sent .gpsReleaseAgpsDataConn _ :: _, _, h, _ => by cases h

/-- Where the view can be after a request: back to idle only through a release or the
end of the request. -/
theorem read_requested (m : List NifObs) : ∀ {view : NifConn},
    observer.read .requested m = some view →
      (∃ l, .sent .gpsReleaseAgpsDataConn l ∈ m) ∨ EndsRequest m ∨
      (view = .requested ∧ .received .rsrcGranted ∉ m) ∨
      (view = .granted ∧ .received .rsrcGranted ∈ m) := by
  induction m using List.reverseRecOn with
  | nil =>
    intro view h
    obtain rfl := Option.some.inj h
    exact Or.inr (Or.inr (Or.inl ⟨rfl, List.not_mem_nil⟩))
  | append_singleton m b ih =>
    intro view h
    obtain ⟨view₁, h₁, h₂⟩ := Observer.read_append_inv h
    obtain ⟨view₂, hb, hview⟩ := Option.bind_eq_some_iff.mp h₂
    obtain rfl := Option.some.inj hview
    rcases ih h₁ with ⟨l, hl⟩ | hend | ⟨rfl, hno⟩ | ⟨rfl, hyes⟩
    · exact Or.inl ⟨l, List.mem_append_left _ hl⟩
    · exact Or.inr (Or.inl (hend.append _))
    · -- still requested before `b`
      rcases b with event | ⟨_ | _, l⟩
      · cases event with
        | rsrcGranted =>
          obtain rfl := Option.some.inj hb
          exact Or.inr (Or.inr (Or.inr ⟨rfl, List.mem_append_right _ List.mem_cons_self⟩))
        | rsrcDenied => exact Or.inr (Or.inl (Or.inl ⟨m, [], rfl, hno⟩))
        | rsrcSubscribe | rsrcUnsubscribe | rsrcReleased | rsrcStatusMax =>
          obtain rfl := Option.some.inj hb
          exact Or.inr (Or.inr (Or.inl ⟨rfl, by simp [hno]⟩))
      · cases hb
      · exact Or.inl ⟨l, List.mem_append_right _ List.mem_cons_self⟩
    · -- granted before `b`
      have hmem := List.mem_append_left [b] hyes
      rcases b with event | ⟨_ | _, l⟩
      · cases event with
        | rsrcReleased =>
          obtain ⟨m₁, m₂, rfl⟩ := List.append_of_mem hyes
          exact Or.inr (Or.inl (Or.inr ⟨m₁, m₂, [], rfl⟩))
        | rsrcSubscribe | rsrcUnsubscribe | rsrcGranted | rsrcDenied | rsrcStatusMax =>
          obtain rfl := Option.some.inj hb
          exact Or.inr (Or.inr (Or.inr ⟨rfl, hmem⟩))
      · cases hb
      · exact Or.inl ⟨l, List.mem_append_right _ List.mem_cons_self⟩

/-- A trace the framework accepts from idle alternates. -/
theorem alternate_of_read {t : List NifObs} {view : NifConn}
    (h : observer.read .idle t = some view) : RequestsAlternate t where
  first t₁ status listed t₂ ht hno := by
    subst ht
    obtain ⟨view₁, view₂, h₁, hs, -⟩ := Observer.read_mid_inv h
    obtain rfl := eq_idle_of_read h₁ (hno _)
    cases status with
    | gpsRequestAgpsDataConn => rfl
    | gpsReleaseAgpsDataConn => cases hs
  requests t₁ l₁ m l₂ t₂ ht := by
    subst ht
    obtain ⟨view₁, view₂, -, hs₁, hrest⟩ := Observer.read_mid_inv h
    obtain ⟨view₃, view₄, hm, hs₂, -⟩ := Observer.read_mid_inv hrest
    cases view₁ with
    | idle =>
      obtain rfl := Option.some.inj hs₁
      rcases read_requested m hm with hrel | hend | ⟨rfl, -⟩ | ⟨rfl, -⟩
      · exact Or.inl hrel
      · exact Or.inr hend
      · cases hs₂
      · cases hs₂
    | requested | granted => cases hs₁
  releases t₁ l₁ m l₂ t₂ ht := by
    subst ht
    obtain ⟨view₁, view₂, -, hs₁, hrest⟩ := Observer.read_mid_inv h
    obtain ⟨view₃, view₄, hm, hs₂, -⟩ := Observer.read_mid_inv hrest
    have hidle : view₂ = .idle := by
      cases view₁ with
      | idle => cases hs₁
      | requested | granted => exact (Option.some.inj hs₁).symm
    subst hidle
    by_contra hno
    rw [not_exists] at hno
    obtain rfl := eq_idle_of_read hm hno
    cases hs₂

end NifConn

/-- The last status was a request, and no answer to it came yet. -/
def Asked (t : List NifObs) : Prop :=
  ∃ t₁ listed a, t = t₁ ++ .sent .gpsRequestAgpsDataConn listed :: a ∧
    .received .rsrcGranted ∉ a ∧ .received .rsrcDenied ∉ a ∧
    ∀ l, .sent .gpsReleaseAgpsDataConn l ∉ a

/-- The last status was a request that was granted, and nobody released it since. -/
def Obtained (t : List NifObs) : Prop :=
  ∃ t₁ listed a b, t = t₁ ++ .sent .gpsRequestAgpsDataConn listed ::
      (a ++ .received .rsrcGranted :: b) ∧
    .received .rsrcDenied ∉ a ∧ .received .rsrcReleased ∉ b ∧
    ∀ l, .sent .gpsReleaseAgpsDataConn l ∉ a ++ b

namespace NifConn

/-- What a view says about the trace that led to it. -/
def Explains (t : List NifObs) : NifConn → Prop
  | .idle => True
  | .requested => Asked t
  | .granted => Obtained t

/-- The view the framework ends in explains the trace. -/
theorem explains_of_read (t : List NifObs) : ∀ {view : NifConn},
    observer.read .idle t = some view → view.Explains t := by
  induction t using List.reverseRecOn with
  | nil =>
    intro view h
    obtain rfl := Option.some.inj h
    trivial
  | append_singleton t b ih =>
    intro view h
    obtain ⟨view₁, h₁, h₂⟩ := Observer.read_append_inv h
    obtain ⟨view₂, hb, hview⟩ := Option.bind_eq_some_iff.mp h₂
    obtain rfl := Option.some.inj hview
    have hexp := ih h₁
    cases view₁ with
    | idle =>
      rcases b with event | ⟨_ | _, l⟩
      · obtain rfl : view₂ = .idle := (Option.some.inj hb).symm
        trivial
      · obtain rfl := Option.some.inj hb
        exact ⟨t, l, [], rfl, List.not_mem_nil, List.not_mem_nil, fun _ => List.not_mem_nil⟩
      · cases hb
    | requested =>
      obtain ⟨t₁, l₁, a, rfl, hgranted, hdenied, hrel⟩ := hexp
      rcases b with event | ⟨_ | _, l⟩
      · cases event with
        | rsrcGranted =>
          obtain rfl := Option.some.inj hb
          exact ⟨t₁, l₁, a, [], by simp, hdenied, List.not_mem_nil, by simpa using hrel⟩
        | rsrcDenied =>
          obtain rfl := Option.some.inj hb
          trivial
        | rsrcSubscribe | rsrcUnsubscribe | rsrcReleased | rsrcStatusMax =>
          obtain rfl := Option.some.inj hb
          exact ⟨t₁, l₁, _, List.append_assoc _ _ _, by simp [hgranted], by simp [hdenied],
            by simpa using hrel⟩
      · cases hb
      · obtain rfl := Option.some.inj hb
        trivial
    | granted =>
      obtain ⟨t₁, l₁, a, c, rfl, hdenied, hreleased, hrel⟩ := hexp
      rcases b with event | ⟨_ | _, l⟩
      · cases event with
        | rsrcReleased =>
          obtain rfl := Option.some.inj hb
          trivial
        | rsrcSubscribe | rsrcUnsubscribe | rsrcGranted | rsrcDenied | rsrcStatusMax =>
          obtain rfl := Option.some.inj hb
          have hsnoc (b : NifObs) :
              (t₁ ++ .sent .gpsRequestAgpsDataConn l₁ :: (a ++ .received .rsrcGranted :: c)) ++
                  [b] =
                t₁ ++ .sent .gpsRequestAgpsDataConn l₁ ::
                  (a ++ .received .rsrcGranted :: (c ++ [b])) := by simp
          exact ⟨t₁, l₁, a, _, hsnoc _, hdenied, by simp [hreleased], by simpa using hrel⟩
      · cases hb
      · obtain rfl := Option.some.inj hb
        trivial

end NifConn

/-! ## What one event does -/

/-- What the framework sees of a call that leaves the machine. -/
def Output.observed : Output → Option NifObs
  | .agpsStatusCb nifRequest listed => some (.sent nifRequest.status listed)
  | _ => none

/-- The statuses among the calls. -/
def sends (out : List Output) : List NifObs := out.filterMap Output.observed

theorem sends_append (a b : List Output) : sends (a ++ b) = sends a ++ sends b :=
  List.filterMap_append

/-- The events that a state object leaves unanswered. -/
def AgpsState.Ignores : AgpsState → RsrcEvent Subscriber → Prop
  | .released, .rsrcGranted | .released, .rsrcReleased | .released, .rsrcDenied => True
  | .pending, .rsrcReleased => True
  | .acquired, .rsrcGranted | .acquired, .rsrcDenied => True
  | .releasing, .rsrcGranted => True
  | _, _ => False

/-- What one event of a state object does: the state before, the event, the state and
the list after it, and the statuses handed to the framework. -/
inductive Move : AgpsState → RsrcEvent Subscriber → AgpsState → List Subscriber →
    List NifObs → Prop where
  /-- the first subscriber asks for the NIF -/
  | started {s : Subscriber} {listed : List Subscriber}
      (hactive : ∃ s ∈ listed, isInactive s = false) :
      Move .released (.rsrcSubscribe s) .pending listed [.sent .gpsRequestAgpsDataConn listed]
  /-- another subscriber joins -/
  | joined {state : AgpsState} {s : Subscriber} {listed : List Subscriber}
      (hstate : state ≠ .released) : Move state (.rsrcSubscribe s) state listed []
  /-- a subscriber leaves and the state stays -/
  | left {state : AgpsState} {position : ℕ} {listed : List Subscriber} :
      Move state (.rsrcUnsubscribe position) state listed []
  /-- the last active subscriber leaves, and the NIF is given back -/
  | leftLast {state state' : AgpsState} {position : ℕ} {listed : List Subscriber}
      (hstate : state = .pending ∨ state = .acquired)
      (hstate' : state' = .released ∨ state' = .releasing)
      (hinactive : ∀ s ∈ listed, isInactive s = true) :
      Move state (.rsrcUnsubscribe position) state' listed [.sent .gpsReleaseAgpsDataConn listed]
  /-- nobody is left while the NIF is being given back -/
  | closedLast {position : ℕ} {listed : List Subscriber} :
      Move .releasing (.rsrcUnsubscribe position) .released listed []
  | granted {listed : List Subscriber} : Move .pending .rsrcGranted .acquired listed []
  | denied {listed : List Subscriber} : Move .pending .rsrcDenied .released listed []
  | released {listed : List Subscriber} : Move .acquired .rsrcReleased .released listed []
  /-- the close is complete -/
  | closed {event : RsrcEvent Subscriber} {listed : List Subscriber}
      (hevent : event = .rsrcReleased ∨ event = .rsrcDenied) :
      Move .releasing event .released listed []
  /-- the close is complete and somebody wants the NIF again -/
  | reopened {event : RsrcEvent Subscriber} {listed : List Subscriber}
      (hevent : event = .rsrcReleased ∨ event = .rsrcDenied)
      (hactive : ∃ s ∈ listed, isInactive s = false) :
      Move .releasing event .pending listed [.sent .gpsRequestAgpsDataConn listed]
  | ignored {state : AgpsState} {event : RsrcEvent Subscriber} {listed : List Subscriber}
      (hignores : state.Ignores event) : Move state event state listed []

namespace BaseMachine

variable {sm : BaseMachine}

/-- No subscriber is told through the framework's callback. -/
theorem sends_told (s : Subscriber) (status : AgpsRsrcStatus) : sends (s.told sm status) = [] := by
  rcases s with ⟨id, ip, _ | _ | _⟩ <;> cases status <;> rfl

theorem sends_notifyRsrcStatus (n : Notification Subscriber) (s : Subscriber) (w : List Output) :
    sends (notifyRsrcStatus (virtuals.inform sm) n s w).2 = sends w := by
  simp only [notifyRsrcStatus]
  split
  · simp [virtuals, sends_append, sends_told]
  · rfl

theorem sends_notifySubscribers (n : Notification Subscriber)
    (htold : n.rsrcStatus.isTold = true) :
    sends (sm.notifySubscribers virtuals n).world = sends sm.world := by
  rw [AgpsStateMachine.world_notifySubscribers virtuals sm n htold]
  generalize sm.mSubscribers.filter (forMe n) = told
  generalize sm.world = w
  induction told generalizing w with
  | nil => rfl
  | cons s told ih =>
    rw [List.foldl_cons, ih]
    simp [virtuals, sends_append, sends_told]

theorem sends_addSubscriber (sm : BaseMachine) (s : Subscriber) :
    sends (sm.addSubscriber s).world = sends sm.world := by
  rcases AgpsStateMachine.addSubscriber_cases sm s with ⟨-, h⟩ | ⟨-, h⟩ <;> rw [h]

theorem sends_closeSubscriber (position : ℕ) :
    sends (sm.closeSubscriber virtuals position).world = sends sm.world := by
  simp only [AgpsStateMachine.closeSubscriber]
  split
  · rfl
  · split
    · rfl
    · exact sends_notifySubscribers _ rfl

/-- With an active subscriber the guard lets a request through. -/
theorem sends_request_start (hactive : sm.hasActiveSubscribers = true) :
    sends (sm.request virtuals .gpsRequestAgpsDataConn).2.world =
      sends sm.world ++ [.sent .gpsRequestAgpsDataConn sm.mSubscribers] := by
  obtain ⟨d, hd⟩ := Option.isSome_iff_exists.mp hactive
  simp [AgpsStateMachine.request, virtuals, sendRsrcRequest, hd, sends, Output.observed,
    nifRequest]

/-- Without one it lets a release through. -/
theorem sends_request_release (hactive : sm.hasActiveSubscribers = false) :
    sends (sm.request virtuals .gpsReleaseAgpsDataConn).2.world =
      sends sm.world ++ [.sent .gpsReleaseAgpsDataConn sm.mSubscribers] := by
  have hnone : AgpsStateMachine.search (.pattern .broadcastActive) sm.mSubscribers = none :=
    Option.isNone_iff_eq_none.mp (Option.isSome_eq_false_iff.mp hactive)
  simp [AgpsStateMachine.request, virtuals, sendRsrcRequest, hnone, sends, Output.observed,
    nifRequest]

/-- What leaving does in the pending and in the acquired state. -/
theorem releaseIfUnused_move (sm : BaseMachine) (this : AgpsState) (position : ℕ)
    (hthis : this = .pending ∨ this = .acquired) :
    ∃ sent, Move this (.rsrcUnsubscribe position) (sm.releaseIfUnused virtuals this).1
        sm.mSubscribers sent ∧
      sends (sm.releaseIfUnused virtuals this).2.world = sends sm.world ++ sent := by
  simp only [AgpsStateMachine.releaseIfUnused]
  by_cases hactive : sm.hasActiveSubscribers = true
  · -- an active subscriber is a subscriber
    obtain ⟨s, hs, -⟩ := AgpsStateMachine.hasActiveSubscribers_iff.mp hactive
    have hsubs := AgpsStateMachine.hasSubscribers_iff.mpr (List.ne_nil_of_mem hs)
    simp only [hsubs, hactive, Bool.not_true, Bool.false_eq_true, if_false]
    exact ⟨[], Move.left, (List.append_nil _).symm⟩
  · have hinactive : ∀ s ∈ sm.mSubscribers, isInactive s = true := by
      intro s hs
      refine Bool.of_not_eq_false fun hact => hactive ?_
      exact AgpsStateMachine.hasActiveSubscribers_iff.mpr ⟨s, hs, hact⟩
    have hsend := sends_request_release (Bool.eq_false_iff.mpr hactive)
    simp only [hactive, Bool.not_false, if_true]
    split
    · exact ⟨_, Move.leftLast hthis (Or.inl rfl) hinactive, hsend⟩
    · exact ⟨_, Move.leftLast hthis (Or.inr rfl) hinactive, hsend⟩

/-- What the end of a close does. -/
theorem closeComplete_move (sm : BaseMachine) {event : RsrcEvent Subscriber}
    (hevent : event = .rsrcReleased ∨ event = .rsrcDenied) {status : AgpsRsrcStatus}
    (htold : status.isTold = true) :
    ∃ sent, Move .releasing event (sm.closeComplete virtuals status).1
        (sm.closeComplete virtuals status).2.mSubscribers sent ∧
      sends (sm.closeComplete virtuals status).2.world = sends sm.world ++ sent := by
  simp only [AgpsStateMachine.closeComplete]
  split
  · next hactive =>
    have hex := AgpsStateMachine.hasActiveSubscribers_iff.mp hactive
    refine ⟨_, Move.reopened hevent hex, ?_⟩
    rw [sends_request_start hactive, sends_notifySubscribers _ htold]
    rfl
  · refine ⟨[], Move.closed hevent, ?_⟩
    rw [List.append_nil]
    exact sends_notifySubscribers _ htold

/-- **What an event does.** On a machine whose list is empty in released, every event of
the state object is one of the moves, and the guard swallows none of their statuses. -/
theorem dispatch_move (hnil : ReleasedEmpty sm) (event : RsrcEvent Subscriber) :
    ∃ sent, Move sm.mStatePtr event (sm.dispatch virtuals event).mStatePtr
        (sm.dispatch virtuals event).mSubscribers sent ∧
      sends (sm.dispatch virtuals event).world = sends sm.world ++ sent := by
  have hquiet {w : List Output} (hw : sends w = sends sm.world) :
      sends w = sends sm.world ++ [] := by rw [hw, List.append_nil]
  unfold AgpsStateMachine.dispatch
  rcases hst : sm.mStatePtr with _ | _ | _ | _
  · -- released
    cases event with
    | rsrcSubscribe s =>
      have hlist := AgpsStateMachine.mSubscribers_addSubscriber_nil (s := s) (hnil hst)
      have hactive : (sm.addSubscriber s).hasActiveSubscribers = true := by
        refine AgpsStateMachine.hasActiveSubscribers_iff.mpr ⟨clone s, ?_, ?_⟩
        · rw [hlist]
          exact List.mem_singleton_self _
        · exact LawfulSubscriber.isInactive_clone s
      have hex := AgpsStateMachine.hasActiveSubscribers_iff.mp hactive
      have hstart : ((sm.addSubscriber s).request virtuals .gpsRequestAgpsDataConn).1 = 0 :=
        sendRsrcRequest_fst _ _
      simp only [AgpsStateMachine.releasedOnRsrcEvent, hstart, if_true]
      refine ⟨_, Move.started hex, ?_⟩
      rw [sends_request_start hactive, sends_addSubscriber]
      rfl
    | rsrcUnsubscribe position =>
      -- nobody is listed
      have hpos : sm.mSubscribers[position]? = none := by rw [hnil hst]; rfl
      simp only [AgpsStateMachine.releasedOnRsrcEvent, hpos]
      exact ⟨[], Move.left, hquiet rfl⟩
    | rsrcGranted | rsrcReleased | rsrcDenied => exact ⟨[], Move.ignored trivial, hquiet rfl⟩
  · -- pending
    cases event with
    | rsrcSubscribe s => exact ⟨[], Move.joined (by rintro ⟨⟩), hquiet (sends_addSubscriber _ s)⟩
    | rsrcUnsubscribe position =>
      obtain ⟨sent, hmove, hsent⟩ := releaseIfUnused_move
        (sm.closeSubscriber virtuals position) .pending position (Or.inl rfl)
      rw [sends_closeSubscriber] at hsent
      exact ⟨sent, by simpa [AgpsStateMachine.pendingOnRsrcEvent] using hmove, hsent⟩
    | rsrcGranted => exact ⟨[], Move.granted, hquiet (sends_notifySubscribers _ rfl)⟩
    | rsrcReleased => exact ⟨[], Move.ignored trivial, hquiet rfl⟩
    | rsrcDenied => exact ⟨[], Move.denied, hquiet (sends_notifySubscribers _ rfl)⟩
  · -- acquired
    cases event with
    | rsrcSubscribe s =>
      refine ⟨[], Move.joined (by rintro ⟨⟩), hquiet ?_⟩
      exact (sends_addSubscriber _ s).trans (sends_notifyRsrcStatus _ _ _)
    | rsrcUnsubscribe position =>
      obtain ⟨sent, hmove, hsent⟩ := releaseIfUnused_move
        (sm.closeSubscriber virtuals position) .acquired position (Or.inr rfl)
      rw [sends_closeSubscriber] at hsent
      exact ⟨sent, by simpa [AgpsStateMachine.acquiredOnRsrcEvent] using hmove, hsent⟩
    | rsrcGranted | rsrcDenied => exact ⟨[], Move.ignored trivial, hquiet rfl⟩
    | rsrcReleased => exact ⟨[], Move.released, hquiet (sends_notifySubscribers _ rfl)⟩
  · -- releasing
    cases event with
    | rsrcSubscribe s => exact ⟨[], Move.joined (by rintro ⟨⟩), hquiet (sends_addSubscriber _ s)⟩
    | rsrcUnsubscribe position =>
      have hsent := hquiet (sends_closeSubscriber position)
      by_cases hsubs : (sm.closeSubscriber virtuals position).hasSubscribers = true
      · exact ⟨[], by simpa [AgpsStateMachine.releasingOnRsrcEvent, hsubs] using Move.left, hsent⟩
      · exact ⟨[], by simpa [AgpsStateMachine.releasingOnRsrcEvent, hsubs] using Move.closedLast,
          hsent⟩
    | rsrcGranted => exact ⟨[], Move.ignored trivial, hquiet rfl⟩
    | rsrcReleased => exact closeComplete_move sm (Or.inl rfl) rfl
    | rsrcDenied => exact closeComplete_move sm (Or.inr rfl) rfl

end BaseMachine

/-! ## The framework's view of a run -/

/-- The view that belongs to a state. -/
def AgpsState.conn : AgpsState → NifConn
  | .released | .releasing => .idle
  | .pending => .requested
  | .acquired => .granted

/-- What the framework sees of the event itself. -/
def RsrcEvent.received : RsrcEvent Subscriber → List NifObs
  | .rsrcGranted => [.received .rsrcGranted]
  | .rsrcReleased => [.received .rsrcReleased]
  | .rsrcDenied => [.received .rsrcDenied]
  | .rsrcSubscribe _ | .rsrcUnsubscribe _ => []

/-- A move moves the framework's view along. -/
theorem Move.read {state state' : AgpsState} {event : RsrcEvent Subscriber}
    {listed : List Subscriber} {sent : List NifObs} (h : Move state event state' listed sent) :
    NifConn.observer.read state.conn (event.received ++ sent) = some state'.conn := by
  cases h with
  | started | granted | denied | released | closedLast => rfl
  | joined | left => rfl
  | leftLast hstate hstate' =>
    rcases hstate with rfl | rfl <;> rcases hstate' with rfl | rfl <;> rfl
  | closed hevent | reopened hevent => rcases hevent with rfl | rfl <;> rfl
  | ignored hignores =>
    cases state <;> cases event <;> first | rfl | exact hignores.elim

/-- The guard of `sendRsrcRequest`, as the list sees it. -/
def AGpsStatusValue.Fits : AGpsStatusValue → List Subscriber → Prop
  | .gpsRequestAgpsDataConn, listed => ∃ s ∈ listed, isInactive s = false
  | .gpsReleaseAgpsDataConn, listed => ∀ s ∈ listed, isInactive s = true

/-- What a move sends fits the list. -/
theorem Move.fits {state state' : AgpsState} {event : RsrcEvent Subscriber}
    {listed listed' : List Subscriber} {sent : List NifObs} {status : AGpsStatusValue}
    (h : Move state event state' listed sent) (hmem : .sent status listed' ∈ sent) :
    status.Fits listed' := by
  cases h with
  | started hactive | reopened _ hactive =>
    obtain ⟨rfl, rfl⟩ := NifObs.sent.inj (List.mem_singleton.mp hmem)
    exact hactive
  | leftLast _ _ hinactive =>
    obtain ⟨rfl, rfl⟩ := NifObs.sent.inj (List.mem_singleton.mp hmem)
    exact hinactive
  | joined | left | closedLast | granted | denied | released | closed | ignored => cases hmem

/-- A subscriber causes a request in released and nothing in any other state. -/
theorem Move.of_subscribe {state state' : AgpsState} {s : Subscriber} {listed : List Subscriber}
    {sent : List NifObs} (h : Move state (.rsrcSubscribe s) state' listed sent) :
    (state = .released → sent = [.sent .gpsRequestAgpsDataConn listed]) ∧
      (state ≠ .released → sent = []) := by
  cases h with
  | started => exact ⟨fun _ => rfl, fun hne => absurd rfl hne⟩
  | joined hstate => exact ⟨fun heq => absurd heq hstate, fun _ => rfl⟩
  | closed hevent | reopened hevent => rcases hevent with h | h <;> cases h
  | ignored hignores => cases state <;> exact hignores.elim

/-- A move into pending sends its request. -/
theorem Move.into_pending {state : AgpsState} {event : RsrcEvent Subscriber}
    {listed : List Subscriber} {sent : List NifObs} (h : Move state event .pending listed sent)
    (hstate : state ≠ .pending) : sent = [.sent .gpsRequestAgpsDataConn listed] := by
  cases h with
  | started | reopened => rfl
  | joined | left | ignored => exact absurd rfl hstate
  | leftLast _ hstate' => rcases hstate' with h | h <;> cases h

/-- A move out of pending or acquired on an unsubscribe sends its release. -/
theorem Move.out_of_held {state state' : AgpsState} {position : ℕ} {listed : List Subscriber}
    {sent : List NifObs} (h : Move state (.rsrcUnsubscribe position) state' listed sent)
    (hstate : state = .pending ∨ state = .acquired) (hne : state' ≠ state) :
    sent = [.sent .gpsReleaseAgpsDataConn listed] := by
  cases h with
  | left | ignored => exact absurd rfl hne
  | leftLast => rfl
  | closedLast => rcases hstate with h | h <;> cases h
  | closed hevent | reopened hevent => rcases hevent with h | h <;> cases h

/-- What the framework sees of a call itself. -/
def Call.received : Call → List NifObs
  | .onRsrcEvent event => [.received event]
  | _ => []

/-- What the framework sees of a step. -/
def nifObs (e : Event BaseMachine Call Output) : List NifObs := e.label.received ++ sends e.out

namespace BaseMachine

variable {sm : BaseMachine}

/-- A call is seen as the event it raises. -/
theorem received_of_raises {c : Call} {event : RsrcEvent Subscriber}
    (h : raises sm c = some event) : c.received = event.received := by
  cases c with
  | subscribeRsrc s =>
    simp only [raises] at h
    split at h
    · cases h
    · rw [← Option.some.inj h]
      rfl
  | unsubscribeRsrc s =>
    obtain ⟨d, -, rfl⟩ := Option.map_eq_some_iff.mp h
    rfl
  | onRsrcEvent status => cases status <;> cases h <;> rfl
  | setAPN | setBearer | dropAllSubscribers => cases h

/-- A call that raises no event sends nothing, and its observation changes no view. -/
theorem quiet_of_raises_none {c : Call} (h : raises sm c = none) :
    sends (sm.call c).world = sends sm.world ∧
      ∀ view, NifConn.observer.read view c.received = some view := by
  cases c with
  | subscribeRsrc s =>
    refine ⟨?_, fun _ => rfl⟩
    simp only [raises] at h
    simp only [call, AgpsStateMachine.subscribeRsrc]
    split at h
    · next hsingle =>
      rw [if_pos hsingle]
      exact sends_notifyRsrcStatus _ _ _
    · cases h
  | unsubscribeRsrc s =>
    have hd := Option.map_eq_none_iff.mp h
    exact ⟨by simp [call, AgpsStateMachine.unsubscribeRsrc, hd], fun _ => rfl⟩
  | onRsrcEvent status =>
    cases status with
    | rsrcGranted | rsrcReleased | rsrcDenied => cases h
    | rsrcSubscribe | rsrcUnsubscribe | rsrcStatusMax =>
      exact ⟨rfl, fun view => by cases view <;> rfl⟩
  | setAPN | setBearer | dropAllSubscribers => exact ⟨rfl, fun _ => rfl⟩

/-- The list stays empty in released, over every call. -/
theorem ReleasedEmpty.call (hnil : ReleasedEmpty sm) (c : Call) : ReleasedEmpty (sm.call c) := by
  by_cases hdrop : c = .dropAllSubscribers
  · subst hdrop
    exact fun _ => rfl
  · rcases hr : raises sm c with _ | event
    · obtain ⟨hst, hl⟩ := call_of_raises_none hr
      intro hreleased
      rw [hl hdrop]
      exact hnil (hst ▸ hreleased)
    · rw [call_of_raises hr]
      exact hnil.dispatch (sendRsrcRequest_fst · _)

/-- What a step of a machine can do: one of the moves, or nothing the framework sees. -/
theorem step_move {c : Call} {sm' : BaseMachine} {out : List Output} (hnil : ReleasedEmpty sm)
    (hs : machine.step sm c = some (sm', out)) :
    (∃ event, raises sm c = some event ∧
      Move sm.mStatePtr event sm'.mStatePtr sm'.mSubscribers (sends out)) ∨
    raises sm c = none ∧ sm'.mStatePtr = sm.mStatePtr ∧ sends out = [] := by
  obtain ⟨rfl, rfl⟩ := Prod.mk.inj (Option.some.inj hs)
  have hraises : raises { sm with world := [] } c = raises sm c := by
    cases c with
    | onRsrcEvent status => cases status <;> rfl
    | subscribeRsrc | unsubscribeRsrc | setAPN | setBearer | dropAllSubscribers => rfl
  rcases hr : raises sm c with _ | event
  · obtain ⟨hst, -⟩ := call_of_raises_none (hraises.trans hr)
    exact Or.inr ⟨rfl, hst, (quiet_of_raises_none (hraises.trans hr)).1⟩
  · have hnil' : ReleasedEmpty ({ sm with world := [] } : BaseMachine) := hnil
    obtain ⟨sent, hmove, hsent⟩ := dispatch_move hnil' event
    refine Or.inl ⟨event, rfl, ?_⟩
    rw [call_of_raises (hraises.trans hr)]
    rw [hsent]
    exact hmove

/-- A step moves the framework's view along, whatever the call. -/
theorem step_read {e : Event BaseMachine Call Output} (hnil : ReleasedEmpty e.pre)
    (hs : machine.step e.pre e.label = some (e.post, e.out)) :
    NifConn.observer.read e.pre.mStatePtr.conn (nifObs e) = some e.post.mStatePtr.conn := by
  rcases step_move hnil hs with ⟨event, hr, hmove⟩ | ⟨hr, hst, hout⟩
  · rw [nifObs, received_of_raises hr]
    exact hmove.read
  · rw [nifObs, hout, List.append_nil, hst]
    exact (quiet_of_raises_none hr).2 _

/-- In every run the list is empty in released, around every step. -/
theorem releasedEmpty_of_mem {type : ℤ} {enforceSingleSubscriber : Bool}
    {h : List (Event BaseMachine Call Output)}
    (hrun : Run machine (init type enforceSingleSubscriber) h sm)
    {e : Event BaseMachine Call Output} (he : e ∈ h) :
    ReleasedEmpty e.pre ∧ machine.step e.pre e.label = some (e.post, e.out) := by
  have hstep : ∀ sm c sm' out, ReleasedEmpty sm → True → machine.step sm c = some (sm', out) →
      ReleasedEmpty sm' := by
    rintro sm c sm' out hnil - hs
    obtain ⟨rfl, -⟩ := Prod.mk.inj (Option.some.inj hs)
    have hnil' : ReleasedEmpty ({ sm with world := [] } : BaseMachine) := hnil
    exact ReleasedEmpty.call hnil' c
  obtain ⟨hpre, hs, -⟩ := Run.invariant_of_mem ReleasedEmpty (fun _ _ => True) (fun _ => rfl)
    hstep hrun (fun _ _ => trivial) he
  exact ⟨hpre, hs⟩

/-- A status in a trace was sent by one of the steps. -/
theorem mem_sends_of_mem_trace {h : List (Event BaseMachine Call Output)}
    {status : AGpsStatusValue} {listed : List Subscriber}
    (hmem : .sent status listed ∈ trace nifObs h) : ∃ e ∈ h, .sent status listed ∈ sends e.out := by
  obtain ⟨e, he, hobs⟩ := List.mem_flatMap.mp hmem
  refine ⟨e, he, ?_⟩
  rcases List.mem_append.mp hobs with hrec | hsent
  · -- the call itself is no status
    rcases hl : e.label <;> rw [hl] at hrec <;> simp [Call.received] at hrec
  · exact hsent

/-- **Requests and releases alternate.** In every run of a base machine, whatever the
classes of its subscribers:

* the statuses handed to the framework alternate (`RequestsAlternate`);
* a request is sent with an active subscriber in the list, a release with none;
* every step into pending sends exactly its request, and every unsubscribe out of
  pending or acquired exactly its release.

Dropping all subscribers is no exception: it sends nothing. -/
theorem requests_alternate (type : ℤ) (enforceSingleSubscriber : Bool)
    {h : List (Event BaseMachine Call Output)}
    (hrun : Run machine (init type enforceSingleSubscriber) h sm) :
    RequestsAlternate (trace nifObs h) ∧
    (∀ status listed, .sent status listed ∈ trace nifObs h → status.Fits listed) ∧
    ∀ e ∈ h,
      (e.pre.mStatePtr ≠ .pending → e.post.mStatePtr = .pending →
        sends e.out = [.sent .gpsRequestAgpsDataConn e.post.mSubscribers]) ∧
      (∀ s, e.label = .unsubscribeRsrc s →
        e.pre.mStatePtr = .pending ∨ e.pre.mStatePtr = .acquired →
        e.post.mStatePtr ≠ e.pre.mStatePtr →
        sends e.out = [.sent .gpsReleaseAgpsDataConn e.post.mSubscribers]) := by
  have hmove : ∀ e ∈ h, ReleasedEmpty e.pre ∧ machine.step e.pre e.label = some (e.post, e.out) :=
    fun e he => releasedEmpty_of_mem hrun he
  refine ⟨?_, ?_, ?_⟩
  · have hread := hrun.read_trace NifConn.observer (fun sm => sm.mStatePtr.conn) nifObs
      fun e he => step_read (hmove e he).1 (hmove e he).2
    exact NifConn.alternate_of_read hread
  · intro status listed hmem
    obtain ⟨e, he, hsent⟩ := mem_sends_of_mem_trace hmem
    rcases step_move (hmove e he).1 (hmove e he).2 with ⟨event, -, hm⟩ | ⟨-, -, hout⟩
    · exact hm.fits hsent
    · rw [hout] at hsent
      cases hsent
  · intro e he
    rcases step_move (hmove e he).1 (hmove e he).2 with ⟨event, hr, hm⟩ | ⟨-, hst, -⟩
    · constructor
      · intro hpre hpost
        rw [hpost] at hm
        exact hm.into_pending hpre
      · intro s hl hpre hne
        rw [hl] at hr
        obtain ⟨d, -, rfl⟩ := Option.map_eq_some_iff.mp hr
        exact hm.out_of_held hpre hne
    · -- the state did not change
      exact ⟨fun hpre hpost => absurd (hst ▸ hpost) hpre, fun s _ _ hne => absurd hst hne⟩

/-- An ATL subscriber joins a machine a BIT subscriber started, and both leave. -/
theorem requests_alternate_two_classes :
    ∃ h sm, Run machine (init 1 false) h sm ∧ h.length = 5 ∧ sm.mStatePtr = .released ∧
      RequestsAlternate (trace nifObs h) := by
  let bit : Subscriber := ⟨1, Vector.replicate 16 0, .bitSubscriber⟩
  let atl : Subscriber := ⟨2, Vector.replicate 16 0, .atlSubscriber false⟩
  obtain ⟨h, sm, hrun, hl, hst⟩ := machine.exists_run (init 1 false)
    [.subscribeRsrc bit, .subscribeRsrc atl, .onRsrcEvent .rsrcGranted, .unsubscribeRsrc bit,
      .unsubscribeRsrc atl]
    (fun _ sm => decide (sm.mStatePtr = .released)) (by decide)
  refine ⟨h, sm, hrun, ?_, of_decide_eq_true hst, (requests_alternate 1 false hrun).1⟩
  rw [← List.length_map Event.label, hl]
  rfl

end BaseMachine

end OppoA37.Agps
