import OppoA37.Gps.LocTimer.Delegates

/-!
# Does an expiry call back once, and only if it may?

Whatever the order of the steps: a delegate leads to one callback at most, it is deleted once,
after it was pushed and out of its heap again, and it is not used afterwards (`treated_run`).

An expiry reads the client of a delegate without the lock, and calls `stop()` of this client
later. If the client was stopped and started again in between, the expiry stops the new delegate
and calls back for it, although the old one was stopped. `obeyed_run` says that nothing else
leads to a callback for a delegate that was stopped.
-/

namespace OppoA37.LocTimer

open Lts LocHeap

/-! ## What a life tells -/

/-- The steps of a life. -/
inductive Lives : Fate → Use → Fate → Prop where
  | start (client : ℕ) : Lives .fresh (.start client) (.live client .queued .attached)
  | push (client : ℕ) (tie : Tie) : Lives (.live client .queued tie) .push (.live client .kept tie)
  | pop (client : ℕ) (tie : Tie) : Lives (.live client .kept tie) .pop (.live client .popped tie)
  | remove (client : ℕ) (tie : Tie) :
    Lives (.live client .kept tie) .remove (.live client .out tie)
  | stop (client : ℕ) (place : Place) :
    Lives (.live client place .attached) (.stop client) (.live client place .stopped)
  | detach (client : ℕ) (place : Place) :
    Lives (.live client place .attached) (.detach client) (.live client place .expiring)
  | call (client : ℕ) (place : Place) :
    Lives (.live client place .expiring) (.call client) (.live client place .called)
  | fire (client : ℕ) (tie : Tie) : Lives (.live client .popped tie) .fire (.live client .out tie)
  | destroy (client : ℕ) (place : Place) (tie : Tie) (hplace : place = .popped ∨ place = .out)
    (htie : tie = .stopped ∨ tie = .called) : Lives (.live client place tie) .destroy .gone

theorem lives_next {v v' : Fate} {u : Use} (h : lives.next v u = some v') : Lives v u v' := by
  simp only [lives] at h
  split at h
  · cases h
    exact .start _
  · cases h
    exact .push _ _
  · cases h
    exact .pop _ _
  · cases h
    exact .remove _ _
  · split at h
    · next heq =>
      subst heq
      cases h
      exact .stop _ _
    · cases h
  · split at h
    · next heq =>
      subst heq
      cases h
      exact .detach _ _
    · cases h
  · split at h
    · next heq =>
      subst heq
      cases h
      exact .call _ _
    · cases h
  · cases h
    exact .fire _ _
  · cases h
    exact .destroy _ _ _ (.inl rfl) (.inl rfl)
  · cases h
    exact .destroy _ _ _ (.inl rfl) (.inr rfl)
  · cases h
    exact .destroy _ _ _ (.inr rfl) (.inl rfl)
  · cases h
    exact .destroy _ _ _ (.inr rfl) (.inr rfl)
  · cases h

/-- `timeOutCallback()` is called for the start of the delegate. -/
def Use.isCall : Use → Bool
  | .call _ => true
  | _ => false

/-- What has happened to a delegate that is this far in its life. -/
structure Tally (t : List Use) (v : Fate) : Prop where
  /-- it was deleted, or not -/
  destroys : t.count .destroy = if v = .gone then 1 else 0
  /-- at most one callback is for it -/
  calls : t.countP Use.isCall ≤ 1
  /-- and none before it is detached -/
  notCalled : ∀ c p tie, v = .live c p tie → tie ≠ .called → t.countP Use.isCall = 0
  /-- its expiry calls back at most once -/
  fires : t.count .fire ≤ 1
  /-- and not before it was popped -/
  notFired : ∀ c p tie, v = .live c p tie → p ≠ .out → t.count .fire = 0
  /-- its push was processed, or is in the queue -/
  pushed : ∀ c p tie, v = .live c p tie → p ≠ .queued → .push ∈ t
  /-- it was stopped only if it is -/
  notStopped : ∀ c p tie, v = .live c p tie → tie ≠ .stopped → ∀ c', .stop c' ∉ t
  /-- and processed before it was deleted -/
  pushedGone : v = .gone → .push ∈ t
  /-- it was started by its client, and by nobody else -/
  started : ∀ c p tie, v = .live c p tie → ∀ c', .start c' ∈ t ↔ c' = c
  /-- nothing happens before it is created -/
  fresh : v = .fresh → t = []

theorem tally_nil : Tally [] .fresh := by
  refine ⟨rfl, Nat.zero_le _, ?_, Nat.zero_le _, ?_, ?_, ?_, ?_, ?_, fun _ => rfl⟩
  all_goals
    intros
    contradiction

/-- One more thing happens to a delegate that is allocated. -/
theorem Tally.live {t : List Use} {c : ℕ} {p p' : Place} {tie tie' : Tie}
    (h : Tally t (.live c p tie)) (u : Use) (hdestroy : u ≠ .destroy)
    (hcall : u.isCall = true → tie ≠ .called)
    (hcall' : tie' ≠ .called → u.isCall = false ∧ tie ≠ .called)
    (hfire : u = .fire → p ≠ .out) (hfire' : p' ≠ .out → u ≠ .fire ∧ p ≠ .out)
    (hpush : p' ≠ .queued → u = .push ∨ p ≠ .queued)
    (hstop : tie' ≠ .stopped → tie ≠ .stopped ∧ ∀ c', u ≠ .stop c')
    (hstart : ∀ c', u ≠ .start c') :
    Tally (t ++ [u]) (.live c p' tie') where
  destroys := by
    rw [List.count_append, h.destroys]
    simp [hdestroy]
  calls := by
    rw [List.countP_append, List.countP_singleton]
    split
    · next hu =>
      rw [h.notCalled c p tie rfl (hcall hu)]
    · exact h.calls
  notCalled c₁ p₁ tie₁ heq htie := by
    obtain ⟨rfl, rfl, rfl⟩ := Fate.live.inj heq
    obtain ⟨hu, hold⟩ := hcall' htie
    rw [List.countP_append, h.notCalled c p tie rfl hold, List.countP_singleton, hu]
    rfl
  fires := by
    rw [List.count_append, List.count_singleton]
    split
    · next hu =>
      rw [h.notFired c p tie rfl (hfire (beq_iff_eq.mp hu))]
    · exact h.fires
  notFired c₁ p₁ tie₁ heq hp := by
    obtain ⟨rfl, rfl, rfl⟩ := Fate.live.inj heq
    obtain ⟨hu, hold⟩ := hfire' hp
    rw [List.count_append, h.notFired c p tie rfl hold, List.count_singleton,
      if_neg (by simpa using hu)]
  pushed c₁ p₁ tie₁ heq hp := by
    obtain ⟨rfl, rfl, rfl⟩ := Fate.live.inj heq
    rcases hpush hp with rfl | hold
    · simp
    · exact List.mem_append_left _ (h.pushed c p tie rfl hold)
  notStopped c₁ p₁ tie₁ heq htie c' hmem := by
    obtain ⟨rfl, rfl, rfl⟩ := Fate.live.inj heq
    obtain ⟨hold, hu⟩ := hstop htie
    rcases List.mem_append.mp hmem with hmem | hmem
    · exact h.notStopped c p tie rfl hold c' hmem
    · exact hu c' (List.mem_singleton.mp hmem).symm
  pushedGone heq := by cases heq
  started c₁ p₁ tie₁ heq c' := by
    obtain ⟨rfl, rfl, rfl⟩ := Fate.live.inj heq
    rw [List.mem_append, h.started c p tie rfl, List.mem_singleton]
    exact or_iff_left (hstart c').symm
  fresh heq := by cases heq

/-- A delegate is created. -/
theorem tally_start (c : ℕ) : Tally [.start c] (.live c .queued .attached) where
  destroys := rfl
  calls := Nat.zero_le _
  notCalled _ _ _ _ _ := rfl
  fires := Nat.zero_le _
  notFired _ _ _ _ _ := rfl
  pushed c₁ p tie heq hp := by
    obtain ⟨rfl, rfl, rfl⟩ := Fate.live.inj heq
    exact absurd rfl hp
  notStopped _ _ _ _ _ c' hmem := by
    cases List.mem_singleton.mp hmem
  pushedGone heq := by cases heq
  started c₁ p tie heq c' := by
    obtain ⟨rfl, rfl, rfl⟩ := Fate.live.inj heq
    simp
  fresh heq := by cases heq

/-- A delegate is deleted. -/
theorem Tally.destroy {t : List Use} {c : ℕ} {p : Place} {tie : Tie}
    (h : Tally t (.live c p tie)) (hp : p ≠ .queued) : Tally (t ++ [.destroy]) .gone where
  destroys := by
    rw [List.count_append, h.destroys]
    simp
  calls := by
    rw [List.countP_append]
    exact h.calls
  notCalled _ _ _ heq := by cases heq
  fires := by
    rw [List.count_append]
    exact h.fires
  notFired _ _ _ heq := by cases heq
  pushed _ _ _ heq := by cases heq
  notStopped _ _ _ heq := by cases heq
  pushedGone _ := List.mem_append_left _ (h.pushed c p tie rfl hp)
  started _ _ _ heq := by cases heq
  fresh heq := by cases heq

/-- One more thing happens. -/
theorem Tally.snoc {t : List Use} {v v' : Fate} {u : Use} (h : Tally t v) (hu : Lives v u v') :
    Tally (t ++ [u]) v' := by
  cases hu with
  | start c =>
    rw [h.fresh rfl]
    exact tally_start c
  | destroy c p tie hplace =>
    refine h.destroy ?_
    rcases hplace with rfl | rfl
    all_goals decide
  | push c tie => apply h.live <;> simp [Use.isCall]
  | pop c tie => apply h.live <;> simp [Use.isCall]
  | remove c tie => apply h.live <;> simp [Use.isCall]
  | stop c p => apply h.live <;> simp [Use.isCall]
  | detach c p => apply h.live <;> simp [Use.isCall]
  | call c p => apply h.live <;> simp [Use.isCall]
  | fire c tie => apply h.live <;> simp [Use.isCall]

/-- A life tells what has happened. -/
theorem tally_of_read {t : List Use} {v : Fate} (h : lives.read .fresh t = some v) :
    Tally t v := by
  induction t using List.reverseRecOn generalizing v with
  | nil =>
    obtain rfl := Option.some.inj h
    exact tally_nil
  | append_singleton t u ih =>
    obtain ⟨v₁, h₁, hlast⟩ := Observer.read_append_inv h
    obtain ⟨v₂, hnext, hv⟩ := Option.bind_eq_some_iff.mp hlast
    obtain rfl := Option.some.inj hv
    exact (ih h₁).snoc (lives_next hnext)

/-! ## Whole runs -/

variable {h : List (Event Sys Label Out)} {s s' : Sys} {l : Label} {out : List Out}
  {d : LocTimerDelegate}

/-- A stop that was shown is part of the life. -/
theorem stop_mem {e : Event Sys Label Out} {client : ℕ} (he : e ∈ h)
    (hout : .stopped client d ∈ e.out) : .stop client ∈ trace (uses d) h :=
  List.mem_flatMap.mpr ⟨e, he, List.mem_flatMap.mpr ⟨_, hout, by simp [Out.uses]⟩⟩

/-- So is a deletion. -/
theorem destroy_mem {e : Event Sys Label Out} (he : e ∈ h) (hout : .destroyed d ∈ e.out) :
    .destroy ∈ trace (uses d) h :=
  List.mem_flatMap.mpr ⟨e, he, List.mem_flatMap.mpr ⟨_, hout, by simp [Out.uses]⟩⟩

/-- A push in a life was shown. -/
theorem pushed_of_mem (hmem : .push ∈ trace (uses d) h) : ∃ e ∈ h, .pushed d ∈ e.out := by
  obtain ⟨e, he, huse⟩ := List.mem_flatMap.mp hmem
  obtain ⟨o, ho, hu⟩ := List.mem_flatMap.mp huse
  refine ⟨e, he, ?_⟩
  cases o with
  | pushed timer =>
    obtain rfl : timer = d := by
      by_contra hne
      simp [Out.uses, hne] at hu
    exact ho
  | _ =>
    simp only [Out.uses] at hu
    first
    | contradiction
    | split_ifs at hu <;> simp at hu

/-- What a run does with the delegate `d`. -/
structure Treated (d : LocTimerDelegate) (h : List (Event Sys Label Out)) (s : Sys) : Prop where
  /-- its start leads to one callback at most -/
  calledAtMostOnce : (trace (uses d) h).countP Use.isCall ≤ 1
  /-- and its expiry, too -/
  firedAtMostOnce : (trace (uses d) h).count .fire ≤ 1
  /-- it is deleted at most once -/
  destroyedAtMostOnce : (trace (uses d) h).count .destroy ≤ 1
  /-- after its push was processed, and when it is in no heap -/
  destroyed : ∀ h₁ e h₂, h = h₁ ++ e :: h₂ → .destroyed d ∈ e.out →
    (∃ e' ∈ h₁, .pushed d ∈ e'.out) ∧ ∀ w, d ∉ (e.post.containers w).mTree.stored
  /-- once it was started, it is that of its client, or its removal is in the queue, or it has
  been deleted once -/
  accounted : ∀ client, .start client ∈ trace (uses d) h → s.mTimer client = some d ∨
    (∃ w, .remove w d ∈ s.mQ) ∨ (trace (uses d) h).count .destroy = 1
  /-- and nobody uses it after that -/
  allocated : ∀ e ∈ h, .dangling d ∉ e.out

/-- No move uses a delegate that is not allocated. -/
theorem Move.allocated (hmove : Move s l s' out) : .dangling d ∉ out := by
  cases hmove <;> simp

/-- A move that deletes a delegate pushes none. -/
theorem Move.not_pushed (hmove : Move s l s' out) (hout : .destroyed d ∈ out) :
    .pushed d ∉ out := by
  cases hmove <;> simp_all

/-- **Every delegate is treated well**, whatever the order of the steps. -/
theorem treated_run (hr : Run machine {} h s) (d : LocTimerDelegate) : Treated d h s := by
  obtain ⟨v, hread, hloc⟩ := (timers_run hr).life d
  have htally := tally_of_read hread
  refine ⟨htally.calls, htally.fires, ?_, ?_, fun client hstart => ?_, ?_⟩
  · rw [htally.destroys]
    split <;> omega
  · rintro h₁ e h₂ rfl hout
    obtain ⟨hr₁, hs, -⟩ := hr.event
    obtain ⟨v₁, hread₁, hloc₁⟩ := (timers_run (Run.snoc hr₁ hs)).life d
    have htally₁ := tally_of_read hread₁
    obtain rfl : v₁ = .gone := by
      by_contra hno
      have hzero := htally₁.destroys
      rw [if_neg hno, List.count_eq_zero] at hzero
      exact hzero (destroy_mem (List.mem_append_right _ (List.mem_singleton_self _)) hout)
    refine ⟨?_, fun w => Multiset.count_eq_zero.mp (hloc₁.2.stored w)⟩
    obtain ⟨e', he', hpushed⟩ := pushed_of_mem (htally₁.pushedGone rfl)
    rcases List.mem_append.mp he' with he' | he'
    · exact ⟨e', he', hpushed⟩
    · -- a removal pushes nothing
      obtain rfl := List.mem_singleton.mp he'
      exact absurd hpushed ((move_of_run hr).not_pushed hout)
  · cases v with
    | fresh =>
      rw [htally.fresh rfl] at hstart
      cases hstart
    | gone => exact .inr (.inr htally.destroys)
    | live c p tie =>
      obtain rfl := (htally.started c p tie rfl client).mp hstart
      obtain ⟨w, halive⟩ := hloc
      by_cases htie : tie = .attached
      · exact .inl ((halive.mTimer client).mpr ⟨rfl, htie⟩)
      · refine .inr (.inl ⟨w, List.mem_of_mem_filter (p := LocMsg.about d) ?_⟩)
        rw [halive.msgs, if_neg htie]
        simp
  · intro e he
    obtain ⟨h₁, h₂, rfl⟩ := List.append_of_mem he
    exact (move_of_run hr).allocated

/-! ## Expiries that are overtaken -/

/-- When an expiry stops a client, the client has no other delegate than the one that expires. -/
def NotRestarted (s : Sys) (l : Label) : Prop :=
  l = .task → ∀ w now timer client, s.task = .stopping w now timer client →
    ∀ timer', s.mTimer client = some timer' → timer' = timer

/-- An expiry calls back for its own delegate. -/
def CallsItsOwn (s : Sys) : Prop :=
  ∀ w now timer client stopped, s.task = .calling w now timer client stopped → stopped = timer

theorem callsItsOwn_step (hown : CallsItsOwn s) (hok : NotRestarted s l)
    (hmove : Move s l s' out) : CallsItsOwn s' := by
  cases hmove with
  | ticks | running | starts | notRunning | stops | wakes | disarms | removesPoll | sends | pushes
    | removes | expiresNone => exact hown
  | detaches w now timer client stopped w' htask hclient hlinks =>
    intro _ _ _ _ _ htask'
    obtain ⟨-, -, rfl, -, rfl⟩ := TaskPc.calling.inj htask'
    exact hok rfl w now _ client htask _ hclient
  | popsFirst | reads | skips | misses | calls | popsNext | finishes =>
    intro _ _ _ _ _ htask'
    cases htask'

theorem callsItsOwn_run (hr : Run machine {} h s) (hok : ∀ e ∈ h, NotRestarted e.pre e.label) :
    CallsItsOwn s := by
  induction hr with
  | nil =>
    intro _ _ _ _ _ htask
    cases htask
  | @snoc h s s' l out hr hs ih =>
    have hmove := move_of_step (timers_run hr).linked hs
    refine callsItsOwn_step (ih fun e he => hok e (List.mem_append_left _ he)) ?_ hmove
    exact hok _ (List.mem_append_right _ (List.mem_singleton_self _))

/-- A callback is for a delegate that was detached by this expiry. -/
theorem called_of_timeOut {client : ℕ} {timer : LocTimerDelegate}
    (hmove : Move s l s' out) (hout : .timeOut client timer d ∈ out) :
    l = .task ∧ ∃ w now, s.task = .calling w now timer client d := by
  cases hmove with
  | calls w now timer' client' stopped htask =>
    obtain ⟨rfl, rfl, rfl⟩ := Out.timeOut.inj (List.mem_singleton.mp hout)
    exact ⟨rfl, w, now, htask⟩
  | _ => simp at hout

/-- And the client has not stopped it. -/
theorem Timers.expiring (ht : Timers h s) {client : ℕ}
    (hcalls : s.task.stopped = some (client, d)) :
    ∃ place, lives.read .fresh (trace (uses d) h) = some (.live client place .expiring) := by
  obtain ⟨v, hread, hloc⟩ := ht.life d
  cases v with
  | fresh => exact absurd hcalls (Absent.stopped hloc client)
  | gone => exact absurd hcalls (hloc.2.stopped client)
  | live client' place tie =>
    obtain ⟨w, halive⟩ := hloc
    obtain ⟨rfl, rfl⟩ := (halive.stopped client).mp hcalls
    exact ⟨place, hread⟩

/-- The expiry of a delegate that was stopped does not call back. -/
def Obeyed (d : LocTimerDelegate) (h : List (Event Sys Label Out)) : Prop :=
  ∀ h₁ e h₂, h = h₁ ++ e :: h₂ → ∀ client stopped, .timeOut client d stopped ∈ e.out →
    ∀ e' ∈ h₁, ∀ client', .stopped client' d ∉ e'.out

/-- **No callback after a stop.** In a run in which no client that an expiry stops has been
started again since the expiry read it, every delegate is treated well, and no expiry of a
delegate that was stopped calls back. -/
theorem callbacks_run (hr : Run machine {} h s) (hok : ∀ e ∈ h, NotRestarted e.pre e.label)
    (d : LocTimerDelegate) : Treated d h s ∧ Obeyed d h := by
  refine ⟨treated_run hr d, ?_⟩
  rintro h₁ e h₂ rfl client stopped hout e' he' client' hstopped
  obtain ⟨hr₁, -, -⟩ := hr.event
  obtain ⟨-, w, now, htask⟩ := called_of_timeOut (move_of_run hr) hout
  have hown := callsItsOwn_run hr₁ fun e he => hok e (List.mem_append_left _ he)
  obtain rfl := hown w now d client stopped htask
  obtain ⟨place, hread⟩ := (timers_run hr₁).expiring (by rw [htask]; rfl)
  exact (tally_of_read hread).notStopped _ _ _ rfl (by decide) client' (stop_mem he' hstopped)

/-- Test whether a client that an expiry stops has another delegate. -/
def isNotRestarted (s : Sys) (l : Label) : Bool :=
  match l, s.task with
  | .task, .stopping _ _ timer client => (s.mTimer client).all fun timer' => timer' = timer
  | _, _ => true

theorem notRestarted_of_isNotRestarted (hok : isNotRestarted s l = true) : NotRestarted s l := by
  rintro rfl w now timer client htask timer' hclient
  simpa [isNotRestarted, htask, hclient] using hok

/-- A timer expires, is started again by its client, and stopped. -/
theorem callbacks_run_twice :
    ∃ h s, Run machine {} h s ∧
      (∃ e ∈ h, Out.timeOut 0 ⟨1, 1, 1, by decide⟩ ⟨1, 1, 1, by decide⟩ ∈ e.out) ∧
      (∃ e ∈ h, Out.destroyed ⟨2, 7, 0, by decide⟩ ∈ e.out) ∧
      ∀ d, Treated d h s ∧ Obeyed d h := by
  obtain ⟨h, s, hr, -, hcheck⟩ := machine.exists_run {}
    [.start 0 1000 false, .task, .tick ⟨2, 0, by decide⟩, .wake [false], .poll, .poll, .poll,
      .task, .task, .task, .task, .start 0 5000 false, .task, .task, .task, .stop 0, .task]
    (fun h _ => decide (
      (∃ e ∈ h, Out.timeOut 0 ⟨1, 1, 1, by decide⟩ ⟨1, 1, 1, by decide⟩ ∈ e.out) ∧
      (∃ e ∈ h, Out.destroyed ⟨2, 7, 0, by decide⟩ ∈ e.out) ∧
      ∀ e ∈ h, isNotRestarted e.pre e.label = true)) (by decide +kernel)
  obtain ⟨htimeOut, hdestroyed, hok⟩ := of_decide_eq_true hcheck
  exact ⟨h, s, hr, htimeOut, hdestroyed,
    callbacks_run hr fun e he => notRestarted_of_isNotRestarted (hok e he)⟩

/-- A client is stopped and started again between the read of its delegate and the `stop()` of
the expiry: the expiry of the delegate that was stopped calls back. -/
theorem called_after_stop :
    ¬ ∀ (h : List (Event Sys Label Out)) (s : Sys), Run machine {} h s →
      ∀ d, Treated d h s ∧ Obeyed d h := by
  intro hall
  obtain ⟨h, e, hr, -, -, hcheck⟩ := machine.exists_run_last {}
    [.start 0 1000 false, .task, .tick ⟨2, 0, by decide⟩, .wake [false], .poll, .poll, .poll,
      .task, .task, .stop 0, .start 0 5000 false, .task] .task
    (fun h e => decide (Out.timeOut 0 ⟨1, 1, 1, by decide⟩ ⟨2, 7, 0, by decide⟩ ∈ e.out ∧
      ∃ e' ∈ h, Out.stopped 0 ⟨1, 1, 1, by decide⟩ ∈ e'.out)) (by decide +kernel)
  obtain ⟨htimeOut, e', he', hstopped⟩ := of_decide_eq_true hcheck
  have hobeyed := (hall _ _ hr ⟨1, 1, 1, by decide⟩).2
  exact hobeyed h e [] rfl _ _ htimeOut e' he' _ hstopped

end OppoA37.LocTimer
