import OppoA37.Gps.Utils.LocThreadMemory

/-!
# Who deletes a runnable

The header says that `LocThread` deletes the runnable if `start` returns true, and that the client
has to if it returns false. Two races break this. A client that stops the thread before it has
looked at `mRunnable` gets nobody to delete the runnable; and a thread that is through with it
before `start` looks whether it is running has deleted a runnable that `start` leaves to the
client. `promise_iff` says that there are no others.
-/

namespace OppoA37.LocThread

open Lts

/-- `start` has returned true for the delegate `i`. -/
def startedTrue (i : ℕ) (e : Event State Label Out) : Bool :=
  decide (.started (some i) true ∈ e.out)

/-- The client sets `mRunnable` to `NULL` before the thread has looked at it. -/
def stopsEarly (i : ℕ) (s : State) : Label → Bool
  | .client _ => decide (s.client = .busy i .stop ∧ (s.delegates i).thread = .start)
  | .start _ _ | .stop | .delete | .thread _ _ => false

/-- The thread is through with the runnable before `start` looks whether it is running. -/
def endsEarly (i : ℕ) (s : State) : Label → Bool
  | .client _ => decide (s.client = .busy i .check ∧ (s.delegates i).mRunnable = false ∧
      (s.delegates i).thread ≠ .unborn)
  | .start _ _ | .stop | .delete | .thread _ _ => false

/-- The thread is past the runnable. -/
def ThreadPc.done : ThreadPc → Bool
  | .destroy | .lock | .delete | .ended => true
  | _ => false

/-- `create` has not looked yet whether the thread is running. -/
def Role.starting : Role → Bool
  | .busy .create | .busy .check => true
  | _ => false

/-- What was seen of a delegate, as far as its runnable is concerned. -/
structure Told (ok early late : Bool) (d : Delegate) (r : Role) : Prop where
  owns : r.owns = true → ok = true
  starting : r.starting = true → ok = false ∧ late = false
  started : ok = true → late = false ∧ d.thread ≠ .unborn
  failed : ok = false → early = false ∧
    (r.starting = false → (late = true ↔ d.thread ≠ .unborn))
  unborn : d.thread = .unborn → early = false ∧ d.runnableFreed = false
  start : d.thread = .start → (early = true ↔ d.mRunnable = false)
  uses : d.thread.uses = true → early = false
  /-- the thread deletes the runnable unless it was stopped early -/
  done : d.thread.done = true → (early = true ↔ d.runnableFreed = false)

section Steps

variable {ok early late : Bool} {d d' : Delegate} {r r' : Role}

theorem told_new (joinable : Bool) : Told false false false (.new joinable) (.busy .create) where
  owns := by simp [Role.owns]
  starting := by simp
  started := by simp
  failed := by simp [Role.starting]
  unborn := by simp [Delegate.new]
  start := by simp [Delegate.new]
  uses := by simp
  done := by simp [Delegate.new, ThreadPc.done]

/-- A step of the thread. -/
theorem Told.thread {i : ℕ} {result : Bool} {out : List Out} (h : Told ok early late d r)
    (hright : Right d r) (hstep : d.threadStep i result = some (d', out)) :
    Told ok early late d' r := by
  -- the thread neither appears nor disappears
  have hframe : ∀ {m f : Bool} {n : ℤ} {g : Bool} {t : ThreadPc},
      d.thread ≠ .unborn → t ≠ .unborn → t ≠ .start → (t.uses = true → early = false) →
      (t.done = true → (early = true ↔ f = false)) →
      Told ok early late { d with mRunnable := m, runnableFreed := f, mRefCount := n,
                                       freed := g, thread := t } r := by
    intro m f n g t hborn hborn' hstart huses hdone
    exact ⟨h.owns, h.starting, fun hs => ⟨(h.started hs).1, hborn'⟩,
      fun hs => ⟨(h.failed hs).1, fun hr => ((h.failed hs).2 hr).trans (iff_of_true hborn hborn')⟩,
      fun hno => absurd hno hborn', fun hno => absurd hno hstart, huses, hdone⟩
  have hborn : d.thread ≠ .unborn := by
    intro hno
    rw [Delegate.threadStep, hno] at hstep
    cases hstep
  rw [Delegate.threadStep] at hstep
  cases hthread : d.thread <;> rw [hthread] at hstep <;> dsimp only at hstep
  case unborn | ended => cases hstep
  all_goals
    obtain ⟨rfl, rfl⟩ := Prod.mk.inj (Option.some.inj hstep)
  case start =>
    have hnot := hright.runnableFreed_eq_false (Or.inl hthread)
    have hearly := h.start hthread
    cases hrun : d.mRunnable
    · refine hframe hborn (by simp) (by simp) (by simp [ThreadPc.uses]) fun _ => ?_
      exact iff_of_true (hearly.mpr hrun) hnot
    · refine hframe hborn (by simp) (by simp) (fun _ => ?_) (by simp [ThreadPc.done])
      simpa [hrun] using hearly
  case prerun | loop | running | postrun | clear =>
    have hearly := h.uses (by simp [hthread, ThreadPc.uses])
    refine hframe hborn ?_ ?_ (fun _ => hearly) ?_ <;> (try split_ifs) <;> simp [ThreadPc.done]
  case deleteRunnable =>
    have hearly := h.uses (by simp [hthread, ThreadPc.uses])
    exact hframe hborn (by simp) (by simp) (by simp [ThreadPc.uses]) (by simp [hearly])
  case destroy | lock =>
    have hdone := h.done (by simp [hthread, ThreadPc.done])
    refine hframe hborn ?_ ?_ ?_ (fun _ => hdone) <;> split_ifs <;> simp [ThreadPc.uses]
  case delete =>
    have hdone := h.done (by simp [hthread, ThreadPc.done])
    exact hframe hborn (by simp) (by simp) (by simp [ThreadPc.uses]) (fun _ => hdone)

/-- Once `start` has returned, only the thread matters. -/
theorem Told.role (h : Told ok early late d r) (hr : r.starting = false)
    (hr' : r'.starting = false) (howns : r'.owns = true → r.owns = true)
    (hthread : d'.thread = d.thread) (hrun : d'.mRunnable = d.mRunnable)
    (hfreed : d'.runnableFreed = d.runnableFreed) : Told ok early late d' r' where
  owns := fun ho => h.owns (howns ho)
  starting := fun hno => by simp [hr'] at hno
  started := by simpa [hthread] using h.started
  failed := fun hok => ⟨(h.failed hok).1, fun _ => by simpa [hthread] using (h.failed hok).2 hr⟩
  unborn := by simpa [hthread, hfreed] using h.unborn
  start := by simpa [hthread, hrun] using h.start
  uses := by simpa [hthread] using h.uses
  done := by simpa [hthread, hfreed] using h.done

/-- Otherwise the client only changes what has nothing to do with the runnable. -/
theorem rest_of_clientStep {i : ℕ} {created : Bool} {pc : ClientPc} {a : After} {out : List Out}
    (hcreate : pc ≠ .create) (hcheck : pc ≠ .check) (hstop : pc ≠ .stop)
    (hstep : d.clientStep i created pc = some (d', a, out)) :
    a ≠ .started ∧ a.role.starting = false ∧
      (a.role.owns = true → (Role.busy pc).owns = true) ∧ d'.thread = d.thread ∧
      d'.mRunnable = d.mRunnable ∧ d'.runnableFreed = d.runnableFreed := by
  cases pc
  case create | check | stop => contradiction
  case bye | join | joining =>
    dsimp only [Delegate.clientStep] at hstep
    split_ifs at hstep <;> simp only [Option.some.injEq, Prod.mk.injEq] at hstep <;>
      obtain ⟨rfl, rfl, rfl⟩ := hstep <;> simp [After.role, Role.starting, Role.owns]
  case destroy stopped | lock stopped | delete stopped =>
    dsimp only [Delegate.clientStep] at hstep
    (try split_ifs at hstep) <;> simp only [Option.some.injEq, Prod.mk.injEq] at hstep <;>
      obtain ⟨rfl, rfl, rfl⟩ := hstep <;> cases stopped <;>
      simp [After.role, After.destroyed, Role.starting, Role.owns]

/-- A step of the client. -/
theorem Told.client {i : ℕ} {created : Bool} {pc : ClientPc} {a : After} {out : List Out}
    (h : Told ok early late d (.busy pc)) (hright : Right d (.busy pc))
    (hstep : d.clientStep i created pc = some (d', a, out)) :
    Told (ok || decide (a = .started)) (early || decide (pc = .stop ∧ d.thread = .start))
      (late || decide (pc = .check ∧ d.mRunnable = false ∧ d.thread ≠ .unborn)) d' a.role := by
  cases pc
  case create =>
    obtain ⟨hthread, hrun, hnot⟩ := hright.create rfl
    obtain ⟨rfl, rfl⟩ := h.starting rfl
    obtain ⟨rfl, -⟩ := h.unborn hthread
    dsimp only [Delegate.clientStep] at hstep
    split_ifs at hstep
    all_goals
      simp only [Option.some.injEq, Prod.mk.injEq] at hstep
      obtain ⟨rfl, rfl, rfl⟩ := hstep
    · exact ⟨by simp [After.role, Role.owns], by simp, by simp, by simp [After.role, Role.starting],
        by simp, by simp [hrun], by simp, by simp [ThreadPc.done]⟩
    · exact ⟨by simp [After.role, Role.owns], by simp, by simp, by simp [After.role, Role.starting],
        by simp [hnot], by simp [hthread], by simp, by simp [hthread, ThreadPc.done]⟩
  case check =>
    obtain ⟨rfl, rfl⟩ := h.starting rfl
    obtain ⟨rfl, -⟩ := h.failed rfl
    simp only [Delegate.clientStep, Option.some.injEq, Prod.mk.injEq] at hstep
    obtain ⟨rfl, rfl, rfl⟩ := hstep
    by_cases hrun : d.mRunnable = true
    · have hborn : d.thread ≠ .unborn := by
        intro hno
        rw [(hright.unborn hno (Role.ne_create rfl)).1] at hrun
        cases hrun
      rw [if_pos hrun]
      exact ⟨by simp, by simp [After.role, Role.starting], by simp [hrun, hborn], by simp,
        fun hno => absurd hno hborn, by simpa using h.start, by simp, by simpa using h.done⟩
    · have hnull : d.mRunnable = false := Bool.eq_false_of_not_eq_true hrun
      rw [if_neg hrun]
      exact ⟨by simp [After.role, Role.owns], by simp [After.role, Role.starting], by simp,
        by simp [hnull], by simpa using h.unborn, by simpa using h.start, by simp,
        by simpa using h.done⟩
  case stop =>
    obtain rfl := h.owns rfl
    obtain ⟨rfl, hborn⟩ := h.started rfl
    simp only [Delegate.clientStep, Option.some.injEq, Prod.mk.injEq] at hstep
    obtain ⟨rfl, rfl, rfl⟩ := hstep
    refine ⟨by simp, by simp [After.role, Role.starting], by simp [hborn], by simp,
      fun hno => absurd hno hborn, fun heq => by simp [show d.thread = .start from heq],
      fun huses => ?_, fun hdone => ?_⟩
    · have hne : d.thread ≠ .start := fun heq => by simp [heq, ThreadPc.uses] at huses
      simpa [hne] using h.uses huses
    · have hne : d.thread ≠ .start := fun heq => by simp [heq, ThreadPc.done] at hdone
      simpa [hne] using h.done hdone
  all_goals
    obtain ⟨hstarted, hr', howns, hthread, hrun, hfreed⟩ :=
      rest_of_clientStep (by simp) (by simp) (by simp) hstep
    simpa [hstarted] using h.role rfl hr' howns hthread hrun hfreed

end Steps

/-! ## Runs -/

/-- One step of the machine. -/
theorem Told.step {ok early late : Bool} {i : ℕ} {e : Event State Label Out}
    (h : Told ok early late (e.pre.delegates i) (e.pre.client.role i)) (hI : AllRight e.pre)
    (hs : machine.step e.pre e.label = some (e.post, e.out)) :
    Told (ok || startedTrue i e) (early || stopsEarly i e.pre e.label)
      (late || endsEarly i e.pre e.label) (e.post.delegates i) (e.post.client.role i) := by
  obtain ⟨pre, l, out, post⟩ := e
  dsimp only at h hI hs ⊢
  cases steps_of_step hs with
  | refused => simpa [startedTrue, stopsEarly, endsEarly] using h
  | idles l hl =>
    rcases hl with rfl | rfl <;> simpa [startedTrue, stopsEarly, endsEarly] using h
  | starts joinable hclient =>
    by_cases hij : i = pre.next
    · -- nothing was said of it before
      have hi := hI i
      rw [if_neg (by omega)] at hi
      rw [hi.1, hi.2] at h
      have hok : ok = false := by
        by_contra hok
        exact (h.started (Bool.eq_true_of_not_eq_false hok)).2 rfl
      obtain rfl := hok
      obtain ⟨rfl, hlate⟩ := h.failed rfl
      have hlate : late = false := by simpa [Delegate.new] using hlate rfl
      subst hlate hij
      simpa [startedTrue, stopsEarly, endsEarly, Client.role] using told_new joinable
    · rw [hclient] at h
      simpa [startedTrue, stopsEarly, endsEarly, Client.role, Function.update_of_ne hij,
        Ne.symm hij] using h
  | stops j hclient =>
    rw [hclient] at h
    by_cases hij : j = i
    · rw [Client.role, if_pos hij] at h
      have hcalled : Told ok early late (pre.delegates i) (.busy .stop) :=
        h.role rfl rfl (fun _ => rfl) rfl rfl rfl
      simpa [startedTrue, stopsEarly, endsEarly, Client.role, hij] using hcalled
    · simpa [startedTrue, stopsEarly, endsEarly, Client.role, hij] using h
  | leaves j hclient =>
    rw [hclient] at h
    by_cases hij : j = i
    · rw [Client.role, if_pos hij] at h
      have hcalled : Told ok early late (pre.delegates i) (.busy .bye) :=
        h.role rfl rfl (fun _ => rfl) rfl rfl rfl
      simpa [startedTrue, stopsEarly, endsEarly, Client.role, hij] using hcalled
    · simpa [startedTrue, stopsEarly, endsEarly, Client.role, hij] using h
  | client created j pc hclient d a out hstep =>
    rw [hclient] at h
    have hsuccess : ∀ post, startedTrue i ⟨pre, .client created, out ++ (a.result j).2, post⟩ =
        decide (j = i ∧ a = .started) := by
      intro post
      have hout := (not_mem_of_clientStep hstep (some i) true).1
      rw [startedTrue, decide_eq_decide]
      cases a <;> simp [hout, After.result, eq_comm]
    rw [hsuccess]
    by_cases hij : j = i
    · subst hij
      rw [Client.role, if_pos rfl] at h
      simpa [stopsEarly, endsEarly, hclient] using h.client (right_of_busy hI hclient) hstep
    · rw [Client.role, if_neg hij] at h
      simpa [stopsEarly, endsEarly, hclient, hij, Function.update_of_ne (Ne.symm hij),
        role_result_of_ne hij] using h
  | thread j result d out hstep =>
    have hsuccess : ∀ post, startedTrue i ⟨pre, .thread j result, out, post⟩ = false :=
      fun _ => decide_eq_false (not_mem_of_threadStep hstep (some i) true).1
    rw [hsuccess]
    by_cases hij : j = i
    · subst hij
      simpa [stopsEarly, endsEarly] using h.thread (right_of_thread hI hstep) hstep
    · simpa [stopsEarly, endsEarly, Function.update_of_ne (Ne.symm hij)] using h

/-- What was seen fits, at all times. -/
theorem told_run {h : List (Event State Label Out)} {s : State}
    (hrun : Run machine .initial h s) (i : ℕ) :
    Told (h.any (startedTrue i)) (h.any fun e => stopsEarly i e.pre e.label)
      (h.any fun e => endsEarly i e.pre e.label) (s.delegates i) (s.client.role i) := by
  induction hrun with
  | nil =>
    exact ⟨by simp [State.initial, Client.role, Role.owns],
      by simp [State.initial, Client.role, Role.starting], by simp,
      by simp [State.initial, Delegate.new], by simp [State.initial, Delegate.new],
      by simp [State.initial, Delegate.new], by simp,
      by simp [State.initial, Delegate.new, ThreadPc.done]⟩
  | @snoc h s s' l out hbefore hs ih =>
    simpa using Told.step (e := ⟨s, l, out, s'⟩) ih (right_run hbefore) hs

end OppoA37.LocThread
