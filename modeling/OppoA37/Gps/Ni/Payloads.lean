import OppoA37.Gps.Ni.Sessions
import OppoA37.Lib.Observer

/-!
# What becomes of a raw payload

A payload is kept in a session, made part of a message or freed, and a message frees it at the
end. An observer that sees only what is done with one payload accepts a single life of it; the
machine shows it nothing else, whatever the order of the steps (`life_run`). So each payload is
disposed of at most once, and once it is not in its session any more it has been.
-/

namespace OppoA37.Ni

open Lts

/-! ## The life of a payload -/

/-- Where a payload is in its life. -/
inductive Fate where
  /-- not handed over yet -/
  | fresh
  /-- in a session -/
  | kept
  /-- in a message -/
  | placed
  /-- freed -/
  | gone
  deriving DecidableEq, Repr

/-- What is done with a payload. -/
inductive Use where
  | keep
  | free
  | place
  | read
  | destroy
  deriving DecidableEq, Repr

/-- What an output does with the payload `p`. -/
def Out.use (p : ℕ) : Out → Option Use
  | .notify _ q => if q = p then some .keep else none
  | .free q => if q = p then some .free else none
  | .place _ _ q => if q = p then some .place else none
  | .inform _ q => if q = p then some .read else none
  | .destroy q => if q = p then some .destroy else none
  | _ => none

/-- What a step does with the payload `p`. -/
def uses (p : ℕ) (e : Event Sys Label Out) : List Use := e.out.filterMap (·.use p)

/-- The lives that a payload may have. -/
def lives : Observer Fate Use where
  next
    | .fresh, .keep => some .kept
    | .fresh, .free => some .gone
    | .kept, .free => some .gone
    | .kept, .place => some .placed
    | .placed, .read => some .placed
    | .placed, .destroy => some .gone
    | _, _ => none

/-- So often a payload is disposed of: freed by whoever has it, or put into a message. -/
def disposals (t : List Use) : ℕ := t.count .free + t.count .place

/-- So often its memory is freed. -/
def frees (t : List Use) : ℕ := t.count .free + t.count .destroy

/-- In a life that is accepted, a payload is disposed of once when it leaves its session, and
freed once at its end. -/
theorem lives_count {t : List Use} {v : Fate} (h : lives.read .fresh t = some v) :
    disposals t = (if v = .placed ∨ v = .gone then 1 else 0) ∧
      frees t = if v = .gone then 1 else 0 := by
  induction t using List.reverseRecOn generalizing v with
  | nil =>
    obtain rfl := Option.some.inj h
    exact ⟨rfl, rfl⟩
  | append_singleton t u ih =>
    obtain ⟨v₁, h₁, hlast⟩ := Observer.read_append_inv h
    obtain ⟨v₂, hnext, hv⟩ := Option.bind_eq_some_iff.mp hlast
    obtain rfl := Option.some.inj hv
    obtain ⟨hdisposals, hfrees⟩ := ih h₁
    rw [disposals] at hdisposals
    rw [frees] at hfrees
    rw [disposals, frees, List.count_append, List.count_append, List.count_append]
    cases v₁ <;> cases u <;> cases hnext <;>
      · simp at hdisposals hfrees ⊢
        omega

/-! ## Where a payload is -/

/-- The message of a thread. -/
def Pc.msg : Pc → Option (Response × ℕ)
  | .leaving msg | .sending msg => msg
  | _ => none

/-- The places for payloads. -/
inductive Place where
  /-- a session -/
  | slot (w : Which)
  /-- the message of a thread -/
  | thread (r : ℕ)
  /-- the queue of messages -/
  | queue
  deriving DecidableEq, Repr

/-- A payload at a place is this far in its life. -/
def Place.fate : Place → Fate
  | .slot _ => .kept
  | _ => .placed

/-- The payload `p` is at a place. -/
def At (s : Sys) (p : ℕ) : Place → Prop
  | .slot w => (s.sessions w).rawRequest = some p
  | .thread r => ∃ t v, s.threads r = some t ∧ t.pc.msg = some (v, p)
  | .queue => p ∈ s.queue.map Prod.snd

/-- A payload is where it should be in its life, and nowhere else. -/
structure Located (p : ℕ) (v : Fate) (s : Sys) : Prop where
  /-- payloads are handed over one after the other -/
  fresh : v = .fresh ↔ s.given ≤ p
  /-- a place tells how far it is -/
  held : ∀ a, At s p a → v = a.fate
  /-- it is at one place only -/
  one : ∀ a b, At s p a → At s p b → a = b
  /-- until it is freed it is somewhere -/
  located : v = .kept ∨ v = .placed → ∃ a, At s p a
  /-- it is in the queue once -/
  nodup : (s.queue.map Prod.snd).count p ≤ 1

variable {s s' : Sys} {l : Label} {out : List Out} {p : ℕ} {v v' : Fate} {a b : Place}

/-- Nothing happens to the payload. -/
theorem Located.stay (h : Located p v s) (hgiven : s'.given ≤ p ↔ s.given ≤ p)
    (hat : ∀ a, At s' p a ↔ At s p a) (hnodup : (s'.queue.map Prod.snd).count p ≤ 1) :
    Located p v s' where
  fresh := h.fresh.trans hgiven.symm
  held a ha := h.held a ((hat a).mp ha)
  one a b ha hb := h.one a b ((hat a).mp ha) ((hat b).mp hb)
  located hv := by
    obtain ⟨a, ha⟩ := h.located hv
    exact ⟨a, (hat a).mpr ha⟩
  nodup := hnodup

/-- The payload is put somewhere else. -/
theorem located_at (hgiven : p < s'.given) (hat : ∀ b, At s' p b ↔ b = a)
    (hnodup : (s'.queue.map Prod.snd).count p ≤ 1) : Located p a.fate s' where
  fresh := by
    have hne : a.fate ≠ .fresh := by cases a <;> simp [Place.fate]
    exact iff_of_false hne (Nat.not_le.mpr hgiven)
  held b hb := by rw [(hat b).mp hb]
  one b b' hb hb' := ((hat b).mp hb).trans ((hat b').mp hb').symm
  located _ := ⟨a, (hat a).mpr rfl⟩
  nodup := hnodup

/-- The payload is freed. -/
theorem located_gone (hgiven : p < s'.given) (hat : ∀ b, ¬ At s' p b)
    (hnodup : (s'.queue.map Prod.snd).count p ≤ 1) : Located p .gone s' where
  fresh := iff_of_false (by decide) (Nat.not_le.mpr hgiven)
  held b hb := absurd hb (hat b)
  one b _ hb := absurd hb (hat b)
  located hv := by
    rcases hv with hv | hv
    all_goals cases hv
  nodup := hnodup

/-- A payload that is somewhere was handed over. -/
theorem Located.lt_given (h : Located p v s) (ha : At s p a) : p < s.given := by
  by_contra hno
  have hfresh := h.fresh.mpr (Nat.le_of_not_lt hno)
  have hfate := h.held a ha
  rw [hfresh] at hfate
  cases a <;> cases hfate

theorem located_start (p : ℕ) : Located p .fresh start where
  fresh := iff_of_true rfl (Nat.zero_le p)
  held a ha := by
    cases a with
    | slot w => cases w <;> cases ha
    | thread r =>
      obtain ⟨t, v, ht, -⟩ := ha
      cases ht
    | queue => cases ha
  one a _ ha := by
    cases a with
    | slot w => cases w <;> cases ha
    | thread r =>
      obtain ⟨t, v, ht, -⟩ := ha
      cases ht
    | queue => cases ha
  located hv := by
    rcases hv with hv | hv
    all_goals cases hv
  nodup := Nat.zero_le _

/-! ## What the steps do with it -/

/-- A thread that goes on has the message of its new place. -/
theorem at_goto (s : Sys) (p r : ℕ) (w : Which) (pc : Pc) (a : Place) :
    At (s.goto r w pc) p a ↔ if a = .thread r then ∃ v, pc.msg = some (v, p) else At s p a := by
  cases a with
  | slot w' => simp [At, Sys.goto]
  | queue => simp [At, Sys.goto]
  | thread r' =>
    by_cases hr : r' = r
    · subst hr
      simp [At, Sys.goto]
    · simp [At, Sys.goto, hr]

/-- A thread that keeps its message, or goes on without one, moves no payload. -/
theorem at_goto_same {r : ℕ} {w : Which} {pc pc' : Pc} (ht : s.threads r = some ⟨w, pc⟩)
    (hmsg : pc'.msg = pc.msg) (a : Place) : At (s.goto r w pc') p a ↔ At s p a := by
  rw [at_goto]
  split
  · next ha =>
    subst ha
    simp [At, ht, hmsg]
  · exact Iff.rfl

/-- Writing anything but the payload moves none. -/
theorem at_write_same {w : Which} {f : Session → Session}
    (hf : (f (s.sessions w)).rawRequest = (s.sessions w).rawRequest) (a : Place) :
    At (s.write w f) p a ↔ At s p a := by
  cases a with
  | slot w' =>
    by_cases hw : w' = w
    · subst hw
      simp [At, Sys.write, hf]
    · simp [At, Sys.write, hw]
  | thread r => exact Iff.rfl
  | queue => exact Iff.rfl

/-- Calls have no payloads. -/
theorem at_callTo (c : ℕ) (call : Call) (pc : CallPc) (a : Place) :
    At (s.callTo c call pc) p a ↔ At s p a := by
  cases a <;> exact Iff.rfl

/-- A step that does nothing with a payload. -/
theorem Located.idle (h : Located p v s) (hout : out.filterMap (·.use p) = [])
    (hgiven : s'.given ≤ p ↔ s.given ≤ p) (hat : ∀ a, At s' p a ↔ At s p a)
    (hqueue : s'.queue = s.queue) :
    ∃ v', lives.read v (out.filterMap (·.use p)) = some v' ∧ Located p v' s' := by
  rw [hout]
  exact ⟨v, rfl, h.stay hgiven hat (hqueue ▸ h.nodup)⟩

/-- A new request finds its session free. -/
theorem pSession_free {notif : Notification} {w : Which} (hw : s.pSession notif = some w) :
    (s.sessions w).rawRequest = none := by
  rw [Sys.pSession] at hw
  split at hw
  · split at hw
    · cases hw
    · next hno =>
      obtain rfl := Option.some.inj hw
      exact not_not.mp hno
  · split at hw
    · cases hw
    · next hno =>
      obtain rfl := Option.some.inj hw
      exact not_not.mp (not_or.mp hno).1

/-- A request that is accepted keeps its payload in its session. -/
theorem Located.accepted (h : Located p v s) (s' : Sys) (w : Which)
    (hfree : (s.sessions w).rawRequest = none)
    (hsessions : ∀ w', (s'.sessions w').rawRequest =
      if w' = w then some s.given else (s.sessions w').rawRequest)
    (hthreads : ∀ a, (∀ w, a ≠ .slot w) → (At s' p a ↔ At s p a))
    (hgiven : s'.given = s.given + 1) (hqueue : s'.queue = s.queue) (id : ℕ) :
    ∃ v', lives.read v ([Out.notify id s.given].filterMap (·.use p)) = some v' ∧
      Located p v' s' := by
  by_cases hp : s.given = p
  · -- its own payload
    subst hp
    have hv : v = .fresh := h.fresh.mpr (le_refl _)
    have hno : ∀ a, ¬ At s s.given a := fun a ha => lt_irrefl _ (h.lt_given ha)
    refine ⟨.kept, by simp [Out.use, hv, lives], ?_⟩
    refine located_at (a := .slot w) (by omega) (fun b => ?_) (hqueue ▸ h.nodup)
    by_cases hb : ∃ w', b = .slot w'
    · obtain ⟨w', rfl⟩ := hb
      have hold : (s.sessions w').rawRequest ≠ some s.given := hno (.slot w')
      by_cases hw : w' = w
      · simp [At, hsessions, hw]
      · simp [At, hsessions, hw, hold]
    · rw [hthreads b fun w' hw' => hb ⟨w', hw'⟩]
      refine iff_of_false (hno b) ?_
      rintro rfl
      exact hb ⟨w, rfl⟩
  · refine h.idle (by simp [Out.use, hp]) (by omega) (fun a => ?_) hqueue
    cases a with
    | slot w' =>
      by_cases hw : w' = w
      · subst hw
        simp [At, hsessions, hfree, hp]
      · simp [At, hsessions, hw]
    | thread r => exact hthreads _ fun w' => by simp
    | queue => exact hthreads _ fun w' => by simp

theorem use_frees (o : Option ℕ) (p : ℕ) :
    (o.toList.map Out.free).filterMap (·.use p) = if o = some p then [.free] else [] := by
  cases o with
  | none => simp
  | some q => by_cases hq : q = p <;> simp [Out.use, hq]

/-- A restart frees the payloads in the sessions. -/
theorem Located.restarted (h : Located p v s) :
    ∃ v', lives.read v ((((s.sessions .sessionEs).rawRequest.toList ++
        (s.sessions .session).rawRequest.toList).map Out.free).filterMap (·.use p)) = some v' ∧
      Located p v' { s with sessions := fun w => (s.sessions w).restarted } := by
  have hnone : ∀ w, (s.sessions w).restarted.rawRequest = none := by
    intro w
    rw [Session.restarted]
    split
    · next hraw => exact hraw
    · rfl
  rw [List.map_append, List.filterMap_append, use_frees, use_frees]
  by_cases hw : ∃ w, (s.sessions w).rawRequest = some p
  · obtain ⟨w, hw⟩ := hw
    have hat : At s p (.slot w) := hw
    have hv : v = .kept := h.held _ hat
    have hother : ∀ w', w' ≠ w → (s.sessions w').rawRequest ≠ some p := by
      intro w' hne hw'
      exact hne (Place.slot.inj (h.one (.slot w') (.slot w) hw' hw))
    refine ⟨.gone, ?_, located_gone (h.lt_given hat) (fun b hb => ?_) h.nodup⟩
    · rw [hv]
      cases w with
      | session =>
        rw [if_neg (hother .sessionEs (by decide)), if_pos hw]
        rfl
      | sessionEs =>
        rw [if_pos hw, if_neg (hother .session (by decide))]
        rfl
    · cases b with
      | slot w' => exact absurd ((hnone w').symm.trans hb) (by simp)
      | thread r => cases h.one (.thread r) (.slot w) hb hw
      | queue => cases h.one .queue (.slot w) hb hw
  · have hno : ∀ w, (s.sessions w).rawRequest ≠ some p := fun w hp => hw ⟨w, hp⟩
    rw [if_neg (hno _), if_neg (hno _)]
    refine ⟨v, rfl, h.stay Iff.rfl (fun a => ?_) h.nodup⟩
    cases a with
    | slot w =>
      simp only [At, hnone]
      exact iff_of_false (by simp) (hno w)
    | thread r => exact Iff.rfl
    | queue => exact Iff.rfl

/-- A thread does nothing with payloads of others. -/
theorem Takes.other {r : ℕ} {resp : Response} {raw : Option ℕ} {msg : Option (Response × ℕ)}
    (h : Takes r resp raw msg out) (hne : raw ≠ some p) :
    out.filterMap (·.use p) = [] ∧ ∀ v, msg ≠ some (v, p) := by
  cases h with
  | gone => simp
  | placed q hresp =>
    have hqp : q ≠ p := fun hqp => hne (by rw [hqp])
    simp [Out.use, hqp]
  | ignored q hresp =>
    have hqp : q ≠ p := fun hqp => hne (by rw [hqp])
    simp [Out.use, hqp]

/-- A thread that finishes takes the payload out of its session. -/
theorem Located.leaves (h : Located p v s) {r : ℕ} {w : Which} {pc : Pc} {resp : Response}
    {msg : Option (Response × ℕ)} (ht : s.threads r = some ⟨w, pc⟩) (hpc : pc.msg = none)
    (htakes : Takes r resp (s.sessions w).rawRequest msg out)
    (hsessions : ∀ w', (s'.sessions w').rawRequest =
      if w' = w then none else (s.sessions w').rawRequest)
    (hthreads : s'.threads = Function.update s.threads r (some ⟨w, .leaving msg⟩))
    (hgiven : s'.given = s.given) (hqueue : s'.queue = s.queue) :
    ∃ v', lives.read v ((out ++ [Out.reset r w]).filterMap (·.use p)) = some v' ∧
      Located p v' s' := by
  have hreset : (out ++ [Out.reset r w]).filterMap (·.use p) = out.filterMap (·.use p) := by
    simp [Out.use]
  rw [hreset]
  have hslot : ∀ w', At s' p (.slot w') ↔ w' ≠ w ∧ At s p (.slot w') := by
    intro w'
    by_cases hw : w' = w
    · simp [At, hsessions, hw]
    · simp [At, hsessions, hw]
  have hold : ¬ At s p (.thread r) := by
    rintro ⟨t, v, ht', hmsg⟩
    rw [ht] at ht'
    obtain rfl := Option.some.inj ht'
    rw [hpc] at hmsg
    cases hmsg
  have hthread : ∀ r', At s' p (.thread r') ↔
      if r' = r then ∃ v, msg = some (v, p) else At s p (.thread r') := by
    intro r'
    by_cases hr : r' = r
    · simp [At, hthreads, hr, Pc.msg]
    · simp [At, hthreads, hr]
  have hq : At s' p .queue ↔ At s p .queue := by rw [At, At, hqueue]
  by_cases hat : (s.sessions w).rawRequest = some p
  · -- its payload
    have hat' : At s p (.slot w) := hat
    have hv : v = .kept := h.held _ hat'
    have hlt : p < s'.given := hgiven ▸ h.lt_given hat'
    rw [hat] at htakes
    cases htakes with
    | placed _ hresp =>
      refine ⟨.placed, by simp [Out.use, hv, lives], ?_⟩
      refine located_at (a := .thread r) hlt (fun b => ?_) (hqueue ▸ h.nodup)
      cases b with
      | slot w' =>
        refine iff_of_false (fun hb => ?_) (by simp)
        exact ((hslot w').mp hb).1 (Place.slot.inj (h.one _ _ ((hslot w').mp hb).2 hat'))
      | thread r' =>
        rw [hthread]
        by_cases hr : r' = r
        · simp [hr]
        · rw [if_neg hr]
          refine iff_of_false (fun hb => ?_) (by simp [hr])
          cases h.one _ _ hb hat'
      | queue =>
        refine iff_of_false (fun hb => ?_) (by simp)
        cases h.one _ _ (hq.mp hb) hat'
    | ignored _ hresp =>
      refine ⟨.gone, by simp [Out.use, hv, lives], ?_⟩
      refine located_gone hlt (fun b hb => ?_) (hqueue ▸ h.nodup)
      cases b with
      | slot w' =>
        exact ((hslot w').mp hb).1 (Place.slot.inj (h.one _ _ ((hslot w').mp hb).2 hat'))
      | thread r' =>
        rw [hthread] at hb
        by_cases hr : r' = r
        · simp [hr] at hb
        · rw [if_neg hr] at hb
          cases h.one _ _ hb hat'
      | queue => cases h.one _ _ (hq.mp hb) hat'
  · -- another one, or none
    have hother := htakes.other hat
    refine h.idle hother.1 (by rw [hgiven]) (fun a => ?_) hqueue
    cases a with
    | slot w' =>
      rw [hslot]
      refine and_iff_right_of_imp ?_
      rintro hat' rfl
      exact hat hat'
    | thread r' =>
      rw [hthread]
      split
      · next hr =>
        subst hr
        exact iff_of_false (fun hm => hother.2 _ hm.choose_spec) hold
      · exact Iff.rfl
    | queue => exact hq

/-- A thread sends its message. -/
theorem Located.sends (h : Located p v s) {r : ℕ} {w : Which} {resp : Response} {q : ℕ}
    (ht : s.threads r = some ⟨w, .sending (some (resp, q))⟩) :
    ∃ v', lives.read v ([Out.send r resp q].filterMap (·.use p)) = some v' ∧
      Located p v' { s.goto r w .done with queue := s.queue ++ [(resp, q)] } := by
  have hgoto : ∀ a, a ≠ .queue → (At { s.goto r w .done with queue := s.queue ++ [(resp, q)] } p a ↔
      a ≠ .thread r ∧ At s p a) := by
    intro a ha
    have hsame : At { s.goto r w .done with queue := s.queue ++ [(resp, q)] } p a ↔
        At (s.goto r w .done) p a := by
      cases a with
      | slot w' => exact Iff.rfl
      | thread r' => exact Iff.rfl
      | queue => exact absurd rfl ha
    rw [hsame, at_goto]
    by_cases hr : a = .thread r
    · simp [hr, Pc.msg]
    · simp [hr]
  have hqueue : At { s.goto r w .done with queue := s.queue ++ [(resp, q)] } p .queue ↔
      At s p .queue ∨ p = q := by simp [At]
  by_cases hp : q = p
  · -- its payload
    subst hp
    have hat : At s q (.thread r) := ⟨_, resp, ht, rfl⟩
    have hv : v = .placed := h.held _ hat
    have hnot : q ∉ s.queue.map Prod.snd := fun hin => by cases h.one .queue (.thread r) hin hat
    refine ⟨.placed, by simp [Out.use, hv], ?_⟩
    refine located_at (a := .queue) (h.lt_given hat) (fun b => ?_) ?_
    · cases b with
      | queue => simp [hqueue]
      | slot w' =>
        rw [hgoto _ (by simp)]
        refine iff_of_false (fun hb => ?_) (by simp)
        cases h.one _ _ hb.2 hat
      | thread r' =>
        rw [hgoto _ (by simp)]
        refine iff_of_false (fun hb => ?_) (by simp)
        exact hb.1 (h.one _ _ hb.2 hat)
    · show ((s.queue ++ [(resp, q)]).map Prod.snd).count q ≤ 1
      rw [List.map_append, List.count_append, List.count_eq_zero.mpr hnot]
      simp
  · refine ⟨v, by simp [Out.use], ?_⟩
    have hat : ∀ a, At { s.goto r w .done with queue := s.queue ++ [(resp, q)] } p a ↔
        At s p a := by
      intro a
      by_cases ha : a = .queue
      · subst ha
        rw [hqueue]
        exact or_iff_left fun hpq => hp hpq.symm
      · rw [hgoto a ha]
        refine and_iff_right_of_imp ?_
        rintro hin rfl
        obtain ⟨t, v, ht', hmsg⟩ := hin
        rw [ht] at ht'
        obtain rfl := Option.some.inj ht'
        exact hp (Prod.mk.inj (Option.some.inj hmsg)).2
    refine h.stay Iff.rfl hat ?_
    show ((s.queue ++ [(resp, q)]).map Prod.snd).count p ≤ 1
    rw [List.map_append, List.count_append]
    simpa [hp] using h.nodup

/-- The deferred thread tells the modem, and destroys the message. -/
theorem Located.delivers (h : Located p v s) {resp : Response} {q : ℕ}
    {rest : List (Response × ℕ)} (hq : s.queue = (resp, q) :: rest) :
    ∃ v', lives.read v ([Out.inform resp q, .destroy q].filterMap (·.use p)) = some v' ∧
      Located p v' { s with queue := rest } := by
  have hcount := h.nodup
  rw [hq, List.map_cons, List.count_cons] at hcount
  by_cases hp : q = p
  · -- its message
    subst hp
    have hat : At s q .queue := by simp [At, hq]
    have hv : v = .placed := h.held _ hat
    rw [if_pos (by simp)] at hcount
    have hnot : q ∉ rest.map Prod.snd := by
      rw [← List.count_eq_zero]
      omega
    refine ⟨.gone, by simp [Out.use, hv, lives], ?_⟩
    refine located_gone (h.lt_given hat) (fun b hb => ?_) (by show (rest.map _).count q ≤ 1; omega)
    cases b with
    | slot w => cases h.one (.slot w) .queue hb hat
    | thread r => cases h.one (.thread r) .queue hb hat
    | queue => exact hnot hb
  · refine ⟨v, by simp [Out.use, hp], ?_⟩
    have hat : ∀ a, At { s with queue := rest } p a ↔ At s p a := by
      intro a
      cases a with
      | slot w => exact Iff.rfl
      | thread r => exact Iff.rfl
      | queue =>
        simp only [At, hq, List.map_cons, List.mem_cons]
        exact (or_iff_right fun hpq => hp hpq.symm).symm
    refine h.stay Iff.rfl hat ?_
    show (rest.map Prod.snd).count p ≤ 1
    omega

/-- Whatever a step does with a payload, its life goes on as it may. -/
theorem Located.step (h : Located p v s) (hnum : Numbered s) (hmove : Move s l s' out) :
    ∃ v', lives.read v (out.filterMap (·.use p)) = some v' ∧ Located p v' s' := by
  have hmsg : ∀ pc : Pc, pc = .created ∨ pc = .waiting → pc.msg = none := by
    rintro pc (rfl | rfl)
    all_goals rfl
  cases hmove with
  | rejected notif hw =>
    by_cases hp : s.given = p
    · subst hp
      have hv : v = .fresh := h.fresh.mpr (le_refl _)
      refine ⟨.gone, by simp [Out.use, hv, lives], ?_⟩
      refine located_gone (Nat.lt_succ_self _) (fun b hb => ?_) h.nodup
      exact absurd (h.lt_given hb) (lt_irrefl _)
    · refine h.idle (by simp [Out.use, hp]) ?_ (fun a => Iff.rfl) rfl
      show s.given + 1 ≤ p ↔ s.given ≤ p
      omega
  | accepted notif w hw i hi =>
    have hmute : ((if notif.privacyOverride then [Out.mute] else []) ++
        [Out.notify (s.reqIDCounter + 1) s.given]).filterMap (·.use p) =
          [Out.notify (s.reqIDCounter + 1) s.given].filterMap (·.use p) := by
      cases notif.privacyOverride <;> rfl
    rw [hmute]
    refine h.accepted _ w (pSession_free hw) ?_ ?_ ?_ ?_ _
    · intro w'
      by_cases hw' : w' = w
      · subst hw'
        simp [hi]
      · simp [hw']
    · intro a ha
      have hnone : ¬ At s p (.thread (s.reqIDCounter + 1)) := by
        rintro ⟨t, v, ht, -⟩
        rw [hnum.next] at ht
        cases ht
      have hgoto := at_goto s p (s.reqIDCounter + 1) w .created a
      cases a with
      | slot w' => exact absurd rfl (ha w')
      | queue => exact Iff.rfl
      | thread r =>
        refine Iff.trans hgoto ?_
        split
        · next hr =>
          rw [hr]
          exact iff_of_false (by simp [Pc.msg]) hnone
        · exact Iff.rfl
    · rfl
    · rfl
  | restarted => exact h.restarted
  | delivers resp q rest hq => exact h.delivers hq
  | asked c id resp hc => exact h.idle rfl Iff.rfl (fun a => Iff.rfl) rfl
  | looked c call pc hc hlook => exact h.idle rfl Iff.rfl (fun a => Iff.rfl) rfl
  | refused c call hc hno => exact h.idle rfl Iff.rfl (fun a => Iff.rfl) rfl
  | ignored c call hc hpc =>
    exact h.idle rfl Iff.rfl (fun a => (at_callTo ..).trans (at_write_same rfl a)) rfl
  | stored c call w hc hpc =>
    exact h.idle rfl Iff.rfl (fun a => (at_callTo ..).trans (at_write_same rfl a)) rfl
  | waits r w pc ht hpc hrecvd =>
    have hnone : Pc.waiting.msg = pc.msg := (hmsg pc hpc).symm
    exact h.idle rfl Iff.rfl (fun a => at_goto_same ht hnone a) rfl
  | leaves r w pc timedOut resp msg out' ht hpc hv htakes =>
    refine h.leaves ht (hmsg pc hpc) htakes (fun w' => ?_) rfl rfl rfl
    by_cases hw : w' = w
    · subst hw
      simp [Sys.write, Sys.goto]
    · simp [Sys.write, Sys.goto, hw]
  | clears r w msg ht =>
    have hsame : (Pc.sending msg).msg = (Pc.leaving msg).msg := rfl
    have ht' : (s.write w fun i => { i with respTimeLeft := 0, reqID := 0 }).threads r =
        some ⟨w, .leaving msg⟩ := ht
    exact h.idle rfl Iff.rfl (fun a => (at_goto_same ht' hsame a).trans (at_write_same rfl a)) rfl
  | silent r w ht =>
    have hnone : Pc.done.msg = (Pc.sending none).msg := rfl
    exact h.idle rfl Iff.rfl (fun a => at_goto_same ht hnone a) rfl
  | sends r w resp q ht => exact h.sends ht

/-! ## The thread of a payload -/

/-- A thread is behind its section. -/
def Pc.finished : Pc → Bool
  | .created | .waiting => false
  | _ => true

theorem Pc.msg_of_not_finished {pc : Pc} (h : pc.finished = false) : pc.msg = none := by
  cases pc with
  | created | waiting => rfl
  | leaving | sending | done => cases h

/-- The payload `p` belongs to the thread `id`: while it is in a session, it is in that of the
thread, and the thread has not finished. -/
def Linked (id p : ℕ) (s : Sys) : Prop :=
  p < s.given ∧ ∃ t, s.threads id = some t ∧
    ∀ w, (s.sessions w).rawRequest = some p → w = t.session ∧ t.pc.finished = false

variable {id : ℕ}

/-- Taking payloads out of sessions keeps the link. -/
theorem Linked.mono (h : Linked id p s) (hgiven : s.given ≤ s'.given)
    (hthreads : s'.threads id = s.threads id)
    (hslot : ∀ w, (s'.sessions w).rawRequest = some p → (s.sessions w).rawRequest = some p) :
    Linked id p s' := by
  obtain ⟨hlt, t, ht, hall⟩ := h
  exact ⟨hlt.trans_le hgiven, t, hthreads.trans ht, fun w hw => hall w (hslot w hw)⟩

/-- A thread goes on: the payload is out of its session before it is behind its section. -/
theorem Linked.goto (h : Linked id p s) {r : ℕ} {w : Which} {pc pc' : Pc}
    (ht : s.threads r = some ⟨w, pc⟩) (hgiven : s'.given = s.given)
    (hthreads : s'.threads = Function.update s.threads r (some ⟨w, pc'⟩))
    (hslot : ∀ w, (s'.sessions w).rawRequest = some p → (s.sessions w).rawRequest = some p)
    (hpc : pc'.finished = false ∨ pc.finished = true ∨ (s'.sessions w).rawRequest ≠ some p) :
    Linked id p s' := by
  by_cases hr : id = r
  · subst hr
    obtain ⟨hlt, t, ht', hall⟩ := h
    rw [ht] at ht'
    obtain rfl := Option.some.inj ht'
    refine ⟨hgiven ▸ hlt, ⟨w, pc'⟩, by rw [hthreads, Function.update_self], fun w' hw' => ?_⟩
    obtain ⟨rfl, hunfinished⟩ := hall w' (hslot w' hw')
    refine ⟨rfl, ?_⟩
    rcases hpc with hpc | hpc | hpc
    · exact hpc
    · exact absurd (hpc.symm.trans hunfinished) (by decide)
    · exact absurd hw' hpc
  · exact h.mono hgiven.ge (by rw [hthreads, Function.update_of_ne hr]) hslot

theorem Linked.step (h : Linked id p s) (hnum : Numbered s) (hmove : Move s l s' out) :
    Linked id p s' := by
  -- a session that is written, and no payload put into it
  have hwrite : ∀ {w i}, s'.sessions = Function.update s.sessions w i →
      (i.rawRequest = (s.sessions w).rawRequest ∨ i.rawRequest = none) →
      ∀ w', (s'.sessions w').rawRequest = some p → (s.sessions w').rawRequest = some p := by
    intro w i heq hi w' hw'
    rw [heq] at hw'
    by_cases hww : w' = w
    · subst hww
      rw [Function.update_self] at hw'
      rcases hi with hi | hi
      · rwa [hi] at hw'
      · rw [hi] at hw'
        cases hw'
    · rwa [Function.update_of_ne hww] at hw'
  cases hmove with
  | rejected => exact h.mono (Nat.le_succ _) rfl fun w hw => hw
  | accepted notif w hw i hi =>
    have hid : id ≠ s.reqIDCounter + 1 := by
      rintro rfl
      obtain ⟨-, t, ht, -⟩ := h
      rw [hnum.next] at ht
      cases ht
    refine h.mono (Nat.le_succ _) (Function.update_of_ne hid ..) fun w' hw' => ?_
    by_cases hww : w' = w
    · subst hww
      simp only [Function.update_self, hi] at hw'
      exact absurd (Option.some.inj hw') h.1.ne'
    · simpa [hww] using hw'
  | restarted =>
    refine h.mono (le_refl _) rfl fun w hw => ?_
    dsimp only at hw
    rw [Session.restarted] at hw
    split at hw
    · exact hw
    · cases hw
  | delivers => exact h.mono (le_refl _) rfl fun w hw => hw
  | asked | looked | refused => exact h.mono (le_refl _) rfl fun w hw => hw
  | ignored => exact h.mono (le_refl _) rfl (hwrite rfl (.inl rfl))
  | stored => exact h.mono (le_refl _) rfl (hwrite rfl (.inl rfl))
  | waits r w pc ht => exact h.goto ht rfl rfl (fun w hw => hw) (.inl rfl)
  | leaves r w pc timedOut v msg out' ht =>
    refine h.goto ht rfl rfl (hwrite rfl (.inr rfl)) (.inr (.inr ?_))
    simp [Sys.goto, Sys.write]
  | clears r w msg ht => exact h.goto ht rfl rfl (hwrite rfl (.inl rfl)) (.inr (.inl rfl))
  | silent r w ht => exact h.goto ht rfl rfl (fun w hw => hw) (.inr (.inl rfl))
  | sends r w v q ht => exact h.goto ht rfl rfl (fun w hw => hw) (.inr (.inl rfl))

/-- A thread announces nothing. -/
theorem Takes.not_notify {r : ℕ} {resp : Response} {raw : Option ℕ}
    {msg : Option (Response × ℕ)} (h : Takes r resp raw msg out) : .notify id p ∉ out := by
  cases h <;> simp

/-- A payload is linked when its request is accepted. -/
theorem linked_notify (hmove : Move s l s' out) (hout : .notify id p ∈ out)
    (hfresh : ∀ w, (s.sessions w).rawRequest ≠ some s.given) : Linked id p s' := by
  cases hmove with
  | accepted notif w hw i hi =>
    have heq : Out.notify id p = .notify (s.reqIDCounter + 1) s.given := by
      rcases List.mem_append.mp hout with hmute | hlast
      · split at hmute
        · cases List.mem_singleton.mp hmute
        · cases hmute
      · exact List.mem_singleton.mp hlast
    obtain ⟨rfl, rfl⟩ := Out.notify.inj heq
    refine ⟨Nat.lt_succ_self _, ⟨w, .created⟩, Function.update_self .., fun w' hw' => ?_⟩
    by_cases hww : w' = w
    · exact ⟨hww, rfl⟩
    · simp only [Function.update_of_ne hww] at hw'
      exact absurd hw' (hfresh w')
  | leaves r w pc timedOut v msg out' ht hpc hv htakes =>
    rcases List.mem_append.mp hout with hin | hin
    · exact absurd hin htakes.not_notify
    · simp at hin
  | restarted => simp at hout
  | rejected | delivers | asked | looked | refused | ignored | stored | waits | clears | silent
    | sends => simp at hout

/-! ## Whole runs -/

/-- Without a request that is accepted, a payload is at most freed. -/
theorem lives_unannounced {t : List Use} (h : lives.read .fresh t = some v) (hno : .keep ∉ t) :
    v = .fresh ∨ v = .gone := by
  induction t using List.reverseRecOn generalizing v with
  | nil =>
    obtain rfl := Option.some.inj h
    exact .inl rfl
  | append_singleton t u ih =>
    obtain ⟨v₁, h₁, hlast⟩ := Observer.read_append_inv h
    obtain ⟨v₂, hnext, hv⟩ := Option.bind_eq_some_iff.mp hlast
    obtain rfl := Option.some.inj hv
    simp only [List.mem_append, List.mem_singleton, not_or] at hno
    rcases ih h₁ hno.1 with rfl | rfl
    · cases u with
      | keep => exact absurd rfl hno.2
      | free => exact .inr (Option.some.inj hnext).symm
      | place | read | destroy => cases hnext
    · cases u <;> cases hnext

/-- What holds of all payloads after a run. -/
structure Lives (h : List (Event Sys Label Out)) (s : Sys) : Prop where
  /-- `loc_eng_ni_init` was called -/
  niNotifyCb : s.niNotifyCb = true
  /-- threads are numbered -/
  numbered : Numbered s
  /-- every payload has had a life so far, and is where it should be -/
  life : ∀ p, ∃ v, lives.read .fresh (trace (uses p) h) = some v ∧ Located p v s
  /-- payloads that were announced are linked with their threads -/
  linked : ∀ e ∈ h, ∀ id p, .notify id p ∈ e.out → Linked id p s

/-- In every run, every payload has a life. -/
theorem lives_run {h : List (Event Sys Label Out)} (hr : Run machine start h s) : Lives h s := by
  induction hr with
  | nil =>
    exact ⟨start_niNotifyCb, numbered_start, fun p => ⟨.fresh, rfl, located_start p⟩,
      fun e he => absurd he List.not_mem_nil⟩
  | @snoc h s s' l out _ hs ih =>
    have hmove := move_of_step ih.niNotifyCb hs
    refine ⟨hmove.niNotifyCb.trans ih.niNotifyCb, ih.numbered.step hmove, fun p => ?_, ?_⟩
    · obtain ⟨v, hread, hloc⟩ := ih.life p
      obtain ⟨v', hread', hloc'⟩ := hloc.step ih.numbered hmove
      refine ⟨v', ?_, hloc'⟩
      rw [trace, List.flatMap_append, Observer.read_append, ← trace, hread, List.flatMap_singleton]
      exact hread'
    · intro e he id p hout
      rcases List.mem_append.mp he with he | he
      · exact (ih.linked e he id p hout).step ih.numbered hmove
      · obtain rfl := List.mem_singleton.mp he
        refine linked_notify hmove hout fun w hw => ?_
        obtain ⟨v, -, hloc⟩ := ih.life s.given
        have hat : At s s.given (.slot w) := hw
        exact lt_irrefl _ (hloc.lt_given hat)

/-- A payload is kept when its request is announced. -/
theorem keep_mem {h : List (Event Sys Label Out)} (hkeep : .keep ∈ trace (uses p) h) :
    ∃ e ∈ h, ∃ id, .notify id p ∈ e.out := by
  obtain ⟨e, he, huse⟩ := List.mem_flatMap.mp hkeep
  obtain ⟨o, ho, hou⟩ := List.mem_filterMap.mp huse
  cases o with
  | notify id q =>
    simp only [Out.use] at hou
    split at hou
    · next hq =>
      subst hq
      exact ⟨e, he, id, ho⟩
    · cases hou
  | free | place | inform | destroy =>
    simp only [Out.use] at hou
    split at hou
    all_goals cases hou
  | mute | stored | notActive | reset | send => cases hou

/-- Nothing is done with a payload that is freed. -/
theorem lives_gone {t : List Use} (h : lives.read .gone t = some v) : t = [] := by
  cases t with
  | nil => rfl
  | cons u t => cases u <;> cases h

/-- What a run does with the payload `p`. -/
structure Disposed (p : ℕ) (h : List (Event Sys Label Out)) (s : Sys) : Prop where
  /-- it is disposed of at most once -/
  atMostOnce : disposals (trace (uses p) h) ≤ 1
  /-- and freed at most once -/
  freedAtMostOnce : frees (trace (uses p) h) ≤ 1
  /-- a payload that was handed over and not accepted has been disposed of -/
  rejected : p < s.given → (∀ e ∈ h, ∀ id, .notify id p ∉ e.out) →
    disposals (trace (uses p) h) = 1
  /-- and so has one whose thread has finished -/
  finished : ∀ e ∈ h, ∀ id, .notify id p ∈ e.out → ∃ t, s.threads id = some t ∧
    (t.pc.finished = true → disposals (trace (uses p) h) = 1)
  /-- what is found in a session was not disposed of before -/
  kept : ∀ h₁ e h₂, h = h₁ ++ e :: h₂ → ∀ w, (e.pre.sessions w).rawRequest = some p →
    disposals (trace (uses p) h₁) = 0
  /-- and `informNiResponse` reads nothing that was freed -/
  read : ∀ h₁ e h₂, h = h₁ ++ e :: h₂ → .read ∈ uses p e → frees (trace (uses p) h₁) = 0

/-- Whatever the order of requests, responses, ends of times and restarts: every payload is
disposed of once, and not used any more afterwards. -/
theorem payload_run {h : List (Event Sys Label Out)} (hr : Run machine start h s) (p : ℕ) :
    Disposed p h s := by
  have hlives := lives_run hr
  obtain ⟨v, hread, hloc⟩ := hlives.life p
  obtain ⟨hdisposals, hfrees⟩ := lives_count hread
  refine ⟨?_, ?_, fun hgiven hno => ?_, fun e he id hout => ?_, ?_, ?_⟩
  · rw [hdisposals]
    split <;> omega
  · rw [hfrees]
    split <;> omega
  · -- not accepted
    have hkeep : .keep ∉ trace (uses p) h := by
      intro hkeep
      obtain ⟨e, he, id, hout⟩ := keep_mem hkeep
      exact hno e he id hout
    have hne : v ≠ .fresh := fun hv => absurd (hloc.fresh.mp hv) (Nat.not_le.mpr hgiven)
    have hv : v = .gone := (lives_unannounced hread hkeep).resolve_left hne
    rw [hdisposals, if_pos (.inr hv)]
  · -- the thread has finished
    obtain ⟨hgiven, t, ht, hslot⟩ := hlives.linked e he id p hout
    refine ⟨t, ht, fun hfinished => ?_⟩
    rw [hdisposals]
    cases v with
    | fresh => exact absurd (hloc.fresh.mp rfl) (Nat.not_le.mpr hgiven)
    | kept =>
      obtain ⟨a, ha⟩ := hloc.located (.inl rfl)
      have hfate := hloc.held a ha
      cases a with
      | slot w => exact absurd ((hslot w ha).2.symm.trans hfinished) (by decide)
      | thread r => cases hfate
      | queue => cases hfate
    | placed => rfl
    | gone => rfl
  · rintro h₁ e h₂ rfl w hw
    obtain ⟨hr₁, -, -⟩ := Run.event hr
    obtain ⟨v₁, hread₁, hloc₁⟩ := (lives_run hr₁).life p
    have hat : At e.pre p (.slot w) := hw
    have hv₁ : v₁ = .kept := hloc₁.held _ hat
    rw [(lives_count hread₁).1, hv₁]
    rfl
  · rintro h₁ e h₂ rfl huse
    rw [trace, List.flatMap_append, List.flatMap_cons] at hread
    obtain ⟨v₁, hread₁, hrest⟩ := Observer.read_append_inv hread
    obtain ⟨v₂, he, -⟩ := Observer.read_append_inv hrest
    have hne : v₁ ≠ .gone := by
      rintro rfl
      rw [lives_gone he] at huse
      cases huse
    rw [trace, (lives_count hread₁).2, if_neg hne]

/-- Two requests and a restart. -/
theorem payload_run_restart : ∃ h s, Run machine start h s ∧
    h.map Event.label = [.request ⟨.umtsSupl, false, 0⟩, .run 1, .request ⟨.voice, true, 10⟩,
      .restart, .run 1] ∧ Disposed 0 h s ∧ Disposed 1 h s := by
  obtain ⟨h, s, hr, hl, -⟩ := machine.exists_run start
    [.request ⟨.umtsSupl, false, 0⟩, .run 1, .request ⟨.voice, true, 10⟩, .restart, .run 1]
    (fun _ _ => true) (by decide)
  exact ⟨h, s, hr, hl, payload_run hr 0, payload_run hr 1⟩

end OppoA37.Ni
