import OppoA37.Gps.Agps.BaseMachine

/-!
# Telling BIT clients apart

A BIT client is its address: an IPv4 address, or `INADDR_NONE` and the sixteen bytes of
an IPv6 address. `BITSubscriber::equals` compares these bytes with `strncmp`, which stops
at the first zero byte that both have, and most IPv6 addresses have one early. What
`equals` tells apart is therefore the address up to that byte.

* `strncmp_eq_zero_iff` — what the comparison sees;
* `ApartFrom` — the caller of a step is told apart from everyone listed;
* `bit_clients_told_apart` — in runs of such steps a release removes the client that
  asks for it and no other, and different clients are listed separately;
* `release_removes_other_client` — two addresses that agree up to a zero byte.

Other classes may share the machine. A subscriber of another class that has the id of
the caller is compared by its id alone, so `ApartFrom` excludes it too.
-/

namespace OppoA37.Agps

open Lts

/-! ## What the comparison of addresses sees -/

/-- The bytes in front of the first zero byte. -/
def beforeZero (bytes : List UInt8) : List UInt8 := bytes.takeWhile (· ≠ 0)

/-- `strncmp` over whole buffers compares them up to their first zero byte. -/
theorem strncmp_eq_zero_iff : ∀ {n : ℕ} {as bs : List UInt8}, as.length = n → bs.length = n →
    (strncmp as bs n = 0 ↔ beforeZero as = beforeZero bs) := by
  intro n
  induction n with
  | zero =>
    intro as bs ha hb
    rw [List.length_eq_zero_iff.mp ha, List.length_eq_zero_iff.mp hb]
    simp [strncmp]
  | succ n ih =>
    intro as bs ha hb
    obtain ⟨a, as, rfl⟩ := List.exists_cons_of_length_eq_add_one ha
    obtain ⟨b, bs, rfl⟩ := List.exists_cons_of_length_eq_add_one hb
    by_cases hab : a = b
    · subst hab
      by_cases hz : a = 0
      · -- a common zero byte ends the comparison
        simp [strncmp, beforeZero, hz]
      · have hrest := ih (Nat.succ.inj ha) (Nat.succ.inj hb)
        simpa [strncmp, beforeZero, hz] using hrest
    · have hne : (a.toNat : ℤ) - b.toNat ≠ 0 := by
        intro heq
        exact hab (UInt8.toNat_inj.mp (by omega))
      have hdiff : beforeZero (a :: as) ≠ beforeZero (b :: bs) := by
        intro heq
        by_cases hz : a = 0 <;> by_cases hz' : b = 0 <;> simp_all [beforeZero]
      simp [strncmp, hab, hne, hdiff]

namespace Subscriber

/-- Two addresses are the same: the IPv4 address, and without one the IPv6 address. -/
def SameAddress (t s : Subscriber) : Prop :=
  t.ID = s.ID ∧ (s.ID = inaddrNone → t.mIPv6Addr = s.mIPv6Addr)

/-- The listed subscriber `t` is the BIT client `s`. -/
def IsClient (t s : Subscriber) : Prop := t.className = .bit ∧ t.SameAddress s

instance (t s : Subscriber) : Decidable (t.SameAddress s) := inferInstanceAs (Decidable (_ ∧ _))

instance (t s : Subscriber) : Decidable (t.IsClient s) := inferInstanceAs (Decidable (_ ∧ _))

/-- What is listed as two clients is one. -/
theorem IsClient.sameAddress {t s₁ s₂ : Subscriber} (h₁ : t.IsClient s₁) (h₂ : t.IsClient s₂) :
    s₁.SameAddress s₂ := by
  obtain ⟨-, hid₁, hip₁⟩ := h₁
  obtain ⟨-, hid₂, hip₂⟩ := h₂
  refine ⟨hid₁.symm.trans hid₂, fun hnone => ?_⟩
  rw [← hip₁ ((hid₁.symm.trans hid₂).trans hnone), hip₂ hnone]

/-- The subscriber of a call is told apart from everyone in the list: who has its id is
of its class, and an IPv6 address that agrees with its own up to the first zero byte is
its own. -/
def ApartFrom (l : List Subscriber) (s : Subscriber) : Prop :=
  ∀ t ∈ l, t.ID = s.ID → t.className = s.className ∧
    (s.className = .bit → s.ID = inaddrNone →
      beforeZero t.mIPv6Addr.toList = beforeZero s.mIPv6Addr.toList → t.mIPv6Addr = s.mIPv6Addr)

instance (l : List Subscriber) (s : Subscriber) : Decidable (s.ApartFrom l) :=
  inferInstanceAs (Decidable (∀ t ∈ l, _))

/-- Equality of two BIT subscribers, by what their addresses look like up to a zero. -/
theorem equals_bit_iff {t s : Subscriber} (ht : t.className = .bit) : Agps.equals t s = true ↔
    t.ID = s.ID ∧ (t.ID = inaddrNone →
      beforeZero t.mIPv6Addr.toList = beforeZero s.mIPv6Addr.toList) := by
  have hcmp : strncmp t.mIPv6Addr.toList s.mIPv6Addr.toList 16 = 0 ↔
      beforeZero t.mIPv6Addr.toList = beforeZero s.mIPv6Addr.toList :=
    strncmp_eq_zero_iff (Vector.length_toList) (Vector.length_toList)
  change Subscriber.equals t s = true ↔ _
  rw [equals_eq, if_pos ht, Bool.and_eq_true, Bool.or_eq_true, beq_iff_eq, bne_iff_ne, beq_iff_eq,
    eq_comm (a := (0 : ℤ)), hcmp]
  refine and_congr_right fun _ => ?_
  by_cases hnone : t.ID = inaddrNone
  · simp [hnone]
  · simp [hnone, Ne.symm hnone]

/-- Equal subscribers have the same id, whatever their class. -/
theorem ID_eq_of_equals {t s : Subscriber} (h : Agps.equals t s = true) : t.ID = s.ID := by
  change Subscriber.equals t s = true at h
  rw [equals_eq] at h
  split at h
  · exact beq_iff_eq.mp (Bool.and_eq_true_iff.mp h).1
  · exact beq_iff_eq.mp h

section ApartFrom

variable {l : List Subscriber} {s t u : Subscriber}

/-- Whoever is found for a caller that is told apart is of its class, and is the caller
if that is a BIT client. -/
theorem ApartFrom.found (h : s.ApartFrom l) (ht : t ∈ l) (hts : Agps.equals t s = true) :
    t.className = s.className ∧ (s.className = .bit → t.IsClient s) := by
  have hid := ID_eq_of_equals hts
  obtain ⟨hclass, hip⟩ := h t ht hid
  refine ⟨hclass, fun hbit => ⟨hclass.trans hbit, hid, fun hnone => ?_⟩⟩
  obtain ⟨-, hzero⟩ := (equals_bit_iff (hclass.trans hbit)).mp hts
  exact hip hbit hnone (hzero (hid.trans hnone))

/-- And so is whoever equals the one that was found. -/
theorem ApartFrom.found_equals (h : s.ApartFrom l) (ht : t ∈ l) (hts : Agps.equals t s = true)
    (hu : u ∈ l) (hut : Agps.equals u t = true) :
    u.className = s.className ∧ (s.className = .bit → u.IsClient s) := by
  obtain ⟨-, hclient⟩ := h.found ht hts
  have hid : u.ID = s.ID := (ID_eq_of_equals hut).trans (ID_eq_of_equals hts)
  obtain ⟨hclass, -⟩ := h u hu hid
  refine ⟨hclass, fun hbit => ?_⟩
  obtain ⟨-, -, hip⟩ := hclient hbit
  -- `t` has the caller's address, so `u` equals the caller, too
  have hus : Agps.equals u s = true := by
    obtain ⟨-, hzero⟩ := (equals_bit_iff (hclass.trans hbit)).mp hut
    refine (equals_bit_iff (hclass.trans hbit)).mpr ⟨hid, fun hnone => ?_⟩
    rw [hzero hnone, hip (hid ▸ hnone)]
  exact (h.found hu hus).2 hbit

end ApartFrom

end Subscriber

/-! ## The list after a subscribe and after an unsubscribe -/

namespace AgpsStateMachine

variable {σ W : Type} [SubscriberOps σ]

/-- A subscribe adds the subscriber, whatever the state. -/
theorem mSubscribers_dispatch_subscribe (vt : Virtuals σ W) (sm : AgpsStateMachine σ W) (s : σ) :
    (sm.dispatch vt (.rsrcSubscribe s)).mSubscribers = (sm.addSubscriber s).mSubscribers := by
  unfold dispatch
  rcases sm.mStatePtr with _ | _ | _ | _
  · rfl
  · rfl
  · exact mSubscribers_addSubscriber_world _ s
  · rfl

/-- An unsubscribe leaves the list alone or closes the subscriber. -/
theorem mSubscribers_dispatch_unsubscribe (vt : Virtuals σ W) (sm : AgpsStateMachine σ W)
    (position : ℕ) : (sm.dispatch vt (.rsrcUnsubscribe position)).mSubscribers = sm.mSubscribers ∨
      (sm.dispatch vt (.rsrcUnsubscribe position)).mSubscribers =
        (sm.closeSubscriber vt position).mSubscribers := by
  unfold dispatch
  rcases sm.mStatePtr with _ | _ | _ | _
  · left
    simp only [releasedOnRsrcEvent]
    split <;> rfl
  · right
    simp [pendingOnRsrcEvent]
  · right
    simp [acquiredOnRsrcEvent]
  · exact Or.inr rfl

/-- What an unsubscribe call does to the list: nothing, or it closes a subscriber that
equals the caller's. -/
theorem mSubscribers_unsubscribeRsrc (vt : Virtuals σ W) (sm : AgpsStateMachine σ W) (s : σ) :
    (sm.unsubscribeRsrc vt s).2.mSubscribers = sm.mSubscribers ∨
    ∃ i t, sm.mSubscribers[i]? = some t ∧ equals t s = true ∧
      (waitForCloseComplete t = true ∧ (sm.unsubscribeRsrc vt s).2.mSubscribers =
          sm.mSubscribers.set i (setInactive t) ∨
        waitForCloseComplete t = false ∧ (sm.unsubscribeRsrc vt s).2.mSubscribers =
          sm.mSubscribers.filter fun u => !equals u t) := by
  unfold unsubscribeRsrc
  rcases hs : search (.patternTo s) sm.mSubscribers with _ | ⟨i, t⟩
  · exact Or.inl rfl
  · obtain ⟨hi, hts⟩ := search_eq_some hs
    rcases mSubscribers_dispatch_unsubscribe vt sm i with hsame | hclose
    · exact Or.inl hsame
    · rcases closeSubscriber_cases vt sm i with he | ⟨t', hi', hlist⟩
      · exact Or.inl (hclose.trans he)
      · obtain rfl : t = t' := Option.some.inj (hi.symm.trans hi')
        refine Or.inr ⟨i, t, hi, by simpa using hts, ?_⟩
        simpa only [hclose] using hlist

end AgpsStateMachine

/-! ## Calls of clients that are told apart -/

/-- The subscriber that a call passes is told apart from everyone listed. -/
def Call.ToldApart (l : List Subscriber) : Call → Prop
  | .subscribeRsrc s | .unsubscribeRsrc s => s.ApartFrom l
  | _ => True

/-- The calls that may end the subscription of a BIT client: its own release, and the end
of the resource for everyone. -/
def Call.Ends (s : Subscriber) : Call → Prop
  | .unsubscribeRsrc u => u.IsClient s
  | .onRsrcEvent .rsrcReleased | .onRsrcEvent .rsrcDenied | .dropAllSubscribers => True
  | _ => False

namespace BaseMachine

/-- The client is listed. -/
def Lists (sm : BaseMachine) (s : Subscriber) : Prop := ∃ t ∈ sm.mSubscribers, t.IsClient s

/-- What a release removes: subscribers that are the client `s`. -/
def RemovesOnly (s : Subscriber) (sm sm' : BaseMachine) : Prop :=
  ∃ p : Subscriber → Bool, sm'.mSubscribers = sm.mSubscribers.filter p ∧
    ∀ t ∈ sm.mSubscribers, p t = false → t.IsClient s

variable {sm : BaseMachine} {s u : Subscriber}

/-- A release by a client that is told apart removes that client only. -/
theorem removesOnly_unsubscribe (hbit : s.className = .bit) (h : s.ApartFrom sm.mSubscribers) :
    RemovesOnly s sm (sm.call (.unsubscribeRsrc s)) := by
  have hall : RemovesOnly s sm sm := ⟨fun _ => true, (List.filter_true _).symm, nofun⟩
  rcases AgpsStateMachine.mSubscribers_unsubscribeRsrc virtuals sm s with
    he | ⟨i, t, hi, hts, ⟨hwait, -⟩ | ⟨-, he⟩⟩
  · obtain ⟨p, hp, hclient⟩ := hall
    exact ⟨p, he.trans hp, hclient⟩
  · -- a BIT subscriber waits for nothing
    rw [Subscriber.waitForCloseComplete_eq,
      (h.found (List.mem_of_getElem? hi) hts).1.trans hbit] at hwait
    cases hwait
  · refine ⟨_, he, fun u hu hut => ?_⟩
    have hut : equals u t = true := by simpa using hut
    exact (h.found_equals (List.mem_of_getElem? hi) hts hu hut).2 hbit

/-- A subscribe that reaches the state object lists the client. -/
theorem lists_subscribe (hbit : s.className = .bit) (h : s.ApartFrom sm.mSubscribers)
    (haccepted : (raises sm (.subscribeRsrc s)).isSome) : Lists (sm.call (.subscribeRsrc s)) s := by
  have hraises : raises sm (.subscribeRsrc s) = some (.rsrcSubscribe s) := by
    simp only [raises] at haccepted ⊢
    split
    · next hsingle => simp [hsingle] at haccepted
    · rfl
  have hlist : (sm.call (.subscribeRsrc s)).mSubscribers = (sm.addSubscriber s).mSubscribers := by
    rw [call_of_raises hraises, AgpsStateMachine.mSubscribers_dispatch_subscribe]
  rw [Lists, hlist]
  rcases AgpsStateMachine.addSubscriber_cases sm s with ⟨⟨t, ht, hts⟩, he⟩ | ⟨-, he⟩ <;> rw [he]
  · exact ⟨t, ht, (h.found ht hts).2 hbit⟩
  · refine ⟨clone s, List.mem_cons_self, ?_⟩
    exact ⟨(Subscriber.className_clone s).trans hbit, Subscriber.ID_clone s,
      fun _ => Subscriber.mIPv6Addr_clone s⟩

/-- A client stays listed while others subscribe. -/
theorem lists_subscribe_other (hlists : Lists sm s) : Lists (sm.call (.subscribeRsrc u)) s := by
  obtain ⟨t, ht, hclient⟩ := hlists
  rcases hr : raises sm (.subscribeRsrc u) with _ | event
  · exact ⟨t, (call_of_raises_none hr).2 nofun ▸ ht, hclient⟩
  · have hevent : event = .rsrcSubscribe u := by
      simp only [raises] at hr
      split at hr
      · cases hr
      · exact (Option.some.inj hr).symm
    refine ⟨t, ?_, hclient⟩
    rw [call_of_raises hr, hevent, AgpsStateMachine.mSubscribers_dispatch_subscribe]
    exact AgpsStateMachine.mem_addSubscriber ht

/-- A client stays listed while others that are told apart unsubscribe. -/
theorem lists_unsubscribe_other (h : u.ApartFrom sm.mSubscribers) (hother : ¬ u.IsClient s)
    (hlists : Lists sm s) : Lists (sm.call (.unsubscribeRsrc u)) s := by
  obtain ⟨t, ht, hclient⟩ := hlists
  -- the listed client is neither the one that was found nor its equal
  have hnot (hclass : t.className = u.className) (hbit : u.className = .bit → t.IsClient u) :
      False := by
    have hu := hclass.symm.trans hclient.1
    have hsame := (hbit hu).sameAddress hclient
    exact hother ⟨hu, hsame⟩
  rcases AgpsStateMachine.mSubscribers_unsubscribeRsrc virtuals sm u with
    he | ⟨i, v, hi, hvu, ⟨hwait, he⟩ | ⟨-, he⟩⟩
  · exact ⟨t, he.symm ▸ ht, hclient⟩
  · have hne : t ≠ v := by
      rintro rfl
      exact hnot (h.found ht hvu).1 (h.found ht hvu).2
    obtain ⟨j, hj⟩ := List.getElem?_of_mem ht
    have hij : i ≠ j := by
      rintro rfl
      exact hne (Option.some.inj (hj.symm.trans hi))
    refine ⟨t, he.symm ▸ List.mem_of_getElem? (i := j) ?_, hclient⟩
    rw [List.getElem?_set_ne hij, hj]
  · refine ⟨t, he.symm ▸ List.mem_filter.mpr ⟨ht, ?_⟩, hclient⟩
    rw [Bool.not_eq_true', Bool.eq_false_iff]
    intro htv
    have hfound := h.found_equals (List.mem_of_getElem? hi) hvu ht htv
    exact hnot hfound.1 hfound.2

/-- The event of a grant leaves the list alone. -/
theorem mSubscribers_granted (sm : BaseMachine) :
    (sm.call (.onRsrcEvent .rsrcGranted)).mSubscribers = sm.mSubscribers := by
  simp only [call, AgpsStateMachine.onRsrcEvent, AgpsStateMachine.dispatch]
  rcases sm.mStatePtr with _ | _ | _ | _
  · rfl
  · exact AgpsStateMachine.mSubscribers_notifySubscribers_granted
  · rfl
  · rfl

/-- A client stays listed until a call ends its subscription. -/
theorem lists_call {c : Call} (hc : c.ToldApart sm.mSubscribers) (hends : ¬ c.Ends s)
    (hlists : Lists sm s) : Lists (sm.call c) s := by
  cases c with
  | subscribeRsrc u => exact lists_subscribe_other hlists
  | unsubscribeRsrc u => exact lists_unsubscribe_other hc hends hlists
  | onRsrcEvent event =>
    cases event with
    | rsrcGranted =>
      rw [Lists, mSubscribers_granted]
      exact hlists
    | rsrcReleased | rsrcDenied => exact absurd trivial hends
    | rsrcSubscribe | rsrcUnsubscribe | rsrcStatusMax => exact hlists
  | setAPN | setBearer => exact hlists
  | dropAllSubscribers => exact absurd trivial hends

/-! ## Runs -/

/-- A step is the call on the machine, as far as the list goes. -/
theorem step_list {sm sm' : BaseMachine} {c : Call} {out : List Output}
    (hs : machine.step sm c = some (sm', out)) :
    sm'.mSubscribers = (call { sm with world := [] } c).mSubscribers := by
  obtain ⟨rfl, -⟩ := Prod.mk.inj (Option.some.inj hs)
  rfl

/-- In a history the client subscribed, was let in, and nothing ended its subscription
since. -/
def Subscribed (h : List (Event BaseMachine Call Output)) (s : Subscriber) : Prop :=
  ∃ h₁ e h₂, h = h₁ ++ e :: h₂ ∧ e.label = .subscribeRsrc s ∧
    (raises e.pre e.label).isSome ∧ ∀ e' ∈ h₂, ¬ e'.label.Ends s

variable {type : ℤ} {single : Bool} {h : List (Event BaseMachine Call Output)}

/-- A subscribed client is listed at the end of a run of clients that are told apart. -/
theorem lists_of_subscribed (hrun : Run machine (init type single) h sm)
    (hapart : ∀ e ∈ h, e.label.ToldApart e.pre.mSubscribers) (hbit : s.className = .bit)
    (hsub : Subscribed h s) : Lists sm s := by
  obtain ⟨h₁, e, h₂, rfl, hlabel, haccepted, hends⟩ := hsub
  obtain ⟨-, hstep, hrest⟩ := hrun.event
  have he := hapart e (List.mem_append_right _ List.mem_cons_self)
  -- from the state after the subscribe, by the steps since
  refine Run.invariant_of (fun sm => Lists sm s)
    (fun sm c => c.ToldApart sm.mSubscribers ∧ ¬ c.Ends s) ?_ ?_ hrest ?_
  · rw [hlabel] at hstep he haccepted
    rw [Lists, step_list hstep]
    exact lists_subscribe hbit he haccepted
  · rintro sm c sm' out hlists ⟨hc, hnot⟩ hs
    rw [Lists, step_list hs]
    have hbefore : Lists { sm with world := [] } s := hlists
    exact lists_call hc hnot hbefore
  · intro e' he'
    exact ⟨hapart e' (List.mem_append_right _ (List.mem_cons_of_mem _ he')), hends e' he'⟩

/-- **BIT clients are told apart.** In every run all of whose callers are told apart from
the subscribers listed at that moment: a release from a BIT client removes no one but
that client, and two subscribed BIT clients with different addresses are listed as two
subscribers. -/
theorem bit_clients_told_apart (hrun : Run machine (init type single) h sm)
    (hapart : ∀ e ∈ h, e.label.ToldApart e.pre.mSubscribers) :
    (∀ e ∈ h, ∀ s, s.className = .bit → e.label = .unsubscribeRsrc s →
      RemovesOnly s e.pre e.post) ∧
    ∀ s₁ s₂ : Subscriber, s₁.className = .bit → s₂.className = .bit → ¬ s₁.SameAddress s₂ →
      Subscribed h s₁ → Subscribed h s₂ →
      ∃ (i j : ℕ) (t₁ t₂ : Subscriber), i ≠ j ∧ sm.mSubscribers[i]? = some t₁ ∧ t₁.IsClient s₁ ∧
        sm.mSubscribers[j]? = some t₂ ∧ t₂.IsClient s₂ := by
  refine ⟨?_, ?_⟩
  · intro e he s hbit hlabel
    obtain ⟨h₁, h₂, rfl⟩ := List.append_of_mem he
    obtain ⟨-, hstep, -⟩ := hrun.event
    have hs := hapart e he
    rw [hlabel] at hs hstep
    rw [RemovesOnly, step_list hstep]
    have hbefore : s.ApartFrom ({ e.pre with world := [] } : BaseMachine).mSubscribers := hs
    exact removesOnly_unsubscribe hbit hbefore
  · intro s₁ s₂ hbit₁ hbit₂ hdiff hsub₁ hsub₂
    obtain ⟨t₁, ht₁, hclient₁⟩ := lists_of_subscribed hrun hapart hbit₁ hsub₁
    obtain ⟨t₂, ht₂, hclient₂⟩ := lists_of_subscribed hrun hapart hbit₂ hsub₂
    obtain ⟨i, hi⟩ := List.getElem?_of_mem ht₁
    obtain ⟨j, hj⟩ := List.getElem?_of_mem ht₂
    refine ⟨i, j, t₁, t₂, ?_, hi, hclient₁, hj, hclient₂⟩
    rintro rfl
    obtain rfl : t₁ = t₂ := Option.some.inj (hi.symm.trans hj)
    exact hdiff (hclient₁.sameAddress hclient₂)

/-- The client without an IPv4 address that has this IPv6 address. -/
def ipv6Client (address : Vector UInt8 16) : Subscriber := ⟨inaddrNone, address, .bitSubscriber⟩

/-- The event of a call. -/
def eventOf (sm : BaseMachine) (c : Call) : Event BaseMachine Call Output where
  pre := sm
  label := c
  out := (call { sm with world := [] } c).world
  post := { call { sm with world := [] } c with world := [] }

theorem run_eventOf (sm : BaseMachine) (c : Call) :
    Run machine sm [eventOf sm c] (eventOf sm c).post :=
  Run.single rfl

/-- Two addresses that differ in their first byte: both clients are listed. -/
theorem two_clients_told_apart : ∃ sm,
    (∃ h, Run machine (init 1 false) h sm ∧ h.length = 2) ∧
    ∃ (i j : ℕ) (t₁ t₂ : Subscriber), i ≠ j ∧
      sm.mSubscribers[i]? = some t₁ ∧ t₁.IsClient (ipv6Client (Vector.replicate 16 1)) ∧
      sm.mSubscribers[j]? = some t₂ ∧ t₂.IsClient (ipv6Client (Vector.replicate 16 2)) := by
  let a := ipv6Client (Vector.replicate 16 1)
  let b := ipv6Client (Vector.replicate 16 2)
  let e₁ := eventOf (init 1 false) (.subscribeRsrc a)
  let e₂ := eventOf e₁.post (.subscribeRsrc b)
  have hrun : Run machine (init 1 false) [e₁, e₂] e₂.post :=
    (run_eventOf _ _).append (run_eventOf _ _)
  have hapart : ∀ e ∈ [e₁, e₂], e.label.ToldApart e.pre.mSubscribers := by
    rintro e he
    rcases List.mem_pair.mp he with rfl | rfl
    · exact (by decide : a.ApartFrom [])
    · exact (by decide : b.ApartFrom [a])
  have hends : ∀ e ∈ [e₂], ¬ e.label.Ends a := by
    rintro e he
    rw [List.mem_singleton.mp he]
    exact id
  have ha : Subscribed [e₁, e₂] a := ⟨[], e₁, [e₂], rfl, rfl, (by decide), hends⟩
  have hb : Subscribed [e₁, e₂] b :=
    ⟨[e₁], e₂, [], rfl, rfl, (by decide), fun _ he => absurd he List.not_mem_nil⟩
  have hdiff : ¬ a.SameAddress b := by decide
  have h := (bit_clients_told_apart hrun hapart).2 a b rfl rfl hdiff ha hb
  exact ⟨e₂.post, ⟨[e₁, e₂], hrun, rfl⟩, h⟩

/-- `fe80::1` and `fe80::2`: the second client is not listed, and its release removes the
first one. -/
theorem release_removes_other_client : ∃ h e,
    Run machine (init 1 false) (h ++ [e]) e.post ∧ ∃ a b : Subscriber,
      a.className = .bit ∧ b.className = .bit ∧ ¬ a.SameAddress b ∧
      h.map Event.label = [.subscribeRsrc a, .subscribeRsrc b] ∧
      e.label = .unsubscribeRsrc b ∧ e.pre.mSubscribers = [a] ∧ e.post.mSubscribers = [] := by
  let a := ipv6Client #v[0xfe, 0x80, 0, 0, 0, 0, 0, 0, 0, 0, 0, 0, 0, 0, 0, 1]
  let b := ipv6Client #v[0xfe, 0x80, 0, 0, 0, 0, 0, 0, 0, 0, 0, 0, 0, 0, 0, 2]
  obtain ⟨h, e, hrun, hlabels, hlabel, hcheck⟩ := machine.exists_run_last (init 1 false)
    [.subscribeRsrc a, .subscribeRsrc b] (.unsubscribeRsrc b)
    (fun _ e => decide (e.pre.mSubscribers = [a] ∧ e.post.mSubscribers = [])) (by decide)
  exact ⟨h, e, hrun, a, b, rfl, rfl, by decide, hlabels, hlabel, of_decide_eq_true hcheck⟩

end BaseMachine

end OppoA37.Agps
