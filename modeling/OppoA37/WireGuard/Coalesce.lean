import OppoA37.WireGuard.Device

/-!
# How the kernel tells of a device, after `ipc-linux.h`

A peer with many addresses does not fit into a message of the kernel. It comes in fragments then,
one right after another, and `coalesce_peers` joins what has the same key. A list of addresses has
a pointer to its first one and one to its last one; to join is to go on at the last one.

* `foldlM_merge` says what becomes of the fragments of one peer;
* `coalescePeers_iff` says of all peers when joining works, and what it gives.
-/

namespace OppoA37.WireGuard

variable {K A E : Type}

/-! ## The code -/

/-- A peer of the list, with whether `last_allowedip` points anywhere. -/
structure Parsed (K A E : Type) where
  peer : Peer K A E
  last : Bool

/-- A peer as `parse_peer` and `parse_allowedips` leave it. -/
def parsed (p : Peer K A E) : Parsed K A E := ⟨p, !p.allowedips.isEmpty⟩

/-- The next peer is joined to this one; `none` if a null pointer is followed for it. -/
def merge (p next : Parsed K A E) : Option (Parsed K A E) :=
  if p.peer.allowedips.isEmpty then
    some ⟨{ p.peer with allowedips := next.peer.allowedips }, next.last⟩
  else if p.last then
    some ⟨{ p.peer with allowedips := p.peer.allowedips ++ next.peer.allowedips }, next.last⟩
  else none

/-- The loop, which is at a peer. -/
def coalesceFrom [DecidableEq K] (p : Parsed K A E) : List (Parsed K A E) →
    Option (List (Parsed K A E))
  | [] => some [p]
  | next :: rest =>
    if p.peer.publicKey ≠ next.peer.publicKey then (coalesceFrom next rest).map (p :: ·)
    else (merge p next).bind fun p => coalesceFrom p rest

/-- `coalesce_peers` -/
def coalescePeers [DecidableEq K] : List (Parsed K A E) → Option (List (Parsed K A E))
  | [] => some []
  | p :: rest => coalesceFrom p rest

/-! ## Fragments of one peer -/

/-- To join takes a place to go on at. -/
theorem merge_eq_some {p next r : Parsed K A E} : merge p next = some r ↔
    (p.peer.allowedips = [] ∨ p.last = true) ∧
      r = ⟨{ p.peer with allowedips := p.peer.allowedips ++ next.peer.allowedips }, next.last⟩ := by
  rw [merge]
  split_ifs with hempty hlast
  · have hnil := List.isEmpty_iff.mp hempty
    rw [hnil, List.nil_append, Option.some_inj, and_iff_right (Or.inl rfl), eq_comm]
  · rw [Option.some_inj, and_iff_right (Or.inr hlast), eq_comm]
  · have hne : p.peer.allowedips ≠ [] := fun h => hempty (List.isEmpty_iff.mpr h)
    simp [hne, hlast]

/-- What comes of fragments: the first one, with all addresses. -/
def join (p : Peer K A E) (tail : List (Peer K A E)) : Peer K A E :=
  { p with allowedips := (p :: tail).flatMap Peer.allowedips }

/-- But for the last one, no fragment without addresses comes after one that has some. -/
def Joins (p : Peer K A E) (tail : List (Peer K A E)) : Prop :=
  (p :: tail).dropLast.Pairwise fun x y => y.allowedips = [] → x.allowedips = []

/-- The last fragment has addresses. -/
def lastHas (p : Peer K A E) (tail : List (Peer K A E)) : Bool :=
  !((p :: tail).getLast (List.cons_ne_nil p tail)).allowedips.isEmpty

/-- One more fragment can be joined if there is no address yet, or the last one had some. -/
theorem joins_append (p : Peer K A E) (tail : List (Peer K A E)) (n : Peer K A E) :
    Joins p (tail ++ [n]) ↔
      Joins p tail ∧ ((join p tail).allowedips = [] ∨ lastHas p tail = true) := by
  have hne := List.cons_ne_nil p tail
  have hsplit := List.dropLast_append_getLast hne
  have hall : (join p tail).allowedips = [] ↔ ∀ x ∈ p :: tail, x.allowedips = [] :=
    List.flatMap_eq_nil_iff
  have hlast : lastHas p tail = true ↔ ((p :: tail).getLast hne).allowedips ≠ [] := by
    rw [lastHas, Bool.not_eq_true', List.isEmpty_eq_false_iff]
  rw [Joins, ← List.cons_append, List.dropLast_concat, Joins, hall, hlast]
  generalize (p :: tail).getLast hne = last at *
  generalize (p :: tail).dropLast = init at *
  rw [← hsplit, List.pairwise_append]
  refine and_congr_right fun _ => ?_
  constructor
  · rintro ⟨-, h⟩
    by_cases hempty : last.allowedips = []
    · refine Or.inl fun x hx => ?_
      rw [List.mem_append, List.mem_singleton] at hx
      rcases hx with hx | rfl
      · exact h x hx _ (List.mem_singleton_self _) hempty
      · exact hempty
    · exact Or.inr hempty
  · refine fun h => ⟨List.pairwise_singleton _ _, fun x hx y hy hempty => ?_⟩
    rw [List.mem_singleton.mp hy] at hempty
    rcases h with h | h
    · exact h x (List.mem_append_left _ hx)
    · exact absurd hempty h

/-- **The fragments of one peer** are joined, or a null pointer is followed. -/
theorem foldlM_merge (p : Peer K A E) (tail : List (Peer K A E)) (r : Parsed K A E) :
    (tail.map parsed).foldlM merge (parsed p) = some r ↔
      Joins p tail ∧ r = ⟨join p tail, lastHas p tail⟩ := by
  induction tail using List.reverseRecOn generalizing r with
  | nil =>
    have hjoin : join p [] = p := by simp [join]
    rw [hjoin]
    exact ⟨fun h => ⟨List.Pairwise.nil, (Option.some.inj h).symm⟩, fun h => congrArg some h.2.symm⟩
  | append_singleton tail n ih =>
    have hlast : lastHas p (tail ++ [n]) = (parsed n).last := by
      simp [lastHas, parsed]
    have hjoin : join p (tail ++ [n]) = { join p tail with
        allowedips := (join p tail).allowedips ++ n.allowedips } := by
      simp [join]
    have hfold : ((tail ++ [n]).map parsed).foldlM merge (parsed p) =
        ((tail.map parsed).foldlM merge (parsed p)).bind fun q => merge q (parsed n) := by
      rw [List.map_append, List.foldlM_append]
      refine congrArg (Option.bind _) (funext fun q => ?_)
      rw [List.map_singleton, List.foldlM_cons]
      exact bind_pure _
    rw [hfold, Option.bind_eq_some_iff, joins_append, hlast, hjoin]
    constructor
    · rintro ⟨q, hq, hr⟩
      obtain ⟨hjoins, rfl⟩ := (ih q).mp hq
      obtain ⟨hroom, rfl⟩ := merge_eq_some.mp hr
      exact ⟨⟨hjoins, hroom⟩, rfl⟩
    · rintro ⟨⟨hjoins, hroom⟩, rfl⟩
      exact ⟨_, (ih _).mpr ⟨hjoins, rfl⟩, merge_eq_some.mpr ⟨hroom, rfl⟩⟩

/-! ## All peers -/

variable [DecidableEq K]

/-- The fragments of the peer come first. -/
theorem coalesceFrom_append {p : Parsed K A E} {tail rest : List (Parsed K A E)}
    (h : ∀ n ∈ tail, n.peer.publicKey = p.peer.publicKey) :
    coalesceFrom p (tail ++ rest) = (tail.foldlM merge p).bind fun p => coalesceFrom p rest := by
  induction tail generalizing p with
  | nil => rfl
  | cons n tail ih =>
    obtain ⟨hn, htail⟩ := List.forall_mem_cons.mp h
    rw [List.cons_append, coalesceFrom, if_neg (not_not.mpr hn.symm), List.foldlM_cons]
    rcases hmerge : merge p n with _ | q
    · rfl
    · obtain ⟨-, rfl⟩ := merge_eq_some.mp hmerge
      exact ih htail

/-- After the fragments of a peer come those of other ones. -/
theorem coalesceFrom_next {p : Parsed K A E} {groups : List (Peer K A E × List (Peer K A E))}
    (h : ((p.peer.publicKey) :: groups.map fun g => g.1.publicKey).IsChain (· ≠ ·)) :
    coalesceFrom p ((groups.flatMap fun g => g.1 :: g.2).map parsed) =
      (coalescePeers ((groups.flatMap fun g => g.1 :: g.2).map parsed)).map (p :: ·) := by
  cases groups with
  | nil => rfl
  | cons g groups =>
    have hne : p.peer.publicKey ≠ (parsed g.1).peer.publicKey :=
      (List.isChain_cons_cons.mp h).1
    rw [List.flatMap_cons, List.cons_append, List.map_cons, coalesceFrom, if_pos hne, coalescePeers]

/-- **All peers** are joined from their fragments, or a null pointer is followed. -/
theorem coalescePeers_iff (groups : List (Peer K A E × List (Peer K A E)))
    (hkeys : ∀ g ∈ groups, ∀ n ∈ g.2, n.publicKey = g.1.publicKey)
    (hchain : (groups.map fun g => g.1.publicKey).IsChain (· ≠ ·)) (r : List (Peer K A E)) :
    (coalescePeers ((groups.flatMap fun g => g.1 :: g.2).map parsed)).map (List.map Parsed.peer) =
        some r ↔
      (∀ g ∈ groups, Joins g.1 g.2) ∧ r = groups.map fun g => join g.1 g.2 := by
  induction groups generalizing r with
  | nil => simp [coalescePeers, eq_comm]
  | cons g groups ih =>
    obtain ⟨hg, hgroups⟩ := List.forall_mem_cons.mp hkeys
    have htail : ∀ n ∈ g.2.map parsed, n.peer.publicKey = (parsed g.1).peer.publicKey := by
      rw [List.forall_mem_map]
      exact hg
    have hnext : ∀ q : Parsed K A E, q.peer.publicKey = g.1.publicKey →
        coalesceFrom q ((groups.flatMap fun g => g.1 :: g.2).map parsed) =
          (coalescePeers ((groups.flatMap fun g => g.1 :: g.2).map parsed)).map (q :: ·) :=
      fun q hq => coalesceFrom_next (hq ▸ hchain)
    rw [List.flatMap_cons, List.cons_append, List.map_cons, coalescePeers, List.map_append,
      coalesceFrom_append htail, List.forall_mem_cons, List.map_cons, Option.map_eq_some_iff]
    constructor
    · rintro ⟨l, hl, rfl⟩
      obtain ⟨q, hq, hrest⟩ := Option.bind_eq_some_iff.mp hl
      obtain ⟨hjoins, rfl⟩ := (foldlM_merge g.1 g.2 q).mp hq
      rw [hnext _ rfl] at hrest
      obtain ⟨l, hl', rfl⟩ := Option.map_eq_some_iff.mp hrest
      obtain ⟨hall, heq⟩ := (ih hgroups hchain.tail (l.map Parsed.peer)).mp
        (Option.map_eq_some_iff.mpr ⟨l, hl', rfl⟩)
      exact ⟨⟨hjoins, hall⟩, congrArg (join g.1 g.2 :: ·) heq⟩
    · rintro ⟨⟨hjoins, hall⟩, rfl⟩
      obtain ⟨l, hl, heq⟩ := Option.map_eq_some_iff.mp ((ih hgroups hchain.tail _).mpr ⟨hall, rfl⟩)
      refine ⟨⟨join g.1 g.2, lastHas g.1 g.2⟩ :: l, ?_, congrArg (join g.1 g.2 :: ·) heq⟩
      refine Option.bind_eq_some_iff.mpr ⟨_, (foldlM_merge g.1 g.2 _).mpr ⟨hjoins, rfl⟩, ?_⟩
      rw [hnext _ rfl, hl]
      rfl

/-- A peer with these addresses. -/
def fragment (key : ℕ) (ips : List ℕ) : Peer ℕ ℕ ℕ where
  publicKey := key
  presharedKey := 0
  allowedips := ips.map (⟨·, false⟩)

/-- Two peers, the first of which comes in three fragments. -/
theorem coalescePeers_fragments :
    (coalescePeers ([fragment 1 [10], fragment 1 [11], fragment 1 [], fragment 2 []].map
      parsed)).map (List.map Parsed.peer) = some [fragment 1 [10, 11], fragment 2 []] :=
  (coalescePeers_iff [(fragment 1 [10], [fragment 1 [11], fragment 1 []]), (fragment 2 [], [])]
    (by decide) (by decide) _).mpr
    ⟨List.forall_mem_cons.mpr ⟨by simp [Joins, fragment], by simp [Joins]⟩, rfl⟩

end OppoA37.WireGuard
