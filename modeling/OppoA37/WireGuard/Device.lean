import Mathlib

/-!
# What WireGuard does with a configuration

The tools describe the change of a device by a list of peers, after `containers.h`. What the kernel
does with it is written in its header `linux/wireguard.h`: it removes a peer that should not exist
at the end, and adds or updates any other. An address belongs to one peer at most, the one that it
was added to last.

* `peers_setPeers` and `route_setPeers` say what a list of peers that are all different leaves;
* `setPeers_removals` says it of peers that are to be removed.
-/

namespace OppoA37.WireGuard

variable {K A E : Type}

/-- `struct wgallowedip`; `ip` is what it has but for the flags. -/
structure AllowedIp (A : Type) where
  ip : A
  /-- `WGALLOWEDIP_REMOVE_ME` -/
  removeMe : Bool := false

/-- `struct wgpeer`, as far as it is configured. -/
structure Peer (K A E : Type) where
  publicKey : K
  presharedKey : K
  persistentKeepaliveInterval : ℕ := 0
  /-- the address, if its family is set -/
  endpoint : Option E := none
  allowedips : List (AllowedIp A) := []
  /-- `WGPEER_REMOVE_ME` -/
  removeMe : Bool := false
  /-- `WGPEER_REPLACE_ALLOWEDIPS` -/
  replaceAllowedips : Bool := false
  /-- `WGPEER_HAS_PRESHARED_KEY` -/
  hasPresharedKey : Bool := false
  /-- `WGPEER_HAS_PERSISTENT_KEEPALIVE_INTERVAL` -/
  hasPersistentKeepalive : Bool := false

/-- A peer that should exist, and says what all its addresses are. -/
structure Peer.Plain (p : Peer K A E) : Prop where
  keep : p.removeMe = false
  replace : p.replaceAllowedips = true
  ips : ∀ ip ∈ p.allowedips, ip.removeMe = false

/-- The peer has the address. -/
def Peer.Has (p : Peer K A E) (a : A) : Prop := a ∈ p.allowedips.map AllowedIp.ip

instance [DecidableEq A] (p : Peer K A E) (a : A) : Decidable (p.Has a) :=
  inferInstanceAs (Decidable (_ ∈ _))

/-- A peer in the kernel. -/
@[ext]
structure KernelPeer (K E : Type) where
  presharedKey : K
  persistentKeepaliveInterval : ℕ
  endpoint : Option E

/-- The peers of a device in the kernel, and whom an address belongs to. -/
@[ext]
structure Kernel (K A E : Type) where
  peers : K → Option (KernelPeer K E)
  route : A → Option K
  routed : ∀ a key, route a = some key → (peers key).isSome = true

namespace Kernel

variable [DecidableEq K]

/-- A device without peers. -/
def empty : Kernel K A E where
  peers _ := none
  route _ := none
  routed _ _ h := by cases h

/-- A peer is taken out, with its addresses. -/
def drop (key : K) (k : Kernel K A E) : Kernel K A E where
  peers key' := if key' = key then none else k.peers key'
  route a := if k.route a = some key then none else k.route a
  routed a key' h := by
    split_ifs at h with hkey
    have hne : key' ≠ key := by
      rintro rfl
      exact hkey h
    rw [if_neg hne]
    exact k.routed a key' h

theorem route_drop (key : K) (k : Kernel K A E) (a : A) :
    (k.drop key).route a = (k.route a).filter (· ≠ key) := by
  dsimp only [drop]
  rcases k.route a with _ | key'
  · rfl
  · by_cases hkey : key' = key <;> simp [hkey, Option.filter]

/-- The peer that an update makes of another one. -/
def update (p : Peer K A E) (old : KernelPeer K E) : KernelPeer K E where
  presharedKey := if p.hasPresharedKey then p.presharedKey else old.presharedKey
  persistentKeepaliveInterval :=
    if p.hasPersistentKeepalive then p.persistentKeepaliveInterval
    else old.persistentKeepaliveInterval
  endpoint := p.endpoint.or old.endpoint

/-- A peer that is new. -/
def fresh [Zero K] : KernelPeer K E := ⟨0, 0, none⟩

variable [DecidableEq A]

/-- The addresses of a peer, one after another. -/
def addRoutes (key : K) (ips : List (AllowedIp A)) (route : A → Option K) : A → Option K :=
  ips.foldl (fun route ip a =>
    if a = ip.ip then
      if ip.removeMe then (if route a = some key then none else route a) else some key
    else route a) route

/-- No address belongs to a peer that is neither this one nor one that had addresses before. -/
theorem addRoutes_eq_some {key key' : K} {ips : List (AllowedIp A)} {route : A → Option K} {a : A}
    (h : addRoutes key ips route a = some key') : key' = key ∨ route a = some key' := by
  induction ips generalizing route with
  | nil => exact Or.inr h
  | cons ip ips ih =>
    rcases ih h with hkey | hroute
    · exact Or.inl hkey
    · dsimp only at hroute
      split_ifs at hroute with ha hremove hold
      · exact Or.inr hroute
      · exact Or.inl (Option.some.inj hroute).symm
      · exact Or.inr hroute

/-- Addresses that are all added. -/
theorem addRoutes_eq (key : K) {ips : List (AllowedIp A)} (h : ∀ ip ∈ ips, ip.removeMe = false)
    (route : A → Option K) (a : A) : addRoutes key ips route a =
      if a ∈ ips.map AllowedIp.ip then some key else route a := by
  induction ips generalizing route with
  | nil => rfl
  | cons ip ips ih =>
    obtain ⟨hip, hips⟩ := List.forall_mem_cons.mp h
    rw [addRoutes, List.foldl_cons]
    refine (ih hips _).trans ?_
    rw [List.map_cons]
    by_cases ha : a = ip.ip
    · simp [ha, hip]
    · simp [ha]

/-- Keys that are left out one after another. -/
theorem filter_notMem_append (o : Option K) (keys : List K) (key : K) :
    (o.filter (· ∉ keys)).filter (· ≠ key) = o.filter (· ∉ keys ++ [key]) := by
  rcases o with _ | k
  · rfl
  · by_cases heq : k = key
    · subst heq
      by_cases hmem : k ∈ keys <;> simp [Option.filter, hmem]
    · by_cases hmem : k ∈ keys <;> simp [Option.filter, hmem, heq]

variable [Zero K]

/-- One peer of the list. -/
def setPeer (k : Kernel K A E) (p : Peer K A E) : Kernel K A E :=
  if p.removeMe then k.drop p.publicKey
  else
    { peers := fun key =>
        if key = p.publicKey then some (update p ((k.peers key).getD fresh)) else k.peers key
      route := addRoutes p.publicKey p.allowedips
        (if p.replaceAllowedips then (k.drop p.publicKey).route else k.route)
      routed := fun a key h => by
        by_cases hkey : key = p.publicKey
        · rw [if_pos hkey, Option.isSome_some]
        · rw [if_neg hkey]
          rcases addRoutes_eq_some h with heq | hroute
          · exact absurd heq hkey
          · split_ifs at hroute
            · dsimp only [drop] at hroute
              split_ifs at hroute
              exact k.routed a key hroute
            · exact k.routed a key hroute }

/-- The list of peers, one after another. -/
def setPeers (k : Kernel K A E) (l : List (Peer K A E)) : Kernel K A E := l.foldl setPeer k

/-! ## What a list of peers leaves -/

variable {k : Kernel K A E} {p : Peer K A E} {l : List (Peer K A E)}

theorem setPeers_append (l : List (Peer K A E)) (p : Peer K A E) :
    k.setPeers (l ++ [p]) = (k.setPeers l).setPeer p := by
  rw [setPeers, List.foldl_append]
  rfl

/-- An update is made to the peer of the key. -/
theorem peers_setPeer (h : p.removeMe = false) (key : K) : (k.setPeer p).peers key =
    if key = p.publicKey then some (update p ((k.peers key).getD fresh)) else k.peers key := by
  rw [setPeer, if_neg (by simp [h])]

/-- A removal takes the peer out. -/
theorem setPeer_removal (h : p.removeMe = true) : k.setPeer p = k.drop p.publicKey := if_pos h

/-- **Peers that are all different** are each updated once. -/
theorem peers_setPeers (hnodup : (l.map Peer.publicKey).Nodup)
    (hkeep : ∀ p ∈ l, p.removeMe = false) (key : K) : (k.setPeers l).peers key =
      ((l.find? fun p => p.publicKey = key).map fun p =>
        update p ((k.peers key).getD fresh)).or (k.peers key) := by
  induction l generalizing k with
  | nil => rfl
  | cons p l ih =>
    obtain ⟨hnot, hnodup⟩ := List.nodup_cons.mp hnodup
    obtain ⟨hp, hl⟩ := List.forall_mem_cons.mp hkeep
    have hfold : k.setPeers (p :: l) = (k.setPeer p).setPeers l := rfl
    rw [hfold, ih hnodup hl, peers_setPeer hp, List.find?_cons]
    by_cases hkey : p.publicKey = key
    · subst hkey
      have hnone : (l.find? fun q => q.publicKey = p.publicKey) = none := by
        rw [List.find?_eq_none]
        intro q hq heq
        exact hnot (List.mem_map.mpr ⟨q, hq, of_decide_eq_true heq⟩)
      simp [hnone]
    · simp [hkey, Ne.symm hkey]

/-- The addresses are added, after those from before were taken away, or not. -/
theorem addRoutes_setPeer (h : p.removeMe = false) : (k.setPeer p).route =
    addRoutes p.publicKey p.allowedips
      (if p.replaceAllowedips then (k.drop p.publicKey).route else k.route) := by
  rw [setPeer, if_neg (by simp [h])]

/-- An address of the peer is its own from now on, and no other one. -/
theorem route_setPeer (h : p.Plain) (a : A) : (k.setPeer p).route a =
    if p.Has a then some p.publicKey else (k.route a).filter (· ≠ p.publicKey) := by
  rw [addRoutes_setPeer h.keep, if_pos h.replace, addRoutes_eq _ h.ips, route_drop]
  rfl

/-- **Peers that are all different** leave an address to the last of them that has it. -/
theorem route_setPeers (hnodup : (l.map Peer.publicKey).Nodup) (hplain : ∀ p ∈ l, p.Plain)
    (a : A) : (k.setPeers l).route a =
      ((l.reverse.find? fun p => p.Has a).map Peer.publicKey).or
        ((k.route a).filter fun key => key ∉ l.map Peer.publicKey) := by
  induction l using List.reverseRecOn with
  | nil => cases h : k.route a <;> simp [setPeers, h, Option.filter]
  | append_singleton l p ih =>
    rw [List.map_append, List.map_singleton, List.nodup_append] at hnodup
    obtain ⟨hl, -, hne⟩ := hnodup
    rw [List.forall_mem_append, List.forall_mem_singleton] at hplain
    rw [setPeers_append, route_setPeer hplain.2, ih hl hplain.1, List.reverse_append,
      List.reverse_singleton, List.singleton_append, List.find?_cons]
    by_cases ha : p.Has a
    · simp [ha]
    · rw [if_neg ha, decide_eq_false ha]
      dsimp only
      rcases hfind : l.reverse.find? fun p => p.Has a with _ | q
      · rw [hfind, Option.map_none, Option.none_or, Option.none_or, List.map_append,
          List.map_singleton]
        exact filter_notMem_append _ _ _
      · have hq : q.publicKey ≠ p.publicKey := by
          have hmem := List.mem_reverse.mp (List.mem_of_find?_eq_some hfind)
          exact hne _ (List.mem_map_of_mem hmem) _ (List.mem_singleton_self _)
        rw [hfind]
        simp [hq, Option.filter]

/-- **Peers that are to be removed** are removed, with their addresses. -/
theorem setPeers_removals (h : ∀ p ∈ l, p.removeMe = true) :
    (∀ key, (k.setPeers l).peers key = if key ∈ l.map Peer.publicKey then none else k.peers key) ∧
      ∀ a, (k.setPeers l).route a =
        (k.route a).filter fun key => key ∉ l.map Peer.publicKey := by
  induction l using List.reverseRecOn with
  | nil =>
    refine ⟨fun _ => rfl, fun a => ?_⟩
    cases h : k.route a <;> simp [setPeers, h, Option.filter]
  | append_singleton l p ih =>
    rw [List.forall_mem_append, List.forall_mem_singleton] at h
    obtain ⟨hpeers, hroute⟩ := ih h.1
    rw [setPeers_append, setPeer_removal h.2]
    refine ⟨fun key => ?_, fun a => ?_⟩
    · dsimp only [drop]
      rw [hpeers]
      by_cases hkey : key ∈ l.map Peer.publicKey <;> by_cases hp : key = p.publicKey <;>
        simp [hkey, hp]
    · rw [route_drop, hroute, List.map_append, List.map_singleton]
      exact filter_notMem_append _ _ _

end Kernel

end OppoA37.WireGuard
