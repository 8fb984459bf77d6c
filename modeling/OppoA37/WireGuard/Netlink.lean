import OppoA37.Lib.Loop
import OppoA37.WireGuard.SyncConf

/-!
# How the kernel is told of a device, after `ipc-linux.h`

A message to the kernel has to fit into a buffer. `kernel_set_device` puts as much of a device into
a message as there is room for, and goes on with the next message where it had to stop, which may
be amid the addresses of a peer. The header `linux/wireguard.h` says what the kernel makes of such
a sequence.

* `fragments` says what cutting a peer in two does;
* `putPeers_spec` says what one message leaves to be done;
* `kernelSetDevice_eq` says that the messages have the effect of one that is as long as needed.
-/

namespace OppoA37.WireGuard

open Loop

variable {K A E : Type}

/-! ## Attributes -/

/-- `MNL_ALIGN` -/
def align (len : ℕ) : ℕ := (len + 3) / 4 * 4

/-- `mnl_attr_put_check`: the length of the message after it, if there is room. -/
def putCheck (buflen len size : ℕ) : Option ℕ :=
  if len + 4 + align size > buflen then none else some (len + 4 + align size)

/-- `mnl_attr_nest_start_check` -/
def nestStartCheck (buflen len : ℕ) : Option ℕ :=
  if len + 4 > buflen then none else some (len + 4)

/-- Whether an address is of the longer family, `AF_INET6`. -/
structure Families (A E : Type) where
  ip6 : A → Bool
  endpoint6 : E → Bool

/-- What a message says first, apart from the flags. -/
structure Options where
  /-- `strlen(dev->name)` -/
  nameLen : ℕ
  /-- `IFNAMSIZ` -/
  nameLen_lt : nameLen < 16
  /-- `WGDEVICE_HAS_PRIVATE_KEY` -/
  hasPrivateKey : Bool
  /-- `WGDEVICE_HAS_LISTEN_PORT` -/
  hasListenPort : Bool
  /-- `WGDEVICE_HAS_FWMARK` -/
  hasFwmark : Bool

/-- The length of a message without peers. -/
def Options.headLen (o : Options) (first replacePeers : Bool) : ℕ :=
  20 + (4 + align (o.nameLen + 1)) +
    if first then
      (if o.hasPrivateKey then 4 + align 32 else 0) + (if o.hasListenPort then 4 + align 2 else 0) +
        (if o.hasFwmark then 4 + align 4 else 0) + if replacePeers then 4 + align 4 else 0
    else 0

/-! ## The code -/

section

variable (families : Families A E) (buflen : ℕ)

/-- An attribute that is put only sometimes. -/
def putCheckIf (c : Bool) (len size : ℕ) : Option ℕ :=
  if c then putCheck buflen len size else some len

/-- What is said of a peer only the first time. -/
def putFresh (len : ℕ) (p : Peer K A E) : Option ℕ := do
  let len ← putCheckIf buflen p.hasPresharedKey len 32
  let len ← p.endpoint.elim (some len) fun e =>
    putCheck buflen len (if families.endpoint6 e then 28 else 16)
  putCheckIf buflen p.hasPersistentKeepalive len 2

/-- A peer but for its addresses; `fresh` if it was in no message yet. -/
def putPeer (len : ℕ) (p : Peer K A E) (fresh : Bool) : Option ℕ := do
  let len ← nestStartCheck buflen len
  let len ← putCheck buflen len 32
  let len ← (if fresh then putFresh families buflen len p else some len)
  putCheckIf buflen (p.removeMe || fresh && p.replaceAllowedips) len 4

/-- An address. -/
def putAllowedIp (len : ℕ) (ip : AllowedIp A) : Option ℕ := do
  let len ← nestStartCheck buflen len
  let len ← putCheck buflen len 2
  let len ← putCheck buflen len (if families.ip6 ip.ip then 16 else 4)
  let len ← putCheck buflen len 1
  putCheckIf buflen ip.removeMe len 4

/-- The addresses there is room for, the others, and the length of the message. One that is cut
short is taken back. -/
def putAllowedIps : ℕ → List (AllowedIp A) → List (AllowedIp A) × List (AllowedIp A) × ℕ
  | len, [] => ([], [], len)
  | len, ip :: ips =>
    match putAllowedIp families buflen len ip with
    | none => ([], ip :: ips, len)
    | some len =>
      let (taken, rest, len) := putAllowedIps len ips
      (ip :: taken, rest, len)

/-- What the message says of a peer. Only the first one that names it says more than its key. -/
def wire [Zero K] (p : Peer K A E) (fresh : Bool) (ips : List (AllowedIp A)) : Peer K A E :=
  if fresh then { p with allowedips := ips }
  else
    { publicKey := p.publicKey
      presharedKey := 0
      allowedips := ips
      removeMe := p.removeMe }

/-- The addresses of a peer that are left. -/
def todo (p : Peer K A E) (ips : List (AllowedIp A)) : List (AllowedIp A) :=
  if ips.isEmpty then p.allowedips else ips

/-- What was put into a message, and where the next one has to go on: `peer` with those that follow
it, and `allowedip` with those that follow it. -/
structure Put (K A E : Type) where
  put : List (Peer K A E)
  peers : List (Peer K A E)
  ips : List (AllowedIp A)
  len : ℕ

/-- The peers of a message. -/
def putPeers [Zero K] : ℕ → List (Peer K A E) → List (AllowedIp A) → Put K A E
  | len, [], _ => ⟨[], [], [], len⟩
  | len, p :: peers, ips =>
    let fresh := ips.isEmpty
    match putPeer families buflen len p fresh with
    | none => ⟨[], p :: peers, ips, len⟩
    | some len =>
      if p.allowedips.isEmpty then
        let r := putPeers len peers []
        { r with put := wire p fresh [] :: r.put }
      else
        let ips := todo p ips
        match nestStartCheck buflen len with
        | none => ⟨[wire p fresh []], p :: peers, ips, len⟩
        | some len =>
          match putAllowedIps families buflen len ips with
          | (taken, [], len) =>
            let r := putPeers len peers []
            { r with put := wire p fresh taken :: r.put }
          | (taken, rest, len) => ⟨[wire p fresh taken], p :: peers, rest, len⟩

/-- A message, and its length. -/
structure Message (K A E : Type) where
  device : Device K A E
  len : ℕ

/-- Where the loop is. -/
structure Cursor (K A E : Type) where
  /-- `peer` is not set yet -/
  first : Bool := true
  peers : List (Peer K A E)
  ips : List (AllowedIp A) := []
  sent : List (Message K A E) := []

/-- A message is put together and sent. The kernel takes it. -/
def sendTurn [Zero K] (o : Options) (dev : Device K A E) (s : Cursor K A E) :
    Cursor K A E ⊕ List (Message K A E) :=
  let replacePeers := s.first && dev.replacePeers
  let len := o.headLen s.first dev.replacePeers
  if dev.peers.isEmpty then .inr (s.sent ++ [⟨⟨replacePeers, []⟩, len⟩])
  else
    let r := putPeers families buflen (len + 4) s.peers s.ips
    let sent := s.sent ++ [⟨⟨replacePeers, r.put⟩, r.len⟩]
    if r.peers.isEmpty then .inr sent
    else .inl { first := false, peers := r.peers, ips := r.ips, sent := sent }

/-- `kernel_set_device`: the messages it sends, if they are no more than `turns`. -/
def kernelSetDevice [Zero K] (o : Options) (dev : Device K A E) (turns : ℕ) :
    Option (List (Message K A E)) :=
  run (sendTurn families buflen o dev) turns { peers := dev.peers }

end

/-! ## Room in a message -/

/-- Something that is put into a message goes not beyond the buffer, and goes in if there is room
for `n` bytes. -/
def Adds (buflen n : ℕ) (f : ℕ → Option ℕ) : Prop :=
  ∀ len, (len ≤ buflen → ∀ len', f len = some len' → len' ≤ buflen) ∧
    (len + n ≤ buflen → ∃ len', f len = some len' ∧ len' ≤ len + n)

namespace Adds

variable {buflen m n : ℕ} {f g : ℕ → Option ℕ}

theorem nothing : Adds buflen 0 some := fun len =>
  ⟨fun h _ heq => Option.some.inj heq ▸ h, fun _ => ⟨len, rfl, le_rfl⟩⟩

theorem attr (size : ℕ) : Adds buflen (4 + align size) fun len => putCheck buflen len size := by
  refine fun len => ⟨fun _ len' h => ?_, fun h => ?_⟩
  · dsimp only [putCheck] at h
    split_ifs at h with hroom
    rw [← Option.some.inj h]
    exact Nat.le_of_not_lt hroom
  · exact ⟨_, if_neg (by omega), by omega⟩

theorem nest : Adds buflen 4 (nestStartCheck buflen) := by
  refine fun len => ⟨fun _ len' h => ?_, fun h => ?_⟩
  · rw [nestStartCheck] at h
    split_ifs at h with hroom
    rw [← Option.some.inj h]
    exact Nat.le_of_not_lt hroom
  · exact ⟨_, if_neg (by omega), le_rfl⟩

theorem mono (h : Adds buflen n f) (hle : n ≤ m) : Adds buflen m f := by
  refine fun len => ⟨(h len).1, fun hroom => ?_⟩
  obtain ⟨len', hf, hlen'⟩ := (h len).2 (by omega)
  exact ⟨len', hf, by omega⟩

/-- One thing after another. -/
theorem bind (hf : Adds buflen n f) (hg : Adds buflen m g) :
    Adds buflen (n + m) fun len => f len >>= g := by
  refine fun len => ⟨fun h len' heq => ?_, fun h => ?_⟩
  · obtain ⟨mid, hmid, hlast⟩ := Option.bind_eq_some_iff.mp heq
    exact (hg mid).1 ((hf len).1 h mid hmid) len' hlast
  · obtain ⟨mid, hmid, hle⟩ := (hf len).2 (by omega)
    obtain ⟨len', hlast, hle'⟩ := (hg mid).2 (by omega)
    exact ⟨len', Option.bind_eq_some_iff.mpr ⟨mid, hmid, hlast⟩, by omega⟩

/-- An attribute of one size or another. -/
theorem attrIf (c : Bool) (size size' : ℕ) : Adds buflen (4 + align (max size size')) fun len =>
    putCheck buflen len (if c then size else size') := by
  have hle : align size ≤ align (max size size') := by
    rw [align, align]
    omega
  have hle' : align size' ≤ align (max size size') := by
    rw [align, align]
    omega
  cases c
  · exact (attr size').mono (Nat.add_le_add_left hle' 4)
  · exact (attr size).mono (Nat.add_le_add_left hle 4)

theorem putCheckIf (c : Bool) (size : ℕ) :
    Adds buflen (4 + align size) fun len => putCheckIf buflen c len size := by
  cases c
  · exact nothing.mono (Nat.zero_le _)
  · exact attr size

theorem putFresh (families : Families A E) (p : Peer K A E) :
    Adds buflen 76 fun len => putFresh families buflen len p := by
  have hendpoint : Adds buflen 32 fun len => p.endpoint.elim (some len) fun e =>
      putCheck buflen len (if families.endpoint6 e then 28 else 16) := by
    rcases p.endpoint with _ | e
    · exact nothing.mono (Nat.zero_le _)
    · exact attrIf _ 28 16
  exact (putCheckIf _ 32).bind (hendpoint.bind (putCheckIf _ 2))

/-- A peer takes 124 bytes at most, without its addresses. -/
theorem putPeer (families : Families A E) (p : Peer K A E) (fresh : Bool) :
    Adds buflen 124 fun len => putPeer families buflen len p fresh := by
  have hfresh : Adds buflen 76 fun len =>
      if fresh then WireGuard.putFresh families buflen len p else some len := by
    cases fresh
    · exact nothing.mono (Nat.zero_le _)
    · exact putFresh families p
  exact nest.bind ((attr 32).bind (hfresh.bind (putCheckIf _ 4)))

/-- An address takes 48 bytes at most. -/
theorem putAllowedIp (families : Families A E) (ip : AllowedIp A) :
    Adds buflen 48 fun len => putAllowedIp families buflen len ip :=
  nest.bind ((attr 2).bind ((attrIf _ 16 4).bind ((attr 1).bind (putCheckIf _ 4))))

end Adds

/-- The addresses there is room for come first. -/
theorem putAllowedIps_spec (families : Families A E) (buflen len : ℕ) (ips : List (AllowedIp A)) :
    ips = (putAllowedIps families buflen len ips).1 ++ (putAllowedIps families buflen len ips).2.1 ∧
      (len ≤ buflen → (putAllowedIps families buflen len ips).2.2 ≤ buflen) := by
  induction ips generalizing len with
  | nil => exact ⟨rfl, id⟩
  | cons ip ips ih =>
    rw [putAllowedIps]
    rcases hput : putAllowedIp families buflen len ip with _ | len'
    · exact ⟨rfl, id⟩
    · obtain ⟨htaken, hlen⟩ := ih len'
      refine ⟨congrArg (ip :: ·) htaken, fun h => hlen ?_⟩
      exact (Adds.putAllowedIp families ip len).1 h len' hput

/-! ## Fragments -/

section

variable [Zero K] {p : Peer K A E} {fresh : Bool} {ips : List (AllowedIp A)}

@[simp] theorem wire_publicKey : (wire p fresh ips).publicKey = p.publicKey := by
  cases fresh <;> rfl

@[simp] theorem wire_removeMe : (wire p fresh ips).removeMe = p.removeMe := by
  cases fresh <;> rfl

@[simp] theorem wire_allowedips : (wire p fresh ips).allowedips = ips := by
  cases fresh <;> rfl

variable [DecidableEq K] [DecidableEq A] {k : Kernel K A E}

/-- **A peer that is cut in two** does what it does in one piece. -/
theorem fragments (a b : List (AllowedIp A)) :
    (k.setPeer (wire p fresh a)).setPeer (wire p false b) = k.setPeer (wire p fresh (a ++ b)) := by
  by_cases hremove : p.removeMe = true
  · rw [Kernel.setPeer_removal (by simpa), Kernel.setPeer_removal (by simpa),
      Kernel.setPeer_removal (by simpa)]
    refine Kernel.ext (funext fun key => ?_) (funext fun a => ?_)
    · dsimp only [Kernel.drop]
      rw [wire_publicKey, wire_publicKey, wire_publicKey]
      split_ifs <;> rfl
    · rw [Kernel.route_drop, Kernel.route_drop, Kernel.route_drop, wire_publicKey, wire_publicKey,
        wire_publicKey, Option.filter_filter]
      simp only [Bool.and_self]
  · have hkeep : ∀ fresh ips, (wire p fresh ips).removeMe = false := fun fresh ips => by
      rw [wire_removeMe]
      exact Bool.not_eq_true _ ▸ hremove
    refine Kernel.ext (funext fun key => ?_) (funext fun a' => ?_)
    · rw [Kernel.peers_setPeer (hkeep _ _), Kernel.peers_setPeer (hkeep _ _),
        Kernel.peers_setPeer (hkeep _ _), wire_publicKey, wire_publicKey, wire_publicKey]
      split_ifs with hkey
      · cases fresh <;> rfl
      · rfl
    · rw [Kernel.addRoutes_setPeer (hkeep _ _), Kernel.addRoutes_setPeer (hkeep _ _),
        Kernel.addRoutes_setPeer (hkeep _ _), wire_allowedips, wire_allowedips, wire_allowedips,
        wire_publicKey, wire_publicKey, wire_publicKey, Kernel.addRoutes, Kernel.addRoutes,
        Kernel.addRoutes, List.foldl_append]
      cases fresh <;> rfl

/-- What is left to be told. -/
def remaining : List (Peer K A E) → List (AllowedIp A) → List (Peer K A E)
  | [], _ => []
  | p :: peers, ips => wire p ips.isEmpty (todo p ips) :: peers

/-- How much that is. -/
def work : List (Peer K A E) → List (AllowedIp A) → ℕ
  | [], _ => 0
  | p :: peers, ips =>
    1 + (todo p ips).length + (peers.map fun p => 1 + p.allowedips.length).sum

/-- The addresses that are left are of the first peer. -/
def Amid (peers : List (Peer K A E)) (ips : List (AllowedIp A)) : Prop :=
  ∀ p ∈ peers.head?, ips.length ≤ p.allowedips.length

variable {families : Families A E} {buflen : ℕ}

/-- What a message leaves to be done. -/
structure Puts (buflen len : ℕ) (peers : List (Peer K A E)) (ips : List (AllowedIp A))
    (r : Put K A E) : Prop where
  apply : ∀ k : Kernel K A E,
    (k.setPeers r.put).setPeers (remaining r.peers r.ips) = k.setPeers (remaining peers ips)
  amid : Amid r.peers r.ips
  work : work r.peers r.ips ≤ work peers ips
  len : len ≤ buflen → r.len ≤ buflen

omit [DecidableEq K] [DecidableEq A] in
/-- Nothing is left of the addresses of the first peer. -/
theorem remaining_nil (peers : List (Peer K A E)) : remaining peers [] = peers := by
  cases peers <;> rfl

omit [Zero K] [DecidableEq K] [DecidableEq A] in
theorem work_nil (peers : List (Peer K A E)) :
    work peers [] = (peers.map fun p => 1 + p.allowedips.length).sum := by
  cases peers <;> rfl

omit [Zero K] [DecidableEq K] [DecidableEq A] in
theorem todo_of_ne_nil {rest : List (AllowedIp A)} (h : rest ≠ []) : todo p rest = rest := by
  rw [todo, if_neg (by simpa using h)]

omit [Zero K] [DecidableEq K] [DecidableEq A] in
theorem Amid.todo_le {peers : List (Peer K A E)} (h : Amid (p :: peers) ips) :
    (todo p ips).length ≤ p.allowedips.length := by
  rw [todo]
  split_ifs
  · exact le_rfl
  · exact h p rfl

/-- A peer that is all told. -/
theorem Puts.cons {len len' : ℕ} {peers : List (Peer K A E)} {r : Put K A E}
    (p : Peer K A E) (ips : List (AllowedIp A))
    (h : Puts buflen len' peers [] r) (hlen : len ≤ buflen → len' ≤ buflen) :
    Puts buflen len (p :: peers) ips
      { r with put := wire p ips.isEmpty (todo p ips) :: r.put } where
  apply k := by
    refine (h.apply (k.setPeer (wire p ips.isEmpty (todo p ips)))).trans ?_
    rw [remaining_nil]
    rfl
  amid := h.amid
  work := by
    have hwork := h.work
    rw [work_nil] at hwork
    rw [WireGuard.work]
    exact hwork.trans (Nat.le_add_left _ _)
  len h' := h.len (hlen h')

/-- A peer that is told in part. -/
theorem Puts.stop {len len' : ℕ} {peers : List (Peer K A E)} {taken rest : List (AllowedIp A)}
    (hamid : Amid (p :: peers) ips) (htodo : todo p ips = taken ++ rest) (hrest : rest ≠ [])
    (hlen : len ≤ buflen → len' ≤ buflen) :
    Puts buflen len (p :: peers) ips ⟨[wire p ips.isEmpty taken], p :: peers, rest, len'⟩ where
  apply k := by
    rw [remaining, remaining, todo_of_ne_nil hrest, htodo, List.isEmpty_eq_false_iff.mpr hrest]
    refine congrArg (fun k => Kernel.setPeers k peers) ?_
    exact fragments taken rest
  amid := by
    intro q hq
    rw [← Option.some.inj hq]
    have hle := hamid.todo_le
    rw [htodo, List.length_append] at hle
    exact (Nat.le_add_left _ _).trans hle
  work := by
    rw [WireGuard.work, WireGuard.work, todo_of_ne_nil hrest, htodo, List.length_append]
    omega
  len := hlen

omit [Zero K] [DecidableEq K] [DecidableEq A] in
/-- A peer without addresses was in no message yet. -/
theorem Amid.eq_nil {peers : List (Peer K A E)} (h : Amid (p :: peers) ips)
    (hempty : p.allowedips.isEmpty = true) : ips = [] ∧ todo p ips = [] := by
  have hp : p.allowedips = [] := List.isEmpty_iff.mp hempty
  have hle := h p rfl
  rw [hp] at hle
  have hips := List.length_eq_zero_iff.mp (Nat.le_zero.mp hle)
  exact ⟨hips, by rw [todo, hips]; exact hp⟩

omit [Zero K] [DecidableEq K] [DecidableEq A] in
theorem todo_ne_nil (ips : List (AllowedIp A)) (hempty : ¬ p.allowedips.isEmpty = true) :
    todo p ips ≠ [] := by
  rw [todo]
  split_ifs with h
  · exact fun hnil => hempty (List.isEmpty_iff.mpr hnil)
  · exact fun hnil => h (List.isEmpty_iff.mpr hnil)

omit [Zero K] [DecidableEq K] [DecidableEq A] in
/-- A peer that was put is within the buffer, with the start of its addresses. -/
theorem room_of_put {len len' len'' : ℕ} (hput : putPeer families buflen len p fresh = some len')
    (hnest : nestStartCheck buflen len' = some len'') (h : len ≤ buflen) : len'' ≤ buflen :=
  (Adds.nest len').1 ((Adds.putPeer families p fresh len).1 h len' hput) len'' hnest

/-- **What one message leaves to be done.** -/
theorem putPeers_spec (len : ℕ) (peers : List (Peer K A E)) (ips : List (AllowedIp A))
    (h : Amid peers ips) : Puts buflen len peers ips (putPeers families buflen len peers ips) := by
  fun_induction putPeers families buflen len peers ips with
  | case1 len ips => exact ⟨fun _ => rfl, fun _ h => (by cases h), le_rfl, id⟩
  | case2 len p peers ips fresh hnone => exact ⟨fun _ => rfl, h, le_rfl, id⟩
  | case3 len p peers ips fresh len' hput hempty r ih =>
    obtain ⟨-, htodo⟩ := h.eq_nil hempty
    have hputs := (ih (fun _ _ => Nat.zero_le _)).cons p ips
      fun h => (Adds.putPeer families p fresh len).1 h len' hput
    rw [htodo] at hputs
    exact hputs
  | case4 len p peers ips fresh len' hput hempty ips' hnone =>
    exact Puts.stop h (List.nil_append _).symm (todo_ne_nil ips hempty)
      fun h => (Adds.putPeer families p fresh len).1 h len' hput
  | case5 len p peers ips fresh len' hput hempty ips' len'' hnest taken last hips r ih =>
    obtain ⟨htaken, hlast⟩ := putAllowedIps_spec families buflen len'' (todo p ips)
    rw [hips, List.append_nil] at htaken
    rw [hips] at hlast
    have hputs := (ih fun _ _ => Nat.zero_le _).cons p ips
      fun h => hlast (room_of_put hput hnest h)
    rw [htaken] at hputs
    exact hputs
  | case6 len p peers ips fresh len' hput hempty ips' len'' hnest taken rest last hrest hips =>
    obtain ⟨htaken, hlast⟩ := putAllowedIps_spec families buflen len'' (todo p ips)
    rw [hips] at htaken hlast
    exact Puts.stop h htaken hrest fun h => hlast (room_of_put hput hnest h)

/-- A message of its own has room for a peer and an address at least. -/
theorem putPeers_progress {len : ℕ} {peers : List (Peer K A E)} {ips : List (AllowedIp A)}
    (h : Amid peers ips) (hlen : len + 176 ≤ buflen) (hpeers : peers ≠ []) :
    work (putPeers families buflen len peers ips).peers
      (putPeers families buflen len peers ips).ips <
      work peers ips := by
  obtain ⟨p, peers, rfl⟩ := List.exists_cons_of_ne_nil hpeers
  have hwork : ∀ len, work (putPeers families buflen len peers []).peers
      (putPeers families buflen len peers []).ips < work (p :: peers) ips := fun len => by
    have hspec : Puts buflen len peers [] (putPeers families buflen len peers []) :=
      putPeers_spec len peers [] fun _ _ => Nat.zero_le _
    have hle := hspec.work
    rw [work_nil] at hle
    rw [work.eq_def (p :: peers)]
    dsimp only
    omega
  obtain ⟨len', hput, hlen'⟩ : ∃ len', putPeer families buflen len p ips.isEmpty = some len' ∧
      len' ≤ len + 124 := (Adds.putPeer families p ips.isEmpty len).2 (by omega)
  rw [putPeers, hput]
  dsimp only
  split_ifs with hempty
  · exact hwork len'
  · obtain ⟨len'', hnest, hlen''⟩ : ∃ len'', nestStartCheck buflen len' = some len'' ∧
        len'' ≤ len' + 4 := (Adds.nest len').2 (by omega)
    obtain ⟨ip, todo', htodo⟩ := List.exists_cons_of_ne_nil (todo_ne_nil ips hempty)
    obtain ⟨last, hip, -⟩ : ∃ last, putAllowedIp families buflen len'' ip = some last ∧
        last ≤ len'' + 48 := (Adds.putAllowedIp families ip len'').2 (by omega)
    obtain ⟨htaken, -⟩ := putAllowedIps_spec families buflen last todo'
    rcases hips : putAllowedIps families buflen last todo' with ⟨taken, rest, last'⟩
    have hall : putAllowedIps families buflen len'' (todo p ips) = (ip :: taken, rest, last') := by
      rw [htodo, putAllowedIps, hip]
      dsimp only
      rw [hips]
    have htaken : todo' = taken ++ rest := by rwa [hips] at htaken
    rw [hnest]
    dsimp only
    rw [hall]
    cases rest with
    | nil => exact hwork last'
    | cons ip' rest =>
      dsimp only
      rw [work.eq_def (p :: peers), work.eq_def (p :: peers)]
      dsimp only
      rw [todo_of_ne_nil (List.cons_ne_nil _ _), htodo, List.length_cons (a := ip),
        htaken, List.length_append]
      omega

end

/-! ## All messages -/

theorem headLen_le (o : Options) (first replacePeers : Bool) :
    o.headLen first replacePeers ≤ 100 := by
  have halign : align (o.nameLen + 1) ≤ 16 := by
    have := o.nameLen_lt
    rw [align]
    omega
  have h2 : align 2 = 4 := rfl
  have h4 : align 4 = 4 := rfl
  have h32 : align 32 = 32 := rfl
  rw [Options.headLen, h2, h4, h32]
  split_ifs <;> omega

variable [DecidableEq K] [DecidableEq A] [Zero K]

/-- What the kernel makes of a sequence of messages. -/
def Kernel.receive (k : Kernel K A E) (msgs : List (Message K A E)) : Kernel K A E :=
  msgs.foldl (fun k m => k.setDevice m.device) k

/-- Where the loop is, the kernel has been told of everything but what remains. -/
structure Told (buflen : ℕ) (dev : Device K A E) (s : Cursor K A E) : Prop where
  peers : s.peers ≠ []
  amid : Amid s.peers s.ips
  len : ∀ m ∈ s.sent, m.len ≤ buflen
  apply : ∀ k : Kernel K A E, (k.receive s.sent).setDevice
    ⟨s.first && dev.replacePeers, remaining s.peers s.ips⟩ = k.setDevice dev

theorem sendTurn_told {families : Families A E} {buflen : ℕ} {o : Options} {dev : Device K A E}
    {s : Cursor K A E} (hbuflen : 280 ≤ buflen) (hempty : ¬ dev.peers.isEmpty = true)
    (hs : Told buflen dev s) :
    (∃ s', sendTurn families buflen o dev s = .inl s' ∧ Told buflen dev s' ∧
        work s'.peers s'.ips < work s.peers s.ips) ∨
      ∃ msgs, sendTurn families buflen o dev s = .inr msgs ∧ (∀ m ∈ msgs, m.len ≤ buflen) ∧
        ∀ k : Kernel K A E, k.receive msgs = k.setDevice dev := by
  have hhead := headLen_le o s.first dev.replacePeers
  obtain ⟨len, hlen⟩ : ∃ len, o.headLen s.first dev.replacePeers + 4 = len := ⟨_, rfl⟩
  obtain ⟨r, hr⟩ : ∃ r, putPeers families buflen len s.peers s.ips = r := ⟨_, rfl⟩
  have hputs : Puts buflen len s.peers s.ips r := hr ▸ putPeers_spec len s.peers s.ips hs.amid
  have hwork : work r.peers r.ips < work s.peers s.ips :=
    hr ▸ putPeers_progress hs.amid (by omega) hs.peers
  have hsent : ∀ m ∈ s.sent ++ [⟨⟨s.first && dev.replacePeers, r.put⟩, r.len⟩], m.len ≤ buflen := by
    rw [List.forall_mem_append, List.forall_mem_singleton]
    exact ⟨hs.len, hputs.len (by omega)⟩
  have happly : ∀ k : Kernel K A E,
      (k.receive (s.sent ++ [⟨⟨s.first && dev.replacePeers, r.put⟩, r.len⟩])).setPeers
        (remaining r.peers r.ips) = k.setDevice dev := by
    intro k
    rw [← hs.apply k, Kernel.receive, List.foldl_append]
    exact hputs.apply _
  rw [sendTurn, if_neg hempty, hlen, hr]
  dsimp only
  split_ifs with hlast
  · refine Or.inr ⟨_, rfl, hsent, fun k => ?_⟩
    have h := happly k
    rw [List.isEmpty_iff.mp hlast] at h
    exact h
  · exact Or.inl ⟨_, rfl,
      ⟨fun h => hlast (List.isEmpty_iff.mpr h), hputs.amid, hsent, happly⟩, hwork⟩

/-- **The messages to the kernel** come to an end, fit into the buffer, and do together what a
single one would do that had no bound. -/
theorem kernelSetDevice_eq (families : Families A E) {buflen : ℕ} (hbuflen : 280 ≤ buflen)
    (o : Options) (dev : Device K A E) :
    ∃ turns msgs, kernelSetDevice families buflen o dev turns = some msgs ∧
      (∀ m ∈ msgs, m.len ≤ buflen) ∧ ∀ k : Kernel K A E, k.receive msgs = k.setDevice dev := by
  by_cases hempty : dev.peers.isEmpty = true
  · have hturn : sendTurn families buflen o dev { peers := dev.peers } =
        .inr [⟨⟨true && dev.replacePeers, []⟩, o.headLen true dev.replacePeers⟩] := if_pos hempty
    refine ⟨1, _, run_inr hturn 0, ?_, ?_⟩
    · intro m hm
      rw [List.mem_singleton.mp hm]
      exact (headLen_le o _ _).trans (by omega)
    · intro k
      rw [Kernel.receive, List.foldl_cons, List.foldl_nil, Bool.true_and,
        ← List.isEmpty_iff.mp hempty]
  · exact exists_run (fun s => work s.peers s.ips) (fun s hs => sendTurn_told hbuflen hempty hs)
      ⟨fun h => hempty (List.isEmpty_iff.mpr h), fun _ _ => Nat.zero_le _,
        fun _ hm => (by cases hm), fun k => by rw [remaining_nil]; rfl⟩

/-- The buffer is a page, and the peers are read from a file. -/
theorem kernelSetDevice_page : ∃ turns msgs,
    kernelSetDevice ⟨fun _ => false, fun _ => true⟩ 4096 ⟨3, by decide, true, true, false⟩
        ⟨true, [⟨2, 0, 25, some 4, [⟨10, false⟩], false, true, false, true⟩]⟩ turns = some msgs ∧
      (∀ m ∈ msgs, m.len ≤ 4096) ∧ ∀ k : Kernel ℕ ℕ ℕ, k.receive msgs =
        k.setDevice ⟨true, [⟨2, 0, 25, some 4, [⟨10, false⟩], false, true, false, true⟩]⟩ :=
  kernelSetDevice_eq _ (by decide) _ _

end OppoA37.WireGuard
