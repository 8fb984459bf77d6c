import OppoA37.WireGuard.Config
import OppoA37.WireGuard.SyncConf

/-!
# Files that are written and read again, after `showconf.c` and `config.c`

What `showconf` writes for a device is what `setconf` reads. What is left of it are the flags that
say of a peer that the file names all there is.

* `readConfig_showconf` says so of the device;
* `setDevice_showconf` says that a kernel that is set from the file has what the other one had.
-/

namespace OppoA37.WireGuard

open Numeral Text

/-! ## Characters -/

/-- Nothing is lost of a text when it is cleaned. -/
def Plain (s : List Char) : Prop := ∀ c ∈ s, c ≠ '#' ∧ charIsSpace c = false

instance (s : List Char) : Decidable (Plain s) := List.decidableBAll _ _

theorem Plain.append {s t : List Char} (hs : Plain s) (ht : Plain t) : Plain (s ++ t) :=
  List.forall_mem_append.mpr ⟨hs, ht⟩

theorem clean_append {s : List Char} (h : '#' ∉ s) (t : List Char) :
    clean (s ++ t) = clean s ++ clean t := by
  have hs : ∀ c ∈ s, decide (c ≠ '#') = true := fun c hc =>
    decide_eq_true fun heq => h (heq ▸ hc)
  rw [clean, clean, clean, List.takeWhile_append_of_pos hs, List.filter_append,
    List.takeWhile_eq_self_iff.mpr hs]

theorem Plain.clean {s : List Char} (h : Plain s) : clean s = s := by
  rw [WireGuard.clean, List.takeWhile_eq_self_iff.mpr fun c hc => decide_eq_true (h c hc).1,
    List.filter_eq_self.mpr fun c hc => by rw [(h c hc).2]; rfl]

theorem plain_toDigits {b : ℕ} (hb : 1 < b) (hb' : b ≤ 16) (n : ℕ) : Plain (Nat.toDigits b n) := by
  have hdigit : ∀ d : Fin 16, Nat.digitChar d ≠ '#' ∧ charIsSpace (Nat.digitChar d) = false := by
    decide +kernel
  intro c hc
  obtain ⟨d, -, rfl⟩ := exists_digitChar hb hb' hc
  exact hdigit d

theorem charIsDigit_headD (n : ℕ) : charIsDigit ((Nat.toDigits 10 n).headD NUL) = true := by
  have hdigit : ∀ d : Fin 16, d.val < 10 → charIsDigit (Nat.digitChar d) = true := by decide
  obtain ⟨c, s, hs⟩ := List.exists_cons_of_ne_nil (Nat.toDigits_ne_nil (n := n) (b := 10))
  have hc : c ∈ Nat.toDigits 10 n := hs ▸ List.mem_cons_self
  obtain ⟨d, hd, rfl⟩ := exists_digitChar (by decide) (by decide) hc
  rw [hs]
  exact hdigit d hd

theorem not_mem_toDigits {n : ℕ} {c : Char} (h : c.isDigit = false) : c ∉ Nat.toDigits 10 n := by
  intro hc
  rw [Nat.isDigit_of_mem_toDigits (by decide) (by decide) hc] at h
  cases h

theorem Plain.not_mem {s : List Char} (h : Plain s) : '\n' ∉ s := fun hmem =>
  absurd (h _ hmem).2 (by decide)

/-- What is in texts with something between them is in one of them, or between them. -/
theorem of_mem_intercalate {L : Type} {sep : List L} {ls : List (List L)} {x : L}
    (h : x ∈ sep.intercalate ls) : x ∈ sep ∨ ∃ l ∈ ls, x ∈ l := by
  induction ls with
  | nil => cases h
  | cons l ls ih =>
    cases ls with
    | nil =>
      rw [List.intercalate_singleton] at h
      exact Or.inr ⟨l, List.mem_cons_self, h⟩
    | cons l' ls =>
      rw [List.intercalate_cons_cons, List.mem_append, List.mem_append] at h
      rcases h with (h | h) | h
      · exact Or.inr ⟨l, List.mem_cons_self, h⟩
      · exact Or.inl h
      · rcases ih h with h | ⟨m, hm, hx⟩
        · exact Or.inl h
        · exact Or.inr ⟨m, List.mem_cons_of_mem l hm, hx⟩

/-! ## Keys -/

theorem bytesOf_textOf (bytes : List Byte) : bytesOf (textOf bytes) = bytes := by
  have hbyte : ∀ b : Byte, BitVec.ofNat 8 (Char.ofNat b.toNat).toNat = b := by decide +kernel
  rw [bytesOf, textOf, List.map_map]
  exact (List.map_congr_left fun b _ => hbyte b).trans (List.map_id bytes)

/-- The characters of a key. -/
theorem plain_text (key : Key) : Plain key.text := by
  have hsextet : ∀ x : BitVec 6,
      Char.ofNat (encodeSextet (x.setWidth 8)).toNat ≠ '#' ∧
        charIsSpace (Char.ofNat (encodeSextet (x.setWidth 8)).toNat) = false := by
    decide +kernel
  intro c hc
  obtain ⟨b, hb, rfl⟩ := List.mem_map.mp hc
  rcases mem_keyToBase64 hb with rfl | ⟨x, rfl⟩
  · decide
  · exact hsextet x

/-- A key is read as it was written. -/
theorem parseKey_text (pf : Platform) (key : Key) : parseKey pf key.text = some key := by
  have hbytes : parsedBytes pf key.text = (true, key.bytes) := by
    rw [parsedBytes, Key.text, bytesOf_textOf]
    exact keyFromBase64_keyToBase64 pf.signed _ key
  obtain ⟨bytes, hlength⟩ := key
  simp only [parseKey, hbytes, if_true]

theorem text_ne_nil (key : Key) : key.text ≠ [] := by
  intro h
  have hlength := length_keyToBase64 key
  rw [← bytesOf_textOf (keyToBase64 key.bytes), ← Key.text, h] at hlength
  cases hlength

/-! ## Numbers -/

section

variable (pf : Platform) {n : ℕ}

/-- A number is no `off`. -/
theorem sameText_toDigits (n : ℕ) : sameText (Nat.toDigits 10 n) "off".toList = false := by
  have hdigit : ∀ d : Fin 16, d.val < 10 → (Nat.digitChar d).toLower ≠ 'o' := by decide
  obtain ⟨c, s, hs⟩ := List.exists_cons_of_ne_nil (Nat.toDigits_ne_nil (n := n) (b := 10))
  have hc : c ∈ Nat.toDigits 10 n := hs ▸ List.mem_cons_self
  obtain ⟨d, hd, rfl⟩ := exists_digitChar (by decide) (by decide) hc
  rw [hs]
  exact decide_eq_false fun h => hdigit d hd (List.cons.inj h).1

theorem strtoul_of_le (hn : n ≤ 0xffffffff) :
    strtoul pf.ulongMax 10 (Nat.toDigits 10 n) = (n, []) :=
  strtoul_toDigits (by decide) (by decide) (hn.trans pf.ulongMax_le)

theorem parseFwmark_toDigits (hn : n < 2 ^ 32) :
    parseFwmark pf ('0' :: 'x' :: Nat.toDigits 16 n) = some n := by
  have hlength : 2 < ('0' :: 'x' :: Nat.toDigits 16 n).length := by
    have hpos := List.length_pos_of_ne_nil (Nat.toDigits_ne_nil (n := n) (b := 16))
    rw [List.length_cons, List.length_cons]
    omega
  have hoff : sameText ('0' :: 'x' :: Nat.toDigits 16 n) "off".toList = false :=
    decide_eq_false fun h => absurd (List.cons.inj h).1 (by decide)
  have hbase : 2 < ('0' :: 'x' :: Nat.toDigits 16 n).length ∧
      ('0' :: 'x' :: Nat.toDigits 16 n).take 2 = ['0', 'x'] := ⟨hlength, rfl⟩
  have hle : n ≤ pf.ulongMax := by
    have := pf.ulongMax_le
    omega
  have hzero : charIsDigit '0' = true := by decide
  rw [parseFwmark, hoff, if_neg Bool.false_ne_true, List.headD_cons, hzero, if_neg (by decide)]
  dsimp only
  rw [if_pos hbase, strtoul_mark hle]
  exact if_neg (by simp; omega)

theorem parsePersistentKeepalive_toDigits (hn : n < 65536) :
    parsePersistentKeepalive pf (Nat.toDigits 10 n) = some n := by
  rw [parsePersistentKeepalive, sameText_toDigits, if_neg Bool.false_ne_true, charIsDigit_headD,
    if_neg (by decide), strtoul_of_le pf (by omega)]
  exact if_neg (by simp; omega)

theorem parseCidr_toDigits {limit : ℕ} (hn : n ≤ limit) (hlimit : limit ≤ 128) :
    parseCidr pf limit (some (Nat.toDigits 10 n)) = some n := by
  rw [parseCidr, charIsDigit_headD, if_neg (by decide), strtoul_of_le pf (by omega)]
  exact if_neg (by simp; omega)

end

/-! ## Addresses -/

/-- The characters of an address. -/
def inetChars : List Char :=
  ['0', '1', '2', '3', '4', '5', '6', '7', '8', '9', 'a', 'b', 'c', 'd', 'e', 'f', '.', ':']

/-- What the C library writes, it reads; and it writes addresses as usual. -/
structure Inet.Lawful {A E : Type} (inet : Inet A E) : Prop where
  pton_ntop : ∀ a, inet.pton (inet.ip6 a) (inet.ntop a) = some a
  colon : ∀ a, ':' ∈ inet.ntop a ↔ inet.ip6 a = true
  ntop : ∀ a, ∀ c ∈ inet.ntop a, c ∈ inetChars
  addrInfo_nameInfo : ∀ e, inet.addrInfo (inet.nameInfo e).1 (inet.nameInfo e).2 = some e
  host : ∀ e, Plain (inet.nameInfo e).1 ∧ '[' ∉ (inet.nameInfo e).1 ∧ ']' ∉ (inet.nameInfo e).1
  service : ∀ e, ∃ n, (inet.nameInfo e).2 = Nat.toDigits 10 n
  port_toDigits : ∀ n < 65536, inet.port (Nat.toDigits 10 n) = some n

section

variable {A E : Type} {inet : Inet A E} (hinet : inet.Lawful) (pf : Platform)

/-- A text is cut at the first separator. -/
theorem strsep_append {sep : Char} {s : List Char} (h : sep ∉ s) (t : List Char) :
    strsep sep (s ++ sep :: t) = (s, some t) := by
  have hs : ∀ c ∈ s, decide (c ≠ sep) = true := fun c hc => decide_eq_true fun heq => h (heq ▸ hc)
  rw [strsep, if_pos (by simp), List.takeWhile_append_of_pos hs, List.dropWhile_append_of_pos hs]
  simp

include hinet

theorem plain_ntop (a : A) : Plain (inet.ntop a) := by
  have hplain : Plain inetChars := by decide
  exact fun c hc => hplain c (hinet.ntop a c hc)

theorem not_mem_ntop (a : A) : ∀ c ∈ inet.ntop a, c ≠ '/' ∧ c ≠ ',' ∧ c ≠ '+' ∧ c ≠ '-' := by
  have hchars : ∀ d ∈ ['/', ',', '+', '-'], d ∉ inetChars := by simp [inetChars]
  have hne : ∀ d ∈ ['/', ',', '+', '-'], ∀ c ∈ inet.ntop a, c ≠ d := fun d hd c hc heq =>
    hchars d hd (heq ▸ hinet.ntop a c hc)
  exact fun c hc => ⟨hne _ (by simp) c hc, hne _ (by simp) c hc, hne _ (by simp) c hc,
    hne _ (by simp) c hc⟩

/-- An endpoint is read as it was written. -/
theorem parseEndpoint_endpointText (e : E) :
    parseEndpoint inet (endpointText inet e) = some e := by
  obtain ⟨hplain, hopen, hclose⟩ := hinet.host e
  obtain ⟨n, hn⟩ := hinet.service e
  have haddr := hinet.addrInfo_nameInfo e
  rw [endpointText]
  rcases hinfo : inet.nameInfo e with ⟨host, service⟩
  rw [hinfo] at hopen hclose hn haddr
  dsimp only at hopen hclose hn haddr ⊢
  obtain ⟨c, t, hct⟩ := List.exists_cons_of_ne_nil (Nat.toDigits_ne_nil (n := n) (b := 10))
  have hservice : service = c :: t := hn.trans hct
  split_ifs with hbracket
  · have hvalue : '[' :: host ++ "]:".toList ++ service =
        '[' :: (host ++ ']' :: ':' :: c :: t) := by
      rw [hservice]
      simp
    rw [hvalue]
    simp only [parseEndpoint, strsep_append hclose]
    rw [← hservice]
    exact haddr
  · have hcolon : ':' ∉ service.reverse := by
      rw [List.mem_reverse, hn]
      exact not_mem_toDigits rfl
    have hreverse : (host ++ ':' :: service).reverse =
        service.reverse ++ ':' :: host.reverse := by
      simp
    rw [parseEndpoint.eq_def]
    split
    next hnil => simp at hnil
    next rest hbegin =>
      rcases host with _ | ⟨d, host⟩
      · cases hbegin
      · exact absurd (List.mem_cons.mpr (Or.inl (List.cons.inj hbegin).1.symm)) hopen
    next =>
      rw [hreverse, strsep_append hcolon]
      obtain ⟨d, u, hdu⟩ := List.exists_cons_of_ne_nil (l := service.reverse) (by simp [hservice])
      rw [hdu]
      dsimp only
      rw [← hdu, List.reverse_reverse, List.reverse_reverse]
      exact haddr

theorem plain_endpointText (e : E) : Plain (endpointText inet e) := by
  obtain ⟨n, hn⟩ := hinet.service e
  have hservice : Plain (inet.nameInfo e).2 := hn ▸ plain_toDigits (by decide) (by decide) n
  have hhost := (hinet.host e).1
  have hopen : Plain ['['] := by decide
  have hclose : Plain "]:".toList := by decide
  have hcolon : Plain [':'] := by decide
  rw [endpointText]
  dsimp only
  split_ifs
  · exact ((hopen.append hhost).append hclose).append hservice
  · exact hhost.append (hcolon.append hservice)

omit hinet in
theorem endpointText_ne_nil (inet : Inet A E) (e : E) : endpointText inet e ≠ [] := by
  rw [endpointText]
  dsimp only
  split_ifs <;> simp

omit hinet in
/-- An address and its length. -/
def entryText (inet : Inet A E) (ip : AllowedIp (Range A)) : List Char :=
  inet.ntop ip.ip.addr ++ '/' :: Nat.toDigits 10 ip.ip.cidr

/-- The length of an address is that of its family at most. -/
def CidrOk (inet : Inet A E) (ip : AllowedIp (Range A)) : Prop :=
  ip.ip.cidr ≤ if inet.ip6 ip.ip.addr then 128 else 32

/-- An entry of the list is added as it was written. -/
theorem parseAllowedip_entryText {ip : AllowedIp (Range A)} (hip : CidrOk inet ip)
    (p : Peer Key (Range A) E) : parseAllowedip inet pf p (entryText inet ip) =
      some { p with allowedips := p.allowedips ++ [⟨ip.ip, false⟩] } := by
  obtain ⟨⟨addr, cidr⟩, removeMe⟩ := ip
  have hslash : '/' ∉ inet.ntop addr := fun h => (not_mem_ntop hinet addr _ h).1 rfl
  have hprefix : parseIpPrefix p.replaceAllowedips (inet.ntop addr ++ '/' :: Nat.toDigits 10 cidr) =
      (false, p.replaceAllowedips, inet.ntop addr ++ '/' :: Nat.toDigits 10 cidr) := by
    rcases hntop : inet.ntop addr with _ | ⟨c, t⟩
    · rfl
    · have hc : c ∈ inet.ntop addr := hntop ▸ List.mem_cons_self
      obtain ⟨-, -, hplus, hminus⟩ := not_mem_ntop hinet addr c hc
      rw [List.cons_append, parseIpPrefix.eq_def]
      split
      next heq => exact absurd (List.cons.inj heq).1 hminus
      next heq => exact absurd (List.cons.inj heq).1 hplus
      next => rfl
  have hv6 : decide (':' ∈ inet.ntop addr) = inet.ip6 addr := by
    rw [Bool.eq_iff_iff, decide_eq_true_eq]
    exact hinet.colon addr
  have hlimit : (if inet.ip6 addr = true then 128 else 32) ≤ 128 := by
    split_ifs <;> decide
  have hcidr := parseCidr_toDigits pf hip hlimit
  simp only [parseAllowedip, entryText, hprefix, strsep_append hslash, hv6, hinet.pton_ntop]
  dsimp only at hcidr
  simp only [Option.bind_eq_bind, Option.bind_some, hcidr]

/-- The entries are added one after another. -/
theorem foldlM_parseAllowedip {ips : List (AllowedIp (Range A))} (hips : ∀ ip ∈ ips, CidrOk inet ip)
    (p : Peer Key (Range A) E) : (ips.map (entryText inet)).foldlM (parseAllowedip inet pf) p =
      some { p with allowedips := p.allowedips ++ ips.map fun ip => ⟨ip.ip, false⟩ } := by
  induction ips generalizing p with
  | nil => simp
  | cons ip ips ih =>
    obtain ⟨hip, hips⟩ := List.forall_mem_cons.mp hips
    rw [List.map_cons, List.foldlM_cons, parseAllowedip_entryText hinet pf hip]
    refine (ih hips _).trans ?_
    simp

theorem plain_entryText (ip : AllowedIp (Range A)) : Plain (entryText inet ip) :=
  (plain_ntop hinet _).append
    (Plain.append (s := ['/']) (by decide) (plain_toDigits (by decide) (by decide) _))

/-- The blanks behind the commas do not count. -/
theorem clean_allowedipsText (ips : List (AllowedIp (Range A))) :
    clean (allowedipsText inet ips) = [','].intercalate (ips.map (entryText inet)) := by
  have hcomma : clean ", ".toList = [','] := by decide
  rw [allowedipsText]
  change clean (", ".toList.intercalate (ips.map (entryText inet))) = _
  induction ips with
  | nil => rfl
  | cons ip ips ih =>
    have hip := plain_entryText hinet ip
    cases ips with
    | nil =>
      rw [List.map_singleton, List.intercalate_singleton, List.intercalate_singleton]
      exact hip.clean
    | cons ip' ips =>
      rw [List.map_cons, List.map_cons, List.intercalate_cons_cons, List.intercalate_cons_cons,
        ← List.map_cons, List.append_assoc, List.append_assoc,
        clean_append fun h => (hip _ h).1 rfl, hip.clean, clean_append (by decide), hcomma, ih]

omit hinet in
theorem allowedips_ne_nil {ips : List (AllowedIp (Range A))} (hne : ips ≠ []) :
    [','].intercalate (ips.map (entryText inet)) ≠ [] := by
  obtain ⟨ip, ips, rfl⟩ := List.exists_cons_of_ne_nil hne
  cases ips with
  | nil => simp [entryText]
  | cons ip' ips => simp [entryText]

/-- The addresses are read as they were written. -/
theorem parseAllowedips_text {ips : List (AllowedIp (Range A))} (hne : ips ≠ [])
    (hips : ∀ ip ∈ ips, CidrOk inet ip) (p : Peer Key (Range A) E) :
    parseAllowedips inet pf p (clean (allowedipsText inet ips)) =
      some { p with
        replaceAllowedips := true
        allowedips := p.allowedips ++ ips.map fun ip => ⟨ip.ip, false⟩ } := by
  have hcomma : ∀ entry ∈ ips.map (entryText inet), ',' ∉ entry := by
    rw [List.forall_mem_map]
    intro ip _ hmem
    rw [entryText, List.mem_append, List.mem_cons] at hmem
    rcases hmem with hmem | heq | hmem
    · exact (not_mem_ntop hinet _ _ hmem).2.1 rfl
    · cases heq
    · exact not_mem_toDigits rfl hmem
  rw [clean_allowedipsText hinet, parseAllowedips, if_neg (allowedips_ne_nil hne),
    List.splitOn_intercalate ',' hcomma (by simpa using hne), foldlM_parseAllowedip hinet pf hips]

end

/-! ## Lines -/

/-- Two texts differ where both are. -/
def differs : List Char → List Char → Bool
  | c :: s, d :: t => decide (c.toLower ≠ d.toLower) || differs s t
  | _, _ => false

/-- A key that is there has the value behind it. -/
theorem getValue_append (key : List Char) {value : List Char} (h : value ≠ []) :
    getValue (key ++ value) key = some value := by
  have hpos := List.length_pos_of_ne_nil h
  have hsame : sameText key key = true := decide_eq_true rfl
  rw [getValue, if_neg (by rw [List.length_append]; omega), List.take_left, List.drop_left,
    if_pos hsame]

/-- Another key is not there. -/
theorem getValue_of_differs {key key' : List Char} (h : differs key key' = true)
    (value : List Char) : getValue (key ++ value) key' = none := by
  have hne : ((key ++ value).take key'.length).map Char.toLower ≠ key'.map Char.toLower := by
    induction key generalizing key' with
    | nil => cases h
    | cons c key ih =>
      cases key' with
      | nil => cases h
      | cons d key' =>
        rw [differs, Bool.or_eq_true, decide_eq_true_eq] at h
        rw [List.cons_append, List.length_cons, List.take_succ_cons, List.map_cons, List.map_cons]
        intro heq
        obtain ⟨hhead, htail⟩ := List.cons.inj heq
        rcases h with h | h
        · exact h hhead
        · exact ih h htail
  rw [getValue]
  split_ifs with hlength hsame
  · rfl
  · exact absurd (of_decide_eq_true hsame) hne
  · rfl

section

variable {A E : Type} {inet : Inet A E} {pf : Platform} {dev : WgDevice A E}
  {peers : List (WgPeer A E)} {p p' : WgPeer A E} {line : List Char}

/-- The reader is in the section of a peer. -/
def inPeer (dev : WgDevice A E) (peers : List (WgPeer A E)) (p : WgPeer A E) : ConfigCtx A E where
  device := { dev with peers := peers ++ [p] }
  isPeerSection := true

/-- The reader is in the section of the device. -/
def inDevice (dev : WgDevice A E) : ConfigCtx A E where
  device := dev
  isDeviceSection := true

/-- A line with a key is not the head of a section. -/
theorem not_section {c : Char} {s t : List Char} (hc : c.toLower ≠ '[') :
    sameText (c :: s) ('[' :: t) = false :=
  decide_eq_false fun h => hc (List.cons.inj h).1

theorem configReadLine_peer {c : Char} {s : List Char} (hline : clean line = c :: s)
    (hc : c.toLower ≠ '[') (h : processPeerLine inet pf p (clean line) = some p') :
    configReadLine inet pf (inPeer dev peers p) line = some (inPeer dev peers p') := by
  have hupdate : updateLast (processPeerLine inet pf · (c :: s)) (peers ++ [p]) =
      some (peers ++ [p']) := by
    rw [← hline, updateLast, List.getLast?_concat, Option.bind_some, h, List.dropLast_concat]
    rfl
  have hif : sameText (c :: s) "[Interface]".toList = false := not_section hc
  have hpeer : sameText (c :: s) "[Peer]".toList = false := not_section hc
  rw [configReadLine, hline, if_neg (List.cons_ne_nil _ _), processLine, hif, hpeer]
  simp only [inPeer, hupdate, Bool.false_eq_true, if_false, if_true, Option.map_some]

theorem configReadLine_device {c : Char} {s : List Char} {dev' : WgDevice A E}
    (hline : clean line = c :: s) (hc : c.toLower ≠ '[')
    (h : processDeviceLine inet pf dev (clean line) = some dev') :
    configReadLine inet pf (inDevice dev) line = some (inDevice dev') := by
  have hif : sameText (c :: s) "[Interface]".toList = false := not_section hc
  have hpeer : sameText (c :: s) "[Peer]".toList = false := not_section hc
  rw [configReadLine, hline, if_neg (List.cons_ne_nil _ _), processLine, hif, hpeer, ← hline]
  simp only [inDevice, h, Bool.false_eq_true, if_false, if_true, Option.map_some]

/-- A line of `showconf` without its blanks. -/
theorem clean_line {key key' value : List Char} (hhash : '#' ∉ key) (hkey : clean key = key')
    (hvalue : Plain value) : clean (key ++ value) = key' ++ value := by
  rw [clean_append hhash, hkey, hvalue.clean]

/-- The key of the peer. -/
theorem read_publicKey (key : Key) :
    configReadLine inet pf (inPeer dev peers p) ("PublicKey = ".toList ++ key.text) =
      some (inPeer dev peers ⟨{ p.peer with publicKey := key }, true⟩) := by
  have hclean : clean ("PublicKey = ".toList ++ key.text) = "PublicKey=".toList ++ key.text :=
    clean_line (by decide) (by decide) (plain_text key)
  refine configReadLine_peer hclean (by decide) ?_
  rw [hclean, processPeerLine, getValue_of_differs (by decide), getValue_append _ (text_ne_nil key)]
  simp only [parseKey_text, Option.map_some]

/-- The other key. -/
theorem read_presharedKey (key : Key) :
    configReadLine inet pf (inPeer dev peers p) ("PresharedKey = ".toList ++ key.text) =
      some (inPeer dev peers
        { p with peer := { p.peer with presharedKey := key, hasPresharedKey := true } }) := by
  have hclean : clean ("PresharedKey = ".toList ++ key.text) = "PresharedKey=".toList ++ key.text :=
    clean_line (by decide) (by decide) (plain_text key)
  refine configReadLine_peer hclean (by decide) ?_
  rw [hclean, processPeerLine, getValue_of_differs (by decide), getValue_of_differs (by decide),
    getValue_of_differs (by decide), getValue_of_differs (by decide),
    getValue_append _ (text_ne_nil key)]
  simp only [parseKey_text, Option.map_some]

/-- The interval. -/
theorem read_persistentKeepalive {n : ℕ} (hn : n < 65536) :
    configReadLine inet pf (inPeer dev peers p)
        ("PersistentKeepalive = ".toList ++ Nat.toDigits 10 n) =
      some (inPeer dev peers
        { p with peer := { p.peer with
            persistentKeepaliveInterval := n
            hasPersistentKeepalive := true } }) := by
  have hclean : clean ("PersistentKeepalive = ".toList ++ Nat.toDigits 10 n) =
      "PersistentKeepalive=".toList ++ Nat.toDigits 10 n :=
    clean_line (by decide) (by decide) (plain_toDigits (by decide) (by decide) n)
  refine configReadLine_peer hclean (by decide) ?_
  rw [hclean, processPeerLine, getValue_of_differs (by decide), getValue_of_differs (by decide),
    getValue_of_differs (by decide), getValue_append _ Nat.toDigits_ne_nil]
  simp only [parsePersistentKeepalive_toDigits pf hn, Option.map_some]

/-- The endpoint. -/
theorem read_endpoint (hinet : inet.Lawful) (e : E) :
    configReadLine inet pf (inPeer dev peers p) ("Endpoint = ".toList ++ endpointText inet e) =
      some (inPeer dev peers { p with peer := { p.peer with endpoint := some e } }) := by
  have hclean : clean ("Endpoint = ".toList ++ endpointText inet e) =
      "Endpoint=".toList ++ endpointText inet e :=
    clean_line (by decide) (by decide) (plain_endpointText hinet e)
  refine configReadLine_peer hclean (by decide) ?_
  rw [hclean, processPeerLine, getValue_append _ (endpointText_ne_nil inet e)]
  simp only [parseEndpoint_endpointText hinet, Option.map_some]

/-- The addresses. -/
theorem read_allowedips (hinet : inet.Lawful) {ips : List (AllowedIp (Range A))} (hne : ips ≠ [])
    (hips : ∀ ip ∈ ips, CidrOk inet ip) :
    configReadLine inet pf (inPeer dev peers p)
        ("AllowedIPs = ".toList ++ allowedipsText inet ips) =
      some (inPeer dev peers
        { p with peer := { p.peer with
            replaceAllowedips := true
            allowedips := p.peer.allowedips ++ ips.map fun ip => ⟨ip.ip, false⟩ } }) := by
  have hclean : clean ("AllowedIPs = ".toList ++ allowedipsText inet ips) =
      "AllowedIPs=".toList ++ clean (allowedipsText inet ips) := by
    have hkey : clean "AllowedIPs = ".toList = "AllowedIPs=".toList := by decide
    rw [clean_append (by decide), hkey]
  have hvalue : clean (allowedipsText inet ips) ≠ [] := by
    rw [clean_allowedipsText hinet]
    exact allowedips_ne_nil hne
  refine configReadLine_peer hclean (by decide) ?_
  rw [hclean, processPeerLine, getValue_of_differs (by decide), getValue_of_differs (by decide),
    getValue_append _ hvalue]
  simp only [parseAllowedips_text hinet pf hne hips, Option.map_some]

/-! ## Sections -/

/-- What is read of a peer that was written. -/
def reread (p : Peer Key (Range A) E) : WgPeer A E where
  peer :=
    { publicKey := p.publicKey
      presharedKey := if p.hasPresharedKey then p.presharedKey else 0
      persistentKeepaliveInterval := p.persistentKeepaliveInterval
      endpoint := p.endpoint
      allowedips := p.allowedips.map fun ip => ⟨ip.ip, false⟩
      replaceAllowedips := true
      hasPresharedKey := p.hasPresharedKey
      hasPersistentKeepalive := decide (p.persistentKeepaliveInterval ≠ 0) }
  hasPublicKey := true

/-- The numbers of a peer are within their types, and so are those of its addresses. -/
structure PeerOk (inet : Inet A E) (p : Peer Key (Range A) E) : Prop where
  interval : p.persistentKeepaliveInterval < 65536
  ips : ∀ ip ∈ p.allowedips, CidrOk inet ip

/-- The head of the section of a peer. -/
theorem read_head (ctx : ConfigCtx A E) : configReadLine inet pf ctx "[Peer]".toList =
    some (inPeer ctx.device ctx.device.peers newPeer) := by
  have hclean : clean "[Peer]".toList = "[Peer]".toList := by decide
  have hif : sameText "[Peer]".toList "[Interface]".toList = false := by decide
  have hpeer : sameText "[Peer]".toList "[Peer]".toList = true := by decide
  rw [configReadLine, hclean, if_neg (by decide), processLine, hif, hpeer]
  rfl

/-- Some lines, and then some more. -/
theorem foldlM_append_of_some {S L : Type} {f : S → L → Option S} {l : List L} {s s' : S}
    (h : l.foldlM f s = some s') (l' : List L) : (l ++ l').foldlM f s = l'.foldlM f s' := by
  rw [List.foldlM_append, h]
  rfl

/-- The lines that are there only sometimes. -/
theorem read_ifPresharedKey (c : Bool) (key : Key) (hkey : p.peer.presharedKey = 0)
    (hhas : p.peer.hasPresharedKey = false) :
    (if c then ["PresharedKey = ".toList ++ key.text] else []).foldlM (configReadLine inet pf)
        (inPeer dev peers p) =
      some (inPeer dev peers { p with peer := { p.peer with
        presharedKey := if c then key else 0
        hasPresharedKey := c } }) := by
  cases c
  · rw [if_neg Bool.false_ne_true, if_neg Bool.false_ne_true, ← hkey, ← hhas]
    rfl
  · rw [if_pos rfl, if_pos rfl, List.foldlM_cons, read_presharedKey]
    rfl

theorem read_ifAllowedips (hinet : inet.Lawful) {ips : List (AllowedIp (Range A))}
    (hips : ∀ ip ∈ ips, CidrOk inet ip) (hnone : p.peer.allowedips = [])
    (hreplace : p.peer.replaceAllowedips = true) :
    (if ips = [] then [] else ["AllowedIPs = ".toList ++ allowedipsText inet ips]).foldlM
        (configReadLine inet pf) (inPeer dev peers p) =
      some (inPeer dev peers { p with peer := { p.peer with
        allowedips := ips.map fun ip => ⟨ip.ip, false⟩ } }) := by
  by_cases hne : ips = []
  · rw [if_pos hne, hne, List.map_nil, ← hnone]
    rfl
  · rw [if_neg hne, List.foldlM_cons, read_allowedips hinet hne hips, hnone, List.nil_append,
      ← hreplace]
    rfl

theorem read_ifEndpoint (hinet : inet.Lawful) (endpoint : Option E)
    (hnone : p.peer.endpoint = none) :
    (endpoint.toList.map fun e => "Endpoint = ".toList ++ endpointText inet e).foldlM
        (configReadLine inet pf) (inPeer dev peers p) =
      some (inPeer dev peers { p with peer := { p.peer with endpoint := endpoint } }) := by
  cases endpoint with
  | none =>
    rcases p with ⟨⟨_, _, _, _, _, _, _, _, _⟩, _⟩
    cases hnone
    rfl
  | some e =>
    rw [Option.toList_some, List.map_singleton, List.foldlM_cons, read_endpoint hinet]
    rfl

theorem read_ifInterval {n : ℕ} (hn : n < 65536) (hzero : p.peer.persistentKeepaliveInterval = 0)
    (hhas : p.peer.hasPersistentKeepalive = false) :
    (if n = 0 then [] else ["PersistentKeepalive = ".toList ++ Nat.toDigits 10 n]).foldlM
        (configReadLine inet pf) (inPeer dev peers p) =
      some (inPeer dev peers { p with peer := { p.peer with
        persistentKeepaliveInterval := n
        hasPersistentKeepalive := decide (n ≠ 0) } }) := by
  by_cases h : n = 0
  · rcases p with ⟨⟨_, _, _, _, _, _, _, _, _⟩, _⟩
    cases h
    cases hzero
    cases hhas
    rfl
  · rw [if_neg h, List.foldlM_cons, read_persistentKeepalive hn, decide_eq_true h]
    rfl

/-- **The section of a peer** is read as it was written. -/
theorem read_peerLines (hinet : inet.Lawful) (pf : Platform) {p : Peer Key (Range A) E}
    (hp : PeerOk inet p) (ctx : ConfigCtx A E) :
    (peerLines inet p).foldlM (configReadLine inet pf) ctx =
      some (inPeer ctx.device ctx.device.peers (reread p)) := by
  have hhead : ["[Peer]".toList, "PublicKey = ".toList ++ p.publicKey.text].foldlM
      (configReadLine inet pf) ctx = some (inPeer ctx.device ctx.device.peers
        ⟨{ publicKey := p.publicKey, presharedKey := 0, replaceAllowedips := true }, true⟩) := by
    rw [List.foldlM_cons, read_head, Option.bind_eq_bind, Option.bind_some, List.foldlM_cons,
      read_publicKey]
    rfl
  rw [peerLines, List.append_assoc, List.append_assoc, List.append_assoc,
    foldlM_append_of_some hhead, foldlM_append_of_some (read_ifPresharedKey _ _ rfl rfl),
    foldlM_append_of_some (read_ifAllowedips hinet hp.ips rfl rfl),
    foldlM_append_of_some (read_ifEndpoint hinet _ rfl), read_ifInterval hp.interval rfl rfl]
  rfl

/-- An empty line is passed over. -/
theorem read_nil (ctx : ConfigCtx A E) : configReadLine inet pf ctx [] = some ctx := rfl

/-- **The sections of all peers.** -/
theorem read_peers (hinet : inet.Lawful) (pf : Platform) {l : List (WgPeer A E)}
    (hl : ∀ p ∈ l, PeerOk inet p.peer) (ctx : ConfigCtx A E) :
    ∃ ctx', ([[]].intercalate (l.map fun p => peerLines inet p.peer)).foldlM
        (configReadLine inet pf) ctx = some ctx' ∧
      ctx'.device = { ctx.device with
        peers := ctx.device.peers ++ l.map fun p => reread p.peer } := by
  induction l generalizing ctx with
  | nil => exact ⟨ctx, rfl, by simp⟩
  | cons p l ih =>
    obtain ⟨hp, hl⟩ := List.forall_mem_cons.mp hl
    have hread := read_peerLines hinet pf hp ctx
    cases l with
    | nil => exact ⟨_, by rw [List.map_singleton, List.intercalate_singleton, hread], rfl⟩
    | cons q l =>
      obtain ⟨ctx', hctx, hdevice⟩ := ih hl (inPeer ctx.device ctx.device.peers (reread p.peer))
      refine ⟨ctx', ?_, ?_⟩
      · rw [List.map_cons, List.map_cons, List.intercalate_cons_cons, List.append_assoc,
          foldlM_append_of_some hread, List.singleton_append, List.foldlM_cons, read_nil]
        exact hctx
      · rw [hdevice, inPeer]
        simp

/-- The port of the device. -/
theorem read_listenPort (hinet : inet.Lawful) {n : ℕ} (hn : n < 65536) :
    configReadLine inet pf (inDevice dev) ("ListenPort = ".toList ++ Nat.toDigits 10 n) =
      some (inDevice { dev with listenPort := n, hasListenPort := true }) := by
  have hclean : clean ("ListenPort = ".toList ++ Nat.toDigits 10 n) =
      "ListenPort=".toList ++ Nat.toDigits 10 n :=
    clean_line (by decide) (by decide) (plain_toDigits (by decide) (by decide) n)
  refine configReadLine_device hclean (by decide) ?_
  rw [hclean, processDeviceLine, getValue_append _ Nat.toDigits_ne_nil]
  simp only [hinet.port_toDigits n hn, Option.map_some]

/-- The mark of the device. -/
theorem read_fwmark {n : ℕ} (hn : n < 2 ^ 32) :
    configReadLine inet pf (inDevice dev) ("FwMark = 0x".toList ++ Nat.toDigits 16 n) =
      some (inDevice { dev with fwmark := n, hasFwmark := true }) := by
  have hline : clean ("FwMark = 0x".toList ++ Nat.toDigits 16 n) =
      "FwMark=0x".toList ++ Nat.toDigits 16 n :=
    clean_line (by decide) (by decide) (plain_toDigits (by decide) le_rfl n)
  have hclean : clean ("FwMark = 0x".toList ++ Nat.toDigits 16 n) =
      "FwMark=".toList ++ '0' :: 'x' :: Nat.toDigits 16 n := hline
  refine configReadLine_device hclean (by decide) ?_
  rw [hclean, processDeviceLine, getValue_of_differs (by decide),
    getValue_append _ (List.cons_ne_nil _ _)]
  simp only [parseFwmark_toDigits pf hn, Option.map_some]

/-- The key of the device. -/
theorem read_privateKey (key : Key) :
    configReadLine inet pf (inDevice dev) ("PrivateKey = ".toList ++ key.text) =
      some (inDevice { dev with privateKey := key, hasPrivateKey := true }) := by
  have hclean : clean ("PrivateKey = ".toList ++ key.text) = "PrivateKey=".toList ++ key.text :=
    clean_line (by decide) (by decide) (plain_text key)
  refine configReadLine_device hclean (by decide) ?_
  rw [hclean, processDeviceLine, getValue_of_differs (by decide), getValue_of_differs (by decide),
    getValue_append _ (text_ne_nil key)]
  simp only [parseKey_text, Option.map_some]

theorem read_ifListenPort (hinet : inet.Lawful) {n : ℕ} (hn : n < 65536)
    (hzero : dev.listenPort = 0) (hhas : dev.hasListenPort = true) :
    (if n = 0 then [] else ["ListenPort = ".toList ++ Nat.toDigits 10 n]).foldlM
        (configReadLine inet pf) (inDevice dev) = some (inDevice { dev with listenPort := n }) := by
  by_cases h : n = 0
  · rcases dev with ⟨_, _, _, _, _, _, _, _⟩
    cases h
    cases hzero
    rfl
  · rw [if_neg h, List.foldlM_cons, read_listenPort hinet hn, ← hhas]
    rfl

theorem read_ifFwmark {n : ℕ} (hn : n < 2 ^ 32) (hzero : dev.fwmark = 0)
    (hhas : dev.hasFwmark = true) :
    (if n = 0 then [] else ["FwMark = 0x".toList ++ Nat.toDigits 16 n]).foldlM
        (configReadLine inet pf) (inDevice dev) = some (inDevice { dev with fwmark := n }) := by
  by_cases h : n = 0
  · rcases dev with ⟨_, _, _, _, _, _, _, _⟩
    cases h
    cases hzero
    rfl
  · rw [if_neg h, List.foldlM_cons, read_fwmark hn, ← hhas]
    rfl

theorem read_ifPrivateKey (c : Bool) (key : Key) (hkey : dev.privateKey = 0)
    (hhas : dev.hasPrivateKey = true) :
    (if c then ["PrivateKey = ".toList ++ key.text] else []).foldlM (configReadLine inet pf)
        (inDevice dev) = some (inDevice { dev with privateKey := if c then key else 0 }) := by
  cases c
  · rw [if_neg Bool.false_ne_true, if_neg Bool.false_ne_true, ← hkey]
    rfl
  · rw [if_pos rfl, if_pos rfl, List.foldlM_cons, read_privateKey, ← hhas]
    rfl

/-- What a device has that can be written. -/
structure DeviceOk (inet : Inet A E) (dev : WgDevice A E) : Prop where
  listenPort : dev.listenPort < 65536
  fwmark : dev.fwmark < 2 ^ 32
  peers : ∀ p ∈ dev.peers, PeerOk inet p.peer

/-- The flags that say of a device that the file names all there is. -/
def whole : WgDevice A E where
  hasListenPort := true
  hasFwmark := true
  hasPrivateKey := true
  replacePeers := true

/-- **The section of the device.** -/
theorem read_deviceLines (hinet : inet.Lawful) (hdev : DeviceOk inet dev) :
    (deviceLines dev).foldlM (configReadLine inet pf) (configReadInit false) =
      some (inDevice { (whole : WgDevice A E) with
        listenPort := dev.listenPort
        fwmark := dev.fwmark
        privateKey := if dev.hasPrivateKey then dev.privateKey else 0 }) := by
  have hhead : ["[Interface]".toList].foldlM (configReadLine inet pf) (configReadInit false) =
      some (inDevice (whole : WgDevice A E)) := by
    have hclean : clean "[Interface]".toList = "[Interface]".toList := by decide
    have hif : sameText "[Interface]".toList "[Interface]".toList = true := by decide
    rw [List.foldlM_cons, configReadLine, hclean, if_neg (by decide), processLine, hif]
    rfl
  rw [deviceLines, List.append_assoc, List.append_assoc, List.append_assoc,
    foldlM_append_of_some hhead,
    foldlM_append_of_some (read_ifListenPort hinet hdev.listenPort rfl rfl),
    foldlM_append_of_some (read_ifFwmark hdev.fwmark rfl rfl),
    foldlM_append_of_some (read_ifPrivateKey _ _ rfl rfl)]
  rfl

/-- What is read of a device that was written. -/
def WgDevice.reread (dev : WgDevice A E) : WgDevice A E where
  listenPort := dev.listenPort
  fwmark := dev.fwmark
  privateKey := if dev.hasPrivateKey then dev.privateKey else 0
  hasListenPort := true
  hasFwmark := true
  hasPrivateKey := true
  replacePeers := true
  peers := dev.peers.map fun p => WireGuard.reread p.peer

/-- A line that is there only sometimes. -/
theorem eq_of_mem_ite {c : Prop} [Decidable c] {line line' : List Char}
    (h : line ∈ if c then [line'] else []) : line = line' := by
  split_ifs at h
  · exact List.mem_singleton.mp h
  · cases h

theorem eq_of_mem_ite_not {c : Prop} [Decidable c] {line line' : List Char}
    (h : line ∈ if c then [] else [line']) : line = line' := by
  split_ifs at h
  · cases h
  · exact List.mem_singleton.mp h

/-- No line of a peer is broken. -/
theorem not_mem_peerLine (hinet : inet.Lawful) (p : Peer Key (Range A) E) :
    ∀ line ∈ peerLines inet p, '\n' ∉ line := by
  have hips : '\n' ∉ allowedipsText inet p.allowedips := by
    intro hmem
    rcases of_mem_intercalate hmem with hmem | ⟨entry, hentry, hmem⟩
    · exact absurd hmem (by decide)
    · obtain ⟨ip, -, rfl⟩ := List.mem_map.mp hentry
      exact (plain_entryText hinet ip).not_mem hmem
  intro line hline
  rw [peerLines, List.mem_append, List.mem_append, List.mem_append, List.mem_append] at hline
  rcases hline with (((hline | hline) | hline) | hline) | hline
  · rcases List.mem_cons.mp hline with rfl | hline
    · decide
    · rw [List.mem_singleton.mp hline]
      exact List.not_mem_append (by decide) (plain_text _).not_mem
  · rw [eq_of_mem_ite hline]
    exact List.not_mem_append (by decide) (plain_text _).not_mem
  · rw [eq_of_mem_ite_not hline]
    exact List.not_mem_append (by decide) hips
  · obtain ⟨e, -, rfl⟩ := List.mem_map.mp hline
    exact List.not_mem_append (by decide) (plain_endpointText hinet e).not_mem
  · rw [eq_of_mem_ite_not hline]
    exact List.not_mem_append (by decide) (plain_toDigits (by decide) (by decide) _).not_mem

/-- No line is broken. -/
theorem not_mem_line (hinet : inet.Lawful) (dev : WgDevice A E) :
    ∀ line ∈ deviceLines dev ++
      [[]].intercalate (dev.peers.map fun p => peerLines inet p.peer), '\n' ∉ line := by
  rw [List.forall_mem_append]
  refine ⟨fun line hline => ?_, fun line hline => ?_⟩
  · rw [deviceLines, List.mem_append, List.mem_append, List.mem_append, List.mem_append] at hline
    rcases hline with (((hline | hline) | hline) | hline) | hline
    · rw [List.mem_singleton.mp hline]
      decide
    · rw [eq_of_mem_ite_not hline]
      exact List.not_mem_append (by decide) (plain_toDigits (by decide) (by decide) _).not_mem
    · rw [eq_of_mem_ite_not hline]
      exact List.not_mem_append (by decide) (plain_toDigits (by decide) le_rfl _).not_mem
    · rw [eq_of_mem_ite hline]
      exact List.not_mem_append (by decide) (plain_text _).not_mem
    · rw [List.mem_singleton.mp hline]
      exact List.not_mem_nil
  · rcases of_mem_intercalate hline with hline | ⟨lines, hlines, hline⟩
    · rw [List.mem_singleton.mp hline]
      exact List.not_mem_nil
    · obtain ⟨p, -, rfl⟩ := List.mem_map.mp hlines
      exact not_mem_peerLine hinet p.peer line hline

/-- **What is written is read**: the device, and all its peers. -/
theorem readConfig_showconf (hinet : inet.Lawful) (hdev : DeviceOk inet dev) :
    readConfig inet pf false (showconf inet dev) = some dev.reread := by
  obtain ⟨ctx, hread, hdevice⟩ := read_peers hinet pf hdev.peers (inDevice _)
  rw [readConfig, showconf, getLines_flatMap (not_mem_line hinet dev),
    foldlM_append_of_some (read_deviceLines hinet hdev), hread, Option.bind_some, configReadFinish,
    hdevice]
  refine if_pos ?_
  rw [List.all_eq_true]
  intro p hp
  obtain ⟨q, -, rfl⟩ := List.mem_map.mp hp
  rfl

end

/-! ## Kernels -/

section

variable {A E : Type} [DecidableEq A] {k : Kernel Key (Range A) E}
  {l : List (Peer Key (Range A) E)}

/-- All that the kernel tells of its peers. -/
structure Tells (k : Kernel Key (Range A) E) (l : List (Peer Key (Range A) E)) : Prop where
  nodup : (l.map Peer.publicKey).Nodup
  mem : ∀ key, (k.peers key).isSome = true → key ∈ l.map Peer.publicKey
  peer : ∀ p ∈ l, k.peers p.publicKey =
    some ⟨p.presharedKey, p.persistentKeepaliveInterval, p.endpoint⟩
  has : ∀ p ∈ l, p.hasPresharedKey = false → p.presharedKey = 0
  route : ∀ a key, k.route a = some key ↔ ∃ p ∈ l, p.publicKey = key ∧ p.Has a

omit [DecidableEq A] in
theorem has_reread (p : Peer Key (Range A) E) (a : Range A) : (reread p).peer.Has a ↔ p.Has a := by
  have hips : (reread p).peer.allowedips.map AllowedIp.ip = p.allowedips.map AllowedIp.ip := by
    rw [reread, List.map_map]
    rfl
  rw [Peer.Has, Peer.Has, hips]

omit [DecidableEq A] in
theorem plain_reread (p : Peer Key (Range A) E) : (reread p).peer.Plain where
  keep := rfl
  replace := rfl
  ips ip hip := by
    obtain ⟨_, -, rfl⟩ := List.mem_map.mp hip
    rfl

omit [DecidableEq A] in
/-- A peer that is read is in the kernel what it was in the other one. -/
theorem Tells.update_reread (h : Tells k l) {p : Peer Key (Range A) E} (hp : p ∈ l) :
    some (Kernel.update (reread p).peer Kernel.fresh) = k.peers p.publicKey := by
  rw [h.peer p hp]
  refine congrArg some (KernelPeer.ext ?_ ?_ ?_)
  · dsimp only [Kernel.update, reread, Kernel.fresh]
    split_ifs with hhas
    · rfl
    · exact (h.has p hp (Bool.not_eq_true _ ▸ hhas)).symm
  · rcases hinterval : p.persistentKeepaliveInterval with _ | n <;>
      simp only [Kernel.update, reread, Kernel.fresh, hinterval] <;> rfl
  · exact Option.or_none

/-- The peers that are read make a kernel what the other one was. -/
theorem Tells.setDevice_reread (h : Tells k l) (k' : Kernel Key (Range A) E) :
    k'.setDevice ⟨true, l.map fun p => (reread p).peer⟩ = k := by
  have hkeys : (l.map fun p => (reread p).peer).map Peer.publicKey = l.map Peer.publicKey := by
    rw [List.map_map]
    rfl
  have hplain : ∀ p ∈ l.map fun p => (reread p).peer, p.Plain := by
    rw [List.forall_mem_map]
    exact fun p _ => plain_reread p
  have hset : k'.setDevice ⟨true, l.map fun p => (reread p).peer⟩ =
      Kernel.empty.setPeers (l.map fun p => (reread p).peer) := rfl
  rw [hset]
  refine Kernel.ext (funext fun key => ?_) (funext fun a => ?_)
  · have hnone : (Kernel.empty : Kernel Key (Range A) E).peers key = none := rfl
    rw [Kernel.peers_setPeers (hkeys ▸ h.nodup) fun p hp => (hplain p hp).keep, hnone,
      Option.or_none, List.find?_map]
    have hsame : ((fun p : Peer Key (Range A) E => decide (p.publicKey = key)) ∘
        fun p => (reread p).peer) = fun p => decide (p.publicKey = key) := rfl
    rw [hsame]
    rcases hfind : l.find? fun p => decide (p.publicKey = key) with _ | p
    · rw [hfind]
      refine (Option.not_isSome_iff_eq_none.mp fun hsome => ?_).symm
      obtain ⟨p, hp, hkey⟩ := List.mem_map.mp (h.mem key hsome)
      exact List.find?_eq_none.mp hfind p hp (decide_eq_true hkey)
    · have hkey : p.publicKey = key := by
        have hp := List.find?_some hfind
        exact of_decide_eq_true hp
      rw [hfind, ← hkey]
      exact h.update_reread (List.mem_of_find?_eq_some hfind)
  · have hnone : ((Kernel.empty : Kernel Key (Range A) E).route a).filter
        (fun key => key ∉ (l.map fun p => (reread p).peer).map Peer.publicKey) = none := rfl
    rw [Kernel.route_setPeers (hkeys ▸ h.nodup) hplain, hnone, Option.or_none, ← List.map_reverse,
      List.find?_map]
    have hsame : ((fun p : Peer Key (Range A) E => decide (p.Has a)) ∘
        fun p => (reread p).peer) = fun p => decide (p.Has a) :=
      funext fun p => decide_eq_decide.mpr (has_reread p a)
    rw [hsame]
    rcases hfind : l.reverse.find? fun p => decide (p.Has a) with _ | p
    · rw [hfind]
      rcases hroute : k.route a with _ | key
      · rfl
      · obtain ⟨p, hp, -, hhas⟩ := (h.route a key).mp hroute
        exact absurd (decide_eq_true hhas)
          (List.find?_eq_none.mp hfind p (List.mem_reverse.mpr hp))
    · have hhas : p.Has a := by
        have hp := List.find?_some hfind
        exact of_decide_eq_true hp
      have hp := List.mem_reverse.mp (List.mem_of_find?_eq_some hfind)
      rw [hfind]
      exact ((h.route a p.publicKey).mpr ⟨p, hp, rfl, hhas⟩).symm

/-- **A device that is shown and set again**, in whichever kernel, is what it was: its peers, its
addresses, its port, its mark and its key. -/
theorem setDevice_showconf {inet : Inet A E} (hinet : inet.Lawful) (pf : Platform)
    {dev : WgDevice A E} (hdev : DeviceOk inet dev)
    (hk : Tells k (dev.peers.map WgPeer.peer)) (k' : Kernel Key (Range A) E) :
    ∃ dev', readConfig inet pf false (showconf inet dev) = some dev' ∧
      k'.setDevice ⟨dev'.replacePeers, dev'.peers.map WgPeer.peer⟩ = k ∧
      dev'.listenPort = dev.listenPort ∧ dev'.fwmark = dev.fwmark ∧
      dev'.privateKey = if dev.hasPrivateKey then dev.privateKey else 0 := by
  refine ⟨dev.reread, readConfig_showconf hinet hdev, ?_, rfl, rfl, rfl⟩
  have hpeers : dev.reread.peers.map WgPeer.peer =
      (dev.peers.map WgPeer.peer).map fun p => (reread p).peer := by
    rw [WgDevice.reread, List.map_map, List.map_map]
    rfl
  rw [hpeers]
  exact hk.setDevice_reread k'

end

/-! ## A device that is shown -/

section

/-- Two addresses, and two endpoints, of which the second one is of the sixth version. -/
def twoAddresses : Inet Bool Bool where
  ip6 v6 := v6
  ntop v6 := if v6 then "fd00::1".toList else "10.0.0.1".toList
  pton v6 s :=
    if s = (if v6 then "fd00::1".toList else "10.0.0.1".toList) then some v6 else none
  endpoint6 v6 := v6
  nameInfo v6 := (if v6 then "2001:db8::1".toList else "192.0.2.1".toList, Nat.toDigits 10 51820)
  addrInfo host service :=
    if service ≠ Nat.toDigits 10 51820 then none
    else if host = "2001:db8::1".toList then some true
    else if host = "192.0.2.1".toList then some false
    else none
  port s := if Numeral.value 10 s < 65536 then some (Numeral.value 10 s) else none

theorem lawful_twoAddresses : twoAddresses.Lawful where
  pton_ntop := by decide
  colon := by decide
  ntop a c hc := by
    cases a
    · exact (by decide : "10.0.0.1".toList ⊆ inetChars) hc
    · exact (by decide : "fd00::1".toList ⊆ inetChars) hc
  addrInfo_nameInfo := by decide
  host := by decide
  service := fun _ => ⟨51820, rfl⟩
  port_toDigits n hn := by
    have hvalue : Numeral.value 10 (Nat.toDigits 10 n) = n :=
      value_toDigits (by decide) (by decide) n
    simp only [twoAddresses, hvalue, if_pos hn]

/-- The key of which all bytes are one. -/
def Key.one : Key := ⟨List.replicate 32 1, rfl⟩

/-- A peer that has two addresses and an endpoint. -/
def shownPeer : Peer Key (Range Bool) Bool where
  publicKey := Key.one
  presharedKey := Key.zero
  persistentKeepaliveInterval := 25
  endpoint := some true
  allowedips := [⟨⟨false, 24⟩, false⟩, ⟨⟨true, 64⟩, false⟩]

/-- A device with that peer. -/
def oneDevice : WgDevice Bool Bool where
  listenPort := 51820
  fwmark := 0xca6c
  peers := [⟨shownPeer, true⟩]

/-- The kernel with that peer. -/
def oneKernel : Kernel Key (Range Bool) Bool where
  peers key := if key = Key.one then some ⟨Key.zero, 25, some true⟩ else none
  route a := if shownPeer.Has a then some Key.one else none
  routed a key h := by
    split_ifs at h
    rw [← Option.some.inj h]
    rfl

theorem deviceOk_oneDevice : DeviceOk twoAddresses oneDevice where
  listenPort := by decide
  fwmark := by decide
  peers := List.forall_mem_singleton.mpr
    { interval := by decide
      ips := List.forall_mem_cons.mpr
        ⟨Nat.le_of_ble_eq_true rfl, List.forall_mem_singleton.mpr (Nat.le_of_ble_eq_true rfl)⟩ }

theorem tells_oneKernel : Tells oneKernel [shownPeer] where
  nodup := List.nodup_singleton _
  mem key hkey := by
    by_contra hne
    have hnone : oneKernel.peers key = none := if_neg fun heq : key = Key.one =>
      hne (heq ▸ List.mem_singleton_self Key.one)
    rw [hnone] at hkey
    cases hkey
  peer := List.forall_mem_singleton.mpr rfl
  has := List.forall_mem_singleton.mpr fun _ => rfl
  route a key := by
    have hroute : oneKernel.route a = if shownPeer.Has a then some Key.one else none := rfl
    rw [hroute, Option.ite_none_right_eq_some, Option.some.injEq]
    constructor
    · rintro ⟨hhas, hkey⟩
      exact ⟨shownPeer, List.mem_singleton_self _, hkey, hhas⟩
    · rintro ⟨p, hp, hkey, hhas⟩
      rw [List.mem_singleton.mp hp] at hkey hhas
      exact ⟨hhas, hkey⟩

theorem setDevice_oneKernel : ∃ dev',
    readConfig twoAddresses ⟨true, 0xffffffff, le_rfl⟩ false (showconf twoAddresses oneDevice) =
      some dev' ∧
    Kernel.empty.setDevice ⟨dev'.replacePeers, dev'.peers.map WgPeer.peer⟩ = oneKernel ∧
    dev'.listenPort = 51820 ∧ dev'.fwmark = 0xca6c ∧ dev'.privateKey = Key.zero :=
  setDevice_showconf lawful_twoAddresses _ deviceOk_oneDevice tells_oneKernel _

end

end OppoA37.WireGuard
