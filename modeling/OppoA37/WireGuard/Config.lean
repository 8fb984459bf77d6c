import OppoA37.Lib.Numeral
import OppoA37.Lib.Text
import OppoA37.WireGuard.Device
import OppoA37.WireGuard.Encoding

/-!
# The configuration files of WireGuard, after `config.c` and `showconf.c`

A file has a section for the device and one for each peer. `config_read_line` reads it line by line,
without comments and white space, and `showconf` writes it. How an address looks as text is left to
the C library.

* `processPeerLine` and `processLine` are what a line does;
* `showconf` is the text that is written.
-/

namespace OppoA37.WireGuard

open Numeral Text

/-! ## Characters -/

/-- `char_is_space` -/
def charIsSpace (c : Char) : Bool :=
  let d : BitVec 8 := BitVec.ofNat 8 c.toNat - 9
  ((0x80001F#32 >>> (d &&& 31).toNat) &&& (1#32 >>> (d >>> 5).toNat)) != 0

/-- `char_is_digit` -/
def charIsDigit (c : Char) : Bool :=
  let c : BitVec 32 := BitVec.ofNat 32 c.toNat
  ((48 - 1 - c) &&& (c - (57 + 1))) >>> 31 != 0

/-- Two texts differ in the case of letters at most. -/
def sameText (s t : List Char) : Bool := decide (s.map Char.toLower = t.map Char.toLower)

/-- `get_value` -/
def getValue (line key : List Char) : Option (List Char) :=
  if key.length ≥ line.length then none
  else if sameText (line.take key.length) key then some (line.drop key.length)
  else none

/-- `strsep`: what is in front of the separator, and what is behind it, if there is one. -/
def strsep (sep : Char) (s : List Char) : List Char × Option (List Char) :=
  (s.takeWhile (· ≠ sep), if sep ∈ s then some (s.dropWhile (· ≠ sep)).tail else none)

/-! ## What is configured -/

/-- The key of which all bytes are zero. -/
def Key.zero : Key := ⟨List.replicate 32 0, rfl⟩

instance : Zero Key := ⟨Key.zero⟩

/-- `struct wgallowedip`, but for the flags. -/
structure Range (A : Type) where
  addr : A
  cidr : ℕ
  deriving DecidableEq

/-- `struct wgpeer`, with `WGPEER_HAS_PUBLIC_KEY`. -/
structure WgPeer (A E : Type) where
  peer : Peer Key (Range A) E
  hasPublicKey : Bool

/-- `struct wgdevice`, with its flags. -/
structure WgDevice (A E : Type) where
  listenPort : ℕ := 0
  fwmark : ℕ := 0
  privateKey : Key := 0
  hasListenPort : Bool := false
  hasFwmark : Bool := false
  hasPrivateKey : Bool := false
  replacePeers : Bool := false
  peers : List (WgPeer A E) := []

/-- Addresses as text, in the C library. -/
structure Inet (A E : Type) where
  /-- the family is `AF_INET6` -/
  ip6 : A → Bool
  /-- `inet_ntop` -/
  ntop : A → List Char
  /-- `inet_pton`, for `AF_INET6` or `AF_INET` -/
  pton : Bool → List Char → Option A
  /-- the family of an endpoint is `AF_INET6` -/
  endpoint6 : E → Bool
  /-- `getnameinfo`: the host and the port -/
  nameInfo : E → List Char × List Char
  /-- `getaddrinfo` of a host and a port, at the last try -/
  addrInfo : List Char → List Char → Option E
  /-- `getaddrinfo` of a port alone -/
  port : List Char → Option ℕ

/-- What the library is compiled for. -/
structure Platform where
  /-- `char` is signed -/
  signed : Bool
  /-- `ULONG_MAX` -/
  ulongMax : ℕ
  ulongMax_le : 0xffffffff ≤ ulongMax

/-! ## Values -/

section

variable {A E : Type} (inet : Inet A E) (pf : Platform)

/-- Characters as bytes. -/
def bytesOf (s : List Char) : List Byte := s.map fun c => BitVec.ofNat 8 c.toNat

/-- Bytes as characters. -/
def textOf (bytes : List Byte) : List Char := bytes.map fun b => Char.ofNat b.toNat

/-- The bytes of a key that is read. -/
def parsedBytes (value : List Char) : Bool × List Byte :=
  keyFromBase64 pf.signed Key.zero.bytes (bytesOf value)

theorem length_parsedBytes (value : List Char) :
    (parsedBytes pf value).2.length = WG_KEY_LEN :=
  length_keyFromBase64 pf.signed Key.zero.length_eq (bytesOf value)

/-- `parse_key` -/
def parseKey (value : List Char) : Option Key :=
  if (parsedBytes pf value).1 then some ⟨(parsedBytes pf value).2, length_parsedBytes pf value⟩
  else none

/-- `parse_fwmark` -/
def parseFwmark (value : List Char) : Option ℕ :=
  if sameText value "off".toList then some 0
  else if !charIsDigit (value.headD NUL) then none
  else
    let base := if 2 < value.length ∧ value.take 2 = ['0', 'x'] then 16 else 10
    let (ret, rest) := strtoul pf.ulongMax base value
    if rest ≠ [] ∨ ret > 0xffffffff then none else some ret

/-- `parse_persistent_keepalive` -/
def parsePersistentKeepalive (value : List Char) : Option ℕ :=
  if sameText value "off".toList then some 0
  else if !charIsDigit (value.headD NUL) then none
  else
    let (ret, rest) := strtoul pf.ulongMax 10 value
    if rest ≠ [] ∨ ret > 65535 then none else some ret

/-- `parse_endpoint` -/
def parseEndpoint (value : List Char) : Option E :=
  match value with
  | [] => none
  | '[' :: rest =>
    match strsep ']' rest with
    | (host, some (':' :: c :: service)) => inet.addrInfo host (c :: service)
    | _ => none
  | value =>
    -- the last `:` is the one that counts
    match strsep ':' value.reverse with
    | (c :: service, some host) => inet.addrInfo host.reverse (c :: service).reverse
    | _ => none

/-- `parse_ip_prefix`: `WGALLOWEDIP_REMOVE_ME`, `WGPEER_REPLACE_ALLOWEDIPS`, and what is behind. -/
def parseIpPrefix (replace : Bool) (mask : List Char) : Bool × Bool × List Char :=
  match mask with
  | '-' :: mask => (true, false, mask)
  | '+' :: mask => (false, false, mask)
  | mask => (false, replace, mask)

/-- The number behind the slash. -/
def parseCidr (limit : ℕ) : Option (List Char) → Option ℕ
  | none => some limit
  | some mask =>
    if !charIsDigit (mask.headD NUL) then none
    else
      let (cidr, rest) := strtoul pf.ulongMax 10 mask
      if rest ≠ [] ∨ cidr > limit then none else some cidr

/-- An address of the list, in `parse_allowedips`. -/
def parseAllowedip (p : Peer Key (Range A) E) (entry : List Char) :
    Option (Peer Key (Range A) E) := do
  let (remove, replace, mask) := parseIpPrefix p.replaceAllowedips entry
  let (ip, mask) := strsep '/' mask
  let v6 := decide (':' ∈ ip)
  let addr ← inet.pton v6 ip
  let cidr ← parseCidr pf (if v6 then 128 else 32) mask
  some { p with
    replaceAllowedips := replace
    allowedips := p.allowedips ++ [⟨⟨addr, cidr⟩, remove⟩] }

/-- `parse_allowedips` -/
def parseAllowedips (p : Peer Key (Range A) E) (value : List Char) :
    Option (Peer Key (Range A) E) :=
  let p := { p with replaceAllowedips := true }
  if value = [] then some p else (value.splitOn ',').foldlM (parseAllowedip inet pf) p

/-! ## Lines -/

/-- Where the reader is. The peer that lines are for is the last one. -/
structure ConfigCtx (A E : Type) where
  device : WgDevice A E
  isPeerSection : Bool := false
  isDeviceSection : Bool := false

/-- A line of the section of the device, in `process_line`. -/
def processDeviceLine (dev : WgDevice A E) (line : List Char) : Option (WgDevice A E) :=
  match getValue line "ListenPort=".toList with
  | some value => (inet.port value).map fun port =>
      { dev with listenPort := port, hasListenPort := true }
  | none =>
  match getValue line "FwMark=".toList with
  | some value => (parseFwmark pf value).map fun mark =>
      { dev with fwmark := mark, hasFwmark := true }
  | none =>
  match getValue line "PrivateKey=".toList with
  | some value => (parseKey pf value).map fun key =>
      { dev with privateKey := key, hasPrivateKey := true }
  | none => none

/-- A line of the section of a peer, in `process_line`. -/
def processPeerLine (p : WgPeer A E) (line : List Char) : Option (WgPeer A E) :=
  match getValue line "Endpoint=".toList with
  | some value => (parseEndpoint inet value).map fun e =>
      { p with peer := { p.peer with endpoint := some e } }
  | none =>
  match getValue line "PublicKey=".toList with
  | some value => (parseKey pf value).map fun key =>
      { peer := { p.peer with publicKey := key }, hasPublicKey := true }
  | none =>
  match getValue line "AllowedIPs=".toList with
  | some value => (parseAllowedips inet pf p.peer value).map fun peer => { p with peer := peer }
  | none =>
  match getValue line "PersistentKeepalive=".toList with
  | some value => (parsePersistentKeepalive pf value).map fun interval =>
      { p with peer := { p.peer with
          persistentKeepaliveInterval := interval
          hasPersistentKeepalive := true } }
  | none =>
  match getValue line "PresharedKey=".toList with
  | some value => (parseKey pf value).map fun key =>
      { p with peer := { p.peer with presharedKey := key, hasPresharedKey := true } }
  | none => none

/-- A peer whose section begins. -/
def newPeer : WgPeer A E where
  peer := { publicKey := 0, presharedKey := 0, replaceAllowedips := true }
  hasPublicKey := false

/-- The last peer is changed, if that works. -/
def updateLast (f : WgPeer A E → Option (WgPeer A E)) (peers : List (WgPeer A E)) :
    Option (List (WgPeer A E)) :=
  peers.getLast?.bind fun p => (f p).map fun p => peers.dropLast ++ [p]

/-- `process_line` -/
def processLine (ctx : ConfigCtx A E) (line : List Char) : Option (ConfigCtx A E) :=
  if sameText line "[Interface]".toList then
    some { ctx with isPeerSection := false, isDeviceSection := true }
  else if sameText line "[Peer]".toList then
    some
      { device := { ctx.device with peers := ctx.device.peers ++ [newPeer] }
        isPeerSection := true
        isDeviceSection := false }
  else if ctx.isDeviceSection then
    (processDeviceLine inet pf ctx.device line).map fun dev => { ctx with device := dev }
  else if ctx.isPeerSection then
    (updateLast (processPeerLine inet pf · line) ctx.device.peers).map fun peers =>
      { ctx with device := { ctx.device with peers := peers } }
  else none

/-- A line without comment and white space. -/
def clean (input : List Char) : List Char :=
  (input.takeWhile (· ≠ '#')).filter fun c => !charIsSpace c

/-- `config_read_line` -/
def configReadLine (ctx : ConfigCtx A E) (input : List Char) : Option (ConfigCtx A E) :=
  if clean input = [] then some ctx else processLine inet pf ctx (clean input)

/-- `config_read_init` -/
def configReadInit (append : Bool) : ConfigCtx A E where
  device :=
    { hasListenPort := !append
      hasFwmark := !append
      hasPrivateKey := !append
      replacePeers := !append }

/-- `config_read_finish` -/
def configReadFinish (ctx : ConfigCtx A E) : Option (WgDevice A E) :=
  if ctx.device.peers.all WgPeer.hasPublicKey then some ctx.device else none

/-- The file that is read in `setconf_main`. -/
def readConfig (append : Bool) (text : List Char) : Option (WgDevice A E) :=
  ((getLines text).foldlM (configReadLine inet pf) (configReadInit append)).bind configReadFinish

/-! ## The text that is written -/

/-- A key as text. -/
def Key.text (key : Key) : List Char := textOf (keyToBase64 key.bytes)

/-- The addresses of a peer, in `showconf_main`. -/
def allowedipsText (ips : List (AllowedIp (Range A))) : List Char :=
  ", ".toList.intercalate
    (ips.map fun ip => inet.ntop ip.ip.addr ++ '/' :: Nat.toDigits 10 ip.ip.cidr)

/-- The endpoint of a peer, in `showconf_main`. -/
def endpointText (e : E) : List Char :=
  let (host, service) := inet.nameInfo e
  if inet.endpoint6 e ∧ ':' ∈ host then '[' :: host ++ "]:".toList ++ service
  else host ++ ':' :: service

/-- The lines of a peer, in `showconf_main`. -/
def peerLines (p : Peer Key (Range A) E) : List (List Char) :=
  ["[Peer]".toList, "PublicKey = ".toList ++ p.publicKey.text] ++
  (if p.hasPresharedKey then ["PresharedKey = ".toList ++ p.presharedKey.text] else []) ++
  (if p.allowedips = [] then []
    else ["AllowedIPs = ".toList ++ allowedipsText inet p.allowedips]) ++
  p.endpoint.toList.map (fun e => "Endpoint = ".toList ++ endpointText inet e) ++
  if p.persistentKeepaliveInterval = 0 then []
  else ["PersistentKeepalive = ".toList ++ Nat.toDigits 10 p.persistentKeepaliveInterval]

/-- The lines of the device, in `showconf_main`. -/
def deviceLines (dev : WgDevice A E) : List (List Char) :=
  ["[Interface]".toList] ++
  (if dev.listenPort = 0 then []
    else ["ListenPort = ".toList ++ Nat.toDigits 10 dev.listenPort]) ++
  (if dev.fwmark = 0 then [] else ["FwMark = 0x".toList ++ Nat.toDigits 16 dev.fwmark]) ++
  (if dev.hasPrivateKey then ["PrivateKey = ".toList ++ dev.privateKey.text] else []) ++
  [[]]

/-- What `showconf_main` writes. -/
def showconf (dev : WgDevice A E) : List Char :=
  (deviceLines dev ++
    [[]].intercalate (dev.peers.map fun p => peerLines inet p.peer)).flatMap (· ++ ['\n'])

end

end OppoA37.WireGuard
