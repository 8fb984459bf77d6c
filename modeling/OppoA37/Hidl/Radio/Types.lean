import OppoA37.Hidl.Radio.Dial

/-!
# The radio wrapper: records of several versions

The interface of the radio grew by versions, and so did its records. The wrapper takes the
newer ones from the framework and the older ones from the real radio:

* data profiles go down, `To1_4DataProfileInfo` and `Get1_0DataProfileInfo`;
* registration states and the results of data calls come up, `Init1_5CellIdentity` and
  `Create1_5SetupDataCallResult`.

What the wrapper only hands on (thresholds, scan requests, messages, the innards of a cell
identity) is a type `R` here.
-/

namespace OppoA37.Hidl

/-! ## Numbers of the interface -/

/-- `RadioResponseType::SOLICITED` -/
def SOLICITED : ℤ := 0

/-- `RadioError::NONE` -/
def RadioError.NONE : ℤ := 0

/-- `RadioError::RADIO_NOT_AVAILABLE` -/
def RadioError.RADIO_NOT_AVAILABLE : ℤ := 1

/-- `RadioError::REQUEST_NOT_SUPPORTED` -/
def RadioError.REQUEST_NOT_SUPPORTED : ℤ := 6

/-- `RadioTechnology::UNKNOWN` -/
def RadioTechnology.UNKNOWN : ℤ := 0

/-- `INT_MAX` -/
def INT_MAX : ℤ := 2 ^ 31 - 1

/-- `V1_0::RegState` -/
inductive RegState where
  | notRegMtNotSearchingOp
  | regHome
  | notRegMtSearchingOp
  | regDenied
  | unknown
  | regRoaming
  | notRegMtNotSearchingOpEmergency
  | notRegMtSearchingOpEmergency
  | regDeniedEmergency
  | unknownEmergency
  deriving DecidableEq, Repr

/-! ## Data profiles -/

/-- `V1_4::PdpProtocolType` -/
inductive PdpProtocolType where
  | unknown
  | ip
  | ipv6
  | ipv4v6
  | ppp
  | nonIp
  | unstructured
  deriving DecidableEq, Repr

/-- `getProtocolStringFromInt` -/
def getProtocolStringFromInt : PdpProtocolType → String
  | .unknown => ""
  | .ip => "IP"
  | .ipv6 => "IPV6"
  | .ipv4v6 => "IPV4V6"
  | .ppp => "PPP"
  | .nonIp => "NON-IP"
  | .unstructured => "UNSTRUCTURED"

/-- What the data profiles of all versions have; `P` is how they spell a protocol. -/
structure DataProfileFields (P : Type) where
  /-- `profileId` -/
  profileId : ℤ
  /-- `apn` -/
  apn : String
  /-- `protocol` -/
  protocol : P
  /-- `roamingProtocol` -/
  roamingProtocol : P
  /-- `authType` -/
  authType : ℤ
  /-- `user` -/
  user : String
  /-- `password` -/
  password : String
  /-- `type` -/
  type : ℤ
  /-- `maxConnsTime` -/
  maxConnsTime : ℤ
  /-- `maxConns` -/
  maxConns : ℤ
  /-- `waitTime` -/
  waitTime : ℤ
  /-- `enabled` -/
  enabled : Bool
  /-- `supportedApnTypesBitmap` -/
  supportedApnTypesBitmap : ℤ
  /-- `bearerBitmap` -/
  bearerBitmap : ℤ
  deriving DecidableEq, Repr

/-- The same profile in another spelling. -/
def DataProfileFields.spell {P Q : Type} (f : P → Q) (p : DataProfileFields P) :
    DataProfileFields Q :=
  { p with protocol := f p.protocol, roamingProtocol := f p.roamingProtocol }

/-- `V1_0::DataProfileInfo` -/
structure V1_0.DataProfileInfo extends DataProfileFields String where
  /-- `mtu` -/
  mtu : ℤ
  /-- `mvnoType`; 0 is `NONE` -/
  mvnoType : ℤ := 0
  /-- `mvnoMatchData` -/
  mvnoMatchData : String := ""
  deriving DecidableEq, Repr

/-- `V1_4::DataProfileInfo` -/
structure V1_4.DataProfileInfo extends DataProfileFields PdpProtocolType where
  /-- `mtu` -/
  mtu : ℤ
  /-- `preferred` -/
  preferred : Bool
  /-- `persistent` -/
  persistent : Bool
  deriving DecidableEq, Repr

/-- `V1_5::DataProfileInfo` -/
structure V1_5.DataProfileInfo extends DataProfileFields PdpProtocolType where
  /-- `mtuV4` -/
  mtuV4 : ℤ
  /-- `mtuV6` -/
  mtuV6 : ℤ
  /-- `preferred` -/
  preferred : Bool
  /-- `persistent` -/
  persistent : Bool
  deriving DecidableEq, Repr

/-- The profile of an ordinary access point. -/
def internetProfile (persistent : Bool) : V1_5.DataProfileInfo where
  profileId := 0
  apn := "internet"
  protocol := .ip
  roamingProtocol := .ip
  authType := 0
  user := ""
  password := ""
  type := 0
  maxConnsTime := 0
  maxConns := 0
  waitTime := 0
  enabled := true
  supportedApnTypesBitmap := 17
  bearerBitmap := 0
  mtuV4 := 1500
  mtuV6 := 1500
  preferred := true
  persistent := persistent

/-- `To1_4DataProfileInfo` -/
def To1_4DataProfileInfo (p : V1_5.DataProfileInfo) : V1_4.DataProfileInfo :=
  { p.toDataProfileFields with
    mtu := p.mtuV4, preferred := p.preferred, persistent := p.persistent }

/-- `Get1_0DataProfileInfo` -/
def Get1_0DataProfileInfo (dataProfileInfo : V1_4.DataProfileInfo) : V1_0.DataProfileInfo :=
  { dataProfileInfo.toDataProfileFields.spell getProtocolStringFromInt with
    mtu := dataProfileInfo.mtu }

@[simp] theorem persistent_To1_4DataProfileInfo (p : V1_5.DataProfileInfo) :
    (To1_4DataProfileInfo p).persistent = p.persistent := rfl

/-! ## Registration states -/

/-- `V1_0::CellIdentity` -/
structure V1_0.CellIdentity (R : Type) where
  /-- `cellIdentityGsm` -/
  cellIdentityGsm : List R
  /-- `cellIdentityWcdma` -/
  cellIdentityWcdma : List R
  /-- `cellIdentityCdma` -/
  cellIdentityCdma : List R
  /-- `cellIdentityLte` -/
  cellIdentityLte : List R
  /-- `cellIdentityTdscdma` -/
  cellIdentityTdscdma : List R
  deriving DecidableEq, Repr

/-- `V1_5::CellIdentity`, a tagged union. -/
inductive V1_5.CellIdentity (R : Type) where
  | noinit
  | gsm (base : R)
  | wcdma (base : R)
  | tdscdma (base : R) (uarfcn : ℤ)
  | cdma (base : R)
  | lte (base : R) (bandwidth : ℤ)
  deriving DecidableEq, Repr

/-- `Init1_5CellIdentity`, from a new identity on. -/
def Init1_5CellIdentity {R : Type} (legacyCI : V1_0.CellIdentity R) : V1_5.CellIdentity R :=
  match legacyCI.cellIdentityGsm, legacyCI.cellIdentityWcdma, legacyCI.cellIdentityTdscdma,
    legacyCI.cellIdentityCdma, legacyCI.cellIdentityLte with
  | [gsm], _, _, _, _ => .gsm gsm
  | _, [wcdma], _, _, _ => .wcdma wcdma
  | _, _, [tdscdma], _, _ => .tdscdma tdscdma INT_MAX
  | _, _, _, [cdma], _ => .cdma cdma
  | _, _, _, _, [lte] => .lte lte INT_MAX
  | _, _, _, _, _ => .noinit

/-- What `V1_0::VoiceRegStateResult` and `V1_0::DataRegStateResult` tell of a registration;
`reasonForDenial` is the `reasonDataDenied` of the latter. -/
structure V1_0.RegStateResult (R : Type) where
  /-- `regState` -/
  regState : RegState
  /-- `rat` -/
  rat : ℤ
  /-- `reasonForDenial` -/
  reasonForDenial : ℤ
  /-- `cellIdentity` -/
  cellIdentity : V1_0.CellIdentity R
  deriving DecidableEq, Repr

/-- `V1_5::RegStateResult` -/
structure V1_5.RegStateResult (R : Type) where
  /-- `regState` -/
  regState : RegState
  /-- `rat` -/
  rat : ℤ
  /-- `reasonForDenial` -/
  reasonForDenial : ℤ
  /-- `cellIdentity` -/
  cellIdentity : V1_5.CellIdentity R
  /-- `registeredPlmn` -/
  registeredPlmn : String
  deriving DecidableEq, Repr

/-- How a registration state comes up to version 1.5. -/
def V1_0.RegStateResult.raise {R : Type} (mOperatorNumeric : String) (r : V1_0.RegStateResult R) :
    V1_5.RegStateResult R :=
  ⟨r.regState, r.rat, r.reasonForDenial, Init1_5CellIdentity r.cellIdentity, mOperatorNumeric⟩

/-! ## Data calls -/

/-- `\s` of a regular expression. -/
def isSpace (c : Char) : Bool := c ∈ [' ', '\t', '\n', '\x0b', '\x0c', '\r']

/-- `DelimitedStrToVec`: the pieces between runs of spaces. Spaces in front leave an empty first
piece, spaces at the end leave none. -/
def DelimitedStrToVec (delimitedStr : String) : List String :=
  match delimitedStr.toList.splitOnP isSpace with
  | [] => []
  | first :: rest => (first :: rest.filter (· ≠ [])).map String.ofList

/-- What the results of a data call have in all versions; `P` is how they spell a protocol and
`A` an address. -/
structure SetupDataCallFields (P A V : Type) where
  /-- `status`, from 1.4 on `cause` -/
  cause : ℤ
  /-- `suggestedRetryTime` -/
  suggestedRetryTime : ℤ
  /-- `cid` -/
  cid : ℤ
  /-- `active` -/
  active : ℤ
  /-- `type` -/
  type : P
  /-- `ifname` -/
  ifname : String
  /-- `addresses` -/
  addresses : A
  /-- `dnses` -/
  dnses : V
  /-- `gateways` -/
  gateways : V
  /-- `pcscf` -/
  pcscf : V
  deriving DecidableEq, Repr

/-- `V1_0::SetupDataCallResult` -/
structure V1_0.SetupDataCallResult extends SetupDataCallFields String String String where
  /-- `mtu` -/
  mtu : ℤ
  deriving DecidableEq, Repr

/-- `V1_5::LinkAddress` -/
structure LinkAddress where
  /-- `address` -/
  address : String
  /-- `properties` -/
  properties : ℕ := 0
  /-- `deprecationTime` -/
  deprecationTime : ℕ := 2 ^ 64 - 1
  /-- `expirationTime` -/
  expirationTime : ℕ := 2 ^ 64 - 1
  deriving DecidableEq, Repr

/-- `V1_5::SetupDataCallResult` -/
structure V1_5.SetupDataCallResult extends
    SetupDataCallFields PdpProtocolType (List LinkAddress) (List String) where
  /-- `mtuV4` -/
  mtuV4 : ℤ
  /-- `mtuV6` -/
  mtuV6 : ℤ
  deriving DecidableEq, Repr

/-- The protocol of `Create1_5SetupDataCallResult`. -/
def protocolOf (type : String) : PdpProtocolType :=
  if type = "IP" then .ip
  else if type = "IPV6" then .ipv6
  else if type = "IPV4V6" then .ipv4v6
  else if type = "PPP" then .ppp
  else .unknown

/-- `Create1_5SetupDataCallResult` -/
def Create1_5SetupDataCallResult (dcResponse : V1_0.SetupDataCallResult) :
    V1_5.SetupDataCallResult where
  cause := dcResponse.cause
  suggestedRetryTime := dcResponse.suggestedRetryTime
  cid := dcResponse.cid
  active := dcResponse.active
  type := protocolOf dcResponse.type
  ifname := dcResponse.ifname
  addresses := (DelimitedStrToVec dcResponse.addresses).map fun a => { address := a }
  dnses := DelimitedStrToVec dcResponse.dnses
  gateways := DelimitedStrToVec dcResponse.gateways
  pcscf := DelimitedStrToVec dcResponse.pcscf
  mtuV4 := dcResponse.mtu
  mtuV6 := dcResponse.mtu

/-- A protocol that a data call names comes back as itself, unless it is one of the two that
only 1.4 knew. -/
theorem protocolOf_getProtocolStringFromInt (protocol : PdpProtocolType) :
    protocolOf (getProtocolStringFromInt protocol) =
      if protocol = .nonIp ∨ protocol = .unstructured then .unknown else protocol := by
  cases protocol <;> decide

end OppoA37.Hidl
