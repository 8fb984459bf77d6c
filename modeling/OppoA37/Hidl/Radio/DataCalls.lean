import OppoA37.Hidl.Radio.Types
import OppoA37.Lib.Text

/-!
# The radio wrapper: two conversions of a data call

The result of a data call comes up to version 1.4 or to version 1.5, and the two converters were
written one after the other. They go apart in two ways:

* 1.4 knows the protocols `NON-IP` and `UNSTRUCTURED`, and the converter to 1.5 does not name them:
  `protocolOf1_4_eq_iff`.
* Both take lists apart with `DelimitedStrToVec`, which makes an empty piece of a blank in front,
  or of nothing at all: `DelimitedStrToVec_eq_tokens_iff`.

`agree_iff` says that this is all.
-/

namespace OppoA37.Hidl

/-! ## The conversion to 1.4 -/

/-- `V1_4::SetupDataCallResult` -/
structure V1_4.SetupDataCallResult extends
    SetupDataCallFields PdpProtocolType (List String) (List String) where
  /-- `mtu` -/
  mtu : ℤ
  deriving DecidableEq, Repr

/-- The protocol of `Create1_4SetupDataCallResult`. -/
def protocolOf1_4 (type : String) : PdpProtocolType :=
  if type = "IP" then .ip
  else if type = "IPV6" then .ipv6
  else if type = "IPV4V6" then .ipv4v6
  else if type = "PPP" then .ppp
  else if type = "NON-IP" then .nonIp
  else if type = "UNSTRUCTURED" then .unstructured
  else .unknown

/-- `Create1_4SetupDataCallResult` -/
def Create1_4SetupDataCallResult (dcResponse : V1_0.SetupDataCallResult) :
    V1_4.SetupDataCallResult where
  cause := dcResponse.cause
  suggestedRetryTime := dcResponse.suggestedRetryTime
  cid := dcResponse.cid
  active := dcResponse.active
  ifname := dcResponse.ifname
  mtu := dcResponse.mtu
  addresses := DelimitedStrToVec dcResponse.addresses
  dnses := DelimitedStrToVec dcResponse.dnses
  gateways := DelimitedStrToVec dcResponse.gateways
  pcscf := DelimitedStrToVec dcResponse.pcscf
  type := protocolOf1_4 dcResponse.type

/-! ## What is claimed -/

/-- What is between white space, unless it is empty. -/
def tokens (s : String) : List String := (Text.words isSpace s.toList).map String.ofList

/-- The same result with other addresses. -/
def SetupDataCallFields.mapAddresses {P A B V : Type} (f : A → B)
    (r : SetupDataCallFields P A V) : SetupDataCallFields P B V :=
  { r with addresses := f r.addresses }

/-- The two results agree, and their lists are those of the source. -/
structure DataCallsAgree (r : V1_0.SetupDataCallResult) (r4 : V1_4.SetupDataCallResult)
    (r5 : V1_5.SetupDataCallResult) : Prop where
  /-- all that both have, with the texts of the addresses -/
  fields : r5.toSetupDataCallFields.mapAddresses (List.map LinkAddress.address) =
    r4.toSetupDataCallFields
  /-- `mtuV4` -/
  mtuV4 : r5.mtuV4 = r4.mtu
  /-- `mtuV6` -/
  mtuV6 : r5.mtuV6 = r4.mtu
  /-- `addresses` -/
  addresses : r4.addresses = tokens r.addresses
  /-- `dnses` -/
  dnses : r4.dnses = tokens r.dnses
  /-- `gateways` -/
  gateways : r4.gateways = tokens r.gateways
  /-- `pcscf` -/
  pcscf : r4.pcscf = tokens r.pcscf

/-- A text starts with a word. -/
def StartsWithWord (s : String) : Prop := ∃ c ∈ s.toList.head?, isSpace c = false

/-! ## Pieces and words -/

/-- There is something in front of the first separator when the text starts with a word. -/
theorem head_splitOnP_ne_nil_iff {s first : List Char} {rest : List (List Char)}
    (h : s.splitOnP isSpace = first :: rest) :
    first ≠ [] ↔ ∃ c ∈ s.head?, isSpace c = false := by
  cases s with
  | nil =>
    rw [List.splitOnP_nil] at h
    obtain ⟨rfl, -⟩ := List.cons.inj h
    simp
  | cons c s =>
    rw [List.splitOnP_cons_eq_if_modifyHead] at h
    rw [List.head?_cons]
    split_ifs at h with hc
    · obtain ⟨rfl, -⟩ := List.cons.inj h
      simp [hc]
    · obtain ⟨w, ws, hs⟩ := List.exists_cons_of_ne_nil (List.splitOnP_ne_nil isSpace s)
      rw [hs, List.modifyHead_cons] at h
      obtain ⟨rfl, -⟩ := List.cons.inj h
      simpa using hc

/-- **The pieces of a list** are its words just if it starts with one. -/
theorem DelimitedStrToVec_eq_tokens_iff (s : String) :
    DelimitedStrToVec s = tokens s ↔ StartsWithWord s := by
  obtain ⟨first, rest, hs⟩ := List.exists_cons_of_ne_nil (List.splitOnP_ne_nil isSpace s.toList)
  rw [StartsWithWord, ← head_splitOnP_ne_nil_iff hs, DelimitedStrToVec, tokens, Text.words, hs]
  by_cases hfirst : first = []
  · refine iff_of_false (fun heq => ?_) (not_not_intro hfirst)
    have hlen := congrArg List.length heq
    rw [List.filter_cons_of_neg (by simp [hfirst]), List.length_map, List.length_map,
      List.length_cons] at hlen
    omega
  · refine iff_of_true ?_ hfirst
    rw [List.filter_cons_of_pos (by simpa using hfirst)]

/-- The protocols of the two converters are the same, unless it is one that only 1.4 knows. -/
theorem protocolOf1_4_eq_iff (type : String) :
    protocolOf type = protocolOf1_4 type ↔ type ≠ "NON-IP" ∧ type ≠ "UNSTRUCTURED" := by
  rcases eq_or_ne type "NON-IP" with rfl | hnonIp
  · exact iff_of_false (by decide) fun h => h.1 rfl
  rcases eq_or_ne type "UNSTRUCTURED" with rfl | hunstructured
  · exact iff_of_false (by decide) fun h => h.2 rfl
  · refine iff_of_true ?_ ⟨hnonIp, hunstructured⟩
    rw [protocolOf, protocolOf1_4, if_neg hnonIp, if_neg hunstructured]

/-! ## The two conversions -/

/-- What both have is the same when the protocol is. -/
theorem fields_eq_iff (r : V1_0.SetupDataCallResult) :
    (Create1_5SetupDataCallResult r).toSetupDataCallFields.mapAddresses
        (List.map LinkAddress.address) = (Create1_4SetupDataCallResult r).toSetupDataCallFields ↔
      protocolOf r.type = protocolOf1_4 r.type := by
  refine ⟨?_, ?_⟩
  · exact congrArg SetupDataCallFields.type
  · intro htype
    have haddresses : ((DelimitedStrToVec r.addresses).map fun a =>
        ({ address := a } : LinkAddress)).map LinkAddress.address =
          DelimitedStrToVec r.addresses := by
      rw [List.map_map]
      exact List.map_id _
    rw [SetupDataCallFields.mapAddresses, Create1_5SetupDataCallResult,
      Create1_4SetupDataCallResult]
    dsimp only
    rw [htype, haddresses]

/-- **The conversions to 1.4 and to 1.5 agree**, and their lists are the words of the source, just
if the protocol is not one that only 1.4 knows and every list starts with a word. -/
theorem agree_iff (r : V1_0.SetupDataCallResult) :
    DataCallsAgree r (Create1_4SetupDataCallResult r) (Create1_5SetupDataCallResult r) ↔
      (r.type ≠ "NON-IP" ∧ r.type ≠ "UNSTRUCTURED") ∧ StartsWithWord r.addresses ∧
        StartsWithWord r.dnses ∧ StartsWithWord r.gateways ∧ StartsWithWord r.pcscf := by
  rw [← protocolOf1_4_eq_iff, ← fields_eq_iff, ← DelimitedStrToVec_eq_tokens_iff,
    ← DelimitedStrToVec_eq_tokens_iff, ← DelimitedStrToVec_eq_tokens_iff,
    ← DelimitedStrToVec_eq_tokens_iff]
  refine ⟨?_, ?_⟩
  · rintro ⟨hfields, -, -, haddresses, hdnses, hgateways, hpcscf⟩
    exact ⟨hfields, haddresses, hdnses, hgateways, hpcscf⟩
  · rintro ⟨hfields, haddresses, hdnses, hgateways, hpcscf⟩
    exact ⟨hfields, rfl, rfl, haddresses, hdnses, hgateways, hpcscf⟩

/-- A data call without a proxy for calls. -/
def nonIpCall (type : String) : V1_0.SetupDataCallResult where
  cause := 0
  suggestedRetryTime := -1
  cid := 1
  active := 2
  type := type
  ifname := "rmnet0"
  addresses := "10.0.0.2/30"
  dnses := "10.0.0.1 10.0.0.3"
  gateways := "10.0.0.1"
  pcscf := ""
  mtu := 1500

/-- One that is not for the internet protocol is unknown to 1.5, and both list a proxy without a
name, also when it is. -/
theorem nonIpCall_disagree :
    ¬ DataCallsAgree (nonIpCall "NON-IP") (Create1_4SetupDataCallResult (nonIpCall "NON-IP"))
        (Create1_5SetupDataCallResult (nonIpCall "NON-IP")) ∧
      ¬ DataCallsAgree (nonIpCall "IP") (Create1_4SetupDataCallResult (nonIpCall "IP"))
        (Create1_5SetupDataCallResult (nonIpCall "IP")) := by
  refine ⟨?_, ?_⟩
  · rintro ⟨hfields, -⟩
    have htype : PdpProtocolType.unknown = .nonIp := congrArg SetupDataCallFields.type hfields
    cases htype
  · rintro ⟨-, -, -, -, -, -, hpcscf⟩
    have hlen : 1 = 0 := congrArg List.length hpcscf
    cases hlen

end OppoA37.Hidl
