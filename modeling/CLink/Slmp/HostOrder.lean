import CLink.Common.HostOrder
import CLink.Slmp.BuiltFrames
import CLink.Slmp.Master

/-!
# Frames on a host of either byte order

The results of all functions that check a received payload, and the values that their callers take
from it, on a host of byte order `e`.

* `SlmpValues`            headers, and the values taken from the SLMP frames: alike on every host;
* `SlmpPayload`           the five frames whose functions compare the length field as it lies in memory;
* `payloadAccepted_eq`    that comparison, and the checks after it;
* `LengthDecides`         payloads for which only the length field decides;
* `hostOrder`             the hosts agree on all other payloads, and on these they do not;
* `payloadAccepted_..`    the frames that either host builds are accepted by little-endian hosts only.
-/

namespace CLink
open Bytes

/-! ## values -/

/-- what the callers take from SLMP payloads, with the results for the headers -/
structure SlmpValues where
  /-- is a request, is valid, command, sub command -/
  requestHeader : Option (Bool × Bool × UInt16 × UInt16)
  /-- is a response, is valid, serial number, end code -/
  responseHeader : Option (Bool × Bool × UInt16 × UInt16)
  /-- master IP address, serial number, master MAC address -/
  nodeSearchRequest : Option (IpAddr × UInt16 × MacAddr)
  nodeSearchResponse : Option NodeSearchResponseEntry
  /-- master IP address, new IP address and netmask, serial number, MAC addresses -/
  setIpRequest : Option (IpAddr × IpAddr × IpAddr × UInt16 × MacAddr × MacAddr)
  /-- command, sub command -/
  errorResponse : Option (UInt16 × UInt16)

def slmpValues (e : Endian) (dg : Datagram) : SlmpValues :=
  { requestHeader := (clSlmpParseRequestHeader e dg).map (fun h =>
      (clSlmpIsHeaderRequest e h, clSlmpValidateRequestHeader e h dg.len, e.le16 h.command,
        e.le16 h.subCommand))
    responseHeader := (clSlmpParseResponseHeader e dg).map (fun h =>
      (clSlmpIsHeaderResponse e h, clSlmpValidateResponseHeader e h dg.len, e.le16 h.serial,
        e.le16 h.endcode))
    nodeSearchRequest := (clSlmpParseNodeSearchRequest e dg).map (fun r =>
      (e.le32 r.masterIpAddr, e.le16 r.header.serial, clUtilCopyMacReverse r.masterMacAddr))
    nodeSearchResponse := (clSlmpParseNodeSearchResponse e dg).map (nodeSearchResult e)
    setIpRequest := (clSlmpParseSetIpRequest e dg).map (fun r =>
      (e.le32 r.masterIpAddr, e.le32 r.slaveNewIpAddr, e.le32 r.slaveNewNetmask,
        e.le16 r.header.serial, clUtilCopyMacReverse r.masterMacAddr,
        clUtilCopyMacReverse r.slaveMacAddr))
    errorResponse := (clSlmpParseErrorResponse e dg).map (fun r =>
      (e.le16 r.command, e.le16 r.subCommand)) }

/-- every value is converted -/
theorem slmpValues_host (e : Endian) (dg : Datagram) : slmpValues e dg = slmpValues .little dg := by
  simp only [slmpValues, clSlmpParseRequestHeader, clSlmpParseResponseHeader,
    clSlmpParseNodeSearchRequest, clSlmpParseNodeSearchResponse, clSlmpParseSetIpRequest,
    clSlmpParseErrorResponse, apply_ite (Option.map _), Option.map_none, Option.map_some,
    clSlmpIsHeaderRequest, clSlmpValidateRequestHeader, clSlmpIsHeaderResponse,
    clSlmpValidateResponseHeader, nodeSearchResult, SlmpReqHeader.ofBuffer,
    SlmpRespHeader.ofBuffer, NodeSearchRequest.ofBuffer, NodeSearchResp.ofBuffer,
    SetIpaddrRequest.ofBuffer, ErrorResp.ofBuffer, Endian.le16_raw16, Endian.be16_raw16,
    Endian.le32_raw32]

/-! ## payloads -/

inductive SlmpPayload where
  | nodeSearchRequest
  | nodeSearchResponse
  | setIpRequest
  | setIpResponse
  | errorResponse
  deriving DecidableEq, Repr

namespace SlmpPayload

def size : SlmpPayload → Nat
  | nodeSearchRequest => NodeSearchRequest.size
  | nodeSearchResponse => NodeSearchResp.size
  | setIpRequest => SetIpaddrRequest.size
  | setIpResponse => SetIpaddrResp.size
  | errorResponse => ErrorResp.size

/-- the number that the length field has to hold -/
def length (k : SlmpPayload) : Nat := k.size - slmpRespHeaderLengthOffset

end SlmpPayload

/-- the parser and then the check of the payload; `none` when the parser rejects the size -/
def payloadAccepted (e : Endian) (myMacAddr : MacAddr) (dg : Datagram) : SlmpPayload → Option Bool
  | .nodeSearchRequest =>
    (clSlmpParseNodeSearchRequest e dg).map (clSlmpValidateNodeSearchRequest e)
  | .nodeSearchResponse =>
    (clSlmpParseNodeSearchResponse e dg).map (clSlmpValidateNodeSearchResponse e)
  | .setIpRequest => (clSlmpParseSetIpRequest e dg).map (clSlmpValidateSetIpRequest e)
  | .setIpResponse =>
    (clSlmpParseSetIpResponse e dg).map (clSlmpValidateSetIpResponse e · myMacAddr)
  | .errorResponse => (clSlmpParseErrorResponse e dg).map (clSlmpValidateErrorResponse e)

/-- the checks of the payload apart from the one of its length: the length field is taken for right -/
def otherwiseValid (e : Endian) (myMacAddr : MacAddr) (dg : Datagram) (k : SlmpPayload) : Bool :=
  let length := UInt16.ofNat k.length
  match k with
  | .nodeSearchRequest =>
    let r := NodeSearchRequest.ofBuffer e dg.byte
    clSlmpValidateNodeSearchRequest e { r with header := { r.header with length := length } }
  | .nodeSearchResponse =>
    let r := NodeSearchResp.ofBuffer e dg.byte
    clSlmpValidateNodeSearchResponse e { r with header := { r.header with length := length } }
  | .setIpRequest =>
    let r := SetIpaddrRequest.ofBuffer e dg.byte
    clSlmpValidateSetIpRequest e { r with header := { r.header with length := length } }
  | .setIpResponse =>
    let r := SetIpaddrResp.ofBuffer e dg.byte
    clSlmpValidateSetIpResponse e { r with header := { r.header with length := length } } myMacAddr
  | .errorResponse =>
    let r := ErrorResp.ofBuffer e dg.byte
    clSlmpValidateErrorResponse e { r with header := { r.header with length := length } }

theorem checkLength {length n : Nat} (hn : (UInt16.ofNat n).toNat = n) (rest : Bool) :
    (if length ≠ n then false else rest)
      = (decide (length = n) && if (UInt16.ofNat n).toNat ≠ n then false else rest) := by
  rw [hn]
  by_cases h : length = n
  · simp [h]
  · simp [h]

theorem map_parse {α : Type} {p : Prop} [Decidable p] {f : α → Bool} {r : α} {x : Bool}
    (h : f r = x) : (if p then none else some r).map f = if p then none else some x := by
  by_cases hp : p
  · rw [if_pos hp, if_pos hp]
    rfl
  · rw [if_neg hp, if_neg hp, Option.map_some, h]

section
variable (e : Endian) (myMacAddr : MacAddr) (dg : Datagram) (k : SlmpPayload)

theorem otherwiseValid_host :
    otherwiseValid e myMacAddr dg k = otherwiseValid .little myMacAddr dg k := by
  cases k
  all_goals
    simp only [otherwiseValid, clSlmpValidateNodeSearchRequest, clSlmpValidateNodeSearchResponse,
      clSlmpValidateSetIpRequest, clSlmpValidateSetIpResponse, clSlmpValidateErrorResponse,
      NodeSearchRequest.ofBuffer, NodeSearchResp.ofBuffer, SetIpaddrRequest.ofBuffer,
      SetIpaddrResp.ofBuffer, ErrorResp.ofBuffer, Endian.le16_raw16, Endian.le32_raw32]
  all_goals rfl

theorem payloadAccepted_eq :
    payloadAccepted e myMacAddr dg k
      = if dg.len ≠ k.size then none
        else some (decide ((e.raw16 dg.byte 11).toNat = k.length)
          && otherwiseValid .little myMacAddr dg k) := by
  rw [← otherwiseValid_host e]
  cases k with
  | nodeSearchRequest =>
    exact map_parse (checkLength (n := 17) rfl _)
  | nodeSearchResponse =>
    exact map_parse (checkLength (n := 53) rfl _)
  | setIpRequest =>
    exact map_parse (checkLength (n := 45) rfl _)
  | setIpResponse =>
    exact map_parse (checkLength (n := 8) rfl _)
  | errorResponse =>
    exact map_parse (checkLength (n := 11) rfl _)

end

/-! ## the hosts together -/

theorem raw16_little_iff (b : Nat → UInt8) (i : Nat) {n : Nat} (hn : n < 256) :
    (Endian.little.raw16 b i).toNat = n ↔ b i = UInt8.ofNat n ∧ b (i+1) = 0 := by
  have h0 := (b i).toNat_lt
  have hread : Endian.little.read b i 2 = (b i).toNat + 256 * ((b (i+1)).toNat + 256 * 0) := rfl
  rw [Endian.raw16_toNat, hread, ← UInt8.toNat_inj, ← UInt8.toNat_inj, UInt8.toNat_ofNat',
    UInt8.toNat_zero]
  omega

theorem raw16_big_iff (b : Nat → UInt8) (i : Nat) {n : Nat} (hn : n < 256) :
    (Endian.big.raw16 b i).toNat = n ↔ b i = 0 ∧ b (i+1) = UInt8.ofNat n := by
  have h1 := (b (i+1)).toNat_lt
  have hread : Endian.big.read b i 2 = (b (i+1)).toNat + 256 * ((b i).toNat + 256 * 0) := rfl
  rw [Endian.raw16_toNat, hread, ← UInt8.toNat_inj, ← UInt8.toNat_inj, UInt8.toNat_ofNat',
    UInt8.toNat_zero]
  omega

/-- a payload of the size of the frame, valid but for its length field, which holds the right number
in the order of one of the hosts -/
def LengthDecides (myMacAddr : MacAddr) (dg : Datagram) (k : SlmpPayload) : Prop :=
  dg.len = k.size ∧ otherwiseValid .little myMacAddr dg k = true
    ∧ (dg.byte 11 = UInt8.ofNat k.length ∧ dg.byte 12 = 0
      ∨ dg.byte 11 = 0 ∧ dg.byte 12 = UInt8.ofNat k.length)

/-- the results of all functions on a payload, with the values that the callers take -/
structure HostResults where
  cciefb : Host.CciefbResults
  slmp : SlmpValues
  accepted : SlmpPayload → Option Bool

def hostResults (e : Endian) (myMacAddr : MacAddr) (dg : Datagram) : HostResults :=
  { cciefb := Host.cciefbResults e dg, slmp := slmpValues e dg
    accepted := payloadAccepted e myMacAddr dg }

theorem length_lt (k : SlmpPayload) : k.length < 256 ∧ k.length ≠ 0 := by
  cases k
  all_goals decide

/-- the hosts differ in nothing but the five checks of payloads -/
theorem hostResults_eq_iff (e e' : Endian) (myMacAddr : MacAddr) (dg : Datagram) :
    hostResults e myMacAddr dg = hostResults e' myMacAddr dg
      ↔ ∀ k, payloadAccepted e myMacAddr dg k = payloadAccepted e' myMacAddr dg k := by
  unfold hostResults
  rw [Host.cciefbResults_eq, Host.cciefbResults_eq, slmpValues_host e, slmpValues_host e',
    HostResults.mk.injEq, funext_iff]
  exact ⟨fun h => h.2.2, fun h => ⟨rfl, rfl, h⟩⟩

theorem payloadAccepted_little_big (myMacAddr : MacAddr) (dg : Datagram) (k : SlmpPayload) :
    payloadAccepted .little myMacAddr dg k = payloadAccepted .big myMacAddr dg k
      ↔ ¬ LengthDecides myMacAddr dg k := by
  obtain ⟨hlt, hne⟩ := length_lt k
  rw [payloadAccepted_eq, payloadAccepted_eq]
  unfold LengthDecides
  by_cases hlen : dg.len = k.size
  · rw [if_neg (not_not.mpr hlen), if_neg (not_not.mpr hlen), Option.some_inj]
    cases hvalid : otherwiseValid .little myMacAddr dg k with
    | false => simp
    | true =>
      rw [Bool.and_true, Bool.and_true, decide_eq_decide, raw16_little_iff _ _ hlt,
        raw16_big_iff _ _ hlt]
      -- the number is not its own swap
      have hnot : UInt8.ofNat k.length ≠ 0 := by
        rw [ne_eq, ← UInt8.toNat_inj, UInt8.toNat_ofNat', UInt8.toNat_zero]
        omega
      constructor
      · rintro hiff ⟨-, -, hlittle | hbig⟩
        · exact hnot (hlittle.1.symm.trans (hiff.mp hlittle).1)
        · exact hnot ((hiff.mpr hbig).1.symm.trans hbig.1)
      · intro hno
        refine ⟨fun h => absurd ⟨hlen, rfl, .inl h⟩ hno, fun h => absurd ⟨hlen, rfl, .inr h⟩ hno⟩
  · rw [if_pos hlen, if_pos hlen]
    exact iff_of_true rfl (fun h => hlen h.1)

/-- **Host byte order.**  Two hosts get the same results and the same values from a payload, if and
only if it is none of those for which the raw length field decides. -/
theorem hostOrder (myMacAddr : MacAddr) (dg : Datagram) :
    (∀ e e', hostResults e myMacAddr dg = hostResults e' myMacAddr dg)
      ↔ ∀ k, ¬ LengthDecides myMacAddr dg k := by
  have hpair := fun k => payloadAccepted_little_big myMacAddr dg k
  constructor
  · intro hall k
    exact (hpair k).mp ((hostResults_eq_iff _ _ _ _).mp (hall .little .big) k)
  · intro hno e e'
    have hsame := fun k => (hpair k).mpr (hno k)
    rw [hostResults_eq_iff]
    intro k
    cases e with
    | little =>
      cases e' with
      | little => rfl
      | big => exact hsame k
    | big =>
      cases e' with
      | little => exact (hsame k).symm
      | big => rfl

/-- a node search request of any host is accepted by the little-endian hosts only -/
theorem payloadAccepted_nodeSearchRequest (e e' : Endian) (masterMacAddr myMacAddr : MacAddr)
    {masterIpAddr : IpAddr} (serial : UInt16) (hip : masterIpAddr ≠ ipaddrInvalid) :
    payloadAccepted e myMacAddr (.ofBytes ((clSlmpPrepareNodeSearchRequestFrame e' masterMacAddr
        masterIpAddr serial).bytes e')) .nodeSearchRequest
      = some (decide (e = .little)) := by
  rw [NodeSearchRequest.bytes_prepare e', ← NodeSearchRequest.bytes_prepare e]
  unfold payloadAccepted
  rw [clSlmpParseNodeSearchRequest_bytes, Option.map_some,
    clSlmpPrepareNodeSearchRequestFrame_valid e _ _ hip]

theorem payloadAccepted_nodeSearchResponse (e e' : Endian)
    (masterMacAddr slaveMacAddr myMacAddr : MacAddr)
    {masterIpAddr slaveIpAddr slaveNetmask : IpAddr} (slaveStatus vendorCode : UInt16)
    (modelCode : UInt32) (equipmentVer serial : UInt16) (hmaster : masterIpAddr ≠ ipaddrInvalid)
    (hslave : slaveIpAddr ≠ ipaddrInvalid) (hmask : clUtilsIsNetmaskValid slaveNetmask = true) :
    payloadAccepted e myMacAddr (.ofBytes ((clSlmpPrepareNodeSearchResponseFrame e' masterMacAddr
        masterIpAddr slaveMacAddr slaveIpAddr slaveNetmask slaveStatus vendorCode modelCode
        equipmentVer serial).bytes e')) .nodeSearchResponse
      = some (decide (e = .little)) := by
  rw [NodeSearchResp.bytes_prepare e', ← NodeSearchResp.bytes_prepare e]
  unfold payloadAccepted
  rw [clSlmpParseNodeSearchResponse_bytes, Option.map_some,
    clSlmpPrepareNodeSearchResponseFrame_valid e _ _ _ _ _ _ _ hmaster hslave hmask]

theorem payloadAccepted_setIpRequest (e e' : Endian) (masterMacAddr slaveMacAddr myMacAddr : MacAddr)
    {masterIpAddr slaveNewIpAddr slaveNewNetmask : IpAddr} (serial : UInt16)
    (hmaster : masterIpAddr ≠ ipaddrInvalid) (hnew : slaveNewIpAddr ≠ ipaddrInvalid)
    (hmask : clUtilsIsNetmaskValid slaveNewNetmask = true) :
    payloadAccepted e myMacAddr (.ofBytes ((clSlmpPrepareSetIpRequestFrame e' masterMacAddr
        masterIpAddr serial slaveMacAddr slaveNewIpAddr slaveNewNetmask).bytes e')) .setIpRequest
      = some (decide (e = .little)) := by
  rw [SetIpaddrRequest.bytes_prepare e', ← SetIpaddrRequest.bytes_prepare e]
  unfold payloadAccepted
  rw [clSlmpParseSetIpRequest_bytes, Option.map_some,
    clSlmpPrepareSetIpRequestFrame_valid e _ _ _ hmaster hnew hmask]

theorem payloadAccepted_setIpResponse (e e' : Endian) (masterMacAddr : MacAddr) (serial : UInt16) :
    payloadAccepted e masterMacAddr (.ofBytes ((clSlmpPrepareSetIpResponseFrame e' masterMacAddr
        serial).bytes e')) .setIpResponse
      = some (decide (e = .little)) := by
  rw [SetIpaddrResp.bytes_prepare e', ← SetIpaddrResp.bytes_prepare e]
  unfold payloadAccepted
  rw [clSlmpParseSetIpResponse_bytes, Option.map_some, clSlmpPrepareSetIpResponseFrame_valid e]

theorem payloadAccepted_errorResponse (e e' : Endian) (myMacAddr : MacAddr)
    (command subCommand endcode serial : UInt16) :
    payloadAccepted e myMacAddr (.ofBytes ((clSlmpPrepareErrorResponseFrame e' command subCommand
        endcode serial).bytes e')) .errorResponse
      = some (decide (e = .little)) := by
  rw [ErrorResp.bytes_prepare e', ← ErrorResp.bytes_prepare e]
  unfold payloadAccepted
  rw [clSlmpParseErrorResponse_bytes, Option.map_some, clSlmpPrepareErrorResponseFrame_valid e]

/-- a node search request, built on a little-endian host and rejected by a big-endian one -/
theorem hostOrder_nodeSearch :
    let dg := Datagram.ofBytes ((clSlmpPrepareNodeSearchRequestFrame .little (fun _ => 2) 0xC0A80001
      0).bytes .little)
    payloadAccepted .little (fun _ => 2) dg .nodeSearchRequest = some true
      ∧ payloadAccepted .big (fun _ => 2) dg .nodeSearchRequest = some false
      ∧ hostResults .little (fun _ => 2) dg ≠ hostResults .big (fun _ => 2) dg := by
  refine ⟨rfl, rfl, ?_⟩
  intro heq
  have haccepted := (hostResults_eq_iff _ _ _ _).mp heq .nodeSearchRequest
  cases haccepted

end CLink
