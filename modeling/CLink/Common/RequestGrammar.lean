import CLink.Common.ResponseGrammar

/-!
# Which datagrams a slave accepts as requests

`clsIefbInputRequest` is the way of a datagram through the three functions that a slave calls for a
request.  It is compared with a grammar that names every field condition and the length `67 + 76 n`.

* `validateRequest_iff`             the checking functions together are the field conditions;
* `clsIefbInputRequest_ok`, `_rejected`   the outcomes, there is no third one;
* `clsIefbInputRequest_contract`    exactly the datagrams of the grammar are accepted.
-/

namespace CLink
open Bytes

/-- the values of `master_local_unit_info` that the mask of a protocol version lets through -/
def unitInfoInMask (protocolVer masterLocalUnitInfo : UInt16) : Prop :=
  protocolVer = 1 ∧ masterLocalUnitInfo.toNat < 2 ∨ protocolVer = 2 ∧ masterLocalUnitInfo.toNat < 4

/-- the header conditions of an acceptable request for `n` stations, field by field -/
structure RequestHeadersValid (h : ReqFullHeaders) (recvLen : Nat) (remoteIp : IpAddr) (n : Nat) :
    Prop where
  dl : h.reqHeader.dl.toNat + 9 = recvLen
  reqReserved : h.reqHeader.reserved1 = 0x5000 ∧ h.reqHeader.reserved2 = 0
    ∧ h.reqHeader.reserved3 = 0xFF ∧ h.reqHeader.reserved4 = 0x03FF
    ∧ h.reqHeader.reserved5 = 0 ∧ h.reqHeader.reserved6 = 0
  cyclicOffset : h.cyclicHeader.cyclicInfoOffsetAddr = 36
  cyclicReserved : h.cyclicHeader.reserved1 = 0 ∧ ∀ i, h.cyclicHeader.reserved2 i = 0
  /-- the protocol version is 1 or 2 -/
  unitInfo : unitInfoInMask h.cyclicHeader.protocolVer
    h.masterStationNotification.masterLocalUnitInfo
  notificationReserved : h.masterStationNotification.reserved = 0
  groupNo : 1 ≤ h.cyclicDataHeader.groupNo.toNat ∧ h.cyclicDataHeader.groupNo.toNat ≤ 64
  dataReserved : h.cyclicDataHeader.reserved3 = 0 ∧ h.cyclicDataHeader.reserved4 = 0
  masterId : h.cyclicDataHeader.masterId = remoteIp ∧ remoteIp ≠ 0
  total : h.cyclicDataHeader.slaveTotalOccupiedStationCount.toNat = n

/-- a request for `n` stations: valid headers, the length of `n` stations and `1 ≤ n ≤ 16` -/
structure RequestGrammar (dg : Datagram) (remoteIp : IpAddr) (n : Nat) : Prop where
  headers : RequestHeadersValid (.ofBuffer dg.byte) dg.len remoteIp n
  stations : 1 ≤ n ∧ n ≤ 16
  len : dg.len = 67 + 76*n

/-- `cl_iefb_parse_request_header`, `cl_iefb_validate_request_header` and
`cl_iefb_parse_cyclic_request` -/
def clsIefbInputRequest (dg : Datagram) (remoteIp : IpAddr) (remotePort : UInt16)
    (localIp : IpAddr) : Except Failure CyclicRequest :=
  match clIefbParseRequestHeader dg with
  | none => .error .rejected
  | some header =>
    if ¬ clIefbValidateRequestHeader header dg.len then .error .rejected
    else clIefbParseCyclicRequest dg remoteIp remotePort localIp

/-! ## the checks -/

theorem clIefbValidateMasterStationNotification_iff (v : UInt16)
    (notification : MasterStationNotification) :
    clIefbValidateMasterStationNotification notification v = true
      ↔ unitInfoInMask v notification.masterLocalUnitInfo ∧ notification.reserved = 0 := by
  unfold clIefbValidateMasterStationNotification unitInfoInMask
  by_cases h1 : v = 1
  · subst h1
    rw [if_pos rfl, decide_eq_true_eq, and_highMask_eq_zero (j := 15) (k := 1) rfl rfl]
    simp
  rw [if_neg h1]
  by_cases h2 : v = 2
  · subst h2
    rw [if_pos rfl, decide_eq_true_eq, and_highMask_eq_zero (j := 14) (k := 2) rfl rfl]
    simp
  · rw [if_neg h2]
    simp [h1, h2]

/-- the checking functions together are the field conditions and the length -/
theorem validateRequest_iff (h : ReqFullHeaders) (recvLen : Nat) (remoteIp : IpAddr) :
    (clIefbValidateRequestHeader h.reqHeader recvLen = true
      ∧ clIefbValidateReqFullCyclicHeaders h recvLen remoteIp = true)
    ↔ ∃ n, RequestHeadersValid h recvLen remoteIp n ∧ (1 ≤ n ∧ n ≤ 16) ∧ recvLen = 67 + 76*n := by
  have hsize : clCalculateCyclicRequestSize h.cyclicDataHeader.slaveTotalOccupiedStationCount
      = 67 + 76 * h.cyclicDataHeader.slaveTotalOccupiedStationCount.toNat := by
    unfold clCalculateCyclicRequestSize
    omega
  simp only [clIefbValidateRequestHeader, clIefbValidateReqFullCyclicHeaders,
    clIefbValidateCyclicRequestHeader, clIefbValidateReqCyclicDataHeader,
    clIefbValidateReqCyclicFrameSize, decide_eq_true_eq]
  simp only [hsize, protocolVerSupported_iff, groupNoInRange_iff, occupiedStationsInRange_iff,
    clIefbValidateMasterStationNotification_iff, not_or, not_not]
  constructor
  · rintro ⟨⟨hdl, hres⟩, ⟨_, hoff, hcyc⟩, ⟨hunit, hnot⟩, ⟨hg, hn, h3, h4, hne, heq⟩, _, _, hlen, _⟩
    exact ⟨_, ⟨hdl, hres, hoff, hcyc, hunit, hnot, hg, ⟨h3, h4⟩, ⟨heq, heq ▸ hne⟩, rfl⟩, hn, hlen⟩
  · rintro ⟨n, ⟨hdl, hres, hoff, hcyc, hunit, hnot, hg, hdata, ⟨heq, hne⟩, rfl⟩, hn, hlen⟩
    have hver : h.cyclicHeader.protocolVer = 1 ∨ h.cyclicHeader.protocolVer = 2 :=
      hunit.imp And.left And.left
    exact ⟨⟨hdl, hres⟩, ⟨hver, hoff, hcyc⟩, ⟨hunit, hnot⟩,
      ⟨hg, hn, hdata.1, hdata.2, by rwa [heq], heq⟩, hver, hdl.symm, hlen, hoff⟩

/-! ## the outcomes -/

section
variable {dg : Datagram} {remoteIp : IpAddr} (remotePort : UInt16) (localIp : IpAddr)

theorem clsIefbInputRequest_ok {n : Nat} (hg : RequestGrammar dg remoteIp n) :
    clsIefbInputRequest dg remoteIp remotePort localIp
      = .ok { remoteIp := remoteIp, remotePort := remotePort, slaveIpAddr := localIp
              fullHeaders := .ofBuffer dg.byte, buffer := dg.byte, firstSlaveId := 67
              firstRww := 67 + 4*n, firstRy := 67 + 68*n } := by
  have hlen := hg.len
  have htotal := hg.headers.total
  obtain ⟨h1, h2⟩ := (validateRequest_iff _ _ _).mpr ⟨n, hg.headers, hg.stations, hg.len⟩
  have h1' : clIefbValidateRequestHeader (.ofBuffer dg.byte 0) dg.len = true := h1
  have hheaders : clIefbParseReqFullCyclicHeaders dg = some (.ofBuffer dg.byte) :=
    if_neg (by omega)
  have hheader : clIefbParseRequestHeader dg = some (.ofBuffer dg.byte 0) := if_neg (by omega)
  simp only [clsIefbInputRequest, hheader, h1', not_true_eq_false, if_false,
    clIefbParseCyclicRequest_ok hheaders h2, htotal]
  congr 2
  · omega
  · omega

theorem clsIefbInputRequest_rejected (h : ¬ ∃ n, RequestGrammar dg remoteIp n) :
    clsIefbInputRequest dg remoteIp remotePort localIp = .error .rejected := by
  by_cases h15 : 15 > dg.len
  · simp only [clsIefbInputRequest, clIefbParseRequestHeader, if_pos h15]
  by_cases h1 : clIefbValidateRequestHeader (.ofBuffer dg.byte 0) dg.len = true
  case neg =>
    simp [clsIefbInputRequest, clIefbParseRequestHeader, h15, h1]
  by_cases h67 : dg.len < 67
  · simp only [clsIefbInputRequest, clIefbParseRequestHeader, if_neg h15, h1,
      clIefbParseCyclicRequest, clIefbParseReqFullCyclicHeaders, if_pos h67,
      not_true_eq_false, if_false]
  by_cases h2 : clIefbValidateReqFullCyclicHeaders (.ofBuffer dg.byte) dg.len remoteIp = true
  case neg =>
    simp [clsIefbInputRequest, clIefbParseRequestHeader, h15, h1, clIefbParseCyclicRequest,
      clIefbParseReqFullCyclicHeaders, h67, h2]
  -- all checks are passed
  obtain ⟨n, hheaders, hn, hlen⟩ := (validateRequest_iff _ _ _).mp ⟨h1, h2⟩
  exact absurd ⟨n, hheaders, hn, hlen⟩ h

end

/-! ## the contract -/

/-- what the three functions do with a datagram -/
structure RequestContract (dg : Datagram) (remoteIp : IpAddr) (remotePort : UInt16)
    (localIp : IpAddr) : Prop where
  noAssert : clsIefbInputRequest dg remoteIp remotePort localIp ≠ .error .assertFailed
  accepts : (∃ r, clsIefbInputRequest dg remoteIp remotePort localIp = .ok r)
    ↔ ∃ n, RequestGrammar dg remoteIp n
  /-- the slave ids, the RWw and the RY areas fill the datagram -/
  layout : ∀ r, clsIefbInputRequest dg remoteIp remotePort localIp = .ok r →
    ∃ n, RequestGrammar dg remoteIp n ∧ r.fullHeaders = .ofBuffer dg.byte ∧ r.buffer = dg.byte
      ∧ r.firstSlaveId = 67 ∧ r.firstRww = 67 + 4*n ∧ r.firstRy = 67 + 68*n
      ∧ r.firstRy + 8*n = dg.len

/-- **The grammar of requests.** -/
theorem clsIefbInputRequest_contract (dg : Datagram) (remoteIp : IpAddr) (remotePort : UInt16)
    (localIp : IpAddr) : RequestContract dg remoteIp remotePort localIp := by
  by_cases hg : ∃ n, RequestGrammar dg remoteIp n
  · obtain ⟨n, hn⟩ := hg
    have hok := clsIefbInputRequest_ok remotePort localIp hn
    refine ⟨by rw [hok]; simp, ⟨fun _ => ⟨n, hn⟩, fun _ => ⟨_, hok⟩⟩, ?_⟩
    intro r hr
    rw [hok] at hr
    obtain rfl := Except.ok.inj hr
    refine ⟨n, hn, rfl, rfl, rfl, rfl, rfl, ?_⟩
    have hlen := hn.len
    show 67 + 68*n + 8*n = dg.len
    omega
  · have hrej := clsIefbInputRequest_rejected remotePort localIp hg
    refine ⟨by rw [hrej]; simp, ⟨?_, fun h => absurd h hg⟩, ?_⟩
    · rintro ⟨r, hr⟩
      rw [hrej] at hr
      cases hr
    · intro r hr
      rw [hrej] at hr
      cases hr

end CLink
