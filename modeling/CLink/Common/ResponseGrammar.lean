import CLink.Common.Response
import CLink.Common.Cyclic

/-!
# Which datagrams the master accepts as responses

`clmIefbInputResponse` is the way of a datagram through the master up to the parsed response.  It
is compared with a grammar that names every field condition and the length `59 + 72 n`.

* `validate_iff`                    the eight checking functions together are the field conditions;
* `clCalculateNumberOfOccupiedStations_eq`   the station count of a length below the buffer size;
* `clmIefbInputResponse_ok`, `_assertFailed`, `_rejected`   the three outcomes;
* `clmIefbInputResponse_contract`   the grammar is met except for 17 to 20 stations.
-/

namespace CLink
open Bytes

/-- the header conditions of an acceptable response, field by field -/
structure ResponseHeadersValid (h : RespFullHeaders) (recvLen : Nat) (remoteIp : IpAddr) : Prop where
  dl : h.respHeader.dl.toNat + 9 = recvLen
  respReserved : h.respHeader.reserved1 = 0xD000 ∧ h.respHeader.reserved2 = 0
    ∧ h.respHeader.reserved3 = 0xFF ∧ h.respHeader.reserved4 = 0x03FF
    ∧ h.respHeader.reserved5 = 0 ∧ h.respHeader.reserved6 = 0
  protocolVer : h.cyclicHeader.protocolVer = 1 ∨ h.cyclicHeader.protocolVer = 2
  cyclicOffset : h.cyclicHeader.cyclicInfoOffsetAddr = 40
  cyclicReserved : ∀ i, h.cyclicHeader.reserved1 i = 0
  unitInfo : h.slaveStationNotification.slaveLocalUnitInfo = 0
    ∨ h.slaveStationNotification.slaveLocalUnitInfo = 1
  notificationReserved : h.slaveStationNotification.reserved1 = 0
    ∧ h.slaveStationNotification.reserved2 = 0
  groupNo : 1 ≤ h.cyclicDataHeader.groupNo.toNat ∧ h.cyclicDataHeader.groupNo.toNat ≤ 64
  dataReserved : h.cyclicDataHeader.reserved2 = 0
  slaveId : h.cyclicDataHeader.slaveId = remoteIp ∧ remoteIp ≠ 0

/-- a response for `n` stations: valid headers, the length of `n` stations and `1 ≤ n ≤ 16` -/
structure ResponseGrammar (dg : Datagram) (remoteIp : IpAddr) (n : Nat) : Prop where
  headers : ResponseHeadersValid (.ofBuffer dg.byte) dg.len remoteIp
  stations : 1 ≤ n ∧ n ≤ 16
  len : dg.len = 59 + 72*n

/-- the response path of `clm_iefb_handle_input_frame`: `cl_iefb_parse_response_header`,
`cl_iefb_validate_response_header` and `cl_iefb_parse_cyclic_response` -/
def clmIefbInputResponse (dg : Datagram) (remoteIp : IpAddr) (remotePort : UInt16) (now : UInt32) :
    Except Failure CyclicResponse :=
  match clIefbParseResponseHeader dg with
  | none => .error .rejected
  | some header =>
    if ¬ clIefbValidateResponseHeader header dg.len then .error .rejected
    else clIefbParseCyclicResponse dg remoteIp remotePort now

/-! ## the checks -/

theorem protocolVerSupported_iff (v : UInt16) :
    protocolVerSupported v = true ↔ v = 1 ∨ v = 2 := by
  simp only [protocolVerSupported, decide_eq_true_eq, UInt16.lt_iff_toNat_lt, gt_iff_lt,
    ← UInt16.toNat_inj, show minSupportedProtocolVer.toNat = 1 from rfl,
    show maxSupportedProtocolVer.toNat = 2 from rfl]
  omega

theorem groupNoInRange_iff (g : UInt8) :
    groupNoInRange g = true ↔ 1 ≤ g.toNat ∧ g.toNat ≤ 64 := by
  simp only [groupNoInRange, decide_eq_true_eq, UInt16.lt_iff_toNat_lt, gt_iff_lt,
    UInt8.toNat_toUInt16, show minGroupNo.toNat = 1 from rfl, show maxGroupNo.toNat = 64 from rfl]
  omega

/-- the mask leaves bit 0 free -/
theorem and_maskBits_eq_zero (x : UInt16) :
    x &&& slaveStationNotificationMaskBits = 0 ↔ x = 0 ∨ x = 1 := by
  rw [and_highMask_eq_zero (j := 15) (k := 1) rfl rfl, ← UInt16.toNat_inj, ← UInt16.toNat_inj]
  show x.toNat < 2 ↔ x.toNat = 0 ∨ x.toNat = 1
  omega

/-- the checking functions together are the field conditions -/
theorem validate_iff (h : RespFullHeaders) (recvLen : Nat) (remoteIp : IpAddr) :
    (clIefbValidateResponseHeader h.respHeader recvLen = true
      ∧ clIefbValidateRespFullCyclicHeaders h recvLen remoteIp = true)
    ↔ ResponseHeadersValid h recvLen remoteIp := by
  simp only [clIefbValidateResponseHeader, clIefbValidateRespFullCyclicHeaders,
    clIefbValidateCyclicRespHeader, clIefbValidateSlaveStationNotification,
    clIefbValidateRespCyclicDataHeader, clIefbValidateRespCyclicFrameSize, decide_eq_true_eq,
    protocolVerSupported_iff, groupNoInRange_iff, and_maskBits_eq_zero, not_or, not_not]
  constructor
  · rintro ⟨⟨hdl, hres⟩, ⟨hver, hoff, hcyc⟩, ⟨hunit, hnot⟩, ⟨hg, hdata, hne, heq⟩, _⟩
    exact ⟨hdl, hres, hver, hoff, hcyc, hunit, hnot, hg, hdata, heq, heq ▸ hne⟩
  · rintro ⟨hdl, hres, hver, hoff, hcyc, hunit, hnot, hg, hdata, heq, hne⟩
    exact ⟨⟨hdl, hres⟩, ⟨hver, hoff, hcyc⟩, ⟨hunit, hnot⟩, ⟨hg, hdata, by rwa [heq], heq⟩, hver,
      hdl.symm⟩

/-! ## the length -/

theorem sizeSub_of_le {a b : Nat} (h : b ≤ a) (ha : a < 2^64) : sizeSub a b = a - b := by
  unfold sizeSub
  omega

theorem clCalculateNumberOfOccupiedStations_eq {len : Nat} (h59 : 59 ≤ len) (h : len ≤ 1500) :
    (clCalculateNumberOfOccupiedStations len).toNat
      = if len = 59 + 72 * ((len - 59) / 72) then (len - 59) / 72 else 0 := by
  have hq : (UInt16.ofNat ((len - 59) / 72)).toNat = (len - 59) / 72 := by
    rw [UInt16.toNat_ofNat']
    omega
  have hsize : clCalculateCyclicResponseSize (UInt16.ofNat ((len - 59) / 72))
      = 59 + 72 * ((len - 59) / 72) := by
    unfold clCalculateCyclicResponseSize
    rw [hq]
    omega
  unfold clCalculateNumberOfOccupiedStations
  simp only [sizeSub_of_le h59 (by omega), hsize]
  rw [sizeSub_of_le (by omega) (by omega)]
  by_cases hlen : len = 59 + 72 * ((len - 59) / 72)
  · rw [if_neg (by omega), if_pos hlen, hq]
  · rw [if_pos (by omega), if_neg hlen]
    rfl

theorem clCalculateNumberOfOccupiedStations_len {len n : Nat} (hlen : len = 59 + 72*n)
    (hn : n ≤ 20) : (clCalculateNumberOfOccupiedStations len).toNat = n := by
  rw [clCalculateNumberOfOccupiedStations_eq (by omega) (by omega)]
  have e : (len - 59) / 72 = n := by omega
  rw [e, if_pos hlen]

/-! ## the outcomes -/

section
variable {dg : Datagram} {remoteIp : IpAddr} (remotePort : UInt16) (now : UInt32)

/-- what happens after the header checks -/
theorem clmIefbInputResponse_headers (h59 : 59 ≤ dg.len)
    (hv : ResponseHeadersValid (.ofBuffer dg.byte) dg.len remoteIp) :
    clmIefbInputResponse dg remoteIp remotePort now
      = if clCalculateNumberOfOccupiedStations dg.len = 0 then .error .rejected
        else match clIefbParseResponseCyclicData dg.len
            (clCalculateNumberOfOccupiedStations dg.len) with
          | none => .error .assertFailed
          | some (firstRwr, firstRx) =>
            .ok { remotePort := remotePort, remoteIp := remoteIp
                  numberOfOccupied := clCalculateNumberOfOccupiedStations dg.len
                  receptionTimestamp := now, fullHeaders := .ofBuffer dg.byte
                  buffer := dg.byte, firstRwr := firstRwr, firstRx := firstRx } := by
  obtain ⟨h1, h2⟩ := (validate_iff _ _ _).mpr hv
  have h1' : clIefbValidateResponseHeader (.ofBuffer dg.byte 0) dg.len = true := h1
  apply Eq.trans
  · simp only [clmIefbInputResponse, clIefbParseResponseHeader,
      if_neg (show ¬ 11 > dg.len by omega), h1', clIefbParseCyclicResponse,
      clIefbParseRespFullCyclicHeaders, if_neg (show ¬ dg.len < 59 by omega), h2,
      not_true_eq_false, if_false]
    rfl
  · rfl

theorem clmIefbInputResponse_ok {n : Nat} (hg : ResponseGrammar dg remoteIp n) :
    clmIefbInputResponse dg remoteIp remotePort now
      = .ok { remotePort := remotePort, remoteIp := remoteIp, numberOfOccupied := UInt16.ofNat n
              receptionTimestamp := now, fullHeaders := .ofBuffer dg.byte, buffer := dg.byte
              firstRwr := 59, firstRx := 59 + 64*n } := by
  have hlen := hg.len
  have hst := hg.stations
  have hn := clCalculateNumberOfOccupiedStations_len hlen (by omega)
  have e : clCalculateNumberOfOccupiedStations dg.len = UInt16.ofNat n := by
    rw [← hn, UInt16.ofNat_toNat]
  have e0 : ¬ clCalculateNumberOfOccupiedStations dg.len = 0 := by
    intro h0
    rw [h0] at hn
    have : (0 : UInt16).toNat = 0 := rfl
    omega
  have hr : occupiedStationsInRange (clCalculateNumberOfOccupiedStations dg.len) = true := by
    rw [occupiedStationsInRange_iff, hn]
    exact hst
  have hp : clIefbParseResponseCyclicData dg.len (clCalculateNumberOfOccupiedStations dg.len)
      = some (59, 59 + 64*n) := by
    simp only [clIefbParseResponseCyclicData, hr, hn, not_true_eq_false, if_false]
    rw [if_neg (by omega), Nat.mul_comm n 64]
  rw [clmIefbInputResponse_headers remotePort now (by omega) hg.headers, if_neg e0, hp, e]

/-- 17 stations and more pass every check and fail the assertion -/
theorem clmIefbInputResponse_assertFailed {n : Nat}
    (hv : ResponseHeadersValid (.ofBuffer dg.byte) dg.len remoteIp) (hlen : dg.len = 59 + 72*n)
    (hn : 17 ≤ n ∧ n ≤ 20) :
    clmIefbInputResponse dg remoteIp remotePort now = .error .assertFailed := by
  have hc := clCalculateNumberOfOccupiedStations_len hlen hn.2
  have e0 : ¬ clCalculateNumberOfOccupiedStations dg.len = 0 := by
    intro h0
    rw [h0] at hc
    have : (0 : UInt16).toNat = 0 := rfl
    omega
  have hr : ¬ occupiedStationsInRange (clCalculateNumberOfOccupiedStations dg.len) = true := by
    rw [occupiedStationsInRange_iff, hc]
    omega
  rw [clmIefbInputResponse_headers remotePort now (by omega) hv, if_neg e0,
    clIefbParseResponseCyclicData, if_pos hr]

theorem clmIefbInputResponse_rejected (hlen : dg.len ≤ clBufferLen)
    (h : ¬ (ResponseHeadersValid (.ofBuffer dg.byte) dg.len remoteIp
      ∧ ∃ n, (1 ≤ n ∧ n ≤ 20) ∧ dg.len = 59 + 72*n)) :
    clmIefbInputResponse dg remoteIp remotePort now = .error .rejected := by
  have hlen' : dg.len ≤ 1500 := hlen
  by_cases h11 : 11 > dg.len
  · simp only [clmIefbInputResponse, clIefbParseResponseHeader, if_pos h11]
  by_cases h1 : clIefbValidateResponseHeader (.ofBuffer dg.byte 0) dg.len = true
  case neg =>
    simp [clmIefbInputResponse, clIefbParseResponseHeader, h11, h1]
  by_cases h59 : dg.len < 59
  · simp only [clmIefbInputResponse, clIefbParseResponseHeader, if_neg h11, h1,
      clIefbParseCyclicResponse, clIefbParseRespFullCyclicHeaders, if_pos h59,
      not_true_eq_false, if_false]
  by_cases h2 : clIefbValidateRespFullCyclicHeaders (.ofBuffer dg.byte) dg.len remoteIp = true
  case neg =>
    simp [clmIefbInputResponse, clIefbParseResponseHeader, h11, h1, clIefbParseCyclicResponse,
      clIefbParseRespFullCyclicHeaders, h59, h2]
  -- all checks are passed, so the length is not that of a frame
  have hv := (validate_iff _ _ _).mp ⟨h1, h2⟩
  have h0 : clCalculateNumberOfOccupiedStations dg.len = 0 := by
    rw [← UInt16.toNat_inj, clCalculateNumberOfOccupiedStations_eq (by omega) hlen']
    show _ = 0
    by_cases e : dg.len = 59 + 72 * ((dg.len - 59) / 72)
    · rw [if_pos e]
      by_contra hne
      exact h ⟨hv, (dg.len - 59) / 72, ⟨by omega, by omega⟩, e⟩
    · rw [if_neg e]
  rw [clmIefbInputResponse_headers remotePort now (by omega) hv, if_pos h0]

end

/-! ## the contract -/

/-- what the response path should do with a datagram -/
structure ResponseContract (dg : Datagram) (remoteIp : IpAddr) (remotePort : UInt16)
    (now : UInt32) : Prop where
  /-- no assertion fails -/
  noAssert : clmIefbInputResponse dg remoteIp remotePort now ≠ .error .assertFailed
  /-- exactly the datagrams of the grammar are accepted -/
  accepts : (∃ r, clmIefbInputResponse dg remoteIp remotePort now = .ok r)
    ↔ ∃ n, ResponseGrammar dg remoteIp n
  /-- the station count and the areas fill the datagram -/
  layout : ∀ r n, clmIefbInputResponse dg remoteIp remotePort now = .ok r →
    ResponseGrammar dg remoteIp n →
      r.numberOfOccupied.toNat = n ∧ r.fullHeaders = .ofBuffer dg.byte ∧ r.buffer = dg.byte
        ∧ r.firstRwr = 59 ∧ r.firstRx = 59 + 64*n ∧ r.firstRx + 8*n = dg.len

/-- valid headers and the length of 17 to 20 stations -/
def TooManyStations (dg : Datagram) (remoteIp : IpAddr) : Prop :=
  ResponseHeadersValid (.ofBuffer dg.byte) dg.len remoteIp
    ∧ ∃ n, (17 ≤ n ∧ n ≤ 20) ∧ dg.len = 59 + 72*n

theorem clmIefbInputResponse_contract (dg : Datagram) (hlen : dg.len ≤ clBufferLen)
    (remoteIp : IpAddr) (remotePort : UInt16) (now : UInt32) :
    ResponseContract dg remoteIp remotePort now ↔ ¬ TooManyStations dg remoteIp := by
  constructor
  · rintro hc ⟨hv, n, hn, hl⟩
    exact hc.noAssert (clmIefbInputResponse_assertFailed remotePort now hv hl hn)
  · intro hmany
    by_cases hg : ∃ n, ResponseGrammar dg remoteIp n
    · obtain ⟨n, hn⟩ := hg
      have hok := clmIefbInputResponse_ok remotePort now hn
      refine ⟨by rw [hok]; simp, ⟨fun _ => ⟨n, hn⟩, fun _ => ⟨_, hok⟩⟩, ?_⟩
      intro r m hr hm
      have hl := hn.len
      have hl' := hm.len
      have hst := hn.stations
      obtain rfl : m = n := by omega
      rw [hok] at hr
      obtain rfl := Except.ok.inj hr
      refine ⟨?_, rfl, rfl, rfl, rfl, ?_⟩
      · show (UInt16.ofNat m).toNat = m
        rw [UInt16.toNat_ofNat']
        omega
      · show 59 + 64*m + 8*m = dg.len
        omega
    · have hrej : clmIefbInputResponse dg remoteIp remotePort now = .error .rejected := by
        refine clmIefbInputResponse_rejected remotePort now hlen ?_
        rintro ⟨hv, n, hn, hl⟩
        by_cases h16 : n ≤ 16
        · exact hg ⟨n, hv, ⟨hn.1, h16⟩, hl⟩
        · exact hmany ⟨hv, n, ⟨by omega, hn.2⟩, hl⟩
      refine ⟨by rw [hrej]; simp, ⟨?_, fun h => absurd h hg⟩, fun r n _ hn => absurd ⟨n, hn⟩ hg⟩
      rintro ⟨r, hr⟩
      rw [hrej] at hr
      exact absurd hr (by simp)

/-- a response frame of a slave with 17 stations, group 1, address 192.168.0.2 -/
def seventeenStations : Datagram :=
  (clIefbUpdateCyclicResponseFrame (clIefbInitialiseCyclicResponseFrame 17 0 0 0)
    0xC0A80002 endcodeSuccess 1 0 slaveApplOperationStatusOperating 0 0).datagram

theorem seventeenStations_headers :
    RespFullHeaders.ofBuffer seventeenStations.byte
      = (clIefbUpdateCyclicResponseFrame (clIefbInitialiseCyclicResponseFrame 17 0 0 0)
          0xC0A80002 endcodeSuccess 1 0 slaveApplOperationStatusOperating 0 0).fullHeaders :=
  ResponseFrame.fullHeaders_datagram (n := 17) ⟨rfl, rfl, rfl⟩

theorem seventeenStations_fails :
    ¬ ∀ (dg : Datagram), dg.len ≤ clBufferLen → ∀ (remoteIp : IpAddr) (remotePort : UInt16)
      (now : UInt32), ResponseContract dg remoteIp remotePort now := by
  intro h
  have hv : ResponseHeadersValid (.ofBuffer seventeenStations.byte) seventeenStations.len
      0xC0A80002 := by
    rw [seventeenStations_headers]
    exact ⟨rfl, ⟨rfl, rfl, rfl, rfl, rfl, rfl⟩, Or.inr rfl, rfl, fun _ => rfl, Or.inr rfl,
      ⟨rfl, rfl⟩, by decide, rfl, rfl, by decide⟩
  exact (h seventeenStations (by decide) 0xC0A80002 61450 0).noAssert
    (clmIefbInputResponse_assertFailed (n := 17) 61450 0 hv rfl ⟨by decide, by decide⟩)

/-- the contract at the same frame cut to one station -/
theorem clmIefbInputResponse_contract_one :
    (⟨131, seventeenStations.byte⟩ : Datagram).len ≤ clBufferLen
      ∧ (ResponseContract ⟨131, seventeenStations.byte⟩ 0xC0A80002 61450 0
        ↔ ¬ TooManyStations ⟨131, seventeenStations.byte⟩ 0xC0A80002) :=
  ⟨by decide, clmIefbInputResponse_contract _ (by decide) 0xC0A80002 61450 0⟩

end CLink
