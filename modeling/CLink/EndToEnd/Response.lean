import CLink.EndToEnd.Access
import CLink.Slave.Responses

/-!
# Responses, end to end

A response of the slave is the buffer for data or the buffer for errors with its header fields
updated.  The master accepts it, finds in it what the slave put in, and stores its data.

* `responseToSend_extracted`      the header details that the master finds;
* `responseToSend_grammar`        the master accepts it;
* `clsStep_sends`                 every response of a slave is made in this way;
* `SlaveStart.responseEndToEnd`   from the slave in any run to the master in any run.
-/

namespace CLink
open Loop

/-! ## the frame in the master -/

/-- the header details of a response of slave `c`, as the master should find them -/
def Cls.frameValues (c : Cls) (v : Received) (r : CyclicRequest) (endCode : UInt16)
    (responseTime : UInt32) : FrameValues :=
  { hasBeenReceived := true
    numOccupiedStations := c.config.numOccupiedStations
    protocolVer := maxSupportedProtocolVer
    endCode := endCode
    vendorCode := c.config.vendorCode
    modelCode := c.config.modelCode
    equipmentVer := c.config.equipmentVer
    slaveLocalUnitInfo := c.slaveApplicationStatus.toUInt16
    localManagementInfo := c.localManagementInfo
    slaveErrCode := c.slaveErrCode
    slaveId := v.slaveIpAddr
    groupNo := r.groupNo
    frameSequenceNo := r.frameSequenceNo
    responseTime := responseTime }

section
variable {c : Cls} (hf : Frames c) {v : Received} {r : CyclicRequest} (includeData : Bool)
  (endCode : UInt16)
include hf

/-- the headers that are sent: those of the configuration with the updated fields -/
theorem responseToSend_fullHeaders :
    (responseToSend c r.frameSequenceNo r.groupNo includeData endCode v.slaveIpAddr).fullHeaders
      = (clIefbUpdateCyclicResponseFrame c.config.responseFrame v.slaveIpAddr endCode r.groupNo
          r.frameSequenceNo c.slaveApplicationStatus.toUInt16 c.slaveErrCode
          c.localManagementInfo).fullHeaders := by
  have hheaders : (if includeData then c.cciefbRespFrameNormal
      else c.cciefbRespFrameError).template.fullHeaders = c.config.responseFrame.template.fullHeaders := by
    cases includeData with
    | true => exact hf.normalHeaders
    | false => exact hf.errorHeaders
  -- an update only reads the headers
  have heq := congrArg (fun h => (clIefbUpdateCyclicResponseFrame
    { c.config.responseFrame with fullHeaders := h } v.slaveIpAddr endCode r.groupNo
    r.frameSequenceNo c.slaveApplicationStatus.toUInt16 c.slaveErrCode
    c.localManagementInfo).fullHeaders) hheaders
  exact heq

theorem responseToSend_grammar (hr : r.Valid v) :
    ResponseGrammar (responseToSend c r.frameSequenceNo r.groupNo includeData endCode
      v.slaveIpAddr).datagram v.slaveIpAddr c.config.numOccupiedStations.toNat := by
  have hlayout := responseToSend_layout hf r.frameSequenceNo r.groupNo includeData endCode
    v.slaveIpAddr
  have hheaders := responseToSend_headers hf r.frameSequenceNo r.groupNo includeData endCode
    v.slaveIpAddr
  have hgroup : r.groupNo.toUInt8 = r.fullHeaders.cyclicDataHeader.groupNo :=
    UInt8.toUInt8_toUInt16 _
  have hdl : (UInt16.ofNat (clCalculateCyclicResponseSize c.config.numOccupiedStations
      - respHeaderDlOffset)).toNat + 9 = 59 + 72 * c.config.numOccupiedStations.toNat := by
    have hn := hf.stations
    have hdl9 : respHeaderDlOffset = 9 := rfl
    rw [UInt16.toNat_ofNat']
    unfold clCalculateCyclicResponseSize
    omega
  refine ⟨?_, hf.stations, hlayout.len⟩
  rw [hheaders, responseToSend_fullHeaders hf]
  refine ⟨hdl.trans hlayout.len.symm, ⟨rfl, rfl, rfl, rfl, rfl, rfl⟩, Or.inr rfl, rfl, fun _ => rfl,
    ?_, ⟨rfl, rfl⟩, ?_, rfl, rfl, ?_⟩
  · show c.slaveApplicationStatus.toUInt16 = 0 ∨ c.slaveApplicationStatus.toUInt16 = 1
    cases c.slaveApplicationStatus with
    | stopped => exact Or.inl rfl
    | operating => exact Or.inr rfl
  · show 1 ≤ r.groupNo.toUInt8.toNat ∧ r.groupNo.toUInt8.toNat ≤ 64
    rw [hgroup]
    exact hr.groupNo
  · have hip := hr.slaveIpAddr_ne
    rw [hr.slaveIpAddr] at hip
    exact hip

end

/-- what the master makes of the response -/
structure Extracted (c : Cls) (v : Received) (r : CyclicRequest) (includeData : Bool)
    (endCode : UInt16) (now : UInt32) (response : CyclicResponse) : Prop where
  occupied : response.numberOfOccupied = c.config.numOccupiedStations
  values : ∀ transmissionTimestamp,
    clmIefbStoreIncomingSlaveRuntimeInfo response transmissionTimestamp
      = c.frameValues v r endCode (now - transmissionTimestamp)
  data : ∀ k, k < c.config.numOccupiedStations.toNat →
    response.rwr k = (if includeData then c.cciefbRespFrameNormal.rwr k else .zero)
      ∧ response.rx k = if includeData then c.cciefbRespFrameNormal.rx k else .zero

theorem responseToSend_extracted {c : Cls} (hf : Frames c) {v : Received} {r : CyclicRequest}
    (hr : r.Valid v) (includeData : Bool) (endCode : UInt16) (remotePort : UInt16) (now : UInt32) :
    ∃ response, clmIefbInputResponse (responseToSend c r.frameSequenceNo r.groupNo includeData
        endCode v.slaveIpAddr).datagram v.slaveIpAddr remotePort now = .ok response
      ∧ Extracted c v r includeData endCode now response := by
  have hgrammar := responseToSend_grammar hf includeData endCode hr
  have hheaders := (responseToSend_headers hf r.frameSequenceNo r.groupNo includeData endCode
    v.slaveIpAddr).trans (responseToSend_fullHeaders hf includeData endCode)
  have hgroup : r.groupNo.toUInt8.toUInt16 = r.groupNo := by
    unfold CyclicRequest.groupNo
    rw [UInt8.toUInt8_toUInt16]
  refine ⟨_, clmIefbInputResponse_ok remotePort now hgrammar, UInt16.ofNat_toNat, ?_, ?_⟩
  · intro transmissionTimestamp
    simp only [clmIefbStoreIncomingSlaveRuntimeInfo, hheaders, UInt16.ofNat_toNat]
    simp only [clIefbUpdateCyclicResponseFrame, Cls.frameValues, hgroup]
    rfl
  · intro k hk
    exact responseToSend_data hf r.frameSequenceNo r.groupNo includeData endCode v.slaveIpAddr hk

/-! ## the data in the master -/

/-- the master with another memory area of group `g` -/
def Clm.withArea (c : Clm) (g : Nat) (area : MemoryArea) : Clm :=
  { c with groups := Function.update c.groups g { c.groups g with memoryArea := area } }

theorem Clm.withArea_self (c : Clm) (g : Nat) (area : MemoryArea) :
    (c.withArea g area).groups g = { c.groups g with memoryArea := area } :=
  Function.update_self ..

theorem Placed.withArea {cfg : Config} {c : Clm} {g d : Nat} (h : Placed cfg c g d)
    (area : MemoryArea) : Placed cfg (c.withArea g area) g d := by
  refine ⟨h.config, h.group, h.device, h.occupied, h.pos, ?_⟩
  rw [Clm.withArea_self]
  exact h.station

/-- the memory area of the group once the response of device `d` is stored as valid data -/
def Clm.storeValid (m : Clm) (g d : Nat) (response : CyclicResponse) (n : UInt16) : Clm :=
  m.withArea g (clmIefbStoreIncomingCyclicData (m.groups g).memoryArea response
    ((m.groups g).slaveDevices d).slaveStationNo n true)

section
variable {cfg : Config} {m : Clm} {g d : Nat} (h : Placed cfg m g d) {response : CyclicResponse}
  {n : UInt16} (hn : ((cfg.hier.groups g).slaveDevices d).numOccupiedStations = n)
include h

theorem Clm.storeValid_areas {k : Nat} (hk : k < n.toNat) :
    ((m.storeValid g d response n).groups g).memoryArea.rx ((cfg.hier.groups g).pos d + k)
        = response.rx k
      ∧ ((m.storeValid g d response n).groups g).memoryArea.rwr ((cfg.hier.groups g).pos d + k)
        = response.rwr k := by
  have hpos := h.pos
  have hstation : ((m.groups g).slaveDevices d).slaveStationNo.toNat - 1
      = (cfg.hier.groups g).pos d := by
    rw [h.station, UInt16.toNat_ofNat']
    omega
  unfold Clm.storeValid
  rw [Clm.withArea_self]
  simp only [clmIefbStoreIncomingCyclicData, if_true, hstation]
  exact ⟨blit_in hk, blit_in hk⟩

include hn

/-- the application of the master reads the data of the response -/
theorem Clm.storeValid_read (k : UInt16) :
    (k.toNat < 64 * n.toNat → clmIefbGetRxBit (m.storeValid g d response n) g d k
        = areaBitBelow n response.rx k)
      ∧ (k.toNat < 32 * n.toNat → clmIefbGetRwrValue (m.storeValid g d response n) g d k
        = areaWordBelow n response.rwr k) := by
  have hplaced : Placed cfg (m.storeValid g d response n) g d := h.withArea _
  have hnum : (cfg.hier.groups g).num d = n.toNat := by
    rw [← hn]
    rfl
  constructor
  · intro hk
    rw [clmIefbGetRxBit_eq hplaced (by rw [hnum]; exact hk), areaBitBelow_eq hk]
    refine congrArg some (areaBit_congr ?_ hk)
    intro j hj
    exact (Clm.storeValid_areas h hj).1
  · intro hk
    rw [clmIefbGetRwrValue_eq hplaced (by rw [hnum]; exact hk), areaWordBelow_eq hk]
    refine congrArg some (areaWord_congr ?_ hk)
    intro j hj
    exact (Clm.storeValid_areas h hj).2

end

/-! ## what a slave sends -/

/-- with the end code for success a response carries data if the bit of its slave is on, otherwise it
carries none -/
def CyclicRequest.CarriesData (r : CyclicRequest) (includeData : Bool) (endCode : UInt16) : Prop :=
  endCode ≠ endcodeSuccess ∧ includeData = false
    ∨ endCode = endcodeSuccess ∧ ∃ q, OwnStation r q ∧ includeData = r.bit q

theorem clsIefbHandleInputFrame_sends {c : Cls} (hf : Frames c) (now : UInt32) (v : Received)
    {x : ClsOutput} (hx : x ∈ (clsIefbHandleInputFrame now v ⟨c, []⟩).1.out.filter
      ClsOutput.isResponse) :
    ∃ r includeData endCode, v.cyclicRequest = some r ∧ r.CarriesData includeData endCode
      ∧ x = .sendResponse v.remoteIp v.remotePort (responseToSend c r.frameSequenceNo r.groupNo
        includeData endCode v.slaveIpAddr).datagram := by
  rw [clsIefbHandleInputFrame_eq] at hx
  cases hv : v.cyclicRequest with
  | none =>
    rw [hv] at hx
    exact absurd hx List.not_mem_nil
  | some r =>
    rw [hv] at hx
    simp only at hx
    have hr := Received.cyclicRequest_valid hv
    rcases (handleCyclicRequest_handled now (r := r) (s := ⟨c, []⟩)).classify now hr hf with
      h | ⟨endCode, hout, hrefusal⟩ | ⟨u, hadds, hfu, hu, _, heq⟩
    · have hfilter := h.filter []
      rw [List.nil_append, List.nil_append] at hfilter
      rw [hfilter] at hx
      exact absurd hx List.not_mem_nil
    · rw [hout] at hx
      refine ⟨r, false, endCode, rfl, Or.inl ⟨?_, rfl⟩, List.mem_singleton.mp hx⟩
      rcases hrefusal with hrefusal | ⟨_, hwrong⟩
      · exact hrefusal.ne_success hf
      · rw [hwrong]
        decide
    · have hfilter := hadds.filter []
      rw [List.nil_append, List.nil_append] at hfilter
      rw [heq] at hx
      rcases clsIefbHandleCyclicEvent_answers now hv hfu hu with
        h | ⟨bit, dg, hdg, hbit, hout, _, _⟩
      · have hevent := h.filter []
        rw [List.nil_append, List.nil_append, hfilter] at hevent
        rw [hevent] at hx
        exact absurd hx List.not_mem_nil
      · rw [hout, hfilter] at hx
        exact ⟨r, bit, endcodeSuccess, rfl, Or.inr ⟨rfl, _, hu.own, hbit⟩,
          hdg ▸ List.mem_singleton.mp hx⟩

/-- **Every response of a step** answers the request that was received in it. -/
theorem clsStep_sends {c : Cls} (hf : Frames c) {e : ClsEvent} {x : ClsOutput}
    (hx : x ∈ (clsStep c e).2) (hresponse : x.isResponse = true) :
    ∃ now v r includeData endCode, e = .periodic now (some v) ∧ v.cyclicRequest = some r
      ∧ r.CarriesData includeData endCode
      ∧ x = .sendResponse v.remoteIp v.remotePort (responseToSend c r.frameSequenceNo r.groupNo
        includeData endCode v.slaveIpAddr).datagram := by
  have habort : c.aborted = false := by
    by_contra h
    rw [Bool.not_eq_false] at h
    unfold clsStep at hx
    rw [if_pos h] at hx
    exact absurd hx List.not_mem_nil
  have hmem : x ∈ responsesTo c e := by
    rw [← clsStep_responses habort]
    exact List.mem_filter.mpr ⟨hx, hresponse⟩
  unfold responsesTo at hmem
  split at hmem
  · rename_i now v
    obtain ⟨r, includeData, endCode, hv, hdata, heq⟩ := clsIefbHandleInputFrame_sends hf now v hmem
    exact ⟨now, v, r, includeData, endCode, rfl, hv, hdata, heq⟩
  · exact absurd hmem List.not_mem_nil

namespace SlaveStart
variable {o : Options} (st : SlaveStart o)

/-- **A response, from the slave in any run to the master in any run.**  It is made for the request
that it answers; the master accepts it, finds the header details of the slave in it, and its
application reads the data of the application of the slave, or zeros. -/
theorem responseEndToEnd (es : List ClsEvent) {e : ClsEvent} {x : ClsOutput}
    (hx : x ∈ (slave.step (st.run es).1 e).2) (hresponse : x.isResponse = true) :
    let c := (st.run es).1
    let n := c.config.numOccupiedStations
    ∃ now v r includeData endCode dg, e = .periodic now (some v) ∧ v.cyclicRequest = some r
      ∧ x = .sendResponse v.remoteIp v.remotePort dg
      ∧ dg = (responseToSend c r.frameSequenceNo r.groupNo includeData endCode
        v.slaveIpAddr).datagram
      ∧ ∀ remotePort reception, ∃ response,
        clmIefbInputResponse dg v.slaveIpAddr remotePort reception = .ok response
          ∧ response.numberOfOccupied = n
          ∧ (∀ transmission, clmIefbStoreIncomingSlaveRuntimeInfo response transmission
            = c.frameValues v r endCode (reception - transmission))
          ∧ ∀ (o' : Options) (sm : MasterStart o') ems g d, g < sm.vc.numGroups →
            d < (sm.vc.setting g).numSlaveDevices.toNat →
            ((sm.vc.setting g).slaveDevices d).numOccupiedStations = n →
              let m := ((sm.run ems).1.storeValid g d response n)
              ∀ k : UInt16, (k.toNat < 64 * n.toNat → clmIefbGetRxBit m g d k
                  = if includeData then clsIefbGetRxBit c k else some false)
                ∧ (k.toNat < 32 * n.toNat → clmIefbGetRwrValue m g d k
                  = if includeData then clsIefbGetRwrValue c k else some 0) := by
  intro c n
  have hf : Frames c := st.run_frames es
  obtain ⟨now, v, r, includeData, endCode, he, hv, _, hdg⟩ := clsStep_sends hf hx hresponse
  refine ⟨now, v, r, includeData, endCode, _, he, hv, hdg, rfl, ?_⟩
  intro remotePort reception
  obtain ⟨response, hok, hext⟩ := responseToSend_extracted hf (Received.cyclicRequest_valid hv)
    includeData endCode remotePort reception
  refine ⟨response, hok, hext.occupied, hext.values, ?_⟩
  intro o' sm ems g d hg hd hn m k
  obtain ⟨hrx, hrwr⟩ : (k.toNat < 64 * n.toNat → clmIefbGetRxBit m g d k
      = areaBitBelow n response.rx k) ∧ (k.toNat < 32 * n.toNat → clmIefbGetRwrValue m g d k
      = areaWordBelow n response.rwr k) :=
    Clm.storeValid_read (sm.run_placed ems hg hd) hn k
  constructor
  · intro hk
    rw [hrx hk, areaBitBelow_eq hk, areaBit_congr (fun j hj => (hext.data j hj).2) hk]
    cases includeData with
    | true => exact (areaBitBelow_eq hk _).symm
    | false => exact congrArg some (areaBit_zero k)
  · intro hk
    rw [hrwr hk, areaWordBelow_eq hk, areaWord_congr (fun j hj => (hext.data j hj).1) hk]
    cases includeData with
    | true => exact (areaWordBelow_eq hk _).symm
    | false => exact congrArg some (areaWord_zero k)

end SlaveStart

/-- the first response of the slave in the small network -/
theorem exampleRequest_answered :
    ∃ dg response, .sendResponse 0xC0A80001 61450 dg
        ∈ (slave.step (exampleSlaveStart.run []).1
          (.periodic 10 (some (exampleRequest 0xC0A80001 0 0 0xC0A80003)))).2
      ∧ clmIefbInputResponse dg 0xC0A80002 61450 0 = .ok response
      ∧ response.numberOfOccupied = 1 := by
  have hlen : ((slave.step (exampleSlaveStart.run []).1
      (.periodic 10 (some (exampleRequest 0xC0A80001 0 0 0xC0A80003)))).2.filter
        ClsOutput.isResponse).length = 1 := by decide +kernel
  obtain ⟨x, hsingle⟩ := List.length_eq_one_iff.mp hlen
  obtain ⟨hx, hresponse⟩ := List.mem_filter.mp (hsingle ▸ List.mem_singleton_self x)
  obtain ⟨now, v, r, includeData, endCode, dg, he, _, rfl, _, hall⟩ :=
    exampleSlaveStart.responseEndToEnd [] hx hresponse
  obtain ⟨rfl, hv⟩ := ClsEvent.periodic.inj he
  obtain rfl := Option.some.inj hv
  obtain ⟨response, hok, hn, _⟩ := hall 61450 0
  exact ⟨dg, response, hx, hok, hn⟩

end CLink
