import CLink.Slave.Invariant

/-!
# The responses of the slave

Every request is answered at most once, to its sender.  A response with the end code for success
comes from the cyclic event, whichever of the three ways led there, so its facts are proved once for
a slave that is `Connected` to the sender of the request.

* `clsIefbCopyCyclicDataFromRequest_some`   what the copy stores;
* `answerRequest_answers`                   the response and the stored data of a connected slave;
* `Handled.classify`                        no response, an error frame, or a cyclic event;
* `SlaveStart.successResponses`             the responses of every run;
* `wrongStationcount_answered`              the one response to a bit that is on without a master.
-/

namespace CLink
open Loop

/-! ## the copy -/

theorem clsIefbCopyCyclicDataFromRequest_some {c : Cls} {r : CyclicRequest} {q : UInt16}
    {bit : Bool} {area : ClsMemoryArea}
    (hn : 1 ≤ c.config.numOccupiedStations.toNat ∧ c.config.numOccupiedStations.toNat ≤ 16)
    (h : clsIefbCopyCyclicDataFromRequest c r q bit = some area) :
    q.toNat - 1 + c.config.numOccupiedStations.toNat ≤ r.totalOccupied.toNat
      ∧ ∀ k, k < c.config.numOccupiedStations.toNat →
        area.ry k = (if bit then r.ry (q.toNat - 1 + k) else .zero)
          ∧ area.rww k = if bit then r.rww (q.toNat - 1 + k) else .zero := by
  obtain ⟨hn1, hn16⟩ := hn
  unfold clsIefbCopyCyclicDataFromRequest at h
  simp only at h
  split at h
  · cases h
  split at h
  · cases h
  rename_i hstart
  split at h
  · cases h
  rename_i hend
  simp only [not_or, gt_iff_lt, UInt16.lt_iff_toNat_lt, not_lt, ← UInt16.toNat_inj] at hstart hend
  -- the end number does not wrap around
  have hstart1 : q.toNat ≠ 0 := hstart.1
  have hstart16 : q.toNat ≤ 16 := hstart.2
  have hnumber : (q + c.config.numOccupiedStations - 1).toNat
      = q.toNat - 1 + c.config.numOccupiedStations.toNat := by
    rw [UInt16.toNat_sub, UInt16.toNat_add]
    show (2^16 - 1 + (q.toNat + c.config.numOccupiedStations.toNat) % 2^16) % 2^16 = _
    omega
  have hle : q.toNat - 1 + c.config.numOccupiedStations.toNat ≤ r.totalOccupied.toNat := by
    rw [← hnumber]
    exact hend.2
  refine ⟨hle, ?_⟩
  intro k hk
  split at h
  · rename_i ry rww hry hrww
    have hry' : ry = fun k => r.ry (q.toNat - 1 + k) := by
      unfold clIefbRequestGetRy at hry
      simp only at hry
      split at hry
      · cases hry
      · exact (Option.some.inj hry).symm
    have hrww' : rww = fun k => r.rww (q.toNat - 1 + k) := by
      unfold clIefbRequestGetRww at hrww
      simp only at hrww
      split at hrww
      · cases hrww
      · exact (Option.some.inj hrww).symm
    cases bit with
    | true =>
      obtain rfl := Option.some.inj h
      simp only [blit_start hk, hry', hrww', if_true, and_self]
    | false =>
      obtain rfl := Option.some.inj h
      simp only [blit_start hk, Bool.false_eq_true, if_false, and_self]
  · cases h

theorem clsIefbCopyCyclicDataFromRequest_exists {c : Cls} {r : CyclicRequest} {q : UInt16}
    (bit : Bool) (hq : 1 ≤ q.toNat) (hn : 1 ≤ c.config.numOccupiedStations.toNat)
    (htotal : r.totalOccupied.toNat ≤ 16)
    (hle : q.toNat - 1 + c.config.numOccupiedStations.toNat ≤ r.totalOccupied.toNat) :
    ∃ area, clsIefbCopyCyclicDataFromRequest c r q bit = some area := by
  have hmin : minOccupiedStationsPerGroup.toNat = 1 := rfl
  have hmax : maxOccupiedStationsPerGroup.toNat = 16 := rfl
  have hzero : (0 : UInt16).toNat = 0 := rfl
  have hnumber : (q + c.config.numOccupiedStations - 1).toNat
      = q.toNat - 1 + c.config.numOccupiedStations.toNat := by
    rw [UInt16.toNat_sub, UInt16.toNat_add]
    show (2^16 - 1 + (q.toNat + c.config.numOccupiedStations.toNat) % 2^16) % 2^16 = _
    omega
  have hcount : ¬ (r.totalOccupied = 0 ∨ r.totalOccupied > maxOccupiedStationsPerGroup
      ∨ r.totalOccupied < c.config.numOccupiedStations) := by
    rw [← UInt16.toNat_inj, gt_iff_lt, UInt16.lt_iff_toNat_lt, UInt16.lt_iff_toNat_lt]
    omega
  have hstart : ¬ (q = 0 ∨ q > maxOccupiedStationsPerGroup) := by
    rw [← UInt16.toNat_inj, gt_iff_lt, UInt16.lt_iff_toNat_lt]
    omega
  have hend : ¬ (q + c.config.numOccupiedStations - 1 > maxOccupiedStationsPerGroup
      ∨ q + c.config.numOccupiedStations - 1 > r.totalOccupied) := by
    rw [gt_iff_lt, gt_iff_lt, UInt16.lt_iff_toNat_lt, UInt16.lt_iff_toNat_lt, hnumber]
    omega
  have hstation : ¬ (q < minOccupiedStationsPerGroup ∨ q > maxOccupiedStationsPerGroup
      ∨ q > r.fullHeaders.cyclicDataHeader.slaveTotalOccupiedStationCount) := by
    have hfield : r.fullHeaders.cyclicDataHeader.slaveTotalOccupiedStationCount
        = r.totalOccupied := rfl
    rw [hfield, gt_iff_lt, gt_iff_lt, UInt16.lt_iff_toNat_lt, UInt16.lt_iff_toNat_lt,
      UInt16.lt_iff_toNat_lt]
    omega
  unfold clsIefbCopyCyclicDataFromRequest clIefbRequestGetRy clIefbRequestGetRww
  simp only [if_neg hcount, if_neg hstart, if_neg hend, if_neg hstation]
  cases bit with
  | true => exact ⟨_, rfl⟩
  | false => exact ⟨_, rfl⟩

/-! ## the frame that is sent -/

section
variable {c : Cls} (hf : Frames c) (frameSequenceNo groupNo : UInt16) (includeData : Bool)
  (endCode : UInt16) (slaveIpAddr : IpAddr)
include hf

theorem responseToSend_layout :
    (responseToSend c frameSequenceNo groupNo includeData endCode slaveIpAddr).Layout
      c.config.numOccupiedStations.toNat := by
  cases includeData with
  | true => exact ⟨hf.normal.len, hf.normal.firstRwr, hf.normal.firstRx⟩
  | false => exact ⟨hf.error.len, hf.error.firstRwr, hf.error.firstRx⟩

/-- the headers that a reader of the payload finds -/
theorem responseToSend_headers :
    RespFullHeaders.ofBuffer
        (responseToSend c frameSequenceNo groupNo includeData endCode slaveIpAddr).datagram.byte
      = (responseToSend c frameSequenceNo groupNo includeData endCode slaveIpAddr).fullHeaders :=
  ResponseFrame.fullHeaders_datagram (responseToSend_layout hf ..)

/-- the data of the payload: that of the application, or zeros -/
theorem responseToSend_data {k : Nat} (hk : k < c.config.numOccupiedStations.toNat) :
    let dg := (responseToSend c frameSequenceNo groupNo includeData endCode slaveIpAddr).datagram
    wordAreasAt dg.byte 59 k = (if includeData then c.cciefbRespFrameNormal.rwr k else .zero)
      ∧ bitAreasAt dg.byte (59 + 64 * c.config.numOccupiedStations.toNat) k
        = if includeData then c.cciefbRespFrameNormal.rx k else .zero := by
  have hlayout := responseToSend_layout hf frameSequenceNo groupNo includeData endCode slaveIpAddr
  have hrwr := ResponseFrame.rwr_datagram hlayout hk
  have hrx := ResponseFrame.rx_datagram hlayout hk
  refine ⟨hrwr.trans ?_, hrx.trans ?_⟩
  · cases includeData with
    | true => rfl
    | false => exact congrFun hf.errorRwr k
  · cases includeData with
    | true => rfl
    | false => exact congrFun hf.errorRx k

end

/-! ## success -/

/-- the facts of a response `dg` with the end code for success: the slave was `c` before and is `c'`
after it has handled what it received -/
structure Answers (c c' : Cls) (v : Received) (dg : Datagram) (r : CyclicRequest) : Prop where
  request : v.cyclicRequest = some r
  sender : r.masterId = v.remoteIp
  control : c'.state = .masterControl ∧ c'.master.masterId = r.masterId
  own : 1 ≤ c'.master.slaveStationNo.toNat
    ∧ c'.master.slaveStationNo.toNat - 1 + c.config.numOccupiedStations.toNat
      ≤ r.totalOccupied.toNat
    ∧ r.slaveIds (c'.master.slaveStationNo.toNat - 1) = v.slaveIpAddr
  echo : (RespFullHeaders.ofBuffer dg.byte).cyclicDataHeader.groupNo
        = r.fullHeaders.cyclicDataHeader.groupNo
    ∧ (RespFullHeaders.ofBuffer dg.byte).cyclicDataHeader.frameSequenceNo = r.frameSequenceNo
  stored : ∀ k, c'.cyclicDataArea.ry k
        = (if r.bit c'.master.slaveStationNo ∧ k < c.config.numOccupiedStations.toNat
          then r.ry (c'.master.slaveStationNo.toNat - 1 + k) else .zero)
    ∧ c'.cyclicDataArea.rww k
        = if r.bit c'.master.slaveStationNo ∧ k < c.config.numOccupiedStations.toNat
          then r.rww (c'.master.slaveStationNo.toNat - 1 + k) else .zero
  len : dg.len = 59 + 72 * c.config.numOccupiedStations.toNat
  sent : ∀ k, k < c.config.numOccupiedStations.toNat →
    wordAreasAt dg.byte 59 k
        = (if r.bit c'.master.slaveStationNo then c.cciefbRespFrameNormal.rwr k else .zero)
    ∧ bitAreasAt dg.byte (59 + 64 * c.config.numOccupiedStations.toNat) k
        = if r.bit c'.master.slaveStationNo then c.cciefbRespFrameNormal.rx k else .zero

/-- the slave `u` in which request `r` to slave `c` comes to its cyclic event -/
structure Connected (c : Cls) (r : CyclicRequest) (u : Cls) : Prop where
  config : u.config = c.config
  normal : u.cciefbRespFrameNormal = c.cciefbRespFrameNormal
  reply : responseToSend u = responseToSend c
  control : u.state = .masterControl
  masterId : u.master.masterId = r.masterId
  own : OwnStation r u.master.slaveStationNo

section
variable (now : UInt32) {r : CyclicRequest} {v : Received} {c : Cls} {s u t : ClsScope}

/-- **The cyclic event of a connected slave**: no response, or the response with everything it
stands for. -/
theorem clsIefbHandleCyclicEvent_answers (hv : v.cyclicRequest = some r) (hf : Frames u.cls)
    (hu : Connected c r u.cls) :
    Adds ClsOutput.isResponse u (clsIefbHandleCyclicEvent now r u).1
      ∨ ∃ bit dg, dg = (responseToSend c r.frameSequenceNo r.groupNo bit endcodeSuccess
            v.slaveIpAddr).datagram
          ∧ bit = r.bit u.cls.master.slaveStationNo
          ∧ (clsIefbHandleCyclicEvent now r u).1.out.filter ClsOutput.isResponse
            = u.out.filter ClsOutput.isResponse ++ [.sendResponse v.remoteIp v.remotePort dg]
          ∧ (RespFullHeaders.ofBuffer dg.byte).cyclicHeader.endCode = endcodeSuccess
          ∧ Answers c (clsIefbHandleCyclicEvent now r u).1.cls v dg r := by
  have hr := Received.cyclicRequest_valid hv
  rcases clsIefbHandleCyclicEvent_cases now r u with heq | ⟨area, hcopy, heq⟩
  · rw [heq]
    exact Or.inl (.of_eq rfl)
  right
  -- the scope in which the response is built
  obtain ⟨w, hw⟩ : ∃ w, w = clsIefbHandleMasterStateCallback true r.protocolVer
      r.masterLocalUnitInfo (u.storeCyclicData r area) := ⟨_, rfl⟩
  have hwcls : w.cls = { (u.storeCyclicData r area).cls with
      triggerData := ⟨true, true, r.protocolVer, r.masterLocalUnitInfo⟩ } := by
    rw [hw]
    exact clsIefbHandleMasterStateCallback_cls ..
  have hwadds : Adds ClsOutput.isResponse u w := by
    have h := clsIefbHandleMasterStateCallback_adds true r.protocolVer r.masterLocalUnitInfo
      (u.storeCyclicData r area) (p := ClsOutput.isResponse) fun _ _ _ _ _ => rfl
    rw [hw]
    exact h
  have hfstored := hf.copy (r := r) hcopy
  have hfw : Frames w.cls := by
    rw [hwcls]
    exact hfstored.same ⟨rfl, rfl, rfl, rfl, rfl⟩
  obtain ⟨bit, hbit⟩ : ∃ bit, bit = clsTransmissionBit u.cls r := ⟨_, rfl⟩
  rw [← hbit] at hcopy heq
  have hout := clsIefbSendCyclicResponseFrame_out r.frameSequenceNo r.groupNo bit endcodeSuccess
    r.remoteIp r.remotePort r.slaveIpAddr w rfl
  rw [hr.remoteIp, hr.remotePort, hr.slaveIpAddr] at hout
  have hheaders := responseToSend_headers hfw r.frameSequenceNo r.groupNo bit endcodeSuccess
    v.slaveIpAddr
  have hlayout := responseToSend_layout hfw r.frameSequenceNo r.groupNo bit endcodeSuccess
    v.slaveIpAddr
  have hdata {k : Nat} (hk : k < w.cls.config.numOccupiedStations.toNat) :=
    responseToSend_data hfw r.frameSequenceNo r.groupNo bit endcodeSuccess v.slaveIpAddr hk
  obtain ⟨frame, hframe⟩ : ∃ frame, frame = responseToSend w.cls r.frameSequenceNo r.groupNo bit
      endcodeSuccess v.slaveIpAddr := ⟨_, rfl⟩
  rw [← hframe] at hout hheaders hlayout hdata
  have hcopied := clsIefbCopyCyclicDataFromRequest_some hf.stations hcopy
  have hconfig : w.cls.config = c.config := by
    rw [hwcls]
    exact hu.config
  have hnormal : w.cls.cciefbRespFrameNormal = c.cciefbRespFrameNormal := by
    rw [hwcls]
    exact hu.normal
  have hreply : responseToSend w.cls = responseToSend c := by
    rw [hwcls]
    exact hu.reply
  refine ⟨bit, frame.datagram, ?_, hbit, ?_, ?_, ?_⟩
  · rw [hframe, hreply]
  · have hfilter := hwadds.filter []
    rw [List.nil_append, List.nil_append] at hfilter
    rw [heq]
    show (clsIefbSendCyclicResponseFrame r.frameSequenceNo r.groupNo bit endcodeSuccess r.remoteIp
      r.remotePort r.slaveIpAddr (clsIefbHandleMasterStateCallback ..)).out.filter _ = _
    rw [← hw, hr.remoteIp, hr.remotePort, hr.slaveIpAddr, hout, List.filter_append, hfilter]
    rfl
  · rw [hheaders, hframe]
    rfl
  · obtain ⟨normal, error, aborted, hcls⟩ := answerRequest_cls now r bit (u.storeCyclicData r area)
    rw [← heq] at hcls
    have hstate : (clsIefbHandleCyclicEvent now r u).1.cls.state = u.cls.state := by
      rw [hcls]
      rfl
    have hid : (clsIefbHandleCyclicEvent now r u).1.cls.master.masterId = u.cls.master.masterId := by
      rw [hcls]
      rfl
    have hstation : (clsIefbHandleCyclicEvent now r u).1.cls.master.slaveStationNo
        = u.cls.master.slaveStationNo := by
      rw [hcls]
      rfl
    have harea : (clsIefbHandleCyclicEvent now r u).1.cls.cyclicDataArea = area := by
      rw [hcls]
      rfl
    have hmask : r.bit u.cls.master.slaveStationNo = bit := hbit.symm
    refine ⟨hv, hr.masterId, ⟨hstate.trans hu.control, hid.trans hu.masterId⟩, ?_, ⟨?_, ?_⟩, ?_, ?_,
      ?_⟩
    · rw [hstation, ← hu.config, ← hr.slaveIpAddr]
      exact ⟨hu.own.pos, hcopied.1, hu.own.own⟩
    · rw [hheaders, hframe]
      exact UInt8.toUInt8_toUInt16 _
    · rw [hheaders, hframe]
      rfl
    · intro k
      simp only [harea, hstation, hmask, ← hu.config]
      by_cases hk : k < u.cls.config.numOccupiedStations.toNat
      · simp only [hk, and_true]
        exact hcopied.2 k hk
      · rw [if_neg (fun h => hk h.2), if_neg (fun h => hk h.2)]
        exact hfstored.area k (not_lt.mp hk)
    · show frame.udpPayloadLen = _
      rw [hlayout.len, hconfig]
    · intro k hk
      rw [← hconfig] at hk
      obtain ⟨hrwr, hrx⟩ := hdata hk
      rw [hnormal] at hrwr hrx
      rw [hconfig] at hrx
      simp only [hstation, hmask]
      exact ⟨hrwr, hrx⟩

/-! ## the three kinds of outcomes -/

/-- one error frame of the slave `c` more than before, to the sender of the request -/
def Refuses (c : Cls) (v : Received) (r : CyclicRequest) (endCode : UInt16) (s t : ClsScope) : Prop :=
  t.out.filter ClsOutput.isResponse = s.out.filter ClsOutput.isResponse
    ++ [.sendResponse v.remoteIp v.remotePort
      (responseToSend c r.frameSequenceNo r.groupNo false endCode v.slaveIpAddr).datagram]

theorem Refuses.of_adds {endCode : UInt16} (hs : Adds ClsOutput.isResponse s u)
    (h : Refuses c v r endCode u t) : Refuses c v r endCode s t := by
  have hfilter := hs.filter []
  rw [List.nil_append, List.nil_append] at hfilter
  unfold Refuses
  rw [← hfilter]
  exact h

theorem Refuses.adds {endCode : UInt16} (h : Refuses c v r endCode s u)
    (ht : Adds ClsOutput.isResponse u t) : Refuses c v r endCode s t := by
  have hfilter := ht.filter []
  rw [List.nil_append, List.nil_append] at hfilter
  exact hfilter.trans h

theorem clsIefbSendCyclicResponseErrorFrame_refuses (hr : r.Valid v)
    (hreply : responseToSend s.cls = responseToSend c) {endCode : UInt16}
    (hcode : clIsSlaveEndcodeValid endCode = true) :
    Refuses c v r endCode s (clsIefbSendCyclicResponseErrorFrame r endCode s) := by
  unfold Refuses clsIefbSendCyclicResponseErrorFrame
  rw [clsIefbSendCyclicResponseFrame_out _ _ _ _ _ _ _ _ hcode, List.filter_append, hr.remoteIp,
    hr.remotePort, hr.slaveIpAddr, hreply]
  rfl

theorem clsIefbIsMasterIdCorrect_eq {id : IpAddr} (h : clsIefbIsMasterIdCorrect c id = true) :
    c.master.masterId = id := by
  unfold clsIefbIsMasterIdCorrect at h
  split at h
  · cases h
  · exact (of_decide_eq_true h).symm

theorem Refusal.ne_success {endCode : UInt16} (h : Refusal c r endCode) (hf : Frames c) :
    endCode ≠ endcodeSuccess := by
  cases h with
  | wrongMaster => decide
  | wrongStationcount => decide
  | disabled =>
    rcases hf.endcode with h | h <;> rw [h] <;> decide

/-- messages do not change what is sent next -/
theorem Reported.reply (h : Reported s t) : responseToSend t.cls = responseToSend s.cls := by
  obtain ⟨a, b, hcls⟩ := h.cls
  rw [hcls]
  rfl

/-- no response, one error frame, or the cyclic event of a connected slave -/
theorem Handled.classify (hr : r.Valid v) (hf : Frames s.cls) (h : Handled now r s t) :
    Adds ClsOutput.isResponse s t
      ∨ (∃ endCode, Refuses s.cls v r endCode s t ∧ (Refusal s.cls r endCode
        ∨ s.cls.state = .masterControl ∧ endCode = endcodeWrongNumberOccupiedStations))
      ∨ ∃ u, Adds ClsOutput.isResponse s u ∧ Frames u.cls ∧ Connected s.cls r u.cls
        ∧ (s.cls.state = .masterNone → ∃ q, FoundStation r q s.cls.config.numOccupiedStations
          ∧ r.bit q = false)
        ∧ t = (clsIefbHandleCyclicEvent now r u).1 := by
  cases h with
  | dropped hrep => exact Or.inl (hrep.adds fun _ _ _ => rfl)
  | @refused t endCode hrep href =>
    have hrefuses := clsIefbSendCyclicResponseErrorFrame_refuses hr hrep.reply (href.valid hf)
    exact Or.inr (Or.inl ⟨endCode, hrefuses.of_adds (hrep.adds fun _ _ _ => rfl), Or.inl href⟩)
  | @disconnected t q hrep hc _ =>
    have hbefore : Adds ClsOutput.isResponse s (t.leaveFor .masterNone) :=
      (hrep.adds fun _ _ _ => rfl).trans (leaveFor_adds rfl t _)
    have hreply : responseToSend (t.leaveFor .masterNone).cls = responseToSend s.cls := by
      rw [← hrep.reply]
      unfold ClsScope.leaveFor
      split <;> rfl
    have hrefuses := clsIefbSendCyclicResponseErrorFrame_refuses hr hreply
      (show clIsSlaveEndcodeValid endcodeWrongNumberOccupiedStations = true from rfl)
    have hafter (w : ClsScope) : Adds ClsOutput.isResponse w
        ((clsIefbClearMasterInfo w).emit (.stateCb .masterNone)) := by
      have hclear : Adds ClsOutput.isResponse w (clsIefbClearMasterInfo w) :=
        performOption_adds rfl (fun _ _ _ _ _ => rfl) now (some .onEntryMasterNone) w
      exact hclear.trans (.emit rfl _)
    exact Or.inr (Or.inl ⟨_, (hrefuses.of_adds hbefore).adds (hafter _), Or.inr ⟨hc, rfl⟩⟩)
  | correctMaster hc hid hown =>
    have hne : s.cls.state ≠ .masterNone := by
      rw [hc]
      decide
    exact Or.inr (Or.inr ⟨s, .of_eq rfl, hf, ⟨rfl, rfl, rfl, hc, clsIefbIsMasterIdCorrect_eq hid, hown⟩,
      fun h => absurd h hne, rfl⟩)
  | updatedMaster q hc hid hq hbit =>
    have hne : s.cls.state ≠ .masterNone := by
      rw [hc]
      decide
    have hstore : Frames (s.storeStation q).cls := hf.same ⟨rfl, rfl, rfl, rfl, rfl⟩
    obtain ⟨period, hcls⟩ := clsIefbHandleNewOrUpdatedMaster_cls now r (s.storeStation q)
    have hadds := clsIefbHandleNewOrUpdatedMaster_adds now r (s.storeStation q)
      (p := ClsOutput.isResponse) (fun _ _ _ => rfl) (fun _ _ _ _ _ => rfl)
    refine Or.inr (Or.inr ⟨_, hadds, hstore.newOrUpdatedMaster now, ?_, fun h => absurd h hne, rfl⟩)
    rw [hcls]
    exact ⟨rfl, rfl, rfl, hc, rfl, hq.own hr⟩
  | newMaster q hc hq hbit =>
    have hstore : Frames (s.storeStation q).cls := hf.same ⟨rfl, rfl, rfl, rfl, rfl⟩
    obtain ⟨period, hcls⟩ := clsIefbHandleNewOrUpdatedMaster_cls now r
      ((s.storeStation q).leaveFor .masterControl)
    have hleave : ((s.storeStation q).leaveFor .masterControl).cls
        = { (s.storeStation q).cls with state := .masterControl } := by
      unfold ClsScope.leaveFor
      split <;> rfl
    have hadds := (leaveFor_adds rfl (s.storeStation q) .masterControl).trans
      ((clsIefbHandleNewOrUpdatedMaster_adds now r ((s.storeStation q).leaveFor .masterControl)
        (p := ClsOutput.isResponse) (fun _ _ _ => rfl) (fun _ _ _ _ _ => rfl)).trans
        (.emit (x := .stateCb .masterControl) rfl _))
    refine Or.inr (Or.inr ⟨_, hadds, (hstore.leaveFor _).newOrUpdatedMaster now, ?_,
      fun _ => ⟨q, hq, hbit⟩, rfl⟩)
    show Connected _ _ (clsIefbHandleNewOrUpdatedMaster ..).1.cls
    rw [hcls, hleave]
    exact ⟨rfl, rfl, rfl, rfl, rfl, hq.own hr⟩

end

/-! ## connections -/

/-- a transition to `MASTER_CONTROL`, and the callback for a new master or new parameters -/
def ClsOutput.isConnection : ClsOutput → Bool
  | stateCb .masterControl => true
  | connectCb .. => true
  | _ => false

theorem ClsOutput.isConnection_stateCb {state : SlaveState} (h : state ≠ .masterControl) :
    (ClsOutput.stateCb state).isConnection = false := by
  cases state with
  | masterControl => exact absurd rfl h
  | slaveDown | masterNone | slaveDisabled | waitDisablingSlave => rfl

theorem slaveFsmMatrix_control {state : SlaveState} {event : SlaveEvent}
    (he : event ≠ .cyclicNewMaster) (hne : (slaveFsmMatrix state event).1 ≠ state) :
    (slaveFsmMatrix state event).1 ≠ .masterControl := by
  revert he hne
  cases state <;> cases event <;> decide

section
variable (now : UInt32) {r : CyclicRequest} {s t : ClsScope}

/-- only a request with the bit of the slave off makes a connection -/
theorem Handled.connects (h : Handled now r s t) :
    Adds ClsOutput.isConnection s t
      ∨ ∃ q, FoundStation r q s.cls.config.numOccupiedStations ∧ r.bit q = false := by
  cases h with
  | dropped hrep => exact Or.inl (hrep.adds fun _ _ _ => rfl)
  | refused hrep _ =>
    exact Or.inl ((hrep.adds fun _ _ _ => rfl).trans
      (clsIefbSendCyclicResponseFrame_adds _ _ _ _ _ _ _ _ fun _ _ _ => rfl))
  | @disconnected t q hrep _ _ =>
    have hclear (w : ClsScope) : Adds ClsOutput.isConnection w (clsIefbClearMasterInfo w) :=
      performOption_adds rfl (fun _ _ _ _ _ => rfl) now (some .onEntryMasterNone) w
    refine Or.inl ((hrep.adds fun _ _ _ => rfl).trans ((leaveFor_adds rfl t .masterNone).trans ?_))
    refine Adds.trans ?_ ((hclear _).trans (.emit rfl _))
    exact clsIefbSendCyclicResponseFrame_adds _ _ _ _ _ _ _ _ fun _ _ _ => rfl
  | correctMaster _ _ _ =>
    left
    rcases clsIefbHandleCyclicEvent_cases now r s with heq | ⟨area, _, heq⟩
    · rw [heq]
      exact .of_eq rfl
    · rw [heq]
      have h := answerRequest_adds now r (clsTransmissionBit s.cls r) (s.storeCyclicData r area)
        (p := ClsOutput.isConnection) (fun _ _ _ => rfl) (fun _ _ _ _ _ => rfl)
      exact h
  | updatedMaster q _ _ hq hbit => exact Or.inr ⟨q, hq, hbit⟩
  | newMaster q _ hq hbit => exact Or.inr ⟨q, hq, hbit⟩

end

/-! ## the steps of the slave -/

section
variable {p : ClsOutput → Bool} (hdisconnect : p .disconnectCb = false)
  (hreport : ∀ a b c d e, p (.masterRunningCb a b c d e) = false)
  (hstate : ∀ state, state ≠ .masterControl → p (.stateCb state) = false)
include hdisconnect hreport hstate

theorem fsmEvent_adds (now : UInt32) {event : SlaveEvent} (he : event ≠ .cyclicNewMaster)
    (s : ClsScope) : Adds p s (clsIefbFsmEvent now none event s) := by
  refine clsIefbFsmEvent_noRequest_adds hdisconnect hreport now ?_
  rintro next rfl hne
  exact hstate _ (slaveFsmMatrix_control he hne)

/-- what a tick adds beyond the handling of a frame -/
theorem periodic_adds (now : UInt32) (received : Option Received) (s : ClsScope) :
    Adds p (receiveFrame now received s) (clsIefbPeriodic now received s) := by
  have htimer (t : ClsScope) : Adds p t (monitorReceiveTimer now t) := by
    unfold monitorReceiveTimer
    split
    · exact (fsmEvent_adds hdisconnect hreport hstate now (by decide) _)
    · exact .of_eq rfl
  have htimer' (t : ClsScope) : Adds p t (monitorTimerForDisablingSlave now t) := by
    unfold monitorTimerForDisablingSlave
    split
    · exact (fsmEvent_adds hdisconnect hreport hstate now (by decide) _)
    · exact .of_eq rfl
  have h := (htimer (receiveFrame now received s)).trans (htimer' _)
  exact h.trans (.of_eq rfl)

/-- the calls of the application -/
theorem clsHandle_adds {e : ClsEvent} (he : ∀ now v, e ≠ .periodic now (some v)) (s : ClsScope) :
    Adds p s (clsHandle e s) := by
  cases e with
  | periodic now received =>
    cases received with
    | none => exact periodic_adds hdisconnect hreport hstate now none s
    | some v => exact absurd rfl (he now v)
  | disableSlave now isError =>
    have hne : SlaveEvent.disableSlave ≠ .cyclicNewMaster := by decide
    have h := fsmEvent_adds hdisconnect hreport hstate now hne
      { s with cls := { s.cls with endcodeSlaveDisabled :=
        if isError then endcodeSlaveError else endcodeSlaveRequestsDisconnect } }
    exact h
  | reenableSlave now => exact fsmEvent_adds hdisconnect hreport hstate now (by decide) s
  | setRxBit number value =>
    show Adds p s (clsIefbSetRxBit number value s)
    unfold clsIefbSetRxBit
    simp only
    split <;> exact .of_eq rfl
  | setRwrValue number value =>
    show Adds p s (clsIefbSetRwrValue number value s)
    unfold clsIefbSetRwrValue
    simp only
    split <;> exact .of_eq rfl
  | setLocalManagementInfo | setSlaveApplicationStatus | setSlaveErrorCode | writeMemoryArea =>
    exact .of_eq rfl

end

/-! ## the responses of a run -/

/-- the responses that the handling of a received datagram sends -/
def responsesTo (c : Cls) (e : ClsEvent) : List ClsOutput :=
  match e with
  | .periodic now (some v) =>
    (clsIefbHandleInputFrame now v ⟨c, []⟩).1.out.filter ClsOutput.isResponse
  | _ => []

/-- a payload without bytes is no request -/
theorem Received.cyclicRequest_empty {v : Received} (h : ¬ v.dg.len > 0) :
    v.cyclicRequest = none := by
  unfold Received.cyclicRequest clIefbParseRequestHeader
  rw [if_pos (show 15 > v.dg.len by omega)]

theorem receiveFrame_out (now : UInt32) (v : Received) (s : ClsScope) :
    receiveFrame now (some v) s = (clsIefbHandleInputFrame now v s).1 := by
  unfold receiveFrame
  simp only
  split
  · rfl
  · rename_i hlen
    rw [clsIefbHandleInputFrame_eq, Received.cyclicRequest_empty hlen]

theorem clsStep_responses {c : Cls} (h : c.aborted = false) (e : ClsEvent) :
    (clsStep c e).2.filter ClsOutput.isResponse = responsesTo c e := by
  have hout : (clsStep c e).2 = (clsHandle e ⟨c, []⟩).out := by
    unfold clsStep
    rw [if_neg (by rw [h]; decide)]
  rw [hout]
  by_cases he : ∃ now v, e = .periodic now (some v)
  · obtain ⟨now, v, rfl⟩ := he
    have hadds := (periodic_adds (p := ClsOutput.isResponse) rfl (fun _ _ _ _ _ => rfl)
      (fun _ _ => rfl) now (some v) ⟨c, []⟩).filter []
    rw [List.nil_append, List.nil_append, receiveFrame_out] at hadds
    exact hadds
  · have hne : ∀ now v, e ≠ .periodic now (some v) := fun now v heq => he ⟨now, v, heq⟩
    have hadds := (clsHandle_adds (p := ClsOutput.isResponse) rfl (fun _ _ _ _ _ => rfl)
      (fun _ _ => rfl) hne ⟨c, []⟩).filter []
    rw [List.nil_append, List.nil_append] at hadds
    rw [hadds]
    unfold responsesTo
    split
    · exact absurd rfl (hne _ _)
    · rfl

/-- a connection comes from a request with the bit of the slave off -/
theorem clsStep_connects {c : Cls} {e : ClsEvent} {x : ClsOutput} (hx : x ∈ (clsStep c e).2)
    (hconnects : x.isConnection = true) :
    ∃ now v r q, e = .periodic now (some v) ∧ v.cyclicRequest = some r ∧ OwnStation r q
      ∧ r.bit q = false := by
  have hmem : x ∈ (clsHandle e ⟨c, []⟩).out := by
    unfold clsStep at hx
    split at hx
    · cases hx
    · exact hx
  have habsurd {s t : ClsScope} (hs : s.out = []) (hadds : Adds ClsOutput.isConnection s t)
      (ht : x ∈ t.out) : False := by
    obtain ⟨o, ho, hnone⟩ := hadds
    rw [ho, hs, List.nil_append] at ht
    rw [hnone x ht] at hconnects
    cases hconnects
  by_cases he : ∃ now v, e = .periodic now (some v)
  · obtain ⟨now, v, rfl⟩ := he
    have hadds := periodic_adds (p := ClsOutput.isConnection) rfl (fun _ _ _ _ _ => rfl)
      (fun _ => ClsOutput.isConnection_stateCb) now (some v) ⟨c, []⟩
    rw [receiveFrame_out, clsIefbHandleInputFrame_eq] at hadds
    cases hv : v.cyclicRequest with
    | none =>
      rw [hv] at hadds
      exact (habsurd rfl hadds hmem).elim
    | some r =>
      rw [hv] at hadds
      rcases (handleCyclicRequest_handled now (r := r) (s := ⟨c, []⟩)).connects now with h | h
      · exact (habsurd rfl (h.trans hadds) hmem).elim
      · obtain ⟨q, hq, hbit⟩ := h
        exact ⟨now, v, r, q, rfl, hv, hq.own (Received.cyclicRequest_valid hv), hbit⟩
  · have hadds := clsHandle_adds (p := ClsOutput.isConnection) rfl (fun _ _ _ _ _ => rfl)
      (fun _ => ClsOutput.isConnection_stateCb) (fun now v heq => he ⟨now, v, heq⟩) ⟨c, []⟩
    exact (habsurd rfl hadds hmem).elim

/-- what the handling of a datagram sends -/
theorem clsIefbHandleInputFrame_responses {c : Cls} (hf : Frames c) (now : UInt32) (v : Received) :
    let t := (clsIefbHandleInputFrame now v ⟨c, []⟩).1
    t.out.filter ClsOutput.isResponse = []
      ∨ ∃ dg, t.out.filter ClsOutput.isResponse = [.sendResponse v.remoteIp v.remotePort dg]
        ∧ ((RespFullHeaders.ofBuffer dg.byte).cyclicHeader.endCode = endcodeSuccess →
          ∃ r, Answers c t.cls v dg r)
        ∧ ∀ r q, c.state = .masterNone → v.cyclicRequest = some r → OwnStation r q →
          r.bit q = true →
          (RespFullHeaders.ofBuffer dg.byte).cyclicHeader.endCode
              = endcodeWrongNumberOccupiedStations
            ∧ WrongStations c r q := by
  simp only
  rw [clsIefbHandleInputFrame_eq]
  cases hv : v.cyclicRequest with
  | none => exact Or.inl rfl
  | some r =>
    have hr := Received.cyclicRequest_valid hv
    simp only
    rcases (handleCyclicRequest_handled now (r := r) (s := ⟨c, []⟩)).classify now hr hf with
      h | ⟨endCode, hout, hrefusal⟩ | ⟨u, hadds, hfu, hu, hoff, heq⟩
    · have hfilter := h.filter []
      exact Or.inl hfilter
    · have hcode : (RespFullHeaders.ofBuffer (responseToSend c r.frameSequenceNo r.groupNo false
          endCode v.slaveIpAddr).datagram.byte).cyclicHeader.endCode = endCode := by
        rw [responseToSend_headers hf]
        rfl
      refine Or.inr ⟨_, hout, ?_, ?_⟩
      · intro hsuccess
        rw [hcode] at hsuccess
        rcases hrefusal with hrefusal | ⟨_, hwrong⟩
        · exact absurd hsuccess (hrefusal.ne_success hf)
        · rw [hwrong] at hsuccess
          cases hsuccess
      · intro r' q hnone hr' hq hbit
        obtain rfl := Option.some.inj hr'
        rcases hrefusal with hrefusal | ⟨hc, _⟩
        · cases hrefusal with
          | wrongMaster hc _ => exact absurd (hc.symm.trans hnone) SlaveState.noConfusion
          | disabled _ hc _ _ => exact absurd (hc.symm.trans hnone) SlaveState.noConfusion
          | wrongStationcount q' _ hwrong =>
            obtain ⟨count, hcount, hfound⟩ := hwrong
            rw [hfound.unique hr hq]
            exact ⟨hcode, count, hcount, hfound⟩
        · exact absurd (hc.symm.trans hnone) SlaveState.noConfusion
    · have hfilter := hadds.filter []
      rw [List.nil_append, List.nil_append] at hfilter
      rw [heq]
      rcases clsIefbHandleCyclicEvent_answers now hv hfu hu with h | ⟨_, dg, _, _, hout, _, hanswers⟩
      · have hevent := h.filter []
        exact Or.inl (hevent.trans hfilter)
      · refine Or.inr ⟨dg, hout.trans (by rw [hfilter]; rfl), fun _ => ⟨r, hanswers⟩, ?_⟩
        intro r' q hnone hr' hq hbit
        obtain rfl := Option.some.inj hr'
        obtain ⟨q', hfound, hbit'⟩ := hoff hnone
        rw [hfound.unique hr hq, hbit'] at hbit
        cases hbit

namespace SlaveStart
variable {o : Options} (st : SlaveStart o)

/-- **The responses of every run.**  A received datagram is answered at most once, to where it came
from; a response with the end code for success is an answer of a slave that is connected to the
sender; a connection comes from a request with the bit off, and a request with the bit on gets no
response without a master, other than the error frame for a wrong number of stations. -/
theorem successResponses (es : List ClsEvent) :
    let c := (st.run es).1
    (∀ now v, let t := (clsIefbHandleInputFrame now v ⟨c, []⟩).1
      t.out.filter ClsOutput.isResponse = []
        ∨ ∃ dg, t.out.filter ClsOutput.isResponse = [.sendResponse v.remoteIp v.remotePort dg]
          ∧ ((RespFullHeaders.ofBuffer dg.byte).cyclicHeader.endCode = endcodeSuccess →
            ∃ r, Answers c t.cls v dg r)
          ∧ ∀ r q, c.state = .masterNone → v.cyclicRequest = some r → OwnStation r q →
            r.bit q = true →
            (RespFullHeaders.ofBuffer dg.byte).cyclicHeader.endCode
                = endcodeWrongNumberOccupiedStations
              ∧ WrongStations c r q)
      ∧ (∀ e, c.aborted = false → (slave.step c e).2.filter ClsOutput.isResponse = responsesTo c e)
      ∧ ∀ e, ∀ x ∈ (slave.step c e).2, x.isConnection = true →
        ∃ now v r q, e = .periodic now (some v) ∧ v.cyclicRequest = some r ∧ OwnStation r q
          ∧ r.bit q = false := by
  intro c
  refine ⟨?_, ?_, ?_⟩
  · intro now v
    exact clsIefbHandleInputFrame_responses (st.run_frames es) now v
  · intro e h
    exact clsStep_responses h e
  · intro e x hx hconnects
    exact clsStep_connects hx hconnects

end SlaveStart

/-! ## a small network -/

def exampleSlaveStart : SlaveStart exampleOptions :=
  { vc := { cfg := { vendorCode := 0x1234, modelCode := 2, equipmentVer := 3
                     numOccupiedStations := 1, iefbIpAddr := ipaddrAny }
            valid := by decide }
    now := 0 }

/-- a request of the master 192.168.0.1 to the slave 192.168.0.2, for a group of two stations -/
def exampleRequest (masterId : IpAddr) (frameSequenceNo cyclicTransmissionState : UInt16)
    (secondStation : IpAddr) : Received :=
  let frame := clIefbInitialiseRequestFrame 2 100 3 masterId 1 2 5
  let frame := clIefbUpdateRequestFrameHeaders frame frameSequenceNo 0 1 cyclicTransmissionState
  { dg := { frame with
      slaveIds := fun i => if i = 0 then 0xC0A80002 else secondStation }.datagram
    remoteIp := masterId, remotePort := 61450, slaveIpAddr := 0xC0A80002 }

/-- the master takes the slave for a device of two stations, and its bit is on -/
def exampleWrongStations : Received :=
  exampleRequest 0xC0A80001 1 1 multistationIndicator

/-- **Without a master, a request with the bit on is answered when the number of stations is
wrong.** -/
theorem wrongStationcount_answered :
    (exampleSlaveStart.run []).1.state = .masterNone
      ∧ ∃ r, exampleWrongStations.cyclicRequest = some r ∧ OwnStation r 1 ∧ r.bit 1 = true
      ∧ (clsIefbHandleInputFrame 10 exampleWrongStations
          ⟨(exampleSlaveStart.run []).1, []⟩).1.out.filter ClsOutput.isResponse ≠ [] := by
  have hsome : exampleWrongStations.cyclicRequest.isSome = true := by decide +kernel
  obtain ⟨r, hr⟩ := Option.isSome_iff_exists.mp hsome
  have hfacts : exampleWrongStations.cyclicRequest.map (fun r => (r.totalOccupied, r.slaveIds 0,
      r.slaveIpAddr, r.bit 1)) = some (2, 0xC0A80002, 0xC0A80002, true) := by decide +kernel
  rw [hr, Option.map_some, Option.some.injEq, Prod.mk.injEq, Prod.mk.injEq, Prod.mk.injEq] at hfacts
  obtain ⟨htotal, hid, hown, hbit⟩ := hfacts
  refine ⟨by decide +kernel, r, hr, ⟨by decide, ?_, hid.trans hown.symm⟩, hbit, ?_⟩
  · rw [htotal]
    decide
  · intro h
    have hlen : ((clsIefbHandleInputFrame 10 exampleWrongStations
        ⟨(exampleSlaveStart.run []).1, []⟩).1.out.filter ClsOutput.isResponse).length = 1 := by
      decide +kernel
    rw [h] at hlen
    cases hlen

end CLink
