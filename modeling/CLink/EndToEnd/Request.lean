import CLink.EndToEnd.Access
import CLink.Slave.Responses

/-!
# Requests, end to end

A request is built by `cl_iefb_initialise_request_frame`, `clm_iefb_initialise_request_slave_ids`,
`clm_iefb_set_data_ip` for each device and `cl_iefb_update_request_frame_headers`.  The slave of
every device accepts it, finds its stations in it and copies its data from it.

* `setDataIpAll`               the loop over the devices, with any new state for each;
* `Written`                    the slots of a device after it;
* `builtRequest_accepted`      the slave accepts the request;
* `builtRequest_analyzed`      the slave of a device finds its stations, or nothing;
* `builtRequest_copied`        what it copies;
* `ValidConfig.requestEndToEnd`   all together.
-/

namespace CLink
open Loop

/-! ## the slots of the devices -/

/-- `clm_iefb_set_data_ip` for every device of the group -/
def setDataIpAll (gs : GroupSetting) (g : Nat) (newState : Nat → DeviceState) (gd : GroupData) :
    GroupData :=
  loop (fun d gd => (clmIefbSetDataIp gs g d (newState d) gd).1) gs.numSlaveDevices.toNat gd

/-- the slots of device `d` after `clm_iefb_set_data_ip` in `start`, with its new state -/
structure Written (gs : GroupSetting) (start gd : GroupData) (d : Nat) (newState : DeviceState) :
    Prop where
  id : gd.reqFrame.slaveIds (gs.pos d)
    = if newState ≠ .cyclicSuspend then (gs.slaveDevices d).slaveId else ipaddrInvalid
  fillers : ∀ j, 1 ≤ j → j < gs.num d →
    gd.reqFrame.slaveIds (gs.pos d + j) = start.reqFrame.slaveIds (gs.pos d + j)
  rww : ∀ j, j < gs.num d → gd.reqFrame.rww (gs.pos d + j)
    = if sentBit newState (start.slaveDevices d) then start.memoryArea.rww (gs.pos d + j)
      else WordArea.zero
  ry : ∀ j, j < gs.num d → gd.reqFrame.ry (gs.pos d + j)
    = if sentBit newState (start.slaveDevices d) then start.memoryArea.ry (gs.pos d + j)
      else BitArea.zero
  bit : clIefbExtractMyTransmissionState gd.cyclicTransmissionState (UInt16.ofNat (gs.pos d + 1))
    = sentBit newState (start.slaveDevices d)

/-- what has been written stays while other devices are handled -/
theorem Written.same {gs : GroupSetting} {start t t' : GroupData} {d : Nat} {newState : DeviceState}
    (hn : 1 ≤ gs.num d) (h : Written gs start t d newState) (h' : SlotsSame gs t t' d) :
    Written gs start t' d newState :=
  ⟨(h'.ids 0 hn).trans h.id, fun j h1 hj => (h'.ids j hj).trans (h.fillers j h1 hj),
    fun j hj => (h'.rww j hj).trans (h.rww j hj), fun j hj => (h'.ry j hj).trans (h.ry j hj),
    h'.bit.trans h.bit⟩

section
variable {o : Options} {cfg : Config} {gs : GroupSetting} (hv : GroupValid o cfg gs) {g : Nat}
include hv

theorem clmIefbSetDataIp_written {start gd : GroupData} {k : Nat}
    (hk : k < gs.numSlaveDevices.toNat) (hdev : gd.slaveDevices k = start.slaveDevices k)
    (hstation : (start.slaveDevices k).slaveStationNo = UInt16.ofNat (gs.pos k + 1))
    (harea : gd.memoryArea = start.memoryArea) (hsame : SlotsSame gs start gd k)
    (newState : DeviceState) :
    Written gs start (clmIefbSetDataIp gs g k newState gd).1 k newState := by
  have hnat := hv.stationNo_toNat hk
  have hle := hv.total_le
  have hkle := gs.pos_add_le hk
  have hkpos := hv.num_pos hk
  have hst : (gd.slaveDevices k).slaveStationNo = UInt16.ofNat (gs.pos k + 1) := by
    rw [hdev, hstation]
  refine ⟨?_, ?_, ?_, ?_, ?_⟩
  · rw [clmIefbSetDataIp_slaveIds hv hk hst, Function.update_self]
  · intro j h1 hj
    rw [clmIefbSetDataIp_slaveIds hv hk hst, Function.update_of_ne (by omega)]
    exact hsame.ids j hj
  · intro j hj
    rw [clmIefbSetDataIp_rww hv hk hst, blit_in hj, harea, hdev]
  · intro j hj
    rw [clmIefbSetDataIp_ry hv hk hst, blit_in hj, harea, hdev]
  · rw [clmIefbSetDataIp_cyclicTransmissionState hv hk hst, hdev,
      clIefbExtractMyTransmissionState_set _ (by omega) (by omega), if_pos rfl]

/-- the fields of the group that stay -/
theorem clmIefbSetDataIp_rest {gd : GroupData} {k : Nat} (hk : k < gs.numSlaveDevices.toNat)
    (hstation : (gd.slaveDevices k).slaveStationNo = UInt16.ofNat (gs.pos k + 1))
    (newState : DeviceState) :
    ScanStartRest gd (clmIefbSetDataIp gs g k newState gd).1
      ∧ ∀ d, d ≠ k →
        (clmIefbSetDataIp gs g k newState gd).1.slaveDevices d = gd.slaveDevices d := by
  rw [clmIefbSetDataIp_eq hv hk hstation]
  refine ⟨⟨rfl, rfl, rfl, rfl, rfl, rfl, rfl, rfl, rfl⟩, ?_⟩
  intro d hd
  exact Function.update_of_ne hd ..

/-- **The loop over the devices.** -/
theorem setDataIpAll_written {start : GroupData}
    (hstation : ∀ d, d < gs.numSlaveDevices.toNat →
      (start.slaveDevices d).slaveStationNo = UInt16.ofNat (gs.pos d + 1))
    (newState : Nat → DeviceState) :
    ScanStartRest start (setDataIpAll gs g newState start)
      ∧ ∀ d, d < gs.numSlaveDevices.toNat →
        Written gs start (setDataIpAll gs g newState start) d (newState d) := by
  -- after `k` rounds the devices before `k` are written and the others untouched
  have h := loop_inv (n := gs.numSlaveDevices.toNat)
    (f := fun d gd => (clmIefbSetDataIp gs g d (newState d) gd).1) (s := start)
    (fun k gd => ScanStartRest start gd
      ∧ (∀ d, d < k → Written gs start gd d (newState d))
      ∧ ∀ d, k ≤ d → d < gs.numSlaveDevices.toNat →
        gd.slaveDevices d = start.slaveDevices d ∧ SlotsSame gs start gd d) ?_ ?_
  · exact ⟨h.1, h.2.1⟩
  · exact ⟨.refl start, fun d hd => absurd hd (Nat.not_lt_zero d),
      fun d _ _ => ⟨rfl, .refl gs start d⟩⟩
  · rintro k gd hk ⟨hrest, hdone, hsame⟩
    obtain ⟨hdev, hslots⟩ := hsame k (Nat.le_refl k) hk
    have hst : (gd.slaveDevices k).slaveStationNo = UInt16.ofNat (gs.pos k + 1) := by
      rw [hdev, hstation k hk]
    obtain ⟨hrest', hothers⟩ := clmIefbSetDataIp_rest hv (g := g) hk hst (newState k)
    have hother {d : Nat} (hd : d < gs.numSlaveDevices.toNat) (hne : d ≠ k) :=
      clmIefbSetDataIp_other hv (g := g) hk hst hd hne (newState k)
    refine ⟨hrest.trans hrest', ?_, ?_⟩
    · intro d hd
      rcases Nat.lt_succ_iff_lt_or_eq.mp hd with hlt | rfl
      · have hdn : d < gs.numSlaveDevices.toNat := lt_trans hlt hk
        exact (hdone d hlt).same (hv.num_pos hdn) (hother hdn (Nat.ne_of_lt hlt))
      · exact clmIefbSetDataIp_written hv hk hdev (hstation d hk) hrest.area hslots (newState d)
    · intro d hd hdn
      have hne : d ≠ k := by omega
      obtain ⟨hdev', hslots'⟩ := hsame d (by omega) hdn
      exact ⟨(hothers d hne).trans hdev', hslots'.trans (hother hdn hne)⟩

end

/-! ## the request -/

/-- the frame of a group before its devices are handled -/
def initialRequest (cfg : Config) (parameterNo : UInt16) (g : Nat) : RequestFrame :=
  let gs := cfg.hier.groups g
  let frame := clIefbInitialiseRequestFrame cfg.protocolVer gs.timeoutValue
    gs.parallelOffTimeoutCount cfg.masterId (UInt16.ofNat g + 1) (clmIefbCalcOccupiedPerGroup gs)
    parameterNo
  { frame with slaveIds := clmIefbInitialiseRequestSlaveIds gs frame.slaveIds }

/-- what a link scan puts into the request: the new state of every device, the sequence number, the
clock and the status of the master -/
structure ScanInput where
  newState : Nat → DeviceState
  frameSequenceNo : UInt16
  clockInfo : UInt64
  running : Bool
  stoppedByUser : Bool

/-- the group after the devices are handled -/
def builtGroup (cfg : Config) (parameterNo : UInt16) (g : Nat) (start : GroupData)
    (scan : ScanInput) : GroupData :=
  setDataIpAll (cfg.hier.groups g) g scan.newState
    { start with reqFrame := initialRequest cfg parameterNo g }

def builtRequest (cfg : Config) (parameterNo : UInt16) (g : Nat) (start : GroupData)
    (scan : ScanInput) : RequestFrame :=
  clIefbUpdateRequestFrameHeaders (builtGroup cfg parameterNo g start scan).reqFrame
    scan.frameSequenceNo scan.clockInfo
    (clmIefbCalcMasterLocalUnitInfo cfg.protocolVer scan.running scan.stoppedByUser)
    (builtGroup cfg parameterNo g start scan).cyclicTransmissionState

/-- the request as the slave parses it -/
def RequestFrame.parsed (f : RequestFrame) (remoteIp : IpAddr) (remotePort : UInt16)
    (localIp : IpAddr) : CyclicRequest :=
  { remoteIp := remoteIp, remotePort := remotePort, slaveIpAddr := localIp
    fullHeaders := f.fullHeaders, buffer := f.datagram.byte, firstSlaveId := f.firstSlaveId
    firstRww := f.firstRww, firstRy := f.firstRy }

section
variable {o : Options} (vc : ValidConfig o) (parameterNo : UInt16) {g : Nat} (hg : g < vc.numGroups)
  {start : GroupData} (hstation : ∀ d, d < (vc.setting g).numSlaveDevices.toNat →
    (start.slaveDevices d).slaveStationNo = UInt16.ofNat ((vc.setting g).pos d + 1))
  (scan : ScanInput)
include hg hstation

theorem builtGroup_written :
    ScanStartRest { start with reqFrame := initialRequest vc.cfg parameterNo g }
        (builtGroup vc.cfg parameterNo g start scan)
      ∧ ∀ d, d < (vc.setting g).numSlaveDevices.toNat →
        Written (vc.setting g) { start with reqFrame := initialRequest vc.cfg parameterNo g }
          (builtGroup vc.cfg parameterNo g start scan) d (scan.newState d) := by
  have h : ∀ d, d < (vc.setting g).numSlaveDevices.toNat →
      (({ start with reqFrame := initialRequest vc.cfg parameterNo g } : GroupData).slaveDevices
        d).slaveStationNo = UInt16.ofNat ((vc.setting g).pos d + 1) := hstation
  exact setDataIpAll_written (vc.group hg) h scan.newState

theorem builtRequest_layout :
    (builtRequest vc.cfg parameterNo g start scan).Layout
      ((vc.setting g).pos (vc.setting g).numSlaveDevices.toNat) := by
  have hrest := (builtGroup_written vc parameterNo hg hstation scan).1
  have hlayout := layout_initialise vc.cfg.protocolVer (vc.setting g).timeoutValue
    (vc.setting g).parallelOffTimeoutCount vc.cfg.masterId (UInt16.ofNat g + 1)
    (clmIefbCalcOccupiedPerGroup (vc.setting g)) parameterNo
  rw [clmIefbCalcOccupiedPerGroup_eq, (vc.group hg).total_toNat,
    ← clmIefbCalcOccupiedPerGroup_eq] at hlayout
  exact ⟨hrest.len.trans hlayout.len, hrest.firstSlaveId.trans hlayout.firstSlaveId,
    hrest.firstRww.trans hlayout.firstRww, hrest.firstRy.trans hlayout.firstRy⟩

theorem builtRequest_fullHeaders :
    (builtRequest vc.cfg parameterNo g start scan).fullHeaders
      = (clIefbUpdateRequestFrameHeaders (initialRequest vc.cfg parameterNo g) scan.frameSequenceNo
          scan.clockInfo
          (clmIefbCalcMasterLocalUnitInfo vc.cfg.protocolVer scan.running scan.stoppedByUser)
          (builtGroup vc.cfg parameterNo g start scan).cyclicTransmissionState).fullHeaders := by
  have hheaders := (builtGroup_written vc parameterNo hg hstation scan).1.headers
  simp only [builtRequest, clIefbUpdateRequestFrameHeaders, hheaders]

end

/-- the status of the master passes the mask of its protocol version -/
theorem clmIefbCalcMasterLocalUnitInfo_valid {protocolVer : UInt16}
    (hver : protocolVer = 1 ∨ protocolVer = 2) (running stoppedByUser : Bool)
    (clockInfo : UInt64) :
    clIefbValidateMasterStationNotification
      { masterLocalUnitInfo := clmIefbCalcMasterLocalUnitInfo protocolVer running stoppedByUser
        reserved := masterStationNotificationReserved, clockInfo := clockInfo } protocolVer
      = true := by
  unfold clIefbValidateMasterStationNotification
  rcases hver with rfl | rfl
  · have hmask : clmIefbCalcMasterLocalUnitInfo 1 running stoppedByUser
        &&& masterStationNotificationMaskBitsVer1 = 0 := by
      cases running <;> cases stoppedByUser <;> decide
    exact decide_eq_true ⟨hmask, rfl⟩
  · have hmask : clmIefbCalcMasterLocalUnitInfo 2 running stoppedByUser
        &&& masterStationNotificationMaskBitsVer2 = 0 := by
      cases running <;> cases stoppedByUser <;> decide
    exact decide_eq_true ⟨hmask, rfl⟩

section
variable {o : Options} (vc : ValidConfig o) (parameterNo : UInt16) {g : Nat} (hg : g < vc.numGroups)
  {start : GroupData} (hstation : ∀ d, d < (vc.setting g).numSlaveDevices.toNat →
    (start.slaveDevices d).slaveStationNo = UInt16.ofNat ((vc.setting g).pos d + 1))
  (scan : ScanInput)
include hg hstation

/-- **The slave accepts the request.** -/
theorem builtRequest_accepted (remotePort : UInt16) (localIp : IpAddr) :
    let frame := builtRequest vc.cfg parameterNo g start scan
    (∃ header, clIefbParseRequestHeader frame.datagram = some header
      ∧ clIefbValidateRequestHeader header frame.datagram.len = true
      ∧ header.command = slmpCommandCciefbCyclic
      ∧ header.subCommand = slmpSubcommandCciefbCyclic)
    ∧ clIefbParseCyclicRequest frame.datagram vc.cfg.masterId remotePort localIp
      = .ok (frame.parsed vc.cfg.masterId remotePort localIp) := by
  intro frame
  have hv := vc.group hg
  have hlayout : frame.Layout ((vc.setting g).pos (vc.setting g).numSlaveDevices.toNat) :=
    builtRequest_layout vc parameterNo hg hstation scan
  have hbuffer := RequestFrame.fullHeaders_datagram hlayout
  have hheaders : frame.fullHeaders = _ := builtRequest_fullHeaders vc parameterNo hg hstation scan
  have htotal := hv.total_le
  have hpos := hv.total_pos
  have hlen : frame.datagram.len
      = 67 + 76 * (vc.setting g).pos (vc.setting g).numSlaveDevices.toNat := hlayout.len
  have hstations : (clmIefbCalcOccupiedPerGroup (vc.setting g)).toNat
      = (vc.setting g).pos (vc.setting g).numSlaveDevices.toNat := by
    rw [clmIefbCalcOccupiedPerGroup_eq, hv.total_toNat]
  have hsize : clCalculateCyclicRequestSize (clmIefbCalcOccupiedPerGroup (vc.setting g))
      = frame.datagram.len := by
    rw [hlen, ← hstations]
    unfold clCalculateCyclicRequestSize
    omega
  have hdl : (UInt16.ofNat (clCalculateCyclicRequestSize (clmIefbCalcOccupiedPerGroup
      (vc.setting g)) - reqHeaderDlOffset)).toNat + reqHeaderDlOffset = frame.datagram.len := by
    have hoffset : reqHeaderDlOffset = 9 := rfl
    rw [hsize, UInt16.toNat_ofNat', hlen]
    omega
  have hver : vc.cfg.protocolVer = 1 ∨ vc.cfg.protocolVer = 2 := by
    have hrange := vc.protocolVer_range
    rw [← UInt16.toNat_inj, ← UInt16.toNat_inj]
    show _ = 1 ∨ _ = 2
    omega
  have hgroup : groupNoInRange (UInt16.ofNat g + 1).toUInt8 = true := by
    have hle := vc.numGroups_le
    rw [groupNoInRange_iff, UInt16.toNat_toUInt8, UInt16.toNat_add, UInt16.toNat_ofNat']
    show 1 ≤ (g % 2^16 + 1) % 2^16 % 2^8 ∧ (g % 2^16 + 1) % 2^16 % 2^8 ≤ 64
    omega
  constructor
  · refine ⟨frame.fullHeaders.reqHeader, ?_, ?_, ?_, ?_⟩
    · unfold clIefbParseRequestHeader
      rw [if_neg (by omega)]
      exact congrArg (fun h => some h.reqHeader) hbuffer
    · rw [hheaders]
      simp only [clIefbValidateRequestHeader, decide_eq_true_eq]
      exact ⟨hdl, rfl, rfl, rfl, rfl, rfl, rfl⟩
    · rw [hheaders]
      rfl
    · rw [hheaders]
      rfl
  · have hparse : clIefbParseReqFullCyclicHeaders frame.datagram = some frame.fullHeaders := by
      unfold clIefbParseReqFullCyclicHeaders
      rw [if_neg (by omega), hbuffer]
    have hvalid : clIefbValidateReqFullCyclicHeaders frame.fullHeaders frame.datagram.len
        vc.cfg.masterId = true := by
      rw [hheaders]
      simp only [clIefbValidateReqFullCyclicHeaders, clIefbValidateCyclicRequestHeader,
        clIefbValidateReqCyclicDataHeader, clIefbValidateReqCyclicFrameSize, decide_eq_true_eq]
      have hsupported := (protocolVerSupported_iff _).mpr hver
      refine ⟨⟨hsupported, rfl, rfl, fun _ => rfl⟩,
        clmIefbCalcMasterLocalUnitInfo_valid hver scan.running scan.stoppedByUser scan.clockInfo,
        ⟨hgroup, ?_, rfl, rfl, ?_⟩, hsupported, hdl.symm, hsize.symm, rfl⟩
      · have hrange : occupiedStationsInRange (clmIefbCalcOccupiedPerGroup (vc.setting g))
            = true :=
          (occupiedStationsInRange_iff _).mpr (by rw [hstations]; omega)
        exact hrange
      · exact fun h => h.elim vc.masterId_ne (fun h => h rfl)
    have hcount : frame.fullHeaders.cyclicDataHeader.slaveTotalOccupiedStationCount.toNat
        = (vc.setting g).pos (vc.setting g).numSlaveDevices.toNat := by
      rw [hheaders]
      exact hstations
    rw [clIefbParseCyclicRequest_ok hparse hvalid, hcount]
    unfold RequestFrame.parsed
    rw [hlayout.firstSlaveId, hlayout.firstRww, hlayout.firstRy]
    congr 2 <;> omega

/-- the slots of a device in the request -/
theorem builtRequest_slot {e j : Nat} (he : e < (vc.setting g).numSlaveDevices.toNat)
    (hj : j < (vc.setting g).num e) :
    (builtRequest vc.cfg parameterNo g start scan).slaveIds ((vc.setting g).pos e + j)
      = if j = 0 then
          if scan.newState e ≠ .cyclicSuspend then ((vc.setting g).slaveDevices e).slaveId
          else ipaddrInvalid
        else multistationIndicator := by
  have hw := (builtGroup_written vc parameterNo hg hstation scan).2 e he
  have hframe : (builtRequest vc.cfg parameterNo g start scan).slaveIds
      = (builtGroup vc.cfg parameterNo g start scan).reqFrame.slaveIds := rfl
  rw [hframe]
  by_cases h0 : j = 0
  · subst h0
    rw [Nat.add_zero, if_pos rfl]
    exact hw.id
  · rw [if_neg h0, hw.fillers j (by omega) hj]
    have hinitial := clmIefbInitialiseRequestSlaveIds_eq (vc.setting g)
      (clIefbInitialiseRequestFrame vc.cfg.protocolVer (vc.setting g).timeoutValue
        (vc.setting g).parallelOffTimeoutCount vc.cfg.masterId (UInt16.ofNat g + 1)
        (clmIefbCalcOccupiedPerGroup (vc.setting g)) parameterNo).slaveIds he hj
    rw [if_neg h0] at hinitial
    exact hinitial

/-- no other slot carries the address of a device -/
theorem builtRequest_others {d : Nat} (hd : d < (vc.setting g).numSlaveDevices.toNat) {i : Nat}
    (hi : i < (vc.setting g).pos (vc.setting g).numSlaveDevices.toNat)
    (hne : i ≠ (vc.setting g).pos d) :
    (builtRequest vc.cfg parameterNo g start scan).slaveIds i
      ≠ ((vc.setting g).slaveDevices d).slaveId := by
  have hdevice := (vc.group hg).device d hd
  obtain ⟨e, j, he, hj, rfl⟩ := (vc.setting g).exists_station hi
  rw [builtRequest_slot vc parameterNo hg hstation scan he hj]
  by_cases h0 : j = 0
  · subst h0
    have hed : e ≠ d := fun h => hne (by rw [h, Nat.add_zero])
    rw [if_pos rfl]
    by_cases hsuspend : scan.newState e ≠ .cyclicSuspend
    · rw [if_pos hsuspend]
      exact fun h => hed (vc.slaveId_inj hg he hg hd h).2
    · rw [if_neg hsuspend]
      exact hdevice.nonzero.symm
  · rw [if_neg h0]
    exact hdevice.ne_multistationIndicator.symm

/-- the slots of a device whose address is in the request -/
theorem builtRequest_slaveRun {d : Nat} (hd : d < (vc.setting g).numSlaveDevices.toNat)
    (hactive : scan.newState d ≠ .cyclicSuspend) :
    SlaveRun (builtRequest vc.cfg parameterNo g start scan).slaveIds
      ((vc.setting g).slaveDevices d).slaveId
      ((vc.setting g).pos (vc.setting g).numSlaveDevices.toNat) ((vc.setting g).pos d)
      ((vc.setting g).num d) := by
  have hv := vc.group hg
  have hpos := hv.num_pos hd
  refine ⟨hpos, (vc.setting g).pos_add_le hd, ?_, ?_, ?_, ?_⟩
  · have h := builtRequest_slot vc parameterNo hg hstation scan hd hpos
    rw [if_pos rfl, if_pos hactive] at h
    exact h
  · intro i hlt hle
    obtain ⟨j, rfl⟩ := Nat.exists_eq_add_of_lt hlt
    rw [Nat.add_assoc, builtRequest_slot vc parameterNo hg hstation scan hd (by omega),
      if_neg (by omega)]
  · -- the station after the device is the first one of the next device
    intro hlt
    rw [← GroupSetting.pos_succ] at hlt ⊢
    have hnext : d + 1 < (vc.setting g).numSlaveDevices.toNat := by
      by_contra hge
      have heq : d + 1 = (vc.setting g).numSlaveDevices.toNat := by omega
      rw [heq] at hlt
      exact absurd hlt (Nat.lt_irrefl _)
    have h := builtRequest_slot vc parameterNo hg hstation scan hnext (hv.num_pos hnext)
    rw [if_pos rfl, Nat.add_zero] at h
    rw [h]
    by_cases hsuspend : scan.newState (d + 1) ≠ .cyclicSuspend
    · rw [if_pos hsuspend]
      exact (hv.device (d + 1) hnext).ne_multistationIndicator
    · rw [if_neg hsuspend]
      decide
  · intro i hi hne
    exact builtRequest_others vc parameterNo hg hstation scan hd hi hne

/-- what the slave reads out of the request -/
structure Parsed (gs : GroupSetting) (frame : RequestFrame) (request : CyclicRequest) : Prop where
  total : request.totalOccupied.toNat = gs.pos gs.numSlaveDevices.toNat
  slaveIds : ∀ i, i < gs.pos gs.numSlaveDevices.toNat → request.slaveIds i = frame.slaveIds i
  rww : ∀ i, i < gs.pos gs.numSlaveDevices.toNat → request.rww i = frame.rww i
  ry : ∀ i, i < gs.pos gs.numSlaveDevices.toNat → request.ry i = frame.ry i

theorem builtRequest_parsed (remotePort : UInt16) (localIp : IpAddr) :
    Parsed (vc.setting g) (builtRequest vc.cfg parameterNo g start scan)
      ((builtRequest vc.cfg parameterNo g start scan).parsed vc.cfg.masterId remotePort
        localIp) := by
  have hlayout := builtRequest_layout vc parameterNo hg hstation scan
  have hheaders := builtRequest_fullHeaders vc parameterNo hg hstation scan
  have hfirstSlaveId := hlayout.firstSlaveId
  have hfirstRww := hlayout.firstRww
  have hfirstRy := hlayout.firstRy
  refine ⟨?_, ?_, ?_, ?_⟩
  · have hcount : (builtRequest vc.cfg parameterNo g start
        scan).fullHeaders.cyclicDataHeader.slaveTotalOccupiedStationCount
        = clmIefbCalcOccupiedPerGroup (vc.setting g) := by
      rw [hheaders]
      rfl
    exact (congrArg UInt16.toNat hcount).trans
      (by rw [clmIefbCalcOccupiedPerGroup_eq, (vc.group hg).total_toNat])
  · intro i hi
    show slaveIdsAt _ (builtRequest vc.cfg parameterNo g start scan).firstSlaveId i = _
    rw [hfirstSlaveId]
    exact RequestFrame.slaveIds_datagram hlayout hi
  · intro i hi
    show wordAreasAt _ (builtRequest vc.cfg parameterNo g start scan).firstRww i = _
    rw [hfirstRww]
    exact RequestFrame.rww_datagram hlayout hi
  · intro i hi
    show bitAreasAt _ (builtRequest vc.cfg parameterNo g start scan).firstRy i = _
    rw [hfirstRy]
    exact RequestFrame.ry_datagram hlayout hi

/-- **The slave of a device finds its stations**, or nothing when its slot holds 0.0.0.0. -/
theorem builtRequest_analyzed (remotePort : UInt16) (localIp : IpAddr) {d : Nat}
    (hd : d < (vc.setting g).numSlaveDevices.toNat) :
    let request := (builtRequest vc.cfg parameterNo g start scan).parsed vc.cfg.masterId remotePort
      localIp
    clIefbAnalyzeSlaveIds ((vc.setting g).slaveDevices d).slaveId request.totalOccupied
        request.slaveIds
      = some (if scan.newState d ≠ .cyclicSuspend then
          ⟨true, (start.slaveDevices d).slaveStationNo,
            ((vc.setting g).slaveDevices d).numOccupiedStations⟩
        else .none) := by
  intro request
  have hv := vc.group hg
  have hparsed : Parsed (vc.setting g) (builtRequest vc.cfg parameterNo g start scan) request :=
    builtRequest_parsed vc parameterNo hg hstation scan remotePort localIp
  have htotal := hparsed.total
  have hmy := (hv.device d hd).nonzero
  have hrange : 1 ≤ request.totalOccupied.toNat ∧ request.totalOccupied.toNat ≤ 16 := by
    rw [htotal]
    exact ⟨hv.total_pos, hv.total_le⟩
  by_cases hactive : scan.newState d ≠ .cyclicSuspend
  · have hrun := (builtRequest_slaveRun vc parameterNo hg hstation scan hd hactive).congr
      hparsed.slaveIds
    rw [← htotal] at hrun
    rw [if_pos hactive, clIefbAnalyzeSlaveIds_found hmy hrange hrun, hstation d hd]
    simp only [GroupSetting.num, UInt16.ofNat_toNat]
  · rw [if_neg hactive]
    refine clIefbAnalyzeSlaveIds_notFound hmy hrange ?_
    intro i hi
    rw [htotal] at hi
    rw [hparsed.slaveIds i hi]
    by_cases hown : i = (vc.setting g).pos d
    · have hslot := builtRequest_slot vc parameterNo hg hstation scan hd (hv.num_pos hd)
      rw [if_pos rfl, if_neg hactive, Nat.add_zero] at hslot
      rw [hown, hslot]
      exact hmy.symm
    · exact builtRequest_others vc parameterNo hg hstation scan hd hi hown

/-- the transmission bit of a device in the request -/
theorem builtRequest_bit (remotePort : UInt16) (localIp : IpAddr) {d : Nat}
    (hd : d < (vc.setting g).numSlaveDevices.toNat) :
    clIefbExtractMyTransmissionState
        ((builtRequest vc.cfg parameterNo g start scan).parsed vc.cfg.masterId remotePort
          localIp).transmissionStates (start.slaveDevices d).slaveStationNo
      = sentBit (scan.newState d) (start.slaveDevices d) := by
  have hw := (builtGroup_written vc parameterNo hg hstation scan).2 d hd
  have hstates : ((builtRequest vc.cfg parameterNo g start scan).parsed vc.cfg.masterId remotePort
      localIp).transmissionStates
      = (builtGroup vc.cfg parameterNo g start scan).cyclicTransmissionState := rfl
  rw [hstates, hstation d hd]
  exact hw.bit

/-- **What the slave of a device copies.** -/
theorem builtRequest_copied (remotePort : UInt16) (localIp : IpAddr) {d : Nat}
    (hd : d < (vc.setting g).numSlaveDevices.toNat) {c : Cls}
    (hc : c.config.numOccupiedStations = ((vc.setting g).slaveDevices d).numOccupiedStations) :
    let bit := sentBit (scan.newState d) (start.slaveDevices d)
    ∃ area, clsIefbCopyCyclicDataFromRequest c
        ((builtRequest vc.cfg parameterNo g start scan).parsed vc.cfg.masterId remotePort localIp)
        (start.slaveDevices d).slaveStationNo bit = some area
      ∧ ∀ k, k < c.config.numOccupiedStations.toNat →
        area.ry k = (if bit then start.memoryArea.ry ((vc.setting g).pos d + k) else .zero)
          ∧ area.rww k = if bit then start.memoryArea.rww ((vc.setting g).pos d + k)
            else .zero := by
  intro bit
  have hv := vc.group hg
  have hparsed := builtRequest_parsed vc parameterNo hg hstation scan remotePort localIp
  have hw := (builtGroup_written vc parameterNo hg hstation scan).2 d hd
  have hnumPos := hv.num_pos hd
  have hend := (vc.setting g).pos_add_le hd
  have htotalLe := hv.total_le
  have hnat := hv.stationNo_toNat hd
  have hnum : c.config.numOccupiedStations.toNat = (vc.setting g).num d := by
    rw [hc]
    rfl
  obtain ⟨area, harea⟩ := clsIefbCopyCyclicDataFromRequest_exists (c := c)
    (q := (start.slaveDevices d).slaveStationNo) bit (by rw [hstation d hd, hnat]; omega)
    (by rw [hnum]; exact hnumPos) (by rw [hparsed.total]; exact htotalLe)
    (by rw [hparsed.total, hstation d hd, hnat, hnum]; omega)
  obtain ⟨_, hdata⟩ := clsIefbCopyCyclicDataFromRequest_some
    ⟨by rw [hnum]; exact hnumPos, by rw [hnum]; omega⟩ harea
  refine ⟨area, harea, ?_⟩
  intro k hk
  have hindex : (start.slaveDevices d).slaveStationNo.toNat - 1 + k = (vc.setting g).pos d + k := by
    rw [hstation d hd, hnat]
    omega
  obtain ⟨hry, hrww⟩ := hdata k hk
  rw [hindex, hparsed.ry _ (by omega)] at hry
  rw [hindex, hparsed.rww _ (by omega)] at hrww
  have hryWritten := hw.ry k (by omega)
  have hrwwWritten := hw.rww k (by omega)
  rw [hry, hrww]
  -- without the bit the slave clears its data whatever the request holds
  by_cases hb : bit = true
  · rw [if_pos hb, if_pos hb, if_pos hb, if_pos hb]
    exact ⟨hryWritten.trans (if_pos hb), hrwwWritten.trans (if_pos hb)⟩
  · rw [if_neg hb, if_neg hb, if_neg hb, if_neg hb]
    exact ⟨rfl, rfl⟩

end

/-- **A request, from the master to every slave of the group.**  The master has the configuration
and the station numbers of `clm_iefb_calc_slave_station_no`; its memory area, the transmission
word and everything else of its group are arbitrary. -/
theorem ValidConfig.requestEndToEnd {o : Options} (vc : ValidConfig o) (parameterNo : UInt16)
    {g : Nat} (hg : g < vc.numGroups) {m : Clm} (hconfig : m.shared.config = vc.cfg)
    (hstation : ∀ d, d < (vc.setting g).numSlaveDevices.toNat →
      clmIefbCalcSlaveStationNo (vc.setting g) d
        = some ((m.groups g).slaveDevices d).slaveStationNo)
    (scan : ScanInput) (remotePort : UInt16) (localIp : IpAddr) :
    let frame := builtRequest vc.cfg parameterNo g (m.groups g) scan
    let request := frame.parsed vc.cfg.masterId remotePort localIp
    ((∃ header, clIefbParseRequestHeader frame.datagram = some header
        ∧ clIefbValidateRequestHeader header frame.datagram.len = true
        ∧ header.command = slmpCommandCciefbCyclic
        ∧ header.subCommand = slmpSubcommandCciefbCyclic)
      ∧ clIefbParseCyclicRequest frame.datagram vc.cfg.masterId remotePort localIp = .ok request)
    ∧ ∀ d, d < (vc.setting g).numSlaveDevices.toNat →
      let setting := (vc.setting g).slaveDevices d
      let stationNo := ((m.groups g).slaveDevices d).slaveStationNo
      let n := setting.numOccupiedStations
      let bit := clIefbExtractMyTransmissionState request.transmissionStates stationNo
      clIefbAnalyzeSlaveIds setting.slaveId request.totalOccupied request.slaveIds
        = some (if scan.newState d ≠ .cyclicSuspend then ⟨true, stationNo, n⟩ else .none)
      ∧ bit = sentBit (scan.newState d) ((m.groups g).slaveDevices d)
      ∧ ∀ c : Cls, c.config.numOccupiedStations = n →
        ∃ area, clsIefbCopyCyclicDataFromRequest c request stationNo bit = some area
          ∧ ∀ k : UInt16,
            (k.toNat < 64 * n.toNat → ∃ b, clmIefbGetRyBit m g d k = some b
              ∧ clsIefbGetRyBit { c with cyclicDataArea := area } k
                = some (if bit then b else false))
            ∧ (k.toNat < 32 * n.toNat → ∃ w, clmIefbGetRwwValue m g d k = some w
              ∧ clsIefbGetRwwValue { c with cyclicDataArea := area } k
                = some (if bit then w else 0)) := by
  have hstart : ∀ d, d < (vc.setting g).numSlaveDevices.toNat →
      ((m.groups g).slaveDevices d).slaveStationNo = UInt16.ofNat ((vc.setting g).pos d + 1) := by
    intro d hd
    have h := hstation d hd
    rw [clmIefbCalcSlaveStationNo_eq _ hd] at h
    exact (Option.some.inj h).symm
  refine ⟨builtRequest_accepted vc parameterNo hg hstart scan remotePort localIp, ?_⟩
  intro d hd setting stationNo n bit
  have hbit : bit = sentBit (scan.newState d) ((m.groups g).slaveDevices d) :=
    builtRequest_bit vc parameterNo hg hstart scan remotePort localIp hd
  refine ⟨builtRequest_analyzed vc parameterNo hg hstart scan remotePort localIp hd, hbit, ?_⟩
  intro c hc
  obtain ⟨area, harea, hdata⟩ :=
    builtRequest_copied vc parameterNo hg hstart scan remotePort localIp hd hc
  rw [← hbit] at harea hdata
  have hv := vc.group hg
  have hend := (vc.setting g).pos_add_le hd
  have htotal := hv.total_le
  have hnumPos := hv.num_pos hd
  have hpos : (vc.setting g).pos d < 16 := by omega
  have hplaced : Placed vc.cfg m g d := ⟨hconfig, hg, hd, hnumPos, hpos, hstart d hd⟩
  refine ⟨area, harea, ?_⟩
  intro k
  rw [hc] at hdata
  constructor
  · intro hk
    refine ⟨_, clmIefbGetRyBit_eq hplaced hk, ?_⟩
    unfold clsIefbGetRyBit
    rw [hc, areaBitBelow_eq hk, areaBit_congr (fun j hj => (hdata j hj).1) hk]
    cases bit with
    | true => rfl
    | false => exact congrArg some (areaBit_zero k)
  · intro hk
    refine ⟨_, clmIefbGetRwwValue_eq hplaced hk, ?_⟩
    unfold clsIefbGetRwwValue
    rw [hc, areaWordBelow_eq hk, areaWord_congr (fun j hj => (hdata j hj).2) hk]
    cases bit with
    | true => rfl
    | false => exact congrArg some (areaWord_zero k)

/-- a request of the small network whose device sends -/
theorem exampleRequest_delivered :
    let m := ((exampleStart false false).run []).1
    let frame := builtRequest (exampleConfig false false) 0 0 (m.groups 0)
      ⟨fun _ => .cyclicSending, 0, 0, true, false⟩
    ∃ request, clIefbParseCyclicRequest frame.datagram 0xC0A80001 61450 0 = .ok request
      ∧ clIefbAnalyzeSlaveIds 0xC0A80002 request.totalOccupied request.slaveIds
        = some ⟨true, 1, 1⟩ := by
  intro m frame
  have hg : 0 < (exampleStart false false).vc.numGroups := by decide
  have hstations : ∀ d, d < ((exampleStart false false).vc.setting 0).numSlaveDevices.toNat →
      clmIefbCalcSlaveStationNo ((exampleStart false false).vc.setting 0) d
        = some ((m.groups 0).slaveDevices d).slaveStationNo := by
    intro d hd
    rw [clmIefbCalcSlaveStationNo_eq _ hd, ((exampleStart false false).run_placed [] hg hd).station]
  obtain ⟨⟨_, hparse⟩, hdevices⟩ := (exampleStart false false).vc.requestEndToEnd 0 hg
    ((exampleStart false false).run_config []).1 hstations
    ⟨fun _ => .cyclicSending, 0, 0, true, false⟩ 61450 0
  obtain ⟨hanalyzed, _⟩ := hdevices 0 (by decide)
  have hstation := ((exampleStart false false).run_placed [] hg (d := 0) (by decide)).station
  refine ⟨_, hparse, hanalyzed.trans ?_⟩
  rw [if_pos (by decide), hstation]
  rfl

end CLink
