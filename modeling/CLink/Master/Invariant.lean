import CLink.Master.ScanStart
import CLink.Master.StepMoves

/-!
# The invariant of a configured group

`GroupInv` holds from `clm_iefb_init` on, at rest and between the moves of a step.  Its heart is
`devicePhase`: the states that a device can be in while its group is in a given state.  When a link
scan starts every device is in `LISTEN` or in `CYCLIC_SENT`, so no row of the table is missing for
the scan start event apart from the one without an action.

* `deviceLocal_..`        what single events do to the state of a device;
* `groupMove_inv`         every move keeps the invariant;
* `linkscanStart_started` the frame of a link scan, device by device.
-/

namespace CLink
open Loop Trace

/-! ## states of a device -/

/-- the states of a device while its group is in `state` with sequence number `seq` -/
def devicePhase (state : GroupState) (seq : UInt16) (dev : SlaveDeviceData) : Prop :=
  match state with
  | .masterDown => False
  | .masterListen => dev.deviceState = .listen
  | .masterArbitration => dev.deviceState = .listen
  | .masterLinkScanComp =>
    dev.deviceState = .listen ∨ (dev.deviceState = .cyclicSent ∧ seq ≠ 0)
  | .masterLinkScan =>
    dev.deviceState ≠ .masterDown
      ∧ (dev.deviceState = .cyclicSending → dev.transmissionBit = true ∧ seq ≠ 0)

/-- the states in which the request carries the address of the device -/
def DeviceState.addressed : DeviceState → Bool
  | waitTd => true
  | cyclicSent => true
  | cyclicSending => true
  | _ => false

theorem devicePhase_ne_down {state : GroupState} {seq : UInt16} {dev : SlaveDeviceData}
    (h : devicePhase state seq dev) : dev.deviceState ≠ .masterDown := by
  intro hd
  cases state with
  | masterDown => exact h
  | masterLinkScan => exact h.1 hd
  | masterLinkScanComp =>
    rcases h with h | ⟨h, _⟩ <;> rw [hd] at h <;> cases h
  | masterListen | masterArbitration =>
    have h' : dev.deviceState = .listen := h
    rw [hd] at h'
    cases h'

/-! ## single events -/

section
variable (gs : GroupSetting) (event : DeviceEvent) (dev : SlaveDeviceData)

theorem enter_deviceState (next : DeviceState) : (dev.enter next).deviceState = next := by
  unfold SlaveDeviceData.enter
  split
  · rename_i h
    rw [h.1]
    rfl
  · rfl

/-- the next state of a local event -/
theorem deviceLocal_deviceState : (deviceLocal gs event dev).deviceState
    = match dev.deviceState, event with
      | .cyclicSending, .groupTimeout =>
        if dev.timeoutCount + 1 ≥ gs.parallelOffTimeoutCount then .listen else .cyclicSent
      | state, event => (deviceFsmMatrix state event).1 := by
  unfold deviceLocal
  split
  · rename_i h
    rw [h]
    rfl
  · rename_i h
    simp only [h, SlaveDeviceData.timeout]
    split <;> rfl
  · rename_i h1 h2
    rw [enter_deviceState]
    split
    · rename_i h
      exact absurd rfl (h2 h)
    · rfl

/-- the fields that no local event changes -/
structure SameSetting (dev dev' : SlaveDeviceData) : Prop where
  enabled : dev'.enabled = dev.enabled
  bit : dev'.transmissionBit = dev.transmissionBit
  force : dev'.forceTransmissionBit = dev.forceTransmissionBit
  station : dev'.slaveStationNo = dev.slaveStationNo
  latest : dev'.latestFrame = dev.latestFrame

theorem deviceLocal_same : SameSetting dev (deviceLocal gs event dev) := by
  unfold deviceLocal
  split
  · exact ⟨rfl, rfl, rfl, rfl, rfl⟩
  · unfold SlaveDeviceData.timeout
    split <;> exact ⟨rfl, rfl, rfl, rfl, rfl⟩
  · unfold SlaveDeviceData.enter
    split <;> exact ⟨rfl, rfl, rfl, rfl, rfl⟩

/-- a local event gives no device an address -/
theorem deviceLocal_addressed (h : (deviceLocal gs event dev).deviceState.addressed = true)
    (he : event.touchesFrame = false) : dev.deviceState.addressed = true := by
  rw [deviceLocal_deviceState] at h
  generalize dev.deviceState = state at h ⊢
  cases state <;> cases event <;>
    first | rfl | exact absurd h Bool.false_ne_true | exact absurd he.symm Bool.false_ne_true

/-- after a link scan has timed out -/
theorem deviceLocal_groupTimeout (h : dev.deviceState ≠ .masterDown) :
    (deviceLocal gs .groupTimeout dev).deviceState = .listen
      ∨ (deviceLocal gs .groupTimeout dev).deviceState = .cyclicSent := by
  rw [deviceLocal_deviceState]
  generalize dev.deviceState = state at h ⊢
  cases state <;> first | exact absurd rfl h | exact Or.inl rfl | exact Or.inr rfl | skip
  simp only
  split
  · exact Or.inl rfl
  · exact Or.inr rfl

/-- after a link scan is complete -/
theorem deviceLocal_groupAllResponded (h : dev.deviceState ≠ .masterDown)
    (h' : dev.deviceState ≠ .cyclicSending) :
    (deviceLocal gs .groupAllResponded dev).deviceState = .listen
      ∨ (deviceLocal gs .groupAllResponded dev).deviceState = .cyclicSent := by
  rw [deviceLocal_deviceState]
  generalize dev.deviceState = state at h h' ⊢
  cases state <;> first | exact absurd rfl h | exact absurd rfl h' | exact Or.inl rfl | exact Or.inr rfl

theorem deviceLocal_groupStandby (h : dev.deviceState ≠ .masterDown) :
    (deviceLocal gs .groupStandby dev).deviceState = .listen := by
  rw [deviceLocal_deviceState]
  generalize dev.deviceState = state at h ⊢
  cases state <;> first | exact absurd rfl h | rfl

theorem deviceLocal_slaveDuplication (h : dev.deviceState ≠ .masterDown) :
    (deviceLocal gs .slaveDuplication dev).deviceState = .listen := by
  rw [deviceLocal_deviceState]
  generalize dev.deviceState = state at h ⊢
  cases state <;> first | exact absurd rfl h | rfl

/-- the answer of a device, by its state before -/
theorem deviceLocal_response (r : CyclicResponse) :
    (deviceLocal gs (responseEvent r) dev).deviceState
      = match dev.deviceState with
        | .waitTd | .cyclicSending =>
          if r.fullHeaders.cyclicHeader.endCode = endcodeSuccess then .cyclicSent else .listen
        | state => state := by
  rw [deviceLocal_deviceState]
  unfold responseEvent
  generalize dev.deviceState = state
  by_cases h : r.fullHeaders.cyclicHeader.endCode = endcodeSuccess
  · simp only [if_pos h]
    cases state <;> rfl
  · simp only [if_neg h]
    cases state <;> rfl

/-- local events keep the states allowed by the group, apart from the ends of link scans -/
theorem devicePhase_slaveDuplication {state : GroupState} {seq : UInt16}
    (h : devicePhase state seq dev) :
    devicePhase state seq (deviceLocal gs .slaveDuplication dev) := by
  have hl := deviceLocal_slaveDuplication gs dev (devicePhase_ne_down h)
  cases state with
  | masterDown => exact h
  | masterLinkScan => exact ⟨by simp [hl], fun h' => by simp [hl] at h'⟩
  | masterLinkScanComp => exact Or.inl hl
  | _ => exact hl

theorem devicePhase_response {state : GroupState} {seq : UInt16} (r : CyclicResponse)
    (h : devicePhase state seq dev) :
    devicePhase state seq (deviceLocal gs (responseEvent r) dev) := by
  have hne := devicePhase_ne_down h
  have hr := deviceLocal_response gs dev r
  cases state with
  | masterDown => exact h
  | masterLinkScan =>
    show _ ≠ _ ∧ (_ = _ → _)
    rw [hr]
    generalize dev.deviceState = st at hne
    cases st <;> simp_all <;> split <;> simp
  | masterLinkScanComp =>
    show _ = _ ∨ (_ = _ ∧ _)
    rw [hr]
    rcases h with h | ⟨h, hs⟩
    · exact Or.inl (by simp [h])
    · exact Or.inr ⟨by simp [h], hs⟩
  | masterListen | masterArbitration =>
    have h' : dev.deviceState = .listen := h
    show _ = _
    simp [hr, h']

end

/-! ## the invariant -/

/-- what holds of a group from initialisation on -/
structure GroupInv (cfg : Config) (parameterNo : UInt16) (g : Nat) (gd : GroupData) : Prop where
  configured : gd.groupState ≠ .masterDown
  station : ∀ d, d < (cfg.hier.groups g).numSlaveDevices.toNat →
    (gd.slaveDevices d).slaveStationNo = UInt16.ofNat ((cfg.hier.groups g).pos d + 1)
  layout : gd.reqFrame.Layout
    ((cfg.hier.groups g).pos (cfg.hier.groups g).numSlaveDevices.toNat)
  headers : ∃ frameSequenceNo clockInfo unitInfo state,
    gd.reqFrame.fullHeaders = (clIefbUpdateRequestFrameHeaders
      (clIefbInitialiseRequestFrame cfg.protocolVer (cfg.hier.groups g).timeoutValue
        (cfg.hier.groups g).parallelOffTimeoutCount cfg.masterId (UInt16.ofNat g + 1)
        (clmIefbCalcOccupiedPerGroup (cfg.hier.groups g)) parameterNo)
      frameSequenceNo clockInfo unitInfo state).fullHeaders
  slot : ∀ d, d < (cfg.hier.groups g).numSlaveDevices.toNat →
    gd.reqFrame.slaveIds ((cfg.hier.groups g).pos d)
        = ((cfg.hier.groups g).slaveDevices d).slaveId
      ∨ gd.reqFrame.slaveIds ((cfg.hier.groups g).pos d) = ipaddrInvalid
  fillers : ∀ d, d < (cfg.hier.groups g).numSlaveDevices.toNat →
    ∀ j, 1 ≤ j → j < (cfg.hier.groups g).num d →
      gd.reqFrame.slaveIds ((cfg.hier.groups g).pos d + j) = multistationIndicator
  ids : ∀ d, d < (cfg.hier.groups g).numSlaveDevices.toNat →
    (gd.slaveDevices d).deviceState.addressed = true →
      gd.reqFrame.slaveIds ((cfg.hier.groups g).pos d)
        = ((cfg.hier.groups g).slaveDevices d).slaveId
  phase : ∀ d, d < (cfg.hier.groups g).numSlaveDevices.toNat →
    devicePhase gd.groupState gd.frameSequenceNo (gd.slaveDevices d)

section
variable {cfg : Config} {parameterNo : UInt16} {g : Nat} {gd gd' : GroupData}

/-- the invariant after a change that leaves the frame alone -/
theorem GroupInv.devices (h : GroupInv cfg parameterNo g gd) (hframe : gd'.reqFrame = gd.reqFrame)
    (hstate : gd'.groupState ≠ .masterDown)
    (hdev : ∀ d, d < (cfg.hier.groups g).numSlaveDevices.toNat →
      (gd'.slaveDevices d).slaveStationNo = (gd.slaveDevices d).slaveStationNo
      ∧ ((gd'.slaveDevices d).deviceState.addressed = true →
        (gd.slaveDevices d).deviceState.addressed = true)
      ∧ devicePhase gd'.groupState gd'.frameSequenceNo (gd'.slaveDevices d)) :
    GroupInv cfg parameterNo g gd' := by
  refine ⟨hstate, fun d hd => (hdev d hd).1.trans (h.station d hd), hframe ▸ h.layout,
    hframe ▸ h.headers, fun d hd => ?_, fun d hd j h1 hj => ?_, fun d hd ha => ?_,
    fun d hd => (hdev d hd).2.2⟩
  · rw [hframe]
    exact h.slot d hd
  · rw [hframe]
    exact h.fillers d hd j h1 hj
  · rw [hframe]
    exact h.ids d hd ((hdev d hd).2.1 ha)

/-- a change that also leaves the devices alone -/
theorem GroupInv.same (h : GroupInv cfg parameterNo g gd) (hframe : gd'.reqFrame = gd.reqFrame)
    (hstate : gd'.groupState = gd.groupState) (hseq : gd'.frameSequenceNo = gd.frameSequenceNo)
    (hdev : gd'.slaveDevices = gd.slaveDevices) : GroupInv cfg parameterNo g gd' := by
  refine h.devices hframe (hstate ▸ h.configured) (fun d hd => ?_)
  rw [hdev, hstate, hseq]
  exact ⟨rfl, id, h.phase d hd⟩

/-- a change of one device that leaves the frame alone -/
theorem GroupInv.modifyDevice (h : GroupInv cfg parameterNo g gd) (d : Nat)
    (f : SlaveDeviceData → SlaveDeviceData)
    (hstation : (f (gd.slaveDevices d)).slaveStationNo = (gd.slaveDevices d).slaveStationNo)
    (haddr : (f (gd.slaveDevices d)).deviceState.addressed = true →
      (gd.slaveDevices d).deviceState.addressed = true)
    (hphase : devicePhase gd.groupState gd.frameSequenceNo (gd.slaveDevices d) →
      devicePhase gd.groupState gd.frameSequenceNo (f (gd.slaveDevices d))) :
    GroupInv cfg parameterNo g (gd.modifyDevice d f) := by
  refine h.devices rfl h.configured (fun e he => ?_)
  by_cases hed : e = d
  · subst hed
    rw [GroupData.modifyDevice_self]
    exact ⟨hstation, haddr, hphase (h.phase e he)⟩
  · rw [GroupData.modifyDevice_of_ne _ _ _ hed]
    exact ⟨rfl, id, h.phase e he⟩

end

/-- devices with the same state and bit are in the same phase -/
theorem devicePhase_congr {state : GroupState} {seq : UInt16} {dev dev' : SlaveDeviceData}
    (hs : dev'.deviceState = dev.deviceState) (hb : dev'.transmissionBit = dev.transmissionBit)
    (h : devicePhase state seq dev) : devicePhase state seq dev' := by
  unfold devicePhase at h ⊢
  rw [hs, hb]
  exact h

/-! ## responses -/

section
variable {gs : GroupSetting} {d : Nat} {r : CyclicResponse} {gd : GroupData}

/-- the next state only depends on the state and the timeout count -/
theorem deviceLocal_deviceState_congr {event : DeviceEvent} {dev dev' : SlaveDeviceData}
    (hs : dev'.deviceState = dev.deviceState) (hc : dev'.timeoutCount = dev.timeoutCount) :
    (deviceLocal gs event dev').deviceState = (deviceLocal gs event dev).deviceState := by
  rw [deviceLocal_deviceState, deviceLocal_deviceState, hs, hc]

theorem SameSetting.trans {a b c : SlaveDeviceData} (h : SameSetting a b) (h' : SameSetting b c) :
    SameSetting a c :=
  ⟨h'.enabled.trans h.enabled, h'.bit.trans h.bit, h'.force.trans h.force,
    h'.station.trans h.station, h'.latest.trans h.latest⟩

/-- counting changes no setting -/
theorem sameSetting_statistics (dev : SlaveDeviceData) (st : Statistics) :
    SameSetting dev { dev with statistics := st } := ⟨rfl, rfl, rfl, rfl, rfl⟩

/-- the device after the checks of a response -/
theorem checkDevice_device (gs : GroupSetting) (d : Nat) (r : CyclicResponse) (gd : GroupData) :
    SameSetting (gd.slaveDevices d) (checkDevice gs d r gd).1
      ∧ (checkDevice gs d r gd).1.deviceState
        = if (gd.slaveDevices d).enabled = true ∧ isDuplicate (gd.slaveDevices d) r = true then
            (deviceLocal gs .slaveDuplication (gd.slaveDevices d)).deviceState
          else (gd.slaveDevices d).deviceState := by
  have hen : (countIncoming (gd.slaveDevices d)).enabled = (gd.slaveDevices d).enabled := rfl
  have hdu : isDuplicate (countIncoming (gd.slaveDevices d)) r
      = isDuplicate (gd.slaveDevices d) r := rfl
  unfold checkDevice
  simp only [hen, hdu]
  by_cases he : (gd.slaveDevices d).enabled = false
  · rw [if_pos he, if_neg (by simp [he])]
    exact ⟨sameSetting_statistics _ _, rfl⟩
  rw [if_neg he]
  have he' : (gd.slaveDevices d).enabled = true := by simpa using he
  by_cases hdup : isDuplicate (gd.slaveDevices d) r = true
  · rw [if_pos hdup, if_pos ⟨he', hdup⟩]
    exact ⟨(sameSetting_statistics _ _).trans (deviceLocal_same gs _ _),
      deviceLocal_deviceState_congr rfl rfl⟩
  have hn : ¬ ((gd.slaveDevices d).enabled = true ∧ isDuplicate (gd.slaveDevices d) r = true) :=
    fun h => hdup h.2
  rw [if_neg hdup, if_neg hn]
  obtain ⟨st, hst⟩ := countAlarms_core r (countIncoming (gd.slaveDevices d))
  split
  · exact ⟨sameSetting_statistics _ _, rfl⟩
  · rw [hst]
    split <;> exact ⟨sameSetting_statistics _ _, rfl⟩

/-- the device after an accepted response -/
structure AcceptedDevice (gs : GroupSetting) (r : CyclicResponse) (timestamp : UInt32)
    (dev dev' : SlaveDeviceData) : Prop where
  enabled : dev'.enabled = dev.enabled
  bit : dev'.transmissionBit = dev.transmissionBit
  force : dev'.forceTransmissionBit = dev.forceTransmissionBit
  station : dev'.slaveStationNo = dev.slaveStationNo
  latest : dev'.latestFrame = clmIefbStoreIncomingSlaveRuntimeInfo r timestamp
  state : dev'.deviceState
    = if r.fullHeaders.cyclicHeader.endCode = endcodeMasterDuplication then dev.deviceState
      else (deviceLocal gs (responseEvent r) dev).deviceState

theorem acceptResponse_device (cfg : Config) (h : (checkDevice gs d r gd).2 = true) :
    AcceptedDevice gs r gd.timestampLinkScanStart (gd.slaveDevices d)
      ((acceptResponse cfg gs d r gd).slaveDevices d) := by
  have hpass := checkDevice_passed h
  obtain ⟨st, hst⟩ := countAlarms_core r (countIncoming (gd.slaveDevices d))
  obtain ⟨st', hst'⟩ := countReported_core r { countIncoming (gd.slaveDevices d) with statistics := st }
  have hdev : (acceptResponse cfg gs d r gd).slaveDevices d
      = deviceResponse gs r (storeHeaders cfg gd r
          { countIncoming (gd.slaveDevices d) with statistics := st' }) := by
    simp only [acceptResponse, Function.update_self, hpass.device, hst, hst']
  rw [hdev]
  unfold deviceResponse
  by_cases hdupl : r.fullHeaders.cyclicHeader.endCode = endcodeMasterDuplication
  · rw [if_pos hdupl]
    exact ⟨rfl, rfl, rfl, rfl, rfl, by rw [if_pos hdupl]; rfl⟩
  · rw [if_neg hdupl]
    obtain ⟨h1, h2, h3, h4, h5⟩ := deviceLocal_same gs (responseEvent r) (storeHeaders cfg gd r
      { countIncoming (gd.slaveDevices d) with statistics := st' })
    refine ⟨h1, h2, h3, h4, h5, ?_⟩
    rw [if_neg hdupl]
    exact deviceLocal_deviceState_congr rfl rfl

theorem acceptResponse_other (cfg : Config) {e : Nat} (hne : e ≠ d) :
    (acceptResponse cfg gs d r gd).slaveDevices e = gd.slaveDevices e :=
  Function.update_of_ne hne _ _

end

/-! ## the start of a link scan -/

/-- the group data in the callbacks of a link scan start -/
def GroupData.scanning (gd : GroupData) : GroupData := { gd with groupState := .masterLinkScan }

/-- what the rest of the link scan start adds to the work of the devices -/
structure LinkscanStarted (gs : GroupSetting) (g : Nat) (now : UInt32) (gd gd' : GroupData) :
    Prop where
  started : Started gs g gd.scanning (startDevices gs g gd.scanning).1
  devices : gd'.slaveDevices = (startDevices gs g gd.scanning).1.slaveDevices
  frame : ∃ clockInfo unitInfo, gd'.reqFrame
    = clIefbUpdateRequestFrameHeaders (startDevices gs g gd.scanning).1.reqFrame
        gd.frameSequenceNo clockInfo unitInfo gd'.cyclicTransmissionState
  word : gd'.cyclicTransmissionState
    = (startDevices gs g gd.scanning).1.cyclicTransmissionState
  state : gd'.groupState = .masterLinkScan
  seq : gd'.frameSequenceNo = gd.frameSequenceNo
  area : gd'.memoryArea = gd.memoryArea
  timestamp : gd'.timestampLinkScanStart = now

theorem linkscanStart_started {o : Options} {cfg : Config} {parameterNo : UInt16} {g : Nat}
    {gd : GroupData} (hv : GroupValid o cfg (cfg.hier.groups g))
    (h : GroupInv cfg parameterNo g gd) (hs : gd.groupState = .masterLinkScanComp)
    {clm : ClmShared} (hclm : clm.config = cfg) (now : UInt32) (unixMs : Nat → UInt64) :
    LinkscanStarted (cfg.hier.groups g) g now gd (linkscanStart g now unixMs clm gd).group
    ∧ (linkscanStart g now unixMs clm gd).out
      = (startDevices (cfg.hier.groups g) g gd.scanning).2
        ++ [.sendRequest g gd.scanning clm.iefbBroadcastIp clCciefbPort
            (linkscanStart g now unixMs clm gd).group.reqFrame.datagram] := by
  subst hclm
  have hst : Started (clm.config.hier.groups g) g gd.scanning
      (startDevices (clm.config.hier.groups g) g gd.scanning).1 := startDevices_spec hv h.station
    (fun d hd => by
      have hp := h.phase d hd
      rw [hs] at hp
      exact hp.imp id And.left)
  have hrest := hst.rest
  have hframe : clmIefbSendCyclicRequestFrame
      { (startDevices (clm.config.hier.groups g) g gd.scanning).1 with timestampLinkScanStart := now }
      (unixMs g) clm.masterLocalUnitInfo
      = clIefbUpdateRequestFrameHeaders
          (startDevices (clm.config.hier.groups g) g gd.scanning).1.reqFrame gd.frameSequenceNo
          (unixMs g) clm.masterLocalUnitInfo
          (startDevices (clm.config.hier.groups g) g gd.scanning).1.cyclicTransmissionState := by
    unfold clmIefbSendCyclicRequestFrame
    rw [hrest.seq]
    rfl
  unfold linkscanStart clmIefbOnLinkscanStart
  simp only
  constructor
  · split <;> exact ⟨hst, rfl, ⟨_, _, hframe⟩, rfl, hrest.state, hrest.seq, hrest.area, rfl⟩
  · split <;> rfl

/-- the data of a device after the scan start -/
structure StartedFields (dev dev' : SlaveDeviceData) : Prop where
  enabled : dev'.enabled = dev.enabled
  force : dev'.forceTransmissionBit = dev.forceTransmissionBit
  station : dev'.slaveStationNo = dev.slaveStationNo
  latest : dev'.latestFrame = dev.latestFrame
  state : dev'.deviceState = scanStartState dev
  bit : dev'.transmissionBit
    = if scanStartIgnored dev then dev.transmissionBit else scanStartState dev = .cyclicSending

theorem startedDevice_fields (gs : GroupSetting) (g d : Nat) (dev : SlaveDeviceData) :
    StartedFields dev (startedDevice gs g d dev) := by
  unfold startedDevice
  cases hi : scanStartIgnored dev with
  | true =>
    rw [if_pos rfl]
    refine ⟨rfl, rfl, rfl, rfl, ?_, by rw [if_pos hi]⟩
    simp only [scanStartIgnored, decide_eq_true_eq] at hi
    simp [scanStartState, hi.1]
  | false =>
    rw [if_neg (by simp)]
    unfold countSentFrame setTransmissionBit
    by_cases hs : scanStartState dev = .cyclicSending
    · simp only [hs, if_true]
      split <;> split <;> exact ⟨rfl, rfl, rfl, rfl, hs.symm, by simp [hi, hs]⟩
    · simp only [if_neg hs]
      split <;> split <;> exact ⟨rfl, rfl, rfl, rfl, rfl, by simp [hi, hs]⟩

/-- only an enabled device is addressed -/
theorem scanStartState_addressed {dev : SlaveDeviceData}
    (h : (scanStartState dev).addressed = true) : dev.enabled = true := by
  unfold scanStartState at h
  split at h
  · assumption
  · cases h

theorem scanStartState_cyclicSending {dev : SlaveDeviceData} :
    scanStartState dev = .cyclicSending ↔ dev.enabled = true ∧ dev.deviceState = .cyclicSent := by
  unfold scanStartState
  split
  · split <;> simp_all
  · simp_all

section
variable {o : Options} {cfg : Config} {parameterNo : UInt16} {g : Nat} {gd gd' : GroupData}
  (hv : GroupValid o cfg (cfg.hier.groups g))
include hv

theorem groupInv_linkscanStarted {now : UInt32} (h : GroupInv cfg parameterNo g gd)
    (hs : gd.groupState = .masterLinkScanComp)
    (hst : LinkscanStarted (cfg.hier.groups g) g now gd gd') : GroupInv cfg parameterNo g gd' := by
  obtain ⟨clockInfo, unitInfo, hframe⟩ := hst.frame
  have hrest := hst.started.rest
  have hdev : ∀ d, d < (cfg.hier.groups g).numSlaveDevices.toNat →
      StartedFields (gd.slaveDevices d) (gd'.slaveDevices d) := by
    intro d hd
    rw [hst.devices, hst.started.device d hd]
    exact startedDevice_fields _ g d _
  have hids : gd'.reqFrame.slaveIds
      = (startDevices (cfg.hier.groups g) g gd.scanning).1.reqFrame.slaveIds := by
    rw [hframe]
    rfl
  refine ⟨by rw [hst.state]; simp, fun d hd => (hdev d hd).station.trans (h.station d hd),
    ?_, ?_, fun d hd => ?_, fun d hd j h1 hj => ?_, fun d hd ha => ?_, fun d hd => ?_⟩
  · rw [hframe]
    exact ⟨hrest.len.trans h.layout.len, hrest.firstSlaveId.trans h.layout.firstSlaveId,
      hrest.firstRww.trans h.layout.firstRww, hrest.firstRy.trans h.layout.firstRy⟩
  · obtain ⟨s, k, u, w, hheaders⟩ := h.headers
    have hh : (startDevices (cfg.hier.groups g) g gd.scanning).1.reqFrame.fullHeaders = _ :=
      hrest.headers.trans hheaders
    refine ⟨gd.frameSequenceNo, clockInfo, unitInfo, gd'.cyclicTransmissionState, ?_⟩
    rw [hframe]
    simp only [clIefbUpdateRequestFrameHeaders, hh]
  · rw [hids]
    have hsl := hst.started.slots d hd
    unfold Slots at hsl
    split at hsl
    · have h0 := hsl.ids 0 (hv.num_pos hd)
      rw [Nat.add_zero] at h0
      rw [h0]
      exact h.slot d hd
    · rw [hsl.id]
      split
      · exact Or.inl rfl
      · exact Or.inr rfl
  · rw [hids]
    have hsl := hst.started.slots d hd
    unfold Slots at hsl
    split at hsl
    · rw [hsl.ids j hj]
      exact h.fillers d hd j h1 hj
    · rw [hsl.fillers j h1 hj]
      exact h.fillers d hd j h1 hj
  · rw [(hdev d hd).state] at ha
    have he := scanStartState_addressed ha
    have hsl := hst.started.slots d hd
    rw [Slots, if_neg (by simp [scanStartIgnored, GroupData.scanning, he])] at hsl
    rw [hids, hsl.id]
    exact if_pos he
  · have hf := hdev d hd
    rw [hst.state, hst.seq]
    show _ ≠ _ ∧ (_ = _ → _)
    rw [hf.state]
    constructor
    · unfold scanStartState
      split
      · split <;> simp
      · simp
    · intro hsending
      obtain ⟨he, hsent⟩ := scanStartState_cyclicSending.mp hsending
      refine ⟨?_, ?_⟩
      · rw [hf.bit, if_neg (by simp [scanStartIgnored, he])]
        simpa using hsending
      · have hp := h.phase d hd
        rw [hs] at hp
        rcases hp with hp | hp
        · rw [hsent] at hp
          cases hp
        · exact hp.2

omit hv in
/-- no device of a complete link scan still waits for its answer -/
theorem noSending_of_haveReceived {gs : GroupSetting}
    (hp : ∀ d, d < gs.numSlaveDevices.toNat →
      devicePhase .masterLinkScan gd.frameSequenceNo (gd.slaveDevices d))
    (hr : clmIefbGroupHaveReceivedFromAllDevices gs gd = true) {d : Nat}
    (hd : d < gs.numSlaveDevices.toNat) : (gd.slaveDevices d).deviceState ≠ .cyclicSending := by
  intro hs
  obtain ⟨hbit, hseq⟩ := (hp d hd).2 hs
  simp only [clmIefbGroupHaveReceivedFromAllDevices, if_neg hseq, decide_eq_true_eq] at hr
  exact hr.1 d hd ⟨hbit, hs⟩

omit hv in
theorem clmIefbUpdateFrameSequenceNo_ne_zero (n : UInt16) : clmIefbUpdateFrameSequenceNo n ≠ 0 := by
  unfold clmIefbUpdateFrameSequenceNo
  split
  · decide
  · rename_i h
    intro h0
    apply h
    rw [← UInt16.toNat_inj] at h0 ⊢
    have hlt := n.toNat_lt
    rw [UInt16.toNat_add] at h0
    simp only [UInt16.reduceToNat] at h0 ⊢
    omega

omit hv in
/-- the end of a link scan, once the events have left no device between two states -/
theorem groupInv_endScan {event : DeviceEvent} (h : GroupInv cfg parameterNo g gd)
    (he : event.touchesFrame = false)
    (hend : ∀ d, d < (cfg.hier.groups g).numSlaveDevices.toNat →
      (deviceLocal (cfg.hier.groups g) event (gd.slaveDevices d)).deviceState = .listen
        ∨ (deviceLocal (cfg.hier.groups g) event (gd.slaveDevices d)).deviceState = .cyclicSent) :
    GroupInv cfg parameterNo g (gd.endScan (cfg.hier.groups g) event) := by
  refine h.devices rfl (by simp [GroupData.endScan]) (fun d hd => ?_)
  rw [gd.endScan_slaveDevices _ _ hd]
  refine ⟨(deviceLocal_same _ _ _).station, fun ha => deviceLocal_addressed _ _ _ ha he, ?_⟩
  show _ ∨ (_ ∧ _)
  exact (hend d hd).imp id (fun hsent => ⟨hsent, clmIefbUpdateFrameSequenceNo_ne_zero _⟩)

/-- **Every move keeps the invariant.** -/
theorem groupMove_inv {A : GroupInput → GroupData → Prop} {out : List Output}
    (hm : GroupMove cfg g A gd out gd') (h : GroupInv cfg parameterNo g gd) :
    GroupInv cfg parameterNo g gd' := by
  cases hm with
  | setEnabled d enabled _ => exact h.modifyDevice d _ rfl id (devicePhase_congr rfl rfl)
  | setForce d force _ => exact h.modifyDevice d _ rfl id (devicePhase_congr rfl rfl)
  | clearStatistics _ =>
    refine h.devices rfl h.configured (fun d hd => ?_)
    rw [GroupData.clearStatistics, gd.mapDevices_slaveDevices _ hd]
    exact ⟨rfl, id, devicePhase_congr rfl rfl (h.phase d hd)⟩
  | writeMemoryArea ry rww => exact h.same rfl rfl rfl rfl
  | stopResponseWaitTimer => exact h.same rfl rfl rfl rfl
  | stopConstantLinkscanTimer => exact h.same rfl rfl rfl rfl
  | rejected d r hd _ hc =>
    obtain ⟨hsame, hstate⟩ := checkDevice_device (cfg.hier.groups g) d r gd
    refine h.modifyDevice d _ hsame.station (fun ha => ?_) (fun hp => ?_)
    · rw [hstate] at ha
      split at ha
      · exact deviceLocal_addressed _ _ _ ha rfl
      · exact ha
    · split at hstate
      · exact devicePhase_congr hstate (hsame.bit.trans (deviceLocal_same _ _ _).bit.symm)
          (devicePhase_slaveDuplication _ _ hp)
      · exact devicePhase_congr hstate hsame.bit hp
  | accepted d r hd _ hc =>
    have hacc := acceptResponse_device cfg hc
    refine h.devices rfl h.configured (fun e he => ?_)
    by_cases hed : e = d
    · subst hed
      refine ⟨hacc.station, fun ha => ?_, ?_⟩
      · rw [hacc.state] at ha
        split at ha
        · exact ha
        · exact deviceLocal_addressed _ _ _ ha (by unfold responseEvent; split <;> rfl)
      · have hp := h.phase e he
        have hstate := hacc.state
        split at hstate
        · exact devicePhase_congr hstate hacc.bit hp
        · exact devicePhase_congr hstate (hacc.bit.trans (deviceLocal_same _ _ _).bit.symm)
            (devicePhase_response _ _ r hp)
    · rw [acceptResponse_other cfg hed]
      exact ⟨rfl, id, h.phase e he⟩
  | complete hs hr =>
    have hp := h.phase
    rw [hs] at hp
    exact groupInv_endScan h rfl (fun d hd => deviceLocal_groupAllResponded _ _ (hp d hd).1
      (noSending_of_haveReceived hp hr hd))
  | timeout hs =>
    exact groupInv_endScan h rfl
      (fun d hd => deviceLocal_groupTimeout _ _ (devicePhase_ne_down (h.phase d hd)))
  | arbitrationDone hs =>
    refine h.devices rfl (by simp) (fun d hd => ⟨rfl, id, ?_⟩)
    have hp := h.phase d hd
    rw [hs] at hp
    exact Or.inl hp
  | start clm now unixMs hclm hs =>
    exact groupInv_linkscanStarted hv h hs (linkscanStart_started hv h hs hclm now unixMs).1
  | standby hs =>
    refine h.devices rfl (by simp [GroupData.standby]) (fun d hd => ?_)
    rw [gd.standby_slaveDevices _ hd]
    exact ⟨(deviceLocal_same _ _ _).station, fun ha => deviceLocal_addressed _ _ _ ha rfl,
      deviceLocal_groupStandby _ _ (devicePhase_ne_down (h.phase d hd))⟩

end

end CLink
