import CLink.Master.Group

/-!
# The master as a machine

The functions of `clm_iefb.c` that the application and the network call, as one step function.

* `clmIefbHandleInputFrame`   a received datagram, with the return value of the source;
* `clmStep`                   one event;
* `master`                    the machine of the master, `MasterStart.run` its runs from
                              `clm_iefb_init` with a valid configuration.
-/

namespace CLink
open Loop

def Clm.setting (c : Clm) (g : Nat) : GroupSetting := c.shared.config.hier.groups g
def Clm.numGroups (c : Clm) : Nat := c.shared.config.hier.numberOfGroups.toNat

/-- the part of the master that the functions of group `g` see -/
def Clm.scope (c : Clm) (g : Nat) : Scope := { clm := c.shared, group := c.groups g, out := [] }

/-- the master after a function of group `g`, and the outputs -/
def Clm.setScope (c : Clm) (g : Nat) (s : Scope) : Clm × List Output :=
  ({ c with shared := s.clm, groups := Function.update c.groups g s.group }, s.out)

/-- one function for every group in turn -/
def Clm.forGroups (c : Clm) (f : Nat → Scope → Scope) : Clm × List Output :=
  loop (fun g t =>
    let r := t.1.setScope g (f g (t.1.scope g))
    (r.1, t.2 ++ r.2)) c.numGroups (c, [])

/-- what one function for every group does: `I g` holds of the shared data and of the outputs so far
before round `g`, `R g` relates the group before and after -/
theorem Clm.forGroups_inv {c : Clm} {f : Nat → Scope → Scope}
    (I : Nat → ClmShared → List Output → Prop) (R : Nat → GroupData → GroupData → Prop)
    (h0 : I 0 c.shared [])
    (h : ∀ g clm out, g < c.numGroups → I g clm out →
      let s := f g { clm := clm, group := c.groups g, out := [] }
      I (g+1) s.clm (out ++ s.out) ∧ R g (c.groups g) s.group) :
    I c.numGroups (c.forGroups f).1.shared (c.forGroups f).2
      ∧ (c.forGroups f).1.aborted = c.aborted
      ∧ (∀ g, g < c.numGroups → R g (c.groups g) ((c.forGroups f).1.groups g))
      ∧ ∀ g, c.numGroups ≤ g → (c.forGroups f).1.groups g = c.groups g := by
  refine loop_inv (n := c.numGroups)
    (f := fun g t =>
      let r := t.1.setScope g (f g (t.1.scope g))
      (r.1, t.2 ++ r.2)) (s := (c, ([] : List Output)))
    (fun k t => I k t.1.shared t.2 ∧ t.1.aborted = c.aborted
      ∧ (∀ g, g < k → R g (c.groups g) (t.1.groups g))
      ∧ ∀ g, k ≤ g → t.1.groups g = c.groups g)
    ⟨h0, rfl, fun g hg => absurd hg (Nat.not_lt_zero g), fun _ _ => rfl⟩ ?_
  rintro k ⟨t, out⟩ hk ⟨hI, ha, hdone, hsame⟩
  have hscope : t.scope k = { clm := t.shared, group := c.groups k, out := [] } := by
    rw [← hsame k (Nat.le_refl k)]
    rfl
  obtain ⟨hI', hR⟩ := h k t.shared out hk hI
  rw [← hscope] at hI' hR
  refine ⟨hI', ha, fun g hg => ?_, fun g hg => ?_⟩
  · show R g (c.groups g) (Function.update t.groups k _ g)
    rcases Nat.lt_succ_iff_lt_or_eq.mp hg with hlt | rfl
    · rw [Function.update_of_ne (by omega)]
      exact hdone g hlt
    · rw [Function.update_self]
      exact hR
  · show Function.update t.groups k _ g = c.groups g
    rw [Function.update_of_ne (by omega)]
    exact hsame g (by omega)

/-- the same with one property of all outputs: `I g` holds of the shared data before round `g`,
every output meets `Q` -/
theorem Clm.forGroups_spec {c : Clm} {f : Nat → Scope → Scope} (I : Nat → ClmShared → Prop)
    (R : Nat → GroupData → GroupData → Prop) (Q : Output → Prop) (h0 : I 0 c.shared)
    (h : ∀ g clm, g < c.numGroups → I g clm →
      let s := f g { clm := clm, group := c.groups g, out := [] }
      I (g+1) s.clm ∧ R g (c.groups g) s.group ∧ ∀ x ∈ s.out, Q x) :
    I c.numGroups (c.forGroups f).1.shared ∧ (c.forGroups f).1.aborted = c.aborted
      ∧ (∀ g, g < c.numGroups → R g (c.groups g) ((c.forGroups f).1.groups g))
      ∧ ∀ x ∈ (c.forGroups f).2, Q x := by
  obtain ⟨⟨hI, hQ⟩, ha, hR, _⟩ := Clm.forGroups_inv (c := c) (f := f)
    (fun g clm out => I g clm ∧ ∀ x ∈ out, Q x) R ⟨h0, fun _ hx => absurd hx List.not_mem_nil⟩
    (by
      rintro g clm out hg ⟨hI, hout⟩
      obtain ⟨hI', hR, hQ⟩ := h g clm hg hI
      refine ⟨⟨hI', fun x hx => ?_⟩, hR⟩
      exact (List.mem_append.mp hx).elim (hout x) (hQ x))
  exact ⟨hI, ha, hR, hQ⟩

/-! ## timers -/

def clmIefbGroupFsmEventAll (now : UInt32) (unixMs : Nat → UInt64) (event : GroupEvent)
    (c : Clm) : Clm × List Output :=
  c.forGroups (fun g => clmIefbGroupFsmEvent g now unixMs event)

/-- the body of the loop of `clm_iefb_monitor_all_group_timers` -/
def monitorGroupTimers (g : Nat) (now : UInt32) (unixMs : Nat → UInt64) (s : Scope) : Scope :=
  let s :=
    if clTimerIsExpired s.group.responseWaitTimer now then
      clmIefbGroupFsmEvent g now unixMs .linkscanTimeout { s with group := { s.group with
        responseWaitTimer := clTimerStop s.group.responseWaitTimer } }
    else s
  if clTimerIsExpired s.group.constantLinkscanTimer now then
    clmIefbGroupFsmEvent g now unixMs .linkscanStart { s with group := { s.group with
      constantLinkscanTimer := clTimerStop s.group.constantLinkscanTimer } }
  else s

def clmIefbMonitorAllGroupTimers (now : UInt32) (unixMs : Nat → UInt64) (c : Clm) :
    Clm × List Output :=
  c.forGroups (fun g => monitorGroupTimers g now unixMs)

/-- the first part of `clm_iefb_periodic`, up to the reception of frames -/
def clmIefbPeriodicTimers (now : UInt32) (unixMs : Nat → UInt64) (c : Clm) : Clm × List Output :=
  let c := { c with shared := { c.shared with
    errorlimiter := clLimiterPeriodic c.shared.errorlimiter now } }
  let r :=
    if clTimerIsExpired c.shared.arbitrationTimer now then
      clmIefbGroupFsmEventAll now unixMs .arbitrationDone { c with shared := { c.shared with
        arbitrationTimer := clTimerStop c.shared.arbitrationTimer } }
    else (c, [])
  let m := clmIefbMonitorAllGroupTimers now unixMs r.1
  (m.1, r.2 ++ m.2)

/-! ## responses -/

def clmIefbStoreIncomingSlaveRuntimeInfo (r : CyclicResponse) (transmissionTimestamp : UInt32) :
    FrameValues :=
  let h := r.fullHeaders
  { hasBeenReceived := true
    responseTime := r.receptionTimestamp - transmissionTimestamp
    endCode := h.cyclicHeader.endCode
    numOccupiedStations := r.numberOfOccupied
    protocolVer := h.cyclicHeader.protocolVer
    vendorCode := h.slaveStationNotification.vendorCode
    modelCode := h.slaveStationNotification.modelCode
    equipmentVer := h.slaveStationNotification.equipmentVer
    slaveLocalUnitInfo := h.slaveStationNotification.slaveLocalUnitInfo
    localManagementInfo := h.slaveStationNotification.localManagementInfo
    slaveErrCode := h.slaveStationNotification.slaveErrCode
    slaveId := h.cyclicDataHeader.slaveId
    groupNo := h.cyclicDataHeader.groupNo.toUInt16
    frameSequenceNo := h.cyclicDataHeader.frameSequenceNo }

def clmIefbStatisticsUpdateResponseTime (st : Statistics) (maxNumberOfSamples : UInt16)
    (responseTime : UInt32) : Statistics :=
  let m := st.measuredTime
  if m.numberOfSamples < maxNumberOfSamples.toUInt32 ∧ m.sum < 0xFFFFFFFF / 2 then
    { st with measuredTime :=
      { numberOfSamples := m.numberOfSamples + 1
        max := if responseTime > m.max then responseTime else m.max
        min := if responseTime < m.min then responseTime else m.min
        sum := m.sum + responseTime
        average := (m.sum + responseTime) / (m.numberOfSamples + 1) } }
  else st

def clmIefbStoreIncomingCyclicData (area : MemoryArea) (r : CyclicResponse)
    (slaveStationNo numOccupiedStations : UInt16) (valid : Bool) : MemoryArea :=
  let firstIndex := slaveStationNo.toNat - 1
  let n := numOccupiedStations.toNat
  if valid then
    { area with rwr := blit area.rwr r.rwr firstIndex n, rx := blit area.rx r.rx firstIndex n }
  else
    { area with
      rwr := blit area.rwr (fun _ => WordArea.zero) firstIndex n
      rx := blit area.rx (fun _ => BitArea.zero) firstIndex n }

/-- both loops end early with `false` -/
def clmIefbGroupHaveReceivedFromAllDevices (gs : GroupSetting) (gd : GroupData) : Bool :=
  let n := gs.numSlaveDevices.toNat
  if gd.frameSequenceNo = 0 then
    (∀ d, d < n → (gd.slaveDevices d).deviceState ≠ .waitTd)
      ∧ ∃ d, d < n ∧ (gd.slaveDevices d).deviceState = .cyclicSent
  else
    (∀ d, d < n → ¬ ((gd.slaveDevices d).transmissionBit = true
        ∧ (gd.slaveDevices d).deviceState = .cyclicSending))
      ∧ ∃ d, d < n ∧ (gd.slaveDevices d).transmissionBit = true

def Scope.modifyDevice (s : Scope) (d : Nat) (f : SlaveDeviceData → SlaveDeviceData) : Scope :=
  { s with group := s.group.modifyDevice d f }

def Scope.triggerError (s : Scope) (now : UInt32) (message : ErrorMessage) (ipAddr : IpAddr) :
    Scope :=
  let r := clmIefbTriggerErrorCallback s.clm now message ipAddr 0
  { s with clm := r.1, out := s.out ++ r.2 }

def countIncoming (dev : SlaveDeviceData) : SlaveDeviceData :=
  { dev with statistics := { dev.statistics with
      numberOfIncomingFrames := dev.statistics.numberOfIncomingFrames + 1 } }

def countInvalid (dev : SlaveDeviceData) : SlaveDeviceData :=
  { dev with statistics := { dev.statistics with
      numberOfIncomingInvalidFrames := dev.statistics.numberOfIncomingInvalidFrames + 1 } }

def countAlarm (dev : SlaveDeviceData) : SlaveDeviceData :=
  { dev with statistics := { dev.statistics with
      numberOfIncomingAlarmFrames := dev.statistics.numberOfIncomingAlarmFrames + 1 } }

/-- the response repeats the sequence number of the latest one, and the device is not in `LISTEN` -/
def isDuplicate (dev : SlaveDeviceData) (r : CyclicResponse) : Bool :=
  dev.latestFrame.hasBeenReceived
    ∧ r.fullHeaders.cyclicDataHeader.frameSequenceNo = dev.latestFrame.frameSequenceNo
    ∧ dev.deviceState ≠ .listen

/-- the two alarms that are reported before the number of stations is checked -/
def reportAlarms (d : Nat) (now : UInt32) (r : CyclicResponse) (s : Scope) : Scope :=
  let endCode := r.fullHeaders.cyclicHeader.endCode
  let s :=
    if endCode = endcodeWrongNumberOccupiedStations then
      (s.modifyDevice d countAlarm).triggerError now .slaveReportsWrongNumberOccupied r.remoteIp
    else s
  if endCode = endcodeMasterDuplication then
    (s.modifyDevice d countAlarm).triggerError now .slaveReportsMasterDuplication r.remoteIp
  else s

/-- `clm_iefb_handle_response_frame` from the count of the frame to the check of the number of
stations; `false` is `return -1` -/
def checkResponse (g d : Nat) (now : UInt32) (r : CyclicResponse) (s : Scope) : Scope × Bool :=
  let gs := s.setting g
  let s := s.modifyDevice d countIncoming
  let dev := s.group.slaveDevices d
  if dev.enabled = false then (s.modifyDevice d countInvalid, false)
  else if isDuplicate dev r then
    let s := (s.modifyDevice d countInvalid).triggerError now .slaveDuplication r.remoteIp
    (s.afterDevice (clmIefbDeviceFsmEvent gs g d .slaveDuplication s.group), false)
  else if dev.transmissionBit = true
      ∧ r.fullHeaders.cyclicDataHeader.frameSequenceNo ≠ s.group.frameSequenceNo then
    (s.modifyDevice d countInvalid, false)
  else
    let s := reportAlarms d now r s
    if r.numberOfOccupied ≠ (gs.slaveDevices d).numOccupiedStations then
      (s.modifyDevice d countInvalid, false)
    else (s, true)

/-- the callbacks for alarm frames and changed slave info -/
def reportChanges (g d : Nat) (r : CyclicResponse) (s : Scope) : Scope :=
  let endCode := r.fullHeaders.cyclicHeader.endCode
  let slaveErrCode := r.fullHeaders.slaveStationNotification.slaveErrCode
  let localManagementInfo := r.fullHeaders.slaveStationNotification.localManagementInfo
  let latest := (s.group.slaveDevices d).latestFrame
  let s :=
    if endCode = endcodeSlaveError ∨ endCode = endcodeSlaveRequestsDisconnect then
      let s := s.modifyDevice d countAlarm
      if endCode ≠ latest.endCode then
        { s with out := s.out ++ [.alarmCb g d endCode slaveErrCode localManagementInfo] }
      else s
    else s
  if latest.hasBeenReceived = true ∧ (slaveErrCode ≠ latest.slaveErrCode
      ∨ localManagementInfo ≠ latest.localManagementInfo) then
    { s with out := s.out ++ [.slaveinfoCb g d endCode slaveErrCode localManagementInfo] }
  else s

/-- the header details and the statistics -/
def storeHeaders (config : Config) (gd : GroupData) (r : CyclicResponse) (dev : SlaveDeviceData) :
    SlaveDeviceData :=
  let latestFrame := clmIefbStoreIncomingSlaveRuntimeInfo r gd.timestampLinkScanStart
  { dev with
    latestFrame := latestFrame
    statistics := clmIefbStatisticsUpdateResponseTime dev.statistics config.maxStatisticsSamples
      latestFrame.responseTime }

/-- header details, statistics and cyclic data of an accepted response -/
def storeResponse (g d : Nat) (r : CyclicResponse) (s : Scope) : Scope :=
  let gs := s.setting g
  let s := reportChanges g d r s
  let s := s.modifyDevice d (storeHeaders s.clm.config s.group r)
  let dev := s.group.slaveDevices d
  let area := clmIefbStoreIncomingCyclicData s.group.memoryArea r dev.slaveStationNo
    (gs.slaveDevices d).numOccupiedStations dev.transmissionBit
  { s with
    group := { s.group with memoryArea := area }
    out := s.out ++ [.stored g d r dev.transmissionBit] }

/-- the device event of an accepted response, and the completion of the link scan -/
def receiveResponse (g d : Nat) (now : UInt32) (unixMs : Nat → UInt64) (r : CyclicResponse)
    (s : Scope) : Scope :=
  let gs := s.setting g
  let event := if r.fullHeaders.cyclicHeader.endCode = endcodeSuccess then DeviceEvent.receiveOk
    else .receiveError
  let s := s.afterDevice (clmIefbDeviceFsmEvent gs g d event s.group)
  if clmIefbGroupHaveReceivedFromAllDevices gs s.group then
    clmIefbGroupFsmEvent g now unixMs .linkscanComplete s
  else s

/-- `clm_iefb_handle_response_frame` once group and device are known -/
def handleDeviceResponse (g d : Nat) (now : UInt32) (unixMs : Nat → UInt64) (r : CyclicResponse)
    (c : Clm) : Clm × List Output × Int :=
  let check := checkResponse g d now r (c.scope g)
  if check.2 = false then
    ((c.setScope g check.1).1, (c.setScope g check.1).2, -1)
  else
    let s := storeResponse g d r check.1
    if r.fullHeaders.cyclicHeader.endCode = endcodeMasterDuplication then
      let t := c.setScope g s
      let a := clmIefbGroupFsmEventAll now unixMs .masterduplAlarm t.1
      (a.1, t.2 ++ a.2, 0)
    else
      let t := c.setScope g (receiveResponse g d now unixMs r s)
      (t.1, t.2, 0)

def clmIefbHandleResponseFrame (now : UInt32) (unixMs : Nat → UInt64) (dg : Datagram)
    (remoteIp : IpAddr) (remotePort : UInt16) (c : Clm) : Clm × List Output × Int :=
  if c.shared.config.masterId = ipaddrInvalid then (c, [], -1)
  else
    match clIefbParseCyclicResponse dg remoteIp remotePort now with
    | .error .rejected => (c, [], -1)
    | .error .assertFailed => ({ c with aborted := true }, [], -1)
    | .ok r =>
      let groupNo := r.fullHeaders.cyclicDataHeader.groupNo
      if groupNo.toUInt16 > c.shared.config.hier.numberOfGroups then (c, [], -1)
      else
        let g := groupNo.toNat - 1
        match clmIefbCalcSlaveDeviceIndex (c.setting g) remoteIp with
        | none => (c, [], -1)
        | some d => handleDeviceResponse g d now unixMs r c

/-! ## requests of other masters -/

def clmIefbHandleRequestFrame (now : UInt32) (unixMs : Nat → UInt64) (remoteIp : IpAddr)
    (c : Clm) : Clm × List Output × Int :=
  let c := { c with shared := { c.shared with latestConflictingMasterIp := remoteIp } }
  let a := clmIefbGroupFsmEventAll now unixMs .reqFromOther c
  (a.1, a.2, 0)

/-- the datagram is no response but a cyclic request -/
def isForeignRequest (dg : Datagram) : Bool :=
  match clIefbParseRequestHeader dg with
  | none => false
  | some h =>
    clIefbValidateRequestHeader h dg.len ∧ h.command = slmpCommandCciefbCyclic
      ∧ h.subCommand = slmpSubcommandCciefbCyclic

def clmIefbHandleInputFrame (now : UInt32) (unixMs : Nat → UInt64) (dg : Datagram)
    (remoteIp : IpAddr) (remotePort : UInt16) (c : Clm) : Clm × List Output × Int :=
  if remoteIp = c.shared.config.masterId then (c, [], 0)
  else
    match clIefbParseResponseHeader dg with
    | none => (c, [], -1)
    | some header =>
      if clIefbValidateResponseHeader header dg.len then
        clmIefbHandleResponseFrame now unixMs dg remoteIp remotePort c
      else if isForeignRequest dg then clmIefbHandleRequestFrame now unixMs remoteIp c
      else (c, [], -1)

/-! ## calls of the application -/

/-- change the data of one device, if it exists -/
def Clm.modifyDevice (c : Clm) (g d : Nat) (f : SlaveDeviceData → SlaveDeviceData) : Clm :=
  if g ≥ c.numGroups ∨ d ≥ (c.setting g).numSlaveDevices.toNat then c
  else { c with groups := Function.update c.groups g ((c.groups g).modifyDevice d f) }

def clmIefbSetSlaveCommunicationStatus (g d : Nat) (enabled : Bool) (c : Clm) : Clm :=
  c.modifyDevice g d (fun dev => { dev with enabled := enabled })

def clmIefbForceCyclicTransmissionBit (g d : Nat) (force : Bool) (c : Clm) : Clm :=
  c.modifyDevice g d (fun dev => { dev with forceTransmissionBit := force })

def clmIefbStatisticsClearAll (c : Clm) : Clm :=
  let clear (dev : SlaveDeviceData) : SlaveDeviceData := { dev with
    statistics := clmIefbStatisticsClear dev.statistics
    latestFrame := clmIefbLatestReceivedClear dev.latestFrame }
  loop (fun g c =>
    let gd := loop (fun d gd => gd.modifyDevice d clear) (c.setting g).numSlaveDevices.toNat
      (c.groups g)
    { c with groups := Function.update c.groups g gd }) c.numGroups c

def clmIefbCalcMasterLocalUnitInfo (protocolVer : UInt16) (running stoppedByUser : Bool) : UInt16 :=
  if running then masterLocalUnitInfoRunning
  else if protocolVer < 2 ∨ stoppedByUser = false then masterLocalUnitInfoStopped
  else masterLocalUnitInfoStoppedByUser

def clmIefbSetMasterApplicationStatus (running stoppedByUser : Bool) (c : Clm) : Clm :=
  { c with shared := { c.shared with
    masterLocalUnitInfo :=
      clmIefbCalcMasterLocalUnitInfo c.shared.config.protocolVer running stoppedByUser } }

/-- the application writes through the setters or the area pointers -/
def writeMemoryArea (g : Nat) (ry : Nat → BitArea) (rww : Nat → WordArea) (c : Clm) : Clm :=
  if g ≥ c.numGroups then c
  else
    let gd := c.groups g
    let gd := { gd with memoryArea := { gd.memoryArea with ry := ry, rww := rww } }
    { c with groups := Function.update c.groups g gd }

/-! ## initialisation -/

/-- the cleared memory of a group, in state `MASTER_DOWN` -/
def GroupData.zero : GroupData :=
  { totalOccupied := 0, frameSequenceNo := 0, cyclicTransmissionState := 0
    timestampLinkScanStart := 0, groupState := .masterDown, responseWaitTimer := .zero
    constantLinkscanTimer := .zero
    reqFrame :=
      { udpPayloadLen := 0, fullHeaders := .ofBuffer (fun _ => 0), firstSlaveId := 0, firstRww := 0
        firstRy := 0, slaveIds := fun _ => 0, rww := fun _ => .zero, ry := fun _ => .zero }
    slaveDevices := fun _ => .zero
    memoryArea :=
      { rx := fun _ => .zero, ry := fun _ => .zero, rwr := fun _ => .zero, rww := fun _ => .zero } }

abbrev errorcallbackRetriggerPeriod : UInt32 := 1000000

def clmIefbHandleNewConfig (now : UInt32) (c : Clm) : Clm × List Output :=
  let c := { c with shared := { c.shared with parameterNo := c.shared.parameterNo + 1 } }
  let a := clmIefbGroupFsmEventAll now (fun _ => 0) .newConfig c
  (a.1, .saveParameterNo c.shared.parameterNo :: a.2)

/-- `clm_iefb_init` after its sockets are open -/
def clmIefbInitGroups (clm : ClmShared) (now : UInt32) : Clm × List Output :=
  let shared := { clm with
    errorlimiter := clLimiterInit clm.errorlimiter errorcallbackRetriggerPeriod
    latestConflictingMasterIp := ipaddrInvalid
    masterState := .down
    masterLocalUnitInfo := masterLocalUnitInfoRunning
    arbitrationTimer := clTimerStop clm.arbitrationTimer }
  let c : Clm := { shared := shared, groups := fun _ => .zero, aborted := false }
  let a := clmIefbGroupFsmEventAll now (fun _ => 0) .startup c
  let n := clmIefbHandleNewConfig now a.1
  (n.1, a.2 ++ n.2)

/-- `none` is the return value -1; `clal_udp_open` gave the two sockets -/
def clmIefbInit (clm : ClmShared) (now : UInt32) (cciefbSocket cciefbArbitrationSocket : Int) :
    Option (Clm × List Output) :=
  if cciefbSocket = -1 then none
  else if clm.config.useSeparateArbitrationSocket ∧ cciefbArbitrationSocket = -1 then none
  else some (clmIefbInitGroups clm now)

/-! ## the machine -/

def clmStep (c : Clm) (e : Event) : Clm × List Output :=
  if c.aborted then (c, [])
  else
    match e with
    | .tick now unixMs => clmIefbPeriodicTimers now unixMs c
    | .frame now unixMs dg remoteIp remotePort =>
      let r := clmIefbHandleInputFrame now unixMs dg remoteIp remotePort c
      (r.1, r.2.1)
    | .setSlaveCommunicationStatus g d enabled =>
      (clmIefbSetSlaveCommunicationStatus g d enabled c, [])
    | .forceCyclicTransmissionBit g d force => (clmIefbForceCyclicTransmissionBit g d force c, [])
    | .statisticsClearAll => (clmIefbStatisticsClearAll c, [])
    | .setMasterApplicationStatus running stoppedByUser =>
      (clmIefbSetMasterApplicationStatus running stoppedByUser c, [])
    | .writeMemoryArea g ry rww => (writeMemoryArea g ry rww c, [])

def master : Machine Clm Event Output := { step := clmStep }

/-- a successful start of the master: a valid configuration, the settings of the network interface
and the stored parameter number in `shared`, and the time of the call -/
structure MasterStart (o : Options) where
  vc : ValidConfig o
  shared : ClmShared
  config : shared.config = vc.cfg
  now : UInt32

namespace MasterStart
variable {o : Options} (st : MasterStart o)

/-- the state and the outputs of `clm_iefb_init` -/
def init : Clm × List Output := clmIefbInitGroups st.shared st.now

/-- the state and all outputs after `clm_iefb_init` and the events `es` -/
def run (es : List Event) : Clm × List Output :=
  ((master.run st.init.1 es).1, st.init.2 ++ (master.run st.init.1 es).2)

theorem run_nil : st.run [] = st.init := by
  simp only [run, Machine.run_nil, List.append_nil]

theorem run_append (a b : List Event) :
    st.run (a ++ b) = ((master.run (st.run a).1 b).1, (st.run a).2 ++ (master.run (st.run a).1 b).2) := by
  simp only [run, Machine.run_append, List.append_assoc]

end MasterStart

end CLink
