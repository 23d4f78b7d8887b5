import CLink.Lib.Loop
import CLink.Lib.Machine
import CLink.Slave.State

/-!
# The slave state machine

`transitions` of `cls_iefb.c` with its actions, and the functions that these use.

* `clsIefbCopyCyclicDataFromRequest`   the own slice of a request;
* `clsIefbSendCyclicResponseFrame`     the only place that sends;
* `clsIefbHandleMasterStateCallback`   the only place that reports the state of the master;
* `clsIefbFsmEvent`                    the event loop;
* `clsIefbFsmEvent_fuel`               two rounds are enough for it to end;
* `clsIefbFsmEvent_..`                 what each event does in the states that have a row for it,
                                       without the loop.
-/

namespace CLink
open Loop

/-- the slave while a call runs, and the outputs so far -/
structure ClsScope where
  cls : Cls
  out : List ClsOutput

def ClsScope.emit (s : ClsScope) (x : ClsOutput) : ClsScope := { s with out := s.out ++ [x] }

/-- a failing `CC_ASSERT` -/
def ClsScope.abort (s : ClsScope) : ClsScope := { s with cls := { s.cls with aborted := true } }

/-! ## fields of a request -/

namespace CyclicRequest
variable (r : CyclicRequest)

def masterId : IpAddr := r.fullHeaders.cyclicDataHeader.masterId
def groupNo : UInt16 := r.fullHeaders.cyclicDataHeader.groupNo.toUInt16
def parameterNo : UInt16 := r.fullHeaders.cyclicDataHeader.parameterNo
def frameSequenceNo : UInt16 := r.fullHeaders.cyclicDataHeader.frameSequenceNo
def totalOccupied : UInt16 := r.fullHeaders.cyclicDataHeader.slaveTotalOccupiedStationCount
def transmissionStates : UInt16 := r.fullHeaders.cyclicDataHeader.cyclicTransmissionState
def clockInfo : UInt64 := r.fullHeaders.masterStationNotification.clockInfo
def masterLocalUnitInfo : UInt16 := r.fullHeaders.masterStationNotification.masterLocalUnitInfo
def protocolVer : UInt16 := r.fullHeaders.cyclicHeader.protocolVer

end CyclicRequest

/-! ## helpers -/

def clsIefbLogWarningOnce (message : LogwarningMessage) (now : UInt32) (s : ClsScope) : ClsScope :=
  { s with cls := { s.cls with
      loglimiter := (clLimiterShouldRunNow s.cls.loglimiter message.toInt now).2 } }

def clsIefbTriggerErrorCallback (now : UInt32) (message : ClsErrorMessage) (ipAddr : IpAddr)
    (argument2 : UInt16) (s : ClsScope) : ClsScope :=
  let r := clLimiterShouldRunNow s.cls.errorlimiter message.toInt now
  let s := { s with cls := { s.cls with errorlimiter := r.2 } }
  if r.1 then s.emit (.errorCb message ipAddr argument2) else s

/-- the stored data after the copy, `none` is `return -1` -/
def clsIefbCopyCyclicDataFromRequest (c : Cls) (request : CyclicRequest) (startNumber : UInt16)
    (transmissionBit : Bool) : Option ClsMemoryArea :=
  let numOccupiedStations := c.config.numOccupiedStations
  let endNumber := startNumber + numOccupiedStations - 1
  let totalOccupied := request.totalOccupied
  if totalOccupied = 0 ∨ totalOccupied > maxOccupiedStationsPerGroup
      ∨ totalOccupied < numOccupiedStations then none
  else if startNumber = 0 ∨ startNumber > maxOccupiedStationsPerGroup then none
  else if endNumber > maxOccupiedStationsPerGroup ∨ endNumber > totalOccupied then none
  else
    match clIefbRequestGetRy request startNumber, clIefbRequestGetRww request startNumber with
    | some ourFirstRequestRy, some ourFirstRequestRww =>
      let n := numOccupiedStations.toNat
      if transmissionBit then
        some { ry := blit c.cyclicDataArea.ry ourFirstRequestRy 0 n
               rww := blit c.cyclicDataArea.rww ourFirstRequestRww 0 n }
      else
        some { ry := blit c.cyclicDataArea.ry (fun _ => .zero) 0 n
               rww := blit c.cyclicDataArea.rww (fun _ => .zero) 0 n }
    | _, _ => none

/-- the frame as `cl_iefb_update_cyclic_response_frame` leaves it -/
def responseToSend (c : Cls) (frameSequenceNo groupNo : UInt16) (includeData : Bool)
    (endCode : UInt16) (slaveIpAddr : IpAddr) : ResponseFrame :=
  clIefbUpdateCyclicResponseFrame
    (if includeData then c.cciefbRespFrameNormal else c.cciefbRespFrameError) slaveIpAddr endCode
    groupNo frameSequenceNo c.slaveApplicationStatus.toUInt16 c.slaveErrCode c.localManagementInfo

def clsIefbSendCyclicResponseFrame (frameSequenceNo groupNo : UInt16) (includeData : Bool)
    (endCode : UInt16) (remoteIp : IpAddr) (remotePort : UInt16) (slaveIpAddr : IpAddr)
    (s : ClsScope) : ClsScope :=
  if ¬ clIsSlaveEndcodeValid endCode then s.abort
  else
    let frame := responseToSend s.cls frameSequenceNo groupNo includeData endCode slaveIpAddr
    { cls :=
        if includeData then { s.cls with cciefbRespFrameNormal := frame }
        else { s.cls with cciefbRespFrameError := frame }
      out := s.out ++ [.sendResponse remoteIp remotePort frame.datagram] }

def clsIefbSendCyclicResponseErrorFrame (request : CyclicRequest) (endCode : UInt16)
    (s : ClsScope) : ClsScope :=
  clsIefbSendCyclicResponseFrame request.frameSequenceNo request.groupNo false endCode
    request.remoteIp request.remotePort request.slaveIpAddr s

def clsIefbIsMasterIdCorrect (c : Cls) (masterId : IpAddr) : Bool :=
  if c.master.masterId = ipaddrInvalid then false else masterId = c.master.masterId

def clsIefbShouldTriggerMasterStateCallback (executedBefore connectedToMaster
    previousConnectedToMaster : Bool) (protocolVer previousProtocolVer masterApplicationStatus
    previousMasterApplicationStatus : UInt16) : Bool :=
  if executedBefore = false then true
  else if connectedToMaster ≠ previousConnectedToMaster then true
  else if protocolVer ≠ previousProtocolVer then true
  else if masterApplicationStatus ≠ previousMasterApplicationStatus then true
  else false

/-- the callback with its filtered values -/
def clsIefbFilterMasterStateCallbackValues (connectedToMaster : Bool)
    (protocolVer masterApplicationStatus : UInt16) : ClsOutput :=
  if connectedToMaster = false then .masterRunningCb connectedToMaster false false 0 0
  else
    let running : Bool := masterApplicationStatus &&& 1 ≠ 0
    let stoppedByUser : Bool :=
      if protocolVer > 1 ∧ running = false then masterApplicationStatus &&& 2 ≠ 0 else false
    .masterRunningCb connectedToMaster running stoppedByUser protocolVer masterApplicationStatus

def clsIefbHandleMasterStateCallback (connectedToMaster : Bool)
    (protocolVer masterApplicationStatus : UInt16) (s : ClsScope) : ClsScope :=
  let previous := s.cls.triggerData
  let s :=
    if clsIefbShouldTriggerMasterStateCallback previous.executedBefore connectedToMaster
        previous.previousConnectedToMaster protocolVer previous.previousProtocolVer
        masterApplicationStatus previous.previousMasterApplicationStatus then
      s.emit (clsIefbFilterMasterStateCallbackValues connectedToMaster protocolVer
        masterApplicationStatus)
    else s
  { s with cls := { s.cls with triggerData :=
      { executedBefore := true, previousConnectedToMaster := connectedToMaster
        previousProtocolVer := protocolVer
        previousMasterApplicationStatus := masterApplicationStatus } } }

def clsIefbClearMasterInfo (s : ClsScope) : ClsScope :=
  clsIefbHandleMasterStateCallback false 0 0 { s with cls := { s.cls with
    master := .zero
    receiveTimer := clTimerStop s.cls.receiveTimer
    timerForDisablingSlave := clTimerStop s.cls.timerForDisablingSlave } }

/-! ## actions -/

inductive SlaveAction where
  | slaveInit
  | handleNewOrUpdatedMaster
  | handleWrongStationcount
  | handleWrongMaster
  | handleCyclicEvent
  | handleIncomingWhenDisabled
  | logTimeoutMaster
  | logIpAddrUpdated
  | logSlaveDisabled
  | logSlaveReenabled
  | onEntryMasterNone
  | onExitMasterControl
  | onEntryWaitDisablingSlave
  | onEntrySlaveDisabled
  deriving DecidableEq, Repr

def clsIefbSlaveInit (s : ClsScope) : ClsScope × SlaveEvent :=
  let s := { s with cls := { s.cls with
    receiveTimer := clTimerStop s.cls.receiveTimer
    timerForDisablingSlave := clTimerStop s.cls.timerForDisablingSlave
    cyclicDataArea := .zero
    triggerData := .zero } }
  let s := clsIefbClearMasterInfo s
  let frame := clIefbInitialiseCyclicResponseFrame s.cls.config.numOccupiedStations
    s.cls.config.vendorCode s.cls.config.modelCode s.cls.config.equipmentVer
  ({ s with cls := { s.cls with
      slaveApplicationStatus := .operating
      localManagementInfo := defaultLocalManagInfo
      slaveErrCode := defaultSlaveErrCode
      endcodeSlaveDisabled := endcodeSlaveRequestsDisconnect
      cciefbRespFrameNormal := frame
      cciefbRespFrameError := frame } }, .none)

def clsIefbHandleWrongMaster (now : UInt32) (request : CyclicRequest) (s : ClsScope) :
    ClsScope × SlaveEvent :=
  let s := clsIefbLogWarningOnce .masterDuplication now s
  let s := clsIefbTriggerErrorCallback now .masterStationDuplication request.masterId 0 s
  (clsIefbSendCyclicResponseErrorFrame request endcodeMasterDuplication s, .none)

def clsIefbHandleWrongStationcount (request : CyclicRequest) (s : ClsScope) :
    ClsScope × SlaveEvent :=
  (clsIefbSendCyclicResponseErrorFrame request endcodeWrongNumberOccupiedStations s, .none)

def clsIefbHandleIncomingWhenDisabled (request : CyclicRequest) (s : ClsScope) :
    ClsScope × SlaveEvent :=
  (clsIefbSendCyclicResponseErrorFrame request s.cls.endcodeSlaveDisabled s, .none)

/-- the connection data that a request carries; the station number has been stored before -/
def MasterConnection.update (master : MasterConnection) (request : CyclicRequest) :
    MasterConnection :=
  { master with
    masterId := request.masterId
    parameterNo := request.parameterNo
    groupNo := request.groupNo
    timeoutValue := request.fullHeaders.cyclicDataHeader.timeoutValue
    parallelOffTimeoutCount := request.fullHeaders.cyclicDataHeader.parallelOffTimeoutCount
    totalOccupiedStationCount := request.totalOccupied
    clockInfo := request.clockInfo
    clockInfoValid := request.clockInfo ≠ 0
    protocolVer := request.protocolVer }

def clsIefbHandleNewOrUpdatedMaster (now : UInt32) (request : CyclicRequest) (s : ClsScope) :
    ClsScope × SlaveEvent :=
  let master := s.cls.master.update request
  let period := clCalculateTotalTimeoutUs master.timeoutValue master.parallelOffTimeoutCount
  let s := { s with cls := { s.cls with
    master := master
    receiveTimer := clTimerStart s.cls.receiveTimer period.toUInt32 now } }
  let s := s.emit (.connectCb master.masterId master.groupNo master.slaveStationNo)
  (clsIefbHandleMasterStateCallback true request.protocolVer request.masterLocalUnitInfo s,
    .cyclicCorrectMaster)

/-- the transmission bit of the own station -/
def clsTransmissionBit (c : Cls) (request : CyclicRequest) : Bool :=
  clIefbExtractMyTransmissionState request.transmissionStates c.master.slaveStationNo

/-- the copied data and the clock of the master -/
def ClsScope.storeCyclicData (s : ClsScope) (request : CyclicRequest)
    (cyclicDataArea : ClsMemoryArea) : ClsScope :=
  { s with cls := { s.cls with
      cyclicDataArea := cyclicDataArea
      master := { s.cls.master with
        clockInfo := request.clockInfo
        clockInfoValid := request.clockInfo ≠ 0 } } }

/-- `cls_iefb_handle_cyclic_event` once the data is stored -/
def answerRequest (now : UInt32) (request : CyclicRequest) (transmissionBit : Bool) (s : ClsScope) :
    ClsScope :=
  let s := clsIefbHandleMasterStateCallback true request.protocolVer request.masterLocalUnitInfo s
  let s := clsIefbSendCyclicResponseFrame request.frameSequenceNo request.groupNo transmissionBit
    endcodeSuccess request.remoteIp request.remotePort request.slaveIpAddr s
  { s with cls := { s.cls with receiveTimer := clTimerRestart s.cls.receiveTimer now } }

def clsIefbHandleCyclicEvent (now : UInt32) (request : CyclicRequest) (s : ClsScope) :
    ClsScope × SlaveEvent :=
  let transmissionBit := clsTransmissionBit s.cls request
  match clsIefbCopyCyclicDataFromRequest s.cls request s.cls.master.slaveStationNo
      transmissionBit with
  | none => (s, .none)
  | some cyclicDataArea =>
    (answerRequest now request transmissionBit (s.storeCyclicData request cyclicDataArea), .none)

abbrev waitTimeDisableSlave : UInt32 := 2500000

def clsIefbOnEntryWaitDisablingSlave (now : UInt32) (s : ClsScope) : ClsScope :=
  let s := clsIefbClearMasterInfo s
  let timer := clTimerStart s.cls.timerForDisablingSlave waitTimeDisableSlave now
  { s with cls := { s.cls with timerForDisablingSlave := timer } }

def clsIefbOnEntrySlaveDisabled (s : ClsScope) : ClsScope :=
  { s with cls := { s.cls with
      timerForDisablingSlave := clTimerStop s.cls.timerForDisablingSlave } }

/-- the scope after the action and the next event; the actions that need a request return at once
without one -/
def SlaveAction.perform (now : UInt32) (request : Option CyclicRequest) (s : ClsScope) :
    SlaveAction → ClsScope × SlaveEvent
  | slaveInit => clsIefbSlaveInit s
  | handleNewOrUpdatedMaster =>
    match request with
    | none => (s, .none)
    | some request => clsIefbHandleNewOrUpdatedMaster now request s
  | handleWrongStationcount =>
    match request with
    | none => (s, .none)
    | some request => clsIefbHandleWrongStationcount request s
  | handleWrongMaster =>
    match request with
    | none => (s, .none)
    | some request => clsIefbHandleWrongMaster now request s
  | handleCyclicEvent =>
    match request with
    | none => (s, .none)
    | some request => clsIefbHandleCyclicEvent now request s
  | handleIncomingWhenDisabled =>
    match request with
    | none => (s, .none)
    | some request => clsIefbHandleIncomingWhenDisabled request s
  -- these only write to the log
  | logTimeoutMaster => (s, .none)
  | logIpAddrUpdated => (s, .none)
  | logSlaveDisabled => (s, .none)
  | logSlaveReenabled => (s, .none)
  | onEntryMasterNone => (clsIefbClearMasterInfo s, .none)
  | onExitMasterControl => (s.emit .disconnectCb, .none)
  | onEntryWaitDisablingSlave => (clsIefbOnEntryWaitDisablingSlave now s, .none)
  | onEntrySlaveDisabled => (clsIefbOnEntrySlaveDisabled s, .none)

/-! ## the tables -/

def transitions : List (Table.Row SlaveState SlaveEvent SlaveAction) :=
  [ ⟨.slaveDown, .startup, .masterNone, some .slaveInit⟩,
    ⟨.masterNone, .cyclicNewMaster, .masterControl, some .handleNewOrUpdatedMaster⟩,
    ⟨.masterNone, .cyclicWrongStationcount, .masterNone, some .handleWrongStationcount⟩,
    ⟨.masterNone, .disableSlave, .slaveDisabled, some .logSlaveDisabled⟩,
    ⟨.masterControl, .cyclicCorrectMaster, .masterControl, some .handleCyclicEvent⟩,
    ⟨.masterControl, .cyclicWrongMaster, .masterControl, some .handleWrongMaster⟩,
    ⟨.masterControl, .cyclicNewMaster, .masterControl, some .handleNewOrUpdatedMaster⟩,
    ⟨.masterControl, .cyclicWrongStationcount, .masterNone, some .handleWrongStationcount⟩,
    ⟨.masterControl, .timeoutMaster, .masterNone, some .logTimeoutMaster⟩,
    ⟨.masterControl, .ipUpdated, .masterNone, some .logIpAddrUpdated⟩,
    ⟨.masterControl, .disableSlave, .waitDisablingSlave, some .logSlaveDisabled⟩,
    ⟨.waitDisablingSlave, .reenableSlave, .masterNone, some .logSlaveReenabled⟩,
    ⟨.waitDisablingSlave, .cyclicIncomingWhenDisabled, .waitDisablingSlave,
      some .handleIncomingWhenDisabled⟩,
    ⟨.waitDisablingSlave, .disableSlaveWaitEnded, .slaveDisabled, none⟩,
    ⟨.waitDisablingSlave, .ipUpdated, .slaveDisabled, some .logIpAddrUpdated⟩,
    ⟨.slaveDisabled, .reenableSlave, .masterNone, some .logSlaveReenabled⟩ ]

/-- the table filled by `cls_fsm_init` -/
def slaveFsmMatrix : SlaveState → SlaveEvent → SlaveState × Option SlaveAction :=
  Table.fill transitions

/-- the entry column of `state_actions` -/
def slaveOnEntry : SlaveState → Option SlaveAction
  | .masterNone => some .onEntryMasterNone
  | .waitDisablingSlave => some .onEntryWaitDisablingSlave
  | .slaveDisabled => some .onEntrySlaveDisabled
  | _ => none

/-- the exit column of `state_actions` -/
def slaveOnExit : SlaveState → Option SlaveAction
  | .masterControl => some .onExitMasterControl
  | _ => none

/-! ## the event loop -/

/-- an action of the tables, if there is one -/
def performOption (now : UInt32) (request : Option CyclicRequest) (action : Option SlaveAction)
    (s : ClsScope) : ClsScope × SlaveEvent :=
  match action with
  | none => (s, .none)
  | some action => action.perform now request s

/-- one round of the loop of `cls_iefb_fsm_event` -/
def slaveFsmRound (now : UInt32) (request : Option CyclicRequest) (event : SlaveEvent)
    (s : ClsScope) : SlaveEvent × ClsScope :=
  let previous := s.cls.state
  let element := slaveFsmMatrix previous event
  let changes : Bool := element.1 ≠ previous
  let s := if changes then (performOption now request (slaveOnExit previous) s).1 else s
  let r := performOption now request element.2 { s with cls := { s.cls with state := element.1 } }
  let s := if changes then (performOption now request (slaveOnEntry element.1) r.1).1 else r.1
  (r.2, if changes then s.emit (.stateCb element.1) else s)

def clsIefbFsmEvent (now : UInt32) (request : Option CyclicRequest) (event : SlaveEvent)
    (s : ClsScope) : ClsScope :=
  drive (slaveFsmRound now request) .none 2 event s

/-! ## rounds without the loop -/

section
variable (now : UInt32) (request : Option CyclicRequest) {event : SlaveEvent} {s : ClsScope}
  {next : SlaveState} {a : Option SlaveAction}

/-- the scope with the new state, after the exit action of the old one -/
def ClsScope.leaveFor (s : ClsScope) (next : SlaveState) : ClsScope :=
  let t := if s.cls.state = .masterControl then s.emit .disconnectCb else s
  { t with cls := { t.cls with state := next } }

theorem slaveFsmRound_stay (hm : slaveFsmMatrix s.cls.state event = (s.cls.state, a)) :
    slaveFsmRound now request event s
      = ((performOption now request a s).2, (performOption now request a s).1) := by
  simp [slaveFsmRound, hm]

theorem slaveFsmRound_change (hm : slaveFsmMatrix s.cls.state event = (next, a))
    (hne : next ≠ s.cls.state) :
    slaveFsmRound now request event s
      = ((performOption now request a (s.leaveFor next)).2,
        ((performOption now request (slaveOnEntry next)
          (performOption now request a (s.leaveFor next)).1).1).emit (.stateCb next)) := by
  have hexit : (performOption now request (slaveOnExit s.cls.state) s).1
      = if s.cls.state = .masterControl then s.emit .disconnectCb else s := by
    cases s.cls.state <;> rfl
  simp [slaveFsmRound, hm, hne, hexit, ClsScope.leaveFor]

/-- a round that ends the loop -/
theorem clsIefbFsmEvent_end (h : (slaveFsmRound now request event s).1 = .none) :
    clsIefbFsmEvent now request event s = (slaveFsmRound now request event s).2 := by
  simp only [clsIefbFsmEvent, drive_succ, h, if_true]

theorem clsIefbFsmEvent_stay (hm : slaveFsmMatrix s.cls.state event = (s.cls.state, a))
    (h : (performOption now request a s).2 = .none) :
    clsIefbFsmEvent now request event s = (performOption now request a s).1 := by
  have hr := slaveFsmRound_stay now request hm
  rw [clsIefbFsmEvent_end now request (by rw [hr, h]), hr]

theorem clsIefbFsmEvent_change (hm : slaveFsmMatrix s.cls.state event = (next, a))
    (hne : next ≠ s.cls.state) (h : (performOption now request a (s.leaveFor next)).2 = .none) :
    clsIefbFsmEvent now request event s
      = ((performOption now request (slaveOnEntry next)
          (performOption now request a (s.leaveFor next)).1).1).emit (.stateCb next) := by
  have hr := slaveFsmRound_change now request hm hne
  rw [clsIefbFsmEvent_end now request (by rw [hr, h]), hr]

end

/-! ## the event loop ends -/

section
variable (now : UInt32) (request : Option CyclicRequest)

theorem clsIefbHandleCyclicEvent_event (request : CyclicRequest) (s : ClsScope) :
    (clsIefbHandleCyclicEvent now request s).2 = .none := by
  unfold clsIefbHandleCyclicEvent
  simp only
  split <;> rfl

/-- only a new master leads to a further event -/
theorem performOption_event (action : Option SlaveAction) (s : ClsScope)
    (h : (performOption now request action s).2 ≠ .none) :
    action = some .handleNewOrUpdatedMaster
      ∧ (performOption now request action s).2 = .cyclicCorrectMaster := by
  cases action with
  | none => exact absurd rfl h
  | some action =>
    cases action <;> cases request <;>
      first
      | exact absurd rfl h
      | exact ⟨rfl, rfl⟩
      | exact absurd (clsIefbHandleCyclicEvent_event now _ s) h

theorem slaveFsmMatrix_newMaster {state : SlaveState} {event : SlaveEvent}
    (h : (slaveFsmMatrix state event).2 = some .handleNewOrUpdatedMaster) :
    event = .cyclicNewMaster := by
  revert h
  cases state <;> cases event <;> decide

theorem slaveFsmRound_event {event : SlaveEvent} {s : ClsScope}
    (h : (slaveFsmRound now request event s).1 ≠ .none) :
    event = .cyclicNewMaster ∧ (slaveFsmRound now request event s).1 = .cyclicCorrectMaster := by
  obtain ⟨haction, hevent⟩ := performOption_event now request _ _ h
  exact ⟨slaveFsmMatrix_newMaster haction, hevent⟩

theorem clsIefbFsmEvent_fuel {n : Nat} (hn : 2 ≤ n) (event : SlaveEvent) (s : ClsScope) :
    clsIefbFsmEvent now request event s
      = drive (slaveFsmRound now request) .none n event s := by
  refine drive_fuel (slaveFsmRound now request) .none
    (fun e => if e = .cyclicNewMaster then 1 else 0) ?_ 2 n event s ?_ ?_
  · intro e t h
    obtain ⟨he, hnext⟩ := slaveFsmRound_event now request h
    rw [hnext, he]
    decide
  · split <;> omega
  · split <;> omega

end

/-- without a request the loop ends after one round -/
theorem clsIefbFsmEvent_noRequest (now : UInt32) (event : SlaveEvent) (s : ClsScope) :
    clsIefbFsmEvent now none event s = (slaveFsmRound now none event s).2 := by
  refine clsIefbFsmEvent_end now none ?_
  by_contra h
  obtain ⟨haction, hevent⟩ := performOption_event now none _ _ h
  have hnone : (slaveFsmRound now none event s).1 = .none := by
    show (performOption now none (slaveFsmMatrix s.cls.state event).2 _).2 = _
    rw [haction]
    rfl
  exact h hnone

/-! ## the events -/

section
variable (now : UInt32) (request : CyclicRequest) {s : ClsScope}

theorem clsIefbFsmEvent_wrongMaster (h : s.cls.state = .masterControl) :
    clsIefbFsmEvent now (some request) .cyclicWrongMaster s
      = (clsIefbHandleWrongMaster now request s).1 :=
  clsIefbFsmEvent_stay now _ (a := some .handleWrongMaster) (by rw [h]; rfl) rfl

theorem clsIefbFsmEvent_correctMaster (h : s.cls.state = .masterControl) :
    clsIefbFsmEvent now (some request) .cyclicCorrectMaster s
      = (clsIefbHandleCyclicEvent now request s).1 :=
  clsIefbFsmEvent_stay now _ (a := some .handleCyclicEvent) (by rw [h]; rfl)
    (clsIefbHandleCyclicEvent_event now request s)

theorem clsIefbFsmEvent_incomingWhenDisabled (h : s.cls.state = .waitDisablingSlave) :
    clsIefbFsmEvent now (some request) .cyclicIncomingWhenDisabled s
      = (clsIefbHandleIncomingWhenDisabled request s).1 :=
  clsIefbFsmEvent_stay now _ (a := some .handleIncomingWhenDisabled) (by rw [h]; rfl) rfl

/-- the state of a slave while a new master is handled -/
theorem clsIefbHandleNewOrUpdatedMaster_state :
    (clsIefbHandleNewOrUpdatedMaster now request s).1.cls.state = s.cls.state := by
  unfold clsIefbHandleNewOrUpdatedMaster clsIefbHandleMasterStateCallback
  simp only
  split <;> rfl

/-- the chained event: the new master first, then its cyclic data -/
theorem clsIefbFsmEvent_newMaster {t : ClsScope} (ht : t.cls.state = .masterControl)
    (hr : slaveFsmRound now (some request) .cyclicNewMaster s = (.cyclicCorrectMaster, t)) :
    clsIefbFsmEvent now (some request) .cyclicNewMaster s
      = (clsIefbHandleCyclicEvent now request t).1 := by
  have hrow : slaveFsmMatrix t.cls.state .cyclicCorrectMaster
      = (t.cls.state, some .handleCyclicEvent) := by
    rw [ht]
    rfl
  have hsecond := slaveFsmRound_stay now (some request) hrow
  have hend : (slaveFsmRound now (some request) .cyclicCorrectMaster t).1 = .none := by
    rw [hsecond]
    exact clsIefbHandleCyclicEvent_event now request t
  unfold clsIefbFsmEvent
  rw [drive_succ, hr, if_neg SlaveEvent.noConfusion, drive_succ, if_pos hend, hsecond]
  rfl

theorem clsIefbFsmEvent_newMaster_control (h : s.cls.state = .masterControl) :
    clsIefbFsmEvent now (some request) .cyclicNewMaster s
      = (clsIefbHandleCyclicEvent now request
          (clsIefbHandleNewOrUpdatedMaster now request s).1).1 := by
  refine clsIefbFsmEvent_newMaster now request ?_ ?_
  · rw [clsIefbHandleNewOrUpdatedMaster_state, h]
  · exact slaveFsmRound_stay now _ (a := some .handleNewOrUpdatedMaster) (by rw [h]; rfl)

theorem clsIefbFsmEvent_newMaster_none (h : s.cls.state = .masterNone) :
    clsIefbFsmEvent now (some request) .cyclicNewMaster s
      = (clsIefbHandleCyclicEvent now request
          ((clsIefbHandleNewOrUpdatedMaster now request (s.leaveFor .masterControl)).1.emit
            (.stateCb .masterControl))).1 := by
  refine clsIefbFsmEvent_newMaster now request ?_ ?_
  · show (clsIefbHandleNewOrUpdatedMaster now request _).1.cls.state = _
    rw [clsIefbHandleNewOrUpdatedMaster_state]
    rfl
  · have hm : slaveFsmMatrix s.cls.state .cyclicNewMaster
        = (.masterControl, some .handleNewOrUpdatedMaster) := by rw [h]; rfl
    exact slaveFsmRound_change now _ hm (by rw [h]; decide)

theorem clsIefbFsmEvent_wrongStationcount_none (h : s.cls.state = .masterNone) :
    clsIefbFsmEvent now (some request) .cyclicWrongStationcount s
      = (clsIefbHandleWrongStationcount request s).1 :=
  clsIefbFsmEvent_stay now _ (a := some .handleWrongStationcount) (by rw [h]; rfl) rfl

theorem clsIefbFsmEvent_wrongStationcount_control (h : s.cls.state = .masterControl) :
    clsIefbFsmEvent now (some request) .cyclicWrongStationcount s
      = (clsIefbClearMasterInfo (clsIefbHandleWrongStationcount request
          (s.leaveFor .masterNone)).1).emit (.stateCb .masterNone) := by
  have hm : slaveFsmMatrix s.cls.state .cyclicWrongStationcount
      = (.masterNone, some .handleWrongStationcount) := by rw [h]; rfl
  exact clsIefbFsmEvent_change now _ hm (by rw [h]; decide) rfl

end

section
variable (now : UInt32) (request : Option CyclicRequest) {s : ClsScope}

/-- an event without a row -/
theorem clsIefbFsmEvent_idle {event : SlaveEvent}
    (hm : slaveFsmMatrix s.cls.state event = (s.cls.state, none)) :
    clsIefbFsmEvent now request event s = s :=
  clsIefbFsmEvent_stay now request hm rfl

/-- a transition to `MASTER_NONE` with nothing but a line in the log -/
theorem clsIefbFsmEvent_toMasterNone {event : SlaveEvent} {a : SlaveAction}
    (hm : slaveFsmMatrix s.cls.state event = (.masterNone, some a))
    (hne : .masterNone ≠ s.cls.state) (ha : ∀ t, a.perform now request t = (t, .none)) :
    clsIefbFsmEvent now request event s
      = (clsIefbClearMasterInfo (s.leaveFor .masterNone)).emit (.stateCb .masterNone) := by
  have hp : performOption now request (some a) (s.leaveFor .masterNone)
      = (s.leaveFor .masterNone, .none) := ha _
  rw [clsIefbFsmEvent_change now request hm hne (by rw [hp]), hp]
  rfl

theorem clsIefbFsmEvent_timeoutMaster (h : s.cls.state = .masterControl) :
    clsIefbFsmEvent now request .timeoutMaster s
      = (clsIefbClearMasterInfo (s.leaveFor .masterNone)).emit (.stateCb .masterNone) :=
  clsIefbFsmEvent_toMasterNone now request (a := .logTimeoutMaster) (by rw [h]; rfl)
    (by rw [h]; decide) (fun _ => rfl)

theorem clsIefbFsmEvent_reenableSlave
    (h : s.cls.state = .waitDisablingSlave ∨ s.cls.state = .slaveDisabled) :
    clsIefbFsmEvent now request .reenableSlave s
      = (clsIefbClearMasterInfo (s.leaveFor .masterNone)).emit (.stateCb .masterNone) := by
  rcases h with h | h
  · exact clsIefbFsmEvent_toMasterNone now request (a := .logSlaveReenabled) (by rw [h]; rfl)
      (by rw [h]; decide) (fun _ => rfl)
  · exact clsIefbFsmEvent_toMasterNone now request (a := .logSlaveReenabled) (by rw [h]; rfl)
      (by rw [h]; decide) (fun _ => rfl)

theorem clsIefbFsmEvent_disableSlave_control (h : s.cls.state = .masterControl) :
    clsIefbFsmEvent now request .disableSlave s
      = (clsIefbOnEntryWaitDisablingSlave now (s.leaveFor .waitDisablingSlave)).emit
          (.stateCb .waitDisablingSlave) := by
  have hm : slaveFsmMatrix s.cls.state .disableSlave
      = (.waitDisablingSlave, some .logSlaveDisabled) := by rw [h]; rfl
  exact clsIefbFsmEvent_change now _ hm (by rw [h]; decide) rfl

theorem clsIefbFsmEvent_disableSlave_none (h : s.cls.state = .masterNone) :
    clsIefbFsmEvent now request .disableSlave s
      = (clsIefbOnEntrySlaveDisabled (s.leaveFor .slaveDisabled)).emit
          (.stateCb .slaveDisabled) := by
  have hm : slaveFsmMatrix s.cls.state .disableSlave
      = (.slaveDisabled, some .logSlaveDisabled) := by rw [h]; rfl
  exact clsIefbFsmEvent_change now _ hm (by rw [h]; decide) rfl

theorem clsIefbFsmEvent_disableSlaveWaitEnded (h : s.cls.state = .waitDisablingSlave) :
    clsIefbFsmEvent now request .disableSlaveWaitEnded s
      = (clsIefbOnEntrySlaveDisabled (s.leaveFor .slaveDisabled)).emit
          (.stateCb .slaveDisabled) := by
  have hm : slaveFsmMatrix s.cls.state .disableSlaveWaitEnded = (.slaveDisabled, none) := by
    rw [h]
    rfl
  exact clsIefbFsmEvent_change now _ hm (by rw [h]; decide) rfl

theorem clsIefbFsmEvent_startup (h : s.cls.state = .slaveDown) :
    clsIefbFsmEvent now request .startup s
      = (clsIefbClearMasterInfo (clsIefbSlaveInit (s.leaveFor .masterNone)).1).emit
          (.stateCb .masterNone) := by
  have hm : slaveFsmMatrix s.cls.state .startup = (.masterNone, some .slaveInit) := by
    rw [h]
    rfl
  exact clsIefbFsmEvent_change now _ hm (by rw [h]; decide) rfl

end

end CLink
