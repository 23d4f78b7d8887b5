import CLink.Common.Cyclic
import CLink.Common.Response
import CLink.Common.Timer
import CLink.Master.Config

/-!
# States, events and outputs of the master

`clm_t`, `clm_group_data_t` and `clm_slave_device_data_t` with the fields of the source.  What the
master does to its surroundings is a list of `Output`s: datagrams, calls of application callbacks
(also of callbacks the application left `NULL`), and two ghost marks, the group data at the start of
a link scan inside `sendRequest`, and the call that stores received data, `stored`.

* `GroupData.modifyDevice`   the group data with the data of one device replaced.
-/

namespace CLink

/-! ## enumerations -/

inductive GroupState where
  | masterDown
  | masterListen
  | masterArbitration
  | masterLinkScanComp
  | masterLinkScan
  deriving DecidableEq, Repr

inductive DeviceState where
  | masterDown
  | listen
  | waitTd
  | cyclicSuspend
  | cyclicSent
  | cyclicSending
  deriving DecidableEq, Repr

inductive GroupEvent where
  | none
  | startup
  | parameterChange
  | newConfig
  | arbitrationDone
  | reqFromOther
  | masterduplAlarm
  | linkscanStart
  | linkscanTimeout
  | linkscanComplete
  deriving DecidableEq, Repr

inductive DeviceEvent where
  | none
  | groupStartup
  | groupStandby
  | groupTimeout
  | groupAllResponded
  | receiveOk
  | receiveError
  | scanStartDeviceStart
  | scanStartDeviceStop
  | timeoutcounterFull
  | timeoutcounterNotFull
  | slaveDuplication
  deriving DecidableEq, Repr

/-- the simplified state reported to the application -/
inductive MasterState where
  | down
  | standby
  | arbitration
  | running
  deriving DecidableEq, Repr

inductive ErrorMessage where
  | arbitrationFailed
  | slaveDuplication
  | slaveReportsWrongNumberOccupied
  | slaveReportsMasterDuplication
  deriving DecidableEq, Repr

/-- the enumeration value, as the limiter compares it -/
def ErrorMessage.toInt : ErrorMessage → Int
  | arbitrationFailed => 0
  | slaveDuplication => 1
  | slaveReportsWrongNumberOccupied => 2
  | slaveReportsMasterDuplication => 3

/-! ## device data -/

/-- `clm_device_framevalues_t`, the stored header details of the latest frame -/
structure FrameValues where
  hasBeenReceived : Bool
  numOccupiedStations : UInt16
  protocolVer : UInt16
  endCode : UInt16
  vendorCode : UInt16
  modelCode : UInt32
  equipmentVer : UInt16
  slaveLocalUnitInfo : UInt16
  localManagementInfo : UInt32
  slaveErrCode : UInt16
  slaveId : IpAddr
  groupNo : UInt16
  frameSequenceNo : UInt16
  responseTime : UInt32
  deriving DecidableEq, Repr

def FrameValues.zero : FrameValues := ⟨false, 0, 0, 0, 0, 0, 0, 0, 0, 0, 0, 0, 0, 0⟩

/-- `clm_slave_device_time_statistics_t` -/
structure TimeStatistics where
  numberOfSamples : UInt32
  sum : UInt32
  min : UInt32
  average : UInt32
  max : UInt32
  deriving DecidableEq, Repr

/-- `clm_slave_device_statistics_t` -/
structure Statistics where
  numberOfConnects : UInt32
  numberOfDisconnects : UInt32
  numberOfTimeouts : UInt32
  numberOfSentFrames : UInt32
  numberOfIncomingFrames : UInt32
  numberOfIncomingAlarmFrames : UInt32
  numberOfIncomingInvalidFrames : UInt32
  measuredTime : TimeStatistics
  deriving DecidableEq, Repr

def Statistics.zero : Statistics := ⟨0, 0, 0, 0, 0, 0, 0, ⟨0, 0, 0, 0, 0⟩⟩

/-- `clm_slave_device_data_t`; the device index is the position in the group -/
structure SlaveDeviceData where
  enabled : Bool
  transmissionBit : Bool
  forceTransmissionBit : Bool
  timeoutCount : UInt16
  slaveStationNo : UInt16
  deviceState : DeviceState
  latestFrame : FrameValues
  statistics : Statistics
  deriving DecidableEq, Repr

/-- the cleared memory of a device -/
def SlaveDeviceData.zero : SlaveDeviceData :=
  ⟨false, false, false, 0, 0, .masterDown, .zero, .zero⟩

/-! ## group data -/

/-- `clm_group_memory_area_t` -/
structure MemoryArea where
  rx : Nat → BitArea
  ry : Nat → BitArea
  rwr : Nat → WordArea
  rww : Nat → WordArea

/-- `clm_group_data_t`; the group index is the position in `clm_t`, `sendbuf` is in `reqFrame` -/
structure GroupData where
  totalOccupied : UInt16
  frameSequenceNo : UInt16
  cyclicTransmissionState : UInt16
  timestampLinkScanStart : UInt32
  groupState : GroupState
  responseWaitTimer : Timer
  constantLinkscanTimer : Timer
  reqFrame : RequestFrame
  slaveDevices : Nat → SlaveDeviceData
  memoryArea : MemoryArea

namespace GroupData

def modifyDevice (gd : GroupData) (d : Nat) (f : SlaveDeviceData → SlaveDeviceData) : GroupData :=
  { gd with slaveDevices := Function.update gd.slaveDevices d (f (gd.slaveDevices d)) }

section
variable (gd : GroupData) (d : Nat) (f f' : SlaveDeviceData → SlaveDeviceData)

@[simp] theorem modifyDevice_self : (gd.modifyDevice d f).slaveDevices d = f (gd.slaveDevices d) :=
  Function.update_self ..

@[simp] theorem modifyDevice_of_ne {e : Nat} (h : e ≠ d) :
    (gd.modifyDevice d f).slaveDevices e = gd.slaveDevices e := Function.update_of_ne h ..

/-- the data of every device after the change of one -/
theorem modifyDevice_slaveDevices (e : Nat) :
    (gd.modifyDevice d f).slaveDevices e
      = if e = d then f (gd.slaveDevices e) else gd.slaveDevices e := by
  by_cases h : e = d
  · rw [if_pos h, h, modifyDevice_self]
  · rw [if_neg h, modifyDevice_of_ne gd d f h]

variable {f} in
/-- the change only matters at the data of the device -/
theorem modifyDevice_congr (h : f (gd.slaveDevices d) = f' (gd.slaveDevices d)) :
    gd.modifyDevice d f = gd.modifyDevice d f' := by
  simp only [modifyDevice, h]

@[simp] theorem modifyDevice_modifyDevice :
    (gd.modifyDevice d f).modifyDevice d f' = gd.modifyDevice d (fun x => f' (f x)) := by
  simp [modifyDevice]

@[simp] theorem modifyDevice_id : gd.modifyDevice d (fun x => x) = gd := by
  simp [modifyDevice]

@[simp] theorem modifyDevice_totalOccupied :
    (gd.modifyDevice d f).totalOccupied = gd.totalOccupied := rfl
@[simp] theorem modifyDevice_frameSequenceNo :
    (gd.modifyDevice d f).frameSequenceNo = gd.frameSequenceNo := rfl
@[simp] theorem modifyDevice_cyclicTransmissionState :
    (gd.modifyDevice d f).cyclicTransmissionState = gd.cyclicTransmissionState := rfl
@[simp] theorem modifyDevice_timestampLinkScanStart :
    (gd.modifyDevice d f).timestampLinkScanStart = gd.timestampLinkScanStart := rfl
@[simp] theorem modifyDevice_groupState : (gd.modifyDevice d f).groupState = gd.groupState := rfl
@[simp] theorem modifyDevice_responseWaitTimer :
    (gd.modifyDevice d f).responseWaitTimer = gd.responseWaitTimer := rfl
@[simp] theorem modifyDevice_constantLinkscanTimer :
    (gd.modifyDevice d f).constantLinkscanTimer = gd.constantLinkscanTimer := rfl
@[simp] theorem modifyDevice_reqFrame : (gd.modifyDevice d f).reqFrame = gd.reqFrame := rfl
@[simp] theorem modifyDevice_memoryArea : (gd.modifyDevice d f).memoryArea = gd.memoryArea := rfl

end

end GroupData

/-! ## outputs and events -/

inductive Output where
  /-- `clal_udp_sendto` of a request, with the group data at the start of the link scan -/
  | sendRequest (g : Nat) (start : GroupData) (destIp : IpAddr) (destPort : UInt16)
      (payload : Datagram)
  /-- the call of `clm_iefb_store_incoming_cyclic_data` -/
  | stored (g d : Nat) (response : CyclicResponse) (valid : Bool)
  | stateCb (state : MasterState)
  | linkscanCb (g : Nat) (success : Bool)
  | errorCb (message : ErrorMessage) (ipAddr : IpAddr) (argument2 : UInt16)
  | connectCb (g d : Nat) (slaveId : IpAddr)
  | disconnectCb (g d : Nat) (slaveId : IpAddr)
  | slaveinfoCb (g d : Nat) (endCode slaveErrCode : UInt16) (localManagementInfo : UInt32)
  | alarmCb (g d : Nat) (endCode slaveErrCode : UInt16) (localManagementInfo : UInt32)
  | saveParameterNo (parameterNo : UInt16)

/-- what can happen to an initialised master; `unixMs g` is the clock reading of
`clal_get_unix_timestamp_ms` when group `g` starts a link scan -/
inductive Event where
  /-- `clm_iefb_periodic` up to the reception of frames -/
  | tick (now : UInt32) (unixMs : Nat → UInt64)
  /-- `clm_iefb_handle_input_frame` -/
  | frame (now : UInt32) (unixMs : Nat → UInt64) (dg : Datagram) (remoteIp : IpAddr)
      (remotePort : UInt16)
  | setSlaveCommunicationStatus (g d : Nat) (enabled : Bool)
  | forceCyclicTransmissionBit (g d : Nat) (force : Bool)
  | statisticsClearAll
  | setMasterApplicationStatus (running stoppedByUser : Bool)
  /-- the application writes to the RY and RWw areas of a group -/
  | writeMemoryArea (g : Nat) (ry : Nat → BitArea) (rww : Nat → WordArea)

/-- the fields of `clm_t` outside the groups -/
structure ClmShared where
  config : Config
  iefbBroadcastIp : IpAddr
  latestConflictingMasterIp : IpAddr
  masterState : MasterState
  parameterNo : UInt16
  masterLocalUnitInfo : UInt16
  arbitrationTimer : Timer
  errorlimiter : Limiter

/-- `clm_t`; after a failing `CC_ASSERT` the program has ended -/
structure Clm where
  shared : ClmShared
  groups : Nat → GroupData
  aborted : Bool

end CLink
