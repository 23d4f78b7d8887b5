import CLink.Common.Cyclic
import CLink.Common.Response
import CLink.Common.Timer

/-!
# States, events and outputs of the slave

`cls_t` with the fields of the source, the slave configuration and its validation.  What the slave
does to its surroundings is a list of `ClsOutput`s: datagrams and calls of application callbacks
(also of callbacks the application left `NULL`).  SLMP has its own sockets and its own part of
`cls_t`, which is not modelled.

* `ValidClsConfig`   a configuration with the proof that `cls_validate_config` accepts it;
* `Cls.start`        the memory after `cls_slave_init` has copied the configuration.
-/

namespace CLink

/-! ## configuration -/

/-- `cls_cfg_t` -/
structure ClsConfig where
  vendorCode : UInt16
  modelCode : UInt32
  equipmentVer : UInt16
  numOccupiedStations : UInt16
  iefbIpAddr : IpAddr
  deriving DecidableEq, Repr

abbrev ipaddrAny : IpAddr := 0

/-- `false` is `return -1` -/
def clsValidateConfig (o : Options) (cfg : ClsConfig) : Bool :=
  if cfg.iefbIpAddr ≠ ipaddrAny ∧ ¬ clUtilsIsIpaddrRangeValid cfg.iefbIpAddr then false
  else ¬ (cfg.numOccupiedStations < minOccupiedStationsPerGroup
    ∨ cfg.numOccupiedStations.toNat > o.clsMaxOccupiedStations)

/-- a configuration that `cls_slave_init` lets through -/
structure ValidClsConfig (o : Options) where
  cfg : ClsConfig
  valid : clsValidateConfig o cfg = true

theorem ValidClsConfig.stations {o : Options} (vc : ValidClsConfig o) :
    1 ≤ vc.cfg.numOccupiedStations.toNat ∧ vc.cfg.numOccupiedStations.toNat ≤ 16 := by
  have h := vc.valid
  have hmax := o.cls_le
  unfold clsValidateConfig at h
  split at h
  · cases h
  · rw [decide_eq_true_eq, not_or, UInt16.lt_iff_toNat_lt, not_lt, not_lt] at h
    have h1 : 1 ≤ vc.cfg.numOccupiedStations.toNat := h.1
    exact ⟨h1, le_trans h.2 hmax⟩

/-! ## enumerations -/

inductive SlaveState where
  | slaveDown
  | masterNone
  | masterControl
  | slaveDisabled
  | waitDisablingSlave
  deriving DecidableEq, Repr

inductive SlaveEvent where
  | none
  | startup
  | cyclicNewMaster
  | cyclicCorrectMaster
  | cyclicWrongMaster
  | cyclicWrongStationcount
  | timeoutMaster
  | ipUpdated
  | disableSlave
  | reenableSlave
  | cyclicIncomingWhenDisabled
  | disableSlaveWaitEnded
  deriving DecidableEq, Repr

inductive ClsErrorMessage where
  | slaveStationDuplication
  | masterStationDuplication
  | wrongNumberOccupied
  deriving DecidableEq, Repr

/-- the enumeration value, as the limiter compares it -/
def ClsErrorMessage.toInt : ClsErrorMessage → Int
  | slaveStationDuplication => 0
  | masterStationDuplication => 1
  | wrongNumberOccupied => 2

/-- `cls_cciefb_logwarning_message_t` -/
inductive LogwarningMessage where
  | masterDuplication
  | wrongNumberOccupied
  deriving DecidableEq, Repr

def LogwarningMessage.toInt : LogwarningMessage → Int
  | masterDuplication => 0
  | wrongNumberOccupied => 1

/-- `cl_slave_appl_operation_status_t` -/
inductive SlaveApplOperationStatus where
  | stopped
  | operating
  deriving DecidableEq, Repr

def SlaveApplOperationStatus.toUInt16 : SlaveApplOperationStatus → UInt16
  | stopped => slaveApplOperationStatusStopped
  | operating => slaveApplOperationStatusOperating

/-! ## slave data -/

/-- `cls_master_connection_t` -/
structure MasterConnection where
  masterId : IpAddr
  clockInfo : UInt64
  clockInfoValid : Bool
  protocolVer : UInt16
  groupNo : UInt16
  parameterNo : UInt16
  timeoutValue : UInt16
  parallelOffTimeoutCount : UInt16
  slaveStationNo : UInt16
  totalOccupiedStationCount : UInt16
  deriving DecidableEq, Repr

/-- the cleared memory -/
def MasterConnection.zero : MasterConnection := ⟨0, 0, false, 0, 0, 0, 0, 0, 0, 0⟩

/-- `master_state_callback_trigger_data` -/
structure CallbackTriggerData where
  executedBefore : Bool
  previousConnectedToMaster : Bool
  previousProtocolVer : UInt16
  previousMasterApplicationStatus : UInt16
  deriving DecidableEq, Repr

def CallbackTriggerData.zero : CallbackTriggerData := ⟨false, false, 0, 0⟩

/-- `cls_memory_area_t` -/
structure ClsMemoryArea where
  ry : Nat → BitArea
  rww : Nat → WordArea

def ClsMemoryArea.zero : ClsMemoryArea := ⟨fun _ => .zero, fun _ => .zero⟩

def ResponseFrame.zero : ResponseFrame :=
  { udpPayloadLen := 0, fullHeaders := .ofBuffer (fun _ => 0), firstRwr := 0, firstRx := 0
    rwr := fun _ => .zero, rx := fun _ => .zero }

/-- `cls_t`; after a failing `CC_ASSERT` the program has ended -/
structure Cls where
  config : ClsConfig
  endcodeSlaveDisabled : UInt16
  slaveApplicationStatus : SlaveApplOperationStatus
  loglimiter : Limiter
  errorlimiter : Limiter
  localManagementInfo : UInt32
  slaveErrCode : UInt16
  cyclicDataArea : ClsMemoryArea
  cciefbRespFrameNormal : ResponseFrame
  cciefbRespFrameError : ResponseFrame
  master : MasterConnection
  state : SlaveState
  receiveTimer : Timer
  timerForDisablingSlave : Timer
  triggerData : CallbackTriggerData
  aborted : Bool

def Limiter.zero : Limiter := ⟨.zero, 0, 0, 0, 0⟩

/-- `clal_clear_memory` of the whole instance, then the copy of the configuration -/
def Cls.start (config : ClsConfig) : Cls :=
  { config := config, endcodeSlaveDisabled := 0, slaveApplicationStatus := .stopped
    loglimiter := .zero, errorlimiter := .zero, localManagementInfo := 0, slaveErrCode := 0
    cyclicDataArea := .zero, cciefbRespFrameNormal := .zero, cciefbRespFrameError := .zero
    master := .zero, state := .slaveDown, receiveTimer := .zero, timerForDisablingSlave := .zero
    triggerData := .zero, aborted := false }

/-! ## outputs and events -/

inductive ClsOutput where
  /-- `clal_udp_sendto` -/
  | sendResponse (destIp : IpAddr) (destPort : UInt16) (payload : Datagram)
  | stateCb (state : SlaveState)
  | errorCb (message : ClsErrorMessage) (ipAddr : IpAddr) (argument2 : UInt16)
  | connectCb (masterIpAddr : IpAddr) (groupNo slaveStationNo : UInt16)
  | disconnectCb
  | masterRunningCb (connectedToMaster connectedAndRunning stoppedByUser : Bool)
      (protocolVer masterApplicationStatus : UInt16)

/-- what `clal_udp_recvfrom_with_ifindex` gives: a payload, where it came from and the own address
it was sent to -/
structure Received where
  dg : Datagram
  remoteIp : IpAddr
  remotePort : UInt16
  slaveIpAddr : IpAddr

/-- what can happen to an initialised slave -/
inductive ClsEvent where
  /-- `cls_iefb_periodic` -/
  | periodic (now : UInt32) (received : Option Received)
  /-- `cls_iefb_disable_slave` -/
  | disableSlave (now : UInt32) (isError : Bool)
  /-- `cls_iefb_reenable_slave` -/
  | reenableSlave (now : UInt32)
  | setLocalManagementInfo (localManagementInfo : UInt32)
  | setSlaveApplicationStatus (slaveApplicationStatus : SlaveApplOperationStatus)
  | setSlaveErrorCode (slaveErrCode : UInt16)
  | setRxBit (number : UInt16) (value : Bool)
  | setRwrValue (number value : UInt16)
  /-- the application writes through the pointers to the RX and RWr areas -/
  | writeMemoryArea (rx : Nat → BitArea) (rwr : Nat → WordArea)

end CLink
