import CLink.Slave.Fsm

/-!
# Handling incoming frames and the calls of the application

The rest of `cls_iefb.c` and `cls_slave_init`.

* `clsIefbSearchSlaveParameters`     looks for the own address in a request;
* `clsIefbHandleInputFrame`          a received payload;
* `clsIefbPeriodic`                  one tick: at most one payload, then the two timers;
* `slave`                            the machine of `cls_t`;
* `SlaveStart`                       a successful start with its runs.
-/

namespace CLink
open Loop

/-! ## incoming frames -/

def clsIefbSearchSlaveParameters (now : UInt32) (cyclicRequest : CyclicRequest) (s : ClsScope) :
    ClsScope × Int :=
  if s.cls.state = .slaveDown ∨ s.cls.state = .slaveDisabled then (s, 0)
  else
    match clIefbAnalyzeSlaveIds cyclicRequest.slaveIpAddr cyclicRequest.totalOccupied
        cyclicRequest.slaveIds with
    | none => (s, -1)
    | some info =>
      if info.foundMySlaveId = false then (s, 0)
      else if info.impliedOccupationCount ≠ s.cls.config.numOccupiedStations then
        let s := clsIefbLogWarningOnce .wrongNumberOccupied now s
        let s := clsIefbTriggerErrorCallback now .wrongNumberOccupied ipaddrInvalid
          info.impliedOccupationCount s
        (clsIefbFsmEvent now (some cyclicRequest) .cyclicWrongStationcount s, 0)
      else
        let enabled := clIefbExtractMyTransmissionState cyclicRequest.transmissionStates
          info.mySlaveStationNo
        let connect (s : ClsScope) : ClsScope :=
          clsIefbFsmEvent now (some cyclicRequest) .cyclicNewMaster { s with cls := { s.cls with
            master := { s.cls.master with slaveStationNo := info.mySlaveStationNo } } }
        if s.cls.state = .waitDisablingSlave then
          if enabled then
            (clsIefbFsmEvent now (some cyclicRequest) .cyclicIncomingWhenDisabled s, 0)
          else (s, 0)
        else if s.cls.state = .masterNone then
          if enabled then
            (clsIefbTriggerErrorCallback now .slaveStationDuplication ipaddrInvalid 0 s, 0)
          else (connect s, 0)
        -- state MASTER_CONTROL
        else if clsIefbIsMasterIdCorrect s.cls cyclicRequest.masterId = false then (s, 0)
        else if enabled then (s, 0)
        else (connect s, 0)

/-- `cls_iefb_handle_cyclic_input_frame` once the request is parsed -/
def handleCyclicRequest (now : UInt32) (request : CyclicRequest) (s : ClsScope) : ClsScope × Int :=
  if s.cls.state = .slaveDown ∨ s.cls.state = .slaveDisabled then (s, 0)
  else if s.cls.state ≠ .masterControl then clsIefbSearchSlaveParameters now request s
  else if clsIefbIsMasterIdCorrect s.cls request.masterId = false then
    (clsIefbFsmEvent now (some request) .cyclicWrongMaster s, 0)
  else if request.parameterNo ≠ s.cls.master.parameterNo then
    clsIefbSearchSlaveParameters now request s
  else if request.frameSequenceNo = 0 then clsIefbSearchSlaveParameters now request s
  else if request.groupNo ≠ s.cls.master.groupNo then (s, 0)
  else
    match clIefbRequestGetSlaveId request.slaveIds s.cls.master.slaveStationNo
        request.totalOccupied with
    | none => (s, -1)
    | some extractedSlaveId =>
      if extractedSlaveId = ipaddrInvalid then (s, 0)
      else if extractedSlaveId ≠ request.slaveIpAddr then (s, -1)
      else (clsIefbFsmEvent now (some request) .cyclicCorrectMaster s, 0)

def clsIefbHandleCyclicInputFrame (now : UInt32) (received : Received) (s : ClsScope) :
    ClsScope × Int :=
  if received.slaveIpAddr = ipaddrInvalid then (s, -1)
  else
    match clIefbParseCyclicRequest received.dg received.remoteIp received.remotePort
        received.slaveIpAddr with
    | .error .rejected => (s, -1)
    | .error .assertFailed => (s.abort, -1)
    | .ok request => handleCyclicRequest now request s

def clsIefbHandleInputFrame (now : UInt32) (received : Received) (s : ClsScope) : ClsScope × Int :=
  match clIefbParseRequestHeader received.dg with
  | none => (s, -1)
  | some header =>
    if ¬ clIefbValidateRequestHeader header received.dg.len then (s, -1)
    else if header.command = slmpCommandCciefbCyclic
        ∧ header.subCommand = slmpSubcommandCciefbCyclic then
      clsIefbHandleCyclicInputFrame now received s
    else (s, -1)

/-! ## ticks -/

def monitorReceiveTimer (now : UInt32) (s : ClsScope) : ClsScope :=
  if clTimerIsExpired s.cls.receiveTimer now then
    clsIefbFsmEvent now none .timeoutMaster { s with cls := { s.cls with
      receiveTimer := clTimerStop s.cls.receiveTimer } }
  else s

def monitorTimerForDisablingSlave (now : UInt32) (s : ClsScope) : ClsScope :=
  if clTimerIsExpired s.cls.timerForDisablingSlave now then
    clsIefbFsmEvent now none .disableSlaveWaitEnded { s with cls := { s.cls with
      timerForDisablingSlave := clTimerStop s.cls.timerForDisablingSlave } }
  else s

/-- the reception of `cls_iefb_periodic` -/
def receiveFrame (now : UInt32) (received : Option Received) (s : ClsScope) : ClsScope :=
  match received with
  | none => s
  | some received =>
    if received.dg.len > 0 then (clsIefbHandleInputFrame now received s).1 else s

def clsIefbPeriodic (now : UInt32) (received : Option Received) (s : ClsScope) : ClsScope :=
  let s := receiveFrame now received s
  let s := monitorReceiveTimer now s
  let s := monitorTimerForDisablingSlave now s
  { s with cls := { s.cls with
      errorlimiter := clLimiterPeriodic s.cls.errorlimiter now
      loglimiter := clLimiterPeriodic s.cls.loglimiter now } }

/-! ## calls of the application -/

def clsIefbDisableSlave (now : UInt32) (isError : Bool) (s : ClsScope) : ClsScope :=
  let endCode := if isError then endcodeSlaveError else endcodeSlaveRequestsDisconnect
  clsIefbFsmEvent now none .disableSlave { s with cls := { s.cls with
    endcodeSlaveDisabled := endCode } }

def clsIefbReenableSlave (now : UInt32) (s : ClsScope) : ClsScope :=
  clsIefbFsmEvent now none .reenableSlave s

def clsIefbSetRxBit (number : UInt16) (value : Bool) (s : ClsScope) : ClsScope :=
  let p := clIefbBitCalculateAreanumber number
  if ¬ p.1 < s.cls.config.numOccupiedStations then s.abort
  else
    let frame := s.cls.cciefbRespFrameNormal
    let byteInArea := Fin.ofNat 8 p.2.1.toNat
    let area := frame.rx p.1.toNat
    let byte := if value then area byteInArea ||| p.2.2 else area byteInArea &&& ~~~ p.2.2
    { s with cls := { s.cls with cciefbRespFrameNormal := { frame with
        rx := Function.update frame.rx p.1.toNat (Function.update area byteInArea byte) } } }

def clsIefbSetRwrValue (number value : UInt16) (s : ClsScope) : ClsScope :=
  let p := clIefbRegisterCalculateAreanumber number
  if ¬ p.1 < s.cls.config.numOccupiedStations then s.abort
  else
    let frame := s.cls.cciefbRespFrameNormal
    let area := Function.update (frame.rwr p.1.toNat) (Fin.ofNat 32 p.2.toNat) value
    { s with cls := { s.cls with cciefbRespFrameNormal := { frame with
        rwr := Function.update frame.rwr p.1.toNat area } } }

/-- the application writes through the pointers to its areas in the frame -/
def writeResponseAreas (rx : Nat → BitArea) (rwr : Nat → WordArea) (c : Cls) : Cls :=
  { c with cciefbRespFrameNormal := { c.cciefbRespFrameNormal with rx := rx, rwr := rwr } }

/-! ## initialisation -/

abbrev logwarningRetriggerPeriod : UInt32 := 1000000
abbrev clsErrorcallbackRetriggerPeriod : UInt32 := 1000000

def clsFsmInit (now : UInt32) (s : ClsScope) : ClsScope :=
  clsIefbFsmEvent now none .startup { s with cls := { s.cls with state := .slaveDown } }

/-- `cls_iefb_init` after its socket is open -/
def clsIefbInit (now : UInt32) (c : Cls) : ClsScope :=
  clsFsmInit now
    { cls := { c with
        loglimiter := clLimiterInit c.loglimiter logwarningRetriggerPeriod
        errorlimiter := clLimiterInit c.errorlimiter clsErrorcallbackRetriggerPeriod }
      out := [] }

/-! ## the machine -/

/-- the handling of an event, from no outputs on -/
def clsHandle (e : ClsEvent) (s : ClsScope) : ClsScope :=
  match e with
  | .periodic now received => clsIefbPeriodic now received s
  | .disableSlave now isError => clsIefbDisableSlave now isError s
  | .reenableSlave now => clsIefbReenableSlave now s
  | .setLocalManagementInfo localManagementInfo =>
    { s with cls := { s.cls with localManagementInfo := localManagementInfo } }
  | .setSlaveApplicationStatus slaveApplicationStatus =>
    { s with cls := { s.cls with slaveApplicationStatus := slaveApplicationStatus } }
  | .setSlaveErrorCode slaveErrCode =>
    { s with cls := { s.cls with slaveErrCode := slaveErrCode } }
  | .setRxBit number value => clsIefbSetRxBit number value s
  | .setRwrValue number value => clsIefbSetRwrValue number value s
  | .writeMemoryArea rx rwr => { s with cls := writeResponseAreas rx rwr s.cls }

def clsStep (c : Cls) (e : ClsEvent) : Cls × List ClsOutput :=
  if c.aborted then (c, [])
  else ((clsHandle e ⟨c, []⟩).cls, (clsHandle e ⟨c, []⟩).out)

def slave : Machine Cls ClsEvent ClsOutput := { step := clsStep }

/-- a successful start of the slave: a valid configuration and the time of the call -/
structure SlaveStart (o : Options) where
  vc : ValidClsConfig o
  now : UInt32

namespace SlaveStart
variable {o : Options} (st : SlaveStart o)

/-- the state and the outputs of `cls_slave_init` -/
def init : ClsScope := clsIefbInit st.now (Cls.start st.vc.cfg)

/-- the state and all outputs after `cls_slave_init` and the events `es` -/
def run (es : List ClsEvent) : Cls × List ClsOutput :=
  ((slave.run st.init.cls es).1, st.init.out ++ (slave.run st.init.cls es).2)

end SlaveStart

end CLink
