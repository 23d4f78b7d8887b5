import CLink.Common.Timer
import CLink.Lib.Machine
import CLink.Slmp.Codec

/-!
# The SLMP part of the master

`clm_slmp.c`: the application asks for a node search or for a new address of a slave, frames arrive,
and two timers are checked.  The result of the socket functions is an input.

* `SlmpMasterConfig`, `SlmpMaster`   the constants and the state;
* `SlmpCall`, `SlmpEvent`            calls of the application, and what happens to the master; the
                                     application may call the stack out of a callback;
* `SlmpOutput`                       how a call ended, and the two callbacks;
* `slmpMachine`                      the machine of these events.
-/

namespace CLink
open Bytes

/-! ## data -/

/-- `clm_master_setip_status_t` -/
inductive MasterSetipStatus where
  | success
  | error
  | timeout
  deriving DecidableEq, Repr

/-- `clm_node_search_response_entry_t` -/
structure NodeSearchResponseEntry where
  slaveId : IpAddr
  slaveNetmask : IpAddr
  slaveMacAddr : MacAddr
  vendorCode : UInt16
  modelCode : UInt32
  equipmentVer : UInt16

/-- `clm_node_search_db_t` -/
structure NodeSearchDb where
  count : UInt8
  stored : UInt8
  entries : Nat → NodeSearchResponseEntry

/-- the host, the limit `CLM_MAX_NODE_SEARCH_DEVICES` and the fields of `clm_t` that stay as they are -/
structure SlmpMasterConfig where
  host : Endian
  clmMaxNodeSearchDevices : Nat
  macAddress : MacAddr
  masterId : IpAddr
  ifindex : Int
  callbackTimeNodeSearch : UInt16
  callbackTimeSetIp : UInt16

/-- the SLMP fields of `clm_t` -/
structure SlmpMaster where
  slmpRequestSerial : UInt16
  nodeSearchSerial : Int
  setIpRequestSerial : Int
  nodeSearchTimer : Timer
  setIpRequestTimer : Timer
  nodeSearchDb : NodeSearchDb

inductive SlmpRequestKind where
  | nodeSearch
  | setIp
  deriving DecidableEq, Repr

/-- a call of the application, with the result of `clm_slmp_send_request` -/
inductive SlmpCall where
  | performNodeSearch (now : UInt32) (sendOk : Bool)
  | performSetIpaddrRequest (now : UInt32) (slaveMacAddr : MacAddr)
      (slaveNewIpAddr slaveNewNetmask : IpAddr) (sendOk : Bool)

/-- the lists are the calls that the application makes in a callback -/
inductive SlmpEvent where
  | call (c : SlmpCall)
  | frame (dg : Datagram) (ifindex : Int) (inSetIpCfm : List SlmpCall)
  | checkTimeouts (now : UInt32) (inNodeSearchCfm inSetIpCfm : List SlmpCall)

inductive SlmpOutput where
  /-- the request was sent, the call returned 0 -/
  | sent (k : SlmpRequestKind) (payload : Datagram)
  /-- the request could not be sent, the call returned -1 -/
  | sendFailed (k : SlmpRequestKind)
  /-- the call returned -1 before it built a request -/
  | blocked (k : SlmpRequestKind)
  /-- `node_search_cfm_cb` -/
  | nodeSearchCfm (db : NodeSearchDb)
  /-- `set_ip_cfm_cb` -/
  | setIpCfm (status : MasterSetipStatus)

/-! ## database -/

/-- the entry of a response -/
def nodeSearchResult (e : Endian) (resp : NodeSearchResp) : NodeSearchResponseEntry :=
  { slaveId := e.le32 resp.slaveIpAddr
    slaveNetmask := e.le32 resp.slaveNetmask
    slaveMacAddr := clUtilCopyMacReverse resp.slaveMacAddr
    vendorCode := e.le16 resp.vendorCode
    modelCode := e.le32 resp.modelCode
    equipmentVer := e.le16 resp.equipmentVer }

def clmSlmpNodeSearchAddDb (cfg : SlmpMasterConfig) (db : NodeSearchDb) (resp : NodeSearchResp) :
    NodeSearchDb :=
  let db := { db with count := db.count + 1 }
  if db.stored.toNat = cfg.clmMaxNodeSearchDevices then db
  else
    { db with
      entries := Function.update db.entries db.stored.toNat (nodeSearchResult cfg.host resp)
      stored := db.stored + 1 }

def clmSlmpNodeSearchClearDb (db : NodeSearchDb) : NodeSearchDb :=
  { db with count := 0, stored := 0 }

/-! ## calls of the application -/

def clmSlmpPerformNodeSearch (cfg : SlmpMasterConfig) (clm : SlmpMaster) (now : UInt32)
    (sendOk : Bool) : SlmpMaster × List SlmpOutput :=
  if clm.nodeSearchSerial ≠ clmSlmpSerialNone then (clm, [.blocked .nodeSearch])
  else
    let clm := { clm with
      nodeSearchSerial := clm.slmpRequestSerial.toNat
      nodeSearchDb := clmSlmpNodeSearchClearDb clm.nodeSearchDb }
    let payload := Datagram.ofBytes ((clSlmpPrepareNodeSearchRequestFrame cfg.host cfg.macAddress
      cfg.masterId (UInt16.ofNat clm.nodeSearchSerial.toNat)).bytes cfg.host)
    let clm := { clm with slmpRequestSerial := clm.slmpRequestSerial + 1 }
    if sendOk = false then
      ({ clm with nodeSearchSerial := clmSlmpSerialNone }, [.sendFailed .nodeSearch])
    else
      let period := cfg.callbackTimeNodeSearch.toUInt32 * microsecondsPerMillisecond
      ({ clm with nodeSearchTimer := clTimerStart clm.nodeSearchTimer period now },
        [.sent .nodeSearch payload])

def clmSlmpPerformSetIpaddrRequest (cfg : SlmpMasterConfig) (clm : SlmpMaster) (now : UInt32)
    (slaveMacAddr : MacAddr) (slaveNewIpAddr slaveNewNetmask : IpAddr) (sendOk : Bool) :
    SlmpMaster × List SlmpOutput :=
  if clm.setIpRequestSerial ≠ clmSlmpSerialNone then (clm, [.blocked .setIp])
  else if slaveNewIpAddr = ipaddrInvalid then (clm, [.blocked .setIp])
  else if clUtilsIsNetmaskValid slaveNewNetmask = false then (clm, [.blocked .setIp])
  else
    let clm := { clm with setIpRequestSerial := clm.slmpRequestSerial.toNat }
    let payload := Datagram.ofBytes ((clSlmpPrepareSetIpRequestFrame cfg.host cfg.macAddress
      cfg.masterId (UInt16.ofNat clm.setIpRequestSerial.toNat) slaveMacAddr slaveNewIpAddr
      slaveNewNetmask).bytes cfg.host)
    let clm := { clm with slmpRequestSerial := clm.slmpRequestSerial + 1 }
    if sendOk = false then
      ({ clm with setIpRequestSerial := clmSlmpSerialNone }, [.sendFailed .setIp])
    else
      let period := cfg.callbackTimeSetIp.toUInt32 * microsecondsPerMillisecond
      ({ clm with setIpRequestTimer := clTimerStart clm.setIpRequestTimer period now },
        [.sent .setIp payload])

def SlmpCall.kind : SlmpCall → SlmpRequestKind
  | .performNodeSearch _ _ => .nodeSearch
  | .performSetIpaddrRequest _ _ _ _ _ => .setIp

def performCall (cfg : SlmpMasterConfig) (clm : SlmpMaster) :
    SlmpCall → SlmpMaster × List SlmpOutput
  | .performNodeSearch now sendOk => clmSlmpPerformNodeSearch cfg clm now sendOk
  | .performSetIpaddrRequest now slaveMacAddr slaveNewIpAddr slaveNewNetmask sendOk =>
    clmSlmpPerformSetIpaddrRequest cfg clm now slaveMacAddr slaveNewIpAddr slaveNewNetmask sendOk

/-- the application at work: the machine of its calls -/
def slmpCalls (cfg : SlmpMasterConfig) : Machine SlmpMaster SlmpCall SlmpOutput where
  step := performCall cfg

/-! ## confirmations -/

/-- the callback gets the database, and the request is over after it -/
def clmSlmpNodeSearchNotifyResults (cfg : SlmpMasterConfig) (clm : SlmpMaster)
    (calls : List SlmpCall) : SlmpMaster × List SlmpOutput :=
  let (after, outs) := (slmpCalls cfg).run clm calls
  ({ after with nodeSearchSerial := clmSlmpSerialNone }, .nodeSearchCfm clm.nodeSearchDb :: outs)

def clmSlmpSetIpNotifyCfm (cfg : SlmpMasterConfig) (clm : SlmpMaster) (status : MasterSetipStatus)
    (calls : List SlmpCall) : SlmpMaster × List SlmpOutput :=
  let clm := { clm with setIpRequestTimer := clTimerStop clm.setIpRequestTimer }
  let (after, outs) := (slmpCalls cfg).run clm calls
  ({ after with setIpRequestSerial := clmSlmpSerialNone }, .setIpCfm status :: outs)

/-! ## incoming frames

A result is the return value with the next state and the outputs. -/

def clmSlmpHandleSetIpError (cfg : SlmpMasterConfig) (clm : SlmpMaster) (dg : Datagram)
    (calls : List SlmpCall) : Int × SlmpMaster × List SlmpOutput :=
  match clSlmpParseErrorResponse cfg.host dg with
  | none => (-1, clm, [])
  | some errorResp =>
    if clSlmpValidateErrorResponse cfg.host errorResp = false then (-1, clm, [])
    else if cfg.host.le16 errorResp.command ≠ slmpCommandNodeIpaddressSet
        ∨ cfg.host.le16 errorResp.subCommand ≠ slmpSubcommandNodeIpaddressSet then (-1, clm, [])
    else (0, clmSlmpSetIpNotifyCfm cfg clm .error calls)

def clmSlmpHandleNodeSearchResponse (cfg : SlmpMasterConfig) (clm : SlmpMaster) (dg : Datagram) :
    Int × SlmpMaster × List SlmpOutput :=
  match clSlmpParseNodeSearchResponse cfg.host dg with
  | none => (-1, clm, [])
  | some nodeSearchResp =>
    if clSlmpValidateNodeSearchResponse cfg.host nodeSearchResp = false then (-1, clm, [])
    else
      (0, { clm with
        nodeSearchDb := clmSlmpNodeSearchAddDb cfg clm.nodeSearchDb nodeSearchResp }, [])

def clmSlmpHandleSetIpaddrResponse (cfg : SlmpMasterConfig) (clm : SlmpMaster) (dg : Datagram)
    (calls : List SlmpCall) : Int × SlmpMaster × List SlmpOutput :=
  match clSlmpParseSetIpResponse cfg.host dg with
  | none => (-1, clm, [])
  | some setIpaddrResp =>
    if clSlmpValidateSetIpResponse cfg.host setIpaddrResp cfg.macAddress = false then (-1, clm, [])
    else (0, clmSlmpSetIpNotifyCfm cfg clm .success calls)

/-- the handler that gets a frame with a valid header -/
inductive SlmpHandler where
  | nodeSearchResponse
  | setIpaddrResponse
  | setIpError
  deriving DecidableEq, Repr

/-- the serial number of a node search comes first -/
def responseHandler (clm : SlmpMaster) (serial endcode : UInt16) : Option SlmpHandler :=
  if (serial.toNat : Int) = clm.nodeSearchSerial then some .nodeSearchResponse
  else if (serial.toNat : Int) = clm.setIpRequestSerial then
    if endcode = endcodeSuccess then some .setIpaddrResponse else some .setIpError
  else none

def runHandler (cfg : SlmpMasterConfig) (clm : SlmpMaster) (dg : Datagram)
    (calls : List SlmpCall) : Option SlmpHandler → Int × SlmpMaster × List SlmpOutput
  | some .nodeSearchResponse => clmSlmpHandleNodeSearchResponse cfg clm dg
  | some .setIpaddrResponse => clmSlmpHandleSetIpaddrResponse cfg clm dg calls
  | some .setIpError => clmSlmpHandleSetIpError cfg clm dg calls
  | none => (-1, clm, [])

def clmSlmpHandleInputFrame (cfg : SlmpMasterConfig) (clm : SlmpMaster) (dg : Datagram)
    (ifindex : Int) (calls : List SlmpCall) : Int × SlmpMaster × List SlmpOutput :=
  match clSlmpParseResponseHeader cfg.host dg with
  | none => (-1, clm, [])
  | some header =>
    if clSlmpIsHeaderResponse cfg.host header = false then (-1, clm, [])
    else if clSlmpValidateResponseHeader cfg.host header dg.len = false then (-1, clm, [])
    else if ifindex ≠ cfg.ifindex then (-1, clm, [])
    else
      runHandler cfg clm dg calls
        (responseHandler clm (cfg.host.le16 header.serial) (cfg.host.le16 header.endcode))

/-! ## timers -/

def checkNodeSearchTimer (cfg : SlmpMasterConfig) (clm : SlmpMaster) (now : UInt32)
    (calls : List SlmpCall) : SlmpMaster × List SlmpOutput :=
  if clTimerIsExpired clm.nodeSearchTimer now then
    clmSlmpNodeSearchNotifyResults cfg
      { clm with nodeSearchTimer := clTimerStop clm.nodeSearchTimer } calls
  else (clm, [])

def checkSetIpRequestTimer (cfg : SlmpMasterConfig) (clm : SlmpMaster) (now : UInt32)
    (calls : List SlmpCall) : SlmpMaster × List SlmpOutput :=
  if clTimerIsExpired clm.setIpRequestTimer now then
    clmSlmpSetIpNotifyCfm cfg
      { clm with setIpRequestTimer := clTimerStop clm.setIpRequestTimer } .timeout calls
  else (clm, [])

def clmSlmpCheckTimeouts (cfg : SlmpMasterConfig) (clm : SlmpMaster) (now : UInt32)
    (inNodeSearchCfm inSetIpCfm : List SlmpCall) : SlmpMaster × List SlmpOutput :=
  let (clm, searchOuts) := checkNodeSearchTimer cfg clm now inNodeSearchCfm
  let (clm, setIpOuts) := checkSetIpRequestTimer cfg clm now inSetIpCfm
  (clm, searchOuts ++ setIpOuts)

/-! ## the machine -/

/-- `clm_slmp_init`; the timers and the database are cleared whatever they were -/
def clmSlmpInit (clm : SlmpMaster) : SlmpMaster :=
  { slmpRequestSerial := 0
    nodeSearchSerial := clmSlmpSerialNone
    setIpRequestSerial := clmSlmpSerialNone
    nodeSearchTimer := clTimerStop clm.nodeSearchTimer
    setIpRequestTimer := clTimerStop clm.setIpRequestTimer
    nodeSearchDb := clmSlmpNodeSearchClearDb clm.nodeSearchDb }

def slmpStep (cfg : SlmpMasterConfig) (clm : SlmpMaster) :
    SlmpEvent → SlmpMaster × List SlmpOutput
  | .call c => performCall cfg clm c
  | .frame dg ifindex calls => (clmSlmpHandleInputFrame cfg clm dg ifindex calls).2
  | .checkTimeouts now inNodeSearchCfm inSetIpCfm =>
    clmSlmpCheckTimeouts cfg clm now inNodeSearchCfm inSetIpCfm

def slmpMachine (cfg : SlmpMasterConfig) : Machine SlmpMaster SlmpEvent SlmpOutput where
  step := slmpStep cfg

/-! ## for the examples -/

def exampleSlmpConfig : SlmpMasterConfig :=
  { host := .little, clmMaxNodeSearchDevices := 20, macAddress := fun _ => 0x02
    masterId := 0xC0A80001, ifindex := 3, callbackTimeNodeSearch := 2000, callbackTimeSetIp := 60000 }

def exampleSlmpMaster : SlmpMaster :=
  { slmpRequestSerial := 0, nodeSearchSerial := 0, setIpRequestSerial := 0
    nodeSearchTimer := .zero, setIpRequestTimer := .zero
    nodeSearchDb := { count := 0, stored := 0, entries := fun _ =>
      { slaveId := 0, slaveNetmask := 0, slaveMacAddr := fun _ => 0, vendorCode := 0, modelCode := 0
        equipmentVer := 0 } } }

end CLink
