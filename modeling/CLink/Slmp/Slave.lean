import CLink.Common.Timer
import CLink.Slmp.Codec

/-!
# The SLMP part of the slave

`cls_slmp.c`: a node search request schedules a response, and a request for a new address is carried
out and answered at once.  What the operating system answers is an input.

* `AddrInfo`                     where a frame comes from, and the interface on which it arrived;
* `SlmpSlave`                    the data of the delayed response;
* `SlmpSlaveOutput`              callbacks, the new address, and the responses;
* `clsSlmpHandleInputFrame`      an incoming frame;
* `clsSlmpPeriodic`              the delayed response, and then at most one frame.
-/

namespace CLink
open Bytes

/-! ## data -/

/-- `cls_addr_info_t` -/
structure AddrInfo where
  remoteIp : IpAddr
  remotePort : UInt16
  localIp : IpAddr
  localNetmask : IpAddr
  localMacAddress : MacAddr
  ifindex : Int

/-- the host and the SLMP fields of `cls_cfg_t` -/
structure SlmpSlaveConfig where
  host : Endian
  vendorCode : UInt16
  modelCode : UInt32
  equipmentVer : UInt16
  ipSettingAllowed : Bool
  useSlmpDirectedBroadcast : Bool

/-- the field `node_search` of `cls_t` -/
structure SlmpSlave where
  responseTimer : Timer
  masterMacAddress : MacAddr
  masterIpAddr : IpAddr
  masterPort : UInt16
  requestSerial : UInt16
  slaveMacAddress : MacAddr
  slaveIpAddress : IpAddr
  slaveNetmask : IpAddr

inductive SlmpSlaveOutput where
  /-- `node_search_cb` -/
  | nodeSearchInd (masterMacAddr : MacAddr) (masterIpAddr : IpAddr)
  /-- `cl_eth_set_network_settings` is called -/
  | setNetworkSettings (ifindex : Int) (ip netmask : IpAddr)
  /-- `set_ip_cb` -/
  | setIpInd (masterMacAddr : MacAddr) (masterIpAddr newIpAddr newNetmask : IpAddr)
      (ipSettingAllowed didSetIp : Bool)
  /-- `cls_slmp_send_response` is called -/
  | response (localIp remoteIp : IpAddr) (remotePort : UInt16) (payload : Datagram)

/-! ## node search -/

def macBit (mac : MacAddr) (i : Fin 6) (bitposition : UInt32) : UInt32 :=
  ((mac i).toUInt32 >>> bitposition) &&& (1 : UInt32)

/-- the delay depends on the last bits of the MAC address, in microseconds -/
def clSlmpCalculateNodeSearchDelay (slaveMacAddress : MacAddr) : UInt32 :=
  let milliseconds : UInt32 := (List.range 8).foldl
    (fun (milliseconds : UInt32) (bitposition : Nat) => milliseconds
      + ((512 : UInt32) >>> UInt32.ofNat bitposition)
        * macBit slaveMacAddress 5 (UInt32.ofNat bitposition)) 0
  microsecondsPerMillisecond
    * (milliseconds + 2 * macBit slaveMacAddress 4 0 + macBit slaveMacAddress 4 1)

def slmpBroadcastAddress (cfg : SlmpSlaveConfig) (netmask ipAddr : IpAddr) : IpAddr :=
  if cfg.useSlmpDirectedBroadcast then clUtilCalcBroadcastAddress netmask ipAddr
  else ipaddrLocalBroadcast

def clsSlmpScheduleNodeSearchResponse (cls : SlmpSlave) (now : UInt32)
    (masterMacAddress : MacAddr) (addrInfo : AddrInfo) (requestSerial : UInt16) : SlmpSlave :=
  { masterIpAddr := addrInfo.remoteIp
    masterPort := addrInfo.remotePort
    requestSerial := requestSerial
    masterMacAddress := masterMacAddress
    slaveIpAddress := addrInfo.localIp
    slaveNetmask := addrInfo.localNetmask
    slaveMacAddress := addrInfo.localMacAddress
    responseTimer := clTimerStart cls.responseTimer
      (clSlmpCalculateNodeSearchDelay addrInfo.localMacAddress) now }

/-- a result is the return value with the next state and the outputs -/
def clsSlmpHandleNodeSearchRequest (cfg : SlmpSlaveConfig) (cls : SlmpSlave) (now : UInt32)
    (dg : Datagram) (addrInfo : AddrInfo) : Int × SlmpSlave × List SlmpSlaveOutput :=
  match clSlmpParseNodeSearchRequest cfg.host dg with
  | none => (-1, cls, [])
  | some request =>
    if clSlmpValidateNodeSearchRequest cfg.host request = false then (-1, cls, [])
    else
      let masterIpAddr := cfg.host.le32 request.masterIpAddr
      let requestSerial := cfg.host.le16 request.header.serial
      let masterMacAddr := clUtilCopyMacReverse request.masterMacAddr
      if masterIpAddr ≠ addrInfo.remoteIp then (-1, cls, [])
      else
        (0, clsSlmpScheduleNodeSearchResponse cls now masterMacAddr addrInfo requestSerial,
          [.nodeSearchInd masterMacAddr masterIpAddr])

def clsSlmpSendNodeSearchResponse (cfg : SlmpSlaveConfig) (cls : SlmpSlave) (sendOk : Bool) :
    Int × List SlmpSlaveOutput :=
  if cls.masterIpAddr = ipaddrInvalid then (-1, [])
  else
    let frame := clSlmpPrepareNodeSearchResponseFrame cfg.host cls.masterMacAddress
      cls.masterIpAddr cls.slaveMacAddress cls.slaveIpAddress cls.slaveNetmask
      nodeSearchRespServerStatusNormal cfg.vendorCode cfg.modelCode cfg.equipmentVer
      cls.requestSerial
    let broadcastAddress := slmpBroadcastAddress cfg cls.slaveNetmask cls.slaveIpAddress
    (if sendOk then 0 else -1,
      [.response cls.slaveIpAddress broadcastAddress cls.masterPort
        (Datagram.ofBytes (frame.bytes cfg.host))])

/-! ## set IP -/

/-- `setOk`: the result of `cl_eth_set_network_settings` -/
def clsSlmpHandleIpaddressSetRequest (cfg : SlmpSlaveConfig) (cls : SlmpSlave) (dg : Datagram)
    (addrInfo : AddrInfo) (setOk sendOk : Bool) : Int × SlmpSlave × List SlmpSlaveOutput :=
  match clSlmpParseSetIpRequest cfg.host dg with
  | none => (-1, cls, [])
  | some request =>
    if clSlmpValidateSetIpRequest cfg.host request = false then (-1, cls, [])
    else
      let masterMacAddr := clUtilCopyMacReverse request.masterMacAddr
      let destinationMacAddr := clUtilCopyMacReverse request.slaveMacAddr
      let masterIpAddr := cfg.host.le32 request.masterIpAddr
      let newIpAddress := cfg.host.le32 request.slaveNewIpAddr
      let newNetmask := cfg.host.le32 request.slaveNewNetmask
      let requestSerial := cfg.host.le16 request.header.serial
      if destinationMacAddr ≠ addrInfo.localMacAddress then (0, cls, [])
      else if masterIpAddr ≠ addrInfo.remoteIp then (-1, cls, [])
      else
        let setOuts : List SlmpSlaveOutput := if cfg.ipSettingAllowed
          then [.setNetworkSettings addrInfo.ifindex newIpAddress newNetmask] else []
        let successful := cfg.ipSettingAllowed && setOk
        let resultingIpAddress := if successful then newIpAddress else addrInfo.localIp
        let bytes := if successful
          then (clSlmpPrepareSetIpResponseFrame cfg.host masterMacAddr requestSerial).bytes cfg.host
          else (clSlmpPrepareErrorResponseFrame cfg.host slmpCommandNodeIpaddressSet
            slmpSubcommandNodeIpaddressSet endcodeCommandRequestMsg requestSerial).bytes cfg.host
        let broadcastAddress := slmpBroadcastAddress cfg newNetmask newIpAddress
        (if sendOk then 0 else -1, cls,
          setOuts ++ [.response resultingIpAddress broadcastAddress addrInfo.remotePort
              (Datagram.ofBytes bytes),
            .setIpInd masterMacAddr masterIpAddr newIpAddress newNetmask cfg.ipSettingAllowed
              (cfg.ipSettingAllowed && successful)])

/-! ## incoming frames -/

def clsSlmpHandleInputFrame (cfg : SlmpSlaveConfig) (cls : SlmpSlave) (now : UInt32)
    (dg : Datagram) (addrInfo : AddrInfo) (setOk sendOk : Bool) :
    Int × SlmpSlave × List SlmpSlaveOutput :=
  match clSlmpParseRequestHeader cfg.host dg with
  | none => (-1, cls, [])
  | some header =>
    if clSlmpIsHeaderRequest cfg.host header = false then (-1, cls, [])
    else if clSlmpValidateRequestHeader cfg.host header dg.len = false then (-1, cls, [])
    else
      let command := cfg.host.le16 header.command
      let subCommand := cfg.host.le16 header.subCommand
      if command = slmpCommandNodeSearch ∧ subCommand = slmpSubcommandNodeSearch then
        clsSlmpHandleNodeSearchRequest cfg cls now dg addrInfo
      else if command = slmpCommandNodeIpaddressSet
          ∧ subCommand = slmpSubcommandNodeIpaddressSet then
        clsSlmpHandleIpaddressSetRequest cfg cls dg addrInfo setOk sendOk
      else (-1, cls, [])

/-- the delayed response when its timer has expired -/
def checkResponseTimer (cfg : SlmpSlaveConfig) (cls : SlmpSlave) (now : UInt32) (sendOk : Bool) :
    SlmpSlave × List SlmpSlaveOutput :=
  if clTimerIsExpired cls.responseTimer now then
    let cls := { cls with responseTimer := clTimerStop cls.responseTimer }
    (cls, (clsSlmpSendNodeSearchResponse cfg cls sendOk).2)
  else (cls, [])

/-- `received`: the frame, and its address data unless the MAC address or the netmask is unknown -/
def clsSlmpPeriodic (cfg : SlmpSlaveConfig) (cls : SlmpSlave) (now : UInt32)
    (received : Option (Datagram × Option AddrInfo)) (sendOk setOk sendAnswerOk : Bool) :
    SlmpSlave × List SlmpSlaveOutput :=
  let (cls, responseOuts) := checkResponseTimer cfg cls now sendOk
  match received with
  | some (dg, some addrInfo) =>
    let (_, cls, outs) := clsSlmpHandleInputFrame cfg cls now dg addrInfo setOk sendAnswerOk
    (cls, responseOuts ++ outs)
  | _ => (cls, responseOuts)

/-! ## for the examples -/

def exampleSlmpSlaveConfig : SlmpSlaveConfig :=
  { host := .little, vendorCode := 0x1234, modelCode := 0x56789ABC, equipmentVer := 1
    ipSettingAllowed := true, useSlmpDirectedBroadcast := false }

def exampleSlmpSlave : SlmpSlave :=
  { responseTimer := .zero, masterMacAddress := fun _ => 0, masterIpAddr := 0, masterPort := 0
    requestSerial := 0, slaveMacAddress := fun _ => 0, slaveIpAddress := 0, slaveNetmask := 0 }

def exampleAddrInfo : AddrInfo :=
  { remoteIp := 0xC0A80001, remotePort := clSlmpPort, localIp := 0xC0A80002
    localNetmask := 0xFFFFFF00, localMacAddress := fun i => UInt8.ofNat (0x0A + i), ifindex := 2 }

end CLink
