import CLink.Common.Request
import CLink.Common.Response
import CLink.Lib.ByteOrder

/-!
# Cyclic frames on a host of either byte order

The model of the cyclic frames reads every field with the byte order of the wire.  Here the same
functions of `cl_iefb.c` run on a host: a struct is what the host finds in memory, and a field is
converted exactly where the source has `CC_FROM_LE16` or one of its relatives.

* `ReqHeader.inMemory`, .. `RespFullHeaders.inMemory`   the structs on a host of byte order `e`;
* `Host.clIefbValidate..`, `Host.clIefbParse..`         the functions on such a host;
* `Host.requestValues`, `Host.responseValues`           the values that the callers take from a frame;
* `Host.clIefbParseCyclicRequest_values`, `Host.clIefbParseCyclicResponse_values`
                                                        every host gets what the model says;
* `Host.cciefbResults_eq`                               and so do all these functions on a payload;
* `Host.clIefbInitialise..`, `Host.clIefbUpdate..`      the headers that a host builds;
* `Host.reqFullHeaders_ofBuffer`, `Host.respFullHeaders_ofBuffer`
                                                        what any host built is read by any host.
-/

namespace CLink
open Bytes

section
variable (e : Endian) (b : Nat → UInt8) (p : Nat)

/-! ## structs in memory -/

def ReqHeader.inMemory : ReqHeader :=
  { reserved1 := e.raw16 b p, reserved2 := b (p+2), reserved3 := b (p+3)
    reserved4 := e.raw16 b (p+4), reserved5 := b (p+6), dl := e.raw16 b (p+7)
    reserved6 := e.raw16 b (p+9), command := e.raw16 b (p+11), subCommand := e.raw16 b (p+13) }

def CyclicReqHeader.inMemory : CyclicReqHeader :=
  { protocolVer := e.raw16 b p, reserved1 := e.raw16 b (p+2)
    cyclicInfoOffsetAddr := e.raw16 b (p+4), reserved2 := fun i => b (p+6+i) }

def MasterStationNotification.inMemory : MasterStationNotification :=
  { masterLocalUnitInfo := e.raw16 b p, reserved := e.raw16 b (p+2), clockInfo := e.raw64 b (p+4) }

def CyclicReqDataHeader.inMemory : CyclicReqDataHeader :=
  { masterId := e.raw32 b p, groupNo := b (p+4), reserved3 := b (p+5)
    frameSequenceNo := e.raw16 b (p+6), timeoutValue := e.raw16 b (p+8)
    parallelOffTimeoutCount := e.raw16 b (p+10), parameterNo := e.raw16 b (p+12)
    slaveTotalOccupiedStationCount := e.raw16 b (p+14)
    cyclicTransmissionState := e.raw16 b (p+16), reserved4 := e.raw16 b (p+18) }

def ReqFullHeaders.inMemory : ReqFullHeaders :=
  { reqHeader := .inMemory e b 0, cyclicHeader := .inMemory e b 15
    masterStationNotification := .inMemory e b 35, cyclicDataHeader := .inMemory e b 47 }

def RespHeader.inMemory : RespHeader :=
  { reserved1 := e.raw16 b p, reserved2 := b (p+2), reserved3 := b (p+3)
    reserved4 := e.raw16 b (p+4), reserved5 := b (p+6), dl := e.raw16 b (p+7)
    reserved6 := e.raw16 b (p+9) }

def CyclicRespHeader.inMemory : CyclicRespHeader :=
  { protocolVer := e.raw16 b p, endCode := e.raw16 b (p+2)
    cyclicInfoOffsetAddr := e.raw16 b (p+4), reserved1 := fun i => b (p+6+i) }

def SlaveStationNotification.inMemory : SlaveStationNotification :=
  { vendorCode := e.raw16 b p, reserved1 := e.raw16 b (p+2), modelCode := e.raw32 b (p+4)
    equipmentVer := e.raw16 b (p+8), reserved2 := e.raw16 b (p+10)
    slaveLocalUnitInfo := e.raw16 b (p+12), slaveErrCode := e.raw16 b (p+14)
    localManagementInfo := e.raw32 b (p+16) }

def CyclicRespDataHeader.inMemory : CyclicRespDataHeader :=
  { slaveId := e.raw32 b p, groupNo := b (p+4), reserved2 := b (p+5)
    frameSequenceNo := e.raw16 b (p+6) }

def RespFullHeaders.inMemory : RespFullHeaders :=
  { respHeader := .inMemory e b 0, cyclicHeader := .inMemory e b 11
    slaveStationNotification := .inMemory e b 31, cyclicDataHeader := .inMemory e b 51 }

end

/-! ## conversion -/

section
variable (e : Endian)

/-- `CC_TO_LE16` and its relatives, or `CC_FROM_LE16` and its relatives, on every field -/
def ReqHeader.converted (h : ReqHeader) : ReqHeader :=
  { h with
    reserved1 := e.be16 h.reserved1, reserved4 := e.le16 h.reserved4, dl := e.le16 h.dl
    reserved6 := e.le16 h.reserved6, command := e.le16 h.command
    subCommand := e.le16 h.subCommand }

def CyclicReqHeader.converted (h : CyclicReqHeader) : CyclicReqHeader :=
  { h with
    protocolVer := e.le16 h.protocolVer, reserved1 := e.le16 h.reserved1
    cyclicInfoOffsetAddr := e.le16 h.cyclicInfoOffsetAddr }

def MasterStationNotification.converted (h : MasterStationNotification) :
    MasterStationNotification :=
  { masterLocalUnitInfo := e.le16 h.masterLocalUnitInfo, reserved := e.le16 h.reserved
    clockInfo := e.le64 h.clockInfo }

def CyclicReqDataHeader.converted (h : CyclicReqDataHeader) : CyclicReqDataHeader :=
  { h with
    masterId := e.le32 h.masterId, frameSequenceNo := e.le16 h.frameSequenceNo
    timeoutValue := e.le16 h.timeoutValue
    parallelOffTimeoutCount := e.le16 h.parallelOffTimeoutCount
    parameterNo := e.le16 h.parameterNo
    slaveTotalOccupiedStationCount := e.le16 h.slaveTotalOccupiedStationCount
    cyclicTransmissionState := e.le16 h.cyclicTransmissionState, reserved4 := e.le16 h.reserved4 }

def ReqFullHeaders.converted (h : ReqFullHeaders) : ReqFullHeaders :=
  { reqHeader := h.reqHeader.converted e, cyclicHeader := h.cyclicHeader.converted e
    masterStationNotification := h.masterStationNotification.converted e
    cyclicDataHeader := h.cyclicDataHeader.converted e }

def RespHeader.converted (h : RespHeader) : RespHeader :=
  { h with
    reserved1 := e.be16 h.reserved1, reserved4 := e.le16 h.reserved4, dl := e.le16 h.dl
    reserved6 := e.le16 h.reserved6 }

def CyclicRespHeader.converted (h : CyclicRespHeader) : CyclicRespHeader :=
  { h with
    protocolVer := e.le16 h.protocolVer, endCode := e.le16 h.endCode
    cyclicInfoOffsetAddr := e.le16 h.cyclicInfoOffsetAddr }

def SlaveStationNotification.converted (h : SlaveStationNotification) : SlaveStationNotification :=
  { vendorCode := e.le16 h.vendorCode, reserved1 := e.le16 h.reserved1
    modelCode := e.le32 h.modelCode, equipmentVer := e.le16 h.equipmentVer
    reserved2 := e.le16 h.reserved2, slaveLocalUnitInfo := e.le16 h.slaveLocalUnitInfo
    slaveErrCode := e.le16 h.slaveErrCode, localManagementInfo := e.le32 h.localManagementInfo }

def CyclicRespDataHeader.converted (h : CyclicRespDataHeader) : CyclicRespDataHeader :=
  { h with slaveId := e.le32 h.slaveId, frameSequenceNo := e.le16 h.frameSequenceNo }

def RespFullHeaders.converted (h : RespFullHeaders) : RespFullHeaders :=
  { respHeader := h.respHeader.converted e, cyclicHeader := h.cyclicHeader.converted e
    slaveStationNotification := h.slaveStationNotification.converted e
    cyclicDataHeader := h.cyclicDataHeader.converted e }

@[simp] theorem ReqFullHeaders.converted_converted (h : ReqFullHeaders) :
    (h.converted e).converted e = h := by
  simp [ReqFullHeaders.converted, ReqHeader.converted, CyclicReqHeader.converted,
    MasterStationNotification.converted, CyclicReqDataHeader.converted]

@[simp] theorem RespFullHeaders.converted_converted (h : RespFullHeaders) :
    (h.converted e).converted e = h := by
  simp [RespFullHeaders.converted, RespHeader.converted, CyclicRespHeader.converted,
    SlaveStationNotification.converted, CyclicRespDataHeader.converted]

/-- the model's reader is a host that converts every field -/
theorem ReqFullHeaders.converted_inMemory (b : Nat → UInt8) :
    (ReqFullHeaders.inMemory e b).converted e = .ofBuffer b := by
  simp only [ReqFullHeaders.converted, ReqFullHeaders.inMemory, ReqHeader.converted,
    ReqHeader.inMemory, CyclicReqHeader.converted, CyclicReqHeader.inMemory,
    MasterStationNotification.converted, MasterStationNotification.inMemory,
    CyclicReqDataHeader.converted, CyclicReqDataHeader.inMemory, Endian.le16_raw16,
    Endian.be16_raw16, Endian.le32_raw32, Endian.le64_raw64]
  rfl

theorem RespFullHeaders.converted_inMemory (b : Nat → UInt8) :
    (RespFullHeaders.inMemory e b).converted e = .ofBuffer b := by
  simp only [RespFullHeaders.converted, RespFullHeaders.inMemory, RespHeader.converted,
    RespHeader.inMemory, CyclicRespHeader.converted, CyclicRespHeader.inMemory,
    SlaveStationNotification.converted, SlaveStationNotification.inMemory,
    CyclicRespDataHeader.converted, CyclicRespDataHeader.inMemory, Endian.le16_raw16,
    Endian.be16_raw16, Endian.le32_raw32]
  rfl

end

namespace Host

/-! ## checking a request -/

def clIefbParseRequestHeader (e : Endian) (dg : Datagram) : Option ReqHeader :=
  if 15 > dg.len then none else some (.inMemory e dg.byte 0)

def clIefbValidateRequestHeader (e : Endian) (header : ReqHeader) (recvLen : Nat) : Bool :=
  (e.le16 header.dl).toNat + reqHeaderDlOffset = recvLen
    ∧ e.be16 header.reserved1 = reqHeaderReserved1 ∧ header.reserved2 = reqHeaderReserved2
    ∧ header.reserved3 = reqHeaderReserved3 ∧ e.le16 header.reserved4 = reqHeaderReserved4
    ∧ header.reserved5 = reqHeaderReserved5 ∧ e.le16 header.reserved6 = reqHeaderReserved6

def clIefbValidateCyclicRequestHeader (e : Endian) (header : CyclicReqHeader) : Bool :=
  protocolVerSupported (e.le16 header.protocolVer)
    ∧ e.le16 header.cyclicInfoOffsetAddr = cyclicReqCyclicOffset
    ∧ e.le16 header.reserved1 = cyclicReqHeaderReserved1
    ∧ ∀ i, header.reserved2 i = cyclicReqHeaderReserved2

def clIefbValidateMasterStationNotification (e : Endian) (notification : MasterStationNotification)
    (protocolVer : UInt16) : Bool :=
  if protocolVer = 1 then
    e.le16 notification.masterLocalUnitInfo &&& masterStationNotificationMaskBitsVer1 = 0
      ∧ e.le16 notification.reserved = masterStationNotificationReserved
  else if protocolVer = 2 then
    e.le16 notification.masterLocalUnitInfo &&& masterStationNotificationMaskBitsVer2 = 0
      ∧ e.le16 notification.reserved = masterStationNotificationReserved
  else false

def clIefbValidateReqCyclicDataHeader (e : Endian) (header : CyclicReqDataHeader)
    (remoteIp : IpAddr) : Bool :=
  groupNoInRange header.groupNo
    ∧ occupiedStationsInRange (e.le16 header.slaveTotalOccupiedStationCount)
    ∧ header.reserved3 = cyclicReqDataHeaderReserved3
    ∧ e.le16 header.reserved4 = cyclicReqDataHeaderReserved4
    ∧ ¬ (e.le32 header.masterId = ipaddrInvalid ∨ e.le32 header.masterId ≠ remoteIp)

def clIefbParseReqFullCyclicHeaders (e : Endian) (dg : Datagram) : Option ReqFullHeaders :=
  if dg.len < 67 then none else some (.inMemory e dg.byte)

def clIefbValidateReqFullCyclicHeaders (e : Endian) (headers : ReqFullHeaders) (recvLen : Nat)
    (remoteIp : IpAddr) : Bool :=
  clIefbValidateCyclicRequestHeader e headers.cyclicHeader
    ∧ clIefbValidateMasterStationNotification e headers.masterStationNotification
        (e.le16 headers.cyclicHeader.protocolVer)
    ∧ clIefbValidateReqCyclicDataHeader e headers.cyclicDataHeader remoteIp
    ∧ clIefbValidateReqCyclicFrameSize (e.le16 headers.cyclicHeader.protocolVer) recvLen
        (e.le16 headers.reqHeader.dl) (e.le16 headers.cyclicDataHeader.slaveTotalOccupiedStationCount)
        (e.le16 headers.cyclicHeader.cyclicInfoOffsetAddr)

def clIefbParseCyclicRequest (e : Endian) (dg : Datagram) (remoteIp : IpAddr)
    (remotePort : UInt16) (localIp : IpAddr) : Except Failure CyclicRequest :=
  match clIefbParseReqFullCyclicHeaders e dg with
  | none => .error .rejected
  | some headers =>
    if ¬ clIefbValidateReqFullCyclicHeaders e headers dg.len remoteIp then .error .rejected
    else
      match clIefbParseRequestCyclicData dg.len
          (e.le16 headers.cyclicDataHeader.slaveTotalOccupiedStationCount) with
      | none => .error .assertFailed
      | some (firstSlaveId, firstRww, firstRy) =>
        .ok { remoteIp := remoteIp, remotePort := remotePort, slaveIpAddr := localIp
              fullHeaders := headers, buffer := dg.byte, firstSlaveId := firstSlaveId
              firstRww := firstRww, firstRy := firstRy }

section
variable (e : Endian) (b : Nat → UInt8) (p : Nat)

theorem clIefbValidateRequestHeader_inMemory (recvLen : Nat) :
    clIefbValidateRequestHeader e (.inMemory e b p) recvLen
      = CLink.clIefbValidateRequestHeader (.ofBuffer b p) recvLen := by
  simp only [clIefbValidateRequestHeader, ReqHeader.inMemory, Endian.le16_raw16,
    Endian.be16_raw16]
  rfl

theorem clIefbValidateCyclicRequestHeader_inMemory :
    clIefbValidateCyclicRequestHeader e (.inMemory e b p)
      = CLink.clIefbValidateCyclicRequestHeader (.ofBuffer b p) := by
  simp only [clIefbValidateCyclicRequestHeader, CyclicReqHeader.inMemory, Endian.le16_raw16]
  rfl

theorem clIefbValidateMasterStationNotification_inMemory (protocolVer : UInt16) :
    clIefbValidateMasterStationNotification e (.inMemory e b p) protocolVer
      = CLink.clIefbValidateMasterStationNotification (.ofBuffer b p) protocolVer := by
  simp only [clIefbValidateMasterStationNotification, MasterStationNotification.inMemory,
    Endian.le16_raw16]
  rfl

theorem clIefbValidateReqCyclicDataHeader_inMemory (remoteIp : IpAddr) :
    clIefbValidateReqCyclicDataHeader e (.inMemory e b p) remoteIp
      = CLink.clIefbValidateReqCyclicDataHeader (.ofBuffer b p) remoteIp := by
  simp only [clIefbValidateReqCyclicDataHeader, CyclicReqDataHeader.inMemory, Endian.le16_raw16,
    Endian.le32_raw32]
  rfl

theorem clIefbValidateReqFullCyclicHeaders_inMemory (recvLen : Nat) (remoteIp : IpAddr) :
    clIefbValidateReqFullCyclicHeaders e (.inMemory e b) recvLen remoteIp
      = CLink.clIefbValidateReqFullCyclicHeaders (.ofBuffer b) recvLen remoteIp := by
  simp only [clIefbValidateReqFullCyclicHeaders, ReqFullHeaders.inMemory,
    clIefbValidateCyclicRequestHeader_inMemory, clIefbValidateMasterStationNotification_inMemory,
    clIefbValidateReqCyclicDataHeader_inMemory]
  simp only [CyclicReqHeader.inMemory, ReqHeader.inMemory, CyclicReqDataHeader.inMemory,
    Endian.le16_raw16]
  rfl

end

/-! ## reading a parsed request -/

def clIefbRequestGetRww (e : Endian) (request : CyclicRequest) (absSlaveStation : UInt16) :
    Option (Nat → WordArea) :=
  let n := e.le16 request.fullHeaders.cyclicDataHeader.slaveTotalOccupiedStationCount
  if absSlaveStation < minOccupiedStationsPerGroup ∨ absSlaveStation > maxOccupiedStationsPerGroup
      ∨ absSlaveStation > n then none
  else some (fun k j => e.raw16 request.buffer
    (request.firstRww + 64*(absSlaveStation.toNat - 1 + k) + 2*j))

def clIefbRequestGetRy (e : Endian) (request : CyclicRequest) (absSlaveStation : UInt16) :
    Option (Nat → BitArea) :=
  let n := e.le16 request.fullHeaders.cyclicDataHeader.slaveTotalOccupiedStationCount
  if absSlaveStation < minOccupiedStationsPerGroup ∨ absSlaveStation > maxOccupiedStationsPerGroup
      ∨ absSlaveStation > n then none
  else some (fun k => request.ry (absSlaveStation.toNat - 1 + k))

/-- the slave ids are in the order of the host -/
def clIefbRequestGetSlaveId (e : Endian) (slaveIds : Nat → IpAddr)
    (absSlaveStation totalOccupied : UInt16) : Option IpAddr :=
  if ¬ occupiedStationsInRange totalOccupied then none
  else if absSlaveStation < minOccupiedStationsPerGroup
      ∨ absSlaveStation > maxOccupiedStationsPerGroup ∨ absSlaveStation > totalOccupied then none
  else some (e.le32 (slaveIds (absSlaveStation.toNat - 1)))

/-- what the two stacks take from a request, each value with the same macro at every place -/
structure RequestValues where
  protocolVer : UInt16
  masterLocalUnitInfo : UInt16
  clockInfo : UInt64
  masterId : IpAddr
  groupNo : UInt8
  frameSequenceNo : UInt16
  timeoutValue : UInt16
  parallelOffTimeoutCount : UInt16
  parameterNo : UInt16
  totalOccupied : UInt16
  cyclicTransmissionState : UInt16
  slaveId : UInt16 → Option IpAddr
  rww : UInt16 → Option (Nat → WordArea)
  ry : UInt16 → Option (Nat → BitArea)

def requestValues (e : Endian) (request : CyclicRequest) : RequestValues :=
  let headers := request.fullHeaders
  let totalOccupied := e.le16 headers.cyclicDataHeader.slaveTotalOccupiedStationCount
  { protocolVer := e.le16 headers.cyclicHeader.protocolVer
    masterLocalUnitInfo := e.le16 headers.masterStationNotification.masterLocalUnitInfo
    clockInfo := e.le64 headers.masterStationNotification.clockInfo
    masterId := e.le32 headers.cyclicDataHeader.masterId
    groupNo := headers.cyclicDataHeader.groupNo
    frameSequenceNo := e.le16 headers.cyclicDataHeader.frameSequenceNo
    timeoutValue := e.le16 headers.cyclicDataHeader.timeoutValue
    parallelOffTimeoutCount := e.le16 headers.cyclicDataHeader.parallelOffTimeoutCount
    parameterNo := e.le16 headers.cyclicDataHeader.parameterNo
    totalOccupied := totalOccupied
    cyclicTransmissionState := e.le16 headers.cyclicDataHeader.cyclicTransmissionState
    slaveId := fun station => clIefbRequestGetSlaveId e
      (fun k => e.raw32 request.buffer (request.firstSlaveId + 4*k)) station totalOccupied
    rww := fun station => (clIefbRequestGetRww e request station).map
      (fun areas k j => e.le16 (areas k j))
    ry := fun station => clIefbRequestGetRy e request station }

/-- the same values in the model -/
def modelRequestValues (request : CyclicRequest) : RequestValues :=
  let headers := request.fullHeaders
  { protocolVer := headers.cyclicHeader.protocolVer
    masterLocalUnitInfo := headers.masterStationNotification.masterLocalUnitInfo
    clockInfo := headers.masterStationNotification.clockInfo
    masterId := headers.cyclicDataHeader.masterId
    groupNo := headers.cyclicDataHeader.groupNo
    frameSequenceNo := headers.cyclicDataHeader.frameSequenceNo
    timeoutValue := headers.cyclicDataHeader.timeoutValue
    parallelOffTimeoutCount := headers.cyclicDataHeader.parallelOffTimeoutCount
    parameterNo := headers.cyclicDataHeader.parameterNo
    totalOccupied := headers.cyclicDataHeader.slaveTotalOccupiedStationCount
    cyclicTransmissionState := headers.cyclicDataHeader.cyclicTransmissionState
    slaveId := fun station => CLink.clIefbRequestGetSlaveId request.slaveIds station
      headers.cyclicDataHeader.slaveTotalOccupiedStationCount
    rww := CLink.clIefbRequestGetRww request
    ry := CLink.clIefbRequestGetRy request }

theorem requestValues_inMemory (e : Endian) (r : CyclicRequest) (b : Nat → UInt8) :
    requestValues e { r with fullHeaders := .inMemory e b, buffer := b }
      = modelRequestValues { r with fullHeaders := .ofBuffer b, buffer := b } := by
  have hrww : ∀ station, (clIefbRequestGetRww e
      { r with fullHeaders := .inMemory e b, buffer := b } station).map
        (fun areas k j => e.le16 (areas k j))
      = CLink.clIefbRequestGetRww { r with fullHeaders := .ofBuffer b, buffer := b } station := by
    intro station
    simp only [clIefbRequestGetRww, ReqFullHeaders.inMemory, CyclicReqDataHeader.inMemory,
      Endian.le16_raw16, apply_ite (Option.map _), Option.map_none, Option.map_some]
    rfl
  unfold requestValues modelRequestValues
  simp only [hrww]
  simp only [clIefbRequestGetSlaveId, clIefbRequestGetRy, ReqFullHeaders.inMemory,
    CyclicReqHeader.inMemory, MasterStationNotification.inMemory, CyclicReqDataHeader.inMemory,
    Endian.le16_raw16, Endian.le32_raw32, Endian.le64_raw64]
  rfl

/-- a host accepts the requests that the model accepts, and takes the same values from them -/
theorem clIefbParseCyclicRequest_values (e : Endian) (dg : Datagram) (remoteIp : IpAddr)
    (remotePort : UInt16) (localIp : IpAddr) :
    (clIefbParseCyclicRequest e dg remoteIp remotePort localIp).map (requestValues e)
      = (CLink.clIefbParseCyclicRequest dg remoteIp remotePort localIp).map modelRequestValues := by
  have hcount : e.le16 (ReqFullHeaders.inMemory e dg.byte).cyclicDataHeader.slaveTotalOccupiedStationCount
      = (ReqFullHeaders.ofBuffer dg.byte).cyclicDataHeader.slaveTotalOccupiedStationCount :=
    e.le16_raw16 dg.byte _
  unfold clIefbParseCyclicRequest CLink.clIefbParseCyclicRequest clIefbParseReqFullCyclicHeaders
    CLink.clIefbParseReqFullCyclicHeaders
  by_cases hlen : dg.len < 67
  · rw [if_pos hlen, if_pos hlen]
    rfl
  · rw [if_neg hlen, if_neg hlen]
    simp only [clIefbValidateReqFullCyclicHeaders_inMemory, hcount]
    split
    · rfl
    · rcases clIefbParseRequestCyclicData dg.len (ReqFullHeaders.ofBuffer
          dg.byte).cyclicDataHeader.slaveTotalOccupiedStationCount with
        _ | ⟨firstSlaveId, firstRww, firstRy⟩
      · rfl
      · show Except.ok (requestValues e _) = Except.ok (modelRequestValues _)
        exact congrArg Except.ok (requestValues_inMemory e ⟨remoteIp, remotePort, localIp,
          .ofBuffer dg.byte, dg.byte, firstSlaveId, firstRww, firstRy⟩ dg.byte)

/-! ## checking a response -/

def clIefbParseResponseHeader (e : Endian) (dg : Datagram) : Option RespHeader :=
  if 11 > dg.len then none else some (.inMemory e dg.byte 0)

def clIefbValidateResponseHeader (e : Endian) (header : RespHeader) (recvLen : Nat) : Bool :=
  (e.le16 header.dl).toNat + respHeaderDlOffset = recvLen
    ∧ e.be16 header.reserved1 = respHeaderReserved1 ∧ header.reserved2 = respHeaderReserved2
    ∧ header.reserved3 = respHeaderReserved3 ∧ e.le16 header.reserved4 = respHeaderReserved4
    ∧ header.reserved5 = respHeaderReserved5 ∧ e.le16 header.reserved6 = reqHeaderReserved6

def clIefbParseRespFullCyclicHeaders (e : Endian) (dg : Datagram) : Option RespFullHeaders :=
  if dg.len < 59 then none else some (.inMemory e dg.byte)

def clIefbValidateCyclicRespHeader (e : Endian) (header : CyclicRespHeader) : Bool :=
  protocolVerSupported (e.le16 header.protocolVer)
    ∧ e.le16 header.cyclicInfoOffsetAddr = cyclicRespCyclicOffset
    ∧ ∀ i, header.reserved1 i = cyclicRespHeaderReserved1

def clIefbValidateSlaveStationNotification (e : Endian) (notification : SlaveStationNotification) :
    Bool :=
  e.le16 notification.slaveLocalUnitInfo &&& slaveStationNotificationMaskBits = 0
    ∧ e.le16 notification.reserved1 = slaveStationNotificationReserved1
    ∧ e.le16 notification.reserved2 = slaveStationNotificationReserved2

def clIefbValidateRespCyclicDataHeader (e : Endian) (header : CyclicRespDataHeader)
    (remoteIp : IpAddr) : Bool :=
  groupNoInRange header.groupNo
    ∧ header.reserved2 = cyclicRespDataHeaderReserved2
    ∧ ¬ (e.le32 header.slaveId = ipaddrInvalid ∨ e.le32 header.slaveId ≠ remoteIp)

def clIefbValidateRespFullCyclicHeaders (e : Endian) (headers : RespFullHeaders) (recvLen : Nat)
    (remoteIp : IpAddr) : Bool :=
  clIefbValidateCyclicRespHeader e headers.cyclicHeader
    ∧ clIefbValidateSlaveStationNotification e headers.slaveStationNotification
    ∧ clIefbValidateRespCyclicDataHeader e headers.cyclicDataHeader remoteIp
    ∧ clIefbValidateRespCyclicFrameSize (e.le16 headers.cyclicHeader.protocolVer) recvLen
        (e.le16 headers.respHeader.dl)

def clIefbParseCyclicResponse (e : Endian) (dg : Datagram) (remoteIp : IpAddr)
    (remotePort : UInt16) (now : UInt32) : Except Failure CyclicResponse :=
  match clIefbParseRespFullCyclicHeaders e dg with
  | none => .error .rejected
  | some headers =>
    if ¬ clIefbValidateRespFullCyclicHeaders e headers dg.len remoteIp then .error .rejected
    else
      let numberOfOccupiedStations := clCalculateNumberOfOccupiedStations dg.len
      if numberOfOccupiedStations = 0 then .error .rejected
      else
        match clIefbParseResponseCyclicData dg.len numberOfOccupiedStations with
        | none => .error .assertFailed
        | some (firstRwr, firstRx) =>
          .ok { remotePort := remotePort, remoteIp := remoteIp
                numberOfOccupied := numberOfOccupiedStations, receptionTimestamp := now
                fullHeaders := headers, buffer := dg.byte, firstRwr := firstRwr
                firstRx := firstRx }

section
variable (e : Endian) (b : Nat → UInt8) (p : Nat)

theorem clIefbValidateResponseHeader_inMemory (recvLen : Nat) :
    clIefbValidateResponseHeader e (.inMemory e b p) recvLen
      = CLink.clIefbValidateResponseHeader (.ofBuffer b p) recvLen := by
  simp only [clIefbValidateResponseHeader, RespHeader.inMemory, Endian.le16_raw16,
    Endian.be16_raw16]
  rfl

theorem clIefbValidateCyclicRespHeader_inMemory :
    clIefbValidateCyclicRespHeader e (.inMemory e b p)
      = CLink.clIefbValidateCyclicRespHeader (.ofBuffer b p) := by
  simp only [clIefbValidateCyclicRespHeader, CyclicRespHeader.inMemory, Endian.le16_raw16]
  rfl

theorem clIefbValidateSlaveStationNotification_inMemory :
    clIefbValidateSlaveStationNotification e (.inMemory e b p)
      = CLink.clIefbValidateSlaveStationNotification (.ofBuffer b p) := by
  simp only [clIefbValidateSlaveStationNotification, SlaveStationNotification.inMemory,
    Endian.le16_raw16]
  rfl

theorem clIefbValidateRespCyclicDataHeader_inMemory (remoteIp : IpAddr) :
    clIefbValidateRespCyclicDataHeader e (.inMemory e b p) remoteIp
      = CLink.clIefbValidateRespCyclicDataHeader (.ofBuffer b p) remoteIp := by
  simp only [clIefbValidateRespCyclicDataHeader, CyclicRespDataHeader.inMemory, Endian.le32_raw32]
  rfl

theorem clIefbValidateRespFullCyclicHeaders_inMemory (recvLen : Nat) (remoteIp : IpAddr) :
    clIefbValidateRespFullCyclicHeaders e (.inMemory e b) recvLen remoteIp
      = CLink.clIefbValidateRespFullCyclicHeaders (.ofBuffer b) recvLen remoteIp := by
  simp only [clIefbValidateRespFullCyclicHeaders, RespFullHeaders.inMemory,
    clIefbValidateCyclicRespHeader_inMemory, clIefbValidateSlaveStationNotification_inMemory,
    clIefbValidateRespCyclicDataHeader_inMemory]
  simp only [CyclicRespHeader.inMemory, RespHeader.inMemory, Endian.le16_raw16]
  rfl

end

/-- what the master takes from a response -/
structure ResponseValues where
  protocolVer : UInt16
  endCode : UInt16
  vendorCode : UInt16
  modelCode : UInt32
  equipmentVer : UInt16
  slaveLocalUnitInfo : UInt16
  slaveErrCode : UInt16
  localManagementInfo : UInt32
  slaveId : IpAddr
  groupNo : UInt8
  frameSequenceNo : UInt16
  numberOfOccupied : UInt16
  rwr : Nat → WordArea
  rx : Nat → BitArea

def responseValues (e : Endian) (response : CyclicResponse) : ResponseValues :=
  let headers := response.fullHeaders
  { protocolVer := e.le16 headers.cyclicHeader.protocolVer
    endCode := e.le16 headers.cyclicHeader.endCode
    vendorCode := e.le16 headers.slaveStationNotification.vendorCode
    modelCode := e.le32 headers.slaveStationNotification.modelCode
    equipmentVer := e.le16 headers.slaveStationNotification.equipmentVer
    slaveLocalUnitInfo := e.le16 headers.slaveStationNotification.slaveLocalUnitInfo
    slaveErrCode := e.le16 headers.slaveStationNotification.slaveErrCode
    localManagementInfo := e.le32 headers.slaveStationNotification.localManagementInfo
    slaveId := e.le32 headers.cyclicDataHeader.slaveId
    groupNo := headers.cyclicDataHeader.groupNo
    frameSequenceNo := e.le16 headers.cyclicDataHeader.frameSequenceNo
    numberOfOccupied := response.numberOfOccupied
    rwr := fun k j => e.le16 (e.raw16 response.buffer (response.firstRwr + 64*k + 2*j))
    rx := response.rx }

/-- the same values in the model -/
def modelResponseValues (response : CyclicResponse) : ResponseValues :=
  let headers := response.fullHeaders
  { protocolVer := headers.cyclicHeader.protocolVer
    endCode := headers.cyclicHeader.endCode
    vendorCode := headers.slaveStationNotification.vendorCode
    modelCode := headers.slaveStationNotification.modelCode
    equipmentVer := headers.slaveStationNotification.equipmentVer
    slaveLocalUnitInfo := headers.slaveStationNotification.slaveLocalUnitInfo
    slaveErrCode := headers.slaveStationNotification.slaveErrCode
    localManagementInfo := headers.slaveStationNotification.localManagementInfo
    slaveId := headers.cyclicDataHeader.slaveId
    groupNo := headers.cyclicDataHeader.groupNo
    frameSequenceNo := headers.cyclicDataHeader.frameSequenceNo
    numberOfOccupied := response.numberOfOccupied
    rwr := response.rwr
    rx := response.rx }

theorem responseValues_inMemory (e : Endian) (r : CyclicResponse) (b : Nat → UInt8) :
    responseValues e { r with fullHeaders := .inMemory e b, buffer := b }
      = modelResponseValues { r with fullHeaders := .ofBuffer b, buffer := b } := by
  unfold responseValues modelResponseValues
  simp only [RespFullHeaders.inMemory, CyclicRespHeader.inMemory, SlaveStationNotification.inMemory,
    CyclicRespDataHeader.inMemory, Endian.le16_raw16, Endian.le32_raw32]
  rfl

/-- a host accepts the responses that the model accepts, and takes the same values from them -/
theorem clIefbParseCyclicResponse_values (e : Endian) (dg : Datagram) (remoteIp : IpAddr)
    (remotePort : UInt16) (now : UInt32) :
    (clIefbParseCyclicResponse e dg remoteIp remotePort now).map (responseValues e)
      = (CLink.clIefbParseCyclicResponse dg remoteIp remotePort now).map modelResponseValues := by
  unfold clIefbParseCyclicResponse CLink.clIefbParseCyclicResponse clIefbParseRespFullCyclicHeaders
    CLink.clIefbParseRespFullCyclicHeaders
  by_cases hlen : dg.len < 59
  · rw [if_pos hlen, if_pos hlen]
    rfl
  · rw [if_neg hlen, if_neg hlen]
    simp only [clIefbValidateRespFullCyclicHeaders_inMemory]
    split
    · rfl
    · split
      · rfl
      · rcases clIefbParseResponseCyclicData dg.len (clCalculateNumberOfOccupiedStations dg.len) with
          _ | ⟨firstRwr, firstRx⟩
        · rfl
        · show Except.ok (responseValues e _) = Except.ok (modelResponseValues _)
          exact congrArg Except.ok (responseValues_inMemory e ⟨remotePort, remoteIp,
            clCalculateNumberOfOccupiedStations dg.len, now, .ofBuffer dg.byte, dg.byte, firstRwr,
            firstRx⟩ dg.byte)

/-! ## all results for a payload -/

/-- the results of the functions above on one payload, with the values that the callers take -/
structure CciefbResults where
  requestHeader : Option (Bool × UInt16 × UInt16)
  cyclicRequestHeader : Nat → Bool
  masterStationNotification : Nat → UInt16 → Bool
  reqCyclicDataHeader : Nat → IpAddr → Bool
  reqFullCyclicHeaders : IpAddr → Bool
  cyclicRequest : IpAddr → UInt16 → IpAddr → Except Failure RequestValues
  responseHeader : Option Bool
  cyclicRespHeader : Nat → Bool
  slaveStationNotification : Nat → Bool
  respCyclicDataHeader : Nat → IpAddr → Bool
  respFullCyclicHeaders : IpAddr → Bool
  cyclicResponse : IpAddr → UInt16 → UInt32 → Except Failure ResponseValues

def cciefbResults (e : Endian) (dg : Datagram) : CciefbResults :=
  { requestHeader := (clIefbParseRequestHeader e dg).map (fun h =>
      (clIefbValidateRequestHeader e h dg.len, e.le16 h.command, e.le16 h.subCommand))
    cyclicRequestHeader := fun p => clIefbValidateCyclicRequestHeader e (.inMemory e dg.byte p)
    masterStationNotification := fun p =>
      clIefbValidateMasterStationNotification e (.inMemory e dg.byte p)
    reqCyclicDataHeader := fun p => clIefbValidateReqCyclicDataHeader e (.inMemory e dg.byte p)
    reqFullCyclicHeaders :=
      clIefbValidateReqFullCyclicHeaders e (.inMemory e dg.byte) dg.len
    cyclicRequest := fun remoteIp remotePort localIp =>
      (clIefbParseCyclicRequest e dg remoteIp remotePort localIp).map (requestValues e)
    responseHeader := (clIefbParseResponseHeader e dg).map (fun h =>
      clIefbValidateResponseHeader e h dg.len)
    cyclicRespHeader := fun p => clIefbValidateCyclicRespHeader e (.inMemory e dg.byte p)
    slaveStationNotification := fun p =>
      clIefbValidateSlaveStationNotification e (.inMemory e dg.byte p)
    respCyclicDataHeader := fun p => clIefbValidateRespCyclicDataHeader e (.inMemory e dg.byte p)
    respFullCyclicHeaders :=
      clIefbValidateRespFullCyclicHeaders e (.inMemory e dg.byte) dg.len
    cyclicResponse := fun remoteIp remotePort now =>
      (clIefbParseCyclicResponse e dg remoteIp remotePort now).map (responseValues e) }

def modelCciefbResults (dg : Datagram) : CciefbResults :=
  { requestHeader := (CLink.clIefbParseRequestHeader dg).map (fun h =>
      (CLink.clIefbValidateRequestHeader h dg.len, h.command, h.subCommand))
    cyclicRequestHeader := fun p => CLink.clIefbValidateCyclicRequestHeader (.ofBuffer dg.byte p)
    masterStationNotification := fun p =>
      CLink.clIefbValidateMasterStationNotification (.ofBuffer dg.byte p)
    reqCyclicDataHeader := fun p => CLink.clIefbValidateReqCyclicDataHeader (.ofBuffer dg.byte p)
    reqFullCyclicHeaders := CLink.clIefbValidateReqFullCyclicHeaders (.ofBuffer dg.byte) dg.len
    cyclicRequest := fun remoteIp remotePort localIp =>
      (CLink.clIefbParseCyclicRequest dg remoteIp remotePort localIp).map modelRequestValues
    responseHeader := (CLink.clIefbParseResponseHeader dg).map (fun h =>
      CLink.clIefbValidateResponseHeader h dg.len)
    cyclicRespHeader := fun p => CLink.clIefbValidateCyclicRespHeader (.ofBuffer dg.byte p)
    slaveStationNotification := fun p =>
      CLink.clIefbValidateSlaveStationNotification (.ofBuffer dg.byte p)
    respCyclicDataHeader := fun p =>
      CLink.clIefbValidateRespCyclicDataHeader (.ofBuffer dg.byte p)
    respFullCyclicHeaders := CLink.clIefbValidateRespFullCyclicHeaders (.ofBuffer dg.byte) dg.len
    cyclicResponse := fun remoteIp remotePort now =>
      (CLink.clIefbParseCyclicResponse dg remoteIp remotePort now).map modelResponseValues }

theorem cciefbResults_eq (e : Endian) (dg : Datagram) :
    cciefbResults e dg = modelCciefbResults dg := by
  have hrequest : (clIefbParseRequestHeader e dg).map (fun h =>
        (clIefbValidateRequestHeader e h dg.len, e.le16 h.command, e.le16 h.subCommand))
      = (CLink.clIefbParseRequestHeader dg).map (fun h =>
        (CLink.clIefbValidateRequestHeader h dg.len, h.command, h.subCommand)) := by
    unfold clIefbParseRequestHeader CLink.clIefbParseRequestHeader
    split
    · rfl
    · rw [Option.map_some, Option.map_some, clIefbValidateRequestHeader_inMemory]
      simp only [ReqHeader.inMemory, ReqHeader.ofBuffer, Endian.le16_raw16]
  have hresponse : (clIefbParseResponseHeader e dg).map (fun h =>
        clIefbValidateResponseHeader e h dg.len)
      = (CLink.clIefbParseResponseHeader dg).map (fun h =>
        CLink.clIefbValidateResponseHeader h dg.len) := by
    unfold clIefbParseResponseHeader CLink.clIefbParseResponseHeader
    split
    · rfl
    · simp only [Option.map_some, clIefbValidateResponseHeader_inMemory]
  unfold cciefbResults modelCciefbResults
  rw [CciefbResults.mk.injEq]
  refine ⟨hrequest, ?_, ?_, ?_, ?_, ?_, hresponse, ?_, ?_, ?_, ?_, ?_⟩
  · funext p
    exact clIefbValidateCyclicRequestHeader_inMemory e dg.byte p
  · funext p protocolVer
    exact clIefbValidateMasterStationNotification_inMemory e dg.byte p protocolVer
  · funext p remoteIp
    exact clIefbValidateReqCyclicDataHeader_inMemory e dg.byte p remoteIp
  · funext remoteIp
    exact clIefbValidateReqFullCyclicHeaders_inMemory e dg.byte dg.len remoteIp
  · funext remoteIp remotePort localIp
    exact clIefbParseCyclicRequest_values e dg remoteIp remotePort localIp
  · funext p
    exact clIefbValidateCyclicRespHeader_inMemory e dg.byte p
  · funext p
    exact clIefbValidateSlaveStationNotification_inMemory e dg.byte p
  · funext p remoteIp
    exact clIefbValidateRespCyclicDataHeader_inMemory e dg.byte p remoteIp
  · funext remoteIp
    exact clIefbValidateRespFullCyclicHeaders_inMemory e dg.byte dg.len remoteIp
  · funext remoteIp remotePort now
    exact clIefbParseCyclicResponse_values e dg remoteIp remotePort now

/-! ## building a frame -/

def clIefbInitialiseRequestFrame (e : Endian)
    (protocolVer timeoutValue parallelOffTimeoutCount : UInt16) (masterId : IpAddr)
    (groupNo occupiedStations parameterNo : UInt16) : ReqFullHeaders :=
  { reqHeader :=
      { reserved1 := e.be16 reqHeaderReserved1, reserved2 := reqHeaderReserved2
        reserved3 := reqHeaderReserved3, reserved4 := e.le16 reqHeaderReserved4
        reserved5 := reqHeaderReserved5
        dl := e.le16 (UInt16.ofNat (clCalculateCyclicRequestSize occupiedStations
          - reqHeaderDlOffset))
        reserved6 := e.le16 reqHeaderReserved6, command := e.le16 slmpCommandCciefbCyclic
        subCommand := e.le16 slmpSubcommandCciefbCyclic }
    cyclicHeader :=
      { protocolVer := e.le16 protocolVer, reserved1 := e.le16 cyclicReqHeaderReserved1
        cyclicInfoOffsetAddr := e.le16 cyclicReqCyclicOffset, reserved2 := fun _ => 0 }
    masterStationNotification :=
      { masterLocalUnitInfo := 0, reserved := e.le16 masterStationNotificationReserved
        clockInfo := 0 }
    cyclicDataHeader :=
      { masterId := e.le32 masterId, groupNo := groupNo.toUInt8
        reserved3 := cyclicReqDataHeaderReserved3, frameSequenceNo := 0
        timeoutValue := e.le16 timeoutValue
        parallelOffTimeoutCount := e.le16 parallelOffTimeoutCount
        parameterNo := e.le16 parameterNo
        slaveTotalOccupiedStationCount := e.le16 occupiedStations, cyclicTransmissionState := 0
        reserved4 := e.le16 cyclicReqDataHeaderReserved4 } }

def clIefbUpdateRequestFrameHeaders (e : Endian) (headers : ReqFullHeaders)
    (frameSequenceNo : UInt16) (clockInfo : UInt64)
    (masterLocalUnitInfo cyclicTransmissionState : UInt16) : ReqFullHeaders :=
  { headers with
    masterStationNotification := { headers.masterStationNotification with
      masterLocalUnitInfo := e.le16 masterLocalUnitInfo
      clockInfo := e.le64 clockInfo }
    cyclicDataHeader := { headers.cyclicDataHeader with
      frameSequenceNo := e.le16 frameSequenceNo
      cyclicTransmissionState := e.le16 cyclicTransmissionState } }

def clIefbInitialiseCyclicResponseFrame (e : Endian) (occupiedStations vendorCode : UInt16)
    (modelCode : UInt32) (equipmentVer : UInt16) : RespFullHeaders :=
  { respHeader :=
      { reserved1 := e.be16 respHeaderReserved1, reserved2 := respHeaderReserved2
        reserved3 := respHeaderReserved3, reserved4 := e.le16 respHeaderReserved4
        reserved5 := respHeaderReserved5
        dl := e.le16 (UInt16.ofNat (clCalculateCyclicResponseSize occupiedStations
          - respHeaderDlOffset))
        reserved6 := e.le16 respHeaderReserved6 }
    cyclicHeader :=
      { protocolVer := e.le16 maxSupportedProtocolVer, endCode := e.le16 endcodeSuccess
        cyclicInfoOffsetAddr := e.le16 cyclicRespCyclicOffset, reserved1 := fun _ => 0 }
    slaveStationNotification :=
      { vendorCode := e.le16 vendorCode, reserved1 := e.le16 slaveStationNotificationReserved1
        modelCode := e.le32 modelCode, equipmentVer := e.le16 equipmentVer
        reserved2 := e.le16 slaveStationNotificationReserved2
        slaveLocalUnitInfo := e.le16 slaveApplOperationStatusOperating
        slaveErrCode := e.le16 defaultSlaveErrCode
        localManagementInfo := e.le32 defaultLocalManagInfo }
    cyclicDataHeader :=
      -- the slave id is cleared with the buffer
      { slaveId := 0, groupNo := 0, reserved2 := cyclicRespDataHeaderReserved2
        frameSequenceNo := e.le16 0 } }

def clIefbUpdateCyclicResponseFrame (e : Endian) (headers : RespFullHeaders) (slaveId : IpAddr)
    (endCode groupNo frameSequenceNo slaveLocalUnitInfo slaveErrCode : UInt16)
    (localManagementInfo : UInt32) : RespFullHeaders :=
  { headers with
    cyclicHeader := { headers.cyclicHeader with endCode := e.le16 endCode }
    slaveStationNotification := { headers.slaveStationNotification with
      slaveLocalUnitInfo := e.le16 slaveLocalUnitInfo
      slaveErrCode := e.le16 slaveErrCode
      localManagementInfo := e.le32 localManagementInfo }
    cyclicDataHeader := { headers.cyclicDataHeader with
      slaveId := e.le32 slaveId
      groupNo := groupNo.toUInt8
      frameSequenceNo := e.le16 frameSequenceNo } }

section
variable (e : Endian)

theorem clIefbInitialiseRequestFrame_eq
    (protocolVer timeoutValue parallelOffTimeoutCount : UInt16) (masterId : IpAddr)
    (groupNo occupiedStations parameterNo : UInt16) :
    clIefbInitialiseRequestFrame e protocolVer timeoutValue parallelOffTimeoutCount masterId groupNo
        occupiedStations parameterNo
      = (CLink.clIefbInitialiseRequestFrame protocolVer timeoutValue parallelOffTimeoutCount
          masterId groupNo occupiedStations parameterNo).fullHeaders.converted e := by
  simp only [clIefbInitialiseRequestFrame, CLink.clIefbInitialiseRequestFrame,
    ReqFullHeaders.converted, ReqHeader.converted, CyclicReqHeader.converted,
    MasterStationNotification.converted, CyclicReqDataHeader.converted, Endian.le16_zero,
    Endian.le64_zero]

theorem clIefbUpdateRequestFrameHeaders_converted (frameInfo : RequestFrame)
    (frameSequenceNo : UInt16) (clockInfo : UInt64)
    (masterLocalUnitInfo cyclicTransmissionState : UInt16) :
    clIefbUpdateRequestFrameHeaders e (frameInfo.fullHeaders.converted e) frameSequenceNo clockInfo
        masterLocalUnitInfo cyclicTransmissionState
      = (CLink.clIefbUpdateRequestFrameHeaders frameInfo frameSequenceNo clockInfo
          masterLocalUnitInfo cyclicTransmissionState).fullHeaders.converted e :=
  rfl

theorem clIefbInitialiseCyclicResponseFrame_eq (occupiedStations vendorCode : UInt16)
    (modelCode : UInt32) (equipmentVer : UInt16) :
    clIefbInitialiseCyclicResponseFrame e occupiedStations vendorCode modelCode equipmentVer
      = (CLink.clIefbInitialiseCyclicResponseFrame occupiedStations vendorCode modelCode
          equipmentVer).fullHeaders.converted e := by
  simp only [clIefbInitialiseCyclicResponseFrame, CLink.clIefbInitialiseCyclicResponseFrame,
    RespFullHeaders.converted, RespHeader.converted, CyclicRespHeader.converted,
    SlaveStationNotification.converted, CyclicRespDataHeader.converted, Endian.le16_zero,
    Endian.le32_zero]

theorem clIefbUpdateCyclicResponseFrame_converted (frameInfo : ResponseFrame) (slaveId : IpAddr)
    (endCode groupNo frameSequenceNo slaveLocalUnitInfo slaveErrCode : UInt16)
    (localManagementInfo : UInt32) :
    clIefbUpdateCyclicResponseFrame e (frameInfo.fullHeaders.converted e) slaveId endCode groupNo
        frameSequenceNo slaveLocalUnitInfo slaveErrCode localManagementInfo
      = (CLink.clIefbUpdateCyclicResponseFrame frameInfo slaveId endCode groupNo frameSequenceNo
          slaveLocalUnitInfo slaveErrCode localManagementInfo).fullHeaders.converted e :=
  rfl

/-- what one host has put into a buffer is what the model reads there -/
theorem reqFullHeaders_ofBuffer {b : Nat → UInt8} {headers : ReqFullHeaders}
    (h : ReqFullHeaders.inMemory e b = headers.converted e) : ReqFullHeaders.ofBuffer b = headers := by
  rw [← ReqFullHeaders.converted_inMemory e b, h, ReqFullHeaders.converted_converted]

theorem respFullHeaders_ofBuffer {b : Nat → UInt8} {headers : RespFullHeaders}
    (h : RespFullHeaders.inMemory e b = headers.converted e) :
    RespFullHeaders.ofBuffer b = headers := by
  rw [← RespFullHeaders.converted_inMemory e b, h, RespFullHeaders.converted_converted]

end

end Host

end CLink
