import CLink.Common.Headers
import CLink.Lib.Loop

/-!
# Cyclic request frames

The functions of `cl_iefb.c` that build a request frame (master), check and parse one (slave, and
the master for frames of other masters), and find a slave in its list of slave ids.

* `RequestFrame`                a request buffer: headers, slave ids, RWw and RY areas;
* `RequestFrame.datagram`       the UDP payload that `clal_udp_sendto` gets;
* `RequestFrame.fullHeaders_datagram`, `slaveIds_datagram`, `rww_datagram`, `ry_datagram`
                                what a reader of that payload finds;
* `clIefbParseCyclicRequest_ok` the conditions under which a request is parsed.
-/

namespace CLink
open Bytes Loop

/-- why a received frame is not handled: `return -1`, or a failing `CC_ASSERT` -/
inductive Failure where
  | rejected
  | assertFailed
  deriving DecidableEq, Repr

/-! ## field values -/

abbrev reqHeaderDlOffset : Nat := 9
abbrev reqHeaderReserved1 : UInt16 := 0x5000
abbrev reqHeaderReserved2 : UInt8 := 0x00
abbrev reqHeaderReserved3 : UInt8 := 0xFF
abbrev reqHeaderReserved4 : UInt16 := 0x03FF
abbrev reqHeaderReserved5 : UInt8 := 0x00
abbrev reqHeaderReserved6 : UInt16 := 0x0000
abbrev slmpCommandCciefbCyclic : UInt16 := 0x0E70
abbrev slmpSubcommandCciefbCyclic : UInt16 := 0x0000
abbrev cyclicReqHeaderReserved1 : UInt16 := 0x0000
abbrev cyclicReqHeaderReserved2 : UInt8 := 0x00
abbrev cyclicReqCyclicOffset : UInt16 := 36
abbrev masterStationNotificationReserved : UInt16 := 0x0000
abbrev masterStationNotificationMaskBitsVer1 : UInt16 := 0xFFFE
abbrev masterStationNotificationMaskBitsVer2 : UInt16 := 0xFFFC
abbrev masterLocalUnitInfoStopped : UInt16 := 0x0000
abbrev masterLocalUnitInfoRunning : UInt16 := 0x0001
abbrev masterLocalUnitInfoStoppedByUser : UInt16 := 0x0002
abbrev cyclicReqDataHeaderReserved3 : UInt8 := 0x00
abbrev cyclicReqDataHeaderReserved4 : UInt16 := 0x0000
abbrev cyclicTrStateAllOff : UInt16 := 0x0000

/-- 67 bytes, and 76 bytes for each occupied station -/
def clCalculateCyclicRequestSize (slaveTotalOccupiedStationCount : UInt16) : Nat :=
  15 + 20 + 12 + 20 + slaveTotalOccupiedStationCount.toNat * (4 + 64 + 8)

/-! ## building a frame -/

/-- `clm_cciefb_cyclic_request_info_t` and the buffer it points into; the pointers are positions -/
structure RequestFrame where
  udpPayloadLen : Nat
  fullHeaders : ReqFullHeaders
  firstSlaveId : Nat
  firstRww : Nat
  firstRy : Nat
  slaveIds : Nat → IpAddr
  rww : Nat → WordArea
  ry : Nat → BitArea

def clIefbInitialiseRequestFrame (protocolVer timeoutValue parallelOffTimeoutCount : UInt16)
    (masterId : IpAddr) (groupNo occupiedStations parameterNo : UInt16) : RequestFrame :=
  let udpPayloadLen := clCalculateCyclicRequestSize occupiedStations
  let reqHeader : ReqHeader :=
    { reserved1 := reqHeaderReserved1, reserved2 := reqHeaderReserved2
      reserved3 := reqHeaderReserved3, reserved4 := reqHeaderReserved4
      reserved5 := reqHeaderReserved5, dl := UInt16.ofNat (udpPayloadLen - reqHeaderDlOffset)
      reserved6 := reqHeaderReserved6, command := slmpCommandCciefbCyclic
      subCommand := slmpSubcommandCciefbCyclic }
  let cyclicHeader : CyclicReqHeader :=
    { protocolVer := protocolVer, reserved1 := cyclicReqHeaderReserved1
      cyclicInfoOffsetAddr := cyclicReqCyclicOffset, reserved2 := fun _ => 0 }
  let notification : MasterStationNotification :=
    { masterLocalUnitInfo := 0, reserved := masterStationNotificationReserved, clockInfo := 0 }
  let cyclicDataHeader : CyclicReqDataHeader :=
    { masterId := masterId, groupNo := groupNo.toUInt8, reserved3 := cyclicReqDataHeaderReserved3
      frameSequenceNo := 0, timeoutValue := timeoutValue
      parallelOffTimeoutCount := parallelOffTimeoutCount, parameterNo := parameterNo
      slaveTotalOccupiedStationCount := occupiedStations, cyclicTransmissionState := 0
      reserved4 := cyclicReqDataHeaderReserved4 }
  { udpPayloadLen := udpPayloadLen
    fullHeaders := { reqHeader := reqHeader, cyclicHeader := cyclicHeader
                     masterStationNotification := notification, cyclicDataHeader := cyclicDataHeader }
    firstSlaveId := 67
    firstRww := 67 + occupiedStations.toNat * 4
    firstRy := 67 + occupiedStations.toNat * 4 + occupiedStations.toNat * 64
    -- the buffer has been cleared
    slaveIds := fun _ => 0
    rww := fun _ => WordArea.zero
    ry := fun _ => BitArea.zero }

def clIefbUpdateRequestFrameHeaders (frameInfo : RequestFrame) (frameSequenceNo : UInt16)
    (clockInfo : UInt64) (masterLocalUnitInfo cyclicTransmissionState : UInt16) : RequestFrame :=
  { frameInfo with fullHeaders := { frameInfo.fullHeaders with
      masterStationNotification := { frameInfo.fullHeaders.masterStationNotification with
        masterLocalUnitInfo := masterLocalUnitInfo
        clockInfo := clockInfo }
      cyclicDataHeader := { frameInfo.fullHeaders.cyclicDataHeader with
        frameSequenceNo := frameSequenceNo
        cyclicTransmissionState := cyclicTransmissionState } } }

namespace RequestFrame

/-- the bytes of the buffer, in the order of the pointers -/
def byte (f : RequestFrame) (i : Nat) : UInt8 :=
  if i < f.firstSlaveId then f.fullHeaders.byte i
  else if i < f.firstRww then slaveIdsByte f.slaveIds (i - f.firstSlaveId)
  else if i < f.firstRy then wordAreasByte f.rww (i - f.firstRww)
  else bitAreasByte f.ry (i - f.firstRy)

def datagram (f : RequestFrame) : Datagram := { len := f.udpPayloadLen, byte := f.byte }

/-- the buffer is laid out for `n` occupied stations -/
structure Layout (f : RequestFrame) (n : Nat) : Prop where
  len : f.udpPayloadLen = 67 + 76*n
  firstSlaveId : f.firstSlaveId = 67
  firstRww : f.firstRww = 67 + 4*n
  firstRy : f.firstRy = 67 + 68*n

section
variable {f : RequestFrame} {n : Nat} (hf : f.Layout n)
include hf

theorem fullHeaders_datagram : ReqFullHeaders.ofBuffer f.datagram.byte = f.fullHeaders := by
  refine ReqFullHeaders.ofBuffer_byte (fun i hi => ?_)
  show f.byte i = _
  unfold byte
  rw [hf.firstSlaveId, if_pos hi]

theorem slaveIds_datagram {k : Nat} (hk : k < n) : slaveIdsAt f.datagram.byte 67 k = f.slaveIds k := by
  refine slaveIdsAt_byte (n := n) (fun i hi => ?_) hk
  show f.byte (67 + i) = _
  unfold byte
  rw [hf.firstSlaveId, hf.firstRww, if_neg (by omega), if_pos (by omega), Nat.add_sub_cancel_left]

theorem rww_datagram {k : Nat} (hk : k < n) :
    wordAreasAt f.datagram.byte (67 + 4*n) k = f.rww k := by
  refine wordAreasAt_byte (n := n) (fun i hi => ?_) hk
  show f.byte (67 + 4*n + i) = _
  unfold byte
  rw [hf.firstSlaveId, hf.firstRww, hf.firstRy, if_neg (by omega), if_neg (by omega),
    if_pos (by omega), Nat.add_sub_cancel_left]

theorem ry_datagram {k : Nat} (hk : k < n) : bitAreasAt f.datagram.byte (67 + 68*n) k = f.ry k := by
  refine bitAreasAt_byte (n := n) (fun i hi => ?_) hk
  show f.byte (67 + 68*n + i) = _
  unfold byte
  rw [hf.firstSlaveId, hf.firstRww, hf.firstRy, if_neg (by omega), if_neg (by omega),
    if_neg (by omega), Nat.add_sub_cancel_left]

end

end RequestFrame

theorem layout_initialise (protocolVer timeoutValue parallelOffTimeoutCount : UInt16)
    (masterId : IpAddr) (groupNo n parameterNo : UInt16) :
    (clIefbInitialiseRequestFrame protocolVer timeoutValue parallelOffTimeoutCount masterId groupNo
      n parameterNo).Layout n.toNat := by
  refine ⟨?_, rfl, ?_, ?_⟩
  · show clCalculateCyclicRequestSize n = _
    unfold clCalculateCyclicRequestSize
    omega
  · show 67 + n.toNat * 4 = _
    omega
  · show 67 + n.toNat * 4 + n.toNat * 64 = _
    omega

/-- `CC_ASSERT (buf_size >= udp_payload_len)` holds for every admissible station count -/
theorem clCalculateCyclicRequestSize_le {n : UInt16} (h : n.toNat ≤ 16) :
    clCalculateCyclicRequestSize n ≤ clBufferLen := by
  unfold clCalculateCyclicRequestSize
  show _ ≤ 1500
  omega

/-! ## checking and parsing a frame -/

def clIefbParseRequestHeader (dg : Datagram) : Option ReqHeader :=
  if 15 > dg.len then none else some (.ofBuffer dg.byte 0)

def clIefbValidateRequestHeader (header : ReqHeader) (recvLen : Nat) : Bool :=
  header.dl.toNat + reqHeaderDlOffset = recvLen
    ∧ header.reserved1 = reqHeaderReserved1 ∧ header.reserved2 = reqHeaderReserved2
    ∧ header.reserved3 = reqHeaderReserved3 ∧ header.reserved4 = reqHeaderReserved4
    ∧ header.reserved5 = reqHeaderReserved5 ∧ header.reserved6 = reqHeaderReserved6

/-- `protocol_ver < CL_CCIEFB_MIN_SUPPORTED_PROTOCOL_VER || protocol_ver > CL_CCIEFB_MAX_..` fails -/
def protocolVerSupported (protocolVer : UInt16) : Bool :=
  ¬ (protocolVer < minSupportedProtocolVer ∨ protocolVer > maxSupportedProtocolVer)

def clIefbValidateCyclicRequestHeader (header : CyclicReqHeader) : Bool :=
  protocolVerSupported header.protocolVer
    ∧ header.cyclicInfoOffsetAddr = cyclicReqCyclicOffset
    ∧ header.reserved1 = cyclicReqHeaderReserved1
    ∧ ∀ i, header.reserved2 i = cyclicReqHeaderReserved2

def clIefbValidateMasterStationNotification (notification : MasterStationNotification)
    (protocolVer : UInt16) : Bool :=
  if protocolVer = 1 then
    notification.masterLocalUnitInfo &&& masterStationNotificationMaskBitsVer1 = 0
      ∧ notification.reserved = masterStationNotificationReserved
  else if protocolVer = 2 then
    notification.masterLocalUnitInfo &&& masterStationNotificationMaskBitsVer2 = 0
      ∧ notification.reserved = masterStationNotificationReserved
  else false

/-- `n < CL_CCIEFB_MIN_OCCUPIED_STATIONS_PER_GROUP || n > CL_CCIEFB_MAX_..` fails -/
def occupiedStationsInRange (n : UInt16) : Bool :=
  ¬ (n < minOccupiedStationsPerGroup ∨ n > maxOccupiedStationsPerGroup)

/-- the group number of a frame is one byte -/
def groupNoInRange (groupNo : UInt8) : Bool :=
  ¬ (groupNo.toUInt16 < minGroupNo ∨ groupNo.toUInt16 > maxGroupNo)

def clIefbValidateReqCyclicDataHeader (header : CyclicReqDataHeader) (remoteIp : IpAddr) : Bool :=
  groupNoInRange header.groupNo
    ∧ occupiedStationsInRange header.slaveTotalOccupiedStationCount
    ∧ header.reserved3 = cyclicReqDataHeaderReserved3
    ∧ header.reserved4 = cyclicReqDataHeaderReserved4
    ∧ ¬ (header.masterId = ipaddrInvalid ∨ header.masterId ≠ remoteIp)

/-- positions of the slave ids, the RWw areas and the RY areas, and of the end -/
def clIefbParseRequestCyclicData (recvLen : Nat) (slaveTotalOccupiedStationCount : UInt16) :
    Option (Nat × Nat × Nat) :=
  let n := slaveTotalOccupiedStationCount.toNat
  if ¬ occupiedStationsInRange slaveTotalOccupiedStationCount then none
  else if 67 + n*4 + n*64 + n*8 > recvLen then none
  else some (67, 67 + n*4, 67 + n*4 + n*64)

def clIefbValidateReqCyclicFrameSize (protocolVer : UInt16) (recvLen : Nat)
    (dl slaveTotalOccupiedStationCount cyclicInfoOffsetAddr : UInt16) : Bool :=
  protocolVerSupported protocolVer
    ∧ recvLen = dl.toNat + reqHeaderDlOffset
    ∧ recvLen = clCalculateCyclicRequestSize slaveTotalOccupiedStationCount
    ∧ cyclicInfoOffsetAddr = cyclicReqCyclicOffset

def clIefbParseReqFullCyclicHeaders (dg : Datagram) : Option ReqFullHeaders :=
  if dg.len < 67 then none else some (.ofBuffer dg.byte)

def clIefbValidateReqFullCyclicHeaders (headers : ReqFullHeaders) (recvLen : Nat)
    (remoteIp : IpAddr) : Bool :=
  clIefbValidateCyclicRequestHeader headers.cyclicHeader
    ∧ clIefbValidateMasterStationNotification headers.masterStationNotification
        headers.cyclicHeader.protocolVer
    ∧ clIefbValidateReqCyclicDataHeader headers.cyclicDataHeader remoteIp
    ∧ clIefbValidateReqCyclicFrameSize headers.cyclicHeader.protocolVer recvLen
        headers.reqHeader.dl headers.cyclicDataHeader.slaveTotalOccupiedStationCount
        headers.cyclicHeader.cyclicInfoOffsetAddr

/-- `cls_cciefb_cyclic_request_info_t` and the buffer it points into -/
structure CyclicRequest where
  remoteIp : IpAddr
  remotePort : UInt16
  slaveIpAddr : IpAddr
  fullHeaders : ReqFullHeaders
  buffer : Nat → UInt8
  firstSlaveId : Nat
  firstRww : Nat
  firstRy : Nat

def CyclicRequest.slaveIds (r : CyclicRequest) : Nat → IpAddr := slaveIdsAt r.buffer r.firstSlaveId
def CyclicRequest.rww (r : CyclicRequest) : Nat → WordArea := wordAreasAt r.buffer r.firstRww
def CyclicRequest.ry (r : CyclicRequest) : Nat → BitArea := bitAreasAt r.buffer r.firstRy

def clIefbParseCyclicRequest (dg : Datagram) (remoteIp : IpAddr) (remotePort : UInt16)
    (localIp : IpAddr) : Except Failure CyclicRequest :=
  match clIefbParseReqFullCyclicHeaders dg with
  | none => .error .rejected
  | some headers =>
    if ¬ clIefbValidateReqFullCyclicHeaders headers dg.len remoteIp then .error .rejected
    else
      match clIefbParseRequestCyclicData dg.len
          headers.cyclicDataHeader.slaveTotalOccupiedStationCount with
      | none => .error .assertFailed
      | some (firstSlaveId, firstRww, firstRy) =>
        .ok { remoteIp := remoteIp, remotePort := remotePort, slaveIpAddr := localIp
              fullHeaders := headers, buffer := dg.byte, firstSlaveId := firstSlaveId
              firstRww := firstRww, firstRy := firstRy }

/-- parsing after the validation: the assertion holds and the areas follow the headers -/
theorem clIefbParseCyclicRequest_ok {dg : Datagram} {remoteIp localIp : IpAddr}
    {remotePort : UInt16} {headers : ReqFullHeaders}
    (hh : clIefbParseReqFullCyclicHeaders dg = some headers)
    (hv : clIefbValidateReqFullCyclicHeaders headers dg.len remoteIp = true) :
    clIefbParseCyclicRequest dg remoteIp remotePort localIp
      = .ok { remoteIp := remoteIp, remotePort := remotePort, slaveIpAddr := localIp
              fullHeaders := headers, buffer := dg.byte, firstSlaveId := 67
              firstRww := 67 + headers.cyclicDataHeader.slaveTotalOccupiedStationCount.toNat * 4
              firstRy := 67 + headers.cyclicDataHeader.slaveTotalOccupiedStationCount.toNat * 4
                + headers.cyclicDataHeader.slaveTotalOccupiedStationCount.toNat * 64 } := by
  have hvs := hv
  simp only [clIefbValidateReqFullCyclicHeaders, clIefbValidateReqCyclicDataHeader,
    clIefbValidateReqCyclicFrameSize, decide_eq_true_eq] at hvs
  obtain ⟨_, _, ⟨_, hn, _⟩, _, _, hlen, _⟩ := hvs
  have hpos : ¬ 67 + headers.cyclicDataHeader.slaveTotalOccupiedStationCount.toNat * 4
      + headers.cyclicDataHeader.slaveTotalOccupiedStationCount.toNat * 64
      + headers.cyclicDataHeader.slaveTotalOccupiedStationCount.toNat * 8 > dg.len := by
    rw [hlen]
    unfold clCalculateCyclicRequestSize
    omega
  simp [clIefbParseCyclicRequest, hh, hv, clIefbParseRequestCyclicData, hn, hpos]

/-! ## reading a parsed frame -/

/-- the RWw areas from a station on, `NULL` when the station is not in the frame -/
def clIefbRequestGetRww (request : CyclicRequest) (absSlaveStation : UInt16) :
    Option (Nat → WordArea) :=
  let n := request.fullHeaders.cyclicDataHeader.slaveTotalOccupiedStationCount
  if absSlaveStation < minOccupiedStationsPerGroup ∨ absSlaveStation > maxOccupiedStationsPerGroup
      ∨ absSlaveStation > n then none
  else some (fun k => request.rww (absSlaveStation.toNat - 1 + k))

def clIefbRequestGetRy (request : CyclicRequest) (absSlaveStation : UInt16) :
    Option (Nat → BitArea) :=
  let n := request.fullHeaders.cyclicDataHeader.slaveTotalOccupiedStationCount
  if absSlaveStation < minOccupiedStationsPerGroup ∨ absSlaveStation > maxOccupiedStationsPerGroup
      ∨ absSlaveStation > n then none
  else some (fun k => request.ry (absSlaveStation.toNat - 1 + k))

def clIefbRequestGetSlaveId (slaveIds : Nat → IpAddr) (absSlaveStation totalOccupied : UInt16) :
    Option IpAddr :=
  if ¬ occupiedStationsInRange totalOccupied then none
  else if absSlaveStation < minOccupiedStationsPerGroup
      ∨ absSlaveStation > maxOccupiedStationsPerGroup ∨ absSlaveStation > totalOccupied then none
  else some (slaveIds (absSlaveStation.toNat - 1))

end CLink
