import CLink.Common.Request

/-!
# Cyclic response frames

The functions of `cl_iefb.c` that build a response frame (slave) and check and parse one (master).

* `ResponseFrame`               a response buffer: headers, RWr and RX areas;
* `ResponseFrame.template`      what an update of the frame leaves as it is;
* `ResponseFrame.datagram`      the UDP payload that `clal_udp_sendto` gets;
* `ResponseFrame.fullHeaders_datagram`, `rwr_datagram`, `rx_datagram`
                                what a reader of that payload finds;
* `ResponseHeadersValid`        the header conditions of an acceptable response, field by field;
* `clIefbParseCyclicResponse_eq`  parsing as one case distinction on the headers and the length.
-/

namespace CLink
open Bytes

/-! ## field values -/

abbrev respHeaderDlOffset : Nat := 9
abbrev respHeaderReserved1 : UInt16 := 0xD000
abbrev respHeaderReserved2 : UInt8 := 0x00
abbrev respHeaderReserved3 : UInt8 := 0xFF
abbrev respHeaderReserved4 : UInt16 := 0x03FF
abbrev respHeaderReserved5 : UInt8 := 0x00
abbrev respHeaderReserved6 : UInt16 := 0x0000
abbrev cyclicRespHeaderReserved1 : UInt8 := 0x00
abbrev cyclicRespCyclicOffset : UInt16 := 40
abbrev slaveStationNotificationReserved1 : UInt16 := 0x0000
abbrev slaveStationNotificationReserved2 : UInt16 := 0x0000
abbrev slaveStationNotificationMaskBits : UInt16 := 0xFFFE
abbrev defaultSlaveErrCode : UInt16 := 0x0000
abbrev defaultLocalManagInfo : UInt32 := 0x00000000
abbrev cyclicRespDataHeaderReserved2 : UInt8 := 0x00
abbrev slaveApplOperationStatusStopped : UInt16 := 0
abbrev slaveApplOperationStatusOperating : UInt16 := 1

/-- 59 bytes, and 72 bytes for each occupied station -/
def clCalculateCyclicResponseSize (occupiedStations : UInt16) : Nat :=
  11 + 20 + 20 + 8 + occupiedStations.toNat * (64 + 8)

/-- a difference of two `size_t` -/
def sizeSub (a b : Nat) : Nat := (a + 2^64 - b) % 2^64

/-- 0 is an error -/
def clCalculateNumberOfOccupiedStations (responseUdpPayloadSize : Nat) : UInt16 :=
  let occupiedStations := UInt16.ofNat (sizeSub responseUdpPayloadSize 59 / 72)
  let remainder :=
    sizeSub responseUdpPayloadSize (clCalculateCyclicResponseSize occupiedStations)
  if remainder ≠ 0 then 0 else occupiedStations

def clIsSlaveEndcodeValid (endCode : UInt16) : Bool :=
  endCode = endcodeSuccess ∨ endCode = endcodeMasterDuplication
    ∨ endCode = endcodeWrongNumberOccupiedStations ∨ endCode = endcodeSlaveError
    ∨ endCode = endcodeSlaveRequestsDisconnect

/-! ## building a frame -/

/-- `cls_cciefb_cyclic_response_info_t` and the buffer it points into; the pointers are positions -/
structure ResponseFrame where
  udpPayloadLen : Nat
  fullHeaders : RespFullHeaders
  firstRwr : Nat
  firstRx : Nat
  rwr : Nat → WordArea
  rx : Nat → BitArea

def clIefbInitialiseCyclicResponseFrame (occupiedStations vendorCode : UInt16) (modelCode : UInt32)
    (equipmentVer : UInt16) : ResponseFrame :=
  let udpPayloadLen := clCalculateCyclicResponseSize occupiedStations
  let respHeader : RespHeader :=
    { reserved1 := respHeaderReserved1, reserved2 := respHeaderReserved2
      reserved3 := respHeaderReserved3, reserved4 := respHeaderReserved4
      reserved5 := respHeaderReserved5, dl := UInt16.ofNat (udpPayloadLen - respHeaderDlOffset)
      reserved6 := respHeaderReserved6 }
  let cyclicHeader : CyclicRespHeader :=
    { protocolVer := maxSupportedProtocolVer, endCode := endcodeSuccess
      cyclicInfoOffsetAddr := cyclicRespCyclicOffset, reserved1 := fun _ => 0 }
  let notification : SlaveStationNotification :=
    { vendorCode := vendorCode, reserved1 := slaveStationNotificationReserved1
      modelCode := modelCode, equipmentVer := equipmentVer
      reserved2 := slaveStationNotificationReserved2
      slaveLocalUnitInfo := slaveApplOperationStatusOperating, slaveErrCode := defaultSlaveErrCode
      localManagementInfo := defaultLocalManagInfo }
  let cyclicDataHeader : CyclicRespDataHeader :=
    { slaveId := 0, groupNo := 0, reserved2 := cyclicRespDataHeaderReserved2, frameSequenceNo := 0 }
  { udpPayloadLen := udpPayloadLen
    fullHeaders := { respHeader := respHeader, cyclicHeader := cyclicHeader
                     slaveStationNotification := notification, cyclicDataHeader := cyclicDataHeader }
    firstRwr := 59
    firstRx := 59 + occupiedStations.toNat * 64
    -- the buffer has been cleared
    rwr := fun _ => WordArea.zero
    rx := fun _ => BitArea.zero }

def clIefbUpdateCyclicResponseFrame (frameInfo : ResponseFrame) (slaveId : IpAddr)
    (endCode groupNo frameSequenceNo slaveLocalUnitInfo slaveErrCode : UInt16)
    (localManagementInfo : UInt32) : ResponseFrame :=
  { frameInfo with fullHeaders := { frameInfo.fullHeaders with
      cyclicHeader := { frameInfo.fullHeaders.cyclicHeader with endCode := endCode }
      slaveStationNotification := { frameInfo.fullHeaders.slaveStationNotification with
        slaveLocalUnitInfo := slaveLocalUnitInfo
        slaveErrCode := slaveErrCode
        localManagementInfo := localManagementInfo }
      cyclicDataHeader := { frameInfo.fullHeaders.cyclicDataHeader with
        slaveId := slaveId
        groupNo := groupNo.toUInt8
        frameSequenceNo := frameSequenceNo } } }

namespace ResponseFrame

/-- the frame without the fields that an update writes -/
def template (f : ResponseFrame) : ResponseFrame :=
  clIefbUpdateCyclicResponseFrame f 0 0 0 0 0 0 0

/-- a frame only depends on its template once it is updated -/
theorem update_eq_of_template {f g : ResponseFrame} (h : f.template = g.template)
    (slaveId : IpAddr) (endCode groupNo frameSequenceNo slaveLocalUnitInfo slaveErrCode : UInt16)
    (localManagementInfo : UInt32) :
    clIefbUpdateCyclicResponseFrame f slaveId endCode groupNo frameSequenceNo slaveLocalUnitInfo
        slaveErrCode localManagementInfo
      = clIefbUpdateCyclicResponseFrame g slaveId endCode groupNo frameSequenceNo slaveLocalUnitInfo
        slaveErrCode localManagementInfo := by
  -- an update of the template is the update of the frame
  have heq := congrArg (fun f => clIefbUpdateCyclicResponseFrame f slaveId endCode groupNo
    frameSequenceNo slaveLocalUnitInfo slaveErrCode localManagementInfo) h
  exact heq

/-- the bytes of the buffer, in the order of the pointers -/
def byte (f : ResponseFrame) (i : Nat) : UInt8 :=
  if i < f.firstRwr then f.fullHeaders.byte i
  else if i < f.firstRx then wordAreasByte f.rwr (i - f.firstRwr)
  else bitAreasByte f.rx (i - f.firstRx)

def datagram (f : ResponseFrame) : Datagram := { len := f.udpPayloadLen, byte := f.byte }

/-- the buffer is laid out for `n` occupied stations -/
structure Layout (f : ResponseFrame) (n : Nat) : Prop where
  len : f.udpPayloadLen = 59 + 72*n
  firstRwr : f.firstRwr = 59
  firstRx : f.firstRx = 59 + 64*n

section
variable {f : ResponseFrame} {n : Nat} (hf : f.Layout n)
include hf

theorem fullHeaders_datagram : RespFullHeaders.ofBuffer f.datagram.byte = f.fullHeaders := by
  refine RespFullHeaders.ofBuffer_byte (fun i hi => ?_)
  show f.byte i = _
  unfold byte
  rw [hf.firstRwr, if_pos hi]

theorem rwr_datagram {k : Nat} (hk : k < n) : wordAreasAt f.datagram.byte 59 k = f.rwr k := by
  refine wordAreasAt_byte (n := n) (fun i hi => ?_) hk
  show f.byte (59 + i) = _
  unfold byte
  rw [hf.firstRwr, hf.firstRx, if_neg (by omega), if_pos (by omega), Nat.add_sub_cancel_left]

theorem rx_datagram {k : Nat} (hk : k < n) : bitAreasAt f.datagram.byte (59 + 64*n) k = f.rx k := by
  refine bitAreasAt_byte (n := n) (fun i hi => ?_) hk
  show f.byte (59 + 64*n + i) = _
  unfold byte
  rw [hf.firstRwr, hf.firstRx, if_neg (by omega), if_neg (by omega), Nat.add_sub_cancel_left]

end

end ResponseFrame

theorem layout_initialiseResponse (n vendorCode : UInt16) (modelCode : UInt32)
    (equipmentVer : UInt16) :
    (clIefbInitialiseCyclicResponseFrame n vendorCode modelCode equipmentVer).Layout n.toNat := by
  refine ⟨?_, rfl, ?_⟩
  · show clCalculateCyclicResponseSize n = _
    unfold clCalculateCyclicResponseSize
    omega
  · show 59 + n.toNat * 64 = _
    omega

/-- `CC_ASSERT (buf_size >= udp_payload_len)` holds for every admissible station count -/
theorem clCalculateCyclicResponseSize_le {n : UInt16} (h : n.toNat ≤ 16) :
    clCalculateCyclicResponseSize n ≤ clBufferLen := by
  unfold clCalculateCyclicResponseSize
  show _ ≤ 1500
  omega

/-! ## checking and parsing a frame -/

def clIefbParseResponseHeader (dg : Datagram) : Option RespHeader :=
  if 11 > dg.len then none else some (.ofBuffer dg.byte 0)

def clIefbValidateResponseHeader (header : RespHeader) (recvLen : Nat) : Bool :=
  header.dl.toNat + respHeaderDlOffset = recvLen
    ∧ header.reserved1 = respHeaderReserved1 ∧ header.reserved2 = respHeaderReserved2
    ∧ header.reserved3 = respHeaderReserved3 ∧ header.reserved4 = respHeaderReserved4
    ∧ header.reserved5 = respHeaderReserved5 ∧ header.reserved6 = reqHeaderReserved6

def clIefbParseRespFullCyclicHeaders (dg : Datagram) : Option RespFullHeaders :=
  if dg.len < 59 then none else some (.ofBuffer dg.byte)

def clIefbValidateCyclicRespHeader (header : CyclicRespHeader) : Bool :=
  protocolVerSupported header.protocolVer
    ∧ header.cyclicInfoOffsetAddr = cyclicRespCyclicOffset
    ∧ ∀ i, header.reserved1 i = cyclicRespHeaderReserved1

def clIefbValidateSlaveStationNotification (notification : SlaveStationNotification) : Bool :=
  notification.slaveLocalUnitInfo &&& slaveStationNotificationMaskBits = 0
    ∧ notification.reserved1 = slaveStationNotificationReserved1
    ∧ notification.reserved2 = slaveStationNotificationReserved2

def clIefbValidateRespCyclicDataHeader (header : CyclicRespDataHeader) (remoteIp : IpAddr) : Bool :=
  groupNoInRange header.groupNo
    ∧ header.reserved2 = cyclicRespDataHeaderReserved2
    ∧ ¬ (header.slaveId = ipaddrInvalid ∨ header.slaveId ≠ remoteIp)

def clIefbValidateRespCyclicFrameSize (protocolVer : UInt16) (recvLen : Nat) (dl : UInt16) : Bool :=
  protocolVerSupported protocolVer ∧ recvLen = dl.toNat + reqHeaderDlOffset

def clIefbValidateRespFullCyclicHeaders (headers : RespFullHeaders) (recvLen : Nat)
    (remoteIp : IpAddr) : Bool :=
  clIefbValidateCyclicRespHeader headers.cyclicHeader
    ∧ clIefbValidateSlaveStationNotification headers.slaveStationNotification
    ∧ clIefbValidateRespCyclicDataHeader headers.cyclicDataHeader remoteIp
    ∧ clIefbValidateRespCyclicFrameSize headers.cyclicHeader.protocolVer recvLen
        headers.respHeader.dl

/-- positions of the RWr and the RX areas -/
def clIefbParseResponseCyclicData (recvLen : Nat) (numberOfOccupiedStations : UInt16) :
    Option (Nat × Nat) :=
  let n := numberOfOccupiedStations.toNat
  if ¬ occupiedStationsInRange numberOfOccupiedStations then none
  else if 59 + n*64 + n*8 > recvLen then none
  else some (59, 59 + n*64)

/-- `clm_cciefb_cyclic_response_info_t` and the buffer it points into -/
structure CyclicResponse where
  remotePort : UInt16
  remoteIp : IpAddr
  numberOfOccupied : UInt16
  receptionTimestamp : UInt32
  fullHeaders : RespFullHeaders
  buffer : Nat → UInt8
  firstRwr : Nat
  firstRx : Nat

def CyclicResponse.rwr (r : CyclicResponse) : Nat → WordArea := wordAreasAt r.buffer r.firstRwr
def CyclicResponse.rx (r : CyclicResponse) : Nat → BitArea := bitAreasAt r.buffer r.firstRx

def clIefbParseCyclicResponse (dg : Datagram) (remoteIp : IpAddr) (remotePort : UInt16)
    (now : UInt32) : Except Failure CyclicResponse :=
  match clIefbParseRespFullCyclicHeaders dg with
  | none => .error .rejected
  | some headers =>
    if ¬ clIefbValidateRespFullCyclicHeaders headers dg.len remoteIp then .error .rejected
    else
      let numberOfOccupiedStations := clCalculateNumberOfOccupiedStations dg.len
      if numberOfOccupiedStations = 0 then .error .rejected
      else
        match clIefbParseResponseCyclicData dg.len numberOfOccupiedStations with
        | none => .error .assertFailed
        | some (firstRwr, firstRx) =>
          .ok { remotePort := remotePort, remoteIp := remoteIp
                numberOfOccupied := numberOfOccupiedStations, receptionTimestamp := now
                fullHeaders := headers, buffer := dg.byte, firstRwr := firstRwr
                firstRx := firstRx }

end CLink
