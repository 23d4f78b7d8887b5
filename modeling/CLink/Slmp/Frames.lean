import CLink.Common.Fields
import CLink.Common.Headers

/-!
# The packed SLMP frames

The structs of `cl_types.h` as the host sees them in memory: their fields are the raw numbers, before
`CC_FROM_LE16` and its relatives.

* `ofBuffer e b p`   the struct that a host of byte order `e` finds at position `p`;
* `bytes e`          the struct as it lies in memory;
* `ofBuffer_bytes`   the host reads back what it has written, for each of the seven structs.
-/

namespace CLink
open Bytes

/-! ## constants -/

abbrev clmSlmpSerialNone : Int := -1

abbrev slmpHeaderNetworkNumber : UInt8 := 0x00
abbrev slmpHeaderUnitNumber : UInt8 := 0xFF
abbrev slmpHeaderIoNumber : UInt16 := 0x03FF
abbrev slmpHeaderExtension : UInt8 := 0x00

/-- bytes up to and including the field `length` -/
abbrev slmpReqHeaderLengthOffset : Nat := 13
abbrev slmpReqHeaderSub1 : UInt16 := 0x5400
abbrev slmpReqHeaderSub2 : UInt16 := 0x0000
abbrev slmpReqHeaderTimer : UInt16 := 0

abbrev slmpRespHeaderLengthOffset : Nat := 13
abbrev slmpRespHeaderSub1 : UInt16 := 0xD400
abbrev slmpRespHeaderSub2 : UInt16 := 0x0000

abbrev slmpCommandNodeSearch : UInt16 := 0x0E30
abbrev slmpSubcommandNodeSearch : UInt16 := 0x0000
abbrev slmpCommandNodeIpaddressSet : UInt16 := 0x0E31
abbrev slmpSubcommandNodeIpaddressSet : UInt16 := 0x0000

abbrev nodeSearchRespSlaveDefaultGateway : UInt32 := 0xFFFFFFFF
abbrev nodeSearchRespSlaveHostnameSize : UInt8 := 0x00
abbrev nodeSearchRespTargetIpAddr : UInt32 := 0xFFFFFFFF
abbrev nodeSearchRespTargetPort : UInt16 := 0xFFFF
abbrev nodeSearchRespServerStatusNormal : UInt16 := 0x0000
abbrev slmpProtocolIdentifierUdp : UInt8 := 0x01

abbrev setIpReqSlaveDefaultGateway : UInt32 := 0xFFFFFFFF
abbrev setIpReqSlaveHostnameSize : UInt8 := 0x00
abbrev setIpReqTargetIpAddr : UInt32 := 0xFFFFFFFF
abbrev setIpReqTargetPort : UInt16 := 0xFFFF

abbrev endcodeCommandRequestMsg : UInt16 := 0xC05C

abbrev addrsizeIpv4 : UInt8 := 4
abbrev clSlmpPort : UInt16 := 61451
abbrev ipaddrLocalBroadcast : IpAddr := 0xFFFFFFFF

/-! ## MAC addresses -/

/-- `cl_macaddr_t` -/
abbrev MacAddr := Fin 6 → UInt8

instance neZeroMacAddr : NeZero 6 := ⟨by decide⟩

def clUtilCopyMacReverse (src : MacAddr) : MacAddr := fun i => src i.rev

@[simp] theorem clUtilCopyMacReverse_twice (src : MacAddr) :
    clUtilCopyMacReverse (clUtilCopyMacReverse src) = src := by
  funext i
  simp [clUtilCopyMacReverse]

/-! ## fields in memory -/

def macAt (b : Nat → UInt8) (p : Nat) : MacAddr := fun i => b (p + i)

def fieldMac (mac : MacAddr) : List UInt8 := [mac 0, mac 1, mac 2, mac 3, mac 4, mac 5]

/-- the payload with the bytes `l` -/
def Datagram.ofBytes (l : List UInt8) : Datagram := { len := l.length, byte := bufferOf l }

theorem macAt_bufferOf {l : List UInt8} {p : Nat} {m : MacAddr} {t : List UInt8}
    (h : l.drop p = fieldMac m ++ t) :
    macAt (bufferOf l) p = m := by
  funext i
  unfold macAt
  rw [bufferOf_drop, h]
  fin_cases i <;> rfl

/-! ## headers -/

/-- `cl_slmp_req_header_t` -/
structure SlmpReqHeader where
  sub1 : UInt16
  serial : UInt16
  sub2 : UInt16
  networkNumber : UInt8
  unitNumber : UInt8
  ioNumber : UInt16
  extension : UInt8
  length : UInt16
  timer : UInt16
  command : UInt16
  subCommand : UInt16

namespace SlmpReqHeader

def ofBuffer (e : Endian) (b : Nat → UInt8) (p : Nat) : SlmpReqHeader :=
  { sub1 := e.raw16 b p, serial := e.raw16 b (p+2), sub2 := e.raw16 b (p+4)
    networkNumber := b (p+6), unitNumber := b (p+7), ioNumber := e.raw16 b (p+8)
    extension := b (p+10), length := e.raw16 b (p+11), timer := e.raw16 b (p+13)
    command := e.raw16 b (p+15), subCommand := e.raw16 b (p+17) }

def bytes (e : Endian) (h : SlmpReqHeader) : List UInt8 :=
  [field16 e h.sub1, field16 e h.serial, field16 e h.sub2, [h.networkNumber, h.unitNumber],
    field16 e h.ioNumber, [h.extension], field16 e h.length, field16 e h.timer,
    field16 e h.command, field16 e h.subCommand].flatten

theorem ofBuffer_bytes (e : Endian) (h : SlmpReqHeader) (rest : List UInt8) :
    ofBuffer e (bufferOf (h.bytes e ++ rest)) 0 = h := by
  unfold ofBuffer
  rw [raw16_bufferOf (x := h.sub1) rfl, raw16_bufferOf (x := h.serial) rfl,
    raw16_bufferOf (x := h.sub2) rfl, byte_bufferOf (x := h.networkNumber) rfl,
    byte_bufferOf (x := h.unitNumber) rfl, raw16_bufferOf (x := h.ioNumber) rfl,
    byte_bufferOf (x := h.extension) rfl, raw16_bufferOf (x := h.length) rfl,
    raw16_bufferOf (x := h.timer) rfl, raw16_bufferOf (x := h.command) rfl,
    raw16_bufferOf (x := h.subCommand) rfl]

end SlmpReqHeader

/-- `cl_slmp_resp_header_t` -/
structure SlmpRespHeader where
  sub1 : UInt16
  serial : UInt16
  sub2 : UInt16
  networkNumber : UInt8
  unitNumber : UInt8
  ioNumber : UInt16
  extension : UInt8
  length : UInt16
  endcode : UInt16

namespace SlmpRespHeader

def ofBuffer (e : Endian) (b : Nat → UInt8) (p : Nat) : SlmpRespHeader :=
  { sub1 := e.raw16 b p, serial := e.raw16 b (p+2), sub2 := e.raw16 b (p+4)
    networkNumber := b (p+6), unitNumber := b (p+7), ioNumber := e.raw16 b (p+8)
    extension := b (p+10), length := e.raw16 b (p+11), endcode := e.raw16 b (p+13) }

def bytes (e : Endian) (h : SlmpRespHeader) : List UInt8 :=
  [field16 e h.sub1, field16 e h.serial, field16 e h.sub2, [h.networkNumber, h.unitNumber],
    field16 e h.ioNumber, [h.extension], field16 e h.length, field16 e h.endcode].flatten

theorem ofBuffer_bytes (e : Endian) (h : SlmpRespHeader) (rest : List UInt8) :
    ofBuffer e (bufferOf (h.bytes e ++ rest)) 0 = h := by
  unfold ofBuffer
  rw [raw16_bufferOf (x := h.sub1) rfl, raw16_bufferOf (x := h.serial) rfl,
    raw16_bufferOf (x := h.sub2) rfl, byte_bufferOf (x := h.networkNumber) rfl,
    byte_bufferOf (x := h.unitNumber) rfl, raw16_bufferOf (x := h.ioNumber) rfl,
    byte_bufferOf (x := h.extension) rfl, raw16_bufferOf (x := h.length) rfl,
    raw16_bufferOf (x := h.endcode) rfl]

end SlmpRespHeader

/-! ## frames -/

/-- `cl_slmp_node_search_request_t` -/
structure NodeSearchRequest where
  header : SlmpReqHeader
  masterMacAddr : MacAddr
  masterIpAddrSize : UInt8
  masterIpAddr : UInt32

namespace NodeSearchRequest

abbrev size : Nat := 30

def ofBuffer (e : Endian) (b : Nat → UInt8) : NodeSearchRequest :=
  { header := .ofBuffer e b 0, masterMacAddr := macAt b 19, masterIpAddrSize := b 25
    masterIpAddr := e.raw32 b 26 }

def bytes (e : Endian) (r : NodeSearchRequest) : List UInt8 :=
  r.header.bytes e ++ [fieldMac r.masterMacAddr, [r.masterIpAddrSize],
    field32 e r.masterIpAddr].flatten

theorem ofBuffer_bytes (e : Endian) (r : NodeSearchRequest) :
    ofBuffer e (bufferOf (r.bytes e)) = r := by
  unfold ofBuffer
  rw [bytes, SlmpReqHeader.ofBuffer_bytes, macAt_bufferOf (m := r.masterMacAddr) rfl,
    byte_bufferOf (x := r.masterIpAddrSize) rfl, raw32_bufferOf (x := r.masterIpAddr) rfl]

end NodeSearchRequest

/-- `cl_slmp_node_search_resp_t` -/
structure NodeSearchResp where
  header : SlmpRespHeader
  masterMacAddr : MacAddr
  masterIpAddrSize : UInt8
  masterIpAddr : UInt32
  slaveMacAddr : MacAddr
  slaveIpAddrSize : UInt8
  slaveIpAddr : UInt32
  slaveNetmask : UInt32
  slaveDefaultGateway : UInt32
  slaveHostnameSize : UInt8
  vendorCode : UInt16
  modelCode : UInt32
  equipmentVer : UInt16
  targetIpAddrSize : UInt8
  targetIpAddr : UInt32
  targetPort : UInt16
  slaveStatus : UInt16
  slavePort : UInt16
  slaveProtocolSettings : UInt8

namespace NodeSearchResp

abbrev size : Nat := 66

def ofBuffer (e : Endian) (b : Nat → UInt8) : NodeSearchResp :=
  { header := .ofBuffer e b 0, masterMacAddr := macAt b 15, masterIpAddrSize := b 21
    masterIpAddr := e.raw32 b 22, slaveMacAddr := macAt b 26, slaveIpAddrSize := b 32
    slaveIpAddr := e.raw32 b 33, slaveNetmask := e.raw32 b 37
    slaveDefaultGateway := e.raw32 b 41, slaveHostnameSize := b 45, vendorCode := e.raw16 b 46
    modelCode := e.raw32 b 48, equipmentVer := e.raw16 b 52, targetIpAddrSize := b 54
    targetIpAddr := e.raw32 b 55, targetPort := e.raw16 b 59, slaveStatus := e.raw16 b 61
    slavePort := e.raw16 b 63, slaveProtocolSettings := b 65 }

def bytes (e : Endian) (r : NodeSearchResp) : List UInt8 :=
  r.header.bytes e ++ [fieldMac r.masterMacAddr, [r.masterIpAddrSize], field32 e r.masterIpAddr,
    fieldMac r.slaveMacAddr, [r.slaveIpAddrSize], field32 e r.slaveIpAddr,
    field32 e r.slaveNetmask, field32 e r.slaveDefaultGateway, [r.slaveHostnameSize],
    field16 e r.vendorCode, field32 e r.modelCode, field16 e r.equipmentVer, [r.targetIpAddrSize],
    field32 e r.targetIpAddr, field16 e r.targetPort, field16 e r.slaveStatus,
    field16 e r.slavePort, [r.slaveProtocolSettings]].flatten

theorem ofBuffer_bytes (e : Endian) (r : NodeSearchResp) :
    ofBuffer e (bufferOf (r.bytes e)) = r := by
  unfold ofBuffer
  rw [bytes, SlmpRespHeader.ofBuffer_bytes, macAt_bufferOf (m := r.masterMacAddr) rfl,
    byte_bufferOf (x := r.masterIpAddrSize) rfl, raw32_bufferOf (x := r.masterIpAddr) rfl,
    macAt_bufferOf (m := r.slaveMacAddr) rfl, byte_bufferOf (x := r.slaveIpAddrSize) rfl,
    raw32_bufferOf (x := r.slaveIpAddr) rfl, raw32_bufferOf (x := r.slaveNetmask) rfl,
    raw32_bufferOf (x := r.slaveDefaultGateway) rfl, byte_bufferOf (x := r.slaveHostnameSize) rfl,
    raw16_bufferOf (x := r.vendorCode) rfl, raw32_bufferOf (x := r.modelCode) rfl,
    raw16_bufferOf (x := r.equipmentVer) rfl, byte_bufferOf (x := r.targetIpAddrSize) rfl,
    raw32_bufferOf (x := r.targetIpAddr) rfl, raw16_bufferOf (x := r.targetPort) rfl,
    raw16_bufferOf (x := r.slaveStatus) rfl, raw16_bufferOf (x := r.slavePort) rfl,
    byte_bufferOf (x := r.slaveProtocolSettings) rfl]

end NodeSearchResp

/-- `cl_slmp_set_ipaddr_request_t` -/
structure SetIpaddrRequest where
  header : SlmpReqHeader
  masterMacAddr : MacAddr
  masterIpAddrSize : UInt8
  masterIpAddr : UInt32
  slaveMacAddr : MacAddr
  slaveIpAddrSize : UInt8
  slaveNewIpAddr : UInt32
  slaveNewNetmask : UInt32
  slaveDefaultGateway : UInt32
  slaveHostnameSize : UInt8
  targetIpAddrSize : UInt8
  targetIpAddr : UInt32
  targetPort : UInt16
  slaveProtocolSettings : UInt8

namespace SetIpaddrRequest

abbrev size : Nat := 58

def ofBuffer (e : Endian) (b : Nat → UInt8) : SetIpaddrRequest :=
  { header := .ofBuffer e b 0, masterMacAddr := macAt b 19, masterIpAddrSize := b 25
    masterIpAddr := e.raw32 b 26, slaveMacAddr := macAt b 30, slaveIpAddrSize := b 36
    slaveNewIpAddr := e.raw32 b 37, slaveNewNetmask := e.raw32 b 41
    slaveDefaultGateway := e.raw32 b 45, slaveHostnameSize := b 49, targetIpAddrSize := b 50
    targetIpAddr := e.raw32 b 51, targetPort := e.raw16 b 55, slaveProtocolSettings := b 57 }

def bytes (e : Endian) (r : SetIpaddrRequest) : List UInt8 :=
  r.header.bytes e ++ [fieldMac r.masterMacAddr, [r.masterIpAddrSize], field32 e r.masterIpAddr,
    fieldMac r.slaveMacAddr, [r.slaveIpAddrSize], field32 e r.slaveNewIpAddr,
    field32 e r.slaveNewNetmask, field32 e r.slaveDefaultGateway, [r.slaveHostnameSize],
    [r.targetIpAddrSize], field32 e r.targetIpAddr, field16 e r.targetPort,
    [r.slaveProtocolSettings]].flatten

theorem ofBuffer_bytes (e : Endian) (r : SetIpaddrRequest) :
    ofBuffer e (bufferOf (r.bytes e)) = r := by
  unfold ofBuffer
  rw [bytes, SlmpReqHeader.ofBuffer_bytes, macAt_bufferOf (m := r.masterMacAddr) rfl,
    byte_bufferOf (x := r.masterIpAddrSize) rfl, raw32_bufferOf (x := r.masterIpAddr) rfl,
    macAt_bufferOf (m := r.slaveMacAddr) rfl, byte_bufferOf (x := r.slaveIpAddrSize) rfl,
    raw32_bufferOf (x := r.slaveNewIpAddr) rfl, raw32_bufferOf (x := r.slaveNewNetmask) rfl,
    raw32_bufferOf (x := r.slaveDefaultGateway) rfl, byte_bufferOf (x := r.slaveHostnameSize) rfl,
    byte_bufferOf (x := r.targetIpAddrSize) rfl, raw32_bufferOf (x := r.targetIpAddr) rfl,
    raw16_bufferOf (x := r.targetPort) rfl, byte_bufferOf (x := r.slaveProtocolSettings) rfl]

end SetIpaddrRequest

/-- `cl_slmp_set_ipaddr_resp_t` -/
structure SetIpaddrResp where
  header : SlmpRespHeader
  masterMacAddr : MacAddr

namespace SetIpaddrResp

abbrev size : Nat := 21

def ofBuffer (e : Endian) (b : Nat → UInt8) : SetIpaddrResp :=
  { header := .ofBuffer e b 0, masterMacAddr := macAt b 15 }

def bytes (e : Endian) (r : SetIpaddrResp) : List UInt8 :=
  r.header.bytes e ++ [fieldMac r.masterMacAddr].flatten

theorem ofBuffer_bytes (e : Endian) (r : SetIpaddrResp) :
    ofBuffer e (bufferOf (r.bytes e)) = r := by
  unfold ofBuffer
  rw [bytes, SlmpRespHeader.ofBuffer_bytes,
    macAt_bufferOf (m := r.masterMacAddr) (t := []) rfl]

end SetIpaddrResp

/-- `cl_slmp_error_resp_t` -/
structure ErrorResp where
  header : SlmpRespHeader
  errorNetworkNumber : UInt8
  errorUnitNumber : UInt8
  errorIoNumber : UInt16
  errorExtension : UInt8
  command : UInt16
  subCommand : UInt16

namespace ErrorResp

abbrev size : Nat := 24

def ofBuffer (e : Endian) (b : Nat → UInt8) : ErrorResp :=
  { header := .ofBuffer e b 0, errorNetworkNumber := b 15, errorUnitNumber := b 16
    errorIoNumber := e.raw16 b 17, errorExtension := b 19, command := e.raw16 b 20
    subCommand := e.raw16 b 22 }

def bytes (e : Endian) (r : ErrorResp) : List UInt8 :=
  r.header.bytes e ++ [[r.errorNetworkNumber, r.errorUnitNumber], field16 e r.errorIoNumber,
    [r.errorExtension], field16 e r.command, field16 e r.subCommand].flatten

theorem ofBuffer_bytes (e : Endian) (r : ErrorResp) :
    ofBuffer e (bufferOf (r.bytes e)) = r := by
  unfold ofBuffer
  rw [bytes, SlmpRespHeader.ofBuffer_bytes, byte_bufferOf (x := r.errorNetworkNumber) rfl,
    byte_bufferOf (x := r.errorUnitNumber) rfl, raw16_bufferOf (x := r.errorIoNumber) rfl,
    byte_bufferOf (x := r.errorExtension) rfl, raw16_bufferOf (x := r.command) rfl,
    raw16_bufferOf (x := r.subCommand) rfl]

end ErrorResp

end CLink
