import CLink.Slmp.Frames

/-!
# Parsing, validating and building SLMP frames

`cl_slmp.c` on a host of byte order `e`: a field is converted where the source converts it, and read
raw where the source does not.

* `clSlmpParse..`, `clSlmpValidate..`   the functions for incoming frames; `none` and `false` are
                                        `return -1`;
* `clSlmpPrepare..`                     the outgoing frames, which clear their buffer first.
-/

namespace CLink
open Bytes

/-! ## headers -/

def clSlmpParseRequestHeader (e : Endian) (dg : Datagram) : Option SlmpReqHeader :=
  if 19 > dg.len then none else some (.ofBuffer e dg.byte 0)

def clSlmpParseResponseHeader (e : Endian) (dg : Datagram) : Option SlmpRespHeader :=
  if 15 > dg.len then none else some (.ofBuffer e dg.byte 0)

def clSlmpIsHeaderRequest (e : Endian) (header : SlmpReqHeader) : Bool :=
  e.be16 header.sub1 = slmpReqHeaderSub1 ∧ e.le16 header.sub2 = slmpReqHeaderSub2

def clSlmpValidateRequestHeader (e : Endian) (header : SlmpReqHeader) (recvLen : Nat) : Bool :=
  if clSlmpIsHeaderRequest e header = false then false
  else if (e.le16 header.length).toNat + slmpReqHeaderLengthOffset ≠ recvLen then false
  else if header.networkNumber ≠ slmpHeaderNetworkNumber
      ∨ header.unitNumber ≠ slmpHeaderUnitNumber
      ∨ e.le16 header.ioNumber ≠ slmpHeaderIoNumber
      ∨ header.extension ≠ slmpHeaderExtension
      ∨ e.le16 header.timer ≠ slmpReqHeaderTimer then false
  else true

def clSlmpIsHeaderResponse (e : Endian) (header : SlmpRespHeader) : Bool :=
  e.be16 header.sub1 = slmpRespHeaderSub1 ∧ e.le16 header.sub2 = slmpRespHeaderSub2

def clSlmpValidateResponseHeader (e : Endian) (header : SlmpRespHeader) (recvLen : Nat) : Bool :=
  if clSlmpIsHeaderResponse e header = false then false
  else if (e.le16 header.length).toNat + slmpRespHeaderLengthOffset ≠ recvLen then false
  else if header.networkNumber ≠ slmpHeaderNetworkNumber
      ∨ header.unitNumber ≠ slmpHeaderUnitNumber
      ∨ e.le16 header.ioNumber ≠ slmpHeaderIoNumber
      ∨ header.extension ≠ slmpHeaderExtension then false
  else true

/-! ## node search -/

def clSlmpParseNodeSearchRequest (e : Endian) (dg : Datagram) : Option NodeSearchRequest :=
  if dg.len ≠ NodeSearchRequest.size then none else some (.ofBuffer e dg.byte)

def clSlmpParseNodeSearchResponse (e : Endian) (dg : Datagram) : Option NodeSearchResp :=
  if dg.len ≠ NodeSearchResp.size then none else some (.ofBuffer e dg.byte)

def clSlmpValidateNodeSearchRequest (e : Endian) (request : NodeSearchRequest) : Bool :=
  -- the length is compared raw, here and in the other frames
  if request.header.length.toNat ≠ NodeSearchRequest.size - slmpRespHeaderLengthOffset then false
  else if request.masterIpAddrSize ≠ addrsizeIpv4 then false
  else if e.le32 request.masterIpAddr = ipaddrInvalid then false
  else true

/-- ones and then zeros -/
def clUtilsIsNetmaskValid (netmask : IpAddr) : Bool := netmask &&& (~~~netmask >>> 1) = 0

def clSlmpValidateNodeSearchResponse (e : Endian) (response : NodeSearchResp) : Bool :=
  if response.header.length.toNat ≠ NodeSearchResp.size - slmpRespHeaderLengthOffset then false
  else if response.slaveIpAddrSize ≠ addrsizeIpv4 then false
  else if response.masterIpAddrSize ≠ addrsizeIpv4 then false
  else if response.targetIpAddrSize ≠ addrsizeIpv4 then false
  else if e.le32 response.slaveIpAddr = ipaddrInvalid then false
  else if clUtilsIsNetmaskValid (e.le32 response.slaveNetmask) = false then false
  else if e.le32 response.masterIpAddr = ipaddrInvalid then false
  else true

/-! ## set IP -/

def clSlmpParseSetIpRequest (e : Endian) (dg : Datagram) : Option SetIpaddrRequest :=
  if dg.len ≠ SetIpaddrRequest.size then none else some (.ofBuffer e dg.byte)

def clSlmpParseSetIpResponse (e : Endian) (dg : Datagram) : Option SetIpaddrResp :=
  if dg.len ≠ SetIpaddrResp.size then none else some (.ofBuffer e dg.byte)

def clSlmpParseErrorResponse (e : Endian) (dg : Datagram) : Option ErrorResp :=
  if dg.len ≠ ErrorResp.size then none else some (.ofBuffer e dg.byte)

def clSlmpValidateSetIpRequest (e : Endian) (request : SetIpaddrRequest) : Bool :=
  if request.header.length.toNat ≠ SetIpaddrRequest.size - slmpRespHeaderLengthOffset then false
  else if request.masterIpAddrSize ≠ addrsizeIpv4 ∨ request.slaveIpAddrSize ≠ addrsizeIpv4
      ∨ request.targetIpAddrSize ≠ addrsizeIpv4 then false
  else if request.slaveProtocolSettings ≠ slmpProtocolIdentifierUdp then false
  else if request.slaveHostnameSize ≠ setIpReqSlaveHostnameSize then false
  else if e.le32 request.masterIpAddr = ipaddrInvalid
      ∨ e.le32 request.slaveNewIpAddr = ipaddrInvalid then false
  else if clUtilsIsNetmaskValid (e.le32 request.slaveNewNetmask) = false then false
  else if e.le32 request.slaveDefaultGateway ≠ setIpReqSlaveDefaultGateway then false
  else if e.le32 request.targetIpAddr ≠ setIpReqTargetIpAddr then false
  else if e.le16 request.targetPort ≠ setIpReqTargetPort then false
  else true

def clSlmpValidateSetIpResponse (_e : Endian) (response : SetIpaddrResp) (myMacAddr : MacAddr) :
    Bool :=
  if response.header.length.toNat ≠ SetIpaddrResp.size - slmpRespHeaderLengthOffset then false
  else if clUtilCopyMacReverse response.masterMacAddr ≠ myMacAddr then false
  else true

def clSlmpValidateErrorResponse (e : Endian) (response : ErrorResp) : Bool :=
  if response.header.length.toNat ≠ ErrorResp.size - slmpRespHeaderLengthOffset then false
  else if response.errorNetworkNumber ≠ slmpHeaderNetworkNumber then false
  else if response.errorUnitNumber ≠ slmpHeaderUnitNumber then false
  else if e.le16 response.errorIoNumber ≠ slmpHeaderIoNumber then false
  else if response.errorExtension ≠ slmpHeaderExtension then false
  else true

/-! ## outgoing frames -/

def clSlmpPrepareRequestHeader (e : Endian) (serial command subCommand : UInt16)
    (udpPayloadLength : UInt16) : SlmpReqHeader :=
  { sub1 := e.be16 slmpReqHeaderSub1
    serial := e.le16 serial
    sub2 := e.le16 slmpReqHeaderSub2
    networkNumber := slmpHeaderNetworkNumber
    unitNumber := slmpHeaderUnitNumber
    ioNumber := e.le16 slmpHeaderIoNumber
    extension := slmpHeaderExtension
    length := e.le16 (udpPayloadLength - UInt16.ofNat slmpReqHeaderLengthOffset)
    timer := slmpReqHeaderTimer
    command := e.le16 command
    subCommand := e.le16 subCommand }

def clSlmpPrepareResponseHeader (e : Endian) (serial endcode : UInt16) (udpPayloadLen : Nat) :
    SlmpRespHeader :=
  { sub1 := e.be16 slmpRespHeaderSub1
    serial := e.le16 serial
    sub2 := e.le16 slmpRespHeaderSub2
    networkNumber := slmpHeaderNetworkNumber
    unitNumber := slmpHeaderUnitNumber
    ioNumber := e.le16 slmpHeaderIoNumber
    extension := slmpHeaderExtension
    length := e.le16 (UInt16.ofNat udpPayloadLen - UInt16.ofNat slmpRespHeaderLengthOffset)
    endcode := e.le16 endcode }

def clSlmpPrepareNodeSearchRequestFrame (e : Endian) (masterMacAddr : MacAddr)
    (masterIpAddr : IpAddr) (requestSerial : UInt16) : NodeSearchRequest :=
  { header := clSlmpPrepareRequestHeader e requestSerial slmpCommandNodeSearch
      slmpSubcommandNodeSearch (UInt16.ofNat NodeSearchRequest.size)
    masterMacAddr := clUtilCopyMacReverse masterMacAddr
    masterIpAddrSize := addrsizeIpv4
    masterIpAddr := e.le32 masterIpAddr }

def clSlmpPrepareNodeSearchResponseFrame (e : Endian) (masterMacAddr : MacAddr)
    (masterIpAddr : IpAddr) (slaveMacAddr : MacAddr) (slaveIpAddr slaveNetmask : IpAddr)
    (slmpSlaveStatus vendorCode : UInt16) (modelCode : UInt32)
    (equipmentVer requestSerial : UInt16) : NodeSearchResp :=
  { header := clSlmpPrepareResponseHeader e requestSerial endcodeSuccess NodeSearchResp.size
    masterMacAddr := clUtilCopyMacReverse masterMacAddr
    masterIpAddrSize := addrsizeIpv4
    masterIpAddr := e.le32 masterIpAddr
    slaveMacAddr := clUtilCopyMacReverse slaveMacAddr
    slaveIpAddrSize := addrsizeIpv4
    slaveIpAddr := e.le32 slaveIpAddr
    slaveNetmask := e.le32 slaveNetmask
    slaveDefaultGateway := e.le32 nodeSearchRespSlaveDefaultGateway
    slaveHostnameSize := nodeSearchRespSlaveHostnameSize
    vendorCode := e.le16 vendorCode
    modelCode := e.le32 modelCode
    equipmentVer := e.le16 equipmentVer
    targetIpAddrSize := addrsizeIpv4
    targetIpAddr := e.le32 nodeSearchRespTargetIpAddr
    targetPort := e.le16 nodeSearchRespTargetPort
    slaveStatus := e.le16 slmpSlaveStatus
    slavePort := e.le16 clSlmpPort
    slaveProtocolSettings := slmpProtocolIdentifierUdp }

def clSlmpPrepareSetIpRequestFrame (e : Endian) (masterMacAddr : MacAddr) (masterIpAddr : IpAddr)
    (requestSerial : UInt16) (slaveMacAddr : MacAddr) (slaveNewIpAddr slaveNewNetmask : IpAddr) :
    SetIpaddrRequest :=
  { header := clSlmpPrepareRequestHeader e requestSerial slmpCommandNodeIpaddressSet
      slmpSubcommandNodeIpaddressSet (UInt16.ofNat SetIpaddrRequest.size)
    masterMacAddr := clUtilCopyMacReverse masterMacAddr
    masterIpAddrSize := addrsizeIpv4
    masterIpAddr := e.le32 masterIpAddr
    slaveMacAddr := clUtilCopyMacReverse slaveMacAddr
    slaveIpAddrSize := addrsizeIpv4
    slaveNewIpAddr := e.le32 slaveNewIpAddr
    slaveNewNetmask := e.le32 slaveNewNetmask
    slaveDefaultGateway := e.le32 setIpReqSlaveDefaultGateway
    slaveHostnameSize := setIpReqSlaveHostnameSize
    targetIpAddrSize := addrsizeIpv4
    targetIpAddr := e.le32 setIpReqTargetIpAddr
    targetPort := e.le16 setIpReqTargetPort
    slaveProtocolSettings := slmpProtocolIdentifierUdp }

def clSlmpPrepareSetIpResponseFrame (e : Endian) (masterMacAddr : MacAddr)
    (requestSerial : UInt16) : SetIpaddrResp :=
  { header := clSlmpPrepareResponseHeader e requestSerial endcodeSuccess SetIpaddrResp.size
    masterMacAddr := clUtilCopyMacReverse masterMacAddr }

def clSlmpPrepareErrorResponseFrame (e : Endian) (command subCommand endcode requestSerial : UInt16) :
    ErrorResp :=
  { header := clSlmpPrepareResponseHeader e requestSerial endcode ErrorResp.size
    errorNetworkNumber := slmpHeaderNetworkNumber
    errorUnitNumber := slmpHeaderUnitNumber
    errorIoNumber := e.le16 slmpHeaderIoNumber
    errorExtension := slmpHeaderExtension
    command := e.le16 command
    subCommand := e.le16 subCommand }

end CLink
