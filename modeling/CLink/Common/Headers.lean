import CLink.Common.Types
import CLink.Lib.Bytes

/-!
# The packed headers of cyclic frames

Every packed struct of `cl_types.h` is a record of the source's fields with `ofBuffer b p`, the
value a reader finds at position `p`, and `byte k`, the byte a writer leaves at offset `k`.  The
byte order of a field is fixed here once, so the model never meets `CC_TO_LE16` and its relatives.

* `ReqFullHeaders.ofBuffer_byte`, `RespFullHeaders.ofBuffer_byte`   reading what was written gives
  the headers back.
-/

namespace CLink
open Bytes

/-- a received or sent UDP payload: its length and its bytes -/
structure Datagram where
  len : Nat
  byte : Nat → UInt8

/-- two bytes of a field -/
theorem eq_byteLE₂ {b : Nat → UInt8} {i : Nat} {n : Nat}
    (h0 : b i = byteLE n 0) (h1 : b (i+1) = byteLE n 1) : ∀ k, k < 2 → b (i+k) = byteLE n k := by
  intro k hk
  interval_cases k
  · exact h0
  · exact h1

/-- four bytes of a field -/
theorem eq_byteLE₄ {b : Nat → UInt8} {i : Nat} {n : Nat}
    (h0 : b i = byteLE n 0) (h1 : b (i+1) = byteLE n 1) (h2 : b (i+2) = byteLE n 2)
    (h3 : b (i+3) = byteLE n 3) : ∀ k, k < 4 → b (i+k) = byteLE n k := by
  intro k hk
  interval_cases k
  · exact h0
  · exact h1
  · exact h2
  · exact h3

/-! ## request headers -/

/-- `cl_cciefb_req_header_t`; `reserved1` is big endian on the wire -/
structure ReqHeader where
  reserved1 : UInt16
  reserved2 : UInt8
  reserved3 : UInt8
  reserved4 : UInt16
  reserved5 : UInt8
  dl : UInt16
  reserved6 : UInt16
  command : UInt16
  subCommand : UInt16

namespace ReqHeader

def ofBuffer (b : Nat → UInt8) (p : Nat) : ReqHeader :=
  { reserved1 := u16be b p, reserved2 := b (p+2), reserved3 := b (p+3), reserved4 := u16 b (p+4)
    reserved5 := b (p+6), dl := u16 b (p+7), reserved6 := u16 b (p+9), command := u16 b (p+11)
    subCommand := u16 b (p+13) }

def byte (h : ReqHeader) : Nat → UInt8
  | 0 => byteLE h.reserved1.toNat 1
  | 1 => byteLE h.reserved1.toNat 0
  | 2 => h.reserved2
  | 3 => h.reserved3
  | 4 => byteLE h.reserved4.toNat 0
  | 5 => byteLE h.reserved4.toNat 1
  | 6 => h.reserved5
  | 7 => byteLE h.dl.toNat 0
  | 8 => byteLE h.dl.toNat 1
  | 9 => byteLE h.reserved6.toNat 0
  | 10 => byteLE h.reserved6.toNat 1
  | 11 => byteLE h.command.toNat 0
  | 12 => byteLE h.command.toNat 1
  | 13 => byteLE h.subCommand.toNat 0
  | _ => byteLE h.subCommand.toNat 1

theorem ofBuffer_byte {b : Nat → UInt8} {p : Nat} {h : ReqHeader}
    (hb : ∀ k, k < 15 → b (p+k) = h.byte k) : ofBuffer b p = h := by
  have e1 : u16be b p = h.reserved1 := u16be_of_bytes (hb 0 (by omega)) (hb 1 (by omega))
  have e2 : b (p+2) = h.reserved2 := hb 2 (by omega)
  have e3 : b (p+3) = h.reserved3 := hb 3 (by omega)
  have e4 : u16 b (p+4) = h.reserved4 :=
    u16_of_bytes (eq_byteLE₂ (hb 4 (by omega)) (hb 5 (by omega)))
  have e5 : b (p+6) = h.reserved5 := hb 6 (by omega)
  have e6 : u16 b (p+7) = h.dl := u16_of_bytes (eq_byteLE₂ (hb 7 (by omega)) (hb 8 (by omega)))
  have e7 : u16 b (p+9) = h.reserved6 :=
    u16_of_bytes (eq_byteLE₂ (hb 9 (by omega)) (hb 10 (by omega)))
  have e8 : u16 b (p+11) = h.command :=
    u16_of_bytes (eq_byteLE₂ (hb 11 (by omega)) (hb 12 (by omega)))
  have e9 : u16 b (p+13) = h.subCommand :=
    u16_of_bytes (eq_byteLE₂ (hb 13 (by omega)) (hb 14 (by omega)))
  unfold ofBuffer
  rw [e1, e2, e3, e4, e5, e6, e7, e8, e9]

end ReqHeader

/-- `cl_cciefb_cyclic_req_header_t` -/
structure CyclicReqHeader where
  protocolVer : UInt16
  reserved1 : UInt16
  cyclicInfoOffsetAddr : UInt16
  reserved2 : Fin 14 → UInt8

namespace CyclicReqHeader

def ofBuffer (b : Nat → UInt8) (p : Nat) : CyclicReqHeader :=
  { protocolVer := u16 b p, reserved1 := u16 b (p+2), cyclicInfoOffsetAddr := u16 b (p+4)
    reserved2 := fun i => b (p+6+i) }

def byte (h : CyclicReqHeader) : Nat → UInt8
  | 0 => byteLE h.protocolVer.toNat 0
  | 1 => byteLE h.protocolVer.toNat 1
  | 2 => byteLE h.reserved1.toNat 0
  | 3 => byteLE h.reserved1.toNat 1
  | 4 => byteLE h.cyclicInfoOffsetAddr.toNat 0
  | 5 => byteLE h.cyclicInfoOffsetAddr.toNat 1
  | k+6 => h.reserved2 (Fin.ofNat 14 k)

theorem ofBuffer_byte {b : Nat → UInt8} {p : Nat} {h : CyclicReqHeader}
    (hb : ∀ k, k < 20 → b (p+k) = h.byte k) : ofBuffer b p = h := by
  have e1 : u16 b p = h.protocolVer :=
    u16_of_bytes (eq_byteLE₂ (hb 0 (by omega)) (hb 1 (by omega)))
  have e2 : u16 b (p+2) = h.reserved1 :=
    u16_of_bytes (eq_byteLE₂ (hb 2 (by omega)) (hb 3 (by omega)))
  have e3 : u16 b (p+4) = h.cyclicInfoOffsetAddr :=
    u16_of_bytes (eq_byteLE₂ (hb 4 (by omega)) (hb 5 (by omega)))
  have e4 : (fun i : Fin 14 => b (p+6+i)) = h.reserved2 := by
    funext i
    have hi : b (p + (i+6)) = h.reserved2 (Fin.ofNat 14 i) := hb (i+6) (by omega)
    rw [show p + 6 + i = p + (i+6) by omega, hi, Fin.ofNat_eq_cast, Fin.cast_val_eq_self]
  unfold ofBuffer
  rw [e1, e2, e3, e4]

end CyclicReqHeader

/-- `cl_cciefb_master_station_notification_t` -/
structure MasterStationNotification where
  masterLocalUnitInfo : UInt16
  reserved : UInt16
  clockInfo : UInt64

namespace MasterStationNotification

def ofBuffer (b : Nat → UInt8) (p : Nat) : MasterStationNotification :=
  { masterLocalUnitInfo := u16 b p, reserved := u16 b (p+2), clockInfo := u64 b (p+4) }

def byte (h : MasterStationNotification) : Nat → UInt8
  | 0 => byteLE h.masterLocalUnitInfo.toNat 0
  | 1 => byteLE h.masterLocalUnitInfo.toNat 1
  | 2 => byteLE h.reserved.toNat 0
  | 3 => byteLE h.reserved.toNat 1
  | k+4 => byteLE h.clockInfo.toNat k

theorem ofBuffer_byte {b : Nat → UInt8} {p : Nat} {h : MasterStationNotification}
    (hb : ∀ k, k < 12 → b (p+k) = h.byte k) : ofBuffer b p = h := by
  have e1 : u16 b p = h.masterLocalUnitInfo :=
    u16_of_bytes (eq_byteLE₂ (hb 0 (by omega)) (hb 1 (by omega)))
  have e2 : u16 b (p+2) = h.reserved :=
    u16_of_bytes (eq_byteLE₂ (hb 2 (by omega)) (hb 3 (by omega)))
  have e3 : u64 b (p+4) = h.clockInfo := by
    refine u64_of_bytes (fun k hk => ?_)
    rw [show p + 4 + k = p + (k+4) by omega]
    exact hb (k+4) (by omega)
  unfold ofBuffer
  rw [e1, e2, e3]

end MasterStationNotification

/-- `cl_cciefb_cyclic_req_data_header_t` -/
structure CyclicReqDataHeader where
  masterId : IpAddr
  groupNo : UInt8
  reserved3 : UInt8
  frameSequenceNo : UInt16
  timeoutValue : UInt16
  parallelOffTimeoutCount : UInt16
  parameterNo : UInt16
  slaveTotalOccupiedStationCount : UInt16
  cyclicTransmissionState : UInt16
  reserved4 : UInt16

namespace CyclicReqDataHeader

def ofBuffer (b : Nat → UInt8) (p : Nat) : CyclicReqDataHeader :=
  { masterId := u32 b p, groupNo := b (p+4), reserved3 := b (p+5), frameSequenceNo := u16 b (p+6)
    timeoutValue := u16 b (p+8), parallelOffTimeoutCount := u16 b (p+10)
    parameterNo := u16 b (p+12), slaveTotalOccupiedStationCount := u16 b (p+14)
    cyclicTransmissionState := u16 b (p+16), reserved4 := u16 b (p+18) }

def byte (h : CyclicReqDataHeader) : Nat → UInt8
  | 0 => byteLE h.masterId.toNat 0
  | 1 => byteLE h.masterId.toNat 1
  | 2 => byteLE h.masterId.toNat 2
  | 3 => byteLE h.masterId.toNat 3
  | 4 => h.groupNo
  | 5 => h.reserved3
  | 6 => byteLE h.frameSequenceNo.toNat 0
  | 7 => byteLE h.frameSequenceNo.toNat 1
  | 8 => byteLE h.timeoutValue.toNat 0
  | 9 => byteLE h.timeoutValue.toNat 1
  | 10 => byteLE h.parallelOffTimeoutCount.toNat 0
  | 11 => byteLE h.parallelOffTimeoutCount.toNat 1
  | 12 => byteLE h.parameterNo.toNat 0
  | 13 => byteLE h.parameterNo.toNat 1
  | 14 => byteLE h.slaveTotalOccupiedStationCount.toNat 0
  | 15 => byteLE h.slaveTotalOccupiedStationCount.toNat 1
  | 16 => byteLE h.cyclicTransmissionState.toNat 0
  | 17 => byteLE h.cyclicTransmissionState.toNat 1
  | 18 => byteLE h.reserved4.toNat 0
  | _ => byteLE h.reserved4.toNat 1

theorem ofBuffer_byte {b : Nat → UInt8} {p : Nat} {h : CyclicReqDataHeader}
    (hb : ∀ k, k < 20 → b (p+k) = h.byte k) : ofBuffer b p = h := by
  have e1 : u32 b p = h.masterId :=
    u32_of_bytes (eq_byteLE₄ (hb 0 (by omega)) (hb 1 (by omega)) (hb 2 (by omega))
      (hb 3 (by omega)))
  have e2 : b (p+4) = h.groupNo := hb 4 (by omega)
  have e3 : b (p+5) = h.reserved3 := hb 5 (by omega)
  have e4 : u16 b (p+6) = h.frameSequenceNo :=
    u16_of_bytes (eq_byteLE₂ (hb 6 (by omega)) (hb 7 (by omega)))
  have e5 : u16 b (p+8) = h.timeoutValue :=
    u16_of_bytes (eq_byteLE₂ (hb 8 (by omega)) (hb 9 (by omega)))
  have e6 : u16 b (p+10) = h.parallelOffTimeoutCount :=
    u16_of_bytes (eq_byteLE₂ (hb 10 (by omega)) (hb 11 (by omega)))
  have e7 : u16 b (p+12) = h.parameterNo :=
    u16_of_bytes (eq_byteLE₂ (hb 12 (by omega)) (hb 13 (by omega)))
  have e8 : u16 b (p+14) = h.slaveTotalOccupiedStationCount :=
    u16_of_bytes (eq_byteLE₂ (hb 14 (by omega)) (hb 15 (by omega)))
  have e9 : u16 b (p+16) = h.cyclicTransmissionState :=
    u16_of_bytes (eq_byteLE₂ (hb 16 (by omega)) (hb 17 (by omega)))
  have e10 : u16 b (p+18) = h.reserved4 :=
    u16_of_bytes (eq_byteLE₂ (hb 18 (by omega)) (hb 19 (by omega)))
  unfold ofBuffer
  rw [e1, e2, e3, e4, e5, e6, e7, e8, e9, e10]

end CyclicReqDataHeader

/-- `cl_cciefb_cyclic_req_full_headers_t`, 67 bytes -/
structure ReqFullHeaders where
  reqHeader : ReqHeader
  cyclicHeader : CyclicReqHeader
  masterStationNotification : MasterStationNotification
  cyclicDataHeader : CyclicReqDataHeader

namespace ReqFullHeaders

def ofBuffer (b : Nat → UInt8) : ReqFullHeaders :=
  { reqHeader := .ofBuffer b 0, cyclicHeader := .ofBuffer b 15
    masterStationNotification := .ofBuffer b 35, cyclicDataHeader := .ofBuffer b 47 }

def byte (h : ReqFullHeaders) (i : Nat) : UInt8 :=
  if i < 15 then h.reqHeader.byte i
  else if i < 35 then h.cyclicHeader.byte (i - 15)
  else if i < 47 then h.masterStationNotification.byte (i - 35)
  else h.cyclicDataHeader.byte (i - 47)

theorem ofBuffer_byte {b : Nat → UInt8} {h : ReqFullHeaders}
    (hb : ∀ i, i < 67 → b i = h.byte i) : ofBuffer b = h := by
  have e1 : ReqHeader.ofBuffer b 0 = h.reqHeader := by
    refine ReqHeader.ofBuffer_byte (fun k hk => ?_)
    rw [hb (0+k) (by omega)]
    simp [byte, hk]
  have e2 : CyclicReqHeader.ofBuffer b 15 = h.cyclicHeader := by
    refine CyclicReqHeader.ofBuffer_byte (fun k hk => ?_)
    rw [hb (15+k) (by omega)]
    simp [byte, show 15 + k < 35 by omega]
  have e3 : MasterStationNotification.ofBuffer b 35 = h.masterStationNotification := by
    refine MasterStationNotification.ofBuffer_byte (fun k hk => ?_)
    rw [hb (35+k) (by omega)]
    simp [byte, show ¬ 35 + k < 15 by omega, show 35 + k < 47 by omega]
  have e4 : CyclicReqDataHeader.ofBuffer b 47 = h.cyclicDataHeader := by
    refine CyclicReqDataHeader.ofBuffer_byte (fun k hk => ?_)
    rw [hb (47+k) (by omega)]
    simp [byte, show ¬ 47 + k < 15 by omega, show ¬ 47 + k < 35 by omega]
  unfold ofBuffer
  rw [e1, e2, e3, e4]

end ReqFullHeaders

/-! ## response headers -/

/-- `cl_cciefb_resp_header_t`; `reserved1` is big endian on the wire -/
structure RespHeader where
  reserved1 : UInt16
  reserved2 : UInt8
  reserved3 : UInt8
  reserved4 : UInt16
  reserved5 : UInt8
  dl : UInt16
  reserved6 : UInt16

namespace RespHeader

def ofBuffer (b : Nat → UInt8) (p : Nat) : RespHeader :=
  { reserved1 := u16be b p, reserved2 := b (p+2), reserved3 := b (p+3), reserved4 := u16 b (p+4)
    reserved5 := b (p+6), dl := u16 b (p+7), reserved6 := u16 b (p+9) }

def byte (h : RespHeader) : Nat → UInt8
  | 0 => byteLE h.reserved1.toNat 1
  | 1 => byteLE h.reserved1.toNat 0
  | 2 => h.reserved2
  | 3 => h.reserved3
  | 4 => byteLE h.reserved4.toNat 0
  | 5 => byteLE h.reserved4.toNat 1
  | 6 => h.reserved5
  | 7 => byteLE h.dl.toNat 0
  | 8 => byteLE h.dl.toNat 1
  | 9 => byteLE h.reserved6.toNat 0
  | _ => byteLE h.reserved6.toNat 1

theorem ofBuffer_byte {b : Nat → UInt8} {p : Nat} {h : RespHeader}
    (hb : ∀ k, k < 11 → b (p+k) = h.byte k) : ofBuffer b p = h := by
  have e1 : u16be b p = h.reserved1 := u16be_of_bytes (hb 0 (by omega)) (hb 1 (by omega))
  have e2 : b (p+2) = h.reserved2 := hb 2 (by omega)
  have e3 : b (p+3) = h.reserved3 := hb 3 (by omega)
  have e4 : u16 b (p+4) = h.reserved4 :=
    u16_of_bytes (eq_byteLE₂ (hb 4 (by omega)) (hb 5 (by omega)))
  have e5 : b (p+6) = h.reserved5 := hb 6 (by omega)
  have e6 : u16 b (p+7) = h.dl := u16_of_bytes (eq_byteLE₂ (hb 7 (by omega)) (hb 8 (by omega)))
  have e7 : u16 b (p+9) = h.reserved6 :=
    u16_of_bytes (eq_byteLE₂ (hb 9 (by omega)) (hb 10 (by omega)))
  unfold ofBuffer
  rw [e1, e2, e3, e4, e5, e6, e7]

end RespHeader

/-- `cl_cciefb_cyclic_resp_header_t` -/
structure CyclicRespHeader where
  protocolVer : UInt16
  endCode : UInt16
  cyclicInfoOffsetAddr : UInt16
  reserved1 : Fin 14 → UInt8

namespace CyclicRespHeader

def ofBuffer (b : Nat → UInt8) (p : Nat) : CyclicRespHeader :=
  { protocolVer := u16 b p, endCode := u16 b (p+2), cyclicInfoOffsetAddr := u16 b (p+4)
    reserved1 := fun i => b (p+6+i) }

def byte (h : CyclicRespHeader) : Nat → UInt8
  | 0 => byteLE h.protocolVer.toNat 0
  | 1 => byteLE h.protocolVer.toNat 1
  | 2 => byteLE h.endCode.toNat 0
  | 3 => byteLE h.endCode.toNat 1
  | 4 => byteLE h.cyclicInfoOffsetAddr.toNat 0
  | 5 => byteLE h.cyclicInfoOffsetAddr.toNat 1
  | k+6 => h.reserved1 (Fin.ofNat 14 k)

theorem ofBuffer_byte {b : Nat → UInt8} {p : Nat} {h : CyclicRespHeader}
    (hb : ∀ k, k < 20 → b (p+k) = h.byte k) : ofBuffer b p = h := by
  have e1 : u16 b p = h.protocolVer :=
    u16_of_bytes (eq_byteLE₂ (hb 0 (by omega)) (hb 1 (by omega)))
  have e2 : u16 b (p+2) = h.endCode :=
    u16_of_bytes (eq_byteLE₂ (hb 2 (by omega)) (hb 3 (by omega)))
  have e3 : u16 b (p+4) = h.cyclicInfoOffsetAddr :=
    u16_of_bytes (eq_byteLE₂ (hb 4 (by omega)) (hb 5 (by omega)))
  have e4 : (fun i : Fin 14 => b (p+6+i)) = h.reserved1 := by
    funext i
    have hi : b (p + (i+6)) = h.reserved1 (Fin.ofNat 14 i) := hb (i+6) (by omega)
    rw [show p + 6 + i = p + (i+6) by omega, hi, Fin.ofNat_eq_cast, Fin.cast_val_eq_self]
  unfold ofBuffer
  rw [e1, e2, e3, e4]

end CyclicRespHeader

/-- `cl_cciefb_slave_station_notification_t` -/
structure SlaveStationNotification where
  vendorCode : UInt16
  reserved1 : UInt16
  modelCode : UInt32
  equipmentVer : UInt16
  reserved2 : UInt16
  slaveLocalUnitInfo : UInt16
  slaveErrCode : UInt16
  localManagementInfo : UInt32

namespace SlaveStationNotification

def ofBuffer (b : Nat → UInt8) (p : Nat) : SlaveStationNotification :=
  { vendorCode := u16 b p, reserved1 := u16 b (p+2), modelCode := u32 b (p+4)
    equipmentVer := u16 b (p+8), reserved2 := u16 b (p+10), slaveLocalUnitInfo := u16 b (p+12)
    slaveErrCode := u16 b (p+14), localManagementInfo := u32 b (p+16) }

def byte (h : SlaveStationNotification) : Nat → UInt8
  | 0 => byteLE h.vendorCode.toNat 0
  | 1 => byteLE h.vendorCode.toNat 1
  | 2 => byteLE h.reserved1.toNat 0
  | 3 => byteLE h.reserved1.toNat 1
  | 4 => byteLE h.modelCode.toNat 0
  | 5 => byteLE h.modelCode.toNat 1
  | 6 => byteLE h.modelCode.toNat 2
  | 7 => byteLE h.modelCode.toNat 3
  | 8 => byteLE h.equipmentVer.toNat 0
  | 9 => byteLE h.equipmentVer.toNat 1
  | 10 => byteLE h.reserved2.toNat 0
  | 11 => byteLE h.reserved2.toNat 1
  | 12 => byteLE h.slaveLocalUnitInfo.toNat 0
  | 13 => byteLE h.slaveLocalUnitInfo.toNat 1
  | 14 => byteLE h.slaveErrCode.toNat 0
  | 15 => byteLE h.slaveErrCode.toNat 1
  | k+16 => byteLE h.localManagementInfo.toNat k

theorem ofBuffer_byte {b : Nat → UInt8} {p : Nat} {h : SlaveStationNotification}
    (hb : ∀ k, k < 20 → b (p+k) = h.byte k) : ofBuffer b p = h := by
  have e1 : u16 b p = h.vendorCode :=
    u16_of_bytes (eq_byteLE₂ (hb 0 (by omega)) (hb 1 (by omega)))
  have e2 : u16 b (p+2) = h.reserved1 :=
    u16_of_bytes (eq_byteLE₂ (hb 2 (by omega)) (hb 3 (by omega)))
  have e3 : u32 b (p+4) = h.modelCode :=
    u32_of_bytes (eq_byteLE₄ (hb 4 (by omega)) (hb 5 (by omega)) (hb 6 (by omega))
      (hb 7 (by omega)))
  have e4 : u16 b (p+8) = h.equipmentVer :=
    u16_of_bytes (eq_byteLE₂ (hb 8 (by omega)) (hb 9 (by omega)))
  have e5 : u16 b (p+10) = h.reserved2 :=
    u16_of_bytes (eq_byteLE₂ (hb 10 (by omega)) (hb 11 (by omega)))
  have e6 : u16 b (p+12) = h.slaveLocalUnitInfo :=
    u16_of_bytes (eq_byteLE₂ (hb 12 (by omega)) (hb 13 (by omega)))
  have e7 : u16 b (p+14) = h.slaveErrCode :=
    u16_of_bytes (eq_byteLE₂ (hb 14 (by omega)) (hb 15 (by omega)))
  have e8 : u32 b (p+16) = h.localManagementInfo :=
    u32_of_bytes (eq_byteLE₄ (hb 16 (by omega)) (hb 17 (by omega)) (hb 18 (by omega))
      (hb 19 (by omega)))
  unfold ofBuffer
  rw [e1, e2, e3, e4, e5, e6, e7, e8]

end SlaveStationNotification

/-- `cl_cciefb_cyclic_resp_data_header_t` -/
structure CyclicRespDataHeader where
  slaveId : IpAddr
  groupNo : UInt8
  reserved2 : UInt8
  frameSequenceNo : UInt16

namespace CyclicRespDataHeader

def ofBuffer (b : Nat → UInt8) (p : Nat) : CyclicRespDataHeader :=
  { slaveId := u32 b p, groupNo := b (p+4), reserved2 := b (p+5), frameSequenceNo := u16 b (p+6) }

def byte (h : CyclicRespDataHeader) : Nat → UInt8
  | 0 => byteLE h.slaveId.toNat 0
  | 1 => byteLE h.slaveId.toNat 1
  | 2 => byteLE h.slaveId.toNat 2
  | 3 => byteLE h.slaveId.toNat 3
  | 4 => h.groupNo
  | 5 => h.reserved2
  | 6 => byteLE h.frameSequenceNo.toNat 0
  | _ => byteLE h.frameSequenceNo.toNat 1

theorem ofBuffer_byte {b : Nat → UInt8} {p : Nat} {h : CyclicRespDataHeader}
    (hb : ∀ k, k < 8 → b (p+k) = h.byte k) : ofBuffer b p = h := by
  have e1 : u32 b p = h.slaveId :=
    u32_of_bytes (eq_byteLE₄ (hb 0 (by omega)) (hb 1 (by omega)) (hb 2 (by omega))
      (hb 3 (by omega)))
  have e2 : b (p+4) = h.groupNo := hb 4 (by omega)
  have e3 : b (p+5) = h.reserved2 := hb 5 (by omega)
  have e4 : u16 b (p+6) = h.frameSequenceNo :=
    u16_of_bytes (eq_byteLE₂ (hb 6 (by omega)) (hb 7 (by omega)))
  unfold ofBuffer
  rw [e1, e2, e3, e4]

end CyclicRespDataHeader

/-- `cl_cciefb_cyclic_resp_full_headers_t`, 59 bytes -/
structure RespFullHeaders where
  respHeader : RespHeader
  cyclicHeader : CyclicRespHeader
  slaveStationNotification : SlaveStationNotification
  cyclicDataHeader : CyclicRespDataHeader

namespace RespFullHeaders

def ofBuffer (b : Nat → UInt8) : RespFullHeaders :=
  { respHeader := .ofBuffer b 0, cyclicHeader := .ofBuffer b 11
    slaveStationNotification := .ofBuffer b 31, cyclicDataHeader := .ofBuffer b 51 }

def byte (h : RespFullHeaders) (i : Nat) : UInt8 :=
  if i < 11 then h.respHeader.byte i
  else if i < 31 then h.cyclicHeader.byte (i - 11)
  else if i < 51 then h.slaveStationNotification.byte (i - 31)
  else h.cyclicDataHeader.byte (i - 51)

theorem ofBuffer_byte {b : Nat → UInt8} {h : RespFullHeaders}
    (hb : ∀ i, i < 59 → b i = h.byte i) : ofBuffer b = h := by
  have e1 : RespHeader.ofBuffer b 0 = h.respHeader := by
    refine RespHeader.ofBuffer_byte (fun k hk => ?_)
    rw [hb (0+k) (by omega)]
    simp [byte, hk]
  have e2 : CyclicRespHeader.ofBuffer b 11 = h.cyclicHeader := by
    refine CyclicRespHeader.ofBuffer_byte (fun k hk => ?_)
    rw [hb (11+k) (by omega)]
    simp [byte, show 11 + k < 31 by omega]
  have e3 : SlaveStationNotification.ofBuffer b 31 = h.slaveStationNotification := by
    refine SlaveStationNotification.ofBuffer_byte (fun k hk => ?_)
    rw [hb (31+k) (by omega)]
    simp [byte, show ¬ 31 + k < 11 by omega, show 31 + k < 51 by omega]
  have e4 : CyclicRespDataHeader.ofBuffer b 51 = h.cyclicDataHeader := by
    refine CyclicRespDataHeader.ofBuffer_byte (fun k hk => ?_)
    rw [hb (51+k) (by omega)]
    simp [byte, show ¬ 51 + k < 11 by omega, show ¬ 51 + k < 31 by omega]
  unfold ofBuffer
  rw [e1, e2, e3, e4]

end RespFullHeaders

/-! ## data areas -/

/-- the slave ids from position `p`, one word per station -/
def slaveIdsAt (b : Nat → UInt8) (p : Nat) : Nat → IpAddr := fun k => u32 b (p + 4*k)
/-- the register areas from position `p`, 64 bytes per station -/
def wordAreasAt (b : Nat → UInt8) (p : Nat) : Nat → WordArea := fun k j => u16 b (p + 64*k + 2*j)
/-- the bit areas from position `p`, 8 bytes per station -/
def bitAreasAt (b : Nat → UInt8) (p : Nat) : Nat → BitArea := fun k j => b (p + 8*k + j)

def slaveIdsByte (a : Nat → IpAddr) (i : Nat) : UInt8 := byteLE (a (i/4)).toNat (i%4)
def wordAreasByte (a : Nat → WordArea) (i : Nat) : UInt8 :=
  byteLE (a (i/64) (Fin.ofNat 32 (i%64/2))).toNat (i%2)
def bitAreasByte (a : Nat → BitArea) (i : Nat) : UInt8 := a (i/8) (Fin.ofNat 8 (i%8))

theorem slaveIdsAt_byte {b : Nat → UInt8} {p n : Nat} {a : Nat → IpAddr}
    (hb : ∀ i, i < 4*n → b (p+i) = slaveIdsByte a i) {k : Nat} (hk : k < n) :
    slaveIdsAt b p k = a k := by
  refine u32_of_bytes (fun j hj => ?_)
  rw [Nat.add_assoc, hb (4*k+j) (areaLE_pos 4 n k j hk hj), slaveIdsByte,
    (areaLE_byte 4 k j hj).1, (areaLE_byte 4 k j hj).2]

theorem wordAreasAt_byte {b : Nat → UInt8} {p n : Nat} {a : Nat → WordArea}
    (hb : ∀ i, i < 64*n → b (p+i) = wordAreasByte a i) {k : Nat} (hk : k < n) :
    wordAreasAt b p k = a k := by
  funext j
  refine u16_of_bytes (fun m hm => ?_)
  have hj : 2*j.val + m < 64 := by have := j.isLt; omega
  rw [show p + 64*k + 2*j.val + m = p + (64*k + (2*j.val + m)) by omega,
    hb (64*k + (2*j.val + m)) (areaLE_pos 64 n k _ hk hj), wordAreasByte,
    (areaLE_byte 64 k _ hj).1, (areaLE_byte 64 k _ hj).2]
  have e1 : (2*j.val + m) / 2 = j.val := by omega
  have e2 : (64*k + (2*j.val + m)) % 2 = m := by omega
  rw [e1, e2, Fin.ofNat_eq_cast, Fin.cast_val_eq_self]

theorem bitAreasAt_byte {b : Nat → UInt8} {p n : Nat} {a : Nat → BitArea}
    (hb : ∀ i, i < 8*n → b (p+i) = bitAreasByte a i) {k : Nat} (hk : k < n) :
    bitAreasAt b p k = a k := by
  funext j
  show b (p + 8*k + j.val) = a k j
  rw [Nat.add_assoc, hb (8*k + j.val) (areaLE_pos 8 n k _ hk j.isLt), bitAreasByte,
    (areaLE_byte 8 k _ j.isLt).1, (areaLE_byte 8 k _ j.isLt).2, Fin.ofNat_eq_cast,
    Fin.cast_val_eq_self]

end CLink
