import CLink.Slmp.Codec

/-!
# Built SLMP frames and their checks

* `clSlmpParse.._bytes`     a struct is found again in its bytes;
* `clSlmpPrepare.._valid`   a built header passes its check on every host, and a built frame passes the
                            check of its payload on a little-endian host only;
* `..bytes_prepare`         every host builds the same bytes.
-/

namespace CLink
open Bytes

/-! ## structs and their bytes -/

section
variable (e : Endian)

theorem clSlmpParseRequestHeader_bytes (h : SlmpReqHeader) (t : List UInt8) :
    clSlmpParseRequestHeader e (.ofBytes (h.bytes e ++ t)) = some h := by
  have hlen : ¬ 19 > (Datagram.ofBytes (h.bytes e ++ t)).len := by
    show ¬ _ > (h.bytes e ++ t).length
    rw [List.length_append]
    exact Nat.not_lt.mpr (Nat.le_add_right 19 _)
  unfold clSlmpParseRequestHeader
  rw [if_neg hlen]
  exact congrArg some (SlmpReqHeader.ofBuffer_bytes e h t)

theorem clSlmpParseResponseHeader_bytes (h : SlmpRespHeader) (t : List UInt8) :
    clSlmpParseResponseHeader e (.ofBytes (h.bytes e ++ t)) = some h := by
  have hlen : ¬ 15 > (Datagram.ofBytes (h.bytes e ++ t)).len := by
    show ¬ _ > (h.bytes e ++ t).length
    rw [List.length_append]
    exact Nat.not_lt.mpr (Nat.le_add_right 15 _)
  unfold clSlmpParseResponseHeader
  rw [if_neg hlen]
  exact congrArg some (SlmpRespHeader.ofBuffer_bytes e h t)

theorem clSlmpParseNodeSearchRequest_bytes (r : NodeSearchRequest) :
    clSlmpParseNodeSearchRequest e (.ofBytes (r.bytes e)) = some r :=
  congrArg some (NodeSearchRequest.ofBuffer_bytes e r)

theorem clSlmpParseNodeSearchResponse_bytes (r : NodeSearchResp) :
    clSlmpParseNodeSearchResponse e (.ofBytes (r.bytes e)) = some r :=
  congrArg some (NodeSearchResp.ofBuffer_bytes e r)

theorem clSlmpParseSetIpRequest_bytes (r : SetIpaddrRequest) :
    clSlmpParseSetIpRequest e (.ofBytes (r.bytes e)) = some r :=
  congrArg some (SetIpaddrRequest.ofBuffer_bytes e r)

theorem clSlmpParseSetIpResponse_bytes (r : SetIpaddrResp) :
    clSlmpParseSetIpResponse e (.ofBytes (r.bytes e)) = some r :=
  congrArg some (SetIpaddrResp.ofBuffer_bytes e r)

theorem clSlmpParseErrorResponse_bytes (r : ErrorResp) :
    clSlmpParseErrorResponse e (.ofBytes (r.bytes e)) = some r :=
  congrArg some (ErrorResp.ofBuffer_bytes e r)

end

/-! ## checks of built frames -/

section
variable (e : Endian)

theorem clSlmpPrepareRequestHeader_valid (serial command subCommand : UInt16) {n : UInt16}
    (hn : 13 ≤ n.toNat) :
    clSlmpIsHeaderRequest e (clSlmpPrepareRequestHeader e serial command subCommand n) = true
      ∧ clSlmpValidateRequestHeader e (clSlmpPrepareRequestHeader e serial command subCommand n)
          n.toNat = true := by
  have his : clSlmpIsHeaderRequest e (clSlmpPrepareRequestHeader e serial command subCommand n)
      = true := by
    simp [clSlmpIsHeaderRequest, clSlmpPrepareRequestHeader]
  have hlen : (n - UInt16.ofNat 13).toNat + 13 = n.toNat := by
    have h13 : (UInt16.ofNat 13).toNat = 13 := rfl
    rw [UInt16.toNat_sub_of_le _ _ (UInt16.le_iff_toNat_le.mpr (by rw [h13]; exact hn)), h13]
    omega
  refine ⟨his, ?_⟩
  unfold clSlmpValidateRequestHeader
  rw [his]
  simp [clSlmpPrepareRequestHeader, hlen]

theorem clSlmpPrepareResponseHeader_valid (serial endcode : UInt16) {n : Nat} (hn : 13 ≤ n)
    (hmax : n < 65536) :
    clSlmpIsHeaderResponse e (clSlmpPrepareResponseHeader e serial endcode n) = true
      ∧ clSlmpValidateResponseHeader e (clSlmpPrepareResponseHeader e serial endcode n) n
          = true := by
  have his : clSlmpIsHeaderResponse e (clSlmpPrepareResponseHeader e serial endcode n) = true := by
    simp [clSlmpIsHeaderResponse, clSlmpPrepareResponseHeader]
  have hlen : (UInt16.ofNat n - UInt16.ofNat 13).toNat + 13 = n := by
    have h13 : (UInt16.ofNat 13).toNat = 13 := rfl
    have hnat : (UInt16.ofNat n).toNat = n := by
      rw [UInt16.toNat_ofNat']
      exact Nat.mod_eq_of_lt hmax
    rw [UInt16.toNat_sub_of_le _ _ (UInt16.le_iff_toNat_le.mpr (by rw [h13, hnat]; exact hn)), h13,
      hnat]
    omega
  refine ⟨his, ?_⟩
  unfold clSlmpValidateResponseHeader
  rw [his]
  simp [clSlmpPrepareResponseHeader, hlen]

/-- the raw comparison of the length in the payload of a built frame -/
theorem length_raw_iff {n : Nat} (hn : n ∈ [17, 53, 45, 8, 11]) :
    (e.le16 (UInt16.ofNat n)).toNat = n ↔ e = .little := by
  cases e with
  | little =>
    refine iff_of_true ?_ rfl
    fin_cases hn
    all_goals rfl
  | big =>
    refine iff_of_false ?_ (fun h => nomatch h)
    fin_cases hn
    all_goals decide

theorem clSlmpPrepareNodeSearchRequestFrame_valid (masterMacAddr : MacAddr) {masterIpAddr : IpAddr}
    (serial : UInt16) (hip : masterIpAddr ≠ ipaddrInvalid) :
    clSlmpValidateNodeSearchRequest e
        (clSlmpPrepareNodeSearchRequestFrame e masterMacAddr masterIpAddr serial)
      = decide (e = .little) := by
  unfold clSlmpValidateNodeSearchRequest clSlmpPrepareNodeSearchRequestFrame
    clSlmpPrepareRequestHeader
  simp [hip]
  exact length_raw_iff e (n := 17) (by decide)

theorem clSlmpPrepareNodeSearchResponseFrame_valid (masterMacAddr slaveMacAddr : MacAddr)
    {masterIpAddr slaveIpAddr slaveNetmask : IpAddr} (slaveStatus vendorCode : UInt16)
    (modelCode : UInt32) (equipmentVer serial : UInt16) (hmaster : masterIpAddr ≠ ipaddrInvalid)
    (hslave : slaveIpAddr ≠ ipaddrInvalid) (hmask : clUtilsIsNetmaskValid slaveNetmask = true) :
    clSlmpValidateNodeSearchResponse e
        (clSlmpPrepareNodeSearchResponseFrame e masterMacAddr masterIpAddr slaveMacAddr slaveIpAddr
          slaveNetmask slaveStatus vendorCode modelCode equipmentVer serial)
      = decide (e = .little) := by
  unfold clSlmpValidateNodeSearchResponse clSlmpPrepareNodeSearchResponseFrame
    clSlmpPrepareResponseHeader
  simp [hmaster, hslave, hmask]
  exact length_raw_iff e (n := 53) (by decide)

theorem clSlmpPrepareSetIpRequestFrame_valid (masterMacAddr slaveMacAddr : MacAddr)
    {masterIpAddr slaveNewIpAddr slaveNewNetmask : IpAddr} (serial : UInt16)
    (hmaster : masterIpAddr ≠ ipaddrInvalid) (hnew : slaveNewIpAddr ≠ ipaddrInvalid)
    (hmask : clUtilsIsNetmaskValid slaveNewNetmask = true) :
    clSlmpValidateSetIpRequest e
        (clSlmpPrepareSetIpRequestFrame e masterMacAddr masterIpAddr serial slaveMacAddr
          slaveNewIpAddr slaveNewNetmask)
      = decide (e = .little) := by
  unfold clSlmpValidateSetIpRequest clSlmpPrepareSetIpRequestFrame clSlmpPrepareRequestHeader
  simp [hmaster, hnew, hmask]
  exact length_raw_iff e (n := 45) (by decide)

theorem clSlmpPrepareSetIpResponseFrame_valid (masterMacAddr : MacAddr) (serial : UInt16) :
    clSlmpValidateSetIpResponse e (clSlmpPrepareSetIpResponseFrame e masterMacAddr serial)
        masterMacAddr
      = decide (e = .little) := by
  unfold clSlmpValidateSetIpResponse clSlmpPrepareSetIpResponseFrame clSlmpPrepareResponseHeader
  simp
  exact length_raw_iff e (n := 8) (by decide)

theorem clSlmpPrepareErrorResponseFrame_valid (command subCommand endcode serial : UInt16) :
    clSlmpValidateErrorResponse e
        (clSlmpPrepareErrorResponseFrame e command subCommand endcode serial)
      = decide (e = .little) := by
  unfold clSlmpValidateErrorResponse clSlmpPrepareErrorResponseFrame clSlmpPrepareResponseHeader
  simp
  exact length_raw_iff e (n := 11) (by decide)

end

/-! ## bytes of built frames -/

section
variable (e : Endian)

theorem SlmpReqHeader.bytes_prepare (serial command subCommand n : UInt16) :
    (clSlmpPrepareRequestHeader e serial command subCommand n).bytes e
      = (clSlmpPrepareRequestHeader .little serial command subCommand n).bytes .little := by
  -- the timer is stored without a conversion
  have htimer : field16 e 0 = field16 .little 0 := by
    rw [← e.le16_zero, field16_le, e.le16_zero]
  simp only [SlmpReqHeader.bytes, clSlmpPrepareRequestHeader, field16_le, field16_be, htimer]

theorem SlmpRespHeader.bytes_prepare (serial endcode : UInt16) (n : Nat) :
    (clSlmpPrepareResponseHeader e serial endcode n).bytes e
      = (clSlmpPrepareResponseHeader .little serial endcode n).bytes .little := by
  simp only [SlmpRespHeader.bytes, clSlmpPrepareResponseHeader, field16_le, field16_be]

theorem NodeSearchRequest.bytes_prepare (masterMacAddr : MacAddr) (masterIpAddr : IpAddr)
    (serial : UInt16) :
    (clSlmpPrepareNodeSearchRequestFrame e masterMacAddr masterIpAddr serial).bytes e
      = (clSlmpPrepareNodeSearchRequestFrame .little masterMacAddr masterIpAddr serial).bytes
          .little := by
  simp only [NodeSearchRequest.bytes, clSlmpPrepareNodeSearchRequestFrame, field32_le,
    SlmpReqHeader.bytes_prepare e]

theorem NodeSearchResp.bytes_prepare (masterMacAddr slaveMacAddr : MacAddr)
    (masterIpAddr slaveIpAddr slaveNetmask : IpAddr) (slaveStatus vendorCode : UInt16)
    (modelCode : UInt32) (equipmentVer serial : UInt16) :
    (clSlmpPrepareNodeSearchResponseFrame e masterMacAddr masterIpAddr slaveMacAddr slaveIpAddr
        slaveNetmask slaveStatus vendorCode modelCode equipmentVer serial).bytes e
      = (clSlmpPrepareNodeSearchResponseFrame .little masterMacAddr masterIpAddr slaveMacAddr
        slaveIpAddr slaveNetmask slaveStatus vendorCode modelCode equipmentVer serial).bytes
          .little := by
  simp only [NodeSearchResp.bytes, clSlmpPrepareNodeSearchResponseFrame, field16_le, field32_le,
    SlmpRespHeader.bytes_prepare e]

theorem SetIpaddrRequest.bytes_prepare (masterMacAddr : MacAddr) (masterIpAddr : IpAddr)
    (serial : UInt16) (slaveMacAddr : MacAddr) (slaveNewIpAddr slaveNewNetmask : IpAddr) :
    (clSlmpPrepareSetIpRequestFrame e masterMacAddr masterIpAddr serial slaveMacAddr slaveNewIpAddr
        slaveNewNetmask).bytes e
      = (clSlmpPrepareSetIpRequestFrame .little masterMacAddr masterIpAddr serial slaveMacAddr
        slaveNewIpAddr slaveNewNetmask).bytes .little := by
  simp only [SetIpaddrRequest.bytes, clSlmpPrepareSetIpRequestFrame, field16_le, field32_le,
    SlmpReqHeader.bytes_prepare e]

theorem SetIpaddrResp.bytes_prepare (masterMacAddr : MacAddr) (serial : UInt16) :
    (clSlmpPrepareSetIpResponseFrame e masterMacAddr serial).bytes e
      = (clSlmpPrepareSetIpResponseFrame .little masterMacAddr serial).bytes .little := by
  simp only [SetIpaddrResp.bytes, clSlmpPrepareSetIpResponseFrame, SlmpRespHeader.bytes_prepare e]

theorem ErrorResp.bytes_prepare (command subCommand endcode serial : UInt16) :
    (clSlmpPrepareErrorResponseFrame e command subCommand endcode serial).bytes e
      = (clSlmpPrepareErrorResponseFrame .little command subCommand endcode serial).bytes
          .little := by
  simp only [ErrorResp.bytes, clSlmpPrepareErrorResponseFrame, field16_le,
    SlmpRespHeader.bytes_prepare e]

end

end CLink
