import CLink.EndToEnd.Slmp

/-!
# SLMP frames between any two hosts

What a station makes of a frame that the other side has built, whatever the byte order of both hosts
is.  A big-endian host rejects all of them.

* `clsSlmpHandleInputFrame_search`, `_address`   requests in a slave;
* `clmSlmpHandleInputFrame_search`, `_address`   the answers in the master.
-/

namespace CLink
open Bytes

section
variable (mcfg : SlmpMasterConfig) (scfg : SlmpSlaveConfig) (serial : UInt16)

/-! ## requests -/

theorem nodeSearchRequest_bytes (e : Endian) :
    (nodeSearchRequest mcfg serial).bytes mcfg.host
      = (clSlmpPrepareNodeSearchRequestFrame e mcfg.macAddress mcfg.masterId serial).bytes e :=
  (NodeSearchRequest.bytes_prepare mcfg.host _ _ _).trans
    (NodeSearchRequest.bytes_prepare e _ _ _).symm

theorem setIpRequest_bytes (e : Endian) (slaveMacAddr : MacAddr) (newIp newNetmask : IpAddr) :
    (setIpRequest mcfg serial slaveMacAddr newIp newNetmask).bytes mcfg.host
      = (clSlmpPrepareSetIpRequestFrame e mcfg.macAddress mcfg.masterId serial slaveMacAddr newIp
          newNetmask).bytes e :=
  (SetIpaddrRequest.bytes_prepare mcfg.host _ _ _ _ _ _).trans
    (SetIpaddrRequest.bytes_prepare e _ _ _ _ _ _).symm

variable {mcfg} (hmaster : mcfg.masterId ≠ ipaddrInvalid) (cls : SlmpSlave) (now : UInt32)
  {addrInfo : AddrInfo} (setOk sendOk : Bool)
include hmaster

theorem clsSlmpHandleInputFrame_search (hremote : addrInfo.remoteIp = mcfg.masterId) :
    (clsSlmpHandleInputFrame scfg cls now (.ofBytes ((nodeSearchRequest mcfg serial).bytes mcfg.host))
        addrInfo setOk sendOk).2
      = if scfg.host = .little then
          (clsSlmpScheduleNodeSearchResponse cls now mcfg.macAddress addrInfo serial,
            [.nodeSearchInd mcfg.macAddress mcfg.masterId])
        else (cls, []) := by
  rw [nodeSearchRequest_bytes mcfg serial scfg.host, clsSlmpHandleInputFrame_built scfg cls now serial
    slmpCommandNodeSearch slmpSubcommandNodeSearch (n := 30) (by decide) addrInfo setOk sendOk
    (by rfl) rfl, if_pos ⟨rfl, rfl⟩]
  unfold clsSlmpHandleNodeSearchRequest
  rw [clSlmpParseNodeSearchRequest_bytes]
  dsimp only
  rw [clSlmpPrepareNodeSearchRequestFrame_valid scfg.host _ _ hmaster]
  by_cases hs : scfg.host = .little
  · simp [clSlmpPrepareNodeSearchRequestFrame, clSlmpPrepareRequestHeader, hremote, hs]
  · simp [hs]

theorem clsSlmpHandleInputFrame_address (slaveMacAddr : MacAddr) {newIp newNetmask : IpAddr}
    (hip : newIp ≠ ipaddrInvalid) (hmask : clUtilsIsNetmaskValid newNetmask = true)
    (hremote : addrInfo.remoteIp = mcfg.masterId) :
    (clsSlmpHandleInputFrame scfg cls now (.ofBytes ((setIpRequest mcfg serial slaveMacAddr newIp
        newNetmask).bytes mcfg.host)) addrInfo setOk sendOk).2
      = (cls, if scfg.host = .little ∧ slaveMacAddr = addrInfo.localMacAddress then
          (if scfg.ipSettingAllowed
            then [.setNetworkSettings addrInfo.ifindex newIp newNetmask] else [])
          ++ [.response (if scfg.ipSettingAllowed && setOk then newIp else addrInfo.localIp)
              (slmpBroadcastAddress scfg newNetmask newIp) addrInfo.remotePort
              (.ofBytes (setIpAnswer mcfg scfg serial (scfg.ipSettingAllowed && setOk))),
            .setIpInd mcfg.macAddress mcfg.masterId newIp newNetmask scfg.ipSettingAllowed
              (scfg.ipSettingAllowed && setOk)]
        else []) := by
  rw [setIpRequest_bytes mcfg serial scfg.host, clsSlmpHandleInputFrame_built scfg cls now serial
    slmpCommandNodeIpaddressSet slmpSubcommandNodeIpaddressSet (n := 58) (by decide) addrInfo setOk
    sendOk (by rfl) rfl, if_neg (by decide), if_pos ⟨rfl, rfl⟩]
  unfold clsSlmpHandleIpaddressSetRequest
  rw [clSlmpParseSetIpRequest_bytes]
  dsimp only
  rw [clSlmpPrepareSetIpRequestFrame_valid scfg.host _ _ _ hmaster hip hmask]
  unfold setIpAnswer
  by_cases hs : scfg.host = .little
  · by_cases hmac : slaveMacAddr = addrInfo.localMacAddress
    · simp [clSlmpPrepareSetIpRequestFrame, clSlmpPrepareRequestHeader, hmac, hremote, hs]
    · simp [clSlmpPrepareSetIpRequestFrame, hmac, hs]
  · simp [hs]

end

/-! ## answers -/

/-- a header that the master does not get past -/
theorem clmSlmpHandleInputFrame_elsewhere {mcfg : SlmpMasterConfig} (clm : SlmpMaster) (dg : Datagram) {ifindex : Int}
    (hif : ifindex ≠ mcfg.ifindex) (calls : List SlmpCall) :
    (clmSlmpHandleInputFrame mcfg clm dg ifindex calls).2 = (clm, []) := by
  unfold clmSlmpHandleInputFrame
  cases clSlmpParseResponseHeader mcfg.host dg with
  | none => rfl
  | some header =>
    dsimp only
    split
    · rfl
    split
    · rfl
    · rfl

section
variable (mcfg : SlmpMasterConfig) (scfg : SlmpSlaveConfig) (serial : UInt16)

theorem nodeSearchResponse_bytes (addrInfo : AddrInfo) (e : Endian) :
    (nodeSearchResponse mcfg scfg addrInfo serial).bytes scfg.host
      = (clSlmpPrepareNodeSearchResponseFrame e mcfg.macAddress mcfg.masterId addrInfo.localMacAddress
          addrInfo.localIp addrInfo.localNetmask nodeSearchRespServerStatusNormal scfg.vendorCode
          scfg.modelCode scfg.equipmentVer serial).bytes e :=
  (NodeSearchResp.bytes_prepare scfg.host _ _ _ _ _ _ _ _ _ _).trans
    (NodeSearchResp.bytes_prepare e _ _ _ _ _ _ _ _ _ _).symm

/-- the response to a node search adds an entry to the database, or nothing happens -/
theorem clmSlmpHandleInputFrame_search (addrInfo : AddrInfo) (clm : SlmpMaster) (ifindex : Int)
    (calls : List SlmpCall) :
    let after := (clmSlmpHandleInputFrame mcfg clm
      (.ofBytes ((nodeSearchResponse mcfg scfg addrInfo serial).bytes scfg.host)) ifindex calls).2
    after = (clm, []) ∨ clm.nodeSearchSerial = serial.toNat ∧ after.2 = [] ∧ ∃ resp,
      after.1 = { clm with nodeSearchDb := clmSlmpNodeSearchAddDb mcfg clm.nodeSearchDb resp }
        ∧ nodeSearchResult mcfg.host resp = slaveEntry scfg addrInfo := by
  intro after
  by_cases hif : ifindex = mcfg.ifindex
  case neg => exact Or.inl (clmSlmpHandleInputFrame_elsewhere clm _ hif calls)
  subst hif
  have hafter : after = (runHandler mcfg clm (.ofBytes ((nodeSearchResponse mcfg scfg addrInfo
      serial).bytes scfg.host)) calls (responseHandler clm serial endcodeSuccess)).2 := by
    exact congrArg Prod.snd (clmSlmpHandleInputFrame_built mcfg clm serial endcodeSuccess (n := 66)
      (by decide) (by decide) calls
      (by rw [nodeSearchResponse_bytes mcfg scfg serial addrInfo mcfg.host]; rfl) rfl)
  rw [hafter]
  unfold responseHandler
  by_cases hsearch : (serial.toNat : Int) = clm.nodeSearchSerial
  · rw [if_pos hsearch, nodeSearchResponse_bytes mcfg scfg serial addrInfo mcfg.host]
    unfold runHandler clmSlmpHandleNodeSearchResponse
    dsimp only
    rw [clSlmpParseNodeSearchResponse_bytes]
    dsimp only
    split
    · exact Or.inl rfl
    · refine Or.inr ⟨hsearch.symm, rfl, _, rfl, ?_⟩
      simp [nodeSearchResult, clSlmpPrepareNodeSearchResponseFrame, slaveEntry]
  · -- the answers to requests for a new address are shorter
    rw [if_neg hsearch]
    split
    · rw [if_pos rfl]
      exact Or.inl rfl
    · exact Or.inl rfl

/-- the answer to a request for a new address confirms the request, or nothing happens -/
theorem clmSlmpHandleInputFrame_address (didSetIp : Bool) (clm : SlmpMaster) (ifindex : Int)
    (calls : List SlmpCall) :
    let after := (clmSlmpHandleInputFrame mcfg clm
      (.ofBytes (setIpAnswer mcfg scfg serial didSetIp)) ifindex calls).2
    after = (clm, []) ∨ clm.setIpRequestSerial = serial.toNat
      ∧ after = clmSlmpSetIpNotifyCfm mcfg clm (if didSetIp then .success else .error) calls := by
  intro after
  by_cases hif : ifindex = mcfg.ifindex
  case neg => exact Or.inl (clmSlmpHandleInputFrame_elsewhere clm _ hif calls)
  subst hif
  cases didSetIp with
  | true =>
    have hbytes : setIpAnswer mcfg scfg serial true
        = (clSlmpPrepareSetIpResponseFrame mcfg.host mcfg.macAddress serial).bytes mcfg.host :=
      (SetIpaddrResp.bytes_prepare scfg.host _ _).trans (SetIpaddrResp.bytes_prepare mcfg.host _ _).symm
    have hafter : after = (runHandler mcfg clm (.ofBytes (setIpAnswer mcfg scfg serial true)) calls
        (responseHandler clm serial endcodeSuccess)).2 :=
      congrArg Prod.snd (clmSlmpHandleInputFrame_built mcfg clm serial endcodeSuccess (n := 21)
        (by decide) (by decide) calls (by rw [hbytes]; rfl) (by rw [hbytes]; rfl))
    rw [hafter, hbytes]
    unfold responseHandler
    split
    · exact Or.inl rfl
    split
    · rename_i hserial
      rw [if_pos rfl]
      unfold runHandler clmSlmpHandleSetIpaddrResponse
      dsimp only
      rw [clSlmpParseSetIpResponse_bytes]
      dsimp only
      split
      · exact Or.inl rfl
      · exact Or.inr ⟨hserial.symm, rfl⟩
    · exact Or.inl rfl
  | false =>
    have hbytes : setIpAnswer mcfg scfg serial false
        = (clSlmpPrepareErrorResponseFrame mcfg.host slmpCommandNodeIpaddressSet
            slmpSubcommandNodeIpaddressSet endcodeCommandRequestMsg serial).bytes mcfg.host :=
      (ErrorResp.bytes_prepare scfg.host _ _ _ _).trans (ErrorResp.bytes_prepare mcfg.host _ _ _ _).symm
    have hafter : after = (runHandler mcfg clm (.ofBytes (setIpAnswer mcfg scfg serial false)) calls
        (responseHandler clm serial endcodeCommandRequestMsg)).2 :=
      congrArg Prod.snd (clmSlmpHandleInputFrame_built mcfg clm serial endcodeCommandRequestMsg (n := 24)
        (by decide) (by decide) calls (by rw [hbytes]; rfl) (by rw [hbytes]; rfl))
    rw [hafter, hbytes]
    unfold responseHandler
    split
    · exact Or.inl rfl
    split
    · rename_i hserial
      rw [if_neg (by decide)]
      unfold runHandler clmSlmpHandleSetIpError
      dsimp only
      rw [clSlmpParseErrorResponse_bytes]
      dsimp only
      split
      · exact Or.inl rfl
      split
      · exact Or.inl rfl
      · exact Or.inr ⟨hserial.symm, rfl⟩
    · exact Or.inl rfl

end

end CLink
