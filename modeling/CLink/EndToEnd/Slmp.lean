import CLink.Slmp.BuiltFrames
import CLink.Slmp.Master
import CLink.Slmp.Slave

/-!
# SLMP, end to end

The master builds a request, the slave acts on it and builds its answer, and the master handles the
answer; both hosts are little-endian.

* `clsSlmpHandleInputFrame_built`, `clmSlmpHandleInputFrame_built`   a built frame reaches the handler
                                                                     of its command or serial number;
* `slmp_endToEnd`                                                    node search and new address.
-/

namespace CLink
open Bytes

/-! ## dispatch of built frames -/

theorem clsSlmpHandleInputFrame_built (cfg : SlmpSlaveConfig) (cls : SlmpSlave) (now : UInt32)
    (serial command subCommand : UInt16) {n : UInt16} (hn : 13 ≤ n.toNat) {t : List UInt8}
    (addrInfo : AddrInfo) (setOk sendOk : Bool) {dg : Datagram}
    (hdg : dg = .ofBytes ((clSlmpPrepareRequestHeader cfg.host serial command subCommand n).bytes
      cfg.host ++ t)) (hlen : dg.len = n.toNat) :
    clsSlmpHandleInputFrame cfg cls now dg addrInfo setOk sendOk
      = if command = slmpCommandNodeSearch ∧ subCommand = slmpSubcommandNodeSearch then
          clsSlmpHandleNodeSearchRequest cfg cls now dg addrInfo
        else if command = slmpCommandNodeIpaddressSet
            ∧ subCommand = slmpSubcommandNodeIpaddressSet then
          clsSlmpHandleIpaddressSetRequest cfg cls dg addrInfo setOk sendOk
        else (-1, cls, []) := by
  obtain ⟨his, hvalid⟩ := clSlmpPrepareRequestHeader_valid cfg.host serial command subCommand hn
  have hparse := clSlmpParseRequestHeader_bytes cfg.host
    (clSlmpPrepareRequestHeader cfg.host serial command subCommand n) t
  rw [← hdg] at hparse
  unfold clsSlmpHandleInputFrame
  rw [hparse, hlen]
  dsimp only
  rw [his, hvalid]
  simp [clSlmpPrepareRequestHeader]

theorem clmSlmpHandleInputFrame_built (cfg : SlmpMasterConfig) (clm : SlmpMaster)
    (serial endcode : UInt16) {n : Nat} (hn : 13 ≤ n) (hmax : n < 65536) {t : List UInt8}
    (calls : List SlmpCall) {dg : Datagram}
    (hdg : dg = .ofBytes ((clSlmpPrepareResponseHeader cfg.host serial endcode n).bytes cfg.host
      ++ t)) (hlen : dg.len = n) :
    clmSlmpHandleInputFrame cfg clm dg cfg.ifindex calls
      = runHandler cfg clm dg calls (responseHandler clm serial endcode) := by
  obtain ⟨his, hvalid⟩ := clSlmpPrepareResponseHeader_valid cfg.host serial endcode hn hmax
  have hparse := clSlmpParseResponseHeader_bytes cfg.host
    (clSlmpPrepareResponseHeader cfg.host serial endcode n) t
  rw [← hdg] at hparse
  unfold clmSlmpHandleInputFrame
  rw [hparse, hlen]
  dsimp only
  rw [his, hvalid]
  simp only [clSlmpPrepareResponseHeader, Endian.le16_le16, ne_eq, not_true_eq_false, if_false,
    Bool.true_eq_false]

/-! ## node search -/

section
variable {mcfg : SlmpMasterConfig} {scfg : SlmpSlaveConfig}

/-- the request of `clm_slmp_perform_node_search` -/
def nodeSearchRequest (mcfg : SlmpMasterConfig) (serial : UInt16) : NodeSearchRequest :=
  clSlmpPrepareNodeSearchRequestFrame mcfg.host mcfg.macAddress mcfg.masterId serial

theorem clmSlmpPerformNodeSearch_sent {clm : SlmpMaster}
    (hfree : clm.nodeSearchSerial = clmSlmpSerialNone) (now : UInt32) :
    (clmSlmpPerformNodeSearch mcfg clm now true).2
      = [.sent .nodeSearch (.ofBytes ((nodeSearchRequest mcfg clm.slmpRequestSerial).bytes
          mcfg.host))] := by
  simp [clmSlmpPerformNodeSearch, hfree, nodeSearchRequest]

theorem clsSlmpHandleInputFrame_nodeSearch (hm : mcfg.host = .little) (hs : scfg.host = .little)
    (hmaster : mcfg.masterId ≠ ipaddrInvalid) (serial : UInt16) (cls : SlmpSlave) (now : UInt32)
    {addrInfo : AddrInfo} (hremote : addrInfo.remoteIp = mcfg.masterId) (setOk sendOk : Bool) :
    clsSlmpHandleInputFrame scfg cls now
        (.ofBytes ((nodeSearchRequest mcfg serial).bytes mcfg.host)) addrInfo setOk sendOk
      = (0, clsSlmpScheduleNodeSearchResponse cls now mcfg.macAddress addrInfo serial,
          [.nodeSearchInd mcfg.macAddress mcfg.masterId]) := by
  have hhost : mcfg.host = scfg.host := hm.trans hs.symm
  rw [hhost, clsSlmpHandleInputFrame_built scfg cls now serial slmpCommandNodeSearch
    slmpSubcommandNodeSearch (n := 30) (by decide) addrInfo setOk sendOk
    (by rw [nodeSearchRequest, hhost]; rfl) rfl, if_pos ⟨rfl, rfl⟩]
  unfold clsSlmpHandleNodeSearchRequest
  rw [clSlmpParseNodeSearchRequest_bytes]
  dsimp only
  rw [nodeSearchRequest, hhost, clSlmpPrepareNodeSearchRequestFrame_valid scfg.host _ _ hmaster, hs]
  simp [clSlmpPrepareNodeSearchRequestFrame, clSlmpPrepareRequestHeader, hremote]

/-- the response that the slave sends after the delay -/
def nodeSearchResponse (mcfg : SlmpMasterConfig) (scfg : SlmpSlaveConfig) (addrInfo : AddrInfo)
    (serial : UInt16) : NodeSearchResp :=
  clSlmpPrepareNodeSearchResponseFrame scfg.host mcfg.macAddress mcfg.masterId
    addrInfo.localMacAddress addrInfo.localIp addrInfo.localNetmask
    nodeSearchRespServerStatusNormal scfg.vendorCode scfg.modelCode scfg.equipmentVer serial

theorem clsSlmpPeriodic_nodeSearch (hmaster : mcfg.masterId ≠ ipaddrInvalid) (serial : UInt16)
    (cls : SlmpSlave) (now later : UInt32) {addrInfo : AddrInfo}
    (hremote : addrInfo.remoteIp = mcfg.masterId) (sendOk setOk sendAnswerOk : Bool)
    (hexpired : clTimerIsExpired (clsSlmpScheduleNodeSearchResponse cls now mcfg.macAddress addrInfo
      serial).responseTimer later = true) :
    (clsSlmpPeriodic scfg (clsSlmpScheduleNodeSearchResponse cls now mcfg.macAddress addrInfo serial)
        later none sendOk setOk sendAnswerOk).2
      = [.response addrInfo.localIp
          (slmpBroadcastAddress scfg addrInfo.localNetmask addrInfo.localIp) addrInfo.remotePort
          (.ofBytes ((nodeSearchResponse mcfg scfg addrInfo serial).bytes scfg.host))] := by
  unfold clsSlmpPeriodic checkResponseTimer
  rw [if_pos hexpired]
  simp [clsSlmpSendNodeSearchResponse, clsSlmpScheduleNodeSearchResponse, hremote, hmaster,
    nodeSearchResponse]

/-- the entry of a slave -/
def slaveEntry (scfg : SlmpSlaveConfig) (addrInfo : AddrInfo) : NodeSearchResponseEntry :=
  { slaveId := addrInfo.localIp, slaveNetmask := addrInfo.localNetmask
    slaveMacAddr := addrInfo.localMacAddress, vendorCode := scfg.vendorCode
    modelCode := scfg.modelCode, equipmentVer := scfg.equipmentVer }

theorem clmSlmpHandleInputFrame_nodeSearch (hm : mcfg.host = .little) (hs : scfg.host = .little)
    (hmaster : mcfg.masterId ≠ ipaddrInvalid) (serial : UInt16) {addrInfo : AddrInfo}
    (hslave : addrInfo.localIp ≠ ipaddrInvalid)
    (hmask : clUtilsIsNetmaskValid addrInfo.localNetmask = true) {clm : SlmpMaster}
    (hserial : clm.nodeSearchSerial = serial.toNat)
    (hfull : clm.nodeSearchDb.stored.toNat ≠ mcfg.clmMaxNodeSearchDevices)
    (calls : List SlmpCall) :
    clmSlmpHandleInputFrame mcfg clm
        (.ofBytes ((nodeSearchResponse mcfg scfg addrInfo serial).bytes scfg.host)) mcfg.ifindex calls
      = (0, { clm with
          nodeSearchDb := {
            count := clm.nodeSearchDb.count + 1
            stored := clm.nodeSearchDb.stored + 1
            entries := Function.update clm.nodeSearchDb.entries clm.nodeSearchDb.stored.toNat
              (slaveEntry scfg addrInfo) } }, []) := by
  have hhost : scfg.host = mcfg.host := hs.trans hm.symm
  have hhandler : responseHandler clm serial endcodeSuccess = some .nodeSearchResponse := by
    unfold responseHandler
    rw [if_pos hserial.symm]
  rw [hhost, clmSlmpHandleInputFrame_built mcfg clm serial endcodeSuccess (n := 66) (by decide)
    (by decide) calls (by rw [nodeSearchResponse, hhost]; rfl) rfl, hhandler]
  unfold runHandler clmSlmpHandleNodeSearchResponse
  dsimp only
  rw [clSlmpParseNodeSearchResponse_bytes]
  dsimp only
  rw [nodeSearchResponse, hhost, clSlmpPrepareNodeSearchResponseFrame_valid mcfg.host _ _ _ _ _ _ _
    hmaster hslave hmask, hm]
  simp [clmSlmpNodeSearchAddDb, hfull, nodeSearchResult, clSlmpPrepareNodeSearchResponseFrame, hm,
    slaveEntry]

/-! ## set IP -/

/-- the request of `clm_slmp_perform_set_ipaddr_request` -/
def setIpRequest (mcfg : SlmpMasterConfig) (serial : UInt16) (slaveMacAddr : MacAddr)
    (newIp newNetmask : IpAddr) : SetIpaddrRequest :=
  clSlmpPrepareSetIpRequestFrame mcfg.host mcfg.macAddress mcfg.masterId serial slaveMacAddr newIp
    newNetmask

theorem clmSlmpPerformSetIpaddrRequest_sent {clm : SlmpMaster}
    (hfree : clm.setIpRequestSerial = clmSlmpSerialNone) (now : UInt32) (slaveMacAddr : MacAddr)
    {newIp newNetmask : IpAddr} (hip : newIp ≠ ipaddrInvalid)
    (hmask : clUtilsIsNetmaskValid newNetmask = true) :
    (clmSlmpPerformSetIpaddrRequest mcfg clm now slaveMacAddr newIp newNetmask true).2
      = [.sent .setIp (.ofBytes ((setIpRequest mcfg clm.slmpRequestSerial slaveMacAddr newIp
          newNetmask).bytes mcfg.host))] := by
  simp [clmSlmpPerformSetIpaddrRequest, hfree, hip, hmask, setIpRequest]

/-- the answer of the slave -/
def setIpAnswer (mcfg : SlmpMasterConfig) (scfg : SlmpSlaveConfig) (serial : UInt16)
    (didSetIp : Bool) : List UInt8 :=
  if didSetIp then (clSlmpPrepareSetIpResponseFrame scfg.host mcfg.macAddress serial).bytes scfg.host
  else (clSlmpPrepareErrorResponseFrame scfg.host slmpCommandNodeIpaddressSet
    slmpSubcommandNodeIpaddressSet endcodeCommandRequestMsg serial).bytes scfg.host

theorem clsSlmpHandleInputFrame_setIp (hm : mcfg.host = .little) (hs : scfg.host = .little)
    (hmaster : mcfg.masterId ≠ ipaddrInvalid) (serial : UInt16) (slaveMacAddr : MacAddr)
    {newIp newNetmask : IpAddr} (hip : newIp ≠ ipaddrInvalid)
    (hmask : clUtilsIsNetmaskValid newNetmask = true) (cls : SlmpSlave) (now : UInt32)
    (addrInfo : AddrInfo) (setOk sendOk : Bool) :
    (clsSlmpHandleInputFrame scfg cls now (.ofBytes ((setIpRequest mcfg serial slaveMacAddr newIp
        newNetmask).bytes mcfg.host)) addrInfo setOk sendOk).2
      = (cls, if slaveMacAddr = addrInfo.localMacAddress ∧ mcfg.masterId = addrInfo.remoteIp then
          (if scfg.ipSettingAllowed
            then [.setNetworkSettings addrInfo.ifindex newIp newNetmask] else [])
          ++ [.response (if scfg.ipSettingAllowed && setOk then newIp else addrInfo.localIp)
              (slmpBroadcastAddress scfg newNetmask newIp) addrInfo.remotePort
              (.ofBytes (setIpAnswer mcfg scfg serial (scfg.ipSettingAllowed && setOk))),
            .setIpInd mcfg.macAddress mcfg.masterId newIp newNetmask scfg.ipSettingAllowed
              (scfg.ipSettingAllowed && setOk)]
        else []) := by
  have hhost : mcfg.host = scfg.host := hm.trans hs.symm
  rw [hhost, clsSlmpHandleInputFrame_built scfg cls now serial slmpCommandNodeIpaddressSet
    slmpSubcommandNodeIpaddressSet (n := 58) (by decide) addrInfo setOk sendOk
    (by rw [setIpRequest, hhost]; rfl) rfl, if_neg (by decide), if_pos ⟨rfl, rfl⟩]
  unfold clsSlmpHandleIpaddressSetRequest
  rw [clSlmpParseSetIpRequest_bytes]
  dsimp only
  rw [setIpRequest, hhost, clSlmpPrepareSetIpRequestFrame_valid scfg.host _ _ _ hmaster hip hmask,
    hs]
  unfold setIpAnswer
  rw [hs]
  by_cases hmac : slaveMacAddr = addrInfo.localMacAddress
  · by_cases hremote : mcfg.masterId = addrInfo.remoteIp
    · simp [clSlmpPrepareSetIpRequestFrame, clSlmpPrepareRequestHeader, hmac, hremote]
    · simp [clSlmpPrepareSetIpRequestFrame, hmac, hremote]
  · simp [clSlmpPrepareSetIpRequestFrame, hmac]

theorem clmSlmpHandleInputFrame_setIp (hm : mcfg.host = .little) (hs : scfg.host = .little)
    (serial : UInt16) (didSetIp : Bool) {clm : SlmpMaster}
    (hserial : clm.setIpRequestSerial = serial.toNat) (hsearch : clm.nodeSearchSerial ≠ serial.toNat)
    (calls : List SlmpCall) :
    clmSlmpHandleInputFrame mcfg clm (.ofBytes (setIpAnswer mcfg scfg serial didSetIp)) mcfg.ifindex
        calls
      = (0, clmSlmpSetIpNotifyCfm mcfg clm (if didSetIp then .success else .error) calls) := by
  have hhost : scfg.host = mcfg.host := hs.trans hm.symm
  have hhandler : ∀ endcode, responseHandler clm serial endcode
      = if endcode = endcodeSuccess then some .setIpaddrResponse else some .setIpError := by
    intro endcode
    unfold responseHandler
    rw [if_neg (Ne.symm hsearch), if_pos hserial.symm]
  unfold setIpAnswer
  rw [hhost]
  cases didSetIp with
  | true =>
    rw [if_pos rfl, clmSlmpHandleInputFrame_built mcfg clm serial endcodeSuccess (n := 21) (by decide)
      (by decide) calls (by rfl) rfl, hhandler, if_pos rfl]
    unfold runHandler clmSlmpHandleSetIpaddrResponse
    dsimp only
    rw [clSlmpParseSetIpResponse_bytes]
    dsimp only
    rw [clSlmpPrepareSetIpResponseFrame_valid, hm]
    rfl
  | false =>
    rw [if_neg (by decide), clmSlmpHandleInputFrame_built mcfg clm serial endcodeCommandRequestMsg
      (n := 24) (by decide) (by decide) calls (by rfl) rfl, hhandler, if_neg (by decide)]
    unfold runHandler clmSlmpHandleSetIpError
    dsimp only
    rw [clSlmpParseErrorResponse_bytes]
    dsimp only
    rw [clSlmpPrepareErrorResponseFrame_valid, hm]
    simp [clSlmpPrepareErrorResponseFrame]

/-! ## both together -/

/-- **SLMP, end to end.**  The master has an IP address.  A node search adds the slave to the database
of the master while there is room; a request for a new address makes the addressed slave, and no
other, change its address if it may, and the master confirms what became of it. -/
theorem slmp_endToEnd (hm : mcfg.host = .little) (hs : scfg.host = .little)
    (hmaster : mcfg.masterId ≠ ipaddrInvalid) :
    (∀ clm now, clm.nodeSearchSerial = clmSlmpSerialNone →
      ∃ request, (clmSlmpPerformNodeSearch mcfg clm now true).2 = [.sent .nodeSearch request]
        ∧ ∀ cls arrival addrInfo setOk sendOk, addrInfo.remoteIp = mcfg.masterId →
          addrInfo.localIp ≠ ipaddrInvalid → clUtilsIsNetmaskValid addrInfo.localNetmask = true →
          ∃ cls' outs,
            clsSlmpHandleInputFrame scfg cls arrival request addrInfo setOk sendOk = (0, cls', outs)
            ∧ ∀ later sendOk setOk sendAnswerOk,
              clTimerIsExpired cls'.responseTimer later = true →
              ∃ broadcast response,
                (clsSlmpPeriodic scfg cls' later none sendOk setOk sendAnswerOk).2
                  = [.response addrInfo.localIp broadcast addrInfo.remotePort response]
                ∧ ∀ (clm' : SlmpMaster) calls,
                  clm'.nodeSearchSerial = clm.slmpRequestSerial.toNat →
                  clm'.nodeSearchDb.stored.toNat ≠ mcfg.clmMaxNodeSearchDevices →
                  clmSlmpHandleInputFrame mcfg clm' response mcfg.ifindex calls
                    = (0, { clm' with
                        nodeSearchDb := {
                          count := clm'.nodeSearchDb.count + 1
                          stored := clm'.nodeSearchDb.stored + 1
                          entries := Function.update clm'.nodeSearchDb.entries
                            clm'.nodeSearchDb.stored.toNat (slaveEntry scfg addrInfo) } }, []))
      ∧ ∀ clm now slaveMacAddr newIp newNetmask, clm.setIpRequestSerial = clmSlmpSerialNone →
        newIp ≠ ipaddrInvalid → clUtilsIsNetmaskValid newNetmask = true →
        ∃ request, (clmSlmpPerformSetIpaddrRequest mcfg clm now slaveMacAddr newIp newNetmask true).2
            = [.sent .setIp request]
          ∧ ∀ cls arrival addrInfo setOk sendOk,
            let outs := (clsSlmpHandleInputFrame scfg cls arrival request addrInfo setOk sendOk).2.2
            let didSetIp := scfg.ipSettingAllowed && setOk
            (¬ (slaveMacAddr = addrInfo.localMacAddress ∧ mcfg.masterId = addrInfo.remoteIp) →
              outs = [])
            ∧ (slaveMacAddr = addrInfo.localMacAddress ∧ mcfg.masterId = addrInfo.remoteIp →
              ∃ localIp broadcast answer,
                outs = (if scfg.ipSettingAllowed
                    then [.setNetworkSettings addrInfo.ifindex newIp newNetmask] else [])
                  ++ [.response localIp broadcast addrInfo.remotePort answer,
                    .setIpInd mcfg.macAddress mcfg.masterId newIp newNetmask scfg.ipSettingAllowed
                      didSetIp]
                ∧ ∀ (clm' : SlmpMaster) calls,
                  clm'.setIpRequestSerial = clm.slmpRequestSerial.toNat →
                  clm'.nodeSearchSerial ≠ clm.slmpRequestSerial.toNat →
                  clmSlmpHandleInputFrame mcfg clm' answer mcfg.ifindex calls
                    = (0, clmSlmpSetIpNotifyCfm mcfg clm' (if didSetIp then .success else .error)
                        calls)) := by
  constructor
  · intro clm now hfree
    refine ⟨_, clmSlmpPerformNodeSearch_sent hfree now, ?_⟩
    intro cls arrival addrInfo setOk sendOk hremote hslave hmask
    refine ⟨_, _, clsSlmpHandleInputFrame_nodeSearch hm hs hmaster clm.slmpRequestSerial cls arrival
      hremote setOk sendOk, ?_⟩
    intro later sendOk setOk sendAnswerOk hexpired
    refine ⟨_, _, clsSlmpPeriodic_nodeSearch hmaster clm.slmpRequestSerial cls arrival later hremote
      sendOk setOk sendAnswerOk hexpired, ?_⟩
    intro clm' calls hserial hfull
    exact clmSlmpHandleInputFrame_nodeSearch hm hs hmaster _ hslave hmask hserial hfull calls
  · intro clm now slaveMacAddr newIp newNetmask hfree hip hmask
    refine ⟨_, clmSlmpPerformSetIpaddrRequest_sent hfree now slaveMacAddr hip hmask, ?_⟩
    intro cls arrival addrInfo setOk sendOk
    have houts := congrArg Prod.snd (clsSlmpHandleInputFrame_setIp hm hs hmaster
      clm.slmpRequestSerial slaveMacAddr hip hmask cls arrival addrInfo setOk sendOk)
    refine ⟨?_, ?_⟩
    · intro hother
      exact houts.trans (if_neg hother)
    · intro haddressed
      refine ⟨_, _, _, houts.trans (if_pos haddressed), ?_⟩
      intro clm' calls hserial hsearch
      exact clmSlmpHandleInputFrame_setIp hm hs _ _ hserial hsearch calls

end

/-- a slave is addressed, changes its address and answers, and the master confirms it -/
theorem slmp_endToEnd_example :
    ∃ request answer,
      (clmSlmpPerformSetIpaddrRequest exampleSlmpConfig (clmSlmpInit exampleSlmpMaster) 0
        exampleAddrInfo.localMacAddress 0xC0A80003 0xFFFFFF00 true).2 = [.sent .setIp request]
      ∧ (clmSlmpHandleInputFrame exampleSlmpConfig
          { clmSlmpInit exampleSlmpMaster with setIpRequestSerial := 0 } answer 3 []).2.2
        = [.setIpCfm .success] := by
  have hend := @slmp_endToEnd exampleSlmpConfig exampleSlmpSlaveConfig rfl rfl (by decide)
  obtain ⟨request, hsent, hslave⟩ := hend.2 (clmSlmpInit exampleSlmpMaster) 0
    exampleAddrInfo.localMacAddress 0xC0A80003 0xFFFFFF00 rfl (by decide) (by decide)
  obtain ⟨localIp, broadcast, answer, -, hcfm⟩ :=
    (hslave exampleSlmpSlave 0 exampleAddrInfo true true).2 ⟨rfl, rfl⟩
  refine ⟨request, answer, hsent, ?_⟩
  have hmaster := hcfm { clmSlmpInit exampleSlmpMaster with setIpRequestSerial := 0 } [] rfl
    (by decide)
  have hifindex : exampleSlmpConfig.ifindex = 3 := rfl
  rw [← hifindex, hmaster]
  rfl

/-- nothing is stored in a full database, a master or a slave without an address is rejected, and a
pending search takes the answer with its serial number -/
theorem slmp_endToEnd_limits :
    (clmSlmpHandleInputFrame exampleSlmpConfig
        { exampleSlmpMaster with
          nodeSearchDb := { exampleSlmpMaster.nodeSearchDb with stored := 20 } }
        (.ofBytes ((nodeSearchResponse exampleSlmpConfig exampleSlmpSlaveConfig exampleAddrInfo
          0).bytes .little)) 3 []).2.1.nodeSearchDb.stored = 20
      ∧ (clsSlmpHandleInputFrame exampleSlmpSlaveConfig exampleSlmpSlave 0
        (.ofBytes ((nodeSearchRequest { exampleSlmpConfig with masterId := 0 } 0).bytes .little))
        { exampleAddrInfo with remoteIp := 0 } true true).1 = -1
      ∧ (clmSlmpHandleInputFrame exampleSlmpConfig exampleSlmpMaster
        (.ofBytes ((nodeSearchResponse exampleSlmpConfig exampleSlmpSlaveConfig
          { exampleAddrInfo with localIp := 0 } 0).bytes .little)) 3 []).1 = -1
      ∧ (clmSlmpHandleInputFrame exampleSlmpConfig exampleSlmpMaster
        (.ofBytes (setIpAnswer exampleSlmpConfig exampleSlmpSlaveConfig 0 true)) 3 []).1 = -1 := by
  refine ⟨rfl, rfl, rfl, rfl⟩

end CLink
