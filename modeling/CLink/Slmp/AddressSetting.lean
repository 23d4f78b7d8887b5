import CLink.Slmp.BuiltFrames
import CLink.Slmp.Slave

/-!
# Who may set the address of the slave

`SetIpFor e dg addrInfo r`: the datagram is the request `r` for a new address, valid in every field;
it names the MAC address of the interface, and the master that it names has sent it.

* `SetIpFor.built`                    such a request is one that a master builds;
* `clsSlmpHandleInputFrame_setIpFor`  what the slave does with it, and `.._other` with the rest;
* `setIpContract`                     the address changes for such a request only, and the answer
                                      says whether it has;
* `setIpAnswer_network_iff`           the answer goes to the network that the slave was told to join.
-/

namespace CLink
open Bytes

/-! ## outputs -/

namespace SlmpSlaveOutput

def isSetting : SlmpSlaveOutput → Bool
  | .setNetworkSettings .. => true
  | _ => false

def isAnswer : SlmpSlaveOutput → Bool
  | .response .. => true
  | _ => false

end SlmpSlaveOutput

/-! ## requests -/

attribute [ext] SlmpReqHeader SetIpaddrRequest

structure SetIpFor (e : Endian) (dg : Datagram) (addrInfo : AddrInfo) (r : SetIpaddrRequest) :
    Prop where
  parsed : clSlmpParseSetIpRequest e dg = some r
  isRequest : clSlmpIsHeaderRequest e r.header = true
  header : clSlmpValidateRequestHeader e r.header dg.len = true
  command : e.le16 r.header.command = slmpCommandNodeIpaddressSet
  subCommand : e.le16 r.header.subCommand = slmpSubcommandNodeIpaddressSet
  payload : clSlmpValidateSetIpRequest e r = true
  slaveMac : clUtilCopyMacReverse r.slaveMacAddr = addrInfo.localMacAddress
  masterIp : e.le32 r.masterIpAddr = addrInfo.remoteIp

section
variable {e : Endian} {dg : Datagram} {addrInfo : AddrInfo} {r : SetIpaddrRequest}

/-- the header of a request is parsed twice -/
theorem clSlmpParseSetIpRequest_header (h : clSlmpParseSetIpRequest e dg = some r) :
    clSlmpParseRequestHeader e dg = some r.header := by
  unfold clSlmpParseSetIpRequest at h
  split at h
  · cases h
  rename_i hlen
  obtain rfl := Option.some.inj h
  have hshort : ¬ 19 > dg.len := by
    rw [not_not.mp hlen]
    decide
  unfold clSlmpParseRequestHeader
  rw [if_neg hshort]
  rfl

/-- the same fields, checked one after the other -/
theorem clSlmpValidateSetIpRequest_iff : clSlmpValidateSetIpRequest e r = true ↔
    r.header.length.toNat = SetIpaddrRequest.size - slmpRespHeaderLengthOffset
      ∧ (r.masterIpAddrSize = addrsizeIpv4 ∧ r.slaveIpAddrSize = addrsizeIpv4
        ∧ r.targetIpAddrSize = addrsizeIpv4)
      ∧ r.slaveProtocolSettings = slmpProtocolIdentifierUdp
      ∧ r.slaveHostnameSize = setIpReqSlaveHostnameSize
      ∧ (e.le32 r.masterIpAddr ≠ ipaddrInvalid ∧ e.le32 r.slaveNewIpAddr ≠ ipaddrInvalid)
      ∧ clUtilsIsNetmaskValid (e.le32 r.slaveNewNetmask) = true
      ∧ e.le32 r.slaveDefaultGateway = setIpReqSlaveDefaultGateway
      ∧ e.le32 r.targetIpAddr = setIpReqTargetIpAddr
      ∧ e.le16 r.targetPort = setIpReqTargetPort := by
  unfold clSlmpValidateSetIpRequest
  simp only [Bool.if_false_left, Bool.and_true, Bool.and_eq_true, Bool.not_eq_true',
    decide_eq_false_iff_not, not_or, not_not, ne_eq, Bool.not_eq_false]

/-- the checks of the header, one after the other -/
theorem clSlmpValidateRequestHeader_iff {header : SlmpReqHeader} {recvLen : Nat} :
    clSlmpValidateRequestHeader e header recvLen = true ↔
      clSlmpIsHeaderRequest e header = true
      ∧ (e.le16 header.length).toNat + slmpReqHeaderLengthOffset = recvLen
      ∧ header.networkNumber = slmpHeaderNetworkNumber
      ∧ header.unitNumber = slmpHeaderUnitNumber
      ∧ e.le16 header.ioNumber = slmpHeaderIoNumber
      ∧ header.extension = slmpHeaderExtension
      ∧ e.le16 header.timer = slmpReqHeaderTimer := by
  unfold clSlmpValidateRequestHeader
  simp only [Bool.if_false_left, Bool.and_true, Bool.and_eq_true, Bool.not_eq_true',
    decide_eq_false_iff_not, not_or, not_not, ne_eq, Bool.not_eq_false]

/-- a host reads the raw length of the payload as it reads the length in the header -/
theorem SetIpFor.little (h : SetIpFor e dg addrInfo r) : e = .little := by
  have hlen : dg.len = SetIpaddrRequest.size := by
    have hparsed := h.parsed
    unfold clSlmpParseSetIpRequest at hparsed
    split at hparsed
    · cases hparsed
    · rename_i hsize
      exact not_not.mp hsize
  have hraw := (clSlmpValidateSetIpRequest_iff.mp h.payload).1
  have hheader := (clSlmpValidateRequestHeader_iff.mp h.header).2.1
  rw [hlen] at hheader
  have hlength : r.header.length = UInt16.ofNat 45 := UInt16.toNat.inj (hraw.trans (by decide))
  rw [hlength] at hheader
  exact (length_raw_iff e (n := 45) (by decide)).mp (Nat.add_right_cancel (m := 13) hheader)

theorem eq_le16 {x y : UInt16} (h : e.le16 x = y) : x = e.le16 y := by
  rw [← h, Endian.le16_le16]

theorem eq_le32 {x y : UInt32} (h : e.le32 x = y) : x = e.le32 y := by
  rw [← h, Endian.le32_le32]

/-- a request that the slave carries out is one that a master builds -/
theorem SetIpFor.built (h : SetIpFor e dg addrInfo r) :
    ∃ masterMacAddr slaveNewIpAddr slaveNewNetmask,
      r = clSlmpPrepareSetIpRequestFrame e masterMacAddr addrInfo.remoteIp (e.le16 r.header.serial)
          addrInfo.localMacAddress slaveNewIpAddr slaveNewNetmask
      ∧ addrInfo.remoteIp ≠ ipaddrInvalid ∧ slaveNewIpAddr ≠ ipaddrInvalid
      ∧ clUtilsIsNetmaskValid slaveNewNetmask = true := by
  obtain ⟨hlength, ⟨hsize, hsize', hsize''⟩, hprotocol, hhostname, ⟨hmaster, hnew⟩, hmask, hgateway,
    htarget, hport⟩ := clSlmpValidateSetIpRequest_iff.mp h.payload
  obtain ⟨his, -, hnetwork, hunit, hio, hextension, htimer⟩ :=
    clSlmpValidateRequestHeader_iff.mp h.header
  obtain ⟨hsub1, hsub2⟩ := of_decide_eq_true his
  have hlittle := h.little
  refine ⟨clUtilCopyMacReverse r.masterMacAddr, e.le32 r.slaveNewIpAddr, e.le32 r.slaveNewNetmask,
    ?_, h.masterIp ▸ hmaster, hnew, hmask⟩
  have hheader : r.header = clSlmpPrepareRequestHeader e (e.le16 r.header.serial)
      slmpCommandNodeIpaddressSet slmpSubcommandNodeIpaddressSet
      (UInt16.ofNat SetIpaddrRequest.size) := by
    apply SlmpReqHeader.ext
    · exact (e.be16_be16 _).symm.trans (congrArg e.be16 hsub1)
    · exact (e.le16_le16 _).symm
    · exact eq_le16 hsub2
    · exact hnetwork
    · exact hunit
    · exact eq_le16 hio
    · exact hextension
    · subst hlittle
      exact UInt16.toNat.inj (hlength.trans rfl)
    · exact (eq_le16 htimer).trans e.le16_zero
    · exact eq_le16 h.command
    · exact eq_le16 h.subCommand
  apply SetIpaddrRequest.ext
  · exact hheader
  · exact (clUtilCopyMacReverse_twice _).symm
  · exact hsize
  · exact eq_le32 h.masterIp
  · exact (clUtilCopyMacReverse_twice _).symm.trans (congrArg clUtilCopyMacReverse h.slaveMac)
  · exact hsize'
  · exact (Endian.le32_le32 _ _).symm
  · exact (Endian.le32_le32 _ _).symm
  · exact eq_le32 hgateway
  · exact hhostname
  · exact hsize''
  · exact eq_le32 htarget
  · exact eq_le16 hport
  · exact hprotocol

end

/-! ## what the slave does -/

/-- the address may be changed, and `cl_eth_set_network_settings` succeeds -/
def didSetIp (cfg : SlmpSlaveConfig) (setOk : Bool) : Bool := cfg.ipSettingAllowed && setOk

/-- the payload of the response -/
def setIpPayload (cfg : SlmpSlaveConfig) (r : SetIpaddrRequest) (setOk : Bool) : Datagram :=
  Datagram.ofBytes (if didSetIp cfg setOk
    then (clSlmpPrepareSetIpResponseFrame cfg.host (clUtilCopyMacReverse r.masterMacAddr)
      (cfg.host.le16 r.header.serial)).bytes cfg.host
    else (clSlmpPrepareErrorResponseFrame cfg.host slmpCommandNodeIpaddressSet
      slmpSubcommandNodeIpaddressSet endcodeCommandRequestMsg
      (cfg.host.le16 r.header.serial)).bytes cfg.host)

section
variable (cfg : SlmpSlaveConfig) (cls : SlmpSlave) (now : UInt32) {dg : Datagram}
  {addrInfo : AddrInfo} {r : SetIpaddrRequest} (setOk sendOk : Bool)

theorem clsSlmpHandleInputFrame_setIpFor (h : SetIpFor cfg.host dg addrInfo r) :
    (clsSlmpHandleInputFrame cfg cls now dg addrInfo setOk sendOk).2.2
      = (if cfg.ipSettingAllowed
          then [.setNetworkSettings addrInfo.ifindex (cfg.host.le32 r.slaveNewIpAddr)
            (cfg.host.le32 r.slaveNewNetmask)]
          else [])
        ++ [.response
            (if didSetIp cfg setOk then cfg.host.le32 r.slaveNewIpAddr else addrInfo.localIp)
            (slmpBroadcastAddress cfg (cfg.host.le32 r.slaveNewNetmask)
              (cfg.host.le32 r.slaveNewIpAddr))
            addrInfo.remotePort (setIpPayload cfg r setOk),
          .setIpInd (clUtilCopyMacReverse r.masterMacAddr) (cfg.host.le32 r.masterIpAddr)
            (cfg.host.le32 r.slaveNewIpAddr) (cfg.host.le32 r.slaveNewNetmask)
            cfg.ipSettingAllowed (cfg.ipSettingAllowed && didSetIp cfg setOk)] := by
  have hcommand : ¬ (slmpCommandNodeIpaddressSet = slmpCommandNodeSearch
      ∧ slmpSubcommandNodeIpaddressSet = slmpSubcommandNodeSearch) := by decide
  unfold clsSlmpHandleInputFrame
  rw [clSlmpParseSetIpRequest_header h.parsed]
  dsimp only
  rw [h.isRequest, h.header, h.command, h.subCommand, if_neg (by decide), if_neg (by decide),
    if_neg hcommand, if_pos ⟨rfl, rfl⟩]
  unfold clsSlmpHandleIpaddressSetRequest
  rw [h.parsed]
  dsimp only
  rw [h.payload, if_neg (by decide), if_neg (not_not.mpr h.slaveMac),
    if_neg (not_not.mpr h.masterIp)]
  rfl

/-- no other datagram is answered at once, or changes an address -/
theorem clsSlmpHandleInputFrame_otherDatagram (h : ∀ r, ¬ SetIpFor cfg.host dg addrInfo r) :
    ∀ x ∈ (clsSlmpHandleInputFrame cfg cls now dg addrInfo setOk sendOk).2.2,
      x.isSetting = false ∧ x.isAnswer = false := by
  unfold clsSlmpHandleInputFrame
  cases hheader : clSlmpParseRequestHeader cfg.host dg with
  | none => exact List.forall_mem_nil _
  | some header =>
    dsimp only
    split
    · exact List.forall_mem_nil _
    rename_i his
    split
    · exact List.forall_mem_nil _
    rename_i hvalid
    split
    · unfold clsSlmpHandleNodeSearchRequest
      split
      · exact List.forall_mem_nil _
      split
      · exact List.forall_mem_nil _
      dsimp only
      split
      · exact List.forall_mem_nil _
      · exact List.forall_mem_singleton.mpr ⟨rfl, rfl⟩
    · split
      · rename_i hcommand
        unfold clsSlmpHandleIpaddressSetRequest
        cases hparsed : clSlmpParseSetIpRequest cfg.host dg with
        | none => exact List.forall_mem_nil _
        | some request =>
          obtain rfl : request.header = header :=
            Option.some.inj ((clSlmpParseSetIpRequest_header hparsed).symm.trans hheader)
          dsimp only
          split
          · exact List.forall_mem_nil _
          rename_i hpayload
          split
          · exact List.forall_mem_nil _
          rename_i hmac
          split
          · exact List.forall_mem_nil _
          rename_i hip
          exact absurd
            { parsed := hparsed
              isRequest := (Bool.not_eq_false _).mp his
              header := (Bool.not_eq_false _).mp hvalid
              command := hcommand.1
              subCommand := hcommand.2
              payload := (Bool.not_eq_false _).mp hpayload
              slaveMac := not_not.mp hmac
              masterIp := not_not.mp hip } (h request)
      · exact List.forall_mem_nil _

end

/-! ## the answer -/

/-- a header that every host accepts, with a serial number and a code -/
structure IsResponseHeader (e : Endian) (header : SlmpRespHeader) (len : Nat)
    (serial endcode : UInt16) : Prop where
  valid : clSlmpValidateResponseHeader e header len = true
  serial : e.le16 header.serial = serial
  endcode : e.le16 header.endcode = endcode

/-- the payload reports success to the master that sent `r` -/
def ReportsSuccess (e : Endian) (r : SetIpaddrRequest) (payload : Datagram) : Prop :=
  ∃ resp, clSlmpParseSetIpResponse e payload = some resp
    ∧ IsResponseHeader e resp.header payload.len (e.le16 r.header.serial) endcodeSuccess
    ∧ resp.masterMacAddr = r.masterMacAddr

/-- the payload reports that the request `r` has failed -/
def ReportsError (e : Endian) (r : SetIpaddrRequest) (payload : Datagram) : Prop :=
  ∃ resp, clSlmpParseErrorResponse e payload = some resp
    ∧ IsResponseHeader e resp.header payload.len (e.le16 r.header.serial) endcodeCommandRequestMsg
    ∧ e.le16 resp.command = slmpCommandNodeIpaddressSet
    ∧ e.le16 resp.subCommand = slmpSubcommandNodeIpaddressSet

/-- a response has one of two sizes -/
theorem ReportsSuccess.not_error {e : Endian} {r : SetIpaddrRequest} {payload : Datagram}
    (h : ReportsSuccess e r payload) : ¬ ReportsError e r payload := by
  rintro ⟨error, herror, -⟩
  obtain ⟨resp, hresp, -⟩ := h
  unfold clSlmpParseSetIpResponse at hresp
  unfold clSlmpParseErrorResponse at herror
  split at hresp
  · cases hresp
  rename_i hsize
  rw [not_not.mp hsize, if_pos (by decide)] at herror
  cases herror

theorem clSlmpPrepareResponseHeader_isResponseHeader (e : Endian) (serial endcode : UInt16)
    {n : Nat} (hn : 13 ≤ n) (hmax : n < 65536) :
    IsResponseHeader e (clSlmpPrepareResponseHeader e serial endcode n) n serial endcode :=
  { valid := (clSlmpPrepareResponseHeader_valid e serial endcode hn hmax).2
    serial := e.le16_le16 serial
    endcode := e.le16_le16 endcode }

theorem setIpPayload_success {cfg : SlmpSlaveConfig} {setOk : Bool} (r : SetIpaddrRequest)
    (h : didSetIp cfg setOk = true) : ReportsSuccess cfg.host r (setIpPayload cfg r setOk) := by
  unfold setIpPayload
  rw [if_pos h]
  exact ⟨_, clSlmpParseSetIpResponse_bytes cfg.host _,
    clSlmpPrepareResponseHeader_isResponseHeader cfg.host _ _ (n := 21) (by decide) (by decide),
    clUtilCopyMacReverse_twice _⟩

theorem setIpPayload_error {cfg : SlmpSlaveConfig} {setOk : Bool} (r : SetIpaddrRequest)
    (h : didSetIp cfg setOk = false) : ReportsError cfg.host r (setIpPayload cfg r setOk) := by
  unfold setIpPayload
  rw [h, if_neg (by decide)]
  exact ⟨_, clSlmpParseErrorResponse_bytes cfg.host _,
    clSlmpPrepareResponseHeader_isResponseHeader cfg.host _ _ (n := 24) (by decide) (by decide),
    Endian.le16_le16 _ _, Endian.le16_le16 _ _⟩

/-! ## access -/

/-- `cl_eth_set_network_settings` is called, and succeeds -/
def AddressChanged (setOk : Bool) (outs : List SlmpSlaveOutput) : Prop :=
  setOk = true ∧ ∃ x ∈ outs, x.isSetting = true

/-- what one datagram may do to the address of the slave, and what is answered -/
structure SetIpContract (cfg : SlmpSlaveConfig) (dg : Datagram) (addrInfo : AddrInfo)
    (setOk : Bool) (outs : List SlmpSlaveOutput) : Prop where
  once : (outs.filter SlmpSlaveOutput.isSetting).length ≤ 1
  setting : ∀ ifindex ip netmask, .setNetworkSettings ifindex ip netmask ∈ outs ↔
    ∃ r, SetIpFor cfg.host dg addrInfo r ∧ cfg.ipSettingAllowed = true
      ∧ ifindex = addrInfo.ifindex ∧ ip = cfg.host.le32 r.slaveNewIpAddr
      ∧ netmask = cfg.host.le32 r.slaveNewNetmask
  answered : ∀ r, SetIpFor cfg.host dg addrInfo r → ∃ localIp remoteIp payload,
    outs.filter SlmpSlaveOutput.isAnswer
        = [.response localIp remoteIp addrInfo.remotePort payload]
      ∧ (ReportsSuccess cfg.host r payload ↔ AddressChanged setOk outs)
      ∧ (ReportsError cfg.host r payload ↔ ¬ AddressChanged setOk outs)
  silent : (∀ r, ¬ SetIpFor cfg.host dg addrInfo r) →
    ∀ x ∈ outs, x.isSetting = false ∧ x.isAnswer = false

section
variable (cfg : SlmpSlaveConfig) (cls : SlmpSlave) (now : UInt32) {dg : Datagram}
  {addrInfo : AddrInfo} {r : SetIpaddrRequest} (setOk sendOk : Bool)

theorem settings_setIpFor (h : SetIpFor cfg.host dg addrInfo r) :
    (clsSlmpHandleInputFrame cfg cls now dg addrInfo setOk sendOk).2.2.filter
        SlmpSlaveOutput.isSetting
      = if cfg.ipSettingAllowed
        then [.setNetworkSettings addrInfo.ifindex (cfg.host.le32 r.slaveNewIpAddr)
          (cfg.host.le32 r.slaveNewNetmask)]
        else [] := by
  rw [clsSlmpHandleInputFrame_setIpFor cfg cls now setOk sendOk h]
  cases cfg.ipSettingAllowed with
  | true => rfl
  | false => rfl

theorem answers_setIpFor (h : SetIpFor cfg.host dg addrInfo r) :
    (clsSlmpHandleInputFrame cfg cls now dg addrInfo setOk sendOk).2.2.filter
        SlmpSlaveOutput.isAnswer
      = [.response
          (if didSetIp cfg setOk then cfg.host.le32 r.slaveNewIpAddr else addrInfo.localIp)
          (slmpBroadcastAddress cfg (cfg.host.le32 r.slaveNewNetmask)
            (cfg.host.le32 r.slaveNewIpAddr))
          addrInfo.remotePort (setIpPayload cfg r setOk)] := by
  rw [clsSlmpHandleInputFrame_setIpFor cfg cls now setOk sendOk h]
  cases cfg.ipSettingAllowed with
  | true => rfl
  | false => rfl

theorem addressChanged_iff (h : SetIpFor cfg.host dg addrInfo r) :
    AddressChanged setOk (clsSlmpHandleInputFrame cfg cls now dg addrInfo setOk sendOk).2.2
      ↔ didSetIp cfg setOk = true := by
  have hcalled : (∃ x ∈ (clsSlmpHandleInputFrame cfg cls now dg addrInfo setOk sendOk).2.2,
      x.isSetting = true) ↔ cfg.ipSettingAllowed = true := by
    simp only [← List.mem_filter, settings_setIpFor cfg cls now setOk sendOk h]
    cases cfg.ipSettingAllowed with
    | true => simp
    | false => simp
  unfold AddressChanged didSetIp
  rw [hcalled, Bool.and_eq_true, and_comm]

theorem setIpContract_setIpFor (h : SetIpFor cfg.host dg addrInfo r) :
    SetIpContract cfg dg addrInfo setOk
      (clsSlmpHandleInputFrame cfg cls now dg addrInfo setOk sendOk).2.2 := by
  have hunique : ∀ r', SetIpFor cfg.host dg addrInfo r' → r' = r := by
    intro r' h'
    exact Option.some.inj (h'.parsed.symm.trans h.parsed)
  have hsettings := settings_setIpFor cfg cls now setOk sendOk h
  have hanswers := answers_setIpFor cfg cls now setOk sendOk h
  have hchanged := addressChanged_iff cfg cls now setOk sendOk h
  refine ⟨?_, ?_, ?_, fun hno => absurd h (hno r)⟩
  · rw [hsettings]
    split
    · exact Nat.le_refl 1
    · exact Nat.zero_le 1
  · intro ifindex ip netmask
    have hfilter : ∀ {outs : List SlmpSlaveOutput},
        .setNetworkSettings ifindex ip netmask ∈ outs
          ↔ .setNetworkSettings ifindex ip netmask ∈ outs.filter SlmpSlaveOutput.isSetting :=
      ⟨fun hmem => List.mem_filter.mpr ⟨hmem, rfl⟩, List.mem_of_mem_filter⟩
    rw [hfilter, hsettings]
    constructor
    · intro hmem
      split at hmem
      · rename_i hallowed
        obtain ⟨rfl, rfl, rfl⟩ :=
          SlmpSlaveOutput.setNetworkSettings.inj (List.mem_singleton.mp hmem)
        exact ⟨r, h, hallowed, rfl, rfl, rfl⟩
      · exact absurd hmem List.not_mem_nil
    · rintro ⟨r', h', hallowed, rfl, rfl, rfl⟩
      rw [if_pos hallowed, hunique r' h']
      exact List.mem_singleton_self _
  · intro r' h'
    obtain rfl := hunique r' h'
    refine ⟨_, _, _, hanswers, ?_⟩
    rw [hchanged]
    cases hdid : didSetIp cfg setOk with
    | true =>
      have hsuccess := setIpPayload_success r' hdid
      exact ⟨iff_of_true hsuccess rfl, iff_of_false hsuccess.not_error (not_not.mpr rfl)⟩
    | false =>
      have herror := setIpPayload_error r' hdid
      exact ⟨iff_of_false (fun hsuccess => hsuccess.not_error herror) (by decide),
        iff_of_true herror (by decide)⟩

theorem setIpContract_otherDatagram (h : ∀ r, ¬ SetIpFor cfg.host dg addrInfo r) :
    SetIpContract cfg dg addrInfo setOk
      (clsSlmpHandleInputFrame cfg cls now dg addrInfo setOk sendOk).2.2 := by
  have hsilent := clsSlmpHandleInputFrame_otherDatagram cfg cls now setOk sendOk h
  refine ⟨?_, ?_, fun r hr => absurd hr (h r), fun _ => hsilent⟩
  · rw [List.filter_eq_nil_iff.mpr fun x hx => ne_true_of_eq_false (hsilent x hx).1]
    exact Nat.zero_le 1
  · intro ifindex ip netmask
    refine iff_of_false ?_ ?_
    · intro hmem
      cases (hsilent _ hmem).1
    · rintro ⟨r, hr, -⟩
      exact h r hr

/-- the delayed response sets no address -/
theorem clsSlmpPeriodic_settings (received : Option (Datagram × Option AddrInfo))
    (sendResponseOk : Bool) :
    (clsSlmpPeriodic cfg cls now received sendResponseOk setOk sendOk).2.filter
        SlmpSlaveOutput.isSetting
      = match received with
        | some (dg, some addrInfo) =>
          (clsSlmpHandleInputFrame cfg (checkResponseTimer cfg cls now sendResponseOk).1 now dg
            addrInfo setOk sendOk).2.2.filter SlmpSlaveOutput.isSetting
        | _ => [] := by
  have hdelayed : (checkResponseTimer cfg cls now sendResponseOk).2.filter SlmpSlaveOutput.isSetting
      = [] := by
    unfold checkResponseTimer clsSlmpSendNodeSearchResponse
    split
    · dsimp only
      split
      · rfl
      · rfl
    · rfl
  rcases received with _ | ⟨dg, _ | addrInfo⟩
  · exact hdelayed
  · exact hdelayed
  · show ((checkResponseTimer cfg cls now sendResponseOk).2
      ++ (clsSlmpHandleInputFrame cfg (checkResponseTimer cfg cls now sendResponseOk).1 now dg
        addrInfo setOk sendOk).2.2).filter _ = _
    rw [List.filter_append, hdelayed, List.nil_append]

/-- **Who may set the address.**  A datagram makes the slave call `cl_eth_set_network_settings` at
most once, and exactly if it is a request for this slave, sent by the master that it names, and the
address may be set; the address and the netmask are those of the request.  Such a request has one
answer with its serial number, which reports success exactly if the address has changed.  Nothing
else is answered at once, and a periodic call sets the address for its datagram only. -/
theorem setIpContract (dg : Datagram) (addrInfo : AddrInfo) :
    SetIpContract cfg dg addrInfo setOk
        (clsSlmpHandleInputFrame cfg cls now dg addrInfo setOk sendOk).2.2
      ∧ ∀ received sendResponseOk,
        (clsSlmpPeriodic cfg cls now received sendResponseOk setOk sendOk).2.filter
            SlmpSlaveOutput.isSetting
          = match received with
            | some (dg, some addrInfo) =>
              (clsSlmpHandleInputFrame cfg (checkResponseTimer cfg cls now sendResponseOk).1 now dg
                addrInfo setOk sendOk).2.2.filter SlmpSlaveOutput.isSetting
            | _ => [] := by
  refine ⟨?_, clsSlmpPeriodic_settings cfg cls now setOk sendOk⟩
  by_cases h : ∃ r, SetIpFor cfg.host dg addrInfo r
  · obtain ⟨r, h⟩ := h
    exact setIpContract_setIpFor cfg cls now setOk sendOk h
  · exact setIpContract_otherDatagram cfg cls now setOk sendOk (not_exists.mp h)

end

/-! ## the network of the answer -/

/-- the address and the netmask after the request -/
def addressAfter (cfg : SlmpSlaveConfig) (addrInfo : AddrInfo) (r : SetIpaddrRequest)
    (setOk : Bool) : IpAddr × IpAddr :=
  if didSetIp cfg setOk then (cfg.host.le32 r.slaveNewIpAddr, cfg.host.le32 r.slaveNewNetmask)
  else (addrInfo.localIp, addrInfo.localNetmask)

/-- the one answer comes from the address that the slave has now, and goes to its network -/
def AnswersOnNetwork (cfg : SlmpSlaveConfig) (addrInfo : AddrInfo) (r : SetIpaddrRequest)
    (setOk : Bool) (outs : List SlmpSlaveOutput) : Prop :=
  ∃ payload, outs.filter SlmpSlaveOutput.isAnswer
    = [.response (addressAfter cfg addrInfo r setOk).1
      (clUtilCalcBroadcastAddress (addressAfter cfg addrInfo r setOk).2
        (addressAfter cfg addrInfo r setOk).1)
      addrInfo.remotePort payload]

section
variable {cfg : SlmpSlaveConfig} (cls : SlmpSlave) (now : UInt32) {dg : Datagram}
  {addrInfo : AddrInfo} {r : SetIpaddrRequest} (setOk sendOk : Bool)

/-- **The network of the answer.**  With directed broadcast, the answer to a request for a new
address goes to the network of the slave exactly if the address has changed, or if the requested
network has the broadcast address of the network that the slave stays in. -/
theorem setIpAnswer_network_iff (hdirected : cfg.useSlmpDirectedBroadcast = true)
    (h : SetIpFor cfg.host dg addrInfo r) :
    AnswersOnNetwork cfg addrInfo r setOk
        (clsSlmpHandleInputFrame cfg cls now dg addrInfo setOk sendOk).2.2
      ↔ (cfg.ipSettingAllowed = true ∧ setOk = true)
        ∨ clUtilCalcBroadcastAddress (cfg.host.le32 r.slaveNewNetmask)
            (cfg.host.le32 r.slaveNewIpAddr)
          = clUtilCalcBroadcastAddress addrInfo.localNetmask addrInfo.localIp := by
  unfold AnswersOnNetwork
  rw [answers_setIpFor cfg cls now setOk sendOk h]
  unfold slmpBroadcastAddress addressAfter
  rw [if_pos hdirected, ← Bool.and_eq_true]
  cases hdid : didSetIp cfg setOk with
  | true => exact iff_of_true ⟨_, rfl⟩ (.inl hdid)
  | false =>
    have hnot : ¬ (cfg.ipSettingAllowed && setOk) = true := ne_true_of_eq_false hdid
    rw [or_iff_right hnot]
    constructor
    · rintro ⟨payload, heq⟩
      exact (SlmpSlaveOutput.response.inj (List.singleton_inj.mp heq)).2.1
    · intro hsame
      rw [hsame]
      exact ⟨_, rfl⟩

end

/-! ## a refused request -/

/-- a slave with directed broadcast -/
def exampleDirectedConfig (ipSettingAllowed : Bool) : SlmpSlaveConfig :=
  { exampleSlmpSlaveConfig with
    ipSettingAllowed := ipSettingAllowed, useSlmpDirectedBroadcast := true }

/-- the slave 192.168.0.2/24 is told to be 10.0.0.5/8 -/
def exampleSetIpRequest : SetIpaddrRequest :=
  clSlmpPrepareSetIpRequestFrame .little (fun i => UInt8.ofNat i) exampleAddrInfo.remoteIp 7
    exampleAddrInfo.localMacAddress 0x0A000005 0xFF000000

theorem exampleSetIpRequest_setIpFor : SetIpFor .little
    (.ofBytes (exampleSetIpRequest.bytes .little)) exampleAddrInfo exampleSetIpRequest :=
  { parsed := clSlmpParseSetIpRequest_bytes .little exampleSetIpRequest
    isRequest := by decide
    header := by decide
    command := by decide
    subCommand := by decide
    payload := by decide
    slaveMac := clUtilCopyMacReverse_twice exampleAddrInfo.localMacAddress
    masterIp := by decide }

theorem setIpAnswer_network_example : AnswersOnNetwork (exampleDirectedConfig true) exampleAddrInfo
    exampleSetIpRequest true
    (clsSlmpHandleInputFrame (exampleDirectedConfig true) exampleSlmpSlave 0
      (.ofBytes (exampleSetIpRequest.bytes .little)) exampleAddrInfo true true).2.2 :=
  (setIpAnswer_network_iff exampleSlmpSlave 0 true true rfl exampleSetIpRequest_setIpFor).mpr
    (.inl ⟨rfl, rfl⟩)

/-- the address may not be set: the slave stays in 192.168.0.0/24 and sends the error response to
10.255.255.255 -/
theorem refusedSetIp_wrongNetwork :
    SetIpFor (exampleDirectedConfig false).host (.ofBytes (exampleSetIpRequest.bytes .little))
        exampleAddrInfo exampleSetIpRequest
      ∧ (∃ payload, (clsSlmpHandleInputFrame (exampleDirectedConfig false) exampleSlmpSlave 0
          (.ofBytes (exampleSetIpRequest.bytes .little)) exampleAddrInfo true true).2.2.filter
            SlmpSlaveOutput.isAnswer
          = [.response 0xC0A80002 0x0AFFFFFF clSlmpPort payload])
      ∧ ¬ AnswersOnNetwork (exampleDirectedConfig false) exampleAddrInfo exampleSetIpRequest true
        (clsSlmpHandleInputFrame (exampleDirectedConfig false) exampleSlmpSlave 0
          (.ofBytes (exampleSetIpRequest.bytes .little)) exampleAddrInfo true true).2.2 := by
  have hanswers := answers_setIpFor (exampleDirectedConfig false) exampleSlmpSlave 0 true true
    exampleSetIpRequest_setIpFor
  refine ⟨exampleSetIpRequest_setIpFor, ⟨_, hanswers⟩, ?_⟩
  rintro ⟨payload, heq⟩
  rw [hanswers] at heq
  have hremote := (SlmpSlaveOutput.response.inj (List.singleton_inj.mp heq)).2.1
  exact absurd hremote (by decide)

end CLink
