import CLink.Master.SequenceNumbers
import CLink.Master.FalseDuplication

/-!
# A complete link scan

The master infers from the states of the devices that all of them have answered.

* `bitGoesOut gs start d`   the transmission bit of device `d` in the request that starts in `start`;
* `AllAnswered gs g hist`   every device the latest request waits for has answered it;
* `Undisturbed`             no response of a device the scan still waits for is taken for a duplicate;
* `Output.onlyWaitedBits`   every transmission bit of a request belongs to a device that is waited for;
* `Waits`                   a device of a link scan is still waited for, or its answer is there;
* `linkScanCompletion`      a complete link scan has all its answers, and leaves every device in
                            `LISTEN` or `CYCLIC_SENT`.
-/

namespace CLink
open Loop Trace

/-! ## the bits of a request -/

/-- the bit of a device whose row has no action is still that of the previous link scan -/
def bitGoesOut (gs : GroupSetting) (start : GroupData) (d : Nat) : Bool :=
  if scanStartIgnored (start.slaveDevices d) then
    clIefbExtractMyTransmissionState start.cyclicTransmissionState (UInt16.ofNat (gs.pos d + 1))
  else outgoingBit (start.slaveDevices d)

theorem linkscanStarted_bit {o : Options} {cfg : Config} {parameterNo : UInt16} {g : Nat}
    {gd gd' : GroupData} {now : UInt32} (hv : GroupValid o cfg (cfg.hier.groups g))
    (h : GroupInv cfg parameterNo g gd) (hs : gd.groupState = .masterLinkScanComp)
    (hst : LinkscanStarted (cfg.hier.groups g) g now gd gd') {d : Nat}
    (hd : d < (cfg.hier.groups g).numSlaveDevices.toNat) :
    requestBit gd'.reqFrame.datagram (UInt16.ofNat ((cfg.hier.groups g).pos d + 1))
      = bitGoesOut (cfg.hier.groups g) gd.scanning d := by
  have hbit := (linkscanStarted_datagram hv h hs hst).2.2.2
  have hsl := hst.started.slots d hd
  rw [hbit]
  unfold bitGoesOut
  unfold Slots at hsl
  split at hsl
  · rename_i hi
    rw [if_pos hi]
    exact hsl.bit
  · rename_i hi
    rw [if_neg hi]
    exact hsl.bit

/-- all transmission bits of a request are those of devices in `CYCLIC_SENT` -/
def Output.onlyWaitedBits (setting : Nat → GroupSetting) : Output → Bool
  | sendRequest g start _ _ _ => ∀ d, d < (setting g).numSlaveDevices.toNat →
    bitGoesOut (setting g) start d = true → scanStartState (start.slaveDevices d) = .cyclicSending
  | _ => true

/-! ## answers -/

/-- a response of device `d` has been accepted -/
def Accepted (g d : Nat) (p : CyclicResponse → Prop) (out : List Output) : Prop :=
  ∃ r valid, .stored g d r valid ∈ out ∧ p r

/-- the response carries sequence number `n` -/
def CyclicResponse.hasSequenceNo (n : UInt16) (r : CyclicResponse) : Prop :=
  r.fullHeaders.cyclicDataHeader.frameSequenceNo = n

theorem Accepted.append {g d : Nat} {p : CyclicResponse → Prop} {a : List Output}
    (h : Accepted g d p a) (b : List Output) : Accepted g d p (a ++ b) := by
  obtain ⟨r, valid, hmem, hp⟩ := h
  exact ⟨r, valid, List.mem_append_left b hmem, hp⟩

theorem Accepted.of_filter {g d : Nat} {p : CyclicResponse → Prop} {out : List Output}
    {q : Output → Bool} (h : Accepted g d p (out.filter q)) : Accepted g d p out := by
  obtain ⟨r, valid, hmem, hp⟩ := h
  exact ⟨r, valid, (List.mem_filter.mp hmem).1, hp⟩

/-- the latest request of the group -/
def latestRequest (g : Nat) (hist : List Output) : Option Output :=
  (hist.filter (Output.isRequest g)).getLast?

/-- every device that request `dg` waits for has answered it -/
structure RequestAnswered (gs : GroupSetting) (g : Nat) (start : GroupData) (dg : Datagram)
    (out : List Output) : Prop where
  bits : ∀ d, d < gs.numSlaveDevices.toNat → requestBit dg (UInt16.ofNat (gs.pos d + 1)) = true →
    Accepted g d (CyclicResponse.hasSequenceNo (requestSequenceNo dg)) out
  first : requestSequenceNo dg = 0 → ∀ d, d < gs.numSlaveDevices.toNat →
    (start.slaveDevices d).enabled = true → Accepted g d (fun _ => True) out

/-- the latest request has been answered by every device it waits for -/
def AllAnswered (gs : GroupSetting) (g : Nat) (hist : List Output) : Prop :=
  ∃ start destIp destPort dg, latestRequest g hist = some (.sendRequest g start destIp destPort dg)
    ∧ RequestAnswered gs g start dg (since (Output.isRequest g) hist)

/-- a complete link scan is reported -/
def Output.isCompletion (g : Nat) : Output → Bool
  | linkscanCb g' success => g' = g && success
  | _ => false

/-! ## what a link scan waits for -/

/-- a link scan still waits for the device -/
def GroupData.waitsFor (gd : GroupData) (d : Nat) : Prop :=
  gd.groupState = .masterLinkScan ∧ ((gd.slaveDevices d).deviceState = .cyclicSending
    ∨ (gd.slaveDevices d).deviceState = .waitTd ∧ gd.frameSequenceNo = 0)

/-- no response of a device that is waited for is taken for a duplicate -/
def Undisturbed (_g : Nat) : GroupInput → GroupData → Prop
  | .response d r, gd => gd.waitsFor d → sendsDuplication (gd.slaveDevices d) r = false
  | _, _ => True

/-- the devices of a link scan: waited for, or answered -/
structure Waits (gs : GroupSetting) (g : Nat) (start : GroupData) (dg : Datagram)
    (out : List Output) (gd : GroupData) : Prop where
  seq : gd.frameSequenceNo = requestSequenceNo dg
  bits : ∀ d, d < gs.numSlaveDevices.toNat → requestBit dg (UInt16.ofNat (gs.pos d + 1)) = true →
    (gd.slaveDevices d).deviceState = .cyclicSending
      ∨ Accepted g d (CyclicResponse.hasSequenceNo (requestSequenceNo dg)) out
  first : requestSequenceNo dg = 0 → ∀ d, d < gs.numSlaveDevices.toNat →
    (start.slaveDevices d).enabled = true →
      (gd.slaveDevices d).deviceState = .waitTd ∨ Accepted g d (fun _ => True) out

/-- the outputs so far, with the link scan that goes on -/
structure Completing (gs : GroupSetting) (g : Nat) (hist : List Output) (gd : GroupData) : Prop where
  done : Preceded (Output.isCompletion g) (fun a _ => AllAnswered gs g a) hist
  scan : gd.groupState = .masterLinkScan → ∃ start destIp destPort dg,
    latestRequest g hist = some (.sendRequest g start destIp destPort dg)
      ∧ Waits gs g start dg (since (Output.isRequest g) hist) gd

section
variable {o : Options} {cfg : Config} {parameterNo : UInt16} {g : Nat} {gs : GroupSetting}
  {gd gd' : GroupData} {hist out : List Output}

/-- neither requests nor reports, and the waiting devices stay or have answered -/
theorem Completing.keep (h : Completing gs g hist gd) (hno : ∀ x ∈ out, x.isRequest g = false)
    (hdone : ∀ x ∈ out, x.isCompletion g = false)
    (hstate : gd'.groupState = .masterLinkScan → gd.groupState = .masterLinkScan)
    (hseq : gd'.groupState = .masterLinkScan → gd'.frameSequenceNo = gd.frameSequenceNo)
    (hsending : ∀ d, d < gs.numSlaveDevices.toNat → gd'.groupState = .masterLinkScan →
      (gd.slaveDevices d).deviceState = .cyclicSending →
        (gd'.slaveDevices d).deviceState = .cyclicSending
          ∨ Accepted g d (CyclicResponse.hasSequenceNo gd.frameSequenceNo) out)
    (hwaiting : ∀ d, d < gs.numSlaveDevices.toNat → gd'.groupState = .masterLinkScan →
      gd.frameSequenceNo = 0 → (gd.slaveDevices d).deviceState = .waitTd →
        (gd'.slaveDevices d).deviceState = .waitTd ∨ Accepted g d (fun _ => True) out) :
    Completing gs g (hist ++ out) gd' := by
  refine ⟨h.done.append hdone, ?_⟩
  intro hs
  obtain ⟨start, destIp, destPort, dg, hlatest, hw⟩ := h.scan (hstate hs)
  have hnew : ∀ {d p}, Accepted g d p out → Accepted g d p (since (Output.isRequest g) hist ++ out) := by
    rintro d p ⟨r, valid, hmem, hp⟩
    exact ⟨r, valid, List.mem_append_right _ hmem, hp⟩
  refine ⟨start, destIp, destPort, dg, ?_, (hseq hs).trans hw.seq, ?_, ?_⟩
  · rw [latestRequest, Numbered.filter_silent hno]
    exact hlatest
  · intro d hd hb
    rw [since_append hno]
    rcases hw.bits d hd hb with hsend | hacc
    · rw [← hw.seq]
      exact (hsending d hd hs hsend).imp id hnew
    · exact Or.inr (hacc.append _)
  · intro h0 d hd he
    rw [since_append hno]
    rcases hw.first h0 d hd he with hwait | hacc
    · exact (hwaiting d hd hs (hw.seq.trans h0) hwait).imp id hnew
    · exact Or.inr (hacc.append _)

/-- a move without outputs that leaves the states of the devices alone -/
theorem Completing.same (h : Completing gs g hist gd) (hstate : gd'.groupState = gd.groupState)
    (hseq : gd'.frameSequenceNo = gd.frameSequenceNo)
    (hdev : ∀ d, d < gs.numSlaveDevices.toNat →
      (gd'.slaveDevices d).deviceState = (gd.slaveDevices d).deviceState) :
    Completing gs g (hist ++ []) gd' := by
  refine h.keep (fun _ hx => absurd hx List.not_mem_nil) (fun _ hx => absurd hx List.not_mem_nil)
    (fun hs => hstate ▸ hs) (fun _ => hseq) ?_ ?_
  · intro d hd _ hsend
    exact Or.inl ((hdev d hd).trans hsend)
  · intro d hd _ _ hwait
    exact Or.inl ((hdev d hd).trans hwait)

/-- **Nobody is waited for any more.** -/
theorem Waits.answered {start : GroupData} {dg : Datagram} (h : Waits gs g start dg out gd)
    (hp : ∀ d, d < gs.numSlaveDevices.toNat →
      devicePhase .masterLinkScan gd.frameSequenceNo (gd.slaveDevices d))
    (hr : clmIefbGroupHaveReceivedFromAllDevices gs gd = true) :
    RequestAnswered gs g start dg out := by
  refine ⟨?_, ?_⟩
  · intro d hd hb
    exact (h.bits d hd hb).resolve_left (noSending_of_haveReceived hp hr hd)
  · intro h0 d hd he
    have hseq : gd.frameSequenceNo = 0 := h.seq.trans h0
    simp only [clmIefbGroupHaveReceivedFromAllDevices, if_pos hseq, decide_eq_true_eq] at hr
    exact (h.first h0 d hd he).resolve_left (hr.1 d hd)

/-- the request of a new link scan -/
theorem Waits.start {now : UInt32} (hv : GroupValid o cfg (cfg.hier.groups g))
    (hinv : GroupInv cfg parameterNo g gd) (hs : gd.groupState = .masterLinkScanComp)
    (hst : LinkscanStarted (cfg.hier.groups g) g now gd gd')
    (hbits : ∀ d, d < (cfg.hier.groups g).numSlaveDevices.toNat →
      bitGoesOut (cfg.hier.groups g) gd.scanning d = true →
        scanStartState (gd.slaveDevices d) = .cyclicSending) :
    Waits (cfg.hier.groups g) g gd.scanning gd'.reqFrame.datagram [] gd' := by
  have hseq := linkscanStarted_sequenceNo hv hinv hs hst
  have hdev : ∀ d, d < (cfg.hier.groups g).numSlaveDevices.toNat →
      (gd'.slaveDevices d).deviceState = scanStartState (gd.slaveDevices d) := by
    intro d hd
    rw [hst.devices, hst.started.device d hd]
    exact (startedDevice_fields _ g d _).state
  refine ⟨hst.seq.trans hseq.symm, ?_, ?_⟩
  · intro d hd hb
    rw [linkscanStarted_bit hv hinv hs hst hd] at hb
    exact Or.inl ((hdev d hd).trans (hbits d hd hb))
  · intro h0 d hd he
    have hlisten : (gd.slaveDevices d).deviceState = .listen := by
      have hphase := hinv.phase d hd
      rw [hs] at hphase
      exact hphase.resolve_right (fun hsent => hsent.2 (hseq.symm.trans h0))
    have hen : (gd.slaveDevices d).enabled = true := he
    refine Or.inl ((hdev d hd).trans ?_)
    unfold scanStartState
    rw [if_pos hen, if_neg (by rw [hlisten]; simp)]

end

/-- the callbacks and the mark of an accepted response report no complete link scan -/
theorem accepted_isCompletion (g d : Nat) (r : CyclicResponse) (latest : FrameValues)
    (valid : Bool) :
    ∀ x ∈ reports g d r latest ++ [.stored g d r valid], x.isCompletion g = false := by
  intro x hx
  simp only [reports, List.mem_append] at hx
  rcases hx with (hx | hx) | hx
  · split at hx
    · rw [List.mem_singleton.mp hx]
      rfl
    · cases hx
  · split at hx
    · rw [List.mem_singleton.mp hx]
      rfl
    · cases hx
  · rw [List.mem_singleton.mp hx]
    rfl

/-! ## moves -/

section
variable {o : Options} {cfg : Config} {parameterNo : UInt16} {g : Nat} {gd gd' : GroupData}
  {hist out : List Output}

/-- a device that is waited for, after a rejected response -/
theorem checkDevice_waiting {gs : GroupSetting} {d : Nat} {r : CyclicResponse}
    (hund : gd.waitsFor d → sendsDuplication (gd.slaveDevices d) r = false) (hw : gd.waitsFor d) :
    (checkDevice gs d r gd).1.deviceState = (gd.slaveDevices d).deviceState := by
  have hno := hund hw
  rw [(checkDevice_device gs d r gd).2, if_neg]
  rintro ⟨hen, hdup⟩
  rw [sendsDuplication, hen, hdup] at hno
  cases hno

theorem groupMove_completing (setting : Nat → GroupSetting) (hset : setting g = cfg.hier.groups g)
    (hv : GroupValid o cfg (cfg.hier.groups g)) (hinv : GroupInv cfg parameterNo g gd)
    (hm : GroupMove cfg g (Undisturbed g) gd out gd')
    (hbits : ∀ x ∈ out, x.onlyWaitedBits setting = true)
    (h : Completing (cfg.hier.groups g) g hist gd) :
    Completing (cfg.hier.groups g) g (hist ++ out) gd' := by
  cases hm with
  | setEnabled d enabled ha =>
    refine h.same rfl rfl (fun e _ => ?_)
    rw [gd.modifyDevice_slaveDevices]
    split
    · rename_i hed
      rw [hed]
    · rfl
  | setForce d force ha =>
    refine h.same rfl rfl (fun e _ => ?_)
    rw [gd.modifyDevice_slaveDevices]
    split
    · rename_i hed
      rw [hed]
    · rfl
  | clearStatistics ha =>
    refine h.same rfl rfl (fun e he => ?_)
    rw [GroupData.clearStatistics, gd.mapDevices_slaveDevices _ he]
  | writeMemoryArea ry rww => exact h.same rfl rfl (fun _ _ => rfl)
  | stopResponseWaitTimer => exact h.same rfl rfl (fun _ _ => rfl)
  | stopConstantLinkscanTimer => exact h.same rfl rfl (fun _ _ => rfl)
  | rejected d r hd ha hc =>
    -- only a device that is not waited for can leave its state
    have hstay : ∀ e, gd.waitsFor e →
        ((gd.modifyDevice d (fun _ => (checkDevice (cfg.hier.groups g) d r gd).1)).slaveDevices
          e).deviceState = (gd.slaveDevices e).deviceState := by
      intro e hw
      rw [gd.modifyDevice_slaveDevices]
      split
      · rename_i hed
        subst hed
        exact checkDevice_waiting ha hw
      · rfl
    refine h.keep (fun _ hx => absurd hx List.not_mem_nil) (fun _ hx => absurd hx List.not_mem_nil)
      id (fun _ => rfl) ?_ ?_
    · intro e _ hs hsend
      exact Or.inl ((hstay e ⟨hs, Or.inl hsend⟩).trans hsend)
    · intro e _ hs h0 hwait
      exact Or.inl ((hstay e ⟨hs, Or.inr ⟨hwait, h0⟩⟩).trans hwait)
  | accepted d r hd ha hc =>
    have hpass := checkDevice_passed hc
    refine h.keep (fun x hx => accepted_isRequest g d r _ _ x hx g)
      (accepted_isCompletion g d r _ _) id (fun _ => rfl) ?_ ?_
    · intro e _ hs hsend
      by_cases hed : e = d
      · subst hed
        have hphase := hinv.phase e hd
        have hs' : gd.groupState = .masterLinkScan := hs
        rw [hs'] at hphase
        exact Or.inr ⟨r, _, List.mem_append_right _ List.mem_cons_self,
          hpass.sequence (hphase.2 hsend).1⟩
      · rw [acceptResponse_other cfg hed]
        exact Or.inl hsend
    · intro e _ hs h0 hwait
      by_cases hed : e = d
      · subst hed
        exact Or.inr ⟨r, _, List.mem_append_right _ List.mem_cons_self, trivial⟩
      · rw [acceptResponse_other cfg hed]
        exact Or.inl hwait
  | complete hs hr =>
    have hphase := hinv.phase
    rw [hs] at hphase
    obtain ⟨start, destIp, destPort, dg, hlatest, hw⟩ := h.scan hs
    refine ⟨h.done.concat ?_, ?_⟩
    · intro _
      exact ⟨start, destIp, destPort, dg, hlatest, hw.answered hphase hr⟩
    · intro hs'
      cases hs'
  | timeout hs =>
    refine ⟨h.done.append ?_, ?_⟩
    · intro x hx
      rw [List.mem_singleton.mp hx]
      simp [Output.isCompletion]
    · intro hs'
      cases hs'
  | arbitrationDone hs =>
    rw [List.append_nil]
    refine ⟨h.done, ?_⟩
    intro hs'
    cases hs'
  | standby hs =>
    rw [List.append_nil]
    refine ⟨h.done, ?_⟩
    intro hs'
    cases hs'
  | start clm now unixMs hclm hs =>
    obtain ⟨hst, hout⟩ := linkscanStart_started hv hinv hs hclm now unixMs
    rw [hout] at hbits ⊢
    have hreq : (Output.sendRequest g gd.scanning clm.iefbBroadcastIp clCciefbPort
        (linkscanStart g now unixMs clm gd).group.reqFrame.datagram).isRequest g = true := by
      simp [Output.isRequest]
    have hno : ∀ x ∈ (startDevices (cfg.hier.groups g) g gd.scanning).2, x.isRequest g = false :=
      fun x hx => (startDevices_out _ _ _ x hx).isRequest
    refine ⟨h.done.append ?_, ?_⟩
    · intro x hx
      rcases List.mem_append.mp hx with hx | hx
      · obtain ⟨_, _, rfl | rfl⟩ := startDevices_out _ _ _ x hx <;> rfl
      · rw [List.mem_singleton.mp hx]
        rfl
    · intro _
      refine ⟨gd.scanning, clm.iefbBroadcastIp, clCciefbPort,
        (linkscanStart g now unixMs clm gd).group.reqFrame.datagram, ?_, ?_⟩
      · rw [latestRequest, Numbered.filter_mark hreq hno, List.getLast?_concat]
      · rw [← List.append_assoc, since_mark hreq]
        refine Waits.start hv hinv hs hst ?_
        have hwaited := hbits _ (List.mem_append_right _ List.mem_cons_self)
        simp only [Output.onlyWaitedBits, hset, decide_eq_true_eq] at hwaited
        exact hwaited

end

/-! ## runs -/

theorem latestRequest_ofGroup (g : Nat) (hist : List Output) :
    latestRequest g (ofGroup g hist) = latestRequest g hist := by
  unfold latestRequest
  rw [ofGroup_requests]

theorem AllAnswered.of_ofGroup {gs : GroupSetting} {g : Nat} {hist : List Output}
    (h : AllAnswered gs g (ofGroup g hist)) : AllAnswered gs g hist := by
  obtain ⟨start, destIp, destPort, dg, hlatest, hans⟩ := h
  rw [latestRequest_ofGroup] at hlatest
  have hsince : since (Output.isRequest g) (ofGroup g hist)
      = ofGroup g (since (Output.isRequest g) hist) :=
    since_filter (fun _ hx => Output.isOf_of_isRequest hx) hist
  rw [hsince] at hans
  exact ⟨start, destIp, destPort, dg, hlatest, fun d hd hb => (hans.bits d hd hb).of_filter,
    fun h0 d hd he => (hans.first h0 d hd he).of_filter⟩

/-- between two link scans -/
def SlaveDeviceData.atRest (dev : SlaveDeviceData) : Prop :=
  dev.deviceState = .listen ∨ dev.deviceState = .cyclicSent

theorem devicePhase_atRest {state : GroupState} {seq : UInt16} {dev : SlaveDeviceData}
    (hs : state = .masterLinkScanComp) (h : devicePhase state seq dev) : dev.atRest := by
  rw [hs] at h
  exact h.imp id And.left

namespace MasterStart
variable {o : Options} (st : MasterStart o)

/-- every transmission bit of the requests of the run belongs to a device that is waited for -/
def OnlyWaitedBits (es : List Event) : Prop :=
  ∀ x ∈ (st.run es).2, x.onlyWaitedBits st.vc.setting = true

theorem run_completing {es : List Event} (hund : master.Steps (Admits Undisturbed) st.init.1 es)
    (hbits : st.OnlyWaitedBits es) {g : Nat} (hg : g < st.vc.numGroups) :
    Completing (st.vc.setting g) g (ofGroup g (st.run es).2) ((st.run es).1.groups g) := by
  have hv := st.vc.group hg
  have hrun := (st.run_inv (A := Undisturbed) hg
    (I := fun hist gd => (∀ x ∈ hist, x.onlyWaitedBits st.vc.setting = true) →
      Completing (st.vc.setting g) g hist gd)
    (by
      intro gd hinit _
      refine ⟨.nil, ?_⟩
      intro hs
      rw [hinit.state] at hs
      cases hs)
    (by
      intro hist gd out gd' hinv hm h hall
      obtain ⟨hhist, hout⟩ := List.forall_mem_append.mp hall
      exact groupMove_completing st.vc.setting rfl hv hinv hm hout (h hhist))
    hund).2
  exact hrun (fun x hx => hbits x (List.mem_filter.mp hx).1)

/-- the first request has sequence number 0 -/
theorem firstRequest_sequenceNo {es : List Event} {a c : List Output} {g : Nat}
    (hout : (st.run es).2 = a ++ c) {start : GroupData} {destIp : IpAddr} {destPort : UInt16}
    {dg : Datagram} (hlatest : latestRequest g a = some (.sendRequest g start destIp destPort dg))
    (hone : (a.filter (Output.isRequest g)).length = 1) : requestSequenceNo dg = 0 := by
  have hk : ((st.run es).2.filter (Output.isRequest g))[0]?
      = some (.sendRequest g start destIp destPort dg) := by
    obtain ⟨x, hx⟩ := List.length_eq_one_iff.mp hone
    rw [latestRequest, hx] at hlatest
    rw [hout, List.filter_append, hx]
    exact hlatest
  exact (st.request_sequenceNumber es g 0 start destIp destPort dg hk).2.mpr rfl

/-- the reports of complete link scans, and the devices after every link scan -/
structure LinkScanCompletion (es : List Event) (g : Nat) : Prop where
  /-- the devices that the latest request asks for data, and for the first request all enabled ones -/
  answered : ∀ a c, (st.run es).2 = a ++ .linkscanCb g true :: c →
    ∃ start destIp destPort dg,
      latestRequest g a = some (.sendRequest g start destIp destPort dg)
      ∧ (∀ d, d < (st.vc.setting g).numSlaveDevices.toNat →
        requestBit dg (UInt16.ofNat ((st.vc.setting g).pos d + 1)) = true →
          Accepted g d (CyclicResponse.hasSequenceNo (requestSequenceNo dg))
            (since (Output.isRequest g) a))
      ∧ ((a.filter (Output.isRequest g)).length = 1 →
        ∀ d, d < (st.vc.setting g).numSlaveDevices.toNat → (start.slaveDevices d).enabled = true →
          Accepted g d (fun _ => True) (since (Output.isRequest g) a))
  /-- whether the next link scan starts at once -/
  next : ∀ start destIp destPort dg, .sendRequest g start destIp destPort dg ∈ (st.run es).2 →
    ∀ d, d < (st.vc.setting g).numSlaveDevices.toNat → (start.slaveDevices d).atRest
  /-- or later -/
  rest : g < st.vc.numGroups → ((st.run es).1.groups g).groupState = .masterLinkScanComp →
    ∀ d, d < (st.vc.setting g).numSlaveDevices.toNat →
      (((st.run es).1.groups g).slaveDevices d).atRest

/-- **Link scan completion.** -/
theorem linkScanCompletion (es : List Event) (g : Nat)
    (hund : master.Steps (Admits Undisturbed) st.init.1 es) (hbits : st.OnlyWaitedBits es) :
    st.LinkScanCompletion es g := by
  refine ⟨?_, ?_, ?_⟩
  · intro a c hout
    have hmem : .linkscanCb g true ∈ (st.run es).2 := by
      rw [hout]
      exact List.mem_append_right _ List.mem_cons_self
    obtain ⟨hg, _⟩ := st.mem_ofGroup rfl hmem
    have hdone := (st.run_completing hund hbits hg).done.of_filter (q := Output.isOf g) (by
      intro x hx
      cases x <;> simp_all [Output.isCompletion, Output.isOf, Output.owner])
    have hall := hdone a (.linkscanCb g true) c hout (by simp [Output.isCompletion])
    obtain ⟨start, destIp, destPort, dg, hlatest, hans⟩ := AllAnswered.of_ofGroup hall
    refine ⟨start, destIp, destPort, dg, hlatest, hans.bits, ?_⟩
    intro hone
    exact hans.first (st.firstRequest_sequenceNo hout hlatest hone)
  · intro start destIp destPort dg hmem d hd
    exact st.run_request (A := fun _ _ _ => True) (I := fun _ => True)
      (P := fun start _ => (start.slaveDevices d).atRest) (fun _ _ => trivial)
      (fun _ _ _ _ _ _ => trivial)
      (fun _ _ _ hinv _ hs _ => devicePhase_atRest hs (hinv.phase d hd))
      (Machine.Steps.of_all master (fun _ _ _ _ _ => trivial) _ _) hmem
  · intro hg hs d hd
    exact devicePhase_atRest hs ((st.group_groupInv es hg).phase d hd)

/-- the report at position `k` of the outputs -/
theorem exists_completion {g k : Nat} {out : List Output}
    (h : (out[k]?).any (Output.isCompletion g) = true) :
    out = out.take k ++ .linkscanCb g true :: out.drop (k + 1) := by
  obtain ⟨x, hx, hout⟩ := exists_output h
  cases x with
  | linkscanCb g' success =>
    simp only [Output.isCompletion, Bool.and_eq_true, decide_eq_true_eq] at hx
    obtain ⟨rfl, rfl⟩ := hx
    exact hout
  | _ => cases hx

/-- the first of two devices answers a request twice, the second answers the next one -/
theorem repeatedAnswer_completes :
    ¬ ∀ (o : Options) (st : MasterStart o) (es : List Event) (g : Nat),
      st.LinkScanCompletion es g := by
  intro h
  have hreport : ((((exampleStart true false).run [.exampleTick 5000, .exampleAnswer 5100 0 1 0 0,
      .exampleAnswer 5200 1 1 0 0, .exampleAnswer 5300 0 1 0 0,
      .exampleAnswer 5400 1 1 0 1]).2)[13]?).any (Output.isCompletion 0) = true := by
    decide +kernel
  obtain ⟨start, destIp, destPort, dg, hlatest, hbits, _⟩ :=
    (h _ (exampleStart true false) _ 0).answered _ _ (exists_completion hreport)
  have hwith : (latestRequest 0 (((exampleStart true false).run [.exampleTick 5000,
      .exampleAnswer 5100 0 1 0 0, .exampleAnswer 5200 1 1 0 0, .exampleAnswer 5300 0 1 0 0,
      .exampleAnswer 5400 1 1 0 1]).2.take 13)).any
        (Output.isRequestWith 0 fun _ dg => requestBit dg 1) = true := by
    decide +kernel
  obtain ⟨_, _, _, _, hlatest', hon⟩ := exists_sendRequest hwith
  rw [hlatest] at hlatest'
  cases hlatest'
  -- the first device has been asked, and has not answered
  obtain ⟨r, valid, hmem, _⟩ := hbits 0 (by decide) hon
  have hnone : ∀ x ∈ since (Output.isRequest 0) (((exampleStart true false).run
      [.exampleTick 5000, .exampleAnswer 5100 0 1 0 0, .exampleAnswer 5200 1 1 0 0,
      .exampleAnswer 5300 0 1 0 0, .exampleAnswer 5400 1 1 0 1]).2.take 13),
      x.isStored 0 0 = false := by
    decide +kernel
  have hstored := hnone _ hmem
  cases hstored

/-- the device answers the first two requests -/
theorem linkScanCompletion_example :
    (exampleStart false false).LinkScanCompletion [.exampleTick 5000, .exampleAnswer 5100 0 1 0 0,
        .exampleAnswer 5200 0 1 0 1] 0
      ∧ (((exampleStart false false).run [.exampleTick 5000, .exampleAnswer 5100 0 1 0 0,
        .exampleAnswer 5200 0 1 0 1]).2.filter (Output.isCompletion 0)).length = 2 := by
  refine ⟨(exampleStart false false).linkScanCompletion _ 0 ⟨?_, ?_, ?_, trivial⟩ ?_,
    by decide +kernel⟩
  · intro g x hx
    cases x with
    | response d r =>
      obtain ⟨_, _, _, _, _, he, _⟩ := hx
      cases he
    | _ => trivial
  · intro g x hx
    cases x with
    | response d r =>
      have hx' : GroupReceives ((exampleStart false false).run [.exampleTick 5000]).1 _ g
        (.response d r) := hx
      obtain ⟨rfl, rfl, _⟩ := exampleAnswer_seq hx' rfl (by decide +kernel)
      intro _
      have hfirst : ((((exampleStart false false).run [.exampleTick 5000]).1.groups 0).slaveDevices
          0).latestFrame.hasBeenReceived = false := by decide +kernel
      show sendsDuplication ((((exampleStart false false).run [.exampleTick 5000]).1.groups
        0).slaveDevices 0) r = false
      rw [sendsDuplication, isDuplicate, hfirst]
      simp
    | _ => trivial
  · intro g x hx
    cases x with
    | response d r =>
      have hx' : GroupReceives ((exampleStart false false).run
        [.exampleTick 5000, .exampleAnswer 5100 0 1 0 0]).1 _ g (.response d r) := hx
      obtain ⟨rfl, rfl, hseq⟩ := exampleAnswer_seq hx' rfl (by decide +kernel)
      intro _
      have hlatest : ((((exampleStart false false).run [.exampleTick 5000,
          .exampleAnswer 5100 0 1 0 0]).1.groups 0).slaveDevices 0).latestFrame.frameSequenceNo = 0 := by
        decide +kernel
      show sendsDuplication ((((exampleStart false false).run [.exampleTick 5000,
        .exampleAnswer 5100 0 1 0 0]).1.groups 0).slaveDevices 0) r = false
      rw [sendsDuplication, isDuplicate, hlatest, hseq]
      simp
    | _ => trivial
  · show ∀ x ∈ _, _
    decide +kernel

end MasterStart

end CLink
