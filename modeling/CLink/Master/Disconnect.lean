import CLink.Master.GroupSteps

/-!
# Error responses

* `GroupMove.kept`         what a move other than a link scan start leaves of a device;
* `next_disconnects`       a device in `LISTEN` or `CYCLIC_SUSPEND` has its bit off in the next
                           request, whatever happens until then;
* `next_connects`          a device in `CYCLIC_SENT` has its bit on, if it is enabled and silent;
* `errorResponse_disconnects`   the next request after an error response.  The table has no row for
                           the error in `CYCLIC_SENT`.
-/

namespace CLink
open Loop Trace

/-! ## moves and one device -/

/-- what a move other than a link scan start leaves of a device -/
structure DeviceKept (gs : GroupSetting) (dev dev' : SlaveDeviceData) : Prop where
  bit : dev'.transmissionBit = dev.transmissionBit
  state : dev'.deviceState = dev.deviceState
    ∨ ∃ event : DeviceEvent, event.touchesFrame = false
      ∧ dev'.deviceState = (deviceLocal gs event dev).deviceState

theorem DeviceKept.refl (gs : GroupSetting) (dev : SlaveDeviceData) : DeviceKept gs dev dev :=
  ⟨rfl, Or.inl rfl⟩

theorem DeviceKept.local (gs : GroupSetting) (dev : SlaveDeviceData) {event : DeviceEvent}
    (he : event.touchesFrame = false) : DeviceKept gs dev (deviceLocal gs event dev) :=
  ⟨(deviceLocal_same gs event dev).bit, Or.inr ⟨event, he, rfl⟩⟩

/-- one device is changed -/
theorem DeviceKept.modifyDevice {gs : GroupSetting} {gd : GroupData} {e : Nat}
    {f : SlaveDeviceData → SlaveDeviceData}
    (h : DeviceKept gs (gd.slaveDevices e) (f (gd.slaveDevices e))) (d : Nat) :
    DeviceKept gs (gd.slaveDevices d) ((gd.modifyDevice e f).slaveDevices d) := by
  by_cases hde : d = e
  · subst hde
    rw [GroupData.modifyDevice_self]
    exact h
  · rw [GroupData.modifyDevice_of_ne _ _ _ hde]
    exact .refl gs _

theorem deviceKept_checkDevice (gs : GroupSetting) (d : Nat) (r : CyclicResponse)
    (gd : GroupData) : DeviceKept gs (gd.slaveDevices d) (checkDevice gs d r gd).1 := by
  obtain ⟨hsame, hstate⟩ := checkDevice_device gs d r gd
  refine ⟨hsame.bit, ?_⟩
  rw [hstate]
  split
  · exact Or.inr ⟨.slaveDuplication, rfl, rfl⟩
  · exact Or.inl rfl

theorem deviceKept_acceptResponse {gs : GroupSetting} {d : Nat} {r : CyclicResponse}
    {gd : GroupData} (cfg : Config) (h : (checkDevice gs d r gd).2 = true) (e : Nat) :
    DeviceKept gs (gd.slaveDevices e) ((acceptResponse cfg gs d r gd).slaveDevices e) := by
  by_cases hed : e = d
  · subst hed
    have hacc := acceptResponse_device cfg h
    refine ⟨hacc.bit, ?_⟩
    rw [hacc.state]
    split
    · exact Or.inl rfl
    · refine Or.inr ⟨responseEvent r, ?_, rfl⟩
      unfold responseEvent
      split <;> rfl
  · rw [acceptResponse_other cfg hed]
    exact .refl gs _

/-- a move starts a link scan, or it sends nothing and every device is kept -/
theorem GroupMove.kept {o : Options} {cfg : Config} {parameterNo : UInt16} {g : Nat}
    {A : GroupInput → GroupData → Prop} {gd gd' : GroupData} {out : List Output}
    (hv : GroupValid o cfg (cfg.hier.groups g)) (h : GroupInv cfg parameterNo g gd)
    (hm : GroupMove cfg g A gd out gd') :
    StartOutputs (cfg.hier.groups g) g gd gd' out
      ∨ (∀ x ∈ out, x.isRequest g = false)
        ∧ ∀ d, d < (cfg.hier.groups g).numSlaveDevices.toNat →
          DeviceKept (cfg.hier.groups g) (gd.slaveDevices d) (gd'.slaveDevices d) := by
  have hcases := hm.out_cases hv h
  cases hm with
  | start clm now unixMs hclm hs =>
    obtain ⟨hst, hout⟩ := linkscanStart_started hv h hs hclm now unixMs
    exact Or.inl ⟨hs, ⟨now, hst⟩, _, _, startDevices_out _ _ _, hout⟩
  | setEnabled e enabled ha =>
    refine Or.inr ⟨fun x hx => absurd hx List.not_mem_nil, fun d _ => ?_⟩
    exact DeviceKept.modifyDevice ⟨rfl, Or.inl rfl⟩ d
  | setForce e force ha =>
    refine Or.inr ⟨fun x hx => absurd hx List.not_mem_nil, fun d _ => ?_⟩
    exact DeviceKept.modifyDevice ⟨rfl, Or.inl rfl⟩ d
  | clearStatistics ha =>
    refine Or.inr ⟨fun x hx => absurd hx List.not_mem_nil, fun d hd => ?_⟩
    rw [GroupData.clearStatistics, gd.mapDevices_slaveDevices _ hd]
    exact ⟨rfl, Or.inl rfl⟩
  | rejected e r he ha hc =>
    refine Or.inr ⟨fun x hx => absurd hx List.not_mem_nil, fun d _ => ?_⟩
    exact DeviceKept.modifyDevice (deviceKept_checkDevice _ e r gd) d
  | accepted e r he ha hc =>
    exact Or.inr ⟨fun x hx => accepted_isRequest g e r _ _ x hx g,
      fun d _ => deviceKept_acceptResponse cfg hc d⟩
  | complete hs hr =>
    refine Or.inr ⟨fun x hx => by rw [List.mem_singleton.mp hx]; rfl, fun d hd => ?_⟩
    rw [gd.endScan_slaveDevices _ _ hd]
    exact .local _ _ rfl
  | timeout hs =>
    refine Or.inr ⟨fun x hx => by rw [List.mem_singleton.mp hx]; rfl, fun d hd => ?_⟩
    rw [gd.endScan_slaveDevices _ _ hd]
    exact .local _ _ rfl
  | standby hs =>
    refine Or.inr ⟨fun x hx => absurd hx List.not_mem_nil, fun d hd => ?_⟩
    rw [gd.standby_slaveDevices _ hd]
    exact .local _ _ rfl
  | _ => exact Or.inr ⟨fun x hx => absurd hx List.not_mem_nil, fun d _ => .refl _ _⟩

/-! ## devices without a transmission -/

/-- the states from which the next link scan does not ask for data -/
def DeviceState.disconnected : DeviceState → Bool
  | listen => true
  | cyclicSuspend => true
  | _ => false

theorem deviceLocal_disconnected (gs : GroupSetting) {event : DeviceEvent} {dev : SlaveDeviceData}
    (he : event.touchesFrame = false) (h : dev.deviceState.disconnected = true) :
    (deviceLocal gs event dev).deviceState.disconnected = true := by
  rw [deviceLocal_deviceState]
  generalize dev.deviceState = state at h ⊢
  cases state <;> cases event <;>
    first | rfl | exact absurd h Bool.false_ne_true | exact absurd he.symm Bool.false_ne_true

theorem DeviceKept.disconnected {gs : GroupSetting} {dev dev' : SlaveDeviceData}
    (hk : DeviceKept gs dev dev') (h : dev.deviceState.disconnected = true) :
    dev'.deviceState.disconnected = true := by
  rcases hk.state with hs | ⟨event, he, hs⟩
  · rw [hs]
    exact h
  · rw [hs]
    exact deviceLocal_disconnected gs he h

/-- the first request of group `g` -/
def nextRequest (g : Nat) (out : List Output) : Option Output := out.find? (Output.isRequest g)

theorem nextRequest_ofGroup (g : Nat) (out : List Output) :
    nextRequest g (ofGroup g out) = nextRequest g out := by
  unfold nextRequest ofGroup
  rw [List.find?_filter]
  congr 1
  funext x
  cases hx : x.isRequest g with
  | true => simp [Output.isOf_of_isRequest hx]
  | false => simp

/-- the bit of device `d` is off, unless it is forced -/
def Output.bitOff (gs : GroupSetting) (d : Nat) : Output → Prop
  | sendRequest _ start _ _ dg => (start.slaveDevices d).forceTransmissionBit = false →
    requestBit dg (UInt16.ofNat (gs.pos d + 1)) = false
  | _ => True

/-- until the first request the device stays disconnected, and there its bit is off -/
def Disconnects (gs : GroupSetting) (g d : Nat) : List Output → GroupData → Prop :=
  Until (Output.isRequest g) (Output.bitOff gs d)
    (fun gd => (gd.slaveDevices d).deviceState.disconnected = true)

section
variable {o : Options} {cfg : Config} {parameterNo : UInt16} {g d : Nat} {gd gd' : GroupData}
  {out : List Output} {A : GroupInput → GroupData → Prop}
  (hv : GroupValid o cfg (cfg.hier.groups g))
  (hd : d < (cfg.hier.groups g).numSlaveDevices.toNat)
include hv hd

theorem GroupMove.disconnects (hm : GroupMove cfg g A gd out gd') (h : GroupInv cfg parameterNo g gd)
    (hdis : (gd.slaveDevices d).deviceState.disconnected = true) :
    Disconnects (cfg.hier.groups g) g d out gd' := by
  rcases hm.kept hv h with hst | ⟨hno, hkept⟩
  · obtain ⟨now, hstarted⟩ := hst.started
    obtain ⟨conns, destIp, hconns, rfl⟩ := hst.out
    have hslots := linkscanStarted_slots hv h hst.comp hstarted hd
    have hne : (gd.slaveDevices d).deviceState ≠ .cyclicSent := by
      intro hs
      rw [hs] at hdis
      cases hdis
    rw [SentSlots, if_neg (by simp [scanStartIgnored, GroupData.scanning, hne])] at hslots
    refine Until.mark (fun x hx => (hconns x hx).isRequest) (by simp [Output.isRequest]) ?_
    intro hforce
    show requestBit _ _ = false
    rw [hslots.bit]
    have hoff : scanStartState (gd.scanning.slaveDevices d) ≠ .cyclicSending := by
      intro hs
      exact hne (scanStartState_cyclicSending.mp hs).2
    simp [outgoingBit, hoff, hforce]
  · exact Until.silent hno ((hkept d hd).disconnected hdis)

theorem star_disconnects (hm : Star (GroupMove cfg g A) gd out gd')
    (h : GroupInv cfg parameterNo g gd)
    (hdis : (gd.slaveDevices d).deviceState.disconnected = true) :
    Disconnects (cfg.hier.groups g) g d out gd' :=
  Until.star (J := GroupInv cfg parameterNo g) (fun _ _ _ hm h => groupMove_inv hv hm h)
    (fun _ _ _ hm h hdis => GroupMove.disconnects hv hd hm h hdis) hm h hdis

end

/-- after a failed assertion nothing happens any more -/
theorem run_aborted {c : Clm} (h : c.aborted = true) (es : List Event) : master.run c es = (c, []) := by
  induction es with
  | nil => rfl
  | cons e es ih =>
    have hstep : master.step c e = (c, []) := if_pos h
    rw [Machine.run_cons, hstep, ih]
    rfl

/-! ## runs -/

namespace MasterStart
variable {o : Options} (st : MasterStart o)

/-- **The next request of a disconnected device.** -/
theorem next_disconnects (pre post : List Event) {g d : Nat} (hg : g < st.vc.numGroups)
    (hd : d < (st.vc.setting g).numSlaveDevices.toNat)
    (hdis : (((st.run pre).1.groups g).slaveDevices d).deviceState.disconnected = true) :
    Disconnects (st.vc.setting g) g d (ofGroup g (master.run (st.run pre).1 post).2)
      ((master.run (st.run pre).1 post).1.groups g) := by
  have hcfg := (st.run_config pre).1
  have hv := st.vc.group hg
  have hg' : g < (st.run pre).1.numGroups := by
    rw [Clm.numGroups, hcfg]
    exact hg
  have hrun := master_run_inv (c := (st.run pre).1) (A := fun _ _ _ => True)
    (I := fun out gd => GroupInv st.vc.cfg st.parameterNo g gd
      ∧ Disconnects (st.vc.setting g) g d out gd)
    (by
      rintro hist gd out gd' hm ⟨hinv, hdisc⟩
      exact ⟨groupMove_inv hv hm hinv, hdisc.trans (hm.disconnects hv hd hinv)⟩)
    [] hcfg hg'
    ⟨st.group_groupInv pre hg, Until.silent (fun _ hx => absurd hx List.not_mem_nil) hdis⟩
    (Machine.Steps.of_all master (fun _ _ _ _ _ => trivial) _ post)
  exact hrun.2

end MasterStart

/-! ## error responses -/

/-- the return value of `clm_iefb_handle_response_frame` -/
theorem handleDeviceResponse_value (g d : Nat) (now : UInt32) (unixMs : Nat → UInt64)
    (r : CyclicResponse) (c : Clm) :
    (handleDeviceResponse g d now unixMs r c).2.2
      = if (checkDevice (c.setting g) d r (c.groups g)).2 = true then 0 else -1 := by
  obtain ⟨_, hcheck⟩ := checkResponse_spec g d now r (c.scope g)
  have hcheck' : (checkResponse g d now r (c.scope g)).2
      = (checkDevice (c.setting g) d r (c.groups g)).2 := hcheck
  unfold handleDeviceResponse
  simp only [hcheck']
  cases (checkDevice (c.setting g) d r (c.groups g)).2 with
  | false => rfl
  | true =>
    simp only [Bool.true_eq_false, if_false, if_true]
    split <;> rfl

/-- a response of device `d` is handled to the end, and its end code reports an error -/
structure HandlesError (c : Clm) (e : Event) (g d : Nat) (r : CyclicResponse) : Prop where
  handled : ∃ now unixMs dg remoteIp remotePort, e = .frame now unixMs dg remoteIp remotePort
    ∧ clmResponse c now dg remoteIp remotePort = some (g, d, r)
    ∧ (clmIefbHandleInputFrame now unixMs dg remoteIp remotePort c).2.2 = 0
  notSuccess : r.fullHeaders.cyclicHeader.endCode ≠ endcodeSuccess
  notMasterDuplication : r.fullHeaders.cyclicHeader.endCode ≠ endcodeMasterDuplication

/-- the error leaves a device outside `CYCLIC_SENT` disconnected -/
theorem deviceLocal_error (gs : GroupSetting) {r : CyclicResponse} {dev : SlaveDeviceData}
    (hr : r.fullHeaders.cyclicHeader.endCode ≠ endcodeSuccess)
    (hdown : dev.deviceState ≠ .masterDown) (hsent : dev.deviceState ≠ .cyclicSent) :
    (deviceLocal gs (responseEvent r) dev).deviceState.disconnected = true := by
  rw [responseEvent, if_neg hr, deviceLocal_deviceState]
  generalize dev.deviceState = state at hdown hsent ⊢
  cases state <;> first | rfl | exact absurd rfl hdown | exact absurd rfl hsent

/-- a response is handled to the end -/
theorem handledResponse_step {c : Clm} {e : Event} {g d : Nat} {r : CyclicResponse}
    (hhandled : ∃ now unixMs dg remoteIp remotePort, e = .frame now unixMs dg remoteIp remotePort
      ∧ clmResponse c now dg remoteIp remotePort = some (g, d, r)
      ∧ (clmIefbHandleInputFrame now unixMs dg remoteIp remotePort c).2.2 = 0)
    (hlive : c.aborted = false) :
    (checkDevice (c.setting g) d r (c.groups g)).2 = true
      ∧ ∃ o, ofGroup g (clmStep c e).2
          = reports g d r ((c.groups g).slaveDevices d).latestFrame
            ++ [.stored g d r ((c.groups g).slaveDevices d).transmissionBit] ++ o
        ∧ Star (Internal c.shared.config g)
          (acceptResponse c.shared.config (c.setting g) d r (c.groups g)) o
          ((clmStep c e).1.groups g) := by
  obtain ⟨now, unixMs, dg, remoteIp, remotePort, rfl, hr, hvalue⟩ := hhandled
  obtain ⟨hg, hd, heq⟩ := clmIefbHandleInputFrame_response unixMs hr
  have hreceives : GroupReceives c (.frame now unixMs dg remoteIp remotePort) g (.response d r) :=
    ⟨_, _, _, _, _, rfl, hr⟩
  have hc : (checkDevice (c.setting g) d r (c.groups g)).2 = true := by
    rw [heq, handleDeviceResponse_value] at hvalue
    by_contra hc
    rw [if_neg hc] at hvalue
    cases hvalue
  rcases (clmStep_group c (.frame now unixMs dg remoteIp remotePort) hg).response_cases hreceives
    hlive with ⟨hc', _, _⟩ | ⟨_, hstored⟩
  · rw [hc] at hc'
    cases hc'
  · exact ⟨hc, hstored⟩

/-! ## devices that stay connected -/

/-- the bit of device `d` is on, if the device is enabled -/
def Output.bitOn (gs : GroupSetting) (d : Nat) : Output → Prop
  | sendRequest _ start _ _ dg => (start.slaveDevices d).enabled = true →
    requestBit dg (UInt16.ofNat (gs.pos d + 1)) = true
  | _ => True

/-- until the first request the device stays in `CYCLIC_SENT`, and there its bit is on -/
def Connects (gs : GroupSetting) (g d : Nat) : List Output → GroupData → Prop :=
  Until (Output.isRequest g) (Output.bitOn gs d) (fun gd =>
    (gd.slaveDevices d).deviceState = .cyclicSent ∨ gd.groupState = .masterListen)

/-- events without a row in `CYCLIC_SENT` -/
theorem deviceLocal_cyclicSent (gs : GroupSetting) {event : DeviceEvent} {dev : SlaveDeviceData}
    (h : dev.deviceState = .cyclicSent)
    (he : event = .groupTimeout ∨ event = .groupAllResponded ∨ event = .receiveError) :
    (deviceLocal gs event dev).deviceState = .cyclicSent := by
  rw [deviceLocal_deviceState, h]
  rcases he with rfl | rfl | rfl <;> rfl

section
variable {o : Options} {cfg : Config} {parameterNo : UInt16} {g d : Nat} {gd gd' : GroupData}
  {out : List Output} {A : GroupInput → GroupData → Prop}
  (hv : GroupValid o cfg (cfg.hier.groups g))
  (hd : d < (cfg.hier.groups g).numSlaveDevices.toNat)
  (hA : ∀ r gd, ¬ A (.response d r) gd)
include hv hd hA

theorem GroupMove.connects (hm : GroupMove cfg g A gd out gd') (h : GroupInv cfg parameterNo g gd)
    (hs : (gd.slaveDevices d).deviceState = .cyclicSent ∨ gd.groupState = .masterListen) :
    Connects (cfg.hier.groups g) g d out gd' := by
  rcases hs with hs | hs
  · cases hm with
    | start clm now unixMs hclm hcomp =>
      obtain ⟨hst, hout⟩ := linkscanStart_started hv h hcomp hclm now unixMs
      have hslots := linkscanStarted_slots hv h hcomp hst hd
      rw [hout]
      refine Until.mark (fun x hx => (startDevices_out _ _ _ x hx).isRequest)
        (by simp [Output.isRequest]) ?_
      intro hen
      have hen' : (gd.slaveDevices d).enabled = true := hen
      rw [SentSlots, if_neg (by simp [scanStartIgnored, GroupData.scanning, hen'])] at hslots
      rw [hslots.bit]
      have hsending : scanStartState (gd.scanning.slaveDevices d) = .cyclicSending :=
        scanStartState_cyclicSending.mpr ⟨hen', hs⟩
      simp [outgoingBit, hsending]
    | setEnabled e enabled ha =>
      refine Until.silent (fun _ hx => absurd hx List.not_mem_nil) (Or.inl ?_)
      rw [gd.modifyDevice_slaveDevices]
      split <;> exact hs
    | setForce e force ha =>
      refine Until.silent (fun _ hx => absurd hx List.not_mem_nil) (Or.inl ?_)
      rw [gd.modifyDevice_slaveDevices]
      split <;> exact hs
    | clearStatistics ha =>
      refine Until.silent (fun _ hx => absurd hx List.not_mem_nil) (Or.inl ?_)
      rw [GroupData.clearStatistics, gd.mapDevices_slaveDevices _ hd]
      exact hs
    | rejected e r he ha hc =>
      refine Until.silent (fun _ hx => absurd hx List.not_mem_nil) (Or.inl ?_)
      have hde : d ≠ e := by
        rintro rfl
        exact hA r gd ha
      rw [GroupData.modifyDevice_of_ne _ _ _ hde]
      exact hs
    | accepted e r he ha hc =>
      refine Until.silent (fun x hx => accepted_isRequest g e r _ _ x hx g) (Or.inl ?_)
      have hde : d ≠ e := by
        rintro rfl
        exact hA r gd ha
      rw [acceptResponse_other cfg hde]
      exact hs
    | complete hscan hr =>
      refine Until.silent (fun x hx => by rw [List.mem_singleton.mp hx]; rfl) (Or.inl ?_)
      rw [gd.endScan_slaveDevices _ _ hd]
      exact deviceLocal_cyclicSent _ hs (Or.inr (Or.inl rfl))
    | timeout hscan =>
      refine Until.silent (fun x hx => by rw [List.mem_singleton.mp hx]; rfl) (Or.inl ?_)
      rw [gd.endScan_slaveDevices _ _ hd]
      exact deviceLocal_cyclicSent _ hs (Or.inl rfl)
    | standby hrun => exact Until.silent (fun _ hx => absurd hx List.not_mem_nil) (Or.inr rfl)
    | _ => exact Until.silent (fun _ hx => absurd hx List.not_mem_nil) (Or.inl hs)
  · obtain ⟨hlisten, hsilent⟩ := hm.listen hs
    exact Until.silent (fun x hx => hsilent x hx g) (Or.inr hlisten)

theorem star_connects (hm : Star (GroupMove cfg g A) gd out gd')
    (h : GroupInv cfg parameterNo g gd)
    (hs : (gd.slaveDevices d).deviceState = .cyclicSent ∨ gd.groupState = .masterListen) :
    Connects (cfg.hier.groups g) g d out gd' :=
  Until.star (J := GroupInv cfg parameterNo g) (fun _ _ _ hm h => groupMove_inv hv hm h)
    (fun _ _ _ hm h hs => GroupMove.connects hv hd hA hm h hs) hm h hs

end

/-! ## the next request after an error response -/

namespace MasterStart
variable {o : Options} (st : MasterStart o)

theorem next_connects (pre post : List Event) {g d : Nat} (hg : g < st.vc.numGroups)
    (hd : d < (st.vc.setting g).numSlaveDevices.toNat)
    (hpost : master.Steps (fun c e => ∀ r, ¬ GroupReceives c e g (.response d r)) (st.run pre).1 post)
    (hs : (((st.run pre).1.groups g).slaveDevices d).deviceState = .cyclicSent
      ∨ ((st.run pre).1.groups g).groupState = .masterListen) :
    Connects (st.vc.setting g) g d (ofGroup g (master.run (st.run pre).1 post).2)
      ((master.run (st.run pre).1 post).1.groups g) := by
  have hcfg := (st.run_config pre).1
  have hv := st.vc.group hg
  have hg' : g < (st.run pre).1.numGroups := by
    rw [Clm.numGroups, hcfg]
    exact hg
  have hsteps : master.Steps (Admits fun h x _ => h = g → ∀ r, x ≠ .response d r)
      (st.run pre).1 post := by
    refine Machine.Steps.mono master ?_ hpost
    intro c e hno h x hx hgh r hr
    subst hgh
    rw [hr] at hx
    exact hno r hx
  have hrun := master_run_inv (c := (st.run pre).1)
    (I := fun out gd => GroupInv st.vc.cfg st.parameterNo g gd
      ∧ Connects (st.vc.setting g) g d out gd)
    (by
      rintro hist gd out gd' hm ⟨hinv, hconn⟩
      refine ⟨groupMove_inv hv hm hinv, hconn.trans (fun hs => ?_)⟩
      exact GroupMove.connects hv hd (fun r _ hno => hno rfl r rfl) hm hinv hs)
    [] hcfg hg'
    ⟨st.group_groupInv pre hg, Until.silent (fun _ hx => absurd hx List.not_mem_nil) hs⟩ hsteps
  exact hrun.2

/-- **The next request after an error response.**  The bit of the device is off, unless the device
was in `CYCLIC_SENT`; there the error is ignored, and the bit is on if the device is still enabled
and no other response of it came in between. -/
theorem errorResponse_disconnects (pre post : List Event) (e : Event)
    (hes : ∀ x ∈ pre ++ e :: post, x.forces = false) (g d : Nat) (r : CyclicResponse)
    (herr : HandlesError (st.run pre).1 e g d r)
    (start : GroupData) (destIp : IpAddr) (destPort : UInt16) (dg : Datagram)
    (hnext : nextRequest g ((clmStep (st.run pre).1 e).2
        ++ (master.run (clmStep (st.run pre).1 e).1 post).2)
      = some (.sendRequest g start destIp destPort dg)) :
    ((((st.run pre).1.groups g).slaveDevices d).deviceState ≠ .cyclicSent →
      requestBit dg (UInt16.ofNat ((st.vc.setting g).pos d + 1)) = false)
    ∧ ((((st.run pre).1.groups g).slaveDevices d).deviceState = .cyclicSent →
      (start.slaveDevices d).enabled = true →
      master.Steps (fun c e => ∀ r, ¬ GroupReceives c e g (.response d r))
        (clmStep (st.run pre).1 e).1 post →
      requestBit dg (UInt16.ofNat ((st.vc.setting g).pos d + 1)) = true) := by
  have hcfg := (st.run_config pre).1
  obtain ⟨now, unixMs, dgIn, remoteIp, remotePort, _, hr, _⟩ := herr.handled
  obtain ⟨hg', hd', _⟩ := clmIefbHandleInputFrame_response unixMs hr
  have hg : g < st.vc.numGroups := by
    rw [Clm.numGroups, hcfg] at hg'
    exact hg'
  have hset : (st.run pre).1.setting g = st.vc.setting g := by
    rw [Clm.setting, hcfg]
  have hd : d < (st.vc.setting g).numSlaveDevices.toNat := by
    rw [hset] at hd'
    exact hd'
  have hlive : (st.run pre).1.aborted = false := by
    rw [← Bool.not_eq_true]
    intro ha
    have hnone : clmStep (st.run pre).1 e = ((st.run pre).1, []) := if_pos ha
    rw [hnone, run_aborted ha] at hnext
    cases hnext
  -- the response is stored first, and the group goes on from there
  obtain ⟨hc, out, hout, hstar⟩ := handledResponse_step herr.handled hlive
  rw [hcfg, hset] at hstar
  rw [hset] at hc
  have hv := st.vc.group hg
  have hinv := st.group_groupInv pre hg
  have hinv' := groupMove_inv hv
    (.accepted (A := fun _ _ => True) _ d r hd trivial hc) hinv
  have hacc := acceptResponse_device st.vc.cfg hc
  have hstate := hacc.state
  rw [if_neg herr.notMasterDuplication] at hstate
  have hquiet : ∀ x ∈ reports g d r (((st.run pre).1.groups g).slaveDevices d).latestFrame
      ++ [.stored g d r (((st.run pre).1.groups g).slaveDevices d).transmissionBit],
      x.isRequest g = false := by
    intro x hx
    exact accepted_isRequest g d r _ _ x hx g
  have hrun : (st.run (pre ++ [e])).1 = (clmStep (st.run pre).1 e).1 := by
    rw [st.run_concat]
  rw [← nextRequest_ofGroup, ofGroup_append, hout] at hnext
  constructor
  · intro hsent
    have hdis := deviceLocal_error (st.vc.setting g) herr.notSuccess
      (devicePhase_ne_down (hinv.phase d hd)) hsent
    rw [← hstate] at hdis
    have hstored : Disconnects (st.vc.setting g) g d _
      (acceptResponse st.vc.cfg (st.vc.setting g) d r ((st.run pre).1.groups g)) :=
      Until.silent hquiet hdis
    have hfirst := hstored.trans (fun hdis => star_disconnects hv hd hstar hinv' hdis)
    have hrest := st.next_disconnects (pre ++ [e]) post hg hd
    rw [hrun] at hrest
    have hmem : .sendRequest g start destIp destPort dg ∈ (st.run (pre ++ e :: post)).2 := by
      have hmem' := List.mem_of_find?_eq_some hnext
      rw [← hout, ← ofGroup_append] at hmem'
      rw [st.run_append, Machine.run_cons]
      exact List.mem_append_right _ (List.mem_filter.mp hmem').1
    exact (hfirst.trans hrest).first _ hnext (st.sendRequest_noForce hes hmem hd)
  · intro hsent hen hpost
    have hkept : ((acceptResponse st.vc.cfg (st.vc.setting g) d r
        ((st.run pre).1.groups g)).slaveDevices d).deviceState = .cyclicSent := by
      rw [hstate, responseEvent, if_neg herr.notSuccess]
      exact deviceLocal_cyclicSent _ hsent (Or.inr (Or.inr rfl))
    have hstored : Connects (st.vc.setting g) g d _
      (acceptResponse st.vc.cfg (st.vc.setting g) d r ((st.run pre).1.groups g)) :=
      Until.silent hquiet (Or.inl hkept)
    have hfirst := hstored.trans (fun hs => star_connects hv hd (fun _ _ h => h) hstar hinv' hs)
    have hrest := st.next_connects (pre ++ [e]) post hg hd (by rw [hrun]; exact hpost)
    rw [hrun] at hrest
    exact (hfirst.trans hrest).first _ hnext hen

/-- the answers of the two runs below -/
theorem exists_handlesError (es : List Event) (now : UInt32) (frameSequenceNo : UInt16)
    (h : (clmResponse ((exampleStart false false).run es).1 now
        (exampleResponse 0 1 endcodeSlaveError frameSequenceNo) (exampleSlaveId 0) clCciefbPort).any
      (fun x => x.1 = 0 && x.2.1 = 0
        && x.2.2.fullHeaders.cyclicHeader.endCode = endcodeSlaveError) = true)
    (hvalue : (clmIefbHandleInputFrame now (fun _ => 0)
      (exampleResponse 0 1 endcodeSlaveError frameSequenceNo) (exampleSlaveId 0) clCciefbPort
      ((exampleStart false false).run es).1).2.2 = 0) :
    ∃ r, HandlesError ((exampleStart false false).run es).1
      (.exampleAnswer now 0 1 endcodeSlaveError frameSequenceNo) 0 0 r := by
  obtain ⟨g, d, r, hr, hp⟩ := exists_response h
  simp only [Bool.and_eq_true, decide_eq_true_eq] at hp
  obtain ⟨⟨rfl, rfl⟩, hcode⟩ := hp
  refine ⟨r, ⟨_, _, _, _, _, rfl, hr, hvalue⟩, ?_, ?_⟩
  · rw [hcode]
    decide
  · rw [hcode]
    decide

/-- a device that is asked for data answers with an error -/
theorem errorResponse_disconnects_example :
    ∃ r dg, HandlesError ((exampleStart false false).run
        [.exampleTick 5000, .exampleAnswer 5100 0 1 0 0]).1
        (.exampleAnswer 5200 0 1 endcodeSlaveError 1) 0 0 r
      ∧ requestBit dg (UInt16.ofNat (((exampleStart false false).vc.setting 0).pos 0 + 1))
        = false := by
  obtain ⟨r, herr⟩ := exists_handlesError [.exampleTick 5000, .exampleAnswer 5100 0 1 0 0] 5200 1
    (by decide +kernel) (by decide +kernel)
  have hnext : (nextRequest 0
      ((clmStep ((exampleStart false false).run [.exampleTick 5000, .exampleAnswer 5100 0 1 0 0]).1
          (.exampleAnswer 5200 0 1 endcodeSlaveError 1)).2
        ++ (master.run (clmStep ((exampleStart false false).run
          [.exampleTick 5000, .exampleAnswer 5100 0 1 0 0]).1
          (.exampleAnswer 5200 0 1 endcodeSlaveError 1)).1 []).2)).any
      (Output.isRequestWith 0 fun _ _ => true) = true := by decide +kernel
  obtain ⟨start, destIp, destPort, dg, hdg, _⟩ := exists_sendRequest hnext
  refine ⟨r, dg, herr, ?_⟩
  exact ((exampleStart false false).errorResponse_disconnects _ [] _ (by decide) 0 0 r herr
    start destIp destPort dg hdg).1 (by decide +kernel)

/-- a late answer to the first request brings the device to `CYCLIC_SENT`, and its error response to
the second one is ignored -/
theorem errorInCyclicSent_staysConnected :
    ¬ ∀ (o : Options) (st : MasterStart o) (pre post : List Event) (e : Event),
      (∀ x ∈ pre ++ e :: post, x.forces = false) →
      (∀ x ∈ pre ++ e :: post, x ≠ .statisticsClearAll) →
      ∀ (g d : Nat) (r : CyclicResponse), HandlesError (st.run pre).1 e g d r →
      ∀ (start : GroupData) (destIp : IpAddr) (destPort : UInt16) (dg : Datagram),
        nextRequest g ((clmStep (st.run pre).1 e).2
            ++ (master.run (clmStep (st.run pre).1 e).1 post).2)
          = some (.sendRequest g start destIp destPort dg) →
        requestBit dg (UInt16.ofNat ((st.vc.setting g).pos d + 1)) = false := by
  intro h
  obtain ⟨r, herr⟩ := exists_handlesError
    [.exampleTick 5000, .exampleTick 50000, .exampleAnswer 51000 0 1 0 0] 52000 1
    (by decide +kernel) (by decide +kernel)
  have hnext : (nextRequest 0
      ((clmStep ((exampleStart false false).run
          [.exampleTick 5000, .exampleTick 50000, .exampleAnswer 51000 0 1 0 0]).1
          (.exampleAnswer 52000 0 1 endcodeSlaveError 1)).2
        ++ (master.run (clmStep ((exampleStart false false).run
          [.exampleTick 5000, .exampleTick 50000, .exampleAnswer 51000 0 1 0 0]).1
          (.exampleAnswer 52000 0 1 endcodeSlaveError 1)).1 [.exampleTick 100000]).2)).any
      (Output.isRequestWith 0 fun _ dg => requestBit dg 1) = true := by decide +kernel
  obtain ⟨start, destIp, destPort, dg, hdg, hp⟩ := exists_sendRequest hnext
  have hoff := h _ (exampleStart false false) _ [.exampleTick 100000] _ (by decide)
    (by simp [Event.exampleTick, Event.exampleAnswer]) 0 0 r herr start destIp destPort dg hdg
  have hbit : requestBit dg 1 = false := hoff
  rw [hp] at hbit
  cases hbit

end MasterStart

end CLink
