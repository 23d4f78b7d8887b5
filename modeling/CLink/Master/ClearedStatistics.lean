import CLink.Master.GroupIndependence

/-!
# Cleared statistics

`clm_iefb_statistics_clear_all` clears the statistics and the stored header details of every
device.  The header details are read again when the next response arrives.

* `Alike m s s'`             two scopes that differ in statistics, and in the header details of the
                             devices in `m`, which the second one has cleared;
* `fsmEvent_alike`           they stay so in every event;
* `readsHeader`              a response that is handled by the stored header of its device;
* `statisticsClearAll_unaffected`   without such a response a run with the call and one without it
                             behave in the same way.
-/

namespace CLink
open Loop

/-! ## devices and groups -/

/-- `dev'` has other statistics, and a cleared header if `cleared` -/
def AlikeDevice (cleared : Bool) (dev dev' : SlaveDeviceData) : Prop :=
  ∃ statistics, dev' = { dev with
    statistics := statistics
    latestFrame := if cleared then .zero else dev.latestFrame }

/-- the devices in `m` have a cleared header in the second group -/
def AlikeGroup (m : Nat → Bool) (gd gd' : GroupData) : Prop :=
  ∃ devices, gd' = { gd with slaveDevices := devices }
    ∧ ∀ d, AlikeDevice (m d) (gd.slaveDevices d) (devices d)

section
variable {m : Nat → Bool} {gd gd' : GroupData} {d : Nat}

theorem AlikeGroup.device (h : AlikeGroup m gd gd') (d : Nat) :
    AlikeDevice (m d) (gd.slaveDevices d) (gd'.slaveDevices d) := by
  obtain ⟨devices, rfl, hd⟩ := h
  exact hd d

/-- one device is changed in both groups -/
theorem AlikeGroup.modifyDevice (h : AlikeGroup m gd gd') {f f' : SlaveDeviceData → SlaveDeviceData}
    (hf : AlikeDevice (m d) (f (gd.slaveDevices d)) (f' (gd'.slaveDevices d))) :
    AlikeGroup m (gd.modifyDevice d f) (gd'.modifyDevice d f') := by
  obtain ⟨devices, rfl, hd⟩ := h
  refine ⟨_, rfl, ?_⟩
  intro e
  by_cases he : e = d
  · subst he
    rw [GroupData.modifyDevice_self]
    simpa only [GroupData.modifyDevice, Function.update_self] using hf
  · rw [GroupData.modifyDevice_of_ne _ _ _ he]
    simpa only [Function.update_of_ne he] using hd e

end

/-! ## device functions -/

section
variable {m : Nat → Bool} {gd gd' : GroupData} (gs : GroupSetting) (g d : Nat)

theorem setTransmissionBit_alike {cleared : Bool} {dev dev' : SlaveDeviceData}
    (h : AlikeDevice cleared dev dev') (newState : DeviceState) :
    AlikeDevice cleared (setTransmissionBit gs g d newState dev).1
        (setTransmissionBit gs g d newState dev').1
      ∧ (setTransmissionBit gs g d newState dev').2 = (setTransmissionBit gs g d newState dev).2 := by
  obtain ⟨statistics, rfl⟩ := h
  unfold setTransmissionBit
  simp only
  split <;> split
  all_goals exact ⟨⟨_, rfl⟩, rfl⟩

theorem countSentFrame_alike {cleared : Bool} {dev dev' : SlaveDeviceData}
    (h : AlikeDevice cleared dev dev') :
    AlikeDevice cleared (countSentFrame dev) (countSentFrame dev') := by
  obtain ⟨statistics, rfl⟩ := h
  unfold countSentFrame
  simp only
  split
  all_goals exact ⟨_, rfl⟩

theorem setDataIp_alike (h : AlikeGroup m gd gd') (newState : DeviceState) :
    AlikeGroup m (clmIefbSetDataIp gs g d newState gd).1 (clmIefbSetDataIp gs g d newState gd').1
      ∧ (clmIefbSetDataIp gs g d newState gd').2 = (clmIefbSetDataIp gs g d newState gd).2 := by
  obtain ⟨hbit, hout⟩ := setTransmissionBit_alike gs g d (h.device d) newState
  have hsent := countSentFrame_alike hbit
  have hfields : (setTransmissionBit gs g d newState (gd'.slaveDevices d)).1.slaveStationNo
        = (setTransmissionBit gs g d newState (gd.slaveDevices d)).1.slaveStationNo
      ∧ (setTransmissionBit gs g d newState (gd'.slaveDevices d)).1.transmissionBit
        = (setTransmissionBit gs g d newState (gd.slaveDevices d)).1.transmissionBit
      ∧ (setTransmissionBit gs g d newState (gd'.slaveDevices d)).1.forceTransmissionBit
        = (setTransmissionBit gs g d newState (gd.slaveDevices d)).1.forceTransmissionBit := by
    obtain ⟨statistics, heq⟩ := hbit
    rw [heq]
    exact ⟨rfl, rfl, rfl⟩
  obtain ⟨hstation, htransmission, hforce⟩ := hfields
  refine ⟨?_, hout⟩
  obtain ⟨devices, rfl, hd⟩ := h
  unfold clmIefbSetDataIp
  simp only
  simp only at hstation htransmission hforce hsent
  rw [hstation, htransmission, hforce]
  refine ⟨_, rfl, ?_⟩
  intro e
  by_cases he : e = d
  · subst he
    simp only [Function.update_self]
    exact hsent
  · simp only [Function.update_of_ne he]
    exact hd e

theorem evaluateTimeoutcounter_alike (h : AlikeGroup m gd gd') :
    AlikeGroup m (clmIefbEvaluateTimeoutcounter gs d gd).1 (clmIefbEvaluateTimeoutcounter gs d gd').1
      ∧ (clmIefbEvaluateTimeoutcounter gs d gd').2 = (clmIefbEvaluateTimeoutcounter gs d gd).2 := by
  have hcounted : AlikeGroup m
      (gd.modifyDevice d (fun dev => { dev with timeoutCount := dev.timeoutCount + 1 }))
      (gd'.modifyDevice d (fun dev => { dev with timeoutCount := dev.timeoutCount + 1 })) := by
    apply h.modifyDevice
    obtain ⟨statistics, heq⟩ := h.device d
    rw [heq]
    exact ⟨statistics, rfl⟩
  have hcount : (gd'.slaveDevices d).timeoutCount = (gd.slaveDevices d).timeoutCount := by
    obtain ⟨statistics, heq⟩ := h.device d
    rw [heq]
  unfold clmIefbEvaluateTimeoutcounter
  simp only [GroupData.modifyDevice_self, hcount]
  split
  · refine ⟨?_, rfl⟩
    dsimp only
    apply hcounted.modifyDevice
    obtain ⟨statistics, heq⟩ := hcounted.device d
    rw [heq]
    exact ⟨_, rfl⟩
  · exact ⟨hcounted, rfl⟩

/-- the two functions that set fields of a device to fixed values -/
theorem deviceInit_alike (h : AlikeGroup m gd gd') :
    AlikeGroup m (clmIefbDeviceInit gs d gd) (clmIefbDeviceInit gs d gd') := by
  apply h.modifyDevice
  obtain ⟨statistics, heq⟩ := h.device d
  rw [heq]
  refine ⟨clmIefbStatisticsClear statistics, ?_⟩
  simp [clmIefbLatestReceivedClear]

theorem resetTimeoutCount_alike (h : AlikeGroup m gd gd') :
    AlikeGroup m (clmIefbResetTimeoutCount d gd) (clmIefbResetTimeoutCount d gd') := by
  apply h.modifyDevice
  obtain ⟨statistics, heq⟩ := h.device d
  rw [heq]
  exact ⟨statistics, rfl⟩

theorem devicePerform_alike (h : AlikeGroup m gd gd') (newState : DeviceState) (action : DeviceAction) :
    AlikeGroup m (action.perform gs g d newState gd).1 (action.perform gs g d newState gd').1
      ∧ (action.perform gs g d newState gd').2 = (action.perform gs g d newState gd).2 := by
  cases action with
  | deviceInit => exact ⟨deviceInit_alike gs d h, rfl⟩
  | setDataIp =>
    obtain ⟨hgd, hout⟩ := setDataIp_alike gs g d h newState
    exact ⟨hgd, Prod.ext hout rfl⟩
  | evaluateTimeoutcounter =>
    obtain ⟨hgd, hev⟩ := evaluateTimeoutcounter_alike gs d h
    exact ⟨hgd, Prod.ext rfl hev⟩
  | resetTimeoutCount => exact ⟨resetTimeoutCount_alike d h, rfl⟩

theorem deviceTransition_alike (h : AlikeGroup m gd gd') (next : DeviceState)
    (action : Option DeviceAction) :
    AlikeGroup m (deviceTransition gs g d next action gd).1 (deviceTransition gs g d next action gd').1
      ∧ (deviceTransition gs g d next action gd').2 = (deviceTransition gs g d next action gd).2 := by
  have hstate : (gd'.slaveDevices d).deviceState = (gd.slaveDevices d).deviceState := by
    obtain ⟨statistics, heq⟩ := h.device d
    rw [heq]
  have hnext : AlikeGroup m (gd.modifyDevice d (fun dev => { dev with deviceState := next }))
      (gd'.modifyDevice d (fun dev => { dev with deviceState := next })) := by
    apply h.modifyDevice
    obtain ⟨statistics, heq⟩ := h.device d
    rw [heq]
    exact ⟨statistics, rfl⟩
  have haction : AlikeGroup m
        (action.elim (gd.modifyDevice d (fun dev => { dev with deviceState := next }), [],
          DeviceEvent.none) (fun action => action.perform gs g d next
            (gd.modifyDevice d (fun dev => { dev with deviceState := next })))).1
        (action.elim (gd'.modifyDevice d (fun dev => { dev with deviceState := next }), [],
          DeviceEvent.none) (fun action => action.perform gs g d next
            (gd'.modifyDevice d (fun dev => { dev with deviceState := next })))).1
      ∧ (action.elim (gd'.modifyDevice d (fun dev => { dev with deviceState := next }), [],
          DeviceEvent.none) (fun action => action.perform gs g d next
            (gd'.modifyDevice d (fun dev => { dev with deviceState := next })))).2
        = (action.elim (gd.modifyDevice d (fun dev => { dev with deviceState := next }), [],
          DeviceEvent.none) (fun action => action.perform gs g d next
            (gd.modifyDevice d (fun dev => { dev with deviceState := next })))).2 := by
    cases action with
    | none => exact ⟨hnext, rfl⟩
    | some action => exact devicePerform_alike gs g d hnext next action
  obtain ⟨hgd, hout⟩ := haction
  rw [deviceTransition_elim, deviceTransition_elim, hstate]
  cases (if next ≠ (gd.slaveDevices d).deviceState then deviceOnEntry next else none) with
  | none => exact ⟨hgd, hout⟩
  | some onEntry => exact ⟨(devicePerform_alike gs g d hgd next onEntry).1, hout⟩

/-- results of device functions -/
def AlikeResult (m : Nat → Bool) (r r' : GroupData × List Output) : Prop :=
  AlikeGroup m r.1 r'.1 ∧ r'.2 = r.2

theorem deviceFsmEvent_alike (h : AlikeGroup m gd gd') (event : DeviceEvent) :
    AlikeResult m (clmIefbDeviceFsmEvent gs g d event gd) (clmIefbDeviceFsmEvent gs g d event gd') := by
  have h0 : AlikeResult m (gd, []) (gd', []) := ⟨h, rfl⟩
  refine drive_rel (AlikeResult m) ?_ .none 2 event h0
  rintro e ⟨gd, out⟩ ⟨gd', out'⟩ ⟨h, hout⟩
  have hstate : (gd'.slaveDevices d).deviceState = (gd.slaveDevices d).deviceState := by
    obtain ⟨statistics, heq⟩ := AlikeGroup.device h d
    rw [heq]
  obtain ⟨hgd, hrest⟩ := deviceTransition_alike gs g d h
    (deviceFsmMatrix (gd.slaveDevices d).deviceState e).1
    (deviceFsmMatrix (gd.slaveDevices d).deviceState e).2
  unfold deviceFsmRound
  simp only
  rw [hstate]
  refine ⟨congrArg Prod.snd hrest, hgd, ?_⟩
  rw [show out' = out from hout, hrest]

/-- one event for every device -/
theorem deviceEvents_alike (h : AlikeGroup m gd gd') (n : Nat) (event : SlaveDeviceData → DeviceEvent)
    (hevent : ∀ cleared dev dev', AlikeDevice cleared dev dev' → event dev' = event dev) :
    AlikeResult m
      (loop (fun d s =>
        let r := clmIefbDeviceFsmEvent gs g d (event (s.1.slaveDevices d)) s.1
        (r.1, s.2 ++ r.2)) n (gd, []))
      (loop (fun d s =>
        let r := clmIefbDeviceFsmEvent gs g d (event (s.1.slaveDevices d)) s.1
        (r.1, s.2 ++ r.2)) n (gd', [])) := by
  have h0 : AlikeResult m (gd, []) (gd', []) := ⟨h, rfl⟩
  refine loop_rel (AlikeResult m) h0 ?_
  rintro d ⟨gd, out⟩ ⟨gd', out'⟩ _ ⟨h, hout⟩
  have hev := hevent _ _ _ (AlikeGroup.device h d)
  obtain ⟨hgd, hrest⟩ := deviceFsmEvent_alike gs g d h (event (gd.slaveDevices d))
  simp only
  rw [hev]
  refine ⟨hgd, ?_⟩
  rw [show out' = out from hout, hrest]

theorem startDevices_alike (h : AlikeGroup m gd gd') :
    AlikeResult m (startDevices gs g gd) (startDevices gs g gd') := by
  refine deviceEvents_alike gs g h gs.numSlaveDevices.toNat
    (fun dev => if dev.enabled then .scanStartDeviceStart else .scanStartDeviceStop) ?_
  rintro cleared dev _ ⟨statistics, rfl⟩
  rfl

theorem deviceFsmEventAllInGroup_alike (h : AlikeGroup m gd gd') (event : DeviceEvent) :
    AlikeResult m (clmIefbDeviceFsmEventAllInGroup gs g event gd)
      (clmIefbDeviceFsmEventAllInGroup gs g event gd') :=
  deviceEvents_alike gs g h gs.numSlaveDevices.toNat (fun _ => event) (fun _ _ _ _ => rfl)

/-- one function for every device -/
theorem loopModify_alike (h : AlikeGroup m gd gd') (n : Nat) (f : Nat → SlaveDeviceData → SlaveDeviceData)
    (hf : ∀ d cleared dev dev', AlikeDevice cleared dev dev' → AlikeDevice cleared (f d dev) (f d dev')) :
    AlikeGroup m (loop (fun d gd => gd.modifyDevice d (f d)) n gd)
      (loop (fun d gd => gd.modifyDevice d (f d)) n gd') := by
  refine loop_rel (AlikeGroup m) h ?_
  intro d gd gd' _ h
  exact h.modifyDevice (hf d _ _ _ (h.device d))

end

/-! ## scopes -/

/-- what is seen of an output: no callback about changed slave info, and no ghost data -/
def Output.observed : Output → Option Output
  | sendRequest g _ destIp destPort payload => some (sendRequest g .zero destIp destPort payload)
  | slaveinfoCb _ _ _ _ _ => none
  | x => some x

def observed (out : List Output) : List Output := out.filterMap Output.observed

theorem observed_append (a b : List Output) : observed (a ++ b) = observed a ++ observed b :=
  List.filterMap_append

structure Alike (m : Nat → Bool) (s s' : Scope) : Prop where
  clm : s'.clm = s.clm
  group : AlikeGroup m s.group s'.group
  out : observed s'.out = observed s.out

section
variable {m : Nat → Bool} {s s' : Scope}

theorem Alike.setting (h : Alike m s s') (g : Nat) : s'.setting g = s.setting g := by
  rw [Scope.setting, h.clm]
  rfl

/-- the next shared data, group and outputs -/
theorem Alike.next (h : Alike m s s') (clm : ClmShared) {k : Nat → Bool} {gd gd' : GroupData}
    {o o' : List Output} (hgd : AlikeGroup k gd gd') (ho : observed o' = observed o) :
    Alike k { clm := clm, group := gd, out := s.out ++ o }
      { clm := clm, group := gd', out := s'.out ++ o' } := by
  refine ⟨rfl, hgd, ?_⟩
  show observed (s'.out ++ o') = observed (s.out ++ o)
  rw [observed_append, observed_append, h.out, ho]

theorem Alike.withGroup (h : Alike m s s') {gd gd' : GroupData} (hgd : AlikeGroup m gd gd') :
    Alike m { s with group := gd } { s' with group := gd' } := ⟨h.clm, hgd, h.out⟩

/-- the fields of a group outside the devices are set in the same way -/
theorem AlikeGroup.fields {gd gd' : GroupData} (h : AlikeGroup m gd gd') (f : GroupData → GroupData)
    (hf : ∀ gd devices, f { gd with slaveDevices := devices } = { f gd with slaveDevices := devices }) :
    AlikeGroup m (f gd) (f gd') := by
  obtain ⟨devices, rfl, hd⟩ := h
  have hsame : f gd = { f gd with slaveDevices := gd.slaveDevices } := hf gd gd.slaveDevices
  have hself : (f gd).slaveDevices = gd.slaveDevices := by rw [hsame]
  refine ⟨devices, hf gd devices, ?_⟩
  rw [hself]
  exact hd

end

section
variable {m : Nat → Bool} {s s' : Scope} (g : Nat) (now : UInt32) (unixMs : Nat → UInt64)
  (h : Alike m s s')
include h

theorem groupInit_alike :
    AlikeResult m (clmIefbGroupInit (s.setting g) g s.group)
      (clmIefbGroupInit (s'.setting g) g s'.group) := by
  rw [h.setting g]
  unfold clmIefbGroupInit
  refine deviceFsmEventAllInGroup_alike _ g ?_ _
  refine loopModify_alike ?_ _ _ ?_
  · exact h.group.fields (fun gd => { gd with
      responseWaitTimer := clTimerStop gd.responseWaitTimer
      constantLinkscanTimer := clTimerStop gd.constantLinkscanTimer
      totalOccupied := 0, frameSequenceNo := 0, timestampLinkScanStart := 0
      cyclicTransmissionState := cyclicTrStateAllOff }) (fun _ _ => rfl)
  · rintro d cleared dev _ ⟨statistics, rfl⟩
    exact ⟨statistics, rfl⟩

theorem groupNewConfig_alike :
    Alike m (clmIefbGroupNewConfig g now s) (clmIefbGroupNewConfig g now s') := by
  unfold clmIefbGroupNewConfig
  simp only
  rw [h.clm]
  refine ⟨rfl, ?_, h.out⟩
  unfold clmIefbReflectGroupParameters
  simp only
  refine AlikeGroup.fields ?_ (fun gd => { gd with reqFrame :=
    { clIefbInitialiseRequestFrame s.clm.config.protocolVer
        (s.clm.config.hier.groups g).timeoutValue
        (s.clm.config.hier.groups g).parallelOffTimeoutCount s.clm.config.masterId
        (UInt16.ofNat g + 1) gd.totalOccupied s.clm.parameterNo with
      slaveIds := clmIefbInitialiseRequestSlaveIds (s.clm.config.hier.groups g)
        (clIefbInitialiseRequestFrame s.clm.config.protocolVer
          (s.clm.config.hier.groups g).timeoutValue
          (s.clm.config.hier.groups g).parallelOffTimeoutCount s.clm.config.masterId
          (UInt16.ofNat g + 1) gd.totalOccupied s.clm.parameterNo).slaveIds } }) (fun _ _ => rfl)
  refine loopModify_alike ?_ _ _ ?_
  · exact h.group.fields (fun gd => { gd with
      totalOccupied := clmIefbCalcOccupiedPerGroup (s.clm.config.hier.groups g)
      frameSequenceNo := 0
      cyclicTransmissionState := cyclicTrStateAllOff }) (fun _ _ => rfl)
  · rintro d cleared dev _ ⟨statistics, rfl⟩
    exact ⟨statistics, rfl⟩

theorem onArbitrationFailed_alike :
    Alike m (clmIefbOnArbitrationFailed now s) (clmIefbOnArbitrationFailed now s') := by
  unfold clmIefbOnArbitrationFailed
  simp only
  rw [h.clm]
  exact h.next _ h.group rfl

theorem enterMasterState_alike (state : MasterState) :
    Alike m (enterMasterState state s) (enterMasterState state s') := by
  unfold enterMasterState
  simp only
  rw [h.clm]
  exact h.next _ h.group rfl

theorem onEntryListen_alike :
    Alike m (clmIefbGroupOnEntryListen g s) (clmIefbGroupOnEntryListen g s') := by
  obtain ⟨hgd, hout⟩ := deviceFsmEventAllInGroup_alike (s.setting g) g h.group .groupStandby
  unfold clmIefbGroupOnEntryListen
  simp only
  rw [h.setting g, h.clm, hout]
  exact h.next _ hgd rfl

theorem onLinkscanTimeout_alike :
    Alike m (clmIefbOnLinkscanTimeout g s) (clmIefbOnLinkscanTimeout g s') := by
  obtain ⟨hgd, hout⟩ := deviceFsmEventAllInGroup_alike (s.setting g) g h.group .groupTimeout
  unfold clmIefbOnLinkscanTimeout
  simp only
  rw [h.setting g, h.clm, hout]
  exact h.next _ (hgd.fields (fun gd => { gd with
    frameSequenceNo := clmIefbUpdateFrameSequenceNo gd.frameSequenceNo }) (fun _ _ => rfl)) rfl

theorem onLinkscanComplete_alike :
    Alike m (clmIefbOnLinkscanComplete g s).1 (clmIefbOnLinkscanComplete g s').1
      ∧ (clmIefbOnLinkscanComplete g s').2 = (clmIefbOnLinkscanComplete g s).2 := by
  have hstopped := h.group.fields (fun gd => { gd with
    responseWaitTimer := clTimerStop gd.responseWaitTimer }) (fun _ _ => rfl)
  obtain ⟨hgd, hout⟩ := deviceFsmEventAllInGroup_alike (s.setting g) g hstopped .groupAllResponded
  unfold clmIefbOnLinkscanComplete
  simp only
  rw [h.setting g, h.clm, hout]
  refine ⟨?_, rfl⟩
  exact h.next _ (hgd.fields (fun gd => { gd with
    frameSequenceNo := clmIefbUpdateFrameSequenceNo gd.frameSequenceNo }) (fun _ _ => rfl)) rfl

theorem onLinkscanStart_alike :
    Alike m (clmIefbOnLinkscanStart g now unixMs s) (clmIefbOnLinkscanStart g now unixMs s') := by
  obtain ⟨hgd, hout⟩ := startDevices_alike (s.setting g) g h.group
  have hsent := hgd.fields (fun gd => { gd with
      timestampLinkScanStart := now
      reqFrame := clmIefbSendCyclicRequestFrame { gd with timestampLinkScanStart := now } (unixMs g)
        s.clm.masterLocalUnitInfo
      responseWaitTimer := clTimerStart gd.responseWaitTimer
        ((s.setting g).timeoutValue.toUInt32 * microsecondsPerMillisecond) now }) (fun _ _ => rfl)
  have hframe : (startDevices (s.setting g) g s'.group).1.reqFrame
        = (startDevices (s.setting g) g s.group).1.reqFrame
      ∧ (startDevices (s.setting g) g s'.group).1.frameSequenceNo
        = (startDevices (s.setting g) g s.group).1.frameSequenceNo
      ∧ (startDevices (s.setting g) g s'.group).1.cyclicTransmissionState
        = (startDevices (s.setting g) g s.group).1.cyclicTransmissionState := by
    obtain ⟨devices, heq, _⟩ := hgd
    rw [heq]
    exact ⟨rfl, rfl, rfl⟩
  unfold clmIefbOnLinkscanStart
  simp only
  rw [h.setting g, h.clm, hout]
  refine h.next _ ?_ ?_
  · split
    · exact hsent.fields (fun gd => { gd with
        constantLinkscanTimer := clTimerStart gd.constantLinkscanTimer
          ((s.setting g).timeoutValue.toUInt32 * microsecondsPerMillisecond) now }) (fun _ _ => rfl)
    · exact hsent
  · rw [observed_append, observed_append]
    congr 1
    simp only [observed, List.filterMap_cons, List.filterMap_nil, Output.observed,
      clmIefbSendCyclicRequestFrame, hframe.1, hframe.2.1, hframe.2.2]

theorem groupPerform_alike (action : GroupAction) :
    Alike m (action.perform g now unixMs s).1 (action.perform g now unixMs s').1
      ∧ (action.perform g now unixMs s').2 = (action.perform g now unixMs s).2 := by
  cases action with
  | groupInit =>
    obtain ⟨hgd, hout⟩ := groupInit_alike g h
    refine ⟨?_, rfl⟩
    show Alike m (s.afterDevice _) (s'.afterDevice _)
    unfold Scope.afterDevice
    rw [hout]
    exact ⟨h.clm, hgd, by rw [observed_append, observed_append, h.out]⟩
  | groupNewConfig => exact ⟨groupNewConfig_alike g now h, rfl⟩
  | onArbitrationDone => exact ⟨h, rfl⟩
  | onArbitrationFailed => exact ⟨onArbitrationFailed_alike now h, rfl⟩
  | onLinkscanStart => exact ⟨onLinkscanStart_alike g now unixMs h, rfl⟩
  | onLinkscanTimeout => exact ⟨onLinkscanTimeout_alike g h, rfl⟩
  | onLinkscanComplete => exact onLinkscanComplete_alike g h
  | onEntryListen => exact ⟨onEntryListen_alike g h, rfl⟩
  | onEntryArbitration => exact ⟨enterMasterState_alike h _, rfl⟩
  | onEntryScanComplete => exact ⟨enterMasterState_alike h _, rfl⟩

theorem groupTransition_alike (next : GroupState) (action : Option GroupAction) :
    Alike m (groupTransition g now unixMs next action s).1 (groupTransition g now unixMs next action s').1
      ∧ (groupTransition g now unixMs next action s').2
        = (groupTransition g now unixMs next action s).2 := by
  have hstate : s'.group.groupState = s.group.groupState := by
    obtain ⟨devices, heq, _⟩ := h.group
    rw [heq]
  have hnext : Alike m (s.inState next) (s'.inState next) :=
    h.withGroup (h.group.fields (fun gd => { gd with groupState := next }) (fun _ _ => rfl))
  have haction : Alike m (groupPerformOption g now unixMs action (s.inState next)).1
        (groupPerformOption g now unixMs action (s'.inState next)).1
      ∧ (groupPerformOption g now unixMs action (s'.inState next)).2
        = (groupPerformOption g now unixMs action (s.inState next)).2 := by
    cases action with
    | none =>
      rw [groupPerformOption_none, groupPerformOption_none]
      exact ⟨hnext, rfl⟩
    | some action =>
      rw [groupPerformOption_some, groupPerformOption_some]
      exact groupPerform_alike g now unixMs hnext action
  obtain ⟨hs, hev⟩ := haction
  rw [groupTransition_elim, groupTransition_elim, hstate]
  cases (if next ≠ s.group.groupState then groupOnEntry next else none) with
  | none =>
    rw [Option.elim_none, Option.elim_none]
    exact ⟨hs, hev⟩
  | some onEntry =>
    rw [Option.elim_some, Option.elim_some]
    exact ⟨(groupPerform_alike g now unixMs hs onEntry).1, hev⟩

omit h in
/-- **Every event of a group.** -/
theorem fsmEvent_alike (h : Alike m s s') (event : GroupEvent) :
    Alike m (clmIefbGroupFsmEvent g now unixMs event s) (clmIefbGroupFsmEvent g now unixMs event s') := by
  refine drive_rel (Alike m) ?_ .none 2 event h
  intro e s s' h
  have hstate : s'.group.groupState = s.group.groupState := by
    obtain ⟨devices, heq, _⟩ := h.group
    rw [heq]
  obtain ⟨hs, hev⟩ := groupTransition_alike g now unixMs h
    (groupFsmMatrix s.group.groupState e).1 (groupFsmMatrix s.group.groupState e).2
  unfold groupFsmRound
  simp only
  rw [hstate]
  exact ⟨hev, hs⟩

theorem monitorGroupTimers_alike :
    Alike m (monitorGroupTimers g now unixMs s) (monitorGroupTimers g now unixMs s') := by
  have hwait : s'.group.responseWaitTimer = s.group.responseWaitTimer := by
    obtain ⟨devices, heq, _⟩ := h.group
    rw [heq]
  have h1 : Alike m
      (if clTimerIsExpired s.group.responseWaitTimer now then
        clmIefbGroupFsmEvent g now unixMs .linkscanTimeout { s with group := { s.group with
          responseWaitTimer := clTimerStop s.group.responseWaitTimer } }
      else s)
      (if clTimerIsExpired s'.group.responseWaitTimer now then
        clmIefbGroupFsmEvent g now unixMs .linkscanTimeout { s' with group := { s'.group with
          responseWaitTimer := clTimerStop s'.group.responseWaitTimer } }
      else s') := by
    rw [hwait]
    split
    · refine fsmEvent_alike g now unixMs (h.withGroup ?_) _
      exact h.group.fields (fun gd => { gd with
        responseWaitTimer := clTimerStop s.group.responseWaitTimer }) (fun _ _ => rfl)
    · exact h
  unfold monitorGroupTimers
  generalize (if clTimerIsExpired s.group.responseWaitTimer now then
      clmIefbGroupFsmEvent g now unixMs .linkscanTimeout { s with group := { s.group with
        responseWaitTimer := clTimerStop s.group.responseWaitTimer } }
    else s) = t at h1 ⊢
  generalize (if clTimerIsExpired s'.group.responseWaitTimer now then
      clmIefbGroupFsmEvent g now unixMs .linkscanTimeout { s' with group := { s'.group with
        responseWaitTimer := clTimerStop s'.group.responseWaitTimer } }
    else s') = t' at h1 ⊢
  have hconst : t'.group.constantLinkscanTimer = t.group.constantLinkscanTimer := by
    obtain ⟨devices, heq, _⟩ := h1.group
    rw [heq]
  simp only
  rw [hconst]
  split
  · refine fsmEvent_alike g now unixMs (h1.withGroup ?_) _
    exact h1.group.fields (fun gd => { gd with
      constantLinkscanTimer := clTimerStop t.group.constantLinkscanTimer }) (fun _ _ => rfl)
  · exact h1

end

/-! ## the master -/

/-- two masters with their outputs; `m g d` says whether the second one has cleared the header of
device `d` of group `g` -/
structure AlikeClm (m : Nat → Nat → Bool) (r r' : Clm × List Output) : Prop where
  shared : r'.1.shared = r.1.shared
  aborted : r'.1.aborted = r.1.aborted
  groups : ∀ g, AlikeGroup (m g) (r.1.groups g) (r'.1.groups g)
  out : observed r'.2 = observed r.2

section
variable {m : Nat → Nat → Bool} {c c' : Clm}

theorem AlikeClm.scope {o o' : List Output} (h : AlikeClm m (c, o) (c', o')) (g : Nat) :
    Alike (m g) (c.scope g) (c'.scope g) := ⟨h.shared, h.groups g, rfl⟩

theorem AlikeClm.append {o o' : List Output} {r r' : Clm × List Output}
    (h : AlikeClm m (c, o) (c', o')) {k : Nat → Nat → Bool} (hr : AlikeClm k r r') :
    AlikeClm k (r.1, o ++ r.2) (r'.1, o' ++ r'.2) := by
  refine ⟨hr.shared, hr.aborted, hr.groups, ?_⟩
  show observed (o' ++ r'.2) = observed (o ++ r.2)
  rw [observed_append, observed_append, h.out, hr.out]

theorem AlikeClm.now {o o' : List Output} (h : AlikeClm m (c, o) (c', o')) :
    AlikeClm m (c, []) (c', []) := ⟨h.shared, h.aborted, h.groups, rfl⟩

theorem AlikeClm.numGroups {o o' : List Output} (h : AlikeClm m (c, o) (c', o')) :
    c'.numGroups = c.numGroups := by
  rw [Clm.numGroups, show c'.shared = c.shared from h.shared]
  rfl

theorem AlikeClm.setting {o o' : List Output} (h : AlikeClm m (c, o) (c', o')) (g : Nat) :
    c'.setting g = c.setting g := by
  rw [Clm.setting, show c'.shared = c.shared from h.shared]
  rfl

/-- a function of one group -/
theorem AlikeClm.setScope (h : AlikeClm m (c, []) (c', [])) {g : Nat} {a : Nat → Bool} {s s' : Scope}
    (hs : Alike a s s') :
    AlikeClm (Function.update m g a) (c.setScope g s) (c'.setScope g s') := by
  refine ⟨hs.clm, h.aborted, ?_, hs.out⟩
  intro k
  show AlikeGroup _ (Function.update c.groups g s.group k) (Function.update c'.groups g s'.group k)
  by_cases hk : k = g
  · subst hk
    rw [Function.update_self, Function.update_self, Function.update_self]
    exact hs.group
  · rw [Function.update_of_ne hk, Function.update_of_ne hk, Function.update_of_ne hk]
    exact h.groups k

/-- a function of all groups -/
theorem AlikeClm.forGroups (h : AlikeClm m (c, []) (c', [])) {f : Nat → Scope → Scope}
    (hf : ∀ g s s', Alike (m g) s s' → Alike (m g) (f g s) (f g s')) :
    AlikeClm m (c.forGroups f) (c'.forGroups f) := by
  unfold Clm.forGroups
  rw [h.numGroups]
  refine loop_rel (AlikeClm m) h ?_
  rintro g ⟨t, out⟩ ⟨t', out'⟩ _ ht
  have hset := ht.now.setScope (g := g) (hf g _ _ (ht.scope g))
  rw [Function.update_eq_self] at hset
  exact ht.append hset

theorem AlikeClm.eventAll (h : AlikeClm m (c, []) (c', [])) (now : UInt32) (unixMs : Nat → UInt64)
    (event : GroupEvent) :
    AlikeClm m (clmIefbGroupFsmEventAll now unixMs event c) (clmIefbGroupFsmEventAll now unixMs event c') :=
  h.forGroups (fun g _ _ hs => fsmEvent_alike g now unixMs hs event)

/-- other shared data, the same in both masters -/
theorem AlikeClm.withShared (h : AlikeClm m (c, []) (c', [])) (f : ClmShared → ClmShared) :
    AlikeClm m ({ c with shared := f c.shared }, []) ({ c' with shared := f c'.shared }, []) := by
  refine ⟨?_, h.aborted, h.groups, rfl⟩
  show f c'.shared = f c.shared
  rw [show c'.shared = c.shared from h.shared]

theorem AlikeClm.periodicTimers (h : AlikeClm m (c, []) (c', [])) (now : UInt32)
    (unixMs : Nat → UInt64) :
    AlikeClm m (clmIefbPeriodicTimers now unixMs c) (clmIefbPeriodicTimers now unixMs c') := by
  have hmonitor : ∀ {c c' : Clm}, AlikeClm m (c, []) (c', []) →
      AlikeClm m (clmIefbMonitorAllGroupTimers now unixMs c)
        (clmIefbMonitorAllGroupTimers now unixMs c') := by
    intro c c' h
    exact h.forGroups (fun g _ _ hs => monitorGroupTimers_alike g now unixMs hs)
  have hlimiter := h.withShared (fun clm => { clm with
    errorlimiter := clLimiterPeriodic clm.errorlimiter now })
  have hsame : c'.shared = c.shared := h.shared
  unfold clmIefbPeriodicTimers
  simp only
  by_cases hx : clTimerIsExpired c.shared.arbitrationTimer now = true
  · rw [if_pos hx, if_pos (by rw [hsame]; exact hx)]
    have hall := (hlimiter.withShared (fun clm => { clm with
      arbitrationTimer := clTimerStop clm.arbitrationTimer })).eventAll now unixMs .arbitrationDone
    exact hall.append (hmonitor ⟨hall.shared, hall.aborted, hall.groups, rfl⟩)
  · rw [if_neg hx, if_neg (by rw [hsame]; exact hx)]
    exact hlimiter.append (hmonitor hlimiter)

end

/-! ## responses -/

/-- the stored header decides what happens to the response: a duplicate, or an accepted alarm frame
with the end code of the stored one -/
def readsHeader (gs : GroupSetting) (d : Nat) (r : CyclicResponse) (gd : GroupData) : Bool :=
  let dev := gd.slaveDevices d
  let endCode := r.fullHeaders.cyclicHeader.endCode
  dev.enabled = true
    ∧ (isDuplicate dev r = true
      ∨ (dev.transmissionBit = true →
          r.fullHeaders.cyclicDataHeader.frameSequenceNo = gd.frameSequenceNo)
        ∧ r.numberOfOccupied = (gs.slaveDevices d).numOccupiedStations
        ∧ (endCode = endcodeSlaveError ∨ endCode = endcodeSlaveRequestsDisconnect)
        ∧ endCode = dev.latestFrame.endCode)

section
variable {m : Nat → Bool} {s s' : Scope} {g d : Nat} {r : CyclicResponse} (now : UInt32)

theorem Alike.modifyDevice (h : Alike m s s') {f : SlaveDeviceData → SlaveDeviceData}
    (hf : ∀ cleared dev dev', AlikeDevice cleared dev dev' → AlikeDevice cleared (f dev) (f dev')) :
    Alike m (s.modifyDevice d f) (s'.modifyDevice d f) :=
  h.withGroup (h.group.modifyDevice (hf _ _ _ (h.group.device d)))

theorem Alike.countIncoming (h : Alike m s s') :
    Alike m (s.modifyDevice d countIncoming) (s'.modifyDevice d countIncoming) := by
  apply h.modifyDevice
  rintro cleared dev _ ⟨statistics, rfl⟩
  exact ⟨_, rfl⟩

theorem Alike.countInvalid (h : Alike m s s') :
    Alike m (s.modifyDevice d countInvalid) (s'.modifyDevice d countInvalid) := by
  apply h.modifyDevice
  rintro cleared dev _ ⟨statistics, rfl⟩
  exact ⟨_, rfl⟩

theorem Alike.countAlarm (h : Alike m s s') :
    Alike m (s.modifyDevice d countAlarm) (s'.modifyDevice d countAlarm) := by
  apply h.modifyDevice
  rintro cleared dev _ ⟨statistics, rfl⟩
  exact ⟨_, rfl⟩

theorem Alike.triggerError (h : Alike m s s') (message : ErrorMessage) (ipAddr : IpAddr) :
    Alike m (s.triggerError now message ipAddr) (s'.triggerError now message ipAddr) := by
  unfold Scope.triggerError
  simp only
  rw [h.clm]
  exact h.next _ h.group rfl

theorem Alike.reportAlarms (h : Alike m s s') :
    Alike m (reportAlarms d now r s) (CLink.reportAlarms d now r s') := by
  have halarm : ∀ {s s' : Scope} (message : ErrorMessage) (alarm : Prop) [Decidable alarm],
      Alike m s s' → Alike m
        (if alarm then (s.modifyDevice d CLink.countAlarm).triggerError now message r.remoteIp else s)
        (if alarm then (s'.modifyDevice d CLink.countAlarm).triggerError now message r.remoteIp
        else s') := by
    intro s s' message alarm _ h
    split
    · exact h.countAlarm.triggerError now message r.remoteIp
    · exact h
  exact halarm .slaveReportsMasterDuplication _ (halarm .slaveReportsWrongNumberOccupied _ h)

theorem Alike.check (h : Alike m s s')
    (hdup : m d = true → (s.group.slaveDevices d).enabled = true →
      isDuplicate (s.group.slaveDevices d) r = false) :
    Alike m (checkResponse g d now r s).1 (checkResponse g d now r s').1
      ∧ (checkResponse g d now r s').2 = (checkResponse g d now r s).2 := by
  have hcounted := h.countIncoming (d := d)
  obtain ⟨statistics, hdev⟩ := hcounted.group.device d
  have hself : (s.modifyDevice d CLink.countIncoming).group.slaveDevices d
      = CLink.countIncoming (s.group.slaveDevices d) := GroupData.modifyDevice_self ..
  have hseq : (s'.modifyDevice d CLink.countIncoming).group.frameSequenceNo
      = (s.modifyDevice d CLink.countIncoming).group.frameSequenceNo := by
    obtain ⟨devices, heq, _⟩ := hcounted.group
    rw [heq]
  have hduplicate : (s.group.slaveDevices d).enabled = true →
      isDuplicate ((s'.modifyDevice d CLink.countIncoming).group.slaveDevices d) r
        = isDuplicate ((s.modifyDevice d CLink.countIncoming).group.slaveDevices d) r := by
    intro hen
    rw [hdev]
    cases hm : m d with
    | false => rfl
    | true =>
      rw [hself]
      exact (hdup hm hen).symm
  have hbit : ((s'.modifyDevice d CLink.countIncoming).group.slaveDevices d).transmissionBit
      = ((s.modifyDevice d CLink.countIncoming).group.slaveDevices d).transmissionBit := by
    rw [hdev]
  have henabled : ((s'.modifyDevice d CLink.countIncoming).group.slaveDevices d).enabled
      = ((s.modifyDevice d CLink.countIncoming).group.slaveDevices d).enabled := by
    rw [hdev]
  unfold checkResponse
  simp only
  rw [henabled, h.setting g, hbit, hseq]
  split
  · exact ⟨hcounted.countInvalid, rfl⟩
  rename_i hen
  rw [hself] at hen
  rw [hduplicate ((Bool.not_eq_false _).mp hen)]
  split
  · have herror := (hcounted.countInvalid (d := d)).triggerError now .slaveDuplication r.remoteIp
    obtain ⟨hgd, hout⟩ := deviceFsmEvent_alike (s.setting g) g d herror.group .slaveDuplication
    refine ⟨?_, rfl⟩
    refine ⟨herror.clm, hgd, ?_⟩
    show observed (Scope.out _ ++ _) = observed (Scope.out _ ++ _)
    rw [observed_append, observed_append, herror.out, hout]
  split
  · exact ⟨hcounted.countInvalid, rfl⟩
  have halarms := hcounted.reportAlarms (d := d) (r := r) now
  split
  · exact ⟨halarms.countInvalid, rfl⟩
  · exact ⟨halarms, rfl⟩

omit now in
/-- the stored header is new in both groups -/
theorem Alike.store (h : Alike m s s')
    (halarm : m d = true →
      r.fullHeaders.cyclicHeader.endCode = endcodeSlaveError
        ∨ r.fullHeaders.cyclicHeader.endCode = endcodeSlaveRequestsDisconnect →
      r.fullHeaders.cyclicHeader.endCode ≠ (s.group.slaveDevices d).latestFrame.endCode) :
    Alike (Function.update m d false) (storeResponse g d r s) (storeResponse g d r s') := by
  obtain ⟨statistics, hdev⟩ := h.group.device d
  have hreports : observed (reports g d r (s'.group.slaveDevices d).latestFrame)
      = observed (reports g d r (s.group.slaveDevices d).latestFrame) := by
    have hinfo : ∀ latest : FrameValues, observed (reports g d r latest)
        = if (r.fullHeaders.cyclicHeader.endCode = endcodeSlaveError
            ∨ r.fullHeaders.cyclicHeader.endCode = endcodeSlaveRequestsDisconnect)
            ∧ r.fullHeaders.cyclicHeader.endCode ≠ latest.endCode then
          [.alarmCb g d r.fullHeaders.cyclicHeader.endCode
            r.fullHeaders.slaveStationNotification.slaveErrCode
            r.fullHeaders.slaveStationNotification.localManagementInfo] else [] := by
      intro latest
      unfold reports
      simp only
      rw [observed_append]
      split <;> split <;> rfl
    rw [hinfo, hinfo, hdev]
    cases hm : m d with
    | false => rfl
    | true =>
      have hzero : r.fullHeaders.cyclicHeader.endCode = endcodeSlaveError
          ∨ r.fullHeaders.cyclicHeader.endCode = endcodeSlaveRequestsDisconnect →
          r.fullHeaders.cyclicHeader.endCode ≠ FrameValues.zero.endCode := by
        rintro (hr | hr) <;> rw [hr] <;> decide
      by_cases hcode : r.fullHeaders.cyclicHeader.endCode = endcodeSlaveError
          ∨ r.fullHeaders.cyclicHeader.endCode = endcodeSlaveRequestsDisconnect
      · exact (if_pos ⟨hcode, hzero hcode⟩).trans (if_pos ⟨hcode, halarm hm hcode⟩).symm
      · exact (if_neg (fun hc => hcode hc.1)).trans (if_neg (fun hc => hcode hc.1)).symm
  have hbit : (s'.group.slaveDevices d).transmissionBit = (s.group.slaveDevices d).transmissionBit := by
    rw [hdev]
  have hstation : (s'.group.slaveDevices d).slaveStationNo = (s.group.slaveDevices d).slaveStationNo := by
    rw [hdev]
  rw [storeResponse_eq, storeResponse_eq, h.setting g, h.clm, hbit]
  refine h.next _ ?_ ?_
  · unfold storedGroup
    rw [hbit, hstation]
    obtain ⟨devices, heq, hd⟩ := h.group
    rw [heq] at hdev ⊢
    refine ⟨_, rfl, ?_⟩
    intro e
    by_cases he : e = d
    · subst he
      simp only [GroupData.modifyDevice_self, Function.update_self]
      obtain ⟨st, hst⟩ := countReported_core r (s.group.slaveDevices e)
      obtain ⟨st', hst'⟩ := countReported_core r (devices e)
      rw [hst, hst', show devices e = _ from hdev]
      exact ⟨_, rfl⟩
    · rw [Function.update_of_ne he]
      simp only [GroupData.modifyDevice, Function.update_of_ne he]
      exact hd e
  · rw [observed_append, observed_append, hreports]

omit now in
theorem haveReceived_alike {gd gd' : GroupData} (h : AlikeGroup m gd gd') (gs : GroupSetting) :
    clmIefbGroupHaveReceivedFromAllDevices gs gd' = clmIefbGroupHaveReceivedFromAllDevices gs gd := by
  obtain ⟨devices, rfl, hd⟩ := h
  have hfields : ∀ e, (devices e).deviceState = (gd.slaveDevices e).deviceState
      ∧ (devices e).transmissionBit = (gd.slaveDevices e).transmissionBit := by
    intro e
    obtain ⟨statistics, heq⟩ := hd e
    rw [heq]
    exact ⟨rfl, rfl⟩
  simp only [clmIefbGroupHaveReceivedFromAllDevices, (hfields _).1, (hfields _).2]

theorem Alike.receive (h : Alike m s s') (unixMs : Nat → UInt64) :
    Alike m (receiveResponse g d now unixMs r s) (receiveResponse g d now unixMs r s') := by
  obtain ⟨hgd, hout⟩ := deviceFsmEvent_alike (s.setting g) g d h.group (responseEvent r)
  have hdevice : Alike m (s.afterDevice (clmIefbDeviceFsmEvent (s.setting g) g d (responseEvent r) s.group))
      (s'.afterDevice (clmIefbDeviceFsmEvent (s.setting g) g d (responseEvent r) s'.group)) := by
    refine ⟨h.clm, hgd, ?_⟩
    show observed (s'.out ++ _) = observed (s.out ++ _)
    rw [observed_append, observed_append, h.out, hout]
  have heq : ∀ s : Scope, receiveResponse g d now unixMs r s
      = if clmIefbGroupHaveReceivedFromAllDevices (s.setting g)
            (s.afterDevice (clmIefbDeviceFsmEvent (s.setting g) g d (responseEvent r) s.group)).group then
          clmIefbGroupFsmEvent g now unixMs .linkscanComplete
            (s.afterDevice (clmIefbDeviceFsmEvent (s.setting g) g d (responseEvent r) s.group))
        else s.afterDevice (clmIefbDeviceFsmEvent (s.setting g) g d (responseEvent r) s.group) :=
    fun _ => rfl
  rw [heq, heq, h.setting g, haveReceived_alike hdevice.group]
  split
  · exact fsmEvent_alike g now unixMs hdevice _
  · exact hdevice

end

/-- the masters after a response -/
structure AlikeAfter (m : Nat → Nat → Bool) (g d : Nat) (accepted : Bool) (r r' : Clm × List Output × Int) :
    Prop where
  alike : ∃ k, AlikeClm k (r.1, r.2.1) (r'.1, r'.2.1) ∧ (∀ g d, k g d = true → m g d = true)
    ∧ (accepted = true → k g d = false)
  value : r'.2.2 = r.2.2

section
variable {m : Nat → Nat → Bool} {c c' : Clm} {g d : Nat} {r : CyclicResponse} (now : UInt32)
  (unixMs : Nat → UInt64)

theorem AlikeClm.handleDeviceResponse (h : AlikeClm m (c, []) (c', []))
    (hread : m g d = true → readsHeader (c.setting g) d r (c.groups g) = false) :
    AlikeAfter m g d (checkDevice (c.setting g) d r (c.groups g)).2
      (handleDeviceResponse g d now unixMs r c) (CLink.handleDeviceResponse g d now unixMs r c') := by
  obtain ⟨hspec, hcheck⟩ := checkResponse_spec g d now r (c.scope g)
  have hcheck' : (checkResponse g d now r (c.scope g)).2
      = (checkDevice (c.setting g) d r (c.groups g)).2 := hcheck
  obtain ⟨hchecked, hflag⟩ := (h.scope g).check (d := d) (r := r) now (by
    intro hm hen
    have hfalse := hread hm
    simp only [readsHeader, decide_eq_false_iff_not, not_and, not_or] at hfalse
    exact (Bool.not_eq_true _).mp (hfalse hen).1)
  unfold CLink.handleDeviceResponse
  simp only
  rw [hflag]
  cases hc : (checkDevice (c.setting g) d r (c.groups g)).2 with
  | false =>
    rw [hcheck', if_pos hc, if_pos hc]
    refine ⟨⟨m, ?_, fun _ _ hk => hk, fun hacc => absurd hacc (by simp)⟩, rfl⟩
    have hset := h.setScope (g := g) hchecked
    rw [Function.update_eq_self] at hset
    exact hset
  | true =>
    have hne : ¬ (checkDevice (c.setting g) d r (c.groups g)).2 = false := by
      rw [hc]
      simp
    rw [hcheck', if_neg hne, if_neg hne]
    have hpassed := checkDevice_passed hc
    have hlatest : ((checkResponse g d now r (c.scope g)).1.group.slaveDevices d).latestFrame
        = ((c.groups g).slaveDevices d).latestFrame := by
      obtain ⟨st, hst⟩ := countAlarms_core r (countIncoming ((c.groups g).slaveDevices d))
      rw [hspec.group, GroupData.modifyDevice_self]
      show (checkDevice (c.setting g) d r (c.groups g)).1.latestFrame = _
      rw [hpassed.device, hst]
      rfl
    have hstored := hchecked.store (g := g) (d := d) (r := r) (by
      intro hm hcode heq
      rw [hlatest] at heq
      have hfalse := hread hm
      simp only [readsHeader, decide_eq_false_iff_not, not_and, not_or] at hfalse
      exact (hfalse hpassed.enabled).2 hpassed.sequence hpassed.stations hcode heq)
    have hmask : ∀ g' d', Function.update m g (Function.update (m g) d false) g' d' = true →
        m g' d' = true := by
      intro g' d' hk
      by_cases hg : g' = g
      · subst hg
        rw [Function.update_self] at hk
        by_cases hd : d' = d
        · rw [hd, Function.update_self] at hk
          cases hk
        · rw [Function.update_of_ne hd] at hk
          exact hk
      · rw [Function.update_of_ne hg] at hk
        exact hk
    have hseen : Function.update m g (Function.update (m g) d false) g d = false := by
      rw [Function.update_self, Function.update_self]
    split
    · have hset := h.setScope (g := g) hstored
      generalize c.setScope g (storeResponse g d r (checkResponse g d now r (c.scope g)).1) = t at hset ⊢
      generalize c'.setScope g (storeResponse g d r (checkResponse g d now r (c'.scope g)).1) = t'
        at hset ⊢
      have hall := hset.now.eventAll now unixMs .masterduplAlarm
      exact ⟨⟨_, hset.append hall, hmask, fun _ => hseen⟩, rfl⟩
    · have hset := h.setScope (g := g) (hstored.receive (g := g) (d := d) (r := r) now unixMs)
      exact ⟨⟨_, hset, hmask, fun _ => hseen⟩, rfl⟩

end

/-! ## stored responses -/

/-- the store of a response of device `d` of group `g` -/
def Output.isStored (g d : Nat) : Output → Bool
  | stored g' d' _ _ => g' = g ∧ d' = d
  | _ => false

theorem Output.isConnection.isStored {g k d : Nat} {x : Output} (h : x.isConnection g) :
    x.isStored k d = false := by
  obtain ⟨e, id, rfl | rfl⟩ := h <;> rfl

/-- the callbacks of an accepted response -/
theorem reports_isStored (g d : Nat) (r : CyclicResponse) (latest : FrameValues) :
    ∀ x ∈ reports g d r latest, ∀ g' d', x.isStored g' d' = false := by
  intro x hx g' d'
  simp only [reports, List.mem_append] at hx
  rcases hx with hx | hx <;> split at hx
  · rw [List.mem_singleton.mp hx]
    rfl
  · cases hx
  · rw [List.mem_singleton.mp hx]
    rfl
  · cases hx

/-- without responses nothing is stored -/
theorem GroupMove.notStored {cfg : Config} {g : Nat} {A : GroupInput → GroupData → Prop}
    (hA : ∀ d r gd, ¬ A (.response d r) gd) {gd gd' : GroupData} {o : List Output}
    (hm : GroupMove cfg g A gd o gd') : ∀ x ∈ o, ∀ k d, x.isStored k d = false := by
  intro x hx k d
  cases hm with
  | accepted e r he ha hc => exact absurd ha (hA e r gd)
  | complete hs hr =>
    rw [List.mem_singleton.mp hx]
    rfl
  | timeout hs =>
    rw [List.mem_singleton.mp hx]
    rfl
  | start clm now unixMs hclm hs =>
    rw [linkscanStart_out] at hx
    rcases List.mem_append.mp hx with hx | hx
    · exact (startDevices_out _ _ _ x hx).isStored
    · rw [List.mem_singleton.mp hx]
      rfl
  | _ => cases hx

theorem star_notStored {cfg : Config} {g : Nat} {A : GroupInput → GroupData → Prop}
    (hA : ∀ d r gd, ¬ A (.response d r) gd) {gd gd' : GroupData} {o : List Output}
    (hm : Trace.Star (GroupMove cfg g A) gd o gd') : ∀ x ∈ o, ∀ k d, x.isStored k d = false := by
  refine hm.inv (I := fun hist _ => ∀ x ∈ hist, ∀ k d, x.isStored k d = false) ?_ []
    (fun _ hx => absurd hx List.not_mem_nil)
  intro hist gd o gd' hm hhist x hx
  exact (List.mem_append.mp hx).elim (hhist x) (hm.notStored hA x)

/-- the step stores a response of the device that answers -/
theorem clmStep_stored {c : Clm} {e : Event} {g d : Nat} {x : Output} (hx : x ∈ (clmStep c e).2)
    (hs : x.isStored g d = true) :
    ∃ r, GroupReceives c e g (.response d r) ∧ (checkDevice (c.setting g) d r (c.groups g)).2 = true := by
  have hown : x.isOf g = true := by
    cases x <;> first | cases hs | skip
    simp only [Output.isStored, decide_eq_true_eq] at hs
    simp [Output.isOf, Output.owner, hs.1]
  have hmem : x ∈ ofGroup g (clmStep c e).2 := List.mem_filter.mpr ⟨hx, hown⟩
  have hg : g < c.numGroups := by
    by_contra hg
    rw [((clmStep_moves (A := fun _ _ _ => True) c e (fun _ _ _ => trivial)).other g hg).1] at hmem
    cases hmem
  have hstep := clmStep_group c e hg
  generalize ofGroup g (clmStep c e).2 = out at hmem hstep
  generalize (clmStep c e).1.groups g = gd' at hstep
  cases hstep with
  | internal hno h =>
    rw [star_notStored (fun _ _ _ h => h) h x hmem] at hs
    cases hs
  | call y hy hc h =>
    rw [star_notStored (fun d r _ h => hc d r h.symm) h x hmem] at hs
    cases hs
  | rejected e r hr he hc => cases hmem
  | accepted e r hr he hc h hlisten =>
    rcases List.mem_append.mp hmem with hmem | hmem
    · rcases List.mem_append.mp hmem with hmem | hmem
      · rw [reports_isStored g e r _ x hmem] at hs
        cases hs
      · rw [List.mem_singleton.mp hmem] at hs
        simp only [Output.isStored, decide_eq_true_eq] at hs
        rw [← hs.2]
        exact ⟨r, hr, hc⟩
    · rw [star_notStored (fun _ _ _ h => h) h x hmem] at hs
      cases hs

/-! ## steps -/

/-- a response that is handled by a header from before the outputs `out` -/
def usesOldHeader (c : Clm) (out : List Output) : Event → Bool
  | .frame now _ dg remoteIp remotePort =>
    match clmResponse c now dg remoteIp remotePort with
    | some (g, d, r) =>
      !c.aborted && !out.any (Output.isStored g d) && readsHeader (c.setting g) d r (c.groups g)
    | none => false
  | _ => false

/-- the relation of the two runs, where `hist` are the outputs since the call -/
def AlikeRuns (hist : List Output) (r r' : Clm × List Output) : Prop :=
  ∃ m, AlikeClm m r r' ∧ ∀ g d, m g d = true → ∀ x ∈ hist, x.isStored g d = false

section
variable {m : Nat → Nat → Bool} {c c' : Clm}

theorem AlikeClm.modifyDevice (h : AlikeClm m (c, []) (c', [])) (g d : Nat)
    {f : SlaveDeviceData → SlaveDeviceData}
    (hf : ∀ cleared dev dev', AlikeDevice cleared dev dev' → AlikeDevice cleared (f dev) (f dev')) :
    AlikeClm m (c.modifyDevice g d f, []) (c'.modifyDevice g d f, []) := by
  unfold Clm.modifyDevice
  rw [h.numGroups, h.setting g]
  split
  · exact h
  · have hscope : Alike (m g) { c.scope g with group := (c.groups g).modifyDevice d f }
        { c'.scope g with group := (c'.groups g).modifyDevice d f } :=
      ⟨h.shared, (h.groups g).modifyDevice (hf _ _ _ ((h.groups g).device d)), rfl⟩
    have hset := h.setScope (g := g) hscope
    rw [Function.update_eq_self] at hset
    exact hset

theorem AlikeClm.statisticsClearAll (h : AlikeClm m (c, []) (c', [])) :
    AlikeClm m (clmIefbStatisticsClearAll c, []) (clmIefbStatisticsClearAll c', []) := by
  rw [clmIefbStatisticsClearAll_eq, clmIefbStatisticsClearAll_eq]
  refine ⟨h.shared, h.aborted, ?_, rfl⟩
  intro g
  simp only [h.numGroups, h.setting g]
  split
  · obtain ⟨devices, heq, hd⟩ := h.groups g
    have heq' : c'.groups g = { c.groups g with slaveDevices := devices } := heq
    rw [heq']
    refine ⟨_, rfl, ?_⟩
    intro d
    simp only [GroupData.clearStatistics, GroupData.mapDevices]
    split
    · obtain ⟨statistics, hdev⟩ := hd d
      rw [hdev]
      refine ⟨clmIefbStatisticsClear statistics, ?_⟩
      cases m g d <;> rfl
    · exact hd d
  · exact h.groups g

/-- the group of the application's data is replaced -/
theorem AlikeClm.writeMemoryArea (h : AlikeClm m (c, []) (c', [])) (g : Nat) (ry : Nat → BitArea)
    (rww : Nat → WordArea) :
    AlikeClm m (writeMemoryArea g ry rww c, []) (CLink.writeMemoryArea g ry rww c', []) := by
  unfold CLink.writeMemoryArea
  rw [h.numGroups]
  split
  · exact h
  · have hgd := (h.groups g).fields (fun gd => { gd with memoryArea := { gd.memoryArea with
      ry := ry, rww := rww } }) (fun _ _ => rfl)
    have hscope : Alike (m g)
        { c.scope g with group := { c.groups g with memoryArea := { (c.groups g).memoryArea with
          ry := ry, rww := rww } } }
        { c'.scope g with group := { c'.groups g with memoryArea := { (c'.groups g).memoryArea with
          ry := ry, rww := rww } } } := ⟨h.shared, hgd, rfl⟩
    have hset := h.setScope (g := g) hscope
    rw [Function.update_eq_self] at hset
    exact hset

/-- an event without a response -/
theorem AlikeClm.step (h : AlikeClm m (c, []) (c', [])) {e : Event}
    (he : ∀ g d r, ¬ GroupReceives c e g (.response d r)) :
    AlikeClm m (clmStep c e) (clmStep c' e) := by
  have haborted : c'.aborted = c.aborted := h.aborted
  have hshared : c'.shared = c.shared := h.shared
  unfold clmStep
  rw [haborted]
  split
  · exact h
  cases e with
  | tick now unixMs => exact h.periodicTimers now unixMs
  | statisticsClearAll => exact h.statisticsClearAll
  | setMasterApplicationStatus running stoppedByUser =>
    exact h.withShared (fun clm => { clm with
      masterLocalUnitInfo :=
        clmIefbCalcMasterLocalUnitInfo clm.config.protocolVer running stoppedByUser })
  | setSlaveCommunicationStatus g d enabled =>
    refine h.modifyDevice g d ?_
    rintro cleared dev _ ⟨statistics, rfl⟩
    exact ⟨statistics, rfl⟩
  | forceCyclicTransmissionBit g d force =>
    refine h.modifyDevice g d ?_
    rintro cleared dev _ ⟨statistics, rfl⟩
    exact ⟨statistics, rfl⟩
  | writeMemoryArea g ry rww => exact h.writeMemoryArea g ry rww
  | frame now unixMs dg remoteIp remotePort =>
    have hresp : clmResponse c' now dg remoteIp remotePort = clmResponse c now dg remoteIp remotePort := by
      simp only [clmResponse, Clm.setting, hshared]
    have hforeign : clmForeignRequest c' dg remoteIp = clmForeignRequest c dg remoteIp := by
      simp only [clmForeignRequest, hshared]
    have haborts := handleInputFrame_aborted c now unixMs dg remoteIp remotePort
    have haborts' := handleInputFrame_aborted c' now unixMs dg remoteIp remotePort
    rw [hshared, haborted, ← haborts] at haborts'
    have hcases := clmIefbHandleInputFrame_cases c now unixMs dg remoteIp remotePort
    have hcases' := clmIefbHandleInputFrame_cases c' now unixMs dg remoteIp remotePort
    simp only
    generalize clmIefbHandleInputFrame now unixMs dg remoteIp remotePort c = t at hcases haborts' ⊢
    generalize clmIefbHandleInputFrame now unixMs dg remoteIp remotePort c' = t' at hcases' haborts' ⊢
    cases hcases with
    | response g d r hg hd hid hr hf =>
      exact absurd ⟨now, unixMs, dg, remoteIp, remotePort, rfl, hr⟩ (he g d r)
    | request hr hf =>
      cases hcases' with
      | response g d r hg hd hid hr' hf' =>
        rw [hresp, hr] at hr'
        cases hr'
      | request hr' hf' =>
        exact (h.withShared (fun clm => { clm with latestConflictingMasterIp := remoteIp })).eventAll
          now unixMs .reqFromOther
      | dropped aborted' value' hr' hf' =>
        rw [hforeign, hf] at hf'
        cases hf'
    | dropped aborted value hr hf =>
      cases hcases' with
      | response g d r hg hd hid hr' hf' =>
        rw [hresp, hr] at hr'
        cases hr'
      | request hr' hf' =>
        rw [hforeign, hf] at hf'
        cases hf'
      | dropped aborted' value' hr' hf' => exact ⟨hshared, haborts', h.groups, rfl⟩

/-- **A step of both runs.** -/
theorem AlikeRuns.step {hist hist' out : List Output} {e : Event}
    (h : AlikeRuns out (c, hist) (c', hist')) (he : usesOldHeader c out e = false) :
    AlikeRuns (out ++ (clmStep c e).2) ((clmStep c e).1, hist ++ (clmStep c e).2)
      ((clmStep c' e).1, hist' ++ (clmStep c' e).2) := by
  obtain ⟨m, hm, hold⟩ := h
  by_cases hquiet : ∀ g d r, ¬ GroupReceives c e g (.response d r)
  · refine ⟨m, hm.append (hm.now.step hquiet), ?_⟩
    intro g d hg x hx
    rcases List.mem_append.mp hx with hx | hx
    · exact hold g d hg x hx
    · by_contra hs
      obtain ⟨r, hr, _⟩ := clmStep_stored hx ((Bool.not_eq_false _).mp hs)
      exact hquiet g d r hr
  simp only [not_forall, not_not] at hquiet
  obtain ⟨g, d, r, now, unixMs, dg, remoteIp, remotePort, rfl, hr⟩ := hquiet
  have haborted : c'.aborted = c.aborted := hm.aborted
  have hshared : c'.shared = c.shared := hm.shared
  by_cases ha : c.aborted = true
  · rw [show clmStep c _ = (c, []) from if_pos ha,
      show clmStep c' _ = (c', []) from if_pos (haborted.trans ha), List.append_nil, List.append_nil,
      List.append_nil]
    exact ⟨m, hm, hold⟩
  have hresp : clmResponse c' now dg remoteIp remotePort = some (g, d, r) := by
    rw [← hr]
    simp only [clmResponse, Clm.setting, hshared]
  have hlive : c.aborted = false := (Bool.not_eq_true _).mp ha
  have hread : m g d = true → readsHeader (c.setting g) d r (c.groups g) = false := by
    intro hg
    simp only [usesOldHeader, hr, hlive, Bool.not_false, Bool.true_and, Bool.and_eq_false_iff,
      Bool.not_eq_false', List.any_eq_true] at he
    rcases he with ⟨x, hx, hs⟩ | he
    · rw [hold g d hg x hx] at hs
      cases hs
    · exact he
  have hstored : ∀ x ∈ (clmStep c (.frame now unixMs dg remoteIp remotePort)).2, ∀ g' d',
      x.isStored g' d' = true →
      g' = g ∧ d' = d ∧ (checkDevice (c.setting g) d r (c.groups g)).2 = true := by
    intro x hx g' d' hs
    obtain ⟨r', ⟨_, _, _, _, _, he', hr'⟩, hc⟩ := clmStep_stored hx hs
    cases he'
    rw [hr] at hr'
    cases hr'
    exact ⟨rfl, rfl, hc⟩
  rw [clmStep_response unixMs hr hlive] at hstored ⊢
  rw [clmStep_response unixMs hresp (haborted.trans hlive)]
  obtain ⟨⟨k, hk, hmask, hseen⟩, _⟩ := hm.now.handleDeviceResponse now unixMs hread
  refine ⟨k, hm.append hk, ?_⟩
  intro g' d' hg' x hx
  rcases List.mem_append.mp hx with hx | hx
  · exact hold g' d' (hmask g' d' hg') x hx
  · by_contra hs
    obtain ⟨rfl, rfl, hc⟩ := hstored x hx g' d' ((Bool.not_eq_false _).mp hs)
    rw [hseen hc] at hg'
    cases hg'

end

/-! ## runs -/

/-- without statistics and stored header details -/
def GroupData.withoutDetails (gd : GroupData) : GroupData :=
  { gd with slaveDevices := fun d => { gd.slaveDevices d with statistics := .zero, latestFrame := .zero } }

theorem AlikeGroup.withoutDetails {m : Nat → Bool} {gd gd' : GroupData} (h : AlikeGroup m gd gd') :
    gd'.withoutDetails = gd.withoutDetails := by
  obtain ⟨devices, rfl, hd⟩ := h
  unfold GroupData.withoutDetails
  congr 1
  funext d
  obtain ⟨statistics, heq⟩ := hd d
  simp only [heq]

/-- two runs that differ in statistics and stored header details alone -/
structure SameBehaviour (r r' : Clm × List Output) : Prop where
  shared : r'.1.shared = r.1.shared
  aborted : r'.1.aborted = r.1.aborted
  groups : ∀ g, (r'.1.groups g).withoutDetails = (r.1.groups g).withoutDetails
  outputs : observed r'.2 = observed r.2

/-- no response after `c` is handled by a header from before -/
def NeedsNoHeader (c : Clm) (es : List Event) : Prop :=
  ∀ a e b, es = a ++ e :: b → usesOldHeader (master.run c a).1 (master.run c a).2 e = false

/-- both runs start with the same data apart from what the call clears -/
theorem alikeRuns_clear (c : Clm) : AlikeRuns [] (c, []) (clmStep c .statisticsClearAll) := by
  by_cases ha : c.aborted = true
  · rw [show clmStep c .statisticsClearAll = (c, []) from if_pos ha]
    refine ⟨fun _ _ => false, ⟨rfl, rfl, ?_, rfl⟩, fun _ _ h => absurd h Bool.false_ne_true⟩
    intro g
    exact ⟨_, rfl, fun d => ⟨_, rfl⟩⟩
  · rw [show clmStep c .statisticsClearAll = (clmIefbStatisticsClearAll c, []) from if_neg ha,
      clmIefbStatisticsClearAll_eq]
    refine ⟨fun g d => decide (g < c.numGroups ∧ d < (c.setting g).numSlaveDevices.toNat),
      ⟨rfl, rfl, ?_, rfl⟩, fun _ _ _ _ hx => absurd hx List.not_mem_nil⟩
    intro g
    by_cases hg : g < c.numGroups
    · simp only [hg, true_and]
      refine ⟨_, rfl, ?_⟩
      intro d
      simp only
      by_cases hd : d < (c.setting g).numSlaveDevices.toNat
      · rw [if_pos hd, decide_eq_true hd]
        exact ⟨_, rfl⟩
      · rw [if_neg hd, decide_eq_false hd]
        exact ⟨_, rfl⟩
    · simp only [hg, false_and, decide_false]
      exact ⟨_, rfl, fun d => ⟨_, rfl⟩⟩

namespace MasterStart
variable {o : Options} (st : MasterStart o)

/-- **Clearing the statistics**, from every state of every run.  Without a response that is handled
by a cleared header the call changes nothing else. -/
theorem statisticsClearAll_unaffected (es post : List Event)
    (h : NeedsNoHeader (st.run es).1 post) :
    SameBehaviour (master.run (st.run es).1 post)
      (master.run (st.run es).1 (.statisticsClearAll :: post)) := by
  generalize (st.run es).1 = c at h ⊢
  have hout : (master.step c .statisticsClearAll).2 = [] := by
    show (clmStep c .statisticsClearAll).2 = []
    unfold clmStep
    split <;> rfl
  rw [Machine.run_cons, hout, List.nil_append]
  have hruns : AlikeRuns (master.run c post).2 (master.run c post)
      (master.run (master.step c .statisticsClearAll).1 post) := by
    induction post using List.reverseRecOn with
    | nil =>
      have h0 := alikeRuns_clear c
      rw [show clmStep c .statisticsClearAll = ((master.step c .statisticsClearAll).1, []) from
        Prod.ext rfl hout] at h0
      exact h0
    | append_singleton post e ih =>
      have hpost := ih (by
        intro a e' b heq
        refine h a e' (b ++ [e]) ?_
        rw [heq, List.append_assoc, List.cons_append])
      have hstep := hpost.step (h post e [] rfl)
      simp only [Machine.run_append, Machine.run_cons, Machine.run_nil, List.append_nil]
      exact hstep
  obtain ⟨m, hm, _⟩ := hruns
  exact ⟨hm.shared, hm.aborted, fun g => (hm.groups g).withoutDetails, hm.out⟩

/-- the device answers the next request after the call -/
theorem statisticsClearAll_unaffected_example :
    SameBehaviour
      (master.run ((exampleStart false false).run [.exampleTick 5000, .exampleAnswer 5100 0 1 0 0]).1
        [.exampleAnswer 5200 0 1 0 1])
      (master.run ((exampleStart false false).run [.exampleTick 5000, .exampleAnswer 5100 0 1 0 0]).1
        [.statisticsClearAll, .exampleAnswer 5200 0 1 0 1]) := by
  refine (exampleStart false false).statisticsClearAll_unaffected _ _ ?_
  have hone : usesOldHeader
      ((exampleStart false false).run [.exampleTick 5000, .exampleAnswer 5100 0 1 0 0]).1 []
      (.exampleAnswer 5200 0 1 0 1) = false := by decide +kernel
  intro a e b heq
  cases a with
  | nil =>
    obtain ⟨rfl, rfl⟩ := List.cons.inj heq
    exact hone
  | cons x a =>
    obtain ⟨_, hnil⟩ := List.cons.inj heq
    cases a <;> cases hnil

/-- the second copy of an answer is a duplicate, but not after the call -/
theorem clearedDuplicate_accepted :
    ¬ ∀ (o : Options) (st : MasterStart o) (es post : List Event),
      SameBehaviour (master.run (st.run es).1 post)
        (master.run (st.run es).1 (.statisticsClearAll :: post)) := by
  intro h
  have hsame := (h _ (exampleStart false false) [.exampleTick 5000, .exampleAnswer 5100 0 1 0 0]
    [.exampleAnswer 5200 0 1 0 0]).groups 0
  have hstate := congrArg (fun gd : GroupData => (gd.slaveDevices 0).deviceState) hsame
  simp only [GroupData.withoutDetails] at hstate
  revert hstate
  decide +kernel

end MasterStart

end CLink
