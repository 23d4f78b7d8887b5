import CLink.Slave.Effects

/-!
# The response buffers and the stored data

Both response buffers keep the layout and the fixed header fields of the configuration, the data of
the error buffer is zero, and nothing is ever stored beyond the own stations.

* `Frames`                    this invariant;
* `clsHandle_frames`          every event keeps it;
* `SlaveStart.run_frames`     it holds after every run;
* `Refusal.valid`             the end code of an error frame passes the assertion.
-/

namespace CLink
open Loop

/-- the frame of the configuration, as `cl_iefb_initialise_cyclic_response_frame` makes it -/
def ClsConfig.responseFrame (config : ClsConfig) : ResponseFrame :=
  clIefbInitialiseCyclicResponseFrame config.numOccupiedStations config.vendorCode config.modelCode
    config.equipmentVer

/-- the buffers and the stored data -/
structure Frames (c : Cls) : Prop where
  stations : 1 ≤ c.config.numOccupiedStations.toNat ∧ c.config.numOccupiedStations.toNat ≤ 16
  normal : c.cciefbRespFrameNormal.Layout c.config.numOccupiedStations.toNat
  error : c.cciefbRespFrameError.Layout c.config.numOccupiedStations.toNat
  errorRwr : c.cciefbRespFrameError.rwr = fun _ => .zero
  errorRx : c.cciefbRespFrameError.rx = fun _ => .zero
  endcode : c.endcodeSlaveDisabled = endcodeSlaveError
    ∨ c.endcodeSlaveDisabled = endcodeSlaveRequestsDisconnect
  area : ∀ k, c.config.numOccupiedStations.toNat ≤ k →
    c.cyclicDataArea.ry k = .zero ∧ c.cyclicDataArea.rww k = .zero
  normalHeaders : c.cciefbRespFrameNormal.template.fullHeaders
    = c.config.responseFrame.template.fullHeaders
  errorHeaders : c.cciefbRespFrameError.template.fullHeaders
    = c.config.responseFrame.template.fullHeaders

/-! ## the actions -/

/-- the fields of `Frames` -/
structure SameFrames (c c' : Cls) : Prop where
  config : c'.config = c.config
  normal : c'.cciefbRespFrameNormal = c.cciefbRespFrameNormal
  error : c'.cciefbRespFrameError = c.cciefbRespFrameError
  endcode : c'.endcodeSlaveDisabled = c.endcodeSlaveDisabled
  area : c'.cyclicDataArea = c.cyclicDataArea

namespace Frames
variable {c c' : Cls} {s t : ClsScope} (now : UInt32) {r : CyclicRequest} {v : Received}

theorem same (h : Frames c) (hs : SameFrames c c') : Frames c' := by
  obtain ⟨h1, h2, h3, h4, h5, h6, h7, h8, h9⟩ := h
  refine ⟨?_, ?_, ?_, ?_, ?_, ?_, ?_, ?_, ?_⟩
  · rwa [hs.config]
  · rwa [hs.normal, hs.config]
  · rwa [hs.error, hs.config]
  · rwa [hs.error]
  · rwa [hs.error]
  · rwa [hs.endcode]
  · rwa [hs.config, hs.area]
  · rwa [hs.normal, hs.config]
  · rwa [hs.error, hs.config]

theorem reported (h : Frames s.cls) (hr : Reported s t) : Frames t.cls := by
  obtain ⟨a, b, hcls⟩ := hr.cls
  rw [hcls]
  exact h.same ⟨rfl, rfl, rfl, rfl, rfl⟩

theorem send (h : Frames s.cls) (frameSequenceNo groupNo : UInt16) (includeData : Bool)
    (endCode : UInt16) (remoteIp : IpAddr) (remotePort : UInt16) (slaveIpAddr : IpAddr) :
    Frames (clsIefbSendCyclicResponseFrame frameSequenceNo groupNo includeData endCode remoteIp
      remotePort slaveIpAddr s).cls := by
  unfold clsIefbSendCyclicResponseFrame
  split
  · exact h.same ⟨rfl, rfl, rfl, rfl, rfl⟩
  obtain ⟨h1, ⟨hn1, hn2, hn3⟩, ⟨he1, he2, he3⟩, h4, h5, h6, h7, h8, h9⟩ := h
  cases includeData with
  | true => exact ⟨h1, ⟨hn1, hn2, hn3⟩, ⟨he1, he2, he3⟩, h4, h5, h6, h7, h8, h9⟩
  | false => exact ⟨h1, ⟨hn1, hn2, hn3⟩, ⟨he1, he2, he3⟩, h4, h5, h6, h7, h8, h9⟩

theorem leaveFor (h : Frames s.cls) (next : SlaveState) : Frames (s.leaveFor next).cls := by
  unfold ClsScope.leaveFor
  split <;> exact h.same ⟨rfl, rfl, rfl, rfl, rfl⟩

theorem clearMasterInfo (h : Frames s.cls) : Frames (clsIefbClearMasterInfo s).cls := by
  rw [clsIefbClearMasterInfo_cls]
  exact h.same ⟨rfl, rfl, rfl, rfl, rfl⟩

theorem newOrUpdatedMaster (h : Frames s.cls) :
    Frames (clsIefbHandleNewOrUpdatedMaster now r s).1.cls := by
  obtain ⟨period, hcls⟩ := clsIefbHandleNewOrUpdatedMaster_cls now r s
  rw [hcls]
  exact h.same ⟨rfl, rfl, rfl, rfl, rfl⟩

/-- the copy leaves the areas beyond the own stations alone -/
theorem copy (h : Frames s.cls) {startNumber : UInt16} {bit : Bool} {area : ClsMemoryArea}
    (hcopy : clsIefbCopyCyclicDataFromRequest s.cls r startNumber bit = some area) :
    Frames (s.storeCyclicData r area).cls := by
  have harea : ∀ k, s.cls.config.numOccupiedStations.toNat ≤ k →
      area.ry k = .zero ∧ area.rww k = .zero := by
    intro k hk
    have hout : k < 0 ∨ 0 + s.cls.config.numOccupiedStations.toNat ≤ k := Or.inr (by omega)
    unfold clsIefbCopyCyclicDataFromRequest at hcopy
    simp only at hcopy
    split at hcopy
    · cases hcopy
    split at hcopy
    · cases hcopy
    split at hcopy
    · cases hcopy
    split at hcopy
    · split at hcopy
      · obtain rfl := Option.some.inj hcopy
        simp only [blit_out hout]
        exact h.area k hk
      · obtain rfl := Option.some.inj hcopy
        simp only [blit_out hout]
        exact h.area k hk
    · cases hcopy
  exact ⟨h.stations, h.normal, h.error, h.errorRwr, h.errorRx, h.endcode, harea, h.normalHeaders,
    h.errorHeaders⟩

theorem cyclicEvent (h : Frames s.cls) : Frames (clsIefbHandleCyclicEvent now r s).1.cls := by
  rcases clsIefbHandleCyclicEvent_cases now r s with heq | ⟨area, hcopy, heq⟩
  · rw [heq]
    exact h
  · have hcall : Frames (clsIefbHandleMasterStateCallback true r.protocolVer r.masterLocalUnitInfo
        (s.storeCyclicData r area)).cls := by
      rw [clsIefbHandleMasterStateCallback_cls]
      exact (h.copy hcopy).same ⟨rfl, rfl, rfl, rfl, rfl⟩
    rw [heq]
    exact (hcall.send r.frameSequenceNo r.groupNo (clsTransmissionBit s.cls r) endcodeSuccess
      r.remoteIp r.remotePort r.slaveIpAddr).same ⟨rfl, rfl, rfl, rfl, rfl⟩

theorem handled (h : Frames s.cls) (ht : Handled now r s t) : Frames t.cls := by
  cases ht with
  | dropped hrep => exact h.reported hrep
  | refused hrep _ => exact (h.reported hrep).send ..
  | disconnected hrep _ _ => exact (((h.reported hrep).leaveFor _).send ..).clearMasterInfo
  | correctMaster _ _ _ => exact h.cyclicEvent now
  | updatedMaster q _ _ _ _ =>
    have hstore : Frames (s.storeStation q).cls := h.same ⟨rfl, rfl, rfl, rfl, rfl⟩
    exact (hstore.newOrUpdatedMaster now).cyclicEvent now
  | newMaster q _ _ _ =>
    have hstore : Frames (s.storeStation q).cls := h.same ⟨rfl, rfl, rfl, rfl, rfl⟩
    have hconnect := (hstore.leaveFor .masterControl).newOrUpdatedMaster now (r := r)
    exact cyclicEvent now (s := ClsScope.emit _ (.stateCb .masterControl)) hconnect

theorem inputFrame (h : Frames s.cls) (v : Received) :
    Frames (clsIefbHandleInputFrame now v s).1.cls := by
  rw [clsIefbHandleInputFrame_eq]
  cases hv : v.cyclicRequest with
  | none => exact h
  | some r => exact h.handled now (handleCyclicRequest_handled now)

/-- an action without a request only clears the master and the timers -/
theorem performOption (h : Frames s.cls) (action : Option SlaveAction)
    (hne : action ≠ some .slaveInit) : Frames (performOption now none action s).1.cls := by
  cases action with
  | none => exact h
  | some action =>
    cases action with
    | slaveInit => exact absurd rfl hne
    | onEntryMasterNone => exact h.clearMasterInfo
    | onExitMasterControl => exact h
    | onEntryWaitDisablingSlave => exact h.clearMasterInfo.same ⟨rfl, rfl, rfl, rfl, rfl⟩
    | onEntrySlaveDisabled => exact h.same ⟨rfl, rfl, rfl, rfl, rfl⟩
    | handleNewOrUpdatedMaster | handleWrongStationcount | handleWrongMaster | handleCyclicEvent
    | handleIncomingWhenDisabled | logTimeoutMaster | logIpAddrUpdated | logSlaveDisabled
    | logSlaveReenabled => exact h

end Frames

theorem slaveFsmMatrix_slaveInit (state : SlaveState) {event : SlaveEvent} (he : event ≠ .startup) :
    (slaveFsmMatrix state event).2 ≠ some .slaveInit := by
  revert he
  cases state <;> cases event <;> decide

namespace Frames
variable {s : ClsScope} (now : UInt32)

/-- an event without a request -/
theorem fsmEvent (h : Frames s.cls) {event : SlaveEvent} (he : event ≠ .startup) :
    Frames (clsIefbFsmEvent now none event s).cls := by
  have hexit : ∀ state, slaveOnExit state ≠ some .slaveInit := by
    intro state
    cases state <;> decide
  have hentry : ∀ state, slaveOnEntry state ≠ some .slaveInit := by
    intro state
    cases state <;> decide
  rw [clsIefbFsmEvent_noRequest]
  -- the exit action, the transition with its action, the entry action
  unfold slaveFsmRound
  simp only
  have hleft : Frames (if (decide ((slaveFsmMatrix s.cls.state event).1 ≠ s.cls.state)) = true then
      (CLink.performOption now none (slaveOnExit s.cls.state) s).1 else s).cls := by
    split
    · exact h.performOption now _ (hexit _)
    · exact h
  generalize (if (decide ((slaveFsmMatrix s.cls.state event).1 ≠ s.cls.state)) = true then
      (CLink.performOption now none (slaveOnExit s.cls.state) s).1 else s) = t at hleft ⊢
  have hentered : Frames ({ t with cls := { t.cls with
      state := (slaveFsmMatrix s.cls.state event).1 } } : ClsScope).cls :=
    hleft.same ⟨rfl, rfl, rfl, rfl, rfl⟩
  have hacted := hentered.performOption now _ (slaveFsmMatrix_slaveInit s.cls.state he)
  split
  · exact hacted.performOption now _ (hentry _)
  · exact hacted

theorem receiveFrame (h : Frames s.cls) (received : Option Received) :
    Frames (receiveFrame now received s).cls := by
  unfold CLink.receiveFrame
  cases received with
  | none => exact h
  | some v =>
    simp only
    split
    · exact h.inputFrame now v
    · exact h

theorem periodic (h : Frames s.cls) (received : Option Received) :
    Frames (clsIefbPeriodic now received s).cls := by
  have htimer {t : ClsScope} (ht : Frames t.cls) : Frames (monitorReceiveTimer now t).cls := by
    unfold monitorReceiveTimer
    split
    · refine fsmEvent now ?_ (by decide)
      exact ht.same ⟨rfl, rfl, rfl, rfl, rfl⟩
    · exact ht
  have htimer' {t : ClsScope} (ht : Frames t.cls) :
      Frames (monitorTimerForDisablingSlave now t).cls := by
    unfold monitorTimerForDisablingSlave
    split
    · refine fsmEvent now ?_ (by decide)
      exact ht.same ⟨rfl, rfl, rfl, rfl, rfl⟩
    · exact ht
  exact (htimer' (htimer (h.receiveFrame now received))).same ⟨rfl, rfl, rfl, rfl, rfl⟩

theorem setRxBit (h : Frames s.cls) (number : UInt16) (value : Bool) :
    Frames (clsIefbSetRxBit number value s).cls := by
  unfold clsIefbSetRxBit
  simp only
  split
  · exact h.same ⟨rfl, rfl, rfl, rfl, rfl⟩
  · obtain ⟨h1, ⟨hn1, hn2, hn3⟩, h3, h4, h5, h6, h7, h8, h9⟩ := h
    exact ⟨h1, ⟨hn1, hn2, hn3⟩, h3, h4, h5, h6, h7, h8, h9⟩

theorem setRwrValue (h : Frames s.cls) (number value : UInt16) :
    Frames (clsIefbSetRwrValue number value s).cls := by
  unfold clsIefbSetRwrValue
  simp only
  split
  · exact h.same ⟨rfl, rfl, rfl, rfl, rfl⟩
  · obtain ⟨h1, ⟨hn1, hn2, hn3⟩, h3, h4, h5, h6, h7, h8, h9⟩ := h
    exact ⟨h1, ⟨hn1, hn2, hn3⟩, h3, h4, h5, h6, h7, h8, h9⟩

end Frames

theorem clsHandle_frames {s : ClsScope} (h : Frames s.cls) (e : ClsEvent) :
    Frames (clsHandle e s).cls := by
  cases e with
  | periodic now received => exact h.periodic now received
  | disableSlave now isError =>
    have hcode : Frames { s.cls with endcodeSlaveDisabled :=
        if isError then endcodeSlaveError else endcodeSlaveRequestsDisconnect } := by
      obtain ⟨h1, h2, h3, h4, h5, _, h7, h8, h9⟩ := h
      refine ⟨h1, h2, h3, h4, h5, ?_, h7, h8, h9⟩
      cases isError with
      | true => exact Or.inl rfl
      | false => exact Or.inr rfl
    exact Frames.fsmEvent now (s := ⟨_, s.out⟩) hcode SlaveEvent.noConfusion
  | reenableSlave now => exact h.fsmEvent now SlaveEvent.noConfusion
  | setRxBit number value => exact h.setRxBit number value
  | setRwrValue number value => exact h.setRwrValue number value
  | setLocalManagementInfo | setSlaveApplicationStatus | setSlaveErrorCode =>
    exact h.same ⟨rfl, rfl, rfl, rfl, rfl⟩
  | writeMemoryArea rx rwr =>
    obtain ⟨h1, ⟨hn1, hn2, hn3⟩, h3, h4, h5, h6, h7, h8, h9⟩ := h
    exact ⟨h1, ⟨hn1, hn2, hn3⟩, h3, h4, h5, h6, h7, h8, h9⟩

theorem clsStep_frames {c : Cls} (h : Frames c) (e : ClsEvent) : Frames (clsStep c e).1 := by
  unfold clsStep
  split
  · exact h
  · exact clsHandle_frames (s := ⟨c, []⟩) h e

/-! ## the start and the runs -/

namespace SlaveStart
variable {o : Options} (st : SlaveStart o)

theorem init_eq : ∃ c : Cls, c.config = st.vc.cfg ∧ Frames c
    ∧ st.init = ⟨{ c with
        master := .zero
        state := .masterNone
        receiveTimer := .zero
        timerForDisablingSlave := .zero
        triggerData := ⟨true, false, 0, 0⟩
        aborted := false }, [.masterRunningCb false false false 0 0, .stateCb .masterNone]⟩ := by
  have hlayout := layout_initialiseResponse st.vc.cfg.numOccupiedStations st.vc.cfg.vendorCode
    st.vc.cfg.modelCode st.vc.cfg.equipmentVer
  refine ⟨st.init.cls, ?_, ?_, ?_⟩
  · unfold init clsIefbInit clsFsmInit
    rw [clsIefbFsmEvent_startup _ _ rfl]
    rfl
  · unfold init clsIefbInit clsFsmInit
    rw [clsIefbFsmEvent_startup _ _ rfl]
    exact ⟨st.vc.stations, hlayout, hlayout, rfl, rfl, Or.inr rfl, fun _ _ => ⟨rfl, rfl⟩, rfl, rfl⟩
  · unfold init clsIefbInit clsFsmInit
    rw [clsIefbFsmEvent_startup _ _ rfl]
    rfl

theorem run_frames (es : List ClsEvent) : Frames (st.run es).1 := by
  have h0 : Frames st.init.cls := by
    obtain ⟨c, _, hc, heq⟩ := st.init_eq
    rw [heq]
    exact hc.same ⟨rfl, rfl, rfl, rfl, rfl⟩
  refine slave.run_state_inv (c := fun _ _ => True) (I := Frames) ?_ h0
    (.of_all _ (fun _ _ => trivial) _ es)
  intro c e h _
  exact clsStep_frames h e

end SlaveStart

/-- `CC_ASSERT (cl_is_slave_endcode_valid (end_code))` holds for every refusal -/
theorem Refusal.valid {c : Cls} {r : CyclicRequest} {endCode : UInt16} (h : Refusal c r endCode)
    (hf : Frames c) : clIsSlaveEndcodeValid endCode = true := by
  cases h with
  | wrongMaster => rfl
  | wrongStationcount => rfl
  | disabled =>
    rcases hf.endcode with h | h <;> rw [h] <;> rfl

end CLink
