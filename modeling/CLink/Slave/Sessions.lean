import CLink.Slave.Responses

/-!
# What a slave holds of its master

The stored connection and the stored RY and RWw areas come from the requests that the slave has
received, and from nothing else.

* `Leaves c c'`        the slave keeps what it holds, or has no control master any more;
* `Held P Q c`         a property of the connection and one of the stored data;
* `TakesOver P Q c r`  request `r` brings only connections and data with these properties;
* `clsStep_held`       the rule for one step: only a valid request can change what is held.
-/

namespace CLink

/-- the connection stays, or there is none any more; the data stays -/
structure Leaves (c c' : Cls) : Prop where
  config : c'.config = c.config
  area : c'.cyclicDataArea = c.cyclicDataArea
  control : c'.state = .masterControl → c.state = .masterControl ∧ c'.master = c.master

namespace Leaves
variable {c c' c'' : Cls} {s t : ClsScope}

theorem refl (c : Cls) : Leaves c c := ⟨rfl, rfl, fun h => ⟨h, rfl⟩⟩

theorem trans (h : Leaves c c') (h' : Leaves c' c'') : Leaves c c'' := by
  refine ⟨h'.config.trans h.config, h'.area.trans h.area, ?_⟩
  intro hc
  obtain ⟨hc', hmaster'⟩ := h'.control hc
  obtain ⟨hc, hmaster⟩ := h.control hc'
  exact ⟨hc, hmaster'.trans hmaster⟩

/-- what comes before does not touch what is held -/
theorem of_same (h : Leaves c' c'') (hconfig : c'.config = c.config)
    (harea : c'.cyclicDataArea = c.cyclicDataArea) (hstate : c'.state = c.state)
    (hmaster : c'.master = c.master) : Leaves c c'' :=
  .trans ⟨hconfig, harea, fun h => ⟨hstate ▸ h, hmaster⟩⟩ h

/-- to a state without a control master -/
theorem left (hconfig : c'.config = c.config) (harea : c'.cyclicDataArea = c.cyclicDataArea)
    (hstate : c'.state ≠ .masterControl) : Leaves c c' :=
  ⟨hconfig, harea, fun h => absurd h hstate⟩

theorem reported (h : Reported s t) : Leaves s.cls t.cls := by
  obtain ⟨a, b, hcls⟩ := h.cls
  rw [hcls]
  exact ⟨rfl, rfl, fun h => ⟨h, rfl⟩⟩

theorem errorFrame (r : CyclicRequest) (endCode : UInt16) (s : ClsScope) :
    Leaves s.cls (clsIefbSendCyclicResponseErrorFrame r endCode s).cls := by
  obtain ⟨_, _, _, hcls⟩ := clsIefbSendCyclicResponseFrame_cls r.frameSequenceNo r.groupNo false
    endCode r.remoteIp r.remotePort r.slaveIpAddr s
  unfold clsIefbSendCyclicResponseErrorFrame
  rw [hcls]
  exact ⟨rfl, rfl, fun h => ⟨h, rfl⟩⟩

end Leaves

/-! ## events without a request -/

section
variable (now : UInt32) (action : Option SlaveAction) (s : ClsScope)

/-- an action without a request touches at most the stored master -/
theorem performOption_noRequest (hne : action ≠ some .slaveInit) :
    let t := (performOption now none action s).1
    t.cls.config = s.cls.config ∧ t.cls.cyclicDataArea = s.cls.cyclicDataArea
      ∧ t.cls.state = s.cls.state := by
  have hclear (t : ClsScope) : (clsIefbClearMasterInfo t).cls.config = t.cls.config
      ∧ (clsIefbClearMasterInfo t).cls.cyclicDataArea = t.cls.cyclicDataArea
      ∧ (clsIefbClearMasterInfo t).cls.state = t.cls.state := by
    rw [clsIefbClearMasterInfo_cls]
    exact ⟨rfl, rfl, rfl⟩
  cases action with
  | none => exact ⟨rfl, rfl, rfl⟩
  | some action =>
    cases action with
    | slaveInit => exact absurd rfl hne
    | onEntryMasterNone | onEntryWaitDisablingSlave => exact hclear s
    | onExitMasterControl | onEntrySlaveDisabled | handleNewOrUpdatedMaster
    | handleWrongStationcount | handleWrongMaster | handleCyclicEvent | handleIncomingWhenDisabled
    | logTimeoutMaster | logIpAddrUpdated | logSlaveDisabled | logSlaveReenabled =>
      exact ⟨rfl, rfl, rfl⟩

end

/-- a row that stays in `MASTER_CONTROL` does nothing without a request -/
theorem performOption_controlStays (now : UInt32) (event : SlaveEvent) (s : ClsScope)
    (hstay : (slaveFsmMatrix .masterControl event).1 = .masterControl) :
    (performOption now none (slaveFsmMatrix .masterControl event).2 s).1 = s := by
  have haction : (slaveFsmMatrix .masterControl event).2 ∈ [none, some .handleCyclicEvent,
      some .handleWrongMaster, some .handleNewOrUpdatedMaster] := by
    revert hstay
    cases event <;> decide
  simp only [List.mem_cons, List.not_mem_nil, or_false] at haction
  rcases haction with h | h | h | h <;> rw [h] <;> rfl

theorem clsIefbFsmEvent_leaves (now : UInt32) (event : SlaveEvent) (hstart : event ≠ .startup)
    (hnew : event ≠ .cyclicNewMaster) (s : ClsScope) :
    Leaves s.cls (clsIefbFsmEvent now none event s).cls := by
  have hinit := slaveFsmMatrix_slaveInit s.cls.state hstart
  have hcontrol : (slaveFsmMatrix s.cls.state event).1 ≠ s.cls.state →
      (slaveFsmMatrix s.cls.state event).1 ≠ .masterControl := slaveFsmMatrix_control hnew
  have hkept (t : ClsScope) := performOption_noRequest now (slaveFsmMatrix s.cls.state event).2 t hinit
  rw [clsIefbFsmEvent_noRequest]
  rcases hm : slaveFsmMatrix s.cls.state event with ⟨next, action⟩
  rw [hm] at hcontrol hkept
  by_cases hne : next = s.cls.state
  · subst hne
    rw [slaveFsmRound_stay now none hm]
    obtain ⟨hconfig, harea, hstate⟩ := hkept s
    refine ⟨hconfig, harea, ?_⟩
    intro hc
    have hs : s.cls.state = .masterControl := hstate.symm.trans hc
    refine ⟨hs, ?_⟩
    rw [hs] at hm
    have hstays := performOption_controlStays now event s (congrArg Prod.fst hm)
    rw [hm] at hstays
    rw [hstays]
  · rw [slaveFsmRound_change now none hm hne]
    have hentry : slaveOnEntry next ≠ some .slaveInit := by
      cases next <;> decide
    obtain ⟨hconfig, harea, hstate⟩ := hkept (s.leaveFor next)
    obtain ⟨hconfig', harea', hstate'⟩ := performOption_noRequest now (slaveOnEntry next)
      (performOption now none action (s.leaveFor next)).1 hentry
    have hleave : (s.leaveFor next).cls = { s.cls with state := next } := by
      unfold ClsScope.leaveFor
      split <;> rfl
    rw [hleave] at hconfig harea hstate
    refine .left (hconfig'.trans hconfig) (harea'.trans harea) ?_
    exact fun h => hcontrol hne ((hstate'.trans hstate).symm.trans h)

theorem clsIefbPeriodic_leaves (now : UInt32) (received : Option Received) (s : ClsScope) :
    Leaves (receiveFrame now received s).cls (clsIefbPeriodic now received s).cls := by
  have htimer (t : ClsScope) : Leaves t.cls (monitorReceiveTimer now t).cls := by
    unfold monitorReceiveTimer
    split
    · have hevent := clsIefbFsmEvent_leaves now .timeoutMaster (by decide) (by decide)
        { t with cls := { t.cls with receiveTimer := clTimerStop t.cls.receiveTimer } }
      exact hevent.of_same rfl rfl rfl rfl
    · exact .refl _
  have htimer' (t : ClsScope) : Leaves t.cls (monitorTimerForDisablingSlave now t).cls := by
    unfold monitorTimerForDisablingSlave
    split
    · have hevent := clsIefbFsmEvent_leaves now .disableSlaveWaitEnded (by decide) (by decide)
        { t with cls := { t.cls with
          timerForDisablingSlave := clTimerStop t.cls.timerForDisablingSlave } }
      exact hevent.of_same rfl rfl rfl rfl
    · exact .refl _
  have h := (htimer (receiveFrame now received s)).trans (htimer' _)
  exact h.trans ⟨rfl, rfl, fun h => ⟨h, rfl⟩⟩

/-- everything but a datagram -/
theorem clsHandle_leaves {e : ClsEvent} (he : ∀ now v, e ≠ .periodic now (some v)) (s : ClsScope) :
    Leaves s.cls (clsHandle e s).cls := by
  cases e with
  | periodic now received =>
    cases received with
    | none => exact clsIefbPeriodic_leaves now none s
    | some v => exact absurd rfl (he now v)
  | disableSlave now isError =>
    have hevent := clsIefbFsmEvent_leaves now .disableSlave (by decide) (by decide)
      { s with cls := { s.cls with endcodeSlaveDisabled :=
        if isError then endcodeSlaveError else endcodeSlaveRequestsDisconnect } }
    exact hevent.of_same rfl rfl rfl rfl
  | reenableSlave now => exact clsIefbFsmEvent_leaves now .reenableSlave (by decide) (by decide) s
  | setRxBit number value =>
    show Leaves _ (clsIefbSetRxBit number value s).cls
    unfold clsIefbSetRxBit
    simp only
    split <;> exact ⟨rfl, rfl, fun h => ⟨h, rfl⟩⟩
  | setRwrValue number value =>
    show Leaves _ (clsIefbSetRwrValue number value s).cls
    unfold clsIefbSetRwrValue
    simp only
    split <;> exact ⟨rfl, rfl, fun h => ⟨h, rfl⟩⟩
  | setLocalManagementInfo | setSlaveApplicationStatus | setSlaveErrorCode | writeMemoryArea =>
    exact ⟨rfl, rfl, fun h => ⟨h, rfl⟩⟩

/-! ## the rule -/

/-- `P` holds of the connection to a control master, `Q` of the stored data -/
structure Held (P : ClsConfig → MasterConnection → Prop) (Q : ClsMemoryArea → Prop) (c : Cls) :
    Prop where
  control : c.state = .masterControl → P c.config c.master
  area : Q c.cyclicDataArea

/-- the slice of request `r` from station `q` on, if its bit is on -/
def Slice (r : CyclicRequest) (q : UInt16) (n : Nat) (area : ClsMemoryArea) : Prop :=
  ∀ k, k < n → area.ry k = (if r.bit q then r.ry (q.toNat - 1 + k) else .zero)
    ∧ area.rww k = if r.bit q then r.rww (q.toNat - 1 + k) else .zero

structure TakesOver (P : ClsConfig → MasterConnection → Prop) (Q : ClsMemoryArea → Prop) (c : Cls)
    (r : CyclicRequest) : Prop where
  clock : ∀ (m : MasterConnection) clockInfo clockInfoValid, P c.config m →
    P c.config { m with clockInfo := clockInfo, clockInfoValid := clockInfoValid }
  connects : ∀ q (m : MasterConnection), FoundStation r q c.config.numOccupiedStations →
    P c.config ({ m with slaveStationNo := q }.update r)
  stores : ∀ (m : MasterConnection) area, P c.config m → OwnStation r m.slaveStationNo →
    Slice r m.slaveStationNo c.config.numOccupiedStations.toNat area →
    (∀ k, c.config.numOccupiedStations.toNat ≤ k → area.ry k = .zero ∧ area.rww k = .zero) → Q area

section
variable {P : ClsConfig → MasterConnection → Prop} {Q : ClsMemoryArea → Prop} {c c' : Cls}
  {s t : ClsScope} (now : UInt32) {r : CyclicRequest} {v : Received}

theorem Held.leaves (h : Held P Q c) (hl : Leaves c c') : Held P Q c' := by
  refine ⟨?_, hl.area ▸ h.area⟩
  intro hc
  obtain ⟨hc, hmaster⟩ := hl.control hc
  rw [hmaster, hl.config]
  exact h.control hc

/-- the cyclic event of a slave that is connected -/
theorem Held.cyclicEvent (h : Held P Q s.cls) (hf : Frames s.cls) (ht : TakesOver P Q s.cls r)
    (hc : s.cls.state = .masterControl) (hown : OwnStation r s.cls.master.slaveStationNo) :
    Held P Q (clsIefbHandleCyclicEvent now r s).1.cls := by
  rcases clsIefbHandleCyclicEvent_cases now r s with heq | ⟨area, hcopy, heq⟩
  · rw [heq]
    exact h
  · obtain ⟨_, _, _, hcls⟩ := answerRequest_cls now r (clsTransmissionBit s.cls r)
      (s.storeCyclicData r area)
    obtain ⟨_, hslice⟩ := clsIefbCopyCyclicDataFromRequest_some hf.stations hcopy
    rw [heq, hcls]
    refine ⟨?_, ?_⟩
    · intro hc
      exact ht.clock _ _ _ (h.control hc)
    · exact ht.stores _ area (h.control hc) hown hslice (hf.copy (r := r) hcopy).area

theorem Held.handled (h : Held P Q s.cls) (hf : Frames s.cls) (hr : r.Valid v)
    (ht : TakesOver P Q s.cls r) (hh : Handled now r s t) : Held P Q t.cls := by
  cases hh with
  | dropped hrep => exact h.leaves (.reported hrep)
  | refused hrep _ => exact h.leaves ((Leaves.reported hrep).trans (.errorFrame ..))
  | @disconnected t q hrep hc _ =>
    have hreported := Leaves.reported hrep
    have hframe := Leaves.errorFrame r endcodeWrongNumberOccupiedStations (t.leaveFor .masterNone)
    have hleave : (t.leaveFor .masterNone).cls = { t.cls with state := .masterNone } := by
      unfold ClsScope.leaveFor
      split <;> rfl
    rw [hleave] at hframe
    have hstate : (clsIefbHandleWrongStationcount r (t.leaveFor .masterNone)).1.cls.state
        ≠ .masterControl := by
      intro hcontrol
      cases (hframe.control hcontrol).1
    refine h.leaves (hreported.trans (.left ?_ ?_ ?_))
    · show (clsIefbClearMasterInfo _).cls.config = _
      rw [clsIefbClearMasterInfo_cls]
      exact hframe.config
    · show (clsIefbClearMasterInfo _).cls.cyclicDataArea = _
      rw [clsIefbClearMasterInfo_cls]
      exact hframe.area
    · show (clsIefbClearMasterInfo _).cls.state ≠ _
      rw [clsIefbClearMasterInfo_cls]
      exact hstate
  | correctMaster hc _ hown => exact h.cyclicEvent now hf ht hc hown
  | updatedMaster q hc _ hq _ =>
    obtain ⟨period, hcls⟩ := clsIefbHandleNewOrUpdatedMaster_cls now r (s.storeStation q)
    have hstore : Frames (s.storeStation q).cls := hf.same ⟨rfl, rfl, rfl, rfl, rfl⟩
    refine Held.cyclicEvent now ?_ (hstore.newOrUpdatedMaster now) ?_ ?_ ?_
    · rw [hcls]
      exact ⟨fun _ => ht.connects q s.cls.master hq, h.area⟩
    · rw [hcls]
      exact ⟨ht.clock, ht.connects, ht.stores⟩
    · rw [hcls]
      exact hc
    · rw [hcls]
      exact hq.own hr
  | newMaster q hc hq _ =>
    obtain ⟨period, hcls⟩ := clsIefbHandleNewOrUpdatedMaster_cls now r
      ((s.storeStation q).leaveFor .masterControl)
    have hleave : ((s.storeStation q).leaveFor .masterControl).cls
        = { (s.storeStation q).cls with state := .masterControl } := by
      unfold ClsScope.leaveFor
      split <;> rfl
    have hstore : Frames (s.storeStation q).cls := hf.same ⟨rfl, rfl, rfl, rfl, rfl⟩
    rw [hleave] at hcls
    refine Held.cyclicEvent now ?_ ((hstore.leaveFor _).newOrUpdatedMaster now) ?_ ?_ ?_
    · show Held P Q (clsIefbHandleNewOrUpdatedMaster ..).1.cls
      rw [hcls]
      exact ⟨fun _ => ht.connects q s.cls.master hq, h.area⟩
    · show TakesOver P Q (clsIefbHandleNewOrUpdatedMaster ..).1.cls r
      rw [hcls]
      exact ⟨ht.clock, ht.connects, ht.stores⟩
    · show (clsIefbHandleNewOrUpdatedMaster ..).1.cls.state = _
      rw [hcls]
    · show OwnStation r (clsIefbHandleNewOrUpdatedMaster ..).1.cls.master.slaveStationNo
      rw [hcls]
      exact hq.own hr

/-- **What a slave holds changes with valid requests only.** -/
theorem clsStep_held (h : Held P Q c) (hf : Frames c) {e : ClsEvent}
    (ht : ∀ now v r, e = .periodic now (some v) → v.cyclicRequest = some r → TakesOver P Q c r) :
    Held P Q (clsStep c e).1 := by
  unfold clsStep
  split
  · exact h
  by_cases he : ∃ now v, e = .periodic now (some v)
  · obtain ⟨now, v, rfl⟩ := he
    have hleaves := clsIefbPeriodic_leaves now (some v) ⟨c, []⟩
    refine Held.leaves ?_ hleaves
    rw [receiveFrame_out, clsIefbHandleInputFrame_eq]
    cases hv : v.cyclicRequest with
    | none => exact h
    | some r =>
      exact Held.handled now (s := ⟨c, []⟩) h hf (Received.cyclicRequest_valid hv) (ht now v r rfl hv)
        (handleCyclicRequest_handled now)
  · exact h.leaves (clsHandle_leaves (fun now v heq => he ⟨now, v, heq⟩) ⟨c, []⟩)

end

end CLink
