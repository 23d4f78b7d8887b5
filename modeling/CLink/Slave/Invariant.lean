import CLink.Slave.Frames

/-!
# The invariant of the slave

`SlaveInv` relates the state to the stored master and the timers, `Tracks` and `ReportsChanges` are
about the callbacks of a whole run.

* `Tracks.goTo`               one transition, with the disconnect callback where it belongs;
* `clsIefbHandleMasterStateCallback_reports`   the callback is called on every change and only then;
* `Steady`                    the three together;
* `clsHandle_steady`          every event keeps them;
* `SlaveStart.run_steady`     they hold after every run;
* `SlaveStart.stateInvariant` what they say.
-/

namespace CLink
open Loop

/-! ## the outputs of interest -/

/-- the callbacks that tell the transitions of the state machine -/
def ClsOutput.isTransition : ClsOutput → Bool
  | stateCb _ => true
  | disconnectCb => true
  | _ => false

def ClsOutput.isReport : ClsOutput → Bool
  | masterRunningCb .. => true
  | _ => false

def ClsOutput.isResponse : ClsOutput → Bool
  | sendResponse .. => true
  | _ => false

/-- the transitions of a run, from `SLAVE_DOWN` on -/
def transitionsOf (out : List ClsOutput) : List ClsOutput :=
  .stateCb .slaveDown :: out.filter ClsOutput.isTransition

/-- `y` after `x`: the disconnect callback follows the state callback of `MASTER_CONTROL` and nothing
else, and a different state follows it -/
def LeavesControl (x y : ClsOutput) : Prop :=
  (y = .disconnectCb ↔ x = .stateCb .masterControl)
    ∧ (x = .disconnectCb → ∃ state, y = .stateCb state ∧ state ≠ .masterControl)

/-- the callbacks tell the state: a disconnect callback exactly when `MASTER_CONTROL` is left -/
structure Tracks (out : List ClsOutput) (state : SlaveState) : Prop where
  chain : (transitionsOf out).IsChain LeavesControl
  last : (transitionsOf out).getLast? = some (.stateCb state)

/-- the arguments of the latest call of the master state callback -/
def CallbackTriggerData.report (d : CallbackTriggerData) : ClsOutput :=
  clsIefbFilterMasterStateCallbackValues d.previousConnectedToMaster d.previousProtocolVer
    d.previousMasterApplicationStatus

/-- the master state callback was called with different arguments each time, the last time with the
stored ones -/
structure ReportsChanges (out : List ClsOutput) (d : CallbackTriggerData) : Prop where
  chain : (out.filter ClsOutput.isReport).IsChain (· ≠ ·)
  last : (out.filter ClsOutput.isReport).getLast? = if d.executedBefore then some d.report else none
  off : d.previousConnectedToMaster = false →
    d.previousProtocolVer = 0 ∧ d.previousMasterApplicationStatus = 0

/-! ## the state at rest -/

structure SlaveInv (c : Cls) : Prop where
  notDown : c.state ≠ .slaveDown
  cleared : c.state ≠ .masterControl → c.master = .zero ∧ c.receiveTimer.state = .stopped
  control : c.state = .masterControl → c.master.masterId ≠ ipaddrInvalid
    ∧ (1 ≤ c.master.slaveStationNo.toNat ∧ c.master.slaveStationNo.toNat ≤ 16)
    ∧ c.receiveTimer.state = .running
  disabling : c.timerForDisablingSlave.state = .running ↔ c.state = .waitDisablingSlave
  executed : c.triggerData.executedBefore = true
  connected : c.triggerData.previousConnectedToMaster = true ↔ c.state = .masterControl

theorem Timer.not_running {timer : Timer} : timer.state ≠ .running ↔ timer.state = .stopped := by
  cases h : timer.state <;> simp

theorem clTimerRestart_state (timer : Timer) (now : UInt32) :
    (clTimerRestart timer now).state = timer.state := by
  unfold clTimerRestart
  split
  · rfl
  · rfl

/-! ## the stored master and the timers -/

theorem SlaveInv.kept {c c' : Cls} (h : SlaveInv c) (hk : Kept c c') : SlaveInv c' := by
  obtain ⟨h1, h2, h3, h4, h5, h6⟩ := h
  refine ⟨?_, ?_, ?_, ?_, ?_, ?_⟩
  · rwa [hk.state]
  · rwa [hk.state, hk.master, hk.receiveTimer]
  · rwa [hk.state, hk.master, hk.receiveTimer]
  · rwa [hk.state, hk.timerForDisablingSlave]
  · rwa [hk.triggerData]
  · rwa [hk.triggerData, hk.state]

section
variable (now : UInt32) {r : CyclicRequest} {s : ClsScope}

theorem SlaveInv.answerRequest (h : SlaveInv s.cls) (hc : s.cls.state = .masterControl)
    (area : ClsMemoryArea) (bit : Bool) :
    SlaveInv (answerRequest now r bit (s.storeCyclicData r area)).cls := by
  obtain ⟨normal, error, aborted, hcls⟩ := answerRequest_cls now r bit (s.storeCyclicData r area)
  obtain ⟨hid, hstation, htimer⟩ := h.control hc
  rw [hcls]
  refine ⟨h.notDown, fun hn => absurd hc hn, fun _ => ⟨hid, hstation, ?_⟩, h.disabling, rfl, ?_⟩
  · exact (clTimerRestart_state _ now).trans htimer
  · exact ⟨fun _ => hc, fun _ => rfl⟩

theorem SlaveInv.newOrUpdatedMaster (hc : s.cls.state = .masterControl)
    (hid : r.masterId ≠ ipaddrInvalid)
    (hstation : 1 ≤ s.cls.master.slaveStationNo.toNat ∧ s.cls.master.slaveStationNo.toNat ≤ 16)
    (htimer : s.cls.timerForDisablingSlave.state = .stopped) :
    SlaveInv (clsIefbHandleNewOrUpdatedMaster now r s).1.cls := by
  obtain ⟨period, hcls⟩ := clsIefbHandleNewOrUpdatedMaster_cls now r s
  have hdown : s.cls.state ≠ .slaveDown := by
    rw [hc]
    decide
  have hwait : s.cls.state ≠ .waitDisablingSlave := by
    rw [hc]
    decide
  rw [hcls]
  refine ⟨hdown, fun hn => absurd hc hn, fun _ => ⟨hid, hstation, rfl⟩, ?_, rfl, ?_⟩
  · rw [htimer]
    exact ⟨fun h => (nomatch h), fun h => absurd h hwait⟩
  · exact ⟨fun _ => hc, fun _ => rfl⟩

/-- on entry to `MASTER_NONE` -/
theorem SlaveInv.clearMasterInfo (h : s.cls.state = .masterNone) :
    SlaveInv (clsIefbClearMasterInfo s).cls := by
  rw [clsIefbClearMasterInfo_cls]
  refine ⟨?_, fun _ => ⟨rfl, rfl⟩, ?_, ?_, rfl, ?_⟩ <;> simp only [h, clTimerStop] <;> decide

theorem SlaveInv.waitDisablingSlave (h : s.cls.state = .waitDisablingSlave) :
    SlaveInv (clsIefbOnEntryWaitDisablingSlave now s).cls := by
  simp only [clsIefbOnEntryWaitDisablingSlave, clsIefbClearMasterInfo_cls]
  refine ⟨?_, fun _ => ⟨rfl, rfl⟩, ?_, ?_, rfl, ?_⟩ <;>
    simp only [h, clTimerStart, clTimerStop] <;> decide

/-- on entry to `SLAVE_DISABLED`, from a state without a master -/
theorem SlaveInv.slaveDisabled (h : SlaveInv s.cls) (hc : s.cls.state ≠ .masterControl) :
    SlaveInv (clsIefbOnEntrySlaveDisabled (s.leaveFor .slaveDisabled)).cls := by
  have hcls : (s.leaveFor .slaveDisabled).cls = { s.cls with state := .slaveDisabled } := by
    simp only [ClsScope.leaveFor, if_neg hc]
  have hoff : s.cls.triggerData.previousConnectedToMaster ≠ true := fun ht => hc (h.connected.mp ht)
  simp only [clsIefbOnEntrySlaveDisabled, hcls]
  refine ⟨?_, fun _ => h.cleared hc, ?_, ?_, h.executed, ?_⟩
  · exact SlaveState.noConfusion
  · exact SlaveState.noConfusion
  · exact ⟨TimerState.noConfusion, SlaveState.noConfusion⟩
  · exact ⟨fun hn => absurd hn hoff, SlaveState.noConfusion⟩

end

/-! ## the callbacks -/

section
variable {hist : List ClsOutput} {s t : ClsScope} {state : SlaveState}

theorem Tracks.adds (h : Tracks (hist ++ s.out) state) (ha : Adds ClsOutput.isTransition s t) :
    Tracks (hist ++ t.out) state := by
  have heq : transitionsOf (hist ++ t.out) = transitionsOf (hist ++ s.out) := by
    unfold transitionsOf
    rw [ha.filter hist]
  exact ⟨heq ▸ h.chain, heq ▸ h.last⟩

/-- one more transition in the list -/
theorem Tracks.concat {out : List ClsOutput} {x : ClsOutput} (hx : x.isTransition = true) :
    transitionsOf (out ++ [x]) = transitionsOf out ++ [x] := by
  unfold transitionsOf
  rw [List.filter_append, List.filter_cons, if_pos hx, List.filter_nil, List.cons_append]

theorem isChain_concat {R : ClsOutput → ClsOutput → Prop} {l : List ClsOutput} {x y : ClsOutput}
    (h : l.IsChain R) (hlast : l.getLast? = some x) (hR : R x y) : (l ++ [y]).IsChain R := by
  refine h.append (.singleton y) ?_
  intro a ha b hb
  rw [hlast] at ha
  obtain rfl := Option.some.inj ha
  obtain rfl := Option.some.inj hb
  exact hR

/-- **One transition.**  The exit action of the old state, then anything without a transition, then
the state callback. -/
theorem Tracks.goTo {next : SlaveState} (h : Tracks (hist ++ s.out) s.cls.state)
    (hne : next ≠ s.cls.state) (ha : Adds ClsOutput.isTransition (s.leaveFor next) t) :
    Tracks (hist ++ (t.emit (.stateCb next)).out) next := by
  have heq : transitionsOf (hist ++ (t.emit (.stateCb next)).out)
      = transitionsOf (hist ++ (s.leaveFor next).out) ++ [.stateCb next] := by
    unfold ClsScope.emit
    rw [← List.append_assoc, Tracks.concat rfl]
    unfold transitionsOf
    rw [ha.filter hist]
  have hchain : (transitionsOf (hist ++ (t.emit (.stateCb next)).out)).IsChain LeavesControl := by
    rw [heq]
    by_cases hc : s.cls.state = .masterControl
    · -- the disconnect callback comes first
      have hout : hist ++ (s.leaveFor next).out = (hist ++ s.out) ++ [.disconnectCb] := by
        simp only [ClsScope.leaveFor, if_pos hc, ClsScope.emit, List.append_assoc]
      have hdisconnect := isChain_concat h.chain h.last
        (y := .disconnectCb) ⟨by simp [hc], fun hx => ClsOutput.noConfusion hx⟩
      rw [hout, Tracks.concat rfl]
      refine isChain_concat hdisconnect List.getLast?_concat ⟨?_, ?_⟩
      · exact ⟨fun hx => ClsOutput.noConfusion hx, fun hx => ClsOutput.noConfusion hx⟩
      · exact fun _ => ⟨next, rfl, fun hn => hne (hn.trans hc.symm)⟩
    · have hout : hist ++ (s.leaveFor next).out = hist ++ s.out := by
        simp only [ClsScope.leaveFor, if_neg hc]
      rw [hout]
      refine isChain_concat h.chain h.last ⟨?_, fun hx => ClsOutput.noConfusion hx⟩
      exact ⟨fun hx => ClsOutput.noConfusion hx, fun hx => absurd (ClsOutput.stateCb.inj hx) hc⟩
  refine ⟨hchain, ?_⟩
  rw [heq, List.getLast?_concat]

theorem ReportsChanges.adds {d : CallbackTriggerData} (h : ReportsChanges (hist ++ s.out) d)
    (ha : Adds ClsOutput.isReport s t) : ReportsChanges (hist ++ t.out) d := by
  have heq := ha.filter hist
  exact ⟨heq ▸ h.chain, heq ▸ h.last, h.off⟩

/-- the filtered values are different when the values are -/
theorem CallbackTriggerData.report_inj {a b : Bool} {v v' w w' : UInt16} {e e' : Bool}
    (h : CallbackTriggerData.report ⟨e, a, v, w⟩ = CallbackTriggerData.report ⟨e', b, v', w'⟩)
    (ha : a = false → v = 0 ∧ w = 0) (hb : b = false → v' = 0 ∧ w' = 0) :
    a = b ∧ v = v' ∧ w = w' := by
  cases a <;> cases b <;>
    simp [CallbackTriggerData.report, clsIefbFilterMasterStateCallbackValues] at h ha hb ⊢
  · exact ⟨ha.1.trans hb.1.symm, ha.2.trans hb.2.symm⟩
  · exact ⟨h.2.2.1, h.2.2.2⟩

theorem clsIefbShouldTriggerMasterStateCallback_eq_false {d : CallbackTriggerData} {a : Bool}
    {v w : UInt16} : clsIefbShouldTriggerMasterStateCallback d.executedBefore a
        d.previousConnectedToMaster v d.previousProtocolVer w d.previousMasterApplicationStatus = false
      ↔ d = ⟨true, a, v, w⟩ := by
  obtain ⟨e, b, v', w'⟩ := d
  unfold clsIefbShouldTriggerMasterStateCallback
  constructor
  · intro h
    simp only at h
    split at h
    · cases h
    rename_i he
    split at h
    · cases h
    rename_i ha
    split at h
    · cases h
    rename_i hv
    split at h
    · cases h
    rename_i hw
    rw [Bool.not_eq_false] at he
    rw [not_not] at ha hv hw
    rw [he, ha, hv, hw]
  · intro h
    cases h
    simp

theorem clsIefbHandleMasterStateCallback_reports {a : Bool} {v w : UInt16}
    (h : ReportsChanges (hist ++ s.out) s.cls.triggerData) (hoff : a = false → v = 0 ∧ w = 0) :
    ReportsChanges (hist ++ (clsIefbHandleMasterStateCallback a v w s).out) ⟨true, a, v, w⟩ := by
  unfold clsIefbHandleMasterStateCallback
  simp only
  split
  · rename_i htrigger
    have hx : (clsIefbFilterMasterStateCallbackValues a v w).isReport = true := by
      unfold clsIefbFilterMasterStateCallbackValues
      split <;> rfl
    have heq : (hist ++ (s.out ++ [clsIefbFilterMasterStateCallbackValues a v w])).filter
        ClsOutput.isReport = (hist ++ s.out).filter ClsOutput.isReport
          ++ [clsIefbFilterMasterStateCallbackValues a v w] := by
      rw [← List.append_assoc, List.filter_append, List.filter_cons, if_pos hx, List.filter_nil]
    refine ⟨?_, ?_, hoff⟩
    · show ((hist ++ (s.out ++ [_])).filter ClsOutput.isReport).IsChain _
      rw [heq]
      refine h.chain.append (.singleton _) ?_
      intro x hlast y hy hxy
      obtain rfl := Option.some.inj hy
      rw [h.last] at hlast
      cases he : s.cls.triggerData.executedBefore with
      | false =>
        rw [he] at hlast
        cases hlast
      | true =>
        rw [he] at hlast
        have hlast' : s.cls.triggerData.report = x := Option.some.inj hlast
        have hxy' : x = CallbackTriggerData.report ⟨true, a, v, w⟩ := hxy
        have heqs := CallbackTriggerData.report_inj (hlast'.trans hxy') h.off hoff
        have hfalse := clsIefbShouldTriggerMasterStateCallback_eq_false.mpr
          (show s.cls.triggerData = ⟨true, a, v, w⟩ by rw [← heqs.1, ← heqs.2.1, ← heqs.2.2, ← he])
        rw [hfalse] at htrigger
        cases htrigger
    · show ((hist ++ (s.out ++ [_])).filter ClsOutput.isReport).getLast? = _
      rw [heq, List.getLast?_concat]
      rfl
  · rename_i hnot
    rw [Bool.not_eq_true, clsIefbShouldTriggerMasterStateCallback_eq_false] at hnot
    exact hnot ▸ h

end

theorem clsIefbHandleNewOrUpdatedMaster_reports (now : UInt32) {r : CyclicRequest}
    {hist : List ClsOutput} {s : ClsScope}
    (h : ReportsChanges (hist ++ s.out) s.cls.triggerData) :
    ReportsChanges (hist ++ (clsIefbHandleNewOrUpdatedMaster now r s).1.out)
      ⟨true, true, r.protocolVer, r.masterLocalUnitInfo⟩ := by
  have hconnect : ReportsChanges
      (hist ++ (s.emit (.connectCb r.masterId r.groupNo s.cls.master.slaveStationNo)).out)
      s.cls.triggerData := h.adds (.emit rfl s)
  exact clsIefbHandleMasterStateCallback_reports hconnect (fun hf => nomatch hf)

/-! ## one event -/

/-- everything that holds at rest after the outputs `hist` -/
structure Steady (hist : List ClsOutput) (s : ClsScope) : Prop where
  inv : SlaveInv s.cls
  tracks : Tracks (hist ++ s.out) s.cls.state
  reports : ReportsChanges (hist ++ s.out) s.cls.triggerData

namespace Steady
variable {hist : List ClsOutput} {s t : ClsScope} (now : UInt32) (request : Option CyclicRequest)
  {r : CyclicRequest} {v : Received}

/-- anything that keeps the state and calls neither kind of callback -/
theorem kept (h : Steady hist s) (hk : Kept s.cls t.cls) (ha : Adds ClsOutput.isTransition s t)
    (ha' : Adds ClsOutput.isReport s t) : Steady hist t := by
  refine ⟨h.inv.kept hk, ?_, ?_⟩
  · rw [hk.state]
    exact h.tracks.adds ha
  · rw [hk.triggerData]
    exact h.reports.adds ha'

/-- a change of other fields without outputs -/
theorem of_kept (h : Steady hist s) {c : Cls} (hk : Kept s.cls c) :
    Steady hist { s with cls := c } :=
  h.kept hk (.of_eq rfl) (.of_eq rfl)

theorem reported (h : Steady hist s) (hr : Reported s t) : Steady hist t :=
  h.kept hr.kept (hr.adds fun _ _ _ => rfl) (hr.adds fun _ _ _ => rfl)

theorem errorFrame (h : Steady hist s) (endCode : UInt16) :
    Steady hist (clsIefbSendCyclicResponseErrorFrame r endCode s) :=
  h.kept (clsIefbSendCyclicResponseFrame_kept ..)
    (clsIefbSendCyclicResponseFrame_adds _ _ _ _ _ _ _ _ fun _ _ _ => rfl)
    (clsIefbSendCyclicResponseFrame_adds _ _ _ _ _ _ _ _ fun _ _ _ => rfl)

theorem cyclicEvent (h : Steady hist s) (hc : s.cls.state = .masterControl) :
    Steady hist (clsIefbHandleCyclicEvent now r s).1 := by
  rcases clsIefbHandleCyclicEvent_cases now r s with heq | ⟨area, _, heq⟩
  · rw [heq]
    exact h
  rw [heq]
  obtain ⟨normal, error, aborted, hcls⟩ := answerRequest_cls now r (clsTransmissionBit s.cls r)
    (s.storeCyclicData r area)
  have hadds : Adds ClsOutput.isTransition (s.storeCyclicData r area)
      (answerRequest now r (clsTransmissionBit s.cls r) (s.storeCyclicData r area)) :=
    answerRequest_adds _ _ _ _ (fun _ _ _ => rfl) (fun _ _ _ _ _ => rfl)
  have hcall := clsIefbHandleMasterStateCallback_reports (s := s.storeCyclicData r area) (a := true)
    (v := r.protocolVer) (w := r.masterLocalUnitInfo) h.reports (fun hf => nomatch hf)
  refine ⟨h.inv.answerRequest now hc area _, ?_, ?_⟩
  · rw [show (answerRequest now r (clsTransmissionBit s.cls r)
      (s.storeCyclicData r area)).cls.state = s.cls.state by rw [hcls]; rfl]
    exact Tracks.adds (s := s.storeCyclicData r area) h.tracks hadds
  · rw [hcls]
    exact hcall.adds
      (clsIefbSendCyclicResponseFrame_adds _ _ _ _ _ _ _ _ fun _ _ _ => rfl)

/-- the same master with other parameters -/
theorem updatedMaster (h : Steady hist s) (hc : s.cls.state = .masterControl) {q : UInt16}
    (hq : 1 ≤ q.toNat ∧ q.toNat ≤ 16) (hid : r.masterId ≠ ipaddrInvalid) :
    Steady hist (clsIefbHandleNewOrUpdatedMaster now r (s.storeStation q)).1 := by
  obtain ⟨period, hcls⟩ := clsIefbHandleNewOrUpdatedMaster_cls now r (s.storeStation q)
  have htimer : s.cls.timerForDisablingSlave.state = .stopped := by
    rw [← Timer.not_running, Ne, h.inv.disabling, hc]
    decide
  refine ⟨.newOrUpdatedMaster now (s := s.storeStation q) hc hid hq htimer, ?_, ?_⟩
  · rw [clsIefbHandleNewOrUpdatedMaster_state]
    exact Tracks.adds (s := s.storeStation q) h.tracks (clsIefbHandleNewOrUpdatedMaster_adds _ _ _
      (fun _ _ _ => rfl) (fun _ _ _ _ _ => rfl))
  · rw [hcls]
    exact clsIefbHandleNewOrUpdatedMaster_reports now (s := s.storeStation q) h.reports

/-- a master is found -/
theorem newMaster (h : Steady hist s) (hc : s.cls.state = .masterNone) {q : UInt16}
    (hq : 1 ≤ q.toNat ∧ q.toNat ≤ 16) (hid : r.masterId ≠ ipaddrInvalid) :
    Steady hist ((clsIefbHandleNewOrUpdatedMaster now r
      ((s.storeStation q).leaveFor .masterControl)).1.emit (.stateCb .masterControl)) := by
  have hleave : (s.storeStation q).leaveFor .masterControl
      = { s with cls := { (s.storeStation q).cls with state := .masterControl } } := by
    have hn : ¬ (s.storeStation q).cls.state = .masterControl := by
      show ¬ s.cls.state = _
      rw [hc]
      decide
    simp only [ClsScope.leaveFor, if_neg hn]
    rfl
  obtain ⟨period, hcls⟩ := clsIefbHandleNewOrUpdatedMaster_cls now r
    ((s.storeStation q).leaveFor .masterControl)
  have htimer : s.cls.timerForDisablingSlave.state = .stopped := by
    rw [← Timer.not_running, Ne, h.inv.disabling, hc]
    decide
  have hne : SlaveState.masterControl ≠ (s.storeStation q).cls.state := by
    show _ ≠ s.cls.state
    rw [hc]
    decide
  refine ⟨?_, ?_, ?_⟩
  · show SlaveInv (clsIefbHandleNewOrUpdatedMaster ..).1.cls
    rw [hleave]
    exact .newOrUpdatedMaster now rfl hid hq htimer
  · show Tracks _ (clsIefbHandleNewOrUpdatedMaster ..).1.cls.state
    rw [clsIefbHandleNewOrUpdatedMaster_state]
    exact Tracks.goTo (s := s.storeStation q) h.tracks hne
      (clsIefbHandleNewOrUpdatedMaster_adds _ _ _ (fun _ _ _ => rfl) (fun _ _ _ _ _ => rfl))
  · have hreports : ReportsChanges
        (hist ++ (clsIefbHandleNewOrUpdatedMaster now r
          ((s.storeStation q).leaveFor .masterControl)).1.out)
        ⟨true, true, r.protocolVer, r.masterLocalUnitInfo⟩ := by
      rw [hleave]
      exact clsIefbHandleNewOrUpdatedMaster_reports now (s := { s with cls :=
        { (s.storeStation q).cls with state := .masterControl } }) h.reports
    show ReportsChanges _ (clsIefbHandleNewOrUpdatedMaster ..).1.cls.triggerData
    rw [hcls]
    exact hreports.adds (.emit rfl _)

theorem leaveFor_triggerData (s : ClsScope) (next : SlaveState) :
    (s.leaveFor next).cls.triggerData = s.cls.triggerData := by
  unfold ClsScope.leaveFor
  split <;> rfl

/-- leaving the state reports nothing about the master -/
theorem leaveFor_reports (h : Steady hist s) (next : SlaveState) :
    ReportsChanges (hist ++ (s.leaveFor next).out) s.cls.triggerData := by
  unfold ClsScope.leaveFor
  split
  · exact h.reports.adds (.emit rfl s)
  · exact h.reports

/-- a transition to a state without a master, after actions that answer at most -/
theorem clearFor (h : Steady hist s) {next : SlaveState} (hne : next ≠ s.cls.state)
    (htrigger : t.cls.triggerData = s.cls.triggerData)
    (ha : Adds ClsOutput.isTransition (s.leaveFor next) t)
    (ha' : Adds ClsOutput.isReport (s.leaveFor next) t) :
    Tracks (hist ++ ((clsIefbClearMasterInfo t).emit (.stateCb next)).out) next
      ∧ ReportsChanges (hist ++ ((clsIefbClearMasterInfo t).emit (.stateCb next)).out)
          ⟨true, false, 0, 0⟩ := by
  constructor
  · refine h.tracks.goTo hne (ha.trans ?_)
    exact clsIefbHandleMasterStateCallback_adds _ _ _ _ fun _ _ _ _ _ => rfl
  · have hreports := (h.leaveFor_reports next).adds ha'
    rw [← htrigger] at hreports
    have hcall := clsIefbHandleMasterStateCallback_reports (a := false) (v := 0) (w := 0)
      (s := { t with cls := { t.cls with
        master := .zero
        receiveTimer := clTimerStop t.cls.receiveTimer
        timerForDisablingSlave := clTimerStop t.cls.timerForDisablingSlave } }) hreports
      (fun _ => ⟨rfl, rfl⟩)
    exact hcall.adds (.emit rfl _)

theorem toMasterNone (h : Steady hist s) (hne : s.cls.state ≠ .masterNone)
    (hstate : t.cls.state = .masterNone) (htrigger : t.cls.triggerData = s.cls.triggerData)
    (ha : Adds ClsOutput.isTransition (s.leaveFor .masterNone) t)
    (ha' : Adds ClsOutput.isReport (s.leaveFor .masterNone) t) :
    Steady hist ((clsIefbClearMasterInfo t).emit (.stateCb .masterNone)) := by
  obtain ⟨htracks, hreports⟩ := h.clearFor (Ne.symm hne) htrigger ha ha'
  refine ⟨.clearMasterInfo hstate, ?_, ?_⟩
  · show Tracks _ (clsIefbClearMasterInfo t).cls.state
    rw [clsIefbClearMasterInfo_cls, hstate]
    exact htracks
  · show ReportsChanges _ (clsIefbClearMasterInfo t).cls.triggerData
    rw [clsIefbClearMasterInfo_cls]
    exact hreports

theorem toWaitDisablingSlave (h : Steady hist s) (hc : s.cls.state = .masterControl) :
    Steady hist ((clsIefbOnEntryWaitDisablingSlave now (s.leaveFor .waitDisablingSlave)).emit
      (.stateCb .waitDisablingSlave)) := by
  have hne : SlaveState.waitDisablingSlave ≠ s.cls.state := by
    rw [hc]
    decide
  obtain ⟨htracks, hreports⟩ := h.clearFor (t := s.leaveFor .waitDisablingSlave) hne
    (leaveFor_triggerData s _) (.of_eq rfl) (.of_eq rfl)
  have hcls := clsIefbClearMasterInfo_cls (s.leaveFor .waitDisablingSlave)
  refine ⟨.waitDisablingSlave now rfl, ?_, ?_⟩
  · show Tracks _ (clsIefbClearMasterInfo (s.leaveFor .waitDisablingSlave)).cls.state
    rw [hcls]
    exact htracks
  · show ReportsChanges _ (clsIefbClearMasterInfo (s.leaveFor .waitDisablingSlave)).cls.triggerData
    rw [hcls]
    exact hreports

theorem toSlaveDisabled (h : Steady hist s) (hc : s.cls.state ≠ .masterControl)
    (hne : s.cls.state ≠ .slaveDisabled) :
    Steady hist ((clsIefbOnEntrySlaveDisabled (s.leaveFor .slaveDisabled)).emit
      (.stateCb .slaveDisabled)) := by
  refine ⟨h.inv.slaveDisabled hc, ?_, ?_⟩
  · exact h.tracks.goTo (t := clsIefbOnEntrySlaveDisabled (s.leaveFor .slaveDisabled)) hne.symm
      (.of_eq rfl)
  · show ReportsChanges _ (s.leaveFor .slaveDisabled).cls.triggerData
    rw [leaveFor_triggerData]
    exact (h.leaveFor_reports .slaveDisabled).adds
      (t := (clsIefbOnEntrySlaveDisabled (s.leaveFor .slaveDisabled)).emit (.stateCb .slaveDisabled))
      (.emit rfl _)

/-- every request -/
theorem handled (h : Steady hist s) (hr : r.Valid v) (ht : Handled now r s t) : Steady hist t := by
  have hrange {q count : UInt16} (hq : FoundStation r q count) : 1 ≤ q.toNat ∧ q.toNat ≤ 16 :=
    ⟨(hq.own hr).pos, le_trans (hq.own hr).le hr.stations.2⟩
  cases ht with
  | dropped hrep => exact h.reported hrep
  | refused hrep _ => exact (h.reported hrep).errorFrame _
  | @disconnected t q hrep hc _ =>
    have hsteady := h.reported hrep
    have hstate : t.cls.state = .masterControl := hrep.kept.state.trans hc
    have hkept := clsIefbSendCyclicResponseFrame_kept r.frameSequenceNo r.groupNo false
      endcodeWrongNumberOccupiedStations r.remoteIp r.remotePort r.slaveIpAddr
      (t.leaveFor .masterNone)
    refine hsteady.toMasterNone (by rw [hstate]; decide) hkept.state ?_ ?_ ?_
    · exact hkept.triggerData.trans (leaveFor_triggerData t _)
    · exact clsIefbSendCyclicResponseFrame_adds _ _ _ _ _ _ _ _ fun _ _ _ => rfl
    · exact clsIefbSendCyclicResponseFrame_adds _ _ _ _ _ _ _ _ fun _ _ _ => rfl
  | correctMaster hc _ _ => exact h.cyclicEvent now hc
  | updatedMaster q hc _ hq _ =>
    refine (h.updatedMaster now hc (hrange hq) hr.masterId_ne).cyclicEvent now ?_
    rw [clsIefbHandleNewOrUpdatedMaster_state]
    exact hc
  | newMaster q hc hq _ =>
    refine (h.newMaster now hc (hrange hq) hr.masterId_ne).cyclicEvent now ?_
    show (clsIefbHandleNewOrUpdatedMaster ..).1.cls.state = _
    rw [clsIefbHandleNewOrUpdatedMaster_state]
    rfl

theorem inputFrame (h : Steady hist s) (v : Received) :
    Steady hist (clsIefbHandleInputFrame now v s).1 := by
  rw [clsIefbHandleInputFrame_eq]
  cases hv : v.cyclicRequest with
  | none => exact h
  | some r =>
    exact h.handled now (Received.cyclicRequest_valid hv) (handleCyclicRequest_handled now)

theorem receiveTimer (h : Steady hist s) : Steady hist (monitorReceiveTimer now s) := by
  unfold monitorReceiveTimer
  split
  · rename_i hexpired
    have hc : s.cls.state = .masterControl := by
      by_contra hn
      rw [clTimerIsExpired_stopped (h.inv.cleared hn).2] at hexpired
      cases hexpired
    have hs : ({ s with cls := { s.cls with
        receiveTimer := clTimerStop s.cls.receiveTimer } } : ClsScope).cls.state = .masterControl :=
      hc
    rw [clsIefbFsmEvent_timeoutMaster now none hs]
    refine h.toMasterNone (by rw [hc]; decide) rfl (leaveFor_triggerData _ _) (.of_eq ?_)
      (.of_eq ?_)
    · simp only [ClsScope.leaveFor, if_pos hc, ClsScope.emit]
    · simp only [ClsScope.leaveFor, if_pos hc, ClsScope.emit]
  · exact h

theorem timerForDisablingSlave (h : Steady hist s) :
    Steady hist (monitorTimerForDisablingSlave now s) := by
  unfold monitorTimerForDisablingSlave
  split
  · rename_i hexpired
    have hc : s.cls.state = .waitDisablingSlave := by
      rw [← h.inv.disabling]
      exact clTimerIsExpired_running hexpired
    have hs : ({ s with cls := { s.cls with
        timerForDisablingSlave := clTimerStop s.cls.timerForDisablingSlave } } : ClsScope).cls.state
          = .waitDisablingSlave := hc
    have hsteady := h.toSlaveDisabled (by rw [hc]; decide) (by rw [hc]; decide)
    rw [clsIefbFsmEvent_disableSlaveWaitEnded now none hs]
    refine hsteady.kept ?_ (.of_eq ?_) (.of_eq ?_)
    · have hn : ¬ s.cls.state = .masterControl := by
        rw [hc]
        decide
      simp only [ClsScope.emit, clsIefbOnEntrySlaveDisabled, ClsScope.leaveFor, if_neg hn]
      exact ⟨rfl, rfl, rfl, rfl, rfl⟩
    · simp only [ClsScope.emit, clsIefbOnEntrySlaveDisabled, ClsScope.leaveFor]
      split <;> rfl
    · simp only [ClsScope.emit, clsIefbOnEntrySlaveDisabled, ClsScope.leaveFor]
      split <;> rfl
  · exact h

theorem receiveFrame (h : Steady hist s) (received : Option Received) :
    Steady hist (receiveFrame now received s) := by
  unfold CLink.receiveFrame
  cases received with
  | none => exact h
  | some v =>
    simp only
    split
    · exact h.inputFrame now v
    · exact h

theorem periodic (h : Steady hist s) (received : Option Received) :
    Steady hist (clsIefbPeriodic now received s) :=
  (((h.receiveFrame now received).receiveTimer now).timerForDisablingSlave now).of_kept
    ⟨rfl, rfl, rfl, rfl, rfl⟩

theorem disableSlave (h : Steady hist s) :
    Steady hist (clsIefbFsmEvent now request .disableSlave s) := by
  cases hc : s.cls.state with
  | slaveDown => exact absurd hc h.inv.notDown
  | masterNone =>
    rw [clsIefbFsmEvent_disableSlave_none now request hc]
    exact h.toSlaveDisabled (by rw [hc]; decide) (by rw [hc]; decide)
  | masterControl =>
    rw [clsIefbFsmEvent_disableSlave_control now request hc]
    exact h.toWaitDisablingSlave now hc
  | slaveDisabled | waitDisablingSlave =>
    rw [clsIefbFsmEvent_idle now request (by rw [hc]; rfl)]
    exact h

theorem reenableSlave (h : Steady hist s) :
    Steady hist (clsIefbFsmEvent now request .reenableSlave s) := by
  have hgo (hc : s.cls.state = .waitDisablingSlave ∨ s.cls.state = .slaveDisabled) :
      Steady hist (clsIefbFsmEvent now request .reenableSlave s) := by
    rw [clsIefbFsmEvent_reenableSlave now request hc]
    refine h.toMasterNone ?_ rfl (leaveFor_triggerData _ _) (.of_eq rfl) (.of_eq rfl)
    rcases hc with hc | hc <;> rw [hc] <;> decide
  cases hc : s.cls.state with
  | slaveDown => exact absurd hc h.inv.notDown
  | masterNone | masterControl =>
    rw [clsIefbFsmEvent_idle now request (by rw [hc]; rfl)]
    exact h
  | slaveDisabled => exact hgo (Or.inr hc)
  | waitDisablingSlave => exact hgo (Or.inl hc)

theorem setRxBit (h : Steady hist s) (number : UInt16) (value : Bool) :
    Steady hist (clsIefbSetRxBit number value s) := by
  unfold clsIefbSetRxBit
  simp only
  split
  · exact h.of_kept ⟨rfl, rfl, rfl, rfl, rfl⟩
  · exact h.of_kept ⟨rfl, rfl, rfl, rfl, rfl⟩

theorem setRwrValue (h : Steady hist s) (number value : UInt16) :
    Steady hist (clsIefbSetRwrValue number value s) := by
  unfold clsIefbSetRwrValue
  simp only
  split
  · exact h.of_kept ⟨rfl, rfl, rfl, rfl, rfl⟩
  · exact h.of_kept ⟨rfl, rfl, rfl, rfl, rfl⟩

end Steady

theorem clsHandle_steady {hist : List ClsOutput} {s : ClsScope} (h : Steady hist s) (e : ClsEvent) :
    Steady hist (clsHandle e s) := by
  cases e with
  | periodic now received => exact h.periodic now received
  | disableSlave now isError =>
    exact (h.of_kept (c := { s.cls with endcodeSlaveDisabled :=
      if isError then endcodeSlaveError else endcodeSlaveRequestsDisconnect })
      ⟨rfl, rfl, rfl, rfl, rfl⟩).disableSlave now none
  | reenableSlave now => exact h.reenableSlave now none
  | setRxBit number value => exact h.setRxBit number value
  | setRwrValue number value => exact h.setRwrValue number value
  | setLocalManagementInfo | setSlaveApplicationStatus | setSlaveErrorCode | writeMemoryArea =>
    exact h.of_kept ⟨rfl, rfl, rfl, rfl, rfl⟩

/-! ## the start and the runs -/

/-- the outputs so far can be moved to the history -/
theorem Steady.rebase {hist : List ClsOutput} {s : ClsScope} (h : Steady hist s) :
    Steady (hist ++ s.out) ⟨s.cls, []⟩ := by
  refine ⟨h.inv, ?_, ?_⟩
  · rw [List.append_nil]
    exact h.tracks
  · rw [List.append_nil]
    exact h.reports

theorem clsStep_steady {hist : List ClsOutput} {c : Cls} (h : Steady hist ⟨c, []⟩) (e : ClsEvent) :
    Steady (hist ++ (clsStep c e).2) ⟨(clsStep c e).1, []⟩ := by
  unfold clsStep
  split
  · rw [List.append_nil]
    exact h
  · exact (clsHandle_steady h e).rebase

namespace SlaveStart
variable {o : Options} (st : SlaveStart o)

theorem init_steady : Steady [] st.init := by
  obtain ⟨c, _, _, heq⟩ := st.init_eq
  rw [heq]
  refine ⟨⟨?_, ?_, ?_, ?_, rfl, ?_⟩, ⟨?_, rfl⟩, ⟨?_, rfl, fun _ => ⟨rfl, rfl⟩⟩⟩
  · exact SlaveState.noConfusion
  · exact fun _ => ⟨rfl, rfl⟩
  · exact fun h => nomatch h
  · exact ⟨fun h => (nomatch h), fun h => (nomatch h)⟩
  · exact ⟨fun h => (nomatch h), fun h => (nomatch h)⟩
  · show [ClsOutput.stateCb .slaveDown, .stateCb .masterNone].IsChain LeavesControl
    refine List.isChain_pair.mpr ⟨⟨fun h => (nomatch h), fun h => ?_⟩, fun h => (nomatch h)⟩
    cases ClsOutput.stateCb.inj h
  · exact .singleton _

theorem run_steady (es : List ClsEvent) : Steady (st.run es).2 ⟨(st.run es).1, []⟩ := by
  refine slave.run_inv (c := fun _ _ => True) (I := fun hist c => Steady hist ⟨c, []⟩) ?_
    st.init.out st.init_steady.rebase (.of_all _ (fun _ _ => trivial) _ es)
  intro hist c e h _
  exact clsStep_steady h e

/-- **The state of the slave, after every run.**  Without a control master nothing is stored of one,
with a control master its data is there and its timer runs; the timer for disabling runs in
`WAIT_DISABLING_SLAVE` only; the callbacks tell what happened. -/
theorem stateInvariant (es : List ClsEvent) :
    let c := (st.run es).1
    let out := (st.run es).2
    (c.state ≠ .masterControl → c.master = .zero ∧ c.receiveTimer.state = .stopped)
      ∧ (c.state = .masterControl → c.master.masterId ≠ ipaddrInvalid
        ∧ (1 ≤ c.master.slaveStationNo.toNat ∧ c.master.slaveStationNo.toNat ≤ 16)
        ∧ c.receiveTimer.state = .running ∧ c.timerForDisablingSlave.state = .stopped)
      ∧ (c.timerForDisablingSlave.state = .running ↔ c.state = .waitDisablingSlave)
      ∧ (∃ running stoppedByUser protocolVer status,
        (out.filter ClsOutput.isReport).getLast? = some
          (.masterRunningCb (c.state = .masterControl) running stoppedByUser protocolVer status))
      ∧ (out.filter ClsOutput.isReport).IsChain (· ≠ ·)
      ∧ Tracks out c.state := by
  intro c out
  obtain ⟨hinv, htracks, hreports⟩ := st.run_steady es
  rw [List.append_nil] at htracks hreports
  refine ⟨hinv.cleared, ?_, hinv.disabling, ?_, hreports.chain, htracks⟩
  · intro hc
    obtain ⟨hid, hstation, htimer⟩ := hinv.control hc
    refine ⟨hid, hstation, htimer, ?_⟩
    rw [← Timer.not_running, Ne, hinv.disabling, hc]
    decide
  · have hlast := hreports.last
    rw [hinv.executed, if_pos rfl] at hlast
    have hconnected : c.triggerData.previousConnectedToMaster = decide (c.state = .masterControl) := by
      rw [Bool.eq_iff_iff, decide_eq_true_eq]
      exact hinv.connected
    show ∃ _ _ _ _, (out.filter _).getLast? = _
    rw [hlast]
    unfold CallbackTriggerData.report clsIefbFilterMasterStateCallbackValues
    rw [show (st.run es).1.triggerData.previousConnectedToMaster = _ from hconnected]
    split
    · exact ⟨_, _, _, _, rfl⟩
    · exact ⟨_, _, _, _, rfl⟩

end SlaveStart

end CLink
