import CLink.Slave.Responses

/-!
# One control master

In `MASTER_CONTROL`, a request of another master is refused.  It leaves behind the limiters of the
messages and the header fields of the error frame, and nothing that the slave does later depends on
them, apart from the messages.

* `SameApart c c'`         two instances that differ in these only;
* `Beside s t`             the same for the instance while a call runs, with the outputs so far;
* `.._beside`              every function of the slave keeps it;
* `ForeignRequest c e`     a tick with a request of another master, after which `MASTER_CONTROL` goes
                           on;
* `clsStep_foreign`        such a tick keeps the instance, apart from these;
* `SlaveStart.oneControlMaster`  the frame that is sent, and runs with and without such ticks.
-/

namespace CLink
open Loop

/-! ## instances -/

/-- `c'` is `c` apart from the limiters and the fields of the error frame that an update writes -/
def SameApart (c c' : Cls) : Prop :=
  ∃ errorlimiter loglimiter error,
    c' = { c with
        errorlimiter := errorlimiter
        loglimiter := loglimiter
        cciefbRespFrameError := error }
      ∧ error.template = c.cciefbRespFrameError.template

namespace SameApart
variable {c c' : Cls}

theorem refl (c : Cls) : SameApart c c := ⟨_, _, _, rfl, rfl⟩

/-- a change of other fields -/
theorem modify (h : SameApart c c') {f : Cls → Cls}
    (hf : ∀ c a b e, f { c with errorlimiter := a, loglimiter := b, cciefbRespFrameError := e }
      = { f c with errorlimiter := a, loglimiter := b, cciefbRespFrameError := e })
    (hframe : ∀ c, (f c).cciefbRespFrameError = c.cciefbRespFrameError) :
    SameApart (f c) (f c') := by
  obtain ⟨a, b, e, rfl, he⟩ := h
  refine ⟨a, b, e, hf c a b e, ?_⟩
  rw [hframe, he]

/-- a function of other fields -/
theorem read {α : Type} (h : SameApart c c') {f : Cls → α}
    (hf : ∀ c a b e, f { c with errorlimiter := a, loglimiter := b, cciefbRespFrameError := e }
      = f c) : f c' = f c := by
  obtain ⟨a, b, e, rfl, _⟩ := h
  exact hf c a b e

theorem state (h : SameApart c c') : c'.state = c.state := h.read fun _ _ _ _ => rfl
theorem aborted (h : SameApart c c') : c'.aborted = c.aborted := h.read fun _ _ _ _ => rfl

/-- the frames are sent alike -/
theorem responseToSend (h : SameApart c c') (frameSequenceNo groupNo : UInt16) (includeData : Bool)
    (endCode : UInt16) (slaveIpAddr : IpAddr) :
    responseToSend c' frameSequenceNo groupNo includeData endCode slaveIpAddr
      = CLink.responseToSend c frameSequenceNo groupNo includeData endCode slaveIpAddr := by
  obtain ⟨a, b, e, rfl, he⟩ := h
  cases includeData with
  | true => rfl
  | false => exact ResponseFrame.update_eq_of_template he ..

end SameApart

/-! ## the instance while a call runs -/

/-- what a call shows, apart from the messages -/
def ClsOutput.isObserved : ClsOutput → Bool
  | errorCb .. => false
  | _ => true

structure Beside (s t : ClsScope) : Prop where
  cls : SameApart s.cls t.cls
  out : t.out.filter ClsOutput.isObserved = s.out.filter ClsOutput.isObserved

namespace Beside
variable {s s' t t' : ClsScope}

theorem emit (h : Beside s t) (x : ClsOutput) : Beside (s.emit x) (t.emit x) := by
  refine ⟨h.cls, ?_⟩
  show (t.out ++ [x]).filter _ = (s.out ++ [x]).filter _
  rw [List.filter_append, List.filter_append, h.out]

theorem modify (h : Beside s t) {f : Cls → Cls}
    (hf : ∀ c a b e, f { c with errorlimiter := a, loglimiter := b, cciefbRespFrameError := e }
      = { f c with errorlimiter := a, loglimiter := b, cciefbRespFrameError := e })
    (hframe : ∀ c, (f c).cciefbRespFrameError = c.cciefbRespFrameError) :
    Beside { s with cls := f s.cls } { t with cls := f t.cls } :=
  ⟨h.cls.modify hf hframe, h.out⟩

theorem abort (h : Beside s t) : Beside s.abort t.abort :=
  h.modify (f := fun c => { c with aborted := true }) (fun _ _ _ _ => rfl) (fun _ => rfl)

/-- messages on one side -/
theorem reported_right (h : Beside s t) (ht : Reported t t') : Beside s t' := by
  obtain ⟨a, b, e, heq, he⟩ := h.cls
  obtain ⟨a', b', heq'⟩ := ht.cls
  have hadds := (ht.adds (p := ClsOutput.isObserved) fun _ _ _ => rfl).filter []
  exact ⟨⟨a', b', e, by rw [heq', heq], he⟩, hadds.trans h.out⟩

/-- messages on both sides -/
theorem reported (h : Beside s t) (hs : Reported s s') (ht : Reported t t') : Beside s' t' := by
  obtain ⟨a, b, e, heq, he⟩ := (h.reported_right ht).cls
  obtain ⟨a', b', heq'⟩ := hs.cls
  have hadds := (hs.adds (p := ClsOutput.isObserved) fun _ _ _ => rfl).filter []
  refine ⟨⟨a, b, e, ?_, ?_⟩, (h.reported_right ht).out.trans hadds.symm⟩
  · rw [heq, heq']
  · rw [heq', he]

/-! ## the helpers -/

theorem logWarning (h : Beside s t) (message : LogwarningMessage) (now : UInt32) :
    Beside (clsIefbLogWarningOnce message now s) (clsIefbLogWarningOnce message now t) :=
  h.reported (.logWarning ..) (.logWarning ..)

theorem triggerError (h : Beside s t) (now : UInt32) (message : ClsErrorMessage) (ipAddr : IpAddr)
    (argument2 : UInt16) :
    Beside (clsIefbTriggerErrorCallback now message ipAddr argument2 s)
      (clsIefbTriggerErrorCallback now message ipAddr argument2 t) :=
  h.reported (.triggerError ..) (.triggerError ..)

theorem send (h : Beside s t) (frameSequenceNo groupNo : UInt16) (includeData : Bool)
    (endCode : UInt16) (remoteIp : IpAddr) (remotePort : UInt16) (slaveIpAddr : IpAddr) :
    Beside
      (clsIefbSendCyclicResponseFrame frameSequenceNo groupNo includeData endCode remoteIp
        remotePort slaveIpAddr s)
      (clsIefbSendCyclicResponseFrame frameSequenceNo groupNo includeData endCode remoteIp
        remotePort slaveIpAddr t) := by
  have hframe := h.cls.responseToSend frameSequenceNo groupNo includeData endCode slaveIpAddr
  unfold clsIefbSendCyclicResponseFrame
  split
  · exact h.abort
  simp only [hframe]
  generalize responseToSend s.cls frameSequenceNo groupNo includeData endCode slaveIpAddr = frame
  have hsent := h.emit (.sendResponse remoteIp remotePort frame.datagram)
  cases includeData with
  | true =>
    exact hsent.modify (f := fun c => { c with cciefbRespFrameNormal := frame })
      (fun _ _ _ _ => rfl) (fun _ => rfl)
  | false =>
    obtain ⟨a, b, e, heq, _⟩ := h.cls
    refine ⟨⟨a, b, frame, ?_, rfl⟩, hsent.out⟩
    rw [heq]
    rfl

theorem errorFrame (h : Beside s t) (r : CyclicRequest) (endCode : UInt16) :
    Beside (clsIefbSendCyclicResponseErrorFrame r endCode s)
      (clsIefbSendCyclicResponseErrorFrame r endCode t) :=
  h.send ..

theorem masterStateCallback (h : Beside s t) (connectedToMaster : Bool)
    (protocolVer masterApplicationStatus : UInt16) :
    Beside (clsIefbHandleMasterStateCallback connectedToMaster protocolVer masterApplicationStatus s)
      (clsIefbHandleMasterStateCallback connectedToMaster protocolVer masterApplicationStatus t) := by
  have htrigger : t.cls.triggerData = s.cls.triggerData := h.cls.read fun _ _ _ _ => rfl
  have hset {s t : ClsScope} (h : Beside s t) := h.modify
    (f := fun c => { c with triggerData :=
      ⟨true, connectedToMaster, protocolVer, masterApplicationStatus⟩ })
    (fun _ _ _ _ => rfl) (fun _ => rfl)
  unfold clsIefbHandleMasterStateCallback
  simp only [htrigger]
  split
  · exact hset (h.emit _)
  · exact hset h

theorem clearMasterInfo (h : Beside s t) :
    Beside (clsIefbClearMasterInfo s) (clsIefbClearMasterInfo t) := by
  have hclear := h.modify (f := fun c => { c with
      master := .zero
      receiveTimer := clTimerStop c.receiveTimer
      timerForDisablingSlave := clTimerStop c.timerForDisablingSlave })
    (fun _ _ _ _ => rfl) (fun _ => rfl)
  exact hclear.masterStateCallback false 0 0

/-! ## the actions -/

variable (now : UInt32) (r : CyclicRequest)

/-- both frames are made anew -/
theorem slaveInit (h : Beside s t) : Beside (clsIefbSlaveInit s).1 (clsIefbSlaveInit t).1 := by
  have hcleared := (h.modify (f := fun c => { c with
      receiveTimer := clTimerStop c.receiveTimer
      timerForDisablingSlave := clTimerStop c.timerForDisablingSlave
      cyclicDataArea := .zero
      triggerData := .zero })
    (fun _ _ _ _ => rfl) (fun _ => rfl)).clearMasterInfo
  obtain ⟨a, b, e, heq, _⟩ := hcleared.cls
  refine ⟨⟨a, b, _, ?_, rfl⟩, hcleared.out⟩
  unfold clsIefbSlaveInit
  simp only [heq]

theorem newOrUpdatedMaster (h : Beside s t) :
    Beside (clsIefbHandleNewOrUpdatedMaster now r s).1 (clsIefbHandleNewOrUpdatedMaster now r t).1 := by
  have hmaster : t.cls.master = s.cls.master := h.cls.read fun _ _ _ _ => rfl
  have hstored := h.modify (f := fun c => { c with
      master := c.master.update r
      receiveTimer := clTimerStart c.receiveTimer
        (clCalculateTotalTimeoutUs (c.master.update r).timeoutValue
          (c.master.update r).parallelOffTimeoutCount).toUInt32 now })
    (fun _ _ _ _ => rfl) (fun _ => rfl)
  have hconnect := hstored.emit (.connectCb (s.cls.master.update r).masterId
    (s.cls.master.update r).groupNo (s.cls.master.update r).slaveStationNo)
  have hcall := hconnect.masterStateCallback true r.protocolVer r.masterLocalUnitInfo
  unfold clsIefbHandleNewOrUpdatedMaster
  simp only [hmaster] at hcall ⊢
  exact hcall

theorem cyclicEvent (h : Beside s t) :
    Beside (clsIefbHandleCyclicEvent now r s).1 (clsIefbHandleCyclicEvent now r t).1 := by
  have hbit : clsTransmissionBit t.cls r = clsTransmissionBit s.cls r :=
    h.cls.read (f := fun c => clsTransmissionBit c r) fun _ _ _ _ => rfl
  have hcopy : clsIefbCopyCyclicDataFromRequest t.cls r t.cls.master.slaveStationNo
        (clsTransmissionBit s.cls r)
      = clsIefbCopyCyclicDataFromRequest s.cls r s.cls.master.slaveStationNo
        (clsTransmissionBit s.cls r) :=
    h.cls.read (f := fun c => clsIefbCopyCyclicDataFromRequest c r c.master.slaveStationNo _)
      fun _ _ _ _ => rfl
  unfold clsIefbHandleCyclicEvent
  simp only [hbit, hcopy]
  split
  · exact h
  · rename_i area _
    have hstored := h.modify (f := fun c => { c with
        cyclicDataArea := area
        master := { c.master with
          clockInfo := r.clockInfo
          clockInfoValid := r.clockInfo ≠ 0 } })
      (fun _ _ _ _ => rfl) (fun _ => rfl)
    have hsent := (hstored.masterStateCallback true r.protocolVer r.masterLocalUnitInfo).send
      r.frameSequenceNo r.groupNo (clsTransmissionBit s.cls r) endcodeSuccess r.remoteIp r.remotePort
      r.slaveIpAddr
    exact hsent.modify (f := fun c => { c with receiveTimer := clTimerRestart c.receiveTimer now })
      (fun _ _ _ _ => rfl) (fun _ => rfl)

/-- every action, and the event that it leads to -/
theorem performOption (h : Beside s t) (request : Option CyclicRequest)
    (action : Option SlaveAction) :
    (performOption now request action t).2 = (CLink.performOption now request action s).2
      ∧ Beside (CLink.performOption now request action s).1
        (CLink.performOption now request action t).1 := by
  have hcode : t.cls.endcodeSlaveDisabled = s.cls.endcodeSlaveDisabled :=
    h.cls.read fun _ _ _ _ => rfl
  cases action with
  | none => exact ⟨rfl, h⟩
  | some action =>
    cases action with
    | slaveInit => exact ⟨rfl, h.slaveInit⟩
    | onEntryMasterNone => exact ⟨rfl, h.clearMasterInfo⟩
    | onExitMasterControl => exact ⟨rfl, h.emit _⟩
    | onEntryWaitDisablingSlave =>
      refine ⟨rfl, h.clearMasterInfo.modify (f := fun c => { c with
        timerForDisablingSlave := clTimerStart c.timerForDisablingSlave waitTimeDisableSlave now })
        ?_ ?_⟩
      · exact fun _ _ _ _ => rfl
      · exact fun _ => rfl
    | onEntrySlaveDisabled =>
      refine ⟨rfl, h.modify (f := fun c => { c with
        timerForDisablingSlave := clTimerStop c.timerForDisablingSlave }) ?_ ?_⟩
      · exact fun _ _ _ _ => rfl
      · exact fun _ => rfl
    | logTimeoutMaster | logIpAddrUpdated | logSlaveDisabled | logSlaveReenabled => exact ⟨rfl, h⟩
    | handleNewOrUpdatedMaster =>
      cases request with
      | none => exact ⟨rfl, h⟩
      | some r => exact ⟨rfl, h.newOrUpdatedMaster now r⟩
    | handleCyclicEvent =>
      cases request with
      | none => exact ⟨rfl, h⟩
      | some r =>
        refine ⟨?_, h.cyclicEvent now r⟩
        exact (clsIefbHandleCyclicEvent_event now r t).trans
          (clsIefbHandleCyclicEvent_event now r s).symm
    | handleWrongStationcount =>
      cases request with
      | none => exact ⟨rfl, h⟩
      | some r => exact ⟨rfl, h.errorFrame r endcodeWrongNumberOccupiedStations⟩
    | handleWrongMaster =>
      cases request with
      | none => exact ⟨rfl, h⟩
      | some r =>
        have hreported := (h.logWarning .masterDuplication now).triggerError now
          .masterStationDuplication r.masterId 0
        exact ⟨rfl, hreported.errorFrame r endcodeMasterDuplication⟩
    | handleIncomingWhenDisabled =>
      cases request with
      | none => exact ⟨rfl, h⟩
      | some r =>
        refine ⟨rfl, ?_⟩
        show Beside (clsIefbSendCyclicResponseErrorFrame r s.cls.endcodeSlaveDisabled s)
          (clsIefbSendCyclicResponseErrorFrame r t.cls.endcodeSlaveDisabled t)
        rw [hcode]
        exact h.errorFrame r _

/-! ## events -/

theorem fsmEvent (h : Beside s t) (request : Option CyclicRequest) (event : SlaveEvent) :
    Beside (clsIefbFsmEvent now request event s) (clsIefbFsmEvent now request event t) := by
  refine drive_rel Beside ?_ .none 2 event h
  intro event s t h
  have hstate := h.cls.state
  unfold slaveFsmRound
  simp only [hstate]
  generalize slaveFsmMatrix s.cls.state event = element
  -- the exit action, the transition with its action, the entry action
  by_cases hne : element.1 ≠ s.cls.state
  · have hleft := (h.performOption now request (slaveOnExit s.cls.state)).2.modify
      (f := fun c => { c with state := element.1 }) (fun _ _ _ _ => rfl) (fun _ => rfl)
    obtain ⟨hevent, hacted⟩ := hleft.performOption now request element.2
    have hentered := (hacted.performOption now request (slaveOnEntry element.1)).2
    simp only [hne, ne_eq, not_false_eq_true, decide_true, if_true]
    exact ⟨hevent, hentered.emit _⟩
  · have hstay := h.modify (f := fun c => { c with state := element.1 })
      (fun _ _ _ _ => rfl) (fun _ => rfl)
    simp only [hne, decide_false, Bool.false_eq_true, if_false]
    exact hstay.performOption now request element.2

theorem searchSlaveParameters (h : Beside s t) :
    Beside (clsIefbSearchSlaveParameters now r s).1 (clsIefbSearchSlaveParameters now r t).1 := by
  have hstate := h.cls.state
  have hconfig : t.cls.config = s.cls.config := h.cls.read fun _ _ _ _ => rfl
  have hmaster : clsIefbIsMasterIdCorrect t.cls r.masterId
      = clsIefbIsMasterIdCorrect s.cls r.masterId :=
    h.cls.read (f := fun c => clsIefbIsMasterIdCorrect c r.masterId) fun _ _ _ _ => rfl
  have hconnect (q : UInt16) := (h.modify (f := fun c => { c with
      master := { c.master with slaveStationNo := q } })
    (fun _ _ _ _ => rfl) (fun _ => rfl)).fsmEvent now (some r) .cyclicNewMaster
  simp only [hstate, hconfig] at hconnect
  unfold clsIefbSearchSlaveParameters
  simp only [hstate, hconfig, hmaster]
  split
  · exact h
  split
  · exact h
  rename_i info _
  split
  · exact h
  split
  · exact ((h.logWarning _ now).triggerError now _ _ _).fsmEvent now (some r) _
  split
  · split
    · exact h.fsmEvent now (some r) _
    · exact h
  split
  · split
    · exact h.triggerError now _ _ _
    · exact hconnect info.mySlaveStationNo
  split
  · exact h
  split
  · exact h
  · exact hconnect info.mySlaveStationNo

theorem handleCyclicRequest (h : Beside s t) :
    Beside (handleCyclicRequest now r s).1 (CLink.handleCyclicRequest now r t).1 := by
  have hstate := h.cls.state
  have hstored : t.cls.master = s.cls.master := h.cls.read fun _ _ _ _ => rfl
  have hmaster : clsIefbIsMasterIdCorrect t.cls r.masterId
      = clsIefbIsMasterIdCorrect s.cls r.masterId :=
    h.cls.read (f := fun c => clsIefbIsMasterIdCorrect c r.masterId) fun _ _ _ _ => rfl
  unfold CLink.handleCyclicRequest
  simp only [hstate, hstored, hmaster]
  split
  · exact h
  split
  · exact h.searchSlaveParameters now r
  split
  · exact h.fsmEvent now (some r) _
  split
  · exact h.searchSlaveParameters now r
  split
  · exact h.searchSlaveParameters now r
  split
  · exact h
  split
  · exact h
  split
  · exact h
  split
  · exact h
  · exact h.fsmEvent now (some r) _

theorem inputFrame (h : Beside s t) (v : Received) :
    Beside (clsIefbHandleInputFrame now v s).1 (clsIefbHandleInputFrame now v t).1 := by
  rw [clsIefbHandleInputFrame_eq, clsIefbHandleInputFrame_eq]
  cases v.cyclicRequest with
  | none => exact h
  | some r => exact h.handleCyclicRequest now r

theorem receiveTimer (h : Beside s t) :
    Beside (monitorReceiveTimer now s) (monitorReceiveTimer now t) := by
  have htimer : t.cls.receiveTimer = s.cls.receiveTimer := h.cls.read fun _ _ _ _ => rfl
  have hstopped := h.modify (f := fun c => { c with receiveTimer := clTimerStop c.receiveTimer })
    (fun _ _ _ _ => rfl) (fun _ => rfl)
  unfold monitorReceiveTimer
  rw [htimer]
  split
  · have hevent := hstopped.fsmEvent now none .timeoutMaster
    simp only [htimer] at hevent
    exact hevent
  · exact h

theorem timerForDisablingSlave (h : Beside s t) :
    Beside (monitorTimerForDisablingSlave now s) (monitorTimerForDisablingSlave now t) := by
  have htimer : t.cls.timerForDisablingSlave = s.cls.timerForDisablingSlave :=
    h.cls.read fun _ _ _ _ => rfl
  have hstopped := h.modify (f := fun c => { c with
      timerForDisablingSlave := clTimerStop c.timerForDisablingSlave })
    (fun _ _ _ _ => rfl) (fun _ => rfl)
  unfold monitorTimerForDisablingSlave
  rw [htimer]
  split
  · have hevent := hstopped.fsmEvent now none .disableSlaveWaitEnded
    simp only [htimer] at hevent
    exact hevent
  · exact h

theorem periodic (h : Beside s t) (received : Option Received) :
    Beside (clsIefbPeriodic now received s) (clsIefbPeriodic now received t) := by
  have hreceived : Beside (receiveFrame now received s) (receiveFrame now received t) := by
    cases received with
    | none => exact h
    | some v =>
      rw [receiveFrame_out, receiveFrame_out]
      exact h.inputFrame now v
  obtain ⟨hcls, hout⟩ := (hreceived.receiveTimer now).timerForDisablingSlave now
  obtain ⟨a, b, e, heq, he⟩ := hcls
  refine ⟨⟨clLimiterPeriodic a now, clLimiterPeriodic b now, e, ?_, he⟩, hout⟩
  unfold clsIefbPeriodic
  simp only [heq]

/-! ## the calls of the application -/

theorem setRxBit (h : Beside s t) (number : UInt16) (value : Bool) :
    Beside (clsIefbSetRxBit number value s) (clsIefbSetRxBit number value t) := by
  have habort := h.abort
  obtain ⟨⟨a, b, e, heq, he⟩, hout⟩ := h
  unfold clsIefbSetRxBit
  simp only [heq]
  split
  · exact habort
  · exact ⟨⟨a, b, e, rfl, he⟩, hout⟩

theorem setRwrValue (h : Beside s t) (number value : UInt16) :
    Beside (clsIefbSetRwrValue number value s) (clsIefbSetRwrValue number value t) := by
  have habort := h.abort
  obtain ⟨⟨a, b, e, heq, he⟩, hout⟩ := h
  unfold clsIefbSetRwrValue
  simp only [heq]
  split
  · exact habort
  · exact ⟨⟨a, b, e, rfl, he⟩, hout⟩

end Beside

theorem clsHandle_beside {s t : ClsScope} (h : Beside s t) (e : ClsEvent) :
    Beside (clsHandle e s) (clsHandle e t) := by
  cases e with
  | periodic now received => exact h.periodic now received
  | disableSlave now isError =>
    have hcode := h.modify (f := fun c => { c with endcodeSlaveDisabled :=
        if isError then endcodeSlaveError else endcodeSlaveRequestsDisconnect })
      (fun _ _ _ _ => rfl) (fun _ => rfl)
    exact hcode.fsmEvent now none .disableSlave
  | reenableSlave now => exact h.fsmEvent now none .reenableSlave
  | setRxBit number value => exact h.setRxBit number value
  | setRwrValue number value => exact h.setRwrValue number value
  | setLocalManagementInfo value =>
    exact h.modify (f := fun c => { c with localManagementInfo := value }) (fun _ _ _ _ => rfl)
      (fun _ => rfl)
  | setSlaveApplicationStatus value =>
    exact h.modify (f := fun c => { c with slaveApplicationStatus := value })
      (fun _ _ _ _ => rfl) (fun _ => rfl)
  | setSlaveErrorCode value =>
    exact h.modify (f := fun c => { c with slaveErrCode := value }) (fun _ _ _ _ => rfl)
      (fun _ => rfl)
  | writeMemoryArea rx rwr =>
    exact h.modify (f := writeResponseAreas rx rwr) (fun _ _ _ _ => rfl) (fun _ => rfl)

/-- **One step of both.**  The instances stay the same apart from the messages, and so do the
outputs. -/
theorem clsStep_beside {c c' : Cls} (h : SameApart c c') (e : ClsEvent) :
    SameApart (clsStep c e).1 (clsStep c' e).1
      ∧ (clsStep c' e).2.filter ClsOutput.isObserved
        = (clsStep c e).2.filter ClsOutput.isObserved := by
  unfold clsStep
  rw [h.aborted]
  split
  · exact ⟨h, rfl⟩
  · have hhandled := clsHandle_beside (s := ⟨c, []⟩) (t := ⟨c', []⟩) ⟨h, rfl⟩ e
    exact ⟨hhandled.cls, hhandled.out⟩

/-! ## requests of other masters -/

theorem SameApart.trans {c c' c'' : Cls} (h : SameApart c c') (h' : SameApart c' c'') :
    SameApart c c'' := by
  obtain ⟨a, b, e, heq, he⟩ := h
  obtain ⟨a', b', e', heq', he'⟩ := h'
  refine ⟨a', b', e', ?_, ?_⟩
  · rw [heq', heq]
  · rw [he', heq, he]

/-- the outcome of a request of another master: nothing changes that counts, the messages are
followed by one error frame without data to its sender -/
structure RefusedMaster (c : Cls) (v : Received) (t : ClsScope) : Prop where
  cls : SameApart c t.cls
  out : ∃ messages dg, t.out = messages ++ [.sendResponse v.remoteIp v.remotePort dg]
    ∧ (∀ x ∈ messages, ∃ message ipAddr argument2, x = .errorCb message ipAddr argument2)
    ∧ (RespFullHeaders.ofBuffer dg.byte).cyclicHeader.endCode = 0xCFE0
    ∧ dg.len = 59 + 72 * c.config.numOccupiedStations.toNat
    ∧ ∀ k, k < c.config.numOccupiedStations.toNat → wordAreasAt dg.byte 59 k = .zero
      ∧ bitAreasAt dg.byte (59 + 64 * c.config.numOccupiedStations.toNat) k = .zero

/-- a tick with a request of another master, after which `MASTER_CONTROL` goes on -/
structure ForeignRequest (c : Cls) (e : ClsEvent) : Prop where
  control : c.state = .masterControl
  request : ∃ now v r, e = .periodic now (some v) ∧ v.cyclicRequest = some r
    ∧ r.masterId ≠ c.master.masterId
  stays : (clsStep c e).1.state = .masterControl

section
variable {c : Cls} {v : Received} {r : CyclicRequest} (now : UInt32)

/-- the request is refused before anything else of it is looked at -/
theorem clsIefbHandleInputFrame_foreign (hc : c.state = .masterControl)
    (hv : v.cyclicRequest = some r) (hne : r.masterId ≠ c.master.masterId) :
    ∃ u, Reported ⟨c, []⟩ u ∧ (clsIefbHandleInputFrame now v ⟨c, []⟩).1
      = clsIefbSendCyclicResponseErrorFrame r endcodeMasterDuplication u := by
  have hmaster : clsIefbIsMasterIdCorrect c r.masterId = false := by
    unfold clsIefbIsMasterIdCorrect
    split
    · rfl
    · exact decide_eq_false hne
  have hrep := (Reported.logWarning .masterDuplication now ⟨c, []⟩).trans
    (.triggerError now .masterStationDuplication r.masterId 0 _)
  refine ⟨_, hrep, ?_⟩
  rw [clsIefbHandleInputFrame_eq, hv]
  unfold handleCyclicRequest
  simp only [hc, ne_eq, not_true_eq_false, if_false, hmaster, if_true]
  rw [clsIefbFsmEvent_wrongMaster now r hc]
  rfl

theorem clsIefbSendCyclicResponseErrorFrame_sameApart {u : ClsScope} (h : SameApart c u.cls)
    (endCode : UInt16) (hcode : clIsSlaveEndcodeValid endCode = true) :
    SameApart c (clsIefbSendCyclicResponseErrorFrame r endCode u).cls := by
  refine h.trans ?_
  unfold clsIefbSendCyclicResponseErrorFrame clsIefbSendCyclicResponseFrame
  rw [if_neg (by simp [hcode])]
  exact ⟨_, _, _, rfl, rfl⟩

theorem Reported.sameApart {s t : ClsScope} (h : Reported s t) : SameApart s.cls t.cls := by
  obtain ⟨a, b, heq⟩ := h.cls
  exact ⟨a, b, _, heq, rfl⟩

/-- **The handling of a request of another master.** -/
theorem clsIefbHandleInputFrame_refusedMaster (hf : Frames c) (hc : c.state = .masterControl)
    (hv : v.cyclicRequest = some r) (hne : r.masterId ≠ c.master.masterId) :
    RefusedMaster c v (clsIefbHandleInputFrame now v ⟨c, []⟩).1 := by
  obtain ⟨u, hrep, heq⟩ := clsIefbHandleInputFrame_foreign now hc hv hne
  have hr := Received.cyclicRequest_valid hv
  have hfu : Frames u.cls := Frames.reported (s := ⟨c, []⟩) hf hrep
  have hconfig : u.cls.config = c.config := hrep.sameApart.read fun _ _ _ _ => rfl
  have hlayout := responseToSend_layout hfu r.frameSequenceNo r.groupNo false
    endcodeMasterDuplication r.slaveIpAddr
  obtain ⟨messages, hout, hmessages⟩ := hrep.out
  rw [heq]
  refine ⟨clsIefbSendCyclicResponseErrorFrame_sameApart hrep.sameApart _ rfl, messages,
    (responseToSend u.cls r.frameSequenceNo r.groupNo false endcodeMasterDuplication
      r.slaveIpAddr).datagram, ?_, hmessages, ?_, ?_, ?_⟩
  · unfold clsIefbSendCyclicResponseErrorFrame
    rw [clsIefbSendCyclicResponseFrame_out _ _ _ _ _ _ _ _ rfl, hout, hr.remoteIp, hr.remotePort,
      List.nil_append]
  · rw [responseToSend_headers hfu]
    rfl
  · rw [← hconfig]
    exact hlayout.len
  · intro k hk
    rw [← hconfig] at hk ⊢
    exact responseToSend_data hfu r.frameSequenceNo r.groupNo false endcodeMasterDuplication
      r.slaveIpAddr hk

end

/-- in any other state the second timer is stopped -/
theorem SlaveInv.monitorTimerForDisablingSlave {t : ClsScope} (h : SlaveInv t.cls)
    (hc : t.cls.state ≠ .waitDisablingSlave) (now : UInt32) :
    monitorTimerForDisablingSlave now t = t := by
  have hstopped : t.cls.timerForDisablingSlave.state = .stopped := by
    rwa [← Timer.not_running, Ne, h.disabling]
  unfold CLink.monitorTimerForDisablingSlave
  rw [if_neg (by rw [clTimerIsExpired_stopped hstopped]; decide)]

/-- **A tick with a request of another master.**  If it does not end `MASTER_CONTROL`, then no timer
has expired. -/
theorem clsStep_foreign {hist : List ClsOutput} {c : Cls} (h : Steady hist ⟨c, []⟩) {e : ClsEvent}
    (he : ForeignRequest c e) : SameApart c (clsStep c e).1 := by
  obtain ⟨hc, ⟨now, v, r, rfl, hv, hne⟩, hstays⟩ := he
  unfold clsStep at hstays ⊢
  split at hstays
  · rw [if_pos ‹_›]
    exact .refl c
  rw [if_neg ‹_›]
  -- after the request
  obtain ⟨u, hrep, hu⟩ := clsIefbHandleInputFrame_foreign now hc hv hne
  have happart : SameApart c (clsIefbHandleInputFrame now v ⟨c, []⟩).1.cls := by
    rw [hu]
    exact clsIefbSendCyclicResponseErrorFrame_sameApart hrep.sameApart _ rfl
  have hsteady := h.inputFrame now v
  have hreceived : receiveFrame now (some v) ⟨c, []⟩ = (clsIefbHandleInputFrame now v ⟨c, []⟩).1 :=
    receiveFrame_out now v _
  simp only [clsHandle, clsIefbPeriodic, hreceived] at hstays ⊢
  generalize (clsIefbHandleInputFrame now v ⟨c, []⟩).1 = w at happart hsteady hstays ⊢
  have hw : w.cls.state = .masterControl := happart.state.trans hc
  -- the timers
  by_cases hexpired : clTimerIsExpired w.cls.receiveTimer now = true
  · have hnone : (monitorReceiveTimer now w).cls.state = .masterNone := by
      have hs : ({ w with cls := { w.cls with
          receiveTimer := clTimerStop w.cls.receiveTimer } } : ClsScope).cls.state
            = .masterControl := hw
      unfold monitorReceiveTimer
      rw [if_pos hexpired, clsIefbFsmEvent_timeoutMaster now none hs]
      show (clsIefbClearMasterInfo _).cls.state = _
      rw [clsIefbClearMasterInfo_cls]
      rfl
    rw [(hsteady.receiveTimer now).inv.monitorTimerForDisablingSlave (by rw [hnone]; decide),
      hnone] at hstays
    cases hstays
  · have hquiet : monitorReceiveTimer now w = w := by
      unfold monitorReceiveTimer
      rw [if_neg hexpired]
    rw [hquiet, hsteady.inv.monitorTimerForDisablingSlave (by rw [hw]; decide)]
    exact happart.trans ⟨_, _, _, rfl, rfl⟩

/-! ## the runs -/

namespace SlaveStart
variable {o : Options} (st : SlaveStart o)

/-- **One control master.**  After every run, a request of another master is refused and changes
nothing that counts.  Requests of other masters that are inserted into a run, at ticks that keep
`MASTER_CONTROL`, change neither the state nor the outputs of the other events, apart from
messages. -/
theorem oneControlMaster :
    (∀ es now v r, let c := (st.run es).1
      c.state = .masterControl → v.cyclicRequest = some r → r.masterId ≠ c.master.masterId →
        RefusedMaster c v (clsIefbHandleInputFrame now v ⟨c, []⟩).1)
      ∧ ∀ es : List (ClsEvent × Bool),
        slave.muted.Steps (fun c e => e.2 = true → ForeignRequest c e.1) st.init.cls es →
          SameApart (st.run (Machine.unmarked es)).1 (st.run (es.map Prod.fst)).1
            ∧ (slave.muted.run st.init.cls es).2.filter ClsOutput.isObserved
              = (slave.run st.init.cls (Machine.unmarked es)).2.filter ClsOutput.isObserved := by
  constructor
  · intro es now v r c hc hv hne
    exact clsIefbHandleInputFrame_refusedMaster now (st.run_frames es) hc hv hne
  · intro es hes
    have hrun := slave.run_insert (c := ForeignRequest) (q := ClsOutput.isObserved)
      (R := fun s t => (∃ hist, Steady hist ⟨s, []⟩) ∧ SameApart t s) ?_ ?_
      (s := st.init.cls) (t := st.init.cls) ⟨⟨_, st.init_steady.rebase⟩, .refl _⟩ hes
    · exact ⟨hrun.1.2, hrun.2⟩
    · intro s t e h he
      obtain ⟨⟨hist, hsteady⟩, happart⟩ := h
      exact ⟨⟨_, clsStep_steady hsteady e⟩, happart.trans (clsStep_foreign hsteady he)⟩
    · intro s t e h
      obtain ⟨⟨hist, hsteady⟩, happart⟩ := h
      obtain ⟨hstep, hout⟩ := clsStep_beside happart e
      exact ⟨⟨⟨_, clsStep_steady hsteady e⟩, hstep⟩, hout⟩

end SlaveStart

/-! ## a second master in the small network -/

/-- the master connects, another one asks, the first one goes on -/
def exampleForeignRun : List (ClsEvent × Bool) :=
  [ (.periodic 10 (some (exampleRequest 0xC0A80001 0 0 0xC0A80003)), false),
    (.periodic 20 (some (exampleRequest 0xC0A80009 1 0 0xC0A80003)), true),
    (.periodic 30 (some (exampleRequest 0xC0A80001 1 1 0xC0A80003)), false) ]

/-- the one request that is left out takes nothing with it, and the last one is answered -/
theorem exampleForeignRun_outputs :
    (slave.muted.run exampleSlaveStart.init.cls exampleForeignRun).2.filter ClsOutput.isObserved
        = (slave.run exampleSlaveStart.init.cls (Machine.unmarked exampleForeignRun)).2.filter
          ClsOutput.isObserved
      ∧ ((slave.muted.run exampleSlaveStart.init.cls exampleForeignRun).2.filter
          ClsOutput.isResponse).length = 2 := by
  have hsome : (exampleRequest 0xC0A80009 1 0 0xC0A80003).cyclicRequest.isSome = true := by
    decide +kernel
  obtain ⟨r, hr⟩ := Option.isSome_iff_exists.mp hsome
  have hid : r.masterId = 0xC0A80009 := (Received.cyclicRequest_valid hr).masterId
  refine ⟨(exampleSlaveStart.oneControlMaster.2 exampleForeignRun ?_).2, by decide +kernel⟩
  refine ⟨fun h => (nomatch h), fun _ => ⟨?_, ⟨20, _, r, rfl, hr, ?_⟩, ?_⟩, fun h => (nomatch h),
    trivial⟩
  · decide +kernel
  · rw [hid]
    decide +kernel
  · decide +kernel

end CLink
