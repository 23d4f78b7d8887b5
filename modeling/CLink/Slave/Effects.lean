import CLink.Slave.Handling

/-!
# What the actions of the slave change

Each function of `Fsm` by the fields it writes and the kinds of outputs it adds, so that the proofs
about runs do not unfold it.

* `Adds p s t`     the outputs that `t` has on top of those of `s` are not of kind `p`;
* `Kept c c'`      state, stored master, timers and callback data are the same;
* `.._cls`         the instance after a function, as an update of the one before.
-/

namespace CLink

/-! ## outputs of a part of a step -/

/-- `t` adds outputs to those of `s`, none of them with `p` -/
def Adds (p : ClsOutput → Bool) (s t : ClsScope) : Prop :=
  ∃ o, t.out = s.out ++ o ∧ ∀ x ∈ o, p x = false

namespace Adds
variable {p : ClsOutput → Bool} {s t u : ClsScope}

theorem of_eq (h : t.out = s.out) : Adds p s t :=
  ⟨[], by rw [h, List.append_nil], fun _ hx => nomatch hx⟩

theorem emit {x : ClsOutput} (hx : p x = false) (s : ClsScope) : Adds p s (s.emit x) :=
  ⟨[x], rfl, fun _ hy => List.mem_singleton.mp hy ▸ hx⟩

theorem trans (h : Adds p s t) (h' : Adds p t u) : Adds p s u := by
  obtain ⟨o, ho, hp⟩ := h
  obtain ⟨o', ho', hp'⟩ := h'
  refine ⟨o ++ o', by rw [ho', ho, List.append_assoc], ?_⟩
  intro x hx
  rcases List.mem_append.mp hx with hx | hx
  · exact hp x hx
  · exact hp' x hx

/-- the outputs with `p` stay the same, whatever came before -/
theorem filter (h : Adds p s t) (hist : List ClsOutput) :
    (hist ++ t.out).filter p = (hist ++ s.out).filter p := by
  obtain ⟨o, ho, hp⟩ := h
  have hnone : o.filter p = [] := by
    rw [List.filter_eq_nil_iff]
    intro x hx
    rw [hp x hx]
    exact Bool.false_ne_true
  rw [ho, ← List.append_assoc, List.filter_append, hnone, List.append_nil]

end Adds

theorem Reported.adds {p : ClsOutput → Bool} {s t : ClsScope}
    (hp : ∀ message ipAddr argument2, p (.errorCb message ipAddr argument2) = false)
    (h : Reported s t) : Adds p s t := by
  obtain ⟨o, ho, hq⟩ := h.out
  refine ⟨o, ho, ?_⟩
  intro x hx
  obtain ⟨message, ipAddr, argument2, rfl⟩ := hq x hx
  exact hp message ipAddr argument2

theorem leaveFor_adds {p : ClsOutput → Bool} (hp : p .disconnectCb = false) (s : ClsScope)
    (next : SlaveState) : Adds p s (s.leaveFor next) := by
  unfold ClsScope.leaveFor
  split
  · exact .emit hp s
  · exact .of_eq rfl

/-! ## what the actions change -/

/-- the fields that `SlaveInv` and the callbacks depend on -/
structure Kept (c c' : Cls) : Prop where
  state : c'.state = c.state
  master : c'.master = c.master
  receiveTimer : c'.receiveTimer = c.receiveTimer
  timerForDisablingSlave : c'.timerForDisablingSlave = c.timerForDisablingSlave
  triggerData : c'.triggerData = c.triggerData

theorem Kept.trans {c c' c'' : Cls} (h : Kept c c') (h' : Kept c' c'') : Kept c c'' :=
  ⟨h'.state.trans h.state, h'.master.trans h.master, h'.receiveTimer.trans h.receiveTimer,
    h'.timerForDisablingSlave.trans h.timerForDisablingSlave, h'.triggerData.trans h.triggerData⟩

theorem Reported.kept {s t : ClsScope} (h : Reported s t) : Kept s.cls t.cls := by
  obtain ⟨a, b, hcls⟩ := h.cls
  rw [hcls]
  exact ⟨rfl, rfl, rfl, rfl, rfl⟩

section
variable (frameSequenceNo groupNo : UInt16) (includeData : Bool) (endCode : UInt16)
  (remoteIp : IpAddr) (remotePort : UInt16) (slaveIpAddr : IpAddr) (s : ClsScope)

theorem clsIefbSendCyclicResponseFrame_cls : ∃ normal error aborted,
    (clsIefbSendCyclicResponseFrame frameSequenceNo groupNo includeData endCode remoteIp remotePort
      slaveIpAddr s).cls = { s.cls with
        cciefbRespFrameNormal := normal
        cciefbRespFrameError := error
        aborted := aborted } := by
  unfold clsIefbSendCyclicResponseFrame
  split
  · exact ⟨_, _, true, rfl⟩
  · simp only
    split
    · exact ⟨_, s.cls.cciefbRespFrameError, s.cls.aborted, rfl⟩
    · exact ⟨s.cls.cciefbRespFrameNormal, _, s.cls.aborted, rfl⟩

theorem clsIefbSendCyclicResponseFrame_out (h : clIsSlaveEndcodeValid endCode = true) :
    (clsIefbSendCyclicResponseFrame frameSequenceNo groupNo includeData endCode remoteIp remotePort
      slaveIpAddr s).out = s.out ++ [.sendResponse remoteIp remotePort
        (responseToSend s.cls frameSequenceNo groupNo includeData endCode slaveIpAddr).datagram] := by
  unfold clsIefbSendCyclicResponseFrame
  rw [if_neg (by simp [h])]

theorem clsIefbSendCyclicResponseFrame_kept :
    Kept s.cls (clsIefbSendCyclicResponseFrame frameSequenceNo groupNo includeData endCode remoteIp
      remotePort slaveIpAddr s).cls := by
  obtain ⟨_, _, _, hcls⟩ := clsIefbSendCyclicResponseFrame_cls frameSequenceNo groupNo includeData
    endCode remoteIp remotePort slaveIpAddr s
  rw [hcls]
  exact ⟨rfl, rfl, rfl, rfl, rfl⟩

theorem clsIefbSendCyclicResponseFrame_adds {p : ClsOutput → Bool}
    (hp : ∀ ip port dg, p (.sendResponse ip port dg) = false) :
    Adds p s (clsIefbSendCyclicResponseFrame frameSequenceNo groupNo includeData endCode remoteIp
      remotePort slaveIpAddr s) := by
  unfold clsIefbSendCyclicResponseFrame
  split
  · exact .of_eq rfl
  · exact ⟨[_], rfl, fun x hx => List.mem_singleton.mp hx ▸ hp _ _ _⟩

end

section
variable (connectedToMaster : Bool) (protocolVer masterApplicationStatus : UInt16) (s : ClsScope)

theorem clsIefbHandleMasterStateCallback_cls :
    (clsIefbHandleMasterStateCallback connectedToMaster protocolVer masterApplicationStatus s).cls
      = { s.cls with triggerData :=
            ⟨true, connectedToMaster, protocolVer, masterApplicationStatus⟩ } := by
  unfold clsIefbHandleMasterStateCallback
  simp only
  split <;> rfl

theorem clsIefbHandleMasterStateCallback_adds {p : ClsOutput → Bool}
    (hp : ∀ a b c d e, p (.masterRunningCb a b c d e) = false) :
    Adds p s (clsIefbHandleMasterStateCallback connectedToMaster protocolVer
      masterApplicationStatus s) := by
  have hfilter : p (clsIefbFilterMasterStateCallbackValues connectedToMaster protocolVer
      masterApplicationStatus) = false := by
    unfold clsIefbFilterMasterStateCallbackValues
    split <;> exact hp _ _ _ _ _
  unfold clsIefbHandleMasterStateCallback
  simp only
  split
  · exact ⟨[_], rfl, fun x hx => List.mem_singleton.mp hx ▸ hfilter⟩
  · exact .of_eq rfl

end

theorem clsIefbClearMasterInfo_cls (s : ClsScope) :
    (clsIefbClearMasterInfo s).cls = { s.cls with
      master := .zero
      receiveTimer := clTimerStop s.cls.receiveTimer
      timerForDisablingSlave := clTimerStop s.cls.timerForDisablingSlave
      triggerData := ⟨true, false, 0, 0⟩ } :=
  clsIefbHandleMasterStateCallback_cls ..

theorem clsIefbHandleNewOrUpdatedMaster_cls (now : UInt32) (r : CyclicRequest) (s : ClsScope) :
    ∃ period, (clsIefbHandleNewOrUpdatedMaster now r s).1.cls = { s.cls with
      master := s.cls.master.update r
      receiveTimer := clTimerStart s.cls.receiveTimer period now
      triggerData := ⟨true, true, r.protocolVer, r.masterLocalUnitInfo⟩ } :=
  ⟨_, clsIefbHandleMasterStateCallback_cls ..⟩

theorem clsIefbHandleNewOrUpdatedMaster_adds (now : UInt32) (r : CyclicRequest) (s : ClsScope)
    {p : ClsOutput → Bool} (hp : ∀ ip g q, p (.connectCb ip g q) = false)
    (hp' : ∀ a b c d e, p (.masterRunningCb a b c d e) = false) :
    Adds p s (clsIefbHandleNewOrUpdatedMaster now r s).1 := by
  have h := (Adds.emit (hp r.masterId r.groupNo s.cls.master.slaveStationNo) s).trans
    (.of_eq (t := { s.emit (.connectCb r.masterId r.groupNo s.cls.master.slaveStationNo) with
      cls := { s.cls with
        master := s.cls.master.update r
        receiveTimer := clTimerStart s.cls.receiveTimer
          (clCalculateTotalTimeoutUs r.fullHeaders.cyclicDataHeader.timeoutValue
            r.fullHeaders.cyclicDataHeader.parallelOffTimeoutCount).toUInt32 now } }) rfl)
  exact h.trans (clsIefbHandleMasterStateCallback_adds true r.protocolVer r.masterLocalUnitInfo _ hp')

theorem answerRequest_cls (now : UInt32) (r : CyclicRequest) (bit : Bool) (s : ClsScope) :
    ∃ normal error aborted, (answerRequest now r bit s).cls = { s.cls with
      triggerData := ⟨true, true, r.protocolVer, r.masterLocalUnitInfo⟩
      receiveTimer := clTimerRestart s.cls.receiveTimer now
      cciefbRespFrameNormal := normal
      cciefbRespFrameError := error
      aborted := aborted } := by
  obtain ⟨normal, error, aborted, hcls⟩ := clsIefbSendCyclicResponseFrame_cls r.frameSequenceNo
    r.groupNo bit endcodeSuccess r.remoteIp r.remotePort r.slaveIpAddr
    (clsIefbHandleMasterStateCallback true r.protocolVer r.masterLocalUnitInfo s)
  refine ⟨normal, error, aborted, ?_⟩
  simp only [answerRequest, hcls, clsIefbHandleMasterStateCallback_cls]

theorem answerRequest_adds (now : UInt32) (r : CyclicRequest) (bit : Bool) (s : ClsScope)
    {p : ClsOutput → Bool} (hp : ∀ ip port dg, p (.sendResponse ip port dg) = false)
    (hp' : ∀ a b c d e, p (.masterRunningCb a b c d e) = false) :
    Adds p s (answerRequest now r bit s) := by
  have h := (clsIefbHandleMasterStateCallback_adds true r.protocolVer r.masterLocalUnitInfo s
    hp').trans (clsIefbSendCyclicResponseFrame_adds r.frameSequenceNo r.groupNo bit endcodeSuccess
      r.remoteIp r.remotePort r.slaveIpAddr _ hp)
  exact h

/-! ## events without a request -/

section
variable {p : ClsOutput → Bool} (hdisconnect : p .disconnectCb = false)
  (hreport : ∀ a b c d e, p (.masterRunningCb a b c d e) = false)
include hdisconnect hreport

theorem performOption_adds (now : UInt32) (action : Option SlaveAction) (s : ClsScope) :
    Adds p s (performOption now none action s).1 := by
  have hclear (t : ClsScope) : Adds p t (clsIefbClearMasterInfo t) :=
    clsIefbHandleMasterStateCallback_adds _ _ _
      { t with cls := { t.cls with
        master := .zero
        receiveTimer := clTimerStop t.cls.receiveTimer
        timerForDisablingSlave := clTimerStop t.cls.timerForDisablingSlave } } hreport
  cases action with
  | none => exact .of_eq rfl
  | some action =>
    cases action with
    | slaveInit =>
      have h := hclear { s with cls := { s.cls with
        receiveTimer := clTimerStop s.cls.receiveTimer
        timerForDisablingSlave := clTimerStop s.cls.timerForDisablingSlave
        cyclicDataArea := .zero
        triggerData := .zero } }
      exact h.trans (.of_eq rfl)
    | onEntryMasterNone => exact hclear s
    | onEntryWaitDisablingSlave => exact (hclear s).trans (.of_eq rfl)
    | onExitMasterControl => exact .emit hdisconnect s
    | onEntrySlaveDisabled => exact .of_eq rfl
    | handleNewOrUpdatedMaster | handleWrongStationcount | handleWrongMaster | handleCyclicEvent
    | handleIncomingWhenDisabled | logTimeoutMaster | logIpAddrUpdated | logSlaveDisabled
    | logSlaveReenabled => exact .of_eq rfl

/-- no response and no connection comes from an event without a request -/
theorem clsIefbFsmEvent_noRequest_adds (now : UInt32) {event : SlaveEvent} {s : ClsScope}
    (hstate : ∀ next, (slaveFsmMatrix s.cls.state event).1 = next → next ≠ s.cls.state →
      p (.stateCb next) = false) :
    Adds p s (clsIefbFsmEvent now none event s) := by
  rw [clsIefbFsmEvent_noRequest]
  rcases hm : slaveFsmMatrix s.cls.state event with ⟨next, action⟩
  rw [hm] at hstate
  by_cases hne : next = s.cls.state
  · rw [slaveFsmRound_stay now none (hm.trans (by rw [hne]))]
    exact performOption_adds hdisconnect hreport now _ s
  · rw [slaveFsmRound_change now none hm hne]
    refine (leaveFor_adds hdisconnect s next).trans ?_
    refine (performOption_adds hdisconnect hreport now action _).trans ?_
    exact (performOption_adds hdisconnect hreport now _ _).trans (.emit (hstate next rfl hne) _)

end

end CLink
