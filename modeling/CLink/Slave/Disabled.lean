import CLink.Slave.Responses

/-!
# A disabled slave

Between `cls_iefb_disable_slave` and `cls_iefb_reenable_slave`.

* `StaysDisabled`                    what the functions keep in the two states of a disabled slave;
* `clsStep_staysDisabled`            every event but the re-enabling keeps it;
* `clsIefbHandleInputFrame_disabled` the error frame, or nothing;
* `SlaveStart.disabledSlave`         every run.
-/

namespace CLink
open Loop

/-! ## the calls of the application -/

/-- the end code that `cls_iefb_disable_slave` stores -/
def disabledEndCode (isError : Bool) : UInt16 :=
  if isError then endcodeSlaveError else endcodeSlaveRequestsDisconnect

def ClsEvent.isReenable : ClsEvent → Bool
  | reenableSlave _ => true
  | _ => false

/-- the end code after one event -/
def ClsEvent.endCodeAfter (endCode : UInt16) : ClsEvent → UInt16
  | disableSlave _ isError => disabledEndCode isError
  | _ => endCode

/-- the end code of the latest `cls_iefb_disable_slave` in `es`, `endCode` without one -/
def latestEndCode (endCode : UInt16) (es : List ClsEvent) : UInt16 :=
  es.foldl ClsEvent.endCodeAfter endCode

theorem latestEndCode_concat (endCode : UInt16) (es : List ClsEvent) (e : ClsEvent) :
    latestEndCode endCode (es ++ [e]) = e.endCodeAfter (latestEndCode endCode es) :=
  List.foldl_concat ..

theorem latestEndCode_cases {endCode : UInt16} (es : List ClsEvent)
    (h : endCode = endcodeSlaveError ∨ endCode = endcodeSlaveRequestsDisconnect) :
    latestEndCode endCode es = endcodeSlaveError
      ∨ latestEndCode endCode es = endcodeSlaveRequestsDisconnect := by
  induction es using List.reverseRecOn with
  | nil => exact h
  | append_singleton es e ih =>
    rw [latestEndCode_concat]
    cases e with
    | disableSlave now isError =>
      cases isError with
      | true => exact Or.inl rfl
      | false => exact Or.inr rfl
    | periodic | reenableSlave | setLocalManagementInfo | setSlaveApplicationStatus
    | setSlaveErrorCode | setRxBit | setRwrValue | writeMemoryArea => exact ih

/-! ## the states of a disabled slave -/

def SlaveState.isDisabled : SlaveState → Bool
  | waitDisablingSlave => true
  | slaveDisabled => true
  | _ => false

/-- a disabled slave stays one, `SLAVE_DISABLED` is not left, and the stored data stays -/
structure StaysDisabled (c c' : Cls) : Prop where
  state : c'.state = c.state ∨ c'.state = .slaveDisabled
  area : c'.cyclicDataArea = c.cyclicDataArea

namespace StaysDisabled
variable {c c' c'' : Cls} {s t : ClsScope}

theorem refl (c : Cls) : StaysDisabled c c := ⟨Or.inl rfl, rfl⟩

theorem trans (h : StaysDisabled c c') (h' : StaysDisabled c' c'') : StaysDisabled c c'' := by
  refine ⟨?_, h'.area.trans h.area⟩
  rcases h'.state with hs | hs
  · rcases h.state with hs' | hs'
    · exact Or.inl (hs.trans hs')
    · exact Or.inr (hs.trans hs')
  · exact Or.inr hs

theorem isDisabled (h : StaysDisabled c c') (hc : c.state.isDisabled = true) :
    c'.state.isDisabled = true := by
  rcases h.state with hs | hs
  · rw [hs]
    exact hc
  · rw [hs]
    rfl

theorem reported (h : Reported s t) : StaysDisabled s.cls t.cls := by
  obtain ⟨errorlimiter, loglimiter, hcls⟩ := h.cls
  rw [hcls]
  exact ⟨Or.inl rfl, rfl⟩

end StaysDisabled

theorem SlaveState.isDisabled_iff {state : SlaveState} :
    state.isDisabled = true ↔ state = .waitDisablingSlave ∨ state = .slaveDisabled := by
  cases state <;> decide

/-! ## one request -/

section
variable (now : UInt32) {r : CyclicRequest} {v : Received} {c : Cls} {s t : ClsScope}

/-- a request to a disabled slave is dropped or refused with the stored end code -/
theorem Handled.disabled (h : Handled now r s t) (hs : s.cls.state.isDisabled = true) :
    Reported s t
      ∨ ∃ u q, Reported s u ∧ s.cls.state = .waitDisablingSlave
        ∧ FoundStation r q s.cls.config.numOccupiedStations ∧ r.bit q = true
        ∧ t = clsIefbSendCyclicResponseErrorFrame r s.cls.endcodeSlaveDisabled u := by
  have habsurd {state : SlaveState} (hstate : s.cls.state = state)
      (hne : state.isDisabled = false) : False := by
    rw [hstate, hne] at hs
    cases hs
  cases h with
  | dropped hrep => exact Or.inl hrep
  | refused hrep hrefusal =>
    cases hrefusal with
    | wrongMaster hc _ => exact (habsurd hc rfl).elim
    | wrongStationcount q hc _ => exact (habsurd hc rfl).elim
    | disabled q hc hfound hbit => exact Or.inr ⟨_, q, hrep, hc, hfound, hbit, rfl⟩
  | disconnected _ hc _ => exact (habsurd hc rfl).elim
  | correctMaster hc _ _ => exact (habsurd hc rfl).elim
  | updatedMaster _ hc _ _ _ => exact (habsurd hc rfl).elim
  | newMaster _ hc _ _ => exact (habsurd hc rfl).elim

theorem clsIefbSendCyclicResponseErrorFrame_staysDisabled (endCode : UInt16) (s : ClsScope) :
    StaysDisabled s.cls (clsIefbSendCyclicResponseErrorFrame r endCode s).cls := by
  obtain ⟨normal, error, aborted, hcls⟩ := clsIefbSendCyclicResponseFrame_cls r.frameSequenceNo
    r.groupNo false endCode r.remoteIp r.remotePort r.slaveIpAddr s
  unfold clsIefbSendCyclicResponseErrorFrame
  rw [hcls]
  exact ⟨Or.inl rfl, rfl⟩

theorem clsIefbHandleInputFrame_staysDisabled (hs : s.cls.state.isDisabled = true)
    (v : Received) :
    StaysDisabled s.cls (clsIefbHandleInputFrame now v s).1.cls
      ∧ (clsIefbHandleInputFrame now v s).1.cls.endcodeSlaveDisabled
        = s.cls.endcodeSlaveDisabled := by
  rw [clsIefbHandleInputFrame_eq]
  cases v.cyclicRequest with
  | none => exact ⟨.refl _, rfl⟩
  | some r =>
    have hcode {u : ClsScope} (h : Reported s u) :
        u.cls.endcodeSlaveDisabled = s.cls.endcodeSlaveDisabled := by
      obtain ⟨errorlimiter, loglimiter, hcls⟩ := h.cls
      rw [hcls]
    rcases (handleCyclicRequest_handled now (r := r) (s := s)).disabled now hs with
      h | ⟨u, q, hrep, _, _, _, heq⟩
    · exact ⟨.reported h, hcode h⟩
    · simp only [heq]
      refine ⟨(StaysDisabled.reported hrep).trans
        (clsIefbSendCyclicResponseErrorFrame_staysDisabled _ u), ?_⟩
      obtain ⟨normal, error, aborted, hcls⟩ := clsIefbSendCyclicResponseFrame_cls
        r.frameSequenceNo r.groupNo false s.cls.endcodeSlaveDisabled r.remoteIp r.remotePort
        r.slaveIpAddr u
      unfold clsIefbSendCyclicResponseErrorFrame
      rw [hcls]
      exact hcode hrep

/-- **What a disabled slave sends.** -/
theorem clsIefbHandleInputFrame_disabled (hf : Frames c) (hc : c.state.isDisabled = true)
    {x : ClsOutput}
    (hx : x ∈ (clsIefbHandleInputFrame now v ⟨c, []⟩).1.out.filter ClsOutput.isResponse) :
    c.state = .waitDisablingSlave ∧ ∃ r q, v.cyclicRequest = some r
      ∧ FoundStation r q c.config.numOccupiedStations ∧ r.bit q = true
      ∧ x = .sendResponse v.remoteIp v.remotePort (responseToSend c r.frameSequenceNo r.groupNo
        false c.endcodeSlaveDisabled v.slaveIpAddr).datagram := by
  rw [clsIefbHandleInputFrame_eq] at hx
  cases hv : v.cyclicRequest with
  | none =>
    rw [hv] at hx
    exact absurd hx List.not_mem_nil
  | some r =>
    rw [hv] at hx
    simp only at hx
    have hr := Received.cyclicRequest_valid hv
    rcases (handleCyclicRequest_handled now (r := r) (s := ⟨c, []⟩)).disabled now hc with
      h | ⟨u, q, hrep, hwait, hfound, hbit, heq⟩
    · have hadds : Adds ClsOutput.isResponse ⟨c, []⟩ (handleCyclicRequest now r ⟨c, []⟩).1 :=
        h.adds fun _ _ _ => rfl
      have hfilter := hadds.filter []
      rw [List.nil_append, List.nil_append] at hfilter
      rw [hfilter] at hx
      exact absurd hx List.not_mem_nil
    · have hcode := (Refusal.disabled (c := c) q hwait hfound hbit).valid hf
      have hadds : Adds ClsOutput.isResponse ⟨c, []⟩ u := hrep.adds fun _ _ _ => rfl
      have hrefuses : Refuses c v r c.endcodeSlaveDisabled ⟨c, []⟩
          (clsIefbSendCyclicResponseErrorFrame r c.endcodeSlaveDisabled u) :=
        .of_adds hadds
          (clsIefbSendCyclicResponseErrorFrame_refuses (c := c) hr hrep.reply hcode)
      rw [heq, hrefuses] at hx
      exact ⟨hwait, r, q, rfl, hfound, hbit, List.mem_singleton.mp hx⟩

end

/-! ## one event -/

/-- an event without a row in the two states -/
theorem clsIefbFsmEvent_disabledIdle (now : UInt32) {event : SlaveEvent} {s : ClsScope}
    (hs : s.cls.state.isDisabled = true)
    (hwait : slaveFsmMatrix .waitDisablingSlave event = (.waitDisablingSlave, none))
    (hoff : slaveFsmMatrix .slaveDisabled event = (.slaveDisabled, none)) :
    clsIefbFsmEvent now none event s = s := by
  refine clsIefbFsmEvent_idle now none ?_
  rcases SlaveState.isDisabled_iff.mp hs with h | h
  · rw [h]
    exact hwait
  · rw [h]
    exact hoff

section
variable (now : UInt32) {s : ClsScope} (hs : s.cls.state.isDisabled = true)
include hs

theorem monitorReceiveTimer_staysDisabled :
    StaysDisabled s.cls (monitorReceiveTimer now s).cls
      ∧ (monitorReceiveTimer now s).cls.endcodeSlaveDisabled = s.cls.endcodeSlaveDisabled := by
  unfold monitorReceiveTimer
  split
  · have hidle : clsIefbFsmEvent now none .timeoutMaster { s with cls := { s.cls with
          receiveTimer := clTimerStop s.cls.receiveTimer } }
        = { s with cls := { s.cls with receiveTimer := clTimerStop s.cls.receiveTimer } } :=
      clsIefbFsmEvent_disabledIdle now hs rfl rfl
    rw [hidle]
    exact ⟨⟨Or.inl rfl, rfl⟩, rfl⟩
  · exact ⟨.refl _, rfl⟩

theorem monitorTimerForDisablingSlave_staysDisabled :
    StaysDisabled s.cls (monitorTimerForDisablingSlave now s).cls
      ∧ (monitorTimerForDisablingSlave now s).cls.endcodeSlaveDisabled
        = s.cls.endcodeSlaveDisabled := by
  unfold monitorTimerForDisablingSlave
  split
  · let t : ClsScope := { s with cls := { s.cls with
      timerForDisablingSlave := clTimerStop s.cls.timerForDisablingSlave } }
    show StaysDisabled s.cls (clsIefbFsmEvent now none .disableSlaveWaitEnded t).cls
      ∧ (clsIefbFsmEvent now none .disableSlaveWaitEnded t).cls.endcodeSlaveDisabled
        = s.cls.endcodeSlaveDisabled
    rcases SlaveState.isDisabled_iff.mp hs with h | h
    · have hne : ¬ t.cls.state = .masterControl := by
        show ¬ s.cls.state = .masterControl
        rw [h]
        exact SlaveState.noConfusion
      rw [clsIefbFsmEvent_disableSlaveWaitEnded (s := t) now none h]
      simp only [ClsScope.emit, clsIefbOnEntrySlaveDisabled, ClsScope.leaveFor, if_neg hne]
      exact ⟨⟨Or.inr rfl, rfl⟩, rfl⟩
    · have hidle : clsIefbFsmEvent now none .disableSlaveWaitEnded t = t := by
        refine clsIefbFsmEvent_idle now none ?_
        show slaveFsmMatrix s.cls.state .disableSlaveWaitEnded = (s.cls.state, none)
        rw [h]
        rfl
      rw [hidle]
      exact ⟨⟨Or.inl rfl, rfl⟩, rfl⟩
  · exact ⟨.refl _, rfl⟩

theorem clsIefbPeriodic_staysDisabled (received : Option Received) :
    StaysDisabled s.cls (clsIefbPeriodic now received s).cls
      ∧ (clsIefbPeriodic now received s).cls.endcodeSlaveDisabled
        = s.cls.endcodeSlaveDisabled := by
  have hreceive : StaysDisabled s.cls (receiveFrame now received s).cls
      ∧ (receiveFrame now received s).cls.endcodeSlaveDisabled = s.cls.endcodeSlaveDisabled := by
    cases received with
    | none => exact ⟨.refl _, rfl⟩
    | some v =>
      rw [receiveFrame_out]
      exact clsIefbHandleInputFrame_staysDisabled now hs v
  obtain ⟨h1, e1⟩ := hreceive
  obtain ⟨h2, e2⟩ := monitorReceiveTimer_staysDisabled now (h1.isDisabled hs)
  obtain ⟨h3, e3⟩ := monitorTimerForDisablingSlave_staysDisabled now
    (h2.isDisabled (h1.isDisabled hs))
  have h := (h1.trans h2).trans h3
  exact ⟨⟨h.state, h.area⟩, e3.trans (e2.trans e1)⟩

end

/-- **Every event but the re-enabling.**  After a failing assertion nothing changes. -/
theorem clsStep_staysDisabled {c : Cls} (hc : c.state.isDisabled = true) {e : ClsEvent}
    (he : e.isReenable = false) :
    StaysDisabled c (clsStep c e).1
      ∧ (c.aborted = false →
        (clsStep c e).1.endcodeSlaveDisabled = e.endCodeAfter c.endcodeSlaveDisabled) := by
  unfold clsStep
  split
  · rename_i habort
    exact ⟨.refl c, fun h => absurd (habort.symm.trans h) Bool.true_eq_false.mp⟩
  cases e with
  | reenableSlave now => cases he
  | periodic now received =>
    obtain ⟨h, hcode⟩ := clsIefbPeriodic_staysDisabled now (s := ⟨c, []⟩) hc received
    exact ⟨h, fun _ => hcode⟩
  | disableSlave now isError =>
    have hidle : clsHandle (.disableSlave now isError) ⟨c, []⟩
        = ⟨{ c with endcodeSlaveDisabled := disabledEndCode isError }, []⟩ :=
      clsIefbFsmEvent_disabledIdle now hc rfl rfl
    rw [hidle]
    exact ⟨⟨Or.inl rfl, rfl⟩, fun _ => rfl⟩
  | setRxBit number value =>
    show StaysDisabled c (clsIefbSetRxBit number value ⟨c, []⟩).cls ∧ _
    unfold clsHandle clsIefbSetRxBit
    simp only
    split
    · exact ⟨⟨Or.inl rfl, rfl⟩, fun _ => rfl⟩
    · exact ⟨⟨Or.inl rfl, rfl⟩, fun _ => rfl⟩
  | setRwrValue number value =>
    show StaysDisabled c (clsIefbSetRwrValue number value ⟨c, []⟩).cls ∧ _
    unfold clsHandle clsIefbSetRwrValue
    simp only
    split
    · exact ⟨⟨Or.inl rfl, rfl⟩, fun _ => rfl⟩
    · exact ⟨⟨Or.inl rfl, rfl⟩, fun _ => rfl⟩
  | setLocalManagementInfo | setSlaveApplicationStatus | setSlaveErrorCode | writeMemoryArea =>
    exact ⟨⟨Or.inl rfl, rfl⟩, fun _ => rfl⟩

/-- **What one event sends.** -/
theorem clsStep_disabledResponse {c : Cls} (hf : Frames c) (hc : c.state.isDisabled = true)
    {e : ClsEvent} {x : ClsOutput} (hx : x ∈ (clsStep c e).2) (hresponse : x.isResponse = true) :
    c.aborted = false ∧ c.state = .waitDisablingSlave
      ∧ ∃ now v r q, e = .periodic now (some v) ∧ v.cyclicRequest = some r
        ∧ FoundStation r q c.config.numOccupiedStations ∧ r.bit q = true
        ∧ x = .sendResponse v.remoteIp v.remotePort (responseToSend c r.frameSequenceNo r.groupNo
          false c.endcodeSlaveDisabled v.slaveIpAddr).datagram := by
  have hlive : c.aborted = false := by
    by_contra habort
    rw [Bool.not_eq_false] at habort
    have hnone : (clsStep c e).2 = [] := by
      unfold clsStep
      rw [if_pos habort]
    rw [hnone] at hx
    exact absurd hx List.not_mem_nil
  have hmem : x ∈ responsesTo c e := by
    rw [← clsStep_responses hlive]
    exact List.mem_filter.mpr ⟨hx, hresponse⟩
  cases e with
  | periodic now received =>
    cases received with
    | none => exact absurd hmem List.not_mem_nil
    | some v =>
      obtain ⟨hwait, r, q, hv, hfound, hbit, heq⟩ :=
        clsIefbHandleInputFrame_disabled now hf hc hmem
      exact ⟨hlive, hwait, now, v, r, q, rfl, hv, hfound, hbit, heq⟩
  | disableSlave | reenableSlave | setLocalManagementInfo | setSlaveApplicationStatus
  | setSlaveErrorCode | setRxBit | setRwrValue | writeMemoryArea =>
    exact absurd hmem List.not_mem_nil

/-- the event of the call, in any state but `SLAVE_DOWN` -/
theorem clsIefbFsmEvent_disableSlave (now : UInt32) {s : ClsScope}
    (h : s.cls.state ≠ .slaveDown) :
    (clsIefbFsmEvent now none .disableSlave s).cls.state.isDisabled = true
      ∧ (clsIefbFsmEvent now none .disableSlave s).cls.cyclicDataArea = s.cls.cyclicDataArea
      ∧ (clsIefbFsmEvent now none .disableSlave s).cls.endcodeSlaveDisabled
        = s.cls.endcodeSlaveDisabled := by
  have hidle (hs : s.cls.state.isDisabled = true) :
      clsIefbFsmEvent now none .disableSlave s = s :=
    clsIefbFsmEvent_disabledIdle now hs rfl rfl
  rcases hs : s.cls.state with _ | _ | _ | _ | _
  case slaveDown => exact absurd hs h
  case masterNone =>
    have hne : ¬ s.cls.state = .masterControl := by
      rw [hs]
      exact SlaveState.noConfusion
    rw [clsIefbFsmEvent_disableSlave_none now none hs]
    simp only [ClsScope.emit, clsIefbOnEntrySlaveDisabled, ClsScope.leaveFor, if_neg hne]
    exact ⟨rfl, trivial, trivial⟩
  case masterControl =>
    rw [clsIefbFsmEvent_disableSlave_control now none hs]
    simp only [ClsScope.emit, clsIefbOnEntryWaitDisablingSlave, clsIefbClearMasterInfo_cls,
      ClsScope.leaveFor, if_pos hs]
    exact ⟨rfl, trivial, trivial⟩
  case slaveDisabled =>
    have hdisabled : s.cls.state.isDisabled = true := by
      rw [hs]
      rfl
    rw [hidle hdisabled]
    exact ⟨hdisabled, rfl, rfl⟩
  case waitDisablingSlave =>
    have hdisabled : s.cls.state.isDisabled = true := by
      rw [hs]
      rfl
    rw [hidle hdisabled]
    exact ⟨hdisabled, rfl, rfl⟩

/-- **The call itself**, in any state that a run can reach. -/
theorem clsStep_disableSlave {c : Cls} (h : SlaveInv c) (hlive : c.aborted = false) (now : UInt32)
    (isError : Bool) :
    (clsStep c (.disableSlave now isError)).1.state.isDisabled = true
      ∧ (clsStep c (.disableSlave now isError)).1.cyclicDataArea = c.cyclicDataArea
      ∧ (clsStep c (.disableSlave now isError)).1.endcodeSlaveDisabled
        = disabledEndCode isError := by
  have hstep : clsStep c (.disableSlave now isError)
      = ((clsIefbDisableSlave now isError ⟨c, []⟩).cls,
        (clsIefbDisableSlave now isError ⟨c, []⟩).out) := by
    unfold clsStep
    rw [if_neg (by rw [hlive]; decide)]
    rfl
  rw [hstep]
  exact clsIefbFsmEvent_disableSlave now h.notDown

/-! ## runs -/

/-- the slave after the call and the events `es` without a re-enabling; `endCode` is that of the
latest call -/
structure Disabled (endCode : UInt16) (area : ClsMemoryArea) (c : Cls) : Prop where
  state : c.state.isDisabled = true
  area : c.cyclicDataArea = area
  endCode : c.aborted = false → c.endcodeSlaveDisabled = endCode

/-- a failing assertion ends the program -/
theorem clsStep_aborted {c : Cls} {e : ClsEvent} (h : (clsStep c e).1.aborted = false) :
    c.aborted = false := by
  unfold clsStep at h
  split at h
  · exact h
  · rename_i hc
    exact Bool.eq_false_iff.mpr hc

theorem Disabled.step {endCode : UInt16} {area : ClsMemoryArea} {c : Cls}
    (h : Disabled endCode area c) {e : ClsEvent} (he : e.isReenable = false) :
    Disabled (e.endCodeAfter endCode) area (clsStep c e).1 := by
  obtain ⟨hstays, hcode⟩ := clsStep_staysDisabled h.state he
  refine ⟨hstays.isDisabled h.state, hstays.area.trans h.area, ?_⟩
  intro hlive
  have hbefore := clsStep_aborted hlive
  rw [hcode hbefore, h.endCode hbefore]

namespace SlaveStart
variable {o : Options} (st : SlaveStart o)

theorem run_concat (es : List ClsEvent) (e : ClsEvent) :
    (st.run (es ++ [e])).1 = (clsStep (st.run es).1 e).1 := by
  unfold SlaveStart.run
  rw [slave.run_append]
  rfl

theorem run_disabled (before : List ClsEvent) (hlive : (st.run before).1.aborted = false)
    (now : UInt32) (isError : Bool) {es : List ClsEvent}
    (hes : ∀ e ∈ es, e.isReenable = false) :
    Disabled (latestEndCode (disabledEndCode isError) es) (st.run before).1.cyclicDataArea
      (st.run (before ++ .disableSlave now isError :: es)).1 := by
  induction es using List.reverseRecOn with
  | nil =>
    rw [st.run_concat]
    obtain ⟨hstate, harea, hcode⟩ :=
      clsStep_disableSlave (st.run_steady before).inv hlive now isError
    exact ⟨hstate, harea, fun _ => hcode⟩
  | append_singleton es e ih =>
    have hbegin : before ++ .disableSlave now isError :: (es ++ [e])
        = (before ++ .disableSlave now isError :: es) ++ [e] := by
      rw [List.append_assoc, List.cons_append]
    rw [hbegin, st.run_concat, latestEndCode_concat]
    refine (ih ?_).step (hes e (by simp))
    intro e' he'
    exact hes e' (List.mem_append_left _ he')

/-- **A disabled slave.**  It was disabled after `before` and not re-enabled in `es`: it is not in
`MASTER_CONTROL`, its stored data is as before, and whatever happens next it does not leave
`SLAVE_DISABLED` and sends nothing but the error frame with the latest end code, in
`WAIT_DISABLING_SLAVE`, to a request with its own stations and its bit on. -/
theorem disabledSlave (before : List ClsEvent) (hlive : (st.run before).1.aborted = false)
    (now : UInt32) (isError : Bool) {es : List ClsEvent}
    (hes : ∀ e ∈ es, e.isReenable = false) :
    let disable := ClsEvent.disableSlave now isError
    let c := (st.run (before ++ disable :: es)).1
    let endCode := latestEndCode (disabledEndCode isError) es
    (endCode = 0xCFF0 ∨ endCode = 0xCFFF)
      ∧ (∀ x ∈ (slave.step (st.run before).1 disable).2, x.isResponse = false)
      ∧ (c.state = .waitDisablingSlave ∨ c.state = .slaveDisabled)
      ∧ c.cyclicDataArea = (st.run before).1.cyclicDataArea
      ∧ ∀ e, e.isReenable = false →
        (c.state = .slaveDisabled → (slave.step c e).1.state = .slaveDisabled)
        ∧ ∀ x ∈ (slave.step c e).2, x.isResponse = true →
          c.state = .waitDisablingSlave ∧ ∃ now v r q dg, e = .periodic now (some v)
            ∧ v.cyclicRequest = some r
            ∧ FoundStation r q c.config.numOccupiedStations ∧ r.bit q = true
            ∧ x = .sendResponse v.remoteIp v.remotePort dg
            ∧ (RespFullHeaders.ofBuffer dg.byte).cyclicHeader.endCode = endCode := by
  intro disable c endCode
  have h : Disabled endCode (st.run before).1.cyclicDataArea c :=
    st.run_disabled before hlive now isError hes
  have hf : Frames c := st.run_frames _
  refine ⟨?_, ?_, SlaveState.isDisabled_iff.mp h.state, h.area, ?_⟩
  · refine latestEndCode_cases es ?_
    cases isError with
    | true => exact Or.inl rfl
    | false => exact Or.inr rfl
  · intro x hx
    have hresponses := clsStep_responses hlive disable
    by_contra hresponse
    rw [Bool.not_eq_false] at hresponse
    have hmem : x ∈ (clsStep (st.run before).1 disable).2.filter ClsOutput.isResponse :=
      List.mem_filter.mpr ⟨hx, hresponse⟩
    rw [hresponses] at hmem
    exact absurd hmem List.not_mem_nil
  · intro e he
    obtain ⟨hstays, _⟩ := clsStep_staysDisabled h.state he
    refine ⟨?_, ?_⟩
    · intro hoff
      rcases hstays.state with hs | hs
      · exact hs.trans hoff
      · exact hs
    · intro x hx hresponse
      obtain ⟨hlive', hwait, now, v, r, q, he', hv, hfound, hbit, hsent⟩ :=
        clsStep_disabledResponse hf h.state hx hresponse
      refine ⟨hwait, now, v, r, q, _, he', hv, hfound, hbit, hsent, ?_⟩
      rw [responseToSend_headers hf]
      exact h.endCode hlive'

end SlaveStart

/-! ## a disabled slave in the small network -/

def exampleConnected : List ClsEvent :=
  [.periodic 10 (some (exampleRequest 0xC0A80001 0 0 0xC0A80003))]

/-- it was connected, is disabled because of an error and refuses the next request -/
theorem exampleDisabled_refuses :
    (exampleSlaveStart.run exampleConnected).1.state = .masterControl
      ∧ ∃ x ∈ (slave.step (exampleSlaveStart.run (exampleConnected ++ [.disableSlave 20 true])).1
          (.periodic 30 (some (exampleRequest 0xC0A80001 1 1 0xC0A80003)))).2,
        ∃ remoteIp remotePort dg, x = .sendResponse remoteIp remotePort dg
          ∧ (RespFullHeaders.ofBuffer dg.byte).cyclicHeader.endCode = 0xCFF0 := by
  let e := ClsEvent.periodic 30 (some (exampleRequest 0xC0A80001 1 1 0xC0A80003))
  have hlen : ((slave.step (exampleSlaveStart.run (exampleConnected ++ [.disableSlave 20 true])).1
      e).2.filter ClsOutput.isResponse).length = 1 := by
    decide +kernel
  obtain ⟨x, hx⟩ := List.exists_mem_of_length_pos (by rw [hlen]; decide)
  obtain ⟨hx, hresponse⟩ := List.mem_filter.mp hx
  obtain ⟨_, _, _, _, hnext⟩ := exampleSlaveStart.disabledSlave exampleConnected
    (by decide +kernel) 20 true
    (show ∀ e ∈ [], ClsEvent.isReenable e = false from fun _ h => absurd h List.not_mem_nil)
  obtain ⟨_, hsent⟩ := hnext e rfl
  obtain ⟨_, _, v, _, _, dg, _, _, _, _, heq, hcode⟩ := hsent x hx hresponse
  exact ⟨by decide +kernel, x, hx, v.remoteIp, v.remotePort, dg, heq, hcode⟩

end CLink
