import CLink.Slave.Disabled

/-!
# The timeout of the control master

The slave restarts its receive timer with every request that it answers.  The period is the total
timeout of the connection, narrowed to 32 bits, and the timer looks no further than `2^31`
microseconds.

* `TimerFollows`               the receive timer, by the true time of the latest answer;
* `Handled.receiveTimer`       a request leaves the timer alone or is answered;
* `SlaveStart.masterTimeout`   at every tick of every run: when the slave gives its master up, for
                               total timeouts that the timer can measure;
* `longTimeout_early`          a longer one ends early.
-/

namespace CLink
open Loop

/-! ## answered requests -/

/-- a response with the end code for success -/
def ClsOutput.isAnswer : ClsOutput → Bool
  | sendResponse _ _ dg =>
    (RespFullHeaders.ofBuffer dg.byte).cyclicHeader.endCode = endcodeSuccess
  | _ => false

/-- the total timeout of the connection, in microseconds -/
def Cls.totalTimeout (c : Cls) : UInt64 :=
  clCalculateTotalTimeoutUs c.master.timeoutValue c.master.parallelOffTimeoutCount

/-- the timer of a connection whose latest answer was given at the true time `last` -/
structure TimerFollows (c : Cls) (last : Nat) : Prop where
  period : c.receiveTimer.period = c.totalTimeout.toUInt32
  timestamp : c.receiveTimer.timestamp = UInt32.ofNat last

/-- timer and timeout values are the same -/
structure SameTimeout (c c' : Cls) : Prop where
  receiveTimer : c'.receiveTimer = c.receiveTimer
  totalTimeout : c'.totalTimeout = c.totalTimeout

theorem SameTimeout.follows {c c' : Cls} {last : Nat} (h : SameTimeout c c')
    (hc : TimerFollows c last) : TimerFollows c' last := by
  refine ⟨?_, ?_⟩
  · rw [h.receiveTimer, h.totalTimeout]
    exact hc.period
  · rw [h.receiveTimer]
    exact hc.timestamp

theorem Kept.sameTimeout {c c' : Cls} (h : Kept c c') : SameTimeout c c' := by
  refine ⟨h.receiveTimer, ?_⟩
  unfold Cls.totalTimeout
  rw [h.master]

section
variable (now : UInt32) {r : CyclicRequest} {v : Received} {s t : ClsScope}

theorem responseToSend_isAnswer {c : Cls} (hf : Frames c) (frameSequenceNo groupNo : UInt16)
    (includeData : Bool) (endCode : UInt16) (slaveIpAddr remoteIp : IpAddr) (remotePort : UInt16) :
    (ClsOutput.sendResponse remoteIp remotePort (responseToSend c frameSequenceNo groupNo
      includeData endCode slaveIpAddr).datagram).isAnswer = decide (endCode = endcodeSuccess) := by
  show decide (_ = _) = _
  rw [responseToSend_headers hf]
  rfl

/-- the data is answered, and the timer starts again -/
theorem answerRequest_timer (hf : Frames s.cls) (bit : Bool) :
    (∃ x ∈ (answerRequest now r bit s).out, x.isAnswer = true)
      ∧ (answerRequest now r bit s).cls.receiveTimer = clTimerRestart s.cls.receiveTimer now
      ∧ (answerRequest now r bit s).cls.totalTimeout = s.cls.totalTimeout := by
  refine ⟨?_, ?_⟩
  · have hfw : Frames (clsIefbHandleMasterStateCallback true r.protocolVer r.masterLocalUnitInfo
        s).cls := by
      rw [clsIefbHandleMasterStateCallback_cls]
      exact hf.same ⟨rfl, rfl, rfl, rfl, rfl⟩
    have hanswer := responseToSend_isAnswer hfw r.frameSequenceNo r.groupNo bit endcodeSuccess
      r.slaveIpAddr r.remoteIp r.remotePort
    refine ⟨_, ?_, hanswer⟩
    show _ ∈ (clsIefbSendCyclicResponseFrame ..).out
    rw [clsIefbSendCyclicResponseFrame_out _ _ _ _ _ _ _ _ rfl]
    exact List.mem_append_right _ (List.mem_singleton_self _)
  · obtain ⟨normal, error, aborted, hcls⟩ := answerRequest_cls now r bit s
    rw [hcls]
    exact ⟨rfl, rfl⟩

/-- what a request does to the timer of a slave that is connected afterwards -/
inductive RequestTimer (s t : ClsScope) : Prop where
  | unanswered : s.cls.state = .masterControl → Adds ClsOutput.isAnswer s t →
      SameTimeout s.cls t.cls → RequestTimer s t
  | answered : (∃ x ∈ t.out, x.isAnswer = true) →
      t.cls.receiveTimer.timestamp = now →
      (t.cls.receiveTimer.period = t.cls.totalTimeout.toUInt32
        ∨ s.cls.state = .masterControl ∧ t.cls.receiveTimer.period = s.cls.receiveTimer.period
          ∧ t.cls.totalTimeout = s.cls.totalTimeout) → RequestTimer s t

/-- a connection is made, and answered at once -/
theorem connect_timer {w u : ClsScope} (hf : Frames w.cls) (hr : r.Valid v)
    (hq : FoundStation r w.cls.master.slaveStationNo w.cls.config.numOccupiedStations)
    (hu : u.cls = (clsIefbHandleNewOrUpdatedMaster now r w).1.cls) :
    RequestTimer now s (clsIefbHandleCyclicEvent now r u).1 := by
  have hcls : (clsIefbHandleNewOrUpdatedMaster now r w).1.cls = { w.cls with
      master := w.cls.master.update r
      receiveTimer := clTimerStart w.cls.receiveTimer (clCalculateTotalTimeoutUs
        (w.cls.master.update r).timeoutValue
        (w.cls.master.update r).parallelOffTimeoutCount).toUInt32 now
      triggerData := ⟨true, true, r.protocolVer, r.masterLocalUnitInfo⟩ } :=
    clsIefbHandleMasterStateCallback_cls ..
  have hfu : Frames u.cls := by
    rw [hu]
    exact hf.newOrUpdatedMaster now
  rw [hcls] at hu
  have hfits := clIefbAnalyzeSlaveIds_fits hr.stations hq rfl
  obtain ⟨hpos, _, _⟩ := hq.own hr
  obtain ⟨area, hcopy⟩ := clsIefbCopyCyclicDataFromRequest_exists (c := u.cls) (r := r)
    (q := w.cls.master.slaveStationNo) (clsTransmissionBit u.cls r) hpos hfu.stations.1
    hr.stations.2 (by rw [hu]; exact hfits)
  have hstation : u.cls.master.slaveStationNo = w.cls.master.slaveStationNo := by
    rw [hu]
    rfl
  have heq : (clsIefbHandleCyclicEvent now r u).1
      = answerRequest now r (clsTransmissionBit u.cls r) (u.storeCyclicData r area) := by
    unfold clsIefbHandleCyclicEvent
    simp only [hstation, hcopy]
  obtain ⟨hanswer, htimer, htotal⟩ := answerRequest_timer now (r := r)
    (s := u.storeCyclicData r area) (hfu.copy (r := r) hcopy) (clsTransmissionBit u.cls r)
  have hstarted : (u.storeCyclicData r area).cls.receiveTimer
      = clTimerStart w.cls.receiveTimer u.cls.totalTimeout.toUInt32 now := by
    show u.cls.receiveTimer = _
    rw [hu]
    rfl
  rw [heq]
  refine .answered hanswer ?_ (Or.inl ?_)
  · rw [htimer, hstarted]
    rfl
  · rw [htimer, htotal, hstarted]
    rfl

theorem Handled.receiveTimer (hr : r.Valid v) (hf : Frames s.cls) (hinv : SlaveInv s.cls)
    (h : Handled now r s t) (hc : t.cls.state = .masterControl) : RequestTimer now s t := by
  cases h with
  | dropped hrep =>
    exact .unanswered (hrep.kept.state.symm.trans hc) (hrep.adds fun _ _ _ => rfl)
      hrep.kept.sameTimeout
  | @refused u endCode hrep href =>
    have hkept : Kept u.cls (clsIefbSendCyclicResponseErrorFrame r endCode u).cls :=
      clsIefbSendCyclicResponseFrame_kept ..
    have hfu : Frames u.cls := hf.reported hrep
    have hsend : Adds ClsOutput.isAnswer u (clsIefbSendCyclicResponseErrorFrame r endCode u) := by
      refine ⟨_, clsIefbSendCyclicResponseFrame_out _ _ _ _ _ _ _ _ (href.valid hf), ?_⟩
      intro x hx
      rw [List.mem_singleton.mp hx, responseToSend_isAnswer hfu]
      exact decide_eq_false (href.ne_success hf)
    have hstate := (hrep.kept.trans hkept).state
    exact .unanswered (hstate.symm.trans hc) ((hrep.adds fun _ _ _ => rfl).trans hsend)
      (hrep.kept.trans hkept).sameTimeout
  | @disconnected u q hrep _ _ =>
    have hcls := congrArg Cls.state (clsIefbClearMasterInfo_cls
      (clsIefbHandleWrongStationcount r (u.leaveFor .masterNone)).1)
    have hsend : Kept (u.leaveFor .masterNone).cls
        (clsIefbHandleWrongStationcount r (u.leaveFor .masterNone)).1.cls :=
      clsIefbSendCyclicResponseFrame_kept ..
    have hnone : (clsIefbClearMasterInfo (clsIefbHandleWrongStationcount r
        (u.leaveFor .masterNone)).1).cls.state = .masterNone := by
      refine hcls.trans (hsend.state.trans ?_)
      unfold ClsScope.leaveFor
      split
      · rfl
      · rfl
    have hcontrol : (clsIefbClearMasterInfo (clsIefbHandleWrongStationcount r
        (u.leaveFor .masterNone)).1).cls.state = .masterControl := hc
    rw [hnone] at hcontrol
    cases hcontrol
  | correctMaster hcontrol _ _ =>
    rcases clsIefbHandleCyclicEvent_cases now r s with heq | ⟨area, hcopy, heq⟩
    · rw [heq]
      exact .unanswered hcontrol (.of_eq rfl) ⟨rfl, rfl⟩
    · obtain ⟨hanswer, htimer, htotal⟩ := answerRequest_timer now (r := r)
        (s := s.storeCyclicData r area) (hf.copy (r := r) hcopy) (clsTransmissionBit s.cls r)
      obtain ⟨_, _, hrunning⟩ := hinv.control hcontrol
      have hrestart : clTimerRestart s.cls.receiveTimer now
          = { s.cls.receiveTimer with timestamp := now } := by
        unfold clTimerRestart
        rw [if_neg (by rw [hrunning]; exact TimerState.noConfusion)]
      have htimer' : (clsIefbHandleCyclicEvent now r s).1.cls.receiveTimer
          = { s.cls.receiveTimer with timestamp := now } := by
        rw [heq, htimer]
        exact hrestart
      refine .answered (heq ▸ hanswer) ?_ (Or.inr ⟨hcontrol, ?_, ?_⟩)
      · rw [htimer']
      · rw [htimer']
      · rw [heq, htotal]
        rfl
  | updatedMaster q _ _ hq _ =>
    have hstore : Frames (s.storeStation q).cls := hf.same ⟨rfl, rfl, rfl, rfl, rfl⟩
    exact connect_timer now hstore hr hq rfl
  | newMaster q _ hq _ =>
    have hstore : Frames (s.storeStation q).cls := hf.same ⟨rfl, rfl, rfl, rfl, rfl⟩
    have hleave : ((s.storeStation q).leaveFor .masterControl).cls
        = { (s.storeStation q).cls with state := .masterControl } := by
      unfold ClsScope.leaveFor
      split
      · rfl
      · rfl
    refine connect_timer now (hstore.leaveFor .masterControl) hr ?_ rfl
    rw [hleave]
    exact hq

end

/-! ## one tick -/

section
variable {time : Nat} {last : Nat} {c : Cls}

/-- the true time of the latest answer after a step with the outputs `out` -/
def answerTime (time last : Nat) (out : List ClsOutput) : Nat :=
  if out.any ClsOutput.isAnswer then time else last

theorem answerTime_congr {out out' : List ClsOutput}
    (h : out'.filter ClsOutput.isAnswer = out.filter ClsOutput.isAnswer) :
    answerTime time last out' = answerTime time last out := by
  have hany : out'.any ClsOutput.isAnswer = out.any ClsOutput.isAnswer := by
    rw [Bool.eq_iff_iff, List.any_eq_true, List.any_eq_true]
    have hmem (x : ClsOutput) : (x ∈ out' ∧ x.isAnswer = true) ↔ x ∈ out ∧ x.isAnswer = true := by
      rw [← List.mem_filter, h, List.mem_filter]
    exact exists_congr hmem
  unfold answerTime
  rw [hany]

/-- **The reception.** -/
theorem receiveFrame_follows (hf : Frames c) (hinv : SlaveInv c)
    (h : c.state = .masterControl → TimerFollows c last) (received : Option Received)
    (hc : (receiveFrame (UInt32.ofNat time) received ⟨c, []⟩).cls.state = .masterControl) :
    TimerFollows (receiveFrame (UInt32.ofNat time) received ⟨c, []⟩).cls
      (answerTime time last (receiveFrame (UInt32.ofNat time) received ⟨c, []⟩).out) := by
  cases received with
  | none => exact h hc
  | some v =>
    rw [receiveFrame_out, clsIefbHandleInputFrame_eq] at hc ⊢
    cases hv : v.cyclicRequest with
    | none =>
      rw [hv] at hc
      exact h hc
    | some r =>
      rw [hv] at hc
      simp only at hc ⊢
      have hr := Received.cyclicRequest_valid hv
      cases (handleCyclicRequest_handled _).receiveTimer _ hr hf hinv hc with
      | unanswered hcontrol hadds hsame =>
        have hnone : answerTime time last (handleCyclicRequest (UInt32.ofNat time) r ⟨c, []⟩).1.out
            = last := answerTime_congr (hadds.filter [])
        rw [hnone]
        exact hsame.follows (h hcontrol)
      | answered hanswer htimestamp hperiod =>
        have htime : answerTime time last (handleCyclicRequest (UInt32.ofNat time) r ⟨c, []⟩).1.out
            = time := by
          unfold answerTime
          rw [if_pos (List.any_eq_true.mpr hanswer)]
        rw [htime]
        refine ⟨?_, htimestamp⟩
        rcases hperiod with hperiod | ⟨hcontrol, hperiod, htotal⟩
        · exact hperiod
        · rw [hperiod, htotal]
          exact (h hcontrol).period

/-- **The timers**, after a reception that left the slave connected. -/
theorem monitorTimers_control (now : UInt32) {s : ClsScope} (hinv : SlaveInv s.cls)
    (hc : s.cls.state = .masterControl) :
    if clTimerIsExpired s.cls.receiveTimer now then
      (monitorTimerForDisablingSlave now (monitorReceiveTimer now s)).cls.state = .masterNone
    else monitorTimerForDisablingSlave now (monitorReceiveTimer now s) = s := by
  have hidle {t : ClsScope} (ht : t.cls.timerForDisablingSlave.state = .stopped) :
      monitorTimerForDisablingSlave now t = t := by
    unfold monitorTimerForDisablingSlave
    rw [clTimerIsExpired_stopped ht]
    rfl
  split
  · rename_i hexpired
    let t : ClsScope :=
      { s with cls := { s.cls with receiveTimer := clTimerStop s.cls.receiveTimer } }
    have hgone : monitorReceiveTimer now s
        = (clsIefbClearMasterInfo (t.leaveFor .masterNone)).emit (.stateCb .masterNone) := by
      unfold monitorReceiveTimer
      rw [if_pos hexpired]
      exact clsIefbFsmEvent_timeoutMaster (s := t) now none hc
    have hcls : (monitorReceiveTimer now s).cls
        = (clsIefbClearMasterInfo (t.leaveFor .masterNone)).cls := by
      rw [hgone]
      rfl
    rw [clsIefbClearMasterInfo_cls] at hcls
    rw [hidle (by rw [hcls]; rfl), hcls]
    show (t.leaveFor .masterNone).cls.state = .masterNone
    unfold ClsScope.leaveFor
    split
    · rfl
    · rfl
  · rename_i hexpired
    have hstopped : s.cls.timerForDisablingSlave.state = .stopped := by
      rw [← Timer.not_running, Ne, hinv.disabling, hc]
      exact SlaveState.noConfusion
    have hgo : monitorReceiveTimer now s = s := by
      unfold monitorReceiveTimer
      rw [if_neg hexpired]
    rw [hgo, hidle hstopped]

/-- the timers make no connection -/
theorem monitorTimers_other (now : UInt32) {s : ClsScope} (hinv : SlaveInv s.cls)
    (hc : s.cls.state ≠ .masterControl) :
    (monitorTimerForDisablingSlave now (monitorReceiveTimer now s)).cls.state
      ≠ .masterControl := by
  have hgo : monitorReceiveTimer now s = s := by
    unfold monitorReceiveTimer
    rw [clTimerIsExpired_stopped (hinv.cleared hc).2]
    rfl
  rw [hgo]
  unfold monitorTimerForDisablingSlave
  split
  · rename_i hexpired
    have hwait : s.cls.state = .waitDisablingSlave := by
      rw [← hinv.disabling]
      exact clTimerIsExpired_running hexpired
    let t : ClsScope := { s with cls := { s.cls with
      timerForDisablingSlave := clTimerStop s.cls.timerForDisablingSlave } }
    have hdisabled : (clsIefbFsmEvent now none .disableSlaveWaitEnded t).cls.state
        = .slaveDisabled := by
      rw [clsIefbFsmEvent_disableSlaveWaitEnded (s := t) now none hwait]
      show (clsIefbOnEntrySlaveDisabled (t.leaveFor .slaveDisabled)).cls.state = .slaveDisabled
      unfold clsIefbOnEntrySlaveDisabled ClsScope.leaveFor
      simp only
    show (clsIefbFsmEvent now none .disableSlaveWaitEnded t).cls.state ≠ .masterControl
    rw [hdisabled]
    exact SlaveState.noConfusion
  · exact hc

/-- the step of a tick, by the slave `u` after the reception -/
theorem clsStep_tick (now : UInt32) (received : Option Received) (hlive : c.aborted = false)
    (hinv : SlaveInv (receiveFrame now received ⟨c, []⟩).cls) :
    let u := receiveFrame now received ⟨c, []⟩
    (u.cls.state ≠ .masterControl →
        (clsStep c (.periodic now received)).1.state ≠ .masterControl)
      ∧ (u.cls.state = .masterControl → (clsStep c (.periodic now received)).1.state
        = if clTimerIsExpired u.cls.receiveTimer now then .masterNone else .masterControl)
      ∧ ((clsStep c (.periodic now received)).1.state = .masterControl →
        SameTimeout u.cls (clsStep c (.periodic now received)).1)
      ∧ (clsStep c (.periodic now received)).2.filter ClsOutput.isAnswer
        = u.out.filter ClsOutput.isAnswer := by
  intro u
  have hstep : clsStep c (.periodic now received)
      = ((clsIefbPeriodic now received ⟨c, []⟩).cls, (clsIefbPeriodic now received ⟨c, []⟩).out) := by
    unfold clsStep
    rw [if_neg (by rw [hlive]; decide)]
    rfl
  have hstate : (clsIefbPeriodic now received ⟨c, []⟩).cls.state
      = (monitorTimerForDisablingSlave now (monitorReceiveTimer now u)).cls.state := rfl
  have hother := monitorTimers_other now (s := u) hinv
  have hcontrol := monitorTimers_control now (s := u) hinv
  rw [hstep]
  refine ⟨?_, ?_, ?_, ?_⟩
  · intro hc
    exact hother hc
  · intro hc
    have h := hcontrol hc
    simp only [hstate]
    split
    · rename_i hexpired
      rw [if_pos hexpired] at h
      exact h
    · rename_i hexpired
      rw [if_neg hexpired] at h
      rw [h]
      exact hc
  · intro hc
    have hu : u.cls.state = .masterControl := by
      by_contra hn
      exact hother hn hc
    have h := hcontrol hu
    split at h
    · rw [hstate, h] at hc
      cases hc
    · have hsame : SameTimeout u.cls
          (monitorTimerForDisablingSlave now (monitorReceiveTimer now u)).cls := by
        rw [h]
        exact ⟨rfl, rfl⟩
      exact ⟨hsame.receiveTimer, hsame.totalTimeout⟩
  · have hadds := periodic_adds (p := ClsOutput.isAnswer) rfl (fun _ _ _ _ _ => rfl)
      (fun _ _ => rfl) now received ⟨c, []⟩
    exact hadds.filter []

end

/-! ## calls of the application -/

def ClsEvent.isTick : ClsEvent → Bool
  | periodic .. => true
  | _ => false

/-- a call that leaves the slave connected does not touch the timer -/
theorem clsStep_call {c : Cls} (hinv : SlaveInv c) {e : ClsEvent} (he : e.isTick = false)
    (hc : (clsStep c e).1.state = .masterControl) :
    c.state = .masterControl ∧ SameTimeout c (clsStep c e).1 := by
  unfold clsStep at hc ⊢
  split at hc
  · rename_i habort
    rw [if_pos habort]
    exact ⟨hc, rfl, rfl⟩
  rename_i habort
  rw [if_neg habort]
  cases e with
  | periodic now received => cases he
  | disableSlave now isError =>
    have hdisabled := (clsIefbFsmEvent_disableSlave now (s := ⟨{ c with
      endcodeSlaveDisabled := disabledEndCode isError }, []⟩) hinv.notDown).1
    have hcontrol : (clsIefbFsmEvent now none .disableSlave ⟨{ c with
        endcodeSlaveDisabled := disabledEndCode isError }, []⟩).cls.state = .masterControl := hc
    rw [hcontrol] at hdisabled
    cases hdisabled
  | reenableSlave now =>
    have hgo (hs : c.state = .waitDisablingSlave ∨ c.state = .slaveDisabled) : False := by
      have hstate : (clsIefbFsmEvent now none .reenableSlave ⟨c, []⟩).cls.state
          = .masterControl := hc
      rw [clsIefbFsmEvent_reenableSlave (s := ⟨c, []⟩) now none hs] at hstate
      have hnone : (clsIefbClearMasterInfo (ClsScope.leaveFor ⟨c, []⟩ .masterNone)).cls.state
          = .masterNone := by
        rw [clsIefbClearMasterInfo_cls]
        unfold ClsScope.leaveFor
        split
        · rfl
        · rfl
      cases hnone.symm.trans hstate
    have hidle (hm : slaveFsmMatrix c.state .reenableSlave = (c.state, none)) :
        clsHandle (.reenableSlave now) ⟨c, []⟩ = ⟨c, []⟩ :=
      clsIefbFsmEvent_idle (s := ⟨c, []⟩) now none hm
    cases hs : c.state with
    | slaveDown => exact absurd hs hinv.notDown
    | masterNone | masterControl =>
      rw [hidle (by rw [hs]; rfl)] at hc ⊢
      exact ⟨hs.symm.trans hc, rfl, rfl⟩
    | slaveDisabled => exact (hgo (Or.inr hs)).elim
    | waitDisablingSlave => exact (hgo (Or.inl hs)).elim
  | setRxBit number value =>
    have hset : Kept c (clsIefbSetRxBit number value ⟨c, []⟩).cls := by
      unfold clsIefbSetRxBit
      simp only
      split
      · exact ⟨rfl, rfl, rfl, rfl, rfl⟩
      · exact ⟨rfl, rfl, rfl, rfl, rfl⟩
    exact ⟨hset.state.symm.trans hc, hset.sameTimeout⟩
  | setRwrValue number value =>
    have hset : Kept c (clsIefbSetRwrValue number value ⟨c, []⟩).cls := by
      unfold clsIefbSetRwrValue
      simp only
      split
      · exact ⟨rfl, rfl, rfl, rfl, rfl⟩
      · exact ⟨rfl, rfl, rfl, rfl, rfl⟩
    exact ⟨hset.state.symm.trans hc, hset.sameTimeout⟩
  | setLocalManagementInfo | setSlaveApplicationStatus | setSlaveErrorCode | writeMemoryArea =>
    exact ⟨hc, rfl, rfl⟩

/-! ## timed runs -/

/-- an event: a tick with its true time, or a call of the application -/
inductive TimedEvent where
  | tick (time : Nat) (received : Option Received)
  | call (e : ClsEvent) (he : e.isTick = false)

/-- the event that the slave sees; its clock is the true time modulo `2^32` -/
def TimedEvent.event : TimedEvent → ClsEvent
  | tick time received => .periodic (UInt32.ofNat time) received
  | call e _ => e

/-- the slave, with the true times of the latest tick and of the latest answer -/
structure Watched where
  cls : Cls
  clock : Nat
  lastAnswer : Nat

namespace Watched

def step (w : Watched) (e : TimedEvent) : Watched :=
  let r := clsStep w.cls e.event
  match e with
  | .tick time _ => ⟨r.1, time, answerTime time w.lastAnswer r.2⟩
  | .call _ _ => { w with cls := r.1 }

/-- true time does not go back -/
def Follows (w : Watched) : TimedEvent → Prop
  | .tick time _ => w.clock ≤ time
  | .call _ _ => True

/-- the slave between the reception and the timers of a tick -/
def received (w : Watched) (time : Nat) (received : Option Received) : Cls :=
  (receiveFrame (UInt32.ofNat time) received ⟨w.cls, []⟩).cls

/-- the time without an answered request at the timers of a tick -/
def elapsed (w : Watched) (time : Nat) (received : Option Received) : Nat :=
  time - (w.step (.tick time received)).lastAnswer

end Watched

def watched : Machine Watched TimedEvent ClsOutput where
  step w e := (w.step e, (clsStep w.cls e.event).2)

/-- what holds between the events of a timed run -/
structure Watched.Inv (w : Watched) : Prop where
  steady : ∃ hist, Steady hist ⟨w.cls, []⟩
  frames : Frames w.cls
  follows : w.cls.state = .masterControl → TimerFollows w.cls w.lastAnswer
  lastAnswer : w.lastAnswer ≤ w.clock

namespace Watched.Inv
variable {w : Watched}

/-- at the timers of a tick -/
theorem atTimers {time : Nat} (received : Option Received) (h : w.Inv) (hlive : w.cls.aborted = false)
    (htime : w.clock ≤ time) :
    SlaveInv (w.received time received)
      ∧ ((w.received time received).state = .masterControl →
        TimerFollows (w.received time received) (w.step (.tick time received)).lastAnswer)
      ∧ (w.step (.tick time received)).lastAnswer ≤ time := by
  obtain ⟨hist, hsteady⟩ := h.steady
  have hreceived := (hsteady.receiveFrame (UInt32.ofNat time) received).inv
  obtain ⟨_, _, _, hout⟩ := clsStep_tick (UInt32.ofNat time) received hlive hreceived
  have hanswer : (w.step (.tick time received)).lastAnswer = answerTime time w.lastAnswer
      (receiveFrame (UInt32.ofNat time) received ⟨w.cls, []⟩).out := answerTime_congr hout
  refine ⟨hreceived, ?_, ?_⟩
  · intro hc
    rw [hanswer]
    exact receiveFrame_follows h.frames hsteady.inv h.follows received hc
  · rw [hanswer]
    unfold answerTime
    split
    · exact le_refl time
    · exact le_trans h.lastAnswer htime

theorem step (h : w.Inv) {e : TimedEvent} (he : w.Follows e) : (w.step e).Inv := by
  obtain ⟨hist, hsteady⟩ := h.steady
  have hsteady' := clsStep_steady hsteady e.event
  have hframes := clsStep_frames h.frames e.event
  cases e with
  | tick time received =>
    by_cases hlive : w.cls.aborted = false
    · obtain ⟨hinv, hfollows, hle⟩ := h.atTimers received hlive he
      obtain ⟨hother, _, hsame, _⟩ := clsStep_tick (UInt32.ofNat time) received hlive hinv
      refine ⟨⟨_, hsteady'⟩, hframes, ?_, hle⟩
      intro hc
      have hu : (w.received time received).state = .masterControl := by
        by_contra hn
        exact hother hn hc
      exact (hsame hc).follows (hfollows hu)
    · have hdead : clsStep w.cls (TimedEvent.tick time received).event = (w.cls, []) := by
        unfold clsStep
        rw [Bool.not_eq_false] at hlive
        rw [if_pos hlive]
      have hcls : w.step (.tick time received) = ⟨w.cls, time, w.lastAnswer⟩ := by
        unfold Watched.step
        simp only [hdead]
        rfl
      rw [hcls]
      exact ⟨⟨hist, hsteady⟩, h.frames, h.follows, le_trans h.lastAnswer he⟩
  | call e hcall =>
    refine ⟨⟨_, hsteady'⟩, hframes, ?_, h.lastAnswer⟩
    intro hc
    obtain ⟨hcontrol, hsame⟩ := clsStep_call hsteady.inv hcall hc
    exact hsame.follows (h.follows hcontrol)

end Watched.Inv

/-- the timer can measure the total timeout, and is asked in time once it is over -/
def Measurable (totalTimeout elapsed : Nat) : Prop :=
  totalTimeout < 2 ^ 32 ∧ (totalTimeout ≤ elapsed → elapsed < 2 ^ 31)

/-- the expiry of a timer whose period is the narrowed timeout -/
theorem narrowed_expired {total : UInt64} {elapsed : Nat} (h : Measurable total.toNat elapsed) :
    (elapsed % 2 ^ 32 < 2 ^ 31 ∧ total.toUInt32.toNat ≤ elapsed % 2 ^ 32) ↔ total.toNat ≤ elapsed := by
  obtain ⟨hfits, hsoon⟩ := h
  have hperiod : total.toUInt32.toNat = total.toNat := by
    rw [UInt64.toNat_toUInt32]
    exact Nat.mod_eq_of_lt hfits
  rw [hperiod]
  constructor
  · intro h
    exact le_trans h.2 (Nat.mod_le _ _)
  · intro h
    have hlt := hsoon h
    have hmod : elapsed % 2 ^ 32 = elapsed := Nat.mod_eq_of_lt (by omega)
    rw [hmod]
    exact ⟨hlt, h⟩

namespace SlaveStart
variable {o : Options} (st : SlaveStart o)

/-- the slave after its start, before any answer -/
def watch : Watched := ⟨st.init.cls, 0, 0⟩

theorem watch_inv {es : List TimedEvent} (hes : watched.Steps Watched.Follows st.watch es) :
    (watched.run st.watch es).1.Inv := by
  refine watched.run_state_inv (I := Watched.Inv) (fun w e h he => h.step he) ?_ hes
  have hsteady := st.run_steady []
  have hnone : st.init.cls.state ≠ .masterControl := by
    obtain ⟨c, _, _, heq⟩ := st.init_eq
    rw [heq]
    exact SlaveState.noConfusion
  exact ⟨⟨_, hsteady⟩, st.run_frames [], fun hc => absurd hc hnone, le_refl 0⟩

/-- **The timeout of the control master.**  At every tick of a run with true times that do not go
back, a slave that is connected after the reception gives its master up exactly when the total
timeout is over, if the timer can measure that.  A total timeout below `2^32` that is checked in
the `2^31` microseconds after its end is not measured otherwise. -/
theorem masterTimeout {es : List TimedEvent} (hes : watched.Steps Watched.Follows st.watch es)
    (time : Nat) (received : Option Received) :
    let w := (watched.run st.watch es).1
    let total := (w.received time received).totalTimeout.toNat
    let elapsed := w.elapsed time received
    w.clock ≤ time → w.cls.aborted = false → (w.received time received).state = .masterControl →
      (Measurable total elapsed →
        (w.step (.tick time received)).cls.state
          = if total ≤ elapsed then .masterNone else .masterControl)
      ∧ (total < 2 ^ 32 → elapsed < total + 2 ^ 31 →
        (w.step (.tick time received)).cls.state
          = (if total ≤ elapsed then .masterNone else .masterControl) → Measurable total elapsed) := by
  intro w total elapsed htime hlive hc
  have hinv : w.Inv := st.watch_inv hes
  obtain ⟨hslave, hfollows, hle⟩ := hinv.atTimers received hlive htime
  obtain ⟨_, hstate, _, _⟩ := clsStep_tick (UInt32.ofNat time) received hlive hslave
  obtain ⟨_, _, hrunning⟩ := hslave.control hc
  have hexpired := clTimerIsExpired_iff hrunning (hfollows hc).timestamp hle
  rw [(hfollows hc).period] at hexpired
  have hstep : (w.step (.tick time received)).cls.state
      = if clTimerIsExpired (w.received time received).receiveTimer (UInt32.ofNat time)
        then .masterNone else .masterControl := hstate hc
  refine ⟨?_, ?_⟩
  · intro hmeasurable
    rw [hstep]
    simp only [hexpired.trans (narrowed_expired hmeasurable)]
    rfl
  · intro hfits hsoon hright
    refine ⟨hfits, ?_⟩
    intro hover
    rw [hstep, if_pos hover] at hright
    split at hright
    · rename_i hexp
      obtain ⟨hhalf, hperiod⟩ := hexpired.mp hexp
      have hnarrow : (w.received time received).totalTimeout.toUInt32.toNat = total := by
        rw [UInt64.toNat_toUInt32]
        exact Nat.mod_eq_of_lt hfits
      have helapsed : time - (w.step (.tick time received)).lastAnswer = elapsed := rfl
      rw [hnarrow, helapsed] at hperiod
      rw [helapsed] at hhalf
      omega
    · cases hright

/-- the requirement for every timeout of a master, with ticks that are not too far apart -/
def TimesOutExactly : Prop :=
  ∀ es time received,
    watched.Steps (fun w e => w.Follows e ∧ ∀ time v, e = .tick time v → time < w.clock + 2 ^ 31)
      st.watch es →
    let w := (watched.run st.watch es).1
    let total := (w.received time received).totalTimeout.toNat
    let elapsed := w.elapsed time received
    w.clock ≤ time → time < w.clock + 2 ^ 31 → w.cls.aborted = false →
      (w.received time received).state = .masterControl → elapsed < total + 2 ^ 31 →
        (w.step (.tick time received)).cls.state
          = if total ≤ elapsed then .masterNone else .masterControl

end SlaveStart

/-! ## timeouts in the small network -/

/-- a request of the master 192.168.0.1 with the given timeout values -/
def exampleTimeoutRequest (timeoutValue parallelOffTimeoutCount : UInt16) : Received :=
  let frame := clIefbInitialiseRequestFrame 2 timeoutValue parallelOffTimeoutCount 0xC0A80001 1 2 5
  let frame := clIefbUpdateRequestFrameHeaders frame 0 0 1 0
  { dg := { frame with
      slaveIds := fun i => if i = 0 then 0xC0A80002 else 0xC0A80003 }.datagram
    remoteIp := 0xC0A80001, remotePort := 61450, slaveIpAddr := 0xC0A80002 }

/-- three times 100 ms -/
theorem shortTimeout_exact :
    let w := (watched.run exampleSlaveStart.watch
      [.tick 10 (some (exampleTimeoutRequest 100 3)), .tick 200000 none]).1
    w.cls.state = .masterControl ∧ (w.step (.tick 400000 none)).cls.state = .masterNone := by
  intro w
  have hes : watched.Steps Watched.Follows exampleSlaveStart.watch
      [.tick 10 (some (exampleTimeoutRequest 100 3)), .tick 200000 none] := by
    refine ⟨Nat.zero_le _, ?_, trivial⟩
    show 10 ≤ 200000
    decide
  refine ⟨by decide +kernel, ?_⟩
  obtain ⟨hright, _⟩ := exampleSlaveStart.masterTimeout hes 400000 none
    (by decide +kernel) (by decide +kernel) (by decide +kernel)
  rw [hright ⟨by decide +kernel, by decide +kernel⟩]
  decide +kernel

/-- **72 times 60 s ends after half a minute.** -/
theorem longTimeout_early : ¬ exampleSlaveStart.TimesOutExactly := by
  intro h
  have hes : watched.Steps (fun w e => w.Follows e ∧ ∀ time v, e = .tick time v →
      time < w.clock + 2 ^ 31) exampleSlaveStart.watch
      [.tick 10 (some (exampleTimeoutRequest 60000 72))] := by
    refine ⟨⟨Nat.zero_le _, ?_⟩, trivial⟩
    intro time v heq
    cases heq
    decide
  have hstate := h _ 26000000 none hes (by decide +kernel) (by decide +kernel) (by decide +kernel)
    (by decide +kernel) (by decide +kernel)
  revert hstate
  decide +kernel

end CLink
