import CLink.Master.SequenceNumbers
import CLink.Master.Disconnect

/-!
# The groups at rest

Events are sent to one group after the other, and every group sets the state of the master and the
arbitration timer.  Between two events all groups are in the same phase again.

* `Reports s s' state`     the master state becomes `state`, with a callback if it was another one;
* `GroupRest`              the timers of a group that waits in `LINK_SCAN` or `LINK_SCAN_COMP`;
* `Lockstep P c`           all groups in phase `P`, the reported state and the timers;
* `eventAll_lockstep`      a broadcast, `clmStep_lockstep` a step;
* `groups_lockstep`        all states at rest, and the state callbacks;
* `noStalledGroup`         all states at rest, and the timers.
-/

namespace CLink
open Loop Trace

/-! ## phases -/

inductive Phase where
  | listen
  | arbitration
  | running
  deriving DecidableEq

def GroupState.phase : GroupState → Option Phase
  | masterDown => none
  | masterListen => some .listen
  | masterArbitration => some .arbitration
  | masterLinkScanComp => some .running
  | masterLinkScan => some .running

/-- the reported state -/
def Phase.masterState : Phase → MasterState
  | listen => .standby
  | arbitration => .arbitration
  | running => .running

/-- the phase of all groups after a broadcast -/
def GroupEvent.nextPhase : GroupEvent → Phase → Phase
  | arbitrationDone, .arbitration => .running
  | reqFromOther, .arbitration => .listen
  | masterduplAlarm, .running => .listen
  | _, P => P

theorem GroupState.phase_listen {state : GroupState} (h : state.phase = some .listen) :
    state = .masterListen := by
  cases state <;> first | rfl | cases h

theorem GroupState.phase_arbitration {state : GroupState} (h : state.phase = some .arbitration) :
    state = .masterArbitration := by
  cases state <;> first | rfl | cases h

theorem GroupState.phase_running {state : GroupState} (h : state.phase = some .running) :
    state = .masterLinkScan ∨ state = .masterLinkScanComp := by
  cases state <;> first | exact Or.inl rfl | exact Or.inr rfl | cases h

/-! ## the reported state -/

def Output.reportedState : Output → Option MasterState
  | stateCb state => some state
  | _ => none

/-- the arguments of the state callbacks -/
def reportedStates (out : List Output) : List MasterState := out.filterMap Output.reportedState

theorem reportedStates_append (a b : List Output) :
    reportedStates (a ++ b) = reportedStates a ++ reportedStates b := List.filterMap_append

theorem reportedStates_nil {out : List Output} (h : ∀ x ∈ out, x.reportedState = none) :
    reportedStates out = [] := List.filterMap_eq_nil_iff.mpr h

/-- outputs about a group -/
theorem Output.reportedState_of_owner {x : Output} {g : Nat} (h : x.owner = some g) :
    x.reportedState = none := by
  cases x with
  | stateCb => cases h
  | _ => rfl

/-- the callbacks when the state is set -/
def reportOf (old new : MasterState) : List MasterState := if new = old then [] else [new]

theorem reportOf_self (state : MasterState) : reportOf state state = [] := if_pos rfl

/-- the state of the master becomes `state` -/
structure Reports (s s' : Scope) (state : MasterState) : Prop where
  config : s'.clm.config = s.clm.config
  masterState : s'.clm.masterState = state
  reported : reportedStates s'.out = reportedStates s.out ++ reportOf s.clm.masterState state

/-- configuration, master state and arbitration timer stay, without a state callback -/
structure Quiet (s s' : Scope) : Prop where
  config : s'.clm.config = s.clm.config
  masterState : s'.clm.masterState = s.clm.masterState
  timer : s'.clm.arbitrationTimer = s.clm.arbitrationTimer
  reported : reportedStates s'.out = reportedStates s.out

namespace Quiet
variable {s s' s'' : Scope} {state : MasterState}

/-- the shared data stays, with outputs about the group -/
theorem of_owner {g : Nat} {o : List Output} (hclm : s'.clm = s.clm) (hout : s'.out = s.out ++ o)
    (ho : ∀ x ∈ o, x.owner = some g) : Quiet s s' := by
  have hnil : reportedStates o = [] := by
    apply reportedStates_nil
    intro x hx
    exact Output.reportedState_of_owner (ho x hx)
  refine ⟨by rw [hclm], by rw [hclm], by rw [hclm], ?_⟩
  rw [hout, reportedStates_append, hnil, List.append_nil]

theorem refl (s : Scope) : Quiet s s := ⟨rfl, rfl, rfl, rfl⟩

theorem trans (h : Quiet s s') (h' : Quiet s' s'') : Quiet s s'' :=
  ⟨h'.config.trans h.config, h'.masterState.trans h.masterState, h'.timer.trans h.timer,
    h'.reported.trans h.reported⟩

theorem reports (h : Quiet s s') (h' : Reports s' s'' state) : Reports s s'' state := by
  refine ⟨h'.config.trans h.config, h'.masterState, ?_⟩
  rw [h'.reported, h.reported, h.masterState]

theorem after (h' : Quiet s' s'') (h : Reports s s' state) : Reports s s'' state :=
  ⟨h'.config.trans h.config, h'.masterState.trans h.masterState, h'.reported.trans h.reported⟩

/-- in the state the master is in already -/
theorem stays (h : Quiet s s') (hs : s.clm.masterState = state) : Reports s s' state := by
  refine ⟨h.config, h.masterState.trans hs, ?_⟩
  rw [h.reported, hs, reportOf_self, List.append_nil]

end Quiet

theorem clmIefbSetMasterState_reported (clm : ClmShared) (state : MasterState) :
    reportedStates (clmIefbSetMasterState clm state).2 = reportOf clm.masterState state := by
  unfold clmIefbSetMasterState reportOf
  by_cases h : state = clm.masterState
  · rw [if_neg (not_not.mpr h), if_pos h]
    rfl
  · rw [if_pos h, if_neg h]
    rfl

theorem enterMasterState_reports (state : MasterState) (s : Scope) :
    Reports s (enterMasterState state s) state
      ∧ (enterMasterState state s).clm.arbitrationTimer = s.clm.arbitrationTimer := by
  have hclm : (enterMasterState state s).clm = { s.clm with masterState := state } :=
    clmIefbSetMasterState_fields s.clm state
  refine ⟨⟨?_, ?_, ?_⟩, ?_⟩
  · rw [hclm]
  · rw [hclm]
  · show reportedStates (s.out ++ _) = _
    rw [reportedStates_append, clmIefbSetMasterState_reported]
  · rw [hclm]

theorem onEntryListen_reports (g : Nat) (s : Scope) :
    Reports s (clmIefbGroupOnEntryListen g s) .standby := by
  rw [clmIefbGroupOnEntryListen_eq]
  refine ⟨?_, ?_, ?_⟩
  · exact (clmIefbSetMasterState_spec _ _).1
  · exact congrArg ClmShared.masterState (clmIefbSetMasterState_fields _ _)
  · show reportedStates (s.out ++ _) = _
    rw [reportedStates_append, clmIefbSetMasterState_reported]

/-- an error callback, which may be held back by the limiter -/
theorem triggerError_reported (clm : ClmShared) (now : UInt32) (message : ErrorMessage)
    (ipAddr : IpAddr) (argument2 : UInt16) :
    reportedStates (clmIefbTriggerErrorCallback clm now message ipAddr argument2).2 = [] := by
  unfold clmIefbTriggerErrorCallback
  simp only
  split <;> rfl

theorem onArbitrationFailed_quiet (now : UInt32) (s : Scope) :
    Quiet s (clmIefbOnArbitrationFailed now s) := by
  refine ⟨rfl, rfl, rfl, ?_⟩
  show reportedStates (s.out ++ _) = _
  rw [reportedStates_append, triggerError_reported, List.append_nil]

theorem onLinkscanStart_quiet (g : Nat) (now : UInt32) (unixMs : Nat → UInt64) (s : Scope) :
    Quiet s (clmIefbOnLinkscanStart g now unixMs s) := by
  refine Quiet.of_owner (g := g) rfl rfl ?_
  intro x hx
  rcases List.mem_append.mp hx with hx | hx
  · exact (startDevices_out _ _ _ x hx).owner
  · rw [List.mem_singleton.mp hx]
    rfl

/-! ## checks of a response -/

/-- only the error limiter changes, with error callbacks -/
structure ErrorsOnly (s s' : Scope) : Prop where
  limiter : ∃ limiter, s'.clm = { s.clm with errorlimiter := limiter }
  out : ∃ o, s'.out = s.out ++ o ∧ ∀ x ∈ o, ∃ message ipAddr n, x = .errorCb message ipAddr n

namespace ErrorsOnly
variable {s s' s'' : Scope}

/-- shared data and outputs stay -/
theorem same (hclm : s'.clm = s.clm) (hout : s'.out = s.out) : ErrorsOnly s s' := by
  refine ⟨⟨s.clm.errorlimiter, hclm⟩, [], ?_, ?_⟩
  · rw [List.append_nil]
    exact hout
  · intro x hx
    cases hx

theorem trans (h : ErrorsOnly s s') (h' : ErrorsOnly s' s'') : ErrorsOnly s s'' := by
  obtain ⟨⟨l, hl⟩, o, ho, herr⟩ := h
  obtain ⟨⟨l', hl'⟩, o', ho', herr'⟩ := h'
  refine ⟨⟨l', ?_⟩, o ++ o', ?_, ?_⟩
  · rw [hl', hl]
  · rw [ho', ho, List.append_assoc]
  · intro x hx
    rcases List.mem_append.mp hx with hx | hx
    · exact herr x hx
    · exact herr' x hx

theorem modifyDevice (s : Scope) (d : Nat) (f : SlaveDeviceData → SlaveDeviceData) :
    ErrorsOnly s (s.modifyDevice d f) := same rfl rfl

theorem triggerError (s : Scope) (now : UInt32) (message : ErrorMessage) (ipAddr : IpAddr) :
    ErrorsOnly s (s.triggerError now message ipAddr) := by
  refine ⟨⟨_, rfl⟩, _, rfl, ?_⟩
  intro x hx
  simp only [clmIefbTriggerErrorCallback] at hx
  split at hx
  · exact ⟨_, _, _, List.mem_singleton.mp hx⟩
  · cases hx

theorem quiet (h : ErrorsOnly s s') : Quiet s s' := by
  obtain ⟨⟨l, hl⟩, o, ho, herr⟩ := h
  have hnil : reportedStates o = [] := by
    apply reportedStates_nil
    intro x hx
    obtain ⟨_, _, _, rfl⟩ := herr x hx
    rfl
  refine ⟨by rw [hl], by rw [hl], by rw [hl], ?_⟩
  rw [ho, reportedStates_append, hnil, List.append_nil]

end ErrorsOnly

theorem reportAlarms_errorsOnly (d : Nat) (now : UInt32) (r : CyclicResponse) (s : Scope) :
    ErrorsOnly s (reportAlarms d now r s) := by
  have halarm : ∀ (s : Scope) (message : ErrorMessage) (alarm : Prop) [Decidable alarm],
      ErrorsOnly s
        (if alarm then (s.modifyDevice d countAlarm).triggerError now message r.remoteIp else s) := by
    intro s message alarm _
    split
    · exact (ErrorsOnly.modifyDevice s d countAlarm).trans (.triggerError _ now message r.remoteIp)
    · exact .same rfl rfl
  exact (halarm s _ _).trans (halarm _ _ _)

theorem checkResponse_errorsOnly (g d : Nat) (now : UInt32) (r : CyclicResponse) (s : Scope) :
    ErrorsOnly s (checkResponse g d now r s).1 := by
  have hcount := ErrorsOnly.modifyDevice s d countIncoming
  unfold checkResponse
  simp only
  split
  · exact .same rfl rfl
  split
  · rw [clmIefbDeviceFsmEvent_local _ _ _ _ rfl]
    have herror := (hcount.trans (.modifyDevice _ d countInvalid)).trans
      (.triggerError _ now .slaveDuplication r.remoteIp)
    refine herror.trans (.same rfl ?_)
    show _ ++ [] = _
    rw [List.append_nil]
  split
  · exact .same rfl rfl
  have halarms := hcount.trans (reportAlarms_errorsOnly d now r (s.modifyDevice d countIncoming))
  split
  · exact halarms.trans (.same rfl rfl)
  · exact halarms

/-! ## timers of a group -/

/-- a timer started at the last link scan start, with the timeout of the group -/
def scanTimer (gs : GroupSetting) (gd : GroupData) : Timer :=
  { state := .running
    period := gs.timeoutValue.toUInt32 * microsecondsPerMillisecond
    timestamp := gd.timestampLinkScanStart }

/-- a group at rest waits for one of its timers -/
structure GroupRest (gs : GroupSetting) (gd : GroupData) : Prop where
  scan : gd.groupState = .masterLinkScan → gd.responseWaitTimer = scanTimer gs gd
  scanConstant : gd.groupState = .masterLinkScan → gs.useConstantLinkScanTime = true →
    gd.constantLinkscanTimer = scanTimer gs gd
  comp : gd.groupState = .masterLinkScanComp → gs.useConstantLinkScanTime = true
    ∧ gd.constantLinkscanTimer = scanTimer gs gd

/-- a group outside the link scans -/
theorem GroupRest.of_idle {gs : GroupSetting} {gd : GroupData} (h : gd.groupState.idle) :
    GroupRest gs gd := by
  refine ⟨?_, ?_, ?_⟩ <;>
  · intro hs
    rcases h with h | h <;> rw [h] at hs <;> cases hs

/-- states and timers stay -/
theorem GroupRest.congr {gs : GroupSetting} {gd gd' : GroupData} (h : GroupRest gs gd)
    (hstate : gd'.groupState = gd.groupState)
    (hwait : gd'.responseWaitTimer = gd.responseWaitTimer)
    (hconst : gd'.constantLinkscanTimer = gd.constantLinkscanTimer)
    (htime : gd'.timestampLinkScanStart = gd.timestampLinkScanStart) : GroupRest gs gd' := by
  have htimer : scanTimer gs gd' = scanTimer gs gd := by
    unfold scanTimer
    rw [htime]
  refine ⟨?_, ?_, ?_⟩
  · rw [hstate, hwait, htimer]
    exact h.scan
  · rw [hstate, hconst, htimer]
    exact h.scanConstant
  · rw [hstate, hconst, htimer]
    exact h.comp

theorem scanPeriod_toNat (gs : GroupSetting) :
    (gs.timeoutValue.toUInt32 * microsecondsPerMillisecond).toNat
      = gs.timeoutValue.toNat * 1000 := by
  have hlt := gs.timeoutValue.toNat_lt
  rw [UInt32.toNat_mul, UInt16.toNat_toUInt32]
  show gs.timeoutValue.toNat * 1000 % 4294967296 = _
  omega

/-- the group of a link scan start -/
structure ScanTimers (gs : GroupSetting) (now : UInt32) (gd : GroupData) : Prop where
  state : gd.groupState = .masterLinkScan
  timestamp : gd.timestampLinkScanStart = now
  responseWait : gd.responseWaitTimer = scanTimer gs gd
  constantLinkscan : gs.useConstantLinkScanTime = true → gd.constantLinkscanTimer = scanTimer gs gd

theorem ScanTimers.rest {gs : GroupSetting} {now : UInt32} {gd : GroupData}
    (h : ScanTimers gs now gd) : GroupRest gs gd := by
  refine ⟨fun _ => h.responseWait, fun _ => h.constantLinkscan, ?_⟩
  intro hs
  rw [h.state] at hs
  cases hs

section
variable (g : Nat) (now : UInt32) (unixMs : Nat → UInt64) {s : Scope}

theorem onLinkscanStart_timers (s : Scope) :
    ScanTimers (s.setting g) now
      (clmIefbOnLinkscanStart g now unixMs (s.inState .masterLinkScan)).group := by
  have hstate : (clmIefbOnLinkscanStart g now unixMs (s.inState .masterLinkScan)).group.groupState
      = .masterLinkScan := clmIefbOnLinkscanStart_groupState g now unixMs _
  revert hstate
  unfold clmIefbOnLinkscanStart
  simp only
  by_cases hc : ((s.inState .masterLinkScan).setting g).useConstantLinkScanTime = true
  · rw [if_pos hc]
    exact fun hstate => ⟨hstate, rfl, rfl, fun _ => rfl⟩
  · rw [if_neg hc]
    exact fun hstate => ⟨hstate, rfl, rfl, fun h => absurd h hc⟩

/-- a timer that has just been started has not expired -/
theorem ScanTimers.notExpired {o : Options} {cfg : Config} {gs : GroupSetting}
    (hv : GroupValid o cfg gs) {gd : GroupData} (h : gd.timestampLinkScanStart = now) :
    clTimerIsExpired (scanTimer gs gd) now = false := by
  have hperiod : gs.timeoutValue.toUInt32 * microsecondsPerMillisecond ≠ 0 := by
    intro h0
    have hnat := scanPeriod_toNat gs
    have htimeout := hv.timeout
    rw [h0] at hnat
    have hnat' : 0 = gs.timeoutValue.toNat * 1000 := hnat
    omega
  rw [scanTimer, h]
  exact clTimerIsExpired_start .zero _ now hperiod

end

/-! ## events of a group at rest -/

/-- a group comes to rest in phase `P` -/
structure ScopeRest (g : Nat) (P : Phase) (s s' : Scope) : Prop where
  phase : s'.group.groupState.phase = some P
  rest : GroupRest (s.setting g) s'.group
  reports : Reports s s' P.masterState
  timer : P = .arbitration → s'.clm.arbitrationTimer = s.clm.arbitrationTimer

theorem ScopeRest.refl {g : Nat} {P : Phase} {s : Scope} (hp : s.group.groupState.phase = some P)
    (hrest : GroupRest (s.setting g) s.group) (hm : s.clm.masterState = P.masterState) :
    ScopeRest g P s s := ⟨hp, hrest, (Quiet.refl s).stays hm, fun _ => rfl⟩

/-- only the timers of a group outside the link scans are touched -/
theorem ScopeRest.idle {g : Nat} {P : Phase} {s : Scope} {gd : GroupData}
    (hp : s.group.groupState.phase = some P) (hidle : s.group.groupState.idle)
    (hstate : gd.groupState = s.group.groupState) (hm : s.clm.masterState = P.masterState) :
    ScopeRest g P s { s with group := gd } := by
  have hidle' : gd.groupState.idle := by
    rw [hstate]
    exact hidle
  refine ⟨?_, .of_idle hidle', Quiet.stays ⟨rfl, rfl, rfl, rfl⟩ hm, fun _ => rfl⟩
  show gd.groupState.phase = some P
  rw [hstate]
  exact hp

section
variable (g : Nat) (now : UInt32) (unixMs : Nat → UInt64) {s t : Scope}

theorem Scope.setting_congr (hc : t.clm.config = s.clm.config) : t.setting g = s.setting g := by
  rw [Scope.setting, hc]
  rfl

/-- a link scan start ends a step -/
theorem scanStart_rest (h : Reports s t .running) :
    ScopeRest g .running s (clmIefbOnLinkscanStart g now unixMs (t.inState .masterLinkScan)) := by
  have htimers := onLinkscanStart_timers g now unixMs t
  have hquiet : Quiet t (clmIefbOnLinkscanStart g now unixMs (t.inState .masterLinkScan)) := by
    obtain ⟨hc, hm, ht, hr⟩ := onLinkscanStart_quiet g now unixMs (t.inState .masterLinkScan)
    exact ⟨hc, hm, ht, hr⟩
  rw [Scope.setting_congr g h.config] at htimers
  refine ⟨?_, htimers.rest, hquiet.after h, ?_⟩
  · rw [htimers.state]
    rfl
  · intro hP
    cases hP

theorem arbitrationDone_rest (hs : s.group.groupState = .masterArbitration) :
    ScopeRest g .running s (clmIefbGroupFsmEvent g now unixMs .arbitrationDone s) := by
  rw [clmIefbGroupFsmEvent_arbitrationDone g now unixMs hs]
  apply scanStart_rest
  obtain ⟨hc, hm, hr⟩ := (enterMasterState_reports .running (s.inState .masterLinkScanComp)).1
  exact ⟨hc, hm, hr⟩

/-- the end of a link scan -/
theorem endScan_reports (s : Scope) (event : DeviceEvent) (success : Bool) :
    Reports s (clmIefbGroupOnEntryScanComplete (s.endScan g event success)) .running := by
  have hend : Quiet s (s.endScan g event success) := by
    refine Quiet.of_owner (g := g) rfl rfl ?_
    intro x hx
    rw [List.mem_singleton.mp hx]
    rfl
  exact hend.reports (enterMasterState_reports .running _).1

theorem timeout_rest (hs : s.group.groupState = .masterLinkScan) :
    ScopeRest g .running s (clmIefbGroupFsmEvent g now unixMs .linkscanTimeout s) := by
  rw [clmIefbGroupFsmEvent_timeout g now unixMs hs]
  apply scanStart_rest
  obtain ⟨hc, hm, hr⟩ := endScan_reports g (s.inState .masterLinkScanComp) .groupTimeout false
  exact ⟨hc, hm, hr⟩

/-- with constant link scan time the timer of the link scan start goes on -/
theorem complete_rest (hs : s.group.groupState = .masterLinkScan)
    (hrest : GroupRest (s.setting g) s.group) :
    ScopeRest g .running s (clmIefbGroupFsmEvent g now unixMs .linkscanComplete s) := by
  rw [clmIefbGroupFsmEvent_complete g now unixMs hs]
  have hreports : Reports s (s.complete g) .running := by
    obtain ⟨hc, hm, hr⟩ := endScan_reports g { s with group := { s.group with
      groupState := .masterLinkScanComp
      responseWaitTimer := clTimerStop s.group.responseWaitTimer } } .groupAllResponded true
    exact ⟨hc, hm, hr⟩
  split
  · rename_i hconst
    refine ⟨rfl, ⟨?_, ?_, ?_⟩, hreports, ?_⟩
    · intro h
      cases h
    · intro h
      cases h
    · exact fun _ => ⟨hconst, hrest.scanConstant hs hconst⟩
    · intro h
      cases h
  · exact scanStart_rest g now unixMs hreports

theorem alarm_rest (hs : s.group.groupState = .masterLinkScan
      ∨ s.group.groupState = .masterLinkScanComp) :
    ScopeRest g .listen s (clmIefbGroupFsmEvent g now unixMs .masterduplAlarm s) := by
  rw [clmIefbGroupFsmEvent_alarm g now unixMs hs]
  obtain ⟨hc, hm, hr⟩ := onEntryListen_reports g (s.inState .masterListen)
  have hstate : (clmIefbGroupOnEntryListen g (s.inState .masterListen)).group.groupState
      = .masterListen := by
    rw [clmIefbGroupOnEntryListen_eq]
    rfl
  refine ⟨?_, .of_idle (Or.inl hstate), ⟨hc, hm, hr⟩, ?_⟩
  · rw [hstate]
    rfl
  · intro hP
    cases hP

theorem reqFromOther_rest (hs : s.group.groupState = .masterArbitration) :
    ScopeRest g .listen s (clmIefbGroupFsmEvent g now unixMs .reqFromOther s) := by
  rw [clmIefbGroupFsmEvent_reqFromOther g now unixMs hs]
  have hquiet : Quiet s (clmIefbOnArbitrationFailed now (s.inState .masterListen)) := by
    obtain ⟨hc, hm, ht, hr⟩ := onArbitrationFailed_quiet now (s.inState .masterListen)
    exact ⟨hc, hm, ht, hr⟩
  have hreports := hquiet.reports
    (onEntryListen_reports g (clmIefbOnArbitrationFailed now (s.inState .masterListen)))
  have hstate : (clmIefbGroupOnEntryListen g
      (clmIefbOnArbitrationFailed now (s.inState .masterListen))).group.groupState
        = .masterListen := by
    rw [clmIefbGroupOnEntryListen_eq]
    rfl
  refine ⟨?_, .of_idle (Or.inl hstate), hreports, ?_⟩
  · rw [hstate]
    rfl
  · intro hP
    cases hP

/-- the events that are sent to all groups once the master is initialised -/
def GroupEvent.isBroadcast : GroupEvent → Prop
  | arbitrationDone => True
  | reqFromOther => True
  | masterduplAlarm => True
  | _ => False

theorem broadcast_rest {event : GroupEvent} {P : Phase} (he : event.isBroadcast)
    (hp : s.group.groupState.phase = some P) (hrest : GroupRest (s.setting g) s.group)
    (hm : s.clm.masterState = P.masterState ∨ s.clm.masterState = (event.nextPhase P).masterState) :
    ScopeRest g (event.nextPhase P) s (clmIefbGroupFsmEvent g now unixMs event s) := by
  -- without a row the phase stays as well
  have hstay : event.nextPhase P = P →
      groupFsmMatrix s.group.groupState event = (s.group.groupState, none) →
      ScopeRest g (event.nextPhase P) s (clmIefbGroupFsmEvent g now unixMs event s) := by
    intro hP hrow
    rw [clmIefbGroupFsmEvent_stay g now unixMs hrow, hP]
    refine .refl hp hrest ?_
    rw [hP] at hm
    exact hm.elim id id
  cases P with
  | listen =>
    have hs := GroupState.phase_listen hp
    refine hstay ?_ ?_
    · cases event <;> rfl
    · rw [hs]
      cases event <;> first | rfl | cases he
  | arbitration =>
    have hs := GroupState.phase_arbitration hp
    cases event with
    | arbitrationDone => exact arbitrationDone_rest g now unixMs hs
    | reqFromOther => exact reqFromOther_rest g now unixMs hs
    | masterduplAlarm => exact hstay rfl (by rw [hs]; rfl)
    | _ => cases he
  | running =>
    have hs := GroupState.phase_running hp
    cases event with
    | arbitrationDone => exact hstay rfl (by rcases hs with hs | hs <;> rw [hs] <;> rfl)
    | reqFromOther => exact hstay rfl (by rcases hs with hs | hs <;> rw [hs] <;> rfl)
    | masterduplAlarm => exact alarm_rest g now unixMs hs
    | _ => cases he

theorem linkscanStart_rest (hs : s.group.groupState = .masterLinkScanComp)
    (hm : s.clm.masterState = .running) :
    ScopeRest g .running s (clmIefbGroupFsmEvent g now unixMs .linkscanStart s) := by
  rw [clmIefbGroupFsmEvent_linkscanStart g now unixMs hs]
  exact scanStart_rest g now unixMs ((Quiet.refl s).stays hm)

/-- the second part of the loop body, from a group at rest -/
theorem monitorConstant_rest (hp : s.group.groupState.phase = some .running)
    (hrest : GroupRest (s.setting g) s.group) (hm : s.clm.masterState = .running)
    (hscan : s.group.groupState = .masterLinkScan → (s.setting g).useConstantLinkScanTime = true →
      clTimerIsExpired s.group.constantLinkscanTimer now = false) :
    ScopeRest g .running s
      (if clTimerIsExpired s.group.constantLinkscanTimer now then
        clmIefbGroupFsmEvent g now unixMs .linkscanStart { s with group := { s.group with
          constantLinkscanTimer := clTimerStop s.group.constantLinkscanTimer } }
      else s) := by
  split
  · rename_i hx
    rcases GroupState.phase_running hp with hs | hs
    · -- no row: only a timer that is not used has been stopped
      have hconst : (s.setting g).useConstantLinkScanTime ≠ true := by
        intro hc
        rw [hscan hs hc] at hx
        cases hx
      rw [clmIefbGroupFsmEvent_stay g now unixMs (by rw [hs]; rfl)]
      refine ⟨hp, ⟨hrest.scan, fun _ hc => absurd hc hconst, ?_⟩,
        Quiet.stays ⟨rfl, rfl, rfl, rfl⟩ hm, fun _ => rfl⟩
      intro hs'
      have hs'' : s.group.groupState = .masterLinkScanComp := hs'
      rw [hs] at hs''
      cases hs''
    · obtain ⟨hphase, hrest', ⟨hc, hms, hr⟩, htimer⟩ := linkscanStart_rest g now unixMs
        (s := { s with group := { s.group with
          constantLinkscanTimer := clTimerStop s.group.constantLinkscanTimer } }) hs hm
      exact ⟨hphase, hrest', ⟨hc, hms, hr⟩, htimer⟩
  · exact .refl hp hrest hm

theorem ScopeRest.trans {P : Phase} {u : Scope} (h : ScopeRest g P s t) (h' : ScopeRest g P t u) :
    ScopeRest g P s u := by
  have hrest := h'.rest
  rw [Scope.setting_congr g h.reports.config] at hrest
  refine ⟨h'.phase, hrest, ⟨h'.reports.config.trans h.reports.config, h'.reports.masterState, ?_⟩,
    fun hP => (h'.timer hP).trans (h.timer hP)⟩
  rw [h'.reports.reported, h.reports.masterState, reportOf_self, List.append_nil]
  exact h.reports.reported

theorem timeout_timers (hs : s.group.groupState = .masterLinkScan) :
    ScanTimers (s.setting g) now (clmIefbGroupFsmEvent g now unixMs .linkscanTimeout s).group := by
  rw [clmIefbGroupFsmEvent_timeout g now unixMs hs]
  have htimers := onLinkscanStart_timers g now unixMs
    (clmIefbGroupOnEntryScanComplete ((s.inState .masterLinkScanComp).endScan g .groupTimeout false))
  have hc := (endScan_reports g (s.inState .masterLinkScanComp) .groupTimeout false).config
  rw [Scope.setting_congr g (s := s) hc] at htimers
  exact htimers

theorem monitorGroupTimers_rest {o : Options} {cfg : Config} {P : Phase}
    (hv : GroupValid o cfg (s.setting g)) (hp : s.group.groupState.phase = some P)
    (hrest : GroupRest (s.setting g) s.group) (hm : s.clm.masterState = P.masterState) :
    ScopeRest g P s (monitorGroupTimers g now unixMs s) := by
  by_cases hidle : s.group.groupState.idle
  · obtain ⟨gd, hgd, heq⟩ := monitorGroupTimers_idle g now unixMs hidle
    rw [heq]
    exact .idle hp hidle hgd hm
  obtain rfl : P = .running := by
    cases P with
    | listen => exact absurd (Or.inl (GroupState.phase_listen hp)) hidle
    | arbitration => exact absurd (Or.inr (GroupState.phase_arbitration hp)) hidle
    | running => rfl
  unfold monitorGroupTimers
  by_cases hx : clTimerIsExpired s.group.responseWaitTimer now = true
  · simp only [hx, if_true]
    rcases GroupState.phase_running hp with hs | hs
    · -- the second timer has just been started again
      have h1 : ScopeRest g .running s (clmIefbGroupFsmEvent g now unixMs .linkscanTimeout
          { s with group := { s.group with
            responseWaitTimer := clTimerStop s.group.responseWaitTimer } }) := by
        obtain ⟨hphase, hrest', ⟨hc, hms, hr⟩, htimer⟩ := timeout_rest g now unixMs
          (s := { s with group := { s.group with
            responseWaitTimer := clTimerStop s.group.responseWaitTimer } }) hs
        exact ⟨hphase, hrest', ⟨hc, hms, hr⟩, htimer⟩
      have htimers := timeout_timers g now unixMs (s := { s with group := { s.group with
        responseWaitTimer := clTimerStop s.group.responseWaitTimer } }) hs
      have hset := Scope.setting_congr g h1.reports.config
      generalize clmIefbGroupFsmEvent g now unixMs .linkscanTimeout _ = t at h1 htimers hset ⊢
      have htimers' : ScanTimers (s.setting g) now t.group := htimers
      refine h1.trans g (monitorConstant_rest g now unixMs h1.phase ?_ h1.reports.masterState ?_)
      · rw [hset]
        exact h1.rest
      · intro _ hc
        rw [hset] at hc
        rw [htimers'.constantLinkscan hc]
        exact ScanTimers.notExpired now hv htimers'.timestamp
    · rw [clmIefbGroupFsmEvent_stay g now unixMs (by rw [hs]; rfl)]
      have h1 : ScopeRest g .running s { s with group := { s.group with
          responseWaitTimer := clTimerStop s.group.responseWaitTimer } } := by
        refine ⟨hp, ⟨?_, ?_, hrest.comp⟩, Quiet.stays ⟨rfl, rfl, rfl, rfl⟩ hm, fun _ => rfl⟩ <;>
        · intro hs'
          have hs'' : s.group.groupState = .masterLinkScan := hs'
          rw [hs] at hs''
          cases hs''
      refine h1.trans g (monitorConstant_rest g now unixMs h1.phase h1.rest h1.reports.masterState ?_)
      intro hs'
      have hs'' : s.group.groupState = .masterLinkScan := hs'
      rw [hs] at hs''
      cases hs''
  · simp only [hx, Bool.false_eq_true, if_false]
    refine monitorConstant_rest g now unixMs hp hrest hm ?_
    intro hs hc
    rw [hrest.scanConstant hs hc, ← hrest.scan hs]
    exact (Bool.not_eq_true _).mp hx

end

/-! ## all groups -/

/-- all groups are at rest in phase `P` -/
structure InPhase (P : Phase) (c : Clm) : Prop where
  phase : ∀ g, g < c.numGroups → (c.groups g).groupState.phase = some P
  rest : ∀ g, g < c.numGroups → GroupRest (c.setting g) (c.groups g)
  masterState : c.shared.masterState = P.masterState

/-- from phase `P` to `P'`, with a state callback if the reported state is another one -/
structure PhaseStep (P P' : Phase) (c : Clm) (r : Clm × List Output) : Prop where
  config : r.1.shared.config = c.shared.config
  after : InPhase P' r.1
  reported : reportedStates r.2 = reportOf P.masterState P'.masterState
  timer : P' = .arbitration →
    P = .arbitration ∧ r.1.shared.arbitrationTimer = c.shared.arbitrationTimer

section
variable {P P' : Phase} {c : Clm} {r r' : Clm × List Output}

theorem PhaseStep.trans (h : PhaseStep P P' c r) (h' : PhaseStep P' P' r.1 r') :
    PhaseStep P P' c (r'.1, r.2 ++ r'.2) := by
  refine ⟨h'.config.trans h.config, h'.after, ?_, ?_⟩
  · show reportedStates (r.2 ++ r'.2) = _
    rw [reportedStates_append, h.reported, h'.reported, reportOf_self, List.append_nil]
  · intro hP
    exact ⟨(h.timer hP).1, (h'.timer hP).2.trans (h.timer hP).2⟩

/-- the phase changes in the second part -/
theorem PhaseStep.then (h : PhaseStep P P c r) (h' : PhaseStep P P' r.1 r') :
    PhaseStep P P' c (r'.1, r.2 ++ r'.2) := by
  refine ⟨h'.config.trans h.config, h'.after, ?_, ?_⟩
  · show reportedStates (r.2 ++ r'.2) = _
    rw [reportedStates_append, h.reported, h'.reported, reportOf_self, List.nil_append]
  · intro hP
    obtain ⟨hP', ht⟩ := h'.timer hP
    exact ⟨hP', ht.trans (h.timer hP').2⟩

/-- phase and timers of the groups, and the shared data looked at here, stay -/
theorem InPhase.congr {c' : Clm} (h : InPhase P c) (hconfig : c'.shared.config = c.shared.config)
    (hm : c'.shared.masterState = c.shared.masterState)
    (hg : ∀ g, g < c.numGroups → (c.groups g).groupState.phase = some P →
      GroupRest (c.setting g) (c.groups g) →
      (c'.groups g).groupState.phase = some P ∧ GroupRest (c.setting g) (c'.groups g)) :
    InPhase P c' := by
  have hset : ∀ g, c'.setting g = c.setting g := by
    intro g
    rw [Clm.setting, hconfig]
    rfl
  have hn : c'.numGroups = c.numGroups := by
    rw [Clm.numGroups, hconfig]
    rfl
  refine ⟨?_, ?_, hm.trans h.masterState⟩
  · intro g hlt
    rw [hn] at hlt
    exact (hg g hlt (h.phase g hlt) (h.rest g hlt)).1
  · intro g hlt
    rw [hn] at hlt
    rw [hset]
    exact (hg g hlt (h.phase g hlt) (h.rest g hlt)).2

theorem PhaseStep.congr {c' : Clm} (h : InPhase P c) (hconfig : c'.shared.config = c.shared.config)
    (hm : c'.shared.masterState = c.shared.masterState)
    (ht : c'.shared.arbitrationTimer = c.shared.arbitrationTimer)
    (hg : ∀ g, g < c.numGroups → (c.groups g).groupState.phase = some P →
      GroupRest (c.setting g) (c.groups g) →
      (c'.groups g).groupState.phase = some P ∧ GroupRest (c.setting g) (c'.groups g)) :
    PhaseStep P P c (c', []) :=
  ⟨hconfig, h.congr hconfig hm hg, (reportOf_self _).symm, fun hP => ⟨hP, ht⟩⟩

theorem PhaseStep.refl (h : InPhase P c) : PhaseStep P P c (c, []) :=
  .congr h rfl rfl rfl (fun _ _ hp hr => ⟨hp, hr⟩)

/-- a function of one group -/
theorem PhaseStep.setScope {g : Nat} {s : Scope} (h : InPhase P c) (hs : ScopeRest g P (c.scope g) s) :
    PhaseStep P P c (c.setScope g s) := by
  have hsame := hs.reports.reported
  rw [show (c.scope g).clm.masterState = P.masterState from h.masterState, reportOf_self] at hsame
  refine ⟨hs.reports.config, ?_, ?_, fun hP => ⟨hP, hs.timer hP⟩⟩
  · refine h.congr hs.reports.config (hs.reports.masterState.trans h.masterState.symm) ?_
    intro k _ hp hr
    show (Function.update c.groups g s.group k).groupState.phase = some P
      ∧ GroupRest (c.setting k) (Function.update c.groups g s.group k)
    by_cases hk : k = g
    · subst hk
      rw [Function.update_self]
      exact ⟨hs.phase, hs.rest⟩
    · rw [Function.update_of_ne hk]
      exact ⟨hp, hr⟩
  · rw [reportOf_self]
    exact hsame

/-- **A function of every group in turn.**  The first group changes the reported state. -/
theorem forGroups_reports {f : Nat → Scope → Scope} {m : MasterState} (m' : MasterState)
    (T : ClmShared → Prop)
    (Q : Nat → GroupData → Prop) (hm : c.shared.masterState = m) (hpos : 0 < c.numGroups)
    (h0 : T c.shared)
    (hf : ∀ g s, g < c.numGroups → s.clm.config = c.shared.config → s.group = c.groups g →
      s.clm.masterState = m ∨ s.clm.masterState = m' → T s.clm →
      Reports s (f g s) m' ∧ T (f g s).clm ∧ Q g (f g s).group) :
    (c.forGroups f).1.shared.config = c.shared.config
      ∧ (c.forGroups f).1.shared.masterState = m'
      ∧ reportedStates (c.forGroups f).2 = reportOf m m'
      ∧ T (c.forGroups f).1.shared
      ∧ ∀ g, g < c.numGroups → Q g ((c.forGroups f).1.groups g) := by
  obtain ⟨⟨hconfig, hms, hr, hT⟩, _, hgroups, _⟩ := Clm.forGroups_inv (c := c) (f := f)
    (fun k clm out => clm.config = c.shared.config
      ∧ clm.masterState = (if k = 0 then m else m')
      ∧ reportedStates out = (if k = 0 then [] else reportOf m m') ∧ T clm)
    (fun g _ gd => Q g gd) ⟨rfl, hm, rfl, h0⟩
    (by
      rintro g clm out hg ⟨hconfig, hms, hr, hT⟩
      obtain ⟨⟨hc, hms', hr'⟩, hT', hQ⟩ := hf g { clm := clm, group := c.groups g, out := [] } hg
        hconfig rfl
        (by
          show clm.masterState = _ ∨ clm.masterState = _
          rw [hms]
          split
          · exact Or.inl rfl
          · exact Or.inr rfl) hT
      refine ⟨⟨hc.trans hconfig, hms', ?_, hT'⟩, hQ⟩
      have hreported : reportedStates (f g { clm := clm, group := c.groups g, out := [] }).out
          = reportOf clm.masterState m' := hr'
      rw [reportedStates_append, hr, hreported, hms, if_neg (Nat.succ_ne_zero g)]
      by_cases h0 : g = 0
      · rw [if_pos h0, if_pos h0, List.nil_append]
      · rw [if_neg h0, if_neg h0, reportOf_self, List.append_nil])
  rw [if_neg (Nat.pos_iff_ne_zero.mp hpos)] at hms hr
  exact ⟨hconfig, hms, hr, hT, hgroups⟩

theorem PhaseStep.forGroups {f : Nat → Scope → Scope} (h : InPhase P c) (hpos : 0 < c.numGroups)
    (hP : P' = .arbitration → P = .arbitration)
    (hf : ∀ g s, g < c.numGroups → s.clm.config = c.shared.config →
      s.group.groupState.phase = some P → GroupRest (s.setting g) s.group →
      s.clm.masterState = P.masterState ∨ s.clm.masterState = P'.masterState →
      ScopeRest g P' s (f g s)) :
    PhaseStep P P' c (c.forGroups f) := by
  obtain ⟨hconfig, hm, hr, ht, hgroups⟩ := forGroups_reports (c := c) (f := f) P'.masterState
    (fun clm => P' = .arbitration → clm.arbitrationTimer = c.shared.arbitrationTimer)
    (fun g gd => gd.groupState.phase = some P' ∧ GroupRest (c.setting g) gd)
    h.masterState hpos (fun _ => rfl)
    (by
      intro g s hg hconfig hgroup hm ht
      have hset : s.setting g = c.setting g := by
        rw [Scope.setting, hconfig]
        rfl
      have hs := hf g s hg hconfig (by rw [hgroup]; exact h.phase g hg)
        (by rw [hset, hgroup]; exact h.rest g hg) hm
      have hrest := hs.rest
      rw [hset] at hrest
      exact ⟨hs.reports, fun hP' => (hs.timer hP').trans (ht hP'), hs.phase, hrest⟩)
  have hn : (c.forGroups f).1.numGroups = c.numGroups := by
    rw [Clm.numGroups, hconfig]
    rfl
  refine ⟨hconfig, ⟨?_, ?_, hm⟩, hr, fun hP' => ⟨hP hP', ht hP'⟩⟩
  · intro g hg
    rw [hn] at hg
    exact (hgroups g hg).1
  · intro g hg
    rw [hn] at hg
    rw [Clm.setting, hconfig]
    exact (hgroups g hg).2

/-- **A broadcast.** -/
theorem eventAll_lockstep (h : InPhase P c) (hpos : 0 < c.numGroups) (now : UInt32)
    (unixMs : Nat → UInt64) {event : GroupEvent} (he : event.isBroadcast) :
    PhaseStep P (event.nextPhase P) c (clmIefbGroupFsmEventAll now unixMs event c) := by
  refine .forGroups h hpos ?_ ?_
  · intro hP
    cases event <;> cases P <;> first | rfl | cases hP
  · intro g s _ _ hp hrest hm
    exact broadcast_rest g now unixMs he hp hrest hm

end

/-! ## a step -/

section
variable {o : Options} {P : Phase} {c : Clm} (h : InPhase P c) (hpos : 0 < c.numGroups)
include h hpos

theorem periodicTimers_lockstep
    (hv : ∀ g, g < c.numGroups → GroupValid o c.shared.config (c.setting g)) (now : UInt32)
    (unixMs : Nat → UInt64) :
    ∃ P', PhaseStep P P' c (clmIefbPeriodicTimers now unixMs c) := by
  have hmonitor : ∀ {P' : Phase} {c' : Clm}, InPhase P' c' → c'.shared.config = c.shared.config →
      PhaseStep P' P' c' (clmIefbMonitorAllGroupTimers now unixMs c') := by
    intro P' c' h' hconfig
    have hn : c'.numGroups = c.numGroups := by
      rw [Clm.numGroups, hconfig]
      rfl
    refine .forGroups h' (hn ▸ hpos) id ?_
    intro g s hg hc hp hrest hm
    have hgv : GroupValid o c.shared.config (s.setting g) := by
      rw [Scope.setting, hc, hconfig]
      exact hv g (hn ▸ hg)
    exact monitorGroupTimers_rest g now unixMs hgv hp hrest (hm.elim id id)
  have hlimiter : InPhase P { c with shared := { c.shared with
      errorlimiter := clLimiterPeriodic c.shared.errorlimiter now } } :=
    h.congr rfl rfl (fun _ _ hp hr => ⟨hp, hr⟩)
  unfold clmIefbPeriodicTimers
  simp only
  split
  · have hstopped : InPhase P { c with shared := { c.shared with
        errorlimiter := clLimiterPeriodic c.shared.errorlimiter now
        arbitrationTimer := clTimerStop c.shared.arbitrationTimer } } :=
      h.congr rfl rfl (fun _ _ hp hr => ⟨hp, hr⟩)
    have hall := eventAll_lockstep hstopped hpos now unixMs
      (show GroupEvent.arbitrationDone.isBroadcast from trivial)
    have hboth := hall.trans (hmonitor hall.after hall.config)
    refine ⟨_, hboth.config, hboth.after, hboth.reported, ?_⟩
    -- no group arbitrates any more
    intro hP
    cases P <;> cases hP
  · have hboth := hmonitor hlimiter rfl
    exact ⟨P, hboth.config, hboth.after, hboth.reported, hboth.timer⟩

theorem handleDeviceResponse_lockstep {g d : Nat} (hg : g < c.numGroups) (now : UInt32)
    (unixMs : Nat → UInt64) (r : CyclicResponse) :
    ∃ P', PhaseStep P P' c
      ((handleDeviceResponse g d now unixMs r c).1, (handleDeviceResponse g d now unixMs r c).2.1) := by
  obtain ⟨hspec, _⟩ := checkResponse_spec g d now r (c.scope g)
  have hchecked := (checkResponse_errorsOnly g d now r (c.scope g)).quiet
  have hms : (c.scope g).clm.masterState = P.masterState := h.masterState
  have hrest : ∀ gd : GroupData, gd.groupState = (c.groups g).groupState →
      gd.responseWaitTimer = (c.groups g).responseWaitTimer →
      gd.constantLinkscanTimer = (c.groups g).constantLinkscanTimer →
      gd.timestampLinkScanStart = (c.groups g).timestampLinkScanStart →
      gd.groupState.phase = some P ∧ GroupRest ((c.scope g).setting g) gd := by
    intro gd hstate hwait hconst htime
    refine ⟨?_, (h.rest g hg).congr hstate hwait hconst htime⟩
    rw [hstate]
    exact h.phase g hg
  have hgroup := hspec.group
  generalize hcheck : checkResponse g d now r (c.scope g) = check at hspec hchecked hgroup
  unfold handleDeviceResponse
  simp only [hcheck]
  split
  · obtain ⟨hp, hr⟩ := hrest check.1.group (by rw [hgroup]; rfl) (by rw [hgroup]; rfl)
      (by rw [hgroup]; rfl) (by rw [hgroup]; rfl)
    exact ⟨P, .setScope h ⟨hp, hr, hchecked.stays hms, fun _ => hchecked.timer⟩⟩
  -- the response is stored
  have hstored : Quiet (c.scope g) (storeResponse g d r check.1) := by
    refine hchecked.trans ?_
    rw [storeResponse_eq]
    refine Quiet.of_owner (g := g) rfl rfl ?_
    intro x hx
    rcases List.mem_append.mp hx with hx | hx
    · exact (reports_spec g d r _ x hx).1
    · rw [List.mem_singleton.mp hx]
      rfl
  have hgd : (storeResponse g d r check.1).group.groupState = (c.groups g).groupState
      ∧ (storeResponse g d r check.1).group.responseWaitTimer = (c.groups g).responseWaitTimer
      ∧ (storeResponse g d r check.1).group.constantLinkscanTimer
        = (c.groups g).constantLinkscanTimer
      ∧ (storeResponse g d r check.1).group.timestampLinkScanStart
        = (c.groups g).timestampLinkScanStart := by
    rw [storeResponse_eq]
    simp only [storedGroup, hgroup]
    exact ⟨rfl, rfl, rfl, rfl⟩
  obtain ⟨hstate, hwait, hconst, htime⟩ := hgd
  generalize storeResponse g d r check.1 = s at hstored hstate hwait hconst htime
  split
  · obtain ⟨hp, hr⟩ := hrest _ hstate hwait hconst htime
    have hset : PhaseStep P P c (c.setScope g s) :=
      .setScope h ⟨hp, hr, hstored.stays hms, fun _ => hstored.timer⟩
    have hpos' : 0 < (c.setScope g s).1.numGroups := by
      rw [Clm.numGroups, hset.config]
      exact hpos
    exact ⟨_, hset.then (eventAll_lockstep hset.after hpos' now unixMs
      (show GroupEvent.masterduplAlarm.isBroadcast from trivial))⟩
  · rename_i hcode
    rw [receiveResponse_eq now unixMs hcode]
    obtain ⟨hp, hr⟩ := hrest (s.group.modifyDevice d (deviceResponse (s.setting g) r)) hstate
      hwait hconst htime
    have hquiet : Quiet (c.scope g)
        { s with group := s.group.modifyDevice d (deviceResponse (s.setting g) r) } :=
      ⟨hstored.config, hstored.masterState, hstored.timer, hstored.reported⟩
    have hstay : ScopeRest g P (c.scope g)
        { s with group := s.group.modifyDevice d (deviceResponse (s.setting g) r) } :=
      ⟨hp, hr, hquiet.stays hms, fun _ => hquiet.timer⟩
    refine ⟨P, .setScope h ?_⟩
    split
    · -- without a row the group has not been in a link scan
      generalize ({ s with group := s.group.modifyDevice d (deviceResponse (s.setting g) r) } : Scope)
        = t at hstay hquiet
      have hset := Scope.setting_congr g hstay.reports.config
      by_cases hscan : t.group.groupState = .masterLinkScan
      · have hdone := complete_rest g now unixMs hscan (by rw [hset]; exact hstay.rest)
        obtain rfl : P = .running := by
          have hphase := hstay.phase
          rw [hscan] at hphase
          exact (Option.some.inj hphase).symm
        exact hstay.trans g hdone
      · rw [clmIefbGroupFsmEvent_stay]
        · exact hstay
        · generalize t.group.groupState = state at hscan
          cases state <;> first | rfl | exact absurd rfl hscan
    · exact hstay

omit hpos in
/-- a call of the application changes neither phases nor timers -/
theorem InPhase.update (g : Nat) {gd : GroupData}
    (hs : gd.groupState = (c.groups g).groupState)
    (hwait : gd.responseWaitTimer = (c.groups g).responseWaitTimer)
    (hconst : gd.constantLinkscanTimer = (c.groups g).constantLinkscanTimer)
    (htime : gd.timestampLinkScanStart = (c.groups g).timestampLinkScanStart) :
    PhaseStep P P c ({ c with groups := Function.update c.groups g gd }, []) := by
  refine .congr h rfl rfl rfl ?_
  intro k _ hp hr
  show (Function.update c.groups g gd k).groupState.phase = some P
    ∧ GroupRest (c.setting k) (Function.update c.groups g gd k)
  by_cases hk : k = g
  · subst hk
    rw [Function.update_self, hs]
    exact ⟨hp, hr.congr hs hwait hconst htime⟩
  · rw [Function.update_of_ne hk]
    exact ⟨hp, hr⟩

omit hpos in
theorem InPhase.modifyDevice (g d : Nat) (f : SlaveDeviceData → SlaveDeviceData) :
    PhaseStep P P c (c.modifyDevice g d f, []) := by
  unfold Clm.modifyDevice
  split
  · exact .refl h
  · exact h.update g rfl rfl rfl rfl

/-- **A step leads from rest to rest.** -/
theorem clmStep_lockstep
    (hv : ∀ g, g < c.numGroups → GroupValid o c.shared.config (c.setting g)) (e : Event) :
    ∃ P', PhaseStep P P' c (clmStep c e) := by
  by_cases ha : c.aborted = true
  · rw [show clmStep c e = (c, []) from if_pos ha]
    exact ⟨P, .refl h⟩
  unfold clmStep
  rw [if_neg ha]
  cases e with
  | tick now unixMs => exact periodicTimers_lockstep h hpos hv now unixMs
  | frame now unixMs dg remoteIp remotePort =>
    have hcases := clmIefbHandleInputFrame_cases c now unixMs dg remoteIp remotePort
    simp only
    generalize clmIefbHandleInputFrame now unixMs dg remoteIp remotePort c = t at hcases ⊢
    cases hcases with
    | response g d r hg hd hid hr hf => exact handleDeviceResponse_lockstep h hpos hg now unixMs r
    | request hr hf =>
      have hip : InPhase P { c with shared := { c.shared with
          latestConflictingMasterIp := remoteIp } } := h.congr rfl rfl (fun _ _ hp hr => ⟨hp, hr⟩)
      have hall := eventAll_lockstep hip hpos now unixMs
        (show GroupEvent.reqFromOther.isBroadcast from trivial)
      exact ⟨_, hall.config, hall.after, hall.reported, hall.timer⟩
    | dropped aborted value hr hf =>
      exact ⟨P, .congr h rfl rfl rfl (fun _ _ hp hr => ⟨hp, hr⟩)⟩
  | setSlaveCommunicationStatus g d enabled => exact ⟨P, h.modifyDevice g d _⟩
  | forceCyclicTransmissionBit g d force => exact ⟨P, h.modifyDevice g d _⟩
  | statisticsClearAll =>
    refine ⟨P, ?_⟩
    refine loop_inv (fun _ t => PhaseStep P P c (t, [])) (.refl h) ?_
    intro g t _ ht
    refine ht.trans (ht.after.update g ?_ ?_ ?_ ?_) <;>
    · rw [loop_modifyDevice]
      rfl
  | setMasterApplicationStatus running stoppedByUser =>
    exact ⟨P, .congr h rfl rfl rfl (fun _ _ hp hr => ⟨hp, hr⟩)⟩
  | writeMemoryArea g ry rww =>
    refine ⟨P, ?_⟩
    unfold writeMemoryArea
    simp only
    split
    · exact .refl h
    · exact h.update g rfl rfl rfl rfl

end

/-! ## initialisation -/

section
variable (g : Nat) (now : UInt32) (unixMs : Nat → UInt64) {s : Scope}

theorem startup_reports (hs : s.group.groupState = .masterDown) :
    Reports s (clmIefbGroupFsmEvent g now unixMs .startup s) .standby
      ∧ (clmIefbGroupFsmEvent g now unixMs .startup s).group.groupState = .masterListen := by
  rw [clmIefbGroupFsmEvent_startup g now unixMs hs]
  have hquiet : Quiet s ((s.inState .masterListen).afterDevice
      (clmIefbGroupInit (s.setting g) g (s.inState .masterListen).group)) := by
    rw [clmIefbGroupInit_eq]
    refine ⟨rfl, rfl, rfl, ?_⟩
    show reportedStates (s.out ++ []) = _
    rw [List.append_nil]
  refine ⟨hquiet.reports (onEntryListen_reports g _), ?_⟩
  rw [clmIefbGroupOnEntryListen_eq, clmIefbGroupInit_eq]
  rfl

theorem newConfig_reports (hs : s.group.groupState = .masterListen) :
    Reports s (clmIefbGroupFsmEvent g now unixMs .newConfig s) .arbitration := by
  rw [clmIefbGroupFsmEvent_newConfig g now unixMs hs]
  obtain ⟨hc, hm, hr⟩ := (enterMasterState_reports .arbitration
    (clmIefbGroupNewConfig g now (s.inState .masterArbitration))).1
  exact ⟨hc, hm, hr⟩

end

namespace MasterStart
variable {o : Options} (st : MasterStart o)

theorem init_reports : st.init.1.shared.masterState = .arbitration
    ∧ reportedStates st.init.2 = [.standby, .arbitration] := by
  have hpos : 0 < st.shared.config.hier.numberOfGroups.toNat := by
    rw [st.config]
    exact st.vc.numGroups_pos
  -- the startup of every group
  have h1 := forGroups_reports
    (c :=
      { shared := { st.shared with
          errorlimiter := clLimiterInit st.shared.errorlimiter errorcallbackRetriggerPeriod
          latestConflictingMasterIp := ipaddrInvalid
          masterState := .down
          masterLocalUnitInfo := masterLocalUnitInfoRunning
          arbitrationTimer := clTimerStop st.shared.arbitrationTimer }
        groups := fun _ => .zero, aborted := false })
    (f := fun g => clmIefbGroupFsmEvent g st.now (fun _ => 0) .startup)
    .standby (fun _ => True) (fun _ gd => gd.groupState = .masterListen) rfl hpos trivial
    (by
      intro g s _ _ hgroup _ _
      obtain ⟨hr, hstate⟩ := startup_reports g st.now (fun _ => 0) (s := s) (by rw [hgroup]; rfl)
      exact ⟨hr, trivial, hstate⟩)
  have hinit : st.init = clmIefbInitGroups st.shared st.now := rfl
  simp only [clmIefbInitGroups, clmIefbGroupFsmEventAll, clmIefbHandleNewConfig] at hinit
  generalize Clm.forGroups _ _ = r at h1 hinit
  obtain ⟨hc, hm, hr, _, hlisten⟩ := h1
  have hn : r.1.shared.config.hier.numberOfGroups.toNat
      = st.shared.config.hier.numberOfGroups.toNat := by
    rw [hc]
  -- the new configuration of every group
  have h2 := forGroups_reports
    (c := { r.1 with shared := { r.1.shared with parameterNo := r.1.shared.parameterNo + 1 } })
    (f := fun g => clmIefbGroupFsmEvent g st.now (fun _ => 0) .newConfig)
    .arbitration (fun _ => True) (fun _ _ => True) hm (Nat.lt_of_lt_of_eq hpos hn.symm) trivial
    (by
      intro g s hg _ hgroup _ _
      refine ⟨newConfig_reports g st.now (fun _ => 0) ?_, trivial, trivial⟩
      rw [hgroup]
      exact hlisten g (Nat.lt_of_lt_of_eq hg hn))
  generalize Clm.forGroups _ _ = q at h2 hinit
  obtain ⟨_, hm', hr', _, _⟩ := h2
  rw [hinit]
  refine ⟨hm', ?_⟩
  show reportedStates (r.2 ++ .saveParameterNo _ :: q.2) = _
  rw [reportedStates_append, hr]
  show _ ++ reportedStates q.2 = _
  rw [hr']
  rfl

theorem init_lockstep : InPhase .arbitration st.init.1 := by
  have hi := st.init_spec
  have hn : st.init.1.numGroups = st.vc.numGroups := by
    rw [Clm.numGroups, hi.config]
  refine ⟨?_, ?_, st.init_reports.1⟩
  · intro g hg
    rw [(hi.group g (hn ▸ hg)).state]
    rfl
  · intro g hg
    exact .of_idle (Or.inr (hi.group g (hn ▸ hg)).state)

/-! ## runs -/

theorem step_lockstep (es : List Event) {P : Phase} (h : InPhase P (st.run es).1) (e : Event) :
    ∃ P', PhaseStep P P' (st.run es).1 (clmStep (st.run es).1 e) := by
  have hcfg := (st.run_config es).1
  have hn : (st.run es).1.numGroups = st.vc.numGroups := by
    rw [Clm.numGroups, hcfg]
  refine clmStep_lockstep (o := o) h ?_ ?_ e
  · rw [hn]
    exact st.vc.numGroups_pos
  · intro g hg
    rw [Clm.setting, hcfg]
    exact st.vc.group (hn ▸ hg)

/-- all groups are in phase `P`, at rest, and the timer of the start runs while they arbitrate -/
theorem run_lockstep (es : List Event) :
    ∃ P, InPhase P (st.run es).1
      ∧ (P = .arbitration → (st.run es).1.shared.arbitrationTimer = st.arbitrationTimer) := by
  induction es using List.reverseRecOn with
  | nil =>
    rw [st.run_nil]
    exact ⟨_, st.init_lockstep, fun _ => st.init_spec.timer⟩
  | append_singleton es e ih =>
    obtain ⟨P, h, htimer⟩ := ih
    obtain ⟨P', hstep⟩ := st.step_lockstep es h e
    rw [st.run_concat]
    refine ⟨P', hstep.after, ?_⟩
    intro hP
    obtain ⟨hP', ht⟩ := hstep.timer hP
    exact ht.trans (htimer hP')

/-- the groups of `c` at rest -/
structure GroupsAtRest (c : Clm) (P : Phase) : Prop where
  phase : ∀ g, g < c.numGroups → (c.groups g).groupState.phase = some P
  masterState : c.shared.masterState = P.masterState
  listen : P ≠ .running → ∀ g, g < c.numGroups → ∀ d, d < (c.setting g).numSlaveDevices.toNat →
    ((c.groups g).slaveDevices d).deviceState = .listen

/-- **Lockstep.**  Between two events all groups are in one phase, and a step calls the state
callback once if it changes the master state and not at all otherwise; `clm_iefb_init` changes it
twice. -/
theorem groups_lockstep (es : List Event) :
    (∃ P, GroupsAtRest (st.run es).1 P)
      ∧ reportedStates st.init.2 = [.standby, .arbitration]
      ∧ ∀ e, reportedStates (clmStep (st.run es).1 e).2
          = if (clmStep (st.run es).1 e).1.shared.masterState = (st.run es).1.shared.masterState then []
            else [(clmStep (st.run es).1 e).1.shared.masterState] := by
  obtain ⟨P, h, _⟩ := st.run_lockstep es
  have hcfg := (st.run_config es).1
  refine ⟨⟨P, h.phase, h.masterState, ?_⟩, st.init_reports.2, ?_⟩
  · intro hP g hg d hd
    have hinv : GroupInv st.vc.cfg st.parameterNo g ((st.run es).1.groups g) := by
      apply st.group_groupInv es
      rw [Clm.numGroups, hcfg] at hg
      exact hg
    rw [Clm.setting, hcfg] at hd
    have hphase := hinv.phase d hd
    have hstate := h.phase g hg
    cases P with
    | listen =>
      rw [GroupState.phase_listen hstate] at hphase
      exact hphase
    | arbitration =>
      rw [GroupState.phase_arbitration hstate] at hphase
      exact hphase
    | running => exact absurd rfl hP
  · intro e
    obtain ⟨P', hstep⟩ := st.step_lockstep es h e
    rw [hstep.reported, hstep.after.masterState, h.masterState]
    rfl

end MasterStart

end CLink
