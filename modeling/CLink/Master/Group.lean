import CLink.Master.Device

/-!
# The group state machine

`group_transitions` of `clm_iefb.c` with its actions, over the group's own data and the shared
fields of `clm_t` (`Scope`).

* `clmIefbOnLinkscanStart`        the start of a link scan, the only place that sends requests;
* `clmIefbGroupFsmEvent`          the event loop;
* `clmIefbGroupFsmEvent_fuel`     two rounds are enough for it to end;
* `clmIefbGroupFsmEvent_..`       what each event does in each state, without the loop.
-/

namespace CLink
open Loop

/-- what the functions of one group can touch, and their outputs -/
structure Scope where
  clm : ClmShared
  group : GroupData
  out : List Output

/-- the setting of the group -/
def Scope.setting (s : Scope) (g : Nat) : GroupSetting := s.clm.config.hier.groups g

/-- continue with the result of a device function -/
def Scope.afterDevice (s : Scope) (r : GroupData × List Output) : Scope :=
  { s with group := r.1, out := s.out ++ r.2 }

/-! ## helpers -/

def clmIefbUpdateFrameSequenceNo (frameSequenceNo : UInt16) : UInt16 :=
  if frameSequenceNo = 0xFFFF then 1 else frameSequenceNo + 1

def clmIefbSetMasterState (clm : ClmShared) (newState : MasterState) : ClmShared × List Output :=
  if newState ≠ clm.masterState then ({ clm with masterState := newState }, [.stateCb newState])
  else (clm, [])

def clmIefbTriggerErrorCallback (clm : ClmShared) (now : UInt32) (message : ErrorMessage)
    (ipAddr : IpAddr) (argument2 : UInt16) : ClmShared × List Output :=
  let r := clLimiterShouldRunNow clm.errorlimiter message.toInt now
  ({ clm with errorlimiter := r.2 }, if r.1 then [.errorCb message ipAddr argument2] else [])

/-- the loop over devices and occupied stations, with the write position `pos` -/
def clmIefbInitialiseRequestSlaveIds (gs : GroupSetting) (slaveIds : Nat → IpAddr) :
    Nat → IpAddr :=
  (loop (fun d s =>
    loop (fun occupiedIndex t =>
      (Function.update t.1 t.2
        (if occupiedIndex = 0 then (gs.slaveDevices d).slaveId else multistationIndicator),
        t.2 + 1)) (gs.slaveDevices d).numOccupiedStations.toNat s)
    gs.numSlaveDevices.toNat (slaveIds, 0)).1

def clmIefbReflectGroupParameters (clm : ClmShared) (g : Nat) (gd : GroupData) : GroupData :=
  let gs := clm.config.hier.groups g
  let gd := { gd with
    totalOccupied := clmIefbCalcOccupiedPerGroup gs
    frameSequenceNo := 0
    cyclicTransmissionState := cyclicTrStateAllOff }
  let gd := loop (fun d gd => gd.modifyDevice d (fun dev => { dev with
    timeoutCount := 0
    slaveStationNo := (clmIefbCalcSlaveStationNo gs d).getD dev.slaveStationNo }))
    gs.numSlaveDevices.toNat gd
  let reqFrame := clIefbInitialiseRequestFrame clm.config.protocolVer gs.timeoutValue
    gs.parallelOffTimeoutCount clm.config.masterId (UInt16.ofNat g + 1) gd.totalOccupied
    clm.parameterNo
  { gd with reqFrame := { reqFrame with
      slaveIds := clmIefbInitialiseRequestSlaveIds gs reqFrame.slaveIds } }

/-! ## actions -/

def clmIefbGroupInit (gs : GroupSetting) (g : Nat) (gd : GroupData) : GroupData × List Output :=
  let gd := { gd with
    responseWaitTimer := clTimerStop gd.responseWaitTimer
    constantLinkscanTimer := clTimerStop gd.constantLinkscanTimer
    -- updated when there is a new configuration
    totalOccupied := 0
    frameSequenceNo := 0
    timestampLinkScanStart := 0
    cyclicTransmissionState := cyclicTrStateAllOff }
  let gd := loop (fun d gd => gd.modifyDevice d (fun dev => { dev with deviceState := .masterDown }))
    gs.numSlaveDevices.toNat gd
  clmIefbDeviceFsmEventAllInGroup gs g .groupStartup gd

def clmIefbGroupNewConfig (g : Nat) (now : UInt32) (s : Scope) : Scope :=
  let period := s.clm.config.arbitrationTime.toUInt32 * microsecondsPerMillisecond
  { s with
    group := clmIefbReflectGroupParameters s.clm g s.group
    clm := { s.clm with
      arbitrationTimer := clTimerStartIfNotRunning s.clm.arbitrationTimer period now } }

def clmIefbOnArbitrationFailed (now : UInt32) (s : Scope) : Scope :=
  let r := clmIefbTriggerErrorCallback s.clm now .arbitrationFailed
    s.clm.latestConflictingMasterIp 0
  { s with clm := r.1, out := s.out ++ r.2 }

/-- the scan start events of all devices of a group -/
def startDevices (gs : GroupSetting) (g : Nat) (gd : GroupData) : GroupData × List Output :=
  loop (fun d s =>
    let event := if (s.1.slaveDevices d).enabled then DeviceEvent.scanStartDeviceStart
      else .scanStartDeviceStop
    let r := clmIefbDeviceFsmEvent gs g d event s.1
    (r.1, s.2 ++ r.2)) gs.numSlaveDevices.toNat (gd, [])

/-- `clm_iefb_send_cyclic_request_frame`: the frame that goes out -/
def clmIefbSendCyclicRequestFrame (gd : GroupData) (unixTimestampMs : UInt64)
    (masterLocalUnitInfo : UInt16) : RequestFrame :=
  clIefbUpdateRequestFrameHeaders gd.reqFrame gd.frameSequenceNo unixTimestampMs
    masterLocalUnitInfo gd.cyclicTransmissionState

def clmIefbOnLinkscanStart (g : Nat) (now : UInt32) (unixMs : Nat → UInt64) (s : Scope) : Scope :=
  let gs := s.setting g
  let r := startDevices gs g s.group
  let period := gs.timeoutValue.toUInt32 * microsecondsPerMillisecond
  let gd := { r.1 with timestampLinkScanStart := now }
  let gd := { gd with
    reqFrame := clmIefbSendCyclicRequestFrame gd (unixMs g) s.clm.masterLocalUnitInfo }
  let out := [.sendRequest g s.group s.clm.iefbBroadcastIp clCciefbPort gd.reqFrame.datagram]
  let gd := { gd with responseWaitTimer := clTimerStart gd.responseWaitTimer period now }
  let gd := if gs.useConstantLinkScanTime then
      { gd with constantLinkscanTimer := clTimerStart gd.constantLinkscanTimer period now }
    else gd
  { s with group := gd, out := s.out ++ (r.2 ++ out) }

def clmIefbOnLinkscanTimeout (g : Nat) (s : Scope) : Scope :=
  let r := clmIefbDeviceFsmEventAllInGroup (s.setting g) g .groupTimeout s.group
  { s with
    group := { r.1 with frameSequenceNo := clmIefbUpdateFrameSequenceNo r.1.frameSequenceNo }
    out := s.out ++ (r.2 ++ [.linkscanCb g false]) }

def clmIefbOnLinkscanComplete (g : Nat) (s : Scope) : Scope × GroupEvent :=
  let gd := { s.group with responseWaitTimer := clTimerStop s.group.responseWaitTimer }
  let r := clmIefbDeviceFsmEventAllInGroup (s.setting g) g .groupAllResponded gd
  ({ s with
      group := { r.1 with frameSequenceNo := clmIefbUpdateFrameSequenceNo r.1.frameSequenceNo }
      out := s.out ++ (r.2 ++ [.linkscanCb g true]) },
    if (s.setting g).useConstantLinkScanTime then .none else .linkscanStart)

def clmIefbGroupOnEntryListen (g : Nat) (s : Scope) : Scope :=
  let clm := { s.clm with arbitrationTimer := clTimerStop s.clm.arbitrationTimer }
  let r := clmIefbDeviceFsmEventAllInGroup (s.setting g) g .groupStandby s.group
  let m := clmIefbSetMasterState clm .standby
  { clm := m.1, group := r.1, out := s.out ++ (r.2 ++ m.2) }

/-- `clm_iefb_group_on_entry_arbitration` and `clm_iefb_group_on_entry_scan_complete` -/
def enterMasterState (state : MasterState) (s : Scope) : Scope :=
  let m := clmIefbSetMasterState s.clm state
  { s with clm := m.1, out := s.out ++ m.2 }

def clmIefbGroupOnEntryArbitration (s : Scope) : Scope := enterMasterState .arbitration s
def clmIefbGroupOnEntryScanComplete (s : Scope) : Scope := enterMasterState .running s

/-! ## transitions -/

inductive GroupAction where
  | groupInit
  | groupNewConfig
  | onArbitrationDone
  | onArbitrationFailed
  | onLinkscanStart
  | onLinkscanTimeout
  | onLinkscanComplete
  | onEntryListen
  | onEntryArbitration
  | onEntryScanComplete
  deriving DecidableEq

def GroupAction.perform (g : Nat) (now : UInt32) (unixMs : Nat → UInt64) (s : Scope) :
    GroupAction → Scope × GroupEvent
  | groupInit => (s.afterDevice (clmIefbGroupInit (s.setting g) g s.group), .none)
  | groupNewConfig => (clmIefbGroupNewConfig g now s, .none)
  | onArbitrationDone => (s, .linkscanStart)
  | onArbitrationFailed => (clmIefbOnArbitrationFailed now s, .none)
  | onLinkscanStart => (clmIefbOnLinkscanStart g now unixMs s, .none)
  | onLinkscanTimeout => (clmIefbOnLinkscanTimeout g s, .linkscanStart)
  | onLinkscanComplete => clmIefbOnLinkscanComplete g s
  | onEntryListen => (clmIefbGroupOnEntryListen g s, .none)
  | onEntryArbitration => (clmIefbGroupOnEntryArbitration s, .none)
  | onEntryScanComplete => (clmIefbGroupOnEntryScanComplete s, .none)

/-- `group_transitions` -/
def groupTransitions : List (Table.Row GroupState GroupEvent GroupAction) :=
  [ ⟨.masterDown, .startup, .masterListen, some .groupInit⟩,
    ⟨.masterListen, .newConfig, .masterArbitration, some .groupNewConfig⟩,
    ⟨.masterListen, .parameterChange, .masterListen, none⟩,
    ⟨.masterArbitration, .parameterChange, .masterListen, none⟩,
    ⟨.masterArbitration, .arbitrationDone, .masterLinkScanComp, some .onArbitrationDone⟩,
    ⟨.masterArbitration, .reqFromOther, .masterListen, some .onArbitrationFailed⟩,
    ⟨.masterLinkScanComp, .parameterChange, .masterListen, none⟩,
    ⟨.masterLinkScanComp, .linkscanStart, .masterLinkScan, some .onLinkscanStart⟩,
    ⟨.masterLinkScanComp, .reqFromOther, .masterLinkScanComp, none⟩,
    ⟨.masterLinkScanComp, .masterduplAlarm, .masterListen, none⟩,
    ⟨.masterLinkScan, .parameterChange, .masterListen, none⟩,
    ⟨.masterLinkScan, .linkscanComplete, .masterLinkScanComp, some .onLinkscanComplete⟩,
    ⟨.masterLinkScan, .linkscanTimeout, .masterLinkScanComp, some .onLinkscanTimeout⟩,
    ⟨.masterLinkScan, .reqFromOther, .masterLinkScan, none⟩,
    ⟨.masterLinkScan, .masterduplAlarm, .masterListen, none⟩ ]

/-- the table filled by `clm_iefb_group_fsm_tables_init` -/
def groupFsmMatrix : GroupState → GroupEvent → GroupState × Option GroupAction :=
  Table.fill groupTransitions

/-- `group_state_actions` -/
def groupOnEntry : GroupState → Option GroupAction
  | .masterListen => some .onEntryListen
  | .masterArbitration => some .onEntryArbitration
  | .masterLinkScanComp => some .onEntryScanComplete
  | _ => none

/-- the transition to `next` with its action, then the entry action of a new state -/
def groupTransition (g : Nat) (now : UInt32) (unixMs : Nat → UInt64) (next : GroupState)
    (action : Option GroupAction) (s : Scope) : Scope × GroupEvent :=
  let previous := s.group.groupState
  let s := { s with group := { s.group with groupState := next } }
  let r := match action with
    | some action => action.perform g now unixMs s
    | none => (s, .none)
  match if next ≠ previous then groupOnEntry next else none with
  | some onEntry => ((onEntry.perform g now unixMs r.1).1, r.2)
  | none => r

/-- one round of the loop of `clm_iefb_group_fsm_event` -/
def groupFsmRound (g : Nat) (now : UInt32) (unixMs : Nat → UInt64) (event : GroupEvent)
    (s : Scope) : GroupEvent × Scope :=
  let element := groupFsmMatrix s.group.groupState event
  let r := groupTransition g now unixMs element.1 element.2 s
  (r.2, r.1)

def clmIefbGroupFsmEvent (g : Nat) (now : UInt32) (unixMs : Nat → UInt64) (event : GroupEvent)
    (s : Scope) : Scope :=
  drive (groupFsmRound g now unixMs) .none 2 event s

/-! ## the event loop ends -/

section
variable (g : Nat) (now : UInt32) (unixMs : Nat → UInt64)

/-- the first event of a chain -/
def GroupEvent.chains : GroupEvent → Bool
  | arbitrationDone => true
  | linkscanTimeout => true
  | linkscanComplete => true
  | _ => false

def GroupAction.chains : GroupAction → Bool
  | onArbitrationDone => true
  | onLinkscanTimeout => true
  | onLinkscanComplete => true
  | _ => false

theorem groupFsmMatrix_chains (state : GroupState) (event : GroupEvent) :
    (∃ a, (groupFsmMatrix state event).2 = some a ∧ a.chains = true) → event.chains = true := by
  rintro ⟨a, h, ha⟩
  cases state <;> cases event <;> first | rfl | (cases h; done) | (cases h; cases ha)

/-- the event after a transition -/
theorem groupTransition_event (next : GroupState) (action : Option GroupAction) (s : Scope) :
    (groupTransition g now unixMs next action s).2 = .none
      ∨ (∃ a, action = some a ∧ a.chains = true)
        ∧ (groupTransition g now unixMs next action s).2 = .linkscanStart := by
  have hevent : (groupTransition g now unixMs next action s).2
      = match action with
        | some action => (action.perform g now unixMs
            { s with group := { s.group with groupState := next } }).2
        | none => .none := by
    simp only [groupTransition]
    split <;> cases action <;> rfl
  rw [hevent]
  cases action with
  | none => exact Or.inl rfl
  | some action =>
    cases action with
    | onArbitrationDone => exact Or.inr ⟨⟨_, rfl, rfl⟩, rfl⟩
    | onLinkscanTimeout => exact Or.inr ⟨⟨_, rfl, rfl⟩, rfl⟩
    | onLinkscanComplete =>
      simp only [GroupAction.perform, clmIefbOnLinkscanComplete]
      split
      · exact Or.inl rfl
      · exact Or.inr ⟨⟨_, rfl, rfl⟩, rfl⟩
    | _ => exact Or.inl rfl

/-- the two rounds of `clmIefbGroupFsmEvent` are all rounds of the source -/
theorem clmIefbGroupFsmEvent_fuel (event : GroupEvent) (s : Scope) {n : Nat} (hn : 2 ≤ n) :
    drive (groupFsmRound g now unixMs) .none n event s
      = clmIefbGroupFsmEvent g now unixMs event s := by
  refine drive_fuel (groupFsmRound g now unixMs) .none (fun e => if e.chains then 1 else 0)
    ?_ n 2 event s ?_ ?_
  · intro e t h
    rcases groupTransition_event g now unixMs (groupFsmMatrix t.group.groupState e).1
      (groupFsmMatrix t.group.groupState e).2 t with hnone | ⟨ha, hev⟩
    · exact absurd hnone h
    · have hev' : (groupFsmRound g now unixMs e t).1 = .linkscanStart := hev
      rw [hev', if_pos (groupFsmMatrix_chains _ e ha)]
      exact Nat.one_pos
  · split <;> omega
  · split <;> omega

/-! ## what the events do -/

/-- the group in another state -/
def Scope.inState (s : Scope) (state : GroupState) : Scope :=
  { s with group := { s.group with groupState := state } }

/-- the action of a transition, if it has one -/
def groupPerformOption (g : Nat) (now : UInt32) (unixMs : Nat → UInt64) (action : Option GroupAction)
    (s : Scope) : Scope × GroupEvent :=
  action.elim (s, .none) fun action => action.perform g now unixMs s

theorem groupPerformOption_none (g : Nat) (now : UInt32) (unixMs : Nat → UInt64) (s : Scope) :
    groupPerformOption g now unixMs none s = (s, .none) := rfl

theorem groupPerformOption_some (g : Nat) (now : UInt32) (unixMs : Nat → UInt64) (action : GroupAction)
    (s : Scope) : groupPerformOption g now unixMs (some action) s = action.perform g now unixMs s := rfl

/-- the action of a transition, and then the entry action of a new state -/
theorem groupTransition_elim (g : Nat) (now : UInt32) (unixMs : Nat → UInt64) (next : GroupState)
    (action : Option GroupAction) (s : Scope) :
    groupTransition g now unixMs next action s
      = (if next ≠ s.group.groupState then groupOnEntry next else none).elim
        (groupPerformOption g now unixMs action (s.inState next))
        fun onEntry => ((onEntry.perform g now unixMs
            (groupPerformOption g now unixMs action (s.inState next)).1).1,
          (groupPerformOption g now unixMs action (s.inState next)).2) := by
  simp only [groupTransition]
  generalize (if next ≠ s.group.groupState then groupOnEntry next else none) = entry
  cases action <;> cases entry <;> rfl

theorem groupFsmRound_eq {event : GroupEvent} {s : Scope} (next : GroupState)
    (action : Option GroupAction) (hm : groupFsmMatrix s.group.groupState event = (next, action)) :
    groupFsmRound g now unixMs event s
      = ((groupTransition g now unixMs next action s).2,
          (groupTransition g now unixMs next action s).1) := by
  simp only [groupFsmRound, hm]

/-- into a new state with an entry action, with an action of the row -/
theorem groupTransition_action {s : Scope} {next : GroupState} {action onEntry : GroupAction}
    (hne : next ≠ s.group.groupState) (he : groupOnEntry next = some onEntry) :
    groupTransition g now unixMs next (some action) s
      = ((onEntry.perform g now unixMs (action.perform g now unixMs (s.inState next)).1).1,
          (action.perform g now unixMs (s.inState next)).2) := by
  simp only [groupTransition, if_pos hne, he]
  rfl

/-- and without -/
theorem groupTransition_noAction {s : Scope} {next : GroupState} {onEntry : GroupAction}
    (hne : next ≠ s.group.groupState) (he : groupOnEntry next = some onEntry) :
    groupTransition g now unixMs next none s
      = ((onEntry.perform g now unixMs (s.inState next)).1, .none) := by
  simp only [groupTransition, if_pos hne, he]
  rfl

/-- one round ends the loop -/
theorem clmIefbGroupFsmEvent_once {event : GroupEvent} {s t : Scope}
    (hr : groupFsmRound g now unixMs event s = (.none, t)) :
    clmIefbGroupFsmEvent g now unixMs event s = t := by
  simp only [clmIefbGroupFsmEvent, drive_succ, hr, if_true]

/-- a row without action into the same state changes nothing -/
theorem clmIefbGroupFsmEvent_stay {event : GroupEvent} {s : Scope}
    (hm : groupFsmMatrix s.group.groupState event = (s.group.groupState, none)) :
    clmIefbGroupFsmEvent g now unixMs event s = s := by
  refine clmIefbGroupFsmEvent_once g now unixMs ?_
  rw [groupFsmRound_eq g now unixMs _ _ hm]
  simp [groupTransition]

theorem clmIefbGroupFsmEvent_startup {s : Scope} (hs : s.group.groupState = .masterDown) :
    clmIefbGroupFsmEvent g now unixMs .startup s
      = clmIefbGroupOnEntryListen g ((s.inState .masterListen).afterDevice
          (clmIefbGroupInit (s.setting g) g (s.inState .masterListen).group)) := by
  refine clmIefbGroupFsmEvent_once g now unixMs ?_
  rw [groupFsmRound_eq g now unixMs .masterListen (some .groupInit)
      (by rw [hs]; rfl),
    groupTransition_action g now unixMs (by rw [hs]; simp) rfl]
  rfl

theorem clmIefbGroupFsmEvent_newConfig {s : Scope} (hs : s.group.groupState = .masterListen) :
    clmIefbGroupFsmEvent g now unixMs .newConfig s
      = clmIefbGroupOnEntryArbitration
          (clmIefbGroupNewConfig g now (s.inState .masterArbitration)) := by
  refine clmIefbGroupFsmEvent_once g now unixMs ?_
  rw [groupFsmRound_eq g now unixMs .masterArbitration (some .groupNewConfig)
      (by rw [hs]; rfl),
    groupTransition_action g now unixMs (by rw [hs]; simp) rfl]
  rfl

/-- the alarm of a running group -/
theorem clmIefbGroupFsmEvent_alarm {s : Scope}
    (hs : s.group.groupState = .masterLinkScan ∨ s.group.groupState = .masterLinkScanComp) :
    clmIefbGroupFsmEvent g now unixMs .masterduplAlarm s
      = clmIefbGroupOnEntryListen g (s.inState .masterListen) := by
  refine clmIefbGroupFsmEvent_once g now unixMs ?_
  rw [groupFsmRound_eq g now unixMs .masterListen none
      (by rcases hs with hs | hs <;> rw [hs] <;> rfl),
    groupTransition_noAction g now unixMs (by rcases hs with hs | hs <;> rw [hs] <;> simp) rfl]
  rfl

/-- a request of another master during arbitration -/
theorem clmIefbGroupFsmEvent_reqFromOther {s : Scope}
    (hs : s.group.groupState = .masterArbitration) :
    clmIefbGroupFsmEvent g now unixMs .reqFromOther s
      = clmIefbGroupOnEntryListen g
          (clmIefbOnArbitrationFailed now (s.inState .masterListen)) := by
  refine clmIefbGroupFsmEvent_once g now unixMs ?_
  rw [groupFsmRound_eq g now unixMs .masterListen (some .onArbitrationFailed)
      (by rw [hs]; rfl),
    groupTransition_action g now unixMs (by rw [hs]; simp) rfl]
  rfl

/-- a link scan starts in `MASTER_LINK_SCAN_COMP` -/
theorem groupFsmRound_linkscanStart {s : Scope} (hs : s.group.groupState = .masterLinkScanComp) :
    groupFsmRound g now unixMs .linkscanStart s
      = (.none, clmIefbOnLinkscanStart g now unixMs (s.inState .masterLinkScan)) := by
  rw [groupFsmRound_eq g now unixMs .masterLinkScan (some .onLinkscanStart)
      (by rw [hs]; rfl)]
  simp [groupTransition, groupOnEntry, GroupAction.perform, Scope.inState]

theorem clmIefbGroupFsmEvent_linkscanStart {s : Scope}
    (hs : s.group.groupState = .masterLinkScanComp) :
    clmIefbGroupFsmEvent g now unixMs .linkscanStart s
      = clmIefbOnLinkscanStart g now unixMs (s.inState .masterLinkScan) :=
  clmIefbGroupFsmEvent_once g now unixMs (groupFsmRound_linkscanStart g now unixMs hs)

/-- a first round that enters `MASTER_LINK_SCAN_COMP` and asks for a scan start -/
theorem clmIefbGroupFsmEvent_chain {event : GroupEvent} {s t : Scope}
    (hr : groupFsmRound g now unixMs event s = (.linkscanStart, t))
    (ht : t.group.groupState = .masterLinkScanComp) :
    clmIefbGroupFsmEvent g now unixMs event s
      = clmIefbOnLinkscanStart g now unixMs (t.inState .masterLinkScan) := by
  simp only [clmIefbGroupFsmEvent, drive_succ, hr, groupFsmRound_linkscanStart g now unixMs ht,
    reduceCtorEq, if_false, if_true]

theorem clmIefbGroupFsmEvent_arbitrationDone {s : Scope}
    (hs : s.group.groupState = .masterArbitration) :
    clmIefbGroupFsmEvent g now unixMs .arbitrationDone s
      = clmIefbOnLinkscanStart g now unixMs
          ((clmIefbGroupOnEntryScanComplete (s.inState .masterLinkScanComp)).inState
            .masterLinkScan) := by
  refine clmIefbGroupFsmEvent_chain g now unixMs ?_ rfl
  rw [groupFsmRound_eq g now unixMs .masterLinkScanComp (some .onArbitrationDone)
      (by rw [hs]; rfl),
    groupTransition_action g now unixMs (by rw [hs]; simp) rfl]
  rfl

/-- the end of a link scan: the states of the devices, the callback and the sequence number -/
def Scope.endScan (s : Scope) (g : Nat) (event : DeviceEvent) (success : Bool) : Scope :=
  let gs := s.setting g
  { s with
    group := { s.group.mapDevices gs.numSlaveDevices.toNat (fun _ => deviceLocal gs event) with
      frameSequenceNo := clmIefbUpdateFrameSequenceNo s.group.frameSequenceNo }
    out := s.out ++ [.linkscanCb g success] }

theorem clmIefbOnLinkscanTimeout_eq (s : Scope) :
    clmIefbOnLinkscanTimeout g s = s.endScan g .groupTimeout false := by
  simp only [clmIefbOnLinkscanTimeout, clmIefbDeviceFsmEventAllInGroup_local .groupTimeout rfl]
  rfl

theorem clmIefbGroupFsmEvent_timeout {s : Scope} (hs : s.group.groupState = .masterLinkScan) :
    clmIefbGroupFsmEvent g now unixMs .linkscanTimeout s
      = clmIefbOnLinkscanStart g now unixMs
          ((clmIefbGroupOnEntryScanComplete
            ((s.inState .masterLinkScanComp).endScan g .groupTimeout false)).inState
            .masterLinkScan) := by
  refine clmIefbGroupFsmEvent_chain g now unixMs ?_ rfl
  rw [groupFsmRound_eq g now unixMs .masterLinkScanComp (some .onLinkscanTimeout)
      (by rw [hs]; rfl),
    groupTransition_action g now unixMs (by rw [hs]; simp) rfl]
  simp only [GroupAction.perform, clmIefbOnLinkscanTimeout_eq]

/-- the group after the first round of a completion -/
def Scope.complete (s : Scope) (g : Nat) : Scope :=
  clmIefbGroupOnEntryScanComplete (Scope.endScan { s with group := { s.group with
    groupState := .masterLinkScanComp
    responseWaitTimer := clTimerStop s.group.responseWaitTimer } } g .groupAllResponded true)

theorem clmIefbGroupFsmEvent_complete {s : Scope} (hs : s.group.groupState = .masterLinkScan) :
    clmIefbGroupFsmEvent g now unixMs .linkscanComplete s
      = if (s.setting g).useConstantLinkScanTime then s.complete g
        else clmIefbOnLinkscanStart g now unixMs ((s.complete g).inState .masterLinkScan) := by
  have hr : groupFsmRound g now unixMs .linkscanComplete s
      = (if (s.setting g).useConstantLinkScanTime then .none else .linkscanStart, s.complete g) := by
    rw [groupFsmRound_eq g now unixMs .masterLinkScanComp (some .onLinkscanComplete) (by rw [hs]; rfl),
      groupTransition_action g now unixMs (by rw [hs]; simp) rfl]
    simp only [GroupAction.perform, clmIefbOnLinkscanComplete,
      clmIefbDeviceFsmEventAllInGroup_local .groupAllResponded rfl]
    rfl
  by_cases hc : (s.setting g).useConstantLinkScanTime
  · rw [if_pos hc] at hr ⊢
    exact clmIefbGroupFsmEvent_once g now unixMs hr
  · rw [if_neg hc] at hr ⊢
    exact clmIefbGroupFsmEvent_chain g now unixMs hr rfl

theorem clmIefbGroupOnEntryListen_eq (s : Scope) :
    clmIefbGroupOnEntryListen g s
      = { clm := (clmIefbSetMasterState
            { s.clm with arbitrationTimer := clTimerStop s.clm.arbitrationTimer } .standby).1
          group := s.group.mapDevices (s.setting g).numSlaveDevices.toNat
            (fun _ => deviceLocal (s.setting g) .groupStandby)
          out := s.out ++ (clmIefbSetMasterState
            { s.clm with arbitrationTimer := clTimerStop s.clm.arbitrationTimer } .standby).2 } := by
  simp only [clmIefbGroupOnEntryListen,
    clmIefbDeviceFsmEventAllInGroup_local .groupStandby rfl, List.nil_append]

end

end CLink
