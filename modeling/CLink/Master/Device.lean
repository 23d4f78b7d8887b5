import CLink.Master.State
import CLink.Lib.Machine

/-!
# The device state machine

`device_transitions` of `clm_iefb.c` with its actions.  The outgoing frame of the group is updated
by `clm_iefb_set_data_ip`, which only some rows of the table run.

* `clmIefbDeviceFsmEvent_fuel`    two rounds are enough for the event loop to end;
* `clmIefbDeviceFsmEvent_local`   every event but a scan start only changes the device itself;
* `clmIefbDeviceFsmEvent_setDataIp`   a scan start updates the outgoing frame.
-/

namespace CLink
open Loop

/-! ## actions -/

def clmIefbStatisticsClear (_statistics : Statistics) : Statistics :=
  { Statistics.zero with measuredTime := { Statistics.zero.measuredTime with min := 0xFFFFFFFF } }

def clmIefbLatestReceivedClear (_latestFrame : FrameValues) : FrameValues := .zero

def clmIefbDeviceInit (gs : GroupSetting) (d : Nat) (gd : GroupData) : GroupData :=
  gd.modifyDevice d (fun dev => { dev with
    enabled := !(gs.slaveDevices d).reservedSlaveDevice
    transmissionBit := false
    statistics := clmIefbStatisticsClear dev.statistics
    latestFrame := clmIefbLatestReceivedClear dev.latestFrame
    timeoutCount := 0
    -- updated when there is a new configuration
    slaveStationNo := 0 })

/-- `CC_ASSERT (slave_station_no >= 1)` is `stationNo` of the group invariant -/
def clmIefbUpdateRequestSlaveId (slaveIds : Nat → IpAddr) (slaveStationNo : UInt16) (enable : Bool)
    (slaveId : IpAddr) : Nat → IpAddr :=
  Function.update slaveIds (slaveStationNo.toNat - 1) (if enable then slaveId else ipaddrInvalid)

def clmIefbUpdateRequestFrameCyclicDataOneDevice (reqFrame : RequestFrame) (area : MemoryArea)
    (slaveStationNo numOccupiedStations : UInt16) (valid : Bool) : RequestFrame :=
  let startIndex := slaveStationNo.toNat - 1
  let n := numOccupiedStations.toNat
  if valid then
    { reqFrame with
      rww := blit reqFrame.rww (fun k => area.rww (startIndex + k)) startIndex n
      ry := blit reqFrame.ry (fun k => area.ry (startIndex + k)) startIndex n }
  else
    { reqFrame with
      rww := blit reqFrame.rww (fun _ => WordArea.zero) startIndex n
      ry := blit reqFrame.ry (fun _ => BitArea.zero) startIndex n }

/-- the first part of `clm_iefb_set_data_ip`: the transmission bit, with the connect or disconnect
callback when it changes -/
def setTransmissionBit (gs : GroupSetting) (g d : Nat) (newState : DeviceState)
    (dev : SlaveDeviceData) : SlaveDeviceData × List Output :=
  let slaveId := (gs.slaveDevices d).slaveId
  if newState = .cyclicSending then
    if !dev.transmissionBit then
      ({ dev with
          statistics := { dev.statistics with
            numberOfConnects := dev.statistics.numberOfConnects + 1 }
          transmissionBit := true }, [.connectCb g d slaveId])
    else ({ dev with transmissionBit := true }, [])
  else
    if dev.transmissionBit then
      ({ dev with
          statistics := { dev.statistics with
            numberOfDisconnects := dev.statistics.numberOfDisconnects + 1 }
          transmissionBit := false }, [.disconnectCb g d slaveId])
    else ({ dev with transmissionBit := false }, [])

/-- the last part of `clm_iefb_set_data_ip` -/
def countSentFrame (dev : SlaveDeviceData) : SlaveDeviceData :=
  if dev.enabled then
    { dev with statistics := { dev.statistics with
        numberOfSentFrames := dev.statistics.numberOfSentFrames + 1 } }
  else dev

def clmIefbSetDataIp (gs : GroupSetting) (g d : Nat) (newState : DeviceState) (gd : GroupData) :
    GroupData × List Output :=
  let setting := gs.slaveDevices d
  let r := setTransmissionBit gs g d newState (gd.slaveDevices d)
  let dev := r.1
  let combinedTransmissionBit := dev.transmissionBit || dev.forceTransmissionBit
  let frame := { gd.reqFrame with
    slaveIds := clmIefbUpdateRequestSlaveId gd.reqFrame.slaveIds dev.slaveStationNo
      (newState ≠ .cyclicSuspend) setting.slaveId }
  ({ gd with
      cyclicTransmissionState := clIefbSetCyclicTransmissionState gd.cyclicTransmissionState
        dev.slaveStationNo combinedTransmissionBit
      reqFrame := clmIefbUpdateRequestFrameCyclicDataOneDevice frame gd.memoryArea
        dev.slaveStationNo setting.numOccupiedStations combinedTransmissionBit
      slaveDevices := Function.update gd.slaveDevices d (countSentFrame dev) }, r.2)

def clmIefbEvaluateTimeoutcounter (gs : GroupSetting) (d : Nat) (gd : GroupData) :
    GroupData × DeviceEvent :=
  let gd := gd.modifyDevice d (fun dev => { dev with timeoutCount := dev.timeoutCount + 1 })
  if (gd.slaveDevices d).timeoutCount ≥ gs.parallelOffTimeoutCount then
    (gd.modifyDevice d (fun dev => { dev with statistics := { dev.statistics with
        numberOfTimeouts := dev.statistics.numberOfTimeouts + 1 } }), .timeoutcounterFull)
  else (gd, .timeoutcounterNotFull)

def clmIefbResetTimeoutCount (d : Nat) (gd : GroupData) : GroupData :=
  gd.modifyDevice d (fun dev => { dev with timeoutCount := 0 })

/-! ## transitions -/

inductive DeviceAction where
  | deviceInit
  | setDataIp
  | evaluateTimeoutcounter
  | resetTimeoutCount
  deriving DecidableEq

def DeviceAction.perform (gs : GroupSetting) (g d : Nat) (newState : DeviceState)
    (gd : GroupData) : DeviceAction → GroupData × List Output × DeviceEvent
  | deviceInit => (clmIefbDeviceInit gs d gd, [], .none)
  | setDataIp =>
    ((clmIefbSetDataIp gs g d newState gd).1, (clmIefbSetDataIp gs g d newState gd).2, .none)
  | evaluateTimeoutcounter =>
    ((clmIefbEvaluateTimeoutcounter gs d gd).1, [], (clmIefbEvaluateTimeoutcounter gs d gd).2)
  | resetTimeoutCount => (clmIefbResetTimeoutCount d gd, [], .none)

/-- `device_transitions` -/
def deviceTransitions : List (Table.Row DeviceState DeviceEvent DeviceAction) :=
  [ ⟨.masterDown, .groupStartup, .listen, some .deviceInit⟩,
    ⟨.listen, .groupStandby, .listen, none⟩,
    ⟨.listen, .scanStartDeviceStart, .waitTd, some .setDataIp⟩,
    ⟨.listen, .scanStartDeviceStop, .cyclicSuspend, some .setDataIp⟩,
    ⟨.listen, .slaveDuplication, .listen, none⟩,
    ⟨.waitTd, .groupStandby, .listen, none⟩,
    ⟨.waitTd, .receiveOk, .cyclicSent, none⟩,
    ⟨.waitTd, .receiveError, .listen, none⟩,
    ⟨.waitTd, .groupTimeout, .listen, none⟩,
    ⟨.waitTd, .groupAllResponded, .listen, none⟩,
    ⟨.waitTd, .slaveDuplication, .listen, none⟩,
    ⟨.cyclicSuspend, .groupStandby, .listen, none⟩,
    ⟨.cyclicSuspend, .groupTimeout, .listen, none⟩,
    ⟨.cyclicSuspend, .groupAllResponded, .listen, none⟩,
    ⟨.cyclicSuspend, .slaveDuplication, .listen, none⟩,
    ⟨.cyclicSent, .groupStandby, .listen, none⟩,
    ⟨.cyclicSent, .scanStartDeviceStart, .cyclicSending, some .setDataIp⟩,
    ⟨.cyclicSent, .scanStartDeviceStop, .cyclicSuspend, none⟩,
    ⟨.cyclicSent, .slaveDuplication, .listen, none⟩,
    ⟨.cyclicSending, .groupStandby, .listen, none⟩,
    ⟨.cyclicSending, .receiveOk, .cyclicSent, some .resetTimeoutCount⟩,
    ⟨.cyclicSending, .receiveError, .listen, none⟩,
    ⟨.cyclicSending, .groupTimeout, .cyclicSending, some .evaluateTimeoutcounter⟩,
    ⟨.cyclicSending, .timeoutcounterFull, .listen, none⟩,
    ⟨.cyclicSending, .timeoutcounterNotFull, .cyclicSent, none⟩,
    ⟨.cyclicSending, .slaveDuplication, .listen, none⟩ ]

/-- the table filled by `clm_iefb_device_fsm_tables_init` -/
def deviceFsmMatrix : DeviceState → DeviceEvent → DeviceState × Option DeviceAction :=
  Table.fill deviceTransitions

/-- `device_state_actions` -/
def deviceOnEntry (state : DeviceState) : Option DeviceAction :=
  if state = .listen then some .resetTimeoutCount else none

/-- the transition to `next` with its action, then the entry action of a new state; the next event
and the outputs -/
def deviceTransition (gs : GroupSetting) (g d : Nat) (next : DeviceState)
    (action : Option DeviceAction) (gd : GroupData) : GroupData × List Output × DeviceEvent :=
  let previous := (gd.slaveDevices d).deviceState
  let gd := gd.modifyDevice d (fun dev => { dev with deviceState := next })
  let r := match action with
    | some action => action.perform gs g d next gd
    | none => (gd, [], .none)
  match if next ≠ previous then deviceOnEntry next else none with
  | some onEntry => ((onEntry.perform gs g d next r.1).1, r.2)
  | none => r

/-- the action of a transition, and then the entry action of a new state -/
theorem deviceTransition_elim (gs : GroupSetting) (g d : Nat) (next : DeviceState)
    (action : Option DeviceAction) (gd : GroupData) :
    let entered := gd.modifyDevice d (fun dev => { dev with deviceState := next })
    let r := action.elim (entered, [], .none) (fun action => action.perform gs g d next entered)
    deviceTransition gs g d next action gd
      = (if next ≠ (gd.slaveDevices d).deviceState then deviceOnEntry next else none).elim r
        fun onEntry => ((onEntry.perform gs g d next r.1).1, r.2) := by
  simp only [deviceTransition]
  generalize (if next ≠ (gd.slaveDevices d).deviceState then deviceOnEntry next else none) = entry
  cases action <;> cases entry <;> rfl

/-- one round of the loop of `clm_iefb_device_fsm_event` -/
def deviceFsmRound (gs : GroupSetting) (g d : Nat) (event : DeviceEvent)
    (s : GroupData × List Output) : DeviceEvent × (GroupData × List Output) :=
  let element := deviceFsmMatrix (s.1.slaveDevices d).deviceState event
  let r := deviceTransition gs g d element.1 element.2 s.1
  (r.2.2, (r.1, s.2 ++ r.2.1))

def clmIefbDeviceFsmEvent (gs : GroupSetting) (g d : Nat) (event : DeviceEvent) (gd : GroupData) :
    GroupData × List Output :=
  drive (deviceFsmRound gs g d) .none 2 event (gd, [])

def clmIefbDeviceFsmEventAllInGroup (gs : GroupSetting) (g : Nat) (event : DeviceEvent)
    (gd : GroupData) : GroupData × List Output :=
  loop (fun d s =>
    let r := clmIefbDeviceFsmEvent gs g d event s.1
    (r.1, s.2 ++ r.2)) gs.numSlaveDevices.toNat (gd, [])

/-! ## one round -/

def SlaveDeviceData.toListen (dev : SlaveDeviceData) : SlaveDeviceData :=
  { dev with deviceState := .listen, timeoutCount := 0 }

/-- a row without action: the next state, with the entry action of `LISTEN` -/
def SlaveDeviceData.enter (next : DeviceState) (dev : SlaveDeviceData) : SlaveDeviceData :=
  if next = .listen ∧ dev.deviceState ≠ .listen then dev.toListen
  else { dev with deviceState := next }

section
variable (gs : GroupSetting) (g d : Nat)

theorem deviceTransition_none (next : DeviceState) (gd : GroupData) :
    deviceTransition gs g d next none gd
      = (gd.modifyDevice d (SlaveDeviceData.enter next), [], .none) := by
  have hcongr (f : SlaveDeviceData → SlaveDeviceData)
      (hf : f (gd.slaveDevices d) = SlaveDeviceData.enter next (gd.slaveDevices d)) :
      gd.modifyDevice d f = gd.modifyDevice d (SlaveDeviceData.enter next) :=
    GroupData.modifyDevice_congr gd d _ hf
  by_cases hs : next = (gd.slaveDevices d).deviceState
  · rw [← hcongr (fun dev => { dev with deviceState := next })
      (by simp [SlaveDeviceData.enter, ← hs])]
    simp [deviceTransition, ← hs]
  by_cases hl : next = .listen
  · subst hl
    rw [← hcongr SlaveDeviceData.toListen (by simp [SlaveDeviceData.enter, Ne.symm hs])]
    simp [deviceTransition, hs, deviceOnEntry, DeviceAction.perform, clmIefbResetTimeoutCount]
    rfl
  · rw [← hcongr (fun dev => { dev with deviceState := next }) (by simp [SlaveDeviceData.enter, hl])]
    simp [deviceTransition, deviceOnEntry, hl]

/-- one round ends the loop when the action asks for no further event -/
theorem clmIefbDeviceFsmEvent_once {event : DeviceEvent} {gd : GroupData} {next : DeviceState}
    {action : Option DeviceAction}
    (hm : deviceFsmMatrix (gd.slaveDevices d).deviceState event = (next, action))
    (hn : (deviceTransition gs g d next action gd).2.2 = .none) :
    clmIefbDeviceFsmEvent gs g d event gd
      = ((deviceTransition gs g d next action gd).1,
          (deviceTransition gs g d next action gd).2.1) := by
  simp only [clmIefbDeviceFsmEvent, drive_succ, deviceFsmRound, hm, hn, if_true, List.nil_append]

theorem clmIefbDeviceFsmEvent_none {event : DeviceEvent} {gd : GroupData} (next : DeviceState)
    (hm : deviceFsmMatrix (gd.slaveDevices d).deviceState event = (next, none)) :
    clmIefbDeviceFsmEvent gs g d event gd
      = (gd.modifyDevice d (SlaveDeviceData.enter next), []) := by
  rw [clmIefbDeviceFsmEvent_once gs g d hm (by rw [deviceTransition_none]), deviceTransition_none]

end

/-! ## the event loop ends -/

/-- the counter is evaluated in one row only -/
theorem deviceFsmMatrix_evaluate (state : DeviceState) (event : DeviceEvent) :
    (deviceFsmMatrix state event).2 = some .evaluateTimeoutcounter →
      state = .cyclicSending ∧ event = .groupTimeout := by
  cases state <;> cases event <;> decide

/-- the event after a transition -/
theorem deviceTransition_event (gs : GroupSetting) (g d : Nat) (next : DeviceState)
    (action : Option DeviceAction) (gd : GroupData) :
    (deviceTransition gs g d next action gd).2.2 = .none
      ∨ action = some .evaluateTimeoutcounter
        ∧ ((deviceTransition gs g d next action gd).2.2 = .timeoutcounterFull
          ∨ (deviceTransition gs g d next action gd).2.2 = .timeoutcounterNotFull) := by
  have hevent : (deviceTransition gs g d next action gd).2.2
      = match action with
        | some action => (action.perform gs g d next
            (gd.modifyDevice d (fun dev => { dev with deviceState := next }))).2.2
        | none => .none := by
    simp only [deviceTransition]
    split <;> cases action <;> rfl
  rw [hevent]
  cases action with
  | none => exact Or.inl rfl
  | some action =>
    cases action with
    | evaluateTimeoutcounter =>
      refine Or.inr ⟨rfl, ?_⟩
      simp only [DeviceAction.perform, clmIefbEvaluateTimeoutcounter]
      split
      · exact Or.inl rfl
      · exact Or.inr rfl
    | _ => exact Or.inl rfl

/-- the two rounds of `clmIefbDeviceFsmEvent` are all rounds of the source -/
theorem clmIefbDeviceFsmEvent_fuel (gs : GroupSetting) (g d : Nat) (event : DeviceEvent)
    (gd : GroupData) {n : Nat} (hn : 2 ≤ n) :
    drive (deviceFsmRound gs g d) .none n event (gd, []) = clmIefbDeviceFsmEvent gs g d event gd := by
  have hrank : ∀ e s, (deviceFsmRound gs g d e s).1 ≠ .none →
      (if (deviceFsmRound gs g d e s).1 = .groupTimeout then 1 else 0)
        < (if e = DeviceEvent.groupTimeout then 1 else 0) := by
    intro e s h
    rcases deviceTransition_event gs g d (deviceFsmMatrix (s.1.slaveDevices d).deviceState e).1
      (deviceFsmMatrix (s.1.slaveDevices d).deviceState e).2 s.1 with hnone | ⟨ha, hev⟩
    · exact absurd hnone h
    · rw [if_pos (deviceFsmMatrix_evaluate _ e ha).2, if_neg]
      · exact Nat.one_pos
      · intro ht
        have ht' : (deviceTransition gs g d _ _ s.1).2.2 = .groupTimeout := ht
        rcases hev with h' | h' <;> rw [h'] at ht' <;> cases ht'
  refine drive_fuel (deviceFsmRound gs g d) .none
    (fun e => if e = .groupTimeout then 1 else 0) hrank n 2 event (gd, []) ?_ ?_ <;>
  · split <;> omega

/-! ## events that leave the frame alone -/

/-- the timeout of a link scan for a device that has not answered -/
def SlaveDeviceData.timeout (gs : GroupSetting) (dev : SlaveDeviceData) : SlaveDeviceData :=
  if dev.timeoutCount + 1 ≥ gs.parallelOffTimeoutCount then
    { dev with
      deviceState := .listen
      timeoutCount := 0
      statistics := { dev.statistics with numberOfTimeouts := dev.statistics.numberOfTimeouts + 1 } }
  else { dev with deviceState := .cyclicSent, timeoutCount := dev.timeoutCount + 1 }

/-- what an event other than a scan start or a startup does to the data of the device -/
def deviceLocal (gs : GroupSetting) (event : DeviceEvent) (dev : SlaveDeviceData) :
    SlaveDeviceData :=
  match dev.deviceState, event with
  | .cyclicSending, .receiveOk => { dev with deviceState := .cyclicSent, timeoutCount := 0 }
  | .cyclicSending, .groupTimeout => dev.timeout gs
  | state, event => dev.enter (deviceFsmMatrix state event).1

/-- the events with a row that runs `clm_iefb_set_data_ip` or `clm_iefb_device_init` -/
def DeviceEvent.touchesFrame : DeviceEvent → Bool
  | scanStartDeviceStart => true
  | scanStartDeviceStop => true
  | groupStartup => true
  | _ => false

theorem deviceFsmMatrix_noAction (state : DeviceState) (event : DeviceEvent) :
    event.touchesFrame = false → ¬ (state = .cyclicSending ∧ event = .receiveOk) →
      ¬ (state = .cyclicSending ∧ event = .groupTimeout) →
      (deviceFsmMatrix state event).2 = none := by
  cases state <;> cases event <;> decide

section
variable (gs : GroupSetting) (g d : Nat) (gd : GroupData)

/-- a device that has not answered: the counter decides between disconnection and another scan -/
theorem clmIefbDeviceFsmEvent_timeout (hs : (gd.slaveDevices d).deviceState = .cyclicSending) :
    clmIefbDeviceFsmEvent gs g d .groupTimeout gd
      = (gd.modifyDevice d (SlaveDeviceData.timeout gs), []) := by
  have hm : deviceFsmMatrix (gd.slaveDevices d).deviceState .groupTimeout
      = (.cyclicSending, some .evaluateTimeoutcounter) := by rw [hs]; rfl
  -- the first round counts and stays in the state
  have hfirst : deviceTransition gs g d .cyclicSending (some .evaluateTimeoutcounter) gd
      = ((clmIefbEvaluateTimeoutcounter gs d gd).1, [],
          (clmIefbEvaluateTimeoutcounter gs d gd).2) := by
    have hid : gd.modifyDevice d (fun dev => { dev with deviceState := .cyclicSending }) = gd := by
      rw [GroupData.modifyDevice_congr gd d (fun dev => dev) (by simp only [← hs]),
        GroupData.modifyDevice_id]
    simp [deviceTransition, hs, hid, DeviceAction.perform]
  simp only [clmIefbDeviceFsmEvent, drive_succ, deviceFsmRound, hm, hfirst, List.nil_append]
  by_cases hfull : (gd.slaveDevices d).timeoutCount + 1 ≥ gs.parallelOffTimeoutCount
  · have he : clmIefbEvaluateTimeoutcounter gs d gd = (gd.modifyDevice d (fun dev => { dev with
        timeoutCount := dev.timeoutCount + 1
        statistics := { dev.statistics with
          numberOfTimeouts := dev.statistics.numberOfTimeouts + 1 } }), .timeoutcounterFull) := by
      simp [clmIefbEvaluateTimeoutcounter, hfull]
    have hrow : deviceFsmMatrix .cyclicSending .timeoutcounterFull = (.listen, none) := rfl
    simp only [he, GroupData.modifyDevice_self, hs, hrow, deviceTransition_none]
    simp only [reduceCtorEq, if_false, if_true, GroupData.modifyDevice_modifyDevice]
    rw [GroupData.modifyDevice_congr gd d (SlaveDeviceData.timeout gs)]
    simp [SlaveDeviceData.timeout, SlaveDeviceData.enter, SlaveDeviceData.toListen, hs, hfull]
  · have he : clmIefbEvaluateTimeoutcounter gs d gd = (gd.modifyDevice d (fun dev => { dev with
        timeoutCount := dev.timeoutCount + 1 }), .timeoutcounterNotFull) := by
      simp [clmIefbEvaluateTimeoutcounter, hfull]
    have hrow : deviceFsmMatrix .cyclicSending .timeoutcounterNotFull = (.cyclicSent, none) := rfl
    simp only [he, GroupData.modifyDevice_self, hs, hrow, deviceTransition_none]
    simp only [reduceCtorEq, if_false, if_true, GroupData.modifyDevice_modifyDevice]
    rw [GroupData.modifyDevice_congr gd d (SlaveDeviceData.timeout gs)]
    simp [SlaveDeviceData.timeout, SlaveDeviceData.enter, hfull]

theorem clmIefbDeviceFsmEvent_receiveOk (hs : (gd.slaveDevices d).deviceState = .cyclicSending) :
    clmIefbDeviceFsmEvent gs g d .receiveOk gd
      = (gd.modifyDevice d
          (fun dev => { dev with deviceState := .cyclicSent, timeoutCount := 0 }), []) := by
  have hm : deviceFsmMatrix (gd.slaveDevices d).deviceState .receiveOk
      = (.cyclicSent, some .resetTimeoutCount) := by rw [hs]; rfl
  have ht : deviceTransition gs g d .cyclicSent (some .resetTimeoutCount) gd
      = (gd.modifyDevice d
          (fun dev => { dev with deviceState := .cyclicSent, timeoutCount := 0 }), [], .none) := by
    simp [deviceTransition, hs, deviceOnEntry, DeviceAction.perform, clmIefbResetTimeoutCount]
  rw [clmIefbDeviceFsmEvent_once gs g d hm (by rw [ht]), ht]

theorem clmIefbDeviceFsmEvent_local {event : DeviceEvent} (he : event.touchesFrame = false) :
    clmIefbDeviceFsmEvent gs g d event gd = (gd.modifyDevice d (deviceLocal gs event), []) := by
  by_cases h1 : (gd.slaveDevices d).deviceState = .cyclicSending ∧ event = .receiveOk
  · obtain ⟨hs, rfl⟩ := h1
    rw [clmIefbDeviceFsmEvent_receiveOk gs g d gd hs]
    rw [GroupData.modifyDevice_congr gd d (deviceLocal gs .receiveOk)]
    simp only [deviceLocal, hs]
  by_cases h2 : (gd.slaveDevices d).deviceState = .cyclicSending ∧ event = .groupTimeout
  · obtain ⟨hs, rfl⟩ := h2
    rw [clmIefbDeviceFsmEvent_timeout gs g d gd hs]
    rw [GroupData.modifyDevice_congr gd d (deviceLocal gs .groupTimeout)]
    simp only [deviceLocal, hs]
  have hm := deviceFsmMatrix_noAction _ event he h1 h2
  rw [clmIefbDeviceFsmEvent_none gs g d _ (Prod.ext rfl hm),
    GroupData.modifyDevice_congr gd d (deviceLocal gs event)]
  unfold deviceLocal
  split
  · exact absurd ⟨‹_›, rfl⟩ h1
  · exact absurd ⟨‹_›, rfl⟩ h2
  · rfl

end

/-! ## scan start and startup -/

section
variable (gs : GroupSetting) (g d : Nat) (gd : GroupData)

/-- a row that runs `clm_iefb_set_data_ip` -/
theorem clmIefbDeviceFsmEvent_setDataIp {event : DeviceEvent} {next : DeviceState}
    (hm : deviceFsmMatrix (gd.slaveDevices d).deviceState event = (next, some .setDataIp))
    (hn : next ≠ .listen) :
    clmIefbDeviceFsmEvent gs g d event gd
      = clmIefbSetDataIp gs g d next
          (gd.modifyDevice d (fun dev => { dev with deviceState := next })) := by
  have ht : deviceTransition gs g d next (some .setDataIp) gd
      = ((clmIefbSetDataIp gs g d next
          (gd.modifyDevice d (fun dev => { dev with deviceState := next }))).1,
        (clmIefbSetDataIp gs g d next
          (gd.modifyDevice d (fun dev => { dev with deviceState := next }))).2, .none) := by
    simp [deviceTransition, deviceOnEntry, hn, DeviceAction.perform]
  rw [clmIefbDeviceFsmEvent_once gs g d hm (by rw [ht]), ht]

theorem clmIefbDeviceFsmEvent_startup (hs : (gd.slaveDevices d).deviceState = .masterDown) :
    clmIefbDeviceFsmEvent gs g d .groupStartup gd
      = (clmIefbDeviceInit gs d
          (gd.modifyDevice d (fun dev => { dev with deviceState := .listen })), []) := by
  have hm : deviceFsmMatrix (gd.slaveDevices d).deviceState .groupStartup
      = (.listen, some .deviceInit) := by rw [hs]; rfl
  have ht : deviceTransition gs g d .listen (some .deviceInit) gd
      = (clmIefbDeviceInit gs d
          (gd.modifyDevice d (fun dev => { dev with deviceState := .listen })), [], .none) := by
    simp [deviceTransition, hs, deviceOnEntry, DeviceAction.perform, clmIefbResetTimeoutCount,
      clmIefbDeviceInit]
  rw [clmIefbDeviceFsmEvent_once gs g d hm (by rw [ht]), ht]

end

/-! ## all devices of a group -/

/-- the first `n` devices changed -/
def GroupData.mapDevices (gd : GroupData) (n : Nat) (f : Nat → SlaveDeviceData → SlaveDeviceData) :
    GroupData :=
  { gd with slaveDevices := fun d => if d < n then f d (gd.slaveDevices d) else gd.slaveDevices d }

theorem GroupData.mapDevices_slaveDevices (gd : GroupData) {n d : Nat}
    (f : Nat → SlaveDeviceData → SlaveDeviceData) (hd : d < n) :
    (gd.mapDevices n f).slaveDevices d = f d (gd.slaveDevices d) := if_pos hd

theorem GroupData.mapDevices_zero (gd : GroupData) (f : Nat → SlaveDeviceData → SlaveDeviceData) :
    gd.mapDevices 0 f = gd := by
  simp [mapDevices]

theorem GroupData.mapDevices_succ (gd : GroupData) (k : Nat)
    (f : Nat → SlaveDeviceData → SlaveDeviceData) :
    (gd.mapDevices k f).modifyDevice k (f k) = gd.mapDevices (k+1) f := by
  have hdev : ((gd.mapDevices k f).modifyDevice k (f k)).slaveDevices
      = (gd.mapDevices (k+1) f).slaveDevices := by
    funext d
    rw [modifyDevice_slaveDevices]
    by_cases h : d = k
    · subst h
      simp [mapDevices]
    · have e : (d < k + 1) ↔ (d < k) := by omega
      simp only [mapDevices, if_neg h, e]
  exact congrArg (fun x => { gd with slaveDevices := x }) hdev

/-- the loop over the devices, when every round only changes its device -/
theorem loop_modifyDevice (n : Nat) (f : Nat → SlaveDeviceData → SlaveDeviceData) (gd : GroupData) :
    loop (fun d gd => gd.modifyDevice d (f d)) n gd = gd.mapDevices n f := by
  refine loop_inv (fun k t => t = gd.mapDevices k f) (gd.mapDevices_zero f).symm ?_
  rintro k t _ rfl
  exact gd.mapDevices_succ k f

theorem clmIefbDeviceFsmEventAllInGroup_map {gs : GroupSetting} {g : Nat} {event : DeviceEvent}
    {gd : GroupData} (f : Nat → SlaveDeviceData → SlaveDeviceData)
    (h : ∀ d t, d < gs.numSlaveDevices.toNat → t.slaveDevices d = gd.slaveDevices d →
      clmIefbDeviceFsmEvent gs g d event t = (t.modifyDevice d (f d), [])) :
    clmIefbDeviceFsmEventAllInGroup gs g event gd
      = (gd.mapDevices gs.numSlaveDevices.toNat f, []) := by
  refine loop_inv (fun k t => t = (gd.mapDevices k f, [])) (by rw [gd.mapDevices_zero]) ?_
  rintro k t hkn rfl
  have hk : (gd.mapDevices k f).slaveDevices k = gd.slaveDevices k := if_neg (Nat.lt_irrefl k)
  simp only [h k _ hkn hk, gd.mapDevices_succ, List.append_nil]

theorem clmIefbDeviceFsmEventAllInGroup_local {gs : GroupSetting} {g : Nat} (event : DeviceEvent)
    {gd : GroupData} (he : event.touchesFrame = false) :
    clmIefbDeviceFsmEventAllInGroup gs g event gd
      = (gd.mapDevices gs.numSlaveDevices.toNat (fun _ => deviceLocal gs event), []) :=
  clmIefbDeviceFsmEventAllInGroup_map _ (fun d t _ _ => clmIefbDeviceFsmEvent_local gs g d t he)

end CLink
