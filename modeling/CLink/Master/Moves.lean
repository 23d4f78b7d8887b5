import CLink.Master.Step
import CLink.Lib.Trace

/-!
# What a step can do to one group

The functions of the master change the data of a group by a few moves.  Every invariant of a group
is proved once per move.

* `GroupMove cfg g A`     the moves of group `g`; `A` says which inputs from outside are admitted;
* `GroupInput c e g`      the inputs of group `g` in the event `e`;
* `checkDevice`, `acceptResponse`   the handling of a response without the shared data of `clm_t`;
* `ofGroup g`             the outputs that concern group `g`.

Between two moves of one step a group can be in `MASTER_LINK_SCAN_COMP` for a moment.
-/

namespace CLink
open Loop Trace

/-! ## outputs of a group -/

/-- the group an output is about -/
def Output.owner : Output → Option Nat
  | sendRequest g _ _ _ _ => some g
  | stored g _ _ _ => some g
  | linkscanCb g _ => some g
  | connectCb g _ _ => some g
  | disconnectCb g _ _ => some g
  | slaveinfoCb g _ _ _ _ => some g
  | alarmCb g _ _ _ _ => some g
  | stateCb _ => none
  | errorCb _ _ _ => none
  | saveParameterNo _ => none

def Output.isOf (g : Nat) (x : Output) : Bool := x.owner = some g

def ofGroup (g : Nat) (out : List Output) : List Output := out.filter (Output.isOf g)

/-- a request of group `g` -/
def Output.isRequest (g : Nat) : Output → Bool
  | sendRequest g' _ _ _ _ => g' = g
  | _ => false

theorem ofGroup_append (g : Nat) (a b : List Output) :
    ofGroup g (a ++ b) = ofGroup g a ++ ofGroup g b := List.filter_append a b

/-- outputs about nothing or about another group -/
theorem ofGroup_other {g h : Nat} {out : List Output} (hne : g ≠ h)
    (ho : ∀ x ∈ out, x.owner = none ∨ x.owner = some h) : ofGroup g out = [] := by
  refine List.filter_eq_nil_iff.mpr (fun x hx => ?_)
  rw [Output.isOf, decide_eq_true_eq]
  rcases ho x hx with h' | h' <;> rw [h']
  · simp
  · simpa using fun h'' => hne h''.symm

/-- an output about no group -/
theorem Output.isRequest_of_owner {x : Output} (h : x.owner = none) (g : Nat) :
    x.isRequest g = false := by
  cases x with
  | sendRequest => cases h
  | _ => rfl

theorem noRequests {g : Nat} {out : List Output} (h : ∀ x ∈ out, x.isRequest g = false) :
    out.filter (Output.isRequest g) = [] := by
  apply List.filter_eq_nil_iff.mpr
  intro x hx
  rw [h x hx]
  exact Bool.false_ne_true

theorem Output.isOf_of_isRequest {g : Nat} {x : Output} (h : x.isRequest g = true) :
    x.isOf g = true := by
  cases x <;> simp_all [isRequest, isOf, owner]

/-- a kind of outputs that are all about the group -/
theorem ofGroup_filter {g : Nat} {p : Output → Bool} (hp : ∀ x, p x = true → x.isOf g = true)
    (out : List Output) : (ofGroup g out).filter p = out.filter p := by
  unfold ofGroup
  rw [List.filter_filter]
  congr 1
  funext x
  cases hx : p x with
  | true => simp [hp x hx]
  | false => simp

/-- the requests of a group are among the outputs about it -/
theorem ofGroup_requests (g : Nat) (out : List Output) :
    (ofGroup g out).filter (Output.isRequest g) = out.filter (Output.isRequest g) :=
  ofGroup_filter (fun _ => Output.isOf_of_isRequest) out

/-! ## handling a response -/

/-- the alarms counted before the number of stations is checked -/
def countAlarms (r : CyclicResponse) (dev : SlaveDeviceData) : SlaveDeviceData :=
  let endCode := r.fullHeaders.cyclicHeader.endCode
  let dev := if endCode = endcodeWrongNumberOccupiedStations then countAlarm dev else dev
  if endCode = endcodeMasterDuplication then countAlarm dev else dev

/-- `checkResponse` for the device alone -/
def checkDevice (gs : GroupSetting) (d : Nat) (r : CyclicResponse) (gd : GroupData) :
    SlaveDeviceData × Bool :=
  let dev := countIncoming (gd.slaveDevices d)
  if dev.enabled = false then (countInvalid dev, false)
  else if isDuplicate dev r then (deviceLocal gs .slaveDuplication (countInvalid dev), false)
  else if dev.transmissionBit = true
      ∧ r.fullHeaders.cyclicDataHeader.frameSequenceNo ≠ gd.frameSequenceNo then
    (countInvalid dev, false)
  else
    let dev := countAlarms r dev
    if r.numberOfOccupied ≠ (gs.slaveDevices d).numOccupiedStations then (countInvalid dev, false)
    else (dev, true)

/-- `reportChanges` for the device alone -/
def countReported (r : CyclicResponse) (dev : SlaveDeviceData) : SlaveDeviceData :=
  let endCode := r.fullHeaders.cyclicHeader.endCode
  if endCode = endcodeSlaveError ∨ endCode = endcodeSlaveRequestsDisconnect then countAlarm dev
  else dev

/-- the callbacks of `reportChanges` -/
def reports (g d : Nat) (r : CyclicResponse) (latest : FrameValues) : List Output :=
  let endCode := r.fullHeaders.cyclicHeader.endCode
  let slaveErrCode := r.fullHeaders.slaveStationNotification.slaveErrCode
  let localManagementInfo := r.fullHeaders.slaveStationNotification.localManagementInfo
  (if (endCode = endcodeSlaveError ∨ endCode = endcodeSlaveRequestsDisconnect)
      ∧ endCode ≠ latest.endCode then
    [.alarmCb g d endCode slaveErrCode localManagementInfo] else [])
  ++ (if latest.hasBeenReceived = true ∧ (slaveErrCode ≠ latest.slaveErrCode
      ∨ localManagementInfo ≠ latest.localManagementInfo) then
    [.slaveinfoCb g d endCode slaveErrCode localManagementInfo] else [])

theorem reports_spec (g d : Nat) (r : CyclicResponse) (latest : FrameValues) :
    ∀ x ∈ reports g d r latest, x.owner = some g ∧ ∀ h, x.isRequest h = false := by
  intro x hx
  simp only [reports, List.mem_append] at hx
  rcases hx with hx | hx
  · split at hx
    · rw [List.mem_singleton.mp hx]
      exact ⟨rfl, fun _ => rfl⟩
    · cases hx
  · split at hx
    · rw [List.mem_singleton.mp hx]
      exact ⟨rfl, fun _ => rfl⟩
    · cases hx

/-- neither the callbacks nor the mark of an accepted response is a request -/
theorem accepted_isRequest (g d : Nat) (r : CyclicResponse) (latest : FrameValues) (valid : Bool) :
    ∀ x ∈ reports g d r latest ++ [.stored g d r valid], ∀ h, x.isRequest h = false := by
  intro x hx h
  rcases List.mem_append.mp hx with hx | hx
  · exact (reports_spec g d r latest x hx).2 h
  · rw [List.mem_singleton.mp hx]
    rfl

/-- the device event of an accepted response -/
def responseEvent (r : CyclicResponse) : DeviceEvent :=
  if r.fullHeaders.cyclicHeader.endCode = endcodeSuccess then .receiveOk else .receiveError

/-- an alarm about the master leaves the device to the group -/
def deviceResponse (gs : GroupSetting) (r : CyclicResponse) (dev : SlaveDeviceData) :
    SlaveDeviceData :=
  if r.fullHeaders.cyclicHeader.endCode = endcodeMasterDuplication then dev
  else deviceLocal gs (responseEvent r) dev

/-- the group after an accepted response, before the link scan may be complete -/
def acceptResponse (cfg : Config) (gs : GroupSetting) (d : Nat) (r : CyclicResponse)
    (gd : GroupData) : GroupData :=
  let dev := (checkDevice gs d r gd).1
  { gd with
    slaveDevices := Function.update gd.slaveDevices d
      (deviceResponse gs r (storeHeaders cfg gd r (countReported r dev)))
    memoryArea := clmIefbStoreIncomingCyclicData gd.memoryArea r dev.slaveStationNo
      (gs.slaveDevices d).numOccupiedStations dev.transmissionBit }

/-! ## moves -/

/-- the end of a link scan -/
def GroupData.endScan (gs : GroupSetting) (event : DeviceEvent) (gd : GroupData) : GroupData :=
  { gd.mapDevices gs.numSlaveDevices.toNat (fun _ => deviceLocal gs event) with
    groupState := .masterLinkScanComp
    frameSequenceNo := clmIefbUpdateFrameSequenceNo gd.frameSequenceNo }

def GroupData.standby (gs : GroupSetting) (gd : GroupData) : GroupData :=
  { gd.mapDevices gs.numSlaveDevices.toNat (fun _ => deviceLocal gs .groupStandby) with
    groupState := .masterListen }

def GroupData.clearStatistics (gs : GroupSetting) (gd : GroupData) : GroupData :=
  gd.mapDevices gs.numSlaveDevices.toNat (fun _ dev => { dev with
    statistics := clmIefbStatisticsClear dev.statistics
    latestFrame := clmIefbLatestReceivedClear dev.latestFrame })

theorem GroupData.endScan_slaveDevices (gs : GroupSetting) (event : DeviceEvent) (gd : GroupData)
    {d : Nat} (hd : d < gs.numSlaveDevices.toNat) :
    (gd.endScan gs event).slaveDevices d = deviceLocal gs event (gd.slaveDevices d) := if_pos hd

theorem GroupData.standby_slaveDevices (gs : GroupSetting) (gd : GroupData) {d : Nat}
    (hd : d < gs.numSlaveDevices.toNat) :
    (gd.standby gs).slaveDevices d = deviceLocal gs .groupStandby (gd.slaveDevices d) := if_pos hd

/-- the group part of a link scan start -/
def linkscanStart (g : Nat) (now : UInt32) (unixMs : Nat → UInt64) (clm : ClmShared)
    (gd : GroupData) : Scope :=
  clmIefbOnLinkscanStart g now unixMs
    { clm := clm, group := { gd with groupState := .masterLinkScan }, out := [] }

/-- what a group gets from outside, apart from the time and from requests of other masters -/
inductive GroupInput where
  | setEnabled (d : Nat) (enabled : Bool)
  | setForce (d : Nat) (force : Bool)
  | clearStatistics
  | response (d : Nat) (r : CyclicResponse)

inductive GroupMove (cfg : Config) (g : Nat) (A : GroupInput → GroupData → Prop) :
    GroupData → List Output → GroupData → Prop where
  | setEnabled (gd : GroupData) (d : Nat) (enabled : Bool) (ha : A (.setEnabled d enabled) gd) :
    GroupMove cfg g A gd [] (gd.modifyDevice d (fun dev => { dev with enabled := enabled }))
  | setForce (gd : GroupData) (d : Nat) (force : Bool) (ha : A (.setForce d force) gd) :
    GroupMove cfg g A gd []
      (gd.modifyDevice d (fun dev => { dev with forceTransmissionBit := force }))
  | clearStatistics (gd : GroupData) (ha : A .clearStatistics gd) :
    GroupMove cfg g A gd [] (gd.clearStatistics (cfg.hier.groups g))
  | writeMemoryArea (gd : GroupData) (ry : Nat → BitArea) (rww : Nat → WordArea) :
    GroupMove cfg g A gd []
      { gd with memoryArea := { gd.memoryArea with ry := ry, rww := rww } }
  | stopResponseWaitTimer (gd : GroupData) :
    GroupMove cfg g A gd [] { gd with responseWaitTimer := clTimerStop gd.responseWaitTimer }
  | stopConstantLinkscanTimer (gd : GroupData) :
    GroupMove cfg g A gd []
      { gd with constantLinkscanTimer := clTimerStop gd.constantLinkscanTimer }
  | rejected (gd : GroupData) (d : Nat) (r : CyclicResponse)
      (hd : d < (cfg.hier.groups g).numSlaveDevices.toNat) (ha : A (.response d r) gd)
      (hc : (checkDevice (cfg.hier.groups g) d r gd).2 = false) :
    GroupMove cfg g A gd []
      (gd.modifyDevice d (fun _ => (checkDevice (cfg.hier.groups g) d r gd).1))
  | accepted (gd : GroupData) (d : Nat) (r : CyclicResponse)
      (hd : d < (cfg.hier.groups g).numSlaveDevices.toNat) (ha : A (.response d r) gd)
      (hc : (checkDevice (cfg.hier.groups g) d r gd).2 = true) :
    GroupMove cfg g A gd
      (reports g d r (gd.slaveDevices d).latestFrame
        ++ [.stored g d r (gd.slaveDevices d).transmissionBit])
      (acceptResponse cfg (cfg.hier.groups g) d r gd)
  | complete (gd : GroupData) (hs : gd.groupState = .masterLinkScan)
      (hr : clmIefbGroupHaveReceivedFromAllDevices (cfg.hier.groups g) gd = true) :
    GroupMove cfg g A gd [.linkscanCb g true]
      (gd.endScan (cfg.hier.groups g) .groupAllResponded)
  | timeout (gd : GroupData) (hs : gd.groupState = .masterLinkScan) :
    GroupMove cfg g A gd [.linkscanCb g false] (gd.endScan (cfg.hier.groups g) .groupTimeout)
  | arbitrationDone (gd : GroupData) (hs : gd.groupState = .masterArbitration) :
    GroupMove cfg g A gd [] { gd with groupState := .masterLinkScanComp }
  | start (gd : GroupData) (clm : ClmShared) (now : UInt32) (unixMs : Nat → UInt64)
      (hclm : clm.config = cfg) (hs : gd.groupState = .masterLinkScanComp) :
    GroupMove cfg g A gd (linkscanStart g now unixMs clm gd).out
      (linkscanStart g now unixMs clm gd).group
  | standby (gd : GroupData)
      (hs : gd.groupState = .masterArbitration ∨ gd.groupState = .masterLinkScanComp
        ∨ gd.groupState = .masterLinkScan) :
    GroupMove cfg g A gd [] (gd.standby (cfg.hier.groups g))

end CLink
