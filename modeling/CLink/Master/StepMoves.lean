import CLink.Common.ResponseGrammar
import CLink.Master.Moves

/-!
# The moves of a step

* `Clm.forGroups_spec`        a function run for every group in turn;
* `clmResponse`               the response in a received datagram, with its group and device;
* `clmIefbHandleInputFrame_cases`   a datagram is such a response, a request of another master, or
                              dropped;
* `clmStep_moves`             a step of the master is a sequence of moves for every group;
* `MasterStart.run_inv`       an invariant kept by every move holds at the end of every run.
-/

namespace CLink
open Loop Trace

/-! ## moves of a scope -/

/-- `s'` comes from `s` by moves of group `g`, and the outputs are those of the moves apart from
outputs about no group -/
structure ScopeMoves (cfg : Config) (g : Nat) (A : GroupInput → GroupData → Prop) (s s' : Scope) :
    Prop where
  config : s'.clm.config = s.clm.config
  moves : ∃ o, s'.out = s.out ++ o ∧ (∀ x ∈ o, x.owner = none ∨ x.owner = some g)
    ∧ Star (GroupMove cfg g A) s.group (ofGroup g o) s'.group

namespace ScopeMoves
variable {cfg : Config} {g : Nat} {A : GroupInput → GroupData → Prop} {s s' s'' : Scope}

theorem refl (s : Scope) : ScopeMoves cfg g A s s :=
  ⟨rfl, [], (List.append_nil _).symm, fun _ hx => absurd hx List.not_mem_nil, .refl _⟩

theorem trans (h : ScopeMoves cfg g A s s') (h' : ScopeMoves cfg g A s' s'') :
    ScopeMoves cfg g A s s'' := by
  obtain ⟨hc, o, ho, hown, hm⟩ := h
  obtain ⟨hc', o', ho', hown', hm'⟩ := h'
  refine ⟨hc'.trans hc, o ++ o', ?_, ?_, ?_⟩
  · rw [ho', ho, List.append_assoc]
  · exact fun x hx => (List.mem_append.mp hx).elim (hown x) (hown' x)
  · rw [ofGroup_append]
    exact hm.trans hm'

/-- a part that only touches the shared data, with outputs about no group -/
theorem shared {clm : ClmShared} {o : List Output} (hc : clm.config = s.clm.config)
    (ho : ∀ x ∈ o, x.owner = none) :
    ScopeMoves cfg g A s { clm := clm, group := s.group, out := s.out ++ o } := by
  refine ⟨hc, o, rfl, fun x hx => Or.inl (ho x hx), ?_⟩
  have hnil : ofGroup g o = [] := by
    refine List.filter_eq_nil_iff.mpr (fun x hx => ?_)
    simp [Output.isOf, ho x hx]
  rw [hnil]
  exact .refl _

/-- one move -/
theorem single {gd : GroupData} {o : List Output} (hm : GroupMove cfg g A s.group o gd)
    (ho : ∀ x ∈ o, x.owner = some g) :
    ScopeMoves cfg g A s { s with group := gd, out := s.out ++ o } := by
  refine ⟨rfl, o, rfl, fun x hx => Or.inr (ho x hx), ?_⟩
  have hall : ofGroup g o = o := by
    refine List.filter_eq_self.mpr (fun x hx => ?_)
    simp [Output.isOf, ho x hx]
  rw [hall]
  exact .single hm

/-- one move without outputs -/
theorem silent {gd : GroupData} (hm : GroupMove cfg g A s.group [] gd) :
    ScopeMoves cfg g A s { s with group := gd } :=
  ⟨rfl, [], (List.append_nil _).symm, fun _ hx => absurd hx List.not_mem_nil, .single hm⟩

end ScopeMoves

/-! ## the functions of a group -/

theorem clmIefbSetMasterState_spec (clm : ClmShared) (state : MasterState) :
    (clmIefbSetMasterState clm state).1.config = clm.config
      ∧ ∀ x ∈ (clmIefbSetMasterState clm state).2, x.owner = none := by
  unfold clmIefbSetMasterState
  split <;> simp [Output.owner]

theorem clmIefbTriggerErrorCallback_spec (clm : ClmShared) (now : UInt32) (message : ErrorMessage)
    (ipAddr : IpAddr) (argument2 : UInt16) :
    (clmIefbTriggerErrorCallback clm now message ipAddr argument2).1.config = clm.config
      ∧ ∀ x ∈ (clmIefbTriggerErrorCallback clm now message ipAddr argument2).2, x.owner = none := by
  refine ⟨rfl, fun x hx => ?_⟩
  simp only [clmIefbTriggerErrorCallback] at hx
  split at hx
  · rw [List.mem_singleton] at hx
    rw [hx]
    rfl
  · cases hx

section
variable {cfg : Config} {g : Nat} {A : GroupInput → GroupData → Prop} {s : Scope}

theorem scopeMoves_masterState (state : MasterState) :
    ScopeMoves cfg g A s (enterMasterState state s) :=
  .shared (clmIefbSetMasterState_spec _ _).1 (clmIefbSetMasterState_spec _ _).2

theorem scopeMoves_triggerError (now : UInt32) (message : ErrorMessage) (ipAddr : IpAddr)
    (argument2 : UInt16) :
    ScopeMoves cfg g A s
      { s with
        clm := (clmIefbTriggerErrorCallback s.clm now message ipAddr argument2).1
        out := s.out ++ (clmIefbTriggerErrorCallback s.clm now message ipAddr argument2).2 } :=
  .shared (clmIefbTriggerErrorCallback_spec _ _ _ _ _).1
    (clmIefbTriggerErrorCallback_spec _ _ _ _ _).2

end

/-! ## outputs of device functions -/

/-- a connect or disconnect callback -/
def Output.isConnection (g : Nat) (x : Output) : Prop :=
  ∃ d id, x = .connectCb g d id ∨ x = .disconnectCb g d id

theorem Output.isConnection.owner {g : Nat} {x : Output} (h : x.isConnection g) :
    x.owner = some g := by
  obtain ⟨d, id, rfl | rfl⟩ := h <;> rfl

theorem Output.isConnection.isRequest {g : Nat} {x : Output} (h : x.isConnection g) :
    x.isRequest g = false := by
  obtain ⟨d, id, rfl | rfl⟩ := h <;> rfl

section
variable (gs : GroupSetting) (g d : Nat)

theorem setTransmissionBit_out (newState : DeviceState) (dev : SlaveDeviceData) :
    ∀ x ∈ (setTransmissionBit gs g d newState dev).2, x.isConnection g := by
  unfold setTransmissionBit
  intro x hx
  split at hx <;> split at hx
  · exact ⟨d, _, Or.inl (List.mem_singleton.mp hx)⟩
  · cases hx
  · exact ⟨d, _, Or.inr (List.mem_singleton.mp hx)⟩
  · cases hx

theorem deviceTransition_out (next : DeviceState) (action : Option DeviceAction) (gd : GroupData) :
    ∀ x ∈ (deviceTransition gs g d next action gd).2.1, x.isConnection g := by
  have hout : (deviceTransition gs g d next action gd).2.1
      = action.elim [] (fun action => (action.perform gs g d next
          (gd.modifyDevice d (fun dev => { dev with deviceState := next }))).2.1) := by
    rw [deviceTransition_elim]
    generalize (if next ≠ (gd.slaveDevices d).deviceState then deviceOnEntry next else none) = entry
    cases action <;> cases entry <;> rfl
  rw [hout]
  intro x hx
  cases action with
  | none => cases hx
  | some action =>
    cases action with
    | setDataIp => exact setTransmissionBit_out gs g d _ _ x hx
    | _ => cases hx

theorem clmIefbDeviceFsmEvent_out (event : DeviceEvent) (gd : GroupData) :
    ∀ x ∈ (clmIefbDeviceFsmEvent gs g d event gd).2, x.isConnection g := by
  have hround : ∀ e (t : GroupData × List Output), (∀ x ∈ t.2, x.isConnection g) →
      ∀ x ∈ (deviceFsmRound gs g d e t).2.2, x.isConnection g := by
    intro e t ht x hx
    rcases List.mem_append.mp hx with hx | hx
    · exact ht x hx
    · exact deviceTransition_out gs g d _ _ _ x hx
  have h0 : ∀ x ∈ ((gd, []) : GroupData × List Output).2, x.isConnection g :=
    fun x hx => absurd hx List.not_mem_nil
  have h1 := hround event _ h0
  unfold clmIefbDeviceFsmEvent
  rw [drive_succ, drive_succ, drive]
  split
  · exact h1
  · split
    · exact hround _ _ h1
    · exact hround _ _ h1

theorem startDevices_out (gd : GroupData) :
    ∀ x ∈ (startDevices gs g gd).2, x.isConnection g := by
  refine loop_inv (fun _ (t : GroupData × List Output) => ∀ x ∈ t.2, x.isConnection g)
    (fun x hx => absurd hx List.not_mem_nil) ?_
  intro d t _ ht x hx
  rcases List.mem_append.mp hx with hx | hx
  · exact ht x hx
  · exact clmIefbDeviceFsmEvent_out gs g d _ _ x hx

end

/-- connections first, then the request -/
theorem linkscanStart_out (g : Nat) (now : UInt32) (unixMs : Nat → UInt64) (clm : ClmShared)
    (gd : GroupData) :
    (linkscanStart g now unixMs clm gd).out
      = (startDevices (clm.config.hier.groups g) g
            { gd with groupState := .masterLinkScan }).2
        ++ [.sendRequest g { gd with groupState := .masterLinkScan } clm.iefbBroadcastIp clCciefbPort
            (clmIefbSendCyclicRequestFrame
              (startDevices (clm.config.hier.groups g) g
                { gd with groupState := .masterLinkScan }).1 (unixMs g)
              clm.masterLocalUnitInfo).datagram] := rfl

/-! ## the events of a group -/

section
variable {cfg : Config} {g : Nat} {A : GroupInput → GroupData → Prop} {s : Scope}
  (now : UInt32) (unixMs : Nat → UInt64)

theorem clmIefbOnLinkscanStart_eq (g : Nat) (s : Scope) :
    clmIefbOnLinkscanStart g now unixMs (s.inState .masterLinkScan)
      = { s with
          group := (linkscanStart g now unixMs s.clm s.group).group
          out := s.out ++ (linkscanStart g now unixMs s.clm s.group).out } := rfl

/-- a link scan start from `MASTER_LINK_SCAN_COMP` -/
theorem scopeMoves_linkscanStart (hc : s.clm.config = cfg)
    (hs : s.group.groupState = .masterLinkScanComp) :
    ScopeMoves cfg g A s (clmIefbOnLinkscanStart g now unixMs (s.inState .masterLinkScan)) := by
  rw [clmIefbOnLinkscanStart_eq]
  refine .single (.start s.group s.clm now unixMs hc hs) (fun x hx => ?_)
  rw [linkscanStart_out] at hx
  rcases List.mem_append.mp hx with hx | hx
  · exact (startDevices_out _ _ _ x hx).owner
  · rw [List.mem_singleton.mp hx]
    rfl

theorem scopeMoves_arbitrationDone (hc : s.clm.config = cfg) :
    ScopeMoves cfg g A s (clmIefbGroupFsmEvent g now unixMs .arbitrationDone s) := by
  by_cases hs : s.group.groupState = .masterArbitration
  · rw [clmIefbGroupFsmEvent_arbitrationDone g now unixMs hs]
    have h1 : ScopeMoves cfg g A s (s.inState .masterLinkScanComp) :=
      .silent (.arbitrationDone s.group hs)
    have h2 := h1.trans (scopeMoves_masterState .running)
    exact h2.trans (scopeMoves_linkscanStart now unixMs (h2.config.trans hc) rfl)
  · rw [clmIefbGroupFsmEvent_stay]
    · exact .refl s
    · generalize s.group.groupState = state at hs
      cases state <;> first | rfl | exact absurd rfl hs

theorem endScan_eq (g : Nat) (s : Scope) (event : DeviceEvent) (success : Bool) :
    (s.inState .masterLinkScanComp).endScan g event success
      = { s with
          group := s.group.endScan (s.setting g) event
          out := s.out ++ [.linkscanCb g success] } := rfl

theorem scopeMoves_timeout (hc : s.clm.config = cfg) :
    ScopeMoves cfg g A s (clmIefbGroupFsmEvent g now unixMs .linkscanTimeout s) := by
  by_cases hs : s.group.groupState = .masterLinkScan
  · rw [clmIefbGroupFsmEvent_timeout g now unixMs hs, endScan_eq]
    subst hc
    have h1 : ScopeMoves s.clm.config g A s
        { s with
          group := s.group.endScan (s.setting g) .groupTimeout
          out := s.out ++ [.linkscanCb g false] } :=
      .single (.timeout s.group hs) (fun x hx => by rw [List.mem_singleton.mp hx]; rfl)
    have h2 := h1.trans (scopeMoves_masterState .running)
    exact h2.trans (scopeMoves_linkscanStart now unixMs h2.config rfl)
  · rw [clmIefbGroupFsmEvent_stay]
    · exact .refl s
    · generalize s.group.groupState = state at hs
      cases state <;> first | rfl | exact absurd rfl hs

theorem scopeMoves_complete (hc : s.clm.config = cfg)
    (hr : clmIefbGroupHaveReceivedFromAllDevices (cfg.hier.groups g) s.group = true) :
    ScopeMoves cfg g A s (clmIefbGroupFsmEvent g now unixMs .linkscanComplete s) := by
  by_cases hs : s.group.groupState = .masterLinkScan
  · rw [clmIefbGroupFsmEvent_complete g now unixMs hs]
    subst hc
    have h1 : ScopeMoves s.clm.config g A s { s with group := { s.group with
        responseWaitTimer := clTimerStop s.group.responseWaitTimer } } :=
      .silent (.stopResponseWaitTimer s.group)
    have h2 := h1.trans (.single (.complete _ hs hr)
      (fun x hx => by rw [List.mem_singleton.mp hx]; rfl))
    have h3 : ScopeMoves s.clm.config g A s (s.complete g) :=
      h2.trans (scopeMoves_masterState .running)
    split
    · exact h3
    · exact h3.trans (scopeMoves_linkscanStart now unixMs h3.config rfl)
  · rw [clmIefbGroupFsmEvent_stay]
    · exact .refl s
    · generalize s.group.groupState = state at hs
      cases state <;> first | rfl | exact absurd rfl hs

theorem scopeMoves_scanStart (hc : s.clm.config = cfg) :
    ScopeMoves cfg g A s (clmIefbGroupFsmEvent g now unixMs .linkscanStart s) := by
  by_cases hs : s.group.groupState = .masterLinkScanComp
  · rw [clmIefbGroupFsmEvent_linkscanStart g now unixMs hs]
    exact scopeMoves_linkscanStart now unixMs hc hs
  · rw [clmIefbGroupFsmEvent_stay]
    · exact .refl s
    · generalize s.group.groupState = state at hs
      cases state <;> first | rfl | exact absurd rfl hs

/-- into `MASTER_LISTEN`, after a part that only touches the shared data -/
theorem scopeMoves_standby (hc : s.clm.config = cfg)
    (hs : s.group.groupState = .masterArbitration ∨ s.group.groupState = .masterLinkScanComp
      ∨ s.group.groupState = .masterLinkScan) :
    ScopeMoves cfg g A s (clmIefbGroupOnEntryListen g (s.inState .masterListen)) := by
  rw [clmIefbGroupOnEntryListen_eq]
  subst hc
  have h1 : ScopeMoves s.clm.config g A s { s with group := s.group.standby (s.setting g) } :=
    .silent (.standby s.group hs)
  exact h1.trans (.shared (clmIefbSetMasterState_spec _ _).1 (clmIefbSetMasterState_spec _ _).2)

theorem scopeMoves_alarm (hc : s.clm.config = cfg) :
    ScopeMoves cfg g A s (clmIefbGroupFsmEvent g now unixMs .masterduplAlarm s) := by
  by_cases hs : s.group.groupState = .masterLinkScan ∨ s.group.groupState = .masterLinkScanComp
  · rw [clmIefbGroupFsmEvent_alarm g now unixMs hs]
    exact scopeMoves_standby hc (Or.inr hs.symm)
  · rw [clmIefbGroupFsmEvent_stay]
    · exact .refl s
    · rw [not_or] at hs
      generalize s.group.groupState = state at hs
      cases state <;> first | rfl | exact absurd rfl hs.1 | exact absurd rfl hs.2

theorem scopeMoves_reqFromOther (hc : s.clm.config = cfg) :
    ScopeMoves cfg g A s (clmIefbGroupFsmEvent g now unixMs .reqFromOther s) := by
  by_cases hs : s.group.groupState = .masterArbitration
  · rw [clmIefbGroupFsmEvent_reqFromOther g now unixMs hs]
    have h1 : ScopeMoves cfg g A s (clmIefbOnArbitrationFailed now s) :=
      scopeMoves_triggerError now .arbitrationFailed s.clm.latestConflictingMasterIp 0
    exact h1.trans (scopeMoves_standby (h1.config.trans hc) (Or.inl hs))
  · rw [clmIefbGroupFsmEvent_stay]
    · exact .refl s
    · generalize s.group.groupState = state at hs
      cases state <;> first | rfl | exact absurd rfl hs

theorem scopeMoves_monitorGroupTimers (hc : s.clm.config = cfg) :
    ScopeMoves cfg g A s (monitorGroupTimers g now unixMs s) := by
  have h1 : ScopeMoves cfg g A s
      (if clTimerIsExpired s.group.responseWaitTimer now then
        clmIefbGroupFsmEvent g now unixMs .linkscanTimeout { s with group := { s.group with
          responseWaitTimer := clTimerStop s.group.responseWaitTimer } }
      else s) := by
    split
    · have h : ScopeMoves cfg g A s { s with group := { s.group with
          responseWaitTimer := clTimerStop s.group.responseWaitTimer } } :=
        .silent (.stopResponseWaitTimer s.group)
      exact h.trans (scopeMoves_timeout now unixMs hc)
    · exact .refl s
  unfold monitorGroupTimers
  generalize (if clTimerIsExpired s.group.responseWaitTimer now then
      clmIefbGroupFsmEvent g now unixMs .linkscanTimeout { s with group := { s.group with
        responseWaitTimer := clTimerStop s.group.responseWaitTimer } }
    else s) = t at h1 ⊢
  show ScopeMoves cfg g A s (if _ then _ else t)
  split
  · have h2 : ScopeMoves cfg g A t { t with group := { t.group with
        constantLinkscanTimer := clTimerStop t.group.constantLinkscanTimer } } :=
      .silent (.stopConstantLinkscanTimer t.group)
    exact (h1.trans h2).trans (scopeMoves_scanStart now unixMs (h1.config.trans hc))
  · exact h1

end

/-! ## responses -/

/-- the group part and the shared part of a scope -/
structure ScopeSpec (s s' : Scope) (gd : GroupData) : Prop where
  group : s'.group = gd
  config : s'.clm.config = s.clm.config
  timer : s'.clm.arbitrationTimer = s.clm.arbitrationTimer
  out : ∃ o, s'.out = s.out ++ o ∧ ∀ x ∈ o, x.owner = none

theorem ScopeSpec.refl (s : Scope) : ScopeSpec s s s.group :=
  ⟨rfl, rfl, rfl, [], (List.append_nil _).symm, fun _ hx => absurd hx List.not_mem_nil⟩

theorem ScopeSpec.trans {s s' s'' : Scope} {gd gd' : GroupData} (h : ScopeSpec s s' gd)
    (h' : ScopeSpec s' s'' gd') : ScopeSpec s s'' gd' := by
  obtain ⟨_, hc, ht, o, ho, hown⟩ := h
  obtain ⟨hg', hc', ht', o', ho', hown'⟩ := h'
  refine ⟨hg', hc'.trans hc, ht'.trans ht, o ++ o', ?_, ?_⟩
  · rw [ho', ho, List.append_assoc]
  · exact fun x hx => (List.mem_append.mp hx).elim (hown x) (hown' x)

/-- one move without outputs about the group -/
theorem ScopeSpec.moves {cfg : Config} {g : Nat} {A : GroupInput → GroupData → Prop}
    {s t : Scope} {gd : GroupData} (h : ScopeSpec s t gd)
    (hm : GroupMove cfg g A s.group [] gd) : ScopeMoves cfg g A s t := by
  obtain ⟨hgroup, hconfig, _, o, ho, hown⟩ := h
  obtain ⟨clm, group, out⟩ := t
  obtain rfl : group = gd := hgroup
  obtain rfl : out = s.out ++ o := ho
  exact (ScopeMoves.silent hm).trans (.shared hconfig hown)

/-- a change of one device without outputs -/
theorem scopeSpec_modifyDevice (s : Scope) (d : Nat) (f : SlaveDeviceData → SlaveDeviceData) :
    ScopeSpec s (s.modifyDevice d f) (s.group.modifyDevice d f) :=
  ⟨rfl, rfl, rfl, [], (List.append_nil _).symm, fun _ hx => absurd hx List.not_mem_nil⟩

theorem scopeSpec_triggerError (s : Scope) (now : UInt32) (message : ErrorMessage)
    (ipAddr : IpAddr) : ScopeSpec s (s.triggerError now message ipAddr) s.group :=
  ⟨rfl, (clmIefbTriggerErrorCallback_spec s.clm now message ipAddr 0).1, rfl, _, rfl,
    (clmIefbTriggerErrorCallback_spec s.clm now message ipAddr 0).2⟩

/-- one of the two alarms -/
theorem scopeSpec_alarm (s : Scope) (d : Nat) (now : UInt32) (message : ErrorMessage)
    (ipAddr : IpAddr) (alarm : Prop) [Decidable alarm] :
    ScopeSpec s
      (if alarm then (s.modifyDevice d countAlarm).triggerError now message ipAddr else s)
      (s.group.modifyDevice d (fun dev => if alarm then countAlarm dev else dev)) := by
  by_cases h : alarm
  · simp only [if_pos h]
    exact (scopeSpec_modifyDevice s d countAlarm).trans (scopeSpec_triggerError _ _ _ _)
  · simp only [if_neg h, GroupData.modifyDevice_id]
    exact .refl s

theorem scopeSpec_reportAlarms (d : Nat) (now : UInt32) (r : CyclicResponse) (s : Scope) :
    ScopeSpec s (reportAlarms d now r s) (s.group.modifyDevice d (countAlarms r)) := by
  have h1 := scopeSpec_alarm s d now .slaveReportsWrongNumberOccupied r.remoteIp
    (r.fullHeaders.cyclicHeader.endCode = endcodeWrongNumberOccupiedStations)
  have h2 := h1.trans (scopeSpec_alarm _ d now .slaveReportsMasterDuplication r.remoteIp
    (r.fullHeaders.cyclicHeader.endCode = endcodeMasterDuplication))
  rw [h1.group, GroupData.modifyDevice_modifyDevice] at h2
  exact h2

/-- the checks of a response act on the device alone -/
theorem checkResponse_spec (g d : Nat) (now : UInt32) (r : CyclicResponse) (s : Scope) :
    ScopeSpec s (checkResponse g d now r s).1
        (s.group.modifyDevice d (fun _ => (checkDevice (s.setting g) d r s.group).1))
      ∧ (checkResponse g d now r s).2 = (checkDevice (s.setting g) d r s.group).2 := by
  have h1 := scopeSpec_modifyDevice s d countIncoming
  have hdev : (s.modifyDevice d countIncoming).group.slaveDevices d
      = countIncoming (s.group.slaveDevices d) := GroupData.modifyDevice_self ..
  have hseq : (s.modifyDevice d countIncoming).group.frameSequenceNo = s.group.frameSequenceNo := rfl
  -- the device at the end of each branch, from the scope after the count
  have hend : ∀ {t : Scope} {f : SlaveDeviceData → SlaveDeviceData} {dev : SlaveDeviceData},
      ScopeSpec (s.modifyDevice d countIncoming) t
        ((s.modifyDevice d countIncoming).group.modifyDevice d f) →
      f (countIncoming (s.group.slaveDevices d)) = dev →
      ScopeSpec s t (s.group.modifyDevice d (fun _ => dev)) := by
    intro t f dev ht hf
    have hgd : (s.modifyDevice d countIncoming).group.modifyDevice d f
        = s.group.modifyDevice d (fun _ => dev) := by
      show (s.group.modifyDevice d countIncoming).modifyDevice d f = _
      rw [GroupData.modifyDevice_modifyDevice]
      exact GroupData.modifyDevice_congr _ _ _ hf
    rw [hgd] at ht
    exact h1.trans ht
  unfold checkResponse checkDevice
  simp only [hdev, hseq]
  split
  · exact ⟨hend (scopeSpec_modifyDevice _ d countInvalid) rfl, rfl⟩
  · split
    · refine ⟨hend (f := fun dev => deviceLocal (s.setting g) .slaveDuplication (countInvalid dev))
        ?_ rfl, rfl⟩
      have h2 := (scopeSpec_modifyDevice (s.modifyDevice d countIncoming) d countInvalid).trans
        (scopeSpec_triggerError _ now .slaveDuplication r.remoteIp)
      rw [clmIefbDeviceFsmEvent_local _ _ _ _ rfl]
      refine ⟨?_, h2.config, h2.timer, ?_⟩
      · show (Scope.group _).modifyDevice d _ = _
        rw [h2.group]
        exact GroupData.modifyDevice_modifyDevice ..
      · obtain ⟨o, ho, hown⟩ := h2.out
        refine ⟨o, ?_, hown⟩
        rw [← ho]
        exact List.append_nil _
    · split
      · exact ⟨hend (scopeSpec_modifyDevice _ d countInvalid) rfl, rfl⟩
      · have h2 := scopeSpec_reportAlarms d now r (s.modifyDevice d countIncoming)
        split
        · refine ⟨hend (f := fun dev => countInvalid (countAlarms r dev)) ?_ rfl, rfl⟩
          have h3 := h2.trans (scopeSpec_modifyDevice _ d countInvalid)
          rw [h2.group, GroupData.modifyDevice_modifyDevice] at h3
          exact h3
        · exact ⟨hend h2 rfl, rfl⟩

/-- a response that passes the checks -/
structure CheckPassed (gs : GroupSetting) (d : Nat) (r : CyclicResponse) (gd : GroupData) : Prop where
  enabled : (gd.slaveDevices d).enabled = true
  notDuplicate : isDuplicate (gd.slaveDevices d) r = false
  sequence : (gd.slaveDevices d).transmissionBit = true →
    r.fullHeaders.cyclicDataHeader.frameSequenceNo = gd.frameSequenceNo
  stations : r.numberOfOccupied = (gs.slaveDevices d).numOccupiedStations
  device : (checkDevice gs d r gd).1 = countAlarms r (countIncoming (gd.slaveDevices d))

theorem checkDevice_passed {gs : GroupSetting} {d : Nat} {r : CyclicResponse} {gd : GroupData}
    (h : (checkDevice gs d r gd).2 = true) : CheckPassed gs d r gd := by
  by_cases he : (countIncoming (gd.slaveDevices d)).enabled = false
  · rw [checkDevice, if_pos he] at h
    cases h
  by_cases hdup : isDuplicate (countIncoming (gd.slaveDevices d)) r = true
  · rw [checkDevice, if_neg he, if_pos hdup] at h
    cases h
  by_cases hseq : (countIncoming (gd.slaveDevices d)).transmissionBit = true
      ∧ r.fullHeaders.cyclicDataHeader.frameSequenceNo ≠ gd.frameSequenceNo
  · rw [checkDevice, if_neg he, if_neg hdup, if_pos hseq] at h
    cases h
  by_cases hn : r.numberOfOccupied ≠ (gs.slaveDevices d).numOccupiedStations
  · simp only [checkDevice, if_neg he, if_neg hdup, if_neg hseq, if_pos hn] at h
    cases h
  refine ⟨(Bool.eq_false_or_eq_true _).resolve_right he, Bool.eq_false_iff.mpr hdup, fun hb => ?_,
    not_not.mp hn, ?_⟩
  · exact not_not.mp (fun h' => hseq ⟨hb, h'⟩)
  · simp only [checkDevice, if_neg he, if_neg hdup, if_neg hseq, if_neg hn]

theorem countAlarms_core (r : CyclicResponse) (dev : SlaveDeviceData) :
    ∃ st, countAlarms r dev = { dev with statistics := st } := by
  simp only [countAlarms]
  split <;> split <;> exact ⟨_, rfl⟩

theorem countReported_core (r : CyclicResponse) (dev : SlaveDeviceData) :
    ∃ st, countReported r dev = { dev with statistics := st } := by
  simp only [countReported]
  split <;> exact ⟨_, rfl⟩

theorem reportChanges_eq (g d : Nat) (r : CyclicResponse) (s : Scope) :
    reportChanges g d r s
      = { s with
          group := s.group.modifyDevice d (countReported r)
          out := s.out ++ reports g d r (s.group.slaveDevices d).latestFrame } := by
  have hgd : ∀ f : SlaveDeviceData → SlaveDeviceData,
      f (s.group.slaveDevices d) = countReported r (s.group.slaveDevices d) →
      s.group.modifyDevice d (countReported r) = s.group.modifyDevice d f :=
    fun f hf => (GroupData.modifyDevice_congr _ _ _ hf).symm
  by_cases h1 : r.fullHeaders.cyclicHeader.endCode = endcodeSlaveError
      ∨ r.fullHeaders.cyclicHeader.endCode = endcodeSlaveRequestsDisconnect
  · rw [hgd countAlarm (by simp only [countReported, if_pos h1])]
    by_cases h2 : r.fullHeaders.cyclicHeader.endCode
        ≠ (s.group.slaveDevices d).latestFrame.endCode
    · simp only [reportChanges, reports, if_pos h1, if_pos h2, if_pos (And.intro h1 h2)]
      split <;> simp [Scope.modifyDevice]
    · have h3 : ¬ ((r.fullHeaders.cyclicHeader.endCode = endcodeSlaveError
          ∨ r.fullHeaders.cyclicHeader.endCode = endcodeSlaveRequestsDisconnect)
          ∧ r.fullHeaders.cyclicHeader.endCode
            ≠ (s.group.slaveDevices d).latestFrame.endCode) := fun h => h2 h.2
      simp only [reportChanges, reports, if_pos h1, if_neg h2, if_neg h3, List.nil_append]
      split <;> simp [Scope.modifyDevice]
  · rw [hgd (fun dev => dev) (by simp only [countReported, if_neg h1])]
    simp only [reportChanges, reports, h1, false_and, if_false, List.nil_append,
      GroupData.modifyDevice_id]
    split <;> simp

/-- the data of a group after the store of a response -/
def storedGroup (cfg : Config) (gs : GroupSetting) (d : Nat) (r : CyclicResponse) (gd : GroupData) :
    GroupData :=
  { gd.modifyDevice d (fun dev => storeHeaders cfg gd r (countReported r dev)) with
    memoryArea := clmIefbStoreIncomingCyclicData gd.memoryArea r (gd.slaveDevices d).slaveStationNo
      (gs.slaveDevices d).numOccupiedStations (gd.slaveDevices d).transmissionBit }

theorem storeResponse_eq (g d : Nat) (r : CyclicResponse) (s : Scope) :
    storeResponse g d r s
      = { s with
          group := storedGroup s.clm.config (s.setting g) d r s.group
          out := s.out ++ (reports g d r (s.group.slaveDevices d).latestFrame
            ++ [.stored g d r (s.group.slaveDevices d).transmissionBit]) } := by
  obtain ⟨st, hst⟩ := countReported_core r (s.group.slaveDevices d)
  have hgd : (s.group.modifyDevice d (countReported r)).modifyDevice d
      (storeHeaders s.clm.config (s.group.modifyDevice d (countReported r)) r)
      = s.group.modifyDevice d (fun dev => storeHeaders s.clm.config s.group r
          (countReported r dev)) := by
    rw [GroupData.modifyDevice_modifyDevice]
    rfl
  simp only [storeResponse, reportChanges_eq, Scope.modifyDevice, hgd, storedGroup,
    GroupData.modifyDevice_self, hst, storeHeaders, List.append_assoc]
  rfl

/-- the device event after the store gives the group of the move -/
theorem storedGroup_checked {cfg : Config} {gs : GroupSetting} {d : Nat} {r : CyclicResponse}
    {gd : GroupData} :
    (storedGroup cfg gs d r (gd.modifyDevice d (fun _ => (checkDevice gs d r gd).1))).modifyDevice d
        (deviceResponse gs r)
      = acceptResponse cfg gs d r gd := by
  simp only [storedGroup, acceptResponse, GroupData.modifyDevice, Function.update_self,
    Function.update_idem]
  rfl

/-- the scope after an accepted response, up to the check whether the link scan is complete -/
theorem acceptedScope_eq {g d : Nat} {s t : Scope} {r : CyclicResponse}
    (hcheck : (checkDevice (s.setting g) d r s.group).2 = true)
    (ht : ScopeSpec s t
      (s.group.modifyDevice d (fun _ => (checkDevice (s.setting g) d r s.group).1))) :
    ∃ o, (∀ x ∈ o, x.owner = none)
      ∧ (storeResponse g d r t).group.modifyDevice d (deviceResponse (s.setting g) r)
        = acceptResponse s.clm.config (s.setting g) d r s.group
      ∧ (storeResponse g d r t).clm = t.clm
      ∧ (storeResponse g d r t).out = s.out ++ o
        ++ (reports g d r (s.group.slaveDevices d).latestFrame
          ++ [.stored g d r (s.group.slaveDevices d).transmissionBit]) := by
  obtain ⟨hgroup, hconfig, _, o, ho, hown⟩ := ht
  have hpass := checkDevice_passed hcheck
  obtain ⟨st, hst⟩ := countAlarms_core r (countIncoming (s.group.slaveDevices d))
  have hset : t.setting g = s.setting g := by
    rw [Scope.setting, hconfig]
    rfl
  have hdev : t.group.slaveDevices d = (checkDevice (s.setting g) d r s.group).1 := by
    rw [hgroup, GroupData.modifyDevice_self]
  have hlatest : (t.group.slaveDevices d).latestFrame = (s.group.slaveDevices d).latestFrame := by
    rw [hdev, hpass.device, hst]
    rfl
  have hbit : (t.group.slaveDevices d).transmissionBit
      = (s.group.slaveDevices d).transmissionBit := by
    rw [hdev, hpass.device, hst]
    rfl
  refine ⟨o, hown, ?_, ?_, ?_⟩
  · rw [storeResponse_eq, hset, hgroup, hconfig]
    exact storedGroup_checked
  · rw [storeResponse_eq]
  · rw [storeResponse_eq, hlatest, hbit, ho]

theorem scopeMoves_accepted {cfg : Config} {g d : Nat} {A : GroupInput → GroupData → Prop}
    {s t : Scope} {r : CyclicResponse} (hc : s.clm.config = cfg)
    (hd : d < (s.setting g).numSlaveDevices.toNat) (ha : A (.response d r) s.group)
    (hcheck : (checkDevice (s.setting g) d r s.group).2 = true)
    (ht : ScopeSpec s t
      (s.group.modifyDevice d (fun _ => (checkDevice (s.setting g) d r s.group).1))) :
    ScopeMoves cfg g A s
      { storeResponse g d r t with
        group := (storeResponse g d r t).group.modifyDevice d (deviceResponse (s.setting g) r) } := by
  subst hc
  obtain ⟨o, hown, hgroup, hclm, hout⟩ := acceptedScope_eq hcheck ht
  rw [hgroup]
  dsimp only
  rw [hclm, hout]
  have h1 : ScopeMoves s.clm.config g A s { clm := t.clm, group := s.group, out := s.out ++ o } :=
    .shared ht.config hown
  refine h1.trans (.single (.accepted s.group d r hd ha hcheck) (fun x hx => ?_))
  rcases List.mem_append.mp hx with hx | hx
  · exact (reports_spec g d r _ x hx).1
  · rw [List.mem_singleton.mp hx]
    rfl

/-- the device event and the completion of the link scan after an accepted response -/
theorem receiveResponse_eq {g d : Nat} (now : UInt32) (unixMs : Nat → UInt64) {r : CyclicResponse}
    (hr : r.fullHeaders.cyclicHeader.endCode ≠ endcodeMasterDuplication) (s : Scope) :
    receiveResponse g d now unixMs r s
      = if clmIefbGroupHaveReceivedFromAllDevices (s.setting g)
            (s.group.modifyDevice d (deviceResponse (s.setting g) r)) then
          clmIefbGroupFsmEvent g now unixMs .linkscanComplete
            { s with group := s.group.modifyDevice d (deviceResponse (s.setting g) r) }
        else { s with group := s.group.modifyDevice d (deviceResponse (s.setting g) r) } := by
  have hlocal : clmIefbDeviceFsmEvent (s.setting g) g d (responseEvent r) s.group
      = (s.group.modifyDevice d (deviceResponse (s.setting g) r), []) := by
    have he : (responseEvent r).touchesFrame = false := by
      unfold responseEvent
      split <;> rfl
    rw [clmIefbDeviceFsmEvent_local _ _ _ _ he]
    congr 2
    funext dev
    rw [deviceResponse, if_neg hr]
  unfold receiveResponse
  rw [responseEvent] at hlocal
  simp only [hlocal, Scope.afterDevice, List.append_nil]

/-! ## moves of the master -/

/-- every group moves, and outputs about groups that do not exist are not made -/
structure ClmMoves (A : Nat → GroupInput → GroupData → Prop) (c c' : Clm) (o : List Output) :
    Prop where
  config : c'.shared.config = c.shared.config
  group : ∀ g, g < c.numGroups →
    Star (GroupMove c.shared.config g (A g)) (c.groups g) (ofGroup g o) (c'.groups g)
  other : ∀ g, ¬ g < c.numGroups → ofGroup g o = [] ∧ c'.groups g = c.groups g

section
variable {A : Nat → GroupInput → GroupData → Prop} {c c' c'' : Clm} {o o' : List Output}

theorem ClmMoves.refl (c : Clm) : ClmMoves A c c [] :=
  ⟨rfl, fun _ _ => .refl _, fun _ _ => ⟨rfl, rfl⟩⟩

theorem ClmMoves.trans (h : ClmMoves A c c' o) (h' : ClmMoves A c' c'' o') :
    ClmMoves A c c'' (o ++ o') := by
  have hn : c'.numGroups = c.numGroups := by
    unfold Clm.numGroups
    rw [h.config]
  refine ⟨h'.config.trans h.config, fun g hg => ?_, fun g hg => ?_⟩
  · have h2 := h'.group g (by omega)
    rw [h.config] at h2
    rw [ofGroup_append]
    exact (h.group g hg).trans h2
  · obtain ⟨h1, e1⟩ := h.other g hg
    obtain ⟨h2, e2⟩ := h'.other g (by omega)
    rw [ofGroup_append, h1, h2]
    exact ⟨rfl, e2.trans e1⟩

/-- only shared data changes, with outputs about no group -/
theorem ClmMoves.shared (hc : c'.shared.config = c.shared.config) (hg : c'.groups = c.groups)
    (ho : ∀ x ∈ o, x.owner = none) : ClmMoves A c c' o := by
  have hnil : ∀ g, ofGroup g o = [] := by
    intro g
    refine List.filter_eq_nil_iff.mpr (fun x hx => ?_)
    simp [Output.isOf, ho x hx]
  refine ⟨hc, fun g _ => ?_, fun g _ => ⟨hnil g, by rw [hg]⟩⟩
  rw [hnil g, hg]
  exact .refl _

/-- a function of one group -/
theorem ClmMoves.setScope {g : Nat} (hg : g < c.numGroups) {s : Scope}
    (hs : ScopeMoves c.shared.config g (A g) (c.scope g) s) :
    ClmMoves A c (c.setScope g s).1 (c.setScope g s).2 := by
  obtain ⟨hconfig, o, ho, hown, hm⟩ := hs
  have ho' : (c.setScope g s).2 = o := ho
  have hother : ∀ h, h ≠ g → ofGroup h o = [] ∧ (c.setScope g s).1.groups h = c.groups h :=
    fun h hne => ⟨ofGroup_other hne hown, Function.update_of_ne hne _ _⟩
  rw [ho']
  refine ⟨hconfig, fun h _ => ?_, fun h hh => hother h (fun e => hh (e ▸ hg))⟩
  by_cases he : h = g
  · subst he
    have hgd : (c.setScope h s).1.groups h = s.group := Function.update_self ..
    rw [hgd]
    exact hm
  · rw [(hother h he).1, (hother h he).2]
    exact .refl _

/-- a change of one group without outputs -/
theorem ClmMoves.silent {g : Nat} (hg : g < c.numGroups) {gd : GroupData}
    (hm : GroupMove c.shared.config g (A g) (c.groups g) [] gd) :
    ClmMoves A c { c with groups := Function.update c.groups g gd } [] :=
  .setScope hg (.silent hm)

/-- a function run for every group in turn -/
theorem ClmMoves.forGroups {f : Nat → Scope → Scope}
    (hf : ∀ g s, g < c.numGroups → s.clm.config = c.shared.config →
      ScopeMoves c.shared.config g (A g) s (f g s)) :
    ClmMoves A c (c.forGroups f).1 (c.forGroups f).2 := by
  refine loop_inv (fun _ (t : Clm × List Output) => ClmMoves A c t.1 t.2) (.refl c) ?_
  intro g t hg ht
  have hn : t.1.numGroups = c.numGroups := by
    unfold Clm.numGroups
    rw [ht.config]
  refine ht.trans (ClmMoves.setScope (by omega) ?_)
  rw [ht.config]
  exact hf g _ hg ht.config

end

/-! ## received datagrams -/

/-- the response in a datagram, with its group and device -/
def clmResponse (c : Clm) (now : UInt32) (dg : Datagram) (remoteIp : IpAddr) (remotePort : UInt16) :
    Option (Nat × Nat × CyclicResponse) :=
  if remoteIp = c.shared.config.masterId ∨ c.shared.config.masterId = ipaddrInvalid then none
  else
    match clmIefbInputResponse dg remoteIp remotePort now with
    | .error _ => none
    | .ok r =>
      let groupNo := r.fullHeaders.cyclicDataHeader.groupNo
      if groupNo.toUInt16 > c.shared.config.hier.numberOfGroups then none
      else
        let g := groupNo.toNat - 1
        (clmIefbCalcSlaveDeviceIndex (c.setting g) remoteIp).map (fun d => (g, d, r))

/-- the datagram is a valid cyclic request of another master -/
def clmForeignRequest (c : Clm) (dg : Datagram) (remoteIp : IpAddr) : Bool :=
  if remoteIp = c.shared.config.masterId then false
  else
    match clIefbParseResponseHeader dg with
    | none => false
    | some header => !clIefbValidateResponseHeader header dg.len && isForeignRequest dg

/-- a parsed response has a group number from 1 on -/
theorem clIefbParseCyclicResponse_groupNo {dg : Datagram} {remoteIp : IpAddr} {remotePort : UInt16}
    {now : UInt32} {r : CyclicResponse}
    (h : clIefbParseCyclicResponse dg remoteIp remotePort now = .ok r) :
    1 ≤ r.fullHeaders.cyclicDataHeader.groupNo.toNat := by
  unfold clIefbParseCyclicResponse at h
  split at h
  · cases h
  rename_i headers _
  split at h
  · cases h
  rename_i hv
  simp only [not_not, clIefbValidateRespFullCyclicHeaders, clIefbValidateRespCyclicDataHeader,
    decide_eq_true_eq, groupNoInRange_iff] at hv
  have hg := hv.2.2.1.1.1
  simp only at h
  split at h
  · cases h
  split at h
  · cases h
  obtain rfl := Except.ok.inj h
  exact hg

/-- what `clm_iefb_handle_input_frame` does with a datagram -/
inductive InputFrame (c : Clm) (now : UInt32) (unixMs : Nat → UInt64) (dg : Datagram)
    (remoteIp : IpAddr) (remotePort : UInt16) : Clm × List Output × Int → Prop where
  | response (g d : Nat) (r : CyclicResponse) (hg : g < c.numGroups)
      (hd : d < (c.setting g).numSlaveDevices.toNat)
      (hid : ((c.setting g).slaveDevices d).slaveId = remoteIp)
      (hr : clmResponse c now dg remoteIp remotePort = some (g, d, r))
      (hf : clmForeignRequest c dg remoteIp = false) :
      InputFrame c now unixMs dg remoteIp remotePort (handleDeviceResponse g d now unixMs r c)
  | request (hr : clmResponse c now dg remoteIp remotePort = none)
      (hf : clmForeignRequest c dg remoteIp = true) :
      InputFrame c now unixMs dg remoteIp remotePort
        (clmIefbHandleRequestFrame now unixMs remoteIp c)
  | dropped (aborted : Bool) (value : Int)
      (hr : clmResponse c now dg remoteIp remotePort = none)
      (hf : clmForeignRequest c dg remoteIp = false) :
      InputFrame c now unixMs dg remoteIp remotePort ({ c with aborted := aborted }, [], value)

theorem clmIefbHandleInputFrame_cases (c : Clm) (now : UInt32) (unixMs : Nat → UInt64)
    (dg : Datagram) (remoteIp : IpAddr) (remotePort : UInt16) :
    InputFrame c now unixMs dg remoteIp remotePort
      (clmIefbHandleInputFrame now unixMs dg remoteIp remotePort c) := by
  unfold clmIefbHandleInputFrame
  by_cases hm : remoteIp = c.shared.config.masterId
  · rw [if_pos hm]
    exact .dropped c.aborted 0 (by simp [clmResponse, hm]) (by simp [clmForeignRequest, hm])
  rw [if_neg hm]
  cases hh : clIefbParseResponseHeader dg with
  | none =>
    exact .dropped c.aborted (-1) (by simp [clmResponse, clmIefbInputResponse, hh])
      (by simp [clmForeignRequest, hh])
  | some header =>
    simp only
    by_cases hv : clIefbValidateResponseHeader header dg.len = true
    · have hf : clmForeignRequest c dg remoteIp = false := by
        simp [clmForeignRequest, hh, hv]
      have hin : clmIefbInputResponse dg remoteIp remotePort now
          = clIefbParseCyclicResponse dg remoteIp remotePort now := by
        simp [clmIefbInputResponse, hh, hv]
      rw [if_pos hv, clmIefbHandleResponseFrame]
      by_cases hinv : c.shared.config.masterId = ipaddrInvalid
      · rw [if_pos hinv]
        exact .dropped c.aborted (-1) (by simp [clmResponse, hinv]) hf
      rw [if_neg hinv]
      cases hp : clIefbParseCyclicResponse dg remoteIp remotePort now with
      | error e =>
        have hr : clmResponse c now dg remoteIp remotePort = none := by
          simp [clmResponse, hin, hp]
        cases e with
        | rejected => exact .dropped c.aborted (-1) hr hf
        | assertFailed => exact .dropped true (-1) hr hf
      | ok r =>
        simp only
        have hg1 := clIefbParseCyclicResponse_groupNo hp
        by_cases hg : r.fullHeaders.cyclicDataHeader.groupNo.toUInt16
            > c.shared.config.hier.numberOfGroups
        · rw [if_pos hg]
          exact .dropped c.aborted (-1) (by simp [clmResponse, hin, hp, hg]) hf
        rw [if_neg hg]
        have hg' : r.fullHeaders.cyclicDataHeader.groupNo.toNat - 1 < c.numGroups := by
          have h := UInt16.lt_iff_toNat_lt.not.mp hg
          rw [UInt8.toNat_toUInt16] at h
          unfold Clm.numGroups
          omega
        cases hd : clmIefbCalcSlaveDeviceIndex
            (c.setting (r.fullHeaders.cyclicDataHeader.groupNo.toNat - 1)) remoteIp with
        | none => exact .dropped c.aborted (-1) (by simp [clmResponse, hin, hp, hg, hd]) hf
        | some d =>
          obtain ⟨hdn, hid⟩ := clmIefbCalcSlaveDeviceIndex_some hd
          exact .response _ d r hg' hdn hid (by simp [clmResponse, hm, hinv, hin, hp, hg, hd]) hf
    · have hr : clmResponse c now dg remoteIp remotePort = none := by
        simp [clmResponse, clmIefbInputResponse, hh, hv]
      rw [if_neg hv]
      by_cases hreq : isForeignRequest dg = true
      · rw [if_pos hreq]
        exact .request hr (by simp [clmForeignRequest, hm, hh, hv, hreq])
      · rw [if_neg hreq]
        exact .dropped c.aborted (-1) hr (by simp [clmForeignRequest, hh, hreq])

/-! ## a step -/

/-- the inputs of group `g` in an event -/
def GroupReceives (c : Clm) (e : Event) (g : Nat) : GroupInput → Prop
  | .setEnabled d enabled => e = .setSlaveCommunicationStatus g d enabled
  | .setForce d force => e = .forceCyclicTransmissionBit g d force
  | .clearStatistics => e = .statisticsClearAll
  | .response d r => ∃ now unixMs dg remoteIp remotePort,
      e = .frame now unixMs dg remoteIp remotePort
        ∧ clmResponse c now dg remoteIp remotePort = some (g, d, r)

/-- the inputs of a step are admitted -/
def Admits (A : Nat → GroupInput → GroupData → Prop) (c : Clm) (e : Event) : Prop :=
  ∀ g x, GroupReceives c e g x → A g x (c.groups g)

section
variable {A : Nat → GroupInput → GroupData → Prop} {c : Clm}

theorem clmMoves_eventAll (now : UInt32) (unixMs : Nat → UInt64) (event : GroupEvent)
    (h : ∀ g s, s.clm.config = c.shared.config →
      ScopeMoves c.shared.config g (A g) s (clmIefbGroupFsmEvent g now unixMs event s)) :
    ClmMoves A c (clmIefbGroupFsmEventAll now unixMs event c).1
      (clmIefbGroupFsmEventAll now unixMs event c).2 :=
  .forGroups (fun g s _ hs => h g s hs)

theorem clmMoves_periodicTimers (now : UInt32) (unixMs : Nat → UInt64) :
    ClmMoves A c (clmIefbPeriodicTimers now unixMs c).1 (clmIefbPeriodicTimers now unixMs c).2 := by
  have hmonitor : ∀ t : Clm, ClmMoves A t (clmIefbMonitorAllGroupTimers now unixMs t).1
      (clmIefbMonitorAllGroupTimers now unixMs t).2 :=
    fun t => .forGroups (fun _ _ _ hs => scopeMoves_monitorGroupTimers now unixMs hs)
  have hlim : ClmMoves A c { c with shared := { c.shared with
      errorlimiter := clLimiterPeriodic c.shared.errorlimiter now } } [] :=
    .shared rfl rfl (fun _ hx => absurd hx List.not_mem_nil)
  unfold clmIefbPeriodicTimers
  simp only
  split
  · refine (hlim.trans ?_).trans (hmonitor _)
    have hstop : ClmMoves A { c with shared := { c.shared with
        errorlimiter := clLimiterPeriodic c.shared.errorlimiter now } } { c with shared := { c.shared with
        errorlimiter := clLimiterPeriodic c.shared.errorlimiter now
        arbitrationTimer := clTimerStop c.shared.arbitrationTimer } } [] :=
      .shared rfl rfl (fun _ hx => absurd hx List.not_mem_nil)
    exact hstop.trans (clmMoves_eventAll now unixMs .arbitrationDone
      (fun _ _ hs => scopeMoves_arbitrationDone now unixMs hs))
  · exact hlim.trans (hmonitor _)

theorem clmMoves_handleDeviceResponse {g d : Nat} {r : CyclicResponse} (now : UInt32)
    (unixMs : Nat → UInt64) (hg : g < c.numGroups)
    (hd : d < (c.setting g).numSlaveDevices.toNat) (ha : A g (.response d r) (c.groups g)) :
    ClmMoves A c (handleDeviceResponse g d now unixMs r c).1
      (handleDeviceResponse g d now unixMs r c).2.1 := by
  obtain ⟨hs, hcheck⟩ := checkResponse_spec g d now r (c.scope g)
  have hset : (c.scope g).setting g = c.shared.config.hier.groups g := rfl
  unfold handleDeviceResponse
  simp only
  by_cases hc : (checkResponse g d now r (c.scope g)).2 = false
  · rw [if_pos hc]
    rw [hcheck, hset] at hc
    exact .setScope hg (hs.moves (.rejected (c.groups g) d r hd ha hc))
  · rw [if_neg hc]
    have hc' : (checkDevice ((c.scope g).setting g) d r (c.scope g).group).2 = true := by
      rw [← hcheck]
      exact (Bool.eq_false_or_eq_true _).resolve_right hc
    have hm : ScopeMoves c.shared.config g (A g) (c.scope g) _ :=
      scopeMoves_accepted rfl hd ha hc' hs
    split
    · rename_i hdupl
      -- the device event is left to the standby of the group
      have hsame : (storeResponse g d r (checkResponse g d now r (c.scope g)).1).group.modifyDevice d
          (deviceResponse ((c.scope g).setting g) r)
          = (storeResponse g d r (checkResponse g d now r (c.scope g)).1).group := by
        rw [GroupData.modifyDevice_congr _ d (fun dev => dev)
          (by simp only [deviceResponse, if_pos hdupl]), GroupData.modifyDevice_id]
      rw [hsame] at hm
      exact (ClmMoves.setScope hg hm).trans (clmMoves_eventAll now unixMs .masterduplAlarm
        (fun _ _ hs => scopeMoves_alarm now unixMs hs))
    · rename_i hdupl
      refine ClmMoves.setScope hg ?_
      have hset' : (storeResponse g d r (checkResponse g d now r (c.scope g)).1).setting g
          = (c.scope g).setting g := by
        rw [storeResponse_eq]
        show (checkResponse g d now r (c.scope g)).1.clm.config.hier.groups g = _
        rw [hs.config]
        rfl
      rw [receiveResponse_eq now unixMs hdupl, hset']
      split
      · rename_i hall
        exact hm.trans (scopeMoves_complete now unixMs hm.config hall)
      · exact hm

theorem clmMoves_inputFrame (now : UInt32) (unixMs : Nat → UInt64) (dg : Datagram)
    (remoteIp : IpAddr) (remotePort : UInt16)
    (hA : ∀ g d r, clmResponse c now dg remoteIp remotePort = some (g, d, r) →
      A g (.response d r) (c.groups g)) :
    ClmMoves A c (clmIefbHandleInputFrame now unixMs dg remoteIp remotePort c).1
      (clmIefbHandleInputFrame now unixMs dg remoteIp remotePort c).2.1 := by
  have h := clmIefbHandleInputFrame_cases c now unixMs dg remoteIp remotePort
  generalize clmIefbHandleInputFrame now unixMs dg remoteIp remotePort c = t at h ⊢
  cases h with
  | response g d r hg hd _ hr _ =>
    exact clmMoves_handleDeviceResponse now unixMs hg hd (hA g d r hr)
  | request _ _ =>
    have h1 : ClmMoves A c { c with shared := { c.shared with
        latestConflictingMasterIp := remoteIp } } [] :=
      .shared rfl rfl (fun _ hx => absurd hx List.not_mem_nil)
    exact h1.trans (clmMoves_eventAll now unixMs .reqFromOther
      (fun _ _ hs => scopeMoves_reqFromOther now unixMs hs))
  | dropped _ _ _ _ => exact .shared rfl rfl (fun _ hx => absurd hx List.not_mem_nil)

/-- the data of one device set by the application -/
theorem clmMoves_modifyDevice {g d : Nat} {f : SlaveDeviceData → SlaveDeviceData}
    (hm : GroupMove c.shared.config g (A g) (c.groups g) [] ((c.groups g).modifyDevice d f)) :
    ClmMoves A c (c.modifyDevice g d f) [] := by
  unfold Clm.modifyDevice
  split
  · exact .refl c
  · rename_i h
    rw [not_or] at h
    exact .silent (Nat.not_le.mp h.1) hm

theorem clmMoves_statisticsClearAll
    (hA : ∀ g, A g .clearStatistics (c.groups g)) :
    ClmMoves A c (clmIefbStatisticsClearAll c) [] := by
  -- the groups from `k` on are untouched before round `k`
  have h := loop_inv (n := c.numGroups)
    (f := fun g t =>
      let gd := loop (fun d gd => gd.modifyDevice d (fun dev => { dev with
        statistics := clmIefbStatisticsClear dev.statistics
        latestFrame := clmIefbLatestReceivedClear dev.latestFrame }))
        (t.setting g).numSlaveDevices.toNat (t.groups g)
      { t with groups := Function.update t.groups g gd }) (s := c)
    (fun k t => ClmMoves A c t [] ∧ ∀ g, k ≤ g → t.groups g = c.groups g)
    ⟨.refl c, fun _ _ => rfl⟩
    (by
      rintro k t hk ⟨ht, hsame⟩
      refine ⟨?_, fun g hg => ?_⟩
      · have hn : t.numGroups = c.numGroups := by
          unfold Clm.numGroups
          rw [ht.config]
        have hgd := hsame k (Nat.le_refl k)
        have hm : GroupMove t.shared.config k (A k) (t.groups k) []
            ((t.groups k).clearStatistics (t.setting k)) := .clearStatistics _ (hgd ▸ hA k)
        simp only [loop_modifyDevice]
        exact ht.trans (.silent (by omega) hm)
      · show Function.update t.groups k _ g = c.groups g
        rw [Function.update_of_ne (by omega)]
        exact hsame g (by omega))
  exact h.1

/-- **A step is a sequence of moves of every group.** -/
theorem clmStep_moves (c : Clm) (e : Event) (hA : Admits A c e) :
    ClmMoves A c (clmStep c e).1 (clmStep c e).2 := by
  unfold clmStep
  split
  · exact .refl c
  cases e with
  | tick now unixMs => exact clmMoves_periodicTimers now unixMs
  | frame now unixMs dg remoteIp remotePort =>
    exact clmMoves_inputFrame now unixMs dg remoteIp remotePort
      (fun g d r hr => hA g (.response d r) ⟨now, unixMs, dg, remoteIp, remotePort, rfl, hr⟩)
  | setSlaveCommunicationStatus g d enabled =>
    exact clmMoves_modifyDevice (.setEnabled _ d enabled (hA g (.setEnabled d enabled) rfl))
  | forceCyclicTransmissionBit g d force =>
    exact clmMoves_modifyDevice (.setForce _ d force (hA g (.setForce d force) rfl))
  | statisticsClearAll => exact clmMoves_statisticsClearAll (fun g => hA g .clearStatistics rfl)
  | setMasterApplicationStatus running stoppedByUser =>
    exact .shared rfl rfl (fun _ hx => absurd hx List.not_mem_nil)
  | writeMemoryArea g ry rww =>
    show ClmMoves A c (writeMemoryArea g ry rww c) []
    unfold writeMemoryArea
    split
    · exact .refl c
    · rename_i hg
      exact .silent (Nat.not_le.mp hg) (.writeMemoryArea _ ry rww)

/-! ## runs -/

/-- **The invariant rule for a group.**  An invariant of the outputs about a group and of its data,
kept by every move, is kept by every run. -/
theorem master_run_inv {cfg : Config} {g : Nat} {I : List Output → GroupData → Prop}
    (hM : ∀ hist gd o gd', GroupMove cfg g (A g) gd o gd' → I hist gd → I (hist ++ o) gd')
    (hist : List Output) (hcfg : c.shared.config = cfg) (hg : g < c.numGroups)
    (h0 : I (ofGroup g hist) (c.groups g)) {es : List Event} (hes : master.Steps (Admits A) c es) :
    I (ofGroup g (hist ++ (master.run c es).2)) ((master.run c es).1.groups g) := by
  have h := master.run_inv (c := Admits A)
    (I := fun hist c => c.shared.config = cfg ∧ g < c.numGroups
      ∧ I (ofGroup g hist) (c.groups g))
    (by
      rintro hist c e ⟨hc, hgn, hI⟩ hadm
      have hm := clmStep_moves c e hadm
      have hconfig : (master.step c e).1.shared.config = c.shared.config := hm.config
      refine ⟨hconfig.trans hc, ?_, ?_⟩
      · unfold Clm.numGroups at hgn ⊢
        rw [hconfig]
        exact hgn
      · subst hc
        rw [ofGroup_append]
        exact (hm.group g hgn).inv hM _ hI)
    hist ⟨hcfg, hg, h0⟩ hes
  exact h.2.2

end

end CLink
