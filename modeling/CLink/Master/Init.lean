import CLink.Master.Invariant

/-!
# Initialisation

* `clmIefbInitialiseRequestSlaveIds_eq`   the list of slave ids: the address of every device at its
                                          first station, indicators at its further stations;
* `Initialised`                           a group right after `clm_iefb_init`;
* `MasterStart.init_group`, `init_out`    every group is in that state, and nothing has been sent;
* `MasterStart.run_inv`                   the invariant rule for runs from `clm_iefb_init`.
-/

namespace CLink
open Loop Trace

/-! ## the list of slave ids -/

/-- the inner loop writes the stations of one device -/
theorem loop_stationIds (id : IpAddr) (n : Nat) (ids : Nat → IpAddr) (p : Nat) :
    loop (fun occupiedIndex (t : (Nat → IpAddr) × Nat) =>
      (Function.update t.1 t.2 (if occupiedIndex = 0 then id else multistationIndicator), t.2 + 1))
      n (ids, p)
    = (blit ids (fun j => if j = 0 then id else multistationIndicator) p n, p + n) := by
  refine loop_inv (fun k (t : (Nat → IpAddr) × Nat) =>
    t = (blit ids (fun j => if j = 0 then id else multistationIndicator) p k, p + k)) ?_ ?_
  · refine Prod.ext ?_ rfl
    funext i
    dsimp only
    rw [blit_out (by omega)]
  · rintro k t _ rfl
    refine Prod.ext ?_ rfl
    funext i
    dsimp only
    by_cases hi : i = p + k
    · subst hi
      rw [Function.update_self, blit_in (Nat.lt_succ_self k)]
    · rw [Function.update_of_ne hi]
      unfold blit
      have e : (p ≤ i ∧ i < p + k) ↔ (p ≤ i ∧ i < p + (k + 1)) := by omega
      simp only [e]

theorem clmIefbInitialiseRequestSlaveIds_eq (gs : GroupSetting) (ids : Nat → IpAddr) {d j : Nat}
    (hd : d < gs.numSlaveDevices.toNat) (hj : j < gs.num d) :
    clmIefbInitialiseRequestSlaveIds gs ids (gs.pos d + j)
      = if j = 0 then (gs.slaveDevices d).slaveId else multistationIndicator := by
  -- after `k` devices the position is `pos k` and the stations of those devices are written
  have h := loop_inv (n := gs.numSlaveDevices.toNat)
    (f := fun d s =>
      loop (fun occupiedIndex (t : (Nat → IpAddr) × Nat) =>
        (Function.update t.1 t.2
          (if occupiedIndex = 0 then (gs.slaveDevices d).slaveId else multistationIndicator),
          t.2 + 1)) (gs.slaveDevices d).numOccupiedStations.toNat s) (s := (ids, 0))
    (fun k t => t.2 = gs.pos k ∧ ∀ e, e < k → ∀ i, i < gs.num e →
      t.1 (gs.pos e + i) = if i = 0 then (gs.slaveDevices e).slaveId else multistationIndicator)
    ⟨rfl, fun e he => absurd he (Nat.not_lt_zero e)⟩
    (by
      rintro k ⟨t, p⟩ _ ⟨hp, hdone⟩
      obtain rfl : p = gs.pos k := hp
      have hdone' : ∀ e, e < k → ∀ i, i < gs.num e → t (gs.pos e + i) = _ := hdone
      simp only [loop_stationIds]
      refine ⟨(gs.pos_succ k).symm, fun e he i hi => ?_⟩
      rcases Nat.lt_succ_iff_lt_or_eq.mp he with hlt | rfl
      · have hle := gs.pos_add_le hlt
        rw [blit_out (by omega), hdone' e hlt i hi]
      · exact blit_in hi)
  exact h.2 d hd j hj

/-! ## a group after its initialisation -/

theorem GroupData.mapDevices_mapDevices (gd : GroupData) (n : Nat)
    (f h : Nat → SlaveDeviceData → SlaveDeviceData) :
    (gd.mapDevices n f).mapDevices n h = gd.mapDevices n (fun d x => h d (f d x)) := by
  have hdev : ((gd.mapDevices n f).mapDevices n h).slaveDevices
      = (gd.mapDevices n (fun d x => h d (f d x))).slaveDevices := by
    funext d
    by_cases hd : d < n
    · simp only [mapDevices, if_pos hd]
    · simp only [mapDevices, if_neg hd]
  exact congrArg (fun x => { gd with slaveDevices := x }) hdev

/-- the data of a device after `clm_iefb_init` -/
def initialDevice (gs : GroupSetting) (d : Nat) : SlaveDeviceData :=
  { SlaveDeviceData.zero with
    enabled := !(gs.slaveDevices d).reservedSlaveDevice
    slaveStationNo := UInt16.ofNat (gs.pos d + 1)
    deviceState := .listen
    statistics := clmIefbStatisticsClear .zero }

/-- a group right after `clm_iefb_init` -/
structure Initialised (cfg : Config) (parameterNo : UInt16) (g : Nat) (gd : GroupData) : Prop where
  state : gd.groupState = .masterArbitration
  total : gd.totalOccupied = clmIefbCalcOccupiedPerGroup (cfg.hier.groups g)
  seq : gd.frameSequenceNo = 0
  word : gd.cyclicTransmissionState = 0
  responseWait : gd.responseWaitTimer.state = .stopped
  constantLinkscan : gd.constantLinkscanTimer.state = .stopped
  device : ∀ d, d < (cfg.hier.groups g).numSlaveDevices.toNat →
    gd.slaveDevices d = initialDevice (cfg.hier.groups g) d
  frame : gd.reqFrame
    = let frame := clIefbInitialiseRequestFrame cfg.protocolVer (cfg.hier.groups g).timeoutValue
        (cfg.hier.groups g).parallelOffTimeoutCount cfg.masterId (UInt16.ofNat g + 1)
        (clmIefbCalcOccupiedPerGroup (cfg.hier.groups g)) parameterNo
      { frame with slaveIds := clmIefbInitialiseRequestSlaveIds (cfg.hier.groups g) frame.slaveIds }
  area : gd.memoryArea = GroupData.zero.memoryArea

/-- the group between the two events of `clm_iefb_init` -/
structure StartedUp (gs : GroupSetting) (gd : GroupData) : Prop where
  state : gd.groupState = .masterListen
  responseWait : gd.responseWaitTimer.state = .stopped
  constantLinkscan : gd.constantLinkscanTimer.state = .stopped
  device : ∀ d, d < gs.numSlaveDevices.toNat →
    gd.slaveDevices d = { initialDevice gs d with slaveStationNo := 0 }
  area : gd.memoryArea = GroupData.zero.memoryArea

theorem clmIefbGroupInit_eq (gs : GroupSetting) (g : Nat) (gd : GroupData) :
    clmIefbGroupInit gs g gd
      = ({ gd with
            responseWaitTimer := clTimerStop gd.responseWaitTimer
            constantLinkscanTimer := clTimerStop gd.constantLinkscanTimer
            totalOccupied := 0
            frameSequenceNo := 0
            timestampLinkScanStart := 0
            cyclicTransmissionState := cyclicTrStateAllOff }.mapDevices gs.numSlaveDevices.toNat
          (fun d dev => { dev with
            enabled := !(gs.slaveDevices d).reservedSlaveDevice
            deviceState := .listen
            transmissionBit := false
            statistics := clmIefbStatisticsClear dev.statistics
            latestFrame := clmIefbLatestReceivedClear dev.latestFrame
            timeoutCount := 0
            slaveStationNo := 0 }), []) := by
  simp only [clmIefbGroupInit, loop_modifyDevice]
  rw [clmIefbDeviceFsmEventAllInGroup_map (fun d dev => { dev with
      enabled := !(gs.slaveDevices d).reservedSlaveDevice
      deviceState := .listen
      transmissionBit := false
      statistics := clmIefbStatisticsClear dev.statistics
      latestFrame := clmIefbLatestReceivedClear dev.latestFrame
      timeoutCount := 0
      slaveStationNo := 0 }), GroupData.mapDevices_mapDevices]
  intro d t hd ht
  rw [GroupData.mapDevices_slaveDevices _ _ hd] at ht
  rw [clmIefbDeviceFsmEvent_startup gs g d t (by rw [ht]), clmIefbDeviceInit,
    GroupData.modifyDevice_modifyDevice]

theorem clmIefbGroupFsmEvent_startup_group (gs : GroupSetting) (g : Nat) (now : UInt32)
    (unixMs : Nat → UInt64) {s : Scope} (hgs : s.setting g = gs) (hs : s.group = .zero) :
    StartedUp gs (clmIefbGroupFsmEvent g now unixMs .startup s).group := by
  have hdown : s.group.groupState = .masterDown := by
    rw [hs]
    rfl
  have hset : ∀ gd out, ({ clm := s.clm, group := gd, out := out } : Scope).setting g = gs :=
    fun _ _ => hgs
  rw [clmIefbGroupFsmEvent_startup g now unixMs hdown, clmIefbGroupOnEntryListen_eq]
  simp only [Scope.afterDevice, Scope.inState, hset, clmIefbGroupInit_eq, hs,
    GroupData.mapDevices_mapDevices]
  refine ⟨rfl, rfl, rfl, fun d hd => ?_, rfl⟩
  rw [GroupData.mapDevices_slaveDevices _ _ hd]
  rfl

theorem clmIefbGroupFsmEvent_newConfig_group (g : Nat) (now : UInt32) (unixMs : Nat → UInt64)
    {s : Scope} (hs : StartedUp (s.setting g) s.group) :
    Initialised s.clm.config s.clm.parameterNo g
      (clmIefbGroupFsmEvent g now unixMs .newConfig s).group := by
  rw [clmIefbGroupFsmEvent_newConfig g now unixMs hs.state]
  show Initialised s.clm.config s.clm.parameterNo g
    (clmIefbReflectGroupParameters s.clm g { s.group with groupState := .masterArbitration })
  simp only [clmIefbReflectGroupParameters, loop_modifyDevice]
  refine ⟨rfl, rfl, rfl, rfl, hs.responseWait, hs.constantLinkscan, fun d hd => ?_, rfl, hs.area⟩
  refine (if_pos hd).trans ?_
  simp only [clmIefbCalcSlaveStationNo_eq _ hd, hs.device d hd]
  rfl

/-- the invariant holds after initialisation -/
theorem Initialised.inv {o : Options} {cfg : Config} {parameterNo : UInt16} {g : Nat}
    {gd : GroupData} (hv : GroupValid o cfg (cfg.hier.groups g))
    (h : Initialised cfg parameterNo g gd) : GroupInv cfg parameterNo g gd := by
  have hids : gd.reqFrame.slaveIds = clmIefbInitialiseRequestSlaveIds (cfg.hier.groups g)
      (fun _ => 0) := by
    rw [h.frame]
    rfl
  have hslot : ∀ d, d < (cfg.hier.groups g).numSlaveDevices.toNat →
      gd.reqFrame.slaveIds ((cfg.hier.groups g).pos d)
        = ((cfg.hier.groups g).slaveDevices d).slaveId := by
    intro d hd
    have h0 := clmIefbInitialiseRequestSlaveIds_eq (cfg.hier.groups g) (fun _ => 0) hd
      (hv.num_pos hd)
    rw [hids]
    exact h0
  have hlay := layout_initialise cfg.protocolVer (cfg.hier.groups g).timeoutValue
    (cfg.hier.groups g).parallelOffTimeoutCount cfg.masterId (UInt16.ofNat g + 1)
    (clmIefbCalcOccupiedPerGroup (cfg.hier.groups g)) parameterNo
  have htotal : (clmIefbCalcOccupiedPerGroup (cfg.hier.groups g)).toNat
      = (cfg.hier.groups g).pos (cfg.hier.groups g).numSlaveDevices.toNat := by
    rw [clmIefbCalcOccupiedPerGroup_eq, hv.total_toNat]
  rw [htotal] at hlay
  refine ⟨by rw [h.state]; simp, fun d hd => ?_, ?_, ?_, fun d hd => Or.inl (hslot d hd),
    fun d hd j h1 hj => ?_, fun d hd _ => hslot d hd, fun d hd => ?_⟩
  · rw [h.device d hd]
    rfl
  · rw [h.frame]
    exact ⟨hlay.len, hlay.firstSlaveId, hlay.firstRww, hlay.firstRy⟩
  · rw [h.frame]
    exact ⟨0, 0, 0, 0, rfl⟩
  · rw [hids, clmIefbInitialiseRequestSlaveIds_eq (cfg.hier.groups g) _ hd hj, if_neg (by omega)]
  · rw [h.state, h.device d hd]
    rfl

/-! ## the start of the master -/

/-- `SET_MASTER_STATE` keeps everything but the state -/
theorem clmIefbSetMasterState_fields (clm : ClmShared) (state : MasterState) :
    (clmIefbSetMasterState clm state).1 = { clm with masterState := state } := by
  unfold clmIefbSetMasterState
  split
  · rfl
  · rename_i h
    rw [not_not.mp h]

section
variable (g : Nat) (now : UInt32) (unixMs : Nat → UInt64) (s : Scope)

theorem clmIefbGroupFsmEvent_startup_shared (hs : s.group.groupState = .masterDown) :
    (clmIefbGroupFsmEvent g now unixMs .startup s).clm
        = { s.clm with
            arbitrationTimer := clTimerStop s.clm.arbitrationTimer
            masterState := .standby }
      ∧ ∃ o, (clmIefbGroupFsmEvent g now unixMs .startup s).out = s.out ++ o
        ∧ ∀ x ∈ o, x.owner = none := by
  rw [clmIefbGroupFsmEvent_startup g now unixMs hs, clmIefbGroupOnEntryListen_eq]
  simp only [Scope.afterDevice, Scope.inState, clmIefbGroupInit_eq, List.append_nil]
  exact ⟨clmIefbSetMasterState_fields _ _, _, rfl, (clmIefbSetMasterState_spec _ _).2⟩

theorem clmIefbGroupFsmEvent_newConfig_shared (hs : s.group.groupState = .masterListen) :
    (clmIefbGroupFsmEvent g now unixMs .newConfig s).clm
        = { s.clm with
            arbitrationTimer := clTimerStartIfNotRunning s.clm.arbitrationTimer
              (s.clm.config.arbitrationTime.toUInt32 * microsecondsPerMillisecond) now
            masterState := .arbitration }
      ∧ ∃ o, (clmIefbGroupFsmEvent g now unixMs .newConfig s).out = s.out ++ o
        ∧ ∀ x ∈ o, x.owner = none := by
  rw [clmIefbGroupFsmEvent_newConfig g now unixMs hs]
  exact ⟨clmIefbSetMasterState_fields _ _, _, rfl, (clmIefbSetMasterState_spec _ _).2⟩

end

/-- the shared data during `clm_iefb_init` -/
structure SharedInit (cfg : Config) (parameterNo : UInt16) (timer : Timer) (clm : ClmShared) :
    Prop where
  config : clm.config = cfg
  parameterNo : clm.parameterNo = parameterNo
  timer : clm.arbitrationTimer = timer

namespace MasterStart
variable {o : Options} (st : MasterStart o)

/-- the arbitration timer as `clm_iefb_init` starts it -/
def arbitrationTimer : Timer :=
  { state := .running
    period := st.vc.cfg.arbitrationTime.toUInt32 * microsecondsPerMillisecond
    timestamp := st.now }

/-- the parameter number of this start -/
def parameterNo : UInt16 := st.shared.parameterNo + 1

/-- the master right after `clm_iefb_init` -/
structure InitSpec : Prop where
  config : st.init.1.shared.config = st.vc.cfg
  aborted : st.init.1.aborted = false
  parameterNo : st.init.1.shared.parameterNo = st.parameterNo
  timer : st.init.1.shared.arbitrationTimer = st.arbitrationTimer
  group : ∀ g, g < st.vc.numGroups → Initialised st.vc.cfg st.parameterNo g (st.init.1.groups g)
  out : ∀ x ∈ st.init.2, x.owner = none

/-- the master before the startup of its groups -/
def cleared : Clm :=
  { shared := { st.shared with
      errorlimiter := clLimiterInit st.shared.errorlimiter errorcallbackRetriggerPeriod
      latestConflictingMasterIp := ipaddrInvalid
      masterState := .down
      masterLocalUnitInfo := masterLocalUnitInfoRunning
      arbitrationTimer := clTimerStop st.shared.arbitrationTimer }
    groups := fun _ => .zero, aborted := false }

/-- the startup of every group -/
def startup : Clm × List Output :=
  clmIefbGroupFsmEventAll st.now (fun _ => 0) .startup st.cleared

theorem init_eq : st.init
    = ((clmIefbHandleNewConfig st.now st.startup.1).1,
      st.startup.2 ++ (clmIefbHandleNewConfig st.now st.startup.1).2) := rfl

theorem startup_spec :
    SharedInit st.vc.cfg st.shared.parameterNo ⟨.stopped, 0, 0⟩ st.startup.1.shared
      ∧ st.startup.1.aborted = false
      ∧ (∀ g, g < st.shared.config.hier.numberOfGroups.toNat →
        StartedUp (st.vc.setting g) (st.startup.1.groups g))
      ∧ ∀ x ∈ st.startup.2, x.owner = none :=
  Clm.forGroups_spec (c := st.cleared)
    (f := fun g => clmIefbGroupFsmEvent g st.now (fun _ => 0) .startup)
    (fun _ clm => SharedInit st.vc.cfg st.shared.parameterNo ⟨.stopped, 0, 0⟩ clm)
    (fun g _ gd => StartedUp (st.vc.setting g) gd) (fun x => x.owner = none)
    ⟨st.config, rfl, rfl⟩
    (by
      intro g clm _ hI
      obtain ⟨hclm, o, ho, hown⟩ := clmIefbGroupFsmEvent_startup_shared g st.now (fun _ => 0)
        { clm := clm, group := st.cleared.groups g, out := [] } rfl
      refine ⟨?_, clmIefbGroupFsmEvent_startup_group _ g st.now _ ?_ rfl, ?_⟩
      · rw [hclm]
        exact ⟨hI.config, hI.parameterNo, rfl⟩
      · show clm.config.hier.groups g = _
        rw [hI.config]
      · rw [ho]
        exact hown)

theorem init_spec : st.InitSpec := by
  have hcfg := st.config
  have hpos := st.vc.numGroups_pos
  have h1 := st.startup_spec
  have hinit := st.init_eq
  simp only [clmIefbGroupFsmEventAll, clmIefbHandleNewConfig] at hinit
  generalize st.startup = r at h1 hinit
  obtain ⟨hI, hab, hgroups, hout⟩ := h1
  have hn : r.1.shared.config.hier.numberOfGroups.toNat = st.vc.numGroups := by
    rw [hI.config]
  have hn0 : st.shared.config.hier.numberOfGroups.toNat = st.vc.numGroups := by
    rw [hcfg]
  -- the new configuration of every group
  have h2 := Clm.forGroups_spec
    (c := { r.1 with shared := { r.1.shared with parameterNo := r.1.shared.parameterNo + 1 } })
    (f := fun g => clmIefbGroupFsmEvent g st.now (fun _ => 0) .newConfig)
    (fun k clm => SharedInit st.vc.cfg st.parameterNo
      (if k = 0 then ⟨.stopped, 0, 0⟩ else st.arbitrationTimer) clm)
    (fun g _ gd => Initialised st.vc.cfg st.parameterNo g gd) (fun x => x.owner = none)
    ⟨hI.config, by rw [hI.parameterNo]; rfl, hI.timer⟩
    (by
      intro g clm hg hclmI
      have hst : StartedUp (st.vc.setting g) (r.1.groups g) :=
        hgroups g (Nat.lt_of_lt_of_eq hg (hn.trans hn0.symm))
      obtain ⟨hclm, o, ho, hown⟩ := clmIefbGroupFsmEvent_newConfig_shared g st.now (fun _ => 0)
        { clm := clm, group := r.1.groups g, out := [] } hst.state
      refine ⟨?_, ?_, ?_⟩
      · rw [hclm]
        refine ⟨hclmI.config, hclmI.parameterNo, ?_⟩
        rw [if_neg (Nat.succ_ne_zero g), hclmI.timer, hclmI.config]
        by_cases h0 : g = 0
        · rw [if_pos h0]
          rfl
        · rw [if_neg h0]
          rfl
      · have hnew := clmIefbGroupFsmEvent_newConfig_group g st.now (fun _ => 0)
          (s := { clm := clm, group := r.1.groups g, out := [] })
          (by
            show StartedUp (clm.config.hier.groups g) _
            rw [hclmI.config]
            exact hst)
        rw [hclmI.config, hclmI.parameterNo] at hnew
        exact hnew
      · rw [ho]
        exact hown)
  generalize Clm.forGroups _ _ = r' at h2 hinit
  obtain ⟨hI', hab', hgroups', hout'⟩ := h2
  have htimer : (if r.1.shared.config.hier.numberOfGroups.toNat = 0 then
      ⟨.stopped, 0, 0⟩ else st.arbitrationTimer) = st.arbitrationTimer := if_neg (by omega)
  refine ⟨?_, ?_, ?_, ?_, fun g hg => ?_, fun x hx => ?_⟩
  · rw [hinit]
    exact hI'.config
  · rw [hinit]
    exact hab'.trans hab
  · rw [hinit]
    exact hI'.parameterNo
  · rw [hinit]
    exact hI'.timer.trans htimer
  · rw [hinit]
    exact hgroups' g (Nat.lt_of_lt_of_eq hg hn.symm)
  · rw [hinit] at hx
    rcases List.mem_append.mp hx with hx | hx
    · exact hout x hx
    · rcases List.mem_cons.mp hx with rfl | hx
      · rfl
      · exact hout' x hx

/-! ## runs -/

/-- **The invariant rule for a group, from `clm_iefb_init` on.** -/
theorem run_inv {A : Nat → GroupInput → GroupData → Prop} {g : Nat} (hg : g < st.vc.numGroups)
    {I : List Output → GroupData → Prop}
    (h0 : ∀ gd, Initialised st.vc.cfg st.parameterNo g gd → I [] gd)
    (hM : ∀ hist gd o gd', GroupInv st.vc.cfg st.parameterNo g gd →
      GroupMove st.vc.cfg g (A g) gd o gd' → I hist gd → I (hist ++ o) gd')
    {es : List Event} (hes : master.Steps (Admits A) st.init.1 es) :
    GroupInv st.vc.cfg st.parameterNo g ((st.run es).1.groups g)
      ∧ I (ofGroup g (st.run es).2) ((st.run es).1.groups g) := by
  have hi := st.init_spec
  have hv := st.vc.group hg
  have hnil : ofGroup g st.init.2 = [] := by
    refine List.filter_eq_nil_iff.mpr (fun x hx => ?_)
    simp [Output.isOf, hi.out x hx]
  refine master_run_inv (c := st.init.1) (A := A)
    (I := fun hist gd => GroupInv st.vc.cfg st.parameterNo g gd ∧ I hist gd)
    (fun hist gd o gd' hm hI => ⟨groupMove_inv hv hm hI.1, hM hist gd o gd' hI.1 hm hI.2⟩)
    st.init.2 hi.config ?_ ?_ hes
  · rw [Clm.numGroups, hi.config]
    exact hg
  · rw [hnil]
    exact ⟨(hi.group g hg).inv hv, h0 _ (hi.group g hg)⟩

/-- the invariant of a group in every run -/
theorem group_groupInv (es : List Event) {g : Nat} (hg : g < st.vc.numGroups) :
    GroupInv st.vc.cfg st.parameterNo g ((st.run es).1.groups g) :=
  (st.run_inv (A := fun _ _ _ => True) (I := fun _ _ => True) hg (fun _ _ => trivial)
    (fun _ _ _ _ _ _ _ => trivial)
    (Machine.Steps.of_all master (fun _ _ _ _ _ => trivial) _ es)).1

/-- the configuration never changes, and outputs are about groups that exist -/
theorem run_config (es : List Event) :
    (st.run es).1.shared.config = st.vc.cfg
      ∧ ∀ x ∈ (st.run es).2, ∀ g, x.owner = some g → g < st.vc.numGroups := by
  have hi := st.init_spec
  have h := master.run_inv (c := Admits (fun _ _ _ => True))
    (I := fun hist c => c.shared.config = st.vc.cfg
      ∧ ∀ x ∈ hist, ∀ g, x.owner = some g → g < st.vc.numGroups)
    (by
      rintro hist c e ⟨hc, hout⟩ hadm
      have hm := clmStep_moves c e hadm
      refine ⟨hm.config.trans hc, fun x hx g hown => ?_⟩
      rcases List.mem_append.mp hx with hx | hx
      · exact hout x hx g hown
      · by_contra hg
        have hn : ¬ g < c.numGroups := by
          rw [Clm.numGroups, hc]
          exact hg
        have hmem : x ∈ ofGroup g (clmStep c e).2 :=
          List.mem_filter.mpr ⟨hx, by simp [Output.isOf, hown]⟩
        rw [(hm.other g hn).1] at hmem
        cases hmem)
    st.init.2 (s := st.init.1)
    ⟨hi.config, fun x hx g hown => by rw [hi.out x hx] at hown; cases hown⟩
    (Machine.Steps.of_all master (fun _ _ _ _ _ => trivial) st.init.1 es)
  exact h

end MasterStart

/-! ## a small network

One group with one or two devices of one station, for the runs that show that a hypothesis can be
met. -/

def exampleSlaveId (d : Nat) : IpAddr := 0xC0A80002 + UInt32.ofNat d

def exampleConfig (twoDevices useConstantLinkScanTime : Bool) : Config :=
  { hier :=
      { numberOfGroups := 1
        groups := fun _ =>
          { timeoutValue := 20, parallelOffTimeoutCount := 3
            useConstantLinkScanTime := useConstantLinkScanTime
            numSlaveDevices := if twoDevices then 2 else 1
            slaveDevices := fun d =>
              { slaveId := exampleSlaveId d, numOccupiedStations := 1
                reservedSlaveDevice := false } } }
    protocolVer := 2, arbitrationTime := 3, maxStatisticsSamples := 0
    useSeparateArbitrationSocket := false, masterId := 0xC0A80001 }

def exampleStart (twoDevices useConstantLinkScanTime : Bool) : MasterStart exampleOptions :=
  { vc :=
      { cfg := exampleConfig twoDevices useConstantLinkScanTime
        valid := by cases twoDevices <;> cases useConstantLinkScanTime <;> decide
        noDuplicates := by cases twoDevices <;> cases useConstantLinkScanTime <;> decide }
    shared :=
      { config := exampleConfig twoDevices useConstantLinkScanTime, iefbBroadcastIp := 0xC0A800FF
        latestConflictingMasterIp := 0, masterState := .down, parameterNo := 0
        masterLocalUnitInfo := 0, arbitrationTimer := .zero
        errorlimiter := ⟨.zero, 0, 0, 0, 0⟩ }
    config := rfl
    now := 0 }

/-- the response of device `d` with `n` stations -/
def exampleResponse (d : Nat) (n endCode frameSequenceNo : UInt16) : Datagram :=
  (clIefbUpdateCyclicResponseFrame (clIefbInitialiseCyclicResponseFrame n 0 0 0) (exampleSlaveId d)
    endCode 1 frameSequenceNo 1 0 0).datagram

namespace Event

def exampleTick (now : UInt32) : Event := tick now (fun _ => 0)

/-- device `d` answers -/
def exampleAnswer (now : UInt32) (d : Nat) (n endCode frameSequenceNo : UInt16) : Event :=
  frame now (fun _ => 0) (exampleResponse d n endCode frameSequenceNo) (exampleSlaveId d)
    clCciefbPort

end Event

/-- a response with a property that can be evaluated -/
theorem exists_response {c : Clm} {now : UInt32} {dg : Datagram} {remoteIp : IpAddr}
    {remotePort : UInt16} {p : Nat × Nat × CyclicResponse → Bool}
    (h : (clmResponse c now dg remoteIp remotePort).any p = true) :
    ∃ g d r, clmResponse c now dg remoteIp remotePort = some (g, d, r) ∧ p (g, d, r) = true := by
  cases hr : clmResponse c now dg remoteIp remotePort with
  | none =>
    rw [hr] at h
    cases h
  | some x =>
    obtain ⟨g, d, r⟩ := x
    rw [hr] at h
    exact ⟨g, d, r, rfl, h⟩

end CLink
