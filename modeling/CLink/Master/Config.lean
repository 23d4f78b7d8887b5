import CLink.Common.Types
import CLink.Lib.Loop
import Mathlib.Algebra.BigOperators.Intervals

/-!
# The master configuration

`clm_cfg_t`, its validation in `clm_master.c` and the station numbers computed from it.

* `ValidConfig`            a configuration with the proof that both validation functions accept it;
* `GroupSetting.pos`       the stations of the devices before a device, without overflow;
* `ValidConfig.group`      what acceptance says about a group (`GroupValid`);
* `clmIefbCalcSlaveStationNo_eq`, `clmIefbCalcOccupiedPerGroup_eq`   the 16-bit sums are `pos`;
* `clmIefbCalcSlaveDeviceIndex_eq`   an address leads back to its device.

The callbacks of `clm_cfg_t` are not part of the record: a call of a callback is an output.
-/

namespace CLink
open Loop

structure SlaveDeviceSetting where
  slaveId : IpAddr
  numOccupiedStations : UInt16
  reservedSlaveDevice : Bool

structure GroupSetting where
  timeoutValue : UInt16
  parallelOffTimeoutCount : UInt16
  useConstantLinkScanTime : Bool
  numSlaveDevices : UInt16
  slaveDevices : Nat → SlaveDeviceSetting

structure SlaveHierarchy where
  numberOfGroups : UInt16
  groups : Nat → GroupSetting

/-- `clm_cfg_t` -/
structure Config where
  hier : SlaveHierarchy
  protocolVer : UInt16
  arbitrationTime : UInt16
  maxStatisticsSamples : UInt16
  useSeparateArbitrationSocket : Bool
  masterId : IpAddr

/-! ## validation -/

abbrev minTimeoutValue : UInt16 := 1
abbrev maxTimeoutConstantLinkscan : UInt16 := 2000
abbrev minParallelOffTimeoutCount : UInt16 := 1

/-- the checks of one device -/
def deviceSettingValid (o : Options) (cfg : Config) (s : SlaveDeviceSetting) : Bool :=
  clUtilsIsIpaddrRangeValid s.slaveId ∧ s.slaveId ≠ cfg.masterId
    ∧ ¬ (s.numOccupiedStations = 0
      ∨ s.numOccupiedStations.toNat > o.clmMaxOccupiedStationsPerGroup)

/-- the totals of the group and of all groups after one more device; `none` is `return -1` -/
def validateDevice (o : Options) (cfg : Config) (s : SlaveDeviceSetting) :
    UInt16 × UInt16 → Option (UInt16 × UInt16)
  | (perGroup, allGroups) =>
    if deviceSettingValid o cfg s then
      some (perGroup + s.numOccupiedStations, allGroups + s.numOccupiedStations)
    else none

/-- the checks of one group, with the total of all groups so far -/
def validateGroup (o : Options) (cfg : Config) (gs : GroupSetting) (allGroups : UInt16) :
    Option UInt16 :=
  if gs.timeoutValue < minTimeoutValue then none
  else if gs.useConstantLinkScanTime ∧ gs.timeoutValue > maxTimeoutConstantLinkscan then none
  else if gs.parallelOffTimeoutCount < minParallelOffTimeoutCount then none
  else if gs.numSlaveDevices = 0
      ∨ gs.numSlaveDevices.toNat > o.clmMaxOccupiedStationsPerGroup then none
  else
    match loop (fun d s => s.bind (validateDevice o cfg (gs.slaveDevices d)))
        gs.numSlaveDevices.toNat (some (0, allGroups)) with
    | none => none
    | some (perGroup, allGroups) =>
      if perGroup.toNat > o.clmMaxOccupiedStationsPerGroup then none else some allGroups

def clmValidateConfig (o : Options) (cfg : Config) : Bool :=
  if cfg.protocolVer < minSupportedProtocolVer ∨ cfg.protocolVer > maxSupportedProtocolVer then
    false
  else if ¬ clUtilsIsIpaddrRangeValid cfg.masterId then false
  else if cfg.hier.numberOfGroups < minGroupNo
      ∨ cfg.hier.numberOfGroups.toNat > o.clmMaxGroups then false
  else
    match loop (fun g s => s.bind (validateGroup o cfg (cfg.hier.groups g)))
        cfg.hier.numberOfGroups.toNat (some 0) with
    | none => false
    | some allGroups => ¬ allGroups > maxOccupiedStationsForAllGroups

/-- one comparison of `clm_validate_config_duplicates`; `none` is `return -1` -/
def compareSlaveIds (cfg : Config) (gi sdi innerGi innerSdi : Nat) : Option Unit :=
  if innerGi = gi ∧ innerSdi = sdi then some ()
  else if ((cfg.hier.groups gi).slaveDevices sdi).slaveId
      = ((cfg.hier.groups innerGi).slaveDevices innerSdi).slaveId then none
  else some ()

def clmValidateConfigDuplicates (cfg : Config) : Bool :=
  (loop (fun gi s => s.bind fun _ =>
    loop (fun sdi s => s.bind fun _ =>
      loop (fun innerGi s => s.bind fun _ =>
        loop (fun innerSdi s => s.bind fun _ => compareSlaveIds cfg gi sdi innerGi innerSdi)
          (cfg.hier.groups innerGi).numSlaveDevices.toNat (some ()))
        cfg.hier.numberOfGroups.toNat (some ()))
      (cfg.hier.groups gi).numSlaveDevices.toNat (some ()))
    cfg.hier.numberOfGroups.toNat (some ())) = some ()

/-- no two devices have the same address -/
theorem clmValidateConfigDuplicates_iff (cfg : Config) :
    clmValidateConfigDuplicates cfg = true ↔ ∀ gi, gi < cfg.hier.numberOfGroups.toNat →
      ∀ sdi, sdi < (cfg.hier.groups gi).numSlaveDevices.toNat →
      ∀ innerGi, innerGi < cfg.hier.numberOfGroups.toNat →
      ∀ innerSdi, innerSdi < (cfg.hier.groups innerGi).numSlaveDevices.toNat →
        (innerGi = gi ∧ innerSdi = sdi)
          ∨ ((cfg.hier.groups gi).slaveDevices sdi).slaveId
            ≠ ((cfg.hier.groups innerGi).slaveDevices innerSdi).slaveId := by
  have hcompare : ∀ gi sdi innerGi innerSdi, compareSlaveIds cfg gi sdi innerGi innerSdi = some ()
      ↔ (innerGi = gi ∧ innerSdi = sdi)
        ∨ ((cfg.hier.groups gi).slaveDevices sdi).slaveId
          ≠ ((cfg.hier.groups innerGi).slaveDevices innerSdi).slaveId := by
    intro gi sdi innerGi innerSdi
    unfold compareSlaveIds
    split
    · rename_i hself
      exact iff_of_true rfl (.inl hself)
    · rename_i hother
      rw [or_iff_right hother]
      split
      · rename_i hsame
        exact iff_of_false (fun h => nomatch h) (not_not.mpr hsame)
      · rename_i hne
        exact iff_of_true rfl hne
  unfold clmValidateConfigDuplicates
  rw [decide_eq_true_eq]
  simp only [loop_check, hcompare]

/-- a configuration that `clm_master_init` lets through -/
structure ValidConfig (o : Options) where
  cfg : Config
  valid : clmValidateConfig o cfg = true
  noDuplicates : clmValidateConfigDuplicates cfg = true

/-! ## stations -/

/-- the occupied stations of the devices before device `d` -/
def GroupSetting.pos (gs : GroupSetting) (d : Nat) : Nat :=
  ∑ i ∈ Finset.range d, (gs.slaveDevices i).numOccupiedStations.toNat

def GroupSetting.num (gs : GroupSetting) (d : Nat) : Nat :=
  (gs.slaveDevices d).numOccupiedStations.toNat

def clmIefbCalcOccupiedPerGroup (gs : GroupSetting) : UInt16 :=
  loop (fun d total => total + (gs.slaveDevices d).numOccupiedStations) gs.numSlaveDevices.toNat 0

def clmIefbCalcSlaveStationNo (gs : GroupSetting) (slaveDeviceIndex : Nat) : Option UInt16 :=
  if slaveDeviceIndex ≥ gs.numSlaveDevices.toNat then none
  else
    some (loop (fun d stationNo => stationNo + (gs.slaveDevices d).numOccupiedStations)
      slaveDeviceIndex 1)

/-- index of the first device with the address -/
def clmIefbCalcSlaveDeviceIndex (gs : GroupSetting) (ipAddr : IpAddr) : Option Nat :=
  (List.range gs.numSlaveDevices.toNat).find? (fun d => (gs.slaveDevices d).slaveId = ipAddr)

theorem GroupSetting.pos_zero (gs : GroupSetting) : gs.pos 0 = 0 := rfl

theorem GroupSetting.pos_succ (gs : GroupSetting) (d : Nat) : gs.pos (d+1) = gs.pos d + gs.num d :=
  Finset.sum_range_succ _ d

theorem GroupSetting.pos_mono (gs : GroupSetting) {d e : Nat} (h : d ≤ e) : gs.pos d ≤ gs.pos e :=
  Finset.sum_le_sum_of_subset (Finset.range_mono h)

/-- stations of different devices are apart -/
theorem GroupSetting.pos_add_le (gs : GroupSetting) {d e : Nat} (h : d < e) :
    gs.pos d + gs.num d ≤ gs.pos e := by
  rw [← gs.pos_succ]
  exact gs.pos_mono h

/-- every station belongs to a device -/
theorem GroupSetting.exists_station (gs : GroupSetting) {n i : Nat} (h : i < gs.pos n) :
    ∃ e j, e < n ∧ j < gs.num e ∧ i = gs.pos e + j := by
  induction n with
  | zero => exact absurd h (Nat.not_lt_zero i)
  | succ n ih =>
    by_cases hlt : i < gs.pos n
    · obtain ⟨e, j, he, hj, hi⟩ := ih hlt
      exact ⟨e, j, Nat.lt_succ_of_lt he, hj, hi⟩
    · rw [gs.pos_succ] at h
      exact ⟨n, i - gs.pos n, Nat.lt_succ_self n, by omega, by omega⟩

/-- a 16-bit sum over the devices is `pos`, counted from the start value -/
theorem loop_stations (gs : GroupSetting) (start : UInt16) (d : Nat) :
    loop (fun i total => total + (gs.slaveDevices i).numOccupiedStations) d start
      = start + UInt16.ofNat (gs.pos d) := by
  induction d with
  | zero => simp [loop_zero, gs.pos_zero]
  | succ d ih =>
    rw [loop_succ, ih, gs.pos_succ, UInt16.ofNat_add, GroupSetting.num, UInt16.ofNat_toNat,
      UInt16.add_assoc]

theorem clmIefbCalcOccupiedPerGroup_eq (gs : GroupSetting) :
    clmIefbCalcOccupiedPerGroup gs = UInt16.ofNat (gs.pos gs.numSlaveDevices.toNat) := by
  unfold clmIefbCalcOccupiedPerGroup
  rw [loop_stations, UInt16.zero_add]

theorem clmIefbCalcSlaveStationNo_eq (gs : GroupSetting) {d : Nat}
    (h : d < gs.numSlaveDevices.toNat) :
    clmIefbCalcSlaveStationNo gs d = some (UInt16.ofNat (gs.pos d + 1)) := by
  unfold clmIefbCalcSlaveStationNo
  rw [if_neg (by omega), loop_stations, UInt16.ofNat_add, UInt16.add_comm]
  rfl

/-! ## what validation says -/

/-- the device setting of an accepted configuration -/
structure DeviceValid (cfg : Config) (s : SlaveDeviceSetting) : Prop where
  nonzero : s.slaveId ≠ ipaddrInvalid
  range : s.slaveId.toNat ≤ 0xDFFFFFFE
  notMaster : s.slaveId ≠ cfg.masterId
  num_pos : 1 ≤ s.numOccupiedStations.toNat

theorem DeviceValid.ne_multistationIndicator {cfg : Config} {s : SlaveDeviceSetting}
    (h : DeviceValid cfg s) : s.slaveId ≠ multistationIndicator := by
  intro heq
  have hrange := h.range
  rw [heq] at hrange
  exact absurd hrange (by decide)

/-- the group setting of an accepted configuration -/
structure GroupValid (o : Options) (cfg : Config) (gs : GroupSetting) : Prop where
  timeout : 1 ≤ gs.timeoutValue.toNat
  count : 1 ≤ gs.parallelOffTimeoutCount.toNat
  devices_pos : 1 ≤ gs.numSlaveDevices.toNat
  device : ∀ d, d < gs.numSlaveDevices.toNat → DeviceValid cfg (gs.slaveDevices d)
  total : gs.pos gs.numSlaveDevices.toNat ≤ o.clmMaxOccupiedStationsPerGroup

theorem deviceSettingValid_spec {o : Options} {cfg : Config} {s : SlaveDeviceSetting}
    (h : deviceSettingValid o cfg s = true) :
    DeviceValid cfg s ∧ s.numOccupiedStations.toNat ≤ o.clmMaxOccupiedStationsPerGroup := by
  simp only [deviceSettingValid, clUtilsIsIpaddrRangeValid, decide_eq_true_eq, not_or,
    gt_iff_lt, UInt32.lt_iff_toNat_lt, UInt32.reduceToNat, ← UInt16.toNat_inj,
    UInt16.reduceToNat] at h
  obtain ⟨⟨hz, hr⟩, hm, hn, hmax⟩ := h
  exact ⟨⟨hz, by omega, hm, by omega⟩, by omega⟩

/-- the first `k` devices passed: the 16-bit totals are sums of at most `k` counts up to 16 -/
theorem validateDevices_spec {o : Options} {cfg : Config} {gs : GroupSetting} {all : UInt16} {k : Nat}
    {totals : UInt16 × UInt16}
    (h : loop (fun d s => s.bind (validateDevice o cfg (gs.slaveDevices d))) k (some (0, all))
      = some totals) :
    totals = (UInt16.ofNat (gs.pos k), all + UInt16.ofNat (gs.pos k)) ∧ gs.pos k ≤ 16 * k
      ∧ ∀ d, d < k → DeviceValid cfg (gs.slaveDevices d) := by
  have ho := o.clm_le
  refine loop_bind_inv h
    (fun k s => s = (UInt16.ofNat (gs.pos k), all + UInt16.ofNat (gs.pos k)) ∧ gs.pos k ≤ 16 * k
      ∧ ∀ d, d < k → DeviceValid cfg (gs.slaveDevices d)) ?_ ?_
  · refine ⟨?_, Nat.le_refl 0, fun d hd => absurd hd (Nat.not_lt_zero d)⟩
    rw [gs.pos_zero, show UInt16.ofNat 0 = 0 from rfl, UInt16.add_zero]
  · rintro k s t - ⟨rfl, hle, hall⟩ hf
    simp only [validateDevice] at hf
    split at hf
    case isFalse => cases hf
    rename_i hv
    obtain ⟨hd, hmax⟩ := deviceSettingValid_spec hv
    have hnum : gs.num k ≤ 16 := Nat.le_trans hmax ho
    have hsum : UInt16.ofNat (gs.pos k) + (gs.slaveDevices k).numOccupiedStations
        = UInt16.ofNat (gs.pos (k+1)) := by
      rw [gs.pos_succ, UInt16.ofNat_add, GroupSetting.num, UInt16.ofNat_toNat]
    refine ⟨?_, ?_, fun d hd' => ?_⟩
    · rw [← Option.some.inj hf, UInt16.add_assoc, hsum]
    · rw [gs.pos_succ]
      omega
    · rcases Nat.lt_succ_iff_lt_or_eq.mp hd' with h' | rfl
      · exact hall d h'
      · exact hd

/-- a group that passed: its setting, and its stations in the total of all groups -/
theorem validateGroup_spec {o : Options} {cfg : Config} {gs : GroupSetting} {a b : UInt16}
    (h : validateGroup o cfg gs a = some b) :
    GroupValid o cfg gs ∧ b = a + UInt16.ofNat (gs.pos gs.numSlaveDevices.toNat) := by
  unfold validateGroup at h
  split at h
  · cases h
  rename_i ht
  split at h
  · cases h
  split at h
  · cases h
  rename_i hc
  split at h
  · cases h
  rename_i hn
  split at h
  · cases h
  rename_i perGroup allGroups hloop
  split at h
  · cases h
  rename_i htotal
  simp only [not_or, ← UInt16.toNat_inj, UInt16.reduceToNat] at hn
  have ho := o.clm_le
  obtain ⟨htotals, hle, hall⟩ := validateDevices_spec hloop
  obtain ⟨hper, hb⟩ : perGroup = _ ∧ allGroups = _ := Prod.ext_iff.mp htotals
  have hsum : perGroup.toNat = gs.pos gs.numSlaveDevices.toNat := by
    rw [hper, UInt16.toNat_ofNat']
    omega
  have ht' : ¬ gs.timeoutValue.toNat < 1 := fun h' => ht (UInt16.lt_iff_toNat_lt.mpr h')
  have hc' : ¬ gs.parallelOffTimeoutCount.toNat < 1 := fun h' => hc (UInt16.lt_iff_toNat_lt.mpr h')
  exact ⟨⟨by omega, by omega, by omega, hall, by omega⟩, (Option.some.inj h).symm.trans hb⟩

/-- a configuration that passed -/
structure ConfigValid (o : Options) (cfg : Config) : Prop where
  masterId : cfg.masterId ≠ ipaddrInvalid
  groups_pos : 1 ≤ cfg.hier.numberOfGroups.toNat
  groups_le : cfg.hier.numberOfGroups.toNat ≤ 64
  protocolVer : 1 ≤ cfg.protocolVer.toNat ∧ cfg.protocolVer.toNat ≤ 2
  group : ∀ g, g < cfg.hier.numberOfGroups.toNat → GroupValid o cfg (cfg.hier.groups g)
  /-- the groups have been checked one after the other -/
  checked : ∃ total, loop (fun g s => s.bind (validateGroup o cfg (cfg.hier.groups g)))
    cfg.hier.numberOfGroups.toNat (some 0) = some total

theorem clmValidateConfig_spec {o : Options} {cfg : Config} (h : clmValidateConfig o cfg = true) :
    ConfigValid o cfg := by
  unfold clmValidateConfig at h
  split at h
  · cases h
  rename_i hver
  split at h
  · cases h
  rename_i hip
  split at h
  · cases h
  rename_i hg
  split at h
  · cases h
  rename_i total hloop
  simp only [not_or, UInt16.lt_iff_toNat_lt, gt_iff_lt, minGroupNo, minSupportedProtocolVer,
    maxSupportedProtocolVer, UInt16.reduceToNat] at hg hver
  simp only [clUtilsIsIpaddrRangeValid, decide_eq_true_eq, not_or, not_not] at hip
  have ho := o.groups_le
  have hall := loop_bind_inv hloop
    (fun k _ => ∀ g, g < k → GroupValid o cfg (cfg.hier.groups g))
    (fun g hg => absurd hg (Nat.not_lt_zero g))
    (fun k s t _ hk hf g hg' => by
      rcases Nat.lt_succ_iff_lt_or_eq.mp hg' with h' | rfl
      · exact hk g h'
      · exact (validateGroup_spec hf).1)
  exact ⟨hip.1, by omega, by omega, by omega, hall, total, hloop⟩

namespace ValidConfig
variable {o : Options} (vc : ValidConfig o)

/-- the setting of group `g` -/
abbrev setting (g : Nat) : GroupSetting := vc.cfg.hier.groups g

abbrev numGroups : Nat := vc.cfg.hier.numberOfGroups.toNat

theorem spec : ConfigValid o vc.cfg := clmValidateConfig_spec vc.valid

theorem masterId_ne : vc.cfg.masterId ≠ ipaddrInvalid := vc.spec.masterId
theorem numGroups_pos : 1 ≤ vc.numGroups := vc.spec.groups_pos
theorem numGroups_le : vc.numGroups ≤ 64 := vc.spec.groups_le
theorem protocolVer_range : 1 ≤ vc.cfg.protocolVer.toNat ∧ vc.cfg.protocolVer.toNat ≤ 2 :=
  vc.spec.protocolVer

theorem group {g : Nat} (hg : g < vc.numGroups) : GroupValid o vc.cfg (vc.setting g) :=
  vc.spec.group g hg

/-- different devices have different addresses -/
theorem slaveId_inj {g d g' d' : Nat} (hg : g < vc.numGroups)
    (hd : d < (vc.setting g).numSlaveDevices.toNat) (hg' : g' < vc.numGroups)
    (hd' : d' < (vc.setting g').numSlaveDevices.toNat)
    (h : ((vc.setting g).slaveDevices d).slaveId = ((vc.setting g').slaveDevices d').slaveId) :
    g = g' ∧ d = d' := by
  have hall := (clmValidateConfigDuplicates_iff vc.cfg).mp vc.noDuplicates
  rcases hall g hg d hd g' hg' d' hd' with ⟨h1, h2⟩ | hne
  · exact ⟨h1.symm, h2.symm⟩
  · exact absurd h hne

end ValidConfig

namespace GroupValid
variable {o : Options} {cfg : Config} {gs : GroupSetting} (hv : GroupValid o cfg gs)
include hv

theorem total_le : gs.pos gs.numSlaveDevices.toNat ≤ 16 := Nat.le_trans hv.total o.clm_le

theorem num_pos {d : Nat} (hd : d < gs.numSlaveDevices.toNat) : 1 ≤ gs.num d := (hv.device d hd).num_pos

theorem total_pos : 1 ≤ gs.pos gs.numSlaveDevices.toNat := by
  have h0 := hv.num_pos (d := 0) hv.devices_pos
  have h1 := gs.pos_add_le (d := 0) (e := gs.numSlaveDevices.toNat) hv.devices_pos
  rw [gs.pos_zero] at h1
  omega

theorem devices_le : gs.numSlaveDevices.toNat ≤ 16 := by
  have h : ∀ d, d ≤ gs.numSlaveDevices.toNat → d ≤ gs.pos d := by
    intro d
    induction d with
    | zero => intro _; omega
    | succ d ih =>
      intro hd
      have := ih (by omega)
      have := hv.num_pos (d := d) (by omega)
      rw [gs.pos_succ]
      omega
  exact Nat.le_trans (h _ (Nat.le_refl _)) hv.total_le

/-- the station number of a device as a number -/
theorem stationNo_toNat {d : Nat} (hd : d < gs.numSlaveDevices.toNat) :
    (UInt16.ofNat (gs.pos d + 1)).toNat = gs.pos d + 1 := by
  have h1 := gs.pos_add_le hd
  have h2 := hv.num_pos hd
  have h3 := hv.total_le
  rw [UInt16.toNat_ofNat']
  omega

theorem total_toNat : (UInt16.ofNat (gs.pos gs.numSlaveDevices.toNat)).toNat
    = gs.pos gs.numSlaveDevices.toNat := by
  have h := hv.total_le
  rw [UInt16.toNat_ofNat']
  omega

end GroupValid

/-- an address leads back to its device -/
theorem clmIefbCalcSlaveDeviceIndex_some {gs : GroupSetting} {ip : IpAddr} {d : Nat}
    (h : clmIefbCalcSlaveDeviceIndex gs ip = some d) :
    d < gs.numSlaveDevices.toNat ∧ (gs.slaveDevices d).slaveId = ip := by
  have hmem := List.mem_of_find?_eq_some h
  have hp := List.find?_some h
  exact ⟨List.mem_range.mp hmem, of_decide_eq_true hp⟩

theorem clmIefbCalcSlaveDeviceIndex_eq {o : Options} (vc : ValidConfig o) {g d : Nat}
    (hg : g < vc.numGroups) (hd : d < (vc.setting g).numSlaveDevices.toNat) :
    clmIefbCalcSlaveDeviceIndex (vc.setting g) ((vc.setting g).slaveDevices d).slaveId = some d := by
  cases h : clmIefbCalcSlaveDeviceIndex (vc.setting g) ((vc.setting g).slaveDevices d).slaveId with
  | none =>
    have hnone := List.find?_eq_none.mp h d (List.mem_range.mpr hd)
    exact absurd (decide_eq_true rfl) hnone
  | some d' =>
    obtain ⟨hd', he⟩ := clmIefbCalcSlaveDeviceIndex_some h
    rw [(vc.slaveId_inj hg hd' hg hd he).2]

end CLink
