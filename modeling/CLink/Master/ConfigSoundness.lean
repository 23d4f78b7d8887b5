import Mathlib
import CLink.Master.SentFrames

/-!
# What an accepted configuration promises

The bounds that the rest of the master takes for granted, from the two validation functions alone.

* `Fits`                      a 16-bit sum does not overflow;
* `totalsBefore`              the two totals of `clm_validate_config` before a device is added;
* `GroupSetting.stations`     the station numbers of a device;
* `clmIefbReflectGroupParametersAsserted`   the initialisation of a group with its assertions;
* `CopiesInside`              the bytes and entries that the copies of one device touch;
* `clmValidateConfig_sound`   all of it holds for every accepted configuration, and the duplicate
                              check decides whether the addresses are pairwise distinct.
-/

namespace CLink
open Loop

/-! ## 16-bit sums -/

def Fits (a b : UInt16) : Prop := a.toNat + b.toNat < 2^16

/-- the totals of the group and of all groups when the stations of device `d` are added -/
def totalsBefore (o : Options) (cfg : Config) (g d : Nat) : Option (UInt16 × UInt16) :=
  (loop (fun g s => s.bind (validateGroup o cfg (cfg.hier.groups g))) g (some 0)).bind fun all =>
    loop (fun d s => s.bind (validateDevice o cfg ((cfg.hier.groups g).slaveDevices d))) d
      (some (0, all))

/-- the sums in which the stations of device `d` of group `g` are added -/
structure SumsFit (o : Options) (cfg : Config) (g d : Nat) : Prop where
  /-- `clm_validate_config` -/
  validation : ∃ perGroup allGroups, totalsBefore o cfg g d = some (perGroup, allGroups)
    ∧ Fits perGroup ((cfg.hier.groups g).slaveDevices d).numOccupiedStations
    ∧ Fits allGroups ((cfg.hier.groups g).slaveDevices d).numOccupiedStations
  /-- `clm_iefb_calc_occupied_per_group` -/
  occupied : Fits
    (loop (fun d total => total + ((cfg.hier.groups g).slaveDevices d).numOccupiedStations) d 0)
    ((cfg.hier.groups g).slaveDevices d).numOccupiedStations
  /-- `clm_iefb_calc_slave_station_no` -/
  stationNo : Fits
    (loop (fun d stationNo => stationNo + ((cfg.hier.groups g).slaveDevices d).numOccupiedStations)
      d 1)
    ((cfg.hier.groups g).slaveDevices d).numOccupiedStations

/-- a sum of stations as a number -/
theorem loop_stations_toNat (gs : GroupSetting) (start : UInt16) (d : Nat)
    (h : start.toNat + gs.pos d < 2^16) :
    (loop (fun i total => total + (gs.slaveDevices i).numOccupiedStations) d start).toNat
      = start.toNat + gs.pos d := by
  rw [loop_stations, UInt16.toNat_add, UInt16.toNat_ofNat']
  omega

theorem ConfigValid.sumsFit {o : Options} {cfg : Config} (h : ConfigValid o cfg) {g d : Nat}
    (hg : g < cfg.hier.numberOfGroups.toNat) (hd : d < (cfg.hier.groups g).numSlaveDevices.toNat) :
    SumsFit o cfg g d := by
  have hle := (cfg.hier.groups g).pos_add_le hd
  have htotal := (h.group g hg).total_le
  have hgroups := h.groups_le
  have hnum : ((cfg.hier.groups g).slaveDevices d).numOccupiedStations.toNat
      = (cfg.hier.groups g).num d := rfl
  -- the groups before `g` passed, with at most 16 stations each
  obtain ⟨total, hloop⟩ := h.checked
  obtain ⟨allAfter, hafter⟩ := loop_bind_prefix (Nat.succ_le_of_lt hg) hloop
  rw [loop_succ] at hafter
  obtain ⟨all, hall, hgroup⟩ := Option.bind_eq_some_iff.mp hafter
  have hbound : all.toNat ≤ 16 * g := by
    refine loop_bind_inv hall (fun k s => s.toNat ≤ 16 * k) (Nat.le_refl 0) ?_
    intro k s t hk hs hf
    obtain ⟨hv, rfl⟩ := validateGroup_spec hf
    have hle := hv.total_le
    rw [UInt16.toNat_add, hv.total_toNat]
    omega
  -- and so did the devices before `d`
  obtain ⟨last, hdevices⟩ : ∃ last, loop (fun d s => s.bind (validateDevice o cfg
      ((cfg.hier.groups g).slaveDevices d))) (cfg.hier.groups g).numSlaveDevices.toNat
      (some (0, all)) = some last := by
    unfold validateGroup at hgroup
    split at hgroup
    · cases hgroup
    split at hgroup
    · cases hgroup
    split at hgroup
    · cases hgroup
    split at hgroup
    · cases hgroup
    split at hgroup
    · cases hgroup
    · exact ⟨_, by assumption⟩
  obtain ⟨totals, htotals⟩ := loop_bind_prefix (Nat.le_of_lt hd) hdevices
  obtain ⟨rfl, hpos, -⟩ := validateDevices_spec htotals
  have hsum : (UInt16.ofNat ((cfg.hier.groups g).pos d)).toNat = (cfg.hier.groups g).pos d := by
    rw [UInt16.toNat_ofNat']
    omega
  have hbefore : totalsBefore o cfg g d = some (UInt16.ofNat ((cfg.hier.groups g).pos d),
      all + UInt16.ofNat ((cfg.hier.groups g).pos d)) := by
    rw [totalsBefore, hall]
    exact htotals
  refine ⟨⟨_, _, hbefore, ?_, ?_⟩, ?_, ?_⟩
  · rw [Fits, hsum]
    omega
  · rw [Fits, UInt16.toNat_add, hsum]
    omega
  · rw [Fits, loop_stations_toNat _ _ _ (by rw [UInt16.toNat_zero]; omega), UInt16.toNat_zero]
    omega
  · rw [Fits, loop_stations_toNat _ _ _ (by rw [UInt16.toNat_one]; omega), UInt16.toNat_one]
    omega

/-! ## station numbers -/

/-- the station numbers of device `d` -/
def GroupSetting.stations (gs : GroupSetting) (d : Nat) : Set Nat :=
  {k | ∃ stationNo, clmIefbCalcSlaveStationNo gs d = some stationNo
    ∧ stationNo.toNat ≤ k ∧ k < stationNo.toNat + gs.num d}

structure StationsSound (o : Options) (gs : GroupSetting) : Prop where
  /-- consecutive, from station 1 on -/
  first : clmIefbCalcSlaveStationNo gs 0 = some 1
  next : ∀ d stationNo next, clmIefbCalcSlaveStationNo gs d = some stationNo →
    clmIefbCalcSlaveStationNo gs (d+1) = some next → next.toNat = stationNo.toNat + gs.num d
  disjoint : ∀ d e, d ≠ e → Disjoint (gs.stations d) (gs.stations e)
  cover : ⋃ d, gs.stations d = Set.Icc 1 (clmIefbCalcOccupiedPerGroup gs).toNat
  total : (clmIefbCalcOccupiedPerGroup gs).toNat ≤ o.clmMaxOccupiedStationsPerGroup

namespace GroupValid
variable {o : Options} {cfg : Config} {gs : GroupSetting} (hv : GroupValid o cfg gs)
include hv

theorem mem_stations (d k : Nat) :
    k ∈ gs.stations d ↔ d < gs.numSlaveDevices.toNat ∧ gs.pos d < k ∧ k ≤ gs.pos d + gs.num d := by
  constructor
  · rintro ⟨stationNo, hcalc, hle, hlt⟩
    have hd : d < gs.numSlaveDevices.toNat := by
      by_contra hd
      rw [clmIefbCalcSlaveStationNo, if_pos (by omega)] at hcalc
      cases hcalc
    rw [clmIefbCalcSlaveStationNo_eq gs hd] at hcalc
    obtain rfl := Option.some.inj hcalc
    rw [hv.stationNo_toNat hd] at hle hlt
    exact ⟨hd, by omega, by omega⟩
  · rintro ⟨hd, hlt, hle⟩
    refine ⟨_, clmIefbCalcSlaveStationNo_eq gs hd, ?_, ?_⟩
    · rw [hv.stationNo_toNat hd]
      omega
    · rw [hv.stationNo_toNat hd]
      omega

theorem occupied_toNat :
    (clmIefbCalcOccupiedPerGroup gs).toNat = gs.pos gs.numSlaveDevices.toNat := by
  rw [clmIefbCalcOccupiedPerGroup_eq, hv.total_toNat]

theorem stationsSound : StationsSound o gs := by
  refine ⟨?_, fun d stationNo next hcalc hnext => ?_, fun d e hne => ?_, ?_, ?_⟩
  · rw [clmIefbCalcSlaveStationNo_eq gs (Nat.lt_of_lt_of_le Nat.one_pos hv.devices_pos), gs.pos_zero]
    rfl
  · have hd : d + 1 < gs.numSlaveDevices.toNat := by
      by_contra hd
      rw [clmIefbCalcSlaveStationNo, if_pos (by omega)] at hnext
      cases hnext
    have hd' : d < gs.numSlaveDevices.toNat := Nat.lt_of_succ_lt hd
    rw [clmIefbCalcSlaveStationNo_eq gs hd'] at hcalc
    rw [clmIefbCalcSlaveStationNo_eq gs hd] at hnext
    rw [← Option.some.inj hcalc, ← Option.some.inj hnext, hv.stationNo_toNat hd',
      hv.stationNo_toNat hd, gs.pos_succ]
    omega
  · refine Set.disjoint_left.mpr fun k hk hk' => ?_
    rw [hv.mem_stations] at hk hk'
    rcases Nat.lt_or_gt_of_ne hne with hlt | hlt
    · have hapart := gs.pos_add_le hlt
      omega
    · have hapart := gs.pos_add_le hlt
      omega
  · ext k
    simp only [Set.mem_iUnion, Set.mem_Icc, hv.mem_stations, hv.occupied_toNat]
    constructor
    · rintro ⟨d, hd, hlt, hle⟩
      have htotal := gs.pos_add_le hd
      omega
    · rintro ⟨h1, hle⟩
      obtain ⟨d, j, hd, hj, hk⟩ := gs.exists_station (i := k - 1)
        (n := gs.numSlaveDevices.toNat) (by omega)
      exact ⟨d, hd, by omega, by omega⟩
  · rw [hv.occupied_toNat]
    exact hv.total

end GroupValid

/-! ## the initialisation of a group -/

/-- `cl_iefb_initialise_request_frame` with its assertions; `none` is a failing one -/
def clIefbInitialiseRequestFrameAsserted (protocolVer timeoutValue parallelOffTimeoutCount : UInt16)
    (masterId : IpAddr) (groupNo occupiedStations parameterNo : UInt16) : Option RequestFrame :=
  let frame := clIefbInitialiseRequestFrame protocolVer timeoutValue parallelOffTimeoutCount
    masterId groupNo occupiedStations parameterNo
  if ¬ clBufferLen ≥ frame.udpPayloadLen then none
  else if ¬ frame.firstRy + occupiedStations.toNat * 8 ≤ clBufferLen then none
  else some frame

/-- `clm_iefb_reflect_group_parameters` with its assertions; `none` is a failing one -/
def clmIefbReflectGroupParametersAsserted (clm : ClmShared) (g : Nat) (gd : GroupData) :
    Option GroupData :=
  let gs := clm.config.hier.groups g
  let gd := { gd with
    totalOccupied := clmIefbCalcOccupiedPerGroup gs
    frameSequenceNo := 0
    cyclicTransmissionState := cyclicTrStateAllOff }
  (loop (fun d s => s.bind fun gd => (clmIefbCalcSlaveStationNo gs d).map fun stationNo =>
      gd.modifyDevice d (fun dev => { dev with timeoutCount := 0, slaveStationNo := stationNo }))
    gs.numSlaveDevices.toNat (some gd)).bind fun gd =>
  (clIefbInitialiseRequestFrameAsserted clm.config.protocolVer gs.timeoutValue
    gs.parallelOffTimeoutCount clm.config.masterId (UInt16.ofNat g + 1) gd.totalOccupied
    clm.parameterNo).map fun reqFrame =>
  { gd with reqFrame := { reqFrame with
      slaveIds := clmIefbInitialiseRequestSlaveIds gs reqFrame.slaveIds } }

theorem clIefbInitialiseRequestFrameAsserted_eq
    (protocolVer timeoutValue parallelOffTimeoutCount : UInt16) (masterId : IpAddr)
    (groupNo : UInt16) {occupiedStations : UInt16} (parameterNo : UInt16)
    (h : occupiedStations.toNat ≤ 16) :
    clIefbInitialiseRequestFrameAsserted protocolVer timeoutValue parallelOffTimeoutCount masterId
        groupNo occupiedStations parameterNo
      = some (clIefbInitialiseRequestFrame protocolVer timeoutValue parallelOffTimeoutCount masterId
          groupNo occupiedStations parameterNo) := by
  have hlay := layout_initialise protocolVer timeoutValue parallelOffTimeoutCount masterId groupNo
    occupiedStations parameterNo
  have hlen := hlay.len
  have hry := hlay.firstRy
  have hbuf : clBufferLen = 1500 := rfl
  simp only [clIefbInitialiseRequestFrameAsserted]
  rw [if_neg (not_not.mpr (by omega)), if_neg (not_not.mpr (by omega))]

theorem GroupValid.reflectGroupParameters {o : Options} {clm : ClmShared} {g : Nat}
    (hv : GroupValid o clm.config (clm.config.hier.groups g)) (gd : GroupData) :
    clmIefbReflectGroupParametersAsserted clm g gd
      = some (clmIefbReflectGroupParameters clm g gd) := by
  -- every device has a station number, so both loops do the same
  have hloop : ∀ gd : GroupData, loop (fun d s => s.bind fun gd =>
      (clmIefbCalcSlaveStationNo (clm.config.hier.groups g) d).map fun stationNo =>
        gd.modifyDevice d (fun dev => { dev with timeoutCount := 0, slaveStationNo := stationNo }))
      (clm.config.hier.groups g).numSlaveDevices.toNat (some gd)
      = some (loop (fun d (gd : GroupData) => gd.modifyDevice d (fun dev => { dev with
          timeoutCount := 0
          slaveStationNo := (clmIefbCalcSlaveStationNo (clm.config.hier.groups g) d).getD
            dev.slaveStationNo }))
        (clm.config.hier.groups g).numSlaveDevices.toNat gd) := by
    intro gd
    refine loop_rel (fun s t => s = some t) rfl ?_
    rintro d s t hd rfl
    rw [clmIefbCalcSlaveStationNo_eq _ hd]
    rfl
  have htotal : (clmIefbCalcOccupiedPerGroup (clm.config.hier.groups g)).toNat ≤ 16 := by
    rw [hv.occupied_toNat]
    exact hv.total_le
  have hkeep : ∀ gd : GroupData, (loop (fun d (gd : GroupData) => gd.modifyDevice d (fun dev => { dev with
      timeoutCount := 0
      slaveStationNo := (clmIefbCalcSlaveStationNo (clm.config.hier.groups g) d).getD
        dev.slaveStationNo })) (clm.config.hier.groups g).numSlaveDevices.toNat gd).totalOccupied
      = gd.totalOccupied := by
    intro gd
    rw [loop_modifyDevice]
    rfl
  simp only [clmIefbReflectGroupParametersAsserted, hloop, Option.bind_some, hkeep,
    clIefbInitialiseRequestFrameAsserted_eq _ _ _ _ _ _ htotal, Option.map_some,
    clmIefbReflectGroupParameters]

/-- the list of slave ids is written inside the frame -/
theorem clmIefbInitialiseRequestSlaveIds_out (gs : GroupSetting) (ids : Nat → IpAddr) {k : Nat}
    (hk : gs.total ≤ k) : clmIefbInitialiseRequestSlaveIds gs ids k = ids k := by
  have h := loop_inv (n := gs.numSlaveDevices.toNat)
    (f := fun d s =>
      loop (fun occupiedIndex (t : (Nat → IpAddr) × Nat) =>
        (Function.update t.1 t.2
          (if occupiedIndex = 0 then (gs.slaveDevices d).slaveId else multistationIndicator),
          t.2 + 1)) (gs.slaveDevices d).numOccupiedStations.toNat s) (s := (ids, 0))
    (fun d t => t.2 = gs.pos d ∧ ∀ i, gs.pos d ≤ i → t.1 i = ids i)
    ⟨rfl, fun _ _ => rfl⟩
    (by
      rintro d ⟨t, p⟩ _ ⟨hp, hsame⟩
      obtain rfl : p = gs.pos d := hp
      simp only [loop_stationIds]
      refine ⟨(gs.pos_succ d).symm, fun i hi => ?_⟩
      rw [gs.pos_succ] at hi
      exact (blit_out (.inr hi)).trans (hsame i (by omega)))
  exact h.2 k hk

/-! ## the copies of one device -/

/-- `clm_iefb_update_request_slave_id`, `clm_iefb_update_request_frame_cyclic_data_one_device` and
`clm_iefb_store_incoming_cyclic_data` for device `d` with `num` stations -/
structure CopiesInside (o : Options) (gd : GroupData) (d : Nat) (num : UInt16) : Prop where
  /-- `CC_ASSERT (slave_station_no >= 1)` -/
  stationNo : 1 ≤ (gd.slaveDevices d).slaveStationNo.toNat
  slaveId : gd.reqFrame.firstSlaveId + 4 * ((gd.slaveDevices d).slaveStationNo.toNat - 1) + 4
    ≤ gd.reqFrame.firstRww
  rww : gd.reqFrame.firstRww
      + 64 * ((gd.slaveDevices d).slaveStationNo.toNat - 1 + num.toNat) ≤ gd.reqFrame.firstRy
  ry : gd.reqFrame.firstRy + 8 * ((gd.slaveDevices d).slaveStationNo.toNat - 1 + num.toNat)
    ≤ gd.reqFrame.udpPayloadLen
  sendbuf : gd.reqFrame.udpPayloadLen ≤ clBufferLen
  /-- the four arrays of `clm_group_memory_area_t` -/
  memoryArea : (gd.slaveDevices d).slaveStationNo.toNat - 1 + num.toNat
    ≤ o.clmMaxOccupiedStationsPerGroup

theorem GroupValid.copiesInside {o : Options} {cfg : Config} {gs : GroupSetting}
    (hv : GroupValid o cfg gs) {gd : GroupData} (hlay : gd.reqFrame.Layout gs.total) {d : Nat}
    (hd : d < gs.numSlaveDevices.toNat)
    (hstation : (gd.slaveDevices d).slaveStationNo = UInt16.ofNat (gs.pos d + 1)) :
    CopiesInside o gd d (gs.slaveDevices d).numOccupiedStations := by
  have hnat : (gd.slaveDevices d).slaveStationNo.toNat = gs.pos d + 1 := by
    rw [hstation, hv.stationNo_toNat hd]
  have hnum : (gs.slaveDevices d).numOccupiedStations.toNat = gs.num d := rfl
  have hpos := hv.num_pos hd
  have hle : gs.pos d + gs.num d ≤ gs.total := gs.pos_add_le hd
  have h16 : gs.total ≤ 16 := hv.total_le
  have htotal : gs.total ≤ o.clmMaxOccupiedStationsPerGroup := hv.total
  have hlen := hlay.len
  have hids := hlay.firstSlaveId
  have hrww := hlay.firstRww
  have hry := hlay.firstRy
  have hbuf : clBufferLen = 1500 := rfl
  exact ⟨by omega, by omega, by omega, by omega, by omega, by omega⟩

/-- the areas of a parsed response lie in the datagram -/
theorem clIefbParseCyclicResponse_inside {dg : Datagram} {remoteIp : IpAddr} {remotePort : UInt16}
    {now : UInt32} {r : CyclicResponse}
    (h : clIefbParseCyclicResponse dg remoteIp remotePort now = .ok r) :
    r.firstRwr + 64 * r.numberOfOccupied.toNat ≤ r.firstRx
      ∧ r.firstRx + 8 * r.numberOfOccupied.toNat ≤ dg.len := by
  unfold clIefbParseCyclicResponse at h
  split at h
  · cases h
  split at h
  · cases h
  simp only at h
  split at h
  · cases h
  split at h
  · cases h
  rename_i firstRwr firstRx hdata
  rw [← Except.ok.inj h]
  unfold clIefbParseResponseCyclicData at hdata
  simp only at hdata
  split at hdata
  · cases hdata
  split at hdata
  · cases hdata
  cases hdata
  exact ⟨by simp only; omega, by simp only; omega⟩

/-! ## the addresses -/

/-- the devices of all groups -/
def Config.devices (cfg : Config) : Set (Nat × Nat) :=
  {p | p.1 < cfg.hier.numberOfGroups.toNat ∧ p.2 < (cfg.hier.groups p.1).numSlaveDevices.toNat}

def Config.slaveId (cfg : Config) (p : Nat × Nat) : IpAddr :=
  ((cfg.hier.groups p.1).slaveDevices p.2).slaveId

theorem clmValidateConfigDuplicates_injOn (cfg : Config) :
    clmValidateConfigDuplicates cfg = true ↔ Set.InjOn cfg.slaveId cfg.devices := by
  rw [clmValidateConfigDuplicates_iff]
  constructor
  · rintro h ⟨g, d⟩ ⟨hg, hd⟩ ⟨g', d'⟩ ⟨hg', hd'⟩ heq
    rcases h g hg d hd g' hg' d' hd' with ⟨rfl, rfl⟩ | hne
    · rfl
    · exact absurd heq hne
  · intro hinj gi hgi sdi hsdi innerGi hinnerGi innerSdi hinnerSdi
    by_cases hsame : innerGi = gi ∧ innerSdi = sdi
    · exact .inl hsame
    · refine .inr fun heq => hsame ?_
      have hp : ((gi, sdi) : Nat × Nat) = (innerGi, innerSdi) :=
        hinj ⟨hgi, hsdi⟩ ⟨hinnerGi, hinnerSdi⟩ heq
      exact ⟨congrArg Prod.fst hp.symm, congrArg Prod.snd hp.symm⟩

/-- an address is found in its own group only -/
theorem ValidConfig.deviceIndex {o : Options} (vc : ValidConfig o) {g d g' : Nat}
    (hg : g < vc.numGroups) (hd : d < (vc.setting g).numSlaveDevices.toNat)
    (hg' : g' < vc.numGroups) :
    clmIefbCalcSlaveDeviceIndex (vc.setting g') ((vc.setting g).slaveDevices d).slaveId
      = if g' = g then some d else none := by
  by_cases hgg : g' = g
  · subst hgg
    rw [if_pos rfl, clmIefbCalcSlaveDeviceIndex_eq vc hg hd]
  · rw [if_neg hgg]
    cases hfind : clmIefbCalcSlaveDeviceIndex (vc.setting g')
        ((vc.setting g).slaveDevices d).slaveId with
    | none => rfl
    | some d' =>
      obtain ⟨hd', hid⟩ := clmIefbCalcSlaveDeviceIndex_some hfind
      exact absurd (vc.slaveId_inj hg' hd' hg hd hid).1 hgg

/-! ## soundness -/

structure ConfigSound (o : Options) (cfg : Config) : Prop where
  sums : ∀ g, g < cfg.hier.numberOfGroups.toNat →
    ∀ d, d < (cfg.hier.groups g).numSlaveDevices.toNat → SumsFit o cfg g d
  stations : ∀ g, g < cfg.hier.numberOfGroups.toNat → StationsSound o (cfg.hier.groups g)
  options : o.clmMaxOccupiedStationsPerGroup ≤ 16
  /-- no assertion fails while a group is initialised -/
  assertions : ∀ clm : ClmShared, clm.config = cfg → ∀ g, g < cfg.hier.numberOfGroups.toNat →
    ∀ gd, clmIefbReflectGroupParametersAsserted clm g gd
      = some (clmIefbReflectGroupParameters clm g gd)
  /-- and the list of slave ids is written inside the frame -/
  slaveIds : ∀ g, g < cfg.hier.numberOfGroups.toNat → ∀ ids k, (cfg.hier.groups g).total ≤ k →
    clmIefbInitialiseRequestSlaveIds (cfg.hier.groups g) ids k = ids k
  /-- the copies from a response, in every run -/
  copies : ∀ st : MasterStart o, st.vc.cfg = cfg → ∀ es g, g < cfg.hier.numberOfGroups.toNat →
    ∀ d, d < (cfg.hier.groups g).numSlaveDevices.toNat →
      CopiesInside o ((st.run es).1.groups g) d
        ((cfg.hier.groups g).slaveDevices d).numOccupiedStations
  responses : ∀ (c : Clm) dg remoteIp remotePort now r g d,
    clIefbParseCyclicResponse dg remoteIp remotePort now = .ok r →
      (checkResponse g d now r (c.scope g)).2 = true →
        r.firstRwr + 64 * ((c.setting g).slaveDevices d).numOccupiedStations.toNat ≤ r.firstRx
          ∧ r.firstRx + 8 * ((c.setting g).slaveDevices d).numOccupiedStations.toNat ≤ dg.len
  /-- the copies to the request, when the turn of a device comes at a link scan start -/
  scanStarts : ∀ st : MasterStart o, st.vc.cfg = cfg → ∀ es g start destIp destPort dg,
    .sendRequest g start destIp destPort dg ∈ (st.run es).2 →
      ∀ d, d < (cfg.hier.groups g).numSlaveDevices.toNat →
        CopiesInside o (scanStartRound (cfg.hier.groups g) g d start).1 d
          ((cfg.hier.groups g).slaveDevices d).numOccupiedStations
  deviceIndex : ∀ g, g < cfg.hier.numberOfGroups.toNat →
    ∀ d, d < (cfg.hier.groups g).numSlaveDevices.toNat →
      ∀ g', g' < cfg.hier.numberOfGroups.toNat →
        clmIefbCalcSlaveDeviceIndex (cfg.hier.groups g')
            ((cfg.hier.groups g).slaveDevices d).slaveId
          = if g' = g then some d else none

namespace MasterStart
variable {o : Options} (st : MasterStart o)

theorem copiesInside (es : List Event) {g : Nat} (hg : g < st.vc.numGroups) {d : Nat}
    (hd : d < (st.vc.setting g).numSlaveDevices.toNat) :
    CopiesInside o ((st.run es).1.groups g) d
      ((st.vc.setting g).slaveDevices d).numOccupiedStations := by
  have hinv := st.group_groupInv es hg
  exact (st.vc.group hg).copiesInside hinv.layout hd (hinv.station d hd)

theorem sendRequest_copiesInside {es : List Event} {g : Nat} {start : GroupData} {destIp : IpAddr}
    {destPort : UInt16} {dg : Datagram}
    (hmem : .sendRequest g start destIp destPort dg ∈ (st.run es).2) {d : Nat}
    (hd : d < (st.vc.setting g).numSlaveDevices.toNat) :
    CopiesInside o (scanStartRound (st.vc.setting g) g d start).1 d
      ((st.vc.setting g).slaveDevices d).numOccupiedStations := by
  have hv := st.vc.group (st.mem_ofGroup rfl hmem).1
  refine st.run_request (A := fun _ _ _ => True) (I := fun _ => True)
    (P := fun start _ => CopiesInside o (scanStartRound (st.vc.setting g) g d start).1 d
      ((st.vc.setting g).slaveDevices d).numOccupiedStations)
    (fun _ _ => trivial) (fun _ _ _ _ _ _ => trivial) ?_
    (Machine.Steps.of_all master (fun _ _ _ _ _ => trivial) _ _) hmem
  intro now gd gd' hinv _ hs _
  -- before its turn the device is as it was when the link scan started
  have hstates : ∀ e, e < (st.vc.setting g).numSlaveDevices.toNat →
      (gd.scanning.slaveDevices e).deviceState = .listen
        ∨ (gd.scanning.slaveDevices e).deviceState = .cyclicSent := by
    intro e he
    have hphase := hinv.phase e he
    rw [hs] at hphase
    exact hphase.imp_right And.left
  have hstation : ∀ e, e < (st.vc.setting g).numSlaveDevices.toNat →
      (gd.scanning.slaveDevices e).slaveStationNo = UInt16.ofNat ((st.vc.setting g).pos e + 1) :=
    hinv.station
  have hround := scanStartRound_spec hv (g := g) hstation hstates (Nat.le_of_lt hd)
  have hlay := hinv.layout
  refine hv.copiesInside ⟨?_, ?_, ?_, ?_⟩ hd ?_
  · exact hround.rest.len.trans hlay.len
  · exact hround.rest.firstSlaveId.trans hlay.firstSlaveId
  · exact hround.rest.firstRww.trans hlay.firstRww
  · exact hround.rest.firstRy.trans hlay.firstRy
  · rw [(hround.untouched d (Nat.le_refl d) hd).1]
    exact hinv.station d hd

end MasterStart

/-- **What the two validation functions guarantee.** -/
theorem clmValidateConfig_sound {o : Options} (cfg : Config) (hvalid : clmValidateConfig o cfg = true) :
    (clmValidateConfigDuplicates cfg = true ↔ Set.InjOn cfg.slaveId cfg.devices)
      ∧ (clmValidateConfigDuplicates cfg = true → ConfigSound o cfg) := by
  refine ⟨clmValidateConfigDuplicates_injOn cfg, fun hdup => ?_⟩
  have hspec := clmValidateConfig_spec hvalid
  let vc : ValidConfig o := ⟨cfg, hvalid, hdup⟩
  refine ⟨fun g hg d hd => hspec.sumsFit hg hd, fun g hg => (hspec.group g hg).stationsSound,
    o.clm_le, ?_, fun g _ ids k hk => clmIefbInitialiseRequestSlaveIds_out _ ids hk, ?_,
    fun c dg remoteIp remotePort now r g d hr hcheck => ?_, ?_,
    fun g hg d hd g' hg' => vc.deviceIndex hg hd hg'⟩
  · rintro clm rfl g hg gd
    exact (hspec.group g hg).reflectGroupParameters gd
  · rintro st rfl es g hg d hd
    exact st.copiesInside es hg hd
  · -- an accepted response has as many stations as its device
    have hpassed := (checkResponse_spec g d now r (c.scope g)).2.symm.trans hcheck
    have hnum : r.numberOfOccupied = ((c.setting g).slaveDevices d).numOccupiedStations :=
      (checkDevice_passed hpassed).stations
    rw [← hnum]
    exact clIefbParseCyclicResponse_inside hr
  · rintro st rfl es g start destIp destPort dg hmem d hd
    exact st.sendRequest_copiesInside hmem hd

/-- one group with two devices -/
theorem clmValidateConfig_sound_example :
    clmValidateConfig exampleOptions (exampleConfig true false) = true
      ∧ ((clmValidateConfigDuplicates (exampleConfig true false) = true
          ↔ Set.InjOn (exampleConfig true false).slaveId (exampleConfig true false).devices)
        ∧ (clmValidateConfigDuplicates (exampleConfig true false) = true →
          ConfigSound exampleOptions (exampleConfig true false))) :=
  ⟨by decide, clmValidateConfig_sound (exampleConfig true false) (by decide)⟩

end CLink
