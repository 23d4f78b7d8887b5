import CLink.Master.Init
import CLink.Slave.State

/-!
# Access of the applications to the cyclic data

The getters of `clm_iefb.c` and `cls_iefb.c`.  A failing `CC_ASSERT` is `none`.

* `areaBitBelow`, `areaWordBelow`     the bit or register of a number below the areas of a device;
* `firstDeviceArea`                   the areas of a device in the memory of its group;
* `firstDeviceArea_eq`                in every run they start at the position of the device;
* `clmIefbGetRxBit_eq` and its siblings   what the getters of the master read in every run.
-/

namespace CLink
open Loop

/-! ## numbers -/

/-- the bit `number` of `n` areas -/
def areaBitBelow (n : UInt16) (areas : Nat → BitArea) (number : UInt16) : Option Bool :=
  if ¬ (clIefbBitCalculateAreanumber number).1 < n then none else some (areaBit areas number)

/-- the register `number` of `n` areas -/
def areaWordBelow (n : UInt16) (areas : Nat → WordArea) (number : UInt16) : Option UInt16 :=
  if ¬ (clIefbRegisterCalculateAreanumber number).1 < n then none
  else some (areaWord areas number)

section
variable {n number : UInt16}

theorem areaBitBelow_eq (h : number.toNat < 64 * n.toNat) (areas : Nat → BitArea) :
    areaBitBelow n areas number = some (areaBit areas number) := by
  unfold areaBitBelow
  rw [if_neg (not_not.mpr (UInt16.lt_iff_toNat_lt.mpr (bitArea_lt h)))]

theorem areaWordBelow_eq (h : number.toNat < 32 * n.toNat) (areas : Nat → WordArea) :
    areaWordBelow n areas number = some (areaWord areas number) := by
  unfold areaWordBelow
  rw [if_neg (not_not.mpr (UInt16.lt_iff_toNat_lt.mpr (wordArea_lt h)))]

end

/-! ## the slave -/

def clsIefbGetRxBit (c : Cls) (number : UInt16) : Option Bool :=
  areaBitBelow c.config.numOccupiedStations c.cciefbRespFrameNormal.rx number

def clsIefbGetRyBit (c : Cls) (number : UInt16) : Option Bool :=
  areaBitBelow c.config.numOccupiedStations c.cyclicDataArea.ry number

def clsIefbGetRwrValue (c : Cls) (number : UInt16) : Option UInt16 :=
  areaWordBelow c.config.numOccupiedStations c.cciefbRespFrameNormal.rwr number

def clsIefbGetRwwValue (c : Cls) (number : UInt16) : Option UInt16 :=
  areaWordBelow c.config.numOccupiedStations c.cyclicDataArea.rww number

/-! ## the master -/

/-- the number of occupied stations and the position of a device, `(0, 0)` on failure -/
def clmIefbGetOccupiedAndPosition (c : Clm) (groupIndex slaveDeviceIndex : Nat) : UInt16 × UInt16 :=
  if groupIndex ≥ c.numGroups then (0, 0)
  else
    let groupSetting := c.shared.config.hier.groups groupIndex
    if slaveDeviceIndex ≥ groupSetting.numSlaveDevices.toNat then (0, 0)
    else
      ((groupSetting.slaveDevices slaveDeviceIndex).numOccupiedStations,
        ((c.groups groupIndex).slaveDevices slaveDeviceIndex).slaveStationNo - 1)

/-- the number of occupied stations of a device and its areas, `none` is `NULL` -/
def firstDeviceArea {α : Type} (areas : MemoryArea → Nat → α) (c : Clm)
    (groupIndex slaveDeviceIndex : Nat) : Option (UInt16 × (Nat → α)) :=
  let occupied := (clmIefbGetOccupiedAndPosition c groupIndex slaveDeviceIndex).1
  let pos := (clmIefbGetOccupiedAndPosition c groupIndex slaveDeviceIndex).2
  if occupied = 0 then none
  else some (occupied, fun k => areas (c.groups groupIndex).memoryArea (pos.toNat + k))

def clmIefbGetFirstDeviceRxArea := firstDeviceArea MemoryArea.rx
def clmIefbGetFirstDeviceRyArea := firstDeviceArea MemoryArea.ry
def clmIefbGetFirstDeviceRwrArea := firstDeviceArea MemoryArea.rwr
def clmIefbGetFirstDeviceRwwArea := firstDeviceArea MemoryArea.rww

def clmIefbGetRxBit (c : Clm) (groupIndex slaveDeviceIndex : Nat) (number : UInt16) : Option Bool :=
  (clmIefbGetFirstDeviceRxArea c groupIndex slaveDeviceIndex).bind
    (fun area => areaBitBelow area.1 area.2 number)

def clmIefbGetRyBit (c : Clm) (groupIndex slaveDeviceIndex : Nat) (number : UInt16) : Option Bool :=
  (clmIefbGetFirstDeviceRyArea c groupIndex slaveDeviceIndex).bind
    (fun area => areaBitBelow area.1 area.2 number)

def clmIefbGetRwrValue (c : Clm) (groupIndex slaveDeviceIndex : Nat) (number : UInt16) :
    Option UInt16 :=
  (clmIefbGetFirstDeviceRwrArea c groupIndex slaveDeviceIndex).bind
    (fun area => areaWordBelow area.1 area.2 number)

def clmIefbGetRwwValue (c : Clm) (groupIndex slaveDeviceIndex : Nat) (number : UInt16) :
    Option UInt16 :=
  (clmIefbGetFirstDeviceRwwArea c groupIndex slaveDeviceIndex).bind
    (fun area => areaWordBelow area.1 area.2 number)

/-- a device of the configuration with its station number -/
structure Placed (cfg : Config) (c : Clm) (g d : Nat) : Prop where
  config : c.shared.config = cfg
  group : g < cfg.hier.numberOfGroups.toNat
  device : d < (cfg.hier.groups g).numSlaveDevices.toNat
  occupied : 1 ≤ (cfg.hier.groups g).num d
  pos : (cfg.hier.groups g).pos d < 16
  station : ((c.groups g).slaveDevices d).slaveStationNo
    = UInt16.ofNat ((cfg.hier.groups g).pos d + 1)

theorem MasterStart.run_placed {o : Options} (st : MasterStart o) (es : List Event) {g d : Nat}
    (hg : g < st.vc.numGroups) (hd : d < (st.vc.setting g).numSlaveDevices.toNat) :
    Placed st.vc.cfg (st.run es).1 g d := by
  have hv := st.vc.group hg
  have hend := (st.vc.setting g).pos_add_le hd
  have htotal := hv.total_le
  have hnum := hv.num_pos hd
  have hpos : (st.vc.setting g).pos d < 16 := by omega
  exact ⟨(st.run_config es).1, hg, hd, hnum, hpos, (st.group_groupInv es hg).station d hd⟩

section
variable {cfg : Config} {c : Clm} {g d : Nat} (h : Placed cfg c g d)
include h

theorem firstDeviceArea_eq {α : Type} (areas : MemoryArea → Nat → α) :
    firstDeviceArea areas c g d
      = some (((cfg.hier.groups g).slaveDevices d).numOccupiedStations,
          fun k => areas (c.groups g).memoryArea ((cfg.hier.groups g).pos d + k)) := by
  have hpos := h.pos
  have hoccupied : 1 ≤ ((cfg.hier.groups g).slaveDevices d).numOccupiedStations.toNat := h.occupied
  have hg : ¬ g ≥ c.numGroups := by
    rw [Clm.numGroups, h.config]
    exact not_le.mpr h.group
  have hne : ¬ ((cfg.hier.groups g).slaveDevices d).numOccupiedStations = 0 := by
    intro h0
    rw [h0] at hoccupied
    exact absurd hoccupied (by decide)
  have hposition : (UInt16.ofNat ((cfg.hier.groups g).pos d + 1) - 1).toNat
      = (cfg.hier.groups g).pos d := by
    rw [UInt16.ofNat_add]
    show (UInt16.ofNat ((cfg.hier.groups g).pos d) + 1 - 1).toNat = _
    rw [UInt16.add_sub_cancel, UInt16.toNat_ofNat']
    omega
  unfold firstDeviceArea clmIefbGetOccupiedAndPosition
  simp only [if_neg hg, h.config, if_neg (not_le.mpr h.device), if_neg hne, h.station, hposition]

theorem clmIefbGetRxBit_eq {number : UInt16} (hn : number.toNat < 64 * (cfg.hier.groups g).num d) :
    clmIefbGetRxBit c g d number
      = some (areaBit (fun k => (c.groups g).memoryArea.rx ((cfg.hier.groups g).pos d + k))
          number) := by
  unfold clmIefbGetRxBit clmIefbGetFirstDeviceRxArea
  rw [firstDeviceArea_eq h]
  exact areaBitBelow_eq hn _

theorem clmIefbGetRyBit_eq {number : UInt16} (hn : number.toNat < 64 * (cfg.hier.groups g).num d) :
    clmIefbGetRyBit c g d number
      = some (areaBit (fun k => (c.groups g).memoryArea.ry ((cfg.hier.groups g).pos d + k))
          number) := by
  unfold clmIefbGetRyBit clmIefbGetFirstDeviceRyArea
  rw [firstDeviceArea_eq h]
  exact areaBitBelow_eq hn _

theorem clmIefbGetRwrValue_eq {number : UInt16}
    (hn : number.toNat < 32 * (cfg.hier.groups g).num d) :
    clmIefbGetRwrValue c g d number
      = some (areaWord (fun k => (c.groups g).memoryArea.rwr ((cfg.hier.groups g).pos d + k))
          number) := by
  unfold clmIefbGetRwrValue clmIefbGetFirstDeviceRwrArea
  rw [firstDeviceArea_eq h]
  exact areaWordBelow_eq hn _

theorem clmIefbGetRwwValue_eq {number : UInt16}
    (hn : number.toNat < 32 * (cfg.hier.groups g).num d) :
    clmIefbGetRwwValue c g d number
      = some (areaWord (fun k => (c.groups g).memoryArea.rww ((cfg.hier.groups g).pos d + k))
          number) := by
  unfold clmIefbGetRwwValue clmIefbGetFirstDeviceRwwArea
  rw [firstDeviceArea_eq h]
  exact areaWordBelow_eq hn _

end

end CLink
