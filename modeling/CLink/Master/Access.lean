import CLink.EndToEnd.Access
import CLink.Lib.Cells

/-!
# The laws of the application's access to the cyclic data

`clm_iefb_set_ry_bit` and `clm_iefb_set_rww_value` against the four getters, for every content of the
memory areas.

* `ryBits`, `rwwWords`      the RY bits and the RWw registers of the master as independent cells;
* `bitCell`, `wordCell`     the cell of a number of a device, injective over all devices of a group;
* `clmIefbGetRyBit_cells`, `clmIefbSetRyBit_cells` and their siblings   the functions of the source
                            get and set these cells;
* `clmIefbAccess_laws`      reading back, frame, order of writes, and the areas of other devices.
-/

namespace CLink
open Loop

/-! ## the setters -/

def Clm.modifyMemoryArea (c : Clm) (g : Nat) (f : MemoryArea → MemoryArea) : Clm :=
  let gd := c.groups g
  { c with groups := Function.update c.groups g { gd with memoryArea := f gd.memoryArea } }

/-- `none` is a failing `CC_ASSERT` -/
def clmIefbSetRyBit (c : Clm) (groupIndex slaveDeviceIndex : Nat) (number : UInt16) (value : Bool) :
    Option Clm :=
  let p := clIefbBitCalculateAreanumber number
  let occupied := (clmIefbGetOccupiedAndPosition c groupIndex slaveDeviceIndex).1
  let pos := (clmIefbGetOccupiedAndPosition c groupIndex slaveDeviceIndex).2
  if occupied = 0 then none
  else if ¬ p.1 < occupied then none
  else
    some (c.modifyMemoryArea groupIndex fun area =>
      let entry := pos.toNat + p.1.toNat
      let byteInArea := Fin.ofNat 8 p.2.1.toNat
      let byte := area.ry entry byteInArea
      let byte := if value then byte ||| p.2.2 else byte &&& ~~~ p.2.2
      { area with
        ry := Function.update area.ry entry (Function.update (area.ry entry) byteInArea byte) })

def clmIefbSetRwwValue (c : Clm) (groupIndex slaveDeviceIndex : Nat) (number value : UInt16) :
    Option Clm :=
  let p := clIefbRegisterCalculateAreanumber number
  let occupied := (clmIefbGetOccupiedAndPosition c groupIndex slaveDeviceIndex).1
  let pos := (clmIefbGetOccupiedAndPosition c groupIndex slaveDeviceIndex).2
  if occupied = 0 then none
  else if ¬ p.1 < occupied then none
  else
    some (c.modifyMemoryArea groupIndex fun area =>
      let entry := pos.toNat + p.1.toNat
      let registerInArea := Fin.ofNat 32 p.2.toNat
      { area with
        rww := Function.update area.rww entry
          (Function.update (area.rww entry) registerInArea value) })

/-! ## cells -/

section
variable {α β : Type}

/-- cells of a memory area, in every group of the master -/
def memoryCells (C : Cells MemoryArea α β) : Cells Clm (Nat × α) β :=
  .field Clm.groups (fun c groups => { c with groups := groups }) (fun _ _ => rfl) (fun _ _ _ => rfl)
    (.array (.field GroupData.memoryArea (fun gd area => { gd with memoryArea := area })
      (fun _ _ => rfl) (fun _ _ _ => rfl) C))

end

def ryArea : Cells MemoryArea (Nat × Fin 8 × Fin 8) Bool :=
  .field MemoryArea.ry (fun area ry => { area with ry := ry }) (fun _ _ => rfl) (fun _ _ _ => rfl)
    (.array (.array .bits))

def rwwArea : Cells MemoryArea (Nat × Fin 32) UInt16 :=
  .field MemoryArea.rww (fun area rww => { area with rww := rww }) (fun _ _ => rfl)
    (fun _ _ _ => rfl) (.array .entries)

def ryBits : Cells Clm (Nat × Nat × Fin 8 × Fin 8) Bool := memoryCells ryArea
def rwwWords : Cells Clm (Nat × Nat × Fin 32) UInt16 := memoryCells rwwArea

theorem ryBits_rwwWords_independent : Cells.Independent ryBits rwwWords := by
  have harea : Cells.Independent ryArea rwwArea := fun _ _ _ _ _ => rfl
  unfold ryBits rwwWords memoryCells
  apply Cells.Independent.field
  apply Cells.Independent.array
  apply Cells.Independent.field
  exact harea

/-! ## numbers -/

/-- the cell of a bit number: area, byte in the area and bit in the byte -/
def bitCell (gs : GroupSetting) (g d : Nat) (number : UInt16) : Nat × Nat × Fin 8 × Fin 8 :=
  (g, gs.pos d + number.toNat / 64, Fin.ofNat 8 (number.toNat / 8), Fin.ofNat 8 number.toNat)

def wordCell (gs : GroupSetting) (g d : Nat) (number : UInt16) : Nat × Nat × Fin 32 :=
  (g, gs.pos d + number.toNat / 32, Fin.ofNat 32 number.toNat)

def BitInRange (cfg : Config) (g d : Nat) (number : UInt16) : Prop :=
  g < cfg.hier.numberOfGroups.toNat ∧ d < (cfg.hier.groups g).numSlaveDevices.toNat
    ∧ number.toNat < 64 * (cfg.hier.groups g).num d

def WordInRange (cfg : Config) (g d : Nat) (number : UInt16) : Prop :=
  g < cfg.hier.numberOfGroups.toNat ∧ d < (cfg.hier.groups g).numSlaveDevices.toNat
    ∧ number.toNat < 32 * (cfg.hier.groups g).num d

/-- areas of different devices are apart -/
theorem GroupSetting.entry_inj {gs : GroupSetting} {d d' i j : Nat} (hi : i < gs.num d)
    (hj : j < gs.num d') (h : gs.pos d + i = gs.pos d' + j) : d = d' ∧ i = j := by
  have hdd : d = d' := by
    by_contra hne
    rcases Nat.lt_or_gt_of_ne hne with hlt | hlt
    · have hapart := gs.pos_add_le hlt
      omega
    · have hapart := gs.pos_add_le hlt
      omega
  subst hdd
  exact ⟨rfl, by omega⟩

theorem bitCell_inj {cfg : Config} {g d g' d' : Nat} {number number' : UInt16}
    (hr : BitInRange cfg g d number) (hr' : BitInRange cfg g' d' number')
    (h : bitCell (cfg.hier.groups g) g d number = bitCell (cfg.hier.groups g') g' d' number') :
    (g, d, number) = (g', d', number') := by
  obtain ⟨hg, hentry, hbyte, hbit⟩ : _ ∧ _ ∧ _ ∧ _ := by
    simpa only [bitCell, Prod.mk.injEq] using h
  subst hg
  have hn := hr.2.2
  have hn' := hr'.2.2
  obtain ⟨rfl, harea⟩ := GroupSetting.entry_inj (by omega) (by omega) hentry
  have hbyte' : number.toNat / 8 % 8 = number'.toNat / 8 % 8 := congrArg Fin.val hbyte
  have hbit' : number.toNat % 8 = number'.toNat % 8 := congrArg Fin.val hbit
  have hnumber : number = number' := UInt16.toNat_inj.mp (by omega)
  rw [hnumber]

theorem wordCell_inj {cfg : Config} {g d g' d' : Nat} {number number' : UInt16}
    (hr : WordInRange cfg g d number) (hr' : WordInRange cfg g' d' number')
    (h : wordCell (cfg.hier.groups g) g d number = wordCell (cfg.hier.groups g') g' d' number') :
    (g, d, number) = (g', d', number') := by
  obtain ⟨hg, hentry, hword⟩ : _ ∧ _ ∧ _ := by
    simpa only [wordCell, Prod.mk.injEq] using h
  subst hg
  have hn := hr.2.2
  have hn' := hr'.2.2
  obtain ⟨rfl, harea⟩ := GroupSetting.entry_inj (by omega) (by omega) hentry
  have hword' : number.toNat % 32 = number'.toNat % 32 := congrArg Fin.val hword
  have hnumber : number = number' := UInt16.toNat_inj.mp (by omega)
  rw [hnumber]

/-- the shifts and masks of the source -/
theorem clIefbBitCalculateAreanumber_eq (number : UInt16) :
    (clIefbBitCalculateAreanumber number).1.toNat = number.toNat / 64
      ∧ Fin.ofNat 8 (clIefbBitCalculateAreanumber number).2.1.toNat = Fin.ofNat 8 (number.toNat / 8)
      ∧ (clIefbBitCalculateAreanumber number).2.2 = Cells.mask (Fin.ofNat 8 number.toNat) := by
  have hlow : (number &&& 7).toNat = number.toNat % 8 := by
    rw [UInt16.toNat_and]
    exact Nat.and_two_pow_sub_one_eq_mod number.toNat 3
  refine ⟨?_, ?_, ?_⟩
  · simp [clIefbBitCalculateAreanumber, Nat.shiftRight_eq_div_pow]
  · apply Fin.ext
    have hbyte : ((number >>> 3) &&& 7).toNat = number.toNat / 8 % 8 := by
      rw [UInt16.toNat_and]
      have h3 : (number >>> 3).toNat = number.toNat / 8 := by simp [Nat.shiftRight_eq_div_pow]
      rw [h3]
      exact Nat.and_two_pow_sub_one_eq_mod (number.toNat / 8) 3
    show ((number >>> 3) &&& 7).toNat % 8 = number.toNat / 8 % 8
    rw [hbyte, Nat.mod_mod]
  · have hcases : ∀ i : Fin 8, (1 <<< UInt16.ofNat i).toUInt8 = Cells.mask i := by decide
    have hnum : number &&& 7 = UInt16.ofNat (Fin.ofNat 8 number.toNat) := by
      rw [← UInt16.toNat_inj, hlow, UInt16.toNat_ofNat']
      show number.toNat % 8 = number.toNat % 8 % 2^16
      omega
    show (1 <<< (number &&& 7)).toUInt8 = _
    rw [hnum]
    exact hcases _

theorem clIefbRegisterCalculateAreanumber_eq (number : UInt16) :
    (clIefbRegisterCalculateAreanumber number).1.toNat = number.toNat / 32
      ∧ Fin.ofNat 32 (clIefbRegisterCalculateAreanumber number).2.toNat
        = Fin.ofNat 32 number.toNat := by
  refine ⟨?_, ?_⟩
  · simp [clIefbRegisterCalculateAreanumber, Nat.shiftRight_eq_div_pow]
  · apply Fin.ext
    have hlow : (number &&& 0x1F).toNat = number.toNat % 32 := by
      rw [UInt16.toNat_and]
      exact Nat.and_two_pow_sub_one_eq_mod number.toNat 5
    show (number &&& 0x1F).toNat % 32 = number.toNat % 32
    rw [hlow, Nat.mod_mod]

/-! ## configured masters -/

/-- the configuration and the station numbers of an initialised master -/
structure Configured (cfg : Config) (c : Clm) : Prop where
  config : c.shared.config = cfg
  placed : ∀ g, g < cfg.hier.numberOfGroups.toNat →
    ∀ d, d < (cfg.hier.groups g).numSlaveDevices.toNat → Placed cfg c g d

/-- other contents of the memory areas -/
def Clm.withMemory (c : Clm) (areas : Nat → MemoryArea) : Clm :=
  { c with groups := fun g => { c.groups g with memoryArea := areas g } }

theorem MasterStart.run_configured {o : Options} (st : MasterStart o) (es : List Event)
    (areas : Nat → MemoryArea) : Configured st.vc.cfg ((st.run es).1.withMemory areas) := by
  refine ⟨(st.run_config es).1, fun g hg d hd => ?_⟩
  obtain ⟨hconfig, hgroup, hdevice, hoccupied, hpos, hstation⟩ := st.run_placed es hg hd
  exact ⟨hconfig, hgroup, hdevice, hoccupied, hpos, hstation⟩

theorem modifyMemoryArea_slaveDevices (c : Clm) (g : Nat) (f : MemoryArea → MemoryArea) (g' : Nat) :
    ((c.modifyMemoryArea g f).groups g').slaveDevices = (c.groups g').slaveDevices := by
  by_cases h : g' = g
  · subst h
    simp only [Clm.modifyMemoryArea, Function.update_self]
  · simp only [Clm.modifyMemoryArea, Function.update_of_ne h]

theorem modifyMemoryArea_memoryArea (c : Clm) (g : Nat) (f : MemoryArea → MemoryArea) (g' : Nat) :
    ((c.modifyMemoryArea g f).groups g').memoryArea
      = if g' = g then f (c.groups g').memoryArea else (c.groups g').memoryArea := by
  by_cases h : g' = g
  · subst h
    simp only [Clm.modifyMemoryArea, Function.update_self, if_true]
  · simp only [Clm.modifyMemoryArea, Function.update_of_ne h, if_neg h]

section
variable {cfg : Config} {c : Clm} (hc : Configured cfg c)
include hc

theorem Configured.modifyMemoryArea (g : Nat) (f : MemoryArea → MemoryArea) :
    Configured cfg (c.modifyMemoryArea g f) := by
  refine ⟨hc.config, fun g' hg d hd => ?_⟩
  obtain ⟨hconfig, hgroup, hdevice, hoccupied, hpos, hstation⟩ := hc.placed g' hg d hd
  refine ⟨hconfig, hgroup, hdevice, hoccupied, hpos, ?_⟩
  rw [modifyMemoryArea_slaveDevices]
  exact hstation

/-- a device that does not exist has no stations -/
theorem Configured.occupied_eq_zero {g d : Nat} (h : ¬ (g < cfg.hier.numberOfGroups.toNat
    ∧ d < (cfg.hier.groups g).numSlaveDevices.toNat)) :
    (clmIefbGetOccupiedAndPosition c g d).1 = 0 := by
  unfold clmIefbGetOccupiedAndPosition
  rw [Clm.numGroups, hc.config]
  split
  · rfl
  · rename_i hg
    simp only
    split
    · rfl
    · rename_i hd
      exact absurd ⟨not_le.mp hg, not_le.mp hd⟩ h

theorem Configured.firstDeviceArea_none {α : Type} (areas : MemoryArea → Nat → α) {g d : Nat}
    (h : ¬ (g < cfg.hier.numberOfGroups.toNat ∧ d < (cfg.hier.groups g).numSlaveDevices.toNat)) :
    firstDeviceArea areas c g d = none := by
  unfold firstDeviceArea
  simp only [hc.occupied_eq_zero h, if_true]

/-- a device that exists -/
theorem Configured.firstDeviceArea_some {α : Type} {areas : MemoryArea → Nat → α} {g d : Nat}
    {area : UInt16 × (Nat → α)} (h : firstDeviceArea areas c g d = some area) :
    Placed cfg c g d := by
  by_contra hnot
  rw [hc.firstDeviceArea_none areas fun hin => hnot (hc.placed g hin.1 d hin.2)] at h
  cases h

end

/-! ## the functions of the source as cells -/

section
variable {n number : UInt16}

theorem areaBitBelow_none (h : ¬ number.toNat < 64 * n.toNat) (areas : Nat → BitArea) :
    areaBitBelow n areas number = none := by
  unfold areaBitBelow
  rw [if_pos]
  rw [UInt16.lt_iff_toNat_lt, (clIefbBitCalculateAreanumber_eq number).1]
  omega

theorem areaWordBelow_none (h : ¬ number.toNat < 32 * n.toNat) (areas : Nat → WordArea) :
    areaWordBelow n areas number = none := by
  unfold areaWordBelow
  rw [if_pos]
  rw [UInt16.lt_iff_toNat_lt, (clIefbRegisterCalculateAreanumber_eq number).1]
  omega

end

section
variable {cfg : Config} {c : Clm} (hc : Configured cfg c) {g d : Nat} {number : UInt16}
include hc

theorem clmIefbGetRyBit_cells (hr : BitInRange cfg g d number) :
    clmIefbGetRyBit c g d number = some (ryBits.get (bitCell (cfg.hier.groups g) g d number) c) := by
  obtain ⟨hg, hd, hn⟩ := hr
  obtain ⟨harea, hbyte, hmask⟩ := clIefbBitCalculateAreanumber_eq number
  rw [clmIefbGetRyBit_eq (hc.placed g hg d hd) hn, areaBit]
  simp only [harea, hbyte, hmask]
  rfl

theorem clmIefbGetRyBit_none (hr : ¬ BitInRange cfg g d number) :
    clmIefbGetRyBit c g d number = none := by
  unfold clmIefbGetRyBit clmIefbGetFirstDeviceRyArea
  by_cases hin : g < cfg.hier.numberOfGroups.toNat
      ∧ d < (cfg.hier.groups g).numSlaveDevices.toNat
  · rw [firstDeviceArea_eq (hc.placed g hin.1 d hin.2)]
    exact areaBitBelow_none (fun hn => hr ⟨hin.1, hin.2, hn⟩) _
  · rw [hc.firstDeviceArea_none _ hin]
    rfl

theorem clmIefbGetRwwValue_cells (hr : WordInRange cfg g d number) :
    clmIefbGetRwwValue c g d number
      = some (rwwWords.get (wordCell (cfg.hier.groups g) g d number) c) := by
  obtain ⟨hg, hd, hn⟩ := hr
  obtain ⟨harea, hword⟩ := clIefbRegisterCalculateAreanumber_eq number
  rw [clmIefbGetRwwValue_eq (hc.placed g hg d hd) hn, areaWord]
  simp only [harea, hword]
  rfl

theorem clmIefbGetRwwValue_none (hr : ¬ WordInRange cfg g d number) :
    clmIefbGetRwwValue c g d number = none := by
  unfold clmIefbGetRwwValue clmIefbGetFirstDeviceRwwArea
  by_cases hin : g < cfg.hier.numberOfGroups.toNat
      ∧ d < (cfg.hier.groups g).numSlaveDevices.toNat
  · rw [firstDeviceArea_eq (hc.placed g hin.1 d hin.2)]
    exact areaWordBelow_none (fun hn => hr ⟨hin.1, hin.2, hn⟩) _
  · rw [hc.firstDeviceArea_none _ hin]
    rfl

/-- the occupied stations and the position of a device that exists -/
theorem Configured.occupiedAndPosition (hg : g < cfg.hier.numberOfGroups.toNat)
    (hd : d < (cfg.hier.groups g).numSlaveDevices.toNat) :
    (clmIefbGetOccupiedAndPosition c g d).1
        = ((cfg.hier.groups g).slaveDevices d).numOccupiedStations
      ∧ (clmIefbGetOccupiedAndPosition c g d).2.toNat = (cfg.hier.groups g).pos d
      ∧ (clmIefbGetOccupiedAndPosition c g d).1 ≠ 0 := by
  have hp := hc.placed g hg d hd
  have hpos := hp.pos
  have hoccupied : 1 ≤ ((cfg.hier.groups g).slaveDevices d).numOccupiedStations.toNat := hp.occupied
  have hgroup : ¬ g ≥ c.numGroups := by
    rw [Clm.numGroups, hp.config]
    exact not_le.mpr hg
  unfold clmIefbGetOccupiedAndPosition
  simp only [if_neg hgroup, hp.config, if_neg (not_le.mpr hd), hp.station]
  refine ⟨trivial, ?_, ?_⟩
  · rw [UInt16.ofNat_add, show UInt16.ofNat 1 = 1 from rfl, UInt16.add_sub_cancel,
      UInt16.toNat_ofNat']
    omega
  · rw [ne_eq, ← UInt16.toNat_inj, UInt16.toNat_zero]
    omega

theorem clmIefbSetRyBit_cells (hr : BitInRange cfg g d number) (value : Bool) :
    clmIefbSetRyBit c g d number value
      = some (ryBits.set (bitCell (cfg.hier.groups g) g d number) value c) := by
  obtain ⟨hg, hd, hn⟩ := hr
  obtain ⟨hoccupied, hpos, hne⟩ := hc.occupiedAndPosition hg hd
  obtain ⟨harea, hbyte, hmask⟩ := clIefbBitCalculateAreanumber_eq number
  have hbelow : (clIefbBitCalculateAreanumber number).1 < (clmIefbGetOccupiedAndPosition c g d).1 := by
    rw [hoccupied]
    exact UInt16.lt_iff_toNat_lt.mpr (bitArea_lt hn)
  unfold clmIefbSetRyBit
  simp only [if_neg hne, if_neg (not_not.mpr hbelow), hpos, harea, hbyte, hmask]
  rfl

theorem clmIefbSetRwwValue_cells (hr : WordInRange cfg g d number) (value : UInt16) :
    clmIefbSetRwwValue c g d number value
      = some (rwwWords.set (wordCell (cfg.hier.groups g) g d number) value c) := by
  obtain ⟨hg, hd, hn⟩ := hr
  obtain ⟨hoccupied, hpos, hne⟩ := hc.occupiedAndPosition hg hd
  obtain ⟨harea, hword⟩ := clIefbRegisterCalculateAreanumber_eq number
  have hbelow : (clIefbRegisterCalculateAreanumber number).1
      < (clmIefbGetOccupiedAndPosition c g d).1 := by
    rw [hoccupied]
    exact UInt16.lt_iff_toNat_lt.mpr (wordArea_lt hn)
  unfold clmIefbSetRwwValue
  simp only [if_neg hne, if_neg (not_not.mpr hbelow), hpos, harea, hword]
  rfl

end

/-! ## the laws -/

section
variable {β γ : Type} (get : Clm → Nat → Nat → UInt16 → Option β)
  (firstArea : Clm → Nat → Nat → Option (UInt16 × (Nat → γ)))

/-- every value that the getter reads is the same -/
def SameReads (c c' : Clm) : Prop := ∀ g d number, get c' g d number = get c g d number

/-- the getter only reads the areas of its device -/
def ReadsOwnArea : Prop := ∀ c c' g d number n areas areas', firstArea c g d = some (n, areas) →
  firstArea c' g d = some (n, areas') → (∀ k, k < n.toNat → areas' k = areas k) →
    get c' g d number = get c g d number

/-- one value of device `d` has been written -/
structure ValueWritten (c c' : Clm) (g d : Nat) (number : UInt16) (value : β) : Prop where
  self : get c' g d number = some value
  others : ∀ g' d' number', (g', d', number') ≠ (g, d, number) →
    get c' g' d' number' = get c g' d' number'
  /-- the areas of every other device -/
  areas : ∀ g' d', (g', d') ≠ (g, d) → ∀ n areas, firstArea c g' d' = some (n, areas) →
    ∃ areas', firstArea c' g' d' = some (n, areas') ∧ ∀ k, k < n.toNat → areas' k = areas k

end

/-- a call of a setter -/
inductive CyclicWrite where
  | ryBit (g d : Nat) (number : UInt16) (value : Bool)
  | rwwValue (g d : Nat) (number value : UInt16)

namespace CyclicWrite

def perform (c : Clm) : CyclicWrite → Option Clm
  | ryBit g d number value => clmIefbSetRyBit c g d number value
  | rwwValue g d number value => clmIefbSetRwwValue c g d number value

/-- what is written, a bit on the left and a register on the right -/
def address : CyclicWrite → (Nat × Nat × UInt16) ⊕ (Nat × Nat × UInt16)
  | ryBit g d number _ => .inl (g, d, number)
  | rwwValue g d number _ => .inr (g, d, number)

def InRange (cfg : Config) : CyclicWrite → Prop
  | ryBit g d number _ => BitInRange cfg g d number
  | rwwValue g d number _ => WordInRange cfg g d number

end CyclicWrite

structure AccessLaws (cfg : Config) (c : Clm) : Prop where
  ryBit : ∀ g d number value, BitInRange cfg g d number →
    ∃ c', clmIefbSetRyBit c g d number value = some c'
      ∧ ValueWritten clmIefbGetRyBit clmIefbGetFirstDeviceRyArea c c' g d number value
      ∧ SameReads clmIefbGetRwwValue c c' ∧ SameReads clmIefbGetRxBit c c'
      ∧ SameReads clmIefbGetRwrValue c c'
  rwwValue : ∀ g d number value, WordInRange cfg g d number →
    ∃ c', clmIefbSetRwwValue c g d number value = some c'
      ∧ ValueWritten clmIefbGetRwwValue clmIefbGetFirstDeviceRwwArea c c' g d number value
      ∧ SameReads clmIefbGetRyBit c c' ∧ SameReads clmIefbGetRxBit c c'
      ∧ SameReads clmIefbGetRwrValue c c'
  commute : ∀ w w' : CyclicWrite, w.InRange cfg → w'.InRange cfg → w.address ≠ w'.address →
    ∃ c', (w.perform c).bind w'.perform = some c' ∧ (w'.perform c).bind w.perform = some c'
  /-- every number in range can be read -/
  rxRead : ∀ g d number, BitInRange cfg g d number → ∃ v, clmIefbGetRxBit c g d number = some v
  ryRead : ∀ g d number, BitInRange cfg g d number → ∃ v, clmIefbGetRyBit c g d number = some v
  rwrRead : ∀ g d number, WordInRange cfg g d number →
    ∃ v, clmIefbGetRwrValue c g d number = some v
  rwwRead : ∀ g d number, WordInRange cfg g d number →
    ∃ v, clmIefbGetRwwValue c g d number = some v
  /-- from the areas of its own device -/
  rxArea : ReadsOwnArea clmIefbGetRxBit clmIefbGetFirstDeviceRxArea
  ryArea : ReadsOwnArea clmIefbGetRyBit clmIefbGetFirstDeviceRyArea
  rwrArea : ReadsOwnArea clmIefbGetRwrValue clmIefbGetFirstDeviceRwrArea
  rwwArea : ReadsOwnArea clmIefbGetRwwValue clmIefbGetFirstDeviceRwwArea

/-! ## reading -/

theorem areaBitBelow_congr {n : UInt16} {areas areas' : Nat → BitArea}
    (h : ∀ k, k < n.toNat → areas' k = areas k) (number : UInt16) :
    areaBitBelow n areas' number = areaBitBelow n areas number := by
  by_cases hn : number.toNat < 64 * n.toNat
  · rw [areaBitBelow_eq hn, areaBitBelow_eq hn, areaBit_congr h hn]
  · rw [areaBitBelow_none hn, areaBitBelow_none hn]

theorem areaWordBelow_congr {n : UInt16} {areas areas' : Nat → WordArea}
    (h : ∀ k, k < n.toNat → areas' k = areas k) (number : UInt16) :
    areaWordBelow n areas' number = areaWordBelow n areas number := by
  by_cases hn : number.toNat < 32 * n.toNat
  · rw [areaWordBelow_eq hn, areaWordBelow_eq hn, areaWord_congr h hn]
  · rw [areaWordBelow_none hn, areaWordBelow_none hn]

/-- a getter that reads below the areas of a device -/
theorem readsOwnArea_of_below {β γ : Type}
    {firstArea : Clm → Nat → Nat → Option (UInt16 × (Nat → γ))}
    {below : UInt16 → (Nat → γ) → UInt16 → Option β}
    (hbelow : ∀ {n areas areas'}, (∀ k, k < n.toNat → areas' k = areas k) → ∀ number,
      below n areas' number = below n areas number) :
    ReadsOwnArea (fun c g d number => (firstArea c g d).bind fun area => below area.1 area.2 number)
      firstArea := by
  intro c c' g d number n areas areas' h h' hsame
  simp only [h, h', Option.bind_some]
  exact hbelow hsame number

/-- a write to another field changes nothing that a getter reads -/
theorem sameReads_modify {β γ : Type} (areas : MemoryArea → Nat → γ) (f : MemoryArea → MemoryArea)
    (hf : ∀ m, areas (f m) = areas m) (below : UInt16 → (Nat → γ) → UInt16 → Option β) (c : Clm)
    (g : Nat) :
    SameReads (fun c g d number => (firstDeviceArea areas c g d).bind fun area =>
      below area.1 area.2 number) c (c.modifyMemoryArea g f) := by
  intro g' d number
  have hsame : areas ((c.modifyMemoryArea g f).groups g').memoryArea
      = areas (c.groups g').memoryArea := by
    rw [modifyMemoryArea_memoryArea]
    split
    · rw [hf]
    · rfl
  have hposition : clmIefbGetOccupiedAndPosition (c.modifyMemoryArea g f) g' d
      = clmIefbGetOccupiedAndPosition c g' d := by
    unfold clmIefbGetOccupiedAndPosition
    rw [modifyMemoryArea_slaveDevices]
    rfl
  unfold firstDeviceArea
  simp only [hposition, hsame]

/-! ## writing -/

section
variable {cfg : Config} {c : Clm} (hc : Configured cfg c)
include hc

/-- a write to one of the entries of device `d` leaves the areas of the others alone -/
theorem Configured.areas_modify {γ : Type} {areas : MemoryArea → Nat → γ}
    {f : MemoryArea → MemoryArea} {g d entry : Nat}
    (hentry : entry < (cfg.hier.groups g).num d)
    (hf : ∀ m k, k ≠ (cfg.hier.groups g).pos d + entry → areas (f m) k = areas m k) {g' d' : Nat}
    (hne : (g', d') ≠ (g, d)) {n : UInt16} {a : Nat → γ}
    (h : firstDeviceArea areas c g' d' = some (n, a)) :
    ∃ a', firstDeviceArea areas (c.modifyMemoryArea g f) g' d' = some (n, a')
      ∧ ∀ k, k < n.toNat → a' k = a k := by
  have hp := hc.firstDeviceArea_some h
  have hp' : Placed cfg (c.modifyMemoryArea g f) g' d' :=
    (hc.modifyMemoryArea g f).placed g' hp.group d' hp.device
  rw [firstDeviceArea_eq hp] at h
  obtain ⟨rfl, rfl⟩ : _ ∧ _ := Prod.ext_iff.mp (Option.some.inj h)
  refine ⟨_, firstDeviceArea_eq hp' areas, fun k hk => ?_⟩
  have hk' : k < (cfg.hier.groups g').num d' := hk
  simp only [modifyMemoryArea_memoryArea]
  split
  · rename_i hg
    subst hg
    refine hf _ _ fun heq => hne ?_
    rw [(GroupSetting.entry_inj hk' hentry heq).1]
  · rfl

/-- a setter that writes the cell of its number -/
theorem Configured.written {β γ α : Type} (C : Cells MemoryArea (Nat × α) β)
    (areas : MemoryArea → Nat → γ) (cell : Nat → Nat → UInt16 → Nat × α)
    (InRange : Nat → Nat → UInt16 → Prop) {get : Clm → Nat → Nat → UInt16 → Option β}
    (hin : ∀ {c}, Configured cfg c → ∀ {g d number}, InRange g d number →
      get c g d number = some ((memoryCells C).get (g, cell g d number) c))
    (hout : ∀ {c}, Configured cfg c → ∀ {g d number}, ¬ InRange g d number → get c g d number = none)
    (hinj : ∀ {g d number g' d' number'}, InRange g d number → InRange g' d' number' →
      (g, cell g d number) = (g', cell g' d' number') → (g, d, number) = (g', d', number'))
    (hentry : ∀ {g d number}, InRange g d number → ∃ entry, entry < (cfg.hier.groups g).num d
      ∧ ∀ value m k, k ≠ (cfg.hier.groups g).pos d + entry →
        areas (C.set (cell g d number) value m) k = areas m k)
    {g d : Nat} {number : UInt16} (hr : InRange g d number) (value : β) :
    ValueWritten get (firstDeviceArea areas) c
      ((memoryCells C).set (g, cell g d number) value c) g d number value := by
  have hc' : Configured cfg ((memoryCells C).set (g, cell g d number) value c) :=
    hc.modifyMemoryArea g (C.set (cell g d number) value)
  refine ⟨?_, fun g' d' number' hne => ?_, fun g' d' hne n a ha => ?_⟩
  · rw [hin hc' hr, (memoryCells C).get_set]
  · by_cases hr' : InRange g' d' number'
    · rw [hin hc' hr', hin hc hr', (memoryCells C).get_set_of_ne fun heq => hne (hinj hr' hr heq)]
    · rw [hout hc' hr', hout hc hr']
  · obtain ⟨entry, hlt, hkeep⟩ := hentry hr
    exact hc.areas_modify hlt (hkeep value) hne ha

theorem Configured.ryWritten {g d : Nat} {number : UInt16} (hr : BitInRange cfg g d number)
    (value : Bool) : ValueWritten clmIefbGetRyBit clmIefbGetFirstDeviceRyArea c
      (ryBits.set (bitCell (cfg.hier.groups g) g d number) value c) g d number value := by
  refine hc.written ryArea MemoryArea.ry
    (fun g d number => (bitCell (cfg.hier.groups g) g d number).2) (BitInRange cfg)
    (fun hc => clmIefbGetRyBit_cells hc) (fun hc => clmIefbGetRyBit_none hc) bitCell_inj ?_ hr value
  intro g d number hr
  have hn := hr.2.2
  refine ⟨number.toNat / 64, by omega, fun value m k hk => ?_⟩
  exact Cells.array_set_of_ne _ hk _ _ _

theorem Configured.rwwWritten {g d : Nat} {number : UInt16} (hr : WordInRange cfg g d number)
    (value : UInt16) : ValueWritten clmIefbGetRwwValue clmIefbGetFirstDeviceRwwArea c
      (rwwWords.set (wordCell (cfg.hier.groups g) g d number) value c) g d number value := by
  refine hc.written rwwArea MemoryArea.rww
    (fun g d number => (wordCell (cfg.hier.groups g) g d number).2) (WordInRange cfg)
    (fun hc => clmIefbGetRwwValue_cells hc) (fun hc => clmIefbGetRwwValue_none hc) wordCell_inj ?_ hr
    value
  intro g d number hr
  have hn := hr.2.2
  refine ⟨number.toNat / 32, by omega, fun value m k hk => ?_⟩
  exact Cells.array_set_of_ne _ hk _ _ _

/-- writes to different addresses in either order -/
theorem Configured.commute {w w' : CyclicWrite} (hr : w.InRange cfg) (hr' : w'.InRange cfg)
    (hne : w.address ≠ w'.address) :
    ∃ c', (w.perform c).bind w'.perform = some c' ∧ (w'.perform c).bind w.perform = some c' := by
  -- every write sets the cell of its number, also after the other one
  have hry : ∀ {g d number} value, BitInRange cfg g d number → ∀ c', Configured cfg c' →
      (CyclicWrite.ryBit g d number value).perform c'
        = some (ryBits.set (bitCell (cfg.hier.groups g) g d number) value c') :=
    fun value h c' hc' => clmIefbSetRyBit_cells hc' h value
  have hrww : ∀ {g d number} value, WordInRange cfg g d number → ∀ c', Configured cfg c' →
      (CyclicWrite.rwwValue g d number value).perform c'
        = some (rwwWords.set (wordCell (cfg.hier.groups g) g d number) value c') :=
    fun value h c' hc' => clmIefbSetRwwValue_cells hc' h value
  cases w with
  | ryBit g d number value =>
    have hc₁ : Configured cfg (ryBits.set (bitCell (cfg.hier.groups g) g d number) value c) :=
      hc.modifyMemoryArea g _
    cases w' with
    | ryBit g' d' number' value' =>
      have hc₂ : Configured cfg (ryBits.set (bitCell (cfg.hier.groups g') g' d' number') value' c) :=
        hc.modifyMemoryArea g' _
      have hcell : bitCell (cfg.hier.groups g) g d number
          ≠ bitCell (cfg.hier.groups g') g' d' number' :=
        fun heq => hne (congrArg Sum.inl (bitCell_inj hr hr' heq))
      rw [hry value hr c hc, hry value' hr' c hc, Option.bind_some, Option.bind_some,
        hry value' hr' _ hc₁, hry value hr _ hc₂, ryBits.set_comm hcell]
      exact ⟨_, rfl, rfl⟩
    | rwwValue g' d' number' value' =>
      have hc₂ : Configured cfg
          (rwwWords.set (wordCell (cfg.hier.groups g') g' d' number') value' c) :=
        hc.modifyMemoryArea g' _
      rw [hry value hr c hc, hrww value' hr' c hc, Option.bind_some, Option.bind_some,
        hrww value' hr' _ hc₁, hry value hr _ hc₂, ryBits_rwwWords_independent]
      exact ⟨_, rfl, rfl⟩
  | rwwValue g d number value =>
    have hc₁ : Configured cfg (rwwWords.set (wordCell (cfg.hier.groups g) g d number) value c) :=
      hc.modifyMemoryArea g _
    cases w' with
    | ryBit g' d' number' value' =>
      have hc₂ : Configured cfg (ryBits.set (bitCell (cfg.hier.groups g') g' d' number') value' c) :=
        hc.modifyMemoryArea g' _
      rw [hrww value hr c hc, hry value' hr' c hc, Option.bind_some, Option.bind_some,
        hry value' hr' _ hc₁, hrww value hr _ hc₂, ryBits_rwwWords_independent]
      exact ⟨_, rfl, rfl⟩
    | rwwValue g' d' number' value' =>
      have hc₂ : Configured cfg
          (rwwWords.set (wordCell (cfg.hier.groups g') g' d' number') value' c) :=
        hc.modifyMemoryArea g' _
      have hcell : wordCell (cfg.hier.groups g) g d number
          ≠ wordCell (cfg.hier.groups g') g' d' number' :=
        fun heq => hne (congrArg Sum.inr (wordCell_inj hr hr' heq))
      rw [hrww value hr c hc, hrww value' hr' c hc, Option.bind_some, Option.bind_some,
        hrww value' hr' _ hc₁, hrww value hr _ hc₂, rwwWords.set_comm hcell]
      exact ⟨_, rfl, rfl⟩

theorem Configured.accessLaws : AccessLaws cfg c := by
  refine ⟨fun g d number value hr => ?_, fun g d number value hr => ?_,
    fun w w' hr hr' hne => hc.commute hr hr' hne,
    fun g d number hr => ⟨_, clmIefbGetRxBit_eq (hc.placed g hr.1 d hr.2.1) hr.2.2⟩,
    fun g d number hr => ⟨_, clmIefbGetRyBit_cells hc hr⟩,
    fun g d number hr => ⟨_, clmIefbGetRwrValue_eq (hc.placed g hr.1 d hr.2.1) hr.2.2⟩,
    fun g d number hr => ⟨_, clmIefbGetRwwValue_cells hc hr⟩,
    readsOwnArea_of_below areaBitBelow_congr, readsOwnArea_of_below areaBitBelow_congr,
    readsOwnArea_of_below areaWordBelow_congr, readsOwnArea_of_below areaWordBelow_congr⟩
  · let f := ryArea.set (bitCell (cfg.hier.groups g) g d number).2 value
    exact ⟨_, clmIefbSetRyBit_cells hc hr value, hc.ryWritten hr value,
      sameReads_modify MemoryArea.rww f (fun _ => rfl) areaWordBelow c g,
      sameReads_modify MemoryArea.rx f (fun _ => rfl) areaBitBelow c g,
      sameReads_modify MemoryArea.rwr f (fun _ => rfl) areaWordBelow c g⟩
  · let f := rwwArea.set (wordCell (cfg.hier.groups g) g d number).2 value
    exact ⟨_, clmIefbSetRwwValue_cells hc hr value, hc.rwwWritten hr value,
      sameReads_modify MemoryArea.ry f (fun _ => rfl) areaBitBelow c g,
      sameReads_modify MemoryArea.rx f (fun _ => rfl) areaBitBelow c g,
      sameReads_modify MemoryArea.rwr f (fun _ => rfl) areaWordBelow c g⟩

end

/-- **Access of the application to the cyclic data**, in every run and for every content of the
memory areas. -/
theorem clmIefbAccess_laws {o : Options} (st : MasterStart o) (es : List Event)
    (areas : Nat → MemoryArea) : AccessLaws st.vc.cfg ((st.run es).1.withMemory areas) :=
  (st.run_configured es areas).accessLaws

end CLink
