import Mathlib.Tactic

/-!
# Constants, compile-time options and memory areas

The part of `cl_types.h` and `cl_options.h` that both stacks use.

* `Options`                 the limits chosen at compile time, with the ranges the `#error` lines of
                            `clm_master.c` and `cls_slave.c` enforce;
* `BitArea`, `WordArea`     one occupied station of bit data (RX, RY) and of register data (RWr, RWw);
* `areaBit`, `areaWord`     reading a bit or a register by its number inside a run of areas.

Multi-byte values are kept as numbers, the byte order of the wire is in `Headers`.
-/

namespace CLink

/-! ## options and limits -/

/-- the compile-time limits -/
structure Options where
  clmMaxGroups : Nat
  clmMaxOccupiedStationsPerGroup : Nat
  clsMaxOccupiedStations : Nat
  groups_pos : 1 ≤ clmMaxGroups
  groups_le : clmMaxGroups ≤ 64
  clm_pos : 1 ≤ clmMaxOccupiedStationsPerGroup
  clm_le : clmMaxOccupiedStationsPerGroup ≤ 16
  cls_pos : 1 ≤ clsMaxOccupiedStations
  cls_le : clsMaxOccupiedStations ≤ 16

/-- limits for the examples -/
def exampleOptions : Options :=
  { clmMaxGroups := 1, clmMaxOccupiedStationsPerGroup := 16, clsMaxOccupiedStations := 16
    groups_pos := by decide, groups_le := by decide, clm_pos := by decide, clm_le := by decide
    cls_pos := by decide, cls_le := by decide }

abbrev clBufferLen : Nat := 1500
abbrev clCciefbPort : UInt16 := 61450
abbrev minSupportedProtocolVer : UInt16 := 1
abbrev maxSupportedProtocolVer : UInt16 := 2
abbrev minGroupNo : UInt16 := 1
abbrev maxGroupNo : UInt16 := 64
abbrev minOccupiedStationsPerGroup : UInt16 := 1
abbrev maxOccupiedStationsPerGroup : UInt16 := 16
abbrev maxOccupiedStationsForAllGroups : UInt16 := 64
abbrev microsecondsPerMillisecond : UInt32 := 1000

/-- 16 bits of milliseconds fit in the clock -/
theorem milliseconds_toNat (time : UInt16) :
    (time.toUInt32 * microsecondsPerMillisecond).toNat = time.toNat * 1000 := by
  have hlt := time.toNat_lt
  rw [UInt32.toNat_mul, UInt16.toNat_toUInt32]
  show time.toNat * 1000 % 4294967296 = _
  omega

/-! ## addresses and end codes -/

abbrev IpAddr := UInt32

abbrev ipaddrInvalid : IpAddr := 0
/-- 255.255.255.255, the further stations of a device in the slave id list -/
abbrev multistationIndicator : IpAddr := 0xFFFFFFFF

/-- allowed range 0.0.0.1 to 223.255.255.254 -/
def clUtilsIsIpaddrRangeValid (ipAddr : IpAddr) : Bool :=
  ¬ (ipAddr = ipaddrInvalid ∨ ipAddr > 0xDFFFFFFE)

def clUtilCalcBroadcastAddress (netmask ipAddr : IpAddr) : IpAddr :=
  if ipAddr = ipaddrInvalid then ipaddrInvalid else ipAddr ||| ~~~netmask

abbrev endcodeSuccess : UInt16 := 0x0000
abbrev endcodeMasterDuplication : UInt16 := 0xCFE0
abbrev endcodeWrongNumberOccupiedStations : UInt16 := 0xCFE1
abbrev endcodeSlaveError : UInt16 := 0xCFF0
abbrev endcodeSlaveRequestsDisconnect : UInt16 := 0xCFFF

/-! ## areas -/

/-- 64 bits: `cl_rx_t`, `cl_ry_t` -/
abbrev BitArea := Fin 8 → UInt8
/-- 32 registers: `cl_rwr_t`, `cl_rww_t` -/
abbrev WordArea := Fin 32 → UInt16

-- named, so that every module finds the same instance for `Fin.ofNat`
instance neZeroBitArea : NeZero 8 := ⟨by decide⟩
instance neZeroWordArea : NeZero 32 := ⟨by decide⟩

def BitArea.zero : BitArea := fun _ => 0
def WordArea.zero : WordArea := fun _ => 0

/-- `cl_iefb_bit_calculate_areanumber`: area, byte in the area and bit mask of a bit number -/
def clIefbBitCalculateAreanumber (number : UInt16) : UInt16 × UInt16 × UInt8 :=
  (number >>> 6, (number >>> 3) &&& 7, (1 <<< (number &&& 7)).toUInt8)

/-- `cl_iefb_register_calculate_areanumber`: area and register in the area of a register number -/
def clIefbRegisterCalculateAreanumber (number : UInt16) : UInt16 × UInt16 :=
  (number >>> 5, number &&& 0x1F)

/-- the bit `number` counted from the first of the areas `a` -/
def areaBit (a : Nat → BitArea) (number : UInt16) : Bool :=
  let p := clIefbBitCalculateAreanumber number
  a p.1.toNat (Fin.ofNat 8 p.2.1.toNat) &&& p.2.2 > 0

/-- the register `number` counted from the first of the areas `a` -/
def areaWord (a : Nat → WordArea) (number : UInt16) : UInt16 :=
  let p := clIefbRegisterCalculateAreanumber number
  a p.1.toNat (Fin.ofNat 32 p.2.toNat)

theorem bitArea_lt {number : UInt16} {n : Nat} (h : number.toNat < 64 * n) :
    (clIefbBitCalculateAreanumber number).1.toNat < n := by
  have e : (number >>> 6).toNat = number.toNat / 64 := by
    simp [Nat.shiftRight_eq_div_pow]
  show (number >>> 6).toNat < n
  omega

theorem wordArea_lt {number : UInt16} {n : Nat} (h : number.toNat < 32 * n) :
    (clIefbRegisterCalculateAreanumber number).1.toNat < n := by
  have e : (number >>> 5).toNat = number.toNat / 32 := by
    simp [Nat.shiftRight_eq_div_pow]
  show (number >>> 5).toNat < n
  omega

/-- a bit below `64 n` only depends on the first `n` areas -/
theorem areaBit_congr {a b : Nat → BitArea} {n : Nat} (hab : ∀ k, k < n → a k = b k)
    {number : UInt16} (h : number.toNat < 64 * n) : areaBit a number = areaBit b number := by
  unfold areaBit
  simp only [hab _ (bitArea_lt h)]

/-- a register below `32 n` only depends on the first `n` areas -/
theorem areaWord_congr {a b : Nat → WordArea} {n : Nat} (hab : ∀ k, k < n → a k = b k)
    {number : UInt16} (h : number.toNat < 32 * n) : areaWord a number = areaWord b number := by
  unfold areaWord
  simp only [hab _ (wordArea_lt h)]

theorem areaBit_zero (number : UInt16) : areaBit (fun _ => BitArea.zero) number = false := by
  simp [areaBit, BitArea.zero]

theorem areaWord_zero (number : UInt16) : areaWord (fun _ => WordArea.zero) number = 0 := rfl

end CLink
