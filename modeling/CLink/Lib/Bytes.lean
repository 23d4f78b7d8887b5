import Mathlib.Tactic

/-!
# Little-endian numbers and areas in a byte buffer

A buffer is a map from byte positions to bytes.  `byteLE n k` is the `k`-th byte of `n` with the
least significant byte first, `leAt b i w` is the number in the `w` bytes of `b` from position `i`.

* `leAt_of_bytes`   a buffer that holds the bytes of `n` reads back `n`;
* `u16_of_bytes`, `u16be_of_bytes`, `u32_of_bytes`, `u64_of_bytes`   the same at the word types;
* `areaLE_byte`, `areaLE_pos`   cutting a run of equal records into records and offsets;
* `and_highMask_eq_zero`   a word whose high bits are off.
-/

namespace Bytes

/-! ## numbers -/

/-- the `k`-th little-endian byte of `n` -/
def byteLE (n k : Nat) : UInt8 := UInt8.ofNat (n / 256^k)

/-- the number in the `w` bytes from position `i` -/
def leAt (b : Nat → UInt8) (i : Nat) : Nat → Nat
  | 0 => 0
  | w+1 => (b i).toNat + 256 * leAt b (i+1) w

theorem leAt_zero (b : Nat → UInt8) (i : Nat) : leAt b i 0 = 0 := rfl
theorem leAt_succ (b : Nat → UInt8) (i w : Nat) :
    leAt b i (w+1) = (b i).toNat + 256 * leAt b (i+1) w := rfl

theorem byteLE_zero (n : Nat) : (byteLE n 0).toNat = n % 256 := by
  simp [byteLE]

theorem byteLE_succ (n k : Nat) : byteLE n (k+1) = byteLE (n / 256) k := by
  unfold byteLE
  rw [pow_succ', Nat.div_div_eq_div_mul]

theorem leAt_of_bytes (b : Nat → UInt8) (w : Nat) :
    ∀ (i n : Nat), (∀ k, k < w → b (i + k) = byteLE n k) → leAt b i w = n % 256^w := by
  induction w with
  | zero => intro i n _; simp [leAt_zero, Nat.mod_one]
  | succ w ih =>
    intro i n h
    have h0 : b i = byteLE n 0 := h 0 (Nat.succ_pos w)
    have hs : leAt b (i+1) w = n / 256 % 256^w := by
      refine ih (i+1) (n / 256) (fun k hk => ?_)
      rw [← byteLE_succ, ← h (k+1) (by omega)]
      congr 1
      omega
    rw [leAt_succ, h0, byteLE_zero, hs, pow_succ', Nat.mod_mul]

/-! ## words -/

def u16 (b : Nat → UInt8) (i : Nat) : UInt16 := UInt16.ofNat (leAt b i 2)
def u32 (b : Nat → UInt8) (i : Nat) : UInt32 := UInt32.ofNat (leAt b i 4)
def u64 (b : Nat → UInt8) (i : Nat) : UInt64 := UInt64.ofNat (leAt b i 8)

/-- a big-endian word -/
def u16be (b : Nat → UInt8) (i : Nat) : UInt16 :=
  UInt16.ofNat (256 * (b i).toNat + (b (i+1)).toNat)

theorem u16_of_bytes {b : Nat → UInt8} {i : Nat} {x : UInt16}
    (h : ∀ k, k < 2 → b (i + k) = byteLE x.toNat k) : u16 b i = x := by
  unfold u16
  rw [leAt_of_bytes b 2 i x.toNat h]
  apply UInt16.toNat_inj.mp
  simp

theorem u32_of_bytes {b : Nat → UInt8} {i : Nat} {x : UInt32}
    (h : ∀ k, k < 4 → b (i + k) = byteLE x.toNat k) : u32 b i = x := by
  unfold u32
  rw [leAt_of_bytes b 4 i x.toNat h]
  apply UInt32.toNat_inj.mp
  simp

theorem u64_of_bytes {b : Nat → UInt8} {i : Nat} {x : UInt64}
    (h : ∀ k, k < 8 → b (i + k) = byteLE x.toNat k) : u64 b i = x := by
  unfold u64
  rw [leAt_of_bytes b 8 i x.toNat h]
  apply UInt64.toNat_inj.mp
  simp

theorem u16be_of_bytes {b : Nat → UInt8} {i : Nat} {x : UInt16}
    (h0 : b i = byteLE x.toNat 1) (h1 : b (i+1) = byteLE x.toNat 0) : u16be b i = x := by
  unfold u16be
  rw [h0, h1, byteLE_succ, byteLE_zero, byteLE_zero]
  apply UInt16.toNat_inj.mp
  have hx : x.toNat < 65536 := x.toNat_lt
  have hs : 256 * (x.toNat / 256 % 256) + x.toNat % 256 = x.toNat := by omega
  rw [hs, UInt16.toNat_ofNat']
  omega

/-! ## areas: runs of equal records -/

/-- position `s*k + j` lies in record `k` at offset `j` -/
theorem areaLE_byte (s k j : Nat) (hj : j < s) : (s*k + j) / s = k ∧ (s*k + j) % s = j := by
  have hs : 0 < s := by omega
  constructor
  · rw [Nat.mul_add_div hs, Nat.div_eq_of_lt hj, Nat.add_zero]
  · rw [Nat.mul_add_mod, Nat.mod_eq_of_lt hj]

/-- a record below the count lies below the end of the run -/
theorem areaLE_pos (s n k j : Nat) (hk : k < n) (hj : j < s) : s*k + j < s*n := by
  have h : s*(k+1) ≤ s*n := Nat.mul_le_mul_left s hk
  have e : s*(k+1) = s*k + s := Nat.mul_succ s k
  omega

/-! ## masks -/

/-- a mask of the `j` bits from bit `k` on sees all bits but the low ones -/
theorem and_highBits_eq_zero {x j k : Nat} (hx : x < 2^(j+k)) :
    x &&& (2^j - 1) <<< k = 0 ↔ x < 2^k := by
  constructor
  · intro h
    have hdiv : x / 2^k < 2^j := by
      rw [Nat.div_lt_iff_lt_mul (Nat.two_pow_pos k), ← pow_add]
      exact hx
    have hshift : (x &&& (2^j - 1) <<< k) >>> k = x / 2^k := by
      rw [Nat.shiftRight_and_distrib, Nat.shiftLeft_shiftRight, Nat.and_two_pow_sub_one_eq_mod,
        Nat.shiftRight_eq_div_pow, Nat.mod_eq_of_lt hdiv]
    rw [h, Nat.zero_shiftRight] at hshift
    exact (Nat.div_eq_zero_iff_lt (Nat.two_pow_pos k)).mp hshift.symm
  · intro h
    apply Nat.eq_of_testBit_eq
    intro i
    rw [Nat.testBit_and, Nat.testBit_shiftLeft, Nat.zero_testBit]
    by_cases hi : k ≤ i
    · rw [Nat.testBit_lt_two_pow (lt_of_lt_of_le h (Nat.pow_le_pow_right Nat.two_pos hi))]
      rfl
    · simp [hi]

/-- the same for a word -/
theorem and_highMask_eq_zero {x m : UInt16} {j k : Nat} (hjk : j + k = 16)
    (hm : m.toNat = (2^j - 1) <<< k) : x &&& m = 0 ↔ x.toNat < 2^k := by
  have hx : x.toNat < 2^(j+k) := by
    rw [hjk]
    exact x.toNat_lt
  rw [← UInt16.toNat_inj, UInt16.toNat_and, hm]
  exact and_highBits_eq_zero hx

end Bytes
