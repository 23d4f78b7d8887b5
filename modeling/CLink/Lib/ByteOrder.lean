import CLink.Lib.Bytes

/-!
# Byte order of a host

A host stores a number of `w` bytes with its least or its most significant byte first.

* `Endian.read e b i w`   the number a host finds in `w` bytes;
* `Endian.store e w n k`  the byte it leaves at offset `k`;
* `Endian.le`, `Endian.be`  between the order of the host and little or big endian, both ways;
* `le_read`, `be_read`    a converted field has the same value on every host;
* `store_le`, `store_be`  and so have the bytes of a field that was converted before it was stored;
* `raw16`, `le16`, .. `le64`   the same at the word types.
-/

namespace Bytes

inductive Endian where
  | little
  | big
  deriving DecidableEq

/-- the number in the `w` bytes from position `i`, the most significant byte first -/
def beAt (b : Nat → UInt8) (i w : Nat) : Nat := leAt (fun k => b (i + (w - 1 - k))) 0 w

def swapBytes (w n : Nat) : Nat := beAt (byteLE n) 0 w

theorem leAt_congr {b b' : Nat → UInt8} {i i' w : Nat} (h : ∀ k, k < w → b (i + k) = b' (i' + k)) :
    leAt b i w = leAt b' i' w := by
  induction w generalizing i i' with
  | zero => rfl
  | succ w ih =>
    have h0 : b i = b' i' := h 0 (Nat.succ_pos w)
    have hrest : ∀ k, k < w → b (i + 1 + k) = b' (i' + 1 + k) := by
      intro k hk
      rw [Nat.add_assoc, Nat.add_assoc, Nat.add_comm 1 k]
      exact h (k+1) (by omega)
    rw [leAt_succ, leAt_succ, h0, ih hrest]

theorem leAt_lt (b : Nat → UInt8) (i w : Nat) : leAt b i w < 256^w := by
  induction w generalizing i with
  | zero => exact Nat.one_pos
  | succ w ih =>
    have h0 := (b i).toNat_lt
    have hw := ih (i + 1)
    rw [leAt_succ, pow_succ']
    omega

/-- the bytes of a number that was read -/
theorem byteLE_leAt (b : Nat → UInt8) (i w : Nat) {k : Nat} (hk : k < w) :
    byteLE (leAt b i w) k = b (i + k) := by
  induction w generalizing i k with
  | zero => exact absurd hk (Nat.not_lt_zero k)
  | succ w ih =>
    have h0 := (b i).toNat_lt
    cases k with
    | zero =>
      rw [← UInt8.toNat_inj, byteLE_zero, leAt_succ]
      show _ = (b i).toNat
      omega
    | succ k =>
      have hdiv : leAt b i (w+1) / 256 = leAt b (i+1) w := by
        rw [leAt_succ]
        omega
      rw [byteLE_succ, hdiv, ih (i + 1) (Nat.lt_of_succ_lt_succ hk)]
      congr 1
      omega

/-- a number is its bytes -/
theorem leAt_byteLE (n w : Nat) : leAt (byteLE n) 0 w = n % 256^w :=
  leAt_of_bytes _ w 0 n (fun k _ => by rw [Nat.zero_add])

theorem byteLE_beAt (b : Nat → UInt8) (i w : Nat) {k : Nat} (hk : k < w) :
    byteLE (beAt b i w) k = b (i + (w - 1 - k)) := by
  rw [beAt, byteLE_leAt _ 0 w hk, Nat.zero_add]

theorem swapBytes_beAt (b : Nat → UInt8) (i w : Nat) : swapBytes w (beAt b i w) = leAt b i w := by
  refine leAt_congr (fun k hk => ?_)
  rw [byteLE_beAt b i w (by omega)]
  congr 1
  omega

theorem swapBytes_leAt (b : Nat → UInt8) (i w : Nat) : swapBytes w (leAt b i w) = beAt b i w := by
  refine leAt_congr (fun k hk => ?_)
  rw [byteLE_leAt b i w (by omega)]
  congr 1
  omega

theorem swapBytes_lt (w n : Nat) : swapBytes w n < 256^w := leAt_lt _ _ _

theorem swapBytes_swapBytes {w n : Nat} (hn : n < 256^w) : swapBytes w (swapBytes w n) = n := by
  rw [show swapBytes w n = beAt (byteLE n) 0 w from rfl, swapBytes_beAt, leAt_byteLE,
    Nat.mod_eq_of_lt hn]

/-! ## hosts -/

namespace Endian

def read (e : Endian) (b : Nat → UInt8) (i w : Nat) : Nat :=
  match e with
  | little => leAt b i w
  | big => beAt b i w

def store (e : Endian) (w n k : Nat) : UInt8 :=
  match e with
  | little => byteLE n k
  | big => byteLE n (w - 1 - k)

def le (e : Endian) (w n : Nat) : Nat :=
  match e with
  | little => n
  | big => swapBytes w n

def be (e : Endian) (w n : Nat) : Nat :=
  match e with
  | little => swapBytes w n
  | big => n

theorem le_read (e : Endian) (b : Nat → UInt8) (i w : Nat) : e.le w (e.read b i w) = leAt b i w := by
  cases e
  · rfl
  · exact swapBytes_beAt b i w

theorem be_read (e : Endian) (b : Nat → UInt8) (i w : Nat) : e.be w (e.read b i w) = beAt b i w := by
  cases e
  · exact swapBytes_leAt b i w
  · rfl

theorem le_le (e : Endian) {w n : Nat} (hn : n < 256^w) : e.le w (e.le w n) = n := by
  cases e
  · rfl
  · exact swapBytes_swapBytes hn

theorem be_be (e : Endian) {w n : Nat} (hn : n < 256^w) : e.be w (e.be w n) = n := by
  cases e
  · exact swapBytes_swapBytes hn
  · rfl

theorem le_lt (e : Endian) {w n : Nat} (hn : n < 256^w) : e.le w n < 256^w := by
  cases e
  · exact hn
  · exact swapBytes_lt w n

theorem be_lt (e : Endian) {w n : Nat} (hn : n < 256^w) : e.be w n < 256^w := by
  cases e
  · exact swapBytes_lt w n
  · exact hn

theorem store_le (e : Endian) (n : Nat) {w k : Nat} (hk : k < w) :
    e.store w (e.le w n) k = byteLE n k := by
  cases e
  · rfl
  · show byteLE (beAt (byteLE n) 0 w) (w - 1 - k) = _
    rw [byteLE_beAt _ 0 w (by omega)]
    congr 1
    omega

theorem store_be (e : Endian) (n : Nat) {w k : Nat} (hk : k < w) :
    e.store w (e.be w n) k = byteLE n (w - 1 - k) := by
  cases e
  · show byteLE (beAt (byteLE n) 0 w) k = _
    rw [byteLE_beAt _ 0 w hk, Nat.zero_add]
  · rfl

/-- a host reads what it has stored -/
theorem read_store (e : Endian) {b : Nat → UInt8} {i w n : Nat}
    (h : ∀ k, k < w → b (i + k) = e.store w n k) : e.read b i w = n % 256^w := by
  cases e
  · exact leAt_of_bytes b w i n h
  · rw [← leAt_byteLE n w]
    refine leAt_congr (fun k hk => ?_)
    show b (i + (w - 1 - (0 + k))) = _
    rw [h _ (by omega)]
    show byteLE n (w - 1 - (w - 1 - (0 + k))) = byteLE n (0 + k)
    congr 1
    omega

/-! ## words -/

def raw16 (e : Endian) (b : Nat → UInt8) (i : Nat) : UInt16 := UInt16.ofNat (e.read b i 2)
def raw32 (e : Endian) (b : Nat → UInt8) (i : Nat) : UInt32 := UInt32.ofNat (e.read b i 4)
def raw64 (e : Endian) (b : Nat → UInt8) (i : Nat) : UInt64 := UInt64.ofNat (e.read b i 8)

def le16 (e : Endian) (x : UInt16) : UInt16 := UInt16.ofNat (e.le 2 x.toNat)
def be16 (e : Endian) (x : UInt16) : UInt16 := UInt16.ofNat (e.be 2 x.toNat)
def le32 (e : Endian) (x : UInt32) : UInt32 := UInt32.ofNat (e.le 4 x.toNat)
def be32 (e : Endian) (x : UInt32) : UInt32 := UInt32.ofNat (e.be 4 x.toNat)
def le64 (e : Endian) (x : UInt64) : UInt64 := UInt64.ofNat (e.le 8 x.toNat)

theorem read_lt (e : Endian) (b : Nat → UInt8) (i w : Nat) : e.read b i w < 256^w := by
  cases e <;> exact leAt_lt _ _ _

theorem raw16_toNat (e : Endian) (b : Nat → UInt8) (i : Nat) :
    (e.raw16 b i).toNat = e.read b i 2 := by
  rw [raw16, UInt16.toNat_ofNat']
  exact Nat.mod_eq_of_lt (e.read_lt b i 2)

theorem raw32_toNat (e : Endian) (b : Nat → UInt8) (i : Nat) :
    (e.raw32 b i).toNat = e.read b i 4 := by
  rw [raw32, UInt32.toNat_ofNat']
  exact Nat.mod_eq_of_lt (e.read_lt b i 4)

theorem raw64_toNat (e : Endian) (b : Nat → UInt8) (i : Nat) :
    (e.raw64 b i).toNat = e.read b i 8 := by
  rw [raw64, UInt64.toNat_ofNat']
  exact Nat.mod_eq_of_lt (e.read_lt b i 8)

theorem le16_toNat (e : Endian) (x : UInt16) : (e.le16 x).toNat = e.le 2 x.toNat := by
  rw [le16, UInt16.toNat_ofNat']
  exact Nat.mod_eq_of_lt (e.le_lt x.toNat_lt)

theorem be16_toNat (e : Endian) (x : UInt16) : (e.be16 x).toNat = e.be 2 x.toNat := by
  rw [be16, UInt16.toNat_ofNat']
  exact Nat.mod_eq_of_lt (e.be_lt x.toNat_lt)

theorem le32_toNat (e : Endian) (x : UInt32) : (e.le32 x).toNat = e.le 4 x.toNat := by
  rw [le32, UInt32.toNat_ofNat']
  exact Nat.mod_eq_of_lt (e.le_lt x.toNat_lt)

theorem be32_toNat (e : Endian) (x : UInt32) : (e.be32 x).toNat = e.be 4 x.toNat := by
  rw [be32, UInt32.toNat_ofNat']
  exact Nat.mod_eq_of_lt (e.be_lt x.toNat_lt)

/-- a converted field is read alike on every host -/
theorem le16_raw16 (e : Endian) (b : Nat → UInt8) (i : Nat) : e.le16 (e.raw16 b i) = u16 b i := by
  rw [le16, raw16_toNat, le_read]
  rfl

theorem be16_raw16 (e : Endian) (b : Nat → UInt8) (i : Nat) : e.be16 (e.raw16 b i) = u16be b i := by
  have hbe : beAt b i 2 = 256 * (b i).toNat + (b (i+1)).toNat := by
    show (b (i+1)).toNat + 256 * ((b i).toNat + 256 * 0) = _
    omega
  rw [be16, raw16_toNat, be_read, hbe]
  rfl

theorem le32_raw32 (e : Endian) (b : Nat → UInt8) (i : Nat) : e.le32 (e.raw32 b i) = u32 b i := by
  rw [le32, raw32_toNat, le_read]
  rfl

theorem le64_raw64 (e : Endian) (b : Nat → UInt8) (i : Nat) : e.le64 (e.raw64 b i) = u64 b i := by
  rw [le64, raw64_toNat, le_read]
  rfl

@[simp] theorem le16_le16 (e : Endian) (x : UInt16) : e.le16 (e.le16 x) = x := by
  rw [le16, le16_toNat, e.le_le x.toNat_lt, UInt16.ofNat_toNat]

@[simp] theorem be16_be16 (e : Endian) (x : UInt16) : e.be16 (e.be16 x) = x := by
  rw [be16, be16_toNat, e.be_be x.toNat_lt, UInt16.ofNat_toNat]

@[simp] theorem le32_le32 (e : Endian) (x : UInt32) : e.le32 (e.le32 x) = x := by
  rw [le32, le32_toNat, e.le_le x.toNat_lt, UInt32.ofNat_toNat]

@[simp] theorem be32_be32 (e : Endian) (x : UInt32) : e.be32 (e.be32 x) = x := by
  rw [be32, be32_toNat, e.be_be x.toNat_lt, UInt32.ofNat_toNat]

theorem le64_toNat (e : Endian) (x : UInt64) : (e.le64 x).toNat = e.le 8 x.toNat := by
  rw [le64, UInt64.toNat_ofNat']
  exact Nat.mod_eq_of_lt (e.le_lt x.toNat_lt)

@[simp] theorem le64_le64 (e : Endian) (x : UInt64) : e.le64 (e.le64 x) = x := by
  rw [le64, le64_toNat, e.le_le x.toNat_lt, UInt64.ofNat_toNat]

@[simp] theorem le16_zero (e : Endian) : e.le16 0 = 0 := by
  cases e
  all_goals rfl

@[simp] theorem le32_zero (e : Endian) : e.le32 0 = 0 := by
  cases e
  all_goals rfl

@[simp] theorem le64_zero (e : Endian) : e.le64 0 = 0 := by
  cases e
  all_goals rfl

/-- a field is read back as it was stored -/
theorem raw16_of_store (e : Endian) {b : Nat → UInt8} {i : Nat} {x : UInt16}
    (h0 : b i = e.store 2 x.toNat 0) (h1 : b (i+1) = e.store 2 x.toNat 1) : e.raw16 b i = x := by
  have h : ∀ k, k < 2 → b (i + k) = e.store 2 x.toNat k := by
    intro k hk
    interval_cases k
    · exact h0
    · exact h1
  rw [raw16, e.read_store h, Nat.mod_eq_of_lt (show x.toNat < 256^2 from x.toNat_lt),
    UInt16.ofNat_toNat]

theorem raw32_of_store (e : Endian) {b : Nat → UInt8} {i : Nat} {x : UInt32}
    (h0 : b i = e.store 4 x.toNat 0) (h1 : b (i+1) = e.store 4 x.toNat 1)
    (h2 : b (i+2) = e.store 4 x.toNat 2) (h3 : b (i+3) = e.store 4 x.toNat 3) : e.raw32 b i = x := by
  have h : ∀ k, k < 4 → b (i + k) = e.store 4 x.toNat k := by
    intro k hk
    interval_cases k
    · exact h0
    · exact h1
    · exact h2
    · exact h3
  rw [raw32, e.read_store h, Nat.mod_eq_of_lt (show x.toNat < 256^4 from x.toNat_lt),
    UInt32.ofNat_toNat]

end Endian

end Bytes
