import CLink.Lib.ByteOrder

/-!
# Fields in memory

* `field16`, `field32`   a field as it lies in the memory of the host;
* `bufferOf`             a buffer with given bytes;
* `raw16_bufferOf`, ..   a field is read back from a buffer;
* `field16_le`, ..       converted fields have the same bytes on every host.
-/

namespace CLink
open Bytes

/-- a field of two bytes as it lies in the memory of the host -/
def field16 (e : Endian) (x : UInt16) : List UInt8 := [e.store 2 x.toNat 0, e.store 2 x.toNat 1]

def field32 (e : Endian) (x : UInt32) : List UInt8 :=
  [e.store 4 x.toNat 0, e.store 4 x.toNat 1, e.store 4 x.toNat 2, e.store 4 x.toNat 3]

/-- the buffer that starts with the bytes `l` -/
def bufferOf (l : List UInt8) : Nat → UInt8 := fun k => l.getD k 0

section
variable {e : Endian} {l : List UInt8} {p : Nat}

theorem bufferOf_drop (l : List UInt8) (p k : Nat) : bufferOf l (p + k) = bufferOf (l.drop p) k := by
  simp [bufferOf, List.getD_eq_getElem?_getD]

theorem raw16_bufferOf {x : UInt16} {t : List UInt8} (h : l.drop p = field16 e x ++ t) :
    e.raw16 (bufferOf l) p = x := by
  apply e.raw16_of_store
  · rw [← Nat.add_zero p, bufferOf_drop, h]
    rfl
  · rw [bufferOf_drop, h]
    rfl

theorem raw32_bufferOf {x : UInt32} {t : List UInt8} (h : l.drop p = field32 e x ++ t) :
    e.raw32 (bufferOf l) p = x := by
  apply e.raw32_of_store
  · rw [← Nat.add_zero p, bufferOf_drop, h]
    rfl
  all_goals
    rw [bufferOf_drop, h]
    rfl

theorem byte_bufferOf {x : UInt8} {t : List UInt8} (h : l.drop p = x :: t) :
    bufferOf l p = x := by
  rw [← Nat.add_zero p, bufferOf_drop, h]
  rfl

/-- the bytes of a converted field are the same for every host -/
theorem field16_le (e : Endian) (x : UInt16) : field16 e (e.le16 x) = field16 .little x := by
  unfold field16
  rw [e.le16_toNat, e.store_le _ (by decide), e.store_le _ (by decide)]
  rfl

theorem field16_be (e : Endian) (x : UInt16) : field16 e (e.be16 x) = field16 .big x := by
  unfold field16
  rw [e.be16_toNat, e.store_be _ (by decide), e.store_be _ (by decide)]
  rfl

theorem field32_le (e : Endian) (x : UInt32) : field32 e (e.le32 x) = field32 .little x := by
  unfold field32
  rw [e.le32_toNat, e.store_le _ (by decide), e.store_le _ (by decide), e.store_le _ (by decide),
    e.store_le _ (by decide)]
  rfl

end

end CLink
