import Mathlib.Tactic

/-!
# Independent cells of a state

`Cells σ α β` is a family of places in a state `σ`, one for every address in `α`, with values in `β`.

* `get_set`, `get_set_of_ne`, `set_comm`   the laws of reading back, of the frame and of the order;
* `entries`         the entries of an array;
* `array`           the cells of every entry of an array;
* `field`           the cells of a field of a record;
* `bits`            the bits of a byte, by masks;
* `Independent`     two families without a common place.
-/

/-- places that can be written without touching each other -/
structure Cells (σ α β : Type*) where
  get : α → σ → β
  set : α → β → σ → σ
  get_set : ∀ a v s, get a (set a v s) = v
  get_set_of_ne : ∀ {a b}, b ≠ a → ∀ v s, get b (set a v s) = get b s
  set_comm : ∀ {a b}, a ≠ b → ∀ v w s, set b w (set a v s) = set a v (set b w s)

namespace Cells

/-! ## arrays and records -/

section
variable {ι σ τ α β : Type*} [DecidableEq ι]

def entries : Cells (ι → β) ι β where
  get i f := f i
  set i v f := Function.update f i v
  get_set _ _ _ := Function.update_self ..
  get_set_of_ne h _ _ := Function.update_of_ne h ..
  set_comm h _ _ _ := Function.update_comm h _ _ _

/-- the cells of the entries -/
def array (C : Cells τ α β) : Cells (ι → τ) (ι × α) β where
  get p f := C.get p.2 (f p.1)
  set p v f := Function.update f p.1 (C.set p.2 v (f p.1))
  get_set p v f := by rw [Function.update_self, C.get_set]
  get_set_of_ne := by
    rintro ⟨i, a⟩ ⟨j, b⟩ hne v f
    by_cases hij : j = i
    · subst hij
      have hab : b ≠ a := fun h => hne (congrArg (Prod.mk j) h)
      rw [Function.update_self, C.get_set_of_ne hab]
    · rw [Function.update_of_ne hij]
  set_comm := by
    rintro ⟨i, a⟩ ⟨j, b⟩ hne v w f
    by_cases hij : i = j
    · subst hij
      have hab : a ≠ b := fun h => hne (congrArg (Prod.mk i) h)
      simp only [Function.update_self, Function.update_idem, C.set_comm hab]
    · have hji : j ≠ i := fun h => hij h.symm
      simp only [Function.update_of_ne hij, Function.update_of_ne hji]
      exact Function.update_comm hij _ _ _

/-- the other entries stay -/
theorem array_set_of_ne (C : Cells τ α β) {i j : ι} (h : j ≠ i) (a : α) (v : β) (f : ι → τ) :
    (array C).set (i, a) v f j = f j := Function.update_of_ne h ..

/-- the cells of a field, with the laws of the field -/
def field (read : σ → τ) (write : σ → τ → σ) (read_write : ∀ s x, read (write s x) = x)
    (write_write : ∀ s x y, write (write s x) y = write s y) (C : Cells τ α β) : Cells σ α β where
  get a s := C.get a (read s)
  set a v s := write s (C.set a v (read s))
  get_set a v s := by rw [read_write, C.get_set]
  get_set_of_ne h v s := by rw [read_write, C.get_set_of_ne h]
  set_comm h v w s := by simp only [read_write, write_write, C.set_comm h]

end

/-! ## the bits of a byte -/

/-- `1 << i` -/
def mask (i : Fin 8) : UInt8 := 1 <<< UInt8.ofNat i

theorem mask_ne_zero : ∀ i, mask i ≠ 0 := by decide

theorem mask_and_mask : ∀ i j, i ≠ j → mask i &&& mask j = 0 := by decide

theorem not_mask_and_mask : ∀ i j, i ≠ j → ~~~ mask i &&& mask j = mask j := by decide

/-- `byte |= mask` or `byte &= ~mask` -/
def writeMask (byte m : UInt8) (value : Bool) : UInt8 := if value then byte ||| m else byte &&& ~~~ m

theorem pos_iff_ne_zero (x : UInt8) : x > 0 ↔ x ≠ 0 := by
  rw [gt_iff_lt, UInt8.lt_iff_toNat_lt, ne_eq, ← UInt8.toNat_inj, UInt8.toNat_zero]
  exact Nat.pos_iff_ne_zero

theorem or_and_distrib (x y z : UInt8) : (x ||| y) &&& z = (x &&& z) ||| (y &&& z) := by
  rw [← UInt8.toBitVec_inj]
  exact BitVec.and_or_distrib_right

theorem writeMask_self (byte : UInt8) (i : Fin 8) (value : Bool) :
    decide (writeMask byte (mask i) value &&& mask i > 0) = value := by
  cases value with
  | true =>
    have hset : (byte ||| mask i) &&& mask i ≠ 0 := by
      rw [or_and_distrib, UInt8.and_self, ne_eq, UInt8.or_eq_zero_iff]
      exact fun h => mask_ne_zero i h.2
    simp only [writeMask, if_true, pos_iff_ne_zero]
    exact decide_eq_true hset
  | false =>
    have hclear : byte &&& ~~~ mask i &&& mask i = 0 := by
      rw [UInt8.and_assoc, UInt8.and_comm (~~~ mask i), UInt8.and_not_self, UInt8.and_zero]
    simp only [writeMask, Bool.false_eq_true, if_false, hclear]
    rfl

theorem writeMask_other (byte : UInt8) {i j : Fin 8} (h : i ≠ j) (value : Bool) :
    writeMask byte (mask i) value &&& mask j = byte &&& mask j := by
  cases value with
  | true =>
    simp only [writeMask, if_true]
    rw [or_and_distrib, mask_and_mask i j h, UInt8.or_zero]
  | false =>
    simp only [writeMask, Bool.false_eq_true, if_false]
    rw [UInt8.and_assoc, not_mask_and_mask i j h]

/-- writes to different bits in either order -/
theorem writeMask_comm (byte : UInt8) {i j : Fin 8} (h : i ≠ j) (v w : Bool) :
    writeMask (writeMask byte (mask i) v) (mask j) w
      = writeMask (writeMask byte (mask j) w) (mask i) v := by
  have hij := not_mask_and_mask j i h.symm
  have hji := not_mask_and_mask i j h
  cases v <;> cases w <;> simp only [writeMask, if_true, Bool.false_eq_true, if_false]
  · rw [UInt8.and_assoc, UInt8.and_comm (~~~ mask i), UInt8.and_assoc]
  · rw [or_and_distrib, UInt8.and_comm (mask j), hji]
  · rw [or_and_distrib, UInt8.and_comm (mask i), hij]
  · rw [UInt8.or_assoc, UInt8.or_comm (mask i), UInt8.or_assoc]

def bits : Cells UInt8 (Fin 8) Bool where
  get i byte := byte &&& mask i > 0
  set i value byte := writeMask byte (mask i) value
  get_set i value byte := writeMask_self byte i value
  get_set_of_ne h value byte := by rw [writeMask_other byte h.symm]
  set_comm h v w byte := writeMask_comm byte h v w

/-! ## two families -/

section
variable {ι σ τ α α' β β' : Type*} [DecidableEq ι]

/-- writes to the two families can be exchanged -/
def Independent (C : Cells σ α β) (D : Cells σ α' β') : Prop :=
  ∀ a v b w s, D.set b w (C.set a v s) = C.set a v (D.set b w s)

theorem Independent.array {C : Cells τ α β} {D : Cells τ α' β'} (h : Independent C D) :
    Independent (Cells.array C : Cells (ι → τ) (ι × α) β) (Cells.array D) := by
  rintro ⟨i, a⟩ v ⟨j, b⟩ w f
  by_cases hij : i = j
  · subst hij
    simp only [Cells.array, Function.update_self, Function.update_idem, h a v b w]
  · have hji : j ≠ i := fun h => hij h.symm
    simp only [Cells.array, Function.update_of_ne hij, Function.update_of_ne hji]
    exact Function.update_comm hij _ _ _

theorem Independent.field {C : Cells τ α β} {D : Cells τ α' β'} (h : Independent C D)
    {read : σ → τ} {write : σ → τ → σ} (read_write : ∀ s x, read (write s x) = x)
    (write_write : ∀ s x y, write (write s x) y = write s y) :
    Independent (Cells.field read write read_write write_write C)
      (Cells.field read write read_write write_write D) := by
  intro a v b w s
  simp only [Cells.field, read_write, write_write, h a v b w]

end

end Cells
