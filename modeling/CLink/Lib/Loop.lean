import Mathlib.Tactic

/-!
# Counting loops, block copies and event loops

* `loop f n s`        the state after `for (i = 0; i < n; i++) s = f i s`;
* `loop_inv`          the invariant rule of a counting loop;
* `loop_rel`          a relation of two loops;
* `loop_bind_inv`     the same for a loop that can stop early;
* `loop_check`        a loop of checks that stops at the first one that fails;
* `blit dst src p n`  `dst` with the `n` entries from `p` on replaced by those of `src`;
* `drive once idle n e s`  at most `n` rounds of `do { (e, s) = once e s } while (e != idle)`;
* `drive_inv`         an invariant of such a loop;
* `drive_rel`         a relation of two such loops;
* `drive_fuel`        with a rank that falls while the event is not idle, more fuel than the rank
                      changes nothing: the loop has ended.
-/

namespace Loop

section
variable {σ : Type*}

/-- the state after the rounds `0, .., n-1` -/
def loop (f : Nat → σ → σ) : Nat → σ → σ
  | 0, s => s
  | n+1, s => f n (loop f n s)

theorem loop_zero (f : Nat → σ → σ) (s : σ) : loop f 0 s = s := rfl
theorem loop_succ (f : Nat → σ → σ) (n : Nat) (s : σ) : loop f (n+1) s = f n (loop f n s) := rfl

/-- the invariant rule: `P i` holds before round `i` -/
theorem loop_inv {f : Nat → σ → σ} {n : Nat} {s : σ} (P : Nat → σ → Prop) (h0 : P 0 s)
    (hs : ∀ i t, i < n → P i t → P (i+1) (f i t)) : P n (loop f n s) := by
  induction n with
  | zero => exact h0
  | succ n ih =>
    rw [loop_succ]
    exact hs n _ (Nat.lt_succ_self n) (ih (fun i t hi hP => hs i t (by omega) hP))

/-- a relation of two loops, kept by every round of both -/
theorem loop_rel {τ : Type*} {f : Nat → σ → σ} {f' : Nat → τ → τ} {n : Nat} {s : σ} {t : τ}
    (R : σ → τ → Prop) (h0 : R s t) (hs : ∀ i s t, i < n → R s t → R (f i s) (f' i t)) :
    R (loop f n s) (loop f' n t) := by
  induction n with
  | zero => exact h0
  | succ n ih =>
    rw [loop_succ, loop_succ]
    exact hs n _ _ (Nat.lt_succ_self n) (ih (fun i s t hi hR => hs i s t (by omega) hR))

/-- the invariant rule of a loop with an early exit: `P` holds of the result if there is one -/
theorem loop_bind_inv {f : Nat → σ → Option σ} {n : Nat} {a b : σ}
    (h : loop (fun i s => s.bind (f i)) n (some a) = some b) (P : Nat → σ → Prop) (h0 : P 0 a)
    (hs : ∀ i s t, i < n → P i s → f i s = some t → P (i+1) t) : P n b := by
  induction n generalizing b with
  | zero =>
    rw [loop_zero] at h
    exact Option.some.inj h ▸ h0
  | succ n ih =>
    rw [loop_succ] at h
    obtain ⟨s, hs', hf⟩ := Option.bind_eq_some_iff.mp h
    exact hs n s b (Nat.lt_succ_self n) (ih hs' (fun i s t hi => hs i s t (by omega))) hf

/-- a loop that can stop early has not stopped before: the result after the first `m` rounds -/
theorem loop_bind_prefix {f : Nat → σ → Option σ} {a : Option σ} {m n : Nat} (hmn : m ≤ n) {b : σ}
    (h : loop (fun i s => s.bind (f i)) n a = some b) :
    ∃ c, loop (fun i s => s.bind (f i)) m a = some c := by
  induction n generalizing b with
  | zero =>
    obtain rfl : m = 0 := Nat.le_zero.mp hmn
    exact ⟨b, h⟩
  | succ n ih =>
    rcases Nat.le_succ_iff.mp hmn with hle | rfl
    · rw [loop_succ] at h
      obtain ⟨c, hc, -⟩ := Option.bind_eq_some_iff.mp h
      exact ih hle hc
    · exact ⟨b, h⟩

/-- a loop of checks: `none` is a failed check -/
theorem loop_check {f : Nat → Option Unit} (n : Nat) :
    loop (fun i s => s.bind fun _ => f i) n (some ()) = some () ↔ ∀ i, i < n → f i = some () := by
  induction n with
  | zero => exact iff_of_true rfl fun i hi => absurd hi (Nat.not_lt_zero i)
  | succ n ih =>
    rw [loop_succ, Option.bind_eq_some_iff]
    constructor
    · rintro ⟨u, hloop, hn⟩ i hi
      rcases Nat.lt_succ_iff_lt_or_eq.mp hi with hlt | rfl
      · exact ih.mp hloop i hlt
      · exact hn
    · intro h
      exact ⟨(), ih.mpr fun i hi => h i (Nat.lt_succ_of_lt hi), h n (Nat.lt_succ_self n)⟩

end

/-! ## block copies -/

section
variable {α : Type*}

/-- `dst` with the entries `p, .., p+n-1` taken from the start of `src` -/
def blit (dst src : Nat → α) (p n : Nat) : Nat → α :=
  fun i => if p ≤ i ∧ i < p + n then src (i - p) else dst i

theorem blit_in {dst src : Nat → α} {p n k : Nat} (hk : k < n) : blit dst src p n (p + k) = src k := by
  unfold blit
  rw [if_pos ⟨by omega, by omega⟩]
  congr 1
  omega

/-- a copy to the start -/
theorem blit_start {dst src : Nat → α} {n k : Nat} (hk : k < n) : blit dst src 0 n k = src k := by
  unfold blit
  rw [if_pos ⟨Nat.zero_le k, by omega⟩, Nat.sub_zero]

theorem blit_out {dst src : Nat → α} {p n i : Nat} (h : i < p ∨ p + n ≤ i) :
    blit dst src p n i = dst i := by
  unfold blit
  rw [if_neg]
  omega

end

/-! ## event loops -/

section
variable {σ ε : Type*} [DecidableEq ε]

/-- `do { (e, s) = once e s } while (e != idle)`, stopped after `n` rounds -/
def drive (once : ε → σ → ε × σ) (idle : ε) : Nat → ε → σ → σ
  | 0, _, s => s
  | n+1, e, s =>
    if (once e s).1 = idle then (once e s).2 else drive once idle n (once e s).1 (once e s).2

theorem drive_succ (once : ε → σ → ε × σ) (idle : ε) (n : Nat) (e : ε) (s : σ) :
    drive once idle (n+1) e s
      = if (once e s).1 = idle then (once e s).2
        else drive once idle n (once e s).1 (once e s).2 := rfl

/-- an invariant of the rounds -/
theorem drive_inv {once : ε → σ → ε × σ} {I : σ → Prop} (hI : ∀ e s, I s → I (once e s).2)
    (idle : ε) (n : Nat) (e : ε) {s : σ} (h0 : I s) : I (drive once idle n e s) := by
  induction n generalizing e s with
  | zero => exact h0
  | succ n ih =>
    rw [drive_succ]
    split
    · exact hI e s h0
    · exact ih _ (hI e s h0)

/-- a relation of two such loops, kept by every round, which gives both the same next event -/
theorem drive_rel {τ : Type*} {once : ε → σ → ε × σ} {once' : ε → τ → ε × τ} (R : σ → τ → Prop)
    (hR : ∀ e s t, R s t → (once' e t).1 = (once e s).1 ∧ R (once e s).2 (once' e t).2) (idle : ε)
    (n : Nat) (e : ε) {s : σ} {t : τ} (h0 : R s t) :
    R (drive once idle n e s) (drive once' idle n e t) := by
  induction n generalizing e s t with
  | zero => exact h0
  | succ n ih =>
    obtain ⟨hev, hnext⟩ := hR e s t h0
    rw [drive_succ, drive_succ, hev]
    split
    · exact hnext
    · exact ih _ hnext

/-- the loop has ended before the fuel runs out -/
theorem drive_fuel (once : ε → σ → ε × σ) (idle : ε) (rank : ε → Nat)
    (hr : ∀ e s, (once e s).1 ≠ idle → rank (once e s).1 < rank e) :
    ∀ (n m : Nat) (e : ε) (s : σ), rank e < n → rank e < m →
      drive once idle n e s = drive once idle m e s := by
  intro n
  induction n with
  | zero => intro m e s h _; omega
  | succ n ih =>
    intro m e s hn hm
    cases m with
    | zero => omega
    | succ m =>
      rw [drive_succ, drive_succ]
      by_cases h : (once e s).1 = idle
      · rw [if_pos h, if_pos h]
      · have hlt := hr e s h
        rw [if_neg h, if_neg h]
        exact ih m _ _ (by omega) (by omega)

end

end Loop
