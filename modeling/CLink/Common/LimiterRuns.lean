import CLink.Common.Timer
import CLink.Lib.History

/-!
# The calls of a limiter

Any sequence of calls after `cl_limiter_init`, at any times.

* `limiter`               the limiter as a machine, with its decisions as outputs;
* `Recent`                a message that came last, and its timer has not been found expired;
* `Follows`               what the limiter stores;
* `limiter_suppresses`    when a call is suppressed;
* `limiter_counts`        the counter of the outputs;
* `limiter_calls`         all together.
-/

namespace CLink

/-! ## calls -/

inductive LimiterCall where
  | shouldRunNow (message : Int) (now : UInt32)
  | periodic (now : UInt32)
  deriving DecidableEq

def limiterStep (limiter : Limiter) : LimiterCall → Limiter × List Bool
  | .shouldRunNow message now =>
    ((clLimiterShouldRunNow limiter message now).2,
      [(clLimiterShouldRunNow limiter message now).1])
  | .periodic now => (clLimiterPeriodic limiter now, [])

def limiter : Machine Limiter LimiterCall Bool := { step := limiterStep }

/-- the latest message came at `now`, and no periodic call since then has found the timer that was
started with it expired -/
def Recent (period : UInt32) (calls : List LimiterCall) (message : Int) (now : UInt32) : Prop :=
  ∃ before between, calls = before ++ .shouldRunNow message now :: between
    ∧ ∀ x ∈ between, ∃ t, x = .periodic t ∧ clTimerIsExpired ⟨.running, period, now⟩ t = false

section
variable {period : UInt32} {calls : List LimiterCall} {message message' : Int} {now t : UInt32}

theorem not_recent_nil : ¬ Recent period [] message now := by
  rintro ⟨before, between, h, _⟩
  cases before <;> cases h

theorem recent_shouldRunNow :
    Recent period (calls ++ [.shouldRunNow message' t]) message now ↔ message = message' ∧ now = t := by
  constructor
  · rintro ⟨before, between, h, hbetween⟩
    rcases List.eq_nil_or_concat between with rfl | ⟨between', x, rfl⟩
    · obtain ⟨_, heq⟩ := List.append_inj' h rfl
      cases heq
      exact ⟨rfl, rfl⟩
    · rw [List.concat_eq_append] at h hbetween
      rw [← List.cons_append, ← List.append_assoc] at h
      obtain ⟨_, heq⟩ := List.append_inj' h rfl
      cases heq
      obtain ⟨u, hu, _⟩ := hbetween _ (List.mem_append_right _ List.mem_cons_self)
      cases hu
  · rintro ⟨rfl, rfl⟩
    exact ⟨calls, [], rfl, fun x hx => absurd hx List.not_mem_nil⟩

theorem recent_periodic :
    Recent period (calls ++ [.periodic t]) message now ↔
      Recent period calls message now ∧ clTimerIsExpired ⟨.running, period, now⟩ t = false := by
  constructor
  · rintro ⟨before, between, h, hbetween⟩
    rcases List.eq_nil_or_concat between with rfl | ⟨between', x, rfl⟩
    · obtain ⟨_, heq⟩ := List.append_inj' h rfl
      cases heq
    · rw [List.concat_eq_append] at h hbetween
      rw [← List.cons_append, ← List.append_assoc] at h
      obtain ⟨rfl, heq⟩ := List.append_inj' h rfl
      cases heq
      obtain ⟨u, hu, hexpired⟩ := hbetween _ (List.mem_append_right _ List.mem_cons_self)
      cases hu
      exact ⟨⟨before, between', rfl, fun x hx => hbetween x (List.mem_append_left _ hx)⟩, hexpired⟩
  · rintro ⟨⟨before, between, rfl, hbetween⟩, hexpired⟩
    refine ⟨before, between ++ [.periodic t], by rw [List.append_assoc, List.cons_append], ?_⟩
    intro x hx
    rcases List.mem_append.mp hx with hx | hx
    · exact hbetween x hx
    · exact ⟨t, List.mem_singleton.mp hx, hexpired⟩

theorem recent_unique (h : Recent period calls message now) (h' : Recent period calls message' t) :
    message = message' ∧ now = t := by
  induction calls using List.reverseRecOn with
  | nil => exact absurd h not_recent_nil
  | append_singleton calls x ih =>
    cases x with
    | shouldRunNow m u =>
      obtain ⟨rfl, rfl⟩ := recent_shouldRunNow.mp h
      obtain ⟨rfl, rfl⟩ := recent_shouldRunNow.mp h'
      exact ⟨rfl, rfl⟩
    | periodic u => exact ih (recent_periodic.mp h).1 (recent_periodic.mp h').1

theorem recent_latest {between : List LimiterCall} (hbetween : ∀ x ∈ between, ∃ t, x = .periodic t)
    (h : Recent period (calls ++ .shouldRunNow message' t :: between) message now) :
    message = message' := by
  induction between using List.reverseRecOn with
  | nil => exact (recent_shouldRunNow.mp h).1
  | append_singleton between x ih =>
    obtain ⟨u, rfl⟩ := hbetween x (List.mem_append_right _ List.mem_cons_self)
    rw [← List.cons_append, ← List.append_assoc] at h
    exact ih (fun y hy => hbetween y (List.mem_append_left _ hy)) (recent_periodic.mp h).1

end

/-! ## what the limiter stores -/

/-- while the timer runs, the stored message is the latest one and the timer was started with it,
although a suppressed message is not stored -/
inductive Follows (period : UInt32) (calls : List LimiterCall) (l : Limiter) : Prop where
  | waiting (now : UInt32) (hperiod : l.period = period) (htimer : l.timer = ⟨.running, period, now⟩)
      (hrecent : Recent period calls l.previousMessage now) : Follows period calls l
  | idle (hperiod : l.period = period) (htimer : l.timer.state = .stopped)
      (hrecent : ∀ message now, ¬ Recent period calls message now) : Follows period calls l

def Suppressed (period : UInt32) (calls : List LimiterCall) (message : Int) : Prop :=
  period ≠ 0 ∧ ∃ now, Recent period calls message now

section
variable {period : UInt32} {calls : List LimiterCall} {l : Limiter}

theorem Follows.suppressed (h : Follows period calls l) (message : Int) (now : UInt32) :
    (clLimiterShouldRunNow l message now).1 = false ↔ Suppressed period calls message := by
  have hrefuses : (clLimiterShouldRunNow l message now).1 = false
      ↔ clTimerIsRunning l.timer = true ∧ l.period ≠ 0 ∧ message = l.previousMessage := by
    unfold clLimiterShouldRunNow
    simp only
    split
    · rename_i hdrop
      exact iff_of_true rfl hdrop
    · rename_i hdrop
      exact iff_of_false Bool.noConfusion hdrop
  rw [hrefuses]
  cases h with
  | waiting before hperiod htimer hrecent =>
    have hrunning : clTimerIsRunning l.timer = true := by
      rw [htimer]
      rfl
    rw [hperiod]
    constructor
    · rintro ⟨_, hne, rfl⟩
      exact ⟨hne, before, hrecent⟩
    · rintro ⟨hne, t, ht⟩
      exact ⟨hrunning, hne, (recent_unique ht hrecent).1⟩
  | idle hperiod htimer hrecent =>
    have hrunning : ¬ clTimerIsRunning l.timer = true := by
      rw [clTimerIsRunning, htimer]
      decide
    exact iff_of_false (fun hdrop => hrunning hdrop.1)
      (fun hsuppressed => hsuppressed.2.elim (hrecent message))

theorem clLimiterShouldRunNow_stored (l : Limiter) (message : Int) (now : UInt32) :
    (clLimiterShouldRunNow l message now).2.period = l.period
      ∧ (clLimiterShouldRunNow l message now).2.timer = ⟨.running, l.period, now⟩
      ∧ (clLimiterShouldRunNow l message now).2.previousMessage = message := by
  unfold clLimiterShouldRunNow
  simp only
  split
  · rename_i hdrop
    exact ⟨rfl, rfl, hdrop.2.2.symm⟩
  · exact ⟨rfl, rfl, rfl⟩

/-- one call -/
theorem Follows.step (h : Follows period calls l) (x : LimiterCall) :
    Follows period (calls ++ [x]) (limiter.step l x).1 := by
  cases x with
  | shouldRunNow message now =>
    have hperiod : l.period = period := by
      cases h with
      | waiting _ hperiod _ _ => exact hperiod
      | idle hperiod _ _ => exact hperiod
    obtain ⟨hp, htimer, hmessage⟩ := clLimiterShouldRunNow_stored l message now
    rw [hperiod] at hp htimer
    exact .waiting now hp htimer (recent_shouldRunNow.mpr ⟨hmessage, rfl⟩)
  | periodic t =>
    show Follows period _ (clLimiterPeriodic l t)
    unfold clLimiterPeriodic
    cases h with
    | waiting now hperiod htimer hrecent =>
      by_cases hexpired : clTimerIsExpired l.timer t = true
      · rw [if_pos hexpired]
        refine .idle hperiod rfl ?_
        intro message u hu
        obtain ⟨hu, hnot⟩ := recent_periodic.mp hu
        obtain ⟨_, rfl⟩ := recent_unique hu hrecent
        rw [htimer, hnot] at hexpired
        cases hexpired
      · rw [if_neg hexpired]
        rw [htimer, Bool.not_eq_true] at hexpired
        exact .waiting now hperiod htimer (recent_periodic.mpr ⟨hrecent, hexpired⟩)
    | idle hperiod htimer hrecent =>
      rw [clTimerIsExpired_stopped htimer, if_neg Bool.false_ne_true]
      exact .idle hperiod htimer (fun message u hu => hrecent message u (recent_periodic.mp hu).1)

theorem limiter_follows (l : Limiter) (period : UInt32) (calls : List LimiterCall) :
    Follows period calls (limiter.run (clLimiterInit l period) calls).1 :=
  limiter.run_history (I := Follows period) (.idle rfl rfl (fun _ _ => not_recent_nil))
    (fun _ x _ h => h.step x) calls

end

/-! ## the outputs -/

/-- the counter of the outputs, which wraps -/
theorem limiter_counts (l : Limiter) (period : UInt32) (calls : List LimiterCall) :
    (limiter.run (clLimiterInit l period) calls).1.numberOfOutputs
      = UInt16.ofNat ((limiter.run (clLimiterInit l period) calls).2.count true) := by
  induction calls using List.reverseRecOn with
  | nil => rfl
  | append_singleton calls x ih =>
    rw [Machine.run_concat, List.count_append]
    generalize (limiter.run (clLimiterInit l period) calls).1 = m at ih ⊢
    cases x with
    | shouldRunNow message now =>
      show (clLimiterShouldRunNow m message now).2.numberOfOutputs
        = UInt16.ofNat (_ + [(clLimiterShouldRunNow m message now).1].count true)
      unfold clLimiterShouldRunNow
      simp only
      split
      · exact ih
      · show m.numberOfOutputs + 1 = _
        rw [ih]
        exact (UInt16.ofNat_add _ 1).symm
    | periodic now =>
      show (clLimiterPeriodic m now).numberOfOutputs = _
      unfold clLimiterPeriodic
      split
      · exact ih
      · exact ih

/-- the decision about a message after the calls `pre` -/
structure Decides (period : UInt32) (pre : List LimiterCall) (message : Int) (decision : List Bool) :
    Prop where
  suppressed : decision = [false] ↔ Suppressed period pre message
  first : (∀ x ∈ pre, ∃ t, x = .periodic t) → decision = [true]
  change : ∀ before message' now between, pre = before ++ .shouldRunNow message' now :: between →
    (∀ x ∈ between, ∃ t, x = .periodic t) → message' ≠ message → decision = [true]

theorem limiter_decides (l : Limiter) (period : UInt32) (pre : List LimiterCall) (message : Int)
    (now : UInt32) :
    Decides period pre message (limiter.step (limiter.run (clLimiterInit l period) pre).1
      (.shouldRunNow message now)).2 := by
  have hdecides := (limiter_follows l period pre).suppressed message now
  show Decides period pre message [(clLimiterShouldRunNow _ message now).1]
  generalize (clLimiterShouldRunNow _ message now).1 = decision at hdecides ⊢
  have houtput (h : ¬ Suppressed period pre message) : [decision] = [true] := by
    rw [← hdecides, Bool.not_eq_false] at h
    rw [h]
  refine ⟨?_, ?_, ?_⟩
  · rw [List.singleton_inj]
    exact hdecides
  · intro hfirst
    refine houtput ?_
    rintro ⟨_, t, before, between, rfl, _⟩
    obtain ⟨u, hu⟩ := hfirst _ (List.mem_append_right _ List.mem_cons_self)
    cases hu
  · intro before message' t between hpre hbetween hne
    refine houtput ?_
    rintro ⟨_, u, hu⟩
    rw [hpre] at hu
    exact hne (recent_latest hbetween hu).symm

/-- **Every sequence of calls after `cl_limiter_init`.** -/
theorem limiter_calls (l : Limiter) (period : UInt32) (calls : List LimiterCall) :
    (∀ pre message now post, calls = pre ++ .shouldRunNow message now :: post →
      Decides period pre message (limiter.step (limiter.run (clLimiterInit l period) pre).1
        (.shouldRunNow message now)).2)
    ∧ (limiter.run (clLimiterInit l period) calls).1.numberOfOutputs
      = UInt16.ofNat ((limiter.run (clLimiterInit l period) calls).2.count true) :=
  ⟨fun pre message now _ _ => limiter_decides l period pre message now,
    limiter_counts l period calls⟩

/-- a limiter without a period lets everything through -/
theorem limiter_periodZero (l : Limiter) (message : Int) (now : UInt32) (n : Nat) :
    (limiter.run (clLimiterInit l 0) (List.replicate n (.shouldRunNow message now))).2
      = List.replicate n true := by
  induction n with
  | zero => rfl
  | succ n ih =>
    have hnot : ¬ Suppressed 0 (List.replicate n (.shouldRunNow message now)) message :=
      fun h => h.1 rfl
    rw [← (limiter_follows l 0 _).suppressed message now, Bool.not_eq_false] at hnot
    rw [List.replicate_succ', Machine.run_concat, ih, List.replicate_succ']
    exact congrArg (fun b => List.replicate n true ++ [b]) hnot

/-- the counter after 65536 outputs -/
theorem limiter_counter_wraps :
    ¬ (limiter.run (clLimiterInit ⟨.zero, 0, 0, 0, 0⟩ 0)
        (List.replicate 65536 (.shouldRunNow 0 0))).1.numberOfOutputs.toNat
      = (limiter.run (clLimiterInit ⟨.zero, 0, 0, 0, 0⟩ 0)
        (List.replicate 65536 (.shouldRunNow 0 0))).2.count true := by
  rw [limiter_counts, limiter_periodZero, List.count_replicate_self]
  decide

end CLink
