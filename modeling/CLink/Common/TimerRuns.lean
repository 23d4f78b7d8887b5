import CLink.Common.Timer
import CLink.Lib.History

/-!
# Timers under clock wrap

Any sequence of operations on a timer at non-decreasing true times; the timer sees the times modulo
`2^32`.

* `clTimer`                the timer as a machine;
* `Runs`                   it runs when the latest start or stop is a start;
* `Effective`              a start, or a restart that has an effect;
* `TracksTime`             what the timer stores, in true time;
* `clTimerIsExpired_runs`  when it is expired.
-/

namespace CLink
open History

/-! ## operations -/

inductive TimerOp where
  | start (period : UInt32)
  | startIfNotRunning (period : UInt32)
  | restart
  | stop
  | isExpired
  deriving DecidableEq

/-- an operation with its true time -/
abbrev TimedOp := Nat × TimerOp

def clTimerStep (timer : Timer) : TimedOp → Timer × List Bool
  | (now, .start period) => (clTimerStart timer period (UInt32.ofNat now), [])
  | (now, .startIfNotRunning period) =>
    (clTimerStartIfNotRunning timer period (UInt32.ofNat now), [])
  | (now, .restart) => (clTimerRestart timer (UInt32.ofNat now), [])
  | (_, .stop) => (clTimerStop timer, [])
  | (now, .isExpired) => (timer, [clTimerIsExpired timer (UInt32.ofNat now)])

def clTimer : Machine Timer TimedOp Bool := { step := clTimerStep }

/-! ## the history of a timer -/

def TimerOp.period : TimerOp → Option UInt32
  | start period => some period
  | startIfNotRunning period => some period
  | _ => none

/-- a start or a stop -/
def Switches (_ops : List TimedOp) (x : TimedOp) : Prop := x.2.period.isSome = true ∨ x.2 = .stop

/-- after the operations the timer runs -/
def Runs (ops : List TimedOp) : Prop := ∃ x, Latest Switches ops x ∧ x.2 ≠ .stop

/-- a start that has an effect after the operations `ops` -/
def EffectiveStart (ops : List TimedOp) (x : TimedOp) : Prop :=
  match x.2 with
  | .start _ => True
  | .startIfNotRunning _ => ¬ Runs ops
  | _ => False

/-- a start or a restart that has an effect -/
def Effective (ops : List TimedOp) (x : TimedOp) : Prop :=
  EffectiveStart ops x ∨ x.2 = .restart ∧ Runs ops

section
variable {ops : List TimedOp} {x y : TimedOp}

theorem not_runs_nil : ¬ Runs [] := by
  rintro ⟨x, hx, _⟩
  exact not_latest_nil hx

theorem runs_concat_start (hx : x.2.period.isSome = true) : Runs (ops ++ [x]) := by
  refine ⟨x, (latest_mark (Or.inl hx)).mpr rfl, ?_⟩
  intro hstop
  rw [hstop] at hx
  cases hx

theorem runs_concat_stop (hx : x.2 = .stop) : ¬ Runs (ops ++ [x]) := by
  rintro ⟨y, hy, hstop⟩
  obtain rfl := (latest_mark (Or.inr hx)).mp hy
  exact hstop hx

theorem runs_concat_other (hx : ¬ Switches ops x) :
    Runs (ops ++ [x]) ↔ Runs ops := by
  simp only [Runs, latest_skip hx]

end

/-! ## what the timer stores -/

/-- a running timer holds the period of the latest effective start and the time of the latest
effective start or restart -/
structure TracksTime (ops : List TimedOp) (timer : Timer) : Prop where
  running : timer.state = .running ↔ Runs ops
  period : timer.state = .running →
    ∃ x, Latest EffectiveStart ops x ∧ x.2.period = some timer.period
  timestamp : timer.state = .running →
    ∃ x, Latest Effective ops x ∧ timer.timestamp = UInt32.ofNat x.1

section
variable {ops : List TimedOp} {timer : Timer} {now : Nat}

theorem TracksTime.start (timer : Timer) (x : TimedOp) {period : UInt32}
    (hx : EffectiveStart ops x) (hperiod : x.2.period = some period) :
    TracksTime (ops ++ [x]) (clTimerStart timer period (UInt32.ofNat x.1)) := by
  refine ⟨?_, fun _ => ⟨x, (latest_mark hx).mpr rfl, hperiod⟩,
    fun _ => ⟨x, (latest_mark (Or.inl hx)).mpr rfl, rfl⟩⟩
  have hruns : Runs (ops ++ [x]) := runs_concat_start (by rw [hperiod]; rfl)
  exact iff_of_true rfl hruns

/-- an operation without effect -/
theorem TracksTime.skip (h : TracksTime ops timer) {x : TimedOp}
    (hruns : Runs (ops ++ [x]) ↔ Runs ops) (hx : ¬ Effective ops x) :
    TracksTime (ops ++ [x]) timer := by
  have hstart : ¬ EffectiveStart ops x := fun hs => hx (Or.inl hs)
  refine ⟨h.running.trans hruns.symm, fun hr => ?_, fun hr => ?_⟩
  · obtain ⟨y, hy, hperiod⟩ := h.period hr
    exact ⟨y, (latest_skip hstart).mpr hy, hperiod⟩
  · obtain ⟨y, hy, hstamp⟩ := h.timestamp hr
    exact ⟨y, (latest_skip hx).mpr hy, hstamp⟩

theorem TracksTime.startIfNotRunning (h : TracksTime ops timer) (now : Nat) (period : UInt32) :
    TracksTime (ops ++ [(now, .startIfNotRunning period)])
      (clTimerStartIfNotRunning timer period (UInt32.ofNat now)) := by
  unfold clTimerStartIfNotRunning
  by_cases hr : timer.state = .running
  · rw [if_pos hr]
    have hruns := h.running.mp hr
    refine h.skip (iff_of_true (runs_concat_start rfl) hruns) ?_
    rintro (hstart | ⟨hop, _⟩)
    · exact hstart hruns
    · cases hop
  · rw [if_neg hr]
    exact .start timer (now, .startIfNotRunning period) (mt h.running.mpr hr) rfl

theorem TracksTime.restart (h : TracksTime ops timer) (now : Nat) :
    TracksTime (ops ++ [(now, .restart)]) (clTimerRestart timer (UInt32.ofNat now)) := by
  have hruns : Runs (ops ++ [(now, .restart)]) ↔ Runs ops :=
    runs_concat_other (by rintro (hop | hop) <;> cases hop)
  unfold clTimerRestart
  by_cases hstopped : timer.state = .stopped
  · rw [if_pos hstopped]
    refine h.skip hruns ?_
    rintro (hstart | ⟨_, hr⟩)
    · exact hstart
    · have hrunning := h.running.mpr hr
      rw [hstopped] at hrunning
      cases hrunning
  · rw [if_neg hstopped]
    have hstart : ¬ EffectiveStart ops (now, .restart) := id
    refine ⟨h.running.trans hruns.symm, fun hr => ?_, fun hr => ?_⟩
    · obtain ⟨x, hx, hperiod⟩ := h.period hr
      exact ⟨x, (latest_skip hstart).mpr hx, hperiod⟩
    · exact ⟨_, (latest_mark (Or.inr ⟨rfl, h.running.mp hr⟩)).mpr rfl, rfl⟩

theorem TracksTime.stop (timer : Timer) (x : TimedOp) (hx : x.2 = .stop) :
    TracksTime (ops ++ [x]) (clTimerStop timer) :=
  ⟨iff_of_false TimerState.noConfusion (runs_concat_stop hx), fun hr => TimerState.noConfusion hr,
    fun hr => TimerState.noConfusion hr⟩

/-- one operation -/
theorem TracksTime.step (h : TracksTime ops timer) (x : TimedOp) :
    TracksTime (ops ++ [x]) (clTimer.step timer x).1 := by
  obtain ⟨now, op⟩ := x
  cases op with
  | start period => exact .start timer (now, .start period) trivial rfl
  | startIfNotRunning period => exact h.startIfNotRunning now period
  | restart => exact h.restart now
  | stop => exact .stop timer (now, .stop) rfl
  | isExpired =>
    refine h.skip (runs_concat_other ?_) ?_
    · rintro (hop | hop) <;> cases hop
    · rintro (hstart | ⟨hop, _⟩)
      · exact hstart
      · cases hop

theorem clTimer_tracksTime (hstopped : timer.state = .stopped) (ops : List TimedOp) :
    TracksTime ops (clTimer.run timer ops).1 := by
  refine clTimer.run_history (I := TracksTime) ?_ (fun _ x _ h => h.step x) ops
  have hidle : ¬ timer.state = .running := by
    rw [hstopped]
    exact TimerState.noConfusion
  exact ⟨iff_of_false hidle not_runs_nil, fun hr => absurd hr hidle, fun hr => absurd hr hidle⟩

/-- `cl_timer_is_running` -/
theorem clTimerIsRunning_runs (hstopped : timer.state = .stopped) (ops : List TimedOp) :
    clTimerIsRunning (clTimer.run timer ops).1 = true ↔ Runs ops := by
  rw [clTimerIsRunning, decide_eq_true_eq]
  exact (clTimer_tracksTime hstopped ops).running

/-- **A timer is expired** exactly when it runs and its period has passed since it was last started
or restarted, asked in the first half of the range of the clock.  The period is arbitrary. -/
theorem clTimerIsExpired_runs (hstopped : timer.state = .stopped) {ops pre post : List TimedOp}
    (hmono : ops.Pairwise fun x y => x.1 ≤ y.1) (hops : ops = pre ++ (now, .isExpired) :: post)
    (hhalf : Runs pre → ∀ x, Latest Effective pre x → now < x.1 + 2 ^ 31) :
    (clTimer.step (clTimer.run timer pre).1 (now, .isExpired)).2 = [true]
      ↔ Runs pre ∧ ∃ x y period, Latest EffectiveStart pre x ∧ x.2.period = some period
        ∧ Latest Effective pre y ∧ period.toNat ≤ now - y.1 := by
  have htracks := clTimer_tracksTime hstopped pre
  have hnow : ∀ y ∈ pre, y.1 ≤ now := by
    intro y hy
    rw [hops] at hmono
    exact (List.pairwise_append.mp hmono).2.2 y hy _ List.mem_cons_self
  show [clTimerIsExpired (clTimer.run timer pre).1 (UInt32.ofNat now)] = [true] ↔ _
  rw [List.singleton_inj]
  by_cases hr : (clTimer.run timer pre).1.state = .running
  · have hruns := htracks.running.mp hr
    obtain ⟨x, hx, hperiod⟩ := htracks.period hr
    obtain ⟨y, hy, hstamp⟩ := htracks.timestamp hr
    have hle : y.1 ≤ now := hnow y hy.mem
    have hlt := hhalf hruns y hy
    have hdelta : (now - y.1) % 2 ^ 32 = now - y.1 := Nat.mod_eq_of_lt (by omega)
    rw [clTimerIsExpired_iff hr hstamp hle, hdelta]
    constructor
    · rintro ⟨_, hge⟩
      exact ⟨hruns, x, y, _, hx, hperiod, hy, hge⟩
    · rintro ⟨_, x', y', period, hx', hperiod', hy', hge⟩
      obtain rfl := hx.unique hx'
      obtain rfl := hy.unique hy'
      obtain rfl := Option.some.inj (hperiod.symm.trans hperiod')
      exact ⟨by omega, hge⟩
  · have hstop : (clTimer.run timer pre).1.state = .stopped := by
      cases hstate : (clTimer.run timer pre).1.state with
      | stopped => rfl
      | running => exact absurd hstate hr
    rw [clTimerIsExpired_stopped hstop]
    constructor
    · intro h
      cases h
    · rintro ⟨hruns, _⟩
      exact absurd (htracks.running.mpr hruns) hr

end

/-- started shortly before the clock wraps, restarted after it -/
def exampleTimerOps : List TimedOp := [(4294967286, .start 20), (4294967301, .restart)]

theorem exampleTimerOps_latest :
    Runs exampleTimerOps ∧ Latest EffectiveStart exampleTimerOps (4294967286, .start 20)
      ∧ Latest Effective exampleTimerOps (4294967301, .restart) := by
  have hsplit : exampleTimerOps = ([] ++ [(4294967286, .start 20)]) ++ [(4294967301, .restart)] := rfl
  have hstarted : Runs ([] ++ [(4294967286, .start 20)]) := runs_concat_start rfl
  rw [hsplit]
  refine ⟨?_, ?_, ?_⟩
  · exact (runs_concat_other (by rintro (hop | hop) <;> cases hop)).mpr hstarted
  · exact (latest_skip id).mpr ((latest_mark trivial).mpr rfl)
  · exact (latest_mark (Or.inr ⟨rfl, hstarted⟩)).mpr rfl

theorem exampleTimerOps_expired :
    (clTimer.step (clTimer.run .zero exampleTimerOps).1 (4294967321, .isExpired)).2 = [true] := by
  obtain ⟨hruns, hstart, hrestart⟩ := exampleTimerOps_latest
  have hops : exampleTimerOps ++ [(4294967321, .isExpired)]
      = exampleTimerOps ++ (4294967321, .isExpired) :: [] := rfl
  refine (clTimerIsExpired_runs rfl ?_ hops ?_).mpr
    ⟨hruns, _, _, 20, hstart, rfl, hrestart, by decide⟩
  · simp [exampleTimerOps]
  · intro _ x hx
    obtain rfl := hrestart.unique hx
    decide

end CLink
