import Mathlib.Tactic

/-!
# Timers and the message limiter

`cl_timer.c` and `cl_limiter.c`: a timer compares 32-bit microsecond stamps modulo `2^32`; the
limiter drops a message that repeats the previous one while its timer runs.

* `clTimerIsExpired_stopped`   a stopped timer never expires;
* `clTimerIsExpired_running`   a timer that has expired is running;
* `clTimerIsExpired_start`     a timer with a positive period is not expired when it starts;
* `clTimerIsExpired_iff`       when a timer is expired, by the true times of its start and of now;
* `clTimerIsExpired_late`      a timer that is read often enough.
-/

namespace CLink

inductive TimerState where
  | stopped
  | running
  deriving DecidableEq, Repr

/-- `cl_timer_t` -/
structure Timer where
  state : TimerState
  period : UInt32
  timestamp : UInt32
  deriving DecidableEq, Repr

def Timer.zero : Timer := ⟨.stopped, 0, 0⟩

/-! ## `cl_timer.c` -/

def clTimerStart (_timer : Timer) (period now : UInt32) : Timer :=
  { state := .running, period := period, timestamp := now }

def clTimerStartIfNotRunning (timer : Timer) (period now : UInt32) : Timer :=
  if timer.state = .running then timer else clTimerStart timer period now

def clTimerRestart (timer : Timer) (now : UInt32) : Timer :=
  if timer.state = .stopped then timer else { timer with timestamp := now }

def clTimerStop (_timer : Timer) : Timer :=
  { state := .stopped, period := 0, timestamp := 0 }

def clTimerIsExpired (timer : Timer) (now : UInt32) : Bool :=
  if timer.state = .stopped then false
  else
    let delta := now - timer.timestamp
    if delta > (0xFFFFFFFF : UInt32) >>> 1 then false else delta ≥ timer.period

def clTimerIsRunning (timer : Timer) : Bool := timer.state = .running

theorem clTimerIsExpired_stopped {timer : Timer} (h : timer.state = .stopped) (now : UInt32) :
    clTimerIsExpired timer now = false := by
  unfold clTimerIsExpired
  rw [if_pos h]

theorem clTimerIsExpired_running {timer : Timer} {now : UInt32} (h : clTimerIsExpired timer now = true) :
    timer.state = .running := by
  cases hs : timer.state with
  | stopped =>
    rw [clTimerIsExpired_stopped hs] at h
    cases h
  | running => rfl

theorem clTimerIsExpired_start (timer : Timer) (period now : UInt32) (h : period ≠ 0) :
    clTimerIsExpired (clTimerStart timer period now) now = false := by
  have hlt : ¬ period ≤ 0 := by
    intro hle
    exact h (UInt32.le_zero_iff.mp hle)
  simp [clTimerIsExpired, clTimerStart, hlt]

/-- the clock is the true time modulo `2^32` -/
theorem clTimerIsExpired_iff {timer : Timer} {start now : Nat} (hrunning : timer.state = .running)
    (hstart : timer.timestamp = UInt32.ofNat start) (hle : start ≤ now) :
    clTimerIsExpired timer (UInt32.ofNat now) = true
      ↔ (now - start) % 2 ^ 32 < 2 ^ 31 ∧ timer.period.toNat ≤ (now - start) % 2 ^ 32 := by
  have hstopped : ¬ timer.state = .stopped := by
    rw [hrunning]
    exact TimerState.noConfusion
  have hdelta : (UInt32.ofNat now - timer.timestamp).toNat = (now - start) % 2 ^ 32 := by
    rw [hstart, UInt32.toNat_sub, UInt32.toNat_ofNat', UInt32.toNat_ofNat']
    omega
  have hhalf : ((0xFFFFFFFF : UInt32) >>> 1).toNat = 2 ^ 31 - 1 := rfl
  unfold clTimerIsExpired
  simp only [if_neg hstopped, gt_iff_lt, ge_iff_le, UInt32.lt_iff_toNat_lt, UInt32.le_iff_toNat_le,
    hdelta, hhalf]
  split
  · rename_i hwrapped
    constructor
    · intro h
      cases h
    · intro h
      omega
  · rename_i hforward
    rw [decide_eq_true_eq]
    constructor
    · intro h
      exact ⟨by omega, h⟩
    · exact And.right

/-- A timer that is read half the range of the clock after its start counts as not expired.  The longest
period is 65535 milliseconds. -/
def pollGap : Nat := 2 ^ 31 - 65535000

/-- a timer that is read every `pollGap` microseconds, and was not late the last time -/
theorem clTimerIsExpired_late {timer : Timer} {start last now : Nat} (hrunning : timer.state = .running)
    (hstart : timer.timestamp = UInt32.ofNat start) (hlong : timer.period.toNat ≤ 65535000)
    (hlast : last ≤ start + timer.period.toNat) (hsoon : now < last + pollGap)
    (hlate : start + timer.period.toNat ≤ now) : clTimerIsExpired timer (UInt32.ofNat now) = true := by
  unfold pollGap at hsoon
  rw [clTimerIsExpired_iff hrunning hstart (by omega), Nat.mod_eq_of_lt (by omega)]
  omega

/-! ## `cl_limiter.c` -/

/-- `cl_limiter_t` -/
structure Limiter where
  timer : Timer
  period : UInt32
  previousMessage : Int
  numberOfCalls : UInt16
  numberOfOutputs : UInt16
  deriving DecidableEq, Repr

def clLimiterInit (limiter : Limiter) (period : UInt32) : Limiter :=
  { timer := clTimerStop limiter.timer, period := period, previousMessage := 0,
    numberOfCalls := 0, numberOfOutputs := 0 }

/-- whether the message is let through, and the limiter afterwards -/
def clLimiterShouldRunNow (limiter : Limiter) (message : Int) (now : UInt32) : Bool × Limiter :=
  let wasRunning := clTimerIsRunning limiter.timer
  let limiter := { limiter with
    numberOfCalls := limiter.numberOfCalls + 1
    timer := clTimerStart limiter.timer limiter.period now }
  if wasRunning ∧ limiter.period ≠ 0 ∧ message = limiter.previousMessage then (false, limiter)
  else
    (true, { limiter with
      numberOfOutputs := limiter.numberOfOutputs + 1
      previousMessage := message })

def clLimiterPeriodic (limiter : Limiter) (now : UInt32) : Limiter :=
  if clTimerIsExpired limiter.timer now then { limiter with timer := clTimerStop limiter.timer }
  else limiter

end CLink
