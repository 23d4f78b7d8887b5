import CLink.Master.StepMoves

/-!
# The outputs of a step

`OutputRule P`: `P` holds of every output about a group, of every state callback and of every error
but a slave duplication.  Then `P` is followed through the functions of the master.

* `OutputRule.step`      all outputs of a step, when the duplications of the step meet `P` as well;
* `OutputRule.event`     all outputs of an event for every group.
-/

namespace CLink
open Loop Trace

/-- device `d` is enabled, and the response repeats its latest sequence number outside `LISTEN` -/
def sendsDuplication (dev : SlaveDeviceData) (r : CyclicResponse) : Bool :=
  dev.enabled && isDuplicate dev r

structure OutputRule (P : Output → Prop) : Prop where
  owner : ∀ x g, x.owner = some g → P x
  state : ∀ state, P (.stateCb state)
  error : ∀ message ipAddr n, message ≠ .slaveDuplication → P (.errorCb message ipAddr n)

namespace OutputRule
variable {P : Output → Prop} (h : OutputRule P)
include h

/-! ## single outputs -/

theorem setMasterState (clm : ClmShared) (state : MasterState) :
    ∀ x ∈ (clmIefbSetMasterState clm state).2, P x := by
  unfold clmIefbSetMasterState
  split
  · exact List.forall_mem_singleton.mpr (h.state state)
  · exact List.forall_mem_nil _

theorem deviceEventAll (gs : GroupSetting) (g : Nat) (event : DeviceEvent) (gd : GroupData) :
    ∀ x ∈ (clmIefbDeviceFsmEventAllInGroup gs g event gd).2, P x := by
  refine loop_inv (fun _ (t : GroupData × List Output) => ∀ x ∈ t.2, P x) (List.forall_mem_nil _) ?_
  intro d t _ ht x hx
  rcases List.mem_append.mp hx with hx | hx
  · exact ht x hx
  · exact h.owner x g (clmIefbDeviceFsmEvent_out gs g d _ _ x hx).owner

omit h in
/-- an error callback, when the limiter lets it through -/
theorem triggerError {clm : ClmShared} {now : UInt32} {message : ErrorMessage} {ipAddr : IpAddr}
    {argument2 : UInt16} (herror : ∀ n, P (.errorCb message ipAddr n)) :
    ∀ x ∈ (clmIefbTriggerErrorCallback clm now message ipAddr argument2).2, P x := by
  intro x hx
  simp only [clmIefbTriggerErrorCallback] at hx
  split at hx
  · rw [List.mem_singleton.mp hx]
    exact herror _
  · cases hx

/-! ## the functions of a group -/

section
variable (g : Nat) (now : UInt32) (unixMs : Nat → UInt64)

theorem perform (action : GroupAction) {s : Scope} (hs : ∀ x ∈ s.out, P x) :
    ∀ x ∈ (action.perform g now unixMs s).1.out, P x := by
  have hlinkscan : ∀ success, ∀ x ∈ [Output.linkscanCb g success], P x :=
    fun success => List.forall_mem_singleton.mpr (h.owner _ g rfl)
  have hlinkscans : ∀ event gd success,
      ∀ x ∈ s.out ++ ((clmIefbDeviceFsmEventAllInGroup (s.clm.config.hier.groups g) g event gd).2
        ++ [.linkscanCb g success]), P x := fun event gd success =>
    List.forall_mem_append.mpr ⟨hs,
      List.forall_mem_append.mpr ⟨h.deviceEventAll _ g event gd, hlinkscan success⟩⟩
  cases action with
  | groupInit => exact List.forall_mem_append.mpr ⟨hs, h.deviceEventAll _ g _ _⟩
  | groupNewConfig => exact hs
  | onArbitrationDone => exact hs
  | onArbitrationFailed =>
    exact List.forall_mem_append.mpr ⟨hs, triggerError fun n => h.error _ _ n (by simp)⟩
  | onLinkscanStart =>
    refine List.forall_mem_append.mpr ⟨hs, List.forall_mem_append.mpr ⟨?_, ?_⟩⟩
    · exact fun x hx => h.owner x g (startDevices_out _ _ _ x hx).owner
    · exact List.forall_mem_singleton.mpr (h.owner _ g rfl)
  | onLinkscanTimeout => exact hlinkscans _ _ false
  | onLinkscanComplete => exact hlinkscans _ _ true
  | onEntryListen =>
    exact List.forall_mem_append.mpr ⟨hs,
      List.forall_mem_append.mpr ⟨h.deviceEventAll _ g _ _, h.setMasterState _ _⟩⟩
  | onEntryArbitration => exact List.forall_mem_append.mpr ⟨hs, h.setMasterState _ _⟩
  | onEntryScanComplete => exact List.forall_mem_append.mpr ⟨hs, h.setMasterState _ _⟩

theorem transition (next : GroupState) (action : Option GroupAction) {s : Scope}
    (hs : ∀ x ∈ s.out, P x) : ∀ x ∈ (groupTransition g now unixMs next action s).1.out, P x := by
  have haction : ∀ x ∈ (groupPerformOption g now unixMs action (s.inState next)).1.out, P x := by
    cases action with
    | none =>
      rw [groupPerformOption_none]
      exact hs
    | some action =>
      rw [groupPerformOption_some]
      exact h.perform g now unixMs action hs
  rw [groupTransition_elim]
  cases (if next ≠ s.group.groupState then groupOnEntry next else none) with
  | none =>
    rw [Option.elim_none]
    exact haction
  | some onEntry =>
    rw [Option.elim_some]
    exact h.perform g now unixMs onEntry haction

theorem groupEvent (event : GroupEvent) {s : Scope} (hs : ∀ x ∈ s.out, P x) :
    ∀ x ∈ (clmIefbGroupFsmEvent g now unixMs event s).out, P x :=
  drive_inv (I := fun s : Scope => ∀ x ∈ s.out, P x)
    (fun _ _ hs => h.transition g now unixMs _ _ hs) _ _ _ hs

theorem monitor {s : Scope} (hs : ∀ x ∈ s.out, P x) :
    ∀ x ∈ (monitorGroupTimers g now unixMs s).out, P x := by
  have htimeout : ∀ x ∈ (if clTimerIsExpired s.group.responseWaitTimer now then
      clmIefbGroupFsmEvent g now unixMs .linkscanTimeout { s with group := { s.group with
        responseWaitTimer := clTimerStop s.group.responseWaitTimer } }
      else s).out, P x := by
    split
    · exact h.groupEvent g now unixMs _ hs
    · exact hs
  have hconstant : ∀ t : Scope, (∀ x ∈ t.out, P x) →
      ∀ x ∈ (if clTimerIsExpired t.group.constantLinkscanTimer now then
        clmIefbGroupFsmEvent g now unixMs .linkscanStart { t with group := { t.group with
          constantLinkscanTimer := clTimerStop t.group.constantLinkscanTimer } }
        else t).out, P x := by
    intro t ht
    split
    · exact h.groupEvent g now unixMs _ ht
    · exact ht
  exact hconstant _ htimeout

end

/-! ## the functions of the master -/

omit h in
theorem forGroups {c : Clm} {f : Nat → Scope → Scope}
    (hf : ∀ g s, (∀ x ∈ s.out, P x) → ∀ x ∈ (f g s).out, P x) : ∀ x ∈ (c.forGroups f).2, P x :=
  (Clm.forGroups_spec (c := c) (f := f) (fun _ _ => True) (fun _ _ _ => True) P trivial
    (fun g _ _ _ => ⟨trivial, trivial, hf g _ (List.forall_mem_nil _)⟩)).2.2.2

theorem event (now : UInt32) (unixMs : Nat → UInt64) (event : GroupEvent) (c : Clm) :
    ∀ x ∈ (clmIefbGroupFsmEventAll now unixMs event c).2, P x :=
  forGroups fun g _ hs => h.groupEvent g now unixMs event hs

theorem periodicTimers (now : UInt32) (unixMs : Nat → UInt64) (c : Clm) :
    ∀ x ∈ (clmIefbPeriodicTimers now unixMs c).2, P x := by
  unfold clmIefbPeriodicTimers
  simp only
  refine List.forall_mem_append.mpr
    ⟨?_, forGroups fun g _ hs => h.monitor g now unixMs hs⟩
  split
  · exact h.event now unixMs _ _
  · exact List.forall_mem_nil _

theorem checkResponse {g d : Nat} (now : UInt32) {r : CyclicResponse} {s : Scope}
    (hs : ∀ x ∈ s.out, P x)
    (hd : sendsDuplication (s.group.slaveDevices d) r = true →
      ∀ ipAddr n, P (.errorCb .slaveDuplication ipAddr n)) :
    ∀ x ∈ (checkResponse g d now r s).1.out, P x := by
  have halarm : ∀ (s : Scope) (message : ErrorMessage) (alarm : Prop) [Decidable alarm],
      message ≠ .slaveDuplication → (∀ x ∈ s.out, P x) → ∀ x ∈ (if alarm then
        (s.modifyDevice d countAlarm).triggerError now message r.remoteIp else s).out, P x := by
    intro s message alarm _ hm hs
    split
    · exact List.forall_mem_append.mpr ⟨hs, triggerError fun n => h.error _ _ n hm⟩
    · exact hs
  have hreport : ∀ x ∈ (reportAlarms d now r (s.modifyDevice d countIncoming)).out, P x :=
    halarm _ _ _ (by simp) (halarm _ _ _ (by simp) hs)
  have hdev : sendsDuplication ((s.modifyDevice d countIncoming).group.slaveDevices d) r
      = sendsDuplication (s.group.slaveDevices d) r := by
    rw [Scope.modifyDevice, GroupData.modifyDevice_self]
    rfl
  unfold CLink.checkResponse
  simp only
  split
  · exact hs
  rename_i hen
  split
  · rename_i hdup
    rw [sendsDuplication, (Bool.not_eq_false _).mp hen, hdup] at hdev
    refine List.forall_mem_append.mpr ⟨?_, ?_⟩
    · exact List.forall_mem_append.mpr ⟨hs, triggerError fun n => hd hdev.symm _ n⟩
    · exact fun x hx => h.owner x g (clmIefbDeviceFsmEvent_out _ g d _ _ x hx).owner
  split
  · exact hs
  split
  · exact hreport
  · exact hreport

theorem handleDeviceResponse {g d : Nat} (now : UInt32) (unixMs : Nat → UInt64)
    {r : CyclicResponse} {c : Clm}
    (hd : sendsDuplication ((c.groups g).slaveDevices d) r = true →
      ∀ ipAddr n, P (.errorCb .slaveDuplication ipAddr n)) :
    ∀ x ∈ (handleDeviceResponse g d now unixMs r c).2.1, P x := by
  have hcheck : ∀ x ∈ (CLink.checkResponse g d now r (c.scope g)).1.out, P x :=
    h.checkResponse now (List.forall_mem_nil _) hd
  have hstored : ∀ x ∈ (storeResponse g d r (CLink.checkResponse g d now r (c.scope g)).1).out,
      P x := by
    rw [storeResponse_eq]
    refine List.forall_mem_append.mpr ⟨hcheck, ?_⟩
    intro x hx
    rcases List.mem_append.mp hx with hx | hx
    · exact h.owner x g (reports_spec g d r _ x hx).1
    · rw [List.mem_singleton.mp hx]
      exact h.owner _ g rfl
  unfold CLink.handleDeviceResponse
  simp only
  split
  · exact hcheck
  split
  · exact List.forall_mem_append.mpr ⟨hstored, h.event now unixMs _ _⟩
  · rename_i hcode
    rw [receiveResponse_eq now unixMs hcode]
    split
    · exact h.groupEvent g now unixMs _ hstored
    · exact hstored

/-- **All outputs of a step.** -/
theorem step {c : Clm} {e : Event}
    (hd : ∀ g d r, GroupReceives c e g (.response d r) →
      sendsDuplication ((c.groups g).slaveDevices d) r = true →
        ∀ ipAddr n, P (.errorCb .slaveDuplication ipAddr n)) :
    ∀ x ∈ (clmStep c e).2, P x := by
  unfold clmStep
  split
  · exact List.forall_mem_nil _
  cases e with
  | tick now unixMs => exact h.periodicTimers now unixMs c
  | frame now unixMs dg remoteIp remotePort =>
    have hcases := clmIefbHandleInputFrame_cases c now unixMs dg remoteIp remotePort
    simp only
    generalize clmIefbHandleInputFrame now unixMs dg remoteIp remotePort c = t at hcases
    cases hcases with
    | response g d r hg hdn hid hr hf =>
      exact h.handleDeviceResponse now unixMs (hd g d r ⟨_, _, _, _, _, rfl, hr⟩)
    | request hr hf => exact h.event now unixMs _ _
    | dropped aborted value hr hf => exact List.forall_mem_nil _
  | _ => exact List.forall_mem_nil _

end OutputRule

end CLink
