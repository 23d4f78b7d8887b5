import CLink.Master.Waiting

/-!
# Rejected frames

* `checkDevice_rejected`     a rejected response changes the statistics of its device, and a
                             duplicate its state and its timeout count;
* `handleInputFrame_rejected`   a datagram that is answered with -1;
* `foreignRequest_running`   a request of another master while the groups run;
* `frames_leaveIntact`       both, for all states of all runs.
-/

namespace CLink
open Loop Trace

/-! ## the device -/

/-- what a rejected response changes of its device -/
inductive RejectedDevice (r : CyclicResponse) (dev : SlaveDeviceData) : SlaveDeviceData → Prop where
  | counted (statistics : Statistics) :
    RejectedDevice r dev { dev with statistics := statistics }
  | duplicate (statistics : Statistics) (state : DeviceState) (timeoutCount : UInt16)
      (hen : dev.enabled = true) (hdup : isDuplicate dev r = true) :
    RejectedDevice r dev { dev with
      statistics := statistics, deviceState := state, timeoutCount := timeoutCount }

theorem deviceLocal_slaveDuplication_eq (gs : GroupSetting) (dev : SlaveDeviceData) :
    ∃ state timeoutCount, deviceLocal gs .slaveDuplication dev
      = { dev with deviceState := state, timeoutCount := timeoutCount } := by
  have henter : deviceLocal gs .slaveDuplication dev
      = dev.enter (deviceFsmMatrix dev.deviceState .slaveDuplication).1 := by
    unfold deviceLocal
    split
    · rename_i h
      cases h
    · rename_i h
      cases h
    · rfl
  rw [henter]
  unfold SlaveDeviceData.enter
  split
  · exact ⟨.listen, 0, rfl⟩
  · exact ⟨_, dev.timeoutCount, rfl⟩

theorem checkDevice_rejected {gs : GroupSetting} {d : Nat} {r : CyclicResponse} {gd : GroupData}
    (h : (checkDevice gs d r gd).2 = false) :
    RejectedDevice r (gd.slaveDevices d) (checkDevice gs d r gd).1 := by
  have hcounted : ∀ (dev : SlaveDeviceData) (statistics : Statistics),
      dev = { gd.slaveDevices d with statistics := statistics } →
      RejectedDevice r (gd.slaveDevices d) dev := by
    rintro dev statistics rfl
    exact .counted statistics
  revert h
  unfold checkDevice
  simp only
  split
  · intro _
    exact hcounted _ _ rfl
  · rename_i hen
    split
    · rename_i hdup
      intro _
      obtain ⟨state, timeoutCount, heq⟩ := deviceLocal_slaveDuplication_eq gs
        (countInvalid (countIncoming (gd.slaveDevices d)))
      rw [heq]
      exact .duplicate _ state timeoutCount ((Bool.not_eq_false _).mp hen) hdup
    · split
      · intro _
        exact hcounted _ _ rfl
      · obtain ⟨statistics, hst⟩ := countAlarms_core r (countIncoming (gd.slaveDevices d))
        split
        · intro _
          rw [hst]
          exact hcounted _ _ rfl
        · intro h
          cases h

/-! ## the master -/

/-- `c'` differs from `c` in the error limiter, and in the data of the device that answered -/
structure Intact (c c' : Clm) (answer : Option (Nat × Nat × CyclicResponse)) (out : List Output) :
    Prop where
  shared : ∃ limiter, c'.shared = { c.shared with errorlimiter := limiter }
  noFrame : ∀ x ∈ out, ∃ message ipAddr n, x = .errorCb message ipAddr n
  groups : c'.groups = c.groups
    ∨ ∃ g d r dev, answer = some (g, d, r)
      ∧ RejectedDevice r ((c.groups g).slaveDevices d) dev
      ∧ c'.groups = Function.update c.groups g ((c.groups g).modifyDevice d (fun _ => dev))

theorem handleInputFrame_rejected {c : Clm} {now : UInt32} {unixMs : Nat → UInt64} {dg : Datagram}
    {remoteIp : IpAddr} {remotePort : UInt16}
    (h : (clmIefbHandleInputFrame now unixMs dg remoteIp remotePort c).2.2 = -1) :
    Intact c (clmIefbHandleInputFrame now unixMs dg remoteIp remotePort c).1
      (clmResponse c now dg remoteIp remotePort)
      (clmIefbHandleInputFrame now unixMs dg remoteIp remotePort c).2.1 := by
  have hcases := clmIefbHandleInputFrame_cases c now unixMs dg remoteIp remotePort
  generalize clmIefbHandleInputFrame now unixMs dg remoteIp remotePort c = t at hcases h ⊢
  cases hcases with
  | response g d r hg hd hid hr hf =>
    have hc : (checkDevice (c.setting g) d r (c.groups g)).2 = false := by
      rw [handleDeviceResponse_value] at h
      by_contra hc
      rw [if_pos ((Bool.not_eq_false _).mp hc)] at h
      cases h
    obtain ⟨hspec, hcheck⟩ := checkResponse_spec g d now r (c.scope g)
    have hc' : (checkResponse g d now r (c.scope g)).2 = false := hcheck.trans hc
    obtain ⟨hlimiter, o, ho, herr⟩ := checkResponse_errorsOnly g d now r (c.scope g)
    have hresult : handleDeviceResponse g d now unixMs r c
        = ((c.setScope g (checkResponse g d now r (c.scope g)).1).1,
          (c.setScope g (checkResponse g d now r (c.scope g)).1).2, -1) := by
      unfold handleDeviceResponse
      simp only
      rw [if_pos hc']
    rw [hresult]
    refine ⟨hlimiter, ?_, Or.inr ⟨g, d, r, _, hr, checkDevice_rejected hc, ?_⟩⟩
    · intro x hx
      have hx' : x ∈ (checkResponse g d now r (c.scope g)).1.out := hx
      rw [ho] at hx'
      exact herr x hx'
    · show Function.update c.groups g _ = _
      rw [hspec.group]
      rfl
  | request hr hf => cases h
  | dropped aborted value hr hf =>
    exact ⟨⟨c.shared.errorlimiter, rfl⟩, fun _ hx => absurd hx List.not_mem_nil, Or.inl rfl⟩

/-- no group has a row with an action or another state -/
theorem foreignRequest_running {c : Clm}
    (hrun : ∀ g, g < c.numGroups → (c.groups g).groupState.phase = some .running)
    (now : UInt32) (unixMs : Nat → UInt64) {dg : Datagram} {remoteIp : IpAddr} (remotePort : UInt16)
    (hf : clmForeignRequest c dg remoteIp = true) :
    clmIefbHandleInputFrame now unixMs dg remoteIp remotePort c
      = ({ c with shared := { c.shared with latestConflictingMasterIp := remoteIp } }, [], 0) := by
  have hcases := clmIefbHandleInputFrame_cases c now unixMs dg remoteIp remotePort
  generalize clmIefbHandleInputFrame now unixMs dg remoteIp remotePort c = t at hcases ⊢
  cases hcases with
  | response g d r hg hd hid hr hf' =>
    rw [hf] at hf'
    cases hf'
  | request hr hf' =>
    have hall : clmIefbGroupFsmEventAll now unixMs .reqFromOther
        { c with shared := { c.shared with latestConflictingMasterIp := remoteIp } }
          = ({ c with shared := { c.shared with latestConflictingMasterIp := remoteIp } }, []) := by
      refine loop_inv (fun _ t => t
        = ({ c with shared := { c.shared with latestConflictingMasterIp := remoteIp } }, [])) rfl ?_
      rintro g t hg rfl
      simp only
      rw [clmIefbGroupFsmEvent_stay g now unixMs]
      · simp [Clm.setScope, Clm.scope]
      · have hs := GroupState.phase_running (hrun g hg)
        show groupFsmMatrix (c.groups g).groupState _ = ((c.groups g).groupState, none)
        rcases hs with hs | hs <;> rw [hs] <;> rfl
    unfold clmIefbHandleRequestFrame
    simp only [hall]
  | dropped aborted value hr hf' =>
    rw [hf] at hf'
    cases hf'

/-! ## runs -/

/-- frames that a master does not act on -/
structure LeavesIntact (c : Clm) : Prop where
  rejected : ∀ now unixMs dg remoteIp remotePort,
    (clmIefbHandleInputFrame now unixMs dg remoteIp remotePort c).2.2 = -1 →
    Intact c (clmIefbHandleInputFrame now unixMs dg remoteIp remotePort c).1
      (clmResponse c now dg remoteIp remotePort)
      (clmIefbHandleInputFrame now unixMs dg remoteIp remotePort c).2.1
  foreignRequest : ∀ g, g < c.numGroups →
    (c.groups g).groupState = .masterLinkScan ∨ (c.groups g).groupState = .masterLinkScanComp →
    ∀ now unixMs dg remoteIp remotePort, clmForeignRequest c dg remoteIp = true →
    clmIefbHandleInputFrame now unixMs dg remoteIp remotePort c
      = ({ c with shared := { c.shared with latestConflictingMasterIp := remoteIp } }, [], 0)

/-- **Frames that leave the master intact**, in every state of every run. -/
theorem MasterStart.frames_leaveIntact {o : Options} (st : MasterStart o) (es : List Event) :
    LeavesIntact (st.run es).1 := by
  refine ⟨?_, ?_⟩
  · intro now unixMs dg remoteIp remotePort h
    exact handleInputFrame_rejected h
  · intro g hg hs now unixMs dg remoteIp remotePort hf
    obtain ⟨P, h, _⟩ := st.run_lockstep es
    have hphase := h.phase g hg
    obtain rfl : P = .running := by
      rcases hs with hs | hs
      · rw [hs] at hphase
        exact (Option.some.inj hphase).symm
      · rw [hs] at hphase
        exact (Option.some.inj hphase).symm
    exact foreignRequest_running h.phase now unixMs remotePort hf

end CLink
