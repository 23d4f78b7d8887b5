import CLink.Master.Progress
import CLink.Master.SlaveDuplication

/-!
# The rounds of a group whose devices all answer

* `Ready`, `Waiting`, `Done`   a device before a request, until its answer, and afterwards;
* `Attended`                   what the application leaves alone;
* `Attended.start`             a request is sent;
* `Attended.accept`            an answer is accepted;
* `Attended.haveReceived_iff`  all have answered;
* `Attended.endScan`           the round is over.
-/

namespace CLink
open Loop Trace

/-! ## the devices -/

/-- the master waits for the answers of the device -/
def GroupSetting.asks (gs : GroupSetting) (d : Nat) : Prop :=
  d < gs.numSlaveDevices.toNat ∧ (gs.slaveDevices d).reservedSlaveDevice = false

/-- before the request with the number `seq` -/
structure Ready (seq : UInt16) (dev : SlaveDeviceData) : Prop where
  state : dev.deviceState = if seq = 0 then .listen else .cyclicSent
  latest : dev.latestFrame.hasBeenReceived = true → dev.latestFrame.frameSequenceNo ≠ seq
  bit : seq = 0 → dev.transmissionBit = false

/-- asked, without an answer so far -/
structure Waiting (seq : UInt16) (dev : SlaveDeviceData) : Prop where
  state : dev.deviceState = if seq = 0 then .waitTd else .cyclicSending
  latest : dev.latestFrame.hasBeenReceived = true → dev.latestFrame.frameSequenceNo ≠ seq
  bit : seq ≠ 0 → dev.transmissionBit = true

/-- the answer has been accepted -/
structure Done (seq : UInt16) (dev : SlaveDeviceData) : Prop where
  state : dev.deviceState = .cyclicSent
  latest : dev.latestFrame.hasBeenReceived = true → dev.latestFrame.frameSequenceNo = seq
  bit : seq ≠ 0 → dev.transmissionBit = true

/-- the device after a call of the application, or with other statistics -/
structure Untouched (dev dev' : SlaveDeviceData) : Prop where
  enabled : dev'.enabled = dev.enabled
  bit : dev'.transmissionBit = dev.transmissionBit
  force : dev'.forceTransmissionBit = dev.forceTransmissionBit
  state : dev'.deviceState = dev.deviceState
  latest : dev'.latestFrame = dev.latestFrame ∨ dev'.latestFrame.hasBeenReceived = false

section
variable {seq : UInt16} {dev dev' : SlaveDeviceData}

theorem Untouched.refl (dev : SlaveDeviceData) : Untouched dev dev :=
  ⟨rfl, rfl, rfl, rfl, Or.inl rfl⟩

theorem Untouched.latestFrame (h : Untouched dev dev') {P : UInt16 → Prop}
    (hP : dev.latestFrame.hasBeenReceived = true → P dev.latestFrame.frameSequenceNo) :
    dev'.latestFrame.hasBeenReceived = true → P dev'.latestFrame.frameSequenceNo := by
  intro hreceived
  rcases h.latest with heq | hcleared
  · rw [heq] at hreceived ⊢
    exact hP hreceived
  · rw [hcleared] at hreceived
    cases hreceived

theorem Ready.untouched (h : Ready seq dev) (hu : Untouched dev dev') : Ready seq dev' :=
  ⟨hu.state.trans h.state, hu.latestFrame (P := fun n => n ≠ seq) h.latest,
    fun hs => hu.bit.trans (h.bit hs)⟩

theorem Waiting.untouched (h : Waiting seq dev) (hu : Untouched dev dev') : Waiting seq dev' :=
  ⟨hu.state.trans h.state, hu.latestFrame (P := fun n => n ≠ seq) h.latest,
    fun hs => hu.bit.trans (h.bit hs)⟩

theorem Done.untouched (h : Done seq dev) (hu : Untouched dev dev') : Done seq dev' :=
  ⟨hu.state.trans h.state, hu.latestFrame (P := fun n => n = seq) h.latest,
    fun hs => hu.bit.trans (h.bit hs)⟩

theorem Waiting.not_done (h : Waiting seq dev) : dev.deviceState ≠ .cyclicSent := by
  rw [h.state]
  split <;> decide

end

/-- the devices that are reserved stay out -/
structure Attended (gs : GroupSetting) (gd : GroupData) : Prop where
  enabled : ∀ d, d < gs.numSlaveDevices.toNat →
    (gd.slaveDevices d).enabled = !(gs.slaveDevices d).reservedSlaveDevice
  force : ∀ d, d < gs.numSlaveDevices.toNat → (gd.slaveDevices d).forceTransmissionBit = false
  reserved : ∀ d, d < gs.numSlaveDevices.toNat → (gs.slaveDevices d).reservedSlaveDevice = true →
    (gd.slaveDevices d).transmissionBit = false
      ∧ ((gd.slaveDevices d).deviceState = .listen
        ∨ (gd.slaveDevices d).deviceState = .cyclicSuspend)

namespace Attended
variable {gs : GroupSetting} {gd gd' : GroupData}

theorem asked_enabled (h : Attended gs gd) {d : Nat} (hd : gs.asks d) :
    (gd.slaveDevices d).enabled = true := by
  rw [h.enabled d hd.1, hd.2]
  rfl

theorem untouched (h : Attended gs gd)
    (hu : ∀ d, d < gs.numSlaveDevices.toNat → Untouched (gd.slaveDevices d) (gd'.slaveDevices d)) :
    Attended gs gd' := by
  refine ⟨?_, ?_, ?_⟩
  · intro d hd
    exact (hu d hd).enabled.trans (h.enabled d hd)
  · intro d hd
    exact (hu d hd).force.trans (h.force d hd)
  · intro d hd hreserved
    rw [(hu d hd).bit, (hu d hd).state]
    exact h.reserved d hd hreserved

/-! ## the round -/

theorem notIgnored (h : Attended gs gd) {d : Nat} (hd : gs.asks d) :
    ¬ scanStartIgnored (gd.slaveDevices d) = true := by
  unfold scanStartIgnored
  rw [h.asked_enabled hd]
  simp

theorem nextState (h : Attended gs gd) {d : Nat} (hd : gs.asks d)
    (hready : Ready gd.frameSequenceNo (gd.slaveDevices d)) :
    scanStartState (gd.slaveDevices d)
      = if gd.frameSequenceNo = 0 then .waitTd else .cyclicSending := by
  unfold scanStartState
  rw [h.asked_enabled hd, if_pos rfl, hready.state]
  by_cases hseq : gd.frameSequenceNo = 0
  · rw [if_pos hseq, if_pos hseq]
    exact if_neg (by decide)
  · rw [if_neg hseq, if_neg hseq]
    exact if_pos rfl

/-- the bit of a device is on in all requests but the first one -/
theorem bitGoesOut (h : Attended gs gd) {d : Nat} (hd : gs.asks d)
    (hready : Ready gd.frameSequenceNo (gd.slaveDevices d)) :
    bitGoesOut gs gd.scanning d = decide (gd.frameSequenceNo ≠ 0) := by
  have hnext := h.nextState hd hready
  unfold CLink.bitGoesOut outgoingBit
  rw [if_neg (show ¬ scanStartIgnored (gd.scanning.slaveDevices d) = true from h.notIgnored hd)]
  show decide (scanStartState (gd.slaveDevices d) = .cyclicSending
    ∨ (gd.slaveDevices d).forceTransmissionBit = true) = _
  rw [hnext, h.force d hd.1]
  by_cases hseq : gd.frameSequenceNo = 0
  · rw [if_pos hseq, hseq]
    rfl
  · rw [if_neg hseq]
    simp [hseq]

/-- **The request.**  All devices are asked, and none is disconnected. -/
theorem start {o : Options} {cfg : Config} {parameterNo : UInt16} {g : Nat} {now : UInt32}
    (hv : GroupValid o cfg (cfg.hier.groups g)) (hinv : GroupInv cfg parameterNo g gd)
    (hs : gd.groupState = .masterLinkScanComp) (h : Attended (cfg.hier.groups g) gd)
    (hready : ∀ d, (cfg.hier.groups g).asks d → Ready gd.frameSequenceNo (gd.slaveDevices d))
    (hst : LinkscanStarted (cfg.hier.groups g) g now gd gd') :
    Attended (cfg.hier.groups g) gd'
      ∧ (∀ d, (cfg.hier.groups g).asks d → Waiting gd'.frameSequenceNo (gd'.slaveDevices d))
      ∧ ∀ g' d id, .disconnectCb g' d id ∉ (startDevices (cfg.hier.groups g) g gd.scanning).2 := by
  have hfields {d : Nat} (hd : d < (cfg.hier.groups g).numSlaveDevices.toNat) :
      StartedFields (gd.slaveDevices d) (gd'.slaveDevices d) := by
    rw [hst.devices, hst.started.device d hd]
    exact startedDevice_fields _ g d _
  have hstate {d : Nat} (hd : d < (cfg.hier.groups g).numSlaveDevices.toNat) :
      (gd.slaveDevices d).deviceState = .listen ∨ (gd.slaveDevices d).deviceState = .cyclicSent := by
    have hphase := hinv.phase d hd
    rw [hs] at hphase
    exact hphase.imp id And.left
  have hnext {d : Nat} (hd : (cfg.hier.groups g).asks d) := h.nextState hd (hready d hd)
  refine ⟨⟨?_, ?_, ?_⟩, ?_, ?_⟩
  · intro d hd
    exact (hfields hd).enabled.trans (h.enabled d hd)
  · intro d hd
    exact (hfields hd).force.trans (h.force d hd)
  · intro d hd hreserved
    obtain ⟨hbit, hold⟩ := h.reserved d hd hreserved
    have hoff : (gd.slaveDevices d).enabled = false := by
      rw [h.enabled d hd, hreserved]
      rfl
    have hsuspend : scanStartState (gd.slaveDevices d) = .cyclicSuspend := by
      unfold scanStartState
      rw [hoff]
      rfl
    refine ⟨?_, Or.inr ((hfields hd).state.trans hsuspend)⟩
    rw [(hfields hd).bit, hbit, hsuspend]
    split <;> rfl
  · intro d hd
    refine ⟨?_, ?_, ?_⟩
    · rw [(hfields hd.1).state, hst.seq]
      exact hnext hd
    · rw [(hfields hd.1).latest, hst.seq]
      exact (hready d hd).latest
    · intro hseq
      rw [hst.seq] at hseq
      rw [(hfields hd.1).bit, if_neg (h.notIgnored hd), hnext hd, if_neg hseq]
      rfl
  · intro g' d id hmem
    have hdisconnects : d < (cfg.hier.groups g).numSlaveDevices.toNat
        ∧ (gd.slaveDevices d).transmissionBit = true
        ∧ scanStartState (gd.slaveDevices d) ≠ .cyclicSending := by
      apply startDevices_disconnects hv _ _ hmem
      · exact hinv.station
      · exact fun d hd => hstate hd
    obtain ⟨hd, hbit', hsending'⟩ := hdisconnects
    by_cases hreserved : ((cfg.hier.groups g).slaveDevices d).reservedSlaveDevice = true
    · rw [(h.reserved d hd hreserved).1] at hbit'
      cases hbit'
    · have hasks : (cfg.hier.groups g).asks d := ⟨hd, (Bool.not_eq_true _).mp hreserved⟩
      rw [hnext hasks] at hsending'
      by_cases hseq : gd.frameSequenceNo = 0
      · rw [(hready d hasks).bit hseq] at hbit'
        cases hbit'
      · exact hsending' (if_neg hseq)

/-- the checks that an answer passes -/
structure Answer (gs : GroupSetting) (d : Nat) (seq : UInt16) (r : CyclicResponse) : Prop where
  seq : r.fullHeaders.cyclicDataHeader.frameSequenceNo = seq
  endCode : r.fullHeaders.cyclicHeader.endCode = endcodeSuccess
  stations : r.numberOfOccupied = (gs.slaveDevices d).numOccupiedStations

/-- **The end of the round.**  The group has received from all devices when all that it asks have
answered. -/
theorem haveReceived_iff (h : Attended gs gd)
    (hasked : ∀ d, gs.asks d → Waiting gd.frameSequenceNo (gd.slaveDevices d)
      ∨ Done gd.frameSequenceNo (gd.slaveDevices d))
    {d : Nat} (hd : gs.asks d) (hdone : Done gd.frameSequenceNo (gd.slaveDevices d)) :
    clmIefbGroupHaveReceivedFromAllDevices gs gd = true
      ↔ ∀ d, gs.asks d → Done gd.frameSequenceNo (gd.slaveDevices d) := by
  unfold clmIefbGroupHaveReceivedFromAllDevices
  simp only
  by_cases hseq : gd.frameSequenceNo = 0
  · rw [if_pos hseq, decide_eq_true_iff]
    constructor
    · rintro ⟨hnone, _⟩ e he
      refine (hasked e he).resolve_left fun hw => hnone e he.1 ?_
      rw [hw.state, if_pos hseq]
    · intro hall
      refine ⟨?_, d, hd.1, hdone.state⟩
      intro e he
      by_cases hreserved : (gs.slaveDevices e).reservedSlaveDevice = true
      · rcases (h.reserved e he hreserved).2 with hs | hs <;> rw [hs] <;> decide
      · rw [(hall e ⟨he, (Bool.not_eq_true _).mp hreserved⟩).state]
        decide
  · rw [if_neg hseq, decide_eq_true_iff]
    constructor
    · rintro ⟨hnone, _⟩ e he
      refine (hasked e he).resolve_left fun hw => hnone e he.1 ⟨hw.bit hseq, ?_⟩
      rw [hw.state, if_neg hseq]
    · intro hall
      refine ⟨?_, d, hd.1, hdone.bit hseq⟩
      rintro e he ⟨_, hsending⟩
      by_cases hreserved : (gs.slaveDevices e).reservedSlaveDevice = true
      · rcases (h.reserved e he hreserved).2 with hs | hs <;> rw [hs] at hsending <;> cases hsending
      · rw [(hall e ⟨he, (Bool.not_eq_true _).mp hreserved⟩).state] at hsending
        cases hsending

theorem updateFrameSequenceNo_ne (n : UInt16) : clmIefbUpdateFrameSequenceNo n ≠ n := by
  unfold clmIefbUpdateFrameSequenceNo
  split
  · rename_i h
    rw [h]
    decide
  · intro h
    have hval := congrArg UInt16.toNat h
    rw [UInt16.toNat_add] at hval
    have hlt := n.toNat_lt
    show False
    have hone : (1 : UInt16).toNat = 1 := rfl
    rw [hone] at hval
    omega

/-- the devices are ready for the next request -/
theorem endScan (h : Attended gs gd)
    (hdone : ∀ d, gs.asks d → Done gd.frameSequenceNo (gd.slaveDevices d)) :
    let ended := gd.endScan gs .groupAllResponded
    Attended gs ended ∧ ∀ d, gs.asks d → Ready ended.frameSequenceNo (ended.slaveDevices d) := by
  intro ended
  have hdevice {d : Nat} (hd : d < gs.numSlaveDevices.toNat) :
      ended.slaveDevices d = deviceLocal gs .groupAllResponded (gd.slaveDevices d) :=
    GroupData.endScan_slaveDevices gs _ gd hd
  have hsame (dev : SlaveDeviceData) := deviceLocal_same gs .groupAllResponded dev
  refine ⟨⟨?_, ?_, ?_⟩, ?_⟩
  · intro d hd
    rw [hdevice hd, (hsame _).enabled]
    exact h.enabled d hd
  · intro d hd
    rw [hdevice hd, (hsame _).force]
    exact h.force d hd
  · intro d hd hreserved
    obtain ⟨hbit, hs⟩ := h.reserved d hd hreserved
    rw [hdevice hd, (hsame _).bit]
    refine ⟨hbit, Or.inl ?_⟩
    rw [deviceLocal_deviceState]
    rcases hs with hs | hs <;> rw [hs] <;> rfl
  · intro d hd
    have hne : ended.frameSequenceNo ≠ 0 := clmIefbUpdateFrameSequenceNo_ne_zero _
    refine ⟨?_, ?_, fun hseq => absurd hseq hne⟩
    · rw [if_neg hne, hdevice hd.1, deviceLocal_deviceState, (hdone d hd).state]
      rfl
    · rw [hdevice hd.1, (hsame _).latest]
      intro hreceived
      rw [(hdone d hd).latest hreceived]
      exact (updateFrameSequenceNo_ne _).symm

/-- a response of a reserved device -/
theorem dropped (h : Attended gs gd) {d : Nat} (hd : d < gs.numSlaveDevices.toNat)
    (hreserved : (gs.slaveDevices d).reservedSlaveDevice = true) (r : CyclicResponse) :
    (checkDevice gs d r gd).2 = false
      ∧ Untouched (gd.slaveDevices d) (checkDevice gs d r gd).1 := by
  have hoff : (countIncoming (gd.slaveDevices d)).enabled = false := by
    show (gd.slaveDevices d).enabled = false
    rw [h.enabled d hd, hreserved]
    rfl
  unfold checkDevice
  simp only
  rw [if_pos hoff]
  exact ⟨rfl, rfl, rfl, rfl, rfl, Or.inl rfl⟩

end Attended

end CLink
