import CLink.Master.Group

/-!
# The outgoing frame at the start of a link scan

The frame of a group is written piece by piece: every device updates its own slots when its row of
the transition table runs `clm_iefb_set_data_ip`.  Between two link scans a device is in `LISTEN` or
in `CYCLIC_SENT`, and then the scan start leaves the slots of every device in one of two shapes.

* `SlotsDone`            the slots carry the device's address or 0.0.0.0, its bit and its data;
* `SlotsSame`            the slots are those of the previous link scan;
* `scanStartRound_spec`  the loop over the devices, round by round;
* `startDevices_spec`    the second shape is left by a disabled device in `CYCLIC_SENT`, the first by
                         all others;
* `startedDevice`        the data of a device after the scan start.
-/

namespace CLink
open Loop

/-! ## one device -/

/-- the state a device enters at the start of a link scan -/
def scanStartState (dev : SlaveDeviceData) : DeviceState :=
  if dev.enabled then if dev.deviceState = .cyclicSent then .cyclicSending else .waitTd
  else .cyclicSuspend

/-- the row of the table without an action: a disabled device in `CYCLIC_SENT` -/
def scanStartIgnored (dev : SlaveDeviceData) : Bool :=
  dev.enabled = false ∧ dev.deviceState = .cyclicSent

/-- the transmission bit that goes out -/
def outgoingBit (dev : SlaveDeviceData) : Bool :=
  scanStartState dev = .cyclicSending ∨ dev.forceTransmissionBit = true

/-- the bit in the frame once the device is in its new state -/
def sentBit (newState : DeviceState) (dev : SlaveDeviceData) : Bool :=
  newState = .cyclicSending ∨ dev.forceTransmissionBit = true

theorem setTransmissionBit_bit (gs : GroupSetting) (g d : Nat) (newState : DeviceState)
    (dev : SlaveDeviceData) :
    ((setTransmissionBit gs g d newState dev).1.transmissionBit
      || (setTransmissionBit gs g d newState dev).1.forceTransmissionBit) = sentBit newState dev := by
  unfold setTransmissionBit sentBit
  by_cases h : newState = .cyclicSending
  · rw [if_pos h]
    cases dev.transmissionBit <;> simp [h]
  · rw [if_neg h]
    cases dev.transmissionBit <;> simp [h]

def startedDevice (gs : GroupSetting) (g d : Nat) (dev : SlaveDeviceData) : SlaveDeviceData :=
  if scanStartIgnored dev then { dev with deviceState := .cyclicSuspend }
  else
    countSentFrame (setTransmissionBit gs g d (scanStartState dev)
      { dev with deviceState := scanStartState dev }).1

/-- the scan start event of one device -/
def startDevice (gs : GroupSetting) (g d : Nat) (gd : GroupData) : GroupData × List Output :=
  clmIefbDeviceFsmEvent gs g d
    (if (gd.slaveDevices d).enabled then .scanStartDeviceStart else .scanStartDeviceStop) gd

theorem startDevice_ignored {gs : GroupSetting} {g d : Nat} {gd : GroupData}
    (h : scanStartIgnored (gd.slaveDevices d) = true) :
    startDevice gs g d gd
      = (gd.modifyDevice d (fun dev => { dev with deviceState := .cyclicSuspend }), []) := by
  simp only [scanStartIgnored, decide_eq_true_eq] at h
  obtain ⟨he, hs⟩ := h
  unfold startDevice
  rw [he, if_neg (by simp), clmIefbDeviceFsmEvent_none gs g d .cyclicSuspend
    (by rw [hs]; rfl)]
  rw [GroupData.modifyDevice_congr gd d (fun dev => { dev with deviceState := .cyclicSuspend })]
  simp [SlaveDeviceData.enter]

theorem startDevice_setDataIp {gs : GroupSetting} {g d : Nat} {gd : GroupData}
    (hs : (gd.slaveDevices d).deviceState = .listen ∨ (gd.slaveDevices d).deviceState = .cyclicSent)
    (h : scanStartIgnored (gd.slaveDevices d) = false) :
    startDevice gs g d gd
      = clmIefbSetDataIp gs g d (scanStartState (gd.slaveDevices d))
          (gd.modifyDevice d (fun dev => { dev with
            deviceState := scanStartState (gd.slaveDevices d) })) := by
  have hne : scanStartState (gd.slaveDevices d) ≠ .listen := by
    unfold scanStartState
    split
    · split <;> simp
    · simp
  unfold startDevice
  refine clmIefbDeviceFsmEvent_setDataIp gs g d gd ?_ hne
  by_cases he : (gd.slaveDevices d).enabled = true
  · rw [if_pos he]
    rcases hs with hs | hs
    · simp only [scanStartState, he, hs]
      rfl
    · simp only [scanStartState, he, hs]
      rfl
  · rw [if_neg he]
    rcases hs with hs | hs
    · simp only [scanStartState, he, hs]
      rfl
    · simp [scanStartIgnored, hs] at h
      exact absurd h he

/-! ## slots -/

/-- positions and bit of device `d` are the same in both groups -/
structure SlotsSame (gs : GroupSetting) (gd gd' : GroupData) (d : Nat) : Prop where
  ids : ∀ j, j < gs.num d → gd'.reqFrame.slaveIds (gs.pos d + j) = gd.reqFrame.slaveIds (gs.pos d + j)
  rww : ∀ j, j < gs.num d → gd'.reqFrame.rww (gs.pos d + j) = gd.reqFrame.rww (gs.pos d + j)
  ry : ∀ j, j < gs.num d → gd'.reqFrame.ry (gs.pos d + j) = gd.reqFrame.ry (gs.pos d + j)
  bit : clIefbExtractMyTransmissionState gd'.cyclicTransmissionState (UInt16.ofNat (gs.pos d + 1))
    = clIefbExtractMyTransmissionState gd.cyclicTransmissionState (UInt16.ofNat (gs.pos d + 1))

/-- positions and bit of device `d` have been written for the link scan that starts in `gd` -/
structure SlotsDone (gs : GroupSetting) (gd gd' : GroupData) (d : Nat) : Prop where
  id : gd'.reqFrame.slaveIds (gs.pos d)
    = if (gd.slaveDevices d).enabled then (gs.slaveDevices d).slaveId else ipaddrInvalid
  fillers : ∀ j, 1 ≤ j → j < gs.num d →
    gd'.reqFrame.slaveIds (gs.pos d + j) = gd.reqFrame.slaveIds (gs.pos d + j)
  rww : ∀ j, j < gs.num d → gd'.reqFrame.rww (gs.pos d + j)
    = if outgoingBit (gd.slaveDevices d) then gd.memoryArea.rww (gs.pos d + j) else WordArea.zero
  ry : ∀ j, j < gs.num d → gd'.reqFrame.ry (gs.pos d + j)
    = if outgoingBit (gd.slaveDevices d) then gd.memoryArea.ry (gs.pos d + j) else BitArea.zero
  bit : clIefbExtractMyTransmissionState gd'.cyclicTransmissionState (UInt16.ofNat (gs.pos d + 1))
    = outgoingBit (gd.slaveDevices d)

/-- the slots of device `d` after the scan start -/
def Slots (gs : GroupSetting) (gd gd' : GroupData) (d : Nat) : Prop :=
  if scanStartIgnored (gd.slaveDevices d) then SlotsSame gs gd gd' d else SlotsDone gs gd gd' d

theorem SlotsSame.refl (gs : GroupSetting) (gd : GroupData) (d : Nat) : SlotsSame gs gd gd d :=
  ⟨fun _ _ => rfl, fun _ _ => rfl, fun _ _ => rfl, rfl⟩

theorem SlotsSame.trans {gs : GroupSetting} {a b c : GroupData} {d : Nat}
    (h : SlotsSame gs a b d) (h' : SlotsSame gs b c d) : SlotsSame gs a c d :=
  ⟨fun j hj => (h'.ids j hj).trans (h.ids j hj), fun j hj => (h'.rww j hj).trans (h.rww j hj),
    fun j hj => (h'.ry j hj).trans (h.ry j hj), h'.bit.trans h.bit⟩

theorem modifyDevice_slots (gs : GroupSetting) (gd : GroupData) (k : Nat)
    (f : SlaveDeviceData → SlaveDeviceData) (d : Nat) : SlotsSame gs gd (gd.modifyDevice k f) d :=
  ⟨fun _ _ => rfl, fun _ _ => rfl, fun _ _ => rfl, rfl⟩

/-- what has been written stays while other devices are handled -/
theorem Slots.same {gs : GroupSetting} {gd t t' : GroupData} {d : Nat}
    (hn : 1 ≤ gs.num d) (h : Slots gs gd t d) (h' : SlotsSame gs t t' d) : Slots gs gd t' d := by
  unfold Slots at h ⊢
  split at h
  · rename_i hi
    rw [if_pos hi]
    exact h.trans h'
  · rename_i hi
    rw [if_neg hi]
    exact ⟨(h'.ids 0 hn).trans h.id, fun j h1 hj => (h'.ids j hj).trans (h.fillers j h1 hj),
      fun j hj => (h'.rww j hj).trans (h.rww j hj), fun j hj => (h'.ry j hj).trans (h.ry j hj),
      h'.bit.trans h.bit⟩

section
variable {o : Options} {cfg : Config} {gs : GroupSetting} (hv : GroupValid o cfg gs) {g k : Nat}
  (hk : k < gs.numSlaveDevices.toNat) {gd : GroupData}
  (hstation : (gd.slaveDevices k).slaveStationNo = UInt16.ofNat (gs.pos k + 1))
include hv hk hstation

/-- the fields that `clm_iefb_set_data_ip` changes, with the station number as a position -/
theorem clmIefbSetDataIp_eq (newState : DeviceState) :
    (clmIefbSetDataIp gs g k newState gd).1
      = { gd with
          cyclicTransmissionState := clIefbSetCyclicTransmissionState gd.cyclicTransmissionState
            (UInt16.ofNat (gs.pos k + 1)) (sentBit newState (gd.slaveDevices k))
          reqFrame := { gd.reqFrame with
            slaveIds := Function.update gd.reqFrame.slaveIds (gs.pos k)
              (if newState ≠ .cyclicSuspend then (gs.slaveDevices k).slaveId else ipaddrInvalid)
            rww := blit gd.reqFrame.rww (fun j =>
              if sentBit newState (gd.slaveDevices k) then gd.memoryArea.rww (gs.pos k + j)
              else WordArea.zero) (gs.pos k) (gs.num k)
            ry := blit gd.reqFrame.ry (fun j =>
              if sentBit newState (gd.slaveDevices k) then gd.memoryArea.ry (gs.pos k + j)
              else BitArea.zero) (gs.pos k) (gs.num k) }
          slaveDevices := Function.update gd.slaveDevices k
            (countSentFrame (setTransmissionBit gs g k newState (gd.slaveDevices k)).1) } := by
  have hbit := setTransmissionBit_bit gs g k newState (gd.slaveDevices k)
  have hst : (setTransmissionBit gs g k newState (gd.slaveDevices k)).1.slaveStationNo
      = UInt16.ofNat (gs.pos k + 1) := by
    rw [← hstation]
    unfold setTransmissionBit
    split <;> split <;> rfl
  have hnat := hv.stationNo_toNat hk
  have hnum : (gs.slaveDevices k).numOccupiedStations.toNat = gs.num k := rfl
  simp only [clmIefbSetDataIp, hbit, hst, clmIefbUpdateRequestSlaveId,
    clmIefbUpdateRequestFrameCyclicDataOneDevice, hnat, hnum, Nat.add_sub_cancel, decide_eq_true_eq]
  cases sentBit newState (gd.slaveDevices k) <;> rfl

theorem clmIefbSetDataIp_slaveIds (newState : DeviceState) :
    (clmIefbSetDataIp gs g k newState gd).1.reqFrame.slaveIds
      = Function.update gd.reqFrame.slaveIds (gs.pos k)
          (if newState ≠ .cyclicSuspend then (gs.slaveDevices k).slaveId else ipaddrInvalid) := by
  rw [clmIefbSetDataIp_eq hv hk hstation]

theorem clmIefbSetDataIp_rww (newState : DeviceState) :
    (clmIefbSetDataIp gs g k newState gd).1.reqFrame.rww
      = blit gd.reqFrame.rww (fun j =>
          if sentBit newState (gd.slaveDevices k) then gd.memoryArea.rww (gs.pos k + j)
          else WordArea.zero) (gs.pos k) (gs.num k) := by
  rw [clmIefbSetDataIp_eq hv hk hstation]

theorem clmIefbSetDataIp_ry (newState : DeviceState) :
    (clmIefbSetDataIp gs g k newState gd).1.reqFrame.ry
      = blit gd.reqFrame.ry (fun j =>
          if sentBit newState (gd.slaveDevices k) then gd.memoryArea.ry (gs.pos k + j)
          else BitArea.zero) (gs.pos k) (gs.num k) := by
  rw [clmIefbSetDataIp_eq hv hk hstation]

theorem clmIefbSetDataIp_cyclicTransmissionState (newState : DeviceState) :
    (clmIefbSetDataIp gs g k newState gd).1.cyclicTransmissionState
      = clIefbSetCyclicTransmissionState gd.cyclicTransmissionState (UInt16.ofNat (gs.pos k + 1))
          (sentBit newState (gd.slaveDevices k)) := by
  rw [clmIefbSetDataIp_eq hv hk hstation]

/-- it only writes the slots of its device -/
theorem clmIefbSetDataIp_other {d : Nat} (hd : d < gs.numSlaveDevices.toNat) (hne : d ≠ k)
    (newState : DeviceState) : SlotsSame gs gd (clmIefbSetDataIp gs g k newState gd).1 d := by
  -- the stations of `d` lie before or after those of `k`
  have hapart : ∀ j, j < gs.num d → gs.pos d + j < gs.pos k ∨ gs.pos k + gs.num k ≤ gs.pos d + j := by
    intro j hj
    rcases Nat.lt_or_gt_of_ne hne with h | h
    · have := gs.pos_add_le h
      omega
    · have := gs.pos_add_le h
      omega
  have hkpos := hv.num_pos hk
  have hdpos := hv.num_pos hd
  have hnat := hv.stationNo_toNat hk
  have hnat' := hv.stationNo_toNat hd
  have hle := hv.total_le
  have hkle := gs.pos_add_le hk
  have hdle := gs.pos_add_le hd
  refine ⟨fun j hj => ?_, fun j hj => ?_, fun j hj => ?_, ?_⟩
  · have := hapart j hj
    rw [clmIefbSetDataIp_slaveIds hv hk hstation, Function.update_of_ne (by omega)]
  · rw [clmIefbSetDataIp_rww hv hk hstation, blit_out (hapart j hj)]
  · rw [clmIefbSetDataIp_ry hv hk hstation, blit_out (hapart j hj)]
  · have := hapart 0 hdpos
    rw [clmIefbSetDataIp_cyclicTransmissionState hv hk hstation,
      clIefbExtractMyTransmissionState_set _ (by omega) (by omega), if_neg]
    rw [← UInt16.toNat_inj, hnat, hnat']
    omega

/-- and writes them as the link scan asks for -/
theorem clmIefbSetDataIp_self {start : GroupData}
    (hstart : (gd.slaveDevices k).forceTransmissionBit = (start.slaveDevices k).forceTransmissionBit)
    (harea : gd.memoryArea = start.memoryArea) (hsame : SlotsSame gs start gd k) :
    SlotsDone gs start (clmIefbSetDataIp gs g k (scanStartState (start.slaveDevices k)) gd).1 k := by
  have hnat := hv.stationNo_toNat hk
  have hle := hv.total_le
  have hkle := gs.pos_add_le hk
  have hkpos := hv.num_pos hk
  have hbit : sentBit (scanStartState (start.slaveDevices k)) (gd.slaveDevices k)
      = outgoingBit (start.slaveDevices k) := by
    simp only [sentBit, outgoingBit, hstart]
  refine ⟨?_, fun j h1 hj => ?_, fun j hj => ?_, fun j hj => ?_, ?_⟩
  · rw [clmIefbSetDataIp_slaveIds hv hk hstation, Function.update_self]
    unfold scanStartState
    by_cases he : (start.slaveDevices k).enabled = true
    · rw [if_pos he, if_pos he, if_pos]
      split <;> simp
    · rw [if_neg he, if_neg he, if_neg]
      simp
  · rw [clmIefbSetDataIp_slaveIds hv hk hstation, Function.update_of_ne (by omega)]
    exact hsame.ids j hj
  · rw [clmIefbSetDataIp_rww hv hk hstation, hbit, blit_in hj, harea]
  · rw [clmIefbSetDataIp_ry hv hk hstation, hbit, blit_in hj, harea]
  · rw [clmIefbSetDataIp_cyclicTransmissionState hv hk hstation, hbit,
      clIefbExtractMyTransmissionState_set _ (by omega) (by omega), if_pos rfl]

end

/-! ## all devices -/

/-- the fields of a group that a scan start leaves alone -/
structure ScanStartRest (gd gd' : GroupData) : Prop where
  total : gd'.totalOccupied = gd.totalOccupied
  seq : gd'.frameSequenceNo = gd.frameSequenceNo
  state : gd'.groupState = gd.groupState
  area : gd'.memoryArea = gd.memoryArea
  len : gd'.reqFrame.udpPayloadLen = gd.reqFrame.udpPayloadLen
  headers : gd'.reqFrame.fullHeaders = gd.reqFrame.fullHeaders
  firstSlaveId : gd'.reqFrame.firstSlaveId = gd.reqFrame.firstSlaveId
  firstRww : gd'.reqFrame.firstRww = gd.reqFrame.firstRww
  firstRy : gd'.reqFrame.firstRy = gd.reqFrame.firstRy

theorem ScanStartRest.refl (gd : GroupData) : ScanStartRest gd gd :=
  ⟨rfl, rfl, rfl, rfl, rfl, rfl, rfl, rfl, rfl⟩

theorem ScanStartRest.trans {a b c : GroupData} (h : ScanStartRest a b) (h' : ScanStartRest b c) :
    ScanStartRest a c :=
  ⟨h'.total.trans h.total, h'.seq.trans h.seq, h'.state.trans h.state, h'.area.trans h.area,
    h'.len.trans h.len, h'.headers.trans h.headers, h'.firstSlaveId.trans h.firstSlaveId,
    h'.firstRww.trans h.firstRww, h'.firstRy.trans h.firstRy⟩

/-- one round of the loop over the devices -/
structure StartedDevice (gs : GroupSetting) (g k : Nat) (start gd gd' : GroupData) : Prop where
  rest : ScanStartRest gd gd'
  device : gd'.slaveDevices
    = Function.update gd.slaveDevices k (startedDevice gs g k (start.slaveDevices k))
  slots : Slots gs start gd' k
  others : ∀ d, d < gs.numSlaveDevices.toNat → d ≠ k → SlotsSame gs gd gd' d

theorem startDevice_spec {o : Options} {cfg : Config} {gs : GroupSetting}
    (hv : GroupValid o cfg gs) {g k : Nat} (hk : k < gs.numSlaveDevices.toNat)
    {start gd : GroupData} (hdev : gd.slaveDevices k = start.slaveDevices k)
    (harea : gd.memoryArea = start.memoryArea) (hsame : SlotsSame gs start gd k)
    (hstation : (start.slaveDevices k).slaveStationNo = UInt16.ofNat (gs.pos k + 1))
    (hs : (start.slaveDevices k).deviceState = .listen
      ∨ (start.slaveDevices k).deviceState = .cyclicSent) :
    StartedDevice gs g k start gd (startDevice gs g k gd).1 := by
  rw [← hdev] at hs hstation
  cases hi : scanStartIgnored (gd.slaveDevices k) with
  | true =>
    have hstep : (startDevice gs g k gd).1
        = gd.modifyDevice k (fun dev => { dev with deviceState := .cyclicSuspend }) := by
      rw [startDevice_ignored hi]
    rw [hstep]
    refine ⟨⟨rfl, rfl, rfl, rfl, rfl, rfl, rfl, rfl, rfl⟩, ?_, ?_, fun d _ _ => ?_⟩
    · rw [startedDevice, ← hdev, if_pos hi]
      rfl
    · rw [Slots, ← hdev, if_pos hi]
      exact hsame.trans (modifyDevice_slots gs gd k _ k)
    · exact modifyDevice_slots gs gd k _ d
  | false =>
    rw [startDevice_setDataIp hs hi]
    have hst : ((gd.modifyDevice k (fun dev => { dev with
        deviceState := scanStartState (gd.slaveDevices k) })).slaveDevices k).slaveStationNo
        = UInt16.ofNat (gs.pos k + 1) := by
      rw [GroupData.modifyDevice_self]
      exact hstation
    refine ⟨?_, ?_, ?_, fun d hd hne => ?_⟩
    · rw [clmIefbSetDataIp_eq hv hk hst]
      exact ⟨rfl, rfl, rfl, rfl, rfl, rfl, rfl, rfl, rfl⟩
    · rw [clmIefbSetDataIp_eq hv hk hst, startedDevice, ← hdev, hi]
      simp [GroupData.modifyDevice]
    · rw [Slots, ← hdev, hi, if_neg (by simp)]
      rw [hdev] at hst ⊢
      refine clmIefbSetDataIp_self hv hk hst ?_ harea ?_
      · rw [GroupData.modifyDevice_self, hdev]
      · exact hsame.trans (modifyDevice_slots gs gd k _ k)
    · exact (modifyDevice_slots gs gd k _ d).trans (clmIefbSetDataIp_other hv hk hst hd hne _)

/-- the group before the scan start event of device `k` -/
def scanStartRound (gs : GroupSetting) (g k : Nat) (start : GroupData) : GroupData × List Output :=
  loop (fun d s => ((startDevice gs g d s.1).1, s.2 ++ (startDevice gs g d s.1).2)) k (start, [])

theorem startDevices_eq (gs : GroupSetting) (g : Nat) (start : GroupData) :
    startDevices gs g start = scanStartRound gs g gs.numSlaveDevices.toNat start := rfl

/-- the devices before `k` are done and the others untouched -/
structure ScanStartProgress (gs : GroupSetting) (g k : Nat) (start gd : GroupData) : Prop where
  rest : ScanStartRest start gd
  done : ∀ d, d < k → gd.slaveDevices d = startedDevice gs g d (start.slaveDevices d)
    ∧ Slots gs start gd d
  untouched : ∀ d, k ≤ d → d < gs.numSlaveDevices.toNat →
    gd.slaveDevices d = start.slaveDevices d ∧ SlotsSame gs start gd d

section
variable {o : Options} {cfg : Config} {gs : GroupSetting} (hv : GroupValid o cfg gs) {g : Nat}
  {start : GroupData}
  (hstation : ∀ d, d < gs.numSlaveDevices.toNat →
    (start.slaveDevices d).slaveStationNo = UInt16.ofNat (gs.pos d + 1))
  (hs : ∀ d, d < gs.numSlaveDevices.toNat →
    (start.slaveDevices d).deviceState = .listen ∨ (start.slaveDevices d).deviceState = .cyclicSent)
include hv hstation hs

theorem scanStartRound_spec {k : Nat} (hk : k ≤ gs.numSlaveDevices.toNat) :
    ScanStartProgress gs g k start (scanStartRound gs g k start).1 := by
  refine loop_inv (n := k) (s := (start, [])) (fun k s => ScanStartProgress gs g k start s.1)
    ⟨.refl start, fun d hd => absurd hd (Nat.not_lt_zero d), fun d _ _ => ⟨rfl, .refl gs start d⟩⟩
    ?_
  rintro k ⟨gd, out⟩ hlt ⟨hrest, hdone, hsame⟩
  have hk : k < gs.numSlaveDevices.toNat := Nat.lt_of_lt_of_le hlt hk
  obtain ⟨hdev, hslots⟩ := hsame k (Nat.le_refl k) hk
  have hr := startDevice_spec hv (g := g) hk hdev hrest.area hslots (hstation k hk) (hs k hk)
  refine ⟨hrest.trans hr.rest, fun d hd => ?_, fun d hd hdn => ?_⟩
  · show (startDevice gs g k gd).1.slaveDevices d = _ ∧ Slots gs start (startDevice gs g k gd).1 d
    rcases Nat.lt_succ_iff_lt_or_eq.mp hd with hlt | rfl
    · have hdn : d < gs.numSlaveDevices.toNat := by omega
      refine ⟨?_, (hdone d hlt).2.same (hv.num_pos hdn) (hr.others d hdn (by omega))⟩
      rw [hr.device, Function.update_of_ne (by omega)]
      exact (hdone d hlt).1
    · refine ⟨?_, hr.slots⟩
      rw [hr.device, Function.update_self]
  · show (startDevice gs g k gd).1.slaveDevices d = _ ∧ SlotsSame gs start (startDevice gs g k gd).1 d
    obtain ⟨hd', hs'⟩ := hsame d (by omega) hdn
    refine ⟨?_, hs'.trans (hr.others d hdn (by omega))⟩
    rw [hr.device, Function.update_of_ne (by omega)]
    exact hd'

end

/-- the group after the scan start of all devices -/
structure Started (gs : GroupSetting) (g : Nat) (start gd : GroupData) : Prop where
  rest : ScanStartRest start gd
  device : ∀ d, d < gs.numSlaveDevices.toNat →
    gd.slaveDevices d = startedDevice gs g d (start.slaveDevices d)
  slots : ∀ d, d < gs.numSlaveDevices.toNat → Slots gs start gd d

theorem startDevices_spec {o : Options} {cfg : Config} {gs : GroupSetting}
    (hv : GroupValid o cfg gs) {g : Nat} {start : GroupData}
    (hstation : ∀ d, d < gs.numSlaveDevices.toNat →
      (start.slaveDevices d).slaveStationNo = UInt16.ofNat (gs.pos d + 1))
    (hs : ∀ d, d < gs.numSlaveDevices.toNat →
      (start.slaveDevices d).deviceState = .listen ∨ (start.slaveDevices d).deviceState = .cyclicSent) :
    Started gs g start (startDevices gs g start).1 := by
  have h := scanStartRound_spec hv (g := g) hstation hs (Nat.le_refl _)
  rw [startDevices_eq]
  exact ⟨h.rest, fun d hd => (h.done d hd).1, fun d hd => (h.done d hd).2⟩

end CLink
