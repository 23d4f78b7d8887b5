import CLink.Master.ClearedStatistics

/-!
# The account of a device

The counters of a device, its callbacks, its transmission bit and the word of its group are written
in different functions.

* `Counters`         the four counters of connections and of incoming frames;
* `LedgerMove`       what a move does to the account of one device;
* `Ledger`           the invariant of the account, with the outputs so far;
* `deviceLedger`     the account of a device in every run.
-/

namespace CLink
open Loop Trace

/-! ## callbacks and counters -/

namespace Output

def isConnect (g d : Nat) : Output → Bool
  | connectCb g' d' _ => g' = g ∧ d' = d
  | _ => false

def isDisconnect (g d : Nat) : Output → Bool
  | disconnectCb g' d' _ => g' = g ∧ d' = d
  | _ => false

/-- a callback of `clm_iefb_set_data_ip` for device `d` -/
def changesBit (g d : Nat) (x : Output) : Bool := x.isConnect g d || x.isDisconnect g d

end Output

structure Counters where
  connects : UInt32
  disconnects : UInt32
  incoming : UInt32
  invalid : UInt32
  deriving DecidableEq

def SlaveDeviceData.counters (dev : SlaveDeviceData) : Counters :=
  { connects := dev.statistics.numberOfConnects
    disconnects := dev.statistics.numberOfDisconnects
    incoming := dev.statistics.numberOfIncomingFrames
    invalid := dev.statistics.numberOfIncomingInvalidFrames }

section
variable (gs : GroupSetting) (r : CyclicResponse) (dev : SlaveDeviceData)

theorem deviceLocal_counters (event : DeviceEvent) :
    (deviceLocal gs event dev).counters = dev.counters := by
  unfold deviceLocal
  split
  · rfl
  · unfold SlaveDeviceData.timeout
    split <;> rfl
  · unfold SlaveDeviceData.enter
    split <;> rfl

theorem countAlarms_counters : (countAlarms r dev).counters = dev.counters := by
  simp only [countAlarms]
  split <;> split <;> rfl

theorem countReported_counters : (countReported r dev).counters = dev.counters := by
  simp only [countReported]
  split <;> rfl

theorem storeHeaders_counters (cfg : Config) (gd : GroupData) :
    (storeHeaders cfg gd r dev).counters = dev.counters := by
  unfold storeHeaders clmIefbStatisticsUpdateResponseTime
  simp only
  split <;> rfl

theorem deviceResponse_counters : (deviceResponse gs r dev).counters = dev.counters := by
  unfold deviceResponse
  split
  · rfl
  · exact deviceLocal_counters gs dev _

end

/-- a response counts as incoming, and a rejected one as invalid -/
theorem checkDevice_counters (gs : GroupSetting) (d : Nat) (r : CyclicResponse) (gd : GroupData) :
    (checkDevice gs d r gd).1.counters
      = { (gd.slaveDevices d).counters with
          incoming := (gd.slaveDevices d).counters.incoming + 1
          invalid := (gd.slaveDevices d).counters.invalid
            + if (checkDevice gs d r gd).2 then 0 else 1 } := by
  have hzero : ∀ n : UInt32, n + 0 = n := UInt32.add_zero
  unfold checkDevice
  simp only
  split
  · rfl
  split
  · rw [deviceLocal_counters]
    rfl
  split
  · rfl
  split
  · exact congrArg (fun c : Counters => { c with invalid := c.invalid + 1 }) (countAlarms_counters r _)
  · rw [countAlarms_counters, if_pos rfl, hzero]
    rfl

theorem acceptResponse_counters {cfg : Config} {gs : GroupSetting} {d : Nat} {r : CyclicResponse}
    {gd : GroupData} (hc : (checkDevice gs d r gd).2 = true) :
    ((acceptResponse cfg gs d r gd).slaveDevices d).counters
      = { (gd.slaveDevices d).counters with
          incoming := (gd.slaveDevices d).counters.incoming + 1 } := by
  simp only [acceptResponse, Function.update_self]
  rw [deviceResponse_counters, storeHeaders_counters, countReported_counters, checkDevice_counters,
    if_pos hc, UInt32.add_zero]

/-! ## one move -/

/-- what a move with the outputs `out` does to the account of device `d`; it can only handle a
response if `R` holds, and without one the device does not get to `CYCLIC_SENT` with its bit off -/
inductive LedgerMove (R : Prop) (g d : Nat) (dev : SlaveDeviceData) (out : List Output)
    (dev' : SlaveDeviceData) : Prop where
  | quiet (hconn : out.filter (Output.changesBit g d) = [])
      (hstored : out.filter (Output.isStored g d) = [])
      (hcount : dev'.counters = dev.counters)
      (hbit : dev'.transmissionBit = dev.transmissionBit)
      (hsent : dev'.deviceState = .cyclicSent →
        dev.deviceState = .cyclicSent ∨ dev.transmissionBit = true)
  | rejected (hr : R) (hconn : out.filter (Output.changesBit g d) = [])
      (hstored : out.filter (Output.isStored g d) = [])
      (hcount : dev'.counters = { dev.counters with
        incoming := dev.counters.incoming + 1, invalid := dev.counters.invalid + 1 })
      (hbit : dev'.transmissionBit = dev.transmissionBit)
      (hsent : dev'.deviceState = .cyclicSent → dev.deviceState = .cyclicSent)
  | accepted (hr : R) (x : Output) (hconn : out.filter (Output.changesBit g d) = [])
      (hstored : out.filter (Output.isStored g d) = [x])
      (hcount : dev'.counters = { dev.counters with incoming := dev.counters.incoming + 1 })
      (hbit : dev'.transmissionBit = dev.transmissionBit)
  | connect (x : Output) (hx : x.isConnect g d = true)
      (hconn : out.filter (Output.changesBit g d) = [x])
      (hstored : out.filter (Output.isStored g d) = [])
      (hcount : dev'.counters = { dev.counters with connects := dev.counters.connects + 1 })
      (hstate : dev.deviceState = .cyclicSent) (hoff : dev.transmissionBit = false)
      (hon : dev'.transmissionBit = true)
  | disconnect (x : Output) (hx : x.isDisconnect g d = true)
      (hconn : out.filter (Output.changesBit g d) = [x])
      (hstored : out.filter (Output.isStored g d) = [])
      (hcount : dev'.counters = { dev.counters with disconnects := dev.counters.disconnects + 1 })
      (hon : dev.transmissionBit = true) (hoff : dev'.transmissionBit = false)
      (hleft : dev'.deviceState ≠ .cyclicSent)

/-- a move without outputs about the device -/
theorem LedgerMove.same {R : Prop} {g d : Nat} {dev dev' : SlaveDeviceData} {out : List Output}
    (hconn : out.filter (Output.changesBit g d) = [])
    (hstored : out.filter (Output.isStored g d) = []) (hcount : dev'.counters = dev.counters)
    (hbit : dev'.transmissionBit = dev.transmissionBit)
    (hstate : dev'.deviceState = dev.deviceState) : LedgerMove R g d dev out dev' :=
  .quiet hconn hstored hcount hbit (fun h => Or.inl (hstate.symm.trans h))

/-- the events at the end of a link scan -/
theorem deviceLocal_toSent {gs : GroupSetting} {event : DeviceEvent} {dev : SlaveDeviceData}
    (he : event = .groupTimeout ∨ event = .groupAllResponded)
    (h : (deviceLocal gs event dev).deviceState = .cyclicSent) :
    dev.deviceState = .cyclicSent ∨ dev.deviceState = .cyclicSending := by
  rw [deviceLocal_deviceState] at h
  generalize dev.deviceState = state at h ⊢
  rcases he with rfl | rfl <;> cases state <;>
    first | exact Or.inl rfl | exact Or.inr rfl | cases h

/-- a device whose bit is on while it is in `CYCLIC_SENDING` -/
theorem LedgerMove.local {R : Prop} {g d : Nat} {gs : GroupSetting} {event : DeviceEvent}
    {dev : SlaveDeviceData} {out : List Output} (hconn : out.filter (Output.changesBit g d) = [])
    (hstored : out.filter (Output.isStored g d) = [])
    (he : event = .groupTimeout ∨ event = .groupAllResponded)
    (hon : dev.deviceState = .cyclicSending → dev.transmissionBit = true) :
    LedgerMove R g d dev out (deviceLocal gs event dev) :=
  .quiet hconn hstored (deviceLocal_counters gs dev event) (deviceLocal_same gs event dev).bit
    (fun h => (deviceLocal_toSent he h).imp id hon)

/-! ## the start of a link scan -/

/-- the callbacks for device `d` -/
def startOutputs (gs : GroupSetting) (g d : Nat) (dev : SlaveDeviceData) : List Output :=
  if scanStartIgnored dev then []
  else (setTransmissionBit gs g d (scanStartState dev)
    { dev with deviceState := scanStartState dev }).2

section
variable (R : Prop) (gs : GroupSetting) (g d : Nat) (dev : SlaveDeviceData)

theorem countSentFrame_fields : (countSentFrame dev).counters = dev.counters
    ∧ (countSentFrame dev).transmissionBit = dev.transmissionBit
    ∧ (countSentFrame dev).deviceState = dev.deviceState := by
  unfold countSentFrame
  split <;> exact ⟨rfl, rfl, rfl⟩

theorem scanStartState_ne_sent : scanStartState dev ≠ .cyclicSent := by
  unfold scanStartState
  split
  · split <;> simp
  · simp

/-- no device is stored, and the callbacks are those of the device -/
theorem startOutputs_filter (e : Nat) : (startOutputs gs g d dev).filter (Output.isStored g e) = []
    ∧ (startOutputs gs g d dev).filter (Output.changesBit g e)
      = if e = d then startOutputs gs g d dev else [] := by
  have hother : ∀ id, d ≠ e → [Output.connectCb g d id].filter (Output.changesBit g e) = []
      ∧ [Output.disconnectCb g d id].filter (Output.changesBit g e) = [] := by
    intro id hne
    simp [Output.changesBit, Output.isConnect, Output.isDisconnect, hne]
  have hself : ∀ id, [Output.connectCb g d id].filter (Output.changesBit g d) = [.connectCb g d id]
      ∧ [Output.disconnectCb g d id].filter (Output.changesBit g d) = [.disconnectCb g d id] := by
    intro id
    simp [Output.changesBit, Output.isConnect, Output.isDisconnect]
  unfold startOutputs setTransmissionBit
  by_cases he : e = d
  · subst he
    rw [if_pos rfl]
    split
    · exact ⟨rfl, rfl⟩
    split <;> split
    · exact ⟨rfl, (hself _).1⟩
    · exact ⟨rfl, rfl⟩
    · exact ⟨rfl, (hself _).2⟩
    · exact ⟨rfl, rfl⟩
  · rw [if_neg he]
    split
    · exact ⟨rfl, rfl⟩
    split <;> split
    · exact ⟨rfl, (hother _ (Ne.symm he)).1⟩
    · exact ⟨rfl, rfl⟩
    · exact ⟨rfl, (hother _ (Ne.symm he)).2⟩
    · exact ⟨rfl, rfl⟩

/-- the scan start of the device itself -/
theorem ledgerMove_start {out : List Output}
    (hconn : out.filter (Output.changesBit g d) = startOutputs gs g d dev)
    (hstored : out.filter (Output.isStored g d) = []) :
    LedgerMove R g d dev out (startedDevice gs g d dev) := by
  have hne := scanStartState_ne_sent dev
  unfold startOutputs at hconn
  unfold startedDevice
  split
  · rename_i hi
    rw [if_pos hi] at hconn
    exact .quiet hconn hstored rfl rfl (fun h => by cases h)
  · rename_i hi
    rw [if_neg hi] at hconn
    obtain ⟨hc, hb, hs⟩ := countSentFrame_fields (setTransmissionBit gs g d (scanStartState dev)
      { dev with deviceState := scanStartState dev }).1
    generalize countSentFrame _ = dev' at hc hb hs ⊢
    unfold setTransmissionBit at hconn hc hb hs
    by_cases hsending : scanStartState dev = .cyclicSending
    · rw [hsending] at hconn hc hb hs
      rw [if_pos rfl] at hconn hc hb hs
      cases hbit : dev.transmissionBit with
      | false =>
        simp only [hbit, Bool.not_false, if_true] at hconn hc hb hs
        exact .connect _ (by simp [Output.isConnect]) hconn hstored hc
          (scanStartState_cyclicSending.mp hsending).2 hbit hb
      | true =>
        simp only [hbit, Bool.not_true, Bool.false_eq_true, if_false] at hconn hc hb hs
        exact .quiet hconn hstored hc (by rw [hb, hbit]) (fun _ => Or.inr hbit)
    · simp only [if_neg hsending] at hconn hc hb hs
      cases hbit : dev.transmissionBit with
      | true =>
        simp only [hbit, if_true] at hconn hc hb hs
        exact .disconnect _ (by simp [Output.isDisconnect]) hconn hstored hc hbit hb
          (by rw [hs]; exact hne)
      | false =>
        simp only [hbit, Bool.false_eq_true, if_false] at hconn hc hb hs
        exact .quiet hconn hstored hc (by rw [hb, hbit]) (fun h => absurd (hs.symm.trans h) hne)

end

section
variable {o : Options} {gs : GroupSetting} {cfg : Config} (hv : GroupValid o cfg gs) {g : Nat}

/-- the scan start of device `k` -/
theorem startDevice_own (gs : GroupSetting) (g : Nat) {k : Nat} {gd : GroupData}
    (hs : (gd.slaveDevices k).deviceState = .listen ∨ (gd.slaveDevices k).deviceState = .cyclicSent) :
    (startDevice gs g k gd).2 = startOutputs gs g k (gd.slaveDevices k)
      ∧ ∀ e, e ≠ k → (startDevice gs g k gd).1.slaveDevices e = gd.slaveDevices e := by
  unfold startOutputs
  cases hi : scanStartIgnored (gd.slaveDevices k) with
  | true =>
    rw [startDevice_ignored hi, if_pos rfl]
    exact ⟨rfl, fun e he => GroupData.modifyDevice_of_ne gd k
      (fun dev => { dev with deviceState := .cyclicSuspend }) he⟩
  | false =>
    rw [startDevice_setDataIp hs hi, if_neg Bool.false_ne_true]
    refine ⟨?_, fun e he => ?_⟩
    · simp only [clmIefbSetDataIp, GroupData.modifyDevice_self]
    · simp only [clmIefbSetDataIp, Function.update_of_ne he]
      exact GroupData.modifyDevice_of_ne _ _ _ he

include hv

/-- the bit of a station that is not the first one of a device -/
theorem startDevice_further {d j k : Nat} (hd : d < gs.numSlaveDevices.toNat)
    (hk : k < gs.numSlaveDevices.toNat) (h1 : 1 ≤ j) (hj : j < gs.num d) {gd : GroupData}
    (hstation : (gd.slaveDevices k).slaveStationNo = UInt16.ofNat (gs.pos k + 1))
    (hs : (gd.slaveDevices k).deviceState = .listen ∨ (gd.slaveDevices k).deviceState = .cyclicSent) :
    clIefbExtractMyTransmissionState (startDevice gs g k gd).1.cyclicTransmissionState
        (UInt16.ofNat (gs.pos d + j + 1))
      = clIefbExtractMyTransmissionState gd.cyclicTransmissionState
        (UInt16.ofNat (gs.pos d + j + 1)) := by
  cases hi : scanStartIgnored (gd.slaveDevices k) with
  | true =>
    rw [startDevice_ignored hi]
    rfl
  | false =>
    have hnat := hv.stationNo_toNat hk
    have hle := hv.total_le
    have hdle := gs.pos_add_le hd
    have hkle := gs.pos_add_le hk
    have hkpos := hv.num_pos hk
    have ht : (UInt16.ofNat (gs.pos d + j + 1)).toNat = gs.pos d + j + 1 := by
      rw [UInt16.toNat_ofNat']
      omega
    -- a station that is not the first one of its device is the first one of no device
    have hapart : gs.pos d + j ≠ gs.pos k := by
      intro heq
      rcases Nat.lt_trichotomy d k with h | rfl | h
      · have := gs.pos_add_le h
        omega
      · omega
      · have := gs.pos_add_le h
        omega
    rw [startDevice_setDataIp hs hi, clmIefbSetDataIp_cyclicTransmissionState hv hk
      (by rw [GroupData.modifyDevice_self]; exact hstation),
      clIefbExtractMyTransmissionState_set _ (by omega) (by omega), if_neg]
    · rfl
    · rw [← UInt16.toNat_inj, hnat, ht]
      omega

/-- the callbacks of a scan start, and the bits of further stations -/
theorem startDevices_ledger {d : Nat} (hd : d < gs.numSlaveDevices.toNat) (start : GroupData)
    (hstation : ∀ k, k < gs.numSlaveDevices.toNat →
      (start.slaveDevices k).slaveStationNo = UInt16.ofNat (gs.pos k + 1))
    (hs : ∀ k, k < gs.numSlaveDevices.toNat →
      (start.slaveDevices k).deviceState = .listen ∨ (start.slaveDevices k).deviceState = .cyclicSent) :
    (startDevices gs g start).2.filter (Output.isStored g d) = []
      ∧ (startDevices gs g start).2.filter (Output.changesBit g d)
        = startOutputs gs g d (start.slaveDevices d)
      ∧ ∀ j, 1 ≤ j → j < gs.num d →
        clIefbExtractMyTransmissionState (startDevices gs g start).1.cyclicTransmissionState
            (UInt16.ofNat (gs.pos d + j + 1))
          = clIefbExtractMyTransmissionState start.cyclicTransmissionState
            (UInt16.ofNat (gs.pos d + j + 1)) := by
  have h := loop_inv (n := gs.numSlaveDevices.toNat)
    (f := fun k (s : GroupData × List Output) =>
      ((startDevice gs g k s.1).1, s.2 ++ (startDevice gs g k s.1).2)) (s := (start, []))
    (fun k s => (∀ e, k ≤ e → s.1.slaveDevices e = start.slaveDevices e)
      ∧ s.2.filter (Output.isStored g d) = []
      ∧ s.2.filter (Output.changesBit g d)
        = (if d < k then startOutputs gs g d (start.slaveDevices d) else [])
      ∧ ∀ j, 1 ≤ j → j < gs.num d →
        clIefbExtractMyTransmissionState s.1.cyclicTransmissionState
            (UInt16.ofNat (gs.pos d + j + 1))
          = clIefbExtractMyTransmissionState start.cyclicTransmissionState
            (UInt16.ofNat (gs.pos d + j + 1)))
    ⟨fun _ _ => rfl, rfl, (if_neg (Nat.not_lt_zero d)).symm, fun _ _ _ => rfl⟩
    (by
      rintro k ⟨gd, out⟩ hk ⟨hdev, hstored, hconn, hbits⟩
      have hkdev := hdev k (Nat.le_refl k)
      have hsk := hs k hk
      rw [← hkdev] at hsk
      obtain ⟨hout, hother⟩ := startDevice_own gs g hsk
      obtain ⟨hstored', hconn'⟩ := startOutputs_filter gs g k (gd.slaveDevices k) d
      refine ⟨fun e he => ?_, ?_, ?_, fun j h1 hj => ?_⟩
      · exact (hother e (by omega)).trans (hdev e (by omega))
      · simp only [List.filter_append, hout, hstored, hstored', List.append_nil]
      · simp only [List.filter_append, hout, hconn, hconn']
        rcases Nat.lt_trichotomy d k with hlt | rfl | hgt
        · rw [if_pos hlt, if_neg (by omega), if_pos (by omega), List.append_nil]
        · rw [if_neg (Nat.lt_irrefl d), if_pos rfl, if_pos (Nat.lt_succ_self d), List.nil_append, hkdev]
        · rw [if_neg (by omega), if_neg (by omega), if_neg (by omega), List.append_nil]
      · refine (startDevice_further hv hd hk h1 hj ?_ hsk).trans (hbits j h1 hj)
        rw [hkdev]
        exact hstation k hk)
  exact ⟨h.2.1, h.2.2.1.trans (if_pos hd), h.2.2.2⟩

end

/-! ## every move -/

section
variable {o : Options} {cfg : Config} {parameterNo : UInt16} {g d : Nat} {gd gd' : GroupData}
  {out : List Output} {A : GroupInput → GroupData → Prop}
  (hv : GroupValid o cfg (cfg.hier.groups g))
  (hd : d < (cfg.hier.groups g).numSlaveDevices.toNat)

/-- the devices at the start of a link scan -/
theorem GroupInv.scanStart (h : GroupInv cfg parameterNo g gd)
    (hs : gd.groupState = .masterLinkScanComp) :
    ∀ k, k < (cfg.hier.groups g).numSlaveDevices.toNat →
      (gd.scanning.slaveDevices k).deviceState = .listen
        ∨ (gd.scanning.slaveDevices k).deviceState = .cyclicSent := by
  intro k hk
  have hp := h.phase k hk
  rw [hs] at hp
  exact hp.imp id And.left

include hv hd

/-- without a clear -/
theorem GroupMove.ledger (hclear : ∀ gd, ¬ A .clearStatistics gd)
    (hm : GroupMove cfg g A gd out gd') (h : GroupInv cfg parameterNo g gd) :
    LedgerMove (∃ r, A (.response d r) gd) g d (gd.slaveDevices d) out (gd'.slaveDevices d) := by
  have hreports : ∀ e r latest, (reports g e r latest).filter (Output.changesBit g d) = []
      ∧ (reports g e r latest).filter (Output.isStored g d) = [] := by
    intro e r latest
    constructor
    · simp only [reports]
      split <;> split <;> rfl
    · exact List.filter_eq_nil_iff.mpr (fun x hx => by simp [reports_isStored g e r latest x hx g d])
  have hon : gd.groupState = .masterLinkScan → (gd.slaveDevices d).deviceState = .cyclicSending →
      (gd.slaveDevices d).transmissionBit = true := by
    intro hs hstate
    have hp := h.phase d hd
    rw [hs] at hp
    exact (hp.2 hstate).1
  cases hm with
  | setEnabled e enabled ha =>
    rw [gd.modifyDevice_slaveDevices]
    split <;> exact .same rfl rfl rfl rfl rfl
  | setForce e force ha =>
    rw [gd.modifyDevice_slaveDevices]
    split <;> exact .same rfl rfl rfl rfl rfl
  | clearStatistics ha => exact absurd ha (hclear gd)
  | rejected e r he ha hc =>
    rw [gd.modifyDevice_slaveDevices]
    split
    · rename_i hde
      subst hde
      obtain ⟨hsame, hstate⟩ := checkDevice_device (cfg.hier.groups g) d r gd
      refine .rejected ⟨r, ha⟩ rfl rfl ?_ hsame.bit (fun hsent => ?_)
      · rw [checkDevice_counters, hc]
        rfl
      · rw [hstate] at hsent
        split at hsent
        · rw [deviceLocal_slaveDuplication _ _ (devicePhase_ne_down (h.phase d hd))] at hsent
          cases hsent
        · exact hsent
    · exact .same rfl rfl rfl rfl rfl
  | accepted e r he ha hc =>
    obtain ⟨hconn, hstored⟩ := hreports e r (gd.slaveDevices e).latestFrame
    by_cases hde : d = e
    · subst hde
      refine .accepted ⟨r, ha⟩ (.stored g d r (gd.slaveDevices d).transmissionBit) ?_ ?_
        (acceptResponse_counters hc) (acceptResponse_device cfg hc).bit
      · rw [List.filter_append, hconn]
        rfl
      · rw [List.filter_append, hstored]
        simp [Output.isStored]
    · rw [acceptResponse_other cfg hde]
      refine .same ?_ ?_ rfl rfl rfl
      · rw [List.filter_append, hconn]
        rfl
      · rw [List.filter_append, hstored]
        simp [Output.isStored, Ne.symm hde]
  | complete hs hr =>
    rw [gd.endScan_slaveDevices _ _ hd]
    exact .local rfl rfl (Or.inr rfl) (hon hs)
  | timeout hs =>
    rw [gd.endScan_slaveDevices _ _ hd]
    exact .local rfl rfl (Or.inl rfl) (hon hs)
  | standby hs =>
    rw [gd.standby_slaveDevices _ hd]
    refine .quiet rfl rfl (deviceLocal_counters _ _ _) (deviceLocal_same _ _ _).bit (fun hsent => ?_)
    rw [deviceLocal_groupStandby _ _ (devicePhase_ne_down (h.phase d hd))] at hsent
    cases hsent
  | start clm now unixMs hclm hs =>
    obtain ⟨hst, hout⟩ := linkscanStart_started hv h hs hclm now unixMs
    obtain ⟨hstored, hconn, _⟩ := startDevices_ledger (g := g) hv hd gd.scanning h.station
      (h.scanStart hs)
    rw [hst.devices, hst.started.device d hd, hout]
    refine ledgerMove_start _ _ g d _ ?_ ?_
    · rw [List.filter_append, hconn]
      exact List.append_nil _
    · rw [List.filter_append, hstored]
      rfl
  | _ => exact .same rfl rfl rfl rfl rfl

end

/-! ## the invariant -/

/-- the connection callbacks `n` so far give the counters and the transmission bit -/
structure Ledger (g d : Nat) (hist : List Output) (dev : SlaveDeviceData) : Prop where
  alternate : Numbered (Output.changesBit g d) (fun k x => x.isConnect g d = decide (k % 2 = 0)) hist
  connects : dev.counters.connects
    = UInt32.ofNat (((hist.filter (Output.changesBit g d)).length + 1) / 2)
  disconnects : dev.counters.disconnects
    = UInt32.ofNat ((hist.filter (Output.changesBit g d)).length / 2)
  bit : dev.transmissionBit = decide ((hist.filter (Output.changesBit g d)).length % 2 = 1)
  incoming : dev.counters.incoming
    = dev.counters.invalid + UInt32.ofNat (hist.filter (Output.isStored g d)).length
  -- a connection needs an answer of its own
  answered : ((hist.filter (Output.changesBit g d)).length + 1) / 2
      + (if dev.deviceState = .cyclicSent ∧ dev.transmissionBit = false then 1 else 0)
    ≤ (hist.filter (Output.isStored g d)).length

theorem counter_succ (n : Nat) : UInt32.ofNat (n + 1) = UInt32.ofNat n + 1 := UInt32.ofNat_add n 1

/-- the room of the counters for another connection -/
theorem sent_le {dev dev' : SlaveDeviceData} (hbit : dev'.transmissionBit = dev.transmissionBit)
    (hsent : dev'.deviceState = .cyclicSent →
      dev.deviceState = .cyclicSent ∨ dev.transmissionBit = true) :
    (if dev'.deviceState = .cyclicSent ∧ dev'.transmissionBit = false then 1 else 0)
      ≤ (if dev.deviceState = .cyclicSent ∧ dev.transmissionBit = false then 1 else 0) := by
  by_cases h : dev'.deviceState = .cyclicSent ∧ dev'.transmissionBit = false
  · have hoff : dev.transmissionBit = false := hbit.symm.trans h.2
    rw [if_pos h, if_pos]
    refine ⟨(hsent h.1).resolve_right (fun hon => ?_), hoff⟩
    rw [hoff] at hon
    cases hon
  · rw [if_neg h]
    exact Nat.zero_le _

theorem Ledger.move {R : Prop} {g d : Nat} {hist out : List Output} {dev dev' : SlaveDeviceData}
    (h : Ledger g d hist dev) (hm : LedgerMove R g d dev out dev') : Ledger g d (hist ++ out) dev' := by
  obtain ⟨halt, hcon, hdis, hbit, hin, hans⟩ := h
  have hfilter (p : Output → Bool) : (hist ++ out).filter p = hist.filter p ++ out.filter p :=
    List.filter_append hist out
  have hsilent : out.filter (Output.changesBit g d) = [] →
      Numbered (Output.changesBit g d) (fun k x => x.isConnect g d = decide (k % 2 = 0))
        (hist ++ out) := by
    intro hnil
    refine halt.silent (fun x hx => ?_)
    exact (Bool.eq_false_iff.mpr (List.filter_eq_nil_iff.mp hnil x hx))
  cases hm with
  | quiet hconn hstored hcount hbit' hsent =>
    have hle := sent_le hbit' hsent
    refine ⟨hsilent hconn, ?_, ?_, ?_, ?_, ?_⟩ <;>
      simp only [hfilter, hconn, hstored, List.append_nil, hcount, hbit']
    · exact hcon
    · exact hdis
    · exact hbit
    · exact hin
    · rw [hbit'] at hle
      omega
  | rejected hr hconn hstored hcount hbit' hsent =>
    have hle := sent_le hbit' (fun h => Or.inl (hsent h))
    refine ⟨hsilent hconn, ?_, ?_, ?_, ?_, ?_⟩ <;>
      simp only [hfilter, hconn, hstored, List.append_nil, hcount, hbit']
    · exact hcon
    · exact hdis
    · exact hbit
    · show dev.counters.incoming + 1 = dev.counters.invalid + 1 + _
      rw [hin, UInt32.add_assoc, UInt32.add_assoc, UInt32.add_comm (UInt32.ofNat _) 1]
    · rw [hbit'] at hle
      omega
  | accepted hr x hconn hstored hcount hbit' =>
    refine ⟨hsilent hconn, ?_, ?_, ?_, ?_, ?_⟩ <;>
      simp only [hfilter, hconn, hstored, List.append_nil, hcount, hbit', List.length_append,
        List.length_singleton]
    · exact hcon
    · exact hdis
    · exact hbit
    · show dev.counters.incoming + 1 = dev.counters.invalid + _
      rw [hin, counter_succ, UInt32.add_assoc]
    · split <;> omega
  | connect x hx hconn hstored hcount hstate hoff hon =>
    rw [hoff] at hbit
    have heven : (hist.filter (Output.changesBit g d)).length % 2 ≠ 1 := of_decide_eq_false hbit.symm
    rw [if_pos ⟨hstate, hoff⟩] at hans
    refine ⟨halt.one hconn ?_, ?_, ?_, ?_, ?_, ?_⟩
    · rw [hx]
      exact (decide_eq_true (by omega)).symm
    all_goals simp only [hfilter, hconn, hstored, List.append_nil, hcount, hon, List.length_append,
      List.length_singleton]
    · show dev.counters.connects + 1 = _
      rw [hcon, ← counter_succ]
      congr 1
      omega
    · rw [hdis]
      congr 1
      omega
    · exact (decide_eq_true (by omega)).symm
    · exact hin
    · rw [if_neg (by simp)]
      omega
  | disconnect x hx hconn hstored hcount hon hoff hleft =>
    rw [hon] at hbit
    have hodd : (hist.filter (Output.changesBit g d)).length % 2 = 1 := of_decide_eq_true hbit.symm
    refine ⟨halt.one hconn ?_, ?_, ?_, ?_, ?_, ?_⟩
    · rw [show x.isConnect g d = false by cases x <;> first | rfl | cases hx]
      exact (decide_eq_false (by omega)).symm
    all_goals simp only [hfilter, hconn, hstored, List.append_nil, hcount, hoff, List.length_append,
      List.length_singleton]
    · rw [hcon]
      congr 1
      omega
    · show dev.counters.disconnects + 1 = _
      rw [hdis, ← counter_succ]
      congr 1
      omega
    · exact (decide_eq_false (by omega)).symm
    · exact hin
    · rw [if_neg (fun h => hleft h.1)]
      omega

/-! ## steps -/

/-- one response at most -/
theorem LedgerMove.invalid_le {R : Prop} {g d : Nat} {dev dev' : SlaveDeviceData}
    {out : List Output} (hm : LedgerMove R g d dev out dev') :
    dev'.counters.invalid.toNat + (out.filter (Output.isStored g d)).length
      ≤ dev.counters.invalid.toNat + 1 := by
  cases hm with
  | quiet _ hstored hcount _ _ =>
    rw [hstored, hcount]
    exact Nat.le_succ _
  | rejected _ _ hstored hcount _ _ =>
    rw [hstored, hcount]
    show (dev.counters.invalid + 1).toNat ≤ _
    rw [UInt32.toNat_add]
    exact Nat.mod_le _ _
  | accepted _ x _ hstored hcount _ =>
    rw [hstored, hcount]
    exact Nat.le_refl _
  | connect _ _ _ hstored hcount =>
    rw [hstored, hcount]
    exact Nat.le_succ _
  | disconnect _ _ _ hstored hcount =>
    rw [hstored, hcount]
    exact Nat.le_succ _

section
variable {o : Options} {cfg : Config} {parameterNo : UInt16} {g d : Nat} {gd gd' : GroupData}
  {hist out : List Output} {A : GroupInput → GroupData → Prop}
  (hv : GroupValid o cfg (cfg.hier.groups g))
  (hd : d < (cfg.hier.groups g).numSlaveDevices.toNat)
include hv hd

/-- moves without responses -/
theorem star_ledger (hclear : ∀ gd, ¬ A .clearStatistics gd) (hA : ∀ r gd, ¬ A (.response d r) gd)
    (hm : Star (GroupMove cfg g A) gd out gd') (h : GroupInv cfg parameterNo g gd)
    (hl : Ledger g d hist (gd.slaveDevices d)) :
    Ledger g d (hist ++ out) (gd'.slaveDevices d)
      ∧ out.filter (Output.isStored g d) = []
      ∧ (gd'.slaveDevices d).counters.invalid = (gd.slaveDevices d).counters.invalid := by
  have hrun := hm.inv (I := fun o t => GroupInv cfg parameterNo g t
      ∧ Ledger g d (hist ++ o) (t.slaveDevices d)
      ∧ o.filter (Output.isStored g d) = []
      ∧ (t.slaveDevices d).counters.invalid = (gd.slaveDevices d).counters.invalid)
    (by
      rintro o s o' t hm ⟨hinv, hl, hstored, hinvalid⟩
      have hmove := hm.ledger hv hd hclear hinv
      refine ⟨groupMove_inv hv hm hinv, ?_, ?_⟩
      · rw [← List.append_assoc]
        exact hl.move hmove
      · rw [List.filter_append, hstored, List.nil_append]
        cases hmove with
        | quiet _ hstored' hcount _ _ => exact ⟨hstored', by rw [hcount, hinvalid]⟩
        | rejected hr => exact absurd hr.choose_spec (hA _ _)
        | accepted hr => exact absurd hr.choose_spec (hA _ _)
        | connect _ _ _ hstored' hcount => exact ⟨hstored', by rw [hcount, ← hinvalid]⟩
        | disconnect _ _ _ hstored' hcount => exact ⟨hstored', by rw [hcount, ← hinvalid]⟩)
    [] ⟨h, by rw [List.append_nil]; exact hl, rfl, rfl⟩
  exact hrun.2

end

/-- the account after a step, and at most one response in it -/
theorem GroupStep.ledger {o : Options} {c : Clm} {parameterNo : UInt16} {e : Event} {g d : Nat}
    {gd' : GroupData} {hist out : List Output} (hv : GroupValid o c.shared.config (c.setting g))
    (hd : d < (c.setting g).numSlaveDevices.toNat)
    (hinv : GroupInv c.shared.config parameterNo g (c.groups g)) (he : e ≠ .statisticsClearAll)
    (hl : Ledger g d hist ((c.groups g).slaveDevices d)) (h : GroupStep c e g out gd') :
    Ledger g d (hist ++ out) (gd'.slaveDevices d)
      ∧ (gd'.slaveDevices d).counters.invalid.toNat + (out.filter (Output.isStored g d)).length
        ≤ ((c.groups g).slaveDevices d).counters.invalid.toNat + 1 := by
  cases h with
  | internal hno h =>
    obtain ⟨hl', hstored, hinvalid⟩ := star_ledger hv hd (fun _ h => h) (fun _ _ h => h) h hinv hl
    refine ⟨hl', ?_⟩
    rw [hstored, hinvalid]
    exact Nat.le_succ _
  | call x hx hc h =>
    have hclear : ∀ gd : GroupData, ¬ GroupInput.clearStatistics = x := by
      rintro _ rfl
      exact he hx
    obtain ⟨hl', hstored, hinvalid⟩ :=
      star_ledger hv hd hclear (fun r _ h => hc d r h.symm) h hinv hl
    refine ⟨hl', ?_⟩
    rw [hstored, hinvalid]
    exact Nat.le_succ _
  | rejected k r hr hk hc =>
    have hm : GroupMove c.shared.config g (fun y _ => y = .response k r) (c.groups g) [] _ :=
      .rejected (c.groups g) k r hk rfl hc
    have hmove := hm.ledger hv hd (fun _ h => by cases h) hinv
    exact ⟨hl.move hmove, hmove.invalid_le⟩
  | accepted k r hr hk hc h hdupl =>
    have hm : GroupMove c.shared.config g (fun y _ => y = .response k r) (c.groups g) _ _ :=
      .accepted (c.groups g) k r hk rfl hc
    have hmove := hm.ledger hv hd (fun _ h => by cases h) hinv
    obtain ⟨hl', hstored, hinvalid⟩ := star_ledger hv hd (fun _ h => h) (fun _ _ h => h) h
      (groupMove_inv hv hm hinv) (hl.move hmove)
    rw [List.append_assoc] at hl'
    refine ⟨hl', ?_⟩
    rw [hinvalid, List.filter_append, hstored, List.append_nil]
    exact hmove.invalid_le

/-! ## the word of the group -/

/-- the bit of station `j` of device `d` -/
def GroupData.stationBit (gd : GroupData) (gs : GroupSetting) (d j : Nat) : Bool :=
  clIefbExtractMyTransmissionState gd.cyclicTransmissionState (UInt16.ofNat (gs.pos d + j + 1))

/-- only a scan start writes the word -/
theorem GroupMove.word {o : Options} {cfg : Config} {parameterNo : UInt16} {g : Nat}
    {A : GroupInput → GroupData → Prop} {gd gd' : GroupData} {out : List Output}
    (hv : GroupValid o cfg (cfg.hier.groups g)) (h : GroupInv cfg parameterNo g gd)
    (hm : GroupMove cfg g A gd out gd') :
    gd'.cyclicTransmissionState = gd.cyclicTransmissionState
      ∨ StartOutputs (cfg.hier.groups g) g gd gd' out := by
  rcases hm.out_cases hv h with hno | hst
  · cases hm with
    | start clm now unixMs hclm hs =>
      obtain ⟨_, hout⟩ := linkscanStart_started hv h hs hclm now unixMs
      have hreq := hno (.sendRequest g gd.scanning clm.iefbBroadcastIp clCciefbPort
        (linkscanStart g now unixMs clm gd).group.reqFrame.datagram)
        (by rw [hout]; exact List.mem_append_right _ List.mem_cons_self)
      simp [Output.isRequest] at hreq
    | _ => exact Or.inl rfl
  · exact Or.inr hst

section
variable {o : Options} {cfg : Config} {parameterNo : UInt16} {g d : Nat} {gd gd' : GroupData}
  {out : List Output} {A : GroupInput → GroupData → Prop}
  (hv : GroupValid o cfg (cfg.hier.groups g))
  (hd : d < (cfg.hier.groups g).numSlaveDevices.toNat)
include hv hd

theorem GroupMove.furtherBits (hm : GroupMove cfg g A gd out gd') (h : GroupInv cfg parameterNo g gd)
    {j : Nat} (h1 : 1 ≤ j) (hj : j < (cfg.hier.groups g).num d) :
    gd'.stationBit (cfg.hier.groups g) d j = gd.stationBit (cfg.hier.groups g) d j := by
  unfold GroupData.stationBit
  rcases hm.word hv h with hword | hst
  · rw [hword]
  · obtain ⟨now, hstarted⟩ := hst.started
    rw [hstarted.word]
    exact (startDevices_ledger hv hd gd.scanning h.station (h.scanStart hst.comp)).2.2 j h1 hj

/-- the bit of the first station, while the transmission bit is not forced -/
theorem GroupMove.firstBit (hm : GroupMove cfg g A gd out gd') (h : GroupInv cfg parameterNo g gd)
    (hforce : (gd.slaveDevices d).forceTransmissionBit = false)
    (hbit : gd.stationBit (cfg.hier.groups g) d 0 = (gd.slaveDevices d).transmissionBit) :
    gd'.stationBit (cfg.hier.groups g) d 0 = (gd'.slaveDevices d).transmissionBit := by
  rcases hm.kept hv h with hst | ⟨hno, hkept⟩
  · obtain ⟨now, hstarted⟩ := hst.started
    have hslots := hstarted.started.slots d hd
    rw [hstarted.devices, hstarted.started.device d hd,
      (startedDevice_fields _ g d (gd.scanning.slaveDevices d)).bit]
    unfold GroupData.stationBit
    rw [hstarted.word]
    unfold Slots at hslots
    split at hslots
    · rename_i hi
      rw [if_pos hi]
      exact hslots.bit.trans hbit
    · rename_i hi
      rw [if_neg hi]
      refine hslots.bit.trans ?_
      have hforce' : (gd.scanning.slaveDevices d).forceTransmissionBit = false := hforce
      simp [outgoingBit, hforce']
  · rcases hm.word hv h with hword | hst
    · unfold GroupData.stationBit at hbit ⊢
      rw [hword, (hkept d hd).bit]
      exact hbit
    · obtain ⟨conns, ip, _, hout⟩ := hst.out
      have hreq := hno (.sendRequest g gd.scanning ip clCciefbPort gd'.reqFrame.datagram)
        (by rw [hout]; exact List.mem_append_right _ List.mem_cons_self)
      simp [Output.isRequest] at hreq

end

/-! ## runs -/

namespace MasterStart
variable {o : Options} (st : MasterStart o)

/-- the account of device `d` of group `g` after the events `es` -/
structure DeviceLedger (es : List Event) (g d : Nat) : Prop where
  balance : (((st.run es).1.groups g).slaveDevices d).statistics.numberOfConnects.toNat
    = (((st.run es).1.groups g).slaveDevices d).statistics.numberOfDisconnects.toNat
      + if (((st.run es).1.groups g).slaveDevices d).transmissionBit then 1 else 0
  alternate : ∀ k x, ((st.run es).2.filter (Output.changesBit g d))[k]? = some x →
    (k % 2 = 0 → x.isConnect g d = true) ∧ (k % 2 = 1 → x.isDisconnect g d = true)
  callbacks : ((st.run es).2.filter (Output.changesBit g d)).length
    = (((st.run es).1.groups g).slaveDevices d).statistics.numberOfConnects.toNat
      + (((st.run es).1.groups g).slaveDevices d).statistics.numberOfDisconnects.toNat
  first : (∀ e ∈ es, e ≠ .forceCyclicTransmissionBit g d true) →
    ((st.run es).1.groups g).stationBit (st.vc.setting g) d 0
      = (((st.run es).1.groups g).slaveDevices d).transmissionBit
  further : ∀ j, 1 ≤ j → j < (st.vc.setting g).num d →
    ((st.run es).1.groups g).stationBit (st.vc.setting g) d j = false
  stored : (((st.run es).1.groups g).slaveDevices d).statistics.numberOfIncomingFrames.toNat
    = (((st.run es).1.groups g).slaveDevices d).statistics.numberOfIncomingInvalidFrames.toNat
      + ((st.run es).2.filter (Output.isStored g d)).length

/-- the inputs of a run in which the bit of device `d` is never forced -/
def NoForceOf (d : Nat) : GroupInput → GroupData → Prop
  | .setForce d' force, _ => ¬ (d' = d ∧ force = true)
  | _, _ => True

theorem run_firstBit {es : List Event} {g d : Nat} (hg : g < st.vc.numGroups)
    (hd : d < (st.vc.setting g).numSlaveDevices.toNat)
    (hes : ∀ e ∈ es, e ≠ .forceCyclicTransmissionBit g d true) :
    ((st.run es).1.groups g).stationBit (st.vc.setting g) d 0
      = (((st.run es).1.groups g).slaveDevices d).transmissionBit := by
  have hv := st.vc.group hg
  have hadmits : master.Steps (Admits fun h x gd => h = g → NoForceOf d x gd) st.init.1 es := by
    refine Machine.Steps.of_mem master (fun e he c h x hx hh => ?_) _
    subst hh
    cases x with
    | setForce d' force =>
      rintro ⟨rfl, rfl⟩
      exact hes e he hx
    | _ => trivial
  have hrun := st.run_inv hg
    (I := fun _ gd => (gd.slaveDevices d).forceTransmissionBit = false
      ∧ gd.stationBit (st.vc.setting g) d 0 = (gd.slaveDevices d).transmissionBit)
    (by
      intro gd hgd
      unfold GroupData.stationBit
      rw [hgd.device d hd, hgd.word]
      refine ⟨rfl, ?_⟩
      exact clIefbExtractMyTransmissionState_zero _)
    (by
      rintro hist gd out gd' hinv hm ⟨hforce, hbit⟩
      refine ⟨?_, hm.firstBit hv hd hinv hforce hbit⟩
      rcases hm.force hv hinv hd with h | h
      · exact h.trans hforce
      · cases hf : (gd'.slaveDevices d).forceTransmissionBit with
        | false => rfl
        | true =>
          rw [hf] at h
          exact absurd ⟨rfl, rfl⟩ (h rfl)) hadmits
  exact hrun.2.2

theorem run_furtherBits {es : List Event} {g d j : Nat} (hg : g < st.vc.numGroups)
    (hd : d < (st.vc.setting g).numSlaveDevices.toNat) (h1 : 1 ≤ j)
    (hj : j < (st.vc.setting g).num d) :
    ((st.run es).1.groups g).stationBit (st.vc.setting g) d j = false := by
  have hv := st.vc.group hg
  have hrun := st.run_inv (A := fun _ _ _ => True) hg
    (I := fun _ gd => gd.stationBit (st.vc.setting g) d j = false)
    (by
      intro gd hgd
      unfold GroupData.stationBit
      rw [hgd.word]
      exact clIefbExtractMyTransmissionState_zero _)
    (by
      intro hist gd out gd' hinv hm hbit
      exact (hm.furtherBits hv hd hinv h1 hj).trans hbit)
    (Machine.Steps.of_all master (fun _ _ _ _ _ => trivial) _ es)
  exact hrun.2

/-- the invariant, with one response for each event at most -/
theorem run_ledger {es : List Event} (hes : ∀ e ∈ es, e ≠ .statisticsClearAll) {g d : Nat}
    (hg : g < st.vc.numGroups) (hd : d < (st.vc.setting g).numSlaveDevices.toNat) :
    Ledger g d (ofGroup g (st.run es).2) (((st.run es).1.groups g).slaveDevices d)
      ∧ (((st.run es).1.groups g).slaveDevices d).counters.invalid.toNat
          + ((ofGroup g (st.run es).2).filter (Output.isStored g d)).length ≤ es.length := by
  have hv := st.vc.group hg
  refine st.group_inv hg
    (I := fun pre hist gd => Ledger g d hist (gd.slaveDevices d)
      ∧ (gd.slaveDevices d).counters.invalid.toNat + (hist.filter (Output.isStored g d)).length
        ≤ pre.length) ?_ ?_
  · intro gd hgd
    rw [hgd.device d hd]
    refine ⟨⟨Numbered.nil, ?_, ?_, rfl, rfl, ?_⟩, Nat.le_refl 0⟩
    · rw [List.filter_nil]
      rfl
    · rw [List.filter_nil]
      rfl
    · simp [initialDevice]
  · rintro pre e post hsplit out gd' hstep _ ⟨hl, hle⟩
    have hcfg := (st.run_config pre).1
    have hset : (st.run pre).1.setting g = st.vc.setting g := by
      rw [Clm.setting, hcfg]
    have he : e ∈ es := by
      rw [hsplit]
      exact List.mem_append_right _ List.mem_cons_self
    have hinv := st.group_groupInv pre hg
    obtain ⟨hl', hle'⟩ := hstep.ledger (o := o) (by rw [hcfg, hset]; exact hv) (by rw [hset]; exact hd)
      (by rw [hcfg]; exact hinv) (hes e he) hl
    refine ⟨hl', ?_⟩
    rw [List.filter_append, List.length_append, List.length_append, List.length_singleton]
    omega

/-- **The account of a device in every run without a clear.** -/
theorem deviceLedger (es : List Event) (hes : ∀ e ∈ es, e ≠ .statisticsClearAll)
    (hlen : es.length < 2^32) (g d : Nat) (hg : g < st.vc.numGroups)
    (hd : d < (st.vc.setting g).numSlaveDevices.toNat) : st.DeviceLedger es g d := by
  obtain ⟨hl, hle⟩ := st.run_ledger hes hg hd
  have hchanges : (ofGroup g (st.run es).2).filter (Output.changesBit g d)
      = (st.run es).2.filter (Output.changesBit g d) := by
    refine ofGroup_filter (fun x hx => ?_) _
    cases x <;> simp_all [Output.changesBit, Output.isConnect, Output.isDisconnect, Output.isOf,
      Output.owner]
  have hstored : (ofGroup g (st.run es).2).filter (Output.isStored g d)
      = (st.run es).2.filter (Output.isStored g d) := by
    refine ofGroup_filter (fun x hx => ?_) _
    cases x <;> simp_all [Output.isStored, Output.isOf, Output.owner]
  obtain ⟨halt, hcon, hdis, hbit, hin, hans⟩ := hl
  rw [hstored] at hle hin hans
  unfold Numbered at halt
  rw [hchanges] at halt hcon hdis hbit hans
  -- no counter wraps
  have hsmall : ((st.run es).2.filter (Output.changesBit g d)).length + 1 < 2 * 2^32 := by omega
  have hcon' : (((st.run es).1.groups g).slaveDevices d).statistics.numberOfConnects.toNat
      = (((st.run es).2.filter (Output.changesBit g d)).length + 1) / 2 := by
    refine (congrArg UInt32.toNat hcon).trans ?_
    rw [UInt32.toNat_ofNat']
    omega
  have hdis' : (((st.run es).1.groups g).slaveDevices d).statistics.numberOfDisconnects.toNat
      = ((st.run es).2.filter (Output.changesBit g d)).length / 2 := by
    refine (congrArg UInt32.toNat hdis).trans ?_
    rw [UInt32.toNat_ofNat']
    omega
  refine ⟨?_, fun k x hx => ?_, ?_, st.run_firstBit hg hd, fun j => st.run_furtherBits hg hd, ?_⟩
  · rw [hcon', hdis', hbit]
    split
    · rename_i hodd
      have := of_decide_eq_true hodd
      omega
    · rename_i heven
      have := of_decide_eq_false (Bool.eq_false_iff.mpr heven)
      omega
  · have hk : x.isConnect g d = decide (k % 2 = 0) := halt k x hx
    refine ⟨fun h => hk.trans (decide_eq_true h), fun h => ?_⟩
    have hp := (List.mem_filter.mp (List.mem_of_getElem? hx)).2
    rw [Output.changesBit, hk, decide_eq_false (by omega), Bool.false_or] at hp
    exact hp
  · rw [hcon', hdis']
    omega
  · have hin' : (((st.run es).1.groups g).slaveDevices d).statistics.numberOfIncomingFrames
        = (((st.run es).1.groups g).slaveDevices d).statistics.numberOfIncomingInvalidFrames
          + UInt32.ofNat ((st.run es).2.filter (Output.isStored g d)).length := hin
    have hle' : (((st.run es).1.groups g).slaveDevices d).statistics.numberOfIncomingInvalidFrames.toNat
        + ((st.run es).2.filter (Output.isStored g d)).length ≤ es.length := hle
    rw [hin', UInt32.toNat_add, UInt32.toNat_ofNat']
    omega

/-- a device that connects and then stays silent until it is disconnected -/
theorem deviceLedger_example : (exampleStart false false).DeviceLedger
    [.exampleTick 5000, .exampleAnswer 5100 0 1 0 0, .exampleTick 50000, .exampleTick 100000,
      .exampleTick 150000, .exampleAnswer 150100 0 1 0 4] 0 0 :=
  (exampleStart false false).deviceLedger _ (by simp [Event.exampleTick, Event.exampleAnswer])
    (by decide) 0 0 (by decide) (by decide)

end MasterStart

end CLink
