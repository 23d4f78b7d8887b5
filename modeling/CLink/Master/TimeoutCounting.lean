import CLink.Master.Disconnect

/-!
# Timeouts of a device

A device in `CYCLIC_SENDING` that does not answer is counted at the end of every link scan, and is
disconnected when the counter is full.

* `CountBounded`          the counter is below the limit, and 0 in `LISTEN`;
* `Unanswered`            a device without answers, by the number of requests so far;
* `GroupMove.unanswered`  every move of its group;
* `MasterStart.timeoutCounting`   the requests and the statistics of every run.
-/

namespace CLink
open Loop Trace

/-! ## the counter -/

structure CountBounded (gs : GroupSetting) (dev : SlaveDeviceData) : Prop where
  below : dev.timeoutCount.toNat < gs.parallelOffTimeoutCount.toNat
  listen : dev.deviceState = .listen → dev.timeoutCount = 0

section
variable {gs : GroupSetting} {dev dev' : SlaveDeviceData}

/-- only state and counter are looked at -/
theorem CountBounded.congr (h : CountBounded gs dev) (hs : dev'.deviceState = dev.deviceState)
    (hc : dev'.timeoutCount = dev.timeoutCount) : CountBounded gs dev' := by
  refine ⟨?_, ?_⟩
  · rw [hc]
    exact h.below
  · rw [hs, hc]
    exact h.listen

theorem CountBounded.enter (h : CountBounded gs dev) (next : DeviceState) :
    CountBounded gs (dev.enter next) := by
  unfold SlaveDeviceData.enter
  split
  · exact ⟨Nat.lt_of_le_of_lt (Nat.zero_le _) h.below, fun _ => rfl⟩
  · rename_i hn
    refine ⟨h.below, ?_⟩
    intro hl
    have hnext : next = .listen := hl
    by_contra hc
    exact hn ⟨hnext, fun hs => hc (h.listen hs)⟩

/-- **The counter of one device.** -/
theorem CountBounded.local (h : CountBounded gs dev) (event : DeviceEvent) :
    CountBounded gs (deviceLocal gs event dev) := by
  have hpos := Nat.lt_of_le_of_lt (Nat.zero_le _) h.below
  unfold deviceLocal
  split
  · exact ⟨hpos, fun hl => nomatch hl⟩
  · unfold SlaveDeviceData.timeout
    split
    · exact ⟨hpos, fun _ => rfl⟩
    · rename_i hnotFull
      refine ⟨?_, fun hl => nomatch hl⟩
      rw [ge_iff_le, UInt16.le_iff_toNat_le, not_le] at hnotFull
      exact hnotFull
  · exact h.enter _

/-- a link scan start leaves the counter and the number of timeouts alone -/
theorem startedDevice_counts (gs : GroupSetting) (g d : Nat) (dev : SlaveDeviceData) :
    (startedDevice gs g d dev).timeoutCount = dev.timeoutCount
      ∧ (startedDevice gs g d dev).statistics.numberOfTimeouts
        = dev.statistics.numberOfTimeouts := by
  unfold startedDevice
  split
  · exact ⟨rfl, rfl⟩
  · unfold countSentFrame setTransmissionBit
    split <;> split <;> split <;> exact ⟨rfl, rfl⟩

theorem CountBounded.started (h : CountBounded gs dev) (g d : Nat) :
    CountBounded gs (startedDevice gs g d dev) := by
  have hcount := (startedDevice_counts gs g d dev).1
  refine ⟨?_, ?_⟩
  · rw [hcount]
    exact h.below
  · rw [(startedDevice_fields gs g d dev).state]
    intro hl
    unfold scanStartState at hl
    split at hl
    · split at hl <;> cases hl
    · cases hl

end

section
variable {gs : GroupSetting} {d : Nat} {gd : GroupData}

theorem CountBounded.checkDevice (h : CountBounded gs (gd.slaveDevices d)) (r : CyclicResponse) :
    CountBounded gs (checkDevice gs d r gd).1 := by
  unfold CLink.checkDevice
  simp only
  obtain ⟨st, hst⟩ := countAlarms_core r (countIncoming (gd.slaveDevices d))
  split
  · exact h.congr rfl rfl
  split
  · have hcount : CountBounded gs (countInvalid (countIncoming (gd.slaveDevices d))) :=
      h.congr rfl rfl
    exact hcount.local _
  split
  · exact h.congr rfl rfl
  rw [hst]
  split <;> exact h.congr rfl rfl

theorem CountBounded.acceptResponse (h : CountBounded gs (gd.slaveDevices d)) (cfg : Config)
    (r : CyclicResponse) :
    CountBounded gs ((acceptResponse cfg gs d r gd).slaveDevices d) := by
  have hchecked := h.checkDevice r
  obtain ⟨st, hst⟩ := countReported_core r (CLink.checkDevice gs d r gd).1
  have hstored : CountBounded gs (storeHeaders cfg gd r
      (countReported r (CLink.checkDevice gs d r gd).1)) := by
    rw [hst]
    exact hchecked.congr rfl rfl
  unfold CLink.acceptResponse
  simp only [Function.update_self]
  unfold deviceResponse
  split
  · exact hstored
  · exact hstored.local _

end

section
variable {o : Options} {cfg : Config} {parameterNo : UInt16} {g : Nat}
  {A : GroupInput → GroupData → Prop} {gd gd' : GroupData} {out : List Output}
  (hv : GroupValid o cfg (cfg.hier.groups g))
include hv

theorem GroupMove.countBounded (hm : GroupMove cfg g A gd out gd')
    (h : GroupInv cfg parameterNo g gd)
    (hc : ∀ d, d < (cfg.hier.groups g).numSlaveDevices.toNat →
      CountBounded (cfg.hier.groups g) (gd.slaveDevices d)) :
    ∀ d, d < (cfg.hier.groups g).numSlaveDevices.toNat →
      CountBounded (cfg.hier.groups g) (gd'.slaveDevices d) := by
  intro d hd
  have hmodify : ∀ e f, CountBounded (cfg.hier.groups g) (f (gd.slaveDevices e)) →
      CountBounded (cfg.hier.groups g) ((gd.modifyDevice e f).slaveDevices d) := by
    intro e f hf
    by_cases hde : d = e
    · rw [hde, GroupData.modifyDevice_self]
      exact hf
    · rw [GroupData.modifyDevice_of_ne _ _ _ hde]
      exact hc d hd
  cases hm with
  | setEnabled e enabled ha =>
    rw [gd.modifyDevice_slaveDevices]
    split
    · exact (hc d hd).congr rfl rfl
    · exact hc d hd
  | setForce e force ha =>
    rw [gd.modifyDevice_slaveDevices]
    split
    · exact (hc d hd).congr rfl rfl
    · exact hc d hd
  | clearStatistics ha =>
    rw [GroupData.clearStatistics, gd.mapDevices_slaveDevices _ hd]
    exact (hc d hd).congr rfl rfl
  | rejected e r he ha hcheck => exact hmodify e _ ((hc e he).checkDevice r)
  | accepted e r he ha hcheck =>
    by_cases hde : d = e
    · rw [hde]
      exact (hc e he).acceptResponse cfg r
    · rw [acceptResponse_other cfg hde]
      exact hc d hd
  | complete hs hr =>
    rw [gd.endScan_slaveDevices _ _ hd]
    exact (hc d hd).local _
  | timeout hs =>
    rw [gd.endScan_slaveDevices _ _ hd]
    exact (hc d hd).local _
  | start clm now unixMs hclm hs =>
    obtain ⟨hst, _⟩ := linkscanStart_started hv h hs hclm now unixMs
    rw [hst.devices, hst.started.device d hd]
    exact (hc d hd).started g d
  | standby hs =>
    rw [gd.standby_slaveDevices _ hd]
    exact (hc d hd).local _
  | _ => exact hc d hd

end

/-! ## a device that does not answer -/

/-- the device has been given up, or has been asked for a connection since then -/
def DeviceState.left : DeviceState → Bool
  | listen => true
  | waitTd => true
  | _ => false

/-- a device without answers after `n` requests, where `asked` of them ask an answered device for
the first time; `before` is the device at an earlier look -/
inductive Unanswered (gs : GroupSetting) (asked : Nat) (before : SlaveDeviceData) (n : Nat)
    (dev : SlaveDeviceData) : Prop where
  | sending (hs : dev.deviceState = .cyclicSending) (hn : dev.timeoutCount.toNat + asked = n)
      (ht : dev.statistics.numberOfTimeouts = before.statistics.numberOfTimeouts)
      (hw : before.deviceState.left = false) : Unanswered gs asked before n dev
  | sent (hs : dev.deviceState = .cyclicSent) (hn : dev.timeoutCount.toNat + asked = n + 1)
      (ht : dev.statistics.numberOfTimeouts = before.statistics.numberOfTimeouts)
      (hw : before.deviceState.left = false) : Unanswered gs asked before n dev
  | gone (hs : dev.deviceState.left = true)
      (hn : gs.parallelOffTimeoutCount.toNat + asked ≤ n + 1)
      (ht : dev.statistics.numberOfTimeouts = before.statistics.numberOfTimeouts
        + (if before.deviceState.left then 0 else 1)) : Unanswered gs asked before n dev

/-- the bit of device `d` in request `k`, counted from 0 -/
def Output.keepsBit (gs : GroupSetting) (d asked k : Nat) : Output → Prop
  | sendRequest _ start _ _ dg => requestBit dg (UInt16.ofNat (gs.pos d + 1))
    = (decide (k + 1 < gs.parallelOffTimeoutCount.toNat + asked)
      || (start.slaveDevices d).forceTransmissionBit)
  | _ => True

/-- the requests and the device, unless the group has gone to `MASTER_LISTEN` -/
structure CountingRun (gs : GroupSetting) (g d asked : Nat) (before : SlaveDeviceData)
    (hist : List Output) (gd : GroupData) : Prop where
  bits : Numbered (Output.isRequest g) (Output.keepsBit gs d asked) hist
  device : gd.groupState = .masterListen ∨ (gd.slaveDevices d).enabled = true
    ∧ Unanswered gs asked before (hist.filter (Output.isRequest g)).length (gd.slaveDevices d)

section
variable {gs : GroupSetting} {asked n : Nat} {before dev dev' : SlaveDeviceData}

theorem Unanswered.congr (h : Unanswered gs asked before n dev)
    (hs : dev'.deviceState = dev.deviceState) (hc : dev'.timeoutCount = dev.timeoutCount)
    (ht : dev'.statistics.numberOfTimeouts = dev.statistics.numberOfTimeouts) :
    Unanswered gs asked before n dev' := by
  cases h with
  | sending h1 h2 h3 h4 => exact .sending (hs.trans h1) (by rw [hc]; exact h2) (ht.trans h3) h4
  | sent h1 h2 h3 h4 => exact .sent (hs.trans h1) (by rw [hc]; exact h2) (ht.trans h3) h4
  | gone h1 h2 h3 => exact .gone (by rw [hs]; exact h1) h2 (ht.trans h3)

/-- another look, at a device with the same state and counter -/
theorem Unanswered.look (h : Unanswered gs asked before n dev)
    (hs : dev'.deviceState = dev.deviceState) (hc : dev'.timeoutCount = dev.timeoutCount) :
    Unanswered gs asked dev' n dev' := by
  have hleft : dev'.deviceState.left = dev.deviceState.left := by
    rw [hs]
  cases h with
  | sending h1 h2 h3 h4 =>
    refine .sending (hs.trans h1) (by rw [hc]; exact h2) rfl ?_
    rw [hs, h1]
    rfl
  | sent h1 h2 h3 h4 =>
    refine .sent (hs.trans h1) (by rw [hc]; exact h2) rfl ?_
    rw [hs, h1]
    rfl
  | gone h1 h2 h3 =>
    refine .gone (hleft.trans h1) h2 ?_
    rw [hleft, h1]
    exact (UInt32.add_zero _).symm

/-- the end of a link scan for a device that has been given up -/
theorem deviceLocal_left (hs : dev.deviceState.left = true) {event : DeviceEvent}
    (he : event = .groupTimeout ∨ event = .groupAllResponded) :
    deviceLocal gs event dev = dev.enter .listen := by
  have hstate : dev.deviceState = .listen ∨ dev.deviceState = .waitTd := by
    generalize dev.deviceState = state at hs
    cases state <;> first | exact Or.inl rfl | exact Or.inr rfl | cases hs
  unfold deviceLocal
  rcases hstate with hstate | hstate <;> rcases he with rfl | rfl <;> rw [hstate] <;> rfl

theorem Unanswered.enterListen (hs : dev.deviceState.left = true)
    (h : Unanswered gs asked before n dev) : Unanswered gs asked before n (dev.enter .listen) := by
  cases h with
  | sending h1 h2 h3 h4 =>
    rw [h1] at hs
    cases hs
  | sent h1 h2 h3 h4 =>
    rw [h1] at hs
    cases hs
  | gone h1 h2 h3 =>
    refine .gone ?_ h2 ?_
    · rw [enter_deviceState]
      rfl
    · unfold SlaveDeviceData.enter
      split <;> exact h3

/-- no row for the end of a link scan -/
theorem deviceLocal_sent (hs : dev.deviceState = .cyclicSent) {event : DeviceEvent}
    (he : event = .groupTimeout ∨ event = .groupAllResponded) : deviceLocal gs event dev = dev := by
  have henter : dev.enter .cyclicSent = dev := by
    unfold SlaveDeviceData.enter
    rw [if_neg (by simp), ← hs]
  unfold deviceLocal
  rcases he with rfl | rfl <;> rw [hs] <;> exact henter

/-- **A link scan ends with a timeout.** -/
theorem Unanswered.timeout (h : Unanswered gs asked before n dev) (hb : CountBounded gs dev) :
    Unanswered gs asked before n (deviceLocal gs .groupTimeout dev) := by
  cases h with
  | sending hs hn ht hw =>
    have hlocal : deviceLocal gs .groupTimeout dev = dev.timeout gs := by
      unfold deviceLocal
      rw [hs]
    have hlimit := gs.parallelOffTimeoutCount.toNat_lt
    have hbelow := hb.below
    have hnat : (dev.timeoutCount + 1).toNat = dev.timeoutCount.toNat + 1 := by
      rw [UInt16.toNat_add]
      show (dev.timeoutCount.toNat + 1) % 65536 = _
      omega
    rw [hlocal]
    unfold SlaveDeviceData.timeout
    split
    · rename_i hfull
      rw [ge_iff_le, UInt16.le_iff_toNat_le, hnat] at hfull
      refine .gone rfl (by omega) ?_
      rw [ht, hw]
      rfl
    · refine .sent rfl ?_ ht hw
      show (dev.timeoutCount + 1).toNat + asked = n + 1
      omega
  | sent hs hn ht hw =>
    rw [deviceLocal_sent hs (Or.inl rfl)]
    exact .sent hs hn ht hw
  | gone hs hn ht =>
    rw [deviceLocal_left hs (Or.inl rfl)]
    exact .enterListen hs (.gone hs hn ht)

/-- a link scan is complete; a device in `CYCLIC_SENDING` would have prevented that -/
theorem Unanswered.allResponded (h : Unanswered gs asked before n dev)
    (hns : dev.deviceState ≠ .cyclicSending) :
    Unanswered gs asked before n (deviceLocal gs .groupAllResponded dev) := by
  cases h with
  | sending hs hn ht hw => exact absurd hs hns
  | sent hs hn ht hw =>
    rw [deviceLocal_sent hs (Or.inr rfl)]
    exact .sent hs hn ht hw
  | gone hs hn ht =>
    rw [deviceLocal_left hs (Or.inr rfl)]
    exact .enterListen hs (.gone hs hn ht)

/-- **The next link scan starts**, with the bit that goes out. -/
theorem Unanswered.start (h : Unanswered gs asked before n dev) (hb : CountBounded gs dev)
    (he : dev.enabled = true)
    (hs : dev.deviceState = .listen ∨ dev.deviceState = .cyclicSent) (g d : Nat) :
    Unanswered gs asked before (n + 1) (startedDevice gs g d dev)
      ∧ outgoingBit dev = (decide (n + 1 < gs.parallelOffTimeoutCount.toNat + asked)
        || dev.forceTransmissionBit) := by
  obtain ⟨hcount, htimeouts⟩ := startedDevice_counts gs g d dev
  have hstate := (startedDevice_fields gs g d dev).state
  cases h with
  | sending h1 h2 h3 h4 =>
    rw [h1] at hs
    rcases hs with hs | hs <;> cases hs
  | sent h1 h2 h3 h4 =>
    have hsending : scanStartState dev = .cyclicSending := scanStartState_cyclicSending.mpr ⟨he, h1⟩
    have hbelow := hb.below
    refine ⟨.sending (hstate.trans hsending) ?_ (htimeouts.trans h3) h4, ?_⟩
    · rw [hcount]
      exact h2
    · have hlt : n + 1 < gs.parallelOffTimeoutCount.toNat + asked := by omega
      simp [outgoingBit, hsending, hlt]
  | gone h1 h2 h3 =>
    have hlisten : dev.deviceState ≠ .cyclicSent := by
      intro hsent
      rw [hsent] at h1
      cases h1
    have hwait : scanStartState dev = .waitTd := by
      unfold scanStartState
      rw [if_pos he, if_neg hlisten]
    refine ⟨.gone ?_ (by omega) (htimeouts.trans h3), ?_⟩
    · rw [hstate, hwait]
      rfl
    · have hge : ¬ n + 1 < gs.parallelOffTimeoutCount.toNat + asked := by omega
      simp [outgoingBit, hwait, hge]

/-- whether the device has been given up since the look, and its number of timeouts -/
theorem Unanswered.summary (h : Unanswered gs asked before n dev) (hb : CountBounded gs dev) :
    dev.statistics.numberOfTimeouts = before.statistics.numberOfTimeouts
        + (if dev.deviceState.left && !before.deviceState.left then 1 else 0)
      ∧ (gs.parallelOffTimeoutCount.toNat + asked ≤ n → dev.deviceState.left = true)
      ∧ (n + 1 < gs.parallelOffTimeoutCount.toNat + asked → dev.deviceState.left = false) := by
  have hbelow := hb.below
  cases h with
  | sending hs hn ht hw =>
    rw [hs]
    refine ⟨ht.trans (UInt32.add_zero _).symm, ?_, fun _ => rfl⟩
    intro hle
    omega
  | sent hs hn ht hw =>
    rw [hs]
    refine ⟨ht.trans (UInt32.add_zero _).symm, ?_, fun _ => rfl⟩
    intro hle
    omega
  | gone hs hn ht =>
    rw [hs]
    refine ⟨?_, fun _ => rfl, ?_⟩
    · rw [ht]
      cases before.deviceState.left <;> rfl
    · intro hlt
      omega

end

/-- an answer in `CYCLIC_SENDING` -/
theorem acceptResponse_success (cfg : Config) {gs : GroupSetting} {d : Nat} {gd : GroupData}
    {r : CyclicResponse} (hc : (checkDevice gs d r gd).2 = true)
    (hs : (gd.slaveDevices d).deviceState = .cyclicSending)
    (hcode : r.fullHeaders.cyclicHeader.endCode = endcodeSuccess) :
    ((acceptResponse cfg gs d r gd).slaveDevices d).enabled = true
      ∧ ((acceptResponse cfg gs d r gd).slaveDevices d).deviceState = .cyclicSent
      ∧ ((acceptResponse cfg gs d r gd).slaveDevices d).timeoutCount = 0 := by
  have hpass := checkDevice_passed hc
  obtain ⟨st, hst⟩ := countAlarms_core r (countIncoming (gd.slaveDevices d))
  obtain ⟨st', hst'⟩ := countReported_core r
    { countIncoming (gd.slaveDevices d) with statistics := st }
  have hdev : (acceptResponse cfg gs d r gd).slaveDevices d
      = deviceResponse gs r (storeHeaders cfg gd r
          { countIncoming (gd.slaveDevices d) with statistics := st' }) := by
    simp only [acceptResponse, Function.update_self, hpass.device, hst, hst']
  have hstate : (storeHeaders cfg gd r
      { countIncoming (gd.slaveDevices d) with statistics := st' }).deviceState
        = .cyclicSending := hs
  have hother : r.fullHeaders.cyclicHeader.endCode ≠ endcodeMasterDuplication := by
    rw [hcode]
    decide
  rw [hdev, deviceResponse, if_neg hother, responseEvent, if_pos hcode]
  have hlocal : ∀ dev : SlaveDeviceData, dev.deviceState = .cyclicSending →
      deviceLocal gs .receiveOk dev
        = { dev with deviceState := .cyclicSent, timeoutCount := 0 } := by
    intro dev hdev
    unfold deviceLocal
    rw [hdev]
  rw [hlocal _ hstate]
  exact ⟨hpass.enabled, rfl, rfl⟩

/-! ## moves -/

/-- a move without a request -/
theorem CountingRun.silent {gs : GroupSetting} {g d asked : Nat} {before before' : SlaveDeviceData}
    {hist out : List Output} {gd gd' : GroupData} (h : CountingRun gs g d asked before hist gd)
    (ho : ∀ x ∈ out, x.isRequest g = false)
    (hdev : gd'.groupState = .masterListen ∨ (gd'.slaveDevices d).enabled = true
      ∧ Unanswered gs asked before' (hist.filter (Output.isRequest g)).length
        (gd'.slaveDevices d)) :
    CountingRun gs g d asked before' (hist ++ out) gd' := by
  refine ⟨h.bits.silent ho, ?_⟩
  rw [Numbered.filter_silent ho]
  exact hdev

section
variable {o : Options} {cfg : Config} {parameterNo : UInt16} {g d asked : Nat}
  {before : SlaveDeviceData}
  {A : GroupInput → GroupData → Prop} {gd gd' : GroupData} {hist out : List Output}
  (hv : GroupValid o cfg (cfg.hier.groups g))
  (hd : d < (cfg.hier.groups g).numSlaveDevices.toNat)
  (hA : ∀ r gd, ¬ A (.response d r) gd)
  (hE : ∀ enabled gd, A (.setEnabled d enabled) gd → enabled = true)
include hv hd hA hE

/-- **Every move of the group.**  Only the clearing of the statistics changes the number that the
timeout is added to. -/
theorem GroupMove.counting (hm : GroupMove cfg g A gd out gd') (h : GroupInv cfg parameterNo g gd)
    (hb : CountBounded (cfg.hier.groups g) (gd.slaveDevices d))
    (hrun : CountingRun (cfg.hier.groups g) g d asked before hist gd) :
    ∃ before', CountingRun (cfg.hier.groups g) g d asked before' (hist ++ out) gd'
      ∧ ((∀ gd, ¬ A .clearStatistics gd) → before' = before) := by
  have hnil : ∀ x ∈ ([] : List Output), x.isRequest g = false := fun _ hx => nomatch hx
  rcases hrun.device with hlisten | ⟨hen, hun⟩
  · obtain ⟨hlisten', hsilent⟩ := hm.listen hlisten
    exact ⟨before, hrun.silent (fun x hx => hsilent x hx g) (Or.inl hlisten'), fun _ => rfl⟩
  -- the device is not touched
  have hkeep : ∀ {gd' : GroupData}, gd'.slaveDevices d = gd.slaveDevices d →
      gd'.groupState = .masterListen ∨ (gd'.slaveDevices d).enabled = true
        ∧ Unanswered (cfg.hier.groups g) asked before
          (hist.filter (Output.isRequest g)).length (gd'.slaveDevices d) := by
    intro gd' hdev
    rw [hdev]
    exact Or.inr ⟨hen, hun⟩
  cases hm with
  | setEnabled e enabled ha =>
    refine ⟨before, hrun.silent hnil ?_, fun _ => rfl⟩
    by_cases hde : d = e
    · subst hde
      rw [GroupData.modifyDevice_self]
      exact Or.inr ⟨hE _ _ ha, hun.congr rfl rfl rfl⟩
    · exact hkeep (GroupData.modifyDevice_of_ne _ _ _ hde)
  | setForce e force ha =>
    refine ⟨before, hrun.silent hnil (Or.inr ?_), fun _ => rfl⟩
    rw [gd.modifyDevice_slaveDevices]
    split
    · exact ⟨hen, hun.congr rfl rfl rfl⟩
    · exact ⟨hen, hun⟩
  | clearStatistics ha =>
    have hdev : (gd.clearStatistics (cfg.hier.groups g)).slaveDevices d
        = { gd.slaveDevices d with
            statistics := clmIefbStatisticsClear (gd.slaveDevices d).statistics
            latestFrame := clmIefbLatestReceivedClear (gd.slaveDevices d).latestFrame } := by
      rw [GroupData.clearStatistics, gd.mapDevices_slaveDevices _ hd]
    refine ⟨(gd.clearStatistics (cfg.hier.groups g)).slaveDevices d, hrun.silent hnil (Or.inr ?_),
      fun hno => absurd ha (hno _)⟩
    rw [hdev]
    exact ⟨hen, hun.look rfl rfl⟩
  | rejected e r he ha hc =>
    refine ⟨before, hrun.silent hnil (hkeep ?_), fun _ => rfl⟩
    have hde : d ≠ e := by
      rintro rfl
      exact hA r gd ha
    exact GroupData.modifyDevice_of_ne _ _ _ hde
  | accepted e r he ha hc =>
    refine ⟨before, hrun.silent (fun x hx => accepted_isRequest g e r _ _ x hx g) (hkeep ?_),
      fun _ => rfl⟩
    have hde : d ≠ e := by
      rintro rfl
      exact hA r gd ha
    exact acceptResponse_other cfg hde
  | complete hs hr =>
    have hp := h.phase
    rw [hs] at hp
    have hsame := deviceLocal_same (cfg.hier.groups g) .groupAllResponded (gd.slaveDevices d)
    refine ⟨before, hrun.silent (fun x hx => by rw [List.mem_singleton.mp hx]; rfl)
      (Or.inr ?_), fun _ => rfl⟩
    rw [gd.endScan_slaveDevices _ _ hd]
    exact ⟨hsame.enabled.trans hen, hun.allResponded (noSending_of_haveReceived hp hr hd)⟩
  | timeout hs =>
    have hsame := deviceLocal_same (cfg.hier.groups g) .groupTimeout (gd.slaveDevices d)
    refine ⟨before, hrun.silent (fun x hx => by rw [List.mem_singleton.mp hx]; rfl)
      (Or.inr ?_), fun _ => rfl⟩
    rw [gd.endScan_slaveDevices _ _ hd]
    exact ⟨hsame.enabled.trans hen, hun.timeout hb⟩
  | start clm now unixMs hclm hs =>
    obtain ⟨hst, hout⟩ := linkscanStart_started hv h hs hclm now unixMs
    have hslots := linkscanStarted_slots hv h hs hst hd
    have hphase := h.phase d hd
    rw [hs] at hphase
    obtain ⟨hun', hbit⟩ := hun.start hb hen (hphase.imp_right And.left) g d
    have hen' : (gd.scanning.slaveDevices d).enabled = true := hen
    rw [SentSlots, if_neg (by simp [scanStartIgnored, hen'])] at hslots
    have hconns : ∀ x ∈ (startDevices (cfg.hier.groups g) g gd.scanning).2,
        x.isRequest g = false := fun x hx => (startDevices_out _ _ _ x hx).isRequest
    have hdev : (linkscanStart g now unixMs clm gd).group.slaveDevices d
        = startedDevice (cfg.hier.groups g) g d (gd.slaveDevices d) := by
      rw [hst.devices, hst.started.device d hd]
      rfl
    refine ⟨before, ?_, fun _ => rfl⟩
    rw [hout]
    refine ⟨hrun.bits.mark hconns (by simp [Output.isRequest]) ?_, Or.inr ?_⟩
    · exact hslots.bit.trans hbit
    · rw [Numbered.filter_mark (by simp [Output.isRequest]) hconns, List.length_append, hdev]
      exact ⟨(startedDevice_fields _ g d _).enabled.trans hen, hun'⟩
  | standby hs => exact ⟨before, hrun.silent hnil (Or.inl rfl), fun _ => rfl⟩
  | _ => exact ⟨before, hrun.silent hnil (hkeep rfl), fun _ => rfl⟩

end

/-! ## runs -/

/-- no response of the device is handled, and it is not disabled -/
def StaysSilent (g d : Nat) (c : Clm) (e : Event) : Prop :=
  (∀ r, ¬ GroupReceives c e g (.response d r)) ∧ e ≠ .setSlaveCommunicationStatus g d false

/-- the device waits for data, and its previous scan was answered -/
structure AskedForData (gd : GroupData) (d : Nat) : Prop where
  enabled : (gd.slaveDevices d).enabled = true
  state : (gd.slaveDevices d).deviceState = .cyclicSending
  count : (gd.slaveDevices d).timeoutCount = 0

theorem AskedForData.counting {gd : GroupData} {d : Nat} (h : AskedForData gd d) (gs : GroupSetting)
    (g : Nat) : CountingRun gs g d 0 (gd.slaveDevices d) [] gd := by
  refine ⟨.nil, Or.inr ⟨h.enabled, .sending h.state ?_ rfl ?_⟩⟩
  · rw [h.count]
    rfl
  · rw [h.state]
    rfl

/-- the requests of a run, from the outputs about the group -/
theorem CountingRun.requests {gs : GroupSetting} {g d asked : Nat} {before : SlaveDeviceData}
    {hist : List Output} {gd : GroupData}
    (h : CountingRun gs g d asked before (ofGroup g hist) gd) :
    Numbered (Output.isRequest g) (Output.keepsBit gs d asked) hist := by
  intro k x hx
  rw [← ofGroup_requests] at hx
  exact h.bits k x hx

namespace MasterStart
variable {o : Options} (st : MasterStart o) {g d : Nat} (hg : g < st.vc.numGroups)
  (hd : d < (st.vc.setting g).numSlaveDevices.toNat)
include hg

theorem run_countBounded (es : List Event) : ∀ d, d < (st.vc.setting g).numSlaveDevices.toNat →
    CountBounded (st.vc.setting g) (((st.run es).1.groups g).slaveDevices d) := by
  have hv := st.vc.group hg
  have h := st.run_inv (A := fun _ _ _ => True) hg
    (I := fun _ gd => ∀ d, d < (st.vc.setting g).numSlaveDevices.toNat →
      CountBounded (st.vc.setting g) (gd.slaveDevices d))
    (by
      intro gd hi d hd
      rw [hi.device d hd]
      exact ⟨hv.count, fun _ => rfl⟩)
    (fun _ _ _ _ hinv hm hb => hm.countBounded hv hinv hb)
    (Machine.Steps.of_all master (fun _ _ _ _ _ => trivial) _ es)
  exact h.2

include hd

/-- the run goes on without an answer -/
theorem run_counting (pre post : List Event) (clear : Prop)
    (hpost : master.Steps (fun c e => StaysSilent g d c e ∧ (e = .statisticsClearAll → clear))
      (st.run pre).1 post) {asked : Nat} {before : SlaveDeviceData} {hist : List Output}
    (h : CountingRun (st.vc.setting g) g d asked before (ofGroup g hist)
      ((st.run pre).1.groups g)) :
    ∃ before', CountingRun (st.vc.setting g) g d asked before'
        (ofGroup g (hist ++ (master.run (st.run pre).1 post).2))
        ((master.run (st.run pre).1 post).1.groups g)
      ∧ (¬ clear → before' = before) := by
  have hcfg := (st.run_config pre).1
  have hv := st.vc.group hg
  have hg' : g < (st.run pre).1.numGroups := by
    rw [Clm.numGroups, hcfg]
    exact hg
  have hsteps : master.Steps (Admits fun k x _ => k = g → (∀ r, x ≠ .response d r)
      ∧ x ≠ .setEnabled d false ∧ (x = .clearStatistics → clear)) (st.run pre).1 post := by
    refine Machine.Steps.mono master ?_ hpost
    rintro c e ⟨⟨hno, hen⟩, hclear⟩ k x hx rfl
    refine ⟨?_, ?_, ?_⟩
    · rintro r rfl
      exact hno r hx
    · rintro rfl
      exact hen hx
    · rintro rfl
      exact hclear hx
  have hrun := master_run_inv (c := (st.run pre).1)
    (I := fun out gd => GroupInv st.vc.cfg st.parameterNo g gd
      ∧ (∀ d, d < (st.vc.setting g).numSlaveDevices.toNat →
        CountBounded (st.vc.setting g) (gd.slaveDevices d))
      ∧ ∃ before', CountingRun (st.vc.setting g) g d asked before' out gd
        ∧ (¬ clear → before' = before))
    (by
      rintro hist gd out gd' hm ⟨hinv, hb, before', hrun, hsame⟩
      obtain ⟨next, hnext, hkept⟩ := hm.counting hv hd (fun r _ ha => (ha rfl).1 r rfl)
        (fun enabled _ ha => by
          have hne := (ha rfl).2.1
          cases enabled with
          | true => rfl
          | false => exact absurd rfl hne) hinv (hb d hd) hrun
      refine ⟨groupMove_inv hv hm hinv, hm.countBounded hv hinv hb, next, hnext, ?_⟩
      intro hclear
      rw [hkept (fun _ ha => hclear ((ha rfl).2.2 rfl)), hsame hclear])
    hist hcfg hg'
    ⟨st.group_groupInv pre hg, st.run_countBounded hg pre, before, h, fun _ => rfl⟩ hsteps
  exact hrun.2.2

omit hd in
/-- a group in `MASTER_LISTEN` stays there -/
theorem listen_stays (pre post : List Event)
    (h : ((st.run pre).1.groups g).groupState = .masterListen) :
    ((master.run (st.run pre).1 post).1.groups g).groupState = .masterListen := by
  have hcfg := (st.run_config pre).1
  have hg' : g < (st.run pre).1.numGroups := by
    rw [Clm.numGroups, hcfg]
    exact hg
  exact master_run_inv (c := (st.run pre).1) (A := fun _ _ _ => True)
    (I := fun _ gd => gd.groupState = .masterListen)
    (fun _ _ _ _ hm hs => (hm.listen hs).1) [] hcfg hg' h
    (Machine.Steps.of_all master (fun _ _ _ _ _ => trivial) _ post)

omit hg hd in
/-- the timeouts of device `d` of group `g` in every run -/
structure TimeoutCounting (g d : Nat) : Prop where
  /-- the counter, between two events -/
  bounded : ∀ es, CountBounded (st.vc.setting g) (((st.run es).1.groups g).slaveDevices d)
  /-- without an answer the bit stays on for one request less than the limit -/
  requests : ∀ pre post, AskedForData ((st.run pre).1.groups g) d →
    master.Steps (StaysSilent g d) (st.run pre).1 post →
    Numbered (Output.isRequest g) (Output.keepsBit (st.vc.setting g) d 0)
      (master.run (st.run pre).1 post).2
  /-- the number of timeouts grows by one when the device is given up, for whoever looks at it
  before and after without clearing it in between -/
  timeouts : ∀ pre mid post, AskedForData ((st.run pre).1.groups g) d →
    master.Steps (StaysSilent g d) (st.run pre).1 (mid ++ post) →
    (∀ e ∈ post, e ≠ .statisticsClearAll) →
    ((st.run (pre ++ mid ++ post)).1.groups g).groupState ≠ .masterListen →
    let dev := ((st.run (pre ++ mid)).1.groups g).slaveDevices d
    let dev' := ((st.run (pre ++ mid ++ post)).1.groups g).slaveDevices d
    let limit := (st.vc.setting g).parallelOffTimeoutCount.toNat
    let n := ((master.run (st.run pre).1 (mid ++ post)).2.filter (Output.isRequest g)).length
    dev'.statistics.numberOfTimeouts = dev.statistics.numberOfTimeouts
        + (if dev'.deviceState.left && !dev.deviceState.left then 1 else 0)
      ∧ (limit ≤ n → dev'.deviceState.left = true)
      ∧ (n + 1 < limit → dev'.deviceState.left = false)
  /-- an answer starts the count again: the next request asks for data, and the count goes on from
  there -/
  restart : ∀ pre e post r,
    (((st.run pre).1.groups g).slaveDevices d).deviceState = .cyclicSending →
    (∃ now unixMs dg remoteIp remotePort, e = .frame now unixMs dg remoteIp remotePort
      ∧ clmResponse (st.run pre).1 now dg remoteIp remotePort = some (g, d, r)
      ∧ (clmIefbHandleInputFrame now unixMs dg remoteIp remotePort (st.run pre).1).2.2 = 0) →
    r.fullHeaders.cyclicHeader.endCode = endcodeSuccess →
    master.Steps (StaysSilent g d) (st.run (pre ++ [e])).1 post →
    Numbered (Output.isRequest g) (Output.keepsBit (st.vc.setting g) d 1)
      ((clmStep (st.run pre).1 e).2 ++ (master.run (st.run (pre ++ [e])).1 post).2)

/-- **The timeouts of a device.** -/
theorem timeoutCounting : st.TimeoutCounting g d := by
  have hcounting : ∀ pre, AskedForData ((st.run pre).1.groups g) d →
      CountingRun (st.vc.setting g) g d 0 (((st.run pre).1.groups g).slaveDevices d) (ofGroup g [])
        ((st.run pre).1.groups g) :=
    fun pre hconn => hconn.counting (st.vc.setting g) g
  refine ⟨fun es => st.run_countBounded hg es d hd, ?_, ?_, ?_⟩
  · intro pre post hconn hpost
    obtain ⟨_, hrun, _⟩ := st.run_counting hg hd pre post True
      (hpost.mono master (fun c e h => ⟨h, fun _ => trivial⟩)) (hcounting pre hconn)
    exact hrun.requests
  · intro pre mid post hconn hsteps hclear hrunning dev dev' limit n
    rw [master.steps_append] at hsteps
    have hmid : (st.run (pre ++ mid)).1 = (master.run (st.run pre).1 mid).1 := by
      rw [st.run_append]
    have hpost : (st.run (pre ++ mid ++ post)).1
        = (master.run (st.run (pre ++ mid)).1 post).1 := by
      rw [st.run_append]
    have hout : (master.run (st.run pre).1 (mid ++ post)).2
        = (master.run (st.run pre).1 mid).2 ++ (master.run (st.run (pre ++ mid)).1 post).2 := by
      rw [Machine.run_append, hmid]
    have hrunning' : ((st.run (pre ++ mid)).1.groups g).groupState ≠ .masterListen := by
      intro hlisten
      have hstays := st.listen_stays hg (pre ++ mid) post hlisten
      rw [← hpost] at hstays
      exact hrunning hstays
    -- the first look
    obtain ⟨_, hbefore, _⟩ := st.run_counting hg hd pre mid True
      (hsteps.1.mono master (fun c e h => ⟨h, fun _ => trivial⟩)) (hcounting pre hconn)
    rw [← hmid, List.nil_append] at hbefore
    obtain ⟨hen, hun⟩ := hbefore.device.resolve_left hrunning'
    have hlook : CountingRun (st.vc.setting g) g d 0 dev
        (ofGroup g (master.run (st.run pre).1 mid).2) ((st.run (pre ++ mid)).1.groups g) :=
      ⟨hbefore.bits, Or.inr ⟨hen, hun.look rfl rfl⟩⟩
    -- and the second one
    have hquiet : master.Steps (fun c e => StaysSilent g d c e ∧ (e = .statisticsClearAll → False))
        (st.run (pre ++ mid)).1 post := by
      rw [hmid]
      exact hsteps.2.and master (.of_mem master (fun e he _ => hclear e he) _)
    obtain ⟨_, hafter, hsame⟩ := st.run_counting hg hd (pre ++ mid) post False hquiet hlook
    obtain rfl := hsame id
    rw [← hpost, ← hout] at hafter
    obtain ⟨_, hun'⟩ := hafter.device.resolve_left hrunning
    rw [ofGroup_requests] at hun'
    exact hun'.summary (st.run_countBounded hg (pre ++ mid ++ post) d hd)
  · intro pre e post r hsending hhandled hcode hpost
    by_cases ha : (st.run pre).1.aborted = true
    · have hstep : clmStep (st.run pre).1 e = ((st.run pre).1, []) := if_pos ha
      have hstay : (st.run (pre ++ [e])).1 = (st.run pre).1 := by
        rw [st.run_concat, hstep]
      rw [hstay, run_aborted ha, hstep]
      exact .nil
    rw [Bool.not_eq_true] at ha
    have hcfg := (st.run_config pre).1
    have hset : (st.run pre).1.setting g = st.vc.setting g := by
      rw [Clm.setting, hcfg]
    obtain ⟨hc, out, hout, hstar⟩ := handledResponse_step hhandled ha
    rw [hcfg, hset] at hstar
    rw [hset] at hc
    have hv := st.vc.group hg
    have hinv := st.group_groupInv pre hg
    have hb := st.run_countBounded hg pre
    -- the device has answered
    have hmove : GroupMove st.vc.cfg g (fun _ _ => True) ((st.run pre).1.groups g) _
        (acceptResponse st.vc.cfg (st.vc.setting g) d r ((st.run pre).1.groups g)) :=
      .accepted _ d r hd trivial hc
    obtain ⟨hen, hsent, hcount⟩ := acceptResponse_success st.vc.cfg hc hsending hcode
    have hfirst : CountingRun (st.vc.setting g) g d 1
        ((acceptResponse st.vc.cfg (st.vc.setting g) d r ((st.run pre).1.groups g)).slaveDevices d)
        (reports g d r (((st.run pre).1.groups g).slaveDevices d).latestFrame
          ++ [.stored g d r (((st.run pre).1.groups g).slaveDevices d).transmissionBit])
        (acceptResponse st.vc.cfg (st.vc.setting g) d r ((st.run pre).1.groups g)) := by
      have hno := fun x hx => accepted_isRequest g d r
        (((st.run pre).1.groups g).slaveDevices d).latestFrame
        (((st.run pre).1.groups g).slaveDevices d).transmissionBit x hx g
      refine ⟨Numbered.nil.silent hno, Or.inr ⟨hen, .sent hsent ?_ rfl ?_⟩⟩
      · rw [noRequests hno, hcount]
        rfl
      · rw [hsent]
        rfl
    -- the rest of the step
    have hstep := hstar.inv (I := fun hist gd => GroupInv st.vc.cfg st.parameterNo g gd
        ∧ (∀ d, d < (st.vc.setting g).numSlaveDevices.toNat →
          CountBounded (st.vc.setting g) (gd.slaveDevices d))
        ∧ ∃ before, CountingRun (st.vc.setting g) g d 1 before hist gd)
      (by
        rintro hist gd out gd' hm ⟨hinv, hb, before, hrun⟩
        obtain ⟨before', hnext, _⟩ := GroupMove.counting hv hd (fun _ _ h => h.elim)
          (fun _ _ h => h.elim) hm hinv (hb d hd) hrun
        exact ⟨groupMove_inv hv hm hinv, GroupMove.countBounded hv hm hinv hb, before', hnext⟩)
      _ ⟨groupMove_inv hv hmove hinv, GroupMove.countBounded hv hmove hinv hb, _, hfirst⟩
    obtain ⟨_, _, before, hrun⟩ := hstep
    rw [← hout] at hrun
    have hconcat : (st.run (pre ++ [e])).1 = (clmStep (st.run pre).1 e).1 := by
      rw [st.run_concat]
    rw [← hconcat] at hrun
    obtain ⟨_, hall, _⟩ := st.run_counting hg hd (pre ++ [e]) post True
      (hpost.mono master (fun c e h => ⟨h, fun _ => trivial⟩)) hrun
    exact hall.requests

omit hg hd in
/-- a limit of 3: the device has answered the first request, and then no more -/
theorem timeoutCounting_example :
    (exampleStart false false).TimeoutCounting 0 0
      ∧ AskedForData (((exampleStart false false).run
        [.exampleTick 5000, .exampleAnswer 5100 0 1 0 0]).1.groups 0) 0
      ∧ ((master.run ((exampleStart false false).run
          [.exampleTick 5000, .exampleAnswer 5100 0 1 0 0]).1
          [.exampleTick 30000, .exampleTick 60000, .exampleTick 90000]).2.filter
            (Output.isRequest 0)).map (Output.isRequestWith 0 fun _ dg => requestBit dg 1)
        = [true, true, false] := by
  refine ⟨(exampleStart false false).timeoutCounting (by decide) (by decide), ?_, by decide +kernel⟩
  exact ⟨by decide +kernel, by decide +kernel, by decide +kernel⟩

end MasterStart

end CLink
