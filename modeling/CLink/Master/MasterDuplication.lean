import CLink.Master.Arbitration

/-!
# The master duplication alarm

A slave that sees two masters answers with end code `0xCFE0`.  The alarm is counted before the
number of stations is checked, and acted on after it.

* `checkDevice_alarmFrames`        a rejected response of the right length counts no alarm;
* `masterduplAlarm_listen`         the alarm sends every running group to `MASTER_LISTEN`;
* `masterDuplication_stops`        the counted alarm stops the master if and only if the response
                                   has the configured number of stations.
-/

namespace CLink
open Loop Trace

/-! ## the count -/

/-- a response with the configured number of stations that is rejected counts no alarm -/
theorem checkDevice_alarmFrames {gs : GroupSetting} {d : Nat} {r : CyclicResponse} {gd : GroupData}
    (hn : r.numberOfOccupied = (gs.slaveDevices d).numOccupiedStations)
    (hc : (checkDevice gs d r gd).2 = false) :
    (checkDevice gs d r gd).1.statistics.numberOfIncomingAlarmFrames
      = (gd.slaveDevices d).statistics.numberOfIncomingAlarmFrames := by
  have hlocal : ∀ dev : SlaveDeviceData,
      (deviceLocal gs .slaveDuplication dev).statistics = dev.statistics := by
    intro dev
    unfold deviceLocal
    split
    · rfl
    · rename_i he
      cases he
    · unfold SlaveDeviceData.enter
      split <;> rfl
  revert hc
  unfold checkDevice
  simp only
  split
  · intro _
    rfl
  · split
    · intro _
      rw [hlocal]
      rfl
    · split
      · intro _
        rfl
      · rw [if_neg (not_not.mpr hn)]
        intro hc
        cases hc

/-! ## the alarm -/

/-- the group is between the first and the last request -/
def GroupState.running : GroupState → Bool
  | masterLinkScan => true
  | masterLinkScanComp => true
  | _ => false

theorem GroupState.running_iff (state : GroupState) :
    state.running = true ↔ state = .masterLinkScan ∨ state = .masterLinkScanComp := by
  cases state <;> simp [running]

/-- every running group is sent to `MASTER_LISTEN` -/
theorem masterduplAlarm_running (c : Clm) (now : UInt32) (unixMs : Nat → UInt64) :
    (clmIefbGroupFsmEventAll now unixMs .masterduplAlarm c).1.shared.config = c.shared.config
      ∧ ∀ g, g < c.numGroups → (c.groups g).groupState.running = true →
        ((clmIefbGroupFsmEventAll now unixMs .masterduplAlarm c).1.groups g).groupState
          = .masterListen := by
  obtain ⟨hI, _, hR, _⟩ := Clm.forGroups_spec (c := c)
    (f := fun g => clmIefbGroupFsmEvent g now unixMs .masterduplAlarm)
    (fun _ clm => clm.config = c.shared.config)
    (fun _ gd gd' => gd.groupState.running = true → gd'.groupState = .masterListen)
    (fun _ => True) rfl
    (by
      intro g clm hg hclm
      refine ⟨(scopeMoves_alarm (A := fun _ _ => True) now unixMs hclm).config.trans hclm, ?_,
        fun _ _ => trivial⟩
      intro hrun
      have hs := (GroupState.running_iff _).mp hrun
      rw [clmIefbGroupFsmEvent_alarm g now unixMs hs, clmIefbGroupOnEntryListen_eq]
      rfl)
  exact ⟨hI, hR⟩

theorem masterduplAlarm_listen {c : Clm}
    (h : ∀ g, g < c.numGroups → (c.groups g).groupState.running = true) (now : UInt32)
    (unixMs : Nat → UInt64) :
    (clmIefbGroupFsmEventAll now unixMs .masterduplAlarm c).1.AllIn .masterListen := by
  obtain ⟨hconfig, hlisten⟩ := masterduplAlarm_running c now unixMs
  intro g hg
  rw [Clm.numGroups, hconfig] at hg
  exact hlisten g hg (h g hg)

section
variable {c : Clm} {now : UInt32} (unixMs : Nat → UInt64) {dg : Datagram} {remoteIp : IpAddr}
  {remotePort : UInt16} {g d : Nat} {r : CyclicResponse}
  (hr : clmResponse c now dg remoteIp remotePort = some (g, d, r))
include hr

/-- a response of a device that exists -/
theorem clmIefbHandleInputFrame_response :
    g < c.numGroups ∧ d < (c.setting g).numSlaveDevices.toNat
      ∧ clmIefbHandleInputFrame now unixMs dg remoteIp remotePort c
        = handleDeviceResponse g d now unixMs r c := by
  have hcases := clmIefbHandleInputFrame_cases c now unixMs dg remoteIp remotePort
  generalize clmIefbHandleInputFrame now unixMs dg remoteIp remotePort c = t at hcases ⊢
  cases hcases with
  | response g' d' r' hg hd hid hr' hf =>
    rw [hr] at hr'
    cases hr'
    exact ⟨hg, hd, rfl⟩
  | request hr' hf =>
    rw [hr] at hr'
    cases hr'
  | dropped aborted value hr' hf =>
    rw [hr] at hr'
    cases hr'

/-- the step that handles it -/
theorem clmStep_response (hlive : c.aborted = false) :
    clmStep c (.frame now unixMs dg remoteIp remotePort)
      = ((handleDeviceResponse g d now unixMs r c).1,
        (handleDeviceResponse g d now unixMs r c).2.1) := by
  obtain ⟨_, _, heq⟩ := clmIefbHandleInputFrame_response unixMs hr
  rw [← heq]
  exact if_neg (by rw [hlive]; simp)

end

section
variable {c : Clm} {g d : Nat} {r : CyclicResponse} (now : UInt32) (unixMs : Nat → UInt64)
  (hg : g < c.numGroups) (hrun : ∀ g, g < c.numGroups → (c.groups g).groupState.running = true)
include hg hrun

/-- a rejected response leaves its group running -/
theorem handleDeviceResponse_rejected (hc : (checkDevice (c.setting g) d r (c.groups g)).2 = false) :
    ¬ (handleDeviceResponse g d now unixMs r c).1.AllIn .masterListen
      ∧ ((handleDeviceResponse g d now unixMs r c).1.groups g).slaveDevices d
        = (checkDevice (c.setting g) d r (c.groups g)).1 := by
  obtain ⟨⟨hgroup, hconfig, _, _⟩, hcheck⟩ := checkResponse_spec g d now r (c.scope g)
  have hc' : (checkResponse g d now r (c.scope g)).2 = false := hcheck.trans hc
  have heq : (handleDeviceResponse g d now unixMs r c).1
      = (c.setScope g (checkResponse g d now r (c.scope g)).1).1 := by
    unfold handleDeviceResponse
    simp only
    rw [if_pos hc']
  have hgd : (handleDeviceResponse g d now unixMs r c).1.groups g
      = (c.groups g).modifyDevice d (fun _ => (checkDevice (c.setting g) d r (c.groups g)).1) := by
    rw [heq]
    show Function.update c.groups g _ g = _
    rw [Function.update_self]
    exact hgroup
  constructor
  · intro hlisten
    have hn : (handleDeviceResponse g d now unixMs r c).1.numGroups = c.numGroups := by
      rw [heq]
      exact congrArg (fun cfg : Config => cfg.hier.numberOfGroups.toNat) hconfig
    have hstate := hlisten g (by omega)
    rw [hgd] at hstate
    have hr := hrun g hg
    rw [show (c.groups g).groupState = .masterListen from hstate] at hr
    cases hr
  · rw [hgd]
    exact GroupData.modifyDevice_self ..

/-- an accepted alarm sends every group to `MASTER_LISTEN` -/
theorem handleDeviceResponse_alarm
    (hc : (checkDevice (c.setting g) d r (c.groups g)).2 = true)
    (hcode : r.fullHeaders.cyclicHeader.endCode = endcodeMasterDuplication) :
    (handleDeviceResponse g d now unixMs r c).1.AllIn .masterListen := by
  obtain ⟨⟨hgroup, hconfig, _, _⟩, hcheck⟩ := checkResponse_spec g d now r (c.scope g)
  have hc' : ¬ (checkResponse g d now r (c.scope g)).2 = false := by
    rw [hcheck]
    exact fun hf => Bool.false_ne_true (hf.symm.trans hc)
  unfold handleDeviceResponse
  simp only
  rw [if_neg hc', if_pos hcode]
  apply masterduplAlarm_listen
  intro k hk
  rw [storeResponse_eq] at hk ⊢
  have hk' : k < c.numGroups := by
    refine Nat.lt_of_lt_of_eq hk ?_
    exact congrArg (fun cfg : Config => cfg.hier.numberOfGroups.toNat) hconfig
  show (Function.update c.groups g _ k).groupState.running = true
  by_cases hkg : k = g
  · subst hkg
    rw [Function.update_self]
    show (storedGroup _ _ d r (checkResponse k d now r (c.scope k)).1.group).groupState.running = true
    rw [hgroup]
    exact hrun k hg
  · rw [Function.update_of_ne hkg]
    exact hrun k hk'

end

/-! ## runs -/

/-- the response `r` of device `d` of group `g` is handled in the step `e` and counted as a master
duplication alarm -/
structure CountsMasterDuplication (c : Clm) (e : Event) (g d : Nat) (r : CyclicResponse) : Prop where
  response : ∃ now unixMs dg remoteIp remotePort, e = .frame now unixMs dg remoteIp remotePort
    ∧ clmResponse c now dg remoteIp remotePort = some (g, d, r)
  endCode : r.fullHeaders.cyclicHeader.endCode = endcodeMasterDuplication
  counted : (((clmStep c e).1.groups g).slaveDevices d).statistics.numberOfIncomingAlarmFrames
    = ((c.groups g).slaveDevices d).statistics.numberOfIncomingAlarmFrames + 1

/-- every group is in `MASTER_LISTEN` and nothing is ever sent again -/
def StopsForGood (c : Clm) : Prop :=
  c.AllIn .masterListen ∧ ∀ es, Silent (master.run c es).2

namespace MasterStart

/-- **A counted master duplication alarm** stops the master if and only if the response has the
configured number of stations. -/
theorem masterDuplication_stops {o : Options} (st : MasterStart o) (pre : List Event) (e : Event)
    (g d : Nat) (r : CyclicResponse)
    (hrun : ∀ k, k < st.vc.numGroups → ((st.run pre).1.groups k).groupState.running = true)
    (hcount : CountsMasterDuplication (st.run pre).1 e g d r) :
    StopsForGood (st.run (pre ++ [e])).1
      ↔ r.numberOfOccupied = ((st.vc.setting g).slaveDevices d).numOccupiedStations := by
  obtain ⟨⟨now, unixMs, dg, remoteIp, remotePort, rfl, hr⟩, hcode, hcounted⟩ := hcount
  have hcfg := (st.run_config pre).1
  have hset : (st.run pre).1.setting g = st.vc.setting g := by
    rw [Clm.setting, hcfg]
  have hrun' : ∀ k, k < (st.run pre).1.numGroups →
      ((st.run pre).1.groups k).groupState.running = true := by
    intro k hk
    rw [Clm.numGroups, hcfg] at hk
    exact hrun k hk
  rw [st.run_concat]
  have hne : ∀ x : UInt32, x ≠ x + 1 := by
    intro x hx
    simp at hx
  have hlive : (st.run pre).1.aborted = false := by
    rw [← Bool.not_eq_true]
    intro ha
    rw [show clmStep (st.run pre).1 _ = _ from if_pos ha] at hcounted
    exact hne _ hcounted
  obtain ⟨hg, hd, _⟩ := clmIefbHandleInputFrame_response unixMs hr
  rw [clmStep_response unixMs hr hlive] at hcounted ⊢
  cases hc : (checkDevice ((st.run pre).1.setting g) d r ((st.run pre).1.groups g)).2 with
  | false =>
    obtain ⟨hnot, hdev⟩ := handleDeviceResponse_rejected now unixMs hg hrun' hc
    constructor
    · intro hstop
      exact absurd hstop.1 hnot
    · intro hn
      rw [← hset] at hn
      have hsame := checkDevice_alarmFrames hn hc
      rw [hdev, hsame] at hcounted
      exact absurd hcounted (hne _)
  | true =>
    have hlisten := handleDeviceResponse_alarm now unixMs hg hrun' hc hcode
    constructor
    · intro _
      rw [← hset]
      exact (checkDevice_passed hc).stations
    · intro _
      exact ⟨hlisten, fun es => (listen_silent hlisten es).2⟩

/-- an alarm with the one station of the device -/
theorem masterDuplication_stops_example :
    ∃ g d r, CountsMasterDuplication ((exampleStart false false).run [.exampleTick 5000]).1
        (.exampleAnswer 5100 0 1 endcodeMasterDuplication 0) g d r
      ∧ StopsForGood ((exampleStart false false).run
        ([.exampleTick 5000] ++ [.exampleAnswer 5100 0 1 endcodeMasterDuplication 0])).1 := by
  have hresponse : (clmResponse ((exampleStart false false).run [.exampleTick 5000]).1 5100
      (exampleResponse 0 1 endcodeMasterDuplication 0) (exampleSlaveId 0) clCciefbPort).any
      (fun x => x.1 = 0 && x.2.1 = 0 && x.2.2.numberOfOccupied = 1
        && x.2.2.fullHeaders.cyclicHeader.endCode = endcodeMasterDuplication) = true := by
    decide +kernel
  obtain ⟨g, d, r, hr, hp⟩ := exists_response hresponse
  simp only [Bool.and_eq_true, decide_eq_true_eq] at hp
  obtain ⟨⟨⟨rfl, rfl⟩, hn⟩, hcode⟩ := hp
  have hcount : CountsMasterDuplication ((exampleStart false false).run [.exampleTick 5000]).1
      (.exampleAnswer 5100 0 1 endcodeMasterDuplication 0) 0 0 r :=
    ⟨⟨_, _, _, _, _, rfl, hr⟩, hcode, by decide +kernel⟩
  have hrun : ∀ k, k < 1 → (((exampleStart false false).run [.exampleTick 5000]).1.groups
      k).groupState.running = true := by decide +kernel
  refine ⟨0, 0, r, hcount, ?_⟩
  exact ((exampleStart false false).masterDuplication_stops _ _ 0 0 r hrun hcount).mpr hn

/-- an alarm with two stations is counted, and the link scans go on -/
theorem twoStationAlarm_goesOn :
    ¬ ∀ (o : Options) (st : MasterStart o) (pre : List Event) (e : Event) (g d : Nat)
      (r : CyclicResponse),
      (∀ k, k < st.vc.numGroups → ((st.run pre).1.groups k).groupState.running = true) →
      CountsMasterDuplication (st.run pre).1 e g d r → StopsForGood (st.run (pre ++ [e])).1 := by
  intro h
  have hresponse : (clmResponse ((exampleStart false false).run [.exampleTick 5000]).1 5100
      (exampleResponse 0 2 endcodeMasterDuplication 0) (exampleSlaveId 0) clCciefbPort).any
      (fun x => x.1 = 0 && x.2.1 = 0
        && x.2.2.fullHeaders.cyclicHeader.endCode = endcodeMasterDuplication) = true := by
    decide +kernel
  obtain ⟨g, d, r, hr, hp⟩ := exists_response hresponse
  simp only [Bool.and_eq_true, decide_eq_true_eq] at hp
  obtain ⟨⟨rfl, rfl⟩, hcode⟩ := hp
  have hcount : CountsMasterDuplication ((exampleStart false false).run [.exampleTick 5000]).1
      (.exampleAnswer 5100 0 2 endcodeMasterDuplication 0) 0 0 r :=
    ⟨⟨_, _, _, _, _, rfl, hr⟩, hcode, by decide +kernel⟩
  have hrun : ∀ k, k < 1 → (((exampleStart false false).run [.exampleTick 5000]).1.groups
      k).groupState.running = true := by decide +kernel
  have hstop := (h _ (exampleStart false false) _ _ 0 0 r hrun hcount).1
  have hstate : (((exampleStart false false).run ([.exampleTick 5000]
      ++ [.exampleAnswer 5100 0 2 endcodeMasterDuplication 0])).1.groups 0).groupState
        = .masterLinkScan := by decide +kernel
  have hlisten := hstop 0 (by decide +kernel)
  have hboth : GroupState.masterLinkScan = .masterListen := hstate.symm.trans hlisten
  cases hboth

end MasterStart

end CLink
