import CLink.Master.RequestSpacing
import CLink.Master.Disconnect

/-!
# A tick and an answer, seen from one group

* `Clm.forGroups_own`          a function for every group in turn, seen from one group;
* `Ticked`                     a tick that does not find the response-wait timer expired;
* `periodicTimers_ne_listen`   no tick sends a group to `MASTER_LISTEN`.
-/

namespace CLink
open Loop Trace

/-! ## one group of all -/

/-- the round of the group decides about the group and about its outputs -/
theorem Clm.forGroups_own {c : Clm} {f : Nat → Scope → Scope} {g : Nat} (hg : g < c.numGroups)
    (hmoves : ∀ k s, s.clm.config = c.shared.config →
      ScopeMoves c.shared.config k (fun _ _ => True) s (f k s)) :
    ∃ clm, clm.config = c.shared.config
      ∧ (c.forGroups f).1.groups g = (f g { clm := clm, group := c.groups g, out := [] }).group
      ∧ ofGroup g (c.forGroups f).2
        = ofGroup g (f g { clm := clm, group := c.groups g, out := [] }).out := by
  obtain ⟨_, _, _, hdone⟩ := loop_inv (n := c.numGroups)
    (f := fun k (t : Clm × List Output) =>
      let r := t.1.setScope k (f k (t.1.scope k))
      (r.1, t.2 ++ r.2)) (s := (c, []))
    (fun k t => t.1.shared.config = c.shared.config ∧ (∀ h, k ≤ h → t.1.groups h = c.groups h)
      ∧ (k ≤ g → ofGroup g t.2 = [])
      ∧ (g < k → ∃ clm, clm.config = c.shared.config
        ∧ t.1.groups g = (f g { clm := clm, group := c.groups g, out := [] }).group
        ∧ ofGroup g t.2 = ofGroup g (f g { clm := clm, group := c.groups g, out := [] }).out))
    ⟨rfl, fun _ _ => rfl, fun _ => rfl, fun h => absurd h (Nat.not_lt_zero g)⟩
    (by
      rintro k ⟨t, out⟩ hk ⟨hconfig, hsame, hbefore, hafter⟩
      have hround := hmoves k (t.scope k) hconfig
      -- the other groups have no outputs of this one
      have hother : g ≠ k → ofGroup g (f k (t.scope k)).out = [] := by
        intro hne
        obtain ⟨_, o, ho, hown, _⟩ := hround
        rw [ho]
        exact ofGroup_other hne hown
      refine ⟨hround.config.trans hconfig, ?_, ?_, ?_⟩
      · intro h hle
        show Function.update t.groups k _ h = c.groups h
        rw [Function.update_of_ne (by omega)]
        exact hsame h (by omega)
      · intro hle
        show ofGroup g (out ++ (f k (t.scope k)).out) = []
        rw [ofGroup_append, hbefore (by omega), hother (by omega)]
        rfl
      · intro hlt
        show ∃ clm : ClmShared, clm.config = c.shared.config
          ∧ Function.update t.groups k (f k (t.scope k)).group g = _
          ∧ ofGroup g (out ++ (f k (t.scope k)).out) = _
        rcases Nat.lt_succ_iff_lt_or_eq.mp hlt with hlt | rfl
        · obtain ⟨clm, hclm, hgroup, hout⟩ := hafter hlt
          refine ⟨clm, hclm, ?_, ?_⟩
          · rw [Function.update_of_ne (by omega)]
            exact hgroup
          · rw [ofGroup_append, hother (by omega), List.append_nil]
            exact hout
        · have hscope : t.scope g = { clm := t.shared, group := c.groups g, out := [] } := by
            rw [← hsame g (le_refl g)]
            rfl
          refine ⟨t.shared, hconfig, ?_, ?_⟩
          · rw [Function.update_self, hscope]
          · rw [ofGroup_append, hbefore (le_refl g), List.nil_append, hscope])
  exact hdone hg

section
variable {c : Clm} {g : Nat} (hg : g < c.numGroups) (now : UInt32) (unixMs : Nat → UInt64)
include hg

/-- the two parts of a tick -/
theorem periodicTimers_own :
    ∃ clm clm' : ClmShared, clm.config = c.shared.config ∧ clm'.config = c.shared.config
      ∧ let s : Scope := { clm := clm, group := c.groups g, out := [] }
        let t := if clTimerIsExpired c.shared.arbitrationTimer now then
            clmIefbGroupFsmEvent g now unixMs .arbitrationDone s
          else s
        let u := monitorGroupTimers g now unixMs { clm := clm', group := t.group, out := [] }
        (clmIefbPeriodicTimers now unixMs c).1.groups g = u.group
          ∧ ofGroup g (clmIefbPeriodicTimers now unixMs c).2 = ofGroup g t.out ++ ofGroup g u.out := by
  unfold clmIefbPeriodicTimers
  simp only
  split
  · have hdone := Clm.forGroups_own (c := { c with shared := { c.shared with
        errorlimiter := clLimiterPeriodic c.shared.errorlimiter now
        arbitrationTimer := clTimerStop c.shared.arbitrationTimer } }) hg
      (fun _ _ hs => scopeMoves_arbitrationDone now unixMs hs)
    have hconfig : (clmIefbGroupFsmEventAll now unixMs .arbitrationDone
        { c with shared := { c.shared with
          errorlimiter := clLimiterPeriodic c.shared.errorlimiter now
          arbitrationTimer := clTimerStop c.shared.arbitrationTimer } }).1.shared.config
        = c.shared.config :=
      (clmMoves_eventAll (A := fun _ _ _ => True) now unixMs .arbitrationDone
        (fun _ _ hs => scopeMoves_arbitrationDone now unixMs hs)).config
    obtain ⟨clm, hclm, hgroup, hout⟩ := hdone
    have hmonitor := Clm.forGroups_own (c := (clmIefbGroupFsmEventAll now unixMs .arbitrationDone
        { c with shared := { c.shared with
          errorlimiter := clLimiterPeriodic c.shared.errorlimiter now
          arbitrationTimer := clTimerStop c.shared.arbitrationTimer } }).1) (g := g)
      (by rw [Clm.numGroups, hconfig]; exact hg)
      (fun _ _ hs => scopeMoves_monitorGroupTimers now unixMs hs)
    obtain ⟨clm', hclm', hgroup', hout'⟩ := hmonitor
    refine ⟨clm, clm', hclm, hclm'.trans hconfig, ?_, ?_⟩
    · rw [← hgroup]
      exact hgroup'
    · rw [ofGroup_append, ← hgroup]
      exact congrArg₂ (· ++ ·) hout hout'
  · obtain ⟨clm', hclm', hgroup', hout'⟩ := Clm.forGroups_own (c := { c with shared := { c.shared with
        errorlimiter := clLimiterPeriodic c.shared.errorlimiter now } }) hg
      (fun _ _ hs => scopeMoves_monitorGroupTimers now unixMs hs)
    exact ⟨c.shared, clm', rfl, hclm', hgroup', hout'⟩

end

/-! ## ticks -/

section
variable (g : Nat) (now : UInt32) (unixMs : Nat → UInt64) {s : Scope}

/-- the events of the timers that have no row -/
theorem clmIefbGroupFsmEvent_linkscanStart_other (hs : s.group.groupState ≠ .masterLinkScanComp) :
    clmIefbGroupFsmEvent g now unixMs .linkscanStart s = s := by
  apply clmIefbGroupFsmEvent_stay
  generalize s.group.groupState = state at hs
  cases state <;> first | rfl | exact absurd rfl hs

theorem clmIefbGroupFsmEvent_arbitrationDone_other (hs : s.group.groupState ≠ .masterArbitration) :
    clmIefbGroupFsmEvent g now unixMs .arbitrationDone s = s := by
  apply clmIefbGroupFsmEvent_stay
  generalize s.group.groupState = state at hs
  cases state <;> first | rfl | exact absurd rfl hs

theorem clmIefbGroupFsmEvent_timeout_other (hs : s.group.groupState ≠ .masterLinkScan) :
    clmIefbGroupFsmEvent g now unixMs .linkscanTimeout s = s := by
  apply clmIefbGroupFsmEvent_stay
  generalize s.group.groupState = state at hs
  cases state <;> first | rfl | exact absurd rfl hs

/-- a link scan start ends in `MASTER_LINK_SCAN` -/
theorem onLinkscanStart_scanning (s : Scope) :
    (clmIefbOnLinkscanStart g now unixMs (s.inState .masterLinkScan)).group.groupState
      = .masterLinkScan := clmIefbOnLinkscanStart_groupState g now unixMs _

/-- the timers send no group to `MASTER_LISTEN` -/
theorem timerEvent_ne_listen {event : GroupEvent}
    (he : event = .arbitrationDone ∨ event = .linkscanTimeout ∨ event = .linkscanStart)
    (hs : s.group.groupState ≠ .masterListen) :
    (clmIefbGroupFsmEvent g now unixMs event s).group.groupState ≠ .masterListen := by
  have hscan (t : Scope) : (clmIefbOnLinkscanStart g now unixMs
      (t.inState .masterLinkScan)).group.groupState ≠ .masterListen := by
    rw [onLinkscanStart_scanning]
    decide
  rcases he with rfl | rfl | rfl
  · by_cases h : s.group.groupState = .masterArbitration
    · rw [clmIefbGroupFsmEvent_arbitrationDone g now unixMs h]
      exact hscan _
    · rw [clmIefbGroupFsmEvent_arbitrationDone_other g now unixMs h]
      exact hs
  · by_cases h : s.group.groupState = .masterLinkScan
    · rw [clmIefbGroupFsmEvent_timeout g now unixMs h]
      exact hscan _
    · rw [clmIefbGroupFsmEvent_timeout_other g now unixMs h]
      exact hs
  · by_cases h : s.group.groupState = .masterLinkScanComp
    · rw [clmIefbGroupFsmEvent_linkscanStart g now unixMs h]
      exact hscan _
    · rw [clmIefbGroupFsmEvent_linkscanStart_other g now unixMs h]
      exact hs

theorem monitorGroupTimers_ne_listen (hs : s.group.groupState ≠ .masterListen) :
    (monitorGroupTimers g now unixMs s).group.groupState ≠ .masterListen := by
  have hwait : (if clTimerIsExpired s.group.responseWaitTimer now then
        clmIefbGroupFsmEvent g now unixMs .linkscanTimeout { s with group := { s.group with
          responseWaitTimer := clTimerStop s.group.responseWaitTimer } }
      else s).group.groupState ≠ .masterListen := by
    split
    · exact timerEvent_ne_listen g now unixMs (Or.inr (Or.inl rfl)) hs
    · exact hs
  unfold monitorGroupTimers
  generalize (if clTimerIsExpired s.group.responseWaitTimer now then
      clmIefbGroupFsmEvent g now unixMs .linkscanTimeout { s with group := { s.group with
        responseWaitTimer := clTimerStop s.group.responseWaitTimer } }
    else s) = t at hwait ⊢
  show (if _ then _ else t : Scope).group.groupState ≠ _
  split
  · exact timerEvent_ne_listen g now unixMs (Or.inr (Or.inr rfl)) hwait
  · exact hwait

end

/-- no tick sends a group to `MASTER_LISTEN` -/
theorem periodicTimers_ne_listen {c : Clm} {g : Nat} (hg : g < c.numGroups) (now : UInt32)
    (unixMs : Nat → UInt64) (hs : (c.groups g).groupState ≠ .masterListen) :
    ((clmIefbPeriodicTimers now unixMs c).1.groups g).groupState ≠ .masterListen := by
  obtain ⟨clm, clm', _, _, hgroup, _⟩ := periodicTimers_own hg now unixMs
  rw [hgroup]
  apply monitorGroupTimers_ne_listen
  show (if clTimerIsExpired c.shared.arbitrationTimer now then
      clmIefbGroupFsmEvent g now unixMs .arbitrationDone { clm := clm, group := c.groups g, out := [] }
    else { clm := clm, group := c.groups g, out := [] }).group.groupState ≠ .masterListen
  split
  · exact timerEvent_ne_listen g now unixMs (Or.inl rfl) hs
  · exact hs

/-! ## ticks in time -/

theorem linkscanStart_ofGroup (g : Nat) (now : UInt32) (unixMs : Nat → UInt64) (clm : ClmShared)
    (gd : GroupData) :
    ofGroup g (linkscanStart g now unixMs clm gd).out = (linkscanStart g now unixMs clm gd).out := by
  apply List.filter_eq_self.mpr
  intro x hx
  rw [linkscanStart_out] at hx
  apply decide_eq_true
  rcases List.mem_append.mp hx with hx | hx
  · exact (startDevices_out _ _ _ x hx).owner
  · rw [List.mem_singleton.mp hx]
    rfl

section
variable (g : Nat) (now : UInt32) (unixMs : Nat → UInt64) {s : Scope}

end

/-- a link scan start disconnects the devices that were connected and have not answered -/
theorem startDevices_disconnects {o : Options} {cfg : Config} {gs : GroupSetting}
    (hv : GroupValid o cfg gs) {g : Nat} {start : GroupData}
    (hstation : ∀ d, d < gs.numSlaveDevices.toNat →
      (start.slaveDevices d).slaveStationNo = UInt16.ofNat (gs.pos d + 1))
    (hs : ∀ d, d < gs.numSlaveDevices.toNat →
      (start.slaveDevices d).deviceState = .listen ∨ (start.slaveDevices d).deviceState = .cyclicSent)
    {g' d : Nat} {id : IpAddr} (hmem : .disconnectCb g' d id ∈ (startDevices gs g start).2) :
    d < gs.numSlaveDevices.toNat ∧ (start.slaveDevices d).transmissionBit = true
      ∧ scanStartState (start.slaveDevices d) ≠ .cyclicSending := by
  have hround : ∀ k, k ≤ gs.numSlaveDevices.toNat → ∀ g' d id,
      .disconnectCb g' d id ∈ (scanStartRound gs g k start).2 →
        d < k ∧ (start.slaveDevices d).transmissionBit = true
          ∧ scanStartState (start.slaveDevices d) ≠ .cyclicSending := by
    intro k
    induction k with
    | zero =>
      intro _ _ _ _ h
      exact absurd h List.not_mem_nil
    | succ k ih =>
      intro hk g' d id h
      rcases List.mem_append.mp h with h | h
      · obtain ⟨hlt, hbit, hstate⟩ := ih (by omega) g' d id h
        exact ⟨by omega, hbit, hstate⟩
      · -- the device of round `k` is as it was at the start
        have hprogress := scanStartRound_spec hv (g := g) hstation hs (k := k) (by omega)
        have hsame := (hprogress.untouched k (le_refl k) (by omega)).1
        replace h : .disconnectCb g' d id
          ∈ (startDevice gs g k (scanStartRound gs g k start).1).2 := h
        by_cases hignored : scanStartIgnored (start.slaveDevices k) = true
        · rw [startDevice_ignored (by rw [hsame]; exact hignored)] at h
          exact absurd h List.not_mem_nil
        · rw [startDevice_setDataIp (by rw [hsame]; exact hs k (by omega))
            (by rw [hsame]; exact (Bool.not_eq_true _).mp hignored), hsame] at h
          have hout : .disconnectCb g' d id ∈ (setTransmissionBit gs g k
              (scanStartState (start.slaveDevices k)) { start.slaveDevices k with
                deviceState := scanStartState (start.slaveDevices k) }).2 := by
            have hself := GroupData.modifyDevice_self (scanStartRound gs g k start).1 k
              (fun dev => { dev with deviceState := scanStartState (start.slaveDevices k) })
            rw [hsame] at hself
            rw [← hself]
            exact h
          unfold setTransmissionBit at hout
          simp only at hout
          split at hout
          · split at hout
            · cases List.mem_singleton.mp hout
            · exact absurd hout List.not_mem_nil
          · rename_i hstate
            split at hout
            · rename_i hbit
              obtain ⟨_, rfl, _⟩ := Output.disconnectCb.inj (List.mem_singleton.mp hout)
              exact ⟨by omega, hbit, hstate⟩
            · exact absurd hout List.not_mem_nil
  rw [startDevices_eq] at hmem
  exact hround _ (le_refl _) g' d id hmem

/-! ## answers -/

/-- the group of a response after the device event, and the completion of the link scan -/
def Scope.received (s : Scope) (g : Nat) (now : UInt32) (unixMs : Nat → UInt64) : Scope :=
  if clmIefbGroupHaveReceivedFromAllDevices (s.setting g) s.group then
    clmIefbGroupFsmEvent g now unixMs .linkscanComplete s
  else s

section
variable {c : Clm} {g d : Nat} {r : CyclicResponse} (now : UInt32) (unixMs : Nat → UInt64)

/-- a response that does not pass the checks changes its device only -/
theorem handleDeviceResponse_dropped (hc : (checkDevice (c.setting g) d r (c.groups g)).2 = false) :
    ∃ clm o, clm.config = c.shared.config ∧ (∀ x ∈ o, x.owner = none)
      ∧ handleDeviceResponse g d now unixMs r c
        = ((c.setScope g
            { clm := clm
              group := (c.groups g).modifyDevice d
                (fun _ => (checkDevice (c.setting g) d r (c.groups g)).1)
              out := o }).1, o, -1) := by
  obtain ⟨⟨hgroup, hconfig, _, o, ho, hown⟩, hcheck⟩ := checkResponse_spec g d now r (c.scope g)
  have hnot : (checkResponse g d now r (c.scope g)).2 = false := hcheck.trans hc
  refine ⟨(checkResponse g d now r (c.scope g)).1.clm, o, hconfig, hown, ?_⟩
  have hscope : (checkResponse g d now r (c.scope g)).1
      = { clm := (checkResponse g d now r (c.scope g)).1.clm
          group := (c.groups g).modifyDevice d
            (fun _ => (checkDevice (c.setting g) d r (c.groups g)).1)
          out := o } := by
    have hout : (checkResponse g d now r (c.scope g)).1.out = o := ho
    have hgd : (checkResponse g d now r (c.scope g)).1.group = (c.groups g).modifyDevice d
        (fun _ => (checkDevice (c.setting g) d r (c.groups g)).1) := hgroup
    rw [← hout, ← hgd]
  unfold handleDeviceResponse
  simp only [hnot, if_true]
  rw [hscope]
  rfl

/-- an accepted response -/
theorem handleDeviceResponse_received (hc : (checkDevice (c.setting g) d r (c.groups g)).2 = true)
    (hcode : r.fullHeaders.cyclicHeader.endCode ≠ endcodeMasterDuplication) :
    ∃ clm o, clm.config = c.shared.config ∧ (∀ x ∈ o, x.owner = none)
      ∧ let t := Scope.received
          { clm := clm
            group := acceptResponse c.shared.config (c.setting g) d r (c.groups g)
            out := o ++ (reports g d r ((c.groups g).slaveDevices d).latestFrame
              ++ [.stored g d r ((c.groups g).slaveDevices d).transmissionBit]) } g now unixMs
        handleDeviceResponse g d now unixMs r c = ((c.setScope g t).1, t.out, 0) := by
  obtain ⟨hspec, hcheck⟩ := checkResponse_spec g d now r (c.scope g)
  have hpass : (checkResponse g d now r (c.scope g)).2 = true := hcheck.trans hc
  obtain ⟨o, hown, hgroup, hclm, hout⟩ := acceptedScope_eq (g := g) (s := c.scope g) hc hspec
  generalize hs : storeResponse g d r (checkResponse g d now r (c.scope g)).1 = s
    at hgroup hclm hout
  have hconfig : s.clm.config = c.shared.config := by
    rw [hclm]
    exact hspec.config
  have hset : s.setting g = c.setting g := by
    rw [Scope.setting, hconfig]
    rfl
  refine ⟨s.clm, o, hconfig, hown, ?_⟩
  have hscope : receiveResponse g d now unixMs r s = Scope.received
      { clm := s.clm
        group := acceptResponse c.shared.config (c.setting g) d r (c.groups g)
        out := o ++ (reports g d r ((c.groups g).slaveDevices d).latestFrame
          ++ [.stored g d r ((c.groups g).slaveDevices d).transmissionBit]) } g now unixMs := by
    have hafter : s.group.modifyDevice d (deviceResponse (s.setting g) r)
        = acceptResponse c.shared.config (c.setting g) d r (c.groups g) := by
      rw [hset]
      exact hgroup
    have hsout : s.out = o ++ (reports g d r ((c.groups g).slaveDevices d).latestFrame
        ++ [.stored g d r ((c.groups g).slaveDevices d).transmissionBit]) := hout
    rw [receiveResponse_eq now unixMs hcode, hafter, ← hsout]
    rfl
  unfold handleDeviceResponse
  simp only [hpass, hs, if_neg hcode, hscope]
  rfl

end

/-- a link scan ends with answers of all devices: the next one starts at once, or with the timer -/
inductive ScanEnd (cfg : Config) (g : Nat) (now : UInt32) (gd : GroupData) :
    List Output → GroupData → Prop where
  | pauses (ended : GroupData)
      (hended : ended = { gd.endScan (cfg.hier.groups g) .groupAllResponded with
        responseWaitTimer := clTimerStop gd.responseWaitTimer }) :
      ScanEnd cfg g now gd [.linkscanCb g true] ended
  | goesOn (clm : ClmShared) (unixMs : Nat → UInt64) (ended : GroupData) (hclm : clm.config = cfg)
      (hended : ended = { gd.endScan (cfg.hier.groups g) .groupAllResponded with
        responseWaitTimer := clTimerStop gd.responseWaitTimer }) :
      ScanEnd cfg g now gd (.linkscanCb g true :: (linkscanStart g now unixMs clm ended).out)
        (linkscanStart g now unixMs clm ended).group

theorem Scope.received_scanning {s : Scope} {g : Nat} (now : UInt32) (unixMs : Nat → UInt64)
    (hs : s.group.groupState = .masterLinkScan)
    (hr : clmIefbGroupHaveReceivedFromAllDevices (s.setting g) s.group = true) :
    ∃ o, (s.received g now unixMs).out = s.out ++ o
      ∧ ScanEnd s.clm.config g now s.group (ofGroup g o) (s.received g now unixMs).group := by
  obtain ⟨hconfig, howner⟩ := clmIefbSetMasterState_spec s.clm .running
  have hcomplete : s.complete g
      = { clm := (clmIefbSetMasterState s.clm .running).1
          group := { s.group.endScan (s.setting g) .groupAllResponded with
            responseWaitTimer := clTimerStop s.group.responseWaitTimer }
          out := s.out ++ [.linkscanCb g true] ++ (clmIefbSetMasterState s.clm .running).2 } := rfl
  have hnone : ofGroup g (clmIefbSetMasterState s.clm .running).2 = [] :=
    ofGroup_none howner
  have hcallback : ofGroup g [.linkscanCb g true] = [.linkscanCb g true] :=
    List.filter_cons_of_pos (decide_eq_true rfl)
  unfold Scope.received
  rw [if_pos hr, clmIefbGroupFsmEvent_complete g now unixMs hs]
  split
  · refine ⟨[.linkscanCb g true] ++ (clmIefbSetMasterState s.clm .running).2, ?_, ?_⟩
    · rw [hcomplete, List.append_assoc]
    · rw [ofGroup_append, hnone, hcallback, List.append_nil, hcomplete]
      exact .pauses _ rfl
  · rw [clmIefbOnLinkscanStart_eq, hcomplete]
    refine ⟨[.linkscanCb g true] ++ ((clmIefbSetMasterState s.clm .running).2
      ++ (linkscanStart g now unixMs (clmIefbSetMasterState s.clm .running).1
        { s.group.endScan (s.setting g) .groupAllResponded with
          responseWaitTimer := clTimerStop s.group.responseWaitTimer }).out), ?_, ?_⟩
    · simp only [List.append_assoc]
    · rw [ofGroup_append, ofGroup_append, hnone, hcallback, List.nil_append, linkscanStart_ofGroup]
      exact .goesOn _ unixMs _ hconfig rfl

/-- the completion of a link scan stays in the link scans -/
theorem Scope.received_ne_listen {s : Scope} {g : Nat} (now : UInt32) (unixMs : Nat → UInt64)
    (hs : s.group.groupState ≠ .masterListen) :
    (s.received g now unixMs).group.groupState ≠ .masterListen := by
  unfold Scope.received
  split
  · by_cases h : s.group.groupState = .masterLinkScan
    · rw [clmIefbGroupFsmEvent_complete g now unixMs h]
      split
      · show GroupState.masterLinkScanComp ≠ _
        decide
      · rw [onLinkscanStart_scanning]
        decide
    · have hstay : clmIefbGroupFsmEvent g now unixMs .linkscanComplete s = s := by
        apply clmIefbGroupFsmEvent_stay
        generalize s.group.groupState = state at h
        cases state <;> first | rfl | exact absurd rfl h
      rw [hstay]
      exact hs
  · exact hs

/-- a response without an alarm sends no group to `MASTER_LISTEN` -/
theorem handleDeviceResponse_ne_listen {c : Clm} {g d : Nat} {r : CyclicResponse} (now : UInt32)
    (unixMs : Nat → UInt64) (hcode : r.fullHeaders.cyclicHeader.endCode ≠ endcodeMasterDuplication)
    {k : Nat} (hs : (c.groups k).groupState ≠ .masterListen)  :
    ((handleDeviceResponse g d now unixMs r c).1.groups k).groupState ≠ .masterListen := by
  have hset (s : Scope) (h : k = g → s.group.groupState ≠ .masterListen) :
      ((c.setScope g s).1.groups k).groupState ≠ .masterListen := by
    show (Function.update c.groups g s.group k).groupState ≠ _
    by_cases hk : k = g
    · rw [hk, Function.update_self]
      exact h hk
    · rw [Function.update_of_ne hk]
      exact hs
  cases hc : (checkDevice (c.setting g) d r (c.groups g)).2 with
  | false =>
    obtain ⟨clm, o, _, _, heq⟩ := handleDeviceResponse_dropped now unixMs hc
    rw [heq]
    refine hset _ ?_
    rintro rfl
    exact hs
  | true =>
    obtain ⟨clm, o, _, _, heq⟩ := handleDeviceResponse_received now unixMs hc hcode
    rw [heq]
    refine hset _ ?_
    rintro rfl
    exact Scope.received_ne_listen now unixMs hs

/-- the calls of the application change no state of a group -/
theorem clmStep_noClock_state (c : Clm) {e : Event} (he : e.clock = none) (k : Nat) :
    ((clmStep c e).1.groups k).groupState = (c.groups k).groupState := by
  have hupdate (c : Clm) (g : Nat) (gd : GroupData) (h : gd.groupState = (c.groups g).groupState) :
      (Function.update c.groups g gd k).groupState = (c.groups k).groupState := by
    by_cases hk : k = g
    · rw [hk, Function.update_self]
      exact h
    · rw [Function.update_of_ne hk]
  have hmodify (g d : Nat) (f : SlaveDeviceData → SlaveDeviceData) :
      ((c.modifyDevice g d f).groups k).groupState = (c.groups k).groupState := by
    unfold Clm.modifyDevice
    split
    · rfl
    · exact hupdate c g _ rfl
  unfold clmStep
  split
  · rfl
  cases e with
  | tick now unixMs => cases he
  | frame now unixMs dg remoteIp remotePort => cases he
  | setSlaveCommunicationStatus g d enabled => exact hmodify g d _
  | forceCyclicTransmissionBit g d force => exact hmodify g d _
  | statisticsClearAll =>
    refine loop_inv (fun _ (t : Clm) => (t.groups k).groupState = (c.groups k).groupState) rfl ?_
    intro g t _ ht
    refine (hupdate t g _ ?_).trans ht
    rw [loop_modifyDevice]
    rfl
  | setMasterApplicationStatus running stoppedByUser => rfl
  | writeMemoryArea g ry rww =>
    show ((writeMemoryArea g ry rww c).groups k).groupState = _
    unfold writeMemoryArea
    simp only
    split
    · rfl
    · exact hupdate c g _ rfl

/-- **The ways to `MASTER_LISTEN`**: the alarm of a slave and the request of another master. -/
theorem clmStep_ne_listen {c : Clm} {e : Event}
    (hcode : ∀ g d r, GroupReceives c e g (.response d r) →
      r.fullHeaders.cyclicHeader.endCode ≠ endcodeMasterDuplication)
    (hforeign : ¬ HandlesForeignRequest c e) {k : Nat} (hk : k < c.numGroups)
    (hs : (c.groups k).groupState ≠ .masterListen) :
    ((clmStep c e).1.groups k).groupState ≠ .masterListen := by
  by_cases he : e.clock = none
  · rw [clmStep_noClock_state c he]
    exact hs
  unfold clmStep
  split
  · exact hs
  rename_i hlive
  cases e with
  | tick now unixMs => exact periodicTimers_ne_listen hk now unixMs hs
  | frame now unixMs dg remoteIp remotePort =>
    have hcases := clmIefbHandleInputFrame_cases c now unixMs dg remoteIp remotePort
    simp only
    generalize clmIefbHandleInputFrame now unixMs dg remoteIp remotePort c = t at hcases
    cases hcases with
    | response g d r hg hdn hid hr hf =>
      exact handleDeviceResponse_ne_listen now unixMs (hcode g d r ⟨_, _, _, _, _, rfl, hr⟩) hs
    | request hr hf =>
      exact absurd ⟨(Bool.not_eq_true _).mp hlive, _, _, _, _, _, rfl, hf⟩ hforeign
    | dropped aborted value hr hf => exact hs
  | _ => exact absurd rfl he

end CLink
