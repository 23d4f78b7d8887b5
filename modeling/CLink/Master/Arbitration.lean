import CLink.Master.SentFrames

/-!
# Arbitration

All groups share one arbitration timer.

* `GroupMove.listen`         a group in `MASTER_LISTEN` stays there and sends nothing;
* `clmStep_arbitrating`      what a step can do while all groups are in `MASTER_ARBITRATION`;
* `run_arbitration`          a run still arbitrates, has failed, or has seen the timer expire;
* `arbitrationSilence`       no request before the arbitration is over, none after it has failed.
-/

namespace CLink
open Loop Trace

/-! ## runs without requests -/

/-- no request of any group -/
def Silent (out : List Output) : Prop := ∀ x ∈ out, ∀ g, x.isRequest g = false

theorem Silent.nil : Silent [] := by
  intro x hx
  cases hx

theorem Silent.append {a b : List Output} (ha : Silent a) (hb : Silent b) : Silent (a ++ b) := by
  intro x hx
  rcases List.mem_append.mp hx with hx | hx
  · exact ha x hx
  · exact hb x hx

theorem Silent.of_owner {out : List Output} (h : ∀ x ∈ out, x.owner = none) : Silent out := by
  intro x hx g
  exact Output.isRequest_of_owner (h x hx) g

/-- every group is in `state` -/
def Clm.AllIn (c : Clm) (state : GroupState) : Prop :=
  ∀ g, g < c.numGroups → (c.groups g).groupState = state

/-! ## the state of a group -/

section
variable (gs : GroupSetting) (g d : Nat)

theorem deviceTransition_groupState (next : DeviceState) (action : Option DeviceAction)
    (gd : GroupData) : (deviceTransition gs g d next action gd).1.groupState = gd.groupState := by
  have hperform : ∀ (a : DeviceAction) (gd : GroupData),
      (a.perform gs g d next gd).1.groupState = gd.groupState := by
    intro a gd
    cases a with
    | evaluateTimeoutcounter =>
      simp only [DeviceAction.perform, clmIefbEvaluateTimeoutcounter]
      split <;> rfl
    | _ => rfl
  simp only [deviceTransition]
  split
  · rw [hperform]
    cases action with
    | none => rfl
    | some a => exact hperform a _
  · cases action with
    | none => rfl
    | some a => exact hperform a _

theorem clmIefbDeviceFsmEvent_groupState (event : DeviceEvent) (gd : GroupData) :
    (clmIefbDeviceFsmEvent gs g d event gd).1.groupState = gd.groupState := by
  have hround : ∀ e (t : GroupData × List Output),
      (deviceFsmRound gs g d e t).2.1.groupState = t.1.groupState := by
    intro e t
    exact deviceTransition_groupState gs g d _ _ t.1
  unfold clmIefbDeviceFsmEvent
  rw [drive_succ, drive_succ, drive]
  split
  · exact hround event _
  · split
    · exact (hround _ _).trans (hround event _)
    · exact (hround _ _).trans (hround event _)

theorem startDevices_groupState (gd : GroupData) :
    (startDevices gs g gd).1.groupState = gd.groupState := by
  refine loop_inv (fun _ (t : GroupData × List Output) => t.1.groupState = gd.groupState) rfl ?_
  intro d t _ ht
  exact (clmIefbDeviceFsmEvent_groupState gs g d _ t.1).trans ht

end

/-- a link scan start does not change the state of the group again -/
theorem clmIefbOnLinkscanStart_groupState (g : Nat) (now : UInt32) (unixMs : Nat → UInt64)
    (s : Scope) : (clmIefbOnLinkscanStart g now unixMs s).group.groupState = s.group.groupState := by
  have h := startDevices_groupState (s.setting g) g s.group
  simp only [clmIefbOnLinkscanStart]
  split <;> exact h

section
variable {cfg : Config} {g : Nat} {A : GroupInput → GroupData → Prop} {gd gd' : GroupData}
  {out : List Output}

/-- no move leaves `MASTER_LISTEN` or sends a request there -/
theorem GroupMove.listen (hm : GroupMove cfg g A gd out gd')
    (h : gd.groupState = .masterListen) : gd'.groupState = .masterListen ∧ Silent out := by
  cases hm with
  | accepted d r hd ha hc =>
    exact ⟨h, accepted_isRequest g d r _ _⟩
  | complete hs => rw [h] at hs; cases hs
  | timeout hs => rw [h] at hs; cases hs
  | arbitrationDone hs => rw [h] at hs; cases hs
  | start clm now unixMs hclm hs => rw [h] at hs; cases hs
  | standby hs => exact ⟨rfl, Silent.nil⟩
  | _ => exact ⟨h, Silent.nil⟩

/-- no move enters `MASTER_ARBITRATION` -/
theorem GroupMove.arbitration (hm : GroupMove cfg g A gd out gd')
    (h : gd.groupState ≠ .masterArbitration) : gd'.groupState ≠ .masterArbitration := by
  cases hm with
  | start clm now unixMs hclm hs =>
    have hg : (linkscanStart g now unixMs clm gd).group.groupState = .masterLinkScan :=
      clmIefbOnLinkscanStart_groupState g now unixMs _
    rw [hg]
    simp
  | complete hs => exact fun he => by cases he
  | timeout hs => exact fun he => by cases he
  | arbitrationDone hs => exact fun he => by cases he
  | standby hs => exact fun he => by cases he
  | _ => exact h

end

/-- **A master in `MASTER_LISTEN` is silent for the rest of the run.** -/
theorem listen_silent {c : Clm} (h : c.AllIn .masterListen) (es : List Event) :
    (master.run c es).1.AllIn .masterListen ∧ Silent (master.run c es).2 := by
  have hall : master.Steps (Admits fun _ _ _ => True) c es :=
    Machine.Steps.of_all master (fun _ _ _ _ _ => trivial) c es
  have hrun := master.run_inv (c := Admits fun _ _ _ => True)
    (I := fun hist c => c.AllIn .masterListen ∧ Silent hist)
    (by
      rintro hist c e ⟨hc, hhist⟩ hadm
      have hm := clmStep_moves c e hadm
      have hstar : ∀ g, g < c.numGroups →
          ((clmStep c e).1.groups g).groupState = .masterListen ∧ Silent (ofGroup g (clmStep c e).2) := by
        intro g hg
        refine (hm.group g hg).inv (I := fun o gd => gd.groupState = .masterListen ∧ Silent o) ?_ []
          ⟨hc g hg, Silent.nil⟩
        rintro o gd o' gd' hmove ⟨hgd, ho⟩
        obtain ⟨hgd', ho'⟩ := hmove.listen hgd
        exact ⟨hgd', ho.append ho'⟩
      refine ⟨?_, hhist.append ?_⟩
      · intro g hg
        have hn : (clmStep c e).1.numGroups = c.numGroups := by
          unfold Clm.numGroups
          rw [hm.config]
        exact (hstar g (Nat.lt_of_lt_of_eq hg hn)).1
      · intro x hx g
        by_contra hreq
        rw [Bool.not_eq_false] at hreq
        have hmem : x ∈ ofGroup g (clmStep c e).2 :=
          List.mem_filter.mpr ⟨hx, Output.isOf_of_isRequest hreq⟩
        by_cases hg : g < c.numGroups
        · rw [(hstar g hg).2 x hmem g] at hreq
          cases hreq
        · rw [(hm.other g hg).1] at hmem
          cases hmem)
    [] ⟨h, Silent.nil⟩ hall
  exact hrun

/-! ## a step during arbitration -/

/-- all groups wait for the arbitration timer -/
structure Arbitrating (timer : Timer) (c : Clm) : Prop where
  timer : c.shared.arbitrationTimer = timer
  groups : c.AllIn .masterArbitration

/-- the valid cyclic request of another master is handled, the program being alive -/
def HandlesForeignRequest (c : Clm) (e : Event) : Prop :=
  c.aborted = false ∧ ∃ now unixMs dg remoteIp remotePort,
    e = .frame now unixMs dg remoteIp remotePort ∧ clmForeignRequest c dg remoteIp = true

/-- outside the link scans -/
def GroupState.idle (state : GroupState) : Prop := state = .masterListen ∨ state = .masterArbitration

section
variable (g : Nat) (now : UInt32) (unixMs : Nat → UInt64) {s : Scope} (hs : s.group.groupState.idle)
include hs

/-- the events without a row outside the link scans -/
theorem clmIefbGroupFsmEvent_idle {event : GroupEvent}
    (he : event = .linkscanTimeout ∨ event = .linkscanStart ∨ event = .linkscanComplete
      ∨ event = .masterduplAlarm) : clmIefbGroupFsmEvent g now unixMs event s = s := by
  apply clmIefbGroupFsmEvent_stay
  rcases hs with hs | hs <;> rw [hs] <;> rcases he with rfl | rfl | rfl | rfl <;> rfl

/-- leftover timers are stopped and have no other effect -/
theorem monitorGroupTimers_idle :
    ∃ gd, gd.groupState = s.group.groupState
      ∧ monitorGroupTimers g now unixMs s = { s with group := gd } := by
  have h1 : ∃ gd, gd.groupState = s.group.groupState
      ∧ (if clTimerIsExpired s.group.responseWaitTimer now then
          clmIefbGroupFsmEvent g now unixMs .linkscanTimeout { s with group := { s.group with
            responseWaitTimer := clTimerStop s.group.responseWaitTimer } }
        else s) = { s with group := gd } := by
    split
    · refine ⟨{ s.group with responseWaitTimer := clTimerStop s.group.responseWaitTimer }, rfl, ?_⟩
      apply clmIefbGroupFsmEvent_idle
      · exact hs
      · exact Or.inl rfl
    · exact ⟨s.group, rfl, rfl⟩
  obtain ⟨gd, hgd, heq⟩ := h1
  simp only [monitorGroupTimers, heq]
  split
  · refine ⟨{ gd with constantLinkscanTimer := clTimerStop gd.constantLinkscanTimer }, hgd, ?_⟩
    apply clmIefbGroupFsmEvent_idle
    · show gd.groupState.idle
      rw [hgd]
      exact hs
    · exact Or.inr (Or.inl rfl)
  · exact ⟨gd, hgd, rfl⟩

end

section
variable (g : Nat) (now : UInt32) (unixMs : Nat → UInt64) {s : Scope}
  (hs : s.group.groupState = .masterArbitration)
include hs

theorem receiveResponse_arbitration {d : Nat} {r : CyclicResponse}
    (hr : r.fullHeaders.cyclicHeader.endCode ≠ endcodeMasterDuplication) :
    ∃ gd, gd.groupState = .masterArbitration
      ∧ receiveResponse g d now unixMs r s = { s with group := gd } := by
  refine ⟨s.group.modifyDevice d (deviceResponse (s.setting g) r), hs, ?_⟩
  rw [receiveResponse_eq now unixMs hr]
  split
  · apply clmIefbGroupFsmEvent_idle
    · exact Or.inr hs
    · exact Or.inr (Or.inr (Or.inl rfl))
  · rfl

end

section
variable {timer : Timer} {c : Clm} (h : Arbitrating timer c)
include h

theorem Arbitrating.setScope {g : Nat} {s : Scope} (hc : s.clm.config = c.shared.config)
    (ht : s.clm.arbitrationTimer = c.shared.arbitrationTimer)
    (hs : s.group.groupState = .masterArbitration) : Arbitrating timer (c.setScope g s).1 := by
  refine ⟨ht.trans h.timer, ?_⟩
  intro k hk
  have hk' : k < c.numGroups := by
    have hn : (c.setScope g s).1.numGroups = c.numGroups := by
      unfold Clm.numGroups
      exact congrArg (fun cfg : Config => cfg.hier.numberOfGroups.toNat) hc
    omega
  show (Function.update c.groups g s.group k).groupState = _
  by_cases hkg : k = g
  · rw [hkg, Function.update_self]
    exact hs
  · rw [Function.update_of_ne hkg]
    exact h.groups k hk'

/-- a function for every group in turn that keeps the arbitration -/
theorem Arbitrating.forGroups {f : Nat → Scope → Scope}
    (hf : ∀ g s, s.group.groupState = .masterArbitration → (f g s).clm = s.clm
      ∧ (f g s).out = s.out ∧ (f g s).group.groupState = .masterArbitration) :
    Arbitrating timer (c.forGroups f).1 ∧ Silent (c.forGroups f).2 := by
  obtain ⟨hI, _, hR, hQ⟩ := Clm.forGroups_spec (c := c) (f := f) (fun _ clm => clm = c.shared)
    (fun _ gd gd' => gd.groupState = .masterArbitration → gd'.groupState = .masterArbitration)
    (fun _ => False) rfl
    (by
      rintro g clm hg rfl
      obtain ⟨hclm, hout, hstate⟩ := hf g (c.scope g) (h.groups g hg)
      refine ⟨hclm, fun _ => hstate, ?_⟩
      intro x hx
      have hnil : (f g (c.scope g)).out = [] := hout
      rw [show ({ clm := c.shared, group := c.groups g, out := [] } : Scope) = c.scope g from rfl,
        hnil] at hx
      cases hx)
  refine ⟨⟨?_, ?_⟩, ?_⟩
  · rw [hI]
    exact h.timer
  · intro g hg
    rw [Clm.numGroups, hI] at hg
    exact hR g hg (h.groups g hg)
  · intro x hx
    exact absurd (hQ x hx) id

/-- a response is handled as usual, but the group stays where it is -/
theorem Arbitrating.handleDeviceResponse {g d : Nat} {r : CyclicResponse} (now : UInt32)
    (unixMs : Nat → UInt64) (hg : g < c.numGroups) :
    Arbitrating timer (handleDeviceResponse g d now unixMs r c).1
      ∧ Silent (CLink.handleDeviceResponse g d now unixMs r c).2.1 := by
  obtain ⟨⟨hgroup, hconfig, htimer, o, ho, hown⟩, _⟩ := checkResponse_spec g d now r (c.scope g)
  have hstate : (checkResponse g d now r (c.scope g)).1.group.groupState = .masterArbitration := by
    rw [hgroup]
    exact h.groups g hg
  have hsilent : Silent (checkResponse g d now r (c.scope g)).1.out := by
    rw [ho]
    exact Silent.nil.append (Silent.of_owner hown)
  unfold CLink.handleDeviceResponse
  simp only
  split
  · exact ⟨h.setScope hconfig htimer hstate, hsilent⟩
  -- the response is stored
  have hstored := storeResponse_eq g d r (checkResponse g d now r (c.scope g)).1
  have hout : Silent (storeResponse g d r (checkResponse g d now r (c.scope g)).1).out := by
    rw [hstored]
    exact hsilent.append (accepted_isRequest g d r _ _)
  have hkept : Arbitrating timer (c.setScope g
      (storeResponse g d r (checkResponse g d now r (c.scope g)).1)).1 := by
    rw [hstored]
    exact h.setScope hconfig htimer hstate
  split
  · obtain ⟨harb, hsil⟩ := hkept.forGroups
      (f := fun g => clmIefbGroupFsmEvent g now unixMs .masterduplAlarm)
      (fun k s hs => by
        rw [clmIefbGroupFsmEvent_idle k now unixMs (Or.inr hs) (Or.inr (Or.inr (Or.inr rfl)))]
        exact ⟨rfl, rfl, hs⟩)
    exact ⟨harb, hout.append hsil⟩
  · rename_i hdupl
    obtain ⟨gd, hgd, heq⟩ := receiveResponse_arbitration g now unixMs (d := d)
      (s := storeResponse g d r (checkResponse g d now r (c.scope g)).1)
      (by rw [hstored]; exact hstate) hdupl
    rw [heq]
    refine ⟨h.setScope ?_ ?_ hgd, hout⟩
    · rw [hstored]
      exact hconfig
    · rw [hstored]
      exact htimer

end

/-! ## the ways out of the arbitration -/

/-- a request of another master sends the group to `MASTER_LISTEN` -/
theorem reqFromOther_listen (g : Nat) (now : UInt32) (unixMs : Nat → UInt64) {s : Scope}
    (hs : s.group.groupState = .masterArbitration) :
    (clmIefbGroupFsmEvent g now unixMs .reqFromOther s).clm.config = s.clm.config
      ∧ (clmIefbGroupFsmEvent g now unixMs .reqFromOther s).group.groupState = .masterListen
      ∧ ∃ o, (clmIefbGroupFsmEvent g now unixMs .reqFromOther s).out = s.out ++ o
        ∧ ∀ x ∈ o, x.owner = none := by
  obtain ⟨hc, ho⟩ := clmIefbTriggerErrorCallback_spec s.clm now .arbitrationFailed
    s.clm.latestConflictingMasterIp 0
  rw [clmIefbGroupFsmEvent_reqFromOther g now unixMs hs, clmIefbGroupOnEntryListen_eq]
  obtain ⟨hc', ho'⟩ := clmIefbSetMasterState_spec
    { (clmIefbOnArbitrationFailed now (s.inState .masterListen)).clm with
      arbitrationTimer := clTimerStop
        (clmIefbOnArbitrationFailed now (s.inState .masterListen)).clm.arbitrationTimer } .standby
  refine ⟨hc'.trans hc, rfl, _, List.append_assoc .., ?_⟩
  intro x hx
  rcases List.mem_append.mp hx with hx | hx
  · exact ho x hx
  · exact ho' x hx

theorem clmIefbHandleRequestFrame_listen {c : Clm} (h : c.AllIn .masterArbitration) (now : UInt32)
    (unixMs : Nat → UInt64) (remoteIp : IpAddr) :
    (clmIefbHandleRequestFrame now unixMs remoteIp c).1.AllIn .masterListen
      ∧ Silent (clmIefbHandleRequestFrame now unixMs remoteIp c).2.1 := by
  obtain ⟨hI, _, hR, hQ⟩ := Clm.forGroups_spec
    (c := { c with shared := { c.shared with latestConflictingMasterIp := remoteIp } })
    (f := fun g => clmIefbGroupFsmEvent g now unixMs .reqFromOther)
    (fun _ clm => clm.config = c.shared.config) (fun _ _ gd => gd.groupState = .masterListen)
    (fun x => x.owner = none) rfl
    (by
      intro g clm hg hclm
      obtain ⟨hconfig, hstate, o, ho, hown⟩ := reqFromOther_listen g now unixMs
        (s := { clm := clm, group := c.groups g, out := [] }) (h g hg)
      refine ⟨hconfig.trans hclm, hstate, ?_⟩
      rw [ho]
      exact hown)
  refine ⟨?_, Silent.of_owner hQ⟩
  intro g hg
  have hn : (clmIefbHandleRequestFrame now unixMs remoteIp c).1.numGroups = c.numGroups :=
    congrArg (fun cfg : Config => cfg.hier.numberOfGroups.toNat) hI
  exact hR g (Nat.lt_of_lt_of_eq hg hn)

/-- the end of the arbitration -/
theorem arbitrationDone_state (g : Nat) (now : UInt32) (unixMs : Nat → UInt64) {s : Scope}
    (hs : s.group.groupState = .masterArbitration) :
    (clmIefbGroupFsmEvent g now unixMs .arbitrationDone s).group.groupState = .masterLinkScan := by
  rw [clmIefbGroupFsmEvent_arbitrationDone g now unixMs hs]
  exact clmIefbOnLinkscanStart_groupState g now unixMs _

/-- no group is in `MASTER_ARBITRATION` -/
def Clm.NoneArbitrates (c : Clm) : Prop :=
  ∀ g, g < c.numGroups → (c.groups g).groupState ≠ .masterArbitration

theorem ClmMoves.noneArbitrates {A : Nat → GroupInput → GroupData → Prop} {c c' : Clm}
    {out : List Output} (hm : ClmMoves A c c' out) (h : c.NoneArbitrates) : c'.NoneArbitrates := by
  intro g hg
  have hn : c'.numGroups = c.numGroups := by
    unfold Clm.numGroups
    rw [hm.config]
  have hg' : g < c.numGroups := Nat.lt_of_lt_of_eq hg hn
  exact (hm.group g hg').state_inv (I := fun gd => gd.groupState ≠ .masterArbitration)
    (fun _ _ _ hmove hgd => hmove.arbitration hgd) (h g hg')

theorem noneArbitrates_monitor (now : UInt32) (unixMs : Nat → UInt64) {c : Clm}
    (h : c.NoneArbitrates) : (clmIefbMonitorAllGroupTimers now unixMs c).1.NoneArbitrates := by
  have hm : ClmMoves (fun _ _ _ => True) c (clmIefbMonitorAllGroupTimers now unixMs c).1
      (clmIefbMonitorAllGroupTimers now unixMs c).2 :=
    .forGroups (fun _ _ _ hs => scopeMoves_monitorGroupTimers now unixMs hs)
  exact hm.noneArbitrates h

/-- the tick at which the arbitration timer has expired -/
theorem clmIefbPeriodicTimers_done {timer : Timer} {c : Clm} (h : Arbitrating timer c) {now : UInt32}
    (unixMs : Nat → UInt64) (hx : clTimerIsExpired timer now = true) :
    (clmIefbPeriodicTimers now unixMs c).1.NoneArbitrates := by
  have hx' : clTimerIsExpired c.shared.arbitrationTimer now = true := by
    rw [h.timer]
    exact hx
  unfold clmIefbPeriodicTimers
  simp only [hx', if_true]
  obtain ⟨hI, _, hR, _⟩ := Clm.forGroups_spec
    (c := { c with shared := { c.shared with
      errorlimiter := clLimiterPeriodic c.shared.errorlimiter now
      arbitrationTimer := clTimerStop c.shared.arbitrationTimer } })
    (f := fun g => clmIefbGroupFsmEvent g now unixMs .arbitrationDone)
    (fun _ clm => clm.config = c.shared.config) (fun _ _ gd => gd.groupState = .masterLinkScan)
    (fun _ => True) rfl
    (by
      intro g clm hg hclm
      have hs : ({ clm := clm, group := c.groups g, out := [] } : Scope).group.groupState
          = .masterArbitration := h.groups g hg
      refine ⟨?_, arbitrationDone_state g now unixMs hs, fun _ _ => trivial⟩
      exact (scopeMoves_arbitrationDone (A := fun _ _ => True) now unixMs hclm).config.trans hclm)
  have hnone : (clmIefbGroupFsmEventAll now unixMs .arbitrationDone { c with shared := { c.shared with
      errorlimiter := clLimiterPeriodic c.shared.errorlimiter now
      arbitrationTimer := clTimerStop c.shared.arbitrationTimer } }).1.NoneArbitrates := by
    intro g hg he
    have hg' : g < c.numGroups := by
      refine Nat.lt_of_lt_of_eq hg ?_
      exact congrArg (fun cfg : Config => cfg.hier.numberOfGroups.toNat) hI
    have hr : GroupState.masterLinkScan = .masterArbitration := (hR g hg').symm.trans he
    cases hr
  exact noneArbitrates_monitor now unixMs hnone

/-- what a step does while all groups arbitrate -/
inductive ArbitrationStep (timer : Timer) (c : Clm) (e : Event) : Prop where
  | waits (h : Arbitrating timer (clmStep c e).1) (ho : Silent (clmStep c e).2)
      (hf : ¬ HandlesForeignRequest c e)
  | fails (h : (clmStep c e).1.AllIn .masterListen) (ho : Silent (clmStep c e).2)
      (hf : HandlesForeignRequest c e)
  | ends (now : UInt32) (unixMs : Nat → UInt64) (he : e = .tick now unixMs)
      (hx : clTimerIsExpired timer now = true) (h : (clmStep c e).1.NoneArbitrates)

/-- the state of the groups and the arbitration timer are untouched -/
theorem Arbitrating.congr {timer : Timer} {c c' : Clm} (h : Arbitrating timer c)
    (hs : c'.shared.config = c.shared.config)
    (ht : c'.shared.arbitrationTimer = c.shared.arbitrationTimer)
    (hg : ∀ g, (c'.groups g).groupState = (c.groups g).groupState) : Arbitrating timer c' := by
  refine ⟨ht.trans h.timer, ?_⟩
  intro g hlt
  rw [Clm.numGroups, hs] at hlt
  exact (hg g).trans (h.groups g hlt)

/-- one group is changed -/
theorem Arbitrating.update {timer : Timer} {c : Clm} (h : Arbitrating timer c) (g : Nat)
    {gd : GroupData} (hs : gd.groupState = (c.groups g).groupState) :
    Arbitrating timer { c with groups := Function.update c.groups g gd } := by
  refine h.congr rfl rfl ?_
  intro k
  show (Function.update c.groups g gd k).groupState = _
  by_cases hk : k = g
  · rw [hk, Function.update_self]
    exact hs
  · rw [Function.update_of_ne hk]

theorem Arbitrating.modifyDevice {timer : Timer} {c : Clm} (h : Arbitrating timer c) (g d : Nat)
    (f : SlaveDeviceData → SlaveDeviceData) : Arbitrating timer (c.modifyDevice g d f) := by
  unfold Clm.modifyDevice
  split
  · exact h
  · exact h.update g rfl

theorem Arbitrating.clearStatistics {timer : Timer} {c : Clm} (h : Arbitrating timer c) :
    Arbitrating timer (clmIefbStatisticsClearAll c) := by
  refine loop_inv (fun _ t => Arbitrating timer t) h ?_
  intro g t _ ht
  apply ht.update g
  rw [loop_modifyDevice]
  rfl

theorem Arbitrating.periodicTimers {timer : Timer} {c : Clm} (h : Arbitrating timer c)
    {now : UInt32} (unixMs : Nat → UInt64) (hx : clTimerIsExpired timer now = false) :
    Arbitrating timer (clmIefbPeriodicTimers now unixMs c).1
      ∧ Silent (clmIefbPeriodicTimers now unixMs c).2 := by
  have hx' : clTimerIsExpired c.shared.arbitrationTimer now = false := by
    rw [h.timer]
    exact hx
  have h' : Arbitrating timer { c with shared := { c.shared with
      errorlimiter := clLimiterPeriodic c.shared.errorlimiter now } } :=
    h.congr rfl rfl (fun _ => rfl)
  unfold clmIefbPeriodicTimers
  simp only [hx', Bool.false_eq_true, if_false, List.nil_append]
  apply h'.forGroups
  intro g s hs
  obtain ⟨gd, hgd, heq⟩ := monitorGroupTimers_idle g now unixMs (Or.inr hs)
  rw [heq]
  exact ⟨rfl, rfl, hgd.trans hs⟩

theorem clmStep_arbitrating {timer : Timer} {c : Clm} (h : Arbitrating timer c) (e : Event) :
    ArbitrationStep timer c e := by
  by_cases ha : c.aborted = true
  · have hstep : clmStep c e = (c, []) := if_pos ha
    refine .waits ?_ ?_ ?_
    · rw [hstep]
      exact h
    · rw [hstep]
      exact Silent.nil
    · rintro ⟨hlive, _⟩
      rw [ha] at hlive
      cases hlive
  -- the program is alive; what is left is the step and whether a request was handled
  have hno : ∀ {e'}, (∀ now unixMs dg ip port, e' ≠ .frame now unixMs dg ip port) →
      ¬ HandlesForeignRequest c e' := by
    rintro e' hne ⟨_, now, unixMs, dg, ip, port, he, _⟩
    exact hne _ _ _ _ _ he
  have hstep : clmStep c e = _ := if_neg ha
  cases e with
  | tick now unixMs =>
    cases hx : clTimerIsExpired timer now with
    | true =>
      refine .ends now unixMs rfl hx ?_
      rw [hstep]
      exact clmIefbPeriodicTimers_done h unixMs hx
    | false =>
      obtain ⟨h', ho⟩ := h.periodicTimers unixMs hx
      refine .waits ?_ ?_ (hno (by simp)) <;> rw [hstep]
      · exact h'
      · exact ho
  | frame now unixMs dg remoteIp remotePort =>
    have hcases := clmIefbHandleInputFrame_cases c now unixMs dg remoteIp remotePort
    have hf : HandlesForeignRequest c (.frame now unixMs dg remoteIp remotePort)
        ↔ clmForeignRequest c dg remoteIp = true := by
      constructor
      · rintro ⟨_, _, _, _, _, _, he, hreq⟩
        cases he
        exact hreq
      · intro hreq
        exact ⟨(Bool.eq_false_or_eq_true _).resolve_left ha, _, _, _, _, _, rfl, hreq⟩
    have hstep' : clmStep c (.frame now unixMs dg remoteIp remotePort)
        = ((clmIefbHandleInputFrame now unixMs dg remoteIp remotePort c).1,
          (clmIefbHandleInputFrame now unixMs dg remoteIp remotePort c).2.1) := hstep
    generalize clmIefbHandleInputFrame now unixMs dg remoteIp remotePort c = t at hcases hstep'
    cases hcases with
    | response g d r hg hd hid hr hreq =>
      obtain ⟨h', ho⟩ := h.handleDeviceResponse (d := d) (r := r) now unixMs hg
      refine .waits ?_ ?_ ?_
      · rw [hstep']
        exact h'
      · rw [hstep']
        exact ho
      · rw [hf, hreq]
        simp
    | request hr hreq =>
      obtain ⟨h', ho⟩ := clmIefbHandleRequestFrame_listen h.groups now unixMs remoteIp
      refine .fails ?_ ?_ (hf.mpr hreq)
      · rw [hstep']
        exact h'
      · rw [hstep']
        exact ho
    | dropped aborted value hr hreq =>
      refine .waits ?_ ?_ ?_
      · rw [hstep']
        exact h.congr rfl rfl (fun _ => rfl)
      · rw [hstep']
        exact Silent.nil
      · rw [hf, hreq]
        simp
  | setSlaveCommunicationStatus g d enabled =>
    refine .waits ?_ ?_ (hno (by simp)) <;> rw [hstep]
    · exact h.modifyDevice g d _
    · exact Silent.nil
  | forceCyclicTransmissionBit g d force =>
    refine .waits ?_ ?_ (hno (by simp)) <;> rw [hstep]
    · exact h.modifyDevice g d _
    · exact Silent.nil
  | statisticsClearAll =>
    refine .waits ?_ ?_ (hno (by simp)) <;> rw [hstep]
    · exact h.clearStatistics
    · exact Silent.nil
  | setMasterApplicationStatus running stoppedByUser =>
    refine .waits ?_ ?_ (hno (by simp)) <;> rw [hstep]
    · exact h.congr rfl rfl (fun _ => rfl)
    · exact Silent.nil
  | writeMemoryArea g ry rww =>
    refine .waits ?_ ?_ (hno (by simp)) <;> rw [hstep]
    · show Arbitrating timer (writeMemoryArea g ry rww c)
      unfold writeMemoryArea
      split
      · exact h
      · exact h.update g rfl
    · exact Silent.nil

/-! ## runs -/

namespace MasterStart
variable {o : Options} (st : MasterStart o)

/-- where a run stands -/
inductive ArbitrationRun (es : List Event) : Prop where
  | waits (h : Arbitrating st.arbitrationTimer (st.run es).1) (ho : Silent (st.run es).2)
      (hf : master.Steps (fun c e => ¬ HandlesForeignRequest c e) st.init.1 es)
  | failed (h : (st.run es).1.AllIn .masterListen) (ho : Silent (st.run es).2)
  | ended (pre : List Event) (now : UInt32) (unixMs : Nat → UInt64) (post : List Event)
      (he : es = pre ++ .tick now unixMs :: post)
      (hx : clTimerIsExpired st.arbitrationTimer now = true)
      (h : Arbitrating st.arbitrationTimer (st.run pre).1) (ho : Silent (st.run pre).2)
      (hf : master.Steps (fun c e => ¬ HandlesForeignRequest c e) st.init.1 pre)
      (hn : (st.run es).1.NoneArbitrates)

theorem run_concat (es : List Event) (e : Event) :
    st.run (es ++ [e])
      = ((clmStep (st.run es).1 e).1, (st.run es).2 ++ (clmStep (st.run es).1 e).2) := by
  rw [st.run_append, Machine.run_cons, Machine.run_nil, List.append_nil]
  rfl

theorem init_arbitrating : Arbitrating st.arbitrationTimer st.init.1 := by
  have hi := st.init_spec
  refine ⟨hi.timer, ?_⟩
  intro g hg
  rw [Clm.numGroups, hi.config] at hg
  exact (hi.group g hg).state

theorem run_arbitration (es : List Event) : st.ArbitrationRun es := by
  induction es using List.reverseRecOn with
  | nil =>
    refine .waits ?_ ?_ trivial
    · rw [st.run_nil]
      exact st.init_arbitrating
    · rw [st.run_nil]
      exact Silent.of_owner st.init_spec.out
  | append_singleton es e ih =>
    have hrun := st.run_concat es e
    cases ih with
    | waits h ho hf =>
      cases clmStep_arbitrating h e with
      | waits h' ho' hf' =>
        refine .waits ?_ ?_ ?_
        · rw [hrun]
          exact h'
        · rw [hrun]
          exact ho.append ho'
        · exact (Machine.steps_append master _ _ _).mpr ⟨hf, hf', trivial⟩
      | fails h' ho' hf' =>
        refine .failed ?_ ?_
        · rw [hrun]
          exact h'
        · rw [hrun]
          exact ho.append ho'
      | ends now unixMs he hx h' =>
        subst he
        refine .ended es now unixMs [] rfl hx h ho hf ?_
        rw [hrun]
        exact h'
    | failed h ho =>
      obtain ⟨h', ho'⟩ := listen_silent h [e]
      rw [Machine.run_cons, Machine.run_nil, List.append_nil] at h' ho'
      refine .failed ?_ ?_
      · rw [hrun]
        exact h'
      · rw [hrun]
        exact ho.append ho'
    | ended pre now unixMs post he hx h ho hf hn =>
      refine .ended pre now unixMs (post ++ [e]) ?_ hx h ho hf ?_
      · rw [he, List.append_assoc, List.cons_append]
      · have hm := clmStep_moves (A := fun _ _ _ => True) (st.run es).1 e (fun _ _ _ => trivial)
        rw [hrun]
        exact hm.noneArbitrates hn

/-- the arbitration of a run -/
structure ArbitrationSilence (es : List Event) : Prop where
  /-- before every request there is a tick at which the timer of the start has expired, and until
  then nothing was sent and no request of another master was handled -/
  done : ∀ g start destIp destPort dg, .sendRequest g start destIp destPort dg ∈ (st.run es).2 →
    ∃ pre now unixMs post, es = pre ++ .tick now unixMs :: post
      ∧ (st.run pre).1.shared.arbitrationTimer = st.arbitrationTimer
      ∧ clTimerIsExpired st.arbitrationTimer now = true
      ∧ Silent (st.run pre).2
      ∧ master.Steps (fun c e => ¬ HandlesForeignRequest c e) st.init.1 pre
  /-- a request of another master during the arbitration is the end of all requests -/
  failed : ∀ pre e post, es = pre ++ e :: post → HandlesForeignRequest (st.run pre).1 e →
    (∃ g, g < st.vc.numGroups ∧ ((st.run pre).1.groups g).groupState = .masterArbitration) →
    (st.run (pre ++ [e])).1.AllIn .masterListen
      ∧ Silent (master.run (st.run (pre ++ [e])).1 post).2

/-- **Silence during and after a lost arbitration.** -/
theorem arbitrationSilence (es : List Event) : st.ArbitrationSilence es := by
  constructor
  · intro g start destIp destPort dg hmem
    have hno : ¬ Silent (st.run es).2 := by
      intro h
      have hreq := h _ hmem g
      simp [Output.isRequest] at hreq
    cases st.run_arbitration es with
    | waits h ho hf => exact absurd ho hno
    | failed h ho => exact absurd ho hno
    | ended pre now unixMs post he hx h ho hf hn =>
      exact ⟨pre, now, unixMs, post, he, h.timer, hx, ho, hf⟩
  · rintro pre e post he hf ⟨g, hg, hstate⟩
    have hg' : g < (st.run pre).1.numGroups := by
      rw [Clm.numGroups, (st.run_config pre).1]
      exact hg
    have hlisten : (clmStep (st.run pre).1 e).1.AllIn .masterListen := by
      cases st.run_arbitration pre with
      | waits h ho hf' =>
        cases clmStep_arbitrating h e with
        | waits h' ho' hf'' => exact absurd hf hf''
        | fails h' ho' hf'' => exact h'
        | ends now unixMs het hx h' =>
          obtain ⟨_, _, _, _, _, _, hef, _⟩ := hf
          rw [het] at hef
          cases hef
      | failed h ho =>
        rw [h g hg'] at hstate
        cases hstate
      | ended pre' now unixMs post' he' hx h ho hf' hn => exact absurd hstate (hn g hg')
    have hrun : (st.run (pre ++ [e])).1 = (clmStep (st.run pre).1 e).1 := by
      rw [st.run_concat]
    rw [hrun]
    exact ⟨hlisten, (listen_silent hlisten post).2⟩

end MasterStart

end CLink
