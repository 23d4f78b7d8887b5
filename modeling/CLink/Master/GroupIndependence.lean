import CLink.Master.RejectedFrames

/-!
# Groups are independent

The functions of a group leave the shared data alone (`ClmShared.view`), apart from the master
state, the error limiter, and the arbitration timer, which all groups stop together.

* `SameFor g s s'`         two scopes that group `g` cannot tell apart;
* `event_sameFor`          they stay so in every event;
* `forGroups_group`        what a function of all groups leaves for one of them;
* `AgreeOn g r r'`         two masters, and their outputs, that group `g` cannot tell apart;
* `Event.elsewhere`        responses for and calls about other groups;
* `step_elsewhere`         such an event, `AgreeOn.step` any other event in two masters;
* `groups_independent`     two runs that differ in such events.
-/

namespace CLink
open Loop Trace

/-! ## what a group reads -/

/-- the shared data without the master state and the error limiter -/
structure SharedView where
  config : Config
  iefbBroadcastIp : IpAddr
  latestConflictingMasterIp : IpAddr
  parameterNo : UInt16
  masterLocalUnitInfo : UInt16
  arbitrationTimer : Timer

def ClmShared.view (clm : ClmShared) : SharedView :=
  { config := clm.config
    iefbBroadcastIp := clm.iefbBroadcastIp
    latestConflictingMasterIp := clm.latestConflictingMasterIp
    parameterNo := clm.parameterNo
    masterLocalUnitInfo := clm.masterLocalUnitInfo
    arbitrationTimer := clm.arbitrationTimer }

def SharedView.stopTimer (v : SharedView) : SharedView :=
  { v with arbitrationTimer := clTimerStop v.arbitrationTimer }

structure SameFor (g : Nat) (s s' : Scope) : Prop where
  view : s'.clm.view = s.clm.view
  group : s'.group = s.group
  out : ofGroup g s'.out = ofGroup g s.out

section
variable {g : Nat} {s s' : Scope} (h : SameFor g s s')
include h

theorem SameFor.config : s'.clm.config = s.clm.config := congrArg SharedView.config h.view

theorem SameFor.setting : s'.setting g = s.setting g := by
  rw [Scope.setting, h.config]
  rfl

/-- the group changes in the same way, with the same outputs -/
theorem SameFor.step (gd : GroupData) (o : List Output) :
    SameFor g { s with group := gd, out := s.out ++ o } { s' with group := gd, out := s'.out ++ o } := by
  refine ⟨h.view, rfl, ?_⟩
  show ofGroup g (s'.out ++ o) = ofGroup g (s.out ++ o)
  rw [ofGroup_append, ofGroup_append, h.out]

theorem SameFor.withGroup (gd : GroupData) :
    SameFor g { s with group := gd } { s' with group := gd } := ⟨h.view, rfl, h.out⟩

theorem SameFor.inState (state : GroupState) : SameFor g (s.inState state) (s'.inState state) := by
  unfold Scope.inState
  rw [h.group]
  exact h.withGroup _

omit h in
theorem setMasterState_view (clm : ClmShared) (state : MasterState) :
    (clmIefbSetMasterState clm state).1.view = clm.view := by
  rw [clmIefbSetMasterState_fields]
  rfl

omit h in
/-- outputs about no group -/
theorem ofGroup_append_none {a o : List Output} (ho : ∀ x ∈ o, x.owner = none) :
    ofGroup g (a ++ o) = ofGroup g a := by
  rw [ofGroup_append, ofGroup_none ho, List.append_nil]

theorem SameFor.enterMasterState (state : MasterState) :
    SameFor g (CLink.enterMasterState state s) (CLink.enterMasterState state s') := by
  refine ⟨?_, h.group, ?_⟩
  · show (clmIefbSetMasterState s'.clm state).1.view = (clmIefbSetMasterState s.clm state).1.view
    rw [setMasterState_view, setMasterState_view]
    exact h.view
  · show ofGroup g (s'.out ++ _) = ofGroup g (s.out ++ _)
    rw [ofGroup_append_none (clmIefbSetMasterState_spec _ _).2,
      ofGroup_append_none (clmIefbSetMasterState_spec _ _).2]
    exact h.out

theorem SameFor.endScan (event : DeviceEvent) (success : Bool) :
    SameFor g (s.endScan g event success) (s'.endScan g event success) := by
  unfold Scope.endScan
  simp only
  rw [h.group, h.setting]
  exact h.step _ _

theorem SameFor.onLinkscanStart (now : UInt32) (unixMs : Nat → UInt64) :
    SameFor g (clmIefbOnLinkscanStart g now unixMs s) (clmIefbOnLinkscanStart g now unixMs s') := by
  have hunit : s'.clm.masterLocalUnitInfo = s.clm.masterLocalUnitInfo :=
    congrArg SharedView.masterLocalUnitInfo h.view
  have hip : s'.clm.iefbBroadcastIp = s.clm.iefbBroadcastIp :=
    congrArg SharedView.iefbBroadcastIp h.view
  unfold clmIefbOnLinkscanStart
  simp only
  rw [h.group, h.setting, hunit, hip]
  exact h.step _ _

theorem SameFor.onEntryListen :
    SameFor g (clmIefbGroupOnEntryListen g s) (clmIefbGroupOnEntryListen g s') := by
  rw [clmIefbGroupOnEntryListen_eq, clmIefbGroupOnEntryListen_eq, h.group, h.setting]
  refine ⟨?_, rfl, ?_⟩
  · show (clmIefbSetMasterState _ .standby).1.view = (clmIefbSetMasterState _ .standby).1.view
    rw [setMasterState_view, setMasterState_view]
    exact congrArg SharedView.stopTimer h.view
  · show ofGroup g (s'.out ++ _) = ofGroup g (s.out ++ _)
    rw [ofGroup_append_none (clmIefbSetMasterState_spec _ _).2,
      ofGroup_append_none (clmIefbSetMasterState_spec _ _).2]
    exact h.out

theorem SameFor.onArbitrationFailed (now : UInt32) :
    SameFor g (clmIefbOnArbitrationFailed now s) (clmIefbOnArbitrationFailed now s') := by
  refine ⟨h.view, h.group, ?_⟩
  show ofGroup g (s'.out ++ _) = ofGroup g (s.out ++ _)
  rw [ofGroup_append_none (clmIefbTriggerErrorCallback_spec _ _ _ _ _).2,
    ofGroup_append_none (clmIefbTriggerErrorCallback_spec _ _ _ _ _).2]
  exact h.out

end

/-! ## events -/

/-- the events after initialisation, apart from the alarm -/
def GroupEvent.isPlain : GroupEvent → Prop
  | arbitrationDone => True
  | reqFromOther => True
  | linkscanStart => True
  | linkscanTimeout => True
  | linkscanComplete => True
  | _ => False

/-- the state in which such an event does something -/
def GroupEvent.source : GroupEvent → GroupState
  | arbitrationDone => .masterArbitration
  | reqFromOther => .masterArbitration
  | linkscanStart => .masterLinkScanComp
  | linkscanTimeout => .masterLinkScan
  | linkscanComplete => .masterLinkScan
  | _ => .masterDown

/-- what an event does to the fields that the groups read -/
def GroupEvent.onView : GroupEvent → GroupState → SharedView → SharedView
  | reqFromOther, .masterArbitration, v => v.stopTimer
  | _, _, v => v

theorem GroupEvent.row_none {event : GroupEvent} {state : GroupState} (he : event.isPlain)
    (hs : state ≠ event.source) : groupFsmMatrix state event = (state, Option.none) := by
  cases event <;> first | exact absurd he id | skip
  all_goals cases state <;> first | rfl | exact absurd rfl hs

theorem GroupEvent.onView_same {event : GroupEvent} {state : GroupState} (hs : state ≠ event.source)
    (v : SharedView) : event.onView state v = v := by
  cases event <;> first | rfl | skip
  cases state <;> first | rfl | exact absurd rfl hs

section
variable (g : Nat) (now : UInt32) (unixMs : Nat → UInt64) {s s' : Scope} {event : GroupEvent}
  (he : event.isPlain)
include he

theorem event_sameFor (h : SameFor g s s') :
    SameFor g (clmIefbGroupFsmEvent g now unixMs event s)
      (clmIefbGroupFsmEvent g now unixMs event s') := by
  have hstate : s'.group.groupState = s.group.groupState := by rw [h.group]
  by_cases hs : s.group.groupState = event.source
  · cases event <;> first | exact absurd he id | skip
    · -- the arbitration is done
      rw [clmIefbGroupFsmEvent_arbitrationDone g now unixMs hs,
        clmIefbGroupFsmEvent_arbitrationDone g now unixMs (hstate.trans hs)]
      exact (((h.inState _).enterMasterState _).inState _).onLinkscanStart now unixMs
    · -- a request of another master
      rw [clmIefbGroupFsmEvent_reqFromOther g now unixMs hs,
        clmIefbGroupFsmEvent_reqFromOther g now unixMs (hstate.trans hs)]
      exact ((h.inState _).onArbitrationFailed now).onEntryListen
    · -- the constant link scan time is over
      rw [clmIefbGroupFsmEvent_linkscanStart g now unixMs hs,
        clmIefbGroupFsmEvent_linkscanStart g now unixMs (hstate.trans hs)]
      exact (h.inState _).onLinkscanStart now unixMs
    · -- the link scan times out
      rw [clmIefbGroupFsmEvent_timeout g now unixMs hs,
        clmIefbGroupFsmEvent_timeout g now unixMs (hstate.trans hs)]
      exact ((((h.inState _).endScan _ _).enterMasterState _).inState _).onLinkscanStart now unixMs
    · -- the link scan is complete
      have hcomplete : SameFor g (s.complete g) (s'.complete g) := by
        unfold Scope.complete
        rw [h.group]
        exact ((h.withGroup _).endScan _ _).enterMasterState _
      rw [clmIefbGroupFsmEvent_complete g now unixMs hs,
        clmIefbGroupFsmEvent_complete g now unixMs (hstate.trans hs), h.setting]
      split
      · exact hcomplete
      · exact (hcomplete.inState _).onLinkscanStart now unixMs
  · rw [clmIefbGroupFsmEvent_stay g now unixMs (event.row_none he hs),
      clmIefbGroupFsmEvent_stay g now unixMs (event.row_none he (by rw [hstate]; exact hs))]
    exact h

/-- what the event does to the shared data -/
theorem event_view :
    (clmIefbGroupFsmEvent g now unixMs event s).clm.view
      = event.onView s.group.groupState s.clm.view := by
  by_cases hs : s.group.groupState = event.source
  · cases event <;> first | exact absurd he id | skip
    · rw [clmIefbGroupFsmEvent_arbitrationDone g now unixMs hs]
      exact setMasterState_view _ _
    · rw [clmIefbGroupFsmEvent_reqFromOther g now unixMs hs, clmIefbGroupOnEntryListen_eq, hs]
      exact setMasterState_view _ _
    · rw [clmIefbGroupFsmEvent_linkscanStart g now unixMs hs]
      rfl
    · rw [clmIefbGroupFsmEvent_timeout g now unixMs hs]
      exact setMasterState_view _ _
    · rw [clmIefbGroupFsmEvent_complete g now unixMs hs]
      split <;> exact setMasterState_view _ _
  · rw [clmIefbGroupFsmEvent_stay g now unixMs (event.row_none he hs), event.onView_same hs]

end

/-! ## functions of all groups -/

/-- a scope of the group, with nothing else known of the shared data -/
def SharedView.scope (v : SharedView) (gd : GroupData) : Scope :=
  { clm :=
      { config := v.config, iefbBroadcastIp := v.iefbBroadcastIp
        latestConflictingMasterIp := v.latestConflictingMasterIp, masterState := .down
        parameterNo := v.parameterNo, masterLocalUnitInfo := v.masterLocalUnitInfo
        arbitrationTimer := v.arbitrationTimer, errorlimiter := ⟨.zero, 0, 0, 0, 0⟩ }
    group := gd
    out := [] }

theorem SharedView.scope_sameFor (g : Nat) (clm : ClmShared) (gd : GroupData) :
    SameFor g { clm := clm, group := gd, out := [] } (clm.view.scope gd) := ⟨rfl, rfl, rfl⟩

/-- the outputs are about the group or about none -/
def OwnOutputs (g : Nat) (s s' : Scope) : Prop :=
  ∃ o, s'.out = s.out ++ o ∧ ∀ x ∈ o, x.owner = none ∨ x.owner = some g

theorem OwnOutputs.other {g h : Nat} {s s' : Scope} (ho : OwnOutputs h s s') (hne : g ≠ h) :
    ofGroup g s'.out = ofGroup g s.out := by
  obtain ⟨o, ho, hown⟩ := ho
  rw [ho, ofGroup_append, ofGroup_other hne hown, List.append_nil]

theorem OwnOutputs.trans {g : Nat} {s t u : Scope} (h : OwnOutputs g s t) (h' : OwnOutputs g t u) :
    OwnOutputs g s u := by
  obtain ⟨o, ho, hown⟩ := h
  obtain ⟨o', ho', hown'⟩ := h'
  refine ⟨o ++ o', ?_, ?_⟩
  · rw [ho', ho, List.append_assoc]
  · intro x hx
    exact (List.mem_append.mp hx).elim (hown x) (hown' x)

theorem ScopeMoves.ownOutputs {cfg : Config} {g : Nat} {A : GroupInput → GroupData → Prop}
    {s s' : Scope} (h : ScopeMoves cfg g A s s') : OwnOutputs g s s' := by
  obtain ⟨_, o, ho, hown, _⟩ := h
  exact ⟨o, ho, hown⟩

/-- two masters, and two lists of outputs, that group `g` cannot tell apart -/
structure AgreeOn (g : Nat) (r r' : Clm × List Output) : Prop where
  view : r'.1.shared.view = r.1.shared.view
  aborted : r'.1.aborted = r.1.aborted
  group : r'.1.groups g = r.1.groups g
  out : ofGroup g r'.2 = ofGroup g r.2

theorem AgreeOn.append {g : Nat} {c c' : Clm} {o o' : List Output} {r r' : Clm × List Output}
    (h : AgreeOn g (c, o) (c', o')) (hr : AgreeOn g r r') :
    AgreeOn g (r.1, o ++ r.2) (r'.1, o' ++ r'.2) := by
  refine ⟨hr.view, hr.aborted, hr.group, ?_⟩
  show ofGroup g (o' ++ r'.2) = ofGroup g (o ++ r.2)
  rw [ofGroup_append, ofGroup_append, h.out, hr.out]

theorem AgreeOn.refl (g : Nat) (r : Clm × List Output) : AgreeOn g r r := ⟨rfl, rfl, rfl, rfl⟩

theorem AgreeOn.symm {g : Nat} {r r' : Clm × List Output} (h : AgreeOn g r r') : AgreeOn g r' r :=
  ⟨h.view.symm, h.aborted.symm, h.group.symm, h.out.symm⟩

theorem AgreeOn.trans {g : Nat} {r r' r'' : Clm × List Output} (h : AgreeOn g r r')
    (h' : AgreeOn g r' r'') : AgreeOn g r r'' :=
  ⟨h'.view.trans h.view, h'.aborted.trans h.aborted, h'.group.trans h.group, h'.out.trans h.out⟩

/-- without the outputs so far -/
theorem AgreeOn.now {g : Nat} {c c' : Clm} {o o' : List Output} (h : AgreeOn g (c, o) (c', o')) :
    AgreeOn g (c, []) (c', []) := ⟨h.view, h.aborted, h.group, rfl⟩

section
variable {g : Nat} {c : Clm} {f : Nat → Scope → Scope} {φ : SharedView → SharedView}

/-- what a function of all groups leaves for group `g`, where `φ` says what one round does to the
shared data -/
theorem forGroups_group (hg : g < c.numGroups)
    (hview : ∀ h s, h < c.numGroups → s.group = c.groups h → (f h s).clm.view = φ s.clm.view)
    (hout : ∀ h s, OwnOutputs h s (f h s))
    (hsame : ∀ s s', SameFor g s s' → SameFor g (f g s) (f g s')) :
    (c.forGroups f).1.shared.view = φ^[c.numGroups] c.shared.view
      ∧ (c.forGroups f).1.aborted = c.aborted
      ∧ (c.forGroups f).1.groups g = (f g ((φ^[g] c.shared.view).scope (c.groups g))).group
      ∧ ofGroup g (c.forGroups f).2
        = ofGroup g (f g ((φ^[g] c.shared.view).scope (c.groups g))).out := by
  obtain ⟨⟨hfinal, _, hmine⟩, haborted, hgroup, _⟩ := Clm.forGroups_inv (c := c) (f := f)
    (fun k clm out => clm.view = φ^[k] c.shared.view
      ∧ (k ≤ g → ofGroup g out = [])
      ∧ (g < k → ofGroup g out
        = ofGroup g (f g ((φ^[g] c.shared.view).scope (c.groups g))).out))
    (fun k gd gd' => k = g → gd' = (f g ((φ^[g] c.shared.view).scope gd)).group)
    ⟨rfl, fun _ => rfl, fun hk => absurd hk (Nat.not_lt_zero g)⟩
    (by
      rintro k clm out hk ⟨hclm, hbefore, hafter⟩
      have hround : k = g → SameFor g (f g { clm := clm, group := c.groups g, out := [] })
          (f g ((φ^[g] c.shared.view).scope (c.groups g))) := by
        rintro rfl
        rw [← hclm]
        exact hsame _ _ (SharedView.scope_sameFor k clm (c.groups k))
      refine ⟨⟨?_, ?_, ?_⟩, ?_⟩
      · rw [hview k _ hk rfl, Function.iterate_succ_apply', ← hclm]
      · intro hkg
        rw [ofGroup_append, hbefore (by omega), (hout k _).other (by omega)]
        rfl
      · intro hgk
        rw [ofGroup_append]
        rcases Nat.lt_succ_iff_lt_or_eq.mp hgk with hlt | rfl
        · rw [hafter hlt, (hout k _).other (by omega)]
          exact List.append_nil _
        · rw [hbefore (Nat.le_refl g), (hround rfl).out]
          rfl
      · rintro rfl
        exact (hround rfl).group.symm)
  exact ⟨hfinal, haborted, hgroup g hg rfl, hmine hg⟩

variable {c' : Clm}

/-- a function of all groups in two masters -/
theorem AgreeOn.forGroups (h : AgreeOn g (c, []) (c', [])) (hg : g < c.numGroups)
    (hview : ∀ h s, h < c.numGroups → s.group = c.groups h → (f h s).clm.view = φ s.clm.view)
    (hview' : ∀ h s, h < c'.numGroups → s.group = c'.groups h → (f h s).clm.view = φ s.clm.view)
    (hout : ∀ h s, OwnOutputs h s (f h s))
    (hsame : ∀ s s', SameFor g s s' → SameFor g (f g s) (f g s')) :
    AgreeOn g (c.forGroups f) (c'.forGroups f) := by
  have hn : c'.numGroups = c.numGroups :=
    congrArg (fun v : SharedView => v.config.hier.numberOfGroups.toNat) h.view
  have hg' : g < c'.numGroups := by
    rw [hn]
    exact hg
  have hv : c'.shared.view = c.shared.view := h.view
  have hgd : c'.groups g = c.groups g := h.group
  obtain ⟨h1, h2, h3, h4⟩ := forGroups_group hg hview hout hsame
  obtain ⟨h1', h2', h3', h4'⟩ := forGroups_group hg' hview' hout hsame
  rw [hn, hv] at h1'
  rw [hv, hgd] at h3' h4'
  exact ⟨h1'.trans h1.symm, h2'.trans (h.aborted.trans h2.symm), h3'.trans h3.symm,
    h4'.trans h4.symm⟩

end

section
variable (g : Nat) (now : UInt32) (unixMs : Nat → UInt64) {s s' : Scope}

theorem event_ownOutputs {event : GroupEvent}
    (he : event = .arbitrationDone ∨ event = .reqFromOther) (s : Scope) :
    OwnOutputs g s (clmIefbGroupFsmEvent g now unixMs event s) := by
  rcases he with rfl | rfl
  · exact (scopeMoves_arbitrationDone (A := fun _ _ => True) now unixMs rfl).ownOutputs
  · exact (scopeMoves_reqFromOther (A := fun _ _ => True) now unixMs rfl).ownOutputs

theorem monitorGroupTimers_sameFor (h : SameFor g s s') :
    SameFor g (monitorGroupTimers g now unixMs s) (monitorGroupTimers g now unixMs s') := by
  have h1 : SameFor g
      (if clTimerIsExpired s.group.responseWaitTimer now then
        clmIefbGroupFsmEvent g now unixMs .linkscanTimeout { s with group := { s.group with
          responseWaitTimer := clTimerStop s.group.responseWaitTimer } }
      else s)
      (if clTimerIsExpired s'.group.responseWaitTimer now then
        clmIefbGroupFsmEvent g now unixMs .linkscanTimeout { s' with group := { s'.group with
          responseWaitTimer := clTimerStop s'.group.responseWaitTimer } }
      else s') := by
    rw [h.group]
    split
    · exact event_sameFor g now unixMs trivial (h.withGroup _)
    · exact h
  unfold monitorGroupTimers
  generalize (if clTimerIsExpired s.group.responseWaitTimer now then
      clmIefbGroupFsmEvent g now unixMs .linkscanTimeout { s with group := { s.group with
        responseWaitTimer := clTimerStop s.group.responseWaitTimer } }
    else s) = t at h1 ⊢
  generalize (if clTimerIsExpired s'.group.responseWaitTimer now then
      clmIefbGroupFsmEvent g now unixMs .linkscanTimeout { s' with group := { s'.group with
        responseWaitTimer := clTimerStop s'.group.responseWaitTimer } }
    else s') = t' at h1 ⊢
  simp only
  rw [h1.group]
  split
  · exact event_sameFor g now unixMs trivial (h1.withGroup _)
  · exact h1

theorem monitorGroupTimers_view (s : Scope) :
    (monitorGroupTimers g now unixMs s).clm.view = s.clm.view := by
  have h1 : (if clTimerIsExpired s.group.responseWaitTimer now then
        clmIefbGroupFsmEvent g now unixMs .linkscanTimeout { s with group := { s.group with
          responseWaitTimer := clTimerStop s.group.responseWaitTimer } }
      else s).clm.view = s.clm.view := by
    split
    · rw [event_view g now unixMs (show GroupEvent.linkscanTimeout.isPlain from trivial)]
      rfl
    · rfl
  unfold monitorGroupTimers
  generalize (if clTimerIsExpired s.group.responseWaitTimer now then
      clmIefbGroupFsmEvent g now unixMs .linkscanTimeout { s with group := { s.group with
        responseWaitTimer := clTimerStop s.group.responseWaitTimer } }
    else s) = t at h1 ⊢
  simp only
  split
  · rw [event_view g now unixMs (show GroupEvent.linkscanStart.isPlain from trivial)]
    exact h1
  · exact h1

end

/-- what an event of all groups does to the shared data in each round -/
def GroupEvent.onPhase : GroupEvent → Phase → SharedView → SharedView
  | reqFromOther, .arbitration, v => v.stopTimer
  | _, _, v => v

theorem GroupEvent.onView_phase {event : GroupEvent} {state : GroupState} {P : Phase}
    (hp : state.phase = some P) (v : SharedView) : event.onView state v = event.onPhase P v := by
  cases event <;> first | rfl | skip
  cases state <;> cases hp <;> rfl

section
variable {g : Nat} {c c' : Clm} {P : Phase} (now : UInt32) (unixMs : Nat → UInt64)
  (h : AgreeOn g (c, []) (c', [])) (hg : g < c.numGroups)
include h hg

theorem AgreeOn.eventAll {event : GroupEvent}
    (he : event = .arbitrationDone ∨ event = .reqFromOther) (hp : InPhase P c) (hp' : InPhase P c') :
    AgreeOn g (clmIefbGroupFsmEventAll now unixMs event c)
      (clmIefbGroupFsmEventAll now unixMs event c') := by
  have hplain : event.isPlain := by
    rcases he with rfl | rfl <;> exact trivial
  refine h.forGroups (φ := event.onPhase P) hg ?_ ?_ ?_ ?_
  · intro k s hk hs
    rw [event_view k now unixMs hplain, hs]
    exact event.onView_phase (hp.phase k hk) _
  · intro k s hk hs
    rw [event_view k now unixMs hplain, hs]
    exact event.onView_phase (hp'.phase k hk) _
  · exact fun k => event_ownOutputs k now unixMs he
  · exact fun s s' => event_sameFor g now unixMs hplain

theorem AgreeOn.monitor :
    AgreeOn g (clmIefbMonitorAllGroupTimers now unixMs c) (clmIefbMonitorAllGroupTimers now unixMs c') := by
  refine h.forGroups (φ := id) hg ?_ ?_ ?_ ?_
  · exact fun k s _ _ => monitorGroupTimers_view k now unixMs s
  · exact fun k s _ _ => monitorGroupTimers_view k now unixMs s
  · exact fun k s => (scopeMoves_monitorGroupTimers (A := fun _ _ => True) now unixMs rfl).ownOutputs
  · exact fun s s' => monitorGroupTimers_sameFor g now unixMs

theorem AgreeOn.periodicTimers (hp : InPhase P c) (hp' : InPhase P c') :
    AgreeOn g (clmIefbPeriodicTimers now unixMs c) (clmIefbPeriodicTimers now unixMs c') := by
  have hv : c'.shared.view = c.shared.view := h.view
  have htimer : c'.shared.arbitrationTimer = c.shared.arbitrationTimer :=
    congrArg SharedView.arbitrationTimer hv
  unfold clmIefbPeriodicTimers
  simp only
  by_cases hx : clTimerIsExpired c.shared.arbitrationTimer now = true
  · rw [if_pos hx, if_pos (by rw [htimer]; exact hx)]
    have hstopped : AgreeOn g
        ({ c with shared := { c.shared with
          errorlimiter := clLimiterPeriodic c.shared.errorlimiter now
          arbitrationTimer := clTimerStop c.shared.arbitrationTimer } }, [])
        ({ c' with shared := { c'.shared with
          errorlimiter := clLimiterPeriodic c'.shared.errorlimiter now
          arbitrationTimer := clTimerStop c'.shared.arbitrationTimer } }, []) := by
      refine ⟨?_, h.aborted, h.group, rfl⟩
      show c'.shared.view.stopTimer = c.shared.view.stopTimer
      rw [hv]
    have hall := hstopped.eventAll now unixMs hg (Or.inl rfl)
      (hp.congr rfl rfl (fun _ _ h1 h2 => ⟨h1, h2⟩)) (hp'.congr rfl rfl (fun _ _ h1 h2 => ⟨h1, h2⟩))
    refine hall.append (AgreeOn.monitor now unixMs ⟨hall.view, hall.aborted, hall.group, rfl⟩ ?_)
    have hconfig := (clmMoves_eventAll (A := fun _ _ _ => True)
      (c := { c with shared := { c.shared with
        errorlimiter := clLimiterPeriodic c.shared.errorlimiter now
        arbitrationTimer := clTimerStop c.shared.arbitrationTimer } }) now unixMs .arbitrationDone
      (fun _ _ hs => scopeMoves_arbitrationDone now unixMs hs)).config
    rw [Clm.numGroups, hconfig]
    exact hg
  · rw [if_neg hx, if_neg (by rw [htimer]; exact hx)]
    have hlimiter : AgreeOn g
        ({ c with shared := { c.shared with
          errorlimiter := clLimiterPeriodic c.shared.errorlimiter now } }, [])
        ({ c' with shared := { c'.shared with
          errorlimiter := clLimiterPeriodic c'.shared.errorlimiter now } }, []) :=
      ⟨hv, h.aborted, h.group, rfl⟩
    exact hlimiter.append (hlimiter.monitor now unixMs hg)

end

/-! ## responses -/

/-- `handleDeviceResponse` for the scope of the group, without the alarm about the master -/
def respond (g d : Nat) (now : UInt32) (unixMs : Nat → UInt64) (r : CyclicResponse) (s : Scope) :
    Scope :=
  let check := checkResponse g d now r s
  if check.2 = false then check.1
  else receiveResponse g d now unixMs r (storeResponse g d r check.1)

/-- a stored response that reports a second master -/
def Output.isMasterDuplication : Output → Bool
  | stored _ _ r _ => r.fullHeaders.cyclicHeader.endCode = endcodeMasterDuplication
  | _ => false

section
variable {g d : Nat} (now : UInt32) (unixMs : Nat → UInt64) {r : CyclicResponse} {s s' : Scope}

theorem ErrorsOnly.view {s s' : Scope} (h : ErrorsOnly s s') : s'.clm.view = s.clm.view := by
  obtain ⟨limiter, hl⟩ := h.limiter
  rw [hl]
  rfl

theorem ErrorsOnly.noOwner {s s' : Scope} (h : ErrorsOnly s s') :
    ∃ o, s'.out = s.out ++ o ∧ ∀ x ∈ o, x.owner = none := by
  obtain ⟨o, ho, herr⟩ := h.out
  refine ⟨o, ho, ?_⟩
  intro x hx
  obtain ⟨_, _, _, rfl⟩ := herr x hx
  rfl

theorem SameFor.check (h : SameFor g s s') :
    SameFor g (checkResponse g d now r s).1 (checkResponse g d now r s').1
      ∧ (checkResponse g d now r s').2 = (checkResponse g d now r s).2 := by
  obtain ⟨hspec, hcheck⟩ := checkResponse_spec g d now r s
  obtain ⟨hspec', hcheck'⟩ := checkResponse_spec g d now r s'
  rw [h.setting, h.group] at hspec' hcheck'
  have herr := checkResponse_errorsOnly g d now r s
  have herr' := checkResponse_errorsOnly g d now r s'
  obtain ⟨o, ho, hown⟩ := herr.noOwner
  obtain ⟨o', ho', hown'⟩ := herr'.noOwner
  refine ⟨⟨?_, ?_, ?_⟩, hcheck'.trans hcheck.symm⟩
  · exact herr'.view.trans (h.view.trans herr.view.symm)
  · exact hspec'.group.trans hspec.group.symm
  · rw [ho, ho', ofGroup_append_none hown, ofGroup_append_none hown']
    exact h.out

theorem SameFor.store (h : SameFor g s s') :
    SameFor g (storeResponse g d r s) (storeResponse g d r s') := by
  rw [storeResponse_eq, storeResponse_eq, h.setting, h.group, h.config]
  exact h.step _ _

theorem SameFor.receive (hr : r.fullHeaders.cyclicHeader.endCode ≠ endcodeMasterDuplication)
    (h : SameFor g s s') :
    SameFor g (receiveResponse g d now unixMs r s) (receiveResponse g d now unixMs r s') := by
  rw [receiveResponse_eq now unixMs hr, receiveResponse_eq now unixMs hr, h.setting, h.group]
  split
  · exact event_sameFor g now unixMs trivial (h.withGroup _)
  · exact h.withGroup _

theorem SameFor.respond
    (hr : (checkResponse g d now r s).2 = true →
      r.fullHeaders.cyclicHeader.endCode ≠ endcodeMasterDuplication) (h : SameFor g s s') :
    SameFor g (CLink.respond g d now unixMs r s) (CLink.respond g d now unixMs r s') := by
  obtain ⟨hchecked, hflag⟩ := h.check (d := d) (r := r) now
  unfold CLink.respond
  simp only
  rw [hflag]
  split
  · exact hchecked
  · rename_i hc
    exact hchecked.store.receive now unixMs (hr ((Bool.not_eq_false _).mp hc))

theorem storeResponse_ownOutputs (g d : Nat) (r : CyclicResponse) (s : Scope) :
    OwnOutputs g s (storeResponse g d r s) := by
  rw [storeResponse_eq]
  refine ⟨_, rfl, ?_⟩
  intro x hx
  rcases List.mem_append.mp hx with hx | hx
  · exact Or.inr (reports_spec g d r _ x hx).1
  · rw [List.mem_singleton.mp hx]
    exact Or.inr rfl

/-- the response of a device of another group -/
theorem respond_other (s : Scope)
    (hr : (checkResponse g d now r s).2 = true →
      r.fullHeaders.cyclicHeader.endCode ≠ endcodeMasterDuplication) :
    (respond g d now unixMs r s).clm.view = s.clm.view
      ∧ OwnOutputs g s (respond g d now unixMs r s) := by
  have herr := checkResponse_errorsOnly g d now r s
  have hchecked : OwnOutputs g s (checkResponse g d now r s).1 := by
    obtain ⟨o, ho, hown⟩ := herr.noOwner
    exact ⟨o, ho, fun x hx => Or.inl (hown x hx)⟩
  unfold respond
  simp only
  split
  · exact ⟨herr.view, hchecked⟩
  rename_i hc
  have hc' : (checkResponse g d now r s).2 = true := (Bool.not_eq_false _).mp hc
  have hstored : OwnOutputs g s (storeResponse g d r (checkResponse g d now r s).1) :=
    hchecked.trans (storeResponse_ownOutputs g d r _)
  have hclm : (storeResponse g d r (checkResponse g d now r s).1).clm.view = s.clm.view := by
    rw [storeResponse_eq]
    exact herr.view
  rw [receiveResponse_eq now unixMs (hr hc')]
  generalize storeResponse g d r (checkResponse g d now r s).1 = t at hstored hclm ⊢
  split
  · rename_i hall
    refine ⟨?_, hstored.trans ?_⟩
    · rw [event_view g now unixMs (show GroupEvent.linkscanComplete.isPlain from trivial)]
      exact hclm
    · exact (scopeMoves_complete (A := fun _ _ => True)
        (s := { t with group := t.group.modifyDevice d (deviceResponse (t.setting g) r) })
        now unixMs rfl hall).ownOutputs
  · exact ⟨hclm, hstored⟩

/-- without the alarm about the master the response concerns one group -/
theorem handleDeviceResponse_respond {c : Clm}
    (hno : ∀ x ∈ (handleDeviceResponse g d now unixMs r c).2.1, x.isMasterDuplication = false) :
    ((checkResponse g d now r (c.scope g)).2 = true →
        r.fullHeaders.cyclicHeader.endCode ≠ endcodeMasterDuplication)
      ∧ (handleDeviceResponse g d now unixMs r c).1
        = (c.setScope g (respond g d now unixMs r (c.scope g))).1
      ∧ (handleDeviceResponse g d now unixMs r c).2.1
        = (c.setScope g (respond g d now unixMs r (c.scope g))).2 := by
  have hcode : (checkResponse g d now r (c.scope g)).2 = true →
      r.fullHeaders.cyclicHeader.endCode ≠ endcodeMasterDuplication := by
    intro hc hr
    have hmem : Output.stored g d r
        ((checkResponse g d now r (c.scope g)).1.group.slaveDevices d).transmissionBit
          ∈ (handleDeviceResponse g d now unixMs r c).2.1 := by
      unfold handleDeviceResponse
      simp only
      rw [if_neg (by rw [hc]; simp), if_pos hr, storeResponse_eq]
      apply List.mem_append_left
      exact List.mem_append_right _ (List.mem_append_right _ (List.mem_singleton_self _))
    have hfalse := hno _ hmem
    simp [Output.isMasterDuplication, hr] at hfalse
  refine ⟨hcode, ?_⟩
  unfold handleDeviceResponse respond
  simp only
  split
  · exact ⟨rfl, rfl⟩
  · rename_i hc
    rw [if_neg (hcode ((Bool.not_eq_false _).mp hc))]
    exact ⟨rfl, rfl⟩

end

section
variable {g : Nat} {c c' : Clm} (now : UInt32) (unixMs : Nat → UInt64) {d : Nat} {r : CyclicResponse}

theorem AgreeOn.handleDeviceResponse (h : AgreeOn g (c, []) (c', []))
    (hno : ∀ x ∈ (handleDeviceResponse g d now unixMs r c).2.1, x.isMasterDuplication = false)
    (hno' : ∀ x ∈ (CLink.handleDeviceResponse g d now unixMs r c').2.1, x.isMasterDuplication = false) :
    AgreeOn g
      ((CLink.handleDeviceResponse g d now unixMs r c).1,
        (CLink.handleDeviceResponse g d now unixMs r c).2.1)
      ((CLink.handleDeviceResponse g d now unixMs r c').1,
        (CLink.handleDeviceResponse g d now unixMs r c').2.1) := by
  obtain ⟨hcode, hstate, hout⟩ := handleDeviceResponse_respond now unixMs hno
  obtain ⟨_, hstate', hout'⟩ := handleDeviceResponse_respond now unixMs hno'
  have hscope : SameFor g (c.scope g) (c'.scope g) := ⟨h.view, h.group, rfl⟩
  have hresp := hscope.respond now unixMs hcode
  rw [hstate, hout, hstate', hout']
  refine ⟨hresp.view, h.aborted, ?_, hresp.out⟩
  show Function.update c'.groups g _ g = Function.update c.groups g _ g
  rw [Function.update_self, Function.update_self]
  exact hresp.group

/-- the response of a device of group `k`, for group `g` -/
theorem handleDeviceResponse_other {k : Nat} (hne : g ≠ k)
    (hno : ∀ x ∈ (handleDeviceResponse k d now unixMs r c).2.1, x.isMasterDuplication = false) :
    AgreeOn g (c, [])
      ((handleDeviceResponse k d now unixMs r c).1, (handleDeviceResponse k d now unixMs r c).2.1) := by
  obtain ⟨hcode, hstate, hout⟩ := handleDeviceResponse_respond now unixMs hno
  obtain ⟨hview, hown⟩ := respond_other now unixMs (c.scope k) hcode
  rw [hstate, hout]
  refine ⟨hview, rfl, ?_, ?_⟩
  · exact Function.update_of_ne hne _ _
  · exact hown.other hne

end

/-! ## steps -/

/-- the datagram ends the program -/
def clmInputAborts (cfg : Config) (now : UInt32) (dg : Datagram) (remoteIp : IpAddr)
    (remotePort : UInt16) : Bool :=
  if remoteIp = cfg.masterId ∨ cfg.masterId = ipaddrInvalid then false
  else
    match clmIefbInputResponse dg remoteIp remotePort now with
    | .error .assertFailed => true
    | _ => false

/-- responses for and calls about other groups than `g` -/
def Event.elsewhere (g : Nat) : Event → Bool
  | frame now _ dg remoteIp remotePort =>
    match clmIefbInputResponse dg remoteIp remotePort now with
    | .ok r => r.fullHeaders.cyclicDataHeader.groupNo.toNat - 1 ≠ g
    | .error _ => false
  | setSlaveCommunicationStatus h _ _ => h ≠ g
  | forceCyclicTransmissionBit h _ _ => h ≠ g
  | writeMemoryArea h _ _ => h ≠ g
  | _ => false

theorem handleInputFrame_aborted (c : Clm) (now : UInt32) (unixMs : Nat → UInt64) (dg : Datagram)
    (remoteIp : IpAddr) (remotePort : UInt16) :
    (clmIefbHandleInputFrame now unixMs dg remoteIp remotePort c).1.aborted
      = (c.aborted || clmInputAborts c.shared.config now dg remoteIp remotePort) := by
  have hall : ∀ (event : GroupEvent) (t : Clm),
      (clmIefbGroupFsmEventAll now unixMs event t).1.aborted = t.aborted := by
    intro event t
    exact (Clm.forGroups_inv (c := t) (f := fun g => clmIefbGroupFsmEvent g now unixMs event)
      (fun _ _ _ => True) (fun _ _ _ => True) trivial (fun _ _ _ _ _ => ⟨trivial, trivial⟩)).2.1
  have hresponse : ∀ (g d : Nat) (r : CyclicResponse),
      (handleDeviceResponse g d now unixMs r c).1.aborted = c.aborted := by
    intro g d r
    unfold handleDeviceResponse
    simp only
    split
    · rfl
    · split
      · exact hall _ _
      · rfl
  unfold clmIefbHandleInputFrame clmInputAborts clmIefbInputResponse
  by_cases hm : remoteIp = c.shared.config.masterId
  · rw [if_pos hm, if_pos (Or.inl hm), Bool.or_false]
  rw [if_neg hm]
  cases hh : clIefbParseResponseHeader dg with
  | none => simp [hm]
  | some header =>
    simp only
    by_cases hv : clIefbValidateResponseHeader header dg.len = true
    · rw [if_pos hv, if_neg (not_not.mpr hv)]
      unfold clmIefbHandleResponseFrame
      by_cases hinv : c.shared.config.masterId = ipaddrInvalid
      · rw [if_pos hinv, if_pos (Or.inr hinv), Bool.or_false]
      rw [if_neg hinv, if_neg (not_or.mpr ⟨hm, hinv⟩)]
      cases hp : clIefbParseCyclicResponse dg remoteIp remotePort now with
      | error e => cases e <;> simp
      | ok r =>
        simp only [Bool.or_false]
        split
        · rfl
        · split
          · rfl
          · exact hresponse _ _ _
    · rw [if_neg hv, if_pos hv]
      split
      · simp only [ite_self, Bool.or_false]
        exact hall _ _
      · simp

theorem clmIefbStatisticsClearAll_eq (c : Clm) :
    clmIefbStatisticsClearAll c
      = { c with groups := fun g =>
          if g < c.numGroups then (c.groups g).clearStatistics (c.setting g) else c.groups g } := by
  refine loop_inv (n := c.numGroups)
    (f := fun g t =>
      let gd := loop (fun d gd => gd.modifyDevice d (fun dev => { dev with
        statistics := clmIefbStatisticsClear dev.statistics
        latestFrame := clmIefbLatestReceivedClear dev.latestFrame }))
        (t.setting g).numSlaveDevices.toNat (t.groups g)
      { t with groups := Function.update t.groups g gd }) (s := c)
    (fun k t => t = { c with groups := fun g =>
      if g < k then (c.groups g).clearStatistics (c.setting g) else c.groups g }) ?_ ?_
  · simp only [Nat.not_lt_zero, if_false]
  · rintro k t hk rfl
    simp only [loop_modifyDevice, Clm.mk.injEq, true_and, and_true, Nat.lt_irrefl, if_false]
    funext g
    by_cases hgk : g = k
    · rw [hgk, Function.update_self, if_pos (Nat.lt_succ_self k)]
      rfl
    · have hiff : (g < k + 1) ↔ (g < k) := by omega
      rw [Function.update_of_ne hgk]
      simp only [hiff]

section
variable {g : Nat} {c c' : Clm}

theorem AgreeOn.modifyDevice (h : AgreeOn g (c, []) (c', [])) (d : Nat)
    (f : SlaveDeviceData → SlaveDeviceData) :
    AgreeOn g (c.modifyDevice g d f, []) (c'.modifyDevice g d f, []) := by
  have hconfig : c'.shared.config = c.shared.config := congrArg SharedView.config h.view
  have hset : c'.setting g = c.setting g := by
    rw [Clm.setting, hconfig]
    rfl
  have hn : c'.numGroups = c.numGroups := by
    rw [Clm.numGroups, hconfig]
    rfl
  unfold Clm.modifyDevice
  rw [hset, hn]
  split
  · exact h
  · refine ⟨h.view, h.aborted, ?_, rfl⟩
    show Function.update c'.groups g _ g = Function.update c.groups g _ g
    rw [Function.update_self, Function.update_self, show c'.groups g = c.groups g from h.group]

theorem modifyDevice_elsewhere {k : Nat} (hne : k ≠ g) (d : Nat) (f : SlaveDeviceData → SlaveDeviceData) :
    AgreeOn g (c, []) (c.modifyDevice k d f, []) := by
  unfold Clm.modifyDevice
  split
  · exact .refl g _
  · exact ⟨rfl, rfl, Function.update_of_ne hne.symm _ _, rfl⟩

/-- the group number of a response decides about its group -/
theorem clmResponse_some {now : UInt32} {dg : Datagram} {remoteIp : IpAddr} {remotePort : UInt16}
    {k d : Nat} {r : CyclicResponse} (h : clmResponse c now dg remoteIp remotePort = some (k, d, r)) :
    clmIefbInputResponse dg remoteIp remotePort now = .ok r
      ∧ k = r.fullHeaders.cyclicDataHeader.groupNo.toNat - 1
      ∧ ((c.setting k).slaveDevices d).slaveId = remoteIp := by
  unfold clmResponse at h
  split at h
  · cases h
  cases hin : clmIefbInputResponse dg remoteIp remotePort now with
  | error e =>
    rw [hin] at h
    cases h
  | ok r' =>
    rw [hin] at h
    simp only at h
    split at h
    · cases h
    · obtain ⟨d', hd', heq⟩ := Option.map_eq_some_iff.mp h
      cases heq
      exact ⟨rfl, rfl, (clmIefbCalcSlaveDeviceIndex_some hd').2⟩

/-- an event elsewhere -/
theorem step_elsewhere (c : Clm) {e : Event} (he : e.elsewhere g = true)
    (hno : ∀ x ∈ (clmStep c e).2, x.isMasterDuplication = false) :
    AgreeOn g (c, []) (clmStep c e) := by
  revert hno
  unfold clmStep
  split
  · intro _
    exact .refl g _
  cases e with
  | tick => cases he
  | statisticsClearAll => cases he
  | setMasterApplicationStatus => cases he
  | setSlaveCommunicationStatus k d enabled =>
    intro _
    exact modifyDevice_elsewhere (of_decide_eq_true he) d _
  | forceCyclicTransmissionBit k d force =>
    intro _
    exact modifyDevice_elsewhere (of_decide_eq_true he) d _
  | writeMemoryArea k ry rww =>
    intro _
    have hne : k ≠ g := of_decide_eq_true he
    show AgreeOn g (c, []) (writeMemoryArea k ry rww c, [])
    unfold writeMemoryArea
    split
    · exact .refl g _
    · exact ⟨rfl, rfl, Function.update_of_ne hne.symm _ _, rfl⟩
  | frame now unixMs dg remoteIp remotePort =>
    have hparsed : ∃ r, clmIefbInputResponse dg remoteIp remotePort now = .ok r
        ∧ r.fullHeaders.cyclicDataHeader.groupNo.toNat - 1 ≠ g := by
      cases hin : clmIefbInputResponse dg remoteIp remotePort now with
      | error _ => simp [Event.elsewhere, hin] at he
      | ok r =>
        refine ⟨r, rfl, ?_⟩
        simpa [Event.elsewhere, hin] using he
    obtain ⟨r, hin, hne⟩ := hparsed
    have haborts : clmInputAborts c.shared.config now dg remoteIp remotePort = false := by
      unfold clmInputAborts
      rw [hin]
      exact ite_self _
    have haborted := handleInputFrame_aborted c now unixMs dg remoteIp remotePort
    rw [haborts, Bool.or_false] at haborted
    have hcases := clmIefbHandleInputFrame_cases c now unixMs dg remoteIp remotePort
    simp only
    generalize clmIefbHandleInputFrame now unixMs dg remoteIp remotePort c = t at hcases haborted ⊢
    cases hcases with
    | response k d r' hk hd hid hr hf =>
      intro hno
      obtain ⟨hin', hkg, _⟩ := clmResponse_some hr
      rw [hin] at hin'
      cases hin'
      exact handleDeviceResponse_other now unixMs (by rw [hkg]; exact hne.symm) hno
    | request hr hf =>
      have hv : clmForeignRequest c dg remoteIp = false := by
        unfold clmIefbInputResponse at hin
        unfold clmForeignRequest
        cases hh : clIefbParseResponseHeader dg with
        | none => simp
        | some header =>
          rw [hh] at hin
          simp only at hin
          split at hin
          · cases hin
          · rename_i hv
            simp [not_not.mp hv]
      rw [hf] at hv
      cases hv
    | dropped aborted value hr hf =>
      intro _
      exact ⟨rfl, haborted, rfl, rfl⟩

/-- any other event, in two masters -/
theorem AgreeOn.step {P : Phase} (h : AgreeOn g (c, []) (c', [])) (hg : g < c.numGroups)
    (hp : InPhase P c) (hp' : InPhase P c') {e : Event} (he : e.elsewhere g = false)
    (hno : ∀ x ∈ (clmStep c e).2, x.isMasterDuplication = false)
    (hno' : ∀ x ∈ (clmStep c' e).2, x.isMasterDuplication = false) :
    AgreeOn g (clmStep c e) (clmStep c' e) := by
  have hv : c'.shared.view = c.shared.view := h.view
  have hconfig : c'.shared.config = c.shared.config := congrArg SharedView.config hv
  have haborted : c'.aborted = c.aborted := h.aborted
  have hgd : c'.groups g = c.groups g := h.group
  revert hno hno'
  unfold clmStep
  rw [haborted]
  split
  · intro _ _
    exact h
  cases e with
  | tick now unixMs =>
    intro _ _
    exact h.periodicTimers now unixMs hg hp hp'
  | statisticsClearAll =>
    intro _ _
    simp only [clmIefbStatisticsClearAll_eq]
    refine ⟨hv, haborted, ?_, rfl⟩
    simp only [Clm.numGroups, Clm.setting, hconfig, hgd]
    rfl
  | setMasterApplicationStatus running stoppedByUser =>
    intro _ _
    refine ⟨?_, haborted, hgd, rfl⟩
    show ({ c'.shared.view with
        masterLocalUnitInfo := clmIefbCalcMasterLocalUnitInfo c'.shared.config.protocolVer running
          stoppedByUser } : SharedView)
      = { c.shared.view with
        masterLocalUnitInfo := clmIefbCalcMasterLocalUnitInfo c.shared.config.protocolVer running
          stoppedByUser }
    rw [hv, hconfig]
  | setSlaveCommunicationStatus k d enabled =>
    intro _ _
    obtain rfl : k = g := not_not.mp (of_decide_eq_false he)
    exact h.modifyDevice d _
  | forceCyclicTransmissionBit k d force =>
    intro _ _
    obtain rfl : k = g := not_not.mp (of_decide_eq_false he)
    exact h.modifyDevice d _
  | writeMemoryArea k ry rww =>
    intro _ _
    obtain rfl : k = g := not_not.mp (of_decide_eq_false he)
    show AgreeOn k (writeMemoryArea k ry rww c, []) (writeMemoryArea k ry rww c', [])
    unfold writeMemoryArea
    rw [show c'.numGroups = c.numGroups by simp only [Clm.numGroups, hconfig]]
    split
    · exact h
    · refine ⟨hv, haborted, ?_, rfl⟩
      show Function.update c'.groups k _ k = Function.update c.groups k _ k
      rw [Function.update_self, Function.update_self, hgd]
  | frame now unixMs dg remoteIp remotePort =>
    have hresp : clmResponse c' now dg remoteIp remotePort = clmResponse c now dg remoteIp remotePort := by
      simp only [clmResponse, Clm.setting, hconfig]
    have hforeign : clmForeignRequest c' dg remoteIp = clmForeignRequest c dg remoteIp := by
      simp only [clmForeignRequest, hconfig]
    have haborts := handleInputFrame_aborted c now unixMs dg remoteIp remotePort
    have haborts' := handleInputFrame_aborted c' now unixMs dg remoteIp remotePort
    rw [hconfig, haborted, ← haborts] at haborts'
    have hcases := clmIefbHandleInputFrame_cases c now unixMs dg remoteIp remotePort
    have hcases' := clmIefbHandleInputFrame_cases c' now unixMs dg remoteIp remotePort
    simp only
    generalize clmIefbHandleInputFrame now unixMs dg remoteIp remotePort c = t at hcases haborts' ⊢
    generalize clmIefbHandleInputFrame now unixMs dg remoteIp remotePort c' = t' at hcases' haborts' ⊢
    cases hcases with
    | response k d r hk hd hid hr hf =>
      cases hcases' with
      | response k' d' r' hk' hd' hid' hr' hf' =>
        rw [hresp, hr] at hr'
        cases hr'
        intro hno hno'
        by_cases hkg : k = g
        · rw [hkg] at hno hno' ⊢
          exact h.handleDeviceResponse now unixMs hno hno'
        · obtain ⟨hin, hk, _⟩ := clmResponse_some hr
          rw [hk] at hkg
          simp [Event.elsewhere, hin, hkg] at he
      | request hr' hf' =>
        rw [hresp, hr] at hr'
        cases hr'
      | dropped aborted' value' hr' hf' =>
        rw [hresp, hr] at hr'
        cases hr'
    | request hr hf =>
      cases hcases' with
      | response k' d' r' hk' hd' hid' hr' hf' =>
        rw [hresp, hr] at hr'
        cases hr'
      | request hr' hf' =>
        intro _ _
        have hasked : AgreeOn g
            ({ c with shared := { c.shared with latestConflictingMasterIp := remoteIp } }, [])
            ({ c' with shared := { c'.shared with latestConflictingMasterIp := remoteIp } }, []) := by
          refine ⟨?_, haborted, hgd, rfl⟩
          show ({ c'.shared.view with latestConflictingMasterIp := remoteIp } : SharedView)
            = { c.shared.view with latestConflictingMasterIp := remoteIp }
          rw [hv]
        exact hasked.eventAll now unixMs hg (Or.inr rfl)
          (hp.congr rfl rfl (fun _ _ h1 h2 => ⟨h1, h2⟩))
          (hp'.congr rfl rfl (fun _ _ h1 h2 => ⟨h1, h2⟩))
      | dropped aborted' value' hr' hf' =>
        rw [hforeign, hf] at hf'
        cases hf'
    | dropped aborted value hr hf =>
      cases hcases' with
      | response k' d' r' hk' hd' hid' hr' hf' =>
        rw [hresp, hr] at hr'
        cases hr'
      | request hr' hf' =>
        rw [hforeign, hf] at hf'
        cases hf'
      | dropped aborted' value' hr' hf' =>
        intro _ _
        exact ⟨hv, haborts', hgd, rfl⟩

end

/-! ## runs -/

/-- two runs that agree on group `g` and on the shared data apart from the error limiter -/
structure SameGroup (g : Nat) (r r' : Clm × List Output) : Prop where
  group : r'.1.groups g = r.1.groups g
  shared : r'.1.shared = { r.1.shared with errorlimiter := r'.1.shared.errorlimiter }
  frames : r'.2.filter (Output.isRequest g) = r.2.filter (Output.isRequest g)
  outputs : ofGroup g r'.2 = ofGroup g r.2

theorem shared_of_view {clm clm' : ClmShared} (hv : clm'.view = clm.view)
    (hm : clm'.masterState = clm.masterState) :
    clm' = { clm with errorlimiter := clm'.errorlimiter } := by
  obtain ⟨_, _, _, _, _, _, _, _⟩ := clm
  obtain ⟨_, _, _, _, _, _, _, _⟩ := clm'
  simp only [ClmShared.view, SharedView.mk.injEq] at hv
  obtain ⟨rfl, rfl, rfl, rfl, rfl, rfl⟩ := hv
  obtain rfl := hm
  rfl

namespace MasterStart
variable {o : Options} (st : MasterStart o)

/-- one of two runs, at rest -/
structure AtRest (c : Clm) : Prop where
  config : c.shared.config = st.vc.cfg
  phase : ∃ P, InPhase P c

variable {st} in
theorem AtRest.step {c : Clm} (h : st.AtRest c) (e : Event) : st.AtRest (clmStep c e).1 := by
  obtain ⟨P, hp⟩ := h.phase
  have hn : c.numGroups = st.vc.numGroups := by
    rw [Clm.numGroups, h.config]
  obtain ⟨P', hstep⟩ := clmStep_lockstep (o := o) hp (by rw [hn]; exact st.vc.numGroups_pos)
    (by
      intro g hg
      rw [Clm.setting, h.config]
      exact st.vc.group (hn ▸ hg)) e
  exact ⟨hstep.config.trans h.config, P', hstep.after⟩

/-- the relation of the two runs -/
structure RunsAgree (g : Nat) (hist : List Output) (c : Clm) (hist' : List Output) (c' : Clm) :
    Prop where
  left : st.AtRest c
  right : st.AtRest c'
  agree : AgreeOn g (c, hist) (c', hist')

variable {st} in
/-- group `g` tells the phase -/
theorem RunsAgree.phase {g : Nat} (hg : g < st.vc.numGroups) {hist hist' : List Output} {c c' : Clm}
    (h : st.RunsAgree g hist c hist' c') : ∃ P, InPhase P c ∧ InPhase P c' := by
  obtain ⟨hl, hr, ha⟩ := h
  obtain ⟨P, hp⟩ := hl.phase
  obtain ⟨P', hp'⟩ := hr.phase
  have h1 := hp.phase g (by rw [Clm.numGroups, hl.config]; exact hg)
  have h2 := hp'.phase g (by rw [Clm.numGroups, hr.config]; exact hg)
  rw [show c'.groups g = c.groups g from ha.group, h1] at h2
  obtain rfl := Option.some.inj h2
  exact ⟨P, hp, hp'⟩

theorem runsAgree_step {g : Nat} (hg : g < st.vc.numGroups) {hist hist' : List Output} {c c' : Clm}
    {e : Event} (h : st.RunsAgree g hist c hist' c') (he : e.elsewhere g = false)
    (hno : ∀ x ∈ (clmStep c e).2, x.isMasterDuplication = false)
    (hno' : ∀ x ∈ (clmStep c' e).2, x.isMasterDuplication = false) :
    st.RunsAgree g (hist ++ (clmStep c e).2) (clmStep c e).1 (hist' ++ (clmStep c' e).2)
      (clmStep c' e).1 := by
  obtain ⟨hl, hr, ha⟩ := h
  obtain ⟨P, hp, hp'⟩ := RunsAgree.phase hg ⟨hl, hr, ha⟩
  refine ⟨hl.step e, hr.step e, ?_⟩
  have hn : g < c.numGroups := by
    rw [Clm.numGroups, hl.config]
    exact hg
  exact ha.append (ha.now.step hn hp hp' he hno hno')

/-- **Groups are independent.**  Two runs whose events differ only in responses for and calls about
other groups agree on group `g`, if neither stores a response that reports a second master. -/
theorem groups_independent {g : Nat} (hg : g < st.vc.numGroups) (es es' : List Event)
    (hes : es.filter (fun e => !e.elsewhere g) = es'.filter (fun e => !e.elsewhere g))
    (hno : ∀ x ∈ (st.run es).2, x.isMasterDuplication = false)
    (hno' : ∀ x ∈ (st.run es').2, x.isMasterDuplication = false) :
    SameGroup g (st.run es) (st.run es') := by
  have hinit : st.AtRest st.init.1 := ⟨st.init_spec.config, _, st.init_lockstep⟩
  have h0 : st.RunsAgree g st.init.2 st.init.1 st.init.2 st.init.1 := ⟨hinit, hinit, .refl g _⟩
  have hruns := master.run_filter
    (c := fun c e => ∀ x ∈ (master.step c e).2, x.isMasterDuplication = false) (R := st.RunsAgree g)
    (by
      rintro hist c hist' c' e ⟨hl, hr, ha⟩ hno he
      have hskip := (step_elsewhere c he hno).symm.trans ha.now
      have happ := ha.append hskip
      rw [List.append_nil] at happ
      exact ⟨hl.step e, hr, happ⟩)
    (by
      rintro hist c hist' c' e ⟨hl, hr, ha⟩ hno he
      have hskip := ha.now.trans (step_elsewhere c' he hno)
      have happ := ha.append hskip
      rw [List.append_nil] at happ
      exact ⟨hl, hr.step e, happ⟩)
    (fun _ _ _ _ _ h hno hno' he => st.runsAgree_step hg h he hno hno') h0
    (Machine.Steps.of_outputs master (fun x hx => hno x (List.mem_append_right _ hx)))
    (Machine.Steps.of_outputs master (fun x hx => hno' x (List.mem_append_right _ hx))) hes
  obtain ⟨P, hp, hp'⟩ := hruns.phase hg
  obtain ⟨_, _, ha⟩ := hruns
  refine ⟨ha.group, ?_, ?_, ha.out⟩
  · exact shared_of_view ha.view (hp'.masterState.trans hp.masterState.symm)
  · have hout := congrArg (List.filter (Output.isRequest g)) ha.out
    rw [ofGroup_requests, ofGroup_requests] at hout
    exact hout

end MasterStart

/-! ## an example -/

def twoGroupsConfig : Config :=
  { exampleConfig false false with hier :=
      { numberOfGroups := 2
        groups := fun g =>
          { (exampleConfig false false).hier.groups 0 with slaveDevices := fun _ =>
              { slaveId := exampleSlaveId g, numOccupiedStations := 1
                reservedSlaveDevice := false } } } }

/-- two groups of one device -/
def twoGroupsStart : MasterStart { exampleOptions with
    clmMaxGroups := 2, groups_pos := by decide, groups_le := by decide } :=
  { vc := { cfg := twoGroupsConfig, valid := by decide, noDuplicates := by decide }
    shared := { (exampleStart false false).shared with config := twoGroupsConfig }
    config := rfl
    now := 0 }

/-- the device of the second group -/
def twoGroupsAnswer (now : UInt32) : Event :=
  .frame now (fun _ => 0)
    (clIefbUpdateCyclicResponseFrame (clIefbInitialiseCyclicResponseFrame 1 0 0 0) (exampleSlaveId 1)
      0 2 0 1 0 0).datagram (exampleSlaveId 1) clCciefbPort

/-- the second group is disabled in one run and answers in the other -/
theorem MasterStart.groups_independent_example :
    SameGroup 0
      (twoGroupsStart.run [.exampleTick 5000, .setSlaveCommunicationStatus 1 0 false, .exampleTick 50000])
      (twoGroupsStart.run [.exampleTick 5000, twoGroupsAnswer 6000, .exampleTick 50000]) := by
  have hno : (twoGroupsStart.run
      [.exampleTick 5000, .setSlaveCommunicationStatus 1 0 false, .exampleTick 50000]).2.all
        (fun x => !x.isMasterDuplication) = true := by decide +kernel
  have hno' : (twoGroupsStart.run
      [.exampleTick 5000, twoGroupsAnswer 6000, .exampleTick 50000]).2.all
        (fun x => !x.isMasterDuplication) = true := by decide +kernel
  refine twoGroupsStart.groups_independent (by decide) _ _ ?_ ?_ ?_
  · have helse : (twoGroupsAnswer 6000).elsewhere 0 = true := by decide +kernel
    simp only [List.filter_cons, helse]
    rfl
  · intro x hx
    simpa using List.all_eq_true.mp hno x hx
  · intro x hx
    simpa using List.all_eq_true.mp hno' x hx

end CLink
