import CLink.Master.Waiting

/-!
# The time between two requests

A group sends its next request when its timer has expired, or earlier when its link scan is
complete.

* `Paced g now cause`        at most one request, at the time `now` and only with `cause`;
* `monitorGroupTimers_paced` the timers of a group, `clmStep_paced` a step;
* `MasterStart.requestSpacing`   every run with true times.
-/

namespace CLink
open Loop Trace

/-! ## one link scan start at most -/

/-- no request; the group may go to `MASTER_LISTEN` -/
structure NoScanStart (g : Nat) (gd : GroupData) (out : List Output) (gd' : GroupData) : Prop where
  none : out.filter (Output.isRequest g) = []
  time : gd'.timestampLinkScanStart = gd.timestampLinkScanStart
  phase : gd'.groupState.phase = gd.groupState.phase ∨ gd'.groupState.phase = some .listen

/-- what happens to group `g` at the time `now`: no request, or one, which is the first or has a
cause -/
inductive Paced (g : Nat) (now : UInt32) (cause : Prop) (gd : GroupData) (out : List Output)
    (gd' : GroupData) : Prop where
  | quiet (h : NoScanStart g gd out gd') : Paced g now cause gd out gd'
  | sent (hone : (out.filter (Output.isRequest g)).length = 1)
      (htime : gd'.timestampLinkScanStart = now)
      (hphase : gd'.groupState.phase = some .running ∨ gd'.groupState.phase = some .listen)
      (hcause : gd.groupState.phase = some .arbitration
        ∨ gd.groupState.phase = some .running ∧ cause) : Paced g now cause gd out gd'

section
variable {g : Nat} {now : UInt32} {cause : Prop} {gd gd' gd'' : GroupData} {out out' : List Output}

theorem NoScanStart.trans (h : NoScanStart g gd out gd') (h' : NoScanStart g gd' out' gd'') :
    NoScanStart g gd (out ++ out') gd'' := by
  refine ⟨?_, h'.time.trans h.time, ?_⟩
  · rw [List.filter_append, h.none, h'.none]
    rfl
  · rcases h'.phase with hphase | hphase
    · rw [hphase]
      exact h.phase
    · exact Or.inr hphase

/-- state and time of the group stay -/
theorem NoScanStart.same (hnone : ∀ x ∈ out, x.isRequest g = false)
    (htime : gd'.timestampLinkScanStart = gd.timestampLinkScanStart)
    (hstate : gd'.groupState = gd.groupState) : NoScanStart g gd out gd' :=
  ⟨noRequests hnone, htime, Or.inl (by rw [hstate])⟩

namespace Paced

theorem refl (gd : GroupData) : Paced g now cause gd [] gd :=
  .quiet (.same (fun _ hx => nomatch hx) rfl rfl)

/-- a part without a request comes before -/
theorem before (h : Paced g now cause gd' out' gd'') (hq : NoScanStart g gd out gd') :
    Paced g now cause gd (out ++ out') gd'' := by
  cases h with
  | quiet h => exact .quiet (hq.trans h)
  | sent hone htime hphase' hcause =>
    refine .sent ?_ htime hphase' ?_
    · rw [List.filter_append, hq.none]
      exact hone
    · rcases hq.phase with hphase | hphase
      · rwa [hphase] at hcause
      · rw [hphase] at hcause
        rcases hcause with hcause | hcause
        · cases hcause
        · cases hcause.1

/-- a part without a request comes after -/
theorem after (h : Paced g now cause gd out gd') (hq : NoScanStart g gd' out' gd'') :
    Paced g now cause gd (out ++ out') gd'' := by
  cases h with
  | quiet h => exact .quiet (h.trans hq)
  | sent hone htime hphase' hcause =>
    refine .sent ?_ (hq.time.trans htime) ?_ hcause
    · rw [List.filter_append, hq.none, List.append_nil]
      exact hone
    · rcases hq.phase with hphase | hphase
      · rw [hphase]
        exact hphase'
      · exact Or.inr hphase

/-- with another cause -/
theorem imp {cause' : Prop} (h : Paced g now cause gd out gd') (hcause : cause → cause') :
    Paced g now cause' gd out gd' := by
  cases h with
  | quiet h => exact .quiet h
  | sent hone htime hphase hc =>
    exact .sent hone htime hphase (hc.imp_right (fun hc => ⟨hc.1, hcause hc.2⟩))

/-- a running group without a cause sends nothing -/
theorem noCause (h : Paced g now cause gd out gd') (hphase : gd.groupState.phase ≠ some .arbitration)
    (hcause : ¬ cause) : NoScanStart g gd out gd' := by
  cases h with
  | quiet h => exact h
  | sent _ _ _ hc =>
    rcases hc with hc | hc
    · exact absurd hc hphase
    · exact absurd hc.2 hcause

end Paced

end

/-! ## the functions of a group -/

/-- a function of the scope -/
def ScopePaced (g : Nat) (now : UInt32) (cause : Prop) (s s' : Scope) : Prop :=
  ∃ o, s'.out = s.out ++ o ∧ Paced g now cause s.group o s'.group

theorem ScopePaced.refl {g : Nat} {now : UInt32} {cause : Prop} (s : Scope) :
    ScopePaced g now cause s s := ⟨[], (List.append_nil _).symm, .refl _⟩

section
variable (g : Nat) (now : UInt32) (unixMs : Nat → UInt64) {cause : Prop} {s : Scope}

/-- a link scan start at the end of an event -/
theorem onLinkscanStart_paced {t : Scope} {o : List Output} (hout : t.out = s.out ++ o)
    (hnone : ∀ x ∈ o, x.isRequest g = false)
    (hcause : s.group.groupState.phase = some .arbitration
      ∨ s.group.groupState.phase = some .running ∧ cause) :
    ScopePaced g now cause s (clmIefbOnLinkscanStart g now unixMs (t.inState .masterLinkScan)) := by
  have htimers := onLinkscanStart_timers g now unixMs t
  obtain ⟨x, hx, hrequest⟩ : ∃ x, (clmIefbOnLinkscanStart g now unixMs (t.inState .masterLinkScan)).out
      = t.out ++ ((startDevices (t.setting g) g (t.inState .masterLinkScan).group).2 ++ [x])
        ∧ x.isRequest g = true := ⟨_, rfl, by simp [Output.isRequest]⟩
  have hdevices : ∀ x ∈ (startDevices (t.setting g) g (t.inState .masterLinkScan).group).2,
      x.isRequest g = false := by
    intro x hx
    exact (startDevices_out _ _ _ x hx).isRequest
  refine ⟨_, by rw [hx, hout, List.append_assoc], .sent ?_ htimers.timestamp ?_ hcause⟩
  · rw [List.filter_append, List.filter_append, noRequests hnone, noRequests hdevices,
      List.filter_singleton, hrequest]
    rfl
  · rw [htimers.state]
    exact Or.inl rfl

/-- the outputs of the end of a link scan are no requests -/
theorem endScan_noRequest (event : DeviceEvent) (success : Bool) :
    ∃ o, (clmIefbGroupOnEntryScanComplete (s.endScan g event success)).out = s.out ++ o
      ∧ ∀ x ∈ o, x.isRequest g = false := by
  refine ⟨[.linkscanCb g success] ++ (clmIefbSetMasterState s.clm .running).2, ?_, ?_⟩
  · show s.out ++ _ ++ _ = _
    rw [List.append_assoc]
    rfl
  · intro x hx
    rcases List.mem_append.mp hx with hx | hx
    · rw [List.mem_singleton.mp hx]
      rfl
    · exact Output.isRequest_of_owner ((clmIefbSetMasterState_spec _ _).2 x hx) g

theorem arbitrationDone_paced (hs : s.group.groupState = .masterArbitration) :
    ScopePaced g now cause s (clmIefbGroupFsmEvent g now unixMs .arbitrationDone s) := by
  rw [clmIefbGroupFsmEvent_arbitrationDone g now unixMs hs]
  refine onLinkscanStart_paced g now unixMs (o := (clmIefbSetMasterState s.clm .running).2) rfl ?_ ?_
  · intro x hx
    exact Output.isRequest_of_owner ((clmIefbSetMasterState_spec _ _).2 x hx) g
  · rw [hs]
    exact Or.inl rfl

theorem timeout_paced (hs : s.group.groupState = .masterLinkScan) (hcause : cause) :
    ScopePaced g now cause s (clmIefbGroupFsmEvent g now unixMs .linkscanTimeout s) := by
  rw [clmIefbGroupFsmEvent_timeout g now unixMs hs]
  obtain ⟨o, hout, hnone⟩ := endScan_noRequest g (s := s.inState .masterLinkScanComp)
    .groupTimeout false
  refine onLinkscanStart_paced g now unixMs hout hnone ?_
  rw [hs]
  exact Or.inr ⟨rfl, hcause⟩

theorem linkscanStart_paced (hs : s.group.groupState = .masterLinkScanComp) (hcause : cause) :
    ScopePaced g now cause s (clmIefbGroupFsmEvent g now unixMs .linkscanStart s) := by
  rw [clmIefbGroupFsmEvent_linkscanStart g now unixMs hs]
  refine onLinkscanStart_paced g now unixMs (List.append_nil _).symm
    (fun x hx => absurd hx List.not_mem_nil) ?_
  rw [hs]
  exact Or.inr ⟨rfl, hcause⟩

/-- the end of a link scan starts the next one, without constant link scan time -/
theorem complete_paced (hs : s.group.groupState = .masterLinkScan)
    (hcause : (s.setting g).useConstantLinkScanTime = false → cause) :
    ScopePaced g now cause s (clmIefbGroupFsmEvent g now unixMs .linkscanComplete s) := by
  rw [clmIefbGroupFsmEvent_complete g now unixMs hs]
  obtain ⟨o, hout, hnone⟩ := endScan_noRequest g (s := { s with group := { s.group with
    groupState := .masterLinkScanComp
    responseWaitTimer := clTimerStop s.group.responseWaitTimer } }) .groupAllResponded true
  have hout' : (s.complete g).out = s.out ++ o := hout
  split
  · refine ⟨o, hout', .quiet ⟨noRequests hnone, rfl, Or.inl ?_⟩⟩
    rw [hs]
    rfl
  · rename_i hconstant
    rw [Bool.not_eq_true] at hconstant
    refine onLinkscanStart_paced g now unixMs hout' hnone ?_
    rw [hs]
    exact Or.inr ⟨rfl, hcause hconstant⟩

/-- only timers of the group are stopped -/
structure TimersOnly (s s' : Scope) : Prop where
  clm : s'.clm = s.clm
  state : s'.group.groupState = s.group.groupState
  time : s'.group.timestampLinkScanStart = s.group.timestampLinkScanStart
  out : s'.out = s.out

theorem TimersOnly.quiet {s s' : Scope} (h : TimersOnly s s') :
    NoScanStart g s.group [] s'.group := .same (fun _ hx => nomatch hx) h.time h.state

theorem TimersOnly.paced {s s' : Scope} (h : TimersOnly s s') : ScopePaced g now cause s s' :=
  ⟨[], by rw [h.out, List.append_nil], .quiet (h.quiet g)⟩

/-- the response timer has no event outside a link scan -/
theorem monitorResponseWait_other (hs : s.group.groupState ≠ .masterLinkScan) :
    TimersOnly s (if clTimerIsExpired s.group.responseWaitTimer now then
        clmIefbGroupFsmEvent g now unixMs .linkscanTimeout { s with group := { s.group with
          responseWaitTimer := clTimerStop s.group.responseWaitTimer } }
      else s)
      ∧ (if clTimerIsExpired s.group.responseWaitTimer now then
        clmIefbGroupFsmEvent g now unixMs .linkscanTimeout { s with group := { s.group with
          responseWaitTimer := clTimerStop s.group.responseWaitTimer } }
      else s).group.constantLinkscanTimer = s.group.constantLinkscanTimer := by
  split
  · have hrow : groupFsmMatrix s.group.groupState .linkscanTimeout
        = (s.group.groupState, none) := by
      generalize s.group.groupState = state at hs
      cases state <;> first | rfl | exact absurd rfl hs
    have hstay := clmIefbGroupFsmEvent_stay g now unixMs (s := { s with group := { s.group with
      responseWaitTimer := clTimerStop s.group.responseWaitTimer } }) hrow
    rw [hstay]
    exact ⟨⟨rfl, rfl, rfl, rfl⟩, rfl⟩
  · exact ⟨⟨rfl, rfl, rfl, rfl⟩, rfl⟩

/-- the other timer has an event between two link scans only -/
theorem monitorConstant_other (hs : s.group.groupState ≠ .masterLinkScanComp) :
    TimersOnly s (if clTimerIsExpired s.group.constantLinkscanTimer now then
        clmIefbGroupFsmEvent g now unixMs .linkscanStart { s with group := { s.group with
          constantLinkscanTimer := clTimerStop s.group.constantLinkscanTimer } }
      else s) := by
  split
  · have hrow : groupFsmMatrix s.group.groupState .linkscanStart = (s.group.groupState, none) := by
      generalize s.group.groupState = state at hs
      cases state <;> first | rfl | exact absurd rfl hs
    have hstay := clmIefbGroupFsmEvent_stay g now unixMs (s := { s with group := { s.group with
      constantLinkscanTimer := clTimerStop s.group.constantLinkscanTimer } }) hrow
    rw [hstay]
    exact ⟨rfl, rfl, rfl, rfl⟩
  · exact ⟨rfl, rfl, rfl, rfl⟩

theorem ScopePaced.after {t u : Scope} (h : ScopePaced g now cause s t) (h' : TimersOnly t u) :
    ScopePaced g now cause s u := by
  obtain ⟨o, hout, hpaced⟩ := h
  have hafter := hpaced.after (h'.quiet g)
  rw [List.append_nil] at hafter
  exact ⟨o, h'.out.trans hout, hafter⟩

/-- a part without a request comes before -/
theorem ScopePaced.later {t u : Scope} {o : List Output} (h : ScopePaced g now cause t u)
    (ho : t.out = s.out ++ o) (hq : NoScanStart g s.group o t.group) :
    ScopePaced g now cause s u := by
  obtain ⟨o', ho', hpaced⟩ := h
  exact ⟨o ++ o', by rw [ho', ho, List.append_assoc], hpaced.before hq⟩

theorem ScopePaced.before {t u : Scope} (h' : ScopePaced g now cause t u) (h : TimersOnly s t) :
    ScopePaced g now cause s u :=
  h'.later g now (h.out.trans (List.append_nil _).symm) (h.quiet g)

/-- **The timers of a group.** -/
theorem monitorGroupTimers_paced (hrest : GroupRest (s.setting g) s.group) :
    ScopePaced g now (clTimerIsExpired (scanTimer (s.setting g) s.group) now = true) s
      (monitorGroupTimers g now unixMs s) := by
  unfold monitorGroupTimers
  by_cases hscan : s.group.groupState = .masterLinkScan
  · by_cases hx : clTimerIsExpired s.group.responseWaitTimer now = true
    · -- the timeout starts a scan, in which the second timer has no event
      have hexpired := hx
      rw [hrest.scan hscan] at hexpired
      have htimers := timeout_timers g now unixMs (s := { s with group := { s.group with
        responseWaitTimer := clTimerStop s.group.responseWaitTimer } }) hscan
      have hpaced := timeout_paced g now unixMs (s := { s with group := { s.group with
        responseWaitTimer := clTimerStop s.group.responseWaitTimer } }) hscan hexpired
      simp only [hx, if_true]
      generalize clmIefbGroupFsmEvent g now unixMs .linkscanTimeout _ = t at htimers hpaced ⊢
      have hnot : t.group.groupState ≠ .masterLinkScanComp := by
        rw [htimers.state]
        exact GroupState.noConfusion
      have hbefore : ScopePaced g now
          (clTimerIsExpired (scanTimer (s.setting g) s.group) now = true) s t :=
        hpaced.before g now ⟨rfl, rfl, rfl, rfl⟩
      exact hbefore.after g now (monitorConstant_other g now unixMs hnot)
    · simp only [if_neg hx]
      have hnot : s.group.groupState ≠ .masterLinkScanComp := by
        rw [hscan]
        exact GroupState.noConfusion
      exact (monitorConstant_other g now unixMs hnot).paced g now
  · obtain ⟨htimers, hconstant⟩ := monitorResponseWait_other g now unixMs hscan
    simp only
    generalize (if clTimerIsExpired s.group.responseWaitTimer now then
        clmIefbGroupFsmEvent g now unixMs .linkscanTimeout { s with group := { s.group with
          responseWaitTimer := clTimerStop s.group.responseWaitTimer } }
      else s) = t at htimers hconstant ⊢
    refine ScopePaced.before g now ?_ htimers
    by_cases hcomp : t.group.groupState = .masterLinkScanComp
    · split
      · rename_i hx
        have hexpired := hx
        rw [hconstant, (hrest.comp (htimers.state.symm.trans hcomp)).2] at hexpired
        have hpaced := linkscanStart_paced g now unixMs (s := { t with group := { t.group with
          constantLinkscanTimer := clTimerStop t.group.constantLinkscanTimer } }) hcomp hexpired
        exact hpaced.before g now ⟨rfl, rfl, rfl, rfl⟩
      · exact .refl t
    · exact (monitorConstant_other g now unixMs hcomp).paced g now

end

/-! ## all groups -/

/-- a function of one group sends no request of another one -/
theorem ScopeMoves.otherRequests {cfg : Config} {g k : Nat} {A : GroupInput → GroupData → Prop}
    {s s' : Scope} (h : ScopeMoves cfg k A s s') (hne : g ≠ k) :
    ∃ o, s'.out = s.out ++ o ∧ o.filter (Output.isRequest g) = [] := by
  obtain ⟨_, o, ho, hown, _⟩ := h
  refine ⟨o, ho, ?_⟩
  rw [← ofGroup_requests, ofGroup_other hne hown]
  rfl

section
variable {c : Clm} {g : Nat} {now : UInt32} (unixMs : Nat → UInt64) {cause : Prop}

theorem forGroups_paced {f : Nat → Scope → Scope} (hg : g < c.numGroups)
    (hmoves : ∀ k s, s.clm.config = c.shared.config →
      ScopeMoves c.shared.config k (fun _ _ => True) s (f k s))
    (hown : ∀ s, s.clm.config = c.shared.config → s.group = c.groups g →
      ScopePaced g now cause s (f g s)) :
    Paced g now cause (c.groups g) (c.forGroups f).2 ((c.forGroups f).1.groups g) := by
  obtain ⟨_, _, _, hdone⟩ := loop_inv (n := c.numGroups)
    (f := fun k (t : Clm × List Output) =>
      let r := t.1.setScope k (f k (t.1.scope k))
      (r.1, t.2 ++ r.2)) (s := (c, []))
    (fun k t => t.1.shared.config = c.shared.config ∧ (∀ h, k ≤ h → t.1.groups h = c.groups h)
      ∧ (k ≤ g → t.2.filter (Output.isRequest g) = [])
      ∧ (g < k → Paced g now cause (c.groups g) t.2 (t.1.groups g)))
    ⟨rfl, fun _ _ => rfl, fun _ => rfl, fun h => absurd h (Nat.not_lt_zero g)⟩
    (by
      rintro k ⟨t, out⟩ hk ⟨hconfig, hsame, hbefore, hafter⟩
      have hround := hmoves k (t.scope k) hconfig
      refine ⟨hround.config.trans hconfig, ?_, ?_, ?_⟩
      · intro h hle
        show Function.update t.groups k _ h = c.groups h
        rw [Function.update_of_ne (by omega)]
        exact hsame h (by omega)
      · intro hle
        obtain ⟨o, ho, hnone⟩ := hround.otherRequests (g := g) (by omega)
        show (out ++ (f k (t.scope k)).out).filter (Output.isRequest g) = []
        rw [ho, List.filter_append, hbefore (by omega)]
        exact hnone
      · intro hlt
        show Paced g now cause (c.groups g) (out ++ (f k (t.scope k)).out)
          (Function.update t.groups k (f k (t.scope k)).group g)
        rcases Nat.lt_succ_iff_lt_or_eq.mp hlt with hlt | rfl
        · obtain ⟨o, ho, hnone⟩ := hround.otherRequests (g := g) (by omega)
          rw [Function.update_of_ne (by omega), ho]
          exact (hafter hlt).after ⟨hnone, rfl, Or.inl rfl⟩
        · obtain ⟨o, ho, hpaced⟩ := hown (t.scope g) hconfig (hsame g (le_refl g))
          rw [Function.update_self, ho]
          have hgroup : (t.scope g).group = c.groups g := hsame g (le_refl g)
          rw [hgroup] at hpaced
          exact hpaced.before ⟨hbefore (le_refl g), rfl, Or.inl rfl⟩)
  exact hdone hg

end

/-! ## broadcasts -/

section
variable (g : Nat) (now : UInt32) (unixMs : Nat → UInt64) {cause : Prop} {s : Scope}

/-- without a row nothing happens -/
theorem stay_paced {event : GroupEvent}
    (hrow : groupFsmMatrix s.group.groupState event = (s.group.groupState, none)) :
    ScopePaced g now cause s (clmIefbGroupFsmEvent g now unixMs event s) := by
  rw [clmIefbGroupFsmEvent_stay g now unixMs hrow]
  exact .refl s

/-- the way to `MASTER_LISTEN` -/
theorem onEntryListen_quiet (s : Scope) :
    ∃ o, (clmIefbGroupOnEntryListen g (s.inState .masterListen)).out = s.out ++ o
      ∧ NoScanStart g s.group o (clmIefbGroupOnEntryListen g (s.inState .masterListen)).group := by
  rw [clmIefbGroupOnEntryListen_eq]
  refine ⟨_, rfl, noRequests ?_, rfl, Or.inr rfl⟩
  intro x hx
  exact Output.isRequest_of_owner ((clmIefbSetMasterState_spec _ _).2 x hx) g

theorem broadcast_paced {event : GroupEvent} (he : event.isBroadcast) :
    ScopePaced g now cause s (clmIefbGroupFsmEvent g now unixMs event s) := by
  cases event with
  | arbitrationDone =>
    by_cases hs : s.group.groupState = .masterArbitration
    · exact arbitrationDone_paced g now unixMs hs
    · apply stay_paced
      generalize s.group.groupState = state at hs
      cases state <;> first | rfl | exact absurd rfl hs
  | masterduplAlarm =>
    by_cases hs : s.group.groupState = .masterLinkScan ∨ s.group.groupState = .masterLinkScanComp
    · rw [clmIefbGroupFsmEvent_alarm g now unixMs hs]
      obtain ⟨o, ho, hquiet⟩ := onEntryListen_quiet g s
      exact ⟨o, ho, .quiet hquiet⟩
    · apply stay_paced
      rw [not_or] at hs
      generalize s.group.groupState = state at hs
      cases state <;> first | rfl | exact absurd rfl hs.1 | exact absurd rfl hs.2
  | reqFromOther =>
    by_cases hs : s.group.groupState = .masterArbitration
    · rw [clmIefbGroupFsmEvent_reqFromOther g now unixMs hs]
      obtain ⟨o, ho, hquiet⟩ := onEntryListen_quiet g (clmIefbOnArbitrationFailed now s)
      have hfailed : ∀ x ∈ (clmIefbTriggerErrorCallback s.clm now .arbitrationFailed
          s.clm.latestConflictingMasterIp 0).2, x.isRequest g = false :=
        fun x hx => Output.isRequest_of_owner ((clmIefbTriggerErrorCallback_spec _ _ _ _ _).2 x hx) g
      refine ⟨_ ++ o, ho.trans (List.append_assoc ..), .quiet ?_⟩
      exact (NoScanStart.same hfailed rfl rfl).trans hquiet
    · apply stay_paced
      generalize s.group.groupState = state at hs
      cases state <;> first | rfl | exact absurd rfl hs
  | _ => cases he

end

/-! ## a step -/

section
variable {c : Clm} {g : Nat} (hg : g < c.numGroups) (now : UInt32) (unixMs : Nat → UInt64)
  {cause : Prop}
include hg

theorem eventAll_paced {event : GroupEvent} (he : event.isBroadcast) :
    Paced g now cause (c.groups g) (clmIefbGroupFsmEventAll now unixMs event c).2
      ((clmIefbGroupFsmEventAll now unixMs event c).1.groups g) := by
  refine forGroups_paced hg ?_ ?_
  · intro k s hconfig
    cases event with
    | arbitrationDone => exact scopeMoves_arbitrationDone now unixMs hconfig
    | masterduplAlarm => exact scopeMoves_alarm now unixMs hconfig
    | reqFromOther => exact scopeMoves_reqFromOther now unixMs hconfig
    | _ => cases he
  · intro s _ hgroup
    exact broadcast_paced g now unixMs he

theorem monitorAll_paced (hrest : GroupRest (c.setting g) (c.groups g)) :
    Paced g now (clTimerIsExpired (scanTimer (c.setting g) (c.groups g)) now = true) (c.groups g)
      (clmIefbMonitorAllGroupTimers now unixMs c).2
      ((clmIefbMonitorAllGroupTimers now unixMs c).1.groups g) := by
  refine forGroups_paced hg (fun k s hconfig => scopeMoves_monitorGroupTimers now unixMs hconfig) ?_
  intro s hconfig hgroup
  have hset : s.setting g = c.setting g := by
    rw [Scope.setting, hconfig]
    rfl
  have hpaced := monitorGroupTimers_paced g now unixMs (s := s) (by rwa [hset, hgroup])
  rwa [hset, hgroup] at hpaced

/-- **A tick.** -/
theorem periodicTimers_paced {o : Options} {P : Phase} (h : InPhase P c)
    (hv : GroupValid o c.shared.config (c.setting g)) :
    Paced g now (clTimerIsExpired (scanTimer (c.setting g) (c.groups g)) now = true) (c.groups g)
      (clmIefbPeriodicTimers now unixMs c).2 ((clmIefbPeriodicTimers now unixMs c).1.groups g) := by
  unfold clmIefbPeriodicTimers
  simp only
  split
  · have hstopped : InPhase P { c with shared := { c.shared with
        errorlimiter := clLimiterPeriodic c.shared.errorlimiter now
        arbitrationTimer := clTimerStop c.shared.arbitrationTimer } } :=
      h.congr rfl rfl (fun _ _ hp hr => ⟨hp, hr⟩)
    have he : GroupEvent.arbitrationDone.isBroadcast := trivial
    have hall := eventAll_lockstep hstopped (Nat.lt_of_le_of_lt (Nat.zero_le g) hg) now unixMs he
    have hdone : Paced g now (clTimerIsExpired (scanTimer (c.setting g) (c.groups g)) now = true)
        _ _ _ :=
      eventAll_paced (c := { c with shared := { c.shared with
        errorlimiter := clLimiterPeriodic c.shared.errorlimiter now
        arbitrationTimer := clTimerStop c.shared.arbitrationTimer } }) hg now unixMs he
    generalize clmIefbGroupFsmEventAll _ _ _ _ = r at hall hdone
    have hset : r.1.setting g = c.setting g := by
      rw [Clm.setting, hall.config]
      rfl
    have hg' : g < r.1.numGroups := by
      rw [Clm.numGroups, hall.config]
      exact hg
    have hmonitor := monitorAll_paced hg' now unixMs (hall.after.rest g hg')
    rw [hset] at hmonitor
    cases hdone with
    | quiet hq =>
      have htimer : scanTimer (c.setting g) (r.1.groups g) = scanTimer (c.setting g) (c.groups g) := by
        unfold scanTimer
        rw [hq.time]
      rw [htimer] at hmonitor
      exact hmonitor.before hq
    | sent hone htime hphase hcause =>
      -- the timers of the new link scan have not expired
      have hnot := ScanTimers.notExpired now hv htime
      refine Paced.after (.sent hone htime hphase hcause) (hmonitor.noCause ?_ ?_)
      · rcases hphase with hphase | hphase <;> rw [hphase] <;> simp
      · rw [hnot]
        exact Bool.false_ne_true
  · exact monitorAll_paced (c := { c with shared := { c.shared with
      errorlimiter := clLimiterPeriodic c.shared.errorlimiter now } }) hg now unixMs (h.rest g hg)

/-- the response of device `d` ends the link scan of the group: the completion condition holds -/
def EndsScan (c : Clm) (g d : Nat) (r : CyclicResponse) : Prop :=
  (checkDevice (c.setting g) d r (c.groups g)).2 = true
    ∧ clmIefbGroupHaveReceivedFromAllDevices (c.setting g)
      (acceptResponse c.shared.config (c.setting g) d r (c.groups g)) = true

omit hg in
/-- a function of group `k` -/
theorem setScope_paced {k : Nat} {s : Scope}
    (hown : g = k → ScopePaced g now cause (c.scope g) s)
    (hother : g ≠ k → s.out.filter (Output.isRequest g) = []) :
    Paced g now cause (c.groups g) (c.setScope k s).2 ((c.setScope k s).1.groups g) := by
  show Paced g now cause (c.groups g) s.out (Function.update c.groups k s.group g)
  by_cases hk : g = k
  · obtain ⟨o, ho, hpaced⟩ := hown hk
    rw [← hk, Function.update_self, ho]
    exact hpaced
  · rw [Function.update_of_ne hk]
    exact .quiet ⟨hother hk, rfl, Or.inl rfl⟩

/-- a response, of the group or of another one -/
theorem handleDeviceResponse_paced (k d : Nat) (hk : k < c.numGroups) (r : CyclicResponse) :
    Paced g now (g = k ∧ (c.setting g).useConstantLinkScanTime = false ∧ EndsScan c g d r)
      (c.groups g) (handleDeviceResponse k d now unixMs r c).2.1
      ((handleDeviceResponse k d now unixMs r c).1.groups g) := by
  obtain ⟨hs, hcheck⟩ := checkResponse_spec k d now r (c.scope k)
  unfold handleDeviceResponse
  simp only
  cases hc : (checkDevice (c.setting k) d r (c.groups k)).2 with
  | false =>
    have hc' : (checkResponse k d now r (c.scope k)).2 = false := hcheck.trans hc
    rw [if_pos hc']
    obtain ⟨hgroup, _, _, o, ho, hown⟩ := hs
    have hnone : ∀ x ∈ o, x.isRequest g = false :=
      fun x hx => Output.isRequest_of_owner (hown x hx) g
    refine setScope_paced now ?_ ?_
    · rintro rfl
      refine ⟨o, ho, .quiet (.same hnone ?_ ?_)⟩
      · rw [hgroup]
        rfl
      · rw [hgroup]
        rfl
    · intro _
      rw [ho]
      exact noRequests hnone
  | true =>
    have hc' : ¬ (checkResponse k d now r (c.scope k)).2 = false := by
      rw [hcheck]
      exact fun hf => Bool.false_ne_true (hf.symm.trans hc)
    obtain ⟨o, hown, hgroup, hclm, hout⟩ := acceptedScope_eq (s := c.scope k) hc hs
    have hgroup' : (storeResponse k d r (checkResponse k d now r (c.scope k)).1).group.modifyDevice d
        (deviceResponse (c.setting k) r)
          = acceptResponse c.shared.config (c.setting k) d r (c.groups k) := hgroup
    have hconfig : (storeResponse k d r (checkResponse k d now r (c.scope k)).1).clm.config
        = c.shared.config := by
      rw [hclm]
      exact hs.config
    have hset : (storeResponse k d r (checkResponse k d now r (c.scope k)).1).setting k
        = c.setting k := by
      rw [Scope.setting, hconfig]
      rfl
    have hnone : ∀ x ∈ (storeResponse k d r (checkResponse k d now r (c.scope k)).1).out,
        x.isRequest g = false := by
      intro x hx
      rw [hout, List.append_assoc] at hx
      rcases List.mem_append.mp hx with hx | hx
      · cases hx
      · rcases List.mem_append.mp hx with hx | hx
        · exact Output.isRequest_of_owner (hown x hx) g
        · exact accepted_isRequest k d r _ _ x hx g
    rw [if_neg hc']
    generalize storeResponse k d r (checkResponse k d now r (c.scope k)).1 = s
      at hgroup' hconfig hset hnone
    have hstate : s.group.groupState = (c.groups k).groupState := by
      have h := congrArg GroupData.groupState hgroup'
      exact h
    have htime : s.group.timestampLinkScanStart = (c.groups k).timestampLinkScanStart := by
      have h := congrArg GroupData.timestampLinkScanStart hgroup'
      exact h
    split
    · -- the alarm of every group follows
      have hn : g < (c.setScope k s).1.numGroups := by
        refine Nat.lt_of_lt_of_eq hg ?_
        exact congrArg (fun cfg : Config => cfg.hier.numberOfGroups.toNat) hconfig.symm
      have hstored : NoScanStart g (c.groups g) s.out ((c.setScope k s).1.groups g) := by
        show NoScanStart g (c.groups g) s.out (Function.update c.groups k s.group g)
        by_cases hk : g = k
        · rw [hk, Function.update_self]
          rw [hk] at hnone
          exact .same hnone htime hstate
        · rw [Function.update_of_ne hk]
          exact .same hnone rfl rfl
      have halarm : GroupEvent.masterduplAlarm.isBroadcast := trivial
      exact (eventAll_paced hn now unixMs halarm).before hstored
    · rename_i hcode
      rw [receiveResponse_eq now unixMs hcode, hset, hgroup']
      refine setScope_paced now ?_ ?_
      · rintro rfl
        have hstored : NoScanStart g (c.groups g) s.out
            (acceptResponse c.shared.config (c.setting g) d r (c.groups g)) := .same hnone rfl rfl
        refine ScopePaced.later (t := { s with
          group := acceptResponse c.shared.config (c.setting g) d r (c.groups g) }) g now ?_
          (List.nil_append s.out).symm hstored
        split
        · rename_i hall
          by_cases hscan : (c.groups g).groupState = .masterLinkScan
          · apply complete_paced
            · exact hscan
            · intro hconstant
              have hconstant' : (s.setting g).useConstantLinkScanTime = false := hconstant
              rw [hset] at hconstant'
              exact ⟨rfl, hconstant', hc, hall⟩
          · apply stay_paced
            show groupFsmMatrix (c.groups g).groupState _ = ((c.groups g).groupState, none)
            generalize (c.groups g).groupState = state at hscan
            cases state <;> first | rfl | exact absurd rfl hscan
        · exact .refl _
      · intro hne
        split
        · rename_i hall
          have hmoves : ScopeMoves c.shared.config k (fun _ _ => True)
              { s with group := acceptResponse c.shared.config (c.setting k) d r (c.groups k) } _ :=
            scopeMoves_complete now unixMs hconfig hall
          obtain ⟨o', ho', hother⟩ := hmoves.otherRequests hne
          rw [ho', List.filter_append, hother, List.append_nil]
          exact noRequests hnone
        · exact noRequests hnone

end

/-- the clock that an event brings along; the calls of the application have none -/
def Event.clock : Event → Option UInt32
  | tick now _ => some now
  | frame now _ _ _ _ => some now
  | _ => none

/-- the calls of the application -/
theorem clmStep_noClock (c : Clm) (g : Nat) {e : Event} (he : e.clock = none) :
    NoScanStart g (c.groups g) (clmStep c e).2 ((clmStep c e).1.groups g) := by
  have hsame : ∀ gd, NoScanStart g gd [] gd := fun gd => .same (fun _ hx => nomatch hx) rfl rfl
  have hupdate : ∀ (c : Clm) (k : Nat) (gd : GroupData), gd.groupState = (c.groups k).groupState →
      gd.timestampLinkScanStart = (c.groups k).timestampLinkScanStart →
      NoScanStart g (c.groups g) [] (Function.update c.groups k gd g) := by
    intro c k gd hstate htime
    by_cases hk : g = k
    · rw [hk, Function.update_self]
      exact .same (fun _ hx => nomatch hx) htime hstate
    · rw [Function.update_of_ne hk]
      exact hsame _
  have hmodify : ∀ k d f, NoScanStart g (c.groups g) [] ((c.modifyDevice k d f).groups g) := by
    intro k d f
    unfold Clm.modifyDevice
    split
    · exact hsame _
    · exact hupdate c k _ rfl rfl
  unfold clmStep
  split
  · exact hsame _
  cases e with
  | tick now unixMs => cases he
  | frame now unixMs dg remoteIp remotePort => cases he
  | setSlaveCommunicationStatus k d enabled => exact hmodify k d _
  | forceCyclicTransmissionBit k d force => exact hmodify k d _
  | statisticsClearAll =>
    refine loop_inv (fun _ (t : Clm) => NoScanStart g (c.groups g) [] (t.groups g)) (hsame _) ?_
    intro k t _ ht
    refine ht.trans (hupdate t k _ ?_ ?_) <;>
    · rw [loop_modifyDevice]
      rfl
  | setMasterApplicationStatus running stoppedByUser => exact hsame _
  | writeMemoryArea k ry rww =>
    show NoScanStart g (c.groups g) [] ((writeMemoryArea k ry rww c).groups g)
    unfold writeMemoryArea
    simp only
    split
    · exact hsame _
    · exact hupdate c k _ rfl rfl

/-- the event is a response that ends the link scan of the group -/
def Completes (c : Clm) (g : Nat) (e : Event) : Prop :=
  ∃ d r, GroupReceives c e g (.response d r) ∧ EndsScan c g d r

/-- the timer of a running group has expired, or a response ends its link scan -/
def NextScan (c : Clm) (g : Nat) (now : UInt32) (e : Event) : Prop :=
  clTimerIsExpired (scanTimer (c.setting g) (c.groups g)) now = true
    ∨ (c.setting g).useConstantLinkScanTime = false ∧ Completes c g e

/-- **A step.** -/
theorem clmStep_paced {o : Options} {P : Phase} {c : Clm} {g : Nat} (h : InPhase P c)
    (hg : g < c.numGroups) (hv : GroupValid o c.shared.config (c.setting g)) {now : UInt32}
    {e : Event} (he : ∀ clock, e.clock = some clock → clock = now) :
    Paced g now (NextScan c g now e) (c.groups g) (clmStep c e).2 ((clmStep c e).1.groups g) := by
  by_cases ha : c.aborted = true
  · rw [show clmStep c e = (c, []) from if_pos ha]
    exact .refl _
  cases hclock : e.clock with
  | none => exact .quiet (clmStep_noClock c g hclock)
  | some clock =>
    obtain rfl := he clock hclock
    unfold clmStep
    rw [if_neg ha]
    cases e with
    | tick now unixMs =>
      obtain rfl := Option.some.inj hclock
      exact (periodicTimers_paced hg now unixMs h hv).imp Or.inl
    | frame now unixMs dg remoteIp remotePort =>
      obtain rfl := Option.some.inj hclock
      have hcases := clmIefbHandleInputFrame_cases c now unixMs dg remoteIp remotePort
      simp only
      generalize clmIefbHandleInputFrame now unixMs dg remoteIp remotePort c = t at hcases ⊢
      cases hcases with
      | response k d r hk hd hid hr hf =>
        refine (handleDeviceResponse_paced hg now unixMs k d hk r).imp ?_
        rintro ⟨rfl, hconstant, hends⟩
        exact Or.inr ⟨hconstant, d, r, ⟨_, unixMs, dg, remoteIp, remotePort, rfl, hr⟩, hends⟩
      | request hr hf =>
        have hother : GroupEvent.reqFromOther.isBroadcast := trivial
        exact eventAll_paced (c := { c with shared := { c.shared with
          latestConflictingMasterIp := remoteIp } }) hg now unixMs hother
      | dropped aborted value hr hf => exact .refl _
    | _ => cases hclock

/-! ## runs with true times -/

/-- true time does not go back, and the clock of an event is the true time modulo `2^32` -/
structure Clocked (es : List (Nat × Event)) : Prop where
  forward : es.Pairwise (fun e e' => e.1 ≤ e'.1)
  clock : ∀ e ∈ es, ∀ clock, e.2.clock = some clock → clock = UInt32.ofNat e.1

/-- the true times of the requests of a group -/
def requestTimes (g : Nat) (out : List (Nat × Output)) : List Nat :=
  (out.filter (fun x => x.2.isRequest g)).map Prod.fst

theorem requestTimes_append (g : Nat) (a b : List (Nat × Output)) :
    requestTimes g (a ++ b) = requestTimes g a ++ requestTimes g b := by
  unfold requestTimes
  rw [List.filter_append, List.map_append]

/-- the requests of one event -/
theorem requestTimes_stamp (g time : Nat) (out : List Output) :
    requestTimes g (out.map (Prod.mk time))
      = List.replicate (out.filter (Output.isRequest g)).length time := by
  unfold requestTimes
  rw [List.filter_map, List.map_map]
  exact List.map_const'

namespace Clocked
variable {es : List (Nat × Event)} {e : Nat × Event}

theorem left {es' : List (Nat × Event)} (h : Clocked (es ++ es')) : Clocked es :=
  ⟨(List.pairwise_append.mp h.forward).1, fun e he => h.clock e (List.mem_append_left _ he)⟩

theorem latest (h : Clocked (es ++ [e])) : ∀ e' ∈ es, e'.1 ≤ e.1 := by
  intro e' he'
  exact (List.pairwise_append.mp h.forward).2.2 e' he' e List.mem_cons_self

theorem last (h : Clocked (es ++ [e])) : ∀ clock, e.2.clock = some clock →
    clock = UInt32.ofNat e.1 :=
  h.clock e (List.mem_append_right _ List.mem_cons_self)

end Clocked

namespace MasterStart
variable {o : Options} (st : MasterStart o)

/-- the state and the outputs with their true times, after the initialisation -/
def timedRun (es : List (Nat × Event)) : Clm × List (Nat × Output) :=
  (master.stamped Nat).run st.init.1 es

theorem timedRun_state (es : List (Nat × Event)) :
    (st.timedRun es).1 = (st.run (es.map Prod.snd)).1 := master.stamped_run _ _

theorem timedRun_concat (es : List (Nat × Event)) (e : Nat × Event) :
    st.timedRun (es ++ [e]) = ((clmStep (st.timedRun es).1 e.2).1,
      (st.timedRun es).2 ++ (clmStep (st.timedRun es).1 e.2).2.map (Prod.mk e.1)) := by
  unfold timedRun
  rw [Machine.run_append, Machine.run_cons, Machine.run_nil, List.append_nil]
  rfl

/-- the last request of a running group, which it has sent at its last link scan start -/
structure LastRequest (gd : GroupData) (times : List Nat) : Prop where
  arbitration : gd.groupState.phase = some .arbitration → times = []
  running : gd.groupState.phase = some .running →
    ∃ t, times.getLast? = some t ∧ gd.timestampLinkScanStart = UInt32.ofNat t

theorem timedRun_paced {es : List (Nat × Event)} {e : Nat × Event} (hes : Clocked (es ++ [e]))
    {g : Nat} (hg : g < st.vc.numGroups) :
    Paced g (UInt32.ofNat e.1) (NextScan (st.timedRun es).1 g (UInt32.ofNat e.1) e.2)
      ((st.timedRun es).1.groups g) (clmStep (st.timedRun es).1 e.2).2
      ((clmStep (st.timedRun es).1 e.2).1.groups g) := by
  rw [st.timedRun_state es]
  have hcfg := (st.run_config (es.map Prod.snd)).1
  obtain ⟨P, h, _⟩ := st.run_lockstep (es.map Prod.snd)
  refine clmStep_paced (o := o) h ?_ ?_ hes.last
  · rw [Clm.numGroups, hcfg]
    exact hg
  · rw [Clm.setting, hcfg]
    exact st.vc.group hg

theorem run_lastRequest {es : List (Nat × Event)} (hes : Clocked es) {g : Nat}
    (hg : g < st.vc.numGroups) :
    LastRequest ((st.timedRun es).1.groups g) (requestTimes g (st.timedRun es).2) := by
  induction es using List.reverseRecOn with
  | nil =>
    have hstate := (st.init_spec.group g hg).state
    have hphase : ((st.timedRun []).1.groups g).groupState.phase = some .arbitration :=
      congrArg GroupState.phase hstate
    refine ⟨fun _ => rfl, ?_⟩
    intro h
    rw [hphase] at h
    cases h
  | append_singleton es e ih =>
    have hbefore := ih hes.left
    have hpaced := st.timedRun_paced hes hg
    rw [st.timedRun_concat, requestTimes_append, requestTimes_stamp]
    cases hpaced with
    | quiet hq =>
      rw [hq.none]
      show LastRequest _ (_ ++ [])
      rw [List.append_nil]
      rcases hq.phase with hphase | hphase
      · refine ⟨?_, ?_⟩
        · rw [hphase]
          exact hbefore.arbitration
        · rw [hphase, hq.time]
          exact hbefore.running
      · refine ⟨?_, ?_⟩ <;>
        · rw [hphase]
          intro h
          cases h
    | sent hone htime hphase hcause =>
      rw [hone]
      refine ⟨?_, ?_⟩
      · intro h
        rcases hphase with hphase | hphase <;> rw [hphase] at h <;> cases h
      · intro _
        exact ⟨e.1, List.getLast?_concat .., htime⟩

theorem timedRun_setting (es : List (Nat × Event)) (g : Nat) :
    (st.timedRun es).1.setting g = st.vc.setting g := by
  rw [st.timedRun_state es, Clm.setting, (st.run_config (es.map Prod.snd)).1]

/-- a request that is not the first one of the group -/
theorem request_spaced {es : List (Nat × Event)} {e : Nat × Event} (hes : Clocked (es ++ [e]))
    {g : Nat} (hg : g < st.vc.numGroups) {t : Nat}
    (hlast : (requestTimes g (st.timedRun es).2).getLast? = some t)
    (hsent : (clmStep (st.timedRun es).1 e.2).2.filter (Output.isRequest g) ≠ []) :
    t + (st.vc.setting g).timeoutValue.toNat * 1000 ≤ e.1
      ∨ (st.vc.setting g).useConstantLinkScanTime = false
        ∧ Completes (st.timedRun es).1 g e.2 := by
  have hbefore := st.run_lastRequest hes.left hg
  cases st.timedRun_paced hes hg with
  | quiet hq => exact absurd hq.none hsent
  | sent _ _ _ hcause =>
    rcases hcause with harb | ⟨hrun, hnext⟩
    · -- the first request
      rw [hbefore.arbitration harb] at hlast
      cases hlast
    · unfold NextScan at hnext
      rw [st.timedRun_setting] at hnext
      refine hnext.imp_left ?_
      intro hexpired
      obtain ⟨t', hlast', htime⟩ := hbefore.running hrun
      obtain rfl : t = t' := Option.some.inj (hlast.symm.trans hlast')
      have hle : t ≤ e.1 := by
        have hmem := List.mem_of_getLast? hlast
        obtain ⟨x, hx, rfl⟩ := List.mem_map.mp hmem
        obtain ⟨e', he', heq⟩ := master.stamped_mem (List.mem_filter.mp hx).1
        rw [← heq]
        exact hes.latest e' he'
      have hrunning : (scanTimer (st.vc.setting g) ((st.timedRun es).1.groups g)).state
          = .running := rfl
      have hperiod := ((clTimerIsExpired_iff hrunning htime hle).mp hexpired).2
      have hmicro : (scanTimer (st.vc.setting g) ((st.timedRun es).1.groups g)).period.toNat
          = (st.vc.setting g).timeoutValue.toNat * 1000 := scanPeriod_toNat _
      rw [hmicro] at hperiod
      have hmod := Nat.mod_le (e.1 - t) (2 ^ 32)
      omega

/-- the requests of a group with constant link scan time -/
theorem constant_spaced {es : List (Nat × Event)} (hes : Clocked es) {g : Nat}
    (hg : g < st.vc.numGroups) (hconstant : (st.vc.setting g).useConstantLinkScanTime = true) :
    (requestTimes g (st.timedRun es).2).IsChain
      (fun t u => t + (st.vc.setting g).timeoutValue.toNat * 1000 ≤ u) := by
  induction es using List.reverseRecOn with
  | nil => exact .nil
  | append_singleton es e ih =>
    rw [st.timedRun_concat, requestTimes_append, requestTimes_stamp]
    cases st.timedRun_paced hes hg with
    | quiet hq =>
      rw [hq.none]
      show List.IsChain _ (_ ++ [])
      rw [List.append_nil]
      exact ih hes.left
    | sent hone _ _ _ =>
      rw [hone]
      refine (ih hes.left).append (.singleton _) ?_
      intro t hlast u hu
      obtain rfl := Option.some.inj hu
      rcases st.request_spaced hes hg hlast (by
        intro hnil
        rw [hnil] at hone
        cases hone) with h | ⟨h, _⟩
      · exact h
      · rw [hconstant] at h
        cases h

/-- the requests of group `g` in the run `es` -/
structure RequestSpacing (g : Nat) (es : List (Nat × Event)) : Prop where
  /-- with constant link scan time two requests are a timeout apart -/
  constant : (st.vc.setting g).useConstantLinkScanTime = true →
    (requestTimes g (st.timedRun es).2).IsChain
      (fun t u => t + (st.vc.setting g).timeoutValue.toNat * 1000 ≤ u)
  /-- and the events at one time, such as the timers and the frames of one call of
  `clm_iefb_periodic`, send one request at most -/
  once : (st.vc.setting g).useConstantLinkScanTime = true → ∀ pre call post time,
    es = pre ++ call ++ post → (∀ e ∈ call, e.1 = time) →
    (requestTimes g ((master.stamped Nat).run (st.timedRun pre).1 call).2).length ≤ 1
  /-- without it, an earlier request is sent when the completion condition holds -/
  early : (st.vc.setting g).useConstantLinkScanTime = false → ∀ pre e post, es = pre ++ e :: post →
    (requestTimes g ((master.stamped Nat).step (st.timedRun pre).1 e).2).length ≤ 1
      ∧ ∀ t u, (requestTimes g (st.timedRun pre).2).getLast? = some t →
        u ∈ requestTimes g ((master.stamped Nat).step (st.timedRun pre).1 e).2 →
        u < t + (st.vc.setting g).timeoutValue.toNat * 1000 → Completes (st.timedRun pre).1 g e.2

/-- **The time between two requests.** -/
theorem requestSpacing {es : List (Nat × Event)} (hes : Clocked es) {g : Nat}
    (hg : g < st.vc.numGroups) : st.RequestSpacing g es := by
  refine ⟨st.constant_spaced hes hg, ?_, ?_⟩
  · rintro hconstant pre call post time rfl htime
    have hchain := st.constant_spaced hes.left hg hconstant
    have hrun : (st.timedRun (pre ++ call)).2
        = (st.timedRun pre).2 ++ ((master.stamped Nat).run (st.timedRun pre).1 call).2 := by
      unfold timedRun
      rw [Machine.run_append]
    rw [hrun, requestTimes_append] at hchain
    have hcall := hchain.right_of_append
    have hat : ∀ t ∈ requestTimes g ((master.stamped Nat).run (st.timedRun pre).1 call).2,
        t = time := by
      intro t ht
      obtain ⟨x, hx, rfl⟩ := List.mem_map.mp ht
      obtain ⟨e, he, heq⟩ := master.stamped_mem (List.mem_filter.mp hx).1
      rw [← heq]
      exact htime e he
    generalize requestTimes g _ = times at hcall hat
    cases times with
    | nil => exact Nat.zero_le 1
    | cons t times =>
      cases times with
      | nil => exact le_refl 1
      | cons u times =>
        have hspaced := (List.isChain_cons_cons.mp hcall).1
        have htimeout := (st.vc.group hg).timeout
        rw [hat t List.mem_cons_self, hat u (List.mem_cons_of_mem t List.mem_cons_self)] at hspaced
        omega
  · rintro _ pre e post rfl
    have hes' : Clocked (pre ++ [e]) := by
      rw [List.append_cons] at hes
      exact hes.left
    have hstep : requestTimes g ((master.stamped Nat).step (st.timedRun pre).1 e).2
        = List.replicate ((clmStep (st.timedRun pre).1 e.2).2.filter
          (Output.isRequest g)).length e.1 := requestTimes_stamp g e.1 _
    rw [hstep, List.length_replicate]
    refine ⟨?_, ?_⟩
    · cases st.timedRun_paced hes' hg with
      | quiet hq =>
        rw [hq.none]
        exact Nat.zero_le 1
      | sent hone _ _ _ => exact le_of_eq hone
    · intro t u hlast hu hearly
      obtain ⟨hne, rfl⟩ := List.mem_replicate.mp hu
      rcases st.request_spaced hes' hg hlast (fun hnil => hne (congrArg List.length hnil))
        with h | ⟨_, h⟩
      · exact absurd hearly (Nat.not_lt.mpr h)
      · exact h

end MasterStart

/-! ## a run over the wrap of the clock -/

/-- a call of `clm_iefb_periodic` without frames -/
def timedTick (time : Nat) : Nat × Event := (time, .exampleTick (UInt32.ofNat time))

/-- the clock wraps at 4294967296 microseconds; both timers have expired in the last call -/
def wrapRun : List (Nat × Event) :=
  [timedTick 4000, timedTick 2147000000, timedTick 4294000000, timedTick 4294960000,
    timedTick 4294970000, timedTick 4294980000]

theorem requestSpacing_example :
    (exampleStart true true).RequestSpacing 0 wrapRun
      ∧ requestTimes 0 ((exampleStart true true).timedRun wrapRun).2
        = [4000, 2147000000, 4294000000, 4294960000, 4294980000] := by
  have hclocked : Clocked wrapRun := by
    refine ⟨by decide, ?_⟩
    intro e he clock hclock
    simp only [wrapRun, List.mem_cons, List.not_mem_nil, or_false] at he
    rcases he with rfl | rfl | rfl | rfl | rfl | rfl <;> exact (Option.some.inj hclock).symm
  exact ⟨(exampleStart true true).requestSpacing hclocked (by decide), by decide +kernel⟩

end CLink
