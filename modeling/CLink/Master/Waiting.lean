import CLink.Master.Lockstep

/-!
# What a group waits for

* `forGroups_mem`       an output of one group is an output of the function for all groups;
* `scanStart_request`   every link scan start sends a request;
* `noStalledGroup`      every waiting group has a running timer, and a tick at which it has expired
                        leads to the next request.
-/

namespace CLink
open Loop Trace

/-! ## outputs of one group -/

theorem forGroups_mem {c : Clm} {f : Nat → Scope → Scope} {p : Output → Bool} {g : Nat}
    (hg : g < c.numGroups) (hconfig : ∀ g s, (f g s).clm.config = s.clm.config)
    (h : ∀ s, s.clm.config = c.shared.config → s.group = c.groups g →
      ∃ x ∈ (f g s).out, p x = true) :
    ∃ x ∈ (c.forGroups f).2, p x = true := by
  obtain ⟨⟨_, hmem⟩, _, _, _⟩ := Clm.forGroups_inv (c := c) (f := f)
    (fun k clm out => clm.config = c.shared.config ∧ (g < k → ∃ x ∈ out, p x = true))
    (fun _ _ _ => True) ⟨rfl, fun h => absurd h (Nat.not_lt_zero g)⟩
    (by
      rintro k clm out _ ⟨hc, hout⟩
      refine ⟨⟨(hconfig k _).trans hc, ?_⟩, trivial⟩
      intro hlt
      rcases Nat.lt_succ_iff_lt_or_eq.mp hlt with hlt | rfl
      · obtain ⟨x, hx, hp⟩ := hout hlt
        exact ⟨x, List.mem_append_left _ hx, hp⟩
      · obtain ⟨x, hx, hp⟩ := h { clm := clm, group := c.groups g, out := [] } hc rfl
        exact ⟨x, List.mem_append_right _ hx, hp⟩)
  exact hmem hg

/-! ## requests -/

section
variable (g : Nat) (now : UInt32) (unixMs : Nat → UInt64)

theorem scanStart_request (s : Scope) :
    ∃ x ∈ (clmIefbOnLinkscanStart g now unixMs s).out, x.isRequest g = true := by
  refine ⟨_, List.mem_append_right _ (List.mem_append_right _ List.mem_cons_self), ?_⟩
  simp [Output.isRequest]

theorem arbitrationDone_request {s : Scope} (hs : s.group.groupState = .masterArbitration) :
    ∃ x ∈ (clmIefbGroupFsmEvent g now unixMs .arbitrationDone s).out, x.isRequest g = true := by
  rw [clmIefbGroupFsmEvent_arbitrationDone g now unixMs hs]
  exact scanStart_request g now unixMs _

theorem timeout_request {s : Scope} (hs : s.group.groupState = .masterLinkScan) :
    ∃ x ∈ (clmIefbGroupFsmEvent g now unixMs .linkscanTimeout s).out, x.isRequest g = true := by
  rw [clmIefbGroupFsmEvent_timeout g now unixMs hs]
  exact scanStart_request g now unixMs _

theorem linkscanStart_request {s : Scope} (hs : s.group.groupState = .masterLinkScanComp) :
    ∃ x ∈ (clmIefbGroupFsmEvent g now unixMs .linkscanStart s).out, x.isRequest g = true := by
  rw [clmIefbGroupFsmEvent_linkscanStart g now unixMs hs]
  exact scanStart_request g now unixMs _

theorem monitorGroupTimers_config (s : Scope) :
    (monitorGroupTimers g now unixMs s).clm.config = s.clm.config :=
  (scopeMoves_monitorGroupTimers (A := fun _ _ => True) (g := g) now unixMs rfl).config

/-- the second part of the loop body only adds outputs -/
theorem monitorConstant_mem (t : Scope) {p : Output → Bool} (h : ∃ x ∈ t.out, p x = true) :
    ∃ x ∈ (if clTimerIsExpired t.group.constantLinkscanTimer now then
        clmIefbGroupFsmEvent g now unixMs .linkscanStart { t with group := { t.group with
          constantLinkscanTimer := clTimerStop t.group.constantLinkscanTimer } }
      else t).out, p x = true := by
  split
  · obtain ⟨o, ho, _⟩ := (scopeMoves_scanStart (A := fun _ _ => True) (g := g)
      (s := { t with group := { t.group with
        constantLinkscanTimer := clTimerStop t.group.constantLinkscanTimer } }) now unixMs rfl).moves
    obtain ⟨x, hx, hp⟩ := h
    refine ⟨x, ?_, hp⟩
    rw [ho]
    exact List.mem_append_left _ hx
  · exact h

theorem monitorGroupTimers_timeout {s : Scope} (hs : s.group.groupState = .masterLinkScan)
    (hx : clTimerIsExpired s.group.responseWaitTimer now = true) :
    ∃ x ∈ (monitorGroupTimers g now unixMs s).out, x.isRequest g = true := by
  unfold monitorGroupTimers
  simp only [hx, if_true]
  apply monitorConstant_mem
  apply timeout_request
  exact hs

theorem monitorGroupTimers_constant {s : Scope} (hs : s.group.groupState = .masterLinkScanComp)
    (hx : clTimerIsExpired s.group.constantLinkscanTimer now = true) :
    ∃ x ∈ (monitorGroupTimers g now unixMs s).out, x.isRequest g = true := by
  have hstart : ∀ t : Scope, t.group.groupState = .masterLinkScanComp →
      t.group.constantLinkscanTimer = s.group.constantLinkscanTimer →
      ∃ x ∈ (if clTimerIsExpired t.group.constantLinkscanTimer now then
          clmIefbGroupFsmEvent g now unixMs .linkscanStart { t with group := { t.group with
            constantLinkscanTimer := clTimerStop t.group.constantLinkscanTimer } }
        else t).out, x.isRequest g = true := by
    intro t ht htimer
    rw [htimer, if_pos hx]
    apply linkscanStart_request
    exact ht
  unfold monitorGroupTimers
  by_cases hwait : clTimerIsExpired s.group.responseWaitTimer now = true
  · simp only [hwait, if_true]
    rw [clmIefbGroupFsmEvent_stay g now unixMs (by rw [hs]; rfl)]
    exact hstart _ hs rfl
  · simp only [hwait, Bool.false_eq_true, if_false]
    exact hstart s hs rfl

end

/-! ## ticks -/

section
variable {c : Clm} {g : Nat} (hg : g < c.numGroups) (now : UInt32) (unixMs : Nat → UInt64)
include hg

theorem periodicTimers_arbitrationDone (hs : (c.groups g).groupState = .masterArbitration)
    (hx : clTimerIsExpired c.shared.arbitrationTimer now = true) :
    ∃ x ∈ (clmIefbPeriodicTimers now unixMs c).2, x.isRequest g = true := by
  obtain ⟨x, hmem, hreq⟩ := forGroups_mem (p := Output.isRequest g)
    (c := { c with shared := { c.shared with
      errorlimiter := clLimiterPeriodic c.shared.errorlimiter now
      arbitrationTimer := clTimerStop c.shared.arbitrationTimer } })
    (f := fun g => clmIefbGroupFsmEvent g now unixMs .arbitrationDone) hg
    (fun g _ => (scopeMoves_arbitrationDone (A := fun _ _ => True) (g := g) now unixMs rfl).config)
    (fun s _ hgroup => arbitrationDone_request g now unixMs (by rw [hgroup]; exact hs))
  refine ⟨x, ?_, hreq⟩
  unfold clmIefbPeriodicTimers
  simp only [hx, if_true]
  exact List.mem_append_left _ hmem

/-- the end of an arbitration does not touch a running group -/
theorem periodicTimers_monitor (hs : (c.groups g).groupState ≠ .masterArbitration)
    (h : ∀ s, s.group = c.groups g → ∃ x ∈ (monitorGroupTimers g now unixMs s).out,
      x.isRequest g = true) :
    ∃ x ∈ (clmIefbPeriodicTimers now unixMs c).2, x.isRequest g = true := by
  have hmonitor : ∀ c' : Clm, c'.shared.config = c.shared.config → c'.groups g = c.groups g →
      ∃ x ∈ (clmIefbMonitorAllGroupTimers now unixMs c').2, x.isRequest g = true := by
    intro c' hconfig hgroup
    refine forGroups_mem (p := Output.isRequest g) (g := g) ?_
      (fun g s => monitorGroupTimers_config g now unixMs s) ?_
    · rw [Clm.numGroups, hconfig]
      exact hg
    · intro s _ hs'
      exact h s (hs'.trans hgroup)
  unfold clmIefbPeriodicTimers
  simp only
  split
  · obtain ⟨hconfig, _, hgroups, _⟩ := Clm.forGroups_spec
      (c := { c with shared := { c.shared with
        errorlimiter := clLimiterPeriodic c.shared.errorlimiter now
        arbitrationTimer := clTimerStop c.shared.arbitrationTimer } })
      (f := fun g => clmIefbGroupFsmEvent g now unixMs .arbitrationDone)
      (fun _ clm => clm.config = c.shared.config)
      (fun _ gd gd' => gd.groupState ≠ .masterArbitration → gd' = gd) (fun _ => True) rfl
      (by
        intro k clm _ hclm
        refine ⟨(scopeMoves_arbitrationDone (A := fun _ _ => True) (g := k) now unixMs
          hclm).config.trans hclm, ?_, fun _ _ => trivial⟩
        intro hk
        rw [clmIefbGroupFsmEvent_stay k now unixMs]
        generalize c.groups k = gd at hk ⊢
        show groupFsmMatrix gd.groupState _ = _
        generalize gd.groupState = state at hk
        cases state <;> first | rfl | exact absurd rfl hk)
    obtain ⟨x, hx, hreq⟩ := hmonitor _ hconfig (hgroups g hg hs)
    exact ⟨x, List.mem_append_right _ hx, hreq⟩
  · exact hmonitor _ rfl rfl

end

/-- a running timer expires -/
theorem clTimerIsExpired_at {timer : Timer} (hrun : timer.state = .running)
    (hperiod : timer.period.toNat < 0x80000000) :
    clTimerIsExpired timer (timer.timestamp + timer.period) = true := by
  have hdelta : timer.timestamp + timer.period - timer.timestamp = timer.period := by
    rw [UInt32.add_comm, UInt32.add_sub_cancel]
  have hle : ¬ timer.period > (0xFFFFFFFF : UInt32) >>> 1 := by
    rw [gt_iff_lt, UInt32.lt_iff_toNat_lt]
    show ¬ 0x7FFFFFFF < _
    omega
  unfold clTimerIsExpired
  rw [if_neg (by rw [hrun]; simp)]
  simp only [hdelta, if_neg hle]
  simp

/-! ## runs -/

namespace MasterStart
variable {o : Options} (st : MasterStart o)

/-- what the groups wait for -/
structure NoStalledGroup (c : Clm) : Prop where
  scan : ∀ g, g < c.numGroups → (c.groups g).groupState = .masterLinkScan →
    (c.groups g).responseWaitTimer.state = .running
      ∧ (c.groups g).responseWaitTimer.period.toNat = (c.setting g).timeoutValue.toNat * 1000
      ∧ (c.groups g).responseWaitTimer.timestamp = (c.groups g).timestampLinkScanStart
  comp : ∀ g, g < c.numGroups → (c.groups g).groupState = .masterLinkScanComp →
    (c.setting g).useConstantLinkScanTime = true
      ∧ (c.groups g).constantLinkscanTimer.state = .running
      ∧ (c.groups g).constantLinkscanTimer.timestamp = (c.groups g).timestampLinkScanStart
  arbitration : ∀ g, g < c.numGroups → (c.groups g).groupState = .masterArbitration →
    c.shared.arbitrationTimer.state = .running
  /-- there is a time at which a tick leads to the next request of a waiting group -/
  leaves : c.aborted = false → ∀ g, g < c.numGroups → (c.groups g).groupState ≠ .masterListen →
    ∃ now, ∀ unixMs, ∃ x ∈ (clmStep c (.tick now unixMs)).2, x.isRequest g = true

/-- **No stalled group.** -/
theorem noStalledGroup (es : List Event) : NoStalledGroup (st.run es).1 := by
  obtain ⟨P, h, htimer⟩ := st.run_lockstep es
  have hscan : ∀ g, g < (st.run es).1.numGroups →
      ((st.run es).1.groups g).groupState = .masterLinkScan →
      ((st.run es).1.groups g).responseWaitTimer
        = scanTimer ((st.run es).1.setting g) ((st.run es).1.groups g) :=
    fun g hg => (h.rest g hg).scan
  have hcomp : ∀ g, g < (st.run es).1.numGroups →
      ((st.run es).1.groups g).groupState = .masterLinkScanComp →
      ((st.run es).1.setting g).useConstantLinkScanTime = true
        ∧ ((st.run es).1.groups g).constantLinkscanTimer
          = scanTimer ((st.run es).1.setting g) ((st.run es).1.groups g) :=
    fun g hg => (h.rest g hg).comp
  have harb : ∀ g, g < (st.run es).1.numGroups →
      ((st.run es).1.groups g).groupState = .masterArbitration →
      (st.run es).1.shared.arbitrationTimer = st.arbitrationTimer := by
    intro g hg hs
    apply htimer
    have hphase := h.phase g hg
    rw [hs] at hphase
    exact (Option.some.inj hphase).symm
  have hmicro : ∀ n : UInt16, (n.toUInt32 * microsecondsPerMillisecond).toNat < 0x80000000 := by
    intro n
    have hlt := n.toNat_lt
    rw [UInt32.toNat_mul, UInt16.toNat_toUInt32]
    show n.toNat * 1000 % 4294967296 < 2147483648
    rw [Nat.mod_eq_of_lt (by omega)]
    omega
  refine ⟨?_, ?_, ?_, ?_⟩
  · intro g hg hs
    rw [hscan g hg hs]
    exact ⟨rfl, scanPeriod_toNat _, rfl⟩
  · intro g hg hs
    obtain ⟨hconst, heq⟩ := hcomp g hg hs
    rw [heq]
    exact ⟨hconst, rfl, rfl⟩
  · intro g hg hs
    rw [harb g hg hs]
    rfl
  · intro hlive g hg hlisten
    have htick : ∀ now unixMs, clmStep (st.run es).1 (.tick now unixMs)
        = clmIefbPeriodicTimers now unixMs (st.run es).1 := by
      intro now unixMs
      exact if_neg (by rw [hlive]; simp)
    simp only [htick]
    have hphase := h.phase g hg
    cases hs : ((st.run es).1.groups g).groupState with
    | masterDown =>
      rw [hs] at hphase
      cases hphase
    | masterListen => exact absurd hs hlisten
    | masterArbitration =>
      refine ⟨st.arbitrationTimer.timestamp + st.arbitrationTimer.period,
        fun unixMs => periodicTimers_arbitrationDone hg _ unixMs hs ?_⟩
      rw [harb g hg hs]
      exact clTimerIsExpired_at rfl (hmicro _)
    | masterLinkScan =>
      refine ⟨(scanTimer ((st.run es).1.setting g) ((st.run es).1.groups g)).timestamp
        + (scanTimer ((st.run es).1.setting g) ((st.run es).1.groups g)).period,
      fun unixMs => periodicTimers_monitor hg _ unixMs (by rw [hs]; simp) ?_⟩
      intro s hgroup
      apply monitorGroupTimers_timeout
      · rw [hgroup]
        exact hs
      · rw [hgroup, hscan g hg hs]
        exact clTimerIsExpired_at rfl (hmicro _)
    | masterLinkScanComp =>
      refine ⟨(scanTimer ((st.run es).1.setting g) ((st.run es).1.groups g)).timestamp
        + (scanTimer ((st.run es).1.setting g) ((st.run es).1.groups g)).period,
      fun unixMs => periodicTimers_monitor hg _ unixMs (by rw [hs]; simp) ?_⟩
      intro s hgroup
      apply monitorGroupTimers_constant
      · rw [hgroup]
        exact hs
      · rw [hgroup, (hcomp g hg hs).2]
        exact clTimerIsExpired_at rfl (hmicro _)

end MasterStart

end CLink
