import CLink.Lib.Polling
import CLink.Master.RequestSpacing

/-!
# Requests in time

The application calls `clm_iefb_periodic` often enough.  Then the master does not fall silent: after
every call, the latest request of a group is not older than the timeout of the group.

* `lastTick`, `Attentive`     the calls of `clm_iefb_periodic`, at least one every `pollGap` microseconds;
* `tick_arbitration`, `tick_scan`   a tick that finds a group overdue;
* `OnTime`                    what holds after a tick;
* `MasterStart.requestsInTime`   every run.
-/

namespace CLink
open Loop Trace Polling

/-! ## ticks -/

def Event.isTick : Event → Bool
  | tick _ _ => true
  | _ => false

theorem Event.isTick_eq {e : Event} (he : e.isTick = true) : ∃ now unixMs, e = .tick now unixMs := by
  cases e with
  | tick now unixMs => exact ⟨now, unixMs, rfl⟩
  | _ => cases he

/-- the time of the last tick, or of the start -/
def lastTick (start : Nat) (es : List (Nat × Event)) : Nat :=
  last (fun e => e.2.isTick) Prod.fst start es

/-- every event is after the start, and less than `pollGap` microseconds lie between two ticks -/
def Attentive (start : Nat) (es : List (Nat × Event)) : Prop :=
  Regular (fun e => e.2.isTick) Prod.fst pollGap start es

/-! ## overdue -/

section
variable {c : Clm} {g : Nat} (hg : g < c.numGroups) (hlive : c.aborted = false) {now : UInt32}
  (unixMs : Nat → UInt64)
include hg hlive

theorem tick_arbitration (hs : (c.groups g).groupState.phase = some .arbitration)
    (hx : clTimerIsExpired c.shared.arbitrationTimer now = true) :
    (clmStep c (.tick now unixMs)).2.filter (Output.isRequest g) ≠ [] := by
  have hstep : clmStep c (.tick now unixMs) = clmIefbPeriodicTimers now unixMs c :=
    if_neg (by rw [hlive]; decide)
  have hstate : (c.groups g).groupState = .masterArbitration := by
    cases hstate : (c.groups g).groupState <;> rw [hstate] at hs <;> first | rfl | cases hs
  obtain ⟨x, hx, hrequest⟩ := periodicTimers_arbitrationDone hg now unixMs hstate hx
  rw [hstep]
  exact List.ne_nil_of_mem (List.mem_filter.mpr ⟨hx, hrequest⟩)

theorem tick_scan (hrest : GroupRest (c.setting g) (c.groups g))
    (hs : (c.groups g).groupState.phase = some .running)
    (hx : clTimerIsExpired (scanTimer (c.setting g) (c.groups g)) now = true) :
    (clmStep c (.tick now unixMs)).2.filter (Output.isRequest g) ≠ [] := by
  have hstep : clmStep c (.tick now unixMs) = clmIefbPeriodicTimers now unixMs c :=
    if_neg (by rw [hlive]; decide)
  obtain ⟨x, hx, hrequest⟩ : ∃ x ∈ (clmIefbPeriodicTimers now unixMs c).2,
      x.isRequest g = true := by
    cases hstate : (c.groups g).groupState with
    | masterDown | masterListen | masterArbitration =>
      rw [hstate] at hs
      cases hs
    | masterLinkScan =>
      refine periodicTimers_monitor hg now unixMs (by rw [hstate]; decide) ?_
      intro s hgroup
      apply monitorGroupTimers_timeout
      · rw [hgroup]
        exact hstate
      · rw [hgroup, hrest.scan hstate]
        exact hx
    | masterLinkScanComp =>
      refine periodicTimers_monitor hg now unixMs (by rw [hstate]; decide) ?_
      intro s hgroup
      apply monitorGroupTimers_constant
      · rw [hgroup]
        exact hstate
      · rw [hgroup, (hrest.comp hstate).2]
        exact hx
  rw [hstep]
  exact List.ne_nil_of_mem (List.mem_filter.mpr ⟨hx, hrequest⟩)

end

/-! ## runs -/

namespace MasterStart
variable {o : Options} (st : MasterStart o)

/-- the time at which the arbitration is over -/
def arbitrationEnd (start : Nat) : Nat := start + st.vc.cfg.arbitrationTime.toNat * 1000

/-- group `g` after the tick at the time `t`, with its requests so far: the arbitration goes on until
`limit`, or the latest request is younger than the timeout -/
structure InTime (limit t g : Nat) (gd : GroupData) (times : List Nat) : Prop where
  arbitration : gd.groupState.phase = some .arbitration → t < limit
  running : gd.groupState.phase = some .running →
    ∃ u, times.getLast? = some u ∧ t < u + (st.vc.setting g).timeoutValue.toNat * 1000

section
variable {st} {limit t u g : Nat} {gd gd' : GroupData} {times : List Nat}

theorem InTime.congr (h : st.InTime limit t g gd times)
    (hphase : gd'.groupState.phase = gd.groupState.phase ∨ gd'.groupState.phase = some .listen) :
    st.InTime limit t g gd' times := by
  rcases hphase with hphase | hphase
  · refine ⟨?_, ?_⟩
    · rw [hphase]
      exact h.arbitration
    · rw [hphase]
      exact h.running
  · refine ⟨?_, ?_⟩ <;>
    · rw [hphase]
      intro h
      cases h

/-- a request at the time `u`, which is not before the tick -/
theorem InTime.sent (hg : g < st.vc.numGroups)
    (hphase : gd.groupState.phase = some .running ∨ gd.groupState.phase = some .listen)
    (hle : t ≤ u) : st.InTime limit t g gd (times ++ [u]) := by
  have htimeout := (st.vc.group hg).timeout
  refine ⟨?_, ?_⟩
  · intro h
    rcases hphase with hphase | hphase <;> rw [hphase] at h <;> cases h
  · intro _
    exact ⟨u, List.getLast?_concat, by omega⟩

end

/-- the requests are not later than the next event -/
theorem requestTimes_le {es : List (Nat × Event)} {e : Nat × Event} (hes : Clocked (es ++ [e]))
    {u : Nat} (hu : u ∈ requestTimes g (st.timedRun es).2) : u ≤ e.1 := by
  obtain ⟨x, hx, rfl⟩ := List.mem_map.mp hu
  obtain ⟨e', he', heq⟩ := master.stamped_mem (List.mem_filter.mp hx).1
  rw [← heq]
  exact hes.latest e' he'

theorem timedRun_live {es : List (Nat × Event)} {e : Nat × Event}
    (hlive : (st.timedRun (es ++ [e])).1.aborted = false) : (st.timedRun es).1.aborted = false := by
  rw [← Bool.not_eq_true]
  intro hdead
  have hstays : clmStep (st.timedRun es).1 e.2 = ((st.timedRun es).1, []) := if_pos hdead
  rw [st.timedRun_concat, hstays, hdead] at hlive
  cases hlive

section
variable {start g : Nat} (hstart : st.now = UInt32.ofNat start) {es : List (Nat × Event)} {t : Nat}
  {now : UInt32} {unixMs : Nat → UInt64} (hes : Clocked (es ++ [(t, .tick now unixMs)]))
  (hticks : Attentive start (es ++ [(t, .tick now unixMs)])) (hg : g < st.vc.numGroups)
  (hlive : (st.timedRun es).1.aborted = false)
  (hbefore : st.InTime (st.arbitrationEnd start + 1) (lastTick start es) g
    ((st.timedRun es).1.groups g) (requestTimes g (st.timedRun es).2))
  (hnone : (clmStep (st.timedRun es).1 (.tick now unixMs)).2.filter (Output.isRequest g) = [])
include hstart hes hticks hg hlive hbefore hnone

/-- a tick without a request finds nothing overdue -/
theorem timedRun_notDue :
    st.InTime (st.arbitrationEnd start) t g ((st.timedRun es).1.groups g)
      (requestTimes g (st.timedRun es).2) := by
  obtain ⟨P, hphase, htimer⟩ := st.run_lockstep (es.map Prod.snd)
  rw [← st.timedRun_state] at hphase htimer
  have hin : g < (st.timedRun es).1.numGroups := by
    rw [st.timedRun_state, Clm.numGroups, (st.run_config (es.map Prod.snd)).1]
    exact hg
  have hnow : now = UInt32.ofNat t := hes.last now rfl
  have hsoon : t < lastTick start es + pollGap := hticks.soon rfl
  unfold arbitrationEnd at hbefore ⊢
  refine ⟨?_, ?_⟩
  · intro harb
    have hwaits := hbefore.arbitration harb
    have hle : start ≤ t := hticks.since _ (List.mem_append_right _ (List.mem_singleton_self _))
    have hlong := st.vc.cfg.arbitrationTime.toNat_lt
    by_contra hover
    refine tick_arbitration hin hlive unixMs harb ?_ hnone
    have hP : P = .arbitration := Option.some.inj ((hphase.phase g hin).symm.trans harb)
    have hperiod : st.arbitrationTimer.period.toNat = st.vc.cfg.arbitrationTime.toNat * 1000 :=
      milliseconds_toNat st.vc.cfg.arbitrationTime
    rw [htimer hP, hnow]
    exact clTimerIsExpired_late rfl hstart (by omega) (by omega) hsoon (by omega)
  · intro hrun
    obtain ⟨u, hu, hwaits⟩ := hbefore.running hrun
    obtain ⟨u', hu', htime⟩ := (st.run_lastRequest hes.left hg).running hrun
    obtain rfl : u = u' := Option.some.inj (hu.symm.trans hu')
    have hle := st.requestTimes_le hes (List.mem_of_getLast? hu)
    have hlong := (st.vc.setting g).timeoutValue.toNat_lt
    refine ⟨u, hu, ?_⟩
    by_contra hover
    refine tick_scan hin hlive unixMs (hphase.rest g hin) hrun ?_ hnone
    have hperiod : (scanTimer ((st.timedRun es).1.setting g) ((st.timedRun es).1.groups g)).period.toNat
        = (st.vc.setting g).timeoutValue.toNat * 1000 := by
      rw [st.timedRun_setting]
      exact scanPeriod_toNat _
    rw [hnow]
    exact clTimerIsExpired_late rfl htime (by omega) (by omega) hsoon (by omega)

end

section
variable {start g : Nat} (hstart : st.now = UInt32.ofNat start) {es : List (Nat × Event)} {t : Nat}
  {now : UInt32} {unixMs : Nat → UInt64} (hes : Clocked (es ++ [(t, .tick now unixMs)]))
  (hticks : Attentive start (es ++ [(t, .tick now unixMs)])) (hg : g < st.vc.numGroups)
  (hlive : (st.timedRun es).1.aborted = false)
include hstart hes hticks hg hlive

theorem timedRun_tick
    (hbefore : st.InTime (st.arbitrationEnd start + 1) (lastTick start es) g
      ((st.timedRun es).1.groups g) (requestTimes g (st.timedRun es).2)) :
    st.InTime (st.arbitrationEnd start) t g
      ((st.timedRun (es ++ [(t, .tick now unixMs)])).1.groups g)
      (requestTimes g (st.timedRun (es ++ [(t, .tick now unixMs)])).2) := by
  rw [st.timedRun_concat, requestTimes_append, requestTimes_stamp]
  cases st.timedRun_paced hes hg with
  | sent hone _ hafter _ =>
    rw [hone]
    exact .sent hg hafter (le_refl t)
  | quiet hq =>
    rw [hq.none, List.length_nil, List.replicate_zero, List.append_nil]
    exact (st.timedRun_notDue hstart hes hticks hg hlive hbefore hq.none).congr hq.phase

end

theorem run_inTime {start : Nat} (hstart : st.now = UInt32.ofNat start) {es : List (Nat × Event)}
    (hes : Clocked es) (hticks : Attentive start es) (hlive : (st.timedRun es).1.aborted = false)
    {g : Nat} (hg : g < st.vc.numGroups) :
    st.InTime (st.arbitrationEnd start + 1) (lastTick start es) g ((st.timedRun es).1.groups g)
      (requestTimes g (st.timedRun es).2) := by
  induction es using List.reverseRecOn with
  | nil =>
    have hstate := (st.init_spec.group g hg).state
    have hphase : ((st.timedRun []).1.groups g).groupState.phase = some .arbitration :=
      congrArg GroupState.phase hstate
    refine ⟨fun _ => ?_, ?_⟩
    · show start < st.arbitrationEnd start + 1
      exact Nat.lt_succ_of_le (Nat.le_add_right _ _)
    · rw [hphase]
      intro h
      cases h
  | append_singleton es e ih =>
    have hlive' := st.timedRun_live hlive
    have hbefore := ih hes.left hticks.left hlive'
    cases he : e.2.isTick with
    | true =>
      obtain ⟨t, e⟩ := e
      obtain ⟨now, unixMs, rfl⟩ := Event.isTick_eq he
      rw [show lastTick start (es ++ [(t, .tick now unixMs)]) = t from last_poll rfl]
      have htick := st.timedRun_tick hstart hes hticks hg hlive' hbefore
      exact ⟨fun h => Nat.lt_succ_of_lt (htick.arbitration h), htick.running⟩
    | false =>
      rw [show lastTick start (es ++ [e]) = lastTick start es from last_other he, st.timedRun_concat, requestTimes_append, requestTimes_stamp]
      cases st.timedRun_paced hes hg with
      | sent hone _ hafter _ =>
        rw [hone]
        exact .sent hg hafter (hticks.last_le hes.latest)
      | quiet hq =>
        rw [hq.none, List.length_nil, List.replicate_zero, List.append_nil]
        exact hbefore.congr hq.phase

/-- **The master does not fall silent.**  After every tick of a run with regular ticks, the group has
been stopped, or the arbitration is not over and nothing has been sent, or the latest request is
younger than the timeout of the group. -/
theorem requestsInTime {start : Nat} (hstart : st.now = UInt32.ofNat start)
    {es : List (Nat × Event)} {t : Nat} {now : UInt32} {unixMs : Nat → UInt64}
    (hes : Clocked (es ++ [(t, .tick now unixMs)]))
    (hticks : Attentive start (es ++ [(t, .tick now unixMs)])) {g : Nat} (hg : g < st.vc.numGroups) :
    let after := st.timedRun (es ++ [(t, .tick now unixMs)])
    after.1.aborted = true ∨ (after.1.groups g).groupState = .masterListen
      ∨ requestTimes g after.2 = [] ∧ t < st.arbitrationEnd start
      ∨ ∃ u, (requestTimes g after.2).getLast? = some u ∧ u ≤ t
        ∧ t < u + (st.vc.setting g).timeoutValue.toNat * 1000 := by
  intro after
  cases hlive : after.1.aborted with
  | true => exact Or.inl rfl
  | false =>
    refine Or.inr ?_
    have hlive' := st.timedRun_live hlive
    have hbefore := st.run_inTime hstart hes.left hticks.left hlive' hg
    have hintime := st.timedRun_tick hstart hes hticks hg hlive' hbefore
    have hlast := st.run_lastRequest hes hg
    obtain ⟨P, hphase, _⟩ := st.run_lockstep ((es ++ [(t, Event.tick now unixMs)]).map Prod.snd)
    rw [← st.timedRun_state] at hphase
    have hphase : (after.1.groups g).groupState.phase = some P := by
      refine hphase.phase g ?_
      rw [st.timedRun_state, Clm.numGroups, (st.run_config _).1]
      exact hg
    cases P with
    | listen =>
      refine Or.inl ?_
      cases hstate : (after.1.groups g).groupState <;> rw [hstate] at hphase <;>
        first | rfl | cases hphase
    | arbitration => exact Or.inr (Or.inl ⟨hlast.arbitration hphase, hintime.arbitration hphase⟩)
    | running =>
      obtain ⟨u, hu, hyoung⟩ := hintime.running hphase
      refine Or.inr (Or.inr ⟨u, hu, ?_, hyoung⟩)
      have hmem := List.mem_of_getLast? hu
      rw [st.timedRun_concat, requestTimes_append, requestTimes_stamp] at hmem
      rcases List.mem_append.mp hmem with hmem | hmem
      · exact st.requestTimes_le hes hmem
      · exact le_of_eq (List.eq_of_mem_replicate hmem)

end MasterStart

/-- with a timeout of 20 milliseconds -/
def regularTicks : List (Nat × Event) := [timedTick 4000, timedTick 14000, timedTick 24000]

/-- 10 milliseconds after the second request -/
theorem requestsInTime_example :
    ∃ u, (requestTimes 0 ((exampleStart true true).timedRun
        (regularTicks ++ [(34000, .tick 34000 fun _ => 0)])).2).getLast? = some u
      ∧ u ≤ 34000 ∧ 34000 < u + 20 * 1000 := by
  have hclocked : Clocked (regularTicks ++ [(34000, .tick 34000 fun _ => 0)]) := by
    refine ⟨by decide, ?_⟩
    intro e he clock hclock
    simp only [regularTicks, List.cons_append, List.nil_append, List.mem_cons, List.not_mem_nil,
      or_false] at he
    rcases he with rfl | rfl | rfl | rfl <;> exact (Option.some.inj hclock).symm
  have hticks : Attentive 0 (regularTicks ++ [(34000, .tick 34000 fun _ => 0)]) := by
    refine ⟨fun e _ => Nat.zero_le _, ?_⟩
    show List.IsChain _ [0, 4000, 14000, 24000, 34000]
    decide
  rcases (exampleStart true true).requestsInTime rfl hclocked hticks (g := 0) (by decide)
    with h | h | ⟨h, _⟩ | h
  · exact absurd h (by decide +kernel)
  · exact absurd h (by decide +kernel)
  · exact absurd h (by decide +kernel)
  · exact h

end CLink
