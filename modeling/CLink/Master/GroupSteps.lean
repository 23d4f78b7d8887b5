import CLink.Master.MasterDuplication

/-!
# A step seen from one group

What a group gets from outside comes first, then the group moves on its own.

* `GroupStep c e g`        the outputs and the next data of group `g` in the event `e`;
* `clmStep_group`          every step of the master is such a step of every group;
* `MasterStart.group_inv`  an invariant of a group over whole runs, with the outputs so far.
-/

namespace CLink
open Loop Trace

/-! ## steps -/

/-- the moves of a group without inputs -/
def Internal (cfg : Config) (g : Nat) : GroupData → List Output → GroupData → Prop :=
  GroupMove cfg g (fun _ _ => False)

inductive GroupStep (c : Clm) (e : Event) (g : Nat) : List Output → GroupData → Prop where
  | internal (hno : c.aborted = true ∨ ∀ x, ¬ GroupReceives c e g x)
      {o : List Output} {gd' : GroupData}
      (h : Star (Internal c.shared.config g) (c.groups g) o gd') : GroupStep c e g o gd'
  | call (x : GroupInput) (hx : GroupReceives c e g x) (hc : ∀ d r, x ≠ .response d r)
      {o : List Output} {gd' : GroupData}
      (h : Star (GroupMove c.shared.config g (fun y _ => y = x)) (c.groups g) o gd') :
      GroupStep c e g o gd'
  | rejected (d : Nat) (r : CyclicResponse) (hr : GroupReceives c e g (.response d r))
      (hd : d < (c.setting g).numSlaveDevices.toNat)
      (hc : (checkDevice (c.setting g) d r (c.groups g)).2 = false) :
      GroupStep c e g []
        ((c.groups g).modifyDevice d (fun _ => (checkDevice (c.setting g) d r (c.groups g)).1))
  | accepted (d : Nat) (r : CyclicResponse) (hr : GroupReceives c e g (.response d r))
      (hd : d < (c.setting g).numSlaveDevices.toNat)
      (hc : (checkDevice (c.setting g) d r (c.groups g)).2 = true)
      {o : List Output} {gd' : GroupData}
      (h : Star (Internal c.shared.config g)
        (acceptResponse c.shared.config (c.setting g) d r (c.groups g)) o gd')
      (hdupl : r.fullHeaders.cyclicHeader.endCode = endcodeMasterDuplication →
        (c.groups g).groupState.running = true → gd'.groupState = .masterListen) :
      GroupStep c e g
        (reports g d r ((c.groups g).slaveDevices d).latestFrame
          ++ [.stored g d r ((c.groups g).slaveDevices d).transmissionBit] ++ o) gd'

/-- a response of a device is the only input of its step -/
theorem GroupStep.response_cases {c : Clm} {e : Event} {g d : Nat} {r : CyclicResponse}
    {o : List Output} {gd' : GroupData} (h : GroupStep c e g o gd')
    (hr : GroupReceives c e g (.response d r)) (hlive : c.aborted = false) :
    ((checkDevice (c.setting g) d r (c.groups g)).2 = false ∧ o = []
        ∧ gd' = (c.groups g).modifyDevice d
          (fun _ => (checkDevice (c.setting g) d r (c.groups g)).1))
      ∨ ((checkDevice (c.setting g) d r (c.groups g)).2 = true
        ∧ ∃ o', o = reports g d r ((c.groups g).slaveDevices d).latestFrame
            ++ [.stored g d r ((c.groups g).slaveDevices d).transmissionBit] ++ o'
          ∧ Star (Internal c.shared.config g)
            (acceptResponse c.shared.config (c.setting g) d r (c.groups g)) o' gd') := by
  have hsame : ∀ {d' r'}, GroupReceives c e g (.response d' r') → d' = d ∧ r' = r := by
    rintro d' r' ⟨_, _, _, _, _, he, hr'⟩
    obtain ⟨_, _, _, _, _, rfl, hr⟩ := hr
    cases he
    rw [hr] at hr'
    cases hr'
    exact ⟨rfl, rfl⟩
  cases h with
  | internal hno h =>
    rcases hno with ha | hno
    · rw [hlive] at ha
      cases ha
    · exact absurd hr (hno _)
  | call x hx hnot h =>
    obtain ⟨_, _, _, _, _, rfl, _⟩ := hr
    cases x with
    | response d' r' => exact absurd rfl (hnot d' r')
    | _ => cases hx
  | rejected d' r' hr' hd' hc' =>
    obtain ⟨rfl, rfl⟩ := hsame hr'
    exact Or.inl ⟨hc', rfl, rfl⟩
  | accepted d' r' hr' hd' hc' h hlisten =>
    obtain ⟨rfl, rfl⟩ := hsame hr'
    exact Or.inr ⟨hc', _, rfl, h⟩

/-- without inputs -/
theorem GroupMove.internal {cfg : Config} {g : Nat} {A : GroupInput → GroupData → Prop}
    (hA : ∀ x gd, ¬ A x gd) {gd gd' : GroupData} {o : List Output}
    (h : GroupMove cfg g A gd o gd') : Internal cfg g gd o gd' := by
  cases h with
  | setEnabled d enabled ha => exact absurd ha (hA _ _)
  | setForce d force ha => exact absurd ha (hA _ _)
  | clearStatistics ha => exact absurd ha (hA _ _)
  | rejected d r hd ha hc => exact absurd ha (hA _ _)
  | accepted d r hd ha hc => exact absurd ha (hA _ _)
  | writeMemoryArea ry rww => exact .writeMemoryArea gd ry rww
  | stopResponseWaitTimer => exact .stopResponseWaitTimer gd
  | stopConstantLinkscanTimer => exact .stopConstantLinkscanTimer gd
  | complete hs hr => exact .complete gd hs hr
  | timeout hs => exact .timeout gd hs
  | arbitrationDone hs => exact .arbitrationDone gd hs
  | start clm now unixMs hclm hs => exact .start gd clm now unixMs hclm hs
  | standby hs => exact .standby gd hs

section
variable (c : Clm) (e : Event) {g : Nat} (hg : g < c.numGroups)
include hg

theorem clmStep_internal (hno : ∀ x, ¬ GroupReceives c e g x) :
    GroupStep c e g (ofGroup g (clmStep c e).2) ((clmStep c e).1.groups g) := by
  have hm := clmStep_moves (A := fun h _ _ => h ≠ g) c e (by
    intro h x hx heq
    rw [heq] at hx
    exact hno x hx)
  exact .internal (Or.inr hno) ((hm.group g hg).mono (fun _ _ _ => GroupMove.internal (fun _ _ h => h rfl)))

/-- a call of the application with one input for the group -/
theorem clmStep_call {x : GroupInput} (hx : GroupReceives c e g x) (hc : ∀ d r, x ≠ .response d r)
    (hone : ∀ y, GroupReceives c e g y → y = x) :
    GroupStep c e g (ofGroup g (clmStep c e).2) ((clmStep c e).1.groups g) := by
  have hm := clmStep_moves (A := fun h y _ => h = g → y = x) c e (by
    intro h y hy heq
    rw [heq] at hy
    exact hone y hy)
  refine .call x hx hc ((hm.group g hg).mono ?_)
  intro gd o gd' h
  rw [show (fun y _ => y = x) = (fun (y : GroupInput) (_ : GroupData) => g = g → y = x) by simp]
  exact h

end

/-- outputs about no group -/
theorem ofGroup_none {g : Nat} {o : List Output} (h : ∀ x ∈ o, x.owner = none) :
    ofGroup g o = [] := by
  apply List.filter_eq_nil_iff.mpr
  intro x hx
  simp [Output.isOf, h x hx]

/-- the callbacks and the mark of an accepted response -/
theorem ofGroup_accepted (g d : Nat) (r : CyclicResponse) (latest : FrameValues) (valid : Bool) :
    ofGroup g (reports g d r latest ++ [.stored g d r valid])
      = reports g d r latest ++ [.stored g d r valid] := by
  apply List.filter_eq_self.mpr
  intro x hx
  have hown : x.owner = some g := by
    rcases List.mem_append.mp hx with hx | hx
    · exact (reports_spec g d r latest x hx).1
    · rw [List.mem_singleton.mp hx]
      rfl
  simp [Output.isOf, hown]

section
variable {c : Clm} {e : Event} {g d : Nat} {r : CyclicResponse} (now : UInt32)
  (unixMs : Nat → UInt64) (hg : g < c.numGroups) (hd : d < (c.setting g).numSlaveDevices.toNat)
  (hr : GroupReceives c e g (.response d r))
include hg hd hr

/-- the response of a device, seen from its own group -/
theorem handleDeviceResponse_group :
    GroupStep c e g (ofGroup g (handleDeviceResponse g d now unixMs r c).2.1)
      ((handleDeviceResponse g d now unixMs r c).1.groups g) := by
  obtain ⟨hs, hcheck⟩ := checkResponse_spec g d now r (c.scope g)
  cases hc : (checkDevice (c.setting g) d r (c.groups g)).2 with
  | false =>
    have hc' : (checkResponse g d now r (c.scope g)).2 = false := hcheck.trans hc
    unfold handleDeviceResponse
    simp only
    rw [if_pos hc']
    obtain ⟨hgroup, _, _, o, ho, hown⟩ := hs
    have hout : (c.setScope g (checkResponse g d now r (c.scope g)).1).2 = o := ho
    have hgd : (c.setScope g (checkResponse g d now r (c.scope g)).1).1.groups g
        = (c.groups g).modifyDevice d
          (fun _ => (checkDevice (c.setting g) d r (c.groups g)).1) := by
      show Function.update c.groups g _ g = _
      rw [Function.update_self]
      exact hgroup
    show GroupStep c e g (ofGroup g (c.setScope g (checkResponse g d now r (c.scope g)).1).2)
      ((c.setScope g (checkResponse g d now r (c.scope g)).1).1.groups g)
    rw [hout, hgd, ofGroup_none hown]
    exact .rejected d r hr hd hc
  | true =>
    have hc' : ¬ (checkResponse g d now r (c.scope g)).2 = false := by
      rw [hcheck]
      exact fun hf => Bool.false_ne_true (hf.symm.trans hc)
    obtain ⟨o, hown, hgroup, hclm, hout⟩ := acceptedScope_eq (s := c.scope g) hc hs
    have hgroup' : (storeResponse g d r (checkResponse g d now r (c.scope g)).1).group.modifyDevice d
        (deviceResponse (c.setting g) r)
          = acceptResponse c.shared.config (c.setting g) d r (c.groups g) := hgroup
    have hconfig : (storeResponse g d r (checkResponse g d now r (c.scope g)).1).clm.config
        = c.shared.config := by
      rw [hclm]
      exact hs.config
    have hset : (storeResponse g d r (checkResponse g d now r (c.scope g)).1).setting g
        = c.setting g := by
      rw [Scope.setting, hconfig]
      rfl
    have hout' : (storeResponse g d r (checkResponse g d now r (c.scope g)).1).out
        = o ++ (reports g d r ((c.groups g).slaveDevices d).latestFrame
          ++ [.stored g d r ((c.groups g).slaveDevices d).transmissionBit]) := hout
    unfold handleDeviceResponse
    simp only
    rw [if_neg hc']
    generalize storeResponse g d r (checkResponse g d now r (c.scope g)).1 = s
      at hgroup' hconfig hset hout'
    have hof : ∀ o', ofGroup g (s.out ++ o')
        = reports g d r ((c.groups g).slaveDevices d).latestFrame
          ++ [.stored g d r ((c.groups g).slaveDevices d).transmissionBit] ++ ofGroup g o' := by
      intro o'
      rw [hout', ofGroup_append, ofGroup_append, ofGroup_none hown, ofGroup_accepted,
        List.nil_append]
    split
    · rename_i hcode
      -- the alarm of every group follows, the device event is left out
      have hacc : s.group = acceptResponse c.shared.config (c.setting g) d r (c.groups g) := by
        rw [← hgroup', GroupData.modifyDevice_congr _ d (fun dev => dev)
          (by simp only [deviceResponse, if_pos hcode]), GroupData.modifyDevice_id]
      have hm := clmMoves_eventAll (A := fun _ _ _ => False) (c := (c.setScope g s).1) now unixMs
        .masterduplAlarm (fun _ _ hs => scopeMoves_alarm now unixMs hs)
      have hgd : (c.setScope g s).1.groups g
          = acceptResponse c.shared.config (c.setting g) d r (c.groups g) := by
        rw [← hacc]
        exact Function.update_self ..
      have hn : g < (c.setScope g s).1.numGroups := by
        refine Nat.lt_of_lt_of_eq hg ?_
        exact congrArg (fun cfg : Config => cfg.hier.numberOfGroups.toNat) hconfig.symm
      have hstar := hm.group g hn
      rw [hgd] at hstar
      show GroupStep c e g (ofGroup g (s.out ++ _)) _
      rw [hof]
      refine .accepted d r hr hd hc ?_ ?_
      · rw [show (c.setScope g s).1.shared.config = c.shared.config from hconfig] at hstar
        exact hstar
      · intro _ hrun
        apply (masterduplAlarm_running (c.setScope g s).1 now unixMs).2 g hn
        rw [hgd]
        exact hrun
    · rename_i hcode
      rw [receiveResponse_eq now unixMs hcode, hset, hgroup']
      split
      · rename_i hall
        have hm : ScopeMoves c.shared.config g (fun _ _ => False)
            { s with group := acceptResponse c.shared.config (c.setting g) d r (c.groups g) } _ :=
          scopeMoves_complete now unixMs hconfig hall
        obtain ⟨_, o', ho', _, hstar⟩ := hm
        show GroupStep c e g (ofGroup g (clmIefbGroupFsmEvent g now unixMs .linkscanComplete _).out)
          (Function.update c.groups g _ g)
        rw [Function.update_self, ho']
        show GroupStep c e g (ofGroup g (s.out ++ o')) _
        rw [hof]
        exact .accepted d r hr hd hc hstar (fun h => absurd h hcode)
      · show GroupStep c e g (ofGroup g s.out) (Function.update c.groups g _ g)
        rw [Function.update_self, ← List.append_nil s.out, hof]
        exact .accepted d r hr hd hc (.refl _) (fun h => absurd h hcode)

end

/-- **A step of the master, seen from a group.** -/
theorem clmStep_group (c : Clm) (e : Event) {g : Nat} (hg : g < c.numGroups) :
    GroupStep c e g (ofGroup g (clmStep c e).2) ((clmStep c e).1.groups g) := by
  by_cases hno : ∀ x, ¬ GroupReceives c e g x
  · exact clmStep_internal c e hg hno
  rw [not_forall] at hno
  obtain ⟨x, hx⟩ := hno
  rw [not_not] at hx
  by_cases ha : c.aborted = true
  · rw [show clmStep c e = (c, []) from if_pos ha]
    exact .internal (Or.inl ha) (.refl _)
  cases x with
  | setEnabled d enabled =>
    refine clmStep_call c e hg hx (by simp) ?_
    obtain rfl : e = .setSlaveCommunicationStatus g d enabled := hx
    intro y hy
    cases y <;> simp_all [GroupReceives]
  | setForce d force =>
    refine clmStep_call c e hg hx (by simp) ?_
    obtain rfl : e = .forceCyclicTransmissionBit g d force := hx
    intro y hy
    cases y <;> simp_all [GroupReceives]
  | clearStatistics =>
    refine clmStep_call c e hg hx (by simp) ?_
    obtain rfl : e = .statisticsClearAll := hx
    intro y hy
    cases y <;> simp_all [GroupReceives]
  | response d r =>
    obtain ⟨now, unixMs, dg, remoteIp, remotePort, rfl, hr⟩ := hx
    obtain ⟨_, hd, _⟩ := clmIefbHandleInputFrame_response unixMs hr
    rw [clmStep_response unixMs hr ((Bool.eq_false_or_eq_true _).resolve_left ha)]
    exact handleDeviceResponse_group now unixMs hg hd ⟨now, unixMs, dg, remoteIp, remotePort, rfl, hr⟩

/-! ## runs -/

namespace MasterStart
variable {o : Options} (st : MasterStart o)

/-- **The invariant rule for a group, event by event.**  `I pre hist gd`: the events and the outputs
so far, and the group.  The step may use the run before it. -/
theorem group_inv {g : Nat} (hg : g < st.vc.numGroups)
    {I : List Event → List Output → GroupData → Prop} {es : List Event}
    (h0 : ∀ gd, Initialised st.vc.cfg st.parameterNo g gd → I [] [] gd)
    (hstep : ∀ pre e post, es = pre ++ e :: post → ∀ out gd', GroupStep (st.run pre).1 e g out gd' →
      GroupInv st.vc.cfg st.parameterNo g gd' →
      I pre (ofGroup g (st.run pre).2) ((st.run pre).1.groups g) →
      I (pre ++ [e]) (ofGroup g (st.run pre).2 ++ out) gd') :
    I es (ofGroup g (st.run es).2) ((st.run es).1.groups g) := by
  have hn : ∀ es, g < (st.run es).1.numGroups := by
    intro es
    rw [Clm.numGroups, (st.run_config es).1]
    exact hg
  induction es using List.reverseRecOn with
  | nil =>
    rw [st.run_nil, ofGroup_none st.init_spec.out]
    exact h0 _ (st.init_spec.group g hg)
  | append_singleton es e ih =>
    have hpre := ih (by
      intro pre e' post he
      refine hstep pre e' (post ++ [e]) ?_
      rw [he, List.append_assoc, List.cons_append])
    have hafter := st.group_groupInv (es ++ [e]) hg
    rw [st.run_concat] at hafter ⊢
    rw [ofGroup_append]
    exact hstep es e [] rfl _ _ (clmStep_group _ e (hn es)) hafter hpre

end MasterStart

end CLink
