import Mathlib.Data.List.DropRight
import CLink.Master.ClearedStatistics
import CLink.Master.SequenceNumbers
import CLink.Master.StepOutputs
import CLink.Master.Waiting

/-!
# Slave duplication without a second slave

A response is taken for a duplicate when it repeats the sequence number of the latest stored one.
The number of the latest response stays while the device is silent, and the counter of the group
comes back to it after 65535 requests.

* `clmStep_calm`            the error callback only comes from the duplicate branch;
* `latest_answered`         the latest header of a device carries the number of the request it
                            answered;
* `noFalseDuplication`      with one answer for each request, duplications are reported exactly for
                            answers after a multiple of 65535 requests.
-/

namespace CLink
open Loop Trace

/-! ## where the error comes from -/

def Output.isSlaveDuplication : Output → Bool
  | errorCb .slaveDuplication _ _ => true
  | _ => false

/-- no slave duplication among the outputs -/
def Calm (out : List Output) : Prop := ∀ x ∈ out, x.isSlaveDuplication = false

theorem Calm.append {a b : List Output} (ha : Calm a) (hb : Calm b) : Calm (a ++ b) :=
  List.forall_mem_append.mpr ⟨ha, hb⟩

theorem calm_rule : OutputRule (fun x => x.isSlaveDuplication = false) := by
  refine ⟨?_, fun _ => rfl, ?_⟩
  · intro x g hown
    cases x with
    | errorCb => cases hown
    | _ => rfl
  · intro message ipAddr n hm
    cases message with
    | slaveDuplication => exact absurd rfl hm
    | _ => rfl

/-- **The error is only reported by the step that finds a duplicate.** -/
theorem clmStep_calm {c : Clm} {e : Event}
    (hd : ∀ g d r, GroupReceives c e g (.response d r) →
      sendsDuplication ((c.groups g).slaveDevices d) r = false) : Calm (clmStep c e).2 :=
  calm_rule.step fun g d r hx hdup => absurd hdup (ne_true_of_eq_false (hd g d r hx))

/-! ## the latest response of a device -/

/-- a step that stores no response of the device may clear its latest header -/
def LatestKept (dev dev' : SlaveDeviceData) : Prop :=
  dev'.latestFrame = dev.latestFrame ∨ dev'.latestFrame.hasBeenReceived = false

theorem LatestKept.trans {a b c : SlaveDeviceData} (h : LatestKept a b) (h' : LatestKept b c) :
    LatestKept a c := by
  rcases h' with h' | h'
  · rcases h with h | h
    · exact Or.inl (h'.trans h)
    · exact Or.inr (by rw [h', h])
  · exact Or.inr h'

section
variable {o : Options} {cfg : Config} {parameterNo : UInt16} {g d : Nat} {gd gd' : GroupData}
  {out : List Output} {A : GroupInput → GroupData → Prop}
  (hv : GroupValid o cfg (cfg.hier.groups g))
  (hd : d < (cfg.hier.groups g).numSlaveDevices.toNat)
  (hA : ∀ d r gd, ¬ A (.response d r) gd)
include hv hd hA

theorem GroupMove.latest (hm : GroupMove cfg g A gd out gd') (h : GroupInv cfg parameterNo g gd) :
    (gd'.slaveDevices d).latestFrame = (gd.slaveDevices d).latestFrame
      ∨ A .clearStatistics gd ∧ (gd'.slaveDevices d).latestFrame.hasBeenReceived = false := by
  cases hm with
  | rejected e r he ha hc => exact absurd ha (hA e r gd)
  | accepted e r he ha hc => exact absurd ha (hA e r gd)
  | setEnabled e enabled ha =>
    rw [gd.modifyDevice_slaveDevices]
    split <;> exact Or.inl rfl
  | setForce e force ha =>
    rw [gd.modifyDevice_slaveDevices]
    split <;> exact Or.inl rfl
  | clearStatistics ha =>
    rw [GroupData.clearStatistics, gd.mapDevices_slaveDevices _ hd]
    exact Or.inr ⟨ha, rfl⟩
  | complete hs hr =>
    rw [gd.endScan_slaveDevices _ _ hd]
    exact Or.inl (deviceLocal_same _ _ _).latest
  | timeout hs =>
    rw [gd.endScan_slaveDevices _ _ hd]
    exact Or.inl (deviceLocal_same _ _ _).latest
  | standby hs =>
    rw [gd.standby_slaveDevices _ hd]
    exact Or.inl (deviceLocal_same _ _ _).latest
  | start clm now unixMs hclm hs =>
    obtain ⟨hst, _⟩ := linkscanStart_started hv h hs hclm now unixMs
    rw [hst.devices, hst.started.device d hd]
    exact Or.inl (startedDevice_fields _ g d _).latest
  | _ => exact Or.inl rfl

theorem star_latestKept (hm : Star (GroupMove cfg g A) gd out gd') (h : GroupInv cfg parameterNo g gd) :
    LatestKept (gd.slaveDevices d) (gd'.slaveDevices d) := by
  have hrun := hm.state_inv (I := fun t => GroupInv cfg parameterNo g t
      ∧ LatestKept (gd.slaveDevices d) (t.slaveDevices d))
    (by
      rintro s o t hm ⟨hinv, hkept⟩
      exact ⟨groupMove_inv hv hm hinv, hkept.trans ((hm.latest hv hd hA hinv).imp id And.right)⟩)
    ⟨h, Or.inl rfl⟩
  exact hrun.2

theorem star_latest (hclear : ∀ gd, ¬ A .clearStatistics gd)
    (hm : Star (GroupMove cfg g A) gd out gd') (h : GroupInv cfg parameterNo g gd) :
    (gd'.slaveDevices d).latestFrame = (gd.slaveDevices d).latestFrame := by
  have hrun := hm.state_inv (I := fun t => GroupInv cfg parameterNo g t
      ∧ (t.slaveDevices d).latestFrame = (gd.slaveDevices d).latestFrame)
    (by
      rintro s o t hm ⟨hinv, hlatest⟩
      refine ⟨groupMove_inv hv hm hinv, ?_⟩
      rcases hm.latest hv hd hA hinv with h | ⟨ha, _⟩
      · exact h.trans hlatest
      · exact absurd ha (hclear s))
    ⟨h, rfl⟩
  exact hrun.2

end

/-- the step stores a response of the device, or it keeps the latest header -/
theorem GroupStep.latest {o : Options} {c : Clm} {parameterNo : UInt16} {e : Event} {g d : Nat}
    {gd' : GroupData} {out : List Output} (hv : GroupValid o c.shared.config (c.setting g))
    (hd : d < (c.setting g).numSlaveDevices.toNat)
    (hinv : GroupInv c.shared.config parameterNo g (c.groups g)) (h : GroupStep c e g out gd') :
    ((∀ x ∈ out, x.isStored g d = false)
        ∧ LatestKept ((c.groups g).slaveDevices d) (gd'.slaveDevices d)
        ∧ (e ≠ .statisticsClearAll →
          (gd'.slaveDevices d).latestFrame = ((c.groups g).slaveDevices d).latestFrame))
      ∨ ∃ r a b, GroupReceives c e g (.response d r)
        ∧ (checkDevice (c.setting g) d r (c.groups g)).2 = true
        ∧ out = a ++ .stored g d r ((c.groups g).slaveDevices d).transmissionBit :: b
        ∧ (∀ x ∈ a, x.isRequest g = false ∧ x.isStored g d = false)
        ∧ (∀ x ∈ b, x.isStored g d = false)
        ∧ (gd'.slaveDevices d).latestFrame
            = clmIefbStoreIncomingSlaveRuntimeInfo r (c.groups g).timestampLinkScanStart := by
  have hnone : ∀ (d : Nat) (r : CyclicResponse) (gd : GroupData), ¬ False := fun _ _ _ h => h
  cases h with
  | internal hno h =>
    have hsame := star_latest hv hd hnone (fun _ h => h) h hinv
    exact Or.inl ⟨fun x hx => star_notStored hnone h x hx g d, Or.inl hsame, fun _ => hsame⟩
  | call y hy hc h =>
    have hcall : ∀ (d : Nat) (r : CyclicResponse) (gd : GroupData), ¬ GroupInput.response d r = y :=
      fun d r _ h => hc d r h.symm
    refine Or.inl ⟨fun x hx => star_notStored hcall h x hx g d, star_latestKept hv hd hcall h hinv,
      fun he => star_latest hv hd hcall (fun _ hy' => he ?_) h hinv⟩
    rw [← hy'] at hy
    exact hy
  | rejected k r hr hk hc =>
    have hsame : (((c.groups g).modifyDevice k
        (fun _ => (checkDevice (c.setting g) k r (c.groups g)).1)).slaveDevices d).latestFrame
          = ((c.groups g).slaveDevices d).latestFrame := by
      rw [GroupData.modifyDevice_slaveDevices]
      split
      · rename_i hdk
        subst hdk
        exact (checkDevice_device _ d r _).1.latest
      · rfl
    exact Or.inl ⟨fun x hx => absurd hx List.not_mem_nil, Or.inl hsame, fun _ => hsame⟩
  | @accepted k r hr hk hc rest _ h hdupl =>
    have hafter : GroupInv c.shared.config parameterNo g
        (acceptResponse c.shared.config (c.setting g) k r (c.groups g)) :=
      groupMove_inv (A := fun _ _ => True) hv (.accepted (c.groups g) k r hk trivial hc) hinv
    have hsame := star_latest hv hd hnone (fun _ h => h) h hafter
    have hrest : ∀ x ∈ rest, x.isStored g d = false := fun x hx => star_notStored hnone h x hx g d
    by_cases hdk : d = k
    · subst hdk
      refine Or.inr ⟨r, _, rest, hr, hc, List.append_assoc _ _ _, ?_, hrest,
        hsame.trans (acceptResponse_device _ hc).latest⟩
      intro x hx
      exact ⟨(reports_spec g d r _ x hx).2 g, reports_isStored g d r _ x hx g d⟩
    · rw [acceptResponse_other _ hdk] at hsame
      refine Or.inl ⟨fun x hx => ?_, Or.inl hsame, fun _ => hsame⟩
      rcases List.mem_append.mp hx with hx | hx
      · rcases List.mem_append.mp hx with hx | hx
        · exact reports_isStored g k r _ x hx g d
        · rw [List.mem_singleton.mp hx]
          simp [Output.isStored, Ne.symm hdk]
      · exact hrest x hx

/-! ## the request that was answered -/

/-- the number of requests of group `g` -/
def requestCount (g : Nat) (out : List Output) : Nat := (out.filter (Output.isRequest g)).length

/-- the number of requests up to the latest stored response of device `d` -/
def answeredCount (g d : Nat) (out : List Output) : Nat :=
  requestCount g (out.rdropWhile (fun x => !x.isStored g d))

section
variable {g d : Nat} {hist out : List Output}

theorem requestCount_append : requestCount g (hist ++ out) = requestCount g hist + requestCount g out := by
  rw [requestCount, List.filter_append, List.length_append]
  rfl

theorem requestCount_silent (h : ∀ x ∈ out, x.isRequest g = false) :
    requestCount g (hist ++ out) = requestCount g hist :=
  congrArg List.length (Numbered.filter_silent h hist)

theorem requestCount_ofGroup : requestCount g (ofGroup g out) = requestCount g out :=
  congrArg List.length (ofGroup_requests g out)

theorem answeredCount_silent (h : ∀ x ∈ out, x.isStored g d = false) :
    answeredCount g d (hist ++ out) = answeredCount g d hist := by
  induction out using List.reverseRecOn with
  | nil => rw [List.append_nil]
  | append_singleton out x ih =>
    have hx := h x (List.mem_append_right _ List.mem_cons_self)
    rw [← List.append_assoc, answeredCount, List.rdropWhile_concat_pos _ _ _ (by rw [hx]; rfl)]
    exact ih (fun y hy => h y (List.mem_append_left _ hy))

/-- a stored response -/
theorem answeredCount_stored {x : Output} (hx : x.isStored g d = true) :
    answeredCount g d (hist ++ [x]) = requestCount g hist := by
  have hreq : ∀ y ∈ [x], y.isRequest g = false := by
    intro y hy
    rw [List.mem_singleton.mp hy]
    cases x with
    | stored => rfl
    | _ => cases hx
  rw [answeredCount, List.rdropWhile_concat_neg _ _ _ (by rw [hx]; simp), requestCount_silent hreq]

theorem answeredCount_ofGroup : answeredCount g d (ofGroup g out) = answeredCount g d out := by
  induction out using List.reverseRecOn with
  | nil => rfl
  | append_singleton out x ih =>
    cases hs : x.isStored g d with
    | true =>
      have hown : ofGroup g [x] = [x] := by
        cases x with
        | stored g' d' r valid =>
          simp only [Output.isStored, decide_eq_true_eq] at hs
          simp [ofGroup, Output.isOf, Output.owner, hs.1]
        | _ => cases hs
      rw [ofGroup_append, hown, answeredCount_stored hs, answeredCount_stored hs,
        requestCount_ofGroup]
    | false =>
      have hone : ∀ y ∈ [x], y.isStored g d = false := by
        intro y hy
        rw [List.mem_singleton.mp hy]
        exact hs
      rw [ofGroup_append, answeredCount_silent hone, answeredCount_silent, ih]
      exact fun y hy => hone y (List.mem_of_mem_filter hy)

end

/-- the response carries the number of the latest request -/
def Echoes (g : Nat) (r : CyclicResponse) (out : List Output) : Prop :=
  ∃ start destIp destPort dg,
    (out.filter (Output.isRequest g)).getLast? = some (.sendRequest g start destIp destPort dg)
      ∧ r.fullHeaders.cyclicDataHeader.frameSequenceNo = requestSequenceNo dg

/-- the latest response of an enabled device answered a request other than the first, a multiple of
65535 requests ago, and the device is not in `LISTEN` -/
structure Wraps (c : Clm) (out : List Output) (g d : Nat) : Prop where
  live : c.aborted = false
  enabled : ((c.groups g).slaveDevices d).enabled = true
  notListen : ((c.groups g).slaveDevices d).deviceState ≠ .listen
  received : ((c.groups g).slaveDevices d).latestFrame.hasBeenReceived = true
  notFirst : 2 ≤ answeredCount g d out
  earlier : answeredCount g d out < requestCount g out
  multiple : 65535 ∣ requestCount g out - answeredCount g d out

/-! ## runs -/

namespace MasterStart
variable {o : Options} (st : MasterStart o)

/-- every response answers the latest request of its group, and no device answers a request twice -/
structure AnswersOnce (es : List Event) : Prop where
  echo : ∀ pre e post, es = pre ++ e :: post → ∀ g d r,
    GroupReceives (st.run pre).1 e g (.response d r) → Echoes g r (st.run pre).2
  once : ∀ pre e mid e' post, es = pre ++ e :: (mid ++ e' :: post) → ∀ g d r r',
    GroupReceives (st.run pre).1 e g (.response d r) →
    GroupReceives (st.run (pre ++ e :: mid)).1 e' g (.response d r') →
    requestCount g (st.run pre).2 < requestCount g (st.run (pre ++ e :: mid)).2

/-- neither the error callback nor the device event of a slave duplication -/
structure NoDuplication (es : List Event) : Prop where
  noError : ∀ ipAddr n, .errorCb .slaveDuplication ipAddr n ∉ (st.run es).2
  noEvent : ∀ pre e post, es = pre ++ e :: post → (st.run pre).1.aborted = false → ∀ g d r,
    GroupReceives (st.run pre).1 e g (.response d r) →
    sendsDuplication (((st.run pre).1.groups g).slaveDevices d) r = false

theorem echoes_iff {es : List Event} {g : Nat} {r : CyclicResponse} :
    Echoes g r (st.run es).2 ↔ 1 ≤ requestCount g (st.run es).2
      ∧ r.fullHeaders.cyclicDataHeader.frameSequenceNo
        = frameSequence (requestCount g (st.run es).2 - 1) := by
  have hlast : ((st.run es).2.filter (Output.isRequest g)).getLast?
      = ((st.run es).2.filter (Output.isRequest g))[requestCount g (st.run es).2 - 1]? :=
    List.getLast?_eq_getElem?
  constructor
  · rintro ⟨start, destIp, destPort, dg, hx, hr⟩
    have hne : (st.run es).2.filter (Output.isRequest g) ≠ [] := by
      intro hnil
      rw [hnil] at hx
      cases hx
    rw [hlast] at hx
    exact ⟨List.length_pos_iff.mpr hne, hr.trans (st.run_numbered es hx)⟩
  · rintro ⟨hpos, hr⟩
    obtain ⟨x, hx⟩ : ∃ x, ((st.run es).2.filter (Output.isRequest g))[
        requestCount g (st.run es).2 - 1]? = some x :=
      ⟨_, List.getElem?_eq_getElem (Nat.sub_one_lt_of_lt hpos)⟩
    have hnum := st.run_numbered es hx
    have hreq := (List.mem_filter.mp (List.mem_of_getElem? hx)).2
    cases x with
    | sendRequest g' start destIp destPort dg =>
      simp only [Output.isRequest, decide_eq_true_eq] at hreq
      subst hreq
      exact ⟨start, destIp, destPort, dg, hlast.trans hx, hr.trans hnum.symm⟩
    | _ => cases hreq

/-- the latest header of a device, and the event that brought it -/
structure LatestAnswered (g d : Nat) (pre : List Event) (hist : List Output) (gd : GroupData) :
    Prop where
  pos : (gd.slaveDevices d).latestFrame.hasBeenReceived = true → 1 ≤ answeredCount g d hist
  seq : (gd.slaveDevices d).latestFrame.hasBeenReceived = true →
    (gd.slaveDevices d).latestFrame.frameSequenceNo = frameSequence (answeredCount g d hist - 1)
  event : (gd.slaveDevices d).latestFrame.hasBeenReceived = true →
    ∃ a e mid r, pre = a ++ e :: mid ∧ GroupReceives (st.run a).1 e g (.response d r)
      ∧ requestCount g (st.run a).2 = answeredCount g d hist

/-- **The latest header of a device carries the number of the request it answered.** -/
theorem latest_answered {es : List Event} (h : st.AnswersOnce es) {g d : Nat}
    (hg : g < st.vc.numGroups) (hd : d < (st.vc.setting g).numSlaveDevices.toNat) :
    st.LatestAnswered g d es (ofGroup g (st.run es).2) ((st.run es).1.groups g) := by
  refine st.group_inv hg ?_ ?_
  · intro gd hinit
    have hnot : (gd.slaveDevices d).latestFrame.hasBeenReceived ≠ true := by
      rw [hinit.device d hd]
      exact Bool.false_ne_true
    exact ⟨fun hr => absurd hr hnot, fun hr => absurd hr hnot, fun hr => absurd hr hnot⟩
  · intro pre e post heq out gd' hstep _ hpre
    have hcfg := (st.run_config pre).1
    have hv : GroupValid o (st.run pre).1.shared.config ((st.run pre).1.setting g) := by
      rw [Clm.setting, hcfg]
      exact st.vc.group hg
    have hd' : d < ((st.run pre).1.setting g).numSlaveDevices.toNat := by
      rw [Clm.setting, hcfg]
      exact hd
    have hinv : GroupInv (st.run pre).1.shared.config st.parameterNo g ((st.run pre).1.groups g) := by
      rw [hcfg]
      exact st.group_groupInv pre hg
    rcases hstep.latest hv hd' hinv with ⟨hno, hkept, _⟩ | ⟨r, a, b, hr, _, rfl, ha, hb, hnew⟩
    · rcases hkept with hkept | hcleared
      · refine ⟨?_, ?_, ?_⟩ <;> rw [answeredCount_silent hno, hkept]
        · exact hpre.pos
        · exact hpre.seq
        · intro hrec
          obtain ⟨a, e', mid, r, rfl, hr⟩ := hpre.event hrec
          exact ⟨a, e', mid ++ [e], r, by rw [List.append_assoc, List.cons_append], hr⟩
      · refine ⟨?_, ?_, ?_⟩ <;>
        · intro hrec
          rw [hcleared] at hrec
          cases hrec
    · -- the device is answering the latest request
      obtain ⟨hpos, hseq⟩ := st.echoes_iff.mp (h.echo pre e post heq g d r hr)
      have hcount : answeredCount g d (ofGroup g (st.run pre).2
          ++ (a ++ .stored g d r (((st.run pre).1.groups g).slaveDevices d).transmissionBit :: b))
            = requestCount g (st.run pre).2 := by
        rw [← List.append_assoc, List.append_cons, answeredCount_silent hb,
          answeredCount_stored (by simp [Output.isStored]),
          requestCount_silent (fun x hx => (ha x hx).1), requestCount_ofGroup]
      refine ⟨?_, ?_, ?_⟩ <;> rw [hcount]
      · exact fun _ => hpos
      · intro _
        rw [hnew]
        exact hseq
      · exact fun _ => ⟨pre, e, [], r, rfl, hr, rfl⟩

theorem init_calm : Calm st.init.2 := by
  refine Calm.append (calm_rule.event _ _ _ _) ?_
  intro x hx
  rcases List.mem_cons.mp hx with rfl | hx
  · rfl
  · exact calm_rule.event _ _ _ _ x hx

/-- without the event no error is reported -/
theorem run_calm {es : List Event}
    (h : ∀ pre e post, es = pre ++ e :: post → (st.run pre).1.aborted = false → ∀ g d r,
      GroupReceives (st.run pre).1 e g (.response d r) →
      sendsDuplication (((st.run pre).1.groups g).slaveDevices d) r = false) :
    Calm (st.run es).2 := by
  induction es using List.reverseRecOn with
  | nil =>
    rw [st.run_nil]
    exact st.init_calm
  | append_singleton es e ih =>
    have hpre := ih (by
      intro pre e' post heq
      refine h pre e' (post ++ [e]) ?_
      rw [heq, List.append_assoc, List.cons_append])
    rw [st.run_concat]
    refine hpre.append ?_
    cases ha : (st.run es).1.aborted with
    | true =>
      rw [show clmStep (st.run es).1 e = ((st.run es).1, []) from if_pos ha]
      exact List.forall_mem_nil _
    | false => exact clmStep_calm (h es e [] rfl ha)

theorem AnswersOnce.of_prefix {es pre post : List Event} (h : st.AnswersOnce es)
    (heq : es = pre ++ post) : st.AnswersOnce pre := by
  refine ⟨?_, ?_⟩
  · intro a x b hab
    exact h.echo a x (b ++ post) (by rw [heq, hab, List.append_assoc, List.cons_append])
  · intro a x mid y b hab
    refine h.once a x mid y (b ++ post) ?_
    rw [heq, hab]
    simp

section
variable {es pre post : List Event} {e : Event} {g d : Nat} {r : CyclicResponse}
  (h : st.AnswersOnce es) (heq : es = pre ++ e :: post)
  (hr : GroupReceives (st.run pre).1 e g (.response d r))
include h heq hr

/-- the stored response of a device answered an earlier request -/
theorem latest_earlier
    (hrec : (((st.run pre).1.groups g).slaveDevices d).latestFrame.hasBeenReceived = true) :
    1 ≤ answeredCount g d (st.run pre).2
      ∧ answeredCount g d (st.run pre).2 < requestCount g (st.run pre).2
      ∧ (((st.run pre).1.groups g).slaveDevices d).latestFrame.frameSequenceNo
        = frameSequence (answeredCount g d (st.run pre).2 - 1) := by
  obtain ⟨now, unixMs, dg, remoteIp, remotePort, he, hresp⟩ := id hr
  obtain ⟨hg, hd, _⟩ := clmIefbHandleInputFrame_response unixMs hresp
  rw [Clm.numGroups, (st.run_config pre).1] at hg
  rw [Clm.setting, (st.run_config pre).1] at hd
  have hlatest := st.latest_answered (h.of_prefix st heq) hg hd
  obtain ⟨a, e', mid, r', rfl, hr', hcount⟩ := hlatest.event hrec
  have honce := h.once a e' mid e post (by rw [heq, List.append_assoc, List.cons_append]) g d r' r
    hr' hr
  have hpos := hlatest.pos hrec
  have hseq := hlatest.seq hrec
  rw [answeredCount_ofGroup] at hpos hseq hcount
  exact ⟨hpos, hcount ▸ honce, hseq⟩

/-- a duplicate carries the number of an earlier request -/
theorem sendsDuplication_iff (hlive : (st.run pre).1.aborted = false) :
    sendsDuplication (((st.run pre).1.groups g).slaveDevices d) r = true
      ↔ Wraps (st.run pre).1 (st.run pre).2 g d := by
  obtain ⟨_, hseq⟩ := st.echoes_iff.mp (h.echo pre e post heq g d r hr)
  have hsame : (((st.run pre).1.groups g).slaveDevices d).latestFrame.hasBeenReceived = true →
      (r.fullHeaders.cyclicDataHeader.frameSequenceNo
          = (((st.run pre).1.groups g).slaveDevices d).latestFrame.frameSequenceNo
        ↔ 2 ≤ answeredCount g d (st.run pre).2
          ∧ 65535 ∣ requestCount g (st.run pre).2 - answeredCount g d (st.run pre).2) := by
    intro hrec
    obtain ⟨hpos, hlt, hlatest⟩ := st.latest_earlier h heq hr hrec
    have hiff := frameSequence_eq_iff (show answeredCount g d (st.run pre).2 - 1
      < requestCount g (st.run pre).2 - 1 by omega)
    rw [show requestCount g (st.run pre).2 - 1 - (answeredCount g d (st.run pre).2 - 1)
      = requestCount g (st.run pre).2 - answeredCount g d (st.run pre).2 by omega] at hiff
    rw [hseq, hlatest, eq_comm, hiff]
    constructor
    · exact fun hw => ⟨by omega, hw.2⟩
    · exact fun hw => ⟨by omega, hw.2⟩
  unfold sendsDuplication isDuplicate
  rw [Bool.and_eq_true, decide_eq_true_eq]
  constructor
  · rintro ⟨hen, hrec, heq', hstate⟩
    obtain ⟨hfirst, hmult⟩ := (hsame hrec).mp heq'
    exact ⟨hlive, hen, hstate, hrec, hfirst, (st.latest_earlier h heq hr hrec).2.1, hmult⟩
  · intro hw
    exact ⟨hw.enabled, hw.received, (hsame hw.received).mpr ⟨hw.notFirst, hw.multiple⟩,
      hw.notListen⟩

end

/-- **No false slave duplication.**  When every device answers every request at most once, a slave
duplication is reported exactly for the answers after a multiple of 65535 requests. -/
theorem noFalseDuplication {es : List Event} (h : st.AnswersOnce es) :
    st.NoDuplication es ↔ ∀ pre e post, es = pre ++ e :: post → ∀ g d r,
      GroupReceives (st.run pre).1 e g (.response d r) → ¬ Wraps (st.run pre).1 (st.run pre).2 g d := by
  constructor
  · intro hno pre e post heq g d r hr hw
    have hsends := (st.sendsDuplication_iff h heq hr hw.live).mpr hw
    rw [hno.noEvent pre e post heq hw.live g d r hr] at hsends
    cases hsends
  · intro hno
    have hevent : ∀ pre e post, es = pre ++ e :: post → (st.run pre).1.aborted = false → ∀ g d r,
        GroupReceives (st.run pre).1 e g (.response d r) →
        sendsDuplication (((st.run pre).1.groups g).slaveDevices d) r = false := by
      intro pre e post heq hlive g d r hr
      rw [← Bool.not_eq_true, st.sendsDuplication_iff h heq hr hlive]
      exact hno pre e post heq g d r hr
    refine ⟨?_, hevent⟩
    intro ipAddr n hmem
    have hfalse := st.run_calm hevent _ hmem
    cases hfalse

/-! ### a device that returns after 65535 requests -/

/-- the device of the small network is silent after its answer to request 1 -/
structure Absent (now : UInt32) (c : Clm) : Prop where
  live : c.aborted = false
  arbitration : c.shared.arbitrationTimer.state = .stopped
  state : (c.groups 0).groupState = .masterLinkScan
  responseWait : (c.groups 0).responseWaitTimer = ⟨.running, 20000, now⟩
  enabled : ((c.groups 0).slaveDevices 0).enabled = true
  notSending : ((c.groups 0).slaveDevices 0).deviceState = .listen
    ∨ ((c.groups 0).slaveDevices 0).deviceState = .waitTd
  received : ((c.groups 0).slaveDevices 0).latestFrame.hasBeenReceived = true
  seq : ((c.groups 0).slaveDevices 0).latestFrame.frameSequenceNo = 1

/-- a link scan that times out is followed by the next one -/
theorem monitorGroupTimers_timedOut (g : Nat) (now : UInt32) (unixMs : Nat → UInt64) {s : Scope}
    (hs : s.group.groupState = .masterLinkScan)
    (hexpired : clTimerIsExpired s.group.responseWaitTimer now = true) :
    ∃ timer, monitorGroupTimers g now unixMs s
      = let t := clmIefbGroupFsmEvent g now unixMs .linkscanTimeout { s with group := { s.group with
          responseWaitTimer := clTimerStop s.group.responseWaitTimer } }
        { t with group := { t.group with constantLinkscanTimer := timer } } := by
  have hstate := (timeout_timers g now unixMs (s := { s with group := { s.group with
    responseWaitTimer := clTimerStop s.group.responseWaitTimer } }) hs).state
  unfold monitorGroupTimers
  simp only [hexpired, if_true]
  generalize clmIefbGroupFsmEvent g now unixMs .linkscanTimeout _ = t at hstate ⊢
  by_cases hx : clTimerIsExpired t.group.constantLinkscanTimer now = true
  · rw [if_pos hx, clmIefbGroupFsmEvent_stay g now unixMs (by rw [hstate]; rfl)]
    exact ⟨_, rfl⟩
  · rw [if_neg hx]
    exact ⟨t.group.constantLinkscanTimer, rfl⟩

/-- a link scan that times out, and the start of the next one -/
structure TimedOut (g : Nat) (now : UInt32) (s t : Scope) : Prop where
  arbitration : t.clm.arbitrationTimer = s.clm.arbitrationTimer
  state : t.group.groupState = .masterLinkScan
  timer : t.group.responseWaitTimer
    = ⟨.running, (s.setting g).timeoutValue.toUInt32 * microsecondsPerMillisecond, now⟩
  device : ∀ d, d < (s.setting g).numSlaveDevices.toNat → t.group.slaveDevices d
    = startedDevice (s.setting g) g d
        (deviceLocal (s.setting g) .groupTimeout (s.group.slaveDevices d))
  count : requestCount g t.out = requestCount g s.out + 1

theorem timeout_timedOut {o : Options} {cfg : Config} {parameterNo : UInt16} {g : Nat} {s : Scope}
    (hv : GroupValid o cfg (cfg.hier.groups g)) (hc : s.clm.config = cfg)
    (h : GroupInv cfg parameterNo g s.group) (hs : s.group.groupState = .masterLinkScan)
    (now : UInt32) (unixMs : Nat → UInt64) :
    TimedOut g now s (clmIefbGroupFsmEvent g now unixMs .linkscanTimeout s) := by
  have htimers := timeout_timers g now unixMs hs
  have hwait := htimers.responseWait
  rw [scanTimer, htimers.timestamp] at hwait
  have hend : GroupInv cfg parameterNo g (s.group.endScan (cfg.hier.groups g) .groupTimeout) :=
    groupMove_inv (A := fun _ _ => True) hv (.timeout s.group hs) h
  have hset : s.setting g = cfg.hier.groups g := by
    rw [Scope.setting, hc]
  have hrunning : (clmIefbSetMasterState s.clm .running).1.config = cfg :=
    (clmIefbSetMasterState_spec s.clm .running).1.trans hc
  obtain ⟨hst, hout⟩ := linkscanStart_started hv hend rfl hrunning now unixMs
  have heq : clmIefbGroupFsmEvent g now unixMs .linkscanTimeout s
      = { clm := (clmIefbSetMasterState s.clm .running).1
          group := (linkscanStart g now unixMs (clmIefbSetMasterState s.clm .running).1
            (s.group.endScan (s.setting g) .groupTimeout)).group
          out := s.out ++ [.linkscanCb g false] ++ (clmIefbSetMasterState s.clm .running).2
            ++ (linkscanStart g now unixMs (clmIefbSetMasterState s.clm .running).1
              (s.group.endScan (s.setting g) .groupTimeout)).out } := by
    rw [clmIefbGroupFsmEvent_timeout g now unixMs hs, endScan_eq, clmIefbOnLinkscanStart_eq]
    rfl
  refine ⟨?_, htimers.state, hwait, ?_, ?_⟩ <;> rw [heq]
  · show (clmIefbSetMasterState s.clm .running).1.arbitrationTimer = _
    rw [clmIefbSetMasterState_fields]
  · intro d hd
    rw [hset] at hd ⊢
    rw [hst.devices, hst.started.device d hd]
    show startedDevice _ g d ((s.group.endScan _ .groupTimeout).slaveDevices d) = _
    rw [s.group.endScan_slaveDevices _ _ hd]
  · have hcallback : ∀ x ∈ [Output.linkscanCb g false], x.isRequest g = false := by
      intro x hx
      rw [List.mem_singleton.mp hx]
      rfl
    have hmaster : ∀ x ∈ (clmIefbSetMasterState s.clm .running).2, x.isRequest g = false :=
      fun x hx => Output.isRequest_of_owner ((clmIefbSetMasterState_spec _ _).2 x hx) g
    rw [hset, hout, requestCount, Numbered.filter_mark (by simp [Output.isRequest])
      (fun x hx => (startDevices_out _ _ _ x hx).isRequest), List.length_append]
    show requestCount g _ + 1 = _
    rw [requestCount_silent hmaster, requestCount_silent hcallback]

theorem Clm.setScope_group (c : Clm) (g : Nat) (s : Scope) : (c.setScope g s).1.groups g = s.group :=
  Function.update_self ..

/-- one group, after the arbitration -/
theorem periodicTimers_one {c : Clm} (hn : c.numGroups = 1)
    (ha : c.shared.arbitrationTimer.state = .stopped) (now : UInt32) (unixMs : Nat → UInt64) :
    clmIefbPeriodicTimers now unixMs c
      = c.setScope 0 (monitorGroupTimers 0 now unixMs
          { clm := { c.shared with errorlimiter := clLimiterPeriodic c.shared.errorlimiter now }
            group := c.groups 0, out := [] }) := by
  have hone : ∀ {c : Clm} (f : Nat → Scope → Scope), c.numGroups = 1 →
      c.forGroups f = c.setScope 0 (f 0 (c.scope 0)) := by
    intro c f hn
    unfold Clm.forGroups
    rw [hn]
    rfl
  unfold clmIefbPeriodicTimers
  simp only [clTimerIsExpired_stopped ha, Bool.false_eq_true, if_false, List.nil_append]
  exact hone (c := { c with shared := { c.shared with
    errorlimiter := clLimiterPeriodic c.shared.errorlimiter now } }) _ hn

/-- what one link scan without an answer does to the small network -/
theorem absent_tick {es : List Event} {now : UInt32}
    (h : Absent now ((exampleStart false false).run es).1) :
    Absent (now + 20000)
        (clmStep ((exampleStart false false).run es).1 (.exampleTick (now + 20000))).1
      ∧ requestCount 0
        (clmStep ((exampleStart false false).run es).1 (.exampleTick (now + 20000))).2 = 1
      ∧ (((clmStep ((exampleStart false false).run es).1
        (.exampleTick (now + 20000))).1.groups 0).slaveDevices 0).deviceState = .waitTd := by
  have hcfg := ((exampleStart false false).run_config es).1
  have hv := (exampleStart false false).vc.group (g := 0) (by decide)
  have hinv := (exampleStart false false).group_groupInv es (g := 0) (by decide)
  generalize ((exampleStart false false).run es).1 = c at h hcfg hinv ⊢
  have hn : c.numGroups = 1 := by
    rw [Clm.numGroups, hcfg]
    rfl
  have hstep : clmStep c (.exampleTick (now + 20000))
      = clmIefbPeriodicTimers (now + 20000) (fun _ => 0) c :=
    if_neg (by rw [h.live]; exact Bool.false_ne_true)
  rw [hstep, periodicTimers_one hn h.arbitration]
  have hexpired : clTimerIsExpired (c.groups 0).responseWaitTimer (now + 20000) = true := by
    rw [h.responseWait]
    have hperiod : (⟨.running, 20000, now⟩ : Timer).period.toNat < 0x80000000 :=
      show (20000 : UInt32).toNat < 0x80000000 by decide
    exact clTimerIsExpired_at rfl hperiod
  obtain ⟨timer, hmon⟩ := monitorGroupTimers_timedOut 0 (now + 20000) (fun _ => 0)
    (s := { clm := { c.shared with
              errorlimiter := clLimiterPeriodic c.shared.errorlimiter (now + 20000) }
            group := c.groups 0, out := [] }) h.state hexpired
  have htimed := timeout_timedOut hv
    (s := { clm := { c.shared with
              errorlimiter := clLimiterPeriodic c.shared.errorlimiter (now + 20000) }
            group := { c.groups 0 with
              responseWaitTimer := clTimerStop (c.groups 0).responseWaitTimer }, out := [] })
    hcfg (groupMove_inv (A := fun _ _ => True) hv (.stopResponseWaitTimer _) hinv) h.state
    (now + 20000) (fun _ => 0)
  rw [hmon]
  generalize clmIefbGroupFsmEvent 0 (now + 20000) (fun _ => 0) .linkscanTimeout _ = t at htimed ⊢
  obtain ⟨harb, hstate, htimer, hdevice, hcount⟩ := htimed
  have hset : c.shared.config.hier.groups 0 = (exampleStart false false).vc.setting 0 := by
    rw [hcfg]
  simp only [Scope.setting, hset] at htimer hdevice
  have hdev := hdevice 0 (by decide)
  have hlocal := deviceLocal_same ((exampleStart false false).vc.setting 0) .groupTimeout
    ((c.groups 0).slaveDevices 0)
  have hlisten : (deviceLocal ((exampleStart false false).vc.setting 0) .groupTimeout
      ((c.groups 0).slaveDevices 0)).deviceState = .listen := by
    rw [deviceLocal_deviceState]
    rcases h.notSending with hs | hs <;> rw [hs] <;> rfl
  have hfields := startedDevice_fields ((exampleStart false false).vc.setting 0) 0 0
    (deviceLocal ((exampleStart false false).vc.setting 0) .groupTimeout
      ((c.groups 0).slaveDevices 0))
  rw [← hdev] at hfields
  have henabled : (t.group.slaveDevices 0).enabled = true :=
    hfields.enabled.trans (hlocal.enabled.trans h.enabled)
  have hwait : (t.group.slaveDevices 0).deviceState = .waitTd := by
    rw [hfields.state, scanStartState, hlocal.enabled, if_pos h.enabled, hlisten]
    rfl
  have hlatest : (t.group.slaveDevices 0).latestFrame = ((c.groups 0).slaveDevices 0).latestFrame :=
    hfields.latest.trans hlocal.latest
  refine ⟨⟨h.live, ?_, ?_, ?_, ?_, ?_, ?_, ?_⟩, hcount, ?_⟩
  · exact (congrArg Timer.state harb).trans h.arbitration
  all_goals rw [Clm.setScope_group]
  · exact hstate
  · exact htimer
  · exact henabled
  · exact Or.inr hwait
  · exact (congrArg FrameValues.hasBeenReceived hlatest).trans h.received
  · exact (congrArg FrameValues.frameSequenceNo hlatest).trans h.seq
  · exact hwait

/-- `n` link scans without an answer -/
def silence (n : Nat) : List Event :=
  (List.range n).map (fun k => .exampleTick (UInt32.ofNat (30000 + 20000 * k) + 20000))

/-- an error in answer to request 1, and `n` link scans without an answer -/
def absence (n : Nat) : List Event :=
  [.exampleTick 5000, .exampleTick 30000, .exampleAnswer 31000 0 1 endcodeSlaveError 1] ++ silence n

theorem absence_run (n : Nat) :
    Absent (UInt32.ofNat (30000 + 20000 * n)) ((exampleStart false false).run (absence n)).1
      ∧ requestCount 0 ((exampleStart false false).run (absence n)).2 = n + 2
      ∧ (n ≠ 0 → (((((exampleStart false false).run (absence n)).1.groups 0).slaveDevices 0).deviceState
        = .waitTd)) := by
  induction n with
  | zero =>
    refine ⟨⟨?_, ?_, ?_, ?_, ?_, Or.inl ?_, ?_, ?_⟩, ?_, fun h => absurd rfl h⟩ <;> decide +kernel
  | succ n ih =>
    obtain ⟨habsent, hcount, _⟩ := ih
    have hevents : absence (n + 1)
        = absence n ++ [.exampleTick (UInt32.ofNat (30000 + 20000 * n) + 20000)] := by
      rw [absence, silence, List.range_succ, List.map_append, ← List.append_assoc]
      rfl
    have htime : UInt32.ofNat (30000 + 20000 * (n + 1)) = UInt32.ofNat (30000 + 20000 * n) + 20000 := by
      rw [show 30000 + 20000 * (n + 1) = 30000 + 20000 * n + 20000 by omega, UInt32.ofNat_add]
      rfl
    obtain ⟨hnext, hone, hwait⟩ := absent_tick habsent
    rw [hevents, htime, run_concat]
    refine ⟨hnext, ?_, fun _ => hwait⟩
    show requestCount 0 (_ ++ _) = _
    rw [requestCount_append, hcount, hone]

/-- an event that is no tick is one of the two answers -/
theorem absence_split {n : Nat} {x e : Event} {pre post : List Event}
    (heq : absence n ++ [x] = pre ++ e :: post) (he : ∀ now, e ≠ .exampleTick now) :
    pre = [.exampleTick 5000, .exampleTick 30000]
        ∧ e = .exampleAnswer 31000 0 1 endcodeSlaveError 1
      ∨ pre = absence n ∧ e = x := by
  match pre, heq with
  | [], heq => exact absurd (List.cons.inj heq).1.symm (he 5000)
  | [_], heq => exact absurd (List.cons.inj (List.cons.inj heq).2).1.symm (he 30000)
  | [a, b], heq =>
    obtain ⟨ha, h1⟩ := List.cons.inj heq
    obtain ⟨hb, h2⟩ := List.cons.inj h1
    obtain ⟨he, _⟩ := List.cons.inj h2
    rw [← ha, ← hb, ← he]
    exact Or.inl ⟨rfl, rfl⟩
  | a :: b :: c :: pre, heq =>
    obtain ⟨ha, h1⟩ := List.cons.inj heq
    obtain ⟨hb, h2⟩ := List.cons.inj h1
    obtain ⟨hc, h3⟩ := List.cons.inj h2
    rw [← ha, ← hb, ← hc]
    refine Or.inr ?_
    have h4 : silence n ++ [x] = pre ++ e :: post := h3
    rcases List.append_eq_append_iff.mp h4 with ⟨m, rfl, hm⟩ | ⟨m, hl, hm⟩
    · cases m with
      | nil =>
        obtain ⟨rfl, _⟩ := List.cons.inj hm
        rw [List.append_nil]
        exact ⟨rfl, rfl⟩
      | cons y m =>
        obtain ⟨_, hm⟩ := List.cons.inj hm
        cases m <;> cases hm
    · cases m with
      | nil =>
        obtain ⟨rfl, _⟩ := List.cons.inj hm
        rw [List.append_nil] at hl
        rw [← hl]
        exact ⟨rfl, rfl⟩
      | cons y m =>
        obtain ⟨rfl, _⟩ := List.cons.inj hm
        have hmem : e ∈ silence n := by
          rw [hl]
          exact List.mem_append_right _ List.mem_cons_self
        obtain ⟨k, _, hk⟩ := List.mem_map.mp hmem
        exact absurd hk.symm (he _)

/-- what the master gets does not depend on the run before -/
theorem exampleResponse_run {two constant : Bool} (es : List Event) (now : UInt32) (dg : Datagram)
    (remoteIp : IpAddr) (remotePort : UInt16) :
    clmResponse ((exampleStart two constant).run es).1 now dg remoteIp remotePort
      = clmResponse (exampleStart two constant).init.1 now dg remoteIp remotePort := by
  have hinit : ((exampleStart two constant).run es).1.shared.config
      = (exampleStart two constant).init.1.shared.config :=
    ((exampleStart two constant).run_config es).1.trans
      (exampleStart two constant).init_spec.config.symm
  unfold clmResponse Clm.setting
  rw [hinit]

/-- the answer of the device in every state of the small network -/
theorem exampleAnswer_seq {two constant : Bool} {es : List Event} {e : Event} {g d : Nat}
    {r : CyclicResponse} {now : UInt32} {endCode seq : UInt16}
    (h : GroupReceives ((exampleStart two constant).run es).1 e g (.response d r))
    (he : e = .exampleAnswer now 0 1 endCode seq)
    (hone : (clmResponse (exampleStart two constant).init.1 now (exampleResponse 0 1 endCode seq)
      (exampleSlaveId 0) clCciefbPort).any (fun x => x.1 = 0 && x.2.1 = 0
        && x.2.2.fullHeaders.cyclicDataHeader.frameSequenceNo = seq) = true) :
    g = 0 ∧ d = 0 ∧ r.fullHeaders.cyclicDataHeader.frameSequenceNo = seq := by
  obtain ⟨_, _, _, _, _, he', hr⟩ := h
  rw [he] at he'
  cases he'
  rw [← exampleResponse_run es, hr] at hone
  simp only [Option.any_some, Bool.and_eq_true, decide_eq_true_eq] at hone
  exact ⟨hone.1.1, hone.1.2, hone.2⟩

/-- the device returns with an answer to a request that has number 1 again -/
theorem absence_answersOnce {n : Nat} (hn : n ≠ 0) (hone : frameSequence (n + 1) = 1) :
    (exampleStart false false).AnswersOnce (absence n ++ [.exampleAnswer 1310731000 0 1 0 1]) := by
  have hframe : ∀ {c : Clm} {e : Event} {g d : Nat} {r : CyclicResponse},
      GroupReceives c e g (.response d r) → ∀ now, e ≠ .exampleTick now := by
    rintro c e g d r ⟨_, _, _, _, _, rfl, _⟩ now h
    cases h
  have hfirst : requestCount 0 ((exampleStart false false).run
      [.exampleTick 5000, .exampleTick 30000]).2 = 2 := by decide +kernel
  have hlast := (absence_run n).2.1
  refine ⟨?_, ?_⟩
  · intro pre e post heq g d r hr
    rw [echoes_iff]
    rcases absence_split heq (hframe hr) with ⟨rfl, rfl⟩ | ⟨rfl, rfl⟩
    · obtain ⟨rfl, rfl, hseq⟩ := exampleAnswer_seq hr rfl (by decide +kernel)
      rw [hfirst, hseq]
      exact ⟨by decide, rfl⟩
    · obtain ⟨rfl, rfl, hseq⟩ := exampleAnswer_seq hr rfl (by decide +kernel)
      rw [hlast, hseq]
      exact ⟨by omega, hone.symm⟩
  · intro pre e mid e' post heq g d r r' hr hr'
    have heq' : absence n ++ [.exampleAnswer 1310731000 0 1 0 1] = (pre ++ e :: mid) ++ e' :: post := by
      rw [heq, List.append_assoc, List.cons_append]
    have hlen : (pre ++ e :: mid).length = pre.length + (mid.length + 1) := List.length_append
    rcases absence_split heq (hframe hr) with ⟨rfl, rfl⟩ | ⟨rfl, rfl⟩ <;>
      rcases absence_split heq' (hframe hr') with ⟨hpre, _⟩ | ⟨hpre, _⟩ <;> rw [hpre] at hlen
    · exact absurd hlen (by simp)
    · obtain ⟨rfl, rfl, _⟩ := exampleAnswer_seq hr rfl (by decide +kernel)
      rw [hpre, hfirst, hlast]
      omega
    · exact absurd hlen (by simp [absence]; omega)
    · omega

/-- the device is silent for 65535 requests after its error response, and its next answer is taken
for a duplicate -/
theorem returningDevice_duplicated :
    ¬ ∀ (o : Options) (st : MasterStart o) (es : List Event), st.AnswersOnce es →
      st.NoDuplication es := by
  intro h
  have hno := h _ (exampleStart false false) _ (absence_answersOnce (show 65535 ≠ 0 by decide) rfl)
  obtain ⟨habsent, _, hwait⟩ := absence_run 65535
  have hone : (clmResponse (exampleStart false false).init.1 1310731000 (exampleResponse 0 1 0 1)
      (exampleSlaveId 0) clCciefbPort).any (fun x => x.1 = 0 && x.2.1 = 0
        && x.2.2.fullHeaders.cyclicDataHeader.frameSequenceNo = 1) = true := by decide +kernel
  obtain ⟨g, d, r, hr, hp⟩ := exists_response hone
  simp only [Bool.and_eq_true, decide_eq_true_eq] at hp
  obtain ⟨⟨rfl, rfl⟩, hseq⟩ := hp
  rw [← exampleResponse_run (absence 65535)] at hr
  have hnot := hno.noEvent (absence 65535) _ [] rfl habsent.live 0 0 r ⟨_, _, _, _, _, rfl, hr⟩
  have hsends : sendsDuplication ((((exampleStart false false).run
      (absence 65535)).1.groups 0).slaveDevices 0) r = true := by
    unfold sendsDuplication isDuplicate
    rw [habsent.enabled, habsent.received, habsent.seq, hseq, hwait (by decide)]
    decide
  rw [hsends] at hnot
  cases hnot

/-- both requests are answered at once -/
theorem noFalseDuplication_example :
    (exampleStart false false).NoDuplication
      [.exampleTick 5000, .exampleAnswer 5100 0 1 0 0, .exampleAnswer 5200 0 1 0 1] := by
  have hsplit : ∀ {pre e post}, [Event.exampleTick 5000, .exampleAnswer 5100 0 1 0 0,
      .exampleAnswer 5200 0 1 0 1] = pre ++ e :: post →
      ∀ {g d r}, GroupReceives ((exampleStart false false).run pre).1 e g (.response d r) →
        pre = [.exampleTick 5000] ∧ e = .exampleAnswer 5100 0 1 0 0
        ∨ pre = [.exampleTick 5000, .exampleAnswer 5100 0 1 0 0]
          ∧ e = .exampleAnswer 5200 0 1 0 1 := by
    intro pre e post heq g d r hr
    match pre, heq with
    | [], heq =>
      obtain ⟨rfl, _⟩ := List.cons.inj heq
      obtain ⟨_, _, _, _, _, he, _⟩ := hr
      cases he
    | [a], heq =>
      cases heq
      exact Or.inl ⟨rfl, rfl⟩
    | [a, b], heq =>
      cases heq
      exact Or.inr ⟨rfl, rfl⟩
    | a :: b :: c :: pre, heq => cases pre <;> cases heq
  have honce : (exampleStart false false).AnswersOnce
      [.exampleTick 5000, .exampleAnswer 5100 0 1 0 0, .exampleAnswer 5200 0 1 0 1] := by
    refine ⟨?_, ?_⟩
    · intro pre e post heq g d r hr
      rw [echoes_iff]
      rcases hsplit heq hr with ⟨rfl, rfl⟩ | ⟨rfl, rfl⟩ <;>
      · obtain ⟨rfl, rfl, hseq⟩ := exampleAnswer_seq hr rfl (by decide +kernel)
        rw [hseq]
        decide +kernel
    · intro pre e mid e' post heq g d r r' hr hr'
      have hlen : (pre ++ e :: mid).length = pre.length + (mid.length + 1) := List.length_append
      have heq' := heq.trans (show pre ++ e :: (mid ++ e' :: post) = (pre ++ e :: mid) ++ e' :: post by
        rw [List.append_assoc, List.cons_append])
      rcases hsplit heq hr with ⟨rfl, rfl⟩ | ⟨rfl, rfl⟩ <;>
        rcases hsplit heq' hr' with ⟨hpre, _⟩ | ⟨hpre, _⟩ <;> rw [hpre] at hlen
      · exact absurd hlen (by simp)
      · obtain ⟨rfl, rfl, _⟩ := exampleAnswer_seq hr rfl (by decide +kernel)
        rw [hpre]
        decide +kernel
      · exact absurd hlen (by simp; omega)
      · exact absurd hlen (by simp)
  refine ((exampleStart false false).noFalseDuplication honce).mpr ?_
  intro pre e post heq g d r hr hw
  rcases hsplit heq hr with ⟨rfl, rfl⟩ | ⟨rfl, rfl⟩
  · obtain ⟨rfl, rfl, _⟩ := exampleAnswer_seq hr rfl (by decide +kernel)
    exact absurd hw.received (by decide +kernel)
  · obtain ⟨rfl, rfl, _⟩ := exampleAnswer_seq hr rfl (by decide +kernel)
    exact absurd hw.notFirst (by decide +kernel)

end MasterStart

end CLink
