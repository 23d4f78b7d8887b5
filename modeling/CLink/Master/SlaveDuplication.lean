import CLink.Master.LinkScanCompletion
import CLink.Master.RejectedFrames

/-!
# Slave duplication

A second slave with the address of the first repeats the sequence number of its answer.

* `ValidAnswer g d a out`   answer `a` was stored with the bit of device `d` on, since the latest
                            request;
* `KeepsBit`                then the bit is on until the next link scan starts;
* `AcceptsFurther`          the duplicate is not noticed in `LISTEN`, where the first duplicate and an
                            error response leave the device, or with the next sequence number;
* `StaysConnected`          the bit is forced, or the device was disabled at the duplicate and is still
                            in `CYCLIC_SENT` when the next link scan starts;
* `slaveDuplication_iff`    apart from these two, every repeated answer is rejected and the device is
                            disconnected.
-/

namespace CLink
open Loop Trace

/-! ## the answers of a link scan -/

def ValidAnswer (g d : Nat) (a : CyclicResponse) (out : List Output) : Prop :=
  .stored g d a true ∈ since (Output.isRequest g) out

/-- the store of a response while the bit of device `d` is on -/
def Output.isValidAnswer (g d : Nat) : Output → Bool
  | stored g' d' _ valid => g' = g ∧ d' = d ∧ valid = true
  | _ => false

section
variable {g d : Nat} {a : CyclicResponse} {hist out : List Output}

theorem Output.isValidAnswer_eq {x : Output} (h : x.isValidAnswer g d = true) :
    ∃ a, x = .stored g d a true := by
  cases x with
  | stored g' d' a valid =>
    simp only [isValidAnswer, decide_eq_true_eq] at h
    obtain ⟨rfl, rfl, rfl⟩ := h
    exact ⟨a, rfl⟩
  | _ => cases h

theorem Output.isValidAnswer_of_isStored {x : Output} (h : x.isStored g d = false) :
    x.isValidAnswer g d = false := by
  cases x with
  | stored g' d' a valid =>
    simp only [isStored, decide_eq_false_iff_not] at h
    simp only [isValidAnswer, decide_eq_false_iff_not]
    exact fun hx => h ⟨hx.1, hx.2.1⟩
  | _ => rfl

theorem ValidAnswer.append (h : ValidAnswer g d a hist)
    (ho : ∀ x ∈ out, x.isRequest g = false) : ValidAnswer g d a (hist ++ out) := by
  rw [ValidAnswer, since_append ho]
  exact List.mem_append_left _ h

theorem ValidAnswer.of_append (h : ValidAnswer g d a (hist ++ out)) :
    ValidAnswer g d a hist ∨ .stored g d a true ∈ out := mem_since_append h

theorem ValidAnswer.of_notStored (ho : ∀ x ∈ out, x.isStored g d = false)
    (h : ValidAnswer g d a (hist ++ out)) : ValidAnswer g d a hist := by
  refine h.of_append.resolve_right (fun hmem => ?_)
  have hs := ho _ hmem
  simp [Output.isStored] at hs

theorem validAnswer_ofGroup : ValidAnswer g d a (ofGroup g out) ↔ ValidAnswer g d a out := by
  have hsince : since (Output.isRequest g) (ofGroup g out)
      = ofGroup g (since (Output.isRequest g) out) :=
    since_filter (fun _ hx => Output.isOf_of_isRequest hx) out
  rw [ValidAnswer, hsince]
  exact ⟨fun h => (List.mem_filter.mp h).1,
    fun h => List.mem_filter.mpr ⟨h, by simp [Output.isOf, Output.owner]⟩⟩

/-- outputs without a valid answer since the latest request -/
theorem not_validAnswer
    (h : (since (Output.isRequest g) out).any (Output.isValidAnswer g d) = false)
    (a : CyclicResponse) : ¬ ValidAnswer g d a out := by
  intro ha
  have hnot := List.any_eq_false.mp h _ ha
  exact hnot (by simp [Output.isValidAnswer])

end

/-! ## the bit of a device that has answered -/

/-- the bit of device `d` is on exactly if the link scan starts in `CYCLIC_SENT` or it is forced -/
def Output.bitStays (gs : GroupSetting) (d : Nat) : Output → Prop
  | sendRequest _ start _ _ dg => requestBit dg (UInt16.ofNat (gs.pos d + 1)) = true ↔
    (start.slaveDevices d).forceTransmissionBit = true
      ∨ (start.slaveDevices d).deviceState = .cyclicSent
  | _ => True

structure KeepsBit (gs : GroupSetting) (g d : Nat) (hist : List Output) (gd : GroupData) : Prop where
  word : (gd.slaveDevices d).transmissionBit = true →
    clIefbExtractMyTransmissionState gd.cyclicTransmissionState (UInt16.ofNat (gs.pos d + 1)) = true
  valid : ∀ a, ValidAnswer g d a hist → (gd.slaveDevices d).transmissionBit = true
  requests : Preceded (Output.isRequest g)
    (fun before y => ∀ a, ValidAnswer g d a before → y.bitStays gs d) hist

section
variable {o : Options} {cfg : Config} {parameterNo : UInt16} {g d : Nat} {gd gd' : GroupData}
  {hist out : List Output} {A : GroupInput → GroupData → Prop}

/-- a move that sends no request leaves the word, and stores what the bit says -/
theorem GroupMove.noRequest (hm : GroupMove cfg g A gd out gd')
    (hno : ∀ x ∈ out, x.isRequest g = false) :
    gd'.cyclicTransmissionState = gd.cyclicTransmissionState
      ∧ ∀ d a, .stored g d a true ∈ out → (gd.slaveDevices d).transmissionBit = true := by
  cases hm with
  | start clm now unixMs hclm hs =>
    obtain ⟨x, hx, hreq⟩ := scanStart_request g now unixMs
      { clm := clm, group := { gd with groupState := .masterLinkScan }, out := [] }
    rw [hno x hx] at hreq
    cases hreq
  | accepted e r he ha hc =>
    refine ⟨rfl, fun d a hmem => ?_⟩
    rcases List.mem_append.mp hmem with hmem | hmem
    · have hs := reports_isStored g e r _ _ hmem g d
      simp [Output.isStored] at hs
    · have heq := List.mem_singleton.mp hmem
      rw [Output.stored.injEq] at heq
      rw [heq.2.1]
      exact heq.2.2.2.symm
  | complete hs hr => exact ⟨rfl, fun d a hmem => by cases List.mem_singleton.mp hmem⟩
  | timeout hs => exact ⟨rfl, fun d a hmem => by cases List.mem_singleton.mp hmem⟩
  | _ => exact ⟨rfl, fun d a hmem => absurd hmem List.not_mem_nil⟩

/-- the bit of a device after the scan start is the one in the request, or it is older -/
theorem linkscanStarted_word {now : UInt32} (hd : d < (cfg.hier.groups g).numSlaveDevices.toNat)
    (hst : LinkscanStarted (cfg.hier.groups g) g now gd gd')
    (hword : (gd.slaveDevices d).transmissionBit = true →
      clIefbExtractMyTransmissionState gd.cyclicTransmissionState
        (UInt16.ofNat ((cfg.hier.groups g).pos d + 1)) = true)
    (hb : (gd'.slaveDevices d).transmissionBit = true) :
    clIefbExtractMyTransmissionState gd'.cyclicTransmissionState
      (UInt16.ofNat ((cfg.hier.groups g).pos d + 1)) = true := by
  have hsl := hst.started.slots d hd
  rw [hst.devices, hst.started.device d hd, (startedDevice_fields _ g d _).bit] at hb
  rw [hst.word]
  unfold Slots at hsl
  split at hsl
  · rename_i hi
    rw [if_pos hi] at hb
    rw [hsl.bit]
    exact hword hb
  · rename_i hi
    rw [if_neg hi, decide_eq_true_eq] at hb
    rw [hsl.bit, outgoingBit, decide_eq_true_eq]
    exact Or.inl hb

section
variable (hv : GroupValid o cfg (cfg.hier.groups g))
  (hd : d < (cfg.hier.groups g).numSlaveDevices.toNat)
include hv hd

/-- the bit that goes out for a device whose bit has been on -/
theorem bitGoesOut_stays (h : GroupInv cfg parameterNo g gd)
    (hs : gd.groupState = .masterLinkScanComp)
    (hword : clIefbExtractMyTransmissionState gd.cyclicTransmissionState
      (UInt16.ofNat ((cfg.hier.groups g).pos d + 1)) = true) {now : UInt32}
    (hst : LinkscanStarted (cfg.hier.groups g) g now gd gd') (destIp : IpAddr) (destPort : UInt16) :
    (Output.sendRequest g gd.scanning destIp destPort gd'.reqFrame.datagram).bitStays
      (cfg.hier.groups g) d := by
  show requestBit _ _ = true ↔ _
  rw [linkscanStarted_bit hv h hs hst hd]
  unfold bitGoesOut
  cases hi : scanStartIgnored (gd.scanning.slaveDevices d) with
  | true =>
    rw [if_pos rfl]
    simp only [scanStartIgnored, decide_eq_true_eq] at hi
    exact ⟨fun _ => Or.inr hi.2, fun _ => hword⟩
  | false =>
    rw [if_neg (by simp), outgoingBit, decide_eq_true_eq, scanStartState_cyclicSending, or_comm]
    simp only [scanStartIgnored, decide_eq_false_iff_not, not_and] at hi
    constructor
    · exact fun hb => hb.imp id And.right
    · refine fun hb => hb.imp id (fun hsent => ⟨?_, hsent⟩)
      by_contra hen
      exact hi (Bool.eq_false_iff.mpr hen) hsent

theorem groupMove_keepsBit (hinv : GroupInv cfg parameterNo g gd)
    (hm : GroupMove cfg g A gd out gd') (h : KeepsBit (cfg.hier.groups g) g d hist gd) :
    KeepsBit (cfg.hier.groups g) g d (hist ++ out) gd' := by
  rcases hm.kept hv hinv with hst | ⟨hno, hkept⟩
  · obtain ⟨now, hstarted⟩ := hst.started
    obtain ⟨conns, destIp, hconns, rfl⟩ := hst.out
    have hreq : (Output.sendRequest g gd.scanning destIp clCciefbPort
        gd'.reqFrame.datagram).isRequest g = true := by
      simp [Output.isRequest]
    have hsilent : ∀ x ∈ conns, x.isRequest g = false := fun x hx => (hconns x hx).isRequest
    refine ⟨linkscanStarted_word hd hstarted h.word, ?_, ?_⟩
    · intro a ha
      rw [ValidAnswer, ← List.append_assoc, since_mark hreq] at ha
      cases ha
    · rw [← List.append_assoc]
      refine (h.requests.append hsilent).concat ?_
      intro _ a ha
      have hbit := h.valid a (ha.of_notStored (fun x hx => (hconns x hx).isStored))
      exact bitGoesOut_stays hv hd hinv hst.comp (h.word hbit) hstarted _ _
  · obtain ⟨hword, hstored⟩ := hm.noRequest hno
    have hbit := (hkept d hd).bit
    refine ⟨?_, ?_, h.requests.append hno⟩
    · rw [hbit, hword]
      exact h.word
    · intro a ha
      rw [hbit]
      exact ha.of_append.elim (h.valid a) (hstored d a)

end

end

/-! ## repeated answers -/

/-- a response of device `d` repeats the answer it has given in this link scan -/
def Repeats (g d : Nat) (r : CyclicResponse) (out : List Output) : Prop :=
  ∃ a, ValidAnswer g d a out
    ∧ r.hasSequenceNo a.fullHeaders.cyclicDataHeader.frameSequenceNo

/-- another response with the number of the group, from a device that has answered: the duplicate is
not noticed in `LISTEN`, or the group has gone on to its next number -/
structure AcceptsFurther (c : Clm) (out : List Output) (g d : Nat) (r : CyclicResponse) : Prop where
  live : c.aborted = false
  answered : ∃ a, ValidAnswer g d a out
  enabled : ((c.groups g).slaveDevices d).enabled = true
  stations : r.numberOfOccupied = ((c.setting g).slaveDevices d).numOccupiedStations
  current : r.hasSequenceNo (c.groups g).frameSequenceNo
  unnoticed : ((c.groups g).slaveDevices d).deviceState = .listen
    ∨ ¬ r.hasSequenceNo ((c.groups g).slaveDevices d).latestFrame.frameSequenceNo

/-- the next link scan starts with the bit forced, or in `CYCLIC_SENT` with a device that has been
disabled -/
def StaysConnected (c : Clm) (later : List Event) (g d : Nat) : Prop :=
  ∃ start destIp destPort dg,
    nextRequest g (master.run c later).2 = some (.sendRequest g start destIp destPort dg)
      ∧ ((start.slaveDevices d).forceTransmissionBit = true
        ∨ ((c.groups g).slaveDevices d).enabled = false
          ∧ (start.slaveDevices d).deviceState = .cyclicSent)

/-- the answers of a link scan: one is valid, all others are rejected -/
structure AnsweredOnce (g d : Nat) (hist : List Output) (gd : GroupData) : Prop where
  once : Preceded (Output.isValidAnswer g d) (fun before _ => ∀ a, ¬ ValidAnswer g d a before) hist
  latest : ∀ a, ValidAnswer g d a hist →
    (gd.slaveDevices d).latestFrame.hasBeenReceived = true
      ∧ a.hasSequenceNo (gd.slaveDevices d).latestFrame.frameSequenceNo

section
variable {g d : Nat} {hist out : List Output} {gd gd' : GroupData}

theorem AnsweredOnce.silent (h : AnsweredOnce g d hist gd) (ho : ∀ x ∈ out, x.isStored g d = false)
    (hlatest : (gd'.slaveDevices d).latestFrame = (gd.slaveDevices d).latestFrame) :
    AnsweredOnce g d (hist ++ out) gd' := by
  refine ⟨h.once.append (fun x hx => Output.isValidAnswer_of_isStored (ho x hx)), ?_⟩
  intro a ha
  rw [hlatest]
  exact h.latest a (ha.of_notStored ho)

/-- the first answer with the bit on, or an answer with the bit off -/
theorem AnsweredOnce.stored (h : AnsweredOnce g d hist gd) {r : CyclicResponse} {valid : Bool}
    {u v : List Output} (hu : ∀ x ∈ u, x.isStored g d = false) (hv : ∀ x ∈ v, x.isStored g d = false)
    (hfirst : ∀ a, ¬ ValidAnswer g d a hist)
    (hrec : (gd'.slaveDevices d).latestFrame.hasBeenReceived = true)
    (hseq : r.hasSequenceNo (gd'.slaveDevices d).latestFrame.frameSequenceNo) :
    AnsweredOnce g d (hist ++ (u ++ .stored g d r valid :: v)) gd' := by
  have hfirst' : ∀ a, ¬ ValidAnswer g d a (hist ++ u) := fun a ha => hfirst a (ha.of_notStored hu)
  have hu' : ∀ x ∈ u, x.isValidAnswer g d = false :=
    fun x hx => Output.isValidAnswer_of_isStored (hu x hx)
  have hv' : ∀ x ∈ v, x.isValidAnswer g d = false :=
    fun x hx => Output.isValidAnswer_of_isStored (hv x hx)
  rw [← List.append_assoc, List.append_cons]
  refine ⟨((h.once.append hu').concat (fun _ => hfirst')).append hv', ?_⟩
  intro a ha
  rcases (ha.of_notStored hv).of_append with ha | hmem
  · exact absurd ha (hfirst' a)
  · have heq := List.mem_singleton.mp hmem
    rw [Output.stored.injEq] at heq
    rw [heq.2.2.1]
    exact ⟨hrec, hseq⟩

end

/-- the checks of a response from a device with its bit on -/
theorem checkDevice_passes {gs : GroupSetting} {d : Nat} {r : CyclicResponse} {gd : GroupData}
    (hen : (gd.slaveDevices d).enabled = true)
    (hdup : isDuplicate (gd.slaveDevices d) r = false)
    (hseq : r.hasSequenceNo gd.frameSequenceNo)
    (hn : r.numberOfOccupied = (gs.slaveDevices d).numOccupiedStations) :
    (checkDevice gs d r gd).2 = true := by
  have hen' : ¬ (countIncoming (gd.slaveDevices d)).enabled = false := by
    show ¬ (gd.slaveDevices d).enabled = false
    rw [hen]
    simp
  have hdup' : ¬ isDuplicate (countIncoming (gd.slaveDevices d)) r = true := by
    show ¬ isDuplicate (gd.slaveDevices d) r = true
    rw [hdup]
    simp
  rw [checkDevice, if_neg hen', if_neg hdup', if_neg (fun h => h.2 hseq), if_neg (fun h => h hn)]

theorem notDuplicate {dev : SlaveDeviceData} {r : CyclicResponse}
    (h : dev.deviceState = .listen ∨ ¬ r.hasSequenceNo dev.latestFrame.frameSequenceNo) :
    isDuplicate dev r = false := by
  rw [isDuplicate, decide_eq_false_iff_not]
  rintro ⟨_, hseq, hs⟩
  rcases h with h | h
  · exact hs h
  · exact h hseq

/-- the duplicate check, for a device that has answered -/
theorem notDuplicate_iff {dev : SlaveDeviceData} {r : CyclicResponse}
    (hrec : dev.latestFrame.hasBeenReceived = true) :
    isDuplicate dev r = false
      ↔ dev.deviceState = .listen ∨ ¬ r.hasSequenceNo dev.latestFrame.frameSequenceNo := by
  refine ⟨fun h => ?_, notDuplicate⟩
  rw [isDuplicate, decide_eq_false_iff_not] at h
  by_contra hno
  rw [not_or, not_not] at hno
  exact h ⟨hrec, hno.2, hno.1⟩

/-! ## runs -/

namespace MasterStart
variable {o : Options} (st : MasterStart o)

theorem run_keepsBit (es : List Event) {g d : Nat} (hg : g < st.vc.numGroups)
    (hd : d < (st.vc.setting g).numSlaveDevices.toNat) :
    KeepsBit (st.vc.setting g) g d (ofGroup g (st.run es).2) ((st.run es).1.groups g) := by
  refine (st.run_inv (A := fun _ _ _ => True) hg ?_ ?_
    (Machine.Steps.of_all master (fun _ _ _ _ _ => trivial) _ es)).2
  · intro gd hinit
    refine ⟨fun hb => ?_, fun a ha => absurd ha List.not_mem_nil, .nil⟩
    rw [hinit.device d hd] at hb
    cases hb
  · exact fun _ _ _ _ hinv hm h => groupMove_keepsBit (st.vc.group hg) hd hinv hm h

/-- the bit of a device that has answered -/
theorem validAnswer_bit {es : List Event} {g d : Nat} (hg : g < st.vc.numGroups)
    (hd : d < (st.vc.setting g).numSlaveDevices.toNat) {a : CyclicResponse}
    (ha : ValidAnswer g d a (st.run es).2) :
    (((st.run es).1.groups g).slaveDevices d).transmissionBit = true :=
  (st.run_keepsBit es hg hd).valid a (validAnswer_ofGroup.mpr ha)

/-- **The next request after a valid answer.** -/
theorem validAnswer_next {pre post : List Event} {g d : Nat} (hg : g < st.vc.numGroups)
    (hd : d < (st.vc.setting g).numSlaveDevices.toNat) {a : CyclicResponse}
    (ha : ValidAnswer g d a (st.run pre).2) {y : Output}
    (hy : nextRequest g (master.run (st.run pre).1 post).2 = some y) :
    y.bitStays (st.vc.setting g) d := by
  have hreqs := (st.run_keepsBit (pre ++ post) hg hd).requests.of_filter
    (fun _ hx => Output.isOf_of_isRequest hx)
  obtain ⟨hreq, before, after, hout, hno⟩ := List.find?_eq_some_iff_append.mp hy
  have hsilent : ∀ x ∈ before, x.isRequest g = false := fun x hx => by simpa using hno x hx
  have hbefore := ha.append hsilent
  refine hreqs ((st.run pre).2 ++ before) y after ?_ hreq a (validAnswer_ofGroup.mpr hbefore)
  rw [st.run_append, hout, List.append_assoc]

/-- a further response that passes the checks -/
theorem acceptsFurther_of_passed {pre : List Event} {g d : Nat} (hg : g < st.vc.numGroups)
    (hd : d < (st.vc.setting g).numSlaveDevices.toNat) {a r : CyclicResponse}
    (hlive : (st.run pre).1.aborted = false) (ha : ValidAnswer g d a (st.run pre).2)
    (hrec : (((st.run pre).1.groups g).slaveDevices d).latestFrame.hasBeenReceived = true)
    (hc : (checkDevice ((st.run pre).1.setting g) d r ((st.run pre).1.groups g)).2 = true) :
    AcceptsFurther (st.run pre).1 (st.run pre).2 g d r := by
  have hpass := checkDevice_passed hc
  exact ⟨hlive, ⟨a, ha⟩, hpass.enabled, hpass.stations,
    hpass.sequence (st.validAnswer_bit hg hd ha), (notDuplicate_iff hrec).mp hpass.notDuplicate⟩

/-- no step of the run accepts a further response -/
def NoFurther (es : List Event) (g d : Nat) : Prop :=
  ∀ pre e post, es = pre ++ e :: post → ∀ r, GroupReceives (st.run pre).1 e g (.response d r) →
    ¬ AcceptsFurther (st.run pre).1 (st.run pre).2 g d r

theorem run_answeredOnce {es : List Event} (hes : ∀ x ∈ es, x ≠ .statisticsClearAll) {g d : Nat}
    (hg : g < st.vc.numGroups) (hd : d < (st.vc.setting g).numSlaveDevices.toNat)
    (hno : st.NoFurther es g d) :
    AnsweredOnce g d (ofGroup g (st.run es).2) ((st.run es).1.groups g) := by
  induction es using List.reverseRecOn with
  | nil =>
    rw [st.run_nil, ofGroup_none st.init_spec.out]
    exact ⟨.nil, fun a ha => absurd ha List.not_mem_nil⟩
  | append_singleton es e ih =>
    have hpre := ih (fun x hx => hes x (List.mem_append_left _ hx)) (by
      intro pre e' post heq
      refine hno pre e' (post ++ [e]) ?_
      rw [heq, List.append_assoc, List.cons_append])
    rw [st.run_concat]
    by_cases hlive : (st.run es).1.aborted = true
    · rw [show clmStep (st.run es).1 e = ((st.run es).1, []) from if_pos hlive, List.append_nil]
      exact hpre
    have hcfg := (st.run_config es).1
    have hset : (st.run es).1.setting g = st.vc.setting g := by
      rw [Clm.setting, hcfg]
    have hv : GroupValid o (st.run es).1.shared.config ((st.run es).1.setting g) := by
      rw [Clm.setting, hcfg]
      exact st.vc.group hg
    have hd' : d < ((st.run es).1.setting g).numSlaveDevices.toNat := by
      rw [hset]
      exact hd
    have hinv : GroupInv (st.run es).1.shared.config st.parameterNo g ((st.run es).1.groups g) := by
      rw [hcfg]
      exact st.group_groupInv es hg
    have hg' : g < (st.run es).1.numGroups := by
      rw [Clm.numGroups, hcfg]
      exact hg
    rw [ofGroup_append]
    rcases (clmStep_group (st.run es).1 e hg').latest hv hd' hinv with
      ⟨hnone, _, hkept⟩ | ⟨r, u, v, hr, hc, hout, hu, hv', hnew⟩
    · exact hpre.silent hnone (hkept (hes e (List.mem_append_right _ List.mem_cons_self)))
    · rw [hout]
      refine hpre.stored (fun x hx => (hu x hx).2) hv' ?_ (by rw [hnew]; rfl) (by rw [hnew]; rfl)
      -- a further answer is ruled out
      intro a ha
      refine hno es e [] rfl r hr (st.acceptsFurther_of_passed hg hd ?_ (validAnswer_ofGroup.mp ha)
        (hpre.latest a ha).1 hc)
      exact Bool.eq_false_iff.mpr hlive

/-- **Slave duplication**, for a device in one run. -/
structure SlaveDuplicationHandled (es : List Event) (g d : Nat) : Prop where
  /-- between two requests at most one response is stored with the bit of the device on -/
  once : ∀ before after r, (st.run es).2 = before ++ .stored g d r true :: after →
    ∀ a, ¬ ValidAnswer g d a before
  rejected : ∀ pre post now unixMs dg remoteIp remotePort,
    es = pre ++ .frame now unixMs dg remoteIp remotePort :: post →
    (st.run pre).1.aborted = false → ∀ r,
    clmResponse (st.run pre).1 now dg remoteIp remotePort = some (g, d, r) →
    Repeats g d r (st.run pre).2 →
    (clmIefbHandleInputFrame now unixMs dg remoteIp remotePort (st.run pre).1).2.2 = -1
      ∧ ∀ g', ((clmIefbHandleInputFrame now unixMs dg remoteIp remotePort
          (st.run pre).1).1.groups g').memoryArea = ((st.run pre).1.groups g').memoryArea
  disconnected : ∀ pre e post, es = pre ++ e :: post → ∀ r,
    GroupReceives (st.run pre).1 e g (.response d r) → Repeats g d r (st.run pre).2 →
    ∀ start destIp destPort dg, nextRequest g (master.run (st.run pre).1 (e :: post)).2
        = some (.sendRequest g start destIp destPort dg) →
      requestBit dg (UInt16.ofNat ((st.vc.setting g).pos d + 1)) = false

section
variable {st} {es pre post : List Event} {e : Event} {g d : Nat} {r : CyclicResponse}
  (heq : es = pre ++ e :: post) (hr : GroupReceives (st.run pre).1 e g (.response d r))
include heq hr

/-- a further response that is accepted is stored -/
theorem SlaveDuplicationHandled.noFurther (h : st.SlaveDuplicationHandled es g d) :
    ¬ AcceptsFurther (st.run pre).1 (st.run pre).2 g d r := by
  intro hf
  obtain ⟨now, unixMs, dg, remoteIp, remotePort, rfl, hresp⟩ := hr
  obtain ⟨hg', hd', hhandle⟩ := clmIefbHandleInputFrame_response unixMs hresp
  have hcfg := (st.run_config pre).1
  rw [Clm.numGroups, hcfg] at hg'
  rw [Clm.setting, hcfg] at hd'
  have hc : (checkDevice ((st.run pre).1.setting g) d r ((st.run pre).1.groups g)).2 = true :=
    checkDevice_passes hf.enabled (notDuplicate hf.unnoticed) hf.current hf.stations
  obtain ⟨_, o, hout, _⟩ := handledResponse_step
    ⟨now, unixMs, dg, remoteIp, remotePort, rfl, hresp, by
      rw [hhandle, handleDeviceResponse_value, if_pos hc]⟩ hf.live
  obtain ⟨a, ha⟩ := hf.answered
  rw [st.validAnswer_bit hg' hd' ha] at hout
  -- both answers are among the outputs about the group
  have honce : Preceded (Output.isValidAnswer g d)
      (fun before _ => ∀ a, ¬ ValidAnswer g d a before) (ofGroup g (st.run es).2) := by
    apply Preceded.filter
    intro before y after hsplit hy a ha
    obtain ⟨r', rfl⟩ := Output.isValidAnswer_eq hy
    exact h.once before after r' hsplit a (validAnswer_ofGroup.mp ha)
  refine honce (ofGroup g (st.run pre).2
      ++ reports g d r (((st.run pre).1.groups g).slaveDevices d).latestFrame) (.stored g d r true)
    (o ++ ofGroup g (master.run (clmStep (st.run pre).1 (.frame now unixMs dg remoteIp
      remotePort)).1 post).2) ?_ (by simp [Output.isValidAnswer]) a ?_
  · rw [heq, st.run_append, Machine.run_cons, ofGroup_append, ofGroup_append]
    show _ ++ (ofGroup g (clmStep _ _).2 ++ _) = _
    rw [hout]
    simp only [List.append_assoc, List.cons_append, List.nil_append]
    rfl
  · exact (validAnswer_ofGroup.mpr ha).append (fun x hx => (reports_spec g d r _ x hx).2 g)

/-- the next request after a repeated answer, for a device that stays connected -/
theorem SlaveDuplicationHandled.notConnected (h : st.SlaveDuplicationHandled es g d)
    (hrep : Repeats g d r (st.run pre).2) : ¬ StaysConnected (st.run pre).1 (e :: post) g d := by
  rintro ⟨start, destIp, destPort, dg, hnext, hstart⟩
  have hoff := h.disconnected pre e post heq r hr hrep start destIp destPort dg hnext
  obtain ⟨now, unixMs, dgIn, remoteIp, remotePort, rfl, hresp⟩ := hr
  obtain ⟨hg', hd', _⟩ := clmIefbHandleInputFrame_response unixMs hresp
  have hcfg := (st.run_config pre).1
  rw [Clm.numGroups, hcfg] at hg'
  rw [Clm.setting, hcfg] at hd'
  obtain ⟨a, ha, _⟩ := hrep
  have hon := (st.validAnswer_next hg' hd' ha hnext).mpr (hstart.imp id And.right)
  rw [hoff] at hon
  cases hon

end

section
variable {es pre post : List Event} {e : Event} {g d : Nat} {r : CyclicResponse}
  (hes : ∀ x ∈ es, x ≠ .statisticsClearAll) (hg : g < st.vc.numGroups)
  (hd : d < (st.vc.setting g).numSlaveDevices.toNat) (hno : st.NoFurther es g d)
  (heq : es = pre ++ e :: post) (hr : GroupReceives (st.run pre).1 e g (.response d r))
  (hlive : (st.run pre).1.aborted = false) (hrep : Repeats g d r (st.run pre).2)
include hes hg hd hno heq

theorem answeredOnce_before :
    AnsweredOnce g d (ofGroup g (st.run pre).2) ((st.run pre).1.groups g) := by
  refine st.run_answeredOnce (fun x hx => hes x ?_) hg hd ?_
  · rw [heq]
    exact List.mem_append_left _ hx
  · intro a x b hab
    exact hno a x (b ++ e :: post) (by rw [heq, hab, List.append_assoc, List.cons_append])

include hr hlive hrep

/-- a repeated answer fails the checks -/
theorem repeated_rejected :
    (checkDevice ((st.run pre).1.setting g) d r ((st.run pre).1.groups g)).2 = false := by
  obtain ⟨a, ha, _⟩ := hrep
  have hpre := st.answeredOnce_before hes hg hd hno heq
  rw [← Bool.not_eq_true]
  intro hc
  exact hno pre e post heq r hr (st.acceptsFurther_of_passed hg hd hlive ha
    (hpre.latest a (validAnswer_ofGroup.mpr ha)).1 hc)

/-- a repeated answer of an enabled device leaves it in `LISTEN`, and nothing is sent -/
theorem repeated_listen
    (hen : (((st.run pre).1.groups g).slaveDevices d).enabled = true) :
    ofGroup g (clmStep (st.run pre).1 e).2 = []
      ∧ (((clmStep (st.run pre).1 e).1.groups g).slaveDevices d).deviceState = .listen := by
  have hc := st.repeated_rejected hes hg hd hno heq hr hlive hrep
  obtain ⟨a, ha, hseq⟩ := hrep
  obtain ⟨hrec, hlatest⟩ := (st.answeredOnce_before hes hg hd hno heq).latest a
    (validAnswer_ofGroup.mpr ha)
  have hcfg := (st.run_config pre).1
  have hg' : g < (st.run pre).1.numGroups := by
    rw [Clm.numGroups, hcfg]
    exact hg
  have hphase := (st.group_groupInv pre hg).phase d hd
  have hstate : (checkDevice ((st.run pre).1.setting g) d r
      ((st.run pre).1.groups g)).1.deviceState = .listen := by
    rw [(checkDevice_device _ d r _).2]
    cases hdup : isDuplicate (((st.run pre).1.groups g).slaveDevices d) r with
    | true =>
      rw [if_pos ⟨hen, rfl⟩]
      exact deviceLocal_slaveDuplication _ _ (devicePhase_ne_down hphase)
    | false =>
      rw [if_neg (by simp)]
      refine ((notDuplicate_iff hrec).mp hdup).resolve_right (not_not.mpr ?_)
      exact hseq.trans hlatest
  rcases (clmStep_group (st.run pre).1 e hg').response_cases hr hlive with ⟨_, hout, hgd⟩ | ⟨hc', _⟩
  · refine ⟨hout, ?_⟩
    rw [hgd, GroupData.modifyDevice_self]
    exact hstate
  · rw [hc] at hc'
    cases hc'

end

/-- **Slave duplication.**  Every repeated answer is rejected and disconnects the device, unless a
step of the run accepts a further response or the device stays connected. -/
theorem slaveDuplication_iff {es : List Event} (hes : ∀ x ∈ es, x ≠ .statisticsClearAll) {g d : Nat}
    (hg : g < st.vc.numGroups) (hd : d < (st.vc.setting g).numSlaveDevices.toNat) :
    st.SlaveDuplicationHandled es g d ↔ ∀ pre e post, es = pre ++ e :: post → ∀ r,
      GroupReceives (st.run pre).1 e g (.response d r) →
      ¬ AcceptsFurther (st.run pre).1 (st.run pre).2 g d r
        ∧ (Repeats g d r (st.run pre).2 → ¬ StaysConnected (st.run pre).1 (e :: post) g d) := by
  constructor
  · intro h pre e post heq r hr
    exact ⟨h.noFurther heq hr, h.notConnected heq hr⟩
  · intro h
    have hno : st.NoFurther es g d := fun pre e post heq r hr => (h pre e post heq r hr).1
    refine ⟨?_, ?_, ?_⟩
    · intro before after r hout a
      have honce := (st.run_answeredOnce hes hg hd hno).once.of_filter (q := Output.isOf g) (by
        intro x hx
        obtain ⟨a, rfl⟩ := Output.isValidAnswer_eq hx
        simp [Output.isOf, Output.owner])
      have hfirst := honce before _ after hout (by simp [Output.isValidAnswer]) a
      exact fun ha => hfirst (validAnswer_ofGroup.mpr ha)
    · intro pre post now unixMs dg remoteIp remotePort heq hlive r hresp hrep
      have hc := st.repeated_rejected hes hg hd hno heq ⟨_, _, _, _, _, rfl, hresp⟩ hlive hrep
      obtain ⟨_, _, hhandle⟩ := clmIefbHandleInputFrame_response unixMs hresp
      have hvalue : (clmIefbHandleInputFrame now unixMs dg remoteIp remotePort
          (st.run pre).1).2.2 = -1 := by
        rw [hhandle, handleDeviceResponse_value, hc, if_neg (by simp)]
      refine ⟨hvalue, fun g' => ?_⟩
      rcases (handleInputFrame_rejected hvalue).groups with hsame | ⟨k, e, r', dev, _, _, hsame⟩
      · rw [hsame]
      · rw [hsame]
        by_cases hk : g' = k
        · subst hk
          rw [Function.update_self]
          rfl
        · rw [Function.update_of_ne hk]
    · intro pre e post heq r hr hrep start destIp destPort dg hnext
      have hconn := (h pre e post heq r hr).2 hrep
      have hlive : (st.run pre).1.aborted = false := by
        rw [← Bool.not_eq_true]
        intro ha
        rw [run_aborted ha] at hnext
        cases hnext
      obtain ⟨a, ha, _⟩ := id hrep
      have hbit := st.validAnswer_next hg hd ha hnext
      rw [← Bool.not_eq_true]
      intro hon
      refine hconn ⟨start, destIp, destPort, dg, hnext, ?_⟩
      rcases hbit.mp hon with hforce | hsent
      · exact Or.inl hforce
      refine or_iff_not_imp_left.mpr (fun hforce => ⟨?_, hsent⟩)
      by_contra hen
      obtain ⟨hsilent, hlisten⟩ := st.repeated_listen hes hg hd hno heq hr hlive hrep
        ((Bool.not_eq_false _).mp hen)
      have hrest := st.next_disconnects (pre ++ [e]) post hg hd (by
        rw [st.run_concat, hlisten]
        rfl)
      rw [← nextRequest_ofGroup, Machine.run_cons, ofGroup_append] at hnext
      rw [show ofGroup g (master.step (st.run pre).1 e).2 = [] from hsilent, List.nil_append] at hnext
      have hoff := hrest.first (.sendRequest g start destIp destPort dg) (by
        rw [st.run_concat]
        exact hnext) (Bool.eq_false_iff.mpr hforce)
      rw [hon] at hoff
      cases hoff

/-- the device repeats its second answer before the next link scan starts -/
theorem slaveDuplication_example : (exampleStart false true).SlaveDuplicationHandled
    [.exampleTick 5000, .exampleAnswer 5100 0 1 0 0, .exampleTick 30000, .exampleAnswer 31000 0 1 0 1,
      .exampleAnswer 32000 0 1 0 1, .exampleTick 60000] 0 0 := by
  refine ((exampleStart false true).slaveDuplication_iff ?_ (by decide) (by decide)).mpr ?_
  · simp [Event.exampleTick, Event.exampleAnswer]
  have hframe : ∀ {c : Clm} {now : UInt32} {r : CyclicResponse},
      ¬ GroupReceives c (.exampleTick now) 0 (.response 0 r) := by
    rintro c now r ⟨_, _, _, _, _, he, _⟩
    cases he
  intro pre e post heq r hr
  rcases pre with _ | ⟨e0, _ | ⟨e1, _ | ⟨e2, _ | ⟨e3, _ | ⟨e4, _ | ⟨e5, pre⟩⟩⟩⟩⟩⟩ <;>
    simp only [List.nil_append, List.cons_append, List.cons.injEq] at heq
  · obtain ⟨rfl, _⟩ := heq
    exact absurd hr hframe
  · obtain ⟨rfl, rfl, _⟩ := heq
    have hnone : ∀ a, ¬ ValidAnswer 0 0 a ((exampleStart false true).run [.exampleTick 5000]).2 :=
      not_validAnswer (by decide +kernel)
    refine ⟨fun hf => hf.answered.elim hnone, ?_⟩
    rintro ⟨a, ha, _⟩
    exact absurd ha (hnone a)
  · obtain ⟨rfl, rfl, rfl, _⟩ := heq
    exact absurd hr hframe
  · obtain ⟨rfl, rfl, rfl, rfl, _⟩ := heq
    have hnone : ∀ a, ¬ ValidAnswer 0 0 a ((exampleStart false true).run
        [.exampleTick 5000, .exampleAnswer 5100 0 1 0 0, .exampleTick 30000]).2 :=
      not_validAnswer (by decide +kernel)
    refine ⟨fun hf => hf.answered.elim hnone, ?_⟩
    rintro ⟨a, ha, _⟩
    exact absurd ha (hnone a)
  · obtain ⟨rfl, rfl, rfl, rfl, rfl, rfl⟩ := heq
    obtain ⟨_, _, hseq⟩ := exampleAnswer_seq hr rfl (by decide +kernel)
    refine ⟨fun hf => ?_, fun _ => ?_⟩
    · rcases hf.unnoticed with hlisten | hseq'
      · exact absurd hlisten (by decide +kernel)
      · exact hseq' (hseq.trans (by decide +kernel))
    · rintro ⟨start, destIp, destPort, dg, hnext, hforce | ⟨hen, _⟩⟩
      · have hno : (nextRequest 0 (master.run ((exampleStart false true).run [.exampleTick 5000,
            .exampleAnswer 5100 0 1 0 0, .exampleTick 30000, .exampleAnswer 31000 0 1 0 1]).1
            [.exampleAnswer 32000 0 1 0 1, .exampleTick 60000]).2).any (Output.isRequestWith 0
              fun start _ => !(start.slaveDevices 0).forceTransmissionBit) = true := by
          decide +kernel
        rw [hnext] at hno
        simp [Output.isRequestWith, hforce] at hno
      · exact absurd hen (by decide +kernel)
  · obtain ⟨rfl, rfl, rfl, rfl, rfl, rfl, _⟩ := heq
    exact absurd hr hframe
  · obtain ⟨_, _, _, _, _, _, hnil⟩ := heq
    cases pre <;> cases hnil

/-- the third of three equal answers is stored again, since the second one has brought the device to
`LISTEN` -/
theorem thirdAnswer_stored :
    ¬ ∀ (o : Options) (st : MasterStart o) (es : List Event), (∀ x ∈ es, x ≠ .statisticsClearAll) →
      ∀ g d, g < st.vc.numGroups → d < (st.vc.setting g).numSlaveDevices.toNat →
        st.SlaveDuplicationHandled es g d := by
  intro h
  have hthird : ((((exampleStart true false).run [.exampleTick 5000, .exampleAnswer 5100 0 1 0 0,
      .exampleAnswer 5200 1 1 0 0, .exampleAnswer 5300 0 1 0 1, .exampleAnswer 5400 0 1 0 1,
      .exampleAnswer 5500 0 1 0 1]).2)[13]?).any (Output.isValidAnswer 0 0) = true := by
    decide +kernel
  have hfirst : (since (Output.isRequest 0) (((exampleStart true false).run [.exampleTick 5000,
      .exampleAnswer 5100 0 1 0 0, .exampleAnswer 5200 1 1 0 0, .exampleAnswer 5300 0 1 0 1,
      .exampleAnswer 5400 0 1 0 1, .exampleAnswer 5500 0 1 0 1]).2.take 13)).any
        (Output.isValidAnswer 0 0) = true := by
    decide +kernel
  obtain ⟨y, hy, hout⟩ := exists_output hthird
  obtain ⟨r, rfl⟩ := Output.isValidAnswer_eq hy
  obtain ⟨x, hx, hvalid⟩ := List.any_eq_true.mp hfirst
  obtain ⟨a, rfl⟩ := Output.isValidAnswer_eq hvalid
  refine (h _ (exampleStart true false) _ ?_ 0 0 (by decide) (by decide)).once _ _ r hout a hx
  simp [Event.exampleTick, Event.exampleAnswer]

end MasterStart

end CLink
