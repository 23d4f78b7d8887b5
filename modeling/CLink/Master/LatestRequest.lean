import CLink.Master.SlaveDuplication

/-!
# The latest request of a group

A response is checked against the counter of the group, which is the number of the latest request or
the one after it.

* `Counter`                 the counter and the transmission word after any number of requests;
* `StoredValid`             what a step that stores valid data has found;
* `counter_current`         a response to one of the last 65534 requests that passes the check answers
                            the latest one.
-/

namespace CLink
open Loop Trace

/-- the counter belongs to the latest request or to the next one, and the word to the latest -/
structure Counter (g : Nat) (hist : List Output) (gd : GroupData) : Prop where
  seq : requestCount g hist = 0
    ∨ gd.frameSequenceNo = frameSequence (requestCount g hist - 1)
    ∨ gd.frameSequenceNo = frameSequence (requestCount g hist)
  word : ∀ start destIp destPort dg,
    latestRequest g hist = some (.sendRequest g start destIp destPort dg) →
    ∀ stationNo, requestBit dg stationNo
      = clIefbExtractMyTransmissionState gd.cyclicTransmissionState stationNo

section
variable {o : Options} {cfg : Config} {parameterNo : UInt16} {g : Nat} {gd gd' : GroupData}
  {hist out : List Output} {A : GroupInput → GroupData → Prop}

/-- neither a request nor another counter -/
theorem Counter.silent (h : Counter g hist gd) (ho : ∀ x ∈ out, x.isRequest g = false)
    (hseq : gd'.frameSequenceNo = gd.frameSequenceNo)
    (hword : gd'.cyclicTransmissionState = gd.cyclicTransmissionState) :
    Counter g (hist ++ out) gd' := by
  refine ⟨?_, ?_⟩
  · rw [requestCount_silent ho, hseq]
    exact h.seq
  · rw [latestRequest, Numbered.filter_silent ho, hword]
    exact h.word

/-- the end of a link scan -/
theorem Counter.endScan (h : Counter g hist gd) (hs : gd.groupState = .masterLinkScan)
    (hsequence : Sequence g hist gd) (gs : GroupSetting) (event : DeviceEvent) (success : Bool) :
    Counter g (hist ++ [.linkscanCb g success]) (gd.endScan gs event) := by
  have ho : ∀ x ∈ [Output.linkscanCb g success], x.isRequest g = false := by
    intro x hx
    rw [List.mem_singleton.mp hx]
    rfl
  refine ⟨Or.inr (Or.inr ?_), ?_⟩
  · rw [requestCount_silent ho]
    exact hsequence.scan hs
  · rw [latestRequest, Numbered.filter_silent ho]
    exact h.word

theorem groupMove_counter (hv : GroupValid o cfg (cfg.hier.groups g))
    (hinv : GroupInv cfg parameterNo g gd) (hsequence : Sequence g hist gd)
    (hm : GroupMove cfg g A gd out gd') (h : Counter g hist gd) : Counter g (hist ++ out) gd' := by
  cases hm with
  | start clm now unixMs hclm hs =>
    obtain ⟨hst, hout⟩ := linkscanStart_started hv hinv hs hclm now unixMs
    have hconn : ∀ x ∈ (startDevices (cfg.hier.groups g) g gd.scanning).2,
        x.isRequest g = false := fun x hx => (startDevices_out _ _ _ x hx).isRequest
    rw [hout]
    have hfilter := Numbered.filter_mark (y := .sendRequest g gd.scanning clm.iefbBroadcastIp
      clCciefbPort (linkscanStart g now unixMs clm gd).group.reqFrame.datagram)
      (show Output.isRequest g _ = true by simp [Output.isRequest]) hconn hist
    refine ⟨Or.inr (Or.inl ?_), ?_⟩
    · rw [requestCount, hfilter, List.length_append, List.length_singleton, Nat.add_sub_cancel,
        hst.seq]
      exact hsequence.comp hs
    · intro start destIp destPort dg hlatest stationNo
      rw [latestRequest, hfilter, List.getLast?_concat] at hlatest
      cases hlatest
      rw [(linkscanStarted_datagram hv hinv hs hst).2.2.2, hst.word]
  | complete hs hr => exact h.endScan hs hsequence _ _ _
  | timeout hs => exact h.endScan hs hsequence _ _ _
  | accepted d r hd ha hc =>
    exact h.silent (fun x hx => accepted_isRequest g d r _ _ x hx g) rfl rfl
  | _ => exact h.silent (fun x hx => absurd hx List.not_mem_nil) rfl rfl

end

/-! ## stored data -/

/-- the inputs of the master stay until the next response -/
theorem Internal.inputs {o : Options} {cfg : Config} {parameterNo : UInt16} {g : Nat}
    {gd gd' : GroupData} {out : List Output} (hv : GroupValid o cfg (cfg.hier.groups g))
    (hinv : GroupInv cfg parameterNo g gd) (hm : Internal cfg g gd out gd') :
    gd'.memoryArea.rx = gd.memoryArea.rx ∧ gd'.memoryArea.rwr = gd.memoryArea.rwr := by
  cases hm with
  | rejected d r hd ha hc => exact absurd ha id
  | accepted d r hd ha hc => exact absurd ha id
  | start clm now unixMs hclm hs =>
    obtain ⟨hst, _⟩ := linkscanStart_started hv hinv hs hclm now unixMs
    rw [hst.area]
    exact ⟨rfl, rfl⟩
  | _ => exact ⟨rfl, rfl⟩

/-- what a step has found when it stores response `r` as valid data of device `d` -/
structure StoredValid (c : Clm) (e : Event) (g d : Nat) (r : CyclicResponse) (before : List Output)
    (gd' : GroupData) : Prop where
  receives : GroupReceives c e g (.response d r)
  passed : CheckPassed (c.setting g) d r (c.groups g)
  bit : ((c.groups g).slaveDevices d).transmissionBit = true
  silent : ∀ x ∈ before, x.isRequest g = false
  data : ∀ j, j < (c.setting g).num d →
    gd'.memoryArea.rx ((c.setting g).pos d + j) = r.rx j
      ∧ gd'.memoryArea.rwr ((c.setting g).pos d + j) = r.rwr j

theorem GroupStep.storedValid {o : Options} {c : Clm} {parameterNo : UInt16} {e : Event} {g d : Nat}
    {gd' : GroupData} {out before after : List Output} {r : CyclicResponse}
    (hv : GroupValid o c.shared.config (c.setting g))
    (hinv : GroupInv c.shared.config parameterNo g (c.groups g)) (h : GroupStep c e g out gd')
    (hout : out = before ++ .stored g d r true :: after) : StoredValid c e g d r before gd' := by
  have hnone : ∀ (d : Nat) (r : CyclicResponse) (gd : GroupData), ¬ False := fun _ _ _ h => h
  have hstored : Output.isStored g d (.stored g d r true) = true := by
    simp [Output.isStored]
  have hnot : ∀ l : List Output, (∀ x ∈ l, x.isStored g d = false) → .stored g d r true ∉ l := by
    intro l hl hmem
    rw [hl _ hmem] at hstored
    cases hstored
  have hmem : .stored g d r true ∈ out := by
    rw [hout]
    exact List.mem_append_right _ List.mem_cons_self
  cases h with
  | internal hno h =>
    exact absurd hmem (hnot _ (fun x hx => star_notStored hnone h x hx g d))
  | call y hy hc h =>
    exact absurd hmem (hnot _ (fun x hx =>
      star_notStored (fun d r _ h => hc d r h.symm) h x hx g d))
  | rejected k r' hr hk hc => exact absurd hmem List.not_mem_nil
  | @accepted k r' hr hk hc rest _ h hdupl =>
    have hreports := hnot (reports g k r' ((c.groups g).slaveDevices k).latestFrame)
      (fun x hx => reports_isStored g k r' _ x hx g d)
    have hrest := hnot rest (fun x hx => star_notStored hnone h x hx g d)
    rw [List.append_assoc, List.singleton_append] at hout
    obtain ⟨rfl, heq, rfl⟩ := (List.append_cons_inj_of_notMem hreports hrest).mp hout
    rw [Output.stored.injEq] at heq
    obtain ⟨_, rfl, rfl, hbit⟩ := heq
    have hpass := checkDevice_passed hc
    obtain ⟨hsame, _⟩ := checkDevice_device (c.setting g) k r' (c.groups g)
    have hafter : GroupInv c.shared.config parameterNo g
        (acceptResponse c.shared.config (c.setting g) k r' (c.groups g)) :=
      groupMove_inv (A := fun _ _ => True) hv (.accepted (c.groups g) k r' hk trivial hc) hinv
    refine ⟨hr, hpass, hbit, fun x hx => (reports_spec g k r' _ x hx).2 g, ?_⟩
    -- the rest of the step leaves the inputs alone
    have hinputs := h.state_inv (I := fun t => GroupInv c.shared.config parameterNo g t
        ∧ t.memoryArea.rx = (acceptResponse c.shared.config (c.setting g) k r'
          (c.groups g)).memoryArea.rx
        ∧ t.memoryArea.rwr = (acceptResponse c.shared.config (c.setting g) k r'
          (c.groups g)).memoryArea.rwr)
      (by
        rintro s o t hm ⟨hs, hrx, hrwr⟩
        obtain ⟨hrx', hrwr'⟩ := hm.inputs hv hs
        exact ⟨groupMove_inv hv hm hs, hrx'.trans hrx, hrwr'.trans hrwr⟩)
      ⟨hafter, rfl, rfl⟩
    have hindex : (checkDevice (c.setting g) k r' (c.groups g)).1.slaveStationNo.toNat - 1
        = (c.setting g).pos k := by
      have hstation : ((c.groups g).slaveDevices k).slaveStationNo
          = UInt16.ofNat ((c.setting g).pos k + 1) := hinv.station k hk
      rw [hsame.station, hstation, hv.stationNo_toNat hk, Nat.add_sub_cancel]
    intro j hj
    rw [hinputs.2.1, hinputs.2.2]
    simp only [acceptResponse, clmIefbStoreIncomingCyclicData, hsame.bit, hbit, if_true, hindex]
    exact ⟨blit_in hj, blit_in hj⟩

/-! ## runs -/

/-- a response that carries the counter answers the latest request -/
theorem Counter.current {g : Nat} {hist : List Output} {gd : GroupData} (h : Counter g hist gd)
    {k : Nat} (hk : k < requestCount g hist) (hclose : requestCount g hist - k < 65535)
    (hseq : frameSequence k = gd.frameSequenceNo) : k + 1 = requestCount g hist := by
  rcases h.seq with h | h | h
  · omega
  · by_contra hne
    have hlt : k < requestCount g hist - 1 := by omega
    obtain ⟨_, hdvd⟩ := (frameSequence_eq_iff hlt).mp (hseq.trans h)
    have hle := Nat.le_of_dvd (by omega) hdvd
    omega
  · obtain ⟨_, hdvd⟩ := (frameSequence_eq_iff hk).mp (hseq.trans h)
    have hle := Nat.le_of_dvd (by omega) hdvd
    omega

namespace MasterStart
variable {o : Options} (st : MasterStart o)

theorem run_counter (es : List Event) {g : Nat} (hg : g < st.vc.numGroups) :
    Counter g (ofGroup g (st.run es).2) ((st.run es).1.groups g) := by
  have hv := st.vc.group hg
  have hrun := (st.run_inv (A := fun _ _ _ => True)
    (I := fun hist gd => Sequence g hist gd ∧ Counter g hist gd) hg
    (by
      intro gd hinit
      refine ⟨⟨Numbered.nil, fun _ => ⟨rfl, hinit.seq⟩, ?_, ?_⟩, Or.inl rfl, ?_⟩
      · intro hs
        rw [hinit.state] at hs
        cases hs
      · intro hs
        rw [hinit.state] at hs
        cases hs
      · intro start destIp destPort dg hlatest
        cases hlatest)
    (fun _ _ _ _ hinv hm h =>
      ⟨groupMove_sequence hv hinv hm h.1, groupMove_counter hv hinv h.1 hm h.2⟩)
    (Machine.Steps.of_all master (fun _ _ _ _ _ => trivial) _ es)).2
  exact hrun.2

/-- every request is the frame of a group -/
theorem run_requestFrame {es : List Event} {g : Nat} {start : GroupData} {destIp : IpAddr}
    {destPort : UInt16} {dg : Datagram}
    (hmem : .sendRequest g start destIp destPort dg ∈ (st.run es).2) :
    ∃ gd, GroupInv st.vc.cfg st.parameterNo g gd ∧ dg = gd.reqFrame.datagram :=
  st.run_request (A := fun _ _ _ => True) (I := fun _ => True)
    (P := fun _ dg => ∃ gd, GroupInv st.vc.cfg st.parameterNo g gd ∧ dg = gd.reqFrame.datagram)
    (fun _ _ => trivial) (fun _ _ _ _ _ _ => trivial)
    (fun _ _ gd' hinv _ hs hst =>
      ⟨gd', groupInv_linkscanStarted (st.vc.group (st.mem_ofGroup rfl hmem).1) hinv hs hst, rfl⟩)
    (Machine.Steps.of_all master (fun _ _ _ _ _ => trivial) _ _) hmem

end MasterStart

end CLink
