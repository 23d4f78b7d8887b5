import CLink.EndToEnd.Network

/-!
# Fresh data

What the master stores as valid data answers its latest request, although the check of the sequence
number is left out for a device that comes back.

* `GroupInv.request_own`          a slave finds its station only in a request of its own group;
* `ResponseCopy.AnswerTo.back`    what the master finds in an answer;
* `NetStart.Inv.answersLatest`    an answer that is stored as valid data is one to the latest request;
* `NetStart.Fresh`                stored data, with the request and the slave that they come from;
* `NetStart.freshness`            all valid data are fresh.
-/

namespace CLink
open Loop Trace

/-! ## a request of the master, in a slave -/

section
variable {o : Options} {vc : ValidConfig o} {parameterNo : UInt16} {g : Nat} {gd : GroupData}
  {v : Received} {r : CyclicRequest}

theorem GroupInv.request_headers (hinv : GroupInv vc.cfg parameterNo g gd)
    (hdg : v.dg = gd.reqFrame.datagram) (hr : v.cyclicRequest = some r) :
    r.fullHeaders.cyclicDataHeader.groupNo = (UInt16.ofNat g + 1).toUInt8
      ∧ r.totalOccupied = clmIefbCalcOccupiedPerGroup (vc.setting g) := by
  have hheaders : r.fullHeaders = gd.reqFrame.fullHeaders := by
    rw [(Received.cyclicRequest_read hr).1, hdg, RequestFrame.fullHeaders_datagram hinv.layout]
  obtain ⟨frameSequenceNo, clockInfo, unitInfo, state, heq⟩ := hinv.headers
  have htotal : r.totalOccupied
      = r.fullHeaders.cyclicDataHeader.slaveTotalOccupiedStationCount := rfl
  rw [htotal, hheaders, heq]
  exact ⟨rfl, rfl⟩

/-- the slave of device `d` of group `h` -/
theorem GroupInv.request_own (hg : g < vc.numGroups) (hinv : GroupInv vc.cfg parameterNo g gd)
    (hdg : v.dg = gd.reqFrame.datagram) (hr : v.cyclicRequest = some r) {h d : Nat}
    (hh : h < vc.numGroups) (hd : d < (vc.setting h).numSlaveDevices.toNat)
    (hip : v.slaveIpAddr = ((vc.setting h).slaveDevices d).slaveId) {q : UInt16}
    (hown : OwnStation r q) : h = g ∧ q = UInt16.ofNat ((vc.setting g).pos d + 1) := by
  have hv := vc.group hg
  have hlt : q.toNat - 1 < (vc.setting g).pos (vc.setting g).numSlaveDevices.toNat := by
    have htotal := (hinv.request_headers hdg hr).2
    have hle := hown.le
    have hpos := hown.pos
    rw [htotal, clmIefbCalcOccupiedPerGroup_eq, hv.total_toNat] at hle
    omega
  have hslot : gd.reqFrame.slaveIds (q.toNat - 1) = ((vc.setting h).slaveDevices d).slaveId := by
    rw [← hip, ← (Received.cyclicRequest_valid hr).slaveIpAddr, ← hown.own,
      (Received.cyclicRequest_read hr).2, hdg, RequestFrame.slaveIds_datagram hinv.layout hlt]
  have hdev := (vc.group hh).device d hd
  obtain ⟨k, j, hk, hj, hq⟩ := (vc.setting g).exists_station hlt
  rw [hq] at hslot
  -- the slots of a device hold its address, or nothing, and then fillers
  by_cases hj0 : j = 0
  · subst hj0
    rw [Nat.add_zero] at hslot hq
    rcases hinv.slot k hk with hid | hid
    · obtain ⟨rfl, rfl⟩ := vc.slaveId_inj hg hk hh hd (hid.symm.trans hslot)
      have hpos := hown.pos
      refine ⟨rfl, UInt16.toNat_inj.mp ?_⟩
      rw [hv.stationNo_toNat hk]
      omega
    · exact absurd (hslot.symm.trans hid) hdev.nonzero
  · have hfiller := hinv.fillers k hk j (by omega) hj
    exact absurd (hslot.symm.trans hfiller) hdev.ne_multistationIndicator

end

/-! ## the answer, in the master -/

/-- what the master finds in an answer to a request of group `p.g` -/
structure FoundAnswer {o : Options} (vc : ValidConfig o) (q : ResponseCopy) (p : RequestCopy)
    (r : CyclicResponse) :
    Prop where
  group : r.fullHeaders.cyclicDataHeader.groupNo.toNat - 1 = p.g
  frameSequenceNo : r.fullHeaders.cyclicDataHeader.frameSequenceNo = requestSequenceNo p.payload
  data : ∀ j, j < r.numberOfOccupied.toNat →
    requestBit p.payload (UInt16.ofNat ((vc.setting p.g).pos q.d + 1)) = true →
      r.rx j = (if r.fullHeaders.cyclicHeader.endCode = endcodeSuccess
          then q.slave.cciefbRespFrameNormal.rx j else .zero)
        ∧ r.rwr j = if r.fullHeaders.cyclicHeader.endCode = endcodeSuccess
          then q.slave.cciefbRespFrameNormal.rwr j else .zero

section
variable {o : Options} {vc : ValidConfig o} {parameterNo : UInt16} {gd : GroupData}
  {q : ResponseCopy} {p : RequestCopy}

theorem ResponseCopy.AnswerTo.back {hist : List Output} (h : q.AnswerTo vc.cfg p)
    (hsent : p.WasSent vc.cfg hist) (hg : p.g < vc.numGroups)
    (hinv : GroupInv vc.cfg parameterNo p.g gd) (hdg : p.payload = gd.reqFrame.datagram)
    {remotePort : UInt16} {now : UInt32} {r : CyclicResponse}
    (hr : clmIefbInputResponse q.payload ((vc.setting q.g).slaveDevices q.d).slaveId remotePort now
      = .ok r) : FoundAnswer vc q p r := by
  obtain ⟨hgroup, hdevice⟩ := h.slave
  obtain ⟨_, hmem⟩ := h.sent
  obtain ⟨_, v, r', includeData, endCode, he, hv, hcarries, heq⟩ := clsStep_sends h.frames hmem rfl
  obtain ⟨_, hsome⟩ := ClsEvent.periodic.inj he
  obtain rfl := Option.some.inj hsome
  obtain ⟨_, _, hpayload⟩ := ClsOutput.sendResponse.inj heq
  have hip : (p.received vc.cfg).slaveIpAddr = ((vc.setting q.g).slaveDevices q.d).slaveId := by
    rw [← hgroup, ← hdevice]
    rfl
  obtain ⟨response, hok, hext⟩ := responseToSend_extracted h.frames (Received.cyclicRequest_valid hv)
    includeData endCode remotePort now
  -- the parser is a function
  obtain rfl : response = r := by
    rw [hpayload, ← hip, hok] at hr
    exact Except.ok.inj hr
  have hvalues := hext.values 0
  have hgroupNo : response.fullHeaders.cyclicDataHeader.groupNo.toUInt16
      = r'.fullHeaders.cyclicDataHeader.groupNo.toUInt16 := congrArg FrameValues.groupNo hvalues
  have hendCode : response.fullHeaders.cyclicHeader.endCode = endCode :=
    congrArg FrameValues.endCode hvalues
  have hread := (Received.cyclicRequest_read hv).1
  refine ⟨?_, ?_, ?_⟩
  · have hle := vc.numGroups_le
    rw [← UInt8.toNat_toUInt16, hgroupNo, UInt8.toNat_toUInt16, (hinv.request_headers hdg hv).1,
      UInt16.toNat_toUInt8, UInt16.toNat_add, UInt16.toNat_ofNat']
    show (p.g % 2 ^ 16 + 1) % 2 ^ 16 % 2 ^ 8 - 1 = p.g
    omega
  · have hseq := congrArg FrameValues.frameSequenceNo hvalues
    refine hseq.trans ?_
    show r'.fullHeaders.cyclicDataHeader.frameSequenceNo = _
    rw [hread]
    rfl
  · intro j hj hbit
    rw [hext.occupied] at hj
    obtain ⟨hrwr, hrx⟩ := hext.data j hj
    have hinclude : includeData = true ↔ endCode = endcodeSuccess := by
      rcases hcarries with ⟨hne, rfl⟩ | ⟨hsuccess, station, hown, rfl⟩
      · exact iff_of_false Bool.false_ne_true hne
      · obtain ⟨_, rfl⟩ := hinv.request_own hg hdg hv hsent.group hsent.device rfl hown
        refine iff_of_true ?_ hsuccess
        show clIefbExtractMyTransmissionState
          r'.fullHeaders.cyclicDataHeader.cyclicTransmissionState _ = true
        rw [hread, hdevice]
        exact hbit
    rw [hendCode, hrx, hrwr]
    by_cases hsuccess : endCode = endcodeSuccess
    · rw [hinclude.mpr hsuccess, if_pos hsuccess, if_pos hsuccess]
      exact ⟨rfl, rfl⟩
    · have hnone : includeData = false := Bool.not_eq_true _ ▸ mt hinclude.mp hsuccess
      rw [hnone, if_neg hsuccess, if_neg hsuccess]
      exact ⟨rfl, rfl⟩

end

/-! ## stored data -/

namespace NetStart
variable {o : Options} (st : NetStart o)

/-- no response arrives 65535 link scans after its request, the link scan of the request included -/
def ShortRoundTrips (es : List NetEvent) : Prop :=
  ∀ pre i now unixMs post, es = pre ++ .deliverResponse i now unixMs :: post →
    ∀ q p, (st.run pre).1.responses[i]? = some q → q.answers = some p →
      (st.run pre).1.sent p.g < p.index + 65535

/-- event `e` after the events `pre` delivers response `q` to request `p`, and the master stores it
as valid data of device `d` of group `g`, after the outputs `before` of the event -/
structure Fresh (pre : List NetEvent) (e : NetEvent) (before : List Output) (g d : Nat)
    (r : CyclicResponse) (q : ResponseCopy) (p : RequestCopy) : Prop where
  delivered : ∃ i now unixMs, e = .deliverResponse i now unixMs
    ∧ (st.run pre).1.responses[i]? = some q
  sender : q.g = g ∧ q.d = d
  answers : q.AnswerTo st.master.vc.cfg p
  /-- the slave is in state `q.slave` when it receives the request -/
  slave : ∃ pre' j now post', pre = pre' ++ .deliverRequest j now :: post'
    ∧ (st.run pre').1.requests[j]? = some p ∧ q.slave = (st.run pre').1.slaves g d
  latest : p.g = g ∧ p.index + 1 = requestCount g ((st.run pre).2 ++ before)
  request : ∃ start destIp destPort, latestRequest g ((st.run pre).2 ++ before)
    = some (.sendRequest g start destIp destPort p.payload)
  bit : requestBit p.payload (UInt16.ofNat ((st.master.vc.setting g).pos d + 1)) = true
  data : ∀ j, j < (st.master.vc.setting g).num d →
    let area := ((netStep (st.run pre).1 e).1.master.groups g).memoryArea
    area.rx ((st.master.vc.setting g).pos d + j)
        = (if r.fullHeaders.cyclicHeader.endCode = endcodeSuccess
            then q.slave.cciefbRespFrameNormal.rx j else .zero)
      ∧ area.rwr ((st.master.vc.setting g).pos d + j)
        = if r.fullHeaders.cyclicHeader.endCode = endcodeSuccess
            then q.slave.cciefbRespFrameNormal.rwr j else .zero

section
variable {st} {hist before after : List Output} {net : Network} {e : Event} {g d : Nat}
  {r : CyclicResponse}

/-- what the master has found when it stores valid data -/
theorem Inv.storedValid (h : st.Inv hist net)
    (hout : (net.masterStep e).2 = before ++ .stored g d r true :: after) :
    g < st.master.vc.numGroups
      ∧ StoredValid net.master e g d r (ofGroup g before) ((net.masterStep e).1.master.groups g) := by
  obtain ⟨ems, hems⟩ := h.master
  have hmem : .stored g d r true ∈ (st.master.run (ems ++ [e])).2 := by
    rw [st.master.run_concat, hems]
    refine List.mem_append_right _ ?_
    show _ ∈ (net.masterStep e).2
    rw [hout]
    exact List.mem_append_right _ List.mem_cons_self
  have hg := (st.master.mem_ofGroup rfl hmem).1
  have hn : g < net.master.numGroups := by
    rw [Clm.numGroups, h.config]
    exact hg
  have hv : GroupValid o net.master.shared.config (net.master.setting g) := by
    rw [Clm.setting, h.config]
    exact st.master.vc.group hg
  have hinv := st.master.group_groupInv ems hg
  rw [hems, ← h.config] at hinv
  have hstep : ofGroup g (clmStep net.master e).2
      = ofGroup g before ++ .stored g d r true :: ofGroup g after := by
    show ofGroup g (net.masterStep e).2 = _
    rw [hout, ofGroup_append]
    refine congrArg _ (List.filter_cons_of_pos ?_)
    simp [Output.isOf, Output.owner]
  have hmaster : (net.masterStep e).1.master = (clmStep net.master e).1 :=
    Network.emits_master { net with master := (clmStep net.master e).1 } _
  rw [hmaster]
  exact ⟨hg, (clmStep_group net.master e hn).storedValid hv hinv hstep⟩

/-- a response that is stored as valid data answers the latest request, and its bit is on there -/
theorem Inv.answersLatest (h : st.Inv hist net) {q : ResponseCopy} {p : RequestCopy}
    (ha : q.AnswerTo st.master.vc.cfg p) (hsent : p.WasSent st.master.vc.cfg hist)
    (hclose : net.sent p.g < p.index + 65535) (hg : g < st.master.vc.numGroups) {now : UInt32}
    {unixMs : Nat → UInt64} {gd' : GroupData}
    (hs : StoredValid net.master (.frame now unixMs q.payload
      ((net.master.setting q.g).slaveDevices q.d).slaveId clCciefbPort) g d r before gd') :
    (q.g = g ∧ q.d = d) ∧ FoundAnswer st.master.vc q p r
      ∧ (p.g = g ∧ p.index + 1 = requestCount g hist)
      ∧ requestBit p.payload (UInt16.ofNat ((st.master.vc.setting g).pos d + 1)) = true := by
  obtain ⟨ems, hems⟩ := h.master
  have hhist : (st.master.run ems).2 = hist := congrArg Prod.snd hems
  obtain ⟨start, destIp, destPort, hrequest⟩ := hsent.sent
  obtain ⟨hlt, _⟩ := List.getElem?_eq_some_iff.mp hrequest
  have hmem := (List.mem_filter.mp (List.mem_of_getElem? hrequest)).1
  rw [← hhist] at hmem
  have hpg := (st.master.mem_ofGroup rfl hmem).1
  obtain ⟨gd, hinv, hdg⟩ := st.master.run_requestFrame hmem
  -- what has been received is the answer, and comes from its slave
  obtain ⟨now', _, _, _, _, he, hresponse⟩ := hs.receives
  obtain ⟨rfl, _, rfl, rfl, rfl⟩ := Event.frame.inj he
  obtain ⟨_, hd, _⟩ := clmIefbHandleInputFrame_response unixMs hresponse
  obtain ⟨hin, hgroupNo, hid⟩ := clmResponse_some hresponse
  simp only [Clm.setting, h.config] at hid hin hd
  have hfound := ha.back hsent hpg hinv hdg hin
  obtain rfl : p.g = g := hfound.group.symm.trans hgroupNo.symm
  obtain ⟨hqg, hqd⟩ := ha.slave
  have hrange : q.g < st.master.vc.numGroups
      ∧ q.d < (st.master.vc.setting q.g).numSlaveDevices.toNat := by
    rw [← hqg, ← hqd]
    exact ⟨hsent.group, hsent.device⟩
  obtain ⟨hsame, rfl⟩ := st.master.vc.slaveId_inj hrange.1 hrange.2 hg hd hid.symm
  -- the sequence number is that of the latest request
  have hcounter := st.master.run_counter ems hg
  have hkeeps := st.master.run_keepsBit ems hg hd
  rw [hhist, congrArg Prod.fst hems] at hcounter hkeeps
  have hseq : frameSequence p.index = (net.master.groups p.g).frameSequenceNo := by
    rw [← hhist] at hrequest
    have hnumber : requestSequenceNo p.payload = frameSequence p.index :=
      st.master.run_numbered ems hrequest
    rw [← hnumber, ← hfound.frameSequenceNo]
    exact hs.passed.sequence hs.bit
  have hlatest : p.index + 1 = requestCount p.g hist := by
    rw [h.flight.sent] at hclose
    rw [← requestCount_ofGroup]
    refine hcounter.current ?_ ?_ hseq
    · rw [requestCount_ofGroup]
      exact hlt
    · rw [requestCount_ofGroup]
      omega
  refine ⟨⟨hsame, rfl⟩, hfound, ⟨rfl, hlatest⟩, ?_⟩
  have hlast : latestRequest p.g (ofGroup p.g hist)
      = some (.sendRequest p.g start destIp destPort p.payload) := by
    rw [latestRequest_ofGroup, latestRequest, List.getLast?_eq_getElem?]
    rw [requestCount] at hlatest
    rw [← hlatest]
    exact hrequest
  rw [hcounter.word start destIp destPort p.payload hlast]
  exact hkeeps.word hs.bit

end

theorem netStep_deliverResponse {net : Network} {i : Nat} {q : ResponseCopy}
    (hq : net.responses[i]? = some q) (now : UInt32) (unixMs : Nat → UInt64) :
    netStep net (.deliverResponse i now unixMs)
      = (net.loseResponse i).masterStep (.frame now unixMs q.payload
        ((net.master.setting q.g).slaveDevices q.d).slaveId clCciefbPort) := by
  simp only [netStep, hq]

/-- **Freshness.**  In every run without such a late response, all that the master stores as valid
data is fresh. -/
theorem freshness {es : List NetEvent} (hshort : st.ShortRoundTrips es) {pre post : List NetEvent}
    {e : NetEvent} (hes : es = pre ++ e :: post) {before after : List Output} {g d : Nat}
    {r : CyclicResponse}
    (hout : (netStep (st.run pre).1 e).2 = before ++ .stored g d r true :: after) :
    ∃ q p, st.Fresh pre e before g d r q p := by
  have h := st.run_inv pre
  have hsome : (netStep (st.run pre).1 e).2 ≠ [] := by
    rw [hout]
    exact List.append_ne_nil_of_right_ne_nil _ (List.cons_ne_nil _ _)
  cases e with
  | master e =>
    simp only [netStep] at hout hsome
    split at hout
    · rename_i he
      rw [if_pos he] at hsome
      exact absurd rfl hsome
    · -- without a frame nothing is stored
      rename_i he
      obtain ⟨_, _, _, _, _, rfl, _⟩ := (h.storedValid hout).2.receives
      exact absurd rfl he
  | slave g' d' e =>
    simp only [netStep] at hsome
    split at hsome
    · exact absurd rfl hsome
    · exact absurd rfl hsome
  | deliverRequest i now =>
    simp only [netStep] at hsome
    split at hsome
    · exact absurd rfl hsome
    · exact absurd rfl hsome
  | deliverResponse i now unixMs =>
    cases hq : (st.run pre).1.responses[i]? with
    | none =>
      simp only [netStep, hq] at hsome
      exact absurd rfl hsome
    | some q =>
      have hdata := netStep_deliverResponse hq now unixMs
      rw [hdata] at hout
      have hless := h.loseResponse i
      obtain ⟨hg, hstored⟩ := hless.storedValid hout
      obtain ⟨p, ha, hsent⟩ := h.flight.responses q (List.mem_of_getElem? hq)
      have hclose := hshort pre i now unixMs post hes q p hq ha.answers
      obtain ⟨hsender, hfound, ⟨hgroup, hlatest⟩, hbit⟩ :=
        hless.answersLatest ha hsent hclose hg hstored
      have hsilent : ∀ x ∈ before, x.isRequest g = false := by
        intro x hx
        by_contra hreq
        rw [Bool.not_eq_false] at hreq
        have hno := hstored.silent x (List.mem_filter.mpr ⟨hx, Output.isOf_of_isRequest hreq⟩)
        rw [hreq] at hno
        cases hno
      obtain ⟨start, destIp, destPort, hrequest⟩ := hsent.sent
      refine ⟨q, p, ⟨i, now, unixMs, rfl, hq⟩, hsender, ha, ?_, ⟨hgroup, ?_⟩,
        ⟨start, destIp, destPort, ?_⟩, hbit, ?_⟩
      · obtain ⟨pre', j, now', post', p', hpre, hp', hans, hslave⟩ :=
          st.run_answered pre q (List.mem_of_getElem? hq)
        obtain rfl := Option.some.inj (hans.symm.trans ha.answers)
        rw [hsender.1, hsender.2] at hslave
        exact ⟨pre', j, now', post', hpre, hp', hslave⟩
      · rw [requestCount_silent hsilent]
        exact hlatest
      · rw [hgroup] at hrequest
        rw [latestRequest, Numbered.filter_silent hsilent, List.getLast?_eq_getElem?, ← requestCount,
          ← hlatest]
        exact hrequest
      · intro j hj
        have hsetting : (st.run pre).1.master.setting g = st.master.vc.setting g :=
          congrArg (fun cfg => cfg.hier.groups g) h.config
        have hnum : r.numberOfOccupied.toNat = (st.master.vc.setting g).num d := by
          rw [hstored.passed.stations]
          exact congrArg (fun gs => gs.num d) hsetting
        obtain ⟨hrx, hrwr⟩ := hstored.data j (by
          show j < ((st.run pre).1.master.setting g).num d
          rw [hsetting]
          exact hj)
        obtain ⟨hrx', hrwr'⟩ := hfound.data j (hnum ▸ hj) (by
          rw [hgroup, hsender.2]
          exact hbit)
        have hpos : ((st.run pre).1.loseResponse i).master.setting g = st.master.vc.setting g :=
          hsetting
        rw [hpos] at hrx hrwr
        rw [hdata]
        exact ⟨hrx.trans hrx', hrwr.trans hrwr'⟩
  | restart => exact absurd rfl hsome
  | loseRequest => exact absurd rfl hsome
  | loseResponse => exact absurd rfl hsome

end NetStart

/-- a master and the slave of its only device -/
def exampleNetwork : NetStart exampleOptions :=
  { master := exampleStart false false
    slaveOptions := fun _ _ => exampleOptions
    slaves := fun _ _ => exampleSlaveStart }

/-- the first link scan, and the request of the second one in the slave -/
def exampleNetEvents : List NetEvent :=
  [.master (.exampleTick 5000), .deliverRequest 0 10, .deliverResponse 0 5100 (fun _ => 0),
    .deliverRequest 0 20]

theorem exampleNetEvents_short :
    exampleNetwork.ShortRoundTrips (exampleNetEvents ++ [.deliverResponse 0 5200 (fun _ => 0)]) := by
  intro pre i now unixMs post hes q p hq hp
  have hclose (h : ((exampleNetwork.run pre).1.responses[i]?).all (fun q => q.answers.all
      fun p => (exampleNetwork.run pre).1.sent p.g < p.index + 65535) = true) :
      (exampleNetwork.run pre).1.sent p.g < p.index + 65535 := by
    rw [hq, Option.all_some, hp, Option.all_some, decide_eq_true_eq] at h
    exact h
  rcases pre with _ | ⟨e0, _ | ⟨e1, _ | ⟨e2, _ | ⟨e3, _ | ⟨e4, pre⟩⟩⟩⟩⟩ <;>
    simp only [exampleNetEvents, List.nil_append, List.cons_append, List.cons.injEq] at hes
  · cases hes.1
  · cases hes.2.1
  · obtain ⟨rfl, rfl, heq, _⟩ := hes
    cases heq
    exact hclose (by decide +kernel)
  · cases hes.2.2.2.1
  · obtain ⟨rfl, rfl, rfl, rfl, heq, _⟩ := hes
    cases heq
    exact hclose (by decide +kernel)
  · obtain ⟨_, _, _, _, _, hnil⟩ := hes
    cases pre <;> cases hnil

/-- the data of the second link scan are fresh -/
theorem exampleNetwork_fresh : ∃ before r q p,
    exampleNetwork.Fresh exampleNetEvents (.deliverResponse 0 5200 (fun _ => 0)) before 0 0 r q p := by
  have hany : ((netStep (exampleNetwork.run exampleNetEvents).1
      (.deliverResponse 0 5200 (fun _ => 0))).2[0]?).any (Output.isValidAnswer 0 0) = true := by
    decide +kernel
  obtain ⟨x, hx, hout⟩ := exists_output hany
  obtain ⟨r, rfl⟩ := Output.isValidAnswer_eq hx
  obtain ⟨q, p, hfresh⟩ := exampleNetwork.freshness exampleNetEvents_short rfl hout
  exact ⟨_, r, q, p, hfresh⟩

end CLink
