import CLink.EndToEnd.Snapshots
import CLink.Master.StoredData

/-!
# The data in the master

What the master keeps of a device was so in its slave at a moment when the slave received a request
of the group: vendor, model, status and error code in the header details, RX and RWr in the inputs.

* `AnswerTo.extracted`      what an answer on its way is for the master;
* `NetStart.AskedAt`        the slave of a device gets a request of its group;
* `NetStart.stored_asked`   a response that is stored comes from there;
* `NetStart.keptData`       what the master keeps of every device, in every run.
-/

namespace CLink
open Loop Trace

/-- an answer is the frame that the slave sends, and the master accepts its form -/
theorem ResponseCopy.AnswerTo.extracted {cfg : Config} {q : ResponseCopy} {p : RequestCopy}
    (h : q.AnswerTo cfg p) (remotePort : UInt16) (now : UInt32) :
    ∃ r request includeData endCode,
      clmIefbInputResponse q.payload ((cfg.hier.groups q.g).slaveDevices q.d).slaveId remotePort now
          = .ok r
        ∧ (p.received cfg).cyclicRequest = some request
        ∧ Extracted q.slave (p.received cfg) request includeData endCode now r := by
  obtain ⟨hgroup, hdevice⟩ := h.slave
  obtain ⟨_, hmem⟩ := h.sent
  obtain ⟨_, v, request, includeData, endCode, he, hv, _, heq⟩ := clsStep_sends h.frames hmem rfl
  obtain ⟨_, hsome⟩ := ClsEvent.periodic.inj he
  obtain rfl := Option.some.inj hsome
  obtain ⟨_, _, hpayload⟩ := ClsOutput.sendResponse.inj heq
  obtain ⟨r, hok, hext⟩ := responseToSend_extracted h.frames (Received.cyclicRequest_valid hv)
    includeData endCode remotePort now
  have hip : (p.received cfg).slaveIpAddr = ((cfg.hier.groups q.g).slaveDevices q.d).slaveId := by
    rw [← hgroup, ← hdevice]
    rfl
  rw [← hpayload, hip] at hok
  exact ⟨r, request, includeData, endCode, hok, hv, hext⟩

namespace NetStart
variable {o : Options} (st : NetStart o)

/-- in the run, the slave of device `d` of group `g` was in state `c` when it received request `p` of
its group -/
structure AskedAt (es : List NetEvent) (g d : Nat) (p : RequestCopy) (c : Cls) : Prop where
  received : ∃ pre j now post, es = pre ++ .deliverRequest j now :: post
    ∧ (st.run pre).1.requests[j]? = some p ∧ c = (st.run pre).1.slaves g d
  group : p.g = g
  slave : p.slaveGroup = g ∧ p.slaveDevice = d

/-- response `r` is what slave `c` answers to request `p` -/
def Carries (p : RequestCopy) (c : Cls) (r : CyclicResponse) : Prop :=
  ∃ request includeData endCode now,
    (p.received st.master.vc.cfg).cyclicRequest = some request
      ∧ Extracted c (p.received st.master.vc.cfg) request includeData endCode now r

section
variable {st} {es : List NetEvent} {g d : Nat} {p : RequestCopy} {c : Cls}

theorem AskedAt.append (h : st.AskedAt es g d p c) (later : List NetEvent) :
    st.AskedAt (es ++ later) g d p c := by
  obtain ⟨pre, j, now, post, rfl, hp, hc⟩ := h.received
  refine ⟨⟨pre, j, now, post ++ later, ?_, hp, hc⟩, h.group, h.slave⟩
  rw [List.append_assoc, List.cons_append]

end

/-- what the master finds in a response on its way -/
theorem response_asked (es : List NetEvent) {q : ResponseCopy}
    (hq : q ∈ (st.run es).1.responses) {now : UInt32} {remotePort : UInt16} {r : CyclicResponse}
    {g d : Nat} (hg : g < st.master.vc.numGroups)
    (hd : d < (st.master.vc.setting g).numSlaveDevices.toNat)
    (hgroup : g = r.fullHeaders.cyclicDataHeader.groupNo.toNat - 1)
    (hid : ((st.master.vc.setting g).slaveDevices d).slaveId
      = ((st.master.vc.setting q.g).slaveDevices q.d).slaveId)
    (hr : clmIefbInputResponse q.payload ((st.master.vc.setting q.g).slaveDevices q.d).slaveId
      remotePort now = .ok r) :
    ∃ p c, st.AskedAt es g d p c ∧ st.Carries p c r := by
  obtain ⟨p, ha, hsent⟩ := (st.run_inv es).flight.responses q hq
  obtain ⟨pre, j, now', post, p', hes, hp', hans, hslave⟩ := st.run_answered es q hq
  obtain rfl := Option.some.inj (hans.symm.trans ha.answers)
  obtain ⟨hpg, gd, hinv, hdg⟩ := st.wasSent_frame es hsent
  obtain ⟨hqg, hqd⟩ := ha.slave
  have hrange : q.g < st.master.vc.numGroups
      ∧ q.d < (st.master.vc.setting q.g).numSlaveDevices.toNat := by
    rw [← hqg, ← hqd]
    exact ⟨hsent.group, hsent.device⟩
  have hfound := ha.back hsent hpg hinv hdg hr
  obtain ⟨hsame, rfl⟩ := st.master.vc.slaveId_inj hg hd hrange.1 hrange.2 hid
  refine ⟨p', q.slave, ⟨⟨pre, j, now', post, hes, hp', ?_⟩, ?_, ?_⟩, ?_⟩
  · rw [hslave, hsame]
  · rw [hgroup, hfound.group]
  · rw [hsame]
    exact ⟨hqg, hqd⟩
  · obtain ⟨response, request, includeData, endCode, hok, hv, hext⟩ := ha.extracted remotePort now
    obtain rfl := Except.ok.inj (hok.symm.trans hr)
    exact ⟨request, includeData, endCode, now, hv, hext⟩

/-- **Every stored response** is what the slave of the device answered. -/
theorem stored_asked (es : List NetEvent) {g d : Nat} {r : CyclicResponse} {valid : Bool}
    (hmem : .stored g d r valid ∈ (st.run es).2) :
    ∃ p c, st.AskedAt es g d p c ∧ st.Carries p c r := by
  induction es using List.reverseRecOn with
  | nil =>
    -- nothing is stored at the start
    have hown := st.master.init_spec.out _ ((List.mem_append.mp hmem).resolve_right List.not_mem_nil)
    cases hown
  | append_singleton es e ih =>
    have h := st.run_inv es
    rw [st.run_concat] at hmem
    rcases List.mem_append.mp hmem with hmem | hmem
    · obtain ⟨p, c, hasked, hcarries⟩ := ih hmem
      exact ⟨p, c, hasked.append _, hcarries⟩
    cases e with
    | master e =>
      simp only [netStep] at hmem
      split at hmem
      · cases hmem
      · rename_i he
        obtain ⟨_, _, _, _, _, rfl, _⟩ := clmStep_storedResponse hmem
        exact absurd rfl he
    | deliverResponse i now unixMs =>
      cases hq : (st.run es).1.responses[i]? with
      | none =>
        simp only [netStep, hq] at hmem
        cases hmem
      | some q =>
        rw [netStep_deliverResponse hq] at hmem
        obtain ⟨now', _, _, _, _, he, hresponse⟩ := clmStep_storedResponse hmem
        obtain ⟨rfl, _, rfl, rfl, rfl⟩ := Event.frame.inj he
        obtain ⟨hg, hd, _⟩ := clmIefbHandleInputFrame_response unixMs hresponse
        obtain ⟨hin, hgroup, hid⟩ := clmResponse_some hresponse
        have hconfig : ((st.run es).1.loseResponse i).master.shared.config = st.master.vc.cfg :=
          h.config
        simp only [Clm.setting, Clm.numGroups, hconfig, h.config] at hg hd hin hid
        obtain ⟨p, c, hasked, hcarries⟩ :=
          st.response_asked es (List.mem_of_getElem? hq) hg hd hgroup hid hin
        exact ⟨p, c, hasked.append _, hcarries⟩
    | slave g' d' e' =>
      simp only [netStep] at hmem
      split at hmem <;> cases hmem
    | deliverRequest i now =>
      simp only [netStep] at hmem
      split at hmem <;> cases hmem
    | restart | loseRequest | loseResponse => cases hmem

/-- what the master keeps of device `d` was so in its slave -/
structure KeepsOf (es : List NetEvent) (g d : Nat) (gd : GroupData) : Prop where
  details : (gd.slaveDevices d).latestFrame.hasBeenReceived = true →
    ∃ p c request endCode responseTime, st.AskedAt es g d p c
      ∧ (gd.slaveDevices d).latestFrame
        = c.frameValues (p.received st.master.vc.cfg) request endCode responseTime
  /-- RX and RWr come from the same moment -/
  inputs : (∀ j, j < (st.master.vc.setting g).num d →
      gd.memoryArea.rx ((st.master.vc.setting g).pos d + j) = .zero
        ∧ gd.memoryArea.rwr ((st.master.vc.setting g).pos d + j) = .zero)
    ∨ ∃ p c, st.AskedAt es g d p c
      ∧ c.config.numOccupiedStations
        = ((st.master.vc.setting g).slaveDevices d).numOccupiedStations
      ∧ ∀ j, j < (st.master.vc.setting g).num d →
        gd.memoryArea.rx ((st.master.vc.setting g).pos d + j) = c.cciefbRespFrameNormal.rx j
          ∧ gd.memoryArea.rwr ((st.master.vc.setting g).pos d + j) = c.cciefbRespFrameNormal.rwr j

/-- **The data in the master.**  In every run of the network, with any losses and delays, what the
master keeps of a device comes from its slave. -/
theorem keptData (es : List NetEvent) {g d : Nat} (hg : g < st.master.vc.numGroups)
    (hd : d < (st.master.vc.setting g).numSlaveDevices.toNat) :
    st.KeepsOf es g d ((st.run es).1.master.groups g) := by
  obtain ⟨ems, hems⟩ := (st.run_inv es).master
  have hfrom := st.master.run_storedFrom ems hg hd
  rw [hems] at hfrom
  refine ⟨?_, ?_⟩
  · intro hreceived
    obtain ⟨r, valid, timestamp, hmem, heq⟩ := hfrom.details hreceived
    obtain ⟨p, c, hasked, request, _, endCode, now, _, hext⟩ := st.stored_asked es hmem
    exact ⟨p, c, request, endCode, _, hasked, heq.trans (hext.values timestamp)⟩
  · rcases hfrom.inputs with hzero | ⟨r, hmem, hn, hdata⟩
    · exact Or.inl hzero
    · obtain ⟨p, c, hasked, request, includeData, _, _, _, hext⟩ := st.stored_asked es hmem
      have hown : c.config.numOccupiedStations
          = ((st.master.vc.setting g).slaveDevices d).numOccupiedStations :=
        hext.occupied.symm.trans hn
      have hcarried {j : Nat} (hj : j < (st.master.vc.setting g).num d) :=
        hext.data j (by rw [hown]; exact hj)
      cases includeData with
      | true =>
        refine Or.inr ⟨p, c, hasked, hown, ?_⟩
        intro j hj
        obtain ⟨hrwr, hrx⟩ := hcarried hj
        exact ⟨(hdata j hj).1.trans hrx, (hdata j hj).2.trans hrwr⟩
      | false =>
        refine Or.inl ?_
        intro j hj
        obtain ⟨hrwr, hrx⟩ := hcarried hj
        exact ⟨(hdata j hj).1.trans hrx, (hdata j hj).2.trans hrwr⟩

end NetStart

/-- the small network after its first link scan -/
theorem exampleNetwork_keeps :
    exampleNetwork.KeepsOf exampleNetEvents 0 0
      ((exampleNetwork.run exampleNetEvents).1.master.groups 0) :=
  exampleNetwork.keptData exampleNetEvents (by decide) (by decide)

end CLink
