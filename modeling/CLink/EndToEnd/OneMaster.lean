import CLink.EndToEnd.StoredData
import CLink.EndToEnd.Safety
import CLink.EndToEnd.Agreement
import CLink.Slave.Answering
import CLink.Master.Progress

/-!
# A master that is alone

The master stops when a slave reports another master, or when it sees a request of another one
during arbitration.  On a network with one master neither happens.

* `NetStart.run_answer`        a response on its way, by the table of its slave;
* `NetStart.run_noAlarm`       no slave reports another master;
* `NetStart.neverStops`        the master does not go back to `STANDBY`.
-/

namespace CLink
open Loop Trace

/-! ## the answers on their way -/

/-- a slave that knows the sender does not refuse it -/
theorem Cls.answer_masterId {c : Cls} {r : CyclicRequest} {a : UInt16 × Bool} (hf : Frames c)
    (hid : c.state = .masterControl → r.masterId = c.master.masterId) (h : c.answer r = some a) :
    a.1 ≠ endcodeMasterDuplication := by
  have hconnect {a : UInt16 × Bool} (h : c.connectAnswer r = some a) :
      a.1 ≠ endcodeMasterDuplication := by
    unfold Cls.connectAnswer at h
    split at h
    · cases h
    split at h
    · rw [← Option.some.inj h]
      decide
    split at h
    · cases h
    · rw [← Option.some.inj h]
      decide
  unfold Cls.answer at h
  split at h
  · cases h
  · cases h
  · unfold Cls.disabledAnswer at h
    split at h
    · cases h
    split at h
    · rw [← Option.some.inj h]
      rcases hf.endcode with hcode | hcode <;>
      · show c.endcodeSlaveDisabled ≠ _
        rw [hcode]
        decide
    · cases h
  · exact hconnect h
  · rename_i hc
    unfold Cls.controlAnswer at h
    rw [if_neg (not_not.mpr (hid hc))] at h
    split at h
    · exact hconnect h
    split at h
    · rw [← Option.some.inj h]
      show endcodeSuccess ≠ _
      decide
    · cases h

/-- the response that reaches the master is the one of the table -/
structure Answered (cfg : Config) (q : ResponseCopy) (p : RequestCopy) (request : CyclicRequest)
    (a : UInt16 × Bool) : Prop where
  read : (p.received cfg).cyclicRequest = some request
  answer : q.slave.answer request = some a
  extracted : ∀ remotePort now, ∃ r, clmIefbInputResponse q.payload
      ((cfg.hier.groups q.g).slaveDevices q.d).slaveId remotePort now = .ok r
    ∧ Extracted q.slave (p.received cfg) request a.2 a.1 now r

theorem ResponseCopy.AnswerTo.answered {cfg : Config} {q : ResponseCopy} {p : RequestCopy}
    (h : q.AnswerTo cfg p) (hinv : SlaveInv q.slave) :
    ∃ request a, Answered cfg q p request a := by
  obtain ⟨hgroup, hdevice⟩ := h.slave
  obtain ⟨now, hmem⟩ := h.sent
  have hlive : q.slave.aborted = false := by
    by_contra hdead
    have hsame : clsStep q.slave (.periodic now (some (p.received cfg))) = (q.slave, []) :=
      if_pos ((Bool.not_eq_false _).mp hdead)
    rw [hsame] at hmem
    exact List.not_mem_nil hmem
  have hfilter := List.mem_filter.mpr ⟨hmem, show ClsOutput.isResponse _ = true from rfl⟩
  rw [clsStep_responses hlive] at hfilter
  have hanswer := clsIefbHandleInputFrame_answer (s := ⟨q.slave, []⟩) now (p.received cfg) h.frames
    hinv
  cases hv : (p.received cfg).cyclicRequest with
  | none =>
    rw [hv] at hanswer
    simp only [responsesTo, hanswer] at hfilter
    exact absurd hfilter List.not_mem_nil
  | some request =>
    rw [hv] at hanswer
    have hsends := hanswer.sends
    unfold Sends at hsends
    simp only [responsesTo, hsends] at hfilter
    obtain ⟨a, ha, heq⟩ := List.mem_map.mp hfilter
    obtain ⟨_, _, hpayload⟩ := ClsOutput.sendResponse.inj heq
    refine ⟨request, a, hv, Option.mem_toList.mp ha, ?_⟩
    intro remotePort now
    obtain ⟨r, hok, hext⟩ := responseToSend_extracted h.frames (Received.cyclicRequest_valid hv)
      a.2 a.1 remotePort now
    have hip : (p.received cfg).slaveIpAddr = ((cfg.hier.groups q.g).slaveDevices q.d).slaveId := by
      rw [← hgroup, ← hdevice]
      rfl
    rw [hpayload, hip] at hok
    exact ⟨r, hok, hext⟩

namespace NetStart
variable {o : Options} (st : NetStart o)

theorem run_slaveInv (es : List NetEvent) (g d : Nat) : SlaveInv ((st.run es).1.slaves g d) := by
  have hsteady := st.run_slaves (I := fun _ _ _ c => ∃ hist, Steady hist ⟨c, []⟩)
    (fun _ _ _ _ start => ⟨_, start.run_steady []⟩) (fun _ _ _ _ _ _ h => h)
    (fun _ _ _ e _ _ h => ⟨_, clsStep_steady h.choose_spec e⟩)
    (fun _ _ _ _ _ _ h => ⟨_, clsStep_steady h.choose_spec _⟩) es g d
  exact hsteady.choose_spec.inv

/-- the requests on their way are those of the master -/
theorem wasSent_masterId (es : List NetEvent) {p : RequestCopy}
    (hp : p.WasSent st.master.vc.cfg (st.run es).2) {r : CyclicRequest}
    (hr : (p.received st.master.vc.cfg).cyclicRequest = some r) :
    r.masterId = st.master.vc.cfg.masterId := by
  obtain ⟨_, gd, hinv, hdg⟩ := st.wasSent_frame es hp
  exact (hinv.request_parameters hdg hr).masterId

/-- a response on its way, by the table of its slave -/
theorem run_answer (es : List NetEvent) {q : ResponseCopy} (hq : q ∈ (st.run es).1.responses) :
    ∃ p request a, q.AnswerTo st.master.vc.cfg p ∧ p.WasSent st.master.vc.cfg (st.run es).2
      ∧ Answered st.master.vc.cfg q p request a ∧ a.1 ≠ endcodeMasterDuplication := by
  obtain ⟨p, ha, hsent⟩ := (st.run_inv es).flight.responses q hq
  obtain ⟨pre, _, _, _, _, _, _, _, hslave⟩ := st.run_answered es q hq
  have hinv : SlaveInv q.slave := by
    rw [hslave]
    exact st.run_slaveInv pre q.g q.d
  obtain ⟨request, a, h⟩ := ha.answered hinv
  refine ⟨p, request, a, ha, hsent, h, ?_⟩
  refine Cls.answer_masterId ha.frames ?_ h.answer
  intro hc
  rw [hslave] at hc ⊢
  exact (st.wasSent_masterId es hsent h.read).trans
    ((st.run_agreed pre q.g q.d).control hc).masterId.symm

/-! ## the events of the master -/

/-- what an event of the network makes the master do -/
inductive MasterTakes (net : Network) : NetEvent → Event → Prop where
  | call (e : Event) (he : e.isFrame = false) : MasterTakes net (.master e) e
  | response (i : Nat) (now : UInt32) (unixMs : Nat → UInt64) (q : ResponseCopy)
      (hq : net.responses[i]? = some q) :
      MasterTakes net (.deliverResponse i now unixMs) (.frame now unixMs q.payload
        ((net.master.setting q.g).slaveDevices q.d).slaveId clCciefbPort)

/-- the other events are not of the master, and neither are datagrams that do not arrive -/
theorem netStep_master (net : Network) (e : NetEvent) :
    ((netStep net e).1.master = net.master ∧ (netStep net e).2 = [])
      ∨ ∃ e', MasterTakes net e e' ∧ (netStep net e).1.master = (clmStep net.master e').1
        ∧ (netStep net e).2 = (clmStep net.master e').2 := by
  have hemits (net : Network) (e' : Event) :
      (net.masterStep e').1.master = (clmStep net.master e').1 :=
    Network.emits_master { net with master := (clmStep net.master e').1 } _
  cases e with
  | master e =>
    simp only [netStep]
    split
    · exact Or.inl ⟨rfl, rfl⟩
    · rename_i he
      exact Or.inr ⟨e, .call e ((Bool.not_eq_true _).mp he), hemits net e, rfl⟩
  | slave g d e =>
    simp only [netStep]
    split <;> exact Or.inl ⟨rfl, rfl⟩
  | restart g d o start => exact Or.inl ⟨rfl, rfl⟩
  | deliverRequest i now =>
    simp only [netStep]
    split <;> exact Or.inl ⟨rfl, rfl⟩
  | deliverResponse i now unixMs =>
    cases hq : net.responses[i]? with
    | none =>
      have hsame : netStep net (.deliverResponse i now unixMs) = (net, []) := by
        simp only [netStep, hq]
      rw [hsame]
      exact Or.inl ⟨rfl, rfl⟩
    | some q =>
      rw [netStep_deliverResponse hq]
      exact Or.inr ⟨_, .response i now unixMs q hq, hemits (net.loseResponse i) _, rfl⟩
  | loseRequest i => exact Or.inl ⟨rfl, rfl⟩
  | loseResponse i => exact Or.inl ⟨rfl, rfl⟩

/-- the response that the master reads has no alarm about another master -/
theorem run_noAlarm (es : List NetEvent) {e : NetEvent} {e' : Event}
    (he : MasterTakes (st.run es).1 e e') :
    (∀ g d r, GroupReceives (st.run es).1.master e' g (.response d r) →
        r.fullHeaders.cyclicHeader.endCode ≠ endcodeMasterDuplication)
      ∧ ¬ HandlesForeignRequest (st.run es).1.master e' := by
  cases he with
  | call e he =>
    refine ⟨?_, ?_⟩
    · rintro g d r ⟨now, unixMs, dg, remoteIp, remotePort, rfl, _⟩
      cases he
    · rintro ⟨_, now, unixMs, dg, remoteIp, remotePort, rfl, _⟩
      cases he
  | response i now unixMs q hq =>
    obtain ⟨p, request, a, _, _, hanswered, hne⟩ := st.run_answer es (List.mem_of_getElem? hq)
    obtain ⟨r, hok, hext⟩ := hanswered.extracted clCciefbPort now
    have hconfig := (st.run_inv es).config
    have hok' : clmIefbInputResponse q.payload
        (((st.run es).1.master.setting q.g).slaveDevices q.d).slaveId clCciefbPort now = .ok r := by
      rw [Clm.setting, hconfig]
      exact hok
    refine ⟨?_, ?_⟩
    · rintro g d r' ⟨_, _, _, _, _, heq, hr⟩
      obtain ⟨rfl, rfl, rfl, rfl, rfl⟩ := Event.frame.inj heq
      have hsame : r' = r := by
        unfold clmResponse at hr
        split at hr
        · cases hr
        rw [hok'] at hr
        simp only at hr
        split at hr
        · cases hr
        · obtain ⟨_, _, heq⟩ := Option.map_eq_some_iff.mp hr
          exact ((Prod.mk.inj (Prod.mk.inj heq).2).2).symm
      have hcode := congrArg FrameValues.endCode (hext.values 0)
      rw [hsame]
      show r.fullHeaders.cyclicHeader.endCode ≠ _
      exact fun h => hne (hcode.symm.trans h)
    · rintro ⟨_, _, _, _, _, _, heq, hforeign⟩
      obtain ⟨_, _, rfl, rfl, _⟩ := Event.frame.inj heq
      -- a parsed response is no request
      unfold clmForeignRequest at hforeign
      unfold clmIefbInputResponse at hok'
      split at hforeign
      · cases hforeign
      cases hheader : clIefbParseResponseHeader q.payload with
      | none =>
        rw [hheader] at hforeign
        cases hforeign
      | some header =>
        rw [hheader] at hforeign hok'
        simp only at hforeign hok'
        split at hok'
        · cases hok'
        · rename_i hvalid
          rw [not_not.mp hvalid] at hforeign
          cases hforeign

/-! ## the phases of the master -/

/-- all groups together, and what the application has been told -/
theorem run_phase (es : List NetEvent) :
    ∃ P : Phase, P ≠ .listen ∧ InPhase P (st.run es).1.master
      ∧ reportedStates (st.run es).2
        = .standby :: .arbitration :: if P = .running then [.running] else [] := by
  induction es using List.reverseRecOn with
  | nil =>
    refine ⟨.arbitration, (by decide), st.master.init_lockstep, ?_⟩
    show reportedStates (st.master.init.2 ++ []) = _
    rw [List.append_nil]
    exact st.master.init_reports.2
  | append_singleton es e ih =>
    obtain ⟨P, hP, hin, hreported⟩ := ih
    rw [st.run_concat]
    rcases netStep_master (st.run es).1 e with ⟨hmaster, hout⟩ | ⟨e', he, hmaster, hout⟩
    · rw [hmaster, hout, List.append_nil]
      exact ⟨P, hP, hin, hreported⟩
    · obtain ⟨ems, hems⟩ := (st.run_inv es).master
      have hm : (st.master.run ems).1 = (st.run es).1.master := congrArg Prod.fst hems
      obtain ⟨P', hstep⟩ := st.master.step_lockstep ems (hm ▸ hin) e'
      rw [hm] at hstep
      obtain ⟨hcode, hforeign⟩ := st.run_noAlarm es he
      -- the first group does not go to `MASTER_LISTEN`
      have hpos : 0 < (st.run es).1.master.numGroups := by
        rw [Clm.numGroups, (st.run_inv es).config]
        exact st.master.vc.numGroups_pos
      have hpos' : 0 < (clmStep (st.run es).1.master e').1.numGroups := by
        rw [Clm.numGroups, hstep.config]
        exact hpos
      have hfirst : ((st.run es).1.master.groups 0).groupState ≠ .masterListen := by
        intro h
        have hphase := hin.phase 0 hpos
        rw [h] at hphase
        exact hP (Option.some.inj hphase).symm
      have hP' : P' ≠ .listen := by
        have hlater := clmStep_ne_listen hcode hforeign hpos hfirst
        have hphase := hstep.after.phase 0 hpos'
        rintro rfl
        generalize ((clmStep (st.run es).1.master e').1.groups 0).groupState = state at hlater hphase
        cases state <;> first | exact hlater rfl | cases hphase
      rw [hmaster, hout]
      refine ⟨P', hP', hstep.after, ?_⟩
      rw [reportedStates_append, hreported, hstep.reported]
      cases P with
      | listen => exact absurd rfl hP
      | arbitration =>
        cases P' with
        | listen => exact absurd rfl hP'
        | arbitration => rfl
        | running => rfl
      | running =>
        cases P' with
        | listen => exact absurd rfl hP'
        | arbitration => exact absurd (hstep.timer rfl).1 (by decide)
        | running => rfl

/-- **No false alarm.**  However late, lost or overtaken its datagrams are, and however often its
slaves start again: a master that is alone on the network never stops.  No group is in
`MASTER_LISTEN`, the application is told of `STANDBY` and of `ARBITRATION` once, and of `RUNNING`
once when the arbitration is over; no response on its way reports another master. -/
theorem neverStops (es : List NetEvent) :
    let net := (st.run es).1
    (∀ g, g < st.master.vc.numGroups → (net.master.groups g).groupState ≠ .masterListen)
      ∧ reportedStates (st.run es).2 = .standby :: .arbitration
        :: (if net.master.shared.masterState = .running then [.running] else [])
      ∧ ∀ q ∈ net.responses, ∀ remotePort now, ∃ r,
        clmIefbInputResponse q.payload ((st.master.vc.setting q.g).slaveDevices q.d).slaveId
            remotePort now = .ok r
          ∧ r.fullHeaders.cyclicHeader.endCode ≠ endcodeMasterDuplication := by
  intro net
  obtain ⟨P, hP, hin, hreported⟩ := st.run_phase es
  refine ⟨?_, ?_, ?_⟩
  · intro g hg hlisten
    have hg' : g < (st.run es).1.master.numGroups := by
      rw [Clm.numGroups, (st.run_inv es).config]
      exact hg
    have hphase := hin.phase g hg'
    rw [hlisten] at hphase
    exact hP (Option.some.inj hphase).symm
  · have hstate : net.master.shared.masterState = P.masterState := hin.masterState
    rw [hreported, hstate]
    cases P <;> rfl
  · intro q hq remotePort now
    obtain ⟨p, request, a, _, _, hanswered, hne⟩ := st.run_answer es hq
    obtain ⟨r, hok, hext⟩ := hanswered.extracted remotePort now
    refine ⟨r, hok, ?_⟩
    have hcode : r.fullHeaders.cyclicHeader.endCode = a.1 :=
      congrArg FrameValues.endCode (hext.values 0)
    rw [hcode]
    exact hne

end NetStart

end CLink
