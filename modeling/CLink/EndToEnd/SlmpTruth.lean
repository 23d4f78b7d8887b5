import CLink.EndToEnd.SlmpOrigins

/-!
# What a confirmation of a new address says about the slave

Answers name their request by 16 bits.

* `LatestRequest`           the latest request of a kind;
* `isFresh`                 fewer than 65536 requests are younger than the one a response answers;
* `Received.latest`         a fresh answer that the master takes is one to its latest request;
* `SlmpNetStart.addressed`  a confirmation tells the truth.
-/

namespace CLink
open Bytes Trace SlmpMaster SlmpOutput

/-! ## the latest request -/

/-- request `i` is the latest one of kind `k` -/
structure LatestRequest (k : SlmpRequestKind) (hist : List SlmpOutput) (i : Nat) (payload : Datagram) :
    Prop where
  sent : (hist.filter isDraw)[i]? = some (.sent k payload)
  last : ∀ j payload', (hist.filter isDraw)[j]? = some (.sent k payload') → j ≤ i

namespace LatestRequest
variable {k : SlmpRequestKind} {hist : List SlmpOutput} {i : Nat} {payload : Datagram}

theorem lt (h : LatestRequest k hist i payload) : i < (hist.filter isDraw).length :=
  (List.getElem?_eq_some_iff.mp h.sent).1

theorem unique (h : LatestRequest k hist i payload) {j : Nat} {payload' : Datagram}
    (h' : LatestRequest k hist j payload') : i = j :=
  le_antisymm (h'.last i payload h.sent) (h.last j payload' h'.sent)

/-- an output that is not a request of the kind -/
theorem silent (h : LatestRequest k hist i payload) {x : SlmpOutput} (hx : isSent k x = false) :
    LatestRequest k (hist ++ [x]) i payload := by
  refine ⟨?_, ?_⟩
  · rw [List.filter_append, List.getElem?_append_left h.lt]
    exact h.sent
  · intro j payload' hj
    rw [List.filter_append] at hj
    rcases Nat.lt_or_ge j (hist.filter isDraw).length with hlt' | hge
    · rw [List.getElem?_append_left hlt'] at hj
      exact h.last j payload' hj
    · rw [List.getElem?_append_right hge] at hj
      have hmem := List.mem_of_getElem? hj
      have heq := List.mem_singleton.mp (List.mem_filter.mp hmem).1
      rw [← heq, isSent_sent, decide_eq_false_iff_not] at hx
      exact absurd rfl hx

/-- a request of the kind -/
theorem mark (k : SlmpRequestKind) (hist : List SlmpOutput) (payload : Datagram) :
    LatestRequest k (hist ++ [.sent k payload]) (hist.filter isDraw).length payload := by
  have hfilter : (hist ++ [SlmpOutput.sent k payload]).filter isDraw = hist.filter isDraw ++ [.sent k payload] := by
    rw [List.filter_append]
    rfl
  refine ⟨?_, ?_⟩
  · rw [hfilter]
    exact List.getElem?_concat_length
  · intro j payload' hj
    rw [hfilter] at hj
    have hlt := (List.getElem?_eq_some_iff.mp hj).1
    rw [List.length_append] at hlt
    exact Nat.le_of_lt_succ hlt

/-- the latest request, and the serial numbers since then -/
theorem of_sent (h : ∃ x ∈ hist, isSent k x = true) : ∃ i payload, LatestRequest k hist i payload
    ∧ i + drawsSince k hist = (hist.filter isDraw).length := by
  induction hist using List.reverseRecOn with
  | nil =>
    obtain ⟨x, hx, _⟩ := h
    exact absurd hx List.not_mem_nil
  | append_singleton hist y ih =>
    by_cases hy : isSent k y = true
    · cases y with
      | sent j payload =>
        rw [isSent_sent, decide_eq_true_eq] at hy
        subst hy
        refine ⟨_, payload, .mark j hist payload, ?_⟩
        rw [drawsSince_sent, List.filter_append, List.length_append]
        rfl
      | _ => cases hy
    · have hno := eq_false_of_ne_true hy
      obtain ⟨x, hx, hsent⟩ := h
      have hmem : x ∈ hist := by
        rcases List.mem_append.mp hx with hx | hx
        · exact hx
        · rw [List.mem_singleton.mp hx] at hsent
          exact absurd hsent hy
      obtain ⟨i, payload, hlatest, hdraws⟩ := ih ⟨x, hmem, hsent⟩
      refine ⟨i, payload, hlatest.silent hno, ?_⟩
      rw [drawsSince_silent (fun z hz => List.mem_singleton.mp hz ▸ hno), List.filter_append,
        List.length_append, ← List.countP_eq_length_filter (l := [y])]
      omega

/-- a request of the kind with the same 16 bits, if it is young enough -/
theorem index_unique (h : LatestRequest k hist i payload) {j : Nat} {payload' : Datagram}
    (hj : (hist.filter isDraw)[j]? = some (.sent k payload')) (hmod : j % 65536 = i % 65536)
    (hyoung : (hist.filter isDraw).length ≤ j + 65536) : j = i := by
  have hle := h.last j payload' hj
  have hlt := h.lt
  omega

end LatestRequest

/-- the pending request is the latest one -/
theorem SlmpNetStart.MasterInv.latest {st : SlmpNetStart} {hist : List SlmpOutput} {clm : SlmpMaster}
    (h : st.MasterInv hist clm) {k : SlmpRequestKind} {serial : UInt16}
    (hserial : serialOf k clm = serial.toNat) :
    ∃ i payload, LatestRequest k hist i payload ∧ serial.toNat = i % 65536 := by
  have hpending : serialOf k clm ≠ clmSlmpSerialNone := by
    rw [hserial]
    exact toNat_ne_none serial
  obtain ⟨x, hx, hsent⟩ := (h.requests k).pending.mp hpending
  have hmem : x ∈ hist := (mem_since_append (a := []) hx).resolve_left List.not_mem_nil
  obtain ⟨i, payload, hlatest, hdraws⟩ := LatestRequest.of_sent ⟨x, hmem, hsent⟩
  refine ⟨i, payload, hlatest, ?_⟩
  obtain ⟨n, hlt, hn, hcounter⟩ := h.serials.pending k hpending
  have hnat : n = serial.toNat := by
    rw [hserial] at hn
    exact Int.ofNat.inj hn.symm
  rw [h.drawn.counter, UInt16.toNat_ofNat'] at hcounter
  omega

/-! ## fresh responses -/

/-- a response in the event answers one of the latest 65536 requests -/
def SlmpNetEvent.isFresh (net : SlmpNetwork) : SlmpNetEvent → Bool
  | .deliverResponse i _ _ =>
    match net.responses[i]? with
    | some q => (q.receipt.all fun r => decide (net.drawn ≤ r.request.index + 65536))
    | none => true
  | _ => true

/-- the payload tells the kind of the request -/
theorem SlmpBuilt.kind_unique {mcfg : SlmpMasterConfig} {a b : UInt16} {j k : SlmpRequestKind}
    {payload : Datagram} (h : SlmpBuilt mcfg a j payload) (h' : SlmpBuilt mcfg b k payload) : j = k := by
  have hlen {serial : UInt16} {j : SlmpRequestKind} {payload : Datagram}
      (h : SlmpBuilt mcfg serial j payload) : payload.len = if j = .nodeSearch then 30 else 58 := by
    cases h <;> rfl
  have heq := (hlen h).symm.trans (hlen h')
  cases j with
  | nodeSearch =>
    cases k with
    | nodeSearch => rfl
    | setIp => exact absurd heq (by decide)
  | setIp =>
    cases k with
    | nodeSearch => exact absurd heq (by decide)
    | setIp => rfl

namespace SlmpNetStart
variable {st : SlmpNetStart} {es : List SlmpNetEvent} {r : SlmpReceipt}

/-- the request of a receipt has been sent -/
theorem Received.wasSent (h : st.Received es r) : r.request.WasSent st.nc (st.run es).2 := by
  obtain ⟨pre, e, post, rfl, hr⟩ := h
  rw [show (st.run (pre ++ e :: post)).2 = _ from
    congrArg Prod.snd ((slmpNetwork st.nc).run_append st.init pre (e :: post))]
  cases hr with
  | mk i p now sendOk setOk sendAnswerOk hp =>
    exact (st.run_requests pre p (List.mem_of_getElem? hp)).append _

/-- a request that the master waits for, if the answer is fresh -/
theorem Received.latest (h : st.Received es r) {k : SlmpRequestKind}
    (hbuilt : SlmpBuilt st.nc.master (UInt16.ofNat r.request.index) k r.request.payload)
    (hserial : serialOf k (st.run es).1.master = (UInt16.ofNat r.request.index).toNat)
    (hfresh : (st.run es).1.drawn ≤ r.request.index + 65536) :
    LatestRequest k (st.run es).2 r.request.index r.request.payload := by
  obtain ⟨hmaster, hcounted⟩ := st.run_master es
  obtain ⟨i, payload, hlatest, hmod⟩ := hmaster.latest hserial
  obtain ⟨k', hsent⟩ := h.wasSent.sent
  obtain rfl := hbuilt.kind_unique (hmaster.drawn.built _ _ hsent k' _ rfl)
  rw [UInt16.toNat_ofNat'] at hmod
  obtain rfl := hlatest.index_unique hsent hmod (hcounted.drawn ▸ hfresh)
  have hpayload := hsent.symm.trans hlatest.sent
  simp only [Option.some.injEq, SlmpOutput.sent.injEq, true_and] at hpayload
  rw [hpayload]
  exact hlatest

end SlmpNetStart

/-! ## the slaves keep their MAC address -/

namespace SlmpNetwork
variable (net : SlmpNetwork) (nc : SlmpNetConfig)

theorem setStation_mac (j : Nat) (s : SlmpStation) (hs : s.mac = (net.stations j).mac) (k : Nat) :
    ((net.setStation j s).stations k).mac = (net.stations k).mac := by
  by_cases hk : k = j
  · subst hk
    show (Function.update net.stations k s k).mac = _
    rw [Function.update_self, hs]
  · show (Function.update net.stations j s k).mac = _
    rw [Function.update_of_ne hk]

theorem slaveTick_mac (j : Nat) (now : UInt32) (sendOk : Bool) (k : Nat) :
    ((net.slaveTick j now sendOk).stations k).mac = (net.stations k).mac :=
  setStation_mac net j ((net.stations j).tick now sendOk).1 rfl k

theorem receive_mac (p : SlmpRequestCopy) (now : UInt32) (known setOk sendOk : Bool) (k : Nat) :
    ((net.receive nc p now known setOk sendOk).stations k).mac = (net.stations k).mac := by
  cases known with
  | false => rfl
  | true =>
    refine setStation_mac net p.slave ((net.stations p.slave).receive nc now p.payload setOk sendOk).1 ?_ k
    exact (SlmpStation.applied_cls _ setOk _).2.2

theorem slmpNetStep_mac (e : SlmpNetEvent) (k : Nat) :
    ((slmpNetStep nc net e).1.stations k).mac = (net.stations k).mac := by
  cases e with
  | master e =>
    simp only [slmpNetStep]
    split
    · rfl
    · rw [(masterStep_rest nc net e).2.1]
  | slave j now sendOk => exact slaveTick_mac net j now sendOk k
  | restart j cfg => exact setStation_mac net j ((net.stations j).restart cfg) rfl k
  | readdress j ip netmask =>
    exact setStation_mac net j { net.stations j with ip := ip, netmask := netmask } rfl k
  | loseRequest | loseResponse => rfl
  | deliverRequest i now known sendOk setOk sendAnswerOk =>
    simp only [slmpNetStep]
    split
    · rfl
    · rename_i p _
      exact (receive_mac _ nc p now known setOk sendAnswerOk k).trans
        (slaveTick_mac (net.loseRequest i) p.slave now sendOk k)
  | deliverResponse i ifindex calls =>
    simp only [slmpNetStep]
    split
    · rfl
    · rw [(masterStep_rest nc (net.loseResponse i) _).2.1]
      rfl

end SlmpNetwork

namespace SlmpNetStart
variable (st : SlmpNetStart)

theorem run_mac (es : List SlmpNetEvent) (k : Nat) :
    ((st.run es).1.stations k).mac = (st.slaves k).mac := by
  induction es using List.reverseRecOn with
  | nil => rfl
  | append_singleton es e ih =>
    rw [st.run_concat, SlmpNetwork.slmpNetStep_mac]
    exact ih

theorem Received.mac {st : SlmpNetStart} {es : List SlmpNetEvent} {r : SlmpReceipt}
    (h : st.Received es r) : r.station.mac = (st.slaves r.request.slave).mac := by
  obtain ⟨pre, e, post, rfl, hr⟩ := h
  cases hr with
  | mk i p now sendOk setOk sendAnswerOk hp => exact st.run_mac pre p.slave

end SlmpNetStart

/-! ## confirmations -/

section
variable {mcfg : SlmpMasterConfig}

theorem slmpCalls_not_isCfm (clm : SlmpMaster) (calls : List SlmpCall) (k : SlmpRequestKind) :
    ∀ x ∈ ((slmpCalls mcfg).run clm calls).2, isCfm k x = false := by
  induction calls generalizing clm with
  | nil => exact fun x hx => absurd hx List.not_mem_nil
  | cons c calls ih =>
    intro x hx
    rcases List.mem_append.mp hx with hx | hx
    · exact (performCall_step mcfg clm c).not_isCfm k x hx
    · exact ih _ x hx

/-- without a frame, only the timer confirms a request for a new address -/
theorem slmpStep_timeout {clm : SlmpMaster} {e : SlmpEvent} {status : MasterSetipStatus}
    (he : e.isFrame = false) (h : .setIpCfm status ∈ (slmpStep mcfg clm e).2) : status = .timeout := by
  cases e with
  | call c => exact absurd ((performCall_step mcfg clm c).not_isCfm .setIp _ h) (by simp [isCfm])
  | frame => cases he
  | checkTimeouts now inNodeSearchCfm inSetIpCfm =>
    have hcalls (clm : SlmpMaster) (calls : List SlmpCall) :
        .setIpCfm status ∉ ((slmpCalls mcfg).run clm calls).2 := fun hmem =>
      absurd (slmpCalls_not_isCfm clm calls .setIp _ hmem) (by simp [isCfm])
    have hboth : .setIpCfm status ∈ (checkNodeSearchTimer mcfg clm now inNodeSearchCfm).2
        ++ (checkSetIpRequestTimer mcfg (checkNodeSearchTimer mcfg clm now inNodeSearchCfm).1 now
          inSetIpCfm).2 := h
    rcases List.mem_append.mp hboth with h | h
    · unfold checkNodeSearchTimer at h
      split at h
      · rcases List.mem_cons.mp h with h | h
        · cases h
        · exact absurd h (hcalls _ _)
      · exact absurd h List.not_mem_nil
    · generalize (checkNodeSearchTimer mcfg clm now inNodeSearchCfm).1 = clm at h
      unfold checkSetIpRequestTimer at h
      split at h
      · rcases List.mem_cons.mp h with h | h
        · cases h
          rfl
        · exact absurd h (hcalls _ _)
      · exact absurd h List.not_mem_nil

end

/-- the slave after the request -/
def SlmpReceipt.after (r : SlmpReceipt) (nc : SlmpNetConfig) : SlmpStation :=
  (r.station.receive nc r.now r.request.payload r.setOk r.sendOk).1

theorem SlmpReceipt.after_address {nc : SlmpNetConfig} {r : SlmpReceipt} {newIp newNetmask : IpAddr}
    (hip : newIp ≠ ipaddrInvalid) (hmask : clUtilsIsNetmaskValid newNetmask = true)
    (h : r.request.payload = .ofBytes ((setIpRequest nc.master (UInt16.ofNat r.request.index)
      r.station.mac newIp newNetmask).bytes nc.master.host)) (hlittle : r.station.cfg.host = .little) :
    let didSetIp := r.station.cfg.ipSettingAllowed && r.setOk
    r.outs nc = r.addressOuts nc newIp newNetmask
      ∧ (r.after nc).ip = (if didSetIp then newIp else r.station.ip)
      ∧ (r.after nc).netmask = (if didSetIp then newNetmask else r.station.netmask) := by
  have hreceive := receive_address hip hmask h
  rw [if_pos ⟨hlittle, rfl⟩] at hreceive
  have houts : r.outs nc = r.addressOuts nc newIp newNetmask := congrArg Prod.snd hreceive
  refine ⟨houts, ?_⟩
  unfold after
  rw [hreceive, houts]
  unfold addressOuts
  cases r.station.cfg.ipSettingAllowed with
  | false => exact ⟨rfl, rfl⟩
  | true => cases hset : r.setOk <;> simp [SlmpStation.apply]

/-- the answer of a slave in the master -/
theorem SlmpAnswer.confirms {nc : SlmpNetConfig} {r : SlmpReceipt} {payload : Datagram}
    (h : SlmpAnswer nc r payload) {clm : SlmpMaster} {ifindex : Int} {calls : List SlmpCall}
    {status : MasterSetipStatus}
    (hcfm : .setIpCfm status ∈ (clmSlmpHandleInputFrame nc.master clm payload ifindex calls).2.2) :
    ∃ newIp newNetmask, newIp ≠ ipaddrInvalid ∧ clUtilsIsNetmaskValid newNetmask = true
      ∧ r.request.payload = .ofBytes ((setIpRequest nc.master (UInt16.ofNat r.request.index)
          r.station.mac newIp newNetmask).bytes nc.master.host)
      ∧ r.station.cfg.host = .little ∧ clm.setIpRequestSerial = (UInt16.ofNat r.request.index).toNat
      ∧ decide (status = .success) = (r.station.cfg.ipSettingAllowed && r.setOk) := by
  cases h with
  | search =>
    rcases clmSlmpHandleInputFrame_search nc.master r.station.cfg (UInt16.ofNat r.request.index)
      (r.station.addrInfo nc) clm ifindex calls with hnone | ⟨_, hnone, _⟩
    all_goals
      rw [hnone] at hcfm
      exact absurd hcfm List.not_mem_nil
  | address newIp newNetmask hip hmask hrequest hlittle =>
    refine ⟨newIp, newNetmask, hip, hmask, hrequest, hlittle, ?_⟩
    generalize (r.station.cfg.ipSettingAllowed && r.setOk) = didSetIp at hcfm ⊢
    rcases clmSlmpHandleInputFrame_address nc.master r.station.cfg (UInt16.ofNat r.request.index)
      didSetIp clm ifindex calls with hnone | ⟨hserial, hafter⟩
    · rw [hnone] at hcfm
      exact absurd hcfm List.not_mem_nil
    · refine ⟨hserial, ?_⟩
      rw [hafter] at hcfm
      rcases List.mem_cons.mp hcfm with hstatus | hcalls
      · obtain rfl := SlmpOutput.setIpCfm.inj hstatus
        cases didSetIp <;> rfl
      · exact absurd (slmpCalls_not_isCfm _ calls .setIp _ hcalls) (by simp [isCfm])

/-- a response in the master, with its receipt -/
theorem SlmpNetStart.run_response (st : SlmpNetStart) (es : List SlmpNetEvent) {i : Nat}
    {q : SlmpResponseCopy} (hq : (st.run es).1.responses[i]? = some q) {ifindex : Int}
    {calls : List SlmpCall} (hfresh : SlmpNetEvent.isFresh (st.run es).1 (.deliverResponse i ifindex calls)
      = true) :
    ∃ r, q.receipt = some r ∧ st.Received es r ∧ r.request.slave = q.slave ∧ SlmpAnswer st.nc r q.payload
      ∧ (st.run es).1.drawn ≤ r.request.index + 65536 := by
  obtain ⟨r, hr, hreceived, hslave, hanswer⟩ :=
    (st.run_origins es).responses q (List.mem_of_getElem? hq)
  refine ⟨r, hr, hreceived, hslave, hanswer, ?_⟩
  unfold SlmpNetEvent.isFresh at hfresh
  simp only [hq, hr, Option.all_some, decide_eq_true_eq] at hfresh
  exact hfresh

/-- **A confirmation tells the truth.**  The slave with the requested MAC address has received the
latest request of the master; after a success it had the new address, after an error its old one. -/
theorem SlmpNetStart.addressed (st : SlmpNetStart) (es : List SlmpNetEvent) {e : SlmpNetEvent}
    {status : MasterSetipStatus} (hcfm : .setIpCfm status ∈ (slmpNetStep st.nc (st.run es).1 e).2)
    (hanswered : status ≠ .timeout) (hfresh : e.isFresh (st.run es).1 = true) :
    ∃ r newIp newNetmask, st.Received es r
      ∧ LatestRequest .setIp (st.run es).2 r.request.index (.ofBytes ((setIpRequest st.nc.master
          (UInt16.ofNat r.request.index) (st.slaves r.request.slave).mac newIp newNetmask).bytes
          st.nc.master.host))
      ∧ .setIpInd st.nc.master.macAddress st.nc.master.masterId newIp newNetmask
          r.station.cfg.ipSettingAllowed (status = .success) ∈ r.outs st.nc
      ∧ (r.after st.nc).ip = (if status = .success then newIp else r.station.ip)
      ∧ (r.after st.nc).netmask = (if status = .success then newNetmask else r.station.netmask) := by
  cases e with
  | master e =>
    simp only [slmpNetStep] at hcfm
    split at hcfm
    · exact absurd hcfm List.not_mem_nil
    · rename_i he
      exact absurd (slmpStep_timeout (eq_false_of_ne_true he) hcfm) hanswered
  | slave | restart | readdress | loseRequest | loseResponse => exact absurd hcfm List.not_mem_nil
  | deliverRequest i =>
    simp only [slmpNetStep] at hcfm
    split at hcfm
    all_goals exact absurd hcfm List.not_mem_nil
  | deliverResponse i ifindex calls =>
    simp only [slmpNetStep] at hcfm
    split at hcfm
    · exact absurd hcfm List.not_mem_nil
    rename_i q hq
    obtain ⟨r, hr, hreceived, hslave, hanswer, hyoung⟩ := st.run_response es hq hfresh
    obtain ⟨newIp, newNetmask, hip, hmask, hrequest, hlittle, hserial, hdid⟩ := hanswer.confirms hcfm
    have hbuilt : SlmpBuilt st.nc.master (UInt16.ofNat r.request.index) .setIp r.request.payload := by
      rw [hrequest]
      exact .setIp r.station.mac newIp newNetmask hip hmask
    obtain ⟨houts, hafterIp, hafterNetmask⟩ := SlmpReceipt.after_address hip hmask hrequest hlittle
    rw [← hdid] at hafterIp hafterNetmask
    simp only [decide_eq_true_eq] at hafterIp hafterNetmask
    refine ⟨r, newIp, newNetmask, hreceived, ?_, ?_, hafterIp, hafterNetmask⟩
    · rw [← hreceived.mac, ← hrequest]
      exact hreceived.latest hbuilt hserial hyoung
    · rw [houts, hdid]
      unfold SlmpReceipt.addressOuts
      exact List.mem_append_right _ (List.mem_cons_of_mem _ List.mem_cons_self)

/-- two slaves -/
def exampleSlmpNetwork : SlmpNetStart :=
  { nc := { master := exampleSlmpConfig, port := clSlmpPort, numSlaves := 2, masterId := by decide }
    clm := exampleSlmpMaster
    slaves := fun k =>
      { cfg := exampleSlmpSlaveConfig, mac := fun i => UInt8.ofNat (0x0A + 6 * k + i), ifindex := 2
        ip := UInt32.ofNat (0xC0A80002 + k), netmask := 0xFFFFFF00, cls := exampleSlmpSlave } }

/-- the second slave gets a new address, and answers -/
def exampleAddressEvents : List SlmpNetEvent :=
  [.master (.call (.performSetIpaddrRequest 0 (exampleSlmpNetwork.slaves 1).mac 0xC0A80010 0xFFFFFF00
      true)),
    .deliverRequest 1 1000 true true true true]

theorem addressed_example : ∃ r newIp newNetmask,
    exampleSlmpNetwork.Received exampleAddressEvents r
      ∧ LatestRequest .setIp (exampleSlmpNetwork.run exampleAddressEvents).2 r.request.index (.ofBytes
          ((setIpRequest exampleSlmpConfig (UInt16.ofNat r.request.index)
            (exampleSlmpNetwork.slaves r.request.slave).mac newIp newNetmask).bytes .little))
      ∧ .setIpInd exampleSlmpConfig.macAddress exampleSlmpConfig.masterId newIp newNetmask
          r.station.cfg.ipSettingAllowed true ∈ r.outs exampleSlmpNetwork.nc
      ∧ (r.after exampleSlmpNetwork.nc).ip = newIp ∧ (r.after exampleSlmpNetwork.nc).netmask = newNetmask := by
  have hcfm : (slmpNetStep exampleSlmpNetwork.nc (exampleSlmpNetwork.run exampleAddressEvents).1
      (.deliverResponse 0 3 [])).2 = [.setIpCfm .success] := by rfl
  exact exampleSlmpNetwork.addressed exampleAddressEvents (hcfm ▸ List.mem_singleton_self _) (by decide)
    (by decide +kernel)

end CLink
