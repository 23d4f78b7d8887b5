import CLink.EndToEnd.SlmpNetwork
import CLink.Slmp.Confirmations

/-!
# Where the frames of SLMP come from

* `SlmpNetStart.run_master`      the master runs as it does on its own;
* `SlmpRequestCopy.WasSent`      a request on its way has been sent;
* `SlmpStation.Waits`            the node search that a slave with a running timer waits with;
* `SlmpAnswer`                   what a slave answers;
* `SlmpNetwork.Origins`          the waiting slaves and the responses belong to receipts;
* `SlmpNetStart.run_requests`, `run_origins`   in every run.
-/

namespace CLink
open Bytes Trace SlmpMaster SlmpOutput

/-! ## requests -/

/-- the request has been sent, to one of the slaves -/
structure SlmpRequestCopy.WasSent (nc : SlmpNetConfig) (p : SlmpRequestCopy) (hist : List SlmpOutput) :
    Prop where
  slave : p.slave < nc.numSlaves
  sent : ∃ k, (hist.filter isDraw)[p.index]? = some (.sent k p.payload)

theorem SlmpRequestCopy.WasSent.append {nc : SlmpNetConfig} {p : SlmpRequestCopy}
    {hist : List SlmpOutput} (h : p.WasSent nc hist) (outs : List SlmpOutput) :
    p.WasSent nc (hist ++ outs) := by
  obtain ⟨k, hk⟩ := h.sent
  obtain ⟨hlt, _⟩ := List.getElem?_eq_some_iff.mp hk
  refine ⟨h.slave, k, ?_⟩
  rw [List.filter_append, List.getElem?_append_left hlt]
  exact hk

namespace SlmpNetwork
variable {nc : SlmpNetConfig} {hist : List SlmpOutput} {net : SlmpNetwork}

/-- the requests and the draws of the network agree with the outputs of the master -/
structure Counted (nc : SlmpNetConfig) (hist : List SlmpOutput) (net : SlmpNetwork) : Prop where
  drawn : net.drawn = (hist.filter isDraw).length
  requests : ∀ p ∈ net.requests, p.WasSent nc hist

/-- one output more of the master -/
theorem Counted.emit (h : Counted nc hist net) (x : SlmpOutput) :
    Counted nc (hist ++ [x]) (net.emit nc x) := by
  have hrequests : ∀ p ∈ net.requests, p.WasSent nc (hist ++ [x]) :=
    fun p hp => (h.requests p hp).append _
  cases x with
  | sent k payload =>
    have hfilter : [SlmpOutput.sent k payload].filter isDraw = [.sent k payload] := rfl
    refine ⟨?_, ?_⟩
    · rw [List.filter_append, hfilter, List.length_append]
      exact congrArg (· + 1) h.drawn
    · intro p hp
      rcases List.mem_append.mp hp with hp | hp
      · exact hrequests p hp
      · obtain ⟨j, hj, rfl⟩ := List.mem_map.mp hp
        refine ⟨List.mem_range.mp hj, k, ?_⟩
        show (_ : List SlmpOutput)[net.drawn]? = _
        rw [List.filter_append, hfilter, h.drawn]
        exact List.getElem?_concat_length
  | sendFailed k =>
    refine ⟨?_, hrequests⟩
    rw [List.filter_append, List.length_append]
    exact congrArg (· + 1) h.drawn
  | _ =>
    refine ⟨?_, hrequests⟩
    rw [List.filter_append, List.length_append]
    exact h.drawn

theorem Counted.emits (h : Counted nc hist net) (outs : List SlmpOutput) :
    Counted nc (hist ++ outs) (outs.foldl (fun net => net.emit nc) net) := by
  induction outs generalizing hist net with
  | nil =>
    rw [List.append_nil]
    exact h
  | cons x outs ih =>
    rw [List.append_cons]
    exact ih (h.emit x)

/-- what an output of the master leaves alone -/
theorem emits_rest (outs : List SlmpOutput) (net : SlmpNetwork) :
    (outs.foldl (fun net => net.emit nc) net).master = net.master
      ∧ (outs.foldl (fun net => net.emit nc) net).stations = net.stations
      ∧ (outs.foldl (fun net => net.emit nc) net).searches = net.searches
      ∧ (outs.foldl (fun net => net.emit nc) net).responses = net.responses := by
  induction outs generalizing net with
  | nil => exact ⟨rfl, rfl, rfl, rfl⟩
  | cons x outs ih =>
    obtain ⟨hmaster, hstations, hsearches, hresponses⟩ := ih (net.emit nc x)
    rw [List.foldl_cons, hmaster, hstations, hsearches, hresponses]
    cases x <;> exact ⟨rfl, rfl, rfl, rfl⟩

theorem masterStep_rest (nc : SlmpNetConfig) (net : SlmpNetwork) (e : SlmpEvent) :
    (net.masterStep nc e).1.master = (slmpStep nc.master net.master e).1
      ∧ (net.masterStep nc e).1.stations = net.stations
      ∧ (net.masterStep nc e).1.searches = net.searches
      ∧ (net.masterStep nc e).1.responses = net.responses :=
  emits_rest _ { net with master := (slmpStep nc.master net.master e).1 }

theorem Counted.masterStep (h : Counted nc hist net) (e : SlmpEvent) :
    Counted nc (hist ++ (net.masterStep nc e).2) (net.masterStep nc e).1 := by
  have hmaster : Counted nc hist { net with master := (slmpStep nc.master net.master e).1 } :=
    ⟨h.drawn, h.requests⟩
  exact hmaster.emits _

/-- steps of others -/
theorem Counted.silent {net' : SlmpNetwork} (h : Counted nc hist net) (hdrawn : net'.drawn = net.drawn)
    (hrequests : ∀ p ∈ net'.requests, p ∈ net.requests) : Counted nc (hist ++ []) net' := by
  rw [List.append_nil]
  exact ⟨hdrawn.trans h.drawn, fun p hp => h.requests p (hrequests p hp)⟩

theorem receive_rest (net : SlmpNetwork) (nc : SlmpNetConfig) (p : SlmpRequestCopy) (now : UInt32)
    (known setOk sendOk : Bool) :
    (net.receive nc p now known setOk sendOk).master = net.master
      ∧ (net.receive nc p now known setOk sendOk).requests = net.requests
      ∧ (net.receive nc p now known setOk sendOk).drawn = net.drawn := by
  cases known <;> exact ⟨rfl, rfl, rfl⟩

theorem receive_eq {p : SlmpRequestCopy} {now : UInt32} {setOk sendOk : Bool} {after : SlmpStation}
    {outs : List SlmpSlaveOutput}
    (h : (net.stations p.slave).receive nc now p.payload setOk sendOk = (after, outs)) :
    net.receive nc p now true setOk sendOk = { net.setStation p.slave after with
      searches :=
        if outs.any SlmpSlaveOutput.isSearchInd then Function.update net.searches p.slave
          (some ⟨p, net.stations p.slave, now, setOk, sendOk⟩) else net.searches
      responses := net.responses
        ++ if sendOk then outs.filterMap (SlmpSlaveOutput.copy p.slave
          (some ⟨p, net.stations p.slave, now, setOk, sendOk⟩)) else [] } := by
  unfold receive
  rw [if_pos rfl, h]

end SlmpNetwork

namespace SlmpNetStart
variable (st : SlmpNetStart)

/-- the master on its own -/
structure MasterInv (hist : List SlmpOutput) (clm : SlmpMaster) : Prop where
  drawn : SlmpDrawn st.nc.master hist clm
  serials : SerialInv hist clm
  requests : ∀ k, RequestInv k hist clm

/-- the step is one of the master, or the master does not notice it -/
theorem slmpNetStep_master (nc : SlmpNetConfig) (net : SlmpNetwork) (e : SlmpNetEvent) :
    (∃ (net' : SlmpNetwork) (e' : SlmpEvent), net'.master = net.master
        ∧ (∀ p ∈ net'.requests, p ∈ net.requests) ∧ net'.drawn = net.drawn
        ∧ slmpNetStep nc net e = net'.masterStep nc e')
      ∨ (slmpNetStep nc net e).2 = [] ∧ (slmpNetStep nc net e).1.master = net.master
        ∧ (∀ p ∈ (slmpNetStep nc net e).1.requests, p ∈ net.requests)
        ∧ (slmpNetStep nc net e).1.drawn = net.drawn := by
  cases e with
  | master e =>
    simp only [slmpNetStep]
    split
    · exact Or.inr ⟨rfl, rfl, fun _ h => h, rfl⟩
    · exact Or.inl ⟨net, e, rfl, fun _ h => h, rfl, rfl⟩
  | slave | restart | readdress | loseResponse => exact Or.inr ⟨rfl, rfl, fun _ h => h, rfl⟩
  | loseRequest i => exact Or.inr ⟨rfl, rfl, fun _ h => List.mem_of_mem_eraseIdx h, rfl⟩
  | deliverRequest i now known sendOk setOk sendAnswerOk =>
    simp only [slmpNetStep]
    split
    · exact Or.inr ⟨rfl, rfl, fun _ h => h, rfl⟩
    · rename_i p _
      obtain ⟨hmaster, hrequests, hdrawn⟩ := SlmpNetwork.receive_rest
        ((net.loseRequest i).slaveTick p.slave now sendOk) nc p now known setOk sendAnswerOk
      refine Or.inr ⟨rfl, hmaster, ?_, hdrawn⟩
      rw [hrequests]
      exact fun _ h => List.mem_of_mem_eraseIdx h
  | deliverResponse i ifindex calls =>
    simp only [slmpNetStep]
    split
    · exact Or.inr ⟨rfl, rfl, fun _ h => h, rfl⟩
    · exact Or.inl ⟨net.loseResponse i, _, rfl, fun _ h => h, rfl, rfl⟩

theorem run_master (es : List SlmpNetEvent) :
    st.MasterInv (st.run es).2 (st.run es).1.master
      ∧ SlmpNetwork.Counted st.nc (st.run es).2 (st.run es).1 := by
  induction es using List.reverseRecOn with
  | nil =>
    refine ⟨⟨⟨rfl, Numbered.nil⟩, SerialInv.init _, fun k => RequestInv.init k _⟩, rfl, ?_⟩
    exact fun p hp => absurd hp List.not_mem_nil
  | append_singleton es e ih =>
    obtain ⟨hmaster, hcounted⟩ := ih
    rw [st.run_concat]
    rcases slmpNetStep_master st.nc (st.run es).1 e with
      ⟨net, e', hsame, hrequests, hdrawn, hstep⟩ | ⟨hout, hsame, hrequests, hdrawn⟩
    · have hcounted' := hcounted.silent hdrawn hrequests
      rw [List.append_nil] at hcounted'
      rw [hstep]
      refine ⟨?_, hcounted'.masterStep e'⟩
      rw [(SlmpNetwork.masterStep_rest st.nc net e').1]
      show st.MasterInv (_ ++ (slmpStep st.nc.master net.master e').2) _
      rw [hsame]
      exact ⟨hmaster.drawn.step e', hmaster.serials.step e', fun k => (hmaster.requests k).step e'⟩
    · rw [hout, hsame]
      refine ⟨?_, hcounted.silent hdrawn hrequests⟩
      rw [List.append_nil]
      exact hmaster

/-- a request on its way has been sent -/
theorem run_requests (es : List SlmpNetEvent) :
    ∀ p ∈ (st.run es).1.requests, p.WasSent st.nc (st.run es).2 :=
  (st.run_master es).2.requests

end SlmpNetStart

/-! ## answers -/

section
variable {nc : SlmpNetConfig} {r : SlmpReceipt} {s : SlmpStation}

/-- the slave waits with the response to a node search -/
structure SlmpStation.Waits (nc : SlmpNetConfig) (r : SlmpReceipt) (s : SlmpStation) : Prop where
  request : SlmpBuilt nc.master (UInt16.ofNat r.request.index) .nodeSearch r.request.payload
  ind : .nodeSearchInd nc.master.macAddress nc.master.masterId ∈ r.outs nc
  cfg : s.cfg = r.station.cfg
  cls : s.cls = clsSlmpScheduleNodeSearchResponse r.station.cls r.now nc.master.macAddress
    (r.station.addrInfo nc) (UInt16.ofNat r.request.index)

/-- what the slave answers to a request -/
inductive SlmpAnswer (nc : SlmpNetConfig) (r : SlmpReceipt) : Datagram → Prop where
  | search (request : SlmpBuilt nc.master (UInt16.ofNat r.request.index) .nodeSearch r.request.payload)
      (ind : .nodeSearchInd nc.master.macAddress nc.master.masterId ∈ r.outs nc) :
      SlmpAnswer nc r (.ofBytes ((nodeSearchResponse nc.master r.station.cfg (r.station.addrInfo nc)
        (UInt16.ofNat r.request.index)).bytes r.station.cfg.host))
  | address (newIp newNetmask : IpAddr) (hip : newIp ≠ ipaddrInvalid)
      (hmask : clUtilsIsNetmaskValid newNetmask = true)
      (request : r.request.payload = .ofBytes ((setIpRequest nc.master
        (UInt16.ofNat r.request.index) r.station.mac newIp newNetmask).bytes nc.master.host))
      (hlittle : r.station.cfg.host = .little) :
      SlmpAnswer nc r (.ofBytes (setIpAnswer nc.master r.station.cfg (UInt16.ofNat r.request.index)
        (r.station.cfg.ipSettingAllowed && r.setOk)))

theorem SlmpStation.Waits.sends (h : s.Waits nc r) (timer : Timer) (sendOk : Bool) :
    ∃ localIp remoteIp remotePort,
      (clsSlmpSendNodeSearchResponse s.cfg { s.cls with responseTimer := timer } sendOk).2
        = [.response localIp remoteIp remotePort (.ofBytes ((nodeSearchResponse nc.master r.station.cfg
          (r.station.addrInfo nc) (UInt16.ofNat r.request.index)).bytes r.station.cfg.host))] := by
  have hmaster := nc.masterId
  rw [h.cfg, h.cls]
  simp [clsSlmpSendNodeSearchResponse, clsSlmpScheduleNodeSearchResponse, SlmpStation.addrInfo, hmaster,
    nodeSearchResponse]

/-- the first part of `cls_slmp_periodic` -/
theorem SlmpStation.tick_cases (s : SlmpStation) (now : UInt32) (sendOk : Bool) :
    s.tick now sendOk = (s, [])
      ∨ s.cls.responseTimer.state = .running ∧ ∃ timer : Timer, timer.state = .stopped
        ∧ s.tick now sendOk = ({ s with cls := { s.cls with responseTimer := timer } },
          (clsSlmpSendNodeSearchResponse s.cfg { s.cls with responseTimer := timer } sendOk).2) := by
  unfold tick checkResponseTimer
  by_cases hx : clTimerIsExpired s.cls.responseTimer now = true
  · rw [if_pos hx]
    exact Or.inr ⟨clTimerIsExpired_running hx, _, rfl, rfl⟩
  · rw [if_neg hx]
    exact Or.inl rfl

end

/-- the second part, with a request of the master -/
inductive SlmpReceipt.Receives (nc : SlmpNetConfig) (r : SlmpReceipt) : Prop where
  | search (after : SlmpStation) (outs : List SlmpSlaveOutput)
      (hreceive : r.station.receive nc r.now r.request.payload r.setOk r.sendOk = (after, outs))
      (hwaits : after.Waits nc r)
      (houts : outs = [.nodeSearchInd nc.master.macAddress nc.master.masterId])
  | answers (after : SlmpStation) (outs : List SlmpSlaveOutput)
      (hreceive : r.station.receive nc r.now r.request.payload r.setOk r.sendOk = (after, outs))
      (hcls : after.cls = r.station.cls) (hcfg : after.cfg = r.station.cfg)
      (hind : outs.any SlmpSlaveOutput.isSearchInd = false)
      (hone : outs.countP SlmpSlaveOutput.isResponse ≤ 1)
      (houts : ∀ localIp remoteIp remotePort payload,
        .response localIp remoteIp remotePort payload ∈ outs → SlmpAnswer nc r payload)

section
variable {nc : SlmpNetConfig} (r : SlmpReceipt)

/-- what the application and the operating system of the slave get to see of a request for a new address -/
def SlmpReceipt.addressOuts (nc : SlmpNetConfig) (newIp newNetmask : IpAddr) : List SlmpSlaveOutput :=
  let didSetIp := r.station.cfg.ipSettingAllowed && r.setOk
  (if r.station.cfg.ipSettingAllowed then [.setNetworkSettings r.station.ifindex newIp newNetmask] else [])
  ++ [.response (if didSetIp then newIp else r.station.ip)
      (slmpBroadcastAddress r.station.cfg newNetmask newIp) nc.port
      (.ofBytes (setIpAnswer nc.master r.station.cfg (UInt16.ofNat r.request.index) didSetIp)),
    .setIpInd nc.master.macAddress nc.master.masterId newIp newNetmask r.station.cfg.ipSettingAllowed
      didSetIp]

variable {r}

/-- the request of a node search in the slave -/
theorem SlmpReceipt.receive_search (h : r.request.payload
      = .ofBytes ((nodeSearchRequest nc.master (UInt16.ofNat r.request.index)).bytes nc.master.host)) :
    r.station.receive nc r.now r.request.payload r.setOk r.sendOk
      = if r.station.cfg.host = .little then
          ({ r.station with
              cls := clsSlmpScheduleNodeSearchResponse r.station.cls r.now nc.master.macAddress
                (r.station.addrInfo nc) (UInt16.ofNat r.request.index) },
            [.nodeSearchInd nc.master.macAddress nc.master.masterId])
        else (r.station, []) := by
  unfold SlmpStation.receive
  simp only
  rw [h, clsSlmpHandleInputFrame_search r.station.cfg (UInt16.ofNat r.request.index) nc.masterId
    r.station.cls r.now r.setOk r.sendOk (show (r.station.addrInfo nc).remoteIp = _ from rfl)]
  split <;> rfl

/-- a request for a new address in the slave -/
theorem SlmpReceipt.receive_address {slaveMacAddr : MacAddr} {newIp newNetmask : IpAddr}
    (hip : newIp ≠ ipaddrInvalid) (hmask : clUtilsIsNetmaskValid newNetmask = true)
    (h : r.request.payload = .ofBytes ((setIpRequest nc.master (UInt16.ofNat r.request.index)
      slaveMacAddr newIp newNetmask).bytes nc.master.host)) :
    r.station.receive nc r.now r.request.payload r.setOk r.sendOk
      = ((r.outs nc).foldl (fun s => s.apply r.setOk) r.station,
        if r.station.cfg.host = .little ∧ slaveMacAddr = r.station.mac
          then r.addressOuts nc newIp newNetmask else []) := by
  have hframe := clsSlmpHandleInputFrame_address r.station.cfg (UInt16.ofNat r.request.index) nc.masterId
    r.station.cls r.now r.setOk r.sendOk slaveMacAddr hip hmask
    (show (r.station.addrInfo nc).remoteIp = nc.master.masterId from rfl)
  rw [← h] at hframe
  have hcls := congrArg Prod.fst hframe
  have houts := congrArg Prod.snd hframe
  unfold SlmpReceipt.outs SlmpStation.receive
  simp only
  rw [hcls]
  exact congrArg (Prod.mk _) houts

end

theorem SlmpReceipt.receives {nc : SlmpNetConfig} (r : SlmpReceipt) {k : SlmpRequestKind}
    (h : SlmpBuilt nc.master (UInt16.ofNat r.request.index) k r.request.payload) : r.Receives nc := by
  generalize hpayload : r.request.payload = payload at h
  cases h with
  | nodeSearch =>
    have hreceive := receive_search hpayload
    by_cases hlittle : r.station.cfg.host = .little
    · rw [if_pos hlittle] at hreceive
      refine .search _ _ hreceive ⟨?_, ?_, rfl, rfl⟩ rfl
      · rw [hpayload]
        exact .nodeSearch
      · unfold outs
        rw [hreceive]
        exact List.mem_singleton_self _
    · rw [if_neg hlittle] at hreceive
      exact .answers _ _ hreceive rfl rfl rfl (Nat.zero_le _)
        (fun _ _ _ _ hmem => absurd hmem List.not_mem_nil)
  | setIp mac newIp newNetmask hip hmask =>
    have hreceive := receive_address hip hmask hpayload
    obtain ⟨hcls, hcfg, _⟩ := r.station.applied_cls r.setOk (r.outs nc)
    by_cases hself : r.station.cfg.host = .little ∧ mac = r.station.mac
    · rw [if_pos hself] at hreceive
      refine .answers _ _ hreceive hcls hcfg ?_ ?_ ?_
      · unfold addressOuts
        cases r.station.cfg.ipSettingAllowed <;> rfl
      · unfold addressOuts
        cases r.station.cfg.ipSettingAllowed <;> exact le_rfl
      · intro localIp remoteIp remotePort payload hmem
        have hresponse : payload = .ofBytes (setIpAnswer nc.master r.station.cfg
            (UInt16.ofNat r.request.index) (r.station.cfg.ipSettingAllowed && r.setOk)) := by
          unfold addressOuts at hmem
          cases hallowed : r.station.cfg.ipSettingAllowed <;> simp [hallowed] at hmem <;> simp [hmem]
        rw [hresponse]
        refine .address newIp newNetmask hip hmask ?_ hself.1
        rw [hpayload, hself.2]
    · rw [if_neg hself] at hreceive
      exact .answers _ _ hreceive hcls hcfg rfl (Nat.zero_le _)
        (fun _ _ _ _ hmem => absurd hmem List.not_mem_nil)

/-! ## the runs -/

namespace SlmpNetwork
variable {nc : SlmpNetConfig} {R R' : SlmpReceipt → Prop} {net net' : SlmpNetwork}

/-- slave `k` has received the request that it waits with -/
def WaitsFor (nc : SlmpNetConfig) (R : SlmpReceipt → Prop) (net : SlmpNetwork) (k : Nat) : Prop :=
  ∃ r, net.searches k = some r ∧ R r ∧ r.request.slave = k ∧ (net.stations k).Waits nc r

/-- the response answers one of the receipts -/
def Answers (nc : SlmpNetConfig) (R : SlmpReceipt → Prop) (q : SlmpResponseCopy) : Prop :=
  ∃ r, q.receipt = some r ∧ R r ∧ r.request.slave = q.slave ∧ SlmpAnswer nc r q.payload

/-- where the frames of the slaves come from, where `R` are the receipts so far -/
structure Origins (nc : SlmpNetConfig) (R : SlmpReceipt → Prop) (net : SlmpNetwork) : Prop where
  searches : ∀ k, (net.stations k).cls.responseTimer.state = .running → net.WaitsFor nc R k
  responses : ∀ q ∈ net.responses, Answers nc R q

/-- another slave -/
theorem WaitsFor.other {k : Nat} (h : net.WaitsFor nc R k) (hstations : net'.stations k = net.stations k)
    (hsearches : net'.searches k = net.searches k) : net'.WaitsFor nc R k := by
  unfold WaitsFor
  rw [hstations, hsearches]
  exact h

theorem Answers.mono (hR : ∀ r, R r → R' r) {q : SlmpResponseCopy} (h : Answers nc R q) :
    Answers nc R' q := by
  obtain ⟨r, hr, hRr, hslave, hanswer⟩ := h
  exact ⟨r, hr, hR r hRr, hslave, hanswer⟩

namespace Origins

theorem mono (h : Origins nc R net) (hR : ∀ r, R r → R' r) : Origins nc R' net := by
  refine ⟨?_, fun q hq => (h.responses q hq).mono hR⟩
  intro k hrunning
  obtain ⟨r, hr, hRr, hwaits⟩ := h.searches k hrunning
  exact ⟨r, hr, hR r hRr, hwaits⟩

/-- the slaves do not notice the step -/
theorem silent (h : Origins nc R net) (hstations : net'.stations = net.stations)
    (hsearches : net'.searches = net.searches) (hresponses : ∀ q ∈ net'.responses, q ∈ net.responses) :
    Origins nc R net' := by
  refine ⟨?_, fun q hq => h.responses q (hresponses q hq)⟩
  unfold WaitsFor
  rw [hstations, hsearches]
  exact h.searches

theorem loseRequest (h : Origins nc R net) (i : Nat) : Origins nc R (net.loseRequest i) :=
  h.silent rfl rfl (fun _ hq => hq)

theorem loseResponse (h : Origins nc R net) (i : Nat) : Origins nc R (net.loseResponse i) :=
  h.silent rfl rfl (fun _ hq => List.mem_of_mem_eraseIdx hq)

theorem masterStep (h : Origins nc R net) (e : SlmpEvent) : Origins nc R (net.masterStep nc e).1 := by
  obtain ⟨_, hstations, hsearches, hresponses⟩ := masterStep_rest nc net e
  exact h.silent hstations hsearches (fun _ hq => hresponses ▸ hq)

/-- the slave does not answer: it waits as before, or it does not wait -/
theorem setStation (h : Origins nc R net) (k : Nat) (s : SlmpStation)
    (hs : s.cls.responseTimer.state = .running
      → s.cls = (net.stations k).cls ∧ s.cfg = (net.stations k).cfg) :
    Origins nc R (net.setStation k s) := by
  refine ⟨?_, h.responses⟩
  intro j hrunning
  by_cases hj : j = k
  · subst hj
    rw [show (net.setStation j s).stations j = s from Function.update_self ..] at hrunning
    obtain ⟨hcls, hcfg⟩ := hs hrunning
    rw [hcls] at hrunning
    obtain ⟨r, hr, hRr, hslave, hwaits⟩ := h.searches j hrunning
    refine ⟨r, hr, hRr, hslave, ?_⟩
    rw [show (net.setStation j s).stations j = s from Function.update_self ..]
    exact ⟨hwaits.request, hwaits.ind, hcfg.trans hwaits.cfg, hcls.trans hwaits.cls⟩
  · have hother : (net.setStation k s).stations j = net.stations j := Function.update_of_ne hj ..
    rw [hother] at hrunning
    exact (h.searches j hrunning).other hother rfl

/-- the slave sends what it has waited with -/
theorem slaveTick (h : Origins nc R net) (k : Nat) (now : UInt32) (sendOk : Bool) :
    Origins nc R (net.slaveTick k now sendOk) := by
  rcases (net.stations k).tick_cases now sendOk with htick | ⟨hrunning, timer, hstopped, htick⟩
  · have hstation := h.setStation k ((net.stations k).tick now sendOk).1
      (by rw [htick]; exact fun _ => ⟨rfl, rfl⟩)
    refine ⟨hstation.searches, ?_⟩
    intro q hq
    unfold SlmpNetwork.slaveTick at hq
    rw [htick] at hq
    cases sendOk <;> simp at hq <;> exact h.responses q hq
  · have hstation := h.setStation k ((net.stations k).tick now sendOk).1
      (by rw [htick]; exact fun hrunning' => absurd (hrunning'.symm.trans hstopped) (by decide))
    refine ⟨hstation.searches, ?_⟩
    intro q hq
    obtain ⟨r, hr, hRr, hslave, hwaits⟩ := h.searches k hrunning
    obtain ⟨localIp, remoteIp, remotePort, hsends⟩ := hwaits.sends timer sendOk
    unfold SlmpNetwork.slaveTick at hq
    rw [htick, hsends] at hq
    rcases List.mem_append.mp hq with hq | hq
    · exact h.responses q hq
    · cases sendOk with
      | false => exact absurd hq List.not_mem_nil
      | true =>
        obtain rfl := List.mem_singleton.mp hq
        exact ⟨r, hr, hRr, hslave, .search hwaits.request hwaits.ind⟩

/-- a request of the master in the slave -/
theorem receive (h : Origins nc R net) (p : SlmpRequestCopy) (now : UInt32) (known setOk sendOk : Bool)
    {k : SlmpRequestKind} (hp : SlmpBuilt nc.master (UInt16.ofNat p.index) k p.payload)
    (hR : known = true → R { request := p, station := net.stations p.slave, now := now
                             setOk := setOk, sendOk := sendOk }) :
    Origins nc R (net.receive nc p now known setOk sendOk) := by
  cases known with
  | false => exact h
  | true =>
    have hRr := hR rfl
    cases SlmpReceipt.receives ⟨p, net.stations p.slave, now, setOk, sendOk⟩ hp with
    | search after outs hreceive hwaits houts =>
      rw [receive_eq hreceive, houts]
      refine ⟨?_, ?_⟩
      · intro j hrunning
        by_cases hj : j = p.slave
        · subst hj
          refine ⟨_, Function.update_self .., hRr, rfl, ?_⟩
          show (Function.update net.stations p.slave after p.slave).Waits nc _
          rw [Function.update_self]
          exact hwaits
        · have hother : (net.setStation p.slave after).stations j = net.stations j :=
            Function.update_of_ne hj ..
          have hrunning' : (net.stations j).cls.responseTimer.state = .running := hother ▸ hrunning
          exact (h.searches j hrunning').other hother (Function.update_of_ne hj ..)
      · intro q hq
        rw [show [SlmpSlaveOutput.nodeSearchInd nc.master.macAddress nc.master.masterId].filterMap
          (SlmpSlaveOutput.copy p.slave _) = [] from rfl, ite_self, List.append_nil] at hq
        exact h.responses q hq
    | answers after outs hreceive hcls hcfg hind _ houts =>
      rw [receive_eq hreceive, hind]
      have hstation := h.setStation p.slave after (fun _ => ⟨hcls, hcfg⟩)
      refine ⟨hstation.searches, ?_⟩
      intro q hq
      rcases List.mem_append.mp hq with hq | hq
      · exact h.responses q hq
      · cases sendOk with
        | false => exact absurd hq List.not_mem_nil
        | true =>
          obtain ⟨x, hx, hcopy⟩ := List.mem_filterMap.mp hq
          cases x with
          | response localIp remoteIp remotePort payload =>
            obtain rfl := Option.some.inj hcopy
            exact ⟨_, rfl, hRr, rfl, houts localIp remoteIp remotePort payload hx⟩
          | _ => cases hcopy

end Origins

end SlmpNetwork

namespace SlmpNetStart
variable (st : SlmpNetStart)

/-- the payload of a request on its way -/
theorem run_built (es : List SlmpNetEvent) {p : SlmpRequestCopy} (hp : p ∈ (st.run es).1.requests) :
    ∃ k, SlmpBuilt st.nc.master (UInt16.ofNat p.index) k p.payload := by
  obtain ⟨k, hk⟩ := (st.run_requests es p hp).sent
  exact ⟨k, (st.run_master es).1.drawn.built p.index _ hk k p.payload rfl⟩

/-- the waiting slaves and the responses of a run -/
theorem run_origins (es : List SlmpNetEvent) :
    SlmpNetwork.Origins st.nc (st.Received es) (st.run es).1 := by
  induction es using List.reverseRecOn with
  | nil =>
    refine ⟨?_, fun q hq => absurd hq List.not_mem_nil⟩
    intro k hrunning
    cases hrunning
  | append_singleton es e ih =>
    have hmono := ih.mono (fun r (hr : st.Received es r) => hr.concat e)
    rw [st.run_concat]
    cases e with
    | master e =>
      simp only [slmpNetStep]
      split
      · exact hmono
      · exact hmono.masterStep e
    | slave k now sendOk => exact hmono.slaveTick k now sendOk
    | restart k cfg => exact hmono.setStation k _ (fun hrunning => by cases hrunning)
    | readdress k ip netmask => exact hmono.setStation k _ (fun _ => ⟨rfl, rfl⟩)
    | loseRequest i => exact hmono.loseRequest i
    | loseResponse i => exact hmono.loseResponse i
    | deliverRequest i now known sendOk setOk sendAnswerOk =>
      simp only [slmpNetStep]
      split
      · exact hmono
      · rename_i p hp
        obtain ⟨k, hbuilt⟩ := st.run_built es (List.mem_of_getElem? hp)
        have htick := (hmono.loseRequest i).slaveTick p.slave now sendOk
        refine htick.receive p now known setOk sendAnswerOk hbuilt ?_
        rintro rfl
        rw [show (((st.run es).1.loseRequest i).slaveTick p.slave now sendOk).stations p.slave
          = (((st.run es).1.stations p.slave).tick now sendOk).1 from Function.update_self ..]
        exact ReceivedAt.received (.mk i p now sendOk setOk sendAnswerOk hp)
    | deliverResponse i ifindex calls =>
      simp only [slmpNetStep]
      split
      · exact hmono
      · rename_i q _
        exact (hmono.loseResponse i).masterStep (.frame q.payload ifindex calls)

end SlmpNetStart

end CLink
