import CLink.EndToEnd.SlmpDelivery
import CLink.Lib.History
import CLink.Slmp.SearchResponses
import CLink.Slmp.Serials

/-!
# The network of SLMP

A master and any number of slaves.  Requests are broadcast; what a slave sends may reach the master.
The network can lose and delay every frame, and frames overtake each other; it does not change, copy or
make them.

* `SlmpStation`        a slave with the settings of its interface;
* `SlmpReceipt`        a request that a slave has received;
* `slmpNetStep`        what can happen in the network;
* `SlmpNetStart`       the start of all stations, and its runs;
* `SlmpNetStart.Received`   the receipts of a run;
* `SlmpNetStart.run_inv`    what is on its way has been sent.
-/

namespace CLink
open Bytes Trace SlmpMaster SlmpOutput

/-- the master, the UDP port that it sends from, and the number of slaves -/
structure SlmpNetConfig where
  master : SlmpMasterConfig
  port : UInt16
  numSlaves : Nat
  masterId : master.masterId ≠ ipaddrInvalid

structure SlmpStation where
  cfg : SlmpSlaveConfig
  mac : MacAddr
  ifindex : Int
  ip : IpAddr
  netmask : IpAddr
  cls : SlmpSlave

/-- the copy of a request that is on its way to one slave; the master has drawn `index` serial numbers
before that of the request -/
structure SlmpRequestCopy where
  index : Nat
  slave : Nat
  payload : Datagram

/-- a request in the slave, with the results of the operating system -/
structure SlmpReceipt where
  request : SlmpRequestCopy
  station : SlmpStation
  now : UInt32
  setOk : Bool
  sendOk : Bool

/-- a response on its way to the master, with the request that it answers -/
structure SlmpResponseCopy where
  slave : Nat
  payload : Datagram
  receipt : Option SlmpReceipt

/-- `searches` has the node search requests that wait for their response, `drawn` counts the serial
numbers of the master -/
structure SlmpNetwork where
  master : SlmpMaster
  stations : Nat → SlmpStation
  searches : Nat → Option SlmpReceipt
  requests : List SlmpRequestCopy
  responses : List SlmpResponseCopy
  drawn : Nat

/-! ## a slave -/

namespace SlmpStation
variable (s : SlmpStation)

/-- a frame of the master, as the socket of the slave gives it -/
def addrInfo (nc : SlmpNetConfig) : AddrInfo :=
  { remoteIp := nc.master.masterId, remotePort := nc.port, localIp := s.ip, localNetmask := s.netmask
    localMacAddress := s.mac, ifindex := s.ifindex }

def restart (cfg : SlmpSlaveConfig) : SlmpStation :=
  { s with cfg := cfg, cls := clsSlmpInit s.cls }

/-- the first part of `cls_slmp_periodic` -/
def tick (now : UInt32) (sendOk : Bool) : SlmpStation × List SlmpSlaveOutput :=
  let t := checkResponseTimer s.cfg s.cls now sendOk
  ({ s with cls := t.1 }, t.2)

/-- what the operating system does -/
def apply (setOk : Bool) : SlmpSlaveOutput → SlmpStation
  | .setNetworkSettings _ ip netmask =>
    if setOk then { s with ip := ip, netmask := netmask } else s
  | _ => s

/-- the second part, with a frame of the master -/
def receive (nc : SlmpNetConfig) (now : UInt32) (dg : Datagram) (setOk sendOk : Bool) :
    SlmpStation × List SlmpSlaveOutput :=
  let t := (clsSlmpHandleInputFrame s.cfg s.cls now dg (s.addrInfo nc) setOk sendOk).2
  (t.2.foldl (fun s => s.apply setOk) { s with cls := t.1 }, t.2)

theorem applied_cls (setOk : Bool) (outs : List SlmpSlaveOutput) :
    (outs.foldl (fun s => s.apply setOk) s).cls = s.cls
      ∧ (outs.foldl (fun s => s.apply setOk) s).cfg = s.cfg
      ∧ (outs.foldl (fun s => s.apply setOk) s).mac = s.mac := by
  induction outs generalizing s with
  | nil => exact ⟨rfl, rfl, rfl⟩
  | cons x outs ih =>
    obtain ⟨hcls, hcfg, hmac⟩ := ih (s.apply setOk x)
    have hx : (s.apply setOk x).cls = s.cls ∧ (s.apply setOk x).cfg = s.cfg
        ∧ (s.apply setOk x).mac = s.mac := by
      cases x with
      | setNetworkSettings ifindex ip netmask =>
        unfold apply
        simp only
        split <;> exact ⟨rfl, rfl, rfl⟩
      | _ => exact ⟨rfl, rfl, rfl⟩
    exact ⟨hcls.trans hx.1, hcfg.trans hx.2.1, hmac.trans hx.2.2⟩

/-- both parts are `cls_slmp_periodic` -/
theorem periodic_eq (nc : SlmpNetConfig) (now : UInt32) (dg : Datagram) (sendOk setOk sendAnswerOk : Bool) :
    clsSlmpPeriodic s.cfg s.cls now (some (dg, some (s.addrInfo nc))) sendOk setOk sendAnswerOk
      = (((s.tick now sendOk).1.receive nc now dg setOk sendAnswerOk).1.cls,
          (s.tick now sendOk).2 ++ ((s.tick now sendOk).1.receive nc now dg setOk sendAnswerOk).2) := by
  unfold receive
  simp only
  rw [(applied_cls _ _ _).1]
  rfl

end SlmpStation

/-- what the slave has put out because of the request -/
def SlmpReceipt.outs (r : SlmpReceipt) (nc : SlmpNetConfig) : List SlmpSlaveOutput :=
  (r.station.receive nc r.now r.request.payload r.setOk r.sendOk).2

def SlmpSlaveOutput.isSearchInd : SlmpSlaveOutput → Bool
  | nodeSearchInd _ _ => true
  | _ => false

def SlmpSlaveOutput.isResponse : SlmpSlaveOutput → Bool
  | response _ _ _ _ => true
  | _ => false

/-- a response of slave `k` -/
def SlmpSlaveOutput.copy (k : Nat) (receipt : Option SlmpReceipt) :
    SlmpSlaveOutput → Option SlmpResponseCopy
  | response _ _ _ payload => some { slave := k, payload := payload, receipt := receipt }
  | _ => none

/-! ## the network -/

namespace SlmpNetwork
variable (net : SlmpNetwork)

/-- what the master sends -/
def emit (nc : SlmpNetConfig) : SlmpOutput → SlmpNetwork
  | .sent _ payload =>
    { net with
      requests := net.requests ++ (List.range nc.numSlaves).map fun k =>
        { index := net.drawn, slave := k, payload := payload }
      drawn := net.drawn + 1 }
  | .sendFailed _ => { net with drawn := net.drawn + 1 }
  | _ => net

def masterStep (nc : SlmpNetConfig) (e : SlmpEvent) : SlmpNetwork × List SlmpOutput :=
  let t := slmpStep nc.master net.master e
  (t.2.foldl (fun net => net.emit nc) { net with master := t.1 }, t.2)

def loseRequest (i : Nat) : SlmpNetwork := { net with requests := net.requests.eraseIdx i }

def loseResponse (i : Nat) : SlmpNetwork := { net with responses := net.responses.eraseIdx i }

def setStation (k : Nat) (s : SlmpStation) : SlmpNetwork :=
  { net with stations := Function.update net.stations k s }

/-- a response that could not be sent is lost -/
def slaveTick (k : Nat) (now : UInt32) (sendOk : Bool) : SlmpNetwork :=
  let t := (net.stations k).tick now sendOk
  { net.setStation k t.1 with
    responses := net.responses
      ++ if sendOk then t.2.filterMap (SlmpSlaveOutput.copy k (net.searches k)) else [] }

/-- a request in slave `k`; without `known` the slave does not learn its own addresses -/
def receive (nc : SlmpNetConfig) (p : SlmpRequestCopy) (now : UInt32) (known setOk sendOk : Bool) :
    SlmpNetwork :=
  let s := net.stations p.slave
  let t := s.receive nc now p.payload setOk sendOk
  let r : SlmpReceipt :=
    { request := p, station := s, now := now, setOk := setOk, sendOk := sendOk }
  if known then
    { net.setStation p.slave t.1 with
      searches :=
        if t.2.any SlmpSlaveOutput.isSearchInd then Function.update net.searches p.slave (some r)
        else net.searches
      responses := net.responses
        ++ if sendOk then t.2.filterMap (SlmpSlaveOutput.copy p.slave (some r)) else [] }
  else net

end SlmpNetwork

def SlmpEvent.isFrame : SlmpEvent → Bool
  | frame _ _ _ => true
  | _ => false

inductive SlmpNetEvent where
  /-- timers of the master or a call of its application -/
  | master (e : SlmpEvent)
  /-- a call of `cls_slmp_periodic` without a frame -/
  | slave (k : Nat) (now : UInt32) (sendOk : Bool)
  /-- a slave starts again, perhaps with another configuration -/
  | restart (k : Nat) (cfg : SlmpSlaveConfig)
  /-- somebody else sets the address of a slave -/
  | readdress (k : Nat) (ip netmask : IpAddr)
  /-- the request at position `i` reaches its slave -/
  | deliverRequest (i : Nat) (now : UInt32) (known sendOk setOk sendAnswerOk : Bool)
  /-- the response at position `i` reaches an interface of the master -/
  | deliverResponse (i : Nat) (ifindex : Int) (calls : List SlmpCall)
  | loseRequest (i : Nat)
  | loseResponse (i : Nat)

def slmpNetStep (nc : SlmpNetConfig) (net : SlmpNetwork) :
    SlmpNetEvent → SlmpNetwork × List SlmpOutput
  | .master e => if e.isFrame then (net, []) else net.masterStep nc e
  | .slave k now sendOk => (net.slaveTick k now sendOk, [])
  | .restart k cfg =>
    (net.setStation k ((net.stations k).restart cfg), [])
  | .readdress k ip netmask =>
    (net.setStation k { net.stations k with ip := ip, netmask := netmask }, [])
  | .deliverRequest i now known sendOk setOk sendAnswerOk =>
    match net.requests[i]? with
    | none => (net, [])
    | some p =>
      (((net.loseRequest i).slaveTick p.slave now sendOk).receive nc p now known setOk sendAnswerOk, [])
  | .deliverResponse i ifindex calls =>
    match net.responses[i]? with
    | none => (net, [])
    | some q => (net.loseResponse i).masterStep nc (.frame q.payload ifindex calls)
  | .loseRequest i => (net.loseRequest i, [])
  | .loseResponse i => (net.loseResponse i, [])

def slmpNetwork (nc : SlmpNetConfig) : Machine SlmpNetwork SlmpNetEvent SlmpOutput where
  step := slmpNetStep nc

/-- the stations before `clm_slmp_init` and `cls_slmp_init` -/
structure SlmpNetStart where
  nc : SlmpNetConfig
  clm : SlmpMaster
  slaves : Nat → SlmpStation

namespace SlmpNetStart
variable (st : SlmpNetStart)

def init : SlmpNetwork :=
  { master := clmSlmpInit st.clm, stations := fun k => (st.slaves k).restart (st.slaves k).cfg
    searches := fun _ => none, requests := [], responses := [], drawn := 0 }

/-- the network and the outputs of the master -/
def run (es : List SlmpNetEvent) : SlmpNetwork × List SlmpOutput := (slmpNetwork st.nc).run st.init es

theorem run_concat (es : List SlmpNetEvent) (e : SlmpNetEvent) :
    st.run (es ++ [e]) = ((slmpNetStep st.nc (st.run es).1 e).1,
      (st.run es).2 ++ (slmpNetStep st.nc (st.run es).1 e).2) :=
  (slmpNetwork st.nc).run_concat st.init es e

/-- the receipt of a step -/
inductive ReceivedAt (net : SlmpNetwork) : SlmpNetEvent → SlmpReceipt → Prop where
  | mk (i : Nat) (p : SlmpRequestCopy) (now : UInt32) (sendOk setOk sendAnswerOk : Bool)
      (hp : net.requests[i]? = some p) :
      ReceivedAt net (.deliverRequest i now true sendOk setOk sendAnswerOk)
        { request := p, station := ((net.stations p.slave).tick now sendOk).1, now := now
          setOk := setOk, sendOk := sendAnswerOk }

/-- a receipt of the run -/
def Received (es : List SlmpNetEvent) (r : SlmpReceipt) : Prop :=
  ∃ pre e post, es = pre ++ e :: post ∧ ReceivedAt (st.run pre).1 e r

section
variable {st} {es : List SlmpNetEvent} {r : SlmpReceipt}

theorem Received.concat (h : st.Received es r) (e : SlmpNetEvent) : st.Received (es ++ [e]) r := by
  obtain ⟨pre, e', post, rfl, hr⟩ := h
  exact ⟨pre, e', post ++ [e], by rw [List.append_assoc, List.cons_append], hr⟩

theorem ReceivedAt.received {e : SlmpNetEvent} (h : ReceivedAt (st.run es).1 e r) :
    st.Received (es ++ [e]) r := ⟨es, e, [], rfl, h⟩

end

end SlmpNetStart

/-! ## what the master has sent -/

/-- a request with a serial number -/
inductive SlmpBuilt (mcfg : SlmpMasterConfig) (serial : UInt16) : SlmpRequestKind → Datagram → Prop where
  | nodeSearch :
    SlmpBuilt mcfg serial .nodeSearch (.ofBytes ((nodeSearchRequest mcfg serial).bytes mcfg.host))
  | setIp (slaveMacAddr : MacAddr) (newIp newNetmask : IpAddr) (hip : newIp ≠ ipaddrInvalid)
      (hmask : clUtilsIsNetmaskValid newNetmask = true) :
    SlmpBuilt mcfg serial .setIp (.ofBytes ((setIpRequest mcfg serial slaveMacAddr newIp
      newNetmask).bytes mcfg.host))

theorem performCall_built {mcfg : SlmpMasterConfig} {clm : SlmpMaster} {c : SlmpCall}
    {k : SlmpRequestKind} {payload : Datagram} (h : .sent k payload ∈ (performCall mcfg clm c).2) :
    SlmpBuilt mcfg clm.slmpRequestSerial k payload := by
  cases c with
  | performNodeSearch now sendOk =>
    simp only [performCall, clmSlmpPerformNodeSearch] at h
    split at h
    · simp at h
    split at h
    · simp at h
    · simp only [List.mem_singleton, sent.injEq] at h
      obtain ⟨rfl, rfl⟩ := h
      simp only [Int.toNat_natCast, UInt16.ofNat_toNat]
      exact .nodeSearch
  | performSetIpaddrRequest now mac ip netmask sendOk =>
    simp only [performCall, clmSlmpPerformSetIpaddrRequest] at h
    split at h
    · simp at h
    split at h
    · simp at h
    split at h
    · simp at h
    split at h
    · simp at h
    · rename_i hip hmask _
      simp only [List.mem_singleton, sent.injEq] at h
      obtain ⟨rfl, rfl⟩ := h
      simp only [Int.toNat_natCast, UInt16.ofNat_toNat]
      exact .setIp mac ip netmask hip (by simpa using hmask)

/-- the counter, and the request of every serial number -/
structure SlmpDrawn (mcfg : SlmpMasterConfig) (hist : List SlmpOutput) (clm : SlmpMaster) : Prop where
  counter : clm.slmpRequestSerial = UInt16.ofNat (hist.filter isDraw).length
  built : Numbered isDraw (fun i x => ∀ k payload, x = .sent k payload →
    SlmpBuilt mcfg (UInt16.ofNat i) k payload) hist

namespace SlmpDrawn
variable {mcfg : SlmpMasterConfig} {hist outs : List SlmpOutput} {clm clm' : SlmpMaster}

theorem silent (h : SlmpDrawn mcfg hist clm) (hcounter : clm'.slmpRequestSerial = clm.slmpRequestSerial)
    (hdraw : ∀ x ∈ outs, isDraw x = false) : SlmpDrawn mcfg (hist ++ outs) clm' := by
  refine ⟨?_, h.built.silent hdraw⟩
  rw [Numbered.filter_silent hdraw, hcounter]
  exact h.counter

theorem draw (h : SlmpDrawn mcfg hist clm) {x : SlmpOutput} (hx : isDraw x = true)
    (hcounter : clm'.slmpRequestSerial = clm.slmpRequestSerial + 1)
    (hbuilt : ∀ k payload, x = .sent k payload → SlmpBuilt mcfg clm.slmpRequestSerial k payload) :
    SlmpDrawn mcfg (hist ++ [x]) clm' := by
  have hfilter : [x].filter isDraw = [x] := List.filter_cons_of_pos hx
  refine ⟨?_, h.built.one hfilter ?_⟩
  · rw [hcounter, h.counter, List.filter_append, hfilter, List.length_append, UInt16.ofNat_add]
    rfl
  · rw [← h.counter]
    exact hbuilt

theorem call (h : SlmpDrawn mcfg hist clm) (c : SlmpCall) :
    SlmpDrawn mcfg (hist ++ (performCall mcfg clm c).2) (performCall mcfg clm c).1 := by
  have hstep := performCall_step mcfg clm c
  have hbuilt {k : SlmpRequestKind} {payload : Datagram}
      (hmem : .sent k payload ∈ (performCall mcfg clm c).2) := performCall_built hmem
  generalize (performCall mcfg clm c).1 = clm' at hstep
  generalize (performCall mcfg clm c).2 = outs at hstep hbuilt
  cases hstep with
  | blocked => exact h.silent rfl (fun x hx => List.mem_singleton.mp hx ▸ rfl)
  | sendFailed _ _ _ _ drawn => exact h.draw rfl drawn (fun k payload hx => SlmpOutput.noConfusion hx)
  | sent _ payload _ _ _ _ drawn =>
    refine h.draw rfl drawn ?_
    intro k payload' hx
    exact hbuilt (List.mem_singleton.mpr hx.symm)

theorem calls (h : SlmpDrawn mcfg hist clm) (calls : List SlmpCall) :
    SlmpDrawn mcfg (hist ++ ((slmpCalls mcfg).run clm calls).2) ((slmpCalls mcfg).run clm calls).1 :=
  (slmpCalls mcfg).run_inv (c := fun _ _ => True) (I := SlmpDrawn mcfg) (fun _ _ c hs _ => hs.call c)
    hist h (.of_all _ (fun _ _ => trivial) _ _)

theorem move (h : SlmpDrawn mcfg hist clm) (hm : SlmpMove mcfg clm outs clm') :
    SlmpDrawn mcfg (hist ++ outs) clm' := by
  cases hm with
  | notify hpending hn =>
    next k x calls =>
    obtain ⟨hcfm, inCfm, _, _, _, hcounter, rfl, _, _, _, hcounters⟩ := hn
    have hin : SlmpDrawn mcfg (hist ++ [x]) inCfm :=
      h.silent hcounter (fun y hy => List.mem_singleton.mp hy ▸ (isDraw_of_isCfm hcfm).2)
    have hend := (hin.calls calls).silent hcounters (fun y hy => absurd hy List.not_mem_nil)
    rw [List.append_nil] at hend
    rwa [List.append_cons]
  | database _ _ hcounter => exact h.silent hcounter (fun y hy => absurd hy List.not_mem_nil)

theorem step (h : SlmpDrawn mcfg hist clm) (e : SlmpEvent) :
    SlmpDrawn mcfg (hist ++ (slmpStep mcfg clm e).2) (slmpStep mcfg clm e).1 := by
  cases e with
  | call c => exact h.call c
  | frame dg ifindex calls =>
    exact (clmSlmpHandleInputFrame_moves mcfg clm dg ifindex calls).inv
      (fun _ _ _ _ hm hs => hs.move hm) hist h
  | checkTimeouts now inNodeSearchCfm inSetIpCfm =>
    exact (clmSlmpCheckTimeouts_moves mcfg clm now inNodeSearchCfm inSetIpCfm).inv
      (fun _ _ _ _ hm hs => hs.move hm) hist h

end SlmpDrawn

end CLink
