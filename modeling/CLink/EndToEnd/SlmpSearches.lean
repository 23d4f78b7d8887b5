import CLink.EndToEnd.SlmpTruth
import CLink.Lib.InTransit
import CLink.Slmp.NodeSearchDb

/-!
# What a node search finds

* `SlmpNetwork.load`        where the request to a slave, or its response, is;
* `Once`                    it is in one place at most;
* `KeepsDb`                 an invariant of the database that the master keeps on its own;
* `SearchSources`           the receipts that a database comes from;
* `SlmpNetStart.searched`   a reported database has every slave at most once, as it was.
-/

namespace CLink
open Bytes Trace SlmpMaster SlmpOutput

/-! ## a request and its response are in one place -/

/-- request `i` to slave `k` -/
def SlmpRequestCopy.isAt (i k : Nat) (p : SlmpRequestCopy) : Bool := p.index = i ∧ p.slave = k

/-- a response of slave `k` to request `i` -/
def SlmpResponseCopy.isAt (i k : Nat) (q : SlmpResponseCopy) : Bool :=
  q.slave = k ∧ q.receipt.any (fun r => r.request.index = i)

namespace SlmpNetwork
variable {net net' : SlmpNetwork} {nc : SlmpNetConfig}

/-- slave `k` waits with the response to request `i` -/
def waitsAt (net : SlmpNetwork) (i k : Nat) : Bool :=
  (net.stations k).cls.responseTimer.state = .running ∧ (net.searches k).any (fun r => r.request.index = i)

/-- how many of the frames and of the waiting slaves belong to request `i` to slave `k` -/
def load (net : SlmpNetwork) (i k : Nat) : Nat :=
  net.requests.countP (SlmpRequestCopy.isAt i k) + (net.waitsAt i k).toNat
    + net.responses.countP (SlmpResponseCopy.isAt i k)

structure Once (net : SlmpNetwork) : Prop where
  once : ∀ i k, net.load i k ≤ 1
  drawn : ∀ i k, net.drawn ≤ i → net.load i k = 0

/-- no new request -/
theorem Once.mono (h : Once net) (hload : ∀ i k, net'.load i k ≤ net.load i k)
    (hdrawn : net'.drawn = net.drawn) : Once net' := by
  refine ⟨fun i k => (hload i k).trans (h.once i k), ?_⟩
  intro i k hi
  exact Nat.eq_zero_of_le_zero ((hload i k).trans (h.drawn i k (hdrawn ▸ hi)).le)

/-- a broadcast -/
theorem countP_broadcast (n d i k : Nat) (payload : Datagram) :
    ((List.range n).map fun j => SlmpRequestCopy.mk d j payload).countP (SlmpRequestCopy.isAt i k)
      ≤ if i = d then 1 else 0 := by
  rw [List.countP_map]
  by_cases hi : i = d
  · have hone : (List.range n).count k ≤ 1 := List.nodup_iff_count_le_one.mp List.nodup_range k
    rw [if_pos hi]
    refine le_trans (List.countP_mono_left ?_) hone
    intro j _ hj
    simp only [Function.comp_apply, SlmpRequestCopy.isAt, decide_eq_true_eq] at hj
    rw [hj.2]
    exact beq_self_eq_true k
  · rw [if_neg hi, Nat.le_zero, List.countP_eq_zero]
    intro j _ hj
    simp only [Function.comp_apply, SlmpRequestCopy.isAt, decide_eq_true_eq] at hj
    exact hi hj.1.symm

/-- one output of the master -/
theorem load_emit (nc : SlmpNetConfig) (net : SlmpNetwork) (x : SlmpOutput) (i k : Nat) :
    (net.emit nc x).load i k ≤ net.load i k + (if i = net.drawn then 1 else 0)
      ∧ net.drawn ≤ (net.emit nc x).drawn
      ∧ ((net.emit nc x).drawn = net.drawn → (net.emit nc x).load i k = net.load i k) := by
  cases x with
  | sent j payload =>
    have hnew := countP_broadcast nc.numSlaves net.drawn i k payload
    refine ⟨?_, Nat.le_succ _, fun h => absurd h (Nat.succ_ne_self _)⟩
    have hload : (net.emit nc (.sent j payload)).load i k
        = (net.requests ++ (List.range nc.numSlaves).map fun j => SlmpRequestCopy.mk net.drawn j payload).countP
            (SlmpRequestCopy.isAt i k) + (net.waitsAt i k).toNat
          + net.responses.countP (SlmpResponseCopy.isAt i k) := rfl
    rw [hload, List.countP_append]
    unfold load
    omega
  | sendFailed => exact ⟨Nat.le_add_right _ _, Nat.le_succ _, fun _ => rfl⟩
  | _ => exact ⟨Nat.le_add_right _ _, le_rfl, fun _ => rfl⟩

/-- an old request -/
theorem load_emit_old (net : SlmpNetwork) (x : SlmpOutput) {i : Nat} (hi : i < net.drawn) (k : Nat)
    (hzero : net.load i k = 0) : i < (net.emit nc x).drawn ∧ (net.emit nc x).load i k = 0 := by
  obtain ⟨hload, hle, _⟩ := load_emit nc net x i k
  rw [if_neg hi.ne] at hload
  exact ⟨hi.trans_le hle, by omega⟩

theorem Once.emit (h : Once net) (x : SlmpOutput) : Once (net.emit nc x) := by
  refine ⟨?_, ?_⟩
  · intro i k
    obtain ⟨hload, _⟩ := load_emit nc net x i k
    have hone := h.once i k
    have hzero := h.drawn i k
    split at hload <;> omega
  · intro i k hi
    obtain ⟨hload, hle, hsame⟩ := load_emit nc net x i k
    have hzero := h.drawn i k (hle.trans hi)
    rcases hle.eq_or_lt with heq | hlt
    · rw [hsame heq.symm]
      exact hzero
    · rw [if_neg (by omega)] at hload
      omega

/-- a step of the master -/
theorem Once.masterStep (h : Once net) (nc : SlmpNetConfig) (e : SlmpEvent) :
    Once (net.masterStep nc e).1 := by
  have hemits : ∀ (outs : List SlmpOutput) (net : SlmpNetwork), Once net →
      Once (outs.foldl (fun net => net.emit nc) net) := by
    intro outs
    induction outs with
    | nil => exact fun net h => h
    | cons x outs ih => exact fun net h => ih _ (h.emit x)
  exact hemits _ _ ⟨h.once, h.drawn⟩

theorem load_masterStep_old (net : SlmpNetwork) (nc : SlmpNetConfig) (e : SlmpEvent) {i : Nat}
    (hi : i < net.drawn) (k : Nat) (hzero : net.load i k = 0) : (net.masterStep nc e).1.load i k = 0 := by
  have hemits : ∀ (outs : List SlmpOutput) (net : SlmpNetwork), i < net.drawn → net.load i k = 0 →
      (outs.foldl (fun net => net.emit nc) net).load i k = 0 := by
    intro outs
    induction outs with
    | nil => exact fun net _ hzero => hzero
    | cons x outs ih =>
      intro net hi hzero
      obtain ⟨hi', hzero'⟩ := load_emit_old net x hi k hzero
      exact ih _ hi' hzero'
  exact hemits _ { net with master := (slmpStep nc.master net.master e).1 } hi hzero

/-! ## frames that are lost, and slaves -/

/-- a request leaves -/
theorem load_loseRequest {i : Nat} {p : SlmpRequestCopy} (hp : net.requests[i]? = some p) (a k : Nat) :
    (net.loseRequest i).load a k + (p.isAt a k).toNat = net.load a k := by
  obtain ⟨before, after, hsplit, herase⟩ := InTransit.eraseIdx_split hp
  have hload : (net.loseRequest i).load a k = (net.requests.eraseIdx i).countP (SlmpRequestCopy.isAt a k)
      + (net.waitsAt a k).toNat + net.responses.countP (SlmpResponseCopy.isAt a k) := rfl
  rw [hload, herase]
  unfold load
  rw [hsplit, List.countP_append, List.countP_append, List.countP_cons]
  cases p.isAt a k with
  | false => simp
  | true =>
    simp only [if_true, Bool.toNat_true]
    omega

/-- a response leaves -/
theorem load_loseResponse {i : Nat} {q : SlmpResponseCopy} (hq : net.responses[i]? = some q) (a k : Nat) :
    (net.loseResponse i).load a k + (q.isAt a k).toNat = net.load a k := by
  obtain ⟨before, after, hsplit, herase⟩ := InTransit.eraseIdx_split hq
  have hload : (net.loseResponse i).load a k = net.requests.countP (SlmpRequestCopy.isAt a k)
      + (net.waitsAt a k).toNat + (net.responses.eraseIdx i).countP (SlmpResponseCopy.isAt a k) := rfl
  rw [hload, herase]
  unfold load
  rw [hsplit, List.countP_append, List.countP_append, List.countP_cons]
  cases q.isAt a k with
  | false => simp
  | true =>
    simp only [if_true, Bool.toNat_true]
    omega

/-- the responses among the outputs of a slave -/
theorem countP_copies {outs : List SlmpSlaveOutput} (hone : outs.countP SlmpSlaveOutput.isResponse ≤ 1)
    (j : Nat) (receipt : Option SlmpReceipt) (i k : Nat) :
    (outs.filterMap (SlmpSlaveOutput.copy j receipt)).countP (SlmpResponseCopy.isAt i k)
      ≤ (decide (j = k ∧ receipt.any (fun r => r.request.index = i))).toNat := by
  have hlen : (outs.filterMap (SlmpSlaveOutput.copy j receipt)).length ≤ 1 := by
    refine le_trans (le_of_eq ?_) hone
    rw [List.length_filterMap_eq_countP]
    congr 1
    funext x
    cases x <;> rfl
  by_cases hat : j = k ∧ receipt.any (fun r => r.request.index = i)
  · rw [decide_eq_true hat]
    exact List.countP_le_length.trans hlen
  · rw [decide_eq_false hat]
    refine (List.countP_eq_zero.mpr ?_).le
    intro q hq
    obtain ⟨x, _, hcopy⟩ := List.mem_filterMap.mp hq
    cases x with
    | response =>
      obtain rfl := Option.some.inj hcopy
      simpa [SlmpResponseCopy.isAt] using hat
    | _ => cases hcopy

/-- a slave changes, and perhaps sends something -/
theorem load_le (extra : Nat) {i k : Nat} (hrequests : net'.requests = net.requests)
    (hslave : (net'.waitsAt i k).toNat + net'.responses.countP (SlmpResponseCopy.isAt i k)
      ≤ (net.waitsAt i k).toNat + net.responses.countP (SlmpResponseCopy.isAt i k) + extra) :
    net'.load i k ≤ net.load i k + extra := by
  unfold load
  rw [hrequests]
  omega

theorem load_setStation (net : SlmpNetwork) (j : Nat) {s : SlmpStation}
    (hs : s.cls.responseTimer.state = .running → (net.stations j).cls.responseTimer.state = .running)
    (i k : Nat) : (net.setStation j s).load i k ≤ net.load i k := by
  refine load_le 0 rfl (Nat.add_le_add_right ?_ _)
  by_cases hk : k = j
  · subst hk
    unfold waitsAt
    rw [show (net.setStation k s).stations k = s from Function.update_self ..]
    apply Bool.toNat_le_toNat
    intro hwaits
    rw [decide_eq_true_eq] at hwaits ⊢
    exact ⟨hs hwaits.1, hwaits.2⟩
  · unfold waitsAt
    rw [show (net.setStation j s).stations k = net.stations k from Function.update_of_ne hk ..]
    exact le_rfl

theorem load_slaveTick (net : SlmpNetwork) (j : Nat) (now : UInt32) (sendOk : Bool) (i k : Nat) :
    (net.slaveTick j now sendOk).load i k ≤ net.load i k := by
  rcases (net.stations j).tick_cases now sendOk with htick | ⟨hrunning, timer, hstopped, htick⟩
  · have hstation := net.load_setStation j
      (show ((net.stations j).tick now sendOk).1.cls.responseTimer.state = .running → _ by
        rw [htick]
        exact id) i k
    refine le_trans (le_of_eq ?_) hstation
    unfold slaveTick
    simp only [htick, List.filterMap_nil, ite_self, List.append_nil]
    rfl
  · have hone : ((net.stations j).tick now sendOk).2.countP SlmpSlaveOutput.isResponse ≤ 1 := by
      rw [htick]
      unfold clsSlmpSendNodeSearchResponse
      split
      · exact Nat.zero_le _
      · exact le_rfl
    have hcopies := countP_copies hone j (net.searches j) i k
    have hwaits : ((net.slaveTick j now sendOk).waitsAt i k).toNat
        + (decide (j = k ∧ (net.searches j).any (fun r => r.request.index = i))).toNat
          ≤ (net.waitsAt i k).toNat := by
      by_cases hk : k = j
      · subst hk
        have hstop : (net.slaveTick k now sendOk).waitsAt i k = false := by
          refine decide_eq_false (fun h => ?_)
          rw [show (net.slaveTick k now sendOk).stations k = ((net.stations k).tick now sendOk).1
            from Function.update_self .., htick, hstopped] at h
          exact absurd h.1 (by decide)
        rw [hstop]
        simp [waitsAt, hrunning]
      · rw [decide_eq_false (fun h => hk h.1.symm)]
        unfold waitsAt
        rw [show (net.slaveTick j now sendOk).stations k = net.stations k
          from Function.update_of_ne hk ..]
        exact le_rfl
    refine load_le 0 rfl ?_
    rw [show (net.slaveTick j now sendOk).responses = net.responses ++ if sendOk then
      ((net.stations j).tick now sendOk).2.filterMap (SlmpSlaveOutput.copy j (net.searches j)) else []
      from rfl, List.countP_append]
    cases sendOk with
    | false => exact Nat.add_le_add_right (le_trans (Nat.le_add_right _ _) hwaits) _
    | true =>
      rw [if_pos rfl]
      omega

/-- a request in slave `p.slave` -/
theorem load_receive (net : SlmpNetwork) (nc : SlmpNetConfig) (p : SlmpRequestCopy) (now : UInt32)
    (known setOk sendOk : Bool) {j : SlmpRequestKind}
    (hp : SlmpBuilt nc.master (UInt16.ofNat p.index) j p.payload) (i k : Nat) :
    (net.receive nc p now known setOk sendOk).load i k ≤ net.load i k + (p.isAt i k).toNat := by
  cases known with
  | false => exact Nat.le_add_right _ _
  | true =>
    cases SlmpReceipt.receives ⟨p, net.stations p.slave, now, setOk, sendOk⟩ hp with
    | search after outs hreceive hwaits houts =>
      rw [receive_eq hreceive, houts]
      refine load_le _ rfl ?_
      rw [show [SlmpSlaveOutput.nodeSearchInd nc.master.macAddress nc.master.masterId].filterMap
        (SlmpSlaveOutput.copy p.slave _) = [] from rfl, ite_self, List.append_nil]
      rw [Nat.add_right_comm]
      refine Nat.add_le_add_right ?_ _
      by_cases hk : k = p.slave
      · subst hk
        refine le_trans (Bool.toNat_le_toNat (fun h => ?_)) (Nat.le_add_left _ _)
        have hsearch : (Function.update net.searches p.slave (some (SlmpReceipt.mk p
            (net.stations p.slave) now setOk sendOk)) p.slave).any (fun r => r.request.index = i) :=
          (of_decide_eq_true h).2
        rw [Function.update_self, Option.any_some, decide_eq_true_eq] at hsearch
        exact decide_eq_true ⟨hsearch, rfl⟩
      · refine le_trans (le_of_eq (congrArg Bool.toNat ?_)) (Nat.le_add_right _ _)
        show decide ((Function.update net.stations p.slave after k).cls.responseTimer.state = .running
          ∧ (Function.update net.searches p.slave _ k).any _) = _
        rw [Function.update_of_ne hk, Function.update_of_ne hk]
        rfl
    | answers after outs hreceive hcls hcfg hind hone houts =>
      rw [receive_eq hreceive, hind]
      refine load_le _ rfl ?_
      have hcopies := countP_copies hone p.slave
        (some ⟨p, net.stations p.slave, now, setOk, sendOk⟩) i k
      have hat : decide (p.slave = k ∧ (some (SlmpReceipt.mk p (net.stations p.slave) now setOk
          sendOk)).any (fun r => r.request.index = i)) = p.isAt i k := by
        unfold SlmpRequestCopy.isAt
        rw [Option.any_some]
        simp only [decide_eq_true_eq]
        exact decide_eq_decide.mpr and_comm
      rw [hat] at hcopies
      have hwait : (net.setStation p.slave after).waitsAt i k = net.waitsAt i k := by
        unfold waitsAt
        by_cases hk : k = p.slave
        · subst hk
          rw [show (net.setStation p.slave after).stations p.slave = after
            from Function.update_self .., hcls]
          rfl
        · rw [show (net.setStation p.slave after).stations k = net.stations k
            from Function.update_of_ne hk ..]
          rfl
      rw [List.countP_append, Nat.add_assoc]
      refine Nat.add_le_add (congrArg Bool.toNat hwait).le (Nat.add_le_add_left ?_ _)
      cases sendOk with
      | false => exact Nat.zero_le _
      | true => exact hcopies

/-- the step is none of the master, which does not notice it -/
structure IsSlaveStep (net net' : SlmpNetwork) (outs : List SlmpOutput) : Prop where
  outs : outs = []
  master : net'.master = net.master
  drawn : net'.drawn = net.drawn
  load : ∀ i k, net'.load i k ≤ net.load i k

/-- a request is received -/
theorem load_deliver {i : Nat} {p : SlmpRequestCopy} (hi : net.requests[i]? = some p) {j : SlmpRequestKind}
    (hp : SlmpBuilt nc.master (UInt16.ofNat p.index) j p.payload) (now : UInt32)
    (known sendOk setOk sendAnswerOk : Bool) (a k : Nat) :
    (((net.loseRequest i).slaveTick p.slave now sendOk).receive nc p now known setOk sendAnswerOk).load a k
      ≤ net.load a k :=
  calc _ ≤ ((net.loseRequest i).slaveTick p.slave now sendOk).load a k + (p.isAt a k).toNat :=
        load_receive _ nc p now known setOk sendAnswerOk hp a k
    _ ≤ (net.loseRequest i).load a k + (p.isAt a k).toNat :=
        Nat.add_le_add_right (load_slaveTick _ p.slave now sendOk a k) _
    _ = net.load a k := load_loseRequest hi a k

/-- events of the network, of the slaves and of the master -/
theorem slmpNetStep_load (hbuilt : ∀ p ∈ net.requests, ∃ k,
      SlmpBuilt nc.master (UInt16.ofNat p.index) k p.payload) (e : SlmpNetEvent) :
    IsSlaveStep net (slmpNetStep nc net e).1 (slmpNetStep nc net e).2
      ∨ (∃ e', e = .master e' ∧ e'.isFrame = false ∧ slmpNetStep nc net e = net.masterStep nc e')
      ∨ ∃ i ifindex calls q, e = .deliverResponse i ifindex calls ∧ net.responses[i]? = some q
        ∧ slmpNetStep nc net e = (net.loseResponse i).masterStep nc (.frame q.payload ifindex calls) := by
  cases e with
  | master e =>
    by_cases he : e.isFrame = true
    · refine Or.inl ?_
      rw [show slmpNetStep nc net (.master e) = (net, []) from if_pos he]
      exact ⟨rfl, rfl, rfl, fun _ _ => le_rfl⟩
    · exact Or.inr (Or.inl ⟨e, rfl, eq_false_of_ne_true he, if_neg he⟩)
  | slave k now sendOk => exact Or.inl ⟨rfl, rfl, rfl, load_slaveTick net k now sendOk⟩
  | restart k cfg =>
    refine Or.inl ⟨rfl, rfl, rfl, load_setStation net k (fun hrunning => ?_)⟩
    cases hrunning
  | readdress k ip netmask => exact Or.inl ⟨rfl, rfl, rfl, load_setStation net k id⟩
  | loseRequest i =>
    refine Or.inl ⟨rfl, rfl, rfl, ?_⟩
    intro a k
    cases hp : net.requests[i]? with
    | none =>
      show (net.loseRequest i).load a k ≤ _
      unfold loseRequest
      rw [List.eraseIdx_of_length_le (List.getElem?_eq_none_iff.mp hp)]
    | some p => exact Nat.le.intro (load_loseRequest hp a k)
  | loseResponse i =>
    refine Or.inl ⟨rfl, rfl, rfl, ?_⟩
    intro a k
    cases hq : net.responses[i]? with
    | none =>
      show (net.loseResponse i).load a k ≤ _
      unfold loseResponse
      rw [List.eraseIdx_of_length_le (List.getElem?_eq_none_iff.mp hq)]
    | some q => exact Nat.le.intro (load_loseResponse hq a k)
  | deliverRequest i now known sendOk setOk sendAnswerOk =>
    refine Or.inl ?_
    simp only [slmpNetStep]
    split
    · exact ⟨rfl, rfl, rfl, fun _ _ => le_rfl⟩
    · rename_i p hp
      obtain ⟨j, hbuilt⟩ := hbuilt p (List.mem_of_getElem? hp)
      obtain ⟨hmaster, _, hdrawn⟩ := receive_rest ((net.loseRequest i).slaveTick p.slave now sendOk) nc p
        now known setOk sendAnswerOk
      exact ⟨rfl, hmaster, hdrawn, load_deliver hp hbuilt now known sendOk setOk sendAnswerOk⟩
  | deliverResponse i ifindex calls =>
    cases hq : net.responses[i]? with
    | none =>
      refine Or.inl ?_
      rw [show slmpNetStep nc net (.deliverResponse i ifindex calls) = (net, []) by
        simp only [slmpNetStep, hq]]
      exact ⟨rfl, rfl, rfl, fun _ _ => le_rfl⟩
    | some q =>
      refine Or.inr (Or.inr ⟨i, ifindex, calls, q, rfl, hq, ?_⟩)
      simp only [slmpNetStep, hq]

end SlmpNetwork

namespace SlmpNetStart
variable (st : SlmpNetStart)

/-- every request and its response are in one place at most -/
theorem run_once (es : List SlmpNetEvent) : SlmpNetwork.Once (st.run es).1 := by
  induction es using List.reverseRecOn with
  | nil =>
    have hempty : ∀ i k, st.init.load i k = 0 := by
      intro i k
      rfl
    exact ⟨fun i k => (hempty i k).trans_le (Nat.zero_le 1), fun i k _ => hempty i k⟩
  | append_singleton es e ih =>
    rw [st.run_concat]
    rcases SlmpNetwork.slmpNetStep_load (fun p => st.run_built es) e with
      hslave | ⟨e', _, _, hstep⟩ | ⟨i, ifindex, calls, q, _, hq, hstep⟩
    · exact ih.mono hslave.load hslave.drawn
    · rw [hstep]
      exact ih.masterStep st.nc e'
    · rw [hstep]
      have hlost : SlmpNetwork.Once ((st.run es).1.loseResponse i) :=
        ih.mono (fun a k => Nat.le.intro (SlmpNetwork.load_loseResponse hq a k)) rfl
      exact hlost.masterStep st.nc _

end SlmpNetStart

/-! ## the database of the master -/

/-- what the database says after some outputs: nothing changes it but a new node search, and it is
reported as it is -/
structure KeepsDb (D : List SlmpOutput → NodeSearchDb → Prop) : Prop where
  silent : ∀ hist db x, D hist db → x.clearsDb = false → (∀ db', x = .nodeSearchCfm db' → db' = db) →
    D (hist ++ [x]) db
  cleared : ∀ hist db x, D hist db → x.clearsDb = true → D (hist ++ [x]) (clmSlmpNodeSearchClearDb db)

namespace KeepsDb
variable {D : List SlmpOutput → NodeSearchDb → Prop} {hist : List SlmpOutput} {clm : SlmpMaster}
  (mcfg : SlmpMasterConfig)

theorem call (h : KeepsDb D) (hd : D hist clm.nodeSearchDb) (c : SlmpCall) :
    D (hist ++ (performCall mcfg clm c).2) (performCall mcfg clm c).1.nodeSearchDb := by
  cases c with
  | performNodeSearch now sendOk =>
    unfold performCall clmSlmpPerformNodeSearch
    dsimp only
    split
    · exact h.silent _ _ _ hd rfl (fun db' hx => by cases hx)
    split
    · exact h.cleared _ _ _ hd rfl
    · exact h.cleared _ _ _ hd rfl
  | performSetIpaddrRequest now mac ip netmask sendOk =>
    unfold performCall clmSlmpPerformSetIpaddrRequest
    dsimp only
    split
    · exact h.silent _ _ _ hd rfl (fun db' hx => by cases hx)
    split
    · exact h.silent _ _ _ hd rfl (fun db' hx => by cases hx)
    split
    · exact h.silent _ _ _ hd rfl (fun db' hx => by cases hx)
    split
    · exact h.silent _ _ _ hd rfl (fun db' hx => by cases hx)
    · exact h.silent _ _ _ hd rfl (fun db' hx => by cases hx)

theorem calls (h : KeepsDb D) (hd : D hist clm.nodeSearchDb) (calls : List SlmpCall) :
    D (hist ++ ((slmpCalls mcfg).run clm calls).2) ((slmpCalls mcfg).run clm calls).1.nodeSearchDb :=
  (slmpCalls mcfg).run_inv (c := fun _ _ => True) (I := fun hist clm => D hist clm.nodeSearchDb)
    (fun _ _ c hd _ => h.call mcfg hd c) hist hd (.of_all _ (fun _ _ => trivial) _ _)

theorem setIpNotify (clm : SlmpMaster) (h : KeepsDb D) (hd : D hist clm.nodeSearchDb) (status : MasterSetipStatus)
    (calls : List SlmpCall) : D (hist ++ (clmSlmpSetIpNotifyCfm mcfg clm status calls).2)
      (clmSlmpSetIpNotifyCfm mcfg clm status calls).1.nodeSearchDb := by
  have hcfm : D (hist ++ [.setIpCfm status])
      { clm with setIpRequestTimer := clTimerStop clm.setIpRequestTimer }.nodeSearchDb :=
    h.silent _ _ _ hd rfl (fun db' hx => by cases hx)
  have hcalls := h.calls mcfg hcfm calls
  rwa [List.append_assoc] at hcalls

theorem searchNotify (clm : SlmpMaster) (h : KeepsDb D) (hd : D hist clm.nodeSearchDb) (calls : List SlmpCall) :
    D (hist ++ (clmSlmpNodeSearchNotifyResults mcfg clm calls).2)
      (clmSlmpNodeSearchNotifyResults mcfg clm calls).1.nodeSearchDb := by
  have hcfm : D (hist ++ [.nodeSearchCfm clm.nodeSearchDb]) clm.nodeSearchDb :=
    h.silent _ _ _ hd rfl (fun db' hx => (SlmpOutput.nodeSearchCfm.inj hx).symm)
  have hcalls := h.calls mcfg hcfm calls
  rwa [List.append_assoc] at hcalls

/-- an event that is not a frame -/
theorem step (h : KeepsDb D) (hd : D hist clm.nodeSearchDb) {e : SlmpEvent} (he : e.isFrame = false) :
    D (hist ++ (slmpStep mcfg clm e).2) (slmpStep mcfg clm e).1.nodeSearchDb := by
  cases e with
  | call c => exact h.call mcfg hd c
  | frame => cases he
  | checkTimeouts now inNodeSearchCfm inSetIpCfm =>
    have hsearch : D (hist ++ (checkNodeSearchTimer mcfg clm now inNodeSearchCfm).2)
        (checkNodeSearchTimer mcfg clm now inNodeSearchCfm).1.nodeSearchDb := by
      unfold checkNodeSearchTimer
      split
      · exact h.searchNotify mcfg { clm with nodeSearchTimer := clTimerStop clm.nodeSearchTimer } hd
          inNodeSearchCfm
      · rw [List.append_nil]
        exact hd
    have hboth : (slmpStep mcfg clm (.checkTimeouts now inNodeSearchCfm inSetIpCfm))
        = ((checkSetIpRequestTimer mcfg (checkNodeSearchTimer mcfg clm now inNodeSearchCfm).1 now
              inSetIpCfm).1,
            (checkNodeSearchTimer mcfg clm now inNodeSearchCfm).2
              ++ (checkSetIpRequestTimer mcfg (checkNodeSearchTimer mcfg clm now inNodeSearchCfm).1 now
                inSetIpCfm).2) := rfl
    rw [hboth, ← List.append_assoc]
    generalize (checkNodeSearchTimer mcfg clm now inNodeSearchCfm).1 = clm' at hsearch
    unfold checkSetIpRequestTimer
    split
    · exact h.setIpNotify mcfg { clm' with setIpRequestTimer := clTimerStop clm'.setIpRequestTimer }
        hsearch .timeout inSetIpCfm
    · rw [List.append_nil]
      exact hsearch

end KeepsDb

/-! ## where the entries come from -/

/-- a slave that has received the latest node search, and has noticed it -/
structure SlmpReceipt.Searched (nc : SlmpNetConfig) (R : SlmpReceipt → Prop) (hist : List SlmpOutput)
    (r : SlmpReceipt) : Prop where
  received : R r
  latest : LatestRequest .nodeSearch hist r.request.index r.request.payload
  slave : r.request.slave < nc.numSlaves
  ind : .nodeSearchInd nc.master.macAddress nc.master.masterId ∈ r.outs nc

/-- the database consists of the slaves of the receipts -/
structure SearchSources (nc : SlmpNetConfig) (R : SlmpReceipt → Prop) (hist : List SlmpOutput)
    (db : NodeSearchDb) (rs : List SlmpReceipt) : Prop where
  slaves : (rs.map fun r => r.request.slave).Nodup
  searched : ∀ r ∈ rs, r.Searched nc R hist
  stores : ∃ resps, Stores nc.master resps db ∧ resps.map (nodeSearchResult nc.master.host)
    = rs.map fun r => slaveEntry r.station.cfg (r.station.addrInfo nc)

/-- reported databases, and that of the master; its receipts meet `P` -/
structure DbTruth (nc : SlmpNetConfig) (R P : SlmpReceipt → Prop) (hist : List SlmpOutput)
    (db : NodeSearchDb) : Prop where
  reported : Preceded (isCfm .nodeSearch)
    (fun before x => ∀ db, x = .nodeSearchCfm db → ∃ rs, SearchSources nc R before db rs) hist
  stored : ∃ rs, SearchSources nc R hist db rs ∧ ∀ r ∈ rs, P r

section
variable {nc : SlmpNetConfig} {R R' P P' : SlmpReceipt → Prop} {hist : List SlmpOutput} {db : NodeSearchDb}
  {r : SlmpReceipt} {rs : List SlmpReceipt}

theorem SlmpReceipt.Searched.mono (h : r.Searched nc R hist) (hR : ∀ r, R r → R' r) :
    r.Searched nc R' hist :=
  ⟨hR r h.received, h.latest, h.slave, h.ind⟩

theorem SlmpReceipt.Searched.silent (h : r.Searched nc R hist) {x : SlmpOutput}
    (hx : isSent .nodeSearch x = false) : r.Searched nc R (hist ++ [x]) :=
  ⟨h.received, h.latest.silent hx, h.slave, h.ind⟩

namespace SearchSources

theorem nil (nc : SlmpNetConfig) (R : SlmpReceipt → Prop) (hist : List SlmpOutput) (db : NodeSearchDb) :
    SearchSources nc R hist (clmSlmpNodeSearchClearDb db) [] :=
  ⟨List.nodup_nil, fun _ h => absurd h List.not_mem_nil, [], .clear db, rfl⟩

theorem mono (h : SearchSources nc R hist db rs) (hR : ∀ r, R r → R' r) :
    SearchSources nc R' hist db rs :=
  ⟨h.slaves, fun r hr => (h.searched r hr).mono hR, h.stores⟩

theorem silent (h : SearchSources nc R hist db rs) {x : SlmpOutput}
    (hx : isSent .nodeSearch x = false) : SearchSources nc R (hist ++ [x]) db rs :=
  ⟨h.slaves, fun r hr => (h.searched r hr).silent hx, h.stores⟩

/-- one response more -/
theorem add (h : SearchSources nc R hist db rs) (hr : r.Searched nc R hist)
    (hnew : ∀ s ∈ rs, s.request.slave ≠ r.request.slave) {resp : NodeSearchResp}
    (hresp : nodeSearchResult nc.master.host resp = slaveEntry r.station.cfg (r.station.addrInfo nc)) :
    SearchSources nc R hist (clmSlmpNodeSearchAddDb nc.master db resp) (rs ++ [r]) := by
  obtain ⟨resps, hstores, hentries⟩ := h.stores
  refine ⟨?_, ?_, resps ++ [resp], hstores.add resp, ?_⟩
  · rw [List.map_append, List.nodup_append]
    refine ⟨h.slaves, List.nodup_singleton _, ?_⟩
    intro a ha b hb
    obtain ⟨s, hs, rfl⟩ := List.mem_map.mp ha
    rw [List.mem_singleton.mp hb]
    exact hnew s hs
  · intro s hs
    rcases List.mem_append.mp hs with hs | hs
    · exact h.searched s hs
    · rw [List.mem_singleton.mp hs]
      exact hr
  · rw [List.map_append, List.map_append, hentries]
    exact congrArg (_ ++ [·]) hresp

/-- there are at most as many entries as slaves -/
theorem length_le (h : SearchSources nc R hist db rs) : rs.length ≤ nc.numSlaves := by
  have hsub : (rs.map fun r => r.request.slave) ⊆ List.range nc.numSlaves := by
    intro k hk
    obtain ⟨r, hr, rfl⟩ := List.mem_map.mp hk
    exact List.mem_range.mpr (h.searched r hr).slave
  have hlen := (List.subperm_of_subset h.slaves hsub).length_le
  rwa [List.length_map, List.length_range] at hlen

end SearchSources

namespace DbTruth

theorem mono (h : DbTruth nc R P hist db) (hR : ∀ r, R r → R' r) (hP : ∀ r, R r → P r → P' r) :
    DbTruth nc R' P' hist db := by
  refine ⟨?_, ?_⟩
  · intro a x c hsplit hx db hdb
    obtain ⟨rs, hrs⟩ := h.reported a x c hsplit hx db hdb
    exact ⟨rs, hrs.mono hR⟩
  · obtain ⟨rs, hrs, hrsP⟩ := h.stored
    exact ⟨rs, hrs.mono hR, fun r hr => hP r (hrs.searched r hr).received (hrsP r hr)⟩

theorem keepsDb (nc : SlmpNetConfig) (R P : SlmpReceipt → Prop) : KeepsDb (DbTruth nc R P) := by
  refine ⟨?_, ?_⟩
  · intro hist db x h hx hreport
    obtain ⟨rs, hrs, hrsP⟩ := h.stored
    refine ⟨h.reported.concat ?_, rs, hrs.silent ?_, hrsP⟩
    · intro _ db' hdb'
      exact ⟨rs, hreport db' hdb' ▸ hrs⟩
    · cases x with
      | sent => exact hx
      | _ => rfl
  · intro hist db x h hx
    refine ⟨h.reported.concat ?_, [], .nil nc R _ db, fun _ hr => absurd hr List.not_mem_nil⟩
    rintro _ db' rfl
    cases hx

/-- a response of a slave that is not in the database yet -/
theorem add (h : DbTruth nc R P hist db) (hr : r.Searched nc R hist) (hP : ∀ s, P s → P' s)
    (hrP : P' r) (hnew : ∀ s, P s → s.request.index = r.request.index → s.request.slave ≠ r.request.slave)
    {resp : NodeSearchResp}
    (hresp : nodeSearchResult nc.master.host resp = slaveEntry r.station.cfg (r.station.addrInfo nc)) :
    DbTruth nc R P' hist (clmSlmpNodeSearchAddDb nc.master db resp) := by
  obtain ⟨rs, hrs, hrsP⟩ := h.stored
  refine ⟨h.reported, rs ++ [r], hrs.add hr ?_ hresp, ?_⟩
  · intro s hs
    exact hnew s (hrsP s hs) ((hrs.searched s hs).latest.unique hr.latest)
  · intro s hs
    rcases List.mem_append.mp hs with hs | hs
    · exact hP s (hrsP s hs)
    · rw [List.mem_singleton.mp hs]
      exact hrP

end DbTruth

end

/-! ## the runs -/

/-- the response of a slave in the database -/
theorem SlmpAnswer.stores {nc : SlmpNetConfig} {R P : SlmpReceipt → Prop} {hist : List SlmpOutput}
    {r : SlmpReceipt} {payload : Datagram} {clm : SlmpMaster} (P' : SlmpReceipt → Prop)
    (h : SlmpAnswer nc r payload)
    (hd : DbTruth nc R P hist clm.nodeSearchDb) (hR : R r) (hslave : r.request.slave < nc.numSlaves)
    (hlatest : ∀ {k}, SlmpBuilt nc.master (UInt16.ofNat r.request.index) k r.request.payload →
      serialOf k clm = (UInt16.ofNat r.request.index).toNat →
        LatestRequest k hist r.request.index r.request.payload)
    (hP : ∀ s, P s → P' s) (hrP : P' r)
    (hnew : ∀ s, P s → s.request.index = r.request.index → s.request.slave ≠ r.request.slave)
    (ifindex : Int) (calls : List SlmpCall) :
    DbTruth nc R P' (hist ++ (slmpStep nc.master clm (.frame payload ifindex calls)).2)
      (slmpStep nc.master clm (.frame payload ifindex calls)).1.nodeSearchDb := by
  have hsame : DbTruth nc R P' hist clm.nodeSearchDb := hd.mono (fun _ h => h) (fun s _ => hP s)
  cases h with
  | search request ind =>
    have hsearch := clmSlmpHandleInputFrame_search nc.master r.station.cfg
      (UInt16.ofNat r.request.index) (r.station.addrInfo nc) clm ifindex calls
    unfold slmpStep
    dsimp only at hsearch ⊢
    rcases hsearch with hnone | ⟨hserial, houts, resp, hdb, hresp⟩
    · rw [hnone, List.append_nil]
      exact hsame
    · rw [houts, hdb, List.append_nil]
      exact hd.add ⟨hR, hlatest request hserial, hslave, ind⟩ hP hrP hnew hresp
  | address newIp newNetmask hip hmask request hlittle =>
    have haddress := clmSlmpHandleInputFrame_address nc.master r.station.cfg
      (UInt16.ofNat r.request.index) (r.station.cfg.ipSettingAllowed && r.setOk) clm ifindex calls
    unfold slmpStep
    dsimp only at haddress ⊢
    rcases haddress with hnone | ⟨_, hnotify⟩
    · rw [hnone, List.append_nil]
      exact hsame
    · rw [hnotify]
      exact (DbTruth.keepsDb nc R P').setIpNotify nc.master clm hsame _ calls

namespace SlmpNetStart
variable (st : SlmpNetStart)

/-- the receipt is old, and nothing of it is on its way -/
def IsOver (net : SlmpNetwork) (r : SlmpReceipt) : Prop := net.load r.request.index r.request.slave = 0

theorem Received.index_lt {st : SlmpNetStart} {es : List SlmpNetEvent} {r : SlmpReceipt}
    (h : st.Received es r) : r.request.index < (st.run es).1.drawn := by
  obtain ⟨k, hk⟩ := h.wasSent.sent
  rw [(st.run_master es).2.drawn]
  exact (List.getElem?_eq_some_iff.mp hk).1

theorem run_databases (es : List SlmpNetEvent)
    (hfresh : (slmpNetwork st.nc).Steps (fun net e => e.isFresh net = true) st.init es) :
    DbTruth st.nc (st.Received es) (IsOver (st.run es).1) (st.run es).2 (st.run es).1.master.nodeSearchDb := by
  induction es using List.reverseRecOn with
  | nil => exact ⟨Preceded.nil, [], .nil .., fun _ hr => absurd hr List.not_mem_nil⟩
  | append_singleton es e ih =>
    obtain ⟨hbefore, hlast, _⟩ := ((slmpNetwork st.nc).steps_append _ es [e]).mp hfresh
    have hd := ih hbefore
    have hconcat : ∀ r, st.Received es r → st.Received (es ++ [e]) r := fun r hr => hr.concat e
    rw [st.run_concat]
    rcases SlmpNetwork.slmpNetStep_load (fun p => st.run_built es) e with
      hslave | ⟨e', _, hframe, hstep⟩ | ⟨i, ifindex, calls, q, rfl, hq, hstep⟩
    · rw [hslave.outs, hslave.master, List.append_nil]
      refine hd.mono hconcat (fun r _ hr => ?_)
      exact Nat.eq_zero_of_le_zero ((hslave.load _ _).trans (Nat.le_of_eq hr))
    · have hmaster := (DbTruth.keepsDb st.nc _ _).step st.nc.master hd hframe
      rw [hstep, (SlmpNetwork.masterStep_rest st.nc (st.run es).1 e').1]
      refine hmaster.mono hconcat (fun r hr hover => ?_)
      exact SlmpNetwork.load_masterStep_old _ st.nc e' hr.index_lt _ hover
    · obtain ⟨r, hr, hreceived, hslave, hanswer, hyoung⟩ := st.run_response es hq hlast
      have hload := SlmpNetwork.load_loseResponse hq
      have hat : q.isAt r.request.index r.request.slave = true := by
        simp [SlmpResponseCopy.isAt, hr, hslave]
      have hleft := hload r.request.index r.request.slave
      have honce := (st.run_once es).once r.request.index r.request.slave
      rw [hat, Bool.toNat_true] at hleft
      have hmaster := hanswer.stores (IsOver ((st.run es).1.loseResponse i)) hd hreceived
        hreceived.wasSent.slave (fun hbuilt hserial => hreceived.latest hbuilt hserial hyoung) ?_ ?_ ?_
        ifindex calls
      · rw [hstep, (SlmpNetwork.masterStep_rest st.nc ((st.run es).1.loseResponse i) _).1]
        refine hmaster.mono hconcat (fun s hs hover => ?_)
        exact SlmpNetwork.load_masterStep_old ((st.run es).1.loseResponse i) st.nc _ hs.index_lt _ hover
      · intro s hs
        have hle := hload s.request.index s.request.slave
        unfold IsOver at hs ⊢
        omega
      · unfold IsOver
        omega
      · intro s hs hindex hsame
        unfold IsOver at hs
        rw [hindex, hsame] at hs
        omega

/-- **A reported node search tells the truth.**  With fewer than 256 slaves, the database that
the application gets has no slave twice; every entry is what its slave was when it received this
very search. -/
theorem searched (hfew : st.nc.numSlaves < 256) (es : List SlmpNetEvent)
    (hfresh : (slmpNetwork st.nc).Steps (fun net e => e.isFresh net = true) st.init es)
    {before after : List SlmpOutput} {db : NodeSearchDb}
    (hcfm : (st.run es).2 = before ++ .nodeSearchCfm db :: after) :
    ∃ rs : List SlmpReceipt, (rs.map fun r => r.request.slave).Nodup
      ∧ (∀ r ∈ rs, r.Searched st.nc (st.Received es) before)
      ∧ db.count.toNat = rs.length
      ∧ db.stored.toNat = min rs.length st.nc.master.clmMaxNodeSearchDevices
      ∧ ∀ i r, i < st.nc.master.clmMaxNodeSearchDevices → rs[i]? = some r →
          db.entries i = slaveEntry r.station.cfg (r.station.addrInfo st.nc) := by
  obtain ⟨rs, hrs⟩ := (st.run_databases es hfresh).reported before _ after hcfm rfl db rfl
  obtain ⟨resps, hstores, hentries⟩ := hrs.stores
  have hlen : resps.length = rs.length := by
    have hmap := congrArg List.length hentries
    rwa [List.length_map, List.length_map] at hmap
  have hlt : resps.length < 256 := hlen ▸ hrs.length_le.trans_lt hfew
  refine ⟨rs, hrs.slaves, hrs.searched, ?_, ?_, ?_⟩
  · rw [hstores.count, hlen, UInt8.toNat_ofNat', Nat.mod_eq_of_lt (hlen ▸ hlt)]
  · rw [hstores.stored hlt, hlen]
  · intro i r hi hr
    obtain ⟨resp, hresp, hentry⟩ : ∃ resp, resps[i]? = some resp
        ∧ nodeSearchResult st.nc.master.host resp = slaveEntry r.station.cfg (r.station.addrInfo st.nc) := by
      have hget := congrArg (·[i]?) hentries
      simp only [List.getElem?_map, hr, Option.map_some, Option.map_eq_some_iff] at hget
      exact hget
    rw [hstores.entries hlt i resp hi hresp, hentry]

end SlmpNetStart

/-- a node search that both slaves answer -/
def exampleSearchRun : List SlmpNetEvent :=
  [.master (.call (.performNodeSearch 0 true)), .deliverRequest 1 1000 true true true true,
    .deliverRequest 0 1500 true true true true, .slave 0 1500000 true, .slave 1 1500000 true,
    .deliverResponse 1 3 [], .deliverResponse 0 3 [], .master (.checkTimeouts 3000000 [] [])]

def exampleFoundDb : NodeSearchDb := (exampleSlmpNetwork.run exampleSearchRun).1.master.nodeSearchDb

theorem searched_example : ∃ (before : List SlmpOutput) (rs : List SlmpReceipt),
    (rs.map fun r => r.request.slave).Nodup
      ∧ (∀ r ∈ rs, r.Searched exampleSlmpNetwork.nc (exampleSlmpNetwork.Received exampleSearchRun) before)
      ∧ exampleFoundDb.count.toNat = rs.length ∧ rs.length = 2 ∧ exampleFoundDb.stored.toNat = min rs.length 20
      ∧ ∀ i r, i < 20 → rs[i]? = some r →
          exampleFoundDb.entries i = slaveEntry r.station.cfg (r.station.addrInfo exampleSlmpNetwork.nc) := by
  have hcfm : (exampleSlmpNetwork.run exampleSearchRun).2
      = (exampleSlmpNetwork.run (exampleSearchRun.take 1)).2 ++ [.nodeSearchCfm exampleFoundDb] := by rfl
  have hcount : exampleFoundDb.count.toNat = 2 := by decide +kernel
  obtain ⟨rs, hslaves, hsearched, hlen, hstored, hentries⟩ := exampleSlmpNetwork.searched (by decide)
    exampleSearchRun ⟨rfl, rfl, rfl, rfl, rfl, by decide +kernel, by decide +kernel, rfl, trivial⟩ hcfm
  exact ⟨_, rs, hslaves, hsearched, hlen, hlen.symm.trans hcount, hstored, hentries⟩

end CLink
