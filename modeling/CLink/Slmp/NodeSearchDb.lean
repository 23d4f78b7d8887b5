import CLink.Slmp.BuiltFrames
import CLink.Slmp.Moves

/-!
# The database of node search responses

Responses are counted in 8 bits, and the first ones are stored.

* `acceptedResponse`       the node search response that an event brings, if it is accepted;
* `slmpStep_database`      every step without a new search adds the accepted response and nothing else;
* `Stores`                 the database after some responses;
* `nodeSearchDb_iff`       the database tells the truth if and only if there were fewer than 256.
-/

namespace CLink
open Bytes

/-! ## accepted responses -/

/-- the response in a frame that reaches `clm_slmp_handle_node_search_response` and passes its
checks -/
def acceptedFrame (cfg : SlmpMasterConfig) (clm : SlmpMaster) (dg : Datagram) (ifindex : Int) :
    Option NodeSearchResp :=
  match clSlmpParseResponseHeader cfg.host dg with
  | none => none
  | some header =>
    if clSlmpIsHeaderResponse cfg.host header = true
        ∧ clSlmpValidateResponseHeader cfg.host header dg.len = true
        ∧ ifindex = cfg.ifindex
        ∧ responseHandler clm (cfg.host.le16 header.serial) (cfg.host.le16 header.endcode)
          = some .nodeSearchResponse then
      (clSlmpParseNodeSearchResponse cfg.host dg).filter
        (clSlmpValidateNodeSearchResponse cfg.host)
    else none

def acceptedResponse (cfg : SlmpMasterConfig) (clm : SlmpMaster) : SlmpEvent → Option NodeSearchResp
  | .frame dg ifindex _ => acceptedFrame cfg clm dg ifindex
  | _ => none

/-- the accepted responses of a run, in the order of their arrival -/
def acceptedResponses (cfg : SlmpMasterConfig) : SlmpMaster → List SlmpEvent → List NodeSearchResp
  | _, [] => []
  | clm, e :: es =>
    (acceptedResponse cfg clm e).toList ++ acceptedResponses cfg (slmpStep cfg clm e).1 es

theorem acceptedResponses_append (cfg : SlmpMasterConfig) (clm : SlmpMaster)
    (a b : List SlmpEvent) :
    acceptedResponses cfg clm (a ++ b) = acceptedResponses cfg clm a
      ++ acceptedResponses cfg ((slmpMachine cfg).run clm a).1 b := by
  induction a generalizing clm with
  | nil => rfl
  | cons e a ih =>
    rw [List.cons_append, acceptedResponses, acceptedResponses, ih, List.append_assoc]
    rfl

/-- the database is cleared by a call that gets as far as its request -/
def SlmpOutput.clearsDb : SlmpOutput → Bool
  | sent k _ => k = .nodeSearch
  | sendFailed k => k = .nodeSearch
  | _ => false

/-! ## one step -/

section
variable {cfg : SlmpMasterConfig} {clm clm' : SlmpMaster}

theorem CallStep.db_kept {k : SlmpRequestKind} {outs : List SlmpOutput}
    (h : CallStep k clm clm' outs) (hno : ∀ x ∈ outs, x.clearsDb = false) :
    clm'.nodeSearchDb = clm.nodeSearchDb := by
  have hone : ∀ x, outs = [x] → x.clearsDb = false := by
    rintro x rfl
    exact hno x List.mem_cons_self
  cases k with
  | nodeSearch =>
    cases h with
    | blocked => rfl
    | sendFailed => exact absurd (hone _ rfl) (by simp [SlmpOutput.clearsDb])
    | sent => exact absurd (hone _ rfl) (by simp [SlmpOutput.clearsDb])
  | setIp =>
    cases h with
    | blocked => rfl
    | sendFailed clm' free serial timer drawn db => exact db rfl
    | sent clm' payload free serial timer others drawn db => exact db rfl

/-- the calls of the application in a callback -/
theorem slmpCalls_db_kept (cfg : SlmpMasterConfig) (clm : SlmpMaster) {calls : List SlmpCall}
    (hno : ∀ x ∈ ((slmpCalls cfg).run clm calls).2, x.clearsDb = false) :
    ((slmpCalls cfg).run clm calls).1.nodeSearchDb = clm.nodeSearchDb := by
  induction calls generalizing clm with
  | nil => rfl
  | cons c calls ih =>
    rw [Machine.run_cons] at hno ⊢
    have hcall := (performCall_step cfg clm c).db_kept
      (fun x hx => hno x (List.mem_append_left _ hx))
    exact (ih _ (fun x hx => hno x (List.mem_append_right _ hx))).trans hcall

theorem clmSlmpNodeSearchNotifyResults_db {calls : List SlmpCall}
    (hno : ∀ x ∈ (clmSlmpNodeSearchNotifyResults cfg clm calls).2, x.clearsDb = false) :
    (clmSlmpNodeSearchNotifyResults cfg clm calls).1.nodeSearchDb = clm.nodeSearchDb :=
  slmpCalls_db_kept cfg clm (fun x hx => hno x (List.mem_cons_of_mem _ hx))

theorem clmSlmpSetIpNotifyCfm_db {status : MasterSetipStatus} {calls : List SlmpCall}
    (hno : ∀ x ∈ (clmSlmpSetIpNotifyCfm cfg clm status calls).2, x.clearsDb = false) :
    (clmSlmpSetIpNotifyCfm cfg clm status calls).1.nodeSearchDb = clm.nodeSearchDb :=
  slmpCalls_db_kept cfg { clm with setIpRequestTimer := clTimerStop clm.setIpRequestTimer }
    (fun x hx => hno x (List.mem_cons_of_mem _ hx))

theorem clmSlmpCheckTimeouts_db {now : UInt32} {inNodeSearchCfm inSetIpCfm : List SlmpCall}
    (hno : ∀ x ∈ (clmSlmpCheckTimeouts cfg clm now inNodeSearchCfm inSetIpCfm).2,
      x.clearsDb = false) :
    (clmSlmpCheckTimeouts cfg clm now inNodeSearchCfm inSetIpCfm).1.nodeSearchDb
      = clm.nodeSearchDb := by
  unfold clmSlmpCheckTimeouts at hno ⊢
  dsimp only at hno ⊢
  have hsearch : (checkNodeSearchTimer cfg clm now inNodeSearchCfm).1.nodeSearchDb
      = clm.nodeSearchDb := by
    have hno' : ∀ x ∈ (checkNodeSearchTimer cfg clm now inNodeSearchCfm).2, x.clearsDb = false :=
      fun x hx => hno x (List.mem_append_left _ hx)
    unfold checkNodeSearchTimer at hno' ⊢
    split at hno'
    · rename_i hexp
      rw [if_pos hexp]
      exact clmSlmpNodeSearchNotifyResults_db hno'
    · rename_i hexp
      rw [if_neg hexp]
  rw [← hsearch]
  generalize (checkNodeSearchTimer cfg clm now inNodeSearchCfm).1 = t at hno ⊢
  have hno' : ∀ x ∈ (checkSetIpRequestTimer cfg t now inSetIpCfm).2, x.clearsDb = false :=
    fun x hx => hno x (List.mem_append_right _ hx)
  unfold checkSetIpRequestTimer at hno' ⊢
  split at hno'
  · rename_i hexp
    rw [if_pos hexp]
    exact clmSlmpSetIpNotifyCfm_db hno'
  · rename_i hexp
    rw [if_neg hexp]

/-- an accepted response goes into the database and has no other effect -/
theorem clmSlmpHandleInputFrame_accepted {dg : Datagram} {ifindex : Int} {calls : List SlmpCall}
    {r : NodeSearchResp} (h : acceptedFrame cfg clm dg ifindex = some r) :
    clmSlmpHandleInputFrame cfg clm dg ifindex calls
      = (0, { clm with nodeSearchDb := clmSlmpNodeSearchAddDb cfg clm.nodeSearchDb r }, []) := by
  unfold acceptedFrame at h
  split at h
  · cases h
  rename_i header hheader
  split at h
  · rename_i hchecks
    obtain ⟨his, hvalid, hif, hhandler⟩ := hchecks
    obtain ⟨hparse, hresp⟩ := Option.filter_eq_some_iff.mp h
    unfold clmSlmpHandleInputFrame
    rw [hheader]
    dsimp only
    rw [his, hvalid, hhandler]
    simp [hif, runHandler, clmSlmpHandleNodeSearchResponse, hparse, hresp]
  · cases h

theorem clmSlmpHandleInputFrame_db {dg : Datagram} {ifindex : Int} {calls : List SlmpCall}
    (h : acceptedFrame cfg clm dg ifindex = none)
    (hno : ∀ x ∈ (clmSlmpHandleInputFrame cfg clm dg ifindex calls).2.2, x.clearsDb = false) :
    (clmSlmpHandleInputFrame cfg clm dg ifindex calls).2.1.nodeSearchDb = clm.nodeSearchDb := by
  unfold acceptedFrame at h
  unfold clmSlmpHandleInputFrame at hno ⊢
  cases hheader : clSlmpParseResponseHeader cfg.host dg with
  | none => rfl
  | some header =>
    rw [hheader] at h hno
    dsimp only at h hno ⊢
    split at hno
    · rename_i his
      rw [if_pos his]
    rename_i his
    rw [if_neg his]
    split at hno
    · rename_i hvalid
      rw [if_pos hvalid]
    rename_i hvalid
    rw [if_neg hvalid]
    split at hno
    · rename_i hif
      rw [if_pos hif]
    rename_i hif
    rw [if_neg hif]
    cases hhandler : responseHandler clm (cfg.host.le16 header.serial)
        (cfg.host.le16 header.endcode) with
    | none => rfl
    | some handler =>
      rw [hhandler] at hno
      cases handler with
      | nodeSearchResponse =>
        rw [if_pos ⟨(Bool.not_eq_false _).mp his, (Bool.not_eq_false _).mp hvalid, not_not.mp hif,
          hhandler⟩] at h
        simp only [runHandler, clmSlmpHandleNodeSearchResponse]
        cases hparse : clSlmpParseNodeSearchResponse cfg.host dg with
        | none => rfl
        | some r =>
          have hinvalid : clSlmpValidateNodeSearchResponse cfg.host r = false := by
            rw [hparse] at h
            simpa [Option.filter] using h
          dsimp only
          rw [if_pos hinvalid]
      | setIpaddrResponse =>
        simp only [runHandler, clmSlmpHandleSetIpaddrResponse] at hno ⊢
        cases hparse : clSlmpParseSetIpResponse cfg.host dg with
        | none => rfl
        | some r =>
          rw [hparse] at hno
          dsimp only at hno ⊢
          split at hno
          · rename_i hinvalid
            rw [if_pos hinvalid]
          · rename_i hresp
            rw [if_neg hresp]
            exact clmSlmpSetIpNotifyCfm_db hno
      | setIpError =>
        simp only [runHandler, clmSlmpHandleSetIpError] at hno ⊢
        cases hparse : clSlmpParseErrorResponse cfg.host dg with
        | none => rfl
        | some r =>
          rw [hparse] at hno
          dsimp only at hno ⊢
          split at hno
          · rename_i hinvalid
            rw [if_pos hinvalid]
          rename_i hvalid'
          rw [if_neg hvalid']
          split at hno
          · rename_i hother
            rw [if_pos hother]
          · rename_i hcommand
            rw [if_neg hcommand]
            exact clmSlmpSetIpNotifyCfm_db hno

/-- **A step without a new search.** -/
theorem slmpStep_database (cfg : SlmpMasterConfig) (clm : SlmpMaster) {e : SlmpEvent}
    (hno : ∀ x ∈ (slmpStep cfg clm e).2, x.clearsDb = false) :
    (slmpStep cfg clm e).1.nodeSearchDb
      = match acceptedResponse cfg clm e with
        | some r => clmSlmpNodeSearchAddDb cfg clm.nodeSearchDb r
        | none => clm.nodeSearchDb := by
  cases e with
  | call c => exact (performCall_step cfg clm c).db_kept hno
  | checkTimeouts now inNodeSearchCfm inSetIpCfm => exact clmSlmpCheckTimeouts_db hno
  | frame dg ifindex calls =>
    unfold acceptedResponse
    dsimp only
    cases hacc : acceptedFrame cfg clm dg ifindex with
    | none => exact clmSlmpHandleInputFrame_db hacc hno
    | some r =>
      simp only [slmpStep, clmSlmpHandleInputFrame_accepted hacc]

end

/-! ## the database after some responses -/

/-- the database after the responses `rs`: the counter is cut to 8 bits -/
structure Stores (cfg : SlmpMasterConfig) (rs : List NodeSearchResp) (db : NodeSearchDb) : Prop where
  count : db.count = UInt8.ofNat rs.length
  stored : rs.length < 256 → db.stored.toNat = min rs.length cfg.clmMaxNodeSearchDevices
  entries : rs.length < 256 → ∀ i r, i < cfg.clmMaxNodeSearchDevices → rs[i]? = some r →
    db.entries i = nodeSearchResult cfg.host r

section
variable {cfg : SlmpMasterConfig}

theorem Stores.clear (db : NodeSearchDb) : Stores cfg [] (clmSlmpNodeSearchClearDb db) :=
  ⟨rfl, fun _ => (Nat.zero_min _).symm, fun _ i r _ hr => by cases hr⟩

theorem Stores.add {rs : List NodeSearchResp} {db : NodeSearchDb} (h : Stores cfg rs db)
    (r : NodeSearchResp) : Stores cfg (rs ++ [r]) (clmSlmpNodeSearchAddDb cfg db r) := by
  have hlen : (rs ++ [r]).length = rs.length + 1 := List.length_append
  have hcount : db.count + 1 = UInt8.ofNat (rs ++ [r]).length := by
    rw [h.count, hlen]
    exact (UInt8.ofNat_add rs.length 1).symm
  unfold clmSlmpNodeSearchAddDb
  dsimp only
  split
  · rename_i hfull
    refine ⟨hcount, fun hlt => ?_, fun hlt i r' hi hr => ?_⟩
    · have hstored := h.stored (by omega)
      show db.stored.toNat = _
      omega
    · have hstored := h.stored (by omega)
      rw [List.getElem?_append_left (by omega)] at hr
      exact h.entries (by omega) i r' hi hr
  · rename_i hroom
    refine ⟨hcount, fun hlt => ?_, fun hlt i r' hi hr => ?_⟩
    · have hstored := h.stored (by omega)
      show (db.stored + 1).toNat = _
      rw [UInt8.toNat_add]
      show (db.stored.toNat + 1) % 256 = _
      omega
    · have hstored := h.stored (by omega)
      have hnext : db.stored.toNat = rs.length := by omega
      show Function.update db.entries db.stored.toNat (nodeSearchResult cfg.host r) i = _
      rw [hnext]
      rcases Nat.lt_trichotomy i rs.length with hlt' | rfl | hgt
      · rw [Function.update_of_ne (by omega)]
        rw [List.getElem?_append_left hlt'] at hr
        exact h.entries (by omega) i r' hi hr
      · rw [List.getElem?_concat_length] at hr
        obtain rfl := Option.some.inj hr
        exact Function.update_self ..
      · rw [List.getElem?_eq_none (by omega)] at hr
        cases hr

/-- a run without a new search -/
theorem run_stores {clm : SlmpMaster} (es : List SlmpEvent) {rs : List NodeSearchResp}
    (h : Stores cfg rs clm.nodeSearchDb)
    (hno : ∀ x ∈ ((slmpMachine cfg).run clm es).2, x.clearsDb = false) :
    Stores cfg (rs ++ acceptedResponses cfg clm es) ((slmpMachine cfg).run clm es).1.nodeSearchDb := by
  induction es generalizing clm rs with
  | nil =>
    rw [acceptedResponses, List.append_nil]
    exact h
  | cons e es ih =>
    rw [Machine.run_cons] at hno ⊢
    have hstep := slmpStep_database cfg clm (e := e)
      (fun x hx => hno x (List.mem_append_left _ hx))
    rw [acceptedResponses, ← List.append_assoc]
    refine ih ?_ (fun x hx => hno x (List.mem_append_right _ hx))
    cases hacc : acceptedResponse cfg clm e with
    | none =>
      rw [hacc] at hstep
      rw [Option.toList_none, List.append_nil]
      exact hstep ▸ h
    | some r =>
      rw [hacc] at hstep
      exact hstep ▸ h.add r

end

/-! ## runs from the start of a search -/

/-- the master after it has sent the request of a node search -/
def searching (cfg : SlmpMasterConfig) (clm : SlmpMaster) (now : UInt32) : SlmpMaster :=
  (clmSlmpPerformNodeSearch cfg clm now true).1

/-- what the database says after the responses of the events `es` -/
structure NodeSearchDbRight (cfg : SlmpMasterConfig) (start : SlmpMaster) (es : List SlmpEvent) :
    Prop where
  entries : ∀ i r, i < cfg.clmMaxNodeSearchDevices → (acceptedResponses cfg start es)[i]? = some r →
    ((slmpMachine cfg).run start es).1.nodeSearchDb.entries i = nodeSearchResult cfg.host r
  stored : ((slmpMachine cfg).run start es).1.nodeSearchDb.stored.toNat
    = min (acceptedResponses cfg start es).length cfg.clmMaxNodeSearchDevices
  count : ((slmpMachine cfg).run start es).1.nodeSearchDb.count.toNat
    = (acceptedResponses cfg start es).length
  ordered : ((slmpMachine cfg).run start es).1.nodeSearchDb.stored
    ≤ ((slmpMachine cfg).run start es).1.nodeSearchDb.count
  kept : ∀ a b, es = a ++ b → ∀ i,
    i < ((slmpMachine cfg).run start a).1.nodeSearchDb.stored.toNat →
      ((slmpMachine cfg).run start es).1.nodeSearchDb.entries i
        = ((slmpMachine cfg).run start a).1.nodeSearchDb.entries i

/-- **The database of a node search.** -/
theorem nodeSearchDb_iff (cfg : SlmpMasterConfig) (clm : SlmpMaster) (now : UInt32)
    (hfree : clm.nodeSearchSerial = clmSlmpSerialNone) (es : List SlmpEvent)
    (hes : ∀ x ∈ ((slmpMachine cfg).run (searching cfg clm now) es).2, x.clearsDb = false) :
    NodeSearchDbRight cfg (searching cfg clm now) es
      ↔ (acceptedResponses cfg (searching cfg clm now) es).length < 256 := by
  have hclear : (searching cfg clm now).nodeSearchDb = clmSlmpNodeSearchClearDb clm.nodeSearchDb := by
    simp [searching, clmSlmpPerformNodeSearch, hfree]
  have hstart : Stores cfg [] (searching cfg clm now).nodeSearchDb := by
    rw [hclear]
    exact .clear _
  generalize searching cfg clm now = start at hes hstart ⊢
  have hdb := run_stores es hstart hes
  rw [List.nil_append] at hdb
  have hcount : ((slmpMachine cfg).run start es).1.nodeSearchDb.count.toNat
      = (acceptedResponses cfg start es).length % 256 := by
    rw [hdb.count]
    exact UInt8.toNat_ofNat'
  constructor
  · intro h
    have := h.count
    omega
  · intro hlt
    have hstored := hdb.stored hlt
    refine ⟨hdb.entries hlt, hstored, by omega, ?_, fun a b hab i hi => ?_⟩
    · rw [UInt8.le_iff_toNat_le]
      omega
    · have hsplit : acceptedResponses cfg start es = acceptedResponses cfg start a
          ++ acceptedResponses cfg ((slmpMachine cfg).run start a).1 b := by
        rw [hab, acceptedResponses_append]
      have hlen : (acceptedResponses cfg start es).length = (acceptedResponses cfg start a).length
          + (acceptedResponses cfg ((slmpMachine cfg).run start a).1 b).length := by
        rw [hsplit, List.length_append]
      have hdba := run_stores a hstart (fun x hx => hes x (by
        rw [hab, Machine.run_append]
        exact List.mem_append_left _ hx))
      rw [List.nil_append] at hdba
      have hstoreda := hdba.stored (by omega)
      have hi' : i < (acceptedResponses cfg start a).length := by omega
      have hget : (acceptedResponses cfg start a)[i]? = some (acceptedResponses cfg start a)[i] :=
        List.getElem?_eq_getElem hi'
      rw [hdb.entries hlt i _ (by omega) (by rw [hsplit, List.getElem?_append_left hi']; exact hget),
        hdba.entries (by omega) i _ (by omega) hget]

/-! ## many responses -/

/-- the same response again and again -/
theorem run_sameFrame {cfg : SlmpMasterConfig} {clm : SlmpMaster} {dg : Datagram} {ifindex : Int}
    {r : NodeSearchResp} (h : acceptedFrame cfg clm dg ifindex = some r) (n : Nat) :
    ((slmpMachine cfg).run clm (List.replicate n (.frame dg ifindex []))).2 = []
      ∧ (acceptedResponses cfg clm (List.replicate n (.frame dg ifindex []))).length = n := by
  induction n generalizing clm with
  | zero => exact ⟨rfl, rfl⟩
  | succ n ih =>
    have hstep : slmpStep cfg clm (.frame dg ifindex []) = ({ clm with
        nodeSearchDb := clmSlmpNodeSearchAddDb cfg clm.nodeSearchDb r }, []) := by
      simp only [slmpStep, clmSlmpHandleInputFrame_accepted h]
    have hnext : acceptedFrame cfg { clm with
        nodeSearchDb := clmSlmpNodeSearchAddDb cfg clm.nodeSearchDb r } dg ifindex = some r := h
    obtain ⟨hout, hlen⟩ := ih hnext
    rw [List.replicate_succ, Machine.run_cons, acceptedResponses]
    refine ⟨?_, ?_⟩
    · show (slmpStep cfg clm (.frame dg ifindex [])).2
        ++ ((slmpMachine cfg).run (slmpStep cfg clm (.frame dg ifindex [])).1 _).2 = []
      rw [hstep]
      exact hout
    · rw [hstep, List.length_append, hlen]
      have hone : (acceptedResponse cfg clm (.frame dg ifindex [])).toList.length = 1 := by
        rw [show acceptedResponse cfg clm (.frame dg ifindex []) = some r from h]
        rfl
      rw [hone, Nat.add_comm]

/-- the answer of a slave to the first node search -/
def exampleNodeSearchFrame : Datagram :=
  .ofBytes ((clSlmpPrepareNodeSearchResponseFrame .little (fun _ => 0x02) 0xC0A80001
    (fun _ => 0x04) 0xC0A80002 0xFFFFFF00 0 0x1234 0 0 0).bytes .little)

theorem exampleNodeSearchFrame_accepted : ∃ r, acceptedFrame exampleSlmpConfig
    (searching exampleSlmpConfig (clmSlmpInit exampleSlmpMaster) 0) exampleNodeSearchFrame 3
      = some r :=
  Option.isSome_iff_exists.mp (by decide +kernel)

/-- one slave answers -/
theorem nodeSearchDb_example : NodeSearchDbRight exampleSlmpConfig
    (searching exampleSlmpConfig (clmSlmpInit exampleSlmpMaster) 0)
    [.frame exampleNodeSearchFrame 3 []] := by
  obtain ⟨r, hr⟩ := exampleNodeSearchFrame_accepted
  obtain ⟨hout, hlen⟩ := run_sameFrame hr 1
  refine (nodeSearchDb_iff exampleSlmpConfig (clmSlmpInit exampleSlmpMaster) 0 rfl
    (List.replicate 1 (.frame exampleNodeSearchFrame 3 [])) ?_).mpr ?_
  · rw [hout]
    exact fun x hx => absurd hx List.not_mem_nil
  · rw [hlen]
    decide

/-- 256 answers: the counter is back at 0, and 20 of them are stored -/
theorem manyResponses_wrapCount :
    ¬ ∀ (cfg : SlmpMasterConfig) (clm : SlmpMaster) (now : UInt32),
      clm.nodeSearchSerial = clmSlmpSerialNone → ∀ es : List SlmpEvent,
      (∀ x ∈ ((slmpMachine cfg).run (searching cfg clm now) es).2, x.clearsDb = false) →
        NodeSearchDbRight cfg (searching cfg clm now) es := by
  intro h
  obtain ⟨r, hr⟩ := exampleNodeSearchFrame_accepted
  obtain ⟨hout, hlen⟩ := run_sameFrame hr 256
  have hno : ∀ x ∈ ((slmpMachine exampleSlmpConfig).run
      (searching exampleSlmpConfig (clmSlmpInit exampleSlmpMaster) 0)
      (List.replicate 256 (.frame exampleNodeSearchFrame 3 []))).2, x.clearsDb = false := by
    rw [hout]
    exact fun x hx => absurd hx List.not_mem_nil
  have hcount := (h exampleSlmpConfig (clmSlmpInit exampleSlmpMaster) 0 rfl _ hno).count
  have hstart : Stores exampleSlmpConfig []
      (searching exampleSlmpConfig (clmSlmpInit exampleSlmpMaster) 0).nodeSearchDb := .clear _
  have hdb := run_stores _ hstart hno
  rw [hdb.count, List.nil_append, hlen] at hcount
  exact absurd hcount (by decide)

end CLink
