import CLink.Lib.Machine
import CLink.Slmp.BuiltFrames
import CLink.Slmp.Slave

/-!
# The delayed responses of the slave

The slave has one record for a node search that waits for its response.  A request that arrives
while another one waits takes its place.

* `SearchRequest`, `acceptedSearch`   the node search request of a frame, if it is accepted;
* `searchMachine`                     the slave with a log of accepted requests and of responses;
* `Overlaps`                          a request that takes the place of another one;
* `run_searchLog_length`              every overlap costs one response;
* `searchResponses_iff`               every request is answered once if and only if there is none.
-/

namespace CLink
open Bytes

/-! ## the slave -/

/-- `cls_slmp_init` -/
def clsSlmpInit (_cls : SlmpSlave) : SlmpSlave :=
  { responseTimer := clTimerStop .zero
    masterMacAddress := fun _ => 0, masterIpAddr := 0, masterPort := 0, requestSerial := 0
    slaveMacAddress := fun _ => 0, slaveIpAddress := 0, slaveNetmask := 0 }

/-- one call of `cls_slmp_periodic`, with what the operating system answers in it -/
structure SlmpSlaveEvent where
  now : UInt32
  received : Option (Datagram × Option AddrInfo)
  sendOk : Bool
  setOk : Bool
  sendAnswerOk : Bool

def slmpSlaveStep (cfg : SlmpSlaveConfig) (cls : SlmpSlave) (ev : SlmpSlaveEvent) :
    SlmpSlave × List SlmpSlaveOutput :=
  clsSlmpPeriodic cfg cls ev.now ev.received ev.sendOk ev.setOk ev.sendAnswerOk

/-! ## accepted requests -/

/-- a node search request: the MAC address of its master and its serial number, and where it comes
from -/
structure SearchRequest where
  masterMacAddr : MacAddr
  requestSerial : UInt16
  addrInfo : AddrInfo

/-- the request of a frame for which `cls_slmp_handle_node_search_request` returns 0 -/
def acceptedSearchFrame (cfg : SlmpSlaveConfig) (dg : Datagram) (addrInfo : AddrInfo) :
    Option SearchRequest :=
  match clSlmpParseRequestHeader cfg.host dg with
  | none => none
  | some header =>
    if clSlmpIsHeaderRequest cfg.host header = true
        ∧ clSlmpValidateRequestHeader cfg.host header dg.len = true
        ∧ cfg.host.le16 header.command = slmpCommandNodeSearch
        ∧ cfg.host.le16 header.subCommand = slmpSubcommandNodeSearch then
      match clSlmpParseNodeSearchRequest cfg.host dg with
      | none => none
      | some request =>
        if clSlmpValidateNodeSearchRequest cfg.host request = true
            ∧ cfg.host.le32 request.masterIpAddr = addrInfo.remoteIp then
          some
            { masterMacAddr := clUtilCopyMacReverse request.masterMacAddr
              requestSerial := cfg.host.le16 request.header.serial
              addrInfo := addrInfo }
        else none
    else none

def acceptedSearch (cfg : SlmpSlaveConfig) (ev : SlmpSlaveEvent) : Option SearchRequest :=
  match ev.received with
  | some (dg, some addrInfo) => acceptedSearchFrame cfg dg addrInfo
  | _ => none

/-- the record of a request -/
def SearchRequest.schedule (r : SearchRequest) (cls : SlmpSlave) (now : UInt32) : SlmpSlave :=
  clsSlmpScheduleNodeSearchResponse cls now r.masterMacAddr r.addrInfo r.requestSerial

section
variable {cfg : SlmpSlaveConfig} {cls : SlmpSlave} {now : UInt32} {dg : Datagram}
  {addrInfo : AddrInfo} {setOk sendOk : Bool}

/-- the master of an accepted request has an address -/
theorem acceptedSearchFrame_remoteIp {r : SearchRequest}
    (h : acceptedSearchFrame cfg dg addrInfo = some r) :
    r.addrInfo.remoteIp ≠ ipaddrInvalid := by
  unfold acceptedSearchFrame at h
  split at h
  · cases h
  split at h
  · split at h
    · cases h
    rename_i request _
    split at h
    · rename_i hvalid
      obtain ⟨hvalid, hip⟩ := hvalid
      obtain rfl := Option.some.inj h
      intro hinvalid
      have hzero : cfg.host.le32 request.masterIpAddr = ipaddrInvalid := hip.trans hinvalid
      unfold clSlmpValidateNodeSearchRequest at hvalid
      simp [hzero] at hvalid
    · cases h
  · cases h

/-- an accepted request goes into the record -/
theorem clsSlmpHandleInputFrame_accepted {r : SearchRequest}
    (h : acceptedSearchFrame cfg dg addrInfo = some r) :
    (clsSlmpHandleInputFrame cfg cls now dg addrInfo setOk sendOk).1 = 0
      ∧ (clsSlmpHandleInputFrame cfg cls now dg addrInfo setOk sendOk).2.1
        = r.schedule cls now := by
  unfold acceptedSearchFrame at h
  split at h
  · cases h
  rename_i header hheader
  split at h
  · rename_i hchecks
    obtain ⟨his, hvalid, hcommand, hsub⟩ := hchecks
    split at h
    · cases h
    rename_i request hparse
    split at h
    · rename_i hrequest
      obtain ⟨hrequest, hip⟩ := hrequest
      obtain rfl := Option.some.inj h
      unfold clsSlmpHandleInputFrame
      rw [hheader]
      dsimp only
      rw [his, hvalid]
      simp [hcommand, hsub, clsSlmpHandleNodeSearchRequest, hparse, hrequest, hip,
        SearchRequest.schedule]
    · cases h
  · cases h

/-- no other frame changes the record -/
theorem clsSlmpHandleInputFrame_other (h : acceptedSearchFrame cfg dg addrInfo = none) :
    (clsSlmpHandleInputFrame cfg cls now dg addrInfo setOk sendOk).2.1 = cls := by
  unfold acceptedSearchFrame at h
  unfold clsSlmpHandleInputFrame
  cases hheader : clSlmpParseRequestHeader cfg.host dg with
  | none => rfl
  | some header =>
    rw [hheader] at h
    dsimp only at h ⊢
    split
    · rfl
    rename_i his
    split
    · rfl
    rename_i hvalid
    split
    · rename_i hcommand
      rw [if_pos ⟨(Bool.not_eq_false _).mp his, (Bool.not_eq_false _).mp hvalid, hcommand⟩] at h
      unfold clsSlmpHandleNodeSearchRequest
      cases hparse : clSlmpParseNodeSearchRequest cfg.host dg with
      | none => rfl
      | some request =>
        rw [hparse] at h
        dsimp only at h ⊢
        split
        · rfl
        rename_i hrequest
        split
        · rfl
        rename_i hip
        rw [if_pos ⟨(Bool.not_eq_false _).mp hrequest, not_not.mp hip⟩] at h
        cases h
    · split
      · unfold clsSlmpHandleIpaddressSetRequest
        split
        · rfl
        split
        · rfl
        dsimp only
        split
        · rfl
        split
        · rfl
        · rfl
      · rfl

end

/-! ## the log -/

inductive SearchLog where
  | accepted (r : SearchRequest)
  | answered (x : SlmpSlaveOutput)

namespace SearchLog

def request : SearchLog → Option SearchRequest
  | accepted r => some r
  | answered _ => none

def response : SearchLog → Option SlmpSlaveOutput
  | accepted _ => none
  | answered x => some x

end SearchLog

/-- the slave, with the outputs of `cls_slmp_send_node_search_response` and the accepted requests -/
def searchMachine (cfg : SlmpSlaveConfig) : Machine SlmpSlave SlmpSlaveEvent SearchLog where
  step cls ev :=
    ((slmpSlaveStep cfg cls ev).1,
      (checkResponseTimer cfg cls ev.now ev.sendOk).2.map .answered
        ++ (acceptedSearch cfg ev).toList.map .accepted)

/-- the requests that were accepted -/
def searchRequests (log : List SearchLog) : List SearchRequest := log.filterMap SearchLog.request

/-- the responses that were sent -/
def searchResponses (log : List SearchLog) : List SlmpSlaveOutput :=
  log.filterMap SearchLog.response

theorem searchRequests_append (a b : List SearchLog) : searchRequests (a ++ b) = searchRequests a
      ++ searchRequests b :=
  List.filterMap_append

theorem searchResponses_append (a b : List SearchLog) : searchResponses (a ++ b) = searchResponses a
      ++ searchResponses b :=
  List.filterMap_append

/-- the log of one call -/
theorem searchStep_log (cfg : SlmpSlaveConfig) (cls : SlmpSlave) (ev : SlmpSlaveEvent) :
    searchRequests ((searchMachine cfg).step cls ev).2 = (acceptedSearch cfg ev).toList
      ∧ searchResponses ((searchMachine cfg).step cls ev).2
        = (checkResponseTimer cfg cls ev.now ev.sendOk).2 := by
  unfold searchRequests searchResponses searchMachine
  constructor
  · simp [List.filterMap_append, List.filterMap_map, Function.comp_def, SearchLog.request]
  · simp [List.filterMap_append, List.filterMap_map, Function.comp_def, SearchLog.response]

/-- the state after the frame of a call -/
theorem slmpSlaveStep_state (cfg : SlmpSlaveConfig) (cls : SlmpSlave) (ev : SlmpSlaveEvent) :
    (slmpSlaveStep cfg cls ev).1
      = match acceptedSearch cfg ev with
        | some r => r.schedule (checkResponseTimer cfg cls ev.now ev.sendOk).1 ev.now
        | none => (checkResponseTimer cfg cls ev.now ev.sendOk).1 := by
  unfold slmpSlaveStep clsSlmpPeriodic acceptedSearch
  generalize checkResponseTimer cfg cls ev.now ev.sendOk = t
  cases ev.received with
  | none => rfl
  | some received =>
    obtain ⟨dg, addrInfo⟩ := received
    cases addrInfo with
    | none => rfl
    | some addrInfo =>
      dsimp only
      cases hacc : acceptedSearchFrame cfg dg addrInfo with
      | none => exact clsSlmpHandleInputFrame_other hacc
      | some r => exact (clsSlmpHandleInputFrame_accepted hacc).2

/-- a request is accepted while another one waits for its delay -/
def overlaps (cfg : SlmpSlaveConfig) (cls : SlmpSlave) (ev : SlmpSlaveEvent) : Bool :=
  (acceptedSearch cfg ev).isSome && decide (cls.responseTimer.state = .running)
    && !clTimerIsExpired cls.responseTimer ev.now

/-- the response `x` carries the serial number and the addresses of the request, and it goes to its
port -/
structure AnswersSearch (cfg : SlmpSlaveConfig) (r : SearchRequest) (x : SlmpSlaveOutput) :
    Prop where
  sent : ∃ localIp destIp payload, x = .response localIp destIp r.addrInfo.remotePort payload
    ∧ ∃ resp, clSlmpParseNodeSearchResponse cfg.host payload = some resp
      ∧ cfg.host.le16 resp.header.serial = r.requestSerial
      ∧ clUtilCopyMacReverse resp.masterMacAddr = r.masterMacAddr
      ∧ cfg.host.le32 resp.masterIpAddr = r.addrInfo.remoteIp

/-- the waiting response -/
structure SearchWaits (cls : SlmpSlave) (r : SearchRequest) : Prop where
  running : cls.responseTimer.state = .running
  mac : cls.masterMacAddress = r.masterMacAddr
  ip : cls.masterIpAddr = r.addrInfo.remoteIp
  port : cls.masterPort = r.addrInfo.remotePort
  serial : cls.requestSerial = r.requestSerial
  master : r.addrInfo.remoteIp ≠ ipaddrInvalid

theorem SearchRequest.schedule_waits {cfg : SlmpSlaveConfig} {ev : SlmpSlaveEvent}
    {r : SearchRequest} (h : acceptedSearch cfg ev = some r) (cls : SlmpSlave) :
    SearchWaits (r.schedule cls ev.now) r := by
  refine ⟨rfl, rfl, rfl, rfl, rfl, ?_⟩
  unfold acceptedSearch at h
  split at h
  · exact acceptedSearchFrame_remoteIp h
  · cases h

/-! ## one call -/

section
variable (cfg : SlmpSlaveConfig) {cls : SlmpSlave} {now : UInt32} (sendOk : Bool)

theorem checkResponseTimer_early (h : clTimerIsExpired cls.responseTimer now = false) :
    checkResponseTimer cfg cls now sendOk = (cls, []) := by
  unfold checkResponseTimer
  rw [h, if_neg Bool.false_ne_true]

/-- the response of the waiting request is sent -/
theorem checkResponseTimer_expired (h : clTimerIsExpired cls.responseTimer now = true)
    {r : SearchRequest} (hw : SearchWaits cls r) :
    (checkResponseTimer cfg cls now sendOk).1.responseTimer.state = .stopped
      ∧ ∃ x, (checkResponseTimer cfg cls now sendOk).2 = [x] ∧ AnswersSearch cfg r x := by
  have hmaster : cls.masterIpAddr ≠ ipaddrInvalid := by
    rw [hw.ip]
    exact hw.master
  unfold checkResponseTimer
  rw [if_pos h]
  refine ⟨rfl, ?_⟩
  unfold clsSlmpSendNodeSearchResponse
  simp only [if_neg hmaster]
  refine ⟨_, rfl, ⟨cls.slaveIpAddress, slmpBroadcastAddress cfg cls.slaveNetmask cls.slaveIpAddress,
    _, by rw [hw.port], _, clSlmpParseNodeSearchResponse_bytes cfg.host _, ?_, ?_, ?_⟩⟩
  · exact (Endian.le16_le16 _ _).trans hw.serial
  · exact (clUtilCopyMacReverse_twice _).trans hw.mac
  · exact (Endian.le32_le32 _ _).trans hw.ip

theorem not_expired_of_stopped (h : cls.responseTimer.state = .stopped) :
    clTimerIsExpired cls.responseTimer now = false := clTimerIsExpired_stopped h now

end

/-- the record is empty, or it is the one of an accepted request -/
def SearchConsistent (cls : SlmpSlave) : Prop :=
  cls.responseTimer.state = .stopped ∨ ∃ r, SearchWaits cls r

/-- the number of waiting requests -/
def SlmpSlave.waiting (cls : SlmpSlave) : Nat :=
  if cls.responseTimer.state = .running then 1 else 0

theorem waiting_of_stopped {cls : SlmpSlave} (h : cls.responseTimer.state = .stopped) :
    cls.waiting = 0 := by
  unfold SlmpSlave.waiting
  rw [h]
  rfl

theorem SearchWaits.waiting {cls : SlmpSlave} {r : SearchRequest} (h : SearchWaits cls r) :
    cls.waiting = 1 :=
  if_pos h.running

section
variable (cfg : SlmpSlaveConfig) {cls : SlmpSlave} (ev : SlmpSlaveEvent)

/-- the part of a call before its frame -/
theorem checkResponseTimer_consistent (h : SearchConsistent cls) :
    SearchConsistent (checkResponseTimer cfg cls ev.now ev.sendOk).1
      ∧ cls.waiting = (checkResponseTimer cfg cls ev.now ev.sendOk).2.length
        + (checkResponseTimer cfg cls ev.now ev.sendOk).1.waiting := by
  cases hexp : clTimerIsExpired cls.responseTimer ev.now with
  | false =>
    rw [checkResponseTimer_early cfg ev.sendOk hexp]
    exact ⟨h, (Nat.zero_add _).symm⟩
  | true =>
    rcases h with h | ⟨r, hw⟩
    · rw [not_expired_of_stopped h] at hexp
      cases hexp
    · obtain ⟨hstopped, x, hout, _⟩ := checkResponseTimer_expired cfg ev.sendOk hexp hw
      refine ⟨Or.inl hstopped, ?_⟩
      rw [hout, waiting_of_stopped hstopped, hw.waiting]
      rfl

/-- every overlap costs one response -/
theorem searchStep_length (h : SearchConsistent cls) :
    SearchConsistent ((searchMachine cfg).step cls ev).1
      ∧ (searchRequests ((searchMachine cfg).step cls ev).2).length + cls.waiting
        = (searchResponses ((searchMachine cfg).step cls ev).2).length
          + ((searchMachine cfg).step cls ev).1.waiting
          + if overlaps cfg cls ev then 1 else 0 := by
  obtain ⟨hcheck, hwait⟩ := checkResponseTimer_consistent cfg ev h
  have hstate := slmpSlaveStep_state cfg cls ev
  obtain ⟨hrequests, hresponses⟩ := searchStep_log cfg cls ev
  rw [hresponses, hrequests]
  show SearchConsistent (slmpSlaveStep cfg cls ev).1
    ∧ _ + _ = _ + (slmpSlaveStep cfg cls ev).1.waiting + _
  rw [hstate]
  cases hacc : acceptedSearch cfg ev with
  | none =>
    have hno : overlaps cfg cls ev = false := by
      unfold overlaps
      rw [hacc]
      rfl
    rw [hno]
    refine ⟨hcheck, ?_⟩
    show 0 + cls.waiting = _
    rw [hwait]
    exact Nat.zero_add _
  | some r =>
    have hw := SearchRequest.schedule_waits hacc (checkResponseTimer cfg cls ev.now ev.sendOk).1
    have hover : (if overlaps cfg cls ev then 1 else 0)
        = (checkResponseTimer cfg cls ev.now ev.sendOk).1.waiting := by
      unfold overlaps
      rw [hacc, Option.isSome_some, Bool.true_and]
      cases hexp : clTimerIsExpired cls.responseTimer ev.now with
      | false =>
        rw [checkResponseTimer_early cfg ev.sendOk hexp]
        unfold SlmpSlave.waiting
        simp
      | true =>
        rcases h with h | ⟨r', hw'⟩
        · rw [not_expired_of_stopped h] at hexp
          cases hexp
        · rw [waiting_of_stopped (checkResponseTimer_expired cfg ev.sendOk hexp hw').1]
          simp
    refine ⟨Or.inr ⟨r, hw⟩, ?_⟩
    show 1 + cls.waiting = _
    dsimp only
    rw [hw.waiting, hover]
    omega

/-- a whole run -/
theorem run_searchLog_length (h : SearchConsistent cls) (es : List SlmpSlaveEvent) :
    ∃ k, (searchRequests ((searchMachine cfg).run cls es).2).length + cls.waiting
        = (searchResponses ((searchMachine cfg).run cls es).2).length
          + ((searchMachine cfg).run cls es).1.waiting + k
      ∧ (k = 0 ↔ (searchMachine cfg).Steps (fun cls ev => overlaps cfg cls ev = false) cls es) := by
  induction es generalizing cls with
  | nil => exact ⟨0, rfl, iff_of_true rfl trivial⟩
  | cons ev es ih =>
    obtain ⟨hcons, hstep⟩ := searchStep_length cfg ev h
    obtain ⟨k, hlen, hk⟩ := ih hcons
    rw [Machine.run_cons, searchRequests_append, searchResponses_append, List.length_append,
      List.length_append]
    dsimp only
    refine ⟨k + if overlaps cfg cls ev then 1 else 0, by omega, ?_⟩
    show _ ↔ overlaps cfg cls ev = false ∧ _
    rw [← hk]
    cases overlaps cfg cls ev <;> simp

end

/-! ## runs without an overlap -/

/-- the requests before the waiting one are answered, in their order -/
def SearchesServed (cfg : SlmpSlaveConfig) (log : List SearchLog) (cls : SlmpSlave) : Prop :=
  ∃ done, List.Forall₂ (AnswersSearch cfg) done (searchResponses log)
    ∧ (cls.responseTimer.state = .stopped ∧ searchRequests log = done
      ∨ ∃ r, SearchWaits cls r ∧ searchRequests log = done ++ [r])

section
variable {cfg : SlmpSlaveConfig} {cls : SlmpSlave} {ev : SlmpSlaveEvent} {log : List SearchLog}

theorem SearchesServed.step (h : SearchesServed cfg log cls) (hno : overlaps cfg cls ev = false) :
    SearchesServed cfg (log ++ ((searchMachine cfg).step cls ev).2)
      ((searchMachine cfg).step cls ev).1 := by
  obtain ⟨hrequests, hresponses⟩ := searchStep_log cfg cls ev
  have hstate := slmpSlaveStep_state cfg cls ev
  -- the part of the call before its frame
  have hcheck : ∃ done, List.Forall₂ (AnswersSearch cfg) done
        (searchResponses log ++ (checkResponseTimer cfg cls ev.now ev.sendOk).2)
      ∧ ((checkResponseTimer cfg cls ev.now ev.sendOk).1.responseTimer.state = .stopped
          ∧ searchRequests log = done
        ∨ clTimerIsExpired cls.responseTimer ev.now = false ∧ cls.responseTimer.state = .running
          ∧ ∃ r, SearchWaits (checkResponseTimer cfg cls ev.now ev.sendOk).1 r
            ∧ searchRequests log = done ++ [r]) := by
    obtain ⟨done, hdone, hstopped | ⟨r, hw, hlog⟩⟩ := h
    · rw [checkResponseTimer_early cfg ev.sendOk (not_expired_of_stopped hstopped.1),
        List.append_nil]
      exact ⟨done, hdone, Or.inl hstopped⟩
    · cases hexp : clTimerIsExpired cls.responseTimer ev.now with
      | false =>
        rw [checkResponseTimer_early cfg ev.sendOk hexp, List.append_nil]
        exact ⟨done, hdone, Or.inr ⟨rfl, hw.running, r, hw, hlog⟩⟩
      | true =>
        obtain ⟨hstopped, x, hout, hx⟩ :=
          checkResponseTimer_expired cfg ev.sendOk hexp hw
        refine ⟨done ++ [r], ?_, Or.inl ⟨hstopped, hlog⟩⟩
        rw [hout]
        exact List.rel_append hdone (.cons hx .nil)
  obtain ⟨done, hdone, hcases⟩ := hcheck
  unfold SearchesServed
  rw [searchRequests_append, searchResponses_append, hrequests, hresponses]
  show ∃ done, _ ∧ ((slmpSlaveStep cfg cls ev).1.responseTimer.state = _ ∧ _
    ∨ ∃ r, SearchWaits (slmpSlaveStep cfg cls ev).1 r ∧ _)
  rw [hstate]
  refine ⟨done, hdone, ?_⟩
  cases hacc : acceptedSearch cfg ev with
  | none =>
    rw [Option.toList_none, List.append_nil]
    exact hcases.imp id (fun h => h.2.2)
  | some r =>
    have hw := SearchRequest.schedule_waits hacc (checkResponseTimer cfg cls ev.now ev.sendOk).1
    rcases hcases with ⟨_, hlog⟩ | ⟨hexp, hrunning, _⟩
    · exact Or.inr ⟨r, hw, by rw [hlog]; rfl⟩
    · unfold overlaps at hno
      simp [hacc, hexp, hrunning] at hno

end

/-- the responses are the answers to the accepted requests, one for each -/
def AllSearchesAnswered (cfg : SlmpSlaveConfig) (log : List SearchLog) : Prop :=
  ∃ answers, answers.Perm (searchResponses log)
    ∧ List.Forall₂ (AnswersSearch cfg) (searchRequests log) answers

theorem AllSearchesAnswered.length_eq {cfg : SlmpSlaveConfig} {log : List SearchLog}
    (h : AllSearchesAnswered cfg log) :
    (searchRequests log).length = (searchResponses log).length := by
  obtain ⟨answers, hperm, hall⟩ := h
  rw [hall.length_eq, hperm.length_eq]

/-- **Every accepted node search is answered if and only if no accepted one arrives while another
one waits for its delay.** -/
theorem searchResponses_iff (cfg : SlmpSlaveConfig) (cls : SlmpSlave) (es : List SlmpSlaveEvent)
    (hend : ((searchMachine cfg).run (clsSlmpInit cls) es).1.responseTimer.state = .stopped) :
    AllSearchesAnswered cfg ((searchMachine cfg).run (clsSlmpInit cls) es).2
      ↔ (searchMachine cfg).Steps (fun cls ev => overlaps cfg cls ev = false) (clsSlmpInit cls)
          es := by
  have hinit : (clsSlmpInit cls).responseTimer.state = .stopped := rfl
  obtain ⟨k, hlen, hk⟩ := run_searchLog_length cfg (Or.inl hinit) es
  rw [← hk]
  rw [waiting_of_stopped hinit, waiting_of_stopped hend] at hlen
  constructor
  · intro h
    have := h.length_eq
    omega
  · intro hzero
    have hserved := (searchMachine cfg).run_inv (I := SearchesServed cfg)
      (fun log cls ev h hno => h.step hno) [] (s := clsSlmpInit cls)
      ⟨[], .nil, Or.inl ⟨hinit, rfl⟩⟩ (hk.mp hzero)
    rw [List.nil_append] at hserved
    obtain ⟨done, hdone, ⟨_, hlog⟩ | ⟨r, hw, _⟩⟩ := hserved
    · exact ⟨_, .refl _, hlog ▸ hdone⟩
    · rw [hw.running] at hend
      cases hend

/-- a call in which the node search of a master arrives -/
def exampleSearchEvent (now : UInt32) (masterIp : IpAddr) (serial : UInt16) : SlmpSlaveEvent :=
  { now := now
    received := some (.ofBytes ((clSlmpPrepareNodeSearchRequestFrame .little (fun _ => 0x02)
      masterIp serial).bytes .little), some { exampleAddrInfo with remoteIp := masterIp })
    sendOk := true, setOk := true, sendAnswerOk := true }

/-- a call in which nothing arrives -/
def exampleIdleEvent (now : UInt32) : SlmpSlaveEvent :=
  { now := now, received := none, sendOk := true, setOk := true, sendAnswerOk := true }

/-- two masters, one after the other -/
theorem searchResponses_example : AllSearchesAnswered exampleSlmpSlaveConfig
    ((searchMachine exampleSlmpSlaveConfig).run (clsSlmpInit exampleSlmpSlave)
      [exampleSearchEvent 0 0xC0A80001 7, exampleSearchEvent 1000000 0xC0A80009 8,
        exampleIdleEvent 2000000]).2 :=
  (searchResponses_iff exampleSlmpSlaveConfig exampleSlmpSlave _ (by decide +kernel)).mpr
    ⟨by decide +kernel, by decide +kernel, by decide +kernel, trivial⟩

/-- two masters at almost the same time: the first one gets no response -/
theorem overlappingSearch_unanswered :
    ¬ ∀ (cfg : SlmpSlaveConfig) (cls : SlmpSlave) (es : List SlmpSlaveEvent),
      ((searchMachine cfg).run (clsSlmpInit cls) es).1.responseTimer.state = .stopped →
        AllSearchesAnswered cfg ((searchMachine cfg).run (clsSlmpInit cls) es).2 := by
  intro h
  have hall := h exampleSlmpSlaveConfig exampleSlmpSlave [exampleSearchEvent 0 0xC0A80001 7,
    exampleSearchEvent 1000 0xC0A80009 8, exampleIdleEvent 2000000] (by decide +kernel)
  exact absurd hall.length_eq (by decide +kernel)

end CLink
