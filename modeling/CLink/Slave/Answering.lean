import CLink.Slave.MasterTimeout
import CLink.Slave.Unaffected

/-!
# Which requests a slave answers, and with what

The answers of the state machine, its chained events and its search for the own stations, as one
table.

* `CyclicRequest.ownStations`   what a slave finds in the list of slave ids;
* `Cls.answer`                  the table: the end code, and whether the data of the application goes
                                out with it;
* `handleCyclicRequest_answer`  the code follows the table;
* `SlaveStart.answers`          in every run, for every datagram;
* `clsStep_punctual`            a tick that finds no timer expired.
-/

namespace CLink
open Loop

/-! ## the table -/

/-- the first station with the own address, and how many the list gives to it -/
def CyclicRequest.ownStations (r : CyclicRequest) : Option (UInt16 × UInt16) :=
  match clIefbAnalyzeSlaveIds r.slaveIpAddr r.totalOccupied r.slaveIds with
  | none => none
  | some info =>
    if info.foundMySlaveId then some (info.mySlaveStationNo, info.impliedOccupationCount) else none

namespace Cls
variable (c : Cls) (r : CyclicRequest)

/-- without a master, or with other parameters of its master -/
def connectAnswer : Option (UInt16 × Bool) :=
  match r.ownStations with
  | none => none
  | some (q, count) =>
    if count ≠ c.config.numOccupiedStations then some (endcodeWrongNumberOccupiedStations, false)
    else if r.bit q then none
    else some (endcodeSuccess, false)

/-- the stored stations are still those of the slave -/
def Keeps : Prop :=
  r.groupNo = c.master.groupNo
    ∧ 1 ≤ c.master.slaveStationNo.toNat
    ∧ c.master.slaveStationNo.toNat - 1 + c.config.numOccupiedStations.toNat ≤ r.totalOccupied.toNat
    ∧ r.slaveIds (c.master.slaveStationNo.toNat - 1) = r.slaveIpAddr

instance keepsDecidable : Decidable (c.Keeps r) := by
  unfold Keeps
  infer_instance

def disabledAnswer : Option (UInt16 × Bool) :=
  match r.ownStations with
  | none => none
  | some (q, count) =>
    if count = c.config.numOccupiedStations ∧ r.bit q then some (c.endcodeSlaveDisabled, false)
    else none

/-- from a slave that has a control master -/
def controlAnswer : Option (UInt16 × Bool) :=
  if r.masterId ≠ c.master.masterId then some (endcodeMasterDuplication, false)
  else if r.parameterNo ≠ c.master.parameterNo ∨ r.frameSequenceNo = 0 then c.connectAnswer r
  else if c.Keeps r then some (endcodeSuccess, r.bit c.master.slaveStationNo)
  else none

/-- the end code of the answer, and whether it carries the data of the application -/
def answer : Option (UInt16 × Bool) :=
  match c.state with
  | .slaveDown => none
  | .slaveDisabled => none
  | .waitDisablingSlave => c.disabledAnswer r
  | .masterNone => c.connectAnswer r
  | .masterControl => c.controlAnswer r

end Cls

theorem CyclicRequest.ownStations_iff {r : CyclicRequest} {q count : UInt16} :
    r.ownStations = some (q, count) ↔ FoundStation r q count := by
  unfold ownStations FoundStation
  cases clIefbAnalyzeSlaveIds r.slaveIpAddr r.totalOccupied r.slaveIds with
  | none => simp
  | some info =>
    obtain ⟨found, q', count'⟩ := info
    cases found <;> simp

/-! ## the code follows the table -/

/-- the answers of the slave `c` that `t` has on top of those of `s` -/
def Sends (c : Cls) (v : Received) (r : CyclicRequest) (answer : Option (UInt16 × Bool))
    (s t : ClsScope) : Prop :=
  t.out.filter ClsOutput.isResponse = s.out.filter ClsOutput.isResponse
    ++ answer.toList.map fun a => .sendResponse v.remoteIp v.remotePort
      (responseToSend c r.frameSequenceNo r.groupNo a.2 a.1 v.slaveIpAddr).datagram

section
variable (now : UInt32) {r : CyclicRequest} {v : Received} {c : Cls} {s u t : ClsScope}

theorem Sends.nothing (h : Adds ClsOutput.isResponse s t) : Sends c v r none s t := by
  have hfilter := h.filter []
  rw [List.nil_append, List.nil_append] at hfilter
  exact hfilter.trans (List.append_nil _).symm

theorem Sends.refusal {endCode : UInt16} (h : Refuses c v r endCode s t) :
    Sends c v r (some (endCode, false)) s t := h

theorem Sends.of_adds {answer : Option (UInt16 × Bool)} (hs : Adds ClsOutput.isResponse s u)
    (h : Sends c v r answer u t) : Sends c v r answer s t := by
  have hfilter := hs.filter []
  rw [List.nil_append, List.nil_append] at hfilter
  unfold Sends
  rw [← hfilter]
  exact h

/-- with the end code for success the slave has a control master afterwards -/
structure Gives (c : Cls) (v : Received) (r : CyclicRequest) (answer : Option (UInt16 × Bool))
    (s t : ClsScope) : Prop where
  sends : Sends c v r answer s t
  control : ∀ b, answer = some (endcodeSuccess, b) → t.cls.state = .masterControl

theorem Gives.nothing (h : Adds ClsOutput.isResponse s t) : Gives c v r none s t := by
  refine ⟨.nothing h, ?_⟩
  intro b hb
  cases hb

theorem Gives.refusal {endCode : UInt16} (h : Sends c v r (some (endCode, false)) s t)
    (hne : endCode ≠ endcodeSuccess) : Gives c v r (some (endCode, false)) s t := by
  refine ⟨h, ?_⟩
  intro b hb
  exact absurd (congrArg Prod.fst (Option.some.inj hb)) hne

/-- the cyclic event of a connected slave, with its stations in the request -/
theorem clsIefbHandleCyclicEvent_sends (hv : v.cyclicRequest = some r) (hf : Frames u.cls)
    (hu : Connected c r u.cls)
    (hfits : u.cls.master.slaveStationNo.toNat - 1 + u.cls.config.numOccupiedStations.toNat
      ≤ r.totalOccupied.toNat) :
    Sends c v r (some (endcodeSuccess, r.bit u.cls.master.slaveStationNo)) u
      (clsIefbHandleCyclicEvent now r u).1 := by
  have hr := Received.cyclicRequest_valid hv
  rcases clsIefbHandleCyclicEvent_answers now hv hf hu with h | ⟨bit, dg, hdg, hbit, hout, _⟩
  · -- the copy succeeds, so something is sent
    obtain ⟨area, hcopy⟩ := clsIefbCopyCyclicDataFromRequest_exists
      (clsTransmissionBit u.cls r) hu.own.pos hf.stations.1 hr.stations.2 hfits
    have heq : (clsIefbHandleCyclicEvent now r u).1
        = answerRequest now r (clsTransmissionBit u.cls r) (u.storeCyclicData r area) := by
      unfold clsIefbHandleCyclicEvent
      simp only [hcopy]
    have hadds : Adds ClsOutput.isResponse u (clsIefbHandleMasterStateCallback true r.protocolVer
        r.masterLocalUnitInfo (u.storeCyclicData r area)) :=
      clsIefbHandleMasterStateCallback_adds _ _ _ (u.storeCyclicData r area) fun _ _ _ _ _ => rfl
    obtain ⟨x, hx, hsent⟩ : ∃ x, x.isResponse = true
        ∧ (answerRequest now r (clsTransmissionBit u.cls r) (u.storeCyclicData r area)).out
          = (clsIefbHandleMasterStateCallback true r.protocolVer r.masterLocalUnitInfo
              (u.storeCyclicData r area)).out ++ [x] :=
      ⟨_, rfl, clsIefbSendCyclicResponseFrame_out _ _ _ _ _ _ _ _ rfl⟩
    have hbefore := hadds.filter []
    have hafter := h.filter []
    rw [List.nil_append, List.nil_append] at hbefore hafter
    rw [heq, hsent, List.filter_append, hbefore, List.filter_singleton, hx] at hafter
    have hlength := congrArg List.length hafter
    rw [List.length_append] at hlength
    exact absurd hlength (by simp)
  · unfold Sends
    rw [hout, hdg, hbit]
    rfl

/-- without its stations in the request -/
theorem clsIefbHandleCyclicEvent_unfit (hf : Frames u.cls)
    (hfits : ¬ u.cls.master.slaveStationNo.toNat - 1 + u.cls.config.numOccupiedStations.toNat
      ≤ r.totalOccupied.toNat) :
    (clsIefbHandleCyclicEvent now r u).1 = u := by
  rcases clsIefbHandleCyclicEvent_cases now r u with h | ⟨area, hcopy, _⟩
  · exact h
  · exact absurd (clsIefbCopyCyclicDataFromRequest_some hf.stations hcopy).1 hfits

/-- the first event of a new or updated master, and its cyclic event -/
theorem connect_sends {w : ClsScope} (hv : v.cyclicRequest = some r) (hf : Frames w.cls)
    (hreply : responseToSend w.cls = responseToSend c)
    (hnormal : w.cls.cciefbRespFrameNormal = c.cciefbRespFrameNormal)
    (hconfig : w.cls.config = c.config) (hstate : w.cls.state = .masterControl)
    (hq : FoundStation r w.cls.master.slaveStationNo w.cls.config.numOccupiedStations)
    (hbit : r.bit w.cls.master.slaveStationNo = false)
    (hu : u.cls = (clsIefbHandleNewOrUpdatedMaster now r w).1.cls)
    (hadds : Adds ClsOutput.isResponse s u) :
    Gives c v r (some (endcodeSuccess, false)) s (clsIefbHandleCyclicEvent now r u).1 := by
  have hr := Received.cyclicRequest_valid hv
  have hfu : Frames u.cls := by
    rw [hu]
    exact hf.newOrUpdatedMaster now
  obtain ⟨period, hcls⟩ := clsIefbHandleNewOrUpdatedMaster_cls now r w
  rw [hcls] at hu
  have hconnected : Connected c r u.cls := by
    rw [hu]
    exact ⟨hconfig, hnormal, hreply, hstate, rfl, hq.own hr⟩
  have hstation : u.cls.master.slaveStationNo = w.cls.master.slaveStationNo := by
    rw [hu]
    rfl
  have hfits : u.cls.master.slaveStationNo.toNat - 1 + u.cls.config.numOccupiedStations.toNat
      ≤ r.totalOccupied.toNat := by
    rw [hu]
    exact clIefbAnalyzeSlaveIds_fits hr.stations hq rfl
  have hsends := clsIefbHandleCyclicEvent_sends now hv hfu hconnected hfits
  rw [hstation, hbit] at hsends
  refine ⟨hsends.of_adds hadds, fun _ _ => ?_⟩
  rcases clsIefbHandleCyclicEvent_cases now r u with heq | ⟨area, _, heq⟩
  · rw [heq]
    exact hconnected.control
  · obtain ⟨_, _, _, hanswer⟩ := answerRequest_cls now r (clsTransmissionBit u.cls r)
      (u.storeCyclicData r area)
    rw [heq, hanswer]
    exact hconnected.control

/-- the error frame for a wrong number of stations -/
theorem clsIefbFsmEvent_wrongStationcount_sends (hv : v.cyclicRequest = some r)
    (hc : s.cls.state = .masterNone ∨ s.cls.state = .masterControl) :
    Sends s.cls v r (some (endcodeWrongNumberOccupiedStations, false)) s
      (clsIefbFsmEvent now (some r) .cyclicWrongStationcount s) := by
  have hr := Received.cyclicRequest_valid hv
  rcases hc with hc | hc
  · rw [clsIefbFsmEvent_wrongStationcount_none now r hc]
    exact .refusal (clsIefbSendCyclicResponseErrorFrame_refuses hr rfl rfl)
  · rw [clsIefbFsmEvent_wrongStationcount_control now r hc]
    have hreply : responseToSend (s.leaveFor .masterNone).cls = responseToSend s.cls := by
      unfold ClsScope.leaveFor
      split <;> rfl
    have hrefuses : Refuses s.cls v r endcodeWrongNumberOccupiedStations (s.leaveFor .masterNone)
        (clsIefbHandleWrongStationcount r (s.leaveFor .masterNone)).1 :=
      clsIefbSendCyclicResponseErrorFrame_refuses hr hreply rfl
    have hafter (w : ClsScope) : Adds ClsOutput.isResponse w
        ((clsIefbClearMasterInfo w).emit (.stateCb .masterNone)) := by
      have hclear : Adds ClsOutput.isResponse w (clsIefbClearMasterInfo w) :=
        performOption_adds rfl (fun _ _ _ _ _ => rfl) now (some .onEntryMasterNone) w
      exact hclear.trans (.emit rfl _)
    exact .refusal ((hrefuses.of_adds (leaveFor_adds rfl s _)).adds (hafter _))

/-- the slave takes the sender as its master -/
theorem clsIefbFsmEvent_newMaster_sends (hv : v.cyclicRequest = some r) (hf : Frames s.cls)
    (hc : s.cls.state = .masterNone ∨ s.cls.state = .masterControl) {q : UInt16}
    (hq : FoundStation r q s.cls.config.numOccupiedStations) (hbit : r.bit q = false) :
    Gives s.cls v r (some (endcodeSuccess, false)) s
      (clsIefbFsmEvent now (some r) .cyclicNewMaster (s.storeStation q)) := by
  have hstore : Frames (s.storeStation q).cls := hf.same ⟨rfl, rfl, rfl, rfl, rfl⟩
  rcases hc with hc | hc
  · have hleave : ((s.storeStation q).leaveFor .masterControl).cls
        = { (s.storeStation q).cls with state := .masterControl } := by
      unfold ClsScope.leaveFor
      split <;> rfl
    have hadds := (leaveFor_adds rfl (s.storeStation q) .masterControl).trans
      ((clsIefbHandleNewOrUpdatedMaster_adds now r ((s.storeStation q).leaveFor .masterControl)
        (p := ClsOutput.isResponse) (fun _ _ _ => rfl) (fun _ _ _ _ _ => rfl)).trans
        (.emit (x := .stateCb .masterControl) rfl _))
    rw [clsIefbFsmEvent_newMaster_none now r (s := s.storeStation q) hc]
    refine connect_sends now (w := (s.storeStation q).leaveFor .masterControl) hv
      (hstore.leaveFor _) ?_ ?_ ?_ ?_ ?_ ?_ rfl hadds <;> rw [hleave]
    · rfl
    · rfl
    · rfl
    · exact hq
    · exact hbit
  · have hadds := clsIefbHandleNewOrUpdatedMaster_adds now r (s.storeStation q)
      (p := ClsOutput.isResponse) (fun _ _ _ => rfl) (fun _ _ _ _ _ => rfl)
    rw [clsIefbFsmEvent_newMaster_control now r (s := s.storeStation q) hc]
    exact connect_sends now hv hstore rfl rfl rfl hc hq hbit rfl hadds

/-- the search of a slave that can connect -/
theorem clsIefbSearchSlaveParameters_sends (hv : v.cyclicRequest = some r) (hf : Frames s.cls)
    (hc : s.cls.state = .masterNone ∨ s.cls.state = .masterControl)
    (hmaster : s.cls.state = .masterControl → clsIefbIsMasterIdCorrect s.cls r.masterId = true) :
    Gives s.cls v r (s.cls.connectAnswer r) s (clsIefbSearchSlaveParameters now r s).1 := by
  have hidle : ¬ (s.cls.state = .slaveDown ∨ s.cls.state = .slaveDisabled) := by
    rcases hc with hc | hc <;> simp [hc]
  have hwait : s.cls.state ≠ .waitDisablingSlave := by
    rcases hc with hc | hc <;> simp [hc]
  unfold clsIefbSearchSlaveParameters Cls.connectAnswer
  rw [if_neg hidle]
  cases hinfo : clIefbAnalyzeSlaveIds r.slaveIpAddr r.totalOccupied r.slaveIds with
  | none =>
    have hown : r.ownStations = none := by
      unfold CyclicRequest.ownStations
      rw [hinfo]
    rw [hown]
    exact .nothing (.of_eq rfl)
  | some info =>
    simp only
    by_cases hfound : info.foundMySlaveId = true
    case neg =>
      have hown : r.ownStations = none := by
        unfold CyclicRequest.ownStations
        rw [hinfo]
        exact if_neg hfound
      rw [hown, if_pos ((Bool.not_eq_true _).mp hfound)]
      exact .nothing (.of_eq rfl)
    have hown : r.ownStations = some (info.mySlaveStationNo, info.impliedOccupationCount) := by
      unfold CyclicRequest.ownStations
      rw [hinfo]
      exact if_pos hfound
    rw [hown, if_neg (by rw [hfound]; decide)]
    have hq := CyclicRequest.ownStations_iff.mp hown
    simp only
    by_cases hcount : info.impliedOccupationCount = s.cls.config.numOccupiedStations
    case neg =>
      rw [if_pos hcount, if_pos hcount]
      have hrep := (Reported.logWarning .wrongNumberOccupied now s).trans
        (.triggerError now .wrongNumberOccupied ipaddrInvalid info.impliedOccupationCount _)
      have hsends := clsIefbFsmEvent_wrongStationcount_sends now hv
        (hc.imp hrep.kept.state.trans hrep.kept.state.trans)
      unfold Sends at hsends
      rw [hrep.reply] at hsends
      exact .refusal (Sends.of_adds (hrep.adds fun _ _ _ => rfl) hsends) (by decide)
    rw [if_neg (not_not.mpr hcount), if_neg (not_not.mpr hcount), if_neg hwait]
    rw [hcount] at hq
    have hconnect := clsIefbFsmEvent_newMaster_sends now hv hf hc hq
    by_cases hbit : r.bit info.mySlaveStationNo = true
    · have henabled : clIefbExtractMyTransmissionState r.transmissionStates
          info.mySlaveStationNo = true := hbit
      rw [if_pos hbit, henabled]
      rcases hc with hc | hc
      · rw [if_pos hc]
        exact .nothing ((Reported.triggerError now .slaveStationDuplication ipaddrInvalid 0 s).adds
          fun _ _ _ => rfl)
      · rw [if_neg (by rw [hc]; decide), if_neg (by rw [hmaster hc]; decide)]
        exact .nothing (.of_eq rfl)
    · have henabled : clIefbExtractMyTransmissionState r.transmissionStates
          info.mySlaveStationNo = false := (Bool.not_eq_true _).mp hbit
      have hfollows := hconnect ((Bool.not_eq_true _).mp hbit)
      rw [if_neg hbit, henabled]
      rcases hc with hc | hc
      · rw [if_pos hc]
        exact hfollows
      · rw [if_neg (by rw [hc]; decide), if_neg (by rw [hmaster hc]; decide)]
        exact hfollows

/-- the search of a slave that waits for its disabling -/
theorem clsIefbSearchSlaveParameters_disabled (hv : v.cyclicRequest = some r) (hf : Frames s.cls)
    (hc : s.cls.state = .waitDisablingSlave) :
    Sends s.cls v r (s.cls.disabledAnswer r) s (clsIefbSearchSlaveParameters now r s).1 := by
  have hr := Received.cyclicRequest_valid hv
  unfold clsIefbSearchSlaveParameters Cls.disabledAnswer
  rw [if_neg (by rw [hc]; decide)]
  cases hinfo : clIefbAnalyzeSlaveIds r.slaveIpAddr r.totalOccupied r.slaveIds with
  | none =>
    have hown : r.ownStations = none := by
      unfold CyclicRequest.ownStations
      rw [hinfo]
    rw [hown]
    exact .nothing (.of_eq rfl)
  | some info =>
    simp only
    by_cases hfound : info.foundMySlaveId = true
    case neg =>
      have hown : r.ownStations = none := by
        unfold CyclicRequest.ownStations
        rw [hinfo]
        exact if_neg hfound
      rw [hown, if_pos ((Bool.not_eq_true _).mp hfound)]
      exact .nothing (.of_eq rfl)
    have hown : r.ownStations = some (info.mySlaveStationNo, info.impliedOccupationCount) := by
      unfold CyclicRequest.ownStations
      rw [hinfo]
      exact if_pos hfound
    rw [hown, if_neg (by rw [hfound]; decide)]
    simp only
    by_cases hcount : info.impliedOccupationCount = s.cls.config.numOccupiedStations
    case neg =>
      -- the event has no row, so only the warnings are left
      have hrep := (Reported.logWarning .wrongNumberOccupied now s).trans
        (.triggerError now .wrongNumberOccupied ipaddrInvalid info.impliedOccupationCount _)
      have hidle : slaveFsmMatrix (clsIefbTriggerErrorCallback now .wrongNumberOccupied ipaddrInvalid
          info.impliedOccupationCount (clsIefbLogWarningOnce .wrongNumberOccupied now s)).cls.state
          .cyclicWrongStationcount
          = ((clsIefbTriggerErrorCallback now .wrongNumberOccupied ipaddrInvalid
              info.impliedOccupationCount
              (clsIefbLogWarningOnce .wrongNumberOccupied now s)).cls.state, none) := by
        rw [hrep.kept.state, hc]
        rfl
      rw [if_pos hcount, if_neg (fun h => hcount h.1), clsIefbFsmEvent_idle now _ hidle]
      exact .nothing (hrep.adds fun _ _ _ => rfl)
    rw [if_neg (not_not.mpr hcount), if_pos hc]
    by_cases hbit : r.bit info.mySlaveStationNo = true
    · have henabled : clIefbExtractMyTransmissionState r.transmissionStates
          info.mySlaveStationNo = true := hbit
      have hcode : clIsSlaveEndcodeValid s.cls.endcodeSlaveDisabled = true := by
        rcases hf.endcode with h | h <;> rw [h] <;> rfl
      rw [if_pos ⟨hcount, hbit⟩, if_pos henabled, clsIefbFsmEvent_incomingWhenDisabled now r hc]
      exact .refusal (clsIefbSendCyclicResponseErrorFrame_refuses hr rfl hcode)
    · have henabled : ¬ clIefbExtractMyTransmissionState r.transmissionStates
          info.mySlaveStationNo = true := hbit
      rw [if_neg (fun h => hbit h.2), if_neg henabled]
      exact .nothing (.of_eq rfl)

/-- **The answer to a request.** -/
theorem handleCyclicRequest_answer (hv : v.cyclicRequest = some r) (hf : Frames s.cls)
    (hinv : SlaveInv s.cls) :
    Gives s.cls v r (s.cls.answer r) s (handleCyclicRequest now r s).1 := by
  have hr := Received.cyclicRequest_valid hv
  unfold handleCyclicRequest Cls.answer
  cases hc : s.cls.state with
  | slaveDown => exact .nothing (.of_eq rfl)
  | slaveDisabled => exact .nothing (.of_eq rfl)
  | waitDisablingSlave =>
    refine ⟨clsIefbSearchSlaveParameters_disabled now hv hf hc, ?_⟩
    -- the end code of a disabled slave is an error
    intro b h
    have hne : s.cls.endcodeSlaveDisabled ≠ endcodeSuccess := by
      rcases hf.endcode with h | h <;> rw [h] <;> decide
    simp only [Cls.disabledAnswer] at h
    split at h
    · cases h
    split at h
    · exact absurd (congrArg Prod.fst (Option.some.inj h)) hne
    · cases h
  | masterNone =>
    refine clsIefbSearchSlaveParameters_sends now hv hf (Or.inl hc) ?_
    rw [hc]
    exact fun h => SlaveState.noConfusion h
  | masterControl =>
    simp only [Cls.controlAnswer]
    rw [if_neg (show ¬ (SlaveState.masterControl = .slaveDown
        ∨ SlaveState.masterControl = .slaveDisabled) by decide),
      if_neg (show ¬ SlaveState.masterControl ≠ .masterControl by decide)]
    by_cases hid : r.masterId = s.cls.master.masterId
    case neg =>
      have hwrong : clsIefbIsMasterIdCorrect s.cls r.masterId = false := by
        unfold clsIefbIsMasterIdCorrect
        rw [if_neg (hinv.control hc).1]
        exact decide_eq_false hid
      have hrep := (Reported.logWarning .masterDuplication now s).trans
        (.triggerError now .masterStationDuplication r.masterId 0 _)
      rw [if_pos hwrong, if_pos hid, clsIefbFsmEvent_wrongMaster now r hc]
      refine .refusal (.refusal ?_) (by decide)
      exact (clsIefbSendCyclicResponseErrorFrame_refuses hr hrep.reply rfl).of_adds
        (hrep.adds fun _ _ _ => rfl)
    have hcorrect := clsIefbIsMasterIdCorrect_of_eq hinv hc hid
    have hsearch := clsIefbSearchSlaveParameters_sends now hv hf (Or.inr hc) fun _ => hcorrect
    have hright : ¬ clsIefbIsMasterIdCorrect s.cls r.masterId = false := by
      rw [hcorrect]
      decide
    rw [if_neg (not_not.mpr hid), if_neg hright]
    by_cases hparameter : r.parameterNo = s.cls.master.parameterNo
    case neg =>
      rw [if_pos hparameter, if_pos (Or.inl hparameter)]
      exact hsearch
    rw [if_neg (not_not.mpr hparameter)]
    by_cases hseq : r.frameSequenceNo = 0
    · rw [if_pos hseq, if_pos (Or.inr hseq)]
      exact hsearch
    rw [if_neg hseq, if_neg (fun h => h.elim (fun h => h hparameter) hseq)]
    by_cases hgroup : r.groupNo = s.cls.master.groupNo
    case neg =>
      rw [if_pos hgroup, if_neg (fun h => hgroup h.1)]
      exact .nothing (.of_eq rfl)
    rw [if_neg (not_not.mpr hgroup)]
    obtain ⟨_, ⟨hpos, hle⟩, _⟩ := hinv.control hc
    have hmin : minOccupiedStationsPerGroup.toNat = 1 := rfl
    have hmax : maxOccupiedStationsPerGroup.toNat = 16 := rfl
    unfold clIefbRequestGetSlaveId
    rw [if_neg (not_not.mpr ((occupiedStationsInRange_iff _).mpr hr.stations))]
    by_cases hrange : s.cls.master.slaveStationNo.toNat ≤ r.totalOccupied.toNat
    case neg =>
      have hbeyond : s.cls.master.slaveStationNo < minOccupiedStationsPerGroup
          ∨ s.cls.master.slaveStationNo > maxOccupiedStationsPerGroup
          ∨ s.cls.master.slaveStationNo > r.totalOccupied := by
        refine Or.inr (Or.inr ?_)
        rw [gt_iff_lt, UInt16.lt_iff_toNat_lt]
        omega
      have hnot : ¬ s.cls.Keeps r := by
        intro h
        have hfits := h.2.2.1
        have hstations := hf.stations.1
        omega
      rw [if_pos hbeyond, if_neg hnot]
      exact .nothing (.of_eq rfl)
    have hwithin : ¬ (s.cls.master.slaveStationNo < minOccupiedStationsPerGroup
        ∨ s.cls.master.slaveStationNo > maxOccupiedStationsPerGroup
        ∨ s.cls.master.slaveStationNo > r.totalOccupied) := by
      rw [gt_iff_lt, gt_iff_lt, UInt16.lt_iff_toNat_lt, UInt16.lt_iff_toNat_lt,
        UInt16.lt_iff_toNat_lt]
      omega
    rw [if_neg hwithin]
    simp only
    by_cases hown : r.slaveIds (s.cls.master.slaveStationNo.toNat - 1) = r.slaveIpAddr
    case neg =>
      rw [if_neg (fun h : s.cls.Keeps r => hown h.2.2.2)]
      split <;> exact .nothing (.of_eq rfl)
    have hvalid : ¬ r.slaveIds (s.cls.master.slaveStationNo.toNat - 1) = ipaddrInvalid := by
      rw [hown]
      exact hr.slaveIpAddr_ne
    rw [if_neg hvalid, if_neg (not_not.mpr hown), clsIefbFsmEvent_correctMaster now r hc]
    by_cases hfits : s.cls.master.slaveStationNo.toNat - 1 + s.cls.config.numOccupiedStations.toNat
        ≤ r.totalOccupied.toNat
    · rw [if_pos ⟨hgroup, hpos, hfits, hown⟩]
      have hconnected : Connected s.cls r s.cls :=
        ⟨rfl, rfl, rfl, hc, hid.symm, hpos, hrange, hown⟩
      refine ⟨clsIefbHandleCyclicEvent_sends now hv hf hconnected hfits, fun _ _ => ?_⟩
      rcases clsIefbHandleCyclicEvent_cases now r s with heq | ⟨area, _, heq⟩
      · rw [heq]
        exact hc
      · obtain ⟨_, _, _, hanswer⟩ := answerRequest_cls now r (clsTransmissionBit s.cls r)
          (s.storeCyclicData r area)
        rw [heq, hanswer]
        exact hc
    · rw [if_neg (fun h : s.cls.Keeps r => hfits h.2.2.1),
        clsIefbHandleCyclicEvent_unfit now hf hfits]
      exact .nothing (.of_eq rfl)

/-! ## the answers of every run -/

/-- what a slave sends for a datagram -/
theorem clsIefbHandleInputFrame_answer (now : UInt32) (v : Received) (hf : Frames s.cls)
    (hinv : SlaveInv s.cls) :
    match v.cyclicRequest with
    | none => (clsIefbHandleInputFrame now v s).1 = s
    | some r => Gives s.cls v r (s.cls.answer r) s (clsIefbHandleInputFrame now v s).1 := by
  rw [clsIefbHandleInputFrame_eq]
  cases hv : v.cyclicRequest with
  | none => rfl
  | some r => exact handleCyclicRequest_answer now hv hf hinv

/-- **The answers of a slave.**  After every run, the responses to a datagram, and those of the
`cls_periodic` call that receives it, are what the table says of the request in it; nothing is sent
for other datagrams, and a slave that answers with the end code for success has a control master
after the reception. -/
theorem SlaveStart.answers {o : Options} (st : SlaveStart o) (es : List ClsEvent) (now : UInt32)
    (v : Received) :
    let c := (st.run es).1
    let t := (clsIefbHandleInputFrame now v ⟨c, []⟩).1
    let responses := match v.cyclicRequest with
      | none => []
      | some r => (c.answer r).toList.map fun a => ClsOutput.sendResponse v.remoteIp v.remotePort
          (responseToSend c r.frameSequenceNo r.groupNo a.2 a.1 v.slaveIpAddr).datagram
    t.out.filter ClsOutput.isResponse = responses
      ∧ (c.aborted = false →
        (slave.step c (.periodic now (some v))).2.filter ClsOutput.isResponse = responses)
      ∧ ∀ r b, v.cyclicRequest = some r → c.answer r = some (endcodeSuccess, b) →
        t.cls.state = .masterControl := by
  intro c t responses
  have hanswer := clsIefbHandleInputFrame_answer (s := ⟨c, []⟩) now v (st.run_frames es)
    (st.run_steady es).inv
  have hout : t.out.filter ClsOutput.isResponse = responses := by
    cases hv : v.cyclicRequest with
    | none =>
      rw [hv] at hanswer
      have hsame : t = ⟨c, []⟩ := hanswer
      show t.out.filter ClsOutput.isResponse = _
      simp only [hsame, responses, hv]
      rfl
    | some r =>
      rw [hv] at hanswer
      have hsends := hanswer.sends
      simp only [responses, hv]
      exact hsends
  refine ⟨hout, ?_, ?_⟩
  · intro hlive
    exact (clsStep_responses hlive (.periodic now (some v))).trans hout
  · intro r b hv h
    rw [hv] at hanswer
    exact hanswer.control b h

/-! ## a tick in time -/

/-- a tick that finds the timer of the slave running in time is a reception -/
theorem clsStep_punctual (now : UInt32) (received : Option Received) (hlive : c.aborted = false)
    (hinv : SlaveInv (receiveFrame now received ⟨c, []⟩).cls)
    (hc : (receiveFrame now received ⟨c, []⟩).cls.state = .masterNone
      ∨ (receiveFrame now received ⟨c, []⟩).cls.state = .masterControl)
    (htimer : clTimerIsExpired (receiveFrame now received ⟨c, []⟩).cls.receiveTimer now = false) :
    let u := receiveFrame now received ⟨c, []⟩
    clsStep c (.periodic now received) = ({ u.cls with
      errorlimiter := clLimiterPeriodic u.cls.errorlimiter now
      loglimiter := clLimiterPeriodic u.cls.loglimiter now }, u.out) := by
  intro u
  have hwait : u.cls.timerForDisablingSlave.state = .stopped := by
    rw [← Timer.not_running, Ne, hinv.disabling]
    rcases hc with hc | hc <;> rw [hc] <;> decide
  have hreceive : monitorReceiveTimer now u = u := by
    unfold monitorReceiveTimer
    rw [htimer]
    rfl
  have hdisabling : monitorTimerForDisablingSlave now u = u := by
    unfold monitorTimerForDisablingSlave
    rw [clTimerIsExpired_stopped hwait]
    rfl
  have hperiodic : clsIefbPeriodic now received ⟨c, []⟩ = { u with cls := { u.cls with
      errorlimiter := clLimiterPeriodic u.cls.errorlimiter now
      loglimiter := clLimiterPeriodic u.cls.loglimiter now } } := by
    unfold clsIefbPeriodic
    show (let s := monitorTimerForDisablingSlave now (monitorReceiveTimer now u)
      ({ s with cls := { s.cls with
          errorlimiter := clLimiterPeriodic s.cls.errorlimiter now
          loglimiter := clLimiterPeriodic s.cls.loglimiter now } } : ClsScope)) = _
    rw [hreceive, hdisabling]
  unfold clsStep
  rw [if_neg (by rw [hlive]; decide)]
  show ((clsIefbPeriodic now received ⟨c, []⟩).cls, (clsIefbPeriodic now received ⟨c, []⟩).out) = _
  rw [hperiodic]

end

end CLink
