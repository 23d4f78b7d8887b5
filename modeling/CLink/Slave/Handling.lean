import CLink.Common.ResponseGrammar
import CLink.Slave.Step

/-!
# What a slave does with a request

One case distinction for `cls_iefb_handle_input_frame`, from which the results about requests start.

* `Received.cyclicRequest`           the request in a payload that passes all checks;
* `clsIefbHandleInputFrame_eq`       any other payload changes nothing;
* `Handled`                          the outcomes of a request, each with its condition;
* `handleCyclicRequest_handled`      every request has one of them.
-/

namespace CLink
open Loop

/-! ## the checks of a payload -/

/-- the cyclic request in a payload: the checks of the header, of the own address and of
`cl_iefb_parse_cyclic_request` -/
def Received.cyclicRequest (v : Received) : Option CyclicRequest :=
  match clIefbParseRequestHeader v.dg with
  | none => none
  | some header =>
    if clIefbValidateRequestHeader header v.dg.len ∧ header.command = slmpCommandCciefbCyclic
        ∧ header.subCommand = slmpSubcommandCciefbCyclic ∧ v.slaveIpAddr ≠ ipaddrInvalid then
      (clIefbParseCyclicRequest v.dg v.remoteIp v.remotePort v.slaveIpAddr).toOption
    else none

/-- the assertion in the parser of requests holds -/
theorem clIefbParseCyclicRequest_ne_assertFailed (dg : Datagram) (remoteIp : IpAddr)
    (remotePort : UInt16) (localIp : IpAddr) :
    clIefbParseCyclicRequest dg remoteIp remotePort localIp ≠ .error .assertFailed := by
  intro h
  cases hh : clIefbParseReqFullCyclicHeaders dg with
  | none =>
    simp [clIefbParseCyclicRequest, hh] at h
  | some headers =>
    cases hv : clIefbValidateReqFullCyclicHeaders headers dg.len remoteIp with
    | true =>
      rw [clIefbParseCyclicRequest_ok hh hv] at h
      cases h
    | false =>
      simp [clIefbParseCyclicRequest, hh, hv] at h

theorem clsIefbHandleInputFrame_eq (now : UInt32) (v : Received) (s : ClsScope) :
    (clsIefbHandleInputFrame now v s).1
      = match v.cyclicRequest with
        | none => s
        | some r => (handleCyclicRequest now r s).1 := by
  unfold clsIefbHandleInputFrame Received.cyclicRequest
  cases clIefbParseRequestHeader v.dg with
  | none => rfl
  | some header =>
    simp only
    by_cases hv : clIefbValidateRequestHeader header v.dg.len = true
    · by_cases hc : header.command = slmpCommandCciefbCyclic
          ∧ header.subCommand = slmpSubcommandCciefbCyclic
      · rw [if_neg (by simp [hv]), if_pos hc]
        unfold clsIefbHandleCyclicInputFrame
        by_cases hip : v.slaveIpAddr = ipaddrInvalid
        · simp [hip]
        · rw [if_neg hip, if_pos ⟨hv, hc.1, hc.2, hip⟩]
          have hassert := clIefbParseCyclicRequest_ne_assertFailed v.dg v.remoteIp v.remotePort
            v.slaveIpAddr
          rcases hp : clIefbParseCyclicRequest v.dg v.remoteIp v.remotePort v.slaveIpAddr
            with f | r
          · cases f with
            | rejected => rfl
            | assertFailed => exact absurd hp hassert
          · rfl
      · rw [if_neg (by simp [hv]), if_neg hc, if_neg (fun h => hc ⟨h.2.1, h.2.2.1⟩)]
    · rw [if_pos (by simp [hv]), if_neg (fun h => hv h.1)]

/-- what the checks say about a request -/
structure CyclicRequest.Valid (r : CyclicRequest) (v : Received) : Prop where
  remoteIp : r.remoteIp = v.remoteIp
  remotePort : r.remotePort = v.remotePort
  slaveIpAddr : r.slaveIpAddr = v.slaveIpAddr
  slaveIpAddr_ne : r.slaveIpAddr ≠ ipaddrInvalid
  masterId : r.masterId = v.remoteIp
  masterId_ne : r.masterId ≠ ipaddrInvalid
  stations : 1 ≤ r.totalOccupied.toNat ∧ r.totalOccupied.toNat ≤ 16
  groupNo : 1 ≤ r.fullHeaders.cyclicDataHeader.groupNo.toNat
    ∧ r.fullHeaders.cyclicDataHeader.groupNo.toNat ≤ 64

/-- a request has passed the parser -/
theorem Received.cyclicRequest_parsed {v : Received} {r : CyclicRequest}
    (h : v.cyclicRequest = some r) :
    ∃ headers, clIefbParseReqFullCyclicHeaders v.dg = some headers
      ∧ clIefbValidateReqFullCyclicHeaders headers v.dg.len v.remoteIp = true
      ∧ v.slaveIpAddr ≠ ipaddrInvalid
      ∧ clIefbParseCyclicRequest v.dg v.remoteIp v.remotePort v.slaveIpAddr = .ok r := by
  unfold Received.cyclicRequest at h
  split at h
  · cases h
  split at h
  · rename_i hc
    obtain ⟨_, _, _, hip⟩ := hc
    cases hh : clIefbParseReqFullCyclicHeaders v.dg with
    | none =>
      simp [clIefbParseCyclicRequest, hh, Except.toOption] at h
    | some headers =>
      cases hv : clIefbValidateReqFullCyclicHeaders headers v.dg.len v.remoteIp with
      | false =>
        simp [clIefbParseCyclicRequest, hh, hv, Except.toOption] at h
      | true =>
        rw [clIefbParseCyclicRequest_ok hh hv] at h ⊢
        exact ⟨headers, rfl, hv, hip, congrArg Except.ok (Option.some.inj h)⟩
  · cases h

theorem Received.cyclicRequest_valid {v : Received} {r : CyclicRequest}
    (h : v.cyclicRequest = some r) : r.Valid v := by
  obtain ⟨headers, hh, hv, hip, hr⟩ := Received.cyclicRequest_parsed h
  rw [clIefbParseCyclicRequest_ok hh hv] at hr
  obtain rfl := Except.ok.inj hr
  simp only [clIefbValidateReqFullCyclicHeaders, clIefbValidateReqCyclicDataHeader,
    decide_eq_true_eq, not_or, not_not] at hv
  obtain ⟨_, _, ⟨hgroup, hn, _, _, hid, hremote⟩, _⟩ := hv
  exact ⟨rfl, rfl, rfl, hip, hremote, hid, (occupiedStationsInRange_iff _).mp hn,
    (groupNoInRange_iff _).mp hgroup⟩

/-- where the request is read from -/
theorem Received.cyclicRequest_read {v : Received} {r : CyclicRequest}
    (h : v.cyclicRequest = some r) :
    r.fullHeaders = .ofBuffer v.dg.byte ∧ r.slaveIds = slaveIdsAt v.dg.byte 67 := by
  obtain ⟨headers, hh, hv, _, hr⟩ := Received.cyclicRequest_parsed h
  rw [clIefbParseCyclicRequest_ok hh hv] at hr
  obtain rfl := Except.ok.inj hr
  unfold clIefbParseReqFullCyclicHeaders at hh
  split at hh
  · cases hh
  · exact ⟨(Option.some.inj hh).symm, rfl⟩

/-! ## reports -/

/-- only messages: the limiters and the error callback -/
structure Reported (s t : ClsScope) : Prop where
  cls : ∃ errorlimiter loglimiter,
    t.cls = { s.cls with errorlimiter := errorlimiter, loglimiter := loglimiter }
  out : ∃ o, t.out = s.out ++ o ∧ ∀ x ∈ o, ∃ message ipAddr argument2,
    x = .errorCb message ipAddr argument2

namespace Reported
variable {s t u : ClsScope}

theorem refl (s : ClsScope) : Reported s s :=
  ⟨⟨_, _, rfl⟩, [], (List.append_nil _).symm, fun _ hx => nomatch hx⟩

theorem trans (h : Reported s t) (h' : Reported t u) : Reported s u := by
  obtain ⟨⟨a, b, hc⟩, o, ho, hq⟩ := h
  obtain ⟨⟨a', b', hc'⟩, o', ho', hq'⟩ := h'
  refine ⟨⟨a', b', by rw [hc', hc]⟩, o ++ o', by rw [ho', ho, List.append_assoc], ?_⟩
  intro x hx
  rcases List.mem_append.mp hx with hx | hx
  · exact hq x hx
  · exact hq' x hx

theorem logWarning (message : LogwarningMessage) (now : UInt32) (s : ClsScope) :
    Reported s (clsIefbLogWarningOnce message now s) :=
  ⟨⟨_, _, rfl⟩, [], (List.append_nil _).symm, fun _ hx => nomatch hx⟩

theorem triggerError (now : UInt32) (message : ClsErrorMessage) (ipAddr : IpAddr)
    (argument2 : UInt16) (s : ClsScope) :
    Reported s (clsIefbTriggerErrorCallback now message ipAddr argument2 s) := by
  unfold clsIefbTriggerErrorCallback
  simp only
  split
  · refine ⟨⟨_, _, rfl⟩, [.errorCb message ipAddr argument2], rfl, ?_⟩
    intro x hx
    exact ⟨message, ipAddr, argument2, List.mem_singleton.mp hx⟩
  · exact ⟨⟨_, _, rfl⟩, [], (List.append_nil _).symm, fun _ hx => nomatch hx⟩

end Reported

/-! ## outcomes -/

/-- the cyclic event stores and answers, or finds no slice of its own -/
theorem clsIefbHandleCyclicEvent_cases (now : UInt32) (r : CyclicRequest) (s : ClsScope) :
    (clsIefbHandleCyclicEvent now r s).1 = s
      ∨ ∃ area, clsIefbCopyCyclicDataFromRequest s.cls r s.cls.master.slaveStationNo
            (clsTransmissionBit s.cls r) = some area
          ∧ (clsIefbHandleCyclicEvent now r s).1
            = answerRequest now r (clsTransmissionBit s.cls r) (s.storeCyclicData r area) := by
  unfold clsIefbHandleCyclicEvent
  simp only
  split
  · exact Or.inl rfl
  · rename_i area hcopy
    exact Or.inr ⟨area, hcopy, rfl⟩

/-- station `q` of the request belongs to the slave -/
structure OwnStation (r : CyclicRequest) (q : UInt16) : Prop where
  pos : 1 ≤ q.toNat
  le : q.toNat ≤ r.totalOccupied.toNat
  own : r.slaveIds (q.toNat - 1) = r.slaveIpAddr

/-- the transmission bit of station `q` in the request -/
def CyclicRequest.bit (r : CyclicRequest) (q : UInt16) : Bool :=
  clIefbExtractMyTransmissionState r.transmissionStates q

/-- the list of slave ids gives the slave `count` stations from station `q` on -/
def FoundStation (r : CyclicRequest) (q count : UInt16) : Prop :=
  clIefbAnalyzeSlaveIds r.slaveIpAddr r.totalOccupied r.slaveIds = some ⟨true, q, count⟩

/-- the list of slave ids gives the slave another number of stations than its own -/
def WrongStations (c : Cls) (r : CyclicRequest) (q : UInt16) : Prop :=
  ∃ count, count ≠ c.config.numOccupiedStations ∧ FoundStation r q count

section
variable {r : CyclicRequest} {v : Received} {q q' count : UInt16}

theorem FoundStation.own (hr : r.Valid v) (h : FoundStation r q count) : OwnStation r q := by
  obtain ⟨⟨hpos, hle⟩, hids⟩ := clIefbAnalyzeSlaveIds_sound hr.stations h rfl
  have hlt : q.toNat - 1 < r.totalOccupied.toNat :=
    lt_of_lt_of_le (Nat.sub_lt hpos Nat.one_pos) hle
  exact ⟨hpos, hle, (hids (q.toNat - 1) hlt).mpr (Nat.sub_add_cancel hpos)⟩

/-- there is no other own station -/
theorem FoundStation.unique (hr : r.Valid v) (h : FoundStation r q count) (h' : OwnStation r q') :
    q' = q := by
  obtain ⟨_, hids⟩ := clIefbAnalyzeSlaveIds_sound hr.stations h rfl
  have hpos := h'.pos
  have hle := h'.le
  have heq : q'.toNat - 1 + 1 = q.toNat := (hids (q'.toNat - 1) (by omega)).mp h'.own
  exact UInt16.toNat_inj.mp (by omega)

end

/-- why a request is answered with an error frame, and its end code -/
inductive Refusal (c : Cls) (r : CyclicRequest) : UInt16 → Prop where
  | wrongMaster : c.state = .masterControl → clsIefbIsMasterIdCorrect c r.masterId = false →
      Refusal c r endcodeMasterDuplication
  | wrongStationcount (q : UInt16) : c.state = .masterNone → WrongStations c r q →
      Refusal c r endcodeWrongNumberOccupiedStations
  | disabled (q : UInt16) : c.state = .waitDisablingSlave →
      FoundStation r q c.config.numOccupiedStations → r.bit q = true →
      Refusal c r c.endcodeSlaveDisabled

/-- the station number stored before the event -/
def ClsScope.storeStation (s : ClsScope) (q : UInt16) : ClsScope :=
  { s with cls := { s.cls with master := { s.cls.master with slaveStationNo := q } } }

inductive Handled (now : UInt32) (r : CyclicRequest) (s : ClsScope) : ClsScope → Prop where
  | dropped {t : ClsScope} : Reported s t → Handled now r s t
  | refused {t : ClsScope} {endCode : UInt16} : Reported s t → Refusal s.cls r endCode →
      Handled now r s (clsIefbSendCyclicResponseErrorFrame r endCode t)
  | disconnected {t : ClsScope} {q : UInt16} : Reported s t → s.cls.state = .masterControl →
      WrongStations s.cls r q →
      Handled now r s ((clsIefbClearMasterInfo (clsIefbHandleWrongStationcount r
        (t.leaveFor .masterNone)).1).emit (.stateCb .masterNone))
  | correctMaster : s.cls.state = .masterControl →
      clsIefbIsMasterIdCorrect s.cls r.masterId = true →
      OwnStation r s.cls.master.slaveStationNo →
      Handled now r s (clsIefbHandleCyclicEvent now r s).1
  | updatedMaster (q : UInt16) : s.cls.state = .masterControl →
      clsIefbIsMasterIdCorrect s.cls r.masterId = true →
      FoundStation r q s.cls.config.numOccupiedStations → r.bit q = false →
      Handled now r s (clsIefbHandleCyclicEvent now r
        (clsIefbHandleNewOrUpdatedMaster now r (s.storeStation q)).1).1
  | newMaster (q : UInt16) : s.cls.state = .masterNone →
      FoundStation r q s.cls.config.numOccupiedStations → r.bit q = false →
      Handled now r s (clsIefbHandleCyclicEvent now r
        ((clsIefbHandleNewOrUpdatedMaster now r ((s.storeStation q).leaveFor .masterControl)).1.emit
          (.stateCb .masterControl))).1

section
variable (now : UInt32) {r : CyclicRequest} {s : ClsScope}

theorem clsIefbSearchSlaveParameters_handled :
    Handled now r s (clsIefbSearchSlaveParameters now r s).1 := by
  unfold clsIefbSearchSlaveParameters
  split
  · exact .dropped (.refl s)
  rename_i hstate
  rw [not_or] at hstate
  split
  · exact .dropped (.refl s)
  rename_i info hinfo
  split
  · exact .dropped (.refl s)
  rename_i hfound
  rw [Bool.not_eq_false] at hfound
  have hq : FoundStation r info.mySlaveStationNo info.impliedOccupationCount := by
    unfold FoundStation
    rw [hinfo, ← hfound]
  split
  · rename_i hcount
    have hwrong : WrongStations s.cls r info.mySlaveStationNo :=
      ⟨info.impliedOccupationCount, hcount, hq⟩
    have hrep := (Reported.logWarning .wrongNumberOccupied now s).trans
      (.triggerError now .wrongNumberOccupied ipaddrInvalid info.impliedOccupationCount _)
    simp only
    generalize clsIefbTriggerErrorCallback now .wrongNumberOccupied ipaddrInvalid
      info.impliedOccupationCount (clsIefbLogWarningOnce .wrongNumberOccupied now s) = t at hrep ⊢
    obtain ⟨a, b, hcls⟩ := hrep.cls
    have hst : t.cls.state = s.cls.state := by rw [hcls]
    cases hs : s.cls.state with
    | slaveDown => exact absurd hs hstate.1
    | slaveDisabled => exact absurd hs hstate.2
    | masterNone =>
      rw [clsIefbFsmEvent_wrongStationcount_none now r (hst.trans hs)]
      exact .refused hrep (.wrongStationcount _ hs hwrong)
    | masterControl =>
      rw [clsIefbFsmEvent_wrongStationcount_control now r (hst.trans hs)]
      exact .disconnected hrep hs hwrong
    | waitDisablingSlave =>
      have hidle : slaveFsmMatrix t.cls.state .cyclicWrongStationcount = (t.cls.state, none) := by
        rw [hst, hs]
        rfl
      rw [clsIefbFsmEvent_idle now _ hidle]
      exact .dropped hrep
  rename_i hcount
  rw [not_not] at hcount
  rw [hcount] at hq
  simp only
  split
  · rename_i hwait
    split
    · rename_i hbit
      rw [clsIefbFsmEvent_incomingWhenDisabled now r hwait]
      exact .refused (.refl s) (.disabled _ hwait hq hbit)
    · exact .dropped (.refl s)
  split
  · rename_i hnone
    split
    · exact .dropped (.triggerError now .slaveStationDuplication ipaddrInvalid 0 s)
    · rename_i hbit
      rw [Bool.not_eq_true] at hbit
      have h := clsIefbFsmEvent_newMaster_none now r
        (s := s.storeStation info.mySlaveStationNo) hnone
      exact h ▸ .newMaster _ hnone hq hbit
  rename_i hwait hnone
  have hcontrol : s.cls.state = .masterControl := by
    cases hs : s.cls.state with
    | masterControl => rfl
    | slaveDown => exact absurd hs hstate.1
    | slaveDisabled => exact absurd hs hstate.2
    | masterNone => exact absurd hs hnone
    | waitDisablingSlave => exact absurd hs hwait
  split
  · exact .dropped (.refl s)
  rename_i hmaster
  rw [Bool.not_eq_false] at hmaster
  split
  · exact .dropped (.refl s)
  rename_i hbit
  rw [Bool.not_eq_true] at hbit
  have h := clsIefbFsmEvent_newMaster_control now r
    (s := s.storeStation info.mySlaveStationNo) hcontrol
  exact h ▸ .updatedMaster _ hcontrol hmaster hq hbit

theorem handleCyclicRequest_handled :
    Handled now r s (handleCyclicRequest now r s).1 := by
  unfold handleCyclicRequest
  split
  · exact .dropped (.refl s)
  split
  · exact clsIefbSearchSlaveParameters_handled now
  rename_i hcontrol
  rw [not_not] at hcontrol
  split
  · rename_i hmaster
    rw [clsIefbFsmEvent_wrongMaster now r hcontrol]
    exact .refused ((Reported.logWarning ..).trans (.triggerError ..))
      (.wrongMaster hcontrol hmaster)
  rename_i hmaster
  rw [Bool.not_eq_false] at hmaster
  split
  · exact clsIefbSearchSlaveParameters_handled now
  split
  · exact clsIefbSearchSlaveParameters_handled now
  split
  · exact .dropped (.refl s)
  split
  · exact .dropped (.refl s)
  rename_i id hget
  split
  · exact .dropped (.refl s)
  split
  · exact .dropped (.refl s)
  rename_i hid
  rw [not_not] at hid
  rw [clsIefbFsmEvent_correctMaster now r hcontrol]
  refine .correctMaster hcontrol hmaster ?_
  unfold clIefbRequestGetSlaveId at hget
  split at hget
  · cases hget
  split at hget
  · cases hget
  rename_i hrange
  simp only [not_or, UInt16.lt_iff_toNat_lt, gt_iff_lt, not_lt] at hrange
  exact ⟨hrange.1, hrange.2.2, (Option.some.inj hget).trans hid⟩

end

end CLink
