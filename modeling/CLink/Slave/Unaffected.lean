import CLink.Slave.Responses

/-!
# Input that a slave does not act on

Any datagram may come in.

* `ClsScope.abort` is not reached        `clsIefbHandleInputFrame_aborted`;
* a result of -1                         `clsIefbHandleInputFrame_failed`;
* `NotConcerned`                         valid requests without the own address, of another group, or
                                         with the own station switched off;
* `SlaveStart.inputSafe`                 the three together, after every run.
-/

namespace CLink
open Loop

/-! ## assertions -/

section
variable (now : UInt32) {r : CyclicRequest} {s t : ClsScope}

theorem Reported.aborted (h : Reported s t) : t.cls.aborted = s.cls.aborted := by
  obtain ⟨errorlimiter, loglimiter, hcls⟩ := h.cls
  rw [hcls]

theorem leaveFor_aborted (s : ClsScope) (next : SlaveState) :
    (s.leaveFor next).cls.aborted = s.cls.aborted := by
  unfold ClsScope.leaveFor
  split
  · rfl
  · rfl

/-- the assertion of the sender holds for valid end codes -/
theorem clsIefbSendCyclicResponseFrame_aborted (frameSequenceNo groupNo : UInt16)
    (includeData : Bool) (endCode : UInt16) (remoteIp : IpAddr) (remotePort : UInt16)
    (slaveIpAddr : IpAddr) (s : ClsScope) (h : clIsSlaveEndcodeValid endCode = true) :
    (clsIefbSendCyclicResponseFrame frameSequenceNo groupNo includeData endCode remoteIp remotePort
      slaveIpAddr s).cls.aborted = s.cls.aborted := by
  unfold clsIefbSendCyclicResponseFrame
  rw [if_neg (by simp [h])]
  cases includeData with
  | true => rfl
  | false => rfl

theorem clsIefbHandleCyclicEvent_aborted (r : CyclicRequest) (s : ClsScope) :
    (clsIefbHandleCyclicEvent now r s).1.cls.aborted = s.cls.aborted := by
  rcases clsIefbHandleCyclicEvent_cases now r s with h | ⟨area, _, h⟩
  · rw [h]
  · rw [h]
    have hsend := clsIefbSendCyclicResponseFrame_aborted r.frameSequenceNo r.groupNo
      (clsTransmissionBit s.cls r) endcodeSuccess r.remoteIp r.remotePort r.slaveIpAddr
      (clsIefbHandleMasterStateCallback true r.protocolVer r.masterLocalUnitInfo
        (s.storeCyclicData r area)) rfl
    refine hsend.trans ?_
    rw [clsIefbHandleMasterStateCallback_cls]
    rfl

theorem clsIefbHandleNewOrUpdatedMaster_aborted (r : CyclicRequest) (s : ClsScope) :
    (clsIefbHandleNewOrUpdatedMaster now r s).1.cls.aborted = s.cls.aborted := by
  obtain ⟨period, hcls⟩ := clsIefbHandleNewOrUpdatedMaster_cls now r s
  rw [hcls]

theorem Handled.aborted (hf : Frames s.cls) (h : Handled now r s t) :
    t.cls.aborted = s.cls.aborted := by
  cases h with
  | dropped hrep => exact hrep.aborted
  | refused hrep hrefusal =>
    exact (clsIefbSendCyclicResponseFrame_aborted _ _ _ _ _ _ _ _ (hrefusal.valid hf)).trans
      hrep.aborted
  | @disconnected u q hrep _ _ =>
    have hsend := clsIefbSendCyclicResponseFrame_aborted r.frameSequenceNo r.groupNo false
      endcodeWrongNumberOccupiedStations r.remoteIp r.remotePort r.slaveIpAddr
      (u.leaveFor .masterNone) rfl
    have hclear := congrArg Cls.aborted (clsIefbClearMasterInfo_cls
      (clsIefbHandleWrongStationcount r (u.leaveFor .masterNone)).1)
    exact hclear.trans (hsend.trans ((leaveFor_aborted u _).trans hrep.aborted))
  | correctMaster => exact clsIefbHandleCyclicEvent_aborted now r s
  | updatedMaster q =>
    exact (clsIefbHandleCyclicEvent_aborted now r _).trans
      (clsIefbHandleNewOrUpdatedMaster_aborted now r _)
  | newMaster q =>
    refine (clsIefbHandleCyclicEvent_aborted now r _).trans ?_
    exact (clsIefbHandleNewOrUpdatedMaster_aborted now r _).trans (leaveFor_aborted _ _)

/-- **No datagram trips an assertion.** -/
theorem clsIefbHandleInputFrame_aborted (hf : Frames s.cls) (v : Received) :
    (clsIefbHandleInputFrame now v s).1.cls.aborted = s.cls.aborted := by
  rw [clsIefbHandleInputFrame_eq]
  cases v.cyclicRequest with
  | none => rfl
  | some r => exact (handleCyclicRequest_handled now).aborted now hf

end

/-! ## failures -/

section
variable (now : UInt32) {r : CyclicRequest} {s : ClsScope}

theorem clsIefbSearchSlaveParameters_failed (h : (clsIefbSearchSlaveParameters now r s).2 = -1) :
    (clsIefbSearchSlaveParameters now r s).1 = s := by
  unfold clsIefbSearchSlaveParameters at h ⊢
  split
  · rfl
  rename_i hstate
  rw [if_neg hstate] at h
  split
  · rfl
  rename_i info hinfo
  -- everything after the analysis of the list returns 0
  rw [hinfo] at h
  exfalso
  revert h
  simp only
  split_ifs <;> simp

theorem handleCyclicRequest_failed (h : (handleCyclicRequest now r s).2 = -1) :
    (handleCyclicRequest now r s).1 = s := by
  unfold handleCyclicRequest at h ⊢
  split
  · rfl
  rename_i hstate
  rw [if_neg hstate] at h
  split
  · rename_i hcontrol
    rw [if_pos hcontrol] at h
    exact clsIefbSearchSlaveParameters_failed now h
  rename_i hcontrol
  rw [if_neg hcontrol] at h
  split
  · rename_i hmaster
    rw [if_pos hmaster] at h
    cases h
  rename_i hmaster
  rw [if_neg hmaster] at h
  split
  · rename_i hparameter
    rw [if_pos hparameter] at h
    exact clsIefbSearchSlaveParameters_failed now h
  rename_i hparameter
  rw [if_neg hparameter] at h
  split
  · rename_i hseq
    rw [if_pos hseq] at h
    exact clsIefbSearchSlaveParameters_failed now h
  rename_i hseq
  rw [if_neg hseq] at h
  split
  · rfl
  rename_i hgroup
  rw [if_neg hgroup] at h
  split
  · rfl
  rename_i id hget
  simp only [hget] at h
  split
  · rfl
  rename_i hinvalid
  rw [if_neg hinvalid] at h
  split
  · rfl
  rename_i hown
  rw [if_neg hown] at h
  cases h

theorem clsIefbHandleInputFrame_failed {v : Received}
    (h : (clsIefbHandleInputFrame now v s).2 = -1) : (clsIefbHandleInputFrame now v s).1 = s := by
  unfold clsIefbHandleInputFrame at h ⊢
  split
  · rfl
  rename_i header hparse
  rw [hparse] at h
  simp only at h
  split
  · rfl
  rename_i hvalid
  rw [if_neg hvalid] at h
  split
  · rename_i hcommand
    rw [if_pos hcommand] at h
    unfold clsIefbHandleCyclicInputFrame at h ⊢
    split
    · rfl
    rename_i hip
    rw [if_neg hip] at h
    split
    · rfl
    · rename_i hassert
      exact (clIefbParseCyclicRequest_ne_assertFailed _ _ _ _ hassert).elim
    · rename_i r hrequest
      rw [hrequest] at h
      exact handleCyclicRequest_failed now h
  · rfl

end

/-! ## requests of no concern -/

/-- no station of the request has the own address -/
def CyclicRequest.NotListed (r : CyclicRequest) : Prop :=
  ∀ i < r.totalOccupied.toNat, r.slaveIds i ≠ r.slaveIpAddr

/-- the control master goes on with the connection as it is -/
structure Continues (c : Cls) (r : CyclicRequest) : Prop where
  state : c.state = .masterControl
  master : r.masterId = c.master.masterId
  parameterNo : r.parameterNo = c.master.parameterNo
  frameSequenceNo : r.frameSequenceNo ≠ 0

/-- a valid request that the slave has nothing to do with -/
inductive NotConcerned (c : Cls) (r : CyclicRequest) : Prop where
  | notListed : r.NotListed → (c.state = .masterControl → r.masterId = c.master.masterId) →
      NotConcerned c r
  | otherGroup : Continues c r → r.groupNo ≠ c.master.groupNo → NotConcerned c r
  | switchedOff : Continues c r →
      r.slaveIds (c.master.slaveStationNo.toNat - 1) = ipaddrInvalid → NotConcerned c r

section
variable (now : UInt32) {r : CyclicRequest} {v : Received} {s : ClsScope}

theorem clsIefbIsMasterIdCorrect_of_eq {c : Cls} (h : SlaveInv c) (hc : c.state = .masterControl)
    {masterId : IpAddr} (hid : masterId = c.master.masterId) :
    clsIefbIsMasterIdCorrect c masterId = true := by
  obtain ⟨hvalid, _, _⟩ := h.control hc
  unfold clsIefbIsMasterIdCorrect
  rw [if_neg hvalid]
  exact decide_eq_true hid

/-- the search ends where the own address is missing -/
theorem clsIefbSearchSlaveParameters_notListed (hr : r.Valid v) (h : r.NotListed) :
    (clsIefbSearchSlaveParameters now r s).1 = s := by
  unfold clsIefbSearchSlaveParameters
  split
  · rfl
  split
  · rfl
  rename_i info hinfo
  split
  · rfl
  · rename_i hfound
    rw [Bool.not_eq_false] at hfound
    have hq : FoundStation r info.mySlaveStationNo info.impliedOccupationCount := by
      unfold FoundStation
      rw [hinfo, ← hfound]
    obtain ⟨hpos, hle, hown⟩ := hq.own hr
    exact absurd hown (h _ (by omega))

theorem handleCyclicRequest_notConcerned (hinv : SlaveInv s.cls) (hr : r.Valid v)
    (h : NotConcerned s.cls r) : (handleCyclicRequest now r s).1 = s := by
  have hsearch (hlist : r.NotListed) : (clsIefbSearchSlaveParameters now r s).1 = s :=
    clsIefbSearchSlaveParameters_notListed now hr hlist
  unfold handleCyclicRequest
  split
  · rfl
  split
  · rename_i hcontrol
    cases h with
    | notListed hlist _ => exact hsearch hlist
    | otherGroup hgo _ => exact absurd hgo.state hcontrol
    | switchedOff hgo _ => exact absurd hgo.state hcontrol
  rename_i hcontrol
  rw [not_not] at hcontrol
  have hmaster : clsIefbIsMasterIdCorrect s.cls r.masterId = true := by
    refine clsIefbIsMasterIdCorrect_of_eq hinv hcontrol ?_
    cases h with
    | notListed _ hid => exact hid hcontrol
    | otherGroup hgo _ => exact hgo.master
    | switchedOff hgo _ => exact hgo.master
  rw [if_neg (by rw [hmaster]; decide)]
  split
  · rename_i hparameter
    cases h with
    | notListed hlist _ => exact hsearch hlist
    | otherGroup hgo _ => exact absurd hgo.parameterNo hparameter
    | switchedOff hgo _ => exact absurd hgo.parameterNo hparameter
  split
  · rename_i hseq
    cases h with
    | notListed hlist _ => exact hsearch hlist
    | otherGroup hgo _ => exact absurd hseq hgo.frameSequenceNo
    | switchedOff hgo _ => exact absurd hseq hgo.frameSequenceNo
  split
  · rfl
  rename_i hgroup
  split
  · rfl
  rename_i id hget
  split
  · rfl
  rename_i hinvalid
  split
  · rfl
  rename_i hown
  -- the stored station has the own address, so none of the three cases is left
  rw [not_not] at hown
  unfold clIefbRequestGetSlaveId at hget
  split at hget
  · cases hget
  split at hget
  · cases hget
  rename_i hrange
  simp only [not_or, UInt16.lt_iff_toNat_lt, gt_iff_lt, not_lt] at hrange
  have hid := Option.some.inj hget
  cases h with
  | notListed hlist _ =>
    obtain ⟨hpos, _, hle⟩ := hrange
    have hpos : 1 ≤ s.cls.master.slaveStationNo.toNat := hpos
    exact absurd (hid.trans hown) (hlist _ (by omega))
  | otherGroup _ hne => exact absurd hne hgroup
  | switchedOff _ hoff => exact absurd (hid.symm.trans hoff) hinvalid

/-- **Requests of no concern.** -/
theorem clsIefbHandleInputFrame_notConcerned (hinv : SlaveInv s.cls)
    (hv : v.cyclicRequest = some r) (h : NotConcerned s.cls r) :
    (clsIefbHandleInputFrame now v s).1 = s := by
  rw [clsIefbHandleInputFrame_eq, hv]
  exact handleCyclicRequest_notConcerned now hinv (Received.cyclicRequest_valid hv) h

end

/-- **Input that changes nothing, and input of any kind.**  After every run, no datagram trips an
assertion; a datagram with the result -1 and a request of no concern leave the slave as it is, with
no callback and no frame. -/
theorem SlaveStart.inputSafe {o : Options} (st : SlaveStart o) (es : List ClsEvent) (now : UInt32)
    (v : Received) :
    let c := (st.run es).1
    let after := clsIefbHandleInputFrame now v ⟨c, []⟩
    after.1.cls.aborted = c.aborted
      ∧ (after.2 = -1 → after.1 = ⟨c, []⟩)
      ∧ ∀ r, v.cyclicRequest = some r → NotConcerned c r → after.1 = ⟨c, []⟩ := by
  intro c after
  refine ⟨?_, ?_, ?_⟩
  · exact clsIefbHandleInputFrame_aborted now (st.run_frames es) v
  · intro h
    exact clsIefbHandleInputFrame_failed now h
  · intro r hv h
    exact clsIefbHandleInputFrame_notConcerned now (st.run_steady es).inv hv h

/-! ## in the small network -/

/-- the next request of the control master, after the slave has changed its address -/
def exampleMoved : Received :=
  { exampleRequest 0xC0A80001 1 0 0xC0A80003 with slaveIpAddr := 0xC0A80007 }

theorem exampleMoved_unaffected :
    let c := (exampleSlaveStart.run
      [.periodic 10 (some (exampleRequest 0xC0A80001 0 0 0xC0A80003))]).1
    c.state = .masterControl ∧ exampleMoved.cyclicRequest.isSome = true
      ∧ (clsIefbHandleInputFrame 20 exampleMoved ⟨c, []⟩).1 = ⟨c, []⟩ := by
  intro c
  have hsome : exampleMoved.cyclicRequest.isSome = true := by decide +kernel
  obtain ⟨r, hr⟩ := Option.isSome_iff_exists.mp hsome
  have hfacts : exampleMoved.cyclicRequest.map (fun r => (r.totalOccupied, r.slaveIds 0,
      r.slaveIds 1)) = some (2, 0xC0A80002, 0xC0A80003) := by decide +kernel
  rw [hr, Option.map_some, Option.some.injEq, Prod.mk.injEq, Prod.mk.injEq] at hfacts
  obtain ⟨htotal, hfirst, hsecond⟩ := hfacts
  have hvalid := Received.cyclicRequest_valid hr
  have hlist : r.NotListed := by
    intro i hi
    rw [htotal] at hi
    have hi : i < 2 := hi
    rw [hvalid.slaveIpAddr]
    interval_cases i
    · rw [hfirst]
      decide
    · rw [hsecond]
      decide
  have hmaster : r.masterId = c.master.masterId := by
    rw [hvalid.masterId]
    decide +kernel
  refine ⟨by decide +kernel, hsome, ?_⟩
  exact (exampleSlaveStart.inputSafe _ 20 exampleMoved).2.2 r hr (.notListed hlist fun _ => hmaster)

end CLink
