import CLink.Lib.Trace
import CLink.Slmp.Master

/-!
# The moves of the SLMP part

The two kinds of requests keep their serial number, their timer and their outputs apart.

* `serialOf`, `timerOf`, `isSent`, `isCfm`   the fields and the outputs of one kind;
* `CallStep`                                 the three ways in which a call of the application ends;
* `NotifyStep`                               a confirmation with the calls that its callback makes;
* `SlmpMove`                                 a confirmation or a change of the database;
* `clmSlmpHandleInputFrame_moves`, `clmSlmpCheckTimeouts_moves`
                                             frames and timers make such moves;
* `slmpStep_frame_other`                     frames that have no effect.
-/

namespace CLink
open Bytes Trace

namespace SlmpMaster

/-- the serial number of the pending request, or `CLM_SLMP_SERIAL_NONE` -/
def serialOf (k : SlmpRequestKind) (clm : SlmpMaster) : Int :=
  match k with
  | .nodeSearch => clm.nodeSearchSerial
  | .setIp => clm.setIpRequestSerial

def timerOf (k : SlmpRequestKind) (clm : SlmpMaster) : Timer :=
  match k with
  | .nodeSearch => clm.nodeSearchTimer
  | .setIp => clm.setIpRequestTimer

end SlmpMaster

namespace SlmpOutput

def isSent (k : SlmpRequestKind) : SlmpOutput → Bool
  | sent j _ => j = k
  | _ => false

def isCfm (k : SlmpRequestKind) : SlmpOutput → Bool
  | nodeSearchCfm _ => k = .nodeSearch
  | setIpCfm _ => k = .setIp
  | _ => false

end SlmpOutput

open SlmpMaster SlmpOutput

/-- how a call of kind `k` ends, with the next state and the outputs -/
inductive CallStep (k : SlmpRequestKind) (clm : SlmpMaster) :
    SlmpMaster → List SlmpOutput → Prop where
  | blocked : CallStep k clm clm [.blocked k]
  | sendFailed (clm' : SlmpMaster)
      (free : serialOf k clm = clmSlmpSerialNone)
      (serial : ∀ j, serialOf j clm' = serialOf j clm)
      (timer : ∀ j, timerOf j clm' = timerOf j clm)
      (drawn : clm'.slmpRequestSerial = clm.slmpRequestSerial + 1)
      (db : k = .setIp → clm'.nodeSearchDb = clm.nodeSearchDb) :
      CallStep k clm clm' [.sendFailed k]
  | sent (clm' : SlmpMaster) (payload : Datagram)
      (free : serialOf k clm = clmSlmpSerialNone)
      (serial : serialOf k clm' = clm.slmpRequestSerial.toNat)
      (timer : (timerOf k clm').state = .running)
      (others : ∀ j, j ≠ k → serialOf j clm' = serialOf j clm ∧ timerOf j clm' = timerOf j clm)
      (drawn : clm'.slmpRequestSerial = clm.slmpRequestSerial + 1)
      (db : k = .setIp → clm'.nodeSearchDb = clm.nodeSearchDb) :
      CallStep k clm clm' [.sent k payload]

theorem performCall_step (cfg : SlmpMasterConfig) (clm : SlmpMaster) (c : SlmpCall) :
    CallStep c.kind clm (performCall cfg clm c).1 (performCall cfg clm c).2 := by
  cases c with
  | performNodeSearch now sendOk =>
    unfold performCall clmSlmpPerformNodeSearch
    dsimp only
    split
    · exact .blocked
    · next hfree =>
      rw [ne_eq, not_not] at hfree
      split
      · refine .sendFailed _ hfree ?_ ?_ rfl (fun h => nomatch h)
        · intro j
          cases j with
          | nodeSearch => exact hfree.symm
          | setIp => rfl
        · intro j
          cases j
          all_goals rfl
      · refine .sent _ _ hfree rfl rfl ?_ rfl (fun h => nomatch h)
        intro j hj
        cases j with
        | nodeSearch => exact absurd rfl hj
        | setIp => exact ⟨rfl, rfl⟩
  | performSetIpaddrRequest now slaveMacAddr slaveNewIpAddr slaveNewNetmask sendOk =>
    unfold performCall clmSlmpPerformSetIpaddrRequest
    dsimp only
    split
    · exact .blocked
    next hfree =>
    rw [ne_eq, not_not] at hfree
    split
    · exact .blocked
    split
    · exact .blocked
    split
    · refine .sendFailed _ hfree ?_ ?_ rfl (fun _ => rfl)
      · intro j
        cases j with
        | nodeSearch => rfl
        | setIp => exact hfree.symm
      · intro j
        cases j
        all_goals rfl
    · refine .sent _ _ hfree rfl rfl ?_ rfl (fun _ => rfl)
      intro j hj
      cases j with
      | nodeSearch => exact ⟨rfl, rfl⟩
      | setIp => exact absurd rfl hj

section
variable {j k : SlmpRequestKind} {clm clm' : SlmpMaster} {outs : List SlmpOutput}

@[simp] theorem isSent_sent (k j : SlmpRequestKind) (payload : Datagram) :
    isSent k (.sent j payload) = decide (j = k) := rfl

/-- a call makes no confirmation -/
theorem CallStep.not_isCfm (h : CallStep j clm clm' outs) (k : SlmpRequestKind) :
    ∀ x ∈ outs, isCfm k x = false := by
  intro x hx
  cases h
  all_goals
    obtain rfl := List.mem_singleton.mp hx
    rfl

/-- a call that returned -1 leaves the pending requests, the timers and, for a new address, the
database as they were -/
theorem CallStep.refused (h : CallStep j clm clm' outs) (hno : ∀ x ∈ outs, isSent j x = false) :
    (∀ k, serialOf k clm' = serialOf k clm ∧ timerOf k clm' = timerOf k clm)
      ∧ (j = .setIp → clm'.nodeSearchDb = clm.nodeSearchDb) := by
  cases h with
  | blocked => exact ⟨fun _ => ⟨rfl, rfl⟩, fun _ => rfl⟩
  | sendFailed clm' free serial timer drawn db => exact ⟨fun k => ⟨serial k, timer k⟩, db⟩
  | sent clm' payload =>
    have hsent := hno _ List.mem_cons_self
    rw [isSent_sent, decide_eq_false_iff_not] at hsent
    exact absurd rfl hsent

/-- a call of another kind, or one while a request of the kind is pending -/
theorem CallStep.other (h : CallStep j clm clm' outs)
    (hbusy : j = k → serialOf k clm ≠ clmSlmpSerialNone) :
    serialOf k clm' = serialOf k clm ∧ timerOf k clm' = timerOf k clm
      ∧ ∀ x ∈ outs, isSent k x = false := by
  cases h with
  | blocked =>
    refine ⟨rfl, rfl, ?_⟩
    intro x hx
    obtain rfl := List.mem_singleton.mp hx
    rfl
  | sendFailed clm' free serial timer drawn db =>
    refine ⟨serial k, timer k, ?_⟩
    intro x hx
    obtain rfl := List.mem_singleton.mp hx
    rfl
  | sent clm' payload free serial timer others =>
    have hne : j ≠ k := by
      rintro rfl
      exact hbusy rfl free
    obtain ⟨hserial, htimer⟩ := others k hne.symm
    refine ⟨hserial, htimer, ?_⟩
    intro x hx
    obtain rfl := List.mem_singleton.mp hx
    rw [isSent_sent, decide_eq_false hne]

end

/-! ## confirmations -/

/-- a confirmation of kind `k`: the timer is stopped, the callback makes its calls, and then the
request is over -/
structure NotifyStep (cfg : SlmpMasterConfig) (k : SlmpRequestKind) (clm clm' : SlmpMaster)
    (x : SlmpOutput) (calls : List SlmpCall) (outs : List SlmpOutput) : Prop where
  cfm : isCfm k x = true
  step : ∃ inCfm : SlmpMaster,
    (∀ j, serialOf j inCfm = serialOf j clm)
      ∧ (timerOf k inCfm).state = .stopped
      ∧ (∀ j, j ≠ k → timerOf j inCfm = timerOf j clm)
      ∧ inCfm.slmpRequestSerial = clm.slmpRequestSerial
      ∧ outs = x :: ((slmpCalls cfg).run inCfm calls).2
      ∧ serialOf k clm' = clmSlmpSerialNone
      ∧ (∀ j, j ≠ k → serialOf j clm' = serialOf j ((slmpCalls cfg).run inCfm calls).1)
      ∧ (∀ j, timerOf j clm' = timerOf j ((slmpCalls cfg).run inCfm calls).1)
      ∧ clm'.slmpRequestSerial = ((slmpCalls cfg).run inCfm calls).1.slmpRequestSerial

theorem clmSlmpNodeSearchNotifyResults_step (cfg : SlmpMasterConfig) (clm : SlmpMaster)
    (calls : List SlmpCall) :
    NotifyStep cfg .nodeSearch clm
      (clmSlmpNodeSearchNotifyResults cfg
        { clm with nodeSearchTimer := clTimerStop clm.nodeSearchTimer } calls).1
      (.nodeSearchCfm clm.nodeSearchDb) calls
      (clmSlmpNodeSearchNotifyResults cfg
        { clm with nodeSearchTimer := clTimerStop clm.nodeSearchTimer } calls).2 := by
  refine ⟨rfl, { clm with nodeSearchTimer := clTimerStop clm.nodeSearchTimer }, ?_, rfl, ?_, rfl,
    rfl, rfl, ?_, ?_, rfl⟩
  · intro j
    cases j
    all_goals rfl
  · intro j hj
    cases j with
    | nodeSearch => exact absurd rfl hj
    | setIp => rfl
  · intro j hj
    cases j with
    | nodeSearch => exact absurd rfl hj
    | setIp => rfl
  · intro j
    cases j
    all_goals rfl

theorem clmSlmpSetIpNotifyCfm_step (cfg : SlmpMasterConfig) (clm : SlmpMaster)
    (status : MasterSetipStatus) (calls : List SlmpCall) :
    NotifyStep cfg .setIp clm (clmSlmpSetIpNotifyCfm cfg clm status calls).1 (.setIpCfm status) calls
      (clmSlmpSetIpNotifyCfm cfg clm status calls).2 := by
  refine ⟨rfl, { clm with setIpRequestTimer := clTimerStop clm.setIpRequestTimer }, ?_, rfl, ?_, rfl,
    rfl, rfl, ?_, ?_, rfl⟩
  · intro j
    cases j
    all_goals rfl
  · intro j hj
    cases j with
    | nodeSearch => rfl
    | setIp => exact absurd rfl hj
  · intro j hj
    cases j with
    | nodeSearch => rfl
    | setIp => exact absurd rfl hj
  · intro j
    cases j
    all_goals rfl

/-! ## moves -/

inductive SlmpMove (cfg : SlmpMasterConfig) (clm : SlmpMaster) :
    List SlmpOutput → SlmpMaster → Prop where
  | notify {k : SlmpRequestKind} {clm' : SlmpMaster} {x : SlmpOutput} {calls : List SlmpCall}
      {outs : List SlmpOutput}
      (pending : serialOf k clm ≠ clmSlmpSerialNone ∨ (timerOf k clm).state = .running)
      (h : NotifyStep cfg k clm clm' x calls outs) : SlmpMove cfg clm outs clm'
  | database {clm' : SlmpMaster} (serial : ∀ k, serialOf k clm' = serialOf k clm)
      (timer : ∀ k, timerOf k clm' = timerOf k clm)
      (drawn : clm'.slmpRequestSerial = clm.slmpRequestSerial) : SlmpMove cfg clm [] clm'

theorem checkNodeSearchTimer_moves (cfg : SlmpMasterConfig) (clm : SlmpMaster) (now : UInt32)
    (calls : List SlmpCall) :
    Star (SlmpMove cfg) clm (checkNodeSearchTimer cfg clm now calls).2
      (checkNodeSearchTimer cfg clm now calls).1 := by
  unfold checkNodeSearchTimer
  split
  · next hexpired =>
    have hrunning : (timerOf .nodeSearch clm).state = .running := clTimerIsExpired_running hexpired
    exact .single (.notify (.inr hrunning) (clmSlmpNodeSearchNotifyResults_step cfg clm calls))
  · exact .refl clm

theorem checkSetIpRequestTimer_moves (cfg : SlmpMasterConfig) (clm : SlmpMaster) (now : UInt32)
    (calls : List SlmpCall) :
    Star (SlmpMove cfg) clm (checkSetIpRequestTimer cfg clm now calls).2
      (checkSetIpRequestTimer cfg clm now calls).1 := by
  unfold checkSetIpRequestTimer
  split
  · next hexpired =>
    have hrunning : (timerOf .setIp clm).state = .running := clTimerIsExpired_running hexpired
    -- the timer is stopped twice
    exact .single (.notify (.inr hrunning) (clmSlmpSetIpNotifyCfm_step cfg clm .timeout calls))
  · exact .refl clm

theorem responseHandler_setIp {clm : SlmpMaster} {serial endcode : UInt16} {handler : SlmpHandler}
    (h : responseHandler clm serial endcode = some handler) (hne : handler ≠ .nodeSearchResponse) :
    serialOf .setIp clm = serial.toNat := by
  unfold responseHandler at h
  split at h
  · obtain rfl := Option.some.inj h
    exact absurd rfl hne
  · split at h
    · next hserial => exact hserial.symm
    · cases h

theorem clmSlmpHandleInputFrame_moves (cfg : SlmpMasterConfig) (clm : SlmpMaster) (dg : Datagram)
    (ifindex : Int) (calls : List SlmpCall) :
    Star (SlmpMove cfg) clm (clmSlmpHandleInputFrame cfg clm dg ifindex calls).2.2
      (clmSlmpHandleInputFrame cfg clm dg ifindex calls).2.1 := by
  have hnotify : ∀ serial endcode handler status,
      responseHandler clm serial endcode = some handler → handler ≠ .nodeSearchResponse →
      Star (SlmpMove cfg) clm (clmSlmpSetIpNotifyCfm cfg clm status calls).2
        (clmSlmpSetIpNotifyCfm cfg clm status calls).1 := by
    intro serial endcode handler status hh hne
    have hpending : serialOf .setIp clm ≠ clmSlmpSerialNone := by
      rw [responseHandler_setIp hh hne]
      exact fun h => nomatch h
    exact .single (.notify (.inl hpending) (clmSlmpSetIpNotifyCfm_step cfg clm status calls))
  unfold clmSlmpHandleInputFrame
  split
  · exact .refl clm
  split
  · exact .refl clm
  split
  · exact .refl clm
  split
  · exact .refl clm
  unfold runHandler
  split
  · unfold clmSlmpHandleNodeSearchResponse
    split
    · exact .refl clm
    split
    · exact .refl clm
    · refine .single (.database ?_ ?_ rfl)
      · intro k
        cases k
        all_goals rfl
      · intro k
        cases k
        all_goals rfl
  · next hh =>
    unfold clmSlmpHandleSetIpaddrResponse
    split
    · exact .refl clm
    split
    · exact .refl clm
    · exact hnotify _ _ _ _ hh (fun h => nomatch h)
  · next hh =>
    unfold clmSlmpHandleSetIpError
    split
    · exact .refl clm
    split
    · exact .refl clm
    split
    · exact .refl clm
    · exact hnotify _ _ _ _ hh (fun h => nomatch h)
  · exact .refl clm

theorem clmSlmpCheckTimeouts_moves (cfg : SlmpMasterConfig) (clm : SlmpMaster) (now : UInt32)
    (inNodeSearchCfm inSetIpCfm : List SlmpCall) :
    Star (SlmpMove cfg) clm (clmSlmpCheckTimeouts cfg clm now inNodeSearchCfm inSetIpCfm).2
      (clmSlmpCheckTimeouts cfg clm now inNodeSearchCfm inSetIpCfm).1 :=
  (checkNodeSearchTimer_moves cfg clm now inNodeSearchCfm).trans
    (checkSetIpRequestTimer_moves cfg _ now inSetIpCfm)

/-! ## frames without effect -/

/-- another interface, or a serial number that is not pending -/
theorem slmpStep_frame_other (cfg : SlmpMasterConfig) (clm : SlmpMaster) (dg : Datagram)
    (ifindex : Int) (calls : List SlmpCall)
    (h : ifindex ≠ cfg.ifindex ∨ ∀ k, serialOf k clm ≠ (u16 dg.byte 2).toNat) :
    slmpStep cfg clm (.frame dg ifindex calls) = (clm, []) := by
  have hnone : ifindex = cfg.ifindex → ∀ endcode,
      responseHandler clm (u16 dg.byte 2) endcode = none := by
    intro hif endcode
    rcases h with h | h
    · exact absurd hif h
    · have hsearch : ((u16 dg.byte 2).toNat : Int) ≠ clm.nodeSearchSerial := Ne.symm (h .nodeSearch)
      have hsetIp : ((u16 dg.byte 2).toNat : Int) ≠ clm.setIpRequestSerial := Ne.symm (h .setIp)
      unfold responseHandler
      rw [if_neg hsearch, if_neg hsetIp]
  unfold slmpStep
  dsimp only
  unfold clmSlmpHandleInputFrame clSlmpParseResponseHeader
  by_cases hlen : 15 > dg.len
  · rw [if_pos hlen]
  · rw [if_neg hlen]
    dsimp only
    split
    · rfl
    split
    · rfl
    split
    · rfl
    · next hif =>
      rw [ne_eq, not_not] at hif
      have hserial : cfg.host.le16 (SlmpRespHeader.ofBuffer cfg.host dg.byte 0).serial
          = u16 dg.byte 2 := cfg.host.le16_raw16 dg.byte 2
      rw [hserial, hnone hif]
      rfl

end CLink
