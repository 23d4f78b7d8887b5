import CLink.Common.RequestGrammar
import CLink.EndToEnd.Request
import CLink.Master.GroupIndependence

/-!
# The requests of a run, as slaves read them

The status of the master is shared data of its groups, and the functions of a group only read it.

* `Config.statusAfter`      the status after the calls of the application;
* `Tells`                   the requests so far carry the status and the clock of the step;
* `Tells.step`              all requests of a step;
* `SentHeaders`             every header field of a request, and that all slaves accept it;
* `MasterStart.sentHeaders` the requests of every run.
-/

namespace CLink
open Loop Trace

/-! ## the status -/

/-- `master_local_unit_info` after the calls of the application -/
def Config.statusAfter (cfg : Config) (es : List Event) : UInt16 :=
  es.foldl (fun u e => match e with
    | .setMasterApplicationStatus running stoppedByUser =>
      clmIefbCalcMasterLocalUnitInfo cfg.protocolVer running stoppedByUser
    | _ => u) masterLocalUnitInfoRunning

theorem Config.statusAfter_concat (cfg : Config) (es : List Event) (e : Event) :
    cfg.statusAfter (es ++ [e]) = match e with
      | .setMasterApplicationStatus running stoppedByUser =>
        clmIefbCalcMasterLocalUnitInfo cfg.protocolVer running stoppedByUser
      | _ => cfg.statusAfter es := by
  unfold statusAfter
  rw [List.foldl_append, List.foldl_cons, List.foldl_nil]

/-- a status that every slave lets through -/
theorem Config.statusAfter_inMask {cfg : Config}
    (hver : cfg.protocolVer = 1 ∨ cfg.protocolVer = 2) (es : List Event) :
    unitInfoInMask cfg.protocolVer (cfg.statusAfter es) := by
  induction es using List.reverseRecOn with
  | nil =>
    show unitInfoInMask cfg.protocolVer masterLocalUnitInfoRunning
    rcases hver with h | h
    · exact Or.inl ⟨h, by decide⟩
    · exact Or.inr ⟨h, by decide⟩
  | append_singleton es e ih =>
    rw [Config.statusAfter_concat]
    cases e with
    | setMasterApplicationStatus running stoppedByUser =>
      have hvalid := clmIefbCalcMasterLocalUnitInfo_valid hver running stoppedByUser 0
      exact ((clIefbValidateMasterStationNotification_iff _ _).mp hvalid).1
    | _ => exact ih

/-! ## one step -/

/-- the frame of a request is built with this status and this clock -/
def Output.tells (cfg : Config) (status : UInt16) (unixMs : Nat → UInt64) : Output → Prop
  | sendRequest g start _ _ dg =>
    dg = (clmIefbSendCyclicRequestFrame (startDevices (cfg.hier.groups g) g start).1 (unixMs g)
      status).datagram
  | _ => True

theorem Output.tells_of_noRequest {cfg : Config} {status : UInt16} {unixMs : Nat → UInt64}
    {x : Output} (h : ∀ g, x.isRequest g = false) : x.tells cfg status unixMs := by
  cases x with
  | sendRequest g => exact absurd (h g) (by simp [isRequest])
  | _ => trivial

/-- the groups read the status, and their requests tell it -/
structure Tells (cfg : Config) (status : UInt16) (unixMs : Nat → UInt64) (s : Scope) : Prop where
  config : s.clm.config = cfg
  unitInfo : s.clm.masterLocalUnitInfo = status
  out : ∀ x ∈ s.out, x.tells cfg status unixMs

namespace Tells
variable {cfg : Config} {status : UInt16} {unixMs : Nat → UInt64} {s : Scope}

/-- with outputs that are no requests -/
theorem silent (h : Tells cfg status unixMs s) {clm : ClmShared} {gd : GroupData}
    {o : List Output} (hc : clm.config = s.clm.config)
    (hu : clm.masterLocalUnitInfo = s.clm.masterLocalUnitInfo)
    (ho : ∀ x ∈ o, ∀ g, x.isRequest g = false) :
    Tells cfg status unixMs { clm := clm, group := gd, out := s.out ++ o } := by
  refine ⟨hc.trans h.config, hu.trans h.unitInfo, ?_⟩
  exact List.forall_mem_append.mpr ⟨h.out, fun x hx => Output.tells_of_noRequest (ho x hx)⟩

theorem withGroup (h : Tells cfg status unixMs s) (gd : GroupData) :
    Tells cfg status unixMs { s with group := gd } := ⟨h.config, h.unitInfo, h.out⟩

theorem enterMasterState (h : Tells cfg status unixMs s) (state : MasterState) :
    Tells cfg status unixMs (enterMasterState state s) := by
  have hfields := clmIefbSetMasterState_fields s.clm state
  refine h.silent ?_ ?_ ?_
  · rw [hfields]
  · rw [hfields]
  · exact fun x hx => Output.isRequest_of_owner ((clmIefbSetMasterState_spec _ _).2 x hx)

/-- the only place that sends requests -/
theorem onLinkscanStart (h : Tells cfg status unixMs s) (g : Nat) (now : UInt32) :
    Tells cfg status unixMs (clmIefbOnLinkscanStart g now unixMs s) := by
  refine ⟨h.config, h.unitInfo, ?_⟩
  refine List.forall_mem_append.mpr ⟨h.out, List.forall_mem_append.mpr ⟨?_, ?_⟩⟩
  · intro x hx
    exact Output.tells_of_noRequest fun k => by
      obtain ⟨d, id, rfl | rfl⟩ := startDevices_out _ _ _ x hx <;> rfl
  · refine List.forall_mem_singleton.mpr ?_
    show _ = (clmIefbSendCyclicRequestFrame _ _ _).datagram
    rw [← h.config, ← h.unitInfo]
    rfl

theorem perform (h : Tells cfg status unixMs s) (g : Nat) (now : UInt32) (action : GroupAction) :
    Tells cfg status unixMs (action.perform g now unixMs s).1 := by
  have hdevices (event : DeviceEvent) (gd : GroupData) :
      ∀ x ∈ (clmIefbDeviceFsmEventAllInGroup (s.setting g) g event gd).2, ∀ k,
        x.isRequest k = false := by
    refine loop_inv (fun _ (t : GroupData × List Output) => ∀ x ∈ t.2, ∀ k, x.isRequest k = false)
      (List.forall_mem_nil _) ?_
    intro d t _ ht x hx k
    rcases List.mem_append.mp hx with hx | hx
    · exact ht x hx k
    · obtain ⟨d, id, rfl | rfl⟩ := clmIefbDeviceFsmEvent_out _ _ _ _ _ x hx <;> rfl
  have hscan (event : DeviceEvent) (gd : GroupData) (success : Bool) :
      ∀ x ∈ (clmIefbDeviceFsmEventAllInGroup (s.setting g) g event gd).2 ++ [.linkscanCb g success],
        ∀ k, x.isRequest k = false :=
    List.forall_mem_append.mpr ⟨hdevices event gd, List.forall_mem_singleton.mpr fun _ => rfl⟩
  cases action with
  | groupInit => exact h.silent rfl rfl (hdevices _ _)
  | groupNewConfig => exact ⟨h.config, h.unitInfo, h.out⟩
  | onArbitrationDone => exact h
  | onArbitrationFailed =>
    refine h.silent rfl rfl ?_
    exact fun x hx => Output.isRequest_of_owner ((clmIefbTriggerErrorCallback_spec _ _ _ _ _).2 x hx)
  | onLinkscanStart => exact h.onLinkscanStart g now
  | onLinkscanTimeout => exact h.silent rfl rfl (hscan _ _ _)
  | onLinkscanComplete => exact h.silent rfl rfl (hscan _ _ _)
  | onEntryListen =>
    have hfields := clmIefbSetMasterState_fields { s.clm with
      arbitrationTimer := clTimerStop s.clm.arbitrationTimer } .standby
    refine h.silent (o := _ ++ _) ?_ ?_ (List.forall_mem_append.mpr ⟨hdevices _ _, ?_⟩)
    · rw [hfields]
    · rw [hfields]
    · exact fun x hx => Output.isRequest_of_owner ((clmIefbSetMasterState_spec _ _).2 x hx)
  | onEntryArbitration => exact h.enterMasterState _
  | onEntryScanComplete => exact h.enterMasterState _

theorem transition (h : Tells cfg status unixMs s) (g : Nat) (now : UInt32) (next : GroupState)
    (action : Option GroupAction) :
    Tells cfg status unixMs (groupTransition g now unixMs next action s).1 := by
  have haction : Tells cfg status unixMs
      (groupPerformOption g now unixMs action (s.inState next)).1 := by
    cases action with
    | none => exact h.withGroup _
    | some action => exact (h.withGroup _).perform g now action
  rw [groupTransition_elim]
  cases (if next ≠ s.group.groupState then groupOnEntry next else none) with
  | none => exact haction
  | some onEntry => exact haction.perform g now onEntry

theorem groupEvent (h : Tells cfg status unixMs s) (g : Nat) (now : UInt32) (event : GroupEvent) :
    Tells cfg status unixMs (clmIefbGroupFsmEvent g now unixMs event s) :=
  drive_inv (I := Tells cfg status unixMs) (fun _ _ h => h.transition g now _ _) _ _ _ h

theorem monitor (h : Tells cfg status unixMs s) (g : Nat) (now : UInt32) :
    Tells cfg status unixMs (monitorGroupTimers g now unixMs s) := by
  have htimeout : Tells cfg status unixMs (if clTimerIsExpired s.group.responseWaitTimer now then
      clmIefbGroupFsmEvent g now unixMs .linkscanTimeout { s with group := { s.group with
        responseWaitTimer := clTimerStop s.group.responseWaitTimer } }
      else s) := by
    split
    · exact (h.withGroup _).groupEvent g now _
    · exact h
  unfold monitorGroupTimers
  revert htimeout
  generalize (if clTimerIsExpired s.group.responseWaitTimer now then
      clmIefbGroupFsmEvent g now unixMs .linkscanTimeout { s with group := { s.group with
        responseWaitTimer := clTimerStop s.group.responseWaitTimer } }
      else s) = t
  intro ht
  simp only
  split
  · exact (ht.withGroup _).groupEvent g now _
  · exact ht

end Tells

/-- the master reads the status, and the outputs of the step so far tell it -/
structure MasterTells (cfg : Config) (status : UInt16) (unixMs : Nat → UInt64)
    (r : Clm × List Output) : Prop where
  config : r.1.shared.config = cfg
  unitInfo : r.1.shared.masterLocalUnitInfo = status
  out : ∀ x ∈ r.2, x.tells cfg status unixMs

namespace MasterTells
variable {cfg : Config} {status : UInt16} {unixMs : Nat → UInt64} {c : Clm}

/-- one function for every group, after other outputs -/
theorem forGroups {out : List Output} (h : MasterTells cfg status unixMs (c, out))
    {f : Nat → Scope → Scope}
    (hf : ∀ g s, Tells cfg status unixMs s → Tells cfg status unixMs (f g s)) :
    MasterTells cfg status unixMs ((c.forGroups f).1, out ++ (c.forGroups f).2) := by
  obtain ⟨⟨hc, hu⟩, _, _, hout⟩ := Clm.forGroups_spec (c := c) (f := f)
    (fun _ clm => clm.config = cfg ∧ clm.masterLocalUnitInfo = status) (fun _ _ _ => True)
    (Output.tells cfg status unixMs) ⟨h.config, h.unitInfo⟩
    (by
      intro g clm _ hclm
      have hs := hf g { clm := clm, group := c.groups g, out := [] }
        ⟨hclm.1, hclm.2, List.forall_mem_nil _⟩
      exact ⟨⟨hs.config, hs.unitInfo⟩, trivial, hs.out⟩)
  exact ⟨hc, hu, List.forall_mem_append.mpr ⟨h.out, hout⟩⟩

theorem periodicTimers (h : MasterTells cfg status unixMs (c, [])) (now : UInt32) :
    MasterTells cfg status unixMs (clmIefbPeriodicTimers now unixMs c) := by
  unfold clmIefbPeriodicTimers
  simp only
  split
  · have hstopped : MasterTells cfg status unixMs ({ c with shared := { c.shared with
        errorlimiter := clLimiterPeriodic c.shared.errorlimiter now
        arbitrationTimer := clTimerStop c.shared.arbitrationTimer } }, []) :=
      ⟨h.config, h.unitInfo, List.forall_mem_nil _⟩
    have hdone := hstopped.forGroups fun g _ hs => hs.groupEvent g now .arbitrationDone
    exact hdone.forGroups fun g _ hs => hs.monitor g now
  · have hlimiter : MasterTells cfg status unixMs ({ c with shared := { c.shared with
        errorlimiter := clLimiterPeriodic c.shared.errorlimiter now } }, []) :=
      ⟨h.config, h.unitInfo, List.forall_mem_nil _⟩
    exact hlimiter.forGroups fun g _ hs => hs.monitor g now

theorem handleDeviceResponse (h : MasterTells cfg status unixMs (c, [])) (g d : Nat)
    (now : UInt32) (r : CyclicResponse) :
    MasterTells cfg status unixMs ((handleDeviceResponse g d now unixMs r c).1,
      (handleDeviceResponse g d now unixMs r c).2.1) := by
  have hchecked : Tells cfg status unixMs (checkResponse g d now r (c.scope g)).1 := by
    have herrors := checkResponse_errorsOnly g d now r (c.scope g)
    obtain ⟨limiter, hlimiter⟩ := herrors.limiter
    obtain ⟨o, ho, herr⟩ := herrors.out
    have hscope : Tells cfg status unixMs (c.scope g) := ⟨h.config, h.unitInfo, List.forall_mem_nil _⟩
    refine ⟨by rw [hlimiter]; exact h.config, by rw [hlimiter]; exact h.unitInfo, ?_⟩
    rw [ho]
    refine List.forall_mem_append.mpr ⟨hscope.out, ?_⟩
    intro x hx
    obtain ⟨_, _, _, rfl⟩ := herr x hx
    trivial
  have hstored : Tells cfg status unixMs
      (storeResponse g d r (checkResponse g d now r (c.scope g)).1) := by
    rw [storeResponse_eq]
    exact hchecked.silent rfl rfl (accepted_isRequest g d r _ _)
  unfold CLink.handleDeviceResponse
  simp only
  split
  · exact ⟨hchecked.config, hchecked.unitInfo, hchecked.out⟩
  split
  · have hset : MasterTells cfg status unixMs (c.setScope g
        (storeResponse g d r (checkResponse g d now r (c.scope g)).1)) :=
      ⟨hstored.config, hstored.unitInfo, hstored.out⟩
    exact hset.forGroups fun k _ hs => hs.groupEvent k now .masterduplAlarm
  · rename_i hcode
    have hreceived : Tells cfg status unixMs (receiveResponse g d now unixMs r
        (storeResponse g d r (checkResponse g d now r (c.scope g)).1)) := by
      rw [receiveResponse_eq now unixMs hcode]
      split
      · exact (hstored.withGroup _).groupEvent g now _
      · exact hstored.withGroup _
    exact ⟨hreceived.config, hreceived.unitInfo, hreceived.out⟩

end MasterTells

/-- the clock of the step; only ticks and datagrams can start link scans -/
def Event.unixClock : Event → Nat → UInt64
  | tick _ unixMs => unixMs
  | frame _ unixMs _ _ _ => unixMs
  | _ => fun _ => 0

/-- **The requests of a step.** -/
theorem clmStep_tells (c : Clm) (e : Event) :
    ∀ x ∈ (clmStep c e).2, x.tells c.shared.config c.shared.masterLocalUnitInfo e.unixClock := by
  have hstart (unixMs : Nat → UInt64) :
      MasterTells c.shared.config c.shared.masterLocalUnitInfo unixMs (c, []) :=
    ⟨rfl, rfl, List.forall_mem_nil _⟩
  unfold clmStep
  split
  · exact List.forall_mem_nil _
  cases e with
  | tick now unixMs => exact ((hstart unixMs).periodicTimers now).out
  | frame now unixMs dg remoteIp remotePort =>
    have hcases := clmIefbHandleInputFrame_cases c now unixMs dg remoteIp remotePort
    simp only
    generalize clmIefbHandleInputFrame now unixMs dg remoteIp remotePort c = t at hcases
    cases hcases with
    | response g d r hg hd hid hr hf => exact ((hstart unixMs).handleDeviceResponse g d now r).out
    | request hr hf =>
      have hforeign : MasterTells c.shared.config c.shared.masterLocalUnitInfo unixMs
          ({ c with shared := { c.shared with latestConflictingMasterIp := remoteIp } }, []) :=
        ⟨rfl, rfl, List.forall_mem_nil _⟩
      exact (hforeign.forGroups fun g _ hs => hs.groupEvent g now .reqFromOther).out
    | dropped aborted value hr hf => exact List.forall_mem_nil _
  | _ => exact List.forall_mem_nil _

/-! ## the status in a run -/

/-- what a step does to the status -/
theorem clmStep_unitInfo {c : Clm} (hlive : c.aborted = false) (e : Event) :
    (clmStep c e).1.shared.masterLocalUnitInfo = match e with
      | .setMasterApplicationStatus running stoppedByUser =>
        clmIefbCalcMasterLocalUnitInfo c.shared.config.protocolVer running stoppedByUser
      | _ => c.shared.masterLocalUnitInfo := by
  have hstart (unixMs : Nat → UInt64) :
      MasterTells c.shared.config c.shared.masterLocalUnitInfo unixMs (c, []) :=
    ⟨rfl, rfl, List.forall_mem_nil _⟩
  have hdevice (g d : Nat) (f : SlaveDeviceData → SlaveDeviceData) :
      (c.modifyDevice g d f).shared = c.shared := by
    unfold Clm.modifyDevice
    split <;> rfl
  unfold clmStep
  rw [if_neg (by rw [hlive]; exact Bool.false_ne_true)]
  cases e with
  | tick now unixMs => exact ((hstart unixMs).periodicTimers now).unitInfo
  | frame now unixMs dg remoteIp remotePort =>
    have hcases := clmIefbHandleInputFrame_cases c now unixMs dg remoteIp remotePort
    simp only
    generalize clmIefbHandleInputFrame now unixMs dg remoteIp remotePort c = t at hcases
    cases hcases with
    | response g d r hg hd hid hr hf =>
      exact ((hstart unixMs).handleDeviceResponse g d now r).unitInfo
    | request hr hf =>
      have hforeign : MasterTells c.shared.config c.shared.masterLocalUnitInfo unixMs
          ({ c with shared := { c.shared with latestConflictingMasterIp := remoteIp } }, []) :=
        ⟨rfl, rfl, List.forall_mem_nil _⟩
      exact (hforeign.forGroups fun g _ hs => hs.groupEvent g now .reqFromOther).unitInfo
    | dropped aborted value hr hf => rfl
  | setSlaveCommunicationStatus g d enabled =>
    exact congrArg ClmShared.masterLocalUnitInfo (hdevice g d _)
  | forceCyclicTransmissionBit g d force =>
    exact congrArg ClmShared.masterLocalUnitInfo (hdevice g d _)
  | statisticsClearAll =>
    rw [clmIefbStatisticsClearAll_eq]
  | setMasterApplicationStatus running stoppedByUser => rfl
  | writeMemoryArea g ry rww =>
    show (writeMemoryArea g ry rww c).shared.masterLocalUnitInfo = _
    unfold writeMemoryArea
    split <;> rfl

/-- an event after which the master has ended, or it had ended before -/
theorem clmStep_live {c : Clm} {e : Event} (h : (clmStep c e).1.aborted = false) :
    c.aborted = false := by
  by_contra hdead
  have hsame : clmStep c e = (c, []) := if_pos ((Bool.not_eq_false _).mp hdead)
  rw [hsame] at h
  exact hdead h

namespace MasterStart
variable {o : Options} (st : MasterStart o)

theorem init_unitInfo : st.init.1.shared.masterLocalUnitInfo = masterLocalUnitInfoRunning := by
  have hcleared : MasterTells st.cleared.shared.config masterLocalUnitInfoRunning (fun _ => 0)
      (st.cleared, []) := ⟨rfl, rfl, List.forall_mem_nil _⟩
  have hstartup := hcleared.forGroups fun g _ hs => hs.groupEvent g st.now .startup
  have hnumber : MasterTells st.cleared.shared.config masterLocalUnitInfoRunning (fun _ => 0)
      ({ st.startup.1 with shared := { st.startup.1.shared with
          parameterNo := st.startup.1.shared.parameterNo + 1 } }, []) :=
    ⟨hstartup.config, hstartup.unitInfo, List.forall_mem_nil _⟩
  rw [st.init_eq]
  exact (hnumber.forGroups fun g _ hs => hs.groupEvent g st.now .newConfig).unitInfo

/-- the master knows the status that its application has set last -/
theorem run_unitInfo {es : List Event} (hlive : (st.run es).1.aborted = false) :
    (st.run es).1.shared.masterLocalUnitInfo = st.vc.cfg.statusAfter es := by
  induction es using List.reverseRecOn with
  | nil =>
    rw [st.run_nil]
    exact st.init_unitInfo
  | append_singleton es e ih =>
    rw [st.run_concat] at hlive ⊢
    have hlive' := clmStep_live hlive
    rw [Config.statusAfter_concat]
    refine (clmStep_unitInfo hlive' e).trans ?_
    rw [ih hlive', (st.run_config es).1]

end MasterStart

/-! ## the headers in a run -/

/-- every header field of a request in the event `e` after the events `pre` -/
structure SentHeaders {o : Options} (st : MasterStart o) (pre : List Event) (e : Event) (g : Nat)
    (dg : Datagram) : Prop where
  /-- the configuration, the parameter number, the clock and the status -/
  headers : ∃ frameSequenceNo state, ReqFullHeaders.ofBuffer dg.byte
    = (clIefbUpdateRequestFrameHeaders (initialRequest st.vc.cfg st.parameterNo g) frameSequenceNo
        (e.unixClock g) (st.vc.cfg.statusAfter pre) state).fullHeaders
  grammar : RequestGrammar dg st.vc.cfg.masterId (st.vc.setting g).total
  accepted : ∀ remotePort localIp, ∃ r,
    clsIefbInputRequest dg st.vc.cfg.masterId remotePort localIp = .ok r

/-- headers that are updated once more -/
theorem updateRequestFrameHeaders_again {f f' : RequestFrame} {frameSequenceNo n n' : UInt16}
    {clockInfo c c' : UInt64} {unitInfo u u' state s s' : UInt16}
    (h : (clIefbUpdateRequestFrameHeaders f n c u s).fullHeaders
      = (clIefbUpdateRequestFrameHeaders f' n' c' u' s').fullHeaders) :
    (clIefbUpdateRequestFrameHeaders f frameSequenceNo clockInfo unitInfo state).fullHeaders
      = (clIefbUpdateRequestFrameHeaders f' frameSequenceNo clockInfo unitInfo
          state).fullHeaders := by
  have hupdate (f : RequestFrame) (n : UInt16) (c : UInt64) (u s : UInt16) :
      (clIefbUpdateRequestFrameHeaders (clIefbUpdateRequestFrameHeaders f n c u s) frameSequenceNo
        clockInfo unitInfo state).fullHeaders
        = (clIefbUpdateRequestFrameHeaders f frameSequenceNo clockInfo unitInfo
            state).fullHeaders := rfl
  have hcongr {f f' : RequestFrame} (h : f.fullHeaders = f'.fullHeaders) :
      (clIefbUpdateRequestFrameHeaders f frameSequenceNo clockInfo unitInfo state).fullHeaders
        = (clIefbUpdateRequestFrameHeaders f' frameSequenceNo clockInfo unitInfo
            state).fullHeaders := by
    unfold clIefbUpdateRequestFrameHeaders
    rw [h]
  rw [← hupdate f n c u s, ← hupdate f' n' c' u' s']
  exact hcongr h

namespace MasterStart
variable {o : Options} (st : MasterStart o)

/-- the frame of a group whose devices are handled, at the start of a link scan -/
theorem run_startedFrame {es : List Event} {g : Nat} {start : GroupData} {destIp : IpAddr}
    {destPort : UInt16} {dg : Datagram}
    (hmem : .sendRequest g start destIp destPort dg ∈ (st.run es).2) :
    (startDevices (st.vc.setting g) g start).1.reqFrame.Layout (st.vc.setting g).total
      ∧ ∃ n c u s n' c' u' s', (clIefbUpdateRequestFrameHeaders
          (startDevices (st.vc.setting g) g start).1.reqFrame n c u s).fullHeaders
        = (clIefbUpdateRequestFrameHeaders (initialRequest st.vc.cfg st.parameterNo g) n' c' u'
            s').fullHeaders := by
  refine st.run_request (A := fun _ _ _ => True) (I := fun _ => True)
    (P := fun start _ =>
      (startDevices (st.vc.setting g) g start).1.reqFrame.Layout (st.vc.setting g).total
      ∧ ∃ n c u s n' c' u' s', (clIefbUpdateRequestFrameHeaders
          (startDevices (st.vc.setting g) g start).1.reqFrame n c u s).fullHeaders
        = (clIefbUpdateRequestFrameHeaders (initialRequest st.vc.cfg st.parameterNo g) n' c' u'
            s').fullHeaders)
    (fun _ _ => trivial) (fun _ _ _ _ _ _ => trivial) ?_
    (Machine.Steps.of_all master (fun _ _ _ _ _ => trivial) _ _) hmem
  intro now gd gd' hinv _ hs hst
  have hinv' := groupInv_linkscanStarted (st.vc.group (st.mem_ofGroup rfl hmem).1) hinv hs hst
  obtain ⟨clockInfo, unitInfo, hframe⟩ := hst.frame
  have hlayout := hinv'.layout
  obtain ⟨n', c', u', s', hheaders⟩ := hinv'.headers
  rw [hframe] at hlayout hheaders
  refine ⟨⟨hlayout.len, hlayout.firstSlaveId, hlayout.firstRww, hlayout.firstRy⟩, ?_⟩
  exact ⟨_, _, _, _, n', c', u', s', hheaders⟩

/-- the headers that a step gives its requests, and the grammar they are in -/
theorem step_headers (pre : List Event) (e : Event) {g : Nat} {start : GroupData} {destIp : IpAddr}
    {destPort : UInt16} {dg : Datagram}
    (hmem : .sendRequest g start destIp destPort dg ∈ (clmStep (st.run pre).1 e).2) :
    (∃ frameSequenceNo state, ReqFullHeaders.ofBuffer dg.byte
        = (clIefbUpdateRequestFrameHeaders (initialRequest st.vc.cfg st.parameterNo g)
            frameSequenceNo (e.unixClock g) (st.vc.cfg.statusAfter pre) state).fullHeaders)
      ∧ RequestGrammar dg st.vc.cfg.masterId (st.vc.setting g).total := by
  have hmem' : .sendRequest g start destIp destPort dg ∈ (st.run (pre ++ [e])).2 := by
    rw [st.run_concat]
    exact List.mem_append_right _ hmem
  have hlive : (st.run pre).1.aborted = false := by
    by_contra hdead
    have hsame : clmStep (st.run pre).1 e = ((st.run pre).1, []) :=
      if_pos ((Bool.not_eq_false _).mp hdead)
    rw [hsame] at hmem
    exact List.not_mem_nil hmem
  have hg := (st.mem_ofGroup rfl hmem').1
  have hv := st.vc.group hg
  obtain ⟨hlayout, n, c, u, s, n', c', u', s', hupdated⟩ := st.run_startedFrame hmem'
  have htells := clmStep_tells (st.run pre).1 e _ hmem
  rw [st.run_unitInfo hlive, (st.run_config pre).1] at htells
  -- the frame that goes out, with the clock and the status
  have hframe : (clmIefbSendCyclicRequestFrame (startDevices (st.vc.setting g) g start).1
      (e.unixClock g) (st.vc.cfg.statusAfter pre)).Layout (st.vc.setting g).total :=
    ⟨hlayout.len, hlayout.firstSlaveId, hlayout.firstRww, hlayout.firstRy⟩
  have hdg : dg = (clmIefbSendCyclicRequestFrame (startDevices (st.vc.setting g) g start).1
      (e.unixClock g) (st.vc.cfg.statusAfter pre)).datagram := htells
  have hbuffer : ReqFullHeaders.ofBuffer dg.byte
      = (clIefbUpdateRequestFrameHeaders (initialRequest st.vc.cfg st.parameterNo g)
          (startDevices (st.vc.setting g) g start).1.frameSequenceNo (e.unixClock g)
          (st.vc.cfg.statusAfter pre)
          (startDevices (st.vc.setting g) g start).1.cyclicTransmissionState).fullHeaders := by
    rw [hdg]
    exact (RequestFrame.fullHeaders_datagram hframe).trans (updateRequestFrameHeaders_again hupdated)
  have hlen : dg.len = 67 + 76 * (st.vc.setting g).total := by
    rw [hdg]
    exact hframe.len
  have htotal : 1 ≤ (st.vc.setting g).total ∧ (st.vc.setting g).total ≤ 16 :=
    ⟨hv.total_pos, hv.total_le⟩
  have hstations : (clmIefbCalcOccupiedPerGroup (st.vc.setting g)).toNat
      = (st.vc.setting g).total := by
    rw [clmIefbCalcOccupiedPerGroup_eq, hv.total_toNat]
    rfl
  have hver : st.vc.cfg.protocolVer = 1 ∨ st.vc.cfg.protocolVer = 2 := by
    have hrange := st.vc.protocolVer_range
    rw [← UInt16.toNat_inj, ← UInt16.toNat_inj]
    show _ = 1 ∨ _ = 2
    omega
  refine ⟨⟨_, _, hbuffer⟩, ?_, htotal, hlen⟩
  · rw [hbuffer]
    refine ⟨?_, ⟨rfl, rfl, rfl, rfl, rfl, rfl⟩, rfl, ⟨rfl, fun _ => rfl⟩, ?_, rfl, ?_, ⟨rfl, rfl⟩,
      ⟨rfl, st.vc.masterId_ne⟩, hstations⟩
    · show (UInt16.ofNat (clCalculateCyclicRequestSize (clmIefbCalcOccupiedPerGroup
          (st.vc.setting g)) - reqHeaderDlOffset)).toNat + 9 = dg.len
      have hsize : clCalculateCyclicRequestSize (clmIefbCalcOccupiedPerGroup (st.vc.setting g))
          = dg.len := by
        rw [hlen, ← hstations]
        unfold clCalculateCyclicRequestSize
        omega
      have hoffset : reqHeaderDlOffset = 9 := rfl
      rw [hsize, UInt16.toNat_ofNat', hlen]
      omega
    · exact Config.statusAfter_inMask hver pre
    · have hle := st.vc.numGroups_le
      show 1 ≤ (UInt16.ofNat g + 1).toUInt8.toNat ∧ (UInt16.ofNat g + 1).toUInt8.toNat ≤ 64
      rw [UInt16.toNat_toUInt8, UInt16.toNat_add, UInt16.toNat_ofNat']
      show 1 ≤ (g % 2^16 + 1) % 2^16 % 2^8 ∧ (g % 2^16 + 1) % 2^16 % 2^8 ≤ 64
      omega

/-- **The headers of every request.** -/
theorem sentHeaders (pre : List Event) (e : Event) {g : Nat} {start : GroupData} {destIp : IpAddr}
    {destPort : UInt16} {dg : Datagram}
    (hmem : .sendRequest g start destIp destPort dg ∈ (clmStep (st.run pre).1 e).2) :
    SentHeaders st pre e g dg := by
  obtain ⟨hheaders, hgrammar⟩ := st.step_headers pre e hmem
  refine ⟨hheaders, hgrammar, ?_⟩
  intro remotePort localIp
  exact ⟨_, clsIefbInputRequest_ok remotePort localIp hgrammar⟩

/-- the first link scan, after the application has stopped the master -/
theorem sentHeaders_example :
    ∃ start destIp destPort dg,
      .sendRequest 0 start destIp destPort dg
        ∈ (clmStep ((exampleStart false false).run [.setMasterApplicationStatus false false]).1
          (.exampleTick 5000)).2
      ∧ SentHeaders (exampleStart false false) [.setMasterApplicationStatus false false]
        (.exampleTick 5000) 0 dg := by
  have hrun : (clmStep ((exampleStart false false).run
      [.setMasterApplicationStatus false false]).1 (.exampleTick 5000)).2.any
      (Output.isRequestWith 0 fun _ _ => true) = true := by decide +kernel
  obtain ⟨start, destIp, destPort, dg, hmem, _⟩ := exists_request hrun
  exact ⟨start, destIp, destPort, dg, hmem,
    (exampleStart false false).sentHeaders [.setMasterApplicationStatus false false] _ hmem⟩

end MasterStart

end CLink
