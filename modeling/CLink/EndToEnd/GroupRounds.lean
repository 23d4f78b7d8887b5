import CLink.EndToEnd.OwnRequests
import CLink.Master.Rounds
import CLink.Slave.Serving

/-!
# The link scans of a group whose slaves all answer

The master, what is on its way and the slaves together, device by device.

* `DeviceRound`   where a request to a device, or its answer, is;
* `GroupRound`    all devices of a group that the master asks;
* `GroupRound.start`, `.serves`, `.accept`, `.complete`   the four steps of a link scan;
* `GroupRound.untouched`, `.idles`                        everything else.
-/

namespace CLink
open Loop Trace

/-! ## a device -/

/-- the outputs of a link scan that has gone wrong -/
def Output.isFault (g : Nat) : Output → Bool
  | linkscanCb g' success => g' = g && !success
  | disconnectCb g' _ _ => g' = g
  | _ => false

/-- the payload of a request of group `g` -/
def Output.requestOf (g : Nat) : Output → Option Datagram
  | sendRequest g' _ _ _ payload => if g' = g then some payload else none
  | _ => none

theorem Output.requestOf_none {g : Nat} {out : List Output}
    (h : ∀ x ∈ out, x.isRequest g = false) : out.filterMap (Output.requestOf g) = [] := by
  rw [List.filterMap_eq_nil_iff]
  intro x hx
  cases x with
  | sendRequest k => exact if_neg (of_decide_eq_false (h _ hx))
  | _ => rfl

/-- the master waits for a response with the number `seq` from device `d` -/
def ResponseCopy.IsAnswer (gs : GroupSetting) (d : Nat) (seq : UInt16) (q : ResponseCopy) : Prop :=
  ∀ remotePort now, ∃ r,
    clmIefbInputResponse q.payload (gs.slaveDevices d).slaveId remotePort now = .ok r
      ∧ Attended.Answer gs d seq r

/-- the request of the link scan has gone out to the device, and the slave is ready for it -/
structure IsAsked (gs : GroupSetting) (d : Nat) (gd : GroupData) (c : Cls) : Prop where
  scan : gd.groupState = .masterLinkScan
  waiting : Waiting gd.frameSequenceNo (gd.slaveDevices d)
  slave : gd.frameSequenceNo ≠ 0 → c.state = .masterControl
  seq : requestSequenceNo gd.reqFrame.datagram = gd.frameSequenceNo
  bit : requestBit gd.reqFrame.datagram (UInt16.ofNat (gs.pos d + 1))
    = decide (gd.frameSequenceNo ≠ 0)

/-- the requests and the responses of a device on their way, and its slave, after `requests` requests
of which `stored` were answered -/
inductive DeviceRound (gs : GroupSetting) (d stored requests : Nat) (gd : GroupData) :
    List Datagram → List ResponseCopy → Cls → Prop where
  | ready (c : Cls) (hs : gd.groupState ≠ .masterLinkScan)
      (hdev : Ready gd.frameSequenceNo (gd.slaveDevices d))
      (hslave : gd.frameSequenceNo ≠ 0 → c.state = .masterControl)
      (hcount : stored = requests) :
      DeviceRound gs d stored requests gd [] [] c
  | asked (c : Cls) (ha : IsAsked gs d gd c) (hcount : stored + 1 = requests) :
      DeviceRound gs d stored requests gd [gd.reqFrame.datagram] [] c
  | answered (c : Cls) (q : ResponseCopy) (hs : gd.groupState = .masterLinkScan)
      (hdev : Waiting gd.frameSequenceNo (gd.slaveDevices d))
      (hslave : c.state = .masterControl) (hanswer : q.IsAnswer gs d gd.frameSequenceNo)
      (hcount : stored + 1 = requests) :
      DeviceRound gs d stored requests gd [] [q] c
  | received (c : Cls) (hs : gd.groupState = .masterLinkScan)
      (hdev : Done gd.frameSequenceNo (gd.slaveDevices d)) (hslave : c.state = .masterControl)
      (hcount : stored = requests) :
      DeviceRound gs d stored requests gd [] [] c

/-- the slave is in service and has as many stations as the master thinks -/
structure Works (n : UInt16) (c : Cls) : Prop where
  serving : Serving c
  stations : c.config.numOccupiedStations = n

/-- the devices that the master asks -/
structure GroupRound (gs : GroupSetting) (g : Nat) (hist : List Output) (gd : GroupData)
    (asked : Nat → List Datagram) (answered : Nat → List ResponseCopy) (slaves : Nat → Cls) :
    Prop where
  attended : Attended gs gd
  works : ∀ d, gs.asks d → Works (gs.slaveDevices d).numOccupiedStations (slaves d)
  device : ∀ d, gs.asks d → DeviceRound gs d (hist.countP (Output.isStored g d))
    (hist.countP (Output.isRequest g)) gd (asked d) (answered d) (slaves d)
  completed : hist.countP (Output.isCompletion g)
    + (if gd.groupState = .masterLinkScan then 1 else 0) = hist.countP (Output.isRequest g)
  faultless : ∀ x ∈ hist, x.isFault g = false

/-- a link scan goes on for as long as a device is waited for -/
def GroupData.Unfinished (gs : GroupSetting) (gd : GroupData) : Prop :=
  gd.groupState = .masterLinkScan →
    ∃ d, gs.asks d ∧ Waiting gd.frameSequenceNo (gd.slaveDevices d)

section
variable {gs : GroupSetting} {d stored requests : Nat} {gd gd' : GroupData}
  {asked : List Datagram} {answered : List ResponseCopy} {c c' : Cls}

/-- a group that is left as it was, apart from what the application may change -/
structure GroupData.Untouched (n : Nat) (gd gd' : GroupData) : Prop where
  state : gd'.groupState = .masterLinkScan ↔ gd.groupState = .masterLinkScan
  seq : gd'.frameSequenceNo = gd.frameSequenceNo
  frame : gd'.reqFrame = gd.reqFrame
  devices : ∀ d, d < n → CLink.Untouched (gd.slaveDevices d) (gd'.slaveDevices d)

theorem GroupData.Unfinished.untouched (h : gd.Unfinished gs)
    (hu : GroupData.Untouched gs.numSlaveDevices.toNat gd gd') : gd'.Unfinished gs := by
  intro hscan
  obtain ⟨d, hd, hwaiting⟩ := h (hu.state.mp hscan)
  refine ⟨d, hd, ?_⟩
  rw [hu.seq]
  exact hwaiting.untouched (hu.devices d hd.1)

theorem DeviceRound.untouched (h : DeviceRound gs d stored requests gd asked answered c)
    (hstate : gd'.groupState = .masterLinkScan ↔ gd.groupState = .masterLinkScan)
    (hnumber : gd'.frameSequenceNo = gd.frameSequenceNo)
    (hframe : gd'.reqFrame = gd.reqFrame)
    (hdev : Untouched (gd.slaveDevices d) (gd'.slaveDevices d)) :
    DeviceRound gs d stored requests gd' asked answered c := by
  cases h with
  | ready _ hs hready hslave hcount =>
    refine .ready c (fun hscan => hs (hstate.mp hscan)) ?_ ?_ hcount
    · rw [hnumber]
      exact hready.untouched hdev
    · rw [hnumber]
      exact hslave
  | asked _ ha hcount =>
    obtain ⟨hs, hwaiting, hslave, hseq, hbit⟩ := ha
    rw [← hframe] at hseq hbit ⊢
    rw [← hnumber] at hwaiting hslave hseq hbit
    exact .asked c ⟨hstate.mpr hs, hwaiting.untouched hdev, hslave, hseq, hbit⟩ hcount
  | answered _ q hs hwaiting hslave hanswer hcount =>
    rw [← hnumber] at hwaiting hanswer
    exact .answered c q (hstate.mpr hs) (hwaiting.untouched hdev) hslave hanswer hcount
  | received _ hs hdone hslave hcount =>
    rw [← hnumber] at hdone
    exact .received c (hstate.mpr hs) (hdone.untouched hdev) hslave hcount

/-- what the slave does on its own -/
theorem DeviceRound.idles (h : DeviceRound gs d stored requests gd asked answered c) (hi : Idles c c') :
    DeviceRound gs d stored requests gd asked answered c' := by
  cases h with
  | ready _ hs hready hslave hcount =>
    exact .ready c' hs hready (fun h => hi.state.trans (hslave h)) hcount
  | asked _ ha hcount =>
    exact .asked c' ⟨ha.scan, ha.waiting, fun h => hi.state.trans (ha.slave h), ha.seq, ha.bit⟩ hcount
  | answered _ q hs hwaiting hslave hanswer hcount =>
    exact .answered c' q hs hwaiting (hi.state.trans hslave) hanswer hcount
  | received _ hs hdone hslave hcount =>
    exact .received c' hs hdone (hi.state.trans hslave) hcount

/-- before and after a link scan -/
theorem DeviceRound.resting (h : DeviceRound gs d stored requests gd asked answered c)
    (hs : gd.groupState ≠ .masterLinkScan) :
    (asked = [] ∧ answered = []) ∧ Ready gd.frameSequenceNo (gd.slaveDevices d)
      ∧ (gd.frameSequenceNo ≠ 0 → c.state = .masterControl) ∧ stored = requests := by
  cases h with
  | ready _ _ hready hslave hcount => exact ⟨⟨rfl, rfl⟩, hready, hslave, hcount⟩
  | asked _ ha => exact absurd ha.scan hs
  | answered _ _ hscan | received _ hscan => exact absurd hscan hs

/-- during a link scan -/
theorem DeviceRound.scanning (h : DeviceRound gs d stored requests gd asked answered c)
    (hs : gd.groupState = .masterLinkScan) :
    Waiting gd.frameSequenceNo (gd.slaveDevices d) ∨ Done gd.frameSequenceNo (gd.slaveDevices d) := by
  cases h with
  | ready _ hrest => exact absurd hs hrest
  | asked _ ha => exact Or.inl ha.waiting
  | answered _ _ _ hwaiting => exact Or.inl hwaiting
  | received _ _ hdone => exact Or.inr hdone

/-- the device is waited for as long as something is on its way -/
theorem DeviceRound.waiting_iff (h : DeviceRound gs d stored requests gd asked answered c) :
    (gd.groupState = .masterLinkScan ∧ Waiting gd.frameSequenceNo (gd.slaveDevices d))
      ↔ asked ≠ [] ∨ answered ≠ [] := by
  cases h with
  | ready _ hrest => exact ⟨fun h => absurd h.1 hrest, fun h => by simp at h⟩
  | asked _ ha =>
    exact ⟨fun _ => Or.inl (List.cons_ne_nil _ _), fun _ => ⟨ha.scan, ha.waiting⟩⟩
  | answered _ q hs hwaiting =>
    exact ⟨fun _ => Or.inr (List.cons_ne_nil _ _), fun _ => ⟨hs, hwaiting⟩⟩
  | received _ _ hdone =>
    exact ⟨fun h => absurd hdone.state h.2.not_done, fun h => by simp at h⟩

end

/-! ## a group -/

namespace GroupRound
variable {gs : GroupSetting} {g : Nat} {hist out : List Output} {gd gd' : GroupData}
  {asked asked' : Nat → List Datagram} {answered answered' : Nat → List ResponseCopy}
  {slaves slaves' : Nat → Cls}

/-- only what concerns the devices that are asked counts -/
theorem congr (h : GroupRound gs g hist gd asked answered slaves)
    (hasked : ∀ d, gs.asks d → asked' d = asked d)
    (hanswered : ∀ d, gs.asks d → answered' d = answered d)
    (hslaves : ∀ d, gs.asks d → slaves' d = slaves d) :
    GroupRound gs g hist gd asked' answered' slaves' := by
  refine ⟨h.attended, ?_, ?_, h.completed, h.faultless⟩
  · intro d hd
    rw [hslaves d hd]
    exact h.works d hd
  · intro d hd
    rw [hasked d hd, hanswered d hd, hslaves d hd]
    exact h.device d hd

theorem untouched (h : GroupRound gs g hist gd asked answered slaves)
    (hu : GroupData.Untouched gs.numSlaveDevices.toNat gd gd') :
    GroupRound gs g hist gd' asked answered slaves := by
  refine ⟨h.attended.untouched hu.devices, h.works, ?_, ?_, h.faultless⟩
  · intro d hd
    exact (h.device d hd).untouched hu.state hu.seq hu.frame (hu.devices d hd.1)
  · simp only [hu.state]
    exact h.completed

/-- a slave does something on its own -/
theorem idles (h : GroupRound gs g hist gd asked answered slaves) {d : Nat}
    (hother : ∀ e, e ≠ d → slaves' e = slaves e) (hserving : Serving (slaves' d))
    (hi : Idles (slaves d) (slaves' d)) : GroupRound gs g hist gd asked answered slaves' := by
  refine ⟨h.attended, ?_, ?_, h.completed, h.faultless⟩
  · intro e he
    by_cases hed : e = d
    · subst hed
      exact ⟨hserving, (congrArg _ hi.config).trans (h.works e he).stations⟩
    · rw [hother e hed]
      exact h.works e he
  · intro e he
    by_cases hed : e = d
    · subst hed
      exact (h.device e he).idles hi
    · rw [hother e hed]
      exact h.device e he

/-! ## the steps of a link scan -/

/-- the request of the group goes out -/
theorem start {o : Options} {cfg : Config} {parameterNo : UInt16} {now : UInt32}
    {start : GroupData} {destIp : IpAddr} {destPort : UInt16}
    (h : GroupRound (cfg.hier.groups g) g hist gd asked answered slaves)
    (hv : GroupValid o cfg (cfg.hier.groups g)) (hinv : GroupInv cfg parameterNo g gd)
    (hs : gd.groupState = .masterLinkScanComp)
    (hst : LinkscanStarted (cfg.hier.groups g) g now gd gd')
    (hout : out = (startDevices (cfg.hier.groups g) g gd.scanning).2
      ++ [.sendRequest g start destIp destPort gd'.reqFrame.datagram])
    (hasked : ∀ d, (cfg.hier.groups g).asks d → asked' d = asked d ++ [gd'.reqFrame.datagram]) :
    GroupRound (cfg.hier.groups g) g (hist ++ out) gd' asked' answered slaves := by
  have hrest : gd.groupState ≠ .masterLinkScan := by
    rw [hs]
    decide
  obtain ⟨hattended, hwaiting, hconnected⟩ := h.attended.start hv hinv hs
    (fun d hd => ((h.device d hd).resting hrest).2.1) hst
  have hdevices (x : Output) (hx : x ∈ (startDevices (cfg.hier.groups g) g gd.scanning).2) :
      (∀ d, x.isStored g d = false) ∧ x.isRequest g = false ∧ x.isCompletion g = false
        ∧ x.isFault g = false := by
    obtain ⟨d, id, rfl | rfl⟩ := startDevices_out _ _ _ x hx
    · exact ⟨fun _ => rfl, rfl, rfl, rfl⟩
    · exact absurd hx (hconnected g d id)
  have hnone {p : Output → Bool}
      (hp : ∀ x ∈ (startDevices (cfg.hier.groups g) g gd.scanning).2, p x = false) :
      (startDevices (cfg.hier.groups g) g gd.scanning).2.countP p = 0 := by
    rw [List.countP_eq_zero]
    intro x hx
    rw [hp x hx]
    decide
  have hrequests : out.countP (Output.isRequest g) = 1 := by
    rw [hout, List.countP_append, hnone fun x hx => (hdevices x hx).2.1, List.countP_singleton]
    simp [Output.isRequest]
  have hstored (d : Nat) : out.countP (Output.isStored g d) = 0 := by
    rw [hout, List.countP_append, hnone fun x hx => (hdevices x hx).1 d]
    rfl
  have hcompletions : out.countP (Output.isCompletion g) = 0 := by
    rw [hout, List.countP_append, hnone fun x hx => (hdevices x hx).2.2.1]
    rfl
  refine ⟨hattended, h.works, ?_, ?_, ?_⟩
  · intro d hd
    obtain ⟨⟨hnoRequest, hnoAnswer⟩, hready, hslave, hcount⟩ := (h.device d hd).resting hrest
    rw [hasked d hd, hnoRequest, hnoAnswer, List.nil_append]
    have hseq := linkscanStarted_sequenceNo hv hinv hs hst
    refine .asked _ ⟨hst.state, hwaiting d hd, ?_, hseq.trans hst.seq.symm, ?_⟩ ?_
    · rw [hst.seq]
      exact hslave
    · rw [linkscanStarted_bit hv hinv hs hst hd.1, hst.seq]
      exact h.attended.bitGoesOut hd hready
    · rw [List.countP_append, List.countP_append, hrequests, hstored, hcount]
  · have hcompleted := h.completed
    rw [if_neg hrest] at hcompleted
    rw [List.countP_append, List.countP_append, hcompletions, hrequests, if_pos hst.state]
    exact congrArg (· + 1) hcompleted
  · refine List.forall_mem_append.mpr ⟨h.faultless, ?_⟩
    rw [hout]
    exact List.forall_mem_append.mpr ⟨fun x hx => (hdevices x hx).2.2.2,
      List.forall_mem_singleton.mpr rfl⟩

/-- the last device has answered -/
theorem complete (h : GroupRound gs g hist gd asked answered slaves)
    (hs : gd.groupState = .masterLinkScan)
    (hdone : ∀ d, gs.asks d → Done gd.frameSequenceNo (gd.slaveDevices d)) (timer : Timer) :
    GroupRound gs g (hist ++ [.linkscanCb g true])
      { gd.endScan gs .groupAllResponded with responseWaitTimer := timer } asked answered
      slaves := by
  obtain ⟨hattended, hready⟩ := h.attended.endScan hdone
  refine ⟨⟨hattended.enabled, hattended.force, hattended.reserved⟩, h.works, ?_, ?_, ?_⟩
  · intro d hd
    have hdevice := h.device d hd
    generalize asked d = requests at hdevice
    generalize answered d = responses at hdevice
    cases hdevice with
    | ready _ hrest => exact absurd hs hrest
    | asked _ ha => exact absurd (hdone d hd).state ha.waiting.not_done
    | answered _ _ _ hwaiting => exact absurd (hdone d hd).state hwaiting.not_done
    | received _ _ _ hslave hcount =>
      refine .ready _ ?_ (hready d hd) (fun _ => hslave) ?_
      · show (GroupState.masterLinkScanComp : GroupState) ≠ _
        decide
      · rw [List.countP_append, List.countP_append, hcount]
        rfl
  · have hcompleted := h.completed
    rw [if_pos hs] at hcompleted
    show (hist ++ [Output.linkscanCb g true]).countP (Output.isCompletion g) + 0 = _
    rw [List.countP_append, List.countP_append, ← hcompleted]
    simp [Output.isCompletion, Output.isRequest]
  · exact List.forall_mem_append.mpr ⟨h.faultless, List.forall_mem_singleton.mpr (by
      simp [Output.isFault])⟩

/-! ## the steps of the master -/

/-- a link scan starts -/
theorem starts {o : Options} {cfg : Config} {parameterNo : UInt16}
    (h : GroupRound (cfg.hier.groups g) g hist gd asked answered slaves)
    (hv : GroupValid o cfg (cfg.hier.groups g)) (hinv : GroupInv cfg parameterNo g gd)
    (hsome : ∃ d, (cfg.hier.groups g).asks d) (hs : gd.groupState = .masterLinkScanComp)
    (now : UInt32) (unixMs : Nat → UInt64) {clm : ClmShared} (hclm : clm.config = cfg)
    (hasked : ∀ d, (cfg.hier.groups g).asks d → asked' d = asked d
      ++ (linkscanStart g now unixMs clm gd).out.filterMap (Output.requestOf g)) :
    GroupRound (cfg.hier.groups g) g (hist ++ (linkscanStart g now unixMs clm gd).out)
        (linkscanStart g now unixMs clm gd).group asked' answered slaves
      ∧ (linkscanStart g now unixMs clm gd).group.Unfinished (cfg.hier.groups g) := by
  obtain ⟨hst, hout⟩ := linkscanStart_started hv hinv hs hclm now unixMs
  have hrequest : (linkscanStart g now unixMs clm gd).out.filterMap (Output.requestOf g)
      = [(linkscanStart g now unixMs clm gd).group.reqFrame.datagram] := by
    have hnone : (startDevices (cfg.hier.groups g) g gd.scanning).2.filterMap (Output.requestOf g)
        = [] := Output.requestOf_none fun x hx => (startDevices_out _ _ _ x hx).isRequest
    rw [hout, List.filterMap_append, hnone]
    simp [Output.requestOf]
  rw [hrequest] at hasked
  have hround := h.start hv hinv hs hst hout hasked
  refine ⟨hround, ?_⟩
  intro _
  obtain ⟨d, hd⟩ := hsome
  refine ⟨d, hd, ((hround.device d hd).waiting_iff.mpr (Or.inl ?_)).2⟩
  rw [hasked d hd]
  exact List.concat_ne_nil _ _

/-- the master looks whether all devices have answered -/
theorem received {o : Options} {cfg : Config} {parameterNo : UInt16} {s : Scope}
    (h : GroupRound (cfg.hier.groups g) g hist s.group asked answered slaves)
    (hv : GroupValid o cfg (cfg.hier.groups g)) (hinv : GroupInv cfg parameterNo g s.group)
    (hclm : s.clm.config = cfg) (hs : s.group.groupState = .masterLinkScan) {d : Nat}
    (hd : (cfg.hier.groups g).asks d)
    (hdone : Done s.group.frameSequenceNo (s.group.slaveDevices d)) (now : UInt32)
    (unixMs : Nat → UInt64) :
    ∃ out, (s.received g now unixMs).out = s.out ++ out
      ∧ ∀ asked', (∀ d, (cfg.hier.groups g).asks d →
          asked' d = asked d ++ (ofGroup g out).filterMap (Output.requestOf g)) →
        GroupRound (cfg.hier.groups g) g (hist ++ ofGroup g out)
            (s.received g now unixMs).group asked' answered slaves
          ∧ (s.received g now unixMs).group.Unfinished (cfg.hier.groups g) := by
  subst hclm
  have hall := h.attended.haveReceived_iff (fun e he => (h.device e he).scanning hs) hd hdone
  by_cases hr : clmIefbGroupHaveReceivedFromAllDevices (s.setting g) s.group = true
  · obtain ⟨out, hout, hend⟩ := Scope.received_scanning now unixMs hs hr
    refine ⟨out, hout, ?_⟩
    intro asked' hasked
    generalize (s.received g now unixMs).group = gd' at hend ⊢
    generalize ofGroup g out = o' at hend hasked ⊢
    have hcomplete := h.complete hs (hall.mp hr) (clTimerStop s.group.responseWaitTimer)
    cases hend with
    | pauses _ hended =>
      rw [hended]
      refine ⟨hcomplete.congr ?_ (fun _ _ => rfl) (fun _ _ => rfl), ?_⟩
      · intro e he
        rw [hasked e he]
        exact List.append_nil _
      · exact fun hscan => GroupState.noConfusion hscan
    | goesOn clm unixMs ended hclm hended =>
      have hover : GroupInv s.clm.config parameterNo g
          (s.group.endScan (s.clm.config.hier.groups g) .groupAllResponded) :=
        groupMove_inv hv (GroupMove.complete (A := fun _ _ => False) s.group hs hr) hinv
      have hinv' : GroupInv s.clm.config parameterNo g ended := by
        rw [hended]
        exact hover.same rfl rfl rfl rfl
      have hcomp : ended.groupState = .masterLinkScanComp := by
        rw [hended]
        rfl
      rw [← hended] at hcomplete
      rw [List.append_cons]
      exact hcomplete.starts hv hinv' ⟨d, hd⟩ hcomp now unixMs hclm hasked
  · have hsame : s.received g now unixMs = s := if_neg hr
    refine ⟨[], ?_, ?_⟩
    · rw [hsame, List.append_nil]
    · intro asked' hasked
      have hnil : ofGroup g [] = [] := rfl
      rw [hsame, hnil, List.append_nil]
      rw [hnil] at hasked
      refine ⟨h.congr ?_ (fun _ _ => rfl) (fun _ _ => rfl), ?_⟩
      · intro e he
        rw [hasked e he]
        exact List.append_nil _
      · -- somebody has not answered
        intro _
        have hnot := mt hall.mpr hr
        rw [not_forall] at hnot
        obtain ⟨e, he⟩ := hnot
        obtain ⟨he, hnotDone⟩ := Classical.not_imp.mp he
        exact ⟨e, he, ((h.device e he).scanning hs).resolve_right hnotDone⟩

end GroupRound

end CLink
