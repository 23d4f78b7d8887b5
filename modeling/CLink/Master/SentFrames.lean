import CLink.Master.Init

/-!
# The requests of a run

A request is looked at as the bytes that go out: `requestSlaveId`, `requestBit`, `requestRww` and
`requestRy` read the payload.

* `sendRequest_slots`       in every run, the stations of every device in every request;
* `sendRequest_enabled`     a device that is enabled when the link scan starts;
* `sendRequest_disabled`    a device that is disabled: its stations are cleared unless it was in
                            `CYCLIC_SENT`, where the table has a row without action.
-/

namespace CLink
open Loop Trace

/-! ## reading a payload -/

def requestSlaveId (dg : Datagram) (k : Nat) : IpAddr := slaveIdsAt dg.byte 67 k

/-- the RWw area of station `k+1` of `n` -/
def requestRww (dg : Datagram) (n k : Nat) : WordArea := wordAreasAt dg.byte (67 + 4*n) k

/-- the RY area of station `k+1` of `n` -/
def requestRy (dg : Datagram) (n k : Nat) : BitArea := bitAreasAt dg.byte (67 + 68*n) k

def requestBit (dg : Datagram) (stationNo : UInt16) : Bool :=
  clIefbExtractMyTransmissionState
    (ReqFullHeaders.ofBuffer dg.byte).cyclicDataHeader.cyclicTransmissionState stationNo

/-- the occupied stations of the group -/
def GroupSetting.total (gs : GroupSetting) : Nat := gs.pos gs.numSlaveDevices.toNat

/-- the stations of device `d` in the request of the link scan that starts in `start` -/
structure SentDevice (gs : GroupSetting) (start : GroupData) (dg : Datagram) (d : Nat) : Prop where
  id : requestSlaveId dg (gs.pos d)
    = if (start.slaveDevices d).enabled then (gs.slaveDevices d).slaveId else ipaddrInvalid
  further : ∀ j, 1 ≤ j → j < gs.num d → requestSlaveId dg (gs.pos d + j) = multistationIndicator
  bit : requestBit dg (UInt16.ofNat (gs.pos d + 1)) = outgoingBit (start.slaveDevices d)
  rww : ∀ j, j < gs.num d → requestRww dg gs.total (gs.pos d + j)
    = if outgoingBit (start.slaveDevices d) then start.memoryArea.rww (gs.pos d + j)
      else WordArea.zero
  ry : ∀ j, j < gs.num d → requestRy dg gs.total (gs.pos d + j)
    = if outgoingBit (start.slaveDevices d) then start.memoryArea.ry (gs.pos d + j)
      else BitArea.zero

/-- the stations of device `d` in a request: the row without action leaves the address there -/
def SentSlots (gs : GroupSetting) (start : GroupData) (dg : Datagram) (d : Nat) : Prop :=
  if scanStartIgnored (start.slaveDevices d) then
    requestSlaveId dg (gs.pos d) = (gs.slaveDevices d).slaveId
  else SentDevice gs start dg d

section
variable {o : Options} {cfg : Config} {parameterNo : UInt16} {g : Nat} {gd gd' : GroupData}
  (hv : GroupValid o cfg (cfg.hier.groups g)) {now : UInt32}
  (h : GroupInv cfg parameterNo g gd) (hs : gd.groupState = .masterLinkScanComp)
  (hst : LinkscanStarted (cfg.hier.groups g) g now gd gd')
include hv h hs hst

/-- the payload is read as it was written -/
theorem linkscanStarted_datagram :
    (∀ k, k < (cfg.hier.groups g).total → requestSlaveId gd'.reqFrame.datagram k
      = (startDevices (cfg.hier.groups g) g gd.scanning).1.reqFrame.slaveIds k)
    ∧ (∀ k, k < (cfg.hier.groups g).total →
      requestRww gd'.reqFrame.datagram (cfg.hier.groups g).total k
        = (startDevices (cfg.hier.groups g) g gd.scanning).1.reqFrame.rww k)
    ∧ (∀ k, k < (cfg.hier.groups g).total →
      requestRy gd'.reqFrame.datagram (cfg.hier.groups g).total k
        = (startDevices (cfg.hier.groups g) g gd.scanning).1.reqFrame.ry k)
    ∧ ∀ stationNo, requestBit gd'.reqFrame.datagram stationNo
      = clIefbExtractMyTransmissionState
          (startDevices (cfg.hier.groups g) g gd.scanning).1.cyclicTransmissionState stationNo := by
  have hlay := (groupInv_linkscanStarted hv h hs hst).layout
  obtain ⟨clockInfo, unitInfo, hframe⟩ := hst.frame
  refine ⟨fun k hk => ?_, fun k hk => ?_, fun k hk => ?_, fun stationNo => ?_⟩
  · refine (RequestFrame.slaveIds_datagram hlay hk).trans ?_
    rw [hframe]
    rfl
  · refine (RequestFrame.rww_datagram hlay hk).trans ?_
    rw [hframe]
    rfl
  · refine (RequestFrame.ry_datagram hlay hk).trans ?_
    rw [hframe]
    rfl
  · rw [requestBit, RequestFrame.fullHeaders_datagram hlay, ← hst.word, hframe]
    rfl

theorem linkscanStarted_slots {d : Nat} (hd : d < (cfg.hier.groups g).numSlaveDevices.toNat) :
    SentSlots (cfg.hier.groups g) gd.scanning gd'.reqFrame.datagram d := by
  obtain ⟨hids, hrww, hry, hbit⟩ := linkscanStarted_datagram hv h hs hst
  have hle := (cfg.hier.groups g).pos_add_le hd
  have hnum := hv.num_pos hd
  have hlt : ∀ j, j < (cfg.hier.groups g).num d →
      (cfg.hier.groups g).pos d + j < (cfg.hier.groups g).total := by
    intro j hj
    show _ < (cfg.hier.groups g).pos _
    omega
  have hsl := hst.started.slots d hd
  unfold Slots at hsl
  unfold SentSlots
  split at hsl
  · rename_i hi
    rw [if_pos hi]
    have h0 := hsl.ids 0 hnum
    simp only [scanStartIgnored, decide_eq_true_eq] at hi
    have haddr : (gd.slaveDevices d).deviceState.addressed = true := by
      have hsent : (gd.slaveDevices d).deviceState = .cyclicSent := hi.2
      rw [hsent]
      rfl
    exact (hids _ (hlt 0 hnum)).trans (h0.trans (h.ids d hd haddr))
  · rename_i hi
    rw [if_neg hi]
    refine ⟨(hids _ (hlt 0 hnum)).trans hsl.id, fun j h1 hj => ?_, ?_, fun j hj => ?_, fun j hj => ?_⟩
    · rw [hids _ (hlt j hj), hsl.fillers j h1 hj]
      exact h.fillers d hd j h1 hj
    · rw [hbit]
      exact hsl.bit
    · rw [hrww _ (hlt j hj)]
      exact hsl.rww j hj
    · rw [hry _ (hlt j hj)]
      exact hsl.ry j hj

end

/-! ## requests in a run -/

/-- a request of group `g` with a property of the group at its start and of the payload -/
def Output.isRequestWith (g : Nat) (p : GroupData → Datagram → Bool) : Output → Bool
  | sendRequest g' start _ _ dg => g' = g && p start dg
  | _ => false

theorem exists_sendRequest {g : Nat} {p : GroupData → Datagram → Bool} {y : Option Output}
    (h : y.any (Output.isRequestWith g p) = true) :
    ∃ start destIp destPort dg, y = some (.sendRequest g start destIp destPort dg)
      ∧ p start dg = true := by
  cases y with
  | none => cases h
  | some x =>
    cases x with
    | sendRequest g' start destIp destPort dg =>
      simp only [Option.any_some, Output.isRequestWith, Bool.and_eq_true, decide_eq_true_eq] at h
      obtain ⟨rfl, hp⟩ := h
      exact ⟨start, destIp, destPort, dg, rfl, hp⟩
    | _ => cases h

theorem exists_request {g : Nat} {p : GroupData → Datagram → Bool} {out : List Output}
    (h : out.any (Output.isRequestWith g p) = true) :
    ∃ start destIp destPort dg, .sendRequest g start destIp destPort dg ∈ out
      ∧ p start dg = true := by
  obtain ⟨x, hx, hwith⟩ := List.any_eq_true.mp h
  have hx' : (some x).any (Output.isRequestWith g p) = true := hwith
  obtain ⟨start, destIp, destPort, dg, heq, hp⟩ := exists_sendRequest hx'
  obtain rfl := Option.some.inj heq
  exact ⟨start, destIp, destPort, dg, hx, hp⟩

/-- the outputs of a link scan start: connections and then the request -/
structure StartOutputs (gs : GroupSetting) (g : Nat) (gd gd' : GroupData) (out : List Output) :
    Prop where
  comp : gd.groupState = .masterLinkScanComp
  started : ∃ now, LinkscanStarted gs g now gd gd'
  out : ∃ conns destIp, (∀ x ∈ conns, x.isConnection g)
    ∧ out = conns ++ [.sendRequest g gd.scanning destIp clCciefbPort gd'.reqFrame.datagram]

/-- a move sends nothing or starts a link scan -/
theorem GroupMove.out_cases {o : Options} {cfg : Config} {parameterNo : UInt16} {g : Nat}
    {A : GroupInput → GroupData → Prop} {gd gd' : GroupData} {out : List Output}
    (hv : GroupValid o cfg (cfg.hier.groups g)) (h : GroupInv cfg parameterNo g gd)
    (hm : GroupMove cfg g A gd out gd') :
    (∀ x ∈ out, x.isRequest g = false) ∨ StartOutputs (cfg.hier.groups g) g gd gd' out := by
  cases hm with
  | start clm now unixMs hclm hs =>
    obtain ⟨hst, hout⟩ := linkscanStart_started hv h hs hclm now unixMs
    exact Or.inr ⟨hs, ⟨now, hst⟩, _, _, startDevices_out _ _ _, hout⟩
  | accepted d r hd ha hc =>
    exact Or.inl (fun x hx => accepted_isRequest g d r _ _ x hx g)
  | complete hs hr => exact Or.inl (fun x hx => by rw [List.mem_singleton.mp hx]; rfl)
  | timeout hs => exact Or.inl (fun x hx => by rw [List.mem_singleton.mp hx]; rfl)
  | _ => exact Or.inl (fun x hx => absurd hx List.not_mem_nil)

/-- a request in the outputs of a move -/
theorem GroupMove.request {o : Options} {cfg : Config} {parameterNo : UInt16} {g : Nat}
    {A : GroupInput → GroupData → Prop} {gd gd' start : GroupData} {out : List Output}
    {destIp : IpAddr} {destPort : UInt16} {dg : Datagram}
    (hv : GroupValid o cfg (cfg.hier.groups g)) (h : GroupInv cfg parameterNo g gd)
    (hm : GroupMove cfg g A gd out gd') (hmem : .sendRequest g start destIp destPort dg ∈ out) :
    StartOutputs (cfg.hier.groups g) g gd gd' out ∧ start = gd.scanning
      ∧ dg = gd'.reqFrame.datagram := by
  rcases hm.out_cases hv h with hno | hst
  · have hreq := hno _ hmem
    simp [Output.isRequest] at hreq
  · obtain ⟨conns, ip, hconns, hout⟩ := hst.out
    rw [hout] at hmem
    rcases List.mem_append.mp hmem with hmem | hmem
    · have hreq := (hconns _ hmem).isRequest
      simp [Output.isRequest] at hreq
    · have he := List.mem_singleton.mp hmem
      simp only [Output.sendRequest.injEq, true_and] at he
      exact ⟨hst, he.1, he.2.2.2⟩

namespace MasterStart
variable {o : Options} (st : MasterStart o) {es : List Event} {g : Nat} {start : GroupData}
  {destIp : IpAddr} {destPort : UInt16} {dg : Datagram}

theorem mem_ofGroup {x : Output} (hx : x.owner = some g) (hmem : x ∈ (st.run es).2) :
    g < st.vc.numGroups ∧ x ∈ ofGroup g (st.run es).2 :=
  ⟨(st.run_config es).2 x hmem g hx, List.mem_filter.mpr ⟨hmem, by simp [Output.isOf, hx]⟩⟩

/-- a property of every request, proved for the requests of every move -/
theorem run_request {A : Nat → GroupInput → GroupData → Prop} {I : GroupData → Prop}
    {P : GroupData → Datagram → Prop}
    (h0 : ∀ gd, Initialised st.vc.cfg st.parameterNo g gd → I gd)
    (hI : ∀ gd o gd', GroupInv st.vc.cfg st.parameterNo g gd →
      GroupMove st.vc.cfg g (A g) gd o gd' → I gd → I gd')
    (hP : ∀ now gd gd', GroupInv st.vc.cfg st.parameterNo g gd → I gd →
      gd.groupState = .masterLinkScanComp → LinkscanStarted (st.vc.setting g) g now gd gd' →
      P gd.scanning gd'.reqFrame.datagram)
    (hes : master.Steps (Admits A) st.init.1 es)
    (hmem : .sendRequest g start destIp destPort dg ∈ (st.run es).2) : P start dg := by
  obtain ⟨hg, hmem'⟩ := st.mem_ofGroup rfl hmem
  have hv := st.vc.group hg
  have hrun := st.run_inv hg
    (I := fun hist gd => I gd ∧ ∀ start ip port dg, .sendRequest g start ip port dg ∈ hist →
      P start dg)
    (fun gd hgd => ⟨h0 gd hgd, fun _ _ _ _ hx => absurd hx List.not_mem_nil⟩)
    (by
      rintro hist gd out gd' hinv hm ⟨hgd, hhist⟩
      refine ⟨hI gd out gd' hinv hm hgd, fun start ip port dg hx => ?_⟩
      rcases List.mem_append.mp hx with hx | hx
      · exact hhist start ip port dg hx
      · obtain ⟨hst, rfl, rfl⟩ := hm.request hv hinv hx
        obtain ⟨now, hstarted⟩ := hst.started
        exact hP now gd gd' hinv hgd hst.comp hstarted) hes
  exact hrun.2.2 start destIp destPort dg hmem'

/-- **The stations of every device in every request.** -/
theorem sendRequest_slots (hmem : .sendRequest g start destIp destPort dg ∈ (st.run es).2) {d : Nat}
    (hd : d < (st.vc.setting g).numSlaveDevices.toNat) :
    SentSlots (st.vc.setting g) start dg d :=
  st.run_request (A := fun _ _ _ => True) (I := fun _ => True)
    (P := fun start dg => SentSlots (st.vc.setting g) start dg d)
    (fun _ _ => trivial) (fun _ _ _ _ _ _ => trivial)
    (fun _ _ _ hinv _ hs hst =>
      linkscanStarted_slots (st.vc.group (st.mem_ofGroup rfl hmem).1) hinv hs hst hd)
    (Machine.Steps.of_all master (fun _ _ _ _ _ => trivial) _ _) hmem

end MasterStart

/-! ## runs without forced transmission bits -/

def Event.forces : Event → Bool
  | forceCyclicTransmissionBit _ _ force => force
  | _ => false

/-- a transmission bit is only forced from outside -/
theorem GroupMove.force {o : Options} {cfg : Config} {parameterNo : UInt16} {g : Nat}
    {A : GroupInput → GroupData → Prop} {gd gd' : GroupData} {out : List Output}
    (hv : GroupValid o cfg (cfg.hier.groups g)) (h : GroupInv cfg parameterNo g gd)
    (hm : GroupMove cfg g A gd out gd') {d : Nat}
    (hd : d < (cfg.hier.groups g).numSlaveDevices.toNat) :
    (gd'.slaveDevices d).forceTransmissionBit = (gd.slaveDevices d).forceTransmissionBit
      ∨ A (.setForce d (gd'.slaveDevices d).forceTransmissionBit) gd := by
  cases hm with
  | setEnabled e enabled _ =>
    rw [gd.modifyDevice_slaveDevices]
    split <;> exact Or.inl rfl
  | setForce e force ha =>
    rw [gd.modifyDevice_slaveDevices]
    split
    · rename_i hde
      subst hde
      exact Or.inr ha
    · exact Or.inl rfl
  | clearStatistics _ =>
    rw [GroupData.clearStatistics, gd.mapDevices_slaveDevices _ hd]
    exact Or.inl rfl
  | rejected e r he _ hc =>
    rw [gd.modifyDevice_slaveDevices]
    split
    · rename_i hde
      subst hde
      exact Or.inl (checkDevice_device _ _ r gd).1.force
    · exact Or.inl rfl
  | accepted e r he _ hc =>
    by_cases hde : d = e
    · subst hde
      exact Or.inl (acceptResponse_device cfg hc).force
    · rw [acceptResponse_other cfg hde]
      exact Or.inl rfl
  | complete hs hr =>
    rw [gd.endScan_slaveDevices _ _ hd]
    exact Or.inl (deviceLocal_same _ _ _).force
  | timeout hs =>
    rw [gd.endScan_slaveDevices _ _ hd]
    exact Or.inl (deviceLocal_same _ _ _).force
  | start clm now unixMs hclm hs =>
    have hst := (linkscanStart_started hv h hs hclm now unixMs).1
    rw [hst.devices, hst.started.device d hd]
    exact Or.inl (startedDevice_fields _ g d _).force
  | standby hs =>
    rw [gd.standby_slaveDevices _ hd]
    exact Or.inl (deviceLocal_same _ _ _).force
  | _ => exact Or.inl rfl

/-- the inputs of a run without forced transmission bits -/
def NoForce (_g : Nat) : GroupInput → GroupData → Prop
  | .setForce _ force, _ => force = false
  | _, _ => True

theorem steps_noForce {es : List Event} (hes : ∀ e ∈ es, e.forces = false) (c : Clm) :
    master.Steps (Admits NoForce) c es := by
  refine Machine.Steps.of_mem master (fun e he c g x hx => ?_) c
  cases x with
  | setForce d force =>
    have he' := hes e he
    rw [show e = _ from hx] at he'
    exact he'
  | _ => trivial

namespace MasterStart
variable {o : Options} (st : MasterStart o) {es : List Event} {g : Nat} {start : GroupData}
  {destIp : IpAddr} {destPort : UInt16} {dg : Datagram}

/-- no device of a request has a forced bit -/
theorem sendRequest_noForce (hes : ∀ e ∈ es, e.forces = false)
    (hmem : .sendRequest g start destIp destPort dg ∈ (st.run es).2) {d : Nat}
    (hd : d < (st.vc.setting g).numSlaveDevices.toNat) :
    (start.slaveDevices d).forceTransmissionBit = false := by
  have hv := st.vc.group (st.mem_ofGroup rfl hmem).1
  refine st.run_request (A := NoForce)
    (I := fun gd => (gd.slaveDevices d).forceTransmissionBit = false)
    (P := fun start _ => (start.slaveDevices d).forceTransmissionBit = false) ?_ ?_ ?_
    (steps_noForce hes _) hmem
  · intro gd hgd
    rw [hgd.device d hd]
    rfl
  · intro gd out gd' hinv hm hf
    rcases hm.force hv hinv hd with h | h
    · rw [h]
      exact hf
    · exact h
  · exact fun _ _ _ _ hf _ _ => hf

/-- the request of a link scan, for a device that is enabled when it starts -/
structure EnabledInRequest (gs : GroupSetting) (start : GroupData) (dg : Datagram) (d : Nat) :
    Prop where
  id : requestSlaveId dg (gs.pos d) = (gs.slaveDevices d).slaveId
  further : ∀ j, 1 ≤ j → j < gs.num d → requestSlaveId dg (gs.pos d + j) = multistationIndicator
  bit : requestBit dg (UInt16.ofNat (gs.pos d + 1)) = true
    ↔ (start.slaveDevices d).deviceState = .cyclicSent
  data_on : requestBit dg (UInt16.ofNat (gs.pos d + 1)) = true → ∀ j, j < gs.num d →
    requestRww dg gs.total (gs.pos d + j) = start.memoryArea.rww (gs.pos d + j)
      ∧ requestRy dg gs.total (gs.pos d + j) = start.memoryArea.ry (gs.pos d + j)
  data_off : requestBit dg (UInt16.ofNat (gs.pos d + 1)) = false → ∀ j, j < gs.num d →
    requestRww dg gs.total (gs.pos d + j) = WordArea.zero
      ∧ requestRy dg gs.total (gs.pos d + j) = BitArea.zero

/-- **A device that is enabled when a link scan starts.** -/
theorem sendRequest_enabled (es : List Event) (hes : ∀ e ∈ es, e.forces = false) (g : Nat)
    (start : GroupData) (destIp : IpAddr) (destPort : UInt16) (dg : Datagram)
    (hmem : .sendRequest g start destIp destPort dg ∈ (st.run es).2) (d : Nat)
    (hd : d < (st.vc.setting g).numSlaveDevices.toNat)
    (he : (start.slaveDevices d).enabled = true) :
    EnabledInRequest (st.vc.setting g) start dg d := by
  have hslots := st.sendRequest_slots hmem hd
  have hforce := st.sendRequest_noForce hes hmem hd
  rw [SentSlots, if_neg (by simp [scanStartIgnored, he])] at hslots
  have hbit : outgoingBit (start.slaveDevices d) = true
      ↔ (start.slaveDevices d).deviceState = .cyclicSent := by
    simp [outgoingBit, hforce, scanStartState_cyclicSending, he]
  refine ⟨by rw [hslots.id, if_pos he], hslots.further, by rw [hslots.bit, hbit],
    fun hon j hj => ?_, fun hoff j hj => ?_⟩
  · rw [hslots.bit] at hon
    rw [hslots.rww j hj, hslots.ry j hj, if_pos hon, if_pos hon]
    exact ⟨rfl, rfl⟩
  · rw [hslots.bit] at hoff
    rw [hslots.rww j hj, hslots.ry j hj, hoff]
    exact ⟨rfl, rfl⟩

/-- after the first answer the device is asked to transmit -/
theorem sendRequest_enabled_example :
    ∃ start destIp destPort dg,
      .sendRequest 0 start destIp destPort dg
        ∈ ((exampleStart false false).run [.exampleTick 5000, .exampleAnswer 5100 0 1 0 0]).2
      ∧ (start.slaveDevices 0).deviceState = .cyclicSent
      ∧ EnabledInRequest ((exampleStart false false).vc.setting 0) start dg 0 := by
  have hrun : ((exampleStart false false).run [.exampleTick 5000, .exampleAnswer 5100 0 1 0 0]).2.any
      (Output.isRequestWith 0 fun start _ => (start.slaveDevices 0).enabled
        && (start.slaveDevices 0).deviceState = .cyclicSent) = true := by decide +kernel
  obtain ⟨start, destIp, destPort, dg, hmem, hp⟩ := exists_request hrun
  simp only [Bool.and_eq_true, decide_eq_true_eq] at hp
  exact ⟨start, destIp, destPort, dg, hmem, hp.2,
    (exampleStart false false).sendRequest_enabled _ (by decide) 0 start destIp destPort dg hmem 0
      (by decide) hp.1⟩

/-- the request of a link scan, for a device that is disabled when it starts -/
structure DisabledInRequest (gs : GroupSetting) (dg : Datagram) (d : Nat) : Prop where
  id : requestSlaveId dg (gs.pos d) = ipaddrInvalid
  bit : requestBit dg (UInt16.ofNat (gs.pos d + 1)) = false
  data : ∀ j, j < gs.num d → requestRww dg gs.total (gs.pos d + j) = WordArea.zero
    ∧ requestRy dg gs.total (gs.pos d + j) = BitArea.zero

/-- **A device that is disabled when a link scan starts.**  The stations are cleared if and only if
the device is not in `CYCLIC_SENT`. -/
theorem sendRequest_disabled (es : List Event) (hes : ∀ e ∈ es, e.forces = false) (g : Nat)
    (start : GroupData) (destIp : IpAddr) (destPort : UInt16) (dg : Datagram)
    (hmem : .sendRequest g start destIp destPort dg ∈ (st.run es).2) (d : Nat)
    (hd : d < (st.vc.setting g).numSlaveDevices.toNat)
    (he : (start.slaveDevices d).enabled = false) :
    DisabledInRequest (st.vc.setting g) dg d
      ↔ (start.slaveDevices d).deviceState ≠ .cyclicSent := by
  have hslots := st.sendRequest_slots hmem hd
  have hforce := st.sendRequest_noForce hes hmem hd
  constructor
  · intro hdis hsent
    rw [SentSlots, if_pos (by simp [scanStartIgnored, he, hsent])] at hslots
    have hid : ((st.vc.setting g).slaveDevices d).slaveId = ipaddrInvalid :=
      hslots.symm.trans hdis.id
    exact ((st.vc.group (st.mem_ofGroup rfl hmem).1).device d hd).nonzero hid
  · intro hne
    rw [SentSlots, if_neg (by simp [scanStartIgnored, hne])] at hslots
    have hoff : outgoingBit (start.slaveDevices d) = false := by
      simp [outgoingBit, hforce, scanStartState_cyclicSending, he]
    refine ⟨by rw [hslots.id, he]; rfl, hslots.bit.trans hoff, fun j hj => ?_⟩
    rw [hslots.rww j hj, hslots.ry j hj, hoff]
    exact ⟨rfl, rfl⟩

/-- a device that is disabled before it was ever asked to transmit -/
theorem sendRequest_disabled_example :
    ∃ start destIp destPort dg,
      .sendRequest 0 start destIp destPort dg ∈ ((exampleStart false false).run
        [.exampleTick 5000, .setSlaveCommunicationStatus 0 0 false, .exampleTick 50000]).2
      ∧ (start.slaveDevices 0).enabled = false
      ∧ DisabledInRequest ((exampleStart false false).vc.setting 0) dg 0 := by
  have hrun : ((exampleStart false false).run [.exampleTick 5000,
      .setSlaveCommunicationStatus 0 0 false, .exampleTick 50000]).2.any
      (Output.isRequestWith 0 fun start _ => !(start.slaveDevices 0).enabled
        && (start.slaveDevices 0).deviceState = .listen) = true := by decide +kernel
  obtain ⟨start, destIp, destPort, dg, hmem, hp⟩ := exists_request hrun
  simp only [Bool.and_eq_true, Bool.not_eq_true', decide_eq_true_eq] at hp
  exact ⟨start, destIp, destPort, dg, hmem, hp.1,
    ((exampleStart false false).sendRequest_disabled _ (by decide) 0 start destIp destPort dg hmem 0
      (by decide) hp.1).mpr (by rw [hp.2]; simp)⟩

/-- the device is connected, then disabled, and the next request still asks it for data -/
theorem disabledWhileSent_stillRequested :
    ¬ ∀ (o : Options) (st : MasterStart o) (es : List Event), (∀ e ∈ es, e.forces = false) →
      ∀ (g : Nat) (start : GroupData) (destIp : IpAddr) (destPort : UInt16) (dg : Datagram),
      .sendRequest g start destIp destPort dg ∈ (st.run es).2 →
      ∀ d, d < (st.vc.setting g).numSlaveDevices.toNat →
        (start.slaveDevices d).enabled = false →
        DisabledInRequest (st.vc.setting g) dg d := by
  intro h
  have hrun : ((exampleStart false false).run [.exampleTick 5000, .exampleAnswer 5100 0 1 0 0,
      .setSlaveCommunicationStatus 0 0 false, .exampleTick 50000]).2.any
      (Output.isRequestWith 0 fun start dg => !(start.slaveDevices 0).enabled
        && requestSlaveId dg 0 = 0xC0A80002 && requestBit dg 1) = true := by decide +kernel
  obtain ⟨start, destIp, destPort, dg, hmem, hp⟩ := exists_request hrun
  simp only [Bool.and_eq_true, Bool.not_eq_true', decide_eq_true_eq] at hp
  have hd := h _ (exampleStart false false) _ (by decide) 0 start destIp destPort dg hmem 0 (by decide)
    hp.1.1
  have hbit : requestBit dg 1 = false := hd.bit
  rw [hp.2] at hbit
  cases hbit

end MasterStart

end CLink
