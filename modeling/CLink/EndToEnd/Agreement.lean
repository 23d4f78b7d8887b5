import CLink.EndToEnd.Freshness
import CLink.Slave.Sessions

/-!
# The slaves agree with the master

What a slave knows of its master is what the configuration of the master says, whatever the network
loses, delays or reorders and however often stations start again.

* `NetStart.run_slaves`           the rule for an invariant of all slaves;
* `GroupInv.request_parameters`   the parameters in a request;
* `GroupInv.request_station`      the stations that a slave finds in a request;
* `Agreed`                        the connection of a slave as it is configured in the master;
* `NetStart.agreement`            it is so in every run.
-/

namespace CLink
open Loop Trace

/-! ## an invariant of the slaves -/

theorem Network.emits_slaves (net : Network) (out : List Output) :
    (out.foldl Network.emit net).slaves = net.slaves := by
  induction out generalizing net with
  | nil => rfl
  | cons x out ih =>
    refine (ih (net.emit x)).trans ?_
    cases x <;> rfl

namespace NetStart
variable {o : Options} (st : NetStart o)

/-- **The rule for the slaves.**  A slave gets requests that the master has sent before, or no
datagram.  `hlater` is for the steps of others. -/
theorem run_slaves {I : List NetEvent → Nat → Nat → Cls → Prop}
    (hstart : ∀ es g d o (start : SlaveStart o), I es g d start.init.cls)
    (hlater : ∀ es e g d c, (∀ o start, e ≠ .restart g d o start) → I es g d c →
      I (es ++ [e]) g d c)
    (hquiet : ∀ es g d e, (∀ now v, e ≠ .periodic now (some v)) →
      Frames ((st.run es).1.slaves g d) → I es g d ((st.run es).1.slaves g d) →
      I (es ++ [.slave g d e]) g d (clsStep ((st.run es).1.slaves g d) e).1)
    (hreceives : ∀ es i (p : RequestCopy) now, p.WasSent st.master.vc.cfg (st.run es).2 →
      Frames ((st.run es).1.slaves p.slaveGroup p.slaveDevice) →
      I es p.slaveGroup p.slaveDevice ((st.run es).1.slaves p.slaveGroup p.slaveDevice) →
      I (es ++ [.deliverRequest i now]) p.slaveGroup p.slaveDevice
        (clsStep ((st.run es).1.slaves p.slaveGroup p.slaveDevice)
          (.periodic now (some (p.received st.master.vc.cfg)))).1)
    (es : List NetEvent) (g d : Nat) : I es g d ((st.run es).1.slaves g d) := by
  induction es using List.reverseRecOn generalizing g d with
  | nil => exact hstart [] g d _ (st.slaves g d)
  | append_singleton es e ih =>
    have hflight := (st.run_inv es).flight
    have hconfig := (st.run_inv es).config
    rw [st.run_concat]
    have hset {net : Network} {g' d' : Nat} {c : Cls} (hnet : net.slaves = (st.run es).1.slaves)
        (hother : (g = g' → d ≠ d') → ∀ o start, e ≠ .restart g d o start)
        (hc : I (es ++ [e]) g' d' c) : I (es ++ [e]) g d ((net.setSlave g' d' c).slaves g d) := by
      show I (es ++ [e]) g d (Function.update net.slaves g' (Function.update (net.slaves g') d' c) g d)
      by_cases hg : g = g'
      · subst hg
        rw [Function.update_self]
        by_cases hd : d = d'
        · subst hd
          rw [Function.update_self]
          exact hc
        · rw [Function.update_of_ne hd, hnet]
          exact hlater es e g d _ (hother fun _ => hd) (ih g d)
      · rw [Function.update_of_ne hg, hnet]
        exact hlater es e g d _ (hother fun h => absurd h hg) (ih g d)
    have hsame {net : Network} (hrest : ∀ o start, e ≠ .restart g d o start)
        (hnet : net.slaves = (st.run es).1.slaves) : I (es ++ [e]) g d (net.slaves g d) := by
      rw [hnet]
      exact hlater es e g d _ hrest (ih g d)
    have hmaster (net : Network) (e' : Event) : (net.masterStep e').1.slaves = net.slaves :=
      Network.emits_slaves { net with master := (clmStep net.master e').1 } _
    cases e with
    | master e' =>
      simp only [netStep]
      split
      · exact hsame (fun _ _ h => NetEvent.noConfusion h) rfl
      · exact hsame (fun _ _ h => NetEvent.noConfusion h) (hmaster _ e')
    | slave g' d' e' =>
      simp only [netStep]
      split
      · exact hsame (fun _ _ h => NetEvent.noConfusion h) rfl
      · rename_i he
        refine hset rfl (fun _ _ _ h => NetEvent.noConfusion h)
          (hquiet es g' d' e' ?_ (hflight.frames g' d') (ih g' d'))
        rintro now v rfl
        exact he rfl
    | restart g' d' o' start =>
      refine hset rfl ?_ (hstart _ g' d' o' start)
      intro hne _ _ heq
      obtain ⟨hg, hd, _⟩ := NetEvent.restart.inj heq
      exact hne hg.symm hd.symm
    | deliverRequest i now =>
      simp only [netStep]
      split
      · exact hsame (fun _ _ h => NetEvent.noConfusion h) rfl
      · rename_i p hp
        have hsent := hflight.requests p (List.mem_of_getElem? hp)
        have hreceived := hreceives es i p now hsent (hflight.frames p.slaveGroup p.slaveDevice)
          (ih p.slaveGroup p.slaveDevice)
        rw [← hconfig] at hreceived
        refine hset ?_ (fun _ _ _ h => NetEvent.noConfusion h) hreceived
        rfl
    | deliverResponse i now unixMs =>
      simp only [netStep]
      split
      · exact hsame (fun _ _ h => NetEvent.noConfusion h) rfl
      · exact hsame (fun _ _ h => NetEvent.noConfusion h) (hmaster _ _)
    | loseRequest i => exact hsame (fun _ _ h => NetEvent.noConfusion h) rfl
    | loseResponse i => exact hsame (fun _ _ h => NetEvent.noConfusion h) rfl

end NetStart

/-! ## a request of the master, in a slave -/

/-- the parameters of group `g` in a request -/
structure CarriesParameters (cfg : Config) (parameterNo : UInt16) (g : Nat) (r : CyclicRequest) :
    Prop where
  masterId : r.masterId = cfg.masterId
  protocolVer : r.protocolVer = cfg.protocolVer
  groupNo : r.fullHeaders.cyclicDataHeader.groupNo = (UInt16.ofNat g + 1).toUInt8
  parameterNo : r.parameterNo = parameterNo
  timeoutValue : r.fullHeaders.cyclicDataHeader.timeoutValue = (cfg.hier.groups g).timeoutValue
  parallelOffTimeoutCount : r.fullHeaders.cyclicDataHeader.parallelOffTimeoutCount
    = (cfg.hier.groups g).parallelOffTimeoutCount
  totalOccupied : r.totalOccupied = clmIefbCalcOccupiedPerGroup (cfg.hier.groups g)

section
variable {o : Options} {vc : ValidConfig o} {parameterNo : UInt16} {g : Nat} {gd : GroupData}
  {v : Received} {r : CyclicRequest}

theorem GroupInv.request_parameters (hinv : GroupInv vc.cfg parameterNo g gd)
    (hdg : v.dg = gd.reqFrame.datagram) (hr : v.cyclicRequest = some r) :
    CarriesParameters vc.cfg parameterNo g r := by
  have hheaders : r.fullHeaders = gd.reqFrame.fullHeaders := by
    rw [(Received.cyclicRequest_read hr).1, hdg, RequestFrame.fullHeaders_datagram hinv.layout]
  obtain ⟨frameSequenceNo, clockInfo, unitInfo, state, heq⟩ := hinv.headers
  rw [heq] at hheaders
  unfold clIefbUpdateRequestFrameHeaders clIefbInitialiseRequestFrame at hheaders
  refine ⟨?_, ?_, ?_, ?_, ?_, ?_, ?_⟩
  · show r.fullHeaders.cyclicDataHeader.masterId = _
    rw [hheaders]
  · show r.fullHeaders.cyclicHeader.protocolVer = _
    rw [hheaders]
  · rw [hheaders]
  · show r.fullHeaders.cyclicDataHeader.parameterNo = _
    rw [hheaders]
  · rw [hheaders]
  · rw [hheaders]
  · show r.fullHeaders.cyclicDataHeader.slaveTotalOccupiedStationCount = _
    rw [hheaders]

/-- the slots of a device whose address is in the frame -/
theorem GroupInv.slaveRun (hg : g < vc.numGroups) (hinv : GroupInv vc.cfg parameterNo g gd) {d : Nat}
    (hd : d < (vc.setting g).numSlaveDevices.toNat)
    (hid : gd.reqFrame.slaveIds ((vc.setting g).pos d) = ((vc.setting g).slaveDevices d).slaveId) :
    SlaveRun gd.reqFrame.slaveIds ((vc.setting g).slaveDevices d).slaveId (vc.setting g).total
      ((vc.setting g).pos d) ((vc.setting g).num d) := by
  have hv := vc.group hg
  refine ⟨hv.num_pos hd, (vc.setting g).pos_add_le hd, hid, ?_, ?_, ?_⟩
  · intro i hlt hle
    obtain ⟨j, rfl⟩ := Nat.exists_eq_add_of_lt hlt
    have hj : j + 1 < (vc.setting g).num d := by omega
    rw [Nat.add_assoc]
    exact hinv.fillers d hd (j + 1) (Nat.le_add_left 1 j) hj
  · -- the next station is the first one of the next device
    intro hlt
    rw [← GroupSetting.pos_succ] at hlt ⊢
    have hnext : d + 1 < (vc.setting g).numSlaveDevices.toNat := by
      by_contra hge
      have heq : d + 1 = (vc.setting g).numSlaveDevices.toNat := by omega
      rw [heq] at hlt
      exact absurd hlt (Nat.lt_irrefl _)
    rcases hinv.slot (d + 1) hnext with h | h
    · rw [h]
      exact (hv.device (d + 1) hnext).ne_multistationIndicator
    · rw [h]
      decide
  · intro i hi hne heq
    obtain ⟨e, j, he, hj, rfl⟩ := (vc.setting g).exists_station hi
    by_cases hj0 : j = 0
    · subst hj0
      rw [Nat.add_zero] at heq hne
      rcases hinv.slot e he with h | h
      · obtain ⟨_, rfl⟩ := vc.slaveId_inj hg he hg hd (h.symm.trans heq)
        exact hne rfl
      · exact (hv.device d hd).nonzero (heq.symm.trans h)
    · have hfiller := hinv.fillers e he j (by omega) hj
      exact (hv.device d hd).ne_multistationIndicator (heq.symm.trans hfiller)

theorem GroupInv.request_slaveIds (hg : g < vc.numGroups) (hinv : GroupInv vc.cfg parameterNo g gd)
    (hdg : v.dg = gd.reqFrame.datagram) (hr : v.cyclicRequest = some r) :
    r.totalOccupied.toNat = (vc.setting g).total
      ∧ ∀ i, i < (vc.setting g).total → r.slaveIds i = gd.reqFrame.slaveIds i := by
  refine ⟨?_, ?_⟩
  · rw [(hinv.request_parameters hdg hr).totalOccupied, clmIefbCalcOccupiedPerGroup_eq,
      (vc.group hg).total_toNat]
    rfl
  · intro i hi
    rw [(Received.cyclicRequest_read hr).2, hdg]
    exact RequestFrame.slaveIds_datagram hinv.layout hi

/-- **The stations that the slave of device `d` of group `h` finds in a request of group `g`** are
those of its device. -/
theorem GroupInv.request_station (hg : g < vc.numGroups) (hinv : GroupInv vc.cfg parameterNo g gd)
    (hdg : v.dg = gd.reqFrame.datagram) (hr : v.cyclicRequest = some r) {h d : Nat}
    (hh : h < vc.numGroups) (hd : d < (vc.setting h).numSlaveDevices.toNat)
    (hip : v.slaveIpAddr = ((vc.setting h).slaveDevices d).slaveId) {q count : UInt16}
    (hq : FoundStation r q count) :
    h = g ∧ q = UInt16.ofNat ((vc.setting g).pos d + 1)
      ∧ count = ((vc.setting g).slaveDevices d).numOccupiedStations := by
  have hvalid := Received.cyclicRequest_valid hr
  have hown := hq.own hvalid
  obtain ⟨rfl, rfl⟩ := hinv.request_own hg hdg hr hh hd hip hown
  obtain ⟨htotal, hids⟩ := hinv.request_slaveIds hg hdg hr
  have hmy : r.slaveIpAddr = ((vc.setting h).slaveDevices d).slaveId :=
    hvalid.slaveIpAddr.trans hip
  have hlt : (vc.setting h).pos d < (vc.setting h).total := by
    have hle := (vc.setting h).pos_add_le hd
    have hnum := (vc.group hg).num_pos hd
    show _ < (vc.setting h).pos _
    omega
  have hid : gd.reqFrame.slaveIds ((vc.setting h).pos d)
      = ((vc.setting h).slaveDevices d).slaveId := by
    rw [← hids _ hlt, ← hmy, ← hown.own, (vc.group hg).stationNo_toNat hd, Nat.add_sub_cancel]
  have hrun := (hinv.slaveRun hg hd hid).congr hids
  rw [← htotal] at hrun
  refine ⟨rfl, rfl, ?_⟩
  have hfound : clIefbAnalyzeSlaveIds r.slaveIpAddr r.totalOccupied r.slaveIds = some ⟨true, _, count⟩ :=
    hq
  rw [hmy, clIefbAnalyzeSlaveIds_found (vc.group hg |>.device d hd).nonzero hvalid.stations hrun,
    Option.some.injEq, SlaveIdsInfo.mk.injEq] at hfound
  rw [← hfound.2.2]
  exact UInt16.ofNat_toNat

end

/-! ## agreement -/

/-- the connection of the slave of device `d` of group `g`, as the master is configured -/
structure Agreed (cfg : Config) (parameterNo : UInt16) (g d : Nat) (config : ClsConfig)
    (m : MasterConnection) : Prop where
  masterId : m.masterId = cfg.masterId
  protocolVer : m.protocolVer = cfg.protocolVer
  groupNo : m.groupNo = UInt16.ofNat g + 1
  parameterNo : m.parameterNo = parameterNo
  timeoutValue : m.timeoutValue = (cfg.hier.groups g).timeoutValue
  parallelOffTimeoutCount : m.parallelOffTimeoutCount = (cfg.hier.groups g).parallelOffTimeoutCount
  slaveStationNo : m.slaveStationNo = UInt16.ofNat ((cfg.hier.groups g).pos d + 1)
  totalOccupiedStationCount :
    m.totalOccupiedStationCount = clmIefbCalcOccupiedPerGroup (cfg.hier.groups g)
  /-- the slave takes as many stations as the master gives it -/
  numOccupiedStations :
    config.numOccupiedStations = ((cfg.hier.groups g).slaveDevices d).numOccupiedStations

/-- the header has eight bits for the number of the group -/
theorem CarriesParameters.groupNo_toUInt16 {cfg : Config} {parameterNo : UInt16} {g : Nat}
    {r : CyclicRequest} (h : CarriesParameters cfg parameterNo g r) (hg : g < 64) :
    r.groupNo = UInt16.ofNat g + 1 := by
  show r.fullHeaders.cyclicDataHeader.groupNo.toUInt16 = _
  rw [h.groupNo, ← UInt16.toNat_inj, UInt8.toNat_toUInt16, UInt16.toNat_toUInt8, UInt16.toNat_add,
    UInt16.toNat_ofNat']
  show (g % 2 ^ 16 + 1) % 2 ^ 16 % 2 ^ 8 = (g % 2 ^ 16 + 1) % 2 ^ 16
  omega

/-- a new connection -/
theorem CarriesParameters.agreed {cfg : Config} {parameterNo : UInt16} {g d : Nat}
    {r : CyclicRequest} (h : CarriesParameters cfg parameterNo g r) (hg : g < 64)
    {config : ClsConfig} {q : UInt16}
    (hq : q = UInt16.ofNat ((cfg.hier.groups g).pos d + 1))
    (hn : config.numOccupiedStations = ((cfg.hier.groups g).slaveDevices d).numOccupiedStations)
    (m : MasterConnection) :
    Agreed cfg parameterNo g d config ({ m with slaveStationNo := q }.update r) := by
  exact ⟨h.masterId, h.protocolVer, h.groupNo_toUInt16 hg, h.parameterNo, h.timeoutValue,
    h.parallelOffTimeoutCount, hq, h.totalOccupied, hn⟩

namespace NetStart
variable {o : Options} (st : NetStart o)

/-- a request on its way is the frame of its group -/
theorem wasSent_frame (es : List NetEvent) {p : RequestCopy}
    (hp : p.WasSent st.master.vc.cfg (st.run es).2) :
    p.g < st.master.vc.numGroups
      ∧ ∃ gd, GroupInv st.master.vc.cfg st.master.parameterNo p.g gd
        ∧ p.payload = gd.reqFrame.datagram := by
  obtain ⟨ems, hems⟩ := (st.run_inv es).master
  obtain ⟨start, destIp, destPort, hrequest⟩ := hp.sent
  have hmem := (List.mem_filter.mp (List.mem_of_getElem? hrequest)).1
  have hrun : (st.master.run ems).2 = (st.run es).2 := congrArg Prod.snd hems
  rw [← hrun] at hmem
  exact ⟨(st.master.mem_ofGroup rfl hmem).1, st.master.run_requestFrame hmem⟩

/-- a request makes connections as they are configured -/
theorem agreed_takesOver (es : List NetEvent) {p : RequestCopy}
    (hp : p.WasSent st.master.vc.cfg (st.run es).2) {r : CyclicRequest}
    (hr : (p.received st.master.vc.cfg).cyclicRequest = some r) (c : Cls) :
    TakesOver (Agreed st.master.vc.cfg st.master.parameterNo p.slaveGroup p.slaveDevice)
      (fun _ => True) c r := by
  obtain ⟨hg, gd, hinv, hdg⟩ := st.wasSent_frame es hp
  have hparameters := hinv.request_parameters hdg hr
  refine ⟨?_, ?_, fun _ _ _ _ _ _ => trivial⟩
  · intro m _ _ hm
    exact ⟨hm.masterId, hm.protocolVer, hm.groupNo, hm.parameterNo, hm.timeoutValue,
      hm.parallelOffTimeoutCount, hm.slaveStationNo, hm.totalOccupiedStationCount,
      hm.numOccupiedStations⟩
  · intro q m hq
    obtain ⟨hgroup, hstation, hcount⟩ := hinv.request_station hg hdg hr hp.group hp.device rfl hq
    rw [hgroup]
    exact hparameters.agreed (lt_of_lt_of_le hg st.master.vc.numGroups_le) hstation hcount m

/-- what the slaves hold of their master -/
theorem run_agreed (es : List NetEvent) (g d : Nat) :
    Held (Agreed st.master.vc.cfg st.master.parameterNo g d) (fun _ => True)
      ((st.run es).1.slaves g d) := by
  refine st.run_slaves (I := fun _ g d c =>
      Held (Agreed st.master.vc.cfg st.master.parameterNo g d) (fun _ => True) c)
    (fun _ g d o start => ?_) (fun _ _ _ _ _ _ h => h) ?_ ?_ es g d
  · obtain ⟨c, _, _, heq⟩ := start.init_eq
    rw [heq]
    exact ⟨fun h => SlaveState.noConfusion h, trivial⟩
  · intro _ g d e he hf h
    exact clsStep_held h hf (fun now v r heq => absurd heq (he now v))
  · intro es _ p now hp hf h
    refine clsStep_held h hf ?_
    intro _ v r heq hr
    obtain ⟨_, hsome⟩ := ClsEvent.periodic.inj heq
    obtain rfl := Option.some.inj hsome
    exact st.agreed_takesOver es hp hr _

end NetStart

end CLink
