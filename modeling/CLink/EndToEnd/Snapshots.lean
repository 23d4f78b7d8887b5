import CLink.EndToEnd.Agreement
import CLink.Master.Snapshots

/-!
# The data in the slaves

The RY and RWw areas of a slave are one slice of the memory areas of the master, as they were at the
start of one link scan, or zeros.

* `Received.cyclicRequest_data`   where a slave reads the data of a request;
* `NetStart.heldData`             the data of every slave, in every run.
-/

namespace CLink
open Loop Trace

theorem Received.cyclicRequest_data {v : Received} {r : CyclicRequest}
    (h : v.cyclicRequest = some r) :
    r.rww = wordAreasAt v.dg.byte (67 + 4 * r.totalOccupied.toNat)
      ∧ r.ry = bitAreasAt v.dg.byte (67 + 68 * r.totalOccupied.toNat) := by
  obtain ⟨headers, hh, hv, _, hr⟩ := Received.cyclicRequest_parsed h
  rw [clIefbParseCyclicRequest_ok hh hv] at hr
  obtain rfl := Except.ok.inj hr
  refine ⟨?_, ?_⟩
  · refine congrArg (wordAreasAt v.dg.byte) ?_
    show 67 + _ * 4 = 67 + 4 * _
    rw [Nat.mul_comm]
    rfl
  · refine congrArg (bitAreasAt v.dg.byte) ?_
    show 67 + headers.cyclicDataHeader.slaveTotalOccupiedStationCount.toNat * 4
      + headers.cyclicDataHeader.slaveTotalOccupiedStationCount.toNat * 64
        = 67 + 68 * headers.cyclicDataHeader.slaveTotalOccupiedStationCount.toNat
    omega

/-- the bits of a request are those of its payload -/
theorem Received.cyclicRequest_bit {v : Received} {r : CyclicRequest}
    (h : v.cyclicRequest = some r) (q : UInt16) : r.bit q = requestBit v.dg q := by
  show clIefbExtractMyTransmissionState r.fullHeaders.cyclicDataHeader.cyclicTransmissionState q = _
  rw [(Received.cyclicRequest_read h).1]
  rfl

/-- the data of the slave of device `d` of group `g` after the outputs `hist` of the master -/
structure HoldsData (gs : GroupSetting) (g d : Nat) (hist : List Output) (area : ClsMemoryArea) :
    Prop where
  own : (∀ j, j < gs.num d → area.ry j = .zero ∧ area.rww j = .zero)
    ∨ TakenFrom gs g d hist area.ry area.rww
  beyond : ∀ j, gs.num d ≤ j → area.ry j = .zero ∧ area.rww j = .zero

theorem SlaveStart.init_area {o : Options} (st : SlaveStart o) :
    st.init.cls.cyclicDataArea = .zero := by
  unfold SlaveStart.init clsIefbInit clsFsmInit
  rw [clsIefbFsmEvent_startup _ _ rfl]
  show (clsIefbClearMasterInfo _).cls.cyclicDataArea = _
  rw [clsIefbClearMasterInfo_cls]
  show (clsIefbSlaveInit _).1.cls.cyclicDataArea = _
  unfold clsIefbSlaveInit
  simp only [clsIefbClearMasterInfo_cls]

/-- the slice that a slave takes out of a request -/
theorem HoldsData.of_slice {gs : GroupSetting} {g d : Nat} {hist : List Output} {area : ClsMemoryArea}
    {v : Received} {r : CyclicRequest} (hr : v.cyclicRequest = some r)
    (htotal : r.totalOccupied.toNat = gs.total) {q : UInt16} (hq : q.toNat = gs.pos d + 1)
    (hslice : Slice r q (gs.num d) area)
    (hbeyond : ∀ j, gs.num d ≤ j → area.ry j = .zero ∧ area.rww j = .zero)
    (hsent : requestBit v.dg q = true → TakenFrom gs g d hist
      (fun j => requestRy v.dg gs.total (gs.pos d + j))
      (fun j => requestRww v.dg gs.total (gs.pos d + j))) :
    HoldsData gs g d hist area := by
  refine ⟨?_, hbeyond⟩
  obtain ⟨hrww, hry⟩ := Received.cyclicRequest_data hr
  rw [htotal] at hrww hry
  unfold Slice at hslice
  simp only [hq, Nat.add_sub_cancel, Received.cyclicRequest_bit hr] at hslice
  by_cases hbit : requestBit v.dg q = true
  · right
    rw [hbit] at hslice
    refine (hsent hbit).congr ?_ ?_
    · intro j hj
      rw [(hslice j hj).1, if_pos rfl, hry]
      rfl
    · intro j hj
      rw [(hslice j hj).2, if_pos rfl, hrww]
      rfl
  · left
    intro j hj
    rw [(hslice j hj).1, (hslice j hj).2, if_neg hbit, if_neg hbit]
    exact ⟨rfl, rfl⟩

namespace NetStart
variable {o : Options} (st : NetStart o)

/-- **The data of the slaves.**  In every run of the network, a slave holds zeros, or for all its
stations what the memory area of the master held for its device when one link scan started. -/
theorem heldData (es : List NetEvent) (g d : Nat) :
    HoldsData (st.master.vc.setting g) g d (st.run es).2
      ((st.run es).1.slaves g d).cyclicDataArea := by
  have hlater (es : List NetEvent) (e : NetEvent) (g d : Nat) (c : Cls)
      (h : Held (Agreed st.master.vc.cfg st.master.parameterNo g d)
        (HoldsData (st.master.vc.setting g) g d (st.run es).2) c) :
      Held (Agreed st.master.vc.cfg st.master.parameterNo g d)
        (HoldsData (st.master.vc.setting g) g d (st.run (es ++ [e])).2) c := by
    refine ⟨h.control, ?_, h.area.beyond⟩
    rw [st.run_concat]
    exact h.area.own.imp id (fun h => h.append _)
  have hheld := st.run_slaves (I := fun es g d c =>
      Held (Agreed st.master.vc.cfg st.master.parameterNo g d)
        (HoldsData (st.master.vc.setting g) g d (st.run es).2) c)
    (fun _ g d o start => ?_) (fun es e g d c _ => hlater es e g d c) ?_ ?_ es g d
  · exact hheld.area
  · obtain ⟨c, _, _, heq⟩ := start.init_eq
    refine ⟨?_, ?_⟩
    · rw [heq]
      exact fun h => SlaveState.noConfusion h
    · rw [start.init_area]
      exact ⟨Or.inl fun _ _ => ⟨rfl, rfl⟩, fun _ _ => ⟨rfl, rfl⟩⟩
  · intro es g d e he hf h
    exact hlater _ _ _ _ _ (clsStep_held h hf (fun now v r heq => absurd heq (he now v)))
  · intro es i p now hp hf h
    refine hlater _ _ _ _ _ ?_
    obtain ⟨hg, gd, hinv, hdg⟩ := st.wasSent_frame es hp
    refine clsStep_held h hf ?_
    intro _ v r heq hr
    obtain ⟨_, hsome⟩ := ClsEvent.periodic.inj heq
    obtain rfl := Option.some.inj hsome
    obtain ⟨hclock, hconnects, _⟩ := st.agreed_takesOver es hp hr
      ((st.run es).1.slaves p.slaveGroup p.slaveDevice)
    refine ⟨hclock, hconnects, ?_⟩
    intro m area hm hown hslice hbeyond
    rw [hm.numOccupiedStations] at hslice hbeyond
    obtain ⟨hgroup, -⟩ := hinv.request_own hg hdg hr hp.group hp.device rfl hown
    have hstation' : m.slaveStationNo
        = UInt16.ofNat ((st.master.vc.setting p.slaveGroup).pos p.slaveDevice + 1) :=
      hm.slaveStationNo
    have hstation : m.slaveStationNo.toNat
        = (st.master.vc.setting p.slaveGroup).pos p.slaveDevice + 1 := by
      rw [hstation']
      exact (st.master.vc.group hp.group).stationNo_toNat hp.device
    refine .of_slice hr ?_ hstation hslice hbeyond ?_
    · rw [hgroup]
      exact (hinv.request_slaveIds hg hdg hr).1
    · intro hbit
      have hdevice := hp.device
      rw [hstation', hgroup] at hbit
      rw [hgroup] at hdevice ⊢
      obtain ⟨ems, hems⟩ := (st.run_inv es).master
      obtain ⟨start, destIp, destPort, hrequest⟩ := hp.sent
      have hmem := (List.mem_filter.mp (List.mem_of_getElem? hrequest)).1
      have hrun : (st.master.run ems).2 = (st.run es).2 := congrArg Prod.snd hems
      rw [← hrun] at hmem ⊢
      exact st.master.sendRequest_snapshot hmem hdevice hbit

end NetStart

end CLink
