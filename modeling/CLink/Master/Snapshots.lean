import CLink.Master.SentFrames

/-!
# Where the data of a request comes from

A request carries the RY and RWw data of a device as the memory area held it when a link scan
started.  It need not be the link scan of the request: the row without an action sends the data of an
earlier one again.

* `TakenFrom`       RY and RWw data of one device out of one and the same memory area;
* `Snapshots`       the frame of a group and all its requests carry such data;
* `MasterStart.sendRequest_snapshot`   it is so in every run.
-/

namespace CLink
open Loop Trace

/-- the data of device `d`, both areas as the memory held them at the start of one link scan -/
def TakenFrom (gs : GroupSetting) (g d : Nat) (hist : List Output) (ry : Nat → BitArea)
    (rww : Nat → WordArea) : Prop :=
  ∃ start destIp destPort dg, .sendRequest g start destIp destPort dg ∈ hist
    ∧ ∀ j, j < gs.num d → ry j = start.memoryArea.ry (gs.pos d + j)
      ∧ rww j = start.memoryArea.rww (gs.pos d + j)

section
variable {gs : GroupSetting} {g d : Nat} {hist : List Output} {ry ry' : Nat → BitArea}
  {rww rww' : Nat → WordArea}

theorem TakenFrom.append (h : TakenFrom gs g d hist ry rww) (out : List Output) :
    TakenFrom gs g d (hist ++ out) ry rww := by
  obtain ⟨start, destIp, destPort, dg, hmem, hdata⟩ := h
  exact ⟨start, destIp, destPort, dg, List.mem_append_left _ hmem, hdata⟩

theorem TakenFrom.congr (h : TakenFrom gs g d hist ry rww) (hry : ∀ j, j < gs.num d → ry' j = ry j)
    (hrww : ∀ j, j < gs.num d → rww' j = rww j) : TakenFrom gs g d hist ry' rww' := by
  obtain ⟨start, destIp, destPort, dg, hmem, hdata⟩ := h
  refine ⟨start, destIp, destPort, dg, hmem, ?_⟩
  intro j hj
  obtain ⟨hy, hw⟩ := hdata j hj
  exact ⟨(hry j hj).trans hy, (hrww j hj).trans hw⟩

end

/-- the frame for the devices whose bit is on, and the requests so far -/
structure Snapshots (gs : GroupSetting) (g : Nat) (hist : List Output) (gd : GroupData) : Prop where
  frame : ∀ d, d < gs.numSlaveDevices.toNat →
    clIefbExtractMyTransmissionState gd.cyclicTransmissionState (UInt16.ofNat (gs.pos d + 1)) = true →
    TakenFrom gs g d hist (fun j => gd.reqFrame.ry (gs.pos d + j))
      (fun j => gd.reqFrame.rww (gs.pos d + j))
  sent : ∀ start destIp destPort dg, .sendRequest g start destIp destPort dg ∈ hist →
    ∀ d, d < gs.numSlaveDevices.toNat → requestBit dg (UInt16.ofNat (gs.pos d + 1)) = true →
    TakenFrom gs g d hist (fun j => requestRy dg gs.total (gs.pos d + j))
      (fun j => requestRww dg gs.total (gs.pos d + j))

section
variable {o : Options} {cfg : Config} {parameterNo : UInt16} {g : Nat} {gd gd' : GroupData}
  {hist out : List Output} {A : GroupInput → GroupData → Prop}

/-- no request, and another frame neither -/
theorem Snapshots.silent (h : Snapshots (cfg.hier.groups g) g hist gd)
    (ho : ∀ x ∈ out, x.isRequest g = false) (hframe : gd'.reqFrame = gd.reqFrame)
    (hword : gd'.cyclicTransmissionState = gd.cyclicTransmissionState) :
    Snapshots (cfg.hier.groups g) g (hist ++ out) gd' := by
  refine ⟨?_, ?_⟩
  · intro d hd hbit
    rw [hword] at hbit
    rw [hframe]
    exact (h.frame d hd hbit).append out
  · intro start destIp destPort dg hmem d hd hbit
    rcases List.mem_append.mp hmem with hmem | hmem
    · exact (h.sent start destIp destPort dg hmem d hd hbit).append out
    · have hreq := ho _ hmem
      simp [Output.isRequest] at hreq

/-- the frame of a link scan that starts, with its request among the outputs -/
theorem Snapshots.started (h : Snapshots (cfg.hier.groups g) g hist gd)
    {now : UInt32} (hst : LinkscanStarted (cfg.hier.groups g) g now gd gd') {destIp : IpAddr} {destPort : UInt16}
    {dg : Datagram} (hmem : .sendRequest g gd.scanning destIp destPort dg ∈ out) {d : Nat}
    (hd : d < (cfg.hier.groups g).numSlaveDevices.toNat)
    (hbit : clIefbExtractMyTransmissionState gd'.cyclicTransmissionState
      (UInt16.ofNat ((cfg.hier.groups g).pos d + 1)) = true) :
    TakenFrom (cfg.hier.groups g) g d (hist ++ out)
      (fun j => gd'.reqFrame.ry ((cfg.hier.groups g).pos d + j))
      (fun j => gd'.reqFrame.rww ((cfg.hier.groups g).pos d + j)) := by
  obtain ⟨clockInfo, unitInfo, hframe⟩ := hst.frame
  have hry : gd'.reqFrame.ry
      = (startDevices (cfg.hier.groups g) g gd.scanning).1.reqFrame.ry := by
    rw [hframe]
    rfl
  have hrww : gd'.reqFrame.rww
      = (startDevices (cfg.hier.groups g) g gd.scanning).1.reqFrame.rww := by
    rw [hframe]
    rfl
  rw [hry, hrww]
  rw [hst.word] at hbit
  have hslots := hst.started.slots d hd
  unfold Slots at hslots
  split at hslots
  · -- the row without an action: the data of the frame stays, and so does the bit
    rw [hslots.bit] at hbit
    refine ((h.frame d hd hbit).append out).congr ?_ ?_
    · exact fun j hj => hslots.ry j hj
    · exact fun j hj => hslots.rww j hj
  · rw [hslots.bit] at hbit
    refine ⟨gd.scanning, destIp, destPort, dg, List.mem_append_right _ hmem, ?_⟩
    intro j hj
    refine ⟨(hslots.ry j hj).trans (if_pos hbit), (hslots.rww j hj).trans (if_pos hbit)⟩

theorem groupMove_snapshots (hv : GroupValid o cfg (cfg.hier.groups g))
    (hinv : GroupInv cfg parameterNo g gd) (hm : GroupMove cfg g A gd out gd')
    (h : Snapshots (cfg.hier.groups g) g hist gd) :
    Snapshots (cfg.hier.groups g) g (hist ++ out) gd' := by
  cases hm with
  | start clm now unixMs hclm hs =>
    obtain ⟨hst, hout⟩ := linkscanStart_started hv hinv hs hclm now unixMs
    have hconn : ∀ x ∈ (startDevices (cfg.hier.groups g) g gd.scanning).2, x.isRequest g = false :=
      fun x hx => (startDevices_out _ _ _ x hx).isRequest
    rw [hout]
    have hlast (dg : Datagram) : .sendRequest g gd.scanning clm.iefbBroadcastIp clCciefbPort dg
        ∈ (startDevices (cfg.hier.groups g) g gd.scanning).2
          ++ [.sendRequest g gd.scanning clm.iefbBroadcastIp clCciefbPort dg] :=
      List.mem_append_right _ List.mem_cons_self
    refine ⟨fun d hd hbit => h.started hst (hlast _) hd hbit, ?_⟩
    intro start destIp destPort dg hmem d hd hbit
    rcases List.mem_append.mp hmem with hmem | hmem
    · exact (h.sent start destIp destPort dg hmem d hd hbit).append _
    rcases List.mem_append.mp hmem with hmem | hmem
    · have hreq := hconn _ hmem
      simp [Output.isRequest] at hreq
    · have heq := List.mem_singleton.mp hmem
      obtain ⟨_, _, _, _, rfl⟩ := Output.sendRequest.inj heq
      obtain ⟨_, hrww, hry, hsent⟩ := linkscanStarted_datagram hv hinv hs hst
      rw [hsent, ← hst.word] at hbit
      have hlt : ∀ j, j < (cfg.hier.groups g).num d →
          (cfg.hier.groups g).pos d + j < (cfg.hier.groups g).total := by
        intro j hj
        have hle := (cfg.hier.groups g).pos_add_le hd
        show _ < (cfg.hier.groups g).pos _
        omega
      have hlay := (groupInv_linkscanStarted hv hinv hs hst).layout
      refine (h.started hst (hlast _) hd hbit).congr ?_ ?_
      · exact fun j hj => RequestFrame.ry_datagram hlay (hlt j hj)
      · exact fun j hj => RequestFrame.rww_datagram hlay (hlt j hj)
  | complete hs hr => exact h.silent (fun x hx => by rw [List.mem_singleton.mp hx]; rfl) rfl rfl
  | timeout hs => exact h.silent (fun x hx => by rw [List.mem_singleton.mp hx]; rfl) rfl rfl
  | accepted d r hd ha hc => exact h.silent (fun x hx => accepted_isRequest g d r _ _ x hx g) rfl rfl
  | _ => exact h.silent (fun x hx => absurd hx List.not_mem_nil) rfl rfl

end

namespace MasterStart
variable {o : Options} (st : MasterStart o) {es : List Event} {g : Nat} {start : GroupData}
  {destIp : IpAddr} {destPort : UInt16} {dg : Datagram}

/-- **No torn data.**  What a request carries for a device whose bit is on is what the memory area
held for it at the start of one link scan, RY and RWw alike. -/
theorem sendRequest_snapshot (hmem : .sendRequest g start destIp destPort dg ∈ (st.run es).2)
    {d : Nat} (hd : d < (st.vc.setting g).numSlaveDevices.toNat)
    (hbit : requestBit dg (UInt16.ofNat ((st.vc.setting g).pos d + 1)) = true) :
    TakenFrom (st.vc.setting g) g d (st.run es).2
      (fun j => requestRy dg (st.vc.setting g).total ((st.vc.setting g).pos d + j))
      (fun j => requestRww dg (st.vc.setting g).total ((st.vc.setting g).pos d + j)) := by
  obtain ⟨hg, hmem'⟩ := st.mem_ofGroup rfl hmem
  have hv := st.vc.group hg
  have hrun := (st.run_inv (A := fun _ _ _ => True) (I := Snapshots (st.vc.setting g) g) hg
    (by
      intro gd hinit
      refine ⟨?_, fun _ _ _ _ hx => absurd hx List.not_mem_nil⟩
      intro d _ hbit
      rw [hinit.word, clIefbExtractMyTransmissionState_zero] at hbit
      cases hbit)
    (fun _ _ _ _ hinv hm h => groupMove_snapshots hv hinv hm h)
    (Machine.Steps.of_all master (fun _ _ _ _ _ => trivial) _ es)).2
  obtain ⟨start', destIp', destPort', dg', hmem'', hdata⟩ :=
    hrun.sent start destIp destPort dg hmem' d hd hbit
  exact ⟨start', destIp', destPort', dg', (List.mem_filter.mp hmem'').1, hdata⟩

end MasterStart

end CLink
