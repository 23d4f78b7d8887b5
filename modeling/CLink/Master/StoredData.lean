import CLink.Master.ClearedStatistics

/-!
# Where the stored details and inputs of a device come from

* `StoredFrom`   header details, RX and RWr data of a device as its stored responses carried them;
* `MasterStart.run_storedFrom`   it is so in every run.
-/

namespace CLink
open Loop Trace

/-- what the master keeps of device `d`, out of responses that it has stored -/
structure StoredFrom (gs : GroupSetting) (g d : Nat) (hist : List Output) (gd : GroupData) :
    Prop where
  details : (gd.slaveDevices d).latestFrame.hasBeenReceived = true →
    ∃ r valid timestamp, .stored g d r valid ∈ hist
      ∧ (gd.slaveDevices d).latestFrame = clmIefbStoreIncomingSlaveRuntimeInfo r timestamp
  /-- both areas come from the same response -/
  inputs : (∀ j, j < gs.num d → gd.memoryArea.rx (gs.pos d + j) = .zero
      ∧ gd.memoryArea.rwr (gs.pos d + j) = .zero)
    ∨ ∃ r, .stored g d r true ∈ hist ∧ r.numberOfOccupied = (gs.slaveDevices d).numOccupiedStations
      ∧ ∀ j, j < gs.num d → gd.memoryArea.rx (gs.pos d + j) = r.rx j
        ∧ gd.memoryArea.rwr (gs.pos d + j) = r.rwr j

section
variable {gs : GroupSetting} {g d : Nat} {hist : List Output} {gd gd' : GroupData}

/-- neither the details nor the inputs change -/
theorem StoredFrom.kept (h : StoredFrom gs g d hist gd) (out : List Output)
    (hlatest : (gd'.slaveDevices d).latestFrame = (gd.slaveDevices d).latestFrame)
    (hrx : ∀ j, j < gs.num d → gd'.memoryArea.rx (gs.pos d + j) = gd.memoryArea.rx (gs.pos d + j))
    (hrwr : ∀ j, j < gs.num d →
      gd'.memoryArea.rwr (gs.pos d + j) = gd.memoryArea.rwr (gs.pos d + j)) :
    StoredFrom gs g d (hist ++ out) gd' := by
  refine ⟨?_, ?_⟩
  · intro hreceived
    rw [hlatest] at hreceived ⊢
    obtain ⟨r, valid, timestamp, hmem, heq⟩ := h.details hreceived
    exact ⟨r, valid, timestamp, List.mem_append_left _ hmem, heq⟩
  · rcases h.inputs with hzero | ⟨r, hmem, hn, hdata⟩
    · left
      intro j hj
      rw [hrx j hj, hrwr j hj]
      exact hzero j hj
    · right
      refine ⟨r, List.mem_append_left _ hmem, hn, ?_⟩
      intro j hj
      rw [hrx j hj, hrwr j hj]
      exact hdata j hj

/-- both areas of an accepted response: its data, or zeros -/
theorem clmIefbStoreIncomingCyclicData_areas (area : MemoryArea) (r : CyclicResponse)
    (slaveStationNo n : UInt16) (valid : Bool) :
    (clmIefbStoreIncomingCyclicData area r slaveStationNo n valid).rx
        = blit area.rx (if valid then r.rx else fun _ => .zero) (slaveStationNo.toNat - 1) n.toNat
      ∧ (clmIefbStoreIncomingCyclicData area r slaveStationNo n valid).rwr
        = blit area.rwr (if valid then r.rwr else fun _ => .zero) (slaveStationNo.toNat - 1)
          n.toNat := by
  cases valid with
  | true => exact ⟨rfl, rfl⟩
  | false => exact ⟨rfl, rfl⟩

/-- stations of two devices -/
theorem GroupSetting.station_apart (gs : GroupSetting) {d e j : Nat} (hne : d ≠ e)
    (hj : j < gs.num d) : gs.pos d + j < gs.pos e ∨ gs.pos e + gs.num e ≤ gs.pos d + j := by
  rcases Nat.lt_or_gt_of_ne hne with hlt | hlt
  · have hle := gs.pos_add_le hlt
    left
    omega
  · have hle := gs.pos_add_le hlt
    right
    omega

end

section
variable {o : Options} {cfg : Config} {parameterNo : UInt16} {g d : Nat} {gd gd' : GroupData}
  {hist out : List Output} {A : GroupInput → GroupData → Prop}

/-- a response that is accepted -/
theorem StoredFrom.accepted (h : StoredFrom (cfg.hier.groups g) g d hist gd)
    (hv : GroupValid o cfg (cfg.hier.groups g)) (hinv : GroupInv cfg parameterNo g gd) {e : Nat}
    {r : CyclicResponse} (he : e < (cfg.hier.groups g).numSlaveDevices.toNat)
    (hc : (checkDevice (cfg.hier.groups g) e r gd).2 = true) {out : List Output}
    (hmem : .stored g e r (gd.slaveDevices e).transmissionBit ∈ out) :
    StoredFrom (cfg.hier.groups g) g d (hist ++ out)
      (acceptResponse cfg (cfg.hier.groups g) e r gd) := by
  have hindex : (checkDevice (cfg.hier.groups g) e r gd).1.slaveStationNo.toNat - 1
      = (cfg.hier.groups g).pos e := by
    rw [(checkDevice_device _ e r gd).1.station, hinv.station e he, hv.stationNo_toNat he,
      Nat.add_sub_cancel]
  have hbit : (checkDevice (cfg.hier.groups g) e r gd).1.transmissionBit
      = (gd.slaveDevices e).transmissionBit := (checkDevice_device _ e r gd).1.bit
  obtain ⟨hrx, hrwr⟩ : (acceptResponse cfg (cfg.hier.groups g) e r gd).memoryArea.rx
        = blit gd.memoryArea.rx (if (gd.slaveDevices e).transmissionBit then r.rx
          else fun _ => .zero) ((cfg.hier.groups g).pos e) ((cfg.hier.groups g).num e)
      ∧ (acceptResponse cfg (cfg.hier.groups g) e r gd).memoryArea.rwr
        = blit gd.memoryArea.rwr (if (gd.slaveDevices e).transmissionBit then r.rwr
          else fun _ => .zero) ((cfg.hier.groups g).pos e) ((cfg.hier.groups g).num e) := by
    rw [← hindex, ← hbit]
    exact clmIefbStoreIncomingCyclicData_areas ..
  by_cases hde : d = e
  · subst hde
    refine ⟨?_, ?_⟩
    · intro _
      exact ⟨r, _, _, List.mem_append_right _ hmem, (acceptResponse_device cfg hc).latest⟩
    · rw [hrx, hrwr]
      cases hvalid : (gd.slaveDevices d).transmissionBit with
      | true =>
        rw [hvalid] at hmem
        exact Or.inr ⟨r, List.mem_append_right _ hmem, (checkDevice_passed hc).stations,
          fun j hj => ⟨blit_in hj, blit_in hj⟩⟩
      | false => exact Or.inl fun j hj => ⟨blit_in hj, blit_in hj⟩
  · -- the stations of the other devices stay
    have hout {j : Nat} (hj : j < (cfg.hier.groups g).num d) :=
      (cfg.hier.groups g).station_apart hde hj
    refine h.kept out (by rw [acceptResponse_other cfg hde]) ?_ ?_
    · intro j hj
      rw [hrx]
      exact blit_out (hout hj)
    · intro j hj
      rw [hrwr]
      exact blit_out (hout hj)

theorem groupMove_storedFrom (hv : GroupValid o cfg (cfg.hier.groups g))
    (hinv : GroupInv cfg parameterNo g gd) (hd : d < (cfg.hier.groups g).numSlaveDevices.toNat)
    (hm : GroupMove cfg g A gd out gd') (h : StoredFrom (cfg.hier.groups g) g d hist gd) :
    StoredFrom (cfg.hier.groups g) g d (hist ++ out) gd' := by
  have hsame (gd' : GroupData) (out : List Output)
      (hlatest : (gd'.slaveDevices d).latestFrame = (gd.slaveDevices d).latestFrame)
      (hrx : gd'.memoryArea.rx = gd.memoryArea.rx) (hrwr : gd'.memoryArea.rwr = gd.memoryArea.rwr) :
      StoredFrom (cfg.hier.groups g) g d (hist ++ out) gd' :=
    h.kept out hlatest (fun _ _ => by rw [hrx]) (fun _ _ => by rw [hrwr])
  cases hm with
  | accepted e r he ha hc =>
    exact h.accepted hv hinv he hc (List.mem_append_right _ List.mem_cons_self)
  | rejected e r he ha hc =>
    refine hsame _ _ ?_ rfl rfl
    rw [gd.modifyDevice_slaveDevices]
    split
    · rename_i hde
      subst hde
      exact (checkDevice_device _ _ r gd).1.latest
    · rfl
  | setEnabled e enabled ha =>
    refine hsame _ _ ?_ rfl rfl
    rw [gd.modifyDevice_slaveDevices]
    split <;> rfl
  | setForce e force ha =>
    refine hsame _ _ ?_ rfl rfl
    rw [gd.modifyDevice_slaveDevices]
    split <;> rfl
  | clearStatistics ha =>
    refine ⟨?_, ?_⟩
    · intro hreceived
      rw [GroupData.clearStatistics, gd.mapDevices_slaveDevices _ hd] at hreceived
      cases hreceived
    · rw [List.append_nil]
      exact h.inputs
  | complete hs hr =>
    refine hsame _ _ ?_ rfl rfl
    rw [gd.endScan_slaveDevices _ _ hd]
    exact (deviceLocal_same _ _ _).latest
  | timeout hs =>
    refine hsame _ _ ?_ rfl rfl
    rw [gd.endScan_slaveDevices _ _ hd]
    exact (deviceLocal_same _ _ _).latest
  | standby hs =>
    refine hsame _ _ ?_ rfl rfl
    rw [gd.standby_slaveDevices _ hd]
    exact (deviceLocal_same _ _ _).latest
  | start clm now unixMs hclm hs =>
    obtain ⟨hst, _⟩ := linkscanStart_started hv hinv hs hclm now unixMs
    refine hsame _ _ ?_ (by rw [hst.area]) (by rw [hst.area])
    rw [hst.devices, hst.started.device d hd]
    exact (startedDevice_fields _ g d _).latest
  | _ => exact hsame _ _ rfl rfl rfl

end

/-- what is stored in a step is the response that is received in it -/
theorem clmStep_storedResponse {c : Clm} {e : Event} {g d : Nat} {r : CyclicResponse} {valid : Bool}
    (hx : .stored g d r valid ∈ (clmStep c e).2) : GroupReceives c e g (.response d r) := by
  have hstored (valid : Bool) : Output.isStored g d (.stored g d r valid) = true := by
    simp [Output.isStored]
  obtain ⟨r', hr', hc⟩ := clmStep_stored hx (hstored valid)
  have hlive : c.aborted = false := by
    by_contra h
    rw [Bool.not_eq_false] at h
    unfold clmStep at hx
    rw [if_pos h] at hx
    exact absurd hx List.not_mem_nil
  have hg : g < c.numGroups := by
    obtain ⟨_, _, _, _, _, _, hresponse⟩ := hr'
    exact (clmIefbHandleInputFrame_response (fun _ => 0) hresponse).1
  have hmem : .stored g d r valid ∈ ofGroup g (clmStep c e).2 :=
    List.mem_filter.mpr ⟨hx, by simp [Output.isOf, Output.owner]⟩
  rcases (clmStep_group c e hg).response_cases hr' hlive with ⟨_, hout, _⟩ | ⟨_, rest, hout, hrest⟩
  · rw [hout] at hmem
    cases hmem
  rw [hout] at hmem
  rcases List.mem_append.mp hmem with hmem | hmem
  · rcases List.mem_append.mp hmem with hmem | hmem
    · have hno := reports_isStored g d r' _ _ hmem g d
      rw [hstored] at hno
      cases hno
    · obtain ⟨_, _, rfl, _⟩ := Output.stored.inj (List.mem_singleton.mp hmem)
      exact hr'
  · have hno := star_notStored (fun _ _ _ h => h) hrest _ hmem g d
    rw [hstored] at hno
    cases hno

namespace MasterStart
variable {o : Options} (st : MasterStart o)

theorem run_storedFrom (es : List Event) {g d : Nat} (hg : g < st.vc.numGroups)
    (hd : d < (st.vc.setting g).numSlaveDevices.toNat) :
    StoredFrom (st.vc.setting g) g d (st.run es).2 ((st.run es).1.groups g) := by
  have hv := st.vc.group hg
  have hrun := (st.run_inv (A := fun _ _ _ => True) (I := StoredFrom (st.vc.setting g) g d) hg
    (by
      intro gd hinit
      refine ⟨?_, Or.inl ?_⟩
      · intro hreceived
        rw [hinit.device d hd] at hreceived
        cases hreceived
      · intro j _
        rw [hinit.area]
        exact ⟨rfl, rfl⟩)
    (fun _ _ _ _ hinv hm h => groupMove_storedFrom hv hinv hd hm h)
    (Machine.Steps.of_all master (fun _ _ _ _ _ => trivial) _ es)).2
  have hsub : ∀ x ∈ ofGroup g (st.run es).2, x ∈ (st.run es).2 :=
    fun x hx => (List.mem_filter.mp hx).1
  refine ⟨?_, ?_⟩
  · intro hreceived
    obtain ⟨r, valid, timestamp, hmem, heq⟩ := hrun.details hreceived
    exact ⟨r, valid, timestamp, hsub _ hmem, heq⟩
  · refine hrun.inputs.imp id ?_
    rintro ⟨r, hmem, hdata⟩
    exact ⟨r, hsub _ hmem, hdata⟩

end MasterStart

end CLink
