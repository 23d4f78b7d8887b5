import CLink.Master.SentFrames

/-!
# Sequence numbers

The counter is increased at the end of every link scan, when it is complete and when it times out.

* `frameSequence k`          the number of the `k`-th request, with the wrap from 65535 to 1;
* `groupMove_sequence`       the requests so far and the counter, move by move;
* `request_sequenceNumber`   the numbers of all requests of a run.
-/

namespace CLink
open Loop Trace

/-! ## the numbers -/

def frameSequence : Nat → UInt16
  | 0 => 0
  | k + 1 => UInt16.ofNat (k % 65535 + 1)

theorem frameSequence_succ_toNat (k : Nat) : (frameSequence (k+1)).toNat = k % 65535 + 1 := by
  have hlt := Nat.mod_lt k (show 0 < 65535 by decide)
  show (UInt16.ofNat (k % 65535 + 1)).toNat = _
  rw [UInt16.toNat_ofNat']
  omega

/-- the counter runs through the numbers -/
theorem frameSequence_succ (k : Nat) :
    frameSequence (k+1) = clmIefbUpdateFrameSequenceNo (frameSequence k) := by
  cases k with
  | zero => rfl
  | succ k =>
    have hk := frameSequence_succ_toNat k
    rw [← UInt16.toNat_inj, frameSequence_succ_toNat]
    unfold clmIefbUpdateFrameSequenceNo
    by_cases hmax : frameSequence (k+1) = 0xFFFF
    · rw [if_pos hmax]
      rw [hmax] at hk
      have hk' : 65535 = k % 65535 + 1 := hk
      show _ = 1
      omega
    · rw [if_neg hmax, UInt16.toNat_add, hk]
      rw [← UInt16.toNat_inj, hk] at hmax
      have hmax' : ¬ k % 65535 + 1 = 65535 := hmax
      show _ = (k % 65535 + 1 + 1) % 65536
      omega

theorem frameSequence_eq_zero (k : Nat) : frameSequence k = 0 ↔ k = 0 := by
  cases k with
  | zero => simp [frameSequence]
  | succ k =>
    have hk := frameSequence_succ_toNat k
    constructor
    · intro h0
      rw [h0] at hk
      have hk' : 0 = k % 65535 + 1 := hk
      omega
    · intro h
      cases h

/-- a number comes back after a multiple of 65535 requests -/
theorem frameSequence_eq_iff {j k : Nat} (hjk : j < k) :
    frameSequence j = frameSequence k ↔ 1 ≤ j ∧ 65535 ∣ k - j := by
  cases j with
  | zero =>
    have hne : frameSequence k ≠ 0 := (frameSequence_eq_zero k).not.mpr (by omega)
    constructor
    · intro h
      exact absurd h.symm hne
    · intro h
      omega
  | succ j =>
    obtain ⟨k, rfl⟩ := Nat.exists_eq_add_one_of_ne_zero (show k ≠ 0 by omega)
    rw [← UInt16.toNat_inj, frameSequence_succ_toNat, frameSequence_succ_toNat]
    omega

/-! ## the counter of a group -/

def requestSequenceNo (dg : Datagram) : UInt16 :=
  (ReqFullHeaders.ofBuffer dg.byte).cyclicDataHeader.frameSequenceNo

/-- the payload of the request carries `n` -/
def Output.hasSequenceNo (n : UInt16) : Output → Prop
  | sendRequest _ _ _ _ dg => requestSequenceNo dg = n
  | _ => False

/-- the requests so far, and the counter after `n` of them -/
structure Sequence (g : Nat) (hist : List Output) (gd : GroupData) : Prop where
  sent : Numbered (Output.isRequest g) (fun k => Output.hasSequenceNo (frameSequence k)) hist
  arbitration : gd.groupState = .masterArbitration →
    (hist.filter (Output.isRequest g)).length = 0 ∧ gd.frameSequenceNo = 0
  comp : gd.groupState = .masterLinkScanComp →
    gd.frameSequenceNo = frameSequence (hist.filter (Output.isRequest g)).length
  scan : gd.groupState = .masterLinkScan →
    clmIefbUpdateFrameSequenceNo gd.frameSequenceNo
        = frameSequence (hist.filter (Output.isRequest g)).length

section
variable {o : Options} {cfg : Config} {parameterNo : UInt16} {g : Nat} {gd gd' : GroupData}
  {hist out : List Output}

/-- a move that sends nothing and leaves state and counter alone -/
theorem Sequence.silent (h : Sequence g hist gd) (ho : ∀ x ∈ out, x.isRequest g = false)
    (hstate : gd'.groupState = gd.groupState) (hseq : gd'.frameSequenceNo = gd.frameSequenceNo) :
    Sequence g (hist ++ out) gd' := by
  have hcount := Numbered.filter_silent ho hist
  refine ⟨h.sent.silent ho, ?_, ?_, ?_⟩
  · intro hs
    rw [hcount, hseq]
    exact h.arbitration (hstate ▸ hs)
  · intro hs
    rw [hcount, hseq]
    exact h.comp (hstate ▸ hs)
  · intro hs
    rw [hcount, hseq]
    exact h.scan (hstate ▸ hs)

/-- the end of a link scan -/
theorem Sequence.endScan (h : Sequence g hist gd) (hs : gd.groupState = .masterLinkScan)
    (gs : GroupSetting) (event : DeviceEvent) (success : Bool) :
    Sequence g (hist ++ [.linkscanCb g success]) (gd.endScan gs event) := by
  have ho : ∀ x ∈ [Output.linkscanCb g success], x.isRequest g = false := by
    intro x hx
    rw [List.mem_singleton.mp hx]
    rfl
  refine ⟨h.sent.silent ho, ?_, ?_, ?_⟩
  · intro hs'
    cases hs'
  · intro _
    rw [Numbered.filter_silent ho]
    exact h.scan hs
  · intro hs'
    cases hs'

/-- the request that goes out carries the counter -/
theorem linkscanStarted_sequenceNo {now : UInt32} (hv : GroupValid o cfg (cfg.hier.groups g))
    (h : GroupInv cfg parameterNo g gd) (hs : gd.groupState = .masterLinkScanComp)
    (hst : LinkscanStarted (cfg.hier.groups g) g now gd gd') :
    requestSequenceNo gd'.reqFrame.datagram = gd.frameSequenceNo := by
  have hlay := (groupInv_linkscanStarted hv h hs hst).layout
  obtain ⟨clockInfo, unitInfo, hframe⟩ := hst.frame
  rw [requestSequenceNo, RequestFrame.fullHeaders_datagram hlay, hframe]
  rfl

theorem groupMove_sequence {A : GroupInput → GroupData → Prop}
    (hv : GroupValid o cfg (cfg.hier.groups g)) (hinv : GroupInv cfg parameterNo g gd)
    (hm : GroupMove cfg g A gd out gd') (h : Sequence g hist gd) : Sequence g (hist ++ out) gd' := by
  have hnone : ∀ x ∈ ([] : List Output), x.isRequest g = false := by
    intro x hx
    cases hx
  cases hm with
  | start clm now unixMs hclm hs =>
    obtain ⟨hst, hout⟩ := linkscanStart_started hv hinv hs hclm now unixMs
    have hconn : ∀ x ∈ (startDevices (cfg.hier.groups g) g gd.scanning).2,
        x.isRequest g = false := by
      intro x hx
      exact (startDevices_out _ _ _ x hx).isRequest
    rw [hout]
    -- the request is number `n` for the `n` requests so far
    refine ⟨h.sent.mark hconn (by simp [Output.isRequest]) ?_, ?_, ?_, ?_⟩
    · rw [← h.comp hs]
      exact linkscanStarted_sequenceNo hv hinv hs hst
    · intro hs'
      rw [hst.state] at hs'
      cases hs'
    · intro hs'
      rw [hst.state] at hs'
      cases hs'
    · intro _
      rw [Numbered.filter_mark (by simp [Output.isRequest]) hconn, List.length_append, hst.seq,
        h.comp hs]
      exact (frameSequence_succ _).symm
  | complete hs hr => exact h.endScan hs _ _ _
  | timeout hs => exact h.endScan hs _ _ _
  | arbitrationDone hs =>
    obtain ⟨hcount, hseq⟩ := h.arbitration hs
    rw [List.append_nil]
    refine ⟨h.sent, ?_, ?_, ?_⟩
    · intro hs'
      cases hs'
    · intro _
      rw [hcount]
      exact hseq
    · intro hs'
      cases hs'
  | standby hs =>
    rw [List.append_nil]
    refine ⟨h.sent, ?_, ?_, ?_⟩ <;>
    · intro hs'
      cases hs'
  | accepted d r hd ha hc =>
    exact h.silent (fun x hx => accepted_isRequest g d r _ _ x hx g) rfl rfl
  | _ => exact h.silent hnone rfl rfl

end

/-! ## runs -/

namespace MasterStart
variable {o : Options} (st : MasterStart o)

/-- the counter of a group in every run -/
theorem run_sequence (es : List Event) {g : Nat} (hg : g < st.vc.numGroups) :
    Sequence g (ofGroup g (st.run es).2) ((st.run es).1.groups g) := by
  have hv := st.vc.group hg
  exact (st.run_inv (A := fun _ _ _ => True) (I := Sequence g) hg
    (by
      intro gd hinit
      refine ⟨Numbered.nil, fun _ => ⟨rfl, hinit.seq⟩, ?_, ?_⟩ <;>
      · intro hs
        rw [hinit.state] at hs
        cases hs)
    (fun _ _ _ _ hinv hm h => groupMove_sequence hv hinv hm h)
    (Machine.Steps.of_all master (fun _ _ _ _ _ => trivial) _ es)).2

/-- the number of the `k`-th request -/
theorem run_numbered (es : List Event) {g k : Nat} {x : Output}
    (hk : ((st.run es).2.filter (Output.isRequest g))[k]? = some x) :
    x.hasSequenceNo (frameSequence k) := by
  have hmem := List.mem_filter.mp (List.mem_of_getElem? hk)
  have hg : g < st.vc.numGroups := (st.run_config es).2 _ hmem.1 g (by
    have hown := Output.isOf_of_isRequest hmem.2
    rwa [Output.isOf, decide_eq_true_eq] at hown)
  rw [← ofGroup_requests] at hk
  exact (st.run_sequence es hg).sent k x hk

/-- **The sequence numbers of the requests of a group.**  The number 0 is used once, and the others
follow one after the other. -/
theorem request_sequenceNumber (es : List Event) (g k : Nat) (start : GroupData) (destIp : IpAddr)
    (destPort : UInt16) (dg : Datagram)
    (hk : ((st.run es).2.filter (Output.isRequest g))[k]?
      = some (.sendRequest g start destIp destPort dg)) :
    requestSequenceNo dg = (if k = 0 then 0 else UInt16.ofNat ((k - 1) % 65535 + 1))
      ∧ (requestSequenceNo dg = 0 ↔ k = 0) := by
  have hnum : requestSequenceNo dg = frameSequence k := st.run_numbered es hk
  constructor
  · rw [hnum]
    cases k <;> rfl
  · rw [hnum]
    exact frameSequence_eq_zero k

/-- the first link scan times out -/
theorem request_sequenceNumber_example :
    ∃ start destIp destPort dg,
      (((exampleStart false false).run [.exampleTick 5000, .exampleTick 50000]).2.filter
          (Output.isRequest 0))[1]? = some (.sendRequest 0 start destIp destPort dg)
        ∧ requestSequenceNo dg = UInt16.ofNat ((1 - 1) % 65535 + 1) := by
  have hrun : ((((exampleStart false false).run [.exampleTick 5000, .exampleTick 50000]).2.filter
      (Output.isRequest 0))[1]?).any (Output.isRequestWith 0 fun _ _ => true) = true := by
    decide +kernel
  obtain ⟨start, destIp, destPort, dg, hk, _⟩ := exists_sendRequest hrun
  exact ⟨start, destIp, destPort, dg, hk,
    ((exampleStart false false).request_sequenceNumber _ 0 1 start destIp destPort dg hk).1⟩

end MasterStart

end CLink
