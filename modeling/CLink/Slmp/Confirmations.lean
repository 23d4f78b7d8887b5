import CLink.Slmp.Moves

/-!
# Confirmations of SLMP requests

An accepted request is a mark of the outputs, and so is a confirmation; they take turns for each of
the two kinds.

* `RequestInv k hist clm`   the state at rest: the serial number tells whether a request is pending;
* `InCfm k hist clm`        the state inside the callback: confirmed, but the serial number still set;
* `slmp_confirmations`      whole runs.
-/

namespace CLink
open Bytes Trace SlmpMaster SlmpOutput

structure RequestInv (k : SlmpRequestKind) (hist : List SlmpOutput) (clm : SlmpMaster) : Prop where
  paired : Paired (isSent k) (isCfm k) hist
  pending : serialOf k clm ≠ clmSlmpSerialNone ↔ Pending (isSent k) (isCfm k) hist
  timer : serialOf k clm ≠ clmSlmpSerialNone ↔ (timerOf k clm).state = .running

structure InCfm (k : SlmpRequestKind) (hist : List SlmpOutput) (clm : SlmpMaster) : Prop where
  paired : Paired (isSent k) (isCfm k) hist
  confirmed : ¬ Pending (isSent k) (isCfm k) hist
  serial : serialOf k clm ≠ clmSlmpSerialNone
  timer : (timerOf k clm).state = .stopped

section
variable {j k : SlmpRequestKind} {hist outs : List SlmpOutput} {clm clm' : SlmpMaster}
  {cfg : SlmpMasterConfig}

theorem RequestInv.init (k : SlmpRequestKind) (clm : SlmpMaster) :
    RequestInv k [] (clmSlmpInit clm) := by
  have hserial : serialOf k (clmSlmpInit clm) = clmSlmpSerialNone := by
    cases k
    all_goals rfl
  have htimer : (timerOf k (clmSlmpInit clm)).state = .stopped := by
    cases k
    all_goals rfl
  refine ⟨Paired.nil, ?_, ?_⟩
  · exact iff_of_false (fun h => h hserial) Paired.not_pending_nil
  · rw [htimer]
    exact iff_of_false (fun h => h hserial) (fun h => nomatch h)

/-- moves that do not touch the kind -/
theorem RequestInv.other (h : RequestInv k hist clm) (hserial : serialOf k clm' = serialOf k clm)
    (htimer : timerOf k clm' = timerOf k clm) (hsent : ∀ x ∈ outs, isSent k x = false)
    (hcfm : ∀ x ∈ outs, isCfm k x = false) : RequestInv k (hist ++ outs) clm' := by
  refine ⟨h.paired.silent hsent hcfm, ?_, ?_⟩
  · rw [hserial, Paired.pending_silent hsent hcfm]
    exact h.pending
  · rw [hserial, htimer]
    exact h.timer

theorem RequestInv.call (h : RequestInv k hist clm) (hc : CallStep j clm clm' outs) :
    RequestInv k (hist ++ outs) clm' := by
  by_cases hbusy : j = k → serialOf k clm ≠ clmSlmpSerialNone
  · obtain ⟨hserial, htimer, hsent⟩ := hc.other hbusy
    exact h.other hserial htimer hsent (hc.not_isCfm k)
  · -- the kind has no pending request
    rw [Classical.not_imp, ne_eq, not_not] at hbusy
    obtain ⟨rfl, hfree⟩ := hbusy
    have hnot : ¬ Pending (isSent j) (isCfm j) hist := by
      rw [← h.pending, ne_eq, not_not]
      exact hfree
    cases hc with
    | blocked =>
      refine h.other rfl rfl ?_ ?_
      all_goals
        intro x hx
        obtain rfl := List.mem_singleton.mp hx
        rfl
    | sendFailed clm' free serial timer drawn db =>
      refine h.other (serial j) (timer j) ?_ ?_
      all_goals
        intro x hx
        obtain rfl := List.mem_singleton.mp hx
        rfl
    | sent clm' payload free serial timer others =>
      have hset : serialOf j clm' ≠ clmSlmpSerialNone := by
        rw [serial]
        exact fun h => nomatch h
      have hmark : isSent j (.sent j payload) = true := by
        rw [isSent_sent, decide_eq_true rfl]
      refine ⟨h.paired.send hnot rfl, ?_, ?_⟩
      · exact iff_of_true hset (Paired.pending_send hmark rfl)
      · exact iff_of_true hset timer

/-- in the callback a call of the kind is blocked -/
theorem InCfm.call (h : InCfm k hist clm) (hc : CallStep j clm clm' outs) :
    InCfm k (hist ++ outs) clm' := by
  obtain ⟨hserial, htimer, hsent⟩ := hc.other (fun _ => h.serial)
  have hcfm := hc.not_isCfm k
  refine ⟨h.paired.silent hsent hcfm, ?_, ?_, ?_⟩
  · rw [Paired.pending_silent hsent hcfm]
    exact h.confirmed
  · rw [hserial]
    exact h.serial
  · rw [htimer]
    exact h.timer

theorem RequestInv.calls (h : RequestInv k hist clm) (cfg : SlmpMasterConfig)
    (calls : List SlmpCall) :
    RequestInv k (hist ++ ((slmpCalls cfg).run clm calls).2) ((slmpCalls cfg).run clm calls).1 :=
  (slmpCalls cfg).run_inv (c := fun _ _ => True) (I := RequestInv k)
    (fun _ s c hs _ => hs.call (performCall_step cfg s c)) hist h (.of_all _ (fun _ _ => trivial) _ _)

theorem InCfm.calls (h : InCfm k hist clm) (cfg : SlmpMasterConfig)
    (calls : List SlmpCall) :
    InCfm k (hist ++ ((slmpCalls cfg).run clm calls).2) ((slmpCalls cfg).run clm calls).1 :=
  (slmpCalls cfg).run_inv (c := fun _ _ => True) (I := InCfm k)
    (fun _ s c hs _ => hs.call (performCall_step cfg s c)) hist h (.of_all _ (fun _ _ => trivial) _ _)

/-- the confirmation of a kind is none of another -/
theorem isCfm_unique {x : SlmpOutput} (hj : isCfm j x = true) (hne : j ≠ k) : isCfm k x = false := by
  cases x with
  | sent => rfl
  | sendFailed => rfl
  | blocked => rfl
  | nodeSearchCfm =>
    have hj : j = .nodeSearch := decide_eq_true_iff.mp hj
    exact decide_eq_false (fun hk => hne (hj.trans hk.symm))
  | setIpCfm =>
    have hj : j = .setIp := decide_eq_true_iff.mp hj
    exact decide_eq_false (fun hk => hne (hj.trans hk.symm))

theorem not_isSent_of_isCfm {x : SlmpOutput} (hj : isCfm j x = true) (k : SlmpRequestKind) :
    isSent k x = false := by
  cases x with
  | sent => cases hj
  | sendFailed => rfl
  | blocked => rfl
  | nodeSearchCfm => rfl
  | setIpCfm => rfl

theorem RequestInv.notify {x : SlmpOutput} {calls : List SlmpCall} (h : RequestInv k hist clm)
    (hpending : serialOf j clm ≠ clmSlmpSerialNone ∨ (timerOf j clm).state = .running)
    (hn : NotifyStep cfg j clm clm' x calls outs) : RequestInv k (hist ++ outs) clm' := by
  obtain ⟨hcfm, inCfm, hserial, hstopped, htimer, -, rfl, hnone, hserials, htimers, -⟩ := hn
  rw [List.append_cons]
  by_cases hjk : j = k
  · subst hjk
    have hset : serialOf j clm ≠ clmSlmpSerialNone := hpending.elim id h.timer.mpr
    have hin : InCfm j (hist ++ [x]) inCfm := by
      refine ⟨?_, Paired.not_pending_answer hcfm, ?_, hstopped⟩
      · exact h.paired.answered (h.pending.mp hset) (not_isSent_of_isCfm hcfm j)
      · rw [hserial]
        exact hset
    have hend := hin.calls cfg calls
    refine ⟨hend.paired, ?_, ?_⟩
    · exact iff_of_false (fun hne => hne hnone) hend.confirmed
    · rw [htimers, hend.timer]
      exact iff_of_false (fun hne => hne hnone) (fun h => nomatch h)
  · have hkj : k ≠ j := fun h => hjk h.symm
    have hin : RequestInv k (hist ++ [x]) inCfm := by
      refine h.other (hserial k) (htimer k hkj) ?_ ?_
      · intro y hy
        obtain rfl := List.mem_singleton.mp hy
        exact not_isSent_of_isCfm hcfm k
      · intro y hy
        obtain rfl := List.mem_singleton.mp hy
        exact isCfm_unique hcfm hjk
    have hend := hin.calls cfg calls
    refine ⟨hend.paired, ?_, ?_⟩
    · rw [hserials k hkj]
      exact hend.pending
    · rw [hserials k hkj, htimers]
      exact hend.timer

theorem RequestInv.move (h : RequestInv k hist clm) (hm : SlmpMove cfg clm outs clm') :
    RequestInv k (hist ++ outs) clm' := by
  cases hm with
  | notify hpending hn => exact h.notify hpending hn
  | database hserial htimer =>
    exact h.other (hserial k) (htimer k) (fun x hx => absurd hx List.not_mem_nil)
      (fun x hx => absurd hx List.not_mem_nil)

theorem RequestInv.step (h : RequestInv k hist clm) (ev : SlmpEvent) :
    RequestInv k (hist ++ (slmpStep cfg clm ev).2) (slmpStep cfg clm ev).1 := by
  cases ev with
  | call c => exact h.call (performCall_step cfg clm c)
  | frame dg ifindex calls =>
    exact (clmSlmpHandleInputFrame_moves cfg clm dg ifindex calls).inv
      (fun _ _ _ _ hm hs => hs.move hm) hist h
  | checkTimeouts now inNodeSearchCfm inSetIpCfm =>
    exact (clmSlmpCheckTimeouts_moves cfg clm now inNodeSearchCfm inSetIpCfm).inv
      (fun _ _ _ _ hm hs => hs.move hm) hist h

end

/-- requests and confirmations in a run from the start -/
theorem requestInv_run (cfg : SlmpMasterConfig) (clm : SlmpMaster) (es : List SlmpEvent)
    (k : SlmpRequestKind) :
    RequestInv k ((slmpMachine cfg).run (clmSlmpInit clm) es).2
      ((slmpMachine cfg).run (clmSlmpInit clm) es).1 :=
  (slmpMachine cfg).run_inv (c := fun _ _ => True) (I := RequestInv k)
    (fun _ _ ev hs _ => hs.step ev) [] (RequestInv.init k clm) (.of_all _ (fun _ _ => trivial) _ _)

/-- **Confirmations.**  Accepted requests and confirmations of a kind take turns, the serial number is
set exactly while the timer runs, a call that returned -1 leaves what is pending, and frames with
another serial number or from another interface have no effect. -/
theorem slmp_confirmations (cfg : SlmpMasterConfig) (clm : SlmpMaster) (es : List SlmpEvent) :
    let run := (slmpMachine cfg).run (clmSlmpInit clm) es
    (∀ k, Paired (isSent k) (isCfm k) run.2)
      ∧ (∀ k, serialOf k run.1 ≠ clmSlmpSerialNone ↔ (timerOf k run.1).state = .running)
      ∧ (∀ s c, (∀ x ∈ (performCall cfg s c).2, isSent c.kind x = false) →
          (∀ k, serialOf k (performCall cfg s c).1 = serialOf k s
            ∧ timerOf k (performCall cfg s c).1 = timerOf k s)
          ∧ (c.kind = .setIp → (performCall cfg s c).1.nodeSearchDb = s.nodeSearchDb))
      ∧ ∀ s dg ifindex calls,
          (ifindex ≠ cfg.ifindex ∨ ∀ k, serialOf k s ≠ (u16 dg.byte 2).toNat) →
          slmpStep cfg s (.frame dg ifindex calls) = (s, []) :=
  ⟨fun k => (requestInv_run cfg clm es k).paired, fun k => (requestInv_run cfg clm es k).timer,
    fun s c => (performCall_step cfg s c).refused, slmpStep_frame_other cfg⟩

end CLink
