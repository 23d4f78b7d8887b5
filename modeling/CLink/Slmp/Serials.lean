import CLink.Slmp.Moves

/-!
# Serial numbers of SLMP requests

Both kinds of requests draw their serial numbers from one counter of 16 bits, and a request that
could not be sent has drawn one too.

* `drawsSince k hist`   numbers drawn since the last accepted request of kind `k`, its own included;
* `SerialInv`           a pending number is that many draws behind the counter;
* `SerialsOk`           the pending numbers differ, and the responses to them reach their handlers;
* `DrawsApart`          what a step must meet for that;
* `slmp_serials`        whole runs.
-/

namespace CLink
open Bytes Trace SlmpMaster SlmpOutput

/-! ## draws -/

def SlmpOutput.isDraw : SlmpOutput → Bool
  | sent _ _ => true
  | sendFailed _ => true
  | _ => false

def drawsSince (k : SlmpRequestKind) (hist : List SlmpOutput) : Nat :=
  1 + (since (isSent k) hist).countP isDraw

def SlmpRequestKind.other : SlmpRequestKind → SlmpRequestKind
  | nodeSearch => setIp
  | setIp => nodeSearch

structure SerialInv (hist : List SlmpOutput) (clm : SlmpMaster) : Prop where
  pending : ∀ k, serialOf k clm ≠ clmSlmpSerialNone → ∃ n : Nat, n < 65536 ∧ serialOf k clm = n
    ∧ (n + drawsSince k hist) % 65536 = clm.slmpRequestSerial.toNat

section
variable {j k : SlmpRequestKind} {hist outs : List SlmpOutput} {clm clm' : SlmpMaster}
  {cfg : SlmpMasterConfig}

theorem drawsSince_silent (h : ∀ x ∈ outs, isSent k x = false) (hist : List SlmpOutput) :
    drawsSince k (hist ++ outs) = drawsSince k hist + outs.countP isDraw := by
  unfold drawsSince
  rw [since_append h, List.countP_append, Nat.add_assoc]

theorem drawsSince_sent (payload : Datagram) (hist : List SlmpOutput) :
    drawsSince k (hist ++ [.sent k payload]) = 1 := by
  unfold drawsSince
  rw [since_mark (by rw [isSent_sent, decide_eq_true rfl])]
  rfl

/-- one more draw, of the counter and of the count -/
theorem drawn_succ {n d : Nat} {c c' : UInt16} (h : (n + d) % 65536 = c.toNat) (hc : c' = c + 1) :
    (n + (d + 1)) % 65536 = c'.toNat := by
  have hadd : c'.toNat = (c.toNat + 1) % 65536 := by
    rw [hc, UInt16.toNat_add]
    rfl
  rw [hadd, ← h]
  omega

theorem SerialInv.init (clm : SlmpMaster) : SerialInv [] (clmSlmpInit clm) := by
  refine ⟨fun k hk => absurd ?_ hk⟩
  cases k
  all_goals rfl

theorem SerialInv.call (h : SerialInv hist clm) (hc : CallStep j clm clm' outs) :
    SerialInv (hist ++ outs) clm' := by
  refine ⟨fun k hk => ?_⟩
  cases hc with
  | blocked =>
    rw [drawsSince_silent (fun x hx => List.mem_singleton.mp hx ▸ rfl)]
    exact h.pending k hk
  | sendFailed clm' free serial timer drawn db =>
    rw [serial k] at hk
    obtain ⟨n, hlt, hn, hdraws⟩ := h.pending k hk
    refine ⟨n, hlt, (serial k).trans hn, ?_⟩
    rw [drawsSince_silent (fun x hx => List.mem_singleton.mp hx ▸ rfl)]
    exact drawn_succ hdraws drawn
  | sent clm' payload free serial timer others drawn db =>
    by_cases hjk : k = j
    · subst hjk
      refine ⟨clm.slmpRequestSerial.toNat, clm.slmpRequestSerial.toNat_lt, serial, ?_⟩
      rw [drawsSince_sent]
      exact drawn_succ (d := 0) (Nat.mod_eq_of_lt clm.slmpRequestSerial.toNat_lt) drawn
    · have hserial := (others k hjk).1
      rw [hserial] at hk
      obtain ⟨n, hlt, hn, hdraws⟩ := h.pending k hk
      refine ⟨n, hlt, hserial.trans hn, ?_⟩
      have hsilent : ∀ x ∈ [SlmpOutput.sent j payload], isSent k x = false := by
        intro x hx
        obtain rfl := List.mem_singleton.mp hx
        rw [isSent_sent, decide_eq_false (fun h => hjk h.symm)]
      rw [drawsSince_silent hsilent]
      exact drawn_succ hdraws drawn

theorem SerialInv.calls (h : SerialInv hist clm) (cfg : SlmpMasterConfig)
    (calls : List SlmpCall) :
    SerialInv (hist ++ ((slmpCalls cfg).run clm calls).2) ((slmpCalls cfg).run clm calls).1 :=
  (slmpCalls cfg).run_inv (c := fun _ _ => True) (I := SerialInv)
    (fun _ s c hs _ => hs.call (performCall_step cfg s c)) hist h (.of_all _ (fun _ _ => trivial) _ _)

/-- outputs that draw nothing, and requests that end -/
theorem SerialInv.mono (h : SerialInv hist clm)
    (hserial : ∀ k, serialOf k clm' = clmSlmpSerialNone ∨ serialOf k clm' = serialOf k clm)
    (hcounter : clm'.slmpRequestSerial = clm.slmpRequestSerial)
    (hsent : ∀ k, ∀ x ∈ outs, isSent k x = false) (hdraw : outs.countP isDraw = 0) :
    SerialInv (hist ++ outs) clm' := by
  refine ⟨fun k hk => ?_⟩
  rcases hserial k with hnone | hsame
  · exact absurd hnone hk
  · rw [hsame] at hk ⊢
    rw [hcounter, drawsSince_silent (hsent k), hdraw]
    exact h.pending k hk

theorem isDraw_of_isCfm {x : SlmpOutput} (hx : isCfm k x = true) :
    (∀ j, isSent j x = false) ∧ isDraw x = false := by
  cases x with
  | sent => cases hx
  | sendFailed => cases hx
  | blocked => cases hx
  | nodeSearchCfm => exact ⟨fun _ => rfl, rfl⟩
  | setIpCfm => exact ⟨fun _ => rfl, rfl⟩

theorem SerialInv.move (h : SerialInv hist clm) (hm : SlmpMove cfg clm outs clm') :
    SerialInv (hist ++ outs) clm' := by
  cases hm with
  | notify hpending hn =>
    next k x calls =>
    obtain ⟨hcfm, inCfm, hserial, -, -, hcounter, rfl, hnone, hserials, -, hcounters⟩ := hn
    obtain ⟨hsent, hdraw⟩ := isDraw_of_isCfm hcfm
    have hin : SerialInv (hist ++ [x]) inCfm := by
      refine h.mono (fun j => .inr (hserial j)) hcounter ?_ ?_
      · intro j y hy
        obtain rfl := List.mem_singleton.mp hy
        exact hsent j
      · rw [List.countP_singleton, hdraw]
        rfl
    have hend := hin.calls cfg calls
    have hafter : SerialInv (hist ++ [x] ++ ((slmpCalls cfg).run inCfm calls).2 ++ []) clm' := by
      refine hend.mono ?_ hcounters (fun j y hy => absurd hy List.not_mem_nil) rfl
      intro j
      by_cases hj : j = k
      · subst hj
        exact .inl hnone
      · exact .inr (hserials j hj)
    rw [List.append_nil] at hafter
    rwa [List.append_cons]
  | database hserial htimer hcounter =>
    exact h.mono (fun j => .inr (hserial j)) hcounter (fun j y hy => absurd hy List.not_mem_nil) rfl

theorem SerialInv.step (h : SerialInv hist clm) (ev : SlmpEvent) :
    SerialInv (hist ++ (slmpStep cfg clm ev).2) (slmpStep cfg clm ev).1 := by
  cases ev with
  | call c => exact h.call (performCall_step cfg clm c)
  | frame dg ifindex calls =>
    exact (clmSlmpHandleInputFrame_moves cfg clm dg ifindex calls).inv
      (fun _ _ _ _ hm hs => hs.move hm) hist h
  | checkTimeouts now inNodeSearchCfm inSetIpCfm =>
    exact (clmSlmpCheckTimeouts_moves cfg clm now inNodeSearchCfm inSetIpCfm).inv
      (fun _ _ _ _ hm hs => hs.move hm) hist h

end

/-! ## clashes -/

/-- the pending numbers differ, and so every response with one of them reaches the handler of its
request -/
structure SerialsOk (clm : SlmpMaster) : Prop where
  differ : serialOf .nodeSearch clm ≠ clmSlmpSerialNone → serialOf .setIp clm ≠ clmSlmpSerialNone →
    serialOf .nodeSearch clm ≠ serialOf .setIp clm
  setIp : ∀ serial endcode : UInt16, (serial.toNat : Int) = serialOf .setIp clm →
    responseHandler clm serial endcode
      = if endcode = endcodeSuccess then some .setIpaddrResponse else some .setIpError
  nodeSearch : ∀ serial endcode : UInt16, (serial.toNat : Int) = serialOf .nodeSearch clm →
    responseHandler clm serial endcode = some .nodeSearchResponse

theorem toNat_ne_none (serial : UInt16) : (serial.toNat : Int) ≠ clmSlmpSerialNone :=
  fun h => nomatch h

/-- different numbers are enough -/
theorem SerialsOk.of_differ {clm : SlmpMaster}
    (h : serialOf .nodeSearch clm ≠ clmSlmpSerialNone → serialOf .setIp clm ≠ clmSlmpSerialNone →
      serialOf .nodeSearch clm ≠ serialOf .setIp clm) : SerialsOk clm := by
  refine ⟨h, ?_, ?_⟩
  · intro serial endcode hserial
    have hsearch : (serial.toNat : Int) ≠ clm.nodeSearchSerial := by
      intro heq
      refine h ?_ ?_ (heq.symm.trans hserial)
      · show clm.nodeSearchSerial ≠ _
        rw [← heq]
        exact toNat_ne_none serial
      · rw [← hserial]
        exact toNat_ne_none serial
    have hsetIp : (serial.toNat : Int) = clm.setIpRequestSerial := hserial
    unfold responseHandler
    rw [if_neg hsearch, if_pos hsetIp]
  · intro serial endcode hserial
    have hsearch : (serial.toNat : Int) = clm.nodeSearchSerial := hserial
    unfold responseHandler
    rw [if_pos hsearch]

/-- the request is accepted: its kind is free, its arguments are valid and it can be sent -/
def SlmpCall.goesThrough (clm : SlmpMaster) : SlmpCall → Bool
  | .performNodeSearch _ sendOk => clm.nodeSearchSerial = clmSlmpSerialNone ∧ sendOk
  | .performSetIpaddrRequest _ _ slaveNewIpAddr slaveNewNetmask sendOk =>
    clm.setIpRequestSerial = clmSlmpSerialNone ∧ slaveNewIpAddr ≠ ipaddrInvalid
      ∧ clUtilsIsNetmaskValid slaveNewNetmask ∧ sendOk

/-- when a request is accepted while one of the other kind is pending, the number of draws since that
one is no multiple of 65536 -/
def DrawsApart (before : List SlmpOutput × SlmpMaster) : SlmpEvent → Prop
  | .call c => c.goesThrough before.2 = true → serialOf c.kind.other before.2 ≠ clmSlmpSerialNone →
      drawsSince c.kind.other before.1 % 65536 ≠ 0
  | _ => True

theorem performCall_sent_iff (cfg : SlmpMasterConfig) (clm : SlmpMaster) (c : SlmpCall) :
    (∃ payload, (performCall cfg clm c).2 = [.sent c.kind payload]) ↔ c.goesThrough clm = true := by
  cases c with
  | performNodeSearch now sendOk =>
    unfold performCall clmSlmpPerformNodeSearch SlmpCall.goesThrough SlmpCall.kind
    by_cases hfree : clm.nodeSearchSerial = clmSlmpSerialNone
    · cases sendOk <;> simp [hfree]
    · simp [hfree]
  | performSetIpaddrRequest now slaveMacAddr slaveNewIpAddr slaveNewNetmask sendOk =>
    unfold performCall clmSlmpPerformSetIpaddrRequest SlmpCall.goesThrough SlmpCall.kind
    by_cases hfree : clm.setIpRequestSerial = clmSlmpSerialNone
    · by_cases hip : slaveNewIpAddr = ipaddrInvalid
      · simp [hfree, hip]
      · cases hmask : clUtilsIsNetmaskValid slaveNewNetmask
        · simp [hfree, hip, hmask]
        · cases sendOk <;> simp [hfree, hip, hmask]
    · simp [hfree]

section
variable {k : SlmpRequestKind} {hist outs : List SlmpOutput} {clm clm' : SlmpMaster}
  {cfg : SlmpMasterConfig}

theorem other_ne (k : SlmpRequestKind) : k.other ≠ k := by
  cases k
  all_goals exact fun h => nomatch h

/-- the numbers of a kind and the other one -/
theorem serialsOk_iff (k : SlmpRequestKind) (clm : SlmpMaster) :
    SerialsOk clm ↔ (serialOf k clm ≠ clmSlmpSerialNone → serialOf k.other clm ≠ clmSlmpSerialNone →
      serialOf k clm ≠ serialOf k.other clm) := by
  cases k with
  | nodeSearch => exact ⟨SerialsOk.differ, SerialsOk.of_differ⟩
  | setIp =>
    constructor
    · intro h hsetIp hsearch heq
      exact h.differ hsearch hsetIp heq.symm
    · intro h
      exact .of_differ (fun hsearch hsetIp heq => h hsetIp hsearch heq.symm)

theorem SerialsOk.move (hm : SlmpMove cfg clm outs clm') (h : SerialsOk clm) : SerialsOk clm' := by
  cases hm with
  | notify hpending hn =>
    next k x calls =>
    obtain ⟨-, inCfm, -, -, -, -, -, hnone, -⟩ := hn
    exact (serialsOk_iff k clm').mpr (fun hne => absurd hnone hne)
  | database hserial =>
    refine .of_differ ?_
    rw [hserial, hserial]
    exact h.differ

/-- a request meets a pending one of the other kind -/
theorem SerialInv.serial_ne_iff (h : SerialInv hist clm)
    (hpending : serialOf k clm ≠ clmSlmpSerialNone) :
    (clm.slmpRequestSerial.toNat : Int) ≠ serialOf k clm ↔ drawsSince k hist % 65536 ≠ 0 := by
  obtain ⟨n, hlt, hn, hdraws⟩ := h.pending k hpending
  rw [hn, ← hdraws]
  omega

theorem serialsOk_step (hinv : SerialInv hist clm) (h : SerialsOk clm) (ev : SlmpEvent) :
    SerialsOk (slmpStep cfg clm ev).1 ↔ DrawsApart (hist, clm) ev := by
  cases ev with
  | frame dg ifindex calls =>
    exact iff_of_true ((clmSlmpHandleInputFrame_moves cfg clm dg ifindex calls).state_inv
      (fun _ _ _ hm => SerialsOk.move hm) h) trivial
  | checkTimeouts now inNodeSearchCfm inSetIpCfm =>
    exact iff_of_true ((clmSlmpCheckTimeouts_moves cfg clm now inNodeSearchCfm inSetIpCfm).state_inv
      (fun _ _ _ hm => SerialsOk.move hm) h) trivial
  | call c =>
    show SerialsOk (performCall cfg clm c).1 ↔ (c.goesThrough clm = true → _)
    rw [← performCall_sent_iff cfg]
    have hstep := performCall_step cfg clm c
    generalize performCall cfg clm c = next at hstep ⊢
    obtain ⟨clm', outs⟩ := next
    cases hstep with
    | blocked => exact iff_of_true h (fun ⟨_, hsent⟩ => nomatch hsent)
    | sendFailed clm' free serial =>
      refine iff_of_true ?_ (fun ⟨_, hsent⟩ => nomatch hsent)
      refine .of_differ ?_
      rw [serial, serial]
      exact h.differ
    | sent clm' payload free serial timer others =>
      have hother := (others c.kind.other (other_ne c.kind)).1
      have hset : serialOf c.kind clm' ≠ clmSlmpSerialNone := by
        rw [serial]
        exact toNat_ne_none _
      rw [serialsOk_iff c.kind, hother, serial]
      constructor
      · intro hdiffer _ hpending
        exact (hinv.serial_ne_iff hpending).mp (hdiffer (toNat_ne_none _) hpending)
      · intro hapart _ hpending
        exact (hinv.serial_ne_iff hpending).mpr (hapart ⟨payload, rfl⟩ hpending)

end

/-- **Serial numbers.**  In every state of a run the pending numbers differ and their responses are
dispatched to them, if and only if no request is accepted at a multiple of 65536 draws after a pending
one of the other kind. -/
theorem slmp_serials (cfg : SlmpMasterConfig) (clm : SlmpMaster) (es : List SlmpEvent) :
    (∀ before after, es = before ++ after →
        SerialsOk ((slmpMachine cfg).run (clmSlmpInit clm) before).1)
      ↔ (slmpMachine cfg).remembering.Steps DrawsApart ([], clmSlmpInit clm) es := by
  have hiff := (slmpMachine cfg).remembering.steps_iff (c := DrawsApart)
    (I := fun s => SerialInv s.1 s.2) (P := fun s => SerialsOk s.2)
    (fun s ev hs => hs.step ev) (fun s ev hs hok => serialsOk_step hs hok ev)
    (s := ([], clmSlmpInit clm)) (SerialInv.init clm)
    (.of_differ (fun hne => absurd rfl hne)) es
  simp only [Machine.remembering_run] at hiff
  exact hiff.symm

/-! ## a clash -/

/-- a node search that cannot be sent only moves the counter -/
theorem slmpStep_failedSearch (cfg : SlmpMasterConfig) {clm after : SlmpMaster}
    (hfree : clm.nodeSearchSerial = clmSlmpSerialNone)
    (hstep : (slmpStep cfg clm (.call (.performNodeSearch 0 false))).1 = after) :
    after.nodeSearchSerial = clmSlmpSerialNone
      ∧ after.setIpRequestSerial = clm.setIpRequestSerial
      ∧ after.slmpRequestSerial = clm.slmpRequestSerial + 1 := by
  rw [← hstep]
  simp [slmpStep, performCall, clmSlmpPerformNodeSearch, hfree]

theorem run_failedSearches (cfg : SlmpMasterConfig) (n : Nat) {clm after : SlmpMaster}
    (hfree : clm.nodeSearchSerial = clmSlmpSerialNone)
    (hrun : ((slmpMachine cfg).run clm
      (List.replicate n (.call (.performNodeSearch 0 false)))).1 = after) :
    after.nodeSearchSerial = clmSlmpSerialNone
      ∧ after.setIpRequestSerial = clm.setIpRequestSerial
      ∧ after.slmpRequestSerial = clm.slmpRequestSerial + UInt16.ofNat n := by
  induction n generalizing clm with
  | zero =>
    obtain rfl : clm = after := hrun
    exact ⟨hfree, rfl, (UInt16.add_zero _).symm⟩
  | succ n ih =>
    obtain ⟨hnext, hnextSetIp, hnextCounter⟩ := slmpStep_failedSearch cfg hfree rfl
    rw [List.replicate_succ, Machine.run_cons] at hrun
    obtain ⟨hsearch, hsetIp, hcounter⟩ := ih hnext hrun
    refine ⟨hsearch, hsetIp.trans hnextSetIp, ?_⟩
    rw [hcounter, hnextCounter, UInt16.add_assoc, UInt16.add_comm 1, UInt16.ofNat_add]
    rfl

/-- a new address is pending with number 0, `n` node searches fail, and the next one is sent -/
def clashEvents (n : Nat) : List SlmpEvent :=
  .call (.performSetIpaddrRequest 0 (fun _ => 0x0A) 0xC0A80002 0xFFFFFF00 true)
    :: (List.replicate n (.call (.performNodeSearch 0 false))
      ++ [.call (.performNodeSearch 0 true)])

theorem run_clashEvents {n : Nat} (hn : (1 : UInt16) + UInt16.ofNat n = 0) {s : SlmpMaster}
    (hs : ((slmpMachine exampleSlmpConfig).run (clmSlmpInit exampleSlmpMaster)
      (clashEvents n)).1 = s) :
    s.nodeSearchSerial = 0 ∧ s.setIpRequestSerial = 0 := by
  unfold clashEvents at hs
  rw [Machine.run_cons, Machine.run_append] at hs
  generalize hsearches : ((slmpMachine exampleSlmpConfig).run _
    (List.replicate n (.call (.performNodeSearch 0 false)))).1 = searched at hs
  obtain ⟨hsearch, hsetIp, hcounter⟩ := run_failedSearches exampleSlmpConfig n rfl hsearches
  have hzero : searched.slmpRequestSerial = 0 := hcounter.trans hn
  have hset : searched.setIpRequestSerial = 0 := hsetIp
  have hlast : (slmpStep exampleSlmpConfig searched (.call (.performNodeSearch 0 true))).1 = s := hs
  rw [← hlast]
  simp [slmpStep, performCall, clmSlmpPerformNodeSearch, hsearch, hzero, hset]

/-- both are pending with number 0, and the answer to the new address goes to the node search -/
theorem not_serialsOk_clash {n : Nat} (hn : (1 : UInt16) + UInt16.ofNat n = 0) :
    ¬ SerialsOk ((slmpMachine exampleSlmpConfig).run (clmSlmpInit exampleSlmpMaster)
      (clashEvents n)).1 := by
  obtain ⟨hsearch, hsetIp⟩ := run_clashEvents hn rfl
  intro hok
  have hhandler := hok.setIp 0 endcodeSuccess hsetIp.symm
  rw [hok.nodeSearch 0 endcodeSuccess hsearch.symm] at hhandler
  cases hhandler

theorem slmp_serials_clash :
    ¬ SerialsOk ((slmpMachine exampleSlmpConfig).run (clmSlmpInit exampleSlmpMaster)
      (clashEvents 65535)).1 :=
  not_serialsOk_clash (n := 65535) (by decide)

end CLink
