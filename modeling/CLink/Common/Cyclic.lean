import CLink.Common.Request
import Mathlib.Data.Nat.Bitwise

/-!
# Station numbers, transmission bits and the list of slave ids

The remaining shared functions of `cl_iefb.c`.

* `clIefbExtractMyTransmissionState_set`   a transmission bit reads back as it was set, the bits of
                                           other stations stay;
* `clIefbAnalyzeSlaveIds_found`            a slave finds its first station and counts its stations;
* `clIefbAnalyzeSlaveIds_sound`            the station it finds carries its address;
* `clIefbAnalyzeSlaveIds_notFound`         it finds nothing when its address is not in the list.
-/

namespace CLink
open Loop

/-! ## cyclic transmission state -/

/-- `BIT (station_no - 1) & UINT16_MAX` -/
def stationMask (stationNo : UInt16) : UInt16 := 1 <<< (stationNo - 1)

def clIefbSetCyclicTransmissionState (cyclicTransmissionState slaveStationNo : UInt16)
    (state : Bool) : UInt16 :=
  if slaveStationNo = 0 ∨ slaveStationNo > maxOccupiedStationsPerGroup then cyclicTransmissionState
  else if state then cyclicTransmissionState ||| stationMask slaveStationNo
  else cyclicTransmissionState &&& ~~~ stationMask slaveStationNo

def clIefbExtractMyTransmissionState (cyclicTransmissionState mySlaveStationNo : UInt16) : Bool :=
  if ¬ occupiedStationsInRange mySlaveStationNo then false
  else cyclicTransmissionState &&& stationMask mySlaveStationNo > 0

theorem occupiedStationsInRange_iff (n : UInt16) :
    occupiedStationsInRange n = true ↔ 1 ≤ n.toNat ∧ n.toNat ≤ 16 := by
  simp only [occupiedStationsInRange, decide_eq_true_eq, UInt16.lt_iff_toNat_lt, gt_iff_lt,
    show minOccupiedStationsPerGroup.toNat = 1 from rfl,
    show maxOccupiedStationsPerGroup.toNat = 16 from rfl]
  omega

/-- the mask of a station in range has the one bit `s-1` -/
theorem stationMask_toNat {s : UInt16} (h1 : 1 ≤ s.toNat) (h16 : s.toNat ≤ 16) :
    (stationMask s).toNat = 2^(s.toNat - 1) := by
  obtain ⟨n, hn, rfl⟩ : ∃ n : Nat, n < 16 ∧ s = UInt16.ofNat (n+1) := by
    refine ⟨s.toNat - 1, by omega, ?_⟩
    apply UInt16.toNat_inj.mp
    rw [UInt16.toNat_ofNat']
    omega
  clear h1 h16
  interval_cases n <;> rfl

theorem clIefbExtractMyTransmissionState_zero (s : UInt16) :
    clIefbExtractMyTransmissionState 0 s = false := by
  unfold clIefbExtractMyTransmissionState
  split
  · rfl
  · rw [UInt16.zero_and]
    rfl

/-- the bit of station `s` as a bit of the word -/
theorem clIefbExtractMyTransmissionState_testBit {w s : UInt16} (h1 : 1 ≤ s.toNat)
    (h16 : s.toNat ≤ 16) :
    clIefbExtractMyTransmissionState w s = w.toNat.testBit (s.toNat - 1) := by
  have hs : ¬ ¬ occupiedStationsInRange s = true := by
    rw [occupiedStationsInRange_iff]
    omega
  unfold clIefbExtractMyTransmissionState
  rw [if_neg hs, Bool.eq_iff_iff, decide_eq_true_eq, gt_iff_lt, UInt16.lt_iff_toNat_lt,
    UInt16.toNat_and, stationMask_toNat h1 h16, Nat.and_two_pow]
  have hp : 0 < 2^(s.toNat - 1) := by positivity
  cases w.toNat.testBit (s.toNat - 1)
  · simp
  · simp

theorem clIefbExtractMyTransmissionState_set {w s t : UInt16} (b : Bool)
    (hs : 1 ≤ s.toNat ∧ s.toNat ≤ 16) (ht : 1 ≤ t.toNat ∧ t.toNat ≤ 16) :
    clIefbExtractMyTransmissionState (clIefbSetCyclicTransmissionState w s b) t
      = if t = s then b else clIefbExtractMyTransmissionState w t := by
  have hrange : ¬ (s = 0 ∨ s > maxOccupiedStationsPerGroup) := by
    rintro (h | h)
    · rw [h] at hs
      exact absurd hs.1 (by decide)
    · have h' : 16 < s.toNat := UInt16.lt_iff_toNat_lt.mp h
      omega
  have hidx : (s.toNat - 1 = t.toNat - 1) ↔ t = s := by
    rw [← UInt16.toNat_inj]
    omega
  rw [clIefbExtractMyTransmissionState_testBit ht.1 ht.2,
    clIefbExtractMyTransmissionState_testBit ht.1 ht.2, clIefbSetCyclicTransmissionState,
    if_neg hrange]
  cases b with
  | true =>
    rw [if_pos rfl, UInt16.toNat_or, stationMask_toNat hs.1 hs.2, Nat.testBit_or,
      Nat.testBit_two_pow]
    by_cases h : t = s
    · simp [hidx.mpr h, h]
    · simp [hidx, h]
  | false =>
    have hnot : (~~~ stationMask s).toNat = 2^16 - (2^(s.toNat - 1) + 1) := by
      rw [UInt16.toNat_not, stationMask_toNat hs.1 hs.2]
      show 2^16 - 1 - _ = _
      omega
    have hlt : 2^(s.toNat - 1) < 2^16 := Nat.pow_lt_pow_right (by omega) (by omega)
    rw [if_neg (by simp), UInt16.toNat_and, hnot, Nat.testBit_and,
      Nat.testBit_two_pow_sub_succ hlt, Nat.testBit_two_pow]
    have h16 : t.toNat - 1 < 16 := by omega
    by_cases h : t = s
    · simp [hidx.mpr h, h]
    · simp [hidx, h, h16]

/-! ## the list of slave ids -/

/-- the outputs of `cl_iefb_analyze_slave_ids` -/
structure SlaveIdsInfo where
  foundMySlaveId : Bool
  mySlaveStationNo : UInt16
  impliedOccupationCount : UInt16
  deriving DecidableEq, Repr

def SlaveIdsInfo.none : SlaveIdsInfo := ⟨false, 0, 0⟩

/-- the local variables of the loop over the stations -/
structure SlaveIdsScan where
  info : SlaveIdsInfo
  lookForMultistation : Bool

/-- one round of the loop; `none` is `goto error` -/
def analyzeStation (mySlaveId : IpAddr) (totalOccupied : UInt16) (slaveIds : Nat → IpAddr)
    (absSlaveStation : UInt16) (s : SlaveIdsScan) : Option SlaveIdsScan :=
  match clIefbRequestGetSlaveId slaveIds absSlaveStation totalOccupied with
  | .none => .none
  | some reqSlaveId =>
    if reqSlaveId = mySlaveId then
      if s.info.foundMySlaveId = false then some ⟨⟨true, absSlaveStation, 1⟩, true⟩
      else .none
    else if s.lookForMultistation then
      if reqSlaveId = multistationIndicator then
        some { s with info := { s.info with
          impliedOccupationCount := s.info.impliedOccupationCount + 1 } }
      else some { s with lookForMultistation := false }
    else some s

/-- `none` is the return value -1, where the outputs are those of `SlaveIdsInfo.none` -/
def clIefbAnalyzeSlaveIds (mySlaveId : IpAddr) (totalOccupied : UInt16)
    (slaveIds : Nat → IpAddr) : Option SlaveIdsInfo :=
  if mySlaveId = ipaddrInvalid then none
  else if totalOccupied < minOccupiedStationsPerGroup then none
  else
    (loop (fun i s => s.bind (analyzeStation mySlaveId totalOccupied slaveIds (UInt16.ofNat (i+1))))
      totalOccupied.toNat (some ⟨.none, false⟩)).map (·.info)

/-- the loop reads the id of station `i+1` at index `i` -/
theorem clIefbRequestGetSlaveId_loop (slaveIds : Nat → IpAddr) {n : UInt16}
    (hn : 1 ≤ n.toNat ∧ n.toNat ≤ 16) {i : Nat} (hi : i < n.toNat) :
    clIefbRequestGetSlaveId slaveIds (UInt16.ofNat (i+1)) n = some (slaveIds i) := by
  have hi' : (UInt16.ofNat (i+1)).toNat = i+1 := by
    rw [UInt16.toNat_ofNat']
    omega
  have hr : ¬ ¬ occupiedStationsInRange n = true := by
    rw [occupiedStationsInRange_iff]
    omega
  unfold clIefbRequestGetSlaveId
  rw [if_neg hr, if_neg, hi', Nat.add_sub_cancel]
  simp only [UInt16.lt_iff_toNat_lt, gt_iff_lt, hi',
    show minOccupiedStationsPerGroup.toNat = 1 from rfl,
    show maxOccupiedStationsPerGroup.toNat = 16 from rfl]
  omega

section
variable {mySlaveId : IpAddr} {n st : UInt16} {slaveIds : Nat → IpAddr} {id : IpAddr}
  (hget : clIefbRequestGetSlaveId slaveIds st n = some id)
include hget

/-- the address of another device outside a run -/
theorem analyzeStation_other {info : SlaveIdsInfo} (h : id ≠ mySlaveId) :
    analyzeStation mySlaveId n slaveIds st ⟨info, false⟩ = some ⟨info, false⟩ := by
  simp only [analyzeStation, hget, if_neg h, Bool.false_eq_true, if_false]

/-- the first occurrence of the own address -/
theorem analyzeStation_first (h : id = mySlaveId) :
    analyzeStation mySlaveId n slaveIds st ⟨.none, false⟩ = some ⟨⟨true, st, 1⟩, true⟩ := by
  simp only [analyzeStation, hget, if_pos h, SlaveIdsInfo.none, if_true]

/-- a further station of the own run -/
theorem analyzeStation_more {f : Bool} {q c : UInt16} (h : id ≠ mySlaveId)
    (hm : id = multistationIndicator) :
    analyzeStation mySlaveId n slaveIds st ⟨⟨f, q, c⟩, true⟩ = some ⟨⟨f, q, c+1⟩, true⟩ := by
  simp only [analyzeStation, hget, if_neg h, if_pos hm, if_true]

/-- the station after the own run -/
theorem analyzeStation_stop {info : SlaveIdsInfo} (h : id ≠ mySlaveId)
    (hm : id ≠ multistationIndicator) :
    analyzeStation mySlaveId n slaveIds st ⟨info, true⟩ = some ⟨info, false⟩ := by
  simp only [analyzeStation, hget, if_neg h, if_neg hm, if_true]

end

theorem clIefbAnalyzeSlaveIds_notFound {mySlaveId : IpAddr} {n : UInt16} {slaveIds : Nat → IpAddr}
    (hmy : mySlaveId ≠ ipaddrInvalid) (hn : 1 ≤ n.toNat ∧ n.toNat ≤ 16)
    (h : ∀ i, i < n.toNat → slaveIds i ≠ mySlaveId) :
    clIefbAnalyzeSlaveIds mySlaveId n slaveIds = some .none := by
  have hmin : ¬ n < minOccupiedStationsPerGroup := by
    rw [UInt16.lt_iff_toNat_lt]
    show ¬ n.toNat < 1
    omega
  have hloop : loop (fun i s => s.bind (analyzeStation mySlaveId n slaveIds (UInt16.ofNat (i+1))))
      n.toNat (some ⟨.none, false⟩) = some ⟨.none, false⟩ := by
    refine loop_inv (n := n.toNat) (fun _ s => s = some (⟨.none, false⟩ : SlaveIdsScan)) rfl ?_
    rintro i s hi rfl
    exact analyzeStation_other (clIefbRequestGetSlaveId_loop slaveIds hn hi) (h i hi)
  unfold clIefbAnalyzeSlaveIds
  rw [if_neg hmy, if_neg hmin, hloop]
  rfl

/-- what a scan that found the own address says: it is at this station and at no other -/
theorem clIefbAnalyzeSlaveIds_sound {mySlaveId : IpAddr} {n : UInt16} {slaveIds : Nat → IpAddr}
    {info : SlaveIdsInfo} (hn : 1 ≤ n.toNat ∧ n.toNat ≤ 16)
    (h : clIefbAnalyzeSlaveIds mySlaveId n slaveIds = some info)
    (hfound : info.foundMySlaveId = true) :
    (1 ≤ info.mySlaveStationNo.toNat ∧ info.mySlaveStationNo.toNat ≤ n.toNat)
      ∧ ∀ i, i < n.toNat → (slaveIds i = mySlaveId ↔ i + 1 = info.mySlaveStationNo.toNat) := by
  unfold clIefbAnalyzeSlaveIds at h
  split at h
  · cases h
  split at h
  · cases h
  obtain ⟨s, hloop, rfl⟩ := Option.map_eq_some_iff.mp h
  have hinv := loop_bind_inv hloop
    (fun i s => (s.info.foundMySlaveId = false ∧ ∀ j, j < i → slaveIds j ≠ mySlaveId)
      ∨ s.info.foundMySlaveId = true
        ∧ (1 ≤ s.info.mySlaveStationNo.toNat ∧ s.info.mySlaveStationNo.toNat ≤ i)
        ∧ ∀ j, j < i → (slaveIds j = mySlaveId ↔ j + 1 = s.info.mySlaveStationNo.toNat))
    (Or.inl ⟨rfl, fun j hj => absurd hj (Nat.not_lt_zero j)⟩) ?_
  · rcases hinv with ⟨hnot, _⟩ | ⟨_, hinv⟩
    · rw [hnot] at hfound
      cases hfound
    · exact hinv
  · intro i s t hi hP hstep
    have hget := clIefbRequestGetSlaveId_loop slaveIds hn hi
    have hi' : (UInt16.ofNat (i+1)).toNat = i+1 := by
      rw [UInt16.toNat_ofNat']
      omega
    by_cases hown : slaveIds i = mySlaveId
    · -- the first occurrence, or the scan fails
      simp only [analyzeStation, hget, if_pos hown] at hstep
      split at hstep
      · rename_i hnot
        cases hstep
        rcases hP with ⟨_, hP⟩ | ⟨htrue, _⟩
        · refine Or.inr ⟨rfl, ?_, ?_⟩
          · simp only [hi']
            omega
          · intro j hj
            simp only [hi']
            rcases Nat.lt_succ_iff_lt_or_eq.mp hj with hlt | rfl
            · exact ⟨fun hj' => absurd hj' (hP j hlt), fun hj' => by omega⟩
            · exact ⟨fun _ => rfl, fun _ => hown⟩
        · rw [htrue] at hnot
          cases hnot
      · cases hstep
    · -- another address leaves the station as it is
      have hsame : t.info.foundMySlaveId = s.info.foundMySlaveId
          ∧ t.info.mySlaveStationNo = s.info.mySlaveStationNo := by
        simp only [analyzeStation, hget, if_neg hown] at hstep
        split at hstep
        · split at hstep <;> (cases hstep; exact ⟨rfl, rfl⟩)
        · cases hstep
          exact ⟨rfl, rfl⟩
      rw [hsame.1, hsame.2]
      rcases hP with ⟨hnot, hP⟩ | ⟨htrue, hrange, hP⟩
      · refine Or.inl ⟨hnot, ?_⟩
        intro j hj
        rcases Nat.lt_succ_iff_lt_or_eq.mp hj with hlt | rfl
        · exact hP j hlt
        · exact hown
      · refine Or.inr ⟨htrue, by omega, ?_⟩
        intro j hj
        rcases Nat.lt_succ_iff_lt_or_eq.mp hj with hlt | rfl
        · exact hP j hlt
        · exact ⟨fun hj' => absurd hj' hown, fun hj' => by omega⟩

/-- what a scan that found the own address says: its stations are stations of the group -/
theorem clIefbAnalyzeSlaveIds_fits {mySlaveId : IpAddr} {n : UInt16} {slaveIds : Nat → IpAddr}
    {info : SlaveIdsInfo} (hn : 1 ≤ n.toNat ∧ n.toNat ≤ 16)
    (h : clIefbAnalyzeSlaveIds mySlaveId n slaveIds = some info)
    (hfound : info.foundMySlaveId = true) :
    info.mySlaveStationNo.toNat - 1 + info.impliedOccupationCount.toNat ≤ n.toNat := by
  unfold clIefbAnalyzeSlaveIds at h
  split at h
  · cases h
  split at h
  · cases h
  obtain ⟨s, hloop, rfl⟩ := Option.map_eq_some_iff.mp h
  have hinv := loop_bind_inv hloop
    (fun i s => (s.info.foundMySlaveId = false ∧ s.lookForMultistation = false)
      ∨ s.info.foundMySlaveId = true
        ∧ s.info.mySlaveStationNo.toNat - 1 + s.info.impliedOccupationCount.toNat ≤ i)
    (Or.inl ⟨rfl, rfl⟩) ?_
  · rcases hinv with ⟨hnot, _⟩ | ⟨_, hinv⟩
    · rw [hnot] at hfound
      cases hfound
    · exact hinv
  · intro i s t hi hP hstep
    have hget := clIefbRequestGetSlaveId_loop slaveIds hn hi
    have hi' : (UInt16.ofNat (i+1)).toNat = i+1 := by
      rw [UInt16.toNat_ofNat']
      omega
    have hone : (1 : UInt16).toNat = 1 := rfl
    simp only [analyzeStation, hget] at hstep
    split at hstep
    · -- the first station
      split at hstep
      · cases hstep
        refine Or.inr ⟨rfl, ?_⟩
        simp only [hi', hone]
        omega
      · cases hstep
    split at hstep
    · rename_i hlook
      have hfits : s.info.foundMySlaveId = true
          ∧ s.info.mySlaveStationNo.toNat - 1 + s.info.impliedOccupationCount.toNat ≤ i := by
        rcases hP with ⟨_, hnot⟩ | hfits
        · rw [hlook] at hnot
          cases hnot
        · exact hfits
      split at hstep
      · -- one more station
        cases hstep
        refine Or.inr ⟨hfits.1, ?_⟩
        have hadd : (s.info.impliedOccupationCount + 1).toNat
            = s.info.impliedOccupationCount.toNat + 1 := by
          rw [UInt16.toNat_add, hone]
          omega
        simp only [hadd]
        omega
      · cases hstep
        exact Or.inr ⟨hfits.1, le_trans hfits.2 (Nat.le_succ i)⟩
    · cases hstep
      rcases hP with hnot | ⟨hyes, hle⟩
      · exact Or.inl hnot
      · exact Or.inr ⟨hyes, le_trans hle (Nat.le_succ i)⟩

/-- the run of a device: its address at index `p`, then `m-1` indicators, then something else -/
structure SlaveRun (slaveIds : Nat → IpAddr) (mySlaveId : IpAddr) (n p m : Nat) : Prop where
  pos : 1 ≤ m
  le : p + m ≤ n
  first : slaveIds p = mySlaveId
  rest : ∀ i, p < i → i < p + m → slaveIds i = multistationIndicator
  stop : p + m < n → slaveIds (p + m) ≠ multistationIndicator
  once : ∀ i, i < n → i ≠ p → slaveIds i ≠ mySlaveId

theorem SlaveRun.congr {slaveIds slaveIds' : Nat → IpAddr} {mySlaveId : IpAddr} {n p m : Nat}
    (h : SlaveRun slaveIds mySlaveId n p m) (heq : ∀ i, i < n → slaveIds' i = slaveIds i) :
    SlaveRun slaveIds' mySlaveId n p m := by
  have hle := h.le
  have hpos := h.pos
  refine ⟨hpos, hle, ?_, ?_, ?_, ?_⟩
  · rw [heq p (by omega)]
    exact h.first
  · intro i h1 h2
    rw [heq i (by omega)]
    exact h.rest i h1 h2
  · intro hlt
    rw [heq _ hlt]
    exact h.stop hlt
  · intro i hi hne
    rw [heq i hi]
    exact h.once i hi hne

theorem clIefbAnalyzeSlaveIds_found {mySlaveId : IpAddr} {n : UInt16} {slaveIds : Nat → IpAddr}
    {p m : Nat} (hmy : mySlaveId ≠ ipaddrInvalid) (hn : 1 ≤ n.toNat ∧ n.toNat ≤ 16)
    (hr : SlaveRun slaveIds mySlaveId n.toNat p m) :
    clIefbAnalyzeSlaveIds mySlaveId n slaveIds
      = some ⟨true, UInt16.ofNat (p+1), UInt16.ofNat m⟩ := by
  have hmin : ¬ n < minOccupiedStationsPerGroup := by
    rw [UInt16.lt_iff_toNat_lt]
    show ¬ n.toNat < 1
    omega
  -- before the run nothing is found, inside it the count grows, after it the scan is over
  have hloop := loop_inv (n := n.toNat)
    (f := fun i s => s.bind (analyzeStation mySlaveId n slaveIds (UInt16.ofNat (i+1))))
    (s := some ⟨.none, false⟩)
    (fun i s => s = if i ≤ p then some ⟨.none, false⟩
      else if i ≤ p + m then some ⟨⟨true, UInt16.ofNat (p+1), UInt16.ofNat (i-p)⟩, true⟩
      else some ⟨⟨true, UInt16.ofNat (p+1), UInt16.ofNat m⟩, false⟩)
    (by rw [if_pos (Nat.zero_le p)])
    (by
      rintro i s hi rfl
      have hget := clIefbRequestGetSlaveId_loop slaveIds hn hi
      have hpos := hr.pos
      rcases Nat.lt_trichotomy i p with h | h | h
      · rw [if_pos (by omega), if_pos (by omega)]
        exact analyzeStation_other hget (hr.once i hi (by omega))
      · subst h
        rw [if_pos (le_refl i), if_neg (by omega), if_pos (by omega), Nat.add_sub_cancel_left]
        exact analyzeStation_first hget hr.first
      · have hne : slaveIds i ≠ mySlaveId := hr.once i hi (by omega)
        rw [if_neg (show ¬ i ≤ p by omega), if_neg (show ¬ i + 1 ≤ p by omega)]
        rcases Nat.lt_trichotomy i (p+m) with h' | h' | h'
        · have e : UInt16.ofNat (i + 1 - p) = UInt16.ofNat (i - p) + 1 := by
            rw [show i + 1 - p = (i - p) + 1 by omega, UInt16.ofNat_add]
            rfl
          rw [if_pos (by omega), if_pos (by omega), e]
          exact analyzeStation_more hget hne (hr.rest i h h')
        · subst h'
          rw [if_pos (le_refl _), if_neg (by omega), Nat.add_sub_cancel_left]
          exact analyzeStation_stop hget hne (hr.stop hi)
        · rw [if_neg (by omega), if_neg (by omega)]
          exact analyzeStation_other hget hne)
  have hle := hr.le
  have hpos := hr.pos
  unfold clIefbAnalyzeSlaveIds
  rw [if_neg hmy, if_neg hmin, hloop, if_neg (by omega)]
  by_cases h : n.toNat ≤ p + m
  · rw [if_pos h, show n.toNat - p = m by omega]
    rfl
  · rw [if_neg h]
    rfl

/-! ## timeouts -/

abbrev minTimeout : UInt16 := 1
abbrev defaultTimeout : UInt32 := 500
abbrev minTimeoutCount : UInt16 := 1
abbrev defaultTimeoutCount : UInt32 := 3

/-- the product is taken in 32 bits -/
def clCalculateTotalTimeoutUs (timeoutValue parallelOffTimeoutCount : UInt16) : UInt64 :=
  let timeout := if timeoutValue < minTimeout then defaultTimeout else timeoutValue.toUInt32
  let count :=
    if parallelOffTimeoutCount < minTimeoutCount then defaultTimeoutCount
    else parallelOffTimeoutCount.toUInt32
  (timeout * count).toUInt64 * 1000

end CLink
