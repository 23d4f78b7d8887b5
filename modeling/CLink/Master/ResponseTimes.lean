import CLink.Master.Step

/-!
# Response time statistics

`clm_iefb_statistics_update_response_time` records a response time while the number of samples and
the sum of the earlier ones are below their limits.  The limit of the sum does not look at the value
that is added.

* `feedResponseTimes`       the statistics after a sequence of response times, and the recorded ones;
* `MeasuredTime`            what the statistics say about the recorded response times;
* `SumOverflows`            a response time that is recorded and takes the sum beyond 32 bits;
* `measuredTime_iff`        the statistics are right if and only if there is none.
-/

namespace CLink

/-! ## sequences of response times -/

/-- the guard of `clm_iefb_statistics_update_response_time` -/
def takesSample (maxNumberOfSamples : UInt16) (st : Statistics) : Bool :=
  st.measuredTime.numberOfSamples < maxNumberOfSamples.toUInt32
    ∧ st.measuredTime.sum < 0xFFFFFFFF / 2

/-- one response time, with the list of those recorded so far -/
def recordResponseTime (maxNumberOfSamples : UInt16) (s : Statistics × List UInt32)
    (responseTime : UInt32) : Statistics × List UInt32 :=
  (clmIefbStatisticsUpdateResponseTime s.1 maxNumberOfSamples responseTime,
    if takesSample maxNumberOfSamples s.1 then s.2 ++ [responseTime] else s.2)

/-- the statistics after `clm_iefb_statistics_clear` and the response times `times` -/
def feedResponseTimes (maxNumberOfSamples : UInt16) (st : Statistics) (times : List UInt32) :
    Statistics × List UInt32 :=
  times.foldl (recordResponseTime maxNumberOfSamples) (clmIefbStatisticsClear st, [])

/-- the sum without a limit -/
def totalTime (times : List UInt32) : Nat := (times.map UInt32.toNat).sum

/-- the statistics of the recorded response times, which are the first ones of `times` -/
structure MeasuredTime (maxNumberOfSamples : UInt16) (times recorded : List UInt32)
    (m : TimeStatistics) : Prop where
  initial : recorded <+: times
  count : m.numberOfSamples.toNat = recorded.length
  bounded : m.numberOfSamples.toNat ≤ maxNumberOfSamples.toNat
  sum : m.sum.toNat = totalTime recorded
  min : m.min ∈ recorded ∧ ∀ t ∈ recorded, m.min ≤ t
  max : m.max ∈ recorded ∧ ∀ t ∈ recorded, t ≤ m.max
  average : m.average.toNat = totalTime recorded / recorded.length
  ordered : m.min ≤ m.average ∧ m.average ≤ m.max

/-- the first `i` response times leave room for one more sample, and this one is too large -/
def SumOverflows (maxNumberOfSamples : UInt16) (times : List UInt32) : Prop :=
  ∃ i, i < times.length ∧ i < maxNumberOfSamples.toNat
    ∧ totalTime (times.take i) < 0xFFFFFFFF / 2 ∧ 2^32 ≤ totalTime (times.take (i+1))

/-! ## one response time -/

section
variable {maxNumberOfSamples : UInt16} {st : Statistics} {times : List UInt32} {t : UInt32}

theorem totalTime_concat : totalTime (times ++ [t]) = totalTime times + t.toNat := by
  unfold totalTime
  rw [List.map_append, List.sum_append, List.map_singleton, List.sum_singleton]

theorem totalTime_mono {l l' : List UInt32} (h : l <+: l') : totalTime l ≤ totalTime l' := by
  obtain ⟨rest, rfl⟩ := h
  unfold totalTime
  rw [List.map_append, List.sum_append]
  exact Nat.le_add_right _ _

theorem SumOverflows.concat (h : SumOverflows maxNumberOfSamples times) :
    SumOverflows maxNumberOfSamples (times ++ [t]) := by
  obtain ⟨i, hi, hmax, hroom, hlarge⟩ := h
  refine ⟨i, ?_, hmax, ?_, ?_⟩
  · rw [List.length_append]
    omega
  · rw [List.take_append_of_le_length (by omega)]
    exact hroom
  · rw [List.take_append_of_le_length (by omega)]
    exact hlarge

theorem feedResponseTimes_concat :
    feedResponseTimes maxNumberOfSamples st (times ++ [t])
      = recordResponseTime maxNumberOfSamples (feedResponseTimes maxNumberOfSamples st times) t := by
  unfold feedResponseTimes
  rw [List.foldl_append, List.foldl_cons, List.foldl_nil]

/-- the limits, as numbers -/
theorem takesSample_iff :
    takesSample maxNumberOfSamples st = true
      ↔ st.measuredTime.numberOfSamples.toNat < maxNumberOfSamples.toNat
        ∧ st.measuredTime.sum.toNat < 0xFFFFFFFF / 2 := by
  unfold takesSample
  rw [decide_eq_true_eq, UInt32.lt_iff_toNat_lt, UInt32.lt_iff_toNat_lt, UInt16.toNat_toUInt32]
  rfl

theorem recordResponseTime_stopped {s : Statistics × List UInt32}
    (h : takesSample maxNumberOfSamples s.1 = false) :
    recordResponseTime maxNumberOfSamples s t = s := by
  have hsame : clmIefbStatisticsUpdateResponseTime s.1 maxNumberOfSamples t = s.1 := by
    unfold clmIefbStatisticsUpdateResponseTime
    exact if_neg (decide_eq_false_iff_not.mp h)
  unfold recordResponseTime
  rw [hsame, h]
  rfl

/-- a response time that is recorded -/
theorem recordResponseTime_taken {s : Statistics × List UInt32}
    (h : takesSample maxNumberOfSamples s.1 = true) :
    recordResponseTime maxNumberOfSamples s t
      = ({ s.1 with measuredTime :=
            { numberOfSamples := s.1.measuredTime.numberOfSamples + 1
              max := if t > s.1.measuredTime.max then t else s.1.measuredTime.max
              min := if t < s.1.measuredTime.min then t else s.1.measuredTime.min
              sum := s.1.measuredTime.sum + t
              average := (s.1.measuredTime.sum + t) / (s.1.measuredTime.numberOfSamples + 1) } },
          s.2 ++ [t]) := by
  unfold recordResponseTime clmIefbStatisticsUpdateResponseTime
  rw [h]
  simp only [if_pos (decide_eq_true_eq.mp h), if_true]

end

/-! ## all response times -/

/-- the statistics and the recorded response times, with the sum cut to 32 bits -/
structure Recorded (maxNumberOfSamples : UInt16) (times : List UInt32) (s : Statistics × List UInt32) :
    Prop where
  initial : s.2 <+: times
  stopped : s.2 = times ∨ takesSample maxNumberOfSamples s.1 = false
  count : s.1.measuredTime.numberOfSamples.toNat = s.2.length
  bounded : s.2.length ≤ maxNumberOfSamples.toNat
  sum : s.1.measuredTime.sum.toNat = totalTime s.2 % 2^32
  least : ∀ t ∈ s.2, s.1.measuredTime.min ≤ t
  greatest : ∀ t ∈ s.2, t ≤ s.1.measuredTime.max
  min : s.1.measuredTime.min ∈ s.2 ∨ s.2 = [] ∧ s.1.measuredTime.min = 0xFFFFFFFF
  max : s.1.measuredTime.max ∈ s.2 ∨ s.2 = [] ∧ s.1.measuredTime.max = 0
  average : s.2 ≠ [] → s.1.measuredTime.average.toNat = s.1.measuredTime.sum.toNat / s.2.length
  fits : totalTime s.2 < 2^32 ∨ SumOverflows maxNumberOfSamples times

section
variable {maxNumberOfSamples : UInt16} {times : List UInt32} {t : UInt32}
  {s : Statistics × List UInt32}

theorem Recorded.skip (h : Recorded maxNumberOfSamples times s)
    (hstop : takesSample maxNumberOfSamples s.1 = false) :
    Recorded maxNumberOfSamples (times ++ [t]) s :=
  { h with
    initial := h.initial.trans (List.prefix_append _ _)
    stopped := Or.inr hstop
    fits := h.fits.imp id SumOverflows.concat }

/-- the sample is within the limits of the number of samples and of the sum before it -/
theorem Recorded.take (h : Recorded maxNumberOfSamples times s)
    (htake : takesSample maxNumberOfSamples s.1 = true) :
    Recorded maxNumberOfSamples (times ++ [t]) (recordResponseTime maxNumberOfSamples s t) := by
  obtain ⟨hroom, hsum⟩ := takesSample_iff.mp htake
  have hall : s.2 = times := by
    rcases h.stopped with hall | hstop
    · exact hall
    · rw [htake] at hstop
      cases hstop
  have hcount := h.count
  have hmax := maxNumberOfSamples.toNat_lt
  have hsamples : (s.1.measuredTime.numberOfSamples + 1).toNat = s.2.length + 1 := by
    rw [UInt32.toNat_add, hcount]
    show (s.2.length + 1) % 2^32 = _
    exact Nat.mod_eq_of_lt (by omega)
  have hnewSum : (s.1.measuredTime.sum + t).toNat = totalTime (s.2 ++ [t]) % 2^32 := by
    rw [UInt32.toNat_add, h.sum, totalTime_concat, Nat.mod_add_mod]
  have hlen : (s.2 ++ [t]).length = s.2.length + 1 := List.length_append
  rw [recordResponseTime_taken htake]
  refine ⟨?_, Or.inl ?_, ?_, ?_, hnewSum, ?_, ?_, Or.inl ?_, Or.inl ?_, ?_, ?_⟩
  · exact hall ▸ List.prefix_rfl
  · rw [hall]
  · rw [hlen]
    exact hsamples
  · rw [hlen]
    omega
  · intro x hx
    show (if t < s.1.measuredTime.min then t else s.1.measuredTime.min) ≤ x
    rcases List.mem_append.mp hx with hx | hx
    · have hle := h.least x hx
      split
      · rename_i hlt
        exact UInt32.le_trans (UInt32.le_of_lt hlt) hle
      · exact hle
    · rw [List.mem_singleton.mp hx]
      split
      · exact UInt32.le_refl t
      · rename_i hlt
        exact UInt32.not_lt.mp hlt
  · intro x hx
    show x ≤ (if t > s.1.measuredTime.max then t else s.1.measuredTime.max)
    rcases List.mem_append.mp hx with hx | hx
    · have hle := h.greatest x hx
      split
      · rename_i hlt
        exact UInt32.le_trans hle (UInt32.le_of_lt hlt)
      · exact hle
    · rw [List.mem_singleton.mp hx]
      split
      · exact UInt32.le_refl t
      · rename_i hlt
        exact UInt32.not_lt.mp hlt
  · show (if t < s.1.measuredTime.min then t else s.1.measuredTime.min) ∈ s.2 ++ [t]
    rcases h.min with hmem | ⟨_, hmin⟩
    · split
      · exact List.mem_append_right _ List.mem_cons_self
      · exact List.mem_append_left _ hmem
    · -- the cleared minimum is the largest value
      have ht : (if t < s.1.measuredTime.min then t else s.1.measuredTime.min) = t := by
        have hlt := t.toNat_lt
        split
        · rfl
        · rename_i hge
          rw [hmin] at hge ⊢
          rw [← UInt32.toNat_inj]
          rw [UInt32.lt_iff_toNat_lt] at hge
          have : (0xFFFFFFFF : UInt32).toNat = 2^32 - 1 := rfl
          omega
      rw [ht]
      exact List.mem_append_right _ List.mem_cons_self
  · show (if t > s.1.measuredTime.max then t else s.1.measuredTime.max) ∈ s.2 ++ [t]
    rcases h.max with hmem | ⟨_, hmax0⟩
    · split
      · exact List.mem_append_right _ List.mem_cons_self
      · exact List.mem_append_left _ hmem
    · have ht : (if t > s.1.measuredTime.max then t else s.1.measuredTime.max) = t := by
        split
        · rfl
        · rename_i hge
          rw [hmax0] at hge ⊢
          rw [gt_iff_lt, UInt32.lt_iff_toNat_lt] at hge
          rw [← UInt32.toNat_inj]
          have : (0 : UInt32).toNat = 0 := rfl
          omega
      rw [ht]
      exact List.mem_append_right _ List.mem_cons_self
  · intro _
    show ((s.1.measuredTime.sum + t) / (s.1.measuredTime.numberOfSamples + 1)).toNat = _
    rw [UInt32.toNat_div, hsamples, hlen]
  · by_cases hfit : totalTime (s.2 ++ [t]) < 2^32
    · exact Or.inl hfit
    -- this is the sample that is too large
    rcases h.fits with hbefore | hover
    · right
      have hsum' := h.sum
      rw [Nat.mod_eq_of_lt hbefore, hall] at hsum'
      rw [hall] at hfit hcount
      refine ⟨times.length, ?_, by omega, ?_, ?_⟩
      · rw [List.length_append]
        exact Nat.lt_succ_self _
      · rw [List.take_left', ← hsum']
        · exact hsum
        · rfl
      · rw [List.take_of_length_le (by rw [List.length_append]; exact Nat.le_refl _)]
        omega
    · exact Or.inr hover.concat

theorem feedResponseTimes_recorded (maxNumberOfSamples : UInt16) (st : Statistics)
    (times : List UInt32) :
    Recorded maxNumberOfSamples times (feedResponseTimes maxNumberOfSamples st times) := by
  induction times using List.reverseRecOn with
  | nil =>
    exact ⟨List.prefix_rfl, Or.inl rfl, rfl, Nat.zero_le _, rfl,
      fun _ ht => absurd ht List.not_mem_nil, fun _ ht => absurd ht List.not_mem_nil,
      Or.inr ⟨rfl, rfl⟩, Or.inr ⟨rfl, rfl⟩, fun h => absurd rfl h, Or.inl (Nat.two_pow_pos 32)⟩
  | append_singleton times t ih =>
    rw [feedResponseTimes_concat]
    cases htake : takesSample maxNumberOfSamples
        (feedResponseTimes maxNumberOfSamples st times).1 with
    | true => exact ih.take htake
    | false =>
      rw [recordResponseTime_stopped htake]
      exact ih.skip htake

/-- samples stay recorded -/
theorem feedResponseTimes_prefix (maxNumberOfSamples : UInt16) (st : Statistics)
    (a b : List UInt32) : (feedResponseTimes maxNumberOfSamples st a).2
      <+: (feedResponseTimes maxNumberOfSamples st (a ++ b)).2 := by
  induction b using List.reverseRecOn with
  | nil =>
    rw [List.append_nil]
  | append_singleton b t ih =>
    rw [← List.append_assoc, feedResponseTimes_concat]
    refine ih.trans ?_
    unfold recordResponseTime
    split
    · exact List.prefix_append _ _
    · exact List.prefix_rfl

/-- below the limits every response time is recorded -/
theorem feedResponseTimes_all (st : Statistics) (hroom : times.length ≤ maxNumberOfSamples.toNat)
    (hsum : ∀ i, i < times.length → totalTime (times.take i) < 0xFFFFFFFF / 2) :
    (feedResponseTimes maxNumberOfSamples st times).2 = times := by
  induction times using List.reverseRecOn with
  | nil => rfl
  | append_singleton times t ih =>
    have hlen : (times ++ [t]).length = times.length + 1 := List.length_append
    have hbefore := ih (by omega) (by
      intro i hi
      have h := hsum i (by omega)
      rwa [List.take_append_of_le_length (Nat.le_of_lt hi)] at h)
    have hrec := feedResponseTimes_recorded maxNumberOfSamples st times
    have hlast := hsum times.length (by omega)
    rw [List.take_left' rfl] at hlast
    have htake : takesSample maxNumberOfSamples
        (feedResponseTimes maxNumberOfSamples st times).1 = true := by
      rw [takesSample_iff, hrec.count, hrec.sum, hbefore]
      exact ⟨by omega, Nat.lt_of_le_of_lt (Nat.mod_le _ _) hlast⟩
    rw [feedResponseTimes_concat, recordResponseTime_taken htake, hbefore]

theorem SumOverflows.total (h : SumOverflows maxNumberOfSamples times) (st : Statistics) :
    2^32 ≤ totalTime (feedResponseTimes maxNumberOfSamples st times).2 := by
  obtain ⟨i, hi, hmax, hroom, hlarge⟩ := h
  have hall : (feedResponseTimes maxNumberOfSamples st (times.take (i+1))).2 = times.take (i+1) := by
    have hlen : (times.take (i+1)).length = i + 1 := by
      rw [List.length_take]
      omega
    refine feedResponseTimes_all st (by omega) (fun j hj => ?_)
    rw [List.take_take, Nat.min_eq_left (by omega)]
    refine Nat.lt_of_le_of_lt (totalTime_mono ?_) hroom
    exact (List.take_prefix_take_left (by omega))
  have hmono := feedResponseTimes_prefix maxNumberOfSamples st (times.take (i+1))
    (times.drop (i+1))
  rw [List.take_append_drop, hall] at hmono
  exact Nat.le_trans hlarge (totalTime_mono hmono)

end

/-! ## the statistics -/

/-- the average of the samples lies between their bounds -/
theorem totalTime_div_bounds {recorded : List UInt32} (hne : recorded ≠ []) {a b : UInt32}
    (ha : ∀ t ∈ recorded, a ≤ t) (hb : ∀ t ∈ recorded, t ≤ b) :
    a.toNat ≤ totalTime recorded / recorded.length
      ∧ totalTime recorded / recorded.length ≤ b.toNat := by
  have hpos : 0 < recorded.length := List.length_pos_iff.mpr hne
  have hlower := List.card_nsmul_le_sum (recorded.map UInt32.toNat) a.toNat (by
    intro x hx
    obtain ⟨t, ht, rfl⟩ := List.mem_map.mp hx
    exact UInt32.le_iff_toNat_le.mp (ha t ht))
  have hupper := List.sum_le_card_nsmul (recorded.map UInt32.toNat) b.toNat (by
    intro x hx
    obtain ⟨t, ht, rfl⟩ := List.mem_map.mp hx
    exact UInt32.le_iff_toNat_le.mp (hb t ht))
  rw [List.length_map, smul_eq_mul] at hlower hupper
  constructor
  · rw [Nat.le_div_iff_mul_le hpos, Nat.mul_comm]
    exact hlower
  · exact Nat.div_le_of_le_mul hupper

/-- **Response time statistics.**  They are right for the recorded response times, if and only if no
recorded response time takes the sum beyond 32 bits. -/
theorem measuredTime_iff (maxNumberOfSamples : UInt16) (st : Statistics) (times : List UInt32) :
    ((feedResponseTimes maxNumberOfSamples st times).1.measuredTime.numberOfSamples ≠ 0 →
      MeasuredTime maxNumberOfSamples times (feedResponseTimes maxNumberOfSamples st times).2
        (feedResponseTimes maxNumberOfSamples st times).1.measuredTime)
    ↔ ¬ SumOverflows maxNumberOfSamples times := by
  have hrec := feedResponseTimes_recorded maxNumberOfSamples st times
  have hsome : (feedResponseTimes maxNumberOfSamples st times).1.measuredTime.numberOfSamples ≠ 0
      ↔ (feedResponseTimes maxNumberOfSamples st times).2 ≠ [] := by
    rw [ne_eq, ← UInt32.toNat_inj, hrec.count]
    exact not_congr List.length_eq_zero_iff
  constructor
  · intro hall hover
    have hlarge := hover.total st
    have hne : (feedResponseTimes maxNumberOfSamples st times).2 ≠ [] := by
      intro hnil
      rw [hnil] at hlarge
      exact absurd hlarge (by decide)
    have hsum := (hall (hsome.mpr hne)).sum
    have hlt := UInt32.toNat_lt (feedResponseTimes maxNumberOfSamples st times).1.measuredTime.sum
    omega
  · intro hno hsamples
    have hne := hsome.mp hsamples
    have hsum := hrec.sum
    rw [Nat.mod_eq_of_lt (hrec.fits.resolve_right hno)] at hsum
    have haverage := hrec.average hne
    rw [hsum] at haverage
    obtain ⟨hlower, hupper⟩ := totalTime_div_bounds hne hrec.least hrec.greatest
    rw [← haverage] at hlower hupper
    refine ⟨hrec.initial, hrec.count, ?_, hsum, ⟨?_, hrec.least⟩, ⟨?_, hrec.greatest⟩, haverage,
      UInt32.le_iff_toNat_le.mpr hlower, UInt32.le_iff_toNat_le.mpr hupper⟩
    · rw [hrec.count]
      exact hrec.bounded
    · exact hrec.min.resolve_right (fun h => hne h.1)
    · exact hrec.max.resolve_right (fun h => hne h.1)

/-- two samples, and a sum of 0 -/
theorem largeSample_wrapsSum :
    ¬ ∀ (maxNumberOfSamples : UInt16) (st : Statistics) (times : List UInt32),
      (feedResponseTimes maxNumberOfSamples st times).1.measuredTime.numberOfSamples ≠ 0 →
      MeasuredTime maxNumberOfSamples times (feedResponseTimes maxNumberOfSamples st times).2
        (feedResponseTimes maxNumberOfSamples st times).1.measuredTime := by
  intro h
  have hsum := (h 1000 .zero [0x7FFFFFFE, 0x80000002] (by decide)).sum
  exact absurd hsum (by decide)

end CLink
