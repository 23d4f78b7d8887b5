import Mathlib.Data.List.Chain

/-!
# Events that come often enough

`p` says which events of a run are polls, and `time` when an event happens.

* `times p time es`              the times of the polls;
* `last p time start es`         the time of the last poll, or of the start;
* `Regular p time gap start es`  two polls are less than `gap` apart;
* `Regular.left`, `.soon`, `.last_le`   the run without its last event, and that event.
-/

namespace Polling
variable {ε : Type*} (p : ε → Bool) (time : ε → Nat)

def times (es : List ε) : List Nat := (es.filter p).map time

def last (start : Nat) (es : List ε) : Nat := (times p time es).getLast?.getD start

/-- every event is after the start, and two polls are less than `gap` apart -/
structure Regular (gap start : Nat) (es : List ε) : Prop where
  since : ∀ e ∈ es, start ≤ time e
  often : (start :: times p time es).IsChain (fun t u => u < t + gap)

variable {p time} {gap start : Nat} {es : List ε} {e : ε}

theorem times_poll (he : p e = true) : times p time (es ++ [e]) = times p time es ++ [time e] := by
  simp [times, he]

theorem times_other (he : p e = false) : times p time (es ++ [e]) = times p time es := by
  simp [times, he]

theorem last_poll (he : p e = true) : last p time start (es ++ [e]) = time e := by
  unfold last
  rw [times_poll he, List.getLast?_concat]
  rfl

theorem last_other (he : p e = false) : last p time start (es ++ [e]) = last p time start es := by
  unfold last
  rw [times_other he]

namespace Regular

theorem left (h : Regular p time gap start (es ++ [e])) : Regular p time gap start es := by
  refine ⟨fun x hx => h.since x (List.mem_append_left _ hx), ?_⟩
  cases he : p e with
  | true =>
    have hoften := h.often
    rw [times_poll he, ← List.cons_append] at hoften
    exact hoften.left_of_append
  | false =>
    rw [← times_other he]
    exact h.often

/-- the last poll is not long ago -/
theorem soon (h : Regular p time gap start (es ++ [e])) (he : p e = true) :
    time e < last p time start es + gap := by
  have hoften := h.often
  rw [times_poll he, ← List.cons_append] at hoften
  exact (List.isChain_append.mp hoften).2.2 _ List.getLast?_cons _ rfl

theorem last_le (h : Regular p time gap start (es ++ [e])) (hes : ∀ x ∈ es, time x ≤ time e) :
    last p time start es ≤ time e := by
  unfold last
  cases hlast : (times p time es).getLast? with
  | none => exact h.since e (List.mem_append_right _ (List.mem_singleton_self e))
  | some t =>
    obtain ⟨x, hx, rfl⟩ := List.mem_map.mp (List.mem_of_getLast? hlast)
    exact hes x (List.mem_filter.mp hx).1

end Regular

end Polling
