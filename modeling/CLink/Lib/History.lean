import CLink.Lib.Machine

/-!
# The events of a run so far

* `Latest P hist x`       `x` is the latest event of the history with `P before x`, where `before`
                          are the events before it;
* `latest_mark`           an event of the kind is the latest one;
* `latest_skip`           any other event changes nothing;
* `Machine.run_history`   an invariant of the events so far and of the state.
-/

namespace History
variable {ε : Type*}

def Latest (P : List ε → ε → Prop) (hist : List ε) (x : ε) : Prop :=
  ∃ before after, hist = before ++ x :: after ∧ P before x
    ∧ ∀ a y b, after = a ++ y :: b → ¬ P (before ++ x :: a) y

variable {P : List ε → ε → Prop} {hist : List ε} {x y : ε}

theorem not_latest_nil : ¬ Latest P [] x := by
  rintro ⟨before, after, h, _⟩
  cases before <;> cases h

theorem Latest.mem (h : Latest P hist x) : x ∈ hist := by
  obtain ⟨before, after, rfl, _⟩ := h
  exact List.mem_append_right _ List.mem_cons_self

theorem latest_mark (hy : P hist y) : Latest P (hist ++ [y]) x ↔ x = y := by
  constructor
  · rintro ⟨before, after, h, hx, hlast⟩
    rcases List.eq_nil_or_concat after with rfl | ⟨after', z, rfl⟩
    · obtain ⟨_, hyx⟩ := List.append_inj' h rfl
      exact (List.head_eq_of_cons_eq hyx).symm
    · rw [List.concat_eq_append, ← List.cons_append, ← List.append_assoc] at h
      obtain ⟨rfl, hyz⟩ := List.append_inj' h rfl
      obtain rfl := List.head_eq_of_cons_eq hyz
      exact absurd hy (hlast after' y [] List.concat_eq_append)
  · rintro rfl
    refine ⟨hist, [], rfl, hy, ?_⟩
    intro a z b h
    cases a <;> cases h

theorem latest_skip (hy : ¬ P hist y) : Latest P (hist ++ [y]) x ↔ Latest P hist x := by
  constructor
  · rintro ⟨before, after, h, hx, hlast⟩
    rcases List.eq_nil_or_concat after with rfl | ⟨after', z, rfl⟩
    · obtain ⟨rfl, hyx⟩ := List.append_inj' h rfl
      obtain rfl := List.head_eq_of_cons_eq hyx
      exact absurd hx hy
    · rw [List.concat_eq_append, ← List.cons_append, ← List.append_assoc] at h
      obtain ⟨rfl, _⟩ := List.append_inj' h rfl
      refine ⟨before, after', rfl, hx, ?_⟩
      intro a w b hafter
      refine hlast a w (b ++ [z]) ?_
      rw [List.concat_eq_append, hafter, List.append_assoc, List.cons_append]
  · rintro ⟨before, after, rfl, hx, hlast⟩
    refine ⟨before, after ++ [y], by rw [List.append_assoc, List.cons_append], hx, ?_⟩
    intro a w b h
    rcases List.eq_nil_or_concat b with rfl | ⟨b', z, rfl⟩
    · obtain ⟨rfl, hyw⟩ := List.append_inj' h rfl
      obtain rfl := List.head_eq_of_cons_eq hyw
      exact hy
    · rw [List.concat_eq_append, ← List.cons_append, ← List.append_assoc] at h
      obtain ⟨rfl, _⟩ := List.append_inj' h rfl
      exact hlast a w b' rfl

theorem Latest.unique (h : Latest P hist x) (h' : Latest P hist y) : x = y := by
  induction hist using List.reverseRecOn with
  | nil => exact absurd h not_latest_nil
  | append_singleton hist z ih =>
    by_cases hz : P hist z
    · exact ((latest_mark hz).mp h).trans ((latest_mark hz).mp h').symm
    · exact ih ((latest_skip hz).mp h) ((latest_skip hz).mp h')

end History

namespace Machine
variable {σ ε ω : Type*} (m : Machine σ ε ω)

theorem run_concat (s : σ) (es : List ε) (e : ε) :
    m.run s (es ++ [e])
      = ((m.step (m.run s es).1 e).1, (m.run s es).2 ++ (m.step (m.run s es).1 e).2) := by
  rw [run_append, run_cons, run_nil, List.append_nil]

/-- **The invariant rule with the events so far.** -/
theorem run_history {I : List ε → σ → Prop} {s : σ} (h0 : I [] s)
    (hstep : ∀ es e t, I es t → I (es ++ [e]) (m.step t e).1) (es : List ε) :
    I es (m.run s es).1 := by
  induction es using List.reverseRecOn with
  | nil => exact h0
  | append_singleton es e ih =>
    rw [run_concat]
    exact hstep es e _ ih

end Machine
