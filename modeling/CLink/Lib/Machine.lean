import Mathlib.Tactic

/-!
# Machines with outputs and their runs

A machine takes one event and answers with its next state and a list of outputs.

* `run`         the final state and all outputs of a list of events;
* `Steps c`     every step of the run meets the condition `c` on the state before it and its event;
* `run_inv`     an invariant of the state and of the outputs so far, kept by every step that meets
                the condition, holds at the end of every run;
* `run_filter`  a relation of two runs that differ in skipped events;
* `stamped`     the machine with stamped events, say with the times at which they happen;
* `muted`       the machine with marked events, of which it drops the outputs;
* `run_insert`  the marked events of a run leave no trace: neither in the state, up to a relation,
                nor in the other outputs of a kind;
* `Table`       transition tables: a list of rows over the default "stay, no action".
-/

/-- one deterministic step: next state and outputs -/
structure Machine (σ ε ω : Type*) where
  step : σ → ε → σ × List ω

namespace Machine
variable {σ ε ω : Type*} (m : Machine σ ε ω)

/-- the final state and the outputs of a run -/
def run : σ → List ε → σ × List ω
  | s, [] => (s, [])
  | s, e :: es => ((run (m.step s e).1 es).1, (m.step s e).2 ++ (run (m.step s e).1 es).2)

/-- every step of the run meets `c` -/
def Steps (c : σ → ε → Prop) : σ → List ε → Prop
  | _, [] => True
  | s, e :: es => c s e ∧ Steps c (m.step s e).1 es

theorem run_nil (s : σ) : m.run s [] = (s, []) := rfl
theorem run_cons (s : σ) (e : ε) (es : List ε) :
    m.run s (e :: es)
      = ((m.run (m.step s e).1 es).1, (m.step s e).2 ++ (m.run (m.step s e).1 es).2) := rfl

theorem run_append (s : σ) (a b : List ε) :
    m.run s (a ++ b)
      = ((m.run (m.run s a).1 b).1, (m.run s a).2 ++ (m.run (m.run s a).1 b).2) := by
  induction a generalizing s with
  | nil => rfl
  | cons e a ih =>
    rw [List.cons_append, run_cons, ih, run_cons]
    simp only [List.append_assoc]

theorem steps_append {c : σ → ε → Prop} (s : σ) (a b : List ε) :
    m.Steps c s (a ++ b) ↔ m.Steps c s a ∧ m.Steps c (m.run s a).1 b := by
  induction a generalizing s with
  | nil => simp [Steps, run_nil]
  | cons e a ih => simp only [List.cons_append, Steps, run_cons, ih, and_assoc]

theorem Steps.mono {c d : σ → ε → Prop} (h : ∀ s e, c s e → d s e) {s : σ} {es : List ε}
    (hs : m.Steps c s es) : m.Steps d s es := by
  induction es generalizing s with
  | nil => trivial
  | cons e es ih => exact ⟨h s e hs.1, ih hs.2⟩

/-- a condition that every step meets -/
theorem Steps.of_all {c : σ → ε → Prop} (h : ∀ s e, c s e) (s : σ) (es : List ε) : m.Steps c s es := by
  induction es generalizing s with
  | nil => trivial
  | cons e es ih => exact ⟨h s e, ih _⟩

/-- a condition on the events alone -/
theorem Steps.of_mem {c : σ → ε → Prop} {es : List ε} (h : ∀ e ∈ es, ∀ s, c s e) (s : σ) :
    m.Steps c s es := by
  induction es generalizing s with
  | nil => trivial
  | cons e es ih =>
    exact ⟨h e List.mem_cons_self s, ih (fun e' he' => h e' (List.mem_cons_of_mem e he')) _⟩

theorem Steps.and {c d : σ → ε → Prop} {s : σ} {es : List ε} (hs : m.Steps c s es)
    (hs' : m.Steps d s es) : m.Steps (fun s e => c s e ∧ d s e) s es := by
  induction es generalizing s with
  | nil => trivial
  | cons e es ih => exact ⟨⟨hs.1, hs'.1⟩, ih hs.2 hs'.2⟩

/-- **The invariant rule.**  `I hist s`: the outputs so far and the state. -/
theorem run_inv {c : σ → ε → Prop} {I : List ω → σ → Prop}
    (hstep : ∀ hist s e, I hist s → c s e → I (hist ++ (m.step s e).2) (m.step s e).1)
    (hist : List ω) {s : σ} {es : List ε} (h0 : I hist s) (hc : m.Steps c s es) :
    I (hist ++ (m.run s es).2) (m.run s es).1 := by
  induction es generalizing hist s with
  | nil =>
    rw [run_nil, List.append_nil]
    exact h0
  | cons e es ih =>
    rw [run_cons, ← List.append_assoc]
    exact ih _ (hstep hist s e h0 hc.1) hc.2

/-- the invariant rule for the state alone -/
theorem run_state_inv {c : σ → ε → Prop} {I : σ → Prop}
    (hstep : ∀ s e, I s → c s e → I (m.step s e).1) {s : σ} {es : List ε} (h0 : I s)
    (hc : m.Steps c s es) : I (m.run s es).1 :=
  m.run_inv (I := fun _ t => I t) (fun _ t e h hc' => hstep t e h hc') [] h0 hc

/-- a property of all outputs holds of the outputs of every step -/
theorem Steps.of_outputs {Q : ω → Prop} {s : σ} {es : List ε} (h : ∀ x ∈ (m.run s es).2, Q x) :
    m.Steps (fun s e => ∀ x ∈ (m.step s e).2, Q x) s es := by
  induction es generalizing s with
  | nil => trivial
  | cons e es ih =>
    rw [run_cons] at h
    refine ⟨?_, ih ?_⟩
    · intro x hx
      exact h x (List.mem_append_left _ hx)
    · intro x hx
      exact h x (List.mem_append_right _ hx)

/-- **Two runs that differ in skipped events.**  `R hist s hist' t` is kept by a skipped event of
either run and by any other event of both. -/
theorem run_filter {c : σ → ε → Prop} {skip : ε → Bool} {R : List ω → σ → List ω → σ → Prop}
    (hleft : ∀ hist s hist' t e, R hist s hist' t → c s e → skip e = true →
      R (hist ++ (m.step s e).2) (m.step s e).1 hist' t)
    (hright : ∀ hist s hist' t e, R hist s hist' t → c t e → skip e = true →
      R hist s (hist' ++ (m.step t e).2) (m.step t e).1)
    (hboth : ∀ hist s hist' t e, R hist s hist' t → c s e → c t e → skip e = false →
      R (hist ++ (m.step s e).2) (m.step s e).1 (hist' ++ (m.step t e).2) (m.step t e).1)
    {hist hist' : List ω} {s t : σ} {es es' : List ε} (h0 : R hist s hist' t)
    (hc : m.Steps c s es) (hc' : m.Steps c t es')
    (heq : es.filter (fun e => !skip e) = es'.filter (fun e => !skip e)) :
    R (hist ++ (m.run s es).2) (m.run s es).1 (hist' ++ (m.run t es').2) (m.run t es').1 := by
  induction es generalizing hist hist' s t es' with
  | nil =>
    rw [run_nil, List.append_nil]
    induction es' generalizing hist' t with
    | nil =>
      rw [run_nil, List.append_nil]
      exact h0
    | cons e es' ih =>
      cases hs : skip e with
      | true =>
        rw [List.filter_cons, hs] at heq
        rw [run_cons, ← List.append_assoc]
        exact ih (hright _ _ _ _ e h0 hc'.1 hs) hc'.2 heq
      | false =>
        rw [List.filter_cons, hs] at heq
        cases heq
  | cons e es ih =>
    cases hs : skip e with
    | true =>
      rw [List.filter_cons, hs] at heq
      rw [run_cons, ← List.append_assoc]
      exact ih (hleft _ _ _ _ e h0 hc.1 hs) hc.2 hc' heq
    | false =>
      induction es' generalizing hist' t with
      | nil =>
        rw [List.filter_cons, hs] at heq
        cases heq
      | cons e' es' ih' =>
        cases hs' : skip e' with
        | true =>
          rw [List.filter_cons (x := e'), hs'] at heq
          rw [run_cons (s := t), ← List.append_assoc]
          exact ih' (hright _ _ _ _ e' h0 hc'.1 hs') hc'.2 heq
        | false =>
          rw [List.filter_cons, List.filter_cons, hs, hs'] at heq
          have heads : e :: es.filter (fun e => !skip e) = e' :: es'.filter (fun e => !skip e) := heq
          obtain ⟨rfl, htails⟩ := List.cons.inj heads
          rw [run_cons, run_cons, ← List.append_assoc, ← List.append_assoc]
          exact ih (hboth _ _ _ _ e h0 hc.1 hc'.1 hs) hc.2 hc'.2 htails

/-! ## conditions and states -/

def remembering : Machine (List ω × σ) ε ω where
  step s e := ((s.1 ++ (m.step s.2 e).2, (m.step s.2 e).1), (m.step s.2 e).2)

theorem remembering_run (hist : List ω) (s : σ) (es : List ε) :
    (m.remembering.run (hist, s) es).1 = (hist ++ (m.run s es).2, (m.run s es).1) := by
  induction es generalizing hist s with
  | nil =>
    rw [run_nil, run_nil, List.append_nil]
  | cons e es ih =>
    rw [run_cons, run_cons, ← List.append_assoc]
    exact ih _ _

/-- `c` is what a step has to meet for `P` to go on; `I` is kept by every step -/
theorem steps_iff {c : σ → ε → Prop} {I P : σ → Prop} (hI : ∀ s e, I s → I (m.step s e).1)
    (h : ∀ s e, I s → P s → (P (m.step s e).1 ↔ c s e)) {s : σ} (hs : I s) (hP : P s)
    (es : List ε) : m.Steps c s es ↔ ∀ a b, es = a ++ b → P (m.run s a).1 := by
  induction es generalizing s with
  | nil =>
    refine iff_of_true trivial (fun a b hab => ?_)
    rw [(List.append_eq_nil_iff.mp hab.symm).1]
    exact hP
  | cons e es ih =>
    constructor
    · rintro ⟨hc, hsteps⟩ a b hab
      cases a with
      | nil => exact hP
      | cons e' a =>
        rw [List.cons_append] at hab
        obtain ⟨rfl, htail⟩ := List.cons.inj hab
        exact (ih (hI s e hs) ((h s e hs hP).mpr hc)).mp hsteps a b htail
    · intro hall
      have hnext : P (m.step s e).1 := hall [e] es rfl
      refine ⟨(h s e hs hP).mp hnext, (ih (hI s e hs) hnext).mpr ?_⟩
      intro a b hab
      exact hall (e :: a) b (by rw [hab, List.cons_append])

/-! ## stamped events -/

/-- the machine with stamps on the events, say the times at which they happen; every output gets the
stamp of its event -/
def stamped (τ : Type*) : Machine σ (τ × ε) (τ × ω) where
  step s e := ((m.step s e.2).1, (m.step s e.2).2.map (Prod.mk e.1))

/-- the stamps do not change the run -/
theorem stamped_run {τ : Type*} (s : σ) (es : List (τ × ε)) :
    ((m.stamped τ).run s es).1 = (m.run s (es.map Prod.snd)).1 := by
  induction es generalizing s with
  | nil => rfl
  | cons e es ih =>
    rw [run_cons, List.map_cons, run_cons]
    exact ih _

/-- every output has the stamp of an event -/
theorem stamped_mem {τ : Type*} {s : σ} {es : List (τ × ε)} {x : τ × ω}
    (hx : x ∈ ((m.stamped τ).run s es).2) : ∃ e ∈ es, e.1 = x.1 := by
  induction es generalizing s with
  | nil => cases hx
  | cons e es ih =>
    rw [run_cons] at hx
    rcases List.mem_append.mp hx with hx | hx
    · obtain ⟨y, _, rfl⟩ := List.mem_map.mp hx
      exact ⟨e, List.mem_cons_self, rfl⟩
    · obtain ⟨e', he', h⟩ := ih hx
      exact ⟨e', List.mem_cons_of_mem e he', h⟩

/-! ## marked events -/

/-- an event with a mark still moves the machine, but its outputs are dropped -/
def muted : Machine σ (ε × Bool) ω where
  step s e := ((m.step s e.1).1, if e.2 then [] else (m.step s e.1).2)

/-- the events without a mark -/
def unmarked (es : List (ε × Bool)) : List ε := (es.filter (fun e => !e.2)).map Prod.fst

/-- **Inserted events.**  `R s t` of the runs with and without the marked events: a marked event
keeps it on its side, any other event of both keeps it with equal outputs of kind `q`. -/
theorem run_insert {c : σ → ε → Prop} {R : σ → σ → Prop} {q : ω → Bool}
    (hskip : ∀ s t e, R s t → c s e → R (m.step s e).1 t)
    (hstep : ∀ s t e, R s t → R (m.step s e).1 (m.step t e).1
      ∧ (m.step s e).2.filter q = (m.step t e).2.filter q)
    {s t : σ} {es : List (ε × Bool)} (h0 : R s t)
    (hc : m.muted.Steps (fun s e => e.2 = true → c s e.1) s es) :
    R (m.run s (es.map Prod.fst)).1 (m.run t (unmarked es)).1
      ∧ (m.muted.run s es).2.filter q = (m.run t (unmarked es)).2.filter q := by
  induction es generalizing s t with
  | nil => exact ⟨h0, rfl⟩
  | cons e es ih =>
    obtain ⟨e, mark⟩ := e
    cases mark with
    | true => exact ih (hskip s t e h0 (hc.1 rfl)) hc.2
    | false =>
      obtain ⟨hR, hout⟩ := hstep s t e h0
      obtain ⟨hrun, houts⟩ := ih hR hc.2
      have hunmarked : unmarked ((e, false) :: es) = e :: unmarked es := rfl
      rw [hunmarked, List.map_cons, run_cons, run_cons, run_cons]
      refine ⟨hrun, ?_⟩
      rw [List.filter_append, List.filter_append, ← houts, ← hout]
      rfl

end Machine

/-! ## transition tables -/

/-- one row: in `state`, `event` leads to `next` and runs `action` -/
structure Table.Row (S E A : Type*) where
  state : S
  event : E
  next : S
  action : Option A

/-- the filled table: stay without action, overwritten row by row -/
def Table.fill {S E A : Type*} [DecidableEq S] [DecidableEq E] (rows : List (Table.Row S E A)) :
    S → E → S × Option A :=
  rows.foldl
    (fun m r => fun s e => if s = r.state ∧ e = r.event then (r.next, r.action) else m s e)
    (fun s _ => (s, none))
