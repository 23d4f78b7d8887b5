import CLink.Lib.Machine

/-!
# Moves with outputs, and the outputs since a mark

A move relates a state, the outputs of the move and the next state.

* `Star M s o t`      finitely many moves lead from `s` to `t`, with the outputs `o`;
* `Star.inv`          an invariant of the outputs so far and of the state, kept by every move;
* `since p hist`      the outputs after the last mark, where `p` says which outputs are marks;
* `Preceded p P hist` `P a y` for every mark `y`, where `a` are the outputs before it;
* `Numbered p Q hist` `Q k x` for the `k`-th mark `x`;
* `Until p P S out s` the first mark in `out` meets `P`, and until then the state meets `S`;
* `Paired r a hist`   requests `r` and answers `a` take turns, and a request comes first;
* `Pending r a hist`  the last request has no answer yet.
-/

namespace Trace
variable {σ ω : Type*}

/-! ## sequences of moves -/

inductive Star (M : σ → List ω → σ → Prop) : σ → List ω → σ → Prop where
  | refl (s : σ) : Star M s [] s
  | head {s t u : σ} {o o' : List ω} : M s o t → Star M t o' u → Star M s (o ++ o') u

namespace Star
variable {M N : σ → List ω → σ → Prop} {s t u : σ} {o o' : List ω}

theorem single (h : M s o t) : Star M s o t := by
  have h' := Star.head h (Star.refl t)
  rwa [List.append_nil] at h'

theorem trans (h : Star M s o t) (h' : Star M t o' u) : Star M s (o ++ o') u := by
  induction h with
  | refl => exact h'
  | head hm _ ih =>
    rw [List.append_assoc]
    exact .head hm (ih h')

theorem mono (hMN : ∀ s o t, M s o t → N s o t) (h : Star M s o t) : Star N s o t := by
  induction h with
  | refl s => exact .refl s
  | head hm _ ih => exact .head (hMN _ _ _ hm) ih

/-- **The invariant rule.**  `I hist s`: the outputs so far and the state. -/
theorem inv {I : List ω → σ → Prop}
    (hM : ∀ hist s o t, M s o t → I hist s → I (hist ++ o) t) (h : Star M s o t)
    (hist : List ω) (hI : I hist s) : I (hist ++ o) t := by
  induction h generalizing hist with
  | refl =>
    rw [List.append_nil]
    exact hI
  | head hm _ ih =>
    rw [← List.append_assoc]
    exact ih _ (hM _ _ _ _ hm hI)

/-- the invariant rule for the state alone -/
theorem state_inv {I : σ → Prop} (hM : ∀ s o t, M s o t → I s → I t) (h : Star M s o t)
    (hI : I s) : I t :=
  h.inv (I := fun _ s => I s) (fun _ s o t => hM s o t) [] hI

end Star

/-- the output at position `k` -/
theorem exists_output {p : ω → Bool} {k : Nat} {out : List ω} (h : (out[k]?).any p = true) :
    ∃ x, p x = true ∧ out = out.take k ++ x :: out.drop (k + 1) := by
  cases hk : out[k]? with
  | none =>
    rw [hk] at h
    cases h
  | some x =>
    rw [hk] at h
    obtain ⟨hlt, hx⟩ := List.getElem?_eq_some_iff.mp hk
    refine ⟨x, h, ?_⟩
    rw [← hx]
    simp

/-! ## outputs since a mark -/

section
variable (p : ω → Bool)

def since (hist : List ω) : List ω :=
  hist.foldl (fun l x => if p x then [] else l ++ [x]) []

theorem since_concat (hist : List ω) (x : ω) :
    since p (hist ++ [x]) = if p x then [] else since p hist ++ [x] := by
  simp only [since, List.foldl_append, List.foldl_cons, List.foldl_nil]

variable {p}

theorem since_append {o : List ω} (ho : ∀ x ∈ o, p x = false) (hist : List ω) :
    since p (hist ++ o) = since p hist ++ o := by
  induction o generalizing hist with
  | nil => simp only [List.append_nil]
  | cons x o ih =>
    have hx := ho x List.mem_cons_self
    rw [List.append_cons, ih (fun y hy => ho y (List.mem_cons_of_mem x hy)), since_concat, hx]
    simp

theorem since_mark {y : ω} (hy : p y = true) (hist : List ω) : since p (hist ++ [y]) = [] := by
  rw [since_concat, if_pos hy]

/-- later outputs, with or without marks -/
theorem mem_since_append {x : ω} {a b : List ω} (h : x ∈ since p (a ++ b)) :
    x ∈ since p a ∨ x ∈ b := by
  induction b using List.reverseRecOn with
  | nil =>
    rw [List.append_nil] at h
    exact Or.inl h
  | append_singleton b y ih =>
    rw [← List.append_assoc, since_concat] at h
    split at h
    · cases h
    · rcases List.mem_append.mp h with h | h
      · exact (ih h).imp id (List.mem_append_left _)
      · exact Or.inr (List.mem_append_right _ h)

/-- outputs that are neither marks nor looked at can be left out -/
theorem since_filter {q : ω → Bool} (hpq : ∀ x, p x = true → q x = true) (hist : List ω) :
    since p (hist.filter q) = (since p hist).filter q := by
  induction hist using List.reverseRecOn with
  | nil => rfl
  | append_singleton hist x ih =>
    rw [List.filter_append, since_concat]
    by_cases hp : p x = true
    · rw [if_pos hp, List.filter_singleton, hpq x hp]
      exact since_mark hp _
    · rw [if_neg hp, List.filter_append, List.filter_singleton]
      cases hq : q x with
      | true =>
        show since p (hist.filter q ++ [x]) = _
        rw [since_concat, if_neg hp, ih]
        rfl
      | false =>
        show since p (hist.filter q ++ []) = (since p hist).filter q ++ []
        rw [List.append_nil, List.append_nil, ih]

end

/-! ## marks and what comes before them -/

def Preceded (p : ω → Bool) (P : List ω → ω → Prop) (hist : List ω) : Prop :=
  ∀ a y c, hist = a ++ y :: c → p y = true → P a y

namespace Preceded
variable {p : ω → Bool} {P : List ω → ω → Prop} {hist o : List ω}

theorem nil : Preceded p P [] := by
  intro a y c h
  cases a <;> cases h

/-- one more output -/
theorem concat {y : ω} (h : Preceded p P hist) (hy : p y = true → P hist y) :
    Preceded p P (hist ++ [y]) := by
  intro a z c heq hz
  rcases List.eq_nil_or_concat c with rfl | ⟨c', w, rfl⟩
  · obtain ⟨rfl, hzy⟩ := List.append_inj' heq rfl
    obtain rfl := List.head_eq_of_cons_eq hzy
    exact hy hz
  · have heq' : hist ++ [y] = (a ++ z :: c') ++ [w] := by
      rw [heq, List.concat_eq_append, List.append_assoc, List.cons_append]
    exact h a z c' (List.append_inj' heq' rfl).1 hz

theorem append (h : Preceded p P hist) (ho : ∀ x ∈ o, p x = false) :
    Preceded p P (hist ++ o) := by
  induction o generalizing hist with
  | nil =>
    rw [List.append_nil]
    exact h
  | cons y o ih =>
    have hy := ho y List.mem_cons_self
    rw [List.append_cons]
    refine ih (h.concat (fun hy' => ?_)) (fun x hx => ho x (List.mem_cons_of_mem y hx))
    rw [hy] at hy'
    cases hy'

/-- left out outputs that are not marks -/
theorem of_filter {q : ω → Bool} (hpq : ∀ x, p x = true → q x = true)
    (h : Preceded p P (hist.filter q)) : Preceded p (fun a y => P (a.filter q) y) hist := by
  intro a y c heq hy
  refine h (a.filter q) y (c.filter q) ?_ hy
  rw [heq, List.filter_append, List.filter_cons, hpq y hy]
  rfl

/-- and put back -/
theorem filter {q : ω → Bool} (h : Preceded p (fun a y => P (a.filter q) y) hist) :
    Preceded p P (hist.filter q) := by
  intro a y c heq hy
  obtain ⟨l, l', rfl, rfl, hl'⟩ := List.filter_eq_append_iff.mp heq
  obtain ⟨m, m', rfl, hm, _, _⟩ := List.filter_eq_cons_iff.mp hl'
  have hbefore : (l ++ m).filter q = l.filter q := by
    rw [List.filter_append, List.filter_eq_nil_iff.mpr hm, List.append_nil]
  rw [← hbefore]
  exact h (l ++ m) y m' (List.append_assoc l m _).symm hy

end Preceded

/-! ## numbered marks -/

def Numbered (p : ω → Bool) (Q : Nat → ω → Prop) (hist : List ω) : Prop :=
  ∀ k x, (hist.filter p)[k]? = some x → Q k x

namespace Numbered
variable {p : ω → Bool} {Q : Nat → ω → Prop} {hist o : List ω}

theorem nil : Numbered p Q [] := by
  intro k x hx
  cases hx

theorem filter_silent (ho : ∀ x ∈ o, p x = false) (hist : List ω) :
    (hist ++ o).filter p = hist.filter p := by
  have hnil : o.filter p = [] := by
    apply List.filter_eq_nil_iff.mpr
    intro x hx
    rw [ho x hx]
    exact Bool.false_ne_true
  rw [List.filter_append, hnil, List.append_nil]

theorem filter_mark {y : ω} (hy : p y = true) (ho : ∀ x ∈ o, p x = false) (hist : List ω) :
    (hist ++ (o ++ [y])).filter p = hist.filter p ++ [y] := by
  rw [← List.append_assoc, List.filter_append, filter_silent ho, List.filter_singleton, hy]
  rfl

/-- outputs without a mark -/
theorem silent (h : Numbered p Q hist) (ho : ∀ x ∈ o, p x = false) : Numbered p Q (hist ++ o) := by
  intro k x hx
  rw [filter_silent ho] at hx
  exact h k x hx

/-- outputs with one mark among them -/
theorem one {y : ω} (h : Numbered p Q hist) (ho : o.filter p = [y])
    (hQ : Q (hist.filter p).length y) : Numbered p Q (hist ++ o) := by
  intro k x hx
  rw [List.filter_append, ho] at hx
  rcases Nat.lt_trichotomy k (hist.filter p).length with hlt | rfl | hgt
  · rw [List.getElem?_append_left hlt] at hx
    exact h k x hx
  · rw [List.getElem?_concat_length] at hx
    obtain rfl := Option.some.inj hx
    exact hQ
  · rw [List.getElem?_eq_none (by rw [List.length_append]; exact hgt)] at hx
    cases hx

/-- outputs that end with the next mark -/
theorem mark {y : ω} (h : Numbered p Q hist) (ho : ∀ x ∈ o, p x = false) (hy : p y = true)
    (hQ : Q (hist.filter p).length y) : Numbered p Q (hist ++ (o ++ [y])) := by
  refine h.one ?_ hQ
  have hmark := filter_mark hy ho ([] : List ω)
  rwa [List.nil_append, List.filter_nil, List.nil_append] at hmark

end Numbered

/-! ## up to the first mark -/

structure Until (p : ω → Bool) (P : ω → Prop) (S : σ → Prop) (out : List ω) (s : σ) : Prop where
  first : ∀ x, out.find? p = some x → P x
  state : out.find? p = none → S s

namespace Until
variable {p : ω → Bool} {P : ω → Prop} {S : σ → Prop} {a b : List ω} {s t : σ}

theorem silent (hno : ∀ x ∈ a, p x = false) (hs : S s) : Until p P S a s := by
  have hnone : a.find? p = none := by
    apply List.find?_eq_none.mpr
    intro x hx
    rw [hno x hx]
    exact Bool.false_ne_true
  refine ⟨?_, fun _ => hs⟩
  intro x hx
  rw [hnone] at hx
  cases hx

/-- the mark at the end of the outputs -/
theorem mark {x : ω} (hno : ∀ y ∈ a, p y = false) (hx : p x = true) (hP : P x) :
    Until p P S (a ++ [x]) s := by
  have hfirst : (a ++ [x]).find? p = some x := by
    rw [List.find?_append, List.find?_eq_none.mpr (fun y hy => by rw [hno y hy]; exact Bool.false_ne_true)]
    simp [hx]
  refine ⟨?_, ?_⟩
  · intro y hy
    rw [hfirst] at hy
    obtain rfl := Option.some.inj hy
    exact hP
  · intro hy
    rw [hfirst] at hy
    cases hy

theorem trans (h : Until p P S a s) (h' : S s → Until p P S b t) : Until p P S (a ++ b) t := by
  have happ : (a ++ b).find? p = (a.find? p).or (b.find? p) := List.find?_append
  cases ha : a.find? p with
  | none =>
    obtain ⟨hfirst, hstate⟩ := h' (h.state ha)
    rw [ha, Option.none_or] at happ
    refine ⟨?_, ?_⟩
    · rw [happ]
      exact hfirst
    · rw [happ]
      exact hstate
  | some y =>
    rw [ha, Option.some_or] at happ
    refine ⟨?_, ?_⟩
    · intro x hx
      rw [happ] at hx
      exact h.first x (ha.trans hx)
    · intro hx
      rw [happ] at hx
      cases hx

/-- a sequence of moves, with an invariant that all of them keep -/
theorem star {M : σ → List ω → σ → Prop} {J : σ → Prop} (hJ : ∀ s o t, M s o t → J s → J t)
    (hM : ∀ s o t, M s o t → J s → S s → Until p P S o t) {o : List ω} (h : Star M s o t) (hj : J s)
    (hs : S s) : Until p P S o t := by
  have hinv := h.inv (I := fun o s => J s ∧ Until p P S o s)
    (by
      rintro hist s o t hm ⟨hj, hu⟩
      exact ⟨hJ s o t hm hj, hu.trans (hM s o t hm hj)⟩)
    [] ⟨hj, silent (fun _ hx => absurd hx List.not_mem_nil) hs⟩
  exact hinv.2

end Until

/-! ## requests and answers -/

def Pending (r a : ω → Bool) (hist : List ω) : Prop := ∃ x ∈ since a hist, r x = true

structure Paired (r a : ω → Bool) (hist : List ω) : Prop where
  request : Preceded r (fun before _ => ¬ Pending r a before) hist
  answer : Preceded a (fun before _ => Pending r a before) hist

namespace Paired
variable {r a : ω → Bool} {hist o : List ω} {x : ω}

theorem nil : Paired r a [] := ⟨Preceded.nil, Preceded.nil⟩

theorem not_pending_nil : ¬ Pending r a ([] : List ω) := by
  rintro ⟨x, hx, _⟩
  exact List.not_mem_nil hx

/-- outputs that are neither -/
theorem pending_silent (hr : ∀ x ∈ o, r x = false) (ha : ∀ x ∈ o, a x = false) :
    Pending r a (hist ++ o) ↔ Pending r a hist := by
  have hsince := since_append ha hist
  constructor
  · rintro ⟨x, hx, hrx⟩
    rw [hsince] at hx
    rcases List.mem_append.mp hx with hx | hx
    · exact ⟨x, hx, hrx⟩
    · rw [hr x hx] at hrx
      cases hrx
  · rintro ⟨x, hx, hrx⟩
    refine ⟨x, ?_, hrx⟩
    rw [hsince]
    exact List.mem_append_left _ hx

theorem silent (h : Paired r a hist) (hr : ∀ x ∈ o, r x = false) (ha : ∀ x ∈ o, a x = false) :
    Paired r a (hist ++ o) :=
  ⟨h.request.append hr, h.answer.append ha⟩

theorem pending_send (hr : r x = true) (ha : a x = false) : Pending r a (hist ++ [x]) := by
  refine ⟨x, ?_, hr⟩
  rw [since_append (fun y hy => List.mem_singleton.mp hy ▸ ha)]
  exact List.mem_append_right _ List.mem_cons_self

theorem send (h : Paired r a hist) (hp : ¬ Pending r a hist) (ha : a x = false) :
    Paired r a (hist ++ [x]) := by
  refine ⟨h.request.concat (fun _ => hp), h.answer.concat (fun hx => ?_)⟩
  rw [ha] at hx
  cases hx

theorem not_pending_answer (ha : a x = true) : ¬ Pending r a (hist ++ [x]) := by
  rintro ⟨y, hy, _⟩
  rw [since_mark ha] at hy
  exact List.not_mem_nil hy

theorem answered (h : Paired r a hist) (hp : Pending r a hist) (hr : r x = false) :
    Paired r a (hist ++ [x]) := by
  refine ⟨h.request.concat (fun hx => ?_), h.answer.concat (fun _ => hp)⟩
  rw [hr] at hx
  cases hx

end Paired

end Trace
