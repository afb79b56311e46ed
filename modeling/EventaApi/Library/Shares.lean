import Mathlib.Algebra.BigOperators.Group.List.Basic
import Mathlib.Data.List.Nodup

/-!
# Shares of a sum

Where every item belongs to exactly one owner, a sum over the items is the sum over
the owners of what each of them holds.
-/
namespace EventaApi.Library

variable {α β M : Type} [AddCommMonoid M]

/-- What one value comes to, added once for each owner it has. -/
theorem sum_map_ite_owned (owners : List α) (owns : α → Prop) [DecidablePred owns] (value : M) :
    (owners.map fun owner => if owns owner then value else 0).sum =
      (owners.filter fun owner => decide (owns owner)).length • value := by
  induction owners with
  | nil => simp
  | cons owner rest ih =>
    by_cases mine : owns owner
    · simp only [List.map_cons, List.sum_cons, mine, if_true, ih, decide_true, List.filter_cons_of_pos,
        List.length_cons]
      rw [succ_nsmul']
    · simp [mine, ih]

theorem sum_map_owned (owners : List α) (owns : α → β → Prop)
    [∀ owner item, Decidable (owns owner item)] (weight : β → M) (items : List β)
    (once : ∀ item ∈ items, (owners.filter fun owner => decide (owns owner item)).length = 1) :
    (owners.map fun owner =>
      ((items.filter fun item => decide (owns owner item)).map weight).sum).sum =
        (items.map weight).sum := by
  induction items with
  | nil => simp
  | cons item rest ih =>
    have others := ih fun other member => once other (List.mem_cons_of_mem _ member)
    have mine := once item List.mem_cons_self
    calc
      _ = (owners.map fun owner => (if owns owner item then weight item else 0) +
            ((rest.filter fun item => decide (owns owner item)).map weight).sum).sum := by
        congr 1
        refine List.map_congr_left fun owner _ => ?_
        by_cases held : owns owner item <;> simp [held]
      _ = weight item + (rest.map weight).sum := by
        rw [List.sum_map_add, sum_map_ite_owned, mine, one_nsmul, others]
      _ = _ := by rw [List.map_cons, List.sum_cons]

/-- A duplicate-free list names a value it has exactly once. -/
theorem length_filter_eq [DecidableEq α] {values : List α} {value : α}
    (distinct : values.Nodup) (member : value ∈ values) {picks : α → Prop} [DecidablePred picks]
    (only : ∀ other, picks other ↔ other = value) :
    (values.filter fun other => decide (picks other)).length = 1 := by
  have same : (fun other => decide (picks other)) = fun other => other == value := by
    funext other
    rw [Bool.eq_iff_iff]
    simp [only]
  rw [same, ← List.count_eq_length_filter]
  exact List.count_eq_one_of_mem distinct member

end EventaApi.Library
