import Mathlib.Algebra.BigOperators.Group.List.Basic
import Mathlib.Data.List.Dedup

/-!
# Joins of tables, and groups

The rows of a join are pairs, in the order of the rows on the left. Where a row meets at most one
other, as on a primary key or among rows that are distinct, joining neither multiplies nor, in a
left join, drops it. Every row is in one group, so what is summed by group sums to the whole.
-/
namespace EventaApi.Library

variable {α β : Type}

/-- Each row with every row it meets. -/
def innerJoin (left : List α) (right : List β) (meets : α → β → Bool) : List (α × β) :=
  left.flatMap fun row => (right.filter (meets row)).map fun other => (row, other)

/-- Each row with every row it meets, and by itself where it meets none. -/
def leftJoin (left : List α) (right : List β) (meets : α → β → Bool) : List (α × Option β) :=
  left.flatMap fun row =>
    match right.filter (meets row) with
    | [] => [(row, none)]
    | found => found.map fun other => (row, some other)

/-- No row on the left meets two on the right. -/
def MeetsOne (right : List β) (meets : α → β → Bool) : Prop :=
  right.Pairwise fun other other' => ∀ row, meets row other = true → ¬ meets row other' = true

variable {left : List α} {right : List β} {meets : α → β → Bool}

theorem meetsOne_of_key {κ : Type} {key : β → κ} {wanted : α → κ}
    (unique : right.Pairwise fun other other' => key other ≠ key other')
    (sound : ∀ row other, meets row other = true → key other = wanted row) :
    MeetsOne right meets := by
  apply unique.imp
  intro other other' apart row met met'
  exact apart ((sound row other met).trans (sound row other' met').symm)

theorem MeetsOne.filter_eq (one : MeetsOne right meets) (row : α) :
    right.filter (meets row) = (right.find? (meets row)).toList := by
  have apart := List.Pairwise.filter (meets row) one
  have first : (right.filter (meets row)).head? = right.find? (meets row) := List.head?_filter
  cases found : right.filter (meets row) with
  | nil =>
    rw [found] at first
    rw [← first]
    rfl
  | cons other rest =>
    have none : rest = [] := by
      apply List.eq_nil_iff_forall_not_mem.mpr
      intro other' member
      have met : other ∈ right.filter (meets row) := by
        rw [found]
        exact List.mem_cons_self
      have met' : other' ∈ right.filter (meets row) := by
        rw [found]
        exact List.mem_cons_of_mem _ member
      rw [found] at apart
      exact List.rel_of_pairwise_cons apart member row (List.mem_filter.mp met).2
        (List.mem_filter.mp met').2
    rw [found] at first
    rw [← first, none]
    rfl

theorem MeetsOne.innerJoin_eq (one : MeetsOne right meets) : innerJoin left right meets =
    left.filterMap fun row => (right.find? (meets row)).map fun other => (row, other) := by
  induction left with
  | nil => rfl
  | cons row rest ih =>
    have step : innerJoin (row :: rest) right meets =
        (right.filter (meets row)).map (fun other => (row, other)) ++
          innerJoin rest right meets := rfl
    rw [step, ih, one.filter_eq, List.filterMap_cons]
    cases right.find? (meets row) <;> rfl

theorem mem_innerJoin {row : α} {other : β} : (row, other) ∈ innerJoin left right meets ↔
    row ∈ left ∧ other ∈ right ∧ meets row other = true := by
  unfold innerJoin
  rw [List.mem_flatMap]
  constructor
  · rintro ⟨row', member, joined⟩
    obtain ⟨other', met, same⟩ := List.mem_map.mp joined
    obtain ⟨rfl, rfl⟩ := Prod.mk.injEq _ _ _ _ ▸ same
    exact ⟨member, List.mem_filter.mp met⟩
  · rintro ⟨member, met⟩
    exact ⟨row, member, List.mem_map.mpr ⟨other, List.mem_filter.mpr met, rfl⟩⟩

/-- No row on the left is multiplied. -/
theorem MeetsOne.innerJoin_sublist (one : MeetsOne right meets) :
    ((innerJoin left right meets).map Prod.fst).Sublist left := by
  rw [one.innerJoin_eq]
  induction left with
  | nil => exact List.Sublist.slnil
  | cons row rest ih =>
    rw [List.filterMap_cons]
    cases right.find? (meets row) with
    | none => exact ih.cons row
    | some other => exact ih.cons_cons row

theorem MeetsOne.leftJoin_eq (one : MeetsOne right meets) :
    leftJoin left right meets = left.map fun row => (row, right.find? (meets row)) := by
  induction left with
  | nil => rfl
  | cons row rest ih =>
    have step : leftJoin (row :: rest) right meets =
      (match right.filter (meets row) with
        | [] => [(row, none)]
        | found => found.map fun other => (row, some other)) ++ leftJoin rest right meets := rfl
    rw [step, ih, one.filter_eq, List.map_cons]
    cases right.find? (meets row) <;> rfl

/-- A left join on equality with distinct rows has the rows of the left; those of the right are
the ones that are marked. -/
theorem leftJoin_distinct [DecidableEq α] {left right : List α} (distinct : right.Nodup) :
    (leftJoin left right fun row other => decide (other = row)).length = left.length ∧
      ((leftJoin left right fun row other => decide (other = row)).countP fun row =>
        row.2.isSome) = left.countP fun row => decide (row ∈ right) := by
  have one : MeetsOne right fun row other : α => decide (other = row) := by
    apply meetsOne_of_key distinct
    intro row other met
    exact of_decide_eq_true met
  rw [one.leftJoin_eq, List.length_map, List.countP_map]
  refine ⟨rfl, ?_⟩
  apply List.countP_congr
  intro row _
  rw [Function.comp_apply, List.find?_isSome, decide_eq_true_eq]
  constructor
  · rintro ⟨other, member, same⟩
    rwa [← of_decide_eq_true same]
  · intro member
    exact ⟨row, member, decide_eq_true rfl⟩

/-! ## Groups -/

section
variable {κ M : Type} [DecidableEq κ] {key : α → κ} {rows : List α}

/-- The groups of rows of one key, with that key. -/
def groupedBy (key : α → κ) (rows : List α) : List (κ × List α) :=
  (rows.map key).dedup.map fun value => (value, rows.filter fun row => key row = value)

theorem mem_groupedBy {group : κ × List α} : group ∈ groupedBy key rows ↔
    (∃ row ∈ rows, key row = group.1) ∧ group.2 = rows.filter fun row => key row = group.1 := by
  obtain ⟨value, members⟩ := group
  unfold groupedBy
  simp only [List.mem_map, List.mem_dedup, Prod.mk.injEq]
  constructor
  · rintro ⟨_, found, rfl, rfl⟩
    exact ⟨found, rfl⟩
  · rintro ⟨found, same⟩
    exact ⟨value, found, rfl, same.symm⟩

theorem group_mem_groupedBy {row : α} (member : row ∈ rows) :
    (key row, rows.filter fun other => key other = key row) ∈ groupedBy key rows :=
  mem_groupedBy.mpr ⟨⟨row, member, rfl⟩, rfl⟩

/-- Rows sorted into apart classes are the rows. -/
theorem flatMap_filter_perm {values : List κ} (apart : values.Nodup)
    (known : ∀ row ∈ rows, key row ∈ values) :
    (values.flatMap fun value => rows.filter fun row => key row = value).Perm rows := by
  induction values generalizing rows with
  | nil =>
    rw [List.eq_nil_iff_forall_not_mem.mpr fun row member => List.not_mem_nil (known row member)]
    rfl
  | cons value rest ih =>
    obtain ⟨fresh, apart⟩ := List.nodup_cons.mp apart
    have later : ∀ value' ∈ rest, (rows.filter fun row => key row = value') =
        (rows.filter fun row => ! decide (key row = value)).filter fun row =>
          key row = value' := by
      intro value' member
      rw [List.filter_filter]
      apply List.filter_congr
      intro row _
      by_cases same : key row = value'
      · have different : key row ≠ value := by
          rintro rfl
          exact fresh (same ▸ member)
        simp [same, same ▸ different]
      · simp [same]
    rw [List.flatMap_cons, List.flatMap_congr later]
    refine (List.Perm.append_left _ (ih apart ?_)).trans (List.filter_append_perm ..)
    intro row member
    obtain ⟨member, different⟩ := List.mem_filter.mp member
    rcases List.mem_cons.mp (known row member) with same | later
    · simp [same] at different
    · exact later

/-- The rows of all groups together are the rows. -/
theorem flatMap_groupedBy : ((groupedBy key rows).flatMap Prod.snd).Perm rows := by
  unfold groupedBy
  rw [List.flatMap_map]
  apply flatMap_filter_perm (List.nodup_dedup _)
  intro row member
  exact List.mem_dedup.mpr (List.mem_map_of_mem member)

/-- What is found under a key, where every entry has what belongs to its key, and a key without
an entry has the default. -/
theorem getD_find? {ε ν : Type} {entries : List ε} (key : ε → κ) {value : ε → ν}
    (belongs : κ → ν) {default : ν}
    (sound : ∀ entry ∈ entries, value entry = belongs (key entry)) (wanted : κ)
    (missing : (∀ entry ∈ entries, key entry ≠ wanted) → belongs wanted = default) :
    ((entries.find? fun entry => key entry = wanted).map value).getD default = belongs wanted := by
  cases found : entries.find? fun entry => key entry = wanted with
  | some entry =>
    have own : key entry = wanted := by simpa using List.find?_some found
    rw [← own]
    exact sound entry (List.mem_of_find?_eq_some found)
  | none =>
    apply Eq.symm
    apply missing
    intro entry member own
    exact List.find?_eq_none.mp found entry member (decide_eq_true own)

/-- Keys that tell the same rows apart make equally many groups. -/
theorem length_dedup_map {κ' : Type} [DecidableEq κ'] {key' : α → κ'}
    (alike : ∀ row ∈ rows, ∀ other ∈ rows, key row = key other ↔ key' row = key' other) :
    (rows.map key).dedup.length = (rows.map key').dedup.length := by
  induction rows with
  | nil => rfl
  | cons row rest ih =>
    have shorter := ih fun other member other' member' =>
      alike other (List.mem_cons_of_mem _ member) other' (List.mem_cons_of_mem _ member')
    have known : key row ∈ rest.map key ↔ key' row ∈ rest.map key' := by
      rw [List.mem_map, List.mem_map]
      apply exists_congr
      intro other
      apply and_congr_right
      intro member
      exact alike other (List.mem_cons_of_mem _ member) row List.mem_cons_self
    rw [List.map_cons, List.map_cons]
    by_cases again : key row ∈ rest.map key
    · rw [List.dedup_cons_of_mem again, List.dedup_cons_of_mem (known.mp again), shorter]
    · rw [List.dedup_cons_of_notMem again, List.dedup_cons_of_notMem (again ∘ known.mpr),
        List.length_cons, List.length_cons, shorter]

/-- What the groups sum to is what the rows sum to. -/
theorem sum_groupedBy [AddCommMonoid M] (weight : α → M) :
    ((groupedBy key rows).map fun group => (group.2.map weight).sum).sum =
      (rows.map weight).sum := by
  have together : ((groupedBy key rows).flatMap Prod.snd).Perm rows := flatMap_groupedBy
  rw [← (together.map weight).sum_eq, List.map_flatMap, List.flatMap_def, List.sum_flatten,
    List.map_map]
  rfl

end

end EventaApi.Library
