import Mathlib.Data.List.TakeDrop
import EventaApi.Library.Ranking

/-!
# The first page of a list

A page is the first so many elements in the order of a key nobody shares. There is one such
page, an element is on it when fewer than that stand before it, and picking the elements of a
kind comes to the same before the cut as after it only where the cut loses none of them, or
finds nothing else.
-/
namespace EventaApi.Library

variable {α β : Type} [LinearOrder β] (key : α → β)

/-- The first `limit` of all, in the order of their keys; all of them if there are fewer. -/
def IsPage (limit : Nat) (all page : List α) : Prop :=
  ∃ rest, (page ++ rest).Perm all ∧ (page ++ rest).Pairwise (fun a b => key a < key b) ∧
    page.length = min limit all.length

variable {key} {all sorted page : List α} {limit : Nat}

theorem isPage_iff (same : sorted.Perm all) (ordered : sorted.Pairwise fun a b => key a < key b) :
    IsPage key limit all page ↔ page = sorted.take limit := by
  constructor
  · rintro ⟨rest, perm, inOrder, size⟩
    have equal : page ++ rest = sorted := by
      apply List.Perm.eq_of_pairwise _ inOrder ordered (perm.trans same.symm)
      intro a b _ _ before after
      exact absurd (before.trans after) (lt_irrefl _)
    have whole := congrArg List.length equal
    rw [List.length_append, same.length_eq] at whole
    rw [← equal, List.take_append]
    rcases Nat.le_total limit all.length with cut | short
    · have exactly : page.length = limit := by omega
      rw [exactly, Nat.sub_self, List.take_zero, List.append_nil, ← exactly, List.take_length]
    · have none : rest = [] := List.eq_nil_of_length_eq_zero (by omega)
      rw [none, List.take_nil, List.append_nil, List.take_of_length_le (by omega)]
  · rintro rfl
    refine ⟨sorted.drop limit, ?_, ?_, ?_⟩
    · rw [List.take_append_drop]
      exact same
    · rw [List.take_append_drop]
      exact ordered
    · rw [List.length_take, same.length_eq]

/-- An element is on the page when fewer than the limit stand before it. -/
theorem mem_take_iff (ordered : sorted.Pairwise fun a b => key a < key b) {entry : α} :
    entry ∈ sorted.take limit ↔ entry ∈ sorted ∧ ahead key sorted (key entry) < limit := by
  induction sorted generalizing limit with
  | nil => simp
  | cons head tail ih =>
    obtain ⟨first, rest⟩ := List.pairwise_cons.mp ordered
    cases limit with
    | zero => simp
    | succ limit =>
      have alone : ahead key (head :: tail) (key head) = 0 := by
        apply List.countP_eq_zero.mpr
        intro other member
        rcases List.mem_cons.mp member with rfl | later
        · simp
        · simpa using le_of_lt (first other later)
      rw [List.take_succ_cons, List.mem_cons, List.mem_cons, ih rest]
      constructor
      · rintro (rfl | ⟨later, few⟩)
        · exact ⟨Or.inl rfl, by omega⟩
        · have counted : ahead key (head :: tail) (key entry) = ahead key tail (key entry) + 1 := by
            unfold ahead
            rw [List.countP_cons_of_pos (by simpa using first entry later)]
          exact ⟨Or.inr later, by omega⟩
      · rintro ⟨rfl | later, few⟩
        · exact Or.inl rfl
        · have counted : ahead key (head :: tail) (key entry) = ahead key tail (key entry) + 1 := by
            unfold ahead
            rw [List.countP_cons_of_pos (by simpa using first entry later)]
          exact Or.inr ⟨later, by omega⟩

/-- Picking after the cut gives what picking before it does, exactly where the cut loses none of
the kind or keeps nothing else. -/
theorem filter_take_iff {kind : α → Bool} {line : List α} :
    (line.take limit).filter kind = (line.filter kind).take limit ↔
      (∀ entry ∈ line.take limit, kind entry) ∨ ∀ entry ∈ line.drop limit, ¬ kind entry := by
  have split : line.filter kind = (line.take limit).filter kind ++ (line.drop limit).filter kind := by
    rw [← List.filter_append, List.take_append_drop]
  have most : ((line.take limit).filter kind).length ≤ limit :=
    (List.length_filter_le _ _).trans (List.length_take_le _ _)
  constructor
  · intro same
    by_cases none : ∀ entry ∈ line.drop limit, ¬ kind entry
    · exact Or.inr none
    · left
      -- Something of the kind is cut off, so a page of the kind is full, and is the whole cut.
      push Not at none
      obtain ⟨lost, after, ofKind⟩ := none
      have some : 0 < ((line.drop limit).filter kind).length :=
        List.length_pos_of_mem (List.mem_filter.mpr ⟨after, ofKind⟩)
      have sizes := congrArg List.length same
      rw [split, List.length_take, List.length_append] at sizes
      have full : ((line.take limit).filter kind).length = (line.take limit).length := by
        have bound := List.length_filter_le kind (line.take limit)
        have cut := List.length_take_le limit line
        omega
      exact List.length_filter_eq_length_iff.mp full
  · rintro (only | none)
    · have kept : (line.take limit).filter kind = line.take limit := List.filter_eq_self.mpr only
      rw [split, kept, List.take_append, List.take_take, Nat.min_self]
      rcases Nat.le_total limit line.length with cut | short
      · rw [List.length_take, Nat.min_eq_left cut, Nat.sub_self, List.take_zero, List.append_nil]
      · rw [List.drop_eq_nil_of_le short, List.filter_nil, List.take_nil, List.append_nil]
    · have nothing : (line.drop limit).filter kind = [] := List.filter_eq_nil_iff.mpr none
      rw [split, nothing, List.append_nil, List.take_of_length_le most]

/-! ## All pages -/

/-- Pages that reach the end, put behind each other, are the list. -/
theorem flatMap_pages {pages : Nat} {line : List α} (enough : line.length ≤ pages * limit) :
    ((List.range pages).flatMap fun page => (line.drop (page * limit)).take limit) = line := by
  have front : ∀ pages, ((List.range pages).flatMap fun page =>
      (line.drop (page * limit)).take limit) = line.take (pages * limit) := by
    intro pages
    induction pages with
    | zero => simp
    | succ pages ih =>
      rw [List.range_succ, List.flatMap_append, ih, List.flatMap_singleton, Nat.succ_mul,
        List.take_add]
  rw [front, List.take_of_length_le enough]

end EventaApi.Library
