import Mathlib.Data.List.Perm.Basic
import Mathlib.Order.Lattice
import Mathlib.Order.MinMax

/-!
# The newest of a list

The newest so many of a list are its latest elements, latest first: none left out is later than
one taken, and of those of one moment any may be taken. Lists that are cut before they are put
together and cut again after come to the newest of them all.
-/
namespace EventaApi.Library

variable {α β γ : Type} [LinearOrder β] (time : α → β)

structure IsNewest (limit : Nat) (all picked : List α) : Prop where
  inOrder : picked.Pairwise fun former latter => time latter ≤ time former
  size : picked.length = min limit all.length
  split : ∃ rest, (picked ++ rest).Perm all ∧
    ∀ taken ∈ picked, ∀ spared ∈ rest, time spared ≤ time taken

variable {time} {limit : Nat} {all picked rest : List α}

/-- The front of a list that is in order. -/
theorem isNewest_take {sorted : List α} (same : sorted.Perm all)
    (inOrder : sorted.Pairwise fun former latter => time latter ≤ time former) :
    IsNewest time limit all (sorted.take limit) where
  inOrder := inOrder.sublist (List.take_sublist _ _)
  size := by rw [List.length_take, same.length_eq]
  split := by
    refine ⟨sorted.drop limit, ?_, ?_⟩
    · rw [List.take_append_drop]
      exact same
    · intro taken first spared later
      rw [← List.take_append_drop limit sorted] at inOrder
      exact (List.pairwise_append.mp inOrder).2.2 taken first spared later

theorem IsNewest.subset (newest : IsNewest time limit all picked) {taken : α}
    (member : taken ∈ picked) : taken ∈ all := by
  obtain ⟨rest, same, _⟩ := newest.split
  exact same.mem_iff.mp (List.mem_append_left rest member)

/-- What is not shared in a list is not shared among its newest. -/
theorem IsNewest.nodup_map (newest : IsNewest time limit all picked) {label : α → γ}
    (apart : (all.map label).Nodup) : (picked.map label).Nodup := by
  obtain ⟨rest, same, _⟩ := newest.split
  have whole : ((picked ++ rest).map label).Nodup := (same.map label).nodup_iff.mpr apart
  rw [List.map_append] at whole
  exact (List.nodup_append.mp whole).1

/-- Whoever is left out of the newest is no later than the newest of any list that has them. -/
theorem IsNewest.covers (newest : IsNewest time limit all picked)
    (same : (picked ++ rest).Perm all) {spared : α} (out : spared ∈ rest)
    (above : ∀ taken ∈ picked, time spared ≤ time taken) {more chosen : List α}
    (within : picked.Sublist more) (cut : IsNewest time limit more chosen) :
    ∀ taken ∈ chosen, time spared ≤ time taken := by
  obtain ⟨left, perm, order⟩ := cut.split
  intro taken member
  by_contra! late
  -- So many are as late as the one that was left out, and the last cut has one less of them.
  have positive : 0 < rest.length := List.length_pos_of_mem out
  have total : picked.length + rest.length = all.length := by
    rw [← same.length_eq, List.length_append]
  have full : picked.length = limit := by
    have size := newest.size
    omega
  have many : limit ≤ more.countP fun other => time spared ≤ time other := by
    have every : picked.countP (fun other => time spared ≤ time other) = picked.length :=
      List.countP_eq_length.mpr fun other there => by simpa using above other there
    calc limit = picked.countP fun other => time spared ≤ time other := by rw [every, full]
      _ ≤ more.countP fun other => time spared ≤ time other := within.countP_le
  have fewer : (chosen.countP fun other => time spared ≤ time other) < chosen.length := by
    apply lt_of_le_of_ne List.countP_le_length
    intro everyone
    have itself := List.countP_eq_length.mp everyone taken member
    exact absurd (by simpa using itself) (not_le.mpr late)
  have counted : (more.countP fun other => time spared ≤ time other) =
      (chosen.countP fun other => time spared ≤ time other) +
        left.countP fun other => time spared ≤ time other := by
    rw [← perm.countP_eq, List.countP_append]
  have room : chosen.length ≤ limit := by
    have size := cut.size
    omega
  obtain ⟨other, there, later⟩ : ∃ other ∈ left, decide (time spared ≤ time other) = true := by
    apply List.countP_pos_iff.mp
    omega
  have latest : time spared ≤ time other := by simpa using later
  exact absurd (latest.trans (order taken member other there)) (not_le.mpr late)

theorem IsNewest.perm {others : List α} (newest : IsNewest time limit all picked)
    (same : all.Perm others) : IsNewest time limit others picked := by
  obtain ⟨rest, split, above⟩ := newest.split
  refine ⟨newest.inOrder, ?_, rest, split.trans same, above⟩
  rw [newest.size, same.length_eq]

/-- What was cut from a list beforehand would be cut afterwards. -/
theorem IsNewest.widen {more chosen : List α} (newest : IsNewest time limit all picked)
    (cut : IsNewest time limit (picked ++ more) chosen) :
    IsNewest time limit (all ++ more) chosen := by
  obtain ⟨rest, same, above⟩ := newest.split
  obtain ⟨left, perm, order⟩ := cut.split
  refine ⟨cut.inOrder, ?_, left ++ rest, ?_, ?_⟩
  · have sizes := cut.size
    rw [List.length_append, newest.size] at sizes
    rw [List.length_append]
    omega
  · have swapped : ((picked ++ more) ++ rest).Perm ((picked ++ rest) ++ more) := by
      rw [List.append_assoc, List.append_assoc]
      exact List.perm_append_comm.append_left picked
    rw [← List.append_assoc]
    exact ((perm.append_right rest).trans swapped).trans (same.append_right more)
  · intro taken member spared out
    rcases List.mem_append.mp out with cutOff | out
    · exact order taken member spared cutOff
    · exact newest.covers same out (fun other there => above other there spared out)
        (List.sublist_append_left _ _) cut taken member

theorem IsNewest.flatten_append {alls cuts : List (List α)} {more chosen : List α}
    (each : List.Forall₂ (IsNewest time limit) alls cuts)
    (cut : IsNewest time limit (cuts.flatten ++ more) chosen) :
    IsNewest time limit (alls.flatten ++ more) chosen := by
  -- Each list in turn is widened at the front and moved behind the others.
  have turned (front middle back : List α) :
      (front ++ (middle ++ back)).Perm (middle ++ (back ++ front)) := by
    rw [← List.append_assoc middle]
    exact List.perm_append_comm
  induction each generalizing more with
  | nil => exact cut
  | @cons first picked alls cuts newest _ ih =>
    rw [List.flatten_cons, List.append_assoc] at cut ⊢
    have widened : IsNewest time limit (cuts.flatten ++ (more ++ first)) chosen :=
      (newest.widen cut).perm (turned _ _ _)
    exact (ih widened).perm (turned _ _ _).symm

/-- Lists cut before they are put together, and cut again after. -/
theorem IsNewest.flatten {alls cuts : List (List α)} {chosen : List α}
    (each : List.Forall₂ (IsNewest time limit) alls cuts)
    (cut : IsNewest time limit cuts.flatten chosen) : IsNewest time limit alls.flatten chosen := by
  rw [← List.append_nil cuts.flatten] at cut
  rw [← List.append_nil alls.flatten]
  exact IsNewest.flatten_append each cut

end EventaApi.Library
