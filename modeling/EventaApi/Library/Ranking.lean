import Mathlib.Data.List.MinMax
import Mathlib.Data.List.Nodup
import Mathlib.Data.List.Perm.Subperm

/-!
# Places in a line

The place of an element is how many stand before it, by a key in a linear order.
Where nobody shares a key the places of a line are its numbers, each once, and the
first element is the one nobody stands before.
-/
namespace EventaApi.Library

variable {α β : Type} [LinearOrder β] (key : α → β)

/-- How many of the line stand before this key. -/
def ahead (line : List α) (place : β) : Nat := line.countP fun other => key other < place

variable {key} {line : List α}

theorem ahead_lt_length {first : α} (member : first ∈ line) :
    ahead key line (key first) < line.length := by
  apply lt_of_le_of_ne List.countP_le_length
  intro everyone
  have itself := List.countP_eq_length.mp everyone first member
  simp at itself

/-- Whoever stands before another has fewer ahead. -/
theorem ahead_lt_ahead {first : α} (member : first ∈ line) {place : β} (before : key first < place) :
    ahead key line (key first) < ahead key line place := by
  have split := List.countP_eq_countP_filter_add line (fun other => decide (key other < place))
    fun other => decide (key other < key first)
  have earlier : (line.filter fun other => decide (key other < key first)).countP
      (fun other => decide (key other < place)) = ahead key line (key first) := by
    refine Eq.trans (List.countP_eq_length.mpr ?_) List.countP_eq_length_filter.symm
    intro other kept
    simp only [List.mem_filter, decide_eq_true_eq] at kept
    simpa using kept.2.trans before
  have itself : 0 < (line.filter fun other => !decide (key other < key first)).countP
      fun other => decide (key other < place) := by
    apply List.countP_pos_iff.mpr
    exact ⟨first, by simp [member], by simpa using before⟩
  unfold ahead at *
  omega

theorem ahead_injective {first second : α} (member : first ∈ line) (member' : second ∈ line)
    (same : ahead key line (key first) = ahead key line (key second)) : key first = key second := by
  rcases lt_trichotomy (key first) (key second) with before | equal | after
  · have fewer := ahead_lt_ahead member before
    omega
  · exact equal
  · have fewer := ahead_lt_ahead member' after
    omega

/-- The places of a line are its numbers, each once. -/
theorem aheads_perm_range (apart : (line.map key).Nodup) :
    (line.map fun entry => ahead key line (key entry)).Perm (List.range line.length) := by
  have nodup : (line.map fun entry => ahead key line (key entry)).Nodup := by
    apply List.Nodup.map_on
    · intro first member second member' same
      exact List.inj_on_of_nodup_map apart member member' (ahead_injective member member' same)
    · exact List.Nodup.of_map key apart
  have below : (line.map fun entry => ahead key line (key entry)) ⊆ List.range line.length := by
    intro place member
    obtain ⟨entry, stored, rfl⟩ := List.mem_map.mp member
    exact List.mem_range.mpr (ahead_lt_length stored)
  apply (List.subperm_of_subset nodup below).perm_of_length_le
  simp

/-- Nobody stands before the first. -/
theorem ahead_argmin {first : α} (found : line.argmin key = some first) :
    ahead key line (key first) = 0 := by
  apply List.countP_eq_zero.mpr
  intro other member
  have least := List.le_of_mem_argmin member (Option.mem_def.mpr found)
  simpa using least

theorem argmin_member {first : α} (found : line.argmin key = some first) : first ∈ line :=
  List.argmin_mem (Option.mem_def.mpr found)

end EventaApi.Library
