import Mathlib.Data.List.Sort
import Mathlib.Algebra.BigOperators.Group.List.Basic
import Mathlib.Algebra.Order.Ring.Nat

/-!
# Tallies

A tally counts things by key: the `Map<key, number>` a loop fills with
`map.set(key, (map.get(key) ?? 0) + n)`, kept in insertion order. What a tally
counts for a key is the sum of what was added under it, whatever the order the
entries are visited in afterwards.
-/
namespace EventaApi.Library

variable {κ : Type} [DecidableEq κ]

abbrev Tally (κ : Type) := List (κ × Nat)

namespace Tally

/-- `map.set(key, (map.get(key) ?? 0) + n)`. -/
def bump : Tally κ → κ → Nat → Tally κ
  | [], key, n => [(key, n)]
  | (head, count) :: rest, key, n =>
    if head = key then (head, count + n) :: rest else (head, count) :: bump rest key n

/-- What the tally counts under a key. -/
def count (tally : Tally κ) (key : κ) : Nat :=
  (tally.map fun entry => if entry.1 = key then entry.2 else 0).sum

/-- The tally a loop over `entries` fills. -/
def ofEntries (entries : List (κ × Nat)) : Tally κ :=
  entries.foldl (fun tally entry => bump tally entry.1 entry.2) []

/-- `[...map].sort(([a], [b]) => compare(a, b))`. -/
def sorted [LE κ] [DecidableRel (α := κ) (· ≤ ·)] (tally : Tally κ) : Tally κ :=
  tally.insertionSort fun left right => left.1 ≤ right.1

@[simp] theorem count_nil (key : κ) : count ([] : Tally κ) key = 0 := rfl

@[simp] theorem count_cons (entry : κ × Nat) (rest : Tally κ) (key : κ) :
    count (entry :: rest) key = (if entry.1 = key then entry.2 else 0) + count rest key := by
  simp [count]

theorem count_bump (tally : Tally κ) (added key : κ) (n : Nat) :
    count (bump tally added n) key = count tally key + if added = key then n else 0 := by
  induction tally with
  | nil => simp [bump]
  | cons head rest ih =>
    obtain ⟨first, tallied⟩ := head
    unfold bump
    split
    next same =>
      subst same
      simp only [count_cons]
      split <;> omega
    next =>
      simp only [count_cons, ih]
      omega

theorem count_foldl_bump (entries : List (κ × Nat)) (start : Tally κ) (key : κ) :
    count (entries.foldl (fun tally entry => bump tally entry.1 entry.2) start) key =
      count start key + count entries key := by
  induction entries generalizing start with
  | nil => simp
  | cons entry rest ih =>
    simp only [List.foldl_cons, count_cons, ih, count_bump]
    omega

@[simp] theorem count_ofEntries (entries : List (κ × Nat)) (key : κ) :
    count (ofEntries entries) key = count entries key := by
  simp [ofEntries, count_foldl_bump]

@[simp] theorem count_sorted [LE κ] [DecidableRel (α := κ) (· ≤ ·)] (tally : Tally κ) (key : κ) :
    count tally.sorted key = count tally key :=
  ((List.perm_insertionSort _ tally).map _).sum_eq

end Tally

end EventaApi.Library
