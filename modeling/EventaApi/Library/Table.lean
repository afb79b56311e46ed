import Mathlib.Algebra.Order.BigOperators.Group.List
import Mathlib.Algebra.Order.Ring.Nat
import Mathlib.Data.List.Nodup

/-!
# Keyed tables

A table is a list of rows with a serial primary key: keys are pairwise distinct,
and every key is below the counter the next insert takes its key from. Both facts
are fields of the table, so no operation has to re-prove them and a table with a
repeated key cannot be built. A key whose row was deleted is not given out again.

`sum` adds a weight over the rows. The rules say how each operation moves a sum:
an insert adds the new row's weight, an update by key exchanges one row's weight.
-/
namespace EventaApi.Library

/-- A row names its own primary key. -/
class Keyed (ρ : Type) where
  key : ρ → Nat

/-- The proof of a write that leaves the key as it is. -/
theorem Keyed.kept {ρ : Type} [Keyed ρ] (row : ρ) : Keyed.key row = Keyed.key row := rfl

structure Table (ρ : Type) [Keyed ρ] where
  rows : List ρ
  next : Nat
  distinct : (rows.map Keyed.key).Nodup
  issued : ∀ row ∈ rows, Keyed.key row < next

namespace Table

variable {ρ : Type} [Keyed ρ]

instance : Membership ρ (Table ρ) := ⟨fun table row => row ∈ table.rows⟩

theorem mem_def {table : Table ρ} {row : ρ} : row ∈ table ↔ row ∈ table.rows := Iff.rfl

def empty : Table ρ := ⟨[], 0, List.nodup_nil, by simp⟩

/-- The row with this key. -/
def find (table : Table ρ) (key : Nat) : Option ρ :=
  table.rows.find? fun row => Keyed.key row == key

/-- The rows a `WHERE` clause selects, in key order. -/
def select (table : Table ρ) (hit : ρ → Prop) [DecidablePred hit] : List ρ :=
  table.rows.filter fun row => decide (hit row)

/-- Insert one row per value, each built from its value and the key it is given. -/
def insertEach {α : Type} (table : Table ρ) (values : List α) (row : α → Nat → ρ)
    (keyed : ∀ value key, Keyed.key (row value key) = key := by exact fun _ key => Eq.refl key) :
    Table ρ where
  rows := table.rows ++ values.mapIdx fun index value => row value (table.next + index)
  next := table.next + values.length
  distinct := by
    have fresh : (values.mapIdx fun index value => row value (table.next + index)).map Keyed.key =
        List.range' table.next values.length := by
      refine List.ext_getElem (by simp) fun index _ _ => ?_
      simp [keyed]
    rw [List.map_append, fresh, List.nodup_append]
    refine ⟨table.distinct, List.nodup_range', ?_⟩
    intro left old right new same
    obtain ⟨row', member, rfl⟩ := List.mem_map.mp old
    have below := table.issued row' member
    have above := (List.mem_range'_1.mp new).1
    omega
  issued := by
    intro row' member
    rcases List.mem_append.mp member with old | new
    · have below := table.issued row' old
      omega
    · obtain ⟨index, inRange, rfl⟩ := List.mem_mapIdx.mp new
      rw [keyed]
      omega

/-- Insert one row, built from the key it is given. -/
def insert (table : Table ρ) (row : Nat → ρ)
    (keyed : ∀ key, Keyed.key (row key) = key := by exact fun key => Eq.refl key) : Table ρ :=
  table.insertEach [()] (fun _ => row) fun _ => keyed

/-- Rewrite every row the clause selects; a write never changes a key. -/
def update (table : Table ρ) (hit : ρ → Prop) [DecidablePred hit] (write : ρ → ρ)
    (keeps : ∀ row, Keyed.key (write row) = Keyed.key row := by exact fun row => Keyed.kept row) :
    Table ρ where
  rows := table.rows.map fun row => if hit row then write row else row
  next := table.next
  distinct := by
    have same : (table.rows.map fun row => if hit row then write row else row).map Keyed.key =
        table.rows.map Keyed.key := by
      rw [List.map_map]
      refine List.map_congr_left fun row _ => ?_
      simp only [Function.comp_apply]
      split
      · exact keeps row
      · rfl
    rw [same]
    exact table.distinct
  issued := by
    intro row' member
    obtain ⟨row, old, rfl⟩ := List.mem_map.mp member
    have bound := table.issued row old
    split
    · rw [keeps]
      exact bound
    · exact bound

/-- Delete every row the clause selects. -/
def delete (table : Table ρ) (hit : ρ → Prop) [DecidablePred hit] : Table ρ where
  rows := table.rows.filter fun row => !decide (hit row)
  next := table.next
  distinct := table.distinct.sublist (List.filter_sublist.map _)
  issued := fun row member => table.issued row (List.mem_of_mem_filter member)

/-- Add a weight over the rows. -/
def sum (table : Table ρ) (weight : ρ → Nat) : Nat := (table.rows.map weight).sum

/-! ## Rows -/

section Rows

variable {table : Table ρ} {row other : ρ} {hit : ρ → Prop} [DecidablePred hit]
variable {write : ρ → ρ} {keeps : ∀ row, Keyed.key (write row) = Keyed.key row}
variable {α : Type} {values : List α} {each : α → Nat → ρ}
variable {keyedEach : ∀ value key, Keyed.key (each value key) = key}

@[simp] theorem rows_insertEach :
    (table.insertEach values each keyedEach).rows =
      table.rows ++ values.mapIdx fun index value => each value (table.next + index) := rfl

@[simp] theorem next_insertEach :
    (table.insertEach values each keyedEach).next = table.next + values.length := rfl

@[simp] theorem rows_insert {build : Nat → ρ} {keyed : ∀ key, Keyed.key (build key) = key} :
    (table.insert build keyed).rows = table.rows ++ [build table.next] := by
  simp [insert]

@[simp] theorem rows_update :
    (table.update hit write keeps).rows =
      table.rows.map fun row => if hit row then write row else row := rfl

@[simp] theorem next_update : (table.update hit write keeps).next = table.next := rfl

@[simp] theorem next_insert {build : Nat → ρ} {keyed : ∀ key, Keyed.key (build key) = key} :
    (table.insert build keyed).next = table.next + 1 := rfl

theorem mem_select : row ∈ table.select hit ↔ row ∈ table ∧ hit row := by
  simp [select, mem_def]

theorem select_ne_nil : table.select hit ≠ [] ↔ ∃ row ∈ table, hit row := by
  simp only [← mem_select]
  exact ⟨List.exists_mem_of_ne_nil _, fun ⟨_, member⟩ => List.ne_nil_of_mem member⟩

theorem mem_insertEach :
    row ∈ table.insertEach values each keyedEach ↔
      row ∈ table ∨ ∃ index, ∃ inRange : index < values.length,
        row = each values[index] (table.next + index) := by
  simp [mem_def, List.mem_mapIdx, eq_comm]

theorem mem_insert {build : Nat → ρ} {keyed : ∀ key, Keyed.key (build key) = key} :
    row ∈ table.insert build keyed ↔ row ∈ table ∨ row = build table.next := by
  simp [mem_def]

/-- A row of which something holds that does not hold of the new one was there before. -/
theorem mem_of_insert {build : Nat → ρ} {keyed : ∀ key, Keyed.key (build key) = key}
    (fact : ρ → Prop) (member : row ∈ table.insert build keyed) (holds : fact row)
    (fresh : ¬ fact (build table.next)) : row ∈ table := by
  rcases mem_insert.mp member with old | rfl
  · exact old
  · exact absurd holds fresh

theorem mem_update :
    row ∈ table.update hit write keeps ↔
      ∃ old ∈ table, row = if hit old then write old else old := by
  simp [mem_def, eq_comm]

/-- A row of the written table was written by the clause, or missed by it. -/
theorem mem_update_cases (member : row ∈ table.update hit write keeps) :
    (∃ old ∈ table, hit old ∧ row = write old) ∨ (row ∈ table ∧ ¬ hit row) := by
  obtain ⟨old, stored, rfl⟩ := mem_update.mp member
  by_cases selected : hit old
  · rw [if_pos selected]
    exact Or.inl ⟨old, stored, selected, rfl⟩
  · rw [if_neg selected]
    exact Or.inr ⟨stored, selected⟩

/-- A row the clause misses is still there. -/
theorem mem_update_of_miss (member : row ∈ table) (miss : ¬ hit row) :
    row ∈ table.update hit write keeps :=
  mem_update.mpr ⟨row, member, by rw [if_neg miss]⟩

/-- A clause that misses every row writes nothing. -/
theorem update_of_miss (miss : ∀ row ∈ table, ¬ hit row) : table.update hit write keeps = table := by
  have same : (table.update hit write keeps).rows = table.rows := by
    rw [rows_update]
    refine (List.map_congr_left fun row stored => ?_).trans (List.map_id _)
    exact if_neg (miss row stored)
  cases table
  simp only [update, Table.mk.injEq, and_true]
  exact same

theorem mem_update_of_hit (member : row ∈ table) (selected : hit row) :
    write row ∈ table.update hit write keeps :=
  mem_update.mpr ⟨row, member, by rw [if_pos selected]⟩

theorem mem_delete : row ∈ table.delete hit ↔ row ∈ table ∧ ¬ hit row := by
  simp [delete, mem_def]

@[simp] theorem rows_delete :
    (table.delete hit).rows = table.rows.filter fun row => !decide (hit row) := rfl

@[simp] theorem next_delete : (table.delete hit).next = table.next := rfl

/-- A clause that misses every row deletes nothing. -/
theorem delete_of_miss (miss : ∀ row ∈ table, ¬ hit row) : table.delete hit = table := by
  have same : (table.delete hit).rows = table.rows := by
    rw [rows_delete, List.filter_eq_self]
    intro row stored
    rw [decide_eq_false (miss row stored)]
    rfl
  cases table
  simp only [delete, Table.mk.injEq, and_true]
  exact same

theorem select_eq_nil : table.select hit = [] ↔ ∀ row ∈ table, ¬ hit row := by
  unfold select
  simp only [List.filter_eq_nil_iff, decide_eq_true_eq, mem_def]

theorem not_mem_of_empty (none : table.rows = []) (row : ρ) : row ∉ table := by
  rw [mem_def, none]
  exact List.not_mem_nil

theorem key_lt_next (member : row ∈ table) : Keyed.key row < table.next :=
  table.issued row member

/-- The key determines the row. -/
theorem eq_of_key (left : row ∈ table) (right : other ∈ table)
    (same : Keyed.key row = Keyed.key other) : row = other :=
  List.inj_on_of_nodup_map table.distinct left right same

theorem find_eq_some {key : Nat} :
    table.find key = some row ↔ row ∈ table ∧ Keyed.key row = key := by
  constructor
  · intro found
    exact ⟨List.mem_of_find?_eq_some found, by simpa using List.find?_some found⟩
  · rintro ⟨member, rfl⟩
    cases result : table.find (Keyed.key row) with
    | none =>
      have absent := List.find?_eq_none.mp result row member
      simp at absent
    | some first =>
      have same : Keyed.key first = Keyed.key row := by simpa using List.find?_some result
      rw [eq_of_key (List.mem_of_find?_eq_some result) member same]

theorem find_key (member : row ∈ table) : table.find (Keyed.key row) = some row :=
  find_eq_some.mpr ⟨member, rfl⟩

theorem find_self {key : Nat} (found : table.find key = some row) :
    table.find (Keyed.key row) = some row :=
  find_key (find_eq_some.mp found).1

theorem find_eq_none {key : Nat} :
    table.find key = none ↔ ∀ row ∈ table, Keyed.key row ≠ key := by
  simp [find, mem_def]

theorem find_next : table.find table.next = none :=
  find_eq_none.mpr fun _ member => Nat.ne_of_lt (key_lt_next member)

/-- Rewriting rows rewrites what a key finds, and nothing else. -/
theorem find_update {key : Nat} :
    (table.update hit write keeps).find key =
      (table.find key).map fun row => if hit row then write row else row := by
  cases found : table.find key with
  | none =>
    refine find_eq_none.mpr fun row member => ?_
    obtain ⟨old, stored, rfl⟩ := mem_update.mp member
    have missing := find_eq_none.mp found old stored
    split
    · rwa [keeps]
    · exact missing
  | some old =>
    obtain ⟨member, rfl⟩ := find_eq_some.mp found
    refine find_eq_some.mpr ⟨mem_update.mpr ⟨old, member, rfl⟩, ?_⟩
    by_cases selected : hit old
    · simp [selected, keeps]
    · simp [selected]

/-- What a key finds after a write, given what the write makes of the row it finds before. -/
theorem exists_find_update {key : Nat} {fact : ρ → Prop} (found : table.find key = some row)
    (written : hit row → fact (write row)) (missed : ¬ hit row → fact row) :
    ∃ new, (table.update hit write keeps).find key = some new ∧ fact new := by
  rw [find_update, found]
  by_cases selected : hit row
  · exact ⟨_, by rw [Option.map_some, if_pos selected], written selected⟩
  · exact ⟨_, by rw [Option.map_some, if_neg selected], missed selected⟩

/-- A write adds no key. -/
theorem exists_find_of_update (member : row ∈ table.update hit write keeps) :
    ∃ old, table.find (Keyed.key row) = some old := by
  obtain ⟨old, stored, rfl⟩ := mem_update.mp member
  refine ⟨old, find_eq_some.mpr ⟨stored, ?_⟩⟩
  split
  · exact (keeps old).symm
  · rfl

theorem find_insert {key : Nat} {build : Nat → ρ}
    {keyed : ∀ key, Keyed.key (build key) = key} :
    (table.insert build keyed).find key =
      if key = table.next then some (build table.next) else table.find key := by
  split
  next same =>
    subst same
    exact find_eq_some.mpr ⟨mem_insert.mpr (Or.inr rfl), keyed _⟩
  next other =>
    cases found : table.find key with
    | none =>
      refine find_eq_none.mpr fun row member => ?_
      rcases mem_insert.mp member with old | rfl
      · exact find_eq_none.mp found row old
      · rw [keyed]
        exact fun same => other same.symm
    | some row =>
      obtain ⟨member, keyEq⟩ := find_eq_some.mp found
      exact find_eq_some.mpr ⟨mem_insert.mpr (Or.inl member), keyEq⟩

theorem find_insert_of_found {key : Nat} {build : Nat → ρ}
    {keyed : ∀ key, Keyed.key (build key) = key} (found : table.find key = some row) :
    (table.insert build keyed).find key = some row := by
  obtain ⟨member, keyEq⟩ := find_eq_some.mp found
  exact find_eq_some.mpr ⟨mem_insert.mpr (Or.inl member), keyEq⟩

theorem isSome_find {key : Nat} :
    (table.find key).isSome ↔ ∃ row ∈ table, Keyed.key row = key := by
  simp only [Option.isSome_iff_exists, find_eq_some]

theorem isSome_find_of_mem (member : row ∈ table) : (table.find (Keyed.key row)).isSome :=
  isSome_find.mpr ⟨row, member, rfl⟩

@[simp] theorem isSome_find_update {key : Nat} :
    ((table.update hit write keeps).find key).isSome = (table.find key).isSome := by
  rw [find_update, Option.isSome_map]

theorem isSome_find_insert {key : Nat} {build : Nat → ρ}
    {keyed : ∀ key, Keyed.key (build key) = key} (found : (table.find key).isSome) :
    ((table.insert build keyed).find key).isSome := by
  obtain ⟨row, member, same⟩ := isSome_find.mp found
  exact isSome_find.mpr ⟨row, mem_insert.mpr (Or.inl member), same⟩

theorem isSome_find_insertEach {key : Nat} (found : (table.find key).isSome) :
    ((table.insertEach values each keyedEach).find key).isSome := by
  obtain ⟨row, member, same⟩ := isSome_find.mp found
  exact isSome_find.mpr ⟨row, mem_insertEach.mpr (Or.inl member), same⟩

/-- Every key a batch was given finds its row. -/
theorem isSome_find_inserted {key : Nat} (fresh : key ∈ List.range' table.next values.length) :
    ((table.insertEach values each keyedEach).find key).isSome := by
  obtain ⟨lower, upper⟩ := List.mem_range'_1.mp fresh
  refine isSome_find.mpr ⟨each (values.get ⟨key - table.next, by omega⟩) key, ?_, keyedEach _ _⟩
  exact mem_insertEach.mpr (Or.inr ⟨key - table.next, by omega, by congr 1; omega⟩)

theorem nodup_rows (table : Table ρ) : table.rows.Nodup := table.distinct.of_map _

theorem nodup_select {picked : ρ → Prop} [DecidablePred picked] : (table.select picked).Nodup :=
  table.nodup_rows.filter _

/-- Two clauses at once select what the second selects of what the first does. -/
theorem select_and {first second : ρ → Prop} [DecidablePred first] [DecidablePred second] :
    (table.select fun row => first row ∧ second row) =
      (table.select first).filter fun row => decide (second row) := by
  unfold select
  rw [List.filter_filter]
  refine List.filter_congr fun row _ => ?_
  rw [Bool.decide_and, Bool.and_comm]

/-- A write that moves no row in or out of a clause, nor a row of it, leaves what it selects. -/
theorem select_update_of_miss {picked : ρ → Prop} [DecidablePred picked]
    (miss : ∀ row ∈ table, hit row → ¬ picked row ∧ ¬ picked (write row)) :
    (table.update hit write keeps).select picked = table.select picked := by
  simp only [mem_def] at miss
  unfold select
  rw [rows_update]
  revert miss
  induction table.rows with
  | nil => exact fun _ => rfl
  | cons head tail ih =>
    intro miss
    rw [List.map_cons, List.filter_cons, List.filter_cons,
      ih fun row member => miss row (List.mem_cons_of_mem _ member)]
    by_cases selected : hit head
    · obtain ⟨before, after⟩ := miss head List.mem_cons_self selected
      simp [selected, before, after]
    · simp [selected]

/-- What a clause and a projection read after a write, as another clause reads it before. -/
theorem filterMap_select_written {β : Type} {picked before : ρ → Prop} [DecidablePred picked]
    [DecidablePred before] {read : ρ → Option β}
    (same : ∀ row ∈ table, (if hit row then if picked (write row) then read (write row) else none
      else if picked row then read row else none) = if before row then read row else none) :
    ((table.update hit write keeps).select picked).filterMap read =
      (table.select before).filterMap read := by
  simp only [mem_def] at same
  unfold select
  rw [rows_update, List.filterMap_filter, List.filterMap_filter, List.filterMap_map]
  refine List.filterMap_congr fun row member => ?_
  simp only [Function.comp_apply, decide_eq_true_eq]
  rw [← same row member]
  by_cases selected : hit row
  · simp [selected]
  · simp [selected]

/-- What a clause selects and a projection reads, when a write changes neither. -/
theorem filterMap_select_update {β : Type} {picked : ρ → Prop} [DecidablePred picked]
    {read : ρ → Option β}
    (same : ∀ row ∈ table, hit row → (if picked (write row) then read (write row) else none) =
      if picked row then read row else none) :
    ((table.update hit write keeps).select picked).filterMap read =
      (table.select picked).filterMap read := by
  refine filterMap_select_written fun row member => ?_
  split
  · exact same row member ‹_›
  · rfl

/-- A write that moves no row in or out of a clause keeps what is read of the rows it selects. -/
theorem map_select_update {β : Type} {picked : ρ → Prop} [DecidablePred picked] {read : ρ → β}
    (same : ∀ row ∈ table, hit row →
      (picked (write row) ↔ picked row) ∧ read (write row) = read row) :
    ((table.update hit write keeps).select picked).map read = (table.select picked).map read := by
  rw [← List.filterMap_eq_map]
  refine filterMap_select_update fun row stored struck => ?_
  obtain ⟨kept, again⟩ := same row stored struck
  by_cases selected : picked row
  · simp [selected, kept.mpr selected, again]
  · simp [selected, kept]

/-- What a batch adds to a clause is what it picks of the batch. -/
theorem select_insertEach {picked : ρ → Prop} [DecidablePred picked] :
    (table.insertEach values each keyedEach).select picked =
      table.select picked ++ (values.mapIdx fun index value =>
        each value (table.next + index)).filter fun row => decide (picked row) := by
  unfold select
  rw [rows_insertEach, List.filter_append]

theorem select_insert {picked : ρ → Prop} [DecidablePred picked] {build : Nat → ρ}
    {keyed : ∀ key, Keyed.key (build key) = key} :
    (table.insert build keyed).select picked =
      table.select picked ++ if picked (build table.next) then [build table.next] else [] := by
  unfold select
  rw [rows_insert, List.filter_append, List.filter_singleton]
  simp

theorem length_select_insert {picked : ρ → Prop} [DecidablePred picked] {build : Nat → ρ}
    {keyed : ∀ key, Keyed.key (build key) = key} :
    ((table.insert build keyed).select picked).length =
      (table.select picked).length + if picked (build table.next) then 1 else 0 := by
  rw [select_insert, List.length_append]
  split <;> rfl

/-- The first row a clause selects stays the first. -/
theorem head?_select_insert {picked : ρ → Prop} [DecidablePred picked] {build : Nat → ρ}
    {keyed : ∀ key, Keyed.key (build key) = key} (first : (table.select picked).head? = some row) :
    ((table.insert build keyed).select picked).head? = some row := by
  rw [select_insert, List.head?_append, first]
  rfl

/-- A write that leaves a clause alone rewrites the first row it selects. -/
theorem head?_select_update {picked : ρ → Prop} [DecidablePred picked]
    (same : ∀ row, picked (write row) ↔ picked row)
    (first : (table.select picked).head? = some row) :
    ((table.update hit write keeps).select picked).head? =
      some (if hit row then write row else row) := by
  have kept : (fun row => decide (picked row)) ∘ (fun row => if hit row then write row else row) =
      fun row => decide (picked row) := by
    funext row
    by_cases selected : hit row <;> simp [selected, same]
  unfold select at first ⊢
  rw [rows_update, List.filter_map, kept, List.head?_map, first]
  rfl

theorem select_insertEach_of_miss {picked : ρ → Prop} [DecidablePred picked]
    (miss : ∀ value key, ¬ picked (each value key)) :
    (table.insertEach values each keyedEach).select picked = table.select picked := by
  rw [select_insertEach, List.append_right_eq_self, List.filter_eq_nil_iff]
  intro row member
  obtain ⟨index, inRange, rfl⟩ := List.mem_mapIdx.mp member
  simpa using miss _ _

/-- An insert leaves what an older key finds as it was. -/
theorem find_insert_of_ne {key : Nat} {build : Nat → ρ}
    {keyed : ∀ key, Keyed.key (build key) = key} (older : key ≠ table.next) :
    (table.insert build keyed).find key = table.find key := by
  rw [find_insert, if_neg older]

/-- An update by key leaves every other key as it was. -/
theorem find_update_of_miss {key : Nat} (miss : ∀ row ∈ table, Keyed.key row = key → ¬ hit row) :
    (table.update hit write keeps).find key = table.find key := by
  rw [find_update]
  cases found : table.find key with
  | none => rfl
  | some row =>
    obtain ⟨member, same⟩ := find_eq_some.mp found
    simp [miss row member same]

/-- A clause whose rows are all one selects at most one. -/
theorem length_select_le_one
    (one : ∀ row other, row ∈ table.select hit → other ∈ table.select hit → row = other) :
    (table.select hit).length ≤ 1 := by
  have distinct : (table.select hit).Nodup := table.nodup_select
  revert one distinct
  cases table.select hit with
  | nil => simp
  | cons first rest =>
    intro one distinct
    cases rest with
    | nil => simp
    | cons second tail =>
      have same := one first second List.mem_cons_self (by simp)
      simp [same] at distinct

/-- A row of a table in which one key was written: another, or what the write made of that one. -/
theorem exists_update_key {key : Nat} {picked : ρ → Prop} :
    (∃ row ∈ table.update (fun row => Keyed.key row = key) write keeps, picked row) ↔
      (∃ row ∈ table, Keyed.key row ≠ key ∧ picked row) ∨
        ∃ row ∈ table.find key, picked (write row) := by
  constructor
  · rintro ⟨row, stored, holds⟩
    obtain ⟨old, oldIn, rfl⟩ := mem_update.mp stored
    by_cases hit : Keyed.key old = key
    · rw [if_pos hit] at holds
      exact Or.inr ⟨old, find_eq_some.mpr ⟨oldIn, hit⟩, holds⟩
    · rw [if_neg hit] at holds
      exact Or.inl ⟨old, oldIn, hit, holds⟩
  · rintro (⟨row, stored, other, holds⟩ | ⟨row, found, holds⟩)
    · exact ⟨row, mem_update_of_miss stored other, holds⟩
    · obtain ⟨stored, hit⟩ := find_eq_some.mp found
      exact ⟨write row, mem_update_of_hit stored hit, holds⟩

end Rows

/-! ## What becomes of rows -/

/-- Each row of an older key comes from the row that had it, changed no more than allowed; the
key of a deleted row does not come back. -/
structure Descends (allowed : ρ → ρ → Prop) (before after : Table ρ) : Prop where
  next : before.next ≤ after.next
  rows : ∀ row ∈ after, Keyed.key row < before.next →
    ∃ old ∈ before, Keyed.key old = Keyed.key row ∧ allowed old row

namespace Descends

variable {allowed : ρ → ρ → Prop} {table : Table ρ}

theorem of_eq {after : Table ρ} (same : after = table) (reflexive : ∀ row, allowed row row) :
    Descends allowed table after := by
  subst same
  exact ⟨le_rfl, fun row stored _ => ⟨row, stored, rfl, reflexive row⟩⟩

theorem trans {middle after : Table ρ} (first : Descends allowed table middle)
    (second : Descends allowed middle after)
    (transitive : ∀ old row new, allowed old row → allowed row new → allowed old new) :
    Descends allowed table after where
  next := first.next.trans second.next
  rows := by
    intro row stored older
    obtain ⟨between, there, same, later⟩ := second.rows row stored (by have := first.next; omega)
    obtain ⟨old, oldIn, oldKey, earlier⟩ := first.rows between there (by omega)
    exact ⟨old, oldIn, oldKey.trans same, transitive _ _ _ earlier later⟩

theorem update {hit : ρ → Prop} [DecidablePred hit] {write : ρ → ρ}
    {keeps : ∀ row, Keyed.key (write row) = Keyed.key row} (reflexive : ∀ row, allowed row row)
    (writes : ∀ row ∈ table, hit row → allowed row (write row)) :
    Descends allowed table (table.update hit write keeps) where
  next := le_of_eq next_update.symm
  rows := by
    intro row stored _
    obtain ⟨old, oldIn, rfl⟩ := mem_update.mp stored
    refine ⟨old, oldIn, ?_⟩
    by_cases selected : hit old
    · rw [if_pos selected]
      exact ⟨(keeps old).symm, writes old oldIn selected⟩
    · rw [if_neg selected]
      exact ⟨rfl, reflexive old⟩

theorem delete {hit : ρ → Prop} [DecidablePred hit] (reflexive : ∀ row, allowed row row) :
    Descends allowed table (table.delete hit) where
  next := le_of_eq next_delete.symm
  rows := fun row stored _ => ⟨row, (mem_delete.mp stored).1, rfl, reflexive row⟩

theorem insertEach {α : Type} {values : List α} {each : α → Nat → ρ}
    {keyed : ∀ value key, Keyed.key (each value key) = key} (reflexive : ∀ row, allowed row row) :
    Descends allowed table (table.insertEach values each keyed) where
  next := by
    rw [next_insertEach]
    exact Nat.le_add_right _ _
  rows := by
    intro row stored older
    rcases mem_insertEach.mp stored with old | ⟨index, _, rfl⟩
    · exact ⟨row, old, rfl, reflexive row⟩
    · rw [keyed] at older
      omega

theorem insert {build : Nat → ρ} {keyed : ∀ key, Keyed.key (build key) = key}
    (reflexive : ∀ row, allowed row row) :
    Descends allowed table (table.insert build keyed) :=
  insertEach reflexive

theorem mono {weaker : ρ → ρ → Prop} {after : Table ρ} (descends : Descends allowed table after)
    (weaken : ∀ old row, allowed old row → weaker old row) : Descends weaker table after where
  next := descends.next
  rows := by
    intro row stored older
    obtain ⟨old, oldIn, same, changed⟩ := descends.rows row stored older
    exact ⟨old, oldIn, same, weaken old row changed⟩

/-- What a key finds afterwards comes from what it found before. -/
theorem find {after : Table ρ} (descends : Descends allowed table after) {key : Nat} {row : ρ}
    (older : key < table.next) (found : after.find key = some row) :
    ∃ old, table.find key = some old ∧ allowed old row := by
  obtain ⟨stored, rfl⟩ := find_eq_some.mp found
  obtain ⟨old, oldIn, same, changed⟩ := descends.rows row stored older
  exact ⟨old, find_eq_some.mpr ⟨oldIn, same⟩, changed⟩

end Descends

/-- Each row is still found by its key, changed no more than allowed. -/
def Persists (allowed : ρ → ρ → Prop) (before after : Table ρ) : Prop :=
  ∀ row ∈ before, ∃ now, after.find (Keyed.key row) = some now ∧ allowed row now

namespace Persists

variable {allowed : ρ → ρ → Prop} {table : Table ρ}

theorem of_eq {after : Table ρ} (same : after = table) (reflexive : ∀ row, allowed row row) :
    Persists allowed table after :=
  fun row stored => ⟨row, same ▸ find_key stored, reflexive row⟩

theorem update {hit : ρ → Prop} [DecidablePred hit] {write : ρ → ρ}
    {keeps : ∀ row, Keyed.key (write row) = Keyed.key row} (reflexive : ∀ row, allowed row row)
    (writes : ∀ row ∈ table, hit row → allowed row (write row)) :
    Persists allowed table (table.update hit write keeps) := by
  intro row stored
  refine ⟨if hit row then write row else row, ?_, ?_⟩
  · rw [find_update, find_key stored]
    rfl
  · split
    · exact writes row stored ‹_›
    · exact reflexive row

theorem insert {build : Nat → ρ} {keyed : ∀ key, Keyed.key (build key) = key}
    (reflexive : ∀ row, allowed row row) : Persists allowed table (table.insert build keyed) :=
  fun row stored => ⟨row, find_insert_of_found (find_key stored), reflexive row⟩

theorem mono {weaker : ρ → ρ → Prop} {after : Table ρ} (persists : Persists allowed table after)
    (weaken : ∀ row now, allowed row now → weaker row now) : Persists weaker table after := by
  intro row stored
  obtain ⟨now, found, changed⟩ := persists row stored
  exact ⟨now, found, weaken row now changed⟩

/-- What a key finds afterwards is what became of what it found before. -/
theorem find {after : Table ρ} (persists : Persists allowed table after) {row now : ρ}
    (stored : row ∈ table) (found : after.find (Keyed.key row) = some now) : allowed row now := by
  obtain ⟨other, there, changed⟩ := persists row stored
  cases there.symm.trans found
  exact changed

theorem isSome_find {after : Table ρ} (persists : Persists allowed table after) {key : Nat}
    (there : (table.find key).isSome) : (after.find key).isSome := by
  obtain ⟨row, stored, rfl⟩ := Table.isSome_find.mp there
  obtain ⟨now, found, _⟩ := persists row stored
  exact Option.isSome_iff_exists.mpr ⟨now, found⟩

end Persists

/-! ## Sums -/

section Sums

variable {table : Table ρ} {row : ρ} {weight other : ρ → Nat}

@[simp] theorem sum_zero : table.sum (fun _ => 0) = 0 := by
  simp [sum]

theorem sum_of_empty (none : table.rows = []) : table.sum weight = 0 := by
  simp [sum, none]

theorem sum_congr (same : ∀ row ∈ table, weight row = other row) :
    table.sum weight = table.sum other := by
  unfold sum
  rw [List.map_congr_left same]

theorem sum_add : table.sum (fun row => weight row + other row) =
    table.sum weight + table.sum other := by
  unfold sum
  induction table.rows with
  | nil => rfl
  | cons head tail ih =>
    simp only [List.map_cons, List.sum_cons, ih]
    omega

theorem sum_eq_zero (zero : ∀ row ∈ table, weight row = 0) : table.sum weight = 0 := by
  unfold sum
  rw [List.sum_eq_zero_iff]
  intro value member
  obtain ⟨row, stored, rfl⟩ := List.mem_map.mp member
  exact zero row stored

theorem weight_le_sum (member : row ∈ table) : weight row ≤ table.sum weight :=
  List.single_le_sum (fun _ _ => Nat.zero_le _) _ (List.mem_map_of_mem member)

theorem sum_le_sum (le : ∀ row ∈ table, weight row ≤ other row) :
    table.sum weight ≤ table.sum other :=
  List.sum_le_sum le

/-- Inserted rows whose weight is read off their value alone. -/
theorem sum_insertEach {α : Type} {values : List α} {each : α → Nat → ρ}
    {keyedEach : ∀ value key, Keyed.key (each value key) = key} {value : α → Nat}
    (weighs : ∀ v key, weight (each v key) = value v) :
    (table.insertEach values each keyedEach).sum weight =
      table.sum weight + (values.map value).sum := by
  unfold sum
  rw [rows_insertEach, List.map_append, List.sum_append]
  congr 2
  refine List.ext_getElem (by simp) fun index _ _ => ?_
  simp [weighs]

/-- A clause whose rows are all one weighs no more than any bound on it. -/
theorem sum_select_le {hit : ρ → Prop} [DecidablePred hit] {bound : Nat}
    (one : ∀ row other, row ∈ table.select hit → other ∈ table.select hit → row = other)
    (bounded : ∀ row ∈ table.select hit, weight row ≤ bound) :
    ((table.select hit).map weight).sum ≤ bound := by
  have short := length_select_le_one one
  revert short bounded
  cases table.select hit with
  | nil => simp
  | cons first rest =>
    intro bounded short
    cases rest with
    | nil => simpa using bounded first
    | cons _ _ => simp at short

/-- Adding over the rows a clause selects. -/
theorem sum_select {hit : ρ → Prop} [DecidablePred hit] :
    ((table.select hit).map weight).sum = table.sum fun row => if hit row then weight row else 0 := by
  unfold sum select
  induction table.rows with
  | nil => rfl
  | cons head tail ih =>
    by_cases selected : hit head
    · simp [selected, ih]
    · simp [selected, ih]

/-- Counting the rows a clause selects. -/
theorem length_select {hit : ρ → Prop} [DecidablePred hit] :
    (table.select hit).length = table.sum fun row => if hit row then 1 else 0 := by
  rw [← sum_select]
  simp

theorem sum_delete {hit : ρ → Prop} [DecidablePred hit] :
    (table.delete hit).sum weight = table.sum fun row => if hit row then 0 else weight row := by
  unfold sum
  rw [rows_delete]
  induction table.rows with
  | nil => rfl
  | cons head tail ih =>
    by_cases gone : hit head
    · simpa [gone] using ih
    · simpa [gone] using ih

theorem sum_insert {build : Nat → ρ} {keyed : ∀ key, Keyed.key (build key) = key} :
    (table.insert build keyed).sum weight = table.sum weight + weight (build table.next) := by
  simp [sum]

theorem sum_update {hit : ρ → Prop} [DecidablePred hit] {write : ρ → ρ}
    {keeps : ∀ row, Keyed.key (write row) = Keyed.key row} :
    (table.update hit write keeps).sum weight =
      table.sum fun row => weight (if hit row then write row else row) := by
  simp [sum, Function.comp_def]

/-- Two weights that agree off one row differ exactly by that row. -/
theorem sum_exchange (member : row ∈ table)
    (same : ∀ other' ∈ table, Keyed.key other' ≠ Keyed.key row → weight other' = other other') :
    table.sum weight + other row = table.sum other + weight row := by
  obtain ⟨before, after, split⟩ := List.append_of_mem (mem_def.mp member)
  have distinct := table.distinct
  rw [split] at distinct
  simp only [List.map_append, List.map_cons, List.nodup_append, List.nodup_cons, List.mem_map,
    List.mem_cons] at distinct
  have left : before.map weight = before.map other := by
    refine List.map_congr_left fun old stored => same old ?_ ?_
    · rw [mem_def, split]
      exact List.mem_append_left _ stored
    · exact distinct.2.2 _ ⟨old, stored, rfl⟩ _ (Or.inl rfl)
  have right : after.map weight = after.map other := by
    refine List.map_congr_left fun old stored => same old ?_ ?_
    · rw [mem_def, split]
      exact List.mem_append_right _ (List.mem_cons_of_mem _ stored)
    · exact fun clash => distinct.2.1.1 ⟨old, stored, clash⟩
  unfold sum
  rw [split]
  simp only [List.map_append, List.map_cons, List.sum_append, List.sum_cons, left, right]
  omega

/-- An update by key exchanges one row's weight. -/
theorem sum_update_key {key : Nat} {write : ρ → ρ}
    {keeps : ∀ row, Keyed.key (write row) = Keyed.key row} (found : table.find key = some row) :
    (table.update (fun r => Keyed.key r = key) write keeps).sum weight + weight row =
      table.sum weight + weight (write row) := by
  obtain ⟨member, rfl⟩ := find_eq_some.mp found
  rw [sum_update]
  let written := fun r => weight (if Keyed.key r = Keyed.key row then write r else r)
  have exchange : table.sum written + weight row = table.sum weight + written row :=
    sum_exchange member fun other' _ different => by simp [written, different]
  simpa [written] using exchange

end Sums

-- From here on an operation is known by its rules, never by its rows.
attribute [irreducible] insertEach insert update delete

end Table

end EventaApi.Library
