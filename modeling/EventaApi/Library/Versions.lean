import EventaApi.Library.Table

/-!
# Rows with a version

Where every write of what matters about a row counts its version up, whoever read a row and
finds the same version still knows what mattered of it. `view` is what matters: it may change
only together with the version, which never goes back.
-/
namespace EventaApi.Library

variable {ρ β : Type} {version : ρ → Nat} {view : ρ → β}

/-- The row has moved on, if at all, with its version. -/
structure Moves (version : ρ → Nat) (view : ρ → β) (old row : ρ) : Prop where
  forward : version old ≤ version row
  same : version row = version old → view row = view old

namespace Moves

theorem refl (row : ρ) : Moves version view row row := ⟨le_rfl, fun _ => rfl⟩

theorem trans (old row new : ρ) (first : Moves version view old row)
    (second : Moves version view row new) : Moves version view old new := by
  refine ⟨first.forward.trans second.forward, fun unmoved => ?_⟩
  have between : version new = version row := by
    have := first.forward
    have := second.forward
    omega
  exact (second.same between).trans (first.same (between.symm.trans unmoved))

/-- A write that leaves alone what matters may leave the version alone. -/
theorem of_eq {old row : ρ} (unmoved : version row = version old) (alike : view row = view old) :
    Moves version view old row :=
  ⟨unmoved.ge, fun _ => alike⟩

/-- A write that counts the version up may change what it likes. -/
theorem of_lt {old row : ρ} (counted : version old < version row) : Moves version view old row :=
  ⟨counted.le, fun unmoved => absurd unmoved counted.ne'⟩

end Moves

variable [Keyed ρ]

/-- The row was read from this table, and has moved on with its version since. -/
structure Recalls (version : ρ → Nat) (view : ρ → β) (table : Table ρ) (row : ρ) : Prop where
  known : Keyed.key row < table.next
  moves : ∀ now ∈ table.find (Keyed.key row), Moves version view row now

namespace Recalls

variable {table after : Table ρ} {row now : ρ}

theorem of_mem (stored : row ∈ table) : Recalls version view table row := by
  refine ⟨Table.key_lt_next stored, fun now found => ?_⟩
  cases (Table.find_key stored).symm.trans found
  exact .refl row

/-- What was read is recalled whatever the table does by its versions. -/
theorem later (recalls : Recalls version view table row)
    (descends : Table.Descends (Moves version view) table after) :
    Recalls version view after row := by
  refine ⟨recalls.known.trans_le descends.next, fun now found => ?_⟩
  obtain ⟨old, oldFound, moved⟩ := descends.find recalls.known found
  exact .trans _ _ _ (recalls.moves old oldFound) moved

/-- The row that is found at the version that was read is as it was read. -/
theorem unmoved (recalls : Recalls version view table row) (stored : now ∈ table)
    (named : Keyed.key now = Keyed.key row) (same : version now = version row) :
    view now = view row :=
  (recalls.moves now (Table.find_eq_some.mpr ⟨stored, named⟩)).same same

end Recalls

end EventaApi.Library
