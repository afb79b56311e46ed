import EventaApi.Library.Csv
import EventaApi.Source.Csv

/-!
# Exported tables

What is exported is read back cell by cell: a number as its decimal text, a missing value as the
empty cell, and a text as itself, behind an apostrophe where a spreadsheet would run it.
-/
namespace EventaApi.Guarantees
open Library Source

/-! ## What a cell is read as -/

/-- The text would be run as a formula. -/
def StartsFormula (text : List Char) : Prop := ∃ lead ∈ FORMULA_LEADS, text.head? = some lead

theorem startsFormula_iff (text : List Char) :
    (FORMULA_LEADS.any fun lead => [lead].isPrefixOf text) = true ↔ StartsFormula text := by
  unfold StartsFormula
  rw [List.any_eq_true]
  cases text with
  | nil => simp
  | cons first rest =>
    have begins (lead : Char) : [lead].isPrefixOf (first :: rest) = true ↔
        (first :: rest).head? = some lead := by
      rw [List.isPrefixOf_iff_prefix, List.cons_prefix_cons, List.head?_cons, Option.some.injEq]
      exact ⟨fun same => same.1.symm, fun same => ⟨same.symm, List.nil_prefix⟩⟩
    simp only [begins]

instance : DecidablePred StartsFormula := fun text => decidable_of_iff _ (startsFormula_iff text)

/-- The content of a cell. -/
def readAs : CsvValue → List Char
  | .text value => if StartsFormula value.toList then APOSTROPHE :: value.toList else value.toList
  | .number value => numberText value
  | .null | .undefined => []

/-- No text is read as one that would be run. -/
theorem not_startsFormula_readAs (value : String) : ¬ StartsFormula (readAs (.text value)) := by
  show ¬ StartsFormula
    (if StartsFormula value.toList then APOSTROPHE :: value.toList else value.toList)
  split
  next =>
    rintro ⟨lead, member, opens⟩
    have itself : APOSTROPHE ∉ FORMULA_LEADS := by decide
    rw [List.head?_cons, Option.some.injEq] at opens
    exact itself (opens ▸ member)
  next plain => exact plain

/-! ## What is written -/

/-- Nothing of the text needs quotes. -/
def Clean (text : List Char) : Prop := ∀ char ∈ text, isStructural char = false

theorem Clean.append {former latter : List Char} (clean : Clean former) (clean' : Clean latter) :
    Clean (former ++ latter) := by
  intro char member
  rcases List.mem_append.mp member with before | after
  · exact clean char before
  · exact clean' char after

theorem Clean.sublist {part text : List Char} (clean : Clean text) (sub : part.Sublist text) :
    Clean part := fun char member => clean char (sub.subset member)

theorem clean_replicate (times : Nat) : Clean (List.replicate times '0') := by
  intro char member
  rw [List.eq_of_mem_replicate member]
  decide

theorem clean_toDigits (value : Nat) : Clean (Nat.toDigits 10 value) := by
  intro char member
  have digit := Nat.isDigit_of_mem_toDigits (by decide) (by decide) member
  have bounds : 48 ≤ char.toNat ∧ char.toNat ≤ 57 := Char.isDigit_iff_toNat.mp digit
  have none : ∀ code ∈ List.range' 48 10, isStructural (Char.ofNat code) = false := by decide
  rw [← Char.ofNat_toNat char]
  exact none char.toNat (List.mem_range'_1.mpr (by omega))

theorem clean_of_all {text : List Char} (all : text.all (fun char => !isStructural char) = true) :
    Clean text := fun char member => by simpa using List.all_eq_true.mp all char member

theorem clean_unsignedText (significand : Nat) (point : Int) :
    Clean (unsignedText significand point) := by
  unfold unsignedText
  extract_lets digits exponent
  have written : Clean digits := clean_toDigits significand
  have dot : Clean ['.'] := clean_of_all (by decide)
  have behind : Clean exponent := by
    have mark : Clean ['e', if point < 1 then '-' else '+'] := by
      split
      · exact clean_of_all (by decide)
      · exact clean_of_all (by decide)
    exact mark.append (clean_toDigits _)
  split
  · exact clean_of_all (by decide)
  split
  · exact written.append (clean_replicate _)
  split
  · exact (written.sublist (List.take_sublist _ _)).append
      (dot.append (written.sublist (List.drop_sublist _ _)))
  split
  · have zero : Clean ['0', '.'] := clean_of_all (by decide)
    exact (zero.append (clean_replicate _)).append written
  split
  · exact written.append behind
  · exact ((written.sublist (List.take_sublist _ _)).append
      (dot.append (written.sublist (List.drop_sublist _ _)))).append behind

theorem clean_numberText (value : FiniteNumber) : Clean (numberText value) := by
  have sign : Clean ['-'] := clean_of_all (by decide)
  unfold numberText
  split
  · exact sign.append (clean_unsignedText _ _)
  · exact clean_unsignedText _ _

/-- A cell is written as RFC 4180 has its content. -/
theorem cell_writes (value : CsvValue) : Writes (readAs value) (cell value) := by
  cases value with
  | text value =>
    unfold readAs cell
    dsimp only
    by_cases formula : StartsFormula value.toList
    · rw [if_pos formula, (startsFormula_iff _).mpr formula]
      exact .quoted
    · have plain : (FORMULA_LEADS.any fun lead => [lead].isPrefixOf value.toList) = false := by
        rw [Bool.eq_false_iff]
        exact mt (startsFormula_iff _).mp formula
      rw [if_neg formula, plain]
      by_cases quoting : value.toList.any NEEDS_QUOTING.contains = true
      · simp only [Bool.false_eq_true, if_false, Bool.false_or, if_pos quoting]
        exact .quoted
      · simp only [Bool.false_eq_true, if_false, Bool.false_or, if_neg quoting]
        apply Writes.plain
        intro char member
        rw [Bool.eq_false_iff]
        intro structural
        exact quoting (List.any_eq_true.mpr ⟨char, member, structural⟩)
  | number value =>
    exact .plain (clean_numberText value)
  | null =>
    apply Writes.plain
    simp [readAs]
  | undefined =>
    apply Writes.plain
    simp [readAs]

theorem intercalate_lines (first : List Char) (rest : List (List Char)) :
    ['\n'].intercalate (first :: rest) ++ ['\n'] = (first :: rest).flatMap (· ++ ['\n']) := by
  induction rest generalizing first with
  | nil => simp [List.intercalate]
  | cons next others ih =>
    have joined : ['\n'].intercalate (first :: next :: others) =
        first ++ '\n' :: ['\n'].intercalate (next :: others) := by
      simp [List.intercalate]
    rw [joined, List.flatMap_cons, ← ih]
    simp

theorem toCsv_eq (header : List String) (rows : List (List CsvValue)) :
    (toCsv header rows).toList = UTF8_BOM ::
      ((header.map .text :: rows).map (·.map cell)).flatMap joinFields := by
  unfold toCsv
  rw [String.toList_ofList, List.cons_append, intercalate_lines]
  simp only [List.map_cons, List.flatMap_cons, List.map_map, List.flatMap_map]
  rfl

/-- An exported table is read back: behind the byte-order mark are its rows, each cell read as its
value; and no text of it would be run as a formula. -/
theorem toCsv_round_trips (header : List String) (rows : List (List CsvValue))
    (named : header ≠ []) (filled : ∀ row ∈ rows, row ≠ []) :
    (∃ rest, (toCsv header rows).toList = UTF8_BOM :: rest ∧
      parseCsv rest = some (header.map (fun name => readAs (.text name)) ::
        rows.map (·.map readAs))) ∧
      ∀ text, ¬ StartsFormula (readAs (.text text)) := by
  refine ⟨⟨_, toCsv_eq header rows, ?_⟩, not_startsFormula_readAs⟩
  have table : (header.map (fun name => readAs (.text name)) :: rows.map (·.map readAs)) =
      (header.map CsvValue.text :: rows).map (·.map readAs) := by simp
  rw [table]
  apply parseCsv_written
  · apply List.forall₂_map_left_iff.mpr
    apply List.forall₂_map_right_iff.mpr
    apply List.forall₂_same.mpr
    intro row _
    apply List.forall₂_map_left_iff.mpr
    apply List.forall₂_map_right_iff.mpr
    apply List.forall₂_same.mpr
    intro value _
    exact cell_writes value
  · intro fields member
    obtain ⟨row, among, rfl⟩ := List.mem_map.mp member
    rcases List.mem_cons.mp among with rfl | later
    · simpa using named
    · simpa using filled row later

theorem exported_formula :
    readAs (.text "=1") = [APOSTROPHE, '=', '1'] ∧
      (∃ rest, (toCsv ["note"] [[.text "=1"], [.null]]).toList = UTF8_BOM :: rest ∧
        parseCsv rest = some (["note"].map (fun name => readAs (.text name)) ::
          [[.text "=1"], [.null]].map (·.map readAs))) ∧
      ∀ text, ¬ StartsFormula (readAs (.text text)) :=
  ⟨by decide +kernel, toCsv_round_trips ["note"] [[.text "=1"], [.null]] (by decide) (by decide)⟩

end EventaApi.Guarantees
