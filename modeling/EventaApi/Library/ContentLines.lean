import Mathlib.Data.List.Basic

/-!
# Folded content lines

A text of lines ended by CR LF, where a line that starts with white space continues the one
before it. Lines are read back as they were joined where none holds a line feed: a CR of its
own belongs to its line.
-/
namespace EventaApi.Library

def CR : Nat := 13

def LF : Nat := 10

/-- What a continuation starts with. -/
def isFoldMark (unit : Nat) : Bool := unit = 32 || unit = 9

def joinLines (lines : List (List Nat)) : List Nat := [CR, LF].intercalate lines

/-- Split at each CR LF. -/
def splitLines : List Nat → List (List Nat)
  | [] => [[]]
  | [unit] => [[unit]]
  | unit :: next :: rest =>
    if unit = CR ∧ next = LF then [] :: splitLines rest
    else (splitLines (next :: rest)).modifyHead (unit :: ·)

/-- Take out each CR LF with the white space behind it. -/
def removeFolds : List Nat → List Nat
  | unit :: next :: mark :: rest =>
    if unit = CR ∧ next = LF ∧ isFoldMark mark = true then removeFolds rest
    else unit :: removeFolds (next :: mark :: rest)
  | rest => rest

variable {line rest : List Nat}

theorem joinLines_cons {lines : List (List Nat)} (more : lines ≠ []) :
    joinLines (line :: lines) = line ++ CR :: LF :: joinLines lines := by
  obtain ⟨next, others, rfl⟩ := List.exists_cons_of_ne_nil more
  simp [joinLines, List.intercalate]

@[simp] theorem joinLines_single : joinLines [line] = line := by simp [joinLines, List.intercalate]

theorem joinLines_append {before after : List (List Nat)} (some : before ≠ []) (more : after ≠ []) :
    joinLines (before ++ after) = joinLines before ++ CR :: LF :: joinLines after := by
  induction before with
  | nil => exact absurd rfl some
  | cons line others ih =>
    by_cases last : others = []
    · rw [last, List.singleton_append, joinLines_cons more, joinLines_single]
    · rw [List.cons_append, joinLines_cons (List.append_ne_nil_of_left_ne_nil last _), ih last,
        joinLines_cons last, List.append_assoc, List.cons_append, List.cons_append]

/-- Lines that are joined of lines. -/
theorem joinLines_flatMap {α : Type} {entries : List α} {pieces : α → List (List Nat)}
    (some : ∀ entry, pieces entry ≠ []) :
    joinLines (entries.map fun entry => joinLines (pieces entry)) =
      joinLines (entries.flatMap pieces) := by
  induction entries with
  | nil => rfl
  | cons entry others ih =>
    rw [List.map_cons, List.flatMap_cons]
    by_cases last : others = []
    · rw [last, List.map_nil, List.flatMap_nil, List.append_nil, joinLines_single]
    · obtain ⟨next, tail, shape⟩ := List.exists_cons_of_ne_nil last
      have more : others.flatMap pieces ≠ [] := by
        rw [shape, List.flatMap_cons]
        exact List.append_ne_nil_of_left_ne_nil (some next) _
      rw [joinLines_cons (by simpa using last), joinLines_append (some entry) more, ih]

/-! ## Splitting -/

theorem splitLines_cons {unit : Nat} (apart : ¬ (unit = CR ∧ rest.head? = some LF)) :
    splitLines (unit :: rest) = (splitLines rest).modifyHead (unit :: ·) := by
  cases rest with
  | nil => rfl
  | cons next tail =>
    rw [splitLines, if_neg]
    rintro ⟨rfl, rfl⟩
    exact apart ⟨rfl, rfl⟩

/-- A line without a line feed is the first, up to the CR LF behind it. -/
theorem splitLines_append (plain : LF ∉ line) :
    splitLines (line ++ CR :: LF :: rest) = line :: splitLines rest := by
  induction line with
  | nil => rw [List.nil_append, splitLines, if_pos ⟨rfl, rfl⟩]
  | cons unit tail ih =>
    rw [List.mem_cons, not_or] at plain
    rw [List.cons_append, splitLines_cons, ih plain.2]
    · rfl
    · rintro ⟨rfl, next⟩
      cases tail with
      | nil => exact absurd (Option.some.inj next) (by decide)
      | cons second others =>
        rw [List.cons_append, List.head?_cons, Option.some.injEq] at next
        exact plain.2 (next ▸ List.mem_cons_self)

theorem splitLines_plain (plain : LF ∉ line) : splitLines line = [line] := by
  induction line with
  | nil => rfl
  | cons unit tail ih =>
    rw [List.mem_cons, not_or] at plain
    rw [splitLines_cons, ih plain.2]
    · rfl
    · rintro ⟨rfl, next⟩
      exact plain.2 (List.mem_of_mem_head? next)

/-- Joined lines split into the lines. -/
theorem splitLines_joinLines {lines : List (List Nat)} (some : lines ≠ [])
    (plain : ∀ line ∈ lines, LF ∉ line) : splitLines (joinLines lines) = lines := by
  induction lines with
  | nil => exact absurd rfl some
  | cons line others ih =>
    have first := plain line List.mem_cons_self
    by_cases more : others = []
    · rw [more, joinLines_single, splitLines_plain first]
    · rw [joinLines_cons more, splitLines_append first,
        ih more fun other member => plain other (List.mem_cons_of_mem _ member)]

/-! ## Unfolding -/

theorem removeFolds_cons {unit : Nat} (apart : ¬ (unit = CR ∧ rest.head? = some LF)) :
    removeFolds (unit :: rest) = unit :: removeFolds rest := by
  match rest with
  | [] => rfl
  | [next] => rfl
  | next :: mark :: others =>
    rw [removeFolds, if_neg]
    rintro ⟨rfl, rfl, _⟩
    exact apart ⟨rfl, rfl⟩

/-- A line without a line feed stays, whatever comes behind the CR LF after it. -/
theorem removeFolds_append (plain : LF ∉ line) :
    removeFolds (line ++ CR :: LF :: rest) = line ++ removeFolds (CR :: LF :: rest) := by
  induction line with
  | nil => rfl
  | cons unit tail ih =>
    rw [List.mem_cons, not_or] at plain
    rw [List.cons_append, removeFolds_cons, ih plain.2, List.cons_append]
    rintro ⟨rfl, next⟩
    cases tail with
    | nil => exact absurd (Option.some.inj next) (by decide)
    | cons second others =>
      rw [List.cons_append, List.head?_cons, Option.some.injEq] at next
      exact plain.2 (next ▸ List.mem_cons_self)

theorem removeFolds_plain (plain : LF ∉ line) : removeFolds line = line := by
  induction line with
  | nil => rfl
  | cons unit tail ih =>
    rw [List.mem_cons, not_or] at plain
    rw [removeFolds_cons, ih plain.2]
    rintro ⟨rfl, next⟩
    exact plain.2 (List.mem_of_mem_head? next)

/-- A fold goes. -/
theorem removeFolds_fold {mark : Nat} (white : isFoldMark mark = true) :
    removeFolds (CR :: LF :: mark :: rest) = removeFolds rest := by
  rw [removeFolds, if_pos ⟨rfl, rfl, white⟩]

/-- A line's end stays. -/
theorem removeFolds_break {unit : Nat} (black : isFoldMark unit = false) :
    removeFolds (CR :: LF :: unit :: rest) = CR :: LF :: removeFolds (unit :: rest) := by
  rw [removeFolds, if_neg (by simp [black]), removeFolds_cons fun both => absurd both.1 (by decide)]

end EventaApi.Library
