import Mathlib.Data.List.Basic
import Mathlib.Tactic.Linarith

/-!
# Text as UTF-16 code units

A character is one unit, or two surrogates where it is past the first plane. `scalars` reads
characters back, and `octets` counts what the units take in UTF-8: one octet a unit at least,
and one each exactly where all of them are ASCII. A surrogate without its other half is read,
and written, as the replacement character.
-/
namespace EventaApi.Library

def REPLACEMENT : Char := '\uFFFD'

def isHighSurrogate (unit : Nat) : Bool := 0xD800 ≤ unit && unit < 0xDC00

def isLowSurrogate (unit : Nat) : Bool := 0xDC00 ≤ unit && unit < 0xE000

def charUnits (char : Char) : List Nat :=
  if char.toNat < 0x10000 then [char.toNat]
  else [0xD800 + (char.toNat - 0x10000) / 0x400, 0xDC00 + (char.toNat - 0x10000) % 0x400]

/-- The code units of a text. -/
def utf16 (text : List Char) : List Nat := text.flatMap charUnits

/-- One unit alone. -/
def unitChar (unit : Nat) : Char :=
  if isHighSurrogate unit || isLowSurrogate unit then REPLACEMENT else Char.ofNat unit

/-- The characters of code units. -/
def scalars : List Nat → List Char
  | [] => []
  | [unit] => [unitChar unit]
  | high :: low :: rest =>
    if isHighSurrogate high && isLowSurrogate low then
      Char.ofNat (0x10000 + (high - 0xD800) * 0x400 + (low - 0xDC00)) :: scalars rest
    else unitChar high :: scalars (low :: rest)

/-- What one unit takes that is not half of a pair. -/
def unitOctets (unit : Nat) : Nat :=
  if unit < 0x80 then 1 else if unit < 0x800 then 2 else 3

/-- The length in UTF-8. -/
def octets : List Nat → Nat
  | [] => 0
  | [unit] => unitOctets unit
  | high :: low :: rest =>
    if isHighSurrogate high && isLowSurrogate low then 4 + octets rest
    else unitOctets high + octets (low :: rest)

abbrev isAscii (unit : Nat) : Prop := unit < 0x80

/-! ## Reading characters back -/

theorem utf16_append (left right : List Char) : utf16 (left ++ right) = utf16 left ++ utf16 right :=
  List.flatMap_append

theorem utf16_cons (char : Char) (rest : List Char) :
    utf16 (char :: rest) = charUnits char ++ utf16 rest :=
  List.flatMap_cons

/-- A character is no surrogate, and below the last plane's end. -/
theorem char_range (char : Char) :
    char.toNat < 0xD800 ∨ 0xE000 ≤ char.toNat ∧ char.toNat < 0x110000 := by
  have valid := char.valid
  simp only [UInt32.isValidChar, Nat.isValidChar] at valid
  unfold Char.toNat
  omega

theorem scalars_cons_plain {unit : Nat} (plain : ¬ isHighSurrogate unit = true)
    (rest : List Nat) : scalars (unit :: rest) = unitChar unit :: scalars rest := by
  cases rest with
  | nil => rfl
  | cons next tail =>
    rw [scalars, if_neg]
    simp [plain]

theorem octets_cons_plain {unit : Nat} (plain : ¬ isHighSurrogate unit = true)
    (rest : List Nat) : octets (unit :: rest) = unitOctets unit + octets rest := by
  cases rest with
  | nil => rfl
  | cons next tail =>
    rw [octets, if_neg]
    simp [plain]

/-- The characters of a text's units are the text. -/
theorem scalars_utf16 (text : List Char) : scalars (utf16 text) = text := by
  induction text with
  | nil => rfl
  | cons char rest ih =>
    rw [utf16_cons]
    unfold charUnits
    have range := char_range char
    split
    next small =>
      have plain : ¬ isHighSurrogate char.toNat = true := by
        simp only [isHighSurrogate, Bool.and_eq_true, decide_eq_true_eq]
        omega
      have whole : unitChar char.toNat = char := by
        have single : ¬ (isHighSurrogate char.toNat || isLowSurrogate char.toNat) = true := by
          simp only [isHighSurrogate, isLowSurrogate, Bool.or_eq_true,
            Bool.and_eq_true, decide_eq_true_eq]
          omega
        rw [unitChar, if_neg single, Char.ofNat_toNat]
      rw [List.singleton_append, scalars_cons_plain plain, whole, ih]
    next large =>
      have paired : (isHighSurrogate (0xD800 + (char.toNat - 0x10000) / 0x400) &&
          isLowSurrogate (0xDC00 + (char.toNat - 0x10000) % 0x400)) = true := by
        simp only [isHighSurrogate, isLowSurrogate, Bool.and_eq_true,
          decide_eq_true_eq]
        omega
      have value : 0x10000 + (0xD800 + (char.toNat - 0x10000) / 0x400 - 0xD800) * 0x400 +
          (0xDC00 + (char.toNat - 0x10000) % 0x400 - 0xDC00) = char.toNat := by
        omega
      rw [List.cons_append, List.cons_append, List.nil_append, scalars, if_pos paired, value,
        Char.ofNat_toNat, ih]

/-- An ASCII unit of a text is a character of it. -/
theorem mem_utf16_ascii {text : List Char} {char : Char} (ascii : char.toNat < 0x80)
    (member : char.toNat ∈ utf16 text) : char ∈ text := by
  obtain ⟨other, stored, unit⟩ := List.mem_flatMap.mp member
  unfold charUnits at unit
  split at unit
  next small =>
    have same : char = other := by
      rw [← Char.ofNat_toNat char, List.mem_singleton.mp unit, Char.ofNat_toNat]
    exact same ▸ stored
  next large =>
    simp only [List.mem_cons, List.not_mem_nil, or_false] at unit
    omega

theorem utf16_cons_ascii {char : Char} (ascii : char.toNat < 0x80) (rest : List Char) :
    utf16 (char :: rest) = char.toNat :: utf16 rest := by
  rw [utf16_cons, charUnits, if_pos (by omega)]
  rfl

/-! ## Counting octets -/

theorem unitOctets_pos (unit : Nat) : 1 ≤ unitOctets unit := by
  unfold unitOctets
  split
  · exact le_rfl
  · split <;> decide

theorem length_le_octets (line : List Nat) : line.length ≤ octets line := by
  induction line using octets.induct with
  | case1 => exact le_rfl
  | case2 unit => exact unitOctets_pos unit
  | case3 high low rest pair ih =>
    rw [octets, if_pos pair]
    simp only [List.length_cons]
    omega
  | case4 high low rest apart ih =>
    have first := unitOctets_pos high
    rw [octets, if_neg apart]
    simp only [List.length_cons] at ih ⊢
    omega

theorem ascii_plain {unit : Nat} (ascii : isAscii unit) : ¬ isHighSurrogate unit = true := by
  have small : unit < 0x80 := ascii
  simp only [isHighSurrogate, Bool.and_eq_true, decide_eq_true_eq]
  omega

theorem octets_cons_ascii {unit : Nat} (ascii : isAscii unit) (rest : List Nat) :
    octets (unit :: rest) = 1 + octets rest := by
  rw [octets_cons_plain (ascii_plain ascii), unitOctets, if_pos ascii]

theorem octets_append_ascii {head : List Nat} (ascii : ∀ unit ∈ head, isAscii unit)
    (tail : List Nat) : octets (head ++ tail) = head.length + octets tail := by
  induction head with
  | nil => simp
  | cons unit rest ih =>
    rw [List.cons_append, octets_cons_ascii (ascii unit List.mem_cons_self),
      ih fun next member => ascii next (List.mem_cons_of_mem _ member), List.length_cons]
    omega

theorem octets_ascii {line : List Nat} (ascii : ∀ unit ∈ line, isAscii unit) :
    octets line = line.length := by
  have alone := octets_append_ascii ascii []
  rwa [List.append_nil] at alone

/-- Only ASCII takes an octet a unit. -/
theorem ascii_of_octets {line : List Nat} (tight : octets line ≤ line.length) :
    ∀ unit ∈ line, isAscii unit := by
  induction line using octets.induct with
  | case1 => simp
  | case2 unit =>
    intro other member
    rw [List.mem_singleton] at member
    subst member
    unfold isAscii
    by_contra wide
    simp only [octets, unitOctets, List.length_singleton, if_neg wide] at tight
    split at tight <;> omega
  | case3 high low rest pair ih =>
    rw [octets, if_pos pair] at tight
    have least := length_le_octets rest
    simp only [List.length_cons] at tight
    omega
  | case4 high low rest apart ih =>
    rw [octets, if_neg apart] at tight
    have least := length_le_octets (low :: rest)
    have first := unitOctets_pos high
    simp only [List.length_cons] at tight least ih
    intro unit member
    rcases List.mem_cons.mp member with rfl | later
    · unfold isAscii
      by_contra wide
      have more : 2 ≤ unitOctets unit := by
        unfold unitOctets
        rw [if_neg wide]
        split <;> decide
      omega
    · exact ih (by omega) unit later

/-- What follows ASCII in a text is a text. -/
theorem utf16_drop_ascii {head tail : List Nat} (ascii : ∀ unit ∈ head, isAscii unit)
    {text : List Char} (whole : utf16 text = head ++ tail) :
    ∃ left right, head = utf16 left ∧ tail = utf16 right := by
  induction head generalizing text with
  | nil => exact ⟨[], text, rfl, whole.symm⟩
  | cons unit rest ih =>
    cases text with
    | nil => cases whole
    | cons char after =>
      have small : unit < 0x80 := ascii unit List.mem_cons_self
      rw [utf16_cons, List.cons_append] at whole
      unfold charUnits at whole
      split at whole
      next single =>
        rw [List.singleton_append, List.cons.injEq] at whole
        obtain ⟨left, right, before, behind⟩ :=
          ih (fun next member => ascii next (List.mem_cons_of_mem _ member)) whole.2
        refine ⟨char :: left, right, ?_, behind⟩
        rw [utf16_cons, charUnits, if_pos single, ← before, whole.1]
        rfl
      next pair =>
        rw [List.cons_append, List.cons.injEq] at whole
        omega

end EventaApi.Library
