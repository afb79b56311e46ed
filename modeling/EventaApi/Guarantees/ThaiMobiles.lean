import EventaApi.Source.PhoneVerification

/-!
# The spellings of a Thai mobile

Without its separators a Thai mobile is spelled with its trunk zero, or with the country code
behind an international prefix or none, and one stray trunk zero may stand between. The code also
reads a number whose international prefix no country code follows: the plus sign and the two
zeros are dropped before it looks for one.
-/
namespace EventaApi.Guarantees
open Source

/-! ## Spellings -/

/-- What is read once the separators are out. -/
def cleaned (raw : String) : List Char := raw.toList.filter fun char => ¬ isSeparator char

/-- A mobile subscriber's digits. -/
structure IsSubscriber (national : List Char) : Prop where
  digits : national.all Char.isDigit = true
  length : national.length = 9
  leading : ∃ first rest, national = first :: rest ∧ (first = '6' ∨ first = '8' ∨ first = '9')

/-- What the digits may have before them, a plus sign left out. -/
def dialled : List (List Char) :=
  [['0'], ['6', '6'], ['6', '6', '0'], ['0', '0', '6', '6'], ['0', '0', '6', '6', '0'],
    ['0', '0', '0']]

/-- The beginnings that are documented. -/
def documented : List (List Char) :=
  [['0'], ['6', '6'], ['6', '6', '0'], ['+', '6', '6'], ['+', '6', '6', '0'],
    ['0', '0', '6', '6'], ['0', '0', '6', '6', '0']]

/-- An international prefix that the country code does not follow. -/
def misPrefixed : List (List Char) :=
  [['+', '0'], ['0', '0', '0'], ['+', '0', '0', '0'], ['+', '0', '0', '6', '6'],
    ['+', '0', '0', '6', '6', '0']]

/-- The text is the subscriber's digits, with one of these before them. -/
def Spells (beginnings : List (List Char)) (national text : List Char) : Prop :=
  IsSubscriber national ∧ ∃ beginning ∈ beginnings, text = beginning ++ national

/-- The one shape that is texted. -/
def e164 (national : List Char) : String := String.ofList ('+' :: COUNTRY_CODE ++ national)

theorem e164_injective {national other : List Char} (same : e164 national = e164 other) :
    national = other := by
  unfold e164 COUNTRY_CODE at same
  simpa using String.ofList_injective same

variable {national other text : List Char}

/-- A text has one beginning and one subscriber's digits. -/
theorem Spells.unique {beginnings beginnings' : List (List Char)}
    (spelled : Spells beginnings national text) (spelled' : Spells beginnings' other text) :
    national = other ∧ ∃ beginning ∈ beginnings, beginning ∈ beginnings' := by
  obtain ⟨subscriber, beginning, known, shape⟩ := spelled
  obtain ⟨subscriber', beginning', known', shape'⟩ := spelled'
  have sizes : national.length = other.length := by rw [subscriber.length, subscriber'.length]
  have split := List.append_inj' (shape.symm.trans shape') sizes
  exact ⟨split.2, beginning, known, split.1 ▸ known'⟩

theorem not_both (documentedly : Spells documented national text)
    (wrongly : Spells misPrefixed other text) : False := by
  obtain ⟨_, beginning, known, wrong⟩ := documentedly.unique wrongly
  have apart : ∀ beginning ∈ documented, beginning ∉ misPrefixed := by decide
  exact apart beginning known wrong

/-! ## What the code reads -/

theorem IsSubscriber.isPrefixOf_zero (subscriber : IsSubscriber national) (rest : List Char) :
    ('0' :: rest).isPrefixOf national = false := by
  obtain ⟨first, others, rfl, six | eight | nine⟩ := subscriber.leading
  · subst six; rfl
  · subst eight; rfl
  · subst nine; rfl

theorem IsSubscriber.withoutTrunkZero (subscriber : IsSubscriber national) :
    withoutTrunkZero national = national := by
  obtain ⟨first, others, rfl, six | eight | nine⟩ := subscriber.leading
  · subst six; rfl
  · subst eight; rfl
  · subst nine; rfl

theorem nationalPart_of_dialled (subscriber : IsSubscriber national) {beginning : List Char}
    (known : beginning ∈ dialled) : nationalPart (beginning ++ national) = some national := by
  have zero := subscriber.isPrefixOf_zero
  have kept := subscriber.withoutTrunkZero
  unfold dialled at known
  simp only [List.mem_cons, List.not_mem_nil, or_false] at known
  rcases known with rfl | rfl | rfl | rfl | rfl | rfl
  · simp [nationalPart, COUNTRY_CODE, zero]
  · simp [nationalPart, COUNTRY_CODE, kept]
  · simp [nationalPart, COUNTRY_CODE, Source.withoutTrunkZero]
  · simp [nationalPart, COUNTRY_CODE, kept]
  · simp [nationalPart, COUNTRY_CODE, Source.withoutTrunkZero]
  · simp [nationalPart, COUNTRY_CODE]

/-- A prefix that was tested for is there. -/
theorem eq_append_drop {start digits : List Char} (begins : start.isPrefixOf digits = true) :
    digits = start ++ digits.drop start.length := by
  obtain ⟨rest, rfl⟩ := List.isPrefixOf_iff_prefix.mp begins
  rw [List.drop_left]

theorem eq_of_withoutTrunkZero (digits : List Char) :
    digits = withoutTrunkZero digits ∨ digits = '0' :: withoutTrunkZero digits := by
  unfold withoutTrunkZero
  split
  · exact Or.inr rfl
  · exact Or.inl rfl

/-- The trunk zero, or the country code with a stray trunk zero or without one. -/
theorem domestic_of {digits : List Char}
    (found : (if COUNTRY_CODE.isPrefixOf digits then
        some (withoutTrunkZero (digits.drop COUNTRY_CODE.length))
      else if ['0'].isPrefixOf digits then some (digits.drop 1) else none) = some national) :
    ∃ beginning ∈ [['0'], ['6', '6'], ['6', '6', '0']], digits = beginning ++ national := by
  split at found
  next country =>
    have begins := eq_append_drop country
    have rest : withoutTrunkZero (digits.drop COUNTRY_CODE.length) = national := by
      simpa using found
    rcases eq_of_withoutTrunkZero (digits.drop COUNTRY_CODE.length) with none | stray
    · refine ⟨['6', '6'], by simp, ?_⟩
      rw [begins, none, rest]
      rfl
    · refine ⟨['6', '6', '0'], by simp, ?_⟩
      rw [begins, stray, rest]
      rfl
  next =>
    split at found
    next trunk =>
      have rest : digits.drop 1 = national := by simpa using found
      refine ⟨['0'], by simp, ?_⟩
      rw [← rest]
      exact eq_append_drop trunk
    next => cases found

theorem dialled_of_nationalPart {digits : List Char} (found : nationalPart digits = some national) :
    ∃ beginning ∈ dialled, digits = beginning ++ national := by
  unfold nationalPart at found
  by_cases zeros : ['0', '0'].isPrefixOf digits = true
  · rw [if_pos zeros] at found
    obtain ⟨beginning, known, rest⟩ := domestic_of found
    have among : ∀ known ∈ [['0'], ['6', '6'], ['6', '6', '0']],
        ['0', '0'] ++ known ∈ dialled := by decide
    refine ⟨['0', '0'] ++ beginning, among beginning known, ?_⟩
    rw [List.append_assoc, ← rest]
    exact eq_append_drop zeros
  · rw [if_neg zeros] at found
    obtain ⟨beginning, known, rest⟩ := domestic_of found
    refine ⟨beginning, ?_, rest⟩
    have among : ∀ known ∈ [['0'], ['6', '6'], ['6', '6', '0']], known ∈ dialled := by decide
    exact among beginning known

/-- The plus sign may stand before any of them, documented or not. -/
theorem mem_beginnings_iff {beginning : List Char} :
    beginning ∈ documented ∨ beginning ∈ misPrefixed ↔
      beginning ∈ dialled ∨ ∃ rest ∈ dialled, beginning = '+' :: rest := by
  have perm : (documented ++ misPrefixed).Perm (dialled ++ dialled.map ('+' :: ·)) := by decide
  rw [← List.mem_append, perm.mem_iff, List.mem_append, List.mem_map]
  simp only [eq_comm]

theorem all_isDigit_of_dialled {beginning : List Char} (known : beginning ∈ dialled) :
    beginning.all Char.isDigit = true := by
  revert beginning
  decide

theorem withoutPlus_of_digits {digits : List Char} (only : digits.all Char.isDigit = true) :
    withoutPlus digits = digits := by
  unfold withoutPlus
  split
  next rest => simp at only
  · rfl

theorem eq_of_withoutPlus (text : List Char) :
    text = withoutPlus text ∨ text = '+' :: withoutPlus text := by
  unfold withoutPlus
  split
  · exact Or.inr rfl
  · exact Or.inl rfl

theorem leading_iff {first : Char} {rest : List Char} :
    (first :: rest).head?.any MOBILE_LEADING_DIGITS.contains = true ↔
      first = '6' ∨ first = '8' ∨ first = '9' := by
  simp [MOBILE_LEADING_DIGITS]

/-- The checks the code makes, one by one. -/
theorem toThaiMobileE164_eq_some_iff {raw answer : String} :
    toThaiMobileE164 raw = some answer ↔
      ∃ national, IsSubscriber national ∧ answer = e164 national ∧
        (withoutPlus (cleaned raw)).all Char.isDigit = true ∧
        nationalPart (withoutPlus (cleaned raw)) = some national := by
  dsimp only [toThaiMobileE164, cleaned]
  generalize withoutPlus (raw.toList.filter fun char => ¬ isSeparator char) = digits
  constructor
  · intro found
    split at found
    next => cases found
    next readable =>
      obtain ⟨_, only⟩ := not_or.mp readable
      have only : digits.all Char.isDigit = true := by simpa using only
      split at found
      next => cases found
      next national part =>
        split at found
        next => cases found
        next length =>
          split at found
          next leading =>
            obtain ⟨beginning, _, shape⟩ := dialled_of_nationalPart part
            refine ⟨national, ⟨?_, by simpa [NATIONAL_DIGITS] using length, ?_⟩, ?_, only, part⟩
            · rw [shape, List.all_append, Bool.and_eq_true] at only
              exact only.2
            · cases national with
              | nil => cases leading
              | cons first rest => exact ⟨first, rest, rfl, leading_iff.mp leading⟩
            · exact (Option.some.inj found).symm
          next => cases found
  · rintro ⟨national, subscriber, rfl, only, part⟩
    obtain ⟨beginning, _, shape⟩ := dialled_of_nationalPart part
    obtain ⟨first, rest, split, leading⟩ := subscriber.leading
    have filled : digits ≠ [] := by
      rw [shape, split]
      exact List.append_ne_nil_of_right_ne_nil _ (List.cons_ne_nil _ _)
    have readable : ¬ (digits = [] ∨ digits.all Char.isDigit = false) := by
      rw [only]
      simp [filled]
    have length : ¬ national.length ≠ NATIONAL_DIGITS := not_not.mpr subscriber.length
    have leads : national.head?.any MOBILE_LEADING_DIGITS.contains = true := by
      rw [split]
      exact leading_iff.mpr leading
    simp only [if_neg readable, part, if_neg length, if_pos leads]
    rfl

/-- Without its plus a text begins as it is dialled, where it begins in one of the ways listed. -/
theorem dialled_iff {text national : List Char} (digits : national.all Char.isDigit = true) :
    (∃ beginning ∈ dialled, withoutPlus text = beginning ++ national) ↔
      ∃ beginning, text = beginning ++ national ∧
        (beginning ∈ documented ∨ beginning ∈ misPrefixed) := by
  constructor
  · rintro ⟨beginning, known, shape⟩
    rcases eq_of_withoutPlus text with bare | plus
    · exact ⟨beginning, bare.trans shape, mem_beginnings_iff.mpr (Or.inl known)⟩
    · refine ⟨'+' :: beginning, ?_, mem_beginnings_iff.mpr (Or.inr ⟨_, known, rfl⟩)⟩
      rw [plus, shape]
      rfl
  · rintro ⟨whole, rfl, listed⟩
    rcases mem_beginnings_iff.mp listed with bare | ⟨beginning, known, rfl⟩
    · refine ⟨whole, bare, withoutPlus_of_digits ?_⟩
      rw [List.all_append, all_isDigit_of_dialled bare, digits]
      rfl
    · exact ⟨beginning, known, rfl⟩

/-- What the code answers: the digits behind any of the beginnings, documented or not. -/
theorem toThaiMobileE164_eq_iff {raw answer : String} :
    toThaiMobileE164 raw = some answer ↔
      ∃ national, answer = e164 national ∧ (Spells documented national (cleaned raw) ∨
        Spells misPrefixed national (cleaned raw)) := by
  rw [toThaiMobileE164_eq_some_iff]
  constructor
  · rintro ⟨national, subscriber, rfl, _, part⟩
    obtain ⟨whole, text, right | wrong⟩ :=
      (dialled_iff subscriber.digits).mp (dialled_of_nationalPart part)
    · exact ⟨national, rfl, Or.inl ⟨subscriber, whole, right, text⟩⟩
    · exact ⟨national, rfl, Or.inr ⟨subscriber, whole, wrong, text⟩⟩
  · rintro ⟨national, rfl, spelled⟩
    have among : IsSubscriber national ∧ ∃ beginning, cleaned raw = beginning ++ national ∧
        (beginning ∈ documented ∨ beginning ∈ misPrefixed) := by
      rcases spelled with ⟨subscriber, whole, right, text⟩ | ⟨subscriber, whole, wrong, text⟩
      · exact ⟨subscriber, whole, text, Or.inl right⟩
      · exact ⟨subscriber, whole, text, Or.inr wrong⟩
    obtain ⟨subscriber, listed⟩ := among
    obtain ⟨beginning, known, shape⟩ := (dialled_iff subscriber.digits).mpr listed
    refine ⟨national, subscriber, rfl, ?_, ?_⟩
    · rw [shape, List.all_append, all_isDigit_of_dialled known, subscriber.digits]
      rfl
    · rw [shape]
      exact nationalPart_of_dialled subscriber known

theorem not_isSeparator_of_isDigit {char : Char} (digit : char.isDigit = true) :
    isSeparator char = false := by
  have bounds : 48 ≤ char.toNat ∧ char.toNat ≤ 57 := Char.isDigit_iff_toNat.mp digit
  have none : ∀ code ∈ List.range' 48 10, isSeparator (Char.ofNat code) = false := by decide
  rw [← Char.ofNat_toNat char]
  exact none char.toNat (List.mem_range'_1.mpr (by omega))

/-- A normal form has nothing to remove. -/
theorem cleaned_e164 (digits : national.all Char.isDigit = true) :
    cleaned (e164 national) = ['+', '6', '6'] ++ national := by
  unfold cleaned e164
  rw [String.toList_ofList]
  apply List.filter_eq_self.mpr
  intro char member
  have plain : isSeparator char = false := by
    rcases List.mem_append.mp member with opening | digit
    · have none : ('+' :: COUNTRY_CODE).all (fun char => !isSeparator char) = true := by decide
      simpa using List.all_eq_true.mp none char opening
    · exact not_isSeparator_of_isDigit (List.all_eq_true.mp digits char digit)
  simp [plain]

/-! ## One form -/

/-- The text is read as the documented spellings say. -/
structure Normalises (raw : String) : Prop where
  accepts : (∃ answer, toThaiMobileE164 raw = some answer) ↔
    ∃ national, Spells documented national (cleaned raw)
  answers : ∀ national, Spells documented national (cleaned raw) →
    toThaiMobileE164 raw = some (e164 national)
  fixed : ∀ answer, toThaiMobileE164 raw = some answer → toThaiMobileE164 answer = some answer
  apart : ∀ other national national', Spells documented national (cleaned raw) →
    Spells documented national' (cleaned other) →
    (toThaiMobileE164 raw = toThaiMobileE164 other ↔ national = national')

theorem answers_of_spells {raw : String} (spelled : Spells documented national (cleaned raw)) :
    toThaiMobileE164 raw = some (e164 national) :=
  toThaiMobileE164_eq_iff.mpr ⟨national, rfl, Or.inl spelled⟩

theorem fixed_of_answer {raw answer : String} (found : toThaiMobileE164 raw = some answer) :
    toThaiMobileE164 answer = some answer := by
  obtain ⟨national, subscriber, rfl, _⟩ := toThaiMobileE164_eq_some_iff.mp found
  apply answers_of_spells
  exact ⟨subscriber, ['+', '6', '6'], by decide, cleaned_e164 subscriber.digits⟩

/-- A text is read as the documented spellings say unless its international prefix is followed by
something other than the country code, with a subscriber's digits at the end. -/
theorem normalises_iff (raw : String) :
    Normalises raw ↔ ∀ national, ¬ Spells misPrefixed national (cleaned raw) := by
  constructor
  · intro normal national wrong
    have accepted := toThaiMobileE164_eq_iff.mpr ⟨national, rfl, Or.inr wrong⟩
    obtain ⟨other, documentedly⟩ := normal.accepts.mp ⟨_, accepted⟩
    exact not_both documentedly wrong
  · intro right
    refine ⟨⟨?_, ?_⟩, ?_, ?_, ?_⟩
    · rintro ⟨answer, found⟩
      obtain ⟨national, _, spelled | wrong⟩ := toThaiMobileE164_eq_iff.mp found
      · exact ⟨national, spelled⟩
      · exact absurd wrong (right national)
    · rintro ⟨national, spelled⟩
      exact ⟨_, answers_of_spells spelled⟩
    · intro national spelled
      exact answers_of_spells spelled
    · intro answer found
      exact fixed_of_answer found
    · intro other national national' spelled spelled'
      rw [answers_of_spells spelled, answers_of_spells spelled']
      constructor
      · intro same
        exact e164_injective (Option.some.inj same)
      · rintro rfl
        rfl

/-- A plus sign before the trunk zero is accepted. -/
theorem plus_before_trunk_zero : ¬ ∀ raw, Normalises raw := by
  intro all
  have digits : IsSubscriber ['8', '1', '2', '3', '4', '5', '6', '7', '8'] :=
    ⟨by decide, by decide, _, _, rfl, Or.inr (Or.inl rfl)⟩
  have wrong : Spells misPrefixed ['8', '1', '2', '3', '4', '5', '6', '7', '8']
      (cleaned "+0812345678") := ⟨digits, ['+', '0'], by decide, by decide +kernel⟩
  have accepted := toThaiMobileE164_eq_iff.mpr ⟨_, rfl, Or.inr wrong⟩
  obtain ⟨other, documentedly⟩ := (all "+0812345678").accepts.mp ⟨_, accepted⟩
  exact not_both documentedly wrong

end EventaApi.Guarantees
