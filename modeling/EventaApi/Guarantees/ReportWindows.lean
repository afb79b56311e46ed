import EventaApi.Guarantees.DayTexts

/-!
# The period that was asked for

A period opens and closes at midnights in Bangkok and covers the days that were named. The check
that the end is not before the start looks at the midnight after the end day, so an end day right
before the start day passes it, with a window of no days.
-/
namespace EventaApi.Guarantees
open Library Source

/-! ## Requests -/

/-- What is asked for, the days as days. -/
structure DayRequest where
  fromDay : Option CalendarDay := none
  toDay : Option CalendarDay := none
  range : Option ReportRange := none

namespace DayRequest

def dayText (day : CalendarDay) : String := String.ofList day.text

/-- The request as it arrives. -/
def asked (request : DayRequest) : ReportPeriodRequest where
  fromDay := request.fromDay.map dayText
  toDay := request.toDay.map dayText
  range := request.range

/-- Neither day is given. -/
def IsNamed (request : DayRequest) : Prop := request.fromDay = none ∧ request.toDay = none

/-- Both days are given, and the end day is on or after the start day. -/
def IsOrdered (request : DayRequest) : Prop :=
  ∃ first last, request.fromDay = some first ∧ request.toDay = some last ∧ ¬ last.IsBefore first

/-- Both days are given, and the end day is the day before the start day. -/
def EndsTheDayBefore (request : DayRequest) : Prop :=
  ∃ first last, request.fromDay = some first ∧ request.toDay = some last ∧
    last.number + 1 = first.number

/-- The first and the last day asked for. -/
inductive Asks (now : Int) : DayRequest → Int → Int → Prop
  | days (first last : CalendarDay) (range : Option ReportRange) :
      Asks now { fromDay := some first, toDay := some last, range } first.number last.number
  | range (range : Option ReportRange) :
      Asks now { range } (bangkokDay now + 1 - RANGE_DAYS (range.getD DEFAULT_RANGE))
        (bangkokDay now)

end DayRequest

/-! ## Windows -/

/-- The instant a day begins in Bangkok. -/
def midnight (day : Int) : Int := day * DAY_MS - BANGKOK_OFFSET_MS

theorem midnight_eq (day : Int) : midnight day = day * 86400000 - 25200000 := rfl

theorem bangkokDay_eq (instant : Int) : bangkokDay instant = (instant + 25200000) / 86400000 :=
  rfl

theorem lt_midnight_iff {instant : Int} {day : Int} :
    instant < midnight day ↔ bangkokDay instant < day := by
  rw [midnight_eq, bangkokDay_eq]
  omega

theorem midnight_le_iff {instant : Int} {day : Int} :
    midnight day ≤ instant ↔ day ≤ bangkokDay instant := by
  rw [← not_lt, lt_midnight_iff, not_lt]

/-- A period covers the days asked for, or the most recent of them. -/
structure CoversDays (period : ReportPeriod) (first last : Int) : Prop where
  opens : ∃ day, period.fromAt = midnight day
  closes : ∃ day, period.toAt = midnight day
  forwards : period.fromAt < period.toAt
  length : period.toAt - period.fromAt = period.days * DAY_MS
  bounds : 1 ≤ period.days ∧ period.days ≤ MAX_SPAN_DAYS
  whole : period.trimmed = false → ∀ instant,
    period.fromAt ≤ instant ∧ instant < period.toAt ↔
      first ≤ bangkokDay instant ∧ bangkokDay instant ≤ last
  trims : period.trimmed = true ↔ MAX_SPAN_DAYS < last + 1 - first
  recent : period.trimmed = true → period.days = MAX_SPAN_DAYS
  ending : ∀ instant, instant < period.toAt ↔ bangkokDay instant ≤ last
  previous : period.previousTo = period.fromAt ∧
    period.previousTo - period.previousFrom = period.toAt - period.fromAt

theorem roundDays_days (first last : Int) :
    roundDays (last * DAY_MS - first * DAY_MS) = last - first := by
  show (2 * (last * 86400000 - first * 86400000) + 86400000) / (2 * 86400000) = _
  omega

theorem roundDays_midnights (first last : Int) :
    roundDays (midnight last - midnight first) = last - first := by
  have span : midnight last - midnight first = last * DAY_MS - first * DAY_MS := by
    unfold midnight
    omega
  rw [span, roundDays_days]

theorem capped_covers {first last : Int} (ordered : first ≤ last) :
    CoversDays (capped (midnight first) (midnight (last + 1))) first last := by
  have start (days : Int) : midnight (last + 1) - days * DAY_MS = midnight (last + 1 - days) := by
    unfold midnight
    ring
  have asked := roundDays_midnights first (last + 1)
  have cap : 1 ≤ min (last + 1 - first) (MAX_SPAN_DAYS : Int) := le_min (by omega) (by decide)
  have most := min_le_right (last + 1 - first) (MAX_SPAN_DAYS : Int)
  unfold capped
  simp only [asked, start]
  generalize size : min (last + 1 - first) (MAX_SPAN_DAYS : Int) = days at cap most ⊢
  refine ⟨⟨_, rfl⟩, ⟨_, rfl⟩, ?_, ?_, ⟨cap, most⟩, ?_, ?_, ?_, ?_, rfl, ?_⟩
  · show midnight (last + 1 - days) < midnight (last + 1)
    rw [midnight_eq, midnight_eq]
    omega
  · unfold midnight
    ring
  · intro whole instant
    have short : ¬ (MAX_SPAN_DAYS : Int) < last + 1 - first := of_decide_eq_false whole
    have all : days = last + 1 - first := size.symm.trans (min_eq_left (not_lt.mp short))
    rw [lt_midnight_iff, midnight_le_iff, all]
    omega
  · exact decide_eq_true_iff
  · intro trimmed
    exact size.symm.trans (min_eq_right (le_of_lt (of_decide_eq_true trimmed)))
  · intro instant
    rw [lt_midnight_iff]
    omega
  · unfold midnight
    ring

/-! ## Answers -/

theorem parseBangkokDay_text (day : CalendarDay) :
    parseBangkokDay (some (DayRequest.dayText day)) = .ok (midnight day.number) := by
  have digits : dayDigits (DayRequest.dayText day).toList =
      some (day.year, day.month, day.day) := by
    rw [DayRequest.dayText, String.toList_ofList]
    exact day.dayDigits_text
  have read : 1 ≤ day.month ∧ day.month ≤ MONTHS_IN_YEAR ∧ 1 ≤ day.day ∧ day.day ≤ 31 :=
    ⟨day.month_first, day.month_last, day.first, day.day_le⟩
  simp only [parseBangkokDay, Option.map_some, Option.bind_some, digits, parseMidnight, if_pos read]
  rfl

theorem resolve_days (first last : CalendarDay) (range : Option ReportRange) (now : Int) :
    resolveReportPeriod
        (DayRequest.asked { fromDay := some first, toDay := some last, range }) now =
      if last.number + 1 < first.number then .error PERIOD_BACKWARDS
      else .ok (capped (midnight first.number) (midnight (last.number + 1))) := by
  have day : midnight last.number + DAY_MS = midnight (last.number + 1) := by
    unfold midnight
    ring
  have order : midnight (last.number + 1) < midnight first.number ↔
      last.number + 1 < first.number := by
    rw [midnight_eq, midnight_eq]
    omega
  simp only [resolveReportPeriod, boundsOf, DayRequest.asked, startOfDay, endOfDay, Option.map_some,
    Option.isSome_some, true_or, if_true, parseBangkokDay_text, bind, Except.bind, day, order]

/-- A range is the days up to today. -/
theorem resolve_range (range : Option ReportRange) (now : Int) :
    resolveReportPeriod (DayRequest.asked { range }) now =
      .ok (capped (midnight (bangkokDay now + 1 - RANGE_DAYS (range.getD DEFAULT_RANGE)))
        (midnight (bangkokDay now + 1))) := by
  have closes : startOfBangkokDay now + DAY_MS = midnight (bangkokDay now + 1) := by
    unfold startOfBangkokDay midnight bangkokDay
    ring
  have opens : midnight (bangkokDay now + 1) - RANGE_DAYS (range.getD DEFAULT_RANGE) * DAY_MS =
      midnight (bangkokDay now + 1 - RANGE_DAYS (range.getD DEFAULT_RANGE)) := by
    unfold midnight
    ring
  have order : ¬ midnight (bangkokDay now + 1) <
      midnight (bangkokDay now + 1 - RANGE_DAYS (range.getD DEFAULT_RANGE)) := by
    rw [midnight_eq, midnight_eq]
    omega
  simp only [resolveReportPeriod, boundsOf, DayRequest.asked, Option.map_none, Option.isSome_none,
    Bool.false_eq_true, or_self, if_false, closes, opens, bind, Except.bind, order]

theorem resolve_half {request : DayRequest} (now : Int)
    (half : request.fromDay = none ∧ request.toDay ≠ none ∨
      request.fromDay ≠ none ∧ request.toDay = none) :
    resolveReportPeriod request.asked now = .error UNREADABLE_DAY := by
  obtain ⟨first, last, range⟩ := request
  rcases half with ⟨rfl, given⟩ | ⟨given, rfl⟩
  · obtain ⟨last, rfl⟩ := Option.ne_none_iff_exists'.mp given
    simp [resolveReportPeriod, boundsOf, DayRequest.asked, startOfDay, parseBangkokDay, bind,
      Except.bind]
  · obtain ⟨first, rfl⟩ := Option.ne_none_iff_exists'.mp given
    simp [resolveReportPeriod, boundsOf, DayRequest.asked, startOfDay, endOfDay,
      parseBangkokDay_text, bind, Except.bind]
    simp [parseBangkokDay]

/-- The period is the one that was asked for. -/
structure IsAsAsked (request : DayRequest) (now : Int) : Prop where
  accepted : (∃ period, resolveReportPeriod request.asked now = .ok period) ↔
    request.IsNamed ∨ request.IsOrdered
  covers : ∀ period first last, resolveReportPeriod request.asked now = .ok period →
    request.Asks now first last → CoversDays period first last

theorem asAsked_days (first last : CalendarDay) (range : Option ReportRange) (now : Int)
    (apart : last.number + 1 ≠ first.number) :
    IsAsAsked { fromDay := some first, toDay := some last, range } now := by
  have resolved := resolve_days first last range now
  by_cases before : last.IsBefore first
  · -- The end is before the start by more than a day, and refused.
    have less := CalendarDay.number_lt_of_isBefore before
    rw [if_pos (by omega)] at resolved
    constructor
    · constructor
      · rintro ⟨period, accepted⟩
        rw [resolved] at accepted
        cases accepted
      · rintro (⟨none, _⟩ | ⟨start, finish, given, given', ordered⟩)
        · cases none
        · cases given
          cases given'
          exact absurd before ordered
    · intro period start finish accepted
      rw [resolved] at accepted
      cases accepted
  · have ordered : first.number ≤ last.number := by
      rw [← not_lt, CalendarDay.number_lt_iff]
      exact before
    rw [if_neg (by omega)] at resolved
    constructor
    · constructor
      · intro _
        exact Or.inr ⟨first, last, rfl, rfl, before⟩
      · intro _
        exact ⟨_, resolved⟩
    · intro period start finish accepted asks
      rw [resolved] at accepted
      cases accepted
      cases asks
      exact capped_covers ordered

theorem RANGE_DAYS_pos (range : ReportRange) : 1 ≤ RANGE_DAYS range := by cases range <;> decide

theorem asAsked_range (range : Option ReportRange) (now : Int) : IsAsAsked { range } now := by
  have resolved := resolve_range range now
  constructor
  · constructor
    · intro _
      exact Or.inl ⟨rfl, rfl⟩
    · intro _
      exact ⟨_, resolved⟩
  · intro period first last accepted asks
    rw [resolved] at accepted
    cases accepted
    cases asks
    have long := RANGE_DAYS_pos (range.getD DEFAULT_RANGE)
    exact capped_covers (by omega)

theorem asAsked_half {request : DayRequest} (now : Int)
    (half : request.fromDay = none ∧ request.toDay ≠ none ∨
      request.fromDay ≠ none ∧ request.toDay = none) : IsAsAsked request now := by
  have resolved := resolve_half now half
  constructor
  · constructor
    · rintro ⟨period, accepted⟩
      rw [resolved] at accepted
      cases accepted
    · rintro (⟨none, none'⟩ | ⟨first, last, given, given', _⟩)
      · rcases half with ⟨_, some⟩ | ⟨some, _⟩
        · exact absurd none' some
        · exact absurd none some
      · rcases half with ⟨none, _⟩ | ⟨_, none⟩
        · rw [none] at given
          cases given
        · rw [none] at given'
          cases given'
  · intro period first last accepted
    rw [resolved] at accepted
    cases accepted

/-- The window is the one asked for unless the end day is the day before the start day. -/
theorem resolveReportPeriod_asAsked_iff (request : DayRequest) (now : Int) :
    IsAsAsked request now ↔ ¬ request.EndsTheDayBefore := by
  obtain ⟨fromDay, toDay, range⟩ := request
  constructor
  · rintro ⟨accepted, _⟩ ⟨first, last, given, given', before⟩
    cases given
    cases given'
    -- The midnights are one instant, so nothing is refused.
    have resolved := resolve_days first last range now
    rw [if_neg (by omega)] at resolved
    rcases accepted.mp ⟨_, resolved⟩ with ⟨none, _⟩ | ⟨start, finish, given, given', ordered⟩
    · cases none
    · cases given
      cases given'
      exact ordered (CalendarDay.number_lt_iff.mp (by omega))
  · intro apart
    cases fromDay with
    | none =>
      cases toDay with
      | none => exact asAsked_range range now
      | some last => exact asAsked_half now (Or.inl ⟨rfl, by simp⟩)
    | some first =>
      cases toDay with
      | none => exact asAsked_half now (Or.inr ⟨by simp, rfl⟩)
      | some last =>
        apply asAsked_days
        intro before
        exact apart ⟨first, last, rfl, rfl, before⟩

/-- From the second of July to the first is a window of no days. -/
theorem second_to_first_of_July : ¬ ∀ request now, IsAsAsked request now := by
  intro all
  have first : ∃ day : CalendarDay, day.year = 2026 ∧ day.month = 7 ∧ day.day = 1 :=
    ⟨⟨2026, 7, 1, by decide, by decide, by decide, by decide, by decide⟩, rfl, rfl, rfl⟩
  have second : ∃ day : CalendarDay, day.year = 2026 ∧ day.month = 7 ∧ day.day = 2 :=
    ⟨⟨2026, 7, 2, by decide, by decide, by decide, by decide, by decide⟩, rfl, rfl, rfl⟩
  obtain ⟨first, year, month, day⟩ := first
  obtain ⟨second, year', month', day'⟩ := second
  have before : first.IsBefore second :=
    Or.inr ⟨by omega, Or.inr ⟨by omega, by omega⟩⟩
  have next : first.number + 1 = second.number := by
    unfold CalendarDay.number civilNumber
    rw [year, month, day, year', month', day']
    omega
  have resolved := resolve_days second first none 0
  rw [if_neg (by omega)] at resolved
  rcases (all { fromDay := some second, toDay := some first } 0).accepted.mp ⟨_, resolved⟩ with
    ⟨none, _⟩ | ⟨start, finish, given, given', ordered⟩
  · cases none
  · cases given
    cases given'
    exact ordered before

end EventaApi.Guarantees
