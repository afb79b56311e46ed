import EventaApi.Guarantees.TrendBuckets
import EventaApi.Source.InvoiceLedger

/-!
# How old an invoice is

The query compares two dates; the row that is shown compares two instants, read from their texts.
They agree on every day. An invoice is late from the day after its term, and the counts of a
ledger are the totals its pages give.
-/
namespace EventaApi.Guarantees
open Library Source

/-- Neither paid nor void. -/
def IsOutstanding (stored : InvoiceStatus) : Prop := ¬ (stored = .paid ∨ stored = .void)

/-! ## Dates as texts -/

theorem CalendarDay.isoDay_number (day : CalendarDay) : isoDay day.number = day.text := by
  have year : civilYear day.number = day.year :=
    civilYear_civilNumber day.month_first day.month_last day.first day.last_civil
  have month : civilMonth day.number = day.month :=
    civilMonth_civilNumber day.month_first day.month_last day.first day.last_civil
  have date : civilDay day.number = day.day := civilDay_civilNumber day.first day.last_civil
  unfold isoDay CalendarDay.text
  simp only [year, month, date, Int.natCast_nonneg, if_true, Int.toNat_natCast]

/-- `setUTCDate` counts on past the end of the month. -/
theorem setUTCDate_civilDay (day later : Int) :
    setUTCDate day (civilDay day + later) = day + later := by
  have started := (civilMonthOf_spec day).1
  unfold setUTCDate civilDay
  omega

theorem dueDateFor_text (issued : CalendarDay) : Ageing.dueDateFor issued.text =
    some (isoDay (issued.number + INVOICE_TERM_DAYS)) := by
  unfold Ageing.dueDateFor
  rw [issued.parseDay_text, Option.map_some, setUTCDate_civilDay]

/-- Over the end of a February with a leap day. -/
example : Ageing.dueDateFor ['2', '0', '2', '4', '-', '0', '2', '-', '2', '0'] =
    some ['2', '0', '2', '4', '-', '0', '3', '-', '0', '5'] := by decide +kernel

/-! ## Past the last year of four digits -/

/-- The first day of the year 10000. -/
def fiveDigits : Int := civilMonthStart (monthIndex 10000 1)

theorem number_lt_fiveDigits (day : CalendarDay) : day.number < fiveDigits := by
  have inMonth := civilMonthOf_civilNumber day.first day.last_civil
  have years := day.inYears
  have months := day.month_le
  by_contra late
  have later := le_civilMonthOf_iff.mpr (not_lt.mp late)
  rw [CalendarDay.number, inMonth] at later
  unfold monthIndex MONTHS_IN_YEAR at later
  omega

/-- In that month a date has no room for its day. -/
theorem isoDay_fiveDigits {day : Int} (inMonth : civilMonthOf day = monthIndex 10000 1) :
    isoDay day = ['+', '0', '1', '0', '0', '0', '0', '-', '0', '1'] := by
  have year : civilYear day = 10000 := by
    unfold civilYear
    rw [inMonth]
    rfl
  have month : civilMonth day = 1 := by
    unfold civilMonth
    rw [inMonth]
    rfl
  unfold isoDay
  simp only [year, month]
  rfl

theorem parseDay_fiveDigits :
    parseDay ['+', '0', '1', '0', '0', '0', '0', '-', '0', '1'] = some fiveDigits := by
  decide +kernel

/-- A term that ends past the four-digit years ends in the first month after them. -/
theorem due_in_fiveDigits {issued : CalendarDay}
    (past : ¬ InFourDigits (issued.number + INVOICE_TERM_DAYS)) :
    fiveDigits ≤ issued.number + INVOICE_TERM_DAYS ∧
      civilMonthOf (issued.number + INVOICE_TERM_DAYS) = monthIndex 10000 1 := by
  have early := number_lt_fiveDigits issued
  have year : civilYear issued.number = issued.year :=
    civilYear_civilNumber issued.month_first issued.month_last issued.first issued.last_civil
  have term : INVOICE_TERM_DAYS = 14 := rfl
  have years : civilYear issued.number ≤ civilYear (issued.number + INVOICE_TERM_DAYS) :=
    civilYear_mono (by omega)
  have more : 9999 < civilYear (issued.number + INVOICE_TERM_DAYS) := by
    by_contra few
    exact past ⟨by omega, by omega⟩
  have later : monthIndex 10000 1 ≤ civilMonthOf (issued.number + INVOICE_TERM_DAYS) := by
    unfold civilYear EPOCH_YEAR MONTHS_IN_YEAR at more
    unfold monthIndex EPOCH_YEAR MONTHS_IN_YEAR
    omega
  have begun : fiveDigits ≤ issued.number + INVOICE_TERM_DAYS := le_civilMonthOf_iff.mp later
  refine ⟨begun, civilMonthOf_eq begun ?_⟩
  have long := lengthOf_ge (monthIndex 10000 1 % CYCLE_MONTHS).toNat
  rw [civilMonthStart_succ]
  unfold fiveDigits at early
  omega

/-- The text of a due date is read as a day that comes before the same days of four-digit years
as the due date does. -/
theorem parseDay_due (issued : CalendarDay) :
    ∃ due, parseDay (isoDay (issued.number + INVOICE_TERM_DAYS)) = some due ∧
      ∀ today : CalendarDay,
        due < today.number ↔ issued.number + INVOICE_TERM_DAYS < today.number := by
  by_cases digits : InFourDigits (issued.number + INVOICE_TERM_DAYS)
  · exact ⟨_, parseDay_isoDay digits, fun _ => Iff.rfl⟩
  · obtain ⟨begun, inMonth⟩ := due_in_fiveDigits digits
    refine ⟨fiveDigits, ?_, ?_⟩
    · rw [isoDay_fiveDigits inMonth, parseDay_fiveDigits]
    · -- Neither comes before a day of a four-digit year.
      intro today
      have early := number_lt_fiveDigits today
      omega

/-! ## One answer -/

theorem ageInvoice_eq {stored : InvoiceStatus} {dueAt today : List Char} {due now : Int}
    (dueOn : parseDay dueAt = some due) (nowOn : parseDay today = some now) :
    ageInvoice stored dueAt today =
      { status := if stored = .paid ∨ stored = .void then stored
          else if due < now then .overdue else .issued
        daysUntilDue := some (due - now) } := by
  have days : roundDays (due * DAY_MS - now * DAY_MS) = due - now := roundDays_days now due
  unfold ageInvoice parseInstant
  rw [dueOn, nowOn]
  simp only [Option.map_some, Option.bind_eq_bind, Option.bind_some, days, Option.any_some]
  split_ifs <;> simp_all

/-- An instant that cannot be read is not past. -/
theorem read_of_overdue {stored : InvoiceStatus} {dueAt today : List Char}
    (outstanding : IsOutstanding stored)
    (overdue : (ageInvoice stored dueAt today).status = .overdue) :
    ∃ due, parseDay dueAt = some due := by
  cases dueOn : parseDay dueAt with
  | some due => exact ⟨due, rfl⟩
  | none =>
    unfold ageInvoice parseInstant at overdue
    rw [dueOn] at overdue
    simp [if_neg outstanding] at overdue

theorem overdue_iff {stored : InvoiceStatus} (outstanding : IsOutstanding stored)
    {dueAt today : List Char} {due now : Int} (dueOn : parseDay dueAt = some due)
    (nowOn : parseDay today = some now) :
    (ageInvoice stored dueAt today).status = .overdue ↔ due < now := by
  rw [ageInvoice_eq dueOn nowOn]
  show (if _ then _ else _) = _ ↔ _
  rw [if_neg outstanding]
  split_ifs with late
  · simp [late]
  · simp [late]

/-- What the query works out is what the row that is shown reads. -/
theorem effectiveStatus_eq {invoice : InvoiceRecord} {due : CalendarDay} (today : CalendarDay)
    (order : Order) (event : Event) (dueOn : invoice.dueAt = due.number) :
    effectiveStatus today.number invoice =
      (ageInvoice (toInvoiceRow ((invoice, order), event)).status
        (toInvoiceRow ((invoice, order), event)).dueAt today.text).status := by
  have text : (toInvoiceRow ((invoice, order), event)).dueAt = due.text := by
    rw [← due.isoDay_number, ← dueOn]
    rfl
  rw [text, ageInvoice_eq due.parseDay_text today.parseDay_text, ← dueOn]
  rfl

/-! ## Counts -/

/-- The count of a status. -/
def countUnder (counts : InvoiceCounts) : InvoiceStatus → Nat
  | .issued => counts.issued
  | .paid => counts.paid
  | .overdue => counts.overdue
  | .void => counts.void

section
variable {ilike : String → String → Bool} {tables : InvoiceTables} {organizationId : Nat}
  {filters : LedgerFilters} {today : Int}

/-- A status only picks among the rows that match the rest. -/
theorem ledgerRows_status (status : InvoiceStatus) :
    ledgerRows ilike tables organizationId { toLedgerFilters := filters, status := some status }
      today =
    (ledgerRows ilike tables organizationId { toLedgerFilters := filters } today).filter fun row =>
      effectiveStatus today row.1.1 = status := by
  unfold ledgerRows
  rw [List.filter_filter]
  apply List.filter_congr
  intro row _
  unfold ledgerWhere
  simp only [Option.all_some, Option.all_none, Bool.and_true]
  ac_rfl

theorem countUnder_countByStatus (status : InvoiceStatus) :
    countUnder (tables.countByStatus ilike organizationId filters today) status =
      (tables.page ilike organizationId { toLedgerFilters := filters, status := some status }
        today).total := by
  show _ = (ledgerRows ..).length
  rw [ledgerRows_status, ← List.countP_eq_length_filter]
  cases status <;> rfl

/-- Every row is counted once. -/
theorem sum_countP_status {α : Type} (statusOf : α → InvoiceStatus) (rows : List α) :
    (rows.countP fun row => statusOf row = .issued) +
      (rows.countP fun row => statusOf row = .paid) +
      (rows.countP fun row => statusOf row = .overdue) +
      (rows.countP fun row => statusOf row = .void) = rows.length := by
  induction rows with
  | nil => rfl
  | cons row rest ih =>
    cases status : statusOf row <;>
      simp only [List.countP_cons, status, List.length_cons] <;>
      simp <;>
      omega

end

/-- What a page of a status shows reads as that status. -/
theorem page_reads {ilike : String → String → Bool} {tables : InvoiceTables} {organizationId : Nat}
    {filters : LedgerFilters} {status : InvoiceStatus} {today : CalendarDay}
    (dates : ∀ invoice ∈ tables.invoices, ∃ due : CalendarDay, invoice.dueAt = due.number)
    {row : InvoiceRow} (shown : row ∈ (tables.page ilike organizationId
      { toLedgerFilters := filters, status := some status } today.number).items) :
    (ageInvoice row.status row.dueAt today.text).status = status := by
  obtain ⟨⟨⟨invoice, order⟩, event⟩, member, rfl⟩ := List.mem_map.mp shown
  have among := (List.perm_insertionSort ..).mem_iff.mp
    (List.mem_of_mem_drop (List.mem_of_mem_take member))
  rw [ledgerRows_status, List.mem_filter, decide_eq_true_eq] at among
  obtain ⟨matching, effective⟩ := among
  have stored : invoice ∈ tables.invoices := by
    have joined := (List.mem_filter.mp matching).1
    unfold InvoiceTables.joined innerJoin at joined
    simp only [List.mem_flatMap, List.mem_map, Prod.mk.injEq] at joined
    obtain ⟨_, ⟨_, member, _, _, rfl⟩, _, _, ⟨rfl, _⟩, _⟩ := joined
    exact member
  obtain ⟨due, dueOn⟩ := dates invoice stored
  rw [← effectiveStatus_eq today order event dueOn, effective]

/-! ## Days as they are stored on issuing -/

theorem dateText_eq (day : Nat) : dateText day = isoDay day := by
  have year : civilYear day = yearOf day := by
    unfold civilYear yearOf
    rw [civilMonthOf_natCast]
    omega
  have month : civilMonth day = monthOfYear day := by
    unfold civilMonth monthOfYear
    rw [civilMonthOf_natCast]
    omega
  have date : civilDay day = day - monthStart (monthOf day) + 1 := by
    unfold civilDay
    rw [civilMonthOf_natCast, civilMonthStart_natCast]
    omega
  unfold isoDay dateText
  simp only [year, month, date, Int.natCast_nonneg, if_true, Int.toNat_natCast]

/-- The due date of an invoice that is issued is the one worked out here. -/
theorem dueDateFor_dateText {issuedAt : Nat} (digits : InFourDigits issuedAt) :
    Ageing.dueDateFor (dateText issuedAt) = some (dateText (dueDateFor issuedAt)) := by
  obtain ⟨issued, number, text⟩ := exists_calendarDay digits
  rw [dateText_eq, text, dueDateFor_text, number, dateText_eq, dueDateFor, Int.natCast_add]

end EventaApi.Guarantees
