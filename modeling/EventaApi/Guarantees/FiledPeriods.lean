import EventaApi.Guarantees.MonthlyTakings

/-!
# A filed VAT period is final

A filing is an insert that does nothing where the month is filed already, and nothing ever
rewrites one, so what is listed for a filed month is what was filed. The call that lost to
another answers its own figures all the same. What is computed for a month that is filed and
over moves only when a payment is stamped a second time, or a refund settles under a date
from before.
-/
namespace EventaApi.Guarantees
open Library Source

abbrev TaxPool := Pool TaxOffice TaxPhase

abbrev TaxTurn := PoolTurn TaxRequest YearRead TaxEvent

/-! ## What is asked of filed periods -/

/-- A month is filed at most once. -/
def FiledOnce (taxPeriods : Table TaxPeriod) : Prop :=
  ∀ first ∈ taxPeriods, ∀ second ∈ taxPeriods, first.year = second.year →
    first.period = second.period → first = second

/-- The row has the figures that were recorded. -/
structure Shows (stored : TaxPeriod) (row : TaxPeriodRow) : Prop where
  year : row.year = stored.year
  period : row.period = stored.period
  salesSatang : row.salesSatang = stored.salesSatang
  vatSatang : row.vatSatang = stored.vatSatang
  whtSatang : row.whtSatang = stored.whtSatang
  remittedSatang : row.remittedSatang = stored.remittedSatang
  status : row.status = .filed
  filedAt : row.filedAt = stored.filedAt

/-- Every filing that succeeded answered the figures recorded for its month. -/
def AnswersFiled (pool : TaxPool) : Prop :=
  ∀ job ∈ pool.jobs, ∀ row, job.phase = .done (.filed row) →
    ∃ stored ∈ pool.shared.taxPeriods, Shows stored row

def filedMonths (taxPeriods : Table TaxPeriod) : List (Nat × Nat) :=
  taxPeriods.rows.filterMap fun row => (monthOfLabel row.period).map fun month => (row.year, month)

/-- The month is before this one. -/
def Ended (today : Nat) (period : Nat × Nat) : Prop :=
  period.1 < yearOf today ∨ period.1 = yearOf today ∧ period.2 < monthOfYear today

instance (today : Nat) : DecidablePred (Ended today) :=
  fun _ => inferInstanceAs (Decidable (_ ∨ _ ∧ _))

/-- The months that are filed and over. -/
def sealedMonths (office : TaxOffice) : List (Nat × Nat) :=
  (filedMonths office.taxPeriods).filter fun period =>
    decide (Ended (bangkokToday office.service.office.clock) period)

structure PeriodsFinal (start : TaxPool) (turns : List TaxTurn) : Prop where
  once : Throughout taxRequests.serve (fun pool => FiledOnce pool.shared.taxPeriods) start turns
  answered : Throughout taxRequests.serve AnswersFiled start turns
  /-- A list asked for once a month was filed shows what was filed. -/
  listed : ∀ first later, turns = first ++ later →
    ∀ stored ∈ (run taxRequests.serve start first).shared.taxPeriods,
    ∀ job ∈ (run taxRequests.serve start turns).jobs,
      (run taxRequests.serve start first).jobs.next ≤ job.id →
    ∀ query rows headlines, job.phase = .done (.listed query rows headlines) →
      query.year = stored.year → query.status = none ∨ query.status = some .filed →
        ∃ row ∈ rows, Shows stored row
  counted : Throughout taxRequests.serve
    (fun pool => Counted pool.shared.service.office.db.ledger) start turns
  frozen : ∀ first later, turns = first ++ later →
    ∀ period ∈ sealedMonths (run taxRequests.serve start first).shared,
      monthTakings (run taxRequests.serve start turns).shared.service.office.db.ledger
          period.1 period.2 =
        monthTakings (run taxRequests.serve start first).shared.service.office.db.ledger
          period.1 period.2

/-! ## Conditions on a run -/

/-- No other filing of the month was recorded meanwhile. -/
def stillUnfiled (office : TaxOffice) (_ : YearRead) : TaxPhase → Prop
  | .recordFiling filed => ¬ filingConflicts office.taxPeriods filed.year filed.month
  | _ => True

/-- No stamp of a month that is filed and over is made or replaced. -/
def leavesSealed (office : TaxOffice) : TaxEvent → Prop
  | .service (.advance callId _) => ∀ period ∈ sealedMonths office,
    LeavesMonth office.service.office.db period (phaseOf office.service callId)
  | _ => True

instance (office : TaxOffice) (next : YearRead) : DecidablePred (stillUnfiled office next)
  | .recordFiling _ => inferInstanceAs (Decidable (¬ filingConflicts _ _ _))
  | .start _ | .read _ _ | .done _ => isTrue trivial

instance (office : TaxOffice) : DecidablePred (leavesSealed office)
  | .service (.advance _ _) => inferInstanceAs (Decidable (∀ _ ∈ sealedMonths office, _))
  | .service (.checkout _ _) | .service (.invoicing _) | .service (.receive _)
  | .service (.crash _) | .setVatRate _ => isTrue trivial

def FilesCurrent : TaxPool → TaxTurn → Prop := Handler.Guarded stillUnfiled leavesSealed

instance (pool : TaxPool) (turn : TaxTurn) : Decidable (FilesCurrent pool turn) :=
  inferInstanceAs (Decidable (Handler.Guarded _ _ pool turn))

/-! ## What is stored -/

def IsMonth (month : Nat) : Prop := 1 ≤ month ∧ month ≤ MONTHS_IN_YEAR

/-- A stored period is a filed month. -/
structure WellFiled (row : TaxPeriod) : Prop where
  status : row.status = .filed
  month : ∃ month, IsMonth month ∧ row.period = monthLabel month
  filedAt : row.filedAt.isSome = true

structure TaxSound (office : TaxOffice) : Prop where
  grounded : Grounded office.service
  stamped : Stamped office.service.office.db.ledger
  once : FiledOnce office.taxPeriods
  filed : ∀ row ∈ office.taxPeriods, WellFiled row

/-- What a request's phase knows. -/
def FilingHolds (office : TaxOffice) : TaxPhase → Prop
  | .read (.file input) _ => IsMonth input.month
  | .recordFiling filed => IsMonth filed.month
  | .done (.filed row) => ∃ stored ∈ office.taxPeriods, Shows stored row
  | _ => True

section Filing

variable {taxPeriods : Table TaxPeriod} {input : FiledPeriod}

theorem mem_recordFiling {row : TaxPeriod} (stored : row ∈ taxPeriods) :
    row ∈ recordFiling taxPeriods input := by
  unfold recordFiling
  split
  · exact stored
  · exact Table.mem_insert.mpr (Or.inl stored)

theorem recordFiling_once (once : FiledOnce taxPeriods) :
    FiledOnce (recordFiling taxPeriods input) := by
  unfold recordFiling
  split
  · exact once
  next unfiled =>
    have other {row : TaxPeriod} (stored : row ∈ taxPeriods) (year : row.year = input.year)
        (period : row.period = monthLabel input.month) : False :=
      unfiled (Table.select_ne_nil.mpr ⟨row, stored, period, year⟩)
    intro first member second member' year period
    rcases Table.mem_insert.mp member with old | rfl
    · rcases Table.mem_insert.mp member' with old' | rfl
      · exact once first old second old' year period
      · exact (other old year period).elim
    · rcases Table.mem_insert.mp member' with old' | rfl
      · exact (other old' year.symm period.symm).elim
      · rfl

theorem recordFiling_filed (month : IsMonth input.month) (filed : ∀ row ∈ taxPeriods, WellFiled row) :
    ∀ row ∈ recordFiling taxPeriods input, WellFiled row := by
  unfold recordFiling
  split
  · exact filed
  · intro row member
    rcases Table.mem_insert.mp member with old | rfl
    · exact filed row old
    · exact ⟨rfl, ⟨input.month, month, rfl⟩, rfl⟩

/-- A filing that finds its month unfiled answers what it records. -/
theorem recordFiling_shows (unfiled : ¬ filingConflicts taxPeriods input.year input.month)
    (today : List Char) : ∃ stored ∈ recordFiling taxPeriods input,
      Shows stored (toRow input.year input.month input today) := by
  unfold recordFiling
  rw [if_neg unfiled]
  exact ⟨_, Table.mem_insert.mpr (Or.inr rfl), rfl, rfl, rfl, rfl, rfl, rfl, rfl, rfl⟩

end Filing

/-! ## Every step -/

/-- Whatever moves money stamps it, and files nothing. -/
theorem serve_stamped {service : Service} (turn : Turn) (grounded : Grounded service)
    (stamped : Stamped service.office.db.ledger) :
    Stamped (serve service turn).office.db.ledger := by
  rcases serve_ledger service turn with ⟨same, _⟩ | ⟨callId, answer, call, rfl, found, served⟩
  · unfold Stamped
    rw [same]
    exact stamped
  · rw [served]
    have knows := grounded.calls call (Table.find_eq_some.mp found).1
    exact acts_stamped (act_cases _ service.office.clock answer call.phase) grounded knows stamped

theorem afterReads_holds {office : TaxOffice} {request : TaxRequest} {reads reads' : YearReads}
    (now : Instant) (holds : FilingHolds office (.read request reads)) :
    FilingHolds office (afterReads request reads' now) := by
  unfold afterReads
  split
  · cases request with
    | list query => trivial
    | file input =>
      simp only [filePeriod]
      split
      · trivial
      · split
        · trivial
        · split
          · trivial
          · exact holds
  · cases request with
    | list query => trivial
    | file input => exact holds

theorem filings_keep : taxRequests.Keeps TaxSound FilingHolds stillUnfiled leavesSealed where
  opened := fun _ _ _ => trivial
  crashed := fun _ _ => trivial
  act := by
    intro office next phase sound holds unfiled
    cases phase with
    | start request =>
      refine ⟨sound, ?_⟩
      cases request with
      | list query => trivial
      | file input =>
        change FilingHolds office (startYear office (.file input))
        simp only [startYear]
        split
        · trivial
        next within =>
          have month : 1 ≤ input.month ∧ input.month ≤ MONTHS_IN_YEAR := by omega
          exact month
    | read request reads =>
      refine ⟨sound, ?_⟩
      change FilingHolds office (if _ then _ else _)
      split
      · trivial
      · exact afterReads_holds _ holds
    | recordFiling filed =>
      refine ⟨⟨sound.grounded, sound.stamped, recordFiling_once sound.once,
        recordFiling_filed holds sound.filed⟩, ?_⟩
      exact recordFiling_shows unfiled _
    | done reply => exact ⟨sound, holds⟩
  undisturbed := by
    intro office next phase other sound holds unfiled known
    cases phase with
    | recordFiling filed =>
      cases other with
      | done reply =>
        cases reply with
        | filed row =>
          obtain ⟨stored, there, shows⟩ := known
          exact ⟨stored, mem_recordFiling there, shows⟩
        | _ => trivial
      | read request reads => cases request <;> exact known
      | _ => exact known
    | _ => exact known
  outside := by
    intro office event sound leaves
    cases event with
    | service turn =>
      refine ⟨⟨serve_grounded office.service turn sound.grounded,
        serve_stamped turn sound.grounded sound.stamped, sound.once, sound.filed⟩, ?_⟩
      intro phase holds
      cases phase with
      | done reply => cases reply <;> exact holds
      | read request reads => cases request <;> exact holds
      | _ => exact holds
    | setVatRate rate =>
      refine ⟨⟨sound.grounded, sound.stamped, sound.once, sound.filed⟩, ?_⟩
      intro phase holds
      cases phase with
      | done reply => cases reply <;> exact holds
      | read request reads => cases request <;> exact holds
      | _ => exact holds

/-! ## Months that are over -/

section Sealing

variable {today : Nat} {period : Nat × Nat}

theorem ended_mono {later : Nat} (ended : Ended today period) (passed : today ≤ later) :
    Ended later period := by
  have months := months_mono passed
  unfold Ended at ended ⊢
  omega

theorem not_movedIn_of_ended {now : Instant} (ended : Ended (bangkokToday now) period) :
    ¬ movedIn now period.1 period.2 := by
  rintro ⟨year, month⟩
  unfold Ended at ended
  omega

theorem bangkokToday_mono {earlier later : Instant} (passed : earlier ≤ later) :
    bangkokToday earlier ≤ bangkokToday later :=
  Nat.div_le_div_right (Nat.add_le_add_right passed _)

theorem mem_sealedMonths {office : TaxOffice} : period ∈ sealedMonths office ↔
    (∃ row ∈ office.taxPeriods, ∃ month, monthOfLabel row.period = some month ∧
      (row.year, month) = period) ∧
    Ended (bangkokToday office.service.office.clock) period := by
  unfold sealedMonths filedMonths
  simp only [List.mem_filter, List.mem_filterMap, Option.map_eq_some_iff, decide_eq_true_eq,
    Table.mem_def]

theorem serve_clock (service : Service) (turn : Turn) :
    service.office.clock ≤ (serve service turn).office.clock := by
  cases turn with
  | checkout op => exact Nat.le_add_right _ _
  | invoicing | receive | crash => exact le_rfl
  | advance callId answer =>
    simp only [serve]
    split
    · exact le_rfl
    · exact le_rfl

/-- A filing and the passing of time leave the months that are filed and over so. -/
theorem sealedMonths_mono {office after : TaxOffice} (closed : period ∈ sealedMonths office)
    (filed : ∀ row ∈ office.taxPeriods, row ∈ after.taxPeriods)
    (passed : office.service.office.clock ≤ after.service.office.clock) :
    period ∈ sealedMonths after := by
  obtain ⟨⟨row, stored, month, named⟩, ended⟩ := mem_sealedMonths.mp closed
  refine mem_sealedMonths.mpr ⟨⟨row, filed row stored, month, named⟩, ?_⟩
  exact ended_mono ended (bangkokToday_mono passed)

/-- A turn of the service leaves the takings of a month that is over. -/
theorem serve_takings {service : Service} (turn : Turn) (grounded : Grounded service)
    (past : ¬ movedIn service.office.clock period.1 period.2)
    (leaves : ∀ callId answer, turn = .advance callId answer →
      LeavesMonth service.office.db period (phaseOf service callId)) :
    monthTakings (serve service turn).office.db.ledger period.1 period.2 =
      monthTakings service.office.db.ledger period.1 period.2 := by
  rcases serve_ledger service turn with ⟨payments, refunds⟩ | ⟨callId, answer, call, rfl, found, served⟩
  · unfold monthTakings collectedIn returnedIn
    rw [payments, refunds]
  · have knows := grounded.calls call (Table.find_eq_some.mp found).1
    have leaves' := leaves callId answer rfl
    rw [phaseOf, found] at leaves'
    rw [served]
    exact acts_takings (act_cases _ service.office.clock answer call.phase) grounded knows past
      leaves'

end Sealing

/-- A request's own step moves no money and takes back no filing. -/
theorem actOnTax_kept (office : TaxOffice) (next : YearRead) (phase : TaxPhase) :
    (actOnTax office next phase).1.service = office.service ∧
      ∀ row ∈ office.taxPeriods, row ∈ (actOnTax office next phase).1.taxPeriods := by
  cases phase with
  | recordFiling filed => exact ⟨rfl, fun row stored => mem_recordFiling stored⟩
  | start | read | done => exact ⟨rfl, fun row stored => stored⟩

theorem serve_filed (pool : TaxPool) (turn : TaxTurn) {row : TaxPeriod}
    (stored : row ∈ pool.shared.taxPeriods) :
    row ∈ (taxRequests.serve pool turn).shared.taxPeriods := by
  let keeps (before after : TaxOffice) : Prop := row ∈ before.taxPeriods → row ∈ after.taxPeriods
  have kept : keeps pool.shared (taxRequests.serve pool turn).shared := by
    refine Handler.serve_shared (fun stored => stored) (fun job _ next => ?_) (fun event => ?_) turn
    · exact (actOnTax_kept pool.shared next job.phase).2 row
    · cases event with
      | service | setVatRate => exact fun stored => stored
  exact kept stored

/-- A month that is filed and over stays so, with its takings. -/
theorem serve_sealed {pool : TaxPool} {turn : TaxTurn} (sound : TaxSound pool.shared)
    (current : FilesCurrent pool turn) {period : Nat × Nat}
    (closed : period ∈ sealedMonths pool.shared) :
    period ∈ sealedMonths (taxRequests.serve pool turn).shared ∧
      monthTakings (taxRequests.serve pool turn).shared.service.office.db.ledger
          period.1 period.2 =
        monthTakings pool.shared.service.office.db.ledger period.1 period.2 := by
  have past := not_movedIn_of_ended (mem_sealedMonths.mp closed).2
  cases turn with
  | receive | crash => exact ⟨closed, rfl⟩
  | advance jobId next =>
    cases found : pool.jobs.find jobId with
    | none =>
      rw [serve_missing found]
      exact ⟨closed, rfl⟩
    | some job =>
      obtain ⟨service, filed⟩ := actOnTax_kept pool.shared next job.phase
      rw [serve_advance found]
      change period ∈ sealedMonths (actOnTax pool.shared next job.phase).1 ∧ monthTakings
        (actOnTax pool.shared next job.phase).1.service.office.db.ledger _ _ = _
      refine ⟨sealedMonths_mono closed filed ?_, ?_⟩
      · rw [service]
      · rw [service]
  | outside event =>
    cases event with
    | setVatRate rate => exact ⟨closed, rfl⟩
    | service turn =>
      refine ⟨sealedMonths_mono closed (fun row stored => stored) (serve_clock _ turn), ?_⟩
      refine serve_takings turn sound.grounded past ?_
      rintro callId answer rfl
      exact current period closed

/-! ## Every list -/

/-- What a label says is the month it was made from. -/
theorem monthOfLabel_monthLabel {month : Nat} (within : IsMonth month) :
    monthOfLabel (monthLabel month) = some month := by
  have each : ∀ month ∈ List.range' 1 MONTHS_IN_YEAR,
      monthOfLabel (monthLabel month) = some month := by decide
  refine each month (List.mem_range'_1.mpr ?_)
  obtain ⟨first, last⟩ := within
  omega

/-- The request has read that the month was filed, and shows it. -/
def HasSeen (stored : TaxPeriod) : TaxPhase → Prop
  | .read request reads => request.year = stored.year → ∀ filed ∈ reads.filed,
    ∃ month frozen, IsMonth month ∧ stored.period = monthLabel month ∧
      filedPeriod stored = some frozen ∧
      filed.reverse.find? (fun entry => entry.month = month) = some frozen
  | .done (.listed query rows _) => query.year = stored.year →
    query.status = none ∨ query.status = some .filed → ∃ row ∈ rows, Shows stored row
  | _ => True

/-- A read of a filed month's year finds what was filed, and nothing else of that month. -/
theorem filedPeriods_find {office : TaxOffice} (sound : TaxSound office) {stored : TaxPeriod}
    (there : stored ∈ office.taxPeriods) : ∃ month frozen, IsMonth month ∧
      stored.period = monthLabel month ∧ filedPeriod stored = some frozen ∧
      (filedPeriods office.taxPeriods stored.year).reverse.find?
        (fun entry => entry.month = month) = some frozen := by
  obtain ⟨status, ⟨month, within, label⟩, dated⟩ := sound.filed stored there
  obtain ⟨filedAt, filed⟩ := Option.isSome_iff_exists.mp dated
  have read : ∃ frozen, filedPeriod stored = some frozen ∧ frozen.month = month := by
    simp [filedPeriod, label, monthOfLabel_monthLabel within, filed]
  obtain ⟨frozen, frozenAs, ofMonth⟩ := read
  refine ⟨month, frozen, within, label, frozenAs, ?_⟩
  have listed : frozen ∈ filedPeriods office.taxPeriods stored.year :=
    List.mem_filterMap.mpr ⟨stored, Table.mem_select.mpr ⟨there, rfl, status⟩, frozenAs⟩
  cases found : (filedPeriods office.taxPeriods stored.year).reverse.find?
      fun entry => entry.month = month with
  | none =>
    have absent := List.find?_eq_none.mp found frozen (List.mem_reverse.mpr listed)
    simp [ofMonth] at absent
  | some entry =>
    have named : entry.month = month := by simpa using List.find?_some found
    have member := List.mem_reverse.mp (List.mem_of_find?_eq_some found)
    obtain ⟨row, selected, rowAs⟩ := List.mem_filterMap.mp member
    obtain ⟨there', year, _⟩ := Table.mem_select.mp selected
    obtain ⟨_, ⟨month', within', label'⟩, dated'⟩ := sound.filed row there'
    obtain ⟨filedAt', filed'⟩ := Option.isSome_iff_exists.mp dated'
    have ofRow : month' = entry.month := by
      simp only [filedPeriod, label', monthOfLabel_monthLabel within', filed'] at rowAs
      cases rowAs
      rfl
    have same : row = stored := by
      refine sound.once row there' stored there year ?_
      rw [label', label, ofRow, named]
    rw [same, frozenAs] at rowAs
    exact rowAs.symm

/-- A row made of what a period froze shows it. -/
theorem shows_toRow {stored : TaxPeriod} {frozen : FiledPeriod} {month : Nat}
    (within : IsMonth month) (label : stored.period = monthLabel month)
    (frozenAs : filedPeriod stored = some frozen) (today : List Char) :
    Shows stored (toRow stored.year month frozen today) := by
  have dated : ∃ filedAt, stored.filedAt = some filedAt := by
    cases filed : stored.filedAt with
    | none => simp [filedPeriod, filed] at frozenAs
    | some filedAt => exact ⟨filedAt, rfl⟩
  obtain ⟨filedAt, filed⟩ := dated
  simp only [filedPeriod, label, monthOfLabel_monthLabel within, filed] at frozenAs
  cases frozenAs
  exact ⟨rfl, label.symm, rfl, rfl, rfl, rfl, rfl, filed.symm⟩

theorem readYear_seen {office : TaxOffice} (sound : TaxSound office) {stored : TaxPeriod}
    (there : stored ∈ office.taxPeriods) {request : TaxRequest} {reads : YearReads}
    (next : YearRead) (seen : HasSeen stored (.read request reads)) :
    HasSeen stored (.read request (readYear office request.year reads next)) := by
  cases next with
  | vatRate | takingsByMonth => exact seen
  | filedPeriods =>
    intro year filed same
    cases same
    rw [year]
    exact filedPeriods_find sound there

theorem afterReads_seen {stored : TaxPeriod} {request : TaxRequest} {reads : YearReads}
    (now : Instant) (seen : HasSeen stored (.read request reads)) :
    HasSeen stored (afterReads request reads now) := by
  unfold afterReads
  split
  next rate filed takings _ read _ =>
    cases request with
    | file input =>
      simp only [filePeriod]
      split
      · trivial
      · split
        · trivial
        · split
          · trivial
          · trivial
    | list query =>
      intro year status
      obtain ⟨month, frozen, within, label, frozenAs, found⟩ := seen year filed read
      have shown := shows_toRow within label frozenAs reads.today
      refine ⟨toRow stored.year month frozen reads.today, ?_, shown⟩
      have listed : toRow stored.year month frozen reads.today ∈
          yearRows query.year reads.today rate filed takings := by
        refine List.mem_map.mpr ⟨month, List.mem_range'_1.mpr ?_, ?_⟩
        · obtain ⟨first, last⟩ := within
          omega
        · rw [monthRow, found, ← year]
      rcases status with all | only
      · simp only [all]
        exact listed
      · simp only [only]
        exact List.mem_filter.mpr ⟨listed, decide_eq_true shown.status⟩
  · exact seen

/-- A request received once a month was filed sees that it was. -/
theorem actOnTax_seen {office : TaxOffice} {stored : TaxPeriod}
    (known : TaxSound office ∧ stored ∈ office.taxPeriods) (next : YearRead) (phase : TaxPhase)
    (seen : HasSeen stored phase) : HasSeen stored (actOnTax office next phase).2 := by
  obtain ⟨sound, there⟩ := known
  cases phase with
  | start request =>
    cases request with
    | list query =>
      intro year filed none
      cases none
    | file input =>
      change HasSeen stored (startYear office (.file input))
      simp only [startYear]
      split
      · trivial
      · intro year filed none
        cases none
  | read request reads =>
    change HasSeen stored (if _ then _ else _)
    split
    · trivial
    · exact afterReads_seen _ (readYear_seen sound there next seen)
  | recordFiling filed => trivial
  | done reply => exact seen

/-! ## Every run -/

theorem counted_of_sound {office : TaxOffice} (sound : TaxSound office) :
    Counted office.service.office.db.ledger where
  collected := fun _ stored received => collected_once sound.stamped stored received
  returned := fun _ stored succeeded => returned_once stored succeeded
  lifetime := takings_lifetime sound.stamped

/-- Along any run whose filings each find their month unfiled, and whose payments and refunds
leave the stamps of the months that are filed and over, filed periods are final. -/
theorem periods_final (start : TaxPool) (unpaid : Unpaid start.shared.service)
    (unfiled : start.shared.taxPeriods.rows = []) (idle : start.jobs.rows = [])
    (turns : List TaxTurn) (current : Meets taxRequests.serve FilesCurrent start turns) :
    PeriodsFinal start turns := by
  have initial : start.Sound TaxSound FilingHolds := by
    refine ⟨⟨unpaid_grounded unpaid, ?_, ?_, ?_⟩, ?_⟩
    · exact fun payment member _ => (Table.not_mem_of_empty unpaid.payments payment member).elim
    · exact fun first member _ _ _ _ => (Table.not_mem_of_empty unfiled first member).elim
    · exact fun row member => (Table.not_mem_of_empty unfiled row member).elim
    · exact fun job member => (Table.not_mem_of_empty idle job member).elim
  have sound (first later) (split : turns = first ++ later) :
      (run taxRequests.serve start first).Sound TaxSound FilingHolds ∧
        Meets taxRequests.serve FilesCurrent (run taxRequests.serve start first) later := by
    obtain ⟨before, after⟩ := meets_append.mp (split ▸ current)
    exact ⟨filings_keep.run initial before, after⟩
  have throughout {fact : TaxPool → Prop}
      (concludes : ∀ pool : TaxPool, pool.Sound TaxSound FilingHolds → fact pool) :
      Throughout taxRequests.serve fact start turns :=
    current.throughout filings_keep.serve concludes initial
  refine ⟨throughout fun pool holds => holds.shared.once, throughout fun pool holds => ?_, ?_,
    throughout fun pool holds => counted_of_sound holds.shared, ?_⟩
  · intro job member row done
    have known := holds.jobs job member
    rwa [done] at known
  · intro first later split stored there job member received query rows headlines done
    obtain ⟨begun, rest⟩ := sound first later split
    let filed (pool : TaxPool) : Prop :=
      pool.Sound TaxSound FilingHolds ∧ stored ∈ pool.shared.taxPeriods
    have keeps (pool : TaxPool) (turn : TaxTurn) (holds : filed pool)
        (meets : FilesCurrent pool turn) : filed (taxRequests.serve pool turn) :=
      ⟨filings_keep.serve pool turn holds.1 meets, serve_filed pool turn holds.2⟩
    have lasts : Throughout taxRequests.serve
        (fun pool => TaxSound pool.shared ∧ stored ∈ pool.shared.taxPeriods)
        (run taxRequests.serve start first) later :=
      rest.throughout keeps (fun pool holds => ⟨holds.1.shared, holds.2⟩) ⟨begun, there⟩
    rw [split, run_append] at member
    have seen : HasSeen stored job.phase :=
      Handler.received_run (fun _ => trivial) trivial
        (fun _ next phase known => actOnTax_seen known next phase) later lasts job member received
    rw [done] at seen
    exact seen
  · intro first later split period closed
    obtain ⟨begun, rest⟩ := sound first later split
    rw [split, run_append]
    let frozen (pool : TaxPool) : Prop := pool.Sound TaxSound FilingHolds ∧
      period ∈ sealedMonths pool.shared ∧
      monthTakings pool.shared.service.office.db.ledger period.1 period.2 =
        monthTakings (run taxRequests.serve start first).shared.service.office.db.ledger
          period.1 period.2
    have keeps (pool : TaxPool) (turn : TaxTurn) (holds : frozen pool)
        (meets : FilesCurrent pool turn) : frozen (taxRequests.serve pool turn) := by
      obtain ⟨sound, closed, same⟩ := holds
      obtain ⟨still, kept⟩ := serve_sealed sound.shared meets closed
      exact ⟨filings_keep.serve pool turn sound meets, still, kept.trans same⟩
    have holds : frozen (run taxRequests.serve (run taxRequests.serve start first) later) :=
      run_invariant keeps ⟨begun, closed, rfl⟩ rest
    exact holds.2.2

/-! ## A month that is filed, and one that is filed twice -/

def taxDesk : TaxPool where
  shared := { service := till, taxPeriods := Table.empty, vatRate := 7 / 100 }
  jobs := Table.empty

/-- Turns of the service, besideFilings the requests for periods. -/
def besideFilings (turns : List Turn) : List TaxTurn := turns.map fun turn => .outside (.service turn)

/-- A sale paid for in January, and then February. -/
def soldInJanuary : List TaxTurn :=
  besideFilings ([sale] ++ paying 0 "pi_1" ++ landing 1 "evt_1" "pi_1" ++
    [.checkout (.tick 2678400000) trivial])

/-- A filing of January, with what was withheld. -/
def filing (whtSatang : Satang) : TaxTurn := .receive (.file ⟨1970, 1, some whtSatang⟩)

/-- A request's start, and the three reads as they come back. -/
def readings (jobId : Nat) : List TaxTurn :=
  [.vatRate, .vatRate, .takingsByMonth, .filedPeriods].map (.advance jobId)

/-- January is filed, its sale is refunded in February, and the filed months are listed. -/
def filedThenRefunded : List TaxTurn :=
  soldInJanuary ++ [filing 7] ++ readings 0 ++ [.advance 0 .vatRate] ++
    besideFilings ([refunding 0 "first"] ++ steps 2 2 ++ moneyBack 2 "re_1") ++
    [.receive (.list ⟨1970, some .filed⟩)] ++ readings 1

theorem periods_final_filedThenRefunded : PeriodsFinal taxDesk filedThenRefunded :=
  periods_final taxDesk till_unpaid rfl rfl filedThenRefunded (by decide +kernel)

/-- Two filings of January, which read its figures side by side. -/
def filedTwice : List TaxTurn :=
  soldInJanuary ++ [filing 7, filing 8] ++ readings 0 ++ readings 1 ++
    [.advance 0 .vatRate, .advance 1 .vatRate]

/-- What the second of them answers. -/
def lostRow : TaxPeriodRow where
  year := 1970
  month := 1
  period := "Jan"
  dueAt := "1970-02-15"
  salesSatang := 935
  vatSatang := 65
  whtSatang := 8
  remittedSatang := 65
  status := .filed
  filedAt := some 2678400000
  late := false

/-- The filing that lost answers what was withheld by its own account, and not what is recorded. -/
theorem filedTwice_not_final : ¬ ∀ (start : TaxPool) (turns : List TaxTurn),
    Unpaid start.shared.service → start.shared.taxPeriods.rows = [] → start.jobs.rows = [] →
      PeriodsFinal start turns := by
  intro final
  have answered := (final taxDesk filedTwice till_unpaid rfl rfl).answered filedTwice
    List.prefix_rfl
  have lost : ⟨1, .done (.filed lostRow)⟩ ∈
      (run taxRequests.serve taxDesk filedTwice).jobs.rows := by decide +kernel
  have other : ∀ stored ∈ (run taxRequests.serve taxDesk filedTwice).shared.taxPeriods.rows,
      stored.whtSatang ≠ lostRow.whtSatang := by decide +kernel
  obtain ⟨stored, there, shows⟩ := answered _ lost lostRow rfl
  exact other stored there shows.whtSatang.symm

/-- Two callbacks of one success, of which the second settles when January is filed and over. -/
def stampedTwice : List TaxTurn :=
  besideFilings ([sale] ++ paying 0 "pi_1" ++
      [.receive (.webhook (success "evt_1" "pi_1")),
        .receive (.webhook (success "evt_2" "pi_1"))] ++
      steps 1 2 ++ steps 2 2 ++ steps 1 1 ++ [.checkout (.tick 2678400000) trivial]) ++
    [filing 7] ++ readings 0 ++ [.advance 0 .vatRate]

/-- The payment is stamped again, so that January's takings are February's. -/
theorem stampedTwice_not_final :
    ¬ PeriodsFinal taxDesk (stampedTwice ++ besideFilings (steps 2 1)) := by
  intro final
  have closed : (1970, 1) ∈ sealedMonths (run taxRequests.serve taxDesk stampedTwice).shared := by
    decide +kernel
  have same := final.frozen stampedTwice (besideFilings (steps 2 1)) rfl (1970, 1) closed
  revert same
  decide +kernel

end EventaApi.Guarantees
