import EventaApi.Source.InvoiceNumbers

/-!
# Invoice numbers

A number is its year and its place, and is read back as that place however long it has grown.
Under the lock nobody else draws from a workspace's year, so the number a transaction has drawn
is the next one until it commits. A rollback leaves nothing behind, and a void leaves the row.
-/
namespace EventaApi.Guarantees
open Library Source

/-- The number of a year's invoice in this place. -/
def invoiceNumber (year place : Nat) : String :=
  String.ofList (invoicePrefix year ++
    padStart INVOICE_SEQUENCE_WIDTH (toString place).toList)

theorem nextNumber_eq (invoices : Table Invoice) (year : Nat) :
    nextNumber invoices year = invoiceNumber year (lastSequence invoices year + 1) := rfl

/-! ## Reading a number back -/

theorem readDigits_eq (digits : List Char) :
    readDigits digits = Nat.ofDigitChars 10 digits 0 := by
  simp only [readDigits, Nat.ofDigitChars, Nat.mul_comm]

theorem toList_toString (place : Nat) : (toString place).toList = Nat.toDigits 10 place :=
  Nat.toList_repr

/-- The zeros in front of a number do not change it, and there may be none. -/
theorem readDigits_padStart (width place : Nat) :
    readDigits (padStart width (toString place).toList) = place := by
  rw [readDigits_eq, padStart, Nat.ofDigitChars_append, Nat.ofDigitChars_replicate_zero,
    Nat.mul_zero, toList_toString, Nat.ofDigitChars_ten_toDigits]

theorem dash_not_digit (place : Nat) : '-' ∉ (toString place).toList := by
  rw [toList_toString]
  intro member
  have digit := Nat.isDigit_of_mem_toDigits (by decide) (by decide) member
  exact absurd digit (by decide)

theorem dash_not_padded (width place : Nat) :
    '-' ∉ padStart width (toString place).toList := by
  rw [padStart, List.mem_append]
  rintro (zero | digit)
  · exact absurd (List.eq_of_mem_replicate zero) (by decide)
  · exact dash_not_digit place digit

theorem invoicePrefix_eq (year : Nat) :
    invoicePrefix year = "INV".toList ++ '-' :: ((toString year).toList ++ ['-']) := by
  simp [invoicePrefix, INVOICE_NUMBER_PREFIX]

theorem toList_invoiceNumber (year place : Nat) :
    (invoiceNumber year place).toList = "INV".toList ++ '-' :: ((toString year).toList ++
      '-' :: padStart INVOICE_SEQUENCE_WIDTH (toString place).toList) := by
  rw [invoiceNumber, String.toList_ofList, invoicePrefix_eq]
  simp

/-- Split at the first separator. -/
theorem splitOn_dash {before after : List Char} (none : '-' ∉ before) :
    (before ++ '-' :: after).splitOn '-' = before :: after.splitOn '-' := by
  rw [List.splitOn_eq_splitOnP]
  apply List.splitOnP_append_cons_of_forall_mem
  · intro char member
    apply beq_eq_false_iff_ne.mpr
    rintro rfl
    exact none member
  · rfl

theorem splitOn_number (year place : Nat) :
    (invoiceNumber year place).toList.splitOn '-' = ["INV".toList, (toString year).toList,
      padStart INVOICE_SEQUENCE_WIDTH (toString place).toList] := by
  rw [toList_invoiceNumber, splitOn_dash (by decide), splitOn_dash (dash_not_digit year),
    List.splitOn_eq_splitOnP, List.splitOnP_eq_singleton]
  intro char member
  apply beq_eq_false_iff_ne.mpr
  rintro rfl
  exact dash_not_padded _ _ member

/-- What the query takes of a number. -/
def sequencePart (number : String) : Nat := readDigits (splitPart number.toList 3)

theorem sequencePart_number (year place : Nat) :
    sequencePart (invoiceNumber year place) = place := by
  rw [sequencePart, splitPart, splitOn_number]
  exact readDigits_padStart _ place

theorem toString_injective {first second : Nat}
    (same : (toString first).toList = (toString second).toList) : first = second := by
  have read := congrArg (fun digits => Nat.ofDigitChars 10 digits 0) same
  simpa only [toList_toString, Nat.ofDigitChars_ten_toDigits] using read

/-- A number has its own year's prefix and no other's. -/
theorem prefix_number {year other place : Nat} :
    (invoicePrefix year).isPrefixOf (invoiceNumber other place).toList = true ↔ year = other := by
  rw [List.isPrefixOf_iff_prefix]
  constructor
  · rintro ⟨rest, whole⟩
    rw [invoicePrefix_eq, List.append_assoc, List.cons_append, List.append_assoc,
      List.singleton_append] at whole
    have parts := congrArg (fun text => text.splitOn '-') whole
    simp only [splitOn_number] at parts
    rw [splitOn_dash (by decide), splitOn_dash (dash_not_digit year)] at parts
    simp only [List.cons.injEq] at parts
    exact toString_injective parts.2.1
  · rintro rfl
    rw [invoiceNumber, String.toList_ofList]
    exact List.prefix_append _ _

/-- No two places of any years have one number. -/
theorem invoiceNumber_injective {year other place later : Nat}
    (same : invoiceNumber year place = invoiceNumber other later) :
    year = other ∧ place = later := by
  have prefixed : (invoicePrefix year).isPrefixOf (invoiceNumber other later).toList = true := by
    rw [← same]
    exact prefix_number.mpr rfl
  refine ⟨prefix_number.mp prefixed, ?_⟩
  rw [← sequencePart_number year place, same, sequencePart_number]

/-! ## A workspace's year -/

/-- The numbers of a year's invoices, in the order they were committed. -/
def numbersIn (invoices : Table Invoice) (year : Nat) : List String :=
  (invoices.select fun row => yearOf row.issuedAt = year).map Invoice.number

/-- The number a year comes to next. -/
def nextIn (invoices : Table Invoice) (year : Nat) : String :=
  invoiceNumber year ((numbersIn invoices year).length + 1)

/-- Each year's numbers are its places from the first on, none left out and none twice. -/
def InSequence (invoices : Table Invoice) : Prop :=
  ∀ year, numbersIn invoices year =
    (List.range (numbersIn invoices year).length).map fun before => invoiceNumber year (before + 1)

section Sequence
variable {invoices : Table Invoice}

theorem number_mem {row : Invoice} (stored : row ∈ invoices) :
    row.number ∈ numbersIn invoices (yearOf row.issuedAt) :=
  List.mem_map.mpr ⟨row, Table.mem_select.mpr ⟨stored, rfl⟩, rfl⟩

/-- Each invoice has a number of the year it was issued in. -/
theorem InSequence.number (sequence : InSequence invoices) {row : Invoice}
    (stored : row ∈ invoices) : ∃ place, row.number = invoiceNumber (yearOf row.issuedAt) place := by
  have member := number_mem stored
  rw [sequence] at member
  obtain ⟨before, _, same⟩ := List.mem_map.mp member
  exact ⟨before + 1, same.symm⟩

theorem foldl_max_range (count : Nat) :
    ((List.range count).map fun before => before + 1).foldl max 0 = count := by
  induction count with
  | zero => rfl
  | succ count ih =>
    rw [List.range_succ, List.map_append, List.foldl_append, ih]
    exact max_eq_right (Nat.le_succ count)

/-- The greatest place of a year is how many invoices it has. -/
theorem InSequence.lastSequence (sequence : InSequence invoices) (year : Nat) :
    lastSequence invoices year = (numbersIn invoices year).length := by
  have ofYear : (invoices.select fun row =>
        (invoicePrefix year).isPrefixOf row.number.toList = true) =
      invoices.select fun row => yearOf row.issuedAt = year := by
    apply List.filter_congr
    intro row stored
    obtain ⟨place, number⟩ := sequence.number stored
    apply decide_eq_decide.mpr
    beta_reduce
    rw [number, prefix_number]
    exact eq_comm
  have places : ((invoices.select fun row => yearOf row.issuedAt = year).map
        fun row => sequencePart row.number) =
      (List.range (numbersIn invoices year).length).map fun before => before + 1 := by
    calc ((invoices.select fun row => yearOf row.issuedAt = year).map
            fun row => sequencePart row.number)
        = (numbersIn invoices year).map sequencePart := by
          rw [numbersIn, List.map_map, Function.comp_def]
      _ = ((List.range (numbersIn invoices year).length).map
            fun before => invoiceNumber year (before + 1)).map sequencePart :=
          congrArg (List.map sequencePart) (sequence year)
      _ = (List.range (numbersIn invoices year).length).map fun before => before + 1 := by
          simp only [List.map_map, Function.comp_def, sequencePart_number]
  unfold sequencePart at places
  rw [Source.lastSequence, ofYear, places, foldl_max_range]

theorem InSequence.nextNumber (sequence : InSequence invoices) (year : Nat) :
    nextNumber invoices year = nextIn invoices year := by
  rw [nextNumber_eq, sequence.lastSequence, nextIn]

theorem numbersIn_insert {build : Nat → Invoice} {keyed : ∀ key, Keyed.key (build key) = key}
    (year : Nat) :
    numbersIn (invoices.insert build keyed) year = numbersIn invoices year ++
      if yearOf (build invoices.next).issuedAt = year then [(build invoices.next).number] else [] := by
  unfold numbersIn Table.select
  rw [Table.rows_insert, List.filter_append, List.map_append]
  congr 1
  by_cases issued : yearOf (build invoices.next).issuedAt = year
  · simp [issued]
  · simp [issued]

/-- The next number of a year keeps the sequence of each. -/
theorem InSequence.insert (sequence : InSequence invoices) {build : Nat → Invoice}
    {keyed : ∀ key, Keyed.key (build key) = key}
    (next : (build invoices.next).number =
      nextIn invoices (yearOf (build invoices.next).issuedAt)) :
    InSequence (invoices.insert build keyed) := by
  intro year
  rw [numbersIn_insert]
  by_cases issued : yearOf (build invoices.next).issuedAt = year
  · subst year
    rw [if_pos rfl, List.length_append, List.length_singleton, List.range_succ, List.map_append,
      ← sequence, next]
    rfl
  · rw [if_neg issued, List.append_nil]
    exact sequence year

/-- A write that changes neither numbers nor dates. -/
theorem numbersIn_update {hit : Invoice → Prop} [DecidablePred hit] {write : Invoice → Invoice}
    {keeps : ∀ row, Keyed.key (write row) = Keyed.key row}
    (label : ∀ row, (write row).number = row.number ∧ (write row).issuedAt = row.issuedAt)
    (year : Nat) : numbersIn (invoices.update hit write keeps) year = numbersIn invoices year := by
  have same (row : Invoice) : (if hit row then write row else row).number = row.number ∧
      (if hit row then write row else row).issuedAt = row.issuedAt := by
    split
    · exact label row
    · exact ⟨rfl, rfl⟩
  unfold numbersIn Table.select
  rw [Table.rows_update, List.filter_map, List.map_map]
  have kept : (invoices.rows.filter ((fun row => decide (yearOf row.issuedAt = year)) ∘
        fun row => if hit row then write row else row)) =
      invoices.rows.filter fun row => decide (yearOf row.issuedAt = year) := by
    apply List.filter_congr
    intro row _
    simp only [Function.comp_apply, (same row).2]
  rw [kept]
  apply List.map_congr_left
  intro row _
  exact (same row).1

end Sequence

/-! ## What a turn does -/

section Turns
variable {hashtext : String → Int} {books : InvoiceBooks} {tx : IssueTx}

/-- A transaction that comes to hold the lock held it, or found nobody else with it. -/
theorem stepIssue_locks (locks : (stepIssue hashtext books tx).2.locks = true) :
    tx.phase.locks = true ∨ ¬ lockedByAnother hashtext books tx := by
  cases phase : tx.phase with
  | lock =>
    right
    intro held
    simp [stepIssue, phase, held, IssuePhase.locks] at locks
  | ended invoice => simp [stepIssue, phase, IssuePhase.locks] at locks
  | findLive => exact Or.inl rfl
  | number => exact Or.inl rfl
  | seller number => exact Or.inl rfl
  | insert number seller => exact Or.inl rfl
  | commit number seller => exact Or.inl rfl
  | close existing => exact Or.inl rfl

/-- A number is drawn once, as the next one there is. -/
theorem stepIssue_drawn {number : String}
    (drawn : number ∈ (stepIssue hashtext books tx).2.drawn) :
    (number ∈ tx.phase.drawn ∧ (stepIssue hashtext books tx).1 = books) ∨
      (tx.phase = .number ∧ (stepIssue hashtext books tx).1 = books ∧
        number = nextNumber (books.invoices tx.organizationId) tx.year) := by
  cases phase : tx.phase with
  | number =>
    by_cases large : INT4_MAX < lastSequence (books.invoices tx.organizationId) tx.year
    · simp [stepIssue, phase, large, IssuePhase.drawn] at drawn
    · simp only [stepIssue, phase, large, if_false, IssuePhase.drawn, Option.mem_some_iff] at drawn
      exact Or.inr ⟨rfl, by simp [stepIssue, phase], drawn.symm⟩
  | seller held =>
    simp only [stepIssue, phase, IssuePhase.drawn] at drawn ⊢
    exact Or.inl ⟨drawn, trivial⟩
  | insert held seller =>
    simp only [stepIssue, phase] at drawn ⊢
    split at drawn
    · simp [IssuePhase.drawn] at drawn
    · split at drawn
      · exact Or.inl ⟨drawn, trivial⟩
      · exact Or.inl ⟨drawn, trivial⟩
  | lock =>
    simp only [stepIssue, phase] at drawn
    split at drawn <;> simp [IssuePhase.drawn] at drawn
  | findLive =>
    simp only [stepIssue, phase] at drawn
    split at drawn <;> simp [IssuePhase.drawn] at drawn
  | commit held seller => simp [stepIssue, phase, IssuePhase.drawn] at drawn
  | close existing => simp [stepIssue, phase, IssuePhase.drawn] at drawn
  | ended invoice => simp [stepIssue, phase, IssuePhase.drawn] at drawn

/-- A statement writes nothing others see, but the commit. -/
theorem stepIssue_books :
    (stepIssue hashtext books tx).1 = books ∨
      ∃ number seller, tx.phase = .commit number seller ∧
        stepIssue hashtext books tx =
          (rewriteInvoices books tx.organizationId fun invoices =>
              invoices.insert (issuedInvoice number seller tx.input),
            .ended (some (issuedInvoice number seller tx.input
              (books.invoices tx.organizationId).next))) := by
  cases phase : tx.phase with
  | commit number seller =>
    right
    exact ⟨number, seller, rfl, by simp only [stepIssue, phase, rewriteInvoices]⟩
  | lock => exact Or.inl (by simp only [stepIssue, phase])
  | findLive => exact Or.inl (by simp only [stepIssue, phase])
  | number => exact Or.inl (by simp only [stepIssue, phase])
  | seller number => exact Or.inl (by simp only [stepIssue, phase])
  | insert number seller => exact Or.inl (by simp only [stepIssue, phase])
  | close existing => exact Or.inl (by simp only [stepIssue, phase])
  | ended invoice => exact Or.inl (by simp only [stepIssue, phase])

end Turns

/-! ## What every run keeps -/

/-- Each workspace's years are in sequence, one transaction at a time holds a lock, and a number
that was drawn is still the next one. -/
structure Numbered (hashtext : String → Int) (books : InvoiceBooks) : Prop where
  sequence : ∀ organizationId, InSequence (books.invoices organizationId)
  exclusive : ∀ tx ∈ books.txs, ∀ other ∈ books.txs, tx.phase.locks = true →
    other.phase.locks = true → other.lockKey hashtext = tx.lockKey hashtext → other.id = tx.id
  drawn : ∀ tx ∈ books.txs, ∀ number ∈ tx.phase.drawn,
    number = nextIn (books.invoices tx.organizationId) tx.year

/-- Every year of every workspace keeps its numbers, or gets the next one after them. -/
def NumbersGoOn (before after : InvoiceBooks) : Prop :=
  ∀ organizationId year,
    numbersIn (after.invoices organizationId) year =
      numbersIn (before.invoices organizationId) year ∨
    numbersIn (after.invoices organizationId) year =
      numbersIn (before.invoices organizationId) year ++
        [nextIn (before.invoices organizationId) year]

theorem drawn_locks {phase : IssuePhase} {number : String} (drawn : number ∈ phase.drawn) :
    phase.locks = true := by
  cases phase <;> first | rfl | simp [IssuePhase.drawn] at drawn

section Keeps
variable {hashtext : String → Int} {books after : InvoiceBooks} {tx : IssueTx}

/-- Nothing of it is about more of an invoice than its number and its year. -/
theorem Numbered.same_numbers (numbered : Numbered hashtext books)
    (same : ∀ organizationId year, numbersIn (after.invoices organizationId) year =
      numbersIn (books.invoices organizationId) year)
    (txs : after.txs = books.txs) : Numbered hashtext after := by
  refine ⟨?_, ?_, ?_⟩
  · intro organizationId year
    rw [same]
    exact numbered.sequence organizationId year
  · rw [txs]
    exact numbered.exclusive
  · rw [txs]
    intro tx stored number drawn
    rw [nextIn, same]
    exact numbered.drawn tx stored number drawn

@[simp] theorem rewrite_self {organizationId : Nat} {write : Table Invoice → Table Invoice} :
    (rewriteInvoices books organizationId write).invoices organizationId =
      write (books.invoices organizationId) :=
  Function.update_self _ _ _

theorem rewrite_apart {organizationId other : Nat} {write : Table Invoice → Table Invoice}
    (apart : other ≠ organizationId) :
    (rewriteInvoices books organizationId write).invoices other = books.invoices other :=
  Function.update_of_ne apart _ _

theorem rewrite_same {organizationId : Nat} {write : Table Invoice → Table Invoice}
    (label : ∀ year, numbersIn (write (books.invoices organizationId)) year =
      numbersIn (books.invoices organizationId) year) (other year : Nat) :
    numbersIn ((rewriteInvoices books organizationId write).invoices other) year =
      numbersIn (books.invoices other) year := by
  by_cases here : other = organizationId
  · subst here
    rw [rewrite_self]
    exact label year
  · rw [rewrite_apart here]

/-- The commit of a transaction's number moves no other transaction's next one. -/
theorem Numbered.commit_apart (numbered : Numbered hashtext books) (stored : tx ∈ books.txs)
    {number : String} {seller : Organization} (phase : tx.phase = .commit number seller)
    {other : IssueTx} (present : other ∈ books.txs) (apart : other.id ≠ tx.id)
    (locks : other.phase.locks = true) :
    nextIn ((rewriteInvoices books tx.organizationId fun invoices =>
        invoices.insert (issuedInvoice number seller tx.input)).invoices other.organizationId)
        other.year =
      nextIn (books.invoices other.organizationId) other.year := by
  by_cases here : other.organizationId = tx.organizationId
  · have year : tx.year ≠ other.year := by
      intro same
      apply apart
      apply numbered.exclusive tx stored other present (by rw [phase]; rfl) locks
      simp only [IssueTx.lockKey, here, same]
    rw [here, rewrite_self, nextIn, numbersIn_insert]
    have issued : ¬ yearOf tx.input.issuedAt = other.year := year
    rw [if_neg issued, List.append_nil, nextIn]
  · rw [rewrite_apart here]

/-- The commit is of the next number of its year. -/
theorem Numbered.commit_goesOn (numbered : Numbered hashtext books) (stored : tx ∈ books.txs)
    {number : String} {seller : Organization} (phase : tx.phase = .commit number seller) :
    NumbersGoOn books (rewriteInvoices books tx.organizationId fun invoices =>
        invoices.insert (issuedInvoice number seller tx.input)) ∧
      ∀ organizationId, InSequence ((rewriteInvoices books tx.organizationId fun invoices =>
        invoices.insert (issuedInvoice number seller tx.input)).invoices organizationId) := by
  have next : number = nextIn (books.invoices tx.organizationId) tx.year :=
    numbered.drawn tx stored number (by rw [phase]; rfl)
  constructor
  · intro organizationId year
    by_cases here : organizationId = tx.organizationId
    · subst here
      rw [rewrite_self, numbersIn_insert]
      by_cases issued : yearOf tx.input.issuedAt = year
      · subst issued
        right
        rw [if_pos rfl, next]
        rfl
      · left
        rw [if_neg issued, List.append_nil]
    · left
      rw [rewrite_apart here]
  · intro organizationId
    by_cases here : organizationId = tx.organizationId
    · subst here
      rw [rewrite_self]
      exact (numbered.sequence _).insert next
    · rw [rewrite_apart here]
      exact numbered.sequence organizationId

/-- A transaction's move, when it holds a lock only with nobody else and has drawn what is next. -/
theorem Numbered.move (numbered : Numbered hashtext books) (stored : tx ∈ books.txs)
    {phase : IssuePhase}
    (sequence : ∀ organizationId, InSequence (after.invoices organizationId))
    (txs : after.txs = books.txs)
    (locks : phase.locks = true → tx.phase.locks = true ∨ ¬ lockedByAnother hashtext books tx)
    (drawn : ∀ number ∈ phase.drawn, number = nextIn (after.invoices tx.organizationId) tx.year)
    (others : ∀ other ∈ books.txs, other.id ≠ tx.id → other.phase.locks = true →
      nextIn (after.invoices other.organizationId) other.year =
        nextIn (books.invoices other.organizationId) other.year) :
    Numbered hashtext
      { after with txs := after.txs.update (fun row => row.id = tx.id) (issueAt phase) } := by
  have itself {old : IssueTx} (present : old ∈ books.txs) (same : old.id = tx.id) : old = tx :=
    Table.eq_of_key present stored same
  -- A row of the table is this transaction, moved, or another one, as it was.
  have rows {row : IssueTx}
      (member : row ∈ after.txs.update (fun row => row.id = tx.id) (issueAt phase)) :
      row = issueAt phase tx ∨ row ∈ books.txs ∧ row.id ≠ tx.id := by
    obtain ⟨old, present, rfl⟩ := Table.mem_update.mp member
    rw [txs] at present
    by_cases same : old.id = tx.id
    · rw [if_pos same, itself present same]
      exact Or.inl rfl
    · rw [if_neg same]
      exact Or.inr ⟨present, same⟩
  have alone {other : IssueTx} (present : other ∈ books.txs) (apart : other.id ≠ tx.id)
      (moved : phase.locks = true) (held : other.phase.locks = true)
      (key : other.lockKey hashtext = tx.lockKey hashtext) : False := by
    rcases locks moved with before | free
    · exact apart (numbered.exclusive tx stored other present before held key)
    · exact free ⟨other, present, apart, held, key⟩
  refine ⟨sequence, ?_, ?_⟩
  · intro first member second member' held held' key
    rcases rows member with rfl | ⟨present, apart⟩
    · rcases rows member' with rfl | ⟨present', apart'⟩
      · rfl
      · exact (alone present' apart' held held' key).elim
    · rcases rows member' with rfl | ⟨present', apart'⟩
      · exact (alone present apart held' held key.symm).elim
      · exact numbered.exclusive first present second present' held held' key
  · intro row member number mine
    rcases rows member with rfl | ⟨present, apart⟩
    · exact drawn number mine
    · rw [numbered.drawn row present number mine]
      exact (others row present apart (drawn_locks mine)).symm

/-- Transactions that open or end hold nothing. -/
theorem Numbered.release (numbered : Numbered hashtext books)
    (invoices : after.invoices = books.invoices)
    (rows : ∀ row ∈ after.txs, row ∈ books.txs ∨ row.phase.locks = false) :
    Numbered hashtext after := by
  have kept {row : IssueTx} (member : row ∈ after.txs) (locks : row.phase.locks = true) :
      row ∈ books.txs := by
    rcases rows row member with present | idle
    · exact present
    · rw [idle] at locks
      cases locks
  refine ⟨?_, ?_, ?_⟩
  · rw [invoices]
    exact numbered.sequence
  · intro first member second member' held held' key
    exact numbered.exclusive first (kept member held) second (kept member' held') held held' key
  · rw [invoices]
    intro row member number drawn
    exact numbered.drawn row (kept member (drawn_locks drawn)) number drawn

theorem goesOn_of_same (same : ∀ organizationId year, numbersIn (after.invoices organizationId) year =
    numbersIn (books.invoices organizationId) year) : NumbersGoOn books after :=
  fun organizationId year => Or.inl (same organizationId year)

theorem Numbered.advance (numbered : Numbered hashtext books) (stored : tx ∈ books.txs) :
    Numbered hashtext
        { (stepIssue hashtext books tx).1 with
          txs := (stepIssue hashtext books tx).1.txs.update (fun row => row.id = tx.id)
            (issueAt (stepIssue hashtext books tx).2) } ∧
      NumbersGoOn books (stepIssue hashtext books tx).1 := by
  rcases stepIssue_books with same | ⟨number, seller, phase, committed⟩
  · rw [same]
    refine ⟨?_, goesOn_of_same fun _ _ => rfl⟩
    refine numbered.move stored numbered.sequence rfl stepIssue_locks ?_ fun _ _ _ _ => rfl
    intro number drawn
    rcases stepIssue_drawn drawn with ⟨before, _⟩ | ⟨_, _, next⟩
    · exact numbered.drawn tx stored number before
    · rw [next, (numbered.sequence _).nextNumber]
  · obtain ⟨goesOn, sequence⟩ := numbered.commit_goesOn stored phase
    rw [committed]
    refine ⟨numbered.move stored sequence rfl ?_ ?_ ?_, goesOn⟩
    · intro locks
      cases locks
    · intro drawn member
      cases member
    · intro other present apart locks
      exact numbered.commit_apart stored phase present apart locks

theorem turnBooks_numbered (numbered : Numbered hashtext books) (turn : BooksTurn) :
    Numbered hashtext (turnBooks hashtext books turn) ∧
      NumbersGoOn books (turnBooks hashtext books turn) := by
  have rewritten {organizationId : Nat} {write : Table Invoice → Table Invoice}
      (label : ∀ year, numbersIn (write (books.invoices organizationId)) year =
        numbersIn (books.invoices organizationId) year) :
      Numbered hashtext (rewriteInvoices books organizationId write) ∧
        NumbersGoOn books (rewriteInvoices books organizationId write) :=
    ⟨numbered.same_numbers (rewrite_same label) rfl, goesOn_of_same (rewrite_same label)⟩
  cases turn with
  | issue organizationId input =>
    refine ⟨numbered.release rfl ?_, goesOn_of_same fun _ _ => rfl⟩
    intro row member
    rcases Table.mem_insert.mp member with present | rfl
    · exact Or.inl present
    · exact Or.inr rfl
  | advance txId =>
    cases found : books.txs.find txId with
    | none =>
      simp only [turnBooks, found]
      exact ⟨numbered, goesOn_of_same fun _ _ => rfl⟩
    | some tx =>
      obtain ⟨stored, same⟩ := Table.find_eq_some.mp found
      have named : tx.id = txId := same
      subst named
      simp only [turnBooks, found]
      exact numbered.advance stored
  | rollback txId =>
    refine ⟨numbered.release rfl ?_, goesOn_of_same fun _ _ => rfl⟩
    intro row member
    obtain ⟨old, present, rfl⟩ := Table.mem_update.mp member
    split
    · exact Or.inr rfl
    · exact Or.inl present
  | markVoid organizationId invoiceId input =>
    simp only [turnBooks]
    refine rewritten fun year => ?_
    unfold markVoid
    apply numbersIn_update
    exact fun _ => ⟨rfl, rfl⟩
  | orderPaid organizationId orderId paidVia paidOn =>
    simp only [turnBooks]
    refine rewritten fun year => ?_
    unfold markPaidForOrderIn
    apply numbersIn_update
    exact fun _ => ⟨rfl, rfl⟩
  | orderRefunded organizationId orderId voidedBy now =>
    simp only [turnBooks]
    refine rewritten fun year => ?_
    unfold voidForRefundIn
    apply numbersIn_update
    exact fun _ => ⟨rfl, rfl⟩
  | sellerChanged organizationId seller =>
    exact ⟨numbered.same_numbers (fun _ _ => rfl) rfl, goesOn_of_same fun _ _ => rfl⟩

end Keeps

/-- Invoices in sequence have different numbers, whichever years they are of. -/
theorem InSequence.nodup {invoices : Table Invoice} (sequence : InSequence invoices) :
    (invoices.rows.map Invoice.number).Nodup := by
  have apart : invoices.rows.Nodup := List.Nodup.of_map _ invoices.distinct
  refine apart.map_on ?_
  intro first stored second stored' same
  obtain ⟨place, number⟩ := sequence.number stored
  obtain ⟨place', number'⟩ := sequence.number stored'
  have year := (invoiceNumber_injective (number.symm.trans (same.trans number'))).1
  have once : (numbersIn invoices (yearOf first.issuedAt)).Nodup := by
    rw [sequence]
    apply List.nodup_range.map
    intro before after equal
    exact Nat.succ_injective (invoiceNumber_injective equal).2
  refine List.inj_on_of_nodup_map once ?_ ?_ same
  · exact Table.mem_select.mpr ⟨stored, rfl⟩
  · exact Table.mem_select.mpr ⟨stored', year.symm⟩

/-- In every run of issues, voids and rollbacks the numbers of a workspace's year are its first
places, in the order they were committed, and no number is there twice. -/
theorem numbers_in_sequence (hashtext : String → Int) {start : InvoiceBooks}
    (numbered : Numbered hashtext start) (turns : List BooksTurn) :
    (∀ organizationId,
        InSequence ((run (turnBooks hashtext) start turns).invoices organizationId) ∧
          (((run (turnBooks hashtext) start turns).invoices organizationId).rows.map
            Invoice.number).Nodup) ∧
      Meets (turnBooks hashtext)
        (fun books turn => NumbersGoOn books (turnBooks hashtext books turn)) start turns := by
  have steps (books : InvoiceBooks) (turn : BooksTurn) (numbered : Numbered hashtext books) :
      Numbered hashtext (turnBooks hashtext books turn) := (turnBooks_numbered numbered turn).1
  have kept := run_invariant_always steps turns numbered
  refine ⟨fun organizationId => ?_, ?_⟩
  · exact ⟨kept.sequence organizationId, (kept.sequence organizationId).nodup⟩
  · exact Meets.of_invariant (fun books turn numbered _ => steps books turn numbered)
      (fun _ turn numbered _ => (turnBooks_numbered numbered turn).2) numbered (meets_true start turns)

/-- No workspace has issued anything yet. -/
def emptyBooks (seller : Organization) : InvoiceBooks where
  invoices _ := Table.empty
  sellers _ := seller
  txs := Table.empty

theorem emptyBooks_numbered (hashtext : String → Int) (seller : Organization) :
    Numbered hashtext (emptyBooks seller) where
  sequence _ _ := rfl
  exclusive := by
    intro tx stored
    exact absurd stored List.not_mem_nil
  drawn := by
    intro tx stored
    exact absurd stored List.not_mem_nil

def eventa : Organization := { name := "Eventa", address := "Bangkok", taxId := "0105" }

/-- What an order of a workspace is billed. -/
def billed (orderId issuedAt : Nat) : IssueInvoiceInput where
  orderId := orderId
  eventId := 7
  buyerName := "Anan"
  buyerEmail := "anan@x.test"
  issuedAt := issuedAt
  dueAt := dueDateFor issuedAt
  subtotalSatang := 93
  vatAmountSatang := 7
  amountSatang := 100
  currency := "THB"
  status := .issued
  paidVia := none
  paidOn := none

/-- Two issues at once, the second waiting; the first is given up with its number drawn. -/
def issuedAfterRollback : List BooksTurn :=
  [.issue 1 (billed 10 20500), .issue 1 (billed 11 20501), .advance 0, .advance 1, .advance 0,
    .advance 0, .advance 0, .rollback 0] ++ List.replicate 6 (.advance 1)

/-- The number given up is the second issue's. -/
theorem numbers_in_sequence_rollback :
    ((∀ organizationId, InSequence ((run (turnBooks fun _ => 0) (emptyBooks eventa)
          issuedAfterRollback).invoices organizationId) ∧
        (((run (turnBooks fun _ => 0) (emptyBooks eventa)
          issuedAfterRollback).invoices organizationId).rows.map Invoice.number).Nodup) ∧
      Meets (turnBooks fun _ => 0)
        (fun books turn => NumbersGoOn books (turnBooks (fun _ => 0) books turn))
        (emptyBooks eventa) issuedAfterRollback) ∧
    numbersIn ((run (turnBooks fun _ => 0) (emptyBooks eventa) issuedAfterRollback).invoices 1)
      2026 = ["INV-2026-0001"] :=
  ⟨numbers_in_sequence _ (emptyBooks_numbered _ eventa) issuedAfterRollback, by decide +kernel⟩

end EventaApi.Guarantees
