import EventaApi.Guarantees.ConfirmedPaid
import EventaApi.Guarantees.RefundAtomic
import EventaApi.Source.Invoices

/-!
# An invoice mirrors its order's money

A settlement marks its order's invoice paid and a refund voids it, inside their own
transactions. An invoice raised from what was read before, a void decided before, and a
rejection that never looks at the invoice are what can come between. While none of them
does, the live invoice of an order says what its payments say.
-/
namespace EventaApi.Guarantees
open Library Source

abbrev InvoicePool := Pool Service InvoicePhase

abbrev InvoiceTurn := PoolTurn InvoiceRequest Unit ServiceTurn

/-! ## What is asked of invoices -/

/-- The registration was cancelled, refunded or rejected. -/
def Undone (order : Order) : Prop :=
  order.status = .cancelled ∨ order.status = .rejected ∨ order.paymentStatus = .refunded

instance : DecidablePred Undone := fun _ => inferInstanceAs (Decidable (_ ∨ _ ∨ _))

/-- Undone, and no payment of it is paid. -/
def NothingToBill (db : Db) (order : Order) : Prop := Undone order ∧ ¬ PaidFor db order.id

instance (db : Db) : DecidablePred (NothingToBill db) :=
  fun _ => inferInstanceAs (Decidable (_ ∧ ¬ _))

/-- Every invoice of the order is void. -/
def AllVoid (invoices : Table Invoice) (orderId : Nat) : Prop :=
  ∀ invoice ∈ invoices.rows, invoice.orderId = orderId → invoice.status = .void

instance (invoices : Table Invoice) (orderId : Nat) : Decidable (AllVoid invoices orderId) :=
  inferInstanceAs (Decidable (∀ _ ∈ _, _ → _))

/-- An order has one invoice that is not void. -/
def LiveOnce (invoices : Table Invoice) : Prop :=
  ∀ first ∈ invoices, ∀ second ∈ invoices, first.orderId = second.orderId →
    first.status ≠ .void → second.status ≠ .void → first = second

structure Mirrors (db : Db) : Prop where
  once : LiveOnce db.ledger.invoices
  paid : ∀ invoice ∈ db.ledger.invoices, invoice.status ≠ .void → PaidFor db invoice.orderId →
    invoice.status = .paid
  undone : ∀ order ∈ db.orders, NothingToBill db order → AllVoid db.ledger.invoices order.id

/-- No invoice that is paid is voided by a request. -/
def VoidsUnpaid (pool : InvoicePool) (turn : InvoiceTurn) : Prop :=
  ∀ jobId, turn = .advance jobId () → ∀ job ∈ pool.jobs.find jobId, ∀ invoice input,
    job.phase = .markVoid invoice input →
      ∀ row ∈ pool.shared.office.db.ledger.invoices.find invoice.id, row.status ≠ .paid

/-- No invoice is added to an order with nothing to bill. -/
def IssuesOwed (pool : InvoicePool) (turn : InvoiceTurn) : Prop :=
  ∀ invoice ∈ (invoiceRequests.serve pool turn).shared.office.db.ledger.invoices,
    pool.shared.office.db.ledger.invoices.find invoice.id = none →
      ∀ order ∈ pool.shared.office.db.orders, order.id = invoice.orderId →
        ¬ NothingToBill pool.shared.office.db order

/-! ## Conditions on a run -/

/-- What was read before an invoice was written still stands when it is. -/
def stillStands (service : Service) (_ : Unit) : InvoicePhase → Prop
  | .issue input => findLiveForOrder service.office.db.ledger.invoices input.orderId = none →
    (PaidFor service.office.db input.orderId → input.status = .paid) ∧
      ∀ order ∈ service.office.db.orders.find input.orderId,
        ¬ NothingToBill service.office.db order
  | .markVoid invoice _ => ∀ row ∈ service.office.db.ledger.invoices.find invoice.id,
    row.status = .paid → invoice.status = .paid
  | _ => True

def rejecting : Turn → Option RejectOrderInput
  | .checkout (.rejectOrder input) _ => some input
  | _ => none

/-- An order is not rejected from under a live invoice, unless it was paid for. -/
def rejectsUnbilled (service : Service) (turn : ServiceTurn) : Prop :=
  ∀ input ∈ rejecting turn.val, ∀ order ∈ service.office.db.orders.find input.orderId,
    isRejectable order = true →
      PaidFor service.office.db order.id ∨ AllVoid service.office.db.ledger.invoices order.id

instance (service : Service) (input : Unit) : DecidablePred (stillStands service input)
  | .issue input => inferInstanceAs (Decidable
    (findLiveForOrder service.office.db.ledger.invoices input.orderId = none →
      (PaidFor service.office.db input.orderId → input.status = .paid) ∧
        ∀ order ∈ service.office.db.orders.find input.orderId,
          ¬ NothingToBill service.office.db order))
  | .markVoid invoice _ => inferInstanceAs (Decidable
    (∀ row ∈ service.office.db.ledger.invoices.find invoice.id, _ → _))
  | .findBillable _ | .findSettlement _ | .findById _ _ _ | .done _ => isTrue trivial

instance (service : Service) : DecidablePred (rejectsUnbilled service) :=
  fun turn => inferInstanceAs (Decidable (∀ _ ∈ rejecting turn.val, ∀ _ ∈ _, _ → _))

def InvoicesCurrent : InvoicePool → InvoiceTurn → Prop :=
  Handler.Guarded stillStands rejectsUnbilled

instance (pool : InvoicePool) (turn : InvoiceTurn) : Decidable (InvoicesCurrent pool turn) :=
  inferInstanceAs (Decidable (Handler.Guarded _ _ pool turn))

/-- With nothing in between, what an issue reads of an order that was not rejected stands. -/
theorem issue_stands {service : Service} {orderId day : Nat} {order : BillableOrder}
    (found : findBillableOrder service.office.db.orders orderId = some order)
    (standing : ∀ row ∈ service.office.db.orders, row.id = orderId →
      row.status ≠ .rejected ∧ row.paymentStatus ≠ .refunded) :
    stillStands service () (.issue (issueInput order
      (findSettlementForOrder service.office.db.ledger.payments order.id) day)) := by
  obtain ⟨row, stored, named, uncancelled, rfl⟩ := findBillableOrder_some found
  intro _
  constructor
  · intro paid
    have settled := findSettlementForOrder_isSome.mpr paid
    simp only [issueInput] at settled ⊢
    rw [if_pos settled]
  · intro other there nothing
    obtain ⟨stored', same⟩ := Table.find_eq_some.mp there
    have equal : other = row := Table.eq_of_key stored' stored same
    rw [equal] at nothing
    obtain ⟨unrejected, unrefunded⟩ := standing row stored named
    rcases nothing.1 with cancelled | rejected | refunded
    · exact uncancelled cancelled
    · exact unrejected rejected
    · exact unrefunded refunded

/-! ## Orders -/

section Orders

variable {db after : Db} {now : Instant} {op : Op}

theorem born_standing {order : Order} (born : OrderBorn now op order) : ¬ Undone order := by
  cases born with
  | placed input => cases input.issueTickets <;> simp [Undone, initialState]
  | joined => simp [Undone, WAITLISTED]

/-- What undoes an order: a refused settlement, a rejection or a refund. -/
theorem orderStep_undone {old new : Order} (moved : OrderStep now op old new) (undone : Undone new) :
    Undone old ∨ (∃ input, op = .settleOrder input ∧ input.mode = .payment ∧
      input.orderId = old.id) ∨
    (∃ input, op = .rejectOrder input ∧ input.orderId = old.id ∧ isRejectable old = true) ∨
      ∃ recordRefund, op = .refundOrder old.id recordRefund := by
  cases moved with
  | same => exact Or.inl undone
  | offered => exact Or.inl (Or.inr (Or.inr (by simpa [Undone] using undone)))
  | refused input _ named paying | awaits input _ named paying =>
    exact Or.inr (Or.inl ⟨input, rfl, paying, named⟩)
  | confirmed => simp [Undone] at undone
  | rejected input _ named _ rejectable => exact Or.inr (Or.inr (Or.inl ⟨input, rfl, named, rejectable⟩))
  | refunded recordRefund => exact Or.inr (Or.inr (Or.inr ⟨recordRefund, rfl⟩))

/-- Every order after an operation was born in it, or is one before it, moved. -/
theorem committed_orders (committed : Committed db now op after) {order : Order}
    (member : order ∈ after.orders) :
    OrderBorn now op order ∨ ∃ old ∈ db.orders, old.id = order.id ∧ OrderStep now op old order := by
  rcases committed_newOrder committed member with born | ⟨old, found⟩
  · exact Or.inl born
  · obtain ⟨new, found', moved⟩ := committed_order committed found
    cases (Table.find_key member).symm.trans found'
    obtain ⟨stored, same⟩ := Table.find_eq_some.mp found
    exact Or.inr ⟨old, stored, same, moved⟩

end Orders

/-! ## Invoices -/

section Invoices

variable {db after : Db} {invoices : Table Invoice}

/-- A rewrite that keeps an invoice's order and revives none keeps one live. -/
theorem liveOnce_update {hit : Invoice → Prop} [DecidablePred hit] {write : Invoice → Invoice}
    {keeps : ∀ row, Keyed.key (write row) = Keyed.key row} (once : LiveOnce invoices)
    (orders : ∀ row, (write row).orderId = row.orderId)
    (live : ∀ row, hit row → (write row).status ≠ .void → row.status ≠ .void) :
    LiveOnce (invoices.update hit write keeps) := by
  have before {row : Invoice} (member : row ∈ invoices.update hit write keeps)
      (open' : row.status ≠ .void) : ∃ old ∈ invoices, old.orderId = row.orderId ∧
        old.status ≠ .void ∧ row = if hit old then write old else old := by
    obtain ⟨old, stored, rfl⟩ := Table.mem_update.mp member
    refine ⟨old, stored, ?_, ?_, rfl⟩
    · split
      · exact (orders old).symm
      · rfl
    · split at open'
      next struck => exact live old struck open'
      next => exact open'
  intro first member second member' same open' open''
  obtain ⟨one, stored, ofOrder, standing, written⟩ := before member open'
  obtain ⟨two, stored', ofOrder', standing', written'⟩ := before member' open''
  have equal := once one stored two stored' ((ofOrder.trans same).trans ofOrder'.symm)
    standing standing'
  rw [written, written', equal]

/-- Where the invoices and what is paid stay, and nothing newly undone has a live invoice, the
invoices still mirror the money. -/
theorem mirrors_of_same (mirrors : Mirrors db)
    (invoices : after.ledger.invoices = db.ledger.invoices)
    (paid : ∀ orderId, PaidFor after orderId ↔ PaidFor db orderId)
    (undone : ∀ order ∈ after.orders, NothingToBill after order →
      (∃ old ∈ db.orders, old.id = order.id ∧ Undone old) ∨
        AllVoid db.ledger.invoices order.id) : Mirrors after where
  once := by
    rw [invoices]
    exact mirrors.once
  paid := by
    rw [invoices]
    intro invoice stored live settled
    exact mirrors.paid invoice stored live ((paid _).mp settled)
  undone := by
    rw [invoices]
    intro order member nothing
    rcases undone order member nothing with ⟨old, stored, same, was⟩ | void
    · rw [← same]
      refine mirrors.undone old stored ⟨was, fun settled => nothing.2 ?_⟩
      rw [← same]
      exact (paid _).mpr settled
    · exact void

/-- Checkout and the organizer write no invoice and no payment. -/
theorem mirrors_committed {now : Instant} {op : Op} (mirrors : Mirrors db)
    (committed : Committed db now op after) (free : op.paysNothing)
    (unbilled : ∀ input, op = .rejectOrder input → ∀ order ∈ db.orders.find input.orderId,
      isRejectable order = true → PaidFor db order.id ∨ AllVoid db.ledger.invoices order.id) :
    Mirrors after := by
  have ledger := (commit_ledger free committed).1
  have paid (orderId : Nat) : PaidFor after orderId ↔ PaidFor db orderId := by
    rw [PaidFor, PaidFor, ledger]
  refine mirrors_of_same mirrors (by rw [ledger]) paid fun order member nothing => ?_
  rcases committed_orders committed member with born | ⟨old, stored, same, moved⟩
  · exact absurd nothing.1 (born_standing born)
  · rcases orderStep_undone moved nothing.1 with
      was | ⟨input, rfl, paying, _⟩ | ⟨input, rfl, named, rejectable⟩ | ⟨recordRefund, rfl⟩
    · exact Or.inl ⟨old, stored, same, was⟩
    · exact absurd (free.1.symm.trans paying) (by simp)
    · have found : db.orders.find input.orderId = some old :=
        Table.find_eq_some.mpr ⟨stored, named.symm⟩
      rcases unbilled input rfl old found rejectable with settled | void
      · rw [same] at settled
        exact absurd ((paid _).mpr settled) nothing.2
      · rw [same] at void
        exact Or.inr void
    · exact free.elim

end Invoices

/-! ## A payment flow's step -/

section Payments

variable {service : Service} {now : Instant} {phase : Phase} {acted : Acted}

/-- No invoice is stored overdue: that is how an unpaid one reads when its day has passed. -/
def NoneOverdue (invoices : Table Invoice) : Prop :=
  ∀ invoice ∈ invoices, invoice.status ≠ .overdue

theorem noneOverdue_update {hit : Invoice → Prop} [DecidablePred hit] {write : Invoice → Invoice}
    {keeps : ∀ row, Keyed.key (write row) = Keyed.key row} {invoices : Table Invoice}
    (none : NoneOverdue invoices) (written : ∀ row, (write row).status ≠ .overdue) :
    NoneOverdue (invoices.update hit write keeps) := by
  intro invoice member
  obtain ⟨old, stored, rfl⟩ := Table.mem_update.mp member
  split
  · exact written old
  · exact none old stored

structure Billed (service : Service) : Prop where
  grounded : Grounded service
  mirrors : Mirrors service.office.db
  stored : NoneOverdue service.office.db.ledger.invoices

/-! ### A settlement -/

section Settling

variable {db after : Db} {read : Payment} {mintQrToken : Nat → String} {order : Order}
variable {settlement : Settlement}

/-- An order that is paid for stays paid for. -/
theorem paidFor_settled
    (settles : Settled db (settlementInput read mintQrToken now) order now settlement after)
    {orderId : Nat} (paid : PaidFor db orderId) : PaidFor after orderId := by
  obtain ⟨payment, stored, mine, status⟩ := paid
  rw [PaidFor, settled_ledger settles rfl]
  by_cases hit : payment.id = read.id
  · exact ⟨_, Table.mem_update_of_hit stored hit, mine, rfl⟩
  · exact ⟨payment, Table.mem_update_of_miss stored hit, mine, status⟩

/-- Only the order of the payment that settles comes to be paid for. -/
theorem paidFor_of_settled
    (settles : Settled db (settlementInput read mintQrToken now) order now settlement after)
    (known : PaymentStored db read) {orderId : Nat} (paid : PaidFor after orderId) :
    PaidFor db orderId ∨ orderId = read.orderId := by
  obtain ⟨payment, member, mine, status⟩ := paid
  rw [settled_ledger settles rfl] at member
  obtain ⟨old, stored, rfl⟩ := Table.mem_update.mp member
  by_cases hit : old.id = read.id
  · obtain ⟨row, stored', same⟩ := known
    have equal : row = old := Table.eq_of_key stored' stored (same.id.trans hit.symm)
    rw [if_pos hit] at mine
    right
    rw [← same.orderId, equal]
    exact mine.symm
  · rw [if_neg hit] at mine status
    exact Or.inl ⟨old, stored, mine, status⟩

theorem settled_invoices
    (settles : Settled db (settlementInput read mintQrToken now) order now settlement after) :
    after.ledger.invoices = markPaidForOrderIn db.ledger.invoices read.orderId read.method
      (bangkokToday now) := by
  rw [settled_ledger settles rfl]
  rfl

/-- Its live invoice is paid with it. -/
theorem settled_paid (mirrors : Mirrors db) (stored : NoneOverdue db.ledger.invoices)
    (settles : Settled db (settlementInput read mintQrToken now) order now settlement after)
    (known : PaymentStored db read) :
    ∀ invoice ∈ after.ledger.invoices, invoice.status ≠ .void → PaidFor after invoice.orderId →
      invoice.status = .paid := by
  rw [settled_invoices settles]
  intro invoice member live paid
  rcases Table.mem_update_cases member with ⟨old, stored', hit, rfl⟩ | ⟨stored', hit⟩
  · rfl
  · rcases paidFor_of_settled settles known paid with was | mine
    · exact mirrors.paid invoice stored' live was
    · cases status : invoice.status with
      | issued => exact absurd ⟨mine, status⟩ hit
      | paid => rfl
      | overdue => exact absurd status (stored invoice stored')
      | void => exact absurd status live

/-- The order it settles is paid for, and no other is undone by it. -/
theorem settled_undone (mirrors : Mirrors db)
    (found : db.orders.find read.orderId = some order)
    (settles : Settled db (settlementInput read mintQrToken now) order now settlement after)
    (known : PaymentStored db read) :
    ∀ row ∈ after.orders, NothingToBill after row → AllVoid after.ledger.invoices row.id := by
  rw [settled_invoices settles]
  intro row member nothing invoice member' ofRow
  have elsewhere : row.id ≠ read.orderId := fun here =>
    nothing.2 (by
      rw [here]
      exact settled_paidFor settles known)
  rcases committed_orders (.settled _ order settlement after found settles) member with
    born | ⟨old, there, same, moved⟩
  · cases born
  · rcases orderStep_undone moved nothing.1 with
      was | ⟨input, settling, _, named⟩ | ⟨_, rejects, _⟩ | ⟨_, refunds⟩
    · have nothingOwed : NothingToBill db old := by
        refine ⟨was, fun settled => nothing.2 ?_⟩
        rw [← same]
        exact paidFor_settled settles settled
      obtain ⟨before, stored, rfl⟩ := Table.mem_update.mp member'
      have missed : ¬ (before.orderId = read.orderId ∧ before.status = .issued) := fun hit => by
        rw [if_pos hit] at ofRow
        exact elsewhere (ofRow.symm.trans hit.1)
      rw [if_neg missed] at ofRow ⊢
      exact mirrors.undone old there nothingOwed before stored (ofRow.trans same.symm)
    · cases settling
      exact absurd (same.symm.trans named.symm) elsewhere
    · cases rejects
    · cases refunds

/-- A settlement marks its order's invoice paid, whatever becomes of the order. -/
theorem settled_mirrors (mirrors : Mirrors db) (stored : NoneOverdue db.ledger.invoices)
    (found : db.orders.find read.orderId = some order)
    (settles : Settled db (settlementInput read mintQrToken now) order now settlement after)
    (known : PaymentStored db read) : Mirrors after ∧ NoneOverdue after.ledger.invoices := by
  refine ⟨⟨?_, settled_paid mirrors stored settles known,
    settled_undone mirrors found settles known⟩, ?_⟩
  · rw [settled_invoices settles]
    exact liveOnce_update mirrors.once (fun _ => rfl) fun row hit _ => by simp [hit.2]
  · rw [settled_invoices settles]
    exact noneOverdue_update stored fun _ => by simp

end Settling

/-! ### A refund, and the rest -/

/-- Only a settlement makes an order paid for. -/
theorem paidFor_of_acts {db : Db} (acts : Acts db now phase acted) (knows : Knows db phase)
    (other : ∀ verified read, phase ≠ .settle verified read) {orderId : Nat}
    (paid : PaidFor acted.db orderId) : PaidFor db orderId := by
  obtain ⟨payment, member, mine, status⟩ := paid
  rcases acts_paid acts knows member status with
    ⟨old, stored, same, paid⟩ | ⟨verified, read, at', _⟩
  · exact ⟨old, stored, same.orderId.symm.trans mine, paid⟩
  · exact absurd at' (other verified read)

/-- A refund voids its order's invoices with it. -/
theorem voided_mirrors (billed : Billed service) {origin : Origin} {refund : Refund}
    {ledger : MarkRefundedInput} {order : Order}
    (knows : Knows service.office.db (.voidOrder origin refund ledger))
    (found : service.office.db.orders.find refund.orderId = some order)
    (acts : Acts service.office.db now (.voidOrder origin refund ledger) acted)
    (same : acted.db = refundedDb service.office.db order
      { refundedLedger service.office.db.ledger ledger with
        invoices := voidForRefundIn service.office.db.ledger.invoices refund.orderId
          refund.issuedBy ledger.now } now) :
    Mirrors acted.db ∧ NoneOverdue acted.db.ledger.invoices := by
  obtain ⟨_, named⟩ := Table.find_eq_some.mp found
  have named : order.id = refund.orderId := named
  have invoices : acted.db.ledger.invoices = voidForRefundIn service.office.db.ledger.invoices
      refund.orderId refund.issuedBy ledger.now := by rw [same, refundedDb]
  have before {invoice : Invoice} (member : invoice ∈ acted.db.ledger.invoices) :
      invoice.status = .void ∨ (invoice ∈ service.office.db.ledger.invoices ∧
        invoice.orderId ≠ refund.orderId) := by
    rw [invoices] at member
    rcases Table.mem_update_cases member with ⟨old, stored, hit, rfl⟩ | ⟨stored, hit⟩
    · exact Or.inl rfl
    · by_cases void : invoice.status = .void
      · exact Or.inl void
      · exact Or.inr ⟨stored, fun mine => hit ⟨mine, void⟩⟩
  refine ⟨⟨?_, fun invoice member live paid => ?_, fun row member nothing invoice member' mine => ?_⟩,
    ?_⟩
  · rw [invoices]
    exact liveOnce_update billed.mirrors.once (fun _ => rfl) fun row hit _ => hit.2
  · rcases before member with void | ⟨stored, _⟩
    · exact absurd void live
    · exact billed.mirrors.paid invoice stored live
        (paidFor_of_acts acts knows (fun _ _ at' => by cases at') paid)
  · rcases before member' with void | ⟨stored, apart⟩
    · exact void
    · rw [same] at member
      obtain ⟨old, there, rfl⟩ := Table.mem_update.mp member
      have missed : old.id ≠ order.id := fun hit => by
        rw [if_pos hit] at mine
        exact apart (mine.trans (hit.trans named))
      rw [if_neg missed] at nothing mine
      refine billed.mirrors.undone old there ⟨nothing.1, fun settled => ?_⟩ invoice stored mine
      rcases acts_paidFor acts knows billed.grounded.refunds settled with
        still | ⟨_, _, _, _, at', ofOld, _⟩
      · exact nothing.2 still
      · cases at'
        exact apart (mine.trans ofOld.symm)
  · rw [invoices]
    exact noneOverdue_update billed.stored fun _ => by simp

/-- A call's own step keeps the invoices in step with the money. -/
theorem acts_mirrors (billed : Billed service) (knows : Knows service.office.db phase)
    (acts : Acts service.office.db now phase acted) :
    Mirrors acted.db ∧ NoneOverdue acted.db.ledger.invoices := by
  have kept (invoices : acted.db.ledger.invoices = service.office.db.ledger.invoices)
      (orders : acted.db.orders = service.office.db.orders)
      (apart : ∀ verified read, phase ≠ .settle verified read)
      (apart' : ∀ origin refund ledger, phase ≠ .voidOrder origin refund ledger) :
      Mirrors acted.db ∧ NoneOverdue acted.db.ledger.invoices := by
    refine ⟨mirrors_of_same billed.mirrors invoices (fun orderId => ⟨?_, fun paid => ?_⟩)
      fun order member nothing => Or.inl ⟨order, ?_, rfl, nothing.1⟩, ?_⟩
    · exact paidFor_of_acts acts knows apart
    · rcases acts_paidFor acts knows billed.grounded.refunds paid with
        still | ⟨_, _, _, _, at', _⟩
      · exact still
      · exact absurd at' (apart' _ _ _)
    · rwa [orders] at member
    · rw [invoices]
      exact billed.stored
  cases acts with
  | settled verified read mintQrToken order settlement after found settles =>
    exact settled_mirrors billed.mirrors billed.stored found settles knows.2
  | voided origin refund ledger order found pending =>
    exact voided_mirrors billed knows found (.voided origin refund ledger order found pending) rfl
  | read => exact ⟨billed.mirrors, billed.stored⟩
  | released verified read =>
    have same : (releaseHoldsForOrder service.office.db read.orderId).ledger =
          service.office.db.ledger ∧
        (releaseHoldsForOrder service.office.db read.orderId).orders =
          service.office.db.orders := by
      rcases releaseHoldsForOrder_cases service.office.db read.orderId with
        same | ⟨_, _, _, same⟩
      · rw [same]
        exact ⟨rfl, rfl⟩
      · rw [same]
        exact ⟨rfl, rfl⟩
    exact kept (congrArg Ledger.invoices same.1) same.2 (fun _ _ at' => by cases at')
      fun _ _ _ at' => by cases at'
  | _ => exact kept rfl rfl (fun _ _ at' => by cases at') fun _ _ _ at' => by cases at'

end Payments

/-! ## Every step -/

/-- Checkout, the organizer and the payment flows keep the invoices in step with the money. -/
theorem serve_mirrors {service : Service} {turn : ServiceTurn} (billed : Billed service)
    (rejects : rejectsUnbilled service turn) : Mirrors (serve service turn.val).office.db ∧
      NoneOverdue (serve service turn.val).office.db.ledger.invoices := by
  obtain ⟨turn, leaves⟩ := turn
  cases turn with
  | checkout op free =>
    have unbilled : ∀ input, op = .rejectOrder input →
        ∀ order ∈ service.office.db.orders.find input.orderId, isRejectable order = true →
          PaidFor service.office.db order.id ∨
            AllVoid service.office.db.ledger.invoices order.id := by
      rintro input rfl order found
      exact rejects input rfl order found
    change Mirrors (step service.office op).db ∧
      NoneOverdue (step service.office op).db.ledger.invoices
    rw [(step_ledger service.office free).1]
    refine ⟨?_, billed.stored⟩
    rcases step_db service.office op with same | committed
    · rw [same]
      exact billed.mirrors
    · exact mirrors_committed billed.mirrors (commit_cases committed) free unbilled
  | invoicing => exact leaves.elim
  | receive | crash => exact ⟨billed.mirrors, billed.stored⟩
  | advance callId answer =>
    simp only [serve]
    split
    next call found =>
      have knows := billed.grounded.calls call (Table.find_eq_some.mp found).1
      exact acts_mirrors billed knows (act_cases _ service.office.clock answer call.phase)
    next => exact ⟨billed.mirrors, billed.stored⟩

theorem serve_billed {service : Service} {turn : ServiceTurn} (billed : Billed service)
    (rejects : rejectsUnbilled service turn) : Billed (serve service turn.val) :=
  have ⟨mirrors, stored⟩ := serve_mirrors billed rejects
  ⟨serve_grounded service turn.val billed.grounded, mirrors, stored⟩

/-- What a request carries to its write. -/
def Readied (_ : Service) : InvoicePhase → Prop
  | .issue input => input.status ≠ .overdue
  | .markVoid invoice _ => invoice.status ≠ .paid
  | _ => True

/-- A write of invoices alone leaves the money as it is. -/
theorem invoiced_billed {service : Service} {invoices : Table Invoice} (billed : Billed service)
    (once : LiveOnce invoices)
    (paid : ∀ invoice ∈ invoices, invoice.status ≠ .void →
      PaidFor service.office.db invoice.orderId → invoice.status = .paid)
    (undone : ∀ order ∈ service.office.db.orders, NothingToBill service.office.db order →
      AllVoid invoices order.id)
    (stored : NoneOverdue invoices) : Billed (invoiced service invoices) where
  grounded := serve_grounded service (.invoicing fun _ => invoices) billed.grounded
  mirrors := ⟨once, paid, undone⟩
  stored := stored

theorem issue_billed {service : Service} {input : IssueInvoiceInput} (billed : Billed service)
    (readied : input.status ≠ .overdue) (stands : stillStands service () (.issue input)) :
    Billed (invoiced service (issueInvoice service.office.db.ledger input).2.invoices) := by
  unfold issueInvoice
  split
  · exact billed
  next missing =>
    obtain ⟨settled, owed⟩ := stands missing
    have others := findLiveForOrder_none missing
    refine invoiced_billed billed ?_ ?_ ?_ ?_
    · intro first member second member' same live live'
      rcases Table.mem_insert.mp member with old | rfl
      · rcases Table.mem_insert.mp member' with old' | rfl
        · exact billed.mirrors.once first old second old' same live live'
        · exact absurd (others first old same) live
      · rcases Table.mem_insert.mp member' with old' | rfl
        · exact absurd (others second old' same.symm) live'
        · rfl
    · intro invoice member live paid
      rcases Table.mem_insert.mp member with old | rfl
      · exact billed.mirrors.paid invoice old live paid
      · exact settled paid
    · intro order there nothing invoice member mine
      rcases Table.mem_insert.mp member with old | rfl
      · exact billed.mirrors.undone order there nothing invoice old mine
      · exact absurd nothing (owed order (Table.find_eq_some.mpr ⟨there, mine.symm⟩))
    · intro invoice member
      rcases Table.mem_insert.mp member with old | rfl
      · exact billed.stored invoice old
      · exact readied

theorem markVoid_billed {service : Service} {invoiceId : Nat} {input : VoidInvoiceInput}
    (billed : Billed service) :
    Billed (invoiced service (markVoid service.office.db.ledger.invoices invoiceId input)) := by
  have before {invoice : Invoice}
      (member : invoice ∈ markVoid service.office.db.ledger.invoices invoiceId input) :
      invoice.status = .void ∨ invoice ∈ service.office.db.ledger.invoices := by
    obtain ⟨old, stored, rfl⟩ := Table.mem_update.mp member
    split
    · exact Or.inl rfl
    · exact Or.inr stored
  refine invoiced_billed billed ?_ ?_ ?_ ?_
  · exact liveOnce_update billed.mirrors.once (fun _ => rfl) fun _ _ live => absurd rfl live
  · intro invoice member live paid
    rcases before member with void | stored
    · exact absurd void live
    · exact billed.mirrors.paid invoice stored live paid
  · intro order there nothing invoice member mine
    rcases before member with void | stored
    · exact void
    · exact billed.mirrors.undone order there nothing invoice stored mine
  · exact noneOverdue_update billed.stored fun _ => by simp

theorem invoices_keep : invoiceRequests.Keeps Billed Readied stillStands rejectsUnbilled where
  opened := by
    intro _ request _
    cases request <;> trivial
  crashed := fun _ _ => trivial
  act := by
    intro service input phase billed readied stands
    cases phase with
    | findBillable orderId =>
      refine ⟨billed, ?_⟩
      simp only [invoiceRequests, actOnInvoice]
      split <;> trivial
    | findSettlement order =>
      refine ⟨billed, ?_⟩
      change (issueInput order _ _).status ≠ .overdue
      simp only [issueInput]
      split <;> simp
    | issue input => exact ⟨issue_billed billed readied stands, trivial⟩
    | findById invoiceId actor reason =>
      refine ⟨billed, ?_⟩
      simp only [invoiceRequests, actOnInvoice]
      split
      next invoice success => exact (requireVoidable_ok success).2
      next => trivial
    | markVoid invoice input =>
      cases found : service.office.db.ledger.invoices.find invoice.id with
      | none =>
        simp only [invoiceRequests, actOnInvoice, found]
        exact ⟨billed, trivial⟩
      | some row =>
        simp only [invoiceRequests, actOnInvoice, found]
        exact ⟨markVoid_billed billed, trivial⟩
    | done reply => exact ⟨billed, trivial⟩
  undisturbed := fun _ _ _ _ _ _ _ readied => readied
  outside := fun _ _ billed rejects => ⟨serve_billed billed rejects, fun _ readied => readied⟩

/-! ## Runs -/

section Turns

variable {pool : InvoicePool} {turn : InvoiceTurn}

theorem sound_voidsUnpaid (sound : pool.Sound Billed Readied) (current : InvoicesCurrent pool turn) :
    VoidsUnpaid pool turn := by
  rintro jobId rfl job found invoice input voiding row stored paid
  have stands := current job found
  rw [voiding] at stands
  have readied := sound.jobs job (Table.find_eq_some.mp found).1
  rw [voiding] at readied
  exact readied (stands row stored paid)

/-- Checkout, the organizer and the payment flows add no invoice. -/
theorem serve_invoice {service : Service} {turn : ServiceTurn} {invoice : Invoice}
    (member : invoice ∈ (serve service turn.val).office.db.ledger.invoices) :
    ∃ old, service.office.db.ledger.invoices.find invoice.id = some old := by
  have stored (member : invoice ∈ service.office.db.ledger.invoices) :
      ∃ old, service.office.db.ledger.invoices.find invoice.id = some old :=
    ⟨_, Table.find_key member⟩
  obtain ⟨turn, leaves⟩ := turn
  cases turn with
  | checkout op free =>
    change invoice ∈ (step service.office op).db.ledger.invoices at member
    rw [(step_ledger service.office free).1] at member
    exact stored member
  | invoicing => exact leaves.elim
  | receive | crash => exact stored member
  | advance callId answer =>
    simp only [serve] at member
    split at member
    next call found =>
      have acts := act_cases service.office.db service.office.clock answer call.phase
      change invoice ∈ (act _ _ _ _).db.ledger.invoices at member
      generalize act service.office.db service.office.clock answer call.phase = acted at acts member
      generalize call.phase = phase at acts
      cases acts with
      | settled _ read _ order settlement after _ settles =>
        rw [settled_invoices settles] at member
        exact Table.exists_find_of_update member
      | voided => exact Table.exists_find_of_update member
      | released verified read =>
        rcases releaseHoldsForOrder_cases service.office.db read.orderId with
          same | ⟨_, _, _, same⟩
        · rw [same] at member
          exact stored member
        · rw [same] at member
          exact stored member
      | _ => exact stored member
    next => exact stored member

theorem current_issuesOwed (current : InvoicesCurrent pool turn) : IssuesOwed pool turn := by
  intro invoice member unheard order there mine
  have known (member : invoice ∈ pool.shared.office.db.ledger.invoices) : False := by
    rw [show pool.shared.office.db.ledger.invoices.find invoice.id = some invoice from
      Table.find_key member] at unheard
    cases unheard
  cases turn with
  | receive | crash => exact (known member).elim
  | outside event =>
    obtain ⟨old, found⟩ := serve_invoice member
    rw [unheard] at found
    cases found
  | advance jobId input =>
    cases found : pool.jobs.find jobId with
    | none =>
      rw [serve_missing found] at member
      exact (known member).elim
    | some job =>
      have stands := current job found
      rw [serve_advance found] at member
      generalize job.phase = phase at member stands
      cases phase with
      | issue input =>
        change invoice ∈ (issueInvoice pool.shared.office.db.ledger input).2.invoices at member
        unfold issueInvoice at member
        split at member
        · exact (known member).elim
        next missing =>
          rcases Table.mem_insert.mp member with old | rfl
          · exact (known old).elim
          · exact (stands missing).2 order (Table.find_eq_some.mpr ⟨there, mine⟩)
      | markVoid invoice' input =>
        simp only [invoiceRequests, actOnInvoice] at member
        split at member
        · obtain ⟨old, found'⟩ := Table.exists_find_of_update member
          cases unheard.symm.trans found'
        · exact (known member).elim
      | _ => exact (known member).elim

end Turns

/-- The invoices mirror the money in every state of a run in which each invoice is written while
what was read for it still stands, and no order is rejected from under a live invoice unpaid. -/
theorem invoices_mirror (start : InvoicePool) (unpaid : Unpaid start.shared)
    (uninvoiced : start.shared.office.db.ledger.invoices.rows = []) (idle : start.jobs.rows = [])
    (turns : List InvoiceTurn) (current : Meets invoiceRequests.serve InvoicesCurrent start turns) :
    Throughout invoiceRequests.serve (fun pool => Mirrors pool.shared.office.db) start turns ∧
      Meets invoiceRequests.serve (fun pool turn => VoidsUnpaid pool turn ∧ IssuesOwed pool turn)
        start turns := by
  have none := Table.not_mem_of_empty uninvoiced
  have initial : start.Sound Billed Readied :=
    { shared :=
        { grounded := unpaid_grounded unpaid
          mirrors :=
            { once := fun invoice stored => absurd stored (none invoice)
              paid := fun invoice stored => absurd stored (none invoice)
              undone := fun _ _ _ invoice stored => absurd stored (none invoice) }
          stored := fun invoice stored => absurd stored (none invoice) }
      jobs := fun job stored => absurd stored (Table.not_mem_of_empty idle job) }
  constructor
  · exact current.throughout invoices_keep.serve (fun _ sound => sound.shared.mirrors) initial
  · exact current.of_invariant invoices_keep.serve
      (fun _ _ sound now => ⟨sound_voidsUnpaid sound now, current_issuesOwed now⟩) initial

/-- The till before anything was sold, and nobody at the invoices. -/
def unbilledTill : InvoicePool := ⟨till, Table.empty⟩

instance : DecidablePred Turn.leavesInvoices
  | .invoicing _ => isFalse id
  | .checkout _ _ | .receive _ | .advance _ _ | .crash _ => isTrue trivial

/-- What the rest of the service does. -/
def beside (turns : List Turn) : List InvoiceTurn :=
  turns.filterMap fun turn =>
    if leaves : turn.leavesInvoices then some (.outside ⟨turn, leaves⟩) else none

def invoiceStep (jobId : Nat) : InvoiceTurn := .advance jobId ()

/-- The sale is invoiced, paid for and refunded; the paid invoice is not voided on request. -/
def invoicedSale : List InvoiceTurn :=
  beside [sale] ++ [.receive (.issue 0), invoiceStep 0, invoiceStep 0, invoiceStep 0] ++
    beside (paying 0 "pi_1" ++ landing 1 "evt_1" "pi_1") ++
    [.receive (.voidInvoice 0 7 none), invoiceStep 1] ++
    beside ([refunding 0 "first"] ++ steps 2 2 ++ moneyBack 2 "re_1")

theorem invoices_mirror_invoicedSale :
    Throughout invoiceRequests.serve (fun pool => Mirrors pool.shared.office.db) unbilledTill
        invoicedSale ∧
      (run invoiceRequests.serve unbilledTill invoicedSale).shared.office.db.ledger.invoices.rows.map
        Invoice.status = [.void] ∧
      ((run invoiceRequests.serve unbilledTill invoicedSale).jobs.find 1).map Job.phase =
        some (.done (.thrown VOID_PAID)) :=
  ⟨(invoices_mirror unbilledTill till_unpaid rfl rfl invoicedSale (by decide +kernel)).1,
    by decide +kernel, by decide +kernel⟩

/-- The payment lands between the read of the settlement and the write of the invoice. -/
def invoicedWhilePaying : List InvoiceTurn :=
  beside ([sale] ++ paying 0 "pi_1") ++ [.receive (.issue 0), invoiceStep 0, invoiceStep 0] ++
    beside (landing 1 "evt_1" "pi_1") ++ [invoiceStep 0]

def callDone (call : Call) : Bool :=
  match call.phase with
  | .done _ => true
  | _ => false

def requestDone (job : Job InvoicePhase) : Bool :=
  match job.phase with
  | .done _ => true
  | _ => false

/-- Nothing is in flight. -/
def AtRest (pool : InvoicePool) : Prop :=
  pool.shared.calls.rows.all callDone = true ∧ pool.jobs.rows.all requestDone = true

/-- With nothing in flight, an order that is paid has a live invoice that is not. -/
theorem invoiced_unpaid :
    ¬ Throughout invoiceRequests.serve (fun pool => AtRest pool → Mirrors pool.shared.office.db)
      unbilledTill invoicedWhilePaying := by
  intro holds
  have rest : AtRest (run invoiceRequests.serve unbilledTill invoicedWhilePaying) :=
    ⟨by decide +kernel, by decide +kernel⟩
  have mirrors := holds invoicedWhilePaying List.prefix_rfl rest
  have owed : ∃ invoice ∈ (run invoiceRequests.serve unbilledTill
      invoicedWhilePaying).shared.office.db.ledger.invoices.rows, invoice.status = .issued ∧
        PaidFor (run invoiceRequests.serve unbilledTill invoicedWhilePaying).shared.office.db
          invoice.orderId := by decide +kernel
  obtain ⟨invoice, stored, issued, paid⟩ := owed
  have settled := mirrors.paid invoice stored (by simp [issued]) paid
  rw [issued] at settled
  cases settled

end EventaApi.Guarantees
