import Mathlib.Logic.Function.Basic
import EventaApi.Library.Run
import EventaApi.Source.Invoices

/-!
# Numbering invoices

`InvoicesRepository.issue` one statement at a time, for any number of workspaces: the lock on
the workspace's year, the live invoice, the last number, the seller, the insert and the commit.
A statement reads what is committed. What a transaction inserted counts for others when it
commits, and the lock goes with the transaction, whichever way that ends.
-/
namespace EventaApi.Source
open Library

/-- The greatest number `::int` reads. -/
def INT4_MAX : Nat := 2147483647

/-- The statement an issue comes to next, with what it has read. -/
inductive IssuePhase where
  | lock
  | findLive
  | number
  | seller (number : String)
  | insert (number : String) (seller : Organization)
  | commit (number : String) (seller : Organization)
  /-- A live invoice was there, and nothing is written. -/
  | close (existing : Invoice)
  | ended (invoice : Option Invoice)

def IssuePhase.isEnded : IssuePhase → Bool
  | .ended _ => true
  | _ => false

/-- The transaction has the lock. -/
def IssuePhase.locks : IssuePhase → Bool
  | .lock | .ended _ => false
  | _ => true

/-- The number that was read for the invoice, until it is committed. -/
def IssuePhase.drawn : IssuePhase → Option String
  | .seller drawn | .insert drawn _ | .commit drawn _ => some drawn
  | _ => none

/-- The number of a row that is inserted and not committed. -/
def IssuePhase.inserted : IssuePhase → Option String
  | .commit inserted _ => some inserted
  | _ => none

structure IssueTx where
  id : Nat
  organizationId : Nat
  input : IssueInvoiceInput
  phase : IssuePhase

instance : Keyed IssueTx := ⟨IssueTx.id⟩

def IssueTx.year (tx : IssueTx) : Nat := yearOf tx.input.issuedAt

/-- Each workspace's committed invoices and seller, and the transactions that issue. -/
structure InvoiceBooks where
  invoices : Nat → Table Invoice
  sellers : Nat → Organization
  txs : Table IssueTx

section Statements
variable (hashtext : String → Int) (books : InvoiceBooks) (tx : IssueTx)

/-- `hashtext('invoice:<workspace>:<year>')`. -/
def IssueTx.lockKey : Int :=
  hashtext ("invoice:" ++ toString tx.organizationId ++ ":" ++ toString tx.year)

def lockedByAnother : Prop :=
  ∃ other ∈ books.txs.rows, other.id ≠ tx.id ∧ other.phase.locks = true ∧
    other.lockKey hashtext = tx.lockKey hashtext

instance : Decidable (lockedByAnother hashtext books tx) :=
  inferInstanceAs (Decidable (∃ _ ∈ books.txs.rows, _ ∧ _ ∧ _))

/-- The two unique constraints: a workspace's numbers, and an order's live invoice. -/
def violatesUnique (number : String) : Prop :=
  ∃ row ∈ (books.invoices tx.organizationId).rows,
    row.number = number ∨ row.orderId = tx.input.orderId ∧ row.status ≠ .void

instance (number : String) : Decidable (violatesUnique books tx number) :=
  inferInstanceAs (Decidable (∃ _ ∈ _, _ ∨ _ ∧ _))

/-- A row another transaction inserted and has not committed: the insert waits for it. -/
def waitsForRow (number : String) : Prop :=
  ∃ other ∈ books.txs.rows, other.organizationId = tx.organizationId ∧
    ∃ inserted ∈ other.phase.inserted,
      inserted = number ∨ other.input.orderId = tx.input.orderId

instance (number : String) : Decidable (waitsForRow books tx number) :=
  inferInstanceAs (Decidable (∃ _ ∈ _, _ ∧ ∃ _ ∈ _, _ ∨ _))

/-- One statement of an issue. -/
def stepIssue : InvoiceBooks × IssuePhase :=
  let invoices := books.invoices tx.organizationId
  match tx.phase with
  | .lock => (books, if lockedByAnother hashtext books tx then .lock else .findLive)
  | .findLive =>
    (books, match findLiveForOrder invoices tx.input.orderId with
      | some existing => .close existing
      | none => .number)
  | .number =>
    (books, if INT4_MAX < lastSequence invoices tx.year then .ended none
      else .seller (nextNumber invoices tx.year))
  | .seller number => (books, .insert number (books.sellers tx.organizationId))
  | .insert number seller =>
    (books, if violatesUnique books tx number then .ended none
      else if waitsForRow books tx number then .insert number seller
      else .commit number seller)
  | .commit number seller =>
    ({ books with
        invoices := Function.update books.invoices tx.organizationId
          (invoices.insert (issuedInvoice number seller tx.input)) },
      .ended (some (issuedInvoice number seller tx.input invoices.next)))
  | .close existing => (books, .ended (some existing))
  | .ended invoice => (books, .ended invoice)

end Statements

@[reducible] def openedIssue (organizationId : Nat) (input : IssueInvoiceInput) (id : Nat) :
    IssueTx where
  id := id
  organizationId := organizationId
  input := input
  phase := .lock

@[reducible] def issueAt (phase : IssuePhase) (tx : IssueTx) : IssueTx := { tx with phase }

inductive BooksTurn where
  | issue (organizationId : Nat) (input : IssueInvoiceInput)
  /-- A transaction's next statement, or its commit. -/
  | advance (txId : Nat)
  /-- A transaction fails, is given up, or loses its connection. -/
  | rollback (txId : Nat)
  | markVoid (organizationId invoiceId : Nat) (input : VoidInvoiceInput)
  | orderPaid (organizationId orderId : Nat) (paidVia : PaymentMethod) (paidOn : Nat)
  | orderRefunded (organizationId orderId voidedBy : Nat) (now : Instant)
  | sellerChanged (organizationId : Nat) (seller : Organization)

def rewriteInvoices (books : InvoiceBooks) (organizationId : Nat)
    (write : Table Invoice → Table Invoice) : InvoiceBooks :=
  { books with
    invoices := Function.update books.invoices organizationId
      (write (books.invoices organizationId)) }

def turnBooks (hashtext : String → Int) (books : InvoiceBooks) : BooksTurn → InvoiceBooks
  | .issue organizationId input =>
    { books with txs := books.txs.insert (openedIssue organizationId input) }
  | .advance txId =>
    match books.txs.find txId with
    | none => books
    | some tx =>
      let (after, phase) := stepIssue hashtext books tx
      { after with txs := after.txs.update (fun row => row.id = txId) (issueAt phase) }
  | .rollback txId =>
    { books with
      txs := books.txs.update (fun row => row.id = txId ∧ row.phase.isEnded = false)
        (issueAt (.ended none)) }
  | .markVoid organizationId invoiceId input =>
    rewriteInvoices books organizationId fun invoices => markVoid invoices invoiceId input
  | .orderPaid organizationId orderId paidVia paidOn =>
    rewriteInvoices books organizationId fun invoices =>
      markPaidForOrderIn invoices orderId paidVia paidOn
  | .orderRefunded organizationId orderId voidedBy now =>
    rewriteInvoices books organizationId fun invoices =>
      voidForRefundIn invoices orderId voidedBy now
  | .sellerChanged organizationId seller =>
    { books with sellers := Function.update books.sellers organizationId seller }

end EventaApi.Source
