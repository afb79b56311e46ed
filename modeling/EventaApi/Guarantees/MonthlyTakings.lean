import EventaApi.Guarantees.RefundAtomic
import EventaApi.Library.Shares
import EventaApi.Source.TaxPeriods

/-!
# Takings by month

Money that came in is stamped, so every payment counts in one month of Bangkok's calendar,
and every refund in the month it settled in; the months together come to what was ever
collected. A month that has ended is past every stamp still to be made, so that its takings
stay unless a stamp that was made is made again, or one from before is only now written.
-/
namespace EventaApi.Guarantees
open Library Source

/-- Money that came in says when. -/
def Stamped (ledger : Ledger) : Prop :=
  ∀ payment ∈ ledger.payments, moneyIn payment → payment.paidAt.isSome = true

/-- Every satang is counted in one month, and the months come to the whole. -/
structure Counted (ledger : Ledger) : Prop where
  collected : ∀ payment ∈ ledger.payments, moneyIn payment →
    ∃! period : Nat × Nat, payment ∈ collectedIn ledger period.1 period.2
  returned : ∀ refund ∈ ledger.refunds, refund.status = .succeeded →
    ∃! period : Nat × Nat, refund ∈ returnedIn ledger period.1 period.2
  lifetime : ∀ periods : List (Nat × Nat), periods.Nodup →
    (∀ period, collectedIn ledger period.1 period.2 ≠ [] ∨
      returnedIn ledger period.1 period.2 ≠ [] → period ∈ periods) →
    (periods.map fun period => monthTakings ledger period.1 period.2).sum =
      lifetimeNetTakings ledger

/-- Bangkok's month of an instant. -/
def monthAt (moment : Instant) : Nat × Nat :=
  (yearOf (bangkokToday moment), monthOfYear (bangkokToday moment))

theorem movedIn_iff {moment : Instant} {period : Nat × Nat} :
    movedIn moment period.1 period.2 ↔ period = monthAt moment := by
  unfold movedIn monthAt
  rw [Prod.ext_iff, eq_comm (a := period.1), eq_comm (a := period.2)]

section Counting

variable {ledger : Ledger}

theorem mem_collectedIn {payment : Payment} {year month : Nat} :
    payment ∈ collectedIn ledger year month ↔ payment ∈ ledger.payments ∧ moneyIn payment ∧
      ∃ paidAt ∈ payment.paidAt, movedIn paidAt year month := Table.mem_select

theorem mem_returnedIn {refund : Refund} {year month : Nat} :
    refund ∈ returnedIn ledger year month ↔ refund ∈ ledger.refunds ∧
      refund.status = .succeeded ∧ movedIn (settledOn refund) year month := Table.mem_select

theorem collected_once (stamped : Stamped ledger) {payment : Payment}
    (stored : payment ∈ ledger.payments) (received : moneyIn payment) :
    ∃! period : Nat × Nat, payment ∈ collectedIn ledger period.1 period.2 := by
  obtain ⟨paidAt, paid⟩ := Option.isSome_iff_exists.mp (stamped payment stored received)
  refine ⟨monthAt paidAt, ?_, fun period counted => ?_⟩
  · exact mem_collectedIn.mpr ⟨stored, received, paidAt, paid, movedIn_iff.mpr rfl⟩
  · obtain ⟨_, _, other, same, moved⟩ := mem_collectedIn.mp counted
    cases paid.symm.trans same
    exact movedIn_iff.mp moved

theorem returned_once {refund : Refund} (stored : refund ∈ ledger.refunds)
    (succeeded : refund.status = .succeeded) :
    ∃! period : Nat × Nat, refund ∈ returnedIn ledger period.1 period.2 := by
  refine ⟨monthAt (settledOn refund), ?_, fun period counted => ?_⟩
  · exact mem_returnedIn.mpr ⟨stored, succeeded, movedIn_iff.mpr rfl⟩
  · exact movedIn_iff.mp (mem_returnedIn.mp counted).2.2

theorem takings_lifetime (stamped : Stamped ledger) (periods : List (Nat × Nat))
    (distinct : periods.Nodup)
    (covers : ∀ period, collectedIn ledger period.1 period.2 ≠ [] ∨
      returnedIn ledger period.1 period.2 ≠ [] → period ∈ periods) :
    (periods.map fun period => monthTakings ledger period.1 period.2).sum =
      lifetimeNetTakings ledger := by
  have inflow : (periods.map fun period =>
      ((collectedIn ledger period.1 period.2).map fun row => (row.amountSatang : Int)).sum).sum =
      ((ledger.payments.select fun row => row.status = .paid ∨ row.status = .refunded).map
        fun row => (row.amountSatang : Int)).sum := by
    rw [← sum_map_owned periods (fun period (row : Payment) => ∃ paidAt ∈ row.paidAt,
      movedIn paidAt period.1 period.2)]
    · unfold collectedIn
      simp only [Table.select_and]
    · intro payment selected
      obtain ⟨stored, received⟩ := Table.mem_select.mp selected
      obtain ⟨period, counted, only⟩ := collected_once stamped stored received
      have present := covers period (Or.inl (List.ne_nil_of_mem counted))
      refine length_filter_eq distinct present fun other => ⟨fun moved => ?_, ?_⟩
      · exact only other (mem_collectedIn.mpr ⟨stored, received, moved⟩)
      · rintro rfl
        exact (mem_collectedIn.mp counted).2.2
  have outflow : (periods.map fun period =>
      ((returnedIn ledger period.1 period.2).map fun row => -(row.amountSatang : Int)).sum).sum =
      ((ledger.refunds.select fun row => row.status = .succeeded).map
        fun row => -(row.amountSatang : Int)).sum := by
    rw [← sum_map_owned periods (fun period row => movedIn (settledOn row) period.1 period.2)]
    · unfold returnedIn
      simp only [Table.select_and]
    · intro refund selected
      obtain ⟨stored, succeeded⟩ := Table.mem_select.mp selected
      obtain ⟨period, counted, only⟩ := returned_once stored succeeded
      have present := covers period (Or.inr (List.ne_nil_of_mem counted))
      refine length_filter_eq distinct present fun other => ⟨fun moved => ?_, ?_⟩
      · exact only other (mem_returnedIn.mpr ⟨stored, succeeded, moved⟩)
      · rintro rfl
        exact (mem_returnedIn.mp counted).2.2
  unfold lifetimeNetTakings selectedSum
  rw [← inflow, ← outflow, ← List.sum_map_add]
  rfl

end Counting

/-! ## A payment flow's step -/

/-- The step makes no stamp of that month, nor one in the place of such a stamp. -/
def LeavesMonth (db : Db) (period : Nat × Nat) : Phase → Prop
  | .settle _ payment => ∀ row ∈ db.ledger.payments.rows, row.id = payment.id → moneyIn row →
    ∀ paidAt ∈ row.paidAt, ¬ movedIn paidAt period.1 period.2
  | .settleDuplicate _ _ ledger | .voidOrder _ _ ledger =>
    refundPending db.ledger.refunds ledger.refundId = true →
      ¬ movedIn ledger.now period.1 period.2
  | _ => True

instance (db : Db) (period : Nat × Nat) : (phase : Phase) → Decidable (LeavesMonth db period phase)
  | .settle _ payment => inferInstanceAs (Decidable
    (∀ row ∈ db.ledger.payments.rows, row.id = payment.id → moneyIn row →
      ∀ paidAt ∈ row.paidAt, ¬ movedIn paidAt period.1 period.2))
  | .settleDuplicate _ _ _ | .voidOrder _ _ _ => inferInstanceAs (Decidable (_ → ¬ _))
  | .record _ | .lookup _ | .reconcile _ _ _ | .checkDuplicate _ _ | .queueRefund _ _
  | .markFailed _ _ | .releaseHolds _ _ | .acknowledge _ _ | .findRefund _ | .lostRace _
  | .requireRefundable _ | .claim _ _ | .askProvider _ _ | .failRefund _ _ _
  | .recordPending _ _ | .requirePayable _ | .startPayment _ _ | .attempt _ _ _ | .repoint _ _
  | .done _ => isTrue trivial

section Steps

variable {service : Service} {now : Instant} {phase : Phase} {acted : Acted} {period : Nat × Nat}

/-- What a finished refund is of has been paid. -/
theorem finishing_moneyIn (grounded : Grounded service) (knows : Knows service.office.db phase)
    {ledger : MarkRefundedInput} (finishes : finishing phase = some ledger) {payment : Payment}
    (stored : payment ∈ service.office.db.ledger.payments) (named : payment.id = ledger.paymentId) :
    moneyIn payment := by
  obtain ⟨row, there, _, paymentId⟩ := finishing_known knows finishes
  obtain ⟨refunded, stored', id, _, _, received⟩ := grounded.refunds row there
  have equal : refunded = payment :=
    Table.eq_of_key stored' stored (id.trans (paymentId.trans named.symm))
  rwa [equal] at received

theorem acts_stamped (acts : Acts service.office.db now phase acted) (grounded : Grounded service)
    (knows : Knows service.office.db phase) (stamped : Stamped service.office.db.ledger) :
    Stamped acted.db.ledger := by
  intro payment member received
  rcases acts_payments acts member with ⟨old, stored, moved⟩ | ⟨input, order, started, _, rfl⟩
  · have before := stamped old stored
    have finished {ledger : MarkRefundedInput} (finishes : finishing phase = some ledger)
        (named : old.id = ledger.paymentId) : moneyIn old :=
      finishing_moneyIn grounded knows finishes stored named
    cases moved with
    | same | repointed => exact before received
    | paid => rfl
    | failed => simp [moneyIn] at received
    | refunded _ ledger _ finishes named => exact before (finished finishes named.symm)
  · have waiting := (attemptInput input order started).attempted
    rcases received with paid | refunded
    · rcases waiting with same | same <;> cases same.symm.trans paid
    · rcases waiting with same | same <;> cases same.symm.trans refunded

/-- Flipping a received payment to refunded leaves it in its month. -/
theorem refunded_collected (grounded : Grounded service) (knows : Knows service.office.db phase)
    {ledger : MarkRefundedInput} (finishes : finishing phase = some ledger) :
    (collectedIn (refundedLedger service.office.db.ledger ledger) period.1 period.2).map
        (fun row => (row.amountSatang : Int)) =
      (collectedIn service.office.db.ledger period.1 period.2).map
        fun row => (row.amountSatang : Int) := by
  refine Table.map_select_update fun row stored named => ⟨?_, rfl⟩
  have received := finishing_moneyIn grounded knows finishes stored named
  constructor
  · rintro ⟨_, moved⟩
    exact ⟨received, moved⟩
  · rintro ⟨_, moved⟩
    exact ⟨Or.inr rfl, moved⟩

theorem acts_collected (acts : Acts service.office.db now phase acted) (grounded : Grounded service)
    (knows : Knows service.office.db phase) (past : ¬ movedIn now period.1 period.2)
    (leaves : LeavesMonth service.office.db period phase) :
    (collectedIn acted.db.ledger period.1 period.2).map (fun row => (row.amountSatang : Int)) =
      (collectedIn service.office.db.ledger period.1 period.2).map
        fun row => (row.amountSatang : Int) := by
  cases acts with
  | read | logged | acknowledged | queued | claimed | failedRefund | recordedPending => rfl
  | released verified read =>
    rcases releaseHoldsForOrder_cases service.office.db read.orderId with
      same | ⟨_, _, _, same⟩
    · rw [same]
    · rw [same]
  | reconciled | repointed => exact Table.map_select_update fun _ _ _ => ⟨Iff.rfl, rfl⟩
  | failed =>
    refine Table.map_select_update fun row _ hit => ⟨?_, rfl⟩
    simp [hit.2]
  | settled verified read mintQrToken order settlement after found settles =>
    rw [settled_ledger settles rfl]
    refine Table.map_select_update fun row stored named => ⟨?_, rfl⟩
    constructor
    · rintro ⟨_, paidAt, stamp, moved⟩
      cases stamp
      exact absurd moved past
    · rintro ⟨received, paidAt, stamp, moved⟩
      exact absurd moved (leaves row stored named received paidAt stamp)
  | duplicateRefunded => exact refunded_collected grounded knows rfl
  | voided => exact refunded_collected grounded knows rfl
  | attempted =>
    unfold collectedIn
    rw [Table.select_insert]
    simp

/-- A pending refund comes to be counted in the month it is stamped with. -/
theorem refunded_returned {db : Db} {ledger : MarkRefundedInput}
    (pending : refundPending db.ledger.refunds ledger.refundId = true)
    (leaves : refundPending db.ledger.refunds ledger.refundId = true →
      ¬ movedIn ledger.now period.1 period.2) :
    (returnedIn (refundedLedger db.ledger ledger) period.1 period.2).map
        (fun row => -(row.amountSatang : Int)) =
      (returnedIn db.ledger period.1 period.2).map fun row => -(row.amountSatang : Int) := by
  refine Table.map_select_update fun row _ hit => ⟨?_, rfl⟩
  constructor
  · rintro ⟨_, moved⟩
    exact absurd moved (leaves pending)
  · rintro ⟨succeeded, _⟩
    rw [hit.2] at succeeded
    cases succeeded

theorem acts_returned (acts : Acts service.office.db now phase acted)
    (leaves : LeavesMonth service.office.db period phase) :
    (returnedIn acted.db.ledger period.1 period.2).map (fun row => -(row.amountSatang : Int)) =
      (returnedIn service.office.db.ledger period.1 period.2).map
        fun row => -(row.amountSatang : Int) := by
  cases acts with
  | read | logged | acknowledged | queued | reconciled | repointed | failed | attempted => rfl
  | released verified read =>
    rcases releaseHoldsForOrder_cases service.office.db read.orderId with
      same | ⟨_, _, _, same⟩
    · rw [same]
    · rw [same]
  | settled _ _ _ _ _ _ _ settles =>
    rw [settled_ledger settles rfl]
    rfl
  | claimed =>
    unfold returnedIn
    rw [Table.select_insert]
    simp
  | failedRefund =>
    refine Table.map_select_update fun row _ hit => ⟨?_, rfl⟩
    simp [hit.2]
  | recordedPending => exact Table.map_select_update fun _ _ _ => ⟨Iff.rfl, rfl⟩
  | duplicateRefunded _ _ _ _ pending => exact refunded_returned pending leaves
  | voided _ _ _ _ _ pending => exact refunded_returned pending leaves

/-- The takings of a month that is past stay, unless a stamp of it is written. -/
theorem acts_takings (acts : Acts service.office.db now phase acted) (grounded : Grounded service)
    (knows : Knows service.office.db phase) (past : ¬ movedIn now period.1 period.2)
    (leaves : LeavesMonth service.office.db period phase) :
    monthTakings acted.db.ledger period.1 period.2 =
      monthTakings service.office.db.ledger period.1 period.2 := by
  unfold monthTakings
  rw [acts_collected acts grounded knows past leaves, acts_returned acts leaves]

end Steps

end EventaApi.Guarantees
