import EventaApi.Library.Shares
import EventaApi.Source.Payouts

/-!
# The payout figures

`available` is what was ever collected less everything payouts were given of it, and a
payout keeps its items when it fails, while it is counted neither as pending nor as
paid out. So what failed payouts were given is in none of the three figures: they add
up to the lifetime net takings exactly when that is nothing, or when the other payouts
make up all of the takings and the floor at zero hides it.
-/
namespace EventaApi.Guarantees
open Library Source

/-- What is scheduled, processing or paid. -/
def committedSatang (payouts : Table Payout) : Int :=
  payoutsOf payouts [.scheduled, .processing, .paid]

def failedSatang (payouts : Table Payout) : Int := payoutsOf payouts [.failed]

/-- Each payout's items sum to its amount, and no item is of a payout that is not there. -/
structure Itemised (office : PayoutOffice) : Prop where
  amounts : ∀ payout ∈ office.payouts, payout.amountSatang =
    selectedSum office.payoutItems (fun item => item.payoutId = payout.id) PayoutItem.netSatang
  owned : ∀ item ∈ office.payoutItems, ∃ payout ∈ office.payouts, payout.id = item.payoutId

/-- Available, pending and paid out: none is hidden, the first is not negative, and together
they are the lifetime net takings where these cover what was committed. -/
structure FiguresBalance (office : PayoutOffice) (available pending paidOut : Int) : Prop where
  shown : balances office =
    { availableSatang := some available, pendingSatang := some pending
      paidOutSatang := some paidOut, payoutsConnected := true }
  floored : 0 ≤ available
  sums : committedSatang office.payouts ≤ lifetimeNetTakings office.ledger →
    available + pending + paidOut = lifetimeNetTakings office.ledger

/-- Failed payouts were given nothing, or the others make up all of the takings. -/
def FailedUncounted (office : PayoutOffice) : Prop :=
  committedSatang office.payouts ≤ lifetimeNetTakings office.ledger →
    failedSatang office.payouts = 0 ∨
      committedSatang office.payouts = lifetimeNetTakings office.ledger ∧
        0 ≤ failedSatang office.payouts

section Sums

variable {office : PayoutOffice}

/-- A key selects its own row. -/
theorem length_filter_key {ρ : Type} [Keyed ρ] {table : Table ρ} {row : ρ} (stored : row ∈ table) :
    (table.rows.filter fun other => decide (Keyed.key other = Keyed.key row)).length = 1 := by
  have alone : (table.select fun other => Keyed.key other = Keyed.key row).length ≤ 1 := by
    refine Table.length_select_le_one fun left right leftIn rightIn => ?_
    obtain ⟨leftStored, leftKey⟩ := Table.mem_select.mp leftIn
    obtain ⟨rightStored, rightKey⟩ := Table.mem_select.mp rightIn
    exact Table.eq_of_key leftStored rightStored (leftKey.trans rightKey.symm)
  have there : row ∈ table.select fun other => Keyed.key other = Keyed.key row :=
    Table.mem_select.mpr ⟨stored, rfl⟩
  exact le_antisymm alone (List.length_pos_of_mem there)

/-- Everything payouts were given is what they come to, whatever became of them. -/
theorem allocated_amounts (itemised : Itemised office) :
    allocatedSatang office.payoutItems =
      (office.payouts.rows.map Payout.amountSatang).sum := by
  unfold allocatedSatang
  rw [← sum_map_owned office.payouts.rows (fun payout item => item.payoutId = payout.id)]
  · congr 1
    exact List.map_congr_left fun payout stored => (itemised.amounts payout stored).symm
  · intro item stored
    obtain ⟨payout, there, owns⟩ := itemised.owned item stored
    have alone := length_filter_key there
    simpa [Keyed.key, ← owns, eq_comm] using alone

/-- Every payout is on its way, paid or failed. -/
theorem amounts_by_status (payouts : Table Payout) :
    (payouts.rows.map Payout.amountSatang).sum =
      payoutsOf payouts [.scheduled, .processing] + payoutsOf payouts [.paid] +
        failedSatang payouts := by
  have parted := sum_map_owned [[PayoutStatus.scheduled, .processing], [.paid], [.failed]]
    (fun statuses (row : Payout) => row.status ∈ statuses) Payout.amountSatang payouts.rows
    fun row _ => by cases row.status <;> decide
  rw [← parted]
  simp [failedSatang, payoutsOf, selectedSum, Table.select, add_assoc]

theorem committed_totals (payouts : Table Payout) :
    committedSatang payouts =
      payoutsOf payouts [.scheduled, .processing] + payoutsOf payouts [.paid] := by
  have parted := sum_map_owned [[PayoutStatus.scheduled, .processing], [.paid]]
    (fun statuses (row : Payout) => row.status ∈ statuses) Payout.amountSatang
    (payouts.select fun row => row.status ∈ [.scheduled, .processing, .paid])
    fun row selected => by
      obtain ⟨_, live⟩ := Table.mem_select.mp selected
      revert live
      cases row.status <;> decide
  unfold committedSatang payoutsOf selectedSum
  rw [← parted]
  simp only [List.map_cons, List.map_nil, List.sum_cons, List.sum_nil, add_zero, Table.select,
    List.filter_filter]
  have within (statuses : List PayoutStatus)
      (some : ∀ status ∈ statuses, status ∈ [PayoutStatus.scheduled, .processing, .paid]) :
      (payouts.rows.filter fun row => decide (row.status ∈ statuses) &&
        decide (row.status ∈ [PayoutStatus.scheduled, .processing, .paid])) =
        payouts.rows.filter fun row => decide (row.status ∈ statuses) := by
    refine List.filter_congr fun row _ => ?_
    by_cases listed : row.status ∈ statuses
    · simp [listed, some _ listed]
    · simp [listed]
  rw [within _ (by decide), within _ (by decide)]

end Sums

/-- The three figures of a connected workspace. -/
theorem balances_connected {office : PayoutOffice} (connected : office.account.connected = true) :
    balances office =
      { availableSatang := some
          (max 0 (lifetimeNetTakings office.ledger - allocatedSatang office.payoutItems))
        pendingSatang := some (payoutsOf office.payouts [.scheduled, .processing])
        paidOutSatang := some (payoutsOf office.payouts [.paid])
        payoutsConnected := true } := by
  simp [balances, connected, totalsByStatus]

/-- The three figures add up exactly when failed payouts were given nothing. -/
theorem payout_figures {office : PayoutOffice} (connected : office.account.connected = true)
    (itemised : Itemised office) :
    (∃ available pending paidOut, FiguresBalance office available pending paidOut) ↔
      FailedUncounted office := by
  have shown := balances_connected connected
  have allocated := (allocated_amounts itemised).trans (amounts_by_status office.payouts)
  have committed := committed_totals office.payouts
  constructor
  · rintro ⟨available, pending, paidOut, shown', _, sums⟩ covered
    rw [shown] at shown'
    cases shown'
    have sums := sums covered
    omega
  · intro uncounted
    refine ⟨_, _, _, shown, le_max_left _ _, fun covered => ?_⟩
    have uncounted := uncounted covered
    omega

/-- 1000 satang collected, and one payout of 400 of them. -/
def payoutOffice (status : PayoutStatus) : PayoutOffice where
  ledger :=
    { payments := Table.empty.insert fun id =>
        { id, txn := "pi", orderId := 0, method := .card, amountSatang := 1000, currency := "THB"
          status := .paid, paidAt := some 0, gatewayRef := none, idempotencyKey := "pay" }
      refunds := Table.empty
      invoices := Table.empty
      organization := { name := "Organizer", address := "Bangkok", taxId := "0105500000000" } }
  payouts := Table.empty.insert fun id =>
    { id, reference := "PO-1", amountSatang := 400, currency := "THB", bankAccount := "7890", status
      requestedAt := 0 }
  payoutItems := Table.empty.insert fun id =>
    { id, payoutId := 0, paymentId := 0, netSatang := 400 }
  account := { connected := true, accountId := some "acct" }
  secretKey := some "sk"
  provider := { submissions := [] }
  auditEvents := []
  clock := 0

theorem payoutOffice_itemised (status : PayoutStatus) : Itemised (payoutOffice status) := by
  constructor
  · intro payout stored
    rcases Table.mem_insert.mp stored with old | rfl
    · exact absurd old (Table.not_mem_of_empty rfl _)
    · have items : selectedSum (payoutOffice .failed).payoutItems (fun item => item.payoutId = 0)
          PayoutItem.netSatang = 400 := by decide +kernel
      exact items.symm
  · intro item stored
    rcases Table.mem_insert.mp stored with old | rfl
    · exact absurd old (Table.not_mem_of_empty rfl _)
    · exact ⟨_, Table.mem_insert.mpr (Or.inr rfl), rfl⟩

theorem payout_figures_processing :
    (payoutOffice .processing).account.connected = true ∧
      ∃ available pending paidOut,
        FiguresBalance (payoutOffice .processing) available pending paidOut :=
  ⟨rfl, (payout_figures rfl (payoutOffice_itemised .processing)).mpr fun _ =>
    Or.inl (by decide +kernel)⟩

/-- A failed payout of 400 leaves 600 available and nothing else, of the 1000 collected. -/
theorem failed_payout_missing :
    (payoutOffice .failed).account.connected = true ∧ Itemised (payoutOffice .failed) ∧
      committedSatang (payoutOffice .failed).payouts ≤
        lifetimeNetTakings (payoutOffice .failed).ledger ∧
      balances (payoutOffice .failed) =
        { availableSatang := some 600, pendingSatang := some 0, paidOutSatang := some 0
          payoutsConnected := true } ∧
      ¬ ∃ available pending paidOut,
        FiguresBalance (payoutOffice .failed) available pending paidOut := by
  have shown : balances (payoutOffice .failed) =
      { availableSatang := some 600, pendingSatang := some 0, paidOutSatang := some 0
        payoutsConnected := true } := by decide +kernel
  have covered : committedSatang (payoutOffice .failed).payouts ≤
      lifetimeNetTakings (payoutOffice .failed).ledger := by decide +kernel
  refine ⟨rfl, payoutOffice_itemised .failed, covered, shown, ?_⟩
  rintro ⟨available, pending, paidOut, shown', _, sums⟩
  rw [shown] at shown'
  cases shown'
  exact absurd (sums covered) (by decide +kernel)

end EventaApi.Guarantees
