import EventaApi.Library.Pages
import EventaApi.Source.IncomeReport

/-!
# The figures of the income report

Figures add up column by column, and each is the sum of what its payments contribute. Grouping
the payments by event or by day, cutting the groups into pages or the window in two puts every
payment in one place, so the sums agree.
-/
namespace EventaApi.Guarantees
open Library Source

/-! ## Figures add up column by column -/

instance : Zero IncomeTotals := ⟨⟨0, 0, 0, 0, 0, 0⟩⟩

instance : Add IncomeTotals where
  add former latter :=
    { grossSatang := former.grossSatang + latter.grossSatang
      vatSatang := former.vatSatang + latter.vatSatang
      refundsSatang := former.refundsSatang + latter.refundsSatang
      feesSatang := former.feesSatang + latter.feesSatang
      netSatang := former.netSatang + latter.netSatang
      settledSatang := former.settledSatang + latter.settledSatang }

theorem totals_add_assoc (a b c : IncomeTotals) : a + b + c = a + (b + c) := by
  ext <;> exact add_assoc _ _ _

theorem totals_add_comm (a b : IncomeTotals) : a + b = b + a := by
  ext <;> exact add_comm _ _

theorem totals_zero_add (a : IncomeTotals) : 0 + a = a := by
  ext <;> exact zero_add _

theorem totals_add_zero (a : IncomeTotals) : a + 0 = a := by
  ext <;> exact add_zero _

instance : AddCommMonoid IncomeTotals where
  add_assoc := totals_add_assoc
  zero_add := totals_zero_add
  add_zero := totals_add_zero
  add_comm := totals_add_comm
  nsmul := nsmulRec

/-- Net is gross less refunds and fees, and settled is net less VAT. -/
structure Reconciled (totals : IncomeTotals) : Prop where
  net : totals.netSatang = totals.grossSatang - totals.refundsSatang - totals.feesSatang
  settled : totals.settledSatang = totals.netSatang - totals.vatSatang

theorem Reconciled.zero : Reconciled 0 where
  net := rfl
  settled := rfl

theorem Reconciled.add {former latter : IncomeTotals} (reconciled : Reconciled former)
    (reconciled' : Reconciled latter) : Reconciled (former + latter) where
  net := by
    have net := reconciled.net
    have net' := reconciled'.net
    show former.netSatang + latter.netSatang = former.grossSatang + latter.grossSatang -
      (former.refundsSatang + latter.refundsSatang) - (former.feesSatang + latter.feesSatang)
    omega
  settled := by
    have settled := reconciled.settled
    have settled' := reconciled'.settled
    show former.settledSatang + latter.settledSatang =
      former.netSatang + latter.netSatang - (former.vatSatang + latter.vatSatang)
    omega

/-! ## What a payment contributes -/

/-- What is left of a payment after what was given back and its fee. -/
def netOf (refunds : List RefundRecord) (payment : PaymentRecord) : Int :=
  payment.amountSatang - refundedOf refunds payment - payment.feeAmountSatang.getD 0

def contribution (refunds : List RefundRecord) (row : IncomeJoin) : IncomeTotals where
  grossSatang := row.1.1.amountSatang
  vatSatang := row.1.2.vatAmountSatang
  refundsSatang := refundedOf refunds row.1.1
  feesSatang := row.1.1.feeAmountSatang.getD 0
  netSatang := netOf refunds row.1.1
  settledSatang := row.1.1.amountSatang - row.1.2.vatAmountSatang - refundedOf refunds row.1.1 -
    row.1.1.feeAmountSatang.getD 0

variable {refunds : List RefundRecord} {rows other : List IncomeJoin}

theorem money_eq_sum : money refunds rows = (rows.map (contribution refunds)).sum := by
  induction rows with
  | nil => rfl
  | cons row rest ih =>
    rw [List.map_cons, List.sum_cons, ← ih]
    rfl

theorem money_append :
    money refunds (rows ++ other) = money refunds rows + money refunds other := by
  rw [money_eq_sum, List.map_append, List.sum_append, ← money_eq_sum, ← money_eq_sum]

theorem money_perm (same : rows.Perm other) : money refunds rows = money refunds other := by
  rw [money_eq_sum, money_eq_sum, (same.map _).sum_eq]

theorem reconciled_money : Reconciled (money refunds rows) := by
  rw [money_eq_sum]
  induction rows with
  | nil => exact Reconciled.zero
  | cons row rest ih =>
    rw [List.map_cons, List.sum_cons]
    refine Reconciled.add ⟨rfl, ?_⟩ ih
    show row.1.1.amountSatang - row.1.2.vatAmountSatang - refundedOf refunds row.1.1 -
      row.1.1.feeAmountSatang.getD 0 = netOf refunds row.1.1 - row.1.2.vatAmountSatang
    unfold netOf
    omega

/-! ## The rows that are summed -/

section
variable {ilike : String → String → Bool} {tables : IncomeTables} {organizationId : Nat}
  {window : IncomeWindow}

theorem ordersMeet (tables : IncomeTables) : MeetsOne tables.orders.rows
    fun (payment : PaymentRecord) order => order.id = payment.orderId := by
  apply meetsOne_of_key (List.pairwise_map.mp tables.orders.distinct)
  intro payment order met
  exact of_decide_eq_true met

theorem eventsMeet (tables : IncomeTables) : MeetsOne tables.events.rows
    fun (row : PaymentRecord × Order) event => event.id = row.1.eventId := by
  apply meetsOne_of_key (List.pairwise_map.mp tables.events.distinct)
  intro row event met
  exact of_decide_eq_true met

theorem mem_joined {payment : PaymentRecord} {order : Order} {event : Event} :
    ((payment, order), event) ∈ tables.joined ↔
      payment ∈ tables.payments ∧ (order ∈ tables.orders ∧ order.id = payment.orderId) ∧
        event ∈ tables.events ∧ event.id = payment.eventId := by
  unfold IncomeTables.joined
  rw [mem_innerJoin, mem_innerJoin, decide_eq_true_eq, decide_eq_true_eq, and_assoc]
  rfl

/-- No payment is joined twice. -/
theorem joined_sublist :
    (tables.joined.map fun row => row.1.1).Sublist tables.payments.rows := by
  have outer : (tables.joined.map Prod.fst).Sublist _ := (eventsMeet tables).innerJoin_sublist
  have both := outer.map Prod.fst
  rw [List.map_map] at both
  exact both.trans (ordersMeet tables).innerJoin_sublist

/-- The window takes a payment in. -/
structure Takes (ilike : String → String → Bool) (tables : IncomeTables) (organizationId : Nat)
    (window : IncomeWindow) (payment : PaymentRecord) : Prop where
  owned : payment.organizationId = organizationId
  collected : payment.status ∈ COLLECTED
  settled : ∃ paidAt ∈ payment.paidAt, window.fromAt ≤ paidAt ∧ paidAt < window.toAt
  chosen : ∀ eventId ∈ window.eventId, payment.eventId = eventId
  ordered : ∃ order ∈ tables.orders, order.id = payment.orderId
  searched : ∃ event ∈ tables.events, event.id = payment.eventId ∧
    (window.search = "" ∨ ilike event.name ("%" ++ window.search ++ "%") = true)

theorem matching_iff {row : IncomeJoin} : matching ilike organizationId window row = true ↔
    row.1.1.organizationId = organizationId ∧ row.1.1.status ∈ COLLECTED ∧
      (∃ paidAt ∈ row.1.1.paidAt, window.fromAt ≤ paidAt ∧ paidAt < window.toAt) ∧
      (∀ eventId ∈ window.eventId, row.1.1.eventId = eventId) ∧
      (window.search = "" ∨ ilike row.2.name ("%" ++ window.search ++ "%") = true) := by
  unfold matching
  simp only [Bool.and_eq_true, Bool.or_eq_true, decide_eq_true_eq, List.contains_iff_mem,
    Option.any_eq_true, Option.all_eq_true, Option.mem_def]
  constructor
  · rintro ⟨⟨⟨⟨⟨owned, collected⟩, paidAt, paid, opens⟩, paidAt', paid', closes⟩, chosen⟩, found⟩
    rw [paid, Option.some.injEq] at paid'
    exact ⟨owned, collected, ⟨paidAt, paid, opens, paid' ▸ closes⟩, chosen, found⟩
  · rintro ⟨owned, collected, ⟨paidAt, paid, opens, closes⟩, chosen, found⟩
    exact ⟨⟨⟨⟨⟨owned, collected⟩, paidAt, paid, opens⟩, paidAt, paid, closes⟩, chosen⟩, found⟩

/-- The payments of the rows are the ones the window takes in. -/
theorem mem_matches_iff {payment : PaymentRecord} :
    payment ∈ (incomeMatches ilike tables organizationId window).map (fun row => row.1.1) ↔
      payment ∈ tables.payments ∧ Takes ilike tables organizationId window payment := by
  unfold incomeMatches
  rw [List.mem_map]
  constructor
  · rintro ⟨⟨⟨payment, order⟩, event⟩, listed, rfl⟩
    obtain ⟨joined, matched⟩ := List.mem_filter.mp listed
    obtain ⟨member, ordered, happened, same⟩ := mem_joined.mp joined
    obtain ⟨owned, collected, settled, chosen, found⟩ := matching_iff.mp matched
    exact ⟨member, owned, collected, settled, chosen, ⟨order, ordered⟩, event, happened, same,
      found⟩
  · rintro ⟨member, taken⟩
    obtain ⟨order, ordered⟩ := taken.ordered
    obtain ⟨event, happened, same, found⟩ := taken.searched
    refine ⟨((payment, order), event), List.mem_filter.mpr ⟨?_, ?_⟩, rfl⟩
    · exact mem_joined.mpr ⟨member, ordered, happened, same⟩
    · exact matching_iff.mpr ⟨taken.owned, taken.collected, taken.settled, taken.chosen, found⟩

theorem matches_sublist : ((incomeMatches ilike tables organizationId window).map
    fun row => row.1.1).Sublist tables.payments.rows :=
  (List.filter_sublist.map _).trans joined_sublist

/-- A row's event is its payment's. -/
theorem event_of_match {row : IncomeJoin}
    (listed : row ∈ incomeMatches ilike tables organizationId window) :
    row.2 ∈ tables.events ∧ row.2.id = row.1.1.eventId := by
  obtain ⟨_, _, happened, same⟩ := mem_joined.mp (List.mem_filter.mp listed).1
  exact ⟨happened, same⟩

/-! ## By event -/

/-- What the rows of an event are grouped by tells it apart from any other. -/
theorem groupKey_eq_iff {row other : IncomeJoin}
    (listed : row ∈ incomeMatches ilike tables organizationId window)
    (listed' : other ∈ incomeMatches ilike tables organizationId window) :
    eventKey row = eventKey other ↔ row.1.1.eventId = other.1.1.eventId := by
  obtain ⟨happened, same⟩ := event_of_match listed
  obtain ⟨happened', same'⟩ := event_of_match listed'
  unfold eventKey
  rw [← same, ← same']
  constructor
  · intro keys
    exact congrArg Prod.fst keys
  · intro ids
    rw [Table.eq_of_key happened happened' ids]

theorem mem_incomeRows {row : IncomeRow}
    (listed : row ∈ incomeRows ilike tables organizationId window) :
    (∃ found ∈ incomeMatches ilike tables organizationId window,
      found.1.1.eventId = row.eventId) ∧
    row.toIncomeTotals = money tables.refunds
      ((incomeMatches ilike tables organizationId window).filter fun found =>
        found.1.1.eventId = row.eventId) := by
  obtain ⟨group, grouped, rfl⟩ := List.mem_map.mp listed
  obtain ⟨⟨found, member, key⟩, members⟩ := mem_groupedBy.mp grouped
  have own : found.1.1.eventId = group.1.1 := by
    rw [← (event_of_match member).2, ← key]
    rfl
  refine ⟨⟨found, member, own⟩, ?_⟩
  show money tables.refunds group.2 = _
  rw [members]
  congr 1
  apply List.filter_congr
  intro other among
  rw [decide_eq_decide, ← key, groupKey_eq_iff among member, own]
  rfl

theorem exists_incomeRow {found : IncomeJoin}
    (listed : found ∈ incomeMatches ilike tables organizationId window) :
    ∃ row ∈ incomeRows ilike tables organizationId window,
      row.eventId = found.1.1.eventId := by
  exact ⟨_, List.mem_map_of_mem (group_mem_groupedBy listed), (event_of_match listed).2⟩

/-- As many events are counted as there are rows. -/
theorem matchedEvents_eq : ((incomeMatches ilike tables organizationId window).map fun row =>
    row.1.1.eventId).dedup.length = (incomeRows ilike tables organizationId window).length := by
  unfold incomeRows groupedBy
  rw [List.length_map, List.length_map]
  apply length_dedup_map
  intro row listed other listed'
  exact (groupKey_eq_iff listed listed').symm

/-- The rows sum to the whole. -/
theorem sum_incomeRows :
    ((incomeRows ilike tables organizationId window).map IncomeRow.toIncomeTotals).sum =
      money tables.refunds (incomeMatches ilike tables organizationId window) := by
  have each (group : (Nat × String × Instant) × List IncomeJoin) :
      (incomeRow tables.refunds group).toIncomeTotals =
        (group.2.map (contribution tables.refunds)).sum := money_eq_sum
  have parts : ((groupedBy eventKey (incomeMatches ilike tables organizationId window)).map
      fun group => (group.2.map (contribution tables.refunds)).sum).sum = _ := sum_groupedBy _
  unfold incomeRows
  rw [List.map_map, money_eq_sum, ← parts]
  simp only [Function.comp_def, each]

/-! ## By day -/

theorem mem_netDays {entry : Int × Int}
    (listed : entry ∈ netDays ilike tables organizationId window) :
    (∃ found ∈ incomeMatches ilike tables organizationId window,
      settledDay found = entry.1) ∧
    entry.2 = (money tables.refunds
      ((incomeMatches ilike tables organizationId window).filter fun found =>
        settledDay found = entry.1)).netSatang := by
  obtain ⟨group, grouped, rfl⟩ := List.mem_map.mp ((List.perm_insertionSort ..).mem_iff.mp listed)
  obtain ⟨found, members⟩ := mem_groupedBy.mp grouped
  refine ⟨found, ?_⟩
  show (money tables.refunds group.2).netSatang = _
  rw [members]

theorem exists_netDay {found : IncomeJoin}
    (listed : found ∈ incomeMatches ilike tables organizationId window) :
    ∃ entry ∈ netDays ilike tables organizationId window, entry.1 = settledDay found := by
  refine ⟨_, (List.perm_insertionSort ..).mem_iff.mpr
    (List.mem_map_of_mem (group_mem_groupedBy listed)), rfl⟩

/-- The days sum to the net of the whole. -/
theorem sum_netDays : ((netDays ilike tables organizationId window).map Prod.snd).sum =
    (money tables.refunds (incomeMatches ilike tables organizationId window)).netSatang := by
  have sorted : (netDays ilike tables organizationId window).Perm _ := List.perm_insertionSort ..
  rw [(sorted.map Prod.snd).sum_eq, List.map_map]
  exact sum_groupedBy fun row : IncomeJoin => netOf tables.refunds row.1.1

/-! ## Adjacent windows -/

/-- What the report has for an event: its row, or nothing. -/
def figuresOf (rows : List IncomeRow) (eventId : Nat) : IncomeTotals :=
  ((rows.find? fun row => row.eventId = eventId).map IncomeRow.toIncomeTotals).getD 0

def netOn (days : List (Int × Int)) (day : Int) : Int :=
  ((days.find? fun entry => entry.1 = day).map Prod.snd).getD 0

theorem figuresOf_incomeRows (eventId : Nat) :
    figuresOf (incomeRows ilike tables organizationId window) eventId =
      money tables.refunds ((incomeMatches ilike tables organizationId window).filter fun found =>
        found.1.1.eventId = eventId) := by
  apply getD_find? IncomeRow.eventId fun eventId => money tables.refunds
    ((incomeMatches ilike tables organizationId window).filter fun found =>
      found.1.1.eventId = eventId)
  · intro row listed
    exact (mem_incomeRows listed).2
  intro absent
  have nothing : (incomeMatches ilike tables organizationId window).filter (fun found =>
      found.1.1.eventId = eventId) = [] := by
    apply List.filter_eq_nil_iff.mpr
    intro found listed own
    obtain ⟨row, among, same⟩ := exists_incomeRow listed
    exact absent row among (same.trans (of_decide_eq_true own))
  rw [nothing]
  rfl

theorem netOn_netDays (day : Int) :
    netOn (netDays ilike tables organizationId window) day =
      (money tables.refunds ((incomeMatches ilike tables organizationId window).filter fun found =>
        settledDay found = day)).netSatang := by
  apply getD_find? Prod.fst fun day => (money tables.refunds
    ((incomeMatches ilike tables organizationId window).filter fun found =>
      settledDay found = day)).netSatang
  · intro entry listed
    exact (mem_netDays listed).2
  intro absent
  have nothing : (incomeMatches ilike tables organizationId window).filter (fun found =>
      settledDay found = day) = [] := by
    apply List.filter_eq_nil_iff.mpr
    intro found listed own
    obtain ⟨entry, among, same⟩ := exists_netDay listed
    exact absent entry among (same.trans (of_decide_eq_true own))
  rw [nothing]
  rfl

theorem incomeMatches_until {mid : Int} (closes : mid ≤ window.toAt) :
    incomeMatches ilike tables organizationId { window with toAt := mid } =
      (incomeMatches ilike tables organizationId window).filter
        (matching ilike organizationId { window with toAt := mid }) := by
  unfold incomeMatches
  rw [List.filter_filter]
  apply List.filter_congr
  intro row _
  rw [Bool.eq_iff_iff, Bool.and_eq_true, matching_iff, matching_iff]
  constructor
  · rintro ⟨owned, collected, ⟨paidAt, paid, after, before⟩, rest⟩
    exact ⟨⟨owned, collected, ⟨paidAt, paid, after, before⟩, rest⟩,
      owned, collected, ⟨paidAt, paid, after, lt_of_lt_of_le before closes⟩, rest⟩
  · intro both
    exact both.1

theorem incomeMatches_since {mid : Int} (opens : window.fromAt ≤ mid) :
    incomeMatches ilike tables organizationId { window with fromAt := mid } =
      (incomeMatches ilike tables organizationId window).filter fun row =>
        ! matching ilike organizationId { window with toAt := mid } row := by
  unfold incomeMatches
  rw [List.filter_filter]
  apply List.filter_congr
  intro row _
  rw [Bool.eq_iff_iff, Bool.and_eq_true, Bool.not_eq_true', ← Bool.not_eq_true, matching_iff,
    matching_iff, matching_iff]
  constructor
  · rintro ⟨owned, collected, ⟨paidAt, paid, after, before⟩, rest⟩
    refine ⟨?_, owned, collected, ⟨paidAt, paid, le_trans opens after, before⟩, rest⟩
    rintro ⟨_, _, ⟨paidAt', paid', _, before'⟩, _⟩
    rw [Option.mem_unique paid' paid] at before'
    exact absurd after (not_le.mpr before')
  · rintro ⟨notUntil, owned, collected, ⟨paidAt, paid, after, before⟩, rest⟩
    refine ⟨owned, collected, ⟨paidAt, paid, ?_, before⟩, rest⟩
    by_contra earlier
    exact notUntil ⟨owned, collected, ⟨paidAt, paid, after, not_le.mp earlier⟩, rest⟩

/-- A window cut in two takes in each payment once. -/
theorem incomeMatches_adjacent {mid : Int} (opens : window.fromAt ≤ mid)
    (closes : mid ≤ window.toAt) :
    (incomeMatches ilike tables organizationId { window with toAt := mid } ++
      incomeMatches ilike tables organizationId { window with fromAt := mid }).Perm
      (incomeMatches ilike tables organizationId window) := by
  rw [incomeMatches_until closes, incomeMatches_since opens]
  exact List.filter_append_perm ..

/-- The figures on both sides of an instant sum to those of the window. -/
structure Adjoins (ilike : String → String → Bool) (tables : IncomeTables) (organizationId : Nat)
    (window : IncomeWindow) (mid : Int) : Prop where
  totals :
    (incomeTotals ilike tables organizationId { window with toAt := mid }).toIncomeTotals +
      (incomeTotals ilike tables organizationId { window with fromAt := mid }).toIncomeTotals =
    (incomeTotals ilike tables organizationId window).toIncomeTotals
  seats :
    (incomeTotals ilike tables organizationId { window with toAt := mid }).paidSeats +
      (incomeTotals ilike tables organizationId { window with fromAt := mid }).paidSeats =
    (incomeTotals ilike tables organizationId window).paidSeats
  events : ∀ eventId,
    figuresOf (incomeRows ilike tables organizationId { window with toAt := mid }) eventId +
      figuresOf (incomeRows ilike tables organizationId { window with fromAt := mid }) eventId =
    figuresOf (incomeRows ilike tables organizationId window) eventId
  days : ∀ day,
    netOn (netDays ilike tables organizationId { window with toAt := mid }) day +
      netOn (netDays ilike tables organizationId { window with fromAt := mid }) day =
    netOn (netDays ilike tables organizationId window) day

theorem adjoins {mid : Int} (opens : window.fromAt ≤ mid) (closes : mid ≤ window.toAt) :
    Adjoins ilike tables organizationId window mid := by
  have whole := @incomeMatches_adjacent ilike tables organizationId window mid opens closes
  constructor
  · show money _ _ + money _ _ = money _ _
    rw [← money_append, money_perm whole]
  · show (List.map _ _).sum + (List.map _ _).sum = (List.map _ _).sum
    rw [← List.sum_append, ← List.map_append, (whole.map _).sum_eq]
  · intro eventId
    rw [figuresOf_incomeRows, figuresOf_incomeRows, figuresOf_incomeRows, ← money_append,
      ← List.filter_append, money_perm (whole.filter _)]
  · intro day
    rw [netOn_netDays, netOn_netDays, netOn_netDays, ← money_perm (whole.filter _),
      List.filter_append, money_append]
    rfl

/-! ## Every payment once -/

/-- The figures are sums over payments of which each is counted once. -/
structure Unmultiplied (ilike : String → String → Bool) (tables : IncomeTables)
    (organizationId : Nat) (window : IncomeWindow) (counted : List PaymentRecord) : Prop where
  once : counted.Sublist tables.payments.rows
  taken : ∀ payment, payment ∈ counted ↔
    payment ∈ tables.payments ∧ Takes ilike tables organizationId window payment
  gross : (incomeTotals ilike tables organizationId window).grossSatang =
    (counted.map PaymentRecord.amountSatang).sum
  net : (incomeTotals ilike tables organizationId window).netSatang =
    (counted.map (netOf tables.refunds)).sum
  events : ∀ row ∈ incomeRows ilike tables organizationId window,
    row.grossSatang = ((counted.filter fun payment => payment.eventId = row.eventId).map
      PaymentRecord.amountSatang).sum ∧
    row.netSatang = ((counted.filter fun payment => payment.eventId = row.eventId).map
      (netOf tables.refunds)).sum
  days : ∀ entry ∈ netDays ilike tables organizationId window,
    entry.2 = ((counted.filter fun payment =>
      bangkokDay (payment.paidAt.getD 0) = entry.1).map (netOf tables.refunds)).sum

theorem unmultiplied : Unmultiplied ilike tables organizationId window
    ((incomeMatches ilike tables organizationId window).map fun row => row.1.1) where
  once := matches_sublist
  taken _ := mem_matches_iff
  gross := by
    rw [List.map_map]
    rfl
  net := by
    rw [List.map_map]
    rfl
  events row listed := by
    rw [(mem_incomeRows listed).2, List.filter_map, List.map_map, List.map_map]
    exact ⟨rfl, rfl⟩
  days entry listed := by
    rw [(mem_netDays listed).2, List.filter_map, List.map_map]
    rfl

end

/-! ## Reconciliation -/

theorem byNet_descending (rows : List IncomeRow) :
    (rows.insertionSort fun former latter => latter.netSatang ≤ former.netSatang).Pairwise
      fun former latter => latter.netSatang ≤ former.netSatang := by
  have : Std.Total fun former latter : IncomeRow => latter.netSatang ≤ former.netSatang :=
    ⟨fun former latter => Int.le_total latter.netSatang former.netSatang⟩
  have : IsTrans IncomeRow fun former latter => latter.netSatang ≤ former.netSatang :=
    ⟨fun _ _ _ early late => Int.le_trans late early⟩
  exact List.pairwise_insertionSort _ rows

/-- Rows that tie as they were grouped. -/
def byNet (rows : List IncomeRow) : Arrangement rows where
  inOrder := rows.insertionSort fun former latter => latter.netSatang ≤ former.netSatang
  same := List.perm_insertionSort _ rows
  descending := byNet_descending rows

/-- Income reconciles. The rows of all pages sum to the totals, which are those of the window; net
and settled come of their columns in every row and in the totals; the days sum to the net; the
figures of adjacent windows sum to those of the whole; and no payment is counted twice. -/
theorem income_reconciles (ilike : String → String → Bool) (tables : IncomeTables)
    (organizationId : Nat) (window : IncomeWindow) :
    (∀ (arranged : Arrangement (incomeRows ilike tables organizationId window))
      (limit pages : Nat),
      let page (number : Nat) := incomeByEvent ilike tables organizationId
        { toIncomeWindow := window, page := number + 1, limit } arranged
      (page 0).matchedEvents ≤ pages * limit →
      (((List.range pages).flatMap fun number => (page number).rows).map
        IncomeRow.toIncomeTotals).sum = (page 0).totals) ∧
    (∀ (arranged : Arrangement (incomeRows ilike tables organizationId window))
      (page limit : Nat),
      let found := incomeByEvent ilike tables organizationId
        { toIncomeWindow := window, page, limit } arranged
      found.totals = (incomeTotals ilike tables organizationId window).toIncomeTotals ∧
      Reconciled found.totals ∧ ∀ row ∈ found.rows, Reconciled row.toIncomeTotals) ∧
    ((netByDay ilike tables organizationId window).map NetRevenueDay.netSatang).sum =
      (incomeTotals ilike tables organizationId window).netSatang ∧
    (∀ mid, window.fromAt ≤ mid → mid ≤ window.toAt →
      Adjoins ilike tables organizationId window mid) ∧
    ∃ counted, Unmultiplied ilike tables organizationId window counted := by
  refine ⟨?_, ?_, ?_, ?_, _, unmultiplied⟩
  · intro arranged limit pages page enough
    have size : arranged.inOrder.length ≤ pages * limit := by
      rw [arranged.same.length_eq, ← matchedEvents_eq]
      exact enough
    show (((List.range pages).flatMap fun number =>
      (arranged.inOrder.drop (number * limit)).take limit).map IncomeRow.toIncomeTotals).sum = _
    rw [flatMap_pages size, (arranged.same.map _).sum_eq, sum_incomeRows]
    rfl
  · intro arranged page limit found
    refine ⟨rfl, reconciled_money, ?_⟩
    intro row shown
    have listed := arranged.same.mem_iff.mp (List.mem_of_mem_drop (List.mem_of_mem_take shown))
    rw [(mem_incomeRows listed).2]
    exact reconciled_money
  · unfold netByDay
    rw [List.map_map]
    exact sum_netDays
  · intro mid opens closes
    exact adjoins opens closes

end EventaApi.Guarantees
