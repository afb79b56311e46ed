import EventaApi.Guarantees.OrderHistory
import EventaApi.Source.Promotions

/-!
# What a step at the promotions desk does

The inversion rule of `actAtDesk`: a step reads, or makes one of six writes to the
codes, or places an order. Among the workspace's own transactions only a placement
writes codes and redemptions, and it writes both or neither.
-/
namespace EventaApi.Guarantees
open Library Source

/-! ## Redeeming -/

/-- The code's row once it has been used once more. -/
@[reducible] def countUse (code : DiscountCode) : DiscountCode :=
  { code with
    used := code.used + 1
    status := if code.status ≠ .disabled ∧ code.redemptionLimit ≠ UNLIMITED_REDEMPTIONS ∧
        code.used + 1 ≥ code.redemptionLimit then .expired else code.status }

@[reducible] def redemptionRow (input : PlaceOrderInput) (codeId orderId id : Nat) :
    DiscountRedemption where
  id := id
  discountCodeId := codeId
  orderId := orderId
  buyerEmail := input.buyer.email
  amountSatang := input.totals.discountSatang

/-- What placing an order makes of the codes and their redemptions. -/
inductive Redemption (db : Db) (input : PlaceOrderInput) (orderId : Nat) :
    Table DiscountCode → Table DiscountRedemption → Prop where
  | idle (unspent : input.discountCodeId = none ∨ input.totals.discountSatang = 0 ∨
      ∃ row ∈ db.discountRedemptions, row.orderId = orderId) :
      Redemption db input orderId db.discountCodes db.discountRedemptions
  | counted (codeId : Nat) (named : input.discountCodeId = some codeId)
      (spent : input.totals.discountSatang ≠ 0)
      (room : ∃ code ∈ db.discountCodes, code.id = codeId ∧
        (code.redemptionLimit = 0 ∨ code.used < code.redemptionLimit)) :
      Redemption db input orderId
        (db.discountCodes.update (fun code => code.id = codeId) countUse)
        (db.discountRedemptions.insert (redemptionRow input codeId orderId))

theorem recordRedemption_ok {db : Db} {input : PlaceOrderInput} {orderId : Nat}
    {codes : Table DiscountCode} {redemptions : Table DiscountRedemption}
    (success : recordRedemption db input orderId = .ok (codes, redemptions)) :
    Redemption db input orderId codes redemptions := by
  unfold recordRedemption at success
  split at success
  next none =>
    cases success
    exact .idle (Or.inl none)
  next codeId named =>
    simp only at success
    split at success
    next unspent =>
      cases success
      refine .idle (Or.inr (unspent.imp id fun recorded => ?_))
      obtain ⟨row, stored, _, mine⟩ := Table.select_ne_nil.mp recorded
      exact ⟨row, stored, mine⟩
    next fresh =>
      split at success
      · cases success
      next room =>
        cases success
        obtain ⟨code, stored, same, left⟩ := Table.select_ne_nil.mp room
        exact .counted codeId named (fun zero => fresh (Or.inl zero)) ⟨code, stored, same, left⟩

/-- Only a placement writes codes and redemptions. -/
theorem committed_discounts {db after : Db} {now : Instant} {op : Op}
    (committed : Committed db now op after) :
    (after.discountCodes = db.discountCodes ∧
      after.discountRedemptions = db.discountRedemptions) ∨
    ∃ input placed, op = .placeOrder input ∧ Placed db input now placed after := by
  cases committed with
  | placed input placed _ placement => exact Or.inr ⟨input, placed, rfl, placement⟩
  | settled _ _ _ _ _ settles => cases settles <;> exact Or.inl ⟨rfl, rfl⟩
  | _ => exact Or.inl ⟨rfl, rfl⟩

theorem step_discounts (office : Workspace) (op : Op) :
    ((step office op).db.discountCodes = office.db.discountCodes ∧
      (step office op).db.discountRedemptions = office.db.discountRedemptions) ∨
    ∃ input placed, op = .placeOrder input ∧
      Placed office.db input office.clock placed (step office op).db := by
  rcases step_db office op with same | committed
  · rw [same]
    exact Or.inl ⟨rfl, rfl⟩
  · exact committed_discounts (commit_cases committed)

/-- The code a checkout finds is live, of that text, and applies to the event. -/
theorem findUsable_mem {codes : Table DiscountCode} {text : String} {eventId : Nat}
    {row : DiscountCode} (found : findUsable codes text eventId = some row) :
    row ∈ codes ∧ row.code = text ∧ row.deletedAt = none ∧
      (row.eventId = none ∨ row.eventId = some eventId) := by
  have usable : row ∈ usableCodes codes text eventId := by
    rcases Option.or_eq_some_iff.mp found with wide | ⟨_, first⟩
    · exact List.mem_of_find?_eq_some wide
    · exact List.mem_of_mem_head? first
  exact Table.mem_select.mp usable

/-! ## The terms of an order -/

/-- What an order was sold at, which no operation rewrites. -/
structure SameTerms (new old : Order) : Prop where
  id : new.id = old.id
  idempotencyKey : new.idempotencyKey = old.idempotencyKey
  reference : new.reference = old.reference
  discountCodeId : new.discountCodeId = old.discountCodeId
  discountAmountSatang : new.discountAmountSatang = old.discountAmountSatang
  buyerEmail : new.buyerEmail = old.buyerEmail

theorem orderStep_terms {now : Instant} {op : Op} {old new : Order}
    (moved : OrderStep now op old new) : SameTerms new old := by
  cases moved <;> exact ⟨rfl, rfl, rfl, rfl, rfl, rfl⟩

/-- Every order stays, at its terms. -/
theorem step_terms (office : Workspace) (op : Op) {old : Order} (stored : old ∈ office.db.orders) :
    ∃ new ∈ (step office op).db.orders, SameTerms new old := by
  rcases step_db office op with same | committed
  · exact ⟨old, same ▸ stored, rfl, rfl, rfl, rfl, rfl, rfl⟩
  · obtain ⟨new, found, moved⟩ :=
      committed_order (commit_cases committed) (Table.find_key stored)
    exact ⟨new, (Table.find_eq_some.mp found).1, orderStep_terms moved⟩

/-- An order was there before, at its terms, or was born in this step. -/
theorem step_orders (office : Workspace) (op : Op) {order : Order}
    (member : order ∈ (step office op).db.orders) :
    (∃ old ∈ office.db.orders, SameTerms order old) ∨ OrderBorn office.clock op order := by
  rcases step_db office op with same | committed
  · exact Or.inl ⟨order, same ▸ member, rfl, rfl, rfl, rfl, rfl, rfl⟩
  · have committed := commit_cases committed
    rcases committed_newOrder committed member with born | ⟨old, found⟩
    · exact Or.inr born
    · obtain ⟨new, found', moved⟩ := committed_order committed found
      have same : some order = some new := (Table.find_key member).symm.trans found'
      cases same
      exact Or.inl ⟨old, (Table.find_eq_some.mp found).1, orderStep_terms moved⟩

/-! ## The desk's own steps -/

/-- What the policy lets an update of this row set: its terms are locked once it is used. -/
structure Permitted (row : DiscountCode) (values : DiscountValues) : Prop where
  terms : row.used ≠ 0 → values.code.getD row.code = row.code ∧
    values.type.getD row.type = row.type ∧ values.value.getD row.value = row.value
  limit : values.redemptionLimit.getD UNLIMITED ≠ UNLIMITED →
    row.used ≤ values.redemptionLimit.getD UNLIMITED

instance (row : DiscountCode) (values : DiscountValues) : Decidable (Permitted row values) :=
  decidable_of_iff (_ ∧ _) ⟨fun ⟨terms, limit⟩ => ⟨terms, limit⟩,
    fun permitted => ⟨permitted.terms, permitted.limit⟩⟩

/-- What a step that writes nothing read, and where it goes from there. -/
inductive DeskSaw (codes : Table DiscountCode) (now : Instant) : DeskPhase → DeskPhase → Prop where
  | ended (phase : DeskPhase) (reply : DeskReply)
      (undeleted : ∀ id outcome, reply ≠ .deleted id outcome) : DeskSaw codes now phase (.done reply)
  | stayed (reply : DeskReply) : DeskSaw codes now (.done reply) (.done reply)
  | checked (input : CreateDiscountInput) (row : DiscountCode) :
      DeskSaw codes now (.checkFree input) (.insert row)
  | updating (id : Nat) (input : UpdateDiscountInput) (row : DiscountCode)
      (values : DiscountValues) (found : findCode codes id = some row)
      (permitted : Permitted row values)
      (stays : row.status = .disabled → values.status = some .disabled) :
      DeskSaw codes now (.loadUpdate id input) (.writeUpdate row values)
  | rewording (id : Nat) (input : UpdateDiscountInput) (row : DiscountCode)
      (values : DiscountValues) (code : String) (eventId : Option Nat) (status : DiscountStatus)
      (found : findCode codes id = some row) (permitted : Permitted row { values with code })
      (stays : row.status = .disabled → status = .disabled) :
      DeskSaw codes now (.loadUpdate id input) (.checkText row values code eventId status)
  | reworded (row : DiscountCode) (values : DiscountValues) (code : String) (eventId : Option Nat)
      (status : DiscountStatus) :
      DeskSaw codes now (.checkText row values code eventId status)
        (.writeUpdate row { values with code := some code, status := some status })
  | disabling (id : Nat) (row : DiscountCode) (found : findCode codes id = some row) :
      DeskSaw codes now (.loadDisable id) (.writeDisable row)
  | enabling (id : Nat) (row : DiscountCode) (status : DiscountStatus)
      (found : findCode codes id = some row) :
      DeskSaw codes now (.loadEnable id) (.writeEnable row status)
  | erasing (id : Nat) (row : DiscountCode) (found : findCode codes id = some row)
      (unused : row.used = 0) : DeskSaw codes now (.loadDelete id) (.erase row.id)
  | retiring (id : Nat) (row : DiscountCode) (found : findCode codes id = some row)
      (used : row.used ≠ 0) : DeskSaw codes now (.loadDelete id) (.retire row.id)
  | listing : DeskSaw codes now .readLive (.sync (drifted (liveCodes codes) now))
  | pricing (input : ConfirmOrderDto) (entry : Option OrganizerEntry) (priced : PricedSelection) :
      DeskSaw codes now (.price input entry) (.place input entry priced 1)

/-- The row a request has loaded and is about to write, and what it sets. -/
def rowWrite : DeskPhase → Option (DiscountCode × DiscountValues)
  | .writeUpdate row values => some (row, values)
  | .writeDisable row => some (row, { status := some .disabled })
  | .writeEnable row status => some (row, { status := some status })
  | _ => none

/-- What a step at the desk did. -/
inductive DeskActs (office : Workspace) (draws : Draws) : DeskPhase → DeskActed → Prop where
  | read (phase next : DeskPhase) (saw : DeskSaw office.db.discountCodes office.clock phase next) :
      DeskActs office draws phase { office, phase := next }
  | inserted (row : DiscountCode) (reply : DeskReply)
      (undeleted : ∀ id outcome, reply ≠ .deleted id outcome)
      (unclashed : codeClashes office.db.discountCodes
        (newCode row office.db.discountCodes.next) = false) :
      DeskActs office draws (.insert row)
        { office := office.withCodes (office.db.discountCodes.insert (newCode row))
          phase := .done reply }
  | updated (phase : DeskPhase) (row current : DiscountCode) (values : DiscountValues)
      (reply : DeskReply) (undeleted : ∀ id outcome, reply ≠ .deleted id outcome)
      (writes : rowWrite phase = some (row, values))
      (found : office.db.discountCodes.find row.id = some current)
      (version : current.version = row.version) (live : current.deletedAt = none)
      (unclashed : codeClashes office.db.discountCodes
        (setValues values (row.version + 1) current) = false) :
      DeskActs office draws phase
        { office := office.withCodes (office.db.discountCodes.update
            (fun code => code.id = row.id) (setValues values (row.version + 1)))
          phase := .done reply }
  | retired (id : Nat) :
      DeskActs office draws (.retire id)
        { office := office.withCodes (softDelete office.db.discountCodes id office.clock)
          phase := .done (.deleted id .retired) }
  | erasedNothing (id : Nat)
      (missing : ∀ row ∈ office.db.discountCodes, row.id = id → row.used ≠ 0) :
      DeskActs office draws (.erase id) { office, phase := .done (.deleted id .removed) }
  | erased (id : Nat)
      (unredeemed : ∀ row ∈ office.db.discountRedemptions, row.discountCodeId ≠ id) :
      DeskActs office draws (.erase id)
        { office := { office with db := { office.db with
            discountCodes := office.db.discountCodes.delete fun row => row.id = id ∧ row.used = 0
            orders := forgetCode office.db.orders id } }
          phase := .done (.deleted id .removed) }
  | synced (changes : List StatusChange) :
      DeskActs office draws (.sync changes)
        { office := office.withCodes (syncStatuses office.db.discountCodes changes)
          phase := .done .listed }
  | placed (input : ConfirmOrderDto) (entry : Option OrganizerEntry) (priced : PricedSelection)
      (attempt : Nat) (next : DeskPhase)
      (onward : (∃ attempt, next = .place input entry priced attempt) ∨
        ∃ reply, next = .done reply ∧ ∀ id outcome, reply ≠ .deleted id outcome) :
      DeskActs office draws (.place input entry priced attempt)
        { office := step office (.placeOrder (placeInput input priced entry draws attempt))
          phase := next }

section Inversion

variable {office : Workspace} {catalog : Catalog} {draws : Draws}

theorem saw_thrown {codes : Table DiscountCode} {now : Instant} (phase : DeskPhase)
    (error : TxError) : DeskSaw codes now phase (.done (.thrown error)) :=
  .ended phase _ fun _ _ deleted => by cases deleted

theorem resolveStatus_disabled {code : DiscountCode} (disabled : code.status = .disabled)
    (now : Instant) : resolveStatus code now = .disabled := by
  simp [resolveStatus, disabled]

/-- A merged row was let through by the policy, and keeps its status. -/
theorem merge_ok {row merged : DiscountCode} {input : UpdateDiscountInput} {now : Instant}
    (success : merge row input now = .ok merged) :
    assertChangeAllowedAfterUse row input = .ok () ∧ merged.status = row.status := by
  unfold merge at success
  split at success
  · cases success
  · obtain ⟨_, allowed, success⟩ := bind_ok success
    obtain ⟨_, _, success⟩ := bind_ok success
    obtain ⟨_, _, success⟩ := bind_ok success
    obtain ⟨_, _, success⟩ := bind_ok success
    cases success
    exact ⟨allowed, rfl⟩

theorem normaliseCode_ok {raw code : String} (success : normaliseCode raw = .ok code) :
    code = String.ofList (canonicalCode raw) := by
  unfold normaliseCode at success
  simp only at success
  split at success
  · cases success
  · split at success
    · cases success
    · cases success
      rfl

/-- A field is left as it is, unless something else is given for it. -/
theorem getD_of_unchanged {α β : Type} [DecidableEq α] {given : Option β} {read : β → α} {kept : α}
    (unchanged : ¬ given.any fun value => read value ≠ kept) :
    (given.map read).getD kept = kept := by
  cases given with
  | none => rfl
  | some value => simpa using unchanged

/-- What the policy allowed is permitted, with the text normalised or left out. -/
theorem allowed_permitted {row : DiscountCode} {input : UpdateDiscountInput} {code : Option String}
    (allowed : assertChangeAllowedAfterUse row input = .ok ())
    (canonical : code = input.code.map fun raw => String.ofList (canonicalCode raw)) :
    Permitted row { pickDefined input with code } := by
  unfold assertChangeAllowedAfterUse at allowed
  split at allowed
  · cases allowed
  next covers =>
    constructor
    · intro used
      rw [if_neg used] at allowed
      split at allowed
      · cases allowed
      next locked =>
        simp only [not_or] at locked
        obtain ⟨text, value, type⟩ := locked
        subst canonical
        refine ⟨getD_of_unchanged text, ?_, ?_⟩
        · simpa [pickDefined] using getD_of_unchanged type
        · simpa [pickDefined] using getD_of_unchanged value
    · intro limited
      cases given : input.redemptionLimit with
      | none => simp [pickDefined, given] at limited
      | some limit =>
        simp only [given, Option.any_some, decide_eq_true_eq, not_and, not_lt] at covers
        simp only [pickDefined, given, Option.getD_some] at limited ⊢
        exact covers limited

theorem loadUpdate_saw {codes : Table DiscountCode} {now : Instant} {id : Nat}
    (input : UpdateDiscountInput) {row : DiscountCode} (found : findCode codes id = some row) :
    DeskSaw codes now (.loadUpdate id input) (refusing (afterLoadUpdate row input now)) := by
  cases result : afterLoadUpdate row input now with
  | error => exact saw_thrown _ _
  | ok next =>
    obtain ⟨merged, judged, result⟩ := bind_ok result
    obtain ⟨allowed, status⟩ := merge_ok judged
    have stays (disabled : row.status = .disabled) : resolveStatus merged now = .disabled :=
      resolveStatus_disabled (status.trans disabled) now
    split at result
    next unnamed =>
      cases result
      refine .updating id input row _ found ?_ fun disabled => congrArg some (stays disabled)
      have permitted := allowed_permitted allowed (congrArg _ unnamed).symm
      exact ⟨permitted.terms, permitted.limit⟩
    next raw named =>
      obtain ⟨code, normal, result⟩ := bind_ok result
      cases result
      refine .rewording id input row _ code _ _ found (allowed_permitted allowed ?_) stays
      rw [named, normaliseCode_ok normal]
      rfl

theorem loaded_saw {phase : DeskPhase} {id : Nat} {next : DiscountCode → DeskPhase}
    (onward : ∀ row, findCode office.db.discountCodes id = some row →
      DeskSaw office.db.discountCodes office.clock phase (next row)) :
    DeskSaw office.db.discountCodes office.clock phase
      (loaded (findCode office.db.discountCodes id) next) := by
  cases found : findCode office.db.discountCodes id with
  | none => exact saw_thrown _ _
  | some row => exact onward row found

theorem checkCode_ok {codes : Table DiscountCode} {events : Table Event} {row : DiscountCode}
    (success : checkCode codes events row = .ok ()) : codeClashes codes row = false := by
  unfold checkCode at success
  split at success
  · cases success
  next distinct => exact Bool.not_eq_true _ ▸ distinct

theorem writeRow_acts {phase : DeskPhase} {row : DiscountCode} {values : DiscountValues}
    (writes : rowWrite phase = some (row, values)) :
    DeskActs office draws phase (writeRow office catalog row values) := by
  unfold writeRow updateCode
  cases found : office.db.discountCodes.find row.id with
  | none => exact .read _ _ (saw_thrown _ _)
  | some current =>
    by_cases guarded : current.version = row.version ∧ current.deletedAt = none
    · simp only [guarded, and_self, if_true]
      cases checked : checkCode office.db.discountCodes catalog.events
          (setValues values (row.version + 1) current) with
      | error => exact .read _ _ (saw_thrown _ _)
      | ok =>
        exact .updated phase row current values _ (fun _ _ deleted => by cases deleted) writes found
          guarded.1 guarded.2 (checkCode_ok checked)
    · simp only [guarded, if_false]
      exact .read _ _ (saw_thrown _ _)

theorem afterPlace_onward (input : ConfirmOrderDto) (entry : Option OrganizerEntry)
    (priced : PricedSelection) (attempt : Nat) (result : Except TxError (PlacedOrder × Db)) :
    (∃ attempt', afterPlace input entry priced attempt result =
      .place input entry priced attempt') ∨
    ∃ reply, afterPlace input entry priced attempt result = .done reply ∧
      ∀ id outcome, reply ≠ .deleted id outcome := by
  unfold afterPlace
  split
  · exact Or.inr ⟨_, rfl, fun _ _ deleted => by cases deleted⟩
  · split
    · exact Or.inl ⟨_, rfl⟩
    · exact Or.inr ⟨_, rfl, fun _ _ deleted => by cases deleted⟩

theorem erase_acts (id : Nat) :
    DeskActs office draws (.erase id) (actAtDesk office catalog draws (.erase id)) := by
  simp only [actAtDesk, hardDelete]
  split
  next after success =>
    split at success
    next nothing =>
      cases success
      refine .erasedNothing id fun row stored same unused => ?_
      exact Table.select_ne_nil.mpr ⟨row, stored, same, unused⟩ nothing
    · split at success
      · cases success
      next redeemed =>
        cases success
        refine .erased id fun row stored same => redeemed ?_
        exact Table.select_ne_nil.mpr ⟨row, stored, same⟩
  · exact .read _ _ (saw_thrown _ _)

/-- The desk rule: every step did one of these. -/
theorem desk_cases (office : Workspace) (catalog : Catalog) (draws : Draws) (phase : DeskPhase) :
    DeskActs office draws phase (actAtDesk office catalog draws phase) := by
  cases phase with
  | checkFree input =>
    refine .read _ _ ?_
    cases result : (do
        let row ← createValues input office.clock
        if codeExists office.db.discountCodes row.code row.eventId none then
          .error (codeInUse row.code)
        .ok (DeskPhase.insert row)) with
    | error => exact saw_thrown _ _
    | ok next =>
      obtain ⟨row, _, result⟩ := bind_ok result
      split at result
      · cases result
      · cases result
        exact .checked input row
  | insert row =>
    simp only [actAtDesk]
    split
    next inserted codes success =>
      obtain ⟨_, checked, success⟩ := bind_ok success
      cases success
      exact .inserted row _ (fun _ _ deleted => by cases deleted) (checkCode_ok checked)
    · exact .read _ _ (saw_thrown _ _)
  | loadUpdate id input =>
    exact .read _ _ (loaded_saw fun row found => loadUpdate_saw input found)
  | checkText row values code eventId status =>
    refine .read _ _ ?_
    split
    · exact saw_thrown _ _
    · exact .reworded row values code eventId status
  | writeUpdate row values => exact writeRow_acts rfl
  | loadDisable id => exact .read _ _ (loaded_saw fun row found => .disabling id row found)
  | writeDisable row => exact writeRow_acts rfl
  | loadEnable id =>
    refine .read _ _ (loaded_saw fun row found => ?_)
    cases result : afterLoadEnable row office.clock with
    | error => exact saw_thrown _ _
    | ok next =>
      obtain ⟨_, _, result⟩ := bind_ok result
      cases result
      exact .enabling id row _ found
  | writeEnable row status => exact writeRow_acts rfl
  | loadDelete id =>
    refine .read _ _ (loaded_saw fun row found => ?_)
    unfold afterLoadDelete
    split
    next unused => exact .erasing id row found unused
    next used => exact .retiring id row found used
  | erase id => exact erase_acts id
  | retire id => exact .retired id
  | readLive => exact .read _ _ .listing
  | sync changes => exact .synced changes
  | price input entry =>
    refine .read _ _ ?_
    cases priceSelection office.db catalog office.clock input entry with
    | error => exact saw_thrown _ _
    | ok priced => exact .pricing input entry priced
  | place input entry priced attempt =>
    exact .placed input entry priced attempt _ (afterPlace_onward input entry priced attempt _)
  | done reply => exact .read _ _ (.stayed reply)

end Inversion

end EventaApi.Guarantees
