import EventaApi.Guarantees.Opening
import EventaApi.Guarantees.PromotionSteps
import EventaApi.Library.Run

/-!
# Discount limits

`used` counts a code's redemption rows, an order that carries a discount has its one
row, and no code is redeemed past its limit: each placement moves the count and the
row together under the limit. The limit per person is judged by the quote alone,
against rows read before the placement; it holds as long as the buyer has room still
when the order is placed.
-/
namespace EventaApi.Guarantees
open Library Source

/-! ## The tally -/

/-- How often the code has been redeemed. -/
def redemptionsOf (redemptions : Table DiscountRedemption) (codeId : Nat) : Nat :=
  (redemptions.select fun row => row.discountCodeId = codeId).length

/-- The redemption is of this order, by its buyer, for what the order took off. -/
structure RedeemedBy (row : DiscountRedemption) (order : Order) : Prop where
  orderId : row.orderId = order.id
  code : order.discountCodeId = some row.discountCodeId
  amountSatang : row.amountSatang = order.discountAmountSatang
  buyerEmail : row.buyerEmail = order.buyerEmail

/-- The counts, the redemption rows and the orders that carry a discount agree. -/
structure Tallied (db : Db) : Prop where
  counted : ∀ code ∈ db.discountCodes, code.used = redemptionsOf db.discountRedemptions code.id
  coded : ∀ row ∈ db.discountRedemptions, (db.discountCodes.find row.discountCodeId).isSome
  ordered : ∀ row ∈ db.discountRedemptions, row.amountSatang ≠ 0 ∧
    ∃ order ∈ db.orders, RedeemedBy row order
  recorded : ∀ order ∈ db.orders, order.discountCodeId.isSome →
    order.discountAmountSatang ≠ 0 → ∃ row ∈ db.discountRedemptions, RedeemedBy row order
  sole : ∀ row ∈ db.discountRedemptions, ∀ other ∈ db.discountRedemptions,
    row.orderId = other.orderId → row = other

/-- No code is used past its limit. -/
def WithinLimit (codes : Table DiscountCode) : Prop :=
  ∀ code ∈ codes, code.redemptionLimit ≠ UNLIMITED → code.used ≤ code.redemptionLimit

/-- No buyer has redeemed a code more often than it allows a person to. -/
def WithinPersonLimit (codes : Table DiscountCode) (redemptions : Table DiscountRedemption) :
    Prop :=
  ∀ code ∈ codes, code.perPersonLimit ≠ UNLIMITED → ∀ email,
    redemptionsByBuyer redemptions code.id email ≤ code.perPersonLimit

section Terms

variable {row : DiscountRedemption} {new old : Order}

theorem redeemedBy_kept (same : SameTerms new old) (redeemed : RedeemedBy row old) :
    RedeemedBy row new where
  orderId := redeemed.orderId.trans same.id.symm
  code := same.discountCodeId.trans redeemed.code
  amountSatang := redeemed.amountSatang.trans same.discountAmountSatang.symm
  buyerEmail := redeemed.buyerEmail.trans same.buyerEmail.symm

end Terms

section Tally

variable {db after : Db}

/-- A transaction that neither redeems nor sells with a code keeps the tally. -/
theorem tallied_moved (tallied : Tallied db) (codes : after.discountCodes = db.discountCodes)
    (redemptions : after.discountRedemptions = db.discountRedemptions)
    (kept : ∀ old ∈ db.orders, ∃ new ∈ after.orders, SameTerms new old)
    (known : ∀ new ∈ after.orders, (∃ old ∈ db.orders, SameTerms new old) ∨
      new.discountCodeId = none ∨ new.discountAmountSatang = 0) : Tallied after where
  counted := by rw [codes, redemptions]; exact tallied.counted
  coded := by rw [codes, redemptions]; exact tallied.coded
  ordered := by
    rw [redemptions]
    intro row stored
    obtain ⟨amount, old, placed, redeemed⟩ := tallied.ordered row stored
    obtain ⟨new, member, same⟩ := kept old placed
    exact ⟨amount, new, member, redeemedBy_kept same redeemed⟩
  recorded := by
    rw [redemptions]
    intro order member coded spent
    rcases known order member with ⟨old, placed, same⟩ | none | free
    · rw [same.discountCodeId] at coded
      rw [same.discountAmountSatang] at spent
      obtain ⟨row, stored, redeemed⟩ := tallied.recorded old placed coded spent
      exact ⟨row, stored, redeemedBy_kept same redeemed⟩
    · rw [none] at coded
      cases coded
    · exact absurd free spent
  sole := by rw [redemptions]; exact tallied.sole

/-- Rewriting codes, their ids and counts apart, keeps the tally. -/
theorem tallied_update (tallied : Tallied db) {hit : DiscountCode → Prop} [DecidablePred hit]
    {write : DiscountCode → DiscountCode} {keeps : ∀ row, Keyed.key (write row) = Keyed.key row}
    (used : ∀ row, (write row).used = row.used) :
    Tallied { db with discountCodes := db.discountCodes.update hit write keeps } where
  counted := by
    intro code member
    obtain ⟨old, stored, rfl⟩ := Table.mem_update.mp member
    split
    · have same : (write old).id = old.id := keeps old
      rw [used, same]
      exact tallied.counted old stored
    · exact tallied.counted old stored
  coded := by
    intro row stored
    rw [Table.isSome_find_update]
    exact tallied.coded row stored
  ordered := tallied.ordered
  recorded := tallied.recorded
  sole := tallied.sole

/-- What one status write keeps, the whole synchronisation keeps. -/
theorem sync_rule (fact : Table DiscountCode → Prop) (changes : List StatusChange)
    (keeps : ∀ codes, ∀ change ∈ changes, fact codes →
      fact (codes.update (fun row => row.id = change.id)
        fun row => { row with status := change.status })) {codes : Table DiscountCode}
    (holds : fact codes) : fact (syncStatuses codes changes) := by
  unfold syncStatuses
  induction changes generalizing codes with
  | nil => exact holds
  | cons change rest ih =>
    exact ih (fun codes other member => keeps codes other (List.mem_cons_of_mem _ member))
      (keeps codes change List.mem_cons_self holds)

theorem tallied_sync (tallied : Tallied db) (changes : List StatusChange) :
    Tallied { db with discountCodes := syncStatuses db.discountCodes changes } :=
  sync_rule (fun codes => Tallied { db with discountCodes := codes }) changes
    (fun _ _ _ tallied => tallied_update tallied fun _ => rfl) tallied

theorem redemptionsOf_eq_zero {redemptions : Table DiscountRedemption} {codeId : Nat}
    (unredeemed : ∀ row ∈ redemptions, row.discountCodeId ≠ codeId) :
    redemptionsOf redemptions codeId = 0 := by
  unfold redemptionsOf
  rw [List.length_eq_zero_iff]
  by_contra redeemed
  obtain ⟨row, stored, same⟩ := Table.select_ne_nil.mp redeemed
  exact unredeemed row stored same

/-- Nobody has redeemed a code that is not there yet. -/
theorem unredeemed_next (tallied : Tallied db) {row : DiscountRedemption}
    (stored : row ∈ db.discountRedemptions) : row.discountCodeId ≠ db.discountCodes.next := by
  intro same
  have found := tallied.coded row stored
  rw [same, Table.find_next] at found
  cases found

theorem tallied_insert (tallied : Tallied db) (row : DiscountCode) :
    Tallied { db with discountCodes := db.discountCodes.insert (newCode row) } where
  counted := by
    intro code member
    rcases Table.mem_insert.mp member with old | rfl
    · exact tallied.counted code old
    · exact (redemptionsOf_eq_zero fun row stored => unredeemed_next tallied stored).symm
  coded := fun row stored => Table.isSome_find_insert (tallied.coded row stored)
  ordered := tallied.ordered
  recorded := tallied.recorded
  sole := tallied.sole

theorem tallied_erase (tallied : Tallied db) {id : Nat}
    (unredeemed : ∀ row ∈ db.discountRedemptions, row.discountCodeId ≠ id) :
    Tallied { db with
      discountCodes := db.discountCodes.delete fun row => row.id = id ∧ row.used = 0
      orders := forgetCode db.orders id } where
  counted := fun code member => tallied.counted code (Table.mem_delete.mp member).1
  coded := by
    intro row stored
    obtain ⟨code, there, same⟩ := Table.isSome_find.mp (tallied.coded row stored)
    refine Table.isSome_find.mpr ⟨code, Table.mem_delete.mpr ⟨there, fun gone => ?_⟩, same⟩
    exact unredeemed row stored (same.symm.trans gone.1)
  ordered := by
    intro row stored
    obtain ⟨amount, order, placed, redeemed⟩ := tallied.ordered row stored
    refine ⟨amount, order, Table.mem_update_of_miss placed fun forgotten => ?_, redeemed⟩
    rw [redeemed.code] at forgotten
    exact unredeemed row stored (Option.some.inj forgotten)
  recorded := by
    intro order member coded spent
    obtain ⟨old, placed, rfl⟩ := Table.mem_update.mp member
    split at coded
    · cases coded
    next kept =>
      rw [if_neg kept] at spent ⊢
      exact tallied.recorded old placed coded spent
  sole := tallied.sole

/-! ## Placing an order -/

/-- No row is of an order that is not there yet. -/
theorem unordered_next (tallied : Tallied db) {row : DiscountRedemption}
    (stored : row ∈ db.discountRedemptions) : row.orderId ≠ db.orders.next := by
  obtain ⟨_, order, placed, redeemed⟩ := tallied.ordered row stored
  rw [redeemed.orderId]
  exact Nat.ne_of_lt (Table.key_lt_next placed)

theorem redemptionsOf_insert {redemptions : Table DiscountRedemption} {input : PlaceOrderInput}
    {codeId orderId : Nat} (id : Nat) :
    redemptionsOf (redemptions.insert (redemptionRow input codeId orderId)) id =
      redemptionsOf redemptions id + if codeId = id then 1 else 0 :=
  Table.length_select_insert

theorem tallied_placed (tallied : Tallied db) {input : PlaceOrderInput} {now : Instant}
    {placed : PlacedOrder} (placement : Placed db input now placed after) : Tallied after := by
  have kept (old : Order) (stored : old ∈ db.orders) : ∃ new ∈ after.orders, SameTerms new old := by
    refine ⟨old, ?_, rfl, rfl, rfl, rfl, rfl, rfl⟩
    rw [placement.orders]
    exact Table.mem_insert.mpr (Or.inl stored)
  have known (new : Order) (member : new ∈ after.orders) :
      new ∈ db.orders ∨ new = newOrder db input now db.orders.next := by
    rw [placement.orders] at member
    exact Table.mem_insert.mp member
  have redeemed := recordRedemption_ok placement.redeemed
  generalize codes : after.discountCodes = afterCodes at redeemed
  generalize rows : after.discountRedemptions = afterRows at redeemed
  cases redeemed with
  | idle unspent =>
    refine tallied_moved tallied codes rows kept fun new member => ?_
    rcases known new member with old | rfl
    · exact Or.inl ⟨new, old, rfl, rfl, rfl, rfl, rfl, rfl⟩
    · rcases unspent with none | free | ⟨row, stored, mine⟩
      · exact Or.inr (Or.inl none)
      · exact Or.inr (Or.inr free)
      · exact absurd mine (unordered_next tallied stored)
  | counted codeId named spent room =>
    have mine : RedeemedBy (redemptionRow input codeId db.orders.next db.discountRedemptions.next)
        (newOrder db input now db.orders.next) := ⟨rfl, named, rfl, rfl⟩
    have there : newOrder db input now db.orders.next ∈ after.orders := by
      rw [placement.orders]
      exact Table.mem_insert.mpr (Or.inr rfl)
    refine ⟨?_, ?_, ?_, ?_, ?_⟩
    · rw [codes, rows]
      intro code member
      rcases Table.mem_update_cases member with ⟨old, stored, hit, rfl⟩ | ⟨stored, hit⟩
      · rw [redemptionsOf_insert]
        simp only [hit, if_true]
        rw [tallied.counted old stored, hit]
      · rw [redemptionsOf_insert, if_neg (Ne.symm hit)]
        exact tallied.counted code stored
    · rw [codes, rows]
      intro row member
      rw [Table.isSome_find_update]
      rcases Table.mem_insert.mp member with old | rfl
      · exact tallied.coded row old
      · obtain ⟨code, stored, same, _⟩ := room
        exact same ▸ Table.isSome_find_of_mem stored
    · rw [rows]
      intro row member
      rcases Table.mem_insert.mp member with old | rfl
      · obtain ⟨amount, order, stored, redeemed⟩ := tallied.ordered row old
        obtain ⟨new, member', same⟩ := kept order stored
        exact ⟨amount, new, member', redeemedBy_kept same redeemed⟩
      · exact ⟨spent, _, there, mine⟩
    · rw [rows]
      intro order member coded spent'
      rcases known order member with old | rfl
      · obtain ⟨row, stored, redeemed⟩ := tallied.recorded order old coded spent'
        exact ⟨row, Table.mem_insert.mpr (Or.inl stored), redeemed⟩
      · exact ⟨_, Table.mem_insert.mpr (Or.inr rfl), mine⟩
    · rw [rows]
      intro row member other member' same
      rcases Table.mem_insert.mp member with old | rfl
      · rcases Table.mem_insert.mp member' with old' | rfl
        · exact tallied.sole row old other old' same
        · exact absurd same (unordered_next tallied old)
      · rcases Table.mem_insert.mp member' with old' | rfl
        · exact absurd same.symm (unordered_next tallied old')
        · rfl

end Tally

/-! ## The limits -/

/-- The count a limit is judged by, and the limits themselves. -/
structure SameLimits (new old : DiscountCode) : Prop where
  id : new.id = old.id
  used : new.used = old.used
  redemptionLimit : new.redemptionLimit = old.redemptionLimit
  perPersonLimit : new.perPersonLimit = old.perPersonLimit

section Limits

variable {codes : Table DiscountCode} {redemptions : Table DiscountRedemption}

theorem withinLimit_update (within : WithinLimit codes) {hit : DiscountCode → Prop}
    [DecidablePred hit] {write : DiscountCode → DiscountCode}
    {keeps : ∀ row, Keyed.key (write row) = Keyed.key row}
    (covers : ∀ row ∈ codes, hit row → (write row).redemptionLimit ≠ UNLIMITED →
      (write row).used ≤ (write row).redemptionLimit) :
    WithinLimit (codes.update hit write keeps) := by
  intro code member
  obtain ⟨old, stored, rfl⟩ := Table.mem_update.mp member
  split
  next selected => exact covers old stored selected
  · exact within old stored

theorem withinPersonLimit_update (within : WithinPersonLimit codes redemptions)
    {hit : DiscountCode → Prop} [DecidablePred hit] {write : DiscountCode → DiscountCode}
    {keeps : ∀ row, Keyed.key (write row) = Keyed.key row}
    (same : ∀ row ∈ codes, hit row → SameLimits (write row) row) :
    WithinPersonLimit (codes.update hit write keeps) redemptions := by
  intro code member
  obtain ⟨old, stored, rfl⟩ := Table.mem_update.mp member
  split
  next selected =>
    obtain ⟨id, _, _, limit⟩ := same old stored selected
    rw [id, limit]
    exact within old stored
  · exact within old stored

theorem redemptionsByBuyer_insert {input : PlaceOrderInput} {codeId orderId : Nat} (id : Nat)
    (email : String) :
    redemptionsByBuyer (redemptions.insert (redemptionRow input codeId orderId)) id email =
      redemptionsByBuyer redemptions id email +
        if codeId = id ∧ citext input.buyer.email = citext email then 1 else 0 :=
  Table.length_select_insert

theorem redemptionsByBuyer_le (id : Nat) (email : String) :
    redemptionsByBuyer redemptions id email ≤ redemptionsOf redemptions id := by
  unfold redemptionsByBuyer redemptionsOf
  rw [Table.length_select, Table.length_select]
  apply Table.sum_le_sum
  intro row _
  by_cases mine : row.discountCodeId = id
  · by_cases hers : citext row.buyerEmail = citext email <;> simp [mine, hers]
  · simp [mine]

/-- Nobody has redeemed a code that has just been made. -/
theorem withinPersonLimit_insert {db : Db} (tallied : Tallied db)
    (within : WithinPersonLimit db.discountCodes db.discountRedemptions) (row : DiscountCode) :
    WithinPersonLimit (db.discountCodes.insert (newCode row)) db.discountRedemptions := by
  intro code member limited email
  rcases Table.mem_insert.mp member with old | rfl
  · exact within code old limited email
  · have none : redemptionsOf db.discountRedemptions db.discountCodes.next = 0 :=
      redemptionsOf_eq_zero fun row stored => unredeemed_next tallied stored
    have few : redemptionsByBuyer db.discountRedemptions db.discountCodes.next email ≤
        redemptionsOf db.discountRedemptions db.discountCodes.next := redemptionsByBuyer_le _ _
    change redemptionsByBuyer db.discountRedemptions db.discountCodes.next email ≤ _
    omega

/-- The limit is judged on the row the redemption counts. -/
theorem withinLimit_placed {db after : Db} (within : WithinLimit db.discountCodes)
    {input : PlaceOrderInput} {now : Instant} {placed : PlacedOrder}
    (placement : Placed db input now placed after) : WithinLimit after.discountCodes := by
  have redeemed := recordRedemption_ok placement.redeemed
  generalize after.discountCodes = codes at redeemed
  generalize after.discountRedemptions = redemptions at redeemed
  cases redeemed with
  | idle => exact within
  | counted codeId _ _ room =>
    intro code member limited
    rcases Table.mem_update_cases member with ⟨old, stored, hit, rfl⟩ | ⟨stored, hit⟩
    · obtain ⟨judged, there, same, left⟩ := room
      have one : judged = old := Table.eq_of_key there stored (same.trans hit.symm)
      subst one
      have under : judged.used < judged.redemptionLimit := left.resolve_left limited
      exact under
    · exact within code stored limited

/-- The buyer's redemptions of the code are below what it allows a person. -/
def BuyerHasRoom (db : Db) (input : PlaceOrderInput) : Prop :=
  match input.discountCodeId with
  | none => True
  | some codeId =>
    findByIdempotencyKey db input.idempotencyKey = none → input.totals.discountSatang ≠ 0 →
      ∀ code ∈ db.discountCodes.rows, code.id = codeId → code.perPersonLimit ≠ UNLIMITED →
        redemptionsByBuyer db.discountRedemptions codeId input.buyer.email < code.perPersonLimit

instance (db : Db) (input : PlaceOrderInput) : Decidable (BuyerHasRoom db input) := by
  unfold BuyerHasRoom
  cases input.discountCodeId <;> infer_instance

theorem withinPersonLimit_placed {db after : Db}
    (within : WithinPersonLimit db.discountCodes db.discountRedemptions)
    {input : PlaceOrderInput} {now : Instant} {placed : PlacedOrder}
    (placement : Placed db input now placed after) (room : BuyerHasRoom db input) :
    WithinPersonLimit after.discountCodes after.discountRedemptions := by
  have redeemed := recordRedemption_ok placement.redeemed
  generalize after.discountCodes = codes at redeemed
  generalize after.discountRedemptions = redemptions at redeemed
  cases redeemed with
  | idle => exact within
  | counted codeId named spent =>
    intro code member limited email
    obtain ⟨old, stored, rfl⟩ := Table.mem_update.mp member
    rw [redemptionsByBuyer_insert]
    by_cases hit : old.id = codeId
    · rw [if_pos hit] at limited ⊢
      unfold BuyerHasRoom at room
      rw [named] at room
      have left := room placement.unused spent old stored hit limited
      by_cases hers : citext input.buyer.email = citext email
      · -- The buyer's own count, which had room for one more.
        have same : redemptionsByBuyer db.discountRedemptions codeId email =
            redemptionsByBuyer db.discountRedemptions codeId input.buyer.email := by
          unfold redemptionsByBuyer
          rw [hers]
        simp only [hit, hers, and_self, if_true, same]
        exact left
      · simp only [hers, and_false, if_false, Nat.add_zero]
        exact within old stored limited email
    · rw [if_neg hit] at limited ⊢
      rw [if_neg fun both => hit both.1.symm]
      exact within old stored limited email

end Limits

/-! ## The desk -/

/-- What the request is about to do. -/
def deskPhaseOf (desk : Promotions) (callId : Nat) : DeskPhase :=
  match desk.calls.find callId with
  | some call => call.phase
  | none => .done .crashed

theorem deskPhaseOf_found {desk : Promotions} {callId : Nat} {call : DeskCall}
    (found : desk.calls.find callId = some call) : deskPhaseOf desk callId = call.phase := by
  simp [deskPhaseOf, found]

/-- The order a phase places. -/
def placedBy (draws : Draws) : DeskPhase → Option PlaceOrderInput
  | .place input entry priced attempt => some (placeInput input priced entry draws attempt)
  | _ => none

/-- The order this turn places. -/
def placing (desk : Promotions) : DeskTurn → Option PlaceOrderInput
  | .checkout (.placeOrder input) _ => some input
  | .advance callId draws => placedBy draws (deskPhaseOf desk callId)
  | _ => none

/-- No order is placed by a buyer who has no room left by then. -/
def RoomLeft (desk : Promotions) (turn : DeskTurn) : Prop :=
  match placing desk turn with
  | none => True
  | some input => BuyerHasRoom desk.office.db input

instance (desk : Promotions) (turn : DeskTurn) : Decidable (RoomLeft desk turn) := by
  unfold RoomLeft
  cases placing desk turn <;> infer_instance

/-- An update that takes effect leaves both limits as they are. -/
def leavesLimits (codes : Table DiscountCode) : DeskPhase → Prop
  | .writeUpdate row values => ∀ current ∈ codes.rows, current.id = row.id →
    current.version = row.version → current.deletedAt = none →
      values.redemptionLimit.getD current.redemptionLimit = current.redemptionLimit ∧
        values.perPersonLimit.getD current.perPersonLimit = current.perPersonLimit
  | _ => True

instance (codes : Table DiscountCode) : (phase : DeskPhase) → Decidable (leavesLimits codes phase)
  | .writeUpdate _ _ => inferInstanceAs (Decidable (∀ _ ∈ _, _))
  | .checkFree _ | .insert _ | .loadUpdate _ _ | .checkText _ _ _ _ _ | .loadDisable _
  | .writeDisable _ | .loadEnable _ | .writeEnable _ _ | .loadDelete _ | .erase _ | .retire _
  | .readLive | .sync _ | .price _ _ | .place _ _ _ _ | .done _ => isTrue trivial

/-- The codes' limits are fixed. -/
def FixedLimits (desk : Promotions) : DeskTurn → Prop
  | .advance callId _ => leavesLimits desk.office.db.discountCodes (deskPhaseOf desk callId)
  | _ => True

instance (desk : Promotions) : (turn : DeskTurn) → Decidable (FixedLimits desk turn)
  | .advance callId _ =>
    inferInstanceAs (Decidable (leavesLimits desk.office.db.discountCodes (deskPhaseOf desk callId)))
  | .checkout _ _ | .organize _ | .receive _ | .crash _ => isTrue trivial

section Desk

variable {office : Workspace} {draws : Draws} {phase : DeskPhase} {acted : DeskActed}

theorem tallied_step (tallied : Tallied office.db) {op : Op} (uncoded : op.joinsUncoded) :
    Tallied (step office op).db := by
  rcases step_discounts office op with ⟨codes, redemptions⟩ | ⟨input, placed, rfl, placement⟩
  · by_cases placing : ∃ input, op = .placeOrder input
    · obtain ⟨input, rfl⟩ := placing
      rcases step_placed office input with ⟨same, _⟩ | ⟨⟨placed, placement⟩, _⟩
      · rwa [same]
      · exact tallied_placed tallied placement
    · refine tallied_moved tallied codes redemptions (fun old stored => step_terms office op stored)
        fun new member => ?_
      rcases step_orders office op member with before | born
      · exact Or.inl before
      · cases born with
        | placed input => exact absurd ⟨input, rfl⟩ placing
        | joined => exact Or.inr (Or.inl uncoded)
  · exact tallied_placed tallied placement

theorem acts_tallied (acts : DeskActs office draws phase acted) (tallied : Tallied office.db) :
    Tallied acted.office.db := by
  cases acts with
  | read | erasedNothing => exact tallied
  | inserted row => exact tallied_insert tallied row
  | updated | retired => exact tallied_update tallied fun _ => rfl
  | erased id unredeemed => exact tallied_erase tallied unredeemed
  | synced changes => exact tallied_sync tallied changes
  | placed => exact tallied_step tallied trivial

theorem updated_sameLimits {row current old : DiscountCode} {values : DiscountValues}
    (fixed : leavesLimits office.db.discountCodes phase)
    (writes : rowWrite phase = some (row, values))
    (found : office.db.discountCodes.find row.id = some current)
    (version : current.version = row.version) (live : current.deletedAt = none)
    (stored : old ∈ office.db.discountCodes) (same : old.id = row.id) :
    SameLimits (setValues values (row.version + 1) old) old := by
  obtain ⟨there, named⟩ := Table.find_eq_some.mp found
  have one : old = current := Table.eq_of_key stored there (same.trans named.symm)
  subst one
  cases phase with
  | writeUpdate =>
    cases writes
    obtain ⟨limit, person⟩ := fixed old stored same version live
    exact ⟨rfl, rfl, limit, person⟩
  | writeDisable | writeEnable =>
    cases writes
    exact ⟨rfl, rfl, rfl, rfl⟩
  | _ => cases writes

theorem step_withinLimit (within : WithinLimit office.db.discountCodes) (op : Op) :
    WithinLimit (step office op).db.discountCodes := by
  rcases step_discounts office op with ⟨codes, _⟩ | ⟨input, placed, rfl, placement⟩
  · rwa [codes]
  · exact withinLimit_placed within placement

/-- A loaded row that is about to be written: the limit it sets covers the uses so far. -/
def Covers (codes : Table DiscountCode) (phase : DeskPhase) : Prop :=
  ∀ row values, rowWrite phase = some (row, values) → ∀ current ∈ codes, current.id = row.id →
    current.version = row.version → current.deletedAt = none →
      values.redemptionLimit.getD current.redemptionLimit ≠ UNLIMITED →
        current.used ≤ values.redemptionLimit.getD current.redemptionLimit

theorem fixed_covers (within : WithinLimit office.db.discountCodes)
    (fixed : leavesLimits office.db.discountCodes phase) :
    Covers office.db.discountCodes phase := by
  intro row values writes current stored same version live
  have found : office.db.discountCodes.find row.id = some current :=
    Table.find_eq_some.mpr ⟨stored, same⟩
  have limits := updated_sameLimits fixed writes found version live stored same
  have kept : values.redemptionLimit.getD current.redemptionLimit = current.redemptionLimit :=
    limits.redemptionLimit
  rw [kept]
  exact within current stored

theorem acts_withinLimit (acts : DeskActs office draws phase acted)
    (within : WithinLimit office.db.discountCodes) (covers : Covers office.db.discountCodes phase) :
    WithinLimit acted.office.db.discountCodes := by
  cases acts with
  | read | erasedNothing => exact within
  | inserted row =>
    intro code member _
    rcases Table.mem_insert.mp member with old | rfl
    · exact within code old ‹_›
    · exact Nat.zero_le _
  | updated _ row current values _ _ writes found version live =>
    refine withinLimit_update within fun old stored same => ?_
    obtain ⟨there, named⟩ := Table.find_eq_some.mp found
    have one : old = current := Table.eq_of_key stored there (same.trans named.symm)
    subst one
    exact covers row values writes old stored same version live
  | retired => exact withinLimit_update within fun row stored _ => within row stored
  | erased => exact fun code member => within code (Table.mem_delete.mp member).1
  | synced changes =>
    exact sync_rule WithinLimit changes
      (fun _ _ _ within => withinLimit_update within fun row stored _ => within row stored) within
  | placed => exact step_withinLimit within _

theorem step_withinPersonLimit
    (within : WithinPersonLimit office.db.discountCodes office.db.discountRedemptions) {op : Op}
    (room : ∀ input, op = .placeOrder input → BuyerHasRoom office.db input) :
    WithinPersonLimit (step office op).db.discountCodes (step office op).db.discountRedemptions := by
  rcases step_discounts office op with ⟨codes, redemptions⟩ | ⟨input, placed, rfl, placement⟩
  · rwa [codes, redemptions]
  · exact withinPersonLimit_placed within placement (room input rfl)

theorem acts_withinPersonLimit (acts : DeskActs office draws phase acted)
    (tallied : Tallied office.db)
    (within : WithinPersonLimit office.db.discountCodes office.db.discountRedemptions)
    (fixed : leavesLimits office.db.discountCodes phase)
    (room : ∀ input, placedBy draws phase = some input → BuyerHasRoom office.db input) :
    WithinPersonLimit acted.office.db.discountCodes acted.office.db.discountRedemptions := by
  cases acts with
  | read | erasedNothing => exact within
  | inserted row => exact withinPersonLimit_insert tallied within row
  | updated _ row current values _ _ writes found version live =>
    exact withinPersonLimit_update within fun old stored same =>
      updated_sameLimits fixed writes found version live stored same
  | retired => exact withinPersonLimit_update within fun _ _ _ => ⟨rfl, rfl, rfl, rfl⟩
  | erased => exact fun code member => within code (Table.mem_delete.mp member).1
  | synced changes =>
    exact sync_rule (fun codes => WithinPersonLimit codes office.db.discountRedemptions) changes
      (fun _ _ _ within => withinPersonLimit_update within fun _ _ _ => ⟨rfl, rfl, rfl, rfl⟩) within
  | placed =>
    refine step_withinPersonLimit within fun input same => room input ?_
    cases same
    rfl

end Desk

/-! ## Every run -/

/-- A turn is another transaction, leaves the workspace alone, or is a step at the desk. -/
theorem servePromotions_cases (desk : Promotions) (turn : DeskTurn) :
    (∃ op uncoded, turn = .checkout op uncoded ∧
      (servePromotions desk turn).office = step desk.office op) ∨
    (servePromotions desk turn).office = desk.office ∨
    ∃ callId draws call, turn = .advance callId draws ∧ desk.calls.find callId = some call ∧
      ∃ acted, DeskActs desk.office draws call.phase acted ∧
        (servePromotions desk turn).office = acted.office ∧
        (servePromotions desk turn).calls = moveDeskCall desk.calls callId acted.phase := by
  cases turn with
  | checkout op uncoded => exact Or.inl ⟨op, uncoded, rfl, rfl⟩
  | organize | receive | crash => exact Or.inr (Or.inl rfl)
  | advance callId draws =>
    cases found : desk.calls.find callId with
    | none =>
      right
      left
      simp [servePromotions, found]
    | some call =>
      refine Or.inr (Or.inr ⟨callId, draws, call, rfl, found,
        _, desk_cases desk.office desk.catalog draws call.phase, ?_, ?_⟩) <;>
        simp [servePromotions, found]

/-- The counts agree and no limit is passed. -/
structure Limited (desk : Promotions) : Prop where
  tallied : Tallied desk.office.db
  within : WithinLimit desk.office.db.discountCodes

theorem serve_limited (desk : Promotions) (turn : DeskTurn) (limited : Limited desk)
    (fixed : FixedLimits desk turn) : Limited (servePromotions desk turn) := by
  obtain ⟨tallied, within⟩ := limited
  rcases servePromotions_cases desk turn with
    ⟨op, uncoded, rfl, office⟩ | office | ⟨callId, draws, call, rfl, found, acted, acts, office, _⟩
  · constructor <;> rw [office]
    · exact tallied_step tallied uncoded
    · exact step_withinLimit within op
  · constructor <;> rw [office]
    · exact tallied
    · exact within
  · have fixed : leavesLimits desk.office.db.discountCodes call.phase :=
      deskPhaseOf_found found ▸ fixed
    constructor <;> rw [office]
    · exact acts_tallied acts tallied
    · exact acts_withinLimit acts within (fixed_covers within fixed)

/-- No limit is passed, and no person's. -/
structure PersonLimited (desk : Promotions) : Prop where
  limited : Limited desk
  person : WithinPersonLimit desk.office.db.discountCodes desk.office.db.discountRedemptions

theorem serve_personLimited (desk : Promotions) (turn : DeskTurn) (limited : PersonLimited desk)
    (kept : FixedLimits desk turn ∧ RoomLeft desk turn) :
    PersonLimited (servePromotions desk turn) := by
  obtain ⟨fixed, room⟩ := kept
  refine ⟨serve_limited desk turn limited.limited fixed, ?_⟩
  unfold RoomLeft at room
  rcases servePromotions_cases desk turn with
    ⟨op, uncoded, rfl, office⟩ | office | ⟨callId, draws, call, rfl, found, acted, acts, office, _⟩
  · rw [office]
    refine step_withinPersonLimit limited.person fun input same => ?_
    subst same
    exact room
  · rw [office]
    exact limited.person
  · rw [office]
    simp only [placing, deskPhaseOf_found found] at room
    have fixed : leavesLimits desk.office.db.discountCodes call.phase :=
      deskPhaseOf_found found ▸ fixed
    refine acts_withinPersonLimit acts limited.limited.tallied limited.person fixed ?_
    intro input placed
    rw [placed] at room
    exact room

/-- A desk before its first order: nothing has been redeemed. -/
structure Unredeemed (desk : Promotions) : Prop where
  orders : desk.office.db.orders.rows = []
  redemptions : desk.office.db.discountRedemptions.rows = []
  unused : ∀ code ∈ desk.office.db.discountCodes.rows, code.used = 0
  calls : desk.calls.rows = []

theorem unredeemed_limited {desk : Promotions} (unredeemed : Unredeemed desk) : Limited desk where
  tallied :=
    { counted := fun code stored => by
        rw [unredeemed.unused code stored]
        exact (redemptionsOf_eq_zero fun row member =>
          absurd member (Table.not_mem_of_empty unredeemed.redemptions row)).symm
      coded := fun row stored => absurd stored (Table.not_mem_of_empty unredeemed.redemptions row)
      ordered := fun row stored => absurd stored (Table.not_mem_of_empty unredeemed.redemptions row)
      recorded := fun row stored => absurd stored (Table.not_mem_of_empty unredeemed.orders row)
      sole := fun row stored => absurd stored (Table.not_mem_of_empty unredeemed.redemptions row) }
  within := fun code stored _ => by
    rw [unredeemed.unused code stored]
    exact Nat.zero_le _

theorem unredeemed_personLimited {desk : Promotions} (unredeemed : Unredeemed desk) :
    PersonLimited desk where
  limited := unredeemed_limited unredeemed
  person := by
    intro code _ _ email
    have none : redemptionsOf desk.office.db.discountRedemptions code.id = 0 :=
      redemptionsOf_eq_zero fun row member =>
        absurd member (Table.not_mem_of_empty unredeemed.redemptions row)
    have few : redemptionsByBuyer desk.office.db.discountRedemptions code.id email ≤
        redemptionsOf desk.office.db.discountRedemptions code.id := redemptionsByBuyer_le _ _
    omega

/-- With fixed limits the tally and the limit hold; the person's, while the buyers have room. -/
theorem discount_limits {desk : Promotions} (unredeemed : Unredeemed desk) {turns : List DeskTurn}
    (fixed : Meets servePromotions FixedLimits desk turns) :
    let db := (run servePromotions desk turns).office.db
    Tallied db ∧ WithinLimit db.discountCodes ∧
      (Meets servePromotions RoomLeft desk turns →
        WithinPersonLimit db.discountCodes db.discountRedemptions) := by
  have limited : Limited (run servePromotions desk turns) :=
    run_invariant serve_limited (unredeemed_limited unredeemed) fixed
  refine ⟨limited.tallied, limited.within, fun room => ?_⟩
  have person : PersonLimited (run servePromotions desk turns) :=
    run_invariant serve_personLimited (unredeemed_personLimited unredeemed) (fixed.and room)
  exact person.person

/-! ## A promotion, for concrete runs -/

/-- A paid tier, and a code worth 100 satang that each person may use once. -/
def promotion : Promotions where
  office :=
    { boxOffice with
      db := { boxOffice.db with
        ticketTypes := ⟨[{ id := 0, eventId := 0, name := "General", priceSatang := 1000, sold := 0
                           total := 2 }], 1, by decide, by decide⟩
        discountCodes := ⟨[{ id := 0, code := "PROMO", value := 100, status := .active, used := 0
                             redemptionLimit := 0, perPersonLimit := 1 }], 1,
          by decide, by decide⟩ } }
  catalog :=
    { events := ⟨[{ id := 0, status := .upcoming, startAt := 1000 }], 1, by decide, by decide⟩
      rates := { vatOf := fun total => total * 7 / 107, serviceFeeOf := fun _ => 0 } }
  calls := Table.empty

theorem promotion_unredeemed : Unredeemed promotion :=
  ⟨rfl, rfl, by decide +kernel, rfl⟩

/-- A buyer's confirm of one ticket with the code. -/
def applying (key : String) : DeskTurn :=
  .receive (.confirm
    { eventId := 0, ticketTypeId := 0, quantity := some 1, discountCode := some "promo"
      buyer := { name := "Anan", email := "anan@example.com" }, idempotencyKey := key } none)

/-- One step of a request, with this reference drawn for its order. -/
def onward (callId : Nat) (reference : String) : DeskTurn :=
  .advance callId { reference := fun _ => reference, qrToken := fun _ => "" }

/-- One confirm, priced and placed; the buyer's second is then refused at its quote. -/
def appliedTwice : List DeskTurn :=
  [applying "first", onward 0 "", onward 0 "ORD-1", applying "second", onward 1 ""]

theorem discount_limits_promotion :
    let db := (run servePromotions promotion appliedTwice).office.db
    Tallied db ∧ WithinPersonLimit db.discountCodes db.discountRedemptions ∧
      (db.discountCodes.rows.map DiscountCode.used) = [1] := by
  obtain ⟨tallied, _, person⟩ := discount_limits promotion_unredeemed
    (show Meets servePromotions FixedLimits promotion appliedTwice by decide +kernel)
  exact ⟨tallied, person (by decide +kernel), by decide +kernel⟩

/-- Both confirms are quoted before either is placed. -/
def quotedTwice : List DeskTurn :=
  [applying "first", applying "second", onward 0 "", onward 1 "", onward 0 "ORD-1",
    onward 1 "ORD-2"]

/-- One buyer redeems the code twice, which it allows a person once. -/
theorem person_limit_passed :
    Meets servePromotions FixedLimits promotion quotedTwice ∧
      ¬ WithinPersonLimit (run servePromotions promotion quotedTwice).office.db.discountCodes
        (run servePromotions promotion quotedTwice).office.db.discountRedemptions := by
  refine ⟨by decide +kernel, fun within => ?_⟩
  have passed : ∃ code ∈ (run servePromotions promotion quotedTwice).office.db.discountCodes.rows,
      code.perPersonLimit = 1 ∧
        redemptionsByBuyer (run servePromotions promotion quotedTwice).office.db.discountRedemptions
          code.id "anan@example.com" = 2 := by decide +kernel
  obtain ⟨code, stored, limit, twice⟩ := passed
  have few := within code stored (by simp [limit, UNLIMITED]) "anan@example.com"
  omega

end EventaApi.Guarantees
