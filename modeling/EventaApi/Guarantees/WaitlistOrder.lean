import EventaApi.Guarantees.WaitlistPlaces

/-!
# First come, first served

A run through the line serves the front it reads, and reads again once that one has its
place. Where nobody joins meanwhile, the line only gets shorter from the front the run has
reached, so the registrations it serves stand in line one after the other; whoever does not
get a place is the last one tried.
-/
namespace EventaApi.Guarantees
open Library Source

/-! ## Where a run through the line stands -/

def triedIds (deeds : Deeds) : List Nat := deeds.tried.map fun entry => entry.order.id

/-- The registration a phase is serving. -/
def errandOf : DecisionPhase → Option Nat
  | .waitlistEntry orderId _ | .orderById orderId _ | .settleOrder orderId _ => some orderId
  | .holdForOffer entry _ | .markOffered entry _ _ _ _ | .confirmFree _ entry => some entry.order.id
  | _ => none

/-- What a run has done by each phase: everybody it tried was given a place, or all but the last. -/
inductive Stage (ticketTypeId : Nat) (deeds : Deeds) : DecisionPhase → Prop where
  | asks (fresh : deeds = {}) : Stage ticketTypeId deeds (.findOwnedById ticketTypeId)
  | reads (all : triedIds deeds = deeds.gave) :
      Stage ticketTypeId deeds (.frontOfLine { ticketTypeId, served := deeds.gave })
  | serves (phase : DecisionPhase) (orderId : Nat)
      (works : lineOf phase = some { ticketTypeId, served := deeds.gave })
      (errand : errandOf phase = some orderId ∨ lettingGo phase)
      (last : triedIds deeds = deeds.gave ++ [orderId]) : Stage ticketTypeId deeds phase
  | ends (reply : DecisionReply)
      (tries : triedIds deeds = deeds.gave ∨ ∃ orderId, triedIds deeds = deeds.gave ++ [orderId])
      (counts : reply = .crashed ∨
        ∃ interrupted, reply = .newPlaces deeds.gave.length interrupted) :
      Stage ticketTypeId deeds (.done reply)

/-- A run through the line ends with a count. -/
def Counts : DecisionPhase → Prop
  | .done reply => ∃ offered interrupted, reply = .newPlaces offered interrupted
  | _ => True

section Stages

variable {db : Db} {now : Instant} {phase : DecisionPhase} {acted : DecisionActed}
  {ticketTypeId : Nat} {deeds : Deeds}

theorem counts_stopLine (line : LineRun) (interrupted : Bool) : Counts (stopLine line interrupted) :=
  ⟨_, _, rfl⟩

theorem counts_afterApproval (orderId holdId : Nat) (result : ApprovalResult) (line : LineRun) :
    Counts (afterApproval orderId result (.line line holdId)) := by
  simp only [afterApproval]
  split <;> trivial

theorem counts_afterOffer (orderId : Nat) (result : OfferResult) (line : LineRun) :
    Counts (afterOffer orderId result (.line line)) := by
  simp only [afterOffer]
  split
  · trivial
  · exact counts_stopLine _ _

theorem counts_afterThrow (error : TxError) {line : LineRun} (works : lineOf phase = some line) :
    Counts (afterThrow error phase) := by
  cases phase with
  | orderById _ approvedFor | settleOrder _ approvedFor =>
    cases approvedFor with
    | organizer => cases works
    | line => trivial
  | waitlistEntry _ offeredFor | holdForOffer _ offeredFor | giveBack _ offeredFor _ =>
    cases offeredFor with
    | organizer => cases works
    | line => exact counts_stopLine _ _
  | markOffered => trivial
  | frontOfLine | confirmFree | releasePlace => exact counts_stopLine _ _
  | mustFind | findOwnedById | done => cases works

theorem counts_actOn {offerWindowMs : Nat} {answer : DecisionAnswer} {line : LineRun}
    (works : lineOf phase = some line) : Counts (actOn db now offerWindowMs answer phase).phase := by
  cases phase with
  | orderById _ approvedFor =>
    cases approvedFor with
    | organizer => cases works
    | line =>
      simp only [actOn]
      split
      · exact counts_afterApproval _ _ _ _
      · trivial
  | settleOrder _ approvedFor =>
    cases approvedFor with
    | organizer => cases works
    | line =>
      simp only [actOn]
      split
      · exact counts_afterApproval _ _ _ _
      · trivial
  | waitlistEntry _ offeredFor =>
    cases offeredFor with
    | organizer => cases works
    | line =>
      simp only [actOn]
      split
      · exact counts_stopLine _ _
      · split
        · exact counts_afterOffer _ _ _
        · trivial
  | holdForOffer _ offeredFor =>
    cases offeredFor with
    | organizer => cases works
    | line =>
      simp only [actOn]
      split
      · trivial
      · dsimp only
        exact counts_afterOffer _ _ _
      · exact counts_stopLine _ _
  | markOffered _ offeredFor =>
    cases offeredFor with
    | organizer => cases works
    | line =>
      simp only [actOn]
      split
      · dsimp only
        exact counts_afterOffer _ _ _
      · trivial
  | giveBack _ offeredFor =>
    cases offeredFor with
    | organizer => cases works
    | line => exact counts_stopLine _ _
  | frontOfLine =>
    simp only [actOn]
    split
    · exact counts_stopLine _ _
    · split
      · exact counts_stopLine _ _
      · dsimp only
        split <;> trivial
  | confirmFree =>
    simp only [actOn]
    split
    · trivial
    · exact counts_stopLine _ _
    · exact counts_stopLine _ _
  | releasePlace => exact counts_stopLine _ _
  | mustFind | findOwnedById | done => cases works

theorem counts_findOwnedById (registrations : Registrations) (answer : DecisionAnswer) :
    Counts (actOrThrow registrations answer (.findOwnedById ticketTypeId)).phase := by
  unfold actOrThrow
  split
  · exact ⟨_, _, rfl⟩
  · simp only [actOn]
    split
    · trivial
    · exact ⟨_, _, rfl⟩

/-- A run that is working through the line, or about to, ends with a count. -/
theorem counts_actOrThrow (registrations : Registrations) (answer : DecisionAnswer)
    (stage : Stage ticketTypeId deeds phase) (working : ∀ reply, phase ≠ .done reply) :
    Counts (actOrThrow registrations answer phase).phase := by
  have inLine {line : LineRun} (works : lineOf phase = some line) :
      Counts (actOrThrow registrations answer phase).phase := by
    unfold actOrThrow
    split
    · exact counts_afterThrow _ works
    · exact counts_actOn works
  cases stage with
  | asks => exact counts_findOwnedById registrations answer
  | reads => exact inLine rfl
  | serves _ _ works => exact inLine works
  | ends reply => exact absurd rfl (working reply)

theorem given_of_line {line : LineRun} (works : lineOf phase = some line) :
    given phase = line.served.length := by
  cases phase with
  | done => cases works
  | mustFind | findOwnedById => cases works
  | orderById | settleOrder | waitlistEntry | holdForOffer | markOffered | giveBack | frontOfLine
  | confirmFree | releasePlace => simp [given, works]

/-- What a step that tries nobody and gives nothing leaves remembered. -/
theorem remember_idle (deeds : Deeds) (gaveNone : acted.gave = none) (triedNone : acted.tried = none) :
    (remember deeds acted).gave = deeds.gave ∧ triedIds (remember deeds acted) = triedIds deeds := by
  simp [triedIds, remember, gaveNone, triedNone]

/-- A run that ends has given as many places as it says. -/
theorem stage_ended {reply : DecisionReply} (counts : Counts (.done reply))
    (same : givenIn reply = deeds.gave.length) (gaveNone : acted.gave = none)
    (triedNone : acted.tried = none)
    (tries : triedIds deeds = deeds.gave ∨ ∃ orderId, triedIds deeds = deeds.gave ++ [orderId]) :
    Stage ticketTypeId (remember deeds acted) (.done reply) := by
  obtain ⟨gave, tried⟩ := remember_idle deeds gaveNone triedNone
  obtain ⟨offered, interrupted, rfl⟩ := counts
  have same : offered = deeds.gave.length := same
  refine .ends _ ?_ (Or.inr ⟨interrupted, by rw [gave, same]⟩)
  rw [gave, tried]
  exact tries

/-- A run that keeps at the registration it serves. -/
theorem stage_serving {next : DecisionPhase} {orderId : Nat}
    (works : lineOf next = some { ticketTypeId, served := deeds.gave })
    (errand : errandOf next = some orderId ∨ lettingGo next)
    (last : triedIds deeds = deeds.gave ++ [orderId]) (gaveNone : acted.gave = none)
    (triedNone : acted.tried = none) : Stage ticketTypeId (remember deeds acted) next := by
  obtain ⟨gave, tried⟩ := remember_idle deeds gaveNone triedNone
  refine .serves next orderId ?_ errand ?_
  · rw [gave]
    exact works
  · rw [gave, tried]
    exact last

/-- A run whose registration has its place reads on. -/
theorem stage_served {orderId : Nat} (last : triedIds deeds = deeds.gave ++ [orderId])
    (gave : acted.gave = some orderId) (triedNone : acted.tried = none) :
    Stage ticketTypeId (remember deeds acted)
      (.frontOfLine { ticketTypeId, served := deeds.gave ++ [orderId] }) := by
  have grown : (remember deeds acted).gave = deeds.gave ++ [orderId] := by simp [remember, gave]
  rw [← grown]
  refine .reads ?_
  rw [grown, ← last]
  simp [triedIds, remember, triedNone]

/-- One step takes a run from one stage to the next. -/
theorem stage_acts (stage : Stage ticketTypeId deeds phase)
    (working : ∀ reply, phase ≠ .done reply) (acts : DecisionActs db now phase acted)
    (counts : Counts acted.phase) : Stage ticketTypeId (remember deeds acted) acted.phase := by
  cases stage with
  | asks fresh =>
    subst fresh
    cases acts with
    | led _ _ leads =>
      cases leads with
      | opened => exact .reads rfl
      | ended _ _ _ _ same => exact stage_ended counts same rfl rfl (Or.inl rfl)
    | swept _ _ _ _ _ same => exact stage_ended counts same rfl rfl (Or.inl rfl)
  | reads all =>
    cases acts with
    | led _ _ leads =>
      cases leads with
      | lineEnded => exact stage_ended counts rfl rfl rfl (Or.inl all)
      | ended _ _ _ unserved => exact absurd rfl (unserved _)
    | tried _ entry next _ _ serves =>
      have last : triedIds (remember deeds { db, phase := next, tried := some entry }) =
          deeds.gave ++ [entry.order.id] := by
        rw [← all]
        simp [triedIds, remember]
      rw [serves] at last ⊢
      split
      all_goals refine .serves _ entry.order.id ?_ (Or.inl rfl) ?_
      all_goals simp_all [lineOf, remember]
    | swept _ _ _ _ unserved => exact absurd rfl (unserved _)
  | serves _ orderId works errand last =>
    have same := given_of_line works
    cases acts with
    | led _ _ leads =>
      cases leads with
      | located _ approvedFor =>
        cases approvedFor with
        | organizer => cases works
        | line => exact stage_serving works errand last rfl rfl
      | unlocated | unsettled => exact stage_serving works (Or.inr trivial) last rfl rfl
      | entered _ offeredFor entry found =>
        obtain ⟨_, _, _, named, _⟩ := waitlistEntry_some found
        have mine : some entry.order.id = some orderId := by
          rcases errand with errand | letting
          · rw [named]
            exact errand
          · exact letting.elim
        cases offeredFor with
        | organizer => cases works
        | line => exact stage_serving works (Or.inl mine) last rfl rfl
      | unoffered _ offeredFor =>
        cases offeredFor with
        | organizer => cases works
        | line => exact stage_serving works (Or.inr trivial) last rfl rfl
      | lineEnded =>
        rcases errand with mine | letting
        · cases mine
        · exact letting.elim
      | ended _ _ _ _ told => exact stage_ended counts (told.trans same) rfl rfl (Or.inr ⟨_, last⟩)
      | found | foundOwing | opened => cases works
    | tried =>
      rcases errand with mine | letting
      · cases mine
      · exact letting.elim
    | swept _ _ _ _ _ told => exact stage_ended counts (told.trans same) rfl rfl (Or.inr ⟨_, last⟩)
    | heldOffer entry offeredFor =>
      cases offeredFor with
      | organizer => cases works
      | line => exact stage_serving works errand last rfl rfl
    | heldPlace => exact stage_serving works errand last rfl rfl
    | approved orderId' approvedFor _ _ settlement _ _ _ outcome =>
      have mine : orderId' = orderId := by
        rcases errand with mine | letting
        · exact Option.some.inj mine
        · exact letting.elim
      cases approvedFor with
      | organizer => cases works
      | line =>
        cases works
        have approved : (approvalResult settlement).outcome = .approved := by
          simp [approvalResult, outcome, APPROVAL_OUTCOMES]
        simp only [afterApproval, approved, if_pos, LineRun.push, mine]
        exact stage_served last rfl rfl
    | offered entry offeredFor =>
      have mine : entry.order.id = orderId := by
        rcases errand with mine | letting
        · exact Option.some.inj mine
        · exact letting.elim
      cases offeredFor with
      | organizer => cases works
      | line =>
        cases works
        simp only [afterOffer, if_pos, LineRun.push, mine]
        exact stage_served last rfl rfl
    | gaveBack _ offeredFor =>
      cases offeredFor with
      | organizer => cases works
      | line =>
        cases works
        exact stage_ended counts rfl rfl rfl (Or.inr ⟨_, last⟩)
    | released =>
      cases works
      exact stage_ended counts rfl rfl rfl (Or.inr ⟨_, last⟩)
  | ends reply => exact absurd rfl (working reply)

end Stages

/-! ## The places a run gives -/

/-- The order's line. -/
def Ordered (db : Db) (orderId ticketTypeId quantity : Nat) : Prop :=
  ∃ item ∈ db.orderItems.rows,
    item.orderId = orderId ∧ item.ticketTypeId = ticketTypeId ∧ item.quantity = quantity

/-- The order's places were held for it, all of them, while that many were left. -/
def Covered (ticketTypeId : Nat) (deeds : Deeds) (db : Db) (orderId : Nat) : Prop :=
  ∃ taken ∈ deeds.taken, taken.hold.orderId = some orderId ∧
    taken.hold.ticketTypeId = some ticketTypeId ∧ 1 ≤ taken.hold.quantity ∧
    taken.hold.quantity ≤ taken.left ∧ Ordered db orderId ticketTypeId taken.hold.quantity

/-- What a run knows of the registration it serves. -/
def InHand (ticketTypeId : Nat) (deeds : Deeds) (db : Db) : DecisionPhase → Prop
  | .waitlistEntry orderId _ => ∃ quantity, Ordered db orderId ticketTypeId quantity
  | .holdForOffer entry _ | .confirmFree _ entry =>
    entry.ticketTypeId = ticketTypeId ∧ Ordered db entry.order.id ticketTypeId entry.quantity
  | .markOffered entry _ _ _ _ => Covered ticketTypeId deeds db entry.order.id
  | .orderById orderId _ | .settleOrder orderId _ => Covered ticketTypeId deeds db orderId
  | _ => True

section Places

variable {db after : Db} {now : Instant} {phase : DecisionPhase} {acted : DecisionActed}
  {ticketTypeId : Nat} {deeds : Deeds}

theorem Ordered.kept {orderId quantity : Nat} (ordered : Ordered db orderId ticketTypeId quantity)
    (items : ∀ item ∈ db.orderItems, item ∈ after.orderItems) :
    Ordered after orderId ticketTypeId quantity := by
  obtain ⟨item, stored, facts⟩ := ordered
  exact ⟨item, items item stored, facts⟩

theorem Covered.kept {orderId : Nat} (covered : Covered ticketTypeId deeds db orderId)
    (items : ∀ item ∈ db.orderItems, item ∈ after.orderItems) :
    Covered ticketTypeId deeds after orderId := by
  obtain ⟨taken, took, mine, typed, positive, fits, ordered⟩ := covered
  exact ⟨taken, took, mine, typed, positive, fits, ordered.kept items⟩

theorem Covered.remembered {orderId : Nat} (covered : Covered ticketTypeId deeds db orderId)
    (acted : DecisionActed) : Covered ticketTypeId (remember deeds acted) db orderId := by
  obtain ⟨taken, took, facts⟩ := covered
  exact ⟨taken, List.mem_append_left _ took, facts⟩

theorem InHand.kept (inHand : InHand ticketTypeId deeds db phase)
    (items : ∀ item ∈ db.orderItems, item ∈ after.orderItems) :
    InHand ticketTypeId deeds after phase := by
  cases phase with
  | waitlistEntry =>
    obtain ⟨quantity, ordered⟩ := inHand
    exact ⟨quantity, ordered.kept items⟩
  | holdForOffer | confirmFree => exact ⟨inHand.1, inHand.2.kept items⟩
  | markOffered | orderById | settleOrder => exact Covered.kept inHand items
  | mustFind | giveBack | findOwnedById | frontOfLine | releasePlace | done => trivial

/-- After a sweep the active holds are the live ones. -/
theorem activeHeldQuantity_swept (holds : Table SeatHold) :
    activeHeldQuantity (expireLapsedForTier holds ticketTypeId now) ticketTypeId =
      holds.sum fun hold =>
        if hold.ticketTypeId = some ticketTypeId ∧ hold.reserves now then hold.quantity else 0 := by
  unfold activeHeldQuantity expireLapsedForTier
  rw [Table.sum_update]
  apply Table.sum_congr
  intro hold _
  by_cases lapsed : hold.ticketTypeId = some ticketTypeId ∧ hold.status = .active ∧
      hold.expiresAt ≤ now
  · have idle : ¬ hold.reserves now := fun live => not_lt.mpr lapsed.2.2 live.2
    rw [if_pos lapsed]
    simp [idle]
  · rw [if_neg lapsed]
    by_cases held : hold.ticketTypeId = some ticketTypeId ∧ hold.status = .active
    · have live : now < hold.expiresAt := by
        by_contra past
        exact lapsed ⟨held.1, held.2, not_lt.mp past⟩
      simp [SeatHold.reserves, held, live]
    · rw [if_neg held, if_neg]
      exact fun live => held ⟨live.1, live.2.1⟩

/-- A hold that fits is within what is left. -/
theorem placesLeft_fits {tier : TicketType} {quantity : Nat}
    (found : db.ticketTypes.find ticketTypeId = some tier)
    (fits : tier.sold + activeHeldQuantity (expireLapsedForTier db.seatHolds ticketTypeId now)
      ticketTypeId + quantity ≤ tier.total) : quantity ≤ placesLeft db now ticketTypeId := by
  rw [activeHeldQuantity_swept] at fits
  simp only [placesLeft, found]
  omega

/-- What a run knows follows from what it has just read or held. -/
theorem inHand_acts (lined : Lined db) (stage : Stage ticketTypeId deeds phase)
    (acts : DecisionActs db now phase acted) (inHand : InHand ticketTypeId deeds db phase) :
    InHand ticketTypeId (remember deeds acted) db acted.phase := by
  cases acts with
  | led _ _ leads =>
    cases leads with
    | located => exact Covered.remembered inHand _
    | entered _ _ entry found =>
      obtain ⟨item, stored, named, same, sameType, sameQuantity⟩ := waitlistEntry_some found
      obtain ⟨_, other, stored', named', typed, _⟩ := inHand
      have sole := lined.refs.sole other stored' item stored (named'.trans named.symm)
      subst sole
      exact ⟨sameType.trans typed, other, stored, named.trans same.symm, typed, sameQuantity.symm⟩
    | found | foundOwing =>
      cases stage with
      | serves _ _ works => cases works
    | unlocated | unsettled | unoffered | opened | lineEnded | ended => trivial
  | tried line entry next front _ serves =>
    obtain ⟨item, stored, typed, found, sameType, sameQuantity, _⟩ :=
      (mem_waitlistFor lined).mp (argmin_member front)
    have mine : line.ticketTypeId = ticketTypeId := by
      cases stage with
      | reads => rfl
      | serves _ _ works => cases works; rfl
    have ordered : Ordered db entry.order.id ticketTypeId entry.quantity :=
      ⟨item, stored, (Table.find_eq_some.mp found).2.symm, typed.trans mine, sameQuantity.symm⟩
    rw [serves]
    split
    · exact ⟨sameType.trans mine, ordered⟩
    · exact ⟨_, ordered⟩
  | heldOffer entry _ expiresAt tier found positive fits
  | heldPlace _ entry expiresAt tier found positive fits =>
    obtain ⟨rfl, ordered⟩ := inHand
    exact ⟨_, List.mem_append_right _ (List.mem_singleton.mpr rfl), rfl, rfl, positive,
      placesLeft_fits found fits, ordered⟩
  | swept => trivial
  | approved _ approvedFor _ _ settlement _ _ _ outcome =>
    cases approvedFor with
    | organizer asked => cases asked <;> (simp only [afterApproval]; split <;> trivial)
    | line => simp only [afterApproval]; split <;> trivial
  | offered _ offeredFor => cases offeredFor <;> (simp only [afterOffer]; split <;> trivial)
  | gaveBack _ offeredFor => cases offeredFor <;> trivial
  | released => trivial

end Places

/-! ## The order a run serves in -/

/-- Whoever a run has tried stood in line, one after the other, before whoever still does. -/
structure InTurn (ticketTypeId : Nat) (line : List Order) (deeds : Deeds) (db : Db) : Prop where
  within : ∀ order ∈ db.orders, InLine db order ticketTypeId →
    ∃ first ∈ line, first.place = order.place
  drawn : ∀ entry ∈ deeds.tried, ∃ first ∈ line, first.place = entry.order.place
  sorted : (deeds.tried.map fun entry => entry.order.place).Pairwise (· < ·)
  ahead : ∀ entry ∈ deeds.tried, ∀ order ∈ db.orders, InLine db order ticketTypeId →
    entry.order.place ≤ order.place
  gone : ∀ orderId ∈ deeds.gave, ∃ order, db.orders.find orderId = some order ∧
    order.status ≠ .waitlisted
  covered : ∀ orderId ∈ deeds.gave, Covered ticketTypeId deeds db orderId

section Turns

variable {db after : Db} {now : Instant} {phase : DecisionPhase} {acted : DecisionActed}
  {ticketTypeId : Nat} {deeds : Deeds} {line : List Order}

/-- A line that only gets shorter leaves everybody in turn. -/
theorem InTurn.kept (inTurn : InTurn ticketTypeId line deeds db)
    (shrinks : LineShrinks ticketTypeId db after) : InTurn ticketTypeId line deeds after where
  within := by
    intro order member inLine
    obtain ⟨old, stored, same, before⟩ := shrinks.line order member inLine
    obtain ⟨first, drawn, place⟩ := inTurn.within old stored before
    exact ⟨first, drawn, place.trans same⟩
  drawn := inTurn.drawn
  sorted := inTurn.sorted
  ahead := by
    intro entry tried order member inLine
    obtain ⟨old, stored, same, before⟩ := shrinks.line order member inLine
    rw [← same]
    exact inTurn.ahead entry tried old stored before
  gone := by
    intro orderId gave
    obtain ⟨old, found, left⟩ := inTurn.gone orderId gave
    exact shrinks.gone orderId old found left
  covered := fun orderId gave => (inTurn.covered orderId gave).kept shrinks.items

theorem Order.place_id {first second : Order} (same : first.place = second.place) :
    first.id = second.id :=
  congrArg (fun place => (ofLex place).2) same

/-- The front a run tries next stands behind everybody it has given a place. -/
theorem InTurn.tried (lined : Lined db) (inTurn : InTurn ticketTypeId line deeds db)
    (all : triedIds deeds = deeds.gave) {entry : WaitlistEntry} {next : DecisionPhase}
    (front : frontOfLine db ticketTypeId = some entry) :
    InTurn ticketTypeId line (remember deeds { db, phase := next, tried := some entry }) db := by
  obtain ⟨stored, inLine⟩ := mem_lineFor.mp (frontOfLine_first lined front).1
  have behind : ∀ other ∈ deeds.tried, other.order.place < entry.order.place := by
    intro other tried
    apply lt_of_le_of_ne (inTurn.ahead other tried entry.order stored inLine)
    intro same
    have given : entry.order.id ∈ deeds.gave := by
      rw [← all, ← Order.place_id same]
      exact List.mem_map_of_mem tried
    obtain ⟨row, found, left⟩ := inTurn.gone _ given
    have here : db.orders.find entry.order.id = some entry.order := Table.find_key stored
    cases here.symm.trans found
    exact left inLine.1
  refine
    { within := inTurn.within
      drawn := ?_
      sorted := ?_
      ahead := ?_
      gone := by simpa [remember] using inTurn.gone
      covered := ?_ }
  · intro other member
    simp only [remember, Option.toList_some, List.mem_append, List.mem_singleton] at member
    rcases member with tried | rfl
    · exact inTurn.drawn other tried
    · exact inTurn.within other.order stored inLine
  · simp only [remember, Option.toList_some, List.map_append, List.map_cons, List.map_nil]
    rw [List.pairwise_append]
    refine ⟨inTurn.sorted, List.pairwise_singleton _ _, ?_⟩
    intro place before last same
    obtain ⟨other, tried, rfl⟩ := List.mem_map.mp before
    rw [List.mem_singleton.mp same]
    exact behind other tried
  · intro other member order there waits
    simp only [remember, Option.toList_some, List.mem_append, List.mem_singleton] at member
    rcases member with tried | rfl
    · exact inTurn.ahead other tried order there waits
    · exact frontOfLine_least lined front (mem_lineFor.mpr ⟨there, waits⟩)
  · intro orderId gave
    have before : orderId ∈ deeds.gave := by simpa [remember] using gave
    exact (inTurn.covered orderId before).remembered _

/-- A registration that is given its places leaves the line, and its hold was within what was left. -/
theorem InTurn.gave (inTurn : InTurn ticketTypeId line deeds db) {orderId : Nat}
    (gave : acted.gave = some orderId) (triedNone : acted.tried = none)
    (left : ∃ order, db.orders.find orderId = some order ∧ order.status ≠ .waitlisted)
    (covered : Covered ticketTypeId deeds db orderId) :
    InTurn ticketTypeId line (remember deeds acted) db := by
  have sameTried : (remember deeds acted).tried = deeds.tried := by simp [remember, triedNone]
  have grown : (remember deeds acted).gave = deeds.gave ++ [orderId] := by simp [remember, gave]
  refine
    { within := inTurn.within
      drawn := sameTried ▸ inTurn.drawn
      sorted := sameTried ▸ inTurn.sorted
      ahead := sameTried ▸ inTurn.ahead
      gone := ?_
      covered := ?_ }
  · intro given member
    rw [grown, List.mem_append, List.mem_singleton] at member
    rcases member with before | rfl
    · exact inTurn.gone given before
    · exact left
  · intro given member
    rw [grown, List.mem_append, List.mem_singleton] at member
    rcases member with before | rfl
    · exact (inTurn.covered given before).remembered _
    · exact covered.remembered _

theorem InTurn.idle (inTurn : InTurn ticketTypeId line deeds db) (gaveNone : acted.gave = none)
    (triedNone : acted.tried = none) : InTurn ticketTypeId line (remember deeds acted) db := by
  have sameTried : (remember deeds acted).tried = deeds.tried := by simp [remember, triedNone]
  have sameGave : (remember deeds acted).gave = deeds.gave := by simp [remember, gaveNone]
  refine
    { within := inTurn.within
      drawn := sameTried ▸ inTurn.drawn
      sorted := sameTried ▸ inTurn.sorted
      ahead := sameTried ▸ inTurn.ahead
      gone := sameGave ▸ inTurn.gone
      covered := ?_ }
  intro orderId member
  rw [sameGave] at member
  exact (inTurn.covered orderId member).remembered _

/-- Whoever is given its places no longer waits. -/
theorem decisionActs_left (acts : DecisionActs db now phase acted) {orderId : Nat}
    (gave : acted.gave = some orderId) :
    ∃ order, acted.db.orders.find orderId = some order ∧ order.status ≠ .waitlisted := by
  cases acts with
  | led | tried | swept | heldOffer | heldPlace | gaveBack | released => cases gave
  | approved _ _ _ order _ _ found settles outcome =>
    cases gave
    have stored := (Table.find_eq_some.mp found).1
    cases settles with
    | already _ other | unavailable _ other | awaits _ other =>
      rw [outcome] at other
      cases other
    | refused => cases outcome
    | completes =>
      rcases find_updateOrder stored found with ⟨_, here⟩ | ⟨differ, _⟩
      · exact ⟨_, here, fun waiting => by cases waiting⟩
      · exact absurd rfl differ
  | offered entry _ _ _ _ order found =>
    cases gave
    have stored := (Table.find_eq_some.mp found).1
    rcases find_updateOrder stored found with ⟨_, here⟩ | ⟨differ, _⟩
    · exact ⟨_, here, fun waiting => by cases waiting⟩
    · exact absurd rfl differ

/-- A step of a run leaves it in turn. -/
theorem inTurn_acts (lined : Lined db) (stage : Stage ticketTypeId deeds phase)
    (inHand : InHand ticketTypeId deeds db phase) (acts : DecisionActs db now phase acted)
    (inTurn : InTurn ticketTypeId line deeds db) (shrinks : LineShrinks ticketTypeId db acted.db) :
    InTurn ticketTypeId line (remember deeds acted) acted.db := by
  have left {orderId : Nat} (gave : acted.gave = some orderId) := decisionActs_left acts gave
  have kept := inTurn.kept shrinks
  cases acts with
  | led | swept | heldOffer | heldPlace | gaveBack | released => exact kept.idle rfl rfl
  | tried _ _ _ front =>
    cases stage with
    | reads all => exact inTurn.tried lined all front
    | serves _ _ _ errand =>
      rcases errand with mine | letting
      · cases mine
      · exact letting.elim
  | approved orderId =>
    have covered : Covered ticketTypeId deeds db orderId := inHand
    exact kept.gave rfl rfl (left rfl) (covered.kept shrinks.items)
  | offered entry =>
    have covered : Covered ticketTypeId deeds db entry.order.id := inHand
    exact kept.gave rfl rfl (left rfl) (covered.kept shrinks.items)

end Turns

/-! ## A run, step after step -/

/-- A run through the line, `line` being who stood in it when the run was asked for. -/
structure Serving (ticketTypeId : Nat) (line : List Order) (callId : Nat)
    (registrations : Registrations) : Prop where
  lined : Lined registrations.service.office.db
  inTurn : InTurn ticketTypeId line (registrations.deeds callId) registrations.service.office.db
  at' : ∃ call, registrations.calls.find callId = some call ∧
    Stage ticketTypeId (registrations.deeds callId) call.phase ∧
    InHand ticketTypeId (registrations.deeds callId) registrations.service.office.db call.phase

/-- How many steps a run has taken, by its phase and how many it has tried. -/
def spent (tried : Nat) : DecisionPhase → Nat
  | .frontOfLine _ | .giveBack _ _ _ | .releasePlace _ _ _ => 4 * tried + 1
  | .waitlistEntry _ _ | .confirmFree _ _ => 4 * tried - 2
  | .holdForOffer _ _ | .orderById _ _ => 4 * tried - 1
  | .markOffered _ _ _ _ _ | .settleOrder _ _ => 4 * tried
  | .mustFind _ _ | .findOwnedById _ | .done _ => 0

/-- The turn is a step of the call. -/
def ownStep (callId : Nat) : DecisionTurn → Bool
  | .advance advanced _ => advanced == callId
  | _ => false

section Runs

variable {registrations : Registrations} {ticketTypeId : Nat} {line : List Order} {callId : Nat}

/-- A call that has ended stays as it is. -/
theorem actOrThrow_done (registrations : Registrations) (answer : DecisionAnswer)
    (reply : DecisionReply) : actOrThrow registrations answer (.done reply) =
      { db := registrations.service.office.db, phase := .done reply } := by
  unfold actOrThrow
  split <;> rfl

theorem spent_le (tried : Nat) (phase : DecisionPhase) : spent tried phase ≤ 4 * tried + 1 := by
  cases phase <;> simp only [spent] <;> omega

theorem tried_positive {deeds : Deeds} {orderId : Nat}
    (last : triedIds deeds = deeds.gave ++ [orderId]) : 1 ≤ deeds.tried.length := by
  have counted := congrArg List.length last
  simp only [triedIds, List.length_map, List.length_append, List.length_singleton] at counted
  omega

/-- Every step of a run that does not end it is one more. -/
theorem spent_acts {db : Db} {now : Instant} {phase : DecisionPhase} {acted : DecisionActed}
    {deeds : Deeds} (stage : Stage ticketTypeId deeds phase) (acts : DecisionActs db now phase acted)
    (working : ∀ reply, acted.phase ≠ .done reply) (started : ∀ reply, phase ≠ .done reply) :
    spent deeds.tried.length phase <
      spent (remember deeds acted).tried.length acted.phase := by
  have idle (none : acted.tried = none) :
      (remember deeds acted).tried.length = deeds.tried.length := by simp [remember, none]
  cases stage with
  | asks =>
    cases acts with
    | led _ _ leads =>
      cases leads with
      | opened => simp [spent]
      | ended => exact absurd rfl (working _)
    | swept => exact absurd rfl (working _)
  | reads =>
    cases acts with
    | led _ _ leads =>
      cases leads with
      | lineEnded | ended => exact absurd rfl (working _)
    | tried _ _ _ _ _ serves =>
      rw [serves]
      split <;> simp only [spent, remember, Option.toList_some, List.length_append,
        List.length_singleton] <;> omega
    | swept => exact absurd rfl (working _)
  | serves _ _ works errand last =>
    have some := tried_positive last
    cases acts with
    | led _ _ leads =>
      cases leads with
      | located | unlocated | unsettled | entered | unoffered =>
        rw [idle rfl]
        simp only [spent]
        omega
      | ended => exact absurd rfl (working _)
      | lineEnded =>
        rcases errand with mine | letting
        · cases mine
        · exact letting.elim
      | found | foundOwing | opened => cases works
    | tried =>
      rcases errand with mine | letting
      · cases mine
      · exact letting.elim
    | swept => exact absurd rfl (working _)
    | heldOffer | heldPlace =>
      rw [idle rfl]
      simp only [spent]
      omega
    | approved _ approvedFor _ _ settlement _ _ _ outcome =>
      cases approvedFor with
      | organizer => cases works
      | line =>
        rw [idle rfl]
        simp only [afterApproval, approvalResult, outcome, APPROVAL_OUTCOMES, if_pos, spent]
        omega
    | offered _ offeredFor =>
      cases offeredFor with
      | organizer => cases works
      | line =>
        rw [idle rfl]
        simp only [afterOffer, if_pos, spent]
        omega
    | gaveBack _ offeredFor =>
      cases offeredFor with
      | organizer => cases works
      | line => exact absurd rfl (working _)
    | released => exact absurd rfl (working _)
  | ends reply => exact absurd rfl (started reply)

/-- Nobody is tried after somebody who was not given a place. -/
theorem stage_stops {deeds : Deeds} {phase : DecisionPhase} (stage : Stage ticketTypeId deeds phase) :
    triedIds deeds = deeds.gave ∨ ∃ orderId, triedIds deeds = deeds.gave ++ [orderId] := by
  cases stage with
  | asks fresh => exact Or.inl (by rw [fresh]; rfl)
  | reads all => exact Or.inl all
  | serves _ _ _ _ last => exact Or.inr ⟨_, last⟩
  | ends _ tries => exact tries

theorem attend_serving (registrations : Registrations) (turn : DecisionTurn)
    (serving : Serving ticketTypeId line callId registrations)
    (nobody : NobodyJoins ticketTypeId registrations turn) :
    Serving ticketTypeId line callId (attend registrations turn) := by
  obtain ⟨call, found, stage, inHand⟩ := serving.at'
  obtain rfl : call.id = callId := (Table.find_eq_some.mp found).2
  have lined := attend_lined registrations turn serving.lined
  have shrinks := attend_lineShrinks registrations turn serving.lined.refs nobody
  have kept := serving.inTurn.kept shrinks
  cases attend_passes found turn with
  | acts answer _ wrote moved did =>
    by_cases concluded : ∃ reply, call.phase = .done reply
    · obtain ⟨reply, concluded⟩ := concluded
      have idle : remember (registrations.deeds call.id)
          (actOrThrow registrations answer call.phase) = registrations.deeds call.id := by
        rw [concluded, actOrThrow_done]
        simp [remember]
      rw [idle] at did
      refine ⟨lined, did ▸ kept, _, moved, ?_⟩
      simp only [concluded, actOrThrow_done, did]
      rw [concluded] at stage
      exact ⟨stage, trivial⟩
    · have working : ∀ reply, call.phase ≠ .done reply := fun reply ended => concluded ⟨reply, ended⟩
      have acts := actOrThrow_cases registrations answer call.phase
      rw [wrote] at shrinks
      refine ⟨lined, ?_, _, moved, ?_, ?_⟩
      · rw [did, wrote]
        exact inTurn_acts serving.lined stage inHand acts serving.inTurn shrinks
      · rw [did]
        exact stage_acts stage working acts (counts_actOrThrow registrations answer stage working)
      · rw [did, wrote]
        exact (inHand_acts serving.lined stage acts inHand).kept shrinks.items
  | dies _ ended did same =>
    refine ⟨lined, did ▸ kept, _, ended, ?_, trivial⟩
    rw [did]
    exact .ends _ (stage_stops stage) (Or.inl rfl)
  | waits _ _ _ still did =>
    refine ⟨lined, did ▸ kept, call, still, ?_⟩
    rw [did]
    exact ⟨stage, inHand.kept shrinks.items⟩

/-- A turn that does not end a run leaves it no less far on, and further if the step was its own. -/
theorem attend_spends {call : DecisionCall} (serving : Serving ticketTypeId line callId registrations)
    (found : registrations.calls.find callId = some call) (turn : DecisionTurn) :
    ∃ next, (attend registrations turn).calls.find callId = some next ∧
      ((∃ reply, next.phase = .done reply) ∨ ((∀ reply, call.phase ≠ .done reply) ∧
        spent (registrations.deeds callId).tried.length call.phase +
            (if ownStep callId turn then 1 else 0) ≤
          spent ((attend registrations turn).deeds callId).tried.length next.phase)) := by
  obtain ⟨other, found', stage, _⟩ := serving.at'
  cases found.symm.trans found'
  obtain rfl : call.id = callId := (Table.find_eq_some.mp found).2
  cases attend_passes found turn with
  | acts answer _ _ moved did =>
    refine ⟨_, moved, ?_⟩
    by_cases concluded : ∃ reply, (actOrThrow registrations answer call.phase).phase = .done reply
    · exact Or.inl concluded
    · have working : ∀ reply, (actOrThrow registrations answer call.phase).phase ≠ .done reply :=
        fun reply ended => concluded ⟨reply, ended⟩
      have started : ∀ reply, call.phase ≠ .done reply := by
        intro reply ended
        apply working reply
        rw [ended, actOrThrow_done]
      have step := spent_acts stage (actOrThrow_cases registrations answer call.phase) working started
      refine Or.inr ⟨started, ?_⟩
      rw [did]
      simp only [ownStep, beq_self_eq_true, if_pos]
      exact step
  | dies _ ended => exact ⟨_, ended, Or.inl ⟨_, rfl⟩⟩
  | waits _ _ others still did =>
    refine ⟨call, still, ?_⟩
    by_cases concluded : ∃ reply, call.phase = .done reply
    · exact Or.inl concluded
    · have apart : ownStep call.id turn = false := by
        cases turn with
        | advance advanced answer =>
          apply beq_false_of_ne
          rintro rfl
          exact others answer rfl
        | elsewhere | resize | receive | crash => rfl
      rw [did, apart]
      exact Or.inr ⟨fun reply ended => concluded ⟨reply, ended⟩, le_refl _⟩

/-- A run that has not ended has taken every step it was given. -/
theorem serving_spends {call : DecisionCall} {turns : List DecisionTurn}
    (serving : Serving ticketTypeId line callId registrations)
    (found : registrations.calls.find callId = some call)
    (nobody : Meets attend (NobodyJoins ticketTypeId) registrations turns) :
    ∃ ended, (run attend registrations turns).calls.find callId = some ended ∧
      ((∃ reply, ended.phase = .done reply) ∨ ((∀ reply, call.phase ≠ .done reply) ∧
        spent (registrations.deeds callId).tried.length call.phase +
            turns.countP (ownStep callId) ≤
          spent ((run attend registrations turns).deeds callId).tried.length ended.phase)) := by
  induction turns generalizing registrations call with
  | nil =>
    refine ⟨call, found, ?_⟩
    by_cases concluded : ∃ reply, call.phase = .done reply
    · exact Or.inl concluded
    · exact Or.inr ⟨fun reply ended => concluded ⟨reply, ended⟩, le_refl _⟩
  | cons turn rest ih =>
    obtain ⟨next, there, onward⟩ := attend_spends serving found turn
    obtain ⟨ended, last, spends⟩ := ih (attend_serving registrations turn serving nobody.1) there
      nobody.2
    refine ⟨ended, last, spends.imp_right ?_⟩
    rintro ⟨working, further⟩
    rcases onward with ⟨reply, concluded⟩ | ⟨started, step⟩
    · exact absurd concluded (working reply)
    · rw [List.countP_cons]
      exact ⟨started, by simp only [run_cons]; omega⟩

end Runs

/-! ## A run that served everybody it tried -/

def asksEvent : DecisionPhase → Prop
  | .findOwnedById _ => True
  | _ => False

/-- The event the call reads offers freed places to its line. -/
def OffersItself (callId : Nat) (registrations : Registrations) : DecisionTurn → Prop
  | .advance advanced answer => ∀ call ∈ registrations.calls.rows, call.id = advanced →
      advanced = callId → asksEvent call.phase → answer.event.any autoOffersWaitlist = true
  | _ => True

/-- Where a run ended without a failure and nobody was left unserved, nobody is left in line. -/
structure Exhausting (ticketTypeId : Nat) (line : List Order) (callId : Nat)
    (registrations : Registrations) : Prop
    extends Serving ticketTypeId line callId registrations where
  rest : ∀ call, registrations.calls.find callId = some call →
    ∀ offered, call.phase = .done (.newPlaces offered false) →
      triedIds (registrations.deeds callId) = (registrations.deeds callId).gave →
        lineFor registrations.service.office.db ticketTypeId = []

section Exhausted

variable {registrations : Registrations} {ticketTypeId : Nat} {line : List Order} {callId : Nat}

theorem lineFor_shrinks {db after : Db} (shrinks : LineShrinks ticketTypeId db after)
    (empty : lineFor db ticketTypeId = []) : lineFor after ticketTypeId = [] := by
  apply List.eq_nil_iff_forall_not_mem.mpr
  intro order member
  obtain ⟨stored, inLine⟩ := mem_lineFor.mp member
  obtain ⟨old, stored', _, before⟩ := shrinks.line order stored inLine
  have still := mem_lineFor.mpr ⟨stored', before⟩
  rw [empty] at still
  cases still

/-- A run ends without a failure, nobody left unserved, only where it read that nobody is in line. -/
theorem acts_exhausts {db : Db} {now : Instant} {phase : DecisionPhase} {acted : DecisionActed}
    {deeds : Deeds} (lined : Lined db) (stage : Stage ticketTypeId deeds phase)
    (inTurn : InTurn ticketTypeId line deeds db) (acts : DecisionActs db now phase acted)
    (started : ∀ reply, phase ≠ .done reply) (opens : ¬ asksEvent phase) {offered : Nat}
    (concluded : acted.phase = .done (.newPlaces offered false))
    (all : triedIds (remember deeds acted) = (remember deeds acted).gave) :
    lineFor db ticketTypeId = [] := by
  cases stage with
  | asks => exact absurd trivial opens
  | reads =>
    cases acts with
    | led _ _ leads =>
      cases leads with
      | lineEnded _ interrupted why =>
        cases concluded
        rcases why rfl with nobody | ⟨entry, front, served⟩
        · exact (frontOfLine_eq_none lined).mp nobody
        · -- Whoever was served has left the line.
          obtain ⟨stored, inLine⟩ := mem_lineFor.mp (frontOfLine_first lined front).1
          obtain ⟨row, found, left⟩ := inTurn.gone _ served
          have here : db.orders.find entry.order.id = some entry.order := Table.find_key stored
          cases here.symm.trans found
          exact absurd inLine.1 left
      | ended _ _ _ unserved => exact absurd rfl (unserved _)
    | tried _ _ _ _ _ serves =>
      rw [serves] at concluded
      split at concluded <;> cases concluded
    | swept _ _ _ _ unserved => exact absurd rfl (unserved _)
  | serves _ orderId works errand last =>
    have unserved (gaveNone : acted.gave = none) (triedNone : acted.tried = none) : False := by
      obtain ⟨gave, tried⟩ := remember_idle deeds gaveNone triedNone
      rw [gave, tried, last] at all
      simp at all
    cases acts with
    | led | swept | heldOffer | heldPlace | gaveBack | released => exact (unserved rfl rfl).elim
    | tried =>
      rcases errand with mine | letting
      · cases mine
      · exact letting.elim
    | approved _ approvedFor _ _ settlement _ _ _ outcome =>
      cases approvedFor with
      | organizer => cases works
      | line =>
        simp [afterApproval, approvalResult, outcome, APPROVAL_OUTCOMES] at concluded
    | offered _ offeredFor =>
      cases offeredFor with
      | organizer => cases works
      | line => simp [afterOffer] at concluded
  | ends reply => exact absurd rfl (started reply)

theorem attend_exhausting (registrations : Registrations) (turn : DecisionTurn)
    (exhausting : Exhausting ticketTypeId line callId registrations)
    (conditions : NobodyJoins ticketTypeId registrations turn ∧
      OffersItself callId registrations turn) :
    Exhausting ticketTypeId line callId (attend registrations turn) := by
  obtain ⟨nobody, offers⟩ := conditions
  refine ⟨attend_serving registrations turn exhausting.toServing nobody, ?_⟩
  obtain ⟨call, found, stage, _⟩ := exhausting.at'
  obtain ⟨member, rfl⟩ : call ∈ registrations.calls ∧ call.id = callId := Table.find_eq_some.mp found
  have shrinks := attend_lineShrinks registrations turn exhausting.lined.refs nobody
  intro own located offered concluded all
  cases attend_passes found turn with
  | acts answer _ _ moved did =>
    cases moved.symm.trans located
    rw [did] at all
    by_cases ended : ∃ reply, call.phase = .done reply
    · obtain ⟨reply, ended⟩ := ended
      rw [ended, actOrThrow_done] at concluded all
      cases concluded
      refine lineFor_shrinks shrinks (exhausting.rest call found offered ended ?_)
      simpa [remember] using all
    · have started : ∀ reply, call.phase ≠ .done reply := fun reply concluded => ended ⟨reply, concluded⟩
      by_cases asks : asksEvent call.phase
      · -- The event offers freed places to its line, so this step opens the line or throws.
        have auto := offers call member rfl rfl asks
        cases phase : call.phase with
        | findOwnedById ticketTypeId =>
          simp only [phase, actOrThrow] at concluded
          split at concluded
          · cases concluded
          · simp [actOn, auto] at concluded
        | _ =>
          rw [phase] at asks
          exact asks.elim
      · exact lineFor_shrinks shrinks (acts_exhausts exhausting.lined stage exhausting.inTurn
          (actOrThrow_cases registrations answer call.phase) started asks concluded all)
  | dies _ ended =>
    cases ended.symm.trans located
    cases concluded
  | waits _ _ _ still did =>
    cases still.symm.trans located
    rw [did] at all
    exact lineFor_shrinks shrinks (exhausting.rest call found offered concluded all)

end Exhausted

/-! ## Every run -/

/-- An event before its first order, and a desk that has not served a call. -/
structure Opened (registrations : Registrations) : Prop where
  opening : Opening registrations.service.office.db
  unused : ∀ callId, registrations.deeds callId = {}

/-- A call that has not come in has done nothing. -/
structure Unserved (registrations : Registrations) : Prop where
  lined : Lined registrations.service.office.db
  fresh : ∀ callId, registrations.calls.next ≤ callId → registrations.deeds callId = {}

/-- The numbers of the line, and its front. -/
structure NumbersLine (db : Db) (ticketTypeId : Nat) : Prop where
  numbers : ((lineFor db ticketTypeId).map fun order => waitlistAhead db order.id).Perm
    (List.range (lineFor db ticketTypeId).length)
  front : ∀ entry, frontOfLine db ticketTypeId = some entry →
    entry.order ∈ lineFor db ticketTypeId ∧ waitlistAhead db entry.order.id = 0
  nobody : frontOfLine db ticketTypeId = none ↔ lineFor db ticketTypeId = []

/-- What a call did for a line that nobody joined, by the numbers the line had when it came in. -/
structure FirstServed (ticketTypeId : Nat) (before after : Registrations) (callId : Nat) : Prop where
  drawn : ∀ entry ∈ (after.deeds callId).tried,
    ∃ order ∈ lineFor before.service.office.db ticketTypeId, order.id = entry.order.id
  inOrder : ((after.deeds callId).tried.map fun entry =>
    waitlistAhead before.service.office.db entry.order.id).Pairwise (· < ·)
  unskipped : ∀ entry ∈ (after.deeds callId).tried,
    ∀ order ∈ lineFor after.service.office.db ticketTypeId,
      waitlistAhead before.service.office.db entry.order.id ≤
        waitlistAhead before.service.office.db order.id
  stops : triedIds (after.deeds callId) = (after.deeds callId).gave ∨
    ∃ orderId, triedIds (after.deeds callId) = (after.deeds callId).gave ++ [orderId]
  left : ∀ orderId ∈ (after.deeds callId).gave, ∃ order,
    after.service.office.db.orders.find orderId = some order ∧ order.status ≠ .waitlisted
  covered : ∀ orderId ∈ (after.deeds callId).gave,
    Covered ticketTypeId (after.deeds callId) after.service.office.db orderId
  counted : ∀ call ∈ after.calls.rows, call.id = callId → ∀ reply, call.phase = .done reply →
    reply = .crashed ∨
      ∃ interrupted, reply = .newPlaces (after.deeds callId).gave.length interrupted

section Served

variable {registrations : Registrations} {ticketTypeId : Nat} {callId : Nat}

theorem opened_unserved (opened : Opened registrations) : Unserved registrations where
  lined :=
    { refs := opened.opening.references
      typed := fun _ stored =>
        absurd stored (Table.not_mem_of_empty opened.opening.orderItems _) }
  fresh := fun callId _ => opened.unused callId

theorem attend_unserved (registrations : Registrations) (turn : DecisionTurn)
    (unserved : Unserved registrations) : Unserved (attend registrations turn) := by
  refine ⟨attend_lined registrations turn unserved.lined, fun callId new => ?_⟩
  cases turn with
  | elsewhere | resize => exact unserved.fresh callId new
  | crash =>
    refine unserved.fresh callId ?_
    simpa [attend, moveDecision] using new
  | receive =>
    refine unserved.fresh callId ?_
    have grown : registrations.calls.next + 1 ≤ callId := by simpa [attend] using new
    omega
  | advance advanced answer =>
    simp only [attend] at new ⊢
    split at new
    next call found =>
      have issued : call.id < registrations.calls.next :=
        Table.key_lt_next (Table.find_eq_some.mp found).1
      have next : registrations.calls.next ≤ callId := by
        simpa [advanceDecision, moveDecision] using new
      have other : callId ≠ call.id := by omega
      simp only [advanceDecision, if_neg other]
      exact unserved.fresh callId next
    next => exact unserved.fresh callId new

theorem numbersLine (lined : Lined registrations.service.office.db) :
    NumbersLine registrations.service.office.db ticketTypeId where
  numbers := waitlistAhead_numbers lined
  front := fun _ front => frontOfLine_first lined front
  nobody := frontOfLine_eq_none lined

/-- A run that has just been asked for. -/
theorem received_serving (unserved : Unserved registrations) :
    Serving ticketTypeId (lineFor registrations.service.office.db ticketTypeId)
      registrations.calls.next (attend registrations (.receive (.offerNewPlaces ticketTypeId))) := by
  have fresh : registrations.deeds registrations.calls.next = {} := unserved.fresh _ (le_refl _)
  refine
    { lined := unserved.lined
      inTurn := ?_
      at' := ⟨⟨registrations.calls.next, .findOwnedById ticketTypeId⟩, ?_, .asks fresh, trivial⟩ }
  · change InTurn ticketTypeId _ (registrations.deeds registrations.calls.next)
      registrations.service.office.db
    rw [fresh]
    exact
      { within := fun order stored inLine =>
          ⟨order, mem_lineFor.mpr ⟨stored, inLine⟩, rfl⟩
        drawn := fun _ tried => by cases tried
        sorted := List.Pairwise.nil
        ahead := fun _ tried => by cases tried
        gone := fun _ gave => by cases gave
        covered := fun _ gave => by cases gave }
  · simp only [attend]
    rw [Table.find_insert, if_pos rfl]
    rfl

/-- The place of somebody in line is how many are ahead. -/
theorem waitlistAhead_place {db : Db} (lined : Lined db) {order : Order}
    (member : order ∈ lineFor db ticketTypeId) :
    ∃ entry ∈ waitlistFor db ticketTypeId, entry.order = order ∧ waitlistAhead db order.id =
      ahead (fun other => other.order.place) (waitlistFor db ticketTypeId) order.place := by
  obtain ⟨entry, read, rfl⟩ := List.mem_map.mp ((waitlistFor_perm ticketTypeId lined).symm.subset member)
  exact ⟨entry, read, rfl, waitlistAhead_eq lined read⟩

/-- Numbers go by the places in line. -/
theorem waitlistAhead_lt {db : Db} (lined : Lined db) {first second : Order}
    (member : first ∈ lineFor db ticketTypeId) (member' : second ∈ lineFor db ticketTypeId)
    (before : first.place < second.place) :
    waitlistAhead db first.id < waitlistAhead db second.id := by
  obtain ⟨entry, read, rfl, place⟩ := waitlistAhead_place lined member
  obtain ⟨_, _, _, place'⟩ := waitlistAhead_place lined member'
  rw [place, place']
  exact ahead_lt_ahead read before

theorem serving_firstServed {before after : Registrations}
    (lined : Lined before.service.office.db)
    (serving : Serving ticketTypeId (lineFor before.service.office.db ticketTypeId) callId after) :
    FirstServed ticketTypeId before after callId := by
  obtain ⟨call, found, stage, _⟩ := serving.at'
  have inTurn := serving.inTurn
  have drawn : ∀ entry ∈ (after.deeds callId).tried,
      ∃ order ∈ lineFor before.service.office.db ticketTypeId,
        order.id = entry.order.id ∧ order.place = entry.order.place := by
    intro entry tried
    obtain ⟨first, member, same⟩ := inTurn.drawn entry tried
    exact ⟨first, member, Order.place_id same, same⟩
  refine
    { drawn := ?_
      inOrder := ?_
      unskipped := ?_
      stops := ?_
      left := inTurn.gone
      covered := inTurn.covered
      counted := ?_ }
  · intro entry tried
    obtain ⟨first, member, same, _⟩ := drawn entry tried
    exact ⟨first, member, same⟩
  · have sorted := inTurn.sorted
    rw [List.pairwise_map] at sorted ⊢
    refine sorted.imp_of_mem ?_
    intro first second tried tried' earlier
    obtain ⟨order, member, same, place⟩ := drawn first tried
    obtain ⟨order', member', same', place'⟩ := drawn second tried'
    rw [← same, ← same']
    exact waitlistAhead_lt lined member member' (by rwa [place, place'])
  · intro entry tried order waits
    obtain ⟨stored, inLine⟩ := mem_lineFor.mp waits
    obtain ⟨first, member, same, place⟩ := drawn entry tried
    obtain ⟨old, member', place'⟩ := inTurn.within order stored inLine
    rw [← same, ← Order.place_id place']
    rcases lt_or_eq_of_le (inTurn.ahead entry tried order stored inLine) with earlier | equal
    · exact le_of_lt (waitlistAhead_lt lined member member' (by rwa [place, place']))
    · have itself : first.id = old.id :=
        Order.place_id (place.trans (equal.trans place'.symm))
      rw [itself]
  · exact stage_stops stage
  · intro own member mine reply concluded
    have located : after.calls.find callId = some own := by
      rw [← mine]
      exact Table.find_key member
    cases found.symm.trans located
    rw [concluded] at stage
    cases stage with
    | serves _ _ works => cases works
    | ends _ _ counts => exact counts

/-- No run tries more registrations than stood in line. -/
theorem serving_tried {line : List Order}
    (serving : Serving ticketTypeId line callId registrations) :
    (registrations.deeds callId).tried.length ≤ line.length := by
  have distinct : ((registrations.deeds callId).tried.map fun entry => entry.order.place).Nodup :=
    serving.inTurn.sorted.imp fun earlier => ne_of_lt earlier
  have drawn : ((registrations.deeds callId).tried.map fun entry => entry.order.place) ⊆
      line.map Order.place := by
    intro place member
    obtain ⟨entry, tried, rfl⟩ := List.mem_map.mp member
    obtain ⟨first, stood, same⟩ := serving.inTurn.drawn entry tried
    exact List.mem_map.mpr ⟨first, stood, same⟩
  have fewer := (List.subperm_of_subset distinct drawn).length_le
  simpa using fewer

/-- The waitlist is first come, first served. -/
theorem waitlist_in_order {start : Registrations} (opened : Opened start)
    (history : List DecisionTurn) (ticketTypeId : Nat) :
    let before := run attend start history
    let callId := before.calls.next
    let asked := attend before (.receive (.offerNewPlaces ticketTypeId))
    NumbersLine before.service.office.db ticketTypeId ∧
      ∀ turns, Meets attend (NobodyJoins ticketTypeId) asked turns →
        FirstServed ticketTypeId before (run attend asked turns) callId ∧
        (4 * (lineFor before.service.office.db ticketTypeId).length + 2 ≤
            turns.countP (ownStep callId) →
          ∃ call ∈ (run attend asked turns).calls.rows, call.id = callId ∧
            ∃ reply, call.phase = .done reply) ∧
        (Meets attend (OffersItself callId) asked turns →
          ∀ call ∈ (run attend asked turns).calls.rows, call.id = callId →
            ∀ offered, call.phase = .done (.newPlaces offered false) →
              triedIds ((run attend asked turns).deeds callId) =
                ((run attend asked turns).deeds callId).gave →
                lineFor (run attend asked turns).service.office.db ticketTypeId = []) := by
  intro before callId asked
  have unserved : Unserved before :=
    run_invariant_always attend_unserved history (opened_unserved opened)
  have received : Serving ticketTypeId (lineFor before.service.office.db ticketTypeId) callId asked :=
    received_serving unserved
  refine ⟨numbersLine unserved.lined, fun turns nobody => ?_⟩
  have serving := run_invariant attend_serving received nobody
  refine ⟨serving_firstServed unserved.lined serving, ?_, ?_⟩
  · intro enough
    obtain ⟨first, found, _⟩ := received.at'
    obtain ⟨ended, last, concluded | ⟨_, further⟩⟩ := serving_spends received found nobody
    · obtain ⟨member, mine⟩ := Table.find_eq_some.mp last
      exact ⟨ended, member, mine, concluded⟩
    · have tried := serving_tried serving
      have most := spent_le ((run attend asked turns).deeds callId).tried.length ended.phase
      omega
  · intro offers call member mine
    have begun : Exhausting ticketTypeId (lineFor before.service.office.db ticketTypeId) callId
        asked := by
      refine ⟨received, fun own located offered concluded => ?_⟩
      obtain ⟨first, found, stage, _⟩ := received.at'
      cases found.symm.trans located
      have asks : asked.calls.find callId =
          some ⟨callId, .findOwnedById ticketTypeId⟩ := by
        simp only [asked, attend]
        rw [Table.find_insert, if_pos rfl]
        rfl
      cases asks.symm.trans located
      cases concluded
    have exhausting := run_invariant attend_exhausting begun (nobody.and offers)
    refine exhausting.rest call ?_
    rw [← mine]
    exact Table.find_key member

end Served

/-! ## Two in line, and room for both -/

theorem desk_opened : Opened desk := ⟨boxOffice_opening, fun _ => rfl⟩

/-- Two wait for the one general place, the first of them for free; then there are two. -/
def queueing : List DecisionTurn :=
  elsewhere [.checkout (.joinWaitlist (booking "first" 0 0 none [] 0 false).toOrderInsert) trivial,
    .checkout (.joinWaitlist (booking "second" 0 0 none [] 1000 false).toOrderInsert) trivial] ++
    [.resize 0 2]

/-- Every step of the run, and one more. -/
def serveQueue : List DecisionTurn :=
  .advance 0 { event := some ⟨true, .ga, false⟩ } :: List.replicate 9 (.advance 0 {})

instance : (phase : DecisionPhase) → Decidable (asksEvent phase)
  | .findOwnedById _ => isTrue trivial
  | .mustFind _ _ | .orderById _ _ | .settleOrder _ _ | .waitlistEntry _ _ | .holdForOffer _ _
  | .markOffered _ _ _ _ _ | .giveBack _ _ _ | .frontOfLine _ | .confirmFree _ _
  | .releasePlace _ _ _ | .done _ => isFalse id

instance (callId : Nat) (registrations : Registrations) : (turn : DecisionTurn) →
    Decidable (OffersItself callId registrations turn)
  | .advance _ _ => inferInstanceAs (Decidable (∀ _ ∈ _, _))
  | .elsewhere _ _ | .resize _ _ | .receive _ | .crash _ => isTrue trivial

instance (ticketTypeId : Nat) (registrations : Registrations) : (turn : DecisionTurn) →
    Decidable (NobodyJoins ticketTypeId registrations turn)
  | .elsewhere (.checkout (.joinWaitlist _) _) _ => inferInstanceAs (Decidable (_ → _))
  | .elsewhere (.checkout (.holdSeats _) _) _ | .elsewhere (.checkout (.holdQuantity _) _) _
  | .elsewhere (.checkout (.release _) _) _ | .elsewhere (.checkout (.releaseUnattached _) _) _
  | .elsewhere (.checkout .expireStale _) _ | .elsewhere (.checkout (.placeOrder _) _) _
  | .elsewhere (.checkout (.markOffered _) _) _ | .elsewhere (.checkout (.settleOrder _) _) _
  | .elsewhere (.checkout (.rejectOrder _) _) _ | .elsewhere (.checkout (.refundOrder _ _) _) _
  | .elsewhere (.checkout (.releaseHoldsForOrder _) _) _
  | .elsewhere (.checkout (.recordLedger _) _) _ | .elsewhere (.checkout (.enqueue _) _) _
  | .elsewhere (.checkout (.tick _) _) _ | .elsewhere (.invoicing _) _
  | .elsewhere (.receive _) _ | .elsewhere (.advance _ _) _ | .elsewhere (.crash _) _
  | .resize _ _ | .receive _ | .advance _ _ | .crash _ => isTrue trivial

/-- The desk once the run is asked for, and once it is over. -/
def queueAsked : Registrations :=
  attend (run attend desk queueing) (.receive (.offerNewPlaces 0))

def queueServed : Registrations := run attend queueAsked serveQueue

theorem queueServed_gave :
    (queueServed.deeds (run attend desk queueing).calls.next).gave = [0, 1] ∧
      triedIds (queueServed.deeds (run attend desk queueing).calls.next) = [0, 1] := by
  decide +kernel

theorem queueServed_over : ∃ call ∈ queueServed.calls.rows,
    call.id = (run attend desk queueing).calls.next ∧ call.phase = .done (.newPlaces 2 false) := by
  decide +kernel

theorem waitlist_in_order_desk :
    (queueServed.deeds (run attend desk queueing).calls.next).gave = [0, 1] ∧
      NumbersLine (run attend desk queueing).service.office.db 0 ∧
      FirstServed 0 (run attend desk queueing) queueServed (run attend desk queueing).calls.next ∧
      lineFor queueServed.service.office.db 0 = [] ∧
      ∃ call ∈ queueServed.calls.rows, call.id = (run attend desk queueing).calls.next ∧
        ∃ reply, call.phase = .done reply := by
  have nobody : Meets attend (NobodyJoins 0) queueAsked serveQueue := by decide +kernel
  have offers : Meets attend (OffersItself (run attend desk queueing).calls.next) queueAsked
      serveQueue := by decide +kernel
  have enough : 4 * (lineFor (run attend desk queueing).service.office.db 0).length + 2 ≤
      serveQueue.countP (ownStep (run attend desk queueing).calls.next) := by decide +kernel
  obtain ⟨numbers, every⟩ := waitlist_in_order desk_opened queueing 0
  obtain ⟨served, ends, empties⟩ := every serveQueue nobody
  obtain ⟨call, member, mine, counted⟩ := queueServed_over
  obtain ⟨gave, tried⟩ := queueServed_gave
  exact ⟨gave, numbers, served, empties offers call member mine 2 counted (tried.trans gave.symm),
    ends enough⟩

end EventaApi.Guarantees
