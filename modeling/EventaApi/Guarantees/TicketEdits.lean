import EventaApi.Guarantees.TicketForms

/-!
# Edits and removals of types that sell

A request decides on the row it loaded, and a sale counts no version. So an edit may reprice a
type that has sold since, an erasure may find its type sold and answer all the same, and each of
an event's last two types may be removed while the other is still counted.
-/
namespace EventaApi.Guarantees
open Library Source

/-! ## What is asked of edits -/

/-- What is sold keeps its price and its free flag. -/
def PricesKept (desk after : SeatingDesk) : Prop :=
  ∀ row ∈ desk.workspace.db.ticketTypes, 0 < row.sold →
    ∀ now ∈ after.workspace.db.ticketTypes.find row.id,
      now.priceSatang = row.priceSatang ∧ now.isFree = row.isFree

def SoldKept (desk after : SeatingDesk) : Prop :=
  ∀ row ∈ desk.workspace.db.ticketTypes,
    ∀ now ∈ after.workspace.db.ticketTypes.find row.id, now.sold = row.sold

def HasLiveType (desk : SeatingDesk) (eventId : Nat) : Prop :=
  liveTiers desk.workspace.db eventId ≠ []

def LiveKept (desk after : SeatingDesk) : Prop :=
  ∀ eventId, HasLiveType desk eventId → HasLiveType after eventId

/-- A type that was answered to be removed is gone, and one that was retired is found, and not
live. -/
def answerHolds (desk : SeatingDesk) : TicketPhase → Prop
  | .done (.removed ticketId) => desk.workspace.db.ticketTypes.find ticketId = none
  | .done (.retired ticketId) =>
    ∃ row ∈ desk.workspace.db.ticketTypes.find ticketId, row.deletedAt ≠ none
  | _ => True

section Asked

variable (texts : EventTexts)

structure RespectsSales (start : TicketPool) (turns : List TicketTurn) : Prop where
  frozen : Meets (ticketRequests texts).serve
    (fun pool turn => PricesKept pool.shared ((ticketRequests texts).serve pool turn).shared)
    start turns
  /-- No step of a request sells. -/
  sold : Meets (ticketRequests texts).serve
    (Handler.Guarded (fun desk input phase => SoldKept desk (actOnTickets desk input phase).1)
      fun _ _ => True)
    start turns
  /-- An event that once has a live type has one ever after. -/
  live : ∀ eventId first rest, turns = first ++ rest →
    let before := run (ticketRequests texts).serve start first
    HasLiveType before.shared eventId →
      Throughout (ticketRequests texts).serve (fun pool => HasLiveType pool.shared eventId) before
        rest
  answered : Throughout (ticketRequests texts).serve
    (fun pool => ∀ job ∈ pool.jobs, answerHolds pool.shared job.phase) start turns

end Asked

/-- Whatever price and free flag the edit sends are those of the row. -/
def SendsTerms (input : TicketPatch) (row : TicketType) : Prop :=
  (∀ price ∈ (buildTicketValues input).priceSatang.join, price = row.priceSatang) ∧
    ∀ free ∈ input.isFree.join, free = row.isFree

instance (input : TicketPatch) : DecidablePred (SendsTerms input) :=
  fun _ => inferInstanceAs (Decidable ((∀ _ ∈ _, _) ∧ ∀ _ ∈ _, _))

/-- The row's event has another live type. -/
def HasSibling (db : Db) (row : TicketType) : Prop :=
  ∃ other ∈ db.ticketTypes.rows, other.eventId = row.eventId ∧ other.deletedAt = none ∧
    other.id ≠ row.id

instance (db : Db) : DecidablePred (HasSibling db) :=
  fun _ => inferInstanceAs (Decidable (∃ _ ∈ db.ticketTypes.rows, _))

/-- An edit of a type that was loaded unsold finds it unsold, or sends the terms it has. A removal
that goes through finds unsold what it loaded unsold, and takes no event's last live type. -/
def sparesSales (desk : SeatingDesk) (_ : Unit) : TicketPhase → Prop
  | .save ticket input status => ticket.sold = 0 →
    ∀ row ∈ desk.workspace.db.ticketTypes.find ticket.id,
      GoesThrough ticket (buildTicketValues input.toTicketPatch) status row → 0 < row.sold →
        SendsTerms input.toTicketPatch row
  | .remove ticket => seatsOfTicketType desk.workspace.db ticket.id = 0 →
    ∀ row ∈ desk.workspace.db.ticketTypes.find ticket.id,
      (ticket.sold = 0 → row.sold = 0) ∧
        (row.deletedAt = none → (ticket.sold = 0 → ¬ IsReferenced desk.workspace.db ticket.id) →
          HasSibling desk.workspace.db row)
  | _ => True

instance (desk : SeatingDesk) (input : Unit) : DecidablePred (sparesSales desk input)
  | .save ticket _ _ => inferInstanceAs (Decidable (_ → ∀ _ ∈
    desk.workspace.db.ticketTypes.find ticket.id, _ → _ → _))
  | .remove ticket => inferInstanceAs (Decidable (_ → ∀ _ ∈
    desk.workspace.db.ticketTypes.find ticket.id, (_ → _) ∧ (_ → (_ → _) → _)))
  | .first _ | .forEvent _ _ | .seats _ _ | .nameFree _ _ _ | .insert _ | .load _ _ _ _
  | .rename _ _ _ | .setStatus _ _ | .count _ | .holds _ | .copies _ _ | .done _ => isTrue trivial

def SparesSales : TicketPool → TicketTurn → Prop := Handler.Guarded sparesSales fun _ _ => True

instance (pool : TicketPool) (turn : TicketTurn) : Decidable (SparesSales pool turn) :=
  inferInstanceAs (Decidable (Handler.Guarded _ _ pool turn))

/-- What is sold of a type is sold on an order's line. -/
def SoldLined (db : Db) : Prop := ∀ tier ∈ db.ticketTypes, 0 < tier.sold → HasLine db tier.id

/-- No request is in flight, types are formed, and what is sold is on a line. -/
structure SalesAtRest (pool : TicketPool) : Prop where
  jobs : pool.jobs.rows = []
  formed : ∀ tier ∈ pool.shared.workspace.db.ticketTypes, Formed tier
  lined : SoldLined pool.shared.workspace.db

/-! ## What stays -/

/-- The type is there for good: an order's line refers to it. -/
structure Lasting (db : Db) (ticketId : Nat) : Prop where
  lined : HasLine db ticketId
  there : (db.ticketTypes.find ticketId).isSome

/-- The row is as live as it was, and on the same event. -/
structure SameLife (row now : TicketType) : Prop where
  event : now.eventId = row.eventId
  deletedAt : now.deletedAt = row.deletedAt

/-- It is sold for the same price too. -/
structure SameDeal (row now : TicketType) : Prop extends SameLife row now where
  price : now.priceSatang = row.priceSatang
  free : now.isFree = row.isFree

section Staying

variable {texts : EventTexts} {desk after : SeatingDesk} {phase : TicketPhase}

theorem SameLife.refl (row : TicketType) : SameLife row row := ⟨rfl, rfl⟩

theorem SameDeal.refl (row : TicketType) : SameDeal row row := ⟨.refl row, rfl, rfl⟩

theorem pricesKept_of_sameDeal (persists : Table.Persists SameDeal
    desk.workspace.db.ticketTypes after.workspace.db.ticketTypes) : PricesKept desk after := by
  intro row stored _ now found
  have sameDeal := persists.find stored found
  exact ⟨sameDeal.price, sameDeal.free⟩

theorem hasLiveType_iff {eventId : Nat} : HasLiveType desk eventId ↔
    ∃ row ∈ desk.workspace.db.ticketTypes, row.eventId = eventId ∧ row.deletedAt = none :=
  Table.select_ne_nil

/-- Rows that stay where they are keep their events a live type. -/
theorem liveKept_of_sameLife (persists : Table.Persists SameLife
    desk.workspace.db.ticketTypes after.workspace.db.ticketTypes) : LiveKept desk after := by
  intro eventId live
  obtain ⟨row, stored, own, alive⟩ := hasLiveType_iff.mp live
  obtain ⟨now, found, sameLife⟩ := persists row stored
  exact hasLiveType_iff.mpr ⟨now, (Table.find_eq_some.mp found).1, sameLife.event.trans own,
    sameLife.deletedAt.trans alive⟩

/-- A step that neither edits nor removes touches no row. -/
theorem act_sameDeal (edits : ∀ ticket input status, phase ≠ .save ticket input status)
    (removes : ∀ ticket, phase ≠ .remove ticket) :
    Table.Persists SameDeal desk.workspace.db.ticketTypes
      (actOnTickets desk () phase).1.workspace.db.ticketTypes := by
  have inserted (values : NewTicketValues) (next : TicketType → TicketPhase) :
      Table.Persists SameDeal desk.workspace.db.ticketTypes
        (insertTier desk values next).1.workspace.db.ticketTypes := by
    unfold insertTier
    split
    · exact .insert SameDeal.refl
    · exact .of_eq rfl SameDeal.refl
  cases phase with
  | insert values => exact inserted values _
  | save ticket input status => exact absurd rfl (edits ticket input status)
  | setStatus ticket status =>
    change Table.Persists SameDeal desk.workspace.db.ticketTypes
      (updateTier desk ticket {} status _).1.workspace.db.ticketTypes
    rcases updateTier_cases desk ticket {} status
      (fun row => .forEvent row.eventId (.respond row)) with ⟨same, _⟩ | ⟨_, _, _, wrote⟩
    · rw [same]
      exact .of_eq rfl SameDeal.refl
    · rw [wrote]
      exact .update SameDeal.refl fun row _ _ => ⟨⟨rfl, rfl⟩, rfl, rfl⟩
  | remove ticket => exact absurd rfl (removes ticket)
  | copies destEventId rows =>
    cases rows with
    | nil => exact .of_eq rfl SameDeal.refl
    | cons row rest => exact inserted _ _
  | first | forEvent | seats | nameFree | load | rename | count | holds | done =>
    exact .of_eq rfl SameDeal.refl

/-- An edit takes no type from its event. -/
theorem act_sameLife (removes : ∀ ticket, phase ≠ .remove ticket) :
    Table.Persists SameLife desk.workspace.db.ticketTypes
      (actOnTickets desk () phase).1.workspace.db.ticketTypes := by
  by_cases edits : ∀ ticket input status, phase ≠ .save ticket input status
  · exact (act_sameDeal edits removes).mono fun _ _ sameDeal => sameDeal.toSameLife
  · push Not at edits
    obtain ⟨ticket, input, status, rfl⟩ := edits
    change Table.Persists SameLife desk.workspace.db.ticketTypes
      (updateTier desk ticket (buildTicketValues input.toTicketPatch) status
        _).1.workspace.db.ticketTypes
    rcases updateTier_cases desk ticket (buildTicketValues input.toTicketPatch) status
      (fun row => .done (.ticket row)) with ⟨same, _⟩ | ⟨_, _, _, wrote⟩
    · rw [same]
      exact .of_eq rfl SameLife.refl
    · rw [wrote]
      exact .update SameLife.refl fun row _ _ => ⟨rfl, rfl⟩

theorem act_orderItems (phase : TicketPhase) :
    (actOnTickets desk () phase).1.workspace.db.orderItems = desk.workspace.db.orderItems := by
  have inserted (values : NewTicketValues) (next : TicketType → TicketPhase) :
      (insertTier desk values next).1.workspace.db.orderItems =
        desk.workspace.db.orderItems := by
    unfold insertTier
    split <;> rfl
  have updated (ticket : TicketType) (values : TicketPatch) (status : TicketStatus)
      (next : TicketType → TicketPhase) :
      (updateTier desk ticket values status next).1.workspace.db.orderItems =
        desk.workspace.db.orderItems := by
    rcases updateTier_cases desk ticket values status next with ⟨same, _⟩ | ⟨_, _, _, wrote⟩
    · rw [same]
    · rw [wrote]
  cases phase with
  | insert values => exact inserted values _
  | save ticket input status => exact updated ticket _ status _
  | setStatus ticket status => exact updated ticket _ status _
  | remove ticket =>
    change (removeTier desk ticket).1.workspace.db.orderItems = _
    rcases removeTier_cases desk ticket with
      ⟨same, _⟩ | ⟨_, _, _, after, deleted, erased⟩ | ⟨_, _, retired⟩
    · rw [same]
    · rw [erased]
      rcases hardDeleteTier_cases deleted with ⟨_, rfl⟩ | ⟨_, _, rfl⟩
      · rfl
      · rfl
    · rw [retired]
      rfl
  | copies destEventId rows =>
    cases rows with
    | nil => rfl
    | cons row rest => exact inserted _ _
  | first | forEvent | seats | nameFree | load | rename | count | holds | done => rfl

/-- What a line refers to is neither erased nor lost. -/
theorem act_lasting (phase : TicketPhase) {ticketId : Nat}
    (lasting : Lasting desk.workspace.db ticketId) :
    Lasting (actOnTickets desk () phase).1.workspace.db ticketId := by
  have items : (actOnTickets desk () phase).1.workspace.db.orderItems =
      desk.workspace.db.orderItems := act_orderItems phase
  refine ⟨lasting.lined.grow fun item there => items ▸ there, ?_⟩
  by_cases removes : ∀ ticket, phase ≠ .remove ticket
  · exact (act_sameLife removes).isSome_find lasting.there
  · push Not at removes
    obtain ⟨ticket, rfl⟩ := removes
    change ((removeTier desk ticket).1.workspace.db.ticketTypes.find ticketId).isSome
    rcases removeTier_cases desk ticket with
      ⟨same, _⟩ | ⟨_, _, _, after, deleted, erased⟩ | ⟨_, _, retired⟩
    · rw [same]
      exact lasting.there
    · rw [erased]
      rcases hardDeleteTier_cases deleted with ⟨_, rfl⟩ | ⟨_, free, rfl⟩
      · exact lasting.there
      · obtain ⟨row, stored, named⟩ := Table.isSome_find.mp lasting.there
        refine Table.isSome_find.mpr ⟨row, Table.mem_delete.mpr ⟨stored, fun own => free ?_⟩, named⟩
        have mine : ticketId = ticket.id := named.symm.trans own.1
        exact Or.inl (mine ▸ lasting.lined)
    · rw [retired]
      exact Table.isSome_find_update.trans lasting.there

theorem change_sameDeal (event : TicketWorld) :
    Table.Persists SameDeal desk.workspace.db.ticketTypes
      (changeTickets texts desk event).workspace.db.ticketTypes := by
  cases event with
  | booking op =>
    obtain ⟨sold, resold⟩ := step_resold desk.workspace op
    refine resold.persists.mono fun row now same => ?_
    subst same
    exact ⟨⟨rfl, rfl⟩, rfl, rfl⟩
  | eventStep => exact .of_eq rfl SameDeal.refl
  | seatQuantities event input =>
    rcases seatQuantities_cases texts desk event input with
      same | ⟨plan, seatMapId, after, _, saved, _, written⟩
    · rw [same]
      exact .of_eq rfl SameDeal.refl
    · rw [written]
      rcases saved.types with ⟨_, same⟩ | ⟨counts, _, _, counted⟩
      · exact .of_eq same SameDeal.refl
      · rw [counted]
        exact .update SameDeal.refl fun row _ _ => ⟨⟨rfl, rfl⟩, rfl, rfl⟩

theorem change_lines (event : TicketWorld) : ∀ item ∈ desk.workspace.db.orderItems,
    item ∈ (changeTickets texts desk event).workspace.db.orderItems := by
  cases event with
  | booking op =>
    obtain ⟨sold, resold⟩ := step_resold desk.workspace op
    exact resold.items
  | eventStep => exact fun _ there => there
  | seatQuantities event input =>
    rcases seatQuantities_cases texts desk event input with
      same | ⟨plan, seatMapId, after, _, saved, _, written⟩
    · rw [same]
      exact fun _ there => there
    · rw [written]
      exact fun _ there => saved.orderItems ▸ there

theorem change_lasting (event : TicketWorld) {ticketId : Nat}
    (lasting : Lasting desk.workspace.db ticketId) :
    Lasting (changeTickets texts desk event).workspace.db ticketId :=
  ⟨lasting.lined.grow (change_lines event), (change_sameDeal event).isSome_find lasting.there⟩

end Staying

/-! ## What a request knows of sales -/

/-- What a removal knows of the type it loaded. -/
structure LoadedToRemove (db : Db) (ticket : TicketType) : Prop where
  known : ticket.id < db.ticketTypes.next
  lasting : ticket.sold ≠ 0 → Lasting db ticket.id

def KnowsSales (desk : SeatingDesk) : TicketPhase → Prop
  | .rename ticket _ input | .save ticket input _ => RecallsTier desk.workspace.db ticket ∧
    assertChangeAllowedAfterSales ticket input.priceSatang input.isFree = .ok ()
  | .forEvent _ (.delete ticket) | .seats _ (.delete ticket) | .count ticket | .holds ticket
  | .remove ticket => LoadedToRemove desk.workspace.db ticket
  | .done (.removed ticketId) => ticketId < desk.workspace.db.ticketTypes.next
  | .done (.retired ticketId) => Lasting desk.workspace.db ticketId
  | _ => True

section Knows

variable {texts : EventTexts} {desk after : SeatingDesk} {phase next : TicketPhase}

theorem KnowsSales.later (knows : KnowsSales desk phase)
    (carried : Table.Descends Carried desk.workspace.db.ticketTypes
      after.workspace.db.ticketTypes)
    (lasts : ∀ ticketId, Lasting desk.workspace.db ticketId →
      Lasting after.workspace.db ticketId) : KnowsSales after phase := by
  have recalled {ticket : TicketType} (recalls : RecallsTier desk.workspace.db ticket) :
      RecallsTier after.workspace.db ticket :=
    recalls.later (carried.mono fun _ _ row => row.moves)
  have loaded {ticket : TicketType} (loaded : LoadedToRemove desk.workspace.db ticket) :
      LoadedToRemove after.workspace.db ticket :=
    ⟨loaded.known.trans_le carried.next, fun sold => lasts _ (loaded.lasting sold)⟩
  cases phase with
  | rename | save => exact ⟨recalled knows.1, knows.2⟩
  | forEvent eventId use | seats event use =>
    cases use with
    | delete ticket => exact loaded knows
    | _ => trivial
  | count | holds | remove => exact loaded knows
  | done reply =>
    cases reply with
    | removed ticketId => exact Nat.lt_of_lt_of_le knows carried.next
    | retired ticketId => exact lasts _ knows
    | _ => trivial
  | _ => trivial

theorem GoesOn.knowsSales (goes : GoesOn desk phase next) (knows : KnowsSales desk phase)
    (lined : SoldLined desk.workspace.db) : KnowsSales desk next := by
  cases goes with
  | rests => exact knows
  | @asksEvent _ _ use others =>
    cases use with
    | delete ticket => exact absurd rfl (others ticket)
    | _ => trivial
  | counts found =>
    obtain ⟨stored, _⟩ := findTicketType_some found
    refine ⟨Table.key_lt_next stored, fun sold => ?_⟩
    exact ⟨lined _ stored (Nat.pos_of_ne_zero sold), Table.isSome_find_of_mem stored⟩
  | @asksSeats _ _ use =>
    cases use with
    | delete ticket => exact knows
    | _ => trivial
  | holds | counted | held => exact knows
  | renames found changes | saves found changes =>
    obtain ⟨stored, _⟩ := findTicketType_some found
    exact ⟨.of_mem stored, changes⟩
  | savesRenamed => exact knows
  | removed => exact knows.known
  | retired sold => exact knows.lasting sold
  | _ => trivial

theorem act_soldLined (phase : TicketPhase) (lined : SoldLined desk.workspace.db) :
    SoldLined (actOnTickets desk () phase).1.workspace.db := by
  have items : (actOnTickets desk () phase).1.workspace.db.orderItems =
      desk.workspace.db.orderItems := act_orderItems phase
  have stays {ticketId : Nat} (line : HasLine desk.workspace.db ticketId) :
      HasLine (actOnTickets desk () phase).1.workspace.db ticketId :=
    line.grow fun item there => items ▸ there
  intro tier member sold
  refine stays ?_
  cases act_wrote member with
  | @kept _ old _ stored restated =>
    rw [restated] at sold ⊢
    exact lined old stored sold
  | inserted | copied => exact absurd sold (Nat.lt_irrefl 0)
  | @saved _ old _ _ stored => exact lined old stored sold

theorem change_soldLined (event : TicketWorld) (lined : SoldLined desk.workspace.db) :
    SoldLined (changeTickets texts desk event).workspace.db := by
  have stays {ticketId : Nat} (line : HasLine desk.workspace.db ticketId) :
      HasLine (changeTickets texts desk event).workspace.db ticketId :=
    line.grow (change_lines event)
  cases event with
  | booking op =>
    obtain ⟨sold, resold⟩ := step_resold desk.workspace op
    intro tier member positive
    have older : Keyed.key tier < desk.workspace.db.ticketTypes.next :=
      resold.next ▸ Table.key_lt_next member
    obtain ⟨old, stored, _, same⟩ := resold.descends.rows tier member older
    subst same
    rcases resold.lined old stored positive with before | line
    · exact stays (lined old stored before)
    · exact line
  | eventStep => exact lined
  | seatQuantities event input =>
    intro tier member positive
    refine stays ?_
    rcases seatQuantities_cases texts desk event input with
      same | ⟨plan, seatMapId, after, _, saved, _, written⟩
    · rw [same] at member
      exact lined tier member positive
    · rw [written] at member
      rcases saved.types with ⟨_, same⟩ | ⟨counts, _, _, counted⟩
      · exact lined tier (same ▸ member) positive
      · change tier ∈ after.ticketTypes at member
        rw [counted] at member
        obtain ⟨old, stored, same⟩ := Table.mem_update.mp member
        have kept : tier.id = old.id ∧ tier.sold = old.sold := by
          rw [same]
          split <;> exact ⟨rfl, rfl⟩
        rw [kept.1]
        exact lined old stored (kept.2 ▸ positive)

/-- An answered removal stays true: no key comes back, and a type with a line is there for good. -/
theorem answerHolds_later (holds : answerHolds desk phase) (knows : KnowsSales desk phase)
    (carried : Table.Descends Carried desk.workspace.db.ticketTypes
      after.workspace.db.ticketTypes)
    (lasts : ∀ ticketId, Lasting desk.workspace.db ticketId →
      Lasting after.workspace.db ticketId) : answerHolds after phase := by
  cases phase with
  | done reply =>
    cases reply with
    | removed ticketId =>
      change after.workspace.db.ticketTypes.find ticketId = none
      cases found : after.workspace.db.ticketTypes.find ticketId with
      | none => rfl
      | some row =>
        obtain ⟨old, there, _⟩ := carried.find knows found
        cases there.symm.trans holds
    | retired ticketId =>
      obtain ⟨row, there, retired⟩ := holds
      obtain ⟨now, found⟩ := Option.isSome_iff_exists.mp (lasts _ knows).there
      obtain ⟨stored, named⟩ := Table.find_eq_some.mp there
      obtain ⟨old, oldFound, moved⟩ := carried.find (named ▸ Table.key_lt_next stored) found
      cases there.symm.trans oldFound
      exact ⟨now, found, moved.retired retired⟩
    | _ => trivial
  | _ => trivial

end Knows

/-! ## One edit -/

section Edits

variable {desk : SeatingDesk} {phase next : TicketPhase}

theorem getD_eq_self {α : Type} {sent : Option α} {value : α} :
    sent.getD value = value ↔ ∀ other ∈ sent, other = value := by
  cases sent <;> simp

/-- An edit that sends the row's own terms, and no other, leaves them. -/
theorem sendsTerms_iff {ticket row : TicketType} {input : TicketPatch} {status : TicketStatus} :
    SendsTerms input row ↔
      (patchedTier ticket (buildTicketValues input) status row).priceSatang = row.priceSatang ∧
        (patchedTier ticket (buildTicketValues input) status row).isFree = row.isFree :=
  and_congr getD_eq_self.symm getD_eq_self.symm

/-- The check that was made of a type loaded with sales holds of the row at its version. -/
theorem sendsTerms_of_checked {ticket row : TicketType} {input : UpdateTicketInput}
    (changes : assertChangeAllowedAfterSales ticket input.priceSatang input.isFree = .ok ())
    (sold : ticket.sold ≠ 0) (same : typeTerms row = typeTerms ticket) (formed : Formed row) :
    SendsTerms input.toTicketPatch row := by
  unfold assertChangeAllowedAfterSales at changes
  rw [if_neg sold] at changes
  split at changes
  · cases changes
  · next unchanged =>
    obtain ⟨soldNow, deletedAt, rfl⟩ := typeTerms_eq same
    have price (other : Option Satang) (sent : other ∈ input.priceSatang) :
        other = some ticket.priceSatang :=
      of_not_not fun differs => unchanged (Or.inl ⟨other, sent, differs⟩)
    have free (other : Option Bool) (sent : other ∈ input.isFree) : other = some ticket.isFree :=
      of_not_not fun differs => unchanged (Or.inr ⟨other, sent, differs⟩)
    refine ⟨fun value sent => ?_, fun value sent => ?_⟩
    · simp only [buildTicketValues] at sent
      split at sent
      · next freed =>
        -- what is sent as free is free already, and so costs nothing
        have isFree : ticket.isFree = true := (Option.some.inj (free _ freed)).symm
        have costs : ticket.priceSatang = 0 := formed.free isFree
        cases sent
        exact costs.symm
      · exact Option.some.inj (price _ (Option.join_eq_some_iff.mp sent))
    · exact Option.some.inj (free _ (Option.join_eq_some_iff.mp sent))

/-- Only a removal answers that a type is gone or retired. -/
theorem GoesOn.answerHolds {after : SeatingDesk} (goes : GoesOn desk phase next)
    (removes : ∀ ticket, phase ≠ .remove ticket)
    (rests : ∀ reply, phase = .done reply → answerHolds after phase) : answerHolds after next := by
  cases goes with
  | rests => exact rests _ rfl
  | removed | retired => exact absurd rfl (removes _)
  | _ => trivial

/-- Exactly an edit that reprices a type sold meanwhile changes what is sold. -/
theorem edit_pricesKept {ticket : TicketType} {input : UpdateTicketInput} {status : TicketStatus}
    (knows : KnowsSales desk (.save ticket input status))
    (formed : ∀ tier ∈ desk.workspace.db.ticketTypes, Formed tier) :
    PricesKept desk (actOnTickets desk () (.save ticket input status)).1 ↔
      sparesSales desk () (.save ticket input status) := by
  obtain ⟨recalls, changes⟩ := knows
  have wrote := updateTier_cases desk ticket (buildTicketValues input.toTicketPatch) status
    fun row => .done (.ticket row)
  constructor
  · intro kept _ row found through sold
    obtain ⟨stored, named⟩ := Table.find_eq_some.mp found
    have here : desk.workspace.db.ticketTypes.find row.id = some row := Table.find_key stored
    rcases wrote with ⟨_, blocked, _⟩ | ⟨_, _, _, wrote⟩
    · exact absurd through (blocked row stored)
    · let after := (actOnTickets desk () (.save ticket input status)).1
      have patched : after.workspace.db.ticketTypes.find row.id =
          some (patchedTier ticket (buildTicketValues input.toTicketPatch) status row) := by
        simp only [after, actOnTickets, wrote]
        rw [Table.find_update, here, Option.map_some, if_pos through.1]
      exact sendsTerms_iff.mpr (kept row stored sold _ patched)
  · intro spares row stored sold now found
    have here : desk.workspace.db.ticketTypes.find row.id = some row := Table.find_key stored
    simp only [actOnTickets] at found
    rcases wrote with ⟨same, _⟩ | ⟨other, there, through, wrote⟩
    · rw [same, here] at found
      cases found
      exact ⟨rfl, rfl⟩
    · simp only [wrote] at found
      rw [Table.find_update, here, Option.map_some] at found
      cases found
      split
      · next current =>
        have own : row = other := Table.eq_of_key stored there (current.1.trans through.1.1.symm)
        subst own
        by_cases unsold : ticket.sold = 0
        · have loaded : desk.workspace.db.ticketTypes.find ticket.id = some row :=
            Table.find_eq_some.mpr ⟨stored, current.1⟩
          exact sendsTerms_iff.mp (spares unsold row loaded through sold)
        · have same : typeTerms row = typeTerms ticket :=
            recalls.unmoved stored current.1 current.2.1
          exact sendsTerms_iff.mp (sendsTerms_of_checked changes unsold same (formed row stored))
      · exact ⟨rfl, rfl⟩

end Edits

/-! ## One removal -/

section Removals

variable {desk after : SeatingDesk} {ticket : TicketType}

theorem pricesKept_of_eq (same : after.workspace.db.ticketTypes = desk.workspace.db.ticketTypes) :
    PricesKept desk after :=
  pricesKept_of_sameDeal (.of_eq same SameDeal.refl)

theorem liveKept_of_eq (same : after.workspace.db.ticketTypes = desk.workspace.db.ticketTypes) :
    LiveKept desk after :=
  liveKept_of_sameLife (.of_eq same SameLife.refl)

/-- Where one row is live no more and the others are as they were, every event keeps a live type
exactly where that row, if it was live, had another beside it. -/
theorem liveKept_iff_sibling (ticketId : Nat)
    (others : ∀ row ∈ desk.workspace.db.ticketTypes, row.id ≠ ticketId →
      row ∈ after.workspace.db.ticketTypes)
    (gone : ∀ now ∈ after.workspace.db.ticketTypes, now.id = ticketId → now.deletedAt ≠ none)
    (kept : ∀ now ∈ after.workspace.db.ticketTypes, now.deletedAt = none →
      now ∈ desk.workspace.db.ticketTypes) :
    LiveKept desk after ↔ ∀ row ∈ desk.workspace.db.ticketTypes.find ticketId,
      row.deletedAt = none → HasSibling desk.workspace.db row := by
  constructor
  · intro live row found alive
    obtain ⟨stored, named⟩ := Table.find_eq_some.mp found
    obtain ⟨now, there, event, stillLive⟩ :=
      hasLiveType_iff.mp (live row.eventId (hasLiveType_iff.mpr ⟨row, stored, rfl, alive⟩))
    refine ⟨now, kept now there stillLive, event, stillLive, fun same => ?_⟩
    exact gone now there (same.trans named) stillLive
  · intro siblings eventId live
    obtain ⟨row, stored, own, alive⟩ := hasLiveType_iff.mp live
    by_cases taken : row.id = ticketId
    · have found : desk.workspace.db.ticketTypes.find ticketId = some row :=
        Table.find_eq_some.mpr ⟨stored, taken⟩
      obtain ⟨other, there, event, stillLive, apart⟩ := siblings row found alive
      exact hasLiveType_iff.mpr ⟨other, others other there (taken ▸ apart), event.trans own,
        stillLive⟩
    · exact hasLiveType_iff.mpr ⟨row, others row stored taken, own, alive⟩

/-- An erasure that goes through takes a type that has sold nothing. -/
theorem erased_respects (unsold : ticket.sold = 0)
    (unseated : seatsOfTicketType desk.workspace.db ticket.id = 0)
    (deleted : hardDeleteTier desk.workspace.db ticket.id = .ok after.workspace.db) :
    (PricesKept desk after ∧ LiveKept desk after) ∧
        after.workspace.db.ticketTypes.find ticket.id = none ↔
      sparesSales desk () (.remove ticket) := by
  rcases hardDeleteTier_cases deleted with
    ⟨sold, same⟩ | ⟨⟨row, stored, free⟩, unreferenced, wrote⟩
  · -- nothing was erased, so the answer is so only where there was nothing to erase
    have types : after.workspace.db.ticketTypes = desk.workspace.db.ticketTypes := by rw [same]
    rw [and_iff_right ⟨pricesKept_of_eq types, liveKept_of_eq types⟩, types]
    constructor
    · intro gone _ row found
      cases gone.symm.trans found
    · intro spares
      refine Table.find_eq_none.mpr fun row stored named => sold row stored ⟨named, ?_⟩
      exact (spares unseated row (Table.find_eq_some.mpr ⟨stored, named⟩)).1 unsold
  · have types : after.workspace.db.ticketTypes =
        desk.workspace.db.ticketTypes.delete (IsUnsold ticket.id) := by rw [wrote]
    have found : desk.workspace.db.ticketTypes.find ticket.id = some row :=
      Table.find_eq_some.mpr ⟨stored, free.1⟩
    have gone : after.workspace.db.ticketTypes.find ticket.id = none := by
      rw [types]
      refine Table.find_eq_none.mpr fun other member named => ?_
      obtain ⟨there, apart⟩ := Table.mem_delete.mp member
      have same : other = row := Table.eq_of_key there stored (named.trans free.1.symm)
      exact apart (same ▸ free)
    have prices : PricesKept desk after := by
      intro other there _ now kept
      rw [types] at kept
      obtain ⟨member, named⟩ := Table.find_eq_some.mp kept
      have same : now = other := Table.eq_of_key (Table.mem_delete.mp member).1 there named
      exact same ▸ ⟨rfl, rfl⟩
    have live : LiveKept desk after ↔ ∀ row ∈ desk.workspace.db.ticketTypes.find ticket.id,
        row.deletedAt = none → HasSibling desk.workspace.db row := by
      refine liveKept_iff_sibling ticket.id (fun other there apart => ?_)
        (fun now member named => absurd named (Table.find_eq_none.mp gone now member))
        fun now member _ => ?_
      · rw [types]
        exact Table.mem_delete.mpr ⟨there, fun taken => apart taken.1⟩
      · rw [types] at member
        exact (Table.mem_delete.mp member).1
    rw [and_iff_left gone, and_iff_right prices, live]
    constructor
    · intro siblings _ other there
      cases found.symm.trans there
      exact ⟨fun _ => free.2, fun alive _ => siblings row found alive⟩
    · intro spares other there alive
      exact (spares unseated other there).2 alive fun _ => unreferenced

/-- A retirement always does what it answers, and takes a live type at most. -/
theorem retired_respects {now : Instant} (sold : ticket.sold ≠ 0)
    (unseated : seatsOfTicketType desk.workspace.db ticket.id = 0)
    (there : (desk.workspace.db.ticketTypes.find ticket.id).isSome)
    (retired : after.workspace.db = softDeleteTier desk.workspace.db ticket.id now) :
    (PricesKept desk after ∧ LiveKept desk after) ∧
        (∃ row ∈ after.workspace.db.ticketTypes.find ticket.id, row.deletedAt ≠ none) ↔
      sparesSales desk () (.remove ticket) := by
  have types : after.workspace.db.ticketTypes = desk.workspace.db.ticketTypes.update
      (fun row => row.id = ticket.id ∧ row.deletedAt = none) (retiredTier now) := by
    rw [retired]
    rfl
  have answered : ∃ row ∈ after.workspace.db.ticketTypes.find ticket.id,
      row.deletedAt ≠ none := by
    obtain ⟨row, found⟩ := Option.isSome_iff_exists.mp there
    have named : row.id = ticket.id := (Table.find_eq_some.mp found).2
    rw [types, Table.find_update, found]
    refine ⟨if row.id = ticket.id ∧ row.deletedAt = none then retiredTier now row else row,
      rfl, ?_⟩
    split
    · exact Option.some_ne_none now
    · next kept => exact fun alive => kept ⟨named, alive⟩
  have prices : PricesKept desk after := by
    intro row stored _ after found
    have here : desk.workspace.db.ticketTypes.find row.id = some row := Table.find_key stored
    rw [types, Table.find_update, here, Option.map_some] at found
    cases found
    split <;> exact ⟨rfl, rfl⟩
  have live : LiveKept desk after ↔ ∀ row ∈ desk.workspace.db.ticketTypes.find ticket.id,
      row.deletedAt = none → HasSibling desk.workspace.db row := by
    refine liveKept_iff_sibling ticket.id (fun other stored apart => ?_)
      (fun now member named alive => ?_) fun now member alive => ?_
    · rw [types]
      exact Table.mem_update_of_miss stored fun taken => apart taken.1
    · rw [types] at member
      obtain ⟨old, stored, rfl⟩ := Table.mem_update.mp member
      split at alive
      · cases alive
      · next kept =>
        rw [if_neg kept] at named
        exact kept ⟨named, alive⟩
    · rw [types] at member
      obtain ⟨old, stored, rfl⟩ := Table.mem_update.mp member
      split at alive
      · cases alive
      · next kept =>
        rw [if_neg kept]
        exact stored
  rw [and_iff_left answered, and_iff_right prices, live]
  constructor
  · exact fun siblings _ row found => ⟨fun unsold => absurd unsold sold,
      fun alive _ => siblings row found alive⟩
  · exact fun spares row found alive =>
      (spares unseated row found).2 alive fun unsold => absurd unsold sold

/-- Exactly a removal of a type sold meanwhile, and of a last live type, breaks what is asked. -/
theorem removal_respects (loaded : LoadedToRemove desk.workspace.db ticket) :
    (PricesKept desk (actOnTickets desk () (.remove ticket)).1 ∧
        LiveKept desk (actOnTickets desk () (.remove ticket)).1) ∧
        answerHolds (actOnTickets desk () (.remove ticket)).1
          (actOnTickets desk () (.remove ticket)).2 ↔
      sparesSales desk () (.remove ticket) := by
  change (PricesKept desk (removeTier desk ticket).1 ∧ LiveKept desk (removeTier desk ticket).1) ∧
    answerHolds (removeTier desk ticket).1 (removeTier desk ticket).2 ↔ _
  rcases removeTier_cases desk ticket with
    ⟨same, ⟨seated, exception, refused⟩ | ⟨unsold, referenced, ⟨row, stored, free⟩, crashed⟩⟩ |
    ⟨unseated, unsold, removed, erased, deleted, written⟩ | ⟨unseated, sold, retired⟩
  · rw [same, refused]
    exact iff_of_true ⟨⟨pricesKept_of_eq rfl, liveKept_of_eq rfl⟩, trivial⟩
      fun unseated => absurd unseated seated
  · rw [same, crashed]
    refine iff_of_true ⟨⟨pricesKept_of_eq rfl, liveKept_of_eq rfl⟩, trivial⟩
      fun _ other found => ⟨fun _ => ?_, fun _ unreferenced => ?_⟩
    · cases found.symm.trans (Table.find_eq_some.mpr ⟨stored, free.1⟩)
      exact free.2
    · exact absurd referenced (unreferenced unsold)
  · rw [removed, written]
    exact erased_respects unsold unseated deleted
  · rw [retired]
    exact retired_respects sold unseated (loaded.lasting sold).there rfl

end Removals

/-! ## Runs -/

section Runs

variable {texts : EventTexts} {desk : SeatingDesk}

/-- A step keeps prices, a live type, and what removals answered, exactly where it spares what
sells. -/
theorem act_respects {phase : TicketPhase} (knows : KnowsSales desk phase)
    (formed : ∀ tier ∈ desk.workspace.db.ticketTypes, Formed tier)
    (answered : answerHolds desk phase) :
    (PricesKept desk (actOnTickets desk () phase).1 ∧
        LiveKept desk (actOnTickets desk () phase).1) ∧
        answerHolds (actOnTickets desk () phase).1 (actOnTickets desk () phase).2 ↔
      sparesSales desk () phase := by
  by_cases removes : ∀ ticket, phase ≠ .remove ticket
  · have answers : answerHolds (actOnTickets desk () phase).1 (actOnTickets desk () phase).2 := by
      refine (act_goesOn phase).answerHolds removes fun reply rests => ?_
      subst rests
      exact answered
    have live : LiveKept desk (actOnTickets desk () phase).1 :=
      liveKept_of_sameLife (act_sameLife removes)
    rw [and_iff_left answers, and_iff_left live]
    by_cases edits : ∀ ticket input status, phase ≠ .save ticket input status
    · refine iff_of_true (pricesKept_of_sameDeal (act_sameDeal edits removes)) ?_
      cases phase with
      | save ticket input status => exact absurd rfl (edits ticket input status)
      | remove ticket => exact absurd rfl (removes ticket)
      | _ => trivial
    · push Not at edits
      obtain ⟨ticket, input, status, rfl⟩ := edits
      exact edit_pricesKept knows formed
  · push Not at removes
    obtain ⟨ticket, rfl⟩ := removes
    exact removal_respects knows

theorem act_soldKept (phase : TicketPhase) :
    SoldKept desk (actOnTickets desk () phase).1 := by
  intro row stored now found
  obtain ⟨old, there, edited⟩ := (act_edits phase).find (Table.key_lt_next stored) found
  cases (Table.find_key stored).symm.trans there
  exact edited.sold

abbrev SalesSound (pool : TicketPool) : Prop :=
  pool.Sound (fun desk => SoldLined desk.workspace.db) KnowsSales

/-- What is sold is on lines, and requests know what they loaded, whatever happens. -/
theorem sales_keep : (ticketRequests texts).Keeps (fun desk => SoldLined desk.workspace.db)
    KnowsSales (fun _ _ _ => True) fun _ _ => True where
  opened := fun _ _ _ => trivial
  crashed := fun _ _ => trivial
  act := fun _ _ phase lined knows _ =>
    ⟨act_soldLined phase lined,
      ((act_goesOn phase).knowsSales knows lined).later (act_carried phase)
        fun _ => act_lasting phase⟩
  undisturbed := fun _ _ phase _ _ _ _ other =>
    other.later (act_carried phase) fun _ => act_lasting phase
  outside := fun _ event lined _ =>
    ⟨change_soldLined event lined, fun _ knows =>
      knows.later (change_carried event) fun _ => change_lasting event⟩

theorem serve_respects (texts : EventTexts) (pool : TicketPool) (turn : TicketTurn)
    (forms : FormsSound pool) (sales : SalesSound pool)
    (answered : ∀ job ∈ pool.jobs, answerHolds pool.shared job.phase) :
    (PricesKept pool.shared ((ticketRequests texts).serve pool turn).shared ∧
        LiveKept pool.shared ((ticketRequests texts).serve pool turn).shared) ∧
        (∀ job ∈ ((ticketRequests texts).serve pool turn).jobs,
          answerHolds ((ticketRequests texts).serve pool turn).shared job.phase) ↔
      SparesSales pool turn := by
  let change (desk after : SeatingDesk) : Prop := PricesKept desk after ∧ LiveKept desk after
  have judged : change pool.shared ((ticketRequests texts).serve pool turn).shared ∧
        (∀ job ∈ ((ticketRequests texts).serve pool turn).jobs,
          answerHolds ((ticketRequests texts).serve pool turn).shared job.phase) ↔
      SparesSales pool turn := by
    have opened (request : TicketRequest) :
        answerHolds pool.shared ((ticketRequests texts).opened request) := trivial
    refine Handler.serve_answers answered ⟨pricesKept_of_eq rfl, liveKept_of_eq rfl⟩
      opened trivial (fun job stored _ => ?_) (fun job stored _ other there => ?_)
      (fun event => ?_) (fun event job stored => ?_) turn
    · exact act_respects (sales.jobs job stored) forms.shared (answered job stored)
    · exact answerHolds_later (answered other there) (sales.jobs other there)
        (act_carried job.phase) fun _ => act_lasting job.phase
    · refine iff_of_true ⟨pricesKept_of_sameDeal (change_sameDeal event), ?_⟩ trivial
      exact liveKept_of_sameLife ((change_sameDeal event).mono fun _ _ row => row.toSameLife)
    · exact answerHolds_later (answered job stored) (sales.jobs job stored)
        (change_carried event) fun _ => change_lasting event
  exact judged

/-- Edits and removals respect sales exactly in the runs where no edit reprices, and no removal
takes, what was sold since it was loaded, and no removal takes an event's last live type. -/
theorem respectsSales_iff {start : TicketPool} (rest : SalesAtRest start)
    (turns : List TicketTurn) :
    RespectsSales texts start turns ↔
      Meets (ticketRequests texts).serve SparesSales start turns := by
  have idle (job : Job TicketPhase) : job ∉ start.jobs := Table.not_mem_of_empty rest.jobs job
  have sound : FormsSound start ∧ SalesSound start :=
    ⟨⟨rest.formed, fun job stored => absurd stored (idle job)⟩,
      ⟨rest.lined, fun job stored => absurd stored (idle job)⟩⟩
  have keeps (pool : TicketPool) (turn : TicketTurn) (holds : FormsSound pool ∧ SalesSound pool) :
      FormsSound ((ticketRequests texts).serve pool turn) ∧
        SalesSound ((ticketRequests texts).serve pool turn) :=
    ⟨serve_formsSound pool turn holds.1,
      sales_keep.serve pool turn holds.2 (Handler.guarded_true pool turn)⟩
  have judged := meets_throughout_iff keeps
    (fun pool turn holds answered => serve_respects texts pool turn holds.1 holds.2 answered)
    sound (fun job stored => absurd stored (idle job)) turns
  rw [← judged]
  constructor
  · intro respects
    have live : Meets (ticketRequests texts).serve (fun pool turn =>
        LiveKept pool.shared ((ticketRequests texts).serve pool turn).shared) start turns := by
      refine meets_of_cuts fun first turn later cut eventId alive => ?_
      exact respects.live eventId first (turn :: later) cut alive [turn] (by simp)
    exact ⟨respects.frozen.and live, respects.answered⟩
  · rintro ⟨kept, answered⟩
    refine ⟨kept.mono fun _ _ both => both.1, meets_of_cuts fun _ turn _ _ => ?_,
      fun eventId first last cut alive => ?_, answered⟩
    · cases turn with
      | advance jobId input => exact fun job _ => act_soldKept job.phase
      | receive | crash | outside => trivial
    · subst cut
      exact (meets_append.mp kept).2.throughout (fun _ _ lives both => both.2 eventId lives)
        (fun _ lives => lives) alive

end Runs

/-! ## A type repriced after a sale -/

/-- Two ticket types of one event without seats. -/
def twoTypes : TicketPool where
  shared :=
    { workspace := { boxOffice with
        db := { boxOffice.db with
          ticketTypes := ⟨[{ id := 0, eventId := 0, name := "General", sold := 0, total := 10 },
              { id := 1, eventId := 0, name := "Balcony", sold := 0, total := 10 }], 2,
            by decide, by decide⟩
          seatMaps := Table.empty
          seats := Table.empty } }
      events := { events := ⟨[onlineTalk], 1, by decide, by decide⟩, outbox := [], clock := 0 } }
  jobs := Table.empty

theorem twoTypes_atRest : SalesAtRest twoTypes := by
  refine ⟨rfl, fun tier member => ?_, fun tier member sold => ?_⟩
  · rcases List.mem_pair.mp member with rfl | rfl
    · exact ⟨fun _ => rfl, by decide, by decide, by decide, fun _ starts => nomatch starts⟩
    · exact ⟨fun _ => rfl, by decide, by decide, by decide, fun _ starts => nomatch starts⟩
  · rcases List.mem_pair.mp member with rfl | rfl
    · exact absurd sold (by decide)
    · exact absurd sold (by decide)

/-- Somebody gets a general place for nothing. -/
def generalSale : List TicketTurn :=
  [.outside (.booking (.holdQuantity generalHold)),
    .outside (.booking (.placeOrder (booking "G" 0 0 none [0] 0 false)))]

/-- The general type has sold and is enlarged, and the other is removed. -/
def enlargedThenRemoved : List TicketTurn :=
  generalSale ++ [.receive (.update 0 0 { total := some (some 20) })] ++ ticketSteps 0 5 ++
    [.receive (.delete 0 1)] ++ ticketSteps 1 6

theorem respectsSales_enlargedThenRemoved :
    RespectsSales plainTexts twoTypes enlargedThenRemoved :=
  (respectsSales_iff twoTypes_atRest _).mpr (by decide +kernel)

/-- The general type is loaded to be repriced, and sold before it is saved. -/
def soldMeanwhile : List TicketTurn :=
  [.receive (.update 0 0 { priceSatang := some (some 10000) })] ++ ticketSteps 0 4 ++ generalSale

theorem soldMeanwhile_reprices : ¬ ∀ (texts : EventTexts) (start : TicketPool)
    (turns : List TicketTurn), SalesAtRest start → RespectsSales texts start turns := by
  intro holds
  have frozen := (holds plainTexts twoTypes (soldMeanwhile ++ ticketSteps 0 1)
    twoTypes_atRest).frozen
  let before := run (ticketRequests plainTexts).serve twoTypes soldMeanwhile
  let after := (ticketRequests plainTexts).serve before (.advance 0 ())
  obtain ⟨row, stored, sold, now, found, dearer⟩ :
      ∃ row ∈ before.shared.workspace.db.ticketTypes.rows, 0 < row.sold ∧
        ∃ now ∈ after.shared.workspace.db.ticketTypes.find row.id,
          now.priceSatang ≠ row.priceSatang := by
    decide +kernel
  exact dearer ((meets_append.mp frozen).2.1 row stored sold now found).1

end EventaApi.Guarantees
