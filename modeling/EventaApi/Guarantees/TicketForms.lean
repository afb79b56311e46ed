import EventaApi.Guarantees.SeatMapSaves
import EventaApi.Guarantees.TicketSteps

/-!
# Well formed ticket types

Creating and changing a type judge its price, window, bounds and total as they will be, and an
edit's version is the one its values were merged with. A copy is judged by nobody: it takes over a
total that the seat map of another event gave, where nothing may stand in for its seats.
-/
namespace EventaApi.Guarantees
open Library Source

/-! ## What is asked of a type -/

abbrev TicketPool := Pool SeatingDesk TicketPhase

abbrev TicketTurn := PoolTurn TicketRequest Unit TicketWorld

structure Formed (tier : TicketType) : Prop where
  free : tier.isFree = true → tier.priceSatang = 0
  wholeBaht : tier.priceSatang % SATANG_PER_BAHT = 0
  perOrder : 1 ≤ tier.minPerOrder ∧ tier.minPerOrder ≤ tier.maxPerOrder ∧
    tier.maxPerOrder ≤ MAX_SEATS_PER_BOOKING
  sold : tier.sold ≤ tier.total
  window : ∀ starts ∈ tier.salesStartAt, ∀ ends ∈ tier.salesEndAt, starts < ends

/-- The per-order limit is within the total, unless that is unlimited or the seat map sets it. -/
def FitsTotal (db : Db) (eventId maxPerOrder total : Nat) : Prop :=
  total = UNLIMITED ∨ SeatsCounted db eventId ∨ maxPerOrder ≤ total

instance (db : Db) (eventId maxPerOrder total : Nat) :
    Decidable (FitsTotal db eventId maxPerOrder total) :=
  inferInstanceAs (Decidable (_ ∨ _ ∨ _))

structure WellFormed (desk : SeatingDesk) : Prop where
  formed : ∀ tier ∈ desk.workspace.db.ticketTypes, Formed tier
  fits : ∀ tier ∈ desk.workspace.db.ticketTypes,
    FitsTotal desk.workspace.db tier.eventId tier.maxPerOrder tier.total

/-- The copy that is made fits its total on the event it is made for. -/
def copiesFit (desk : SeatingDesk) (_ : Unit) : TicketPhase → Prop
  | .copies destEventId (row :: _) => (desk.events.events.find destEventId).isSome →
    FitsTotal desk.workspace.db destEventId row.maxPerOrder row.total
  | _ => True

instance (desk : SeatingDesk) (input : Unit) : DecidablePred (copiesFit desk input)
  | .copies _ (_ :: _) => inferInstanceAs (Decidable (_ → _))
  | .copies _ [] | .first _ | .forEvent _ _ | .seats _ _ | .nameFree _ _ _ | .insert _
  | .load _ _ _ _ | .rename _ _ _ | .save _ _ _ | .setStatus _ _ | .count _ | .holds _ | .remove _
  | .done _ => isTrue trivial

def CopiesFit : TicketPool → TicketTurn → Prop := Handler.Guarded copiesFit fun _ _ => True

instance (pool : TicketPool) (turn : TicketTurn) : Decidable (CopiesFit pool turn) :=
  inferInstanceAs (Decidable (Handler.Guarded _ _ pool turn))

/-! ## What a step writes -/

/-- A row as it was, but for its status, its version and its retirement. -/
def Restated (old row : TicketType) : Prop :=
  row = { old with status := row.status, version := row.version, deletedAt := row.deletedAt }

/-- Where a row comes from after a step of a request: from a row that was there, or from what its
phase writes. -/
inductive Wrote (desk : SeatingDesk) : TicketPhase → TicketType → Prop
  | kept {phase : TicketPhase} {old row : TicketType} :
    old ∈ desk.workspace.db.ticketTypes → Restated old row → Wrote desk phase row
  | inserted {values : NewTicketValues} (id : Nat) :
    Wrote desk (.insert values) (insertedTier values id)
  | saved {ticket old : TicketType} {input : UpdateTicketInput} {status : TicketStatus} :
    old ∈ desk.workspace.db.ticketTypes →
    GoesThrough ticket (buildTicketValues input.toTicketPatch) status old →
    Wrote desk (.save ticket input status)
      (patchedTier ticket (buildTicketValues input.toTicketPatch) status old)
  | copied {destEventId : Nat} {row : TicketType} {rest : List TicketType} (id : Nat) :
    (desk.events.events.find destEventId).isSome →
    Wrote desk (.copies destEventId (row :: rest))
      (insertedTier (copiedValues destEventId row desk.workspace.clock) id)

section Writes

variable {desk : SeatingDesk} {tier : TicketType}

theorem Restated.refl (row : TicketType) : Restated row row := rfl

/-- A row that an insert leaves is an old one, or the new one. -/
theorem mem_insertTier {values : NewTicketValues} {next : TicketType → TicketPhase}
    (member : tier ∈ (insertTier desk values next).1.workspace.db.ticketTypes) :
    tier ∈ desk.workspace.db.ticketTypes ∨
      (desk.events.events.find values.eventId).isSome ∧
        tier = insertedTier values desk.workspace.db.ticketTypes.next := by
  unfold insertTier at member
  split at member
  · next there =>
    rcases Table.mem_insert.mp member with old | new
    · exact Or.inl old
    · exact Or.inr ⟨there, new⟩
  · exact Or.inl member

/-- A row that an update leaves is an old one, or the one at the version, patched. -/
theorem mem_updateTier {ticket : TicketType} {values : TicketPatch} {status : TicketStatus}
    {next : TicketType → TicketPhase}
    (member : tier ∈ (updateTier desk ticket values status next).1.workspace.db.ticketTypes) :
    tier ∈ desk.workspace.db.ticketTypes ∨
      ∃ old ∈ desk.workspace.db.ticketTypes, GoesThrough ticket values status old ∧
        tier = patchedTier ticket values status old := by
  rcases updateTier_cases desk ticket values status next with
    ⟨same, _⟩ | ⟨row, stored, through, wrote⟩
  · rw [same] at member
    exact Or.inl member
  · rw [wrote] at member
    obtain ⟨old, there, rfl⟩ := Table.mem_update.mp member
    split
    · next struck =>
      have same : old = row := Table.eq_of_key there stored (struck.1.trans through.1.1.symm)
      subst same
      exact Or.inr ⟨old, there, through, rfl⟩
    · exact Or.inl there

/-- A removal retires a row at most. -/
theorem mem_removeTier {ticket : TicketType}
    (member : tier ∈ (removeTier desk ticket).1.workspace.db.ticketTypes) :
    ∃ old ∈ desk.workspace.db.ticketTypes, Restated old tier := by
  rcases removeTier_cases desk ticket with
    ⟨same, _⟩ | ⟨_, _, _, after, deleted, erased⟩ | ⟨_, _, retired⟩
  · rw [same] at member
    exact ⟨tier, member, .refl tier⟩
  · rw [erased] at member
    rcases hardDeleteTier_cases deleted with ⟨_, rfl⟩ | ⟨_, _, rfl⟩
    · exact ⟨tier, member, .refl tier⟩
    · exact ⟨tier, (Table.mem_delete.mp member).1, .refl tier⟩
  · rw [retired] at member
    obtain ⟨old, stored, rfl⟩ := Table.mem_update.mp member
    refine ⟨old, stored, ?_⟩
    split
    · rfl
    · exact .refl old

theorem act_wrote {phase : TicketPhase}
    (member : tier ∈ (actOnTickets desk () phase).1.workspace.db.ticketTypes) :
    Wrote desk phase tier := by
  cases phase with
  | insert values =>
    rcases mem_insertTier member with old | ⟨_, rfl⟩
    · exact .kept old (.refl tier)
    · exact .inserted _
  | save ticket input status =>
    rcases mem_updateTier member with old | ⟨old, stored, through, rfl⟩
    · exact .kept old (.refl tier)
    · exact .saved stored through
  | setStatus ticket status =>
    rcases mem_updateTier member with old | ⟨old, stored, _, rfl⟩
    · exact .kept old (.refl tier)
    · exact .kept stored rfl
  | remove ticket =>
    obtain ⟨old, stored, restated⟩ := mem_removeTier member
    exact .kept stored restated
  | copies destEventId rows =>
    cases rows with
    | nil => exact .kept member (.refl tier)
    | cons row rest =>
      rcases mem_insertTier member with old | ⟨there, rfl⟩
      · exact .kept old (.refl tier)
      · exact .copied _ there
  | first | forEvent | seats | nameFree | load | rename | count | holds | done =>
    exact .kept member (.refl tier)

end Writes

/-! ## What a request has judged -/

/-- The values of a new type passed the rules. -/
structure JudgedNew (db : Db) (values : NewTicketValues) : Prop where
  formed : ∀ id, Formed (insertedTier values id)
  fits : FitsTotal db values.eventId values.maxPerOrder values.total

/-- The values a type will have passed the rules. -/
structure JudgedMerge (db : Db) (eventId : Nat) (merged : MergedTicket) : Prop where
  wholeBaht : merged.priceSatang % SATANG_PER_BAHT = 0
  perOrder : 1 ≤ merged.minPerOrder ∧ merged.minPerOrder ≤ merged.maxPerOrder ∧
    merged.maxPerOrder ≤ MAX_SEATS_PER_BOOKING
  window : ∀ starts ∈ merged.salesStartAt, ∀ ends ∈ merged.salesEndAt, starts < ends
  fits : FitsTotal db eventId merged.maxPerOrder merged.total

/-- The type was loaded from these. -/
abbrev RecallsTier (db : Db) (ticket : TicketType) : Prop :=
  Recalls TicketType.version typeTerms db.ticketTypes ticket

def KnowsForm (desk : SeatingDesk) : TicketPhase → Prop
  | .insert values => JudgedNew desk.workspace.db values
  | .load eventId _ seats _ => ReadSeats desk.workspace.db eventId seats
  | .rename ticket seats _ => RecallsTier desk.workspace.db ticket ∧
    ReadSeats desk.workspace.db ticket.eventId seats
  | .save ticket input _ => RecallsTier desk.workspace.db ticket ∧
    JudgedMerge desk.workspace.db ticket.eventId (mergeTicket ticket input.toTicketPatch)
  | .copies _ rows => ∀ row ∈ rows, Formed row
  | _ => True

section Knows

variable {desk after : SeatingDesk} {db : Db}

theorem FitsTotal.later {eventId maxPerOrder total : Nat} {now : Db}
    (fits : FitsTotal db eventId maxPerOrder total)
    (counted : SeatsCounted db eventId → SeatsCounted now eventId) :
    FitsTotal now eventId maxPerOrder total :=
  fits.imp_right (Or.imp_left counted)

theorem KnowsForm.later {phase : TicketPhase} (knows : KnowsForm desk phase)
    (carried : Table.Descends Carried desk.workspace.db.ticketTypes
      after.workspace.db.ticketTypes)
    (counted : ∀ eventId, SeatsCounted desk.workspace.db eventId →
      SeatsCounted after.workspace.db eventId) : KnowsForm after phase := by
  have moves : Table.Descends TermsMove desk.workspace.db.ticketTypes
      after.workspace.db.ticketTypes := carried.mono fun _ _ row => row.moves
  cases phase with
  | insert values => exact ⟨knows.formed, knows.fits.later (counted _)⟩
  | load => exact fun some => counted _ (knows some)
  | rename => exact ⟨knows.1.later moves, fun some => counted _ (knows.2 some)⟩
  | save =>
    obtain ⟨recalls, judged⟩ := knows
    exact ⟨recalls.later moves,
      judged.wholeBaht, judged.perOrder, judged.window, judged.fits.later (counted _)⟩
  | copies => exact knows
  | _ => trivial

theorem JudgedNew.of_allowed {eventId : Nat} {seats : SeatQuantities} {input : CreateTicketInput}
    {now : Instant} (allowed : CreateAllowed (newTicketValues eventId seats input now)) :
    JudgedNew db (newTicketValues eventId seats input now) := by
  obtain ⟨least, ordered, most, within⟩ := assertPerOrderBounds_ok.mp allowed.perOrder
  refine ⟨fun id => ?_, (within rfl).imp_right Or.inr⟩
  exact
    { free := fun free => if_pos free
      wholeBaht := assertWholeBaht_ok.mp allowed.wholeBaht
      perOrder := ⟨least, ordered, most⟩
      sold := Nat.zero_le _
      window := assertTicketWindow_ok.mp allowed.window }

theorem JudgedMerge.of_allowed {ticket : TicketType} {seats : SeatQuantities}
    {merged : MergedTicket} {eventId : Nat} (allowed : SaveAllowed ticket seats merged)
    (read : ReadSeats db eventId seats) : JudgedMerge db eventId merged := by
  obtain ⟨least, ordered, most, within⟩ := assertPerOrderBounds_ok.mp allowed.perOrder
  have fits : FitsTotal db eventId merged.maxPerOrder merged.total := by
    cases typed : seats.isSome with
    | true => exact Or.inr (Or.inl (read typed))
    | false => exact (within typed).imp_right Or.inr
  exact
    { wholeBaht := assertWholeBaht_ok.mp allowed.wholeBaht
      perOrder := ⟨least, ordered, most⟩
      window := assertTicketWindow_ok.mp allowed.window
      fits }

/-- What a step goes on with is judged, as things are when it is taken. -/
theorem GoesOn.knowsForm {phase next : TicketPhase} (goes : GoesOn desk phase next)
    (knows : KnowsForm desk phase)
    (formed : ∀ tier ∈ desk.workspace.db.ticketTypes, Formed tier) : KnowsForm desk next := by
  cases goes with
  | copies => exact fun row member => formed row (Table.mem_select.mp member).1
  | loads read => exact read
  | inserts allowed => exact .of_allowed allowed
  | renames found =>
    obtain ⟨stored, _, own⟩ := findTicketType_some found
    exact ⟨.of_mem stored, own ▸ knows⟩
  | saves found _ allowed =>
    obtain ⟨stored, _, own⟩ := findTicketType_some found
    exact ⟨.of_mem stored, .of_allowed allowed (own ▸ knows)⟩
  | savesRenamed allowed => exact ⟨knows.1, .of_allowed allowed knows.2⟩
  | copiesOn => exact fun row member => knows row (List.mem_cons_of_mem _ member)
  | _ => trivial

end Knows

/-! ## One step -/

section Steps

variable {texts : EventTexts} {desk : SeatingDesk} {db : Db}

/-- A row whose terms are those that were loaded is that row, sold and retired as it may be. -/
theorem typeTerms_eq {ticket row : TicketType} (same : typeTerms row = typeTerms ticket) :
    ∃ sold deletedAt, row = { ticket with sold, deletedAt } := by
  refine ⟨row.sold, row.deletedAt, ?_⟩
  cases row
  cases ticket
  simp only [typeTerms, TicketType.mk.injEq] at same ⊢
  simp [same]

/-- What is written is what was judged. -/
structure Merged (merged : MergedTicket) (row : TicketType) : Prop where
  priceSatang : row.priceSatang = merged.priceSatang
  total : row.total = merged.total
  minPerOrder : row.minPerOrder = merged.minPerOrder
  maxPerOrder : row.maxPerOrder = merged.maxPerOrder
  salesStartAt : row.salesStartAt = merged.salesStartAt
  salesEndAt : row.salesEndAt = merged.salesEndAt

theorem patchedTier_merged {ticket row : TicketType} {input : TicketPatch} {status : TicketStatus}
    (same : typeTerms row = typeTerms ticket) :
    Merged (mergeTicket ticket input)
      (patchedTier ticket (buildTicketValues input) status row) := by
  obtain ⟨sold, deletedAt, rfl⟩ := typeTerms_eq same
  refine ⟨?_, rfl, rfl, rfl, rfl, rfl⟩
  simp only [mergeTicket, buildTicketValues]
  split <;> rfl

/-- The row that a save writes is formed as it was judged. -/
theorem saved_formed {ticket old : TicketType} {input : UpdateTicketInput} {status : TicketStatus}
    (recalls : RecallsTier db ticket)
    (judged : JudgedMerge db ticket.eventId (mergeTicket ticket input.toTicketPatch))
    (stored : old ∈ db.ticketTypes)
    (through : GoesThrough ticket (buildTicketValues input.toTicketPatch) status old) :
    Formed (patchedTier ticket (buildTicketValues input.toTicketPatch) status old) ∧
      FitsTotal db old.eventId
        (patchedTier ticket (buildTicketValues input.toTicketPatch) status old).maxPerOrder
        (patchedTier ticket (buildTicketValues input.toTicketPatch) status old).total := by
  obtain ⟨current, _, checked⟩ := through
  have same : typeTerms old = typeTerms ticket := recalls.unmoved stored current.1 current.2.1
  have merged : Merged (mergeTicket ticket input.toTicketPatch)
      (patchedTier ticket (buildTicketValues input.toTicketPatch) status old) :=
    patchedTier_merged same
  have own : old.eventId = ticket.eventId := by
    obtain ⟨sold, deletedAt, rfl⟩ := typeTerms_eq same
    rfl
  constructor
  · refine ⟨checked.2, ?_, ?_, checked.1, ?_⟩
    · rw [merged.priceSatang]
      exact judged.wholeBaht
    · rw [merged.minPerOrder, merged.maxPerOrder]
      exact judged.perOrder
    · rw [merged.salesStartAt, merged.salesEndAt]
      exact judged.window
  · rw [merged.maxPerOrder, merged.total, own]
    exact judged.fits

theorem Formed.restated {old row : TicketType} (formed : Formed old) (restated : Restated old row) :
    Formed row := by
  rw [restated]
  exact ⟨formed.free, formed.wholeBaht, formed.perOrder, formed.sold, formed.window⟩

/-- A copy has sold nothing, and is sold at any time. -/
theorem copied_formed {row : TicketType} (formed : Formed row) (destEventId : Nat) (now : Instant)
    (id : Nat) : Formed (insertedTier (copiedValues destEventId row now) id) :=
  ⟨formed.free, formed.wholeBaht, formed.perOrder, Nat.zero_le _,
    fun _ starts => absurd starts (by simp [copiedValues])⟩

/-- Every step of a request leaves types formed. -/
theorem act_formed {phase : TicketPhase} (knows : KnowsForm desk phase)
    (formed : ∀ tier ∈ desk.workspace.db.ticketTypes, Formed tier) :
    ∀ tier ∈ (actOnTickets desk () phase).1.workspace.db.ticketTypes, Formed tier := by
  intro tier member
  cases act_wrote member with
  | kept stored restated => exact (formed _ stored).restated restated
  | inserted id => exact knows.formed id
  | saved stored through => exact (saved_formed knows.1 knows.2 stored through).1
  | copied id => exact copied_formed (knows _ List.mem_cons_self) _ _ id

/-- Exactly a copy whose limit is above its total breaks the rules. -/
theorem act_wellFormed {phase : TicketPhase} (knows : KnowsForm desk phase)
    (wellFormed : WellFormed desk) :
    WellFormed (actOnTickets desk () phase).1 ↔ copiesFit desk () phase := by
  have keeps {eventId maxPerOrder total : Nat}
      (fits : FitsTotal desk.workspace.db eventId maxPerOrder total) :
      FitsTotal (actOnTickets desk () phase).1.workspace.db eventId maxPerOrder total :=
    fits.later (act_seatsCounted phase)
  constructor
  · intro after
    cases phase with
    | copies destEventId rows =>
      cases rows with
      | nil => trivial
      | cons row rest =>
        intro there
        have inserts : (actOnTickets desk () (.copies destEventId (row :: rest))).1 =
            { desk with workspace := { desk.workspace with
              db := { desk.workspace.db with
                ticketTypes := desk.workspace.db.ticketTypes.insert
                  (insertedTier (copiedValues destEventId row desk.workspace.clock)) } } } :=
          congrArg Prod.fst (if_pos there)
        rw [inserts] at after
        have fits := after.fits _ (Table.mem_insert.mpr (Or.inr rfl))
        exact fits.later fun counted => counted.of_same rfl rfl
    | _ => trivial
  · intro fit
    refine ⟨act_formed knows wellFormed.formed, fun tier member => keeps ?_⟩
    cases act_wrote member with
    | @kept _ old _ stored restated =>
      rw [restated]
      exact wellFormed.fits old stored
    | inserted => exact knows.fits
    | saved stored through => exact (saved_formed knows.1 knows.2 stored through).2
    | copied _ there => exact fit there

/-- A row that a booking leaves is formed, and only its sold has changed. -/
theorem Resold.formed {after : Db} {sold : Nat → Nat} (resold : Resold db after sold)
    (formed : ∀ tier ∈ db.ticketTypes, Formed tier) {tier : TicketType}
    (member : tier ∈ after.ticketTypes) :
    ∃ old ∈ db.ticketTypes, tier = { old with sold := sold old.id } ∧ Formed tier := by
  have older : Keyed.key tier < db.ticketTypes.next := resold.next ▸ Table.key_lt_next member
  obtain ⟨old, stored, _, same⟩ := resold.descends.rows tier member older
  have kept := formed old stored
  subst same
  exact ⟨old, stored, rfl, kept.free, kept.wholeBaht, kept.perOrder,
    resold.within old stored kept.sold, kept.window⟩

/-- Bookings, event requests and seat maps leave types well formed. -/
theorem change_formed (event : TicketWorld)
    (formed : ∀ tier ∈ desk.workspace.db.ticketTypes, Formed tier) :
    (∀ tier ∈ (changeTickets texts desk event).workspace.db.ticketTypes, Formed tier) ∧
      (WellFormed desk → WellFormed (changeTickets texts desk event)) := by
  have keeps {eventId maxPerOrder total : Nat}
      (fits : FitsTotal desk.workspace.db eventId maxPerOrder total) :
      FitsTotal (changeTickets texts desk event).workspace.db eventId maxPerOrder total :=
    fits.later (change_seatsCounted event)
  cases event with
  | booking op =>
    obtain ⟨sold, resold⟩ := step_resold desk.workspace op
    have stays (tier : TicketType) (member : tier ∈ (step desk.workspace op).db.ticketTypes) :
        Formed tier := by
      obtain ⟨_, _, _, kept⟩ := resold.formed formed member
      exact kept
    refine ⟨stays, fun wellFormed => ⟨stays, fun tier member => keeps ?_⟩⟩
    obtain ⟨old, stored, same, _⟩ := resold.formed formed member
    rw [same]
    exact wellFormed.fits old stored
  | eventStep => exact ⟨formed, fun wellFormed => ⟨wellFormed.formed, wellFormed.fits⟩⟩
  | seatQuantities event input =>
    rcases seatQuantities_cases texts desk event input with
      same | ⟨plan, seatMapId, after, planned, saved, types, written⟩
    · rw [same]
      exact ⟨formed, id⟩
    · have counted : SeatsCounted after event.id := savedPlan_seatsCounted saved planned types
      rw [written] at keeps ⊢
      rcases saved.types with ⟨_, untouched⟩ | ⟨counts, _, covered, reseated⟩
      · have stays (tier : TicketType) (member : tier ∈ after.ticketTypes) : Formed tier :=
          formed tier (untouched ▸ member)
        refine ⟨stays, fun wellFormed => ⟨stays, fun tier member => keeps ?_⟩⟩
        exact wellFormed.fits tier (untouched ▸ member)
      · have stays (tier : TicketType) (member : tier ∈ after.ticketTypes) : Formed tier := by
          rw [reseated] at member
          obtain ⟨old, stored, rfl⟩ := Table.mem_update.mp member
          have kept := formed old stored
          split
          · next struck =>
            have live : old ∈ liveTiers desk.workspace.db event.id :=
              Table.mem_select.mpr ⟨stored, struck.1, struck.2.1⟩
            exact ⟨kept.free, kept.wholeBaht, kept.perOrder, covered old live, kept.window⟩
          · exact kept
        refine ⟨stays, fun wellFormed => ⟨stays, fun tier member => ?_⟩⟩
        change tier ∈ after.ticketTypes at member
        rw [reseated] at member
        obtain ⟨old, stored, rfl⟩ := Table.mem_update.mp member
        split
        · next struck => exact Or.inr (Or.inl (struck.1 ▸ counted))
        · exact keeps (wellFormed.fits old stored)

end Steps

/-! ## Runs -/

section Runs

variable {texts : EventTexts}

abbrev FormsSound (pool : TicketPool) : Prop :=
  pool.Sound (fun desk => ∀ tier ∈ desk.workspace.db.ticketTypes, Formed tier) KnowsForm

/-- Types are formed, and requests know what they judged, whatever happens. -/
theorem forms_keep : (ticketRequests texts).Keeps
    (fun desk => ∀ tier ∈ desk.workspace.db.ticketTypes, Formed tier) KnowsForm
    (fun _ _ _ => True) fun _ _ => True where
  opened := fun _ _ _ => trivial
  crashed := fun _ _ => trivial
  act := fun _ _ phase formed knows _ =>
    ⟨act_formed knows formed,
      ((act_goesOn phase).knowsForm knows formed).later (act_carried phase)
        fun _ => act_seatsCounted phase⟩
  undisturbed := fun _ _ phase _ _ _ _ other =>
    other.later (act_carried phase) fun _ => act_seatsCounted phase
  outside := fun _ event formed _ =>
    ⟨(change_formed event formed).1, fun _ knows =>
      knows.later (change_carried event) fun _ => change_seatsCounted event⟩

theorem serve_formsSound (pool : TicketPool) (turn : TicketTurn) (sound : FormsSound pool) :
    FormsSound ((ticketRequests texts).serve pool turn) :=
  forms_keep.serve pool turn sound (Handler.guarded_true pool turn)

theorem serve_wellFormed (texts : EventTexts) (pool : TicketPool) (turn : TicketTurn)
    (sound : FormsSound pool) (wellFormed : WellFormed pool.shared) :
    WellFormed ((ticketRequests texts).serve pool turn).shared ↔ CopiesFit pool turn := by
  let change (_ after : SeatingDesk) : Prop := WellFormed after
  have judged : change pool.shared ((ticketRequests texts).serve pool turn).shared ↔
      CopiesFit pool turn := by
    refine Handler.serve_judged wellFormed (fun job stored _ => ?_) (fun event => ?_) turn
    · exact act_wellFormed (sound.jobs job stored) wellFormed
    · exact iff_of_true ((change_formed event sound.shared).2 wellFormed) trivial
  exact judged

/-- Ticket types stay well formed exactly in the runs where each copy fits its total. -/
theorem typesStayWellFormed_iff {start : TicketPool} (rest : start.jobs.rows = [])
    (wellFormed : WellFormed start.shared) (turns : List TicketTurn) :
    Throughout (ticketRequests texts).serve (fun pool => WellFormed pool.shared) start turns ↔
      Meets (ticketRequests texts).serve CopiesFit start turns := by
  have sound : FormsSound start :=
    ⟨wellFormed.formed, fun job stored => absurd stored (Table.not_mem_of_empty rest job)⟩
  exact throughout_iff_meets_within serve_formsSound (serve_wellFormed texts) sound wellFormed turns

end Runs

/-! ## A copy without its seats -/

/-- A concert whose two seats are both stalls, and a second concert that has no seat map. -/
def twoConcerts : TicketPool where
  shared :=
    { workspace := { boxOffice with
        db := { boxOffice.db with
          ticketTypes := ⟨[{ id := 1, eventId := 1, name := "Stalls", sold := 0, total := 2 }], 2,
            by decide, by decide⟩ } }
      events :=
        { events := ⟨[{ onlineTalk with
              id := 1
              content := { onlineTalk.content with isOnline := false, seatingMode := .reserved } },
            { onlineTalk with id := 2 }], 3, by decide, by decide⟩
          outbox := []
          clock := 0 } }
  jobs := Table.empty

theorem twoConcerts_wellFormed : WellFormed twoConcerts.shared := by
  constructor
  · intro tier member
    rcases List.mem_singleton.mp member with rfl
    exact ⟨fun free => absurd free (by decide), by decide, by decide, by decide,
      fun _ starts => absurd starts (by simp)⟩
  · intro tier member
    rcases List.mem_singleton.mp member with rfl
    decide +kernel

/-- So many steps of one request about ticket types. -/
def ticketSteps (jobId count : Nat) : List TicketTurn := List.replicate count (.advance jobId ())

/-- The stalls are limited to two an order, and then copied. -/
def limitedThenCopied : List TicketTurn :=
  [.receive (.update 1 1 { maxPerOrder := some (some 2) })] ++ ticketSteps 0 5 ++
    [.receive (.clone 1 2)] ++ ticketSteps 1 3

theorem typesStayWellFormed_limitedThenCopied :
    Throughout (ticketRequests plainTexts).serve (fun pool => WellFormed pool.shared) twoConcerts
      limitedThenCopied :=
  (typesStayWellFormed_iff rfl twoConcerts_wellFormed _).mpr (by decide +kernel)

/-- The stalls are copied with eight an order, two in all. -/
def copiedStalls : List TicketTurn := [.receive (.clone 1 2)] ++ ticketSteps 0 3

theorem copiedStalls_strands : ¬ ∀ (texts : EventTexts) (start : TicketPool)
    (turns : List TicketTurn), start.jobs.rows = [] → WellFormed start.shared →
      Throughout (ticketRequests texts).serve (fun pool => WellFormed pool.shared) start turns := by
  intro holds
  have wellFormed := holds plainTexts twoConcerts copiedStalls rfl twoConcerts_wellFormed
    copiedStalls List.prefix_rfl
  obtain ⟨tier, stored, above⟩ : ∃ tier ∈
      (run (ticketRequests plainTexts).serve twoConcerts
        copiedStalls).shared.workspace.db.ticketTypes.rows,
      ¬ FitsTotal (run (ticketRequests plainTexts).serve twoConcerts
        copiedStalls).shared.workspace.db tier.eventId tier.maxPerOrder tier.total := by
    decide +kernel
  exact above (wellFormed.fits tier stored)

end EventaApi.Guarantees
