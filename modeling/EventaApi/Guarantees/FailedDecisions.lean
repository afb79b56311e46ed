import EventaApi.Guarantees.DecisionSteps

/-!
# A failed approval or offer leaves everything as it was

A call either gives a registration its places in one transaction, or writes nothing but
holds: it sweeps what has lapsed, takes one, and lets that one go again. So a call that
gave nobody anything has changed no order, ticket, seat or count, and queued nothing.
What it cannot undo is a hold whose release throws: that one stays until it lapses.
-/
namespace EventaApi.Guarantees
open Library Source

/-! ## What a call may do to the holds -/

/-- A step that gives nothing: `own` are the holds the call took. -/
structure LeavesAlone (before after : Db) (now : Instant) (own : Nat → Prop) : Prop where
  same : after = { before with seatHolds := after.seatHolds }
  holds : ∀ hold ∈ before.seatHolds, hold ∈ after.seatHolds ∨
    (hold.status = .active ∧ hold.expiresAt ≤ now ∧
      { hold with status := .expired } ∈ after.seatHolds) ∨
    (own hold.id ∧ hold.status = .active ∧ { hold with status := .released } ∈ after.seatHolds)
  fresh : ∀ hold ∈ after.seatHolds, (∃ old ∈ before.seatHolds, old.id = hold.id) ∨ own hold.id

/-- No hold comes back to life, and new ones get new ids. -/
structure HoldsSpent (before after : Table SeatHold) : Prop where
  next : before.next ≤ after.next
  active : ∀ hold ∈ after, hold.status = .active → hold.id < before.next →
    ∃ old ∈ before, old.id = hold.id ∧ old.status = .active

section Holds

variable {holds : Table SeatHold}

theorem HoldsSpent.refl : HoldsSpent holds holds :=
  ⟨le_refl _, fun hold member active _ => ⟨hold, member, rfl, active⟩⟩

theorem HoldsSpent.trans {between after : Table SeatHold} (first : HoldsSpent holds between)
    (second : HoldsSpent between after) : HoldsSpent holds after where
  next := first.next.trans second.next
  active := by
    intro hold member active issued
    obtain ⟨old, stored, same, active'⟩ :=
      second.active hold member active (lt_of_lt_of_le issued first.next)
    obtain ⟨older, stored', same', active''⟩ := first.active old stored active' (same ▸ issued)
    exact ⟨older, stored', same'.trans same, active''⟩

theorem HoldsSpent.update {hit : SeatHold → Prop} [DecidablePred hit]
    {write : SeatHold → SeatHold} {keeps : ∀ hold, Keyed.key (write hold) = Keyed.key hold}
    (spends : ∀ hold, (write hold).status = .active → hold.status = .active) :
    HoldsSpent holds (holds.update hit write keeps) where
  next := le_of_eq Table.next_update.symm
  active := by
    intro hold member active _
    rcases Table.mem_update_cases member with ⟨old, stored, selected, rfl⟩ | ⟨stored, selected⟩
    · exact ⟨old, stored, (keeps old).symm, spends old active⟩
    · exact ⟨hold, stored, rfl, active⟩

theorem HoldsSpent.insertEach {α : Type} {values : List α} {each : α → Nat → SeatHold}
    {keyed : ∀ value id, Keyed.key (each value id) = id} :
    HoldsSpent holds (holds.insertEach values each keyed) where
  next := by
    rw [Table.next_insertEach]
    exact Nat.le_add_right _ _
  active := by
    intro hold member active issued
    rcases Table.mem_insertEach.mp member with old | ⟨index, inRange, rfl⟩
    · exact ⟨hold, old, rfl, active⟩
    · have numbered : (each values[index] (holds.next + index)).id = holds.next + index :=
        keyed _ _
      omega

theorem HoldsSpent.insert {build : Nat → SeatHold} {keyed : ∀ key, Keyed.key (build key) = key} :
    HoldsSpent holds (holds.insert build keyed) where
  next := by
    rw [Table.next_insert]
    exact Nat.le_succ _
  active := by
    intro hold member active issued
    rcases Table.mem_insert.mp member with old | rfl
    · exact ⟨hold, old, rfl, active⟩
    · have numbered : (build holds.next).id = holds.next := keyed _
      omega

theorem HoldsSpent.forDecision {orderId : Nat} : HoldsSpent holds (holdForDecision holds orderId) :=
  HoldsSpent.trans (HoldsSpent.update fun _ active => by cases active)
    (HoldsSpent.update fun _ active => active)

theorem HoldsSpent.settled {input : PlaceOrderInput} {orderId : Nat} :
    HoldsSpent holds (settledHolds input holds orderId) := by
  unfold settledHolds
  split
  · exact HoldsSpent.update fun _ active => by cases active
  · exact HoldsSpent.update fun _ active => active

/-- No operation of the workspace brings a hold back. -/
theorem holdsSpent_committed {db after : Db} {now : Instant} {op : Op}
    (committed : Committed db now op after) : HoldsSpent db.seatHolds after.seatHolds := by
  cases committed with
  | idle | joined | offered | recorded | enqueued => exact HoldsSpent.refl
  | sweptSeats | sweptTier | released | releasedUnattached | expired | rejected | releasedOrder =>
    exact HoldsSpent.update fun _ active => by cases active
  | heldSeats =>
    exact HoldsSpent.trans (HoldsSpent.update fun _ active => by cases active) HoldsSpent.insertEach
  | heldQuantity =>
    exact HoldsSpent.trans (HoldsSpent.update fun _ active => by cases active) HoldsSpent.insert
  | placed _ _ _ placement =>
    rw [placement.seatHolds]
    exact HoldsSpent.settled
  | settled _ _ _ _ _ settles =>
    cases settles with
    | already | unavailable => exact HoldsSpent.refl
    | refused | completes => exact HoldsSpent.update fun _ active => by cases active
    | awaits => exact HoldsSpent.forDecision
  | refunded _ _ order =>
    simp only [refundedDb]
    split
    · exact HoldsSpent.update fun _ active => by cases active
    · exact HoldsSpent.refl

end Holds

/-! ## One step that gives nobody anything -/

section Steps

variable {db : Db} {now : Instant} {phase : DecisionPhase} {acted : DecisionActed}
  {own : Nat → Prop}

theorem LeavesAlone.refl : LeavesAlone db db now own :=
  ⟨rfl, fun _ member => Or.inl member, fun hold member => Or.inl ⟨hold, member, rfl⟩⟩

theorem leavesAlone_swept {ticketTypeId : Nat} :
    LeavesAlone db { db with seatHolds := expireLapsedForTier db.seatHolds ticketTypeId now } now
      own where
  same := rfl
  holds := by
    intro hold member
    by_cases lapsed : hold.ticketTypeId = some ticketTypeId ∧ hold.status = .active ∧
        hold.expiresAt ≤ now
    · exact Or.inr (Or.inl ⟨lapsed.2.1, lapsed.2.2, Table.mem_update_of_hit member lapsed⟩)
    · exact Or.inl (Table.mem_update_of_miss member lapsed)
  fresh := by
    intro hold member
    obtain ⟨old, stored, rfl⟩ := Table.mem_update.mp member
    refine Or.inl ⟨old, stored, ?_⟩
    split <;> rfl

/-- Taking a hold sweeps its tier and adds a row, under the next id. -/
theorem leavesAlone_held (input : HoldQuantityInput) (mine : own db.seatHolds.next) :
    LeavesAlone db
      { db with
        seatHolds := (expireLapsedForTier db.seatHolds input.ticketTypeId now).insert
          (heldQuantity input) } now own where
  same := rfl
  holds := by
    intro hold member
    rcases leavesAlone_swept.holds hold member with kept | ⟨active, lapsed, expired⟩ |
      ⟨released, active, gone⟩
    · exact Or.inl (Table.mem_insert.mpr (Or.inl kept))
    · exact Or.inr (Or.inl ⟨active, lapsed, Table.mem_insert.mpr (Or.inl expired)⟩)
    · exact Or.inr (Or.inr ⟨released, active, Table.mem_insert.mpr (Or.inl gone)⟩)
  fresh := by
    intro hold member
    rcases Table.mem_insert.mp member with old | rfl
    · exact leavesAlone_swept.fresh hold old
    · right
      simpa [expireLapsedForTier, Table.next_update] using mine

theorem leavesAlone_released {holdId : Nat} (mine : own holdId) :
    LeavesAlone db (release db [holdId]) now own where
  same := rfl
  holds := by
    intro hold member
    by_cases selected : hold.id ∈ [holdId] ∧ hold.status = .active
    · refine Or.inr (Or.inr ⟨?_, selected.2, Table.mem_update_of_hit member selected⟩)
      rw [List.mem_singleton.mp selected.1]
      exact mine
    · exact Or.inl (Table.mem_update_of_miss member selected)
  fresh := by
    intro hold member
    obtain ⟨old, stored, rfl⟩ := Table.mem_update.mp member
    refine Or.inl ⟨old, stored, ?_⟩
    split <;> rfl

/-- A step that gave nobody their places wrote nothing but holds, its own call's among them. -/
theorem decisionActs_leaves (acts : DecisionActs db now phase acted) (nothing : acted.gave = none)
    (holds : ∀ holdId, heldBy phase = some holdId → own holdId)
    (takes : ∀ taken, acted.taken = some taken → own taken.hold.id) :
    LeavesAlone db acted.db now own := by
  cases acts with
  | led | tried => exact LeavesAlone.refl
  | swept => exact leavesAlone_swept
  | heldOffer entry _ expiresAt | heldPlace _ entry expiresAt =>
    exact leavesAlone_held (offerHold entry expiresAt) (takes _ rfl)
  | approved | offered => cases nothing
  | gaveBack | released => exact leavesAlone_released (holds _ rfl)

/-- A call holds only what it has taken. -/
theorem decisionActs_heldBy (acts : DecisionActs db now phase acted) {holdId : Nat}
    (held : heldBy acted.phase = some holdId) :
    heldBy phase = some holdId ∨ ∃ taken, acted.taken = some taken ∧ taken.hold.id = holdId := by
  cases acts with
  | led _ _ leads =>
    cases leads with
    | located _ approvedFor => cases approvedFor <;> exact Or.inl held
    | unlocated | unsettled | unoffered => exact Or.inl held
    | found | foundOwing | entered | opened | lineEnded | ended => cases held
  | tried _ _ _ _ _ serves =>
    rw [serves] at held
    split at held <;> cases held
  | swept => cases held
  | heldOffer | heldPlace =>
    cases held
    exact Or.inr ⟨_, rfl, rfl⟩
  | approved _ approvedFor _ _ settlement _ _ _ outcome =>
    have approved : (approvalResult settlement).outcome = .approved := by
      simp [approvalResult, outcome, APPROVAL_OUTCOMES]
    cases approvedFor with
    | organizer asked => cases asked <;> simp [afterApproval, approved, heldBy] at held
    | line => simp [afterApproval, approved, heldBy] at held
  | offered _ offeredFor => cases offeredFor <;> simp [afterOffer, heldBy] at held
  | gaveBack _ offeredFor => cases offeredFor <;> cases held
  | released => cases held

theorem released_inactive {holdId : Nat} :
    ∀ hold ∈ (release db [holdId]).seatHolds, hold.id = holdId → hold.status ≠ .active := by
  intro hold member named
  rcases Table.mem_update_cases member with ⟨old, stored, selected, rfl⟩ | ⟨stored, selected⟩
  · exact fun active => by cases active
  · intro active
    exact selected ⟨List.mem_singleton.mpr named, active⟩

/-- A hold that was not given away is still the call's to let go, or has been. -/
theorem decisionActs_letsGo (acts : DecisionActs db now phase acted) {holdId : Nat}
    (held : heldBy phase = some holdId) (nothing : acted.gave = none)
    (releases : lettingGo phase → acted.db = release db [holdId]) :
    heldBy acted.phase = some holdId ∨
      ∀ hold ∈ acted.db.seatHolds, hold.id = holdId → hold.status ≠ .active := by
  cases acts with
  | led _ _ leads =>
    cases leads with
    | located _ approvedFor => cases approvedFor <;> exact Or.inl held
    | unlocated | unsettled | unoffered => exact Or.inl held
    | found | foundOwing | entered | opened | lineEnded => cases held
    | ended _ _ unheld =>
      rcases unheld with empty | letting
      · rw [empty] at held
        cases held
      · right
        rw [releases letting]
        exact released_inactive
  | tried | heldPlace => cases held
  | swept _ _ _ unheld =>
    rw [unheld] at held
    cases held
  | heldOffer => cases held
  | approved | offered => cases nothing
  | gaveBack | released =>
    cases held
    exact Or.inr released_inactive

/-- Letting a hold go, unless the release throws. -/
theorem actOn_releases {offerWindowMs : Nat} {answer : DecisionAnswer} {holdId : Nat}
    (held : heldBy phase = some holdId) (letting : lettingGo phase) :
    (actOn db now offerWindowMs answer phase).db = release db [holdId] := by
  cases phase with
  | giveBack | releasePlace =>
    cases held
    rfl
  | mustFind | orderById | settleOrder | waitlistEntry | holdForOffer | markOffered | findOwnedById
  | frontOfLine | confirmFree | done => exact letting.elim

/-- A hold a step took is a row it inserted, which no row's id reaches yet. -/
theorem decisionActs_taken (acts : DecisionActs db now phase acted) {taken : TakenHold}
    (took : acted.taken = some taken) :
    taken.hold.id = db.seatHolds.next ∧ heldBy acted.phase = some taken.hold.id ∧
      acted.db.seatHolds.next = db.seatHolds.next + 1 := by
  cases acts with
  | led | tried | swept | approved | offered | gaveBack | released => cases took
  | heldOffer | heldPlace =>
    cases took
    refine ⟨rfl, rfl, ?_⟩
    simp [Table.next_insert, expireLapsedForTier, Table.next_update]

end Steps

/-! ## A call from where it holds nothing to its end -/

/-- The holds a call has taken since this state. -/
def takenSince (start registrations : Registrations) (callId : Nat) : List TakenHold :=
  (registrations.deeds callId).taken.drop (start.deeds callId).taken.length

/-- The process is not killed under the call. -/
def Spares (callId : Nat) (_ : Registrations) : DecisionTurn → Prop
  | .crash crashed => crashed ≠ callId
  | _ => True

/-- A step of the call's that lets its hold go does not throw. -/
def LetsGo (callId : Nat) (registrations : Registrations) : DecisionTurn → Prop
  | .advance advanced answer => ∀ call ∈ registrations.calls.rows, call.id = advanced →
      advanced = callId → lettingGo call.phase → answer.fault = none
  | _ => True

/-- A step of the call's gives nobody their places. -/
def GivesNothing (callId : Nat) (registrations : Registrations) (turn : DecisionTurn) : Prop :=
  ∀ call answer, registrations.calls.find callId = some call → turn = .advance callId answer →
    (actOrThrow registrations answer call.phase).gave = none

/-- A step of the call's writes nothing but holds, and touches none but those it has taken. -/
def WritesNothing (start : Registrations) (callId : Nat) (registrations : Registrations)
    (turn : DecisionTurn) : Prop :=
  ∀ answer, turn = .advance callId answer →
    LeavesAlone registrations.service.office.db (attend registrations turn).service.office.db
      registrations.service.office.clock fun holdId =>
        ∃ taken ∈ takenSince start (attend registrations turn) callId, taken.hold.id = holdId

section Runs

variable {start registrations : Registrations} {call : DecisionCall}

/-- What a call has given only grows, and where it did not, no step gave anything. -/
theorem given_run (found : registrations.calls.find call.id = some call)
    {turns : List DecisionTurn} (spared : Meets attend (Spares call.id) registrations turns) :
    ∃ ended, (run attend registrations turns).calls.find call.id = some ended ∧
      given call.phase ≤ given ended.phase ∧
      (given ended.phase = given call.phase →
        Meets attend (GivesNothing call.id) registrations turns) := by
  induction turns generalizing registrations call with
  | nil => exact ⟨call, found, le_refl _, fun _ => trivial⟩
  | cons turn rest ih =>
    cases attend_passes found turn with
    | acts answer _ _ moved =>
      let next : DecisionCall :=
        { call with phase := (actOrThrow registrations answer call.phase).phase }
      obtain ⟨ended, there, grown, gives⟩ := ih (show _ = some next from moved) spared.2
      have step : given next.phase = _ :=
        decisionActs_given (actOrThrow_cases registrations answer call.phase)
      refine ⟨ended, there, by omega, fun same => ⟨?_, gives (by omega)⟩⟩
      intro mine own located advancing
      cases found.symm.trans located
      cases advancing
      cases gave : (actOrThrow registrations answer call.phase).gave with
      | none => rfl
      | some orderId =>
        rw [gave] at step
        simp only [Option.toList_some, List.length_singleton] at step
        omega
    | dies => exact absurd rfl spared.1
    | waits _ _ others kept =>
      obtain ⟨ended, there, grown, gives⟩ := ih kept spared.2
      exact ⟨ended, there, grown, fun same =>
        ⟨fun _ answer _ advancing => absurd advancing (others answer), gives same⟩⟩

/-- What a call holds it has taken since it held nothing. -/
structure Carries (start : Registrations) (callId : Nat) (registrations : Registrations) : Prop where
  grown : (start.deeds callId).taken.length ≤ (registrations.deeds callId).taken.length
  issued : ∀ taken ∈ takenSince start registrations callId,
    taken.hold.id < registrations.service.office.db.seatHolds.next
  found : ∃ call, registrations.calls.find callId = some call ∧
    ∀ holdId, heldBy call.phase = some holdId →
      ∃ taken ∈ takenSince start registrations callId, taken.hold.id = holdId

/-- What it has taken and not given away it holds, or it has let go. -/
structure Sheltered (start : Registrations) (callId : Nat) (registrations : Registrations) : Prop
    extends Carries start callId registrations where
  spent : ∀ call, registrations.calls.find callId = some call →
    ∀ taken ∈ takenSince start registrations callId, heldBy call.phase = some taken.hold.id ∨
      ∀ hold ∈ registrations.service.office.db.seatHolds, hold.id = taken.hold.id →
        hold.status ≠ .active

theorem takenSince_advance {answer : DecisionAnswer} {after : Registrations}
    (grown : (start.deeds call.id).taken.length ≤ (registrations.deeds call.id).taken.length)
    (did : after.deeds call.id =
      remember (registrations.deeds call.id) (actOrThrow registrations answer call.phase)) :
    takenSince start after call.id =
      takenSince start registrations call.id ++
        (actOrThrow registrations answer call.phase).taken.toList := by
  rw [takenSince, did, remember, List.drop_append_of_le_length grown]
  rfl

theorem takenSince_same (start : Registrations) {after : Registrations} {callId : Nat}
    (did : after.deeds callId = registrations.deeds callId) :
    takenSince start after callId = takenSince start registrations callId := by
  rw [takenSince, did, takenSince]

/-- Nobody brings a hold back. -/
theorem attend_holdsSpent (registrations : Registrations) (turn : DecisionTurn) :
    HoldsSpent registrations.service.office.db.seatHolds
      (attend registrations turn).service.office.db.seatHolds := by
  rcases attend_committed registrations turn with ⟨_, _, _, committed⟩ | ⟨_, _, resized⟩
  · have spent := holdsSpent_committed committed
    exact spent
  · rw [resized]
    exact HoldsSpent.refl

theorem attend_carries {callId : Nat} (registrations : Registrations) (turn : DecisionTurn)
    (carries : Carries start callId registrations) (spared : Spares callId registrations turn) :
    Carries start callId (attend registrations turn) := by
  obtain ⟨call, found, holds⟩ := carries.found
  obtain rfl : call.id = callId := (Table.find_eq_some.mp found).2
  have next := (attend_holdsSpent registrations turn).next
  cases attend_passes found turn with
  | acts answer _ wrote moved did =>
    have acts := actOrThrow_cases registrations answer call.phase
    have taken := takenSince_advance carries.grown did
    refine ⟨?_, ?_, _, moved, ?_⟩
    · rw [did, remember, List.length_append]
      exact carries.grown.trans (Nat.le_add_right _ _)
    · intro took member
      rw [taken, List.mem_append, Option.mem_toList] at member
      rcases member with old | new
      · exact lt_of_lt_of_le (carries.issued took old) next
      · obtain ⟨numbered, _, grew⟩ := decisionActs_taken acts new
        rw [numbered, wrote, grew]
        exact Nat.lt_succ_self _
    · intro holdId held
      simp only [taken, List.mem_append, Option.mem_toList]
      rcases decisionActs_heldBy acts held with before | ⟨took, new, named⟩
      · obtain ⟨took, old, named⟩ := holds holdId before
        exact ⟨took, Or.inl old, named⟩
      · exact ⟨took, Or.inr new, named⟩
  | dies => exact absurd rfl spared
  | waits _ _ others kept did =>
    have taken := takenSince_same start did
    refine ⟨by rw [did]; exact carries.grown, ?_, call, kept, ?_⟩
    · rw [taken]
      exact fun took member => lt_of_lt_of_le (carries.issued took member) next
    · rw [taken]
      exact holds

/-- A call that gives nobody anything leaves the tables alone at every step. -/
theorem attend_writesNothing {callId : Nat} (registrations : Registrations) (turn : DecisionTurn)
    (carries : Carries start callId registrations)
    (nothing : GivesNothing callId registrations turn) :
    WritesNothing start callId registrations turn := by
  intro answer advancing
  obtain ⟨call, found, holds⟩ := carries.found
  obtain rfl : call.id = callId := (Table.find_eq_some.mp found).2
  have gave := nothing call answer found advancing
  subst advancing
  cases attend_passes found (.advance call.id answer) with
  | acts _ _ wrote _ did =>
    have taken := takenSince_advance carries.grown did
    simp only [wrote, taken, List.mem_append, Option.mem_toList]
    refine decisionActs_leaves (actOrThrow_cases registrations answer call.phase) gave ?_ ?_
    · intro holdId held
      obtain ⟨took, old, named⟩ := holds holdId held
      exact ⟨took, Or.inl old, named⟩
    · exact fun took new => ⟨took, Or.inr new, rfl⟩
  | waits _ _ others => exact absurd rfl (others answer)

theorem attend_sheltered {callId : Nat} (registrations : Registrations) (turn : DecisionTurn)
    (sheltered : Sheltered start callId registrations)
    (conditions : (Spares callId registrations turn ∧ GivesNothing callId registrations turn) ∧
      LetsGo callId registrations turn) :
    Sheltered start callId (attend registrations turn) := by
  obtain ⟨⟨spared, nothing⟩, letsGo⟩ := conditions
  refine ⟨attend_carries registrations turn sheltered.toCarries spared, ?_⟩
  obtain ⟨call, found, holds⟩ := sheltered.found
  obtain rfl : call.id = callId := (Table.find_eq_some.mp found).2
  have spent := sheltered.spent call found
  -- A hold that nobody can use stays so.
  have stays {took : TakenHold} (issued : took ∈ takenSince start registrations call.id)
      (idle : ∀ hold ∈ registrations.service.office.db.seatHolds, hold.id = took.hold.id →
        hold.status ≠ .active) :
      ∀ hold ∈ (attend registrations turn).service.office.db.seatHolds, hold.id = took.hold.id →
        hold.status ≠ .active := by
    intro hold member named active
    obtain ⟨old, stored, same, active'⟩ := (attend_holdsSpent registrations turn).active hold member
      active (named ▸ sheltered.issued took issued)
    exact idle old stored (same.trans named) active'
  cases attend_passes found turn with
  | acts answer _ wrote moved did =>
    intro own located took member
    cases moved.symm.trans located
    have acts := actOrThrow_cases registrations answer call.phase
    rw [takenSince_advance sheltered.grown did, List.mem_append, Option.mem_toList] at member
    rcases member with old | new
    · rcases spent took old with held | idle
      · rw [wrote]
        refine decisionActs_letsGo acts held (nothing call answer found rfl) fun letting => ?_
        have sound := letsGo call (Table.find_eq_some.mp found).1 rfl rfl letting
        simp only [actOrThrow, sound]
        exact actOn_releases held letting
      · exact Or.inr (stays old idle)
    · exact Or.inl (decisionActs_taken acts new).2.1
  | dies => exact absurd rfl spared
  | waits _ _ others kept did =>
    intro own located took member
    cases kept.symm.trans located
    rw [takenSince_same start did] at member
    rcases spent took member with held | idle
    · exact Or.inl held
    · exact Or.inr (stays member idle)

end Runs

/-- A call that gave nobody anything has written nothing but holds, touched none but its own, and
left none of its own behind, unless letting one go threw. -/
theorem failed_decision_leaves {start : Registrations} {call : DecisionCall}
    (asked : call ∈ start.calls) (empty : heldBy call.phase = none) {turns : List DecisionTurn}
    (spared : Meets attend (Spares call.id) start turns) {ended : DecisionCall}
    (there : ended ∈ (run attend start turns).calls) (mine : ended.id = call.id)
    {reply : DecisionReply} (concluded : ended.phase = .done reply)
    (failed : givenIn reply = given call.phase) :
    Meets attend (WritesNothing start call.id) start turns ∧
      (Meets attend (LetsGo call.id) start turns →
        ∀ taken ∈ takenSince start (run attend start turns) call.id,
          ∀ hold ∈ (run attend start turns).service.office.db.seatHolds.rows,
            hold.id = taken.hold.id → hold.status ≠ .active) := by
  have found : start.calls.find call.id = some call := Table.find_key asked
  have located : (run attend start turns).calls.find call.id = some ended := by
    rw [← mine]
    exact Table.find_key there
  obtain ⟨last, located', _, gives⟩ := given_run found spared
  cases located.symm.trans located'
  have nothing : Meets attend (GivesNothing call.id) start turns := by
    apply gives
    rw [concluded]
    exact failed
  have untaken : takenSince start start call.id = [] := List.drop_length
  have carries : Carries start call.id start := by
    refine ⟨le_refl _, ?_, call, found, ?_⟩
    · simp [untaken]
    · exact fun holdId held => by rw [empty] at held; cases held
  constructor
  · refine Meets.of_invariant ?_ ?_ carries (spared.and nothing)
    · exact fun _ turn carries meets => attend_carries _ turn carries meets.1
    · exact fun _ turn carries meets => attend_writesNothing _ turn carries meets.2
  · intro letsGo taken member
    have sheltered : Sheltered start call.id (run attend start turns) := by
      refine run_invariant attend_sheltered ⟨carries, ?_⟩ ((spared.and nothing).and letsGo)
      simp [untaken]
    rcases sheltered.spent ended located taken member with held | idle
    · rw [concluded] at held
      cases held
    · exact idle

/-! ## A race lost to a rejection -/

instance : (phase : DecisionPhase) → Decidable (lettingGo phase)
  | .giveBack _ _ _ | .releasePlace _ _ _ => isTrue trivial
  | .mustFind _ _ | .orderById _ _ | .settleOrder _ _ | .waitlistEntry _ _ | .holdForOffer _ _
  | .markOffered _ _ _ _ _ | .findOwnedById _ | .frontOfLine _ | .confirmFree _ _ | .done _ =>
    isFalse id

instance (callId : Nat) (registrations : Registrations) : (turn : DecisionTurn) →
    Decidable (Spares callId registrations turn)
  | .crash _ => inferInstanceAs (Decidable (_ ≠ _))
  | .elsewhere _ _ | .resize _ _ | .receive _ | .advance _ _ => isTrue trivial

instance (callId : Nat) (registrations : Registrations) : (turn : DecisionTurn) →
    Decidable (LetsGo callId registrations turn)
  | .advance _ _ => inferInstanceAs (Decidable (∀ _ ∈ _, _))
  | .elsewhere _ _ | .resize _ _ | .receive _ | .crash _ => isTrue trivial

/-- Somebody waits for a place that owes its price, and an organizer offers it. -/
def offerAsked : Registrations :=
  run attend desk (elsewhere
    [.checkout (.joinWaitlist (booking "waiting" 0 0 none [] 1000 false).toOrderInsert) trivial] ++
    [.receive (.offer 0 7)])

/-- The registration is rejected once the offer has read it. -/
def rejectedMeanwhile : List DecisionTurn :=
  [.advance 0 {}, .advance 0 {}] ++
    elsewhere [.checkout (.rejectOrder ⟨0, 8, none, true⟩) trivial] ++
    [.advance 0 {}, .advance 0 {}]

/-- The release of the hold goes through. -/
def givenBack : List DecisionTurn := rejectedMeanwhile ++ [.advance 0 {}]

/-- The release of the hold throws. -/
def notGivenBack : List DecisionTurn :=
  rejectedMeanwhile ++ [.advance 0 { fault := some (.domain ⟨.internalError, ""⟩) }]

theorem failed_decision_leaves_offer :
    Meets attend (WritesNothing offerAsked 0) offerAsked givenBack ∧
      ∃ taken ∈ takenSince offerAsked (run attend offerAsked givenBack) 0,
        ∀ hold ∈ (run attend offerAsked givenBack).service.office.db.seatHolds.rows,
          hold.id = taken.hold.id → hold.status ≠ .active := by
  have ends : ∃ ended ∈ (run attend offerAsked givenBack).calls.rows, ended.id = 0 ∧
      ended.phase = .done (.thrown (.domain (.conflict DECIDED_ELSEWHERE))) := by decide +kernel
  obtain ⟨ended, there, mine, concluded⟩ := ends
  have asked : (⟨0, .mustFind 0 (.offer 7)⟩ : DecisionCall) ∈ offerAsked.calls.rows := by
    decide +kernel
  obtain ⟨writes, released⟩ := failed_decision_leaves asked rfl
    (show Meets attend (Spares 0) offerAsked givenBack by decide +kernel) there mine concluded rfl
  have took : ∃ taken, taken ∈ takenSince offerAsked (run attend offerAsked givenBack) 0 :=
    ⟨_, List.mem_of_mem_head? (show _ = some (⟨heldQuantity
      { eventId := 0, ticketTypeId := 0, quantity := 1, expiresAt := 86400000, orderId := some 0 } 0,
      1⟩ : TakenHold) by decide +kernel)⟩
  obtain ⟨taken, member⟩ := took
  exact ⟨writes, taken, member, released (by decide +kernel) taken member⟩

/-- A failed offer whose release throws too leaves its hold active. -/
theorem failed_decision_holds_on :
    Meets attend (Spares 0) offerAsked notGivenBack ∧
      (∃ ended ∈ (run attend offerAsked notGivenBack).calls.rows, ended.id = 0 ∧
        ended.phase = .done (.thrown (.domain ⟨.internalError, ""⟩))) ∧
      ∃ taken ∈ takenSince offerAsked (run attend offerAsked notGivenBack) 0,
        ∃ hold ∈ (run attend offerAsked notGivenBack).service.office.db.seatHolds.rows,
          hold.id = taken.hold.id ∧ hold.status = .active := by
  decide +kernel

end EventaApi.Guarantees
