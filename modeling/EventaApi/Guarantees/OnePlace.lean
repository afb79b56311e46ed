import EventaApi.Guarantees.Opening
import EventaApi.Guarantees.OrderHistory
import EventaApi.Source.JoinWaitlist

/-!
# One place in line

The existing place is found by a read and the new one made by a later insert, with
nothing locked in between; so a buyer keeps one place exactly as long as no entry of
theirs for the same ticket is committed between the two. Somebody who is waiting when
the join reads is answered with the place they have.
-/
namespace EventaApi.Guarantees
open Library Source

/-! ## The line -/

/-- The order waits in line for the ticket. -/
def InLine (db : Db) (order : Order) (ticketTypeId : Nat) : Prop :=
  order.status = .waitlisted ∧
    ∃ item ∈ db.orderItems.rows, item.orderId = order.id ∧ item.ticketTypeId = ticketTypeId

instance (db : Db) (order : Order) (ticketTypeId : Nat) : Decidable (InLine db order ticketTypeId) :=
  inferInstanceAs (Decidable (_ ∧ _))

/-- Nobody waits twice for the same ticket of an event. -/
def OnePlace (db : Db) : Prop :=
  ∀ first ∈ db.orders, ∀ second ∈ db.orders, ∀ ticketTypeId, InLine db first ticketTypeId →
    InLine db second ticketTypeId → first.eventId = second.eventId →
      citext first.buyerEmail = citext second.buyerEmail → first = second

/-- The place this request's buyer has in line. -/
structure WaitsFor (db : Db) (input : JoinWaitlistInput) (order : Order) : Prop where
  stored : order ∈ db.orders
  eventId : order.eventId = input.eventId
  buyerEmail : citext order.buyerEmail = citext input.buyer.email
  inLine : InLine db order input.ticketTypeId

section Reading

variable {db : Db} {input : JoinWaitlistInput} {reference : String} {order : Order}

theorem alreadyWaiting_some (found : alreadyWaiting db (input.entry reference) = some order) :
    WaitsFor db input order := by
  obtain ⟨stored, eventId, email, waiting, lined⟩ := Table.mem_select.mp (List.mem_of_mem_head? found)
  exact ⟨stored, eventId, email, waiting, lined⟩

/-- The read finds the buyer's place, and finds that one. -/
theorem alreadyWaiting_of (one : OnePlace db) (waits : WaitsFor db input order) :
    alreadyWaiting db (input.entry reference) = some order := by
  cases found : alreadyWaiting db (input.entry reference) with
  | none =>
    have selected : order ∈ db.orders.select fun order =>
        order.eventId = input.eventId ∧ citext order.buyerEmail = citext input.buyer.email ∧
          order.status = .waitlisted ∧ ∃ item ∈ db.orderItems.rows,
            item.orderId = order.id ∧ item.ticketTypeId = input.ticketTypeId :=
      Table.mem_select.mpr ⟨waits.stored, waits.eventId, waits.buyerEmail, waits.inLine⟩
    have empty := List.head?_eq_none_iff.mp found
    exact absurd (empty ▸ selected) List.not_mem_nil
  | some other =>
    have waits' := alreadyWaiting_some found
    exact congrArg some (one other waits'.stored order waits.stored input.ticketTypeId waits'.inLine
      waits.inLine (waits'.eventId.trans waits.eventId.symm)
      (waits'.buyerEmail.trans waits.buyerEmail.symm))

end Reading

/-! ## The condition on each turn -/

/-- The entry about to be written is its buyer's only one for the ticket. -/
def entersAlone (db : Db) : JoinPhase → Prop
  | .insertWaitlistEntry input _ _ => ∀ order ∈ db.orders.rows, order.eventId = input.eventId →
    citext order.buyerEmail = citext input.buyer.email → ¬ InLine db order input.ticketTypeId
  | _ => True

instance (db : Db) : (phase : JoinPhase) → Decidable (entersAlone db phase)
  | .insertWaitlistEntry _ _ _ => inferInstanceAs (Decidable (∀ _ ∈ _, _))
  | .findByIdempotencyKey _ _ | .alreadyWaiting _ _ _ | .waitlistAhead _ | .done _ =>
    isTrue trivial

def joinPhaseOf (line : WaitingLine) (callId : Nat) : JoinPhase :=
  match line.calls.find callId with
  | some call => call.phase
  | none => .done .crashed

theorem joinPhaseOf_found {line : WaitingLine} {callId : Nat} {call : JoinCall}
    (found : line.calls.find callId = some call) : joinPhaseOf line callId = call.phase := by
  simp [joinPhaseOf, found]

/-- No entry is written beside one that was committed since the line was read. -/
def EntersAlone (line : WaitingLine) : JoinTurn → Prop
  | .advance callId _ => entersAlone line.office.db (joinPhaseOf line callId)
  | _ => True

instance (line : WaitingLine) : (turn : JoinTurn) → Decidable (EntersAlone line turn)
  | .advance callId _ =>
    inferInstanceAs (Decidable (entersAlone line.office.db (joinPhaseOf line callId)))
  | .checkout _ _ | .receive _ | .crash _ => isTrue trivial

/-- The request's buyer waits with this entry, and its key is not another order's. -/
def KeepsPlace (id : Nat) (input : JoinWaitlistInput) (line : WaitingLine) (_ : JoinTurn) : Prop :=
  (∃ order ∈ line.office.db.orders.rows, order.id = id ∧ order.eventId = input.eventId ∧
    citext order.buyerEmail = citext input.buyer.email ∧
    InLine line.office.db order input.ticketTypeId) ∧
  ∀ order ∈ line.office.db.orders.rows, order.idempotencyKey = input.idempotencyKey → order.id = id

instance (id : Nat) (input : JoinWaitlistInput) (line : WaitingLine) (turn : JoinTurn) :
    Decidable (KeepsPlace id input line turn) :=
  inferInstanceAs (Decidable (_ ∧ _))

/-! ## What each turn keeps -/

section Steps

variable {db after : Db} {now : Instant} {op : Op}

/-- Only a join puts an order in line. -/
theorem committed_inLine (committed : Committed db now op after) (apart : ¬ op.joins)
    {order : Order} (member : order ∈ after.orders) {ticketTypeId : Nat}
    (inLine : InLine after order ticketTypeId) :
    ∃ old ∈ db.orders, old.id = order.id ∧ old.eventId = order.eventId ∧
      old.buyerEmail = order.buyerEmail ∧ InLine db old ticketTypeId := by
  obtain ⟨waiting, item, stored, named, typed⟩ := inLine
  rcases committed_newOrder committed member with born | ⟨old, found⟩
  · cases born with
    | placed input =>
      cases issues : input.issueTickets <;> simp [initialState, issues] at waiting
    | joined => exact absurd trivial apart
  · obtain ⟨new, found', moved⟩ := committed_order committed found
    have same : some order = some new := (Table.find_key member).symm.trans found'
    cases same
    obtain ⟨there, same⟩ := Table.find_eq_some.mp found
    have unborn : order.id ≠ db.orders.next := by
      have issued := Table.key_lt_next there
      have named : old.id = order.id := same
      change old.id < db.orders.next at issued
      omega
    rcases committed_items committed item stored with before | fresh
    · exact ⟨old, there, same, moved.eventId.symm, moved.buyerEmail.symm, moved.waitlisted waiting,
        item, before, named.trans same.symm, typed⟩
    · exact absurd (named.symm.trans fresh) unborn

theorem onePlace_committed (one : OnePlace db) (committed : Committed db now op after)
    (apart : ¬ op.joins) : OnePlace after := by
  intro first stored second stored' ticketTypeId inLine inLine' event email
  obtain ⟨old, there, same, event₁, email₁, before⟩ :=
    committed_inLine committed apart stored inLine
  obtain ⟨old', there', same', event₂, email₂, before'⟩ :=
    committed_inLine committed apart stored' inLine'
  have one' : old = old' := one old there old' there' ticketTypeId before before'
    (event₁.trans (event.trans event₂.symm)) (by rw [email₁, email, email₂])
  exact Table.eq_of_key stored stored' (same.symm.trans ((congrArg Order.id one').trans same'))

theorem onePlace_step {office : Workspace} (one : OnePlace office.db) (apart : ¬ op.joins) :
    OnePlace (step office op).db := by
  rcases step_db office op with same | committed
  · rwa [same]
  · exact onePlace_committed one (commit_cases committed) apart

theorem insertUnderKey_ok {input : OrderInsert} {order : Order}
    (success : insertUnderKey db input now = .ok (order, after)) :
    insertWaitlistEntry db input now = .ok (order, after) := by
  obtain ⟨⟨order, joined⟩, inserted, success⟩ := bind_ok success
  dsimp only at success
  split at success
  · cases success
  · cases success
    exact inserted

section Entering

variable {input : JoinWaitlistInput} {reference : String} {order : Order}

/-- Whoever is in line once an entry is written is the entry, or was there. -/
theorem entered_inLine (refs : References db)
    (success : insertWaitlistEntry db (input.entry reference) now = .ok (order, after)) {row : Order}
    (member : row ∈ after.orders) {ticketTypeId : Nat} (inLine : InLine after row ticketTypeId) :
    (row = order ∧ ticketTypeId = input.ticketTypeId) ∨
      (row ∈ db.orders ∧ InLine db row ticketTypeId) := by
  obtain ⟨attendeeId, attendees, _, rfl, rfl⟩ := insertWaitlistEntry_ok success
  obtain ⟨waiting, item, stored, named, typed⟩ := inLine
  rcases Table.mem_insert.mp member with old | rfl
  · rcases Table.mem_insert.mp stored with before | rfl
    · exact Or.inr ⟨old, waiting, item, before, named, typed⟩
    · have issued := Table.key_lt_next old
      change row.id < db.orders.next at issued
      change db.orders.next = row.id at named
      omega
  · rcases Table.mem_insert.mp stored with before | rfl
    · have found := refs.items item before
      rw [named, Table.find_next] at found
      cases found
    · exact Or.inl ⟨rfl, typed.symm⟩

/-- An entry that is written alone leaves everybody one place. -/
theorem onePlace_entered (refs : References db) (one : OnePlace db)
    (success : insertWaitlistEntry db (input.entry reference) now = .ok (order, after))
    (alone : ∀ order ∈ db.orders.rows, order.eventId = input.eventId →
      citext order.buyerEmail = citext input.buyer.email → ¬ InLine db order input.ticketTypeId) :
    OnePlace after := by
  have entry : order.eventId = input.eventId ∧ order.buyerEmail = input.buyer.email := by
    obtain ⟨_, _, _, rfl, _⟩ := insertWaitlistEntry_ok success
    exact ⟨rfl, rfl⟩
  intro first stored second stored' ticketTypeId inLine inLine' event email
  rcases entered_inLine refs success stored inLine with ⟨rfl, rfl⟩ | ⟨old, before⟩
  · rcases entered_inLine refs success stored' inLine' with ⟨rfl, _⟩ | ⟨old', before'⟩
    · rfl
    · refine absurd before' (alone second old' (event.symm.trans entry.1) ?_)
      rw [← email, entry.2]
  · rcases entered_inLine refs success stored' inLine' with ⟨rfl, rfl⟩ | ⟨old', before'⟩
    · refine absurd before (alone first old (event.trans entry.1) ?_)
      rw [email, entry.2]
    · exact one first old second old' ticketTypeId before before' event email

theorem references_entered (refs : References db)
    (success : insertWaitlistEntry db (input.entry reference) now = .ok (order, after)) :
    References after := by
  obtain ⟨attendeeId, attendees, _, _, rfl⟩ := insertWaitlistEntry_ok success
  exact (refs.insertOrder fun _ => rfl).congr rfl rfl rfl rfl rfl

end Entering

end Steps

/-! ## Every run -/

/-- Every row has what it refers to, and nobody waits twice. -/
structure InOrder (line : WaitingLine) : Prop where
  refs : References line.office.db
  one : OnePlace line.office.db

/-- A join reads, or writes its entry and answers with it. -/
theorem actInLine_cases (db : Db) (now : Instant) (reference : String) (phase : JoinPhase) :
    (actInLine db now reference phase).db = db ∨
    ∃ input attempt startedAt order, phase = .insertWaitlistEntry input attempt startedAt ∧
      insertWaitlistEntry db (input.entry reference) startedAt =
        .ok (order, (actInLine db now reference phase).db) := by
  cases phase with
  | insertWaitlistEntry input attempt startedAt =>
    simp only [actInLine]
    split
    next order joined success =>
      exact Or.inr ⟨input, attempt, startedAt, order, rfl, insertUnderKey_ok success⟩
    · exact Or.inl rfl
  | _ => exact Or.inl rfl

theorem serveLine_inOrder (line : WaitingLine) (turn : JoinTurn) (inOrder : InOrder line)
    (alone : EntersAlone line turn) : InOrder (serveLine line turn) := by
  obtain ⟨refs, one⟩ := inOrder
  cases turn with
  | checkout op apart => exact ⟨refs.step op, onePlace_step one apart⟩
  | receive | crash => exact ⟨refs, one⟩
  | advance callId reference =>
    cases found : line.calls.find callId with
    | none =>
      simp only [serveLine, found]
      exact ⟨refs, one⟩
    | some call =>
      have here : entersAlone line.office.db call.phase := joinPhaseOf_found found ▸ alone
      simp only [serveLine, found]
      rcases actInLine_cases line.office.db line.office.clock reference call.phase with
        same | ⟨input, attempt, startedAt, order, phase, success⟩
      · constructor
        · simpa only [same] using refs
        · simpa only [same] using one
      · rw [phase] at here success
        constructor
        · simpa only [phase] using references_entered refs success
        · simpa only [phase] using onePlace_entered refs one success here

/-! ## Being answered with one's place -/

/-- The request is on its way to the place its buyer has. -/
def headedFor (id : Nat) (input : JoinWaitlistInput) : JoinPhase → Prop
  | .findByIdempotencyKey asked _ => asked = input
  | .alreadyWaiting asked _ _ => asked = input
  | .insertWaitlistEntry _ _ _ => False
  | .waitlistAhead order => order.id = id
  | .done (.joined answer) => answer.order.id = id
  | .done _ => True

structure Headed (id : Nat) (input : JoinWaitlistInput) (callId : Nat) (line : WaitingLine) :
    Prop where
  inOrder : InOrder line
  issued : callId < line.calls.next
  headed : ∀ call ∈ line.calls, call.id = callId → headedFor id input call.phase

section Answering

variable {id : Nat} {input : JoinWaitlistInput} {callId : Nat}

theorem actInLine_headed {db : Db} {now : Instant} {reference : String} {phase : JoinPhase}
    (one : OnePlace db) (waits : ∃ order, WaitsFor db input order ∧ order.id = id)
    (own : ∀ order ∈ db.orders, order.idempotencyKey = input.idempotencyKey → order.id = id)
    (headed : headedFor id input phase) :
    headedFor id input (actInLine db now reference phase).phase := by
  cases phase with
  | findByIdempotencyKey asked attempt =>
    subst headed
    simp only [actInLine]
    split
    next order tickets found =>
      obtain ⟨first, selected, pair⟩ := Option.map_eq_some_iff.mp found
      cases pair
      obtain ⟨stored, keyed⟩ := Table.mem_select.mp (List.mem_of_mem_head? selected)
      exact own order stored keyed
    · rfl
  | alreadyWaiting asked attempt startedAt =>
    subst headed
    obtain ⟨order, waits, named⟩ := waits
    simp only [actInLine, alreadyWaiting_of one waits]
    exact named
  | insertWaitlistEntry => exact headed.elim
  | waitlistAhead order => exact headed
  | done => exact headed

theorem serveLine_headed (line : WaitingLine) (turn : JoinTurn)
    (headed : Headed id input callId line)
    (kept : EntersAlone line turn ∧ KeepsPlace id input line turn) :
    Headed id input callId (serveLine line turn) := by
  obtain ⟨inOrder, issued, headed⟩ := headed
  obtain ⟨alone, ⟨entry, there, named, event, email, inLine⟩, own⟩ := kept
  have waits : ∃ order, WaitsFor line.office.db input order ∧ order.id = id :=
    ⟨entry, ⟨there, event, email, inLine⟩, named⟩
  have still := serveLine_inOrder line turn inOrder alone
  cases turn with
  | checkout => exact ⟨still, issued, headed⟩
  | receive asked =>
    refine ⟨still, ?_, fun call member named => ?_⟩
    · change callId < (line.calls.insert _).next
      rw [Table.next_insert]
      omega
    · rcases Table.mem_insert.mp member with old | rfl
      · exact headed call old named
      · exact absurd named (Nat.ne_of_gt issued)
  | crash other =>
    refine ⟨still, ?_, fun call member named => ?_⟩
    · change callId < (line.calls.update _ _ _).next
      rw [Table.next_update]
      exact issued
    · obtain ⟨old, stored, rfl⟩ := Table.mem_update.mp member
      split at named
      next hit =>
        rw [if_pos hit]
        trivial
      next miss =>
        rw [if_neg miss]
        exact headed old stored named
  | advance other reference =>
    cases found : line.calls.find other with
    | none =>
      simp only [serveLine, found] at still ⊢
      exact ⟨still, issued, headed⟩
    | some call =>
      simp only [serveLine, found] at still ⊢
      refine ⟨still, ?_, fun moved member named => ?_⟩
      · change callId < (line.calls.update _ _ _).next
        rw [Table.next_update]
        exact issued
      · obtain ⟨stored, same⟩ := Table.find_eq_some.mp found
        obtain ⟨old, there, rfl⟩ := Table.mem_update.mp member
        split at named
        next hit =>
          have one : old = call := Table.eq_of_key there stored (hit.trans same.symm)
          rw [if_pos hit]
          exact actInLine_headed inOrder.one waits own (headed call stored (one ▸ named))
        next miss =>
          rw [if_neg miss]
          exact headed old there named

/-- The answer a request that has one ends with. -/
def answerIn : JoinPhase → Option JoinedWaitlist
  | .done (.joined answer) => some answer
  | _ => none

theorem answerIn_some {phase : JoinPhase} {answer : JoinedWaitlist}
    (given : answerIn phase = some answer) : phase = .done (.joined answer) := by
  unfold answerIn at given
  split at given
  · cases given
    rfl
  · cases given

/-- The request has been answered so. -/
def AnsweredWith (callId : Nat) (answer : JoinedWaitlist) (line : WaitingLine) : Prop :=
  ∃ call ∈ line.calls, call.id = callId ∧ call.phase = .done (.joined answer)

/-- The step that answers a request headed for its place reads the position off the line. -/
theorem answered_position {line : WaitingLine} {turn : JoinTurn} {answer : JoinedWaitlist}
    (headed : Headed id input callId line) (unanswered : ¬ AnsweredWith callId answer line)
    (answered : AnsweredWith callId answer (serveLine line turn)) :
    answer.position = waitlistAhead line.office.db id + 1 := by
  obtain ⟨call, member, named, phase⟩ := answered
  have before (old : JoinCall) (stored : old ∈ line.calls) (same : old.id = callId)
      (done : old.phase = .done (.joined answer)) :
      answer.position = waitlistAhead line.office.db id + 1 :=
    absurd ⟨old, stored, same, done⟩ unanswered
  cases turn with
  | checkout => exact before call member named phase
  | receive asked =>
    rcases Table.mem_insert.mp member with old | rfl
    · exact before call old named phase
    · cases phase
  | crash other =>
    obtain ⟨old, stored, rfl⟩ := Table.mem_update.mp member
    split at phase
    · cases phase
    next miss =>
      rw [if_neg miss] at named
      exact before old stored named phase
  | advance other reference =>
    cases found : line.calls.find other with
    | none =>
      simp only [serveLine, found] at member
      exact before call member named phase
    | some moved =>
      simp only [serveLine, found] at member
      obtain ⟨stored, same⟩ := Table.find_eq_some.mp found
      obtain ⟨old, there, rfl⟩ := Table.mem_update.mp member
      split at phase
      next hit =>
        rw [if_pos hit] at named
        have one : old = moved := Table.eq_of_key there stored (hit.trans same.symm)
        have headed := headed.headed moved stored (one ▸ named)
        have waiting : moved.phase ≠ .done (.joined answer) := fun done =>
          unanswered ⟨moved, stored, one ▸ named, done⟩
        cases at' : moved.phase with
        | waitlistAhead order =>
          rw [at'] at headed phase
          cases phase
          rw [show order.id = id from headed]
        | insertWaitlistEntry =>
          rw [at'] at headed
          exact headed.elim
        | findByIdempotencyKey =>
          simp only [at', actInLine] at phase
          split at phase <;> cases phase
        | alreadyWaiting =>
          simp only [at', actInLine] at phase
          split at phase <;> cases phase
        | done reply =>
          simp only [at', actInLine] at phase
          exact absurd (at'.trans phase) waiting
      next miss =>
        rw [if_neg miss] at named
        exact before old there named phase

end Answering

/-- Nobody is in line yet. -/
def noLine : WaitingLine := ⟨boxOffice, Table.empty⟩

theorem one_bookable : 1 ≤ 1 ∧ 1 ≤ MAX_SEATS_PER_BOOKING := by decide

/-- One buyer's join, under this key. -/
def joining (idempotencyKey : String) : JoinWaitlistInput where
  eventId := 0
  idempotencyKey := idempotencyKey
  buyer := { name := "Anan", email := "anan@example.com" }
  ticketTypeId := 0
  quantity := 1
  unitPriceSatang := 1000
  totals := { subtotalSatang := 1000, totalSatang := 1000 }
  booking := one_bookable

def joinedOnce : List JoinTurn :=
  [.receive (joining "first"), .advance 0 "", .advance 0 "", .advance 0 "ORD-1",
    .receive (joining "second")]

def joinedAgain : List JoinTurn := [.advance 1 "", .advance 1 "", .advance 1 ""]

/-- Both joins read the line before either writes its entry. -/
def joinedTogether : List JoinTurn :=
  [.receive (joining "first"), .receive (joining "second"), .advance 0 "", .advance 1 "",
    .advance 0 "", .advance 1 "", .advance 0 "ORD-1", .advance 1 "ORD-2"]

end EventaApi.Guarantees
