import EventaApi.Guarantees.VoidTickets

/-!
# The door's ledger is consistent

One fact is written three times: the check-in row, the ticket's own status, and the
attempts the door logged. The row decides: an admission inserts it with a logged
admission, a duplicate only moves its time back, an undo deletes it with an audit
line. Nothing else but a refund touches a checked-in ticket.
-/
namespace EventaApi.Guarantees
open Library Source

/-- Scans of this ticket logged as admissions. -/
def admissions (door : Door) (ticketId : Nat) : Nat :=
  (door.scanAttempts.select fun attempt =>
    attempt.ticketId = some ticketId ∧ attempt.outcome = .admitted).length

/-- Undone admissions of this ticket in the audit trail. -/
def undos (door : Door) (ticketId : Nat) : Nat :=
  (door.auditEvents.select fun event =>
    event.type = AUDIT_TYPE ∧ event.title = undoTitle ticketId).length

def checkInsOf (door : Door) (ticketId : Nat) : List CheckIn :=
  door.checkIns.select fun row => row.ticketId = ticketId

theorem undoTitle_inj {ticketId other : Nat} :
    undoTitle ticketId = undoTitle other ↔ ticketId = other := by
  constructor
  · intro same
    have written : ticketId.repr = other.repr := (String.append_right_inj _).mp same
    have digits : Nat.toDigits 10 ticketId = Nat.toDigits 10 other := by
      rw [← Nat.toList_repr, ← Nat.toList_repr, written]
    calc ticketId = Nat.ofDigitChars 10 (Nat.toDigits 10 ticketId) 0 :=
          Nat.ofDigitChars_ten_toDigits.symm
      _ = Nat.ofDigitChars 10 (Nat.toDigits 10 other) 0 := by rw [digits]
      _ = other := Nat.ofDigitChars_ten_toDigits
  · intro same
    rw [same]

/-- What the door's records say of each other, for every ticket. -/
structure Consistent (door : Door) : Prop where
  one : ∀ row ∈ door.checkIns, ∀ other ∈ door.checkIns, row.ticketId = other.ticketId →
    row = other
  known : ∀ row ∈ door.checkIns, (door.office.db.tickets.find row.ticketId).isSome
  inside : ∀ ticket ∈ door.office.db.tickets, ∀ row ∈ door.checkIns, row.ticketId = ticket.id →
    ticket.status = .checkedIn ∧ ticket.checkedInAt = some row.checkedInAt
  outside : ∀ ticket ∈ door.office.db.tickets, ticket.status = .checkedIn →
    ∃ row ∈ door.checkIns, row.ticketId = ticket.id
  balance : ∀ ticketId, admissions door ticketId =
    undos door ticketId + (checkInsOf door ticketId).length
  earliest : ∀ row ∈ door.checkIns,
    (door.presented row.ticketId).min? = some row.checkedInAt
  fresh : ∀ ticketId, (∀ row ∈ door.checkIns, row.ticketId ≠ ticketId) →
    door.presented ticketId = []

section Acts

variable {door : Door}

theorem Consistent.refused (consistent : Consistent door) (request : PassRequest)
    (scan : ScanContext) (refusal : Refusal) (ticket : Option AdmissibleTicket)
    (scannedAt : Instant) :
    Consistent (recordScanAttempt door (refusedAttempt request scan refusal ticket scannedAt)
      fun _ => rfl) :=
  { consistent with
    balance := by
      intro ticketId
      have before := consistent.balance ticketId
      simp only [admissions, recordScanAttempt, Table.select_insert, refusal_not_admitted,
        and_false, if_false, List.append_nil] at before ⊢
      exact before }

theorem Consistent.admitted (consistent : Consistent door) {input : AdmitInput}
    (absent : ∀ row ∈ door.checkIns, row.ticketId ≠ input.ticketId)
    (known : (door.office.db.tickets.find input.ticketId).isSome) :
    Consistent (admittedDoor door input ⟨input.now, true⟩
      (door.checkIns.insert (checkInRow input))) where
  one := by
    intro row member other member' same
    rcases Table.mem_insert.mp member with old | rfl
    · rcases Table.mem_insert.mp member' with old' | rfl
      · exact consistent.one row old other old' same
      · exact absurd same (absent row old)
    · rcases Table.mem_insert.mp member' with old' | rfl
      · exact absurd same.symm (absent other old')
      · rfl
  known := by
    intro row member
    refine (Table.isSome_find_update).trans ?_
    rcases Table.mem_insert.mp member with old | rfl
    · exact consistent.known row old
    · exact known
  inside := by
    intro ticket stored row member named
    rcases Table.mem_update_cases stored with ⟨old, before, hit, rfl⟩ | ⟨before, hit⟩
    · rcases Table.mem_insert.mp member with there | rfl
      · exact absurd (named.trans hit) (absent row there)
      · exact ⟨rfl, rfl⟩
    · rcases Table.mem_insert.mp member with there | rfl
      · exact consistent.inside ticket before row there named
      · exact absurd named.symm hit
  outside := by
    intro ticket stored status
    rcases Table.mem_update_cases stored with ⟨old, before, hit, rfl⟩ | ⟨before, hit⟩
    · exact ⟨_, Table.mem_insert.mpr (Or.inr rfl), hit.symm⟩
    · obtain ⟨row, there, named⟩ := consistent.outside ticket before status
      exact ⟨row, Table.mem_insert.mpr (Or.inl there), named⟩
  balance := by
    intro ticketId
    have before := consistent.balance ticketId
    simp only [admissions, undos, checkInsOf, admittedDoor, Table.length_select,
      Table.sum_insert, admissionOutcome, Option.some.injEq, if_true, and_true] at before ⊢
    omega
  earliest := by
    intro row member
    rcases Table.mem_insert.mp member with old | rfl
    · have other := absent row old
      simp only [admittedDoor, Function.update_of_ne other]
      exact consistent.earliest row old
    · simp [admittedDoor, consistent.fresh input.ticketId absent]
  fresh := by
    intro ticketId none
    have other : ticketId ≠ input.ticketId := by
      intro same
      exact none _ (Table.mem_insert.mpr (Or.inr rfl)) same.symm
    simp only [admittedDoor, Function.update_of_ne other]
    exact consistent.fresh ticketId fun row there => none row (Table.mem_insert.mpr (Or.inl there))

/-- A duplicate keeps the earliest arrival, and logs no admission. -/
theorem Consistent.again (consistent : Consistent door) {input : AdmitInput} {row : CheckIn}
    (stored : row ∈ door.checkIns) (inside : row.ticketId = input.ticketId) :
    Consistent (admittedDoor door input ⟨min row.checkedInAt input.now, false⟩
      (door.checkIns.update (fun row => row.ticketId = input.ticketId)
        fun row => { row with checkedInAt := min row.checkedInAt input.now })) := by
  -- Every row but this ticket's own is as it was.
  have moved {new : CheckIn} (member : new ∈ door.checkIns.update
      (fun row => row.ticketId = input.ticketId)
      fun row => { row with checkedInAt := min row.checkedInAt input.now }) :
      (new ∈ door.checkIns ∧ new.ticketId ≠ input.ticketId) ∨
        new = { row with checkedInAt := min row.checkedInAt input.now } := by
    rcases Table.mem_update_cases member with ⟨old, before, hit, rfl⟩ | ⟨before, hit⟩
    · rw [consistent.one old before row stored (hit.trans inside.symm)]
      exact Or.inr rfl
    · exact Or.inl ⟨before, hit⟩
  have kept {ticketId : Nat} {old : CheckIn} (before : old ∈ door.checkIns)
      (named : old.ticketId = ticketId) :
      ∃ new ∈ door.checkIns.update (fun row => row.ticketId = input.ticketId)
        (fun row => { row with checkedInAt := min row.checkedInAt input.now }),
        new.ticketId = ticketId := by
    refine ⟨_, Table.mem_update.mpr ⟨old, before, rfl⟩, ?_⟩
    split <;> exact named
  constructor
  case one =>
    intro new member other member' same
    rcases moved member with ⟨old, apart⟩ | rfl
    · rcases moved member' with ⟨old', _⟩ | rfl
      · exact consistent.one new old other old' same
      · exact absurd (same.trans inside) apart
    · rcases moved member' with ⟨_, apart⟩ | rfl
      · exact absurd (same.symm.trans inside) apart
      · rfl
  case known =>
    intro new member
    refine (Table.isSome_find_update).trans ?_
    rcases moved member with ⟨old, _⟩ | rfl
    · exact consistent.known new old
    · exact consistent.known row stored
  case inside =>
    intro ticket there new member named
    rcases Table.mem_update_cases there with ⟨old, before, hit, rfl⟩ | ⟨before, hit⟩
    · rcases moved member with ⟨_, apart⟩ | rfl
      · exact absurd (named.trans hit) apart
      · exact ⟨rfl, rfl⟩
    · rcases moved member with ⟨ticket', _⟩ | rfl
      · exact consistent.inside ticket before new ticket' named
      · exact absurd (named.symm.trans inside) hit
  case outside =>
    intro ticket there status
    rcases Table.mem_update_cases there with ⟨old, before, hit, rfl⟩ | ⟨before, hit⟩
    · exact kept stored (inside.trans hit.symm)
    · obtain ⟨found, there', named⟩ := consistent.outside ticket before status
      exact kept there' named
  case balance =>
    intro ticketId
    have before := consistent.balance ticketId
    have same : (door.checkIns.sum fun row => if (if row.ticketId = input.ticketId then
          { row with checkedInAt := min row.checkedInAt input.now } else row).ticketId = ticketId
        then 1 else 0) = door.checkIns.sum fun row => if row.ticketId = ticketId then 1 else 0 :=
      Table.sum_congr fun old _ => by split <;> rfl
    simp only [admissions, undos, checkInsOf, admittedDoor, Table.length_select,
      Table.sum_insert, Table.sum_update, same, admissionOutcome] at before ⊢
    simpa using before
  case earliest =>
    intro new member
    rcases moved member with ⟨old, apart⟩ | rfl
    · simp only [admittedDoor, Function.update_of_ne apart]
      exact consistent.earliest new old
    · have least := consistent.earliest row stored
      rw [inside] at least
      simp [admittedDoor, inside, List.min?_cons, least, Nat.min_comm]
  case fresh =>
    intro ticketId none
    have other : ticketId ≠ input.ticketId := by
      intro same
      obtain ⟨new, member, named⟩ := kept stored (inside.trans same.symm)
      exact none new member named
    simp only [admittedDoor, Function.update_of_ne other]
    refine consistent.fresh ticketId fun old before named => ?_
    obtain ⟨new, member, named'⟩ := kept before named
    exact none new member named'

theorem Consistent.undone (consistent : Consistent door) {request : UndoRequest}
    (found : ∃ row ∈ door.checkIns,
      row.eventId = request.eventId ∧ row.ticketId = request.ticketId) :
    Consistent (undoneDoor door request) := by
  obtain ⟨row, stored, event, named⟩ := found
  -- The one row of the ticket goes, and no other.
  have left {other : CheckIn} : other ∈ door.checkIns.delete (fun row =>
      row.eventId = request.eventId ∧ row.ticketId = request.ticketId) ↔
      other ∈ door.checkIns ∧ other.ticketId ≠ request.ticketId := by
    rw [Table.mem_delete]
    refine and_congr_right fun member => ?_
    constructor
    · intro kept same
      rw [consistent.one other member row stored (same.trans named.symm)] at kept
      exact kept ⟨event, named⟩
    · intro apart gone
      exact apart gone.2
  constructor
  case one =>
    intro new member other member' same
    exact consistent.one new (left.mp member).1 other (left.mp member').1 same
  case known =>
    intro new member
    exact (Table.isSome_find_update).trans (consistent.known new (left.mp member).1)
  case inside =>
    intro ticket there new member mine
    obtain ⟨member, apart⟩ := left.mp member
    rcases Table.mem_update_cases there with ⟨old, before, hit, rfl⟩ | ⟨before, hit⟩
    · exact absurd (mine.trans hit) apart
    · exact consistent.inside ticket before new member mine
  case outside =>
    intro ticket there status
    rcases Table.mem_update_cases there with ⟨old, before, hit, rfl⟩ | ⟨before, hit⟩
    · cases status
    · obtain ⟨new, member, mine⟩ := consistent.outside ticket before status
      exact ⟨new, left.mpr ⟨member, fun same => hit (mine.symm.trans same)⟩, mine⟩
  case balance =>
    intro ticketId
    have before := consistent.balance ticketId
    let present (row : CheckIn) : Nat := if row.ticketId = ticketId then 1 else 0
    let kept (row : CheckIn) : Nat :=
      if row.eventId = request.eventId ∧ row.ticketId = request.ticketId then 0 else present row
    have exchange : door.checkIns.sum kept + present row = door.checkIns.sum present + kept row := by
      refine Table.sum_exchange stored fun other member different => ?_
      have apart : other.ticketId ≠ request.ticketId := by
        intro same
        have sole := consistent.one other member row stored (same.trans named.symm)
        exact different (congrArg CheckIn.id sole)
      simp [kept, apart]
    simp only [present, kept, event, named, and_self, if_true] at exchange
    simp only [admissions, undos, checkInsOf, undoneDoor, Table.length_select,
      Table.sum_insert, Table.sum_delete, undoTitle_inj, true_and] at before ⊢
    omega
  case earliest =>
    intro new member
    obtain ⟨member, apart⟩ := left.mp member
    simp only [undoneDoor, Function.update_of_ne apart]
    exact consistent.earliest new member
  case fresh =>
    intro ticketId none
    by_cases same : ticketId = request.ticketId
    · simp [undoneDoor, same]
    · simp only [undoneDoor, Function.update_of_ne same]
      refine consistent.fresh ticketId fun old member mine => ?_
      exact none old (left.mpr ⟨member, fun hit => same (mine.symm.trans hit)⟩) mine

/-- Checkout never checks a ticket in; without a refund it leaves every ticket's row alone. -/
theorem Consistent.checkout (consistent : Consistent door) (op : Op)
    (unrefunded : ∀ orderId recordRefund, op ≠ .refundOrder orderId recordRefund) :
    Consistent { door with office := step door.office op } := by
  have moved := step_tickets door.office op
  have rows : ∀ ticket ∈ (step door.office op).db.tickets, ticket ∈ door.office.db.tickets ∨
      (ticket.status = .issued ∧ door.office.db.tickets.find ticket.id = none) := by
    generalize (step door.office op).db.tickets = after at moved
    intro ticket member
    cases moved with
    | same => exact Or.inl member
    | minted _ values build keyed issued =>
      rcases Table.mem_insertEach.mp member with old | ⟨index, _, rfl⟩
      · exact Or.inl old
      · refine Or.inr ⟨(issued _ _).1, Table.find_eq_none.mpr fun other stored => ?_⟩
        have below := Table.key_lt_next stored
        have given : (build values[index] (door.office.db.tickets.next + index)).id =
          door.office.db.tickets.next + index := keyed _ _
        rw [given]
        omega
    | refunded orderId recordRefund => exact absurd rfl (unrefunded orderId recordRefund)
  have finds : ∀ id, (door.office.db.tickets.find id).isSome →
      ((step door.office op).db.tickets.find id).isSome := by
    generalize (step door.office op).db.tickets = after at moved
    intro id found
    cases moved with
    | same => exact found
    | minted => exact Table.isSome_find_insertEach found
    | refunded orderId recordRefund => exact absurd rfl (unrefunded orderId recordRefund)
  refine { consistent with known := ?_, inside := ?_, outside := ?_ }
  · intro row member
    exact finds _ (consistent.known row member)
  · intro ticket stored row member named
    rcases rows ticket stored with old | ⟨_, unknown⟩
    · exact consistent.inside ticket old row member named
    · have known := consistent.known row member
      rw [named, unknown] at known
      cases known
  · intro ticket stored status
    rcases rows ticket stored with old | ⟨issued, _⟩
    · exact consistent.outside ticket old status
    · rw [issued] at status
      cases status

theorem acts_consistent {phase next : DoorPhase} {acted : Door}
    (acts : DoorActs door phase acted next) (consistent : Consistent door) : Consistent acted := by
  cases acts with
  | read => exact consistent
  | refused request scan refusal ticket scannedAt =>
    exact consistent.refused request scan refusal ticket scannedAt
  | admitted _ _ _ _ absent known => exact consistent.admitted absent known
  | again _ _ _ _ row stored inside => exact consistent.again stored inside
  | undone _ found => exact consistent.undone found

end Acts

/-- No step of the run is a refund. -/
def Unrefunded (_ : Door) : DoorTurn → Prop
  | .checkout (.refundOrder _ _) => False
  | _ => True

instance (door : Door) : (turn : DoorTurn) → Decidable (Unrefunded door turn)
  | .checkout op => by cases op <;> first | exact isFalse id | exact isTrue trivial
  | .organize _ | .receive _ | .advance _ _ | .crash _ => isTrue trivial

theorem serveDoor_consistent (door : Door) (turn : DoorTurn) (consistent : Consistent door)
    (unrefunded : Unrefunded door turn) : Consistent (serveDoor door turn) := by
  cases turn with
  | checkout op =>
    refine consistent.checkout op ?_
    rintro orderId recordRefund rfl
    exact unrefunded
  | organize | receive | crash => exact { consistent with }
  | advance callId now =>
    cases found : door.calls.find callId with
    | none => simpa [serveDoor, found] using consistent
    | some call =>
      rw [serveDoor_advance now found]
      have acted := acts_consistent (actAtDoor_cases door now call.phase) consistent
      exact { acted with }

/-- A door before its first scan: nobody is inside, and nothing is logged of anybody. -/
structure Unscanned (door : Door) : Prop where
  checkIns : door.checkIns.rows = []
  scanAttempts : door.scanAttempts.rows = []
  auditEvents : ∀ event ∈ door.auditEvents, event.type ≠ AUDIT_TYPE
  outside : ∀ ticket ∈ door.office.db.tickets, ticket.status ≠ .checkedIn
  presented : ∀ ticketId, door.presented ticketId = []

theorem Unscanned.consistent {door : Door} (unscanned : Unscanned door) : Consistent door where
  one := fun _ member => absurd member (Table.not_mem_of_empty unscanned.checkIns _)
  known := fun _ member => absurd member (Table.not_mem_of_empty unscanned.checkIns _)
  inside := fun _ _ _ member => absurd member (Table.not_mem_of_empty unscanned.checkIns _)
  outside := fun ticket stored status => absurd status (unscanned.outside ticket stored)
  balance := by
    intro ticketId
    have quiet : undos door ticketId = 0 := by
      rw [undos, Table.length_select]
      exact Table.sum_eq_zero fun event stored => by simp [unscanned.auditEvents event stored]
    rw [quiet, admissions, checkInsOf, Table.length_select, Table.length_select,
      Table.sum_of_empty unscanned.scanAttempts, Table.sum_of_empty unscanned.checkIns]
  earliest := fun _ member => absurd member (Table.not_mem_of_empty unscanned.checkIns _)
  fresh := fun ticketId _ => unscanned.presented ticketId

/-- The check-in row, the ticket's status and the attempt log tell one story of a ticket. -/
structure LedgerAgrees (door : Door) (ticket : Ticket) : Prop where
  single : (checkInsOf door ticket.id).length ≤ 1
  entered : (∃ row ∈ door.checkIns, row.ticketId = ticket.id) →
    admissions door ticket.id = undos door ticket.id + 1
  left : (¬ ∃ row ∈ door.checkIns, row.ticketId = ticket.id) →
    admissions door ticket.id = undos door ticket.id
  projected : ticket.status = .checkedIn ↔ ∃ row ∈ door.checkIns, row.ticketId = ticket.id
  time : ∀ row ∈ door.checkIns, row.ticketId = ticket.id →
    ticket.checkedInAt = some row.checkedInAt

theorem Consistent.agrees {door : Door} (consistent : Consistent door) {ticket : Ticket}
    (stored : ticket ∈ door.office.db.tickets) : LedgerAgrees door ticket := by
  have single : (checkInsOf door ticket.id).length ≤ 1 := by
    refine Table.length_select_le_one fun row other member member' => ?_
    obtain ⟨there, named⟩ := Table.mem_select.mp member
    obtain ⟨there', named'⟩ := Table.mem_select.mp member'
    exact consistent.one row there other there' (named.trans named'.symm)
  have balance := consistent.balance ticket.id
  constructor
  case single => exact single
  case entered =>
    rintro ⟨row, member, named⟩
    have listed : row ∈ checkInsOf door ticket.id := Table.mem_select.mpr ⟨member, named⟩
    have positive := List.length_pos_of_mem listed
    omega
  case left =>
    intro none
    have empty : checkInsOf door ticket.id = [] := by
      by_contra some
      exact none (Table.select_ne_nil.mp some)
    rw [balance, empty, List.length_nil, Nat.add_zero]
  case projected =>
    constructor
    · exact consistent.outside ticket stored
    · rintro ⟨row, member, named⟩
      exact (consistent.inside ticket stored row member named).1
  case time =>
    intro row member named
    exact (consistent.inside ticket stored row member named).2

/-- What the station is told of a ticket whose holder is inside since this time. -/
def alreadyInside (pass : AdmissibleTicket) (earliest : Instant) : ScanResult where
  outcome := .alreadyCheckedIn
  ticketId := some pass.id
  holderName := some pass.holderName
  ticketLabel := some pass.ticketLabel
  checkedInAt := some earliest

/-- A scan that finds the ticket inside answers and logs a duplicate, with the earliest time. -/
def AnswersInside (door : Door) : Prop :=
  ∀ call ∈ door.calls, ∀ request scan pass scannedAt,
    call.phase = .admitTicket request scan pass scannedAt →
    (∃ row ∈ door.checkIns, row.ticketId = pass.id) → ∀ now,
      let served := serveDoor door (.advance call.id now)
      ∃ earliest,
        served.presented pass.id = scannedAt :: door.presented pass.id ∧
        (served.presented pass.id).min? = some earliest ∧
        served.calls.find call.id =
          some { call with phase := .done (.scanned (alreadyInside pass earliest)) } ∧
        served.scanAttempts = door.scanAttempts.insert
          (admittedAttempt (admitInput request scan pass scannedAt) false)

/-- The insert of somebody already inside takes the conflict path. -/
theorem admit_inside {door : Door} {input : AdmitInput}
    (inside : ∃ row ∈ door.checkIns, row.ticketId = input.ticketId) :
    ∃ row ∈ door.checkIns, row.ticketId = input.ticketId ∧
      admitTicket door input = .ok (⟨min row.checkedInAt input.now, false⟩,
        admittedDoor door input ⟨min row.checkedInAt input.now, false⟩
          (door.checkIns.update (fun row => row.ticketId = input.ticketId)
            fun row => { row with checkedInAt := min row.checkedInAt input.now })) := by
  have listed := List.head?_eq_some_head (Table.select_ne_nil.mpr inside)
  obtain ⟨stored, named⟩ := Table.mem_select.mp (List.mem_of_mem_head? listed)
  refine ⟨_, stored, named, ?_⟩
  simp only [admitTicket, upsertCheckIn, listed]
  rfl

theorem Consistent.answersInside {door : Door} (consistent : Consistent door) :
    AnswersInside door := by
  intro call member request scan pass scannedAt at' inside now
  have found : door.calls.find call.id = some call := Table.find_key member
  have again : ∃ row ∈ door.checkIns,
      row.ticketId = (admitInput request scan pass scannedAt).ticketId := inside
  obtain ⟨row, stored, named, admitted⟩ := admit_inside again
  have served : serveDoor door (.advance call.id now) =
      moveDoorCall (admittedDoor door (admitInput request scan pass scannedAt)
        ⟨min row.checkedInAt scannedAt, false⟩ (door.checkIns.update
          (fun row => row.ticketId = pass.id)
          fun row => { row with checkedInAt := min row.checkedInAt scannedAt })) call.id
        (.done (.scanned (alreadyInside pass (min row.checkedInAt scannedAt)))) := by
    rw [serveDoor_advance now found, at']
    simp only [actAtDoor, admitted]
    rfl
  have least := consistent.earliest row stored
  rw [named] at least
  simp only [served, moveDoorCall, admittedDoor]
  refine ⟨min row.checkedInAt scannedAt, ?_, ?_, ?_, trivial⟩
  · simp [admitInput]
  · simp only [admitInput] at least
    simp [admitInput, List.min?_cons, least, Nat.min_comm]
  · rw [Table.find_update, found]
    simp

/-- Without refunds, the door's records agree, and a duplicate is answered as one. -/
theorem door_ledger_consistent {door : Door} (unscanned : Unscanned door) {turns : List DoorTurn}
    (meets : Meets serveDoor Unrefunded door turns) :
    (∀ ticket ∈ (run serveDoor door turns).office.db.tickets,
      LedgerAgrees (run serveDoor door turns) ticket) ∧
      AnswersInside (run serveDoor door turns) := by
  have consistent : Consistent (run serveDoor door turns) :=
    run_invariant serveDoor_consistent unscanned.consistent meets
  exact ⟨fun _ stored => consistent.agrees stored, consistent.answersInside⟩

theorem stageDoor_unscanned : Unscanned stageDoor where
  checkIns := rfl
  scanAttempts := rfl
  auditEvents := fun _ stored => absurd stored (Table.not_mem_of_empty rfl _)
  outside := by
    have issued : ∀ ticket ∈ stageDoor.office.db.tickets.rows, ticket.status ≠ .checkedIn := by
      decide +kernel
    exact issued
  presented := fun _ => rfl

/-- Two stations scan one ticket, the second with the earlier clock; then an undo and a third. -/
def scannedTwice : List DoorTurn :=
  scanning 0 10 ++ scanning 1 5 ++ [.advance 0 10, .advance 1 5] ++
    [.receive (.undo ⟨0, 0, 7⟩), .advance 2 10, .advance 2 10] ++ scanning 3 20 ++ [.advance 3 20]

theorem door_ledger_consistent_stageDoor :
    let reached := run serveDoor stageDoor scannedTwice
    (∃ ticket ∈ reached.office.db.tickets, ticket.status = .checkedIn ∧
      LedgerAgrees reached ticket) ∧ AnswersInside reached := by
  intro reached
  obtain ⟨agrees, answers⟩ :=
    door_ledger_consistent stageDoor_unscanned (show Meets serveDoor Unrefunded stageDoor
      scannedTwice by decide +kernel)
  have inside : (reached.office.db.tickets.rows.filter fun ticket =>
      ticket.status = .checkedIn) ≠ [] := by decide +kernel
  obtain ⟨ticket, member⟩ := List.exists_mem_of_ne_nil _ inside
  obtain ⟨stored, status⟩ := List.mem_filter.mp member
  exact ⟨⟨ticket, stored, by simpa using status, agrees ticket stored⟩, answers⟩

/-- The log of that evening: one admission, its duplicate, and one more after the undo. -/
example :
    let reached := run serveDoor stageDoor scannedTwice
    reached.scanAttempts.rows.map ScanAttempt.outcome =
        [.admitted, .alreadyCheckedIn, .admitted] ∧
      reached.checkIns.rows.map CheckIn.checkedInAt = [20] := by
  decide +kernel

end EventaApi.Guarantees
