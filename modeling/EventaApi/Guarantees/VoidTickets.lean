import EventaApi.Guarantees.Opening
import EventaApi.Source.CheckIn

/-!
# Void tickets stay void

A request at the door reads the ticket in one step and writes in a later one, and the
write looks only at the check-in row: neither the admission nor the undo reads the
ticket's status again. While no write of the door meets a void ticket, a refunded
ticket's row stays as it is, nobody is checked in on it, and no admission is reported.
-/
namespace EventaApi.Guarantees
open Library Source

/-! ## How checkout moves the tickets -/

/-- What one operation may make of the tickets: nothing, new ones, or a refund's. -/
inductive TicketsMoved (db : Db) : Op → Table Ticket → Prop where
  | same (op : Op) : TicketsMoved db op db.tickets
  | minted {α : Type} (op : Op) (values : List α) (build : α → Nat → Ticket)
      (keyed : ∀ value id, Keyed.key (build value id) = id)
      (issued : ∀ value id, (build value id).status = .issued ∧
        (build value id).checkedInAt = none) :
      TicketsMoved db op (db.tickets.insertEach values build keyed)
  | refunded (orderId : Nat) (recordRefund : Ledger → Except TxError Ledger) :
      TicketsMoved db (.refundOrder orderId recordRefund)
        (db.tickets.update (fun ticket => ticket.orderId = orderId ∧ ticket.live)
          fun ticket => { ticket with status := .refunded })

theorem committed_tickets {db after : Db} {now : Instant} {op : Op}
    (committed : Committed db now op after) : TicketsMoved db op after.tickets := by
  cases committed with
  | placed input placed _ placement =>
    cases issues : input.issueTickets with
    | true =>
      rw [placement.ticketed issues]
      exact .minted _ _ _ _ fun _ _ => ⟨rfl, rfl⟩
    | false =>
      rw [placement.unticketed issues]
      exact .same _
  | settled input order settlement _ found settles =>
    cases settles with
    | completes => exact .minted _ _ _ _ fun _ _ => ⟨rfl, rfl⟩
    | already | refused | unavailable | awaits => exact .same _
  | refunded orderId recordRefund order ledger found =>
    have named : order.id = orderId := (Table.find_eq_some.mp found).2
    subst named
    exact .refunded _ _
  | idle | sweptSeats | heldSeats | sweptTier | heldQuantity | released | releasedUnattached
  | expired | joined | offered | rejected | releasedOrder | recorded | enqueued => exact .same _

theorem step_tickets (workspace : Workspace) (op : Op) :
    TicketsMoved workspace.db op (step workspace op).db.tickets := by
  rcases step_db workspace op with same | committed
  · rw [same]
    exact .same op
  · exact committed_tickets (commit_cases committed)

/-- A ticket that is not entitled to entry. -/
def isVoid (ticket : Ticket) : Prop := ticket.status ∈ DENIED_STATUSES

instance (ticket : Ticket) : Decidable (isVoid ticket) := inferInstanceAs (Decidable (_ ∈ _))

theorem not_live_of_isVoid {ticket : Ticket} (void : isVoid ticket) : ¬ ticket.live := by
  intro live
  rcases live with issued | inside
  · simp [isVoid, issued, DENIED_STATUSES] at void
  · simp [isVoid, inside, DENIED_STATUSES] at void

/-- Checkout leaves a void ticket's row alone. -/
theorem step_void (workspace : Workspace) (op : Op) {ticket : Ticket}
    (stored : ticket ∈ workspace.db.tickets) (void : isVoid ticket) :
    ticket ∈ (step workspace op).db.tickets := by
  have moved := step_tickets workspace op
  generalize (step workspace op).db.tickets = after at moved
  cases moved with
  | same => exact stored
  | minted => exact Table.mem_insertEach.mpr (Or.inl stored)
  | refunded =>
    refine Table.mem_update_of_miss stored ?_
    intro hit
    exact not_live_of_isVoid void hit.2

/-! ## The condition -/

/-- The write this phase is about to make meets the ticket void. -/
def touchesVoid (door : Door) (ticketId : Nat) : DoorPhase → Prop
  | .admitTicket _ _ ticket _ => ticket.id = ticketId ∧
    ∃ row ∈ door.office.db.tickets.rows, row.id = ticketId ∧ isVoid row
  | .undo request => request.ticketId = ticketId ∧
    (∃ row ∈ door.office.db.tickets.rows, row.id = ticketId ∧ isVoid row) ∧
    ∃ row ∈ door.checkIns.rows, row.eventId = request.eventId ∧ row.ticketId = ticketId
  | _ => False

instance (door : Door) (ticketId : Nat) : (phase : DoorPhase) →
    Decidable (touchesVoid door ticketId phase)
  | .admitTicket _ _ _ _ => inferInstanceAs (Decidable (_ ∧ ∃ _ ∈ _, _))
  | .undo _ => inferInstanceAs (Decidable (_ ∧ (∃ _ ∈ _, _) ∧ ∃ _ ∈ _, _))
  | .requireOpenDoor _ | .findTicket _ | .refuse _ _ _ _ _ | .done _ => isFalse id

/-- No admission, and no undo that would find a check-in, is written on the void ticket. -/
def SparesVoid (ticketId : Nat) (door : Door) : DoorTurn → Prop
  | .advance callId _ => ∀ call ∈ door.calls.rows, call.id = callId →
    ¬ touchesVoid door ticketId call.phase
  | _ => True

instance (ticketId : Nat) (door : Door) : (turn : DoorTurn) →
    Decidable (SparesVoid ticketId door turn)
  | .advance _ _ => inferInstanceAs (Decidable (∀ _ ∈ _, _))
  | .checkout _ | .organize _ | .receive _ | .crash _ => isTrue trivial

/-! ## What stays -/

/-- The row is as it was, and nobody was checked in on the ticket since. -/
structure StaysVoid (door reached : Door) (ticket : Ticket) : Prop where
  stored : ticket ∈ reached.office.db.tickets
  uncreated : ∀ row ∈ reached.checkIns, row.ticketId = ticket.id → row ∈ door.checkIns
  unlogged : ∀ attempt ∈ reached.scanAttempts, attempt.ticketId = some ticket.id →
    attempt.outcome = .admitted → attempt ∈ door.scanAttempts
  unreported : ∀ call ∈ reached.calls, ∀ result, call.phase = .done (.scanned result) →
    result.ticketId = some ticket.id → result.outcome = .admitted → call ∈ door.calls

theorem StaysVoid.refl {door : Door} {ticket : Ticket}
    (stored : ticket ∈ door.office.db.tickets) : StaysVoid door door ticket where
  stored := stored
  uncreated := fun _ member _ => member
  unlogged := fun _ member _ _ => member
  unreported := fun _ member _ _ _ _ => member

theorem StaysVoid.trans {door middle reached : Door} {ticket : Ticket}
    (first : StaysVoid door middle ticket) (second : StaysVoid middle reached ticket) :
    StaysVoid door reached ticket where
  stored := second.stored
  uncreated := fun row member named => first.uncreated row (second.uncreated row member named) named
  unlogged := fun attempt member named admitted =>
    first.unlogged attempt (second.unlogged attempt member named admitted) named admitted
  unreported := fun call member result ended named admitted =>
    first.unreported call (second.unreported call member result ended named admitted) result ended
      named admitted

section Step

variable {door : Door} {ticket : Ticket}

/-- Nobody's answer to a request changes but the one that took the step. -/
theorem moved_reply {acted : Door} {callId : Nat} {call : DoorCall} {next : DoorPhase}
    (calls : acted.calls = door.calls) (found : door.calls.find callId = some call)
    (news : ∀ result, next = .done (.scanned result) → result.ticketId = some ticket.id →
      result.outcome = .admitted → call.phase = next) :
    ∀ other ∈ (moveDoorCall acted callId next).calls, ∀ result,
      other.phase = .done (.scanned result) → result.ticketId = some ticket.id →
        result.outcome = .admitted → other ∈ door.calls := by
  intro other member result ended named admitted
  obtain ⟨old, before, rfl⟩ := Table.mem_update.mp member
  rw [calls] at before
  by_cases hit : old.id = callId
  · obtain ⟨stored, same⟩ := Table.find_eq_some.mp found
    have mine : old = call := Table.eq_of_key before stored (hit.trans same.symm)
    rw [if_pos hit] at ended ⊢
    subst mine
    have unmoved := news result ended named admitted
    rw [← unmoved]
    exact before
  · rw [if_neg hit]
    exact before

theorem refusal_not_admitted (refusal : Refusal) : refusal.outcome ≠ .admitted := by
  cases refusal <;> simp [Refusal.outcome]

/-- One step of a request that meets no void ticket leaves this one void. -/
theorem acts_staysVoid {acted : Door} {callId : Nat} {call : DoorCall} {next : DoorPhase}
    (found : door.calls.find callId = some call) (acts : DoorActs door call.phase acted next)
    (stored : ticket ∈ door.office.db.tickets) (void : isVoid ticket)
    (spares : ¬ touchesVoid door ticket.id call.phase) :
    StaysVoid door (moveDoorCall acted callId next) ticket := by
  generalize at' : call.phase = phase at acts spares
  have known : ∃ row ∈ door.office.db.tickets.rows, row.id = ticket.id ∧ isVoid row :=
    ⟨ticket, stored, rfl, void⟩
  -- A write on another ticket leaves this ticket's row where it is.
  have apart {ticketId : Nat} {write : Ticket → Ticket}
      {keeps : ∀ row, Keyed.key (write row) = Keyed.key row} (other : ticketId ≠ ticket.id) :
      ticket ∈ door.office.db.tickets.update (fun row => row.id = ticketId) write keeps :=
    Table.mem_update_of_miss stored fun hit => other hit.symm
  cases acts with
  | read _ _ news =>
    refine ⟨stored, fun _ member _ => member, fun _ member _ _ => member, ?_⟩
    exact moved_reply rfl found fun result ended _ _ => at'.trans (news result ended)
  | refused request scan refusal pass scannedAt =>
    refine ⟨stored, fun _ member _ => member, ?_, ?_⟩
    · intro attempt member named admitted
      exact Table.mem_of_insert (fun row => row.outcome = .admitted) member admitted
        (refusal_not_admitted refusal)
    · refine moved_reply rfl found fun result ended _ admitted => ?_
      cases ended
      exact absurd admitted (refusal_not_admitted refusal)
  | admitted request scan pass scannedAt =>
    have other : pass.id ≠ ticket.id := fun same => spares ⟨same, known⟩
    refine ⟨apart other, ?_, ?_, ?_⟩
    · intro row member named
      exact Table.mem_of_insert (fun row => row.ticketId = ticket.id) member named other
    · intro attempt member named _
      exact Table.mem_of_insert (fun row => row.ticketId = some ticket.id) member named
        fun same => other (Option.some.inj same)
    · refine moved_reply rfl found fun result ended named _ => ?_
      cases ended
      exact absurd (Option.some.inj named) other
  | again request scan pass scannedAt row inside =>
    have other : pass.id ≠ ticket.id := fun same => spares ⟨same, known⟩
    refine ⟨apart other, ?_, ?_, ?_⟩
    · intro row' member named
      rcases Table.mem_update_cases member with ⟨old, before, hit, rfl⟩ | ⟨before, hit⟩
      · exact absurd (hit.symm.trans named) other
      · exact before
    · intro attempt member named _
      exact Table.mem_of_insert (fun row => row.ticketId = some ticket.id) member named
        fun same => other (Option.some.inj same)
    · refine moved_reply rfl found fun result ended named _ => ?_
      cases ended
      exact absurd (Option.some.inj named) other
  | undone request matched =>
    have other : request.ticketId ≠ ticket.id := by
      intro same
      obtain ⟨row, inside, event, named⟩ := matched
      exact spares ⟨same, known, row, inside, event, named.trans same⟩
    refine ⟨apart other, ?_, fun _ member _ _ => member, ?_⟩
    · intro row member _
      exact (Table.mem_delete.mp member).1
    · refine moved_reply rfl found fun result ended _ _ => ?_
      cases ended

theorem serveDoor_staysVoid (turn : DoorTurn) (stored : ticket ∈ door.office.db.tickets)
    (void : isVoid ticket) (spares : SparesVoid ticket.id door turn) :
    StaysVoid door (serveDoor door turn) ticket := by
  have quiet : StaysVoid door door ticket := .refl stored
  cases turn with
  | checkout op => exact ⟨step_void door.office op stored void, quiet.uncreated, quiet.unlogged,
      quiet.unreported⟩
  | organize write => exact ⟨stored, quiet.uncreated, quiet.unlogged, quiet.unreported⟩
  | receive request =>
    refine ⟨stored, quiet.uncreated, quiet.unlogged, ?_⟩
    intro call member result ended _ _
    rcases Table.mem_insert.mp member with old | rfl
    · exact old
    · cases ended
  | advance callId now =>
    cases found : door.calls.find callId with
    | none => simpa [serveDoor, found] using quiet
    | some call =>
      rw [serveDoor_advance now found]
      obtain ⟨there, named⟩ := Table.find_eq_some.mp found
      exact acts_staysVoid found (actAtDoor_cases door now call.phase) stored void
        (spares call there named)
  | crash callId =>
    cases found : door.calls.find callId with
    | none =>
      refine ⟨stored, quiet.uncreated, quiet.unlogged, ?_⟩
      intro call member result ended _ _
      obtain ⟨old, before, rfl⟩ := Table.mem_update.mp member
      have missing : old.id ≠ callId := Table.find_eq_none.mp found old before
      rw [if_neg missing]
      exact before
    | some call =>
      refine ⟨stored, quiet.uncreated, quiet.unlogged, ?_⟩
      refine moved_reply (rfl : door.calls = _) found fun result ended _ _ => ?_
      cases ended

end Step

/-- A free order of one ticket, on the day of its event. -/
def stageDoor : Door where
  office := run step boxOffice [.placeOrder (booking "A" 0 0 none [] 0 false)]
  events := ⟨[{ id := 0, status := .live, startAt := 0 }], 1, by decide, by decide⟩
  checkIns := Table.empty
  scanAttempts := Table.empty
  auditEvents := Table.empty
  calls := Table.empty
  sha256 := id
  presented := fun _ => []

/-- The ticket's code is read at the station. -/
def scanning (callId : Nat) (now : Instant) : List DoorTurn :=
  [.receive (.present ⟨0, .scan "A", none, 7⟩), .advance callId now, .advance callId now]

def ticketRefund : DoorTurn := .checkout (.refundOrder 0 .ok)

/-- An admission undone after the refund makes the ticket good for entry again. -/
theorem refunded_ticket_reissued :
    let voided := run serveDoor stageDoor (scanning 0 10 ++ [.advance 0 10, ticketRefund])
    let reached := run serveDoor voided
      ([.receive (.undo ⟨0, 0, 7⟩), .advance 1 10, .advance 1 10])
    voided.office.db.tickets.rows.map Ticket.status = [.refunded] ∧
      reached.office.db.tickets.rows.map Ticket.status = [.issued] := by
  decide +kernel

end EventaApi.Guarantees
