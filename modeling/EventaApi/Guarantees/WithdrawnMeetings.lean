import EventaApi.Source.Meetings

/-!
# What is sent about a cancelled meeting

A cancelled meeting stays cancelled, and every write that asks the calendar for something
else is guarded by the meeting being on. A retry alone has no guard: what it asks for goes by
the meeting as its request first found it.
-/
namespace EventaApi.Guarantees
open Library Source

/-! ## What is asked of the outbox -/

abbrev MeetingPool := Pool MeetingDesk MeetingPhase

abbrev MeetingTurn := PoolTurn MeetingRequest String MeetingWorld

/-- The meeting has been cancelled. -/
def IsCancelled (desk : MeetingDesk) (id : Nat) : Prop :=
  ∃ row ∈ desk.meetings.find id, row.status = .cancelled

/-- From a cancellation on, the calendar is asked for nothing but to withdraw the meeting. -/
def StaysWithdrawn (start : MeetingPool) (turns : List MeetingTurn) : Prop :=
  ∀ id first during last, turns = first ++ during ++ last →
    let before := run meetingRequests.serve start first
    let after := run meetingRequests.serve before during
    IsCancelled before.shared id →
      ∃ sent, after.shared.outbox = before.shared.outbox ++ sent ∧
        ∀ event ∈ sent, event.meetingId = id → event.intent = .cancel

/-- A retry that found its meeting on does not write once it is cancelled. -/
def retriesInTime (desk : MeetingDesk) (_ : String) : MeetingPhase → Prop
  | .retry meeting _ => meeting.status = .scheduled →
    ∀ row ∈ findMeeting desk meeting.id, row.status = .scheduled
  | _ => True

instance (desk : MeetingDesk) (input : String) : DecidablePred (retriesInTime desk input)
  | .retry meeting _ => inferInstanceAs (Decidable (_ → ∀ _ ∈ findMeeting desk meeting.id, _))
  | .first _ | .insert _ _ _ | .locate _ _ _ _ | .move _ _ _ _ _ | .done _ => isTrue trivial

def RetriesInTime : MeetingPool → MeetingTurn → Prop :=
  Handler.Guarded retriesInTime fun _ _ => True

instance (pool : MeetingPool) (turn : MeetingTurn) : Decidable (RetriesInTime pool turn) :=
  inferInstanceAs (Decidable (Handler.Guarded _ _ pool turn))

/-! ## One write -/

/-- What is added to the outbox about a meeting that was cancelled withdraws it. -/
def SendsWithdrawn (desk after : MeetingDesk) : Prop :=
  ∀ id, IsCancelled desk id → ∃ sent, after.outbox = desk.outbox ++ sent ∧
    ∀ event ∈ sent, event.meetingId = id → event.intent = .cancel

section Writes

variable {desk : MeetingDesk} {hit : Meeting → Prop} [DecidablePred hit]
variable {write : Meeting → Meeting} {keeps : ∀ row, Keyed.key (write row) = Keyed.key row}
variable {buildSync : Meeting → MeetingSync}

theorem isCancelled_of_row {row : Meeting} (stored : row ∈ desk.meetings) :
    IsCancelled desk row.id ↔ row.status = .cancelled := by
  have found : desk.meetings.find row.id = some row := Table.find_key stored
  unfold IsCancelled
  simp [found]

theorem not_cancelled {row : Meeting} : row.status ≠ .cancelled ↔ row.status = .scheduled := by
  cases row.status <;> simp

/-- A write that sends nothing sends nothing wrong. -/
theorem sendsWithdrawn_of_eq {after : MeetingDesk} (same : after.outbox = desk.outbox) :
    SendsWithdrawn desk after :=
  fun _ _ => ⟨[], by rw [same, List.append_nil], fun _ member => absurd member List.not_mem_nil⟩

/-- A write of meetings sends what its builder makes of each row it wrote. -/
theorem sendsWithdrawn_write (about : ∀ row, (buildSync (write row)).meetingId = row.id) :
    SendsWithdrawn desk (writeMeetings desk hit write keeps buildSync).1 ↔
      ∀ row ∈ desk.meetings, hit row → row.status = .cancelled →
        (buildSync (write row)).intent = .cancel := by
  let returned := (desk.meetings.select hit).map write
  have outbox : (writeMeetings desk hit write keeps buildSync).1.outbox =
      desk.outbox ++ returned.map buildSync := rfl
  have sent_iff {event : MeetingSync} : event ∈ returned.map buildSync ↔
      ∃ row, (row ∈ desk.meetings ∧ hit row) ∧ buildSync (write row) = event := by
    simp [returned, Table.mem_select]
  constructor
  · intro sends row stored struck cancelled
    obtain ⟨sent, added, withdraws⟩ := sends row.id ((isCancelled_of_row stored).mpr cancelled)
    have same : sent = returned.map buildSync := List.append_cancel_left (added.symm.trans outbox)
    refine withdraws _ ?_ (about row)
    rw [same]
    exact sent_iff.mpr ⟨row, ⟨stored, struck⟩, rfl⟩
  · intro withdraws id cancelled
    refine ⟨_, outbox, fun event member named => ?_⟩
    obtain ⟨row, ⟨stored, struck⟩, rfl⟩ := sent_iff.mp member
    rw [about row] at named
    subst named
    exact withdraws row stored struck ((isCancelled_of_row stored).mp cancelled)

/-- A write that takes no cancelled meeting back leaves every one cancelled. -/
theorem isCancelled_update {after : MeetingDesk} {id : Nat}
    (written : after.meetings = desk.meetings.update hit write keeps)
    (stays : ∀ row, hit row → row.status = .cancelled → (write row).status = .cancelled)
    (cancelled : IsCancelled desk id) : IsCancelled after id := by
  obtain ⟨row, found, status⟩ := cancelled
  unfold IsCancelled
  rw [written]
  exact Table.exists_find_update found (fun struck => stays row struck status) fun _ => status

end Writes

/-! ## One step -/

section Steps

variable {desk : MeetingDesk}

theorem written_shared (missing : DomainException) (saved : MeetingDesk × List Meeting) :
    (written missing saved).1 = saved.1 := rfl

theorem insertMeeting_sends (input : NewMeeting) (needsLink : Bool) (now : Instant) :
    SendsWithdrawn desk (insertMeeting desk input needsLink now).1 := by
  unfold insertMeeting
  split
  · exact sendsWithdrawn_of_eq rfl
  · split
    · rintro _ ⟨row, found, _⟩
      refine ⟨_, rfl, fun event member named => ?_⟩
      -- the new meeting's key is one no meeting has
      rw [List.mem_singleton.mp member] at named
      have fresh : desk.meetings.next = row.id := named.trans (Table.find_eq_some.mp found).2.symm
      exact absurd fresh.symm (Nat.ne_of_lt (Table.key_lt_next (Table.find_eq_some.mp found).1))
    · exact sendsWithdrawn_of_eq rfl

theorem cancelMeeting_sends (id : Nat) (reason : Option String) :
    SendsWithdrawn desk (cancelMeeting desk id reason).1 := by
  unfold cancelMeeting
  rw [written_shared, sendsWithdrawn_write fun _ => rfl]
  exact fun row _ _ _ => rfl

theorem resyncUnsynced_sends : SendsWithdrawn desk (resyncUnsynced desk).1 := by
  unfold resyncUnsynced
  rw [sendsWithdrawn_write fun row => by split <;> rfl]
  intro row _ _ cancelled
  rw [if_pos cancelled]
  rfl

theorem rescheduleMeeting_sends (id version : Nat) (patch : MeetingPatch) (needsLink : Bool)
    (now : Instant) : SendsWithdrawn desk (rescheduleMeeting desk id version patch needsLink now).1 := by
  unfold rescheduleMeeting
  split
  · rw [written_shared, sendsWithdrawn_write fun _ => rfl]
    rintro row _ ⟨_, _, scheduled, _⟩ cancelled
    rw [scheduled] at cancelled
    cases cancelled
  · exact sendsWithdrawn_of_eq rfl

/-- A retry sends what is right of a cancelled meeting exactly when it found it cancelled. -/
theorem retrySync_sends (meeting : Meeting) (now : Instant) :
    SendsWithdrawn desk (retrySync desk meeting now).1 ↔
      (meeting.status = .scheduled →
        ∀ row ∈ findMeeting desk meeting.id, row.status = .scheduled) := by
  unfold retrySync
  rw [written_shared, sendsWithdrawn_write fun _ => rfl]
  have found_iff {row : Meeting} : row ∈ findMeeting desk meeting.id ↔
      row ∈ desk.meetings ∧ Retriable meeting.id row := by
    unfold findMeeting Retriable
    rw [Option.mem_def, Option.filter_eq_some_iff, Table.find_eq_some, decide_eq_true_eq, and_assoc]
    exact Iff.rfl
  constructor
  · intro withdraws scheduled row found
    obtain ⟨stored, struck⟩ := found_iff.mp found
    refine not_cancelled.mp fun cancelled => ?_
    have intent := withdraws row stored struck cancelled
    rw [if_neg (not_cancelled.mpr scheduled)] at intent
    change intentFor _ = _ at intent
    unfold intentFor at intent
    split at intent <;> cases intent
  · intro inTime row stored struck cancelled
    by_cases seen : meeting.status = .cancelled
    · rw [if_pos seen]
      rfl
    · have scheduled := inTime (not_cancelled.mp seen) row (found_iff.mpr ⟨stored, struck⟩)
      rw [scheduled] at cancelled
      cases cancelled

theorem act_sends (desk : MeetingDesk) (input : String) (phase : MeetingPhase) :
    SendsWithdrawn desk (actOnMeetings desk input phase).1 ↔ retriesInTime desk input phase := by
  have right {after : MeetingDesk} (sends : SendsWithdrawn desk after) :
      SendsWithdrawn desk after ↔ True := iff_true_intro sends
  cases phase with
  | first request =>
    cases request with
    | schedule | reschedule | retrySync => exact right (sendsWithdrawn_of_eq rfl)
    | cancel id reason => exact right (cancelMeeting_sends id reason)
    | resyncUnsynced => exact right resyncUnsynced_sends
  | insert input needsLink now => exact right (insertMeeting_sends input needsLink now)
  | locate | done => exact right (sendsWithdrawn_of_eq rfl)
  | move id version patch needsLink now =>
    exact right (rescheduleMeeting_sends id version patch needsLink now)
  | retry meeting now => exact retrySync_sends meeting now

/-- No step takes a cancellation back. -/
theorem act_cancelled (input : String) (phase : MeetingPhase) {id : Nat}
    (cancelled : IsCancelled desk id) : IsCancelled (actOnMeetings desk input phase).1 id := by
  cases phase with
  | first request =>
    cases request with
    | schedule | reschedule | retrySync => exact cancelled
    | cancel other reason => exact isCancelled_update rfl (fun _ _ _ => rfl) cancelled
    | resyncUnsynced => exact isCancelled_update rfl (fun _ _ status => status) cancelled
  | insert input needsLink now =>
    change IsCancelled (insertMeeting desk input needsLink now).1 id
    unfold insertMeeting
    split
    · exact cancelled
    · split
      · obtain ⟨row, found, status⟩ := cancelled
        exact ⟨row, Table.find_insert_of_found found, status⟩
      · exact cancelled
  | locate | done => exact cancelled
  | move other version patch needsLink now =>
    change IsCancelled (rescheduleMeeting desk other version patch needsLink now).1 id
    unfold rescheduleMeeting
    split
    · exact isCancelled_update rfl (fun _ _ status => status) cancelled
    · exact cancelled
  | retry meeting now => exact isCancelled_update rfl (fun _ _ status => status) cancelled

theorem changeMeetings_cancelled (event : MeetingWorld) {id : Nat}
    (cancelled : IsCancelled desk id) : IsCancelled (changeMeetings desk event) id := by
  cases event with
  | tick | eventCreated | eventChanged => exact cancelled
  | reported | eventDeleted => exact isCancelled_update rfl (fun _ _ status => status) cancelled

theorem changeMeetings_outbox (desk : MeetingDesk) (event : MeetingWorld) :
    (changeMeetings desk event).outbox = desk.outbox := by
  cases event <;> rfl

end Steps

/-! ## Runs -/

theorem serve_cancelled (pool : MeetingPool) (turn : MeetingTurn) (id : Nat) :
    IsCancelled pool.shared id → IsCancelled (meetingRequests.serve pool turn).shared id := by
  let lasts (before after : MeetingDesk) : Prop := IsCancelled before id → IsCancelled after id
  have kept : lasts pool.shared (meetingRequests.serve pool turn).shared := by
    refine Handler.serve_shared (fun cancelled => cancelled) (fun job _ input => ?_) (fun event => ?_) turn
    · exact act_cancelled input job.phase
    · exact changeMeetings_cancelled event
  exact kept

/-- Exactly the retries that come too late send something else of a cancelled meeting. -/
theorem serve_sends (pool : MeetingPool) (turn : MeetingTurn) :
    SendsWithdrawn pool.shared (meetingRequests.serve pool turn).shared ↔ RetriesInTime pool turn := by
  refine Handler.serve_judged (sendsWithdrawn_of_eq rfl) (fun job _ input => ?_) (fun event => ?_)
    turn
  · exact act_sends pool.shared input job.phase
  · exact iff_of_true (sendsWithdrawn_of_eq (changeMeetings_outbox pool.shared event)) trivial

/-- A run whose steps send nothing wrong of a cancelled meeting sends nothing wrong of one. -/
theorem sends_run {start : MeetingPool} {turns : List MeetingTurn} {id : Nat}
    (cancelled : IsCancelled start.shared id)
    (sends : Meets meetingRequests.serve (fun pool turn =>
      SendsWithdrawn pool.shared (meetingRequests.serve pool turn).shared) start turns) :
    ∃ sent, (run meetingRequests.serve start turns).shared.outbox = start.shared.outbox ++ sent ∧
      ∀ event ∈ sent, event.meetingId = id → event.intent = .cancel := by
  induction turns generalizing start with
  | nil => exact ⟨[], (List.append_nil _).symm, fun event member => absurd member List.not_mem_nil⟩
  | cons turn rest ih =>
    obtain ⟨sent, added, withdraws⟩ := sends.1 id cancelled
    obtain ⟨others, more, withdraw⟩ := ih (serve_cancelled start turn id cancelled) sends.2
    refine ⟨sent ++ others, ?_, fun event member about => ?_⟩
    · rw [run_cons, more, added, List.append_assoc]
    · rcases List.mem_append.mp member with now | after
      · exact withdraws event now about
      · exact withdraw event after about

/-- A cancelled meeting stays withdrawn in a run exactly when no retry writes to it that first
found it on. -/
theorem staysWithdrawn_iff (start : MeetingPool) (turns : List MeetingTurn) :
    StaysWithdrawn start turns ↔ Meets meetingRequests.serve RetriesInTime start turns := by
  constructor
  · intro holds
    refine meets_of_cuts fun first turn rest cut => (serve_sends _ _).mp fun id cancelled => ?_
    exact holds id first [turn] rest (by rw [cut, List.append_assoc]; rfl) cancelled
  · rintro inTime id first during last rfl before after cancelled
    rw [List.append_assoc] at inTime
    have during := (meets_append.mp (meets_append.mp inTime).2).1
    exact sends_run cancelled (during.mono fun pool turn => (serve_sends pool turn).mpr)

/-! ## A retry overtaken by a cancellation -/

/-- A call with the venue, on the day after the epoch, from nine to ten. -/
def walkthrough : ScheduleMeetingCommand where
  title := "Walkthrough"
  date := 1
  startTime := 540
  endTime := 600
  type := .venue
  mode := .phone
  person := "Malee"
  role := none
  guestEmail := "malee@venue.co.th"
  eventId := none
  notes := none
  idempotencyKey := none

def emptyDesk : MeetingPool where
  shared := { meetings := Table.empty, events := Table.empty, outbox := [], clock := 0 }
  jobs := Table.empty

/-- The meeting is booked, a retry finds it on, and it is cancelled. -/
def cancelledMeanwhile : List MeetingTurn :=
  [.receive (.schedule 0 walkthrough), .advance 0 "key", .advance 0 "", .receive (.retrySync 0),
    .advance 1 "", .receive (.cancel 0 none), .advance 2 ""]

def asked (event : MeetingSync) : Nat × MeetingSyncIntent := (event.meetingId, event.intent)

/-- The retry then asks the calendar to create the meeting that was withdrawn. -/
theorem cancelledMeanwhile_recreates : ¬ ∀ (start : MeetingPool) (turns : List MeetingTurn),
    StaysWithdrawn start turns := by
  intro holds
  let before := run meetingRequests.serve emptyDesk cancelledMeanwhile
  have cancelled : IsCancelled before.shared 0 :=
    (by decide +kernel : ∃ row ∈ before.shared.meetings.find 0, row.status = .cancelled)
  obtain ⟨sent, added, withdraws⟩ :=
    holds emptyDesk (cancelledMeanwhile ++ [.advance 1 ""]) 0 cancelledMeanwhile [.advance 1 ""] []
      rfl cancelled
  have old : before.shared.outbox.map asked = [(0, .create), (0, .cancel)] := by decide +kernel
  have new : (run meetingRequests.serve before [.advance 1 ""]).shared.outbox.map asked =
      [(0, .create), (0, .cancel), (0, .create)] := by decide +kernel
  have last : sent.map asked = [(0, .create)] := by
    rw [added, List.map_append, old] at new
    have split : [(0, MeetingSyncIntent.create), (0, .cancel)] ++ sent.map asked =
        [(0, .create), (0, .cancel)] ++ [(0, .create)] := new
    exact List.append_cancel_left split
  obtain ⟨event, member, same⟩ : ∃ event ∈ sent, asked event = (0, .create) :=
    List.mem_map.mp (last ▸ List.mem_singleton_self _)
  obtain ⟨about, create⟩ := Prod.mk.inj same
  cases (withdraws event member about).symm.trans create

end EventaApi.Guarantees
