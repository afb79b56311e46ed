import EventaApi.Source.Announcements

/-!
# What becomes of an announcement

An announcement leaves the state it is scheduled in once, and then stays as it is. Its entry in the
outbox is written by the transaction that marks it sent, so that the two say the same, and a
cancelled one has none. A send time counts from when it was checked.
-/
namespace EventaApi.Guarantees
open Library Source

/-! ## Sound desks -/

/-- The entry that goes with the row of a sent announcement. -/
def emailOf (row : Announcement) : AttendeesEmail where
  organizationId := row.organizationId
  eventId := row.eventId
  subject := row.subject
  message := row.body
  requestedByUserId := row.sentByUserId
  recipientCount := row.recipientCount.getD 0
  occurredAt := row.sentAt.getD 0

/-- The entries that were queued for an announcement. -/
def entriesOf (outbox : List QueuedSend) (id : Nat) : List AttendeesEmail :=
  (outbox.filter fun send => send.announcementId = id).map QueuedSend.email

/-- A sent announcement has its one entry, and any other none. -/
def AsRecorded (desk : AnnouncementDesk) (row : Announcement) : Prop :=
  row.CheckState ∧
    entriesOf desk.outbox row.id = if row.status = .sent then [emailOf row] else []

/-- The time lies where it may, seen from when it was checked. -/
def Timely (time : AcceptedTime) : Prop :=
  time.checkedAt + MIN_SCHEDULE_LEAD_MS ≤ time.sendAt ∧
    time.sendAt ≤ time.checkedAt + MAX_SCHEDULE_AHEAD_MS

/-- The announcement's time is the last that was accepted for it, and it did not go before. -/
def OnTime (desk : AnnouncementDesk) (row : Announcement) : Prop :=
  ∀ sendAt ∈ row.scheduledFor,
    (∃ time, desk.accepted.find? (fun time => time.announcementId = row.id) = some time ∧
      time.sendAt = sendAt ∧ Timely time) ∧
    (row.status = .sent → ∀ sentAt ∈ row.sentAt, sendAt ≤ sentAt)

structure AnnouncementsSound (desk : AnnouncementDesk) : Prop where
  recorded : ∀ row ∈ desk.announcements, AsRecorded desk row
  onTime : ∀ row ∈ desk.announcements, OnTime desk row
  known : ∀ send ∈ desk.outbox, ∃ row ∈ desk.announcements, row.id = send.announcementId
  issued : ∀ time ∈ desk.accepted, time.announcementId < desk.announcements.next

/-! ## Changes -/

/-- What a step may do to the announcements, their entries and their times. -/
inductive Changes (desk : AnnouncementDesk) : AnnouncementDesk → Prop
  | same {after : AnnouncementDesk} (rows : after.announcements = desk.announcements)
      (outbox : after.outbox = desk.outbox) (accepted : after.accepted = desk.accepted) :
      Changes desk after
  | recorded (broadcast : Broadcast) (recipients sentAt : Nat) :
      Changes desk (recordAnnouncement desk broadcast recipients sentAt)
  | scheduled (broadcast : Broadcast) (checkedAt sendAt : Instant)
      (timely : Timely ⟨desk.announcements.next, checkedAt, sendAt⟩) :
      Changes desk (recordScheduled desk broadcast checkedAt sendAt)
  | cancelled (organizationId id userId now : Nat) :
      Changes desk { desk with
        announcements := desk.announcements.update (StillScheduled organizationId id)
          (cancelledBy userId now) }
  | moved (organizationId id sendAt now : Nat) (timely : Timely ⟨id, now, sendAt⟩)
      (there : ∃ row ∈ desk.announcements, StillScheduled organizationId id row) :
      Changes desk { desk with
        announcements := desk.announcements.update (StillScheduled organizationId id)
          (movedTo sendAt now)
        accepted := ⟨id, now, sendAt⟩ :: desk.accepted }
  | swept (id recipientCount : Nat) : Changes desk (sweep desk id recipientCount)

section Changes

variable {desk after : AnnouncementDesk}

theorem entriesOf_append (outbox : List QueuedSend) (send : QueuedSend) (id : Nat) :
    entriesOf (outbox ++ [send]) id =
      entriesOf outbox id ++ if send.announcementId = id then [send.email] else [] := by
  unfold entriesOf
  rw [List.filter_append, List.map_append, List.filter_singleton]
  by_cases same : send.announcementId = id <;> simp [same]

/-- An entry is of an announcement that is there. -/
theorem AnnouncementsSound.entriesOf_next (sound : AnnouncementsSound desk) :
    entriesOf desk.outbox desk.announcements.next = [] := by
  unfold entriesOf
  rw [List.map_eq_nil_iff, List.filter_eq_nil_iff]
  intro send queued mine
  obtain ⟨row, stored, named⟩ := sound.known send queued
  have below : row.id < desk.announcements.next := Table.key_lt_next stored
  have same : send.announcementId = desk.announcements.next := by simpa using mine
  omega

/-- No time was accepted for an announcement that is not there yet. -/
theorem AnnouncementsSound.find_accepted_next (sound : AnnouncementsSound desk) {id : Nat}
    (fresh : desk.announcements.next ≤ id) :
    desk.accepted.find? (fun time => time.announcementId = id) = none := by
  rw [List.find?_eq_none]
  intro time accepted mine
  have below := sound.issued time accepted
  have same : time.announcementId = id := by simpa using mine
  omega

/-- A row as it is recorded goes by its entries, and as it is timed by its times. -/
theorem AsRecorded.congr {row : Announcement} (recorded : AsRecorded desk row)
    (outbox : entriesOf after.outbox row.id = entriesOf desk.outbox row.id) :
    AsRecorded after row :=
  ⟨recorded.1, outbox.trans recorded.2⟩

theorem OnTime.congr {row : Announcement} (onTime : OnTime desk row)
    (accepted : after.accepted.find? (fun time => time.announcementId = row.id) =
      desk.accepted.find? fun time => time.announcementId = row.id) : OnTime after row := by
  intro sendAt due
  obtain ⟨⟨time, found, same⟩, punctual⟩ := onTime sendAt due
  exact ⟨⟨time, accepted.trans found, same⟩, punctual⟩

theorem AnnouncementsSound.recordAnnouncement (sound : AnnouncementsSound desk)
    (broadcast : Broadcast) (recipients sentAt : Nat) :
    AnnouncementsSound (recordAnnouncement desk broadcast recipients sentAt) where
  recorded row member := by
    rcases Table.mem_insert.mp member with old | rfl
    · have apart : desk.announcements.next ≠ row.id := (Table.key_lt_next old).ne'
      refine (sound.recorded row old).congr ((entriesOf_append _ _ _).trans ?_)
      rw [if_neg apart, List.append_nil]
    · refine ⟨Or.inl ⟨rfl, rfl, rfl⟩, (entriesOf_append _ _ _).trans ?_⟩
      rw [sound.entriesOf_next, if_pos rfl, if_pos rfl]
      rfl
  onTime row member := by
    rcases Table.mem_insert.mp member with old | rfl
    · exact (sound.onTime row old).congr rfl
    · exact fun _ due => by simp at due
  known send queued := by
    rcases List.mem_append.mp queued with old | new
    · obtain ⟨row, stored, named⟩ := sound.known send old
      exact ⟨row, Table.mem_insert.mpr (Or.inl stored), named⟩
    · rw [List.mem_singleton.mp new]
      exact ⟨_, Table.mem_insert.mpr (Or.inr rfl), rfl⟩
  issued time accepted := by
    have below : time.announcementId < desk.announcements.next := sound.issued time accepted
    simp only [Source.recordAnnouncement, Table.next_insert]
    omega

theorem AnnouncementsSound.recordScheduled (sound : AnnouncementsSound desk)
    (broadcast : Broadcast) {checkedAt sendAt : Instant}
    (timely : Timely ⟨desk.announcements.next, checkedAt, sendAt⟩) :
    AnnouncementsSound (recordScheduled desk broadcast checkedAt sendAt) where
  recorded row member := by
    rcases Table.mem_insert.mp member with old | rfl
    · exact (sound.recorded row old).congr rfl
    · exact ⟨Or.inr (Or.inl ⟨rfl, rfl, rfl⟩), sound.entriesOf_next⟩
  onTime row member := by
    rcases Table.mem_insert.mp member with old | rfl
    · have apart : desk.announcements.next ≠ row.id := (Table.key_lt_next old).ne'
      exact (sound.onTime row old).congr (List.find?_cons_of_neg (by simpa using apart))
    · intro due same
      cases Option.mem_some.mp same
      exact ⟨⟨_, List.find?_cons_of_pos (by simp), rfl, timely⟩, fun sent => by cases sent⟩
  known send queued := by
    obtain ⟨row, stored, named⟩ := sound.known send queued
    exact ⟨row, Table.mem_insert.mpr (Or.inl stored), named⟩
  issued time accepted := by
    simp only [Source.recordScheduled, Table.next_insert]
    rcases List.mem_cons.mp accepted with rfl | old
    · exact Nat.lt_succ_self _
    · exact (sound.issued time old).trans (Nat.lt_succ_self _)

/-- A change of some rows keeps the desk sound if each row is recorded and timed after it. -/
theorem AnnouncementsSound.rewrite {hit : Announcement → Prop} [DecidablePred hit]
    {write : Announcement → Announcement}
    {keeps : ∀ row, Keyed.key (write row) = Keyed.key row}
    (rows : after.announcements = desk.announcements.update hit write keeps)
    (known : ∀ send ∈ after.outbox, ∃ row ∈ desk.announcements, row.id = send.announcementId)
    (issued : ∀ time ∈ after.accepted, time.announcementId < desk.announcements.next)
    (hits : ∀ row ∈ desk.announcements, hit row →
      AsRecorded after (write row) ∧ OnTime after (write row))
    (misses : ∀ row ∈ desk.announcements, ¬ hit row → AsRecorded after row ∧ OnTime after row) :
    AnnouncementsSound after := by
  have each : ∀ row ∈ after.announcements, AsRecorded after row ∧ OnTime after row := by
    intro row member
    rw [rows] at member
    rcases Table.mem_update_cases member with ⟨old, stored, struck, rfl⟩ | ⟨stored, missed⟩
    · exact hits old stored struck
    · exact misses row stored missed
  refine ⟨fun row member => (each row member).1, fun row member => (each row member).2, ?_, ?_⟩
  · intro send queued
    obtain ⟨row, stored, named⟩ := known send queued
    rw [rows]
    by_cases struck : hit row
    · exact ⟨write row, Table.mem_update_of_hit stored struck, (keeps row).trans named⟩
    · exact ⟨row, Table.mem_update_of_miss stored struck, named⟩
  · rw [rows, Table.next_update]
    exact issued

/-- What is scheduled has gone nowhere. -/
theorem AnnouncementsSound.unsent (sound : AnnouncementsSound desk) {row : Announcement}
    (stored : row ∈ desk.announcements) (scheduled : row.status = .scheduled) :
    row.sentAt = none ∧ entriesOf desk.outbox row.id = [] := by
  obtain ⟨state, entries⟩ := sound.recorded row stored
  rw [scheduled, if_neg (by decide)] at entries
  rcases state with ⟨sent, _⟩ | ⟨_, _, unsent⟩ | ⟨cancelled, _⟩
  · exact absurd (scheduled.symm.trans sent) (by decide)
  · exact ⟨unsent, entries⟩
  · exact absurd (scheduled.symm.trans cancelled) (by decide)

theorem AnnouncementsSound.cancel (sound : AnnouncementsSound desk)
    (organizationId id userId now : Nat) : AnnouncementsSound { desk with
      announcements := desk.announcements.update (StillScheduled organizationId id)
        (cancelledBy userId now) } := by
  refine .rewrite rfl sound.known sound.issued (fun row stored struck => ?_)
    fun row stored _ => ⟨sound.recorded row stored, sound.onTime row stored⟩
  obtain ⟨unsent, entries⟩ := sound.unsent stored struck.2.2
  refine ⟨⟨Or.inr (Or.inr ⟨rfl, rfl, unsent⟩), entries⟩, fun sendAt due => ?_⟩
  exact ⟨(sound.onTime row stored sendAt due).1, fun sent => by cases sent⟩

theorem AnnouncementsSound.move (sound : AnnouncementsSound desk)
    {organizationId id sendAt now : Nat} (timely : Timely ⟨id, now, sendAt⟩)
    (there : ∃ row ∈ desk.announcements, StillScheduled organizationId id row) :
    AnnouncementsSound { desk with
      announcements := desk.announcements.update (StillScheduled organizationId id)
        (movedTo sendAt now)
      accepted := ⟨id, now, sendAt⟩ :: desk.accepted } := by
  obtain ⟨mine, stored', scheduled⟩ := there
  refine .rewrite rfl sound.known ?_ (fun row stored struck => ?_) fun row stored missed => ?_
  · intro time accepted
    rcases List.mem_cons.mp accepted with rfl | old
    · exact scheduled.1 ▸ Table.key_lt_next stored'
    · exact sound.issued time old
  · obtain ⟨unsent, entries⟩ := sound.unsent stored struck.2.2
    refine ⟨⟨Or.inr (Or.inl ⟨struck.2.2, rfl, unsent⟩), ?_⟩, fun due same => ?_⟩
    · rw [if_neg (by rw [struck.2.2]; decide)]
      exact entries
    · cases Option.mem_some.mp same
      refine ⟨⟨_, List.find?_cons_of_pos (by simp [struck.1]), rfl, timely⟩, fun sent => ?_⟩
      exact absurd (struck.2.2.symm.trans sent) (by decide)
  · -- The one row of this id is the one that moves.
    have apart : id ≠ row.id := by
      intro same
      have equal : mine = row := Table.eq_of_key stored' stored (scheduled.1.trans same)
      exact missed (equal ▸ scheduled)
    exact ⟨sound.recorded row stored,
      (sound.onTime row stored).congr (List.find?_cons_of_neg (by simpa using apart))⟩

theorem AnnouncementsSound.sweep (sound : AnnouncementsSound desk) (id recipientCount : Nat) :
    AnnouncementsSound (sweep desk id recipientCount) := by
  unfold Source.sweep
  cases found : (desk.announcements.find id).filter fun row => IsDue desk id row with
  | none => exact sound
  | some row =>
    obtain ⟨there, due⟩ := Option.filter_eq_some_iff.mp found
    obtain ⟨named, scheduled, time⟩ : IsDue desk id row := by simpa using due
    have stored : row ∈ desk.announcements := (Table.find_eq_some.mp there).1
    obtain ⟨unsent, entries⟩ := sound.unsent stored scheduled
    -- The one row of this id is the one that is due.
    have only {other : Announcement} (stored' : other ∈ desk.announcements)
        (same : other.id = id) : other = row := Table.eq_of_key stored' stored (same.trans named.symm)
    dsimp only
    split
    · refine .rewrite rfl ?_ sound.issued (fun other stored' same => ?_) fun other stored' apart => ?_
      · intro send queued
        rcases List.mem_append.mp queued with old | new
        · exact sound.known send old
        · rw [List.mem_singleton.mp new]
          exact ⟨row, stored, named⟩
      · cases only stored' same
        refine ⟨⟨Or.inl ⟨rfl, rfl, rfl⟩, (entriesOf_append _ _ _).trans ?_⟩, fun sendAt planned => ?_⟩
        · rw [entries, if_pos same.symm, if_pos rfl]
          rfl
        · refine ⟨(sound.onTime row stored sendAt planned).1, fun _ sentAt gone => ?_⟩
          cases Option.mem_some.mp gone
          rw [Option.mem_def.mp planned] at time
          simpa using time
      · refine ⟨(sound.recorded other stored').congr ((entriesOf_append _ _ _).trans ?_),
          sound.onTime other stored'⟩
        rw [if_neg (Ne.symm apart), List.append_nil]
    · refine .rewrite rfl sound.known sound.issued (fun other stored' same => ?_)
        fun other stored' _ => ⟨sound.recorded other stored', sound.onTime other stored'⟩
      cases only stored' same
      refine ⟨⟨Or.inr (Or.inr ⟨rfl, rfl, unsent⟩), entries⟩, fun sendAt planned => ?_⟩
      exact ⟨(sound.onTime row stored sendAt planned).1, fun sent => by cases sent⟩

theorem Changes.sound (changes : Changes desk after) (sound : AnnouncementsSound desk) :
    AnnouncementsSound after := by
  cases changes with
  | same rows outbox accepted =>
    obtain ⟨recorded, onTime, known, issued⟩ := sound
    refine ⟨fun row member => ?_, fun row member => ?_, ?_, ?_⟩
    · exact (recorded row (rows ▸ member)).congr (by rw [outbox])
    · exact (onTime row (rows ▸ member)).congr (by rw [accepted])
    · rwa [outbox, rows]
    · rwa [accepted, rows]
  | recorded broadcast recipients sentAt => exact sound.recordAnnouncement broadcast recipients sentAt
  | scheduled broadcast _ _ timely => exact sound.recordScheduled broadcast timely
  | cancelled organizationId id userId now => exact sound.cancel organizationId id userId now
  | moved _ _ _ _ timely there => exact sound.move timely there
  | swept id recipientCount => exact sound.sweep id recipientCount

/-- An announcement that is no longer scheduled stays as it is. -/
theorem Changes.settled (changes : Changes desk after) {row : Announcement}
    (stored : row ∈ desk.announcements) (settled : row.status ≠ .scheduled) :
    row ∈ after.announcements := by
  cases changes with
  | same rows => exact rows ▸ stored
  | recorded | scheduled => exact Table.mem_insert.mpr (Or.inl stored)
  | cancelled | moved => exact Table.mem_update_of_miss stored fun struck => settled struck.2.2
  | swept id recipientCount =>
    unfold Source.sweep
    cases found : (desk.announcements.find id).filter fun row => IsDue desk id row with
    | none => exact stored
    | some swept =>
      obtain ⟨there, due⟩ := Option.filter_eq_some_iff.mp found
      obtain ⟨named, scheduled, _⟩ : IsDue desk id swept := by simpa using due
      have apart : ¬ row.id = id := by
        intro same
        have equal : row = swept := Table.eq_of_key stored (Table.find_eq_some.mp there).1
          (same.trans named.symm)
        exact settled (equal ▸ scheduled)
      dsimp only
      split
      · exact Table.mem_update_of_miss stored apart
      · exact Table.mem_update_of_miss stored apart

end Changes

/-! ## Calls -/

/-- The workspace's announcement is settled in this state. -/
def SettledAs (desk : AnnouncementDesk) (organizationId id : Nat) (status : AnnouncementStatus) :
    Prop :=
  ∃ row ∈ desk.announcements, row.id = id ∧ row.organizationId = organizationId ∧
    row.status = status

/-- What a reply says of an announcement that is no longer scheduled. -/
def ReplyHolds (desk : AnnouncementDesk) : Option (Nat × Nat) → AnnouncementReply → Prop
  | some (organizationId, id), .entry shown =>
    shown.status = .cancelled → SettledAs desk organizationId id .cancelled
  | some (organizationId, id), .thrown exception => ∀ status, status ≠ .scheduled →
    exception = unchangeableBecause status → SettledAs desk organizationId id status
  | _, _ => True

def PhaseHolds (desk : AnnouncementDesk) : AnnouncementPhase → Prop
  | .recordScheduled _ _ checkedAt sendAt => ∀ id, Timely ⟨id, checkedAt, sendAt⟩
  | .reschedule _ id sendAt now => Timely ⟨id, now, sendAt⟩
  | .done request reply => ReplyHolds desk request reply
  | _ => True

section Calls

variable {desk after : AnnouncementDesk}

theorem timely_of_schedulable {sendAt now : Nat}
    (accepted : Announcement.assertSchedulable sendAt now = none) (id : Nat) :
    Timely ⟨id, now, sendAt⟩ := by
  unfold Announcement.assertSchedulable at accepted
  simp only at accepted
  split_ifs at accepted with soon far
  have late : now + MIN_SCHEDULE_LEAD_MS ≤ sendAt := by omega
  have near : sendAt ≤ now + MAX_SCHEDULE_AHEAD_MS := by omega
  exact ⟨late, near⟩

theorem unchangeableBecause_inj {first second : AnnouncementStatus}
    (same : unchangeableBecause first = unchangeableBecause second) : first = second := by
  revert same
  cases first <;> cases second <;> decide

theorem find_announcement {organizationId id : Nat} {shown : AnnouncementListRow}
    (found : findAnnouncement desk organizationId id = some shown) :
    SettledAs desk organizationId id shown.status := by
  obtain ⟨row, there, rfl⟩ := Option.map_eq_some_iff.mp found
  obtain ⟨found, mine⟩ := Option.filter_eq_some_iff.mp there
  obtain ⟨stored, named⟩ := Table.find_eq_some.mp found
  exact ⟨row, stored, named, by simpa using mine, rfl⟩

theorem SettledAs.changed (changes : Changes desk after) {organizationId id : Nat}
    {status : AnnouncementStatus} (settled : SettledAs desk organizationId id status)
    (final : status ≠ .scheduled) : SettledAs after organizationId id status := by
  obtain ⟨row, stored, named, mine, rfl⟩ := settled
  exact ⟨row, changes.settled stored final, named, mine, rfl⟩

/-- What a reply says outlasts every change. -/
theorem PhaseHolds.changed (changes : Changes desk after) {phase : AnnouncementPhase}
    (holds : PhaseHolds desk phase) : PhaseHolds after phase := by
  match phase, holds with
  | .begin _, _ | .getEvent _ _ _, _ | .attendeeCount _ _, _ | .record _ _ _, _
  | .cancel _ _ _, _ | .refuseChange _ _, _ => trivial
  | .recordScheduled _ _ _ _, holds => exact holds
  | .reschedule _ _ _ _, holds => exact holds
  | .done request reply, holds =>
    match request, reply, holds with
    | some (organizationId, id), .entry shown, holds =>
      exact fun status => (holds status).changed changes (by decide)
    | some (organizationId, id), .thrown exception, holds =>
      exact fun status final because => (holds status final because).changed changes final
    | some _, .broadcast _ _ _ _, _ | some _, .invalidField _ _, _ | some _, .crashed, _
    | none, _, _ => trivial

theorem changeScheduled_holds {auth : AuthContext} {id : Nat}
    {change : Announcement → Announcement}
    {keeps : ∀ row, Keyed.key (change row) = Keyed.key row} {accepts : List AcceptedTime}
    (changes : (∃ row ∈ desk.announcements, StillScheduled auth.organizationId id row) →
      Changes desk { desk with
        announcements := desk.announcements.update (StillScheduled auth.organizationId id) change
          keeps
        accepted := accepts ++ desk.accepted }) :
    Changes desk (changeScheduled desk auth id change keeps accepts).1 ∧
      PhaseHolds (changeScheduled desk auth id change keeps accepts).1
        (changeScheduled desk auth id change keeps accepts).2 := by
  unfold changeScheduled
  split
  · exact ⟨.same rfl rfl rfl, trivial⟩
  · rename_i some
    have changed := changes (Table.select_ne_nil.mp some)
    dsimp only
    cases found : findAnnouncement _ auth.organizationId id with
    | none => exact ⟨changed, trivial⟩
    | some shown =>
      refine ⟨changed, fun status => ?_⟩
      exact status ▸ find_announcement found

theorem acts_hold (attendees : Nat) {phase : AnnouncementPhase} (holds : PhaseHolds desk phase) :
    Changes desk (actOnAnnouncements desk attendees phase).1 ∧
      PhaseHolds (actOnAnnouncements desk attendees phase).1
        (actOnAnnouncements desk attendees phase).2 := by
  cases phase with
  | begin request =>
    dsimp only [actOnAnnouncements]
    split
    · refine ⟨.same rfl rfl rfl, ?_⟩
      cases request with
      | emailAll | cancel => trivial
      | reschedule auth id sendAt =>
        dsimp only [AnnouncementRequest.start]
        cases checked : Announcement.assertSchedulable sendAt desk.clock with
        | some message => trivial
        | none => exact timely_of_schedulable checked id
    · exact ⟨.same rfl rfl rfl, trivial⟩
  | getEvent auth eventId input =>
    dsimp only [actOnAnnouncements]
    split
    · exact ⟨.same rfl rfl rfl, trivial⟩
    · exact ⟨.same rfl rfl rfl, trivial⟩
  | attendeeCount broadcast sendAt =>
    refine ⟨.same rfl rfl rfl, ?_⟩
    cases sendAt with
    | none => trivial
    | some sendAt =>
      dsimp only [actOnAnnouncements, afterCount]
      cases checked : Announcement.assertSchedulable sendAt desk.clock with
      | some message => trivial
      | none => exact timely_of_schedulable checked
  | record broadcast recipients sentAt => exact ⟨.recorded broadcast recipients sentAt, trivial⟩
  | recordScheduled broadcast recipients checkedAt sendAt =>
    exact ⟨.scheduled broadcast checkedAt sendAt (holds _), trivial⟩
  | cancel auth id now =>
    exact changeScheduled_holds fun _ => .cancelled auth.organizationId id auth.userId now
  | reschedule auth id sendAt now =>
    exact changeScheduled_holds fun there => .moved auth.organizationId id sendAt now holds there
  | refuseChange auth id =>
    dsimp only [actOnAnnouncements]
    cases found : findAnnouncement desk auth.organizationId id with
    | none => exact ⟨.same rfl rfl rfl, trivial⟩
    | some current =>
      refine ⟨.same rfl rfl rfl, fun status _ because => ?_⟩
      exact unchangeableBecause_inj because ▸ find_announcement found
  | done request reply => exact ⟨.same rfl rfl rfl, holds⟩

theorem outside_changes (event : AnnouncementWorld) : Changes desk (desk.outside event) := by
  cases event with
  | sweep id recipientCount => exact .swept id recipientCount
  | writes | grants | tick => exact .same rfl rfl rfl

end Calls

/-- What a step makes of the announcements, every step keeps sound, and every reply true. -/
theorem announcements_keep : announcementRequests.Keeps AnnouncementsSound PhaseHolds
    (fun _ _ _ => True) fun _ _ => True where
  opened _ _ _ := trivial
  crashed _ _ := trivial
  act desk attendees phase sound holds _ := by
    obtain ⟨changes, next⟩ := acts_hold attendees holds
    exact ⟨changes.sound sound, next⟩
  undisturbed desk attendees phase other _ holds _ known :=
    PhaseHolds.changed (acts_hold attendees holds).1 known
  outside desk event sound _ :=
    ⟨(outside_changes event).sound sound, fun _ holds => PhaseHolds.changed (outside_changes event) holds⟩

/-- Nothing was announced yet, and no call is under way. -/
structure NothingAnnounced (pool : Pool AnnouncementDesk AnnouncementPhase) : Prop where
  announcements : pool.shared.announcements.rows = []
  outbox : pool.shared.outbox = []
  accepted : pool.shared.accepted = []
  jobs : pool.jobs.rows = []

theorem announcements_run {start : Pool AnnouncementDesk AnnouncementPhase}
    (fresh : NothingAnnounced start)
    (turns : List (PoolTurn AnnouncementRequest Nat AnnouncementWorld)) :
    (run announcementRequests.serve start turns).Sound AnnouncementsSound PhaseHolds := by
  have sound : AnnouncementsSound start.shared :=
    { recorded := fun row stored => absurd stored (Table.not_mem_of_empty fresh.announcements row)
      onTime := fun row stored => absurd stored (Table.not_mem_of_empty fresh.announcements row)
      known := by simp [fresh.outbox]
      issued := by simp [fresh.accepted] }
  exact announcements_keep.run
    ⟨sound, fun job stored => absurd stored (Table.not_mem_of_empty fresh.jobs job)⟩
    (Meets.mono (fun pool turn _ => Handler.guarded_true pool turn) (meets_true start turns))

/-- Every organizer of this workspace may do everything. -/
def organizersDesk : Pool AnnouncementDesk AnnouncementPhase where
  shared :=
    { announcements := .empty
      events := fun _ => Table.empty.insert fun id => { id, status := .upcoming, startAt := 0 }
      outbox := []
      accepted := []
      granted := fun _ _ => [.regView, .regManage]
      clock := 0 }
  jobs := .empty

theorem organizersDesk_fresh : NothingAnnounced organizersDesk := ⟨rfl, rfl, rfl, rfl⟩

def organizer : AuthContext := { userId := 1, organizationId := 1, sessionId := 0 }

/-- A call, with a dozen attendees to write to. -/
def callOf (jobId : Nat) (request : AnnouncementRequest) (steps : Nat) :
    List (PoolTurn AnnouncementRequest Nat AnnouncementWorld) :=
  .receive request :: List.replicate steps (.advance jobId 12)

/-- Doors open at six is planned in ten minutes, then moved to an hour, and goes. -/
def doorsOpen : List (PoolTurn AnnouncementRequest Nat AnnouncementWorld) :=
  callOf 0 (.emailAll organizer 0 ⟨"Doors", "At six.", some 600000⟩) 4 ++
    callOf 1 (.reschedule organizer 0 3600000) 2 ++
    [.outside (.tick 600000), .outside (.sweep 0 13), .outside (.tick 3000000),
      .outside (.sweep 0 13), .outside (.sweep 0 13)]

/-- Doors open at six is planned, and called off. -/
def doorsCancelled : List (PoolTurn AnnouncementRequest Nat AnnouncementWorld) :=
  callOf 0 (.emailAll organizer 0 ⟨"Doors", "At six.", some 600000⟩) 4 ++
    callOf 1 (.cancel organizer 0) 2 ++ [.outside (.tick 600000), .outside (.sweep 0 13)]

def doorsEntry : AnnouncementListRow where
  id := "0"
  eventId := 0
  eventName := some ""
  subject := "Doors"
  body := "At six."
  status := .cancelled
  scheduledFor := some 600000
  sentAt := none
  cancelledAt := some 0
  recipientCount := none

end EventaApi.Guarantees
