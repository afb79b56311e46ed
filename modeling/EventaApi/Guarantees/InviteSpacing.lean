import EventaApi.Source.Invitations

/-!
# How often a person is invited

The record of an invitation carries the instant of its last mail, and a new one goes only when that
is more than a day back. So the mails to one person about one event are spaced by more than a day,
in whatever order the calls that read the clock come to write.
-/
namespace EventaApi.Guarantees
open Library Source

/-! ## Mails -/

/-- A person and an event of a workspace; addresses differ by more than case. -/
structure Invitee where
  organizationId : Nat
  eventId : Nat
  address : List Char
  deriving DecidableEq, Repr

def invitee (organizationId eventId : Nat) (recipientEmail : String) : Invitee :=
  ⟨organizationId, eventId, citext recipientEmail⟩

def rowInvitee (row : EventInvitation) : Invitee :=
  invitee row.organizationId row.eventId row.recipientEmail

def mailedTo (mail : InviteSent) : Invitee :=
  invitee mail.organizationId mail.eventId mail.recipientEmail

/-- The mails to a person about an event, in the order they were queued. -/
def mailsTo (outbox : List InviteSent) (person : Invitee) : List Instant :=
  (outbox.filter fun mail => mailedTo mail = person).map InviteSent.sentAt

/-- Each goes more than the window after every one before it. -/
def Spaced (mails : List Instant) : Prop :=
  mails.Pairwise fun former latter => former + INVITE_DEDUPE_WINDOW_MS < latter

section Mails

variable {person : Invitee}

theorem isSameRecipient_iff {organizationId eventId : Nat} {recipientEmail : String}
    {row : EventInvitation} : IsSameRecipient organizationId eventId recipientEmail row ↔
      rowInvitee row = invitee organizationId eventId recipientEmail := by
  unfold rowInvitee invitee IsSameRecipient
  rw [Invitee.mk.injEq]

theorem mailsTo_append (outbox : List InviteSent) (mail : InviteSent) :
    mailsTo (outbox ++ [mail]) person = mailsTo outbox person ++
      if mailedTo mail = person then [mail.sentAt]
      else [] := by
  unfold mailsTo
  rw [List.filter_append, List.map_append, List.filter_singleton]
  by_cases same : mailedTo mail = person <;>
    simp [same]

/-- The last of spaced mails is the latest. -/
theorem Spaced.le_last {mails : List Instant} (spaced : Spaced mails) {last : Nat}
    (final : mails.getLast? = some last) : ∀ mail ∈ mails, (mail : Nat) ≤ last := by
  obtain ⟨front, rfl⟩ := List.getLast?_eq_some_iff.mp final
  intro mail member
  rcases List.mem_append.mp member with early | final
  · have before := (List.pairwise_append.mp spaced).2.2 mail early last List.mem_cons_self
    exact (Nat.le_add_right _ _).trans (Nat.le_of_lt before)
  · exact (List.mem_singleton.mp final).le

/-- A mail that goes more than the window after the last keeps them spaced. -/
theorem Spaced.concat {mails : List Instant} (spaced : Spaced mails) {sentAt : Nat}
    (late : ∀ last ∈ mails.getLast?, (last : Nat) + INVITE_DEDUPE_WINDOW_MS < sentAt) :
    Spaced (mails ++ [sentAt]) := by
  refine List.pairwise_append.mpr ⟨spaced, List.pairwise_singleton _ _, ?_⟩
  intro mail member latter same
  rw [List.mem_singleton.mp same]
  cases final : mails.getLast? with
  | none => simp [List.getLast?_eq_none_iff.mp final] at member
  | some last =>
    have before := late last final
    have bound := spaced.le_last final mail member
    exact (Nat.add_le_add_right bound _).trans_lt before

end Mails

/-! ## Sound desks -/

/-- The one record of a person says when the last mail to them went. -/
structure InvitesSound (desk : InvitationDesk) : Prop where
  one : ∀ row ∈ desk.invitations, ∀ other ∈ desk.invitations,
    rowInvitee row = rowInvitee other → row = other
  spaced : ∀ person, Spaced (mailsTo desk.outbox person)
  last : ∀ row ∈ desk.invitations,
    (mailsTo desk.outbox (rowInvitee row)).getLast? = some row.sentAt
  known : ∀ person, mailsTo desk.outbox person ≠ [] →
    ∃ row ∈ desk.invitations, rowInvitee row = person

/-- The person an invite is for. -/
def inviteeOf (input : RecordInviteInput) : Invitee :=
  invitee input.organizationId input.eventId input.recipientEmail

/-- What the upsert does: a new record, a record whose last mail is stale, or nothing. -/
inductive Upserts (invitations : Table EventInvitation) (input : RecordInviteInput) :
    Table EventInvitation × Option Instant → Prop
  | new (after : Table EventInvitation) (row : EventInvitation)
      (unknown : ∀ other ∈ invitations, rowInvitee other ≠ inviteeOf input)
      (mine : rowInvitee row = inviteeOf input) (sentAt : row.sentAt = input.now)
      (rows : ∀ other, other ∈ after ↔ other ∈ invitations ∨ other = row) :
      Upserts invitations input (after, some input.now)
  | again (row : EventInvitation) (stored : row ∈ invitations)
      (mine : rowInvitee row = inviteeOf input)
      (stale : row.sentAt + INVITE_DEDUPE_WINDOW_MS < input.now) :
      Upserts invitations input
        (invitations.update (fun other => other.id = row.id) (resent input), some input.now)
  | suppressed (row : EventInvitation) (stored : row ∈ invitations)
      (mine : rowInvitee row = inviteeOf input)
      (recent : input.now ≤ row.sentAt + INVITE_DEDUPE_WINDOW_MS) :
      Upserts invitations input (invitations, none)

theorem upsertInvitation_upserts (invitations : Table EventInvitation)
    (input : RecordInviteInput) :
    Upserts invitations input (upsertInvitation invitations input) := by
  unfold upsertInvitation
  dsimp only
  split
  · rename_i found
    refine .new _ ⟨invitations.next, input.organizationId, input.eventId, input.recipientName,
      input.recipientEmail, input.message, some input.invitedBy, input.now⟩ ?_ rfl rfl
      fun other => Table.mem_insert
    exact fun other stored same =>
      Table.select_eq_nil.mp found other stored (isSameRecipient_iff.mpr same)
  · rename_i row rest found
    obtain ⟨stored, same⟩ := Table.mem_select.mp (found ▸ List.mem_cons_self)
    have mine : rowInvitee row = inviteeOf input := isSameRecipient_iff.mp same
    unfold RecordInviteInput.resendCutoff
    split
    · rename_i before
      have stale : (row.sentAt : Int) + INVITE_DEDUPE_WINDOW_MS < input.now := by omega
      exact .again row stored mine (by exact_mod_cast stale)
    · rename_i after
      have recent : (input.now : Int) ≤ row.sentAt + INVITE_DEDUPE_WINDOW_MS := by omega
      exact .suppressed row stored mine (by exact_mod_cast recent)

section Record

variable {desk : InvitationDesk} {input : RecordInviteInput}

/-- A mail to the input's person, more than the window after the last to them. -/
theorem spaced_append {outbox : List InviteSent} {mail : InviteSent}
    (spaced : ∀ person, Spaced (mailsTo outbox person)) {person : Invitee}
    (late : ∀ last ∈ (mailsTo outbox (mailedTo mail)).getLast?,
      (last : Nat) + INVITE_DEDUPE_WINDOW_MS < mail.sentAt) :
    Spaced (mailsTo (outbox ++ [mail]) person) := by
  rw [mailsTo_append]
  split
  · rename_i same
    exact (spaced person).concat (same ▸ late)
  · rw [List.append_nil]
    exact spaced person

theorem getLast?_mailsTo_append {outbox : List InviteSent} {mail : InviteSent} {person : Invitee}
    (mine : person = mailedTo mail) :
    (mailsTo (outbox ++ [mail]) person).getLast? = some mail.sentAt := by
  rw [mailsTo_append, if_pos mine.symm, List.getLast?_append]
  rfl

theorem mailsTo_append_of_ne {outbox : List InviteSent} {mail : InviteSent} {person : Invitee}
    (other : person ≠ mailedTo mail) :
    mailsTo (outbox ++ [mail]) person = mailsTo outbox person := by
  rw [mailsTo_append, if_neg other.symm, List.append_nil]

theorem InvitesSound.record (sound : InvitesSound desk) {event : Instant → InviteSent}
    (mine : ∀ sentAt, mailedTo (event sentAt) = inviteeOf input)
    (stamped : ∀ sentAt, (event sentAt).sentAt = sentAt) :
    InvitesSound (recordInvite desk input event).1 := by
  have upserts := upsertInvitation_upserts desk.invitations input
  unfold recordInvite
  generalize upsertInvitation desk.invitations input = upserted at upserts
  cases upserts with
  | new after row unknown person sentAt rows =>
    have none : mailsTo desk.outbox (inviteeOf input) = [] := by
      by_contra some
      obtain ⟨other, stored, same⟩ := sound.known _ some
      exact unknown other stored same
    refine ⟨?_, fun _ => spaced_append sound.spaced ?_, ?_, ?_⟩
    · intro former stored latter stored' same
      rcases (rows former).mp stored with old | rfl <;> rcases (rows latter).mp stored' with old' | rfl
      · exact sound.one former old latter old' same
      · exact absurd (same.trans person) (unknown former old)
      · exact absurd (same.symm.trans person) (unknown latter old')
      · rfl
    · rw [mine, none]
      simp
    · intro other stored
      rcases (rows other).mp stored with old | rfl
      · have apart : rowInvitee other ≠ mailedTo (event input.now) := by
          rw [mine input.now]
          exact unknown other old
        show (mailsTo (_ ++ [event input.now]) _).getLast? = _
        rw [mailsTo_append_of_ne apart]
        exact sound.last other old
      · rw [getLast?_mailsTo_append (person.trans (mine input.now).symm), stamped, sentAt]
    · intro anyone mailed
      by_cases same : anyone = inviteeOf input
      · exact ⟨row, (rows row).mpr (Or.inr rfl), person.trans same.symm⟩
      · rw [mailsTo_append_of_ne (by rwa [mine input.now])] at mailed
        obtain ⟨other, stored, named⟩ := sound.known anyone mailed
        exact ⟨other, (rows other).mpr (Or.inl stored), named⟩
  | again row there person stale =>
    -- The one record of the person is the one that is written.
    have only {other : EventInvitation} (stored : other ∈ desk.invitations) :
        rowInvitee other = inviteeOf input ↔ other.id = row.id := by
      refine ⟨fun same => ?_, fun same => ?_⟩
      · exact congrArg _ (sound.one other stored row there (same.trans person.symm))
      · exact Table.eq_of_key stored there same ▸ person
    refine ⟨?_, fun _ => spaced_append sound.spaced ?_, ?_, ?_⟩
    · intro former stored latter stored' same
      have same : rowInvitee former = rowInvitee latter := same
      rcases Table.mem_update_cases stored with ⟨old, was, hit, rfl⟩ | ⟨was, miss⟩ <;>
        rcases Table.mem_update_cases stored' with ⟨old', was', hit', rfl⟩ | ⟨was', miss'⟩
      · exact congrArg (resent input) (Table.eq_of_key was was' (hit.trans hit'.symm))
      · exact absurd ((only was').mp (same.symm.trans ((only was).mpr hit))) miss'
      · exact absurd ((only was).mp (same.trans ((only was').mpr hit'))) miss
      · exact sound.one former was latter was' same
    · rw [mine, ← person, sound.last row there, stamped]
      intro last same
      exact Option.mem_some.mp same ▸ stale
    · intro other stored
      rcases Table.mem_update_cases stored with ⟨old, was, hit, rfl⟩ | ⟨was, miss⟩
      · have same : rowInvitee (resent input old) = inviteeOf input := (only was).mpr hit
        rw [getLast?_mailsTo_append (same.trans (mine input.now).symm), stamped]
      · have apart : rowInvitee other ≠ mailedTo (event input.now) := by
          rw [mine input.now]
          exact mt (only was).mp miss
        show (mailsTo (_ ++ [event input.now]) _).getLast? = _
        rw [mailsTo_append_of_ne apart]
        exact sound.last other was
    · intro anyone mailed
      have found : ∃ other ∈ desk.invitations, rowInvitee other = anyone := by
        by_cases same : anyone = inviteeOf input
        · exact ⟨row, there, person.trans same.symm⟩
        · rw [mailsTo_append_of_ne (by rwa [mine input.now])] at mailed
          exact sound.known anyone mailed
      obtain ⟨other, stored, named⟩ := found
      by_cases hit : other.id = row.id
      · exact ⟨resent input other, Table.mem_update_of_hit stored hit, named⟩
      · exact ⟨other, Table.mem_update_of_miss stored hit, named⟩
  | suppressed row stored person recent => exact sound

/-- A mail that was queued stays queued. -/
theorem outbox_recordInvite (event : Instant → InviteSent) :
    desk.outbox <+: (recordInvite desk input event).1.outbox := by
  unfold recordInvite
  split
  · exact List.prefix_rfl
  · exact List.prefix_append _ _

/-- Either the mail is queued now, or one was within the window. -/
theorem InvitesSound.answer (sound : InvitesSound desk) {event : Instant → InviteSent}
    (mine : ∀ sentAt, mailedTo (event sentAt) = inviteeOf input)
    (stamped : ∀ sentAt, (event sentAt).sentAt = sentAt) :
    match (recordInvite desk input event).2 with
    | some _ => input.now ∈ mailsTo (recordInvite desk input event).1.outbox (inviteeOf input)
    | none => ∃ mail ∈ mailsTo (recordInvite desk input event).1.outbox (inviteeOf input),
        input.now ≤ mail + INVITE_DEDUPE_WINDOW_MS := by
  have upserts := upsertInvitation_upserts desk.invitations input
  unfold recordInvite
  generalize upsertInvitation desk.invitations input = upserted at upserts
  have queued : input.now ∈ mailsTo (desk.outbox ++ [event input.now]) (inviteeOf input) := by
    rw [mailsTo_append, if_pos (mine input.now), stamped]
    exact List.mem_append_right _ List.mem_cons_self
  cases upserts with
  | new | again => exact queued
  | suppressed row stored person recent =>
    have final := sound.last row stored
    rw [person] at final
    exact ⟨row.sentAt, List.mem_of_getLast? final, recent⟩

end Record

/-! ## Calls -/

/-- What a reply said holds of the outbox: the mail is there, or one that went within the window. -/
def InviteHolds (desk : InvitationDesk) : InvitePhase → Prop
  | .done (some input) (.invited outcome) =>
    if outcome.sent then input.now ∈ mailsTo desk.outbox (inviteeOf input)
    else ∃ mail ∈ mailsTo desk.outbox (inviteeOf input),
      input.now ≤ mail + INVITE_DEDUPE_WINDOW_MS
  | _ => True

theorem mailsTo_prefix {outbox later : List InviteSent} (grown : outbox <+: later)
    {person : Invitee} : ∀ mail ∈ mailsTo outbox person, mail ∈ mailsTo later person :=
  fun _ member => ((grown.sublist.filter _).map _).subset member

theorem InviteHolds.grown {desk later : InvitationDesk} {phase : InvitePhase}
    (holds : InviteHolds desk phase) (grown : desk.outbox <+: later.outbox) :
    InviteHolds later phase := by
  match phase, holds with
  | .begin _, _ | .getEvent _, _ | .record _ _ _, _ | .done none _, _
  | .done (some _) (.thrown _), _ | .done (some _) .crashed, _ => trivial
  | .done (some input) (.invited outcome), holds =>
    unfold InviteHolds at holds ⊢
    dsimp only at holds ⊢
    split
    · rename_i sent
      rw [if_pos sent] at holds
      exact mailsTo_prefix grown _ holds
    · rename_i unsent
      rw [if_neg unsent] at holds
      obtain ⟨mail, member, recent⟩ := holds
      exact ⟨mail, mailsTo_prefix grown mail member, recent⟩

section Handler

variable {toLowerCase : String → String} {publicWebUrl : String}

theorem outbox_actOnInvites (desk : InvitationDesk) (phase : InvitePhase) :
    desk.outbox <+: (actOnInvites toLowerCase publicWebUrl desk () phase).1.outbox := by
  cases phase with
  | begin | getEvent =>
    dsimp only [actOnInvites]
    split
    · exact List.prefix_rfl
    · exact List.prefix_rfl
  | record request event input =>
    have grown : desk.outbox <+: (recordInvite desk input
        (inviteSentEvent publicWebUrl event input)).1.outbox := outbox_recordInvite _
    dsimp only [actOnInvites]
    split
    · rename_i recorded
      rwa [recorded] at grown
    · rename_i recorded
      rwa [recorded] at grown
  | done => exact List.prefix_rfl

theorem invites_keep : (inviteRequests toLowerCase publicWebUrl).Keeps InvitesSound InviteHolds
    (fun _ _ _ => True) fun _ _ => True where
  opened _ _ _ := trivial
  crashed _ _ := trivial
  act desk _ phase sound holds _ := by
    cases phase with
    | begin | getEvent =>
      dsimp only [inviteRequests, actOnInvites]
      split
      · exact ⟨sound, trivial⟩
      · exact ⟨sound, trivial⟩
    | record request event input =>
      have after : InvitesSound (recordInvite desk input
          (inviteSentEvent publicWebUrl event input)).1 := sound.record (fun _ => rfl) fun _ => rfl
      have answer := @InvitesSound.answer desk input sound
        (inviteSentEvent publicWebUrl event input) (fun _ => rfl) fun _ => rfl
      dsimp only [inviteRequests, actOnInvites]
      split
      · rename_i recorded
        rw [recorded] at after answer
        exact ⟨after, by simpa [InviteHolds] using answer⟩
      · rename_i recorded
        rw [recorded] at after answer
        exact ⟨after, by simpa [InviteHolds] using answer⟩
    | done => exact ⟨sound, holds⟩
  undisturbed desk _ phase _ _ _ _ known := known.grown (outbox_actOnInvites desk phase)
  outside desk event sound _ := by
    cases event <;> exact ⟨⟨sound.one, sound.spaced, sound.last, sound.known⟩,
      fun _ holds => InviteHolds.grown holds List.prefix_rfl⟩

/-- However calls about a person and an event interleave, their mails are spaced by more than the
window and the record says when the last one went, and whoever asks for one is told that it was
queued, or that one had gone within the window, and so it was. -/
theorem invites_spaced {start : Pool InvitationDesk InvitePhase}
    (fresh : start.shared.invitations.rows = [] ∧ start.shared.outbox = [] ∧ start.jobs.rows = [])
    (turns : List (PoolTurn InviteRequest Unit InvitationWorld)) :
    let pool := run (inviteRequests toLowerCase publicWebUrl).serve start turns
    (∀ person, Spaced (mailsTo pool.shared.outbox person)) ∧
      (∀ row ∈ pool.shared.invitations,
        (mailsTo pool.shared.outbox (rowInvitee row)).getLast? = some row.sentAt) ∧
      ∀ job ∈ pool.jobs, InviteHolds pool.shared job.phase := by
  obtain ⟨invitations, outbox, jobs⟩ := fresh
  have none (row : EventInvitation) : row ∉ start.shared.invitations :=
    Table.not_mem_of_empty invitations row
  have sound : InvitesSound start.shared :=
    { one := fun row stored => absurd stored (none row)
      spaced := fun _ => by simp [outbox, mailsTo, Spaced]
      last := fun row stored => absurd stored (none row)
      known := fun _ mailed => by simp [outbox, mailsTo] at mailed }
  obtain ⟨after, known⟩ := invites_keep.run
    ⟨sound, fun job stored => absurd stored (Table.not_mem_of_empty jobs job)⟩
    (Meets.mono (fun pool turn _ => Handler.guarded_true pool turn) (meets_true start turns))
  exact ⟨after.spaced, after.last, known⟩

end Handler

/-- One event, and Ana may invite to it. -/
def invitingDesk : Pool InvitationDesk InvitePhase where
  shared :=
    { events := Table.empty.insert fun id =>
        { id, organizationId := 1, name := "Fair", slug := "fair" }
      invitations := .empty
      outbox := []
      granted := fun _ _ => [.regManage]
      clock := 5 }
  jobs := .empty

def invitesBen (recipientEmail : String) : InviteRequest where
  auth := { userId := 1, organizationId := 1, sessionId := 0 }
  input := { eventId := 0, recipientName := " Ben ", recipientEmail }

/-- The second call overtakes the first, and the third comes a day later. -/
def overtakenInvites : List (PoolTurn InviteRequest Unit InvitationWorld) :=
  [.receive (invitesBen "Ben@acme.co"), .advance 0 (), .advance 0 (), .outside (.tick 5),
    .receive (invitesBen "ben@acme.co "), .advance 1 (), .advance 1 (), .advance 1 (),
    .advance 0 (), .outside (.tick 86400001), .receive (invitesBen "ben@acme.co"), .advance 2 (),
    .advance 2 (), .advance 2 ()]

theorem invites_spaced_overtaken :
    let pool := run (inviteRequests String.toLower "https://eventa.co").serve invitingDesk overtakenInvites
    mailsTo pool.shared.outbox (invitee 1 0 "ben@acme.co") = [10, 86400011] ∧
      (∀ person, Spaced (mailsTo pool.shared.outbox person)) ∧
      (∀ row ∈ pool.shared.invitations,
        (mailsTo pool.shared.outbox (rowInvitee row)).getLast? = some row.sentAt) ∧
      ∀ job ∈ pool.jobs, InviteHolds pool.shared job.phase :=
  ⟨by decide +kernel, invites_spaced ⟨rfl, rfl, rfl⟩ overtakenInvites⟩

end EventaApi.Guarantees
