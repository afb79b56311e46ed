import EventaApi.Library.Decimals
import EventaApi.Library.Versions
import EventaApi.Source.AttendeeContact

/-!
# An attendee's contact details

Whatever edits and bookings interleave: no two attendees share an address, the address that
messages of a live order go to is its attendee's, every edit that was saved is in the audit trail
once, and no edit overwrites an address or a phone that it has not read.
-/
namespace EventaApi.Guarantees
open Library Source

abbrev DirectoryPool := Pool DirectoryDesk ContactPhase
abbrev DirectoryTurn := PoolTurn ContactRequest Unit DirectoryWorld

/-! ## The audit's texts -/

/-- The timeline of an attendee reads these. -/
def IsAbout (attendeeId : Nat) (audit : ContactAudit) : Prop :=
  audit.type = CONTACT_AUDIT_TYPE ∧
    (contactAuditSubject attendeeId).toList <+: audit.meta.toList

instance (attendeeId : Nat) : DecidablePred (IsAbout attendeeId) :=
  fun _ => inferInstanceAs (Decidable (_ ∧ _))

/-- How often an attendee was edited, by the audit trail. -/
def editsOf (audits : List ContactAudit) (attendeeId : Nat) : Nat :=
  audits.countP fun audit => IsAbout attendeeId audit

theorem toList_contactAuditSubject (attendeeId : Nat) : (contactAuditSubject attendeeId).toList =
    "attendee #".toList ++ (Nat.toDigits 10 attendeeId ++ [' ', '·']) := by
  simp [contactAuditSubject]

/-- An edit is recorded about the attendee that was edited, and about no other. -/
theorem isAbout_recordContactEdit {attendeeId other : Nat} {input : SaveContactInput} :
    IsAbout other (recordContactEdit attendeeId input) ↔ other = attendeeId := by
  have text : (contactAuditMeta attendeeId input.fields).toList =
      (contactAuditSubject attendeeId).toList ++ (" changed: " ++
        ", ".intercalate (input.fields.map ContactField.text)).toList := by
    simp [contactAuditMeta]
  constructor
  · rintro ⟨_, rest, same⟩
    have same : (contactAuditSubject other).toList ++ rest =
        (contactAuditMeta attendeeId input.fields).toList := same
    rw [text, toList_contactAuditSubject, toList_contactAuditSubject] at same
    simp only [List.append_assoc, List.append_cancel_left_eq] at same
    exact (digits_stop_inj (by decide) same).1
  · rintro rfl
    exact ⟨rfl, _, text.symm⟩

theorem editsOf_cons {attendeeId other : Nat} {input : SaveContactInput}
    {audits : List ContactAudit} : editsOf (recordContactEdit attendeeId input :: audits) other =
      editsOf audits other + if other = attendeeId then 1 else 0 := by
  unfold editsOf
  rw [List.countP_cons]
  simp only [isAbout_recordContactEdit, decide_eq_true_eq]

/-! ## Sound directories -/

structure DirectorySound (desk : DirectoryDesk) : Prop where
  unique : ∀ row ∈ desk.attendees, ∀ other ∈ desk.attendees,
    citext row.email = citext other.email → row = other
  reached : ∀ order ∈ desk.orders, order.deletedAt = none →
    ∃ row ∈ desk.attendees, row.id = order.attendeeId ∧ citext order.buyerEmail = citext row.email
  audited : ∀ row ∈ desk.attendees, row.version = 1 + editsOf desk.auditEvents row.id
  unknown : ∀ attendeeId, desk.attendees.next ≤ attendeeId → editsOf desk.auditEvents attendeeId = 0

variable {desk : DirectoryDesk}

/-- What the guarded write finds, and that its address is nobody else's. -/
structure Saves (desk : DirectoryDesk) (attendeeId : Nat) (input : SaveContactInput)
    (row : DirectoryAttendee) : Prop where
  stored : row ∈ desk.attendees
  found : IsAtVersion attendeeId input.expectedVersion row
  free : ∀ other ∈ desk.attendees, other.id ≠ attendeeId →
    citext other.email ≠ citext (corrected input row).email

/-- What a save comes to: it found its row, or changed nothing. -/
theorem saveContact_cases {attendeeId : Nat} {input : SaveContactInput}
    {save : DirectoryAttendee → ContactSave} :
    (∃ row, Saves desk attendeeId input row ∧ saveContact desk attendeeId input save =
      .ok (savedContact desk attendeeId input (save row),
        findDirectoryEntry (savedContact desk attendeeId input (save row)) attendeeId)) ∨
    saveContact desk attendeeId input save = .ok (desk, none) ∨
    saveContact desk attendeeId input save = .error (.uniqueViolation UQ_ATTENDEES_ORG_EMAIL) := by
  unfold saveContact
  cases picked : (desk.attendees.select (IsAtVersion attendeeId input.expectedVersion)).head? with
  | none => exact Or.inr (Or.inl rfl)
  | some row =>
    obtain ⟨stored, found⟩ := Table.mem_select.mp (List.mem_of_head? picked)
    dsimp only
    split
    · rename_i none
      have free := Table.select_eq_nil.mp none
      exact Or.inl ⟨row, ⟨stored, found, fun other there apart same =>
        free other there ⟨apart, same⟩⟩, rfl⟩
    · exact Or.inr (Or.inr rfl)

/-- A step of a request saves a contact, or leaves the desk as it is. -/
theorem acts_saving (phase : ContactPhase) :
    (actOnContact desk () phase).1 = desk ∨ ∃ request wanted current row,
      phase = .apply request wanted current ∧ changedFields current wanted ≠ [] ∧
      let input : SaveContactInput :=
        { changes := onlyFields wanted (changedFields current wanted)
          fields := changedFields current wanted, expectedVersion := current.version
          actorUserId := request.userId }
      Saves desk current.id input row ∧ (actOnContact desk () phase).1 =
        savedContact desk current.id input
          { opened := current, wanted, sent := request.input.version.join, replaced := row } := by
  cases phase with
  | begin | require | assertAddressIsFree | currentEntry | done => exact Or.inl rfl
  | apply request wanted current =>
    dsimp only [actOnContact, applyContact]
    by_cases untouched : changedFields current wanted = []
    · rw [if_pos untouched]
      exact Or.inl rfl
    · rw [if_neg untouched]
      rcases @saveContact_cases desk current.id _ _ with ⟨row, saves, saved⟩ | missed | taken
      · right
        refine ⟨request, wanted, current, row, rfl, untouched, saves, ?_⟩
        rw [saved]
        cases findDirectoryEntry _ current.id <;> rfl
      · rw [missed]
        exact Or.inl rfl
      · rw [taken]
        exact Or.inl rfl

/-! ## What saves and bookings keep -/

namespace DirectorySound

/-- Attendees are rewritten with the addresses and the versions they have. -/
theorem rewritten (sound : DirectorySound desk) {hit : DirectoryAttendee → Prop} [DecidablePred hit]
    {write : DirectoryAttendee → DirectoryAttendee} {keeps : ∀ row, (write row).id = row.id}
    (email : ∀ row, (write row).email = row.email)
    (version : ∀ row, (write row).version = row.version) :
    DirectorySound { desk with attendees := desk.attendees.update hit write keeps } := by
  have comes {row : DirectoryAttendee} (member : row ∈ desk.attendees.update hit write keeps) :
      ∃ old ∈ desk.attendees, row = (if hit old then write old else old) ∧ row.id = old.id ∧
        row.email = old.email ∧ row.version = old.version := by
    obtain ⟨old, stored, rfl⟩ := Table.mem_update.mp member
    refine ⟨old, stored, rfl, ?_⟩
    split
    · exact ⟨keeps old, email old, version old⟩
    · exact ⟨rfl, rfl, rfl⟩
  refine ⟨?_, ?_, ?_, ?_⟩
  · intro row member other there same
    obtain ⟨old, stored, rfl, _, address, _⟩ := comes member
    obtain ⟨older, storedToo, rfl, _, otherAddress, _⟩ := comes there
    rw [address, otherAddress] at same
    rw [sound.unique old stored older storedToo same]
  · intro order stored live
    obtain ⟨row, there, named, same⟩ := sound.reached order stored live
    refine ⟨if hit row then write row else row, Table.mem_update.mpr ⟨row, there, rfl⟩, ?_⟩
    split
    · exact ⟨(keeps row).trans named, same.trans (congrArg citext (email row).symm)⟩
    · exact ⟨named, same⟩
  · intro row member
    obtain ⟨old, stored, _, named, _, counted⟩ := comes member
    rw [counted, named]
    exact sound.audited old stored
  · intro attendeeId unissued
    dsimp only at unissued
    rw [Table.next_update] at unissued
    exact sound.unknown attendeeId unissued

/-- Orders are rewritten for the attendees and the addresses they have, and none comes back. -/
theorem reordered (sound : DirectorySound desk) {hit : DirectoryOrder → Prop} [DecidablePred hit]
    {write : DirectoryOrder → DirectoryOrder} {keeps : ∀ order, (write order).id = order.id}
    (routed : ∀ order, (write order).attendeeId = order.attendeeId ∧
      (write order).buyerEmail = order.buyerEmail)
    (live : ∀ order, (write order).deletedAt = none → order.deletedAt = none) :
    DirectorySound { desk with orders := desk.orders.update hit write keeps } := by
  refine ⟨sound.unique, ?_, sound.audited, sound.unknown⟩
  intro order member kept
  rcases Table.mem_update_cases member with ⟨old, stored, _, rfl⟩ | ⟨stored, _⟩
  · rw [(routed old).1, (routed old).2]
    exact sound.reached old stored (live old kept)
  · exact sound.reached order stored kept

theorem saved (sound : DirectorySound desk) {attendeeId : Nat} {input : SaveContactInput}
    {row : DirectoryAttendee} (saves : Saves desk attendeeId input row) (save : ContactSave) :
    DirectorySound (savedContact desk attendeeId input save) := by
  obtain ⟨stored, ⟨named, live, atVersion⟩, free⟩ := saves
  have only {other : DirectoryAttendee} (there : other ∈ desk.attendees)
      (same : other.id = attendeeId) : other = row :=
    Table.eq_of_key there stored (same.trans named.symm)
  have hits : IsAtVersion attendeeId input.expectedVersion row := ⟨named, live, atVersion⟩
  have comes {other : DirectoryAttendee} (member : other ∈ (savedContact desk attendeeId input
      save).attendees) : other = corrected input row ∨
        other ∈ desk.attendees ∧ other.id ≠ attendeeId := by
    rcases Table.mem_update_cases member with ⟨old, there, hit, rfl⟩ | ⟨there, miss⟩
    · exact Or.inl (only there hit.1 ▸ rfl)
    · refine Or.inr ⟨there, fun same => miss ?_⟩
      rw [only there same]
      exact hits
  have corrects : corrected input row ∈ (savedContact desk attendeeId input save).attendees :=
    Table.mem_update_of_hit stored hits
  refine ⟨?_, ?_, ?_, ?_⟩
  · intro first member second there same
    rcases comes member with rfl | ⟨stored, apart⟩
    · rcases comes there with rfl | ⟨storedToo, apart⟩
      · rfl
      · exact absurd same.symm (free second storedToo apart)
    · rcases comes there with rfl | ⟨storedToo, _⟩
      · exact absurd same (free first stored apart)
      · exact sound.unique first stored second storedToo same
  · intro order member kept
    rcases Table.mem_update_cases member with ⟨old, there, ⟨mine, routed⟩, rfl⟩ | ⟨there, miss⟩
    · obtain ⟨other, storedToo, holds, same⟩ := sound.reached old there routed
      cases only storedToo (holds.trans mine)
      refine ⟨corrected input row, corrects, named.trans mine.symm, ?_⟩
      cases address : input.changes.email with
      | none => simpa [repointed, corrected, address] using same
      | some email => simp [address]
    · obtain ⟨other, storedToo, holds, same⟩ := sound.reached order there kept
      refine ⟨other, Table.mem_update_of_miss storedToo fun hit => ?_, holds, same⟩
      exact miss ⟨holds.symm.trans hit.1, kept⟩
  · intro other member
    dsimp only [savedContact]
    rw [editsOf_cons]
    rcases comes member with rfl | ⟨there, apart⟩
    · have counted := sound.audited row stored
      dsimp only [corrected]
      rw [if_pos named]
      omega
    · rw [if_neg apart]
      exact sound.audited other there
  · intro other unissued
    dsimp only [savedContact] at unissued ⊢
    rw [Table.next_update] at unissued
    have issued : row.id < desk.attendees.next := Table.key_lt_next stored
    rw [editsOf_cons, if_neg (by omega), sound.unknown other unissued]

/-- A booking finds its attendee by the address, or adds one, and its order is reached by it. -/
theorem booked (sound : DirectorySound desk) (buyer : Buyer) (eventId : Nat) (status : OrderStatus)
    (tickets : Nat) : DirectorySound (changeDirectory desk (.booked buyer eventId status tickets)) := by
  dsimp only [changeDirectory, adoptAttendee]
  cases picked : (desk.attendees.select fun row => citext row.email = citext buyer.email).head? with
  | some existing =>
    obtain ⟨stored, same⟩ := Table.mem_select.mp (List.mem_of_head? picked)
    have renamed : DirectorySound { desk with
        attendees := desk.attendees.update (fun row => row.id = existing.id) fun row =>
          { row with name := buyer.name } } := sound.rewritten (fun _ => rfl) fun _ => rfl
    refine ⟨renamed.unique, ?_, renamed.audited, renamed.unknown⟩
    intro order member live
    rcases Table.mem_insert.mp member with old | rfl
    · exact renamed.reached order old live
    · exact ⟨_, Table.mem_update_of_hit stored rfl, rfl, same.symm⟩
  | none =>
    have fresh := Table.select_eq_nil.mp (List.head?_eq_none_iff.mp picked)
    refine ⟨?_, ?_, ?_, ?_⟩
    · intro row member other there same
      rcases Table.mem_insert.mp member with old | rfl
      · rcases Table.mem_insert.mp there with older | rfl
        · exact sound.unique row old other older same
        · exact absurd same (fresh row old)
      · rcases Table.mem_insert.mp there with older | rfl
        · exact absurd same.symm (fresh other older)
        · rfl
    · intro order member live
      rcases Table.mem_insert.mp member with old | rfl
      · obtain ⟨row, there, named, same⟩ := sound.reached order old live
        exact ⟨row, Table.mem_insert.mpr (Or.inl there), named, same⟩
      · exact ⟨_, Table.mem_insert.mpr (Or.inr rfl), rfl, rfl⟩
    · intro row member
      rcases Table.mem_insert.mp member with old | rfl
      · exact sound.audited row old
      · have none := sound.unknown desk.attendees.next le_rfl
        dsimp only
        omega
    · intro attendeeId unissued
      dsimp only at unissued
      rw [Table.next_insert] at unissued
      exact sound.unknown attendeeId (by omega)

theorem acts (sound : DirectorySound desk) (phase : ContactPhase) :
    DirectorySound (actOnContact desk () phase).1 := by
  rcases @acts_saving desk phase with same | ⟨_, _, _, row, _, _, saves, saved⟩
  · rw [same]
    exact sound
  · rw [saved]
    exact sound.saved saves _

theorem changes (sound : DirectorySound desk) (event : DirectoryWorld) :
    DirectorySound (changeDirectory desk event) := by
  cases event with
  | tick | permissions | scanned =>
    exact ⟨sound.unique, sound.reached, sound.audited, sound.unknown⟩
  | booked buyer eventId status tickets => exact sound.booked buyer eventId status tickets
  | decided => exact sound.reordered (fun _ => ⟨rfl, rfl⟩) fun _ => id
  | removeAttendee => exact sound.rewritten (fun _ => rfl) fun _ => rfl
  | removeOrder => exact sound.reordered (fun _ => ⟨rfl, rfl⟩) fun _ gone => by cases gone

theorem serve {pool : DirectoryPool} (sound : DirectorySound pool.shared) (turn : DirectoryTurn) :
    DirectorySound (contactEdits.serve pool turn).shared := by
  rcases contactEdits.serve_cases pool turn with same | ⟨event, _, after⟩ | ⟨_, _, job, _, _, after⟩
  · rw [same]
    exact sound
  · rw [after]
    exact sound.changes event
  · rw [after]
    exact sound.acts job.phase

theorem run {start : DirectoryPool} (sound : DirectorySound start.shared)
    (turns : List DirectoryTurn) :
    DirectorySound (Library.run contactEdits.serve start turns).shared := by
  have keeps (pool : DirectoryPool) (turn : DirectoryTurn) (sound : DirectorySound pool.shared) :
      DirectorySound (contactEdits.serve pool turn).shared := sound.serve turn
  exact run_invariant_always keeps turns sound

end DirectorySound

/-- Along every run of edits and bookings no two attendees share an address, the removed ones
included, every live order's messages go to its attendee's address, and an attendee's version
counts the edits that the audit trail tells of it. -/
theorem registrations_reach_attendees {start : DirectoryPool} (sound : DirectorySound start.shared)
    (turns : List DirectoryTurn) :
    let desk := (run contactEdits.serve start turns).shared
    (∀ row ∈ desk.attendees, ∀ other ∈ desk.attendees,
        citext row.email = citext other.email → row = other) ∧
      (∀ order ∈ desk.orders, order.deletedAt = none → ∃ row ∈ desk.attendees,
        row.id = order.attendeeId ∧ citext order.buyerEmail = citext row.email) ∧
      ∀ row ∈ desk.attendees, row.version = 1 + editsOf desk.auditEvents row.id := by
  have reached := sound.run turns
  exact ⟨reached.unique, reached.reached, reached.audited⟩

/-- Nobody booked yet, and anybody may manage registrations. -/
def emptyDirectory : DirectoryPool :=
  { jobs := .empty
    shared :=
      { attendees := .empty, orders := .empty, tickets := .empty, auditEvents := []
        mayManage := fun _ => true, clock := 0, saves := [] } }

theorem emptyDirectory_sound : DirectorySound emptyDirectory.shared where
  unique := fun _ stored => absurd stored (Table.not_mem_of_empty rfl _)
  reached := fun _ stored => absurd stored (Table.not_mem_of_empty rfl _)
  audited := fun _ stored => absurd stored (Table.not_mem_of_empty rfl _)
  unknown := fun _ _ => rfl

def moveTo (email : String) : ContactRequest := ⟨7, 0, { email := some (some email) }⟩

/-- Ann books, two edits of her address are read alike, and both are saved if they may be. -/
def annsEdits : List DirectoryTurn :=
  .outside (.booked ⟨"Ann", "ann@acme.co", none⟩ 5 .confirmed 1) ::
    .receive (moveTo "ann@home.co") :: .receive (moveTo "ann@work.co") ::
      [0, 1, 0, 1, 0, 1, 0, 1].map fun jobId => .advance jobId ()

theorem registrations_reach_attendees_annsEdits :
    let desk := (run contactEdits.serve emptyDirectory annsEdits).shared
    ∃ order ∈ desk.orders, order.buyerEmail = "ann@home.co" ∧
      ∃ row ∈ desk.attendees, row.id = order.attendeeId ∧
        citext order.buyerEmail = citext row.email ∧
          row.version = 1 + editsOf desk.auditEvents row.id := by
  have live : ((run contactEdits.serve emptyDirectory annsEdits).shared.orders.find 0).any
      (fun order => order.buyerEmail = "ann@home.co" ∧ order.deletedAt = none) = true := by
    decide +kernel
  obtain ⟨order, found, is⟩ := (Option.any_eq_true _ _).mp live
  obtain ⟨address, kept⟩ := of_decide_eq_true is
  have stored := (Table.find_eq_some.mp found).1
  obtain ⟨_, reached, audited⟩ := registrations_reach_attendees emptyDirectory_sound annsEdits
  obtain ⟨row, there, named, same⟩ := reached order stored kept
  exact ⟨order, stored, address, row, there, named, same, audited row there⟩

/-! ## What an edit overwrites -/

/-- What no booking and no removal changes: only an edit does, and counts it. -/
def routing (row : DirectoryAttendee) : String × Option String := (row.email, row.phone)

abbrev MovesOn : DirectoryAttendee → DirectoryAttendee → Prop :=
  Moves DirectoryAttendee.version routing

/-- What a request has read of its attendee has moved on, if at all, with its version, and is what
the client meant where it sent a version. -/
def KnowsContact (desk : DirectoryDesk) (request : ContactRequest) (current : AttendeeContactRow) :
    Prop :=
  (∃ row now, contactRow row = current ∧ desk.attendees.find current.id = some now ∧
    MovesOn row now) ∧ ∀ version ∈ request.input.version.join, version = current.version

def KnowsOpened (desk : DirectoryDesk) : ContactPhase → Prop
  | .assertAddressIsFree request _ current _ | .apply request _ current =>
    KnowsContact desk request current
  | _ => True

/-- A save replaced the address and the phone that it had read, at the version it had read and
that the client sent, and moved something. -/
structure SaveStands (save : ContactSave) : Prop where
  named : save.replaced.id = save.opened.id
  version : save.replaced.version = save.opened.version
  email : save.replaced.email = save.opened.email
  phone : save.replaced.phone = save.opened.phone
  sent : ∀ version ∈ save.sent, version = save.opened.version
  moved : changedFields save.opened save.wanted ≠ []

structure SavesSound (desk : DirectoryDesk) : Prop where
  stands : ∀ save ∈ desk.saves, SaveStands save
  /-- The version that was replaced does not come back. -/
  passed : ∀ save ∈ desk.saves, ∃ now, desk.attendees.find save.opened.id = some now ∧
    save.opened.version < now.version
  serial : desk.saves.Pairwise fun later earlier =>
    later.opened.id = earlier.opened.id → earlier.opened.version < later.opened.version

/-- What a step makes of the attendees: a save it adds has replaced what became of the rows. -/
structure DirectoryStep (before after : DirectoryDesk) : Prop where
  persists : Table.Persists MovesOn before.attendees after.attendees
  saves : ∀ save ∈ after.saves, save ∈ before.saves ∨
    ∀ row ∈ before.attendees, row.id = save.opened.id → MovesOn row save.replaced

namespace DirectoryStep

theorem refl (desk : DirectoryDesk) : DirectoryStep desk desk :=
  ⟨.of_eq rfl Moves.refl, fun _ old => Or.inl old⟩

theorem trans {before middle after : DirectoryDesk} (first : DirectoryStep before middle)
    (second : DirectoryStep middle after) : DirectoryStep before after where
  persists := by
    intro row stored
    obtain ⟨between, found, moved⟩ := first.persists row stored
    obtain ⟨there, named⟩ := Table.find_eq_some.mp found
    obtain ⟨now, foundNow, movedToo⟩ := second.persists between there
    exact ⟨now, named ▸ foundNow, .trans _ _ _ moved movedToo⟩
  saves := by
    intro save member
    rcases second.saves save member with between | since
    · exact first.saves save between
    · refine Or.inr fun row stored named => ?_
      obtain ⟨between, found, moved⟩ := first.persists row stored
      obtain ⟨there, same⟩ := Table.find_eq_some.mp found
      exact .trans _ _ _ moved (since between there (same.trans named))

/-- A step that saves nothing. -/
theorem unsaved {after : DirectoryDesk} (saves : after.saves = desk.saves)
    (persists : Table.Persists MovesOn desk.attendees after.attendees) : DirectoryStep desk after :=
  ⟨persists, fun _ there => Or.inl (saves ▸ there)⟩

theorem saved {attendeeId : Nat} {input : SaveContactInput} {row : DirectoryAttendee}
    (saves : Saves desk attendeeId input row) (save : ContactSave)
    (replaced : save.replaced = row) (opened : save.opened.id = attendeeId) :
    DirectoryStep desk (savedContact desk attendeeId input save) where
  persists := .update Moves.refl fun old _ hit => .of_lt (by
    change old.version < input.expectedVersion + 1
    rw [hit.2.2]
    exact Nat.lt_succ_self _)
  saves := by
    intro other member
    rcases List.mem_cons.mp member with rfl | old
    · refine Or.inr fun older stored named => ?_
      have same : older = row :=
        Table.eq_of_key stored saves.stored (named.trans (opened.trans saves.found.1.symm))
      rw [same, replaced]
      exact Moves.refl row
    · exact Or.inl old

theorem acts (phase : ContactPhase) : DirectoryStep desk (actOnContact desk () phase).1 := by
  rcases @acts_saving desk phase with same | ⟨_, _, _, row, _, _, saves, after⟩
  · rw [same]
    exact refl desk
  · rw [after]
    exact saved saves _ rfl rfl

theorem changes (event : DirectoryWorld) : DirectoryStep desk (changeDirectory desk event) := by
  cases event with
  | tick | permissions | decided | scanned | removeOrder =>
    exact unsaved rfl (.of_eq rfl Moves.refl)
  | removeAttendee =>
    exact unsaved rfl (.update Moves.refl fun _ _ _ => Moves.of_eq rfl rfl)
  | booked buyer eventId status tickets =>
    dsimp only [changeDirectory, adoptAttendee]
    split
    · exact unsaved rfl (.update Moves.refl fun _ _ _ => Moves.of_eq rfl rfl)
    · exact unsaved rfl (.insert Moves.refl)

theorem serve (pool : DirectoryPool) (turn : DirectoryTurn) :
    DirectoryStep pool.shared (contactEdits.serve pool turn).shared :=
  Handler.serve_shared (refl _) (fun job _ _ => acts job.phase) changes turn

/-- Everything between two moments of a run. -/
theorem run (start : DirectoryPool) (first rest : List DirectoryTurn) :
    DirectoryStep (Library.run contactEdits.serve start first).shared
      (Library.run contactEdits.serve start (first ++ rest)).shared := by
  rw [run_append]
  generalize Library.run contactEdits.serve start first = reached
  have keeps (pool : DirectoryPool) (turn : DirectoryTurn)
      (soFar : DirectoryStep reached.shared pool.shared) :
      DirectoryStep reached.shared (contactEdits.serve pool turn).shared :=
    soFar.trans (serve pool turn)
  exact run_invariant_always keeps rest (refl reached.shared)

end DirectoryStep

theorem KnowsContact.later {after : DirectoryDesk} (step : DirectoryStep desk after)
    {request : ContactRequest} {current : AttendeeContactRow}
    (knows : KnowsContact desk request current) : KnowsContact after request current := by
  obtain ⟨⟨row, then_, read, found, moved⟩, sent⟩ := knows
  obtain ⟨stored, named⟩ := Table.find_eq_some.mp found
  obtain ⟨now, foundNow, movedToo⟩ := step.persists then_ stored
  exact ⟨⟨row, now, read, named ▸ foundNow, .trans _ _ _ moved movedToo⟩, sent⟩

theorem KnowsOpened.later {after : DirectoryDesk} (step : DirectoryStep desk after)
    {phase : ContactPhase} (knows : KnowsOpened desk phase) : KnowsOpened after phase := by
  cases phase with
  | assertAddressIsFree | apply => exact KnowsContact.later step knows
  | _ => exact trivial

/-- What is read of an attendee is known. -/
theorem knowsContact_found {request : ContactRequest} {current : AttendeeContactRow}
    (found : findContact desk request.attendeeId = some current)
    (same : request.input.version.all (· = some current.version) = true) :
    KnowsContact desk request current := by
  obtain ⟨row, there, rfl⟩ := Option.map_eq_some_iff.mp found
  obtain ⟨stored, _⟩ := Option.filter_eq_some_iff.mp there
  have named : row.id = request.attendeeId := (Table.find_eq_some.mp stored).2
  refine ⟨⟨row, row, rfl, ?_, Moves.refl row⟩, fun version sent => ?_⟩
  · change desk.attendees.find row.id = some row
    rw [named]
    exact stored
  · have is : request.input.version = some (some version) := Option.join_eq_some_iff.mp sent
    rw [is] at same
    simpa using same

theorem acts_knowsOpened {phase : ContactPhase} (knows : KnowsOpened desk phase) :
    KnowsOpened desk (actOnContact desk () phase).2 := by
  cases phase with
  | begin request =>
    dsimp only [actOnContact, beginContact]
    split
    · split <;> exact trivial
    · exact trivial
  | require request wanted =>
    dsimp only [actOnContact]
    cases found : findContact desk request.attendeeId with
    | none => exact trivial
    | some current =>
      dsimp only [afterRequire]
      split
      · rename_i same
        have read := knowsContact_found found same
        split <;> exact read
      · exact trivial
  | assertAddressIsFree request wanted current email =>
    dsimp only [actOnContact]
    cases findAttendeeIdByEmail desk email with
    | none => exact knows
    | some holder =>
      dsimp only [afterAddress]
      split
      · exact knows
      · exact trivial
  | apply request wanted current =>
    dsimp only [actOnContact, applyContact]
    split
    · exact trivial
    · rcases @saveContact_cases desk current.id _ _ with ⟨row, _, saved⟩ | missed | taken
      · rw [saved]
        cases findDirectoryEntry _ current.id <;> exact trivial
      · rw [missed]
        exact trivial
      · rw [taken]
        exact trivial
  | currentEntry request =>
    dsimp only [actOnContact]
    cases findDirectoryEntry desk request.attendeeId <;> exact trivial
  | done => exact trivial

namespace SavesSound

theorem unsaved {after : DirectoryDesk} (sound : SavesSound desk) (saves : after.saves = desk.saves)
    (step : DirectoryStep desk after) : SavesSound after where
  stands := saves ▸ sound.stands
  passed := by
    rw [saves]
    intro save member
    obtain ⟨row, found, less⟩ := sound.passed save member
    obtain ⟨stored, named⟩ := Table.find_eq_some.mp found
    obtain ⟨now, foundNow, moved⟩ := step.persists row stored
    exact ⟨now, named ▸ foundNow, less.trans_le moved.forward⟩
  serial := saves ▸ sound.serial

theorem saved (sound : SavesSound desk) {request : ContactRequest} {wanted : ContactChanges}
    {current : AttendeeContactRow} {input : SaveContactInput} {row : DirectoryAttendee}
    (knows : KnowsContact desk request current) (moved : changedFields current wanted ≠ [])
    (version : input.expectedVersion = current.version)
    (saves : Saves desk current.id input row) :
    SavesSound (savedContact desk current.id input
      { opened := current, wanted, sent := request.input.version.join, replaced := row }) := by
  obtain ⟨⟨read, now, rfl, found, onward⟩, sent⟩ := knows
  obtain ⟨stored, ⟨named, live, atVersion⟩, _⟩ := saves
  obtain ⟨there, same⟩ := Table.find_eq_some.mp found
  have here : now = row := Table.eq_of_key there stored (same.trans named.symm)
  subst here
  have unmoved := onward.same (atVersion.trans version)
  have step : DirectoryStep desk (savedContact desk (contactRow read).id input
      { opened := contactRow read, wanted, sent := request.input.version.join, replaced := now }) :=
    .saved ⟨stored, ⟨named, live, atVersion⟩, ‹_›⟩ _ rfl rfl
  refine ⟨?_, ?_, ?_⟩
  · intro save member
    rcases List.mem_cons.mp member with rfl | old
    · exact ⟨named, atVersion.trans version, congrArg Prod.fst unmoved, congrArg Prod.snd unmoved,
        sent, moved⟩
    · exact sound.stands save old
  · intro save member
    rcases List.mem_cons.mp member with rfl | old
    · refine ⟨corrected input now, Table.find_eq_some.mpr
        ⟨Table.mem_update_of_hit stored ⟨named, live, atVersion⟩, named⟩, ?_⟩
      change (contactRow read).version < input.expectedVersion + 1
      rw [version]
      exact Nat.lt_succ_self _
    · obtain ⟨before, foundBefore, less⟩ := sound.passed save old
      obtain ⟨storedBefore, namedBefore⟩ := Table.find_eq_some.mp foundBefore
      obtain ⟨after, foundAfter, later⟩ := step.persists before storedBefore
      exact ⟨after, namedBefore ▸ foundAfter, less.trans_le later.forward⟩
  · refine List.pairwise_cons.mpr ⟨fun earlier old same' => ?_, sound.serial⟩
    obtain ⟨before, foundBefore, less⟩ := sound.passed earlier old
    rw [← same', found] at foundBefore
    cases foundBefore
    rwa [atVersion, version] at less

end SavesSound

theorem contactEdits_keeps : contactEdits.Keeps SavesSound KnowsOpened (fun _ _ _ => True)
    (fun _ _ => True) where
  opened := fun _ _ _ => trivial
  crashed := fun _ _ => trivial
  act := by
    intro desk _ phase sound knows _
    refine ⟨?_, KnowsOpened.later (.acts phase) (acts_knowsOpened knows)⟩
    rcases @acts_saving desk phase with same | ⟨request, wanted, current, row, rfl, moved, saves, after⟩
    · change SavesSound (actOnContact desk () phase).1
      rw [same]
      exact sound
    · change SavesSound (actOnContact desk () _).1
      rw [after]
      exact sound.saved knows moved rfl saves
  undisturbed := fun _ _ phase _ _ _ _ knows => KnowsOpened.later (.acts phase) knows
  outside := by
    intro desk event sound _
    have unsaved : (changeDirectory desk event).saves = desk.saves := by
      cases event <;> rfl
    exact ⟨sound.unsaved unsaved (.changes event), fun _ => KnowsOpened.later (.changes event)⟩

/-- No edit overwrites unseen what another one wrote: each save replaced the address and the phone
that its request had read, at the version it had read, and that the client sent if it sent one;
these are the address and the phone that the attendee had at that version in every state of the
run, and no version is saved over twice. -/
theorem edits_overwrite_nothing_unseen {start : DirectoryPool} (unsaved : start.shared.saves = [])
    (idle : start.jobs.rows = []) (turns : List DirectoryTurn) :
    let saves := (run contactEdits.serve start turns).shared.saves
    (∀ save ∈ saves, SaveStands save) ∧
      (∀ save ∈ saves, ∀ first, first <+: turns →
        ∀ row ∈ (run contactEdits.serve start first).shared.attendees, row.id = save.opened.id →
          row.version = save.opened.version → routing row = routing save.replaced) ∧
      saves.Pairwise fun later earlier =>
        later.opened.id = earlier.opened.id → earlier.opened.version < later.opened.version := by
  have initial : start.Sound SavesSound KnowsOpened :=
    { shared := ⟨by simp [unsaved], by simp [unsaved], by simp [unsaved]⟩
      jobs := fun job stored => absurd stored (Table.not_mem_of_empty idle job) }
  have sound (first : List DirectoryTurn) : SavesSound (run contactEdits.serve start first).shared :=
    (contactEdits_keeps.run initial (Meets.mono (fun pool turn _ => Handler.guarded_true pool turn)
      (meets_true start first))).shared
  refine ⟨(sound turns).stands, ?_, (sound turns).serial⟩
  rintro save member first ⟨rest, rfl⟩ row stored named version
  rcases (DirectoryStep.run start first rest).saves save member with before | since
  · obtain ⟨now, found, less⟩ := (sound first).passed save before
    obtain ⟨there, same⟩ := Table.find_eq_some.mp found
    have here : row = now := Table.eq_of_key stored there (named.trans same.symm)
    rw [← here, version] at less
    exact absurd less (lt_irrefl _)
  · have moved := since row stored named
    have stands := (sound (first ++ rest)).stands save member
    exact (moved.same (stands.version.trans version.symm)).symm

theorem edits_overwrite_nothing_unseen_annsEdits :
    let saves := (run contactEdits.serve emptyDirectory annsEdits).shared.saves
    saves.length = 1 ∧ ∀ save ∈ saves, SaveStands save := by
  have once : (run contactEdits.serve emptyDirectory annsEdits).shared.saves.length = 1 := by
    decide +kernel
  exact ⟨once, (@edits_overwrite_nothing_unseen emptyDirectory rfl rfl annsEdits).1⟩

end EventaApi.Guarantees
