import EventaApi.Library.Versions
import EventaApi.Source.Sessions

/-!
# Rooms

A session is written only after a check that it overlaps none of the sessions then in its
room. The check is a read of its own, so a room is booked twice exactly where a session comes
into it between the check and the write, or where the room's name is empty and nothing was
checked. What an update checked is what it writes: it writes to the version it read.
-/
namespace EventaApi.Guarantees
open Library Source

/-! ## What is asked of rooms -/

abbrev SessionPool := Pool SessionDesk SessionPhase

abbrev SessionTurn := PoolTurn SessionRequest Unit SessionWorld

/-- The session, which has an end, is on at this second of the day. -/
def Occupies (row : Session) (moment : Nat) : Prop :=
  ∃ ends ∈ row.endTime, toSeconds row.startTime ≤ moment ∧ moment < toSeconds ends

def SameRoom (row other : Session) : Prop :=
  row.eventId = other.eventId ∧ row.day = other.day ∧
    ∃ room ∈ row.room, other.room = some room

instance (row other : Session) : Decidable (SameRoom row other) :=
  inferInstanceAs (Decidable (_ ∧ _ ∧ ∃ _ ∈ row.room, _))

def DoubleBooked (row other : Session) : Prop :=
  SameRoom row other ∧ ∃ moment, Occupies row moment ∧ Occupies other moment

/-- No two live sessions of one event, day and room are on at the same moment. -/
def RoomsFree (desk : SessionDesk) : Prop :=
  ∀ row ∈ desk.sessions, ∀ other ∈ desk.sessions, row.deletedAt = none →
    other.deletedAt = none → row.id ≠ other.id → ¬ DoubleBooked row other

/-- Every session the written one would share its room with was read by its check. -/
def checkedAll (desk : SessionDesk) (_ : Unit) : SessionPhase → Prop
  | .save draft others _ _ => ∀ row ∈ rowToSave desk draft.write,
    SessionAllowed desk row draft.speakerIds → ∀ other ∈ desk.sessions.rows,
      other.deletedAt = none → other.id ≠ row.id → DoubleBooked row other → other ∈ others
  | _ => True

def CheckedAll : SessionPool → SessionTurn → Prop := Handler.Guarded checkedAll fun _ _ => True

/-- Nobody has asked for anything yet. -/
def NoRequests (pool : SessionPool) : Prop := pool.jobs.rows = []

/-! ## Overlaps -/

section Overlaps

variable {row other : Session}

theorem doubleBooked_symm (booked : DoubleBooked row other) : DoubleBooked other row := by
  obtain ⟨⟨event, day, room, mine, its⟩, moment, on, also⟩ := booked
  exact ⟨⟨event.symm, day.symm, room, its, mine⟩, moment, also, on⟩

/-- Sessions that share a moment overlap as the check has it. -/
theorem overlaps_of_shared {moment : Nat} (on : Occupies row moment) (also : Occupies other moment) :
    overlaps row.startTime row.endTime other.startTime other.endTime = true := by
  obtain ⟨ends, mine, began, lasts⟩ := on
  obtain ⟨otherEnds, its, otherBegan, otherLasts⟩ := also
  rw [Option.mem_def] at mine its
  rw [mine, its]
  exact decide_eq_true ⟨began.trans_lt otherLasts, otherBegan.trans_lt lasts⟩

/-- Ranges that begin before they end overlap, as the check has it, where they share a moment. -/
theorem shared_of_overlaps (runs : ∀ ends ∈ row.endTime, toSeconds row.startTime < toSeconds ends)
    (otherRuns : ∀ ends ∈ other.endTime, toSeconds other.startTime < toSeconds ends)
    (clash : overlaps row.startTime row.endTime other.startTime other.endTime = true) :
    ∃ moment, Occupies row moment ∧ Occupies other moment := by
  cases mine : row.endTime with
  | none => simp [overlaps, mine] at clash
  | some ends =>
    cases its : other.endTime with
    | none => simp [overlaps, mine, its] at clash
    | some otherEnds =>
      rw [mine, its] at clash
      obtain ⟨before, after⟩ : toSeconds row.startTime < toSeconds otherEnds ∧
          toSeconds other.startTime < toSeconds ends := of_decide_eq_true clash
      have long := runs ends mine
      have otherLong := otherRuns otherEnds its
      refine ⟨max (toSeconds row.startTime) (toSeconds other.startTime), ⟨ends, mine, ?_, ?_⟩,
        otherEnds, its, ?_, ?_⟩
      · exact le_max_left _ _
      · exact max_lt long after
      · exact le_max_right _ _
      · exact max_lt before otherLong

/-- A room is refused only for a session it would really be shared with. -/
theorem doubleBooked_of_clash {desk : SessionDesk} {excludeId : Option Nat}
    (timed : ∀ row ∈ desk.sessions, ∀ ends ∈ row.endTime, toSeconds row.startTime < toSeconds ends)
    (runs : ∀ ends ∈ row.endTime, toSeconds row.startTime < toSeconds ends)
    (refused : roomClash row (roomCandidates desk row excludeId) = some other) :
    DoubleBooked row other := by
  have read := List.mem_of_find?_eq_some refused
  have clash := List.find?_some refused
  unfold roomCandidates at read
  split at read
  · next room _ named _ =>
    split at read
    · cases read
    · obtain ⟨stored, event, day, there, _⟩ := Table.mem_select.mp read
      refine ⟨⟨event.symm, day.symm, room, named, there⟩, ?_⟩
      exact shared_of_overlaps runs (timed other stored) clash
  · cases read

/-- Two sessions share a moment where the later to begin does so before the first to end. -/
theorem shared_iff : (∃ moment, Occupies row moment ∧ Occupies other moment) ↔
    ∃ ends ∈ row.endTime, ∃ otherEnds ∈ other.endTime,
      max (toSeconds row.startTime) (toSeconds other.startTime) <
        min (toSeconds ends) (toSeconds otherEnds) := by
  constructor
  · rintro ⟨moment, ⟨ends, mine, began, lasts⟩, otherEnds, its, otherBegan, otherLasts⟩
    exact ⟨ends, mine, otherEnds, its, (max_le began otherBegan).trans_lt (lt_min lasts otherLasts)⟩
  · rintro ⟨ends, mine, otherEnds, its, before⟩
    obtain ⟨lasts, otherLasts⟩ := lt_min_iff.mp before
    exact ⟨_, ⟨ends, mine, le_max_left _ _, lasts⟩, otherEnds, its, le_max_right _ _, otherLasts⟩

instance (row other : Session) : Decidable (DoubleBooked row other) :=
  decidable_of_iff (SameRoom row other ∧ ∃ ends ∈ row.endTime, ∃ otherEnds ∈ other.endTime,
    max (toSeconds row.startTime) (toSeconds other.startTime) <
      min (toSeconds ends) (toSeconds otherEnds)) (and_congr_right fun _ => shared_iff.symm)

instance (desk : SessionDesk) (input : Unit) : DecidablePred (checkedAll desk input)
  | .save draft _ _ _ => inferInstanceAs (Decidable (∀ _ ∈ rowToSave desk draft.write, _ → _))
  | .first _ | .speakers _ | .current _ | .room _ _ | .clashes _ _ _ | .status _ _ _
  | .respond _ _ | .remove _ | .done _ => isTrue trivial

instance (pool : SessionPool) (turn : SessionTurn) : Decidable (CheckedAll pool turn) :=
  inferInstanceAs (Decidable (Handler.Guarded _ _ pool turn))

end Overlaps

/-! ## What a request has read -/

/-- Where and when a session is: what a check goes by. -/
def slotOf (row : Session) : Nat × SessionWhen := (row.eventId, snapshot row)

/-- Sessions move only with their version. -/
abbrev SessionMoves : Session → Session → Prop := Moves Session.version slotOf

def RecallsWrite (desk : SessionDesk) : SessionWrite → Prop
  | .create _ => True
  | .update session _ => Recalls Session.version slotOf desk.sessions session

/-- What each phase of a request knows of the agenda. -/
def KnowsAgenda (desk : SessionDesk) : SessionPhase → Prop
  | .speakers draft | .current draft | .room draft _ => RecallsWrite desk draft.write
  | .clashes draft _ others | .status draft others _ | .save draft others _ _ =>
    RecallsWrite desk draft.write ∧ roomClash draft.write.candidate others = none
  | .first _ | .respond _ _ | .remove _ | .done _ => True

section Reads

variable {desk after : SessionDesk}

theorem RecallsWrite.later {write : SessionWrite} (recalls : RecallsWrite desk write)
    (descends : Table.Descends SessionMoves desk.sessions after.sessions) :
    RecallsWrite after write := by
  cases write with
  | create => trivial
  | update session values => exact Recalls.later recalls descends

theorem KnowsAgenda.later {phase : SessionPhase} (knows : KnowsAgenda desk phase)
    (descends : Table.Descends SessionMoves desk.sessions after.sessions) :
    KnowsAgenda after phase := by
  cases phase with
  | speakers | current | room => exact RecallsWrite.later knows descends
  | clashes | status | save => exact ⟨knows.1.later descends, knows.2⟩
  | first | respond | remove | done => trivial

theorem findSession_recalls {eventId sessionId : Nat} {session : Session}
    (found : findSession desk eventId sessionId = some session) : Recalls Session.version slotOf desk.sessions session := by
  obtain ⟨there, _⟩ := Option.filter_eq_some_iff.mp found
  exact .of_mem (Table.find_eq_some.mp there).1

end Reads

/-! ## One write -/

section Saves

variable {desk : SessionDesk} {write : SessionWrite} {row other : Session}

/-- A save of an update finds the version it read, and nothing else has its key. -/
theorem rowToSave_update {session : Session} {values : SessionValues}
    (saved : rowToSave desk (.update session values) = some row) :
    ∃ old, desk.sessions.find session.id = some old ∧ AsRead session old ∧
      row = savedSession session values old := by
  unfold rowToSave at saved
  obtain ⟨old, filtered, rfl⟩ := Option.map_eq_some_iff.mp saved
  obtain ⟨found, asRead⟩ := Option.filter_eq_some_iff.mp filtered
  exact ⟨old, found, of_decide_eq_true asRead, rfl⟩

theorem rowToSave_live (saved : rowToSave desk write = some row) : row.deletedAt = none := by
  cases write with
  | create values =>
    cases saved
    rfl
  | update session values =>
    obtain ⟨old, _, ⟨_, _, live⟩, rfl⟩ := rowToSave_update saved
    exact live

/-- A save leaves its row, and every other one as it was. -/
theorem mem_storeSession (saved : rowToSave desk write = some row) :
    other ∈ storeSession desk write ↔ other = row ∨ other ∈ desk.sessions ∧ other.id ≠ row.id := by
  cases write with
  | create values =>
    cases saved
    constructor
    · intro member
      rcases Table.mem_insert.mp member with old | rfl
      · exact Or.inr ⟨old, Nat.ne_of_lt (Table.key_lt_next old)⟩
      · exact Or.inl rfl
    · rintro (rfl | ⟨old, _⟩)
      · exact Table.mem_insert.mpr (Or.inr rfl)
      · exact Table.mem_insert.mpr (Or.inl old)
  | update session values =>
    obtain ⟨old, found, asRead, rfl⟩ := rowToSave_update saved
    obtain ⟨stored, _⟩ := Table.find_eq_some.mp found
    constructor
    · intro member
      obtain ⟨before, there, rfl⟩ := Table.mem_update.mp member
      by_cases struck : AsRead session before
      · have same : before = old := Table.eq_of_key there stored (struck.1.trans asRead.1.symm)
        rw [if_pos struck, same]
        exact Or.inl rfl
      · rw [if_neg struck]
        refine Or.inr ⟨there, fun same => struck ?_⟩
        have itself : before = old := Table.eq_of_key there stored same
        exact itself ▸ asRead
    · rintro (rfl | ⟨there, apart⟩)
      · exact Table.mem_update_of_hit stored asRead
      · exact Table.mem_update_of_miss there fun struck => apart (struck.1.trans asRead.1.symm)

/-- What is saved is where the check had it. -/
theorem rowToSave_overlaps (recalls : RecallsWrite desk write)
    (saved : rowToSave desk write = some row) :
    overlaps write.candidate.startTime write.candidate.endTime other.startTime other.endTime =
      overlaps row.startTime row.endTime other.startTime other.endTime := by
  have stored (start : TimeOfDay) (ends : Option TimeOfDay) :
      overlaps (storedTime start) (ends.map storedTime) other.startTime other.endTime =
        overlaps start ends other.startTime other.endTime := by
    cases ends <;> cases other.endTime <;> rfl
  cases write with
  | create values =>
    cases saved
    exact (stored _ _).symm
  | update session values =>
    obtain ⟨old, found, ⟨named, version, _⟩, rfl⟩ := rowToSave_update saved
    have slot : slotOf old = slotOf session :=
      Recalls.unmoved recalls (Table.find_eq_some.mp found).1 named version
    have start : old.startTime = session.startTime := congrArg (fun slot => slot.2.startTime) slot
    have ends : old.endTime = session.endTime := congrArg (fun slot => slot.2.endTime) slot
    refine Eq.trans ?_ (stored _ _).symm
    change overlaps (values.startTime.getD session.startTime) (values.endTime.getD session.endTime)
      other.startTime other.endTime = overlaps (values.startTime.getD old.startTime)
        (values.endTime.getD old.endTime) other.startTime other.endTime
    rw [start, ends]

/-- A save keeps rooms free exactly where its check read all that its session now clashes with. -/
theorem roomsFree_save {others : List Session} {sessions : Table Session}
    (recalls : RecallsWrite desk write) (clear : roomClash write.candidate others = none)
    (saved : rowToSave desk write = some row) (free : RoomsFree desk)
    (stored : ∀ other, other ∈ sessions ↔ other = row ∨ other ∈ desk.sessions ∧ other.id ≠ row.id) :
    RoomsFree { desk with sessions } ↔
      ∀ other ∈ desk.sessions.rows, other.deletedAt = none → other.id ≠ row.id →
        DoubleBooked row other → other ∈ others := by
  constructor
  · intro after other there live apart booked
    exact absurd booked (after row ((stored row).mpr (Or.inl rfl)) other
      ((stored other).mpr (Or.inr ⟨there, apart⟩)) (rowToSave_live saved) live (Ne.symm apart))
  · intro checked
    -- a session the check read does not overlap the one it was made for
    have unread {other : Session} (there : other ∈ desk.sessions) (live : other.deletedAt = none)
        (apart : other.id ≠ row.id) : ¬ DoubleBooked row other := by
      intro booked
      have read := checked other there live apart booked
      obtain ⟨_, moment, on, also⟩ := booked
      have clash := (rowToSave_overlaps recalls saved).trans (overlaps_of_shared on also)
      exact List.find?_eq_none.mp clear other read clash
    intro first member second member' live live' apart booked
    rcases (stored first).mp member with rfl | ⟨old, ne⟩
    · rcases (stored second).mp member' with rfl | ⟨old', ne'⟩
      · exact apart rfl
      · exact unread old' live' ne' booked
    · rcases (stored second).mp member' with rfl | ⟨old', ne'⟩
      · exact unread old live ne (doubleBooked_symm booked)
      · exact free first old second old' live live' apart booked

theorem saveSession_descends (draft : SessionDraft) (warning : Option String) (notify : Bool) :
    Table.Descends SessionMoves desk.sessions (saveSession desk draft warning notify).1.sessions := by
  unfold saveSession
  split
  · exact .of_eq rfl .refl
  · split
    · change Table.Descends SessionMoves desk.sessions (storeSession desk draft.write)
      cases draft.write with
      | create values => exact .insert .refl
      | update session values =>
        refine .update .refl fun old _ asRead => .of_lt ?_
        exact Nat.lt_succ_of_le asRead.2.1.le
    · exact .of_eq rfl .refl

end Saves

/-! ## One step -/

section Steps

variable {desk : SessionDesk}

theorem act_descends (phase : SessionPhase) :
    Table.Descends SessionMoves desk.sessions (actOnSessions desk phase).1.sessions := by
  cases phase with
  | first request => cases request <;> exact .of_eq rfl .refl
  | speakers | current | room | clashes | status | respond | done => exact .of_eq rfl .refl
  | save draft others warning notify => exact saveSession_descends draft warning notify
  | remove sessionId => exact .update .refl fun _ _ _ => .of_eq rfl rfl

theorem changeProgram_descends (event : SessionWorld) :
    Table.Descends SessionMoves desk.sessions (changeProgram desk event).sessions := by
  cases event with
  | eventDeleted => exact .delete .refl
  | tick | eventCreated | eventChanged | speakerAdded | speakerChanged => exact .of_eq rfl .refl

theorem afterSpeakers_knows {draft : SessionDraft} (recalls : RecallsWrite desk draft.write) :
    KnowsAgenda desk (afterSpeakers draft) := by
  unfold afterSpeakers
  split <;> exact recalls

theorem beforeUpdate_knows (eventId sessionId : Nat) (input : UpdateSessionInput) :
    KnowsAgenda desk (beforeUpdate desk eventId sessionId input) := by
  unfold beforeUpdate
  split
  · trivial
  · next session found =>
    split
    · trivial
    · split
      · trivial
      · dsimp only
        split
        · trivial
        · exact findSession_recalls found

theorem act_knows {phase : SessionPhase} (knows : KnowsAgenda desk phase) :
    KnowsAgenda desk (actOnSessions desk phase).2 := by
  cases phase with
  | first request =>
    cases request with
    | create eventId input =>
      change KnowsAgenda desk (beforeCreate desk eventId input)
      unfold beforeCreate
      split
      · trivial
      · split <;> trivial
    | update eventId sessionId input => exact beforeUpdate_knows eventId sessionId input
    | delete eventId sessionId confirm =>
      change KnowsAgenda desk (beforeDelete desk eventId sessionId confirm)
      unfold beforeDelete
      split
      · trivial
      · split <;> trivial
  | speakers draft =>
    simp only [actOnSessions]
    split
    · trivial
    · exact afterSpeakers_knows knows
  | current draft => exact knows
  | room draft speakerIds =>
    simp only [actOnSessions, afterRoom]
    split
    · trivial
    · next clear => exact ⟨knows, clear⟩
  | clashes draft speakerIds others =>
    simp only [actOnSessions]
    split
    · trivial
    · unfold afterClashes
      split <;> exact knows
  | status draft others warning =>
    simp only [actOnSessions]
    split
    · trivial
    · unfold afterStatus
      split <;> exact knows
  | save draft others warning notify =>
    simp only [actOnSessions, saveSession]
    split
    · trivial
    · split <;> trivial
  | respond | remove | done => trivial

theorem roomsFree_of_sub {after : SessionDesk} (free : RoomsFree desk)
    (sub : ∀ row ∈ after.sessions, row.deletedAt = none → row ∈ desk.sessions) : RoomsFree after :=
  fun row member other member' live live' =>
    free row (sub row member live) other (sub other member' live') live live'

/-- Exactly a save whose check missed a session takes a room twice. -/
theorem act_judged (phase : SessionPhase) (knows : KnowsAgenda desk phase) (free : RoomsFree desk) :
    RoomsFree (actOnSessions desk phase).1 ↔ checkedAll desk () phase := by
  cases phase with
  | first request => cases request <;> exact iff_of_true free trivial
  | speakers | current | room | clashes | status | respond | done => exact iff_of_true free trivial
  | save draft others warning notify =>
    change RoomsFree (saveSession desk draft warning notify).1 ↔ ∀ row ∈ rowToSave desk draft.write, _
    unfold saveSession
    cases saved : rowToSave desk draft.write with
    | none => exact iff_of_true free fun row there => by cases there
    | some row =>
      dsimp only
      by_cases allowed : SessionAllowed desk row draft.speakerIds
      · rw [if_pos allowed]
        have judged := roomsFree_save knows.1 knows.2 saved free fun _ => mem_storeSession saved
        refine Iff.trans judged ⟨fun checked _ there _ => ?_, fun checked => ?_⟩
        · cases there
          exact checked
        · exact checked row rfl allowed
      · rw [if_neg allowed]
        refine iff_of_true free fun _ there allow => ?_
        cases there
        exact absurd allow allowed
  | remove sessionId =>
    refine iff_of_true (roomsFree_of_sub free fun row member live => ?_) trivial
    obtain ⟨old, stored, rfl⟩ := Table.mem_update.mp member
    split at live
    · cases live
    · next miss =>
      rw [if_neg miss]
      exact stored

theorem changeProgram_free (event : SessionWorld) (free : RoomsFree desk) :
    RoomsFree (changeProgram desk event) := by
  cases event with
  | eventDeleted =>
    exact roomsFree_of_sub free fun row member _ => (Table.mem_delete.mp member).1
  | tick | eventCreated | eventChanged | speakerAdded | speakerChanged => exact free

end Steps

/-! ## Runs -/

/-- What requests know of the agenda is theirs to keep. -/
theorem sessions_keep : sessionRequests.Keeps (fun _ => True) KnowsAgenda (fun _ _ _ => True)
    fun _ _ => True where
  opened := fun _ _ _ => trivial
  crashed := fun _ _ => trivial
  act := fun _ _ phase _ knows _ => ⟨trivial, (act_knows knows).later (act_descends phase)⟩
  undisturbed := fun _ _ phase _ _ _ _ other => other.later (act_descends phase)
  outside := fun _ event _ _ =>
    ⟨trivial, fun _ knows => knows.later (changeProgram_descends event)⟩

theorem serve_judged (pool : SessionPool) (turn : SessionTurn)
    (sound : pool.Sound (fun _ => True) KnowsAgenda) (free : RoomsFree pool.shared) :
    RoomsFree (sessionRequests.serve pool turn).shared ↔ CheckedAll pool turn := by
  let change (_ after : SessionDesk) : Prop := RoomsFree after
  have judged : change pool.shared (sessionRequests.serve pool turn).shared ↔
      CheckedAll pool turn := by
    refine Handler.serve_judged free (fun job stored _ => ?_) (fun event => ?_) turn
    · exact act_judged job.phase (sound.jobs job stored) free
    · exact iff_of_true (changeProgram_free event free) trivial
  exact judged

/-- Rooms stay free in a run exactly when every session is written over an agenda its check has
read. -/
theorem roomsFree_iff {start : SessionPool} (idle : NoRequests start)
    (free : RoomsFree start.shared) (turns : List SessionTurn) :
    Throughout sessionRequests.serve (fun pool => RoomsFree pool.shared) start turns ↔
      Meets sessionRequests.serve CheckedAll start turns := by
  have sound : start.Sound (fun _ => True) KnowsAgenda :=
    ⟨trivial, fun job stored => absurd stored (Table.not_mem_of_empty idle job)⟩
  refine throughout_iff_meets_within (fun pool turn sound => ?_) serve_judged sound free turns
  exact sessions_keep.serve pool turn sound (Handler.guarded_true pool turn)

/-! ## Two talks for one room -/

/-- One event with nothing on its agenda. -/
def blankAgenda : SessionPool where
  shared :=
    { events := Table.empty.insert fun id => { id, status := .upcoming, startAt := 0 }
      sessions := Table.empty, speakers := Table.empty, sessionSpeakers := Table.empty
      outbox := [], clock := 0 }
  jobs := Table.empty

theorem blankAgenda_idle : NoRequests blankAgenda := rfl

theorem blankAgenda_free : RoomsFree blankAgenda.shared :=
  fun row member => absurd member (Table.not_mem_of_empty rfl row)

/-- A talk in the main hall of the first day. -/
def talkAt (startHour endHour : Nat) : CreateSessionInput where
  day := 1
  startTime := ⟨startHour, 0, none⟩
  endTime := some ⟨endHour, 0, none⟩
  title := "Talk"
  type := .talk
  room := some "Main Hall"
  description := none
  sortOrder := none
  speakerIds := none
  confirmSpeakerClash := false

/-- So many steps of one request. -/
def stepsOf (jobId count : Nat) : List SessionTurn := List.replicate count (.advance jobId ())

/-- A talk from nine to ten is added, and then one from ten to eleven. -/
def backToBack : List SessionTurn :=
  [.receive (.create 0 (talkAt 9 10))] ++ stepsOf 0 6 ++ [.receive (.create 0 (talkAt 10 11))] ++
    stepsOf 1 6

theorem roomsFree_iff_backToBack :
    Throughout sessionRequests.serve (fun pool => RoomsFree pool.shared) blankAgenda backToBack :=
  (roomsFree_iff blankAgenda_idle blankAgenda_free backToBack).mpr (by decide +kernel)

/-- Two requests for the same hour both check before either writes. -/
def sameHour : List SessionTurn :=
  [.receive (.create 0 (talkAt 9 10)), .receive (.create 0 (talkAt 9 10))] ++ stepsOf 0 4 ++
    stepsOf 1 4 ++ stepsOf 0 1 ++ stepsOf 1 1

/-- The hall is then booked twice. -/
theorem sameHour_doubleBooked : ¬ ∀ (start : SessionPool) (turns : List SessionTurn),
    NoRequests start → RoomsFree start.shared →
      Throughout sessionRequests.serve (fun pool => RoomsFree pool.shared) start turns := by
  intro holds
  have free := holds blankAgenda sameHour blankAgenda_idle blankAgenda_free sameHour List.prefix_rfl
  let hall := (run sessionRequests.serve blankAgenda sameHour).shared.sessions
  obtain ⟨first, firstIn, second, secondIn, live, live', apart, booked⟩ :
      ∃ first ∈ hall.rows, ∃ second ∈ hall.rows, first.deletedAt = none ∧
        second.deletedAt = none ∧ first.id ≠ second.id ∧ DoubleBooked first second := by
    decide +kernel
  exact free first firstIn second secondIn live live' apart booked

end EventaApi.Guarantees
