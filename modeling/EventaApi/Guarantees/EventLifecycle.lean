import EventaApi.Library.Versions
import EventaApi.Source.Events

/-!
# The end of an event

Publishing asks for a draft and writes to the version it saw, cancelling asks for an event
that has not ended. Taking offline asks only that the event is no draft, so it makes a draft
of one that was cancelled or completed, and deleting does not ask again when it deletes.
-/
namespace EventaApi.Guarantees
open Library Source

/-! ## What is asked of an event's life -/

abbrev EventPool := Pool EventDesk EventPhase

abbrev EventTurn := PoolTurn EventRequest EventAnswers EventWorld

def IsTerminal (status : EventStatus) : Prop := status = .completed ∨ status = .cancelled

instance : DecidablePred IsTerminal := fun _ => inferInstanceAs (Decidable (_ ∨ _))

def HasEnded (desk : EventDesk) (id : Nat) : Prop :=
  ∃ row ∈ desk.events.find id, IsTerminal row.status

/-- The event, as long as there is one, is neither published nor a draft. -/
def StaysEnded (desk : EventDesk) (id : Nat) : Prop :=
  ∀ row ∈ desk.events.find id, IsTerminal row.status

def BucketsMatch (desk : EventDesk) : Prop :=
  ∀ row ∈ desk.events, row.bucket = bucketForStatus row.status

/-- Only drafts are removed. -/
def RemovesDrafts (desk after : EventDesk) : Prop :=
  ∀ row ∈ desk.events, after.events.find row.id = none → row.status = .draft

section Asked

variable (texts : EventTexts)

structure OneWay (start : EventPool) (turns : List EventTurn) : Prop where
  /-- An event that is cancelled or completed stays so. -/
  ended : ∀ id first rest, turns = first ++ rest →
    let before := run (eventRequests texts).serve start first
    HasEnded before.shared id →
      Throughout (eventRequests texts).serve (fun pool => StaysEnded pool.shared id) before rest
  buckets : Throughout (eventRequests texts).serve (fun pool => BucketsMatch pool.shared) start turns
  deleted : ∀ first turn rest, turns = first ++ turn :: rest →
    let before := run (eventRequests texts).serve start first
    RemovesDrafts before.shared ((eventRequests texts).serve before turn).shared

end Asked

/-- The event taken offline has not ended, and the one deleted is still a draft. -/
def stillAllowed (desk : EventDesk) (answers : EventAnswers) : EventPhase → Prop
  | .unpublish event => ∀ row ∈ desk.events.find event.id, AtVersion event row →
    ¬ IsTerminal row.status
  | .delete event => answers.referenced = false →
    ∀ row ∈ desk.events.find event.id, row.status = .draft
  | _ => True

instance (desk : EventDesk) (answers : EventAnswers) : DecidablePred (stillAllowed desk answers)
  | .unpublish event => inferInstanceAs (Decidable (∀ _ ∈ desk.events.find event.id, _ → _))
  | .delete event => inferInstanceAs (Decidable (_ → ∀ _ ∈ desk.events.find event.id, _))
  | .first _ | .slug _ _ _ _ | .insert _ | .category _ _ | .update _ _ | .readiness _ _ _
  | .publish _ _ _ | .announcePublished _ _ | .sold _ | .cancel _ _ _ | .announceCancelled _ _ _
  | .done _ => isTrue trivial

def StillAllowed : EventPool → EventTurn → Prop := Handler.Guarded stillAllowed fun _ _ => True

instance (pool : EventPool) (turn : EventTurn) : Decidable (StillAllowed pool turn) :=
  inferInstanceAs (Decidable (Handler.Guarded _ _ pool turn))

/-- No request is in flight, and every event is in its bucket. -/
structure EventsAtRest (pool : EventPool) : Prop where
  jobs : pool.jobs.rows = []
  buckets : BucketsMatch pool.shared

/-! ## One write -/

/-- What a step may do to events that have ended, and which it may remove. -/
structure KeepsEnds (desk after : EventDesk) : Prop where
  ended : ∀ id, HasEnded desk id → StaysEnded after id
  removed : RemovesDrafts desk after

section Writes

variable {desk after : EventDesk} {hit : EventRecord → Prop} [DecidablePred hit]
variable {write : EventRecord → EventRecord}
variable {keeps : ∀ row, Keyed.key (write row) = Keyed.key row}

theorem find_row {row : EventRecord} (stored : row ∈ desk.events) :
    desk.events.find row.id = some row :=
  Table.find_key stored

/-- A step that adds an event at most keeps every end. -/
theorem keepsEnds_of_kept
    (kept : ∀ row ∈ desk.events, after.events.find row.id = some row) : KeepsEnds desk after := by
  refine ⟨fun id ended => ?_, fun row stored gone => ?_⟩
  · obtain ⟨row, found, terminal⟩ := ended
    obtain ⟨stored, rfl⟩ := Table.find_eq_some.mp found
    intro now there
    cases (kept row stored).symm.trans there
    exact terminal
  · rw [kept row stored] at gone
    cases gone

theorem keepsEnds_of_eq (same : after.events = desk.events) : KeepsEnds desk after :=
  keepsEnds_of_kept fun _ stored => same ▸ find_row stored

/-- A write keeps the ends exactly where it writes no other status over one. -/
theorem keepsEnds_update (written : after.events = desk.events.update hit write keeps) :
    KeepsEnds desk after ↔
      ∀ row ∈ desk.events, hit row → IsTerminal row.status → IsTerminal (write row).status := by
  have found_after {row : EventRecord} (stored : row ∈ desk.events) :
      after.events.find row.id = some (if hit row then write row else row) := by
    rw [written, Table.find_update, find_row stored]
    rfl
  constructor
  · intro kept row stored struck terminal
    have there := found_after stored
    rw [if_pos struck] at there
    exact kept.ended row.id ⟨row, find_row stored, terminal⟩ _ there
  · intro stays
    refine ⟨fun id ended now there => ?_, fun row stored gone => ?_⟩
    · obtain ⟨row, found, terminal⟩ := ended
      obtain ⟨stored, rfl⟩ := Table.find_eq_some.mp found
      cases (found_after stored).symm.trans there
      split
      · exact stays row stored ‹_› terminal
      · exact terminal
    · rw [found_after stored] at gone
      cases gone

end Writes

/-! ## What a request knows -/

/-- An event's status moves only with its version. -/
abbrev EventMoves : EventRecord → EventRecord → Prop :=
  Moves EventRecord.version fun row => row.status

/-- The draft was loaded from these events. -/
structure LoadedDraft (desk : EventDesk) (event : EventRecord) : Prop where
  draft : event.status = .draft
  recalls : Recalls EventRecord.version (fun row => row.status) desk.events event

/-- What each phase knows of the event it loaded. -/
def KnowsEvent (desk : EventDesk) : EventPhase → Prop
  | .readiness _ event _ | .publish _ event _ => LoadedDraft desk event
  | .insert values => values.bucket = bucketForStatus values.status
  | _ => True

section Knows

variable {texts : EventTexts} {desk after : EventDesk}

theorem KnowsEvent.later {phase : EventPhase} (knows : KnowsEvent desk phase)
    (descends : Table.Descends EventMoves desk.events after.events) : KnowsEvent after phase := by
  cases phase with
  | readiness | publish => exact ⟨knows.draft, knows.recalls.later descends⟩
  | _ => exact knows

theorem updateEvents_descends (event : EventRecord) (values : EventRecord → EventRecord) :
    Table.Descends EventMoves desk.events (updateEvents desk event values).1.events := by
  refine .update .refl fun row _ current => .of_lt ?_
  exact Nat.lt_succ_of_le current.2.1.le

theorem act_eventMoves (answers : EventAnswers) (phase : EventPhase) :
    Table.Descends EventMoves desk.events (actOnEvents texts desk answers phase).1.events := by
  cases phase with
  | update | publish | unpublish | cancel => exact updateEvents_descends _ _
  | insert values =>
    change Table.Descends EventMoves desk.events (insertEvent desk values).1.events
    unfold insertEvent
    split
    · exact .insert .refl
    · exact .of_eq rfl .refl
  | delete event =>
    change Table.Descends EventMoves desk.events
      (hardDeleteEvent desk event answers.referenced).1.events
    unfold hardDeleteEvent
    split
    · exact .of_eq rfl .refl
    · exact .delete .refl
  | _ => exact .of_eq rfl .refl

theorem changeEvents_descends (event : EventWorld) :
    Table.Descends EventMoves desk.events (changeEvents desk event).events := by
  cases event with
  | tick => exact .of_eq rfl .refl
  | pageUpdated => exact .update .refl fun _ _ _ => .of_eq rfl rfl

/-- A request that goes on to publish loaded a draft. -/
theorem beginEvent_knows (answers : EventAnswers) (request : EventRequest) :
    KnowsEvent desk (beginEvent texts desk answers request) := by
  have loaded (eventId : Nat) (next : EventRecord → EventPhase)
      (fine : ∀ event, findEvent desk eventId = some event → KnowsEvent desk (next event)) :
      KnowsEvent desk (withEvent desk eventId next) := by
    unfold withEvent
    split
    · next event found => exact fine event found
    · trivial
  cases request with
  | create userId input =>
    simp only [beginEvent]
    split <;> trivial
  | duplicate userId eventId => exact loaded eventId _ fun _ _ => trivial
  | update eventId input =>
    refine loaded eventId _ fun event _ => ?_
    unfold decideUpdate
    split
    · trivial
    · split <;> trivial
  | publish userId eventId input =>
    refine loaded eventId _ fun event found => ?_
    unfold decidePublish
    split
    · trivial
    · next draft =>
      split
      · trivial
      · obtain ⟨there, _⟩ := Option.filter_eq_some_iff.mp found
        exact ⟨not_not.mp draft, .of_mem (Table.find_eq_some.mp there).1⟩
  | unpublish eventId version =>
    refine loaded eventId _ fun event _ => ?_
    unfold decideUnpublish
    split
    · trivial
    · split <;> trivial
  | delete eventId version =>
    refine loaded eventId _ fun event _ => ?_
    unfold decideDelete
    split
    · trivial
    · split <;> trivial
  | cancel userId eventId reason version =>
    refine loaded eventId _ fun event _ => ?_
    unfold decideCancel
    split
    · trivial
    · split
      · trivial
      · split <;> trivial

theorem unlessStale_knows {written : EventDesk × Option EventRecord}
    {next : EventRecord → EventPhase} (fine : ∀ row, KnowsEvent desk (next row)) :
    KnowsEvent desk (unlessStale written next).2 := by
  unfold unlessStale
  split
  · exact fine _
  · trivial

theorem act_knowsEvent (answers : EventAnswers) {phase : EventPhase}
    (knows : KnowsEvent desk phase) : KnowsEvent desk (actOnEvents texts desk answers phase).2 := by
  cases phase with
  | first request => exact beginEvent_knows answers request
  | slug => rfl
  | insert values =>
    simp only [actOnEvents, insertEvent]
    split <;> trivial
  | category event input =>
    simp only [actOnEvents]
    split <;> trivial
  | update | publish | unpublish | cancel => exact unlessStale_knows fun _ => trivial
  | readiness userId event input =>
    simp only [actOnEvents, afterReadiness]
    split
    · trivial
    · split
      · trivial
      · exact knows
  | sold event =>
    simp only [actOnEvents]
    split <;> trivial
  | delete event =>
    simp only [actOnEvents, hardDeleteEvent]
    split <;> trivial
  | announcePublished | announceCancelled | done => trivial

end Knows

/-! ## One step -/

section Steps

variable {texts : EventTexts} {desk : EventDesk}

/-- Exactly taking an ended event offline, and deleting one that is no draft, break the rule. -/
theorem act_keepsEnds (answers : EventAnswers) (phase : EventPhase)
    (knows : KnowsEvent desk phase) :
    KeepsEnds desk (actOnEvents texts desk answers phase).1 ↔ stillAllowed desk answers phase := by
  cases phase with
  | update event input =>
    refine iff_of_true ((keepsEnds_update rfl).mpr fun _ _ _ terminal => ?_) trivial
    exact terminal
  | publish userId event input =>
    refine iff_of_true ((keepsEnds_update rfl).mpr fun row stored current terminal => ?_) trivial
    -- the row at the loaded version is the draft that was loaded
    have status : row.status = event.status :=
      knows.recalls.unmoved stored current.1 current.2.1
    rw [status, knows.draft] at terminal
    exact absurd terminal (by decide)
  | unpublish event =>
    refine Iff.trans (keepsEnds_update rfl) ⟨fun stays row found current terminal => ?_,
      fun allowed row stored current terminal => ?_⟩
    · rcases stays row (Table.find_eq_some.mp found).1 current terminal with draft | draft
      · cases draft
      · cases draft
    · exact absurd terminal (allowed row (Table.find_eq_some.mpr ⟨stored, current.1⟩) current)
  | cancel userId event reason =>
    refine iff_of_true ((keepsEnds_update rfl).mpr fun _ _ _ _ => ?_) trivial
    exact Or.inr rfl
  | insert values =>
    refine iff_of_true (keepsEnds_of_kept fun row stored => ?_) trivial
    change (insertEvent desk values).1.events.find row.id = some row
    unfold insertEvent
    split
    · exact Table.find_insert_of_found (find_row stored)
    · exact find_row stored
  | delete event =>
    change KeepsEnds desk (hardDeleteEvent desk event answers.referenced).1 ↔ (_ → _)
    unfold hardDeleteEvent
    split
    · next kept =>
      exact iff_of_true (keepsEnds_of_eq rfl) fun free => by simp [kept.2] at free
    · next deletes =>
      have gone {row : EventRecord} (named : row.id = event.id) :
          (desk.events.delete fun row => row.id = event.id).find row.id = none :=
        Table.find_eq_none.mpr fun other member same =>
          (Table.mem_delete.mp member).2 (same.trans named)
      constructor
      · intro keeps _ row found
        obtain ⟨stored, named⟩ := Table.find_eq_some.mp found
        exact keeps.removed row stored (gone named)
      · intro drafts
        have free (row : EventRecord) (found : desk.events.find event.id = some row) :
            answers.referenced = false := by
          cases held : answers.referenced with
          | false => rfl
          | true => exact absurd ⟨by rw [found]; rfl, held⟩ deletes
        refine ⟨fun id ended row there => ?_, fun row stored missing => ?_⟩
        · obtain ⟨old, found, terminal⟩ := ended
          obtain ⟨member, named⟩ := Table.find_eq_some.mp there
          have same : row = old := Table.eq_of_key (Table.mem_delete.mp member).1
            (Table.find_eq_some.mp found).1 (named.trans (Table.find_eq_some.mp found).2.symm)
          exact same ▸ terminal
        · by_cases named : row.id = event.id
          · have found : desk.events.find event.id = some row :=
              Table.find_eq_some.mpr ⟨stored, named⟩
            exact drafts (free row found) row found
          · have left : row ∈ desk.events.delete fun row => row.id = event.id :=
              Table.mem_delete.mpr ⟨stored, named⟩
            exact absurd rfl (Table.find_eq_none.mp missing row left)
  | first | slug | category | readiness | announcePublished | sold | announceCancelled | done =>
    exact iff_of_true (keepsEnds_of_eq rfl) trivial

theorem changeEvents_keepsEnds (event : EventWorld) : KeepsEnds desk (changeEvents desk event) := by
  cases event with
  | tick => exact keepsEnds_of_eq rfl
  | pageUpdated eventId values =>
    have wrote : (changeEvents desk (.pageUpdated eventId values)).events =
        desk.events.update (fun row => row.id = eventId) (pageRow values) := rfl
    exact (keepsEnds_update wrote).mpr fun _ _ _ terminal => terminal

theorem bucketsMatch_update {after : EventDesk} {hit : EventRecord → Prop} [DecidablePred hit]
    {write : EventRecord → EventRecord} {keeps : ∀ row, Keyed.key (write row) = Keyed.key row}
    (written : after.events = desk.events.update hit write keeps) (matched : BucketsMatch desk)
    (derives : ∀ row, row.bucket = bucketForStatus row.status →
      (write row).bucket = bucketForStatus (write row).status) : BucketsMatch after := by
  intro row member
  rw [written] at member
  obtain ⟨old, stored, rfl⟩ := Table.mem_update.mp member
  split
  · exact derives old (matched old stored)
  · exact matched old stored

theorem act_buckets (answers : EventAnswers) {phase : EventPhase} (knows : KnowsEvent desk phase)
    (matched : BucketsMatch desk) : BucketsMatch (actOnEvents texts desk answers phase).1 := by
  cases phase with
  | update => exact bucketsMatch_update rfl matched fun _ same => same
  | publish | unpublish | cancel => exact bucketsMatch_update rfl matched fun _ _ => rfl
  | insert values =>
    change BucketsMatch (insertEvent desk values).1
    unfold insertEvent
    split
    · intro row member
      rcases Table.mem_insert.mp member with old | rfl
      · exact matched row old
      · exact knows
    · exact matched
  | delete event =>
    change BucketsMatch (hardDeleteEvent desk event answers.referenced).1
    unfold hardDeleteEvent
    split
    · exact matched
    · exact fun row member => matched row (Table.mem_delete.mp member).1
  | first | slug | category | readiness | announcePublished | sold | announceCancelled | done =>
    exact matched

theorem changeEvents_buckets (event : EventWorld) (matched : BucketsMatch desk) :
    BucketsMatch (changeEvents desk event) := by
  cases event with
  | tick => exact matched
  | pageUpdated => exact bucketsMatch_update rfl matched fun _ same => same

end Steps

/-! ## Runs -/

section Runs

variable {texts : EventTexts}

/-- Buckets match, and requests know what they loaded, whatever happens. -/
theorem events_keep : (eventRequests texts).Keeps BucketsMatch KnowsEvent (fun _ _ _ => True)
    fun _ _ => True where
  opened := fun _ _ _ => trivial
  crashed := fun _ _ => trivial
  act := fun _ answers phase matched knows _ =>
    ⟨act_buckets answers knows matched,
      (act_knowsEvent answers knows).later (act_eventMoves answers phase)⟩
  undisturbed := fun _ answers phase _ _ _ _ other => other.later (act_eventMoves answers phase)
  outside := fun _ event matched _ =>
    ⟨changeEvents_buckets event matched, fun _ knows => knows.later (changeEvents_descends event)⟩

theorem serve_eventSound (pool : EventPool) (turn : EventTurn)
    (sound : pool.Sound BucketsMatch KnowsEvent) :
    ((eventRequests texts).serve pool turn).Sound BucketsMatch KnowsEvent :=
  events_keep.serve pool turn sound (Handler.guarded_true pool turn)

theorem serve_keepsEnds (texts : EventTexts) (pool : EventPool) (turn : EventTurn)
    (sound : pool.Sound BucketsMatch KnowsEvent) :
    KeepsEnds pool.shared ((eventRequests texts).serve pool turn).shared ↔
      StillAllowed pool turn := by
  refine Handler.serve_judged (keepsEnds_of_eq rfl) (fun job stored answers => ?_) (fun event => ?_)
    turn
  · exact act_keepsEnds answers job.phase (sound.jobs job stored)
  · exact iff_of_true (changeEvents_keepsEnds event) trivial

theorem serve_eventMoves (texts : EventTexts) (pool : EventPool) (turn : EventTurn) :
    Table.Descends EventMoves pool.shared.events
      ((eventRequests texts).serve pool turn).shared.events := by
  let descends (before after : EventDesk) : Prop :=
    Table.Descends EventMoves before.events after.events
  have moved : descends pool.shared ((eventRequests texts).serve pool turn).shared := by
    refine Handler.serve_shared ?_ (fun job _ answers => ?_) (fun event => ?_) turn
    · exact .of_eq rfl .refl
    · exact act_eventMoves answers job.phase
    · exact changeEvents_descends event
  exact moved

/-- What has ended stays ended along a run whose steps keep the ends. -/
theorem staysEnded_run {start : EventPool} {turns : List EventTurn} {id : Nat}
    (ended : HasEnded start.shared id)
    (keeps : Meets (eventRequests texts).serve (fun pool turn =>
      KeepsEnds pool.shared ((eventRequests texts).serve pool turn).shared) start turns) :
    Throughout (eventRequests texts).serve (fun pool => StaysEnded pool.shared id) start turns := by
  let known (pool : EventPool) : Prop := id < pool.shared.events.next ∧ StaysEnded pool.shared id
  have initial : known start := by
    obtain ⟨row, found, terminal⟩ := ended
    obtain ⟨stored, named⟩ := Table.find_eq_some.mp found
    refine ⟨named ▸ Table.key_lt_next stored, fun now there => ?_⟩
    cases found.symm.trans there
    exact terminal
  refine keeps.throughout (fun pool turn holds kept => ?_) (fun pool holds => holds.2) initial
  have moves := serve_eventMoves texts pool turn
  refine ⟨holds.1.trans_le moves.next, fun row found => ?_⟩
  obtain ⟨old, oldFound, _⟩ := moves.find holds.1 found
  exact kept.ended id ⟨old, oldFound, holds.2 old oldFound⟩ row found

/-- An event's life is one-way in a run exactly when no event that has ended is taken offline and
none is deleted that is a draft no more. -/
theorem oneWay_iff {start : EventPool} (rest : EventsAtRest start) (turns : List EventTurn) :
    OneWay texts start turns ↔ Meets (eventRequests texts).serve StillAllowed start turns := by
  have sound : start.Sound BucketsMatch KnowsEvent :=
    ⟨rest.buckets, fun job stored => absurd stored (Table.not_mem_of_empty rest.jobs job)⟩
  have soundly (first : List EventTurn) :
      (run (eventRequests texts).serve start first).Sound BucketsMatch KnowsEvent :=
    run_invariant_always serve_eventSound first sound
  constructor
  · intro holds
    refine meets_of_cuts fun first turn last cut =>
      (serve_keepsEnds texts _ turn (soundly first)).mp ?_
    refine ⟨fun id ended => ?_, holds.deleted first turn last cut⟩
    exact holds.ended id first (turn :: last) cut ended [turn] (by simp)
  · intro allowed
    have keeps : Meets (eventRequests texts).serve (fun pool turn =>
        KeepsEnds pool.shared ((eventRequests texts).serve pool turn).shared) start turns :=
      allowed.of_invariant (fun pool turn holds _ => serve_eventSound pool turn holds)
        (fun pool turn holds met => (serve_keepsEnds texts pool turn holds).mpr met) sound
    refine ⟨fun id first last cut => ?_, fun first _ => (soundly first).shared,
      fun first turn last cut => ?_⟩
    · subst cut
      exact fun ended => staysEnded_run ended (meets_append.mp keeps).2
    · subst cut
      exact (meets_append.mp keeps).2.1.removed

end Runs

/-! ## An event that came back -/

/-- Texts that are clean and in lower case already. -/
def plainTexts : EventTexts := ⟨id, id⟩

/-- An online talk with all it needs, as a draft. -/
def onlineTalk : EventRecord where
  id := 0
  slug := "talk"
  content :=
    { name := "Talk", description := some "About it", type := .seminar, categoryId := none
      startAt := 9, endAt := none, timezone := "Asia/Bangkok", venueName := none
      venueAddress := none, city := none, isOnline := true, onlineNote := none
      seatingMode := .ga, capacity := none, waitlistEnabled := false, requiresApproval := false
      coverImage := none, accentColor := none, contactEmail := none, landingTemplateId := none }
  status := .draft
  bucket := .active
  visibility := .isPrivate
  organizerName := "Eventa"
  createdBy := 0
  publishedAt := none
  cancelledAt := none
  deletedAt := none
  version := 1

def oneTalk : EventPool where
  shared := { events := Table.empty.insert fun id => { onlineTalk with id }, outbox := [], clock := 0 }
  jobs := Table.empty

theorem oneTalk_atRest : EventsAtRest oneTalk := by
  refine ⟨rfl, fun row member => ?_⟩
  rcases Table.mem_insert.mp member with none | rfl
  · exact absurd none (Table.not_mem_of_empty rfl row)
  · rfl

/-- One ticket type, nothing sold, and nothing that keeps the event. -/
def oneType : EventAnswers where
  categoryExists := false
  organizationName := "Eventa"
  activeCount := 1
  soldCount := 0
  seatsReadiness := ⟨0, []⟩
  referenced := false

/-- So many steps of one request about events. -/
def actsOf (jobId count : Nat) : List EventTurn := List.replicate count (.advance jobId oneType)

/-- The talk is published, and then cancelled. -/
def publishedThenCancelled : List EventTurn :=
  [.receive (.publish 0 0 ⟨none, none, false, none⟩)] ++ actsOf 0 4 ++
    [.receive (.cancel 0 0 "Rain" none)] ++ actsOf 1 3

theorem oneWay_publishedThenCancelled : OneWay plainTexts oneTalk publishedThenCancelled :=
  (oneWay_iff oneTalk_atRest _).mpr (by decide +kernel)

/-- The cancelled talk is taken offline, and published again. -/
def revived : List EventTurn :=
  [.receive (.unpublish 0 none)] ++ actsOf 2 2 ++
    [.receive (.publish 0 0 ⟨none, none, false, none⟩)] ++ actsOf 3 4

theorem revived_reopens : ¬ ∀ (texts : EventTexts) (start : EventPool) (turns : List EventTurn),
    EventsAtRest start → OneWay texts start turns := by
  intro holds
  let cancelled := run (eventRequests plainTexts).serve oneTalk publishedThenCancelled
  have ended : HasEnded cancelled.shared 0 :=
    (by decide +kernel : ∃ row ∈ cancelled.shared.events.find 0, IsTerminal row.status)
  have stays := (holds plainTexts oneTalk (publishedThenCancelled ++ revived) oneTalk_atRest).ended 0
    publishedThenCancelled revived rfl ended revived List.prefix_rfl
  obtain ⟨row, found, status⟩ :
      ∃ row ∈ (run (eventRequests plainTexts).serve cancelled revived).shared.events.find 0,
        row.status = .upcoming := by
    decide +kernel
  have terminal := stays row found
  rw [status] at terminal
  rcases terminal with published | published
  · cases published
  · cases published

/-- A deletion that read the draft goes through once it is published. -/
def deletedMeanwhile : List EventTurn :=
  [.receive (.delete 0 none)] ++ actsOf 0 2 ++
    [.receive (.publish 0 0 ⟨none, none, false, none⟩)] ++ actsOf 1 4

theorem deletedMeanwhile_removes : ¬ ∀ (texts : EventTexts) (start : EventPool)
    (turns : List EventTurn), EventsAtRest start → OneWay texts start turns := by
  intro holds
  have removes := (holds plainTexts oneTalk (deletedMeanwhile ++ [.advance 0 oneType])
    oneTalk_atRest).deleted deletedMeanwhile (.advance 0 oneType) [] rfl
  let before := run (eventRequests plainTexts).serve oneTalk deletedMeanwhile
  let after := (eventRequests plainTexts).serve before (.advance 0 oneType)
  obtain ⟨row, stored, gone, published⟩ : ∃ row ∈ before.shared.events.rows,
      after.shared.events.find row.id = none ∧ row.status ≠ .draft := by
    decide +kernel
  exact published (removes row stored gone)

end EventaApi.Guarantees
