import Mathlib.Data.List.Sort
import EventaApi.Source.Migrations

/-!
# What migration runs leave behind

A release ships the migrations of its day: the first so many of all there will be, each newer than
the one before. A process starts from the newest one applied and applies in order, so whatever
overlaps, fails or is stopped, what is committed has no gap. Where no two processes apply at once,
each migration is committed once and in order.
-/
namespace EventaApi.Guarantees
open Library Source

/-- Each migration is newer than those before it. -/
def Ascending (all : List MigrationMeta) : Prop :=
  all.Pairwise fun former latter => former.folderMillis < latter.folderMillis

/-- The schema that the migrations make of one, one transaction after another. -/
def rebuilt {σ : Type} (transact : List String → σ → Except String σ) (initial : σ)
    (committed : List MigrationMeta) : Except String σ :=
  committed.foldlM (fun schema migration => transact migration.sql schema) initial

/-- What the journal says of what was committed. -/
def Journalled {σ : Type} (database : MigratedDatabase σ) : Prop :=
  match database.journal with
  | none => database.committed = []
  | some journal => journal.rows.map (fun row => (row.hash, row.createdAt)) =
      database.committed.map fun migration => (migration.hash, migration.folderMillis)

/-- The migrations that were committed are the first so many. -/
def NoGap (all committed : List MigrationMeta) : Prop :=
  ∃ count, ∀ migration, migration ∈ committed ↔ migration ∈ all.take count

/-- The schema comes of the committed migrations, and the journal names them. -/
structure Migrated {σ : Type} (transact : List String → σ → Except String σ) (initial : σ)
    (database : MigratedDatabase σ) : Prop where
  replayed : rebuilt transact initial database.committed = .ok database.schema
  journalled : Journalled database

/-- The release ships the first so many of the migrations. -/
def Ships (all : List MigrationMeta) : MigrationPhase → Prop
  | .begin settings => ∀ files ∈ settings.files.toOption, files.migrations <+: all
  | .prepare files | .lastAppliedAt files | .applying files _ _ _ _ => files.migrations <+: all
  | .done _ _ _ | .stopped => True

instance (all : List MigrationMeta) : DecidablePred (Ships all)
  | .begin settings => inferInstanceAs (Decidable (∀ files ∈ settings.files.toOption, _))
  | .prepare _ | .lastAppliedAt _ | .applying _ _ _ _ _ => inferInstanceAs (Decidable (_ <+: _))
  | .done _ _ _ | .stopped => isTrue trivial

section Lists

variable {all committed : List MigrationMeta}

theorem mem_take_max {first second : Nat} {migration : MigrationMeta} :
    migration ∈ all.take (max first second) ↔
      migration ∈ all.take first ∨ migration ∈ all.take second := by
  rcases Nat.le_total first second with le | le
  · rw [Nat.max_eq_right le]
    have within : migration ∈ all.take first → migration ∈ all.take second :=
      fun member => (List.take_prefix_take_left le).subset member
    tauto
  · rw [Nat.max_eq_left le]
    have within : migration ∈ all.take second → migration ∈ all.take first :=
      fun member => (List.take_prefix_take_left le).subset member
    tauto

/-- The migration next to what was committed before leaves no gap. -/
theorem NoGap.concat (gapless : NoGap all committed) {before : List MigrationMeta}
    {migration : MigrationMeta} (next : before ++ [migration] <+: all)
    (done : ∀ other ∈ before, other ∈ committed) : NoGap all (committed ++ [migration]) := by
  obtain ⟨count, reached⟩ := gapless
  have taken : all.take (before.length + 1) = before ++ [migration] := by
    have whole := List.prefix_iff_eq_take.mp next
    simpa using whole.symm
  refine ⟨max count (before.length + 1), fun other => ?_⟩
  rw [mem_take_max, taken, ← reached, List.mem_append, List.mem_append]
  have known := done other
  tauto

/-- What is newer than the newest of the first so many is what comes after them. -/
theorem filter_newer (ascending : Ascending all) {count last : Nat} {files : List MigrationMeta}
    (ships : files <+: all) (atLeast : ∀ migration ∈ all.take count, migration.folderMillis ≤ last)
    (reached : ∃ migration ∈ all.take count, migration.folderMillis = last) :
    (files.filter fun migration => last < migration.folderMillis) = files.drop count := by
  obtain ⟨newest, early, rfl⟩ := reached
  have apart : ∀ former ∈ all.take count, ∀ latter ∈ all.drop count,
      former.folderMillis < latter.folderMillis := by
    unfold Ascending at ascending
    rw [← List.take_append_drop count all] at ascending
    exact (List.pairwise_append.mp ascending).2.2
  obtain ⟨later, rfl⟩ := ships
  have front : ∀ migration ∈ files.take count, migration ∈ (files ++ later).take count := by
    rw [List.take_append]
    exact fun migration => List.mem_append_left _
  have back : ∀ migration ∈ files.drop count, migration ∈ (files ++ later).drop count := by
    rw [List.drop_append]
    exact fun migration => List.mem_append_left _
  nth_rewrite 1 [← List.take_append_drop count files]
  rw [List.filter_append, List.filter_eq_nil_iff.mpr, List.nil_append, List.filter_eq_self.mpr]
  · intro migration member
    simpa using apart newest early migration (back migration member)
  · intro migration member
    simpa using atLeast migration (front migration member)

end Lists

/-! ## One process -/

section Process

variable {σ : Type} {transact : List String → σ → Except String σ} {initial : σ}
variable {database after : MigratedDatabase σ} {all : List MigrationMeta}

theorem createdAts (journalled : Journalled database) {journal : Table JournalRow}
    (there : database.journal = some journal) :
    journal.rows.map JournalRow.createdAt =
      database.committed.map MigrationMeta.folderMillis := by
  unfold Journalled at journalled
  rw [there] at journalled
  have seconds := congrArg (List.map Prod.snd) journalled
  rwa [List.map_map, List.map_map] at seconds

/-- What a release ships and was not committed yet is pending. -/
theorem pending_eq (ascending : Ascending all) (migrated : Migrated transact initial database)
    {count : Nat} (reached : ∀ migration, migration ∈ database.committed ↔
      migration ∈ all.take count) {files : List MigrationMeta} (ships : files <+: all) :
    pendingMigrations files (lastAppliedAt database) = files.drop count := by
  have none (empty : database.committed = []) : files.drop count = files := by
    have bare : all.take count = [] := by
      refine List.eq_nil_iff_forall_not_mem.mpr fun migration member => ?_
      have stored := (reached migration).mpr member
      simp [empty] at stored
    rcases List.take_eq_nil_iff.mp bare with zero | nothing
    · rw [zero, List.drop_zero]
    · have gone : files = [] := List.prefix_nil.mp (nothing ▸ ships)
      rw [gone, List.drop_nil]
  unfold lastAppliedAt
  cases there : database.journal with
  | none =>
    have empty : database.committed = [] := by
      have journalled := migrated.journalled
      unfold Journalled at journalled
      rwa [there] at journalled
    exact (none empty).symm
  | some journal =>
    have same := createdAts migrated.journalled there
    show pendingMigrations files (journal.rows.map JournalRow.createdAt).max? = _
    rw [same]
    cases newest : (database.committed.map MigrationMeta.folderMillis).max? with
    | none =>
      have empty : database.committed = [] := by simpa using newest
      exact (none empty).symm
    | some last =>
      obtain ⟨member, greatest⟩ := List.max?_eq_some_iff.mp newest
      obtain ⟨migration, stored, named⟩ := List.mem_map.mp member
      refine filter_newer ascending ships (fun other early => ?_)
        ⟨migration, (reached migration).mp stored, named⟩
      exact greatest _ (List.mem_map_of_mem ((reached other).mpr early))

theorem Migrated.prepare (migrated : Migrated transact initial database) :
    Migrated transact initial (prepareJournal database) := by
  refine ⟨migrated.replayed, ?_⟩
  have journalled := migrated.journalled
  unfold Journalled prepareJournal at *
  cases there : database.journal with
  | none =>
    rw [there] at journalled
    show ([] : List (String × Nat)) = database.committed.map _
    rw [journalled]
    rfl
  | some journal =>
    rw [there] at journalled
    exact journalled

/-- A migration that commits is the last of those that were. -/
theorem applyOne_ok {migration : MigrationMeta}
    (applied : applyOne transact database migration = .ok after) :
    transact migration.sql database.schema = .ok after.schema ∧
      after.journal = database.journal.map
        (fun journal => journal.insert fun id => journalRow migration id) ∧
      after.committed = database.committed ++ [migration] := by
  unfold applyOne at applied
  cases accepted : transact migration.sql database.schema with
  | error reason => simp [accepted, bind, Except.bind] at applied
  | ok schema =>
    simp only [accepted, bind, Except.bind, pure, Except.pure, Except.ok.injEq] at applied
    subst applied
    exact ⟨rfl, rfl, rfl⟩

theorem Migrated.applyOne (migrated : Migrated transact initial database)
    (prepared : database.journal ≠ none) {migration : MigrationMeta}
    (applied : applyOne transact database migration = .ok after) :
    Migrated transact initial after := by
  obtain ⟨accepted, written, committed⟩ := applyOne_ok applied
  obtain ⟨journal, here⟩ := Option.ne_none_iff_exists'.mp prepared
  constructor
  · have replayed := migrated.replayed
    unfold rebuilt at replayed ⊢
    rw [committed, List.foldlM_append, replayed]
    simp [bind, Except.bind, accepted, pure, Except.pure]
  · have journalled := migrated.journalled
    unfold Journalled at journalled ⊢
    rw [here] at journalled
    rw [written, here, Option.map_some, committed]
    dsimp only at journalled ⊢
    have inserted : (journal.insert (journalRow migration)).rows =
        journal.rows ++ [journalRow migration journal.next] := Table.rows_insert
    refine (congrArg (List.map fun row => (row.hash, row.createdAt)) inserted).trans ?_
    rw [List.map_append, journalled, List.map_append]
    rfl

end Process

/-! ## What a process has done and says -/

/-- The line for a migration that was committed. -/
def appliedLine (files : MigrationFiles) (migration : MigrationMeta) : String :=
  LOG_PREFIX ++ " applied " ++ files.tag migration

/-- The file name of the last migration a process applied. -/
def lastTag (files : MigrationFiles) (applied : List MigrationMeta) : Option String :=
  applied.getLast?.map files.tag

section Reports

variable {σ : Type}

/-- What a process that ended says of what it applied, and of what its release ships. -/
structure EndedRun (database : MigratedDatabase σ) (files : MigrationFiles) (exitCode : Nat)
    (lines : List String) (applied : List MigrationMeta) : Prop where
  shipped : ∀ migration ∈ applied, migration ∈ files.migrations
  kept : ∀ migration ∈ applied, migration ∈ database.committed
  success : exitCode = EXIT_SUCCESS →
    (∀ migration ∈ files.migrations, migration ∈ database.committed) ∧
      lines = applied.map (appliedLine files) ++ [migrationSummary applied.length]
  failure : exitCode ≠ EXIT_SUCCESS → ∃ reason, lines = applied.map (appliedLine files) ++
    [LOG_PREFIX ++ " FAILED after " ++ (lastTag files applied).getD "none" ++ ": " ++ reason]

/-- What a process on its way has applied: all that its release ships up to what is pending is
committed, and it has reported what it applied itself. -/
structure Underway (database : MigratedDatabase σ) (files : MigrationFiles)
    (pending : List MigrationMeta) (total : Nat) (lastApplied : Option String)
    (lines : List String) (earlier applied : List MigrationMeta) : Prop where
  prepared : database.journal ≠ none
  order : files.migrations = earlier ++ applied ++ pending
  kept : ∀ migration ∈ earlier ++ applied, migration ∈ database.committed
  counted : total = (applied ++ pending).length
  named : lastApplied = lastTag files applied
  reported : lines = applied.map (appliedLine files)

/-- What holds of a process, by how far it is. -/
def Landed (database : MigratedDatabase σ) : MigrationPhase → Prop
  | .begin _ | .prepare _ | .stopped => True
  | .lastAppliedAt _ => database.journal ≠ none
  | .applying files pending total lastApplied lines => ∃ earlier applied,
      Underway database files pending total lastApplied lines earlier applied
  | .done none exitCode _ => exitCode = EXIT_FAILURE
  | .done (some files) exitCode lines => ∃ applied, EndedRun database files exitCode lines applied

/-- What was committed stays, and so does the journal. -/
structure Grown (database after : MigratedDatabase σ) : Prop where
  kept : ∀ migration ∈ database.committed, migration ∈ after.committed
  prepared : database.journal ≠ none → after.journal ≠ none

variable {transact : List String → σ → Except String σ} {initial : σ}
variable {database after : MigratedDatabase σ} {all : List MigrationMeta}

theorem Landed.grown {phase : MigrationPhase} (landed : Landed database phase)
    (grown : Grown database after) : Landed after phase := by
  match phase, landed with
  | .begin _, _ | .prepare _, _ | .stopped, _ => trivial
  | .lastAppliedAt _, prepared => exact grown.prepared prepared
  | .applying _ _ _ _ _, ⟨earlier, applied, underway⟩ =>
    exact ⟨earlier, applied, { underway with
      prepared := grown.prepared underway.prepared
      kept := fun migration member => grown.kept migration (underway.kept migration member) }⟩
  | .done none _ _, failed => exact failed
  | .done (some _) _ _, ⟨applied, ended⟩ =>
    refine ⟨applied, { ended with
      kept := fun migration member => grown.kept migration (ended.kept migration member)
      success := fun succeeded => ?_ }⟩
    obtain ⟨landed, said⟩ := ended.success succeeded
    exact ⟨fun migration member => grown.kept migration (landed migration member), said⟩

theorem Grown.prepareJournal : Grown database (prepareJournal database) :=
  ⟨fun _ member => member, fun _ => Option.some_ne_none _⟩

theorem Grown.applyOne {migration : MigrationMeta}
    (applied : applyOne transact database migration = .ok after) : Grown database after := by
  obtain ⟨_, written, committed⟩ := applyOne_ok applied
  refine ⟨fun other member => committed ▸ List.mem_append_left _ member, fun prepared => ?_⟩
  obtain ⟨journal, here⟩ := Option.ne_none_iff_exists'.mp prepared
  simp [written, here]

/-- A step only adds to what was committed. -/
theorem grown_actOnMigrations (outage : Option String) (phase : MigrationPhase) :
    Grown database (actOnMigrations transact database outage phase).1 := by
  have same : Grown database database := ⟨fun _ member => member, id⟩
  match phase with
  | .begin _ | .done _ _ _ | .stopped | .applying _ [] _ _ _ => exact same
  | .prepare _ =>
    cases outage with
    | some => exact same
    | none => exact Grown.prepareJournal
  | .lastAppliedAt _ =>
    cases outage with
    | some => exact same
    | none => exact same
  | .applying files (migration :: pending) total lastApplied lines =>
    dsimp only [actOnMigrations]
    split
    · exact same
    · exact same
    · rename_i applied
      exact Grown.applyOne applied

/-- A failure says after which migration, and what was applied before it stays. -/
theorem Underway.failed {files : MigrationFiles} {pending earlier applied : List MigrationMeta}
    {total : Nat} {lastApplied : Option String} {lines : List String}
    (underway : Underway database files pending total lastApplied lines earlier applied)
    (reason : String) : Landed database (failedAfter files lastApplied lines reason) := by
  refine ⟨applied, ⟨fun migration member => ?_, fun migration member => ?_, ?_, ?_⟩⟩
  · rw [underway.order]
    exact List.mem_append_left _ (List.mem_append_right _ member)
  · exact underway.kept migration (List.mem_append_right _ member)
  · exact fun succeeded => absurd succeeded (by decide)
  · exact fun _ => ⟨reason, by rw [underway.reported, underway.named]⟩

/-- With nothing pending all that the release ships is committed. -/
theorem Underway.finished {files : MigrationFiles} {earlier applied : List MigrationMeta}
    {total : Nat} {lastApplied : Option String} {lines : List String}
    (underway : Underway database files [] total lastApplied lines earlier applied) :
    Landed database (.done (some files) EXIT_SUCCESS (lines ++ [migrationSummary total])) := by
  have whole : files.migrations = earlier ++ applied := by
    rw [underway.order, List.append_nil]
  refine ⟨applied, ⟨fun migration member => ?_, fun migration member => ?_, fun _ => ⟨?_, ?_⟩, ?_⟩⟩
  · exact whole ▸ List.mem_append_right _ member
  · exact underway.kept migration (List.mem_append_right _ member)
  · exact whole ▸ underway.kept
  · rw [underway.reported, underway.counted, List.append_nil]
  · exact fun failed => absurd rfl failed

/-- The next of what is pending joins what was applied. -/
theorem Underway.next {files : MigrationFiles} {pending earlier applied : List MigrationMeta}
    {migration : MigrationMeta} {total : Nat} {lastApplied : Option String} {lines : List String}
    (underway : Underway database files (migration :: pending) total lastApplied lines earlier
      applied) (committed : after.committed = database.committed ++ [migration])
    (prepared : after.journal ≠ none) :
    Underway after files pending total (some (files.tag migration))
      (lines ++ [appliedLine files migration]) earlier (applied ++ [migration]) where
  prepared
  order := by rw [underway.order]; simp
  kept other member := by
    rw [committed]
    rw [← List.append_assoc] at member
    rcases List.mem_append.mp member with old | new
    · exact List.mem_append_left _ (underway.kept other old)
    · exact List.mem_append_right _ new
  counted := by rw [underway.counted]; simp
  named := by simp [lastTag]
  reported := by rw [underway.reported, List.map_append]; rfl

end Reports

/-! ## Runs -/

section Runs

variable {σ : Type} {transact : List String → σ → Except String σ} {initial : σ}
variable {database : MigratedDatabase σ} {all : List MigrationMeta}

/-- A database that was never migrated. -/
def freshDatabase (initial : σ) : MigratedDatabase σ where
  schema := initial
  journal := none
  committed := []

/-- What a process that has asked the journal starts with. -/
theorem underway_of_lastAppliedAt (ascending : Ascending all)
    (migrated : Migrated transact initial database) (prepared : database.journal ≠ none)
    {files : MigrationFiles} (ships : files.migrations <+: all) {count : Nat}
    (reached : ∀ migration, migration ∈ database.committed ↔ migration ∈ all.take count) :
    let pending := pendingMigrations files.migrations (lastAppliedAt database)
    Underway database files pending pending.length none [] (files.migrations.take count) [] := by
  rw [pending_eq ascending migrated reached ships]
  refine ⟨prepared, by simp, fun migration member => ?_, rfl, rfl, rfl⟩
  obtain ⟨later, same⟩ := ships
  rw [List.append_nil] at member
  rw [reached, ← same, List.take_append]
  exact List.mem_append_left _ member

theorem migrations_keep (ascending : Ascending all) : (migrationRuns transact).Keeps
    (fun database => NoGap all database.committed ∧ Migrated transact initial database) Landed
    (fun _ _ phase => Ships all phase) fun _ _ => True where
  opened _ _ _ := trivial
  crashed _ _ := trivial
  act database outage phase fact landed ships := by
    obtain ⟨gapless, migrated⟩ := fact
    match phase, landed with
    | .begin settings, _ =>
      refine ⟨⟨gapless, migrated⟩, ?_⟩
      dsimp only [migrationRuns, actOnMigrations]
      split
      · exact rfl
      · exact rfl
      · trivial
    | .prepare files, _ =>
      cases outage with
      | some reason =>
        refine ⟨⟨gapless, migrated⟩, [], ⟨by simp, by simp, ?_, fun _ => ⟨reason, rfl⟩⟩⟩
        exact fun succeeded => absurd succeeded (by decide)
      | none => exact ⟨⟨gapless, migrated.prepare⟩, Option.some_ne_none _⟩
    | .lastAppliedAt files, prepared =>
      cases outage with
      | some reason =>
        refine ⟨⟨gapless, migrated⟩, [], ⟨by simp, by simp, ?_, fun _ => ⟨reason, rfl⟩⟩⟩
        exact fun succeeded => absurd succeeded (by decide)
      | none =>
        obtain ⟨count, reached⟩ := gapless
        exact ⟨⟨⟨count, reached⟩, migrated⟩, files.migrations.take count, [],
          underway_of_lastAppliedAt ascending migrated prepared ships reached⟩
    | .applying files [] total lastApplied lines, ⟨earlier, applied, underway⟩ =>
      exact ⟨⟨gapless, migrated⟩, underway.finished⟩
    | .applying files (migration :: pending) total lastApplied lines,
        ⟨earlier, applied, underway⟩ =>
      dsimp only [migrationRuns, actOnMigrations]
      split
      · exact ⟨⟨gapless, migrated⟩, underway.failed _⟩
      · exact ⟨⟨gapless, migrated⟩, underway.failed _⟩
      · rename_i after accepted
        obtain ⟨_, _, committed⟩ := applyOne_ok accepted
        have ordered : earlier ++ applied ++ [migration] <+: all := by
          refine List.IsPrefix.trans ⟨pending, ?_⟩ ships
          rw [underway.order]
          simp
        refine ⟨⟨?_, migrated.applyOne underway.prepared accepted⟩, earlier,
          applied ++ [migration], ?_⟩
        · rw [committed]
          exact gapless.concat ordered underway.kept
        · exact underway.next committed ((Grown.applyOne accepted).prepared underway.prepared)
    | .done files exitCode lines, landed => exact ⟨⟨gapless, migrated⟩, landed⟩
    | .stopped, _ => exact ⟨⟨gapless, migrated⟩, trivial⟩
  undisturbed _ outage phase _ _ _ _ landed := landed.grown (grown_actOnMigrations outage phase)
  outside _ event := event.elim

/-- However processes of any releases overlap, fail and are stopped, the migrations that were
committed are the first so many, the schema comes of them and the journal names them; a process
that ends in success leaves all that its release ships committed, and what each one says of what
it applied is so. -/
theorem migrations_leave_no_gap (ascending : Ascending all)
    {start : Pool (MigratedDatabase σ) MigrationPhase}
    (fresh : start.shared = freshDatabase initial ∧ start.jobs.rows = [])
    {turns : List (PoolTurn MigrationSettings (Option String) Empty)}
    (ships : Meets (migrationRuns transact).serve
      (Handler.Guarded (fun _ _ phase => Ships all phase) fun _ _ => True) start turns) :
    let pool := run (migrationRuns transact).serve start turns
    NoGap all pool.shared.committed ∧ Migrated transact initial pool.shared ∧
      ∀ job ∈ pool.jobs, Landed pool.shared job.phase := by
  obtain ⟨shared, jobs⟩ := fresh
  have gapless : NoGap all start.shared.committed := ⟨0, by simp [shared, freshDatabase]⟩
  have migrated : Migrated transact initial start.shared := by
    rw [shared]
    exact ⟨rfl, rfl⟩
  obtain ⟨⟨after, kept⟩, landed⟩ := (migrations_keep ascending).run
    ⟨⟨gapless, migrated⟩, fun job stored => absurd stored (Table.not_mem_of_empty jobs job)⟩ ships
  exact ⟨after, kept, landed⟩

end Runs

/-- A table that is there is not created again. -/
def createTables (statements tables : List String) : Except String (List String) :=
  statements.foldlM (fun tables name =>
    if name ∈ tables then .error ("relation " ++ name ++ " already exists")
    else .ok (tables ++ [name])) tables

def threeMigrations : List MigrationMeta :=
  [⟨["users"], 100, "a1"⟩, ⟨["events", "tickets"], 200, "b2"⟩, ⟨["seats"], 300, "c3"⟩]

/-- A release of the day when so many migrations were written. -/
def releaseOf (count : Nat) : MigrationSettings where
  databaseUrl := some "postgres://localhost/eventa"
  files := .ok {
    migrations := threeMigrations.take count
    tags := [(100, "0000_users"), (200, "0001_events"), (300, "0002_seats")] }

def freshRuns : Pool (MigratedDatabase (List String)) MigrationPhase where
  shared := freshDatabase []
  jobs := .empty

/-- What a process has logged. -/
def saidLines : MigrationPhase → List String
  | .applying _ _ _ _ lines | .done _ _ lines => lines
  | .begin _ | .prepare _ | .lastAppliedAt _ | .stopped => []

/-- Two processes start from nothing, the one that comes second to a migration fails, the other is
stopped, and a third one carries on. -/
def overlappingReleases : List (PoolTurn MigrationSettings (Option String) Empty) :=
  [.receive (releaseOf 2), .receive (releaseOf 3), .advance 0 none, .advance 1 none,
    .advance 0 none, .advance 1 none, .advance 0 none, .advance 1 none, .advance 0 none,
    .advance 1 none, .crash 0, .receive (releaseOf 3), .advance 2 none, .advance 2 none,
    .advance 2 none, .advance 2 none, .advance 2 none, .advance 2 none]

theorem migrations_leave_no_gap_overlapping :
    let pool := run (migrationRuns createTables).serve freshRuns overlappingReleases
    (pool.shared.schema = ["users", "events", "tickets", "seats"] ∧
      pool.jobs.rows.map (fun job => saidLines job.phase) = [[],
        ["[migrate] FAILED after none: relation users already exists"],
        ["[migrate] applied 0001_events", "[migrate] applied 0002_seats",
          "[migrate] 2 migration(s) applied"]]) ∧
      NoGap threeMigrations pool.shared.committed ∧ Migrated createTables [] pool.shared ∧
      ∀ job ∈ pool.jobs, Landed pool.shared job.phase :=
  ⟨by decide +kernel,
    migrations_leave_no_gap (by unfold Ascending; decide) ⟨rfl, rfl⟩ (by decide +kernel)⟩

/-! ## One process at a time -/

/-- The process has asked the journal and is applying what is pending. -/
def Applying : MigrationPhase → Prop
  | .applying _ _ _ _ _ => True
  | _ => False

instance : DecidablePred Applying
  | .applying _ _ _ _ _ => isTrue trivial
  | .begin _ | .prepare _ | .lastAppliedAt _ | .done _ _ _ | .stopped => isFalse id

section Alone

variable {σ : Type} {transact : List String → σ → Except String σ} {initial : σ}
variable {database after : MigratedDatabase σ} {all : List MigrationMeta}

/-- What holds of a process where no other applies: what is pending comes right after what was
committed. -/
def Continues (database : MigratedDatabase σ) : MigrationPhase → Prop
  | .lastAppliedAt _ => database.journal ≠ none
  | .applying files pending _ _ _ => database.journal ≠ none ∧
      pending = files.migrations.drop database.committed.length
  | .done (some files) exitCode _ =>
      exitCode = EXIT_SUCCESS → files.migrations <+: database.committed
  | .begin _ | .prepare _ | .done none _ _ | .stopped => True

theorem Continues.grown {phase : MigrationPhase} (continues : Continues database phase)
    (grown : database.committed <+: after.committed)
    (prepared : database.journal ≠ none → after.journal ≠ none)
    (same : Applying phase → after.committed = database.committed) : Continues after phase := by
  match phase, continues with
  | .begin _, _ | .prepare _, _ | .stopped, _ | .done none _ _, _ => trivial
  | .lastAppliedAt _, there => exact prepared there
  | .applying _ _ _ _ _, ⟨there, next⟩ => exact ⟨prepared there, same trivial ▸ next⟩
  | .done (some _) _ _, landed => exact fun succeeded => (landed succeeded).trans grown

/-- What is pending first comes next after what was committed. -/
theorem concat_prefix {files pending committed all : List MigrationMeta} {migration : MigrationMeta}
    (first : committed <+: all) (ships : files <+: all)
    (next : migration :: pending = files.drop committed.length) :
    committed ++ [migration] <+: all ∧ pending = files.drop (committed.length + 1) := by
  obtain ⟨rest, rfl⟩ := first
  obtain ⟨later, whole⟩ := ships
  have cut := congrArg (List.drop committed.length) whole
  rw [List.drop_append, ← next, List.drop_left] at cut
  refine ⟨⟨pending ++ List.drop (committed.length - files.length) later, ?_⟩, ?_⟩
  · rw [← cut, List.append_assoc]
    rfl
  · rw [← List.tail_drop, ← next, List.tail_cons]

theorem migrations_continue (ascending : Ascending all) : (migrationRuns transact).KeepsApart
    Applying (fun database => database.committed <+: all ∧ Migrated transact initial database)
    Continues (fun _ _ phase => Ships all phase) fun _ _ => True where
  opened _ _ _ := ⟨trivial, id⟩
  crashed _ _ := ⟨trivial, id⟩
  act database outage phase fact continues ships := by
    obtain ⟨first, migrated⟩ := fact
    match phase, continues with
    | .begin settings, _ =>
      refine ⟨⟨first, migrated⟩, ?_⟩
      dsimp only [migrationRuns, actOnMigrations]
      split <;>
        trivial
    | .prepare files, _ =>
      cases outage with
      | some => exact ⟨⟨first, migrated⟩, fun succeeded => absurd succeeded (by decide)⟩
      | none => exact ⟨⟨first, migrated.prepare⟩, Option.some_ne_none _⟩
    | .lastAppliedAt files, prepared =>
      cases outage with
      | some => exact ⟨⟨first, migrated⟩, fun succeeded => absurd succeeded (by decide)⟩
      | none =>
        have reached (migration : MigrationMeta) : migration ∈ database.committed ↔
            migration ∈ all.take database.committed.length := by
          rw [← List.prefix_iff_eq_take.mp first]
        exact ⟨⟨first, migrated⟩, prepared, pending_eq ascending migrated reached ships⟩
    | .applying files [] total lastApplied lines, ⟨prepared, next⟩ =>
      refine ⟨⟨first, migrated⟩, fun _ => ?_⟩
      exact List.prefix_of_prefix_length_le ships first (List.drop_eq_nil_iff.mp next.symm)
    | .applying files (migration :: pending) total lastApplied lines, ⟨prepared, next⟩ =>
      dsimp only [migrationRuns, actOnMigrations]
      split
      · exact ⟨⟨first, migrated⟩, fun succeeded => absurd succeeded (by decide)⟩
      · exact ⟨⟨first, migrated⟩, fun succeeded => absurd succeeded (by decide)⟩
      · rename_i after accepted
        obtain ⟨_, _, committed⟩ := applyOne_ok accepted
        obtain ⟨further, following⟩ := concat_prefix first ships next
        refine ⟨⟨committed ▸ further, migrated.applyOne prepared accepted⟩,
          (Grown.applyOne accepted).prepared prepared, ?_⟩
        rw [committed, List.length_append]
        exact following
    | .done files exitCode lines, continues => exact ⟨⟨first, migrated⟩, continues⟩
    | .stopped, _ => exact ⟨⟨first, migrated⟩, trivial⟩
  undisturbed database outage phase other _ _ _ continues apart := by
    have grown : Grown database (actOnMigrations transact database outage phase).1 :=
      grown_actOnMigrations outage phase
    match phase with
    | .begin _ | .done _ _ _ | .stopped | .applying _ [] _ _ _ => exact continues
    | .prepare _ =>
      cases outage with
      | some => exact continues
      | none => exact continues.grown List.prefix_rfl grown.prepared fun _ => rfl
    | .lastAppliedAt _ =>
      cases outage with
      | some => exact continues
      | none => exact continues
    | .applying files (migration :: pending) total lastApplied lines =>
      dsimp only [migrationRuns, actOnMigrations] at grown ⊢
      split at grown
      · exact continues
      · exact continues
      · rename_i after accepted
        obtain ⟨_, _, committed⟩ := applyOne_ok accepted
        refine continues.grown ⟨[migration], committed.symm⟩ grown.prepared fun applying => ?_
        exact absurd applying (apart trivial)
  outside _ event := event.elim

/-- While no process comes to apply before another has ended, each migration is committed once and
in order: the schema is what the first so many make of the first one, and a process that ends in
success leaves its release's own list as the beginning of what was committed. -/
theorem migrations_apply_in_order (ascending : Ascending all)
    {start : Pool (MigratedDatabase σ) MigrationPhase}
    (fresh : start.shared = freshDatabase initial ∧ start.jobs.rows = [])
    {turns : List (PoolTurn MigrationSettings (Option String) Empty)}
    (alone : Meets (migrationRuns transact).serve
      (fun pool turn => Handler.Guarded (fun _ _ phase => Ships all phase) (fun _ _ => True)
        pool turn ∧ (migrationRuns transact).Exclusive Applying pool turn) start turns) :
    let pool := run (migrationRuns transact).serve start turns
    pool.shared.committed <+: all ∧ Migrated transact initial pool.shared ∧
      ∀ job ∈ pool.jobs, ∀ files lines, job.phase = .done (some files) EXIT_SUCCESS lines →
        files.migrations <+: pool.shared.committed := by
  obtain ⟨shared, jobs⟩ := fresh
  have first : start.shared.committed <+: all := by
    rw [shared]
    exact List.nil_prefix
  have migrated : Migrated transact initial start.shared := by
    rw [shared]
    exact ⟨rfl, rfl⟩
  have none (job : Job MigrationPhase) : job ∉ start.jobs := Table.not_mem_of_empty jobs job
  obtain ⟨⟨⟨after, kept⟩, continues⟩, _⟩ := (migrations_continue ascending).run
    ⟨⟨⟨first, migrated⟩, fun job stored => absurd stored (none job)⟩,
      fun job stored => absurd stored (none job)⟩ alone
  refine ⟨after, kept, fun job stored files lines succeeded => ?_⟩
  have landed := continues job stored
  rw [succeeded] at landed
  exact landed rfl

end Alone

/-- An old release is stopped on its way, and a new one carries on after it. -/
def oneReleaseAfterAnother : List (PoolTurn MigrationSettings (Option String) Empty) :=
  [.receive (releaseOf 2), .receive (releaseOf 3), .advance 0 none, .advance 1 none,
    .advance 0 none, .advance 1 none, .advance 0 none, .advance 0 none, .crash 0,
    .advance 1 none, .advance 1 none, .advance 1 none, .advance 1 none]

theorem migrations_apply_in_order_releases :
    let pool := run (migrationRuns createTables).serve freshRuns oneReleaseAfterAnother
    pool.shared.committed = threeMigrations ∧
      pool.shared.committed <+: threeMigrations ∧ Migrated createTables [] pool.shared ∧
      ∀ job ∈ pool.jobs, ∀ files lines, job.phase = .done (some files) EXIT_SUCCESS lines →
        files.migrations <+: pool.shared.committed :=
  ⟨by decide +kernel,
    migrations_apply_in_order (by unfold Ascending; decide) ⟨rfl, rfl⟩ (by decide +kernel)⟩

end EventaApi.Guarantees
