import Mathlib.Data.List.MinMax
import EventaApi.Library.Pool

/-!
# Applying migrations

`migrateEach` over drizzle's journal, and the process around it. A process reads what its release
ships, asks the journal for the newest migration applied, and applies what is newer, each in a
transaction with its journal row. Processes may overlap, fail and be stopped anywhere; what a
transaction of statements comes to is for the database to say.
-/
namespace EventaApi.Source
open Library

/-- One migration, as drizzle reads it. -/
structure MigrationMeta where
  sql : List String
  folderMillis : Nat
  hash : String
  deriving DecidableEq, Repr

/-- A row of drizzle's journal. -/
structure JournalRow where
  id : Nat
  hash : String
  createdAt : Nat
  deriving DecidableEq, Repr

instance : Keyed JournalRow := ⟨JournalRow.id⟩

structure MigratedDatabase (σ : Type) where
  schema : σ
  /-- Nothing on a database that was never migrated. -/
  journal : Option (Table JournalRow)
  /-- The migrations that were committed, in order. -/
  committed : List MigrationMeta

/-- The migrations folder: its migrations in journal order, and the file name of each. -/
structure MigrationFiles where
  migrations : List MigrationMeta
  tags : List (Nat × String)
  deriving DecidableEq, Repr

/-- What a process starts with, or why it cannot. -/
structure MigrationSettings where
  databaseUrl : Option String
  files : Except String MigrationFiles

def EXIT_SUCCESS : Nat := 0
def EXIT_FAILURE : Nat := 1

def NO_DATABASE_URL : String := "DATABASE_URL is required: set it in the environment"

def LOG_PREFIX : String := "[migrate]"

/-- Where a process is, with the lines it has logged. -/
inductive MigrationPhase where
  | begin (settings : MigrationSettings)
  | prepare (files : MigrationFiles)
  | lastAppliedAt (files : MigrationFiles)
  | applying (files : MigrationFiles) (pending : List MigrationMeta) (total : Nat)
      (lastApplied : Option String) (lines : List String)
  | done (files : Option MigrationFiles) (exitCode : Nat) (lines : List String)
  | stopped

section Runner

variable {σ : Type}

/-- Create the journal if this database was never migrated. -/
def prepareJournal (database : MigratedDatabase σ) : MigratedDatabase σ :=
  { database with journal := some (database.journal.getD .empty) }

/-- `created_at` of the newest migration applied. -/
def lastAppliedAt (database : MigratedDatabase σ) : Option Nat := do
  let journal ← database.journal
  (journal.rows.map JournalRow.createdAt).max?

/-- Pending is what is newer than the newest one applied. -/
def pendingMigrations (migrations : List MigrationMeta) : Option Nat → List MigrationMeta
  | none => migrations
  | some last => migrations.filter fun migration => last < migration.folderMillis

/-- The journal row that goes with a migration. -/
def journalRow (migration : MigrationMeta) (id : Nat) : JournalRow where
  id
  hash := migration.hash
  createdAt := migration.folderMillis

-- What a transaction of these statements makes of a schema, or why it is refused.
variable (transact : List String → σ → Except String σ)

/-- One migration and its journal row, committed together or not at all. -/
def applyOne (database : MigratedDatabase σ) (migration : MigrationMeta) :
    Except String (MigratedDatabase σ) := do
  let schema ← transact migration.sql database.schema
  return {
    schema
    journal := database.journal.map fun journal => journal.insert fun id => journalRow migration id
    committed := database.committed ++ [migration] }

def migrationSummary (applied : Nat) : String :=
  if applied = 0 then LOG_PREFIX ++ " nothing to apply — the database is up to date"
  else LOG_PREFIX ++ " " ++ toString applied ++ " migration(s) applied"

def failedMigration (files : Option MigrationFiles) (lines : List String) (reason : String) :
    MigrationPhase :=
  .done files EXIT_FAILURE (lines ++ [LOG_PREFIX ++ " FAILED: " ++ reason])

/-- Everything before the failure is committed; the next run resumes there. -/
def failedAfter (files : MigrationFiles) (lastApplied : Option String) (lines : List String)
    (reason : String) : MigrationPhase :=
  .done (some files) EXIT_FAILURE
    (lines ++ [LOG_PREFIX ++ " FAILED after " ++ lastApplied.getD "none" ++ ": " ++ reason])

/-- The file name of a migration. -/
def MigrationFiles.tag (files : MigrationFiles) (migration : MigrationMeta) : String :=
  (files.tags.lookup migration.folderMillis).getD (toString migration.folderMillis)

/-- One step of a process; the answer is why the database cannot be asked, if it cannot. -/
def actOnMigrations (database : MigratedDatabase σ) (outage : Option String) :
    MigrationPhase → MigratedDatabase σ × MigrationPhase
  | .begin settings =>
    (database,
      match settings.databaseUrl, settings.files with
      | none, _ => failedMigration none [] NO_DATABASE_URL
      | some _, .error reason => failedMigration none [] reason
      | some _, .ok files => .prepare files)
  | .prepare files =>
    match outage with
    | some reason => (database, failedAfter files none [] reason)
    | none => (prepareJournal database, .lastAppliedAt files)
  | .lastAppliedAt files =>
    match outage with
    | some reason => (database, failedAfter files none [] reason)
    | none =>
      let pending := pendingMigrations files.migrations (lastAppliedAt database)
      (database, .applying files pending pending.length none [])
  | .applying files [] total _ lines =>
    (database, .done (some files) EXIT_SUCCESS (lines ++ [migrationSummary total]))
  | .applying files (migration :: pending) total lastApplied lines =>
    match outage, applyOne transact database migration with
    | some reason, _ => (database, failedAfter files lastApplied lines reason)
    | none, .error reason => (database, failedAfter files lastApplied lines reason)
    | none, .ok applied =>
      let tag := files.tag migration
      (applied, .applying files pending total (some tag) (lines ++ [LOG_PREFIX ++ " applied " ++ tag]))
  | .done files exitCode lines => (database, .done files exitCode lines)
  | .stopped => (database, .stopped)

def migrationRuns :
    Handler (MigratedDatabase σ) MigrationPhase MigrationSettings (Option String) Empty where
  opened := .begin
  act := actOnMigrations transact
  outside database _ := database
  crashed := .stopped

end Runner

end EventaApi.Source
