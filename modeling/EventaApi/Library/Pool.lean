import Mathlib.Data.List.Induction
import EventaApi.Library.Run
import EventaApi.Library.Table

/-!
# Pools of requests

A handler serves requests that work on something shared. Each request is a job with a
phase of its own: what it does next, with what it has read so far. A turn of the pool
receives a request, lets one job take one step (a read, or a committed transaction),
loses a job, or changes what is shared from outside.

The rule for pools is the one for interference: a fact about a job's phase holds along
every run when the job's own steps establish it and no step of another job breaks it.
-/
namespace EventaApi.Library

structure Job (φ : Type) where
  id : Nat
  phase : φ
  deriving DecidableEq, Repr

instance {φ : Type} : Keyed (Job φ) := ⟨Job.id⟩

structure Pool (σ φ : Type) where
  shared : σ
  jobs : Table (Job φ)

inductive PoolTurn (ρ ι ω : Type) where
  | receive (request : ρ)
  /-- One step of a job, with what it takes from outside. -/
  | advance (jobId : Nat) (input : ι)
  | crash (jobId : Nat)
  | outside (event : ω)
  deriving DecidableEq, Repr

structure Handler (σ φ ρ ι ω : Type) where
  opened : ρ → φ
  act : σ → ι → φ → σ × φ
  outside : σ → ω → σ
  crashed : φ

def moveJob {φ : Type} (jobs : Table (Job φ)) (jobId : Nat) (phase : φ) : Table (Job φ) :=
  jobs.update (fun job => job.id = jobId) fun job => { job with phase }

variable {σ φ ρ ι ω : Type}

namespace Handler

def serve (handler : Handler σ φ ρ ι ω) (pool : Pool σ φ) : PoolTurn ρ ι ω → Pool σ φ
  | .receive request =>
    { pool with jobs := pool.jobs.insert fun id => { id, phase := handler.opened request } }
  | .advance jobId input =>
    match pool.jobs.find jobId with
    | some job =>
      let acted := handler.act pool.shared input job.phase
      { shared := acted.1, jobs := moveJob pool.jobs jobId acted.2 }
    | none => pool
  | .crash jobId => { pool with jobs := moveJob pool.jobs jobId handler.crashed }
  | .outside event => { pool with shared := handler.outside pool.shared event }

/-- Each turn meets the condition of its kind. -/
def Guarded (acts : σ → ι → φ → Prop) (outsides : σ → ω → Prop) (pool : Pool σ φ) :
    PoolTurn ρ ι ω → Prop
  | .advance jobId input => ∀ job ∈ pool.jobs.find jobId, acts pool.shared input job.phase
  | .outside event => outsides pool.shared event
  | _ => True

instance {acts : σ → ι → φ → Prop} {outsides : σ → ω → Prop}
    [∀ shared input phase, Decidable (acts shared input phase)]
    [∀ shared event, Decidable (outsides shared event)] (pool : Pool σ φ) :
    (turn : PoolTurn ρ ι ω) → Decidable (Guarded acts outsides pool turn)
  | .advance jobId _ => inferInstanceAs (Decidable (∀ _ ∈ pool.jobs.find jobId, _))
  | .outside _ => inferInstanceAs (Decidable (outsides _ _))
  | .receive _ | .crash _ => isTrue trivial

end Handler

/-! ## Turns -/

section Turns

variable {handler : Handler σ φ ρ ι ω} {pool : Pool σ φ} {jobs : Table (Job φ)}

theorem mem_moveJob {job : Job φ} {jobId : Nat} {phase : φ}
    (member : job ∈ moveJob jobs jobId phase) :
    (job ∈ jobs ∧ job.id ≠ jobId) ∨ job.id = jobId ∧ job.phase = phase := by
  rcases Table.mem_update_cases member with ⟨old, stored, moved, rfl⟩ | ⟨stored, moved⟩
  · exact Or.inr ⟨moved, rfl⟩
  · exact Or.inl ⟨stored, moved⟩

theorem find_moveJob {job : Job φ} {jobId : Nat} {phase : φ} (found : jobs.find jobId = some job) :
    (moveJob jobs jobId phase).find jobId = some { job with phase } := by
  have named : job.id = jobId := (Table.find_eq_some.mp found).2
  unfold moveJob
  rw [Table.find_update, found]
  simp [named]

theorem find_moveJob_of_ne {jobId other : Nat} {phase : φ} (apart : other ≠ jobId) :
    (moveJob jobs jobId phase).find other = jobs.find other := by
  unfold moveJob
  rw [Table.find_update]
  cases found : jobs.find other with
  | none => rfl
  | some job =>
    have named : job.id = other := (Table.find_eq_some.mp found).2
    simp [named, apart]

@[simp] theorem next_moveJob {jobId : Nat} {phase : φ} :
    (moveJob jobs jobId phase).next = jobs.next := by
  unfold moveJob
  rw [Table.next_update]

theorem moveJob_missing {jobId : Nat} {phase : φ} (missing : jobs.find jobId = none) :
    moveJob jobs jobId phase = jobs :=
  Table.update_of_miss fun job stored hit => Table.find_eq_none.mp missing job stored hit

/-- A job that moves takes itself from the jobs of its old phase to those of its new one. -/
theorem length_select_moveJob (picked : φ → Prop) [DecidablePred picked] {job : Job φ} {jobId : Nat}
    {phase : φ} (found : jobs.find jobId = some job) :
    ((moveJob jobs jobId phase).select fun job => picked job.phase).length +
        (if picked job.phase then 1 else 0) =
      (jobs.select fun job => picked job.phase).length + if picked phase then 1 else 0 := by
  rw [Table.length_select, Table.length_select]
  exact Table.sum_update_key found

theorem serve_advance {jobId : Nat} {input : ι} {job : Job φ}
    (found : pool.jobs.find jobId = some job) :
    handler.serve pool (.advance jobId input) =
      { shared := (handler.act pool.shared input job.phase).1
        jobs := moveJob pool.jobs jobId (handler.act pool.shared input job.phase).2 } := by
  simp [Handler.serve, found]

theorem serve_missing {jobId : Nat} {input : ι} (missing : pool.jobs.find jobId = none) :
    handler.serve pool (.advance jobId input) = pool := by
  simp [Handler.serve, missing]

theorem guarded_advance {acts : σ → ι → φ → Prop} {outsides : σ → ω → Prop} {jobId : Nat}
    {input : ι} {job : Job φ} (found : pool.jobs.find jobId = some job) :
    Handler.Guarded acts outsides pool (.advance jobId input : PoolTurn ρ ι ω) ↔
      acts pool.shared input job.phase := by
  simp [Handler.Guarded, found]

/-- Conditions that are one for the jobs that are there are one for every turn. -/
theorem Handler.guarded_congr {first second : σ → ι → φ → Prop} {outsides : σ → ω → Prop}
    (same : ∀ job ∈ pool.jobs, ∀ input,
      (first pool.shared input job.phase ↔ second pool.shared input job.phase))
    (turn : PoolTurn ρ ι ω) :
    Handler.Guarded first outsides pool turn ↔ Handler.Guarded second outsides pool turn := by
  cases turn with
  | receive | crash | outside => exact Iff.rfl
  | advance jobId input =>
    exact forall₂_congr fun job found => same job (Table.find_eq_some.mp found).1 input

/-- No condition is met by every turn. -/
theorem Handler.guarded_true (pool : Pool σ φ) (turn : PoolTurn ρ ι ω) :
    Handler.Guarded (fun _ _ _ => True) (fun _ _ => True) pool turn := by
  cases turn with
  | advance => exact fun _ _ => trivial
  | receive | crash | outside => exact trivial

/-- What is shared stays, or changes from outside, or by an act of a job that is there. -/
theorem Handler.serve_cases (handler : Handler σ φ ρ ι ω) (pool : Pool σ φ)
    (turn : PoolTurn ρ ι ω) :
    (handler.serve pool turn).shared = pool.shared ∨
    (∃ event, turn = .outside event ∧
      (handler.serve pool turn).shared = handler.outside pool.shared event) ∨
    ∃ jobId input job, turn = .advance jobId input ∧ pool.jobs.find jobId = some job ∧
      (handler.serve pool turn).shared = (handler.act pool.shared input job.phase).1 := by
  cases turn with
  | receive | crash => exact Or.inl rfl
  | outside event => exact Or.inr (Or.inl ⟨event, rfl, rfl⟩)
  | advance jobId input =>
    cases found : pool.jobs.find jobId with
    | none =>
      rw [serve_missing found]
      exact Or.inl rfl
    | some job =>
      rw [serve_advance found]
      exact Or.inr (Or.inr ⟨jobId, input, job, rfl, found, rfl⟩)

/-- What each act and each outside change does to what is shared, every turn does. -/
theorem Handler.serve_shared {change : σ → σ → Prop} (same : change pool.shared pool.shared)
    (act : ∀ job ∈ pool.jobs, ∀ input,
      change pool.shared (handler.act pool.shared input job.phase).1)
    (outside : ∀ event, change pool.shared (handler.outside pool.shared event))
    (turn : PoolTurn ρ ι ω) : change pool.shared (handler.serve pool turn).shared := by
  cases turn with
  | receive | crash => exact same
  | advance jobId input =>
    cases found : pool.jobs.find jobId with
    | none =>
      rw [serve_missing found]
      exact same
    | some job =>
      rw [serve_advance found]
      exact act job (Table.find_eq_some.mp found).1 input
  | outside event => exact outside event

end Turns

/-! ## Invariants -/

/-- The shared fact holds, and each job's fact of its own phase. -/
structure Pool.Sound (fact : σ → Prop) (holds : σ → φ → Prop) (pool : Pool σ φ) : Prop where
  shared : fact pool.shared
  jobs : ∀ job ∈ pool.jobs, holds pool.shared job.phase

/-- What is to be shown of one step: it keeps the shared fact and establishes the fact of its
own next phase, and neither it nor an outside change disturbs another job's. -/
structure Handler.Keeps (handler : Handler σ φ ρ ι ω) (fact : σ → Prop) (holds : σ → φ → Prop)
    (acts : σ → ι → φ → Prop) (outsides : σ → ω → Prop) : Prop where
  opened : ∀ shared request, fact shared → holds shared (handler.opened request)
  crashed : ∀ shared, fact shared → holds shared handler.crashed
  act : ∀ shared input phase, fact shared → holds shared phase → acts shared input phase →
    fact (handler.act shared input phase).1 ∧
      holds (handler.act shared input phase).1 (handler.act shared input phase).2
  undisturbed : ∀ shared input phase other, fact shared → holds shared phase →
    acts shared input phase → holds shared other → holds (handler.act shared input phase).1 other
  outside : ∀ shared event, fact shared → outsides shared event →
    fact (handler.outside shared event) ∧
      ∀ phase, holds shared phase → holds (handler.outside shared event) phase

section Soundness

variable {handler : Handler σ φ ρ ι ω} {fact : σ → Prop} {holds : σ → φ → Prop}
variable {acts : σ → ι → φ → Prop} {outsides : σ → ω → Prop}

theorem Handler.Keeps.serve (keeps : handler.Keeps fact holds acts outsides) (pool : Pool σ φ)
    (turn : PoolTurn ρ ι ω) (sound : pool.Sound fact holds)
    (guarded : Handler.Guarded acts outsides pool turn) :
    (handler.serve pool turn).Sound fact holds := by
  obtain ⟨shared, jobs⟩ := sound
  cases turn with
  | receive request =>
    refine ⟨shared, fun job member => ?_⟩
    rcases Table.mem_insert.mp member with old | rfl
    · exact jobs job old
    · exact keeps.opened _ request shared
  | advance jobId input =>
    cases found : pool.jobs.find jobId with
    | none =>
      rw [serve_missing found]
      exact ⟨shared, jobs⟩
    | some job =>
      have mine := jobs job (Table.find_eq_some.mp found).1
      have guard := (guarded_advance found).mp guarded
      obtain ⟨after, next⟩ := keeps.act _ input _ shared mine guard
      rw [serve_advance found]
      refine ⟨after, fun other member => ?_⟩
      rcases mem_moveJob member with ⟨stored, _⟩ | ⟨_, moved⟩
      · exact keeps.undisturbed _ input _ _ shared mine guard (jobs other stored)
      · rw [moved]
        exact next
  | crash jobId =>
    refine ⟨shared, fun other member => ?_⟩
    rcases mem_moveJob member with ⟨stored, _⟩ | ⟨_, moved⟩
    · exact jobs other stored
    · rw [moved]
      exact keeps.crashed _ shared
  | outside event =>
    obtain ⟨after, kept⟩ := keeps.outside _ event shared guarded
    exact ⟨after, fun job stored => kept _ (jobs job stored)⟩

/-- The rule for pools: what every step keeps, every run that meets the conditions keeps. -/
theorem Handler.Keeps.run (keeps : handler.Keeps fact holds acts outsides) {start : Pool σ φ}
    {turns : List (PoolTurn ρ ι ω)} (initial : start.Sound fact holds)
    (meets : Meets handler.serve (Handler.Guarded acts outsides) start turns) :
    (run handler.serve start turns).Sound fact holds :=
  run_invariant keeps.serve initial meets

end Soundness

/-! ## One job at a time -/

/-- At most one job is in a marked phase. -/
def Pool.Sole (marked : φ → Prop) (pool : Pool σ φ) : Prop :=
  ∀ first ∈ pool.jobs, ∀ second ∈ pool.jobs, marked first.phase → marked second.phase →
    first.id = second.id

/-- A job comes to a marked phase only while no other job is in one. -/
def Handler.Exclusive (handler : Handler σ φ ρ ι ω) (marked : φ → Prop) (pool : Pool σ φ) :
    PoolTurn ρ ι ω → Prop
  | .advance jobId input => ∀ job ∈ pool.jobs.find jobId,
      marked (handler.act pool.shared input job.phase).2 →
        ∀ other ∈ pool.jobs, marked other.phase → other.id = jobId
  | _ => True

instance {handler : Handler σ φ ρ ι ω} {marked : φ → Prop} [DecidablePred marked]
    (pool : Pool σ φ) : (turn : PoolTurn ρ ι ω) → Decidable (handler.Exclusive marked pool turn)
  | .advance jobId _ => inferInstanceAs (Decidable (∀ _ ∈ pool.jobs.find jobId,
      marked _ → ∀ other ∈ pool.jobs.rows, marked other.phase → other.id = jobId))
  | .receive _ | .crash _ | .outside _ => isTrue trivial

/-- What is to be shown of one step where at most one job is in a marked phase: its fact is for
its own steps to keep, every other job's is not to be disturbed. -/
structure Handler.KeepsApart (handler : Handler σ φ ρ ι ω) (marked : φ → Prop) (fact : σ → Prop)
    (holds : σ → φ → Prop) (acts : σ → ι → φ → Prop) (outsides : σ → ω → Prop) : Prop where
  opened : ∀ shared request, fact shared →
    holds shared (handler.opened request) ∧ ¬ marked (handler.opened request)
  crashed : ∀ shared, fact shared → holds shared handler.crashed ∧ ¬ marked handler.crashed
  act : ∀ shared input phase, fact shared → holds shared phase → acts shared input phase →
    fact (handler.act shared input phase).1 ∧
      holds (handler.act shared input phase).1 (handler.act shared input phase).2
  undisturbed : ∀ shared input phase other, fact shared → holds shared phase →
    acts shared input phase → holds shared other → (marked phase → ¬ marked other) →
    holds (handler.act shared input phase).1 other
  outside : ∀ shared event, fact shared → outsides shared event →
    fact (handler.outside shared event) ∧
      ∀ phase, holds shared phase → holds (handler.outside shared event) phase

section Apart

variable {handler : Handler σ φ ρ ι ω} {marked : φ → Prop} {fact : σ → Prop}
variable {holds : σ → φ → Prop} {acts : σ → ι → φ → Prop} {outsides : σ → ω → Prop}

theorem Pool.Sole.moveJob {pool : Pool σ φ} (sole : pool.Sole marked) {jobId : Nat} {phase : φ}
    {shared : σ} (free : marked phase → ∀ other ∈ pool.jobs, marked other.phase → other.id = jobId) :
    Pool.Sole marked { shared, jobs := moveJob pool.jobs jobId phase } := by
  intro first member second member' mark mark'
  rcases mem_moveJob member with ⟨stored, _⟩ | ⟨mine, moved⟩ <;>
    rcases mem_moveJob member' with ⟨stored', _⟩ | ⟨mine', moved'⟩
  · exact sole first stored second stored' mark mark'
  · exact (free (moved' ▸ mark') first stored mark).trans mine'.symm
  · exact mine.trans (free (moved ▸ mark) second stored' mark').symm
  · exact mine.trans mine'.symm

theorem Handler.KeepsApart.serve (keeps : handler.KeepsApart marked fact holds acts outsides)
    (pool : Pool σ φ) (turn : PoolTurn ρ ι ω) (sound : pool.Sound fact holds ∧ pool.Sole marked)
    (guarded : Handler.Guarded acts outsides pool turn ∧ handler.Exclusive marked pool turn) :
    (handler.serve pool turn).Sound fact holds ∧ (handler.serve pool turn).Sole marked := by
  obtain ⟨⟨shared, jobs⟩, sole⟩ := sound
  obtain ⟨guarded, exclusive⟩ := guarded
  cases turn with
  | receive request =>
    obtain ⟨known, unmarked⟩ := keeps.opened _ request shared
    refine ⟨⟨shared, fun job member => ?_⟩, fun first member second member' mark mark' => ?_⟩
    · rcases Table.mem_insert.mp member with old | rfl
      · exact jobs job old
      · exact known
    · rcases Table.mem_insert.mp member with old | rfl
      · rcases Table.mem_insert.mp member' with old' | rfl
        · exact sole first old second old' mark mark'
        · exact absurd mark' unmarked
      · exact absurd mark unmarked
  | advance jobId input =>
    cases found : pool.jobs.find jobId with
    | none =>
      rw [serve_missing found]
      exact ⟨⟨shared, jobs⟩, sole⟩
    | some job =>
      obtain ⟨there, named⟩ := Table.find_eq_some.mp found
      have mine := jobs job there
      have guard := (guarded_advance found).mp guarded
      obtain ⟨after, next⟩ := keeps.act _ input _ shared mine guard
      rw [serve_advance found]
      refine ⟨⟨after, fun other member => ?_⟩, sole.moveJob (exclusive job found)⟩
      rcases mem_moveJob member with ⟨stored, apart⟩ | ⟨_, moved⟩
      · refine keeps.undisturbed _ input _ _ shared mine guard (jobs other stored) ?_
        exact fun mark mark' => apart ((sole other stored job there mark' mark).trans named)
      · rw [moved]
        exact next
  | crash jobId =>
    obtain ⟨known, unmarked⟩ := keeps.crashed _ shared
    refine ⟨⟨shared, fun other member => ?_⟩, sole.moveJob fun mark => absurd mark unmarked⟩
    rcases mem_moveJob member with ⟨stored, _⟩ | ⟨_, moved⟩
    · exact jobs other stored
    · rw [moved]
      exact known
  | outside event =>
    obtain ⟨after, kept⟩ := keeps.outside _ event shared guarded
    exact ⟨⟨after, fun job stored => kept _ (jobs job stored)⟩, sole⟩

/-- The rule for pools where at most one job is in a marked phase. -/
theorem Handler.KeepsApart.run (keeps : handler.KeepsApart marked fact holds acts outsides)
    {start : Pool σ φ} {turns : List (PoolTurn ρ ι ω)}
    (initial : start.Sound fact holds ∧ start.Sole marked)
    (meets : Meets handler.serve
      (fun pool turn => Handler.Guarded acts outsides pool turn ∧ handler.Exclusive marked pool turn)
      start turns) :
    (run handler.serve start turns).Sound fact holds ∧
      (run handler.serve start turns).Sole marked :=
  run_invariant keeps.serve initial meets

end Apart

/-- Where each act and each outside change makes of what is shared only what it may, exactly under
its condition, so does each turn. -/
theorem Handler.serve_judged {handler : Handler σ φ ρ ι ω} {change : σ → σ → Prop}
    {acts : σ → ι → φ → Prop} {outsides : σ → ω → Prop} {pool : Pool σ φ}
    (same : change pool.shared pool.shared)
    (act : ∀ job ∈ pool.jobs, ∀ input,
      (change pool.shared (handler.act pool.shared input job.phase).1 ↔
        acts pool.shared input job.phase))
    (outside : ∀ event,
      (change pool.shared (handler.outside pool.shared event) ↔ outsides pool.shared event))
    (turn : PoolTurn ρ ι ω) :
    change pool.shared (handler.serve pool turn).shared ↔
      Handler.Guarded acts outsides pool turn := by
  cases turn with
  | receive | crash => exact iff_of_true same trivial
  | advance jobId input =>
    cases found : pool.jobs.find jobId with
    | none =>
      rw [serve_missing found]
      exact iff_of_true same fun job there => by simp [found] at there
    | some job =>
      rw [serve_advance found, guarded_advance found]
      exact act job (Table.find_eq_some.mp found).1 input
  | outside event => exact outside event

/-- Where each act and each outside change keeps a shared fact exactly under its condition, so
does each turn. -/
theorem Handler.judged {handler : Handler σ φ ρ ι ω} {fact : σ → Prop}
    {acts : σ → ι → φ → Prop} {outsides : σ → ω → Prop}
    (act : ∀ shared input phase, fact shared →
      (fact (handler.act shared input phase).1 ↔ acts shared input phase))
    (outside : ∀ shared event, fact shared →
      (fact (handler.outside shared event) ↔ outsides shared event))
    (pool : Pool σ φ) (turn : PoolTurn ρ ι ω) (holds : fact pool.shared) :
    fact (handler.serve pool turn).shared ↔ Handler.Guarded acts outsides pool turn := by
  let change (_ after : σ) : Prop := fact after
  have judged : change pool.shared (handler.serve pool turn).shared ↔
      Handler.Guarded acts outsides pool turn :=
    Handler.serve_judged holds (fun job _ input => act _ input job.phase holds)
      (fun event => outside _ event holds) turn
  exact judged

/-- Where what a job knows outlasts the steps of the others, exactly the guarded turns make of what
is shared what they may and leave every job what it knows. -/
theorem Handler.serve_answers {handler : Handler σ φ ρ ι ω} {change : σ → σ → Prop}
    {holds : σ → φ → Prop} {acts : σ → ι → φ → Prop} {outsides : σ → ω → Prop} {pool : Pool σ φ}
    (jobs : ∀ job ∈ pool.jobs, holds pool.shared job.phase)
    (same : change pool.shared pool.shared)
    (opened : ∀ request, holds pool.shared (handler.opened request))
    (crashed : holds pool.shared handler.crashed)
    (act : ∀ job ∈ pool.jobs, ∀ input,
      (change pool.shared (handler.act pool.shared input job.phase).1 ∧
          holds (handler.act pool.shared input job.phase).1
            (handler.act pool.shared input job.phase).2 ↔
        acts pool.shared input job.phase))
    (undisturbed : ∀ job ∈ pool.jobs, ∀ input, ∀ other ∈ pool.jobs,
      holds (handler.act pool.shared input job.phase).1 other.phase)
    (outside : ∀ event,
      (change pool.shared (handler.outside pool.shared event) ↔ outsides pool.shared event))
    (outlasts : ∀ event, ∀ job ∈ pool.jobs, holds (handler.outside pool.shared event) job.phase)
    (turn : PoolTurn ρ ι ω) :
    change pool.shared (handler.serve pool turn).shared ∧
        (∀ job ∈ (handler.serve pool turn).jobs,
          holds (handler.serve pool turn).shared job.phase) ↔
      Handler.Guarded acts outsides pool turn := by
  have moved (jobId : Nat) (shared : σ) (phase : φ) (mine : holds shared phase)
      (others : ∀ job ∈ pool.jobs, holds shared job.phase) :
      ∀ job ∈ moveJob pool.jobs jobId phase, holds shared job.phase := by
    intro job member
    rcases mem_moveJob member with ⟨stored, _⟩ | ⟨_, moved⟩
    · exact others job stored
    · rw [moved]
      exact mine
  cases turn with
  | receive request =>
    refine iff_of_true ⟨same, fun job member => ?_⟩ trivial
    rcases Table.mem_insert.mp member with old | rfl
    · exact jobs job old
    · exact opened request
  | advance jobId input =>
    cases found : pool.jobs.find jobId with
    | none =>
      rw [serve_missing found]
      exact iff_of_true ⟨same, jobs⟩ fun job there => by simp [found] at there
    | some job =>
      have stored : job ∈ pool.jobs := (Table.find_eq_some.mp found).1
      rw [serve_advance found, guarded_advance found, ← act job stored input]
      refine and_congr_right fun _ => ⟨fun after => ?_, fun mine => ?_⟩
      · exact after _ (Table.find_eq_some.mp (find_moveJob found)).1
      · exact moved jobId _ _ mine fun other there => undisturbed job stored input other there
  | crash jobId => exact iff_of_true ⟨same, moved jobId _ _ crashed jobs⟩ trivial
  | outside event =>
    exact (and_iff_left (outlasts event)).trans (outside event)

/-! ## What a job once read -/

/-- What a phase has read held when it read it: an act's next phase either read the present,
or carries on with what the one before it read. -/
structure Handler.Remembers (handler : Handler σ φ ρ ι ω) (past : σ → φ → Prop) : Prop where
  opened : ∀ shared request, past shared (handler.opened request)
  crashed : ∀ shared, past shared handler.crashed
  act : ∀ shared input phase,
    past shared (handler.act shared input phase).2 ∨
      ∀ earlier, past earlier phase → past earlier (handler.act shared input phase).2

/-- Each job's phase holds of some state the run has passed. -/
theorem Handler.Remembers.run {handler : Handler σ φ ρ ι ω} {past : σ → φ → Prop}
    (remembers : handler.Remembers past) {start : Pool σ φ}
    (initial : ∀ job ∈ start.jobs, past start.shared job.phase)
    (turns : List (PoolTurn ρ ι ω)) :
    ∀ job ∈ (Library.run handler.serve start turns).jobs, ∃ first, first <+: turns ∧
      past (Library.run handler.serve start first).shared job.phase := by
  induction turns using List.reverseRecOn with
  | nil => exact fun job stored => ⟨[], List.prefix_rfl, initial job stored⟩
  | append_singleton turns turn ih =>
    have longer : turns <+: turns ++ [turn] := List.prefix_append _ _
    have kept : ∀ job ∈ (Library.run handler.serve start turns).jobs, ∃ first,
        first <+: turns ++ [turn] ∧
          past (Library.run handler.serve start first).shared job.phase := by
      intro job stored
      obtain ⟨first, within, read⟩ := ih job stored
      exact ⟨first, within.trans longer, read⟩
    rw [run_append, run_cons, run_nil]
    intro job stored
    cases turn with
    | receive request =>
      rcases Table.mem_insert.mp stored with old | rfl
      · exact kept job old
      · exact ⟨turns, longer, remembers.opened _ request⟩
    | advance jobId input =>
      cases found : (Library.run handler.serve start turns).jobs.find jobId with
      | none =>
        rw [serve_missing found] at stored
        exact kept job stored
      | some mover =>
        rw [serve_advance found] at stored
        rcases mem_moveJob stored with ⟨old, _⟩ | ⟨_, moved⟩
        · exact kept job old
        · rw [moved]
          rcases remembers.act _ input mover.phase with now | carried
          · exact ⟨turns, longer, now⟩
          · obtain ⟨first, within, read⟩ := kept mover (Table.find_eq_some.mp found).1
            exact ⟨first, within, carried _ read⟩
    | crash jobId =>
      rcases mem_moveJob stored with ⟨old, _⟩ | ⟨_, moved⟩
      · exact kept job old
      · rw [moved]
        exact ⟨turns, longer, remembers.crashed _⟩
    | outside event => exact kept job stored

/-! ## Where a job comes from -/

/-- A marked phase is come to by a step of the job's own that counts: an act that leads to one is
such a step, or carries on from a marked phase, whose step of that kind lies in the past. -/
structure Handler.Traces (handler : Handler σ φ ρ ι ω) (moment : σ → Nat) (marked : φ → Prop)
    (came : σ → φ → φ → Prop) : Prop where
  opened : ∀ request, ¬ marked (handler.opened request)
  crashed : ¬ marked handler.crashed
  act : ∀ shared input phase, marked (handler.act shared input phase).2 →
    came shared phase (handler.act shared input phase).2 ∨
      marked phase ∧ ∀ earlier before, moment earlier ≤ moment shared → came earlier before phase →
        came earlier before (handler.act shared input phase).2
  passes : ∀ pool turn, moment pool.shared ≤ moment (handler.serve pool turn).shared

/-- Each job in a marked phase took a step in the run that counts for it. -/
theorem Handler.Traces.run {handler : Handler σ φ ρ ι ω} {moment : σ → Nat} {marked : φ → Prop}
    {came : σ → φ → φ → Prop} (traces : handler.Traces moment marked came) {start : Pool σ φ}
    (initial : ∀ job ∈ start.jobs, ¬ marked job.phase) (turns : List (PoolTurn ρ ι ω)) :
    ∀ job ∈ (Library.run handler.serve start turns).jobs, marked job.phase →
      ∃ first input rest before, turns = first ++ .advance job.id input :: rest ∧
        (Library.run handler.serve start first).jobs.find job.id = some before ∧
        came (Library.run handler.serve start first).shared before.phase job.phase := by
  have passed (first rest : List (PoolTurn ρ ι ω)) :
      moment (Library.run handler.serve start first).shared ≤
        moment (Library.run handler.serve start (first ++ rest)).shared := by
    rw [run_append]
    generalize Library.run handler.serve start first = reached
    have keeps (pool : Pool σ φ) (turn : PoolTurn ρ ι ω)
        (soFar : moment reached.shared ≤ moment pool.shared) :
        moment reached.shared ≤ moment (handler.serve pool turn).shared :=
      soFar.trans (traces.passes pool turn)
    exact run_invariant_always keeps rest le_rfl
  induction turns using List.reverseRecOn with
  | nil => exact fun job stored mark => absurd mark (initial job stored)
  | append_singleton turns turn ih =>
    have kept : ∀ job ∈ (Library.run handler.serve start turns).jobs, marked job.phase →
        ∃ first input rest before, turns ++ [turn] = first ++ .advance job.id input :: rest ∧
          (Library.run handler.serve start first).jobs.find job.id = some before ∧
          came (Library.run handler.serve start first).shared before.phase job.phase := by
      intro job stored mark
      obtain ⟨first, input, rest, before, cut, found, came⟩ := ih job stored mark
      exact ⟨first, input, rest ++ [turn], before, by simp [cut], found, came⟩
    rw [run_append, run_cons, run_nil]
    intro job stored mark
    cases turn with
    | receive request =>
      rcases Table.mem_insert.mp stored with old | rfl
      · exact kept job old mark
      · exact absurd mark (traces.opened request)
    | advance jobId input =>
      cases found : (Library.run handler.serve start turns).jobs.find jobId with
      | none =>
        rw [serve_missing found] at stored
        exact kept job stored mark
      | some mover =>
        rw [serve_advance found] at stored
        rcases mem_moveJob stored with ⟨old, _⟩ | ⟨same, moved⟩
        · exact kept job old mark
        · subst same
          rw [moved] at mark ⊢
          obtain ⟨there, named⟩ := Table.find_eq_some.mp found
          rcases traces.act _ input mover.phase mark with now | ⟨marked, carried⟩
          · exact ⟨turns, input, [], mover, rfl, found, now⟩
          · obtain ⟨first, earlier, rest, before, cut, was, came⟩ := ih mover there marked
            have past := passed first (.advance mover.id earlier :: rest)
            rw [← cut] at past
            have named : mover.id = job.id := named
            rw [named] at cut was
            exact ⟨first, earlier, rest ++ [.advance job.id input], before, by simp [cut], was,
              carried _ _ past came⟩
    | crash jobId =>
      rcases mem_moveJob stored with ⟨old, _⟩ | ⟨_, moved⟩
      · exact kept job old mark
      · rw [moved] at mark
        exact absurd mark traces.crashed
    | outside event => exact kept job stored mark

/-! ## Jobs a run receives -/

/-- What a job learns from its own steps, while a shared fact lasts: every job received from
then on has learnt it. -/
theorem Handler.received_run {handler : Handler σ φ ρ ι ω} {fact : σ → Prop} {knows : φ → Prop}
    (opened : ∀ request, knows (handler.opened request)) (crashed : knows handler.crashed)
    (act : ∀ shared input phase, fact shared → knows phase →
      knows (handler.act shared input phase).2) {start : Pool σ φ}
    (turns : List (PoolTurn ρ ι ω))
    (lasts : Throughout handler.serve (fun pool => fact pool.shared) start turns) :
    ∀ job ∈ (run handler.serve start turns).jobs, start.jobs.next ≤ job.id → knows job.phase := by
  induction turns using List.reverseRecOn with
  | nil => exact fun job stored received =>
      absurd (Table.key_lt_next stored) (not_lt.mpr received)
  | append_singleton turns turn ih =>
    obtain ⟨before, _⟩ := throughout_concat.mp lasts
    have kept := ih before
    have holds : fact (run handler.serve start turns).shared := before turns List.prefix_rfl
    rw [run_append, run_cons, run_nil]
    intro job stored received
    cases turn with
    | receive request =>
      rcases Table.mem_insert.mp stored with old | rfl
      · exact kept job old received
      · exact opened request
    | advance jobId input =>
      cases found : (run handler.serve start turns).jobs.find jobId with
      | none =>
        rw [serve_missing found] at stored
        exact kept job stored received
      | some mover =>
        rw [serve_advance found] at stored
        rcases mem_moveJob stored with ⟨old, _⟩ | ⟨same, moved⟩
        · exact kept job old received
        · obtain ⟨there, named⟩ := Table.find_eq_some.mp found
          have mine : mover.id = job.id := named.trans same.symm
          rw [moved]
          exact act _ input _ holds (kept mover there (mine ▸ received))
    | crash jobId =>
      rcases mem_moveJob stored with ⟨old, _⟩ | ⟨_, moved⟩
      · exact kept job old received
      · rw [moved]
        exact crashed
    | outside event => exact kept job stored received

/-- What a phase knows of the states passed is kept as they become more, and each act adds to it
what it reads of its own. -/
structure Handler.Recollects (handler : Handler σ φ ρ ι ω) (knows : (σ → Prop) → φ → Prop) :
    Prop where
  mono : ∀ (passed more : σ → Prop) phase, (∀ shared, passed shared → more shared) →
    knows passed phase → knows more phase
  opened : ∀ passed request, knows passed (handler.opened request)
  crashed : ∀ passed, knows passed handler.crashed
  act : ∀ (passed : σ → Prop) shared input phase, passed shared → knows passed phase →
    knows passed (handler.act shared input phase).2

/-- What was shared in some state the run passes. -/
def Passed (handler : Handler σ φ ρ ι ω) (start : Pool σ φ) (turns : List (PoolTurn ρ ι ω))
    (shared : σ) : Prop :=
  ∃ first, first <+: turns ∧ (Library.run handler.serve start first).shared = shared

/-- A job that a run receives knows of the states the run passes, and of no earlier one. -/
theorem Handler.Recollects.run {handler : Handler σ φ ρ ι ω} {knows : (σ → Prop) → φ → Prop}
    (recollects : handler.Recollects knows) (start : Pool σ φ) (turns : List (PoolTurn ρ ι ω)) :
    ∀ job ∈ (Library.run handler.serve start turns).jobs, start.jobs.next ≤ job.id →
      knows (Passed handler start turns) job.phase := by
  induction turns using List.reverseRecOn with
  | nil => exact fun job stored received =>
      absurd (Table.key_lt_next stored) (not_lt.mpr received)
  | append_singleton turns turn ih =>
    have longer (shared : σ) (passed : Passed handler start turns shared) :
        Passed handler start (turns ++ [turn]) shared := by
      obtain ⟨first, within, reached⟩ := passed
      exact ⟨first, within.trans (List.prefix_append _ _), reached⟩
    have here : Passed handler start (turns ++ [turn])
        (Library.run handler.serve start turns).shared :=
      ⟨turns, List.prefix_append _ _, rfl⟩
    have kept : ∀ job ∈ (Library.run handler.serve start turns).jobs, start.jobs.next ≤ job.id →
        knows (Passed handler start (turns ++ [turn])) job.phase :=
      fun job stored received => recollects.mono _ _ _ longer (ih job stored received)
    rw [run_append, run_cons, run_nil]
    intro job stored received
    cases turn with
    | receive request =>
      rcases Table.mem_insert.mp stored with old | rfl
      · exact kept job old received
      · exact recollects.opened _ request
    | advance jobId input =>
      cases found : (Library.run handler.serve start turns).jobs.find jobId with
      | none =>
        rw [serve_missing found] at stored
        exact kept job stored received
      | some mover =>
        rw [serve_advance found] at stored
        rcases mem_moveJob stored with ⟨old, _⟩ | ⟨same, moved⟩
        · exact kept job old received
        · obtain ⟨there, named⟩ := Table.find_eq_some.mp found
          have mine : mover.id = job.id := named.trans same.symm
          rw [moved]
          exact recollects.act _ _ input _ here (kept mover there (mine ▸ received))
    | crash jobId =>
      rcases mem_moveJob stored with ⟨old, _⟩ | ⟨_, moved⟩
      · exact kept job old received
      · rw [moved]
        exact recollects.crashed _
    | outside event => exact kept job stored received

/-! ## One job -/

section OneJob

variable {handler : Handler σ φ ρ ι ω}

/-- What a job's own steps and a crash keep of its phase, every run keeps of it. -/
theorem Handler.phase_run {knows : φ → Prop} (crashed : knows handler.crashed)
    (act : ∀ shared input phase, knows phase → knows (handler.act shared input phase).2)
    {jobId : Nat} {start : Pool σ φ} (turns : List (PoolTurn ρ ι ω))
    (known : ∃ job, start.jobs.find jobId = some job ∧ knows job.phase) :
    ∃ job, (run handler.serve start turns).jobs.find jobId = some job ∧ knows job.phase := by
  have keeps (pool : Pool σ φ) (turn : PoolTurn ρ ι ω)
      (known : ∃ job, pool.jobs.find jobId = some job ∧ knows job.phase) :
      ∃ job, (handler.serve pool turn).jobs.find jobId = some job ∧ knows job.phase := by
    obtain ⟨job, found, knew⟩ := known
    have moved (other : Nat) (phase : φ) (mine : other = jobId → knows phase) :
        ∃ job, (moveJob pool.jobs other phase).find jobId = some job ∧ knows job.phase := by
      by_cases same : other = jobId
      · subst same
        exact ⟨_, find_moveJob found, mine rfl⟩
      · exact ⟨job, (find_moveJob_of_ne (Ne.symm same)).trans found, knew⟩
    cases turn with
    | receive request => exact ⟨job, Table.find_insert_of_found found, knew⟩
    | advance other input =>
      cases acting : pool.jobs.find other with
      | none =>
        rw [serve_missing acting]
        exact ⟨job, found, knew⟩
      | some mover =>
        rw [serve_advance acting]
        refine moved other _ fun same => ?_
        subst same
        cases found.symm.trans acting
        exact act _ _ _ knew
    | crash other => exact moved other _ fun _ => crashed
    | outside event => exact ⟨job, found, knew⟩
  exact run_invariant_always keeps turns known

/-- A job's steps, one after another and nothing between them. -/
def Handler.drive (handler : Handler σ φ ρ ι ω) (shared : σ) (phase : φ) (inputs : List ι) :
    σ × φ :=
  inputs.foldl (fun acted input => handler.act acted.1 input acted.2) (shared, phase)

/-- A job that runs alone takes the pool where its own steps take it. -/
theorem Handler.run_alone (handler : Handler σ φ ρ ι ω) {jobId : Nat} {job : Job φ}
    {pool : Pool σ φ} (found : pool.jobs.find jobId = some job) (inputs : List ι) :
    (run handler.serve pool (inputs.map (.advance jobId))).shared =
        (handler.drive pool.shared job.phase inputs).1 ∧
      (run handler.serve pool (inputs.map (.advance jobId))).jobs.find jobId =
        some { job with phase := (handler.drive pool.shared job.phase inputs).2 } ∧
      (run handler.serve pool (inputs.map (.advance jobId))).jobs.next = pool.jobs.next := by
  induction inputs generalizing pool job with
  | nil => exact ⟨rfl, found, rfl⟩
  | cons input rest ih =>
    let acted := handler.act pool.shared input job.phase
    let moved : Pool σ φ := { shared := acted.1, jobs := moveJob pool.jobs jobId acted.2 }
    have there : moved.jobs.find jobId = some { job with phase := acted.2 } := find_moveJob found
    obtain ⟨shared, still, next⟩ := ih there
    rw [List.map_cons, run_cons, serve_advance found]
    exact ⟨shared, still, next.trans next_moveJob⟩

end OneJob

end EventaApi.Library
