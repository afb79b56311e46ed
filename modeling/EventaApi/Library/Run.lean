import Mathlib.Data.List.Basic

/-!
# Runs

A machine takes one step for each input. A run takes a list of inputs from a
start state; `Meets` says that every step of it meets a condition on the state
it is taken in. What a step preserves under the condition, a run whose steps
all meet it preserves, and every state on the way is the end of a shorter run.
-/
namespace EventaApi.Library

variable {σ ι : Type} (step : σ → ι → σ)

def run (start : σ) (inputs : List ι) : σ := inputs.foldl step start

/-- Every step of the run meets the condition in the state it is taken in. -/
def Meets (condition : σ → ι → Prop) : σ → List ι → Prop
  | _, [] => True
  | state, input :: rest => condition state input ∧ Meets condition (step state input) rest

variable {step}

@[simp] theorem run_nil (start : σ) : run step start [] = start := rfl

@[simp] theorem run_cons (start : σ) (input : ι) (rest : List ι) :
    run step start (input :: rest) = run step (step start input) rest := rfl

@[simp] theorem meets_nil {condition : σ → ι → Prop} (start : σ) :
    Meets step condition start [] := trivial

@[simp] theorem meets_cons {condition : σ → ι → Prop} {start : σ} {input : ι} {rest : List ι} :
    Meets step condition start (input :: rest) ↔
      condition start input ∧ Meets step condition (step start input) rest := Iff.rfl

instance Meets.decidable {condition : σ → ι → Prop}
    [∀ state input, Decidable (condition state input)] :
    (start : σ) → (inputs : List ι) → Decidable (Meets step condition start inputs)
  | _, [] => isTrue trivial
  | start, input :: rest =>
    have : Decidable (Meets step condition (step start input) rest) :=
      Meets.decidable (step start input) rest
    inferInstanceAs (Decidable (_ ∧ _))

theorem run_append (start : σ) (first second : List ι) :
    run step start (first ++ second) = run step (run step start first) second :=
  List.foldl_append

theorem meets_append {condition : σ → ι → Prop} {start : σ} {first second : List ι} :
    Meets step condition start (first ++ second) ↔
      Meets step condition start first ∧
        Meets step condition (run step start first) second := by
  induction first generalizing start with
  | nil => simp
  | cons input rest ih => simp [ih, and_assoc]

/-- A run with no condition on its steps meets the trivial one. -/
theorem meets_true (start : σ) (inputs : List ι) :
    Meets step (fun _ _ => True) start inputs := by
  induction inputs generalizing start with
  | nil => trivial
  | cons input rest ih => exact ⟨trivial, ih _⟩

/-- A condition each step meets wherever the run is cut. -/
theorem meets_of_cuts {condition : σ → ι → Prop} {start : σ} {inputs : List ι}
    (each : ∀ first input rest, inputs = first ++ input :: rest →
      condition (run step start first) input) : Meets step condition start inputs := by
  induction inputs generalizing start with
  | nil => trivial
  | cons input rest ih =>
    refine ⟨each [] input rest rfl, ih fun first later last cut => ?_⟩
    exact each (input :: first) later last (congrArg (input :: ·) cut)

theorem Meets.mono {strong weak : σ → ι → Prop} (imp : ∀ state input,
    strong state input → weak state input) {start : σ} {inputs : List ι}
    (meets : Meets step strong start inputs) : Meets step weak start inputs := by
  induction inputs generalizing start with
  | nil => trivial
  | cons input rest ih => exact ⟨imp _ _ meets.1, ih meets.2⟩

theorem Meets.and {first second : σ → ι → Prop} {start : σ} {inputs : List ι}
    (left : Meets step first start inputs) (right : Meets step second start inputs) :
    Meets step (fun state input => first state input ∧ second state input) start inputs := by
  induction inputs generalizing start with
  | nil => trivial
  | cons input rest ih => exact ⟨⟨left.1, right.1⟩, ih left.2 right.2⟩

/-- The run rule: what every step preserves under the condition holds at the end. -/
theorem run_invariant {invariant : σ → Prop} {condition : σ → ι → Prop}
    (preserves : ∀ state input, invariant state → condition state input →
      invariant (step state input))
    {start : σ} {inputs : List ι} (initial : invariant start)
    (meets : Meets step condition start inputs) : invariant (run step start inputs) := by
  induction inputs generalizing start with
  | nil => exact initial
  | cons input rest ih => exact ih (preserves _ _ initial meets.1) meets.2

/-- What a step does where the invariant and the condition hold, every step of the run does. -/
theorem Meets.of_invariant {invariant : σ → Prop} {condition conclusion : σ → ι → Prop}
    (preserves : ∀ state input, invariant state → condition state input →
      invariant (step state input))
    (concludes : ∀ state input, invariant state → condition state input → conclusion state input)
    {start : σ} {inputs : List ι} (initial : invariant start)
    (meets : Meets step condition start inputs) : Meets step conclusion start inputs := by
  induction inputs generalizing start with
  | nil => trivial
  | cons input rest ih =>
    exact ⟨concludes _ _ initial meets.1, ih (preserves _ _ initial meets.1) meets.2⟩

/-- Two conditions that are one wherever the invariant holds are met by the same runs. -/
theorem meets_iff_of_invariant {invariant : σ → Prop} {first second : σ → ι → Prop}
    (preserves : ∀ state input, invariant state → invariant (step state input))
    (same : ∀ state input, invariant state → (first state input ↔ second state input))
    {start : σ} (initial : invariant start) (inputs : List ι) :
    Meets step first start inputs ↔ Meets step second start inputs := by
  induction inputs generalizing start with
  | nil => exact Iff.rfl
  | cons input rest ih =>
    rw [meets_cons, meets_cons, same start input initial, ih (preserves start input initial)]

/-- The run rule for machines whose every step preserves the invariant. -/
theorem run_invariant_always {invariant : σ → Prop}
    (preserves : ∀ state input, invariant state → invariant (step state input))
    {start : σ} (inputs : List ι) (initial : invariant start) :
    invariant (run step start inputs) :=
  run_invariant (fun _ _ holds _ => preserves _ _ holds) initial (meets_true start inputs)

/-- The fact holds in every state the run passes. -/
def Throughout (step : σ → ι → σ) (fact : σ → Prop) (start : σ) (inputs : List ι) : Prop :=
  ∀ first, first <+: inputs → fact (run step start first)

theorem throughout_of_always {fact : σ → Prop}
    (preserves : ∀ state input, fact state → fact (step state input)) {start : σ}
    (initial : fact start) (inputs : List ι) : Throughout step fact start inputs :=
  fun first _ => run_invariant_always preserves first initial

/-- A run passes the states of its start, and the one its last step reaches. -/
theorem throughout_concat {fact : σ → Prop} {start : σ} {inputs : List ι} {last : ι} :
    Throughout step fact start (inputs ++ [last]) ↔
      Throughout step fact start inputs ∧ fact (run step start (inputs ++ [last])) := by
  constructor
  · intro holds
    refine ⟨fun first within => holds first ?_, holds _ List.prefix_rfl⟩
    exact within.trans (List.prefix_append _ _)
  · rintro ⟨before, final⟩ first within
    rcases List.prefix_concat_iff.mp within with rfl | shorter
    · exact final
    · exact before first shorter

/-- A fact that holds throughout holds before and after each step. -/
theorem Throughout.meets {fact : σ → Prop} {start : σ} {inputs : List ι}
    (holds : Throughout step fact start inputs) :
    Meets step (fun state input => fact state ∧ fact (step state input)) start inputs := by
  induction inputs generalizing start with
  | nil => trivial
  | cons input rest ih =>
    refine ⟨⟨holds [] (by simp), holds [input] (by simp)⟩, ih fun first within => ?_⟩
    exact holds (input :: first) (List.cons_prefix_cons.mpr ⟨rfl, within⟩)

/-- What every step keeps under the condition holds throughout a run that meets it. -/
theorem Meets.throughout {invariant fact : σ → Prop} {condition : σ → ι → Prop}
    (preserves : ∀ state input, invariant state → condition state input →
      invariant (step state input))
    (concludes : ∀ state, invariant state → fact state) {start : σ} {inputs : List ι}
    (initial : invariant start) (meets : Meets step condition start inputs) :
    Throughout step fact start inputs := by
  rintro first ⟨rest, rfl⟩
  exact concludes _ (run_invariant preserves initial (meets_append.mp meets).1)

/-- Where the condition says exactly which steps do as is asked and keep the fact, it says exactly
which runs do; an invariant of every step may help to say so. -/
theorem meets_throughout_iff {invariant fact : σ → Prop} {asked condition : σ → ι → Prop}
    (preserves : ∀ state input, invariant state → invariant (step state input))
    (judged : ∀ state input, invariant state → fact state →
      (asked state input ∧ fact (step state input) ↔ condition state input))
    {start : σ} (sound : invariant start) (initial : fact start) (inputs : List ι) :
    Meets step asked start inputs ∧ Throughout step fact start inputs ↔
      Meets step condition start inputs := by
  constructor
  · rintro ⟨met, holds⟩
    induction inputs generalizing start with
    | nil => trivial
    | cons input rest ih =>
      have next : fact (step start input) := holds [input] (by simp)
      refine ⟨(judged start input sound initial).mp ⟨met.1, next⟩,
        ih (preserves _ _ sound) next met.2 fun first within => ?_⟩
      exact holds (input :: first) (List.cons_prefix_cons.mpr ⟨rfl, within⟩)
  · intro meets
    have keeps : ∀ state input, invariant state ∧ fact state → condition state input →
        invariant (step state input) ∧ fact (step state input) :=
      fun state input holds met =>
        ⟨preserves _ _ holds.1, ((judged state input holds.1 holds.2).mpr met).2⟩
    refine ⟨meets.of_invariant keeps (fun state input holds met => ?_) ⟨sound, initial⟩,
      meets.throughout keeps (fun _ holds => holds.2) ⟨sound, initial⟩⟩
    exact ((judged state input holds.1 holds.2).mpr met).1

theorem throughout_iff_meets_within {invariant fact : σ → Prop} {condition : σ → ι → Prop}
    (preserves : ∀ state input, invariant state → invariant (step state input))
    (judged : ∀ state input, invariant state → fact state →
      (fact (step state input) ↔ condition state input))
    {start : σ} (sound : invariant start) (initial : fact start) (inputs : List ι) :
    Throughout step fact start inputs ↔ Meets step condition start inputs := by
  have asked : Meets step (fun _ _ => True) start inputs ∧ Throughout step fact start inputs ↔
      Meets step condition start inputs :=
    meets_throughout_iff preserves (fun state input holds before =>
      (Iff.of_eq (true_and _)).trans (judged state input holds before)) sound initial inputs
  exact (and_iff_right (meets_true start inputs)).symm.trans asked

theorem throughout_iff_meets {fact : σ → Prop} {condition : σ → ι → Prop}
    (judged : ∀ state input, fact state → (fact (step state input) ↔ condition state input))
    {start : σ} (initial : fact start) (inputs : List ι) :
    Throughout step fact start inputs ↔ Meets step condition start inputs :=
  throughout_iff_meets_within (fun _ _ holds => holds : ∀ (_ : σ) (_ : ι), True → True)
    (fun state input _ => judged state input) trivial initial inputs

/-- What becomes true in a run becomes true in one of its steps. -/
theorem exists_step_of_run {fact : σ → Prop} {start : σ} {inputs : List ι} (before : ¬ fact start)
    (after : fact (run step start inputs)) :
    ∃ first input rest, inputs = first ++ input :: rest ∧ ¬ fact (run step start first) ∧
      fact (step (run step start first) input) := by
  induction inputs generalizing start with
  | nil => exact absurd after before
  | cons input rest ih =>
    by_cases here : fact (step start input)
    · exact ⟨[], input, rest, rfl, before, here⟩
    · obtain ⟨first, next, later, rfl, still, reached⟩ := ih here after
      exact ⟨input :: first, next, later, rfl, still, reached⟩

/-- From a step of the first kind on, no step of the run is of the second. -/
def NeverAfter (step : σ → ι → σ) (event forbidden : σ → ι → Prop) (start : σ)
    (inputs : List ι) : Prop :=
  ∀ first input rest, inputs = first ++ input :: rest → event (run step start first) input →
    Meets step (fun state later => ¬ forbidden state later)
      (step (run step start first) input) rest

/-- What the first kind of step brings about, and every step keeps, keeps out the second. -/
theorem Meets.neverAfter {invariant spent : σ → Prop} {condition event forbidden : σ → ι → Prop}
    (preserves : ∀ state input, invariant state → condition state input →
      invariant (step state input))
    (begins : ∀ state input, invariant state → event state input → spent (step state input))
    (lasts : ∀ state input, invariant state → spent state → spent (step state input))
    (excludes : ∀ state input, invariant state → spent state → condition state input →
      ¬ forbidden state input)
    {start : σ} {inputs : List ι} (initial : invariant start)
    (meets : Meets step condition start inputs) : NeverAfter step event forbidden start inputs := by
  rintro first input rest rfl happens
  obtain ⟨before, here, after⟩ := meets_append.mp meets
  have holds : invariant (run step start first) := run_invariant preserves initial before
  have keeps : ∀ state later, invariant state ∧ spent state → condition state later →
      invariant (step state later) ∧ spent (step state later) :=
    fun state later sound meets => ⟨preserves _ _ sound.1 meets, lasts _ _ sound.1 sound.2⟩
  exact after.of_invariant keeps (fun state later sound meets => excludes _ _ sound.1 sound.2 meets)
    ⟨preserves _ _ holds here, begins _ _ holds happens⟩

/-- From a step of this kind on, the fact holds in every state of the run. -/
def EverAfter (step : σ → ι → σ) (event : σ → ι → Prop) (fact : σ → Prop) (start : σ)
    (inputs : List ι) : Prop :=
  ∀ first input rest, inputs = first ++ input :: rest → event (run step start first) input →
    Throughout step fact (step (run step start first) input) rest

/-- What such a step brings about, and every step keeps under the condition, holds ever after. -/
theorem Meets.everAfter {brought fact : σ → Prop} {condition event : σ → ι → Prop}
    (begins : ∀ state input, event state input → brought (step state input))
    (lasts : ∀ state input, brought state → condition state input → brought (step state input))
    (concludes : ∀ state, brought state → fact state) {start : σ} {inputs : List ι}
    (meets : Meets step condition start inputs) : EverAfter step event fact start inputs := by
  rintro first input rest rfl happens
  obtain ⟨_, _, after⟩ := meets_append.mp meets
  exact after.throughout lasts concludes (begins _ _ happens)

end EventaApi.Library
