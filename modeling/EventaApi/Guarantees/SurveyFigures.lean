import Mathlib.Tactic.IntervalCases
import EventaApi.Source.Surveys

/-!
# Survey figures

A figure reads one column of the answers and does not ask which question filled it. It counts
people all the same: what is accepted fills the column of its own question and no other, each
question of a survey once, and each person has one response to a survey, however many of their
submissions run at once.
-/
namespace EventaApi.Guarantees
open Library Source

abbrev SurveyPool := Pool SurveyDesk SubmitPhase

abbrev SurveyTurn := PoolTurn SubmitRequest SubmitAnswers SurveyWorld

/-! ## What is asked of figures -/

/-- The answer has a value in the column of this kind of question. -/
def Fills (answer : SurveyAnswer) : SurveyQuestionType → Prop
  | .rating => answer.rating.isSome = true
  | .text => answer.answerText.isSome = true
  | .choice => answer.choice.isSome = true
  | .nps => answer.score.isSome = true

instance (answer : SurveyAnswer) : DecidablePred (Fills answer)
  | .rating | .text | .choice | .nps => inferInstanceAs (Decidable (_ = true))

/-- How many values a response puts into the figure of a kind by its answers to a question. -/
def contributed (desk : SurveyDesk) (response : SurveyResponse) (question : SurveyQuestion)
    (type : SurveyQuestionType) : Nat :=
  (desk.answers.select fun answer => answer.responseId = response.id ∧
    answer.questionId = question.id ∧ Fills answer type).length

/-- The answer's values are such as its question's figure takes. -/
structure WithinRange (question : SurveyQuestion) (answer : SurveyAnswer) : Prop where
  stars : ∀ rating ∈ answer.rating, MIN_RATING ≤ rating ∧ rating ≤ MAX_RATING
  scores : ∀ score ∈ answer.score, MIN_NPS_SCORE ≤ score ∧ score ≤ MAX_NPS_SCORE
  options : ∀ choice ∈ answer.choice, choice ∈ question.options

/-- Every value in a figure is a response's only one to a question of its survey, and a response
has one for every question that wants one. -/
structure CountsAnswers (desk : SurveyDesk) : Prop where
  asked : ∀ answer ∈ desk.answers, ∃ response ∈ desk.responses, ∃ question ∈ desk.questions,
    answer.responseId = response.id ∧ answer.questionId = question.id ∧
      question.surveyId = response.surveyId ∧ WithinRange question answer
  own : ∀ response ∈ desk.responses, ∀ question ∈ desk.questions,
    question.surveyId = response.surveyId →
      contributed desk response question question.type ≤ 1 ∧
        (question.type ≠ .text → contributed desk response question question.type = 1) ∧
        ∀ type, type ≠ question.type → contributed desk response question type = 0

/-- Nobody has two responses to a survey, and the figure of responses counts people. -/
structure CountsPeople (desk : SurveyDesk) : Prop where
  once : ∀ response ∈ desk.responses, ∀ other ∈ desk.responses,
    response.surveyId = other.surveyId → response.userId = other.userId → response = other
  people : ∀ scope, (feedback desk scope).responses =
    ((desk.responses.select (InScope scope)).map fun response =>
      (response.surveyId, response.userId)).dedup.length

/-- Each accepted submission has a response of its own. -/
structure CountsSubmissions (pool : SurveyPool) : Prop where
  stored : ∀ job ∈ pool.jobs, ∀ response, job.phase = .done (.submitted response) →
    response ∈ pool.shared.responses
  own : ∀ job ∈ pool.jobs, ∀ other ∈ pool.jobs, ∀ response,
    job.phase = .done (.submitted response) → other.phase = .done (.submitted response) →
      job = other

/-- The stars add up to the star ratings, their average is one to five, the three groups of
scores are all of them, and the NPS is from -100 to 100 and changes sign where promoters and
detractors change places. -/
structure AddUp (ratings scores : List Int) : Prop where
  stars : ((summarise ratings).distribution.map Prod.snd).sum = ratings.length
  average : ∀ average ∈ (summarise ratings).average, 1 ≤ average ∧ average ≤ 5
  passives : (summariseNps scores).passives =
    (scores.filter fun score => DETRACTOR_UP_TO < score ∧ score < PROMOTER_FROM).length
  groups : (summariseNps scores).promoters + (summariseNps scores).passives +
    (summariseNps scores).detractors = scores.length
  score : ∀ score ∈ (summariseNps scores).score, -100 ≤ score ∧ score ≤ 100
  exchanged : ∀ others : List Int, others.length = scores.length →
    (summariseNps others).promoters = (summariseNps scores).detractors →
    (summariseNps others).detractors = (summariseNps scores).promoters →
      (summariseNps others).score = (summariseNps scores).score.map fun score => -score

/-- Every figure, over any event or survey, counts people. -/
structure FiguresHold (pool : SurveyPool) : Prop where
  submissions : CountsSubmissions pool
  people : CountsPeople pool.shared
  answers : CountsAnswers pool.shared
  figures : ∀ scope, AddUp (ratingsFor pool.shared scope) (npsScoresFor pool.shared scope)

/-- Nobody has asked for anything or answered anything yet. -/
def NothingAnswered (pool : SurveyPool) : Prop :=
  pool.jobs.rows = [] ∧ pool.shared.responses.rows = [] ∧ pool.shared.answers.rows = []

/-! ## Adding up -/

section Arithmetic

variable {ratings scores : List Int}

theorem sum_distribution (stars : ∀ rating ∈ ratings, 1 ≤ rating ∧ rating ≤ 5) :
    ((summarise ratings).distribution.map Prod.snd).sum = ratings.length := by
  simp only [summarise, STARS, List.map_cons, List.map_nil, List.sum_cons, List.sum_nil]
  induction ratings with
  | nil => rfl
  | cons rating rest ih =>
    have tail := ih fun other member => stars other (List.mem_cons_of_mem _ member)
    obtain ⟨low, high⟩ := stars rating List.mem_cons_self
    simp only [List.count_cons, List.length_cons]
    interval_cases rating <;> simp at tail ⊢ <;> omega

/-- The mean of stars is one to five, before it is rounded and after. -/
theorem average_bounds (stars : ∀ rating ∈ ratings, 1 ≤ rating ∧ rating ≤ 5) {average : ℚ}
    (averaged : (summarise ratings).average = some average) : 1 ≤ average ∧ average ≤ 5 := by
  unfold summarise at averaged
  dsimp only at averaged
  split at averaged
  · cases averaged
  · next some =>
    cases averaged
    have rated : (0 : ℚ) < ratings.length := by
      exact_mod_cast List.length_pos_of_ne_nil some
    have least : (ratings.length : ℚ) ≤ ratings.sum := by
      have := List.card_nsmul_le_sum ratings 1 fun rating member => (stars rating member).1
      simp only [nsmul_eq_mul, mul_one] at this
      exact_mod_cast this
    have most : (ratings.sum : ℚ) ≤ ratings.length * 5 := by
      have := List.sum_le_card_nsmul ratings 5 fun rating member => (stars rating member).2
      simp only [nsmul_eq_mul] at this
      exact_mod_cast this
    have one : 1 ≤ (ratings.sum : ℚ) / ratings.length := (one_le_div rated).mpr least
    have five : (ratings.sum : ℚ) / ratings.length ≤ 5 := by
      rw [div_le_iff₀ rated, mul_comm]
      exact most
    generalize (ratings.sum : ℚ) / ratings.length = mean at one five ⊢
    have low : 10 ≤ roundHalfUp (mean * PRECISION) := by
      refine le_roundHalfUp ?_
      simp only [PRECISION]
      push_cast
      linarith
    have high : roundHalfUp (mean * PRECISION) ≤ 50 := by
      refine roundHalfUp_le ?_
      simp only [PRECISION]
      push_cast
      linarith
    have lowQ : (10 : ℚ) ≤ (roundHalfUp (mean * PRECISION) : ℚ) := by
      exact_mod_cast low
    have highQ : (roundHalfUp (mean * PRECISION) : ℚ) ≤ 50 := by
      exact_mod_cast high
    constructor
    · rw [PRECISION, le_div_iff₀ (by norm_num)]
      simpa [PRECISION] using lowQ
    · rw [PRECISION, div_le_iff₀ (by norm_num)]
      simpa [PRECISION] using highQ.trans (by norm_num)

/-- Nobody is both a promoter and a detractor, and the passives are those who are neither. -/
theorem passives_eq : (summariseNps scores).passives =
    (scores.filter fun score => DETRACTOR_UP_TO < score ∧ score < PROMOTER_FROM).length := by
  simp only [summariseNps]
  induction scores with
  | nil => rfl
  | cons score rest ih =>
    rcases le_or_gt PROMOTER_FROM score with promoter | below
    · have above : ¬ score ≤ DETRACTOR_UP_TO := by
        unfold PROMOTER_FROM at promoter
        unfold DETRACTOR_UP_TO
        omega
      simp [promoter, promoter.not_gt, above] at ih ⊢
      omega
    · rcases le_or_gt score DETRACTOR_UP_TO with detractor | above
      · simp [detractor, detractor.not_gt, below.not_ge] at ih ⊢
        omega
      · simp [above, above.not_ge, below, below.not_ge] at ih ⊢
        omega

/-- No more answers are promoters and detractors together than there are. -/
theorem groups_le :
    (summariseNps scores).promoters + (summariseNps scores).detractors ≤ scores.length := by
  have rest : (summariseNps scores).passives =
      (scores.length : Int) - (summariseNps scores).promoters -
        (summariseNps scores).detractors := rfl
  have counted : (summariseNps scores).passives = _ := passives_eq
  omega

/-- The score, of the numbers of answers alone. -/
theorem score_eq : (summariseNps scores).score =
    if scores = [] then none
    else some (wholePoints (100 * (((summariseNps scores).promoters : ℚ) -
      (summariseNps scores).detractors) / scores.length)) := rfl

theorem score_bounds {score : Int} (scored : (summariseNps scores).score = some score) :
    -100 ≤ score ∧ score ≤ 100 := by
  rw [score_eq] at scored
  split at scored
  · cases scored
  · next some =>
    cases scored
    have answered : (0 : ℚ) < scores.length := by
      exact_mod_cast List.length_pos_of_ne_nil some
    have within : ((summariseNps scores).promoters : ℚ) + (summariseNps scores).detractors ≤
        scores.length := by
      exact_mod_cast groups_le
    have promoters : (0 : ℚ) ≤ (summariseNps scores).promoters := Nat.cast_nonneg _
    have detractors : (0 : ℚ) ≤ (summariseNps scores).detractors := Nat.cast_nonneg _
    rw [← abs_le]
    refine abs_roundHalfAway_le ?_
    rw [abs_le]
    push_cast
    constructor
    · rw [le_div_iff₀ answered]
      linarith
    · rw [div_le_iff₀ answered]
      linarith

/-- Promoters and detractors that change places change the sign of the score. -/
theorem score_exchanged {others : List Int} (length : others.length = scores.length)
    (promoters : (summariseNps others).promoters = (summariseNps scores).detractors)
    (detractors : (summariseNps others).detractors = (summariseNps scores).promoters) :
    (summariseNps others).score = (summariseNps scores).score.map fun score => -score := by
  rw [score_eq, score_eq, promoters, detractors, length]
  by_cases empty : scores = []
  · have none : others = [] := List.length_eq_zero_iff.mp (length.trans (by rw [empty]; rfl))
    rw [if_pos empty, if_pos none]
    rfl
  · have some : others ≠ [] := by
      rintro rfl
      exact empty (List.length_eq_zero_iff.mp length.symm)
    rw [if_neg empty, if_neg some, Option.map_some, wholePoints, wholePoints, ← roundHalfAway_neg]
    congr 2
    ring

theorem addUp_of_stars (stars : ∀ rating ∈ ratings, 1 ≤ rating ∧ rating ≤ 5) :
    AddUp ratings scores where
  stars := sum_distribution stars
  average := fun _ averaged => average_bounds stars averaged
  passives := passives_eq
  groups := by
    simp only [summariseNps]
    omega
  score := fun _ scored => score_bounds scored
  exchanged := fun _ length promoters detractors => score_exchanged length promoters detractors

end Arithmetic

/-! ## What is accepted -/

section Accepted

variable {questions : List SurveyQuestion} {answers : List SubmittedAnswer}

theorem any_isOnScale {value : Option Int} {min max : Int}
    (onScale : isOnScale value min max = true) :
    ∃ number, value = some number ∧ min ≤ number ∧ number ≤ max := by
  cases value with
  | none => cases onScale
  | some number => exact ⟨number, rfl, of_decide_eq_true onScale⟩

/-- An answer in the form its question wants fills that question's column, unless it is text,
and no other. -/
structure InItsColumn (question : SurveyQuestion) (answer : SurveyAnswer) : Prop where
  only : ∀ type, Fills answer type → type = question.type
  fills : question.type ≠ .text → Fills answer question.type
  range : WithinRange question answer

/-- An answer that fills no field but its question's. -/
theorem hasStray_eq_false {type : SurveyQuestionType} {answer : SubmittedAnswer}
    (clean : ¬ hasStray type answer = true) :
    (type ≠ .rating → answer.rating = none) ∧ (type ≠ .text → answer.answerText = none) ∧
      (type ≠ .choice → answer.choice = none) ∧ (type ≠ .nps → answer.score = none) := by
  simpa [hasStray, not_or, and_assoc] using clean

theorem fills_only {type kind : SurveyQuestionType} {answer : SubmittedAnswer} {responseId id : Nat}
    (clean : ¬ hasStray type answer = true)
    (fills : Fills (insertedAnswer responseId answer id) kind) : kind = type := by
  obtain ⟨rating, text, choice, score⟩ := hasStray_eq_false clean
  by_contra other
  cases kind with
  | rating => simp [Fills, rating (Ne.symm other)] at fills
  | text => simp [Fills, text (Ne.symm other)] at fills
  | choice => simp [Fills, choice (Ne.symm other)] at fills
  | nps => simp [Fills, score (Ne.symm other)] at fills

theorem assertShape_inItsColumn {question : SurveyQuestion} {answer : SubmittedAnswer}
    (ok : assertShape question answer = .ok ()) (responseId id : Nat) :
    InItsColumn question (insertedAnswer responseId answer id) := by
  unfold assertShape at ok
  split at ok
  · cases ok
  · next clean =>
    obtain ⟨rating, text, choice, score⟩ := hasStray_eq_false clean
    cases type : question.type with
    | rating =>
      simp only [type, ne_eq, reduceCtorEq, not_false_eq_true, forall_const] at ok choice score
      split at ok
      · next onScale =>
        obtain ⟨stars, filled, range⟩ := any_isOnScale onScale
        refine ⟨fun _ fills => fills_only clean fills, fun _ => ?_, ?_, ?_, ?_⟩
        · simp [type, Fills, filled]
        · simpa [filled] using range
        · simp [score]
        · simp [choice]
      · cases ok
    | nps =>
      simp only [type, ne_eq, reduceCtorEq, not_false_eq_true, forall_const] at ok rating choice
      split at ok
      · next onScale =>
        obtain ⟨points, filled, range⟩ := any_isOnScale onScale
        refine ⟨fun _ fills => fills_only clean fills, fun _ => ?_, ?_, ?_, ?_⟩
        · simp [type, Fills, filled]
        · simp [rating]
        · simpa [filled] using range
        · simp [choice]
      · cases ok
    | choice =>
      simp only [type, ne_eq, reduceCtorEq, not_false_eq_true, forall_const] at ok rating score
      split at ok
      · next offered =>
        obtain ⟨option, filled, _, among⟩ : ∃ option, answer.choice = some option ∧ option ≠ "" ∧
            option ∈ question.options := by
          simpa [Option.any_eq_true] using offered
        refine ⟨fun _ fills => fills_only clean fills, fun _ => ?_, ?_, ?_, ?_⟩
        · simp [type, Fills, filled]
        · simp [rating]
        · simp [score]
        · simpa [filled] using among
      · cases ok
    | text =>
      simp only [type, ne_eq, reduceCtorEq, not_false_eq_true, forall_const] at rating choice score
      refine ⟨fun _ fills => fills_only clean fills, fun required => absurd type required,
        ?_, ?_, ?_⟩
      · simp [rating]
      · simp [score]
      · simp [choice]

/-- What passes answer by answer: each is of a question and in its form, and the questions passed
as answered are those the answers name. -/
theorem assertEach_ok {answered reached : List Nat}
    (ok : assertEach questions answers answered = .ok reached) :
    (∀ answer ∈ answers, ∃ question ∈ questions, question.id = answer.questionId ∧
      assertShape question answer = .ok ()) ∧
    ∀ id ∈ reached, id ∈ answered ∨ ∃ answer ∈ answers, answer.questionId = id := by
  induction answers generalizing answered with
  | nil =>
    cases ok
    exact ⟨fun _ member => absurd member List.not_mem_nil, fun _ member => Or.inl member⟩
  | cons answer rest ih =>
    unfold assertEach at ok
    split at ok
    · cases ok
    · next question found =>
      have asked : question ∈ questions := List.mem_of_find?_eq_some found
      have same : question.id = answer.questionId := by simpa using List.find?_some found
      split at ok
      · cases ok
      · split at ok
        · cases ok
        · next shaped =>
          obtain ⟨each, reach⟩ := ih ok
          constructor
          · intro other member
            rcases List.mem_cons.mp member with rfl | later
            · exact ⟨question, asked, same, shaped⟩
            · exact each other later
          · intro id member
            rcases reach id member with before | ⟨other, later, named⟩
            · rcases List.mem_cons.mp before with rfl | earlier
              · exact Or.inr ⟨answer, List.mem_cons_self, same.symm⟩
              · exact Or.inl earlier
            · exact Or.inr ⟨other, List.mem_cons_of_mem _ later, named⟩

/-- What is accepted answers questions of the survey in their form, and every required one. -/
theorem assertAnswers_ok (ok : assertAnswers questions answers = .ok ()) :
    (∀ answer ∈ answers, ∃ question ∈ questions, question.id = answer.questionId ∧
      assertShape question answer = .ok ()) ∧
    ∀ question ∈ questions, question.type ≠ .text →
      ∃ answer ∈ answers, answer.questionId = question.id := by
  unfold assertAnswers at ok
  split at ok
  · cases ok
  · next answered passed =>
    obtain ⟨each, reach⟩ := assertEach_ok passed
    split at ok
    · cases ok
    · next complete =>
      refine ⟨each, fun question asked required => ?_⟩
      have seen : question.id ∈ answered := by
        have missed := List.find?_eq_none.mp complete question asked
        by_contra unseen
        exact missed (decide_eq_true ⟨required, unseen⟩)
      rcases reach _ seen with before | named
      · exact absurd before List.not_mem_nil
      · exact named

end Accepted

/-! ## What submissions keep -/

/-- The stored answers are such as figures want them. -/
structure WellAnswered (desk : SurveyDesk) : Prop where
  asked : ∀ answer ∈ desk.answers, ∃ response ∈ desk.responses, ∃ question ∈ desk.questions,
    answer.responseId = response.id ∧ answer.questionId = question.id ∧
      question.surveyId = response.surveyId ∧ InItsColumn question answer
  once : ∀ answer ∈ desk.answers, ∀ other ∈ desk.answers, answer.responseId = other.responseId →
    answer.questionId = other.questionId → answer = other
  required : ∀ response ∈ desk.responses, ∀ question ∈ desk.questions,
    question.surveyId = response.surveyId → question.type ≠ .text →
      ∃ answer ∈ desk.answers, answer.responseId = response.id ∧ answer.questionId = question.id
  people : ∀ response ∈ desk.responses, ∀ other ∈ desk.responses,
    response.surveyId = other.surveyId → response.userId = other.userId → response = other

/-- The survey was read with all its questions. -/
def ReadWhole (desk : SurveyDesk) (live : LiveSurvey) : Prop :=
  ∀ question, question ∈ live.questions ↔ question ∈ desk.questions ∧ question.surveyId = live.id

/-- What each phase of a submission knows. -/
def KnowsSurvey (desk : SurveyDesk) : SubmitPhase → Prop
  | .answered _ live => ReadWhole desk live
  | .save request live =>
    ReadWhole desk live ∧ assertAnswers live.questions request.answers = .ok ()
  | .done (.submitted response) => response ∈ desk.responses
  | _ => True

section Steps

variable {desk after : SurveyDesk}

theorem KnowsSurvey.later {phase : SubmitPhase} (knows : KnowsSurvey desk phase)
    (questions : after.questions = desk.questions)
    (responses : ∀ response ∈ desk.responses, response ∈ after.responses) :
    KnowsSurvey after phase := by
  cases phase with
  | answered request live =>
    intro question
    rw [questions]
    exact knows question
  | save request live =>
    refine ⟨fun question => ?_, knows.2⟩
    rw [questions]
    exact knows.1 question
  | done reply =>
    cases reply with
    | submitted response => exact responses response knows
    | thrown | crashed => trivial
  | profile | survey | questions => trivial

theorem questionsOf_whole (survey : Survey) : ReadWhole desk
    { id := survey.id, eventId := survey.eventId, title := survey.title
      questions := questionsOf desk survey.id } := by
  intro question
  unfold questionsOf
  rw [List.mem_insertionSort]
  exact Table.mem_select

variable {request : SubmitRequest} {live : LiveSurvey}

/-- Nobody answers a survey twice: the response of this person to it would be the second. -/
theorem hasAnswered_eq_false {surveyId userId : Nat}
    (fresh : hasAnswered desk surveyId userId = false)
    {response : SurveyResponse} (stored : response ∈ desk.responses)
    (survey : response.surveyId = surveyId) (user : response.userId = userId) : False := by
  have none := of_decide_eq_false fresh
  exact none (Table.select_ne_nil.mpr ⟨response, stored, survey, user⟩)

/-- The answers a response came with are new, and one of each question. -/
theorem mem_insertedAnswers {answers : List SubmittedAnswer} {row : SurveyAnswer}
    (member : row ∈ desk.answers.insertEach answers (insertedAnswer desk.responses.next)) :
    row ∈ desk.answers ∨ ∃ answer ∈ answers, ∃ id,
      row = insertedAnswer desk.responses.next answer id := by
  rcases Table.mem_insertEach.mp member with old | ⟨index, inRange, rfl⟩
  · exact Or.inl old
  · exact Or.inr ⟨answers[index], List.getElem_mem _, _, rfl⟩

/-- Two answers of one new response to one question are the same row. -/
theorem inserted_once {answers : List SubmittedAnswer}
    (distinct : (answers.map SubmittedAnswer.questionId).Nodup) {row other : SurveyAnswer}
    (member : ∃ index, ∃ inRange : index < answers.length,
      row = insertedAnswer desk.responses.next answers[index] (desk.answers.next + index))
    (member' : ∃ index, ∃ inRange : index < answers.length,
      other = insertedAnswer desk.responses.next answers[index] (desk.answers.next + index))
    (same : row.questionId = other.questionId) : row = other := by
  obtain ⟨first, inRange, rfl⟩ := member
  obtain ⟨second, inRange', rfl⟩ := member'
  have index : first = second := by
    have bound : first < (answers.map SubmittedAnswer.questionId).length := by simpa using inRange
    have bound' : second < (answers.map SubmittedAnswer.questionId).length := by
      simpa using inRange'
    have equal : (answers.map SubmittedAnswer.questionId)[first] =
        (answers.map SubmittedAnswer.questionId)[second] := by simpa using same
    exact distinct.getElem_inj_iff.mp equal
  subst index
  rfl

/-- An accepted response, with the answers it came with. -/
theorem submit_wellAnswered (sound : WellAnswered desk) (whole : ReadWhole desk live)
    (ok : assertAnswers live.questions request.answers = .ok ()) :
    WellAnswered (submit desk request live).1 := by
  unfold submit
  split
  · next submittable =>
    obtain ⟨fresh, _, distinct, _⟩ := submittable
    obtain ⟨each, complete⟩ := assertAnswers_ok ok
    have older {answer : SurveyAnswer} (stored : answer ∈ desk.answers) :
        answer.responseId ≠ desk.responses.next := by
      obtain ⟨response, there, _, _, named, _⟩ := sound.asked answer stored
      rw [named]
      exact Nat.ne_of_lt (Table.key_lt_next there)
    constructor
    · intro answer member
      rcases mem_insertedAnswers member with old | ⟨sent, submitted, id, rfl⟩
      · obtain ⟨response, there, question, asked, facts⟩ := sound.asked answer old
        exact ⟨response, Table.mem_insert.mpr (Or.inl there), question, asked, facts⟩
      · obtain ⟨question, asked, named, shaped⟩ := each sent submitted
        obtain ⟨stored, survey⟩ := (whole question).mp asked
        exact ⟨_, Table.mem_insert.mpr (Or.inr rfl), question, stored, rfl, named.symm, survey,
          assertShape_inItsColumn shaped _ _⟩
    · intro answer member other member' response question
      rcases Table.mem_insertEach.mp member with old | new
      · rcases Table.mem_insertEach.mp member' with old' | ⟨index, inRange, rfl⟩
        · exact sound.once answer old other old' response question
        · exact absurd response (older old)
      · rcases Table.mem_insertEach.mp member' with old' | new'
        · obtain ⟨index, inRange, rfl⟩ := new
          exact absurd response.symm (older old')
        · exact inserted_once distinct new new' question
    · intro response member question asked survey required
      rcases Table.mem_insert.mp member with old | rfl
      · obtain ⟨answer, stored, named⟩ := sound.required response old question asked survey required
        exact ⟨answer, Table.mem_insertEach.mpr (Or.inl stored), named⟩
      · have read : question ∈ live.questions := (whole question).mpr ⟨asked, survey⟩
        obtain ⟨sent, submitted, named⟩ := complete question read required
        obtain ⟨index, inRange, rfl⟩ := List.getElem_of_mem submitted
        exact ⟨_, Table.mem_insertEach.mpr (Or.inr ⟨index, inRange, rfl⟩), rfl, named⟩
    · intro response member other member' survey user
      rcases Table.mem_insert.mp member with old | rfl
      · rcases Table.mem_insert.mp member' with old' | rfl
        · exact sound.people response old other old' survey user
        · exact (hasAnswered_eq_false fresh old survey user).elim
      · rcases Table.mem_insert.mp member' with old' | rfl
        · exact (hasAnswered_eq_false fresh old' survey.symm user.symm).elim
        · rfl
  · exact sound

theorem submit_kept : (submit desk request live).1.questions = desk.questions ∧
    ∀ response ∈ desk.responses, response ∈ (submit desk request live).1.responses := by
  unfold submit
  split
  · exact ⟨rfl, fun response stored => Table.mem_insert.mpr (Or.inl stored)⟩
  · exact ⟨rfl, fun response stored => stored⟩

theorem act_kept (known : SubmitAnswers) (phase : SubmitPhase) :
    (actOnSubmission desk known phase).1.questions = desk.questions ∧
      ∀ response ∈ desk.responses, response ∈ (actOnSubmission desk known phase).1.responses := by
  cases phase with
  | save request live => exact submit_kept
  | profile | survey | questions | answered | done => exact ⟨rfl, fun _ stored => stored⟩

theorem act_wellAnswered (known : SubmitAnswers) {phase : SubmitPhase} (sound : WellAnswered desk)
    (knows : KnowsSurvey desk phase) : WellAnswered (actOnSubmission desk known phase).1 := by
  cases phase with
  | save request live => exact submit_wellAnswered sound knows.1 knows.2
  | profile | survey | questions | answered | done => exact sound

theorem act_knowsSurvey (known : SubmitAnswers) {phase : SubmitPhase}
    (knows : KnowsSurvey desk phase) :
    KnowsSurvey (actOnSubmission desk known phase).1 (actOnSubmission desk known phase).2 := by
  cases phase with
  | profile request =>
    simp only [actOnSubmission]
    split <;> trivial
  | survey request email =>
    simp only [actOnSubmission]
    split <;> trivial
  | questions request survey => exact questionsOf_whole survey
  | answered request live =>
    simp only [actOnSubmission, afterAnswered]
    split
    · trivial
    · split
      · trivial
      · next passed => exact ⟨knows, passed⟩
  | save request live =>
    simp only [actOnSubmission, submit]
    split
    · exact Table.mem_insert.mpr (Or.inr rfl)
    · trivial
  | done reply => exact knows

/-- A step accepts a submission once, and as a response that was not there. -/
theorem act_submitted {known : SubmitAnswers} {phase : SubmitPhase} {response : SurveyResponse}
    (accepted : (actOnSubmission desk known phase).2 = .done (.submitted response)) :
    phase = .done (.submitted response) ∨ response ∉ desk.responses := by
  cases phase with
  | profile request =>
    simp only [actOnSubmission] at accepted
    split at accepted <;> cases accepted
  | survey request email =>
    simp only [actOnSubmission] at accepted
    split at accepted <;> cases accepted
  | questions request survey => cases accepted
  | answered request live =>
    simp only [actOnSubmission, afterAnswered] at accepted
    split at accepted
    · cases accepted
    · split at accepted <;> cases accepted
  | save request live =>
    simp only [actOnSubmission, submit] at accepted
    split at accepted
    · cases accepted
      exact Or.inr fun stored => Nat.lt_irrefl _ (Table.key_lt_next stored)
    · cases accepted
  | done reply => exact Or.inl accepted

end Steps

/-! ## Runs -/

theorem submissions_keep : submissions.Keeps WellAnswered KnowsSurvey (fun _ _ _ => True)
    fun _ _ => True where
  opened := fun _ _ _ => trivial
  crashed := fun _ _ => trivial
  act := fun _ known _ sound knows _ =>
    ⟨act_wellAnswered known sound knows, act_knowsSurvey known knows⟩
  undisturbed := fun _ known phase _ _ _ _ other =>
    other.later (act_kept known phase).1 (act_kept known phase).2
  outside := fun _ event sound _ => by
    cases event <;> exact ⟨⟨sound.asked, sound.once, sound.required, sound.people⟩,
      fun _ knows => knows.later rfl fun _ stored => stored⟩

/-- No two submissions were accepted as the same response. -/
def OwnResponses (pool : SurveyPool) : Prop :=
  ∀ job ∈ pool.jobs, ∀ other ∈ pool.jobs, ∀ response, job.phase = .done (.submitted response) →
    other.phase = .done (.submitted response) → job = other

theorem serve_ownResponses (pool : SurveyPool) (turn : SurveyTurn)
    (sound : pool.Sound WellAnswered KnowsSurvey) (own : OwnResponses pool) :
    OwnResponses (submissions.serve pool turn) := by
  cases turn with
  | receive request =>
    intro job member other member' response accepted accepted'
    rcases Table.mem_insert.mp member with old | rfl
    · rcases Table.mem_insert.mp member' with old' | rfl
      · exact own job old other old' response accepted accepted'
      · cases accepted'
    · cases accepted
  | advance jobId known =>
    cases found : pool.jobs.find jobId with
    | none =>
      rw [serve_missing found]
      exact own
    | some mover =>
      obtain ⟨there, named⟩ := Table.find_eq_some.mp found
      rw [serve_advance found]
      -- a job that stays put and the mover do not end with one response
      have apart {job : Job SubmitPhase} {response : SurveyResponse} (stored : job ∈ pool.jobs)
          (still : job.id ≠ jobId) (accepted : job.phase = .done (.submitted response))
          (moved : (actOnSubmission pool.shared known mover.phase).2 =
            .done (.submitted response)) : False := by
        rcases act_submitted moved with before | fresh
        · have same := own job stored mover there response accepted before
          exact still (same ▸ named)
        · have knows := sound.jobs job stored
          rw [accepted] at knows
          exact fresh knows
      intro job member other member' response accepted accepted'
      rcases mem_moveJob member with ⟨old, still⟩ | ⟨mine, moved⟩
      · rcases mem_moveJob member' with ⟨old', still'⟩ | ⟨mine', moved'⟩
        · exact own job old other old' response accepted accepted'
        · exact (apart old still accepted (moved'.symm.trans accepted')).elim
      · rcases mem_moveJob member' with ⟨old', still'⟩ | ⟨mine', moved'⟩
        · exact (apart old' still' accepted' (moved.symm.trans accepted)).elim
        · exact Table.eq_of_key member member' (mine.trans mine'.symm)
  | crash jobId =>
    intro job member other member' response accepted accepted'
    rcases mem_moveJob member with ⟨old, _⟩ | ⟨_, moved⟩
    · rcases mem_moveJob member' with ⟨old', _⟩ | ⟨_, moved'⟩
      · exact own job old other old' response accepted accepted'
      · cases moved'.symm.trans accepted'
    · cases moved.symm.trans accepted
  | outside event => exact own

/-! ## Figures -/

section Figures

variable {desk : SurveyDesk} {response : SurveyResponse} {question : SurveyQuestion}

theorem contributed_le_one (sound : WellAnswered desk) (type : SurveyQuestionType) :
    contributed desk response question type ≤ 1 := by
  refine Table.length_select_le_one fun row other member member' => ?_
  obtain ⟨stored, named, asked, _⟩ := Table.mem_select.mp member
  obtain ⟨stored', named', asked', _⟩ := Table.mem_select.mp member'
  exact sound.once row stored other stored' (named.trans named'.symm) (asked.trans asked'.symm)

theorem countsAnswers (sound : WellAnswered desk) : CountsAnswers desk where
  asked := fun answer stored => by
    obtain ⟨response, there, question, asked, named, of, survey, shape⟩ := sound.asked answer stored
    exact ⟨response, there, question, asked, named, of, survey, shape.range⟩
  own := fun response there question asked survey => by
    -- an answer to this question is in this question's form
    have shape {answer : SurveyAnswer} (stored : answer ∈ desk.answers)
        (of : answer.questionId = question.id) : InItsColumn question answer := by
      obtain ⟨_, _, other, stored', _, of', _, shape⟩ := sound.asked answer stored
      have same : other = question := Table.eq_of_key stored' asked (of'.symm.trans of)
      exact same ▸ shape
    refine ⟨contributed_le_one sound _, fun required => ?_, fun type other => ?_⟩
    · obtain ⟨answer, stored, named, of⟩ :=
        sound.required response there question asked survey required
      have filled := (shape stored of).fills required
      have some : 0 < contributed desk response question question.type :=
        List.length_pos_of_mem (Table.mem_select.mpr ⟨stored, named, of, filled⟩)
      exact Nat.le_antisymm (contributed_le_one sound _) some
    · unfold contributed
      rw [List.length_eq_zero_iff, List.eq_nil_iff_forall_not_mem]
      intro answer member
      obtain ⟨stored, _, of, fills⟩ := Table.mem_select.mp member
      exact other ((shape stored of).only type fills)

theorem countsPeople (sound : WellAnswered desk) : CountsPeople desk where
  once := sound.people
  people := fun scope => by
    have distinct : ((desk.responses.select (InScope scope)).map fun response =>
        (response.surveyId, response.userId)).Nodup := by
      refine List.Nodup.map_on ?_ Table.nodup_select
      intro response member other member' same
      obtain ⟨survey, user⟩ := Prod.mk.inj same
      exact sound.people response (Table.mem_select.mp member).1 other
        (Table.mem_select.mp member').1 survey user
    rw [distinct.dedup, List.length_map]
    rfl

theorem ratings_inRange (sound : WellAnswered desk) {scope : FeedbackScope} :
    ∀ rating ∈ ratingsFor desk scope, 1 ≤ rating ∧ rating ≤ 5 := by
  intro rating member
  obtain ⟨answer, read, given⟩ := List.mem_filterMap.mp member
  obtain ⟨_, _, question, _, _, _, _, shape⟩ := sound.asked answer (List.mem_of_mem_filter read)
  exact shape.range.stars rating given

end Figures

/-- A live survey of stars, words and a recommendation. -/
def openSurvey : SurveyPool where
  shared :=
    { surveys := Table.empty.insert fun id =>
        { id, eventId := 0, title := "Feedback", status := .live, version := 1 }
      questions := Table.empty.insertEach [.rating, .text, .nps] fun type id =>
        { id, surveyId := 0, position := id, type, prompt := "How was it?", options := [] }
      responses := Table.empty, answers := Table.empty, clock := 0 }
  jobs := Table.empty

def fourStars : SubmitRequest where
  userId := 0
  eventId := 0
  answers :=
    [{ questionId := 0, rating := some 4, answerText := none, choice := none, score := none },
      { questionId := 2, rating := none, answerText := none, choice := none, score := some 9 }]

/-- The account is there and has been to the event. -/
def attendee : SubmitAnswers := ⟨some "guest@example.com", fun _ => true⟩

/-- One person submits twice, and both submissions find the survey unanswered. -/
def submittedTwice : List SurveyTurn :=
  [.receive fourStars, .receive fourStars] ++ List.replicate 4 (.advance 0 attendee) ++
    List.replicate 4 (.advance 1 attendee) ++ [.advance 0 attendee, .advance 1 attendee]

end EventaApi.Guarantees
