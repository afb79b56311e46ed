import EventaApi.Source.Surveys

/-!
# Survey edits

Saving a survey deletes all its questions and inserts them again. The responses stay, but an
answer refers to its question and goes with it, so a save loses answers exactly where one of
the questions it replaces has been answered, whether or not the question was changed.
-/
namespace EventaApi.Guarantees
open Library Source

/-- Every stored answer is still there, and every figure is what it was. -/
def KeepsAnswers (before after : SurveyDesk) : Prop :=
  (∀ answer ∈ before.answers, answer ∈ after.answers) ∧
    ∀ scope, ratingsFor after scope = ratingsFor before scope ∧
      npsScoresFor after scope = npsScoresFor before scope ∧
      respondentsFor after scope = respondentsFor before scope

/-- A save loses no answer, and a refused one changes nothing. -/
def SavesSafely (desk : SurveyDesk) (surveyId : Nat) (input : SurveyUpdate) : Prop :=
  match saveSurvey desk surveyId input with
  | (after, .saved _ _) => KeepsAnswers desk after
  | (after, .thrown _) => after = desk

/-- The survey is there, at the version the editor loaded, and what they send can be answered. -/
def Savable (desk : SurveyDesk) (surveyId : Nat) (input : SurveyUpdate) : Prop :=
  (∃ survey ∈ desk.surveys, survey.id = surveyId ∧ survey.version = input.version) ∧
    assertAnswerable input.title input.questions = .ok ()

/-- Nobody has answered a question of the survey. -/
def Unanswered (desk : SurveyDesk) (surveyId : Nat) : Prop :=
  ∀ answer ∈ desk.answers, ∀ question ∈ desk.questions, question.surveyId = surveyId →
    answer.questionId ≠ question.id

section Saves

variable {desk : SurveyDesk} {surveyId : Nat} {input : SurveyUpdate}

theorem questionId_answersOne {answer : SurveyAnswer} :
    AnswersOne (desk.questions.select fun row => row.surveyId = surveyId) answer ↔
      ∃ question ∈ desk.questions, question.surveyId = surveyId ∧
        answer.questionId = question.id := by
  unfold AnswersOne
  simp only [List.mem_map, Table.mem_select]
  constructor
  · rintro ⟨question, ⟨stored, own⟩, same⟩
    exact ⟨question, stored, own, same.symm⟩
  · rintro ⟨question, stored, own, same⟩
    exact ⟨question, ⟨stored, own⟩, same.symm⟩

/-- A save either replaces the questions or is refused. -/
theorem saveSurvey_cases (desk : SurveyDesk) (surveyId : Nat) (input : SurveyUpdate) :
    (Savable desk surveyId input ∧
      updateSurvey desk surveyId input.title input.questions input.version =
        ((saveSurvey desk surveyId input).1, true) ∧
      ∃ survey questions, (saveSurvey desk surveyId input).2 = .saved survey questions) ∨
    ¬ Savable desk surveyId input ∧
      ∃ exception, saveSurvey desk surveyId input = (desk, .thrown exception) := by
  unfold saveSurvey
  cases found : desk.surveys.find surveyId with
  | none =>
    refine Or.inr ⟨?_, _, rfl⟩
    rintro ⟨⟨survey, stored, named, _⟩, _⟩
    exact Table.find_eq_none.mp found survey stored named
  | some survey =>
    dsimp only
    cases answerable : assertAnswerable input.title input.questions with
    | error exception =>
      refine Or.inr ⟨fun savable => ?_, exception, rfl⟩
      cases answerable.symm.trans savable.2
    | ok =>
      dsimp only
      unfold updateSurvey
      by_cases stale : (desk.surveys.select fun row =>
          row.id = surveyId ∧ row.version = input.version) = []
      · rw [if_pos stale]
        refine Or.inr ⟨?_, STALE_SURVEY, rfl⟩
        rintro ⟨current, _⟩
        exact Table.select_ne_nil.mpr current stale
      · rw [if_neg stale]
        refine Or.inl ⟨⟨Table.select_ne_nil.mp stale, answerable⟩, rfl, ?_⟩
        dsimp only [loadSurvey]
        rw [Table.find_update, found]
        exact ⟨_, _, rfl⟩

/-- Replacing questions nobody has answered leaves the answers and the responses. -/
theorem updateSurvey_keeps {after : SurveyDesk} {title : String} {questions : List DraftQuestion}
    {version : Nat} (unanswered : Unanswered desk surveyId)
    (saved : updateSurvey desk surveyId title questions version = (after, true)) :
    KeepsAnswers desk after := by
  unfold updateSurvey at saved
  split at saved
  · cases saved
  · cases saved
    have kept : (desk.answers.delete
        (AnswersOne (desk.questions.select fun row => row.surveyId = surveyId))).rows =
          desk.answers.rows := by
      rw [Table.rows_delete, List.filter_eq_self]
      intro answer stored
      have spared : ¬ AnswersOne (desk.questions.select fun row => row.surveyId = surveyId)
          answer := by
        rw [questionId_answersOne]
        rintro ⟨question, there, own, same⟩
        exact unanswered answer stored question there own same
      simpa using spared
    refine ⟨fun answer stored => Table.mem_def.mpr (kept ▸ stored), fun scope => ?_⟩
    simp only [ratingsFor, npsScoresFor, respondentsFor, answersIn, kept, and_self]

/-- Replacing questions takes every answer to them along. -/
theorem updateSurvey_loses {after : SurveyDesk} {title : String} {questions : List DraftQuestion}
    {version : Nat} (saved : updateSurvey desk surveyId title questions version = (after, true))
    (answer : SurveyAnswer) {question : SurveyQuestion} (asked : question ∈ desk.questions)
    (own : question.surveyId = surveyId) (same : answer.questionId = question.id) :
    answer ∉ after.answers := by
  unfold updateSurvey at saved
  split at saved
  · cases saved
  · cases saved
    intro left
    exact (Table.mem_delete.mp left).2 (questionId_answersOne.mpr ⟨question, asked, own, same⟩)

/-- What a save that loses nothing replaces has no answers. -/
theorem unanswered_of_safe (safe : SavesSafely desk surveyId input)
    (savable : Savable desk surveyId input) : Unanswered desk surveyId := by
  rcases saveSurvey_cases desk surveyId input with
    ⟨_, updated, survey, questions, reply⟩ | ⟨refusal, _⟩
  · have whole : saveSurvey desk surveyId input =
        ((saveSurvey desk surveyId input).1, .saved survey questions) := by rw [← reply]
    rw [SavesSafely, whole] at safe
    intro answer stored question asked own same
    exact updateSurvey_loses updated answer asked own same (safe.1 answer stored)
  · exact absurd savable refusal

/-- A save loses nothing exactly where it is refused or no question of the survey has been
answered. -/
theorem savesSafely_iff (desk : SurveyDesk) (surveyId : Nat) (input : SurveyUpdate) :
    SavesSafely desk surveyId input ↔
      (Savable desk surveyId input → Unanswered desk surveyId) := by
  refine ⟨unanswered_of_safe, fun unanswered => ?_⟩
  rcases saveSurvey_cases desk surveyId input with
    ⟨savable, updated, survey, questions, reply⟩ | ⟨_, exception, thrown⟩
  · have whole : saveSurvey desk surveyId input =
        ((saveSurvey desk surveyId input).1, .saved survey questions) := by rw [← reply]
    rw [SavesSafely, whole]
    exact updateSurvey_keeps (unanswered savable) updated
  · rw [SavesSafely, thrown]

end Saves

/-! ## One answered question -/

/-- A live survey of one star question, and one person's five stars. -/
def fiveStars : SurveyDesk where
  surveys := Table.empty.insert fun id =>
    { id, eventId := 0, title := "Feedback", status := .live, version := 1 }
  questions := Table.empty.insert fun id =>
    { id, surveyId := 0, position := 0, type := .rating, prompt := "The venue?", options := [] }
  responses := Table.empty.insert fun id =>
    { id, surveyId := 0, eventId := 0, userId := 0, submittedAt := 0 }
  answers := Table.empty.insert fun id =>
    { id, responseId := 0, questionId := 0, rating := some 5, answerText := none, choice := none
      score := none }
  clock := 0

/-- The survey as it is, sent back unchanged. -/
def savedAgain : SurveyUpdate where
  title := "Feedback"
  questions := [{ type := .rating, prompt := "The venue?", options := [] }]
  version := 1

/-- The response is still counted, and its stars are gone. -/
theorem savedAgain_losesStars :
    ¬ ∀ (desk : SurveyDesk) (surveyId : Nat) (input : SurveyUpdate),
      SavesSafely desk surveyId input := by
  intro safe
  have savable : Savable fiveStars 0 savedAgain := ⟨by decide +kernel, by decide +kernel⟩
  have unanswered := unanswered_of_safe (safe fiveStars 0 savedAgain) savable
  obtain ⟨answer, stored, question, asked, own, same⟩ : ∃ answer ∈ fiveStars.answers.rows,
      ∃ question ∈ fiveStars.questions.rows,
        question.surveyId = 0 ∧ answer.questionId = question.id := by
    decide +kernel
  exact unanswered answer stored question asked own same

end EventaApi.Guarantees
