import EventaApi.Library.Pool
import EventaApi.Library.Rounding
import EventaApi.Source.Discounts

/-!
# Surveys

`SurveysService` saves a survey by replacing its questions; `SurveyResponsesService` takes one
response of each person and adds up what they answered. An answer has a column for each kind
of question, and a figure reads one column without asking which question filled it.
-/
namespace EventaApi.Source
open Library

/-! ## Rows -/

inductive SurveyStatus where
  | draft | live | closed
  deriving DecidableEq, Repr

inductive SurveyQuestionType where
  | rating | text | choice | nps
  deriving DecidableEq, Repr

structure Survey where
  id : Nat
  eventId : Nat
  title : String
  status : SurveyStatus
  version : Nat
  deriving DecidableEq, Repr

instance : Keyed Survey := ⟨Survey.id⟩

structure SurveyQuestion where
  id : Nat
  surveyId : Nat
  position : Nat
  type : SurveyQuestionType
  prompt : String
  options : List String
  deriving DecidableEq, Repr

instance : Keyed SurveyQuestion := ⟨SurveyQuestion.id⟩

structure SurveyResponse where
  id : Nat
  surveyId : Nat
  eventId : Nat
  userId : Nat
  submittedAt : Instant
  deriving DecidableEq, Repr

instance : Keyed SurveyResponse := ⟨SurveyResponse.id⟩

structure SurveyAnswer where
  id : Nat
  responseId : Nat
  questionId : Nat
  rating : Option Int
  answerText : Option String
  choice : Option String
  score : Option Int
  deriving DecidableEq, Repr

instance : Keyed SurveyAnswer := ⟨SurveyAnswer.id⟩

structure SurveyDesk where
  surveys : Table Survey
  questions : Table SurveyQuestion
  responses : Table SurveyResponse
  answers : Table SurveyAnswer
  clock : Instant

/-! ## Constants -/

def MIN_NPS_SCORE : Int := 0
def MAX_NPS_SCORE : Int := 10
def PROMOTER_FROM : Int := 9
def DETRACTOR_UP_TO : Int := 6
def MIN_RATING : Int := 1
def MAX_RATING : Int := 5
def STARS : List Int := [1, 2, 3, 4, 5]
def PRECISION : ℚ := 10
def MIN_OPTIONS : Nat := 2
def MAX_NPS_QUESTIONS : Nat := 1

def SURVEY_NOT_FOUND : DomainException := .notFound "Survey not found."
def STALE_SURVEY : DomainException :=
  .conflict "This survey changed elsewhere. Reload and try again."
def ACCOUNT_NOT_FOUND : DomainException := .notFound "Account not found."
def NO_SURVEY_OPEN : DomainException := .notFound "There is no survey open for this event."
def ALREADY_ANSWERED : DomainException := .conflict "You have already answered this survey."

/-! ## Authoring -/

structure DraftQuestion where
  type : SurveyQuestionType
  prompt : String
  options : List String
  deriving DecidableEq, Repr

/-- A save, carrying the version the editor loaded. -/
structure SurveyUpdate where
  title : String
  questions : List DraftQuestion
  version : Nat
  deriving DecidableEq, Repr

def isBlankText (text : String) : Bool := trim text = []

def assertQuestion (question : DraftQuestion) (number : Nat) : Except DomainException Unit :=
  let named := "Question " ++ toString number
  if isBlankText question.prompt then .error (.validation (named ++ " has no question in it."))
  else if question.type ≠ .choice then .ok ()
  else if question.options.any isBlankText then
    .error (.validation (named ++ " has a blank answer option."))
  else if question.options.length < MIN_OPTIONS then
    .error (.validation (named ++ " needs at least two options to choose between."))
  else .ok ()

def assertQuestions : List DraftQuestion → Nat → Except DomainException Unit
  | [], _ => .ok ()
  | question :: rest, number =>
    match assertQuestion question number with
    | .error exception => .error exception
    | .ok () => assertQuestions rest (number + 1)

/-- A survey asks for one recommendation score at most. -/
def assertOneRecommendation : List DraftQuestion → (number seen : Nat) → Except DomainException Unit
  | [], _, _ => .ok ()
  | question :: rest, number, seen =>
    if question.type ≠ .nps then assertOneRecommendation rest (number + 1) seen
    else if MAX_NPS_QUESTIONS < seen + 1 then
      .error (.validation ("Question " ++ toString number ++
        " is a second recommendation score — a survey asks it once."))
    else assertOneRecommendation rest (number + 1) (seen + 1)

/-- Whether a survey can actually be answered. -/
def assertAnswerable (title : String) (questions : List DraftQuestion) :
    Except DomainException Unit :=
  if isBlankText title then .error (.validation "Give the survey a title.")
  else if questions = [] then
    .error (.validation "Add at least one question — a survey nobody can answer is not a survey.")
  else
    match assertQuestions questions 1 with
    | .error exception => .error exception
    | .ok () => assertOneRecommendation questions 1 0

/-- The survey's questions, in their order. -/
def questionsOf (desk : SurveyDesk) (surveyId : Nat) : List SurveyQuestion :=
  (desk.questions.select fun row => row.surveyId = surveyId).insertionSort fun left right =>
    left.position < right.position ∨ left.position = right.position ∧ left.id ≤ right.id

@[reducible] def savedSurvey (title : String) (currentVersion : Nat) (row : Survey) : Survey :=
  { row with title := String.ofList (trim title), version := currentVersion + 1 }

/-- Only a choice question keeps its options. -/
@[reducible] def writtenQuestion (surveyId : Nat) (question : DraftQuestion × Nat) (id : Nat) :
    SurveyQuestion where
  id := id
  surveyId := surveyId
  position := question.2
  type := question.1.type
  prompt := String.ofList (trim question.1.prompt)
  options :=
    if question.1.type = .choice then
      question.1.options.map fun option => String.ofList (trim option)
    else []

/-- An answer goes with the question it is of. -/
def AnswersOne (questions : List SurveyQuestion) (answer : SurveyAnswer) : Prop :=
  answer.questionId ∈ questions.map SurveyQuestion.id

instance (questions : List SurveyQuestion) : DecidablePred (AnswersOne questions) :=
  fun _ => inferInstanceAs (Decidable (_ ∈ _))

/-- Replace a survey's title and questions, if nobody else has saved since; the old questions
take what refers to them along. -/
def updateSurvey (desk : SurveyDesk) (surveyId : Nat) (title : String)
    (questions : List DraftQuestion) (currentVersion : Nat) : SurveyDesk × Bool :=
  if (desk.surveys.select fun row => row.id = surveyId ∧ row.version = currentVersion) = [] then
    (desk, false)
  else
    let replaced := desk.questions.select fun row => row.surveyId = surveyId
    ({ desk with
        surveys := desk.surveys.update
          (fun row => row.id = surveyId ∧ row.version = currentVersion)
          (savedSurvey title currentVersion)
        questions := (desk.questions.delete fun row => row.surveyId = surveyId).insertEach
          questions.zipIdx (writtenQuestion surveyId)
        answers := desk.answers.delete (AnswersOne replaced) },
      true)

inductive SurveyReply where
  | saved (survey : Survey) (questions : List SurveyQuestion)
  | thrown (exception : DomainException)
  deriving DecidableEq, Repr

def loadSurvey (desk : SurveyDesk) (surveyId : Nat) : SurveyReply :=
  match desk.surveys.find surveyId with
  | some survey => .saved survey (questionsOf desk surveyId)
  | none => .thrown SURVEY_NOT_FOUND

/-- `SurveysService.update`. -/
def saveSurvey (desk : SurveyDesk) (surveyId : Nat) (input : SurveyUpdate) :
    SurveyDesk × SurveyReply :=
  match desk.surveys.find surveyId with
  | none => (desk, .thrown SURVEY_NOT_FOUND)
  | some _ =>
    match assertAnswerable input.title input.questions with
    | .error exception => (desk, .thrown exception)
    | .ok () =>
      match updateSurvey desk surveyId input.title input.questions input.version with
      | (after, true) => (after, loadSurvey after surveyId)
      | (after, false) => (after, .thrown STALE_SURVEY)

/-! ## Answering -/

structure SubmittedAnswer where
  questionId : Nat
  rating : Option Int
  answerText : Option String
  choice : Option String
  score : Option Int
  deriving DecidableEq, Repr

def quoted (prompt : String) : String := "“" ++ prompt ++ "”"

/-- The fields an answer fills that are not its question's own. -/
def hasStray (type : SurveyQuestionType) (answer : SubmittedAnswer) : Bool :=
  (type ≠ .rating && answer.rating.isSome) || (type ≠ .text && answer.answerText.isSome) ||
    (type ≠ .choice && answer.choice.isSome) || (type ≠ .nps && answer.score.isSome)

def isOnScale (value : Option Int) (min max : Int) : Bool :=
  value.any fun value => min ≤ value ∧ value ≤ max

def assertShape (question : SurveyQuestion) (answer : SubmittedAnswer) :
    Except DomainException Unit :=
  if hasStray question.type answer then
    .error (.validation
      (quoted question.prompt ++ " was sent an answer meant for a different kind of question."))
  else
    match question.type with
    | .nps =>
      if isOnScale answer.score MIN_NPS_SCORE MAX_NPS_SCORE then .ok ()
      else .error (.validation (quoted question.prompt ++ " is answered from " ++
        toString MIN_NPS_SCORE ++ " to " ++ toString MAX_NPS_SCORE ++ "."))
    | .rating =>
      if isOnScale answer.rating MIN_RATING MAX_RATING then .ok ()
      else .error (.validation (quoted question.prompt ++ " is answered from " ++
        toString MIN_RATING ++ " to " ++ toString MAX_RATING ++ "."))
    | .choice =>
      if answer.choice.any fun choice => choice ≠ "" ∧ choice ∈ question.options then .ok ()
      else .error (.validation
        (quoted question.prompt ++ " must be one of the options offered."))
    | .text => .ok ()

/-- Each answer is of one of the questions, which was not answered yet, in its own field; the
questions that were answered. -/
def assertEach (questions : List SurveyQuestion) :
    List SubmittedAnswer → (answered : List Nat) → Except DomainException (List Nat)
  | [], answered => .ok answered
  | answer :: rest, answered =>
    match questions.find? fun question => question.id = answer.questionId with
    | none =>
      .error (.validation "That answer is for a question this survey does not ask.")
    | some question =>
      if question.id ∈ answered then
        .error (.validation (quoted question.prompt ++ " was answered twice."))
      else
        match assertShape question answer with
        | .error exception => .error exception
        | .ok () => assertEach questions rest (question.id :: answered)

/-- Ratings, recommendation scores and choices are required; free text is not. -/
def assertAnswers (questions : List SurveyQuestion) (answers : List SubmittedAnswer) :
    Except DomainException Unit :=
  match assertEach questions answers [] with
  | .error exception => .error exception
  | .ok answered =>
    match questions.find? fun question => question.type ≠ .text ∧ question.id ∉ answered with
    | some question => .error (.validation ("Please answer " ++ quoted question.prompt ++ "."))
    | none => .ok ()

structure LiveSurvey where
  id : Nat
  eventId : Nat
  title : String
  questions : List SurveyQuestion
  deriving DecidableEq, Repr

/-- The first live survey of an event. -/
def liveSurvey (desk : SurveyDesk) (eventId : Nat) : Option Survey :=
  (desk.surveys.select fun row => row.eventId = eventId ∧ row.status = .live).head?

def hasAnswered (desk : SurveyDesk) (surveyId userId : Nat) : Bool :=
  (desk.responses.select fun row => row.surveyId = surveyId ∧ row.userId = userId) ≠ []

@[reducible] def insertedAnswer (responseId : Nat) (answer : SubmittedAnswer) (id : Nat) :
    SurveyAnswer where
  id := id
  responseId := responseId
  questionId := answer.questionId
  rating := answer.rating
  answerText := (answer.answerText.map fun text => String.ofList (trim text)).filter (· ≠ "")
  choice := answer.choice
  score := answer.score

/-- The constraints of a response and its answers. -/
def Submittable (desk : SurveyDesk) (surveyId userId : Nat) (answers : List SubmittedAnswer) :
    Prop :=
  hasAnswered desk surveyId userId = false ∧ (desk.surveys.find surveyId).isSome = true ∧
    (answers.map SubmittedAnswer.questionId).Nodup ∧
    ∀ answer ∈ answers, (desk.questions.find answer.questionId).isSome = true ∧
      ∀ score ∈ answer.score, 0 ≤ score ∧ score ≤ 10

instance (desk : SurveyDesk) (surveyId userId : Nat) (answers : List SubmittedAnswer) :
    Decidable (Submittable desk surveyId userId answers) :=
  inferInstanceAs (Decidable (_ ∧ _ ∧ _ ∧ ∀ _ ∈ answers, _ ∧ ∀ _ ∈ _, _))

structure SubmitRequest where
  userId : Nat
  eventId : Nat
  answers : List SubmittedAnswer
  deriving DecidableEq, Repr

inductive SubmitReply where
  /-- Accepted, as this row. -/
  | submitted (response : SurveyResponse)
  | thrown (exception : DomainException)
  | crashed
  deriving DecidableEq, Repr

/-- What a submission does next, with what it has read. -/
inductive SubmitPhase where
  | profile (request : SubmitRequest)
  | survey (request : SubmitRequest) (email : String)
  | questions (request : SubmitRequest) (survey : Survey)
  | answered (request : SubmitRequest) (live : LiveSurvey)
  | save (request : SubmitRequest) (live : LiveSurvey)
  | done (reply : SubmitReply)
  deriving DecidableEq, Repr

/-- What the accounts and the orders say at a step. -/
structure SubmitAnswers where
  /-- The account's address, when there is one. -/
  email : Option String
  /-- A confirmed order of the event has that address. -/
  attended : String → Bool

def afterAnswered (request : SubmitRequest) (live : LiveSurvey) (answered : Bool) : SubmitPhase :=
  if answered then .done (.thrown ALREADY_ANSWERED)
  else
    match assertAnswers live.questions request.answers with
    | .error exception => .done (.thrown exception)
    | .ok () => .save request live

@[reducible] def insertedResponse (desk : SurveyDesk) (request : SubmitRequest) (live : LiveSurvey)
    (id : Nat) : SurveyResponse where
  id := id
  surveyId := live.id
  eventId := live.eventId
  userId := request.userId
  submittedAt := desk.clock

/-- Response and answers together; a violated constraint leaves neither. -/
def submit (desk : SurveyDesk) (request : SubmitRequest) (live : LiveSurvey) :
    SurveyDesk × SubmitPhase :=
  if Submittable desk live.id request.userId request.answers then
    ({ desk with
        responses := desk.responses.insert (insertedResponse desk request live)
        answers := desk.answers.insertEach request.answers (insertedAnswer desk.responses.next) },
      .done (.submitted (insertedResponse desk request live desk.responses.next)))
  else (desk, .done .crashed)

/-- One read, or the one transaction. -/
def actOnSubmission (desk : SurveyDesk) (known : SubmitAnswers) :
    SubmitPhase → SurveyDesk × SubmitPhase
  | .profile request =>
    (desk, match known.email with
      | some email => .survey request email
      | none => .done (.thrown ACCOUNT_NOT_FOUND))
  | .survey request email =>
    (desk, match known.attended email, liveSurvey desk request.eventId with
      | true, some survey => .questions request survey
      | _, _ => .done (.thrown NO_SURVEY_OPEN))
  | .questions request survey =>
    (desk, .answered request
      { id := survey.id, eventId := survey.eventId, title := survey.title
        questions := questionsOf desk survey.id })
  | .answered request live =>
    (desk, afterAnswered request live (hasAnswered desk live.id request.userId))
  | .save request live => submit desk request live
  | .done reply => (desk, .done reply)

@[reducible] def statusRow (status : SurveyStatus) (row : Survey) : Survey := { row with status }

inductive SurveyWorld where
  | tick (now : Instant)
  | statusSet (surveyId : Nat) (status : SurveyStatus)
  deriving DecidableEq, Repr

def changeSurveys (desk : SurveyDesk) : SurveyWorld → SurveyDesk
  | .tick now => { desk with clock := max desk.clock now }
  | .statusSet surveyId status =>
    { desk with surveys := desk.surveys.update (fun row => row.id = surveyId) (statusRow status) }

/-- Submissions of any people to surveys nobody edits, any number of them at once. -/
def submissions : Handler SurveyDesk SubmitPhase SubmitRequest SubmitAnswers SurveyWorld where
  opened := .profile
  act := actOnSubmission
  outside := changeSurveys
  crashed := .done .crashed

/-! ## Figures -/

/-- Which answers a figure is taken over. -/
structure FeedbackScope where
  eventId : Option Nat
  surveyId : Option Nat
  deriving DecidableEq, Repr

def InScope (scope : FeedbackScope) (response : SurveyResponse) : Prop :=
  (∀ eventId ∈ scope.eventId, response.eventId = eventId) ∧
    ∀ surveyId ∈ scope.surveyId, response.surveyId = surveyId

instance (scope : FeedbackScope) : DecidablePred (InScope scope) :=
  fun _ => inferInstanceAs (Decidable ((∀ _ ∈ scope.eventId, _) ∧ ∀ _ ∈ scope.surveyId, _))

/-- The answers whose response is in scope. -/
def answersIn (desk : SurveyDesk) (scope : FeedbackScope) : List SurveyAnswer :=
  desk.answers.rows.filter fun answer =>
    (desk.responses.find answer.responseId).any fun response => InScope scope response

def respondentsFor (desk : SurveyDesk) (scope : FeedbackScope) : Nat :=
  (desk.responses.select (InScope scope)).length

def ratingsFor (desk : SurveyDesk) (scope : FeedbackScope) : List Int :=
  (answersIn desk scope).filterMap SurveyAnswer.rating

def npsScoresFor (desk : SurveyDesk) (scope : FeedbackScope) : List Int :=
  (answersIn desk scope).filterMap SurveyAnswer.score

structure RatingSummary where
  /-- Nothing when nobody has rated anything. -/
  average : Option ℚ
  distribution : List (Int × Nat)
  deriving DecidableEq, Repr

def summarise (ratings : List Int) : RatingSummary where
  average :=
    if ratings = [] then none
    else some (roundHalfUp ((ratings.sum : ℚ) / ratings.length * PRECISION) / PRECISION)
  distribution := STARS.map fun star => (star, ratings.count star)

structure NpsSummary where
  answers : Nat
  promoters : Nat
  passives : Int
  detractors : Nat
  /-- Nothing when nobody answered. -/
  score : Option Int
  deriving DecidableEq, Repr

/-- Halves away from zero, so that a score and its mirror image are each other's negatives. -/
def wholePoints (value : ℚ) : Int := roundHalfAway value

def summariseNps (scores : List Int) : NpsSummary :=
  let promoters := (scores.filter fun score => PROMOTER_FROM ≤ score).length
  let detractors := (scores.filter fun score => score ≤ DETRACTOR_UP_TO).length
  { answers := scores.length
    promoters
    passives := (scores.length : Int) - promoters - detractors
    detractors
    score :=
      if scores = [] then none
      else some (wholePoints (100 * ((promoters : ℚ) - detractors) / scores.length)) }

structure FeedbackFigures where
  responses : Nat
  ratings : RatingSummary
  nps : NpsSummary
  deriving DecidableEq, Repr

/-- `SurveyResponsesService.summary`, of those who answered. -/
def feedback (desk : SurveyDesk) (scope : FeedbackScope) : FeedbackFigures where
  responses := respondentsFor desk scope
  ratings := summarise (ratingsFor desk scope)
  nps := summariseNps (npsScoresFor desk scope)

end EventaApi.Source
