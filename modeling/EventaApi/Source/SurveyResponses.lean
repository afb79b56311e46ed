import EventaApi.Source.Surveys

/-!
# The responses of an event

`SurveyResponsesRepository.list` reads an event's newest responses, each with a rating and a
comment lifted out of its answers. The limit is the query's; the rating is filtered by on what
the query returned.
-/
namespace EventaApi.Source
open Library

/-- A number as a request may send it. -/
inductive JsNumber where
  | finite (value : ℚ)
  | infinite (negative : Bool)
  | nan
  deriving DecidableEq

/-- What `!` is true of. -/
def JsNumber.isFalsy : JsNumber → Bool
  | .finite value => value = 0
  | .infinite _ => false
  | .nan => true

/-- `===`, of a rating that may be missing. -/
def JsNumber.equals : JsNumber → Option Int → Bool
  | .finite value, some rating => value = rating
  | _, _ => false

/-- The survey tables beside the accounts; a response refers to a survey and to an account. -/
structure FeedbackBase extends SurveyDesk where
  /-- The name of each account. -/
  users : Nat → Option String
  surveyed : ∀ response ∈ responses, (surveys.find response.surveyId).isSome = true
  signed : ∀ response ∈ responses, (users response.userId).isSome = true

def ratingsOf (desk : SurveyDesk) (response : SurveyResponse) : List Int :=
  (desk.answers.select fun row => row.responseId = response.id).filterMap SurveyAnswer.rating

def commentsOf (desk : SurveyDesk) (response : SurveyResponse) : List String :=
  (desk.answers.select fun row => row.responseId = response.id).filterMap SurveyAnswer.answerText

/-- Any one of what was found, and nothing where nothing was. -/
def IsOneOf {α : Type} (found : List α) : Option α → Prop
  | none => found = []
  | some value => value ∈ found

/-- What the two subqueries return: they take one row, and ask for no order. -/
structure Lifted (desk : SurveyDesk) where
  rating : SurveyResponse → Option Int
  comment : SurveyResponse → Option String
  rated : ∀ response, IsOneOf (ratingsOf desk response) (rating response)
  commented : ∀ response, IsOneOf (commentsOf desk response) (comment response)

theorem isOneOf_head? {α : Type} (found : List α) : IsOneOf found found.head? := by
  cases found with
  | nil => rfl
  | cons head tail => exact List.mem_cons_self

/-- The first row of each subquery. -/
def firstLifted (desk : SurveyDesk) : Lifted desk where
  rating response := (ratingsOf desk response).head?
  comment response := (commentsOf desk response).head?
  rated _ := isOneOf_head? _
  commented _ := isOneOf_head? _

structure ResponseRow where
  id : Nat
  surveyId : Nat
  surveyTitle : String
  personName : String
  submittedAt : Instant
  rating : Option Int
  comment : Option String
  deriving DecidableEq, Repr

/-- A response joined with its survey and its account. -/
def joinedRow (base : FeedbackBase) (lifted : Lifted base.toSurveyDesk)
    (response : SurveyResponse) : Option ResponseRow :=
  match base.surveys.find response.surveyId, base.users response.userId with
  | some survey, some name => some
    { id := response.id
      surveyId := response.surveyId
      surveyTitle := survey.title
      personName := name
      submittedAt := response.submittedAt
      rating := lifted.rating response
      comment := lifted.comment response }
  | _, _ => none

def eventResponses (base : FeedbackBase) (lifted : Lifted base.toSurveyDesk) (eventId : Nat) :
    List ResponseRow :=
  (base.responses.select fun row => row.eventId = eventId).filterMap (joinedRow base lifted)

/-- `ORDER BY submitted_at DESC, id DESC`. -/
def newestFirst (left right : ResponseRow) : Prop :=
  right.submittedAt < left.submittedAt ∨
    right.submittedAt = left.submittedAt ∧ right.id ≤ left.id

instance : DecidableRel newestFirst := fun _ _ => inferInstanceAs (Decidable (_ ∨ _ ∧ _))

structure ResponseFilter where
  rating : Option JsNumber
  limit : Nat

/-- The query's rows, and of those the ones with the rating; a falsy rating filters nothing. -/
def listResponses (base : FeedbackBase) (lifted : Lifted base.toSurveyDesk) (eventId : Nat)
    (filter : ResponseFilter) : List ResponseRow :=
  (((eventResponses base lifted eventId).insertionSort newestFirst).take filter.limit).filter
    fun row => filter.rating.all fun rating => rating.isFalsy || rating.equals row.rating

def MAX_RESPONSES : Nat := 500

/-- `SurveyResponsesService.list`. -/
def responsesFor (base : FeedbackBase) (lifted : Lifted base.toSurveyDesk) (eventId : Nat)
    (rating : Option JsNumber) : List ResponseRow :=
  listResponses base lifted eventId { rating, limit := MAX_RESPONSES }

end EventaApi.Source
