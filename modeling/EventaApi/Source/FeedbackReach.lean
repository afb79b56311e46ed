import EventaApi.Library.Joins
import EventaApi.Source.Surveys

/-!
# Who the thank-you reached

`reachFor` pairs an event with an address, once for everybody the post-event thank-you reached and
once for everybody who answered, and joins the two. An address is compared by what `lower` makes
of it.
-/
namespace EventaApi.Source
open Library

def POST_EVENT_THANKYOU_SLUG : String := "post-event-thankyou"

def PERCENT : ℚ := 100

inductive DeliveryStatus where
  | sent | failed
  deriving DecidableEq, Repr

structure MessageDelivery where
  id : Nat
  organizationId : Nat
  /-- The event it was about, where there is one. -/
  eventId : Option Nat
  kind : String
  recipientEmail : String
  status : DeliveryStatus
  deriving DecidableEq, Repr

/-- A survey with its workspace. -/
structure OwnedSurvey extends Survey where
  organizationId : Nat
  deriving DecidableEq, Repr

instance : Keyed OwnedSurvey := ⟨fun survey => survey.id⟩

/-- A response with its workspace. -/
structure OwnedResponse extends SurveyResponse where
  organizationId : Nat
  deriving DecidableEq, Repr

structure UserAddress where
  id : Nat
  email : String
  deriving DecidableEq, Repr

structure ReachTables where
  deliveries : List MessageDelivery
  surveys : Table OwnedSurvey
  responses : List OwnedResponse
  users : List UserAddress

structure Reach where
  asked : Nat
  answered : Nat
  deriving DecidableEq, Repr

structure Completion where
  asked : Nat
  /-- Whole percent; nothing when nobody was asked. -/
  completionRate : Option Int
  deriving DecidableEq, Repr

section
variable (lower : String → String) (tables : ReachTables) (organizationId : Nat)
  (scope : FeedbackScope)

/-- The event of a survey of the workspace. -/
def surveyEvent (surveyId : Nat) : Option Nat :=
  ((tables.surveys.find surveyId).filter fun survey =>
    survey.organizationId = organizationId).map fun survey => survey.eventId

/-- Those the thank-you reached in scope; each once. -/
def ReachTables.asked : List (Nat × String) :=
  let reached := tables.deliveries.filter fun delivery =>
    delivery.organizationId = organizationId && delivery.kind = POST_EVENT_THANKYOU_SLUG &&
      delivery.status = .sent && delivery.eventId.isSome &&
      scope.eventId.all (fun eventId => delivery.eventId = some eventId) &&
      scope.surveyId.all fun surveyId =>
        delivery.eventId = surveyEvent tables organizationId surveyId
  (reached.filterMap fun delivery =>
    delivery.eventId.map fun eventId => (eventId, lower delivery.recipientEmail)).dedup

/-- Those who answered in scope; each once. -/
def ReachTables.answered : List (Nat × String) :=
  let joined := innerJoin tables.responses tables.users fun response user =>
    user.id = response.userId
  let given := joined.filter fun row =>
    row.1.organizationId = organizationId && InScope scope row.1.toSurveyResponse
  (given.map fun row => (row.1.eventId, lower row.2.email)).dedup

def reachFor : Reach :=
  let joined := leftJoin (tables.asked lower organizationId scope)
    (tables.answered lower organizationId scope) fun asked answered => answered = asked
  { asked := joined.length
    answered := joined.countP fun row => row.2.isSome }

end

/-- How many of those asked answered. Nobody asked is not nought per cent. -/
def completionOf (reach : Reach) : Completion where
  asked := reach.asked
  completionRate :=
    if reach.asked = 0 then none
    else some (roundHalfUp ((reach.answered : ℚ) / reach.asked * PERCENT))

end EventaApi.Source
