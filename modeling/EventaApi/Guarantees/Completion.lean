import Mathlib.Data.Set.Card
import Mathlib.Algebra.BigOperators.Group.Finset.Basic
import EventaApi.Guarantees.SurveyFigures
import EventaApi.Source.FeedbackReach

/-!
# Completion

The thank-you asks a person about an event, and a person completes what they were asked. The
figures count these pairs, however often one was sent or answered, so that they never pass all of
them, and an event's pairs are nobody else's.
-/
namespace EventaApi.Guarantees
open Library Source

/-- A delivery asks about an event in scope. -/
def AsksAbout (tables : ReachTables) (organizationId : Nat) (scope : FeedbackScope)
    (delivery : MessageDelivery) (eventId : Nat) : Prop :=
  delivery.organizationId = organizationId ∧ delivery.kind = POST_EVENT_THANKYOU_SLUG ∧
    delivery.status = .sent ∧ delivery.eventId = some eventId ∧
    (∀ only ∈ scope.eventId, eventId = only) ∧
    ∀ surveyId ∈ scope.surveyId, ∃ survey ∈ tables.surveys, survey.id = surveyId ∧
      survey.organizationId = organizationId ∧ survey.eventId = eventId

section
variable (lower : String → String) (tables : ReachTables) (organizationId : Nat)
  (scope : FeedbackScope)

/-- The thank-you reached the address in scope. -/
def IsAsked (pair : Nat × String) : Prop :=
  ∃ delivery ∈ tables.deliveries, AsksAbout tables organizationId scope delivery pair.1 ∧
    lower delivery.recipientEmail = pair.2

/-- Somebody of that address answered in scope. -/
def IsAnswered (pair : Nat × String) : Prop :=
  ∃ response ∈ tables.responses, response.organizationId = organizationId ∧
    InScope scope response.toSurveyResponse ∧ response.eventId = pair.1 ∧
    ∃ user ∈ tables.users, user.id = response.userId ∧ lower user.email = pair.2

end

variable {lower : String → String} {tables : ReachTables} {organizationId : Nat}
  {scope : FeedbackScope} {pair : Nat × String}

/-! ## The pairs -/

theorem surveyEvent_eq_some_iff {surveyId eventId : Nat} :
    surveyEvent tables organizationId surveyId = some eventId ↔
      ∃ survey ∈ tables.surveys, survey.id = surveyId ∧
        survey.organizationId = organizationId ∧ survey.eventId = eventId := by
  unfold surveyEvent
  rw [Option.map_eq_some_iff]
  constructor
  · rintro ⟨survey, found, about⟩
    obtain ⟨found, owned⟩ := Option.filter_eq_some_iff.mp found
    obtain ⟨member, keyed⟩ := Table.find_eq_some.mp found
    exact ⟨survey, member, keyed, of_decide_eq_true owned, about⟩
  · rintro ⟨survey, member, keyed, owned, about⟩
    refine ⟨survey, ?_, about⟩
    rw [Option.filter_eq_some_iff]
    exact ⟨Table.find_eq_some.mpr ⟨member, keyed⟩, decide_eq_true owned⟩

/-- What the `WHERE` of the deliveries says. -/
theorem asksAbout_iff {delivery : MessageDelivery} {eventId : Nat} :
    AsksAbout tables organizationId scope delivery eventId ↔
      (delivery.organizationId = organizationId && delivery.kind = POST_EVENT_THANKYOU_SLUG &&
        delivery.status = .sent && delivery.eventId.isSome &&
        scope.eventId.all (fun only => delivery.eventId = some only) &&
        scope.surveyId.all fun surveyId =>
          delivery.eventId = surveyEvent tables organizationId surveyId) = true ∧
      delivery.eventId = some eventId := by
  unfold AsksAbout
  simp only [Bool.and_eq_true, decide_eq_true_eq, Option.all_eq_true]
  constructor
  · rintro ⟨owned, kind, sent, about, only, surveyed⟩
    refine ⟨⟨⟨⟨⟨⟨owned, kind⟩, sent⟩, ?_⟩, ?_⟩, ?_⟩, about⟩
    · rw [about]
      rfl
    · intro eventId' chosen
      rw [about, only eventId' chosen]
    · intro surveyId chosen
      rw [about, surveyEvent_eq_some_iff.mpr (surveyed surveyId chosen)]
  · rintro ⟨⟨⟨⟨⟨⟨owned, kind⟩, sent⟩, _⟩, only⟩, surveyed⟩, about⟩
    refine ⟨owned, kind, sent, about, ?_, ?_⟩
    · intro eventId' chosen
      have same := only eventId' chosen
      rwa [about, Option.some.injEq] at same
    · intro surveyId chosen
      have same := surveyed surveyId chosen
      rw [about] at same
      exact surveyEvent_eq_some_iff.mp same.symm

theorem mem_asked_iff :
    pair ∈ tables.asked lower organizationId scope ↔
      IsAsked lower tables organizationId scope pair := by
  obtain ⟨eventId, email⟩ := pair
  unfold ReachTables.asked IsAsked
  simp only [List.mem_dedup, List.mem_filterMap, List.mem_filter, asksAbout_iff,
    Option.map_eq_some_iff, Prod.mk.injEq]
  constructor
  · rintro ⟨delivery, ⟨member, reached⟩, about, names, rfl, rfl⟩
    exact ⟨delivery, member, ⟨reached, names⟩, rfl⟩
  · rintro ⟨delivery, member, ⟨reached, names⟩, rfl⟩
    exact ⟨delivery, ⟨member, reached⟩, eventId, names, rfl, rfl⟩

theorem mem_answered_iff :
    pair ∈ tables.answered lower organizationId scope ↔
      IsAnswered lower tables organizationId scope pair := by
  obtain ⟨eventId, email⟩ := pair
  unfold ReachTables.answered IsAnswered innerJoin
  simp only [List.mem_dedup, List.mem_map, List.mem_filter, List.mem_flatMap, Prod.mk.injEq,
    Bool.and_eq_true, decide_eq_true_eq]
  constructor
  · rintro ⟨_, ⟨⟨response, member, user, ⟨among, own⟩, rfl⟩, owned, within⟩, rfl, rfl⟩
    exact ⟨response, member, owned, within, rfl, user, among, own, rfl⟩
  · rintro ⟨response, member, owned, within, rfl, user, among, own, rfl⟩
    exact ⟨_, ⟨⟨response, member, user, ⟨among, own⟩, rfl⟩, owned, within⟩, rfl, rfl⟩

/-! ## The figures -/

theorem ncard_mem {α : Type} [DecidableEq α] {list : List α} (distinct : list.Nodup) :
    Set.ncard {entry | entry ∈ list} = list.length := by
  have same : {entry | entry ∈ list} = (list.toFinset : Set α) := (List.coe_toFinset list).symm
  rw [same, Set.ncard_coe_finset, List.toFinset_card_of_nodup distinct]

theorem ncard_mem_and {α : Type} [DecidableEq α] {list : List α} (distinct : list.Nodup)
    {fact : α → Prop} {decided : DecidablePred fact} :
    Set.ncard {entry | entry ∈ list ∧ fact entry} =
      list.countP fun entry => decide (fact entry) := by
  rw [List.countP_eq_length_filter, ← ncard_mem (distinct.filter _)]
  congr 1
  ext entry
  rw [Set.mem_ofPred_eq, Set.mem_ofPred_eq, List.mem_filter, decide_eq_true_eq]

/-- The figures count the pairs. -/
theorem reachFor_eq (lower : String → String) (tables : ReachTables) (organizationId : Nat)
    (scope : FeedbackScope) : reachFor lower tables organizationId scope =
      { asked := Set.ncard {pair | IsAsked lower tables organizationId scope pair}
        answered := Set.ncard {pair | IsAsked lower tables organizationId scope pair ∧
          IsAnswered lower tables organizationId scope pair} } := by
  have once : (tables.asked lower organizationId scope).Nodup := List.nodup_dedup _
  have once' : (tables.answered lower organizationId scope).Nodup := List.nodup_dedup _
  obtain ⟨size, marked⟩ :=
    @leftJoin_distinct _ _ (tables.asked lower organizationId scope) _ once'
  simp only [← mem_asked_iff, ← mem_answered_iff]
  rw [Reach.mk.injEq]
  exact ⟨size.trans (ncard_mem once).symm, marked.trans (ncard_mem_and once).symm⟩

theorem finite_asked : {pair | IsAsked lower tables organizationId scope pair}.Finite := by
  apply (List.finite_toSet (tables.asked lower organizationId scope)).subset
  intro pair member
  exact mem_asked_iff.mpr member

theorem answered_le_asked : (reachFor lower tables organizationId scope).answered ≤
    (reachFor lower tables organizationId scope).asked := by
  rw [reachFor_eq]
  exact Set.ncard_le_ncard (fun _ both => both.1) finite_asked

/-- The rate is a percentage, unless nobody was asked. -/
theorem completionRate_within {reach : Reach} (fewer : reach.answered ≤ reach.asked) :
    if reach.asked = 0 then (completionOf reach).completionRate = none
    else ∃ rate, (completionOf reach).completionRate = some rate ∧ 0 ≤ rate ∧ rate ≤ 100 := by
  unfold completionOf
  split_ifs with nobody
  · rfl
  · have some : (0 : ℚ) < reach.asked := by
      exact_mod_cast Nat.pos_of_ne_zero nobody
    have fraction : (reach.answered : ℚ) / reach.asked ≤ 1 := by
      rw [div_le_one some]
      exact_mod_cast fewer
    have least : (0 : ℚ) ≤ (reach.answered : ℚ) / reach.asked := by positivity
    refine ⟨_, rfl, le_roundHalfUp ?_, roundHalfUp_le ?_⟩
    · unfold PERCENT
      push_cast
      linarith
    · unfold PERCENT
      push_cast
      linarith

/-! ## What changes them -/

/-- What is sent again says the same: to the address, in any spelling, about the same event. -/
structure Repeats (lower : String → String) (delivery again : MessageDelivery) : Prop where
  organizationId : again.organizationId = delivery.organizationId
  eventId : again.eventId = delivery.eventId
  kind : again.kind = delivery.kind
  status : again.status = delivery.status
  recipient : lower again.recipientEmail = lower delivery.recipientEmail

theorem asksAbout_repeats {delivery again : MessageDelivery} {eventId : Nat}
    (repeats : Repeats lower delivery again) :
    AsksAbout tables organizationId scope again eventId ↔
      AsksAbout tables organizationId scope delivery eventId := by
  unfold AsksAbout
  rw [repeats.organizationId, repeats.kind, repeats.status, repeats.eventId]

theorem isAsked_repeated {delivery again : MessageDelivery} (member : delivery ∈ tables.deliveries)
    (repeats : Repeats lower delivery again) :
    IsAsked lower { tables with deliveries := again :: tables.deliveries } organizationId scope
      pair ↔ IsAsked lower tables organizationId scope pair := by
  constructor
  · rintro ⟨sent, listed, asks, address⟩
    rcases List.mem_cons.mp listed with rfl | earlier
    · refine ⟨delivery, member, (asksAbout_repeats repeats).mp asks, ?_⟩
      rw [← repeats.recipient, address]
    · exact ⟨sent, earlier, asks, address⟩
  · rintro ⟨sent, earlier, asks, address⟩
    exact ⟨sent, List.mem_cons_of_mem _ earlier, asks, address⟩

/-- A delivery that is repeated changes nothing. -/
theorem reachFor_repeated {delivery again : MessageDelivery} (member : delivery ∈ tables.deliveries)
    (repeats : Repeats lower delivery again) :
    reachFor lower { tables with deliveries := again :: tables.deliveries } organizationId scope =
      reachFor lower tables organizationId scope := by
  rw [reachFor_eq, reachFor_eq]
  simp only [isAsked_repeated member repeats]
  rfl

/-- Another answer of a person, about an event they answered about in scope. -/
structure AnswersAgain (scope : FeedbackScope) (first again : OwnedResponse) : Prop where
  within : InScope scope first.toSurveyResponse
  organizationId : again.organizationId = first.organizationId
  userId : again.userId = first.userId
  eventId : again.eventId = first.eventId

theorem isAnswered_again {first again : OwnedResponse} (member : first ∈ tables.responses)
    (answers : AnswersAgain scope first again) :
    IsAnswered lower { tables with responses := again :: tables.responses } organizationId scope
      pair ↔ IsAnswered lower tables organizationId scope pair := by
  constructor
  · rintro ⟨response, listed, owned, within, about, user, among, own, address⟩
    rcases List.mem_cons.mp listed with rfl | earlier
    · rw [answers.organizationId] at owned
      rw [answers.eventId] at about
      rw [answers.userId] at own
      exact ⟨first, member, owned, answers.within, about, user, among, own, address⟩
    · exact ⟨response, earlier, owned, within, about, user, among, own, address⟩
  · rintro ⟨response, earlier, rest⟩
    exact ⟨response, List.mem_cons_of_mem _ earlier, rest⟩

/-- Nor does another answer about the same event. -/
theorem reachFor_again {first again : OwnedResponse} (member : first ∈ tables.responses)
    (answers : AnswersAgain scope first again) :
    reachFor lower { tables with responses := again :: tables.responses } organizationId scope =
      reachFor lower tables organizationId scope := by
  rw [reachFor_eq, reachFor_eq]
  simp only [isAnswered_again member answers]
  rfl

/-! ## The workspace and its events -/

def workspaceScope : FeedbackScope := { eventId := none, surveyId := none }

def eventScope (eventId : Nat) : FeedbackScope := { eventId := some eventId, surveyId := none }

theorem isAsked_eventScope {eventId : Nat} :
    IsAsked lower tables organizationId (eventScope eventId) pair ↔
      IsAsked lower tables organizationId workspaceScope pair ∧ pair.1 = eventId := by
  unfold IsAsked AsksAbout eventScope workspaceScope
  constructor
  · rintro ⟨delivery, member, ⟨owned, kind, sent, about, only, _⟩, address⟩
    refine ⟨⟨delivery, member, ⟨owned, kind, sent, about, ?_, ?_⟩, address⟩, only _ rfl⟩
    · rintro _ ⟨⟩
    · rintro _ ⟨⟩
  · rintro ⟨⟨delivery, member, ⟨owned, kind, sent, about, _, _⟩, address⟩, same⟩
    refine ⟨delivery, member, ⟨owned, kind, sent, about, ?_, ?_⟩, address⟩
    · rintro _ ⟨⟩
      exact same
    · rintro _ ⟨⟩

theorem isAnswered_eventScope {eventId : Nat} :
    IsAnswered lower tables organizationId (eventScope eventId) pair ↔
      IsAnswered lower tables organizationId workspaceScope pair ∧ pair.1 = eventId := by
  unfold IsAnswered InScope eventScope workspaceScope
  constructor
  · rintro ⟨response, member, owned, ⟨only, _⟩, about, user⟩
    refine ⟨⟨response, member, owned, ⟨?_, ?_⟩, about, user⟩, ?_⟩
    · rintro _ ⟨⟩
    · rintro _ ⟨⟩
    · rw [← about]
      exact only _ rfl
  · rintro ⟨⟨response, member, owned, _, about, user⟩, same⟩
    refine ⟨response, member, owned, ⟨?_, ?_⟩, about, user⟩
    · rintro _ ⟨⟩
      rw [about, same]
    · rintro _ ⟨⟩

/-- Pairs are as many as those of each event together. -/
theorem ncard_eq_sum {pairs : Set (Nat × String)} (finite : pairs.Finite) {events : Finset Nat}
    (covered : ∀ pair ∈ pairs, pair.1 ∈ events) :
    pairs.ncard = ∑ eventId ∈ events, Set.ncard {pair | pair ∈ pairs ∧ pair.1 = eventId} := by
  have maps : ∀ pair ∈ finite.toFinset, pair.1 ∈ events := fun pair member =>
    covered pair (finite.mem_toFinset.mp member)
  rw [Set.ncard_eq_toFinset_card pairs finite, Finset.card_eq_sum_card_fiberwise maps]
  apply Finset.sum_congr rfl
  intro eventId _
  rw [← Set.ncard_coe_finset]
  congr 1
  ext pair
  simp

/-- The events a workspace has asked anybody about are among these. -/
def CoversAsked (tables : ReachTables) (organizationId : Nat) (events : Finset Nat) : Prop :=
  ∀ delivery ∈ tables.deliveries, delivery.organizationId = organizationId →
    ∀ eventId ∈ delivery.eventId, eventId ∈ events

/-- The workspace's figures are the sums of those of its events. -/
theorem reachFor_workspace {events : Finset Nat}
    (covers : CoversAsked tables organizationId events) :
    (reachFor lower tables organizationId workspaceScope).asked =
      ∑ eventId ∈ events, (reachFor lower tables organizationId (eventScope eventId)).asked ∧
    (reachFor lower tables organizationId workspaceScope).answered =
      ∑ eventId ∈ events,
        (reachFor lower tables organizationId (eventScope eventId)).answered := by
  have covered : ∀ pair, IsAsked lower tables organizationId workspaceScope pair →
      pair.1 ∈ events := by
    rintro pair ⟨delivery, member, ⟨owned, _, _, about, _⟩, _⟩
    exact covers delivery member owned pair.1 about
  have finite := @finite_asked lower tables organizationId workspaceScope
  simp only [reachFor_eq, isAsked_eventScope, isAnswered_eventScope]
  constructor
  · exact ncard_eq_sum finite covered
  · rw [ncard_eq_sum (finite.subset fun _ both => both.1) fun pair both => covered pair both.1]
    apply Finset.sum_congr rfl
    intro eventId _
    congr 1
    ext pair
    constructor
    · rintro ⟨⟨asks, answers⟩, same⟩
      exact ⟨⟨asks, same⟩, answers, same⟩
    · rintro ⟨⟨asks, same⟩, answers, _⟩
      exact ⟨⟨asks, answers⟩, same⟩

/-! ## Completion -/

def twoSurveys : List OwnedSurvey := [
  { id := 1, eventId := 1, title := "Talks", status := .live, version := 1, organizationId := 1 },
  { id := 2, eventId := 1, title := "Food", status := .live, version := 1, organizationId := 1 }]

theorem twoSurveys_distinct : (twoSurveys.map Keyed.key).Nodup := by decide

theorem twoSurveys_issued : ∀ survey ∈ twoSurveys, Keyed.key survey < 3 := by decide

def firstResponse : OwnedResponse where
  id := 1
  surveyId := 1
  eventId := 1
  userId := 1
  submittedAt := 0
  organizationId := 1

/-- Somebody was asked about an event, and answered the first of its two surveys. -/
def askedOnce : ReachTables where
  deliveries := [{
    id := 1
    organizationId := 1
    eventId := some 1
    kind := POST_EVENT_THANKYOU_SLUG
    recipientEmail := "guest@example.com"
    status := .sent }]
  surveys := ⟨twoSurveys, 3, twoSurveys_distinct, twoSurveys_issued⟩
  responses := [firstResponse]
  users := [{ id := 1, email := "guest@example.com" }]

end EventaApi.Guarantees
