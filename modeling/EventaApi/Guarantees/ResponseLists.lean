import Mathlib.Data.Prod.Lex
import EventaApi.Library.Pages
import EventaApi.Source.SurveyResponses

/-!
# Filtered response lists

The query cuts an event's responses to the newest so many before anybody looks at their
ratings. So a filtered list is the newest of the rating where the cut loses none of them, or
leaves nothing else; and a filter that is no number, or nothing, leaves whatever was cut.
-/
namespace EventaApi.Guarantees
open Library Source

/-- Later ones first, and of the same moment the one with the greater id. -/
def newness (row : ResponseRow) : ℕᵒᵈ ×ₗ ℕᵒᵈ :=
  toLex (OrderDual.toDual row.submittedAt, OrderDual.toDual row.id)

theorem newestFirst_iff (left right : ResponseRow) :
    newestFirst left right ↔ newness left ≤ newness right := by
  simp only [newestFirst, newness, Prod.Lex.toLex_le_toLex, OrderDual.toDual_lt_toDual,
    OrderDual.toDual_le_toDual, OrderDual.toDual_inj, eq_comm]

instance : Std.Total newestFirst where
  total left right := by
    rw [newestFirst_iff, newestFirst_iff]
    exact le_total _ _

instance : IsTrans ResponseRow newestFirst where
  trans first second third := by
    rw [newestFirst_iff, newestFirst_iff, newestFirst_iff]
    exact le_trans

/-! ## The responses of an event -/

section Rows
variable (base : FeedbackBase) (lifted : Lifted base.toSurveyDesk)

theorem joinedRow_some {response : SurveyResponse} (stored : response ∈ base.responses) :
    ∃ row, joinedRow base lifted response = some row ∧ row.id = response.id := by
  obtain ⟨survey, found⟩ := Option.isSome_iff_exists.mp (base.surveyed response stored)
  obtain ⟨name, named⟩ := Option.isSome_iff_exists.mp (base.signed response stored)
  unfold joinedRow
  rw [found, named]
  exact ⟨_, rfl, rfl⟩

/-- The joins lose no response. -/
theorem eventResponses_ids (eventId : Nat) :
    (eventResponses base lifted eventId).map ResponseRow.id =
      (base.responses.select fun row => row.eventId = eventId).map SurveyResponse.id := by
  have stored : ∀ response ∈ base.responses.select fun row => row.eventId = eventId,
      response ∈ base.responses := fun _ picked => (Table.mem_select.mp picked).1
  unfold eventResponses
  generalize base.responses.select (fun row => row.eventId = eventId) = picked at stored
  induction picked with
  | nil => rfl
  | cons head tail ih =>
    obtain ⟨row, joined, same⟩ := joinedRow_some base lifted (stored head List.mem_cons_self)
    rw [List.filterMap_cons_some joined, List.map_cons, List.map_cons, same,
      ih fun response later => stored response (List.mem_cons_of_mem _ later)]

theorem eventResponses_nodup (eventId : Nat) :
    ((eventResponses base lifted eventId).map ResponseRow.id).Nodup := by
  rw [eventResponses_ids]
  exact base.responses.distinct.sublist (List.filter_sublist.map _)

/-- In the query's order no two rows are level. -/
theorem sorted_strictly (eventId : Nat) :
    ((eventResponses base lifted eventId).insertionSort newestFirst).Pairwise
      fun left right => newness left < newness right := by
  have apart : ((eventResponses base lifted eventId).insertionSort newestFirst).Pairwise
      fun left right => left.id ≠ right.id := by
    have perm := List.perm_insertionSort newestFirst (eventResponses base lifted eventId)
    exact List.pairwise_map.mp
      ((perm.map _).nodup_iff.mpr (eventResponses_nodup base lifted eventId))
  have inOrder := List.pairwise_insertionSort newestFirst (eventResponses base lifted eventId)
  refine (inOrder.and apart).imp ?_
  rintro left right ⟨before, different⟩
  refine lt_of_le_of_ne ((newestFirst_iff left right).mp before) ?_
  intro level
  have ids := congrArg (fun place => OrderDual.ofDual (ofLex place).2) level
  exact different ids

end Rows

/-! ## The list that was asked for -/

/-- The rating a filter asks for; without one, any. -/
def hasRating (filter : ResponseFilter) (row : ResponseRow) : Bool :=
  filter.rating.all fun rating => rating.equals row.rating

/-- The list is the newest so many of every response of the event that has the rating asked
for, or all of them. -/
structure ListsNewest (base : FeedbackBase) (lifted : Lifted base.toSurveyDesk) (eventId : Nat)
    (filter : ResponseFilter) : Prop where
  page : IsPage newness filter.limit
    ((eventResponses base lifted eventId).filter (hasRating filter))
    (listResponses base lifted eventId filter)
  every : (eventResponses base lifted eventId).map ResponseRow.id =
    (base.responses.select fun row => row.eventId = eventId).map SurveyResponse.id

/-- Fewer than the limit of the event's responses are newer. -/
def AmongNewest (rows : List ResponseRow) (limit : Nat) (row : ResponseRow) : Prop :=
  ahead newness rows (newness row) < limit

/-- The event's newest responses are all of the rating; or, where the filter is truthy, every
response of the rating is one of them. -/
def CutKeeps (rows : List ResponseRow) (filter : ResponseFilter) : Prop :=
  ∀ rating ∈ filter.rating,
    (∀ row ∈ rows, AmongNewest rows filter.limit row → rating.equals row.rating = true) ∨
    (rating.isFalsy = false ∧
      ∀ row ∈ rows, rating.equals row.rating = true → AmongNewest rows filter.limit row)

section Cut
variable {rows sorted : List ResponseRow} (perm : sorted.Perm rows)
  (ordered : sorted.Pairwise fun left right => newness left < newness right)
include perm ordered

theorem mem_cut_iff {limit : Nat} {row : ResponseRow} :
    row ∈ sorted.take limit ↔ row ∈ rows ∧ AmongNewest rows limit row := by
  rw [mem_take_iff ordered, perm.mem_iff]
  unfold AmongNewest ahead
  rw [perm.countP_eq]

theorem mem_rest_iff {limit : Nat} {row : ResponseRow} :
    row ∈ sorted.drop limit ↔ row ∈ rows ∧ ¬ AmongNewest rows limit row := by
  have apart : sorted.Nodup := ordered.imp fun before => by
    rintro rfl
    exact absurd before (lt_irrefl _)
  have halves := apart
  rw [← List.take_append_drop limit sorted, List.nodup_append] at halves
  rw [← perm.mem_iff]
  constructor
  · intro after
    refine ⟨List.mem_of_mem_drop after, fun newest => ?_⟩
    have before := (mem_cut_iff perm ordered).mpr ⟨perm.mem_iff.mp (List.mem_of_mem_drop after), newest⟩
    exact halves.2.2 row before row after rfl
  · rintro ⟨stored, older⟩
    rw [← List.take_append_drop limit sorted, List.mem_append] at stored
    rcases stored with before | after
    · exact absurd ((mem_cut_iff perm ordered).mp before).2 older
    · exact after

theorem all_cut_iff {limit : Nat} {kind : ResponseRow → Bool} :
    (∀ row ∈ sorted.take limit, kind row = true) ↔
      ∀ row ∈ rows, AmongNewest rows limit row → kind row = true := by
  simp only [mem_cut_iff perm ordered, and_imp]

theorem none_lost_iff {limit : Nat} {kind : ResponseRow → Bool} :
    (∀ row ∈ sorted.drop limit, ¬ kind row = true) ↔
      ∀ row ∈ rows, kind row = true → AmongNewest rows limit row := by
  simp only [mem_rest_iff perm ordered, and_imp]
  refine forall₂_congr fun row _ => ?_
  exact not_imp_not

/-- Without the filter the cut is the page of a kind exactly where it holds nothing else. -/
theorem cut_eq_iff {limit : Nat} {kind : ResponseRow → Bool} :
    sorted.take limit = (sorted.filter kind).take limit ↔
      ∀ row ∈ rows, AmongNewest rows limit row → kind row = true := by
  rw [← all_cut_iff perm ordered]
  constructor
  · intro same row member
    rw [same] at member
    exact (List.mem_filter.mp (List.mem_of_mem_take member)).2
  · intro only
    rw [← filter_take_iff.mpr (Or.inl only)]
    exact (List.filter_eq_self.mpr only).symm

end Cut

/-- A list is what was asked for exactly where the cut keeps it. -/
theorem listsNewest_iff (base : FeedbackBase) (lifted : Lifted base.toSurveyDesk) (eventId : Nat)
    (filter : ResponseFilter) :
    ListsNewest base lifted eventId filter ↔
      CutKeeps (eventResponses base lifted eventId) filter := by
  have perm := List.perm_insertionSort newestFirst (eventResponses base lifted eventId)
  have ordered := sorted_strictly base lifted eventId
  have page (kind : ResponseRow → Bool) (listed : List ResponseRow) :
      IsPage newness filter.limit ((eventResponses base lifted eventId).filter kind) listed ↔
        listed = (((eventResponses base lifted eventId).insertionSort newestFirst).filter
          kind).take filter.limit :=
    isPage_iff (perm.filter kind) (ordered.filter kind)
  have whole : ListsNewest base lifted eventId filter ↔
      listResponses base lifted eventId filter =
        (((eventResponses base lifted eventId).insertionSort newestFirst).filter
          (hasRating filter)).take filter.limit := by
    rw [← page]
    exact ⟨ListsNewest.page, fun listed => ⟨listed, eventResponses_ids base lifted eventId⟩⟩
  rw [whole]
  unfold listResponses hasRating CutKeeps
  cases filter.rating with
  | none => simp
  | some rating =>
    simp only [Option.all_some, Option.mem_some_iff, forall_eq']
    cases falsy : rating.isFalsy with
    | true =>
      simp only [Bool.true_or, List.filter_true, reduceCtorEq, false_and, or_false]
      exact cut_eq_iff perm ordered
    | false =>
      simp only [Bool.false_or, true_and]
      rw [filter_take_iff, all_cut_iff perm ordered, none_lost_iff perm ordered]

/-! ## A rating below the cut -/

def oneSurvey : Table Survey :=
  Table.empty.insert fun id => { id, eventId := 7, title := "Thanks", status := .live, version := 1 }

/-- One response more than a list takes, each older than the one before. -/
def crowdedResponses : Table SurveyResponse where
  rows := (List.range (MAX_RESPONSES + 1)).map fun id =>
    { id, surveyId := 0, eventId := 7, userId := id, submittedAt := MAX_RESPONSES - id }
  next := MAX_RESPONSES + 1
  distinct := by
    rw [List.map_map]
    exact List.nodup_range.map fun _ _ same => same
  issued := by
    intro row member
    obtain ⟨id, below, rfl⟩ := List.mem_map.mp member
    exact List.mem_range.mp below

/-- The oldest response gave one star, and nobody else a rating. -/
def oneStar : FeedbackBase where
  surveys := oneSurvey
  questions := Table.empty
  responses := crowdedResponses
  answers := Table.empty.insert fun id =>
    { id, responseId := MAX_RESPONSES, questionId := 0, rating := some 1, answerText := none
      choice := none, score := none }
  clock := MAX_RESPONSES
  users _ := some "Anan"
  surveyed := by
    intro response member
    simp only [Table.mem_def, crowdedResponses, List.mem_map] at member
    obtain ⟨id, _, rfl⟩ := member
    have found : (oneSurvey.find 0).isSome = true := by decide +kernel
    exact found
  signed _ _ := rfl

/-- The list filtered by one star is empty, and misses the response that gave it. -/
theorem rating_lost :
    ¬ ListsNewest oneStar (firstLifted oneStar.toSurveyDesk) 7
      { rating := some (.finite 1), limit := MAX_RESPONSES } := by
  intro lists
  have empty : responsesFor oneStar (firstLifted oneStar.toSurveyDesk) 7 (some (.finite 1)) = [] := by
    decide +kernel
  have one : ((eventResponses oneStar (firstLifted oneStar.toSurveyDesk) 7).filter
      (hasRating { rating := some (.finite 1), limit := MAX_RESPONSES })).length = 1 := by
    decide +kernel
  obtain ⟨rest, _, _, size⟩ := lists.page
  rw [one] at size
  change (responsesFor oneStar (firstLifted oneStar.toSurveyDesk) 7 (some (.finite 1))).length = _
    at size
  rw [empty] at size
  exact absurd size (by decide)

end EventaApi.Guarantees
