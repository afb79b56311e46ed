import EventaApi.Source.Confirm

/-!
# An event's own code

The lookup behind a quote takes the first of the codes a text may mean, in descending order of
the event they belong to. A code of the whole workspace has no event, and comes first. So an
event's own code is found, and is all that matters, where the workspace has none of its text.
-/
namespace EventaApi.Guarantees
open Library Source

/-- A live code of this text for every event of the workspace. -/
def IsWideCode (text : String) (row : DiscountCode) : Prop :=
  row.code = text ∧ row.deletedAt = none ∧ row.eventId = none

instance (text : String) : DecidablePred (IsWideCode text) :=
  fun _ => inferInstanceAs (Decidable (_ ∧ _ ∧ _))

def wideCodes (codes : Table DiscountCode) (text : String) : List DiscountCode :=
  codes.select (IsWideCode text)

/-- A live code of this text for the event alone. -/
def IsOwnCode (text : String) (eventId : Nat) (row : DiscountCode) : Prop :=
  row.code = text ∧ row.deletedAt = none ∧ row.eventId = some eventId

instance (text : String) (eventId : Nat) : DecidablePred (IsOwnCode text eventId) :=
  fun _ => inferInstanceAs (Decidable (_ ∧ _ ∧ _))

def ownCodes (codes : Table DiscountCode) (text : String) (eventId : Nat) : List DiscountCode :=
  codes.select (IsOwnCode text eventId)

/-! ## Which of two codes is found -/

section Lookup
variable {codes : Table DiscountCode} {text : String} {eventId : Nat}

theorem find_wide : (usableCodes codes text eventId).find? (fun row => row.eventId = none) =
    (wideCodes codes text).head? := by
  unfold usableCodes wideCodes Table.select
  rw [List.find?_filter, List.head?_filter]
  congr 1
  funext row
  apply Bool.eq_iff_iff.mpr
  simp only [decide_eq_true_eq]
  unfold IsWideCode
  tauto

theorem usableCodes_own (none : wideCodes codes text = []) :
    usableCodes codes text eventId = ownCodes codes text eventId := by
  unfold usableCodes ownCodes Table.select
  apply List.filter_congr
  intro row stored
  have narrow := Table.select_eq_nil.mp none row stored
  apply Bool.eq_iff_iff.mpr
  simp only [decide_eq_true_eq]
  unfold IsWideCode at narrow
  unfold IsOwnCode
  tauto

theorem findUsable_wide {row : DiscountCode} (first : (wideCodes codes text).head? = some row) :
    findUsable codes text eventId = some row := by
  unfold findUsable
  rw [find_wide, first, Option.some_or]

theorem findUsable_own (none : wideCodes codes text = []) :
    findUsable codes text eventId = (ownCodes codes text eventId).head? := by
  unfold findUsable
  rw [find_wide, none, usableCodes_own none, List.head?_nil, Option.none_or]

end Lookup

/-! ## The two runs -/

/-- What the buyer is told, and every redemption there is after it. -/
def redeems (db : Db) (catalog : Catalog) (now : Instant) (input : ConfirmOrderDto)
    (entry : Option OrganizerEntry) (draws : Draws) :
    Except TxError (OrderPlaced × Table DiscountRedemption) :=
  (confirm db catalog now input entry draws).map fun (placed, after) =>
    (placed, after.discountRedemptions)

/-- The event's own code of a text decides, whichever codes of that text the workspace has; the
workspace's is for the events that have none. -/
structure OwnCodeWins (codes other : Table DiscountCode) (text : String) (eventId : Nat) : Prop where
  found : ∀ own, (ownCodes codes text eventId).head? = some own →
    findUsable codes text eventId = some own ∧ findUsable other text eventId = some own
  quoted : ownCodes codes text eventId ≠ [] →
    ∀ (db : Db) (events : Table Event) (rates : OrgRates) (now : Instant)
      (input : DiscountQuoteInput), input.eventId = eventId → normaliseCode input.code = .ok text →
      quote { db with discountCodes := codes } events rates now input =
        quote { db with discountCodes := other } events rates now input
  redeemed : ownCodes codes text eventId ≠ [] →
    ∀ (db : Db) (catalog : Catalog) (now : Instant) (input : ConfirmOrderDto)
      (entry : Option OrganizerEntry) (draws : Draws), input.eventId = eventId →
      (∀ typed ∈ input.discountCode, normaliseCode typed = .ok text) →
      redeems { db with discountCodes := codes } catalog now input entry draws =
        redeems { db with discountCodes := other } catalog now input entry draws
  fallback : ownCodes codes text eventId = [] →
    findUsable codes text eventId = (wideCodes codes text).head?

theorem ownCodes_delete (codes : Table DiscountCode) (text : String) (eventId : Nat) :
    ownCodes (codes.delete (IsWideCode text)) text eventId = ownCodes codes text eventId := by
  unfold ownCodes Table.select
  rw [Table.rows_delete, List.filter_filter]
  apply List.filter_congr
  intro row _
  apply Bool.eq_iff_iff.mpr
  simp only [Bool.and_eq_true, Bool.not_eq_true', decide_eq_true_eq, decide_eq_false_iff_not]
  constructor
  · exact fun both => both.1
  · intro own
    refine ⟨own, fun wide => ?_⟩
    have workspace : row.eventId = none := wide.2.2
    rw [own.2.2] at workspace
    cases workspace

/-- A code of the event alone is found only where the workspace has none of its text. -/
theorem no_wide {codes : Table DiscountCode} {text : String} {eventId : Nat} {own : DiscountCode}
    (narrow : own.eventId ≠ none) (found : findUsable codes text eventId = some own) :
    wideCodes codes text = [] := by
  cases wide : wideCodes codes text with
  | nil => rfl
  | cons row rest =>
    have first : (wideCodes codes text).head? = some row := by rw [wide]; rfl
    have taken : findUsable codes text eventId = some row := findUsable_wide first
    have same : own = row := Option.some.inj (found.symm.trans taken)
    have workspace : row.eventId = none :=
      (Table.mem_select.mp (List.mem_of_head? first)).2.2.2
    exact absurd (same ▸ workspace) narrow

/-- Of two sets of codes that differ in the workspace's codes of one text, the event's own code
wins exactly where neither has one of those, or the event has no code of its own. -/
theorem ownCodeWins_iff {codes other : Table DiscountCode} (text : String) (eventId : Nat)
    (beside : codes.delete (IsWideCode text) = other.delete (IsWideCode text)) :
    OwnCodeWins codes other text eventId ↔
      (ownCodes codes text eventId ≠ [] →
        wideCodes codes text = [] ∧ wideCodes other text = []) := by
  have sameOwn : ownCodes codes text eventId = ownCodes other text eventId := by
    rw [← ownCodes_delete codes, ← ownCodes_delete other, beside]
  constructor
  · intro wins has
    obtain ⟨own, rest, shape⟩ := List.exists_cons_of_ne_nil has
    have first : (ownCodes codes text eventId).head? = some own := by rw [shape]; rfl
    have belongs : own.eventId = some eventId :=
      (Table.mem_select.mp (List.mem_of_head? first)).2.2.2
    have narrow : own.eventId ≠ none := by rw [belongs]; exact Option.some_ne_none _
    obtain ⟨here, there⟩ := wins.found own first
    exact ⟨no_wide narrow here, no_wide narrow there⟩
  · intro clear
    have same (has : ownCodes codes text eventId ≠ []) : codes = other := by
      rw [← Table.delete_of_miss (Table.select_eq_nil.mp (clear has).1), beside,
        Table.delete_of_miss (Table.select_eq_nil.mp (clear has).2)]
    refine ⟨?found, ?quoted, ?redeemed, ?fallback⟩
    case found =>
      intro own first
      have has : ownCodes codes text eventId ≠ [] := by
        intro none
        rw [none] at first
        cases first
      rw [findUsable_own (clear has).1, findUsable_own (clear has).2, ← sameOwn]
      exact ⟨first, first⟩
    case quoted =>
      intro has db events rates now input _ _
      rw [same has]
    case redeemed =>
      intro has db catalog now input entry draws _ _
      rw [same has]
    case fallback =>
      intro own
      cases wide : wideCodes codes text with
      | nil => rw [findUsable_own wide, own]
      | cons row rest => exact findUsable_wide (by rw [wide]; rfl)

/-- An event's half price, and the workspace's hundred satang off under the same text. -/
def ownHalf : DiscountCode :=
  { id := 0, eventId := some 7, code := "EARLY", type := .percent, value := 50, status := .active
    used := 0, redemptionLimit := 0 }

def wideHundred : DiscountCode :=
  { id := 1, code := "EARLY", type := .fixed, value := 100, status := .active, used := 0
    redemptionLimit := 0 }

def ownAndWide : Table DiscountCode :=
  (Table.empty.insert fun id => { ownHalf with id }).insert fun id => { wideHundred with id }

def ownAlone : Table DiscountCode := ownAndWide.delete (IsWideCode "EARLY")

/-- With and without the workspace's code. -/
theorem ownCodeWins_iff_early :
    OwnCodeWins ownAlone ownAndWide "EARLY" 7 ↔
      (ownCodes ownAlone "EARLY" 7 ≠ [] →
        wideCodes ownAlone "EARLY" = [] ∧ wideCodes ownAndWide "EARLY" = []) :=
  ownCodeWins_iff "EARLY" 7 (Table.delete_of_miss fun _ stored => (Table.mem_delete.mp stored).2)

/-- The event's own code is found alone, and loses to the workspace's. -/
theorem own_code_loses : ¬ OwnCodeWins ownAlone ownAndWide "EARLY" 7 := by
  intro wins
  have own : (ownCodes ownAlone "EARLY" 7).head? = some ownHalf := by decide +kernel
  have wide : findUsable ownAndWide "EARLY" 7 = some wideHundred := by decide +kernel
  have found := (wins.found ownHalf own).2
  rw [wide] at found
  exact absurd found (by decide)

end EventaApi.Guarantees
