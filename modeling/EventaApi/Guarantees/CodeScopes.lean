import EventaApi.Guarantees.FrozenCodes

/-!
# One live code per text and scope

The schema keeps two codes of one event from having one text, whichever of an edit's
fields moves one there. To that constraint a workspace-wide code, whose event is null,
is distinct from every other, so of those nothing but the check before a write keeps
one per text: it is made before the write, and only by an edit that names a text. So
texts stay apart workspace-wide exactly while no write makes a code workspace-wide
whose text a live one has by then.
-/
namespace EventaApi.Guarantees
open Library Source

/-- At most one live code of this scope has a given text. -/
def OneText (scope : Option Nat) (codes : Table DiscountCode) : Prop :=
  ∀ left ∈ codes, ∀ right ∈ codes, left.deletedAt = none → right.deletedAt = none →
    left.eventId = scope → right.eventId = scope → left.code = right.code → left = right

/-- No other live workspace-wide code has this text. -/
def TextFree (codes : Table DiscountCode) (id : Nat) (text : String) : Prop :=
  ∀ other ∈ codes.rows, other.id ≠ id → other.eventId = none → other.deletedAt = none →
    other.code ≠ text

instance (codes : Table DiscountCode) (id : Nat) (text : String) :
    Decidable (TextFree codes id text) :=
  inferInstanceAs (Decidable (∀ _ ∈ _, _))

/-- A write that leaves a code workspace-wide leaves it with a text no other one has. -/
def widensAlone (codes : Table DiscountCode) : DeskPhase → Prop
  | .insert row => row.eventId = none → TextFree codes codes.next row.code
  | .writeUpdate row values => ∀ current ∈ codes.rows, current.id = row.id →
    current.version = row.version → current.deletedAt = none →
      values.eventId.getD current.eventId = none →
        TextFree codes row.id (values.code.getD current.code)
  | _ => True

instance (codes : Table DiscountCode) : (phase : DeskPhase) → Decidable (widensAlone codes phase)
  | .insert _ => inferInstanceAs (Decidable (_ → _))
  | .writeUpdate _ _ => inferInstanceAs (Decidable (∀ _ ∈ _, _))
  | .checkFree _ | .loadUpdate _ _ | .checkText _ _ _ _ _ | .loadDisable _ | .writeDisable _
  | .loadEnable _ | .writeEnable _ _ | .loadDelete _ | .erase _ | .retire _ | .readLive
  | .sync _ | .price _ _ | .place _ _ _ _ | .done _ => isTrue trivial

def WidensAlone (desk : Promotions) : DeskTurn → Prop
  | .advance callId _ => widensAlone desk.office.db.discountCodes (deskPhaseOf desk callId)
  | _ => True

instance (desk : Promotions) : (turn : DeskTurn) → Decidable (WidensAlone desk turn)
  | .advance callId _ =>
    inferInstanceAs (Decidable (widensAlone desk.office.db.discountCodes (deskPhaseOf desk callId)))
  | .checkout _ _ | .organize _ | .receive _ | .crash _ => isTrue trivial

/-! ## The writes -/

section Writes

variable {scope : Option Nat} {codes : Table DiscountCode}

/-- Where a code is found, and whether it is: what a use, a status or a deletion leaves. -/
structure SamePlace (new old : DiscountCode) : Prop where
  id : new.id = old.id
  code : new.code = old.code
  eventId : new.eventId = old.eventId
  live : new.deletedAt = none → old.deletedAt = none

theorem samePlace_refl (code : DiscountCode) : SamePlace code code := ⟨rfl, rfl, rfl, id⟩

/-- Rewriting codes in their places keeps one per text. -/
theorem oneText_update (one : OneText scope codes) {hit : DiscountCode → Prop} [DecidablePred hit]
    {write : DiscountCode → DiscountCode} {keeps : ∀ row, Keyed.key (write row) = Keyed.key row}
    (places : ∀ row ∈ codes, hit row → SamePlace (write row) row) :
    OneText scope (codes.update hit write keeps) := by
  have before (new : DiscountCode) (member : new ∈ codes.update hit write keeps) :
      ∃ old ∈ codes, SamePlace new old ∧ new = if hit old then write old else old := by
    obtain ⟨old, stored, rfl⟩ := Table.mem_update.mp member
    refine ⟨old, stored, ?_, rfl⟩
    split
    next selected => exact places old stored selected
    · exact samePlace_refl old
  intro left leftIn right rightIn leftLive rightLive leftScope rightScope text
  obtain ⟨left', leftOld, leftPlace, rfl⟩ := before left leftIn
  obtain ⟨right', rightOld, rightPlace, rfl⟩ := before right rightIn
  have same : left' = right' := one left' leftOld right' rightOld
    (leftPlace.live leftLive) (rightPlace.live rightLive)
    (leftPlace.eventId ▸ leftScope) (rightPlace.eventId ▸ rightScope)
    (leftPlace.code.symm.trans (text.trans rightPlace.code))
  rw [same]

/-- The schema's constraint, read off a written row. -/
theorem unclashed_text {row other : DiscountCode} {eventId : Nat}
    (unclashed : codeClashes codes row = false) (placed : row.eventId = some eventId)
    (stored : other ∈ codes) (apart : other.id ≠ row.id) (there : other.eventId = some eventId) :
    other.code ≠ row.code := by
  intro text
  have clear := List.any_eq_false.mp unclashed other stored
  simp [apart, placed, there, text] at clear

/-- A row joins the codes: nothing live in its scope has its text. -/
theorem oneText_insert (one : OneText scope codes) {row : DiscountCode}
    (apart : row.eventId = scope → ∀ other ∈ codes, other.eventId = scope →
      other.deletedAt = none → other.code ≠ row.code) :
    OneText scope (codes.insert (newCode row)) := by
  intro left leftIn right rightIn leftLive rightLive leftScope rightScope text
  rcases Table.mem_insert.mp leftIn with leftOld | rfl
  · rcases Table.mem_insert.mp rightIn with rightOld | rfl
    · exact one left leftOld right rightOld leftLive rightLive leftScope rightScope text
    · exact absurd text (apart rightScope left leftOld leftScope leftLive)
  · rcases Table.mem_insert.mp rightIn with rightOld | rfl
    · exact absurd text.symm (apart leftScope right rightOld rightScope rightLive)
    · rfl

/-- A row is rewritten: nothing else live in the scope it is given has its text. -/
theorem oneText_write (one : OneText scope codes) {current : DiscountCode} (stored : current ∈ codes)
    {values : DiscountValues} {version : Nat}
    (apart : (setValues values version current).eventId = scope → ∀ other ∈ codes,
      other.id ≠ current.id → other.eventId = scope → other.deletedAt = none →
        other.code ≠ (setValues values version current).code) :
    OneText scope (codes.update (fun code => code.id = current.id) (setValues values version)) := by
  have written (new : DiscountCode) (member : new ∈ codes.update (fun code => code.id = current.id)
      (setValues values version)) :
      (new ∈ codes ∧ new.id ≠ current.id) ∨ new = setValues values version current := by
    rcases Table.mem_update_cases member with ⟨old, there, hit, rfl⟩ | ⟨there, hit⟩
    · rw [Table.eq_of_key there stored hit]
      exact Or.inr rfl
    · exact Or.inl ⟨there, hit⟩
  intro left leftIn right rightIn leftLive rightLive leftScope rightScope text
  rcases written left leftIn with ⟨leftOld, leftOther⟩ | rfl
  · rcases written right rightIn with ⟨rightOld, _⟩ | rfl
    · exact one left leftOld right rightOld leftLive rightLive leftScope rightScope text
    · exact absurd text (apart rightScope left leftOld leftOther leftScope leftLive)
  · rcases written right rightIn with ⟨rightOld, rightOther⟩ | rfl
    · exact absurd text.symm (apart leftScope right rightOld rightOther rightScope rightLive)
    · rfl

end Writes

/-! ## One step -/

section Step

variable {office : Workspace} {draws : Draws} {phase : DeskPhase} {acted : DeskActed}
variable {scope : Option Nat}

/-- What a transaction of the workspace keeps: a use moves no code. -/
theorem step_oneText (one : OneText scope office.db.discountCodes) (op : Op) :
    OneText scope (step office op).db.discountCodes := by
  rcases step_discounts office op with ⟨codes, _⟩ | ⟨input, placed, rfl, placement⟩
  · rwa [codes]
  · have redeemed := recordRedemption_ok placement.redeemed
    generalize (step office (.placeOrder input)).db.discountCodes = codes at redeemed
    generalize (step office (.placeOrder input)).db.discountRedemptions = redemptions at redeemed
    cases redeemed with
    | idle => exact one
    | counted => exact oneText_update one fun _ _ _ => ⟨rfl, rfl, rfl, id⟩

/-- What a written row may share its text with: nothing of its event, and by the check
nothing workspace-wide. -/
theorem acts_oneText (acts : DeskActs office draws phase acted)
    (one : OneText scope office.db.discountCodes)
    (alone : scope = none → widensAlone office.db.discountCodes phase) :
    OneText scope acted.office.db.discountCodes := by
  cases acts with
  | read | erasedNothing => exact one
  | inserted row reply _ unclashed =>
    refine oneText_insert one fun placed other stored there live => ?_
    have apart : other.id ≠ office.db.discountCodes.next := Nat.ne_of_lt (Table.key_lt_next stored)
    cases scope with
    | none => exact alone rfl placed other stored apart there live
    | some eventId =>
      have text := unclashed_text unclashed placed stored apart there
      exact text
  | updated _ row current values _ _ writes found version live unclashed =>
    obtain ⟨stored, named⟩ := Table.find_eq_some.mp found
    have named : current.id = row.id := named
    rw [← named]
    refine oneText_write one stored fun placed other there apart within otherLive => ?_
    cases scope with
    | some eventId => exact unclashed_text unclashed placed there apart within
    | none =>
      cases phase with
      | writeUpdate =>
        cases writes
        exact alone rfl current stored named version live placed other there (named ▸ apart)
          within otherLive
      | writeDisable | writeEnable =>
        -- A switch leaves the text and the event as they are.
        cases writes
        intro text
        have same := one other there current stored otherLive live within placed text
        exact apart (congrArg DiscountCode.id same)
      | _ => cases writes
  | retired =>
    exact oneText_update one fun _ _ _ => ⟨rfl, rfl, rfl, fun gone => by cases gone⟩
  | erased =>
    intro left leftIn right rightIn
    exact one left (Table.mem_delete.mp leftIn).1 right (Table.mem_delete.mp rightIn).1
  | synced changes =>
    exact sync_rule (OneText scope) changes
      (fun _ _ _ one => oneText_update one fun _ _ _ => ⟨rfl, rfl, rfl, id⟩) one
  | placed => exact step_oneText one _

/-- No constraint stands between a workspace-wide row and the table. -/
theorem checkCode_wide {codes : Table DiscountCode} {events : Table Event} (row : DiscountCode)
    (wide : row.eventId = none) : checkCode codes events row = .ok () := by
  simp [checkCode, codeClashes, wide, foreignKey]

/-- A write that does not leave its code alone commits, and leaves two. -/
theorem crowds (catalog : Catalog) (draws : Draws) (crowded : ¬ widensAlone office.db.discountCodes phase) :
    ¬ OneText none (actAtDesk office catalog draws phase).office.db.discountCodes := by
  intro one
  cases phase with
  | insert row =>
    refine crowded fun wide other stored apart there live text => ?_
    have inserted : (actAtDesk office catalog draws (.insert row)).office.db.discountCodes =
        office.db.discountCodes.insert (newCode row) := by
      simp [actAtDesk, insertCode, checkCode_wide (newCode row office.db.discountCodes.next) wide,
        Workspace.withCodes, bind, Except.bind]
    rw [inserted] at one
    have same := one other (Table.mem_insert.mpr (Or.inl stored)) _
      (Table.mem_insert.mpr (Or.inr rfl)) live rfl there wide text
    exact apart (congrArg DiscountCode.id same)
  | writeUpdate row values =>
    refine crowded fun current stored named version live wide other there apart within otherLive
      text => ?_
    have found : office.db.discountCodes.find row.id = some current :=
      Table.find_eq_some.mpr ⟨stored, named⟩
    have updated :
        (actAtDesk office catalog draws (.writeUpdate row values)).office.db.discountCodes =
          office.db.discountCodes.update (fun code => code.id = row.id)
            (setValues values (row.version + 1)) := by
      simp [actAtDesk, writeRow, updateCode, found, version, live,
        checkCode_wide (setValues values (row.version + 1) current) wide,
        Workspace.withCodes, bind, Except.bind]
    rw [updated] at one
    have written : setValues values (row.version + 1) current ∈
        office.db.discountCodes.update (fun code => code.id = row.id)
          (setValues values (row.version + 1)) := Table.mem_update_of_hit stored named
    have same := one other (Table.mem_update_of_miss there apart) _ written otherLive live within
      wide text
    have sameId : other.id = current.id := by rw [same]
    exact apart (sameId.trans named)
  | _ => exact crowded trivial

end Step

/-! ## Every run -/

theorem serve_oneText {scope : Option Nat} (desk : Promotions) (turn : DeskTurn)
    (one : OneText scope desk.office.db.discountCodes)
    (alone : scope = none → WidensAlone desk turn) :
    OneText scope (servePromotions desk turn).office.db.discountCodes := by
  rcases servePromotions_cases desk turn with
    ⟨op, uncoded, rfl, office⟩ | office | ⟨callId, draws, call, rfl, found, acted, acts, office, _⟩
  · rw [office]
    exact step_oneText one op
  · rwa [office]
  · rw [office]
    exact acts_oneText acts one fun wide => deskPhaseOf_found found ▸ alone wide

/-- One live code per text, in every scope. -/
def OneLiveCode (desk : Promotions) : Prop :=
  ∀ scope, OneText scope desk.office.db.discountCodes

theorem serve_oneLiveCode (desk : Promotions) (turn : DeskTurn) (one : OneLiveCode desk) :
    OneLiveCode (servePromotions desk turn) ↔ WidensAlone desk turn := by
  constructor
  · intro still
    cases turn with
    | checkout | organize | receive | crash => trivial
    | advance callId draws =>
      by_contra crowded
      cases found : desk.calls.find callId with
      | none =>
        refine crowded ?_
        simp [WidensAlone, deskPhaseOf, found, widensAlone]
      | some call =>
        have crowded : ¬ widensAlone desk.office.db.discountCodes call.phase :=
          deskPhaseOf_found found ▸ crowded
        apply crowds desk.catalog draws crowded
        have wide := still none
        simpa [servePromotions, found] using wide
  · exact fun alone scope => serve_oneText desk turn (one scope) fun _ => alone

theorem promotion_oneLive : OneLiveCode promotion := by
  have alone : ∀ left ∈ promotion.office.db.discountCodes.rows,
      ∀ right ∈ promotion.office.db.discountCodes.rows, left = right := by decide +kernel
  exact fun _ left leftIn right rightIn _ _ _ _ _ => alone left leftIn right rightIn

/-- A workspace-wide code, or one of the promotion's event. -/
def making (text : String) (eventId : Option Nat) : DeskTurn :=
  .receive (.create { code := text, type := .fixed, value := 100, eventId })

/-- The second of two equal codes is refused; an edit gives the first another text. -/
def madeOnce : List DeskTurn :=
  [making "spring" none, onward 0 "", onward 0 "", making "Spring" none, onward 1 "",
    .receive (.update 1 { code := some "summer" }), onward 2 "", onward 2 "", onward 2 ""]

/-- Two requests find the text free before either inserts it. -/
def madeTwice : List DeskTurn :=
  [making "spring" none, making "spring" none, onward 0 "", onward 1 "", onward 0 "", onward 1 ""]

/-- An event's code is made workspace-wide by an edit that names no text. -/
def madeWide : List DeskTurn :=
  [making "promo" (some 0), onward 0 "", onward 0 "",
    .receive (.update 1 { eventId := some none }), onward 1 "", onward 1 ""]

end EventaApi.Guarantees
