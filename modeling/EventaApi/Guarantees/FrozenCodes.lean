import EventaApi.Guarantees.DiscountLimits

/-!
# Frozen terms, disabled codes and deleted ones

A redeemed code's text, type and value stay and its limit covers what was given
away; a disabled code stays disabled until it is enabled; a deleted one is neither
quoted nor redeemed again. What a request may write is judged on the row it read,
and the version it checks moves with a change of the terms but not with a use. So
each holds while nothing lands on a code that was overtaken: an update on one
redeemed since, a status synchronisation on one disabled since, an erasure on one
redeemed since, a placement with one deleted since it was quoted.
-/
namespace EventaApi.Guarantees
open Library Source

/-! ## The condition on each turn -/

/-- What a write finds has not been overtaken since its request read it. -/
def landsSafely (codes : Table DiscountCode) : DeskPhase → Prop
  | .writeUpdate row values => ∀ current ∈ codes.rows, current.id = row.id →
    current.version = row.version → current.deletedAt = none →
      current.used = row.used ∨ Permitted current values
  | .erase id => ∀ current ∈ codes.rows, current.id = id → current.used = 0
  | .sync changes => ∀ change ∈ changes, ∀ current ∈ codes.rows, current.id = change.id →
    current.status ≠ .disabled
  | _ => True

instance (codes : Table DiscountCode) : (phase : DeskPhase) → Decidable (landsSafely codes phase)
  | .writeUpdate _ _ | .erase _ | .sync _ => inferInstanceAs (Decidable (∀ _ ∈ _, _))
  | .checkFree _ | .insert _ | .loadUpdate _ _ | .checkText _ _ _ _ _ | .loadDisable _
  | .writeDisable _ | .loadEnable _ | .writeEnable _ _ | .loadDelete _ | .retire _
  | .readLive | .price _ _ | .place _ _ _ _ | .done _ => isTrue trivial

/-- The code an order is placed with has not been deleted. -/
def SellsLive (db : Db) (input : PlaceOrderInput) : Prop :=
  ∀ codeId ∈ input.discountCodeId,
    findByIdempotencyKey db input.idempotencyKey = none → input.totals.discountSatang ≠ 0 →
      ∀ code ∈ db.discountCodes.rows, code.id = codeId → code.deletedAt = none

instance (db : Db) (input : PlaceOrderInput) : Decidable (SellsLive db input) :=
  inferInstanceAs (Decidable (∀ codeId ∈ input.discountCodeId, _))

def WritesSafely (desk : Promotions) : DeskTurn → Prop
  | .advance callId _ => landsSafely desk.office.db.discountCodes (deskPhaseOf desk callId)
  | _ => True

instance (desk : Promotions) : (turn : DeskTurn) → Decidable (WritesSafely desk turn)
  | .advance callId _ =>
    inferInstanceAs (Decidable (landsSafely desk.office.db.discountCodes (deskPhaseOf desk callId)))
  | .checkout _ _ | .organize _ | .receive _ | .crash _ => isTrue trivial

def PlacesLive (desk : Promotions) (turn : DeskTurn) : Prop :=
  ∀ input ∈ placing desk turn, SellsLive desk.office.db input

instance (desk : Promotions) (turn : DeskTurn) : Decidable (PlacesLive desk turn) :=
  inferInstanceAs (Decidable (∀ input ∈ placing desk turn, _))

/-- Nothing a request writes lands on a code that was overtaken since it was read. -/
def NotOvertaken (desk : Promotions) (turn : DeskTurn) : Prop :=
  WritesSafely desk turn ∧ PlacesLive desk turn

instance (desk : Promotions) (turn : DeskTurn) : Decidable (NotOvertaken desk turn) :=
  inferInstanceAs (Decidable (_ ∧ _))

/-- No enabling of this code takes effect in this step. -/
def leavesSwitch (codes : Table DiscountCode) (id : Nat) : DeskPhase → Prop
  | .writeEnable row _ => ∀ current ∈ codes.rows, current.id = id → row.id = id →
    current.version = row.version → current.deletedAt ≠ none
  | _ => True

instance (codes : Table DiscountCode) (id : Nat) : (phase : DeskPhase) →
    Decidable (leavesSwitch codes id phase)
  | .writeEnable _ _ => inferInstanceAs (Decidable (∀ _ ∈ _, _))
  | .checkFree _ | .insert _ | .loadUpdate _ _ | .checkText _ _ _ _ _ | .writeUpdate _ _
  | .loadDisable _ | .writeDisable _ | .loadEnable _ | .loadDelete _ | .erase _ | .retire _
  | .readLive | .sync _ | .price _ _ | .place _ _ _ _ | .done _ => isTrue trivial

/-- The organizer does not enable this code. -/
def NotEnabled (id : Nat) (desk : Promotions) : DeskTurn → Prop
  | .advance callId _ => leavesSwitch desk.office.db.discountCodes id (deskPhaseOf desk callId)
  | _ => True

instance (id : Nat) (desk : Promotions) : (turn : DeskTurn) → Decidable (NotEnabled id desk turn)
  | .advance callId _ => inferInstanceAs
    (Decidable (leavesSwitch desk.office.db.discountCodes id (deskPhaseOf desk callId)))
  | .checkout _ _ | .organize _ | .receive _ | .crash _ => isTrue trivial

/-! ## How a code moves -/

/-- The text, type and value an order was priced by. -/
structure SameWorth (new old : DiscountCode) : Prop where
  code : new.code = old.code
  type : new.type = old.type
  value : new.value = old.value

/-- What every step does to a code: uses and versions go up, and a deleted code stays deleted. -/
structure CodeMoved (new old : DiscountCode) : Prop where
  id : new.id = old.id
  used : old.used ≤ new.used
  version : old.version ≤ new.version
  deleted : old.deletedAt.isSome → new.deletedAt.isSome
  redeemed : old.used ≠ 0 → SameWorth new old
  /-- Only a versioned write changes the terms. -/
  unversioned : new.version = old.version →
    SameWorth new old ∧ new.redemptionLimit = old.redemptionLimit
  /-- Only a versioned write disables a live code. -/
  disabled : new.version = old.version → new.deletedAt = none → new.status = .disabled →
    old.status = .disabled

/-- Codes come and are used; a used one is never lost. -/
structure CodesMoved (before after : Table DiscountCode) : Prop where
  next : before.next ≤ after.next
  known : ∀ new ∈ after, (∃ old ∈ before, CodeMoved new old) ∨ before.next ≤ new.id
  kept : ∀ old ∈ before, old.used ≠ 0 → ∃ new ∈ after, CodeMoved new old

section Moving

variable {codes : Table DiscountCode} {first second third : Table DiscountCode}

theorem sameWorth_refl (code : DiscountCode) : SameWorth code code := ⟨rfl, rfl, rfl⟩

theorem sameWorth_trans {new middle old : DiscountCode} (later : SameWorth new middle)
    (earlier : SameWorth middle old) : SameWorth new old :=
  ⟨later.code.trans earlier.code, later.type.trans earlier.type, later.value.trans earlier.value⟩

theorem codeMoved_refl (code : DiscountCode) : CodeMoved code code where
  id := rfl
  used := le_rfl
  version := le_rfl
  deleted := id
  redeemed := fun _ => sameWorth_refl code
  unversioned := fun _ => ⟨sameWorth_refl code, rfl⟩
  disabled := fun _ _ => id

theorem codeMoved_trans {new middle old : DiscountCode} (later : CodeMoved new middle)
    (earlier : CodeMoved middle old) : CodeMoved new old where
  id := later.id.trans earlier.id
  used := le_trans earlier.used later.used
  version := le_trans earlier.version later.version
  deleted := later.deleted ∘ earlier.deleted
  redeemed := by
    intro redeemed
    have used := earlier.used
    exact sameWorth_trans (later.redeemed (by omega)) (earlier.redeemed redeemed)
  unversioned := by
    intro version
    have up := later.version
    have up' := earlier.version
    obtain ⟨worth, limit⟩ := later.unversioned (by omega)
    obtain ⟨worth', limit'⟩ := earlier.unversioned (by omega)
    exact ⟨sameWorth_trans worth worth', limit.trans limit'⟩
  disabled := by
    intro version live disabled
    have up := later.version
    have up' := earlier.version
    have livesMiddle : middle.deletedAt = none := by
      by_contra gone
      have still := later.deleted (Option.isSome_iff_ne_none.mpr gone)
      simp [live] at still
    exact earlier.disabled (by omega) livesMiddle (later.disabled (by omega) live disabled)

theorem codesMoved_refl (codes : Table DiscountCode) : CodesMoved codes codes :=
  ⟨le_rfl, fun code stored => Or.inl ⟨code, stored, codeMoved_refl code⟩,
    fun code stored _ => ⟨code, stored, codeMoved_refl code⟩⟩

theorem codesMoved_trans (earlier : CodesMoved first second) (later : CodesMoved second third) :
    CodesMoved first third where
  next := le_trans earlier.next later.next
  known := by
    intro new member
    rcases later.known new member with ⟨middle, stored, moved⟩ | fresh
    · rcases earlier.known middle stored with ⟨old, stored', moved'⟩ | fresh
      · exact Or.inl ⟨old, stored', codeMoved_trans moved moved'⟩
      · exact Or.inr (moved.id ▸ fresh)
    · exact Or.inr (le_trans earlier.next fresh)
  kept := by
    intro old stored redeemed
    obtain ⟨middle, member, moved⟩ := earlier.kept old stored redeemed
    obtain ⟨new, member', moved'⟩ := later.kept middle member (by have := moved.used; omega)
    exact ⟨new, member', codeMoved_trans moved' moved⟩

/-- Rewriting each code as it may move moves the codes. -/
theorem codesMoved_update {hit : DiscountCode → Prop} [DecidablePred hit]
    {write : DiscountCode → DiscountCode} {keeps : ∀ row, Keyed.key (write row) = Keyed.key row}
    (moves : ∀ row ∈ codes, hit row → CodeMoved (write row) row) :
    CodesMoved codes (codes.update hit write keeps) where
  next := by rw [Table.next_update]
  known := by
    intro new member
    obtain ⟨old, stored, rfl⟩ := Table.mem_update.mp member
    refine Or.inl ⟨old, stored, ?_⟩
    split
    next selected => exact moves old stored selected
    · exact codeMoved_refl old
  kept := by
    intro old stored _
    by_cases selected : hit old
    · exact ⟨_, Table.mem_update_of_hit stored selected, moves old stored selected⟩
    · exact ⟨old, Table.mem_update_of_miss stored selected, codeMoved_refl old⟩

theorem codesMoved_insert (row : DiscountCode) : CodesMoved codes (codes.insert (newCode row)) where
  next := by
    rw [Table.next_insert]
    omega
  known := by
    intro new member
    rcases Table.mem_insert.mp member with old | rfl
    · exact Or.inl ⟨new, old, codeMoved_refl new⟩
    · exact Or.inr le_rfl
  kept := fun old stored _ => ⟨old, Table.mem_insert.mpr (Or.inl stored), codeMoved_refl old⟩

theorem codesMoved_erase (id : Nat) :
    CodesMoved codes (codes.delete fun row => row.id = id ∧ row.used = 0) where
  next := by rw [Table.next_delete]
  known := fun new member => Or.inl ⟨new, (Table.mem_delete.mp member).1, codeMoved_refl new⟩
  kept := fun old stored redeemed =>
    ⟨old, Table.mem_delete.mpr ⟨stored, fun gone => redeemed gone.2⟩, codeMoved_refl old⟩

theorem countUse_moved (code : DiscountCode) : CodeMoved (countUse code) code where
  id := rfl
  used := Nat.le_succ _
  version := le_rfl
  deleted := id
  redeemed := fun _ => ⟨rfl, rfl, rfl⟩
  unversioned := fun _ => ⟨⟨rfl, rfl, rfl⟩, rfl⟩
  disabled := by
    intro _ _ disabled
    by_contra other
    simp only [other, ne_eq, not_false_iff, true_and] at disabled
    split at disabled
    · cases disabled
    · exact other disabled

theorem retire_moved (code : DiscountCode) (now : Instant) :
    CodeMoved { code with deletedAt := some now, status := .disabled } code where
  id := rfl
  used := le_rfl
  version := le_rfl
  deleted := fun _ => rfl
  redeemed := fun _ => ⟨rfl, rfl, rfl⟩
  unversioned := fun _ => ⟨⟨rfl, rfl, rfl⟩, rfl⟩
  disabled := fun _ live => by cases live

theorem setValues_moved {values : DiscountValues} {version : Nat} {code : DiscountCode}
    (same : code.version = version)
    (redeemed : code.used ≠ 0 → SameWorth (setValues values (version + 1) code) code) :
    CodeMoved (setValues values (version + 1) code) code where
  id := rfl
  used := le_rfl
  version := by
    change code.version ≤ version + 1
    omega
  deleted := id
  redeemed := redeemed
  unversioned := by
    intro bumped
    change version + 1 = code.version at bumped
    omega
  disabled := by
    intro bumped
    change version + 1 = code.version at bumped
    omega

/-- A status written back that disables nothing. -/
theorem sync_moved {change : StatusChange} (enabled : change.status ≠ .disabled)
    (code : DiscountCode) : CodeMoved { code with status := change.status } code where
  id := rfl
  used := le_rfl
  version := le_rfl
  deleted := id
  redeemed := fun _ => ⟨rfl, rfl, rfl⟩
  unversioned := fun _ => ⟨⟨rfl, rfl, rfl⟩, rfl⟩
  disabled := fun _ _ disabled => absurd disabled enabled

theorem codesMoved_sync (changes : List StatusChange)
    (enabled : ∀ change ∈ changes, change.status ≠ .disabled) :
    CodesMoved codes (syncStatuses codes changes) :=
  sync_rule (CodesMoved codes) changes
    (fun _ change member moved => codesMoved_trans moved
      (codesMoved_update fun row _ _ => sync_moved (enabled change member) row))
    (codesMoved_refl codes)

end Moving

/-! ## What a request has read -/

/-- The row was read from the codes: what they have of it now moved on from it. -/
structure ReadOf (codes : Table DiscountCode) (row : DiscountCode) : Prop where
  issued : row.id < codes.next
  moved : ∀ current ∈ codes, current.id = row.id → CodeMoved current row

/-- What a request holds is what it read, and sets what the policy let it. -/
def Sound (codes : Table DiscountCode) : DeskPhase → Prop
  | .checkText row values code _ status => ReadOf codes row ∧ Permitted row { values with code } ∧
    (row.status = .disabled → status = .disabled)
  | .writeUpdate row values => ReadOf codes row ∧ Permitted row values ∧
    (row.status = .disabled → values.status = some .disabled)
  | .retire id => ∃ code ∈ codes, code.id = id ∧ code.used ≠ 0
  | .erase id => id < codes.next
  | .sync changes => ∀ change ∈ changes, change.status ≠ .disabled
  | .done (.deleted id .removed) => id < codes.next ∧ ∀ code ∈ codes, code.id ≠ id
  | .done (.deleted id .retired) =>
    ∃ code ∈ codes, code.id = id ∧ code.used ≠ 0 ∧ code.deletedAt.isSome
  | _ => True

section Reading

variable {codes before after : Table DiscountCode} {now : Instant} {phase next : DeskPhase}

theorem readOf_found {id : Nat} {row : DiscountCode} (found : findCode codes id = some row) :
    ReadOf codes row := by
  have stored := (Table.find_eq_some.mp (Option.filter_eq_some_iff.mp found).1).1
  refine ⟨Table.key_lt_next stored, fun current there same => ?_⟩
  have one : current = row := Table.eq_of_key there stored same
  exact one ▸ codeMoved_refl row

theorem readOf_moved (moved : CodesMoved before after) {row : DiscountCode}
    (read : ReadOf before row) : ReadOf after row where
  issued := lt_of_lt_of_le read.issued moved.next
  moved := by
    intro current stored same
    rcases moved.known current stored with ⟨old, there, step⟩ | fresh
    · exact codeMoved_trans step (read.moved old there (step.id.symm.trans same))
    · have issued := read.issued
      omega

theorem sound_moved (moved : CodesMoved before after) (sound : Sound before phase) :
    Sound after phase := by
  cases phase with
  | checkText | writeUpdate => exact ⟨readOf_moved moved sound.1, sound.2⟩
  | retire =>
    obtain ⟨code, stored, same, used⟩ := sound
    obtain ⟨new, member, step⟩ := moved.kept code stored used
    have grown := step.used
    exact ⟨new, member, step.id.trans same, by omega⟩
  | erase => exact lt_of_lt_of_le sound moved.next
  | done reply =>
    cases reply with
    | deleted id outcome =>
      cases outcome with
      | removed =>
        obtain ⟨issued, erased⟩ := sound
        refine ⟨lt_of_lt_of_le issued moved.next, fun code stored same => ?_⟩
        rcases moved.known code stored with ⟨old, there, step⟩ | fresh
        · exact erased old there (step.id.symm.trans same)
        · omega
      | retired =>
        obtain ⟨code, stored, same, used, gone⟩ := sound
        obtain ⟨new, member, step⟩ := moved.kept code stored used
        have grown := step.used
        exact ⟨new, member, step.id.trans same, by omega, step.deleted gone⟩
    | _ => trivial
  | _ => exact sound

theorem sound_answered {reply : DeskReply} (undeleted : ∀ id outcome, reply ≠ .deleted id outcome) :
    Sound codes (.done reply) := by
  cases reply with
  | deleted id outcome => exact absurd rfl (undeleted id outcome)
  | _ => trivial

theorem resolveStatus_ne_disabled {code : DiscountCode} (enabled : code.status ≠ .disabled) :
    resolveStatus code now ≠ .disabled := by
  unfold resolveStatus
  rw [if_neg enabled]
  split
  · decide
  · split <;> decide

theorem drifted_enabled {rows : List DiscountCode} {change : StatusChange}
    (member : change ∈ drifted rows now) : change.status ≠ .disabled := by
  obtain ⟨row, _, changed⟩ := List.mem_filterMap.mp member
  split at changed
  · cases changed
  next drifts =>
    cases changed
    refine resolveStatus_ne_disabled fun disabled => drifts ?_
    rw [resolveStatus_disabled disabled, disabled]

theorem saw_sound (saw : DeskSaw codes now phase next) (sound : Sound codes phase) :
    Sound codes next := by
  cases saw with
  | ended _ _ undeleted => exact sound_answered undeleted
  | stayed => exact sound
  | checked | disabling | enabling | pricing => trivial
  | updating _ _ row _ found permitted stays => exact ⟨readOf_found found, permitted, stays⟩
  | rewording _ _ row _ _ _ _ found permitted stays => exact ⟨readOf_found found, permitted, stays⟩
  | reworded row values code _ status =>
    obtain ⟨read, permitted, stays⟩ := sound
    exact ⟨read, ⟨permitted.terms, permitted.limit⟩, fun disabled => congrArg some (stays disabled)⟩
  | erasing _ _ found => exact (readOf_found found).issued
  | retiring _ row found used =>
    exact ⟨row, (Table.find_eq_some.mp (Option.filter_eq_some_iff.mp found).1).1, rfl, used⟩
  | listing => exact fun _ member => drifted_enabled member

end Reading

/-! ## What a step writes -/

section Writing

variable {office : Workspace} {draws : Draws} {phase : DeskPhase} {acted : DeskActed}

/-- The update may be made on the row as it is now. -/
theorem update_permitted {row current : DiscountCode} {values : DiscountValues}
    (sound : Sound office.db.discountCodes (.writeUpdate row values))
    (safe : landsSafely office.db.discountCodes (.writeUpdate row values))
    (stored : current ∈ office.db.discountCodes) (same : current.id = row.id)
    (version : current.version = row.version) (live : current.deletedAt = none) :
    Permitted current values := by
  obtain ⟨read, permitted, _⟩ := sound
  rcases safe current stored same version live with used | permitted'
  · obtain ⟨worth, limit⟩ := (read.moved current stored same).unversioned version
    refine ⟨fun redeemed => ?_, fun limited => used ▸ permitted.limit limited⟩
    rw [worth.code, worth.type, worth.value]
    exact permitted.terms (used ▸ redeemed)
  · exact permitted'

/-- A write of a loaded row takes no terms from a redeemed code. -/
theorem written_worth {row current : DiscountCode} {values : DiscountValues}
    (writes : rowWrite phase = some (row, values)) (sound : Sound office.db.discountCodes phase)
    (safe : landsSafely office.db.discountCodes phase)
    (stored : current ∈ office.db.discountCodes) (same : current.id = row.id)
    (version : current.version = row.version) (live : current.deletedAt = none)
    (redeemed : current.used ≠ 0) :
    SameWorth (setValues values (row.version + 1) current) current := by
  cases phase with
  | writeUpdate =>
    cases writes
    have permitted := update_permitted sound safe stored same version live
    obtain ⟨code, type, value⟩ := permitted.terms redeemed
    exact ⟨code, type, value⟩
  | writeDisable | writeEnable =>
    cases writes
    exact ⟨rfl, rfl, rfl⟩
  | _ => cases writes

theorem sound_covers (sound : Sound office.db.discountCodes phase)
    (safe : landsSafely office.db.discountCodes phase)
    (within : WithinLimit office.db.discountCodes) : Covers office.db.discountCodes phase := by
  intro row values writes current stored same version live limited
  cases phase with
  | writeUpdate =>
    cases writes
    have permitted := update_permitted sound safe stored same version live
    cases given : values.redemptionLimit with
    | none =>
      rw [given] at limited
      exact within current stored limited
    | some limit =>
      rw [given] at limited
      have covered := permitted.limit
      rw [given] at covered
      exact covered limited
  | writeDisable | writeEnable =>
    cases writes
    exact within current stored limited
  | _ => cases writes

theorem codesMoved_step (op : Op) :
    CodesMoved office.db.discountCodes (step office op).db.discountCodes := by
  rcases step_discounts office op with ⟨codes, _⟩ | ⟨input, placed, rfl, placement⟩
  · rw [codes]
    exact codesMoved_refl _
  · have redeemed := recordRedemption_ok placement.redeemed
    generalize (step office (.placeOrder input)).db.discountCodes = codes at redeemed
    generalize (step office (.placeOrder input)).db.discountRedemptions = rows at redeemed
    cases redeemed with
    | idle => exact codesMoved_refl _
    | counted => exact codesMoved_update fun code _ _ => countUse_moved code

theorem acts_codesMoved (acts : DeskActs office draws phase acted)
    (sound : Sound office.db.discountCodes phase)
    (safe : landsSafely office.db.discountCodes phase) :
    CodesMoved office.db.discountCodes acted.office.db.discountCodes := by
  cases acts with
  | read | erasedNothing => exact codesMoved_refl _
  | inserted row => exact codesMoved_insert row
  | updated _ row current values _ _ writes found version live =>
    refine codesMoved_update fun old stored same => ?_
    obtain ⟨there, named⟩ := Table.find_eq_some.mp found
    have one : old = current := Table.eq_of_key stored there (same.trans named.symm)
    subst one
    exact setValues_moved version fun redeemed =>
      written_worth writes sound safe stored same version live redeemed
  | retired => exact codesMoved_update fun code _ _ => retire_moved code office.clock
  | erased id => exact codesMoved_erase id
  | synced changes => exact codesMoved_sync changes sound
  | placed => exact codesMoved_step _

/-- A request goes on with what it read, and answers what it did. -/
theorem acts_sound (acts : DeskActs office draws phase acted)
    (sound : Sound office.db.discountCodes phase)
    (safe : landsSafely office.db.discountCodes phase) :
    Sound acted.office.db.discountCodes acted.phase := by
  cases acts with
  | read _ _ saw => exact saw_sound saw sound
  | inserted _ _ undeleted => exact sound_answered undeleted
  | updated _ _ _ _ _ undeleted => exact sound_answered undeleted
  | retired id =>
    obtain ⟨code, stored, same, used⟩ := sound
    by_cases live : code.deletedAt = none
    · exact ⟨_, Table.mem_update_of_hit stored ⟨same, live⟩, same, used, rfl⟩
    · exact ⟨code, Table.mem_update_of_miss stored fun hit => live hit.2, same, used,
        Option.isSome_iff_ne_none.mpr live⟩
  | erasedNothing id missing =>
    exact ⟨sound, fun code stored same => missing code stored same (safe code stored same)⟩
  | erased id =>
    refine ⟨?_, fun code member same => ?_⟩
    · change id < (office.db.discountCodes.delete _).next
      rw [Table.next_delete]
      exact sound
    · obtain ⟨stored, left⟩ := Table.mem_delete.mp member
      exact left ⟨same, safe code stored same⟩
  | synced => trivial
  | placed _ _ _ _ next onward =>
    rcases onward with ⟨attempt, rfl⟩ | ⟨reply, rfl, undeleted⟩
    · trivial
    · exact sound_answered undeleted

theorem step_disabled {id : Nat}
    (disabled : ∀ code ∈ office.db.discountCodes, code.id = id → code.status = .disabled)
    (op : Op) :
    ∀ code ∈ (step office op).db.discountCodes, code.id = id → code.status = .disabled := by
  rcases step_discounts office op with ⟨codes, _⟩ | ⟨input, placed, rfl, placement⟩
  · rwa [codes]
  · have redeemed := recordRedemption_ok placement.redeemed
    generalize (step office (.placeOrder input)).db.discountCodes = codes at redeemed
    generalize (step office (.placeOrder input)).db.discountRedemptions = rows at redeemed
    cases redeemed with
    | idle => exact disabled
    | counted =>
      intro code member same
      obtain ⟨old, stored, rfl⟩ := Table.mem_update.mp member
      split at same
      next hit =>
        rw [if_pos hit]
        simp [disabled old stored same]
      next miss =>
        rw [if_neg miss]
        exact disabled old stored same

/-- The organizer's switch-off stays, but for a write that enables the code. -/
theorem acts_disabled {id : Nat} (acts : DeskActs office draws phase acted)
    (sound : Sound office.db.discountCodes phase) (safe : landsSafely office.db.discountCodes phase)
    (unswitched : leavesSwitch office.db.discountCodes id phase)
    (issued : id < office.db.discountCodes.next)
    (disabled : ∀ code ∈ office.db.discountCodes, code.id = id → code.status = .disabled) :
    ∀ code ∈ acted.office.db.discountCodes, code.id = id → code.status = .disabled := by
  cases acts with
  | read | erasedNothing => exact disabled
  | inserted row =>
    intro code member same
    rcases Table.mem_insert.mp member with old | rfl
    · exact disabled code old same
    · exact absurd issued (same ▸ lt_irrefl _)
  | updated _ row current values _ _ writes found version live =>
    obtain ⟨there, named⟩ := Table.find_eq_some.mp found
    intro code member same
    obtain ⟨old, stored, rfl⟩ := Table.mem_update.mp member
    split at same
    next hit =>
      rw [if_pos hit]
      have one : old = current := Table.eq_of_key stored there (hit.trans named.symm)
      subst one
      have off := disabled old stored same
      cases phase with
      | writeUpdate =>
        cases writes
        obtain ⟨read, _, stays⟩ := sound
        simp [stays ((read.moved old stored hit).disabled version live off)]
      | writeDisable =>
        cases writes
        rfl
      | writeEnable =>
        cases writes
        exact absurd live (unswitched old stored same (hit.symm.trans same) version)
      | _ => cases writes
    next miss =>
      rw [if_neg miss]
      exact disabled old stored same
  | retired =>
    intro code member same
    obtain ⟨old, stored, rfl⟩ := Table.mem_update.mp member
    split at same
    next hit => rw [if_pos hit]
    next miss =>
      rw [if_neg miss]
      exact disabled old stored same
  | erased => exact fun code member => disabled code (Table.mem_delete.mp member).1
  | synced changes =>
    -- A change that hits the code would find it disabled.
    have synced : ∀ code ∈ syncStatuses office.db.discountCodes changes, code.id = id →
        code.status = .disabled ∧ ∃ old ∈ office.db.discountCodes, old.id = id := by
      refine sync_rule (fun codes => ∀ code ∈ codes, code.id = id →
        code.status = .disabled ∧ ∃ old ∈ office.db.discountCodes, old.id = id) changes ?_
        fun code stored same => ⟨disabled code stored same, code, stored, same⟩
      intro codes change written holds code member same
      obtain ⟨row, stored, rfl⟩ := Table.mem_update.mp member
      split at same
      next hit =>
        obtain ⟨_, old, there, named⟩ := holds row stored same
        exact absurd (disabled old there named)
          (safe change written old there (named.trans (same.symm.trans hit)))
      next miss =>
        rw [if_neg miss]
        exact holds row stored same
    exact fun code member same => (synced code member same).1
  | placed => exact step_disabled disabled _

end Writing

/-! ## Every run -/

/-- What is redeemed stays redeemed, and only live codes are redeemed. -/
structure Redeems (before after : Db) : Prop where
  kept : ∀ row ∈ before.discountRedemptions, row ∈ after.discountRedemptions
  fresh : ∀ row ∈ after.discountRedemptions, row ∈ before.discountRedemptions ∨
    ∃ code ∈ before.discountCodes, code.id = row.discountCodeId ∧ code.deletedAt = none

/-- The counts agree, no limit is passed, and every request holds what it read. -/
structure Frozen (desk : Promotions) : Prop where
  limited : Limited desk
  sound : ∀ call ∈ desk.calls, Sound desk.office.db.discountCodes call.phase

section Turns

theorem redeems_same {before after : Db}
    (same : after.discountRedemptions = before.discountRedemptions) : Redeems before after where
  kept := fun _ stored => same ▸ stored
  fresh := fun _ stored => Or.inl (same ▸ stored)

theorem step_redeems (office : Workspace) {op : Op}
    (live : ∀ input, op = .placeOrder input → SellsLive office.db input) :
    Redeems office.db (step office op).db := by
  rcases step_discounts office op with ⟨_, same⟩ | ⟨input, placed, rfl, placement⟩
  · exact redeems_same same
  · have sells := live input rfl
    have redeemed := recordRedemption_ok placement.redeemed
    generalize (step office (.placeOrder input)).db.discountCodes = codes at redeemed
    generalize rows : (step office (.placeOrder input)).db.discountRedemptions = after at redeemed
    cases redeemed with
    | idle => exact redeems_same rows
    | counted codeId named spent room =>
      obtain ⟨code, stored, same, _⟩ := room
      constructor
      · intro row there
        rw [rows]
        exact Table.mem_insert.mpr (Or.inl there)
      · intro row member
        rw [rows] at member
        rcases Table.mem_insert.mp member with old | rfl
        · exact Or.inl old
        · exact Or.inr ⟨code, stored, same, sells codeId named placement.unused spent code stored same⟩

theorem acts_redeems {office : Workspace} {draws : Draws} {phase : DeskPhase} {acted : DeskActed}
    (acts : DeskActs office draws phase acted)
    (live : ∀ input, placedBy draws phase = some input → SellsLive office.db input) :
    Redeems office.db acted.office.db := by
  cases acts with
  | placed input entry priced attempt =>
    refine step_redeems office fun order same => live order ?_
    cases same
    rfl
  | _ => exact redeems_same rfl

variable {desk : Promotions} {turn : DeskTurn}

/-- A safe turn moves the codes on, and redeems live ones. -/
theorem serve_moved (frozen : Frozen desk) (safe : NotOvertaken desk turn) :
    CodesMoved desk.office.db.discountCodes (servePromotions desk turn).office.db.discountCodes ∧
      Redeems desk.office.db (servePromotions desk turn).office.db := by
  obtain ⟨writes, places⟩ := safe
  rcases servePromotions_cases desk turn with
    ⟨op, uncoded, rfl, office⟩ | office | ⟨callId, draws, call, rfl, found, acted, acts, office, _⟩
  · rw [office]
    refine ⟨codesMoved_step op, step_redeems desk.office fun input same => ?_⟩
    subst same
    exact places input rfl
  · rw [office]
    exact ⟨codesMoved_refl _, redeems_same rfl⟩
  · rw [office]
    have lands : landsSafely desk.office.db.discountCodes call.phase :=
      deskPhaseOf_found found ▸ writes
    have sound := frozen.sound call (Table.find_eq_some.mp found).1
    refine ⟨acts_codesMoved acts sound lands, acts_redeems acts fun input placed => ?_⟩
    refine places input (Option.mem_def.mpr ?_)
    simpa only [placing, deskPhaseOf_found found] using placed

theorem serve_sound (frozen : Frozen desk) (safe : NotOvertaken desk turn) :
    ∀ call ∈ (servePromotions desk turn).calls,
      Sound (servePromotions desk turn).office.db.discountCodes call.phase := by
  cases turn with
  | checkout op =>
    exact fun call stored => sound_moved (codesMoved_step op) (frozen.sound call stored)
  | organize => exact frozen.sound
  | receive request =>
    intro call member
    rcases Table.mem_insert.mp member with old | rfl
    · exact frozen.sound call old
    · cases request <;> trivial
  | crash =>
    intro call member
    obtain ⟨old, stored, rfl⟩ := Table.mem_update.mp member
    split
    · trivial
    · exact frozen.sound old stored
  | advance callId draws =>
    cases found : desk.calls.find callId with
    | none =>
      simp only [servePromotions, found]
      exact frozen.sound
    | some call =>
      have acts := desk_cases desk.office desk.catalog draws call.phase
      have lands : landsSafely desk.office.db.discountCodes call.phase :=
        deskPhaseOf_found found ▸ safe.1
      have sound := frozen.sound call (Table.find_eq_some.mp found).1
      simp only [servePromotions, found]
      intro other member
      obtain ⟨old, stored, rfl⟩ := Table.mem_update.mp member
      split
      · exact acts_sound acts sound lands
      · exact sound_moved (acts_codesMoved acts sound lands) (frozen.sound old stored)

theorem serve_frozen (desk : Promotions) (turn : DeskTurn) (frozen : Frozen desk)
    (safe : NotOvertaken desk turn) : Frozen (servePromotions desk turn) where
  sound := serve_sound frozen safe
  limited := by
    obtain ⟨tallied, within⟩ := frozen.limited
    rcases servePromotions_cases desk turn with ⟨op, uncoded, rfl, office⟩ | office |
      ⟨callId, draws, call, rfl, found, acted, acts, office, _⟩
    · constructor <;> rw [office]
      · exact tallied_step tallied uncoded
      · exact step_withinLimit within op
    · constructor <;> rw [office]
      · exact tallied
      · exact within
    · have lands : landsSafely desk.office.db.discountCodes call.phase :=
        deskPhaseOf_found found ▸ safe.1
      have sound := frozen.sound call (Table.find_eq_some.mp found).1
      constructor <;> rw [office]
      · exact acts_tallied acts tallied
      · exact acts_withinLimit acts within (sound_covers sound lands within)

/-- What stays of the codes and redemptions there were. -/
structure Since (before desk : Promotions) : Prop where
  frozen : Frozen desk
  moved : CodesMoved before.office.db.discountCodes desk.office.db.discountCodes
  kept : ∀ row ∈ before.office.db.discountRedemptions, row ∈ desk.office.db.discountRedemptions
  /-- A retired code is not redeemed again. -/
  retired : ∀ code ∈ before.office.db.discountCodes, code.used ≠ 0 → code.deletedAt.isSome →
    ∀ row ∈ desk.office.db.discountRedemptions, row.discountCodeId = code.id →
      row ∈ before.office.db.discountRedemptions

theorem serve_since {before : Promotions} (desk : Promotions) (turn : DeskTurn)
    (since : Since before desk) (safe : NotOvertaken desk turn) :
    Since before (servePromotions desk turn) := by
  obtain ⟨moved, redeems⟩ := serve_moved since.frozen safe
  refine ⟨serve_frozen desk turn since.frozen safe, codesMoved_trans since.moved moved,
    fun row stored => redeems.kept row (since.kept row stored), ?_⟩
  intro code stored used gone row member same
  rcases redeems.fresh row member with old | ⟨live, there, named, undeleted⟩
  · exact since.retired code stored used gone row old same
  · obtain ⟨new, there', step⟩ := since.moved.kept code stored used
    have one : live = new := Table.eq_of_key there there' (named.trans (same.trans step.id.symm))
    have deleted := step.deleted gone
    rw [← one, undeleted] at deleted
    cases deleted

/-- The code is there no more, or is disabled. -/
structure Disabled (id : Nat) (desk : Promotions) : Prop where
  frozen : Frozen desk
  issued : id < desk.office.db.discountCodes.next
  disabled : ∀ code ∈ desk.office.db.discountCodes, code.id = id → code.status = .disabled

theorem serve_disabled {id : Nat} (desk : Promotions) (turn : DeskTurn) (off : Disabled id desk)
    (quiet : NotOvertaken desk turn ∧ NotEnabled id desk turn) :
    Disabled id (servePromotions desk turn) := by
  obtain ⟨safe, unswitched⟩ := quiet
  have moved := (serve_moved off.frozen safe).1
  refine ⟨serve_frozen desk turn off.frozen safe, lt_of_lt_of_le off.issued moved.next, ?_⟩
  rcases servePromotions_cases desk turn with
    ⟨op, uncoded, rfl, office⟩ | office | ⟨callId, draws, call, rfl, found, acted, acts, office, _⟩
  · rw [office]
    exact step_disabled off.disabled op
  · rw [office]
    exact off.disabled
  · rw [office]
    exact acts_disabled acts (off.frozen.sound call (Table.find_eq_some.mp found).1)
      (deskPhaseOf_found found ▸ safe.1) (deskPhaseOf_found found ▸ unswitched) off.issued
      off.disabled

theorem unredeemed_frozen (unredeemed : Unredeemed desk) : Frozen desk where
  limited := unredeemed_limited unredeemed
  sound := fun call stored => absurd stored (Table.not_mem_of_empty unredeemed.calls call)

/-- A code with a redemption has been redeemed. -/
theorem redemptionsOf_ne_zero {redemptions : Table DiscountRedemption} {row : DiscountRedemption}
    (stored : row ∈ redemptions) : redemptionsOf redemptions row.discountCodeId ≠ 0 := by
  unfold redemptionsOf
  rw [ne_eq, List.length_eq_zero_iff]
  exact Table.select_ne_nil.mpr ⟨row, stored, rfl⟩

end Turns

/-! ## A code that was deleted -/

/-- A code that is quoted is there, and not deleted. -/
theorem quote_live {db : Db} {events : Table Event} {rates : OrgRates} {now : Instant}
    {input : DiscountQuoteInput} {result : DiscountQuoteResult}
    (quoted : quote db events rates now input = .ok result) :
    ∃ code ∈ db.discountCodes, code.id = result.discountCodeId ∧ code.deletedAt = none := by
  unfold quote at quoted
  split at quoted
  · cases quoted
  · split at quoted
    · cases quoted
    · obtain ⟨text, _, quoted⟩ := bind_ok quoted
      split at quoted
      · cases quoted
      next row found =>
        obtain ⟨_, _, quoted⟩ := bind_ok quoted
        obtain ⟨_, _, quoted⟩ := bind_ok quoted
        cases quoted
        obtain ⟨stored, _, live, _⟩ := findUsable_mem found
        exact ⟨row, stored, rfl, live⟩

/-- The code can be neither quoted nor redeemed any more: it is erased, or retired with its past. -/
structure Gone (before after : Db) (id : Nat) (outcome : DeleteOutcome) : Prop where
  unquoted : ∀ events rates now input result, quote after events rates now input = .ok result →
    result.discountCodeId ≠ id
  unredeemed : ∀ row ∈ after.discountRedemptions, row.discountCodeId = id →
    row ∈ before.discountRedemptions
  removed : outcome = .removed → ∀ code ∈ after.discountCodes, code.id ≠ id
  retired : outcome = .retired → (∃ code ∈ after.discountCodes, code.id = id) ∧
    ∀ row ∈ before.discountRedemptions, row.discountCodeId = id → row ∈ after.discountRedemptions

theorem since_gone {before after : Promotions} (frozen : Frozen before) (since : Since before after)
    {call : DeskCall} (stored : call ∈ before.calls) {id : Nat} {outcome : DeleteOutcome}
    (answered : call.phase = .done (.deleted id outcome)) :
    Gone before.office.db after.office.db id outcome := by
  have sound := frozen.sound call stored
  rw [answered] at sound
  have still := sound_moved since.moved sound
  cases outcome with
  | removed =>
    obtain ⟨_, erased⟩ := still
    refine ⟨fun _ _ _ _ _ quoted same => ?_, fun row member same => ?_, fun _ => erased,
      fun other => absurd other (by decide)⟩
    · obtain ⟨code, there, named, _⟩ := quote_live quoted
      exact erased code there (named.trans same)
    · obtain ⟨code, there, named⟩ :=
        Table.isSome_find.mp (since.frozen.limited.tallied.coded row member)
      exact absurd (named.trans same) (erased code there)
  | retired =>
    obtain ⟨old, there, rfl, used, gone⟩ := sound
    obtain ⟨new, there', named, _, gone'⟩ := still
    refine ⟨fun _ _ _ _ _ quoted same => ?_,
      fun row member same => since.retired old there used gone row member same,
      fun other => absurd other (by decide),
      fun _ => ⟨⟨new, there', named⟩, fun row member _ => since.kept row member⟩⟩
    obtain ⟨code, stored', named', live⟩ := quote_live quoted
    have one : code = new :=
      Table.eq_of_key stored' there' (named'.trans (same.trans named.symm))
    rw [← one, live] at gone'
    cases gone'

/-- Every code that was redeemed is still there, worth what it was. -/
def TermsKept (before after : Db) : Prop :=
  ∀ row ∈ before.discountRedemptions, ∃ old ∈ before.discountCodes, old.id = row.discountCodeId ∧
    ∃ new ∈ after.discountCodes, new.id = old.id ∧ SameWorth new old

/-- A code that was disabled is disabled still. -/
def StaysOff (before after : Db) (id : Nat) : Prop :=
  ∀ old ∈ before.discountCodes, old.id = id → old.status = .disabled →
    ∀ new ∈ after.discountCodes, new.id = id → new.status = .disabled

theorem since_terms {before after : Promotions} (frozen : Frozen before)
    (since : Since before after) : TermsKept before.office.db after.office.db := by
  intro row stored
  have tallied := frozen.limited.tallied
  obtain ⟨old, there, named⟩ := Table.isSome_find.mp (tallied.coded row stored)
  have used : old.used ≠ 0 := by
    rw [tallied.counted old there, show old.id = row.discountCodeId from named]
    exact redemptionsOf_ne_zero stored
  obtain ⟨new, there', moved⟩ := since.moved.kept old there used
  exact ⟨old, there, named, new, there', moved.id, moved.redeemed used⟩

/-- While nothing lands on a code that was overtaken, what the organizer settled stays. -/
theorem terms_frozen {desk : Promotions} (unredeemed : Unredeemed desk)
    {first later : List DeskTurn}
    (safe : Meets servePromotions NotOvertaken desk (first ++ later)) :
    let before := run servePromotions desk first
    let after := run servePromotions desk (first ++ later)
    TermsKept before.office.db after.office.db ∧
    WithinLimit after.office.db.discountCodes ∧
    (∀ id, Meets servePromotions (NotEnabled id) before later →
      StaysOff before.office.db after.office.db id) ∧
    (∀ call ∈ before.calls, ∀ id outcome, call.phase = .done (.deleted id outcome) →
      Gone before.office.db after.office.db id outcome) := by
  intro before after
  obtain ⟨early, late⟩ := meets_append.mp safe
  have frozen : Frozen before := run_invariant serve_frozen (unredeemed_frozen unredeemed) early
  have same : after = run servePromotions before later := run_append desk first later
  have begun : Since before before :=
    ⟨frozen, codesMoved_refl _, fun _ => id, fun _ _ _ _ _ stored _ => stored⟩
  have since : Since before after := same ▸ run_invariant serve_since begun late
  refine ⟨since_terms frozen since, since.frozen.limited.within, fun id unswitched => ?_,
    fun call stored id outcome answered => since_gone frozen since stored answered⟩
  intro code stored named off
  have begun : Disabled id before := by
    refine ⟨frozen, named ▸ Table.key_lt_next stored, fun other there named' => ?_⟩
    have one : other = code := Table.eq_of_key there stored (named'.trans named.symm)
    exact one ▸ off
  have off : Disabled id after := same ▸ run_invariant serve_disabled begun (late.and unswitched)
  exact off.disabled

/-- The code is redeemed, and then deleted. -/
def soldThenDeleted : List DeskTurn :=
  [applying "first", onward 0 "", onward 0 "ORD-1", .receive (.delete 0), onward 1 "", onward 1 ""]

/-- A second confirm with it is refused; a list runs. -/
def afterwards : List DeskTurn :=
  [applying "second", onward 2 "", .receive .list, onward 3 "", onward 3 ""]

theorem terms_frozen_promotion :
    let before := (run servePromotions promotion soldThenDeleted).office.db
    let after := (run servePromotions promotion (soldThenDeleted ++ afterwards)).office.db
    TermsKept before after ∧ Gone before after 0 .retired ∧
      before.discountRedemptions.rows.length = 1 := by
  obtain ⟨terms, _, _, gone⟩ := terms_frozen promotion_unredeemed
    (show Meets servePromotions NotOvertaken promotion (soldThenDeleted ++ afterwards)
      by decide +kernel)
  have answered : { id := 1, phase := .done (.deleted 0 .retired) } ∈
      (run servePromotions promotion soldThenDeleted).calls.rows := by decide +kernel
  exact ⟨terms, gone _ answered 0 .retired rfl, by decide +kernel⟩

/-- A new value is judged on a code nobody has used, which is then redeemed. -/
def overtakenUpdate : List DeskTurn :=
  [applying "first", onward 0 "", .receive (.update 0 { value := some 500 }), onward 1 "",
    onward 0 "ORD-1"]

/-- An expiry is read off a code, which is then disabled. -/
def overtakenSync : List DeskTurn :=
  [.receive (.update 0 { validUntil := some (some 10) }), onward 0 "", onward 0 "",
    .checkout (.tick 20) trivial, .receive .list, onward 1 "", .receive (.disable 0), onward 2 "",
    onward 2 ""]

/-- An erasure is decided on a code nobody has used, which is then redeemed. -/
def overtakenErase : List DeskTurn :=
  [applying "first", onward 0 "", .receive (.delete 0), onward 1 "", onward 0 "ORD-1", onward 1 ""]

/-- A second confirm is quoted before the code is retired. -/
def overtakenSale : List DeskTurn :=
  [applying "first", applying "second", onward 0 "", onward 1 "", onward 0 "ORD-1",
    .receive (.delete 0), onward 2 "", onward 2 ""]

/-- Each of the four kinds of overtaken write breaks what it should keep. -/
theorem terms_overtaken :
    ¬ TermsKept (run servePromotions promotion overtakenUpdate).office.db
      (run servePromotions promotion (overtakenUpdate ++ [onward 1 ""])).office.db ∧
    Meets servePromotions (NotEnabled 0) (run servePromotions promotion overtakenSync)
      [onward 1 ""] ∧
    ¬ StaysOff (run servePromotions promotion overtakenSync).office.db
      (run servePromotions promotion (overtakenSync ++ [onward 1 ""])).office.db 0 ∧
    { id := 1, phase := .done (.deleted 0 .removed) } ∈
      (run servePromotions promotion overtakenErase).calls.rows ∧
    ¬ Gone (run servePromotions promotion overtakenErase).office.db
      (run servePromotions promotion overtakenErase).office.db 0 .removed ∧
    { id := 2, phase := .done (.deleted 0 .retired) } ∈
      (run servePromotions promotion overtakenSale).calls.rows ∧
    ¬ Gone (run servePromotions promotion overtakenSale).office.db
      (run servePromotions promotion (overtakenSale ++ [onward 1 "ORD-2"])).office.db 0
      .retired := by
  refine ⟨fun kept => ?_, by decide +kernel, fun off => ?_, by decide +kernel, fun gone => ?_,
    by decide +kernel, fun gone => ?_⟩
  · have changed : ∃ row ∈ (run servePromotions promotion
        overtakenUpdate).office.db.discountRedemptions.rows,
        ∀ old ∈ (run servePromotions promotion overtakenUpdate).office.db.discountCodes.rows,
          ∀ new ∈ (run servePromotions promotion
            (overtakenUpdate ++ [onward 1 ""])).office.db.discountCodes.rows,
              new.value ≠ old.value := by decide +kernel
    obtain ⟨row, stored, differ⟩ := changed
    obtain ⟨old, there, _, new, there', _, worth⟩ := kept row stored
    exact differ old there new there' worth.value
  · have enabled : ∃ old ∈ (run servePromotions promotion
        overtakenSync).office.db.discountCodes.rows, old.id = 0 ∧ old.status = .disabled ∧
        ∃ new ∈ (run servePromotions promotion
          (overtakenSync ++ [onward 1 ""])).office.db.discountCodes.rows,
          new.id = 0 ∧ new.status ≠ .disabled := by decide +kernel
    obtain ⟨old, stored, named, disabled, new, stored', named', enabled⟩ := enabled
    exact enabled (off old stored named disabled new stored' named')
  · have left : ∃ code ∈ (run servePromotions promotion
        overtakenErase).office.db.discountCodes.rows, code.id = 0 := by decide +kernel
    obtain ⟨code, stored, named⟩ := left
    exact gone.removed rfl code stored named
  · have again : ∃ row ∈ (run servePromotions promotion
        (overtakenSale ++ [onward 1 "ORD-2"])).office.db.discountRedemptions.rows,
        row.discountCodeId = 0 ∧ row ∉ (run servePromotions promotion
          overtakenSale).office.db.discountRedemptions.rows := by decide +kernel
    obtain ⟨row, stored, named, fresh⟩ := again
    exact fresh (gone.unredeemed row stored named)

end EventaApi.Guarantees
