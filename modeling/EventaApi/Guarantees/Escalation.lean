import EventaApi.Guarantees.Governance

/-!
# Access beyond one's own

An actor may hand out what their own role grants, and an Admin anything. Assigning a role
and saving a role's keys are checked against the actor, on a read before the write;
inviting somebody to a role and reactivating a member are not checked at all. What is
handed out is counted when it is: an invitation counts as access from the moment it is
written, so that its acceptance gives the invitee nothing that was not given before.
-/
namespace EventaApi.Guarantees
open Library Source

/-! ## What is asked of access -/

/-- The user holds the key. -/
def Holds (desk : AccessDesk) (userId : Nat) (key : PermissionKey) : Prop :=
  key ∈ getPermissions desk userId

/-- The user holds the key, or will when they accept their invitation. -/
def Reaches (desk : AccessDesk) (userId : Nat) (key : PermissionKey) : Prop :=
  Holds desk userId key ∨ ∃ row ∈ desk.directory.memberships.rows,
    row.userId = userId ∧ row.status = .invited ∧ key ∈ grantedKeys desk row.roleId

instance (desk : AccessDesk) (userId : Nat) : DecidablePred (Holds desk userId) :=
  fun _ => inferInstanceAs (Decidable (_ ∈ _))

instance (desk : AccessDesk) (userId : Nat) : DecidablePred (Reaches desk userId) :=
  fun _ => inferInstanceAs (Decidable (_ ∨ ∃ _ ∈ _, _))

/-- The actor may hand this key out. -/
def MayGrant (desk : AccessDesk) (actor : Nat) (key : PermissionKey) : Prop :=
  isActiveAdminUser desk actor ∨ key ∈ getPermissions desk actor

instance (desk : AccessDesk) (actor : Nat) : DecidablePred (MayGrant desk actor) :=
  fun _ => inferInstanceAs (Decidable (_ ∨ _))

/-- Somebody holds a key they did not hold, or can reach one they could not. -/
def Gains (desk after : AccessDesk) (userId : Nat) (key : PermissionKey) : Prop :=
  (Holds after userId key ∧ ¬ Holds desk userId key) ∨
    (Reaches after userId key ∧ ¬ Reaches desk userId key)

/-- Whose operation a phase carries on. -/
def AccessPhase.actor : AccessPhase → Option Nat
  | .inviteRole actor _ _ _ | .inviteEmail actor _ _ _ | .createInvited actor _ _ _
  | .sendInvite actor _ _ | .memberExists actor _ _ | .existingRole actor _ _
  | .isActiveAdminUser actor _ _ _ | .getFor actor _ _ _ | .isActiveAdmin actor _ _
  | .countActiveAdmins actor _ | .getMember actor _ _ | .roleNameTaken actor _ _
  | .insertRole actor _ _ | .roleGrants actor _ _ | .countRolesGranting actor _ _
  | .roleExists actor _ _ | .write actor _ => some actor
  | .guard request => request.actor
  | .activate _ _ _ | .done _ => none

/-- The key is one the role of the user's own membership grants. -/
def OwnRoleGrants (desk : AccessDesk) (userId : Nat) (key : PermissionKey) : Prop :=
  ∃ row ∈ desk.directory.memberships.rows, row.userId = userId ∧ key ∈ grantedKeys desk row.roleId

/-- Nobody gains a key by an actor's operation that the actor may not hand out; nobody gains a key
by an acceptance but what the role of their own membership grants. -/
def StaysWithin (pool : AccessPool) (turn : AccessTurn) : Prop :=
  ∀ userId key, Gains pool.shared (accessRequests.serve pool turn).shared userId key →
    ∃ jobId hash, turn = .advance jobId hash ∧ ∃ job ∈ pool.jobs.find jobId,
      match AccessPhase.actor job.phase with
      | some actor => MayGrant pool.shared actor key
      | none => OwnRoleGrants pool.shared userId key

/-- The actor may hand all of these keys out. -/
def WithinReach (desk : AccessDesk) (actor : Nat) (keys : List PermissionKey) : Prop :=
  ∀ key ∈ keys, MayGrant desk actor key

instance (desk : AccessDesk) (actor : Nat) (keys : List PermissionKey) :
    Decidable (WithinReach desk actor keys) :=
  inferInstanceAs (Decidable (∀ _ ∈ keys, _))

/-- What the write hands out is within the actor's reach when it commits. -/
def grantsWithin (desk : AccessDesk) (actor : Nat) : AccessGoal → Prop
  | .changeRole _ roleId => WithinReach desk actor (grantedKeys desk roleId)
  | .reactivate membershipId => ∀ row ∈ desk.directory.memberships.find membershipId,
    WithinReach desk actor (grantedKeys desk row.roleId)
  | .setPermissions _ keys => WithinReach desk actor keys
  | .suspend _ | .remove _ | .createRole _ _ => True

instance (desk : AccessDesk) (actor : Nat) : DecidablePred (grantsWithin desk actor)
  | .changeRole _ _ | .setPermissions _ _ => inferInstanceAs (Decidable (WithinReach _ _ _))
  | .reactivate membershipId =>
    inferInstanceAs (Decidable (∀ _ ∈ desk.directory.memberships.find membershipId, _))
  | .suspend _ | .remove _ | .createRole _ _ => isTrue trivial

def handsOutWithin (desk : AccessDesk) (_ : String) : AccessPhase → Prop
  | .createInvited actor _ _ roleId => WithinReach desk actor (grantedKeys desk roleId)
  | .write actor goal => grantsWithin desk actor goal
  | _ => True

instance (desk : AccessDesk) (hash : String) : DecidablePred (handsOutWithin desk hash)
  | .createInvited _ _ _ _ => inferInstanceAs (Decidable (WithinReach _ _ _))
  | .write actor goal => inferInstanceAs (Decidable (grantsWithin desk actor goal))
  | .guard _ | .inviteRole _ _ _ _ | .inviteEmail _ _ _ _ | .sendInvite _ _ _
  | .memberExists _ _ _ | .existingRole _ _ _ | .isActiveAdminUser _ _ _ _ | .getFor _ _ _ _
  | .isActiveAdmin _ _ _ | .countActiveAdmins _ _ | .getMember _ _ _ | .roleNameTaken _ _ _
  | .insertRole _ _ _ | .roleGrants _ _ _ | .countRolesGranting _ _ _ | .roleExists _ _ _
  | .activate _ _ _ | .done _ => isTrue trivial

def HandsOutWithin : AccessPool → AccessTurn → Prop :=
  Handler.Guarded handsOutWithin fun _ _ => True

instance (pool : AccessPool) (turn : AccessTurn) : Decidable (HandsOutWithin pool turn) :=
  inferInstanceAs (Decidable (Handler.Guarded _ _ pool turn))

/-! ## What a write hands out -/

section Writes

variable {desk after : AccessDesk} {statuses : List MemberStatus} {userId : Nat}
variable {key : PermissionKey}

/-- The user has the key through a membership of one of these statuses. -/
def HasVia (desk : AccessDesk) (statuses : List MemberStatus) (userId : Nat)
    (key : PermissionKey) : Prop :=
  ∃ row ∈ desk.directory.memberships,
    row.userId = userId ∧ row.status ∈ statuses ∧ key ∈ grantedKeys desk row.roleId

theorem holds_iff : Holds desk userId key ↔ HasVia desk [.active] userId key := by
  unfold Holds getPermissions
  rw [List.mem_flatMap]
  constructor
  · rintro ⟨row, selected, granted⟩
    obtain ⟨stored, mine, active⟩ := Table.mem_select.mp selected
    exact ⟨row, stored, mine, List.mem_singleton.mpr active, granted⟩
  · rintro ⟨row, stored, mine, active, granted⟩
    exact ⟨row, Table.mem_select.mpr ⟨stored, mine, List.mem_singleton.mp active⟩, granted⟩

theorem reaches_iff : Reaches desk userId key ↔ HasVia desk [.active, .invited] userId key := by
  unfold Reaches
  rw [holds_iff]
  constructor
  · rintro (⟨row, stored, mine, active, granted⟩ | ⟨row, stored, mine, invited, granted⟩)
    · exact ⟨row, stored, mine, by simp [List.mem_singleton.mp active], granted⟩
    · exact ⟨row, stored, mine, by simp [invited], granted⟩
  · rintro ⟨row, stored, mine, either, granted⟩
    rcases List.mem_cons.mp either with active | invited
    · exact Or.inl ⟨row, stored, mine, by simp [active], granted⟩
    · exact Or.inr ⟨row, stored, mine, List.mem_singleton.mp invited, granted⟩

/-- A gain, traced to the statuses it is through. -/
theorem gains_via (gains : Gains desk after userId key) :
    (HasVia after [.active] userId key ∧ ¬ HasVia desk [.active] userId key) ∨
      (HasVia after [.active, .invited] userId key ∧
        ¬ HasVia desk [.active, .invited] userId key) := by
  unfold Gains at gains
  rwa [holds_iff, holds_iff, reaches_iff, reaches_iff] at gains

/-- Where nothing is had that was not had before, nothing is gained. -/
theorem gains_nothing
    (same : ∀ statuses, HasVia after statuses userId key → HasVia desk statuses userId key) :
    ¬ Gains desk after userId key := by
  intro gains
  rcases gains_via gains with ⟨has, had⟩ | ⟨has, had⟩
  · exact had (same _ has)
  · exact had (same _ has)

/-- Where what is had newly is within a limit, so is what is gained. -/
theorem gains_within {limit : Prop}
    (within : ∀ statuses, MemberStatus.suspended ∉ statuses → HasVia after statuses userId key →
      HasVia desk statuses userId key ∨ limit)
    (gains : Gains desk after userId key) : limit := by
  rcases gains_via gains with ⟨has, had⟩ | ⟨has, had⟩
  · exact (within _ (by simp) has).resolve_left had
  · exact (within _ (by simp) has).resolve_left had

/-- What is gained once one membership was written is gained through that one. -/
theorem gains_written {membershipId : Nat} {write : Membership → Membership}
    {keeps : ∀ row, Keyed.key (write row) = Keyed.key row}
    (gains : Gains desk after userId key)
    (memberships : after.directory.memberships =
      desk.directory.memberships.update (fun row => row.id = membershipId) write keeps)
    (permissions : after.rolePermissions = desk.rolePermissions) :
    ∃ row, desk.directory.memberships.find membershipId = some row ∧
      (write row).userId = userId ∧ (write row).status ≠ .suspended ∧
        key ∈ grantedKeys desk (write row).roleId := by
  refine gains_within (fun statuses none has => ?_) gains
  obtain ⟨row, stored, mine, within, granted⟩ := has
  have granted : key ∈ grantedKeys desk row.roleId := by
    unfold grantedKeys at granted ⊢
    rwa [permissions] at granted
  rw [memberships] at stored
  obtain ⟨old, oldIn, rfl⟩ := Table.mem_update.mp stored
  by_cases hit : old.id = membershipId
  · rw [if_pos hit] at mine within granted
    have found := Table.find_eq_some.mpr ⟨oldIn, hit⟩
    exact Or.inr ⟨old, found, mine, fun suspended => none (suspended ▸ within), granted⟩
  · rw [if_neg hit] at mine within granted
    exact Or.inl ⟨old, oldIn, mine, within, granted⟩

theorem gains_move {actor membershipId roleId : Nat}
    (reach : WithinReach desk actor (grantedKeys desk roleId))
    (gains : Gains desk (updateMemberRole desk membershipId roleId) userId key) :
    MayGrant desk actor key := by
  unfold updateMemberRole at gains
  split at gains
  · obtain ⟨_, _, _, _, granted⟩ := gains_written gains rfl rfl
    exact reach key granted
  · exact absurd gains (gains_nothing fun _ has => has)

theorem gains_reactivate {actor membershipId : Nat}
    (reach : ∀ row ∈ desk.directory.memberships.find membershipId,
      WithinReach desk actor (grantedKeys desk row.roleId))
    (gains : Gains desk (setMemberStatus desk membershipId .active) userId key) :
    MayGrant desk actor key := by
  unfold setMemberStatus at gains
  split at gains
  · exact absurd gains (gains_nothing fun _ has => has)
  · obtain ⟨row, found, _, _, granted⟩ := gains_written gains rfl rfl
    exact reach row found key granted

theorem gains_suspend {membershipId : Nat} :
    ¬ Gains desk (setMemberStatus desk membershipId .suspended) userId key := by
  unfold setMemberStatus
  split
  · exact gains_nothing fun _ has => has
  · intro gains
    obtain ⟨_, _, _, kept, _⟩ := gains_written gains rfl rfl
    exact kept rfl

theorem gains_remove {membershipId : Nat} :
    ¬ Gains desk (removeMembership desk membershipId) userId key := by
  unfold removeMembership
  split
  · exact gains_nothing fun _ has => has
  · intro gains
    obtain ⟨_, _, _, kept, _⟩ := gains_written gains rfl rfl
    exact kept rfl

theorem gains_edit {actor roleId : Nat} {keys : List PermissionKey}
    (reach : WithinReach desk actor keys)
    (gains : Gains desk (writeRolePermissions desk roleId keys) userId key) :
    MayGrant desk actor key := by
  refine gains_within (fun statuses _ has => ?_) gains
  obtain ⟨row, stored, mine, within, granted⟩ := has
  rw [mem_grantedKeys_write] at granted
  split at granted
  next => exact Or.inr (reach key granted)
  next => exact Or.inl ⟨row, stored, mine, within, granted⟩

theorem gains_invite {actor roleId : Nat} {name email : String}
    (reach : WithinReach desk actor (grantedKeys desk roleId))
    (created : createInvitedMember desk name email roleId = some after)
    (gains : Gains desk after userId key) : MayGrant desk actor key := by
  unfold createInvitedMember at created
  split at created
  next =>
    cases created
    refine gains_within (fun statuses _ has => ?_) gains
    obtain ⟨row, stored, mine, within, granted⟩ := has
    rcases Table.mem_insert.mp stored with old | rfl
    · exact Or.inl ⟨row, old, mine, within, granted⟩
    · exact Or.inr (reach key granted)
  next => cases created

theorem gains_goal {actor : Nat} {goal : AccessGoal} (within : grantsWithin desk actor goal)
    (gains : Gains desk (writeGoal desk goal).1 userId key) : MayGrant desk actor key := by
  cases goal with
  | changeRole membershipId roleId => exact gains_move within gains
  | suspend membershipId => exact absurd gains gains_suspend
  | reactivate membershipId => exact gains_reactivate within gains
  | remove membershipId => exact absurd gains gains_remove
  | createRole name keys => exact absurd gains (gains_nothing fun _ has => has)
  | setPermissions roleId keys => exact gains_edit within gains

/-- An acceptance gives its own user what the role of their membership grants. -/
theorem gains_accept {invitee membershipId : Nat} {passwordHash : String}
    (gains : Gains desk { desk with
      directory := activateInvite desk.directory invitee membershipId passwordHash } userId key) :
    OwnRoleGrants desk userId key := by
  obtain ⟨row, found, mine, _, granted⟩ := gains_written gains rfl rfl
  exact ⟨row, (Table.find_eq_some.mp found).1, mine, granted⟩

/-- What a step gives anybody, its actor may hand out. -/
theorem gains_step {hash : String} {phase : AccessPhase} (within : handsOutWithin desk hash phase)
    (gains : Gains desk (actOnAccess desk hash phase).1 userId key) :
    match AccessPhase.actor phase with
    | some actor => MayGrant desk actor key
    | none => OwnRoleGrants desk userId key := by
  have quiet : ¬ Gains desk desk userId key := gains_nothing fun _ has => has
  cases phase with
  | createInvited actor name email roleId =>
    simp only [actOnAccess] at gains
    cases created : createInvitedMember desk name email roleId with
    | none =>
      rw [created] at gains
      exact absurd gains quiet
    | some after =>
      rw [created] at gains
      exact gains_invite within created gains
  | sendInvite actor membershipId invitee =>
    simp only [actOnAccess] at gains
    split at gains
    · exact absurd gains (gains_nothing fun _ has => has)
    · exact absurd gains quiet
  | insertRole actor name keys =>
    simp only [actOnAccess, insertRole] at gains
    split at gains
    next created =>
      split at created
      · cases created
        exact absurd gains (gains_nothing fun _ has => has)
      · cases created
    next => exact absurd gains quiet
  | write actor goal => exact gains_goal within gains
  | activate invitee membershipId email => exact gains_accept gains
  | _ => exact absurd gains quiet

end Writes

/-! ## Runs -/

theorem stays_within (pool : AccessPool) (turn : AccessTurn) (within : HandsOutWithin pool turn) :
    StaysWithin pool turn := by
  intro userId key gains
  rcases accessRequests.serve_cases pool turn with
    same | ⟨_, _, same⟩ | ⟨jobId, hash, job, rfl, found, acted⟩
  · rw [same] at gains
    exact absurd gains (gains_nothing fun _ has => has)
  · rw [same] at gains
    exact absurd gains (gains_nothing fun _ has => has)
  · rw [acted] at gains
    exact ⟨jobId, hash, rfl, job, found, gains_step (within job found) gains⟩

/-- Ada is the Admin; Bob, in Operations, manages users and cannot refund. -/
def operated : AccessPool :=
  ⟨{ acme with
    directory := { acme.directory with
      memberships := Table.empty.insertEach [0, 1] fun userId id =>
        { id, organizationId := 0, userId, roleId := userId, status := .active } } },
    Table.empty⟩

/-- Ada invites Cy as an Admin; Bob moves her to the role he has himself. -/
def invitedMover : List AccessTurn :=
  [.receive (.inviteMember 0 "Cy" "cy@acme.test" 0), accessStep 0, accessStep 0, accessStep 0,
    accessStep 0, accessStep 0, .receive (.changeMemberRole 1 2 1), accessStep 1, accessStep 1,
    accessStep 1, accessStep 1, accessStep 1, accessStep 1, accessStep 1, accessStep 1]

/-- Bob invites Cy to the Admin role, which none of his checks compares with his own. -/
def invitedAdmin : List AccessTurn :=
  [.receive (.inviteMember 1 "Cy" "cy@acme.test" 0), accessStep 0, accessStep 0, accessStep 0]

end EventaApi.Guarantees
