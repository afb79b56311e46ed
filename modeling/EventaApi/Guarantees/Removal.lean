import EventaApi.Guarantees.Governance

/-!
# Removed members

A removal suspends the membership and stamps it, and what a member holds is read from the
status alone. An invitation's acceptance and a reactivation set the status by id, so one
that read the membership before its removal would give it back all it granted.
-/
namespace EventaApi.Guarantees
open Library Source

/-- The turn commits the removal of this membership. -/
def Removes (membershipId : Nat) (pool : AccessPool) : AccessTurn → Prop
  | .advance jobId _ => (pool.shared.directory.memberships.find membershipId).isSome ∧
    ∃ job ∈ pool.jobs.find jobId, ∃ actor, job.phase = .write actor (.remove membershipId)
  | _ => False

/-- The membership adds nothing to what its user holds. -/
def GrantsNothing (desk : AccessDesk) (membershipId : Nat) : Prop :=
  ∀ row ∈ desk.directory.memberships.find membershipId,
    row.status = .active → grantedKeys desk row.roleId = []

instance (desk : AccessDesk) (membershipId : Nat) : Decidable (GrantsNothing desk membershipId) :=
  inferInstanceAs (Decidable (∀ _ ∈ desk.directory.memberships.find membershipId, _))

/-- The membership was not removed. -/
def NotRemoved (desk : AccessDesk) (membershipId : Nat) : Prop :=
  ∀ row ∈ desk.directory.memberships.find membershipId, row.deletedAt = none

instance (desk : AccessDesk) (membershipId : Nat) : Decidable (NotRemoved desk membershipId) :=
  inferInstanceAs (Decidable (∀ _ ∈ desk.directory.memberships.find membershipId, _))

/-- No acceptance and no reactivation writes to a membership that was removed. -/
def activatesMembers (desk : AccessDesk) (_ : String) : AccessPhase → Prop
  | .activate _ membershipId _ | .write _ (.reactivate membershipId) => NotRemoved desk membershipId
  | _ => True

instance (desk : AccessDesk) (hash : String) : DecidablePred (activatesMembers desk hash)
  | .activate _ _ _ | .write _ (.reactivate _) => inferInstanceAs (Decidable (NotRemoved _ _))
  | .write _ (.changeRole _ _) | .write _ (.suspend _) | .write _ (.remove _)
  | .write _ (.createRole _ _) | .write _ (.setPermissions _ _)
  | .guard _ | .inviteRole _ _ _ _ | .inviteEmail _ _ _ _ | .createInvited _ _ _ _
  | .sendInvite _ _ _ | .memberExists _ _ _ | .existingRole _ _ _ | .isActiveAdminUser _ _ _ _
  | .getFor _ _ _ _ | .isActiveAdmin _ _ _ | .countActiveAdmins _ _ | .getMember _ _ _
  | .roleNameTaken _ _ _ | .insertRole _ _ _ | .roleGrants _ _ _ | .countRolesGranting _ _ _
  | .roleExists _ _ _ | .done _ => isTrue trivial

def ActivatesMembers : AccessPool → AccessTurn → Prop :=
  Handler.Guarded activatesMembers fun _ _ => True

instance (pool : AccessPool) (turn : AccessTurn) : Decidable (ActivatesMembers pool turn) :=
  inferInstanceAs (Decidable (Handler.Guarded _ _ pool turn))

section Steps

variable {desk : AccessDesk} {membershipId : Nat}

/-- The membership is there, removed, and not active. -/
def WasRemoved (membershipId : Nat) (desk : AccessDesk) : Prop :=
  ∃ row, desk.directory.memberships.find membershipId = some row ∧ row.deletedAt ≠ none ∧
    row.status ≠ .active

/-- What a write to memberships must do for a removed one to stay gone. -/
theorem gone_update {after : AccessDesk} {hit : Membership → Prop} [DecidablePred hit]
    {write : Membership → Membership} {keeps : ∀ row, Keyed.key (write row) = Keyed.key row}
    (memberships : after.directory.memberships = desk.directory.memberships.update hit write keeps)
    (stays : ∀ row, desk.directory.memberships.find membershipId = some row → hit row →
      row.deletedAt ≠ none → row.status ≠ .active →
        (write row).deletedAt ≠ none ∧ (write row).status ≠ .active)
    (gone : WasRemoved membershipId desk) : WasRemoved membershipId after := by
  obtain ⟨row, found, removed, inactive⟩ := gone
  refine ⟨if hit row then write row else row, ?_, ?_⟩
  · rw [memberships, Table.find_update, found, Option.map_some]
  · split
    next selected => exact stays row found selected removed inactive
    next => exact ⟨removed, inactive⟩

theorem gone_status {other : Nat} {status : MemberStatus}
    (inactive : status ≠ .active ∨ NotRemoved desk other) (gone : WasRemoved membershipId desk) :
    WasRemoved membershipId (setMemberStatus desk other status) := by
  unfold setMemberStatus
  split
  · exact gone
  · refine gone_update rfl (fun row found hit removed _ => ⟨removed, ?_⟩) gone
    rcases inactive with lowered | live
    · exact lowered
    · have named : row.id = membershipId := (Table.find_eq_some.mp found).2
      exact absurd (live row (by rw [← hit, named]; exact found)) removed

theorem gone_goal (gone : WasRemoved membershipId desk) (goal : AccessGoal)
    (live : ∀ other, goal = .reactivate other → NotRemoved desk other) :
    WasRemoved membershipId (writeGoal desk goal).1 := by
  cases goal with
  | changeRole other roleId =>
    simp only [writeGoal, updateMemberRole]
    split
    · exact gone_update rfl (fun _ _ _ removed inactive => ⟨removed, inactive⟩) gone
    · exact gone
  | suspend other => exact gone_status (Or.inl (by simp)) gone
  | reactivate other => exact gone_status (Or.inr (live other rfl)) gone
  | remove other =>
    simp only [writeGoal, removeMembership]
    split
    · exact gone
    · exact gone_update rfl (fun _ _ _ _ _ => ⟨by simp, by simp⟩) gone
  | createRole | setPermissions => exact gone

theorem gone_step (desk : AccessDesk) (hash : String) (phase : AccessPhase)
    (gone : WasRemoved membershipId desk) (live : activatesMembers desk hash phase) :
    WasRemoved membershipId (actOnAccess desk hash phase).1 := by
  cases phase with
  | createInvited actor name email roleId =>
    simp only [actOnAccess, createInvitedMember]
    obtain ⟨row, found, removed, inactive⟩ := gone
    split
    next created =>
      split at created
      · cases created
        exact ⟨row, Table.find_insert_of_found found, removed, inactive⟩
      · cases created
    next => exact ⟨row, found, removed, inactive⟩
  | sendInvite actor other userId =>
    simp only [actOnAccess]
    split <;> exact gone
  | insertRole actor name keys =>
    simp only [actOnAccess, insertRole]
    split
    next created =>
      split at created
      · cases created
        exact gone
      · cases created
    next => exact gone
  | activate userId other email =>
    refine gone_update rfl (fun row found hit removed _ => ?_) gone
    have named : row.id = membershipId := (Table.find_eq_some.mp found).2
    exact absurd (live row (by rw [← hit, named]; exact found)) removed
  | write actor goal =>
    refine gone_goal gone goal ?_
    rintro other rfl
    exact live
  | _ => exact gone

theorem gone_turn (pool : AccessPool) (turn : AccessTurn)
    (gone : WasRemoved membershipId pool.shared) (live : ActivatesMembers pool turn) :
    WasRemoved membershipId (accessRequests.serve pool turn).shared := by
  rcases accessRequests.serve_cases pool turn with
    same | ⟨_, _, same⟩ | ⟨_, hash, job, rfl, found, acted⟩
  · exact same ▸ gone
  · rw [same]
    exact gone
  · rw [acted]
    exact gone_step _ hash _ gone (live job found)

theorem removes_gone (pool : AccessPool) (turn : AccessTurn)
    (removes : Removes membershipId pool turn) :
    WasRemoved membershipId (accessRequests.serve pool turn).shared := by
  cases turn with
  | advance jobId hash =>
    obtain ⟨there, job, found, actor, writing⟩ := removes
    obtain ⟨row, stored⟩ := Option.isSome_iff_exists.mp there
    have named : row.id = membershipId := (Table.find_eq_some.mp stored).2
    rw [serve_advance found]
    refine ⟨removedMembership pool.shared.clock row, ?_, by simp, by simp⟩
    change (actOnAccess pool.shared hash job.phase).1.directory.memberships.find membershipId = _
    simp [writing, actOnAccess, writeGoal, removeMembership, stored, Table.find_update, named]
  | receive | crash | outside => exact removes.elim

theorem gone_grants (gone : WasRemoved membershipId desk) : GrantsNothing desk membershipId := by
  obtain ⟨row, found, _, inactive⟩ := gone
  intro other there active
  cases found.symm.trans there
  exact absurd active inactive

end Steps

/-- Ada invites Cy to the operations, and removes the invitation. -/
def invitedCy : List AccessTurn :=
  [.receive (.inviteMember 0 "cy" "cy@acme.test" 1), accessStep 0, accessStep 0, accessStep 0,
    accessStep 0, accessStep 0, .receive (.removeMember 0 2), accessStep 1, accessStep 1,
    accessStep 1]

/-- Cy opens the join link once the invitation is removed. -/
def openedLate : List AccessTurn :=
  invitedCy ++ [accessStep 1, .receive (.acceptInvite 0), accessStep 2]

/-- Cy's acceptance reads the invitation before it is removed. -/
def openedEarly : List AccessTurn := invitedCy ++ [.receive (.acceptInvite 0), accessStep 2]

end EventaApi.Guarantees
