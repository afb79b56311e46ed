import EventaApi.Source.Passwords

/-!
# Reset links

A link carries the fingerprint of the password it was sent for, and is checked against
the password the account has when it is opened. The write that follows repeats no check,
so the link sets a password once exactly where no other change comes between the two.
-/
namespace EventaApi.Guarantees
open Library Source

/-! ## What is asked of links -/

abbrev PasswordPool := Pool PasswordDesk PasswordPhase

abbrev PasswordTurn := PoolTurn PasswordRequest (Option DomainException) PasswordEvent

/-- The hash stored for a user. -/
def passwordOf (desk : PasswordDesk) (userId : Nat) : Option String :=
  (desk.directory.users.find userId).bind User.passwordHash

/-- The link whose reset is about to write. -/
def PasswordPhase.givenLink : PasswordPhase → Option Nat
  | .reset token _ _ _ => some token
  | _ => none

/-- A reset that was given this link commits, and answers that it is done. -/
def ResetsBy (token : Nat) (pool : PasswordPool) : PasswordTurn → Prop
  | .advance jobId _ => ∃ job ∈ pool.jobs.find jobId, PasswordPhase.givenLink job.phase = some token
  | _ => False

instance (token : Nat) (pool : PasswordPool) : (turn : PasswordTurn) →
    Decidable (ResetsBy token pool turn)
  | .advance jobId _ => inferInstanceAs (Decidable (∃ _ ∈ pool.jobs.find jobId, _))
  | .receive _ | .crash _ | .outside _ => isFalse id

/-- The password the link was sent for is the one its account still has. -/
def StillCurrent (crypto : PasswordCrypto) (desk : PasswordDesk) (link : ResetLink) : Prop :=
  (passwordOf desk link.sub).map crypto.passwordFingerprint = some link.pv

instance (crypto : PasswordCrypto) (desk : PasswordDesk) (link : ResetLink) :
    Decidable (StillCurrent crypto desk link) :=
  inferInstanceAs (Decidable (_ = _))

section Links

variable (crypto : PasswordCrypto)

/-- The link was issued, and the turn changes the password of its account. -/
def Overtakes (token : Nat) (pool : PasswordPool) (turn : PasswordTurn) : Prop :=
  ∃ link ∈ pool.shared.links.find token,
    passwordOf ((passwords crypto).serve pool turn).shared link.sub ≠
      passwordOf pool.shared link.sub

/-- What a call comes to when no other call moves. -/
def runAlone (pool : PasswordPool) (request : PasswordRequest) : Option PasswordPhase :=
  let own := pool.jobs.next
  let alone := run (passwords crypto).serve pool
    [.receive request, .advance own none, .advance own none]
  (alone.jobs.find own).map Job.phase

/-- The new password is not the one the link's account has. -/
def Differs (desk : PasswordDesk) (token : Nat) (newPassword : String) : Prop :=
  ∀ link ∈ desk.links.find token, ∀ hash ∈ passwordOf desk link.sub,
    crypto.verify hash newPassword = false

/-- The page calls a link good exactly when the form would accept it. -/
def ChecksAgree (pool : PasswordPool) : Prop :=
  ∀ token newPassword, Differs crypto pool.shared token newPassword →
    ((∃ persona workspaceName, runAlone crypto pool (.check token) =
        some (.done (.goodLink persona workspaceName))) ↔
      runAlone crypto pool (.reset token newPassword) = some (.done (.message RESET_DONE)))

structure LinksWorkOnce (start : PasswordPool) (turns : List PasswordTurn) : Prop where
  once : ∀ token,
    NeverAfter (passwords crypto).serve (ResetsBy token) (ResetsBy token) start turns
  spent : ∀ token,
    NeverAfter (passwords crypto).serve (Overtakes crypto token) (ResetsBy token) start turns
  checked : Throughout (passwords crypto).serve (ChecksAgree crypto) start turns

/-- The password has not changed since the link was checked. -/
def stillCurrent (desk : PasswordDesk) (_ : Option DomainException) : PasswordPhase → Prop
  | .reset token _ _ _ => ∀ link ∈ desk.links.find token, StillCurrent crypto desk link
  | _ => True

instance (desk : PasswordDesk) (locked : Option DomainException) :
    (phase : PasswordPhase) → Decidable (stillCurrent crypto desk locked phase)
  | .reset token _ _ _ => inferInstanceAs (Decidable (∀ _ ∈ desk.links.find token, _))
  | .load _ | .find _ _ | .send _ _ _ | .change _ _ _ _ | .activate _ _ _ _ | .supersede _ _ _
  | .done _ => isTrue trivial

def WritesInTime : PasswordPool → PasswordTurn → Prop :=
  Handler.Guarded (stillCurrent crypto) fun _ _ => True

instance (pool : PasswordPool) (turn : PasswordTurn) :
    Decidable (WritesInTime crypto pool turn) :=
  inferInstanceAs (Decidable (Handler.Guarded _ _ pool turn))

/-- Every hash has a salt of its own, and distinct hashes have distinct fingerprints. -/
structure Salted : Prop where
  salted : ∀ plain salt other salt',
    crypto.hash plain salt = crypto.hash other salt' → salt = salt'
  fingerprints : ∀ hash other,
    crypto.passwordFingerprint hash = crypto.passwordFingerprint other → hash = other

/-- A hash made with one of the salts drawn so far. -/
def MadeBefore (salts : Nat) (hash : String) : Prop :=
  ∃ plain salt, salt < salts ∧ hash = crypto.hash plain salt

/-- Every password was hashed here, and every link signed for one that was. -/
structure Hashed (desk : PasswordDesk) : Prop where
  users : ∀ userId hash, passwordOf desk userId = some hash → MadeBefore crypto desk.salts hash
  links : ∀ token link, desk.links.find token = some link → ∃ hash,
    MadeBefore crypto desk.salts hash ∧ link.pv = crypto.passwordFingerprint hash

/-- Nobody has called yet. -/
structure Uncalled (pool : PasswordPool) : Prop where
  jobs : pool.jobs.rows = []
  hashed : Hashed crypto pool.shared

end Links

/-! ## What a step does -/

section Steps

variable {crypto : PasswordCrypto} {desk after : PasswordDesk}

/-- A phase that has read no link and no account to send one to. -/
def PasswordPhase.Idle : PasswordPhase → Prop
  | .send _ _ _ | .reset _ _ _ _ => False
  | _ => True

/-- Links stay, and a password that changes is hashed with a salt of its own. -/
structure Advances (crypto : PasswordCrypto) (desk after : PasswordDesk) : Prop where
  links : ∀ token link, desk.links.find token = some link → after.links.find token = some link
  salts : desk.salts ≤ after.salts
  passwords : ∀ userId, passwordOf after userId = passwordOf desk userId ∨
    desk.salts < after.salts ∧
      ∃ plain, passwordOf after userId = some (crypto.hash plain desk.salts)
  organizations : ∀ userId, (after.directory.users.find userId).map User.organizationId =
    (desk.directory.users.find userId).map User.organizationId

theorem Advances.refl : Advances crypto desk desk where
  links := fun _ _ found => found
  salts := le_rfl
  passwords := fun _ => Or.inl rfl
  organizations := fun _ => rfl

/-- Everything a step of a call can be. -/
inductive PasswordActs (crypto : PasswordCrypto) (desk : PasswordDesk) :
    PasswordPhase → PasswordDesk → PasswordPhase → Prop
  | quiet {phase next : PasswordPhase} (unlinked : PasswordPhase.givenLink phase = none)
      (idle : PasswordPhase.Idle next) : PasswordActs crypto desk phase desk next
  | found {email : String} {audience : Persona} {accounts : List ResettableAccount}
      (read : ∀ account ∈ accounts, ∃ userId, passwordOf desk userId = some account.passwordHash) :
      PasswordActs crypto desk (.find email audience) desk (.send accounts email audience)
  | checked {token : Nat} {newPassword : String} {account : LinkedAccount}
      (good : accountOfGoodLink crypto desk token = some account) :
      PasswordActs crypto desk (.load (.reset token newPassword)) desk
        (.reset token account.organizationId account.id newPassword)
  | sent {account : ResettableAccount} {rest : List ResettableAccount} {email : String}
      {audience : Persona} :
      PasswordActs crypto desk (.send (account :: rest) email audience)
        (sendResetLink crypto desk account email audience) (.send rest email audience)
  | reset {token organizationId userId : Nat} {newPassword : String} {after : PasswordDesk}
      {reply : PasswordReply} (advances : Advances crypto desk after)
      (links : after.links = desk.links)
      (own : ∀ row, desk.directory.users.find userId = some row →
        row.organizationId = organizationId →
          passwordOf after userId = some (crypto.hash newPassword desk.salts)) :
      PasswordActs crypto desk (.reset token organizationId userId newPassword) after (.done reply)
  | wrote {phase : PasswordPhase} {after : PasswordDesk} {reply : PasswordReply}
      (unlinked : PasswordPhase.givenLink phase = none) (advances : Advances crypto desk after)
      (links : after.links = desk.links) : PasswordActs crypto desk phase after (.done reply)

/-- A write to users that leaves ids and workspaces gives some of them the new hash. -/
theorem written_advances {hit : User → Prop} [DecidablePred hit] {write : User → User}
    {keeps : ∀ row, Keyed.key (write row) = Keyed.key row} {plain : String}
    (users : after.directory.users = desk.directory.users.update hit write keeps)
    (links : after.links = desk.links) (salts : after.salts = desk.salts + 1)
    (hashed : ∀ row, (write row).passwordHash = some (crypto.hash plain desk.salts))
    (stays : ∀ row, (write row).organizationId = row.organizationId) :
    Advances crypto desk after where
  links := fun token link found => by rw [links]; exact found
  salts := by omega
  passwords := by
    intro userId
    unfold passwordOf
    rw [users, Table.find_update]
    cases desk.directory.users.find userId with
    | none => exact Or.inl rfl
    | some row =>
      by_cases selected : hit row
      · exact Or.inr ⟨by omega, plain, by simp [selected, hashed]⟩
      · exact Or.inl (by simp [selected])
  organizations := by
    intro userId
    rw [users, Table.find_update, Option.map_map]
    cases desk.directory.users.find userId with
    | none => rfl
    | some row => by_cases selected : hit row <;> simp [selected, stays]

theorem accountOfGoodLink_some {token : Nat} {account : LinkedAccount}
    (good : accountOfGoodLink crypto desk token = some account) :
    ∃ link row, desk.links.find token = some link ∧
      desk.directory.users.find link.sub = some row ∧ account.id = link.sub ∧
      account.organizationId = row.organizationId ∧
      row.passwordHash = some account.passwordHash ∧
      crypto.passwordFingerprint account.passwordHash = link.pv := by
  simp only [accountOfGoodLink, verifyPasswordReset, findResetLinkAccount, findLiveUser,
    Option.bind_eq_bind, Option.bind_eq_some_iff, Option.ite_none_right_eq_some,
    Option.some.injEq] at good
  obtain ⟨_, ⟨link, found, _, rfl⟩, _, ⟨_, ⟨row, stored, _, rfl⟩, _, _, hash, hashed, rfl⟩, same,
    rfl⟩ := good
  exact ⟨link, row, found, stored, (Table.find_eq_some.mp stored).2, rfl, hashed, same⟩

/-- Every account a link can be sent to was read with the password it had. -/
theorem resettable_password {email : String} {audience : Persona} {limit : Nat}
    {account : ResettableAccount}
    (member : account ∈ (findResetAccounts desk.directory email audience limit).filterMap
      resettable) :
    ∃ userId, passwordOf desk userId = some account.passwordHash := by
  obtain ⟨read, listed, able⟩ := List.mem_filterMap.mp member
  have kept := List.mem_of_mem_take listed
  obtain ⟨row, ordered, opened⟩ := List.mem_filterMap.mp kept
  have selected := (List.mem_insertionSort _).mp ordered
  have stored := (Table.mem_select.mp selected).1
  simp only [resettable, Option.bind_eq_bind, Option.bind_eq_some_iff,
    Option.ite_none_right_eq_some, Option.some.injEq] at able
  simp only [resetAccount, Option.bind_eq_bind, Option.bind_eq_some_iff,
    Option.ite_none_right_eq_some, Option.some.injEq] at opened
  obtain ⟨hash, hashed, _, rfl⟩ := able
  obtain ⟨_, _, _, rfl⟩ := opened
  refine ⟨row.id, ?_⟩
  unfold passwordOf
  have found : desk.directory.users.find row.id = some row := Table.find_eq_some.mpr ⟨stored, rfl⟩
  rw [found]
  exact hashed

theorem password_cases (crypto : PasswordCrypto) (desk : PasswordDesk)
    (locked : Option DomainException) (phase : PasswordPhase) :
    PasswordActs crypto desk phase (actOnPassword crypto desk locked phase).1
      (actOnPassword crypto desk locked phase).2 := by
  cases phase with
  | load request =>
    cases request with
    | forgot email persona =>
      cases locked with
      | none => exact .quiet rfl trivial
      | some exception => exact .quiet rfl trivial
    | reset token newPassword =>
      simp only [actOnPassword, loadPassword, loadReset]
      cases good : accountOfGoodLink crypto desk token with
      | none => exact .quiet rfl trivial
      | some account =>
        by_cases reused : crypto.verify account.passwordHash newPassword
        · simp only [reused, if_true]
          exact .quiet rfl trivial
        · simp only [reused]
          exact .checked good
    | check token => exact .quiet rfl trivial
    | change actor currentPassword newPassword =>
      refine .quiet rfl ?_
      simp only [actOnPassword, loadPassword, loadChange]
      split
      · trivial
      · split
        · trivial
        · split
          · trivial
          · split <;> trivial
    | acceptInvite mid password =>
      refine .quiet rfl ?_
      simp only [actOnPassword, loadPassword, loadInvite]
      split
      · trivial
      · split <;> trivial
    | supersede userId name password => exact .quiet rfl trivial
  | find email audience =>
    simp only [actOnPassword, afterFindAccounts]
    split
    · exact .quiet rfl trivial
    · split
      · exact .quiet rfl trivial
      · exact .found fun account member => resettable_password member
  | send accounts email audience =>
    cases accounts with
    | nil => exact .quiet rfl trivial
    | cons account rest => exact .sent
  | reset token organizationId userId newPassword =>
    refine .reset (written_advances rfl rfl rfl (fun _ => rfl) fun _ => rfl) rfl ?_
    intro row found same
    have named : row.id = userId := (Table.find_eq_some.mp found).2
    simp [passwordOf, actOnPassword, setPassword, Table.find_update, found, named, same]
  | change actor name email newPassword =>
    exact .wrote rfl (written_advances rfl rfl rfl (fun _ => rfl) fun _ => rfl) rfl
  | activate userId membershipId email password =>
    exact .wrote rfl (written_advances rfl rfl rfl (fun _ => rfl) fun _ => rfl) rfl
  | supersede userId name password =>
    simp only [actOnPassword]
    cases taken : supersedeUnconfirmedAttendee desk.directory userId name
        (crypto.hash password desk.salts) desk.clock with
    | none =>
      exact .wrote rfl ⟨fun _ _ found => found, Nat.le_succ _, fun _ => Or.inl rfl,
        fun _ => rfl⟩ rfl
    | some directory =>
      simp only [supersedeUnconfirmedAttendee, Option.bind_eq_bind, Option.bind_eq_some_iff,
        Option.ite_none_left_eq_some, Option.some.injEq] at taken
      obtain ⟨organizationId, _, _, rfl⟩ := taken
      exact .wrote rfl (written_advances rfl rfl rfl (fun _ => rfl) fun _ => rfl) rfl
  | done reply => exact .quiet rfl trivial

theorem PasswordActs.advances {phase next : PasswordPhase}
    (acts : PasswordActs crypto desk phase after next) : Advances crypto desk after := by
  cases acts with
  | quiet | found | checked => exact Advances.refl
  | sent => exact ⟨fun _ _ found => Table.find_insert_of_found found, le_rfl,
      fun _ => Or.inl rfl, fun _ => rfl⟩
  | reset advances => exact advances
  | wrote _ advances => exact advances

theorem event_advances (event : PasswordEvent) :
    Advances crypto desk (applyPasswordEvent desk event) := by
  have kept : ∀ (hit : User → Prop) [DecidablePred hit] (write : User → User)
      (keeps : ∀ row, Keyed.key (write row) = Keyed.key row),
      (∀ row, (write row).passwordHash = row.passwordHash) →
      (∀ row, (write row).organizationId = row.organizationId) →
      Advances crypto desk { desk with directory := { desk.directory with
        users := desk.directory.users.update hit write keeps } } := by
    intro hit _ write keeps password stays
    refine ⟨fun _ _ found => found, le_rfl, fun userId => Or.inl ?_, fun userId => ?_⟩
    · simp only [passwordOf, Table.find_update]
      cases desk.directory.users.find userId with
      | none => rfl
      | some row => by_cases selected : hit row <;> simp [selected, password]
    · simp only [Table.find_update]
      cases desk.directory.users.find userId with
      | none => rfl
      | some row => by_cases selected : hit row <;> simp [selected, stays]
  cases event with
  | tick now => exact ⟨fun _ _ found => found, le_rfl, fun _ => Or.inl rfl, fun _ => rfl⟩
  | scheduleDeletion organizationId userId => exact kept _ _ _ (fun _ => rfl) fun _ => rfl
  | suspend userId => exact kept _ _ _ (fun _ => rfl) fun _ => rfl

/-- Every turn only advances what is stored. -/
theorem turn_advances (pool : PasswordPool) (turn : PasswordTurn) :
    Advances crypto pool.shared ((passwords crypto).serve pool turn).shared :=
  Handler.serve_shared Advances.refl
    (fun job _ locked => (password_cases crypto pool.shared locked job.phase).advances)
    event_advances turn

/-! ### Passwords and links -/

theorem MadeBefore.mono {hash : String} {salts later : Nat} (made : MadeBefore crypto salts hash)
    (grown : salts ≤ later) : MadeBefore crypto later hash := by
  obtain ⟨plain, salt, older, same⟩ := made
  exact ⟨plain, salt, by omega, same⟩

/-- A fresh salt gives a fingerprint no earlier password had. -/
theorem fresh_fingerprint (salted : Salted crypto) {hash plain : String} {salts : Nat}
    (made : MadeBefore crypto salts hash) :
    crypto.passwordFingerprint (crypto.hash plain salts) ≠ crypto.passwordFingerprint hash := by
  intro same
  obtain ⟨other, salt, older, rfl⟩ := made
  have equal := salted.salted _ _ _ _ (salted.fingerprints _ _ same)
  omega

theorem Advances.hashed_users (advances : Advances crypto desk after) (hashed : Hashed crypto desk)
    (userId : Nat) (hash : String) (stored : passwordOf after userId = some hash) :
    MadeBefore crypto after.salts hash := by
  rcases advances.passwords userId with same | ⟨more, plain, fresh⟩
  · exact (hashed.users userId hash (same ▸ stored)).mono advances.salts
  · rw [fresh] at stored
    cases stored
    exact ⟨plain, desk.salts, more, rfl⟩

/-- Where the links are the same, what was hashed before still is. -/
theorem Advances.hashed (advances : Advances crypto desk after) (same : after.links = desk.links)
    (hashed : Hashed crypto desk) : Hashed crypto after where
  users := advances.hashed_users hashed
  links := by
    intro token link found
    rw [same] at found
    obtain ⟨hash, made, carried⟩ := hashed.links token link found
    exact ⟨hash, made.mono advances.salts, carried⟩

/-- The link does not carry the fingerprint of its account's password. -/
def Dead (crypto : PasswordCrypto) (token : Nat) (desk : PasswordDesk) : Prop :=
  ∃ link, desk.links.find token = some link ∧ ¬ StillCurrent crypto desk link

theorem fresh_dead (salted : Salted crypto) (hashed : Hashed crypto desk)
    (advances : Advances crypto desk after) {token : Nat} {link : ResetLink} {plain : String}
    (found : desk.links.find token = some link)
    (fresh : passwordOf after link.sub = some (crypto.hash plain desk.salts)) :
    Dead crypto token after := by
  refine ⟨link, advances.links _ _ found, fun current => ?_⟩
  obtain ⟨hash, made, carried⟩ := hashed.links token link found
  unfold StillCurrent at current
  rw [fresh, Option.map_some, Option.some.injEq, carried] at current
  exact fresh_fingerprint salted made current

/-- A password that changes leaves every link sent before it dead. -/
theorem overtaken_dead (salted : Salted crypto) (hashed : Hashed crypto desk)
    (advances : Advances crypto desk after) {token : Nat} {link : ResetLink}
    (found : desk.links.find token = some link)
    (changed : passwordOf after link.sub ≠ passwordOf desk link.sub) : Dead crypto token after := by
  rcases advances.passwords link.sub with same | ⟨_, plain, fresh⟩
  · exact absurd same changed
  · exact fresh_dead salted hashed advances found fresh

/-- A dead link stays dead. -/
theorem dead_lasts (salted : Salted crypto) (hashed : Hashed crypto desk)
    (advances : Advances crypto desk after) {token : Nat} (dead : Dead crypto token desk) :
    Dead crypto token after := by
  obtain ⟨link, found, stale⟩ := dead
  by_cases same : passwordOf after link.sub = passwordOf desk link.sub
  · refine ⟨link, advances.links _ _ found, ?_⟩
    unfold StillCurrent at stale ⊢
    rwa [same]
  · exact overtaken_dead salted hashed advances found same

/-! ### What a call has read -/

/-- What a call goes on with: passwords that were stored, a link of the account it names. -/
def Checked (crypto : PasswordCrypto) (desk : PasswordDesk) : PasswordPhase → Prop
  | .send accounts _ _ => ∀ account ∈ accounts, MadeBefore crypto desk.salts account.passwordHash
  | .reset token organizationId userId _ => ∃ link, desk.links.find token = some link ∧
    link.sub = userId ∧
      (desk.directory.users.find userId).map User.organizationId = some organizationId
  | _ => True

theorem checked_idle {phase : PasswordPhase} (idle : PasswordPhase.Idle phase) :
    Checked crypto desk phase := by
  cases phase with
  | send | reset => exact idle.elim
  | _ => trivial

theorem checked_advances (advances : Advances crypto desk after) {phase : PasswordPhase}
    (checked : Checked crypto desk phase) : Checked crypto after phase := by
  cases phase with
  | send accounts email audience =>
    exact fun account member => (checked account member).mono advances.salts
  | reset token organizationId userId newPassword =>
    obtain ⟨link, found, named, there⟩ := checked
    exact ⟨link, advances.links _ _ found, named, (advances.organizations userId).trans there⟩
  | _ => trivial

theorem acts_checkedLink {phase next : PasswordPhase} (hashed : Hashed crypto desk)
    (checked : Checked crypto desk phase) (acts : PasswordActs crypto desk phase after next) :
    Hashed crypto after ∧ Checked crypto after next := by
  have advances := acts.advances
  cases acts with
  | quiet _ idle => exact ⟨hashed, checked_idle idle⟩
  | found read =>
    refine ⟨hashed, fun account member => ?_⟩
    obtain ⟨userId, stored⟩ := read account member
    exact hashed.users userId _ stored
  | checked good =>
    obtain ⟨link, row, found, stored, named, home, _, _⟩ := accountOfGoodLink_some good
    refine ⟨hashed, link, found, named.symm, ?_⟩
    rw [named, stored, Option.map_some, home]
  | @sent account rest email audience =>
    have made := checked account List.mem_cons_self
    refine ⟨⟨advances.hashed_users hashed, fun token link found => ?_⟩,
      fun other member => checked other (List.mem_cons_of_mem _ member)⟩
    rw [sendResetLink, Table.find_insert] at found
    split at found
    · cases found
      exact ⟨_, made, rfl⟩
    · exact hashed.links token link found
  | reset _ links => exact ⟨advances.hashed links hashed, trivial⟩
  | wrote _ _ links => exact ⟨advances.hashed links hashed, trivial⟩

end Steps

/-! ## Runs -/

section Runs

variable {crypto : PasswordCrypto}

theorem passwords_keep : (passwords crypto).Keeps (Hashed crypto) (Checked crypto)
    (fun _ _ _ => True) fun _ _ => True where
  opened := fun _ _ _ => trivial
  crashed := fun _ _ => trivial
  act := fun desk locked phase hashed checked _ =>
    acts_checkedLink hashed checked (password_cases crypto desk locked phase)
  undisturbed := fun desk locked phase _ _ _ _ checked =>
    checked_advances (password_cases crypto desk locked phase).advances checked
  outside := by
    intro desk event hashed _
    refine ⟨(event_advances event).hashed ?_ hashed,
      fun phase checked => checked_advances (event_advances event) checked⟩
    cases event <;> rfl

theorem givenLink_some {phase : PasswordPhase} {token : Nat}
    (given : PasswordPhase.givenLink phase = some token) :
    ∃ organizationId userId newPassword,
      phase = .reset token organizationId userId newPassword := by
  cases phase with
  | reset named organizationId userId newPassword =>
    cases given
    exact ⟨organizationId, userId, newPassword, rfl⟩
  | _ => cases given

/-- A reset through a link leaves it dead. -/
theorem reset_dead (salted : Salted crypto) (pool : PasswordPool) (turn : PasswordTurn)
    (sound : pool.Sound (Hashed crypto) (Checked crypto)) {token : Nat}
    (resets : ResetsBy token pool turn) :
    Dead crypto token ((passwords crypto).serve pool turn).shared := by
  cases turn with
  | advance jobId locked =>
    obtain ⟨job, found, given⟩ := resets
    have checked := sound.jobs job (Table.find_eq_some.mp found).1
    have acts := password_cases crypto pool.shared locked job.phase
    rw [serve_advance found]
    obtain ⟨organizationId, userId, newPassword, writing⟩ := givenLink_some given
    rw [writing] at checked acts
    obtain ⟨link, issued, rfl, there⟩ := checked
    obtain ⟨row, stored, home⟩ := Option.map_eq_some_iff.mp there
    change Dead crypto token (actOnPassword crypto pool.shared locked job.phase).1
    rw [writing]
    generalize (actOnPassword crypto pool.shared locked (.reset token organizationId link.sub
      newPassword)).1 = after, (actOnPassword crypto pool.shared locked
      (.reset token organizationId link.sub newPassword)).2 = next at acts ⊢
    cases acts with
    | quiet unlinked => cases unlinked
    | wrote unlinked => cases unlinked
    | reset advances _ own => exact fresh_dead salted sound.shared advances issued (own row stored home)
  | receive | crash | outside => exact resets.elim

/-- Past a dead link no write in time goes. -/
theorem dead_excludes {pool : PasswordPool} {turn : PasswordTurn} {token : Nat}
    (dead : Dead crypto token pool.shared) (inTime : WritesInTime crypto pool turn) :
    ¬ ResetsBy token pool turn := by
  intro resets
  cases turn with
  | advance jobId locked =>
    obtain ⟨job, found, given⟩ := resets
    have current := inTime job found
    obtain ⟨organizationId, userId, newPassword, writing⟩ := givenLink_some given
    rw [writing] at current
    obtain ⟨link, issued, stale⟩ := dead
    exact stale (current link issued)
  | receive | crash | outside => exact resets.elim

/-! ### One call on its own -/

theorem runAlone_eq (pool : PasswordPool) (request : PasswordRequest) :
    runAlone crypto pool request =
      some (actOnPassword crypto pool.shared none
        (loadPassword crypto pool.shared none request)).2 := by
  have opened : (pool.jobs.insert fun id => { id, phase := PasswordPhase.load request }).find
      pool.jobs.next = some { id := pool.jobs.next, phase := .load request } := by
    rw [Table.find_insert, if_pos rfl]
  have received : (passwords crypto).serve pool (.receive request) =
      ⟨pool.shared, pool.jobs.insert fun id => { id, phase := PasswordPhase.load request }⟩ := rfl
  have asked : (passwords crypto).serve
      ⟨pool.shared, pool.jobs.insert fun id => { id, phase := PasswordPhase.load request }⟩
      (.advance pool.jobs.next none) =
      ⟨pool.shared, moveJob (pool.jobs.insert fun id => { id, phase := PasswordPhase.load request })
        pool.jobs.next (loadPassword crypto pool.shared none request)⟩ := by
    rw [serve_advance opened]
    rfl
  unfold runAlone
  simp only [run_cons, run_nil, received, asked]
  rw [serve_advance (find_moveJob opened)]
  simp only
  rw [find_moveJob (find_moveJob opened)]
  rfl

/-- A link is called good exactly where a reset through it, alone, sets another password. -/
theorem checks_agree (pool : PasswordPool) : ChecksAgree crypto pool := by
  intro token newPassword differs
  rw [runAlone_eq, runAlone_eq]
  simp only [loadPassword, loadReset, checkLink]
  cases good : accountOfGoodLink crypto pool.shared token with
  | none => simp [actOnPassword]
  | some account =>
    obtain ⟨link, row, issued, stored, _, _, hashed, _⟩ := accountOfGoodLink_some good
    have current : passwordOf pool.shared link.sub = some account.passwordHash := by
      unfold passwordOf
      rw [stored]
      exact hashed
    have other := differs link issued account.passwordHash current
    simp [actOnPassword, other]

/-! ### All of them -/

theorem passwords_remember : (passwords crypto).Remembers fun desk phase =>
    ∀ token, PasswordPhase.givenLink phase = some token →
      ∃ link, desk.links.find token = some link ∧ StillCurrent crypto desk link where
  opened := by
    intro _ _ token given
    cases given
  crashed := by
    intro _ token given
    cases given
  act := by
    intro desk locked phase
    have acts := password_cases crypto desk locked phase
    refine Or.inl fun token given => ?_
    change PasswordPhase.givenLink (actOnPassword crypto desk locked phase).2 = some token at given
    generalize (actOnPassword crypto desk locked phase).1 = after,
      (actOnPassword crypto desk locked phase).2 = next at acts given
    cases acts with
    | quiet _ idle =>
      obtain ⟨_, _, _, rfl⟩ := givenLink_some given
      exact idle.elim
    | found | sent | reset | wrote => cases given
    | checked good =>
      cases given
      obtain ⟨link, row, found, stored, _, _, hashed, same⟩ := accountOfGoodLink_some good
      refine ⟨link, found, ?_⟩
      simp [StillCurrent, passwordOf, stored, hashed, same]

theorem run_links {start : PasswordPool} {token : Nat} {link : ResetLink}
    (found : start.shared.links.find token = some link) (turns : List PasswordTurn) :
    (run (passwords crypto).serve start turns).shared.links.find token = some link := by
  have keeps : ∀ (pool : PasswordPool) turn, pool.shared.links.find token = some link →
      ((passwords crypto).serve pool turn).shared.links.find token = some link :=
    fun pool turn => (turn_advances pool turn).links token link
  exact run_invariant_always keeps turns found

/-- Between the check of a link and the write, its account's password changed. -/
theorem overtaken {start : PasswordPool} (uncalled : Uncalled crypto start)
    {first : List PasswordTurn} {job : Job PasswordPhase}
    (stored : job ∈ (run (passwords crypto).serve start first).jobs) {token : Nat}
    (given : PasswordPhase.givenLink job.phase = some token)
    (stale : Dead crypto token (run (passwords crypto).serve start first).shared) :
    ∃ before turn rest, first = before ++ turn :: rest ∧
      Overtakes crypto token (run (passwords crypto).serve start before) turn := by
  obtain ⟨early, ⟨later, rfl⟩, read⟩ := passwords_remember.run
    (fun job there => absurd there (Table.not_mem_of_empty uncalled.jobs job)) first job stored
  obtain ⟨link, issued, current⟩ := read token given
  obtain ⟨same, found, dead⟩ := stale
  rw [run_append, run_links issued] at found
  cases found
  rw [run_append] at dead
  let stale : PasswordPool → Prop := fun pool => ¬ StillCurrent crypto pool.shared link
  have fresh : ¬ stale (run (passwords crypto).serve start early) := not_not.mpr current
  obtain ⟨between, turn, rest, rfl, still, gone⟩ := exists_step_of_run fresh dead
  refine ⟨early ++ between, turn, rest, by simp, link, ?_, fun unchanged => ?_⟩
  · rw [run_append]
    exact run_links issued between
  · rw [run_append] at unchanged
    refine gone ?_
    have still := not_not.mp still
    unfold StillCurrent at still ⊢
    rwa [unchanged]

/-- A link works once exactly where every reset writes before the password it was checked
against has changed. -/
theorem links_work_once (salted : Salted crypto) {start : PasswordPool}
    (uncalled : Uncalled crypto start) (turns : List PasswordTurn) :
    LinksWorkOnce crypto start turns ↔
      Meets (passwords crypto).serve (WritesInTime crypto) start turns := by
  constructor
  · intro works
    refine meets_of_cuts fun first turn rest cut => ?_
    cases turn with
    | advance jobId locked =>
      intro job found
      cases writing : job.phase with
      | reset token organizationId userId newPassword =>
        intro link issued
        by_contra stale
        have given : PasswordPhase.givenLink job.phase = some token := by rw [writing]; rfl
        obtain ⟨before, turn, between, rfl, overtakes⟩ :=
          overtaken uncalled (Table.find_eq_some.mp found).1 given ⟨link, issued, stale⟩
        rw [List.append_assoc, List.cons_append] at cut
        have never := works.spent token before turn _ cut overtakes
        obtain ⟨_, here, _⟩ := meets_append.mp never
        rw [run_append, run_cons] at found
        exact here ⟨job, found, given⟩
      | _ => trivial
    | receive | crash | outside => trivial
  · intro inTime
    have sound : start.Sound (Hashed crypto) (Checked crypto) :=
      ⟨uncalled.hashed, fun job there => absurd there (Table.not_mem_of_empty uncalled.jobs job)⟩
    have keeps : ∀ (pool : PasswordPool) (turn : PasswordTurn),
        pool.Sound (Hashed crypto) (Checked crypto) → WritesInTime crypto pool turn →
          ((passwords crypto).serve pool turn).Sound (Hashed crypto) (Checked crypto) := by
      intro pool turn sound _
      refine passwords_keep.serve pool turn sound ?_
      cases turn <;> simp [Handler.Guarded]
    have lasts : ∀ token (pool : PasswordPool) (turn : PasswordTurn),
        pool.Sound (Hashed crypto) (Checked crypto) → Dead crypto token pool.shared →
          Dead crypto token ((passwords crypto).serve pool turn).shared :=
      fun _ pool turn sound => dead_lasts salted sound.shared (turn_advances pool turn)
    refine ⟨fun token => ?_, fun token => ?_, ?_⟩
    · exact inTime.neverAfter keeps (fun pool turn sound => reset_dead salted pool turn sound)
        (lasts token) (fun _ _ _ dead inTime => dead_excludes dead inTime) sound
    · refine inTime.neverAfter keeps ?_ (lasts token)
        (fun _ _ _ dead inTime => dead_excludes dead inTime) sound
      rintro pool turn sound ⟨link, issued, changed⟩
      exact overtaken_dead salted sound.shared (turn_advances pool turn) issued changed
    · exact fun first _ => checks_agree _

end Runs

/-- A hash is its salt in so many letters, then the password; a fingerprint the hash itself. -/
def plainCrypto : PasswordCrypto where
  hash plain salt := String.ofList (List.replicate salt 'x' ++ '$' :: plain.toList)
  verify hashed plain := hashed.toList.dropWhile (· = 'x') = '$' :: plain.toList
  passwordFingerprint := id

theorem plainCrypto_salted : Salted plainCrypto where
  salted := by
    intro plain salt other salt' same
    have letters := congrArg (fun hash => (hash.toList.takeWhile (· = 'x')).length) same
    simpa [plainCrypto, List.takeWhile_append] using letters
  fingerprints := fun _ _ same => same

def ada : PasswordDesk where
  directory :=
    { organizations := Table.empty.insert fun id => { id, name := "Acme" }
      users := Table.empty.insert fun id =>
        { id, organizationId := 0, name := "Ada", email := "ada@acme.test", persona := .admin
          status := .active, passwordHash := some (plainCrypto.hash "old-1!" 0), createdAt := 0 }
      memberships := Table.empty
      sessions := Table.empty
      socialIdentities := Table.empty
      platformOrganizationId := none }
  links := Table.empty
  outbox := []
  salts := 1
  clock := 0

def adaPool : PasswordPool := ⟨ada, Table.empty⟩

theorem adaPool_uncalled : Uncalled plainCrypto adaPool where
  jobs := rfl
  hashed := by
    refine ⟨fun userId hash stored => ⟨"old-1!", 0, Nat.zero_lt_one, ?_⟩, fun token link found => ?_⟩
    · have only : ∀ user ∈ adaPool.shared.directory.users.rows,
          user.passwordHash = some (plainCrypto.hash "old-1!" 0) := by decide +kernel
      obtain ⟨user, there, hashed⟩ := Option.bind_eq_some_iff.mp stored
      have same := (only user (Table.find_eq_some.mp there).1).symm.trans hashed
      exact (Option.some.inj same).symm
    · exact absurd (Table.find_eq_some.mp found).1 (Table.not_mem_of_empty rfl link)

/-- One step of a call, which no throttle stops. -/
def stepping (jobId : Nat) : PasswordTurn := .advance jobId none

/-- Ada asks for a link and is sent one. -/
def linkSent : List PasswordTurn :=
  [.receive (.forgot "ada@acme.test" none), stepping 0, stepping 0, stepping 0, stepping 0]

/-- She uses it, and tries it again. -/
def usedTwice : List PasswordTurn :=
  linkSent ++ [.receive (.reset 0 "new-2!"), stepping 1, stepping 1, .receive (.reset 0 "own-3!"),
    stepping 2]

theorem links_work_once_ada :
    LinksWorkOnce plainCrypto adaPool usedTwice ∧
      (run (passwords plainCrypto).serve adaPool usedTwice).jobs.rows.map Job.phase =
        [.done (.message LINK_ON_ITS_WAY), .done (.message RESET_DONE),
          .done (.thrown (.validation INVALID_LINK))] :=
  ⟨(links_work_once plainCrypto_salted adaPool_uncalled usedTwice).mpr (by decide +kernel),
    by decide +kernel⟩

/-- Two resets check the same link before either writes. -/
def bothChecked : List PasswordTurn :=
  linkSent ++ [.receive (.reset 0 "new-2!"), .receive (.reset 0 "own-3!"), stepping 1, stepping 2]

/-- Both resets through the one link succeed. -/
theorem link_works_twice :
    ¬ LinksWorkOnce plainCrypto adaPool (bothChecked ++ [stepping 1, stepping 2]) := by
  intro works
  have resets : ResetsBy 0 (run (passwords plainCrypto).serve adaPool bothChecked) (stepping 1) := by
    decide +kernel
  have never := works.once 0 bothChecked (stepping 1) [stepping 2] rfl resets
  exact never.1 (by decide +kernel)

end EventaApi.Guarantees
