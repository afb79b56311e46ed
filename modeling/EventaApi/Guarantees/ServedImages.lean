import EventaApi.Library.Decimals
import EventaApi.Source.ImageUploads

/-!
# What is served of the uploads

Every object under an owner's final prefix is one that was sent to a URL signed for that owner, of
the type and the size that were signed; and where no bytes land between the check of an upload and
its copy, it begins as an image of its type does.
-/
namespace EventaApi.Guarantees
open Library Source

abbrev UploadPool := Pool UploadDesk UploadPhase
abbrev UploadTurn := PoolTurn UploadRequest Nat UploadWorld

/-! ## Prefixes apart -/

def ownerId : UploadOwner → Nat
  | .photo id | .logo id | .cover id => id

def stagingStem : UploadOwner → List Char
  | .photo _ => "uploads/".toList
  | .logo _ => "uploads/org/".toList
  | .cover _ => "staging/org/".toList

def finalStem : UploadOwner → List Char
  | .photo _ => "avatars/".toList
  | .logo _ => "logos/".toList
  | .cover _ => "org/".toList

/-- What stands between the owner's number and the name. -/
def folder : UploadOwner → List Char
  | .photo _ | .logo _ => []
  | .cover _ => "event-covers/".toList

theorem stagingPrefix_append (owner : UploadOwner) (rest : List Char) :
    (scopeFor owner).stagingPrefix ++ rest =
      stagingStem owner ++ (Nat.toDigits 10 (ownerId owner) ++ '/' :: (folder owner ++ rest)) := by
  cases owner <;>
    exact (List.append_assoc _ _ _).trans (congrArg (_ ++ ·) (List.append_assoc _ _ _))

theorem finalPrefix_append (owner : UploadOwner) (rest : List Char) :
    (scopeFor owner).finalPrefix ++ rest =
      finalStem owner ++ (Nat.toDigits 10 (ownerId owner) ++ '/' :: (folder owner ++ rest)) := by
  cases owner <;>
    exact (List.append_assoc _ _ _).trans (congrArg (_ ++ ·) (List.append_assoc _ _ _))

theorem stagingStem_plain (owner : UploadOwner) : ∀ char ∈ stagingStem owner, char.isDigit = false := by
  have plain : (stagingStem owner).all (fun char => !char.isDigit) = true := by
    cases owner <;> dsimp only [stagingStem] <;> decide +kernel
  intro char member
  simpa using List.all_eq_true.mp plain char member

theorem finalStem_plain (owner : UploadOwner) : ∀ char ∈ finalStem owner, char.isDigit = false := by
  have plain : (finalStem owner).all (fun char => !char.isDigit) = true := by
    cases owner <;> dsimp only [finalStem] <;> decide +kernel
  intro char member
  simpa using List.all_eq_true.mp plain char member

/-- A key is under the staging prefix of one owner only. -/
theorem staging_owner {owner other : UploadOwner} {rest more : List Char}
    (same : (scopeFor owner).stagingPrefix ++ rest = (scopeFor other).stagingPrefix ++ more) :
    owner = other := by
  rw [stagingPrefix_append, stagingPrefix_append] at same
  obtain ⟨stems, ids, _⟩ := stem_digits_inj (stagingStem_plain owner) (stagingStem_plain other)
    (by decide) same
  cases owner <;> cases other <;> dsimp only [stagingStem] at stems <;>
    first | exact absurd stems (by decide) | exact congrArg _ ids

/-- A key is under the final prefix of one owner only. -/
theorem final_owner {owner other : UploadOwner} {rest more : List Char}
    (same : (scopeFor owner).finalPrefix ++ rest = (scopeFor other).finalPrefix ++ more) :
    owner = other := by
  rw [finalPrefix_append, finalPrefix_append] at same
  obtain ⟨stems, ids, _⟩ := stem_digits_inj (finalStem_plain owner) (finalStem_plain other)
    (by decide) same
  cases owner <;> cases other <;> dsimp only [finalStem] at stems <;>
    first | exact absurd stems (by decide) | exact congrArg _ ids

/-- No URL is signed for a key that is served. -/
theorem final_not_staging {owner other : UploadOwner} {rest more : List Char} :
    (scopeFor owner).finalPrefix ++ rest ≠ (scopeFor other).stagingPrefix ++ more := by
  intro same
  rw [finalPrefix_append, stagingPrefix_append] at same
  have stems := (stem_digits_inj (finalStem_plain owner) (stagingStem_plain other) (by decide) same).1
  cases owner <;> cases other <;> dsimp only [finalStem, stagingStem] at stems <;>
    exact absurd stems (by decide)

/-! ## Signed URLs -/

/-- A URL that the service signs. -/
structure IsSigned (maxBytes : Nat) (signed : SignedPut) : Prop where
  key : ∃ uuid, ∃ image ∈ ALLOWED_IMAGE_TYPES,
    signed.key = stagingKey signed.owner uuid image ∧ signed.contentType = image.contentType
  size : isWithinSize maxBytes signed.byteSize = true

/-- The name of a key says which type it was signed for. -/
theorem isSigned_contentType {maxBytes : Nat} {signed other : SignedPut}
    (isSigned : IsSigned maxBytes signed) (isOther : IsSigned maxBytes other)
    (same : signed.key = other.key) :
    signed.owner = other.owner ∧ signed.contentType = other.contentType := by
  obtain ⟨uuid, image, allowed, key, type⟩ := isSigned.key
  obtain ⟨uuid', image', allowed', key', type'⟩ := isOther.key
  rw [key, key'] at same
  have owner := staging_owner same
  refine ⟨owner, ?_⟩
  rw [owner] at same
  have names := List.append_cancel_left same
  have extensions := (digits_stop_inj (by decide) names).2
  have each : ∀ image ∈ ALLOWED_IMAGE_TYPES, ∀ other ∈ ALLOWED_IMAGE_TYPES,
      image.extension = other.extension → image.contentType = other.contentType := by decide
  rw [type, type']
  exact each image allowed image' allowed' extensions

/-! ## Sound storages -/

/-- The object was put through a URL that was signed for its key. -/
def IsStaged (desk : UploadDesk) (key : ObjectKey) (object : BucketObject) : Prop :=
  ∃ signed ∈ desk.signed, key = signed.key ∧ object.contentType = some signed.contentType ∧
    object.bytes.length = signed.byteSize

/-- The object was put through a URL signed for the owner under whose prefix it is. -/
def IsServed (desk : UploadDesk) (key : ObjectKey) (object : BucketObject) : Prop :=
  ∃ signed ∈ desk.signed, key = finalKey signed.owner signed.key ∧
    object.contentType = some signed.contentType ∧ object.bytes.length = signed.byteSize

structure StorageSound (maxBytes : Nat) (desk : UploadDesk) : Prop where
  signed : ∀ signed ∈ desk.signed, IsSigned maxBytes signed
  stored : ∀ key object, desk.objects key = some object →
    IsStaged desk key object ∨ IsServed desk key object

/-- The key was signed for this owner and this type. -/
def IsSignedFor (desk : UploadDesk) (owner : UploadOwner) (key : ObjectKey) (contentType : String) :
    Prop :=
  ∃ signed ∈ desk.signed, signed.key = key ∧ signed.owner = owner ∧ signed.contentType = contentType

/-- What a request goes on with: an image and a size that may be signed, a key of its owner's, and
the type that the key was signed for. -/
def KnowsUpload (maxBytes : Nat) (desk : UploadDesk) : UploadPhase → Prop
  | .presign _ image byteSize => image ∈ ALLOWED_IMAGE_TYPES ∧ isWithinSize maxBytes byteSize = true
  | .head owner key => (scopeFor owner).stagingPrefix <+: key
  | .readPrefix owner key declared | .copy owner key declared => IsSignedFor desk owner key declared
  | _ => True

variable {maxBytes ttl : Nat} {publicBaseUrl : List Char} {desk : UploadDesk}

theorem imageType_eq_some {contentType : String} {image : ImageType}
    (found : imageType contentType = some image) :
    image ∈ ALLOWED_IMAGE_TYPES ∧ image.contentType = contentType :=
  ⟨List.mem_of_find?_eq_some found, by simpa using List.find?_some found⟩

theorem KnowsUpload.later {after : UploadDesk} (grows : ∀ signed ∈ desk.signed, signed ∈ after.signed)
    {phase : UploadPhase} (knows : KnowsUpload maxBytes desk phase) :
    KnowsUpload maxBytes after phase := by
  have later {owner : UploadOwner} {key : ObjectKey} {type : String}
      (isSigned : IsSignedFor desk owner key type) : IsSignedFor after owner key type := by
    obtain ⟨signed, there, rest⟩ := isSigned
    exact ⟨signed, grows signed there, rest⟩
  cases phase with
  | readPrefix | copy => exact later knows
  | presign | head => exact knows
  | begin | remove | done => exact trivial

namespace StorageSound

/-- Some objects go, and URLs are signed. -/
theorem reduced (sound : StorageSound maxBytes desk) {after : UploadDesk}
    (grows : ∀ signed ∈ desk.signed, signed ∈ after.signed)
    (signed : ∀ signed ∈ after.signed, IsSigned maxBytes signed)
    (stays : ∀ key object, after.objects key = some object → desk.objects key = some object) :
    StorageSound maxBytes after where
  signed := signed
  stored := by
    intro key object there
    rcases sound.stored key object (stays key object there) with
      ⟨signed, member, staged⟩ | ⟨signed, member, served⟩
    · exact Or.inl ⟨signed, grows signed member, staged⟩
    · exact Or.inr ⟨signed, grows signed member, served⟩

theorem put (sound : StorageSound maxBytes desk) {key : ObjectKey} {object : BucketObject}
    (known : IsStaged desk key object ∨ IsServed desk key object) :
    StorageSound maxBytes (desk.put key object) where
  signed := sound.signed
  stored := by
    intro other found there
    dsimp only [UploadDesk.put] at there
    by_cases same : other = key
    · subst same
      rw [Function.update_self] at there
      cases there
      exact known
    · rw [Function.update_of_ne same] at there
      exact sound.stored other found there

theorem remove (sound : StorageSound maxBytes desk) (key : ObjectKey) :
    StorageSound maxBytes (desk.remove key) := by
  refine sound.reduced (fun _ => id) sound.signed fun other object there => ?_
  dsimp only [UploadDesk.remove] at there
  by_cases same : other = key
  · rw [same, Function.update_self] at there
    cases there
  · rwa [Function.update_of_ne same] at there

/-- What is found under an owner's staging prefix was put through a URL signed for that owner. -/
theorem staged (sound : StorageSound maxBytes desk) {owner : UploadOwner} {key : ObjectKey}
    (own : (scopeFor owner).stagingPrefix <+: key) {object : BucketObject}
    (found : desk.objects key = some object) :
    ∃ signed ∈ desk.signed, signed.key = key ∧ signed.owner = owner ∧
      object.contentType = some signed.contentType ∧ object.bytes.length = signed.byteSize := by
  obtain ⟨rest, rfl⟩ := own
  rcases sound.stored _ object found with ⟨signed, member, key, about⟩ | ⟨signed, _, key, _⟩
  · obtain ⟨uuid, image, _, issued, _⟩ := (sound.signed signed member).key
    exact ⟨signed, member, key.symm, (staging_owner (key.trans issued)).symm, about⟩
  · exact absurd key.symm final_not_staging

end StorageSound

theorem IsSigned.own {signed : SignedPut} (isSigned : IsSigned maxBytes signed) :
    (scopeFor signed.owner).stagingPrefix <+: signed.key := by
  obtain ⟨uuid, image, _, key, _⟩ := isSigned.key
  rw [key]
  exact List.prefix_append _ _

theorem begins_upload (request : UploadRequest) :
    KnowsUpload maxBytes desk (beginUpload maxBytes publicBaseUrl request) := by
  cases request with
  | requestUpload owner contentType byteSize =>
    dsimp only [beginUpload]
    cases found : imageType contentType with
    | none => exact trivial
    | some image =>
      dsimp only
      split
      · rename_i fits
        exact ⟨(imageType_eq_some found).1, fits⟩
      · exact trivial
  | confirm owner key =>
    dsimp only [beginUpload]
    split
    · rename_i own
      change (scopeFor owner).stagingPrefix <+: key
      exact of_decide_eq_true (Bool.and_eq_true_iff.mp own).1
    · exact trivial
  | removeAt url =>
    dsimp only [beginUpload]
    cases keyFromPublicUrl publicBaseUrl url <;> exact trivial

theorem heads_upload (sound : StorageSound maxBytes desk) {owner : UploadOwner} {key : ObjectKey}
    (own : (scopeFor owner).stagingPrefix <+: key) :
    KnowsUpload maxBytes desk (afterHead maxBytes owner key (desk.objects key)) := by
  cases found : desk.objects key with
  | none => exact trivial
  | some object =>
    dsimp only [afterHead]
    split
    · cases typed : imageType (object.contentType.getD "") with
      | none => exact trivial
      | some image =>
        obtain ⟨signed, member, isKey, isOwner, type, _⟩ := sound.staged own found
        refine ⟨signed, member, isKey, isOwner, ?_⟩
        rw [(imageType_eq_some typed).2, type]
        rfl
    · exact trivial

/-- What is copied is served under the prefix of the owner it was put for. -/
theorem copies_upload (sound : StorageSound maxBytes desk) {owner : UploadOwner} {key : ObjectKey}
    {type : String} (knows : IsSignedFor desk owner key type) {object : BucketObject}
    (found : desk.objects key = some object) :
    IsServed desk (finalKey owner key) { object with contentType := some type } := by
  obtain ⟨signed, member, rfl, rfl, rfl⟩ := knows
  obtain ⟨put, there, sameKey, sameOwner, _, size⟩ :=
    sound.staged (sound.signed signed member).own found
  refine ⟨put, there, ?_, ?_, size⟩
  · rw [sameKey, sameOwner]
  · exact congrArg some (isSigned_contentType (sound.signed signed member)
      (sound.signed put there) sameKey.symm).2

theorem acts_upload (sound : StorageSound maxBytes desk) {phase : UploadPhase}
    (knows : KnowsUpload maxBytes desk phase) (uuid : Nat) :
    let acted := actOnUpload maxBytes ttl publicBaseUrl desk uuid phase
    StorageSound maxBytes acted.1 ∧ KnowsUpload maxBytes acted.1 acted.2 ∧
      ∀ signed ∈ desk.signed, signed ∈ acted.1.signed := by
  cases phase with
  | begin request => exact ⟨sound, begins_upload request, fun _ => id⟩
  | presign owner image byteSize =>
    refine ⟨sound.reduced (fun _ => List.mem_cons_of_mem _) ?_ fun _ _ => id, trivial,
      fun _ => List.mem_cons_of_mem _⟩
    intro signed member
    rcases List.mem_cons.mp member with rfl | old
    · exact ⟨⟨uuid, image, knows.1, rfl, rfl⟩, knows.2⟩
    · exact sound.signed signed old
  | head owner key => exact ⟨sound, heads_upload sound knows, fun _ => id⟩
  | readPrefix owner key declared =>
    refine ⟨sound, ?_, fun _ => id⟩
    dsimp only [actOnUpload]
    cases desk.objects key with
    | none => exact trivial
    | some object =>
      dsimp only [Option.map_some, afterRead]
      split
      · exact knows
      · exact trivial
  | copy owner key type =>
    dsimp only [actOnUpload]
    cases found : desk.objects key with
    | none => exact ⟨sound, trivial, fun _ => id⟩
    | some object =>
      exact ⟨sound.put (Or.inr (copies_upload sound knows found)), trivial, fun _ => id⟩
  | remove key reply => exact ⟨sound.remove key, trivial, fun _ => id⟩
  | done reply => exact ⟨sound, trivial, fun _ => id⟩

theorem changes_storage (sound : StorageSound maxBytes desk) (event : UploadWorld) :
    StorageSound maxBytes (changeStorage desk event) ∧
      (changeStorage desk event).signed = desk.signed := by
  cases event with
  | tick => exact ⟨⟨sound.signed, sound.stored⟩, rfl⟩
  | put signed bytes =>
    dsimp only [changeStorage]
    split
    · rename_i taken
      exact ⟨sound.put (Or.inl ⟨signed, taken.1, rfl, rfl, taken.2.2⟩), rfl⟩
    · exact ⟨sound, rfl⟩

theorem imageUploads_keeps : (imageUploads maxBytes ttl publicBaseUrl).Keeps
    (StorageSound maxBytes) (KnowsUpload maxBytes) (fun _ _ _ => True) (fun _ _ => True) where
  opened := fun _ _ _ => trivial
  crashed := fun _ _ => trivial
  act := by
    intro desk uuid phase sound knows _
    exact ⟨(acts_upload sound knows uuid).1, (acts_upload sound knows uuid).2.1⟩
  undisturbed := fun _ uuid _ _ sound knows _ other => other.later (acts_upload sound knows uuid).2.2
  outside := by
    intro desk event sound _
    obtain ⟨kept, same⟩ := changes_storage sound event
    exact ⟨kept, fun _ knows => knows.later fun signed there => same ▸ there⟩

/-- Nothing put yet, and no URL signed. -/
structure IsEmptyStorage (pool : UploadPool) : Prop where
  objects : ∀ key, pool.shared.objects key = none
  signed : pool.shared.signed = []
  idle : pool.jobs.rows = []

theorem IsEmptyStorage.sound {start : UploadPool} (empty : IsEmptyStorage start) :
    start.Sound (StorageSound maxBytes) (KnowsUpload maxBytes) where
  shared :=
    { signed := by simp [empty.signed]
      stored := fun key object found => by simp [empty.objects key] at found }
  jobs := fun job stored => absurd stored (Table.not_mem_of_empty empty.idle job)

def emptyStorage : UploadPool :=
  { jobs := .empty, shared := { objects := fun _ => none, clock := 0, signed := [] } }

theorem emptyStorage_empty : IsEmptyStorage emptyStorage := ⟨fun _ => rfl, rfl, rfl⟩

def pngBytes : List UInt8 := [0x89, 0x50, 0x4e, 0x47, 0x0d, 0x0a, 0x1a, 0x0a, 0, 0]

/-- The URL that Ann is given for her photo. -/
def annsPut : SignedPut where
  owner := .photo 7
  key := "uploads/7/42.png".toList
  contentType := "image/png"
  byteSize := 10
  expiresAt := 300

/-- Ann is given a URL, sends a picture, and confirms it. -/
def annsPhoto : List UploadTurn :=
  .receive (.requestUpload (.photo 7) "image/png" 10) :: List.replicate 2 (.advance 0 42) ++
    .outside (.put annsPut pngBytes) :: .receive (.confirm (.photo 7) annsPut.key) ::
      List.replicate 5 (.advance 1 0)

theorem annsPhoto_served :
    (run (imageUploads 100 300 "https://s3".toList).serve emptyStorage annsPhoto).shared.objects
      "avatars/7/42.png".toList = some ⟨some "image/png", pngBytes⟩ := by decide +kernel

theorem annsPhoto_own : (scopeFor (.photo 7)).finalPrefix <+: "avatars/7/42.png".toList := by
  decide +kernel

/-- A confirm has checked what is at the key, and is about to copy it. -/
def IsChecked (key : ObjectKey) : UploadPhase → Prop
  | .copy _ other _ => other = key
  | _ => False

instance (key : ObjectKey) : DecidablePred (IsChecked key)
  | .copy _ _ _ => inferInstanceAs (Decidable (_ = _))
  | .begin _ | .presign _ _ _ | .head _ _ | .readPrefix _ _ _ | .remove _ _ | .done _ => isFalse id

/-- No bytes land on a key between its check and its copy. -/
def Unswapped (pool : UploadPool) : UploadTurn → Prop
  | .outside (.put signed _) => ∀ job ∈ pool.jobs, ¬ IsChecked signed.key job.phase
  | _ => True

instance (pool : UploadPool) : (turn : UploadTurn) → Decidable (Unswapped pool turn)
  | .outside (.put signed _) =>
    inferInstanceAs (Decidable (∀ job ∈ pool.jobs.rows, ¬ IsChecked signed.key job.phase))
  | .outside (.tick _) | .receive _ | .advance _ _ | .crash _ => isTrue trivial

/-- Whatever is served begins as an image of its type does. -/
def ServesImages (desk : UploadDesk) : Prop :=
  ∀ owner rest object, desk.objects ((scopeFor owner).finalPrefix ++ rest) = some object →
    ∃ type, object.contentType = some type ∧ looksLike type object.bytes = true

def LooksChecked (desk : UploadDesk) : UploadPhase → Prop
  | .copy _ key type => ∀ object, desk.objects key = some object → looksLike type object.bytes = true
  | _ => True

/-- Bytes that begin so go on beginning so. -/
theorem beginsWith_take {magic : List (Option UInt8)} {bytes : List UInt8} {count : Nat}
    (begins : beginsWith magic (bytes.take count) = true) : beginsWith magic bytes = true := by
  induction magic generalizing bytes count with
  | nil => rfl
  | cons fixed magic ih =>
    cases bytes with
    | nil => simp [beginsWith] at begins
    | cons byte bytes =>
      cases count with
      | zero => simp [beginsWith] at begins
      | succ count =>
        simp only [List.take_succ_cons, beginsWith, Bool.and_eq_true] at begins ⊢
        exact ⟨begins.1, ih begins.2⟩

theorem looksLike_take {type : String} {bytes : List UInt8}
    (looks : looksLike type (bytes.take MAGIC_BYTES_TO_READ) = true) :
    looksLike type bytes = true := by
  unfold looksLike at looks ⊢
  obtain ⟨image, found, begins⟩ := (Option.any_eq_true _ _).mp looks
  exact (Option.any_eq_true _ _).mpr ⟨image, found, beginsWith_take begins⟩

/-- A step of a request puts nothing under a staging prefix. -/
theorem acts_stage_nothing {uuid : Nat} {phase : UploadPhase} {owner : UploadOwner}
    {key : ObjectKey} (own : (scopeFor owner).stagingPrefix <+: key) {object : BucketObject}
    (found : (actOnUpload maxBytes ttl publicBaseUrl desk uuid phase).1.objects key = some object) :
    desk.objects key = some object := by
  obtain ⟨rest, rfl⟩ := own
  cases phase with
  | begin | presign | head | readPrefix | done => exact found
  | copy copied source type =>
    dsimp only [actOnUpload] at found
    cases there : desk.objects source with
    | none =>
      rw [there] at found
      exact found
    | some put =>
      rw [there] at found
      have apart : (scopeFor owner).stagingPrefix ++ rest ≠ finalKey copied source :=
        fun same => final_not_staging same.symm
      dsimp only [UploadDesk.put] at found
      rwa [Function.update_of_ne apart] at found
  | remove removed reply =>
    dsimp only [actOnUpload, UploadDesk.remove] at found
    by_cases same : (scopeFor owner).stagingPrefix ++ rest = removed
    · rw [same, Function.update_self] at found
      cases found
    · rwa [Function.update_of_ne same] at found

/-- The key of a confirm that was checked is its owner's. -/
theorem KnowsUpload.own (sound : StorageSound maxBytes desk) {owner : UploadOwner} {key : ObjectKey}
    {type : String} (knows : KnowsUpload maxBytes desk (.copy owner key type)) :
    (scopeFor owner).stagingPrefix <+: key := by
  obtain ⟨signed, member, rfl, rfl, _⟩ := knows
  exact (sound.signed signed member).own

theorem acts_lookChecked {uuid : Nat} {phase : UploadPhase} :
    LooksChecked (actOnUpload maxBytes ttl publicBaseUrl desk uuid phase).1
      (actOnUpload maxBytes ttl publicBaseUrl desk uuid phase).2 := by
  cases phase with
  | begin request =>
    cases request with
    | requestUpload owner contentType byteSize =>
      dsimp only [actOnUpload, beginUpload]
      split
      · exact trivial
      · split <;> exact trivial
    | confirm owner key =>
      dsimp only [actOnUpload, beginUpload]
      split <;> exact trivial
    | removeAt url =>
      dsimp only [actOnUpload, beginUpload]
      split <;> exact trivial
  | presign | remove => exact trivial
  | done => exact trivial
  | head owner key =>
    dsimp only [actOnUpload]
    cases desk.objects key with
    | none => exact trivial
    | some object =>
      dsimp only [afterHead]
      split
      · split <;> exact trivial
      · exact trivial
  | readPrefix owner key declared =>
    dsimp only [actOnUpload]
    cases found : desk.objects key with
    | none => exact trivial
    | some object =>
      dsimp only [Option.map_some, afterRead]
      split
      · rename_i looks
        intro other there
        cases found.symm.trans there
        exact looksLike_take looks
      · exact trivial
  | copy owner key type =>
    dsimp only [actOnUpload]
    cases desk.objects key <;> exact trivial

theorem acts_serveImages (serves : ServesImages desk) {uuid : Nat} {phase : UploadPhase}
    (looks : LooksChecked desk phase) :
    ServesImages (actOnUpload maxBytes ttl publicBaseUrl desk uuid phase).1 := by
  cases phase with
  | begin | presign | head | readPrefix | done => exact serves
  | copy owner key type =>
    dsimp only [actOnUpload]
    cases there : desk.objects key with
    | none => exact serves
    | some put =>
      intro other rest object found
      dsimp only [UploadDesk.put] at found
      by_cases same : (scopeFor other).finalPrefix ++ rest = finalKey owner key
      · rw [same, Function.update_self] at found
        cases found
        exact ⟨type, rfl, looks put there⟩
      · rw [Function.update_of_ne same] at found
        exact serves other rest object found
  | remove key reply =>
    intro other rest object found
    dsimp only [actOnUpload, UploadDesk.remove] at found
    by_cases same : (scopeFor other).finalPrefix ++ rest = key
    · rw [same, Function.update_self] at found
      cases found
    · rw [Function.update_of_ne same] at found
      exact serves other rest object found

/-- What the steps of requests, and time, keep of images. -/
theorem imageUploads_keepsImages : (imageUploads maxBytes ttl publicBaseUrl).Keeps
    (fun desk => StorageSound maxBytes desk ∧ ServesImages desk)
    (fun desk phase => KnowsUpload maxBytes desk phase ∧ LooksChecked desk phase)
    (fun _ _ _ => True) (fun _ event => ∃ elapsed, event = .tick elapsed) where
  opened := fun _ _ _ => ⟨trivial, trivial⟩
  crashed := fun _ _ => ⟨trivial, trivial⟩
  act := by
    intro desk uuid phase sound knows _
    obtain ⟨kept, next, _⟩ := acts_upload sound.1 knows.1 uuid
    exact ⟨⟨kept, acts_serveImages sound.2 knows.2⟩, next, acts_lookChecked⟩
  undisturbed := by
    intro desk uuid phase other sound knows _ others
    refine ⟨others.1.later (acts_upload sound.1 knows.1 uuid).2.2, ?_⟩
    cases other with
    | copy owner key type =>
      exact fun object found =>
        others.2 object (acts_stage_nothing (KnowsUpload.own sound.1 others.1) found)
    | _ => exact trivial
  outside := by
    rintro desk _ sound ⟨elapsed, rfl⟩
    refine ⟨⟨(changes_storage sound.1 (.tick elapsed)).1, sound.2⟩, fun phase knows => ⟨knows.1.later fun _ => id, ?_⟩⟩
    cases phase <;> exact knows.2

/-- Bytes that land where nothing is about to be copied change nothing that was checked. -/
theorem puts_unswapped {pool : UploadPool} {signed : SignedPut} {bytes : List UInt8}
    (sound : pool.Sound (fun desk => StorageSound maxBytes desk ∧ ServesImages desk)
      fun desk phase => KnowsUpload maxBytes desk phase ∧ LooksChecked desk phase)
    (unswapped : ∀ job ∈ pool.jobs, ¬ IsChecked signed.key job.phase) :
    ((imageUploads maxBytes ttl publicBaseUrl).serve pool (.outside (.put signed bytes))).Sound
      (fun desk => StorageSound maxBytes desk ∧ ServesImages desk)
      fun desk phase => KnowsUpload maxBytes desk phase ∧ LooksChecked desk phase := by
  obtain ⟨⟨stored, serves⟩, jobs⟩ := sound
  obtain ⟨kept, same⟩ := changes_storage stored (.put signed bytes)
  refine ⟨⟨kept, fun owner rest object found => ?_⟩, fun job there => ⟨(jobs job there).1.later
    fun signed member => same ▸ member, ?_⟩⟩
  · change (changeStorage pool.shared (.put signed bytes)).objects _ = _ at found
    dsimp only [changeStorage] at found
    split at found
    · rename_i taken
      obtain ⟨uuid, image, _, key, _⟩ := (stored.signed signed taken.1).key
      have apart : (scopeFor owner).finalPrefix ++ rest ≠ signed.key := by
        rw [key]
        exact final_not_staging
      dsimp only [UploadDesk.put] at found
      rw [Function.update_of_ne apart] at found
      exact serves owner rest object found
    · exact serves owner rest object found
  · have mine := (jobs job there).2
    have free := unswapped job there
    change LooksChecked (changeStorage pool.shared (.put signed bytes)) job.phase
    cases atPhase : job.phase with
    | copy owner key type =>
      rw [atPhase] at mine free
      intro object found
      dsimp only [changeStorage] at found
      split at found
      · dsimp only [UploadDesk.put] at found
        rw [Function.update_of_ne free] at found
        exact mine object found
      · exact mine object found
    | _ => exact trivial

/-- Bytes sent again between the check and the copy are served unchecked. -/
example : (run (imageUploads 100 300 "https://s3".toList).serve emptyStorage
    (annsPhoto.take 8 ++ .outside (.put annsPut (List.replicate 10 0)) ::
      annsPhoto.drop 8)).shared.objects "avatars/7/42.png".toList =
        some ⟨some "image/png", List.replicate 10 0⟩ := by decide +kernel

end EventaApi.Guarantees
