import Mathlib.Data.List.Infix
import EventaApi.Library.Pool
import EventaApi.Source.Identity

/-!
# Uploading an image

`ImageUploadService`, under the three scopes that use it. The bytes never pass through the service:
whoever holds a signed URL may put any bytes of the signed type and size while it lasts, and the
service asks the storage what landed, one call at a time.
-/
namespace EventaApi.Source
open Library

abbrev ObjectKey := List Char

/-! ## Image types -/

/-- The extension an image is stored as, and the bytes it must begin with; some vary. -/
structure ImageType where
  contentType : String
  extension : List Char
  magic : List (Option UInt8)
  deriving DecidableEq, Repr

def ALLOWED_IMAGE_TYPES : List ImageType :=
  [{ contentType := "image/jpeg", extension := "jpg".toList
     magic := [some 0xff, some 0xd8, some 0xff] },
   { contentType := "image/png", extension := "png".toList
     magic := [some 0x89, some 0x50, some 0x4e, some 0x47, some 0x0d, some 0x0a, some 0x1a,
       some 0x0a] },
   -- "RIFF", the file's own length, "WEBP".
   { contentType := "image/webp", extension := "webp".toList
     magic := [some 0x52, some 0x49, some 0x46, some 0x46, none, none, none, none, some 0x57,
       some 0x45, some 0x42, some 0x50] }]

def ALLOWED_CONTENT_TYPES : List String := ALLOWED_IMAGE_TYPES.map ImageType.contentType

def imageType (contentType : String) : Option ImageType :=
  ALLOWED_IMAGE_TYPES.find? fun image => image.contentType = contentType

/-- The bytes begin with these, where these are fixed. -/
def beginsWith : List (Option UInt8) → List UInt8 → Bool
  | [], _ => true
  | _ :: _, [] => false
  | fixed :: magic, byte :: bytes => fixed.all (· = byte) && beginsWith magic bytes

def looksLike (contentType : String) (bytes : List UInt8) : Bool :=
  (imageType contentType).any fun image => beginsWith image.magic bytes

/-! ## Scopes -/

/-- Whose upload it is: a person's photo, or a workspace's logo or cover. -/
inductive UploadOwner where
  | photo (userId : Nat)
  | logo (organizationId : Nat)
  | cover (organizationId : Nat)
  deriving DecidableEq, Repr

structure UploadScope where
  stagingPrefix : ObjectKey
  finalPrefix : ObjectKey
  noun : String
  deriving DecidableEq, Repr

def digitsOf (id : Nat) : List Char := Nat.toDigits 10 id

def scopeFor : UploadOwner → UploadScope
  | .photo userId =>
    { stagingPrefix := "uploads/".toList ++ (digitsOf userId ++ ['/'])
      finalPrefix := "avatars/".toList ++ (digitsOf userId ++ ['/'])
      noun := "profile photo" }
  | .logo organizationId =>
    { stagingPrefix := "uploads/org/".toList ++ (digitsOf organizationId ++ ['/'])
      finalPrefix := "logos/".toList ++ (digitsOf organizationId ++ ['/'])
      noun := "workspace logo" }
  | .cover organizationId =>
    { stagingPrefix := "staging/org/".toList ++
        (digitsOf organizationId ++ '/' :: "event-covers/".toList)
      finalPrefix := "org/".toList ++ (digitsOf organizationId ++ '/' :: "event-covers/".toList)
      noun := "cover image" }

/-! ## The storage -/

structure BucketObject where
  contentType : Option String
  bytes : List UInt8
  deriving DecidableEq, Repr

/-- A URL that was signed: the type and the size are under the signature. -/
structure SignedPut where
  owner : UploadOwner
  key : ObjectKey
  contentType : String
  byteSize : Nat
  expiresAt : Instant
  deriving DecidableEq, Repr

structure UploadDesk where
  objects : ObjectKey → Option BucketObject
  clock : Instant
  /-- Every URL that was signed. -/
  signed : List SignedPut

def UploadDesk.put (desk : UploadDesk) (key : ObjectKey) (object : BucketObject) : UploadDesk :=
  { desk with objects := Function.update desk.objects key (some object) }

/-- Deleting an absent key is not an error. -/
def UploadDesk.remove (desk : UploadDesk) (key : ObjectKey) : UploadDesk :=
  { desk with objects := Function.update desk.objects key none }

def MAGIC_BYTES_TO_READ : Nat := 12

/-! ## The service -/

def NOT_REALLY_AN_IMAGE : DomainException :=
  .validation "That file is not the image type it claims to be."
def NOT_YOURS : DomainException := .forbidden "That upload does not belong to you."
def UPLOAD_MISSING : DomainException :=
  .validation "No upload was found — send the file to the URL, then confirm."

def NOT_AN_IMAGE (noun : String) : DomainException :=
  .validation ("A " ++ noun ++ " must be one of: " ++ ", ".intercalate ALLOWED_CONTENT_TYPES ++ ".")

def notWithinSize (noun : String) (maxBytes : Nat) : DomainException :=
  .validation ("A " ++ noun ++ " must be between 1 byte and " ++ toString maxBytes ++ " bytes.")

inductive UploadRequest where
  | requestUpload (owner : UploadOwner) (contentType : String) (byteSize : Nat)
  | confirm (owner : UploadOwner) (key : ObjectKey)
  /-- The object that a saved URL points at. -/
  | removeAt (publicUrl : List Char)
  deriving DecidableEq, Repr

inductive UploadReply where
  | issued (signed : SignedPut)
  | confirmed (publicUrl : List Char)
  | removed
  | thrown (exception : DomainException)
  | crashed
  deriving DecidableEq, Repr

/-- The call to the storage that a request is at. -/
inductive UploadPhase where
  | begin (request : UploadRequest)
  | presign (owner : UploadOwner) (image : ImageType) (byteSize : Nat)
  | head (owner : UploadOwner) (key : ObjectKey)
  | readPrefix (owner : UploadOwner) (key : ObjectKey) (declared : String)
  | copy (owner : UploadOwner) (key : ObjectKey) (contentType : String)
  | remove (key : ObjectKey) (reply : UploadReply)
  | done (reply : UploadReply)
  deriving DecidableEq, Repr

section Service

variable (maxBytes ttl : Nat) (publicBaseUrl : List Char)

/-- Also what a dot and another dot make of a key is refused, not resolved. -/
def isOwnStagingKey (owner : UploadOwner) (key : ObjectKey) : Bool :=
  decide ((scopeFor owner).stagingPrefix <+: key) && !decide ("..".toList <:+: key)

def finalKey (owner : UploadOwner) (key : ObjectKey) : ObjectKey :=
  (scopeFor owner).finalPrefix ++ key.drop (scopeFor owner).stagingPrefix.length

def stagingKey (owner : UploadOwner) (uuid : Nat) (image : ImageType) : ObjectKey :=
  (scopeFor owner).stagingPrefix ++ (digitsOf uuid ++ '.' :: image.extension)

def publicUrl (key : ObjectKey) : List Char := publicBaseUrl ++ '/' :: key

def keyFromPublicUrl (url : List Char) : Option ObjectKey :=
  if publicBaseUrl ++ ['/'] <+: url then some (url.drop (publicBaseUrl.length + 1)) else none

def isWithinSize (byteSize : Nat) : Bool := 0 < byteSize && byteSize ≤ maxBytes

def beginUpload : UploadRequest → UploadPhase
  | .requestUpload owner contentType byteSize =>
    match imageType contentType with
    | none => .done (.thrown (NOT_AN_IMAGE (scopeFor owner).noun))
    | some image =>
      if isWithinSize maxBytes byteSize then .presign owner image byteSize
      else .done (.thrown (notWithinSize (scopeFor owner).noun maxBytes))
  | .confirm owner key =>
    if isOwnStagingKey owner key then .head owner key else .done (.thrown NOT_YOURS)
  | .removeAt url =>
    match keyFromPublicUrl publicBaseUrl url with
    | none => .done .removed
    | some key => .remove key .removed

def presigned (desk : UploadDesk) (owner : UploadOwner) (image : ImageType) (byteSize uuid : Nat) :
    SignedPut where
  owner := owner
  key := stagingKey owner uuid image
  contentType := image.contentType
  byteSize := byteSize
  expiresAt := desk.clock + ttl

/-- `requireStored`, and the declared type. -/
def afterHead (owner : UploadOwner) (key : ObjectKey) : Option BucketObject → UploadPhase
  | none => .done (.thrown UPLOAD_MISSING)
  | some stored =>
    if isWithinSize maxBytes stored.bytes.length then
      match imageType (stored.contentType.getD "") with
      | none => .remove key (.thrown (NOT_AN_IMAGE (scopeFor owner).noun))
      | some image => .readPrefix owner key image.contentType
    else .remove key (.thrown (notWithinSize (scopeFor owner).noun maxBytes))

def afterRead (owner : UploadOwner) (key : ObjectKey) (declared : String) :
    Option (List UInt8) → UploadPhase
  | some bytes =>
    if looksLike declared bytes then .copy owner key declared
    else .remove key (.thrown NOT_REALLY_AN_IMAGE)
  | none => .remove key (.thrown NOT_REALLY_AN_IMAGE)

/-- One call to the storage; the input is what `randomUUID` gives. -/
def actOnUpload (desk : UploadDesk) (uuid : Nat) : UploadPhase → UploadDesk × UploadPhase
  | .begin request => (desk, beginUpload maxBytes publicBaseUrl request)
  | .presign owner image byteSize =>
    let signed := presigned ttl desk owner image byteSize uuid
    ({ desk with signed := signed :: desk.signed }, .done (.issued signed))
  | .head owner key => (desk, afterHead maxBytes owner key (desk.objects key))
  | .readPrefix owner key declared =>
    (desk, afterRead owner key declared
      ((desk.objects key).map fun object => object.bytes.take MAGIC_BYTES_TO_READ))
  | .copy owner key contentType =>
    match desk.objects key with
    | none => (desk, .done .crashed)
    | some object =>
      (desk.put (finalKey owner key) { object with contentType := some contentType },
        .remove key (.confirmed (publicUrl publicBaseUrl (finalKey owner key))))
  | .remove key reply => (desk.remove key, .done reply)
  | .done reply => (desk, .done reply)

/-- What happens at the storage meanwhile. -/
inductive UploadWorld where
  | tick (elapsed : Nat)
  /-- Somebody sends bytes to a signed URL. -/
  | put (signed : SignedPut) (bytes : List UInt8)
  deriving DecidableEq, Repr

/-- The storage takes the bytes where the signature is one that was made, for bytes of that size,
and its time is not over. -/
def IsTaken (desk : UploadDesk) (signed : SignedPut) (bytes : List UInt8) : Prop :=
  signed ∈ desk.signed ∧ desk.clock < signed.expiresAt ∧ bytes.length = signed.byteSize

instance (desk : UploadDesk) (signed : SignedPut) (bytes : List UInt8) :
    Decidable (IsTaken desk signed bytes) := inferInstanceAs (Decidable (_ ∧ _))

def changeStorage (desk : UploadDesk) : UploadWorld → UploadDesk
  | .tick elapsed => { desk with clock := desk.clock + elapsed }
  | .put signed bytes =>
    if IsTaken desk signed bytes then desk.put signed.key ⟨some signed.contentType, bytes⟩ else desk

/-- Requests of any owners at once. -/
def imageUploads : Handler UploadDesk UploadPhase UploadRequest Nat UploadWorld where
  opened := .begin
  act := actOnUpload maxBytes ttl publicBaseUrl
  outside := changeStorage
  crashed := .done .crashed

end Service

end EventaApi.Source
