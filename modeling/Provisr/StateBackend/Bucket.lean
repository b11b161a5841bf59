import Provisr.Foundation.Transcripts
import Provisr.StateBackend.BucketPolicy

namespace Provisr.StateBackend

open Provisr.Foundation Provisr.Backend

def tagManaged : String := "provisr:managed"

def tagWorkspace : String := "provisr:workspace"

def policySid : String := "ProvisrDenyInsecureTransport"

structure Failure where
  status : Nat
  code : String
  message : String
  deriving DecidableEq

def errUnavailable : Failure := ⟨502, "backend_unavailable", "Remote state backend is not accessible"⟩

def errConflict : Failure := ⟨409, "backend_conflict", "Remote state backend name is held by another owner"⟩

def errNotOnboard : Failure :=
  ⟨422, "provider_not_onboarded", "Remote state is unavailable until delegated onboarding exists for this provider"⟩

structure Tag where
  key : String
  value : String
  deriving DecidableEq

structure PublicAccessBlock where
  blockPublicAcls : Option Bool
  blockPublicPolicy : Option Bool
  ignorePublicAcls : Option Bool
  restrictPublicBuckets : Option Bool
  deriving DecidableEq

def PublicAccessBlock.full (c : PublicAccessBlock) : Bool :=
  c.blockPublicAcls.getD false && c.blockPublicPolicy.getD false && c.ignorePublicAcls.getD false &&
    c.restrictPublicBuckets.getD false

abbrev EncryptionRules := List (Option String)

def EncryptionRules.kms (rules : EncryptionRules) : Bool := rules.any (· == some "aws:kms")

inductive S3Op where
  | HeadBucket (name owner : String)
  | CreateBucket (name objectOwnership : String) (locationConstraint : Option String)
  | GetBucketTagging (name owner : String)
  | PutBucketTagging (name owner : String) (tags : List Tag)
  | GetBucketVersioning (name owner : String)
  | PutBucketVersioning (name owner status : String)
  | GetPublicAccessBlock (name owner : String)
  | PutPublicAccessBlock (name owner : String) (c : PublicAccessBlock)
  | GetBucketEncryption (name owner : String)
  | PutBucketEncryption (name owner : String) (rules : EncryptionRules) (bucketKeyEnabled : Bool)
  | GetBucketPolicy (name owner : String)
  | PutBucketPolicy (name owner policy : String)
  deriving DecidableEq

namespace S3Op

-- An error is its code, which is empty when the error carries none.
abbrev Ret : S3Op → Type
  | .GetBucketTagging .. => Except String (List Tag)
  | .GetBucketVersioning .. => Except String String
  | .GetPublicAccessBlock .. => Except String (Option PublicAccessBlock)
  | .GetBucketEncryption .. => Except String EncryptionRules
  | .GetBucketPolicy .. => Except String (Option String)
  | _ => Except String Unit

def mutates : S3Op → Bool
  | .CreateBucket .. | .PutBucketTagging .. | .PutBucketVersioning .. | .PutPublicAccessBlock ..
  | .PutBucketEncryption .. | .PutBucketPolicy .. => true
  | _ => false

end S3Op

structure Bucket where
  name : String
  owner : String
  region : String
  workspace : String
  partition : String
  deriving DecidableEq

namespace Bucket

abbrev Driver := Async S3Op.Ret Failure

variable (b : Bucket)

def arn : String := bucketArn b.partition b.name

def unavailable {α : Type} : Except String α → Except Failure α
  | .ok a => .ok a
  | .error _ => .error errUnavailable

def created : Except String Unit → Except Failure Unit
  | .ok () => .ok ()
  | .error code =>
    if code = "BucketAlreadyOwnedByYou" then .ok ()
    else if code = "BucketAlreadyExists" then .error errConflict
    else .error errUnavailable

def create : Driver Unit :=
  Async.attempt
    (.CreateBucket b.name "BucketOwnerEnforced" (if b.region ≠ "us-east-1" then some b.region else none)) created

-- Later tags of a key replace earlier ones.
def found (set : List Tag) (key : String) : Option String :=
  ((set.reverse.map fun tag => (tag.key, tag.value)).lookup key)

def tagSet : Except String (List Tag) → Except Failure (List Tag)
  | .ok set => .ok set
  | .error code => if code = "NoSuchTagSet" then .ok [] else .error errUnavailable

def claimed (set : List Tag) : List Tag :=
  (set.filter fun tag => tag.key != tagManaged && tag.key != tagWorkspace) ++
    [⟨tagManaged, "true"⟩, ⟨tagWorkspace, b.workspace⟩]

def claim : Driver Unit := do
  let set ← Async.attempt (.GetBucketTagging b.name b.owner) tagSet
  if (found set tagWorkspace).any (· != b.workspace) then throw errConflict
  else if found set tagManaged = some "true" ∧ (found set tagWorkspace).getD "" = b.workspace then pure ()
  else Async.attempt (.PutBucketTagging b.name b.owner (b.claimed set)) unavailable

-- A missing configuration is drift, not an error.
def orMissing {α : Type} (code : String) : Except String α → Except Failure (Option α)
  | .ok a => .ok (some a)
  | .error c => if c = code then .ok none else .error errUnavailable

def drifted : Driver Bool := do
  let versioning ← Async.attempt (.GetBucketVersioning b.name b.owner) unavailable
  if versioning ≠ "Enabled" then pure true
  else do
    let pab ← Async.attempt (.GetPublicAccessBlock b.name b.owner) (orMissing "NoSuchPublicAccessBlockConfiguration")
    if pab.join.any PublicAccessBlock.full = false then pure true
    else do
      let enc ← Async.attempt (.GetBucketEncryption b.name b.owner)
        (orMissing "ServerSideEncryptionConfigurationNotFoundError")
      if enc.any EncryptionRules.kms = false then pure true
      else do
        let policy ← Async.attempt (.GetBucketPolicy b.name b.owner) (orMissing "NoSuchBucketPolicy")
        match policy with
        | none => pure true
        | some policy => pure (!Contains (policy.getD "") ("\"" ++ policySid ++ "\""))

def tlsOnlyPolicy (partition bucket : String) : String :=
  let arn := bucketArn partition bucket
  "\x7b\"Version\":\"2012-10-17\",\"Statement\":[\x7b\"Sid\":\"" ++ policySid ++
    "\",\"Effect\":\"Deny\",\"Principal\":\"*\",\"Action\":\"s3:*\"," ++
    "\"Resource\":[\"" ++ arn ++ "\",\"" ++ arn ++
    "/*\"],\"Condition\":\x7b\"Bool\":\x7b\"aws:SecureTransport\":\"false\"\x7d\x7d\x7d]\x7d"

def harden : Driver Unit := do
  Async.attempt (.PutPublicAccessBlock b.name b.owner ⟨some true, some true, some true, some true⟩) unavailable
  Async.attempt (.PutBucketVersioning b.name b.owner "Enabled") unavailable
  Async.attempt (.PutBucketEncryption b.name b.owner [some "aws:kms"] true) unavailable
  Async.attempt (.PutBucketPolicy b.name b.owner (tlsOnlyPolicy b.partition b.name)) unavailable

-- What HeadBucket says: there is such a bucket of the expected owner, or there is none.
def headed : Except String Unit → Except Failure Bool
  | .ok () => .ok true
  | .error code =>
    if code = "NotFound" ∨ code = "NoSuchBucket" then .ok false
    else if code = "Forbidden" ∨ code = "AccessDenied" then .error errConflict
    else .error errUnavailable

def settle (created : Bool) : Driver (Bool × Bool) := do
  b.claim
  if ← b.drifted then
    b.harden
    -- The second look fails as a whole when it fails or still sees drift.
    let drifted ← Async.handle b.drifted fun _ => throw errUnavailable
    if drifted then throw errUnavailable
    else pure (created, !created)
  else pure (created, false)

def ensure : Driver (Bool × Bool) := do
  let exists_ ← Async.attempt (.HeadBucket b.name b.owner) headed
  if exists_ then b.settle false
  else do
    b.create
    b.settle true

end Bucket

end Provisr.StateBackend
