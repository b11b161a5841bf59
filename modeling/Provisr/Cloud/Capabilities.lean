import Provisr.Backend.IacArtifact
import Provisr.Backend.Strings
import Provisr.Foundation.Interleaving

namespace Provisr.Cloud

open Provisr.Foundation Provisr.Backend

def validWorkspaceID (id : String) : Bool := (parseUuid id).isSome

-- Times count nanoseconds from the zero time; updatedAt is the text that Format gives.
structure CapabilityAccount where
  id : String
  workspaceId : String
  provider : String
  label : String
  status : String
  roleArn : String
  externalId : String
  defaultRegion : String
  updatedAt : String
  verifiedAt : Int
  deriving DecidableEq

structure Discovery where
  accountId : String
  regions : List String
  permissionsVerified : Bool
  deriving DecidableEq

-- call is the provider call the value came from; the code keeps no such number.
structure CapabilityCache where
  value : Discovery
  expires : Int
  checked : Int
  call : Nat
  deriving DecidableEq

structure AccountCapability where
  id : String
  provider : String
  status : String
  accountAlias : String
  accountIdentity : String := ""
  defaultRegion : String := ""
  availableRegions : List String := []
  supportedDomains : List String := []
  executionReady : Bool := false
  checkedAt : Option Int := none
  warning : String := ""
  call : Option Nat := none
  deriving DecidableEq

structure Capabilities where
  workspaceId : String
  accounts : List AccountCapability
  deriving DecidableEq

inductive Response where
  | error (status : Nat) (body : String)
  | ok (body : Capabilities)
  deriving DecidableEq

-- What the handler's mutex guards. The code keeps no count of the provider calls and of the refreshes: `started` are the
-- calls so far, `invalidated` those before a text was last invalidated, and `refreshes` the refreshes of a text.
structure Shared where
  cache : List (String × CapabilityCache)
  generation : String → UInt64
  started : Nat
  invalidated : String → Nat
  refreshes : String → Nat

namespace Capability

inductive Op where
  | accounts (workspaceId : String)
  | now
  | lookup (key workspaceId : String)
  | start (a : CapabilityAccount)
  | finish (call : Nat)
  | store (key workspaceId : String) (generation : UInt64) (now : Int) (cached : CapabilityCache)
  | invalidate (workspaceId : String)
  deriving DecidableEq

abbrev Ret : Op → Type
  | .accounts _ => Option (List CapabilityAccount)
  | .now => Int
  | .lookup _ _ => Option CapabilityCache × UInt64
  | .start _ => Nat
  | .finish _ => Option Discovery
  | .store _ _ _ _ _ => Bool
  | .invalidate _ => Nat

def hour : Int := 3600000000000

def kept (now : Int) (key : String) (cache : List (String × CapabilityCache)) : List (String × CapabilityCache) :=
  let live := cache.filter fun entry => decide (now < entry.2.expires)
  (if 1024 ≤ live.length then [] else live).filter fun entry => entry.1 != key

def exec : (o : Op) → Shared → Ret o → Shared → Prop
  | .accounts _, s, _, s' => s' = s
  | .now, s, _, s' => s' = s
  | .lookup key workspaceId, s, r, s' => r = (s.cache.lookup key, s.generation workspaceId) ∧ s' = s
  | .start _, s, n, s' => n = s.started ∧ s' = { s with started := s.started + 1 }
  | .finish _, s, _, s' => s' = s
  | .store key workspaceId generation now cached, s, stored, s' =>
    if s.generation workspaceId = generation then
      stored = true ∧ s' = { s with cache := (key, cached) :: kept now key s.cache }
    else stored = false ∧ s' = s
  | .invalidate workspaceId, s, n, s' =>
    n = s.started ∧
      s' = { s with
        generation := fun w => if w = workspaceId then s.generation w + 1 else s.generation w
        cache := s.cache.filter fun entry => !HasPrefix entry.1 (workspaceId ++ ":")
        invalidated := fun w => if w = workspaceId then s.started else s.invalidated w
        refreshes := fun w => if w = workspaceId then s.refreshes w + 1 else s.refreshes w }

end Capability

open Capability

def cacheKey (a : CapabilityAccount) : String := a.workspaceId ++ ":" ++ a.id ++ ":" ++ a.updatedAt

def discover (a : CapabilityAccount) (force : Bool) : Prog Ret (Option CapabilityCache) := do
  let now ← Prog.call Op.now
  let (cached, generation) ← Prog.call (Op.lookup (cacheKey a) a.workspaceId)
  match cached.filter fun cached => !force && decide (now < cached.expires) with
  | some cached => pure (some cached)
  | none => do
    let call ← Prog.call (Op.start a)
    let facts ← Prog.call (Op.finish call)
    match facts.filter fun facts => facts.accountId.utf8ByteSize == 12 && !facts.regions.isEmpty with
    | none => pure none
    | some facts => do
      let cached : CapabilityCache := ⟨facts, now + hour, now, call⟩
      let stored ← Prog.call (Op.store (cacheKey a) a.workspaceId generation now cached)
      pure (if stored then some cached else none)

def SupportedDomains [GoUnicode] (provider : String) : List String :=
  if ToLower (TrimSpace provider) = "aws" then ["compute", "database", "network", "storage"] else []

section Handler

variable [GoUnicode]

def listed (a : CapabilityAccount) : AccountCapability :=
  { id := a.id, provider := a.provider, status := a.status, accountAlias := a.label }

-- The account ids that AWSDiscovery gives are twelve digits.
def discovered (a : CapabilityAccount) (now : Int) (cached : CapabilityCache) : AccountCapability :=
  let regions := cached.value.regions.insertionSort (· ≤ ·)
  let ready := cached.value.permissionsVerified && decide (now - cached.checked < 24 * hour)
  { listed a with
    accountIdentity := "********" ++ String.ofList (cached.value.accountId.toList.drop 8)
    availableRegions := regions
    defaultRegion := if a.defaultRegion ∈ regions ∧ a.defaultRegion ≠ "" then a.defaultRegion else regions.headD ""
    supportedDomains := SupportedDomains a.provider
    checkedAt := some cached.checked
    executionReady := ready
    warning := if ready then "" else "execution_permissions_not_verified"
    call := some cached.call }

def capability (a : CapabilityAccount) : Prog Ret AccountCapability :=
  if a.status ≠ "active" ∨ a.verifiedAt = 0 then pure { listed a with warning := "account_not_verified" }
  else if a.provider ≠ "aws" then pure { listed a with warning := "provider_discovery_not_supported" }
  else do
    let now ← Prog.call Op.now
    match ← discover a false with
    | none => pure { listed a with warning := "provider_discovery_unavailable" }
    | some cached => pure (discovered a now cached)

def capabilities (workspaceId : String) : List CapabilityAccount → Prog Ret (Option (List AccountCapability))
  | [] => pure (some [])
  | a :: rest =>
    if a.workspaceId ≠ workspaceId then pure none
    else do
      let item ← capability a
      let items ← capabilities workspaceId rest
      pure (items.map (item :: ·))

structure LookupRequest where
  authorization : String
  workspaceId : String
  deriving DecidableEq

-- The ids of the accounts are the keys of their table, so that any sort by them gives this list.
def ServeHTTP (token : String) (r : LookupRequest) : Prog Ret Response :=
  if token = "" then pure (.error 503 "\x7b\"error\":\"capabilities_not_configured\"\x7d")
  else if r.authorization ≠ "Bearer " ++ token then pure (.error 401 "\x7b\"error\":\"unauthorized\"\x7d")
  else if validWorkspaceID r.workspaceId = false then pure (.error 400 "\x7b\"error\":\"invalid_workspace\"\x7d")
  else do
    match ← Prog.call (Op.accounts r.workspaceId) with
    | none => pure (.error 502 "\x7b\"error\":\"capabilities_unavailable\"\x7d")
    | some accounts => do
      match ← capabilities r.workspaceId accounts with
      | none => pure (.error 502 "\x7b\"error\":\"capabilities_unavailable\"\x7d")
      | some items => pure (.ok ⟨r.workspaceId, items.insertionSort fun a b => a.id ≤ b.id⟩)

end Handler

def rediscover (workspaceId : String) : List CapabilityAccount → Prog Ret Unit
  | [] => pure ()
  | a :: rest =>
    if a.workspaceId = workspaceId ∧ a.status = "active" ∧ a.provider = "aws" ∧ a.verifiedAt ≠ 0 then do
      let _ ← discover a true
      rediscover workspaceId rest
    else rediscover workspaceId rest

def Refresh (token workspaceId : String) : Prog Ret Unit :=
  if token = "" then pure ()
  else do
    let _ ← Prog.call (Op.invalidate workspaceId)
    match ← Prog.call (Op.accounts workspaceId) with
    | none => pure ()
    | some accounts => rediscover workspaceId accounts

-- handleVerify refreshes the text it has checked, RunCapabilityRefresh an id of the database.
inductive CapabilityCall where
  | ServeHTTP (r : LookupRequest)
  | Refresh (workspaceId : String) (valid : validWorkspaceID workspaceId = true)
  deriving DecidableEq

def CapabilityCall.workspaceId : CapabilityCall → String
  | .ServeHTTP r => r.workspaceId
  | .Refresh workspaceId _ => workspaceId

variable [GoUnicode]

def capabilityProgram (token : String) : CapabilityCall → Prog Ret (Option Response)
  | .ServeHTTP r => some <$> ServeHTTP token r
  | .Refresh workspaceId _ => do
    Refresh token workspaceId
    pure none

def capabilitiesHandler (token : String) : Environment Shared CapabilityCall Ret (Option Response) where
  program := capabilityProgram token
  exec := exec
  ambient _ _ := False

def newCapabilitiesHandler : Shared := ⟨[], fun _ => 0, 0, fun _ => 0, fun _ => 0⟩

end Provisr.Cloud
