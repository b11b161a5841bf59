import Provisr.Foundation.Zod
import Provisr.Foundation.JsonOrder
import Mathlib.Algebra.Group.Int.Defs

namespace Provisr.Orchestrator.ClerkAuth

open Provisr.Foundation

structure ClerkSessionClaims where
  sub : String
  sid : Option String
  email : Option String
  exp : JsNumber
  orgId : Option String
  orgRole : Option String
  deriving DecidableEq

structure AuthConfig where
  secretKey : Option String
  tokenCacheTtlMs : Nat

mutual

-- String(value)
def jsString : JsJson → String
  | .null => "null"
  | .bool b => toString b
  | .num n => String.ofList n.text
  | .str s => s
  | .arr items => ",".intercalate (joined items)
  | .obj _ => "[object Object]"

def joined : List JsJson → List String
  | [] => []
  | .null :: items => "" :: joined items
  | item :: items => jsString item :: joined items

end

def stringClaim (claims : JsFields) (key : String) : Option String := match claims.lookup key with
  | some (.str s) => some s
  | _ => none

def extractClaims (claims : JsFields) : ClerkSessionClaims where
  sub := match claims.lookup "sub" with
    | none | some .null => ""
    | some sub => jsString sub
  sid := stringClaim claims "sid"
  email := stringClaim claims "email"
  exp := match claims.lookup "exp" with
    | some (.num exp) => exp
    | _ => 0
  orgId := stringClaim claims "org_id"
  orgRole := stringClaim claims "org_role"

-- exp is in seconds, the clock in milliseconds.
def passed (exp : JsNumber) (now : Int) : Bool :=
  let mantissa : Int := (if exp.negative then -1 else 1) * Nat.ofDigitChars 10 exp.digits 0
  let exponent := exp.point - exp.digits.length
  if 0 ≤ exponent then decide (mantissa * 10 ^ exponent.toNat * 1000 ≤ now)
  else decide (mantissa * 1000 ≤ now * 10 ^ (-exponent).toNat)

structure CachedToken where
  claims : ClerkSessionClaims
  verifiedAt : Int
  deriving DecidableEq

-- Map.set: a key that is there keeps its place.
def setToken (cache : List (String × CachedToken)) (token : String) (entry : CachedToken) :
    List (String × CachedToken) :=
  if cache.any fun e => e.1 == token then cache.map fun e => if e.1 = token then (token, entry) else e
  else cache ++ [(token, entry)]

def evictIfOversized (cache : List (String × CachedToken)) : List (String × CachedToken) :=
  if 10000 < cache.length then [] else cache

structure Verification where
  token : String
  now : Int
  deriving DecidableEq

structure Answer where
  token : String
  claims : Option ClerkSessionClaims
  time : Int
  deriving DecidableEq

structure Service where
  tokenCache : List (String × CachedToken) := []
  pending : List Verification := []
  answers : List Answer := []
  deriving DecidableEq

variable (config : AuthConfig) (payload : String → JsFields)

def cached (s : Service) (token : String) (now : Int) : Option ClerkSessionClaims :=
  (s.tokenCache.lookup token).bind fun entry =>
    if now - entry.verifiedAt < config.tokenCacheTtlMs then some entry.claims else none

namespace Service

def verifyToken (s : Service) (token : String) (now : Int) : Service :=
  match cached config s token now with
  | some claims => { s with answers := s.answers ++ [⟨token, some claims, now⟩] }
  | none =>
    if config.secretKey = none ∨ config.secretKey = some "" then
      { s with answers := s.answers ++ [⟨token, none, now⟩] }
    else { s with pending := s.pending ++ [⟨token, now⟩] }

def settle (s : Service) (v : Verification) (accepted : Bool) (time : Int) : Service :=
  let s := { s with pending := s.pending.erase v }
  if accepted then
    let extracted := extractClaims (payload v.token)
    { s with
      tokenCache := evictIfOversized (setToken s.tokenCache v.token ⟨extracted, v.now⟩)
      answers := s.answers ++ [⟨v.token, some extracted, time⟩] }
  else { s with answers := s.answers ++ [⟨v.token, none, time⟩] }

end Service

inductive Event where
  | call (token : String) (now : Int)
  | settled (v : Verification) (accepted : Bool) (time : Int)

def Event.apply (s : Service) : Event → Service
  | .call token now => s.verifyToken config token now
  | .settled v accepted time => s.settle payload v accepted time

-- The verifier rejects a token whose exp has passed when it is called.
def Event.Enabled (s : Service) : Event → Prop
  | .call _ _ => True
  | .settled v accepted _ =>
    v ∈ s.pending ∧ (accepted = true → passed (extractClaims (payload v.token)).exp v.now = false)

inductive Run (meets : Service → Event → Prop) : Service → Prop
  | start : Run meets {}
  | step {s : Service} (e : Event) (run : Run meets s) (enabled : e.Enabled payload s) (met : meets s e) :
      Run meets (e.apply config payload s)

-- No token is used after its exp while its entry is fresh, and none that the verifier accepts expires on its way.
def Timely (s : Service) : Event → Prop
  | .call token now => cached config s token now ≠ none → passed (extractClaims (payload token)).exp now = false
  | .settled v accepted time => accepted = true → passed (extractClaims (payload v.token)).exp time = true →
      passed (extractClaims (payload v.token)).exp v.now = true

section Guard

structure RequestUser where
  userId : String
  clerkId : String
  email : String
  memberships : List (String × String)

structure Request where
  isPublic : Bool
  devUser : Option String
  allowNoWorkspaceMembership : Bool
  token : Option String

inductive GuardError where
  | unauthorized
  | forbidden
  | dependency
  deriving DecidableEq

structure IdentityService where
  getOrCreateUser : ClerkSessionClaims → Except GuardError RequestUser
  resolveMemberships : String → Except GuardError (List (String × String))

def canActivate (identity : IdentityService) (req : Request) (claims : Option ClerkSessionClaims) :
    Except GuardError (Option RequestUser) :=
  if req.isPublic then .ok none
  else match req.devUser with
    | some id => .ok (some ⟨id, id, "dev@provisr.local", []⟩)
    | none => match req.token, claims with
      | none, _ | _, none => .error .unauthorized
      | some _, some claims => do
        let user ← identity.getOrCreateUser claims
        let memberships ← identity.resolveMemberships user.clerkId
        if memberships = [] ∧ req.allowNoWorkspaceMembership = false then .error .forbidden
        else .ok (some { user with memberships := memberships })

end Guard

section Runs

variable {config payload} {s : Service}

structure Sound (payload : String → JsFields) (s : Service) : Prop where
  cache : ∀ e ∈ s.tokenCache, e.2.claims = extractClaims (payload e.1)
  answers : ∀ a ∈ s.answers, ∀ c, a.claims = some c → passed c.exp a.time = false

theorem mem_setToken {cache : List (String × CachedToken)} {token : String} {entry : CachedToken}
    {e : String × CachedToken} (h : e ∈ setToken cache token entry) : e ∈ cache ∨ e = (token, entry) := by
  unfold setToken at h
  split at h
  · obtain ⟨old, mem, same⟩ := List.mem_map.mp h
    split at same
    · exact .inr same.symm
    · exact .inl (same ▸ mem)
  · rcases List.mem_append.mp h with mem | mem
    · exact .inl mem
    · exact .inr (List.mem_singleton.mp mem)

theorem mem_evictIfOversized {cache : List (String × CachedToken)} {e : String × CachedToken}
    (h : e ∈ evictIfOversized cache) : e ∈ cache := by
  unfold evictIfOversized at h
  split at h
  · cases h
  · exact h

theorem Sound.cached (h : Sound payload s) {token : String} {now : Int} {claims : ClerkSessionClaims}
    (found : cached config s token now = some claims) : claims = extractClaims (payload token) := by
  unfold ClerkAuth.cached at found
  obtain ⟨entry, there, fresh⟩ := Option.bind_eq_some_iff.mp found
  obtain ⟨before, after, parts, -⟩ := List.lookup_eq_some_iff.mp there
  split at fresh
  · rw [← Option.some.inj fresh]
    exact h.cache (token, entry) (parts ▸ List.mem_append_right _ List.mem_cons_self)
  · cases fresh

theorem Sound.answer (h : Sound payload s) {a : Answer} (new : ∀ c, a.claims = some c → passed c.exp a.time = false) :
    ∀ b ∈ s.answers ++ [a], ∀ c, b.claims = some c → passed c.exp b.time = false := by
  intro b mem
  rcases List.mem_append.mp mem with mem | mem
  · exact h.answers b mem
  · rw [List.mem_singleton.mp mem]
    exact new

theorem Sound.verifyToken (h : Sound payload s) {token : String} {now : Int}
    (timely : Timely config payload s (.call token now)) : Sound payload (s.verifyToken config token now) := by
  unfold Service.verifyToken
  split
  · rename_i claims found
    refine ⟨h.cache, h.answer fun c same => ?_⟩
    rw [← Option.some.inj same, h.cached found]
    exact timely (by rw [found]; exact Option.some_ne_none claims)
  · split
    · exact ⟨h.cache, h.answer nofun⟩
    · exact ⟨h.cache, h.answers⟩

theorem Sound.settle (h : Sound payload s) {v : Verification} {accepted : Bool} {time : Int}
    (valid : accepted = true → passed (extractClaims (payload v.token)).exp v.now = false)
    (timely : Timely config payload s (.settled v accepted time)) :
    Sound payload (s.settle payload v accepted time) := by
  unfold Service.settle
  dsimp only
  split
  · rename_i accepted
    constructor
    · intro e mem
      rcases mem_setToken (mem_evictIfOversized mem) with mem | same
      · exact h.cache e mem
      · rw [same]
    · refine Sound.answer (s := s) h fun c same => ?_
      rw [← Option.some.inj same]
      refine Bool.eq_false_iff.mpr fun expired => ?_
      exact Bool.false_ne_true ((valid accepted).symm.trans (timely accepted expired))
  · exact ⟨h.cache, Sound.answer (s := s) h nofun⟩

theorem Run.sound (run : Run config payload (Timely config payload) s) : Sound payload s := by
  induction run with
  | start => exact ⟨fun _ mem => absurd mem List.not_mem_nil, fun _ mem => absurd mem List.not_mem_nil⟩
  | step e run enabled timely ih =>
    cases e with
    | call token now => exact ih.verifyToken timely
    | settled v accepted time => exact ih.settle enabled.2 timely

theorem canActivate_claims {identity : IdentityService} {req : Request} {claims : Option ClerkSessionClaims}
    {user : Option RequestUser} (guarded : req.isPublic = false) (undeveloped : req.devUser = none)
    (admitted : canActivate identity req claims = .ok user) : ∃ c, claims = some c := by
  unfold canActivate at admitted
  rw [guarded, undeveloped] at admitted
  cases claims with
  | some c => exact ⟨c, rfl⟩
  | none => cases token : req.token <;> simp [token] at admitted

theorem verifyToken_unexpired (run : Run config payload (Timely config payload) s) :
    (∀ a ∈ s.answers, ∀ c, a.claims = some c → passed c.exp a.time = false) ∧
      ∀ a ∈ s.answers, ∀ (identity : IdentityService) (req : Request) (user : Option RequestUser),
        req.isPublic = false → req.devUser = none → canActivate identity req a.claims = .ok user →
          ∃ c, a.claims = some c ∧ passed c.exp a.time = false := by
  refine ⟨run.sound.answers, fun a mem identity req user guarded undeveloped admitted => ?_⟩
  obtain ⟨c, same⟩ := canActivate_claims guarded undeveloped admitted
  exact ⟨c, same, run.sound.answers a mem c same⟩

end Runs

section Session

def minuteCache : AuthConfig := ⟨some "sk_test", 60000⟩

def sessionToken (_ : String) : JsFields := [("sub", .str "user_1"), ("exp", .num (JsNumber.ofNat 10))]

theorem expired_token_returned : ∃ s, Run minuteCache sessionToken (fun _ _ => True) s ∧
    ∃ a ∈ s.answers, ∃ c, a.claims = some c ∧ passed c.exp a.time = true := by
  have called : Run minuteCache sessionToken (fun _ _ => True) _ := Run.start.step (.call "jwt" 1000) trivial trivial
  have verified := called.step (.settled ⟨"jwt", 1000⟩ true 1050) ⟨List.mem_cons_self, fun _ => by decide⟩ trivial
  have again := verified.step (.call "jwt" 30000) trivial trivial
  exact ⟨_, again, ⟨"jwt", some (extractClaims (sessionToken "jwt")), 30000⟩, by decide, _, rfl, by decide⟩

theorem unexpired_token_returned : ∃ s, Run minuteCache sessionToken (Timely minuteCache sessionToken) s ∧
    s.answers.length = 2 ∧ ∀ a ∈ s.answers, ∀ c, a.claims = some c → passed c.exp a.time = false := by
  have called : Run minuteCache sessionToken (Timely minuteCache sessionToken) _ :=
    Run.start.step (.call "jwt" 1000) trivial nofun
  have verified := called.step (.settled ⟨"jwt", 1000⟩ true 1050) ⟨List.mem_cons_self, fun _ => by decide⟩
    fun _ expired => absurd expired (by decide)
  have again := verified.step (.call "jwt" 9000) trivial fun _ => by decide
  exact ⟨_, again, rfl, (verifyToken_unexpired again).1⟩

end Session

end Provisr.Orchestrator.ClerkAuth
