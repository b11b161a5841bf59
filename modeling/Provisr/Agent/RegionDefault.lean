import Provisr.Agent.Envelopes
import Provisr.Agent.GapDetection

namespace Provisr.Agent

open Provisr.Foundation PyRegex Contracts

inductive SessionStatus where
  | active
  | failed
  deriving DecidableEq, Repr, Inhabited

structure PinnedProfile where
  profileId : String
  promptId : String
  promptVersion : String
  promptHash : String
  temperature : PyFloat
  maxTokens : Int
  deriving DecidableEq

-- The ids are those of the request that creates the session; the tags of a policy are a dict.
structure AgentSession where
  organizationId : Such (lengthIn 1 128)
  requestId : Such (lengthIn 36 36)
  status : SessionStatus
  profile : PinnedProfile
  policyRequirements : Option PolicyRequirements
  executionContext : Option ExecutionContext
  messages : List ConversationMessage
  answeredQuestions : List AnsweredQuestion
  unique_tags : ∀ p ∈ policyRequirements, (p.requiredTags.map Prod.fst).Nodup

namespace AgentSession

def userMessages (s : AgentSession) : List String :=
  (s.messages.filter fun m => m.role == .user).map ConversationMessage.content

def userText (s : AgentSession) : String := "\n".intercalate s.userMessages

end AgentSession

variable [PyUnicode]

-- A manifest of a draft: a copy of one that was validated, whose region may have been replaced unchecked.
structure DraftedManifest where
  manifest : ResourceManifest
  region : String

structure ManifestDraft where
  message : Such (lengthIn 1 10000)
  drafted : DraftedManifest

def ManifestDraftData.draft (data : ManifestDraftData) : ManifestDraft :=
  ⟨data.message, data.manifest, data.manifest.val.region.val⟩

def workspaceDefaultRegion (session : AgentSession) : Option String :=
  match session.executionContext with
  | none => none
  | some context =>
    match context.cloudContext.defaultRegion with
    | none => none
    | some region =>
      if session.answeredQuestions.any fun a => a.fieldMapping == "region" then none
      else if contains awsRegionPattern session.userText then none
      else some region

def applyWorkspaceRegionDefault (result : ManifestDraft) (session : AgentSession) : ManifestDraft :=
  match workspaceDefaultRegion session with
  | none => result
  | some region => { result with drafted := { result.drafted with region := region } }

section Pattern

omit [PyUnicode]

theorem awsRegionPattern_eq {cs found : List Char} (run : awsRegionPattern cs = some found) :
    ∃ a b area d rest, found = a :: b :: '-' :: area ++ ['-', d] ∧ cs = found ++ rest ∧
      regionCodes.contains [a, b] = true ∧ area ≠ [] ∧ area.all JsText.isLower = true ∧ d.isDigit = true := by
  unfold awsRegionPattern at run
  split at run
  · rename_i a b cs
    split at run
    · rename_i d rest after
      split at run
      · rename_i holds
        obtain rfl := Option.some.inj run
        simp only [Bool.and_eq_true, Bool.not_eq_true', List.isEmpty_eq_false_iff] at holds
        refine ⟨a, b, _, d, rest, rfl, ?_, holds.1.1, holds.1.2, List.all_takeWhile, holds.2⟩
        have split := List.takeWhile_append_dropWhile (p := JsText.isLower) (l := cs)
        rw [after] at split
        rw [List.append_assoc]
        exact congrArg (fun cs => a :: b :: '-' :: cs) split.symm
      · cases run
    · cases run
  · cases run

theorem awsRegionPattern_self {a b d : Char} {area : List Char} (code : regionCodes.contains [a, b] = true)
    (nonempty : area ≠ []) (lower : area.all JsText.isLower = true) (digit : d.isDigit = true) (rest : List Char) :
    awsRegionPattern (a :: b :: '-' :: area ++ ['-', d] ++ rest) = some (a :: b :: '-' :: area ++ ['-', d]) := by
  have taken : (area ++ '-' :: d :: rest).takeWhile JsText.isLower = area := by
    rw [List.takeWhile_append_of_pos (List.all_eq_true.mp lower)]
    have stop : JsText.isLower '-' = false := by decide
    simp [stop]
  have dropped : (area ++ '-' :: d :: rest).dropWhile JsText.isLower = '-' :: d :: rest := by
    rw [List.dropWhile_append_of_pos (List.all_eq_true.mp lower)]
    have stop : JsText.isLower '-' = false := by decide
    simp [stop]
  have listed := List.contains_iff_mem.mp code
  simp [awsRegionPattern, taken, dropped, listed, nonempty, digit]

theorem awsRegionPattern_local : Local awsRegionPattern where
  nonempty run := by
    obtain ⟨a, b, area, d, rest, rfl, -⟩ := awsRegionPattern_eq run
    nofun
  start run := by
    obtain ⟨a, b, area, d, rest, -, rfl, -⟩ := awsRegionPattern_eq run
    exact ⟨rest, rfl⟩
  alone rest run := by
    obtain ⟨a, b, area, d, -, rfl, -, code, nonempty, lower, digit⟩ := awsRegionPattern_eq run
    exact awsRegionPattern_self code nonempty lower digit rest

theorem awsRegionPattern_single {cs found : List Char} (run : awsRegionPattern cs = some found) : '\n' ∉ found := by
  obtain ⟨a, b, area, d, -, rfl, -, code, -, lower, digit⟩ := awsRegionPattern_eq run
  have codes : ∀ code ∈ regionCodes, '\n' ∉ code := by decide
  have outside : '\n' ∉ [a, b] := codes _ (List.contains_iff_mem.mp code)
  have areas : '\n' ∉ area := fun mem => absurd (List.all_eq_true.mp lower _ mem) (by decide)
  have number : '\n' ≠ d := by
    rintro rfl
    exact absurd digit (by decide)
  simp only [List.cons_append, List.mem_cons, List.mem_append, List.not_mem_nil, or_false] at outside ⊢
  rintro (same | same | same | mem | same | same)
  · exact outside (.inl same)
  · exact outside (.inr same)
  · exact absurd same (by decide)
  · exact areas mem
  · exact absurd same (by decide)
  · exact number same

end Pattern

section Named

variable {s : AgentSession} {d : ManifestDraft}

def verifiedRegions (context : ExecutionContext) : List String :=
  context.cloudContext.regions ++ context.cloudContext.activeAccounts.flatMap CloudAccountContext.supportedRegions

-- The text has the region as a whole word, whatever its case.
def names (text region : String) : Bool := contains (literal (PyUnicode.lower region)) (PyUnicode.lower text)

def NamesVerified (s : AgentSession) : Prop :=
  ∃ context ∈ s.executionContext, ∃ region ∈ verifiedRegions context, ∃ text ∈ s.userMessages, names text region = true

-- Some message has a lower-case region of the AWS form as a whole word.
def saysAwsRegion (s : AgentSession) : Bool := s.userMessages.any (contains awsRegionPattern)

theorem userText_aws (s : AgentSession) : contains awsRegionPattern s.userText = saysAwsRegion s := by
  rw [Bool.eq_iff_iff, saysAwsRegion, List.any_eq_true]
  exact contains_lines awsRegionPattern_local awsRegionPattern_single s.userMessages

omit [PyUnicode] in
def answersRegion (s : AgentSession) : Bool := s.answeredQuestions.any fun a => a.fieldMapping == "region"

def defaultRegion (s : AgentSession) : Option String :=
  s.executionContext.bind fun context => context.cloudContext.defaultRegion

theorem workspaceDefaultRegion_eq (s : AgentSession) :
    workspaceDefaultRegion s = if answersRegion s || saysAwsRegion s then none else defaultRegion s := by
  unfold workspaceDefaultRegion defaultRegion
  rw [userText_aws, ← answersRegion]
  cases s.executionContext with
  | none => simp
  | some context =>
    simp only [Option.bind_some]
    cases context.cloudContext.defaultRegion with
    | none => simp
    | some region => cases answersRegion s <;> cases saysAwsRegion s <;> rfl

def RegionKept (s : AgentSession) (d : ManifestDraft) : Prop :=
  (applyWorkspaceRegionDefault d s).drafted.region = d.drafted.region

theorem regionKept_iff : RegionKept s d ↔
    defaultRegion s = none ∨ defaultRegion s = some d.drafted.region ∨ answersRegion s = true ∨
      saysAwsRegion s = true := by
  unfold RegionKept applyWorkspaceRegionDefault
  rw [workspaceDefaultRegion_eq]
  cases answersRegion s with
  | true => simp
  | false =>
    cases saysAwsRegion s with
    | true => simp
    | false => cases defaultRegion s <;> simp

theorem aws_of_named {region text : String} (mem : text ∈ s.userMessages)
    (form : awsRegionPattern region.toList = some region.toList) (named : contains (literal region) text = true) :
    saysAwsRegion s = true :=
  List.any_eq_true.mpr ⟨text, mem, contains_of_literal awsRegionPattern_local form named⟩

-- A region of the AWS form that is named in lower case is kept; any other one only if nothing replaces it.
theorem named_region_kept_iff (s : AgentSession) (d : ManifestDraft) :
    ((NamesVerified s → RegionKept s d) ↔
      (NamesVerified s → defaultRegion s = none ∨ defaultRegion s = some d.drafted.region ∨ answersRegion s = true ∨
        saysAwsRegion s = true)) ∧
    ∀ region, awsRegionPattern region.toList = some region.toList →
      (∃ text ∈ s.userMessages, contains (literal region) text = true) → RegionKept s d := by
  constructor
  · rw [regionKept_iff]
  · rintro region form ⟨text, mem, named⟩
    exact regionKept_iff.mpr (.inr (.inr (.inr (aws_of_named mem form named))))

end Named

section Example

def twoRegions : CloudContext where
  connectedProviders := [.aws]
  providers := []
  regions := ["us-east-1", "us-west-2"]
  existingResources := []
  defaultRegion := some "us-west-2"
  activeAccounts := []
  connected := by decide
  same_providers := manyRegions.same_providers
  same_accounts := manyRegions.same_accounts
  regions_some := by decide
  default_verified _ r mem := by
    obtain rfl := Option.some.inj mem
    decide

def openPolicy : PolicyRequirements := ⟨true, [], none, [], [], false, false⟩

def shoutingSession : AgentSession where
  organizationId := ⟨"3d4a5b66-0c1d-4c6e-9a51-5e1f0f6f7a10", by decide⟩
  requestId := ⟨"8b8c64dc-6607-4a45-aa71-f51b2d381cdf", by decide⟩
  status := .active
  profile := ⟨"provisioning", "6f0c3b52-5a0e-4f6d-9a38-0c1f7a3f9b11", "1.0.0", "sha256", .finite 0, 4096⟩
  policyRequirements := some openPolicy
  executionContext := some ⟨"3d4a5b66-0c1d-4c6e-9a51-5e1f0f6f7a10", openPolicy, twoRegions, nofun⟩
  messages := [⟨.user, "A staging bucket in US-EAST-1 please"⟩]
  answeredQuestions := []
  unique_tags p mem := by
    obtain rfl := Option.some.inj mem
    decide

def bucketFields : ManifestFields where
  provider := .aws
  region := ⟨"us-east-1", by decide⟩
  environment := .staging
  monthlyBudgetUsd := none
  tags := ⟨[], placeholderFree_nil⟩
  encryptionEnabled := true
  backupEnabled := true
  appliedConstraints := []
  resources := ⟨[.s3 ⟨⟨"site-assets", by decide⟩, true⟩], rfl⟩

omit [PyUnicode] in
theorem bucketText_fits : lengthIn 1 10000 "A bucket for the site." = true := by decide

def bucketDraft (integral : bucketFields.resourceIntegrity = true) : ManifestDraft :=
  ⟨⟨"A bucket for the site.", bucketText_fits⟩, ⟨bucketFields, integral⟩, "us-east-1"⟩

omit [PyUnicode] in
theorem shouted_region_overwritten :
    ¬ ∀ [PyUnicode] (s : AgentSession) (d : ManifestDraft), NamesVerified s → RegionKept s d := by
  intro claim
  let _ : PyUnicode := asciiPython
  have kept := claim shoutingSession (bucketDraft (by decide))
    ⟨_, rfl, "us-east-1", by decide, _, List.mem_cons_self, by decide⟩
  rcases regionKept_iff.mp kept with none | same | answered | spoken
  · cases none
  · exact absurd (Option.some.inj same) (by decide)
  · cases answered
  · exact absurd spoken (by decide)

end Example

end Provisr.Agent
