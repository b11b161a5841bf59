import Provisr.Backend.ApprovalOrder
import Provisr.Backend.DependencyCycles

namespace Provisr.Backend.Validator

open Provisr.Foundation Provisr.Foundation.DepthFirst

structure CostEstimate where
  estimatedMonthlyUSD : Float64
  confidencePct : Int
  deriving DecidableEq

structure Manifest where
  schemaVersion : String
  provider : String
  region : String
  resources : List Resource
  costEstimate : Option CostEstimate := none
  deriving DecidableEq

structure ValidationError where
  field : String
  code : String
  message : String
  deriving DecidableEq

structure ValidationResult where
  valid : Bool
  errors : List ValidationError
  deriving DecidableEq

def isNameChar (c : Char) : Bool := c.isLower || c.isDigit || c == '_' || c == '-'

def isName (s : String) : Bool := !s.toList.isEmpty && s.toList.all isNameChar

def logicalNameRegex (s : String) : Bool := isName s && decide (s.toList.length ≤ 64)

def regionRegex (s : String) : Bool := isName s

def typePartRegex (s : String) : Bool := isName s

def schemaVerRegex (s : String) : Bool :=
  match s.toList with
  | '1' :: '.' :: rest =>
    !(rest.takeWhile Char.isDigit).isEmpty &&
      match rest.dropWhile Char.isDigit with
      | [] => true
      | '.' :: patch => !patch.isEmpty && patch.all Char.isDigit
      | _ => false
  | _ => false

def validProviders : List String := ["aws", "azure", "gcp"]

def validDomains : List String :=
  ["compute", "storage", "database", "network", "security", "monitoring", "analytics", "messaging", "container"]

def ValidSourceTypes : List String :=
  ["user_prompt", "policy_default", "cloud_state", "ai_assumption", "image_detection", "admin_default"]

-- %f
def formatFloat : Float64 → String
  | .nan => "NaN"
  | .inf true => "-Inf"
  | .inf false => "+Inf"
  | .finite n =>
    let micros := Float64.roundHalfEven (10 ^ 6 * Float64.magnitude n) Float64.scale
    let digits := Nat.toDigits 10 (micros % 10 ^ 6)
    (if n.negative then "-" else "") ++ toString (micros / 10 ^ 6) ++ "." ++
      String.ofList (List.replicate (6 - digits.length) '0' ++ digits)

def belowZero : Float64 → Bool
  | .inf negative => negative
  | .finite n => n.negative
  | .nan => false

def aboveOne : Float64 → Bool
  | .inf negative => !negative
  | .finite n => !n.negative && decide (Float64.scale < Float64.magnitude n)
  | .nan => false

section Validate

variable [GoUnicode]

def schemaErrors (m : Manifest) : List ValidationError :=
  if TrimSpace m.schemaVersion = "" then
    [⟨"schema_version", "missing_schema_version", "schema_version is required"⟩]
  else if schemaVerRegex m.schemaVersion then []
  else [⟨"schema_version", "unsupported_schema_version",
    "unsupported schema version " ++ Quote m.schemaVersion ++ "; only 1.x versions are supported"⟩]

def provider (m : Manifest) : String := ToLower (TrimSpace m.provider)

def providerErrors (m : Manifest) : List ValidationError :=
  if provider m = "" then [⟨"provider", "missing_provider", "provider is required"⟩]
  else if provider m ∈ validProviders then []
  else [⟨"provider", "invalid_provider",
    "unsupported provider " ++ Quote m.provider ++ "; must be one of: aws, azure, gcp"⟩]

def regionErrors (m : Manifest) : List ValidationError :=
  if TrimSpace m.region = "" then [⟨"region", "missing_region", "region is required"⟩]
  else if regionRegex (TrimSpace m.region) then []
  else [⟨"region", "invalid_region", "region " ++ Quote m.region ++ " contains invalid characters"⟩]

def at_ (i : Nat) : String := "resources[" ++ toString i ++ "]"

def register (i : Nat) (r : Resource) (resourceMap : List String) : List ValidationError × List String :=
  let name := TrimSpace r.logicalName
  let field := at_ i ++ ".logical_name"
  if name = "" then ([⟨field, "missing_logical_name", "resource logical_name is required"⟩], resourceMap)
  else if !logicalNameRegex name then
    ([⟨field, "invalid_logical_name",
      "logical_name " ++ Quote r.logicalName ++ " must match pattern '^[a-z0-9_-]\x7b1,64\x7d$'"⟩], resourceMap)
  else if name ∈ resourceMap then
    ([⟨field, "duplicate_logical_name", "duplicate resource logical_name " ++ Quote name⟩], resourceMap)
  else ([], resourceMap ++ [name])

def typeErrors (provider : String) (i : Nat) (r : Resource) : List ValidationError :=
  let resType := TrimSpace r.type
  let field := at_ i ++ ".type"
  if resType = "" then [⟨field, "missing_type", "resource type is required"⟩]
  else match (resType.toList.splitOn '.').map String.ofList with
    | [domain, resProvider, kind] =>
      (if domain ∈ validDomains then []
        else [⟨field, "invalid_domain", "resource domain " ++ Quote domain ++ " is not recognized"⟩]) ++
      (if provider ≠ "" ∧ resProvider ≠ provider then
        [⟨field, "provider_mismatch", "resource provider " ++ Quote resProvider ++
          " in type does not match manifest provider " ++ Quote provider⟩] else []) ++
      (if typePartRegex kind then []
        else [⟨field, "invalid_kind", "resource kind " ++ Quote kind ++ " contains invalid characters"⟩])
    | _ => [⟨field, "invalid_type_format", "resource type " ++ Quote resType ++
        " must follow '\x7bdomain\x7d.\x7bprovider\x7d.\x7bkind\x7d' naming convention"⟩]

def sourceErrors (i : Nat) (r : Resource) : List ValidationError :=
  match r.source with
  | none => []
  | some s =>
    (if s.source ∈ ValidSourceTypes then []
      else [⟨at_ i ++ ".source.source", "invalid_source_type", "unknown source type " ++ Quote s.source⟩]) ++
    (if belowZero s.confidence || aboveOne s.confidence then
      [⟨at_ i ++ ".source.confidence", "invalid_confidence",
        "confidence " ++ formatFloat s.confidence ++ " must be between 0.0 and 1.0"⟩] else [])

def resourceErrors (provider : String) : Nat → List Resource → List String → List ValidationError × List String
  | _, [], resourceMap => ([], resourceMap)
  | i, r :: rs, resourceMap =>
    let (named, resourceMap) := register i r resourceMap
    let (errors, resourceMap) := resourceErrors provider (i + 1) rs resourceMap
    (named ++ typeErrors provider i r ++ sourceErrors i r ++ errors, resourceMap)

def dependencyErrors (resourceMap : List String) (i : Nat) (r : Resource) : List ValidationError :=
  r.dependsOn.flatMap fun dep =>
    let field := at_ i ++ ".depends_on"
    if dep = r.logicalName then
      [⟨field, "self_dependency", "resource " ++ Quote r.logicalName ++ " cannot depend on itself"⟩]
    else if dep ∈ resourceMap then []
    else [⟨field, "dangling_dependency",
      "resource " ++ Quote r.logicalName ++ " depends on non-existent resource " ++ Quote dep⟩]

def cycleErrors [GoRuntime] (resources : List Resource) : List ValidationError :=
  match detectCycles resources with
  | none => []
  | some cycle =>
    if 0 < cycle.length then
      [⟨"resources.depends_on", "circular_dependency", "circular dependency detected: " ++ " -> ".intercalate cycle⟩]
    else []

def costErrors (m : Manifest) : List ValidationError :=
  match m.costEstimate with
  | none => []
  | some cost =>
    (if belowZero cost.estimatedMonthlyUSD then
      [⟨"cost_estimate.estimated_monthly_usd", "invalid_cost", "estimated_monthly_usd must not be negative"⟩]
      else []) ++
    (if cost.confidencePct < 0 ∨ 100 < cost.confidencePct then
      [⟨"cost_estimate.confidence_pct", "invalid_confidence_pct", "confidence_pct must be between 0 and 100"⟩]
      else [])

def errors [GoRuntime] (m : Manifest) : List ValidationError :=
  let head := schemaErrors m ++ providerErrors m ++ regionErrors m
  if m.resources.length = 0 then
    head ++ [⟨"resources", "empty_resources", "manifest must contain at least one resource"⟩]
  else
    let (resources, resourceMap) := resourceErrors (provider m) 0 m.resources []
    head ++ resources ++ (m.resources.zipIdx.flatMap fun (r, i) => dependencyErrors resourceMap i r) ++
      cycleErrors m.resources ++ costErrors m

def Validate [GoRuntime] : Option Manifest → ValidationResult
  | none => ⟨false, [⟨"manifest", "nil_manifest", "manifest must not be nil"⟩]⟩
  | some m => ⟨(errors m).isEmpty, errors m⟩

end Validate

section Sound

def Registered (m : Manifest) (x y : String) : Prop :=
  ∃ r ∈ m.resources, TrimSpace r.logicalName = x ∧ y ∈ r.dependsOn

structure Sound (m : Manifest) : Prop where
  distinct : (m.resources.map fun r => TrimSpace r.logicalName).Nodup
  resolved : ∀ r ∈ m.resources, ∀ dep ∈ r.dependsOn, dep ∈ m.resources.map fun r => TrimSpace r.logicalName
  acyclic : Acyclic (Registered m)

-- No resource whose name has space around it depends on its registered name, be it through others.
def SpacedApart (m : Manifest) : Prop :=
  ∀ r ∈ m.resources, TrimSpace r.logicalName ≠ r.logicalName →
    ¬ Relation.TransGen (Registered m) (TrimSpace r.logicalName) (TrimSpace r.logicalName)

variable [GoUnicode] {m : Manifest}

theorem register_ok {i : Nat} {r : Resource} {resourceMap : List String} (none_ : (register i r resourceMap).1 = []) :
    (register i r resourceMap).2 = resourceMap ++ [TrimSpace r.logicalName] ∧ TrimSpace r.logicalName ∉ resourceMap := by
  unfold register at none_ ⊢
  dsimp only at none_ ⊢
  split at none_
  · cases none_
  · split at none_
    · cases none_
    · split at none_
      · cases none_
      · rename_i filled valid new
        rw [if_neg filled, if_neg valid, if_neg new]
        exact ⟨rfl, new⟩

theorem resourceErrors_ok {provider : String} {i : Nat} {rs : List Resource} {resourceMap : List String}
    (none_ : (resourceErrors provider i rs resourceMap).1 = []) (distinct : resourceMap.Nodup) :
    (resourceErrors provider i rs resourceMap).2 = resourceMap ++ rs.map (fun r => TrimSpace r.logicalName) ∧
      (resourceMap ++ rs.map fun r => TrimSpace r.logicalName).Nodup := by
  induction rs generalizing i resourceMap with
  | nil =>
    rw [List.map_nil, List.append_nil]
    exact ⟨rfl, distinct⟩
  | cons r rs ih =>
    simp only [resourceErrors, List.append_eq_nil_iff] at none_
    obtain ⟨⟨⟨named, -⟩, -⟩, rest⟩ := none_
    obtain ⟨registered, new⟩ := register_ok named
    rw [registered] at rest
    have distinct : (resourceMap ++ [TrimSpace r.logicalName]).Nodup := by
      rw [List.nodup_append]
      refine ⟨distinct, List.nodup_singleton _, fun x mem y single same => ?_⟩
      rw [List.mem_singleton.mp single] at same
      exact new (same ▸ mem)
    obtain ⟨all, nodup⟩ := ih rest distinct
    simp only [resourceErrors, registered]
    rw [List.append_assoc] at all nodup
    exact ⟨all, nodup⟩

variable [GoRuntime]

structure Passed (m : Manifest) : Prop where
  distinct : (m.resources.map fun r => TrimSpace r.logicalName).Nodup
  resolved : ∀ r ∈ m.resources, ∀ dep ∈ r.dependsOn, dep ∈ m.resources.map fun r => TrimSpace r.logicalName
  acyclic : Acyclic (DependsOn m.resources)

theorem errors_ok (none_ : errors m = []) : Passed m := by
  unfold errors at none_
  dsimp only at none_
  split at none_
  · simp at none_
  · simp only [List.append_eq_nil_iff] at none_
    obtain ⟨⟨⟨⟨-, resources⟩, dependencies⟩, cycles⟩, -⟩ := none_
    obtain ⟨registered, distinct⟩ := resourceErrors_ok resources List.nodup_nil
    refine ⟨distinct, fun r mem dep listed => ?_, ?_⟩
    · obtain ⟨i, here⟩ := List.mem_iff_getElem?.mp mem
      have own := List.flatMap_eq_nil_iff.mp dependencies (r, i) (List.mem_zipIdx_iff_getElem?.mpr here)
      have one := List.flatMap_eq_nil_iff.mp own dep listed
      split at one
      · cases one
      · split at one
        · rename_i known
          rw [registered] at known
          exact known
        · cases one
    · obtain ⟨-, acyclic, walks⟩ := cycle_detection m.resources
      refine acyclic.mp ?_
      unfold cycleErrors at cycles
      cases found : detectCycles m.resources with
      | none => rfl
      | some cycle =>
        rw [found] at cycles
        have long : 0 < cycle.length := Nat.lt_of_lt_of_le Nat.two_pos (walks cycle found).two
        dsimp only at cycles
        rw [if_pos long] at cycles
        cases cycles

omit [GoUnicode] [GoRuntime] in
theorem cycle_dependsOn (distinct : (m.resources.map fun r => TrimSpace r.logicalName).Nodup) (apart : SpacedApart m)
    {x : String} (cycle : Relation.TransGen (Registered m) x x) : Relation.TransGen (DependsOn m.resources) x x := by
  have edge : ∀ {a b}, Relation.TransGen (Registered m) a a → Registered m a b → DependsOn m.resources a b := by
    rintro a b back ⟨r, mem, rfl, listed⟩
    have same : TrimSpace r.logicalName = r.logicalName := Decidable.by_contra fun spaced => apart r mem spaced back
    rw [← Function.comp_def, ← List.map_map] at distinct
    rw [same, dependsOn_eq, Edge, adjacency_of_nodup (List.Nodup.of_map _ distinct) mem]
    exact listed
  suffices onward : ∀ a, Relation.TransGen (Registered m) a x → Relation.ReflTransGen (Registered m) x a →
      Relation.TransGen (DependsOn m.resources) a x from onward x cycle .refl
  intro a ways back
  induction ways using Relation.TransGen.head_induction_on with
  | single first => exact .single (edge (.head' first back) first)
  | head first rest ih =>
    have back' := back.tail first
    exact .head (edge (.head' first (rest.to_reflTransGen.trans back)) first) (ih back')

theorem valid_sound_iff {m : Option Manifest} (valid : (Validate m).valid = true) :
    ∃ content, m = some content ∧ (Sound content ↔ SpacedApart content) := by
  cases m with
  | none => cases valid
  | some m =>
    obtain ⟨distinct, resolved, acyclic⟩ := errors_ok (List.isEmpty_iff.mp valid)
    refine ⟨m, rfl, fun sound r _ _ => sound.acyclic _, fun apart => ⟨distinct, resolved, fun x cycle => ?_⟩⟩
    exact acyclic x (cycle_dependsOn distinct apart cycle)

end Sound

section Example

def spaced : Manifest := ⟨"1.0", "aws", "us-east-1", [⟨" a", "compute.aws.vm", ["a"], none⟩], none⟩

def chained : Manifest :=
  ⟨"1.0", "aws", "us-east-1", [⟨"a", "compute.aws.vm", ["b"], none⟩, ⟨" b", "storage.aws.bucket", [], none⟩], none⟩

abbrev doubling : GoRuntime := ⟨fun cap => 2 * cap⟩

theorem chained_valid : letI : GoUnicode := Approval.asciiTables
    letI : GoRuntime := doubling
    (Validate (some chained)).valid = true := by
  decide

theorem valid_sound_iff_chained : letI : GoUnicode := Approval.asciiTables
    letI : GoRuntime := doubling
    (Validate (some chained)).valid = true ∧
      ∃ content, some chained = some content ∧ (Sound content ↔ SpacedApart content) :=
  let _ : GoUnicode := Approval.asciiTables
  let _ : GoRuntime := doubling
  ⟨chained_valid, valid_sound_iff chained_valid⟩

theorem valid_not_sound : ¬ ∀ [GoUnicode] [GoRuntime] (m : Option Manifest), (Validate m).valid = true →
    ∃ content, m = some content ∧ Sound content := by
  intro claim
  let _ : GoUnicode := Approval.asciiTables
  let _ : GoRuntime := doubling
  obtain ⟨content, same, sound⟩ := claim (some spaced) (by decide)
  obtain rfl := Option.some.inj same
  have listed : TrimSpace " a" ∈ ["a"] := by decide
  refine sound.acyclic (TrimSpace " a") (.single ⟨⟨" a", "compute.aws.vm", ["a"], none⟩, List.mem_cons_self, rfl, listed⟩)

end Example

end Provisr.Backend.Validator
