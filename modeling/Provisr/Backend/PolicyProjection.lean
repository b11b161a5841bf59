import Provisr.Backend.ManifestStore
import Provisr.Orchestrator.PlanningClients
import Mathlib.Algebra.Group.Int.Defs

namespace Provisr.Backend.Policy

open Provisr.Foundation
open Provisr.Orchestrator (distinct)

-- A row of the enabled rules. A number of a decoded parameter is a float64.
structure PolicyRule where
  ruleKey : String
  params : JsFields

-- strings.TrimSpace(s) == ""
def isBlank (s : String) : Bool := s.toList.all isSpace

def isNonBlank : JsJson → Bool
  | .str s => !isBlank s
  | _ => false

def mantissa (n : JsNumber) : Int := (if n.negative then -1 else 1) * Nat.ofDigitChars 10 n.digits 0

def exponent (n : JsNumber) : Int := n.point - n.digits.length

-- a < b
def less (a b : JsNumber) : Bool :=
  let common := min (exponent a) (exponent b)
  decide (mantissa a * 10 ^ (exponent a - common).toNat < mantissa b * 10 ^ (exponent b - common).toNat)

def validateRuleParameters (ruleKey : String) (params : JsFields) : Except String Unit :=
  if ruleKey = "allowed_regions" then
    match params.lookup "regions" with
    | none => .error "regions field is required for allowed_regions rule"
    | some (.arr regions) =>
      if regions = [] then .error "regions array must not be empty"
      else if regions.all isNonBlank then .ok ()
      else .error "each region must be a non-empty string"
    | some _ => .error "regions must be an array of strings"
  else if ruleKey = "budget_max" then
    match params.lookup "max_usd" with
    | none => .error "max_usd field is required for budget_max rule"
    | some (.num maxUSD) => if less maxUSD 0 then .error "max_usd must not be negative" else .ok ()
    | some _ => .error "max_usd must be a numeric value"
  else if ruleKey = "required_tags" then
    match params.lookup "tags" with
    | none => .error "tags field is required for required_tags rule"
    | some (.arr tags) => if tags.all isNonBlank then .ok () else .error "each tag must be a non-empty string"
    | some _ => .error "tags must be an array of strings"
  else .ok ()

structure PolicyConflict where
  deriving DecidableEq

structure Projection where
  allowedRegions : Option (List String) := none
  maxMonthlyBudgetUSD : Option JsNumber := none
  requiredTags : List String := []
  prohibitedResourceTypes : List String := []
  requiredEncryption : Bool := false
  hasComplexRules : Bool := false

def textOf : JsJson → Option String
  | .str s => if s = "" then none else some s
  | _ => none

-- `append`, unless the slice contains the value.
def addNew (slice : List String) (val : String) : List String :=
  if slice.contains val then slice else slice ++ [val]

def publicBlock : String := "aws_s3_bucket_public_access_block:public"

def Projection.allowRegions (p : Projection) (current : List String) : Except PolicyConflict Projection :=
  match p.allowedRegions with
  | none => .ok { p with allowedRegions := some current }
  | some allowed =>
    let intersected := allowed.filter current.contains
    if intersected = [] then .error ⟨⟩ else .ok { p with allowedRegions := some intersected }

def Projection.limitBudget (p : Projection) (maxUSD : JsNumber) : Projection :=
  match p.maxMonthlyBudgetUSD with
  | none => { p with maxMonthlyBudgetUSD := some maxUSD }
  | some least => if less maxUSD least then { p with maxMonthlyBudgetUSD := some maxUSD } else p

def Projection.project (p : Projection) (rule : PolicyRule) : Except PolicyConflict Projection :=
  if rule.ruleKey = "allowed_regions" then
    match rule.params.lookup "regions" with
    | some (.arr regions) => p.allowRegions (regions.filterMap textOf)
    | _ => .ok p
  else if rule.ruleKey = "budget_max" then
    match rule.params.lookup "max_usd" with
    | some (.num maxUSD) => .ok (p.limitBudget maxUSD)
    | _ => .ok p
  else if rule.ruleKey = "required_tags" then
    match rule.params.lookup "tags" with
    | some (.arr tags) => .ok { p with requiredTags := (tags.filterMap textOf).foldl addNew p.requiredTags }
    | _ => .ok p
  else if rule.ruleKey = "require_encryption" then .ok { p with requiredEncryption := true }
  else if rule.ruleKey = "no_public_s3" then
    .ok { p with prohibitedResourceTypes := addNew p.prohibitedResourceTypes publicBlock }
  else .ok { p with hasComplexRules := true }

structure PolicyRequirements where
  allowedRegions : Option (List String)
  maxMonthlyBudgetUSD : Option JsNumber
  requiredTags : List String
  prohibitedResourceTypes : List String
  requiredEncryption : Bool
  warnings : List String
  deriving DecidableEq

def complexWarning : String :=
  "Additional complex policies will be evaluated during the formal policy check phase. Proceed with caution for IAM and custom configurations."

def Projection.requirements (p : Projection) : PolicyRequirements where
  allowedRegions := p.allowedRegions.map fun regions => (distinct regions).insertionSort (· ≤ ·)
  maxMonthlyBudgetUSD := p.maxMonthlyBudgetUSD
  requiredTags := p.requiredTags
  prohibitedResourceTypes := p.prohibitedResourceTypes
  requiredEncryption := p.requiredEncryption
  warnings := if p.hasComplexRules then [complexWarning] else []

def ProjectPolicyRequirements (rules : List PolicyRule) : Except PolicyConflict PolicyRequirements :=
  (rules.foldlM Projection.project {}).map Projection.requirements

-- json.Marshal with omitempty
def texts (key : String) (values : List String) : JsFields :=
  if values = [] then [] else [(key, .arr (values.map .str))]

def PolicyRequirements.fields (reqs : PolicyRequirements) : JsFields :=
  (match reqs.allowedRegions with
    | some regions => [("allowed_regions", .arr (regions.map .str))]
    | none => []) ++
  (match reqs.maxMonthlyBudgetUSD with
    | some maxUSD => [("max_monthly_budget_usd", .num maxUSD)]
    | none => []) ++
  texts "required_tags" reqs.requiredTags ++ texts "prohibited_resource_types" reqs.prohibitedResourceTypes ++
  (if reqs.requiredEncryption then [("required_encryption", .bool true)] else []) ++ texts "warnings" reqs.warnings

section Numbers

theorem ofDigitChars_le (cs : List Char) (init : Nat) : init ≤ Nat.ofDigitChars 10 cs init := by
  induction cs generalizing init with
  | nil => exact le_rfl
  | cons c cs ih =>
    rw [Nat.ofDigitChars_cons]
    have := ih (10 * init + (c.toNat - '0'.toNat))
    omega

theorem digits_positive {n : JsNumber} (h : n.digits ≠ []) : 0 < Nat.ofDigitChars 10 n.digits 0 := by
  obtain ⟨c, cs, hcs⟩ := List.exists_cons_of_ne_nil h
  have decimal := n.decimal
  have leading := n.leading
  rw [hcs] at decimal leading
  have digit : c.isDigit = true := by
    rw [List.all_cons, Bool.and_eq_true] at decimal
    exact decimal.1
  have nonzero : c ≠ '0' := by
    rintro rfl
    rw [List.dropWhile_cons_of_pos rfl] at leading
    have := congrArg List.length leading
    have := (List.dropWhile_sublist isZero (l := cs)).length_le
    simp only [List.length_cons] at *
    omega
  rw [hcs, Nat.ofDigitChars_cons]
  refine Nat.lt_of_lt_of_le ?_ (ofDigitChars_le _ _)
  have bounds := Char.isDigit_iff_toNat.mp digit
  have : c.toNat ≠ '0'.toNat := fun e => nonzero (Char.toNat_inj.mp e)
  have zero : '0'.toNat = 48 := rfl
  omega

theorem zero_digits {n : JsNumber} : n.digits = [] ↔ n = 0 := by
  constructor
  · intro h
    exact JsNumber.ext (n.zero h).1 h (n.zero h).2
  · rintro rfl
    rfl

theorem mantissa_zero : mantissa 0 = 0 := rfl

theorem mantissa_positive {n : JsNumber} (sign : n.negative = false) (nonzero : n ≠ 0) : 0 < mantissa n := by
  have positive := digits_positive (mt zero_digits.mp nonzero)
  rw [mantissa, sign]
  simpa using positive

theorem mantissa_negative {n : JsNumber} (sign : n.negative = true) : mantissa n < 0 := by
  have digits : n.digits ≠ [] := fun h => by
    rw [(n.zero h).1] at sign
    cases sign
  have positive := digits_positive digits
  rw [mantissa, sign]
  simpa using positive

theorem scale_positive (e : Nat) : (0 : Int) < 10 ^ e := Int.pow_pos (by decide)

@[simp] theorem less_zero (n : JsNumber) : less n 0 = n.negative := by
  unfold less
  dsimp only
  rw [mantissa_zero, Int.zero_mul]
  cases sign : n.negative with
  | true =>
    rw [decide_eq_true_iff]
    exact Int.mul_neg_of_neg_of_pos (mantissa_negative sign) (scale_positive _)
  | false =>
    rw [decide_eq_false_iff_not, not_lt]
    refine Int.mul_nonneg ?_ (scale_positive _).le
    by_cases zero : n = 0
    · rw [zero, mantissa_zero]
    · exact (mantissa_positive sign zero).le

theorem zero_less {n : JsNumber} (sign : n.negative = false) (nonzero : n ≠ 0) : less 0 n = true := by
  unfold less
  dsimp only
  rw [mantissa_zero, Int.zero_mul, decide_eq_true_iff]
  exact Int.mul_pos (mantissa_positive sign nonzero) (scale_positive _)

end Numbers

section Gathered

def regionsOf (rule : PolicyRule) : List String :=
  match rule.params.lookup "regions" with
  | some (.arr regions) => regions.filterMap textOf
  | _ => []

def tagsOf (rule : PolicyRule) : List String :=
  match rule.params.lookup "tags" with
  | some (.arr tags) => tags.filterMap textOf
  | _ => []

def Valid (rule : PolicyRule) : Prop := validateRuleParameters rule.ruleKey rule.params = .ok ()

theorem mem_foldl_addNew {t : String} (ts acc : List String) : t ∈ ts.foldl addNew acc ↔ t ∈ acc ∨ t ∈ ts := by
  induction ts generalizing acc with
  | nil => simp
  | cons u ts ih =>
    rw [List.foldl_cons, ih, List.mem_cons]
    unfold addNew
    split
    · rename_i present
      have mem := List.contains_iff_mem.mp present
      constructor
      · rintro (h | h)
        · exact Or.inl h
        · exact Or.inr (Or.inr h)
      · rintro (h | rfl | h)
        · exact Or.inl h
        · exact Or.inl mem
        · exact Or.inr h
    · rw [List.mem_append, List.mem_singleton, or_assoc]

theorem nodup_foldl_addNew (ts : List String) {acc : List String} (h : acc.Nodup) : (ts.foldl addNew acc).Nodup := by
  induction ts generalizing acc with
  | nil => exact h
  | cons u ts ih =>
    refine ih ?_
    unfold addNew
    split
    · exact h
    · rename_i absent
      refine List.nodup_append.mpr ⟨h, List.nodup_singleton u, fun a ha b hb e => absent ?_⟩
      rw [List.mem_singleton.mp hb] at e
      exact List.contains_iff_mem.mpr (e ▸ ha)

theorem mem_distinct {t : String} (ts : List String) : t ∈ distinct ts ↔ t ∈ ts := by
  rw [show distinct ts = ts.foldl addNew [] from rfl, mem_foldl_addNew]
  simp

theorem nodup_distinct (ts : List String) : (distinct ts).Nodup := nodup_foldl_addNew ts List.nodup_nil

structure Gathered (rules : List PolicyRule) (p : Projection) : Prop where
  unrestricted : p.allowedRegions = none ↔ ∀ rule ∈ rules, rule.ruleKey ≠ "allowed_regions"
  regions : ∀ allowed, p.allowedRegions = some allowed → allowed ≠ [] ∧ ∀ region, region ∈ allowed ↔
    ∀ rule ∈ rules, rule.ruleKey = "allowed_regions" → region ∈ regionsOf rule
  budget : ∀ least, p.maxMonthlyBudgetUSD = some least → least.negative = false
  free : p.maxMonthlyBudgetUSD = some 0 ↔
    ∃ rule ∈ rules, rule.ruleKey = "budget_max" ∧ rule.params.lookup "max_usd" = some (.num 0)
  tags : ∀ tag, tag ∈ p.requiredTags ↔ ∃ rule ∈ rules, rule.ruleKey = "required_tags" ∧ tag ∈ tagsOf rule
  prohibited : p.prohibitedResourceTypes = [] ∧ (∀ rule ∈ rules, rule.ruleKey ≠ "no_public_s3") ∨
    p.prohibitedResourceTypes = [publicBlock] ∧ ∃ rule ∈ rules, rule.ruleKey = "no_public_s3"

theorem Gathered.nil : Gathered [] {} := by
  constructor <;> simp

theorem textOf_nonBlank {j : JsJson} (h : isNonBlank j = true) : ∃ s, j = .str s ∧ textOf j = some s := by
  cases j with
  | str s =>
    refine ⟨s, rfl, ?_⟩
    have nonempty : s ≠ "" := by
      rintro rfl
      exact absurd h (by decide)
    rw [textOf, if_neg nonempty]
  | null | bool | num | arr | obj => cases h

theorem project_cases {p p' : Projection} {rule : PolicyRule} (valid : Valid rule) (h : p.project rule = .ok p') :
    (rule.ruleKey = "allowed_regions" ∧ regionsOf rule ≠ [] ∧ p.allowRegions (regionsOf rule) = .ok p') ∨
    (rule.ruleKey = "budget_max" ∧ ∃ maxUSD, rule.params.lookup "max_usd" = some (.num maxUSD) ∧
      maxUSD.negative = false ∧ p' = p.limitBudget maxUSD) ∨
    (rule.ruleKey = "required_tags" ∧ p' = { p with requiredTags := (tagsOf rule).foldl addNew p.requiredTags }) ∨
    (rule.ruleKey = "require_encryption" ∧ p' = { p with requiredEncryption := true }) ∨
    (rule.ruleKey = "no_public_s3" ∧
      p' = { p with prohibitedResourceTypes := addNew p.prohibitedResourceTypes publicBlock }) ∨
    (rule.ruleKey ∉ ["allowed_regions", "budget_max", "required_tags", "require_encryption", "no_public_s3"] ∧
      p' = { p with hasComplexRules := true }) := by
  unfold Valid validateRuleParameters at valid
  unfold Projection.project at h
  by_cases regions : rule.ruleKey = "allowed_regions"
  · rw [if_pos regions] at h valid
    left
    split at valid
    · cases valid
    · rename_i items found
      rw [found] at h
      have gathered : regionsOf rule = items.filterMap textOf := by rw [regionsOf, found]
      split at valid
      · cases valid
      · rename_i nonempty
        split at valid
        · rename_i nonblank
          refine ⟨regions, ?_, gathered ▸ h⟩
          obtain ⟨j, js, rfl⟩ := List.exists_cons_of_ne_nil nonempty
          rw [List.all_cons, Bool.and_eq_true] at nonblank
          obtain ⟨s, -, hs⟩ := textOf_nonBlank nonblank.1
          rw [gathered, List.filterMap_cons_some hs]
          exact List.cons_ne_nil _ _
        · cases valid
    · cases valid
  right
  rw [if_neg regions] at h valid
  by_cases budget : rule.ruleKey = "budget_max"
  · rw [if_pos budget] at h valid
    left
    split at valid
    · cases valid
    · rename_i maxUSD found
      rw [found] at h
      rw [less_zero] at valid
      cases sign : maxUSD.negative with
      | true =>
        rw [sign] at valid
        cases valid
      | false =>
        cases h
        exact ⟨budget, maxUSD, found, sign, rfl⟩
    · cases valid
  right
  rw [if_neg budget] at h valid
  by_cases tags : rule.ruleKey = "required_tags"
  · rw [if_pos tags] at h valid
    left
    split at valid
    · cases valid
    · rename_i items found
      rw [found] at h
      cases h
      refine ⟨tags, ?_⟩
      rw [tagsOf, found]
    · cases valid
  right
  rw [if_neg tags] at h
  by_cases encryption : rule.ruleKey = "require_encryption"
  · rw [if_pos encryption] at h
    cases h
    exact Or.inl ⟨encryption, rfl⟩
  right
  rw [if_neg encryption] at h
  by_cases s3 : rule.ruleKey = "no_public_s3"
  · rw [if_pos s3] at h
    cases h
    exact Or.inl ⟨s3, rfl⟩
  right
  rw [if_neg s3] at h
  cases h
  exact ⟨by simp [regions, budget, tags, encryption, s3], rfl⟩

theorem Gathered.allow {rules : List PolicyRule} {rule : PolicyRule} {p p' : Projection} (gathered : Gathered rules p)
    (key : rule.ruleKey = "allowed_regions") (nonempty : regionsOf rule ≠ [])
    (h : p.allowRegions (regionsOf rule) = .ok p') :
    ∃ allowed, p' = { p with allowedRegions := some allowed } ∧ allowed ≠ [] ∧ ∀ region, region ∈ allowed ↔
      ∀ r ∈ rules ++ [rule], r.ruleKey = "allowed_regions" → region ∈ regionsOf r := by
  unfold Projection.allowRegions at h
  split at h
  · rename_i unrestricted
    cases h
    refine ⟨regionsOf rule, rfl, nonempty, fun region => ?_⟩
    have none := gathered.unrestricted.mp unrestricted
    constructor
    · intro mem r hr hkey
      rcases List.mem_append.mp hr with hr | hr
      · exact absurd hkey (none r hr)
      · rw [List.mem_singleton.mp hr]
        exact mem
    · exact fun all => all rule (by simp) key
  · rename_i allowed restricted
    obtain ⟨-, all⟩ := gathered.regions allowed restricted
    dsimp only at h
    split at h
    · cases h
    · rename_i remaining
      cases h
      refine ⟨_, rfl, remaining, fun region => ?_⟩
      rw [List.mem_filter, List.contains_iff_mem, all]
      simp [or_imp, forall_and, key]

theorem Gathered.limit {rules : List PolicyRule} {p : Projection} (gathered : Gathered rules p) {maxUSD : JsNumber}
    (sign : maxUSD.negative = false) :
    ∃ least, p.limitBudget maxUSD = { p with maxMonthlyBudgetUSD := some least } ∧ least.negative = false ∧
      (least = 0 ↔ p.maxMonthlyBudgetUSD = some 0 ∨ maxUSD = 0) := by
  unfold Projection.limitBudget
  split
  · rename_i unlimited
    exact ⟨maxUSD, rfl, sign, by simp [unlimited]⟩
  · rename_i least limited
    have positive := gathered.budget least limited
    split
    · rename_i lower
      refine ⟨maxUSD, rfl, sign, ?_⟩
      rw [limited, Option.some.injEq]
      have nonzero : least ≠ 0 := by
        rintro rfl
        rw [less_zero, sign] at lower
        cases lower
      simp [nonzero]
    · rename_i notLower
      refine ⟨least, by rw [← limited], positive, ?_⟩
      rw [limited, Option.some.injEq]
      constructor
      · exact Or.inl
      · rintro (h | rfl)
        · exact h
        · by_contra nonzero
          exact notLower (zero_less positive nonzero)

theorem Gathered.step {rules : List PolicyRule} {rule : PolicyRule} {p p' : Projection} (gathered : Gathered rules p)
    (valid : Valid rule) (h : p.project rule = .ok p') : Gathered (rules ++ [rule]) p' := by
  rcases project_cases valid h with ⟨key, nonempty, allow⟩ | ⟨key, maxUSD, found, sign, rfl⟩ | ⟨key, rfl⟩ |
    ⟨key, rfl⟩ | ⟨key, rfl⟩ | ⟨key, rfl⟩
  · obtain ⟨allowed, rfl, all⟩ := gathered.allow key nonempty allow
    constructor
    · simp [or_imp, forall_and, key]
    · rintro _ ⟨⟩
      exact all
    · exact gathered.budget
    · simpa [or_and_right, exists_or, key] using gathered.free
    · simpa [or_and_right, exists_or, key] using gathered.tags
    · simpa [or_imp, forall_and, or_and_right, exists_or, key] using gathered.prohibited
  · obtain ⟨least, limited, positive, free⟩ := gathered.limit sign
    rw [limited]
    constructor
    · simpa [or_imp, forall_and, key] using gathered.unrestricted
    · simpa [or_imp, forall_and, key] using gathered.regions
    · rintro _ ⟨⟩
      exact positive
    · simp only [Option.some.injEq, free, List.mem_append, List.mem_singleton, or_and_right, exists_or, exists_eq_left,
        key, found, Json.num.injEq, true_and, gathered.free]
    · simpa [or_and_right, exists_or, key] using gathered.tags
    · simpa [or_imp, forall_and, or_and_right, exists_or, key] using gathered.prohibited
  · constructor
    · simpa [or_imp, forall_and, key] using gathered.unrestricted
    · simpa [or_imp, forall_and, key] using gathered.regions
    · exact gathered.budget
    · simpa [or_and_right, exists_or, key] using gathered.free
    · intro tag
      rw [mem_foldl_addNew, gathered.tags]
      simp [or_and_right, exists_or, key]
    · simpa [or_imp, forall_and, or_and_right, exists_or, key] using gathered.prohibited
  · constructor
    · simpa [or_imp, forall_and, key] using gathered.unrestricted
    · simpa [or_imp, forall_and, key] using gathered.regions
    · exact gathered.budget
    · simpa [or_and_right, exists_or, key] using gathered.free
    · simpa [or_and_right, exists_or, key] using gathered.tags
    · simpa [or_imp, forall_and, or_and_right, exists_or, key] using gathered.prohibited
  · constructor
    · simpa [or_imp, forall_and, key] using gathered.unrestricted
    · simpa [or_imp, forall_and, key] using gathered.regions
    · exact gathered.budget
    · simpa [or_and_right, exists_or, key] using gathered.free
    · simpa [or_and_right, exists_or, key] using gathered.tags
    · right
      refine ⟨?_, rule, by simp, key⟩
      rcases gathered.prohibited with ⟨none, -⟩ | ⟨one, -⟩
      · rw [none]
        rfl
      · rw [one, addNew, if_pos (by simp)]
  · simp only [List.mem_cons, List.not_mem_nil, or_false, not_or] at key
    constructor
    · simpa [or_imp, forall_and, key] using gathered.unrestricted
    · simpa [or_imp, forall_and, key] using gathered.regions
    · exact gathered.budget
    · simpa [or_and_right, exists_or, key] using gathered.free
    · simpa [or_and_right, exists_or, key] using gathered.tags
    · simpa [or_imp, forall_and, or_and_right, exists_or, key] using gathered.prohibited

theorem gathered_rules {rules : List PolicyRule} (valid : ∀ rule ∈ rules, Valid rule) {p : Projection}
    (h : rules.foldlM Projection.project {} = .ok p) : Gathered rules p := by
  induction rules using List.reverseRecOn generalizing p with
  | nil =>
    cases h
    exact .nil
  | append_singleton rules rule ih =>
    rw [List.foldlM_append] at h
    cases first : rules.foldlM Projection.project {} with
    | error e =>
      rw [first] at h
      cases h
    | ok q =>
      rw [first] at h
      have last : q.project rule = .ok p := by
        change (List.foldlM Projection.project q [rule]) = _ at h
        rw [List.foldlM_cons] at h
        cases hq : q.project rule with
        | error e =>
          rw [hq] at h
          cases h
        | ok q' =>
          rw [hq] at h
          exact h
      exact (ih (fun r hr => valid r (by simp [hr])) first).step (valid rule (by simp)) last

end Gathered

end Provisr.Backend.Policy
