import Provisr.Backend.PolicyProjection
import Provisr.Backend.PolicyEvaluator
import Provisr.Foundation.JsArithmetic
import Mathlib.Algebra.Order.Field.Rat
import Mathlib.Data.List.Sort
import Mathlib.Tactic.Ring
import Mathlib.Tactic.NormNum

namespace Provisr.Backend.Policy

open Provisr.Foundation
open Provisr.Orchestrator (distinct)

section Rows

-- A row of the query: the parameters are a jsonb column.
structure EnabledRow where
  ruleKey : String
  parametersSchema : Json Literal

-- json.Unmarshal into a map. A number becomes a float64, null an empty map.
def unmarshalParams : Json Literal → Option JsFields
  | .obj fields =>
    if nesting (.obj fields) ≤ maxNestingDepth ∧ decodesFields fields = true then
      some (Json.mapFields (fun l => Float64.shortest l.negative (float64Of l)) fields)
    else none
  | .null => some []
  | _ => none

def EnabledRow.rule (row : EnabledRow) : Option PolicyRule :=
  (unmarshalParams row.parametersSchema).map fun params => ⟨row.ruleKey, params⟩

-- A row whose parameters are malformed is skipped.
def Projection.projectRow (p : Projection) (row : EnabledRow) : Except PolicyConflict Projection :=
  match row.rule with
  | none => .ok p
  | some rule => p.project rule

def projectRows (rows : List EnabledRow) : Except PolicyConflict PolicyRequirements :=
  (rows.foldlM Projection.projectRow {}).map Projection.requirements

theorem foldlM_projectRow (rows : List EnabledRow) (p : Projection) :
    rows.foldlM Projection.projectRow p = (rows.filterMap EnabledRow.rule).foldlM Projection.project p := by
  induction rows generalizing p with
  | nil => rfl
  | cons row rows ih =>
    rw [List.foldlM_cons, Projection.projectRow]
    cases well : row.rule with
    | none =>
      rw [List.filterMap_cons_none well]
      exact ih p
    | some rule =>
      rw [List.filterMap_cons_some well, List.foldlM_cons]
      exact congrArg _ (funext ih)

end Rows

section Reference

def regionRule (rule : PolicyRule) : Option (List String) :=
  if rule.ruleKey = "allowed_regions" then
    match rule.params.lookup "regions" with
    | some (.arr regions) => some (regions.filterMap textOf)
    | _ => none
  else none

def budgetRule (rule : PolicyRule) : Option JsNumber :=
  if rule.ruleKey = "budget_max" then
    match rule.params.lookup "max_usd" with
    | some (.num maxUSD) => some maxUSD
    | _ => none
  else none

def tagRule (rule : PolicyRule) : Option (List String) :=
  if rule.ruleKey = "required_tags" then
    match rule.params.lookup "tags" with
    | some (.arr tags) => some (tags.filterMap textOf)
    | _ => none
  else none

def projectedKeys : List String :=
  ["allowed_regions", "budget_max", "required_tags", "require_encryption", "no_public_s3"]

def Common (rules : List PolicyRule) (region : String) : Prop :=
  ∀ regions ∈ rules.filterMap regionRule, region ∈ regions

-- Two rules on regions or more, and no region in all of them.
def Conflict (rules : List PolicyRule) : Prop :=
  2 ≤ (rules.filterMap regionRule).length ∧ ∀ region, ¬ Common rules region

structure Regions (rules : List PolicyRule) (allowed : Option (List String)) : Prop where
  unrestricted : allowed = none ↔ rules.filterMap regionRule = []
  members : ∀ regions, allowed = some regions → ∀ region, region ∈ regions ↔ Common rules region

structure Budget (rules : List PolicyRule) (least : Option JsNumber) : Prop where
  unlimited : least = none ↔ rules.filterMap budgetRule = []
  below : ∀ l, least = some l → l ∈ rules.filterMap budgetRule ∧
    ∀ maxUSD ∈ rules.filterMap budgetRule, less maxUSD l = false

structure Tags (rules : List PolicyRule) (tags : List String) : Prop where
  distinct : tags.Nodup
  members : ∀ tag, tag ∈ tags ↔ ∃ ts ∈ rules.filterMap tagRule, tag ∈ ts

def keyed (rules : List PolicyRule) (key : String) : Bool := rules.any fun rule => rule.ruleKey == key

def otherKeyed (rules : List PolicyRule) : Bool := rules.any fun rule => !projectedKeys.contains rule.ruleKey

structure Reference (rules : List PolicyRule) (reqs : PolicyRequirements) : Prop where
  regions : Regions rules reqs.allowedRegions
  sorted : ∀ regions, reqs.allowedRegions = some regions → regions.Pairwise (· < ·)
  budget : Budget rules reqs.maxMonthlyBudgetUSD
  tags : Tags rules reqs.requiredTags
  encryption : reqs.requiredEncryption = keyed rules "require_encryption"
  prohibited : reqs.prohibitedResourceTypes = if keyed rules "no_public_s3" then [publicBlock] else []
  warnings : reqs.warnings = if otherKeyed rules then [complexWarning] else []

end Reference

section Order

def value (n : JsNumber) : ℚ := mantissa n * (10 : ℚ) ^ exponent n

theorem less_iff (a b : JsNumber) : less a b = true ↔ value a < value b := by
  have shifted : ∀ n : JsNumber, ∀ c ≤ exponent n,
      value n = ((mantissa n * 10 ^ (exponent n - c).toNat : Int) : ℚ) * (10 : ℚ) ^ c := by
    intro n c below
    have split : exponent n = ((exponent n - c).toNat : Int) + c := by omega
    rw [value]
    conv_lhs => rw [split]
    rw [zpow_add₀ (by norm_num), zpow_natCast]
    push_cast
    ring
  have positive : (0 : ℚ) < (10 : ℚ) ^ min (exponent a) (exponent b) := zpow_pos (by norm_num) _
  unfold less
  dsimp only
  rw [decide_eq_true_iff, shifted a _ (min_le_left _ _), shifted b _ (min_le_right _ _),
    mul_lt_mul_iff_left₀ positive, Int.cast_lt]

theorem not_less_iff (a b : JsNumber) : less a b = false ↔ value b ≤ value a := by
  rw [← Bool.not_eq_true, less_iff, not_lt]

end Order

section Loop

variable {rules : List PolicyRule} {rule : PolicyRule} {p p' : Projection}

structure Reached (rules : List PolicyRule) (p : Projection) : Prop where
  regions : Regions rules p.allowedRegions
  agreed : ¬ Conflict rules
  budget : Budget rules p.maxMonthlyBudgetUSD
  tags : Tags rules p.requiredTags
  encryption : p.requiredEncryption = keyed rules "require_encryption"
  prohibited : p.prohibitedResourceTypes = if keyed rules "no_public_s3" then [publicBlock] else []
  complex : p.hasComplexRules = otherKeyed rules

theorem Reached.nil : Reached [] {} := by
  refine ⟨⟨?_, ?_⟩, ?_, ⟨?_, ?_⟩, ⟨?_, ?_⟩, ?_, ?_, ?_⟩ <;> simp [Conflict, keyed, otherKeyed]

theorem filterMap_concat {α : Type} (f : PolicyRule → Option α) :
    (rules ++ [rule]).filterMap f = rules.filterMap f ++ (f rule).toList := by
  rw [List.filterMap_append, List.filterMap_cons]
  cases f rule <;> rfl

theorem common_concat (region : String) :
    Common (rules ++ [rule]) region ↔
      Common rules region ∧ ∀ regions, regionRule rule = some regions → region ∈ regions := by
  unfold Common
  rw [filterMap_concat]
  simp [or_imp, forall_and]

theorem regionRule_other (key : rule.ruleKey ≠ "allowed_regions") : regionRule rule = none := if_neg key

theorem budgetRule_other (key : rule.ruleKey ≠ "budget_max") : budgetRule rule = none := if_neg key

theorem tagRule_other (key : rule.ruleKey ≠ "required_tags") : tagRule rule = none := if_neg key

inductive Adds (p : Projection) (rule : PolicyRule) : Except PolicyConflict Projection → Prop
  | regions {current : List String} (given : regionRule rule = some current) : Adds p rule (p.allowRegions current)
  | budget {maxUSD : JsNumber} (given : budgetRule rule = some maxUSD) : Adds p rule (.ok (p.limitBudget maxUSD))
  | tags {tags : List String} (given : tagRule rule = some tags) :
    Adds p rule (.ok { p with requiredTags := tags.foldl addNew p.requiredTags })
  | encryption (key : rule.ruleKey = "require_encryption") : Adds p rule (.ok { p with requiredEncryption := true })
  | prohibited (key : rule.ruleKey = "no_public_s3") :
    Adds p rule (.ok { p with prohibitedResourceTypes := addNew p.prohibitedResourceTypes publicBlock })
  | complex (key : rule.ruleKey ∉ projectedKeys) : Adds p rule (.ok { p with hasComplexRules := true })
  | nothing (key : rule.ruleKey ∈ ["allowed_regions", "budget_max", "required_tags"]) (regions : regionRule rule = none)
    (budget : budgetRule rule = none) (tags : tagRule rule = none) : Adds p rule (.ok p)

theorem project_adds (p : Projection) (rule : PolicyRule) : Adds p rule (p.project rule) := by
  unfold Projection.project
  by_cases regions : rule.ruleKey = "allowed_regions"
  · rw [if_pos regions]
    split
    · rename_i items found
      exact .regions (by rw [regionRule, if_pos regions, found])
    · rename_i other
      refine .nothing (by simp [regions]) ?_ (budgetRule_other (by simp [regions])) (tagRule_other (by simp [regions]))
      rw [regionRule, if_pos regions]
      split
      · rename_i items found
        exact absurd found (other items)
      · rfl
  rw [if_neg regions]
  by_cases budget : rule.ruleKey = "budget_max"
  · rw [if_pos budget]
    split
    · rename_i maxUSD found
      exact .budget (by rw [budgetRule, if_pos budget, found])
    · rename_i other
      refine .nothing (by simp [budget]) (regionRule_other regions) ?_ (tagRule_other (by simp [budget]))
      rw [budgetRule, if_pos budget]
      split
      · rename_i maxUSD found
        exact absurd found (other maxUSD)
      · rfl
  rw [if_neg budget]
  by_cases tags : rule.ruleKey = "required_tags"
  · rw [if_pos tags]
    split
    · rename_i items found
      exact .tags (by rw [tagRule, if_pos tags, found])
    · rename_i other
      refine .nothing (by simp [tags]) (regionRule_other regions) (budgetRule_other budget) ?_
      rw [tagRule, if_pos tags]
      split
      · rename_i items found
        exact absurd found (other items)
      · rfl
  rw [if_neg tags]
  by_cases encryption : rule.ruleKey = "require_encryption"
  · rw [if_pos encryption]
    exact .encryption encryption
  rw [if_neg encryption]
  by_cases prohibited : rule.ruleKey = "no_public_s3"
  · rw [if_pos prohibited]
    exact .prohibited prohibited
  · rw [if_neg prohibited]
    exact .complex (by simp [projectedKeys, regions, budget, tags, encryption, prohibited])

theorem regionRule_key {current : List String} (given : regionRule rule = some current) :
    rule.ruleKey = "allowed_regions" := by
  by_contra other
  rw [regionRule_other other] at given
  cases given

theorem budgetRule_key {maxUSD : JsNumber} (given : budgetRule rule = some maxUSD) : rule.ruleKey = "budget_max" := by
  by_contra other
  rw [budgetRule_other other] at given
  cases given

theorem tagRule_key {tags : List String} (given : tagRule rule = some tags) : rule.ruleKey = "required_tags" := by
  by_contra other
  rw [tagRule_other other] at given
  cases given

theorem Conflict.later (h : Conflict rules) (more : List PolicyRule) : Conflict (rules ++ more) := by
  obtain ⟨two, none⟩ := h
  refine ⟨?_, fun region all => none region fun regions mem => all regions ?_⟩
  · rw [List.filterMap_append, List.length_append]
    omega
  · rw [List.filterMap_append]
    exact List.mem_append_left _ mem

theorem Reached.allow (h : Reached rules p) {current : List String} (given : regionRule rule = some current) :
    Conflict (rules ++ [rule]) ∧ p.allowRegions current = .error ⟨⟩ ∨
      ¬ Conflict (rules ++ [rule]) ∧ ∃ allowed, p.allowRegions current = .ok { p with allowedRegions := some allowed } ∧
        ∀ region, region ∈ allowed ↔ Common (rules ++ [rule]) region := by
  have common : ∀ region, Common (rules ++ [rule]) region ↔ Common rules region ∧ region ∈ current := by
    intro region
    rw [common_concat, given]
    simp
  have length : ((rules ++ [rule]).filterMap regionRule).length = (rules.filterMap regionRule).length + 1 := by
    rw [filterMap_concat, given]
    simp
  unfold Projection.allowRegions
  cases restricted : p.allowedRegions with
  | none =>
    have first := h.regions.unrestricted.mp restricted
    refine .inr ⟨fun conflict => ?_, current, rfl, fun region => ?_⟩
    · have two := conflict.1
      rw [length, first] at two
      exact absurd two (by decide)
    · rw [common, Common, first]
      simp
  | some allowed =>
    have several : rules.filterMap regionRule ≠ [] := fun nil => by
      rw [h.regions.unrestricted.mpr nil] at restricted
      cases restricted
    have narrowed : ∀ region, region ∈ allowed.filter current.contains ↔ Common (rules ++ [rule]) region := by
      intro region
      rw [List.mem_filter, List.contains_iff_mem, h.regions.members allowed restricted, common]
    dsimp only
    by_cases empty : allowed.filter current.contains = []
    · rw [if_pos empty]
      refine .inl ⟨⟨?_, fun region all => ?_⟩, rfl⟩
      · rw [length]
        have := List.length_pos_of_ne_nil several
        omega
      · have mem := (narrowed region).mpr all
        rw [empty] at mem
        cases mem
    · rw [if_neg empty]
      obtain ⟨region, regions, found⟩ := List.exists_cons_of_ne_nil empty
      refine .inr ⟨fun conflict => conflict.2 region ((narrowed region).mp ?_), _, rfl, narrowed⟩
      rw [found]
      exact List.mem_cons_self

theorem Reached.limit (h : Reached rules p) {maxUSD : JsNumber} (given : budgetRule rule = some maxUSD) :
    ∃ least, p.limitBudget maxUSD = { p with maxMonthlyBudgetUSD := some least } ∧
      least ∈ (rules ++ [rule]).filterMap budgetRule ∧
        ∀ other ∈ (rules ++ [rule]).filterMap budgetRule, less other least = false := by
  simp only [filterMap_concat, given, Option.toList_some, List.mem_append, List.mem_singleton, or_imp, forall_and,
    forall_eq, not_less_iff]
  unfold Projection.limitBudget
  cases limited : p.maxMonthlyBudgetUSD with
  | none =>
    have first := h.budget.unlimited.mp limited
    refine ⟨maxUSD, rfl, .inr rfl, ?_, le_rfl⟩
    simp [first]
  | some least =>
    obtain ⟨mem, below⟩ := h.budget.below least limited
    simp only [not_less_iff] at below
    dsimp only
    by_cases lower : less maxUSD least = true
    · rw [if_pos lower]
      have under := (less_iff _ _).mp lower
      exact ⟨maxUSD, rfl, .inr rfl, fun other inside => under.le.trans (below other inside), le_rfl⟩
    · rw [if_neg lower]
      have above := (not_less_iff _ _).mp (Bool.not_eq_true _ ▸ lower)
      exact ⟨least, by rw [← limited], .inl mem, below, above⟩

theorem common_quiet (quiet : regionRule rule = none) (region : String) :
    Common (rules ++ [rule]) region ↔ Common rules region := by
  rw [common_concat, quiet]
  simp

theorem conflict_quiet (quiet : regionRule rule = none) : Conflict (rules ++ [rule]) ↔ Conflict rules := by
  unfold Conflict
  simp only [common_quiet quiet, filterMap_concat, quiet, Option.toList_none, List.append_nil]

theorem Regions.quiet {allowed : Option (List String)} (h : Regions rules allowed) (quiet : regionRule rule = none) :
    Regions (rules ++ [rule]) allowed := by
  refine ⟨?_, ?_⟩
  · simpa [filterMap_concat, quiet] using h.unrestricted
  · simpa only [common_quiet quiet] using h.members

theorem Budget.quiet {least : Option JsNumber} (h : Budget rules least) (quiet : budgetRule rule = none) :
    Budget (rules ++ [rule]) least := by
  have same : (rules ++ [rule]).filterMap budgetRule = rules.filterMap budgetRule := by simp [quiet]
  refine ⟨?_, ?_⟩
  · simpa only [same] using h.unlimited
  · simpa only [same] using h.below

theorem Tags.quiet {tags : List String} (h : Tags rules tags) (quiet : tagRule rule = none) :
    Tags (rules ++ [rule]) tags := by
  have same : (rules ++ [rule]).filterMap tagRule = rules.filterMap tagRule := by simp [quiet]
  exact ⟨h.distinct, by simpa only [same] using h.members⟩

@[simp] theorem keyed_concat (key : String) :
    keyed (rules ++ [rule]) key = (keyed rules key || rule.ruleKey == key) := by
  simp [keyed]

@[simp] theorem otherKeyed_concat :
    otherKeyed (rules ++ [rule]) = (otherKeyed rules || !projectedKeys.contains rule.ruleKey) := by
  simp [otherKeyed]

theorem quiet_of_key {key : String} (is : rule.ruleKey = key)
    (other : key ∉ ["allowed_regions", "budget_max", "required_tags"]) :
    regionRule rule = none ∧ budgetRule rule = none ∧ tagRule rule = none := by
  simp only [List.mem_cons, List.not_mem_nil, or_false, not_or] at other
  subst is
  exact ⟨regionRule_other other.1, budgetRule_other other.2.1, tagRule_other other.2.2⟩

theorem Reached.step (h : Reached rules p) {r : Except PolicyConflict Projection} (adds : Adds p rule r) :
    (∃ p', r = .ok p' ∧ Reached (rules ++ [rule]) p') ∨ (r = .error ⟨⟩ ∧ Conflict (rules ++ [rule])) := by
  cases adds with
  | @regions current given =>
    have key := regionRule_key given
    have budget : budgetRule rule = none := budgetRule_other (by simp [key])
    have tags : tagRule rule = none := tagRule_other (by simp [key])
    rcases h.allow given with ⟨conflict, failed⟩ | ⟨agreed, allowed, narrowed, members⟩
    · exact .inr ⟨failed, conflict⟩
    · refine .inl ⟨_, narrowed, ⟨?_, ?_⟩, agreed, h.budget.quiet budget, h.tags.quiet tags, ?_, ?_, ?_⟩
      · simp [given]
      · rintro _ ⟨⟩
        exact members
      · simpa [key] using h.encryption
      · simpa [key] using h.prohibited
      · simpa [key, projectedKeys] using h.complex
  | @budget maxUSD given =>
    have key := budgetRule_key given
    have quiet : regionRule rule = none := regionRule_other (by simp [key])
    have tags : tagRule rule = none := tagRule_other (by simp [key])
    obtain ⟨least, limited, mem, below⟩ := h.limit given
    refine .inl ⟨_, rfl, ?_⟩
    rw [limited]
    refine ⟨h.regions.quiet quiet, mt (conflict_quiet quiet).mp h.agreed, ⟨?_, ?_⟩, h.tags.quiet tags, ?_, ?_, ?_⟩
    · simp [given]
    · rintro _ ⟨⟩
      exact ⟨mem, below⟩
    · simpa [key] using h.encryption
    · simpa [key] using h.prohibited
    · simpa [key, projectedKeys] using h.complex
  | @tags tags given =>
    have key := tagRule_key given
    have quiet : regionRule rule = none := regionRule_other (by simp [key])
    have budget : budgetRule rule = none := budgetRule_other (by simp [key])
    refine .inl ⟨_, rfl, h.regions.quiet quiet, mt (conflict_quiet quiet).mp h.agreed, h.budget.quiet budget, ⟨?_, ?_⟩,
      ?_, ?_, ?_⟩
    · exact nodup_foldl_addNew tags h.tags.distinct
    · intro tag
      rw [mem_foldl_addNew, h.tags.members, filterMap_concat, given]
      simp [or_and_right, exists_or]
    · simpa [key] using h.encryption
    · simpa [key] using h.prohibited
    · simpa [key, projectedKeys] using h.complex
  | encryption key =>
    obtain ⟨quiet, budget, tags⟩ := quiet_of_key key (by decide)
    refine .inl ⟨_, rfl, h.regions.quiet quiet, mt (conflict_quiet quiet).mp h.agreed, h.budget.quiet budget,
      h.tags.quiet tags, ?_, ?_, ?_⟩
    · simp [key]
    · simpa [key] using h.prohibited
    · simpa [key, projectedKeys] using h.complex
  | prohibited key =>
    obtain ⟨quiet, budget, tags⟩ := quiet_of_key key (by decide)
    refine .inl ⟨_, rfl, h.regions.quiet quiet, mt (conflict_quiet quiet).mp h.agreed, h.budget.quiet budget,
      h.tags.quiet tags, ?_, ?_, ?_⟩
    · simpa [key] using h.encryption
    · dsimp only
      rw [h.prohibited]
      cases keyed rules "no_public_s3" <;> simp [addNew, key]
    · simpa [key, projectedKeys] using h.complex
  | complex key =>
    obtain ⟨quiet, budget, tags⟩ := quiet_of_key rfl (fun mem => key (List.mem_append_left _ mem))
    simp only [projectedKeys, List.mem_cons, List.not_mem_nil, or_false, not_or] at key
    refine .inl ⟨_, rfl, h.regions.quiet quiet, mt (conflict_quiet quiet).mp h.agreed, h.budget.quiet budget,
      h.tags.quiet tags, ?_, ?_, ?_⟩
    · simpa [beq_false_of_ne key.2.2.2.1] using h.encryption
    · simpa [key] using h.prohibited
    · simp [key, projectedKeys]
  | nothing key quiet budget tags =>
    simp only [List.mem_cons, List.not_mem_nil, or_false] at key
    refine .inl ⟨_, rfl, h.regions.quiet quiet, mt (conflict_quiet quiet).mp h.agreed, h.budget.quiet budget,
      h.tags.quiet tags, ?_, ?_, ?_⟩
    · rcases key with key | key | key <;> simpa [key] using h.encryption
    · rcases key with key | key | key <;> simpa [key] using h.prohibited
    · rcases key with key | key | key <;> simpa [key, projectedKeys] using h.complex

theorem loop_reached (rules : List PolicyRule) :
    (∃ p, rules.foldlM Projection.project {} = .ok p ∧ Reached rules p) ∨
      (rules.foldlM Projection.project {} = .error ⟨⟩ ∧ Conflict rules) := by
  induction rules using List.reverseRecOn with
  | nil => exact .inl ⟨_, rfl, .nil⟩
  | append_singleton rules rule ih =>
    have last : ∀ p : Projection, [rule].foldlM Projection.project p = p.project rule := by
      intro p
      rw [List.foldlM_cons]
      cases p.project rule <;> rfl
    rw [List.foldlM_append]
    rcases ih with ⟨p, run, reached⟩ | ⟨failed, conflict⟩
    · rw [run]
      change (∃ p', [rule].foldlM Projection.project p = .ok p' ∧ _) ∨
        ([rule].foldlM Projection.project p = .error ⟨⟩ ∧ _)
      rw [last]
      exact reached.step (project_adds p rule)
    · rw [failed]
      exact .inr ⟨rfl, conflict.later _⟩

end Loop

section Result

theorem Reached.reference {rules : List PolicyRule} {p : Projection} (h : Reached rules p) :
    Reference rules p.requirements where
  regions := by
    refine ⟨?_, ?_⟩
    · rw [← h.regions.unrestricted]
      exact Option.map_eq_none_iff
    · intro regions given region
      obtain ⟨allowed, restricted, rfl⟩ := Option.map_eq_some_iff.mp given
      rw [List.mem_insertionSort, mem_distinct]
      exact h.regions.members allowed restricted region
  sorted := by
    intro regions given
    obtain ⟨allowed, restricted, rfl⟩ := Option.map_eq_some_iff.mp given
    have sorted := List.pairwise_insertionSort (· ≤ ·) (distinct allowed)
    have nodup : ((distinct allowed).insertionSort (· ≤ ·)).Nodup :=
      (List.perm_insertionSort _ _).nodup_iff.mpr (nodup_distinct allowed)
    exact (sorted.and nodup).imp fun both => lt_of_le_of_ne both.1 both.2
  budget := h.budget
  tags := h.tags
  encryption := h.encryption
  prohibited := h.prohibited
  warnings := by rw [Projection.requirements, h.complex]

-- The projection of any rows is a conflict exactly where the well-formed rows are one, and else what they ask for,
-- whatever their order.
theorem projection_reference (rows : List EnabledRow) :
    (projectRows rows = .error ⟨⟩ ↔ Conflict (rows.filterMap EnabledRow.rule)) ∧
      ∀ reqs, projectRows rows = .ok reqs → Reference (rows.filterMap EnabledRow.rule) reqs := by
  rw [projectRows, foldlM_projectRow]
  rcases loop_reached (rows.filterMap EnabledRow.rule) with ⟨p, run, reached⟩ | ⟨failed, conflict⟩
  · rw [run]
    refine ⟨⟨fun failed => ?_, fun conflict => absurd conflict reached.agreed⟩, ?_⟩
    · cases failed
    · rintro _ ⟨⟩
      exact reached.reference
  · rw [failed]
    refine ⟨⟨fun _ => conflict, fun _ => rfl⟩, fun reqs projected => ?_⟩
    cases projected

-- A row that forbids public buckets is of another kind than the four, and is no reason for a warning.
theorem public_block_unwarned :
    ¬ ∀ (rows : List EnabledRow) (reqs : PolicyRequirements), projectRows rows = .ok reqs →
      (reqs.warnings ≠ [] ↔ ∃ rule ∈ rows.filterMap EnabledRow.rule,
        rule.ruleKey ∉ ["allowed_regions", "budget_max", "required_tags", "require_encryption"]) := by
  intro claim
  have projected : projectRows [⟨"no_public_s3", .obj []⟩] = .ok ⟨none, none, [], [publicBlock], false, []⟩ := rfl
  exact (claim _ _ projected).mpr ⟨⟨"no_public_s3", []⟩, List.mem_cons_self, by decide⟩ rfl

end Result

end Provisr.Backend.Policy
