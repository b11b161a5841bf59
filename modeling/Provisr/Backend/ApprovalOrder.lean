import Provisr.Backend.ApprovalRules

namespace Provisr.Backend.Approval

open Provisr.Foundation
open Provisr.Orchestrator (Platform)

-- The same input, its changes and violations in another order.
structure Permuted (a b : RunContext) : Prop where
  changes : a.resourceChanges.Perm b.resourceChanges
  violations : a.violations.Perm b.violations
  rest : b = { a with resourceChanges := b.resourceChanges, violations := b.violations }

-- The same requirement, or an error of the same kind.
inductive Alike : Except EvaluateError Requirement → Except EvaluateError Requirement → Prop
  | ok (r : Requirement) : Alike (.ok r) (.ok r)
  | error {e e' : EvaluateError} (kind : e.kind = e'.kind) : Alike (.error e) (.error e')

theorem Alike.refl (r : Except EvaluateError Requirement) : Alike r r := by
  cases r with
  | error e => exact .error rfl
  | ok r => exact .ok r

theorem Alike.eq_of_ok {r r' : Requirement} (h : Alike (.ok r) (.ok r')) : r = r' := by
  cases h
  rfl

section Order

variable [GoUnicode]

-- Changes that the order of the changes cannot tell apart are the same, and so are violations.
structure Untied (input : RunContext) : Prop where
  changes : ∀ c ∈ input.resourceChanges, ∀ d ∈ input.resourceChanges, c.trimmed.key = d.trimmed.key →
    c.trimmed = d.trimmed
  violations : ∀ v ∈ input.violations, ∀ w ∈ input.violations, v.key = w.key → v = w

section Normalize

variable {a b : RunContext}

omit [GoUnicode] in
theorem Permuted.split (perm : Permuted a b) : ∃ cs vs, b = { a with resourceChanges := cs, violations := vs } ∧
    a.resourceChanges.Perm cs ∧ a.violations.Perm vs :=
  ⟨b.resourceChanges, b.violations, perm.rest, perm.changes, perm.violations⟩

omit [GoUnicode] in
theorem Permuted.symm (perm : Permuted a b) : Permuted b a := by
  obtain ⟨cs, vs, rfl, changes, violations⟩ := perm.split
  exact ⟨changes.symm, violations.symm, rfl⟩

theorem Permuted.checked (perm : Permuted a b) {environment : String} {cost : JsNumber}
    (checked : Checked a environment cost) : Checked b environment cost := by
  obtain ⟨cs, vs, rfl, changes, -⟩ := perm.split
  constructor
  · exact checked.environment
  · rw [← changes.length_eq]
    exact checked.count
  · exact fun c hc => checked.changes c (changes.mem_iff.mpr hc)
  · exact checked.cost

theorem Permuted.input (perm : Permuted a b) (environment : String) (cost : JsNumber) (decision : String) :
    Input.of b environment cost decision = { Input.of a environment cost decision with
      resourceChanges := sortStable ResourceChange.key (b.resourceChanges.map .trimmed)
      violations := sortStable Violation.key b.violations } := by
  obtain ⟨cs, vs, rfl, -, -⟩ := perm.split
  simp only [Input.of]

end Normalize

section Encoding

omit [GoUnicode] in
theorem ResourceChange.json_injective {c d : ResourceChange} (h : c.json = d.json) : c = d := by
  obtain ⟨address, type, action, isPublic, properties, sorted⟩ := c
  obtain ⟨address', type', action', isPublic', properties', sorted'⟩ := d
  unfold ResourceChange.json at h
  dsimp only at h
  by_cases empty : properties = [] <;> by_cases empty' : properties' = [] <;> simp_all

omit [GoUnicode] in
theorem Violation.json_injective {v w : Violation} (h : v.json = w.json) : v = w := by
  obtain ⟨ruleKey, severity, description, evidence, hint⟩ := v
  obtain ⟨ruleKey', severity', description', evidence', hint'⟩ := w
  simpa [Violation.json] using h

omit [GoUnicode] in
theorem encoded_sorted {n : Input} {cs : List ResourceChange} {vs : List Violation} {threshold : JsNumber}
    (h : encoded { n with resourceChanges := cs, violations := vs } threshold = encoded n threshold) :
    cs = n.resourceChanges ∧ vs = n.violations := by
  have same := GoJson.htmlEscape_write_injective (String.ofList_inj.mp h)
  simp only [payload, Input.json, Json.obj.injEq, List.cons.injEq, Prod.mk.injEq, List.append_cancel_left_eq,
    Json.arr.injEq, true_and, and_true] at same
  exact ⟨List.map_injective_iff.mpr (fun _ _ => ResourceChange.json_injective) same.1,
    List.map_injective_iff.mpr (fun _ _ => Violation.json_injective) same.2⟩

end Encoding

section Evaluation

variable [Platform] {a b : RunContext} {threshold : Float64}

-- The digests of the orders of one input tell their texts apart.
def CollisionFree (a : RunContext) (threshold : Float64) : Prop :=
  ∀ b, Permuted a b → ∀ n n' t, normalize a = .ok n → normalize b = .ok n' → nonNegative threshold = some t →
    inputDigest n t = inputDigest n' t → encoded n t = encoded n' t

theorem requirement_digest (n : Input) (t : JsNumber) : (requirement n t).inputDigest = inputDigest n t := by
  unfold requirement
  dsimp only
  split <;> rfl

omit [Platform] in
theorem Permuted.refused (perm : Permuted a b) {e : EvaluateError} (h : normalize a = .error e) :
    ∃ e', normalize b = .error e' ∧ e'.kind = e.kind := by
  by_cases reached : ∃ environment cost, Checked a environment cost
  · obtain ⟨environment, cost, checked⟩ := reached
    have decision : b.decision = a.decision := by rw [perm.rest]
    rw [checked.normalize] at h
    rw [(perm.checked checked).normalize, decision]
    cases hd : normalizeDecision a.decision with
    | ok decision' =>
      rw [hd] at h
      cases h
    | error e₁ =>
      rw [hd] at h
      cases h
      exact ⟨e, rfl, rfl⟩
  · have unreached : ¬ ∃ environment cost, Checked b environment cost :=
      fun ⟨environment, cost, checked⟩ => reached ⟨environment, cost, perm.symm.checked checked⟩
    obtain ⟨e₁, h₁, kind₁⟩ := (checked_or a).resolve_left reached
    obtain ⟨e₂, h₂, kind₂⟩ := (checked_or b).resolve_left unreached
    rw [h] at h₁
    cases h₁
    exact ⟨e₂, h₂, kind₂.trans kind₁.symm⟩

omit [Platform] in
theorem Permuted.normalized (perm : Permuted a b) {n : Input} (h : normalize a = .ok n) :
    n.resourceChanges = sortStable ResourceChange.key (a.resourceChanges.map .trimmed) ∧
      n.violations = sortStable Violation.key a.violations ∧
      normalize b = .ok { n with
        resourceChanges := sortStable ResourceChange.key (b.resourceChanges.map .trimmed)
        violations := sortStable Violation.key b.violations } := by
  obtain ⟨environment, cost, decision, checked, decided, rfl⟩ := normalize_ok h
  have kept : b.decision = a.decision := by rw [perm.rest]
  refine ⟨rfl, rfl, ?_⟩
  rw [(perm.checked checked).normalize, kept, decided]
  exact congrArg Except.ok (perm.input environment cost decision)

omit [Platform] in
theorem Untied.normalized (untied : Untied a) (perm : Permuted a b) {n : Input} (h : normalize a = .ok n) :
    normalize b = .ok n := by
  obtain ⟨changes, violations, h'⟩ := perm.normalized h
  have tied : ∀ c ∈ a.resourceChanges.map ResourceChange.trimmed, ∀ d ∈ a.resourceChanges.map ResourceChange.trimmed,
      c.key = d.key → c = d := by
    simp only [List.forall_mem_map]
    exact untied.changes
  have sorted := sortStable_eq_of_perm tied (perm.changes.map ResourceChange.trimmed)
  have sorted' := sortStable_eq_of_perm untied.violations perm.violations
  rw [← changes] at sorted
  rw [← violations] at sorted'
  rw [h', ← sorted, ← sorted']

theorem alike_of_refused (perm : Permuted a b) {e : EvaluateError} (h : normalize a = .error e) :
    Alike (Evaluate a threshold) (Evaluate b threshold) := by
  obtain ⟨e', h', kind⟩ := perm.refused h
  unfold Evaluate
  rw [h, h']
  exact .error kind.symm

theorem evaluate_ok {n : Input} {t : JsNumber} (h : normalize a = .ok n) (ht : nonNegative threshold = some t) :
    Evaluate a threshold = .ok (requirement n t) := by
  unfold Evaluate
  rw [h, ht]

theorem alike_of_untied (untied : Untied a) (perm : Permuted a b) :
    Alike (Evaluate a threshold) (Evaluate b threshold) := by
  cases h : normalize a with
  | error e => exact alike_of_refused perm h
  | ok n =>
    have same : Evaluate b threshold = Evaluate a threshold := by
      unfold Evaluate
      rw [h, untied.normalized perm h]
    rw [same]
    exact .refl _

theorem sorted_of_alike {n : Input} {t : JsNumber} (h : normalize a = .ok n) (ht : nonNegative threshold = some t)
    (collisionFree : CollisionFree a threshold) (perm : Permuted a b)
    (alike : Alike (Evaluate a threshold) (Evaluate b threshold)) :
    sortStable ResourceChange.key (a.resourceChanges.map .trimmed) =
        sortStable ResourceChange.key (b.resourceChanges.map .trimmed) ∧
      sortStable Violation.key a.violations = sortStable Violation.key b.violations := by
  obtain ⟨changes, violations, h'⟩ := perm.normalized h
  rw [evaluate_ok h ht, evaluate_ok h' ht] at alike
  have digests := congrArg Requirement.inputDigest alike.eq_of_ok
  rw [requirement_digest, requirement_digest] at digests
  have texts := collisionFree b perm _ _ t h h' ht digests
  obtain ⟨sorted, sorted'⟩ := encoded_sorted texts.symm
  exact ⟨changes.symm.trans sorted.symm, violations.symm.trans sorted'.symm⟩

theorem untied_of_alike {n : Input} {t : JsNumber} (h : normalize a = .ok n) (ht : nonNegative threshold = some t)
    (collisionFree : CollisionFree a threshold)
    (alike : ∀ b, Permuted a b → Alike (Evaluate a threshold) (Evaluate b threshold)) : Untied a where
  changes := by
    have same : ∀ ds, (a.resourceChanges.map ResourceChange.trimmed).Perm ds →
        sortStable ResourceChange.key (a.resourceChanges.map .trimmed) = sortStable ResourceChange.key ds := by
      intro ds hds
      obtain ⟨cs, perm, rfl⟩ := exists_map_of_perm hds rfl
      have moved : Permuted a { a with resourceChanges := cs } := ⟨perm, .refl _, rfl⟩
      exact (sorted_of_alike h ht collisionFree moved (alike _ moved)).1
    have untied := untied_of_sortStable same
    exact fun c hc d hd => untied _ (List.mem_map_of_mem hc) _ (List.mem_map_of_mem hd)
  violations := by
    refine untied_of_sortStable fun vs perm => ?_
    have moved : Permuted a { a with violations := vs } := ⟨.refl _, perm, rfl⟩
    exact (sorted_of_alike h ht collisionFree moved (alike _ moved)).2

structure Evaluable (input : RunContext) (threshold : Float64) : Prop where
  environment : (environmentAliases.lookup (ToLower (TrimSpace input.environment))).isSome = true
  count : input.resourceChanges.length ≤ maxResourceChanges
  changes : ∀ c ∈ input.resourceChanges, c.trimmed.type ≠ "" ∧ c.trimmed.action ∈ validActions
  cost : (input.estimatedMonthlyUSD.bind nonNegative).isSome = true
  decision : ToUpper (TrimSpace input.decision) ∈ validDecisions
  allowed : ToUpper (TrimSpace input.decision) ≠ "DENY"
  threshold : (nonNegative threshold).isSome = true

omit [Platform] in
theorem evaluable_iff : Evaluable a threshold ↔
    ∃ n t, normalize a = .ok n ∧ nonNegative threshold = some t := by
  constructor
  · rintro ⟨environment, count, changes, cost, decision, allowed, valid⟩
    obtain ⟨t, ht⟩ := Option.isSome_iff_exists.mp valid
    obtain ⟨known, hknown⟩ := Option.isSome_iff_exists.mp environment
    obtain ⟨amount, hamount⟩ := Option.isSome_iff_exists.mp cost
    obtain ⟨estimate, hestimate, hamount⟩ := Option.bind_eq_some_iff.mp hamount
    have checked : Checked a known amount := by
      refine ⟨?_, count, changes, ?_⟩
      · rw [normalizeEnvironment, hknown]
      · rw [hestimate, normalizeCost, hamount]
    have decided : normalizeDecision a.decision = .ok (ToUpper (TrimSpace a.decision)) := by
      unfold normalizeDecision
      dsimp only
      rw [if_pos (List.contains_iff_mem.mpr decision), if_neg allowed]
    exact ⟨_, t, by rw [checked.normalize, decided]; rfl, ht⟩
  · rintro ⟨n, t, h, ht⟩
    obtain ⟨environment, cost, decision, checked, decided, -⟩ := normalize_ok h
    obtain ⟨valid, allowed⟩ := normalizeDecision_ok decided
    exact ⟨normalizeEnvironment_ok checked.environment, checked.count, checked.changes, normalizeCost_ok checked.cost,
      valid, allowed, by rw [ht]; rfl⟩

theorem approval_order_independent_iff (input : RunContext) (threshold : Float64)
    (collisionFree : CollisionFree input threshold) :
    (∀ other, Permuted input other → Alike (Evaluate input threshold) (Evaluate other threshold)) ↔
      (Evaluable input threshold → Untied input) := by
  constructor
  · intro alike evaluable
    obtain ⟨n, t, h, ht⟩ := evaluable_iff.mp evaluable
    exact untied_of_alike h ht collisionFree alike
  · intro untied other perm
    by_cases evaluable : Evaluable input threshold
    · exact alike_of_untied (untied evaluable) perm
    · cases h : normalize input with
      | error e => exact alike_of_refused perm h
      | ok n =>
        obtain ⟨-, -, h'⟩ := perm.normalized h
        cases ht : nonNegative threshold with
        | some t => exact absurd (evaluable_iff.mpr ⟨n, t, h, ht⟩) evaluable
        | none =>
          unfold Evaluate
          rw [h, h', ht]
          exact .refl _

end Evaluation

end Order

section Example

@[reducible] def asciiTables : GoUnicode := ⟨Char.toLower, Char.toUpper, fun c => 32 ≤ c.toNat && c.toNat < 127⟩

def instanceGone (id : String) : ResourceChange := ⟨"aws_instance.web", "aws_instance", "delete", false, ⟨[("id", .str id)], rfl⟩⟩

def deposed (first second : String) : RunContext where
  workspaceId := "0b9e4c1a-7d52-4f3e-9a61-2c8d5e7f1034"
  runId := "d2f60e8b-3c47-4a19-8b5d-1e9f7c40a632"
  userId := "e81b5c24-9f06-4d73-a2c8-6b3d0f9e7154"
  environment := "dev"
  provider := "aws"
  region := "us-east-1"
  publicExposure := false
  resourceChanges := [instanceGone first, instanceGone second]
  estimatedMonthlyUSD := some (.finite (JsNumber.ofNat 40))
  costSource := ""
  decision := "ALLOW"
  violations := []
  userRole := "admin"
  workspaceEnvironment := "dev"

def deposedText (first second : String) : String :=
  letI := asciiTables
  match normalize (deposed first second) with
  | .ok n => encoded n (JsNumber.ofNat 500)
  | .error _ => ""

@[reducible] def deposedHashes : Platform :=
  ⟨fun s => if s = deposedText "i-04f1" "i-09c7" then
      "ec40861d1108ea6d6c78a8cd2b3d7f5a05c7c58f8033af217f876eedd2897acd"
    else "21757af19d00f56795018138b7b7a1fa31c55ba024279979006759b23710ffae", fun _ => true⟩

def usualThreshold : Float64 := .finite (JsNumber.ofNat 500)

theorem deposed_evaluable :
    letI := asciiTables
    Evaluable (deposed "i-04f1" "i-09c7") usualThreshold :=
  @Evaluable.mk asciiTables _ _ (by decide) (by decide) (by decide) (by decide)
    (by decide) (by decide) (by decide)

theorem deposed_collisionFree :
    letI := asciiTables
    letI := deposedHashes
    CollisionFree (deposed "i-04f1" "i-09c7") usualThreshold := by
  let _ := asciiTables
  let _ := deposedHashes
  intro b perm n n' t h h' ht digests
  have threshold : t = JsNumber.ofNat 500 := (Option.some.inj ht).symm
  have text : deposedText "i-04f1" "i-09c7" = encoded n t := by
    unfold deposedText
    rw [h, threshold]
  by_contra distinct
  unfold inputDigest at digests
  change (if _ then _ else _) = (if _ then _ else _) at digests
  rw [text, if_pos rfl, if_neg (Ne.symm distinct)] at digests
  exact absurd digests (by decide)

theorem deposed_tied : ¬ letI := asciiTables; Untied (deposed "i-04f1" "i-09c7") := by
  let _ := asciiTables
  intro untied
  have same := untied.changes (instanceGone "i-04f1") (by simp [deposed]) (instanceGone "i-09c7") (by simp [deposed]) rfl
  exact absurd (congrArg (fun c => c.properties.val) same) (by decide)

theorem approval_order_independent_iff_deposed :
    letI := asciiTables
    letI := deposedHashes
    ¬ ∀ other, Permuted (deposed "i-04f1" "i-09c7") other →
      Alike (Evaluate (deposed "i-04f1" "i-09c7") usualThreshold) (Evaluate other usualThreshold) := by
  let _ := asciiTables
  let _ := deposedHashes
  intro alike
  exact deposed_tied ((approval_order_independent_iff _ _ deposed_collisionFree).mp alike deposed_evaluable)

theorem approval_order_shows : ¬ ∀ [GoUnicode] [Platform] (input : RunContext) (threshold : Float64) (other : RunContext),
    Permuted input other → Alike (Evaluate input threshold) (Evaluate other threshold) := by
  intro claim
  let _ := asciiTables
  let _ := deposedHashes
  obtain ⟨n, t, h, ht⟩ := evaluable_iff.mp deposed_evaluable
  exact deposed_tied (untied_of_alike h ht deposed_collisionFree fun b perm => claim _ _ b perm)

end Example

end Provisr.Backend.Approval
