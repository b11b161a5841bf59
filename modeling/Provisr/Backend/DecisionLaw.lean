import Provisr.Backend.InputShapes
import Mathlib.Data.Multiset.Bind
import Mathlib.Order.Bounds.Defs
import Mathlib.Tactic.Abel

namespace Provisr.Backend.Policy

open Provisr.Foundation

section Order

-- ALLOW < WARN < REQUIRES_APPROVAL < DENY
def Decision.rank : Decision → Nat
  | .allow => 0
  | .warn => 1
  | .requiresApproval => 2
  | .deny => 3

theorem Decision.rank_injective : Function.Injective Decision.rank := by
  intro a b h
  cases a <;> cases b <;> first | rfl | cases h

instance : PartialOrder Decision := PartialOrder.lift Decision.rank Decision.rank_injective

theorem Decision.le_iff {a b : Decision} : a ≤ b ↔ a.rank ≤ b.rank := Iff.rfl

theorem Decision.allow_le (a : Decision) : Decision.allow ≤ a := Nat.zero_le a.rank

theorem Decision.le_deny (a : Decision) : a ≤ Decision.deny := by
  cases a <;> simp [Decision.le_iff, Decision.rank]

def demand (severity : String) : Decision :=
  if denySeverity severity then .deny
  else if approvalSeverity severity then .requiresApproval
  else if warnSeverity severity then .warn
  else .allow

def Demanded (vs : List Violation) : Set Decision := insert .allow { d | ∃ v ∈ vs, demand v.severity = d }

theorem demand_le_aggregate {vs : List Violation} {v : Violation} (mem : v ∈ vs) :
    demand v.severity ≤ AggregateDecision vs false := by
  unfold AggregateDecision
  split
  · exact Decision.le_deny _
  · rename_i noDeny
    have calm : denySeverity v.severity = false := by
      simp only [List.any_eq_true, not_exists, not_and, Bool.not_eq_true] at noDeny
      exact noDeny v mem
    rw [if_neg Bool.false_ne_true]
    split
    · simp only [demand, calm, Bool.false_eq_true, if_false]
      split
      · exact le_rfl
      · split <;> simp [Decision.le_iff, Decision.rank]
    · rename_i noApproval
      have mild : approvalSeverity v.severity = false := by
        simp only [List.any_eq_true, not_exists, not_and, Bool.not_eq_true] at noApproval
        exact noApproval v mem
      simp only [demand, calm, mild, Bool.false_eq_true, if_false]
      by_cases warned : warnSeverity v.severity = true
      · rw [if_pos warned, if_pos (List.any_eq_true.mpr ⟨v, mem, warned⟩)]
      · rw [if_neg warned]
        exact Decision.allow_le _

theorem aggregate_demanded (vs : List Violation) : AggregateDecision vs false ∈ Demanded vs := by
  unfold AggregateDecision
  split
  · rename_i denied
    obtain ⟨v, mem, severity⟩ := List.any_eq_true.mp denied
    exact .inr ⟨v, mem, by simp [demand, severity]⟩
  · rename_i noDeny
    simp only [List.any_eq_true, not_exists, not_and, Bool.not_eq_true] at noDeny
    rw [if_neg Bool.false_ne_true]
    split
    · rename_i approval
      obtain ⟨v, mem, severity⟩ := List.any_eq_true.mp approval
      exact .inr ⟨v, mem, by simp [demand, severity, noDeny v mem]⟩
    · rename_i noApproval
      simp only [List.any_eq_true, not_exists, not_and, Bool.not_eq_true] at noApproval
      split
      · rename_i warned
        obtain ⟨v, mem, severity⟩ := List.any_eq_true.mp warned
        exact .inr ⟨v, mem, by simp [demand, severity, noDeny v mem, noApproval v mem]⟩
      · exact .inl rfl

theorem aggregate_greatest (vs : List Violation) : IsGreatest (Demanded vs) (AggregateDecision vs false) := by
  refine ⟨aggregate_demanded vs, ?_⟩
  rintro d (rfl | ⟨v, mem, rfl⟩)
  · exact Decision.allow_le _
  · exact demand_le_aggregate mem

def Answered (vs ws : List Violation) : Prop := ∀ v ∈ vs, ∃ w ∈ ws, demand v.severity ≤ demand w.severity

section Answered

variable {us vs ws vs' ws' : List Violation}

theorem Answered.refl (vs : List Violation) : Answered vs vs := fun v mem => ⟨v, mem, le_rfl⟩

theorem Answered.trans (h : Answered us vs) (h' : Answered vs ws) : Answered us ws := by
  intro u mem
  obtain ⟨v, mem', le⟩ := h u mem
  obtain ⟨w, mem'', le'⟩ := h' v mem'
  exact ⟨w, mem'', le.trans le'⟩

theorem Answered.append (h : Answered vs ws) (h' : Answered vs' ws') : Answered (vs ++ vs') (ws ++ ws') := by
  intro v mem
  rcases List.mem_append.mp mem with left | right
  · obtain ⟨w, mem', le⟩ := h v left
    exact ⟨w, List.mem_append_left _ mem', le⟩
  · obtain ⟨w, mem', le⟩ := h' v right
    exact ⟨w, List.mem_append_right _ mem', le⟩

theorem Answered.aggregate (h : Answered vs ws) : AggregateDecision vs false ≤ AggregateDecision ws false := by
  rcases aggregate_demanded vs with none | ⟨v, mem, same⟩
  · rw [none]
    exact Decision.allow_le _
  · obtain ⟨w, mem', le⟩ := h v mem
    rw [← same]
    exact le.trans (demand_le_aggregate mem')

end Answered

def Violation.finding (v : Violation) : String × String := (v.ruleKey, v.severity)

def findings (vs : List Violation) : Multiset (String × String) := (vs : Multiset Violation).map Violation.finding

theorem mem_findings {vs : List Violation} {f : String × String} :
    f ∈ findings vs ↔ ∃ v ∈ vs, v.finding = f := by
  simp [findings]

theorem Answered.of_findings {vs ws : List Violation} (h : findings vs = findings ws) : Answered vs ws := by
  intro v mem
  obtain ⟨w, mem', same⟩ := mem_findings.mp (h ▸ mem_findings.mpr ⟨v, mem, rfl⟩)
  exact ⟨w, mem', by rw [show w.severity = v.severity from congrArg Prod.snd same]⟩

theorem aggregate_findings {vs ws : List Violation} (h : findings vs = findings ws) :
    AggregateDecision vs false = AggregateDecision ws false :=
  le_antisymm (Answered.of_findings h).aggregate (Answered.of_findings h.symm).aggregate

end Order

section Resources

variable [GoUnicode]

-- What the rules read of a resource. Its name is read by no rule and goes into the texts alone.
def NormalizedResource.unnamed (res : NormalizedResource) : NormalizedResource := { res with id := "" }

theorem SameFinding.finding {v w : Violation} (h : SameFinding v w) : v.finding = w.finding := by
  cases h <;> simp only [Violation.finding, Policy.publicACL, Policy.publicAccess, Policy.unencrypted,
    Policy.wildcardAction, Policy.outsideRegions, Policy.missingTag]

theorem SameFindings.findings {vs ws : List Violation} (h : SameFindings vs ws) : findings vs = findings ws := by
  have texts : vs.map Violation.finding = ws.map Violation.finding := by
    induction h with
    | nil => rfl
    | cons same _ ih => rw [List.map_cons, List.map_cons, same.finding, ih]
  simp [Policy.findings, texts]

def found (allowed required : List String) (res : NormalizedResource) : List Violation :=
  noPublicS3 res ++ requireEncryption res ++ iamNoWildcards res ++ regionViolation allowed (some res.id) res.region ++
    missingTags required res

theorem findings_found (allowed required : List String) (res : NormalizedResource) :
    findings (found allowed required res) = findings (found allowed required res.unnamed) := by
  have same : Renamed res res.unnamed := ⟨rfl, rfl, rfl⟩
  have found : SameFindings (found allowed required res) (found allowed required res.unnamed) :=
    (((same.noPublicS3.append same.requireEncryption).append same.iamNoWildcards).append
      (regionViolation_same ..)).append (same.missingTags _)
  exact found.findings

def overall (req : EvaluationRequest) : List Violation :=
  checkBudget (extractCost req.input) (maxBudget req.parameters) ++
    regionViolation (allowedRegions req.parameters) none (extractRegion req.input)

theorem violations_eq (req : EvaluationRequest) : Multiset.ofList (violations req) =
    (Multiset.ofList (extractResources req.input)).bind (fun res =>
      Multiset.ofList (found (allowedRegions req.parameters) (requiredTags req.parameters) res)) +
      Multiset.ofList (overall req) := by
  simp only [violations, checkNoPublicS3, checkRequireEncryption, checkIAMNoWildcards, checkAllowedRegions,
    checkRequiredTags, overall, found, ← Multiset.coe_add, ← Multiset.coe_bind, Multiset.bind_add]
  abel

theorem findings_violations (req : EvaluationRequest) : findings (violations req) =
    (Multiset.ofList ((extractResources req.input).map NormalizedResource.unnamed)).bind (fun res =>
      findings (found (allowedRegions req.parameters) (requiredTags req.parameters) res)) +
      findings (overall req) := by
  have own := Multiset.bind_congr (m := Multiset.ofList (extractResources req.input)) fun res _ =>
    findings_found (allowedRegions req.parameters) (requiredTags req.parameters) res
  calc findings (violations req)
      = (Multiset.ofList (extractResources req.input)).bind (fun res =>
          findings (found (allowedRegions req.parameters) (requiredTags req.parameters) res)) +
          findings (overall req) := by
        rw [findings, violations_eq, Multiset.map_add, Multiset.map_bind]
        rfl
    _ = _ := by rw [own, ← Multiset.map_coe, Multiset.bind_map]

end Resources

section Inputs

def object : JsJson → Option JsFields
  | .obj rMap => some rMap
  | _ => none

def objects (items : List JsJson) : List JsFields := items.filterMap object

theorem entries_unnamed (items : List JsJson) {read : JsFields → Nat → NormalizedResource}
    (same : ∀ rMap i, (read rMap i).unnamed = (read rMap 0).unnamed) :
    ((entries items).map fun (rMap, i) => read rMap i).map NormalizedResource.unnamed =
      (objects items).map fun rMap => (read rMap 0).unnamed := by
  have position : ∀ p : JsJson × Nat, ((match p.1 with
      | .obj rMap => some (rMap, p.2)
      | _ => none).map fun (rMap, i) => (read rMap i).unnamed) =
      ((object p.1).map fun rMap => (read rMap 0).unnamed) := by
    rintro ⟨raw, i⟩
    cases raw <;> simp [object, same]
  calc ((entries items).map fun (rMap, i) => read rMap i).map NormalizedResource.unnamed
      = items.zipIdx.filterMap fun p => (object p.1).map fun rMap => (read rMap 0).unnamed := by
        rw [List.map_map, entries, List.map_filterMap]
        exact List.filterMap_congr fun p _ => position p
    _ = (items.zipIdx.map Prod.fst).filterMap fun raw => (object raw).map fun rMap => (read rMap 0).unnamed := by
        rw [List.filterMap_map]
        rfl
    _ = (objects items).map fun rMap => (read rMap 0).unnamed := by
        rw [List.zipIdx_map_fst, objects, List.map_filterMap]

theorem extractResources_unnamed (input : JsFields) :
    (extractResources input).map NormalizedResource.unnamed =
      (objects (listAt input "resource_changes")).map (fun rMap => (planResource rMap 0).unnamed) ++
      (objects (listAt input "resources")).map (fun rMap => (manifestResource rMap 0).unnamed) ++
      (rootResource input).map NormalizedResource.unnamed := by
  rw [extractResources, List.map_append, List.map_append, entries_unnamed _ fun _ _ => rfl,
    entries_unnamed _ fun _ _ => rfl]

section Lookups

variable {a b : JsFields} {key : String}

theorem stringAt_congr (h : a.lookup key = b.lookup key) : stringAt a key = stringAt b key := by
  rw [stringAt, h, stringAt]

theorem mapAt_congr (h : a.lookup key = b.lookup key) : mapAt a key = mapAt b key := by
  rw [mapAt, h, mapAt]

theorem numberAt_congr (h : a.lookup key = b.lookup key) : numberAt a key = numberAt b key := by
  rw [numberAt, h, numberAt]

theorem rootResource_congr (type : a.lookup "resource_type" = b.lookup "resource_type")
    (values : a.lookup "planned_values" = b.lookup "planned_values") : rootResource a = rootResource b := by
  rw [rootResource, rootResource, stringAt_congr type, mapAt_congr values]

theorem extractRegion_congr (region : a.lookup "region" = b.lookup "region")
    (metadata : a.lookup "metadata" = b.lookup "metadata") : extractRegion a = extractRegion b := by
  rw [extractRegion, extractRegion, stringAt_congr region, mapAt_congr metadata]

theorem extractCost_congr (estimate : a.lookup "estimated_monthly_cost_usd" = b.lookup "estimated_monthly_cost_usd")
    (cost : a.lookup "cost" = b.lookup "cost") : extractCost a = extractCost b := by
  rw [extractCost, extractCost, numberAt_congr estimate, mapAt_congr cost]

end Lookups

structure Reordered (a b : JsFields) : Prop where
  changes : (listAt a "resource_changes").Perm (listAt b "resource_changes")
  resources : (listAt a "resources").Perm (listAt b "resources")
  others : ∀ key, key ≠ "resource_changes" → key ≠ "resources" → a.lookup key = b.lookup key

variable {a b : JsFields}

theorem Reordered.unnamed (h : Reordered a b) :
    ((extractResources a).map NormalizedResource.unnamed).Perm
      ((extractResources b).map NormalizedResource.unnamed) := by
  rw [extractResources_unnamed, extractResources_unnamed,
    rootResource_congr (h.others _ (by decide) (by decide)) (h.others _ (by decide) (by decide))]
  exact (((h.changes.filterMap object).map _).append ((h.resources.filterMap object).map _)).append_right _

theorem Reordered.cost (h : Reordered a b) : extractCost a = extractCost b :=
  extractCost_congr (h.others _ (by decide) (by decide)) (h.others _ (by decide) (by decide))

theorem Reordered.region (h : Reordered a b) : extractRegion a = extractRegion b :=
  extractRegion_congr (h.others _ (by decide) (by decide)) (h.others _ (by decide) (by decide))

variable [GoUnicode]

@[simp] theorem Evaluate_violations (req : EvaluationRequest) : (Evaluate req).violations = violations req := by
  rw [Evaluate]

@[simp] theorem Evaluate_decision (req : EvaluationRequest) :
    (Evaluate req).decision = AggregateDecision (violations req) false := by
  rw [Evaluate]

theorem Reordered.findings (h : Reordered a b) (parameters : JsFields) :
    findings (violations ⟨a, parameters⟩) = findings (violations ⟨b, parameters⟩) := by
  have same : overall ⟨a, parameters⟩ = overall ⟨b, parameters⟩ := by
    rw [overall, overall, h.cost, h.region]
  rw [findings_violations, findings_violations, same, Multiset.coe_eq_coe.mpr h.unnamed]

-- The decision is the strongest of what its violations ask for, and neither it nor what is found, but for the names of
-- the resources, depends on their order.
theorem decision_strongest (h : Reordered a b) (parameters : JsFields) :
    IsGreatest (Demanded (Evaluate ⟨a, parameters⟩).violations) (Evaluate ⟨a, parameters⟩).decision ∧
      findings (Evaluate ⟨a, parameters⟩).violations = findings (Evaluate ⟨b, parameters⟩).violations ∧
      (Evaluate ⟨a, parameters⟩).decision = (Evaluate ⟨b, parameters⟩).decision := by
  simp only [Evaluate_violations, Evaluate_decision]
  exact ⟨aggregate_greatest _, h.findings parameters, aggregate_findings (h.findings parameters)⟩

end Inputs

section Tightening

variable [GoUnicode] {allowed allowed' required required' : List String}

theorem allows_mono (fewer : allowed' ⊆ allowed) {region : String} (outside : allows allowed region = false) :
    allows allowed' region = false := by
  simp only [allows, List.contains_eq_mem, decide_eq_false_iff_not, List.mem_map, not_exists, not_and] at outside ⊢
  exact fun x mem => outside x (fewer mem)

theorem regionViolation_mono (fewer : allowed' ⊆ allowed) (id : Option String) (region : String) :
    Answered (regionViolation allowed id region) (regionViolation allowed' id region) := by
  intro v mem
  simp only [regionViolation] at mem ⊢
  split at mem
  · rename_i outside
    rw [if_pos ⟨outside.1, allows_mono fewer outside.2⟩]
    rw [List.mem_singleton.mp mem]
    exact ⟨_, List.mem_singleton_self _, le_rfl⟩
  · cases mem

theorem missingTags_mono (more : required ⊆ required') (res : NormalizedResource) :
    Answered (missingTags required res) (missingTags required' res) := by
  intro v mem
  refine ⟨v, ?_, le_rfl⟩
  simp only [missingTags] at mem ⊢
  split at mem
  · cases mem
  · rename_i tagged
    rw [if_neg tagged]
    obtain ⟨tag, missing, same⟩ := List.mem_map.mp mem
    obtain ⟨asked, absent⟩ := List.mem_filter.mp missing
    exact List.mem_map.mpr ⟨tag, List.mem_filter.mpr ⟨more asked, absent⟩, same⟩

theorem found_mono (fewer : allowed' ⊆ allowed) (more : required ⊆ required') (res : NormalizedResource) :
    Answered (found allowed required res) (found allowed' required' res) :=
  ((Answered.refl _).append (regionViolation_mono fewer _ _)).append (missingTags_mono more res)

def NoCheaper (cost cost' : JsNumber) : Prop :=
  cost.negative = true ∨ cost'.negative = false ∧ Float64.magnitude cost ≤ Float64.magnitude cost'

omit [GoUnicode] in
theorem checkBudget_mono {cost cost' limit limit' : JsNumber} (dearer : NoCheaper cost cost')
    (lower : Float64.magnitude limit' ≤ Float64.magnitude limit) :
    Answered (checkBudget cost limit) (checkBudget cost' limit') := by
  intro v mem
  simp only [checkBudget] at mem ⊢
  split at mem
  · rename_i unknown
    rcases dearer with negative | ⟨positive, more⟩
    · rw [unknown.1] at negative
      cases negative
    · rw [if_pos ⟨positive, by omega⟩, List.mem_singleton.mp mem]
      refine ⟨_, List.mem_singleton_self _, ?_⟩
      simp only [overBudget]
      split
      · rename_i double
        rw [if_pos (Float64.atLeast_mono more lower double)]
      · split <;> decide
  · cases mem

structure Grown (a b : JsFields) : Prop where
  changes : listAt a "resource_changes" ⊆ listAt b "resource_changes"
  resources : listAt a "resources" ⊆ listAt b "resources"
  cost : NoCheaper (extractCost a) (extractCost b)
  others : ∀ key, key ∉ ["resource_changes", "resources", "estimated_monthly_cost_usd", "cost"] →
    a.lookup key = b.lookup key

structure Tightened (p q : JsFields) : Prop where
  budget : Float64.magnitude (maxBudget q) ≤ Float64.magnitude (maxBudget p)
  regions : allowedRegions q ⊆ allowedRegions p
  tags : requiredTags p ⊆ requiredTags q

variable {a b p q : JsFields}

omit [GoUnicode] in
theorem Grown.unnamed (h : Grown a b) :
    (extractResources a).map NormalizedResource.unnamed ⊆ (extractResources b).map NormalizedResource.unnamed := by
  have read : ∀ {xs ys : List JsJson} (f : JsFields → NormalizedResource), xs ⊆ ys →
      (objects xs).map f ⊆ (objects ys).map f :=
    fun f sub => List.map_subset f (List.filterMap_subset object sub)
  rw [extractResources_unnamed, extractResources_unnamed,
    rootResource_congr (h.others _ (by decide)) (h.others _ (by decide))]
  intro res mem
  simp only [List.mem_append] at mem ⊢
  exact mem.imp_left (Or.imp (@read _ _ _ h.changes _) (@read _ _ _ h.resources _))

theorem violations_answered (h : Grown a b) (t : Tightened p q) :
    Answered (violations ⟨a, p⟩) (violations ⟨b, q⟩) := by
  have region : extractRegion a = extractRegion b :=
    extractRegion_congr (h.others _ (by decide)) (h.others _ (by decide))
  have whole : Answered (overall ⟨a, p⟩) (overall ⟨b, q⟩) := by
    simp only [overall, region]
    exact (checkBudget_mono h.cost t.budget).append (regionViolation_mono t.regions _ _)
  intro v mem
  have split : v ∈ Multiset.ofList (violations ⟨a, p⟩) := mem
  rw [violations_eq, Multiset.mem_add] at split
  have enough : ∀ w ∈ Multiset.ofList (violations ⟨b, q⟩), demand v.severity ≤ demand w.severity →
      ∃ w ∈ violations ⟨b, q⟩, demand v.severity ≤ demand w.severity := fun w mem le => ⟨w, mem, le⟩
  rw [violations_eq] at enough
  rcases split with own | general
  · obtain ⟨res, hres, hv⟩ := Multiset.mem_bind.mp own
    obtain ⟨res', hres', same⟩ := List.mem_map.mp (h.unnamed (List.mem_map_of_mem hres))
    have renamed : findings (found (allowedRegions q) (requiredTags q) res) =
        findings (found (allowedRegions q) (requiredTags q) res') := by
      rw [findings_found, ← same, ← findings_found]
    obtain ⟨w, hw, le⟩ := ((found_mono t.regions t.tags res).trans (.of_findings renamed)) v hv
    exact enough w (Multiset.mem_add.mpr (.inl (Multiset.mem_bind.mpr ⟨res', hres', hw⟩))) le
  · obtain ⟨w, hw, le⟩ := whole v general
    exact enough w (Multiset.mem_add.mpr (.inr hw)) le

-- Neither more resources, a higher cost nor stricter parameters weaken the decision.
theorem decision_mono (h : Grown a b) (t : Tightened p q) :
    (Evaluate ⟨a, p⟩).decision ≤ (Evaluate ⟨b, q⟩).decision := by
  simp only [Evaluate_decision]
  exact (violations_answered h t).aggregate

end Tightening

section Volumes

def listed (rs : List JsFields) : JsFields := [("region", .str "us-east-1"), ("resources", .arr (rs.map .obj))]

def plainVolume (encrypted : Bool) : JsFields :=
  [("id", .str "vol-1"), ("properties", .obj [("encrypted", .bool encrypted)]), ("type", .str "aws_ebs_volume")]

theorem reordered_listed {rs ss : List JsFields} (h : rs.Perm ss) : Reordered (listed rs) (listed ss) := by
  refine ⟨.refl _, h.map _, fun key _ other => ?_⟩
  simp [listed, List.lookup_cons, beq_false_of_ne other]

theorem decision_strongest_volumes :
    letI := Approval.asciiTables
    (Evaluate ⟨listed [plainVolume true, plainVolume false], []⟩).decision = .deny ∧
      (Evaluate ⟨listed [plainVolume true, plainVolume false], []⟩).decision =
        (Evaluate ⟨listed [plainVolume false, plainVolume true], []⟩).decision := by
  let _ := Approval.asciiTables
  exact ⟨by decide +kernel, (decision_strongest (reordered_listed (.swap ..)) []).2.2⟩

def strictParameters : JsFields :=
  [("max_usd", .num (JsNumber.ofNat 500)), ("regions", .arr [.str "us-east-1"]),
    ("tags", .arr [.str "Environment", .str "Owner", .str "Team"])]

theorem decision_mono_volumes :
    letI := Approval.asciiTables
    (Evaluate ⟨listed [plainVolume true], []⟩).decision = .warn ∧
      (Evaluate ⟨listed [plainVolume true], []⟩).decision ≤
        (Evaluate ⟨listed [plainVolume false, plainVolume true], strictParameters⟩).decision := by
  let _ := Approval.asciiTables
  refine ⟨by decide +kernel, decision_mono ⟨?_, ?_, ?_, ?_⟩ ⟨?_, ?_, ?_⟩⟩
  · exact List.nil_subset _
  · exact List.subset_cons_self _ _
  · exact .inr ⟨rfl, le_rfl⟩
  · intro key other
    have apart : key ≠ "resources" := fun same => other (by simp [same])
    simp [listed, List.lookup_cons, beq_false_of_ne apart]
  · decide +kernel
  · decide
  · decide

end Volumes

end Provisr.Backend.Policy
