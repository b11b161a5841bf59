import Provisr.Backend.PolicyEvaluator
import Provisr.Backend.ApprovalOrder
import Mathlib.Data.List.Forall2

namespace Provisr.Backend.Policy

open Provisr.Foundation

structure CreatedResource where
  type : String
  name : String
  region : String
  properties : JsFields

-- An entry of resource_changes, wherever it names the region.
structure PlanEntry (r : CreatedResource) (entry : JsFields) : Prop where
  type : stringAt entry "type" = r.type
  name : stringAt entry "name" = r.name
  after : ∃ change, mapAt entry "change" = some change ∧ mapAt change "after" = some r.properties

def asPlan (entry : JsFields) : JsFields := [("resource_changes", .arr [.obj entry])]

def asElement (r : CreatedResource) : JsFields :=
  [("resources", .arr [.obj [("type", .str r.type), ("name", .str r.name), ("region", .str r.region),
    ("properties", .obj r.properties)]])]

def asSingle (r : CreatedResource) : JsFields :=
  [("resource_type", .str r.type), ("name", .str r.name), ("region", .str r.region),
    ("planned_values", .obj r.properties)]

section Findings

variable [GoUnicode]

def evaluated (input parameters : JsFields) : List Violation := (Evaluate ⟨input, parameters⟩).violations

inductive SameFinding : Violation → Violation → Prop
  | publicACL (id id' acl : String) : SameFinding (publicACL id acl) (publicACL id' acl)
  | publicAccess (id id' : String) : SameFinding (publicAccess id) (publicAccess id')
  | unencrypted (id id' type : String) : SameFinding (unencrypted id type) (unencrypted id' type)
  | wildcardAction (id id' : String) : SameFinding (wildcardAction id) (wildcardAction id')
  | overBudget (severity : String) (cost maxBudget : Nat) :
      SameFinding (overBudget severity cost maxBudget) (overBudget severity cost maxBudget)
  | outsideRegions (id id' : Option String) (region : String) (allowedRegions : List String) :
      SameFinding (outsideRegions id region allowedRegions) (outsideRegions id' region allowedRegions)
  | missingTag (id id' tag : String) : SameFinding (missingTag id tag) (missingTag id' tag)

def SameFindings : List Violation → List Violation → Prop := List.Forall₂ SameFinding

theorem SameFindings.append {vs vs' ws ws' : List Violation} (h : SameFindings vs ws) (h' : SameFindings vs' ws') :
    SameFindings (vs ++ vs') (ws ++ ws') := List.rel_append h h'

variable {a b : NormalizedResource}

structure Renamed (a b : NormalizedResource) : Prop where
  type : a.type = b.type
  properties : a.properties = b.properties
  tags : a.tags = b.tags

theorem Renamed.noPublicS3 (h : Renamed a b) : SameFindings (noPublicS3 a) (noPublicS3 b) := by
  unfold Policy.noPublicS3
  rw [h.type, h.properties]
  dsimp only
  split
  · refine SameFindings.append ?_ ?_
    · split
      · exact .cons (.publicACL ..) .nil
      · exact .nil
    · split
      · exact .cons (.publicAccess ..) .nil
      · exact .nil
  · exact .nil

theorem Renamed.requireEncryption (h : Renamed a b) : SameFindings (requireEncryption a) (requireEncryption b) := by
  unfold Policy.requireEncryption
  rw [h.type, h.properties]
  split
  · split
    · exact .cons (.unencrypted ..) .nil
    · exact .nil
  · exact .nil

theorem Renamed.iamNoWildcards (h : Renamed a b) : SameFindings (iamNoWildcards a) (iamNoWildcards b) := by
  unfold Policy.iamNoWildcards
  rw [h.type, h.properties]
  split
  · exact .cons (.wildcardAction ..) .nil
  · exact .nil

theorem Renamed.missingTags (h : Renamed a b) (requiredTags : List String) :
    SameFindings (missingTags requiredTags a) (missingTags requiredTags b) := by
  unfold Policy.missingTags
  rw [h.type, h.tags]
  dsimp only
  split
  · exact .nil
  · refine List.forall₂_map_left_iff.mpr (List.forall₂_map_right_iff.mpr ?_)
    exact List.forall₂_same.mpr fun tag _ => .missingTag ..

theorem regionViolation_same (allowed : List String) (id id' : Option String) (region : String) :
    SameFindings (regionViolation allowed id region) (regionViolation allowed id' region) := by
  unfold regionViolation
  split
  · exact .cons (.outsideRegions ..) .nil
  · exact .nil

def around (parameters : JsFields) (res : NormalizedResource) (regions : List Violation) : List Violation :=
  Policy.noPublicS3 res ++ Policy.requireEncryption res ++ Policy.iamNoWildcards res ++ regions ++
    Policy.missingTags (requiredTags parameters) res

variable {parameters entry : JsFields} {r : CreatedResource} {regions regions' : List Violation}

theorem Renamed.around (h : Renamed a b) (parameters : JsFields) (same : SameFindings regions regions') :
    SameFindings (around parameters a regions) (around parameters b regions') :=
  (((h.noPublicS3.append h.requireEncryption).append h.iamNoWildcards).append same).append (h.missingTags _)

theorem around_length (parameters : JsFields) (res : NormalizedResource) (regions : List Violation) :
    (Policy.around parameters res regions).length = (Policy.around parameters res []).length + regions.length := by
  simp only [Policy.around, List.length_append, List.length_nil]
  omega

theorem around_untyped (untyped : a.type = "") : Policy.around parameters a regions = regions := by
  have lower : ToLower "" = "" := rfl
  have s3 : Policy.noPublicS3 a = [] := by
    unfold Policy.noPublicS3
    rw [untyped, lower]
    exact if_neg (by decide)
  have encryption : Policy.requireEncryption a = [] := by
    unfold Policy.requireEncryption
    rw [untyped, lower]
    exact if_neg (by decide)
  have iam : Policy.iamNoWildcards a = [] := by
    unfold Policy.iamNoWildcards
    rw [untyped, lower, show isPolicy "" = false from by decide]
    rfl
  have tags : Policy.missingTags (requiredTags parameters) a = [] := by
    unfold Policy.missingTags
    rw [untyped, lower]
    exact if_pos (by decide)
  rw [Policy.around, s3, encryption, iam, tags, List.nil_append, List.nil_append, List.nil_append, List.append_nil]

omit [GoUnicode] in
theorem magnitude_zero : Float64.magnitude 0 = 0 := by
  have digits : (0 : JsNumber).digits = [] := rfl
  have point : (0 : JsNumber).point = 0 := rfl
  unfold Float64.magnitude
  dsimp only
  rw [digits, point, Nat.ofDigitChars_nil, Nat.zero_mul]
  simp [Float64.round, Float64.roundHalfEven]

omit [GoUnicode] in
theorem checkBudget_zero (limit : JsNumber) : checkBudget 0 limit = [] := by
  unfold checkBudget
  dsimp only
  rw [magnitude_zero]
  exact if_neg fun h => Nat.not_lt_zero _ h.2

theorem regionViolation_blank (allowed : List String) (id : Option String) : regionViolation allowed id "" = [] :=
  if_neg fun h => h.1 rfl

theorem regionViolation_length (allowed : List String) (id : Option String) (region : String) :
    (regionViolation allowed id region).length = 0 ↔ region = "" ∨ allows allowed region = true := by
  unfold regionViolation
  split
  · rename_i outside
    refine iff_of_false (by simp) ?_
    rintro (blank | allowed)
    · exact outside.1 blank
    · rw [outside.2] at allowed
      cases allowed
  · rename_i inside
    refine iff_of_true rfl ?_
    by_cases blank : region = ""
    · exact .inl blank
    · exact .inr (Bool.eq_true_of_not_eq_false fun outside => inside ⟨blank, outside⟩)

def CreatedResource.normalized (r : CreatedResource) (id region : String) : NormalizedResource :=
  ⟨id, r.type, region, r.properties, extractTagsMap (r.properties.lookup "tags")⟩

omit [GoUnicode] in
theorem CreatedResource.renamed (r : CreatedResource) (id id' region region' : String) :
    Renamed (r.normalized id region) (r.normalized id' region') := ⟨rfl, rfl, rfl⟩

theorem violations_around {input : JsFields} (parameters : JsFields) (found : extractResources input = [a])
    (free : extractCost input = 0) : violations ⟨input, parameters⟩ = Policy.around parameters a
      (regionViolation (allowedRegions parameters) none (extractRegion input) ++
        regionViolation (allowedRegions parameters) (some a.id) a.region) := by
  unfold violations
  dsimp only
  rw [found, free, checkBudget_zero]
  simp [checkNoPublicS3, checkRequireEncryption, checkIAMNoWildcards, checkAllowedRegions, checkRequiredTags,
    Policy.around]

theorem violations_plan (h : PlanEntry r entry) (parameters : JsFields) :
    ∃ id, violations ⟨asPlan entry, parameters⟩ = Policy.around parameters (r.normalized id "") [] := by
  obtain ⟨change, changed, after⟩ := h.after
  have only : extractResources (asPlan entry) = [planResource entry 0] := rfl
  have found : extractResources (asPlan entry) =
      [r.normalized (if r.name = "" then "res_0" else r.name) ""] := by
    rw [only, planResource, h.type, h.name, changed, Option.bind_some, after]
    rfl
  refine ⟨if r.name = "" then "res_0" else r.name, ?_⟩
  rw [violations_around parameters found rfl, show extractRegion (asPlan entry) = "" from rfl,
    CreatedResource.normalized, regionViolation_blank, regionViolation_blank]
  rfl

theorem violations_element (r : CreatedResource) (parameters : JsFields) :
    ∃ id, violations ⟨asElement r, parameters⟩ = Policy.around parameters (r.normalized id r.region)
      (regionViolation (allowedRegions parameters) (some id) r.region) := by
  have found : extractResources (asElement r) =
      [r.normalized (if r.name = "" then "manifest_res_0" else r.name) r.region] := rfl
  refine ⟨if r.name = "" then "manifest_res_0" else r.name, ?_⟩
  rw [violations_around parameters found rfl, show extractRegion (asElement r) = "" from rfl, regionViolation_blank]
  rfl

theorem violations_single (r : CreatedResource) (parameters : JsFields) :
    violations ⟨asSingle r, parameters⟩ = Policy.around parameters (r.normalized "root_resource" "")
      (regionViolation (allowedRegions parameters) none r.region) := by
  have region : extractRegion (asSingle r) = r.region := by
    have given : stringAt (asSingle r) "region" = r.region := rfl
    unfold extractRegion
    rw [given]
    split
    · rfl
    · rename_i blank
      exact (not_not.mp blank).symm
  have found : extractResources (asSingle r) =
      if r.type = "" then [] else [r.normalized "root_resource" ""] := rfl
  by_cases untyped : r.type = ""
  · rw [if_pos untyped] at found
    rw [around_untyped untyped]
    unfold violations
    dsimp only
    rw [found, show extractCost (asSingle r) = 0 from rfl, region, checkBudget_zero]
    simp [checkNoPublicS3, checkRequireEncryption, checkIAMNoWildcards, checkAllowedRegions, checkRequiredTags]
  · rw [if_neg untyped] at found
    rw [violations_around parameters found rfl, region, CreatedResource.normalized, regionViolation_blank,
      List.append_nil]

-- A plan keeps no region: its rule finds nothing there that it finds in the other shapes.
theorem within_of_same (h : PlanEntry r entry)
    (same : SameFindings (violations ⟨asPlan entry, parameters⟩) (violations ⟨asElement r, parameters⟩)) :
    r.region = "" ∨ allows (allowedRegions parameters) r.region = true := by
  obtain ⟨id, plan⟩ := violations_plan h parameters
  obtain ⟨id', element⟩ := violations_element r parameters
  rw [plan, element] at same
  have lengths := same.length_eq
  have more := around_length parameters (r.normalized id' r.region)
    (regionViolation (allowedRegions parameters) (some id') r.region)
  have own := ((r.renamed id id' "" r.region).around parameters .nil).length_eq
  exact (regionViolation_length _ (some id') _).mp (by omega)

theorem element_single (r : CreatedResource) (parameters : JsFields) :
    SameFindings (violations ⟨asElement r, parameters⟩) (violations ⟨asSingle r, parameters⟩) := by
  obtain ⟨id, element⟩ := violations_element r parameters
  rw [element, violations_single]
  exact (r.renamed ..).around _ (regionViolation_same ..)

theorem plan_element (h : PlanEntry r entry)
    (within : r.region = "" ∨ allows (allowedRegions parameters) r.region = true) :
    SameFindings (violations ⟨asPlan entry, parameters⟩) (violations ⟨asElement r, parameters⟩) := by
  obtain ⟨id, plan⟩ := violations_plan h parameters
  obtain ⟨id', element⟩ := violations_element r parameters
  rw [plan, element, List.length_eq_zero_iff.mp ((regionViolation_length ..).mpr within)]
  exact (r.renamed ..).around _ .nil

theorem plan_single (h : PlanEntry r entry)
    (within : r.region = "" ∨ allows (allowedRegions parameters) r.region = true) :
    SameFindings (violations ⟨asPlan entry, parameters⟩) (violations ⟨asSingle r, parameters⟩) := by
  obtain ⟨id, plan⟩ := violations_plan h parameters
  rw [plan, violations_single, List.length_eq_zero_iff.mp ((regionViolation_length ..).mpr within)]
  exact (r.renamed ..).around _ .nil

theorem shapes_agree_iff (h : PlanEntry r entry) (parameters : JsFields) :
    (SameFindings (evaluated (asPlan entry) parameters) (evaluated (asElement r) parameters) ∧
      SameFindings (evaluated (asPlan entry) parameters) (evaluated (asSingle r) parameters) ∧
      SameFindings (evaluated (asElement r) parameters) (evaluated (asSingle r) parameters)) ↔
      r.region = "" ∨ allows (allowedRegions parameters) r.region = true := by
  constructor
  · rintro ⟨same, -, -⟩
    exact within_of_same h same
  · intro within
    exact ⟨plan_element h within, plan_single h within, element_single r parameters⟩

end Findings

section Volume

def volume (region : String) : CreatedResource where
  type := "aws_ebs_volume"
  name := "data"
  region := region
  properties := [("encrypted", .bool true),
    ("tags", .obj [("Environment", .str "prod"), ("Owner", .str "platform-team")])]

def volumeEntry (region : String) : JsFields :=
  [("change", .obj [("actions", .arr [.str "create"]), ("after", .obj (volume region).properties)]),
    ("name", .str "data"), ("region", .str region), ("type", .str "aws_ebs_volume")]

theorem volumeEntry_plan (region : String) : PlanEntry (volume region) (volumeEntry region) :=
  ⟨rfl, rfl, _, rfl, rfl⟩

theorem shapes_disagree :
    letI := Approval.asciiTables
    PlanEntry (volume "ap-south-1") (volumeEntry "ap-south-1") ∧
      ¬ SameFindings (evaluated (asPlan (volumeEntry "ap-south-1")) [])
        (evaluated (asElement (volume "ap-south-1")) []) := by
  let _ := Approval.asciiTables
  refine ⟨volumeEntry_plan _, fun same => ?_⟩
  exact absurd (within_of_same (volumeEntry_plan "ap-south-1") same) (by decide)

theorem shapes_agree_east :
    letI := Approval.asciiTables
    SameFindings (evaluated (asPlan (volumeEntry "us-east-1")) [])
        (evaluated (asElement (volume "us-east-1")) []) ∧
      SameFindings (evaluated (asPlan (volumeEntry "us-east-1")) [])
        (evaluated (asSingle (volume "us-east-1")) []) ∧
      SameFindings (evaluated (asElement (volume "us-east-1")) [])
        (evaluated (asSingle (volume "us-east-1")) []) := by
  let _ := Approval.asciiTables
  exact (shapes_agree_iff (volumeEntry_plan "us-east-1") []).mpr (.inr (by decide))

end Volume

end Provisr.Backend.Policy
