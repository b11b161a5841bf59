import Provisr.Contracts.Manifest
import Provisr.Orchestrator.Components
import Provisr.Foundation.Exceptional
import Provisr.Foundation.Sublists

namespace Provisr.Orchestrator

open Provisr.Foundation Zod JsSchema

section Schemas

-- `Number(value)`, nothing where it is NaN.
class JsCoercion where
  number : Option JsJson → Option JsNumber

variable [JsCoercion]

def coerceNumber : JsSchema := fun j =>
  match JsCoercion.number j with
  | some n => .ok (some (.num n))
  | none => invalidType

def numberAt (out : Option JsJson) (k : String) : Option JsNumber :=
  match out with
  | some (.obj fs) =>
    match fs.lookup k with
    | some (.num n) => some n
    | _ => none
  | _ => none

def atMost (m n : JsNumber) : Bool := decide (PyFloat.ratOf m ≤ PyFloat.ratOf n)

def isPositive (n : JsNumber) : Bool := !n.negative && !n.digits.isEmpty

-- The refinement min <= max
def orderedScaling (out : Option JsJson) : Bool :=
  match numberAt out "min", numberAt out "max" with
  | some low, some high => atMost low high
  | _, _ => false

def orderedStorage (out : Option JsJson) : Bool :=
  match numberAt out "maxAllocatedStorageGb", numberAt out "allocatedStorageGb" with
  | some high, some low => atMost low high
  | _, _ => true

def autoScalingSchema : JsSchema := check orderedScaling "custom" (shape
  [("min", coerceNumber), ("max", coerceNumber), ("desired", opt coerceNumber),
    ("targetCpuUtilization", opt coerceNumber)])

def computePlanFields : List (String × JsSchema) :=
  [("service", text), ("provider", opt (oneOf ["aws", "azure", "gcp"])), ("instanceType", opt text),
    ("replicaCount", dflt (.num 1) numeric), ("autoScaling", opt autoScalingSchema), ("os", opt text),
    ("architecture", opt (oneOf ["x86_64", "arm64"])), ("vcpu", opt coerceNumber), ("memoryGb", opt coerceNumber),
    ("hourlyCostUsd", opt coerceNumber), ("monthlyCostUsd", opt coerceNumber),
    ("reservation", opt (oneOf ["reserved", "on-demand", "spot"])), ("policyNotes", opt (items text))]

def computePlanSchema : JsSchema := shape computePlanFields

def databaseConfigFields : List (String × JsSchema) :=
  [("engine", nonemptyText), ("version", opt text), ("instanceClass", opt text),
    ("allocatedStorageGb", numericOf isPositive "too_small"),
    ("maxAllocatedStorageGb", opt (numericOf isPositive "too_small")), ("storageType", opt text),
    ("multiAz", dflt (.bool false) flag),
    ("backupRetentionDays", map (fun n => some (.num n)) (nonnegative integer)),
    ("maintenanceWindow", opt text), ("storageEncrypted", flag), ("publiclyAccessible", flag),
    ("deletionProtection", flag)]

def databaseConfigSchema : JsSchema := check orderedStorage "custom" (shape databaseConfigFields)

theorem computePlan_distinct : (computePlanFields.map Prod.fst).Nodup := by
  simp only [computePlanFields, List.map_cons, List.map_nil]
  decide

class OtherComponents where
  schema : String → Option JsSchema

instance [OtherComponents] : ComponentRegistry where
  schema id :=
    if id = "compute_plan" then some computePlanSchema
    else if id = "database_config" then some databaseConfigSchema
    else OtherComponents.schema id

end Schemas

section Settled

variable {s : JsSchema} {given : JsFields}

def Settled (s : JsSchema) (j : Option JsJson) : Prop := ∃ r, s j = .ok r ∧ s r = .ok r

def Kept (s : JsSchema) (j : JsJson) : Prop := ∃ v, s (some j) = .ok (some v) ∧ s (some v) = .ok (some v)

theorem Kept.settled {j : JsJson} (kept : Kept s j) : Settled s (some j) := by
  obtain ⟨v, run, again⟩ := kept
  exact ⟨some v, run, again⟩

theorem kept_text (t : String) : Kept text (.str t) := ⟨_, rfl, rfl⟩

theorem kept_numeric (n : JsNumber) : Kept numeric (.num n) := ⟨_, rfl, rfl⟩

theorem kept_flag (b : Bool) : Kept flag (.bool b) := ⟨_, rfl, rfl⟩

theorem kept_nonempty {t : String} (length : 1 ≤ JsText.length t) : Kept nonemptyText (.str t) := by
  have run : nonemptyText (some (.str t)) = .ok (some (.str t)) :=
    map_ok_iff.mpr ⟨t, check_ok_iff.mpr ⟨rfl, decide_eq_true length⟩, rfl⟩
  exact ⟨_, run, run⟩

theorem kept_opt {j : JsJson} (kept : Kept s j) : Kept (opt s) j := by
  obtain ⟨v, run, again⟩ := kept
  have opt_eq : ∀ w r, s (some w) = .ok r → opt s (some w) = .ok r := by
    intro w r run
    refine map_ok_iff.mpr ⟨some r, ?_, rfl⟩
    simp only [Zod.optional, run]
    rfl
  exact ⟨v, opt_eq j _ run, opt_eq v _ again⟩

theorem kept_dflt {d j : JsJson} (kept : Kept s j) : Kept (dflt d s) j := kept

theorem settled_opt_none : Settled (opt s) none := ⟨none, rfl, rfl⟩

theorem settled_dflt_none {d : JsJson} (self : s (some d) = .ok (some d)) : Settled (dflt d s) none :=
  ⟨some d, rfl, self⟩

theorem kept_items {xs : List JsJson} (each : ∀ x ∈ xs, Kept s x) : Kept (items s) (.arr xs) := by
  have lists : ∃ vs : List JsJson, elements s xs = .ok (vs.map some) ∧ elements s vs = .ok (vs.map some) := by
    induction xs with
    | nil => exact ⟨[], rfl, rfl⟩
    | cons x xs ih =>
      obtain ⟨v, run, again⟩ := each x List.mem_cons_self
      obtain ⟨vs, rest, restAgain⟩ := ih fun y mem => each y (List.mem_cons_of_mem _ mem)
      rw [elements_ok_iff] at rest restAgain
      exact ⟨v :: vs, elements_ok_iff.mpr (.cons run rest), elements_ok_iff.mpr (.cons again restAgain)⟩
  obtain ⟨vs, run, again⟩ := lists
  have back : (vs.map some).filterMap id = vs := by simp
  refine ⟨.arr vs, map_ok_iff.mpr ⟨_, array_ok_iff.mpr run, by rw [back]⟩, map_ok_iff.mpr ⟨_, array_ok_iff.mpr again, by rw [back]⟩⟩

theorem shapeFields_settled {fields : List (String × JsSchema)} (distinct : (fields.map Prod.fst).Nodup)
    (settled : ∀ f ∈ fields, Settled f.2 (given.lookup f.1)) :
    ∃ out, shapeFields given fields = .ok out ∧ (∀ e ∈ out, e.1 ∈ fields.map Prod.fst) ∧
      ∀ view, (∀ k ∈ fields.map Prod.fst, view.lookup k = out.lookup k) → shapeFields view fields = .ok out := by
  induction fields with
  | nil => exact ⟨[], rfl, nofun, fun _ _ => rfl⟩
  | cons f fields ih =>
    obtain ⟨k, s⟩ := f
    rw [List.map_cons, List.nodup_cons] at distinct
    obtain ⟨out, run, known, again⟩ := ih distinct.2 fun f mem => settled f (List.mem_cons_of_mem _ mem)
    obtain ⟨r, read, reread⟩ := settled (k, s) List.mem_cons_self
    have absent : out.lookup k = none := by
      rw [List.lookup_eq_none_iff]
      intro e mem
      rw [bne_iff_ne]
      rintro rfl
      exact distinct.1 (known e mem)
    have joined : ∀ view, s (view.lookup k) = .ok r → shapeFields view fields = .ok out →
        shapeFields view ((k, s) :: fields) = .ok (r.toList.map (fun v => (k, v)) ++ out) := by
      intro view first rest
      have together : both (s (view.lookup k)) (shapeFields view fields) = .ok (r, out) := both_ok_iff.mpr ⟨first, rest⟩
      simp only [shapeFields, together]
      cases r <;> rfl
    refine ⟨_, joined given read run, ?_, fun view same => joined view ?_ (again view fun l mem => ?_)⟩
    · intro e mem
      rcases List.mem_append.mp mem with first | rest
      · obtain ⟨v, -, rfl⟩ := List.mem_map.mp first
        exact List.mem_cons_self
      · exact List.mem_cons_of_mem _ (known e rest)
    · have here : view.lookup k = r := by
        rw [same k List.mem_cons_self, List.lookup_append, absent]
        cases r <;> simp
      rw [here]
      exact reread
    · rw [same l (List.mem_cons_of_mem _ mem), List.lookup_append]
      have other : l ≠ k := by
        rintro rfl
        exact distinct.1 mem
      cases r <;> simp [List.lookup_cons, beq_false_of_ne other]

theorem kept_shape {fields : List (String × JsSchema)} (distinct : (fields.map Prod.fst).Nodup)
    (settled : ∀ f ∈ fields, Settled f.2 (given.lookup f.1)) : Kept (shape fields) (.obj given) := by
  obtain ⟨out, run, -, again⟩ := shapeFields_settled distinct settled
  refine ⟨.obj out, ?_, ?_⟩
  · simp only [shape, object, run]
    rfl
  · simp only [shape, object, again out fun _ _ => rfl]
    rfl

theorem shapeFields_field {fields : List (String × JsSchema)} {out : JsFields}
    (run : shapeFields given fields = .ok out) {f : String × JsSchema} (mem : f ∈ fields) : ∃ r, f.2 (given.lookup f.1) = .ok r := by
  induction fields generalizing out with
  | nil => cases mem
  | cons g fields ih =>
    obtain ⟨p, joined, -⟩ := checkedMap_ok_iff.mp run
    obtain ⟨first, rest⟩ := both_ok joined
    rcases List.mem_cons.mp mem with rfl | mem
    · exact ⟨_, first⟩
    · exact ih rest mem

theorem shape_field {fields : List (String × JsSchema)} {r : Option JsJson}
    (run : shape fields (some (.obj given)) = .ok r) {f : String × JsSchema} (mem : f ∈ fields) :
    ∃ r, f.2 (given.lookup f.1) = .ok r := by
  obtain ⟨out, read, -⟩ := checkedMap_ok_iff.mp run
  exact shapeFields_field read mem

theorem property_other {k l : String} {v : Option JsJson} (other : l ≠ k) : (property k v).lookup l = none := by
  cases v with
  | none => rfl
  | some v => simp [property, List.lookup_cons, beq_false_of_ne other]

variable [ComponentRegistry]

def Passes (c : JsJson) : Prop := ∃ requestId type data s,
  c = .obj [("type", .str type), ("version", .str "1.0.0"), ("requestId", .str requestId), ("data", data)] ∧
    componentSchema type = some s ∧ s (some data) = .ok (some data)

theorem component_passes {type : String} {s : JsSchema} {data : JsFields} (requestId : String)
    (registered : componentSchema type = some s) (kept : Kept s (.obj data)) :
    ∃ c, component requestId type data = .ok c ∧ Passes c := by
  obtain ⟨v, run, again⟩ := kept
  refine ⟨_, ?_, requestId, type, v, s, rfl, registered, again⟩
  simp only [component, validateComponent, registered, run, if_pos]
  rfl

end Settled

section Names

open Contracts

theorem nonempty_of_nonblank {s : String} (holds : nonblank s = true) : s ≠ "" := by
  rintro rfl
  revert holds
  decide

theorem textual_nonempty {low : Nat} {high : Option Nat} {pattern : String → Bool} {s : String}
    (holds : textual low high pattern s = true) : s ≠ "" :=
  nonempty_of_nonblank (Bool.and_eq_true_iff.mp holds).2

theorem lengthIn_nonempty {low high : Nat} {s : String} (holds : lengthIn (low + 1) high s = true) : s ≠ "" := by
  rintro rfl
  simp [lengthIn] at holds

theorem indexName_kept (version index : Nat) : Kept nonemptyText (indexName version index) := by
  refine kept_nonempty (JsText.one_le_length fun empty => ?_)
  have long := congrArg String.length empty
  simp [String.length_append] at long

theorem label_nonempty (p : Contracts.Provider) : p.label ≠ "" := by cases p <;> decide

variable [PyUnicode]

def isDatabase (r : Resource) : Bool := r.type == "aws_rds"

theorem name_nonempty (r : Resource) : r.name ≠ "" := by
  cases r with
  | ec2 r | rds r | s3 r => exact lengthIn_nonempty (Bool.and_eq_true_iff.mp r.name.property).1
  | awsLogGroup r => exact textual_nonempty (Bool.and_eq_true_iff.mp r.name.property).1
  | awsAlarm r | azureMetric r | gcpMetric r | gcpAlarm r => exact textual_nonempty r.val.name.property
  | awsMetric r | azureLogWorkspace r | azureAlarm r | gcpLogBucket r => exact textual_nonempty r.name.property

theorem type_nonempty (r : Resource) : r.type ≠ "" := by cases r <;> simp [Resource.type]

variable [Pydantic]

theorem modelFields_name (r : Resource) : r.modelFields.lookup "name" = some (.str r.name) := by cases r <;> rfl

theorem modelFields_type (r : Resource) : r.modelFields.lookup "type" = some (.str r.type) := by cases r <;> rfl

theorem modelFields_logicalName (r : Resource) : r.modelFields.lookup "logical_name" = none := by cases r <;> rfl

end Names

section Received

open Contracts

-- How the numbers of a manifest are written as JSON and read back.
class NumberText where
  int : Int → JsNumber
  float : PyFloat → JsJson

variable [NumberText]

mutual

def received : PyValue → JsJson
  | .none | .other _ => .null
  | .bool b => .bool b
  | .int n => .num (NumberText.int n)
  | .float x => NumberText.float x
  | .str s | .uuid s => .str s
  | .list items | .tuple items => .arr (receivedItems items)
  | .dict fields | .model fields | .mapping fields => .obj (receivedFields fields)

def receivedItems : List PyValue → List JsJson
  | [] => []
  | v :: vs => received v :: receivedItems vs

def receivedFields : List (String × PyValue) → JsFields
  | [] => []
  | (k, v) :: fs => (k, received v) :: receivedFields fs

end

theorem receivedItems_eq (vs : List PyValue) : receivedItems vs = vs.map received := by
  induction vs with
  | nil => rfl
  | cons v vs ih => simp only [receivedItems, ih, List.map_cons]

theorem receivedFields_lookup (fs : PyFields) (k : String) :
    (receivedFields fs).lookup k = (fs.lookup k).map received := by
  induction fs with
  | nil => rfl
  | cons f fs ih =>
    obtain ⟨l, v⟩ := f
    simp only [receivedFields, List.lookup_cons, ih]
    cases k == l <;> rfl

theorem receivedFields_some {fs : PyFields} {k : String} {v : PyValue} (found : fs.lookup k = some v) :
    (receivedFields fs).lookup k = some (received v) := by
  rw [receivedFields_lookup, found]
  rfl

theorem receivedFields_text {fs : PyFields} {k t : String} (found : fs.lookup k = some (.str t)) :
    (receivedFields fs).lookup k = some (.str t) := by
  rw [receivedFields_some found, received]

variable [Pydantic] [PyUnicode]

def receivedResource (r : Resource) : JsFields := receivedFields r.modelFields

def receivedManifest (m : ResourceManifest) : JsFields := receivedFields (ResourceManifest.fields.write m)

theorem manifest_provider (m : ResourceManifest) :
    (receivedManifest m).lookup "provider" = some (.str m.val.provider.label) :=
  receivedFields_text rfl

theorem manifest_region (m : ResourceManifest) : (receivedManifest m).lookup "region" = some (.str m.val.region.val) :=
  receivedFields_text rfl

theorem manifest_environment (m : ResourceManifest) :
    (receivedManifest m).lookup "environment" = some (.str m.val.environment.label) :=
  receivedFields_text rfl

theorem manifest_resources (m : ResourceManifest) :
    (receivedManifest m).lookup "resources" =
      some (.arr (m.val.resources.val.map fun r => .obj (receivedResource r))) := by
  have written : (ResourceManifest.fields.write m).lookup "resources" =
      some (.list (m.val.resources.val.map Resource.codec.dump)) := rfl
  rw [receivedManifest, receivedFields_some written, received, receivedItems_eq, List.map_map]
  rfl

theorem manifestResource_received (r : Resource) :
    manifestResource (some (.obj (receivedResource r))) = .ok ⟨r.name, r.type, receivedResource r⟩ := by
  have name := receivedFields_some (modelFields_name r)
  have type := receivedFields_some (modelFields_type r)
  have logical : (receivedResource r).lookup "logical_name" = none := by
    rw [receivedResource, receivedFields_lookup, modelFields_logicalName]
    rfl
  simp only [manifestResource, object, receivedResource] at logical ⊢
  rw [name, type, logical]
  rfl

theorem resources_received (m : ResourceManifest) :
    array manifestResource ((receivedManifest m).lookup "resources") =
      .ok (m.val.resources.val.map fun r => ⟨r.name, r.type, receivedResource r⟩) := by
  rw [manifest_resources]
  refine array_ok_iff.mpr (elements_ok_iff.mpr ?_)
  rw [List.forall₂_map_left_iff, List.forall₂_map_right_iff, List.forall₂_same]
  exact fun r _ => manifestResource_received r

theorem summary_kept (m : ResourceManifest) (version : Nat) :
    Kept architectureSummarySchema (.obj
      (property "provider" ((receivedManifest m).lookup "provider") ++
        property "region" ((receivedManifest m).lookup "region") ++
        property "environment" ((receivedManifest m).lookup "environment") ++
        [("resources", .arr ((m.val.resources.val.map fun r => ManifestResource.mk r.name r.type
          (receivedResource r)).mapIdx fun index r =>
            .obj [("id", indexName version index), ("name", .str r.name), ("type", .str r.type)]))])) := by
  rw [manifest_provider, manifest_region, manifest_environment]
  refine kept_shape (by decide) ?_
  simp only [List.forall_mem_cons]
  refine ⟨settled_opt_none, ?_, (kept_text _).settled, (kept_text _).settled, settled_opt_none,
    (kept_items fun x mem => ?_).settled, settled_opt_none, nofun⟩
  · cases m.val.provider <;> exact ⟨_, rfl, rfl⟩
  · obtain ⟨index, r, -, rfl⟩ := List.mem_mapIdx.mp mem
    refine kept_shape (by decide) ?_
    simp only [List.forall_mem_cons]
    exact ⟨(kept_text _).settled, (kept_text _).settled, (kept_text _).settled, settled_opt_none, settled_opt_none,
      nofun⟩

variable [JsCoercion] [OtherComponents]

theorem ec2_passes (m : ResourceManifest) (requestId : String) (version index : Nat) (r : Ec2Resource) :
    ∃ c, resourceComponent (receivedManifest m) requestId version index
      ⟨r.name.val, "aws_ec2", receivedResource (.ec2 r)⟩ = .ok c ∧ Passes c := by
  have size : (receivedResource (.ec2 r)).lookup "instance_type" = some (.str r.instanceType.val) :=
    receivedFields_text rfl
  have image : (receivedResource (.ec2 r)).lookup "image" = some (.str r.image.val) := receivedFields_text rfl
  have written : (Resource.ec2 r).modelFields.lookup "count" = some (.int r.count.val) := rfl
  have count : (receivedResource (.ec2 r)).lookup "count" = some (.num (NumberText.int r.count.val)) := by
    rw [receivedResource, receivedFields_some written, received]
  simp only [resourceComponent, if_pos, size, image, count]
  refine component_passes requestId rfl (kept_shape computePlan_distinct ?_)
  simp only [computePlanFields, List.forall_mem_cons]
  exact ⟨(kept_text _).settled, settled_opt_none, (kept_opt (kept_text _)).settled,
    (kept_dflt (kept_numeric _)).settled, settled_opt_none, (kept_opt (kept_text _)).settled, settled_opt_none,
    settled_opt_none, settled_opt_none, settled_opt_none, settled_opt_none, settled_opt_none, settled_opt_none, nofun⟩

theorem s3_passes (m : ResourceManifest) (requestId : String) (version index : Nat) (r : S3Resource) :
    ∃ c, resourceComponent (receivedManifest m) requestId version index
      ⟨r.name.val, "aws_s3", receivedResource (.s3 r)⟩ = .ok c ∧ Passes c := by
  have written : (Resource.s3 r).modelFields.lookup "versioning" = some (.bool r.versioning) := rfl
  have versioning : (receivedResource (.s3 r)).lookup "versioning" = some (.bool r.versioning) := by
    rw [receivedResource, receivedFields_some written, received]
  have other : ("aws_s3" : String) ≠ "aws_ec2" ∧ ("aws_s3" : String) ≠ "aws_rds" := by decide
  simp only [resourceComponent, if_neg other.1, if_neg other.2, if_pos, versioning]
  refine component_passes requestId rfl (kept_shape (by decide) ?_)
  simp only [List.forall_mem_cons]
  exact ⟨(kept_text _).settled, settled_opt_none, (kept_dflt (kept_flag _)).settled, settled_opt_none,
    settled_dflt_none rfl, settled_opt_none, nofun⟩

theorem row_passes (m : ResourceManifest) (requestId : String) (version index : Nat) {r : Resource}
    (other : r.type ≠ "aws_ec2" ∧ r.type ≠ "aws_rds" ∧ r.type ≠ "aws_s3") :
    ∃ c, resourceComponent (receivedManifest m) requestId version index
      ⟨r.name, r.type, receivedResource r⟩ = .ok c ∧ Passes c := by
  simp only [resourceComponent, if_neg other.1, if_neg other.2.1, if_neg other.2.2, manifest_provider]
  refine component_passes requestId rfl (kept_shape (by decide) ?_)
  simp only [List.forall_mem_cons]
  refine ⟨settled_opt_none, settled_opt_none, (kept_items fun x mem => ?_).settled, nofun⟩
  obtain rfl := List.mem_singleton.mp mem
  refine kept_shape (by decide) ?_
  simp only [List.forall_mem_cons]
  exact ⟨(indexName_kept version index).settled, (kept_nonempty (JsText.one_le_length (name_nonempty r))).settled,
    (kept_nonempty (JsText.one_le_length (type_nonempty r))).settled,
    (kept_nonempty (JsText.one_le_length (label_nonempty m.val.provider))).settled, (kept_nonempty (by decide)).settled,
    settled_opt_none, settled_opt_none, settled_dflt_none rfl, settled_dflt_none rfl, settled_opt_none, nofun⟩

theorem resource_passes (m : ResourceManifest) (requestId : String) (version index : Nat) {r : Resource}
    (other : isDatabase r = false) :
    ∃ c, resourceComponent (receivedManifest m) requestId version index
      ⟨r.name, r.type, receivedResource r⟩ = .ok c ∧ Passes c := by
  cases r with
  | ec2 r => exact ec2_passes m requestId version index r
  | rds r => cases other
  | s3 r => exact s3_passes m requestId version index r
  | _ => exact row_passes m requestId version index (by simp [Resource.type])

theorem database_rejected (m : ResourceManifest) (requestId : String) (version index : Nat) {r : Resource}
    (database : isDatabase r = true) (c : JsJson) :
    resourceComponent (receivedManifest m) requestId version index ⟨r.name, r.type, receivedResource r⟩ ≠ .ok c := by
  intro run
  have type : r.type = "aws_rds" := beq_iff_eq.mp database
  have other : ("aws_rds" : String) ≠ "aws_ec2" := by decide
  simp only [resourceComponent, type, if_neg other, if_pos] at run
  obtain ⟨v, valid, -⟩ := except_bind_ok.mp run
  have registered : componentSchema "database_config" = some databaseConfigSchema := rfl
  simp only [validateComponent, registered, if_pos] at valid
  split at valid
  · rename_i out read
    -- The payload says nothing about encryption, which the schema requires.
    obtain ⟨e, unread⟩ := shape_field (check_ok_iff.mp (parsed_ok_iff.mp read)).1 (f := ("storageEncrypted", flag)) (by
      simp [databaseConfigFields])
    rw [List.lookup_append, List.lookup_append, property_other (by decide), property_other (by decide),
      property_other (by decide)] at unread
    cases unread
  · cases valid

theorem cards_pass_iff (m : ResourceManifest) (requestId : String) (version : Nat) :
    (∃ cards, (((m.val.resources.val.map fun r => ManifestResource.mk r.name r.type (receivedResource r)).mapIdx
        fun index r => (index, r)).mapM fun p =>
          resourceComponent (receivedManifest m) requestId version p.1 p.2) = .ok cards ∧ ∀ c ∈ cards, Passes c) ↔
      ∀ r ∈ m.val.resources.val, isDatabase r = false := by
  rw [mapM_ok_iff]
  constructor
  · intro each r mem
    obtain ⟨index, bound, rfl⟩ := List.getElem_of_mem mem
    obtain ⟨c, run, -⟩ := each _ (List.mem_mapIdx.mpr ⟨index, by rwa [List.length_map], rfl⟩)
    rw [List.getElem_map] at run
    cases database : isDatabase m.val.resources.val[index] with
    | false => rfl
    | true => exact absurd run (database_rejected m requestId version index database c)
  · rintro others p mem
    obtain ⟨index, bound, rfl⟩ := List.mem_mapIdx.mp mem
    rw [List.getElem_map]
    exact resource_passes m requestId version index (others _ (List.getElem_mem _))

theorem no_database_of_components {m : ResourceManifest} {requestId : String} {version : Nat} {cs : List JsJson}
    (run : manifestComponents (receivedManifest m) requestId version = .ok cs) (all : ∀ c ∈ cs, Passes c) :
    ∀ r ∈ m.val.resources.val, isDatabase r = false := by
  simp only [manifestComponents, except_bind_ok, resources_received] at run
  obtain ⟨_, read, summary, -, cards, ran, same⟩ := run
  obtain rfl := Except.ok.inj read
  obtain rfl := Except.ok.inj same
  exact (cards_pass_iff m requestId version).mp ⟨cards, ran, fun c mem => all c (List.mem_cons_of_mem _ mem)⟩

theorem components_pass_iff (m : ResourceManifest) (requestId : String) (version : Nat) :
    (∃ cs, manifestComponents (receivedManifest m) requestId version = .ok cs ∧ ∀ c ∈ cs, Passes c) ↔
      ∀ r ∈ m.val.resources.val, isDatabase r = false := by
  constructor
  · rintro ⟨cs, run, all⟩
    exact no_database_of_components run all
  · intro others
    have registered : componentSchema "architecture_summary" = some architectureSummarySchema := rfl
    obtain ⟨summary, first, passes⟩ := component_passes requestId registered (summary_kept m version)
    obtain ⟨cards, run, all⟩ := (cards_pass_iff m requestId version).mpr others
    simp only [manifestComponents, except_bind_ok, resources_received]
    exact ⟨summary :: cards, ⟨_, rfl, summary, first, cards, run, rfl⟩, List.forall_mem_cons.mpr ⟨passes, all⟩⟩

end Received

section Example

open Contracts

def databaseManifest : PyValue :=
  .dict [("provider", .str "aws"), ("region", .str "us-east-1"), ("environment", .str "development"),
    ("security", .dict [("encryption_enabled", .bool true)]), ("backup", .dict [("enabled", .bool true)]),
    ("policy", .dict [("requirements_loaded", .bool true), ("applied_constraints", .list [])]),
    ("resources", .list [.dict [("type", .str "aws_rds"), ("name", .str "orders"), ("engine", .str "postgres"),
      ("instance_class", .str "db.t3.micro"), ("allocated_storage_gb", .int 20)]])]

abbrev plainNumbers : NumberText := ⟨fun n => JsNumber.ofNat n.toNat, fun
  | .finite n => .num n
  | _ => .null⟩

theorem database_component_raises :
    ¬ ∀ [NumberText] [Pydantic] [PyUnicode] [JsCoercion] [OtherComponents] (v : PyValue) (m : ResourceManifest)
      (requestId : String) (version : Nat), ResourceManifest.codec.validate v = some m →
        ∃ cs, manifestComponents (receivedManifest m) requestId version = .ok cs ∧ ∀ c ∈ cs, Passes c := by
  intro claim
  let _ : Pydantic := plainPydantic
  let _ : PyUnicode := asciiPython
  let _ : NumberText := plainNumbers
  let _ : JsCoercion := ⟨fun _ => none⟩
  let _ : OtherComponents := ⟨fun _ => none⟩
  have read : ((ResourceManifest.codec.validate databaseManifest).any fun m =>
      m.val.resources.val.any isDatabase) = true := by
    decide
  obtain ⟨m, valid, database⟩ := (Option.any_eq_true _ _).mp read
  obtain ⟨cs, run, all⟩ := claim databaseManifest m "request" 1 valid
  obtain ⟨r, mem, holds⟩ := List.any_eq_true.mp database
  rw [no_database_of_components run all r mem] at holds
  cases holds

end Example

end Provisr.Orchestrator
