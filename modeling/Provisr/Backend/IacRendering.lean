import Provisr.Backend.IacExactlyOnce
import Provisr.Backend.TerraformClosed
import Mathlib.Algebra.Order.BigOperators.Group.List
import Mathlib.Algebra.Order.Ring.Canonical
import Mathlib.Algebra.Order.Ring.Nat

namespace Provisr.Backend.Iac

open Provisr.Foundation
open Provisr.Orchestrator (TerraformFile Platform ManifestRow ArtifactRow)

-- The reviewed templates as the generator uses them. `decode` is json.Decoder into a manifest.
section Rendering

variable [GoUnicode] [GoRuntime] (decode : JsJson → Option Terraform.Manifest)

def rendering : Render := fun content =>
  match decode content with
  | none => .error ⟨422, "invalid_manifest", "Stored manifest is invalid", []⟩
  | some m =>
    let (bundle, err) := Terraform.Bundle (some m)
    if err.isSome then .error ⟨422, "invalid_manifest", "Manifest cannot be rendered by reviewed templates", []⟩
    else if 0 < bundle.unsupported.length then
      .error ⟨422, "unsupported", "Manifest includes unsupported resource types", bundle.unsupported⟩
    else .ok (bundle.files, m.resources.length)

variable {decode} {content : JsJson} {files : List TerraformFile} {resourceCount : Nat}

theorem rendering_ok (rendered : rendering decode content = .ok (files, resourceCount)) :
    ∃ m, Terraform.Bundle (some m) = (⟨files, []⟩, none) ∧ m.resources.length = resourceCount := by
  unfold rendering at rendered
  split at rendered
  · cases rendered
  · rename_i m _
    rcases bundled : Terraform.Bundle (some m) with ⟨bundle, err⟩
    rw [bundled] at rendered
    dsimp only at rendered
    split at rendered
    · cases rendered
    · rename_i done
      split at rendered
      · cases rendered
      · rename_i complete
        obtain ⟨rfl, rfl⟩ := Prod.mk.inj (Except.ok.inj rendered)
        have unsupported : bundle.unsupported = [] := List.length_eq_zero_iff.mp (Nat.eq_zero_of_not_pos complete)
        refine ⟨m, ?_, rfl⟩
        rw [bundled, Option.not_isSome_iff_eq_none.mp done, ← unsupported]

end Rendering

-- The files of a module, of which only those of the domains may be missing.
def bundlePaths : List String :=
  ["main.tf", "outputs.tf", "resources/compute.tf", "resources/database.tf", "resources/networking.tf",
    "resources/outputs.tf", "resources/storage.tf", "resources/variables.tf", "terraform.tfvars", "variables.tf"]

structure Packaged (files : List TerraformFile) : Prop where
  ordered : (files.map fun file => file.path).Sublist bundlePaths
  fixed : ∀ path ∈ Terraform.fixedPaths, path ∈ files.map fun file => file.path
  filled : 1 ≤ Artifact.totalSizeOf files

section Packages

variable [GoUnicode] [GoRuntime] {m : Terraform.Manifest} {files : List TerraformFile}

theorem valid_nonempty {content : Validator.Manifest} (valid : (Validator.Validate (some content)).valid = true) :
    1 ≤ content.resources.length := by
  have none_ := List.isEmpty_iff.mp valid
  unfold Validator.errors at none_
  dsimp only at none_
  split at none_
  · simp at none_
  · omega

omit [GoUnicode] [GoRuntime] in
theorem bundlePaths_sorted : bundlePaths.Pairwise (· ≤ ·) := by decide

theorem bundled_packaged (bundled : Terraform.Bundled m files) : Packaged files := by
  obtain ⟨rendered, lines, made, rfl⟩ := bundled.resources
  have perm := ((sortStable_perm (fun file : TerraformFile => file.path)
    (Terraform.bundleFiles m Terraform.awsProvider (Terraform.partsOf m rendered))).map
      fun file => file.path).trans (Terraform.paths_perm m rendered)
  have listed : ∀ path ∈ Terraform.fixedPaths, path ∈ bundlePaths := by decide
  have own : ∀ domain ∈ ["compute", "storage", "database", "networking"],
      "resources/" ++ domain ++ ".tf" ∈ bundlePaths := by decide
  refine ⟨?_, fun path mem => perm.mem_iff.mpr (List.mem_append_left _ mem), ?_⟩
  · refine List.sublist_of_subperm_of_pairwise (List.subperm_of_subset made.sorted fun path mem => ?_) ?_ bundlePaths_sorted
    · rcases List.mem_append.mp (perm.mem_iff.mp mem) with fixed | nested
      · exact listed path fixed
      · obtain ⟨domain, used, rfl⟩ := List.mem_map.mp nested
        exact own domain (made.domains domain used)
    · exact List.pairwise_map.mpr (sortStable_pairwise _ _)
  · have mem : ⟨"outputs.tf", "output \"resource_ids\" \x7b\n  value = module.resources.resource_ids\n\x7d\n"⟩ ∈
        Terraform.byPath (Terraform.bundleFiles m Terraform.awsProvider (Terraform.partsOf m rendered)) :=
      mem_sortStable.mpr List.mem_cons_self
    refine Nat.le_trans ?_ (List.le_sum_of_mem (List.mem_map_of_mem mem))
    decide

theorem rendering_packaged {decode : JsJson → Option Terraform.Manifest} {content : JsJson} {resourceCount : Nat}
    (rendered : rendering decode content = .ok (files, resourceCount)) : Packaged files ∧ 1 ≤ resourceCount := by
  obtain ⟨m, done, rfl⟩ := rendering_ok rendered
  obtain ⟨m₀, files', copied, bundled, same⟩ := Terraform.Bundle_ok.mp ⟨done, rfl⟩
  obtain rfl : files = files' := congrArg Terraform.Result.files same
  obtain ⟨first, _, _, ok, _⟩ := bundled.made
  refine ⟨bundled_packaged bundled, ?_⟩
  have count : m.resources.length = m₀.resources.length := by
    obtain ⟨resources, each, same⟩ := except_bind_ok.mp copied
    obtain rfl := Except.ok.inj same
    exact (mapM_ok_length each).symm
  have nonempty := valid_nonempty ok.valid
  rwa [Terraform.Manifest.validated, List.length_map, ← count] at nonempty

end Packages

section Vouched

variable [Platform] {faults : Bool} {render : Render} {request input : Request} {newId : String} {d : IacDb}

structure Generated (render : Render) (request : Request) (input : Request) (a : Artifact) : Prop where
  valid : validRequest request = some input
  made : ∃ newId version files resourceCount, (∃ content, render content = .ok (files, resourceCount)) ∧
    a = Artifact.construct newId input version files resourceCount
  small : a.tooLarge = false

def Returned (render : Render) : Call → Outcome → Prop
  | .generate request _, .created a => ∃ input, Generated render request input a
  | _, _ => True

abbrev Yields (faults : Bool) (render : Render) (c : Call) (d : IacDb) (p : Prog Ret Outcome) : Prop :=
  (engine faults render).Leads (growing faults render).grows (fun o _ _ => Returned render c o) d [] p

theorem create_returned {m : ManifestRow} (valid : validRequest request = some input) :
    Yields faults render (.generate request newId) d (create render input newId m) := by
  unfold create
  cases rendered : render m.content with
  | error failure => exact fun _ _ => trivial
  | ok made =>
    dsimp only
    split
    · exact fun _ _ => trivial
    · rename_i small
      refine statement_leads (fun _ _ => trivial) fun d₁ _ _ _ vs _ executed => ?_
      refine appendEvent_leads (fun _ _ => trivial) (growing faults render).trans fun d₂ previous hash seq _ => ?_
      exact fun d₃ _ => ⟨input, valid, ⟨newId, m.version, made.1, made.2, ⟨m.content, rendered⟩, rfl⟩,
        Bool.eq_false_of_not_eq_true small⟩

theorem selectExisting_returned {run : RunRow} {m : ManifestRow} (valid : validRequest request = some input) :
    Yields faults render (.generate request newId) d (selectExisting render input newId run m) := by
  unfold selectExisting
  split
  · refine select_leads (fun _ _ => trivial) fun d₁ _ row _ => ?_
    cases row with
    | some row =>
      change Yields faults render _ _ (replay input row)
      unfold replay
      split
      · exact fun _ _ => trivial
      · split
        · exact fun _ _ => trivial
        · exact fun _ _ => trivial
    | none =>
      change Yields faults render _ _ (requireNew render input newId run m)
      unfold requireNew
      split
      · exact fun _ _ => trivial
      · refine select_leads (fun _ _ => trivial) fun d₂ _ found _ => ?_
        cases found with
        | some row => exact fun _ _ => trivial
        | none => exact create_returned valid
  · exact fun _ _ => trivial

theorem program_returned (c : Call) (d : IacDb) : Yields faults render c d ((engine faults render).program c) := by
  cases c with
  | other deeds => exact .of_forall (fun _ _ _ => trivial) _ _ _
  | generate request newId =>
    change Yields faults render _ _ (DBGenerator.Generate render newId request)
    unfold DBGenerator.Generate
    cases valid : validRequest request with
    | none => exact fun _ _ => trivial
    | some input =>
      refine select_leads (fun _ _ => trivial) fun d₁ _ role _ => ?_
      split
      · refine lockRun_leads (fun _ _ => trivial) fun d₂ _ row _ => ?_
        cases row with
        | none => exact fun _ _ => trivial
        | some run =>
          refine select_leads (fun _ _ => trivial) fun d₃ _ manifest _ => ?_
          cases manifest with
          | none => exact fun _ _ => trivial
          | some m => exact selectExisting_returned valid
      · exact fun _ _ => trivial

structure Vouched (render : Render) (d : IacDb) (row : ArtifactRow) (a : Artifact) : Prop where
  generated : ∃ request input, Generated render request input a ∧ row = rowOf input a
  manifest : ∃ m ∈ d.manifests, m.version = a.manifestVersion

theorem Vouched.grown {d d' : IacDb} {row : ArtifactRow} {a : Artifact} (h : Vouched render d row a)
    (grown : (growing faults render).grows d d') : Vouched render d' row a := by
  obtain ⟨m, mem, version⟩ := h.manifest
  exact ⟨h.generated, m, grown.2.subset mem, version⟩

theorem vouched_reachable {d₀ : IacDb} {n : Nat} {s : IacDatabase} (fresh : Fresh d₀)
    (reachable : (engine faults render).Reachable d₀ n s) :
    ∀ row ∈ s.committed.artifacts, ∃ a, Vouched render s.committed row a := by
  induction reachable with
  | refl =>
    rw [fresh.artifacts]
    exact nofun
  | @tail b c reached step ih =>
    have grown := (growing faults render).step step
    have kept : ∀ row ∈ b.committed.artifacts, ∃ a, Vouched render c.committed row a := fun row mem => by
      obtain ⟨a, vouched⟩ := ih row mem
      exact ⟨a, vouched.grown grown⟩
    rcases step_cases fresh reached step with same | ⟨i, t, request, newId, input, a, session, call, done, valid, creation⟩
    · rw [same.1]
      exact kept
    · have returned := Engine.Growing.commit program_returned reached session done
      rw [call] at returned
      obtain ⟨own, generated⟩ := returned
      obtain rfl : own = input := Option.some.inj (generated.valid.symm.trans valid)
      rw [creation.artifacts]
      refine List.forall_mem_append.mpr ⟨kept, fun row mem => ?_⟩
      obtain ⟨m, stored, -, -, version⟩ := creation.manifest
      exact ⟨a, ⟨request, own, generated, List.mem_singleton.mp mem⟩, m, grown.2.subset stored, version⟩

end Vouched

end Provisr.Backend.Iac
