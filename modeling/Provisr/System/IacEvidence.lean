import Provisr.Audit.TamperEvidence
import Provisr.Backend.IacRendering
import Provisr.Backend.ManifestTables
import Provisr.Mcp.IacGeneration
import Provisr.Orchestrator.ServicePrograms

-- A generated artifact on its way from its table over the tool server to the orchestrator.
namespace Provisr.System.IacEvidence

open Provisr.Foundation Provisr.Backend
open Provisr.Orchestrator (TerraformFile Platform ProvisioningRun ArtifactRow HttpResponse isSha256 nilUuid nulChar)

section Texts

theorem utf16Units_le (c : Char) : JsText.utf16Units c ≤ c.utf8Size := by
  have positive := c.utf8Size_pos
  unfold JsText.utf16Units
  split
  · exact positive
  · rename_i wide
    simp only [Char.utf8Size]
    split
    · rename_i small
      have low : c.toNat ≤ 127 := UInt32.le_iff_toNat_le.mp small
      omega
    · split
      · exact le_rfl
      · split
        · omega
        · omega

theorem length_le_bytes (s : String) : s.length ≤ s.utf8ByteSize ∧ JsText.length s ≤ s.utf8ByteSize := by
  obtain ⟨cs, rfl⟩ : ∃ cs, s = String.ofList cs := ⟨s.toList, String.ofList_toList.symm⟩
  rw [JsText.length, String.toList_ofList, String.length_ofList]
  induction cs with
  | nil => exact ⟨Nat.zero_le _, Nat.zero_le _⟩
  | cons c cs ih =>
    have split : String.ofList (c :: cs) = String.singleton c ++ String.ofList cs := by
      apply String.toList_injective
      simp
    have positive := c.utf8Size_pos
    have units := utf16Units_le c
    rw [split, String.utf8ByteSize_append, String.utf8ByteSize_singleton, List.length_cons, List.map_cons, List.sum_cons]
    omega

theorem parseId_self {s id : String} (h : parseId s = some id) : parseId id = some id := by
  obtain ⟨parsed, other⟩ := Option.filter_eq_some_iff.mp h
  exact Option.filter_eq_some_iff.mpr ⟨(Manifest.parseUuid_self parsed).1, other⟩

theorem parseId_own {id : String} (h : parseId id = some id) :
    JsText.isUuid id = true ∧ PyText.uuid id = some id ∧ id ≠ nilUuid := by
  obtain ⟨parsed, other⟩ := Option.filter_eq_some_iff.mp h
  unfold parseUuid at parsed
  dsimp only at parsed
  split at parsed
  · rename_i valid
    obtain ⟨-, uuid⟩ := Bool.and_eq_true_iff.mp valid
    generalize String.ofList (plainUuid id.toList) = text at parsed uuid
    obtain ⟨own, idem, -⟩ := JsText.isUuid_lower uuid
    rw [Option.some.inj parsed] at own
    have lower : id.toList.map Char.toLower = id.toList := by
      rw [← Option.some.inj parsed, String.toList_ofList, idem]
    refine ⟨own, ?_, by simpa using other⟩
    rw [PyText.uuid, if_pos own, lower, String.ofList_toList]
  · cases parsed

end Texts

-- What the services on the way see of an artifact, in the order of its keys or in another.
structure Rearranges (g : JsJson → JsJson) : Prop where
  text : ∀ s, g (Artifact.text s) = Artifact.text s
  int : ∀ n, g (Artifact.int n) = Artifact.int n
  arr : ∀ xs, g (.arr xs) = .arr (xs.map g)
  obj : ∀ fs : JsFields, (fs.map Prod.fst).Nodup → ∃ gs, g (.obj fs) = .obj gs ∧
    (∀ k, gs.lookup k = (fs.lookup k).map g) ∧ ∀ f ∈ gs, f.1 ∈ fs.map Prod.fst

theorem rearranges_id : Rearranges id where
  text _ := rfl
  int _ := rfl
  arr xs := by rw [List.map_id]; rfl
  obj fs _ := ⟨fs, rfl, fun k => by rw [Option.map_id]; rfl, fun f mem => List.mem_map_of_mem mem⟩

theorem rearranges_jsonb : Rearranges Json.jsonb where
  text _ := rfl
  int _ := rfl
  arr xs := congrArg Json.arr (Json.normalizeItems_eq_map xs)
  obj fs nodup := by
    refine ⟨_, rfl, Json.lookup_normalized Json.jsonbRank_injective nodup, fun f mem => ?_⟩
    have own := Json.mem_sortFields mem
    rw [Json.normalizeFields_eq_map] at own
    obtain ⟨e, given, rfl⟩ := List.mem_map.mp own
    exact List.mem_map.mpr ⟨e, given, rfl⟩

section Readers

variable [Platform]

structure Readable (a : Artifact) : Prop where
  ids : ∀ id ∈ [a.id, a.manifestId, a.runId, a.workspaceId, a.sessionId], parseId id = some id
  version : 1 ≤ a.manifestVersion
  packaged : Iac.Packaged a.files
  fileList : a.fileList = a.files.map fun file => file.path
  fileCount : a.fileCount = a.files.length
  summarized : a.summary.fileCount = a.files.length
  resources : 1 ≤ a.summary.resourceCount ∧ a.summary.resourceCount ≤ 1000
  totalSize : a.totalSize = Artifact.totalSizeOf a.files
  small : a.totalSize ≤ 4 * 1024 * 1024
  hash : a.hash = Platform.sha256Hex (Artifact.hashed a.files)
  digest : isSha256 a.hash = true
  template : a.templateSource = "template"

variable {a : Artifact} {g : JsJson → JsJson}

theorem Readable.content_le (h : Readable a) : ∀ file ∈ a.files, file.content.utf8ByteSize ≤ 4 * 1024 * 1024 := by
  intro file mem
  have part : file.content.utf8ByteSize ≤ Artifact.totalSizeOf a.files := List.le_sum_of_mem (List.mem_map_of_mem mem)
  have small := h.small
  rw [h.totalSize] at small
  exact part.trans small

theorem Readable.length_le (h : Readable a) : 1 ≤ a.files.length ∧ a.files.length ≤ 10 := by
  have most := h.packaged.ordered.length_le
  have least := List.length_pos_of_mem (h.packaged.fixed "main.tf" (by decide))
  rw [List.length_map] at most least
  exact ⟨least, most⟩

theorem Readable.path (h : Readable a) : ∀ file ∈ a.files, file.path ∈ Iac.bundlePaths := fun _ mem =>
  h.packaged.ordered.subset (List.mem_map_of_mem mem)

end Readers

section Orchestrator

open Provisr.Orchestrator Zod

theorem natural_int {low n : Nat} {high : Option Nat} (least : low ≤ n) (most : ∀ m ∈ high, n ≤ m) :
    natural low high (some (Artifact.int n)) = .ok n := by
  exact natural_ok_iff.mpr ⟨JsNumber.ofNat n, rfl, JsNumber.toNat?_ofNat n, least, most⟩

theorem strict_known {α : Type} {known : List String} {read : JsFields → Checked α} {fs : JsFields}
    (keys : ∀ f ∈ fs, f.1 ∈ known) : strict known read (some (.obj fs)) = read fs := by
  have every : (fs.all fun f => known.contains f.1) = true := by simpa using keys
  change (read fs).noting (if (fs.all fun f => known.contains f.1) = true then [] else ["unrecognized_keys"]) = read fs
  rw [if_pos every, noting_nil]

theorem iacUuid_own {id : String} (own : parseId id = some id) : iacUuid (some (Artifact.text id)) = .ok id := by
  obtain ⟨uuid, -, other⟩ := parseId_own own
  exact check_ok_iff.mpr ⟨check_ok_iff.mpr ⟨rfl, uuid⟩, by simpa using other⟩

theorem paths_short : ∀ path ∈ Iac.bundlePaths, 1 ≤ JsText.length path ∧ JsText.length path ≤ 256 := by decide

variable {a : Artifact} {g : JsJson → JsJson}

theorem terraformFileSchema_ok (r : Rearranges g) {file : TerraformFile} (path : file.path ∈ Iac.bundlePaths)
    (size : file.content.utf8ByteSize ≤ 4 * 1024 * 1024) :
    terraformFileSchema (some (g (Artifact.fileJson file))) = .ok file := by
  obtain ⟨gs, same, lookup, keys⟩ := r.obj [("path", Artifact.text file.path), ("content", Artifact.text file.content)]
    (by simp)
  have stored : gs.lookup "path" = some (Artifact.text file.path) := (lookup _).trans (congrArg some (r.text _))
  have filled : gs.lookup "content" = some (Artifact.text file.content) := (lookup _).trans (congrArg some (r.text _))
  have named : max 256 (min 1 string) (some (Artifact.text file.path)) = .ok file.path :=
    check_ok_iff.mpr ⟨check_ok_iff.mpr ⟨rfl, decide_eq_true (paths_short _ path).1⟩, decide_eq_true (paths_short _ path).2⟩
  have written : max (4 * 1024 * 1024) string (some (Artifact.text file.content)) = .ok file.content :=
    check_ok_iff.mpr ⟨rfl, decide_eq_true ((length_le_bytes _).2.trans size)⟩
  rw [Artifact.fileJson, same, terraformFileSchema, strict_known (by simpa using keys), stored, filled, named, written]
  rfl

theorem iacSummarySchema_ok (r : Rearranges g) {s : Summary} (resources : 1 ≤ s.resourceCount ∧ s.resourceCount ≤ 1000)
    (files : 1 ≤ s.fileCount ∧ s.fileCount ≤ 1000) :
    iacSummarySchema (some (g (.obj [("resource_count", Artifact.int s.resourceCount),
      ("file_count", Artifact.int s.fileCount)]))) = .ok (s.resourceCount, s.fileCount) := by
  obtain ⟨gs, same, lookup, keys⟩ := r.obj [("resource_count", Artifact.int s.resourceCount),
    ("file_count", Artifact.int s.fileCount)] (by simp)
  have first : gs.lookup "resource_count" = some (Artifact.int s.resourceCount) :=
    (lookup _).trans (congrArg some (r.int _))
  have second : gs.lookup "file_count" = some (Artifact.int s.fileCount) := (lookup _).trans (congrArg some (r.int _))
  rw [same, iacSummarySchema, strict_known (by simpa using keys), first, second,
    natural_int resources.1 (by simpa using resources.2), natural_int files.1 (by simpa using files.2)]
  rfl

variable [Platform]

def evidence (a : Artifact) : IacArtifact :=
  ⟨a.id, a.manifestId, a.manifestVersion, a.runId, a.workspaceId, a.sessionId, a.files, a.fileList, a.fileCount,
    a.totalSize, a.hash, a.summary.resourceCount, a.summary.fileCount⟩

theorem iacArtifactSchema_ok (r : Rearranges g) (h : Readable a) :
    iacArtifactSchema (some (g a.json)) = .ok (evidence a) := by
  obtain ⟨gs, same, lookup, keys⟩ := r.obj a.fields (by simp [Artifact.fields])
  obtain ⟨least, most⟩ := h.length_le
  have at_ : ∀ {k v}, a.fields.lookup k = some v → gs.lookup k = some (g v) := fun found => by
    rw [lookup, found]
    rfl
  have texts : ∀ {k s}, a.fields.lookup k = some (Artifact.text s) → gs.lookup k = some (Artifact.text s) :=
    fun found => (at_ found).trans (congrArg some (r.text _))
  have ints : ∀ {k n}, a.fields.lookup k = some (Artifact.int n) → gs.lookup k = some (Artifact.int n) :=
    fun found => (at_ found).trans (congrArg some (r.int _))
  have ids : ∀ {k id}, a.fields.lookup k = some (Artifact.text id) → id ∈ [a.id, a.manifestId, a.runId, a.workspaceId,
      a.sessionId] → iacUuid (gs.lookup k) = .ok id := fun found mem => by
    rw [texts found]
    exact iacUuid_own (h.ids _ mem)
  have files : arrayOf 1 (some 1000) terraformFileSchema (gs.lookup "terraform_files") = .ok a.files := by
    have found : a.fields.lookup "terraform_files" = some (.arr (a.files.map Artifact.fileJson)) := rfl
    rw [at_ found, r.arr, List.map_map]
    refine arrayOf_ok_iff.mpr ⟨_, rfl, by simpa using least, by simp; omega, elements_ok_iff.mpr ?_⟩
    rw [List.forall₂_map_left_iff]
    exact List.forall₂_same.mpr fun file mem => terraformFileSchema_ok r (h.path file mem) (h.content_le file mem)
  have fileList : arrayOf 1 (some 1000) string (gs.lookup "file_list") = .ok a.fileList := by
    have found : a.fields.lookup "file_list" = some (.arr (a.fileList.map Artifact.text)) := rfl
    have count : a.fileList.length = a.files.length := by rw [h.fileList, List.length_map]
    rw [at_ found, r.arr, List.map_map]
    refine arrayOf_ok_iff.mpr ⟨_, rfl, by rw [List.length_map]; omega, by simp; omega, elements_ok_iff.mpr ?_⟩
    rw [List.forall₂_map_left_iff]
    refine List.forall₂_same.mpr fun path _ => ?_
    rw [Function.comp_apply, r.text]
    rfl
  have fileCount := h.fileCount
  have summarized := h.summarized
  have counted : natural 1 (some 1000) (gs.lookup "file_count") = .ok a.fileCount := by
    rw [ints (n := a.fileCount) rfl]
    exact natural_int (by omega) (by simp; omega)
  have sized : natural 1 (some (4 * 1024 * 1024)) (gs.lookup "total_size") = .ok a.totalSize := by
    rw [ints (n := a.totalSize) rfl]
    exact natural_int (h.totalSize ▸ h.packaged.filled) (by simpa using h.small)
  have version : natural 1 none (gs.lookup "manifest_version") = .ok a.manifestVersion := by
    rw [ints (n := a.manifestVersion) rfl]
    exact natural_int h.version fun m mem => absurd mem (Option.not_mem_none m)
  have digest : regex isSha256 string (gs.lookup "hash") = .ok a.hash := by
    rw [texts (s := a.hash) rfl]
    exact check_ok_iff.mpr ⟨rfl, h.digest⟩
  have template : literal (.str "template") (gs.lookup "template_source") = .ok () := by
    rw [texts (s := a.templateSource) rfl, h.template]
    exact if_pos rfl
  have summary : iacSummarySchema (gs.lookup "summary") = .ok (a.summary.resourceCount, a.summary.fileCount) := by
    have found : a.fields.lookup "summary" = some (.obj [("resource_count", Artifact.int a.summary.resourceCount),
      ("file_count", Artifact.int a.summary.fileCount)]) := rfl
    rw [at_ found]
    exact iacSummarySchema_ok r h.resources ⟨by omega, by omega⟩
  rw [Artifact.json, same, iacArtifactSchema, strict_known (by simpa [Artifact.fields] using keys),
    ids (k := "iac_artifact_id") rfl (by simp), ids (k := "manifest_id") rfl (by simp), version,
    ids (k := "run_id") rfl (by simp), ids (k := "workspace_id") rfl (by simp), ids (k := "session_id") rfl (by simp),
    files, fileList, counted, sized, digest, template, summary]
  rfl

structure Verified (run : ProvisioningRun) (manifestId : String) (b : IacArtifact) : Prop where
  manifest : b.manifestId = manifestId
  version : some b.manifestVersion = run.manifestVersion
  runId : b.runId = run.id
  workspace : b.workspaceId = run.workspaceId
  session : b.sessionId = run.sessionId
  safe : (b.terraformFiles.map TerraformFile.path).any badPath = false
  sorted : b.terraformFiles.map TerraformFile.path = sortTexts (distinct (b.terraformFiles.map TerraformFile.path))
  fileList : b.terraformFiles.map TerraformFile.path = b.fileList
  fileCount : b.fileCount = b.terraformFiles.length
  summarized : b.summaryFileCount = b.terraformFiles.length
  required : ["main.tf", "outputs.tf", "variables.tf", "terraform.tfvars"].all
    (b.terraformFiles.map TerraformFile.path).contains = true
  nested : (b.terraformFiles.map TerraformFile.path).any (fun path => "resources/".toList.isPrefixOf path.toList) = true
  totalSize : Artifact.totalSizeOf b.terraformFiles = b.totalSize
  hash : Platform.sha256Hex (Artifact.hashed b.terraformFiles) = b.hash

theorem verifyIacArtifact_iff {value : JsJson} {run : ProvisioningRun} {manifestId : String} {b : IacArtifact} :
    verifyIacArtifact value run manifestId = .ok b ↔
      iacArtifactSchema (some value) = .ok b ∧ Verified run manifestId b := by
  rw [← parsed_ok_iff]
  unfold verifyIacArtifact
  dsimp only
  cases (iacArtifactSchema (some value)).parsed with
  | error e => simp
  | ok c =>
    dsimp only
    split
    · rename_i other
      refine ⟨nofun, fun ⟨same, v⟩ => ?_⟩
      obtain rfl := Except.ok.inj same
      simp [v.manifest, v.version, v.runId, v.workspace, v.session] at other
    · rename_i own
      simp only [not_or, not_not] at own
      obtain ⟨manifest, version, runId, workspace, session⟩ := own
      split
      · rename_i broken
        refine ⟨nofun, fun ⟨same, v⟩ => ?_⟩
        obtain rfl := Except.ok.inj same
        simp only [Bool.or_eq_true, bne_iff_ne, ne_eq, Bool.not_eq_true', v.safe, v.required, v.nested, List.length_map,
          v.fileCount, v.summarized, ← v.sorted, ← v.fileList, not_true_eq_false, Bool.false_eq_true, or_self,
          Bool.true_eq_false] at broken
      · rename_i whole
        simp only [Bool.or_eq_true, not_or, Bool.not_eq_true, bne_eq_false_iff_eq, Bool.not_eq_false'] at whole
        obtain ⟨⟨⟨⟨⟨⟨safe, sorted⟩, fileList⟩, fileCount⟩, summarized⟩, required⟩, nested⟩ := whole
        split
        · rename_i differs
          refine ⟨nofun, fun ⟨same, v⟩ => ?_⟩
          obtain rfl := Except.ok.inj same
          exact absurd differs (not_or.mpr ⟨not_not.mpr v.totalSize, not_not.mpr v.hash⟩)
        · rename_i agrees
          rw [not_or, not_not, not_not] at agrees
          constructor
          · intro same
            obtain rfl := Except.ok.inj same
            exact ⟨rfl, manifest, version, runId, workspace, session, safe, sorted, fileList,
              by simpa using fileCount, by simpa using summarized, required, nested, agrees.1, agrees.2⟩
          · rintro ⟨same, -⟩
            obtain rfl := Except.ok.inj same
            rfl

omit [Platform] in
theorem distinct_of_nodup {xs : List String} (nodup : xs.Nodup) : distinct xs = xs := by
  suffices kept : ∀ acc : List String, (acc ++ xs).Nodup →
      xs.foldl (fun acc x => if acc.contains x then acc else acc ++ [x]) acc = acc ++ xs from kept [] nodup
  clear nodup
  induction xs with
  | nil => exact fun acc _ => (List.append_nil acc).symm
  | cons x xs ih =>
    intro acc nodup
    have new : acc.contains x = false := by
      rw [List.contains_eq_mem, decide_eq_false_iff_not]
      intro mem
      exact (List.nodup_append.mp nodup).2.2 x mem x List.mem_cons_self rfl
    rw [List.foldl_cons, new, if_neg Bool.false_ne_true, ih _ (by rwa [List.append_assoc]), List.append_assoc]
    rfl

omit [Platform] in
theorem sortTexts_of_sorted {xs : List String} (sorted : xs.Pairwise fun s t => utf16 s < utf16 t) :
    sortTexts xs = xs := by
  induction xs with
  | nil => rfl
  | cons x xs ih =>
    obtain ⟨first, rest⟩ := List.pairwise_cons.mp sorted
    change insertSorted x (sortTexts xs) = x :: xs
    rw [ih rest]
    cases xs with
    | nil => rfl
    | cons y ys => exact if_neg (lt_asymm (first y List.mem_cons_self))

omit [Platform] in
theorem bundlePaths_utf16 : Iac.bundlePaths.Pairwise fun s t => utf16 s < utf16 t := by decide

omit [Platform] in
theorem bundlePaths_safe : ∀ path ∈ Iac.bundlePaths, badPath path = false := by decide

theorem Readable.verified (h : Readable a) {run : ProvisioningRun} (id : a.runId = run.id)
    (workspace : a.workspaceId = run.workspaceId) (session : a.sessionId = run.sessionId)
    (version : some a.manifestVersion = run.manifestVersion) : Verified run a.manifestId (evidence a) where
  manifest := rfl
  version := version
  runId := id
  workspace := workspace
  session := session
  safe := by
    rw [List.any_eq_false]
    intro path mem
    rw [bundlePaths_safe path (h.packaged.ordered.subset mem)]
    exact Bool.false_ne_true
  sorted := by
    have sorted := bundlePaths_utf16.sublist h.packaged.ordered
    change a.files.map _ = sortTexts (distinct (a.files.map fun file => file.path))
    rw [distinct_of_nodup (sorted.imp fun less same => absurd (same ▸ less) (lt_irrefl _)), sortTexts_of_sorted sorted]
  fileList := h.fileList.symm
  fileCount := h.fileCount
  summarized := h.summarized
  required := by
    refine List.all_eq_true.mpr fun path mem => List.contains_iff_mem.mpr (h.packaged.fixed path ?_)
    revert path
    decide
  nested := List.any_eq_true.mpr ⟨_, h.packaged.fixed "resources/variables.tf" (by decide), by decide⟩
  totalSize := h.totalSize.symm
  hash := h.hash.symm

end Orchestrator

section ToolServer

open Provisr.Mcp

variable {a : Artifact}

theorem wholeField_int {test : Nat → Bool} {n : Nat} (passes : test n = true) :
    wholeField test (some (Artifact.int n)) = some n := by
  unfold wholeField Artifact.int
  simp [JsNumber.toNat?_ofNat, passes]

theorem textField_text {test : String → Bool} {s : String} (passes : test s = true) :
    textField test (some (Artifact.text s)) = some s := by
  simp [textField, Artifact.text, passes]

theorem listField_map {α : Type} {low high : Nat} {read : Option JsJson → Option α} {write : α → JsJson} {xs : List α}
    (size : low ≤ xs.length ∧ xs.length ≤ high) (each : ∀ x ∈ xs, read (some (write x)) = some x) :
    listField low high read (some (.arr (xs.map write))) = some xs := by
  have all : (xs.map write).mapM (fun j => read (some j)) = some xs := by
    clear size
    induction xs with
    | nil => rfl
    | cons x xs ih =>
      rw [List.map_cons, List.mapM_cons, each x List.mem_cons_self, ih fun y mem => each y (List.mem_cons_of_mem x mem)]
      rfl
  simp only [listField, List.length_map, size, and_self, if_true, all]

theorem bundlePaths_portable : ∀ path ∈ Iac.bundlePaths, safePath path = true ∧ Mcp.between 1 256 path.length = true := by
  decide

theorem terraformFile_validated {file : TerraformFile} (path : file.path ∈ Iac.bundlePaths)
    (size : file.content.utf8ByteSize ≤ 4 * 1024 * 1024) :
    TerraformFile.modelValidate (some (Artifact.fileJson file)) = some file := by
  obtain ⟨safe, short⟩ := bundlePaths_portable _ path
  have named : textField (fun s => Mcp.between 1 256 s.length) (some (Artifact.text file.path)) = some file.path :=
    textField_text short
  have filled : textField (fun s => decide (s.length ≤ maxSize)) (some (Artifact.text file.content)) = some file.content :=
    textField_text (decide_eq_true ((length_le_bytes _).1.trans size))
  change (textField _ (some (Artifact.text file.path))).bind (fun path =>
    (textField _ (some (Artifact.text file.content))).bind fun content =>
      if safePath path then some (⟨path, content⟩ : TerraformFile) else none) = some file
  rw [named, Option.bind_some, filled, Option.bind_some, if_pos safe]

def received (a : Artifact) : IaCArtifact :=
  ⟨a.id, a.manifestId, a.manifestVersion, a.runId, a.workspaceId, a.sessionId, a.files, a.fileList, a.fileCount,
    a.totalSize, a.hash, a.templateSource, a.summary⟩

variable [Platform]

theorem Readable.bundle (h : Readable a) : (received a).verifyBundle = true := by
  have sorted := Iac.bundlePaths_sorted.sublist h.packaged.ordered
  have nodup : (a.files.map fun file => file.path).Nodup :=
    (bundlePaths_utf16.sublist h.packaged.ordered).imp fun less same => absurd (same ▸ less) (lt_irrefl _)
  have kept : sortStable id (a.files.map fun file => file.path).dedup = a.files.map fun file => file.path := by
    rw [nodup.dedup]
    exact List.Pairwise.insertionSort_eq sorted
  have required : (IaCArtifact.required.all (a.files.map fun file => file.path).contains) = true := by
    refine List.all_eq_true.mpr fun path mem => List.contains_iff_mem.mpr (h.packaged.fixed path ?_)
    revert path
    decide
  have nested : ((a.files.map fun file => file.path).any fun path => "resources/".toList.isPrefixOf path.toList) = true :=
    List.any_eq_true.mpr ⟨_, h.packaged.fixed "resources/variables.tf" (by decide), by decide⟩
  have ids : [a.id, a.manifestId, a.runId, a.workspaceId, a.sessionId].contains nilUuid = false := by
    rw [List.contains_eq_mem, decide_eq_false_iff_not]
    exact fun mem => (parseId_own (h.ids _ mem)).2.2 rfl
  simp only [IaCArtifact.verifyBundle, received, Bool.and_eq_true, beq_iff_eq, Bool.not_eq_true', List.length_map]
  exact ⟨⟨⟨⟨⟨⟨⟨⟨kept.symm, h.fileList.symm⟩, h.fileCount⟩, h.summarized⟩, required⟩, nested⟩, h.totalSize⟩, h.hash⟩, ids⟩

theorem Readable.validated (h : Readable a) : IaCArtifact.modelValidate (some a.json) = some (received a) := by
  obtain ⟨least, most⟩ := h.length_le
  have fileCount := h.fileCount
  have summarized := h.summarized
  have count : a.fileList.length = a.files.length := by rw [h.fileList, List.length_map]
  have ids : ∀ {k id}, a.fields.lookup k = some (Artifact.text id) → id ∈ [a.id, a.manifestId, a.runId, a.workspaceId,
      a.sessionId] → uuidField (a.fields.lookup k) = some id := fun found mem => by
    rw [found]
    exact (parseId_own (h.ids _ mem)).2.1
  have files : listField 1 1000 TerraformFile.modelValidate (a.fields.lookup "terraform_files") = some a.files :=
    listField_map ⟨least, by omega⟩ fun file mem => terraformFile_validated (h.path file mem) (h.content_le file mem)
  have fileList : listField 1 1000 (textField fun _ => true) (a.fields.lookup "file_list") = some a.fileList :=
    listField_map ⟨by omega, by omega⟩ fun path _ => textField_text rfl
  have version : wholeField (1 ≤ ·) (a.fields.lookup "manifest_version") = some a.manifestVersion :=
    wholeField_int (decide_eq_true h.version)
  have counted : wholeField (Mcp.between 1 1000) (a.fields.lookup "file_count") = some a.fileCount :=
    wholeField_int (by simp [Mcp.between]; omega)
  have sized : wholeField (Mcp.between 1 maxSize) (a.fields.lookup "total_size") = some a.totalSize :=
    wholeField_int (Bool.and_eq_true_iff.mpr
      ⟨decide_eq_true (h.totalSize ▸ h.packaged.filled), decide_eq_true h.small⟩)
  have digest : textField isSha256 (a.fields.lookup "hash") = some a.hash := textField_text h.digest
  have template : textField (· == "template") (a.fields.lookup "template_source") = some a.templateSource :=
    textField_text (beq_iff_eq.mpr h.template)
  have resources : wholeField (Mcp.between 1 1000) (some (Artifact.int a.summary.resourceCount)) =
      some a.summary.resourceCount := wholeField_int (by simpa [Mcp.between] using h.resources)
  have summed : wholeField (Mcp.between 1 1000) (some (Artifact.int a.summary.fileCount)) = some a.summary.fileCount :=
    wholeField_int (by simp [Mcp.between]; omega)
  have summary : Summary.modelValidate (a.fields.lookup "summary") = some a.summary := by
    change (wholeField _ (some (Artifact.int a.summary.resourceCount))).bind (fun resources =>
      (wholeField _ (some (Artifact.int a.summary.fileCount))).bind fun files =>
        some (⟨resources, files⟩ : Summary)) = some a.summary
    rw [resources, Option.bind_some, summed, Option.bind_some]
  have known : modelFields IaCArtifact.keys (some a.json) = some a.fields := rfl
  have whole := h.bundle
  unfold received at whole
  unfold IaCArtifact.modelValidate
  refine Option.bind_eq_some_iff.mpr ⟨a.fields, known, ?_⟩
  refine Option.bind_eq_some_iff.mpr ⟨a.id, ids rfl (by simp), ?_⟩
  refine Option.bind_eq_some_iff.mpr ⟨a.manifestId, ids rfl (by simp), ?_⟩
  refine Option.bind_eq_some_iff.mpr ⟨a.manifestVersion, version, ?_⟩
  refine Option.bind_eq_some_iff.mpr ⟨a.runId, ids rfl (by simp), ?_⟩
  refine Option.bind_eq_some_iff.mpr ⟨a.workspaceId, ids rfl (by simp), ?_⟩
  refine Option.bind_eq_some_iff.mpr ⟨a.sessionId, ids rfl (by simp), ?_⟩
  refine Option.bind_eq_some_iff.mpr ⟨a.files, files, ?_⟩
  refine Option.bind_eq_some_iff.mpr ⟨a.fileList, fileList, ?_⟩
  refine Option.bind_eq_some_iff.mpr ⟨a.fileCount, counted, ?_⟩
  refine Option.bind_eq_some_iff.mpr ⟨a.totalSize, sized, ?_⟩
  refine Option.bind_eq_some_iff.mpr ⟨a.hash, digest, ?_⟩
  refine Option.bind_eq_some_iff.mpr ⟨a.templateSource, template, ?_⟩
  refine Option.bind_eq_some_iff.mpr ⟨a.summary, summary, ?_⟩
  exact if_pos whole

end ToolServer

section Agreement

open Provisr.Orchestrator (verifyIacArtifact)
open Provisr.Mcp

variable [Platform] [GoUnicode] [GoRuntime] {decode : JsJson → Option Terraform.Manifest} {a : Artifact}

theorem generated_readable {request input : Request} (generated : Iac.Generated (Iac.rendering decode) request input a)
    (own : parseId a.id = some a.id) (version : 1 ≤ a.manifestVersion) (digest : isSha256 a.hash = true) :
    Readable a := by
  obtain ⟨valid, ⟨newId, number, files, resourceCount, ⟨content, rendered⟩, rfl⟩, small⟩ := generated
  obtain ⟨packaged, some_⟩ := Iac.rendering_packaged rendered
  simp only [Artifact.tooLarge, Bool.or_eq_false_iff, decide_eq_false_iff_not, not_lt] at small
  obtain ⟨manifest, workspace, run, session⟩ : parseId input.manifestId = some input.manifestId ∧
      parseId input.context.workspaceId = some input.context.workspaceId ∧
      parseId input.context.requestId = some input.context.requestId ∧
      parseId input.context.sessionId = some input.context.sessionId := by
    simp only [validRequest, Option.bind_eq_bind, Option.bind_eq_some_iff] at valid
    obtain ⟨manifest, hm, workspace, hw, user, -, run, hr, session, hs, correlation, -, rest⟩ := valid
    split at rest
    · cases rest
    · obtain rfl := Option.some.inj rest
      exact ⟨parseId_self hm, parseId_self hw, parseId_self hr, parseId_self hs⟩
  exact {
    ids := by
      simp only [List.forall_mem_cons]
      exact ⟨own, manifest, run, workspace, session, fun id mem => absurd mem List.not_mem_nil⟩
    version := version
    packaged := packaged
    fileList := rfl
    fileCount := rfl
    summarized := rfl
    resources := ⟨some_, small.2⟩
    totalSize := rfl
    small := small.1
    hash := rfl
    digest := digest
    template := rfl }

-- The run an artifact was made for, as long as the version of its manifest is the active one.
structure Awaits (run : ProvisioningRun) (a : Artifact) : Prop where
  id : a.runId = run.id
  workspace : a.workspaceId = run.workspaceId
  session : a.sessionId = run.sessionId
  version : some a.manifestVersion = run.manifestVersion

omit [GoUnicode] [GoRuntime] in
theorem Readable.taken (readable : Readable a) {run : ProvisioningRun} (awaits : Awaits run a) {g : JsJson → JsJson}
    (rearranges : Rearranges g) : verifyIacArtifact (g a.json) run a.manifestId = .ok (evidence a) :=
  verifyIacArtifact_iff.mpr ⟨iacArtifactSchema_ok rearranges readable,
    readable.verified awaits.id awaits.workspace awaits.session awaits.version⟩

omit [GoUnicode] [GoRuntime] in
theorem Readable.sent (readable : Readable a) {run : ProvisioningRun} (awaits : Awaits run a) :
    verifyIacArtifact a.json run a.manifestId = .ok (evidence a) := readable.taken awaits rearranges_id

omit [GoUnicode] [GoRuntime] in
theorem Readable.kept (readable : Readable a) {run : ProvisioningRun} (awaits : Awaits run a) :
    verifyIacArtifact (Json.jsonb a.json) run a.manifestId = .ok (evidence a) := readable.taken awaits rearranges_jsonb

-- Whatever the generator has stored, the tool server hands on as it is and the orchestrator takes, from the answer and
-- from the table.
theorem evidence_accepted {faults : Bool} {d₀ : IacDb} {n : Nat} {s : Iac.IacDatabase} (fresh : Iac.Fresh d₀)
    (reachable : (Iac.engine faults (Iac.rendering decode)).Reachable d₀ n s)
    (digests : ∀ text, isSha256 (Platform.sha256Hex text) = true)
    (spelled : ∀ row ∈ s.committed.artifacts, parseId row.id = some row.id)
    (numbered : ∀ m ∈ s.committed.manifests, 1 ≤ m.version) :
    ∀ row ∈ s.committed.artifacts, ∃ a, Artifact.unmarshal row.generation = some a ∧ row.hash = a.hash ∧
      (∀ context size, context.requestId = a.runId → context.workspaceId = a.workspaceId →
        context.sessionId = a.sessionId → size ≤ MAX_RESPONSE_BYTES →
        ∃ b, generateIac row.manifestId context ⟨true, 200, size, some a.json⟩ = .ok b ∧ b.json = a.json) ∧
      ∀ run, Awaits run a → verifyIacArtifact a.json run row.manifestId = .ok (evidence a) ∧
        verifyIacArtifact row.generation run row.manifestId = .ok (evidence a) := by
  intro row mem
  obtain ⟨a, ⟨request, input, generated, rfl⟩, m, stored, version⟩ := Iac.vouched_reachable fresh reachable row mem
  have digest : isSha256 a.hash = true := by
    obtain ⟨-, ⟨_, _, _, _, -, rfl⟩, -⟩ := generated
    exact digests _
  have readable := generated_readable generated (spelled _ mem) (version ▸ numbered m stored) digest
  refine ⟨a, Artifact.unmarshal_jsonb a, rfl, fun context size run workspace session fits => ?_, fun run awaits => ?_⟩
  · refine ⟨received a, ?_, rfl⟩
    unfold generateIac
    rw [if_neg (not_lt.mpr fits)]
    dsimp only
    rw [readable.validated]
    exact if_neg (by simp [received, run, workspace, session, Iac.rowOf])
  · have direct := readable.sent awaits
    have stored := readable.kept awaits
    exact ⟨direct, stored⟩

end Agreement

section Example

open Provisr.Orchestrator (verifyIacArtifact)
open Provisr.Mcp

def edge : Terraform.Resource := { Terraform.vpcMain with logicalName := "edge" }

def edgeNetwork : Terraform.Manifest := ⟨"1.0", "aws", "us-east-1", [edge], [], none, .empty⟩

theorem edgeNetwork_bundled : letI : GoUnicode := Approval.asciiTables
    letI : GoRuntime := Validator.doubling
    (Terraform.Bundle (some edgeNetwork)).2 = none ∧ (Terraform.Bundle (some edgeNetwork)).1.unsupported.isEmpty = true ∧
      (Terraform.Bundle (some edgeNetwork)).1.files = Iac.networkFiles := by
  decide +kernel

theorem edgeNetwork_rendered : letI : GoUnicode := Approval.asciiTables
    letI : GoRuntime := Validator.doubling
    Iac.rendering (fun _ => some edgeNetwork) = Iac.networkRender := by
  let _ : GoUnicode := Approval.asciiTables
  let _ : GoRuntime := Validator.doubling
  obtain ⟨done, complete, files⟩ := edgeNetwork_bundled
  funext content
  unfold Iac.rendering Iac.networkRender
  dsimp only
  rw [done, List.isEmpty_iff.mp complete, files]
  rfl

theorem networkHashes_digests (text : String) : isSha256 (Iac.networkHashes.sha256Hex text) = true := by
  change isSha256 (if text = Artifact.hashed Iac.networkFiles then Iac.artifactHash else Iac.eventHash) = true
  split
  · decide
  · decide

theorem evidence_accepted_network :
    letI := Iac.networkHashes
    ∃ a, Artifact.unmarshal (Iac.rowOf Iac.networkRequest Iac.networkArtifact).generation = some a ∧
      ∀ run, Awaits run a → verifyIacArtifact a.json run Iac.networkRequest.manifestId = .ok (evidence a) := by
  let _ := Iac.networkHashes
  let _ : GoUnicode := Approval.asciiTables
  let _ : GoRuntime := Validator.doubling
  have fresh : Iac.Fresh Iac.networkDb := ⟨rfl, rfl⟩
  have reachable := Iac.network_reachable
  rw [← edgeNetwork_rendered] at reachable
  have spelled : parseId Iac.networkId = some Iac.networkId := parseId_spelled (by decide) (by decide)
  obtain ⟨a, stored, -, -, taken⟩ := evidence_accepted fresh reachable networkHashes_digests
    (fun row mem => List.mem_singleton.mp mem ▸ spelled) (fun m mem => List.mem_singleton.mp mem ▸ le_rfl)
    (Iac.rowOf Iac.networkRequest Iac.networkArtifact) (List.mem_singleton.mpr rfl)
  exact ⟨a, stored, fun run awaits => (taken run awaits).1⟩

end Example

-- A text that two artifacts share the hash of, though it differs.
def Collision [Platform] (files files' : List TerraformFile) : Prop :=
  Artifact.hashed files ≠ Artifact.hashed files' ∧
    Platform.sha256Hex (Artifact.hashed files) = Platform.sha256Hex (Artifact.hashed files')

section Binding

open Provisr.Orchestrator (IacArtifact verifyIacArtifact badPath)

def nul : Char := Char.ofNat 0

def framed (file : TerraformFile) : List Char := file.path.toList ++ nul :: (file.content.toList ++ [nul])

theorem hashed_chars (files : List TerraformFile) : (Artifact.hashed files).toList = files.flatMap framed := by
  induction files with
  | nil => rfl
  | cons file files ih =>
    have head : Artifact.hashed (file :: files) =
        (file.path ++ nulChar ++ file.content ++ nulChar) ++ Artifact.hashed files := String.join_cons
    have mark : nulChar.toList = [nul] := String.toList_ofList
    rw [head, String.toList_append, ih, List.flatMap_cons]
    simp [framed, mark]

-- No path and no content that is framed holds the mark between them, so that the files can be told from the text.
theorem hashed_injective {files files' : List TerraformFile}
    (plain : ∀ file ∈ files, nul ∉ file.path.toList ∧ nul ∉ file.content.toList)
    (plain' : ∀ file ∈ files', nul ∉ file.path.toList ∧ nul ∉ file.content.toList)
    (same : Artifact.hashed files = Artifact.hashed files') : files = files' := by
  have chars := congrArg String.toList same
  rw [hashed_chars, hashed_chars] at chars
  clear same
  induction files generalizing files' with
  | nil =>
    cases files' with
    | nil => rfl
    | cons file' files' => simp [framed] at chars
  | cons file files ih =>
    cases files' with
    | nil => simp [framed] at chars
    | cons file' files' =>
      obtain ⟨⟨path, content⟩, rest⟩ := List.forall_mem_cons.mp plain
      obtain ⟨⟨path', content'⟩, rest'⟩ := List.forall_mem_cons.mp plain'
      simp only [List.flatMap_cons, framed, List.append_assoc, List.cons_append, List.nil_append] at chars
      obtain ⟨paths, chars⟩ := Audit.mark_cancel path path' chars
      obtain ⟨contents, chars⟩ := Audit.mark_cancel content content' chars
      have one : file = file' := by
        cases file
        cases file'
        rw [TerraformFile.mk.injEq]
        exact ⟨String.toList_inj.mp paths, String.toList_inj.mp contents⟩
      rw [one, ih rest rest' chars]

variable [Platform] {run run' : ProvisioningRun} {manifestId manifestId' : String} {value value' : JsJson}
  {b b' : IacArtifact}

theorem Verified.plain (v : Verified run manifestId b) : ∀ file ∈ b.terraformFiles, nul ∉ file.path.toList := by
  intro file mem own
  have safe := List.any_eq_false.mp v.safe file.path (List.mem_map_of_mem mem)
  have marked : Char.ofNat 0 ∈ file.path.toList := own
  exact safe (by simp [badPath, marked])

-- Two artifacts that the orchestrator takes for one run are the same in all that the hash is to vouch for.
theorem evidence_bound (taken : verifyIacArtifact value run manifestId = .ok b)
    (taken' : verifyIacArtifact value' run manifestId = .ok b') (same : b.hash = b'.hash)
    (plain : ∀ file ∈ b.terraformFiles ++ b'.terraformFiles, nul ∉ file.content.toList) :
    b' = { b with iacArtifactId := b'.iacArtifactId, resourceCount := b'.resourceCount } ∨
      Collision b.terraformFiles b'.terraformFiles := by
  obtain ⟨-, v⟩ := verifyIacArtifact_iff.mp taken
  obtain ⟨-, v'⟩ := verifyIacArtifact_iff.mp taken'
  by_cases texts : Artifact.hashed b.terraformFiles = Artifact.hashed b'.terraformFiles
  · obtain ⟨first, second⟩ := List.forall_mem_append.mp plain
    have files : b.terraformFiles = b'.terraformFiles :=
      hashed_injective (fun file mem => ⟨v.plain file mem, first file mem⟩)
        (fun file mem => ⟨v'.plain file mem, second file mem⟩) texts
    have version : b'.manifestVersion = b.manifestVersion := Option.some.inj (v'.version.trans v.version.symm)
    have fileList : b'.fileList = b.fileList := by rw [← v.fileList, ← v'.fileList, files]
    have fileCount : b'.fileCount = b.fileCount := by rw [v.fileCount, v'.fileCount, files]
    have summarized : b'.summaryFileCount = b.summaryFileCount := by rw [v.summarized, v'.summarized, files]
    have totalSize : b'.totalSize = b.totalSize := by rw [← v.totalSize, ← v'.totalSize, files]
    have manifest := v'.manifest.trans v.manifest.symm
    have runId := v'.runId.trans v.runId.symm
    have workspace := v'.workspace.trans v.workspace.symm
    have session := v'.session.trans v.session.symm
    left
    cases b'
    simp_all
  · exact .inr ⟨texts, by rw [v.hash, v'.hash, same]⟩

end Binding

section Example

open Provisr.Orchestrator (verifyIacArtifact Journey.asked)

def networkRun : ProvisioningRun :=
  { Journey.asked with
    id := Iac.networkArtifact.runId
    workspaceId := Iac.networkArtifact.workspaceId
    sessionId := Iac.networkArtifact.sessionId
    manifestVersion := some 1 }

def networkDrawn (id : String) : Artifact :=
  letI := Iac.networkHashes
  Artifact.construct id Iac.networkRequest 1 Iac.networkFiles 1

theorem networkDrawn_readable {id : String} (parsed : parseId id = some id) : letI := Iac.networkHashes
    Readable (networkDrawn id) := by
  let _ := Iac.networkHashes
  let _ : GoUnicode := Approval.asciiTables
  let _ : GoRuntime := Validator.doubling
  have rendered : Iac.rendering (fun _ => some edgeNetwork) .null = .ok (Iac.networkFiles, 1) := by
    rw [edgeNetwork_rendered]
    rfl
  have generated : Iac.Generated (Iac.rendering fun _ => some edgeNetwork) Iac.networkRequest Iac.networkRequest
      (networkDrawn id) :=
    ⟨Iac.networkRequest_valid, ⟨id, 1, Iac.networkFiles, 1, ⟨.null, rendered⟩, rfl⟩, Iac.networkArtifact_size⟩
  exact generated_readable generated parsed le_rfl (networkHashes_digests _)

theorem network_readable : letI := Iac.networkHashes
    Readable Iac.networkArtifact :=
  networkDrawn_readable (parseId_spelled (by decide) (by decide))

theorem network_plain : ∀ file ∈ Iac.networkFiles, nul ∉ file.content.toList := by
  have storable : ∀ file ∈ Iac.networkFiles, Json.storableText file.content = true := by
    simp only [Iac.networkFiles, List.forall_mem_cons, List.not_mem_nil, false_implies, implies_true, and_true,
      Json.storableText_append, Bool.and_eq_true]
    repeat' apply And.intro
    all_goals exact Json.storableText_ofList (by decide)
  intro file mem own
  have marked : Char.ofNat 0 ∈ file.content.toList := own
  simpa [Json.storableText, marked] using storable file mem

def redrawnId : String := "d94b7f20-6a3c-4e81-b5d2-08c1e9f7a463"

-- What a generator sent, and what another one has stored under an id of its own.
theorem evidence_bound_network : letI := Iac.networkHashes
    redrawnId ≠ Iac.networkId ∧
      verifyIacArtifact Iac.networkArtifact.json networkRun Iac.networkArtifact.manifestId =
        .ok (evidence Iac.networkArtifact) ∧
      verifyIacArtifact (Json.jsonb (networkDrawn redrawnId).json) networkRun Iac.networkArtifact.manifestId =
        .ok (evidence (networkDrawn redrawnId)) ∧
      (evidence (networkDrawn redrawnId) =
          { evidence Iac.networkArtifact with iacArtifactId := redrawnId, resourceCount := 1 } ∨
        Collision Iac.networkFiles Iac.networkFiles) := by
  let _ := Iac.networkHashes
  have awaits : Awaits networkRun Iac.networkArtifact := ⟨rfl, rfl, rfl, rfl⟩
  have awaits' : Awaits networkRun (networkDrawn redrawnId) := ⟨rfl, rfl, rfl, rfl⟩
  have redrawn : Readable (networkDrawn redrawnId) := networkDrawn_readable (parseId_spelled (by decide) (by decide))
  have sent := network_readable.sent awaits
  have kept := redrawn.kept awaits'
  have plain : ∀ file ∈ Iac.networkFiles ++ Iac.networkFiles, nul ∉ file.content.toList :=
    List.forall_mem_append.mpr ⟨network_plain, network_plain⟩
  exact ⟨by decide, sent, kept, evidence_bound sent kept rfl plain⟩

end Example

end Provisr.System.IacEvidence
