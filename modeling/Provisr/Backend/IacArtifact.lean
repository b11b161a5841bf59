import Provisr.Backend.ManifestStore
import Provisr.Foundation.JsonOrder
import Provisr.Orchestrator.IacContracts

namespace Provisr.Backend

open Provisr.Foundation
open Provisr.Orchestrator (TerraformFile Platform nilUuid nulChar)

-- uuid.Parse takes four spellings of an id, and String gives the usual one.
def plainUuid (cs : List Char) : List Char :=
  match cs.length with
  | 45 => if (cs.take 9).map Char.toLower = "urn:uuid:".toList then cs.drop 9 else []
  | 38 => (cs.drop 1).take 36
  | 32 => cs.take 8 ++ ['-'] ++ (cs.drop 8).take 4 ++ ['-'] ++ (cs.drop 12).take 4 ++ ['-'] ++
      (cs.drop 16).take 4 ++ ['-'] ++ cs.drop 20
  | _ => cs

def parseUuid (s : String) : Option String :=
  let text := String.ofList (plainUuid s.toList)
  if s.toList.all (fun c => decide (c.toNat < 128)) && JsText.isUuid text then
    some (String.ofList (text.toList.map Char.toLower))
  else none

def spelledUuid (cs : List Char) : Bool :=
  cs.length == 36 && cs.all (fun c => decide (c.toNat < 128) && c.toLower == c) &&
    match cs.splitOn '-' with
    | [a, b, c, d, e] =>
      a.length == 8 && b.length == 4 && c.length == 4 && d.length == 4 && e.length == 12 &&
        [a, b, c, d, e].all (·.all JsText.isHex)
    | _ => false

theorem parseUuid_spelled {cs : List Char} (h : spelledUuid cs = true) :
    parseUuid (String.ofList cs) = some (String.ofList cs) := by
  simp only [spelledUuid, Bool.and_eq_true, beq_iff_eq, List.all_eq_true, decide_eq_true_eq] at h
  obtain ⟨⟨length, plain⟩, groups⟩ := h
  have self : plainUuid cs = cs := by
    unfold plainUuid
    rw [length]
    rfl
  have uuid : JsText.isUuid (String.ofList cs) = true := by
    unfold JsText.isUuid
    rw [String.toList_ofList]
    exact groups
  have ascii : cs.all (fun c => decide (c.toNat < 128)) = true := by simpa using fun c hc => (plain c hc).1
  have lower : cs.map Char.toLower = cs := (List.map_congr_left fun c hc => (plain c hc).2).trans (List.map_id cs)
  simp [parseUuid, self, uuid, ascii, lower]

theorem isUuid_spelled {cs : List Char} (h : spelledUuid cs = true) : JsText.isUuid (String.ofList cs) = true := by
  unfold JsText.isUuid
  rw [String.toList_ofList]
  simp only [spelledUuid, Bool.and_eq_true] at h
  exact h.2

structure Context where
  workspaceId : String
  userId : String
  permissions : List String
  requestId : String
  correlationId : String
  sessionId : String
  idempotencyKey : String
  deriving DecidableEq

structure Request where
  context : Context
  manifestId : String
  deriving DecidableEq

def parseId (s : String) : Option String := (parseUuid s).filter fun id => id != nilUuid

theorem parseId_spelled {cs : List Char} (h : spelledUuid cs = true)
    (some_other : cs.any (fun c => c != '0' && c != '-') = true) :
    parseId (String.ofList cs) = some (String.ofList cs) := by
  have other : String.ofList cs ≠ nilUuid := by
    intro same
    have chars : cs = nilUuid.toList := by rw [← same, String.toList_ofList]
    rw [chars, nilUuid, String.toList_ofList] at some_other
    exact absurd some_other (by decide)
  simp [parseId, parseUuid_spelled h, other]

def validRequest (r : Request) : Option Request := do
  let c := r.context
  let manifestId ← parseId r.manifestId
  let workspaceId ← parseId c.workspaceId
  let userId ← parseId c.userId
  let requestId ← parseId c.requestId
  let sessionId ← parseId c.sessionId
  let correlationId ← parseId c.correlationId
  if c.idempotencyKey.toList.all isSpace || decide (255 < c.idempotencyKey.utf8ByteSize) ||
      !c.permissions.contains "iac:write" then none
  else some ⟨⟨workspaceId, userId, c.permissions, requestId, correlationId, sessionId, c.idempotencyKey⟩, manifestId⟩

structure RunLock where
  session : String
  correlation : String
  requester : String
  state : String
  version : Nat
  active : Option Nat
  validated : Option Nat
  confirmed : Option Nat
  confirmedAt : Option String
  deriving DecidableEq

def RunLock.matches (run : RunLock) (r : Request) (version : Nat) : Bool :=
  let c := r.context
  run.session == c.sessionId && run.correlation == c.correlationId && run.requester == c.userId &&
    run.confirmedAt.isSome && run.active == some version && run.validated == some version &&
    run.confirmed == some version

structure Unsupported where
  logicalName : String
  type : String
  status : String
  deriving DecidableEq

structure Failure where
  status : Nat
  code : String
  message : String
  unsupported : List Unsupported := []
  deriving DecidableEq

structure Summary where
  resourceCount : Nat
  fileCount : Nat
  deriving DecidableEq

structure Artifact where
  id : String
  manifestId : String
  manifestVersion : Nat
  runId : String
  workspaceId : String
  sessionId : String
  files : List TerraformFile
  fileList : List String
  fileCount : Nat
  totalSize : Nat
  hash : String
  templateSource : String
  summary : Summary
  deriving DecidableEq

namespace Artifact

section Construction

variable [Platform]

def hashed (files : List TerraformFile) : String :=
  String.join (files.map fun file => file.path ++ nulChar ++ file.content ++ nulChar)

def totalSizeOf (files : List TerraformFile) : Nat := (files.map fun file => file.content.utf8ByteSize).sum

def construct (id : String) (input : Request) (version : Nat) (files : List TerraformFile)
    (resourceCount : Nat) : Artifact where
  id := id
  manifestId := input.manifestId
  manifestVersion := version
  runId := input.context.requestId
  workspaceId := input.context.workspaceId
  sessionId := input.context.sessionId
  files := files
  fileList := files.map TerraformFile.path
  fileCount := files.length
  totalSize := totalSizeOf files
  hash := Platform.sha256Hex (hashed files)
  templateSource := "template"
  summary := ⟨resourceCount, files.length⟩

def tooLarge (a : Artifact) : Bool := decide (4 * 1024 * 1024 < a.totalSize) || decide (1000 < a.summary.resourceCount)

end Construction

section Json

def text (s : String) : JsJson := .str s

def int (n : Nat) : JsJson := .num (JsNumber.ofNat n)

def fileJson (file : TerraformFile) : JsJson := .obj [("path", text file.path), ("content", text file.content)]

def fields (a : Artifact) : JsFields :=
  [("iac_artifact_id", text a.id), ("manifest_id", text a.manifestId), ("manifest_version", int a.manifestVersion),
    ("run_id", text a.runId), ("workspace_id", text a.workspaceId), ("session_id", text a.sessionId),
    ("terraform_files", .arr (a.files.map fileJson)), ("file_list", .arr (a.fileList.map text)),
    ("file_count", int a.fileCount), ("total_size", int a.totalSize), ("hash", text a.hash),
    ("template_source", text a.templateSource),
    ("summary", .obj [("resource_count", int a.summary.resourceCount), ("file_count", int a.summary.fileCount)])]

-- json.Marshal of the struct
def json (a : Artifact) : JsJson := .obj a.fields

-- json.Unmarshal: what is missing or null keeps its zero value.
def asText : Option JsJson → Option String
  | none | some .null => some ""
  | some (.str s) => some s
  | some _ => none

def asInt : Option JsJson → Option Nat
  | none | some .null => some 0
  | some (.num n) => n.toNat?
  | some _ => none

def asFields : Option JsJson → Option JsFields
  | none | some .null => some []
  | some (.obj fs) => some fs
  | some _ => none

def asArray {α : Type} (read : Option JsJson → Option α) : Option JsJson → Option (List α)
  | none | some .null => some []
  | some (.arr items) => items.mapM fun j => read (some j)
  | some _ => none

def asFile (j : Option JsJson) : Option TerraformFile := do
  let fs ← asFields j
  return ⟨← asText (fs.lookup "path"), ← asText (fs.lookup "content")⟩

def asSummary (j : Option JsJson) : Option Summary := do
  let fs ← asFields j
  return ⟨← asInt (fs.lookup "resource_count"), ← asInt (fs.lookup "file_count")⟩

def unmarshal (j : JsJson) : Option Artifact := do
  let fs ← asFields (some j)
  return { id := ← asText (fs.lookup "iac_artifact_id")
           manifestId := ← asText (fs.lookup "manifest_id")
           manifestVersion := ← asInt (fs.lookup "manifest_version")
           runId := ← asText (fs.lookup "run_id")
           workspaceId := ← asText (fs.lookup "workspace_id")
           sessionId := ← asText (fs.lookup "session_id")
           files := ← asArray asFile (fs.lookup "terraform_files")
           fileList := ← asArray asText (fs.lookup "file_list")
           fileCount := ← asInt (fs.lookup "file_count")
           totalSize := ← asInt (fs.lookup "total_size")
           hash := ← asText (fs.lookup "hash")
           templateSource := ← asText (fs.lookup "template_source")
           summary := ← asSummary (fs.lookup "summary") }

end Json

section RoundTrip

theorem lookup_jsonb (fs : JsFields) (nodup : (fs.map Prod.fst).Nodup) :
    ∃ stored, Json.jsonb (Json.obj fs) = Json.obj stored ∧
      ∀ k, stored.lookup k = (fs.lookup k).map Json.jsonb :=
  ⟨_, rfl, Json.lookup_normalized Json.jsonbRank_injective nodup⟩

@[simp] theorem jsonb_text (s : String) : Json.jsonb (text s) = text s := rfl

@[simp] theorem jsonb_int (n : Nat) : Json.jsonb (int n) = int n := rfl

@[simp] theorem asText_text (s : String) : asText (some (text s)) = some s := rfl

@[simp] theorem asInt_int (n : Nat) : asInt (some (int n)) = some n := JsNumber.toNat?_ofNat n

theorem asArray_jsonb {α : Type} {read : Option JsJson → Option α} {write : α → JsJson}
    (trip : ∀ a, read (some (Json.jsonb (write a))) = some a) (l : List α) :
    asArray read (some (Json.jsonb (.arr (l.map write)))) = some l := by
  change (Json.normalizeItems Json.jsonbRank (l.map write)).mapM (fun j => read (some j)) = some l
  rw [Json.normalizeItems_eq_map]
  induction l with
  | nil => rfl
  | cons a l ih =>
    have head : read (some (Json.normalize Json.jsonbRank (write a))) = some a := trip a
    simp only [List.map_cons, List.mapM_cons, head, ih]
    rfl

theorem asFile_jsonb (file : TerraformFile) : asFile (some (Json.jsonb (fileJson file))) = some file := by
  obtain ⟨stored, hstored, lookup⟩ := lookup_jsonb [("path", text file.path), ("content", text file.content)]
    (by simp)
  rw [fileJson, hstored]
  simp [asFile, asFields, lookup, List.lookup_cons]

theorem asSummary_jsonb (s : Summary) : asSummary (some (Json.jsonb (.obj [("resource_count", int s.resourceCount),
    ("file_count", int s.fileCount)]))) = some s := by
  obtain ⟨stored, hstored, lookup⟩ := lookup_jsonb [("resource_count", int s.resourceCount),
    ("file_count", int s.fileCount)] (by simp)
  rw [hstored]
  simp [asSummary, asFields, lookup, List.lookup_cons]

theorem unmarshal_jsonb (a : Artifact) : unmarshal (Json.jsonb a.json) = some a := by
  obtain ⟨stored, hstored, lookup⟩ := lookup_jsonb a.fields (by simp [fields])
  have stores : ∀ {k : String} {v : JsJson}, a.fields.lookup k = some v → stored.lookup k = some (Json.jsonb v) :=
    fun h => (lookup _).trans (congrArg (Option.map Json.jsonb) h)
  have texts : asArray asText (some (Json.jsonb (.arr (a.fileList.map text)))) = some a.fileList :=
    asArray_jsonb (fun _ => rfl) a.fileList
  rw [json, hstored, unmarshal]
  change (asText (stored.lookup "iac_artifact_id")).bind _ = _
  rw [stores (k := "iac_artifact_id") rfl, stores (k := "manifest_id") rfl, stores (k := "manifest_version") rfl,
    stores (k := "run_id") rfl, stores (k := "workspace_id") rfl, stores (k := "session_id") rfl,
    stores (k := "terraform_files") rfl, stores (k := "file_list") rfl, stores (k := "file_count") rfl,
    stores (k := "total_size") rfl, stores (k := "hash") rfl, stores (k := "template_source") rfl,
    stores (k := "summary") rfl, jsonb_int, jsonb_int, jsonb_int, asInt_int, asInt_int, asInt_int,
    asArray_jsonb asFile_jsonb, texts, asSummary_jsonb]
  rfl

theorem storable_json {a : Artifact}
    (texts : ∀ s ∈ [a.id, a.manifestId, a.runId, a.workspaceId, a.sessionId, a.hash, a.templateSource] ++ a.fileList,
      Json.storableText s = true)
    (files : ∀ f ∈ a.files, Json.storableText f.path = true ∧ Json.storableText f.content = true) :
    a.json.storable = true := by
  have keys : ∀ k ∈ ["iac_artifact_id", "manifest_id", "manifest_version", "run_id", "workspace_id", "session_id",
      "terraform_files", "file_list", "file_count", "total_size", "hash", "template_source", "summary", "path",
      "content", "resource_count"], Json.storableText k = true := by decide
  have list : Json.storableItems (a.fileList.map text) = true := by
    refine Json.storableItems_iff.mpr fun x hx => ?_
    obtain ⟨s, hs, rfl⟩ := List.mem_map.mp hx
    exact texts s (List.mem_append.mpr (Or.inr hs))
  have contents : Json.storableItems (a.files.map fileJson) = true := by
    refine Json.storableItems_iff.mpr fun x hx => ?_
    obtain ⟨f, hf, rfl⟩ := List.mem_map.mp hx
    simp [fileJson, text, Json.storable, Json.storableFields, keys, files f hf]
  simp only [List.forall_mem_append, List.forall_mem_cons, List.not_mem_nil, false_implies, implies_true, and_true] at texts keys
  simp [json, fields, text, int, Json.storable, Json.storableFields, texts, keys, list, contents]

end RoundTrip

end Artifact

end Provisr.Backend
