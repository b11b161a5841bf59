import Provisr.Backend.IacArtifact
import Provisr.Foundation.StableSort
import Provisr.Mcp.ManifestCreation
import Mathlib.Data.List.Dedup

namespace Provisr.Mcp

open Provisr.Foundation
open Provisr.Backend (Summary Unsupported)
open Provisr.Orchestrator (TerraformFile Platform HttpResponse isSha256 nilUuid nulChar)

-- PurePosixPath: what stands before its parts, its parts, and the text it is printed as.
section Paths

def root : List Char → List Char
  | '/' :: '/' :: '/' :: _ => ['/']
  | '/' :: '/' :: _ => ['/', '/']
  | '/' :: _ => ['/']
  | _ => []

def pathParts (path : List Char) : List (List Char) := (path.splitOn '/').filter fun s => s != [] && s != ['.']

def posixText (path : List Char) : List Char :=
  let text := root path ++ ['/'].intercalate (pathParts path)
  if text = [] then ['.'] else text

def suffix (name : List Char) : List Char :=
  let extension := name.rtakeWhile (· != '.')
  if extension ≠ [] ∧ extension.length + 1 < name.length then '.' :: extension else []

def safePath (path : String) : Bool :=
  let cs := path.toList
  root cs == [] && !(pathParts cs).contains ['.', '.'] && !cs.contains Json.backslash && !cs.contains (Char.ofNat 0) &&
    posixText cs == cs && [".tf".toList, ".tfvars".toList].contains (suffix ((pathParts cs).getLast?.getD []))

end Paths

section Models

def textField (test : String → Bool) : Option JsJson → Option String
  | some (.str s) => (some s).filter test
  | _ => none

def wholeField (test : Nat → Bool) : Option JsJson → Option Nat
  | some (.num n) => n.toNat?.filter test
  | _ => none

def listField {α : Type} (low high : Nat) (read : Option JsJson → Option α) : Option JsJson → Option (List α)
  | some (.arr items) =>
    if low ≤ items.length ∧ items.length ≤ high then items.mapM fun j => read (some j) else none
  | _ => none

-- extra="forbid"
def modelFields (known : List String) : Option JsJson → Option JsFields
  | some (.obj fs) => if fs.all fun f => known.contains f.1 then some fs else none
  | _ => none

def between (low high n : Nat) : Bool := low ≤ n && n ≤ high

def maxSize : Nat := 4 * 1024 * 1024

def TerraformFile.modelValidate (j : Option JsJson) : Option TerraformFile := do
  let fs ← modelFields ["path", "content"] j
  let path ← textField (fun s => between 1 256 s.length) (fs.lookup "path")
  let content ← textField (fun s => s.length ≤ maxSize) (fs.lookup "content")
  if safePath path then return ⟨path, content⟩ else none

def Summary.modelValidate (j : Option JsJson) : Option Summary := do
  let fs ← modelFields ["resource_count", "file_count"] j
  return ⟨← wholeField (between 1 1000) (fs.lookup "resource_count"), ← wholeField (between 1 1000) (fs.lookup "file_count")⟩

structure IaCArtifact where
  iacArtifactId : String
  manifestId : String
  manifestVersion : Nat
  runId : String
  workspaceId : String
  sessionId : String
  terraformFiles : List TerraformFile
  fileList : List String
  fileCount : Nat
  totalSize : Nat
  hash : String
  templateSource : String
  summary : Summary
  deriving DecidableEq

namespace IaCArtifact

def required : List String := ["main.tf", "variables.tf", "outputs.tf", "terraform.tfvars"]

def verifyBundle [Platform] (a : IaCArtifact) : Bool :=
  let paths := a.terraformFiles.map fun file => file.path
  let size := (a.terraformFiles.map fun file => file.content.utf8ByteSize).sum
  let hashed := String.join (a.terraformFiles.map fun file => file.path ++ nulChar ++ file.content ++ nulChar)
  paths == sortStable id paths.dedup && paths == a.fileList && a.fileCount == paths.length &&
    a.summary.fileCount == paths.length && required.all paths.contains &&
    paths.any (fun path => "resources/".toList.isPrefixOf path.toList) && a.totalSize == size &&
    a.hash == Platform.sha256Hex hashed &&
    !([a.iacArtifactId, a.manifestId, a.runId, a.workspaceId, a.sessionId].contains nilUuid)

def keys : List String :=
  ["iac_artifact_id", "manifest_id", "manifest_version", "run_id", "workspace_id", "session_id", "terraform_files",
    "file_list", "file_count", "total_size", "hash", "template_source", "summary"]

def modelValidate [Platform] (j : Option JsJson) : Option IaCArtifact := do
  let fs ← modelFields keys j
  let artifact : IaCArtifact := {
    iacArtifactId := ← uuidField (fs.lookup "iac_artifact_id")
    manifestId := ← uuidField (fs.lookup "manifest_id")
    manifestVersion := ← wholeField (1 ≤ ·) (fs.lookup "manifest_version")
    runId := ← uuidField (fs.lookup "run_id")
    workspaceId := ← uuidField (fs.lookup "workspace_id")
    sessionId := ← uuidField (fs.lookup "session_id")
    terraformFiles := ← listField 1 1000 TerraformFile.modelValidate (fs.lookup "terraform_files")
    fileList := ← listField 1 1000 (textField fun _ => true) (fs.lookup "file_list")
    fileCount := ← wholeField (between 1 1000) (fs.lookup "file_count")
    totalSize := ← wholeField (between 1 maxSize) (fs.lookup "total_size")
    hash := ← textField isSha256 (fs.lookup "hash")
    templateSource := ← textField (· == "template") (fs.lookup "template_source")
    summary := ← Summary.modelValidate (fs.lookup "summary") }
  if artifact.verifyBundle then return artifact else none

def json (a : IaCArtifact) : JsJson :=
  .obj [("iac_artifact_id", .str a.iacArtifactId), ("manifest_id", .str a.manifestId),
    ("manifest_version", .num (JsNumber.ofNat a.manifestVersion)), ("run_id", .str a.runId),
    ("workspace_id", .str a.workspaceId), ("session_id", .str a.sessionId),
    ("terraform_files", .arr (a.terraformFiles.map fun file =>
      .obj [("path", .str file.path), ("content", .str file.content)])),
    ("file_list", .arr (a.fileList.map .str)), ("file_count", .num (JsNumber.ofNat a.fileCount)),
    ("total_size", .num (JsNumber.ofNat a.totalSize)), ("hash", .str a.hash), ("template_source", .str a.templateSource),
    ("summary", .obj [("resource_count", .num (JsNumber.ofNat a.summary.resourceCount)),
      ("file_count", .num (JsNumber.ofNat a.summary.fileCount))])]

end IaCArtifact

def isUnsupportedName (s : String) : Bool :=
  between 1 64 s.length && s.toList.all fun c => JsText.isLower c || c.isDigit || c == '_' || c == '-'

def isUnsupportedType (s : String) : Bool :=
  between 1 128 s.length && s.toList.all fun c => JsText.isLower c || c.isDigit || c == '_' || c == '.' || c == '-'

def Unsupported.modelValidate (j : Option JsJson) : Option Unsupported := do
  let fs ← modelFields ["logical_name", "type", "status"] j
  return ⟨← textField isUnsupportedName (fs.lookup "logical_name"), ← textField isUnsupportedType (fs.lookup "type"),
    ← textField (· == "unsupported") (fs.lookup "status")⟩

-- UnsupportedResult, of which the endpoint passes on the resources.
def UnsupportedResult.modelValidate (j : Option JsJson) : Option (List Unsupported) := do
  let fs ← modelFields ["error", "message", "unsupported"] j
  let _ ← textField (· == "unsupported") (fs.lookup "error")
  let _ ← textField (fun _ => true) (fs.lookup "message")
  listField 1 1000 Unsupported.modelValidate (fs.lookup "unsupported")

end Models

section Endpoint

structure HTTPException where
  status : Nat
  detail : JsJson
  deriving DecidableEq

def unavailable : HTTPException := ⟨502, .str "Terraform artifact generation unavailable"⟩

def unsupportedDetail (items : List Unsupported) : JsJson :=
  .obj [("error", .str "unsupported"), ("message", .str "Manifest includes unsupported resource types"),
    ("unsupported", .arr (items.map fun u =>
      .obj [("logical_name", .str u.logicalName), ("type", .str u.type), ("status", .str u.status)]))]

def MAX_RESPONSE_BYTES : Nat := 8 * 1024 * 1024

-- What the endpoint makes of the response of the generator; `manifestId` is as the payload's UUID is printed.
def generateIac [Platform] (manifestId : String) (context : MCPContext) (response : HttpResponse) :
    Except HTTPException IaCArtifact :=
  if MAX_RESPONSE_BYTES < response.size then .error unavailable
  else
    match response.status with
    | 422 =>
      match UnsupportedResult.modelValidate response.json with
      | none => .error ⟨422, .str "Manifest cannot be rendered by reviewed templates"⟩
      | some items => .error ⟨422, unsupportedDetail items⟩
    | 403 => .error ⟨403, .str "IaC generation not permitted"⟩
    | 404 => .error ⟨404, .str "Manifest not found in run"⟩
    | 409 => .error ⟨409, .str ("Manifest or run changed; " ++
        "generation requires a validated, confirmed version and matching retry key")⟩
    | 200 =>
      match IaCArtifact.modelValidate response.json with
      | none => .error unavailable
      | some artifact =>
        if artifact.manifestId ≠ manifestId ∨ artifact.runId ≠ context.requestId ∨
            artifact.workspaceId ≠ context.workspaceId ∨ artifact.sessionId ≠ context.sessionId then .error unavailable
        else .ok artifact
    | _ => .error unavailable

end Endpoint

end Provisr.Mcp
