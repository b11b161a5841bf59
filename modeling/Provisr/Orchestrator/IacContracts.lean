import Provisr.Orchestrator.ProvisioningRun
import Mathlib.Data.List.Sort

namespace Provisr.Orchestrator

open Provisr.Foundation Zod

-- node:crypto and the WHATWG URL parser
class Platform where
  sha256Hex : String → String
  isUrl : String → Bool

structure TerraformFile where
  path : String
  content : String
  deriving DecidableEq

structure IacArtifact where
  iacArtifactId : String
  manifestId : String
  manifestVersion : Nat
  runId : String
  workspaceId : String
  sessionId : String
  terraformFiles : List TerraformFile
  fileList : List String
  fileCount : Nat
  totalSize : Nat
  hash : String
  resourceCount : Nat
  summaryFileCount : Nat
  deriving DecidableEq

def nilUuid : String := "00000000-0000-0000-0000-000000000000"

def iacUuid : Schema String := check (fun s => s != nilUuid) "custom" uuid

def isSha256 (s : String) : Bool :=
  s.toList.length == 64 && s.toList.all fun c => c.isDigit || ('a' ≤ c && c ≤ 'f')

def terraformFileSchema : Schema TerraformFile := strict ["path", "content"] fun fs => do
  let (path, content) ← both (max 256 (min 1 string) (fs.lookup "path"))
    (max (4 * 1024 * 1024) string (fs.lookup "content"))
  return ⟨path, content⟩

def iacSummarySchema : Schema (Nat × Nat) := strict ["resource_count", "file_count"] fun fs =>
  both (natural 1 (some 1000) (fs.lookup "resource_count")) (natural 1 (some 1000) (fs.lookup "file_count"))

def iacArtifactSchema : Schema IacArtifact :=
  strict ["iac_artifact_id", "manifest_id", "manifest_version", "run_id", "workspace_id", "session_id",
    "terraform_files", "file_list", "file_count", "total_size", "hash", "template_source", "summary"]
    fun fs => do
      let ((id, manifestId, version), (runId, workspaceId, sessionId), (files, fileList), (fileCount,
          totalSize), hash, _, summary) ←
        both (both (iacUuid (fs.lookup "iac_artifact_id")) (both (iacUuid (fs.lookup "manifest_id"))
            (natural 1 none (fs.lookup "manifest_version"))))
          (both (both (iacUuid (fs.lookup "run_id")) (both (iacUuid (fs.lookup "workspace_id"))
              (iacUuid (fs.lookup "session_id"))))
            (both (both (arrayOf 1 (some 1000) terraformFileSchema (fs.lookup "terraform_files"))
                (arrayOf 1 (some 1000) string (fs.lookup "file_list")))
              (both (both (natural 1 (some 1000) (fs.lookup "file_count"))
                  (natural 1 (some (4 * 1024 * 1024)) (fs.lookup "total_size")))
                (both (regex isSha256 string (fs.lookup "hash"))
                  (both (literal (.str "template") (fs.lookup "template_source"))
                    (iacSummarySchema (fs.lookup "summary")))))))
      return ⟨id, manifestId, version, runId, workspaceId, sessionId, files, fileList, fileCount,
        totalSize, hash, summary.1, summary.2⟩

def assertConfirmedManifest (run : ProvisioningRun) : Except ServiceError Unit :=
  if run.manifestVersion.getD 0 = 0 ∨ run.manifestVersion ≠ run.manifestValidatedVersion ∨
      run.manifestVersion ≠ run.manifestConfirmedVersion ∨ run.manifestConfirmedAt.isNone then
    .error (.iacGeneration "IAC_MANIFEST_NOT_CONFIRMED"
      "IaC generation requires the active validated and confirmed manifest.")
  else .ok ()

def utf16 (s : String) : List Nat :=
  s.toList.flatMap fun c =>
    if c.toNat < 0x10000 then [c.toNat]
    else [0xD800 + (c.toNat - 0x10000) / 0x400, 0xDC00 + (c.toNat - 0x10000) % 0x400]

-- Array.prototype.sort compares UTF-16 code units.
def insertSorted (s : String) : List String → List String
  | [] => [s]
  | t :: ts => if utf16 t < utf16 s then t :: insertSorted s ts else s :: t :: ts

def sortTexts (ss : List String) : List String := ss.foldr insertSorted []

def segments (path : String) : List (List Char) := path.toList.splitOn '/'

-- posix.normalize of a relative path without ".." segments
def normalizePath (path : String) : String :=
  let kept := (segments path).filter fun s => s != [] && s != ['.']
  let body := ['/'].intercalate kept
  if body = [] then (if path.toList.getLast? = some '/' then "./" else ".")
  else if path.toList.getLast? = some '/' then String.ofList (body ++ ['/'])
  else String.ofList body

def isTerraformName (path : String) : Bool :=
  ".tf".toList.isSuffixOf path.toList || ".tfvars".toList.isSuffixOf path.toList

def badPath (path : String) : Bool :=
  path.toList.contains Json.backslash || path.toList.contains (Char.ofNat 0) ||
    (segments path).contains ['.', '.'] || path.toList.head? == some '/' ||
    normalizePath path != path || !isTerraformName path

def nulChar : String := String.ofList [Char.ofNat 0]

def verifyIacArtifact [Platform] (value : JsJson) (run : ProvisioningRun) (manifestId : String) :
    Except ServiceError IacArtifact :=
  let invalid : Except ServiceError IacArtifact :=
    .error (.iacGeneration "IAC_INVALID_ARTIFACT" "Generated Terraform could not be verified.")
  match (iacArtifactSchema (some value)).parsed with
  | .error _ => invalid
  | .ok a =>
    if a.manifestId ≠ manifestId ∨ some a.manifestVersion ≠ run.manifestVersion ∨ a.runId ≠ run.id ∨
        a.workspaceId ≠ run.workspaceId ∨ a.sessionId ≠ run.sessionId then invalid
    else
      let paths := a.terraformFiles.map TerraformFile.path
      if paths.any badPath || paths != sortTexts (distinct paths) || paths != a.fileList ||
          a.fileCount != paths.length || a.summaryFileCount != paths.length ||
          !(["main.tf", "outputs.tf", "variables.tf", "terraform.tfvars"].all paths.contains) ||
          !paths.any (fun path => "resources/".toList.isPrefixOf path.toList) then invalid
      else
        let hashed := String.join (a.terraformFiles.map fun file =>
          file.path ++ nulChar ++ file.content ++ nulChar)
        let size := (a.terraformFiles.map fun file => file.content.utf8ByteSize).sum
        if size ≠ a.totalSize ∨ Platform.sha256Hex hashed ≠ a.hash then invalid else .ok a

def iacIdempotencyKey (run : ProvisioningRun) (manifestId : String) : String :=
  "iac:" ++ run.id ++ ":" ++ manifestId

end Provisr.Orchestrator
