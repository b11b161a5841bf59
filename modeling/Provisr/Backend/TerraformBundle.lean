import Provisr.Backend.TerraformRender

namespace Provisr.Backend.Terraform

open Provisr.Foundation
open Provisr.Orchestrator (TerraformFile)

section Names

-- The cloud name of a bucket, which the canonical projection keeps as `name`.
def renameS3 (r : Resource) : Except String Resource :=
  if r.type ≠ "storage.aws.s3" ∨ isNil (r.properties.get? "name") = true then .ok r
  else
    match r.properties.get? "name" with
    | some (.str name) =>
      match r.properties.get? "bucket" with
      | some (.str bucket) =>
        if bucket ≠ name then .error "conflicting S3 cloud names"
        else .ok { r with properties := (r.properties.set "bucket" (.str name)).erase "name" }
      | some _ => .error "conflicting S3 cloud names"
      | none => .ok { r with properties := (r.properties.set "bucket" (.str name)).erase "name" }
    | _ => .error "invalid S3 cloud name"

def renamed (m : Manifest) : Except String Manifest := do
  let resources ← m.resources.mapM renameS3
  return { m with resources }

end Names

section Parts

variable [GoUnicode]

def awsProvider : String :=
  "terraform \x7b\n  required_providers \x7b\n" ++
    "    aws = \x7b source = \"hashicorp/aws\", version = \"~> 5.0\" \x7d\n  \x7d\n  backend \"s3\" \x7b\x7d\n\x7d\n" ++
    "provider \"aws\" \x7b\n  region = var.region\n\x7d\n"

def ProviderConfig (provider : String) : Except String String :=
  match ToLower (TrimSpace provider) with
  | "aws" => .ok awsProvider
  | "azure" => .ok ("terraform \x7b\n  required_providers \x7b\n" ++
      "    azurerm = \x7b source = \"hashicorp/azurerm\", version = \"~> 4.0\" \x7d\n  \x7d\n" ++
      "  backend \"azurerm\" \x7b\x7d\n\x7d\nprovider \"azurerm\" \x7b\n  features \x7b\x7d\n\x7d\n")
  | "gcp" => .ok ("terraform \x7b\n  required_providers \x7b\n" ++
      "    google = \x7b source = \"hashicorp/google\", version = \"~> 6.0\" \x7d\n  \x7d\n  backend \"gcs\" \x7b\x7d\n\x7d\n" ++
      "provider \"google\" \x7b\n  region = var.region\n\x7d\n")
  | _ => .error "unsupported provider"

structure Part where
  declaration : String
  value : String
  argument : String
  domain : String
  content : String
  output : String

def domainOf (s : Spec) : String := String.ofList ((s.path.toList.splitOn '/').headD [])

def contentOf (rendered : List TerraformFile) (r : Resource) : String :=
  String.join ((rendered.filter fun file => file.path == "resource_" ++ r.logicalName ++ ".tf").map fun file =>
    file.content ++ "\n")

def part (rendered : List TerraformFile) (r : Resource) : Except String Part := do
  let s := specOf (TrimSpace r.type)
  let props ← properties r s
  let variable_ := "r_" ++ r.logicalName
  return {
    declaration := "variable " ++ hcl (.str variable_) ++ " \x7b\n  type = any\n\x7d\n"
    value := variable_ ++ " = " ++ hcl (.obj props.entries) ++ "\n"
    argument := "  " ++ variable_ ++ " = var." ++ variable_ ++ "\n"
    domain := domainOf s
    content := contentOf rendered r
    output := "    " ++ hcl (.str r.logicalName) ++ " = " ++ s.terraformType ++ ".r_" ++ r.logicalName ++ ".id\n" }

def domainFile (parts : List Part) (domain : String) : TerraformFile :=
  ⟨"resources/" ++ domain ++ ".tf", String.join ((parts.filter fun p => p.domain == domain).map Part.content)⟩

def bundleFiles (m : Manifest) (provider : String) (parts : List Part) : List TerraformFile :=
  [⟨"outputs.tf", "output \"resource_ids\" \x7b\n  value = module.resources.resource_ids\n\x7d\n"⟩,
    ⟨"main.tf", provider ++ "module \"resources\" \x7b\n  source = \"./resources\"\n" ++
      String.join (parts.map Part.argument) ++ "\x7d\n"⟩,
    ⟨"variables.tf", "variable \"region\" \x7b\n  type = string\n\x7d\n" ++ String.join (parts.map Part.declaration)⟩,
    ⟨"terraform.tfvars", "region = " ++ hcl (.str (TrimSpace m.region)) ++ "\n" ++ String.join (parts.map Part.value)⟩,
    ⟨"resources/variables.tf", String.join (parts.map Part.declaration)⟩] ++
  ((parts.map Part.domain).dedup.map (domainFile parts)) ++
  [⟨"resources/outputs.tf", "output \"resource_ids\" \x7b\n  value = \x7b\n" ++ String.join (parts.map Part.output) ++
    "  \x7d\n\x7d\n"⟩]

def byPath (files : List TerraformFile) : List TerraformFile := sortStable (fun file => file.path) files

def bundle (m : Manifest) (rendered : List TerraformFile) : Except String (List TerraformFile) := do
  let provider ← ProviderConfig m.provider
  let parts ← (byName m.resources).mapM (part rendered)
  return byPath (bundleFiles m provider parts)

def Bundle [GoRuntime] (m : Option Manifest) : Result × Option String :=
  match m with
  | none => render none true
  | some m =>
    match renamed m with
    | .error err => (⟨[], []⟩, some err)
    | .ok m =>
      let (rendered, err) := render (some m) true
      if err.isSome ∨ 0 < rendered.unsupported.length then (rendered, err)
      else
        match bundle m rendered.files with
        | .error err => (⟨[], []⟩, some err)
        | .ok files => (⟨files, []⟩, none)

end Parts

end Provisr.Backend.Terraform
