import Provisr.Foundation.PyText
import Provisr.Foundation.Zod

namespace Provisr.Agent

open Provisr.Foundation

structure PolicyRequirements where
  enabled : Bool
  allowedRegions : List String
  maxBudget : Option JsNumber
  requiredTags : List (String × String)
  prohibitedResourceTypes : List String
  requiredEncryption : Bool
  requiredBackup : Bool
  deriving DecidableEq

def isLowerWord (cs : List Char) : Bool := !cs.isEmpty && cs.all JsText.isLower

-- ^[a-z]{2}(?:-gov)?-[a-z]+-[0-9]+$
def isRegion (s : String) : Bool :=
  match s.toList.splitOn '-' with
  | [country, area, number] =>
    country.length == 2 && isLowerWord country && isLowerWord area && !number.isEmpty && number.all Char.isDigit
  | [country, gov, area, number] =>
    country.length == 2 && isLowerWord country && gov == ['g', 'o', 'v'] && isLowerWord area && !number.isEmpty &&
      number.all Char.isDigit
  | _ => false

-- ^[a-z][a-z0-9_]*$
def isResourceType (s : String) : Bool := JsText.isFieldName s.toList

def isBlank (s : String) : Bool := s.toList.all PyText.isSpace

namespace PolicyRequirements

-- Of what pydantic coerces, a context holds only values of the declared types.
def boolean (default : Bool) : Option JsJson → Option Bool
  | none => some default
  | some (.bool b) => some b
  | some _ => none

def text : JsJson → Option String
  | .str s => some s
  | _ => none

def strings : Option JsJson → Option (List String)
  | none => some []
  | some (.arr items) => items.mapM text
  | some _ => none

def positive : Option JsJson → Option (Option JsNumber)
  | none | some .null => some none
  | some (.num n) => if n.negative || n.digits.isEmpty then none else some (some n)
  | some _ => none

def dict : Option JsJson → Option (List (String × String))
  | none => some []
  | some (.obj fs) => fs.mapM fun f => (text f.2).map fun s => (f.1, s)
  | some _ => none

def validate_regions (values : List String) : Bool := decide values.Nodup && values.all isRegion

def validate_tags (values : List (String × String)) : Bool := values.all fun t => !isBlank t.1 && !isBlank t.2

def validate_resource_types (values : List String) : Bool := decide values.Nodup && values.all isResourceType

def known : List String :=
  ["enabled", "allowed_regions", "max_budget", "required_tags", "prohibited_resource_types", "required_encryption",
    "required_backup"]

def model_validate : JsJson → Option PolicyRequirements
  | .obj fs => do
    let enabled ← boolean true (fs.lookup "enabled")
    let regions ← (strings (fs.lookup "allowed_regions")).filter validate_regions
    let maxBudget ← positive (fs.lookup "max_budget")
    let tags ← (dict (fs.lookup "required_tags")).filter validate_tags
    let prohibited ← (strings (fs.lookup "prohibited_resource_types")).filter validate_resource_types
    let encryption ← boolean false (fs.lookup "required_encryption")
    let backup ← boolean false (fs.lookup "required_backup")
    if fs.all fun f => known.contains f.1 then
      some ⟨enabled, regions, maxBudget, tags, prohibited, encryption, backup⟩
    else none
  | _ => none

end PolicyRequirements

end Provisr.Agent
