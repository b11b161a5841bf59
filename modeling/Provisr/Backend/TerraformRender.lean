import Provisr.Backend.HclLiterals
import Provisr.Backend.IacArtifact
import Provisr.Backend.ManifestValidator
import Provisr.Backend.PolicyEvaluator
import Provisr.Foundation.GoMap
import Provisr.Foundation.StableSort
import Provisr.Foundation.TextTemplate

namespace Provisr.Backend.Terraform

open Provisr.Foundation Provisr.Foundation.TextTemplate
open Provisr.Orchestrator (TerraformFile)

structure SecuritySettings where
  publicAccess : Bool
  encryptionEnabled : Bool
  encryptionType : String

structure Unknown where
  field : String
  description : String
  suggestedValue : String

structure Resource extends Validator.Resource where
  properties : GoMap (Json Literal)
  tags : GoMap String
  securitySettings : Option SecuritySettings

structure Manifest where
  schemaVersion : String
  provider : String
  region : String
  resources : List Resource
  unknowns : List Unknown
  costEstimate : Option Validator.CostEstimate
  tags : GoMap String

def Manifest.validated (m : Manifest) : Validator.Manifest :=
  ⟨m.schemaVersion, m.provider, m.region, m.resources.map Resource.toResource, m.costEstimate⟩

structure Result where
  files : List TerraformFile
  unsupported : List Unsupported

structure Spec where
  path : String
  terraformType : String
  fields : List String

def catalog : List (String × Spec) :=
  [("compute.aws.instance", ⟨"compute/aws/ec2.hcl", "aws_instance", ["ami", "instance_type", "subnet_id"]⟩),
    ("storage.aws.s3", ⟨"storage/aws/s3.hcl", "aws_s3_bucket", ["bucket", "versioning"]⟩),
    ("database.aws.rds", ⟨"database/aws/rds.hcl", "aws_db_instance", ["identifier", "engine", "engine_version",
      "instance_class", "allocated_storage", "master_username", "db_subnet_group_name", "vpc_security_group_ids"]⟩),
    ("network.aws.vpc", ⟨"networking/aws/vpc.hcl", "aws_vpc", ["cidr_block"]⟩),
    ("network.aws.subnet", ⟨"networking/aws/subnet.hcl", "aws_subnet", ["vpc_id", "cidr_block", "availability_zone"]⟩),
    ("network.aws.security_group",
      ⟨"networking/aws/security_group.hcl", "aws_security_group", ["vpc_id", "description"]⟩)]

-- catalog[kind], which is the zero spec of a kind that is not there
def specOf (kind : String) : Spec := (catalog.lookup kind).getD ⟨"", "", []⟩

section Properties

def plainDecimal (limit : Nat) (cs : List Char) : Option Nat :=
  if cs ≠ [] ∧ cs.all Char.isDigit = true ∧ (cs.length = 1 ∨ cs.head? ≠ some '0') ∧ Nat.ofDigitChars 10 cs 0 ≤ limit then
    some (Nat.ofDigitChars 10 cs 0)
  else none

def parseIPv4 (cs : List Char) : Option Nat :=
  match cs.splitOn '.' with
  | [a, b, c, d] => do
    return (((← plainDecimal 255 a) * 256 + (← plainDecimal 255 b)) * 256 + (← plainDecimal 255 c)) * 256 +
      (← plainDecimal 255 d)
  | _ => none

-- netip.ParsePrefix gives an IPv4 prefix that is its own mask.
def canonicalIPv4 (value : String) : Bool :=
  match value.toList.splitOn '/' with
  | [address, bits] =>
    match parseIPv4 address, plainDecimal 32 bits with
    | some n, some k => n % 2 ^ (32 - k) == 0
    | _, _ => false
  | _ => false

-- A number that json.Unmarshal reads as an integer of the range.
def storageSize : Json Literal → Bool
  | .num n =>
    let size := Policy.float64Of n
    !n.negative && decide (20 * Float64.scale ≤ size) && decide (size ≤ 16384 * Float64.scale) && size % Float64.scale == 0
  | _ => false

-- json.Unmarshal into a list of strings
def asStrings : Json Literal → Option (List String)
  | .null => some []
  | .arr items => items.mapM fun
    | .str s => some s
    | .null => some ""
    | _ => none
  | _ => none

def isNil : Option (Json Literal) → Bool
  | none | some .null => true
  | _ => false

def resourceError (r : Resource) (text : String) : String := "resource " ++ r.logicalName ++ ": " ++ text

-- A bucket is versioned where the manifest does not say.
def versioned (p : GoMap (Json Literal)) (key : String) : GoMap (Json Literal) :=
  if isNil (p.get? key) then p.set key (.bool true) else p

def checkField (r : Resource) (p : GoMap (Json Literal)) (key : String) : Except String (GoMap (Json Literal)) :=
  if key = "versioning" then
    match (versioned p key).get? key with
    | some (.bool _) => .ok (versioned p key)
    | _ => .error (resourceError r "versioning must be boolean")
  else if key = "allocated_storage" then
    if storageSize ((p.get? key).getD .null) then .ok p
    else .error (resourceError r "allocated_storage must be an integer between 20 and 16384")
  else if key = "vpc_security_group_ids" then
    match asStrings ((p.get? key).getD .null) with
    | none | some [] => .error (resourceError r "vpc_security_group_ids is required")
    | some ids =>
      if ids.any fun id => TrimSpace id = "" then .error (resourceError r "empty security group ID")
      else .ok (p.set key (.arr (ids.map .str)))
  else
    match p.get? key with
    | some (.str value) =>
      if TrimSpace value = "" then .error (resourceError r (key ++ " is required"))
      else if key = "cidr_block" ∧ canonicalIPv4 value = false then
        .error (resourceError r "cidr_block must be a canonical IPv4 prefix")
      else if key = "engine" ∧ value ≠ "postgres" ∧ value ≠ "mysql" then
        .error (resourceError r "unsupported database engine")
      else .ok p
    | _ => .error (resourceError r (key ++ " is required"))

def checkSecurity (r : Resource) : Except String Unit :=
  match r.securitySettings with
  | none => .ok ()
  | some settings =>
    if TrimSpace settings.encryptionType ≠ "" then
      .error (resourceError r "encryption type overrides are unsupported in phase one")
    else if settings.publicAccess || (!HasPrefix r.type "network." && !settings.encryptionEnabled) then
      .error (resourceError r "phase-one templates require private encrypted resources")
    else .ok ()

def properties (r : Resource) (s : Spec) : Except String (GoMap (Json Literal)) :=
  match r.properties.first fun key _ => if key ∈ s.fields then none else some key with
  | some key => .error (resourceError r ("unsupported property " ++ key))
  | none => do
    let p ← s.fields.foldlM (checkField r) r.properties
    checkSecurity r
    return p

end Properties

section Templates

inductive Hole where
  | name
  | property (key : String)
  | tags
  | dependencies
  | choice (key : String) (yes no : String)
  deriving DecidableEq

def resourceLine (kind : String) : List (Piece Hole) := [.text ("resource \"" ++ kind ++ "\" \""), .hole .name, .text "\" \x7b"]

def fixed (line : String) : List (Piece Hole) := [.text line]

def valueLine (start : String) (key : String) : List (Piece Hole) := [.text start, .hole (.property key)]

def tagsLine : List (Piece Hole) := [.text "  tags = ", .hole .tags]

def dependsOnLine : List (Piece Hole) := [.text "  depends_on = [", .hole .dependencies, .text "]"]

def ec2 : Template Hole :=
  [resourceLine "aws_instance",
    valueLine "  ami = " "ami",
    valueLine "  instance_type = " "instance_type",
    valueLine "  subnet_id = " "subnet_id",
    fixed "  associate_public_ip_address = false",
    fixed "  metadata_options \x7b http_tokens = \"required\" \x7d",
    fixed "  root_block_device \x7b encrypted = true \x7d",
    tagsLine,
    dependsOnLine,
    fixed "\x7d"]

def bucketLine : List (Piece Hole) := [.text "  bucket = aws_s3_bucket.", .hole .name, .text ".id"]

def s3 : Template Hole :=
  [resourceLine "aws_s3_bucket",
    valueLine "  bucket = " "bucket",
    tagsLine,
    dependsOnLine,
    fixed "\x7d",
    resourceLine "aws_s3_bucket_public_access_block",
    bucketLine,
    fixed "  block_public_acls = true",
    fixed "  block_public_policy = true",
    fixed "  ignore_public_acls = true",
    fixed "  restrict_public_buckets = true",
    fixed "\x7d",
    resourceLine "aws_s3_bucket_server_side_encryption_configuration",
    bucketLine,
    fixed "  rule \x7b",
    fixed "    apply_server_side_encryption_by_default \x7b sse_algorithm = \"AES256\" \x7d",
    fixed "  \x7d",
    fixed "\x7d",
    resourceLine "aws_s3_bucket_versioning",
    bucketLine,
    [.text "  versioning_configuration \x7b status = \"", .hole (.choice "versioning" "Enabled" "Suspended"), .text "\" \x7d"],
    fixed "\x7d"]

def rds : Template Hole :=
  [resourceLine "aws_db_instance",
    valueLine "  identifier = " "identifier",
    valueLine "  engine = " "engine",
    valueLine "  engine_version = " "engine_version",
    valueLine "  instance_class = " "instance_class",
    valueLine "  allocated_storage = " "allocated_storage",
    valueLine "  username = " "master_username",
    fixed "  manage_master_user_password = true",
    fixed "  storage_encrypted = true",
    fixed "  publicly_accessible = false",
    fixed "  deletion_protection = true",
    fixed "  backup_retention_period = 7",
    fixed "  skip_final_snapshot = false",
    valueLine "  final_snapshot_identifier = " "identifier" ++
      fixed " # override through a reviewed manifest when destroying",
    valueLine "  db_subnet_group_name = " "db_subnet_group_name",
    valueLine "  vpc_security_group_ids = " "vpc_security_group_ids",
    tagsLine,
    dependsOnLine,
    fixed "\x7d"]

def vpc : Template Hole :=
  [resourceLine "aws_vpc",
    valueLine "  cidr_block = " "cidr_block",
    fixed "  enable_dns_support = true",
    fixed "  enable_dns_hostnames = true",
    tagsLine,
    dependsOnLine,
    fixed "\x7d"]

def subnet : Template Hole :=
  [resourceLine "aws_subnet",
    valueLine "  vpc_id = " "vpc_id",
    valueLine "  cidr_block = " "cidr_block",
    valueLine "  availability_zone = " "availability_zone",
    fixed "  map_public_ip_on_launch = false",
    tagsLine,
    dependsOnLine,
    fixed "\x7d"]

def securityGroup : Template Hole :=
  [resourceLine "aws_security_group",
    valueLine "  vpc_id = " "vpc_id",
    valueLine "  description = " "description",
    fixed "  ingress = []",
    fixed "  egress = []",
    tagsLine,
    dependsOnLine,
    fixed "\x7d"]

def assets : List (String × Template Hole) :=
  [("compute/aws/ec2.hcl", ec2), ("storage/aws/s3.hcl", s3), ("database/aws/rds.hcl", rds),
    ("networking/aws/vpc.hcl", vpc), ("networking/aws/subnet.hcl", subnet),
    ("networking/aws/security_group.hcl", securityGroup)]

end Templates

section Render

inductive Argument where
  | value (v : Json Literal)
  | expression (text : String)

def hclOf : Argument → String
  | .value v => hcl v
  | .expression text => text

def isTrue : Argument → Bool
  | .value .null => false
  | .value (.bool b) => b
  | .value (.num n) => !n.digits.all isZero
  | .value (.str s) => s != ""
  | .value (.arr items) => !items.isEmpty
  | .value (.obj fields) => !fields.isEmpty
  | .expression text => text != ""

structure Data where
  name : String
  P : List (String × Argument)
  tags : GoMap String
  dependencies : String

def tagsJson (tags : GoMap String) : Json Literal := .obj (tags.entries.map (Prod.map id .str))

def fill (d : Data) : Hole → Option String
  | .name => some d.name
  | .property key => (d.P.lookup key).map hclOf
  | .tags => some (hcl (tagsJson d.tags))
  | .dependencies => some d.dependencies
  | .choice key yes no => (d.P.lookup key).map fun a => if isTrue a then yes else no

def isBool : Json Literal → Bool
  | .bool _ => true
  | _ => false

-- Branch choices remain fixed to the manifest; other values are inputs of the module.
def argument (parameterized : Bool) (r : Resource) (key : String) (v : Json Literal) : Argument :=
  if parameterized && !isBool v then .expression ("var.r_" ++ r.logicalName ++ "[" ++ hcl (.str key) ++ "]") else .value v

def mergedTags (m : Manifest) (r : Resource) : GoMap String :=
  r.tags.entries.foldl (fun tags e => tags.set e.1 e.2) (m.tags.entries.foldl (fun tags e => tags.set e.1 e.2) .empty)

def byName (resources : List Resource) : List Resource := sortStable (fun r => r.logicalName) resources

def dependencies (resources : List Resource) (r : Resource) : List String :=
  sortStable id (r.dependsOn.flatMap fun name =>
    (resources.filter fun dep => dep.logicalName == name).map fun dep => (specOf dep.type).terraformType ++ ".r_" ++ name)

def renderResource (m : Manifest) (resources : List Resource) (parameterized : Bool) (r : Resource) :
    Except String TerraformFile := do
  let s := specOf r.type
  let p ← properties r s
  let data : Data :=
    ⟨"r_" ++ r.logicalName, p.entries.map fun e => (e.1, argument parameterized r e.1 e.2), mergedTags m r,
      ", ".intercalate (dependencies resources r)⟩
  match assets.lookup s.path with
  | none => .error "template unavailable"
  | some template =>
    match execute (fill data) template with
    | none => .error "template rendering failed"
    | some content => .ok ⟨"resource_" ++ r.logicalName ++ ".tf", content⟩

section Manifests

variable [GoUnicode]

-- The loop over the resources, which ends at a name with space around it.
def survey (provider : String) : List Resource → List Unsupported × Option String
  | [] => ([], none)
  | r :: rs =>
    if r.logicalName ≠ TrimSpace r.logicalName then
      ([], some "resource logical_name must not contain surrounding whitespace")
    else
      let (unsupported, err) := survey provider rs
      if (catalog.lookup (TrimSpace r.type)).isNone ∨ provider ≠ "aws" then
        (⟨r.logicalName, TrimSpace r.type, "unsupported"⟩ :: unsupported, err)
      else (unsupported, err)

def providersFile (m : Manifest) : TerraformFile :=
  ⟨"providers.tf", "terraform \x7b\n  required_providers \x7b\n" ++
    "    aws = \x7b source = \"hashicorp/aws\", version = \"~> 5.0\" \x7d\n  \x7d\n\x7d\nprovider \"aws\" \x7b\n  region = " ++
    hcl (.str (TrimSpace m.region)) ++ "\n\x7d\n"⟩

-- A resource, its type as the catalog has it.
def trim (r : Resource) : Resource := { r with type := TrimSpace r.type }

def trimmed (resources : List Resource) : List Resource := resources.map trim

def render [GoRuntime] (m : Option Manifest) (parameterized : Bool) : Result × Option String :=
  match m with
  | none => (⟨[], []⟩, some "manifest schema validation failed")
  | some m =>
    if (Validator.Validate (some m.validated)).valid = false then (⟨[], []⟩, some "manifest schema validation failed")
    else if 0 < m.unknowns.length then (⟨[], []⟩, some "resolve manifest unknowns before rendering")
    else
      let (unsupported, err) := survey (ToLower (TrimSpace m.provider)) m.resources
      if err.isSome then (⟨[], unsupported⟩, err)
      else if 0 < unsupported.length then (⟨[], unsupported⟩, none)
      else
        let resources := byName (trimmed m.resources)
        match resources.mapM (renderResource m resources parameterized) with
        | .error err => (⟨[], unsupported⟩, some err)
        | .ok files => (⟨providersFile m :: files, unsupported⟩, none)

def Render [GoRuntime] (m : Option Manifest) : Result × Option String := render m false

end Manifests

end Render

end Provisr.Backend.Terraform
