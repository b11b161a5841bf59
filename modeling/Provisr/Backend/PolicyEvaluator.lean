import Provisr.Backend.PolicyProjection
import Provisr.Backend.Strings
import Provisr.Foundation.Float64
import Provisr.Foundation.JsonEquality
import Provisr.Foundation.JsonReader

namespace Provisr.Backend.Policy

open Provisr.Foundation

structure EvaluationRequest where
  input : JsFields
  parameters : JsFields

structure Violation where
  ruleKey : String
  severity : String
  description : String
  evidence : String
  remediationHint : String
  deriving DecidableEq

inductive Decision where
  | allow
  | warn
  | deny
  | requiresApproval
  deriving DecidableEq

structure EvaluationResponse where
  decision : Decision
  violations : List Violation
  policiesEvaluated : Nat

def denySeverity (severity : String) : Bool := severity == "deny" || severity == "critical" || severity == "high"

def approvalSeverity (severity : String) : Bool := severity == "approval"

def warnSeverity (severity : String) : Bool := severity == "warn" || severity == "medium" || severity == "low"

def AggregateDecision (violations : List Violation) (requiresApproval : Bool) : Decision :=
  if violations.any fun v => denySeverity v.severity then .deny
  else if requiresApproval then .requiresApproval
  else if violations.any fun v => approvalSeverity v.severity then .requiresApproval
  else if violations.any fun v => warnSeverity v.severity then .warn
  else .allow

structure NormalizedResource where
  id : String
  type : String
  region : String
  properties : JsFields
  tags : List (String × String)

section Extraction

-- s, _ := fields[key].(string)
def stringAt (fields : JsFields) (key : String) : String := match fields.lookup key with
  | some (.str s) => s
  | _ => ""

def mapAt (fields : JsFields) (key : String) : Option JsFields := match fields.lookup key with
  | some (.obj m) => some m
  | _ => none

def listAt (fields : JsFields) (key : String) : List JsJson := match fields.lookup key with
  | some (.arr items) => items
  | _ => []

def numberAt (fields : JsFields) (key : String) : Option JsNumber := match fields.lookup key with
  | some (.num n) => some n
  | _ => none

def extractTagsMap : Option JsJson → List (String × String)
  | some (.obj m) => m.filterMap fun (k, v) => match v with
    | .str s => some (k, s)
    | _ => none
  | _ => []

def entries (items : List JsJson) : List (JsFields × Nat) := items.zipIdx.filterMap fun (raw, i) => match raw with
  | .obj rMap => some (rMap, i)
  | _ => none

def planResource (rMap : JsFields) (i : Nat) : NormalizedResource :=
  let rName := stringAt rMap "name"
  let after := (mapAt rMap "change").bind fun change => mapAt change "after"
  { id := if rName = "" then "res_" ++ toString i else rName
    type := stringAt rMap "type"
    region := ""
    properties := after.getD []
    tags := (after.map fun after => extractTagsMap (after.lookup "tags")).getD [] }

def manifestResource (rMap : JsFields) (i : Nat) : NormalizedResource :=
  let name := if stringAt rMap "id" = "" then stringAt rMap "name" else stringAt rMap "id"
  let props := (mapAt rMap "properties" <|> mapAt rMap "configuration" <|> mapAt rMap "planned_values").getD []
  let tags := extractTagsMap (rMap.lookup "tags")
  { id := if name = "" then "manifest_res_" ++ toString i else name
    type := stringAt rMap "type"
    region := stringAt rMap "region"
    properties := props
    tags := if tags = [] then extractTagsMap (props.lookup "tags") else tags }

def rootResource (input : JsFields) : List NormalizedResource :=
  if stringAt input "resource_type" = "" then []
  else
    let props := (mapAt input "planned_values").getD []
    [{ id := "root_resource"
       type := stringAt input "resource_type"
       region := ""
       properties := props
       tags := extractTagsMap (props.lookup "tags") }]

def extractResources (input : JsFields) : List NormalizedResource :=
  (entries (listAt input "resource_changes")).map (fun (rMap, i) => planResource rMap i) ++
    (entries (listAt input "resources")).map (fun (rMap, i) => manifestResource rMap i) ++ rootResource input

def extractCost (input : JsFields) : JsNumber :=
  (numberAt input "estimated_monthly_cost_usd" <|>
    (mapAt input "cost").bind fun costMap => numberAt costMap "estimated_monthly_cost_usd").getD 0

def extractRegion (input : JsFields) : String :=
  if stringAt input "region" ≠ "" then stringAt input "region"
  else ((mapAt input "metadata").map fun metadata => stringAt metadata "region").getD ""

end Extraction

section Wildcards

variable {ν : Type}

def isWildcard (s : String) : Bool := s == "*" || s == "*:*"

def actionsContainWildcard : Option (Json ν) → Bool
  | some (.str s) => isWildcard s
  | some (.arr items) => items.any fun
    | .str s => isWildcard s
    | _ => false
  | _ => false

-- A statement is a Go map, so what it holds under a key.
def statementHasWildcard (stmt : String → Option (Json ν)) : Bool :=
  ["Action", "Actions", "action", "actions"].any fun key => actionsContainWildcard (stmt key)

def rawHasWildcardStatement : JsJson → Bool
  | .obj v => statementHasWildcard fun key => v.lookup key
  | .arr v => v.any fun
    | .obj stmt => statementHasWildcard fun key => stmt.lookup key
    | _ => false
  | _ => false

-- The magnitude of the float64 nearest to a number, in multiples of the smallest one.
def float64Of (l : Literal) : Nat :=
  let mantissa := l.mantissa * Float64.scale
  if 0 ≤ l.scale then Float64.round (mantissa * 10 ^ l.scale.toNat) 1
  else Float64.round mantissa (10 ^ (-l.scale).toNat)

def inRange (l : Literal) : Bool := decide (float64Of l < 2 ^ 1024 * Float64.scale)

mutual

def decodes : Json Literal → Bool
  | .num l => inRange l
  | .arr items => decodesItems items
  | .obj fields => decodesFields fields
  | _ => true

def decodesItems : List (Json Literal) → Bool
  | [] => true
  | x :: xs => decodes x && decodesItems xs

def decodesFields : List (String × Json Literal) → Bool
  | [] => true
  | (_, v) :: fs => decodes v && decodesFields fs

end

mutual

def nesting : Json Literal → Nat
  | .arr items => nestingItems items + 1
  | .obj fields => nestingFields fields + 1
  | _ => 0

def nestingItems : List (Json Literal) → Nat
  | [] => 0
  | x :: xs => max (nesting x) (nestingItems xs)

def nestingFields : List (String × Json Literal) → Nat
  | [] => 0
  | (_, v) :: fs => max (nesting v) (nestingFields fs)

end

def maxNestingDepth : Nat := 10000

-- json.Unmarshal finds the field of a struct by its name, in small or capital letters.
def isStatement (key : String) : Bool :=
  key.toList.map (fun c => if c = 'ſ' then 's' else c.toLower) == "statement".toList

-- The text of the last of them is kept.
def rawStatement : Json Literal → Option (Json Literal)
  | .obj doc => (doc.reverse.find? fun f => isStatement f.1).map Prod.snd
  | _ => none

-- var list []map[string]any
def decodeItem : Json Literal → Option (List (String × Json Literal))
  | .null => some []
  | .obj stmt => if decodesFields stmt then some stmt else none
  | _ => none

def decodeList : Json Literal → Option (List (List (String × Json Literal)))
  | .null => some []
  | .arr items => items.mapM decodeItem
  | _ => none

def policyStringHasWildcard (policyStr : String) : Bool :=
  match JsonReader.read (some (Char.ofNat 0xFFFD)) policyStr with
  | none => false
  | some doc =>
    if maxNestingDepth < nesting doc then false
    else match rawStatement doc with
      | none => false
      | some statement => match decodeList statement with
        | some list => list.any fun stmt => statementHasWildcard (Json.member stmt)
        | none => (decodeItem statement).any fun single => statementHasWildcard (Json.member single)

end Wildcards

section Checks

variable [GoUnicode]

def publicACL (id acl : String) : Violation where
  ruleKey := "security.no_public_s3"
  severity := "deny"
  description := "Deny S3 buckets with public ACLs"
  evidence := "S3 bucket " ++ Quote id ++ " has public ACL " ++ Quote acl
  remediationHint := "Set the S3 bucket ACL to private or use bucket policies for controlled access."

def publicAccess (id : String) : Violation where
  ruleKey := "security.no_public_s3"
  severity := "deny"
  description := "Deny S3 buckets without public access block"
  evidence := "S3 bucket " ++ Quote id ++ " has public_access_block_enabled set to false"
  remediationHint := "Enable Block Public Access on the S3 bucket."

def unencrypted (id type : String) : Violation where
  ruleKey := "security.require_encryption"
  severity := "deny"
  description := "Require encryption on storage resources"
  evidence := "Resource " ++ Quote id ++ " (" ++ type ++ ") has encryption disabled"
  remediationHint := "Enable encryption at rest for all storage resources (EBS, S3, RDS)."

def wildcardAction (id : String) : Violation where
  ruleKey := "security.iam_no_wildcards"
  severity := "deny"
  description := "Deny IAM policies with wildcard actions"
  evidence := "IAM policy " ++ Quote id ++ " contains wildcard (*) action"
  remediationHint := "Replace wildcard (*) actions with specific, least-privilege permissions."

def overBudget (severity : String) (cost maxBudget : Nat) : Violation where
  ruleKey := "cost.max_monthly_budget"
  severity := severity
  description := "Warn when estimated monthly cost exceeds budget"
  evidence := "Estimated monthly cost $" ++ Float64.fixed2 cost ++ " exceeds budget $" ++ Float64.fixed2 maxBudget
  remediationHint := "Review resource sizing or request a budget increase."

-- A region of the input as a whole has no resource to name.
def outsideRegions (id : Option String) (region : String) (allowedRegions : List String) : Violation where
  ruleKey := "compliance.allowed_regions"
  severity := "deny"
  description := "Restrict resources to allowed regions"
  evidence := (match id with
    | some id => "Resource " ++ Quote id ++ " region "
    | none => "Global region ") ++ Quote region ++ " is not in the allowed list: " ++ ", ".intercalate allowedRegions
  remediationHint := "Deploy resources only in approved regions."

def missingTag (id tag : String) : Violation where
  ruleKey := "compliance.required_tags"
  severity := "warn"
  description := "Require specific tags on all resources"
  evidence := "Resource " ++ Quote id ++ " is missing required tag " ++ Quote tag
  remediationHint := "Add the required tags to the resource configuration."

def publicACLs : List String := ["public-read", "public-read-write", "public"]

def noPublicS3 (res : NormalizedResource) : List Violation :=
  let t := ToLower res.type
  if Contains t "s3_bucket" || Contains t "storage.bucket" || t == "s3" then
    let acl := stringAt res.properties "acl"
    (if ToLower acl ∈ publicACLs then [publicACL res.id acl] else []) ++
      (match res.properties.lookup "public_access_block_enabled" with
        | some (.bool false) => [publicAccess res.id]
        | _ => [])
  else []

def checkNoPublicS3 (resources : List NormalizedResource) : List Violation := resources.flatMap noPublicS3

def isStorage (t : String) : Bool :=
  ["ebs_volume", "s3_bucket", "db_instance", "rds", "disk", "database"].any fun part => Contains t part

def requireEncryption (res : NormalizedResource) : List Violation :=
  if isStorage (ToLower res.type) then
    match res.properties.lookup "encrypted" <|> res.properties.lookup "encryption" with
    | some (.bool false) => [unencrypted res.id res.type]
    | _ => []
  else []

def checkRequireEncryption (resources : List NormalizedResource) : List Violation := resources.flatMap requireEncryption

def isPolicy (t : String) : Bool := Contains t "iam_policy" || Contains t "iam_role" || Contains t "policy"

def hasWildcard (properties : JsFields) : Bool :=
  (["statement", "Statement"].any fun key => (properties.lookup key).any rawHasWildcardStatement) ||
    match properties.lookup "policy" with
    | some (.str policyStr) => policyStringHasWildcard policyStr
    | _ => false

def iamNoWildcards (res : NormalizedResource) : List Violation :=
  if isPolicy (ToLower res.type) && hasWildcard res.properties then [wildcardAction res.id] else []

def checkIAMNoWildcards (resources : List NormalizedResource) : List Violation := resources.flatMap iamNoWildcards

-- A budget is above zero, so that no negative cost exceeds it.
def checkBudget (cost maxBudget : JsNumber) : List Violation :=
  let c := Float64.magnitude cost
  let b := Float64.magnitude maxBudget
  if cost.negative = false ∧ b < c then [overBudget (if Float64.atLeast c 2 b then "approval" else "warn") c b]
  else []

def allows (allowedRegions : List String) (region : String) : Bool :=
  (allowedRegions.map ToLower).contains (ToLower region)

def regionViolation (allowedRegions : List String) (id : Option String) (region : String) : List Violation :=
  if region ≠ "" ∧ allows allowedRegions region = false then [outsideRegions id region allowedRegions] else []

def checkAllowedRegions (resources : List NormalizedResource) (topRegion : String) (allowedRegions : List String) :
    List Violation :=
  regionViolation allowedRegions none topRegion ++
    resources.flatMap fun res => regionViolation allowedRegions (some res.id) res.region

def missingTags (requiredTags : List String) (res : NormalizedResource) : List Violation :=
  let t := ToLower res.type
  if Contains t "iam_policy" || t == "" then []
  else (requiredTags.filter fun tag => (res.tags.lookup tag).isNone).map (missingTag res.id)

def checkRequiredTags (resources : List NormalizedResource) (requiredTags : List String) : List Violation :=
  resources.flatMap (missingTags requiredTags)

end Checks

section Evaluate

variable [GoUnicode]

def defaultAllowedRegions : List String := ["us-east-1", "us-east-2", "us-west-2", "eu-west-1"]

def defaultRequiredTags : List String := ["Environment", "Owner"]

def defaultMaxBudgetUSD : JsNumber := JsNumber.ofNat 1000

def maxBudget (parameters : JsFields) : JsNumber := match numberAt parameters "max_usd" with
  | some mb => if mb.negative = false ∧ 0 < Float64.magnitude mb then mb else defaultMaxBudgetUSD
  | none => defaultMaxBudgetUSD

def textsOr (fallback : List String) (parameters : JsFields) (key : String) : List String :=
  let parsed := (listAt parameters key).filterMap fun
    | .str s => some s
    | _ => none
  if parsed = [] then fallback else parsed

def allowedRegions (parameters : JsFields) : List String := textsOr defaultAllowedRegions parameters "regions"

def requiredTags (parameters : JsFields) : List String := textsOr defaultRequiredTags parameters "tags"

def violations (req : EvaluationRequest) : List Violation :=
  let resources := extractResources req.input
  checkNoPublicS3 resources ++ checkRequireEncryption resources ++ checkIAMNoWildcards resources ++
    checkBudget (extractCost req.input) (maxBudget req.parameters) ++
    checkAllowedRegions resources (extractRegion req.input) (allowedRegions req.parameters) ++
    checkRequiredTags resources (requiredTags req.parameters)

def Evaluate (req : EvaluationRequest) : EvaluationResponse :=
  ⟨AggregateDecision (violations req) false, violations req, 6⟩

end Evaluate

end Provisr.Backend.Policy
