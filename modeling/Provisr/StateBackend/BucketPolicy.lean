import Provisr.Backend.Strings
import Provisr.Foundation.JsonReader

namespace Provisr.StateBackend

open Provisr.Foundation Provisr.Backend

structure PolicyRequest where
  principal : String
  action : String
  resource : String
  context : String → Option String

-- The condition operators of the policy language other than Bool.
class ConditionOperators where
  holds : (operator key : String) → (values : List String) → PolicyRequest → Bool

namespace Policy

def lower (s : String) : String := String.ofList (s.toList.map Char.toLower)

-- A star stands for any text, a question mark for one character.
def like : List Char → List Char → Bool
  | [], cs => cs.isEmpty
  | p :: ps, cs =>
    if p = '*' then cs.tails.any (like ps)
    else match cs with
      | [] => false
      | c :: cs => (p == '?' || p == c) && like ps cs

def texts : Json Literal → List String
  | .str s => [s]
  | .bool b => [toString b]
  | .arr items => items.flatMap fun
    | .str s => [s]
    | .bool b => [toString b]
    | _ => []
  | _ => []

def named (principal : String) : Json Literal → Bool
  | .str s => s == "*"
  | .obj fields => (texts ((fields.lookup "AWS").getD .null)).any fun s => s == "*" || s == principal
  | _ => false

def condition [ConditionOperators] (request : PolicyRequest) (operator key : String) (values : List String) : Bool :=
  if operator = "Bool" then (request.context (lower key)).any values.contains
  else ConditionOperators.holds operator key values request

-- An element of a statement, or the one that names what it leaves out.
def element (fields : List (String × Json Literal)) (name negated : String) (holds : Json Literal → Bool) : Bool :=
  match fields.lookup name, fields.lookup negated with
  | some j, _ => holds j
  | none, some j => !holds j
  | none, none => false

variable [ConditionOperators]

def conditions (request : PolicyRequest) : Option (Json Literal) → Bool
  | none => true
  | some (.obj operators) => operators.all fun
    | (operator, .obj keys) => keys.all fun (key, values) => condition request operator key (texts values)
    | _ => false
  | some _ => false

def denies (request : PolicyRequest) : Json Literal → Bool
  | .obj fields =>
    (fields.lookup "Effect").any (· == .str "Deny") &&
      element fields "Principal" "NotPrincipal" (named request.principal) &&
      element fields "Action" "NotAction"
        (fun j => (texts j).any fun s => like (lower s).toList (lower request.action).toList) &&
      element fields "Resource" "NotResource" (fun j => (texts j).any fun s => like s.toList request.resource.toList) &&
      conditions request (fields.lookup "Condition")
  | _ => false

def statements : Json Literal → List (Json Literal)
  | .obj fields =>
    match fields.lookup "Statement" with
    | some (.arr items) => items
    | some j => [j]
    | none => []
  | _ => []

-- An explicit deny of the policy, whatever other policies allow.
def Denied (policy : String) (request : PolicyRequest) : Bool :=
  (JsonReader.read none policy).any fun j => (statements j).any (denies request)

end Policy

def bucketArn (partition bucket : String) : String := "arn:" ++ partition ++ ":s3:::" ++ bucket

def DeniesInsecureTransport [ConditionOperators] (arn policy : String) : Prop :=
  ∀ request : PolicyRequest, HasPrefix request.action "s3:" = true →
    (request.resource = arn ∨ HasPrefix request.resource (arn ++ "/") = true) →
    request.context "aws:securetransport" = some "false" → Policy.Denied policy request = true

end Provisr.StateBackend
