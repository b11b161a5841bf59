import Provisr.Foundation.Zod
import Provisr.Foundation.JsonNormal

namespace Provisr.Orchestrator

open Provisr.Foundation

structure ComponentPayloadIssue where
  path : String
  code : String
  deriving DecidableEq, Repr

-- What the code throws. `infrastructure` stands for a failed query, a lost connection, an aborted
-- or failed HTTP exchange.
inductive ServiceError where
  | badRequest (message : String)
  | conflict (message : String)
  | forbidden (message : String)
  | notFound (message : String)
  | notImplemented (message : String)
  | iacGeneration (code message : String)
  | planningDependency (message : String)
  | noConnectedProvider
  | policyServiceClient (message : String)
  | policyDeniesAllRegions
  | componentPayload (componentType componentVersion : String) (issues : List ComponentPayloadIssue)
  | zod (issues : List String)
  | plain (message : String)
  | infrastructure
  deriving DecidableEq, Repr

namespace ServiceError

def isConflict : ServiceError → Bool
  | .conflict _ => true
  | _ => false

end ServiceError

inductive Provider where
  | aws
  | azure
  | gcp
  deriving DecidableEq, Repr, Inhabited

def Provider.label : Provider → String
  | .aws => "aws"
  | .azure => "azure"
  | .gcp => "gcp"

def providers : List (String × Provider) := [("aws", .aws), ("azure", .azure), ("gcp", .gcp)]

inductive AccountStatus where
  | pending
  | active
  | failed
  | disconnected
  deriving DecidableEq, Repr, Inhabited

def accountStatuses : List (String × AccountStatus) :=
  [("pending", .pending), ("active", .active), ("failed", .failed), ("disconnected", .disconnected)]

def AccountStatus.label : AccountStatus → String
  | .pending => "pending"
  | .active => "active"
  | .failed => "failed"
  | .disconnected => "disconnected"

structure ActiveAccount where
  id : String
  workspaceId : String
  provider : Provider
  label : String
  status : AccountStatus
  verifiedAt : Nullish String
  supportedRegions : List String
  resourceCounts : Option JsFields
  quotaLimits : Option JsFields
  deriving DecidableEq

structure CloudContext where
  connectedProviders : List Provider
  activeAccounts : List ActiveAccount
  deriving DecidableEq

section Schemas

open Zod

def nonempty : Schema String := min 1 string

def strings : Schema (List String) := array nonempty

def activeAccountSchema : Schema ActiveAccount := object fun fs => do
  let ((id, workspaceId, provider), (label, status, verifiedAt), regions, counts, limits) ←
    both (both (uuid (fs.lookup "id")) (both (uuid (fs.lookup "workspace_id"))
        (enum providers (fs.lookup "provider"))))
      (both (both (string (fs.lookup "label")) (both (enum accountStatuses (fs.lookup "status"))
          (nullish (regex JsText.isDatetime string) (fs.lookup "verified_at"))))
        (both (arrayOf 1 none nonempty (fs.lookup "supported_regions"))
          (both (nullable (recordWith (nonnegative integer)) (fs.lookup "resource_counts"))
            (nullable (recordWith (nonnegative number)) (fs.lookup "quota_limits")))))
  return ⟨id, workspaceId, provider, label, status, verifiedAt, regions, counts, limits⟩

def cloudContextSchema : Schema CloudContext := object fun fs => do
  let (connected, accounts) ←
    both (arrayOf 1 none (enum providers) (fs.lookup "connected_providers"))
      (arrayOf 1 none activeAccountSchema (fs.lookup "active_accounts"))
  return ⟨connected, accounts⟩

end Schemas

def ActiveAccount.toJson (a : ActiveAccount) : JsJson :=
  .obj ([("id", .str a.id), ("workspace_id", .str a.workspaceId), ("provider", .str a.provider.label),
      ("label", .str a.label), ("status", .str a.status.label)] ++
    a.verifiedAt.field "verified_at" .str ++
    [("supported_regions", .arr (a.supportedRegions.map .str)),
      ("resource_counts", (a.resourceCounts.map Json.obj).getD .null),
      ("quota_limits", (a.quotaLimits.map Json.obj).getD .null)])

def CloudContext.toJson (c : CloudContext) : JsJson :=
  .obj [("connected_providers", .arr (c.connectedProviders.map fun p => .str p.label)),
    ("active_accounts", .arr (c.activeAccounts.map ActiveAccount.toJson))]

inductive AnswerType where
  | string
  | number
  | boolean
  | strings
  deriving DecidableEq, Repr, Inhabited

def AnswerType.label : AnswerType → String
  | .string => "string"
  | .number => "number"
  | .boolean => "boolean"
  | .strings => "strings"

def answerTypes : List (String × AnswerType) :=
  [("string", .string), ("number", .number), ("boolean", .boolean), ("strings", .strings)]

structure AnswerField where
  name : String
  type : AnswerType
  options : Nullish (List String)
  deriving DecidableEq, Repr

inductive InputType where
  | text
  | select
  | multiSelect
  | boolean
  | confirmation
  deriving DecidableEq, Repr, Inhabited

def InputType.label : InputType → String
  | .text => "text"
  | .select => "select"
  | .multiSelect => "multi_select"
  | .boolean => "boolean"
  | .confirmation => "confirmation"

def inputTypes : List (String × InputType) :=
  [("text", .text), ("select", .select), ("multi_select", .multiSelect), ("boolean", .boolean),
    ("confirmation", .confirmation)]

structure ClarificationQuestion where
  question : String
  fields : List AnswerField
  questionId : Nullish String
  inputType : Nullish InputType
  options : Nullish (List String)
  required : Nullish Bool
  fieldMapping : Nullish String
  deriving DecidableEq, Repr

section Schemas

open Zod

def answerFieldSchema : Schema AnswerField :=
  check (fun f => f.options.toOption.isNone || f.type == .string || f.type == .strings) "custom"
    (strict ["name", "type", "options"] fun fs => do
      let (name, type, options) ←
        both (max 64 (regex (fun s => JsText.isFieldName s.toList) string) (fs.lookup "name"))
          (both (enum answerTypes (fs.lookup "type"))
            (nullish (arrayOf 1 none nonempty) (fs.lookup "options")))
      return ⟨name, type, options⟩)

def defaultFields : List AnswerField := [⟨"answer", .string, .undefined⟩]

def questionSchema : Schema ClarificationQuestion :=
  check (fun q => decide (q.fields.map AnswerField.name).Nodup) "custom"
    (strict ["question", "fields", "question_id", "input_type", "options", "required", "field_mapping"]
      fun fs => do
        let ((question, fields, questionId), (inputType, options), required, fieldMapping) ←
          both (both (max 10000 (min 1 (trimmed string)) (fs.lookup "question"))
              (both (withDefault defaultFields (arrayOf 1 (some 20) answerFieldSchema)
                  (fs.lookup "fields"))
                (nullish (max 64 (min 1 string)) (fs.lookup "question_id"))))
            (both (both (nullish (enum inputTypes) (fs.lookup "input_type"))
                (nullish (arrayOf 0 (some 50) nonempty) (fs.lookup "options")))
              (both (nullish boolean (fs.lookup "required"))
                (nullish (max 128 (min 1 string)) (fs.lookup "field_mapping"))))
        return ⟨question, fields, questionId, inputType, options, required, fieldMapping⟩)

end Schemas

def AnswerField.toJson (f : AnswerField) : JsJson :=
  .obj ([("name", .str f.name), ("type", .str f.type.label)] ++
    f.options.field "options" fun os => .arr (os.map .str))

def ClarificationQuestion.toJson (q : ClarificationQuestion) : JsJson :=
  .obj ([("question", .str q.question), ("fields", .arr (q.fields.map AnswerField.toJson))] ++
    q.questionId.field "question_id" .str ++
    q.inputType.field "input_type" (fun t => .str t.label) ++
    q.options.field "options" (fun os => .arr (os.map .str)) ++
    q.required.field "required" .bool ++
    q.fieldMapping.field "field_mapping" .str)

section Answers

open Zod

def allowedText (options : Nullish (List String)) (s : String) : Bool :=
  match options.toOption with
  | some os => os.contains s
  | none => true

def answerSchema (f : AnswerField) : Schema JsJson :=
  match f.type with
  | .number => map .num number
  | .boolean => map .bool boolean
  | .strings =>
    map (fun ss => .arr (ss.map .str))
      (check (fun ss => ss.all (allowedText f.options)) "custom"
        (arrayOf 1 (some 50) (max 2000 (min 1 (trimmed string)))))
  | .string =>
    map .str (check (allowedText f.options) "custom" (max 10000 (min 1 (trimmed string))))

def answerShape (given : JsFields) : List AnswerField → Checked JsFields
  | [] => .ok []
  | f :: fs =>
    (both (answerSchema f (given.lookup f.name)) (answerShape given fs)).map
      fun p => (f.name, p.1) :: p.2

def answersSchema (question : ClarificationQuestion) : Schema JsFields :=
  strict (question.fields.map AnswerField.name) fun given => answerShape given question.fields

def validateAnswers (question : ClarificationQuestion) (answers : Option JsJson) : Except (List String) JsFields :=
  (answersSchema question answers).parsed

theorem answerShape_keys {given out : JsFields} {fs : List AnswerField}
    (h : answerShape given fs = .ok out) : out.map Prod.fst = fs.map AnswerField.name := by
  induction fs generalizing out with
  | nil =>
    cases h
    rfl
  | cons f fs ih =>
    unfold answerShape at h
    obtain ⟨p, both, rfl⟩ := checkedMap_ok_iff.mp h
    rw [List.map_cons, List.map_cons, ih (both_ok both).2]

theorem validateAnswers_keys {q : ClarificationQuestion} {answers : Option JsJson} {out : JsFields}
    (h : validateAnswers q answers = .ok out) : out.map Prod.fst = q.fields.map AnswerField.name := by
  obtain ⟨given, _, _, h⟩ := strict_ok (parsed_ok_iff.mp h)
  exact answerShape_keys h

end Answers

end Provisr.Orchestrator
