import Provisr.Orchestrator.PlanningContracts

namespace Provisr.Orchestrator

open Provisr.Foundation Zod

abbrev JsSchema := Schema (Option JsJson)

namespace JsSchema

def text : JsSchema := map (fun s => some (.str s)) string

def textOf (test : String → Bool) (code : String) : JsSchema :=
  map (fun s => some (.str s)) (check test code string)

def nonemptyText : JsSchema := map (fun s => some (.str s)) nonempty

def numeric : JsSchema := map (fun n => some (.num n)) number

def numericOf (test : JsNumber → Bool) (code : String) : JsSchema :=
  map (fun n => some (.num n)) (check test code number)

def flag : JsSchema := map (fun b => some (.bool b)) boolean

def oneOf (values : List String) : JsSchema :=
  map (fun s => some (.str s)) (enum (values.map fun v => (v, v)))

def items (s : JsSchema) : JsSchema :=
  map (fun xs => some (.arr (xs.filterMap id))) (array s)

def opt (s : JsSchema) : JsSchema := map Option.join (optional s)

def dflt (d : JsJson) (s : JsSchema) : JsSchema := withDefault (some d) s

def recordOf (s : JsSchema) : JsSchema := fun j => do
  let fields ← record j
  let values ← elements s (fields.map Prod.snd)
  return some (.obj ((fields.map Prod.fst).zip (values.filterMap id)))

def shapeFields (given : JsFields) : List (String × JsSchema) → Checked JsFields
  | [] => .ok []
  | (k, s) :: rest =>
    (both (s (given.lookup k)) (shapeFields given rest)).map fun p =>
      match p.1 with
      | some v => (k, v) :: p.2
      | none => p.2

-- z.object(shape): keys outside the shape are dropped.
def shape (fields : List (String × JsSchema)) : JsSchema :=
  object fun given => (shapeFields given fields).map fun out => some (.obj out)

end JsSchema

open JsSchema

def architectureSummarySchema : JsSchema := shape
  [("title", opt text), ("provider", dflt (.str "unknown") (oneOf ["aws", "azure", "gcp", "unknown"])),
    ("region", text), ("environment", text), ("estimatedCostUsd", opt numeric),
    ("resources", items (shape [("id", text), ("name", text), ("type", text), ("tier", opt text),
      ("properties", opt (recordOf text))])),
    ("highlights", opt (items text))]

def clarificationQuestionSchema : JsSchema := shape
  [("id", text), ("question", text), ("description", opt text),
    ("inputType", oneOf ["single_select", "multi_select", "text", "confirmation"]),
    ("options", opt (items (shape [("label", text), ("value", text), ("description", opt text)]))),
    ("selected", opt fun j => union (text j) (items text j)),
    ("answered", opt flag)]

def resourceTableSchema : JsSchema := shape
  [("title", opt text), ("columns", opt (items text)),
    ("rows", items (shape [("id", nonemptyText), ("name", nonemptyText), ("type", nonemptyText),
      ("provider", nonemptyText), ("status", nonemptyText), ("monthlyCostUsd", opt numeric),
      ("region", opt text), ("dependsOn", dflt (.arr []) (items text)),
      ("warningCount", dflt (.num 0) (map (fun n => some (.num n)) (nonnegative integer))),
      ("spec", opt (map (fun fs => some (.obj fs)) record))]))]

def storageCardSchema : JsSchema := shape
  [("bucketName", text), ("storageClass", opt text), ("versioning", dflt (.bool false) flag),
    ("encryption", opt text), ("publicAccessBlocked", dflt (.bool true) flag),
    ("lifecycleRulesCount", opt numeric)]

-- The other entries of the registry, by component id: the schema of version 1.0.0 of that component.
class ComponentRegistry where
  schema : String → Option JsSchema

def ownSchemas : List (String × JsSchema) :=
  [("architecture_summary", architectureSummarySchema),
    ("clarification_question", clarificationQuestionSchema),
    ("resource_table", resourceTableSchema), ("storage_card", storageCardSchema)]

def componentSchema [ComponentRegistry] (id : String) : Option JsSchema :=
  match ownSchemas.lookup id with
  | some s => some s
  | none => ComponentRegistry.schema id

def componentSchemaVersion : String := "1.0.0"

def validateComponent [ComponentRegistry] (id : String) (payload : Option JsJson) (version : String) :
    Except ServiceError JsJson :=
  match componentSchema id with
  | none =>
    .error (.componentPayload "unknown"
      (if version = componentSchemaVersion then version else "unsupported")
      [⟨"$", "unknown_component_or_version"⟩])
  | some schema =>
    if version = componentSchemaVersion then
      match (schema payload).parsed with
      | .ok data => .ok (data.getD .null)
      | .error codes => .error (.componentPayload id version (codes.map fun code => ⟨"$", code⟩))
    else
      .error (.componentPayload id "unsupported" [⟨"$", "unknown_component_or_version"⟩])

def component [ComponentRegistry] (requestId type : String) (data : JsFields) :
    Except ServiceError JsJson := do
  let valid ← validateComponent type (some (.obj data)) componentSchemaVersion
  return .obj [("type", .str type), ("version", .str "1.0.0"), ("requestId", .str requestId),
    ("data", valid)]

def property (k : String) : Option JsJson → JsFields
  | some v => [(k, v)]
  | none => []

structure ManifestResource where
  name : String
  type : String
  fields : JsFields

def manifestResource : Schema ManifestResource := object fun fs => do
  let (name, logicalName, type) ←
    both (optional string (fs.lookup "name"))
      (both (optional string (fs.lookup "logical_name")) (string (fs.lookup "type")))
  return ⟨(name <|> logicalName).getD "resource", type, fs⟩

-- `a ?? b`
def nullishOr (a : Option JsJson) (b : JsJson) : JsJson :=
  match a with
  | none | some .null => b
  | some v => v

def indexName (version index : Nat) : JsJson := .str (toString version ++ ":" ++ toString index)

def resourceComponent [ComponentRegistry] (manifest : JsFields) (requestId : String) (version : Nat)
    (index : Nat) (r : ManifestResource) : Except ServiceError JsJson :=
  if r.type = "aws_ec2" then
    component requestId "compute_plan" ([("service", .str "Amazon EC2")] ++
      property "instanceType" (r.fields.lookup "instance_type") ++
      [("replicaCount", nullishOr (r.fields.lookup "count") (.num 1))] ++
      property "os" (r.fields.lookup "image"))
  else if r.type = "aws_rds" then
    component requestId "database_config" (property "engine" (r.fields.lookup "engine") ++
      property "instanceClass" (r.fields.lookup "instance_class") ++
      property "allocatedStorageGb" (r.fields.lookup "allocated_storage_gb"))
  else if r.type = "aws_s3" then
    component requestId "storage_card" [("bucketName", .str r.name),
      ("versioning", nullishOr (r.fields.lookup "versioning") (.bool true))]
  else
    component requestId "resource_table" [("rows", .arr [.obj ([("id", indexName version index),
      ("name", .str r.name), ("type", .str r.type)] ++
      property "provider" (manifest.lookup "provider") ++ [("status", .str "draft")])])]

def manifestComponents [ComponentRegistry] (manifest : JsFields) (requestId : String) (version : Nat) :
    Except ServiceError (List JsJson) := do
  let resources ← (array manifestResource (manifest.lookup "resources")).parsed.mapError ServiceError.zod
  let summary ← component requestId "architecture_summary"
    (property "provider" (manifest.lookup "provider") ++ property "region" (manifest.lookup "region") ++
      property "environment" (manifest.lookup "environment") ++
      [("resources", .arr (resources.mapIdx fun index r =>
        .obj [("id", indexName version index), ("name", .str r.name), ("type", .str r.type)]))])
  let cards ← (resources.mapIdx fun index r => (index, r)).mapM fun p =>
    resourceComponent manifest requestId version p.1 p.2
  return summary :: cards

section Envelope

inductive AgentEnvelope where
  | assistantMessage (message : String)
  | clarificationQuestion (question : ClarificationQuestion)
  | manifestDraft (message : String) (manifest : JsFields)
  | componentPayload (componentId componentVersion : String) (payload : JsFields)
  | toolSummary (toolName summary : String)
  | error (code message : String) (retryable : Bool)
  deriving DecidableEq

def envelopeText : Schema String := max 10000 (min 1 (trimmed string))

def agentEnvelopeData (type : String) : Schema AgentEnvelope :=
  if type = "assistant_message" then
    strict ["message"] fun fs => return .assistantMessage (← envelopeText (fs.lookup "message"))
  else if type = "clarification_question" then map .clarificationQuestion questionSchema
  else if type = "manifest_draft" then
    strict ["message", "manifest"] fun fs => do
      let (message, manifest) ← both (envelopeText (fs.lookup "message")) (record (fs.lookup "manifest"))
      return .manifestDraft message manifest
  else if type = "component_payload" then
    strict ["component_id", "component_version", "payload"] fun fs => do
      let (id, version, payload) ← both (string (fs.lookup "component_id"))
        (both (withDefault componentSchemaVersion
            (regex JsText.isComponentVersion (max 128 string)) (fs.lookup "component_version"))
          (record (fs.lookup "payload")))
      return .componentPayload id version payload
  else if type = "tool_summary" then
    strict ["tool_name", "summary"] fun fs => do
      let (name, summary) ← both (envelopeText (fs.lookup "tool_name")) (envelopeText (fs.lookup "summary"))
      return .toolSummary name summary
  else if type = "error" then
    strict ["code", "message", "retryable"] fun fs => do
      let (code, message, retryable) ← both (envelopeText (fs.lookup "code"))
        (both (envelopeText (fs.lookup "message")) (withDefault false boolean (fs.lookup "retryable")))
      return .error code message retryable
  else fun _ => .aborted ["invalid_union_discriminator"]

structure AgentResult where
  type : String
  data : Option JsJson
  version : String
  requestId : String
  deriving DecidableEq

def agentEnvelopeSchema (result : AgentResult) : Checked AgentEnvelope :=
  agentEnvelopeData result.type result.data

def metadataSchema : Schema Unit := strict ["confidence", "source", "warnings"] fun fs => do
  let _ ← both (check JsNumber.atMostOne "too_big" (nonnegative number)
      (fs.lookup "confidence"))
    (both (oneOf ["llm_generated", "template", "user_input"] (fs.lookup "source"))
      (withDefault [] (array string) (fs.lookup "warnings")))
  return ()

def agentResponseSchema : Schema AgentResult := strict ["result"] fun outer =>
  strict ["type", "data", "version", "request_id", "metadata"] (fun fs => do
    let (type, version, requestId, _) ← both (string (fs.lookup "type"))
      (both (regex JsText.isVersion string (fs.lookup "version"))
        (both (uuid (fs.lookup "request_id")) (metadataSchema (fs.lookup "metadata"))))
    return ⟨type, fs.lookup "data", version, requestId⟩) (outer.lookup "result")

end Envelope

end Provisr.Orchestrator
