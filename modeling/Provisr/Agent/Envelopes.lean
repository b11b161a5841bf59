import Provisr.Contracts.Manifest

namespace Provisr.Agent

open Provisr.Foundation Provisr.Contracts Regex

section Patterns

def numeric : Regex := oneOf [lit "0", cat [chars (ranges [('1', '9')] ""), star digit]]

-- 0|[1-9][0-9]*|[a-zA-Z-][0-9a-zA-Z-]*
def preRelease : Regex := oneOf [numeric, cat [chars (ranges letter "-"), star (chars (ranges alnum "-"))]]

def build : Regex := plus (chars (ranges alnum "-"))

def semver : Regex :=
  cat [numeric, lit ".", numeric, lit ".", numeric, opt (cat [lit "-", preRelease, star (cat [lit ".", preRelease])]),
    opt (cat [lit "+", build, star (cat [lit ".", build])])]

def isSemver (s : String) : Bool := semver.accepts s

theorem isSemver_first : isSemver "1.0.0" = true := by decide +kernel

-- ^[a-z][a-z0-9_.-]*$
def isIdentifier (s : String) : Bool :=
  lengthIn 1 128 s && (cat [chars (ranges lower ""), star (chars (ranges lowerDigit "_.-"))]).accepts s

-- ^[a-z][a-z0-9_]*$
def isAnswerName (s : String) : Bool :=
  lengthIn 1 64 s && (cat [chars (ranges lower ""), star (chars (ranges lowerDigit "_"))]).accepts s

end Patterns

section Enumerations

inductive OutputSource where
  | llmGenerated
  | template
  | userInput
  deriving DecidableEq, Repr

def OutputSource.label : OutputSource → String
  | .llmGenerated => "llm_generated"
  | .template => "template"
  | .userInput => "user_input"

def outputSources : List (String × OutputSource) :=
  [("llm_generated", .llmGenerated), ("template", .template), ("user_input", .userInput)]

inductive AnswerType where
  | string
  | number
  | boolean
  | strings
  deriving DecidableEq, Repr

def AnswerType.label : AnswerType → String
  | .string => "string"
  | .number => "number"
  | .boolean => "boolean"
  | .strings => "strings"

def answerTypes : List (String × AnswerType) :=
  [("string", .string), ("number", .number), ("boolean", .boolean), ("strings", .strings)]

inductive InputType where
  | text
  | select
  | multiSelect
  | boolean
  | confirmation
  deriving DecidableEq, Repr

def InputType.label : InputType → String
  | .text => "text"
  | .select => "select"
  | .multiSelect => "multi_select"
  | .boolean => "boolean"
  | .confirmation => "confirmation"

def inputTypes : List (String × InputType) :=
  [("text", .text), ("select", .select), ("multi_select", .multiSelect), ("boolean", .boolean),
    ("confirmation", .confirmation)]

end Enumerations

def isConfidence (x : PyFloat) : Bool := !(x.lt PyFloat.zero) && !(PyFloat.one.lt x)

def noBlanks (values : List String) : Bool := values.all nonblank

theorem noBlanks_nil : noBlanks [] = true := rfl

structure OutputMetadata where
  confidence : Such isConfidence
  source : OutputSource
  warnings : Such noBlanks

structure ManifestDraftData [PyUnicode] where
  message : Such (lengthIn 1 10000)
  manifest : ResourceManifest

structure AnswerFieldContent where
  name : Such isAnswerName
  type : AnswerType
  options : Option (List String)

def AnswerFieldContent.optionsType (f : AnswerFieldContent) : Bool :=
  f.options.isNone || f.type == .string || f.type == .strings

abbrev ClarificationAnswerField := Such AnswerFieldContent.optionsType

structure ClarificationQuestionData where
  question : Such (lengthIn 1 10000)
  answerFields : Such (sized (α := ClarificationAnswerField) 1 20)
  questionId : Option (Such (lengthIn 0 64))
  inputType : Option InputType
  options : List String
  required : Bool
  fieldMapping : Option (Such (lengthIn 0 128))

structure ToolSummaryData where
  toolName : Such isIdentifier
  summary : Such (lengthIn 1 10000)

structure ErrorData where
  code : Such isIdentifier
  message : Such (lengthIn 1 10000)
  retryable : Bool

-- `payload` as `_freeze_payload` leaves it.
structure ComponentPayloadData where
  componentId : Such isIdentifier
  componentVersion : Such isSemver
  payload : PyValue

inductive OutputData [PyUnicode] where
  | assistantMessage (message : Such (lengthIn 1 10000))
  | componentPayload (data : ComponentPayloadData)
  | manifestDraft (data : ManifestDraftData)
  | clarificationQuestion (data : ClarificationQuestionData)
  | toolSummary (data : ToolSummaryData)
  | error (data : ErrorData)

structure EnvelopeHeader where
  version : Such isSemver
  requestId : String
  metadata : OutputMetadata

structure AgentOutputEnvelope [PyUnicode] where
  header : EnvelopeHeader
  data : OutputData

section Freeze

mutual

def freeze : PyValue → PyValue
  | .dict fields => .mapping (freezeFields fields)
  | .list items => .tuple (freezeItems items)
  | v => v

def freezeItems : List PyValue → List PyValue
  | [] => []
  | v :: vs => freeze v :: freezeItems vs

def freezeFields : List (String × PyValue) → List (String × PyValue)
  | [] => []
  | (k, v) :: fs => (k, freeze v) :: freezeFields fs

end

end Freeze

variable [Pydantic] [PyUnicode]

section Codecs

def OutputMetadata.codec : Codec OutputMetadata :=
  (Codec.model (((Fields.field "confidence" (Codec.float.refine isConfidence)).and
    (Fields.field "source" (Codec.literal outputSources OutputSource.label (by decide)))).and
    (Fields.optional "warnings" ((Codec.list Codec.str).refine noBlanks) ⟨[], noBlanks_nil⟩
      (Codec.refine_self (Codec.list_self nofun) noBlanks_nil)))).iso
    (fun ((confidence, source), warnings) => ⟨confidence, source, warnings⟩)
    (fun m => ((m.confidence, m.source), m.warnings)) fun _ => rfl

def AssistantMessageData.codec : Codec (Such (lengthIn 1 10000)) :=
  Codec.model (Fields.field "message" (laxText _))

def ClarificationAnswerField.fields : Fields ClarificationAnswerField :=
  ((((Fields.field "name" (laxText isAnswerName)).and
    (Fields.field "type" (Codec.literal answerTypes AnswerType.label (by decide)))).and
    (Fields.optional "options" ((Codec.list Codec.str).optional nofun) none rfl)).iso
    (fun ((name, type), options) => (⟨name, type, options⟩ : AnswerFieldContent))
    (fun f => ((f.name, f.type), f.options)) fun _ => rfl).refine AnswerFieldContent.optionsType

def answerField : ClarificationAnswerField := ⟨⟨⟨"answer", by decide⟩, .string, none⟩, rfl⟩

omit [PyUnicode] in
theorem answerField_passes : (Codec.model ClarificationAnswerField.fields).validate
    ((Codec.model ClarificationAnswerField.fields).dump answerField) = some answerField :=
  Fields.model_accepts (Fields.refine_accepts (Fields.iso_accepts rfl (Fields.and_accepts
    (Fields.and_accepts (Fields.field_accepts (Codec.refine_self (Pydantic.str_self _) answerField.val.name.property))
      (Fields.field_accepts (Codec.literal_self rfl)))
    (Fields.optional_accepts rfl))))

def ClarificationQuestionData.fields : Fields ClarificationQuestionData :=
  (((((((Fields.field "question" (laxText _)).and
    (Fields.optional "fields" ((Codec.list (Codec.model ClarificationAnswerField.fields)).refine (sized 1 20))
      ⟨[answerField], rfl⟩ (Codec.refine_self (Codec.list_self (by simpa using answerField_passes)) rfl))).and
    (Fields.optional "question_id" ((laxText _).optional nofun) none rfl)).and
    (Fields.optional "input_type" ((Codec.literal inputTypes InputType.label (by decide)).optional nofun) none rfl)).and
    (Fields.optional "options" (Codec.list Codec.str) [] (Codec.list_self nofun))).and
    (Fields.optional "required" Codec.bool true (Pydantic.bool_self true))).and
    (Fields.optional "field_mapping" ((laxText _).optional nofun) none rfl)).iso
    (fun ((((((question, fields), id), type), options), required), mapping) =>
      ⟨question, fields, id, type, options, required, mapping⟩)
    (fun q => ((((((q.question, q.answerFields), q.questionId), q.inputType), q.options), q.required), q.fieldMapping))
    fun _ => rfl

def ToolSummaryData.fields : Fields ToolSummaryData :=
  ((Fields.field "tool_name" (laxText isIdentifier)).and (Fields.field "summary" (laxText _))).iso
    (fun (name, summary) => ⟨name, summary⟩) (fun d => (d.toolName, d.summary)) fun _ => rfl

def ErrorData.fields : Fields ErrorData :=
  (((Fields.field "code" (laxText isIdentifier)).and
    (Fields.field "message" (laxText _))).and
    (Fields.optional "retryable" Codec.bool false (Pydantic.bool_self false))).iso
    (fun ((code, message), retryable) => ⟨code, message, retryable⟩) (fun d => ((d.code, d.message), d.retryable))
    fun _ => rfl

def ManifestDraftData.fields : Fields ManifestDraftData :=
  ((Fields.field "message" (laxText _)).and (Fields.field "manifest" ResourceManifest.codec)).iso
    (fun (message, manifest) => ⟨message, manifest⟩) (fun d => (d.message, d.manifest)) fun _ => rfl

def EnvelopeHeader.fields (type : String) : Fields EnvelopeHeader :=
  ((((Fields.field "version" (laxText isSemver)).and
    (Fields.field "request_id" Codec.uuid)).and
    (Fields.field "metadata" OutputMetadata.codec)).and
    (Fields.field "type" (tag type))).iso
    (fun (((version, id), metadata), _) => ⟨version, id, metadata⟩) (fun h => (((h.version, h.requestId), h.metadata), ()))
    fun _ => rfl

end Codecs

namespace ComponentPayloadData

def known : List String := ["component_id", "component_version", "payload"]

def version (fs : PyFields) : Option (Such isSemver) :=
  match fs.lookup "component_version" with
  | some v => (laxText isSemver).validate v
  | none => some ⟨"1.0.0", isSemver_first⟩

def validate (v : PyValue) : Option ComponentPayloadData :=
  (Pydantic.fields v).bind fun fs =>
    if fs.all fun f => known.contains f.1 then do
      let id ← (fs.lookup "component_id").bind (laxText isIdentifier).validate
      let version ← version fs
      let payload ← (fs.lookup "payload").bind Pydantic.fields
      return ⟨id, version, freeze (.dict payload)⟩
    else none

def dump (d : ComponentPayloadData) : Option PyValue :=
  d.payload.toJson.map fun payload =>
    .dict [("component_id", .str d.componentId.val), ("component_version", .str d.componentVersion.val),
      ("payload", payload)]

omit [PyUnicode] in
theorem freeze_raises (d : ComponentPayloadData) {v : PyValue} (run : validate v = some d) : d.dump = none := by
  obtain ⟨fs, -, run⟩ := Option.bind_eq_some_iff.mp run
  split at run
  · obtain ⟨id, -, run⟩ := Option.bind_eq_some_iff.mp run
    obtain ⟨version, -, run⟩ := Option.bind_eq_some_iff.mp run
    obtain ⟨payload, -, same⟩ := Option.bind_eq_some_iff.mp run
    cases same
    simp only [dump, freeze, PyValue.toJson, Option.map_none]
  · cases run

end ComponentPayloadData

namespace AgentOutputEnvelope

-- The fields of a variant, its data read by `data`.
def read {α : Type} (type : String) (data : PyValue → Option α) (v : PyValue) : Option (EnvelopeHeader × α) :=
  (Pydantic.fields v).bind fun given =>
    if given.all fun f => ((EnvelopeHeader.fields type).names ++ ["data"]).contains f.1 then
      ((EnvelopeHeader.fields type).read given).bind fun h => ((given.lookup "data").bind data).map fun d => (h, d)
    else none

def as {α : Type} (type : String) (data : PyValue → Option α) (variant : α → OutputData) (v : PyValue) :
    Option AgentOutputEnvelope :=
  (read type data v).map fun p => ⟨p.1, variant p.2⟩

def validateAs (type : String) (v : PyValue) : Option AgentOutputEnvelope :=
  match type with
  | "assistant_message" => as type AssistantMessageData.codec.validate .assistantMessage v
  | "component_payload" => as type ComponentPayloadData.validate .componentPayload v
  | "manifest_draft" => as type (Codec.model ManifestDraftData.fields).validate .manifestDraft v
  | "clarification_question" => as type (Codec.model ClarificationQuestionData.fields).validate .clarificationQuestion v
  | "tool_summary" => as type (Codec.model ToolSummaryData.fields).validate .toolSummary v
  | "error" => as type (Codec.model ErrorData.fields).validate .error v
  | _ => none

-- `_ENVELOPE_ADAPTER.validate_python`
def validatePython (v : PyValue) : Option AgentOutputEnvelope :=
  (Resource.discriminator v).bind fun type => validateAs type v

end AgentOutputEnvelope

namespace OutputData

def type : OutputData → String
  | assistantMessage _ => "assistant_message"
  | componentPayload _ => "component_payload"
  | manifestDraft _ => "manifest_draft"
  | clarificationQuestion _ => "clarification_question"
  | toolSummary _ => "tool_summary"
  | error _ => "error"

def dump : OutputData → Option PyValue
  | assistantMessage message => some (AssistantMessageData.codec.dump message)
  | componentPayload data => data.dump
  | manifestDraft data => some ((Codec.model ManifestDraftData.fields).dump data)
  | clarificationQuestion data => some ((Codec.model ClarificationQuestionData.fields).dump data)
  | toolSummary data => some ((Codec.model ToolSummaryData.fields).dump data)
  | error data => some ((Codec.model ErrorData.fields).dump data)

end OutputData

namespace AgentOutputEnvelope

-- `model_dump(mode="json")`
def modelDump (e : AgentOutputEnvelope) : Option PyValue :=
  e.data.dump.map fun data => .dict ((EnvelopeHeader.fields e.data.type).write e.header ++ [("data", data)])

variable {α : Type} {type : String} {v d : PyValue} {e : AgentOutputEnvelope}

omit [PyUnicode] in
theorem read_eq (c : Codec α) : read type c.validate v =
    (Codec.model ((EnvelopeHeader.fields type).and (Fields.field "data" c))).validate v :=
  rfl

omit [PyUnicode] in
theorem discriminator_header (h : EnvelopeHeader) (rest : PyFields) :
    Resource.discriminator (.dict ((EnvelopeHeader.fields type).write h ++ rest)) = some type := by
  unfold Resource.discriminator
  rw [Pydantic.fields_dict]
  exact Pydantic.literalStr_self type

theorem as_again {c : Codec α} {variant : α → OutputData} (run : as type c.validate variant v = some e)
    (typed : ∀ a, (variant a).type = type) (dumped : ∀ a, (variant a).dump = some (c.dump a)) :
    e.data.type = type ∧ ∃ d, e.modelDump = some d ∧ as type c.validate variant d = some e := by
  obtain ⟨⟨h, a⟩, read, rfl⟩ := Option.map_eq_some_iff.mp run
  rw [read_eq] at read
  refine ⟨typed a, _, by rw [modelDump, dumped a]; rfl, ?_⟩
  refine Option.map_eq_some_iff.mpr ⟨(h, a), ?_, rfl⟩
  rw [read_eq, typed a]
  exact (Codec.model ((EnvelopeHeader.fields type).and (Fields.field "data" c))).again v (h, a) read

theorem as_type {data : PyValue → Option α} {variant : α → OutputData} (run : as type data variant v = some e) :
    ∃ a w, data w = some a ∧ e.data = variant a := by
  obtain ⟨⟨h, a⟩, read, rfl⟩ := Option.map_eq_some_iff.mp run
  obtain ⟨given, -, read⟩ := Option.bind_eq_some_iff.mp read
  split at read
  · obtain ⟨_, -, read⟩ := Option.bind_eq_some_iff.mp read
    obtain ⟨_, found, same⟩ := Option.map_eq_some_iff.mp read
    cases same
    obtain ⟨w, -, found⟩ := Option.bind_eq_some_iff.mp found
    exact ⟨a, w, found, rfl⟩
  · cases read

theorem validatePython_dump (same : e.data.type = type) (dumped : e.modelDump = some d)
    (run : validateAs type d = some e) : validatePython d = some e := by
  obtain ⟨data, -, rfl⟩ := Option.map_eq_some_iff.mp dumped
  subst same
  unfold validatePython
  rw [discriminator_header, Option.bind_some]
  exact run

theorem dump_iff (run : validatePython v = some e) :
    (∃ d, e.modelDump = some d ∧ validatePython d = some e) ↔ e.data.type ≠ "component_payload" := by
  obtain ⟨type, -, run⟩ := Option.bind_eq_some_iff.mp run
  unfold validateAs at run
  split at run
  case h_2 =>
    obtain ⟨data, w, read, variant⟩ := as_type run
    have raises : e.modelDump = none := by
      rw [modelDump, variant, OutputData.dump, ComponentPayloadData.freeze_raises data read]
      rfl
    simp [raises, variant, OutputData.type]
  case h_7 => cases run
  all_goals
    obtain ⟨same, d, dumped, again⟩ := as_again run (fun _ => rfl) fun _ => rfl
    refine ⟨fun _ => by rw [same]; decide, fun _ => ⟨d, dumped, validatePython_dump same dumped again⟩⟩

end AgentOutputEnvelope

section Validation

inductive LoadsError where
  | hook (message : String)
  | decode (line column : Nat)

-- `json.loads` with its `object_pairs_hook`, and the texts of pydantic's errors.
class EnvelopeRuntime where
  loads : (PyFields → Except String PyFields) → String → Except LoadsError PyValue
  errors : PyValue → List String

inductive RawOutput where
  | bytes (raw : ByteArray)
  | text (raw : String)
  | model (raw : PyValue)
  | object (raw : PyValue)

def rejectDuplicateKeys (pairs : PyFields) : Except String PyFields :=
  pairs.foldlM (fun result p =>
    if (result.map Prod.fst).contains p.1 then .error ("duplicate JSON field: " ++ p.1) else .ok (result ++ [p])) []

structure EnvelopeValidationResult where
  valid : Bool
  errors : List String
  parsed : Option AgentOutputEnvelope

variable [EnvelopeRuntime]

def validatePayload (payload : PyValue) : EnvelopeValidationResult :=
  match AgentOutputEnvelope.validatePython payload with
  | some e => ⟨true, [], some e⟩
  | none => ⟨false, EnvelopeRuntime.errors payload, none⟩

def validateText (raw : String) : EnvelopeValidationResult :=
  match EnvelopeRuntime.loads rejectDuplicateKeys raw with
  | .ok payload => validatePayload payload
  | .error (.hook message) => ⟨false, [message], none⟩
  | .error (.decode line column) =>
    ⟨false, ["invalid JSON at line " ++ toString line ++ " column " ++ toString column], none⟩

-- Nothing where the dump of a given model raises.
def validateEnvelope : RawOutput → Option EnvelopeValidationResult
  | .bytes raw =>
    match String.fromUTF8? raw with
    | some text => some (validateText text)
    | none => some ⟨false, ["output is not valid UTF-8"], none⟩
  | .text raw => some (validateText raw)
  | .model raw => raw.toJson.map validatePayload
  | .object raw => some (validatePayload raw)

def Accepts (raw : RawOutput) (e : AgentOutputEnvelope) : Prop :=
  ∃ result, validateEnvelope raw = some result ∧ result.valid = true ∧ result.parsed = some e

theorem validatePayload_ok {payload : PyValue} {e : AgentOutputEnvelope} (valid : (validatePayload payload).valid = true)
    (parsed : (validatePayload payload).parsed = some e) : AgentOutputEnvelope.validatePython payload = some e := by
  unfold validatePayload at valid parsed
  cases run : AgentOutputEnvelope.validatePython payload with
  | some a => simpa [run] using parsed
  | none => simp [run] at valid

theorem validateText_ok {raw : String} {e : AgentOutputEnvelope} (valid : (validateText raw).valid = true)
    (parsed : (validateText raw).parsed = some e) : ∃ payload, AgentOutputEnvelope.validatePython payload = some e := by
  unfold validateText at valid parsed
  split at valid
  · rename_i payload load
    rw [load] at parsed
    exact ⟨payload, validatePayload_ok valid parsed⟩
  · cases valid
  · cases valid

theorem accepted_payload {raw : RawOutput} {e : AgentOutputEnvelope} (accepted : Accepts raw e) :
    ∃ payload, AgentOutputEnvelope.validatePython payload = some e := by
  obtain ⟨result, run, valid, parsed⟩ := accepted
  cases raw with
  | bytes raw =>
    simp only [validateEnvelope] at run
    split at run
    · cases run
      exact validateText_ok valid parsed
    · cases run
      cases valid
  | text raw =>
    cases run
    exact validateText_ok valid parsed
  | model raw =>
    obtain ⟨payload, -, rfl⟩ := Option.map_eq_some_iff.mp run
    exact ⟨payload, validatePayload_ok valid parsed⟩
  | object raw =>
    cases run
    exact ⟨raw, validatePayload_ok valid parsed⟩

theorem accepts_object {v : PyValue} {e : AgentOutputEnvelope} :
    Accepts (.object v) e ↔ AgentOutputEnvelope.validatePython v = some e := by
  constructor
  · rintro ⟨result, run, valid, parsed⟩
    cases run
    exact validatePayload_ok valid parsed
  · intro run
    refine ⟨_, rfl, ?_⟩
    simp [validatePayload, run]

theorem accepted_envelope_emitted {raw : RawOutput} {e : AgentOutputEnvelope} (accepted : Accepts raw e) :
    (∃ d, e.modelDump = some d ∧ Accepts (.object d) e) ↔ e.data.type ≠ "component_payload" := by
  obtain ⟨payload, run⟩ := accepted_payload accepted
  simp only [accepts_object]
  exact AgentOutputEnvelope.dump_iff run

end Validation

section Example

omit [Pydantic] [PyUnicode]

def sample (type : String) (data : PyFields) : PyValue :=
  .dict [("type", .str type), ("version", .str "1.0.0"),
    ("request_id", .str "8b8c64dc-6607-4a45-aa71-f51b2d381cdf"), ("data", .dict data),
    ("metadata", .dict [("confidence", .float PyFloat.one), ("source", .str "llm_generated"), ("warnings", .list [])])]

abbrev noJson : EnvelopeRuntime := ⟨fun _ _ => .error (.decode 1 1), fun _ => ["invalid"]⟩

theorem accepted_envelope_emitted_message :
    letI : Pydantic := plainPydantic
    letI : PyUnicode := asciiPython
    letI : EnvelopeRuntime := noJson
    ∃ e, Accepts (.object (sample "assistant_message" [("message", .str "Here is a safe explanation.")])) e ∧
      ((∃ d, e.modelDump = some d ∧ Accepts (.object d) e) ↔ e.data.type ≠ "component_payload") := by
  let _ : Pydantic := plainPydantic
  let _ : PyUnicode := asciiPython
  let _ : EnvelopeRuntime := noJson
  have read : (AgentOutputEnvelope.validatePython
      (sample "assistant_message" [("message", .str "Here is a safe explanation.")])).isSome = true := by
    decide +kernel
  obtain ⟨e, run⟩ := Option.isSome_iff_exists.mp read
  have accepted := accepts_object.mpr run
  exact ⟨e, accepted, accepted_envelope_emitted accepted⟩

theorem component_payload_raises :
    ¬ ∀ [Pydantic] [PyUnicode] [EnvelopeRuntime] (raw : RawOutput) (e : AgentOutputEnvelope), Accepts raw e →
      ∃ d, e.modelDump = some d ∧ Accepts (.object d) e := by
  intro claim
  let _ : Pydantic := plainPydantic
  let _ : PyUnicode := asciiPython
  let _ : EnvelopeRuntime := noJson
  have read : ((AgentOutputEnvelope.validatePython (sample "component_payload"
      [("component_id", .str "cost.summary"), ("payload", .dict [("monthly_usd", .int 20)])])).any
        fun e => e.modelDump.isNone) = true := by
    decide +kernel
  obtain ⟨e, run, raises⟩ := (Option.any_eq_true _ _).mp read
  obtain ⟨d, dumped, -⟩ := claim (.object _) e (accepts_object.mpr run)
  rw [dumped] at raises
  cases raises

end Example

end Provisr.Agent
