import Provisr.Orchestrator.ComponentSchemas

namespace Provisr.Orchestrator.Payloads

open Provisr.Foundation JsTree

abbrev JsValue := {v : JsTree // Json.Normal id v}

section Validation

structure ComponentPayloadValidationError where
  componentType : String
  componentVersion : String
  deriving DecidableEq

def componentSchemaVersion : String := "1.0.0"

def validateComponent (id : String) (payload : Option JsTree) (version : String) :
    Except ComponentPayloadValidationError JsTree :=
  match componentSchemas.lookup id with
  | none => .error ⟨"unknown", if version = componentSchemaVersion then version else "unsupported"⟩
  | some schema =>
    if version = componentSchemaVersion then
      match payload.bind schema.parse with
      | some data => .ok data
      | none => .error ⟨id, version⟩
    else .error ⟨id, "unsupported"⟩

theorem validateComponent_ok_iff {id version : String} {payload out : JsTree} :
    validateComponent id (some payload) version = .ok out ↔
      version = componentSchemaVersion ∧ ∃ s, componentSchemas.lookup id = some s ∧ s.parse payload = some out := by
  unfold validateComponent
  cases known : componentSchemas.lookup id with
  | none => simp
  | some s =>
    by_cases current : version = componentSchemaVersion
    · subst current
      dsimp only
      rw [if_pos rfl, Option.bind_some]
      cases run : s.parse payload with
      | none => simp [run]
      | some data => simp [run]
    · simp [current]

end Validation

section Events

inductive EventError where
  | malformed
  | component (e : ComponentPayloadValidationError)
  deriving DecidableEq

def validateSseComponent : Option JsTree → Except EventError Unit
  | some (.obj component) =>
    match component.lookup "type", component.lookup "version" with
    | some (.str type), some (.str version) =>
      match validateComponent type (component.lookup "data") version with
      | .ok _ => .ok ()
      | .error e => .error (.component e)
    | _, _ => .error .malformed
  | _ => .error .malformed

-- The components of an event are read again before it is stored; what they are read as is not used.
def validateSseComponents (eventType : String) (payload : Properties) : Except EventError Unit :=
  if eventType = "ManifestReadyEvent" then
    match payload.lookup "components" with
    | some (.arr components) => components.forM fun c => validateSseComponent (some c)
    | _ => .error .malformed
  else if eventType = "ComponentPayloadEvent" ∨ eventType = "ClarificationQuestionEvent" then
    validateSseComponent (payload.lookup "component")
  else .ok ()

-- The value of a jsonb column, read from JSON.stringify(component).
def stored (component : JsTree) : Option (Json JsNumber) :=
  if Json.storable component = true then some (Json.jsonb (encode component)) else none

end Events

section Dispatch

structure RegistryEntry where
  version : String
  schema : Schema
  migrate : Option (Option JsTree → String → Option JsTree)

inductive Reason where
  | schema
  | version
  deriving DecidableEq

-- Without the issues, the type that is shown of an invalid payload, and the React component.
inductive DispatchResult where
  | unknown (type : String)
  | invalid (reason : Reason)
  | render (type : String) (data : JsTree)
  deriving DecidableEq

-- A property of the envelope: z.string().min(1)
def envelopeText (payload : Properties) (key : String) : Option String :=
  match payload.lookup key with
  | some (.str s) => if 1 ≤ JsText.length s then some s else none
  | _ => none

-- /^\d+\.\d+$/
def isMajorMinor (s : String) : Bool :=
  match JsText.takeDigits s.toList with
  | some ('.' :: rest) => JsText.takeDigits rest == some []
  | _ => false

def dispatch (type : String) (schema : Schema) (data : Option JsTree) : DispatchResult :=
  match data.bind schema.parse with
  | some data => .render type data
  | none => .invalid .schema

def resolvePayload (registry : String → Option RegistryEntry) : JsTree → DispatchResult
  | .obj payload =>
    match envelopeText payload "type", envelopeText payload "version", envelopeText payload "requestId" with
    | some type, some version, some _ =>
      match registry type with
      | none => .unknown type
      | some entry =>
        if version = entry.version ∨ isMajorMinor entry.version = true ∧ version = entry.version ++ ".0" then
          dispatch type entry.schema (payload.lookup "data")
        else
          match entry.migrate with
          | none => .invalid .version
          | some migrate =>
            match migrate (payload.lookup "data") version with
            | none => .invalid .version
            | some migrated => dispatch type entry.schema (some migrated)
    | _, _, _ => .invalid .schema
  | _ => .invalid .schema

def defaultRegistry (type : String) : Option RegistryEntry :=
  (componentSchemas.lookup type).map fun schema => ⟨"1.0", schema, none⟩

end Dispatch

section Survival

def componentFields (type version requestId : String) (data : JsTree) : Properties :=
  [("data", data), ("requestId", .str requestId), ("type", .str type), ("version", .str version)]

def component (type version requestId : String) (data : JsTree) : JsTree :=
  .obj (componentFields type version requestId data)

-- What a validated component is to come through: the validation of its event, the column of the events, and the
-- registry of the frontend, with the data it has.
structure Survives (type version requestId : String) (out : JsTree) : Prop where
  again : validateComponent type (some out) version = .ok out
  published : validateSseComponents "ComponentPayloadEvent" [("component", component type version requestId out)] =
    .ok ()
  shown : ∃ row, stored (component type version requestId out) = some row ∧
    resolvePayload defaultRegistry (decode row) = .render type out

-- Whether what a schema keeps of a payload can be written: no infinite number among its numbers, coerced or not, and
-- no U+0000 in its texts.
def clean (type : String) (payload : JsTree) : Bool := (componentSchemas.lookup type).any fun s => s.clean payload

variable {type version requestId : String} {payload : JsValue} {out : JsTree} {s : Schema}

theorem known_texts : ∀ s ∈ componentSchemas, Json.storableText s.1 = true ∧ 1 ≤ JsText.length s.1 := by
  have texts : (componentSchemas.map Prod.fst).all
      (fun k => Json.storableText k && decide (1 ≤ JsText.length k)) = true := by
    decide
  intro s mem
  simpa using List.all_eq_true.mp texts s.1 (List.mem_map_of_mem mem)

theorem mem_of_known (known : componentSchemas.lookup type = some s) : ∃ t ∈ componentSchemas, t.1 = type := by
  by_contra unknown
  push Not at unknown
  have missing : componentSchemas.lookup type = none := by
    rw [List.lookup_eq_none_iff]
    exact fun t mem => bne_iff_ne.mpr (unknown t mem).symm
  rw [missing] at known
  cases known

theorem component_normal (normal : Json.Normal id out) : Json.Normal id (component type version requestId out) := by
  refine ⟨?_, normal, trivial, trivial, trivial, trivial⟩
  exact List.pairwise_map.mp (by decide : ["data", "requestId", "type", "version"].Pairwise (· < ·))

theorem wire_component :
    wire (component type version requestId out) = component type version requestId (wire out) := by
  simp [component, componentFields]

theorem storable_component (known : componentSchemas.lookup type = some s) (run : JsText.isUuid requestId = true) :
    Json.storable (component type componentSchemaVersion requestId out) = Json.storable out := by
  obtain ⟨t, mem, rfl⟩ := mem_of_known known
  have keys : ["data", "requestId", "type", "version", componentSchemaVersion].all Json.storableText = true := by decide
  simp only [List.all_cons, Bool.and_eq_true] at keys
  simp [component, componentFields, Json.storable, Json.storableFields, keys, (known_texts t mem).1,
    Json.storableText_of_uuid run]

theorem length_uuid (run : JsText.isUuid requestId = true) : 1 ≤ JsText.length requestId := by
  refine JsText.one_le_length ?_
  rintro rfl
  cases run

theorem resolve_component (known : componentSchemas.lookup type = some s) (run : JsText.isUuid requestId = true) :
    resolvePayload defaultRegistry (component type componentSchemaVersion requestId out) =
      dispatch type s (some out) := by
  obtain ⟨t, mem, rfl⟩ := mem_of_known known
  have texts : ∀ (key text : String),
      (componentFields t.1 componentSchemaVersion requestId out).lookup key = some (.str text) →
      1 ≤ JsText.length text →
      envelopeText (componentFields t.1 componentSchemaVersion requestId out) key = some text := by
    intro key text found long
    rw [envelopeText, found]
    exact if_pos long
  have entry : defaultRegistry t.1 = some ⟨"1.0", s, none⟩ := by
    rw [defaultRegistry, known]
    rfl
  rw [component, resolvePayload, texts "type" t.1 rfl (known_texts t mem).2, texts "version" _ rfl (by decide),
    texts "requestId" requestId rfl (length_uuid run)]
  dsimp only
  rw [entry]
  dsimp only
  rw [if_pos (.inr ⟨by decide, by decide⟩)]
  rfl

theorem validated_component (known : componentSchemas.lookup type = some s) (again : s.parse out = some out) :
    validateSseComponents "ComponentPayloadEvent" [("component", component type componentSchemaVersion requestId out)] =
      .ok () := by
  have accepted : validateComponent type (some out) componentSchemaVersion = .ok out :=
    validateComponent_ok_iff.mpr ⟨rfl, s, known, again⟩
  have read : validateSseComponent (some (component type componentSchemaVersion requestId out)) =
      match validateComponent type (some out) componentSchemaVersion with
      | .ok _ => .ok ()
      | .error e => .error (.component e) := rfl
  rw [accepted] at read
  exact read

theorem dispatch_render_iff {sent : JsTree} :
    dispatch type s (some sent) = .render type out ↔ s.parse sent = some out := by
  unfold dispatch
  rw [Option.bind_some]
  cases s.parse sent <;> simp

-- A payload survives exactly when it is clean.
theorem component_survives_iff (accepted : validateComponent type (some payload.val) version = .ok out)
    (run : JsText.isUuid requestId = true) : Survives type version requestId out ↔ clean type payload.val = true := by
  obtain ⟨rfl, s, known, read⟩ := validateComponent_ok_iff.mp accepted
  have normal : Json.Normal id out := s.normal read payload.property
  rw [clean, known, Option.any_some, ← s.survives read]
  constructor
  · rintro ⟨-, -, row, kept, shown⟩
    obtain ⟨storable, ⟨⟩⟩ := Option.ite_none_right_eq_some.mp kept
    rw [storable_component known run] at storable
    rw [decode_jsonb (component_normal normal), wire_component, resolve_component known run] at shown
    exact ⟨storable, dispatch_render_iff.mp shown⟩
  · rintro ⟨storable, again⟩
    refine ⟨validateComponent_ok_iff.mpr ⟨rfl, s, known, s.again read⟩, validated_component known (s.again read), _,
      if_pos ((storable_component known run).trans storable), ?_⟩
    rw [decode_jsonb (component_normal normal), wire_component, resolve_component known run]
    exact dispatch_render_iff.mpr again

end Survival

section Example

def cardPayload : JsValue := ⟨.obj [("bucketName", .str "logs")], by decide, trivial, trivial⟩

def cardData : JsTree :=
  .obj [("bucketName", .str "logs"), ("publicAccessBlocked", .bool true), ("versioning", .bool false)]

theorem storage_card_survives :
    Survives "storage_card" "1.0.0" "3f2b8c1e-0d4a-4b6f-9a57-1c2d3e4f5a6b" cardData ↔
      clean "storage_card" cardPayload.val = true :=
  component_survives_iff rfl (by decide)

def planPayload : JsValue :=
  ⟨.obj [("service", .str "Amazon EC2"), ("vcpu", .str "Infinity")], by decide, trivial, trivial, trivial⟩

def planData : JsTree :=
  .obj [("replicaCount", .num (.finite 1)), ("service", .str "Amazon EC2"), ("vcpu", .num (.inf false))]

theorem infinite_vcpu_changes :
    ¬ ∀ (type version requestId : String) (payload : JsValue) (out : JsTree),
      validateComponent type (some payload.val) version = .ok out → JsText.isUuid requestId = true →
        Survives type version requestId out := by
  intro claim
  have accepted : validateComponent "compute_plan" (some planPayload.val) "1.0.0" = .ok planData := rfl
  have run : JsText.isUuid "3f2b8c1e-0d4a-4b6f-9a57-1c2d3e4f5a6b" = true := by decide
  obtain ⟨-, -, row, kept, shown⟩ := claim _ _ _ planPayload planData accepted run
  obtain ⟨storable, ⟨⟩⟩ := Option.ite_none_right_eq_some.mp kept
  revert shown
  decide

end Example

end Provisr.Orchestrator.Payloads
