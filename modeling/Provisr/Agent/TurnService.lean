import Provisr.Agent.Drafting
import Provisr.Foundation.Exceptional

namespace Provisr.Agent

open Provisr.Foundation PyRegex Contracts

section Requests

inductive Failure where
  | sessionNotFound
  | sessionFailed
  | promptIntegrity (message : String)
  | invalidModelResponse (detail : String)
  | policyUnavailable (code detail : String)
  | raised (message : String)
  deriving DecidableEq

inductive AgentEventType where
  | turnStarted
  | policyRequirementsLoaded
  | messageCompleted
  | clarificationRequired
  | manifestProposed
  | manifestDraft
  | turnFailed
  | streamCompleted
  deriving DecidableEq, Repr

-- An event of the session, without the data it carries.
structure AgentEvent where
  sequence : Nat
  type : AgentEventType
  deriving DecidableEq, Repr

structure ProfileBundle where
  promptId : String
  contentHash : String
  content : String
  temperature : PyFloat
  maxTokens : Int

abbrev LoadedRequirements := {p : PolicyRequirements // (p.requiredTags.map Prod.fst).Nodup}

-- The requests of calls on one session: to the state store, the model and the policy tool.
inductive Op where
  | getSession
  | saveSession (session : AgentSession)
  | listRecords
  | appendEvent (event : AgentEvent)
  | completeTurn (session : AgentSession) (profile : ProfileBundle)
  | getPolicyRequirements (session : AgentSession)

def Ret : Op → Type
  | .getSession => Except Failure AgentSession
  | .saveSession _ => Except Failure Unit
  | .listRecords => Except Failure (List AgentEvent)
  | .appendEvent _ => Except Failure Unit
  | .completeTurn _ _ => Except Failure String
  | .getPolicyRequirements _ => Except Failure LoadedRequirements

abbrev Service (α : Type) := Async Ret Failure α

def getSession : Service AgentSession := .attempt .getSession id

def saveSession (session : AgentSession) : Service Unit := .attempt (.saveSession session) id

-- `list_events(session_id, 0)`
def listEvents : Service (List AgentEvent) := do
  let _ ← getSession
  let records ← Async.attempt .listRecords id
  return records.filter fun e => decide (0 < e.sequence)

def nextSequence (existing : List AgentEvent) : Nat :=
  match existing.getLast? with
  | some e => e.sequence + 1
  | none => 1

def appendEvent (type : AgentEventType) : Service Unit := do
  let existing ← listEvents
  Async.attempt (.appendEvent ⟨nextSequence existing, type⟩) id

def failTurn (session : AgentSession) : Service Unit := do
  saveSession { session with status := .failed }
  appendEvent .turnFailed

end Requests

section Answers

-- One answer for each field, the last one given.
def recordAnswer (merged : List AnsweredQuestion) (answer : AnsweredQuestion) : List AnsweredQuestion :=
  if merged.any fun a => a.fieldMapping == answer.fieldMapping then
    merged.map fun a => if a.fieldMapping = answer.fieldMapping then answer else a
  else merged ++ [answer]

def mergeAnswers (answered answers : List AnsweredQuestion) : List AnsweredQuestion :=
  (answered ++ answers).foldl recordAnswer []

def recordClarificationAnswers (answers : List AnsweredQuestion) : Service AgentSession := do
  let session ← getSession
  let session := { session with answeredQuestions := mergeAnswers session.answeredQuestions answers }
  saveSession session
  return session

end Answers

variable [PyUnicode]

class ProfileSelector where
  selectProfile : String → String → Option ProfileBundle
  answeredContext : List AnsweredQuestion → String

section Turn

variable [PyFormat] [Pydantic] [EnvelopeRuntime] [ProfileSelector]

def pinnedProfile (session : AgentSession) : Except Failure ProfileBundle :=
  match ProfileSelector.selectProfile session.profile.profileId session.profile.promptVersion with
  | none => .error (.promptIntegrity "Pinned agent profile is no longer available")
  | some profile =>
    if profile.promptId ≠ session.profile.promptId ∨ profile.contentHash ≠ session.profile.promptHash then
      .error (.promptIntegrity "Pinned prompt metadata failed integrity validation")
    else if profile.temperature ≠ session.profile.temperature ∨ profile.maxTokens ≠ session.profile.maxTokens then
      .error (.promptIntegrity "Pinned agent profile configuration changed")
    else .ok profile

-- `augment_profile`: the confirmed answers in front of the prompt.
def augmentProfile (profile : ProfileBundle) (answered : List AnsweredQuestion) : ProfileBundle :=
  { profile with content := ProfileSelector.answeredContext answered ++ profile.content }

inductive TurnOutput where
  | envelope (e : AgentOutputEnvelope)
  | draft (header : EnvelopeHeader) (draft : ManifestDraft)

namespace TurnOutput

def message : TurnOutput → String
  | draft _ d => d.message.val
  | envelope e =>
    match e.data with
    | .assistantMessage text => text.val
    | .componentPayload data => "Generated component " ++ data.componentId.val ++ "."
    | .manifestDraft data => data.message.val
    | .clarificationQuestion data => data.question.val
    | .toolSummary data => data.summary.val
    | .error data => data.message.val

def isError : TurnOutput → Bool
  | envelope ⟨_, .error _⟩ => true
  | _ => false

def eventType : TurnOutput → AgentEventType
  | draft _ _ => .manifestProposed
  | envelope e =>
    match e.data with
    | .clarificationQuestion _ => .clarificationRequired
    | .manifestDraft _ => .manifestProposed
    | .error _ => .turnFailed
    | _ => .messageCompleted

-- Whether the data of the event can be had: `model_dump(mode="json")` may raise.
def eventData : TurnOutput → Except Failure Unit
  | draft _ _ => .ok ()
  | envelope e =>
    if e.data.type = "error" ∨ e.modelDump.isSome then .ok ()
    else .error (.raised "Unable to serialize unknown type: <class 'mappingproxy'>")

end TurnOutput

def templateHeader (session : AgentSession) : EnvelopeHeader :=
  ⟨⟨"1.0.0", isSemver_first⟩, session.requestId.val, ⟨⟨PyFloat.one, by decide +kernel⟩, .template, ⟨[], noBlanks_nil⟩⟩⟩

def answerType : ClarificationInputType → AnswerType
  | .text | .select => .string
  | .multiSelect => .strings
  | .boolean | .confirmation => .boolean

def inputType : ClarificationInputType → InputType
  | .text => .text
  | .select => .select
  | .multiSelect => .multiSelect
  | .boolean => .boolean
  | .confirmation => .confirmation

def clarificationData (q : ClarificationQuestion) : Option ClarificationQuestionData := do
  let question ← Such.of (lengthIn 1 10000) q.questionText
  let name ← Such.of isAnswerName q.questionId
  let options := if q.options.isEmpty then none else some q.options
  let field ← Such.of AnswerFieldContent.optionsType ⟨name, answerType q.inputType, options⟩
  let id ← Such.of (lengthIn 0 64) q.questionId
  let mapping ← Such.of (lengthIn 0 128) q.fieldMapping
  return ⟨question, ⟨[field], rfl⟩, some id, some (inputType q.inputType), q.options, q.required, some mapping⟩

def clarificationEnvelope (session : AgentSession) (q : ClarificationQuestion) : Except Failure TurnOutput :=
  match clarificationData q with
  | some data => .ok (.envelope ⟨templateHeader session, .clarificationQuestion data⟩)
  | none => .error (.raised "ValidationError")

def unsupportedMessage (provider : Provider) : String :=
  "This workspace is connected to " ++ provider.label ++ ", but the current manifest format supports AWS resources " ++
    "only. I can't draft a manifest for this workspace yet."

def unsupportedEnvelope (session : AgentSession) (provider : Provider) : TurnOutput :=
  .envelope ⟨templateHeader session,
    .assistantMessage ⟨unsupportedMessage provider, by
      cases provider <;>
        exact lengthIn_of (JsText.length_append (JsText.length_append
          (JsText.length_append String.length_ofList String.length_ofList) String.length_ofList) String.length_ofList)
          (by decide)⟩⟩

def providerOf (label : String) : Option Provider := providers.lookup label

-- Lower case, as `str.strip().lower()` of an answer.
def answeredLabel (answers : List AnsweredQuestion) : Option String :=
  (answeredProvider answers).map fun a => PyUnicode.lower (PyText.strip a)

def single : List Provider → Option Provider
  | [p] => some p
  | _ => none

-- The selected provider, where it is connected and not aws. The search for its name ignores the case of the text.
def unsupportedSelectedProvider (context : Option ExecutionContext) (answers : List AnsweredQuestion)
    (userText : String) : Option Provider :=
  context.bind fun c =>
    let connected := c.cloudContext.connectedProviders
    let selected := match answeredLabel answers with
      | some label => providerOf label
      | none => (single (mentionedProviders (PyUnicode.lower userText))).or (single connected)
    selected.filter fun p => connected.contains p && p != .aws

def answersField (session : AgentSession) (data : ClarificationQuestionData) : Bool :=
  match data.fieldMapping with
  | some field => session.answeredQuestions.any fun a => a.fieldMapping == field.val
  | none => false

def turnFailure : TurnError → Failure
  | .invalidModelResponse detail => .invalidModelResponse detail
  | .validation fields => .raised (", ".intercalate fields)

def checkOutput (session : AgentSession) (raw : String) : Except Failure TurnOutput :=
  match (validateText raw).parsed with
  | none => .error (.invalidModelResponse
      ("Agent output failed envelope validation: " ++ "; ".intercalate (validateText raw).errors))
  | some e =>
    if e.header.requestId ≠ session.requestId.val then
      .error (.invalidModelResponse "Agent output request_id did not match the active request")
    else
      match e.data with
      | .clarificationQuestion data =>
        if answersField session data then
          .error (.invalidModelResponse "Agent output asked for an already answered field")
        else .ok (.envelope e)
      | .manifestDraft data =>
        match checkDraft session data with
        | .ok draft => .ok (.draft e.header draft)
        | .error error => .error (turnFailure error)
      | _ => .ok (.envelope e)

def modelOutput (session : AgentSession) (profile : ProfileBundle) : Service TurnOutput := do
  let raw ← Async.attempt (.completeTurn session (augmentProfile profile session.answeredQuestions)) id
  Async.ofExcept (checkOutput session raw)

def runModelTurn (session : AgentSession) (profile : ProfileBundle) : Service TurnOutput :=
  Async.handle (modelOutput session profile) fun
    | .invalidModelResponse detail => do
      failTurn session
      throw (.invalidModelResponse detail)
    | error => throw error

omit [PyUnicode] [PyFormat] [Pydantic] [EnvelopeRuntime] [ProfileSelector] in
theorem loaded_unique (p : LoadedRequirements) : ∀ q ∈ some p.val, (q.requiredTags.map Prod.fst).Nodup := by
  intro q mem
  obtain rfl := Option.some.inj mem
  exact p.property

def loadRequirements (session : AgentSession) : Service LoadedRequirements :=
  Async.handle (Async.attempt (.getPolicyRequirements session) id) fun
    | .policyUnavailable code detail => do
      failTurn session
      throw (.policyUnavailable code detail)
    | error => throw error

def AgentSession.loaded (session : AgentSession) (p : LoadedRequirements) : AgentSession :=
  { session with policyRequirements := some p.val, unique_tags := loaded_unique p }

def ensurePolicyRequirements (session : AgentSession) : Service AgentSession :=
  if session.policyRequirements.isSome then pure session
  else do
    let requirements ← loadRequirements session
    saveSession (session.loaded requirements)
    appendEvent .policyRequirementsLoaded
    return session.loaded requirements

def gapDetection (session : AgentSession) : Except Failure (List ClarificationQuestion) :=
  (turnGaps session.executionContext session.answeredQuestions session.userText).mapError fun e => .raised e.field

def turnOutput (session : AgentSession) (profile : ProfileBundle) : Service (AgentSession × TurnOutput) := do
  let gaps ← Async.ofExcept (gapDetection session)
  match unsupportedSelectedProvider session.executionContext session.answeredQuestions session.userText with
  | some provider => return (session, unsupportedEnvelope session provider)
  | none =>
    match gaps with
    | gap :: _ => return (session, ← Async.ofExcept (clarificationEnvelope session gap))
    | [] =>
      let session ← ensurePolicyRequirements session
      return (session, ← runModelTurn session profile)

def AgentSession.said (session : AgentSession) (message : String) : AgentSession :=
  { session with messages := session.messages ++ [⟨.user, message⟩] }

def AgentSession.completed (session : AgentSession) (output : TurnOutput) : AgentSession :=
  { session.replied output.message with status := if output.isError then .failed else session.status }

def emitDraft (session : AgentSession) (message : Such (lengthIn 1 20000)) : TurnOutput → Service Unit
  | .draft _ draft => do
    let _ ← Async.ofExcept ((draftCanonical session draft message).mapError turnFailure)
    appendEvent .manifestDraft
  | .envelope _ => pure ()

def finishTurn (session : AgentSession) (message : Such (lengthIn 1 20000)) (output : TurnOutput) :
    Service TurnOutput := do
  saveSession (session.completed output)
  Async.ofExcept output.eventData
  emitDraft (session.completed output) message output
  appendEvent output.eventType
  appendEvent .streamCompleted
  return output

def startTurn (session : AgentSession) (message : Such (lengthIn 1 20000)) (profile : ProfileBundle) :
    Service TurnOutput := do
  saveSession (session.said message.val)
  appendEvent .turnStarted
  let (session, output) ← turnOutput (session.said message.val) profile
  finishTurn session message output

def runTurn (message : Such (lengthIn 1 20000)) : Service TurnOutput := do
  let session ← getSession
  if session.status = .failed then throw .sessionFailed
  else
    let profile ← Async.ofExcept (pinnedProfile session)
    startTurn session message profile

end Turn

end Provisr.Agent
