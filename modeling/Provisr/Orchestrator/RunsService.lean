import Provisr.Orchestrator.PlanningClients

namespace Provisr.Orchestrator

open Provisr.Foundation

namespace RunsService

variable [Platform] [ComponentRegistry]

def clock : Action Date := Async.ask Op.dateNow

def randomUUID : Action String := Async.ask Op.randomUUID

def aborted : Action Bool := Async.ask Op.aborted

def stopping : Action Bool := Async.ask Op.stopping

def outOfFuel : Action Unit := Async.ask Op.outOfFuel

def assertMembership (workspaceId userId : String) : Action Unit := do
  let member ← Async.attempt (.membership workspaceId userId) id
  if !member then throw (.forbidden "Workspace membership required")

def getRun (id workspaceId : String) (actorId : Option String) : Action ProvisioningRun := do
  match actorId with
  | some actorId => assertMembership workspaceId actorId
  | none => pure ()
  match ← Async.attempt (.selectRun id workspaceId) (fun r => r) with
  | some run => return run
  | none => throw (.notFound "Run not found")

def mutateRun (id workspaceId : String) (expectedVersion : Nat) (actorId : String)
    (operation : Operation) : Action ProvisioningRun :=
  Async.attempt (.mutate id workspaceId expectedVersion actorId operation) fun r => r

def transitionChange (newState : WorkflowState) (updates : RunUpdates) : Change where
  state := some newState
  updates := updates

def transitionState (id workspaceId : String) (expectedVersion : Nat) (newState : WorkflowState)
    (actorId : String) (updates : RunUpdates) : Action ProvisioningRun :=
  mutateRun id workspaceId expectedVersion actorId fun _ _ => .ok (transitionChange newState updates)

def createRun (sessionId workspaceId requesterId prompt : String) (idempotencyKey : Option String) :
    Action ProvisioningRun := do
  let key ← match idempotencyKey with
    | some key => pure key
    | none => randomUUID
  let correlationId ← randomUUID
  Async.attempt (.createRun ⟨sessionId, workspaceId, requesterId, prompt, key, correlationId⟩) fun r => r

def cancelRun (id workspaceId actorId : String) : Action ProvisioningRun := do
  let run ← getRun id workspaceId (some actorId)
  if run.state.isTerminal then return run
  else transitionState id workspaceId run.stateVersion .cancelled actorId {}

section ConfirmRun

structure ConfirmRunDto where
  manifestVersion : Option String
  planVersion : Option String

def stripV (s : String) : String :=
  match s.toList with
  | 'v' :: cs => String.ofList cs
  | _ => s

def digitValue (c : Char) : Option Nat :=
  if c.isDigit then some (c.toNat - '0'.toNat)
  else if 'a' ≤ c ∧ c ≤ 'f' then some (c.toNat - 'a'.toNat + 10)
  else if 'A' ≤ c ∧ c ≤ 'F' then some (c.toNat - 'A'.toNat + 10)
  else none

def radixNumber (radix : Nat) (cs : List Char) : Option Nat :=
  if cs.isEmpty then none
  else cs.foldlM (fun n c => do
    let d ← digitValue c
    if d < radix then some (n * radix + d) else none) 0

def exponentNumber : List Char → Option Int
  | '-' :: cs => if cs.isEmpty then none else (JsText.digits cs).map fun n => -(n : Int)
  | '+' :: cs => if cs.isEmpty then none else (JsText.digits cs).map fun n => (n : Int)
  | cs => if cs.isEmpty then none else (JsText.digits cs).map fun n => (n : Int)

def decimalNumber (cs : List Char) : Option Nat := do
  let isExponent (c : Char) : Bool := c == 'e' || c == 'E'
  let mantissa := cs.takeWhile fun c => !isExponent c
  let exponent ← match cs.dropWhile fun c => !isExponent c with
    | [] => some 0
    | _ :: e => exponentNumber e
  let whole := mantissa.takeWhile (· != '.')
  let fraction := (mantissa.dropWhile (· != '.')).drop 1
  if whole.isEmpty && fraction.isEmpty then none
  else if h : (whole ++ fraction).all Char.isDigit = true then
    (JsNumber.ofDigits false (whole ++ fraction) h (whole.length + exponent)).toNat?
  else none

-- Number(text), where it is an integer that is not negative. Digits beyond the precision of a
-- double are kept.
def natNumber (text : String) : Option Nat :=
  match JsText.trimEnd (JsText.trimStart text.toList) with
  | [] => some 0
  | '0' :: 'x' :: cs | '0' :: 'X' :: cs => radixNumber 16 cs
  | '0' :: 'o' :: cs | '0' :: 'O' :: cs => radixNumber 8 cs
  | '0' :: 'b' :: cs | '0' :: 'B' :: cs => radixNumber 2 cs
  | '+' :: cs => decimalNumber cs
  | cs => decimalNumber cs

def confirmedChange (version : Nat) (now : Ambient) : Change where
  state := some .iacGenerating
  updates := {
    manifestConfirmedVersion := some (some version)
    manifestConfirmedAt := some (some now.dateNow) }
  eventType := some .manifestConfirmed
  payload := [("manifest_version", .num (JsNumber.ofNat version))]

def confirmChange (version : Nat) (current : ProvisioningRun) (now : Ambient) :
    Except ServiceError Change :=
  if current.state ≠ .manifestValidating ∨ current.manifestVersion ≠ some version ∨
      current.manifestValidatedVersion ≠ some version then
    .error (.conflict "Only the active validated manifest version can be confirmed")
  else .ok (confirmedChange version now)

def confirmRun (id workspaceId actorId : String) (dto : ConfirmRunDto) : Action ProvisioningRun := do
  let run ← getRun id workspaceId (some actorId)
  let version := (dto.manifestVersion.bind fun v => natNumber (stripV v)).getD 0
  if version < 1 then throw (.badRequest "A valid manifest version is required")
  else if run.manifestConfirmedVersion = some version ∧ run.manifestVersion = some version then return run
  else mutateRun id workspaceId run.stateVersion actorId (confirmChange version)

end ConfirmRun

section Clarification

def clarificationWindow : Nat := 3600000

def suspendedChange (run : ProvisioningRun) (question : ClarificationQuestion) (data : JsJson)
    (now : Ambient) : Change where
  state := some .clarifying
  updates := {
    currentQuestion := some (some question)
    clarificationExpiresAt := some (some (now.dateNow + clarificationWindow))
    agentTurnPending := some false }
  eventType := some .clarificationQuestion
  payload := [("question", question.toJson), ("component", .obj [
    ("type", .str "clarification_question"), ("version", .str "1.0.0"), ("requestId", .str run.id),
    ("data", data)])]

def suspendChange (run : ProvisioningRun) (question : ClarificationQuestion) (now : Ambient) :
    Except ServiceError Change := do
  let data ← validateComponent "clarification_question" (some (.obj [("id", .str run.id),
    ("question", .str question.question), ("inputType", .str "text")])) componentSchemaVersion
  return suspendedChange run question data now

def suspendRun (run : ProvisioningRun) (payload : JsJson) : Action ProvisioningRun := do
  let question ← PlanningClients.parse (questionSchema (some payload))
  mutateRun run.id run.workspaceId run.stateVersion orchestrator fun _ now =>
    suspendChange run question now

structure ClarifyRunDto where
  answers : Option JsJson
  idempotencyKey : Option String

def usedForDifferentAnswers : ServiceError :=
  .conflict "Idempotency key already used for different answers"

def replay (entry : AnswerEntry) (answers : Option JsJson) (run : ProvisioningRun) :
    Except ServiceError ProvisioningRun :=
  match validateAnswers entry.question answers with
  | .error _ => .error usedForDifferentAnswers
  | .ok normalized =>
    if Json.stringify (Json.obj entry.answers) ≠ Json.stringify (Json.obj normalized) then
      .error usedForDifferentAnswers
    else .ok run

def findEntry (run : ProvisioningRun) (key : String) : Option AnswerEntry :=
  run.answersHistory.find? fun entry => entry.idempotencyKey == key

def agentInputText (question : ClarificationQuestion) (answers : JsFields) : String :=
  Json.stringify (.obj [("question", Json.jsonb question.toJson), ("answers", .obj answers)])

def maxAgentInput : Nat := 20000

def answeredChange (current : ProvisioningRun) (entry : AnswerEntry) (agentInput : String) : Change where
  state := some .manifestCreating
  updates := {
    currentQuestion := some none
    clarificationExpiresAt := some none
    answersHistory := some (current.answersHistory ++ [entry])
    agentInput := some (some agentInput)
    agentTurnPending := some true }
  eventType := some .clarificationAnswered

def answerChange (answers : JsFields) (key : Option String) (current : ProvisioningRun)
    (now : Ambient) (agentInput : String) : Except ServiceError Change :=
  match current.state, current.currentQuestion, current.clarificationExpiresAt with
  | .clarifying, some question, some expiresAt =>
    if expiresAt ≤ now.dateNow then
      .error (.conflict "Clarification expired or is no longer pending")
    else .ok (answeredChange current ⟨question, answers, now.dateNow, key.getD now.uuid⟩ agentInput)
  | _, _, _ => .error (.conflict "Clarification expired or is no longer pending")

def clarifyRun (id workspaceId actorId : String) (dto : ClarifyRunDto) : Action ProvisioningRun := do
  let run ← getRun id workspaceId (some actorId)
  let key := dto.idempotencyKey.filter (· ≠ "")
  match key.bind (findEntry run) with
  | some entry => Async.ofExcept (replay entry dto.answers run)
  | none =>
    match run.state, run.currentQuestion, run.clarificationExpiresAt with
    | .clarifying, some question, some expiresAt =>
      let now ← clock
      if expiresAt ≤ now then
        let _ ← transitionState id workspaceId run.stateVersion .cancelled orchestrator {}
        throw (.conflict "Clarification expired")
      else
        match validateAnswers question dto.answers with
        | .error _ => throw (.badRequest "Answers do not match the current question fields")
        | .ok answers =>
          let agentInput := agentInputText question answers
          if maxAgentInput < JsText.length agentInput then
            throw (.badRequest "Clarification answers are too large")
          else
            Async.handle (mutateRun id workspaceId run.stateVersion actorId fun current now =>
                answerChange answers dto.idempotencyKey current now agentInput)
              fun error =>
                match error.isConflict, key with
                | true, some key => do
                  -- Concurrent retries can both read CLARIFYING; the committed one is the replay.
                  let latest ← getRun id workspaceId (some actorId)
                  match findEntry latest key with
                  | none => throw error
                  | some entry => Async.ofExcept (replay entry dto.answers latest)
                | _, _ => throw error
    | _, _, _ => throw (.conflict "Run is not waiting for clarification")

end Clarification

def revisionChange (run : ProvisioningRun) (prompt : String) : Change where
  state := if run.state = .manifestValidating then some .manifestCreating else none
  updates := {
    agentInput := some (some prompt)
    agentTurnPending := some true
    manifestConfirmedVersion := some none
    manifestConfirmedAt := some none
    manifestValidatedVersion := some none
    manifestValidationAttempts := some 0 }
  eventType := some .manifestRevisionRequested

def reviseRun (id workspaceId actorId prompt : String) : Action ProvisioningRun := do
  let run ← getRun id workspaceId (some actorId)
  if (run.state ≠ .manifestCreating ∧ run.state ≠ .manifestValidating) ∨ run.agentTurnPending then
    throw (.conflict "Run cannot accept a revision now")
  else mutateRun id workspaceId run.stateVersion actorId fun _ _ => .ok (revisionChange run prompt)

inductive ApprovalDecision where
  | approved
  | rejected
  deriving DecidableEq, Repr

def rejectionChange (reason : String) : Change where
  state := some .manifestCreating
  updates := {
    approvalStatus := some .rejected
    policyDecision := some none
    manifestValidatedVersion := some none
    manifestConfirmedVersion := some none
    manifestConfirmedAt := some none
    manifestValidationAttempts := some 0
    agentInput := some (some
      ("Revise the proposal in response to the approval rejection: " ++ reason))
    agentTurnPending := some true }
  eventType := some .approvalDecision
  payload := [("decision", .str "rejected"), ("reason", .str reason)]

def handleApprovalEvent (id workspaceId actorId : String) (decision : ApprovalDecision)
    (reason : Option String) : Action ProvisioningRun := do
  let run ← getRun id workspaceId (some actorId)
  if run.state ≠ .approving then throw (.conflict "Run is not waiting for approval")
  else match decision, reason with
    | .approved, _ =>
      throw (.notImplemented "Execution is not yet available: plan confirmation is not implemented, so an approved run cannot advance to EXECUTING.")
    | .rejected, none => throw (.conflict "Reason is required when rejecting an approval")
    | .rejected, some reason =>
      if JsText.trim reason = "" then
        throw (.conflict "Reason is required when rejecting an approval")
      else mutateRun id workspaceId run.stateVersion actorId fun _ _ => .ok (rejectionChange reason)

section Worker

variable (config : PlanningConfig)

-- A variable that the catch block of a worker reads: its value goes with the exception.
abbrev Working (α : Type) := Async Ret (ServiceError × ProvisioningRun) α

def holding {α : Type} (run : ProvisioningRun) (p : Action α) : Working α :=
  Async.relabel (fun e => (e, run)) p

def raise {α : Type} (run : ProvisioningRun) (e : ServiceError) : Working α := throw (e, run)

def mutateHeld (run : ProvisioningRun) (change : Change) : Action ProvisioningRun :=
  mutateRun run.id run.workspaceId run.stateVersion orchestrator fun _ _ => .ok change

def errorUpdates (code message : String) : RunUpdates where
  errorCode := some (some code)
  errorMessage := some (some message)

def failRun (run : ProvisioningRun) (updates : RunUpdates) : Action Unit := do
  let _ ← transitionState run.id run.workspaceId run.stateVersion .failed orchestrator updates

-- The row as it is now, unless it has moved on since `run` was read.
def stillAt (run : ProvisioningRun) : Action (Option ProvisioningRun) := do
  let current ← getRun run.id run.workspaceId none
  if current.stateVersion ≠ run.stateVersion ∨ current.state.isTerminal then return none
  else return some current

section GenerateIac

def iacProgress (run : ProvisioningRun) (manifestId stage message : String) : Change where
  eventType := some .iacProgress
  payload := [("manifest_id", .str manifestId),
    ("manifest_version", jsonOr (run.manifestVersion.map fun v => .num (JsNumber.ofNat v))),
    ("stage", .str stage), ("message", .str message)]

def artifactChange (run : ProvisioningRun) (manifestId : String) (artifact : IacArtifact) : Change where
  state := some .planCreating
  updates := { iacArtifactId := some (some artifact.iacArtifactId) }
  payload := [("iac_artifact_id", .str artifact.iacArtifactId), ("manifest_id", .str manifestId),
    ("manifest_version", jsonOr (run.manifestVersion.map fun v => .num (JsNumber.ofNat v))),
    ("hash", .str artifact.hash)]

def generateIacBody (initial : ProvisioningRun) : Working Unit := do
  holding initial (Async.ofExcept (assertConfirmedManifest initial))
  let found ← holding initial
    (Async.attempt (.selectManifestId initial.id initial.manifestVersion initial.workspaceId) fun r => r)
  match found with
  | none =>
    raise initial (.iacGeneration "IAC_MANIFEST_NOT_FOUND"
      "The confirmed manifest could not be found for this run.")
  | some manifestId =>
    let run ← holding initial (mutateHeld initial
      (iacProgress initial manifestId "generation" "Generating Terraform templates..."))
    let response ← holding run (PlanningClients.generateIac config run manifestId)
    if ← holding run aborted then raise run (.plain "Generation aborted")
    else
      let run ← holding run (mutateHeld run
        (iacProgress run manifestId "validation" "Validating generated output..."))
      let artifact ← holding run (Async.ofExcept (verifyIacArtifact response run manifestId))
      let _ ← holding run (mutateHeld run (artifactChange run manifestId artifact))
      return ()

def safeIacError : ServiceError → String × String
  | .iacGeneration code message => (code, message)
  | _ => ("IAC_GENERATION_FAILED", "Terraform generation could not be completed. Please try again.")

def generateIac (initial : ProvisioningRun) : Action Unit :=
  Async.handle (generateIacBody config initial) fun (error, run) => do
    if (← stopping) || error.isConflict then return
    else
      let current ← getRun run.id run.workspaceId none
      if current.stateVersion ≠ run.stateVersion ∨ current.state ≠ .iacGenerating then return
      else
        let safe := safeIacError error
        let timedOut ← aborted
        Async.handle
          (failRun run (errorUpdates (if timedOut then "IAC_TIMEOUT" else safe.1)
            (if timedOut then "Terraform generation timed out. Please try again." else safe.2)))
          fun failure => if failure.isConflict then return else throw failure

end GenerateIac

section DispatchAgent

def contextComplete (run : ProvisioningRun) : Bool :=
  run.policyRequirementsLoadedAt.isSome && run.policyRequirements.isSome &&
    run.cloudContextLoadedAt.isSome && run.cloudContext.isSome

def maxAttempts : Nat := 3

def validationFailedMessage (errors : List String) : String :=
  "Revise the draft to fix these validation errors: " ++
    Json.stringify (Json.arr (errors.map Json.str) : JsJson)

def sessionChange (sessionId : String) : Change where
  updates := { agentSessionId := some (some sessionId) }
  eventType := some .agentSessionLinked

def attemptsChange (attempts : Nat) : Change where
  updates := { manifestValidationAttempts := some attempts }
  eventType := some .manifestValidationFailed

def exhaustedUpdates (attempts : Nat) : RunUpdates where
  manifestValidationAttempts := some attempts
  errorCode := some (some "MANIFEST_VALIDATION_FAILED")
  errorMessage := some (some "The manifest could not be validated after three attempts.")

def readyChange (version : Nat) (message : String) (components : List JsJson) : Change where
  state := some .manifestValidating
  updates := {
    manifestVersion := some (some version)
    manifestValidatedVersion := some (some version)
    agentTurnPending := some false
    agentInput := some none
    manifestConfirmedVersion := some none
    manifestConfirmedAt := some none }
  eventType := some .manifestReady
  payload := [("manifest_version", .num (JsNumber.ofNat version)), ("message", .str message),
    ("components", .arr components)]

def endTurnChange (eventType : RunEventType) (payload : JsFields) : Change where
  updates := { agentTurnPending := some false, agentInput := some none }
  eventType := some eventType
  payload := payload

def endTurn (run : ProvisioningRun) (change : Change) : Action Unit := do
  let _ ← mutateHeld run change
  return ()

def draftOutput (message : String) (manifest : JsFields) : JsFields :=
  [("message", .str message), ("manifest", .obj manifest)]

-- `for (;;)`: a turn is repeated only for a rejected manifest, fewer than `maxAttempts` times.
def agentTurns : (fuel : Nat) → ProvisioningRun → (message : String) → Working Unit
  | 0, run, _ => holding run outOfFuel
  | fuel + 1, run, message => do
    match ← holding run (PlanningClients.agentTurn config run message) with
    | .clarificationQuestion question =>
      let _ ← holding run (suspendRun run question.toJson)
      return ()
    | .error _ _ _ => raise run (.plain "Agent returned error")
    | .manifestDraft text manifest =>
      match ← holding run (PlanningClients.createManifest config run (draftOutput text manifest)) with
      | .rejected errors =>
        let attempts := run.manifestValidationAttempts + 1
        if maxAttempts ≤ attempts then
          holding run (failRun run (exhaustedUpdates attempts))
        else
          let run' ← holding run (mutateHeld run (attemptsChange attempts))
          agentTurns fuel run' (validationFailedMessage errors)
      | .stored version =>
        let components ← holding run (Async.ofExcept (manifestComponents manifest run.id version))
        holding run (endTurn run (readyChange version text components))
    | .componentPayload id version payload =>
      let data ← holding run (Async.ofExcept (validateComponent id (some (.obj payload)) version))
      holding run (endTurn run (endTurnChange .componentPayload [("component", .obj [("type", .str id),
        ("version", .str version), ("requestId", .str run.id), ("data", data)])]))
    | .assistantMessage text =>
      holding run (endTurn run (endTurnChange .assistantMessage [("message", .str text)]))
    | .toolSummary name summary =>
      holding run (endTurn run (endTurnChange .assistantMessage
        [("tool_name", .str name), ("summary", .str summary)]))

def dispatchBody (initial : ProvisioningRun) : Working Unit := do
  if !contextComplete initial then raise initial (.plain "Run context is incomplete")
  else
    let run ← match initial.agentSessionId with
      | some _ => pure initial
      | none => do
        let sessionId ← holding initial (PlanningClients.createAgentSession config initial)
        holding initial (mutateHeld initial (sessionChange sessionId))
    agentTurns config maxAttempts run (run.agentInput.getD run.prompt)

def issueJson (issue : ComponentPayloadIssue) : JsJson :=
  .obj [("path", .str issue.path), ("code", .str issue.code)]

def unsafeDisplay : String := "The assistant response could not be safely displayed."

def rejectedComponentChange (type version : String) (issues : List ComponentPayloadIssue) : Change where
  state := some .failed
  updates := {
    errorCode := some (some "COMPONENT_PAYLOAD_INVALID")
    errorMessage := some (some unsafeDisplay) }
  eventType := some .componentPayloadRejected
  payload := [("error_code", .str "COMPONENT_PAYLOAD_INVALID"), ("error_message", .str unsafeDisplay),
    ("component_type", .str type), ("component_version", .str version),
    ("validation_issues", .arr (issues.map issueJson))]

def dispatchAgent (initial : ProvisioningRun) : Action Unit :=
  Async.handle (dispatchBody config initial) fun (error, run) => do
    if ← stopping then return
    else if error.isConflict then return
    else match ← stillAt run with
      | none => return
      | some _ =>
        match error with
        | .componentPayload type version issues => endTurn run (rejectedComponentChange type version issues)
        | _ =>
          let timedOut ← aborted
          failRun run (errorUpdates (if timedOut then "AGENT_TIMEOUT" else "AGENT_FAILED")
            (if timedOut then "Agent request timed out after 120 seconds."
              else "The agent could not complete this request. Please try again."))

end DispatchAgent

section ProcessRun

def policyOff : PolicyRequirements := ⟨false, [], none, [], [], false, false⟩

def policyUpdates (requirements : PolicyRequirements) (now : Date) : RunUpdates where
  policyRequirements := some (some requirements)
  policyRequirementsLoadedAt := some (some now)

def contextUpdates (context : CloudContext) (now : Date) : RunUpdates where
  cloudContext := some (some context)
  cloudContextLoadedAt := some (some now)

def loadPolicy (run : ProvisioningRun) : Action ProvisioningRun := do
  match ← Async.attempt (.selectSettings run.workspaceId) fun r => r with
  | none => throw (.notFound "Workspace not found")
  | some enabled =>
    let requirements ←
      if enabled then PlanningClients.getPolicyRequirements config run.workspaceId else pure policyOff
    let now ← clock
    transitionState run.id run.workspaceId run.stateVersion .cloudContextLoaded orchestrator
      (policyUpdates requirements now)

def loadContext (run : ProvisioningRun) : Action ProvisioningRun := do
  let loaded ← PlanningClients.loadCloudContext config run
  let context ← PlanningClients.parse (cloudContextSchema (some loaded.toJson))
  let now ← clock
  transitionState run.id run.workspaceId run.stateVersion .manifestCreating orchestrator
    (contextUpdates context now)

-- `if (run.state === state) run = await step(run);`
def advanceAt (state : WorkflowState) (step : ProvisioningRun → Action ProvisioningRun)
    (run : ProvisioningRun) : Working ProvisioningRun :=
  if run.state = state then holding run (step run) else pure run

def receive (run : ProvisioningRun) : Action ProvisioningRun :=
  transitionState run.id run.workspaceId run.stateVersion .policyLoaded orchestrator {}

def advanceRun (initial : ProvisioningRun) : Working Unit := do
  let run ← advanceAt .received receive initial
  let run ← advanceAt .policyLoaded (loadPolicy config) run
  let run ← advanceAt .cloudContextLoaded (loadContext config) run
  if run.state = .manifestCreating ∧ run.agentTurnPending then holding run (dispatchAgent config run)
  if run.state = .iacGenerating then holding run (generateIac config run)

def userFacing : ServiceError → Option (String × String)
  | .noConnectedProvider => some ("PROVIDER_REQUIRED", "Connect a provider account to proceed.")
  | .policyDeniesAllRegions => some ("POLICY_NO_ALLOWED_REGIONS",
      "Workspace policy allows no regions. Ask a workspace admin to update the allowed regions policy.")
  | _ => none

def workRun (initial : ProvisioningRun) : Action Unit :=
  Async.handle (advanceRun config initial) fun (error, run) => do
    if ← stopping then return
    else if error.isConflict then return
    else match ← stillAt run with
      | none => return
      | some _ =>
        let (code, message) := (userFacing error).getD
          ("PLANNING_FAILED", "Planning could not be completed. Please try again.")
        failRun run (errorUpdates code message)

def processLocked (clients : Option PlanningConfig) (id workspaceId : String) : Action Unit := do
  let run ← getRun id workspaceId none
  if run.state = .clarifying then
    match run.clarificationExpiresAt with
    | none => return
    | some expiresAt =>
      let now ← clock
      if expiresAt ≤ now then
        let _ ← transitionState id workspaceId run.stateVersion .cancelled orchestrator {}
        return ()
      else return
  else
    match clients with
    | none => return
    | some config => if run.state.isTerminal then return else workRun config run

-- The session lock serializes dispatch across processes and is released on a crash.
def processRun (clients : Option PlanningConfig) (id workspaceId : String) : Action Unit := do
  let locked ← Async.attempt (.tryLock id) fun r => r
  if !locked then return
  else Async.finally_ (processLocked clients id workspaceId) (Async.attempt (.unlock id) fun r => r)

def processEach (clients : Option PlanningConfig) : List (String × String) → Action Unit
  | [] => return
  | (id, workspaceId) :: rows => do
    if ← stopping then return
    else
      processRun clients id workspaceId
      processEach clients rows

def processPendingRuns (clients : Option PlanningConfig) : Action Unit := do
  processEach clients (← Async.attempt .selectPending fun r => r)

def expireEach : List (String × String × Nat) → Action Unit
  | [] => return
  | (id, workspaceId, stateVersion) :: rows => do
    if ← stopping then return
    else
      Async.handle (do
          let _ ← transitionState id workspaceId stateVersion .cancelled orchestrator {}
          return ())
        fun error => if error.isConflict then return else throw error
      expireEach rows

def expireClarifications : Action Unit := do
  expireEach (← Async.attempt .selectExpired fun r => r)

end ProcessRun

end Worker

end RunsService

-- What may be called, by a client or by the timer, and how often one likes.
inductive Call where
  | createRun (sessionId workspaceId requesterId prompt : String) (idempotencyKey : Option String)
  | getRun (id workspaceId : String) (actorId : Option String)
  | cancelRun (id workspaceId actorId : String)
  | confirmRun (id workspaceId actorId : String) (dto : RunsService.ConfirmRunDto)
  | clarifyRun (id workspaceId actorId : String) (dto : RunsService.ClarifyRunDto)
  | reviseRun (id workspaceId actorId prompt : String)
  | handleApprovalEvent (id workspaceId actorId : String) (decision : RunsService.ApprovalDecision)
      (reason : Option String)
  | processRun (id workspaceId : String)
  | processPendingRuns
  | expireClarifications

section System

variable [Platform] [ComponentRegistry] {Ext : Type}

abbrev Outcome := Except ServiceError (Option ProvisioningRun)

def Call.action (clients : Option PlanningConfig) : Call → Action (Option ProvisioningRun)
  | .createRun session ws requester prompt key => some <$> RunsService.createRun session ws requester prompt key
  | .getRun id ws actor => some <$> RunsService.getRun id ws actor
  | .cancelRun id ws actor => some <$> RunsService.cancelRun id ws actor
  | .confirmRun id ws actor dto => some <$> RunsService.confirmRun id ws actor dto
  | .clarifyRun id ws actor dto => some <$> RunsService.clarifyRun id ws actor dto
  | .reviseRun id ws actor prompt => some <$> RunsService.reviseRun id ws actor prompt
  | .handleApprovalEvent id ws actor decision reason =>
    some <$> RunsService.handleApprovalEvent id ws actor decision reason
  | .processRun id ws => (fun _ => none) <$> RunsService.processRun clients id ws
  | .processPendingRuns => (fun _ => none) <$> RunsService.processPendingRuns clients
  | .expireClarifications => (fun _ => none) <$> RunsService.expireClarifications

def system (svc : Services Ext) (clients : Option PlanningConfig) :
    Environment (World Ext) Call Ret Outcome where
  program call := (call.action clients).run
  exec := exec svc
  ambient := Ambiently svc

abbrev RunPool (Ext : Type) := Pool (World Ext) Call Ret Outcome

def emptyWorld (ext : Ext) : World Ext := ⟨⟨[], [], []⟩, ext, []⟩

def Reachable (svc : Services Ext) (clients : Option PlanningConfig) (c : RunPool Ext) : Prop :=
  ∃ ext, Pool.Reachable (system svc clients) (emptyWorld ext) c

end System

end Provisr.Orchestrator
