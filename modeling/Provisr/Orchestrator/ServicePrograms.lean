import Provisr.Orchestrator.WorkerPrograms

namespace Provisr.Orchestrator

open Provisr.Foundation RunsService

section Programs

variable [Platform] [ComponentRegistry]

section Api

variable {seen : Seen} (id workspaceId actorId : String)

theorem wp_createRun (sessionId workspaceId requesterId prompt : String) (key : Option String) :
    Async.wp pre granted (RunsService.createRun sessionId workspaceId requesterId prompt key) Done Done
      seen := by
  unfold RunsService.createRun
  have create : ∀ s k, Async.wp pre granted (do
      let correlationId ← randomUUID
      Async.attempt (.createRun ⟨sessionId, workspaceId, requesterId, prompt, k, correlationId⟩) fun r => r
      : Action ProvisioningRun) Done Done s := by
    intro s k
    rw [Async.wp_bind]
    refine quiet_randomUUID.wp ?_ (fun _ _ _ => trivial)
    intro s' correlationId _
    exact (quiet_attempt (.createRun _) _ fun _ => trivial).wp (fun _ _ _ => trivial) (fun _ _ _ => trivial)
  cases key with
  | some key => exact create seen key
  | none =>
    refine (Async.wp_bind _ _).mpr (quiet_randomUUID.wp ?_ (fun _ _ _ => trivial))
    exact fun s k _ => create s k

theorem wp_cancelRun : Async.wp pre granted (cancelRun id workspaceId actorId) Done Done seen := by
  unfold cancelRun
  rw [Async.wp_bind]
  refine wp_getRun ?_ (fun _ _ _ => trivial)
  intro s run _ _ _ _
  split
  · trivial
  · exact wp_cancel (fun _ _ _ => trivial) (fun _ _ _ => trivial)

theorem wp_confirmRun (dto : ConfirmRunDto) :
    Async.wp pre granted (confirmRun id workspaceId actorId dto) Done Done seen := by
  unfold confirmRun
  rw [Async.wp_bind]
  refine wp_getRun ?_ (fun _ _ _ => trivial)
  rintro s run _ snap rfl rfl
  dsimp only
  split
  · trivial
  · rename_i positive
    split
    · trivial
    · exact wp_mutateRun snap (fun now change h => .confirm actorId _ change (not_lt.mp positive) h)
        (fun _ _ _ _ _ _ => trivial) (fun _ _ _ => trivial)

theorem wp_reviseRun (prompt : String) :
    Async.wp pre granted (reviseRun id workspaceId actorId prompt) Done Done seen := by
  unfold reviseRun
  rw [Async.wp_bind]
  refine wp_getRun ?_ (fun _ _ _ => trivial)
  rintro s run _ snap rfl rfl
  split
  · trivial
  · rename_i h
    simp only [not_or, not_and, not_not, Bool.not_eq_true] at h
    refine wp_mutateRun snap ?_ (fun _ _ _ _ _ _ => trivial) (fun _ _ _ => trivial)
    intro now change hop
    cases hop
    exact .revise actorId prompt (or_iff_not_imp_left.mpr h.1) h.2

theorem wp_handleApprovalEvent (decision : ApprovalDecision) (reason : Option String) :
    Async.wp pre granted (handleApprovalEvent id workspaceId actorId decision reason) Done Done seen := by
  unfold handleApprovalEvent
  rw [Async.wp_bind]
  refine wp_getRun ?_ (fun _ _ _ => trivial)
  rintro s run _ snap rfl rfl
  split
  · trivial
  · rename_i approving
    cases decision with
    | approved => trivial
    | rejected =>
      cases reason with
      | none => trivial
      | some reason =>
        dsimp only
        split
        · trivial
        · refine wp_mutateRun snap ?_ (fun _ _ _ _ _ _ => trivial) (fun _ _ _ => trivial)
          intro now change hop
          cases hop
          exact .reject actorId reason (not_not.mp approving)

theorem wp_clarifyRun (dto : ClarifyRunDto) :
    Async.wp pre granted (clarifyRun id workspaceId actorId dto) Done Done seen := by
  unfold clarifyRun
  rw [Async.wp_bind]
  refine wp_getRun ?_ (fun _ _ _ => trivial)
  rintro s run _ snap rfl rfl
  dsimp only
  split
  · exact (quiet_ofExcept _).wp (fun _ _ _ => trivial) (fun _ _ _ => trivial)
  · rename_i unrecorded
    split
    · rename_i question expiresAt _ asked _
      rw [Async.wp_bind]
      refine quiet_clock.wp ?_ (fun _ _ _ => trivial)
      intro s' now hs'
      split
      · rw [Async.wp_bind]
        exact wp_cancel (fun _ _ _ => trivial) (fun _ _ _ => trivial)
      · split
        · trivial
        · rename_i answers valid
          -- The text is opaque here: its length is not to be computed.
          generalize hinput : agentInputText question answers = input
          by_cases large : maxAgentInput < JsText.length input
          · rw [if_pos large]
            trivial
          · rw [if_neg large, Async.wp_handle]
            refine wp_mutateRun (snap.mono hs') ?_ (fun _ _ _ _ _ _ => trivial) ?_
            · intro now change h
              refine .answer actorId answers dto.idempotencyKey change question dto.answers asked valid ?_
                (hinput ▸ h)
              intro key hkey hne
              simpa [hkey, hne] using unrecorded
            · intro s'' error _
              split
              · rw [Async.wp_bind]
                refine wp_getRun ?_ (fun _ _ _ => trivial)
                intro s₃ latest _ _ _ _
                split
                · trivial
                · exact (quiet_ofExcept _).wp (fun _ _ _ => trivial) (fun _ _ _ => trivial)
              · trivial
    · trivial

end Api

theorem call_safe (clients : Option PlanningConfig) (call : Call) :
    ((call.action clients).run).wp pre granted (fun _ _ => True) [] := by
  have mapped : ∀ {α : Type} {p : Action α} {f : α → Option ProvisioningRun},
      Async.wp pre granted p Done Done [] → ((f <$> p : Action _).run).wp pre granted (fun _ _ => True) [] := by
    intro α p f h
    have := (Async.wp_map (Q := Done) (E := Done) p f).mpr h
    exact Prog.wp_mono this fun _ _ _ _ => trivial
  cases call with
  | createRun session ws requester prompt key => exact mapped (wp_createRun session ws requester prompt key)
  | getRun id ws actor =>
    exact mapped (wp_getRun (fun _ _ _ _ _ _ => trivial) (fun _ _ _ => trivial))
  | cancelRun id ws actor => exact mapped (wp_cancelRun id ws actor)
  | confirmRun id ws actor dto => exact mapped (wp_confirmRun id ws actor dto)
  | clarifyRun id ws actor dto => exact mapped (wp_clarifyRun id ws actor dto)
  | reviseRun id ws actor prompt => exact mapped (wp_reviseRun id ws actor prompt)
  | handleApprovalEvent id ws actor decision reason =>
    exact mapped (wp_handleApprovalEvent id ws actor decision reason)
  | processRun id ws => exact mapped (wp_processRun clients id ws)
  | processPendingRuns =>
    refine mapped ?_
    unfold processPendingRuns
    rw [Async.wp_bind]
    exact (quiet_attempt .selectPending _ fun _ => trivial).wp (fun _ rows _ => wp_processEach clients rows)
      (fun _ _ _ => trivial)
  | expireClarifications =>
    refine mapped ?_
    unfold expireClarifications
    rw [Async.wp_bind]
    exact (quiet_attempt .selectExpired _ fun _ => trivial).wp (fun _ rows _ => wp_expireEach rows)
      (fun _ _ _ => trivial)

variable {Ext : Type} {svc : Services Ext}

def runDiscipline (contract : Contract svc) (clients : Option PlanningConfig) :
    Pool.Discipline (system svc clients) :=
  discipline contract clients (fun _ _ _ => True) (fun _ _ _ => True) (call_safe clients)
    fun _ => Prog.wp_trivial _ _

theorem step_moves {contract : Contract svc} {clients : Option PlanningConfig} {c c' : RunPool Ext}
    (h : (runDiscipline contract clients).Holds c) (hs : Pool.Step (system svc clients) c c') :
    Moves contract c.shared c'.shared := by
  cases hs with
  | spawn => exact .idle
  | request w w' ts i call seen o k r task run =>
    have mem := List.mem_of_getElem? task
    exact (exec_moves h.inv (h.knows _ mem) (h.wp _ mem).1.1 run).1
  | ambient w w' ts move => exact ambiently_moves h.inv move

theorem Reachable.holds {clients : Option PlanningConfig} {c : RunPool Ext}
    (h : Reachable svc clients c) : (runDiscipline (Contract.none svc) clients).Holds c := by
  obtain ⟨ext, h⟩ := h
  exact Pool.Discipline.holds_reachable _ (worldInvariant_empty trivial) h

end Programs

theorem answeredChange_storable (current : ProvisioningRun) (entry : AnswerEntry) (question : ClarificationQuestion)
    (answers : JsFields) :
    (answeredChange current entry (agentInputText question answers)).updates.storable =
      (current.answersHistory ++ [entry]).all fun e => Json.storable e.toJson := by
  simp [answeredChange, RunUpdates.storable, optionAll, agentInputText, Json.storableText_stringify]

def calmEnv : TxEnv where
  fails _ := false
  now := 1000
  dateNow := 1000
  uuid := "8d0e"
  eventId := "event"
  newRunId := "run"
  member := true
  role := some .engineer
  activeSession := true
  manifests := []
  artifacts := []

@[reducible] def emptyRegistry : ComponentRegistry := ⟨fun _ => none⟩

-- A run from its request to its plan: the agent asks once, for two answers in one order or the other, and then drafts;
-- the other services keep what they are given.
namespace Journey

def bundle : List TerraformFile := [
  ⟨"main.tf", "module \"resources\" \x7b source = \"./resources\" \x7d"⟩,
  ⟨"outputs.tf", "output \"ids\" \x7b value = module.resources.ids \x7d"⟩,
  ⟨"resources/storage.tf", "resource \"aws_s3_bucket\" \"logs\" \x7b\x7d"⟩,
  ⟨"terraform.tfvars", "region = \"us-east-1\""⟩,
  ⟨"variables.tf", "variable \"region\" \x7b type = string \x7d"⟩]

def bundleText : String :=
  String.join (bundle.map fun file => file.path ++ nulChar ++ file.content ++ nulChar)

def bundleHash : String := "a689270c2d241d43ddad7da72ff9c371efd4e59b79f1b9afaa98aae5d76ab3aa"

def manifestUrl : String := "http://manifests/v1/runs/00000000-0000-4000-8000-000000000001/manifests/1"

@[reducible] def journeyPlatform : Platform :=
  ⟨fun text => if text = bundleText then bundleHash else "", fun text => text == manifestUrl⟩

attribute [local instance] journeyPlatform emptyRegistry

def runId : String := "00000000-0000-4000-8000-000000000001"

def workspaceId : String := "00000000-0000-4000-8000-000000000002"

def userId : String := "00000000-0000-4000-8000-000000000003"

def sessionId : String := "00000000-0000-4000-8000-000000000004"

def accountId : String := "00000000-0000-4000-8000-000000000005"

def manifestId : String := "00000000-0000-4000-8000-000000000006"

def chatSessionId : String := "00000000-0000-4000-8000-000000000007"

def correlationId : String := "00000000-0000-4000-8000-000000000008"

def artifactId : String := "00000000-0000-4000-8000-000000000009"

def capabilitiesReply : JsJson :=
  .obj [("workspace_id", .str workspaceId), ("accounts", .arr [.obj [("id", .str accountId),
    ("provider", .str "aws"), ("status", .str "active"), ("account_alias", .str "main"),
    ("available_regions", .arr [.str "us-east-1"]), ("checked_at", .str "2026-01-01T00:00:00Z"),
    ("execution_ready", .bool true)]])]

def sessionReply : JsJson := .obj [("session", .obj [("session_id", .str sessionId)])]

def envelope (type : String) (data : JsFields) : JsJson :=
  .obj [("result", .obj [("type", .str type), ("data", .obj data), ("version", .str "1.0.0"),
    ("request_id", .str runId),
    ("metadata", .obj [("confidence", .num (JsNumber.ofNat 1)), ("source", .str "template")])])]

def names (ordered : Bool) : List String := if ordered then ["env", "region"] else ["region", "env"]

def questionReply (ordered : Bool) : JsJson :=
  envelope "clarification_question" [("question", .str "Where?"), ("fields", .arr ((names ordered).map fun name =>
    .obj [("name", .str name), ("type", .str "string")]))]

def manifest (name : String) : JsFields :=
  [("schema_version", .str "1.0"), ("provider", .str "aws"), ("region", .str "us-east-1"),
    ("environment", .str "sandbox"), ("tags", .obj []),
    ("security", .obj [("encryption_enabled", .bool true)]), ("backup", .obj [("enabled", .bool false)]),
    ("policy", .obj [("requirements_loaded", .bool true), ("applied_constraints", .arr [])]),
    ("resources", .arr [.obj [("type", .str "aws_s3"), ("name", .str name), ("versioning", .bool true)]])]

def draftReply (name : String) : JsJson :=
  envelope "manifest_draft" [("message", .str "A bucket."), ("manifest", .obj (manifest name))]

def manifestReply : JsJson :=
  .obj [("manifest_id", .str manifestId), ("version", .num (JsNumber.ofNat 1)), ("url", .str manifestUrl),
    ("validation", .obj [("valid", .bool true)])]

def artifactReply : JsJson :=
  .obj [("iac_artifact_id", .str artifactId), ("manifest_id", .str manifestId),
    ("manifest_version", .num (JsNumber.ofNat 1)), ("run_id", .str runId), ("workspace_id", .str workspaceId),
    ("session_id", .str chatSessionId),
    ("terraform_files", .arr (bundle.map fun file => .obj [("path", .str file.path), ("content", .str file.content)])),
    ("file_list", .arr (bundle.map fun file => .str file.path)), ("file_count", .num (JsNumber.ofNat 5)),
    ("total_size", .num (JsNumber.ofNat 179)), ("hash", .str bundleHash), ("template_source", .str "template"),
    ("summary", .obj [("resource_count", .num (JsNumber.ofNat 1)), ("file_count", .num (JsNumber.ofNat 5))])]

def manifestRow : ManifestRow := ⟨manifestId, runId, 1, .obj (manifest "logs"), none⟩

def artifactRow : ArtifactRow :=
  ⟨artifactId, runId, manifestId, .terraform, artifactReply, bundleHash, "iac:" ++ runId ++ ":" ++ manifestId⟩

abbrev Deposits := List ManifestRow × List ArtifactRow

def answers (kept : Deposits) (path : String) : List (JsJson × Deposits) :=
  if path = "/tools/get_cloud_account_capabilities" then [(capabilitiesReply, kept)]
  else if path = "/tools/create_manifest" then [(manifestReply, ([manifestRow], kept.2))]
  else if path = "/tools/generate_iac" then [(artifactReply, (kept.1, [artifactRow]))]
  else if path = "/v1/sessions" then [(sessionReply, kept)]
  else [(draftReply "logs", kept), (questionReply true, kept), (questionReply false, kept)]

def services : Services Deposits where
  call kept q r kept' := ∃ body, (body, kept') ∈ answers kept q.path ∧ r = .ok ⟨true, 200, 0, some body⟩
  background _ _ := False
  manifests kept := kept.1
  artifacts kept := kept.2

def planning : Option PlanningConfig := some ⟨"token", none⟩

abbrev journey : Environment (World Deposits) Call Ret Outcome := system services planning

def env : TxEnv := { calmEnv with newRunId := runId }

def request : CreateRun := ⟨chatSessionId, workspaceId, userId, "a bucket", "key", correlationId⟩

def asked : ProvisioningRun := initialRun env request

def start : Db :=
  ((⟨[asked], [], []⟩ : Db).appendAudit (createdAudit request asked)).publish (createdEvent env asked)

def context : CloudContext :=
  ⟨[.aws], [⟨accountId, workspaceId, .aws, "main", .active, .value "2026-01-01T00:00:00Z", ["us-east-1"],
    none, none⟩]⟩

def question (ordered : Bool) : ClarificationQuestion :=
  ⟨"Where?", (names ordered).map fun name => ⟨name, .string, .undefined⟩, .undefined, .undefined, .undefined,
    .undefined, .undefined⟩

def shown : JsJson :=
  .obj [("id", .str runId), ("question", .str "Where?"), ("inputType", .str "text")]

def given (ordered : Bool) : JsFields := (names ordered).map fun name => (name, .str "prod")

def dto (ordered : Bool) : ClarifyRunDto := ⟨some (.obj (given ordered)), some "once"⟩

def components (name : String) : List JsJson :=
  match manifestComponents (manifest name) runId 1 with
  | .ok cs => cs
  | .error _ => []

def artifact : IacArtifact :=
  ⟨artifactId, manifestId, 1, runId, workspaceId, chatSessionId, bundle, bundle.map TerraformFile.path, 5, 179,
    bundleHash, 1, 5⟩

def committed (env : TxEnv) (actorId : String) (r : ProvisioningRun) (change : Change) : Commit :=
  ⟨actorId, env, r, change, writtenRun env r change⟩

def received : Commit := committed env orchestrator asked (transitionChange .policyLoaded {})

def policyLoaded : Commit :=
  committed env orchestrator received.after (transitionChange .cloudContextLoaded (policyUpdates policyOff 1000))

def contextLoaded : Commit :=
  committed env orchestrator policyLoaded.after
    (transitionChange .manifestCreating (contextUpdates context 1000))

def linked : Commit := committed env orchestrator contextLoaded.after (sessionChange sessionId)

def suspended (ordered : Bool) : Commit :=
  committed env orchestrator linked.after (suspendedChange linked.after (question ordered) shown ⟨1000, "8d0e"⟩)

def answered (ordered : Bool) : Commit :=
  committed env userId (suspended ordered).after
    (answeredChange (suspended ordered).after ⟨question ordered, given ordered, 1000, "once"⟩
      (agentInputText (question ordered) (given ordered)))

def drafted : TxEnv := { env with manifests := [manifestRow] }

def ready : Commit := committed drafted orchestrator (answered true).after (readyChange 1 "A bucket." (components "logs"))

def confirmed : Commit := committed drafted userId ready.after (confirmedChange 1 ⟨1000, "8d0e"⟩)

def generating : Commit :=
  committed drafted orchestrator confirmed.after
    (iacProgress confirmed.after manifestId "generation" "Generating Terraform templates...")

def generated : TxEnv := { drafted with artifacts := [artifactRow] }

def validating : Commit :=
  committed generated orchestrator generating.after
    (iacProgress generating.after manifestId "validation" "Validating generated output...")

def planned : Commit :=
  committed generated orchestrator validating.after (artifactChange validating.after manifestId artifact)

def cancelled : Commit := committed drafted userId generating.after (transitionChange .cancelled {})

def after {Ext : Type} (ext : Ext) (cs : List Commit) : World Ext := ⟨cs.foldl (fun db c => c.apply db) start, ext, cs⟩

def asking (ordered : Bool) : List Commit := [received, policyLoaded, contextLoaded, linked, suspended ordered]

def recording (ordered : Bool) : List Commit := asking ordered ++ [answered ordered]

def proposing : List Commit := recording true ++ [ready]

def beginning : List Commit := proposing ++ [confirmed, generating]

def completing : List Commit := beginning ++ [validating, planned]

theorem received_committed : Committed received := ⟨rfl, rfl, fun h => absurd rfl h, rfl, rfl, rfl, rfl, rfl⟩

theorem policyLoaded_committed : Committed policyLoaded := ⟨rfl, rfl, fun h => absurd rfl h, rfl, rfl, rfl, rfl, rfl⟩

theorem contextLoaded_committed : Committed contextLoaded :=
  ⟨rfl, rfl, fun h => absurd rfl h, rfl, rfl, rfl, rfl, rfl⟩

theorem linked_committed : Committed linked := ⟨rfl, rfl, fun h => absurd rfl h, rfl, rfl, rfl, rfl, rfl⟩

theorem suspended_committed {ordered : Bool} : Committed (suspended ordered) := by
  cases ordered <;> exact ⟨rfl, rfl, fun h => absurd rfl h, rfl, rfl, rfl, rfl, rfl⟩

theorem answered_committed {ordered : Bool} : Committed (answered ordered) := by
  cases ordered <;> exact ⟨rfl, rfl, fun _ => rfl, rfl, (answeredChange_storable _ _ _ _).trans rfl, rfl, rfl, rfl⟩

set_option maxRecDepth 10000 in
theorem ready_committed : Committed ready := ⟨rfl, rfl, fun h => absurd rfl h, rfl, rfl, rfl, rfl, rfl⟩

theorem confirmed_committed : Committed confirmed := ⟨rfl, rfl, fun _ => rfl, rfl, rfl, rfl, rfl, rfl⟩

theorem generating_committed : Committed generating := ⟨rfl, rfl, fun h => absurd rfl h, rfl, rfl, rfl, rfl, rfl⟩

theorem validating_committed : Committed validating := ⟨rfl, rfl, fun h => absurd rfl h, rfl, rfl, rfl, rfl, rfl⟩

theorem cancelled_committed : Committed cancelled := ⟨rfl, rfl, fun _ => rfl, rfl, rfl, rfl, rfl, rfl⟩

set_option maxRecDepth 20000 in
theorem artifact_verified (r : ProvisioningRun) (version : r.manifestVersion = some 1) (run : r.id = runId)
    (workspace : r.workspaceId = workspaceId) (session : r.sessionId = chatSessionId) :
    verifyIacArtifact artifactReply r manifestId = .ok artifact := by
  have read : iacArtifactSchema (some artifactReply) = .ok artifact := by rfl
  unfold verifyIacArtifact
  rw [Zod.parsed_ok_iff.mpr read]
  have size : ((artifact.terraformFiles.map fun file => file.content.utf8ByteSize).sum) = artifact.totalSize := by rfl
  have text : String.join (artifact.terraformFiles.map fun file =>
          file.path ++ nulChar ++ file.content ++ nulChar) = bundleText := rfl
  have hash : Platform.sha256Hex bundleText = artifact.hash := if_pos rfl
  simp only [text, hash, size]
  rw [if_neg (by simp [version, run, workspace, session, artifact]), if_neg ?_]
  · simp
  · decide

theorem planned_checked : checkChange generated validating.after planned.change = .ok () := by
  have verified := artifact_verified (validating.after.with planned.change.updates) rfl rfl rfl rfl
  have selected : selectEvidence generated artifactId runId (some 1) =
      some ⟨artifactReply, manifestId, bundleHash, "iac:" ++ runId ++ ":" ++ manifestId⟩ := rfl
  have evidence : verifyEvidence generated (validating.after.with planned.change.updates) artifactId
      planned.change.payload = .ok ⟨artifactReply, manifestId, bundleHash, "iac:" ++ runId ++ ":" ++ manifestId⟩ := by
    have row : selectEvidence generated artifactId (validating.after.with planned.change.updates).id
      (validating.after.with planned.change.updates).manifestVersion = _ := selected
    have confirmed : assertConfirmedManifest (validating.after.with planned.change.updates) = .ok () := rfl
    have asked : generated.query .evidence = .ok () := rfl
    unfold verifyEvidence
    rw [confirmed, asked]
    simp only [bind, Except.bind, row, verified]
    rfl
  have done : iacGenerated generated (validating.after.with planned.change.updates) .planCreating
      planned.change.payload = .ok true := by
    have id : (validating.after.with planned.change.updates).iacArtifactId = some artifactId := rfl
    unfold iacGenerated
    rw [id]
    simp only [evidence]
    rfl
  unfold checkChange
  have state : planned.change.state = some .planCreating := rfl
  rw [state]
  simp only [done]
  rfl

theorem planned_committed : Committed planned :=
  ⟨rfl, planned_checked, fun h => absurd rfl h, rfl, rfl, rfl, rfl, rfl⟩

theorem next_apply {Ext : Type} {x x' : Ext} {l : List Commit} {c : Commit}
    (runs : (after x l).db.runs = [c.before]) (h : Committed c) : (after x' (l ++ [c])).db.runs = [c.after] := by
  have := h.apply_single runs
  simpa [after] using this

theorem meets {Ext : Type} {svc : Services Ext} {x : Ext} {cs : List Commit} {r : ProvisioningRun}
    (runs : (after x cs).db.runs = [r]) (fresh : (r.answersHistory.all fun e => e.idempotencyKey != env.uuid) = true) :
    Meets svc { env with manifests := svc.manifests x, artifacts := svc.artifacts x } (after x cs) := by
  refine ⟨rfl, rfl, ?_⟩
  intro r' hr e he
  rw [runs, List.mem_singleton] at hr
  simpa using List.all_eq_true.mp fresh e (hr ▸ he)

theorem mutated {Ext : Type} {svc : Services Ext} {ext : Ext} {cs : List Commit} {c : Commit} {operation : Operation}
    (runs : (after ext cs).db.runs = [c.before]) (h : Committed c)
    (tables : c.env = { env with manifests := svc.manifests ext, artifacts := svc.artifacts ext })
    (hop : operation c.before ⟨env.dateNow, env.uuid⟩ = .ok c.change)
    (fresh : (c.before.answersHistory.all fun e => e.idempotencyKey != env.uuid) = true) :
    exec svc (.mutate c.before.id c.before.workspaceId c.before.stateVersion c.actorId operation) (after ext cs)
      (.ok c.after) (after ext (cs ++ [c])) := by
  have world : after ext (cs ++ [c]) =
      { after ext cs with db := c.apply (after ext cs).db, commits := (after ext cs).commits ++ [c] } := by
    simp [after]
  rw [world]
  refine exec_of_committed (fun q => by rw [tables]; rfl) (tables ▸ meets runs fresh) (selectRun_single runs) ?_ h
  rw [tables]
  exact hop

theorem created_served : Pool.Served journey (emptyWorld ([], []))
    (journey.program (.createRun chatSessionId workspaceId userId "a bucket" (some "key"))) (after ([], []) [])
    (.ok (some asked)) := by
  refine .request correlationId rfl (.request (.ok asked) ?_ (.pure _ _))
  exact ⟨env, ⟨rfl, rfl, by simp [emptyWorld]⟩, Or.inl rfl, rfl⟩

section Served

variable {Ext : Type} {ext : Ext} {ordered : Bool}

theorem received_runs : (after ext [received]).db.runs = [received.after] :=
  next_apply (x := ext) (l := []) rfl received_committed

theorem policyLoaded_runs : (after ext [received, policyLoaded]).db.runs = [policyLoaded.after] :=
  next_apply (x := ext) received_runs policyLoaded_committed

theorem contextLoaded_runs : (after ext [received, policyLoaded, contextLoaded]).db.runs = [contextLoaded.after] :=
  next_apply (x := ext) policyLoaded_runs contextLoaded_committed

theorem linked_runs : (after ext [received, policyLoaded, contextLoaded, linked]).db.runs = [linked.after] :=
  next_apply (x := ext) contextLoaded_runs linked_committed

theorem suspended_runs : (after ext (asking ordered)).db.runs = [(suspended ordered).after] :=
  next_apply (x := ext) linked_runs suspended_committed

theorem answered_runs : (after ext (recording ordered)).db.runs = [(answered ordered).after] :=
  next_apply (x := ext) suspended_runs answered_committed

theorem ready_runs : (after ext proposing).db.runs = [ready.after] :=
  next_apply (x := ext) answered_runs ready_committed

theorem confirmed_runs : (after ext (proposing ++ [confirmed])).db.runs = [confirmed.after] :=
  next_apply (x := ext) ready_runs confirmed_committed

theorem generating_runs : (after ext beginning).db.runs = [generating.after] :=
  next_apply (x := ext) confirmed_runs generating_committed

theorem validating_runs : (after ext (beginning ++ [validating])).db.runs = [validating.after] :=
  next_apply (x := ext) generating_runs validating_committed

theorem planned_runs : (after ext completing).db.runs = [planned.after] :=
  next_apply (x := ext) validating_runs planned_committed

theorem cancelled_runs : (after ext (beginning ++ [cancelled])).db.runs = [cancelled.after] :=
  next_apply (x := ext) generating_runs cancelled_committed

end Served

theorem asked_served (ordered : Bool) : Pool.Served journey (after ([], []) [])
    (journey.program (.processRun runId workspaceId)) (after ([], []) (asking ordered)) (.ok none) := by
  refine .request (.ok true) ⟨rfl, trivial⟩ ?_
  refine .request (.ok (some asked)) ⟨rfl, rfl⟩ ?_
  refine .request (.ok received.after) (mutated (c := received) rfl received_committed rfl rfl rfl) ?_
  refine .request (.ok (some false)) ⟨rfl, trivial⟩ ?_
  refine .request (1000 : Nat) rfl ?_
  refine .request (.ok policyLoaded.after)
    (mutated (c := policyLoaded) received_runs policyLoaded_committed rfl rfl rfl) ?_
  refine .request (.ok ⟨true, 200, 0, some capabilitiesReply⟩) ⟨_, ⟨_, List.mem_cons_self, rfl⟩, rfl⟩ ?_
  refine .request (1000 : Nat) rfl ?_
  refine .request (.ok contextLoaded.after)
    (mutated (c := contextLoaded) policyLoaded_runs contextLoaded_committed rfl rfl rfl) ?_
  refine .request (.ok ⟨true, 200, 0, some sessionReply⟩) ⟨_, ⟨_, List.mem_cons_self, rfl⟩, rfl⟩ ?_
  refine .request (.ok linked.after) (mutated (c := linked) contextLoaded_runs linked_committed rfl rfl rfl) ?_
  have turn : (questionReply ordered, (([], []) : Deposits)) ∈
      answers ([], []) ("/v1/sessions/" ++ sessionId ++ "/turns") := by
    cases ordered
    · exact List.mem_cons_of_mem _ (List.mem_cons_of_mem _ List.mem_cons_self)
    · exact List.mem_cons_of_mem _ List.mem_cons_self
  refine .request (.ok ⟨true, 200, 0, some (questionReply ordered)⟩) ⟨_, ⟨_, turn, rfl⟩, rfl⟩ ?_
  cases ordered
  · refine .request (.ok (suspended false).after)
      (mutated (c := suspended false) linked_runs suspended_committed rfl rfl rfl) ?_
    exact .request (.ok ()) ⟨rfl, trivial⟩ (.pure _ _)
  · refine .request (.ok (suspended true).after)
      (mutated (c := suspended true) linked_runs suspended_committed rfl rfl rfl) ?_
    exact .request (.ok ()) ⟨rfl, trivial⟩ (.pure _ _)

theorem valid_answers {ordered : Bool} : validateAnswers (question ordered) (dto ordered).answers = .ok (given ordered) := by
  cases ordered <;> rfl

set_option maxRecDepth 10000 in
theorem agentInput_fits {ordered : Bool} :
    ¬ maxAgentInput < JsText.length (agentInputText (question ordered) (given ordered)) := by
  rw [agentInputText, Json.stringify, JsText.length, String.toList_ofList]
  cases ordered <;> decide

theorem answered_served (ordered : Bool) : Pool.Served journey (after ([], []) (asking ordered))
    (journey.program (.clarifyRun runId workspaceId userId (dto ordered))) (after ([], []) (recording ordered))
    (.ok (some (answered ordered).after)) := by
  have selected : (after (([], []) : Deposits) (asking ordered)).db.selectRun runId workspaceId =
      some (suspended ordered).after := selectRun_single suspended_runs
  refine .request (.ok true) ⟨rfl, trivial⟩ ?_
  refine .request (.ok (some (suspended ordered).after)) ⟨rfl, selected.symm⟩ ?_
  refine .request (1000 : Nat) rfl ?_
  simp only [valid_answers, if_neg agentInput_fits]
  refine .request (.ok (answered ordered).after) ?_ (.pure _ _)
  exact mutated suspended_runs answered_committed rfl rfl rfl

theorem drafted_served : Pool.Served journey (after ([], []) (recording true))
    (journey.program (.processRun runId workspaceId)) (after ([manifestRow], []) proposing) (.ok none) := by
  have selected : (after (([], []) : Deposits) (recording true)).db.selectRun runId workspaceId =
      some (answered true).after := selectRun_single answered_runs
  refine .request (.ok true) ⟨rfl, trivial⟩ ?_
  refine .request (.ok (some (answered true).after)) ⟨rfl, selected.symm⟩ ?_
  refine .request (.ok ⟨true, 200, 0, some (draftReply "logs")⟩) ⟨_, ⟨_, List.mem_cons_self, rfl⟩, rfl⟩ ?_
  refine .request (.ok ⟨true, 200, 0, some manifestReply⟩) ⟨_, ⟨_, List.mem_cons_self, rfl⟩, rfl⟩ ?_
  refine .request (.ok ready.after) (mutated (c := ready) answered_runs ready_committed rfl rfl rfl) ?_
  exact .request (.ok ()) ⟨rfl, trivial⟩ (.pure _ _)

theorem confirmed_served : Pool.Served journey (after ([manifestRow], []) proposing)
    (journey.program (.confirmRun runId workspaceId userId ⟨some "v1", none⟩))
    (after ([manifestRow], []) (proposing ++ [confirmed])) (.ok (some confirmed.after)) := by
  have selected : (after (([manifestRow], []) : Deposits) proposing).db.selectRun runId workspaceId =
      some ready.after := selectRun_single ready_runs
  refine .request (.ok true) ⟨rfl, trivial⟩ ?_
  refine .request (.ok (some ready.after)) ⟨rfl, selected.symm⟩ ?_
  refine .request (.ok confirmed.after) ?_ (.pure _ _)
  exact mutated (c := confirmed) ready_runs confirmed_committed rfl rfl rfl

theorem late_refused (operation : Operation) :
    exec services (.mutate runId workspaceId generating.after.stateVersion orchestrator operation)
      (after ([manifestRow], [artifactRow]) (beginning ++ [cancelled])) (.error (.conflict "State version conflict"))
      (after ([manifestRow], [artifactRow]) (beginning ++ [cancelled])) := by
  have row : (after (([manifestRow], [artifactRow]) : Deposits) (beginning ++ [cancelled])).db.selectRun runId
      workspaceId = some cancelled.after := selectRun_single cancelled_runs
  refine ⟨generated, meets (x := ([manifestRow], [artifactRow])) cancelled_runs rfl, ?_⟩
  have stale : mutate generated (after (([manifestRow], [artifactRow]) : Deposits) (beginning ++ [cancelled])).db runId
      workspaceId generating.after.stateVersion orchestrator operation =
        .error (.conflict "State version conflict") := by
    unfold mutate
    rw [row]
    rfl
  rw [stale]
  exact ⟨rfl, rfl⟩

def Awaiting (rest : Prog Ret Outcome) : Prop :=
  Pool.Served journey (after ([manifestRow], []) beginning) rest
      (after ([manifestRow], [artifactRow]) completing) (.ok none) ∧
    Pool.Served journey (after ([manifestRow], []) (beginning ++ [cancelled])) rest
      (after ([manifestRow], [artifactRow]) (beginning ++ [cancelled])) (.ok none)

theorem generating_halts : Prog.Halts journey.exec Awaiting (after ([manifestRow], []) (proposing ++ [confirmed]))
    (journey.program (.processRun runId workspaceId)) (after ([manifestRow], []) beginning) := by
  have selected : (after (([manifestRow], []) : Deposits) (proposing ++ [confirmed])).db.selectRun runId workspaceId =
      some confirmed.after := selectRun_single confirmed_runs
  refine .request (.ok true) ⟨rfl, trivial⟩ ?_
  refine .request (.ok (some confirmed.after)) ⟨rfl, selected.symm⟩ ?_
  refine .request (.ok (some manifestId)) ⟨rfl, ?_⟩ ?_
  · rw [show (after (([manifestRow], []) : Deposits) (proposing ++ [confirmed])).db.selectRun confirmed.after.id
      confirmed.after.workspaceId = _ from selected]
    rfl
  refine .request (.ok generating.after)
    (mutated (c := generating) confirmed_runs generating_committed rfl rfl rfl) ?_
  refine .here _ _ ⟨?_, ?_⟩
  · refine .request (.ok ⟨true, 200, 0, some artifactReply⟩) ⟨_, ⟨_, List.mem_cons_self, rfl⟩, rfl⟩ ?_
    refine .request false rfl ?_
    refine .request (.ok validating.after)
      (mutated (c := validating) generating_runs validating_committed rfl rfl rfl) ?_
    have verified := artifact_verified validating.after rfl rfl rfl rfl
    simp only [Prog.bind, ExceptT.bindCont, Except.mapError]
    rw [verified]
    refine .request (.ok planned.after) (mutated (c := planned) validating_runs planned_committed rfl rfl rfl) ?_
    exact .request (.ok ()) ⟨rfl, trivial⟩ (.pure _ _)
  · refine .request (.ok ⟨true, 200, 0, some artifactReply⟩) ⟨_, ⟨_, List.mem_cons_self, rfl⟩, rfl⟩ ?_
    refine .request false rfl ?_
    refine .request (.error (.conflict "State version conflict")) (late_refused _) ?_
    refine .request false rfl ?_
    exact .request (.ok ()) ⟨rfl, trivial⟩ (.pure _ _)

theorem cancelled_served : Pool.Served journey (after ([manifestRow], []) beginning)
    (journey.program (.cancelRun runId workspaceId userId)) (after ([manifestRow], []) (beginning ++ [cancelled]))
    (.ok (some cancelled.after)) := by
  have selected : (after (([manifestRow], []) : Deposits) beginning).db.selectRun runId workspaceId =
      some generating.after := selectRun_single generating_runs
  refine .request (.ok true) ⟨rfl, trivial⟩ ?_
  refine .request (.ok (some generating.after)) ⟨rfl, selected.symm⟩ ?_
  refine .request (.ok cancelled.after) ?_ (.pure _ _)
  exact mutated (c := cancelled) generating_runs cancelled_committed rfl rfl rfl

theorem asked_reachable (ordered : Bool) :
    ∃ ts, Reachable services planning ⟨after ([], []) (asking ordered), ts⟩ := by
  obtain ⟨_, first⟩ := created_served.call []
  obtain ⟨_, second⟩ := (asked_served ordered).call _
  exact ⟨_, ([], []), first.trans second⟩

theorem recorded_steps (ordered : Bool) (ts : List (Task Call Ret Outcome)) :
    ∃ seen, Pool.Steps journey ⟨after ([], []) (asking ordered), ts⟩ ⟨after ([], []) (recording ordered),
      ts ++ [⟨.clarifyRun runId workspaceId userId (dto ordered), seen, .pure (.ok (some (answered ordered).after))⟩]⟩ :=
  (answered_served ordered).call ts

theorem proposed_steps (ts : List (Task Call Ret Outcome)) :
    ∃ ts', Pool.Steps journey ⟨after ([], []) (recording true), ts⟩ ⟨after ([manifestRow], []) proposing, ts'⟩ := by
  obtain ⟨_, drafts⟩ := drafted_served.call ts
  exact ⟨_, drafts⟩

theorem generating_reachable : ∃ ts seen rest, Awaiting rest ∧ Reachable services planning
    ⟨after ([manifestRow], []) beginning, ts ++ [⟨.processRun runId workspaceId, seen, rest⟩]⟩ := by
  obtain ⟨_, ext, reachable⟩ := asked_reachable true
  obtain ⟨_, records⟩ := recorded_steps true _
  obtain ⟨_, proposes⟩ := proposed_steps _
  obtain ⟨_, confirms⟩ := confirmed_served.call _
  obtain ⟨seen, rest, awaiting, begins⟩ := Pool.Halts.call generating_halts _
  exact ⟨_, seen, rest, awaiting, ext,
    reachable.trans (records.trans (proposes.trans (confirms.trans begins)))⟩

theorem planned_reachable :
    ∃ ts, Reachable services planning ⟨after ([manifestRow], [artifactRow]) completing, ts⟩ := by
  obtain ⟨ts, seen, rest, ⟨planned, -⟩, ext, reachable⟩ := generating_reachable
  obtain ⟨_, last⟩ := planned.steps (List.getElem?_concat_length (l := ts))
  exact ⟨_, ext, reachable.trans last⟩

theorem cancelled_reachable : ∃ ts ts',
    Reachable services planning ⟨after ([manifestRow], []) (beginning ++ [cancelled]), ts⟩ ∧
    Pool.Steps journey ⟨after ([manifestRow], []) (beginning ++ [cancelled]), ts⟩
      ⟨after ([manifestRow], [artifactRow]) (beginning ++ [cancelled]), ts'⟩ := by
  obtain ⟨ts, seen, rest, ⟨-, late⟩, ext, reachable⟩ := generating_reachable
  obtain ⟨_, cancels⟩ := cancelled_served.call (ts ++ [⟨.processRun runId workspaceId, seen, rest⟩])
  have task : ∀ t : Task Call Ret Outcome,
      (ts ++ [⟨.processRun runId workspaceId, seen, rest⟩] ++ [t])[ts.length]? =
        some ⟨.processRun runId workspaceId, seen, rest⟩ := fun t => by simp
  obtain ⟨_, last⟩ := late.steps (task _)
  exact ⟨_, _, ⟨ext, reachable.trans cancels⟩, last⟩

end Journey

end Provisr.Orchestrator
