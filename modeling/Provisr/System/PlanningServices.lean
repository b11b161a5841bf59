import Provisr.Mcp.ManifestCreation
import Provisr.Orchestrator.RunHistory

-- The orchestrator, the manifest tool and the manifest store, with the other services left open.
namespace Provisr.System

open Provisr.Foundation Provisr.Backend Provisr.Mcp
open Provisr.Orchestrator

section Prepared

variable {checks : ManifestChecks} {member : Bool} {run : ProvisioningRun} {message : String}
  {manifest : JsFields} {p : Prepared}

-- What the orchestrator sends carries no metadata of the agent.
def draftSource : String × JsNumber := ("ai_assumption", half)

def draftContent (manifest : JsFields) : Option JsFields := canonicalManifest draftSource manifest

def draftKey (run : ProvisioningRun) : String := "manifest:" ++ run.id ++ ":" ++ toString run.stateVersion

theorem modelValidate_some {fs : JsFields} {context : MCPContext} :
    MCPContext.modelValidate (some (.obj fs)) = some context ↔
      (fs.all fun f => contextKeys.contains f.1) = true ∧
      uuidField (fs.lookup "workspace_id") = some context.workspaceId ∧
      uuidField (fs.lookup "user_id") = some context.userId ∧
      permissionsField (fs.lookup "permissions") = some context.permissions ∧
      uuidField (fs.lookup "request_id") = some context.requestId ∧
      uuidField (fs.lookup "correlation_id") = some context.correlationId ∧
      uuidField (fs.lookup "session_id") = some context.sessionId ∧
      keyField (fs.lookup "idempotency_key") = some context.idempotencyKey := by
  unfold MCPContext.modelValidate
  by_cases h : (fs.all fun f => contextKeys.contains f.1) = true
  · simp only [h, if_true, Option.bind_eq_bind, Option.bind_eq_some_iff, true_and]
    constructor
    · rintro ⟨a, ha, b, hb, c, hc, d, hd, e, he, f, hf, g, hg, hcontext⟩
      cases hcontext
      exact ⟨ha, hb, hc, hd, he, hf, hg⟩
    · rintro ⟨ha, hb, hc, hd, he, hf, hg⟩
      exact ⟨_, ha, _, hb, _, hc, _, hd, _, he, _, hf, _, hg, rfl⟩
  · simp only [h, Bool.false_eq_true, if_false, false_and, reduceCtorEq]

theorem requireContext_some {permission : String} {raw : Option JsJson} {context : MCPContext} {key : String} :
    requireContext permission member raw = some (context, key) ↔
      MCPContext.modelValidate raw = some context ∧ member = true ∧ permission ∈ context.permissions ∧
        context.idempotencyKey = some key := by
  unfold requireContext
  simp only [Option.bind_eq_bind, Option.bind_eq_some_iff]
  constructor
  · rintro ⟨c, hc, h⟩
    split at h
    · rename_i hok
      obtain ⟨k, hk, h⟩ := Option.bind_eq_some_iff.mp h
      cases h
      exact ⟨hc, hok.1, hok.2, hk⟩
    · cases h
  · rintro ⟨hc, hmember, hpermission, hkey⟩
    refine ⟨context, hc, ?_⟩
    rw [if_pos ⟨hmember, hpermission⟩, hkey]
    rfl

structure SentContext (run : ProvisioningRun) (context : MCPContext) (key : String) : Prop where
  requestId : PyText.uuid run.id = some context.requestId
  workspaceId : PyText.uuid run.workspaceId = some context.workspaceId
  idempotencyKey : keyField (some (.str (draftKey run))) = some (some key)

theorem sentContext {context : MCPContext} {key : String}
    (h : requireContext "manifest:write" member (some (.obj (PlanningClients.contextFields run))) =
      some (context, key)) : SentContext run context key := by
  obtain ⟨hvalid, -, -, hkey⟩ := requireContext_some.mp h
  obtain ⟨-, hworkspace, -, -, hrun, -, -, hk⟩ := modelValidate_some.mp hvalid
  rw [hkey] at hk
  exact ⟨hrun, hworkspace, hk⟩

def draftBody (run : ProvisioningRun) (message : String) (manifest : JsFields) : JsJson :=
  PlanningClients.createManifestBody run (RunsService.draftOutput message manifest)

structure Drafted (run : ProvisioningRun) (manifest : JsFields) (p : Prepared) : Prop where
  runId : PyText.uuid run.id = some p.runId
  key : keyField (some (.str (draftKey run))) = some (some p.key)
  content : draftContent manifest = some p.manifest

theorem inspectDraft_ok {context : MCPContext} {key : String} {policy cloud : Option JsJson} {enabled : Bool}
    (h : inspectDraft checks context key (some (.obj (RunsService.draftOutput message manifest))) policy cloud
      enabled = .ok p) :
    p.runId = context.requestId ∧ p.key = key ∧ draftContent manifest = some p.manifest := by
  have hdraft : agentDraft (some (.obj (RunsService.draftOutput message manifest))) = some manifest := rfl
  have hsource : agentConfidence (some (.obj (RunsService.draftOutput message manifest))) = draftSource := rfl
  unfold inspectDraft at h
  rw [hdraft, hsource] at h
  dsimp only at h
  split at h
  · cases h
  · split at h
    · split at h
      · cases h
      · cases h
      · split at h
        · rename_i content hcontent
          cases h
          exact ⟨rfl, rfl, hcontent⟩
        · cases h
    · cases h

theorem prepareManifest_ok (h : prepareManifest checks member (some (draftBody run message manifest)) = .ok p) :
    Drafted run manifest p := by
  unfold prepareManifest draftBody PlanningClients.createManifestBody at h
  dsimp only at h
  split at h
  · cases h
  · rename_i context key hcontext
    have sent := sentContext hcontext
    obtain ⟨hrun, hkey, hcontent⟩ := inspectDraft_ok h
    exact ⟨hrun ▸ sent.requestId, hkey ▸ sent.idempotencyKey, hcontent⟩

end Prepared

section Reply

variable [Platform] {checks : ManifestChecks} {env : ToolEnv} {rows rows' : List ManifestRow}
  {body : Option JsJson} {response : HttpResponse} {version : Nat}

open PlanningClients (manifestReplySchema storedManifestSchema)

theorem storedManifestSchema_created {backendUrl runId : String} {record : ManifestRow} :
    storedManifestSchema (manifestCreated backendUrl runId record).json = .ok version ↔
      (JsText.isUuid record.id = true ∧ Platform.isUrl (manifestUrl backendUrl runId record.version) = true ∧
        1 ≤ record.version) ∧ record.version = version := by
  have hid : Zod.uuid (some (.str record.id)) = .ok record.id ↔ JsText.isUuid record.id = true := by
    unfold Zod.uuid Zod.regex
    rw [Zod.check_ok_iff]
    exact and_iff_right rfl
  have hurl : Zod.regex Platform.isUrl Zod.string
      (some (.str (manifestUrl backendUrl runId record.version))) =
        .ok (manifestUrl backendUrl runId record.version) ↔
      Platform.isUrl (manifestUrl backendUrl runId record.version) = true := by
    unfold Zod.regex
    rw [Zod.check_ok_iff]
    exact and_iff_right rfl
  have hversion : ∀ v, Zod.natural 1 none (some (.num (JsNumber.ofNat record.version))) = .ok v ↔
      1 ≤ record.version ∧ record.version = v := by
    intro v
    rw [Zod.natural_ok_iff]
    constructor
    · rintro ⟨n, given, read, least, -⟩
      cases given
      rw [JsNumber.toNat?_ofNat] at read
      obtain rfl := Option.some.inj read
      exact ⟨least, rfl⟩
    · rintro ⟨least, rfl⟩
      exact ⟨_, rfl, JsNumber.toNat?_ofNat _, least, fun m mem => absurd mem (Option.not_mem_none m)⟩
  constructor
  · intro h
    obtain ⟨⟨id, v, url, valid⟩, hboth, hv⟩ := Zod.bind_ok_iff.mp h
    cases hv
    have hfirst : Zod.uuid (some (.str record.id)) = .ok id := (Zod.both_ok hboth).1
    have hsecond := Zod.both_ok (Zod.both_ok hboth).2
    have hthird : Zod.regex Platform.isUrl Zod.string
        (some (.str (manifestUrl backendUrl runId record.version))) = .ok url := (Zod.both_ok hsecond.2).1
    obtain ⟨hle, hv⟩ := (hversion _).mp hsecond.1
    have hid' : id = record.id := by
      unfold Zod.uuid Zod.regex at hfirst
      exact (Zod.Checked.ok.inj (Zod.check_ok_iff.mp hfirst).1).symm
    have hurl' : url = manifestUrl backendUrl runId record.version := by
      unfold Zod.regex at hthird
      exact (Zod.Checked.ok.inj (Zod.check_ok_iff.mp hthird).1).symm
    exact ⟨⟨hid.mp (hid' ▸ hfirst), hurl.mp (hurl' ▸ hthird), hle⟩, hv⟩
  · rintro ⟨⟨isUuid, isUrl, hle⟩, rfl⟩
    refine Zod.bind_ok_iff.mpr ⟨(record.id, record.version, manifestUrl backendUrl runId record.version, ()),
      Zod.both_ok_iff.mpr ⟨hid.mpr isUuid, Zod.both_ok_iff.mpr ⟨(hversion _).mpr ⟨hle, rfl⟩,
        Zod.both_ok_iff.mpr ⟨hurl.mpr isUrl, rfl⟩⟩⟩, rfl⟩

theorem manifestReplySchema_created {backendUrl runId : String} {record : ManifestRow} :
    manifestReplySchema (manifestCreated backendUrl runId record).json = .ok (.stored version) ↔
      (JsText.isUuid record.id = true ∧ Platform.isUrl (manifestUrl backendUrl runId record.version) = true ∧
        1 ≤ record.version) ∧ record.version = version := by
  rw [← storedManifestSchema_created]
  unfold manifestReplySchema
  rw [Zod.union_ok_iff, Zod.checkedMap_ok_iff, Zod.checkedMap_ok_iff]
  constructor
  · rintro (⟨v, read, same⟩ | ⟨-, v, -, other⟩)
    · cases same
      exact read
    · cases other
  · exact fun read => .inl ⟨version, read, rfl⟩

theorem manifestReplySchema_rejected {errors : List JsJson} :
    manifestReplySchema (rejectDraft errors).json ≠ .ok (.stored version) := by
  intro h
  unfold manifestReplySchema at h
  rw [Zod.union_ok_iff, Zod.checkedMap_ok_iff, Zod.checkedMap_ok_iff] at h
  obtain ⟨v, read, -⟩ | ⟨-, v, -, other⟩ := h
  · obtain ⟨p, hboth, -⟩ := Zod.bind_ok_iff.mp read
    have hid := (Zod.both_ok hboth).1
    cases hid
  · cases other

structure Created (checks : ManifestChecks) (env : ToolEnv) (rows : List ManifestRow) (body : Option JsJson)
    (rows' : List ManifestRow) (p : Prepared) (record : ManifestRow) : Prop where
  prepared : prepareManifest checks env.member body = .ok p
  valid : env.validation = some []
  arrives : env.arrives = true
  stored : storeManifestVersionWithKey rows env.newId p.runId p.key (.obj p.manifest) = .ok (record, rows')
  answered : env.answered = true

theorem createManifest_created (h : Mcp.createManifest checks env rows body = (response, rows'))
    (accepted : response.ok = true) (reply : manifestReplySchema response.json = .ok (.stored version)) :
    ∃ p record, Created checks env rows body rows' p record ∧
      response = manifestCreated env.backendUrl p.runId record := by
  unfold Mcp.createManifest at h
  split at h
  · cases h
    cases accepted
  · cases h
    exact absurd reply manifestReplySchema_rejected
  · rename_i p hp
    split at h
    · cases h
      cases accepted
    · cases h
      exact absurd reply manifestReplySchema_rejected
    · rename_i valid
      unfold storeManifest at h
      split at h
      · rename_i arrives
        split at h
        · cases h
          cases accepted
        · rename_i record stored hstored
          split at h
          · rename_i answered
            cases h
            exact ⟨p, record, ⟨hp, valid, arrives, hstored, answered⟩, rfl⟩
          · cases h
            cases accepted
      · cases h
        cases accepted

theorem createManifest_stored (h : Mcp.createManifest checks env rows body = (response, rows'))
    (accepted : response.ok = true) (reply : manifestReplySchema response.json = .ok (.stored version)) :
    ∃ p record, prepareManifest checks env.member body = .ok p ∧
      storeManifestVersionWithKey rows env.newId p.runId p.key (.obj p.manifest) = .ok (record, rows') ∧
      record.version = version := by
  obtain ⟨p, record, created, rfl⟩ := createManifest_created h accepted reply
  exact ⟨p, record, created.prepared, created.stored, (manifestReplySchema_created.mp reply).2⟩

omit [Platform] in
theorem createManifest_rows (inv : StoreInvariant rows) (h : Mcp.createManifest checks env rows body = (response, rows')) :
    StoreInvariant rows' ∧ rows <+: rows' := by
  have same : ∀ {r : HttpResponse}, (r, rows) = (response, rows') → StoreInvariant rows' ∧ rows <+: rows' := by
    intro r h
    cases h
    exact ⟨inv, List.prefix_refl _⟩
  unfold Mcp.createManifest at h
  split at h
  · exact same h
  · exact same h
  · rename_i p _
    split at h
    · exact same h
    · exact same h
    · unfold storeManifest at h
      split at h
      · split at h
        · exact same h
        · rename_i record stored hstored
          have grown := storeManifestVersionWithKey_ok inv hstored
          split at h <;>
          · cases h
            exact ⟨grown.1, grown.2.1⟩
      · exact same h

end Reply

section Services

def isCreateManifest (q : HttpRequest) : Bool :=
  q.service == .mcp && q.method == .post && q.path == "/tools/create_manifest"

-- A call whose answer the caller hears, and one whose answer is lost.
inductive CreateManifestCall (checks : ManifestChecks) (rows : List ManifestRow) (body : Option JsJson) :
    Reply HttpResponse → List ManifestRow → Prop
  | heard (env : ToolEnv) : CreateManifestCall checks rows body
      (.ok (createManifest checks env rows body).1) (createManifest checks env rows body).2
  | unheard (env : ToolEnv) : CreateManifestCall checks rows body
      (.error .infrastructure) (createManifest checks env rows body).2

-- Another writer of the table, or a call that outlives its caller.
inductive StoredMeanwhile (rows : List ManifestRow) : List ManifestRow → Prop
  | insert (newId runId : String) (key : Option String) (content : JsJson) (record : ManifestRow)
      (rows' : List ManifestRow) (h : insertVersion rows newId runId key content = some (record, rows')) :
      StoredMeanwhile rows rows'

theorem StoredMeanwhile.grown {rows rows' : List ManifestRow} (inv : StoreInvariant rows)
    (h : StoredMeanwhile rows rows') : StoreInvariant rows' ∧ rows <+: rows' := by
  cases h with
  | insert newId runId key content record _ h =>
    have inv' := inv.insertVersion h
    obtain ⟨-, rfl, -⟩ := insertVersion_some h
    exact ⟨inv', List.prefix_append _ _⟩

variable {σ : Type}

-- `other`: the services besides, whose replies are arbitrary.
def planningServices (checks : ManifestChecks) (other : Services σ) : Services (List ManifestRow × σ) where
  call e q r e' :=
    if isCreateManifest q then CreateManifestCall checks e.1 q.body r e'.1 ∧ e'.2 = e.2
    else other.call e.2 q r e'.2 ∧ e'.1 = e.1
  background e e' := (StoredMeanwhile e.1 e'.1 ∧ e'.2 = e.2) ∨ (other.background e.2 e'.2 ∧ e'.1 = e.1)
  manifests e := e.1
  artifacts e := other.artifacts e.2

variable [Platform] (checks : ManifestChecks) (other : Services σ)

def ReportsStored (rows : List ManifestRow) (q : HttpRequest) (r : Reply HttpResponse) : Prop :=
  isCreateManifest q = true → ∀ response version, r = .ok response → response.ok = true →
    PlanningClients.manifestReplySchema response.json = .ok (.stored version) →
    ∃ member p record, prepareManifest checks member q.body = .ok p ∧
      StoredVersion rows record p.runId p.key (.obj p.manifest) ∧ record.version = version

variable {checks other}

theorem ReportsStored.mono {rows rows' : List ManifestRow} {q : HttpRequest} {r : Reply HttpResponse}
    (h : ReportsStored checks rows q r) (grown : rows <+: rows') : ReportsStored checks rows' q r := by
  intro tool response version hr accepted reply
  obtain ⟨member, p, record, hp, stored, hversion⟩ := h tool response version hr accepted reply
  exact ⟨member, p, record, hp, ⟨grown.subset stored.mem, stored.run, stored.key, stored.content⟩, hversion⟩

omit [Platform] in
theorem planningServices_background {e e' : List ManifestRow × σ} (inv : StoreInvariant e.1)
    (h : (planningServices checks other).background e e') : StoreInvariant e'.1 ∧ e.1 <+: e'.1 := by
  rcases h with ⟨h, -⟩ | ⟨-, h⟩
  · exact h.grown inv
  · rw [h]
    exact ⟨inv, List.prefix_refl _⟩

theorem planningServices_call {e e' : List ManifestRow × σ} {q : HttpRequest} {r : Reply HttpResponse}
    (inv : StoreInvariant e.1) (h : (planningServices checks other).call e q r e') :
    (StoreInvariant e'.1 ∧ e.1 <+: e'.1) ∧ ReportsStored checks e'.1 q r := by
  unfold planningServices at h
  dsimp only at h
  split at h
  · obtain ⟨call, -⟩ := h
    generalize e'.1 = rows' at call
    cases call with
    | heard env =>
      refine ⟨createManifest_rows inv (Prod.eta _).symm, ?_⟩
      intro _ response version hr accepted reply
      cases hr
      obtain ⟨p, record, hp, hstored, hversion⟩ := createManifest_stored rfl accepted reply
      exact ⟨env.member, p, record, hp, (storeManifestVersionWithKey_ok inv hstored).2.2, hversion⟩
    | unheard env =>
      refine ⟨createManifest_rows inv (Prod.eta _).symm, ?_⟩
      intro _ response version hr
      cases hr
  · rename_i htool
    obtain ⟨-, h⟩ := h
    rw [h]
    exact ⟨⟨inv, List.prefix_refl _⟩, fun tool => absurd tool htool⟩

variable (checks other)

def storeContract : Contract (planningServices checks other) where
  Inv e := StoreInvariant e.1
  Known e q r := ReportsStored checks e.1 q r
  call inv h := ⟨(planningServices_call inv h).1.1, (planningServices_call inv h).2⟩
  call_mono inv h _ _ known := known.mono (planningServices_call inv h).1.2
  background inv h := (planningServices_background inv h).1
  background_mono inv h _ _ known := known.mono (planningServices_background inv h).2

end Services

end Provisr.System
