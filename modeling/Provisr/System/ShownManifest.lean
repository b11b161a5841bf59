import Provisr.Orchestrator.Clarification
import Provisr.System.PlanningServices

namespace Provisr.Orchestrator

open Provisr.Foundation RunsService

def Commit.isReady (d : Commit) : Bool := d.change.eventType == some .manifestReady

def Commit.isConfirmation (d : Commit) : Bool := d.change.eventType == some .manifestConfirmed

section Ready

variable [Platform] [ComponentRegistry] {known : HttpRequest → Reply HttpResponse → Prop}
  {r : ProvisioningRun} {now : Ambient} {actorId : String} {change : Change}

theorem Intent.of_ready (intent : Intent known r now actorId change)
    (h : change.eventType = some .manifestReady) :
    ∃ config message manifest version components response,
      known (PlanningClients.post config .mcp "/tools/create_manifest" r
        (PlanningClients.createManifestBody r (draftOutput message manifest))) (.ok response) ∧
      PlanningClients.manifestReplySchema response.json = .ok (.stored version) ∧ response.ok = true ∧
      manifestComponents manifest r.id version = .ok components ∧
      change = readyChange version message components := by
  cases intent with
  | ready config message manifest version components response draft exchange reply accepted shown =>
    exact ⟨config, message, manifest, version, components, response, exchange, reply, accepted, shown, rfl⟩
  | confirm _ _ _ _ hc =>
    obtain ⟨-, -, -, rfl⟩ := confirmChange_ok hc
    cases h
  | suspend _ _ _ hc =>
    obtain ⟨data, rfl⟩ := suspendChange_ok hc
    cases h
  | answer _ _ _ _ _ _ _ _ _ hc =>
    obtain ⟨_, _, -, -, -, -, rfl⟩ := answerChange_ok hc
    cases h
  | endTurn _ _ _ _ kind => rcases kind with rfl | rfl <;> cases h
  | _ => cases h

theorem Intent.manifestVersion_kept (intent : Intent known r now actorId change) (env : TxEnv)
    (h : change.eventType ≠ some .manifestReady) :
    (writtenRun env r change).manifestVersion = r.manifestVersion := by
  rw [writtenRun_manifestVersion]
  cases intent with
  | ready => exact absurd rfl h
  | confirm _ _ _ _ hc =>
    obtain ⟨-, -, -, rfl⟩ := confirmChange_ok hc
    rfl
  | suspend _ _ _ hc =>
    obtain ⟨data, rfl⟩ := suspendChange_ok hc
    rfl
  | answer _ _ _ _ _ _ _ _ _ hc =>
    obtain ⟨_, _, -, -, -, -, rfl⟩ := answerChange_ok hc
    rfl
  | _ => rfl

theorem Intent.of_confirmation (intent : Intent known r now actorId change) (env : TxEnv)
    (h : change.eventType = some .manifestConfirmed) :
    ∃ version, r.manifestVersion = some version ∧
      (writtenRun env r change).manifestConfirmedVersion = some version := by
  cases intent with
  | confirm _ version _ _ hc =>
    obtain ⟨-, hversion, -, rfl⟩ := confirmChange_ok hc
    exact ⟨version, hversion, rfl⟩
  | suspend _ _ _ hc =>
    obtain ⟨data, rfl⟩ := suspendChange_ok hc
    cases h
  | answer _ _ _ _ _ _ _ _ _ hc =>
    obtain ⟨_, _, -, -, -, -, rfl⟩ := answerChange_ok hc
    cases h
  | endTurn _ _ _ _ kind => rcases kind with rfl | rfl <;> cases h
  | _ => cases h

end Ready

end Provisr.Orchestrator

namespace Provisr.System

open Provisr.Foundation Provisr.Backend Provisr.Mcp
open Provisr.Orchestrator RunsService

structure StoredDraft (rows : List ManifestRow) (id : String) (version : Nat) (manifest : JsFields)
    (record : ManifestRow) : Prop where
  mem : record ∈ rows
  run : PyText.uuid id = some record.runId
  place : record.version = version
  content : ∃ content, draftContent manifest = some content ∧ record.content = Json.jsonb (.obj content)
  only : ∀ m ∈ rows, m.runId = record.runId → m.version = version → m = record

-- A proposal whose components were computed from the draft that is stored under its version.
structure Shown [ComponentRegistry] (rows : List ManifestRow) (d : Commit) (version : Nat) : Prop where
  announced : d.event.payload.lookup "manifest_version" = some (.num (JsNumber.ofNat version))
  displayed : ∃ manifest components record,
    d.event.payload.lookup "components" = some (.arr components) ∧
    manifestComponents manifest d.after.id version = .ok components ∧
    StoredDraft rows d.after.id version manifest record
  active : d.after.manifestVersion = some version
  validated : d.after.manifestValidatedVersion = some version

theorem storedDraft {rows : List ManifestRow} (inv : StoreInvariant rows)
    {run : ProvisioningRun} {manifest : JsFields} {p : Prepared} {record : ManifestRow}
    (drafted : Drafted run manifest p) (stored : StoredVersion rows record p.runId p.key (.obj p.manifest)) :
    StoredDraft rows run.id record.version manifest record := by
  refine ⟨stored.mem, ?_, rfl, ⟨p.manifest, drafted.content, stored.content⟩, ?_⟩
  · rw [drafted.runId, stored.run]
  · intro m hm hrun hversion
    exact inv.versions.eq hm stored.mem (Prod.ext hrun hversion)

theorem event_lookup_ready {d : Commit} {version : Nat} {message : String} {components : List JsJson}
    (h : d.change = readyChange version message components) :
    d.event.payload.lookup "manifest_version" = some (.num (JsNumber.ofNat version)) ∧
      d.event.payload.lookup "components" = some (.arr components) := by
  have hpayload : d.event.payload = changePayload d.before d.after d.change := rfl
  rw [hpayload, h]
  constructor <;> simp [changePayload, readyChange, Json.spread, Json.lookup_setField]

section Shown

variable [Platform] [ComponentRegistry] {σ : Type} {checks : ManifestChecks} {other : Services σ}
  {clients : Option PlanningConfig} {w : World (List ManifestRow × σ)}

theorem shown_of_ready {d : Commit} (inv : StoreInvariant w.ext.1)
    (sound : Sound (storeContract checks other) w.ext d) (ready : Commit.isReady d = true) :
    ∃ version, Shown w.ext.1 d version := by
  obtain ⟨config, message, manifest, version, components, response, exchange, reply, accepted, shown,
    hchange⟩ := sound.intent.of_ready (beq_iff_eq.mp ready)
  obtain ⟨member, p, record, hp, stored, rfl⟩ := exchange rfl response version rfl accepted reply
  have hid := sound.committed.id_after
  have draft := storedDraft inv (prepareManifest_ok hp) stored
  obtain ⟨announced, displayed⟩ := event_lookup_ready hchange
  refine ⟨record.version, announced, ⟨manifest, components, record, displayed, ?_, ?_⟩, ?_, ?_⟩
  · rw [hid]
    exact shown
  · rw [hid]
    exact draft
  · rw [sound.committed.written, hchange]
    rfl
  · rw [sound.committed.written, hchange]
    rfl

theorem manifestVersion_of_trail {first r : ProvisioningRun} {cs : List Commit} (start : Start first)
    (sound : ∀ d ∈ cs, Sound (storeContract checks other) w.ext d)
    (way : Trail Commit.before Commit.after first cs r) :
    r.manifestVersion = ((cs.filter Commit.isReady).getLast?).bind fun d => d.after.manifestVersion := by
  have last : r.manifestVersion = (((cs.filter Commit.isReady).getLast?).map
      fun d => d.after.manifestVersion).getD first.manifestVersion := way.last_set ?_
  · rw [last]
    obtain ⟨env, c, rfl⟩ := start
    cases (cs.filter Commit.isReady).getLast? <;> rfl
  · intro d hd unready
    rw [(sound d hd).committed.written]
    refine (sound d hd).intent.manifestVersion_kept d.env ?_
    simpa [Commit.isReady] using unready

theorem manifest_shown_is_stored {s : σ} {c : RunPool (List ManifestRow × σ)}
    (h : Pool.Reachable (system (planningServices checks other) clients) (emptyWorld ([], s)) c) :
    (∀ d ∈ c.shared.commits, Commit.isReady d = true → ∃ version, Shown c.shared.ext.1 d version) ∧
    ∀ r ∈ c.shared.db.runs, ∀ l₁ d l₂, runCommits c.shared r.id = l₁ ++ d :: l₂ →
      Commit.isConfirmation d = true → ∃ e version, (l₁.filter Commit.isReady).getLast? = some e ∧
        Shown c.shared.ext.1 e version ∧ d.after.manifestConfirmedVersion = some version := by
  have empty : (storeContract checks other).Inv ([], s) := StoreInvariant.empty
  have holds := Pool.Discipline.holds_reachable (runDiscipline (storeContract checks other) clients)
    (worldInvariant_empty empty) h
  have inv := holds.inv
  refine ⟨fun d hd => shown_of_ready inv.ext (inv.sound d hd), ?_⟩
  intro r hr l₁ d l₂ split confirmed
  have sound : ∀ e ∈ runCommits c.shared r.id, Sound (storeContract checks other) c.shared.ext e :=
    fun e he => inv.sound e (List.mem_filter.mp he).1
  obtain ⟨first, start, way⟩ := inv.history.trail r hr
  obtain ⟨version, hbefore, hafter⟩ := (sound d (by simp [split])).intent.of_confirmation d.env
    (beq_iff_eq.mp confirmed)
  have hlast := manifestVersion_of_trail start (fun e he => sound e (by simp [split, he])) (way.upto split)
  rw [hbefore] at hlast
  obtain ⟨e, he, hversion⟩ := Option.bind_eq_some_iff.mp hlast.symm
  have hmem := List.mem_filter.mp (List.mem_of_getLast? he)
  obtain ⟨v, shown⟩ := shown_of_ready inv.ext (sound e (by simp [split, hmem.1])) hmem.2
  obtain rfl : v = version := Option.some.inj (shown.active.symm.trans hversion)
  exact ⟨e, v, he, shown, (congrArg _ (sound d (by simp [split])).committed.written).trans hafter⟩

end Shown

end Provisr.System

namespace Provisr.System.Bucket

open Provisr.Foundation Provisr.Backend Provisr.Mcp
open Provisr.Orchestrator RunsService
open Provisr.Orchestrator.Journey (runId workspaceId userId asked received policyLoaded contextLoaded linked
  capabilitiesReply sessionReply manifest draftReply components committed after mutated received_runs
  policyLoaded_runs contextLoaded_runs linked_runs received_committed policyLoaded_committed
  contextLoaded_committed linked_committed)

attribute [local instance] Journey.journeyPlatform emptyRegistry

-- An agent that proposes a bucket, whose name it makes up anew each time it is asked.
def other : Services Unit where
  call _ q r _ :=
    if q.service = .mcp then r = .ok ⟨true, 200, 0, some capabilitiesReply⟩
    else if q.path = "/v1/sessions" then r = .ok ⟨true, 200, 0, some sessionReply⟩
    else ∃ name ∈ ["logs-one", "logs-two"], r = .ok ⟨true, 200, 0, some (draftReply name)⟩
  background _ _ := False
  manifests _ := []
  artifacts _ := []

def checks : ManifestChecks := ⟨fun _ _ _ _ => some []⟩

def toolEnv : ToolEnv where
  member := true
  validation := some []
  arrives := true
  answered := true
  newId := Journey.manifestId
  backendUrl := "http://manifests"

abbrev services : Services (List ManifestRow × Unit) := planningServices checks other

abbrev environment : Environment (World (List ManifestRow × Unit)) Call Ret Outcome :=
  system services (some ⟨"token", none⟩)

def content (name : String) : JsJson := ((draftContent (manifest name)).map Json.obj).getD .null

def record : ManifestRow :=
  ⟨toolEnv.newId, runId, 1, Json.jsonb (content "logs-one"), some (draftKey linked.after)⟩

def ready : Commit :=
  committed { Journey.env with manifests := [record] } orchestrator linked.after
    (readyChange 1 "A bucket." (components "logs-one"))

def drafting : List Commit := [received, policyLoaded, contextLoaded, linked]

def proposed : World (List ManifestRow × Unit) := after ([record], ()) (drafting ++ [ready])

set_option maxRecDepth 10000 in
theorem ready_committed : Committed ready := ⟨rfl, rfl, fun _ => rfl, rfl, rfl, rfl, rfl, rfl⟩

theorem create_served : Pool.Served environment (emptyWorld ([], ()))
    (environment.program (.createRun Journey.chatSessionId workspaceId userId "a bucket" (some "key")))
    (after ([], ()) []) (.ok (some asked)) := by
  refine .request Journey.correlationId rfl (.request (.ok asked) ?_ (.pure _ _))
  exact ⟨Journey.env, ⟨rfl, rfl, by simp [emptyWorld]⟩, Or.inl rfl, rfl⟩

theorem work_served : Pool.Served environment (after ([], ()) [])
    (environment.program (.processRun runId workspaceId)) proposed (.ok none) := by
  refine .request (.ok true) ⟨rfl, trivial⟩ ?_
  refine .request (.ok (some asked)) ⟨rfl, rfl⟩ ?_
  refine .request (.ok received.after) (mutated (c := received) rfl received_committed rfl rfl rfl) ?_
  refine .request (.ok (some false)) ⟨rfl, trivial⟩ ?_
  refine .request (1000 : Nat) rfl ?_
  refine .request (.ok policyLoaded.after)
    (mutated (c := policyLoaded) received_runs policyLoaded_committed rfl rfl rfl) ?_
  refine .request (.ok ⟨true, 200, 0, some capabilitiesReply⟩) ⟨_, ⟨rfl, rfl⟩, rfl⟩ ?_
  refine .request (1000 : Nat) rfl ?_
  refine .request (.ok contextLoaded.after)
    (mutated (c := contextLoaded) policyLoaded_runs contextLoaded_committed rfl rfl rfl) ?_
  refine .request (.ok ⟨true, 200, 0, some sessionReply⟩) ⟨_, ⟨rfl, rfl⟩, rfl⟩ ?_
  refine .request (.ok linked.after) (mutated (c := linked) contextLoaded_runs linked_committed rfl rfl rfl) ?_
  refine .request (.ok ⟨true, 200, 0, some (draftReply "logs-one")⟩)
    ⟨_, ⟨⟨"logs-one", by simp, rfl⟩, rfl⟩, rfl⟩ ?_
  refine .request (.ok (manifestCreated toolEnv.backendUrl runId record))
    ⟨([record], ()), ⟨CreateManifestCall.heard toolEnv, rfl⟩, rfl⟩ ?_
  refine .request (.ok ready.after) (mutated (c := ready) linked_runs ready_committed rfl rfl rfl) ?_
  exact .request (.ok ()) ⟨rfl, trivial⟩ (.pure _ _)

theorem proposed_reachable : ∃ ts, Pool.Reachable environment (emptyWorld ([], ())) ⟨proposed, ts⟩ := by
  obtain ⟨_, first⟩ := create_served.call []
  obtain ⟨_, second⟩ := work_served.call _
  exact ⟨_, first.trans second⟩

theorem manifest_shown_is_stored_proposed : ∃ version, Shown [record] ready version := by
  obtain ⟨ts, reachable⟩ := proposed_reachable
  exact (manifest_shown_is_stored reachable).1 ready (by simp [proposed, Journey.after, drafting]) rfl

end Provisr.System.Bucket
