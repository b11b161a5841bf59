import Provisr.Backend.DraftReplays
import Provisr.Foundation.Sublists

namespace Provisr.Backend.Manifest

open Provisr.Foundation
open Provisr.Orchestrator (Platform)
open Provisr.Audit (AuditRow)

section Content

variable {text other : String} {stored content : Json Literal}

-- PostgreSQL compares what the texts denote.
theorem sameJsonb_iff (h : jsonbIn text = some stored) (h' : jsonbIn other = some content) :
    sameJsonb stored content = true ↔ denote other = denote text := by
  obtain ⟨j, hj, rfl⟩ := jsonbIn_decode h
  obtain ⟨k, hk, rfl⟩ := jsonbIn_decode h'
  have values : ∀ j : Json Literal, Json.normalize id (Json.mapNum Literal.value (Json.jsonb (Json.mapNum Literal.numeric j)))
      = Json.denotation j := by
    intro j
    unfold Json.denotation
    rw [Json.normalize_mapNum, normalize_stored, Json.mapNum_mapNum, Json.normalize_mapNum]
    simp only [Literal.value_numeric]
  unfold sameJsonb
  rw [decide_eq_true_iff]
  unfold Json.jsonb
  rw [Json.normalize_eq_iff Json.jsonbRank_injective Function.injective_id]
  change Json.normalize id (Json.mapNum Literal.value (Json.jsonb (Json.mapNum Literal.numeric j))) =
    Json.normalize id (Json.mapNum Literal.value (Json.jsonb (Json.mapNum Literal.numeric k))) ↔ _
  rw [values, values]
  simp [denote, hj, hk, eq_comm]

variable {body : DraftRequest} {row : Row}

theorem replayedDraft_same (h : jsonbIn text = some row.content) (sent : body.content = some other)
    (held : jsonbIn other = some content) (same : denote other = denote text) :
    replayedDraft body row = .existing row.version := by
  simp [replayedDraft, sent, held, (sameJsonb_iff h held).mpr same]

theorem replayedDraft_other (h : jsonbIn text = some row.content) (sent : body.content = some other)
    (held : jsonbIn other = some content) (differs : denote other ≠ denote text) : replayedDraft body row = otherDraft := by
  simp [replayedDraft, sent, held, mt (sameJsonb_iff h held).mp differs]

end Content

section Events

structure Announced (event : AuditRow) (row : Row) : Prop where
  keyed : ∃ key, row.idempotencyKey = some key
  eventType : event.eventType = .manifestCreated
  run : uuidIn event.resourceId = some row.runId
  payload : event.payload = Json.jsonb (.obj [("manifest_version", .num (JsNumber.ofNat row.version)),
    ("run_id", .str event.resourceId)])

def createdEvents (d : Db) : List AuditRow := d.audits.filter fun e => e.eventType == .manifestCreated

def Concerns (d : Db) (runID key : String) (event : AuditRow) : Prop :=
  ∃ row ∈ d.manifests, Keyed runID key row ∧ Announced event row

theorem Announced.version {event : AuditRow} {row row' : Row} (h : Announced event row) (h' : Announced event row') :
    row.runId = row'.runId ∧ row.version = row'.version := by
  have version : ∀ v, (Json.jsonb (.obj [("manifest_version", .num (JsNumber.ofNat v)),
      ("run_id", .str event.resourceId)])).get? "manifest_version" = some (.num (JsNumber.ofNat v)) := by
    intro v
    unfold Json.jsonb
    rw [Json.normalize, Json.get?_obj, Json.lookup_sortFields Json.jsonbRank_injective, Json.normalizeFields_eq_map]
    rfl
  have same := version row.version
  rw [← h.payload, h'.payload, version] at same
  have number := Json.num.inj (Option.some.inj same)
  refine ⟨Option.some.inj (h.run.symm.trans h'.run), ?_⟩
  have read := congrArg JsNumber.toNat? number
  rw [JsNumber.toNat?_ofNat, JsNumber.toNat?_ofNat] at read
  exact (Option.some.inj read).symm

theorem Announces.announced {body : DraftRequest} {row : Row} {event : AuditRow} (h : Announces body row event)
    (made : Made body.runId (some body.context.idempotencyKey) body.content (.obj []) row) : Announced event row := by
  obtain ⟨type, resource, payload⟩ := h
  exact ⟨⟨_, made.key⟩, type, resource ▸ made.run, resource ▸ payload⟩

end Events

variable [Platform] {faults : Bool} {d₀ : Db} {n : Nat} {s s' : ManifestDatabase}

structure Fresh (d : Db) : Prop where
  manifests : d.manifests = []
  audits : createdEvents d = []

section Runs

omit [Platform] in
theorem createdEvents_append (d : Db) (rows : List AuditRow) :
    createdEvents { d with audits := d.audits ++ rows } =
      createdEvents d ++ rows.filter fun e => e.eventType == .manifestCreated := List.filter_append ..

theorem createdEvents_foreign {ws : List Write} (foreign : ∀ w ∈ ws, Foreign w) (d : Db) :
    createdEvents ((engine faults).view ws d) = createdEvents d := by
  induction ws generalizing d with
  | nil => rfl
  | cons w ws ih =>
    have own : Foreign w := foreign w List.mem_cons_self
    refine (ih (fun v hv => foreign v (List.mem_cons_of_mem w hv)) (apply w d)).trans ?_
    cases w with
    | role | workspace | run | manifest => rfl
    | audit row =>
      change createdEvents { d with audits := d.audits ++ [row] } = createdEvents d
      have other : row.eventType ≠ .manifestCreated := own
      rw [createdEvents_append, List.filter_cons_of_neg (by simpa using other), List.filter_nil, List.append_nil]

structure Drafted (body : DraftRequest) (row : Row) (event : AuditRow) (d d' : Db) : Prop where
  made : Made body.runId (some body.context.idempotencyKey) body.content (.obj []) row
  announced : Announced event row
  added : d' = { d with manifests := d.manifests ++ [row], audits := d.audits ++ [event] }

theorem CommitOf.drafted {i : Nat} {t : Session Call Ret Key Write Outcome} {o : Outcome} (h : CommitOf faults s s' i t o)
    (reachable : (engine faults).Reachable d₀ n s) {incoming : Incoming} {tag : Nat} (call : t.call = .draft incoming tag) :
    ∃ body row event, incoming = .request body ∧ o = .stored row.version ∧ Drafted body row event s.committed s'.committed := by
  obtain ⟨session, done, commits, rfl⟩ := h
  have wrote := wrote_of_done reachable session done
  rw [call] at wrote
  cases wrote.commit commits with
  | version row creates numbered writes store => exact absurd rfl (store incoming tag)
  | draft body tag row event same creates numbered writes announces =>
    cases same
    obtain ⟨stored, made⟩ := creates.stored
    exact ⟨body, row, event, rfl, stored, made, announces.announced made, by rw [writes]; rfl⟩
  | other deeds same => cases same

theorem CommitOf.allowed (empty : d₀.manifests = []) {i : Nat} {t : Session Call Ret Key Write Outcome} {version : Nat}
    (h : CommitOf faults s s' i t (.stored version)) (reachable : (engine faults).Reachable d₀ n s) {body : DraftRequest}
    {tag : Nat} (call : t.call = .draft (.request body) tag) : Allowed body s'.committed := by
  have holds := (locking faults).holds_reachable (inv_of_empty empty n) reachable
  have settled := (holds.sessions i t h.session).wp _ h.done _ _ (Protection.Rely.refl _ _ _) le_rfl
  rw [h.state]
  exact (settled rfl).2 body tag version call rfl

theorem announced_reachable (fresh : Fresh d₀) (reachable : (engine faults).Reachable d₀ n s) :
    List.SublistForall₂ Announced (createdEvents s.committed) s.committed.manifests := by
  induction reachable with
  | refl =>
    rw [fresh.manifests, fresh.audits]
    exact .nil
  | @tail b c reached step ih =>
    rcases step_commit step with same | ⟨i, t, o, session, done, commits, rfl⟩
    · rwa [same]
    · cases (wrote_of_done reached session done).commit commits with
      | version row creates numbered writes store =>
        rw [writes]
        have added := sublistForall₂_append ih (.nil (l := [row]))
        rwa [List.append_nil] at added
      | draft body tag row event call creates numbered writes announces =>
        rw [call] at creates
        have announced := announces.announced creates.stored.2
        rw [writes]
        change List.SublistForall₂ Announced (createdEvents { b.committed with audits := b.committed.audits ++ [event] })
          (b.committed.manifests ++ [row])
        rw [createdEvents_append, List.filter_cons_of_pos (by simpa using announced.eventType), List.filter_nil]
        exact sublistForall₂_append ih (.cons announced .nil)
      | other deeds call foreign =>
        change List.SublistForall₂ Announced (createdEvents ((engine faults).view t.writes b.committed))
          ((engine faults).view t.writes b.committed).manifests
        rwa [createdEvents_foreign foreign, view_foreign foreign]

theorem events_apart (fresh : Fresh d₀) (reachable : (engine faults).Reachable d₀ n s) :
    (createdEvents s.committed).Pairwise fun e e' =>
      ∀ runID key, Concerns s.committed runID key e → ¬ Concerns s.committed runID key e' := by
  have unique := unique_reachable fresh.manifests reachable
  have apart := pairwise_of_single unique
  refine pairwise_of_sublistForall₂ (announced_reachable fresh reachable) apart ?_
  rintro e row e' row' announced announced' apart runID key ⟨a, ha, keyed, own⟩ ⟨b, hb, keyed', own'⟩
  obtain rfl := unique.keyed ha hb keyed keyed'
  obtain ⟨run, version⟩ := announced.version own
  obtain ⟨run', version'⟩ := announced'.version own'
  refine apart (.version row.runId row.version) (decide_eq_true (entries_version row)) (decide_eq_true ?_)
  rw [run.trans run'.symm, version.trans version'.symm]
  exact entries_version row'

theorem events_concern (fresh : Fresh d₀) (reachable : (engine faults).Reachable d₀ n s) {event : AuditRow}
    (mem : event ∈ createdEvents s.committed) : ∃ runID key, Concerns s.committed runID key event := by
  obtain ⟨row, hrow, announced⟩ := sublistForall₂_mem (announced_reachable fresh reachable) mem
  obtain ⟨key, keyed⟩ := announced.keyed
  exact ⟨event.resourceId, key, row, hrow, ⟨announced.run, keyed⟩, announced⟩

end Runs

theorem draft_store_exactly_once (fresh : Fresh d₀) (reachable : (engine faults).Reachable d₀ n s) :
    (∀ a ∈ s.committed.manifests, ∀ b ∈ s.committed.manifests, ∀ runID key, Keyed runID key a → Keyed runID key b →
        a = b) ∧
      (∀ e ∈ createdEvents s.committed, ∃ runID key, Concerns s.committed runID key e) ∧
      ((createdEvents s.committed).Pairwise fun e e' =>
        ∀ runID key, Concerns s.committed runID key e → ¬ Concerns s.committed runID key e') ∧
      (∀ s', (engine faults).Step s s' → s'.committed = s.committed ∨
        ∃ (i : Nat) (t : Session Call Ret Key Write Outcome) (o : Outcome), CommitOf faults s s' i t o) ∧
      (∀ s' i t o incoming tag, CommitOf faults s s' i t o → t.call = .draft incoming tag →
        ∃ body row event, incoming = .request body ∧ o = .stored row.version ∧
          Drafted body row event s.committed s'.committed ∧ Allowed body s'.committed) ∧
      (∀ (i : Nat) (t : Session Call Ret Key Write Outcome) (body : DraftRequest) (tag version : Nat),
        s.sessions[i]? = some t → t.call = .draft (.request body) tag → t.rest = some (.pure (.existing version)) →
        ∃ row ∈ s.committed.manifests, Keyed body.runId body.context.idempotencyKey row ∧ version = row.version) ∧
      (∀ row ∈ s.committed.manifests, ∀ text, jsonbIn text = some row.content → ∀ body tag, ValidRequest body →
        Keyed body.runId body.context.idempotencyKey row → MayDraft body s.committed →
        (∀ other content, body.content = some other → jsonbIn other = some content →
          (denote other = denote text → Owns body s.committed →
            AnsweredDraft faults s body tag (fun d => MayDraft body d ∧ Owns body d) (.existing row.version)) ∧
          (denote other ≠ denote text → AnsweredDraft faults s body tag (MayDraft body) otherDraft)) ∧
        (body.content.bind jsonbIn = none → AnsweredDraft faults s body tag (MayDraft body) unavailable)) ∧
      (∀ s' i t o body tag, CommitOf faults s s' i t o → t.call = .draft (.request body) tag →
        ∀ (j : Nat) (u : Session Call Ret Key Write Outcome) (body' : DraftRequest) (tag' : Nat) (p : Prog Ret Outcome),
          s.sessions[j]? = some u → j ≠ i → u.call = .draft (.request body') tag' →
          uuidIn body'.runId = uuidIn body.runId → u.rest = some p → u.writes = [] ∧ Unlocked body' tag' p) ∧
      ∀ row ∈ s.committed.manifests, ∀ text, jsonbIn text = some row.content →
        ∀ (i : Nat) (t : Session Call Ret Key Write Outcome) (body : DraftRequest) (tag : Nat) (validated : Bool)
          (p : Prog Ret Outcome), s.sessions[i]? = some t → t.writes = [] → t.rest = some p →
          Approaching body tag validated p → ValidRequest body → Keyed body.runId body.context.idempotencyKey row →
          Awaits body s.committed →
        (∀ other content, body.content = some other → jsonbIn other = some content →
          (denote other = denote text → AnsweredUnderway faults s body i validated p (.existing row.version)) ∧
          (denote other ≠ denote text → AnsweredUnderway faults s body i validated p otherDraft)) ∧
        (body.content.bind jsonbIn = none → AnsweredUnderway faults s body i validated p unavailable) := by
  refine ⟨?_, fun e mem => events_concern fresh reachable mem, events_apart fresh reachable, fun s' step => step_commit step,
    ?_, ?_, ?_, ?_, ?_⟩
  · intro a ha b hb runID key keyed keyed'
    exact (unique_reachable fresh.manifests reachable).keyed ha hb keyed keyed'
  · intro s' i t o incoming tag commit call
    obtain ⟨body, row, event, rfl, rfl, drafted⟩ := commit.drafted reachable call
    exact ⟨body, row, event, rfl, rfl, drafted, commit.allowed fresh.manifests reachable call⟩
  · intro i t body tag version session call done
    have report := (wrote_of_done reachable session done).report rfl
    rwa [call] at report
  · intro row mem text stored body tag valid keyed member
    refine ⟨fun other content sent held => ⟨fun same owns => ?_, fun differs => ?_⟩, fun none => ?_⟩
    · rw [← replayedDraft_same stored sent held same]
      exact replays_answered fresh.manifests reachable valid mem keyed ⟨member, owns⟩ fun d h => ⟨h.1, fun _ => h.2⟩
    · have answer := replayedDraft_other stored sent held differs
      rw [← answer]
      refine replays_answered fresh.manifests reachable valid mem keyed member fun d h => ⟨h, fun existing => ?_⟩
      cases answer.symm.trans existing
    · have answer : replayedDraft body row = unavailable := replayedDraft_none none
      rw [← answer]
      refine replays_answered fresh.manifests reachable valid mem keyed member fun d h => ⟨h, fun existing => ?_⟩
      cases answer.symm.trans existing
  · intro s' i t o body tag commit call j u body' tag' p other apart call' same rest
    exact commit.others fresh.manifests reachable call other apart call' same rest
  · rintro row mem text stored i ⟨c, held, ws, rest⟩ body tag validated p session rfl rfl approaching valid keyed awaits
    have answered := approaching.answered fresh.manifests reachable valid mem keyed awaits session
    refine ⟨fun other content sent held => ⟨fun same => ?_, fun differs => ?_⟩, fun none => ?_⟩
    · rwa [replayedDraft_same stored sent held same] at answered
    · rwa [replayedDraft_other stored sent held differs] at answered
    · rwa [replayedDraft_none none] at answered

section Example

def draftContext : Context where
  workspaceId := "e81b5c24-9f06-4d73-a2c8-6b3d0f9e7154"
  userId := "6f1c2d3e-4a5b-4c6d-8e7f-90a1b2c3d4e5"
  permissions := ["manifest:write"]
  requestId := replicasRun
  correlationId := "0b9e4c1a-7d52-4f3e-9a61-2c8d5e7f1034"
  sessionId := "a4d7e2b9-6c31-4e58-b0f2-5d8c1a3e9f76"
  idempotencyKey := replicasKey

def draftRequest (content : String) : DraftRequest := ⟨draftContext, replicasRun, 3, some content⟩

def draftRun : RunRow :=
  ⟨draftContext.workspaceId, draftContext.userId, draftContext.sessionId, draftContext.correlationId,
    "MANIFEST_CREATING", 3⟩

def draftDb : Db where
  role _ _ := some "engineer"
  deleted _ := false
  runs id := if id = replicasRun then some draftRun else none
  manifests := []
  audits := []

@[reducible] def draftHashes : Platform where
  sha256Hex _ := "087c2cd667b1d9a3b39c8cfd29a1e88a258b0e4db4511e795c9c9bc182571204"
  isUrl _ := true

def draftRow : Row := ⟨replicasId, replicasRun, 1, replicas hundred, .obj [], 0, some replicasKey⟩

def draftEntry : Audit.Entry :=
  ⟨draftContext.workspaceId, .manifestCreated, "state-service", .system, "provisioning_run", replicasRun,
    .obj [("manifest_version", .num (JsNumber.ofNat 1)), ("run_id", .str replicasRun)], none, draftContext.correlationId⟩

def draftEvent : AuditRow := draftEntry.row (draftHashes.sha256Hex (Audit.StateService.preimage draftEntry)) 0

def draftStored : Db := { draftDb with manifests := [draftRow], audits := [draftEvent] }

def draftCall : Call := .draft (.request (draftRequest wholeText)) 0

def draftState : ManifestDatabase := ⟨draftStored, 1, [⟨draftCall, ∅, [], none⟩]⟩

def revokedState : ManifestDatabase :=
  ⟨{ draftStored with role := fun w u => if w = draftContext.workspaceId ∧ u = draftContext.userId then none
      else draftStored.role w u }, 1, draftState.sessions ++
    [⟨.other [.setRole draftContext.workspaceId draftContext.userId none], ∅, [], none⟩]⟩

omit [Platform] in
theorem draft_ids (content : String) : ∀ id ∈ draftIds (draftRequest content), parseUuid id = some id := by
  simp only [draftIds, draftRequest, draftContext, replicasRun, List.forall_mem_cons, List.not_mem_nil, false_implies,
    implies_true, and_true]
  repeat' apply And.intro
  all_goals exact parseUuid_spelled (by decide)

omit [Platform] in
theorem draft_valid (content : String) : ValidRequest (draftRequest content) := by
  refine ⟨List.any_eq_false.mpr fun id mem => ?_, ?_⟩
  · simp [draft_ids content id mem]
  · obtain ⟨given, short⟩ := (Bool.or_eq_false_iff.mp replicasKey_given)
    change (((replicasRun != replicasRun || decide ((3 : Int) < 0)) || replicasKey.toList.all isSpace) ||
      decide (255 < replicasKey.utf8ByteSize)) = false
    rw [given, short, bne_self_eq_false]
    rfl

omit [Platform] in
theorem draftWorkspace_in : uuidIn draftContext.workspaceId = some draftContext.workspaceId := by
  simp only [draftContext]
  exact uuidIn_spelled (by decide)

omit [Platform] in
theorem draftUser_in : uuidIn draftContext.userId = some draftContext.userId := by
  simp only [draftContext]
  exact uuidIn_spelled (by decide)

omit [Platform] in
theorem draft_authorized {d : Db} (role : member d draftContext.workspaceId draftContext.userId = some "engineer") :
    Query.answer d (.authorized draftContext.workspaceId draftContext.userId) = some true := by
  simp [Query.answer, draftWorkspace_in, draftUser_in, role, mayProvision]

omit [Platform] in
theorem draft_unheld : Query.answer draftDb (.existing replicasRun replicasKey (some wholeText)) = some none := by
  simp [Query.answer, replicasRun_in, replicasKey_in, selectExisting, wholeText_in, findKey, draftDb]

omit [Platform] in
theorem draft_executes :
    letI := draftHashes
    (engine true).Executes draftDb 0 [] ((engine true).program draftCall) 1 [.manifest draftRow, .audit draftEvent]
      (.stored 1) := by
  let := draftHashes
  have insertable : Insertable ⟨replicasRun, 1, some wholeText, .obj [], some replicasKey⟩ draftRow draftDb := by
    have id : JsText.isUuid replicasId = true := by
      unfold replicasId
      exact isUuid_spelled (by decide)
    have known : uuidIn replicasRun = some replicasRun ∧ (draftDb.runs replicasRun).isSome :=
      ⟨replicasRun_in, by simp [draftDb]⟩
    exact ⟨⟨id, fun m hm => absurd hm List.not_mem_nil⟩, known, ⟨rfl, (by decide : 1 < 2 ^ 31)⟩, ⟨wholeText, rfl, wholeText_in⟩,
      ⟨rfl, rfl⟩, rfl, fun _ same => Option.some.inj same ▸ replicasKey_in⟩
  have snapshot : Query.answer draftDb (.snapshot replicasRun draftContext.workspaceId) = some (some draftRun) := by
    simp [Query.answer, replicasRun_in, draftWorkspace_in, draftDb, draftRun]
  have first : Query.answer draftDb (.nextVersion replicasRun) = some 1 := by
    simp [Query.answer, replicasRun_in, versions, draftDb]
  have membership : lockedMember draftDb draftContext.workspaceId draftContext.userId = some (some "engineer") := by
    simp [lockedMember, draftWorkspace_in, draftUser_in, member, draftDb]
  have locked : lockedRun draftDb replicasRun draftContext.workspaceId draftContext.userId =
      some (some ("MANIFEST_CREATING", 3)) := by
    simp [lockedRun, replicasRun_in, draftWorkspace_in, draftUser_in, ownedRun, draftDb, draftRun]
  have matched : snapshotMatches (draftRequest wholeText) draftRun = true := by
    simp [snapshotMatches, draftRequest, draftRun]
  rw [show (engine true).program draftCall = draftServer.store 0 (.request (draftRequest wholeText)) from rfl,
    store_eq (draft_valid wholeText)]
  refine .op (.ok true) [] 0 ⟨Or.inl ⟨true, draft_authorized (if_neg Bool.false_ne_true), rfl⟩, rfl, rfl⟩ ?_
  refine .op (.ok none) [] 0 ⟨Or.inl ⟨none, draft_unheld, rfl⟩, rfl, rfl⟩ ?_
  refine .op (.ok (some draftRun)) [] 0 ⟨Or.inl ⟨some draftRun, snapshot, rfl⟩, rfl, rfl⟩ ?_
  dsimp only
  rw [if_pos matched]
  refine .op (.ok ⟨true, []⟩) [] 0 ⟨rfl, rfl⟩ ?_
  refine .op (.ok ⟨true, []⟩) [] 0 ⟨rfl, rfl⟩ ?_
  refine .op (.ok (some "engineer")) [] 0 ⟨Or.inl ⟨_, membership, rfl⟩, rfl, rfl⟩ ?_
  refine .op (.ok (some ("MANIFEST_CREATING", 3))) [] 0 ⟨Or.inl ⟨_, locked, rfl⟩, rfl, rfl⟩ ?_
  dsimp only
  rw [if_pos ⟨rfl, rfl⟩]
  refine .op (.ok none) [] 0 ⟨Or.inl ⟨none, draft_unheld, rfl⟩, rfl, rfl⟩ ?_
  refine .op (.ok (1 : Nat)) [] 0 ⟨Or.inl ⟨(1 : Nat), first, rfl⟩, rfl, rfl⟩ ?_
  refine .op (.ok draftRow) [.manifest draftRow] 0 ⟨Or.inl ⟨_, rfl, insertable, ?_, rfl⟩, rfl⟩ ?_
  · rintro ⟨m, hm, -⟩
    exact absurd hm List.not_mem_nil
  refine .op (.ok ()) [] 0 (Or.inl ⟨(), [], rfl, ⟨rfl, rfl⟩, rfl⟩) ?_
  refine .op (.ok none) [] 0 (Or.inl ⟨none, [], rfl, ⟨rfl, rfl, rfl⟩, rfl⟩) ?_
  refine .op (.ok ()) [.audit draftEvent] 1 (Or.inl ⟨(), [draftEvent], rfl, ?_, rfl⟩) (.pure _ _ _)
  exact ⟨List.not_mem_nil, fun h hh => absurd hh (by simp), 0, le_rfl, rfl, rfl⟩

omit [Platform] in
theorem draft_reachable :
    letI := draftHashes
    (engine true).Reachable draftDb 0 draftState := by
  let := draftHashes
  exact draft_executes.commits (s := ⟨draftDb, 0, []⟩) rfl (by simp)

def secondCall : Call := .draft (.request (draftRequest wholeText)) 1

-- A second request for the draft has looked for a version in vain when the first stores it.
def racingState : ManifestDatabase :=
  letI := draftHashes
  ⟨draftStored, 1, [⟨secondCall, ∅, [], some (validateDraft (draftRequest wholeText) (storeDraft (draftRequest wholeText) 1))⟩,
    ⟨draftCall, ∅, [], none⟩]⟩

omit [Platform] in
theorem racing_reachable :
    letI := draftHashes
    (engine true).Reachable draftDb 0 racingState := by
  let := draftHashes
  have started : (engine true).Step ⟨draftDb, 0, []⟩ ⟨draftDb, 0, [⟨secondCall, ∅, [], some ((engine true).program secondCall)⟩]⟩ :=
    .start _ secondCall
  rw [show (engine true).program secondCall = draftServer.store 1 (.request (draftRequest wholeText)) from rfl,
    store_eq (draft_valid wholeText)] at started
  have role : member draftDb draftContext.workspaceId draftContext.userId = some "engineer" := if_neg Bool.false_ne_true
  have stored := draft_executes.commits (s := ⟨draftDb, 0, [⟨secondCall, ∅, [],
    some (validateDraft (draftRequest wholeText) (storeDraft (draftRequest wholeText) 1))⟩]⟩) rfl (by simp)
  exact .head started (.head (select_step (draft_authorized role)) (.head (select_step draft_unheld) stored))

omit [Platform] in
theorem revoked_reachable :
    letI := draftHashes
    (engine true).Reachable draftDb 0 revokedState := by
  let := draftHashes
  have run : (engine true).Executes draftStored 1 []
      ((engine true).program (.other [.setRole draftContext.workspaceId draftContext.userId none])) 1
      [.role draftContext.workspaceId draftContext.userId none] .done :=
    .op (.ok ()) [.role draftContext.workspaceId draftContext.userId none] 1 ⟨Or.inl ⟨rfl, rfl⟩, rfl⟩ (.pure _ _ _)
  exact draft_reachable.trans (run.commits (s := draftState) rfl (by simp [draftState]))

omit [Platform] in
theorem draft_keyed : Keyed replicasRun replicasKey draftRow := ⟨replicasRun_in, rfl⟩

def otherText : String := "\x7b\"replicas\":200\x7d"

-- No jsonb holds the character that this text escapes.
def unheldText : String := "\x7b\"replicas\":\"\\u0000\"\x7d"

omit [Platform] in
theorem draft_awaited : Awaits (draftRequest wholeText) draftStored := by
  have role : member draftStored draftContext.workspaceId draftContext.userId = some "engineer" := if_neg Bool.false_ne_true
  have owned : ownedRun draftStored replicasRun draftContext.workspaceId draftContext.userId = some draftRun := by
    simp [ownedRun, draftStored, draftDb, draftRun]
  refine ⟨⟨⟨_, _, draftWorkspace_in, draftUser_in, by rw [role]; rfl⟩, _, _, _, draftRun, replicasRun_in, draftWorkspace_in,
    draftUser_in, owned, rfl, rfl⟩, draftRun, ?_, ?_⟩
  · simp [Query.answer, draftRequest, replicasRun_in, draftWorkspace_in, draftStored, draftDb, draftRun]
  · simp [snapshotMatches, draftRequest, draftRun]

omit [Platform] in
theorem draft_store_exactly_once_racing :
    letI := draftHashes
    AnsweredDraft true racingState (draftRequest otherText) 2 (MayDraft (draftRequest otherText)) otherDraft ∧
      AnsweredUnderway true racingState (draftRequest wholeText) 0 false
        (validateDraft (draftRequest wholeText) (storeDraft (draftRequest wholeText) 1)) (.existing 1) := by
  let := draftHashes
  have fresh : Fresh draftDb := ⟨rfl, rfl⟩
  obtain ⟨-, -, -, -, -, -, replays, -, underway⟩ := draft_store_exactly_once fresh racing_reachable
  have stored : draftRow ∈ racingState.committed.manifests := List.mem_singleton.mpr rfl
  have member : MayDraft (draftRequest otherText) draftStored := draft_authorized (if_neg Bool.false_ne_true)
  obtain ⟨answered, -⟩ := replays draftRow stored wholeText wholeText_in _ 2 (draft_valid _) draft_keyed member
  obtain ⟨told, -⟩ := underway draftRow stored wholeText wholeText_in 0 _ _ 1 false _ rfl rfl rfl .snapshot (draft_valid _)
    draft_keyed draft_awaited
  exact ⟨(answered otherText (replicas ⟨false, ['2', '0', '0'], [], none, rfl⟩) rfl (by decide +kernel)).2 (by decide +kernel),
    (told wholeText draftRow.content rfl wholeText_in).1 rfl⟩

theorem select_executes {d : Db} {n n' : Nat} {ws ws' : List Write} {q : Query} {failure o : Outcome}
    {next : q.Answer → Prog Ret Outcome}
    (run : (engine false).Executes d n ws (statement (.select q) failure next) n' ws' o) :
    (∃ a, q.answer ((engine false).view ws d) = some a ∧ (engine false).Executes d n ws (next a) n' ws' o) ∨
      q.answer ((engine false).view ws d) = none ∧ o = failure := by
  cases run with
  | op r vs m run rest =>
    obtain ⟨⟨a, answer, rfl⟩ | ⟨faulty | none, rfl⟩, rfl, rfl⟩ := run
    · rw [List.append_nil] at rest
      exact Or.inl ⟨a, answer, rest⟩
    · cases faulty
    · cases rest
      exact Or.inr ⟨none, rfl⟩

-- A replay of the same draft by an author who has lost the membership, and one with a content no jsonb holds.
omit [Platform] in
theorem draft_store_refused :
    letI := draftHashes
    (¬ ∀ s row text tag, (engine true).Reachable draftDb 0 s → row ∈ s.committed.manifests →
        Keyed replicasRun replicasKey row → jsonbIn text = some row.content →
        AnsweredDraft true s (draftRequest text) tag (fun _ => True) (.existing row.version)) ∧
      ¬ ∀ s row text other tag, (engine true).Reachable draftDb 0 s → row ∈ s.committed.manifests →
        Keyed replicasRun replicasKey row → jsonbIn text = some row.content → denote other ≠ denote text →
        AnsweredDraft true s (draftRequest other) tag (fun _ => True) otherDraft := by
  let := draftHashes
  have stored : jsonbIn wholeText = some draftRow.content := wholeText_in
  have mem : draftRow ∈ draftStored.manifests := List.mem_singleton.mpr rfl
  refine ⟨fun always => ?_, fun always => ?_⟩
  · obtain ⟨n', executed⟩ := (always revokedState draftRow wholeText 0 revoked_reachable mem draft_keyed stored).returns
    rw [store_eq (draft_valid wholeText)] at executed
    have revoked : Query.answer revokedState.committed (.authorized draftContext.workspaceId draftContext.userId) =
        some false := by
      simp [Query.answer, draftWorkspace_in, draftUser_in, member, revokedState, draftStored, draftDb, mayProvision]
    rcases select_executes executed with ⟨a, answer, rest⟩ | ⟨-, unanswered⟩
    · obtain rfl := Option.some.inj (revoked.symm.trans answer)
      cases rest
    · cases unanswered
  · obtain ⟨n', executed⟩ := (always draftState draftRow wholeText unheldText 0 draft_reachable mem draft_keyed stored
      (by decide +kernel)).returns
    rw [store_eq (draft_valid unheldText)] at executed
    have authorized : Query.answer draftStored (.authorized draftContext.workspaceId draftContext.userId) = some true :=
      draft_authorized (if_neg Bool.false_ne_true)
    have unheld : Query.answer draftStored (.existing replicasRun replicasKey (some unheldText)) = none := by
      have escaped : jsonbIn unheldText = none := by decide +kernel
      simp [Query.answer, replicasRun_in, replicasKey_in, selectExisting, escaped]
    rcases select_executes executed with ⟨a, answer, rest⟩ | ⟨-, unanswered⟩
    · obtain rfl := Option.some.inj (authorized.symm.trans answer)
      rcases select_executes rest with ⟨a, answer, -⟩ | ⟨-, unanswered⟩
      · exact absurd (unheld.symm.trans answer) (by simp)
      · cases unanswered
    · cases unanswered

end Example

end Provisr.Backend.Manifest
