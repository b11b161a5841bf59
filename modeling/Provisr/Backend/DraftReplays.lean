import Provisr.Backend.ManifestReplay

namespace Provisr.Backend.Manifest

open Provisr.Foundation
open Provisr.Orchestrator (Platform)

variable [Platform] {faults : Bool} {d₀ : Db} {n : Nat} {s s' : ManifestDatabase}

section Keys

theorem Creates.stored {body : DraftRequest} {tag : Nat} {o : Outcome} {row : Row}
    (h : Creates (.draft (.request body) tag) o row) :
    o = .stored row.version ∧ Made body.runId (some body.context.idempotencyKey) body.content (.obj []) row := by
  cases o with
  | stored version =>
    obtain ⟨made, rfl⟩ := h
    exact ⟨rfl, made⟩
  | created | returned | failed | existing | invalid | refused | done => exact h.elim

theorem Creates.keyText {c : Call} {o : Outcome} {row : Row} (h : Creates c o row) {key : String}
    (keyed : row.idempotencyKey = some key) : textIn key = some key := by
  have held : ∀ {runID : String} {key' content : Option String} {source : JsJson}, Made runID key' content source row →
      textIn key = some key := fun made => made.keyText key (made.key.symm.trans keyed)
  cases c with
  | keyed runID key' content source =>
    cases o with
    | created record =>
      obtain ⟨text, -, made, -⟩ := h
      exact held made
    | returned | failed | stored | existing | invalid | refused | done => exact h.elim
  | unkeyed runID content source =>
    cases o with
    | created record =>
      obtain ⟨text, -, made, -⟩ := h
      exact held made
    | returned | failed | stored | existing | invalid | refused | done => exact h.elim
  | draft incoming tag =>
    cases incoming with
    | unauthorized | malformed => cases o <;> exact h.elim
    | request body => exact held h.stored.2
  | other deeds => cases o <;> exact h.elim

theorem keys_reachable (empty : d₀.manifests = []) (reachable : (engine faults).Reachable d₀ n s) {row : Row}
    (mem : row ∈ s.committed.manifests) {key : String} (keyed : row.idempotencyKey = some key) : textIn key = some key := by
  induction reachable with
  | refl =>
    rw [empty] at mem
    cases mem
  | @tail b c reached step ih =>
    rcases step_commit step with same | ⟨i, t, o, commit⟩
    · exact ih (same ▸ mem)
    · rcases commit.cases reached with ⟨new, creates, -, added⟩ | ⟨-, same⟩
      · rw [added] at mem
        rcases List.mem_append.mp mem with mem | mem
        · exact ih mem
        · obtain rfl := List.mem_singleton.mp mem
          exact creates.keyText keyed
      · exact ih (same ▸ mem)

end Keys

section Replays

def MayDraft (body : DraftRequest) (d : Db) : Prop :=
  Query.answer d (.authorized body.context.workspaceId body.context.userId) = some true

def Owns (body : DraftRequest) (d : Db) : Prop :=
  Query.answer d (.owned body.runId body.context.workspaceId body.context.userId) = some true

structure ValidRequest (body : DraftRequest) : Prop where
  ids : ((draftIds body).any fun id => (parseUuid id).isNone) = false
  context : invalidContext body = false

def replayedDraft (body : DraftRequest) (row : Row) : Outcome :=
  match body.content.bind jsonbIn with
  | none => unavailable
  | some content => if sameJsonb row.content content then .existing row.version else otherDraft

structure Replays (body : DraftRequest) (row : Row) (d : Db) : Prop where
  found : findKey d row.runId body.context.idempotencyKey = some row
  member : MayDraft body d
  owned : replayedDraft body row = .existing row.version → Owns body d

def ToldDraft (faults : Bool) (answer o : Outcome) (ws : List Write) : Prop :=
  (o = answer ∨ faults = true ∧ ∃ status message, o = .refused status message) ∧ ws = []

variable {body : DraftRequest} {tag : Nat} {row : Row}

def firstLookup (body : DraftRequest) (tag : Nat) : Prog Ret Outcome :=
  statement (.select (.existing body.runId body.context.idempotencyKey body.content)) unavailable fun
    | some (version, sameContent) => replayDraft body version sameContent
    | none => validateDraft body (storeDraft body tag)

theorem store_eq (valid : ValidRequest body) :
    draftServer.store tag (.request body) =
      statement (.select (.authorized body.context.workspaceId body.context.userId))
        (.refused 503 "Manifest storage unavailable") fun authorized =>
          if authorized then firstLookup body tag else .pure (.refused 403 "Provisioning permission required") := by
  unfold draftServer.store readRequest
  exact (if_neg (by simp [valid.ids])).trans ((if_neg (by simp [valid.context])).trans rfl)

omit [Platform] in
theorem existing_found {d : Db} (found : findKey d row.runId body.context.idempotencyKey = some row)
    (run : uuidIn body.runId = some row.runId)
    (key : textIn body.context.idempotencyKey = some body.context.idempotencyKey) :
    Query.answer d (.existing body.runId body.context.idempotencyKey body.content) =
      (body.content.bind jsonbIn).map fun content => some (row.version, sameJsonb row.content content) := by
  simp only [Query.answer, run, key, Option.bind_eq_bind, Option.bind_some, selectExisting]
  cases body.content with
  | none => simp [found]
  | some text =>
    simp only [found, Option.map_some, Option.bind_some]
    cases jsonbIn text with
    | none => rfl
    | some content => rfl

omit [Platform] in
theorem ToldDraft.faulty {answer : Outcome} {status : Nat} {message : String} (fault : faults = true) :
    ToldDraft faults answer (.refused status message) [] :=
  ⟨Or.inr ⟨fault, status, message, rfl⟩, rfl⟩

theorem existing_leads {R : Db → Db → Prop} {Q : Outcome → List Write → Db → Prop} {d : Db}
    {next : Option (Nat × Bool) → Prog Ret Outcome} (run : uuidIn body.runId = some row.runId)
    (key : textIn body.context.idempotencyKey = some body.context.idempotencyKey)
    (found : ∀ d', R d d' → findKey d' row.runId body.context.idempotencyKey = some row)
    (fault : faults = true → ∀ d, Q unavailable [] d) (none : body.content.bind jsonbIn = none → ∀ d, Q unavailable [] d)
    (h : ∀ d' content, R d d' → body.content.bind jsonbIn = some content →
      (engine faults).Leads R Q d' [] (next (some (row.version, sameJsonb row.content content)))) :
    (engine faults).Leads R Q d [] (statement
      (.select (.existing body.runId body.context.idempotencyKey body.content)) unavailable next) := by
  refine query_leads ?_ fun d₁ now₁ answer known => ?_
  · rintro d₁ now₁ (broken | unanswered)
    · exact fault broken
    · exact none (Option.map_eq_none_iff.mp ((existing_found (found d₁ now₁) run key).symm.trans unanswered))
  · obtain ⟨content, hcontent, rfl⟩ := Option.map_eq_some_iff.mp ((existing_found (found d₁ now₁) run key).symm.trans known)
    exact h d₁ content now₁ hcontent

omit [Platform] in
theorem replayedDraft_some {content : Json Literal} (held : body.content.bind jsonbIn = some content) :
    replayedDraft body row = if sameJsonb row.content content then .existing row.version else otherDraft := by
  rw [replayedDraft, held]

omit [Platform] in
theorem replayedDraft_none (held : body.content.bind jsonbIn = none) : replayedDraft body row = unavailable := by
  rw [replayedDraft, held]

theorem firstLookup_leads (run : uuidIn body.runId = some row.runId)
    (key : textIn body.context.idempotencyKey = some body.context.idempotencyKey) {P : Db → Prop}
    (replays : ∀ d, P d → Replays body row d) (d : Db) :
    (engine faults).Leads (fun _ d' => P d') (fun o ws _ => ToldDraft faults (replayedDraft body row) o ws)
      d [] (firstLookup body tag) := by
  refine existing_leads run key (fun d' now => (replays d' now).found) (fun fault _ => .faulty fault)
    (fun none _ => ⟨Or.inl (replayedDraft_none none).symm, rfl⟩) fun d₁ content _ held => ?_
  have answered : replayedDraft body row = _ := replayedDraft_some held
  change (engine faults).Leads _ _ _ _ (replayDraft body row.version (sameJsonb row.content content))
  unfold replayDraft
  split
  · rename_i same
    rw [if_pos same] at answered
    refine query_leads ?_ fun d₂ now₂ owned answer => ?_
    · rintro d₂ now₂ (fault | none) _
      · exact .faulty fault
      · exact absurd (((replays _ now₂).owned answered).symm.trans none) nofun
    obtain rfl := Option.some.inj (((replays _ now₂).owned answered).symm.trans answer)
    exact fun _ _ => ⟨Or.inl answered.symm, rfl⟩
  · rename_i other
    rw [if_neg other] at answered
    exact fun _ _ => ⟨Or.inl answered.symm, rfl⟩

theorem draft_leads (valid : ValidRequest body) (run : uuidIn body.runId = some row.runId)
    (key : textIn body.context.idempotencyKey = some body.context.idempotencyKey) {P : Db → Prop}
    (replays : ∀ d, P d → Replays body row d) (d : Db) :
    (engine faults).Leads (fun _ d' => P d') (fun o ws _ => ToldDraft faults (replayedDraft body row) o ws)
      d [] ((engine faults).program (.draft (.request body) tag)) := by
  change (engine faults).Leads _ _ _ _ (draftServer.store tag (.request body))
  rw [store_eq valid]
  refine query_leads ?_ fun d₁ now₁ authorized answer => ?_
  · rintro d₁ now₁ (fault | none) _
    · exact .faulty fault
    · exact absurd ((replays _ now₁).member.symm.trans none) nofun
  obtain rfl := Option.some.inj ((replays _ now₁).member.symm.trans answer)
  exact firstLookup_leads run key replays d₁

theorem told_executes {R : Db → Db → Prop} {answer : Outcome} {p : Prog Ret Outcome} {d : Db} {n : Nat} (refl : R d d)
    (leads : (engine false).Leads R (fun o ws _ => ToldDraft false answer o ws) d [] p) :
    ∃ n', (engine false).Executes d n [] p n' [] answer := by
  obtain ⟨n', ws', o, executed⟩ := executes_total p d n []
  obtain ⟨rfl | ⟨h, -⟩, rfl⟩ := leads.executes refl executed
  · exact ⟨n', executed⟩
  · cases h

structure AnsweredDraft (faults : Bool) (s : ManifestDatabase) (body : DraftRequest) (tag : Nat) (P : Db → Prop)
    (answer : Outcome) : Prop where
  returns : ∃ n', (engine false).Executes s.committed s.drawn [] (draftServer.store tag (.request body)) n' [] answer
  told : ∀ s', (engine faults).Along P ((engine faults).started s (.draft (.request body) tag)) s' → ∀ t o,
    s'.sessions[s.sessions.length]? = some t → t.rest = some (.pure o) → ToldDraft faults answer o t.writes

theorem replays_answered (empty : d₀.manifests = []) (reachable : (engine faults).Reachable d₀ n s)
    (valid : ValidRequest body) (mem : row ∈ s.committed.manifests)
    (keyed : Keyed body.runId body.context.idempotencyKey row) {P : Db → Prop} (now : P s.committed)
    (permitted : ∀ d, P d → MayDraft body d ∧ (replayedDraft body row = .existing row.version → Owns body d)) :
    AnsweredDraft faults s body tag P (replayedDraft body row) := by
  have key := keys_reachable empty reachable mem keyed.key
  have found := (unique_reachable empty reachable).findKey mem keyed.key
  have replays : ∀ d, findKey d row.runId body.context.idempotencyKey = some row ∧ P d → Replays body row d :=
    fun d h => ⟨h.1, (permitted d h.2).1, (permitted d h.2).2⟩
  refine ⟨?_, fun s' along t o session done => ?_⟩
  · exact told_executes ⟨found, now⟩ (draft_leads valid keyed.run key replays s.committed)
  · have kept : ∀ a b, (engine faults).Step a b →
        findKey a.committed row.runId body.context.idempotencyKey = some row →
        findKey b.committed row.runId body.context.idempotencyKey = some row :=
      fun a b step found => ((growing faults).step step).find?_eq_some found
    obtain ⟨-, along'⟩ := along.keeps (I := fun d => findKey d row.runId body.context.idempotencyKey = some row) kept found
    exact along'.answered (draft_leads valid keyed.run key replays) ⟨found, now⟩ session done

end Replays

section Underway

variable {body : DraftRequest} {tag : Nat} {row : Row}

structure Awaits (body : DraftRequest) (d : Db) : Prop extends Allowed body d where
  snapshot : ∃ run, Query.answer d (.snapshot body.runId body.context.workspaceId) = some (some run) ∧
    snapshotMatches body run = true

inductive Approaching (body : DraftRequest) (tag : Nat) : Bool → Prog Ret Outcome → Prop
  | arrived : Approaching body tag false (draftServer.store tag (.request body))
  | first : Approaching body tag false (firstLookup body tag)
  | snapshot : Approaching body tag false (validateDraft body (storeDraft body tag))
  | tools (tools : List String) : Approaching body tag false (runTools (storeDraft body tag) tools)
  | membership : Approaching body tag true (storeDraft body tag)
  | run : Approaching body tag true (lockDraftRun body)

inductive Answering (body : DraftRequest) : Prog Ret Outcome → Prop
  | owned (version : Nat) : Answering body (replayDraft body version true)
  | told {o : Outcome} (nothing : o.commits = false) : Answering body (.pure o)

def Unlocked (body : DraftRequest) (tag : Nat) (p : Prog Ret Outcome) : Prop :=
  (∃ validated, Approaching body tag validated p) ∨ Answering body p

def Placed (t : Session Call Ret Key Write Outcome) : Prop :=
  ∀ body tag p, t.call = .draft (.request body) tag → t.rest = some p →
    t.writes = [] ∧ Unlocked body tag p ∨ ∃ r, uuidIn body.runId = some r ∧ Key.run r ∈ t.held

def Unvalidated (o : Outcome) : Prop :=
  (∃ errors, o = .invalid errors) ∨ o = .refused 503 "Manifest validation unavailable"

def ToldUnderway (faults validated : Bool) (answer o : Outcome) (ws : List Write) : Prop :=
  ToldDraft faults answer o ws ∨ (validated = false ∧ Unvalidated o) ∧ ws = []

omit [Platform] in
theorem Allowed.mayDraft {d : Db} (h : Allowed body d) : MayDraft body d := by
  obtain ⟨w, u, hw, hu, may⟩ := h.role
  simp [MayDraft, Query.answer, hw, hu, may]

omit [Platform] in
theorem Allowed.owns {d : Db} (h : Allowed body d) : Owns body d := by
  obtain ⟨r, w, u, run, hr, hw, hu, owned, -⟩ := h.run
  simp [Owns, Query.answer, hr, hw, hu, owned]

omit [Platform] in
theorem Allowed.lockedMember {d : Db} (h : Allowed body d) :
    ∃ role, lockedMember d body.context.workspaceId body.context.userId = some role ∧ mayProvision role = true := by
  obtain ⟨w, u, hw, hu, may⟩ := h.role
  exact ⟨member d w u, by simp [Manifest.lockedMember, hw, hu], may⟩

omit [Platform] in
theorem Allowed.lockedRun {d : Db} (h : Allowed body d) :
    ∃ state version, lockedRun d body.runId body.context.workspaceId body.context.userId = some (some (state, version)) ∧
      state = "MANIFEST_CREATING" ∧ (version : Int) = body.expectedStateVersion := by
  obtain ⟨r, w, u, run, hr, hw, hu, owned, awaits⟩ := h.run
  exact ⟨run.state, run.stateVersion, by simp [Manifest.lockedRun, hr, hw, hu, owned], awaits⟩

structure Standing (body : DraftRequest) (row : Row) (d : Db) : Prop where
  found : findKey d row.runId body.context.idempotencyKey = some row
  awaits : Awaits body d

omit [Platform] in
theorem Standing.replays {d : Db} (h : Standing body row d) : Replays body row d :=
  ⟨h.found, h.awaits.mayDraft, fun _ => h.awaits.owns⟩

theorem last_leads (run : uuidIn body.runId = some row.runId)
    (key : textIn body.context.idempotencyKey = some body.context.idempotencyKey) (d : Db) :
    (engine faults).Leads (fun _ d' => Standing body row d') (fun o ws _ => ToldDraft faults (replayedDraft body row) o ws)
      d [] (selectExistingDraft body) := by
  refine existing_leads run key (fun d' now => now.found) (fun fault _ => .faulty fault)
    (fun none _ => ⟨Or.inl (replayedDraft_none none).symm, rfl⟩) fun d₁ content _ held => ?_
  exact fun _ _ => ⟨Or.inl (replayedDraft_some held).symm, rfl⟩

theorem lockDraftRun_leads (run : uuidIn body.runId = some row.runId)
    (key : textIn body.context.idempotencyKey = some body.context.idempotencyKey) (d : Db) :
    (engine faults).Leads (fun _ d' => Standing body row d') (fun o ws _ => ToldDraft faults (replayedDraft body row) o ws)
      d [] (lockDraftRun body) := by
  refine reading_leads (fun _ _ _ _ _ run => run) ?_ fun d₁ now₁ found locked => ?_
  · rintro d₁ now₁ (fault | none) _
    · exact .faulty fault
    · obtain ⟨state, version, locked, -⟩ := now₁.awaits.lockedRun
      cases locked.symm.trans none
  · obtain ⟨state, version, locked', awaited⟩ := now₁.awaits.lockedRun
    obtain rfl := Option.some.inj (locked'.symm.trans locked)
    dsimp only
    rw [if_pos awaited]
    exact last_leads run key d₁

theorem storeDraft_replays (run : uuidIn body.runId = some row.runId)
    (key : textIn body.context.idempotencyKey = some body.context.idempotencyKey) (d : Db) :
    (engine faults).Leads (fun _ d' => Standing body row d') (fun o ws _ => ToldDraft faults (replayedDraft body row) o ws)
      d [] (storeDraft body tag) := by
  refine reading_leads (fun _ _ _ _ _ run => run) ?_ fun d₁ now₁ found locked => ?_
  · rintro d₁ now₁ (fault | none) _
    · exact .faulty fault
    · obtain ⟨role, locked, -⟩ := now₁.awaits.lockedMember
      cases locked.symm.trans none
  · obtain ⟨role, locked', may⟩ := now₁.awaits.lockedMember
    obtain rfl := Option.some.inj (locked'.symm.trans locked)
    rw [if_pos may]
    exact lockDraftRun_leads run key d₁

omit [Platform] in
theorem ToldDraft.underway {validated : Bool} {answer o : Outcome} {ws : List Write} (h : ToldDraft faults answer o ws) :
    ToldUnderway faults validated answer o ws := Or.inl h

theorem runTools_replays (run : uuidIn body.runId = some row.runId)
    (key : textIn body.context.idempotencyKey = some body.context.idempotencyKey) (tools : List String) (d : Db) :
    (engine faults).Leads (fun _ d' => Standing body row d')
      (fun o ws _ => ToldUnderway faults false (replayedDraft body row) o ws) d [] (runTools (storeDraft body tag) tools) := by
  induction tools generalizing d with
  | nil => exact (storeDraft_replays run key d).mono fun _ _ _ told => told.underway
  | cons tool tools ih =>
    intro d₁ now₁ n r vs n' ran
    obtain ⟨rfl, -⟩ := ran
    cases r with
    | error => exact fun _ _ => Or.inr ⟨⟨rfl, Or.inr rfl⟩, rfl⟩
    | ok result =>
      dsimp only
      split
      · exact ih d₁
      · exact fun _ _ => Or.inr ⟨⟨rfl, Or.inl ⟨result.errors, rfl⟩⟩, rfl⟩

theorem validateDraft_replays (run : uuidIn body.runId = some row.runId)
    (key : textIn body.context.idempotencyKey = some body.context.idempotencyKey) (d : Db) :
    (engine faults).Leads (fun _ d' => Standing body row d')
      (fun o ws _ => ToldUnderway faults false (replayedDraft body row) o ws) d [] (validateDraft body (storeDraft body tag)) := by
  refine query_leads ?_ fun d₁ now₁ found read => ?_
  · rintro d₁ now₁ - _
    exact Or.inr ⟨⟨rfl, Or.inr rfl⟩, rfl⟩
  · obtain ⟨own, read', same⟩ := now₁.awaits.snapshot
    obtain rfl := Option.some.inj (read'.symm.trans read)
    dsimp only
    rw [if_pos same]
    exact runTools_replays run key _ d₁

theorem Approaching.leads {validated : Bool} {p : Prog Ret Outcome} (approaching : Approaching body tag validated p)
    (valid : ValidRequest body) (run : uuidIn body.runId = some row.runId)
    (key : textIn body.context.idempotencyKey = some body.context.idempotencyKey) (d : Db) :
    (engine faults).Leads (fun _ d' => Standing body row d')
      (fun o ws _ => ToldUnderway faults validated (replayedDraft body row) o ws) d [] p := by
  have replays : ∀ d, Standing body row d → Replays body row d := fun _ now => now.replays
  cases approaching with
  | arrived => exact (draft_leads valid run key replays d).mono fun _ _ _ told => told.underway
  | first => exact (firstLookup_leads run key replays d).mono fun _ _ _ told => told.underway
  | snapshot => exact validateDraft_replays run key d
  | tools tools => exact runTools_replays run key tools d
  | membership => exact (storeDraft_replays run key d).mono fun _ _ _ told => told.underway
  | run => exact (lockDraftRun_leads run key d).mono fun _ _ _ told => told.underway

theorem statement_executes {d : Db} {n n' : Nat} {o : Op} {a : Answer o} {failure out : Outcome}
    {next : Answer o → Prog Ret Outcome} (run : exec false o d n (.ok a) [] n)
    (rest : (engine false).Executes d n [] (next a) n' [] out) :
    (engine false).Executes d n [] (statement o failure next) n' [] out := .op (.ok a) [] n run rest

theorem last_executes (run : uuidIn body.runId = some row.runId)
    (key : textIn body.context.idempotencyKey = some body.context.idempotencyKey) {d : Db}
    (now : Standing body row d) (n : Nat) :
    (engine false).Executes d n [] (selectExistingDraft body) n [] (replayedDraft body row) := by
  have existing := existing_found now.found run key
  cases held : body.content.bind jsonbIn with
  | none =>
    rw [held] at existing
    rw [replayedDraft_none held]
    exact .op (.error .other) [] n ⟨Or.inr ⟨Or.inr existing, rfl⟩, rfl, rfl⟩ (.pure _ _ _)
  | some content =>
    rw [held] at existing
    rw [replayedDraft_some held]
    exact statement_executes ⟨Or.inl ⟨_, existing, rfl⟩, rfl, rfl⟩ (.pure _ _ _)

theorem lockDraftRun_executes (run : uuidIn body.runId = some row.runId)
    (key : textIn body.context.idempotencyKey = some body.context.idempotencyKey) {d : Db}
    (now : Standing body row d) (n : Nat) :
    (engine false).Executes d n [] (lockDraftRun body) n [] (replayedDraft body row) := by
  obtain ⟨state, version, locked, awaited⟩ := now.awaits.lockedRun
  refine statement_executes (a := some (state, version)) ⟨Or.inl ⟨_, locked, rfl⟩, rfl, rfl⟩ ?_
  dsimp only
  rw [if_pos awaited]
  exact last_executes run key now n

theorem storeDraft_executes (run : uuidIn body.runId = some row.runId)
    (key : textIn body.context.idempotencyKey = some body.context.idempotencyKey) {d : Db}
    (now : Standing body row d) (n : Nat) :
    (engine false).Executes d n [] (storeDraft body tag) n [] (replayedDraft body row) := by
  obtain ⟨role, locked, may⟩ := now.awaits.lockedMember
  refine statement_executes (a := role) ⟨Or.inl ⟨_, locked, rfl⟩, rfl, rfl⟩ ?_
  rw [if_pos may]
  exact lockDraftRun_executes run key now n

theorem runTools_executes (run : uuidIn body.runId = some row.runId)
    (key : textIn body.context.idempotencyKey = some body.context.idempotencyKey) {d : Db}
    (now : Standing body row d) (n : Nat) (tools : List String) :
    (engine false).Executes d n [] (runTools (storeDraft body tag) tools) n [] (replayedDraft body row) := by
  induction tools with
  | nil => exact storeDraft_executes run key now n
  | cons tool tools ih => exact .op (.ok ⟨true, []⟩) [] n ⟨rfl, rfl⟩ ih

theorem validateDraft_executes (run : uuidIn body.runId = some row.runId)
    (key : textIn body.context.idempotencyKey = some body.context.idempotencyKey) {d : Db}
    (now : Standing body row d) (n : Nat) :
    (engine false).Executes d n [] (validateDraft body (storeDraft body tag)) n [] (replayedDraft body row) := by
  obtain ⟨own, read, same⟩ := now.awaits.snapshot
  refine statement_executes (a := some own) ⟨Or.inl ⟨_, read, rfl⟩, rfl, rfl⟩ ?_
  dsimp only
  rw [if_pos same]
  exact runTools_executes run key now n _

theorem Approaching.executes {validated : Bool} {p : Prog Ret Outcome} (approaching : Approaching body tag validated p)
    (valid : ValidRequest body) (run : uuidIn body.runId = some row.runId)
    (key : textIn body.context.idempotencyKey = some body.context.idempotencyKey) {d : Db}
    (now : Standing body row d) (n : Nat) :
    ∃ n', (engine false).Executes d n [] p n' [] (replayedDraft body row) := by
  have replays : ∀ d, Standing body row d → Replays body row d := fun _ now => now.replays
  cases approaching with
  | arrived => exact told_executes now (draft_leads valid run key replays d)
  | first => exact told_executes now (firstLookup_leads run key replays d)
  | snapshot => exact ⟨n, validateDraft_executes run key now n⟩
  | tools tools => exact ⟨n, runTools_executes run key now n tools⟩
  | membership => exact ⟨n, storeDraft_executes run key now n⟩
  | run => exact ⟨n, lockDraftRun_executes run key now n⟩

structure AnsweredUnderway (faults : Bool) (s : ManifestDatabase) (body : DraftRequest) (i : Nat) (validated : Bool)
    (p : Prog Ret Outcome) (answer : Outcome) : Prop where
  returns : ∃ n', (engine false).Executes s.committed s.drawn [] p n' [] answer
  told : ∀ s', (engine faults).Along (Awaits body) s s' → ∀ t o, s'.sessions[i]? = some t → t.rest = some (.pure o) →
    ToldUnderway faults validated answer o t.writes

theorem Approaching.answered (empty : d₀.manifests = []) (reachable : (engine faults).Reachable d₀ n s)
    (valid : ValidRequest body) (mem : row ∈ s.committed.manifests)
    (keyed : Keyed body.runId body.context.idempotencyKey row) (awaits : Awaits body s.committed) {i : Nat}
    {c : Call} {held : Set Key} {validated : Bool} {p : Prog Ret Outcome}
    (session : s.sessions[i]? = some ⟨c, held, [], some p⟩) (approaching : Approaching body tag validated p) :
    AnsweredUnderway faults s body i validated p (replayedDraft body row) := by
  have key := keys_reachable empty reachable mem keyed.key
  have found := (unique_reachable empty reachable).findKey mem keyed.key
  refine ⟨approaching.executes valid keyed.run key ⟨found, awaits⟩ s.drawn, fun s' along t o session' done => ?_⟩
  have kept : ∀ a b, (engine faults).Step a b →
      findKey a.committed row.runId body.context.idempotencyKey = some row →
      findKey b.committed row.runId body.context.idempotencyKey = some row :=
    fun a b step found => ((growing faults).step step).find?_eq_some found
  obtain ⟨-, along'⟩ := along.keeps (I := fun d => findKey d row.runId body.context.idempotencyKey = some row) kept found
  have standing : (engine faults).Along (Standing body row) s s' :=
    Relation.ReflTransGen.mono (fun a b step => ⟨step.1, step.2.1, step.2.2⟩) _ _ along'
  exact standing.told (fun p' rest => Option.some.inj rest ▸ approaching.leads valid keyed.run key s.committed)
    ⟨found, awaits⟩ session session' done

def Moves (faults : Bool) (body : DraftRequest) (tag : Nat) (d : Db) (p : Prog Ret Outcome) : Prop :=
  ∀ o k, p = .op o k → ∀ n r ws n', exec faults o d n r ws n' →
    ws = [] ∧ Unlocked body tag (k r) ∨ ∃ run, uuidIn body.runId = some run ∧ Key.run run ∈ locks o d

theorem statement_moves {d : Db} {o : Op} {failure : Outcome} {next : Answer o → Prog Ret Outcome}
    (silent : ∀ n r ws n', exec faults o d n r ws n' → ws = []) (nothing : failure.commits = false)
    (h : ∀ n a ws n', exec faults o d n (.ok a) ws n' →
      Unlocked body tag (next a) ∨ ∃ run, uuidIn body.runId = some run ∧ Key.run run ∈ locks o d) :
    Moves faults body tag d (statement o failure next) := by
  intro o' k same n r ws n' run
  cases same
  cases r with
  | error e => exact Or.inl ⟨silent _ _ _ _ run, Or.inr (.told nothing)⟩
  | ok a => exact (h n a ws n' run).imp_left fun unlocked => ⟨silent _ _ _ _ run, unlocked⟩

theorem query_moves {d : Db} {q : Query} {failure : Outcome} {next : q.Answer → Prog Ret Outcome}
    (nothing : failure.commits = false) (h : ∀ a, Unlocked body tag (next a)) :
    Moves faults body tag d (statement (.select q) failure next) :=
  statement_moves (fun _ _ _ _ run => run.2.1) nothing fun _ a _ _ _ => Or.inl (h a)

theorem pure_moves (d : Db) (o : Outcome) : Moves faults body tag d (.pure o) := by
  intro _ _ same
  cases same

theorem store_moves (d : Db) : Moves faults body tag d (draftServer.store tag (.request body)) := by
  unfold draftServer.store readRequest
  dsimp only
  split
  · exact pure_moves d _
  · split
    · exact pure_moves d _
    · refine query_moves rfl fun authorized => ?_
      split
      · exact Or.inl ⟨false, .first⟩
      · exact Or.inr (.told rfl)

theorem firstLookup_moves (d : Db) : Moves faults body tag d (firstLookup body tag) := by
  refine query_moves rfl fun found => ?_
  cases found with
  | none => exact Or.inl ⟨false, .snapshot⟩
  | some found =>
    obtain ⟨version, same⟩ := found
    cases same with
    | true => exact Or.inr (.owned version)
    | false => exact Or.inr (.told rfl)

theorem validateDraft_moves (d : Db) : Moves faults body tag d (validateDraft body (storeDraft body tag)) := by
  refine query_moves rfl fun found => ?_
  cases found with
  | none => exact Or.inr (.told rfl)
  | some run =>
    dsimp only
    split
    · exact Or.inl ⟨false, .tools _⟩
    · exact Or.inr (.told rfl)

theorem storeDraft_moves (d : Db) : Moves faults body tag d (storeDraft body tag) := by
  refine statement_moves (fun _ _ _ _ run => run.2.1) rfl fun _ role _ _ _ => Or.inl ?_
  split
  · exact Or.inl ⟨true, .run⟩
  · exact Or.inr (.told rfl)

theorem runTools_moves (tools : List String) (d : Db) : Moves faults body tag d (runTools (storeDraft body tag) tools) := by
  cases tools with
  | nil => exact storeDraft_moves d
  | cons tool tools =>
    refine statement_moves (fun _ _ _ _ run => run.1) rfl fun _ result _ _ _ => Or.inl ?_
    split
    · exact Or.inl ⟨false, .tools tools⟩
    · exact Or.inr (.told rfl)

theorem lockDraftRun_moves (d : Db) : Moves faults body tag d (lockDraftRun body) := by
  refine statement_moves (fun _ _ _ _ run => run.2.1) rfl fun _ found _ _ run => ?_
  cases found with
  | none => exact Or.inl (Or.inr (.told rfl))
  | some found =>
    have locked := answers_ok run.1
    simp only [lockedRun, Option.bind_eq_bind, Option.bind_eq_some_iff, Option.some.injEq] at locked
    obtain ⟨r, hr, w, hw, u, hu, owned⟩ := locked
    obtain ⟨row, owned, -⟩ := Option.map_eq_some_iff.mp owned
    exact Or.inr ⟨r, hr, r, w, u, hr, hw, hu, Option.isSome_of_eq_some owned, rfl⟩

theorem Unlocked.moves {p : Prog Ret Outcome} (h : Unlocked body tag p) (d : Db) : Moves faults body tag d p := by
  obtain ⟨validated, approaching⟩ | answering := h
  · cases approaching with
    | arrived => exact store_moves d
    | first => exact firstLookup_moves d
    | snapshot => exact validateDraft_moves d
    | tools tools => exact runTools_moves tools d
    | membership => exact storeDraft_moves d
    | run => exact lockDraftRun_moves d
  · cases answering with
    | owned version =>
      refine query_moves rfl fun owned => Or.inr (.told ?_)
      cases owned
      · rfl
      · rfl
    | told => exact pure_moves d _

theorem Unlocked.stores_nothing {o : Outcome} (h : Unlocked body tag (.pure o)) : o.commits = false := by
  have statement : ∀ {q : Op} {failure : Outcome} {next : Answer q → Prog Ret Outcome},
      statement q failure next = .pure o → o.commits = false := by
    intro q failure next same
    cases same
  generalize told : Prog.pure o = p at h
  obtain ⟨validated, approaching⟩ | answering := h
  · cases approaching with
    | arrived =>
      unfold draftServer.store readRequest at told
      dsimp only at told
      split at told
      · cases told
        rfl
      · split at told
        · cases told
          rfl
        · exact statement told.symm
    | tools tools =>
      cases tools with
      | nil => exact statement told.symm
      | cons tool tools => exact statement told.symm
    | first | snapshot | membership | run => exact statement told.symm
  · cases answering with
    | owned version => exact statement told.symm
    | told nothing =>
      cases told
      exact nothing

theorem placed_reachable (reachable : (engine faults).Reachable d₀ n s) : ∀ t ∈ s.sessions, Placed t := by
  refine reachable.sessions (fun c body tag p call rest => ?_) (fun t body tag p call rest => ?_) ?_
  · cases call
    cases rest
    exact Or.inl ⟨rfl, Or.inl ⟨false, .arrived⟩⟩
  · cases rest
  · rintro t o k d n r ws n' placed next run body tag p call rest
    cases rest
    rcases placed body tag _ call next with ⟨silent, unlocked⟩ | ⟨run', known, locked⟩
    · rcases unlocked.moves _ o k rfl n r ws n' run with ⟨rfl, unlocked⟩ | ⟨run', known, locked⟩
      · exact Or.inl ⟨by rw [silent, List.append_nil], unlocked⟩
      · exact Or.inr ⟨run', known, Or.inr locked⟩
    · exact Or.inr ⟨run', known, Or.inl locked⟩

theorem CommitOf.others (empty : d₀.manifests = []) {i : Nat} {t : Session Call Ret Key Write Outcome} {o : Outcome}
    (h : CommitOf faults s s' i t o) (reachable : (engine faults).Reachable d₀ n s) (call : t.call = .draft (.request body) tag)
    {j : Nat} {u : Session Call Ret Key Write Outcome} {body' : DraftRequest} {tag' : Nat} {p : Prog Ret Outcome}
    (other : s.sessions[j]? = some u) (apart : j ≠ i) (call' : u.call = .draft (.request body') tag')
    (same : uuidIn body'.runId = uuidIn body.runId) (rest : u.rest = some p) :
    u.writes = [] ∧ Unlocked body' tag' p := by
  have holds := (locking faults).holds_reachable (inv_of_empty empty n) reachable
  have placed := placed_reachable reachable
  rcases placed t (List.mem_of_getElem? h.session) body tag _ call h.done with ⟨-, unlocked⟩ | ⟨run, known, locked⟩
  · exact absurd h.commits (Bool.eq_false_iff.mp unlocked.stores_nothing)
  · rcases placed u (List.mem_of_getElem? other) body' tag' p call' rest with unlocked | ⟨run', known', locked'⟩
    · exact unlocked
    · obtain rfl := Option.some.inj (known.symm.trans (same.symm.trans known'))
      exact absurd locked' (Set.disjoint_left.mp (holds.exclusive i j t u h.session other apart.symm) locked)

end Underway

end Provisr.Backend.Manifest
