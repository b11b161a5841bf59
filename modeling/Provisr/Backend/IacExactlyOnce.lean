import Provisr.Backend.IacGeneration
import Provisr.Foundation.Sublists

namespace Provisr.Backend.Iac

open Provisr.Foundation
open Provisr.Orchestrator (TerraformFile Platform ManifestRow ArtifactRow)
open Provisr.Audit (AuditRow)

variable [Platform] {faults : Bool} {render : Render}

abbrev IacDatabase := Foundation.Database Call Ret Key IacDb Write Outcome

def growing (faults : Bool) (render : Render) : Engine.Growing (engine faults render) where
  grows d d' := d.artifacts <+: d'.artifacts ∧ d.manifests <+: d'.manifests
  refl d := ⟨List.prefix_refl _, List.prefix_refl _⟩
  trans _ _ _ h h' := ⟨h.1.trans h'.1, h.2.trans h'.2⟩
  apply w d := by
    cases w with
    | role | run | audit => exact ⟨List.prefix_refl _, List.prefix_refl _⟩
    | manifest row => exact ⟨List.prefix_refl _, List.prefix_append _ _⟩
    | artifact row => exact ⟨List.prefix_append _ _, List.prefix_refl _⟩

section Leads

variable {R : IacDb → IacDb → Prop} {Q : Outcome → List Write → IacDb → Prop} {d : IacDb} {ws : List Write}

theorem statement_leads {o : Op} {next : Answer o → Prog Ret Outcome} (fails : ∀ ws d, Q .unavailable ws d)
    (h : ∀ d', R d d' → ∀ n r vs n', exec faults o ((engine faults render).view ws d') n (.ok r) vs n' →
      (engine faults render).Leads R Q d' (ws ++ vs) (next r)) :
    (engine faults render).Leads R Q d ws (statement o next) :=
  .orEnd (fun _ => fails) h

theorem answers_leads {o : Op} {next : Answer o → Prog Ret Outcome} {answer : IacDb → Answer o}
    (reads : ∀ d n r vs n', exec faults o d n r vs n' → answers faults (answer d) r ∧ vs = [] ∧ n' = n)
    (fails : faults = true → ∀ d, Q .unavailable ws d)
    (h : ∀ d', R d d' → ∀ r, answer ((engine faults render).view ws d') = r →
      (engine faults render).Leads R Q d' ws (next r)) :
    (engine faults render).Leads R Q d ws (statement o next) := by
  intro d' related n r vs n' run
  obtain ⟨answered, rfl, -⟩ := reads _ _ _ _ _ run
  rw [List.append_nil]
  cases r with
  | error e =>
    obtain h | ⟨faulty, -⟩ := answered
    · cases h
    · exact fun d'' _ => fails faulty d''
  | ok r => exact h d' related r (answers_ok answered).symm

theorem select_leads {q : Query} {next : q.Answer → Prog Ret Outcome}
    (fails : faults = true → ∀ d, Q .unavailable ws d)
    (h : ∀ d', R d d' → ∀ r, q.answer ((engine faults render).view ws d') = r →
      (engine faults render).Leads R Q d' ws (next r)) :
    (engine faults render).Leads R Q d ws (statement (.select q) next) :=
  answers_leads (fun _ _ _ _ _ run => run) fails h

theorem lockRun_leads {id workspaceId : String} {next : Option RunRow → Prog Ret Outcome}
    (fails : faults = true → ∀ d, Q .unavailable ws d)
    (h : ∀ d', R d d' → ∀ r, selectRun ((engine faults render).view ws d') id workspaceId = r →
      (engine faults render).Leads R Q d' ws (next r)) :
    (engine faults render).Leads R Q d ws (statement (.lockRun id workspaceId) next) :=
  answers_leads (fun _ _ _ _ _ run => run) fails h

theorem appendEvent_leads {preimage : Audit.Entry → String} {columns : Option String → Audit.Entry}
    {next : Unit → Prog Ret Outcome} (fails : ∀ ws d, Q .unavailable ws d)
    (trans : ∀ d d' d'', R d d' → R d' d'' → R d d'')
    (h : ∀ d' previous hash seq, R d d' →
      (engine faults render).Leads R Q d' (ws ++ [.audit ((columns previous).row hash seq)]) (next ())) :
    (engine faults render).Leads R Q d ws (within (Audit.appendEvent preimage columns) next) := by
  refine Audit.appendEvent_leads IacDb.audits .audit (fun o d ws k rest => ?_) trans h
  refine statement_leads fails fun d' related n a vs n' run => ?_
  obtain ⟨b, rows, same, run, rfl⟩ | ⟨failed, -⟩ := run
  · obtain rfl := Except.ok.inj same
    exact rest d' related n a rows n' run
  · cases failed

end Leads

def Foreign : Write → Prop
  | .artifact _ => False
  | .audit row => row.resourceType ≠ "iac_artifact"
  | _ => True

def Wrote : Call → Outcome → List Write → IacDb → Prop
  | .other _, o, ws, _ => o.commits = true → ∀ w ∈ ws, Foreign w
  | .generate request _, .created a, ws, d => ∃ input m event, validRequest request = some input ∧
      ws = [.artifact (rowOf input a), .audit event] ∧ event.resourceType = "iac_artifact" ∧ event.resourceId = a.id ∧
      m ∈ d.manifests ∧ m.id = a.manifestId ∧ m.runId = a.runId ∧ m.version = a.manifestVersion
  | .generate _ _, .done, _, _ => False
  | .generate _ _, _, _, _ => True

section Writes

variable {request input : Request} {newId : String} {run : RunRow} {m : ManifestRow} {d : IacDb}

theorem Generate_eq {request : Request} (valid : validRequest request = some input) :
    DBGenerator.Generate render newId request =
      statement (.select (.role input.context.workspaceId input.context.userId)) fun role =>
        if mayProvision role then selectLocked render input newId
        else refuse 403 "forbidden" "Provisioning permission required" := by
  rw [DBGenerator.Generate, valid]

theorem create_eq {files : List TerraformFile} {resourceCount : Nat} (rendered : render m.content = .ok (files, resourceCount))
    (size : (Artifact.construct newId input m.version files resourceCount).tooLarge = false) :
    create render input newId m =
      statement (.insertArtifact (rowOf input (Artifact.construct newId input m.version files resourceCount))) fun _ =>
        within (appendAudit input (Artifact.construct newId input m.version files resourceCount)) fun _ =>
          .pure (.created (Artifact.construct newId input m.version files resourceCount)) := by
  unfold create
  rw [rendered]
  dsimp only
  rw [size]
  rfl

theorem create_leads (valid : validRequest request = some input) (mem : m ∈ d.manifests) (id : m.id = input.manifestId)
    (runId : m.runId = input.context.requestId) :
    (engine faults render).Leads (growing faults render).grows (Wrote (.generate request newId)) d []
      (create render input newId m) := by
  unfold create
  cases render m.content with
  | error failure => exact fun _ _ => trivial
  | ok rendered =>
    dsimp only
    split
    · exact fun _ _ => trivial
    · refine statement_leads (fun _ _ => trivial) fun d₁ grown₁ _ _ vs _ executed => ?_
      obtain ⟨⟨-, -, rfl⟩ | ⟨h, -⟩, -⟩ := executed
      · refine appendEvent_leads (fun _ _ => trivial) (growing faults render).trans fun d₂ previous hash seq grown₂ => ?_
        intro d₃ grown₃
        exact ⟨input, m, _, valid, rfl, rfl, rfl, grown₃.2.subset (grown₂.2.subset (grown₁.2.subset mem)), id, runId, rfl⟩
      · cases h

theorem selectExisting_leads (valid : validRequest request = some input) (mem : m ∈ d.manifests)
    (id : m.id = input.manifestId) (runId : m.runId = input.context.requestId) :
    (engine faults render).Leads (growing faults render).grows (Wrote (.generate request newId)) d []
      (selectExisting render input newId run m) := by
  have fails : faults = true → ∀ d, Wrote (.generate request newId) .unavailable [] d := fun _ _ => trivial
  unfold selectExisting
  split
  · refine select_leads fails fun d₁ grown₁ row _ => ?_
    cases row with
    | some row =>
      change (engine faults render).Leads _ _ _ _ (replay input row)
      unfold replay
      split
      · exact fun _ _ => trivial
      · split
        · exact fun _ _ => trivial
        · exact fun _ _ => trivial
    | none =>
      change (engine faults render).Leads _ _ _ _ (requireNew render input newId run m)
      unfold requireNew
      split
      · exact fun _ _ => trivial
      · refine select_leads fails fun d₂ grown₂ found _ => ?_
        cases found with
        | some row => exact fun _ _ => trivial
        | none => exact create_leads valid (grown₂.2.subset (grown₁.2.subset mem)) id runId
  · exact fun _ _ => trivial

theorem generate_leads (request : Request) (newId : String) (d : IacDb) :
    (engine faults render).Leads (growing faults render).grows (Wrote (.generate request newId)) d []
      (DBGenerator.Generate render newId request) := by
  have fails : faults = true → ∀ d, Wrote (.generate request newId) .unavailable [] d := fun _ _ => trivial
  have refuses : ∀ d status code message, (engine faults render).Leads (growing faults render).grows
      (Wrote (.generate request newId)) d [] (refuse status code message) := fun _ _ _ _ _ _ => trivial
  unfold DBGenerator.Generate
  cases valid : validRequest request with
  | none => exact refuses _ _ _ _
  | some input =>
    refine select_leads fails fun d₁ _ role _ => ?_
    split
    · refine lockRun_leads fails fun d₂ _ row _ => ?_
      cases row with
      | none => exact refuses _ _ _ _
      | some run =>
        refine select_leads fails fun d₃ _ manifest found => ?_
        cases manifest with
        | none => exact refuses _ _ _ _
        | some m =>
          have stored : m ∈ d₃.manifests ∧ m.id = input.manifestId ∧ m.runId = input.context.requestId := by
            have facts := List.find?_some found
            rw [Bool.and_eq_true, beq_iff_eq, beq_iff_eq] at facts
            exact ⟨List.mem_of_find?_eq_some found, facts⟩
          exact selectExisting_leads valid stored.1 stored.2.1 stored.2.2
    · exact refuses _ _ _ _

theorem perform_leads (all deeds : List Deed) (d : IacDb) {ws : List Write} (foreign : ∀ w ∈ ws, Foreign w) :
    (engine faults render).Leads (growing faults render).grows
      (Wrote (.other all)) d ws (perform deeds) := by
  have one : ∀ {ws : List Write} {w : Write}, (∀ w ∈ ws, Foreign w) → Foreign w → ∀ v ∈ ws ++ [w], Foreign v := by
    intro ws w before own v hv
    rcases List.mem_append.mp hv with hv | hv
    · exact before v hv
    · exact List.mem_singleton.mp hv ▸ own
  induction deeds generalizing d ws with
  | nil => exact fun _ _ _ => foreign
  | cons deed rest ih =>
    cases deed with
    | append preimage columns other =>
      exact appendEvent_leads (fun _ _ h => nomatch h) (growing faults render).trans fun d' previous hash seq _ =>
        ih d' (one foreign (other previous))
    | setRole workspaceId userId role =>
      refine statement_leads (fun _ _ h => nomatch h) fun d' _ _ _ vs _ run => ?_
      obtain ⟨⟨-, rfl⟩ | ⟨h, -⟩, -⟩ := run
      · exact ih d' (one foreign trivial)
      · cases h
    | writeRun id row =>
      refine statement_leads (fun _ _ h => nomatch h) fun d' _ _ _ vs _ run => ?_
      obtain ⟨⟨-, rfl⟩ | ⟨h, -⟩, -⟩ := run
      · exact ih d' (one foreign trivial)
      · cases h
    | storeManifest row =>
      refine statement_leads (fun _ _ h => nomatch h) fun d' _ _ _ vs _ run => ?_
      obtain ⟨⟨-, rfl⟩ | ⟨h, -⟩, -⟩ := run
      · exact ih d' (one foreign trivial)
      · cases h

theorem program_leads (c : Call) (d : IacDb) :
    (engine faults render).Leads (growing faults render).grows (Wrote c) d [] ((engine faults render).program c) := by
  cases c with
  | generate request newId => exact generate_leads request newId d
  | other deeds => exact perform_leads deeds deeds d fun w hw => absurd hw List.not_mem_nil

end Writes

def generated (d : IacDb) : List AuditRow := d.audits.filter fun e => e.resourceType == "iac_artifact"

structure Stored (row : ArtifactRow) (a : Artifact) : Prop where
  id : row.id = a.id
  runId : row.runId = a.runId
  manifestId : row.manifestId = a.manifestId
  type : row.type = .terraform
  generation : row.generation = Json.jsonb a.json

structure Creation (input : Request) (a : Artifact) (d d' : IacDb) : Prop where
  artifacts : d'.artifacts = d.artifacts ++ [rowOf input a]
  event : ∃ event, generated d' = generated d ++ [event] ∧ event.resourceId = a.id
  manifest : ∃ m ∈ d.manifests, m.id = a.manifestId ∧ m.runId = a.runId ∧ m.version = a.manifestVersion
  run : Generating a d

def Untouched (d d' : IacDb) : Prop := d'.artifacts = d.artifacts ∧ generated d' = generated d

structure Recorded (d : IacDb) : Prop where
  single : ∀ e, (withEntry e d.artifacts).length ≤ 1
  audited : (generated d).map (fun e => e.resourceId) = d.artifacts.map ArtifactRow.id
  stored : ∀ row ∈ d.artifacts, ∃ a, Stored row a

section Record

omit [Platform]

theorem Recorded.same {d : IacDb} (h : Recorded d) {row row' : ArtifactRow} (mem : row ∈ d.artifacts)
    (mem' : row' ∈ d.artifacts) {e : Entry} (he : e ∈ entries row) (he' : e ∈ entries row') : row = row' := by
  have both : ∀ {r}, r ∈ d.artifacts → e ∈ entries r → r ∈ withEntry e d.artifacts :=
    fun hr he => List.mem_filter.mpr ⟨hr, decide_eq_true he⟩
  have first := both mem he
  have second := both mem' he'
  match hl : withEntry e d.artifacts, h.single e with
  | [], _ =>
    rw [hl] at first
    cases first
  | [r], _ =>
    rw [hl] at first second
    rw [List.mem_singleton.mp first, List.mem_singleton.mp second]

theorem entries_key (row : ArtifactRow) : .generationKey row.runId row.idempotencyKey ∈ entries row := by
  simp [entries]

theorem entries_manifest {row : ArtifactRow} (h : row.type = .terraform) :
    .manifestGeneration row.runId row.manifestId ∈ entries row := by
  simp [entries, h]

theorem entries_apart {rows : List ArtifactRow} (h : ∀ e, (withEntry e rows).length ≤ 1) :
    rows.Pairwise fun a b => ∀ e ∈ entries a, e ∉ entries b := by
  refine (pairwise_of_single h).imp fun apart e he he' => ?_
  exact apart e (decide_eq_true he) (decide_eq_true he')

theorem Recorded.creation {input : Request} {a : Artifact} {d d' : IacDb} (h : Recorded d)
    (creation : Creation input a d d') (single : ∀ e, (withEntry e d'.artifacts).length ≤ 1) : Recorded d' := by
  obtain ⟨event, events, about⟩ := creation.event
  refine ⟨single, ?_, ?_⟩
  · rw [events, creation.artifacts, List.map_append, List.map_append, h.audited, List.map_singleton, List.map_singleton, about]
    rfl
  · intro row hrow
    rw [creation.artifacts] at hrow
    rcases List.mem_append.mp hrow with hrow | hrow
    · exact h.stored row hrow
    · rw [List.mem_singleton.mp hrow]
      exact ⟨a, rfl, rfl, rfl, rfl, rfl⟩

theorem Recorded.untouched {d d' : IacDb} (h : Recorded d) (same : Untouched d d') : Recorded d' := by
  obtain ⟨artifacts, events⟩ := same
  refine ⟨?_, ?_, ?_⟩
  · rw [artifacts]
    exact h.single
  · rw [artifacts, events]
    exact h.audited
  · rw [artifacts]
    exact h.stored

end Record

section Runs

variable {d₀ : IacDb} {n : Nat} {s s' : IacDatabase}

structure Fresh (d : IacDb) : Prop where
  artifacts : d.artifacts = []
  events : generated d = []

omit [Platform] in
theorem Fresh.recorded {d : IacDb} (h : Fresh d) : Recorded d := by
  refine ⟨fun e => ?_, ?_, ?_⟩
  · rw [h.artifacts]
    exact Nat.zero_le 1
  · rw [h.artifacts, h.events]
    rfl
  · rw [h.artifacts]
    exact fun row hrow => absurd hrow List.not_mem_nil

theorem Fresh.inv {d : IacDb} (h : Fresh d) (n : Nat) : (locking faults render).Inv d n := by
  intro x
  cases x with
  | run id => exact Nat.zero_le 1
  | entry e => exact h.recorded.single e
  | advisory key => exact Nat.zero_le 1

theorem view_foreign {ws : List Write} (foreign : ∀ w ∈ ws, Foreign w) (d : IacDb) :
    Untouched d ((engine faults render).view ws d) := by
  induction ws generalizing d with
  | nil => exact ⟨rfl, rfl⟩
  | cons w ws ih =>
    obtain ⟨artifacts, events⟩ := ih (fun v hv => foreign v (List.mem_cons_of_mem w hv)) (apply w d)
    have first : Untouched d (apply w d) := by
      have own := foreign w List.mem_cons_self
      cases w with
      | role | run | manifest => exact ⟨rfl, rfl⟩
      | artifact row => exact own.elim
      | audit row =>
        have other : row.resourceType ≠ "iac_artifact" := own
        refine ⟨rfl, ?_⟩
        change (d.audits ++ [row]).filter _ = d.audits.filter _
        rw [List.filter_append, List.filter_cons_of_neg (by simpa using other), List.filter_nil, List.append_nil]
    exact ⟨artifacts.trans first.1, events.trans first.2⟩

-- Nothing but a call that ends in a new artifact touches the artifacts and their audit events.
theorem step_cases (fresh : Fresh d₀) (reachable : (engine faults render).Reachable d₀ n s)
    (step : (engine faults render).Step s s') : Untouched s.committed s'.committed ∨
      ∃ (i : Nat) (t : Session Call Ret Key Write Outcome) (request : Request) (newId : String) (input : Request)
        (a : Artifact), s.sessions[i]? = some t ∧ t.call = .generate request newId ∧
        t.rest = some (.pure (.created a)) ∧ validRequest request = some input ∧
        Creation input a s.committed s'.committed := by
  cases step with
  | start | statement | rollback => exact Or.inl ⟨rfl, rfl⟩
  | commit i t o session done ok =>
    have wrote := Engine.Growing.commit program_leads reachable session done
    have holds := (locking faults render).holds_reachable (fresh.inv n) reachable
    have settled := (holds.sessions i t session).wp _ done _ _ (Protection.Rely.refl _ _ _) le_rfl ok
    obtain ⟨call, held, ws, rest⟩ := t
    cases call with
    | other deeds => exact Or.inl (view_foreign (wrote ok) s.committed)
    | generate request newId =>
      cases o with
      | created a =>
        obtain ⟨input, m, event, valid, rfl, type, about, mem, id, runId, version⟩ := wrote
        refine Or.inr ⟨i, _, request, newId, input, a, session, rfl, done, valid, rfl, ⟨event, ?_, about⟩,
          ⟨m, mem, id, runId, version⟩, settled.2 a rfl⟩
        change (s.committed.audits ++ [event]).filter _ = s.committed.audits.filter _ ++ [event]
        rw [List.filter_append, List.filter_cons_of_pos (by simpa using type), List.filter_nil]
      | done => exact absurd wrote id
      | stored a => cases ok
      | failed f => cases ok
      | unavailable => cases ok

theorem recorded_reachable (fresh : Fresh d₀) (reachable : (engine faults render).Reachable d₀ n s) :
    Recorded s.committed := by
  induction reachable with
  | refl => exact fresh.recorded
  | @tail b c reached step ih =>
    rcases step_cases fresh reached step with same | ⟨i, t, request, newId, input, a, -, -, -, -, creation⟩
    · exact ih.untouched same
    · have holds := ((locking faults render).holds_reachable (fresh.inv n) reached).step step
      exact ih.creation creation fun e => holds.inv (.entry e)

end Runs

section Answers

variable {input : Request}

structure Found (input : Request) (run : RunRow) (m : ManifestRow) (d : IacDb) : Prop where
  role : mayProvision (d.role input.context.workspaceId input.context.userId) = true
  run : selectRun d input.context.requestId input.context.workspaceId = some run
  manifest : Query.answer (.manifest input.manifestId input.context.requestId) d = some m

def RunFound (input : Request) (d : IacDb) : Prop := ∃ run m, Found input run m d

def ContextMatches (input : Request) (d : IacDb) : Prop :=
  ∃ run m, Found input run m d ∧ run.lock.matches input m.version = true

-- An artifact under the key of another manifest, or of the same manifest under another key.
structure Conflicts (input : Request) (row : ArtifactRow) : Prop where
  run : row.runId = input.context.requestId
  type : row.type = .terraform
  differs : row.idempotencyKey = input.context.idempotencyKey ∧ row.manifestId ≠ input.manifestId ∨
    row.manifestId = input.manifestId ∧ row.idempotencyKey ≠ input.context.idempotencyKey

def Replayed (faults : Bool) (a : Artifact) (o : Outcome) (ws : List Write) (_ : IacDb) : Prop :=
  (o = .stored a ∨ faults = true ∧ o = .unavailable) ∧ ws = []

def Refused (faults : Bool) (P : Prop) (o : Outcome) (ws : List Write) (_ : IacDb) : Prop :=
  ((∃ f, o = .failed f ∧ (P → f.status = 409)) ∨ faults = true ∧ o = .unavailable) ∧ ws = []

theorem manifest_kept {d d' : IacDb} (grown : (growing faults render).grows d d') {id runId : String} {m : ManifestRow}
    (h : Query.answer (.manifest id runId) d = some m) : Query.answer (.manifest id runId) d' = some m :=
  grown.2.find?_eq_some h

theorem byKey_kept {d d' : IacDb} (grown : (growing faults render).grows d d') {runId key : String} {row : ArtifactRow}
    (h : Query.answer (.byKey runId key) d = some row) : Query.answer (.byKey runId key) d' = some row :=
  grown.1.find?_eq_some h

def Replays (faults : Bool) (render : Render) (input : Request) (row : ArtifactRow) (d d' : IacDb) : Prop :=
  (growing faults render).grows d d' ∧ ContextMatches input d' ∧
    Query.answer (.byKey input.context.requestId input.context.idempotencyKey) d' = some row

theorem replay_leads {request : Request} (valid : validRequest request = some input) {row : ArtifactRow} {a : Artifact}
    (manifest : row.manifestId = input.manifestId) (generation : Artifact.unmarshal row.generation = some a) (newId : String)
    (d : IacDb) :
    (engine faults render).Leads (Replays faults render input row) (Replayed faults a) d []
      (DBGenerator.Generate render newId request) := by
  have fails : faults = true → ∀ d, Replayed faults a .unavailable [] d := fun faulty _ => ⟨Or.inr ⟨faulty, rfl⟩, rfl⟩
  rw [Generate_eq valid]
  refine select_leads fails fun d₁ now₁ role hrole => ?_
  obtain ⟨-, ⟨_, _, found₁, -⟩, -⟩ := now₁
  have allowed : mayProvision role = true := hrole ▸ found₁.role
  rw [if_pos allowed]
  refine lockRun_leads fails fun d₂ now₂ locked hlocked => ?_
  obtain ⟨-, ⟨run, m, found₂, matching⟩, -⟩ := now₂
  obtain rfl := found₂.run.symm.trans hlocked
  refine select_leads fails fun d₃ now₃ selected hselected => ?_
  obtain rfl := (manifest_kept now₃.1 found₂.manifest).symm.trans hselected
  change (engine faults render).Leads _ _ _ _ (selectExisting render input newId run m)
  unfold selectExisting
  rw [if_pos matching]
  refine select_leads fails fun d₄ now₄ existing hexisting => ?_
  obtain rfl := now₄.2.2.symm.trans hexisting
  change (engine faults render).Leads _ _ _ _ (replay input row)
  unfold replay
  rw [if_neg (not_not.mpr manifest), generation]
  exact fun _ _ => ⟨Or.inl rfl, rfl⟩

omit [Platform] in
theorem Conflicts.other_manifest {row found : ArtifactRow} (h : Conflicts input row) {d : IacDb} (recorded : Recorded d)
    (mem : row ∈ d.artifacts) (mem' : found ∈ d.artifacts) (runId : found.runId = input.context.requestId)
    (key : found.idempotencyKey = input.context.idempotencyKey) : found.manifestId ≠ input.manifestId := by
  intro same
  have run : row.runId = found.runId := h.run.trans runId.symm
  rcases h.differs with ⟨hkey, hmanifest⟩ | ⟨hmanifest, hkey⟩
  · have entry : Entry.generationKey row.runId row.idempotencyKey ∈ entries found := by
      rw [run, hkey, ← key]
      exact entries_key found
    obtain rfl := recorded.same mem mem' (entries_key row) entry
    exact hmanifest same
  · obtain ⟨a, stored⟩ := recorded.stored found mem'
    have entry : Entry.manifestGeneration row.runId row.manifestId ∈ entries found := by
      rw [run, hmanifest, ← same]
      exact entries_manifest stored.type
    obtain rfl := recorded.same mem mem' (entries_manifest h.type) entry
    exact hkey key

def Clashes (faults : Bool) (render : Render) (P : Prop) (input : Request) (row : ArtifactRow) (d d' : IacDb) : Prop :=
  (growing faults render).grows d d' ∧ (P → RunFound input d') ∧ row ∈ d'.artifacts ∧ Recorded d'

theorem conflict_leads {request : Request} (valid : validRequest request = some input) {row : ArtifactRow}
    (conflicts : Conflicts input row) (P : Prop) (newId : String) (d : IacDb) :
    (engine faults render).Leads (Clashes faults render P input row) (Refused faults P) d []
      (DBGenerator.Generate render newId request) := by
  have fails : faults = true → ∀ d, Refused faults P .unavailable [] d := fun faulty _ => ⟨Or.inr ⟨faulty, rfl⟩, rfl⟩
  have conflict : ∀ d code message, (engine faults render).Leads (Clashes faults render P input row) (Refused faults P) d []
      (refuse 409 code message) := fun _ _ _ _ _ => ⟨Or.inl ⟨_, rfl, fun _ => rfl⟩, rfl⟩
  have absent : ∀ d status code message, ¬ P → (engine faults render).Leads (Clashes faults render P input row)
      (Refused faults P) d [] (refuse status code message) :=
    fun _ _ _ _ none _ _ => ⟨Or.inl ⟨_, rfl, fun h => absurd h none⟩, rfl⟩
  rw [Generate_eq valid]
  refine select_leads fails fun d₁ now₁ role hrole => ?_
  split
  · refine lockRun_leads fails fun d₂ now₂ locked hlocked => ?_
    cases locked with
    | none =>
      refine absent _ _ _ _ fun present => ?_
      obtain ⟨run, m, found⟩ := now₂.2.1 present
      exact nomatch found.run.symm.trans hlocked
    | some run =>
      refine select_leads fails fun d₃ now₃ selected hselected => ?_
      cases selected with
      | none =>
        refine absent _ _ _ _ fun present => ?_
        obtain ⟨run, m, found⟩ := now₃.2.1 present
        exact nomatch found.manifest.symm.trans hselected
      | some m =>
        change (engine faults render).Leads _ _ _ _ (selectExisting render input newId run m)
        unfold selectExisting
        split
        · refine select_leads fails fun d₄ now₄ existing hexisting => ?_
          obtain ⟨-, -, mem, recorded⟩ := now₄
          cases existing with
          | some found =>
            change (engine faults render).Leads _ _ _ _ (replay input found)
            unfold replay
            have facts := List.find?_some hexisting
            rw [Bool.and_eq_true, beq_iff_eq, beq_iff_eq] at facts
            have mem' := List.mem_of_find?_eq_some hexisting
            rw [if_pos (conflicts.other_manifest recorded mem mem' facts.1 facts.2)]
            exact conflict _ _ _
          | none =>
            change (engine faults render).Leads _ _ _ _ (requireNew render input newId run m)
            unfold requireNew
            split
            · exact conflict _ _ _
            · refine select_leads fails fun d₅ now₅ generated hgenerated => ?_
              cases generated with
              | some found => exact conflict _ _ _
              | none =>
                have unkeyed := List.find?_eq_none.mp hexisting row mem
                have unmade := List.find?_eq_none.mp hgenerated row now₅.2.2.1
                rcases conflicts.differs with ⟨key, -⟩ | ⟨manifest, -⟩
                · exact absurd (by simp [conflicts.run, key]) unkeyed
                · exact absurd (by simp [conflicts.run, manifest, conflicts.type]) unmade
        · exact conflict _ _ _
  · rename_i denied
    refine absent _ _ _ _ fun present => denied ?_
    obtain ⟨run, m, found⟩ := now₁.2.1 present
    exact hrole ▸ found.role

end Answers

section Calls

variable {d₀ : IacDb} {n : Nat} {s s' : IacDatabase}

theorem executes_total (p : Prog Ret Outcome) (d : IacDb) (n : Nat) (ws : List Write) :
    ∃ n' ws' o, (engine false render).Executes d n ws p n' ws' o := by
  refine Engine.Executes.total (fun o d n => ?_) p d n ws
  cases o with
  | select q => exact ⟨_, _, _, Or.inl rfl, rfl, rfl⟩
  | lockRun id workspaceId => exact ⟨_, _, _, Or.inl rfl, rfl, rfl⟩
  | insertArtifact row => exact ⟨.error (), _, _, Or.inr ⟨rfl, rfl⟩, rfl⟩
  | audit o => exact ⟨.error (), _, _, Or.inr ⟨rfl, rfl, rfl⟩⟩
  | write w => exact ⟨.error (), _, _, Or.inr ⟨rfl, rfl⟩, rfl⟩

def started (faults : Bool) (render : Render) (s : IacDatabase) (c : Call) : IacDatabase :=
  ⟨s.committed, s.drawn, s.sessions ++ [⟨c, ∅, [], some ((engine faults render).program c)⟩]⟩

def Along (faults : Bool) (render : Render) (P : IacDb → Prop) : IacDatabase → IacDatabase → Prop :=
  Relation.ReflTransGen fun a b => (engine faults render).Step a b ∧ P b.committed

theorem Along.related {P : IacDb → Prop} {R : IacDb → IacDb → Prop}
    (reachable : (engine faults render).Reachable d₀ n s) (along : Along faults render P s s')
    (h : ∀ a b : IacDatabase, (engine faults render).Reachable d₀ n b →
      (growing faults render).grows s.committed b.committed → (growing faults render).grows a.committed b.committed →
      P b.committed → R a.committed b.committed) :
    (engine faults render).Reachable d₀ n s' ∧ (growing faults render).grows s.committed s'.committed ∧
      Relation.ReflTransGen (fun a b => (engine faults render).Step a b ∧ R a.committed b.committed ∧
        R b.committed b.committed) s s' := by
  induction along with
  | refl => exact ⟨reachable, (growing faults render).refl _, .refl⟩
  | @tail a b _ step ih =>
    obtain ⟨reached, grown, related⟩ := ih
    have reached' := reached.tail step.1
    have grows := (growing faults render).step step.1
    have grown' := (growing faults render).trans _ _ _ grown grows
    exact ⟨reached', grown', related.tail ⟨step.1, h a b reached' grown' grows step.2,
      h b b reached' grown' ((growing faults render).refl _) step.2⟩⟩

theorem Along.answered {c : Call} {P : IacDb → Prop} {R : IacDb → IacDb → Prop} {Q : Outcome → List Write → IacDb → Prop}
    (reachable : (engine faults render).Reachable d₀ n s)
    (along : Along faults render P (started faults render s c) s')
    (trans : ∀ d d' d'', R d d' → R d' d'' → R d d'')
    (leads : ∀ d, (engine faults render).Leads R Q d [] ((engine faults render).program c))
    (h : ∀ a b : IacDatabase, (engine faults render).Reachable d₀ n b →
      (growing faults render).grows s.committed b.committed → (growing faults render).grows a.committed b.committed →
      P b.committed → R a.committed b.committed) (start : R s.committed s.committed)
    {t : Session Call Ret Key Write Outcome} (session : s'.sessions[s.sessions.length]? = some t) {o : Outcome}
    (answer : t.rest = some (.pure o)) : Q o t.writes s'.committed := by
  have begun : (engine faults render).Reachable d₀ n (started faults render s c) := reachable.tail (.start s c)
  obtain ⟨-, -, related⟩ := along.related begun h
  have own : (started faults render s c).sessions[s.sessions.length]? =
      some ⟨c, ∅, [], some ((engine faults render).program c)⟩ := by
    simp [started]
  obtain ⟨refl, t', session', -, leads'⟩ := Engine.SessionLeads.steps trans related start own
    (fun p hp => Option.some.inj hp ▸ leads _)
  obtain rfl := Option.some.inj (session.symm.trans session')
  exact leads' _ answer _ refl

-- Every answer to a call that starts now, while P holds, satisfies Q, unless a statement fails; it has written nothing.
def Answered (faults : Bool) (render : Render) (s : IacDatabase) (c : Call) (P : IacDb → Prop) (Q : Outcome → Prop) :
    Prop :=
  ∀ s', Along faults render P (started faults render s c) s' →
    ∀ t o, s'.sessions[s.sessions.length]? = some t → t.rest = some (.pure o) →
      (Q o ∨ faults = true ∧ o = .unavailable) ∧ t.writes = []

def Returns (render : Render) (s : IacDatabase) (c : Call) (o : Outcome) : Prop :=
  ∃ n', (engine false render).Executes s.committed s.drawn [] ((engine false render).program c) n' [] o

theorem Conflicts.answered {request input : Request} {newId : String} (fresh : Fresh d₀)
    (reachable : (engine faults render).Reachable d₀ n s) (valid : validRequest request = some input) {row : ArtifactRow}
    (mem : row ∈ s.committed.artifacts) (conflicts : Conflicts input row) {P : IacDb → Prop} {r : Prop}
    (context : ∀ d, P d → r → RunFound input d) (now : P s.committed) :
    Answered faults render s (.generate request newId) P fun o => ∃ f, o = .failed f ∧ (r → f.status = 409) := by
  intro s' along t o session answer
  refine along.answered (Q := Refused faults r) (R := Clashes faults render r input row) reachable ?_
    (conflict_leads valid conflicts r newId) ?_ ?_ session answer
  · exact fun d d' d'' h h' => ⟨(growing faults render).trans _ _ _ h.1 h'.1, h'.2⟩
  · exact fun a b reached grown grows holds =>
      ⟨grows, context _ holds, grown.1.subset mem, recorded_reachable fresh reached⟩
  · exact ⟨(growing faults render).refl _, context _ now, mem, recorded_reachable fresh reachable⟩

theorem replay_answered {request input : Request} {newId : String} (fresh : Fresh d₀)
    (reachable : (engine faults render).Reachable d₀ n s) (valid : validRequest request = some input) {row : ArtifactRow}
    {a : Artifact} (mem : row ∈ s.committed.artifacts) (stored : Stored row a)
    (runId : row.runId = input.context.requestId) (key : row.idempotencyKey = input.context.idempotencyKey)
    (manifest : row.manifestId = input.manifestId) (now : ContextMatches input s.committed) :
    Returns render s (.generate request newId) (.stored a) ∧
      Answered faults render s (.generate request newId) (ContextMatches input) (· = .stored a) := by
  have recorded := recorded_reachable fresh reachable
  have bound : Query.answer (.byKey input.context.requestId input.context.idempotencyKey) s.committed = some row := by
    change s.committed.artifacts.find? _ = some row
    cases hf : s.committed.artifacts.find? fun a => a.runId == input.context.requestId &&
        a.idempotencyKey == input.context.idempotencyKey with
    | none => exact absurd (by simp [runId, key]) (List.find?_eq_none.mp hf row mem)
    | some row' =>
      have facts := List.find?_some hf
      rw [Bool.and_eq_true, beq_iff_eq, beq_iff_eq] at facts
      have entry : Entry.generationKey row.runId row.idempotencyKey ∈ entries row' := by
        rw [runId, key, ← facts.1, ← facts.2]
        exact entries_key row'
      rw [recorded.same mem (List.mem_of_find?_eq_some hf) (entries_key row) entry]
  have generation : Artifact.unmarshal row.generation = some a := by
    rw [stored.generation]
    exact Artifact.unmarshal_jsonb a
  refine ⟨?_, fun s' along t o session answer => ?_⟩
  · have total : ∃ n' ws' o, (engine false render).Executes s.committed s.drawn []
        (DBGenerator.Generate render newId request) n' ws' o := executes_total _ _ _ _
    obtain ⟨n', ws', o, run⟩ := total
    have leads : (engine false render).Leads (Replays false render input row) (Replayed false a) s.committed []
        (DBGenerator.Generate render newId request) := replay_leads valid manifest generation newId s.committed
    obtain ⟨rfl | ⟨h, -⟩, rfl⟩ := leads.executes ⟨(growing false render).refl _, now, bound⟩ run
    · exact ⟨n', run⟩
    · cases h
  · refine along.answered (Q := Replayed faults a) (R := Replays faults render input row) reachable ?_
      (replay_leads valid manifest generation newId) ?_ ?_ session answer
    · exact fun d d' d'' h h' => ⟨(growing faults render).trans _ _ _ h.1 h'.1, h'.2⟩
    · exact fun a b _ grown grows holds => ⟨grows, holds, byKey_kept grown bound⟩
    · exact ⟨(growing faults render).refl _, now, bound⟩

theorem iac_generation_exactly_once (fresh : Fresh d₀) (reachable : (engine faults render).Reachable d₀ n s) :
    (s.committed.artifacts.Pairwise fun a b =>
        a.id ≠ b.id ∧ (a.runId = b.runId → a.manifestId ≠ b.manifestId ∧ a.idempotencyKey ≠ b.idempotencyKey)) ∧
      (generated s.committed).map (fun e => e.resourceId) = s.committed.artifacts.map ArtifactRow.id ∧
      (∀ s', (engine faults render).Step s s' → Untouched s.committed s'.committed ∨
        ∃ (i : Nat) (t : Session Call Ret Key Write Outcome) (request : Request) (newId : String) (input : Request)
          (a : Artifact), s.sessions[i]? = some t ∧ t.call = .generate request newId ∧
          t.rest = some (.pure (.created a)) ∧ validRequest request = some input ∧
          Creation input a s.committed s'.committed) ∧
      (∀ row ∈ s.committed.artifacts, ∃ a, Stored row a ∧ ∀ request newId input, validRequest request = some input →
        row.runId = input.context.requestId → row.idempotencyKey = input.context.idempotencyKey →
        row.manifestId = input.manifestId → ContextMatches input s.committed →
        Returns render s (.generate request newId) (.stored a) ∧
          Answered faults render s (.generate request newId) (ContextMatches input) (· = .stored a)) ∧
      ∀ row ∈ s.committed.artifacts, ∀ request newId input, validRequest request = some input → Conflicts input row →
        Answered faults render s (.generate request newId) (fun _ => True) (fun o => ∃ f, o = .failed f) ∧
          (RunFound input s.committed → Answered faults render s (.generate request newId) (RunFound input)
            fun o => ∃ f, o = .failed f ∧ f.status = 409) := by
  have recorded := recorded_reachable fresh reachable
  refine ⟨?_, recorded.audited, fun s' step => step_cases fresh reachable step, ?_, ?_⟩
  · refine (entries_apart recorded.single).imp_of_mem fun {a b} ha hb apart => ⟨fun same => ?_, fun same => ⟨?_, ?_⟩⟩
    · exact apart (.id a.id) (by simp [entries]) (by simp [entries, same])
    · intro manifest
      obtain ⟨_, sa⟩ := recorded.stored a ha
      obtain ⟨_, sb⟩ := recorded.stored b hb
      refine apart _ (entries_manifest sa.type) ?_
      rw [same, manifest]
      exact entries_manifest sb.type
    · intro key
      refine apart _ (entries_key a) ?_
      rw [same, key]
      exact entries_key b
  · intro row mem
    obtain ⟨a, stored⟩ := recorded.stored row mem
    exact ⟨a, stored, fun request newId input valid runId key manifest now =>
      replay_answered fresh reachable valid mem stored runId key manifest now⟩
  · intro row mem request newId input valid conflicts
    refine ⟨fun s' along t o session answer => ?_, fun now s' along t o session answer => ?_⟩
    · obtain ⟨⟨f, hf, -⟩ | faulty, unwritten⟩ := conflicts.answered (r := False) fresh reachable valid mem
        (fun _ _ h => h.elim) trivial s' along t o session answer
      · exact ⟨Or.inl ⟨f, hf⟩, unwritten⟩
      · exact ⟨Or.inr faulty, unwritten⟩
    · obtain ⟨⟨f, hf, status⟩ | faulty, unwritten⟩ := conflicts.answered (r := True) fresh reachable valid mem
        (fun _ h _ => h) now s' along t o session answer
      · exact ⟨Or.inl ⟨f, hf, status trivial⟩, unwritten⟩
      · exact ⟨Or.inr faulty, unwritten⟩

end Calls

section Example

def artifactHash : String := "a9b8762beae4002f0da74f18b157d2f2dfeaa6f21767cbce0f65fe4fb12c7488"

def eventHash : String := "c1f4d9f7455a12230b0a284bfdda6dcaec5f9380e261fe342d96f6a967714f06"

def networkFiles : List TerraformFile := [
  ⟨"main.tf",
    "terraform \x7b\n  required_providers \x7b\n" ++
      "    aws = \x7b source = \"hashicorp/aws\", version = \"~> 5.0\" \x7d\n" ++
      "  \x7d\n  backend \"s3\" \x7b\x7d\n\x7d\nprovider \"aws\" \x7b\n" ++
      "  region = var.region\n\x7d\nmodule \"resources\" \x7b\n" ++
      "  source = \"./resources\"\n  r_edge = var.r_edge\n" ++ "\x7d\n"⟩,
  ⟨"outputs.tf",
    "output \"resource_ids\" \x7b\n" ++ "  value = module.resources.resource_ids\n\x7d\n"⟩,
  ⟨"resources/networking.tf",
    "resource \"aws_vpc\" \"r_edge\" \x7b\n" ++ "  cidr_block = var.r_edge[\"cidr_block\"]\n" ++
      "  enable_dns_support = true\n" ++ "  enable_dns_hostnames = true\n  tags = \x7b\x7d\n" ++
      "  depends_on = []\n\x7d\n\n"⟩,
  ⟨"resources/outputs.tf",
    "output \"resource_ids\" \x7b\n  value = \x7b\n" ++ "    \"edge\" = aws_vpc.r_edge.id\n  \x7d\n\x7d\n"⟩,
  ⟨"resources/variables.tf",
    "variable \"r_edge\" \x7b\n  type = any\n\x7d\n"⟩,
  ⟨"terraform.tfvars",
    "region = \"us-east-1\"\n" ++ "r_edge = \x7b\"cidr_block\":\"10.0.0.0/16\"\x7d\n"⟩,
  ⟨"variables.tf",
    "variable \"region\" \x7b\n  type = string\n\x7d\n" ++ "variable \"r_edge\" \x7b\n  type = any\n\x7d\n"⟩]

@[reducible] def networkHashes : Platform :=
  ⟨fun s => if s = Artifact.hashed networkFiles then artifactHash else eventHash, fun _ => true⟩

def networkRender : Render := fun _ => .ok (networkFiles, 1)

def networkRequest : Request where
  context := ⟨"0b9e4c1a-7d52-4f3e-9a61-2c8d5e7f1034", "e81b5c24-9f06-4d73-a2c8-6b3d0f9e7154", ["iac:write"],
    "d2f60e8b-3c47-4a19-8b5d-1e9f7c40a632", "6f1c2d3e-4a5b-4c6d-8e7f-90a1b2c3d4e5",
    "a4d7e2b9-6c31-4e58-b0f2-5d8c1a3e9f76", "iac:d2f60e8b:5e1b9d27"⟩
  manifestId := "5e1b9d27-64c3-4f08-a7d1-93b20c8e4f56"

def networkId : String := "a40c7f12-9e35-4b68-8d2a-6f10b3c5e789"

def networkManifest : ManifestRow :=
  ⟨networkRequest.manifestId, networkRequest.context.requestId, 1, .obj [("region", .str "us-east-1"), ("provider", .str "aws"),
    ("resources", .arr [.obj [("type", .str "network.aws.vpc"), ("properties", .obj [("cidr_block", .str "10.0.0.0/16")]),
      ("logical_name", .str "edge")]]), ("schema_version", .str "1.0")], none⟩

def networkRun : RunRow :=
  ⟨networkRequest.context.workspaceId, networkRequest.context.sessionId, networkRequest.context.correlationId,
    networkRequest.context.userId, "IAC_GENERATING", 7, some 1, some 1, some 1, some "2026-01-05T10:00:00Z"⟩

def networkDb : IacDb :=
  ⟨fun _ _ => some "engineer", fun id => if id = networkManifest.runId then some networkRun else none, [networkManifest], [], []⟩

def networkArtifact : Artifact :=
  letI := networkHashes
  Artifact.construct networkId networkRequest 1 networkFiles 1

def networkEntry : Audit.Entry :=
  ⟨networkRequest.context.workspaceId, .artifactGenerated, "manifest-service", .system, "iac_artifact", networkId,
    .obj [("artifact_id", .str networkId), ("manifest_id", .str networkRequest.manifestId),
      ("manifest_version", .num (JsNumber.ofNat 1)), ("run_id", .str networkRequest.context.requestId),
      ("hash", .str networkArtifact.hash), ("file_count", .num (JsNumber.ofNat 7)),
      ("template_source", .str "template")], none, networkRequest.context.correlationId⟩

def networkEvent : AuditRow := networkEntry.row (networkHashes.sha256Hex (Audit.StateService.preimage networkEntry)) 0

def networkStored : IacDb := { networkDb with artifacts := [rowOf networkRequest networkArtifact], audits := [networkEvent] }

def networkCall : Call := .generate networkRequest networkId

omit [Platform] in
theorem networkFiles_size : Artifact.totalSizeOf networkFiles = 696 := by
  simp only [Artifact.totalSizeOf, networkFiles, List.map_cons, List.map_nil, String.utf8ByteSize_append]
  decide

omit [Platform] in
theorem networkArtifact_size : networkArtifact.tooLarge = false := by
  change (decide (4 * 1024 * 1024 < Artifact.totalSizeOf networkFiles) || decide (1000 < 1)) = false
  rw [networkFiles_size]
  rfl

omit [Platform] in
theorem networkFiles_hash : networkHashes.sha256Hex (Artifact.hashed networkFiles) = artifactHash := by
  unfold networkHashes
  dsimp only
  rw [if_pos rfl]

omit [Platform] in
theorem networkArtifact_hash : networkArtifact.hash = artifactHash := networkFiles_hash

omit [Platform] in
theorem networkArtifact_storable : networkArtifact.json.storable = true := by
  refine Artifact.storable_json ?_ ?_
  · rw [networkArtifact_hash]
    change ∀ s ∈ [networkId, networkRequest.manifestId, networkRequest.context.requestId,
      networkRequest.context.workspaceId, networkRequest.context.sessionId, artifactHash, "template"] ++
      networkFiles.map TerraformFile.path, _
    simp only [networkId, networkRequest, artifactHash, networkFiles, List.map_cons, List.map_nil, List.cons_append,
      List.nil_append, List.forall_mem_cons, List.not_mem_nil, false_implies, implies_true, and_true]
    repeat' apply And.intro
    all_goals exact Json.storableText_ofList (by decide)
  · change ∀ f ∈ networkFiles, _
    simp only [networkFiles, List.forall_mem_cons, List.not_mem_nil, false_implies, implies_true, and_true,
      Json.storableText_append, Bool.and_eq_true]
    repeat' apply And.intro
    all_goals exact Json.storableText_ofList (by decide)

omit [Platform] in
theorem networkRequest_valid : validRequest networkRequest = some networkRequest := by
  have ids : ∀ id ∈ [networkRequest.manifestId, networkRequest.context.workspaceId, networkRequest.context.userId,
      networkRequest.context.requestId, networkRequest.context.sessionId, networkRequest.context.correlationId],
      parseId id = some id := by
    simp only [networkRequest, List.forall_mem_cons, List.not_mem_nil, false_implies, implies_true, and_true]
    repeat' apply And.intro
    all_goals exact parseId_spelled (by decide) (by decide)
  have key : (networkRequest.context.idempotencyKey.toList.all isSpace ||
      decide (255 < networkRequest.context.idempotencyKey.utf8ByteSize) ||
      !networkRequest.context.permissions.contains "iac:write") = false := by decide
  simp only [List.forall_mem_cons] at ids
  obtain ⟨manifest, workspace, user, run, session, correlation, -⟩ := ids
  simp only [validRequest, manifest, workspace, user, run, session, correlation, key, Option.bind_eq_bind,
    Option.bind_some, Bool.false_eq_true, if_false]

omit [Platform] in
theorem networkDb_run : networkDb.runs networkRequest.context.requestId = some networkRun := by
  simp [networkDb, networkManifest]

omit [Platform] in
theorem networkDb_selectRun :
    selectRun networkDb networkRequest.context.requestId networkRequest.context.workspaceId = some networkRun := by
  simp [selectRun, networkDb_run, networkRun]

omit [Platform] in
theorem networkDb_manifest :
    Query.answer (.manifest networkRequest.manifestId networkRequest.context.requestId) networkDb =
      some networkManifest := by
  simp [Query.answer, networkDb, networkManifest]

omit [Platform] in
theorem networkRun_matches : networkRun.lock.matches networkRequest networkManifest.version = true := by
  simp [RunLock.matches, networkRun, networkManifest]

omit [Platform] in
theorem network_reachable :
    letI := networkHashes
    (engine true networkRender).Reachable networkDb 0 ⟨networkStored, 1, [⟨networkCall, ∅, [], none⟩]⟩ := by
  let := networkHashes
  have insertable : Insertable (rowOf networkRequest networkArtifact) networkDb :=
    ⟨fun a ha => absurd ha List.not_mem_nil, Option.isSome_of_mem networkDb_run, ⟨networkManifest, List.mem_singleton.mpr rfl, rfl⟩,
      isUuid_spelled (by decide), Json.storable_normalize _ _ networkArtifact_storable,
      Json.storableText_ofList (by decide)⟩
  have run : (engine true networkRender).Executes networkDb 0 [] (DBGenerator.Generate networkRender networkId networkRequest) 1
      [.artifact (rowOf networkRequest networkArtifact), .audit networkEvent] (.created networkArtifact) := by
    rw [Generate_eq networkRequest_valid]
    refine .op (.ok (some "engineer")) [] 0 ⟨Or.inl rfl, rfl, rfl⟩ ?_
    refine .op (.ok (some networkRun)) [] 0 ⟨Or.inl (congrArg Except.ok networkDb_selectRun.symm), rfl, rfl⟩ ?_
    refine .op (.ok (some networkManifest)) [] 0 ⟨Or.inl (congrArg Except.ok networkDb_manifest.symm), rfl, rfl⟩ ?_
    change (engine true networkRender).Executes _ _ _ (selectExisting networkRender networkRequest networkId networkRun
      networkManifest) _ _ _
    rw [selectExisting, if_pos networkRun_matches]
    refine .op (.ok none) [] 0 ⟨Or.inl rfl, rfl, rfl⟩ ?_
    change (engine true networkRender).Executes _ _ _ (requireNew networkRender networkRequest networkId networkRun
      networkManifest) _ _ _
    rw [requireNew, if_neg (fun generating : networkRun.lock.state ≠ "IAC_GENERATING" => generating rfl)]
    refine .op (.ok none) [] 0 ⟨Or.inl rfl, rfl, rfl⟩ ?_
    change (engine true networkRender).Executes _ _ _ (create networkRender networkRequest networkId networkManifest) _ _ _
    rw [create_eq rfl networkArtifact_size]
    refine .op (.ok ()) [.artifact (rowOf networkRequest networkArtifact)] 0 ⟨Or.inl ⟨rfl, insertable, rfl⟩, rfl⟩ ?_
    refine .op (.ok ()) [] 0 (Or.inl ⟨(), [], rfl, ⟨rfl, rfl⟩, rfl⟩) ?_
    refine .op (.ok none) [] 0 (Or.inl ⟨none, [], rfl, ⟨rfl, rfl, rfl⟩, rfl⟩) ?_
    refine .op (.ok ()) [.audit networkEvent] 1 (Or.inl ⟨(), [networkEvent], rfl, ?_, rfl⟩) (.pure _ _ _)
    exact ⟨List.not_mem_nil, fun h hh => (nomatch hh), 0, le_rfl, rfl, rfl⟩
  exact run.commits (s := ⟨networkDb, 0, []⟩) (c := networkCall) rfl (by simp)

omit [Platform] in
theorem iac_generation_exactly_once_network :
    letI := networkHashes
    ∃ a, Stored (rowOf networkRequest networkArtifact) a ∧
      Returns networkRender ⟨networkStored, 1, [⟨networkCall, ∅, [], none⟩]⟩ networkCall (.stored a) := by
  let := networkHashes
  have fresh : Fresh networkDb := ⟨rfl, rfl⟩
  obtain ⟨-, -, -, replays, -⟩ := iac_generation_exactly_once fresh network_reachable
  obtain ⟨a, stored, replay⟩ := replays (rowOf networkRequest networkArtifact) (List.mem_singleton.mpr rfl)
  have context : ContextMatches networkRequest networkStored :=
    ⟨networkRun, networkManifest, ⟨rfl, networkDb_selectRun, networkDb_manifest⟩, networkRun_matches⟩
  exact ⟨a, stored, (replay networkRequest networkId networkRequest networkRequest_valid rfl rfl rfl context).1⟩

end Example

end Provisr.Backend.Iac
