import Provisr.Backend.ManifestLocking

namespace Provisr.Backend.Manifest

open Provisr.Foundation
open Provisr.Orchestrator (Platform)
open Provisr.Audit (AuditRow)

variable [Platform] {faults : Bool}

abbrev ManifestDatabase := Foundation.Database Call Ret Key Db Write Outcome

-- No version is ever changed or taken away: a trigger rejects it.
def growing (faults : Bool) : Engine.Growing (engine faults) where
  grows d d' := d.manifests <+: d'.manifests
  refl d := List.prefix_refl _
  trans _ _ _ h h' := h.trans h'
  apply w d := by
    cases w with
    | role | workspace | run | audit => exact List.prefix_refl _
    | manifest row => exact List.prefix_append _ _

section Leads

variable {R : Db → Db → Prop} {Q : Outcome → List Write → Db → Prop} {d : Db} {ws : List Write} {failure : Outcome}

theorem statement_leads {o : Op} {next : Answer o → Prog Ret Outcome} (fails : ∀ ws d, Q failure ws d)
    (h : ∀ d', R d d' → ∀ n r vs n', exec faults o ((engine faults).view ws d') n (.ok r) vs n' →
      (engine faults).Leads R Q d' (ws ++ vs) (next r)) :
    (engine faults).Leads R Q d ws (statement o failure next) :=
  .orEnd (fun _ => fails) h

-- A statement that only reads fails where it must or may.
theorem reading_leads {o : Op} {next : Answer o → Prog Ret Outcome} {answer : Db → Option (Answer o)}
    (reads : ∀ d n r vs n', exec faults o d n r vs n' → answers faults (answer d) r ∧ vs = [] ∧ n' = n)
    (fails : ∀ d', R d d' → faults = true ∨ answer ((engine faults).view ws d') = none → ∀ d, Q failure ws d)
    (h : ∀ d', R d d' → ∀ r, answer ((engine faults).view ws d') = some r → (engine faults).Leads R Q d' ws (next r)) :
    (engine faults).Leads R Q d ws (statement o failure next) := by
  intro d' related n r vs n' run
  obtain ⟨answered, rfl, -⟩ := reads _ _ _ _ _ run
  rw [List.append_nil]
  cases r with
  | error e =>
    obtain ⟨_, -, h⟩ | ⟨why, -⟩ := answered
    · cases h
    · exact fun d'' _ => fails d' related why d''
  | ok r => exact h d' related r (answers_ok answered)

theorem query_leads {q : Query} {next : q.Answer → Prog Ret Outcome}
    (fails : ∀ d', R d d' → faults = true ∨ q.answer ((engine faults).view ws d') = none → ∀ d, Q failure ws d)
    (h : ∀ d', R d d' → ∀ r, q.answer ((engine faults).view ws d') = some r →
      (engine faults).Leads R Q d' ws (next r)) :
    (engine faults).Leads R Q d ws (statement (.select q) failure next) :=
  reading_leads (fun _ _ _ _ _ run => run) fails h

theorem select_leads {q : Query} {next : q.Answer → Prog Ret Outcome} (fails : ∀ d, Q failure ws d)
    (h : ∀ d', R d d' → ∀ r, q.answer ((engine faults).view ws d') = some r →
      (engine faults).Leads R Q d' ws (next r)) :
    (engine faults).Leads R Q d ws (statement (.select q) failure next) :=
  query_leads (fun _ _ _ => fails) h

theorem advisoryLock_leads {key : String} {next : Unit → Prog Ret Outcome}
    (fails : faults = true → ∀ d, Q failure ws d)
    (h : ∀ d', R d d' → (engine faults).Leads R Q d' ws (next ())) :
    (engine faults).Leads R Q d ws (statement (.advisoryLock key) failure next) := by
  have reads : ∀ d n r vs n', exec faults (.advisoryLock key) d n r vs n' → answers faults (some ()) r ∧ vs = [] ∧ n' = n :=
    fun _ _ _ _ _ run => run
  refine reading_leads reads ?_ fun d' related _ _ => h d' related
  rintro d' - (faulty | none)
  · exact fails faulty
  · cases none

theorem appendEvent_leads {preimage : Audit.Entry → String} {columns : Option String → Audit.Entry}
    {next : Unit → Prog Ret Outcome} (fails : ∀ ws d, Q failure ws d) (trans : ∀ d d' d'', R d d' → R d' d'' → R d d'')
    (h : ∀ d' previous hash seq, R d d' →
      (engine faults).Leads R Q d' (ws ++ [.audit ((columns previous).row hash seq)]) (next ())) :
    (engine faults).Leads R Q d ws (within failure (Audit.appendEvent preimage columns) next) := by
  refine Audit.appendEvent_leads Db.audits .audit (fun o d ws k rest => ?_) trans h
  refine statement_leads fails fun d' related n a vs n' run => ?_
  obtain ⟨b, rows, same, run, rfl⟩ | ⟨failed, -⟩ := run
  · obtain rfl := Except.ok.inj same
    exact rest d' related n a rows n' run
  · cases failed

end Leads

section Results

structure Made (runID : String) (key content : Option String) (sourceMetadata : JsJson) (row : Row) : Prop where
  run : uuidIn runID = some row.runId
  keyText : ∀ k ∈ key, textIn k = some k
  key : row.idempotencyKey = key
  content : ∃ text, content = some text ∧ jsonbIn text = some row.content
  sourceMetadata : row.sourceMetadata = Json.jsonb sourceMetadata

structure Keyed (runID key : String) (row : Row) : Prop where
  run : uuidIn runID = some row.runId
  key : row.idempotencyKey = some key

def Creates : Call → Outcome → Row → Prop
  | .keyed runID key content source, .created record, row => ∃ text, normalizeContentBytes content = .ok text ∧
      Made runID (some key) (some text) (normalizeMetaBytes source (ComputeContentHash text)) row ∧
      record = scanned row (ComputeContentHash text)
  | .unkeyed runID content source, .created record, row => ∃ text, normalizeContentBytes content = .ok text ∧
      Made runID none (some text) (normalizeMetaBytes source (ComputeContentHash text)) row ∧
      record = scanned row (ComputeContentHash text)
  | .draft (.request body) _, .stored version, row =>
    Made body.runId (some body.context.idempotencyKey) body.content (.obj []) row ∧ version = row.version
  | _, _, _ => False

def Reports : Call → Outcome → Row → Prop
  | .keyed runID key _ _, .returned record, row => Keyed runID key row ∧
      record = scanned row (extractOrComputeHash (Json.jsonbText row.content) row.sourceMetadata)
  | .draft (.request body) _, .existing version, row =>
    Keyed body.runId body.context.idempotencyKey row ∧ version = row.version
  | _, _, _ => False

def Outcome.reports : Outcome → Bool
  | .returned _ | .existing _ => true
  | _ => false

def Numbered (row : Row) (d : Db) : Prop :=
  ∃ seen, seen <+: d.manifests ∧ row.version = (versions seen row.runId).foldr max 0 + 1

structure Announces (body : DraftRequest) (row : Row) (event : AuditRow) : Prop where
  eventType : event.eventType = .manifestCreated
  resourceId : event.resourceId = body.runId
  payload : event.payload = Json.jsonb (.obj [("manifest_version", .num (JsNumber.ofNat row.version)),
    ("run_id", .str body.runId)])

def Foreign : Write → Prop
  | .manifest _ => False
  | .audit row => row.eventType ≠ .manifestCreated
  | _ => True

inductive Committed (c : Call) (o : Outcome) (ws : List Write) (d : Db) : Prop
  | version (row : Row) (creates : Creates c o row) (numbered : Numbered row d) (writes : ws = [.manifest row])
      (store : ∀ incoming tag, c ≠ .draft incoming tag)
  | draft (body : DraftRequest) (tag : Nat) (row : Row) (event : AuditRow) (call : c = .draft (.request body) tag)
      (creates : Creates c o row) (numbered : Numbered row d) (writes : ws = [.manifest row, .audit event])
      (announces : Announces body row event)
  | other (deeds : List Deed) (call : c = .other deeds) (foreign : ∀ w ∈ ws, Foreign w)

structure Wrote (c : Call) (o : Outcome) (ws : List Write) (d : Db) : Prop where
  commit : o.commits = true → Committed c o ws d
  report : o.reports = true → ∃ row ∈ d.manifests, Reports c o row

theorem Wrote.none {c : Call} {o : Outcome} (commits : o.commits = false) (reports : o.reports = false)
    (ws : List Write) (d : Db) : Wrote c o ws d :=
  ⟨fun h => absurd (commits.symm.trans h) Bool.false_ne_true, fun h => absurd (reports.symm.trans h) Bool.false_ne_true⟩

omit [Platform] in
theorem Numbered.later {row : Row} {d d' : Db} (h : Numbered row d) (grown : d.manifests <+: d'.manifests) :
    Numbered row d' := by
  obtain ⟨seen, before, version⟩ := h
  exact ⟨seen, before.trans grown, version⟩

omit [Platform] in
theorem nextVersion_answer {d : Db} {runID : String} {version : Nat}
    (h : Query.answer d (.nextVersion runID) = some version) :
    ∃ run, uuidIn runID = some run ∧ version = (versions d.manifests run).foldr max 0 + 1 := by
  simp only [Query.answer, Option.bind_eq_bind, Option.bind_eq_some_iff, Option.some.injEq] at h
  obtain ⟨run, hrun, rfl⟩ := h
  exact ⟨run, hrun, rfl⟩

omit [Platform] in
theorem Insertable.numbered {d d' : Db} {row : Insertion} {inserted : Row} {run : String} (h : Insertable row inserted d')
    (hrun : uuidIn row.runId = some run) (version : row.version = (versions d.manifests run).foldr max 0 + 1)
    (grown : d.manifests <+: d'.manifests) : Numbered inserted d' := by
  obtain rfl := Option.some.inj (hrun.symm.trans h.run.1)
  exact ⟨d.manifests, grown, h.version.1.trans version⟩

omit [Platform] in
theorem Insertable.made {d : Db} {row : Insertion} {inserted : Row} (h : Insertable row inserted d) :
    Made row.runId row.idempotencyKey row.content row.sourceMetadata inserted :=
  ⟨h.run.1, h.idempotencyKey.2, h.idempotencyKey.1, h.content, h.sourceMetadata.1⟩

end Results

section Calls

variable {c : Call} {d : Db}

theorem insert_leads (row : Nat → Insertion) {runID : String} (numbers : ∀ n, (row n).version = n ∧ (row n).runId = runID)
    {failure : Outcome} (fails : failure.commits = false ∧ failure.reports = false)
    {next : Nat → Row → Prog Ret Outcome}
    (h : ∀ d' n inserted, (growing faults).grows d d' → Made runID (row n).idempotencyKey (row n).content
      (row n).sourceMetadata inserted → Numbered inserted d' →
      (engine faults).Leads (growing faults).grows (Wrote c) d' [.manifest inserted] (next n inserted)) :
    (engine faults).Leads (growing faults).grows (Wrote c) d []
      (statement (.select (.nextVersion runID)) failure fun n => statement (.insert (row n)) failure (next n)) := by
  have none : ∀ ws d, Wrote c failure ws d := Wrote.none fails.1 fails.2
  refine select_leads (none []) fun d₁ grown₁ n answer => ?_
  obtain ⟨run, hrun, version⟩ := nextVersion_answer answer
  refine statement_leads none fun d₂ grown₂ _ inserted vs _ executed => ?_
  obtain ⟨⟨inserted', same, insertable, -, rfl⟩ | ⟨h, -⟩ | ⟨h, -⟩, -⟩ := executed
  · obtain rfl := Except.ok.inj same
    refine h d₂ n inserted ((growing faults).trans _ _ _ grown₁ grown₂) ?_ ?_
    · rw [← (numbers n).2]
      exact insertable.made
    · exact insertable.numbered ((numbers n).2 ▸ hrun) ((numbers n).1.trans version) grown₂
  · cases h
  · cases h

theorem keyed_leads (runID key : String) (content : Content) (source : JsFields) (d : Db) :
    (engine faults).Leads (growing faults).grows (Wrote (.keyed runID key content source)) d []
      (StoreManifestVersionWithKey runID key content source) := by
  have none : ∀ e ws d, Wrote (.keyed runID key content source) (.failed e) ws d := fun _ => Wrote.none rfl rfl
  unfold StoreManifestVersionWithKey
  split
  · exact fun _ _ => none _ _ _
  · split
    · exact fun _ _ => none _ _ _
    · split
      · exact fun _ _ => none _ _ _
      · rename_i text valid
        refine advisoryLock_leads (fun _ _ => none _ _ _) fun d₁ _ => ?_
        refine select_leads (none _ _) fun d₂ _ found answer => ?_
        cases found with
        | some row =>
          simp only [Query.answer, Option.bind_eq_bind, Option.bind_eq_some_iff, Option.some.injEq] at answer
          obtain ⟨run, hrun, key', hkey, found⟩ := answer
          change (engine faults).Leads _ _ _ _ (replayKeyed text row)
          unfold replayKeyed
          split
          · intro d₃ grown
            refine ⟨fun news => (by cases news), fun _ => ⟨row, grown.subset (List.mem_of_find?_eq_some found), ?_, rfl⟩⟩
            have facts := List.find?_some found
            simp only [Bool.and_eq_true, beq_iff_eq] at facts
            have same : key' = key := by
              unfold textIn at hkey
              split at hkey
              · exact (Option.some.inj hkey).symm
              · cases hkey
            exact ⟨by rw [hrun, facts.1], by rw [facts.2, same]⟩
          · exact fun _ _ => none _ _ _
        | none =>
          refine insert_leads (fun n => ⟨runID, n, some text, _, some key⟩) (fun n => ⟨rfl, rfl⟩) ⟨rfl, rfl⟩
            fun d₃ n inserted _ made numbered d₄ grown => ?_
          exact ⟨fun _ => .version inserted ⟨text, valid, made, rfl⟩ (numbered.later grown) rfl (by simp), fun olds => by cases olds⟩

theorem attempts_leads {runID : String} {content : Content} {source : JsFields} {text : String}
    (valid : normalizeContentBytes content = .ok text) (left : Nat) (d : Db) :
    (engine faults).Leads (growing faults).grows (Wrote (.unkeyed runID content source)) d []
      (attempts runID text (ComputeContentHash text) (normalizeMetaBytes source (ComputeContentHash text)) left) := by
  have none : ∀ e ws d, Wrote (.unkeyed runID content source) (.failed e) ws d := fun _ => Wrote.none rfl rfl
  induction left generalizing d with
  | zero => exact fun _ _ => none _ _ _
  | succ left ih =>
    refine select_leads (none _ _) fun d₁ _ version answer => ?_
    obtain ⟨run, hrun, numbered⟩ := nextVersion_answer answer
    intro d₂ grown₂ n r vs n' executed
    obtain ⟨⟨inserted, rfl, insertable, -, rfl⟩ | ⟨rfl, -, rfl⟩ | ⟨rfl, rfl⟩, -⟩ := executed
    · intro d₃ grown₃
      have later := (insertable.numbered hrun numbered grown₂).later grown₃
      exact ⟨fun _ => .version inserted ⟨text, valid, insertable.made, rfl⟩ later rfl (by simp), fun olds => by cases olds⟩
    · exact ih d₂
    · exact fun _ _ => none _ _ _

theorem unkeyed_leads (runID : String) (content : Content) (source : JsFields) (d : Db) :
    (engine faults).Leads (growing faults).grows (Wrote (.unkeyed runID content source)) d []
      (StoreManifestVersion runID content source) := by
  unfold StoreManifestVersion
  split
  · exact fun _ _ => Wrote.none rfl rfl _ _
  · split
    · exact fun _ _ => Wrote.none rfl rfl _ _
    · exact attempts_leads (by assumption) _ d

section Drafts

variable {body : DraftRequest} {tag : Nat}

theorem refused_leads (status : Nat) (message : String) (ws : List Write) :
    (engine faults).Leads (growing faults).grows (Wrote c) d ws (.pure (.refused status message)) :=
  fun _ _ => Wrote.none rfl rfl _ _

omit [Platform] in
theorem existing_answer {key : String} {content : Option String} {runID : String} {found : Nat × Bool}
    (h : Query.answer d (.existing runID key content) = some (some found)) :
    ∃ row ∈ d.manifests, Keyed runID key row ∧ found.1 = row.version ∧
      ∃ text stored, content = some text ∧ jsonbIn text = some stored ∧ found.2 = sameJsonb row.content stored := by
  simp only [Query.answer, Option.bind_eq_bind, Option.bind_eq_some_iff, selectExisting] at h
  obtain ⟨run, hrun, key', hkey, h⟩ := h
  have same : key' = key := by
    unfold textIn at hkey
    split at hkey
    · exact (Option.some.inj hkey).symm
    · cases hkey
  subst same
  cases content with
  | none =>
    dsimp only at h
    split at h
    · cases h
    · cases h
  | some text =>
    simp only [Option.bind_eq_some_iff, Option.some.injEq] at h
    obtain ⟨stored, hstored, h⟩ := h
    obtain ⟨row, found, rfl⟩ := Option.map_eq_some_iff.mp h
    have facts := List.find?_some found
    simp only [Bool.and_eq_true, beq_iff_eq] at facts
    exact ⟨row, List.mem_of_find?_eq_some found, ⟨by rw [hrun, facts.1], facts.2⟩, rfl, text, stored, rfl, hstored, rfl⟩

theorem insertDraft_leads (d : Db) :
    (engine faults).Leads (growing faults).grows (Wrote (.draft (.request body) tag)) d [] (insertDraft body) := by
  refine insert_leads (fun n => ⟨body.runId, n, body.content, .obj [], some body.context.idempotencyKey⟩)
    (fun n => ⟨rfl, rfl⟩) ⟨rfl, rfl⟩ fun d₁ n inserted _ made numbered => ?_
  refine appendEvent_leads (Wrote.none rfl rfl) (growing faults).trans fun d₂ previous hash seq grown₂ => ?_
  intro d₃ grown₃
  have announces : ∀ columns : Audit.Entry, columns.eventType = .manifestCreated → columns.resourceId = body.runId →
      columns.payload = .obj [("manifest_version", .num (JsNumber.ofNat inserted.version)), ("run_id", .str body.runId)] →
      Announces body inserted (columns.row hash seq) :=
    fun columns type about payload => ⟨type, about, congrArg Json.jsonb payload⟩
  exact ⟨fun _ => .draft body tag inserted _ rfl ⟨made, rfl⟩ ((numbered.later grown₂).later grown₃) rfl
    (announces _ rfl rfl rfl), nofun⟩

theorem storeDraft_leads (d : Db) :
    (engine faults).Leads (growing faults).grows (Wrote (.draft (.request body) tag)) d [] (storeDraft body tag) := by
  refine reading_leads (fun _ _ _ _ _ run => run) (fun _ _ _ _ => Wrote.none rfl rfl _ _) fun d₁ _ role _ => ?_
  split
  · refine reading_leads (fun _ _ _ _ _ run => run) (fun _ _ _ _ => Wrote.none rfl rfl _ _) fun d₂ _ found _ => ?_
    cases found with
    | none => exact refused_leads _ _ _
    | some found =>
      dsimp only
      split
      · refine select_leads (Wrote.none rfl rfl _) fun d₃ _ found answer => ?_
        cases found with
        | none => exact insertDraft_leads d₃
        | some found =>
          obtain ⟨row, mem, keyed, version, -⟩ := existing_answer answer
          obtain ⟨number, same⟩ := found
          cases same
          · exact refused_leads _ _ _
          · exact fun d₄ grown => ⟨nofun, fun _ => ⟨row, grown.subset mem, keyed, version⟩⟩
      · exact refused_leads _ _ _
  · exact refused_leads _ _ _

theorem runTools_leads {next : Prog Ret Outcome} (tools : List String) (d : Db)
    (h : ∀ d, (engine faults).Leads (growing faults).grows (Wrote c) d [] next) :
    (engine faults).Leads (growing faults).grows (Wrote c) d [] (runTools next tools) := by
  induction tools generalizing d with
  | nil => exact h d
  | cons tool tools ih =>
    refine statement_leads (Wrote.none rfl rfl) fun d₁ _ _ result vs _ run => ?_
    obtain ⟨rfl, -⟩ := run
    split
    · exact ih d₁
    · exact fun _ _ => Wrote.none rfl rfl _ _

theorem store_leads (incoming : Incoming) (d : Db) :
    (engine faults).Leads (growing faults).grows (Wrote (.draft incoming tag)) d [] (draftServer.store tag incoming) := by
  unfold draftServer.store readRequest
  split
  · exact refused_leads _ _ _
  · exact refused_leads _ _ _
  · rename_i body
    split
    · exact refused_leads _ _ _
    · split
      · exact refused_leads _ _ _
      · refine select_leads (Wrote.none rfl rfl _) fun d₁ _ authorized _ => ?_
        split
        · refine select_leads (Wrote.none rfl rfl _) fun d₂ grown₂ found answer => ?_
          cases found with
          | some found =>
            obtain ⟨row, mem, keyed, version, -⟩ := existing_answer answer
            change (engine faults).Leads _ _ _ _ (replayDraft body found.1 found.2)
            unfold replayDraft
            split
            · refine select_leads (Wrote.none rfl rfl _) fun d₃ grown₃ owned _ => ?_
              cases owned
              · exact refused_leads _ _ _
              · exact fun d₄ grown₄ =>
                  ⟨nofun, fun _ => ⟨row, grown₄.subset (grown₃.subset mem), keyed, version⟩⟩
            · exact refused_leads _ _ _
          | none =>
            refine select_leads (Wrote.none rfl rfl _) fun d₃ _ found _ => ?_
            cases found with
            | none => exact refused_leads _ _ _
            | some run =>
              dsimp only
              split
              · exact runTools_leads _ d₃ storeDraft_leads
              · exact fun _ _ => Wrote.none rfl rfl _ _
        · exact refused_leads _ _ _

end Drafts

theorem perform_leads (all deeds : List Deed) (d : Db) {ws : List Write} (foreign : ∀ w ∈ ws, Foreign w) :
    (engine faults).Leads (growing faults).grows (Wrote (.other all)) d ws (perform deeds) := by
  have one : ∀ {ws : List Write} {w : Write}, (∀ w ∈ ws, Foreign w) → Foreign w → ∀ v ∈ ws ++ [w], Foreign v := by
    intro ws w before own v hv
    rcases List.mem_append.mp hv with hv | hv
    · exact before v hv
    · exact List.mem_singleton.mp hv ▸ own
  have writing : ∀ {w : Write} {ws : List Write} {next : Prog Ret Outcome} {d : Db}, Foreign w → (∀ w ∈ ws, Foreign w) →
      (∀ d ws, (∀ w ∈ ws, Foreign w) → (engine faults).Leads (growing faults).grows (Wrote (.other all)) d ws next) →
      (engine faults).Leads (growing faults).grows (Wrote (.other all)) d ws
        (statement (.write w) (.failed .database) fun _ => next) := by
    intro w ws next d own before h
    refine statement_leads (Wrote.none rfl rfl) fun d' _ _ _ vs _ run => ?_
    obtain ⟨⟨-, rfl⟩ | ⟨h, -⟩, -⟩ := run
    · exact h d' _ (one before own)
    · cases h
  induction deeds generalizing d ws with
  | nil => exact fun _ _ => ⟨fun _ => .other all rfl foreign, nofun⟩
  | cons deed rest ih =>
    cases deed with
    | append preimage columns other =>
      exact appendEvent_leads (Wrote.none rfl rfl) (growing faults).trans fun d' previous hash seq _ =>
        ih d' (one foreign (other previous))
    | setRole workspaceId userId role => exact writing trivial foreign fun d ws foreign => ih d foreign
    | deleteWorkspace id deleted => exact writing trivial foreign fun d ws foreign => ih d foreign
    | writeRun id row => exact writing trivial foreign fun d ws foreign => ih d foreign

theorem program_leads (c : Call) (d : Db) :
    (engine faults).Leads (growing faults).grows (Wrote c) d [] ((engine faults).program c) := by
  cases c with
  | keyed runID key content source => exact keyed_leads runID key content source d
  | unkeyed runID content source => exact unkeyed_leads runID content source d
  | draft incoming tag => exact store_leads incoming d
  | other deeds => exact perform_leads deeds deeds d fun w hw => absurd hw List.not_mem_nil

end Calls

end Provisr.Backend.Manifest
