import Provisr.Backend.IacArtifactStore

namespace Provisr.Backend

open Provisr.Foundation
open Provisr.Orchestrator (TerraformFile Platform ManifestRow ArtifactRow)
open Provisr.Audit (AuditRow)

namespace Iac

def withEntry (e : Entry) (rows : List ArtifactRow) : List ArtifactRow := rows.filter fun a => decide (e ∈ entries a)

abbrev Part := Option RunRow × List ArtifactRow

def part : Key → IacDb → Part
  | .run id, d => (d.runs id, [])
  | .entry e, d => (none, withEntry e d.artifacts)
  | .advisory _, _ => (none, [])

def touches : Write → Set Key
  | .run id _ => {.run id}
  | .artifact row => { x | ∃ e ∈ entries row, x = .entry e }
  | _ => ∅

theorem withEntry_append (e : Entry) (rows : List ArtifactRow) (row : ArtifactRow) :
    withEntry e (rows ++ [row]) = withEntry e rows ++ withEntry e [row] := List.filter_append ..

theorem withEntry_untouched {e : Entry} {row : ArtifactRow} (h : e ∉ entries row) : withEntry e [row] = [] := by
  unfold withEntry
  rw [List.filter_cons_of_neg (by simpa using h), List.filter_nil]

variable [Platform] {faults : Bool} {render : Render}

def protection (faults : Bool) (render : Render) : Protection (engine faults render) Part where
  part := part
  touches := touches
  part_apply := by
    intro x w d d' h
    change part x (apply w d) = part x (apply w d')
    cases x with
    | run id =>
      cases w with
      | run other row =>
        have same : d.runs id = d'.runs id := congrArg Prod.fst h
        refine Prod.ext ?_ rfl
        change (if id = other then some row else d.runs id) = if id = other then some row else d'.runs id
        rw [same]
      | role | manifest | artifact | audit => exact h
    | entry e =>
      cases w with
      | artifact row =>
        have same : withEntry e d.artifacts = withEntry e d'.artifacts := congrArg Prod.snd h
        refine Prod.ext rfl ?_
        change withEntry e (d.artifacts ++ [row]) = withEntry e (d'.artifacts ++ [row])
        rw [withEntry_append, withEntry_append, same]
      | role | run | manifest | audit => exact h
    | advisory key => rfl
  part_untouched := by
    intro x w d h
    change part x (apply w d) = part x d
    cases x with
    | run id =>
      cases w with
      | run other row =>
        have hne : id ≠ other := fun e => h (e ▸ rfl)
        exact Prod.ext (if_neg hne) rfl
      | role | manifest | artifact | audit => rfl
    | entry e =>
      cases w with
      | artifact row =>
        have untouched : e ∉ entries row := fun he => h ⟨e, he, rfl⟩
        refine Prod.ext rfl ?_
        change withEntry e (d.artifacts ++ [row]) = withEntry e d.artifacts
        rw [withEntry_append, withEntry_untouched untouched, List.append_nil]
      | role | run | manifest | audit => rfl
    | advisory key => rfl
  Kept _ p _ := p.2.length ≤ 1
  mono _ h := h

def Generating (a : Artifact) (d : IacDb) : Prop :=
  ∃ run, d.runs a.runId = some run ∧ run.workspaceId = a.workspaceId ∧ run.lock.state = "IAC_GENERATING" ∧
    run.lock.active = some a.manifestVersion ∧ run.lock.validated = some a.manifestVersion ∧
    run.lock.confirmed = some a.manifestVersion

def Settled (faults : Bool) (render : Render) (_ : Call) (o : Outcome) (held : Set Key) (d : IacDb) (n : Nat) : Prop :=
  o.commits = true → (protection faults render).Intact held d n ∧ ∀ a, o = .created a → Generating a d

section Locks

variable {c : Call} {held : Set Key} {d d' : IacDb} {n n' : Nat}

omit [Platform] in
theorem exec_error {o : Op} {e : Unit} {ws : List Write} (run : exec faults o d n (.error e) ws n') :
    ws = [] ∧ n' = n := by
  cases o with
  | select q => exact ⟨run.2.1, run.2.2⟩
  | lockRun id workspaceId => exact ⟨run.2.1, run.2.2⟩
  | insertArtifact row =>
    obtain ⟨⟨h, -⟩ | ⟨-, rfl⟩, rfl⟩ := run
    · cases h
    · exact ⟨rfl, rfl⟩
  | audit o =>
    obtain ⟨a, rows, h, -⟩ | ⟨-, rfl, rfl⟩ := run
    · cases h
    · exact ⟨rfl, rfl⟩
  | write w =>
    obtain ⟨⟨h, -⟩ | ⟨-, rfl⟩, rfl⟩ := run
    · cases h
    · exact ⟨rfl, rfl⟩

theorem pure_wp {o : Outcome} (h : o.commits = false) :
    (protection faults render).wp (Settled faults render c) (.pure o) held d n := by
  intro d' n' _ _ commits
  rw [h] at commits
  cases commits

theorem statement_wp {o : Op} {next : Answer o → Prog Ret Outcome}
    (h : ∀ d' n', (protection faults render).Rely held d d' → n ≤ n' → ∀ r ws n'',
      exec faults o d' n' (.ok r) ws n'' → n' ≤ n'' ∧ (∀ w ∈ ws, touches w ⊆ held ∪ locks o d') ∧
        (protection faults render).wp (Settled faults render c) (next r) (held ∪ locks o d')
          ((engine faults render).view ws d') n'') :
    (protection faults render).wp (Settled faults render c) (statement o next) held d n := by
  intro d' n' rely le _ r ws n'' run
  cases r with
  | error e =>
    obtain ⟨rfl, rfl⟩ := exec_error run
    exact ⟨le_rfl, fun w hw => absurd hw List.not_mem_nil, pure_wp rfl⟩
  | ok r => exact h d' n' rely le r ws n'' run

omit [Platform] in
theorem answers_ok {α : Type} {a b : α} (h : answers faults a (.ok b)) : b = a := by
  obtain h | ⟨-, h⟩ := h
  · exact Except.ok.inj h
  · cases h

theorem select_wp {q : Query} {next : q.Answer → Prog Ret Outcome}
    (h : ∀ d' n', (protection faults render).Rely held d d' →
      (protection faults render).wp (Settled faults render c) (next (q.answer d')) held d' n') :
    (protection faults render).wp (Settled faults render c) (statement (.select q) next) held d n := by
  refine statement_wp fun d' n' rely le r ws n'' run => ?_
  obtain ⟨answer, rfl, rfl⟩ := run
  obtain rfl := answers_ok answer
  refine ⟨le_rfl, fun w hw => absurd hw List.not_mem_nil, ?_⟩
  rw [show held ∪ locks (.select q) d' = held from Set.union_empty held]
  exact h d' n'' rely

theorem view_audits (rows : List AuditRow) (d : IacDb) :
    (engine faults render).view (rows.map .audit) d = { d with audits := d.audits ++ rows } := by
  induction rows generalizing d with
  | nil => simp
  | cons row rows ih =>
    rw [List.map_cons, Engine.view_cons, ih]
    change ({ d with audits := d.audits ++ [row] ++ rows } : IacDb) = _
    rw [List.append_assoc]
    rfl

theorem within_wp {α : Type} {p : Prog Audit.Ret α} {next : α → Prog Ret Outcome} {J : Set Key → IacDb → Prop}
    (rely : ∀ {held d d'}, J held d → (protection faults render).Rely held d d' → J held d')
    (append : ∀ {held d} o d₀ rows, J held d → J (held ∪ locks (.audit o) d₀) { d with audits := d.audits ++ rows })
    (h : ∀ a held d n, J held d → (protection faults render).wp (Settled faults render c) (next a) held d n)
    (start : J held d) :
    (protection faults render).wp (Settled faults render c) (within p next) held d n := by
  induction p generalizing held d n with
  | pure a => exact h a held d n start
  | op o k ih =>
    refine statement_wp fun d' n' relied le r ws n'' run => ?_
    obtain ⟨a, rows, hr, run, rfl⟩ | ⟨hr, -⟩ := run
    · obtain rfl := Except.ok.inj hr
      refine ⟨Audit.exec_le run, ?_, ?_⟩
      · intro w hw
        obtain ⟨row, -, rfl⟩ := List.mem_map.mp hw
        exact Set.empty_subset _
      · rw [view_audits]
        exact ih r (append o d' rows (rely start relied))
    · cases hr

theorem intact_of_entries (h : ∀ e, .entry e ∈ held → (withEntry e d.artifacts).length ≤ 1) :
    (protection faults render).Intact held d n := by
  intro x hx
  cases x with
  | run id => exact Nat.zero_le 1
  | entry e => exact h e hx
  | advisory key => exact Nat.zero_le 1

omit [Platform] in
theorem audit_locks_entry {e : Entry} {o : Audit.Op} : Key.entry e ∉ locks (.audit o) d := by
  rintro ⟨key, -, h⟩
  cases h

theorem perform_wp (deeds : List Deed) (free : ∀ e, Key.entry e ∉ held) :
    (protection faults render).wp (Settled faults render c) (perform deeds) held d n := by
  induction deeds generalizing held d n with
  | nil =>
    intro d' n' _ _ _
    exact ⟨intact_of_entries fun e he => absurd he (free e), nofun⟩
  | cons deed rest ih =>
    cases deed with
    | append preimage columns other =>
      refine within_wp (J := fun held _ => ∀ e, Key.entry e ∉ held) (fun free _ => free) ?_ (fun _ _ _ _ free => ih free) free
      intro held d o d₀ rows free e he
      exact he.elim (free e) audit_locks_entry
    | setRole workspaceId userId role =>
      refine statement_wp fun d' n' _ le r ws n'' run => ?_
      obtain ⟨⟨-, rfl⟩ | ⟨h, -⟩, rfl⟩ := run
      · refine ⟨le_rfl, fun w hw => ?_, ih fun e he => he.elim (free e) (Set.notMem_empty _)⟩
        rw [List.mem_singleton.mp hw]
        exact Set.empty_subset _
      · cases h
    | writeRun id row =>
      refine statement_wp fun d' n' _ le r ws n'' run => ?_
      obtain ⟨⟨-, rfl⟩ | ⟨h, -⟩, rfl⟩ := run
      · refine ⟨le_rfl, fun w hw => ?_, ih fun e he => he.elim (free e) fun h => nomatch h⟩
        rw [List.mem_singleton.mp hw]
        exact Set.subset_union_right
      · cases h
    | storeManifest row =>
      refine statement_wp fun d' n' _ le r ws n'' run => ?_
      obtain ⟨⟨-, rfl⟩ | ⟨h, -⟩, rfl⟩ := run
      · refine ⟨le_rfl, fun w hw => ?_, ih fun e he => he.elim (free e) (Set.notMem_empty _)⟩
        rw [List.mem_singleton.mp hw]
        exact Set.empty_subset _
      · cases h

structure Locked (input : Request) (row : RunRow) (held : Set Key) (d : IacDb) : Prop where
  locked : .run input.context.requestId ∈ held
  found : d.runs input.context.requestId = some row
  workspace : row.workspaceId = input.context.workspaceId
  free : ∀ e, Key.entry e ∉ held

theorem Locked.rely {input : Request} {run : RunRow} (h : Locked input run held d)
    (rely : (protection faults render).Rely held d d') : Locked input run held d' where
  locked := h.locked
  found := (congrArg Prod.fst (rely _ h.locked)).symm.trans h.found
  workspace := h.workspace
  free := h.free

structure Storing (a : Artifact) (held : Set Key) (d : IacDb) : Prop where
  locked : .run a.runId ∈ held
  generating : Generating a d
  single : ∀ e, .entry e ∈ held → (withEntry e d.artifacts).length ≤ 1

theorem Storing.rely {a : Artifact} (h : Storing a held d)
    (rely : (protection faults render).Rely held d d') : Storing a held d' where
  locked := h.locked
  generating := by
    obtain ⟨run, hrun, facts⟩ := h.generating
    exact ⟨run, (congrArg Prod.fst (rely _ h.locked)).symm.trans hrun, facts⟩
  single e he := by
    have same : withEntry e d.artifacts = withEntry e d'.artifacts := congrArg Prod.snd (rely _ he)
    rw [← same]
    exact h.single e he

omit [Platform] in
theorem Storing.append {a : Artifact} (h : Storing a held d) (o : Audit.Op) (d₀ : IacDb)
    (rows : List AuditRow) : Storing a (held ∪ locks (.audit o) d₀) { d with audits := d.audits ++ rows } where
  locked := Or.inl h.locked
  generating := h.generating
  single e he := h.single e (he.resolve_right audit_locks_entry)

omit [Platform] in
theorem matches_version {run : RunLock} {input : Request} {version : Nat} (h : run.matches input version = true) :
    run.active = some version ∧ run.validated = some version ∧ run.confirmed = some version := by
  simp only [RunLock.matches, Bool.and_eq_true, beq_iff_eq] at h
  exact ⟨h.1.1.2, h.1.2, h.2⟩

variable {input : Request} {newId : String} {run : RunRow} {m : ManifestRow}

theorem create_wp (locked : Locked input run held d) (matching : run.lock.matches input m.version = true)
    (state : run.lock.state = "IAC_GENERATING") :
    (protection faults render).wp (Settled faults render c) (create render input newId m) held d n := by
  unfold create
  cases hr : render m.content with
  | error failure => exact pure_wp rfl
  | ok rendered =>
    dsimp only
    split
    · exact pure_wp rfl
    · refine statement_wp fun d' n' rely le r ws n'' run' => ?_
      have locked' := locked.rely rely
      obtain ⟨⟨-, insertable, rfl⟩ | ⟨h, -⟩, rfl⟩ := run'
      · refine ⟨le_rfl, fun w hw => ?_, ?_⟩
        · rw [List.mem_singleton.mp hw]
          exact Set.subset_union_right
        refine within_wp (J := Storing (Artifact.construct newId input m.version rendered.1 rendered.2))
          (fun h rely => h.rely rely) (fun o d₀ rows h => h.append o d₀ rows) ?_ ?_
        · intro _ held d n h d' n' rely _ _
          have after := h.rely rely
          refine ⟨intact_of_entries after.single, fun a ha => ?_⟩
          cases ha
          exact after.generating
        · refine ⟨Or.inl locked'.locked, ⟨run, locked'.found, locked'.workspace, state, matches_version matching⟩, ?_⟩
          intro e he
          obtain ⟨e', mem, he'⟩ := he.resolve_left (locked'.free e)
          cases he'
          change (withEntry e (d'.artifacts ++ [_])).length ≤ 1
          have fresh : withEntry e d'.artifacts = [] := by
            refine List.filter_eq_nil_iff.mpr fun a ha ha' => ?_
            exact insertable.unique a ha e (of_decide_eq_true ha') mem
          rw [withEntry_append, fresh, List.nil_append]
          exact List.length_filter_le _ _
      · cases h

theorem selectLocked_wp (free : ∀ e, Key.entry e ∉ held) :
    (protection faults render).wp (Settled faults render c) (selectLocked render input newId) held d n := by
  refine statement_wp fun d' n' _ le r ws n'' run => ?_
  obtain ⟨answer, rfl, rfl⟩ := run
  obtain rfl := answers_ok answer
  refine ⟨le_rfl, fun w hw => absurd hw List.not_mem_nil, ?_⟩
  cases hrow : selectRun d' input.context.requestId input.context.workspaceId with
  | none => exact pure_wp rfl
  | some row =>
    obtain ⟨hrun, hws⟩ := Option.filter_eq_some_iff.mp hrow
    have locked : Locked input row (held ∪ locks (.lockRun input.context.requestId input.context.workspaceId) d') d' := by
      refine ⟨Or.inr ⟨rfl, by rw [hrow]; rfl⟩, hrun, by simpa using hws, fun e he => ?_⟩
      obtain ⟨h, -⟩ := he.resolve_left (free e)
      cases h
    refine select_wp fun d₁ n₁ rely₁ => ?_
    cases Query.answer (.manifest input.manifestId input.context.requestId) d₁ with
    | none => exact pure_wp rfl
    | some m =>
      change (protection faults render).wp _ (selectExisting render input newId row m) _ _ _
      unfold selectExisting
      split
      · rename_i matching
        refine select_wp fun d₂ n₂ rely₂ => ?_
        cases Query.answer (.byKey input.context.requestId input.context.idempotencyKey) d₂ with
        | some found =>
          change (protection faults render).wp _ (replay input found) _ _ _
          unfold replay
          split
          · exact pure_wp rfl
          · split
            · exact pure_wp rfl
            · exact pure_wp rfl
        | none =>
          change (protection faults render).wp _ (requireNew render input newId row m) _ _ _
          unfold requireNew
          split
          · exact pure_wp rfl
          · rename_i state
            refine select_wp fun d₃ n₃ rely₃ => ?_
            cases Query.answer (.terraform input.context.requestId input.manifestId) d₃ with
            | some found => exact pure_wp rfl
            | none => exact create_wp (((locked.rely rely₁).rely rely₂).rely rely₃) matching (not_not.mp state)
      · exact pure_wp rfl

theorem generate_wp (request : Request) :
    (protection faults render).wp (Settled faults render c) (DBGenerator.Generate render newId request) ∅ d n := by
  unfold DBGenerator.Generate
  cases validRequest request with
  | none => exact pure_wp rfl
  | some input =>
    refine select_wp fun d' n' _ => ?_
    split
    · exact selectLocked_wp fun e he => he
    · exact pure_wp rfl

end Locks

def locking (faults : Bool) (render : Render) : Locking (engine faults render) Part where
  toProtection := protection faults render
  Post := Settled faults render
  commits ok post := (post ok).1
  program c d n := by
    cases c with
    | generate request newId => exact generate_wp request
    | other deeds => exact perform_wp deeds fun e he => he

end Iac

end Provisr.Backend
