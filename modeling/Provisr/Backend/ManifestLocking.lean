import Provisr.Backend.ManifestPrograms

namespace Provisr.Backend.Manifest

open Provisr.Foundation
open Provisr.Orchestrator (Platform)
open Provisr.Audit (AuditRow)

def withEntry (e : Entry) (rows : List Row) : List Row := rows.filter fun m => decide (e ∈ entries m)

inductive Part where
  | role (role : Option String)
  | deleted (deleted : Bool)
  | run (row : Option RunRow)
  | rows (rows : List Row)
  | advisory

def part : Key → Db → Part
  | .membership workspaceId userId _, d => .role (d.role workspaceId userId)
  | .workspace id _, d => .deleted (d.deleted id)
  | .run id, d => .run (d.runs id)
  | .entry e, d => .rows (withEntry e d.manifests)
  | .advisory _, _ => .advisory

def Part.kept : Part → Prop
  | .rows ms => ms.length ≤ 1
  | _ => True

def touches : Write → Set Key
  | .role workspaceId userId _ => { x | ∃ tag, x = .membership workspaceId userId tag }
  | .workspace id _ => { x | ∃ tag, x = .workspace id tag }
  | .run id _ => {.run id}
  | .manifest row => { x | ∃ e ∈ entries row, x = .entry e }
  | .audit _ => ∅

theorem withEntry_append (e : Entry) (rows : List Row) (row : Row) :
    withEntry e (rows ++ [row]) = withEntry e rows ++ withEntry e [row] := List.filter_append ..

theorem withEntry_untouched {e : Entry} {row : Row} (h : e ∉ entries row) : withEntry e [row] = [] := by
  unfold withEntry
  rw [List.filter_cons_of_neg (by simpa using h), List.filter_nil]

theorem part_apply {x : Key} {w : Write} {d d' : Db} (h : part x d = part x d') :
    part x (apply w d) = part x (apply w d') := by
  cases x with
  | membership workspaceId userId tag =>
    cases w with
    | role other user role =>
      have same : d.role workspaceId userId = d'.role workspaceId userId := Part.role.inj h
      change Part.role (if _ then _ else _) = Part.role (if _ then _ else _)
      rw [same]
    | workspace | run | manifest | audit => exact h
  | workspace id tag =>
    cases w with
    | workspace other deleted =>
      have same : d.deleted id = d'.deleted id := Part.deleted.inj h
      change Part.deleted (if _ then _ else _) = Part.deleted (if _ then _ else _)
      rw [same]
    | role | run | manifest | audit => exact h
  | run id =>
    cases w with
    | run other row =>
      have same : d.runs id = d'.runs id := Part.run.inj h
      change Part.run (if _ then _ else _) = Part.run (if _ then _ else _)
      rw [same]
    | role | workspace | manifest | audit => exact h
  | entry e =>
    cases w with
    | manifest row =>
      have same : withEntry e d.manifests = withEntry e d'.manifests := Part.rows.inj h
      change Part.rows (withEntry e (d.manifests ++ [row])) = Part.rows (withEntry e (d'.manifests ++ [row]))
      rw [withEntry_append, withEntry_append, same]
    | role | workspace | run | audit => exact h
  | advisory key => rfl

theorem part_untouched {x : Key} {w : Write} {d : Db} (h : x ∉ touches w) : part x (apply w d) = part x d := by
  cases x with
  | membership workspaceId userId tag =>
    cases w with
    | role other user role =>
      have apart : ¬ (workspaceId = other ∧ userId = user) := fun e => h ⟨tag, by rw [e.1, e.2]⟩
      exact congrArg Part.role (if_neg apart)
    | workspace | run | manifest | audit => rfl
  | workspace id tag =>
    cases w with
    | workspace other deleted =>
      have apart : id ≠ other := fun e => h ⟨tag, by rw [e]⟩
      exact congrArg Part.deleted (if_neg apart)
    | role | run | manifest | audit => rfl
  | run id =>
    cases w with
    | run other row =>
      have apart : id ≠ other := fun e => h (e ▸ rfl)
      exact congrArg Part.run (if_neg apart)
    | role | workspace | manifest | audit => rfl
  | entry e =>
    cases w with
    | manifest row =>
      have apart : e ∉ entries row := fun he => h ⟨e, he, rfl⟩
      change Part.rows (withEntry e (d.manifests ++ [row])) = Part.rows (withEntry e d.manifests)
      rw [withEntry_append, withEntry_untouched apart, List.append_nil]
    | role | workspace | run | audit => rfl
  | advisory key => rfl

variable [Platform] {faults : Bool}

def protection (faults : Bool) : Protection (engine faults) Part where
  part := part
  touches := touches
  part_apply := part_apply
  part_untouched := part_untouched
  Kept _ p _ := p.kept
  mono _ h := h

-- What must hold of a draft when it is stored: its requester may provision, and the run awaits it.
structure Allowed (body : DraftRequest) (d : Db) : Prop where
  role : ∃ w u, uuidIn body.context.workspaceId = some w ∧ uuidIn body.context.userId = some u ∧
    mayProvision (member d w u) = true
  run : ∃ r w u row, uuidIn body.runId = some r ∧ uuidIn body.context.workspaceId = some w ∧
    uuidIn body.context.userId = some u ∧ ownedRun d r w u = some row ∧ row.state = "MANIFEST_CREATING" ∧
    (row.stateVersion : Int) = body.expectedStateVersion

def Settled (faults : Bool) (c : Call) (o : Outcome) (held : Set Key) (d : Db) (n : Nat) : Prop :=
  o.commits = true → (protection faults).Intact held d n ∧
    ∀ body tag version, c = .draft (.request body) tag → o = .stored version → Allowed body d

section Locks

variable {c : Call} {held : Set Key} {d d' : Db} {n n' : Nat}

omit [Platform] in
theorem exec_error {o : Op} {e : SqlError} {ws : List Write} (run : exec faults o d n (.error e) ws n') :
    ws = [] ∧ n' = n := by
  cases o with
  | select | lockMembership | lockRun | advisoryLock => exact ⟨run.2.1, run.2.2⟩
  | validator => exact run
  | insert row =>
    obtain ⟨⟨_, h, -⟩ | ⟨-, -, rfl⟩ | ⟨-, rfl⟩, rfl⟩ := run
    · cases h
    · exact ⟨rfl, rfl⟩
    · exact ⟨rfl, rfl⟩
  | audit o =>
    obtain ⟨a, rows, h, -⟩ | ⟨-, rfl, rfl⟩ := run
    · cases h
    · exact ⟨rfl, rfl⟩
  | write w =>
    obtain ⟨⟨h, -⟩ | ⟨-, rfl⟩, rfl⟩ := run
    · cases h
    · exact ⟨rfl, rfl⟩

theorem pure_wp {o : Outcome} (h : o.commits = false) :
    (protection faults).wp (Settled faults c) (.pure o) held d n := by
  intro d' n' _ _ commits
  rw [h] at commits
  cases commits

theorem statement_wp {o : Op} {failure : Outcome} {next : Answer o → Prog Ret Outcome} (fails : failure.commits = false)
    (h : ∀ d' n', (protection faults).Rely held d d' → n ≤ n' → ∀ r ws n'', exec faults o d' n' (.ok r) ws n'' →
      n' ≤ n'' ∧ (∀ w ∈ ws, touches w ⊆ held ∪ locks o d') ∧
        (protection faults).wp (Settled faults c) (next r) (held ∪ locks o d') ((engine faults).view ws d') n'') :
    (protection faults).wp (Settled faults c) (statement o failure next) held d n := by
  intro d' n' rely le _ r ws n'' run
  cases r with
  | error e =>
    obtain ⟨rfl, rfl⟩ := exec_error run
    exact ⟨le_rfl, fun w hw => absurd hw List.not_mem_nil, pure_wp fails⟩
  | ok r => exact h d' n' rely le r ws n'' run

theorem reading_wp {o : Op} {failure : Outcome} {next : Answer o → Prog Ret Outcome} {answer : Db → Option (Answer o)}
    (reads : ∀ {d n r ws n'}, exec faults o d n r ws n' → answers faults (answer d) r ∧ ws = [] ∧ n' = n)
    (fails : failure.commits = false)
    (h : ∀ d' n', (protection faults).Rely held d d' → ∀ r, answer d' = some r →
      (protection faults).wp (Settled faults c) (next r) (held ∪ locks o d') d' n') :
    (protection faults).wp (Settled faults c) (statement o failure next) held d n := by
  refine statement_wp fails fun d' n' rely le r ws n'' run => ?_
  obtain ⟨answered, rfl, rfl⟩ := reads run
  exact ⟨le_rfl, fun w hw => absurd hw List.not_mem_nil, h d' n'' rely r (answers_ok answered)⟩

theorem select_wp {q : Query} {failure : Outcome} {next : q.Answer → Prog Ret Outcome} (fails : failure.commits = false)
    (h : ∀ d' n', (protection faults).Rely held d d' → ∀ r, q.answer d' = some r →
      (protection faults).wp (Settled faults c) (next r) held d' n') :
    (protection faults).wp (Settled faults c) (statement (.select q) failure next) held d n := by
  refine reading_wp (fun run => run) fails fun d' n' rely r answer => ?_
  rw [show held ∪ locks (.select q) d' = held from Set.union_empty held]
  exact h d' n' rely r answer

theorem view_audits (rows : List AuditRow) (d : Db) :
    (engine faults).view (rows.map .audit) d = { d with audits := d.audits ++ rows } := by
  induction rows generalizing d with
  | nil => simp
  | cons row rows ih =>
    rw [List.map_cons, Engine.view_cons, ih]
    change ({ d with audits := d.audits ++ [row] ++ rows } : Db) = _
    rw [List.append_assoc]
    rfl

theorem within_wp {α : Type} {p : Prog Audit.Ret α} {failure : Outcome} {next : α → Prog Ret Outcome}
    {J : Set Key → Db → Prop} (fails : failure.commits = false)
    (rely : ∀ {held d d'}, J held d → (protection faults).Rely held d d' → J held d')
    (append : ∀ {held d} o d₀ rows, J held d → J (held ∪ locks (.audit o) d₀) { d with audits := d.audits ++ rows })
    (h : ∀ a held d n, J held d → (protection faults).wp (Settled faults c) (next a) held d n) (start : J held d) :
    (protection faults).wp (Settled faults c) (within failure p next) held d n := by
  induction p generalizing held d n with
  | pure a => exact h a held d n start
  | op o k ih =>
    refine statement_wp fails fun d' n' relied le r ws n'' run => ?_
    obtain ⟨a, rows, hr, run, rfl⟩ | ⟨hr, -⟩ := run
    · obtain rfl := Except.ok.inj hr
      refine ⟨Audit.exec_le run, ?_, ?_⟩
      · intro w hw
        obtain ⟨row, -, rfl⟩ := List.mem_map.mp hw
        exact Set.empty_subset _
      · rw [view_audits]
        exact ih r (append o d' rows (rely start relied))
    · cases hr

def Single (held : Set Key) (d : Db) : Prop := ∀ e, .entry e ∈ held → (withEntry e d.manifests).length ≤ 1

theorem Single.intact (h : Single held d) : (protection faults).Intact held d n := by
  intro x hx
  cases x with
  | membership | workspace | run | advisory => trivial
  | entry e => exact h e hx

theorem Single.rely (h : Single held d) (rely : (protection faults).Rely held d d') : Single held d' := by
  intro e he
  have same : withEntry e d.manifests = withEntry e d'.manifests := Part.rows.inj (rely _ he)
  rw [← same]
  exact h e he

omit [Platform] in
theorem Single.free (free : ∀ e, Key.entry e ∉ held) : Single held d := fun e he => absurd he (free e)

omit [Platform] in
theorem audit_locks_entry {e : Entry} {o : Audit.Op} : Key.entry e ∉ locks (.audit o) d := by
  rintro ⟨key, -, h⟩
  cases h

omit [Platform] in
theorem Single.append (h : Single held d) (o : Audit.Op) (d₀ : Db) (rows : List AuditRow) :
    Single (held ∪ locks (.audit o) d₀) { d with audits := d.audits ++ rows } :=
  fun e he => h e (he.resolve_right audit_locks_entry)

omit [Platform] in
theorem Insertable.entries {row : Insertion} {inserted : Row} (h : Insertable row inserted d) :
    entries inserted = entered row := by
  unfold Manifest.entries entered
  rw [h.run.1, h.version.1, h.idempotencyKey.1]

theorem Single.insert {row : Insertion} {inserted : Row} (untaken : ¬ taken row d)
    (free : ∀ e, Key.entry e ∉ held) :
    Single (held ∪ locks (.insert row) d) ((engine faults).view [.manifest inserted] d) := by
  intro e he
  obtain ⟨-, e', mem, same⟩ := he.resolve_left (free e)
  cases same
  change (withEntry e (d.manifests ++ [inserted])).length ≤ 1
  have fresh : withEntry e d.manifests = [] := by
    refine List.filter_eq_nil_iff.mpr fun m hm hm' => untaken ⟨m, hm, e, of_decide_eq_true hm', mem⟩
  rw [withEntry_append, fresh, List.nil_append]
  exact List.length_filter_le _ _

theorem insert_wp {row : Insertion} {failure : Outcome} {next : Row → Prog Ret Outcome} (fails : failure.commits = false)
    (free : ∀ e, Key.entry e ∉ held)
    (h : ∀ d' n' inserted, (protection faults).Rely held d d' → Insertable row inserted d' →
      Single (held ∪ locks (.insert row) d') ((engine faults).view [.manifest inserted] d') →
      (protection faults).wp (Settled faults c) (next inserted) (held ∪ locks (.insert row) d')
        ((engine faults).view [.manifest inserted] d') n') :
    (protection faults).wp (Settled faults c) (statement (.insert row) failure next) held d n := by
  refine statement_wp fails fun d' n' rely le r ws n'' run => ?_
  obtain ⟨⟨inserted, same, insertable, untaken, rfl⟩ | ⟨h, -⟩ | ⟨h, -⟩, rfl⟩ := run
  · obtain rfl := Except.ok.inj same
    refine ⟨le_rfl, fun w hw => ?_, h d' n'' r rely insertable (.insert untaken free)⟩
    rw [List.mem_singleton.mp hw]
    rintro x ⟨e, he, rfl⟩
    exact Or.inr ⟨untaken, e, insertable.entries ▸ he, rfl⟩
  · cases h
  · cases h

theorem committed_wp {o : Outcome} (single : Single held d) (other : ∀ version, o ≠ .stored version) :
    (protection faults).wp (Settled faults c) (.pure o) held d n :=
  fun _ _ rely _ _ => ⟨(single.rely rely).intact, fun _ _ version _ stored => absurd stored (other version)⟩

section Stores

variable {runID key content hash : String} {sourceMetadata : JsJson}

theorem insertKeyed_wp (free : ∀ e, Key.entry e ∉ held) :
    (protection faults).wp (Settled faults c) (insertKeyed runID key content hash sourceMetadata) held d n :=
  select_wp rfl fun _ _ _ _ _ => insert_wp rfl free fun _ _ _ _ _ single => committed_wp single nofun

theorem storeKeyed_wp (free : ∀ e, Key.entry e ∉ held) :
    (protection faults).wp (Settled faults c) (storeKeyed runID key content hash sourceMetadata) held d n := by
  refine reading_wp (fun run => run) rfl fun d₁ n₁ _ _ _ => select_wp rfl fun d₂ n₂ _ found _ => ?_
  cases found with
  | some row =>
    change (protection faults).wp _ (replayKeyed content row) _ _ _
    unfold replayKeyed
    split
    · exact pure_wp rfl
    · exact pure_wp rfl
  | none => exact insertKeyed_wp fun e he => he.elim (free e) fun h => nomatch h

theorem attempts_wp (free : ∀ e, Key.entry e ∉ held) (left : Nat) :
    (protection faults).wp (Settled faults c) (attempts runID content hash sourceMetadata left) held d n := by
  induction left generalizing held d n with
  | zero => exact pure_wp rfl
  | succ left ih =>
    refine select_wp rfl fun d₁ n₁ _ version _ => ?_
    intro d₂ n₂ rely le _ r ws n₃ run
    obtain ⟨⟨inserted, rfl, insertable, untaken, rfl⟩ | ⟨rfl, conflict, rfl⟩ | ⟨rfl, rfl⟩, rfl⟩ := run
    · refine ⟨le_rfl, fun w hw => ?_, committed_wp (.insert untaken free) nofun⟩
      rw [List.mem_singleton.mp hw]
      rintro x ⟨e, he, rfl⟩
      exact Or.inr ⟨untaken, e, insertable.entries ▸ he, rfl⟩
    · exact ⟨le_rfl, fun w hw => absurd hw List.not_mem_nil, ih fun e he => he.elim (free e) fun h => h.1 conflict⟩
    · exact ⟨le_rfl, fun w hw => absurd hw List.not_mem_nil, pure_wp rfl⟩

end Stores

section Drafts

variable {body : DraftRequest} {tag : Nat}

structure Granted (body : DraftRequest) (tag : Nat) (held : Set Key) (d : Db) : Prop where
  role : ∃ w u, uuidIn body.context.workspaceId = some w ∧ uuidIn body.context.userId = some u ∧
    .membership w u tag ∈ held ∧ .workspace w tag ∈ held ∧ mayProvision (member d w u) = true

structure Awaited (body : DraftRequest) (tag : Nat) (held : Set Key) (d : Db) : Prop extends
    Granted body tag held d where
  run : ∃ r w u row, uuidIn body.runId = some r ∧ uuidIn body.context.workspaceId = some w ∧
    uuidIn body.context.userId = some u ∧ .run r ∈ held ∧ ownedRun d r w u = some row ∧
    row.state = "MANIFEST_CREATING" ∧ (row.stateVersion : Int) = body.expectedStateVersion

theorem Granted.rely (h : Granted body tag held d) (rely : (protection faults).Rely held d d') :
    Granted body tag held d' := by
  obtain ⟨w, u, hw, hu, membership, workspace, may⟩ := h.role
  refine ⟨w, u, hw, hu, membership, workspace, ?_⟩
  have role : d.role w u = d'.role w u := Part.role.inj (rely _ membership)
  have deleted : d.deleted w = d'.deleted w := Part.deleted.inj (rely _ workspace)
  unfold member at may ⊢
  rwa [← role, ← deleted]

theorem Awaited.rely (h : Awaited body tag held d) (rely : (protection faults).Rely held d d') :
    Awaited body tag held d' := by
  obtain ⟨r, w, u, row, hr, hw, hu, locked, owned, state, version⟩ := h.run
  refine ⟨h.toGranted.rely rely, r, w, u, row, hr, hw, hu, locked, ?_, state, version⟩
  have run : d.runs r = d'.runs r := Part.run.inj (rely _ locked)
  unfold ownedRun at owned ⊢
  rwa [← run]

omit [Platform] in
theorem Granted.mono {held' : Set Key} (h : Granted body tag held d) (more : held ⊆ held') : Granted body tag held' d := by
  obtain ⟨w, u, hw, hu, membership, workspace, may⟩ := h.role
  exact ⟨w, u, hw, hu, more membership, more workspace, may⟩

omit [Platform] in
theorem Awaited.mono {held' : Set Key} (h : Awaited body tag held d) (more : held ⊆ held') :
    Awaited body tag held' d := by
  obtain ⟨r, w, u, row, hr, hw, hu, locked, rest⟩ := h.run
  exact ⟨h.toGranted.mono more, r, w, u, row, hr, hw, hu, more locked, rest⟩

omit [Platform] in
theorem Awaited.allowed (h : Awaited body tag held d) : Allowed body d := by
  obtain ⟨w, u, hw, hu, -, -, may⟩ := h.role
  obtain ⟨r, w', u', row, hr, hw', hu', -, rest⟩ := h.run
  exact ⟨⟨w, u, hw, hu, may⟩, r, w', u', row, hr, hw', hu', rest⟩

theorem Awaited.insert (h : Awaited body tag held d) (row : Row) :
    Awaited body tag held ((engine faults).view [.manifest row] d) := ⟨⟨h.role⟩, h.run⟩

variable (faults) in
theorem insertDraft_wp (call : c = .draft (.request body) tag) (awaited : Awaited body tag held d)
    (free : ∀ e, Key.entry e ∉ held) :
    (protection faults).wp (Settled faults c) (insertDraft body) held d n := by
  refine select_wp rfl fun d₁ n₁ rely₁ version _ => ?_
  refine insert_wp rfl free fun d₂ n₂ row rely₂ _ single => ?_
  have awaited₂ : Awaited body tag held d₂ := (awaited.rely rely₁).rely rely₂
  refine within_wp (J := fun held d => Awaited body tag held d ∧ Single held d) rfl
    (fun h rely => ⟨h.1.rely rely, h.2.rely rely⟩) ?_ ?_ ⟨(awaited₂.mono Set.subset_union_left).insert row, single⟩
  · rintro held d o d₀ rows ⟨awaited, single⟩
    exact ⟨⟨⟨(awaited.mono Set.subset_union_left).role⟩, (awaited.mono Set.subset_union_left).run⟩,
      single.append o d₀ rows⟩
  · rintro _ held d n ⟨awaited, single⟩ d' n' rely _ _
    refine ⟨(single.rely rely).intact, fun body' tag' version' same _ => ?_⟩
    cases call.symm.trans same
    exact (awaited.rely rely).allowed

theorem selectExistingDraft_wp (call : c = .draft (.request body) tag) (awaited : Awaited body tag held d)
    (free : ∀ e, Key.entry e ∉ held) :
    (protection faults).wp (Settled faults c) (selectExistingDraft body) held d n := by
  refine select_wp rfl fun d₁ n₁ rely₁ found _ => ?_
  cases found with
  | some found =>
    obtain ⟨version, sameContent⟩ := found
    cases sameContent
    · exact pure_wp rfl
    · exact pure_wp rfl
  | none => exact insertDraft_wp faults call (awaited.rely rely₁) free

theorem lockDraftRun_wp (call : c = .draft (.request body) tag) (granted : Granted body tag held d)
    (free : ∀ e, Key.entry e ∉ held) :
    (protection faults).wp (Settled faults c) (lockDraftRun body) held d n := by
  refine reading_wp (fun run => run) rfl fun d₁ n₁ rely₁ found answer => ?_
  simp only [lockedRun, Option.bind_eq_bind, Option.bind_eq_some_iff, Option.some.injEq] at answer
  obtain ⟨r, hr, w, hw, u, hu, selected⟩ := answer
  cases found with
  | none => exact pure_wp rfl
  | some found =>
    obtain ⟨row, owned, rfl⟩ := Option.map_eq_some_iff.mp selected
    dsimp only
    split
    · rename_i awaits
      refine selectExistingDraft_wp call ⟨(granted.rely rely₁).mono Set.subset_union_left, r, w, u, row, hr, hw, hu, ?_,
        owned, awaits⟩ fun e he => he.elim (free e) fun h => ?_
      · exact Or.inr ⟨r, w, u, hr, hw, hu, by rw [owned]; rfl, rfl⟩
      · obtain ⟨_, _, _, _, _, _, _, h⟩ := h
        cases h
    · exact pure_wp rfl

theorem storeDraft_wp (call : c = .draft (.request body) tag) (free : ∀ e, Key.entry e ∉ held) :
    (protection faults).wp (Settled faults c) (storeDraft body tag) held d n := by
  refine reading_wp (fun run => run) rfl fun d₁ n₁ _ role answer => ?_
  simp only [lockedMember, Option.bind_eq_bind, Option.bind_eq_some_iff, Option.some.injEq] at answer
  obtain ⟨w, hw, u, hu, rfl⟩ := answer
  split
  · rename_i may
    have some : (member d₁ w u).isSome := by
      cases hm : member d₁ w u with
      | some _ => rfl
      | none =>
        rw [hm] at may
        cases may
    refine lockDraftRun_wp call ⟨w, u, hw, hu, Or.inr ⟨w, u, hw, hu, some, Or.inl rfl⟩,
      Or.inr ⟨w, u, hw, hu, some, Or.inr rfl⟩, may⟩ fun e he => he.elim (free e) fun h => ?_
    obtain ⟨_, _, _, _, _, h | h⟩ := h
    · cases h
    · cases h
  · exact pure_wp rfl

theorem runTools_wp {next : Prog Ret Outcome} (tools : List String)
    (h : ∀ d n, (protection faults).wp (Settled faults c) next ∅ d n) :
    (protection faults).wp (Settled faults c) (runTools next tools) ∅ d n := by
  induction tools generalizing d n with
  | nil => exact h d n
  | cons tool tools ih =>
    refine statement_wp rfl fun d₁ n₁ _ _ result ws n₂ run => ?_
    obtain ⟨rfl, rfl⟩ := run
    refine ⟨le_rfl, fun w hw => absurd hw List.not_mem_nil, ?_⟩
    rw [show (∅ : Set Key) ∪ locks (.validator tool) d₁ = ∅ from Set.union_empty _]
    split
    · exact ih
    · exact pure_wp rfl

theorem validateDraft_wp {next : Prog Ret Outcome} (h : ∀ d n, (protection faults).wp (Settled faults c) next ∅ d n) :
    (protection faults).wp (Settled faults c) (validateDraft body next) ∅ d n := by
  refine select_wp rfl fun d₁ n₁ _ found _ => ?_
  cases found with
  | none => exact pure_wp rfl
  | some run =>
    dsimp only
    split
    · exact runTools_wp _ h
    · exact pure_wp rfl

theorem store_wp (incoming : Incoming) :
    (protection faults).wp (Settled faults (.draft incoming tag)) (draftServer.store tag incoming) ∅ d n := by
  unfold draftServer.store readRequest
  split
  · exact pure_wp rfl
  · exact pure_wp rfl
  · rename_i body
    split
    · exact pure_wp rfl
    · split
      · exact pure_wp rfl
      · refine select_wp rfl fun d₁ n₁ _ authorized _ => ?_
        split
        · refine select_wp rfl fun d₂ n₂ _ found _ => ?_
          cases found with
          | some found =>
            change (protection faults).wp _ (replayDraft body found.1 found.2) _ _ _
            unfold replayDraft
            split
            · refine select_wp rfl fun d₃ n₃ _ owned _ => ?_
              cases owned
              · exact pure_wp rfl
              · exact pure_wp rfl
            · exact pure_wp rfl
          | none => exact validateDraft_wp fun d n => storeDraft_wp rfl fun e he => he
        · exact pure_wp rfl

end Drafts

theorem perform_wp (deeds : List Deed) (free : ∀ e, Key.entry e ∉ held) :
    (protection faults).wp (Settled faults c) (perform deeds) held d n := by
  have writing : ∀ {w : Write} {next : Prog Ret Outcome} {held : Set Key} {d : Db} {n : Nat},
      (∀ d, touches w ⊆ locks (.write w) d ∧ ∀ e, Key.entry e ∉ locks (.write w) d) → (∀ e, Key.entry e ∉ held) →
      (∀ d n held, (∀ e, Key.entry e ∉ held) → (protection faults).wp (Settled faults c) next held d n) →
      (protection faults).wp (Settled faults c) (statement (.write w) (.failed .database) fun _ => next) held d n := by
    intro w next held d n locked free h
    refine statement_wp rfl fun d₁ n₁ _ _ r ws n₂ run => ?_
    obtain ⟨⟨-, rfl⟩ | ⟨h, -⟩, rfl⟩ := run
    · refine ⟨le_rfl, fun v hv => ?_, h _ _ _ fun e he => he.elim (free e) ((locked d₁).2 e)⟩
      rw [List.mem_singleton.mp hv]
      exact (locked d₁).1.trans Set.subset_union_right
    · cases h
  induction deeds generalizing held d n with
  | nil => exact committed_wp (.free free) nofun
  | cons deed rest ih =>
    cases deed with
    | append preimage columns other =>
      refine within_wp (J := fun held _ => ∀ e, Key.entry e ∉ held) rfl (fun free _ => free) ?_
        (fun _ _ _ _ free => ih free) free
      intro held d o d₀ rows free e he
      exact he.elim (free e) audit_locks_entry
    | setRole workspaceId userId role =>
      exact writing (fun _ => ⟨le_rfl, fun e ⟨_, h⟩ => nomatch h⟩) free fun _ _ _ free => ih free
    | deleteWorkspace id deleted =>
      exact writing (fun _ => ⟨le_rfl, fun e ⟨_, h⟩ => nomatch h⟩) free fun _ _ _ free => ih free
    | writeRun id row =>
      exact writing (fun _ => ⟨le_rfl, fun e h => nomatch h⟩) free fun _ _ _ free => ih free

end Locks

def locking (faults : Bool) : Locking (engine faults) Part where
  toProtection := protection faults
  Post := Settled faults
  commits ok post := (post ok).1
  program c d n := by
    cases c with
    | keyed runID key content sourceMetadata =>
      change (protection faults).wp _ (StoreManifestVersionWithKey runID key content sourceMetadata) _ _ _
      unfold StoreManifestVersionWithKey
      split
      · exact pure_wp rfl
      · split
        · exact pure_wp rfl
        · split
          · exact pure_wp rfl
          · exact storeKeyed_wp fun e he => he
    | unkeyed runID content sourceMetadata =>
      change (protection faults).wp _ (StoreManifestVersion runID content sourceMetadata) _ _ _
      unfold StoreManifestVersion
      split
      · exact pure_wp rfl
      · split
        · exact pure_wp rfl
        · exact attempts_wp (fun e he => absurd he (Set.notMem_empty _)) _
    | draft incoming tag => exact store_wp incoming
    | other deeds => exact perform_wp deeds fun e he => he

end Provisr.Backend.Manifest
