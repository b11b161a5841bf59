import Provisr.Workspace.LastAdmin

namespace Provisr.Workspace

open Provisr.Foundation
open Provisr.Orchestrator (Platform)
open Provisr.Backend (GoUnicode TrimSpace)

section Keys

variable {d : Db} {w : PgUuid} {k m : String} {v : Write}

theorem keys_apply_none (h : (apply v d).keys w k = none) : d.keys w k = none := by
  cases v with
  | key w' k' m' =>
    change (if _ then _ else _) = none at h
    split at h
    · cases h
    · exact h
  | _ => exact h

theorem keys_apply_other (h : ∀ m, v ≠ .key w k m) : (apply v d).keys w k = d.keys w k := by
  cases v with
  | key w' k' m' =>
    refine if_neg ?_
    rintro ⟨rfl, rfl⟩
    exact h m' rfl
  | _ => rfl

variable [Platform] [GoUnicode] {fold : Char → Char} {faults : Bool} {ws : List Write}

theorem keys_view_none (h : ((engine fold faults).view ws d).keys w k = none) : d.keys w k = none := by
  induction ws generalizing d with
  | nil => exact h
  | cons v ws ih => exact keys_apply_none (ih h)

theorem keys_view_other (h : ∀ m, .key w k m ∉ ws) : ((engine fold faults).view ws d).keys w k = d.keys w k := by
  induction ws generalizing d with
  | nil => rfl
  | cons v ws ih =>
    refine (ih fun m mem => h m (List.mem_cons_of_mem v mem)).trans (keys_apply_other fun m same => ?_)
    exact h m (same ▸ List.mem_cons_self)

theorem keys_view_mem (mem : .key w k m ∈ ws) (single : ∀ m', .key w k m' ∈ ws → m' = m) :
    ((engine fold faults).view ws d).keys w k = some m := by
  induction ws generalizing d with
  | nil => cases mem
  | cons v ws ih =>
    by_cases later : .key w k m ∈ ws
    · exact ih later fun m' mem' => single m' (List.mem_cons_of_mem v mem')
    · have own : .key w k m = v := (List.mem_cons.mp mem).resolve_right later
      have none_ : ∀ m', .key w k m' ∉ ws := by
        intro m' mem'
        obtain rfl := single m' (List.mem_cons_of_mem v mem')
        exact later mem'
      refine (keys_view_other none_).trans ?_
      rw [← own]
      exact if_pos ⟨rfl, rfl⟩

theorem keys_view_claimed (mem : .key w k m ∈ ws) : ((engine fold faults).view ws d).keys w k ≠ none := by
  intro free
  obtain ⟨before, after, rfl⟩ := List.append_of_mem mem
  rw [Engine.view_append, Engine.view_cons] at free
  have claimed := keys_view_none free
  change (if _ then _ else _) = none at claimed
  rw [if_pos ⟨rfl, rfl⟩] at claimed
  cases claimed

omit [Platform] [GoUnicode] in
theorem claims_of_exec {o : Op} {r : Ret o} {n n' : Nat} (run : exec faults o d n r ws n') (mem : .key w k m ∈ ws) :
    Key.key w k ∈ locks o d ∧ d.keys w k = none ∧ ws = [.key w k m] := by
  have own := exec_writes run mem
  cases o with
  | claimKey workspaceID key mutation =>
    obtain ⟨⟨w', parsed, -, -, ⟨free, -, rfl⟩ | ⟨-, -, rfl⟩⟩ | ⟨-, rfl⟩, -⟩ := run
    · obtain ⟨rfl, rfl, rfl⟩ := Write.key.inj (List.mem_singleton.mp mem)
      exact ⟨⟨w, parsed, rfl⟩, free, rfl⟩
    · cases mem
    · cases mem
  | _ => exact own.elim

end Keys

section Runs

variable [Platform] [GoUnicode] {fold : Char → Char} {faults : Bool} {d₀ : Db} {n : Nat}
  {s s' : Database Call Ret Key Db Write Outcome}

structure Claim (d : Db) (t : Session Call Ret Key Write Outcome) (w : PgUuid) (k m : String) : Prop where
  locked : Key.key w k ∈ t.held
  free : d.keys w k = none
  single : ∀ m', .key w k m' ∈ t.writes → m' = m

def Claims (s : Database Call Ret Key Db Write Outcome) : Prop :=
  ∀ (i : Nat) t, s.sessions[i]? = some t → ∀ w k m, .key w k m ∈ t.writes → Claim s.committed t w k m

omit [Platform] [GoUnicode] in
theorem session_set {ts : List (Session Call Ret Key Write Outcome)} {t u : Session Call Ret Key Write Outcome}
    {i j : Nat} (h : (ts.set i t)[j]? = some u) : j = i ∧ u = t ∨ j ≠ i ∧ ts[j]? = some u := by
  by_cases own : j = i
  · subst own
    have bound := (List.getElem?_eq_some_iff.mp h).1
    rw [List.length_set] at bound
    rw [List.getElem?_set_self bound] at h
    exact Or.inl ⟨rfl, (Option.some.inj h).symm⟩
  · rw [List.getElem?_set_ne (Ne.symm own)] at h
    exact Or.inr ⟨own, h⟩

theorem Claims.step (h : Claims s)
    (exclusive : ∀ (i j : Nat) t u, s.sessions[i]? = some t → s.sessions[j]? = some u → i ≠ j → Disjoint t.held u.held)
    (step : (engine fold faults).Step s s') : Claims s' := by
  cases step with
  | start c =>
    intro j u session w k m mem
    obtain before | now := List.mem_append.mp (List.mem_of_getElem? session)
    · obtain ⟨i, session⟩ := List.getElem?_of_mem before
      exact h i u session w k m mem
    · obtain rfl := List.mem_singleton.mp now
      cases mem
  | statement i t o next r ws n session rest free run =>
    intro j u placed w k m mem
    obtain ⟨-, rfl⟩ | ⟨-, other⟩ := session_set placed
    · obtain before | now := List.mem_append.mp mem
      · have claim := h i t session w k m before
        refine ⟨Or.inl claim.locked, claim.free, fun m' mem' => ?_⟩
        obtain before' | now' := List.mem_append.mp mem'
        · exact claim.single m' before'
        · exact absurd (claims_of_exec run now').2.1 (keys_view_claimed before)
      · obtain ⟨locked, unclaimed, only⟩ := claims_of_exec run now
        refine ⟨Or.inr locked, keys_view_none unclaimed, fun m' mem' => ?_⟩
        obtain before' | now' := List.mem_append.mp mem'
        · exact absurd unclaimed (keys_view_claimed before')
        · rw [only] at now'
          exact (Write.key.inj (List.mem_singleton.mp now')).2.2
    · exact h j u other w k m mem
  | commit i t o session done ok =>
    intro j u placed w k m mem
    obtain ⟨-, rfl⟩ | ⟨apart, other⟩ := session_set placed
    · cases mem
    · have claim := h j u other w k m mem
      have unclaimed : ∀ m', .key w k m' ∉ t.writes := by
        intro m' mem'
        have both := exclusive i j t u session other apart.symm
        exact Set.disjoint_left.mp both (h i t session w k m' mem').locked claim.locked
      exact ⟨claim.locked, (keys_view_other unclaimed).trans claim.free, claim.single⟩
  | rollback i t session =>
    intro j u placed w k m mem
    obtain ⟨-, rfl⟩ | ⟨-, other⟩ := session_set placed
    · cases mem
    · exact h j u other w k m mem

theorem claims_reachable (reachable : (engine fold faults).Reachable d₀ n s) : Claims s := by
  induction reachable with
  | refl => exact fun i t session => absurd (List.mem_of_getElem? session) List.not_mem_nil
  | tail reached step ih =>
    exact ih.step ((locking fold faults).holds_reachable (fun _ => trivial) reached).exclusive step

theorem keys_kept {w : PgUuid} {k m : String} (reachable : (engine fold faults).Reachable d₀ n s)
    (taken : s.committed.keys w k = some m) (steps : (engine fold faults).Steps s s') :
    s'.committed.keys w k = some m := by
  induction steps with
  | refl => exact taken
  | tail reached step ih =>
    cases step with
    | start | statement | rollback => exact ih
    | commit i t o session done ok =>
      refine (keys_view_other fun m' mem => ?_).trans ih
      have free := (claims_reachable (reachable.trans reached) i t session w k m' mem).free
      rw [ih] at free
      cases free

end Runs

section Mutations

def Call.key : Call → Option (String × String)
  | .create .. | .setRuns _ => none
  | .update _ header _ _ => some (header, "workspace_update")
  | .delete _ header _ => some (header, "workspace_delete")
  | .addMember _ _ _ header _ => some (header, "member_add")
  | .updateRole _ _ _ header _ => some (header, "member_role_update")
  | .removeMember _ _ header _ => some (header, "member_remove")
  | .createInvitation _ _ _ header _ => some (header, "invitation_create")
  | .revokeInvitation _ _ header _ => some (header, "invitation_revoke")
  | .acceptInvitation _ header _ _ => some (header, "invitation_accept")

def Call.scope : Call → Option String
  | .create .. | .setRuns _ | .acceptInvitation .. => none
  | .update id .. | .delete id .. | .addMember id .. | .updateRole id .. | .removeMember id .. |
    .createInvitation id .. | .revokeInvitation id .. => some id

variable [Platform] [GoUnicode] {fold : Char → Char} {faults : Bool} {d : Db} {held : Set Key} {ws : List Write}

def Keyed (scope : Option String) (header mutation : String) (o : Outcome) (_ : Set Key) (ws : List Write) (_ : Db) :
    Prop :=
  o.commits = true → ∃ w, (∀ id ∈ scope, PgUuid.parse id = some w) ∧ .key w (TrimSpace header) mutation ∈ ws

abbrev KeyedLeads (fold : Char → Char) (faults : Bool) (scope : Option String) (header mutation : String) (d : Db)
    (held : Set Key) (ws : List Write) (p : Prog Ret Outcome) : Prop :=
  (narrowed fold faults fun _ _ _ => True).LeadsUnder (Kept fold faults fun _ _ _ => True) (Keyed scope header mutation)
    d held ws p

variable {scope : Option String} {header mutation workspaceID message : String} {next : Prog Ret Outcome}

omit [Platform] [GoUnicode] in
theorem keyed_refusable : Refusable (Keyed scope header mutation) :=
  fun _ _ _ _ _ _ commits => absurd commits Bool.false_ne_true

theorem written_leads {x : Write} (mem : x ∈ ws) (p : Prog Ret Outcome) :
    (narrowed fold faults fun _ _ _ => True).LeadsUnder (Kept fold faults fun _ _ _ => True) (fun _ _ ws _ => x ∈ ws)
      d held ws p := by
  induction p generalizing d held ws with
  | pure o => exact fun _ _ => mem
  | op o next ih => exact fun d' _ n r vs n' _ => ih r (List.mem_append_left vs mem)

theorem claimed_leads {id : String} (named : ∀ s ∈ scope, s = id) :
    KeyedLeads fold faults scope header mutation d held ws (claimIdempotencyKey header id mutation next) := by
  unfold claimIdempotencyKey
  dsimp only
  split
  · exact refused_leads keyed_refusable _ _ _
  · refine statement_leads keyed_refusable fun d' n claimed vs n' kept run _ => ?_
    obtain ⟨⟨w, parsed, -, -, ⟨-, same, rfl⟩ | ⟨-, same, rfl⟩⟩ | ⟨failed, -⟩, -⟩ := run
    · obtain rfl := Except.ok.inj same
      refine (written_leads (List.mem_append_right ws List.mem_cons_self) next).mono fun o held ws d mem _ => ?_
      exact ⟨w, fun s own => named s own ▸ parsed, mem⟩
    · obtain rfl := Except.ok.inj same
      exact refused_leads keyed_refusable _ _ _
    · cases failed

theorem scoped_leads : KeyedLeads fold faults (some workspaceID) header mutation d held ws
    (claimIdempotencyKey header workspaceID mutation next) :=
  claimed_leads fun _ own => (Option.some.inj own).symm

theorem required_leads : KeyedLeads fold faults (some workspaceID) header mutation d held ws
    (requireWorkspace workspaceID message (claimIdempotencyKey header workspaceID mutation next)) :=
  require_leads keyed_refusable fun _ _ _ _ _ => scoped_leads

theorem handleUpdate_keyed (req : UpdateRequest) (fresh : Fresh) :
    KeyedLeads fold faults (some workspaceID) header "workspace_update" d held ws
      (handleUpdate workspaceID header req fresh) := by
  refine statement_leads keyed_refusable fun d' n found vs n' kept run _ => ?_
  cases found with
  | none => exact refused_leads keyed_refusable _ _ _
  | some row => exact scoped_leads

theorem handleDelete_keyed (fresh : Fresh) : KeyedLeads fold faults (some workspaceID) header "workspace_delete" d held ws
    (handleDelete workspaceID header fresh) := by
  refine statement_leads keyed_refusable fun d' n found vs n' kept run _ => ?_
  cases found with
  | none => exact refused_leads keyed_refusable _ _ _
  | some row => exact scoped_leads

theorem handleAddMember_keyed (userID role : String) (fresh : Fresh) :
    KeyedLeads fold faults (some workspaceID) header "member_add" d held ws
      (handleAddMember workspaceID userID role header fresh) := by
  unfold handleAddMember
  split
  · exact refused_leads keyed_refusable _ _ _
  · split
    · exact required_leads
    · exact refused_leads keyed_refusable _ _ _

theorem handleUpdateRole_keyed (userID role : String) (fresh : Fresh) :
    KeyedLeads fold faults (some workspaceID) header "member_role_update" d held ws
      (handleUpdateRole workspaceID userID role header fresh) := by
  unfold handleUpdateRole
  split
  · exact required_leads
  · exact refused_leads keyed_refusable _ _ _

theorem handleCreateInvitation_keyed (email role : String) (fresh : Fresh) :
    KeyedLeads fold faults (some workspaceID) header "invitation_create" d held ws
      (handleCreateInvitation workspaceID email role header fresh) := by
  unfold handleCreateInvitation
  split
  · exact refused_leads keyed_refusable _ _ _
  · split
    · exact required_leads
    · exact refused_leads keyed_refusable _ _ _

theorem handleAcceptInvitation_keyed (code : String) (req : AcceptRequest) (fresh : Fresh) :
    KeyedLeads fold faults none header "invitation_accept" d held ws
      (handleAcceptInvitation fold code header req fresh) := by
  unfold handleAcceptInvitation
  split
  · exact refused_leads keyed_refusable _ _ _
  · split
    · exact refused_leads keyed_refusable _ _ _
    · refine statement_leads keyed_refusable fun d' n found vs n' kept run _ => ?_
      cases found with
      | none => exact refused_leads keyed_refusable _ _ _
      | some pair => exact claimed_leads fun id own => absurd own (Option.not_mem_none id)

def Owes (c : Call) (o : Outcome) (held : Set Key) (ws : List Write) (d : Db) : Prop :=
  ∀ header mutation, c.key = some (header, mutation) → Keyed c.scope header mutation o held ws d

theorem keyed_owes {c : Call} {p : Prog Ret Outcome} (own : c.key = some (header, mutation))
    (leads : KeyedLeads fold faults c.scope header mutation d held ws p) :
    (narrowed fold faults fun _ _ _ => True).LeadsUnder (Kept fold faults fun _ _ _ => True) (Owes c) d held ws p := by
  refine leads.mono fun o held ws d keyed header' mutation' own' => ?_
  obtain ⟨rfl, rfl⟩ := Prod.mk.inj (Option.some.inj (own.symm.trans own'))
  exact keyed

theorem program_owes (c : Call) (d : Db) :
    (narrowed fold faults fun _ _ _ => True).LeadsUnder (Kept fold faults fun _ _ _ => True) (Owes c) d ∅ []
      (program fold c) := by
  cases c with
  | create | setRuns => exact .of_forall (fun _ _ _ _ _ _ own => by cases own) d ∅ [] _
  | update id header req fresh => exact keyed_owes rfl (handleUpdate_keyed req fresh)
  | delete id header fresh => exact keyed_owes rfl (handleDelete_keyed fresh)
  | addMember id userID role header fresh => exact keyed_owes rfl (handleAddMember_keyed userID role fresh)
  | updateRole id userID role header fresh => exact keyed_owes rfl (handleUpdateRole_keyed userID role fresh)
  | removeMember id userID header fresh => exact keyed_owes rfl required_leads
  | createInvitation id email role header fresh => exact keyed_owes rfl (handleCreateInvitation_keyed email role fresh)
  | revokeInvitation id invitationID header fresh => exact keyed_owes rfl required_leads
  | acceptInvitation code header req fresh => exact keyed_owes rfl (handleAcceptInvitation_keyed code req fresh)

end Mutations

section Commits

variable [Platform] [GoUnicode] {fold : Char → Char} {faults : Bool} {d₀ : Db} {n : Nat}
  {s s' : Database Call Ret Key Db Write Outcome} {t : Session Call Ret Key Write Outcome} {o : Outcome}

-- Every mutation that is committed uses up its key, and is the only one that ever does in that workspace.
theorem mutations_committed_once (reachable : (engine fold faults).Reachable d₀ n s)
    (commit : (engine fold faults).Commits s s' t o) {header mutation : String}
    (keyed : t.call.key = some (header, mutation)) :
    ∃ w, (∀ id ∈ t.call.scope, PgUuid.parse id = some w) ∧ .key w (TrimSpace header) mutation ∈ t.writes ∧
      s.committed.keys w (TrimSpace header) = none ∧
      ∀ s₁, (engine fold faults).Steps s' s₁ → s₁.committed.keys w (TrimSpace header) = some mutation ∧
        ∀ (i : Nat) u mutation', s₁.sessions[i]? = some u → .key w (TrimSpace header) mutation' ∉ u.writes := by
  obtain ⟨w, named, mem⟩ := commits_leads program_owes reachable commit header mutation keyed commit.choose_spec.2.2.1
  obtain ⟨i, session, done, ok, rfl⟩ := id commit
  have claim := claims_reachable reachable i t session w _ _ mem
  refine ⟨w, named, mem, claim.free, fun s₁ steps => ?_⟩
  have after := reachable.tail commit.step
  have taken := keys_kept after (keys_view_mem mem claim.single) steps
  refine ⟨taken, fun j u mutation' session' again => ?_⟩
  have free := (claims_reachable (after.trans steps) j u session' w _ _ again).free
  rw [taken] at free
  cases free

end Commits

section Example

def deletion : Call := .delete team.text "1" (tagged "1")

def deletionEvent : Audit.Entry :=
  ⟨team.text, .workspaceDeleted, "system", .system, "workspace", team.text, .obj [("idempotency_key", .str "1")], none,
    "1"⟩

def deletionRow [Platform] : Audit.AuditRow :=
  deletionEvent.row (Platform.sha256Hex (Audit.WorkspaceService.preimage deletionEvent)) 0

def deletionWrites [Platform] : List Write :=
  [.key team "1" "workspace_delete", .deleteWorkspace team, .audit deletionRow]

theorem deletion_executes :
    letI := lastCharacter
    letI := Backend.Approval.asciiTables
    (engine id true).Executes adminDb 0 [] ((engine id true).program deletion) 1 deletionWrites .noContent := by
  let _ := lastCharacter
  let _ := Backend.Approval.asciiTables
  have parsed : PgUuid.parse team.text = some team := PgUuid.parse_text team
  have live : (PgUuid.parse team.text).map (liveWorkspace adminDb) =
      some (some ⟨"Acme", "acme", "dev", none, .obj [], false⟩) := by
    rw [parsed]
    rfl
  have idle : (Query.activeRuns team.text none).answer adminDb = some false := by
    change (PgUuid.parse team.text).map (fun id => activeRun adminDb id none) = some false
    rw [parsed]
    rfl
  have claim : ∀ next, claimIdempotencyKey "1" team.text "workspace_delete" next =
      statement (.claimKey team.text "1" "workspace_delete") "failed to process mutation" fun claimed =>
        if claimed then next else .pure keyTaken := by
    intro next
    have plain : TrimSpace "1" = "1" := by decide
    have fits : badKey "1" = false := by decide
    unfold claimIdempotencyKey
    dsimp only
    rw [plain, fits]
    rfl
  refine .op (.ok (some ⟨"Acme", "acme", "dev", none, .obj [], false⟩)) [] 0 ⟨Or.inl ⟨_, live, rfl⟩, rfl, rfl⟩ ?_
  change (engine id true).Executes adminDb 0 [] (claimIdempotencyKey "1" team.text "workspace_delete" _) _ _ _
  rw [claim]
  refine .op (.ok true) [.key team "1" "workspace_delete"] 0
    ⟨Or.inl ⟨team, parsed, rfl, rfl, Or.inl ⟨rfl, rfl, rfl⟩⟩, rfl⟩ ?_
  refine .op (.ok false) [] 0 ⟨Or.inl ⟨_, idle, rfl⟩, rfl, rfl⟩ ?_
  refine .op (.ok ()) [.deleteWorkspace team] 0 ⟨Or.inl ⟨team, parsed, rfl, Or.inl ⟨rfl, rfl⟩⟩, rfl⟩ ?_
  refine .op (.ok ()) [] 0 (Or.inl ⟨(), [], rfl, ⟨rfl, rfl⟩, rfl⟩) ?_
  refine .op (.ok none) [] 0 (Or.inl ⟨none, [], rfl, ⟨rfl, rfl, rfl⟩, rfl⟩) ?_
  have first : ∀ h ∈ (none : Option String), h ∈ ([] : List Audit.AuditRow).map Audit.AuditRow.hash :=
    fun h mem => absurd mem (Option.not_mem_none h)
  refine .op (.ok ()) [.audit deletionRow] 1 ?_ (.pure _ _ _)
  exact Or.inl ⟨(), [deletionRow], rfl, ⟨List.not_mem_nil, first, 0, le_rfl, rfl, rfl⟩, rfl⟩

theorem deletion_committed_once :
    letI := lastCharacter
    letI := Backend.Approval.asciiTables
    ∃ s', (engine id true).Reachable adminDb 0 s' ∧
      ∀ s₁, (engine id true).Steps s' s₁ → s₁.committed.keys team (TrimSpace "1") = some "workspace_delete" := by
  let _ := lastCharacter
  let _ := Backend.Approval.asciiTables
  have alone : ∀ t ∈ ([] : List (Session Call Ret Key Write Outcome)), t.held = ∅ :=
    fun _ mem => absurd mem List.not_mem_nil
  obtain ⟨held, steps⟩ := deletion_executes.steps alone deletion ∅
  have start := Engine.Step.start (E := engine id true) ⟨adminDb, 0, []⟩ deletion
  have reachable := Relation.ReflTransGen.head start steps
  let t : Session Call Ret Key Write Outcome := ⟨deletion, held, deletionWrites, some (.pure .noContent)⟩
  have commit : (engine id true).Commits ⟨adminDb, 1, [t]⟩ _ t .noContent := ⟨0, rfl, rfl, rfl, rfl⟩
  obtain ⟨w, named, -, -, later⟩ := mutations_committed_once reachable commit rfl
  have own : w = team := Option.some.inj ((named team.text rfl).symm.trans (PgUuid.parse_text team))
  exact ⟨_, reachable.tail commit.step, fun s₁ steps => own ▸ (later s₁ steps).1⟩

end Example

end Provisr.Workspace
