import Provisr.Foundation.Restriction
import Provisr.Workspace.Locking

namespace Provisr.Workspace

open Provisr.Foundation
open Provisr.Audit (EventType AuditRow)
open Provisr.Backend (GoUnicode TrimSpace)
open Provisr.Backend.Manifest (SqlError answers answers_ok)
open Provisr.Orchestrator (Platform)

section Growth

structure InvitationRow.Evolves (row row' : InvitationRow) : Prop where
  same : row' = { row with revoked := row'.revoked }
  revoked : row.revoked = true → row'.revoked = true

theorem InvitationRow.Evolves.refl (row : InvitationRow) : row.Evolves row := ⟨rfl, id⟩

theorem InvitationRow.Evolves.trans {a b c : InvitationRow} (h : a.Evolves b) (h' : b.Evolves c) : a.Evolves c :=
  ⟨by rw [h'.same, h.same], fun r => h'.revoked (h.revoked r)⟩

structure Grows (d d' : Db) : Prop where
  invitation : ∀ id row, d.invitations id = some row → ∃ row', d'.invitations id = some row' ∧ row.Evolves row'
  creation : ∀ key id, d.creations key = some id → d'.creations key = some id
  workspace : ∀ id row, d.workspaces id = some row →
    ∃ row', d'.workspaces id = some row' ∧ (row.deleted = true → row'.deleted = true)
  audits : d.audits <+: d'.audits

theorem Grows.refl (d : Db) : Grows d d :=
  ⟨fun _ row h => ⟨row, h, .refl row⟩, fun _ _ h => h, fun _ row h => ⟨row, h, id⟩, List.prefix_rfl⟩

theorem Grows.trans {d d' d'' : Db} (h : Grows d d') (h' : Grows d' d'') : Grows d d'' := by
  refine ⟨fun id row known => ?_, fun key id known => h'.creation key id (h.creation key id known), fun id row known => ?_,
    h.audits.trans h'.audits⟩
  · obtain ⟨row', known', evolves⟩ := h.invitation id row known
    obtain ⟨row'', known'', evolves'⟩ := h'.invitation id row' known'
    exact ⟨row'', known'', evolves.trans evolves'⟩
  · obtain ⟨row', known', deleted⟩ := h.workspace id row known
    obtain ⟨row'', known'', deleted'⟩ := h'.workspace id row' known'
    exact ⟨row'', known'', fun gone => deleted' (deleted gone)⟩

theorem Grows.apply (w : Write) (d : Db) : Grows d (apply w d) := by
  have invitation : ∀ id row, d.invitations id = some row →
      ∃ row', (Workspace.apply w d).invitations id = some row' ∧ row.Evolves row' := by
    intro id row known
    cases w with
    | invitation other new =>
        refine ⟨row, ?_, .refl row⟩
        change (if id = other then some ((d.invitations id).getD new) else d.invitations id) = some row
        rw [known, Option.getD_some, ite_self]
    | revoke other =>
        by_cases own : id = other
        · subst own
          exact ⟨{ row with revoked := true }, by simp [Workspace.apply, known], ⟨rfl, fun _ => rfl⟩⟩
        · exact ⟨row, by simp [Workspace.apply, own, known], .refl row⟩
    | _ => exact ⟨row, known, .refl row⟩
  have creation : ∀ key id, d.creations key = some id → (Workspace.apply w d).creations key = some id := by
    intro key id known
    cases w with
    | workspace other new k =>
        change (if key = k then some ((d.creations key).getD other) else d.creations key) = some id
        rw [known, Option.getD_some, ite_self]
    | _ => exact known
  have workspace : ∀ id row, d.workspaces id = some row →
      ∃ row', (Workspace.apply w d).workspaces id = some row' ∧ (row.deleted = true → row'.deleted = true) := by
    intro id row known
    cases w with
    | workspace other new k =>
        refine ⟨row, ?_, fun gone => gone⟩
        change (if id = other then some ((d.workspaces id).getD new) else d.workspaces id) = some row
        rw [known, Option.getD_some, ite_self]
    | rename other name slug environment description =>
        by_cases own : id = other
        · subst own
          exact ⟨row.rename name slug environment description, by simp [Workspace.apply, known], fun gone => gone⟩
        · exact ⟨row, by simp [Workspace.apply, own, known], fun gone => gone⟩
    | deleteWorkspace other =>
        by_cases own : id = other
        · subst own
          exact ⟨{ row with deleted := true }, by simp [Workspace.apply, known], fun _ => rfl⟩
        · exact ⟨row, by simp [Workspace.apply, own, known], fun gone => gone⟩
    | _ => exact ⟨row, known, fun gone => gone⟩
  refine ⟨invitation, creation, workspace, ?_⟩
  cases w with
  | audit row => exact List.prefix_append _ _
  | _ => exact List.prefix_rfl

variable [Platform] [GoUnicode] (fold : Char → Char) (faults : Bool)

def growing : Engine.Growing (engine fold faults) where
  grows := Grows
  refl := Grows.refl
  trans _ _ _ := Grows.trans
  apply := Grows.apply

end Growth

section Quiet

def Write.quiet : Write → Prop
  | .key .. | .audit _ => True
  | _ => False

structure SameRows (d d' : Db) : Prop where
  workspaces : d'.workspaces = d.workspaces
  creations : d'.creations = d.creations
  memberships : d'.memberships = d.memberships
  removals : d'.removals = d.removals
  invitations : d'.invitations = d.invitations

variable [Platform] [GoUnicode] {fold : Char → Char} {faults : Bool}

theorem quiet_view {ws : List Write} (quiet : ∀ w ∈ ws, w.quiet) (d : Db) :
    SameRows d ((engine fold faults).view ws d) := by
  induction ws generalizing d with
  | nil => exact ⟨rfl, rfl, rfl, rfl, rfl⟩
  | cons w ws ih =>
      obtain ⟨h₁, h₂, h₃, h₄, h₅⟩ := ih (fun v mem => quiet v (List.mem_cons_of_mem _ mem)) (apply w d)
      cases w with
      | key | audit => exact ⟨h₁, h₂, h₃, h₄, h₅⟩
      | _ => exact (quiet _ List.mem_cons_self).elim

end Quiet

theorem parse_role (role : MemberRole) : MemberRole.parse role.text = some role := by
  cases role <;> rfl

section Leads

variable [Platform] [GoUnicode] {fold : Char → Char} {faults : Bool} {ok : (o : Op) → Db → Ret o → Prop}

abbrev narrowed (fold : Char → Char) (faults : Bool) (ok : (o : Op) → Db → Ret o → Prop) :
    Engine Call Ret Key Db Write Outcome :=
  (engine fold faults).restrict ok

abbrev Kept (fold : Char → Char) (faults : Bool) (ok : (o : Op) → Db → Ret o → Prop) : Set Key → Db → Db → Prop :=
  ((locking fold faults).restrict ok).Keeps ((growing fold faults).restrict ok)

variable {Q : Outcome → Set Key → List Write → Db → Prop} {d : Db} {held : Set Key} {ws : List Write} {message : String}

theorem kept_membership {d' : Db} (kept : Kept fold faults ok held d d') {u w : PgUuid} (locked : Key.membership u w ∈ held) :
    d.memberships u w = d'.memberships u w :=
  Part.membership.inj (kept.same _ locked)

theorem kept_invitation {d' : Db} (kept : Kept fold faults ok held d d') {id : PgUuid} (locked : Key.invitation id ∈ held) :
    d.invitations id = d'.invitations id :=
  Part.invitation.inj (kept.same _ locked)

def Refusable (Q : Outcome → Set Key → List Write → Db → Prop) : Prop :=
  ∀ status code message held ws d, Q (.refused status code message) held ws d

theorem refused_leads (refusable : Refusable Q) (status : Nat) (code message : String) :
    (narrowed fold faults ok).LeadsUnder (Kept fold faults ok) Q d held ws (.pure (.refused status code message)) :=
  fun _ _ => refusable ..

theorem statement_leads (refusable : Refusable Q) {o : Op} {next : Answer o → Prog Ret Outcome}
    (h : ∀ d' n a vs n', Kept fold faults ok held d d' →
      exec faults o ((engine fold faults).view ws d') n (.ok a) vs n' → ok o ((engine fold faults).view ws d') (.ok a) →
      (narrowed fold faults ok).LeadsUnder (Kept fold faults ok) Q d'
        (held ∪ locks o ((engine fold faults).view ws d')) (ws ++ vs) (next a)) :
    (narrowed fold faults ok).LeadsUnder (Kept fold faults ok) Q d held ws (statement o message next) :=
  .orEnd (fun _ _ _ _ _ _ _ => refused_leads refusable _ _ _) fun d' kept n a vs n' run => h d' n a vs n' kept run.1 run.2

theorem select_leads (refusable : Refusable Q) {q : Query} {next : q.Answer → Prog Ret Outcome}
    (h : ∀ d' a, Kept fold faults ok held d d' → q.answer ((engine fold faults).view ws d') = some a →
      (narrowed fold faults ok).LeadsUnder (Kept fold faults ok) Q d' held ws (next a)) :
    (narrowed fold faults ok).LeadsUnder (Kept fold faults ok) Q d held ws (statement (.select q) message next) := by
  refine statement_leads refusable fun d' n a vs n' kept run _ => ?_
  obtain ⟨answer, rfl, -⟩ := run
  have rest := h d' a kept (answers_ok answer)
  rwa [← Set.union_empty held, ← List.append_nil ws] at rest

theorem require_leads (refusable : Refusable Q) {q : Query} {holds : q.Answer → Bool} {status : Nat}
    {code text : String} {next : Prog Ret Outcome}
    (h : ∀ d' a, Kept fold faults ok held d d' → q.answer ((engine fold faults).view ws d') = some a → holds a = true →
      (narrowed fold faults ok).LeadsUnder (Kept fold faults ok) Q d' held ws next) :
    (narrowed fold faults ok).LeadsUnder (Kept fold faults ok) Q d held ws
      (require q message holds (.refused status code text) next) := by
  refine select_leads refusable fun d' a kept answer => ?_
  split
  · rename_i holds
    exact h d' a kept answer holds
  · exact refused_leads refusable _ _ _

theorem claim_leads (refusable : Refusable Q) {header workspaceID mutation : String} {next : Prog Ret Outcome}
    (h : ∀ d' held' vs, Kept fold faults ok held d d' → held ⊆ held' → (∀ v ∈ vs, v.quiet) →
      (narrowed fold faults ok).LeadsUnder (Kept fold faults ok) Q d' held' (ws ++ vs) next) :
    (narrowed fold faults ok).LeadsUnder (Kept fold faults ok) Q d held ws
      (claimIdempotencyKey header workspaceID mutation next) := by
  unfold claimIdempotencyKey
  dsimp only
  split
  · exact refused_leads refusable _ _ _
  · refine statement_leads refusable fun d' n claimed vs n' kept run _ => ?_
    split
    · refine h d' _ vs kept Set.subset_union_left fun v mem => ?_
      obtain ⟨⟨w, -, -, -, ⟨-, -, rfl⟩ | ⟨-, -, rfl⟩⟩ | ⟨failed, -⟩, -⟩ := run
      · rw [List.mem_singleton.mp mem]
        trivial
      · exact absurd mem List.not_mem_nil
      · cases failed
    · exact refused_leads refusable _ _ _

theorem audited_leads (refusable : Refusable Q) {workspaceID actorID resourceType resourceID : String}
    {eventType : EventType} {payload : JsFields} {fresh : Fresh} {next : Prog Ret Outcome}
    (h : ∀ d' held' row, Kept fold faults ok held d d' → held ⊆ held' → row.eventType = eventType →
      row.resourceId = resourceID →
      (narrowed fold faults ok).LeadsUnder (Kept fold faults ok) Q d' held' (ws ++ [.audit row]) next) :
    (narrowed fold faults ok).LeadsUnder (Kept fold faults ok) Q d held ws
      (audited (appendAuditEvent workspaceID eventType actorID resourceType resourceID payload fresh) message next) := by
  refine statement_leads refusable fun d₁ _ _ vs₁ _ kept₁ run₁ _ => ?_
  refine statement_leads refusable fun d₂ _ previous vs₂ _ kept₂ run₂ _ => ?_
  refine statement_leads refusable fun d₃ _ _ vs₃ _ kept₃ run₃ _ => ?_
  obtain ⟨-, rows₁, -, ⟨rfl, -⟩, rfl⟩ | ⟨⟨failed, -⟩, -⟩ := run₁
  · obtain ⟨-, rows₂, -, ⟨-, rfl, -⟩, rfl⟩ | ⟨⟨failed, -⟩, -⟩ := run₂
    · obtain ⟨-, rows₃, -, ⟨-, -, seq, -, -, rfl⟩, rfl⟩ | ⟨⟨failed, -⟩, -⟩ := run₃
      · have grown : held ⊆ held ∪ locks (.audit (.advisoryLock Audit.chainLock)) ((engine fold faults).view ws d₁) :=
          Set.subset_union_left
        simp only [List.map_nil, List.append_nil, List.map_cons]
        refine h d₃ _ _ ?_ (grown.trans (Set.subset_union_left.trans Set.subset_union_left)) ?_ ?_
        · exact kept₁.trans ((kept₂.anti grown).trans (kept₃.anti (grown.trans Set.subset_union_left)))
        · rfl
        · rfl
      · cases failed
    · cases failed
  · cases failed

theorem commits_leads {Q : Call → Outcome → Set Key → List Write → Db → Prop}
    (leads : ∀ c d, (narrowed fold faults fun _ _ _ => True).LeadsUnder (Kept fold faults fun _ _ _ => True) (Q c) d ∅ []
      (program fold c))
    {d₀ : Db} {n : Nat} {s s' : Database Call Ret Key Db Write Outcome} {t : Session Call Ret Key Write Outcome}
    {o : Outcome} (reachable : (engine fold faults).Reachable d₀ n s) (commit : (engine fold faults).Commits s s' t o) :
    Q t.call o t.held t.writes s.committed := by
  obtain ⟨i, session, done, -, -⟩ := commit
  exact Locking.commit_under (L := (locking fold faults).restrict fun _ _ _ => True)
    (G := (growing fold faults).restrict fun _ _ _ => True) (fun _ => trivial) leads
    (Engine.Steps.restrict_of_forall (fun _ _ _ => trivial) reachable) session done

end Leads

end Provisr.Workspace
