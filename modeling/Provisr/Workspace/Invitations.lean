import Provisr.Workspace.Proceeding

namespace Provisr.Workspace

open Provisr.Foundation Provisr.Foundation.Engine
open Provisr.Audit (EventType AuditRow)
open Provisr.Backend (GoUnicode)
open Provisr.Orchestrator (Platform)

section Effects

def Write.aside : Write → Prop
  | .key .. | .user .. | .audit _ => True
  | _ => False

theorem quiet_aside {w : Write} (quiet : w.quiet) : w.aside := by
  cases w with
  | key | audit => trivial
  | _ => exact quiet.elim

def Used (id : PgUuid) (d : Db) : Prop := ∃ row, d.invitations id = some row ∧ row.revoked = true

theorem Used.grows {id : PgUuid} {d d' : Db} (h : Used id d) (grown : Grows d d') : Used id d' := by
  obtain ⟨row, known, revoked⟩ := h
  obtain ⟨row', known', evolves⟩ := grown.invitation id row known
  exact ⟨row', known', evolves.revoked revoked⟩

structure Accepted (fold : Char → Char) (code : String) (req : AcceptRequest) (id : PgUuid) (row : InvitationRow)
    (user : PgUuid) (clock : Int) (held : Set Key) (d d' : Db) : Prop where
  known : d.invitations id = some row
  code : row.code = code
  locked : Key.invitation id ∈ held
  unrevoked : row.revoked = false
  unexpired : clock ≤ row.expiresAt
  email : EqualFold fold row.email req.email = true
  caller : PgUuid.parse req.userID = some user
  absent : d.memberships user row.workspaceID = none
  joined : d'.memberships = fun u w =>
    if u = user ∧ w = row.workspaceID then some ⟨row.role, none⟩ else d.memberships u w
  used : d'.invitations = fun i => if i = id then some { row with revoked := true } else d.invitations i

variable {fold : Char → Char} {code : String} {req : AcceptRequest} {id : PgUuid} {row : InvitationRow} {user : PgUuid}
  {clock : Int} {held : Set Key} {d d' : Db}

theorem Accepted.spent (h : Accepted fold code req id row user clock held d d') : Used id d' :=
  ⟨{ row with revoked := true }, h.used ▸ if_pos rfl, rfl⟩

variable [Platform] [GoUnicode] {faults : Bool}

theorem view_aside {ws : List Write} (aside : ∀ w ∈ ws, w.aside) (d : Db) :
    ((engine fold faults).view ws d).memberships = d.memberships ∧
      ((engine fold faults).view ws d).invitations = d.invitations := by
  induction ws generalizing d with
  | nil => exact ⟨rfl, rfl⟩
  | cons w ws ih =>
      obtain ⟨members, invitations⟩ := ih (fun v mem => aside v (List.mem_cons_of_mem _ mem)) (apply w d)
      cases w with
      | key | user | audit => exact ⟨members, invitations⟩
      | _ => exact (aside _ List.mem_cons_self).elim

def acceptance (id user : PgUuid) (row : InvitationRow) (event : Audit.AuditRow) : List Write :=
  [.membership user row.workspaceID ⟨row.role, none⟩, .revoke id, .audit event]

theorem view_acceptance {ws : List Write} (aside : ∀ w ∈ ws, w.aside) (known : d.invitations id = some row)
    (absent : d.memberships user row.workspaceID = none) (event : Audit.AuditRow) :
    ((engine fold faults).view (ws ++ acceptance id user row event) d).memberships =
      (fun u w => if u = user ∧ w = row.workspaceID then some ⟨row.role, none⟩ else d.memberships u w) ∧
    ((engine fold faults).view (ws ++ acceptance id user row event) d).invitations =
      fun i => if i = id then some { row with revoked := true } else d.invitations i := by
  obtain ⟨members, invitations⟩ : ((engine fold faults).view ws d).memberships = d.memberships ∧
    ((engine fold faults).view ws d).invitations = d.invitations := view_aside aside d
  rw [Engine.view_append]
  refine ⟨?_, ?_⟩
  · funext u w
    change (if u = user ∧ w = row.workspaceID then some ((((engine fold faults).view ws d).memberships u w).getD _)
      else ((engine fold faults).view ws d).memberships u w) = _
    rw [members]
    split
    · rename_i own
      rw [own.1, own.2, absent, Option.getD_none]
    · rfl
  · funext i
    change (if i = id then (((engine fold faults).view ws d).invitations i).map _
      else ((engine fold faults).view ws d).invitations i) = _
    rw [invitations]
    split
    · rename_i own
      rw [own, known, Option.map_some]
    · rfl

end Effects

section Acceptances

variable [Platform] [GoUnicode] {fold : Char → Char} {faults : Bool} {ok : (o : Op) → Db → Ret o → Prop}
  {code header : String} {req : AcceptRequest} {fresh : Fresh} {d : Db} {held : Set Key} {ws : List Write}

def Accepts (fold : Char → Char) (faults : Bool) (code : String) (req : AcceptRequest) (o : Outcome) (held : Set Key)
    (ws : List Write) (d : Db) : Prop :=
  o.commits = true → ∃ id row user m clock, o = .accepted id m clock ∧
    Accepted fold code req id row user clock held d ((engine fold faults).view ws d)

theorem accepts_refusable : Refusable (Accepts fold faults code req) := fun _ _ _ _ _ _ => nofun

structure Locked (code : String) (id : PgUuid) (row : InvitationRow) (held : Set Key) (d : Db) : Prop where
  known : d.invitations id = some row
  code : row.code = code
  locked : Key.invitation id ∈ held

theorem Locked.kept {id : PgUuid} {row : InvitationRow} (h : Locked code id row held d) {d' : Db}
    (kept : Kept fold faults ok held d d') : Locked code id row held d' :=
  ⟨(kept_invitation kept h.locked).symm.trans h.known, h.code, h.locked⟩

omit [Platform] [GoUnicode] in
theorem Locked.more {id : PgUuid} {row : InvitationRow} (h : Locked code id row held d) {held' : Set Key}
    (grown : held ⊆ held') : Locked code id row held' d :=
  ⟨h.known, h.code, grown h.locked⟩

structure Joining (code : String) (id user : PgUuid) (row : InvitationRow) (held : Set Key) (d : Db) : Prop
    extends Locked code id row held d where
  taken : Key.membership user row.workspaceID ∈ held
  absent : d.memberships user row.workspaceID = none

variable {id user : PgUuid} {row : InvitationRow} {clock : Int}

theorem Joining.kept (h : Joining code id user row held d) {d' : Db} (kept : Kept fold faults ok held d d') :
    Joining code id user row held d' :=
  ⟨h.toLocked.kept kept, h.taken, (kept_membership kept h.taken).symm.trans h.absent⟩

omit [Platform] [GoUnicode] in
theorem insertedMembership_accepted {m : Membership}
    (h : insertedMembership req.userID row.workspaceID.text row.role.text none = some m) :
    PgUuid.parse req.userID = some m.user ∧ m = ⟨m.user, row.workspaceID, ⟨row.role, none⟩⟩ := by
  simp only [insertedMembership, PgUuid.parse_text, parse_role, Option.mapM_none, Option.bind_eq_bind, Option.bind_some,
    Option.pure_def, Option.bind_eq_some_iff, Option.some.injEq] at h
  obtain ⟨user, parsed, rfl⟩ := h
  exact ⟨parsed, rfl⟩

theorem joinWorkspace_leads (aside : ∀ w ∈ ws, w.aside) (locked : Locked code id row held d)
    (unrevoked : row.revoked = false) (unexpired : clock ≤ row.expiresAt)
    (email : EqualFold fold row.email req.email = true) :
    (narrowed fold faults ok).LeadsUnder (Kept fold faults ok) (Accepts fold faults code req) d held ws
      (joinWorkspace req header fresh id row clock) := by
  refine require_leads accepts_refusable fun d₁ _ kept₁ _ _ => ?_
  refine statement_leads accepts_refusable fun d₂ _ _ vs _ kept₂ run _ => ?_
  obtain ⟨⟨m, inserted, -, ⟨absent, -, rfl⟩ | ⟨-, never, -⟩⟩ | ⟨failed, -⟩, -⟩ := run
  · obtain ⟨parsed, same⟩ := insertedMembership_accepted inserted
    rw [(view_aside aside d₂).1, same] at absent
    rw [same]
    have joining : Joining code id m.user row (held ∪ locks (.insertMembership req.userID row.workspaceID.text
        row.role.text none false) ((engine fold faults).view ws d₂)) d₂ :=
      ⟨((locked.kept kept₁).kept kept₂).more Set.subset_union_left,
        .inr ⟨m.user, parsed, row.workspaceID, PgUuid.parse_text _, rfl⟩, absent⟩
    refine statement_leads accepts_refusable fun d₃ _ _ vs' _ kept₃ run' _ => ?_
    have joining := joining.kept kept₃
    obtain ⟨⟨i, hi, -, ⟨-, rfl⟩ | ⟨gone, -⟩⟩ | ⟨failed, -⟩, -⟩ := run'
    · obtain rfl := Option.some.inj ((PgUuid.parse_text id).symm.trans hi)
      refine select_leads accepts_refusable fun d₄ found kept₄ _ => ?_
      have joining := joining.kept (kept₄.anti Set.subset_union_left)
      cases found with
      | none => exact refused_leads accepts_refusable _ _ _
      | some member =>
          refine audited_leads accepts_refusable fun d₅ _ event kept₅ grown _ _ => ?_
          have joining := joining.kept (kept₅.anti Set.subset_union_left)
          intro d₆ kept₆ _
          have joining := joining.kept (kept₆.anti (Set.subset_union_left.trans grown))
          obtain ⟨joined, used⟩ := view_acceptance aside joining.known joining.absent event
          rw [List.append_assoc, List.append_assoc]
          exact ⟨id, row, m.user, member, clock, rfl, joining.known, joining.code, grown (.inl joining.locked),
            unrevoked, unexpired, email, parsed, joining.absent, joined, used⟩
    · obtain rfl := Option.some.inj ((PgUuid.parse_text id).symm.trans hi)
      have known : ((engine fold faults).view (ws ++ [_]) d₃).invitations id = none := gone
      rw [Engine.view_append] at known
      change ((engine fold faults).view ws d₃).invitations id = none at known
      rw [(view_aside aside d₃).2, joining.known] at known
      cases known
    · cases failed
  · cases never
  · cases failed

theorem requireUser_leads {next : Prog Ret Outcome} (locked : Locked code id row held d)
    (h : ∀ d' held' vs, (∀ w ∈ vs, w.aside) → Locked code id row held' d' →
      (narrowed fold faults ok).LeadsUnder (Kept fold faults ok) (Accepts fold faults code req) d' held' (ws ++ vs) next) :
    (narrowed fold faults ok).LeadsUnder (Kept fold faults ok) (Accepts fold faults code req) d held ws
      (requireUser req next) := by
  refine select_leads accepts_refusable fun d₁ known kept₁ _ => ?_
  split
  · have rest := h d₁ held [] (fun _ mem => absurd mem List.not_mem_nil) (locked.kept kept₁)
    rwa [List.append_nil] at rest
  · refine statement_leads accepts_refusable fun d₂ _ _ vs _ kept₂ run _ => ?_
    refine h d₂ _ vs (fun w mem => ?_) (((locked.kept kept₁).kept kept₂).more Set.subset_union_left)
    obtain ⟨⟨i, user, -, -, -, -, -, rfl⟩ | ⟨failed, -⟩, -⟩ := run
    · rw [List.mem_singleton.mp mem]
      trivial
    · cases failed

theorem acceptLocked_leads (aside : ∀ w ∈ ws, w.aside) (locked : Locked code id row held d) :
    (narrowed fold faults ok).LeadsUnder (Kept fold faults ok) (Accepts fold faults code req) d held ws
      (acceptLocked fold req header fresh id row) := by
  refine claim_leads accepts_refusable fun d₁ _ vs kept₁ grown quiet => ?_
  have locked := (locked.kept kept₁).more grown
  split
  · exact refused_leads accepts_refusable _ _ _
  · rename_i unrevoked
    refine statement_leads accepts_refusable fun d₂ _ time vs' _ kept₂ run _ => ?_
    obtain ⟨-, rfl, -⟩ := run
    have locked := locked.kept kept₂
    split
    · exact refused_leads accepts_refusable _ _ _
    · rename_i unexpired
      split
      · rename_i email
        refine requireUser_leads (locked.more Set.subset_union_left) fun d₃ held₃ vs₃ aside₃ locked => ?_
        refine joinWorkspace_leads (fun w mem => ?_) locked (by simpa using unrevoked) (not_lt.mp unexpired) email
        rcases List.mem_append.mp mem with mem | mem
        · rw [List.append_nil] at mem
          exact (List.mem_append.mp mem).elim (aside w) fun own => quiet_aside (quiet w own)
        · exact aside₃ w mem
      · exact refused_leads accepts_refusable _ _ _

omit [Platform] [GoUnicode] in
theorem lockInvitation_found {n n' : Nat} {found : PgUuid × InvitationRow} {vs : List Write}
    (run : exec faults (.lockInvitation code) d n (.ok (some found)) vs n') :
    d.invitations found.1 = some found.2 ∧ found.2.code = code ∧ vs = [] := by
  obtain ⟨⟨answer, -, own, same⟩ | failed, rfl, -⟩ := run
  · rw [← Except.ok.inj same] at own
    obtain ⟨id, row, known, code, both⟩ | ⟨-, none⟩ := own
    · obtain rfl := Option.some.inj both
      exact ⟨known, code, rfl⟩
    · cases none
  · cases failed

theorem handleAcceptInvitation_leads :
    (narrowed fold faults ok).LeadsUnder (Kept fold faults ok) (Accepts fold faults code req) d held []
      (handleAcceptInvitation fold code header req fresh) := by
  unfold handleAcceptInvitation
  split_ifs
  · exact refused_leads accepts_refusable _ _ _
  · exact refused_leads accepts_refusable _ _ _
  · refine statement_leads accepts_refusable fun d₁ _ found vs _ kept₁ run _ => ?_
    cases found with
    | none => exact refused_leads accepts_refusable _ _ _
    | some found =>
        obtain ⟨known, own, rfl⟩ := lockInvitation_found run
        have taken : Key.invitation found.1 ∈ held ∪ locks (.lockInvitation code) d₁ :=
          .inr ⟨found.1, found.2, known, own, rfl⟩
        exact acceptLocked_leads (fun _ mem => absurd mem List.not_mem_nil) ⟨known, own, taken⟩

end Acceptances

section Revocations

variable [Platform] [GoUnicode] {fold : Char → Char} {faults : Bool} {ok : (o : Op) → Db → Ret o → Prop}
  {workspaceID invitationID header : String} {fresh : Fresh} {d : Db} {held : Set Key} {ws : List Write}

def Revokes (fold : Char → Char) (faults : Bool) (invitationID : String) (o : Outcome) (_ : Set Key) (ws : List Write)
    (d : Db) : Prop :=
  o.commits = true → ∃ id, PgUuid.parse invitationID = some id ∧ Used id ((engine fold faults).view ws d)

theorem revokes_refusable : Refusable (Revokes fold faults invitationID) := fun _ _ _ _ _ _ => nofun

theorem view_revoked {vs : List Write} (quiet : ∀ v ∈ vs, v.quiet) {id : PgUuid} {row : InvitationRow}
    (known : d.invitations id = some row) (event : Audit.AuditRow) :
    Used id ((engine fold faults).view (vs ++ [.revoke id, .audit event]) d) := by
  refine ⟨{ row with revoked := true }, ?_, rfl⟩
  rw [Engine.view_append]
  change (if id = id then (((engine fold faults).view vs d).invitations id).map _ else _) = _
  rw [if_pos rfl, (quiet_view quiet d).invitations, known, Option.map_some]

theorem handleRevokeInvitation_leads :
    (narrowed fold faults ok).LeadsUnder (Kept fold faults ok) (Revokes fold faults invitationID) d held []
      (handleRevokeInvitation workspaceID invitationID header fresh) := by
  refine require_leads revokes_refusable fun d₁ _ kept₁ _ _ => ?_
  refine claim_leads revokes_refusable fun d₂ held₂ vs kept₂ grown quiet => ?_
  refine statement_leads revokes_refusable fun d₃ _ affected vs' _ kept₃ run _ => ?_
  obtain ⟨⟨id, w, hid, -, ⟨row, known, -, -, same, rfl⟩ | ⟨-, same, -⟩⟩ | ⟨failed, -⟩, -⟩ := run
  · obtain rfl := Except.ok.inj same
    have known : d₃.invitations id = some row := (congrFun (quiet_view quiet d₃).invitations id).symm.trans known
    refine audited_leads revokes_refusable fun d₄ _ event kept₄ grown' _ _ => ?_
    intro d₅ kept₅ _
    obtain ⟨row', known', -⟩ := (kept₄.grown.trans kept₅.grown).invitation id row known
    rw [List.nil_append, List.append_assoc]
    exact ⟨id, hid, view_revoked quiet known' event⟩
  · obtain rfl := Except.ok.inj same
    exact refused_leads revokes_refusable _ _ _
  · cases failed

end Revocations

section Runs

variable [Platform] [GoUnicode] (fold : Char → Char) (faults : Bool)

def Owed : Call → Outcome → Set Key → List Write → Db → Prop
  | .acceptInvitation code _ req _ => Accepts fold faults code req
  | .revokeInvitation _ invitationID _ _ => Revokes fold faults invitationID
  | _ => fun _ _ _ _ => True

variable {fold faults}

theorem owed_leads {ok : (o : Op) → Db → Ret o → Prop} (c : Call) (d : Db) :
    (narrowed fold faults ok).LeadsUnder (Kept fold faults ok) (Owed fold faults c) d ∅ [] (program fold c) := by
  cases c with
  | acceptInvitation => exact handleAcceptInvitation_leads
  | revokeInvitation => exact handleRevokeInvitation_leads
  | _ => exact .of_forall (fun _ _ _ _ => trivial) _ _ _ _

variable (fold faults)

-- An invitation is used once: from a state on, by whatever comes.
structure SingleUse (s : Database Call Ret Key Db Write Outcome) : Prop where
  accepted : ∀ s' t o code header req fresh, t.call = .acceptInvitation code header req fresh →
    (engine fold faults).Commits s s' t o →
    ∃ id row user m clock, o = .accepted id m clock ∧
      Accepted fold code req id row user clock t.held s.committed s'.committed ∧ Used id s'.committed
  revoked : ∀ s' t o workspaceID invitationID header fresh,
    t.call = .revokeInvitation workspaceID invitationID header fresh → (engine fold faults).Commits s s' t o →
    ∃ id, PgUuid.parse invitationID = some id ∧ Used id s'.committed
  spent : ∀ id s₁ s₂ t code header req fresh m clock, Used id s.committed → (engine fold faults).Steps s s₁ →
    t.call = .acceptInvitation code header req fresh →
    ¬ (engine fold faults).Commits s₁ s₂ t (.accepted id m clock)
  refused : ∀ (i : Nat) (s' : Database Call Ret Key Db Write Outcome) (t : Session Call Ret Key Write Outcome)
    (code header : String) (req : AcceptRequest) (fresh : Fresh) (status : Nat) (reason message : String),
    s.sessions[i]? = some t →
    t.call = .acceptInvitation code header req fresh → t.rest = some (.pure (.refused status reason message)) →
    (engine fold faults).Step s s' → s'.sessions[i]? = some (Engine.ended t) → s'.committed = s.committed

variable {fold faults}

theorem acceptance_commits {d : Db} {n : Nat} {s s' : Database Call Ret Key Db Write Outcome}
    {t : Session Call Ret Key Write Outcome} {o : Outcome} {code header : String} {req : AcceptRequest} {fresh : Fresh}
    (reachable : (engine fold faults).Reachable d n s) (accepts : t.call = .acceptInvitation code header req fresh)
    (commit : (engine fold faults).Commits s s' t o) :
    ∃ id row user m clock, o = .accepted id m clock ∧
      Accepted fold code req id row user clock t.held s.committed s'.committed := by
  have owed := commits_leads owed_leads reachable commit
  rw [accepts] at owed
  obtain ⟨i, -, -, ok, rfl⟩ := commit
  exact owed ok

theorem invitations_single_use {d : Db} {n : Nat} {s : Database Call Ret Key Db Write Outcome}
    (reachable : (engine fold faults).Reachable d n s) : SingleUse fold faults s where
  accepted s' t o code header req fresh accepts commit := by
    obtain ⟨id, row, user, m, clock, own, accepted⟩ := acceptance_commits reachable accepts commit
    exact ⟨id, row, user, m, clock, own, accepted, accepted.spent⟩
  revoked s' t o workspaceID invitationID header fresh revokes commit := by
    have owed := commits_leads owed_leads reachable commit
    rw [revokes] at owed
    obtain ⟨i, -, -, ok, rfl⟩ := commit
    exact owed ok
  spent id s₁ s₂ t code header req fresh m clock used steps accepts commit := by
    obtain ⟨id', row, user, m', clock', own, accepted⟩ := acceptance_commits (reachable.trans steps) accepts commit
    obtain ⟨rfl, -, -⟩ := Outcome.accepted.inj own
    obtain ⟨row', known, revoked⟩ := used.grows ((growing fold faults).steps steps)
    obtain rfl := Option.some.inj (accepted.known.symm.trans known)
    exact Bool.false_ne_true (accepted.unrevoked.symm.trans revoked)
  refused i s' t code header req fresh status reason message session accepts done step closed :=
    step.discarded session done rfl closed

end Runs

section Samples

def sampleInvitation : PgUuid := .repeated 1

def invited : InvitationRow := ⟨team, "ann@acme.dev", .engineer, "code", 10, false⟩

def invitedDb : Db where
  users _ := none
  workspaces id := if id = team then some ⟨"Acme", "acme", "dev", none, .obj [], false⟩ else none
  creations _ := none
  memberships _ _ := none
  removals _ _ := 0
  invitations id := if id = sampleInvitation then some invited else none
  keys _ _ := none
  runs := []
  audits := []

def accepting (user : PgUuid) (tag : String) : Call :=
  .acceptInvitation "code" tag ⟨user.text, "Ann", "Ann@acme.dev"⟩ (tagged tag)

def ann : PgUuid := .repeated 2

def annJoins : List Write :=
  [.key team "1" "invitation_accept", .user ann ⟨ann.text, "Ann", "Ann@acme.dev"⟩, .membership ann team ⟨.engineer, none⟩,
    .revoke sampleInvitation]

theorem invited_accepted :
    letI := lastCharacter
    letI := Backend.Approval.asciiTables
    ∃ n row, (watching Char.toLower ∅).Proceeds Set.univ invitedDb 0 [] (program Char.toLower (accepting ann "1")) n
      (annJoins ++ [.audit row]) (.pure (.accepted sampleInvitation ⟨ann, "Ann", "Ann@acme.dev", .engineer⟩ 5)) ∧
      row.hash = "1" := by
  let _ := lastCharacter
  let _ := Backend.Approval.asciiTables
  have plain := tags_plain "1" (by decide)
  obtain ⟨row, hash, ends⟩ : ∃ row : AuditRow, row.hash = "1" ∧ (watching Char.toLower ∅).Proceeds Set.univ invitedDb 0
      annJoins (audited (appendAuditEvent team.text .invitationAccepted ann.text "invitation" sampleInvitation.text
        [("email", .str invited.email), ("role", .str invited.role.text), ("idempotency_key", .str "1")] (tagged "1"))
        acceptFailed (.pure (.accepted sampleInvitation ⟨ann, "Ann", "Ann@acme.dev", .engineer⟩ 5))) 1 (annJoins ++ [.audit row])
        (.pure (.accepted sampleInvitation ⟨ann, "Ann", "Ann@acme.dev", .engineer⟩ 5)) :=
    audited_ends plain (Set.mem_univ _) List.not_mem_nil
  refine ⟨1, row, ?_, hash⟩
  change (watching Char.toLower ∅).Proceeds _ _ _ _ (handleAcceptInvitation _ _ _ _ _) _ _ _
  unfold handleAcceptInvitation
  rw [if_neg (by decide), if_neg (by decide)]
  refine statement_proceeds (o := .lockInvitation "code") (some (sampleInvitation, invited)) [] 0 (Set.subset_univ _)
    ⟨.inl ⟨_, by decide, .inl ⟨sampleInvitation, invited, rfl, rfl, rfl⟩, rfl⟩, rfl, rfl⟩ trivial ?_
  refine claim_proceeds plain.plain plain.fits plain.storable (PgUuid.parse_text team) trivial rfl rfl ?_
  refine statement_proceeds (o := .now) 5 [] 0 (Set.subset_univ _) ⟨⟨5, rfl⟩, rfl, rfl⟩ trivial ?_
  rw [if_neg (by decide), if_pos (by decide)]
  refine select_proceeds (show Query.Answer (.userExists ann.text) from false) rfl ?_
  refine statement_proceeds (o := .insertUser ann.text "Ann" "Ann@acme.dev") () [.user ann ⟨ann.text, "Ann", "Ann@acme.dev"⟩] 0
    (Set.subset_univ _) ⟨.inl ⟨ann, _, PgUuid.parse_text ann, rfl, rfl, ?_, rfl, rfl⟩, rfl⟩ trivial ?_
  · rintro ⟨id, row, known, -⟩
    cases known
  refine require_proceeds (show Query.Answer (.isMember ann.text team.text) from false) rfl rfl ?_
  refine statement_proceeds (o := .insertMembership ann.text team.text "engineer" none false) true
    [.membership ann team ⟨.engineer, none⟩] 0 (Set.subset_univ _) ⟨.inl ⟨⟨ann, team, ⟨.engineer, none⟩⟩, rfl,
      ⟨rfl, rfl, fun _ mem => (Option.not_mem_none _ mem).elim⟩, .inl ⟨rfl, rfl, rfl⟩⟩, rfl⟩ trivial ?_
  refine statement_proceeds (o := .revokeUsed sampleInvitation.text) () [.revoke sampleInvitation] 0 (Set.subset_univ _)
    ⟨.inl ⟨sampleInvitation, PgUuid.parse_text sampleInvitation, rfl, .inl ⟨rfl, rfl⟩⟩, rfl⟩ trivial ?_
  exact select_proceeds (show Query.Answer (.member ann.text team.text) from some ⟨ann, "Ann", "Ann@acme.dev", .engineer⟩) rfl ends

def ben : PgUuid := .repeated 3

theorem later_refused (row : AuditRow) (n : Nat) :
    letI := lastCharacter
    letI := Backend.Approval.asciiTables
    (watching Char.toLower ∅).Proceeds Set.univ ((engine Char.toLower false).view (annJoins ++ [.audit row]) invitedDb) n []
      (program Char.toLower (accepting ben "2")) n [.key team "2" "invitation_accept"]
      (.pure (.refused 410 "revoked" "invitation has been revoked")) := by
  let _ := lastCharacter
  let _ := Backend.Approval.asciiTables
  have plain := tags_plain "2" (by decide)
  change (watching Char.toLower ∅).Proceeds _ _ _ _ (handleAcceptInvitation _ _ _ _ _) _ _ _
  unfold handleAcceptInvitation
  rw [if_neg (by decide), if_neg (by decide)]
  refine statement_proceeds (o := .lockInvitation "code") (some (sampleInvitation, { invited with revoked := true })) [] n
    (Set.subset_univ _) ⟨.inl ⟨_, by decide, .inl ⟨sampleInvitation, _, rfl, rfl, rfl⟩, rfl⟩, rfl, rfl⟩ trivial ?_
  exact claim_proceeds plain.plain plain.fits plain.storable (PgUuid.parse_text team) trivial rfl rfl (.here _ _ _)

-- Ann accepts the invitation, and then Ben tries to.
theorem invitations_single_use_accepted :
    letI := lastCharacter
    letI := Backend.Approval.asciiTables
    ∃ s t s₁ s₂ u, (engine Char.toLower false).Reachable invitedDb 0 s ∧ t.call = accepting ann "1" ∧
      (engine Char.toLower false).Commits s s₁ t (.accepted sampleInvitation ⟨ann, "Ann", "Ann@acme.dev", .engineer⟩ 5) ∧
      (engine Char.toLower false).Steps s₁ s₂ ∧ s₂.sessions[1]? = some u ∧ u.call = accepting ben "2" ∧
      u.rest = some (.pure (.refused 410 "revoked" "invitation has been revoked")) ∧ Used sampleInvitation s₁.committed ∧
      SingleUse Char.toLower false s ∧ SingleUse Char.toLower false s₁ ∧ SingleUse Char.toLower false s₂ := by
  let _ := lastCharacter
  let _ := Backend.Approval.asciiTables
  obtain ⟨n, row, run, -⟩ := invited_accepted
  obtain ⟨s, t, steps, call, commit⟩ := Proceeds.committed (E := watching Char.toLower ∅)
    (s := ⟨invitedDb, 0, []⟩) (c := accepting ann "1") run rfl fun _ mem => absurd mem List.not_mem_nil
  have commit := Engine.Commits.of_restrict commit
  obtain ⟨held, later⟩ := Proceeds.begun (E := watching Char.toLower ∅)
    (s := ⟨_, n, [⟨accepting ann "1", ∅, [], none⟩]⟩) (c := accepting ben "2") (later_refused row n) fun u mem => by
      rw [List.mem_singleton.mp mem]
      exact Set.disjoint_empty _
  have reachable : (engine Char.toLower false).Reachable invitedDb 0 s := Steps.of_restrict steps
  have later := Steps.of_restrict later
  exact ⟨s, t, _, _, _, reachable, call, commit, later, rfl, rfl, rfl, ⟨_, rfl, rfl⟩, invitations_single_use reachable,
    invitations_single_use (reachable.tail commit.step),
    invitations_single_use ((reachable.tail commit.step).trans later)⟩

end Samples

end Provisr.Workspace
