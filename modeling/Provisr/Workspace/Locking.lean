import Provisr.Foundation.UnderLocks
import Provisr.Workspace.Programs

namespace Provisr.Workspace

open Provisr.Foundation
open Provisr.Audit (EventType)
open Provisr.Backend (GoUnicode TrimSpace)
open Provisr.Backend.Manifest (SqlError textIn answers answers_ok)
open Provisr.Orchestrator (Platform)

section Parts

inductive Part where
  | workspace (row : Option WorkspaceRow)
  | creation (id : Option PgUuid)
  | membership (row : Option MembershipRow)
  | invitation (row : Option InvitationRow)
  | other

def part : Key → Db → Part
  | .workspace id, d => .workspace (d.workspaces id)
  | .creation key, d => .creation (d.creations key)
  | .membership userID workspaceID, d => .membership (d.memberships userID workspaceID)
  | .invitation id, d => .invitation (d.invitations id)
  | _, _ => .other

def touches : Write → Set Key
  | .workspace id _ key => {.workspace id, .creation key}
  | .rename id .. | .deleteWorkspace id => {.workspace id}
  | .membership userID workspaceID _ | .role userID workspaceID _ | .removal userID workspaceID =>
    {.membership userID workspaceID}
  | .invitation id _ | .revoke id => {.invitation id}
  | _ => ∅

variable {d d' : Db}

theorem part_apply {x : Key} {w : Write} (h : part x d = part x d') : part x (apply w d) = part x (apply w d') := by
  cases x with
  | workspace id =>
      have same : d.workspaces id = d'.workspaces id := Part.workspace.inj h
      cases w <;> simp [part, apply, same]
  | creation key =>
      have same : d.creations key = d'.creations key := Part.creation.inj h
      cases w <;> simp [part, apply, same]
  | membership userID workspaceID =>
      have same : d.memberships userID workspaceID = d'.memberships userID workspaceID := Part.membership.inj h
      cases w <;> simp [part, apply, same]
  | invitation id =>
      have same : d.invitations id = d'.invitations id := Part.invitation.inj h
      cases w <;> simp [part, apply, same]
  | user | clerk | slug | creationKey | code | key | chain => rfl

theorem part_untouched {x : Key} {w : Write} (h : x ∉ touches w) : part x (apply w d) = part x d := by
  cases x with
  | workspace id => cases w <;> simp_all [part, apply, touches]
  | creation key => cases w <;> simp_all [part, apply, touches]
  | membership userID workspaceID =>
      cases w with
      | membership | role | removal =>
          simp only [touches, Set.mem_singleton_iff, Key.membership.injEq] at h
          simp [part, apply, h]
      | user | workspace | rename | deleteWorkspace | invitation | revoke | key | runs | audit => rfl
  | invitation id => cases w <;> simp_all [part, apply, touches]
  | user | clerk | slug | creationKey | code | key | chain => rfl

end Parts

section Statements

variable {faults : Bool} {d : Db} {n n' : Nat}

theorem exec_le {o : Op} {r : Ret o} {ws : List Write} (run : exec faults o d n r ws n') : n ≤ n' := by
  cases o with
  | select | selectReplay | slugTaken | selectAdmins | lockAdmins | lockWorkspace | lockInvitation | lockCreation | now =>
      exact run.2.2.ge
  | audit o =>
      obtain ⟨a, rows, -, run, -⟩ | ⟨-, rfl⟩ := run
      · exact Audit.exec_le run
      · exact le_rfl
  | claimKey | insertUser | insertWorkspace | insertMembership | insertInvitation | updateWorkspace | deleteWorkspace |
    updateRole | deleteMembership | revokeInvitation | revokeUsed | setRuns => exact run.2.ge

theorem exec_touches {o : Op} {r : Ret o} {ws : List Write} (run : exec faults o d n r ws n') {w : Write} (mem : w ∈ ws)
    {x : Key} (touched : x ∈ touches w) :
    x ∈ locks o d ∨ ∃ row inserted key, o = .insertWorkspace row ∧ insertedWorkspace row = some (inserted, key) ∧
      x = .creation key := by
  have none : ws = [] → x ∈ locks o d ∨ ∃ row inserted key, o = .insertWorkspace row ∧
      insertedWorkspace row = some (inserted, key) ∧ x = .creation key :=
    fun empty => absurd (empty ▸ mem) List.not_mem_nil
  cases o with
  | select | selectReplay | slugTaken | selectAdmins | lockAdmins | lockWorkspace | lockInvitation | lockCreation | now =>
    exact none run.2.1
  | claimKey workspaceID key mutation =>
    obtain ⟨⟨w', -, -, -, ⟨-, -, rfl⟩ | ⟨-, -, empty⟩⟩ | ⟨-, empty⟩, -⟩ := run
    · rw [List.mem_singleton.mp mem] at touched
      cases touched
    · exact none empty
    · exact none empty
  | insertUser id name email =>
    obtain ⟨⟨i, row, -, -, -, -, -, rfl⟩ | ⟨-, empty⟩, -⟩ := run
    · rw [List.mem_singleton.mp mem] at touched
      cases touched
    · exact none empty
  | insertWorkspace row =>
    obtain ⟨⟨inserted, key, hi, -, -, ⟨-, -, rfl⟩ | ⟨-, -, empty⟩⟩ | ⟨-, empty⟩, -⟩ := run
    · rw [List.mem_singleton.mp mem] at touched
      rcases touched with rfl | rfl
      · exact .inl (.inl rfl)
      · exact .inr ⟨row, inserted, key, rfl, hi, rfl⟩
    · exact none empty
    · exact none empty
  | insertMembership userID workspaceID role invitedBy orNothing =>
    obtain ⟨⟨m, hm, -, ⟨-, -, rfl⟩ | ⟨-, -, -, empty⟩⟩ | ⟨-, empty⟩, -⟩ := run
    · rw [List.mem_singleton.mp mem] at touched
      rw [Set.mem_singleton_iff.mp touched]
      simp only [insertedMembership, Option.bind_eq_bind, Option.bind_eq_some_iff, Option.some.injEq] at hm
      obtain ⟨user, hu, workspace, hw, -, -, -, -, rfl⟩ := hm
      exact .inl ⟨user, hu, workspace, hw, rfl⟩
    · exact none empty
    · exact none empty
  | insertInvitation row =>
    obtain ⟨⟨now, inserted, -, -, -, -, rfl⟩ | ⟨-, empty⟩, -⟩ := run
    · rw [List.mem_singleton.mp mem] at touched
      exact .inl (.inl touched)
    · exact none empty
  | updateWorkspace id name slug environment description =>
    obtain ⟨⟨i, hi, ⟨row, live, -, -, rfl⟩ | ⟨-, -, empty⟩⟩ | ⟨-, empty⟩, -⟩ := run
    · rw [List.mem_singleton.mp mem] at touched
      exact .inl ⟨i, hi, by rw [live]; rfl, .inl touched⟩
    · exact none empty
    · exact none empty
  | deleteWorkspace id =>
    obtain ⟨⟨i, hi, -, ⟨live, rfl⟩ | ⟨-, empty⟩⟩ | ⟨-, empty⟩, -⟩ := run
    · rw [List.mem_singleton.mp mem] at touched
      exact .inl ⟨i, hi, live, touched⟩
    · exact none empty
    · exact none empty
  | updateRole role userID workspaceID =>
    obtain ⟨⟨u, w', changed, hu, hw, -, ⟨known, -, rfl⟩ | ⟨-, -, empty⟩⟩ | ⟨-, empty⟩, -⟩ := run
    · rw [List.mem_singleton.mp mem] at touched
      exact .inl ⟨u, hu, w', hw, known, touched⟩
    · exact none empty
    · exact none empty
  | deleteMembership userID workspaceID =>
    obtain ⟨⟨u, w', hu, hw, ⟨known, -, rfl⟩ | ⟨-, -, empty⟩⟩ | ⟨-, empty⟩, -⟩ := run
    · rw [List.mem_singleton.mp mem] at touched
      exact .inl ⟨u, hu, w', hw, known, touched⟩
    · exact none empty
    · exact none empty
  | revokeInvitation id workspaceID =>
    obtain ⟨⟨i, w', hi, hw, ⟨row, known, same, unrevoked, -, rfl⟩ | ⟨-, -, empty⟩⟩ | ⟨-, empty⟩, -⟩ := run
    · rw [List.mem_singleton.mp mem] at touched
      exact .inl ⟨i, hi, w', hw, row, known, same, unrevoked, touched⟩
    · exact none empty
    · exact none empty
  | revokeUsed id =>
    obtain ⟨⟨i, hi, -, ⟨known, rfl⟩ | ⟨-, empty⟩⟩ | ⟨-, empty⟩, -⟩ := run
    · rw [List.mem_singleton.mp mem] at touched
      exact .inl ⟨i, hi, known, touched⟩
    · exact none empty
    · exact none empty
  | audit o =>
    obtain ⟨a, rows, -, -, rfl⟩ | ⟨⟨-, empty⟩, -⟩ := run
    · obtain ⟨row, -, rfl⟩ := List.mem_map.mp mem
      cases touched
    · exact none empty
  | setRuns runs =>
    obtain ⟨⟨-, rfl⟩ | ⟨-, empty⟩, -⟩ := run
    · rw [List.mem_singleton.mp mem] at touched
      cases touched
    · exact none empty

def Write.of : Op → Write → Prop
  | .claimKey .., .key .. => True
  | .insertUser .., .user .. => True
  | .insertWorkspace row, .workspace id _ _ => id = row.id
  | .insertMembership .., .membership .. => True
  | .insertInvitation row, .invitation id _ => id = row.id
  | .updateWorkspace .., .rename .. => True
  | .deleteWorkspace _, .deleteWorkspace _ => True
  | .updateRole .., .role .. => True
  | .deleteMembership .., .removal .. => True
  | .revokeInvitation .., .revoke _ => True
  | .revokeUsed _, .revoke _ => True
  | .audit o, .audit row =>
    ∃ e hash, o = .insertEvent e hash ∧ row.eventType = e.eventType ∧ row.resourceId = e.resourceId
  | .setRuns _, .runs _ => True
  | _, _ => False

theorem exec_writes {o : Op} {r : Ret o} {ws : List Write} (run : exec faults o d n r ws n') {w : Write} (mem : w ∈ ws) :
    w.of o := by
  have none : ws = [] → w.of o := fun empty => absurd (empty ▸ mem) List.not_mem_nil
  have one : ∀ v : Write, ws = [v] → v.of o → w.of o := by
    intro v single own
    rw [single] at mem
    exact List.mem_singleton.mp mem ▸ own
  cases o with
  | select | selectReplay | slugTaken | selectAdmins | lockAdmins | lockWorkspace | lockInvitation | lockCreation | now =>
      exact none run.2.1
  | claimKey =>
      obtain ⟨⟨w', -, -, -, ⟨-, -, single⟩ | ⟨-, -, empty⟩⟩ | ⟨-, empty⟩, -⟩ := run
      exacts [one _ single trivial, none empty, none empty]
  | insertUser =>
      obtain ⟨⟨i, row, -, -, -, -, -, single⟩ | ⟨-, empty⟩, -⟩ := run
      exacts [one _ single trivial, none empty]
  | insertWorkspace =>
      obtain ⟨⟨inserted, key, -, -, -, ⟨-, -, single⟩ | ⟨-, -, empty⟩⟩ | ⟨-, empty⟩, -⟩ := run
      exacts [one _ single rfl, none empty, none empty]
  | insertMembership =>
      obtain ⟨⟨m, -, -, ⟨-, -, single⟩ | ⟨-, -, -, empty⟩⟩ | ⟨-, empty⟩, -⟩ := run
      exacts [one _ single trivial, none empty, none empty]
  | insertInvitation =>
      obtain ⟨⟨now, inserted, -, -, -, -, single⟩ | ⟨-, empty⟩, -⟩ := run
      exacts [one _ single rfl, none empty]
  | updateWorkspace =>
      obtain ⟨⟨i, -, ⟨row, -, -, -, single⟩ | ⟨-, -, empty⟩⟩ | ⟨-, empty⟩, -⟩ := run
      exacts [one _ single trivial, none empty, none empty]
  | deleteWorkspace =>
      obtain ⟨⟨i, -, -, ⟨-, single⟩ | ⟨-, empty⟩⟩ | ⟨-, empty⟩, -⟩ := run
      exacts [one _ single trivial, none empty, none empty]
  | updateRole =>
      obtain ⟨⟨u, w', changed, -, -, -, ⟨-, -, single⟩ | ⟨-, -, empty⟩⟩ | ⟨-, empty⟩, -⟩ := run
      exacts [one _ single trivial, none empty, none empty]
  | deleteMembership =>
      obtain ⟨⟨u, w', -, -, ⟨-, -, single⟩ | ⟨-, -, empty⟩⟩ | ⟨-, empty⟩, -⟩ := run
      exacts [one _ single trivial, none empty, none empty]
  | revokeInvitation =>
      obtain ⟨⟨i, w', -, -, ⟨row, -, -, -, -, single⟩ | ⟨-, -, empty⟩⟩ | ⟨-, empty⟩, -⟩ := run
      exacts [one _ single trivial, none empty, none empty]
  | revokeUsed =>
      obtain ⟨⟨i, -, -, ⟨-, single⟩ | ⟨-, empty⟩⟩ | ⟨-, empty⟩, -⟩ := run
      exacts [one _ single trivial, none empty, none empty]
  | audit o =>
      obtain ⟨a, rows, -, run, rfl⟩ | ⟨⟨-, empty⟩, -⟩ := run
      · cases o with
        | advisoryLock => exact none (run.1 ▸ rfl)
        | selectTail => exact none (run.2.1 ▸ rfl)
        | insertEvent e hash =>
            obtain ⟨-, -, seq, -, -, rfl⟩ := run
            exact one _ rfl ⟨e, hash, rfl, rfl, rfl⟩
      · exact none empty
  | setRuns =>
      obtain ⟨⟨-, single⟩ | ⟨-, empty⟩, -⟩ := run
      exacts [one _ single trivial, none empty]

end Statements

section Kinds

def Op.plain : Op → Prop
  | .insertWorkspace _ => False
  | _ => True

variable {P : Op → Prop} {message : String}

theorem all_statement {o : Op} {next : Answer o → Prog Ret Outcome} (own : P o) (rest : ∀ a, (next a).All P) :
    (statement o message next).All P := by
  refine ⟨own, fun r => ?_⟩
  cases r with
  | error e => trivial
  | ok a => exact rest a

def records (eventType : Option EventType) : Audit.Op → Prop
  | .insertEvent e _ => some e.eventType = eventType
  | _ => True

theorem all_audited [Platform] {workspaceID actorID resourceType resourceID : String} {eventType : EventType}
    {payload : JsFields} {fresh : Fresh} {next : Prog Ret Outcome}
    (own : ∀ o, records (some eventType) o → P (.audit o)) (rest : next.All P) :
    (audited (appendAuditEvent workspaceID eventType actorID resourceType resourceID payload fresh) message next).All P :=
  all_statement (own _ trivial) fun _ => all_statement (own _ trivial) fun _ => all_statement (own _ rfl) fun _ => rest

theorem all_require {q : Query} {holds : q.Answer → Bool} {refusal : Outcome} {next : Prog Ret Outcome}
    (own : P (.select q)) (rest : next.All P) : (require q message holds refusal next).All P := by
  refine all_statement own fun a => ?_
  split
  · exact rest
  · trivial

theorem all_claimIdempotencyKey {header workspaceID mutation : String} {next : Prog Ret Outcome}
    (own : ∀ key, P (.claimKey workspaceID key mutation)) (rest : next.All P) :
    (claimIdempotencyKey header workspaceID mutation next).All P := by
  unfold claimIdempotencyKey
  dsimp only
  split
  · trivial
  · refine all_statement (own _) fun claimed => ?_
    split
    · exact rest
    · trivial

theorem all_requireLastAdminNotTarget {workspaceID userID : String} {refusal : Outcome} {next : Prog Ret Outcome}
    (select : P (.selectAdmins workspaceID)) (lock : ∀ admins, P (.lockAdmins workspaceID admins))
    (ask : P (.select (.isAdmin workspaceID userID))) (rest : next.All P) :
    (requireLastAdminNotTarget workspaceID userID message refusal next).All P := by
  refine all_statement select fun admins => all_statement (lock admins) fun adminCount => ?_
  split
  · exact all_require ask rest
  · exact rest

end Kinds

section Programs

def Op.quiet : Op → Prop
  | .select _ | .selectReplay .. | .slugTaken .. | .selectAdmins _ | .lockAdmins .. | .lockWorkspace _ |
    .lockInvitation _ | .lockCreation _ | .now | .claimKey .. => True
  | _ => False

def Call.event : Call → Option EventType
  | .create .. => some .workspaceCreated
  | .update .. => some .workspaceUpdated
  | .delete .. => some .workspaceDeleted
  | .addMember .. => some .memberAdded
  | .updateRole .. => some .memberRoleUpdated
  | .removeMember .. => some .memberRemoved
  | .createInvitation .. => some .invitationCreated
  | .revokeInvitation .. => some .invitationRevoked
  | .acceptInvitation .. => some .invitationAccepted
  | .setRuns _ => none

def Call.permits : Call → Op → Prop
  | .create .., .insertWorkspace _ => True
  | .create .., .insertMembership .. => True
  | .update .., .updateWorkspace .. => True
  | .delete .., .deleteWorkspace _ => True
  | .addMember .., .insertMembership .. => True
  | .updateRole .., .updateRole .. => True
  | .removeMember .., .deleteMembership .. => True
  | .createInvitation .., .insertInvitation _ => True
  | .revokeInvitation .., .revokeInvitation .. => True
  | .acceptInvitation .., .insertUser .. => True
  | .acceptInvitation .., .insertMembership .. => True
  | .acceptInvitation .., .revokeUsed _ => True
  | .setRuns _, .setRuns _ => True
  | c, .audit o => records c.event o
  | _, o => o.quiet

variable [Platform]

section Create

variable [GoUnicode]

theorem handleCreate_all (req : CreateRequest) (header : String) (fresh : Fresh) :
    (handleCreate req header fresh).All (Call.create req header fresh).permits := by
  unfold handleCreate
  dsimp only
  split
  · trivial
  · refine all_statement trivial fun _ => all_statement trivial fun found => ?_
    cases found with
    | some replay => trivial
    | none =>
        refine all_statement trivial fun taken => ?_
        split
        · trivial
        · refine ⟨trivial, fun r => ?_⟩
          match r with
          | .ok row => exact all_statement trivial fun _ => all_audited (fun _ own => own) trivial
          | .error .uniqueViolation => trivial
          | .error .other => trivial

omit [GoUnicode] in
theorem updateFields_all {id header : String} {req : UpdateRequest} {fresh : Fresh} (row : WorkspaceRow) :
    (updateFields id header req fresh row).All (Call.update id header req fresh).permits := by
  unfold updateFields
  split
  · trivial
  · refine all_statement trivial fun updated => ?_
    cases updated with
    | none => trivial
    | some row => exact all_audited (fun _ own => own) trivial

theorem changeName_all {id header : String} {req : UpdateRequest} {fresh : Fresh} (row : WorkspaceRow)
    (name slug : String) :
    (changeName id header req fresh row name slug).All (Call.update id header req fresh).permits := by
  unfold changeName
  split
  · trivial
  · split
    · exact updateFields_all _
    · refine all_statement trivial fun taken => ?_
      split
      · trivial
      · exact updateFields_all _

theorem handleUpdate_all (id header : String) (req : UpdateRequest) (fresh : Fresh) :
    (handleUpdate id header req fresh).All (Call.update id header req fresh).permits := by
  refine all_statement trivial fun found => ?_
  cases found with
  | none => trivial
  | some row =>
      refine all_claimIdempotencyKey (fun _ => trivial) ?_
      cases req.name with
      | none => exact updateFields_all row
      | some name => exact changeName_all row name _

end Create

theorem handleDelete_all (id header : String) (fresh : Fresh) :
    (handleDelete id header fresh).All (Call.delete id header fresh).permits := by
  refine all_statement trivial fun found => ?_
  cases found with
  | none => trivial
  | some row =>
      exact all_claimIdempotencyKey (fun _ => trivial) <| all_require trivial <|
        all_statement trivial fun _ => all_audited (fun _ own => own) trivial

theorem handleAddMember_all (workspaceID userID role header : String) (fresh : Fresh) :
    (handleAddMember workspaceID userID role header fresh).All
      (Call.addMember workspaceID userID role header fresh).permits := by
  unfold handleAddMember
  split
  · trivial
  · split
    · refine all_require trivial <| all_claimIdempotencyKey (fun _ => trivial) <| all_require trivial <|
        all_statement trivial fun inserted => ?_
      split
      · refine all_statement trivial fun found => ?_
        cases found with
        | none => trivial
        | some m => exact all_audited (fun _ own => own) trivial
      · trivial
    · trivial

theorem handleUpdateRole_all (workspaceID userID role header : String) (fresh : Fresh) :
    (handleUpdateRole workspaceID userID role header fresh).All
      (Call.updateRole workspaceID userID role header fresh).permits := by
  unfold handleUpdateRole
  split
  · refine all_require trivial <| all_claimIdempotencyKey (fun _ => trivial) <|
      all_requireLastAdminNotTarget trivial (fun _ => trivial) trivial <| all_statement trivial fun affected => ?_
    split
    · exact all_audited (fun _ own => own) trivial
    · trivial
  · trivial

theorem handleRemoveMember_all (workspaceID userID header : String) (fresh : Fresh) :
    (handleRemoveMember workspaceID userID header fresh).All
      (Call.removeMember workspaceID userID header fresh).permits := by
  refine all_require trivial <| all_claimIdempotencyKey (fun _ => trivial) <| all_require trivial <|
    all_requireLastAdminNotTarget trivial (fun _ => trivial) trivial <| all_statement trivial fun affected => ?_
  split
  · exact all_audited (fun _ own => own) trivial
  · trivial

theorem handleCreateInvitation_all (workspaceID email role header : String) (fresh : Fresh) :
    (handleCreateInvitation workspaceID email role header fresh).All
      (Call.createInvitation workspaceID email role header fresh).permits := by
  unfold handleCreateInvitation
  split
  · trivial
  · split
    · exact all_require trivial <| all_claimIdempotencyKey (fun _ => trivial) <|
        all_statement trivial fun _ => all_audited (fun _ own => own) trivial
    · trivial

theorem handleRevokeInvitation_all (workspaceID invitationID header : String) (fresh : Fresh) :
    (handleRevokeInvitation workspaceID invitationID header fresh).All
      (Call.revokeInvitation workspaceID invitationID header fresh).permits := by
  refine all_require trivial <| all_claimIdempotencyKey (fun _ => trivial) <| all_statement trivial fun affected => ?_
  split
  · exact all_audited (fun _ own => own) trivial
  · trivial

theorem joinWorkspace_all {code header : String} {req : AcceptRequest} {fresh : Fresh} (id : PgUuid)
    (inv : InvitationRow) (clock : Int) :
    (joinWorkspace req header fresh id inv clock).All (Call.acceptInvitation code header req fresh).permits := by
  refine all_require trivial <| all_statement trivial fun _ => all_statement trivial fun _ =>
    all_statement trivial fun found => ?_
  cases found with
  | none => trivial
  | some m => exact all_audited (fun _ own => own) trivial

theorem handleAcceptInvitation_all (fold : Char → Char) (code header : String) (req : AcceptRequest) (fresh : Fresh) :
    (handleAcceptInvitation fold code header req fresh).All
      (Call.acceptInvitation code header req fresh).permits := by
  unfold handleAcceptInvitation
  split
  · trivial
  · split
    · trivial
    · refine all_statement trivial fun found => ?_
      match found with
      | none => trivial
      | some (id, inv) =>
          refine all_claimIdempotencyKey (fun _ => trivial) ?_
          split
          · trivial
          · refine all_statement trivial fun clock => ?_
            split
            · trivial
            · split
              · refine all_statement trivial fun known => ?_
                split
                · exact joinWorkspace_all id inv clock
                · exact all_statement trivial fun _ => joinWorkspace_all id inv clock
              · trivial

theorem program_all [GoUnicode] (fold : Char → Char) (c : Call) : (program fold c).All c.permits := by
  cases c with
  | create req header fresh => exact handleCreate_all req header fresh
  | update id header req fresh => exact handleUpdate_all id header req fresh
  | delete id header fresh => exact handleDelete_all id header fresh
  | addMember workspaceID userID role header fresh => exact handleAddMember_all workspaceID userID role header fresh
  | updateRole workspaceID userID role header fresh => exact handleUpdateRole_all workspaceID userID role header fresh
  | removeMember workspaceID userID header fresh => exact handleRemoveMember_all workspaceID userID header fresh
  | createInvitation workspaceID email role header fresh =>
      exact handleCreateInvitation_all workspaceID email role header fresh
  | revokeInvitation workspaceID invitationID header fresh =>
      exact handleRevokeInvitation_all workspaceID invitationID header fresh
  | acceptInvitation code header req fresh => exact handleAcceptInvitation_all fold code header req fresh
  | setRuns runs => exact all_statement trivial fun _ => trivial

end Programs

section Creation

variable {req : CreateRequest} {key : String} {row : WorkspaceRow}

theorem length_ofList_le (cs : List Char) : cs.length ≤ (String.ofList cs).utf8ByteSize := by
  induction cs with
  | nil => simp
  | cons c cs ih =>
      have split : String.ofList (c :: cs) = String.singleton c ++ String.ofList cs := by
        apply String.toList_injective
        simp
      have pos := c.utf8Size_pos
      rw [split, String.utf8ByteSize_append, String.utf8ByteSize_singleton, List.length_cons]
      omega

theorem textIn_eq {s t : String} (h : textIn s = some t) : t = s := by
  unfold textIn at h
  split at h
  · exact (Option.some.inj h).symm
  · cases h

theorem varcharIn_short {width : Nat} {s s' : String} (short : s.utf8ByteSize ≤ width) (h : varcharIn width s = some s') :
    s' = s := by
  have length : s.length ≤ width := by
    have := length_ofList_le s.toList
    rw [String.ofList_toList, String.length_toList] at this
    omega
  unfold varcharIn at h
  obtain ⟨t, ht, fits⟩ := Option.bind_eq_some_iff.mp h
  rw [textIn_eq ht, if_pos length] at fits
  exact (Option.some.inj fits).symm

structure Inserted (req : CreateRequest) (row : WorkspaceRow) : Prop where
  name : row.name = req.name
  environment : row.environment = req.environment
  description : row.description = req.description
  settings : row.settings = Json.jsonb (settings req)
  live : row.deleted = false

theorem mapM_textIn {description found : Option String} (h : description.mapM textIn = some found) :
    found = description := by
  cases description with
  | none => exact (Option.some.inj h).symm
  | some text =>
      cases read : textIn text with
      | none =>
          rw [Option.mapM_some, read] at h
          cases h
      | some t =>
          rw [Option.mapM_some, read, textIn_eq read] at h
          exact (Option.some.inj h).symm

theorem validateCreate_none (valid : validateCreate req key = none) :
    badName req.name = false ∧ badKey key = false := by
  unfold validateCreate at valid
  cases named : badName req.name with
  | true => simp [named] at valid
  | false =>
      cases keyed : badKey key with
      | true =>
          simp only [named, keyed, Bool.false_eq_true, if_true, if_false] at valid
          split_ifs at valid
      | false => exact ⟨rfl, rfl⟩

theorem insertedWorkspace_eq (valid : validateCreate req key = none) {id : PgUuid} {slug inserted : String}
    (h : insertedWorkspace ⟨id, req.name, slug, req.environment, req.description, settings req, key⟩ =
      some (row, inserted)) : inserted = key ∧ Inserted req row := by
  obtain ⟨named, keyed⟩ := validateCreate_none valid
  simp only [badName, badKey, Bool.or_eq_false_iff, decide_eq_false_iff_not, not_or] at named keyed
  unfold insertedWorkspace at h
  simp only [Option.bind_eq_bind, Option.bind_eq_some_iff] at h
  obtain ⟨name, hname, slug', -, description, hdescription, key', hkey, h⟩ := h
  split at h
  · simp only [Option.some.injEq, Prod.mk.injEq] at h
    obtain ⟨rfl, rfl⟩ := h
    refine ⟨varcharIn_short (by omega) hkey, varcharIn_short (by omega) hname, rfl, mapM_textIn hdescription, rfl, rfl⟩
  · cases h

end Creation

section Preserved

variable [Platform] [GoUnicode] (fold : Char → Char) (faults : Bool)

def protection : Protection (engine fold faults) Part where
  part := part
  touches := touches
  part_apply := part_apply
  part_untouched := part_untouched
  Kept _ _ _ := True
  mono _ _ := trivial

variable {fold faults} {held : Set Key} {d : Db} {n : Nat}

theorem plain_wp {p : Prog Ret Outcome} (all : p.All Op.plain) :
    (protection fold faults).wp (fun _ _ _ _ => True) p held d n := by
  refine Protection.wp_of_all (fun {o d n r ws n'} plain run => ⟨exec_le run, fun w mem x touched => ?_⟩) all
  rcases exec_touches run mem touched with locked | ⟨row, -, -, rfl, -⟩
  · exact locked
  · exact plain.elim

theorem op_wp {o : Op} {k : Ret o → Prog Ret Outcome}
    (own : ∀ row inserted key, o = .insertWorkspace row → insertedWorkspace row = some (inserted, key) →
      Key.creation key ∈ held)
    (rest : ∀ r d' d'' n', (protection fold faults).wp (fun _ _ _ _ => True) (k r) (held ∪ locks o d') d'' n') :
    (protection fold faults).wp (fun _ _ _ _ => True) (.op o k) held d n := by
  intro d' n' _ _ _ r ws n'' run
  refine ⟨exec_le run, fun w mem x touched => ?_, rest r d' _ n''⟩
  rcases exec_touches run mem touched with locked | ⟨row, inserted, key, insert, hi, rfl⟩
  · exact .inr locked
  · exact .inl (own row inserted key insert hi)

theorem handleCreate_wp (req : CreateRequest) (header : String) (fresh : Fresh) :
    (protection fold faults).wp (fun _ _ _ _ => True) (handleCreate req header fresh) held d n := by
  unfold handleCreate
  dsimp only
  split
  · exact fun _ _ _ _ => trivial
  · rename_i valid
    refine op_wp nofun fun r _ _ _ => ?_
    match r with
    | .error e => exact fun _ _ _ _ => trivial
    | .ok () =>
        refine op_wp nofun fun r _ _ _ => ?_
        match r with
        | .error e => exact fun _ _ _ _ => trivial
        | .ok (some replay) => exact fun _ _ _ _ => trivial
        | .ok none =>
            refine op_wp nofun fun r _ _ _ => ?_
            match r with
            | .error e => exact fun _ _ _ _ => trivial
            | .ok taken =>
                dsimp only
                split
                · exact fun _ _ _ _ => trivial
                · refine op_wp (fun row inserted key insert hi => ?_) fun r _ _ _ => ?_
                  · cases insert
                    rw [(insertedWorkspace_eq valid hi).1]
                    exact .inl (.inl (.inr rfl))
                  · match r with
                    | .ok row =>
                        exact plain_wp <| all_statement trivial fun _ => all_audited (fun _ _ => trivial) trivial
                    | .error .uniqueViolation => exact fun _ _ _ _ => trivial
                    | .error .other => exact fun _ _ _ _ => trivial

omit [Platform] [GoUnicode] in
theorem permits_plain {c : Call} (other : ∀ req header fresh, c ≠ .create req header fresh) {o : Op}
    (permitted : c.permits o) : o.plain := by
  cases o with
  | insertWorkspace row =>
      cases c with
      | create req header fresh => exact other req header fresh rfl
      | _ => exact permitted
  | _ => trivial

theorem program_wp (c : Call) : (protection fold faults).wp (fun _ _ _ _ => True) (program fold c) held d n := by
  by_cases creates : ∃ req header fresh, c = .create req header fresh
  · obtain ⟨req, header, fresh, rfl⟩ := creates
    exact handleCreate_wp req header fresh
  · refine plain_wp ((program_all fold c).mono fun o => permits_plain ?_)
    exact fun req header fresh same => creates ⟨req, header, fresh, same⟩

end Preserved

def locking [Platform] [GoUnicode] (fold : Char → Char) (faults : Bool) : Locking (engine fold faults) Part where
  toProtection := protection fold faults
  Post _ _ _ _ _ := True
  commits _ _ _ _ := trivial
  program c _ _ := program_wp c

end Provisr.Workspace
