import Mathlib.Data.List.Dedup
import Provisr.Foundation.PgUuid

namespace Provisr.Workspace

open Provisr.Foundation

-- provisr_identity.member_role
inductive MemberRole where
  | admin
  | engineer
  | approver
  | auditor
  | viewer
deriving DecidableEq

def MemberRole.text : MemberRole → String
  | .admin => "admin"
  | .engineer => "engineer"
  | .approver => "approver"
  | .auditor => "auditor"
  | .viewer => "viewer"

def validRoles : List String := ["admin", "engineer", "approver", "auditor", "viewer"]

def validRole (role : String) : Bool := validRoles.contains role

def rolePermissions : String → Option (List String)
  | "engineer" => some
    ["cloud_account.create", "cloud_account.view", "cloud_account.update", "cloud_account.delete",
      "chat_session.create", "chat_session.view", "chat_session.update", "chat_session.delete",
      "provisioning_run.create", "provisioning_run.view", "manifest.view", "artifact.view"]
  | "approver" => some ["approval_ticket.decide", "provisioning_run.view"]
  | "auditor" => some ["audit_event.view", "provisioning_run.view", "manifest.view", "artifact.view"]
  | "viewer" => some ["chat_session.view", "provisioning_run.view"]
  | _ => none

def isActionAllowed (role resourceType action : String) : Bool :=
  if role = "admin" then true
  else match rolePermissions role with
    | some perms => perms.contains (resourceType ++ "." ++ action)
    | none => false

theorem validRole_text (role : MemberRole) : validRole role.text = true := by
  cases role <;> decide

structure CheckPermissionRequest where
  userID : String
  workspaceID : String
  action : String
  resourceType : String

structure CheckPermissionResponse where
  allowed : Bool
  reason : String
deriving DecidableEq

-- What a handler of the service writes: writeError, or writeJSON with a response.
inductive Reply (α : Type) where
  | error (status : Nat) (code message : String)
  | ok (response : α)
deriving DecidableEq

-- provisr_identity.memberships by its primary key, as far as a permission check reads it.
abbrev Memberships := PgUuid → PgUuid → Option MemberRole

def CheckPermissionRequest.filled (req : CheckPermissionRequest) : Bool :=
  req.userID != "" && req.workspaceID != "" && req.action != "" && req.resourceType != ""

def notMember : CheckPermissionResponse := ⟨false, "user is not a member of this workspace"⟩

def decideFor (role : String) (req : CheckPermissionRequest) : CheckPermissionResponse :=
  let allowed := isActionAllowed role req.resourceType req.action
  ⟨allowed, if allowed then "" else
    "role " ++ role ++ " does not permit action " ++ req.action ++ " on resource_type " ++ req.resourceType⟩

-- Both parameters are cast to uuid before a row is compared.
def selectRole (memberships : Memberships) (userID workspaceID : String) : Option (Option MemberRole) := do
  let user ← PgUuid.parse userID
  let workspace ← PgUuid.parse workspaceID
  some (memberships user workspace)

def handleCheckPermission (memberships : Memberships) (req : CheckPermissionRequest) :
    Reply CheckPermissionResponse :=
  if req.filled then
    match selectRole memberships req.userID req.workspaceID with
    | none => .error 500 "internal_error" "failed to check permission"
    | some none => .ok notMember
    | some (some role) => .ok (decideFor role.text req)
  else .error 400 "validation_error" "user_id, workspace_id, action, and resource_type are required"

structure RoleRow where
  userID : String
  workspaceID : String
  role : String

def castPair (k : String × String) : Option (PgUuid × PgUuid) := do
  let user ← PgUuid.parse k.1
  let workspace ← PgUuid.parse k.2
  some (user, workspace)

-- (VALUES …) AS pairs(uid, wid): one pair of ids that does not parse fails the whole statement.
def castPairs (keyList : List (String × String)) : Option (List (PgUuid × PgUuid)) := keyList.mapM castPair

def selectRoles (memberships : Memberships) (keyList : List (String × String)) : Option (List RoleRow) :=
  (castPairs keyList).map fun pairs =>
    pairs.filterMap fun (user, workspace) =>
      (memberships user workspace).map fun role => ⟨user.text, workspace.text, role.text⟩

def keyOf (req : CheckPermissionRequest) : String × String := (req.userID, req.workspaceID)

def addKey (keyList : List (String × String)) (req : CheckPermissionRequest) : List (String × String) :=
  if keyList.contains (keyOf req) then keyList else keyList ++ [keyOf req]

def setRole (roleMap : String × String → Option String) (row : RoleRow) : String × String → Option String :=
  fun k => if k = (row.userID, row.workspaceID) then some row.role else roleMap k

def handleCheckBatch (memberships : Memberships) (checks : List CheckPermissionRequest) :
    Reply (List CheckPermissionResponse) :=
  if checks.length = 0 ∨ 100 < checks.length then
    .error 400 "validation_error" "checks must contain between 1 and 100 items"
  else if checks.all CheckPermissionRequest.filled then
    match selectRoles memberships (checks.foldl addKey []) with
    | none => .error 500 "internal_error" "failed to check permissions"
    | some rows =>
      let roleMap := rows.foldl setRole fun _ => none
      .ok (checks.map fun check =>
        match roleMap (keyOf check) with
        | none => notMember
        | some role => decideFor role check)
  else .error 400 "validation_error"
    "each check requires user_id, workspace_id, action, and resource_type"

theorem decideFor_ne_notMember (role : MemberRole) (req : CheckPermissionRequest) :
    decideFor role.text req ≠ notMember := by
  intro same
  have reason := congrArg (fun r => r.reason.toList.head?) same
  simp only [decideFor, notMember] at reason
  split at reason
  · revert reason
    decide
  · simp [String.toList_append] at reason

theorem mem_foldl_addKey {checks : List CheckPermissionRequest} {keyList : List (String × String)}
    {k : String × String} :
    k ∈ checks.foldl addKey keyList ↔ k ∈ keyList ∨ ∃ check ∈ checks, keyOf check = k := by
  induction checks generalizing keyList with
  | nil => simp
  | cons check checks ih =>
      have added : k ∈ addKey keyList check ↔ k ∈ keyList ∨ keyOf check = k := by
        unfold addKey
        split
        · rename_i known
          simp only [List.contains_eq_mem, decide_eq_true_eq] at known
          exact ⟨Or.inl, fun h => h.elim id fun same => same ▸ known⟩
        · simp [eq_comm]
      rw [List.foldl_cons, ih, added]
      simp [or_assoc]

structure CheckPermissionRequest.Spells (req : CheckPermissionRequest) (user workspace : PgUuid) : Prop where
  user : PgUuid.parse req.userID = some user
  workspace : PgUuid.parse req.workspaceID = some workspace

def CheckPermissionRequest.Canonical (req : CheckPermissionRequest) : Prop :=
  PgUuid.Canonical req.userID ∧ PgUuid.Canonical req.workspaceID

theorem CheckPermissionRequest.Spells.keyOf_eq_iff {req : CheckPermissionRequest} {user workspace : PgUuid}
    (h : req.Spells user workspace) : (user.text, workspace.text) = keyOf req ↔ req.Canonical := by
  rw [keyOf, Prod.mk.injEq, PgUuid.text_eq_iff h.user, PgUuid.text_eq_iff h.workspace]
  rfl

theorem castPairs_eq {keyList : List (String × String)}
    (h : ∀ k ∈ keyList, ∃ user workspace, PgUuid.parse k.1 = some user ∧ PgUuid.parse k.2 = some workspace) :
    ∃ pairs, castPairs keyList = some pairs ∧
      ∀ pair, pair ∈ pairs ↔ ∃ k ∈ keyList, PgUuid.parse k.1 = some pair.1 ∧ PgUuid.parse k.2 = some pair.2 := by
  induction keyList with
  | nil => exact ⟨[], rfl, by simp⟩
  | cons k keyList ih =>
      obtain ⟨pairs, cast, mem⟩ := ih fun k' mem => h k' (List.mem_cons_of_mem _ mem)
      obtain ⟨user, workspace, hu, hw⟩ := h k List.mem_cons_self
      refine ⟨(user, workspace) :: pairs, ?_, fun pair => ?_⟩
      · have own : castPair k = some (user, workspace) := by simp [castPair, hu, hw]
        unfold castPairs at cast ⊢
        simp [List.mapM_cons, own, cast]
      · rw [List.mem_cons, mem, List.exists_mem_cons_iff, hu, hw]
        simp [Prod.ext_iff, eq_comm]

theorem mem_selectRoles (memberships : Memberships) {keyList : List (String × String)}
    (h : ∀ k ∈ keyList, ∃ user workspace, PgUuid.parse k.1 = some user ∧ PgUuid.parse k.2 = some workspace) :
    ∃ rows, selectRoles memberships keyList = some rows ∧
      ∀ row, row ∈ rows ↔ ∃ k ∈ keyList, ∃ user workspace role, PgUuid.parse k.1 = some user ∧
        PgUuid.parse k.2 = some workspace ∧ memberships user workspace = some role ∧
          row = ⟨user.text, workspace.text, role.text⟩ := by
  obtain ⟨pairs, cast, mem⟩ := castPairs_eq h
  refine ⟨_, by rw [selectRoles, cast, Option.map_some], fun row => ?_⟩
  simp only [List.mem_filterMap, mem, Option.map_eq_some_iff, Prod.exists]
  constructor
  · rintro ⟨user, workspace, ⟨uid, wid, hk, hu, hw⟩, role, known, rfl⟩
    exact ⟨uid, wid, hk, user, workspace, role, hu, hw, known, rfl⟩
  · rintro ⟨uid, wid, hk, user, workspace, role, hu, hw, known, rfl⟩
    exact ⟨user, workspace, ⟨uid, wid, hk, hu, hw⟩, role, known, rfl⟩

theorem foldl_setRole (rows : List RoleRow) (roleMap : String × String → Option String) (k : String × String) :
    (∃ row ∈ rows, (row.userID, row.workspaceID) = k ∧ rows.foldl setRole roleMap k = some row.role) ∨
      ((∀ row ∈ rows, (row.userID, row.workspaceID) ≠ k) ∧ rows.foldl setRole roleMap k = roleMap k) := by
  induction rows generalizing roleMap with
  | nil => exact .inr ⟨fun _ mem => absurd mem List.not_mem_nil, rfl⟩
  | cons row rows ih =>
      rw [List.foldl_cons]
      rcases ih (setRole roleMap row) with ⟨later, mem, key, found⟩ | ⟨others, found⟩
      · exact .inl ⟨later, List.mem_cons_of_mem _ mem, key, found⟩
      · by_cases own : (row.userID, row.workspaceID) = k
        · exact .inl ⟨row, List.mem_cons_self, own, by rw [found, setRole, if_pos own.symm]⟩
        · refine .inr ⟨?_, by rw [found, setRole, if_neg (Ne.symm own)]⟩
          intro r mem
          rcases List.mem_cons.mp mem with rfl | mem
          · exact own
          · exact others r mem

theorem roleMap_spec (memberships : Memberships) {checks : List CheckPermissionRequest}
    (spelled : ∀ check ∈ checks, ∃ user workspace, check.Spells user workspace) :
    ∃ rows, selectRoles memberships (checks.foldl addKey []) = some rows ∧
      ∀ check ∈ checks, ∀ user workspace, check.Spells user workspace →
        (check.Canonical → rows.foldl setRole (fun _ => none) (keyOf check) =
          (memberships user workspace).map MemberRole.text) ∧
        (¬ check.Canonical → rows.foldl setRole (fun _ => none) (keyOf check) = none) := by
  have parsed : ∀ k ∈ checks.foldl addKey [],
      ∃ user workspace, PgUuid.parse k.1 = some user ∧ PgUuid.parse k.2 = some workspace := by
    intro k mem
    rcases mem_foldl_addKey.mp mem with known | ⟨check, own, rfl⟩
    · exact absurd known List.not_mem_nil
    · obtain ⟨user, workspace, spells⟩ := spelled check own
      exact ⟨user, workspace, spells.user, spells.workspace⟩
  obtain ⟨rows, selected, mem⟩ := mem_selectRoles memberships parsed
  refine ⟨rows, selected, fun check known user workspace spells => ⟨fun canonical => ?_, fun other => ?_⟩⟩
  · have key := spells.keyOf_eq_iff.mpr canonical
    rcases foldl_setRole rows (fun _ => none) (keyOf check) with ⟨row, own, same, found⟩ | ⟨others, found⟩
    · obtain ⟨-, -, user', workspace', role, -, -, member, rfl⟩ := (mem row).mp own
      rw [← key, Prod.mk.injEq] at same
      rw [PgUuid.text_injective same.1, PgUuid.text_injective same.2] at member
      rw [found, member, Option.map_some]
    · cases member : memberships user workspace with
      | none => rw [found, Option.map_none]
      | some role =>
          have row := (mem ⟨user.text, workspace.text, role.text⟩).mpr ⟨keyOf check,
            mem_foldl_addKey.mpr (.inr ⟨check, known, rfl⟩), user, workspace, role, spells.user,
            spells.workspace, member, rfl⟩
          exact absurd key (others _ row)
  · rcases foldl_setRole rows (fun _ => none) (keyOf check) with ⟨row, own, same, -⟩ | ⟨-, found⟩
    · obtain ⟨-, -, user', workspace', role, -, -, -, rfl⟩ := (mem row).mp own
      rw [keyOf, Prod.mk.injEq] at same
      exact absurd ⟨⟨user', same.1⟩, ⟨workspace', same.2⟩⟩ other
    · exact found

theorem handleCheckPermission_spelled {memberships : Memberships} {req : CheckPermissionRequest}
    {user workspace : PgUuid} (filled : req.filled = true) (spells : req.Spells user workspace) :
    handleCheckPermission memberships req = .ok (match memberships user workspace with
      | none => notMember
      | some role => decideFor role.text req) := by
  have selected : selectRole memberships req.userID req.workspaceID = some (memberships user workspace) := by
    simp [selectRole, spells.user, spells.workspace]
  rw [handleCheckPermission, if_pos filled, selected]
  cases memberships user workspace <;> rfl

structure Served (checks : List CheckPermissionRequest) : Prop where
  nonempty : checks ≠ []
  length : checks.length ≤ 100
  filled : ∀ check ∈ checks, check.filled = true

theorem handleCheckBatch_ok {memberships : Memberships} {checks : List CheckPermissionRequest}
    {results : List CheckPermissionResponse} (h : handleCheckBatch memberships checks = .ok results) :
    Served checks ∧ ∃ rows, selectRoles memberships (checks.foldl addKey []) = some rows ∧
      results = checks.map fun check =>
        match rows.foldl setRole (fun _ => none) (keyOf check) with
        | none => notMember
        | some role => decideFor role check := by
  unfold handleCheckBatch at h
  split at h
  · cases h
  · rename_i sized
    split at h
    · rename_i filled
      split at h
      · cases h
      · rename_i rows selected
        cases h
        refine ⟨⟨fun empty => sized (.inl (by rw [empty]; rfl)), by omega, List.all_eq_true.mp filled⟩,
          rows, selected, rfl⟩
    · cases h

theorem handleCheckBatch_served {memberships : Memberships} {checks : List CheckPermissionRequest}
    (served : Served checks) (spelled : ∀ check ∈ checks, ∃ user workspace, check.Spells user workspace) :
    ∃ results, handleCheckBatch memberships checks = .ok results := by
  obtain ⟨rows, selected, -⟩ := roleMap_spec memberships spelled
  have sized : ¬ (checks.length = 0 ∨ 100 < checks.length) := by
    have := served.length
    have := List.length_pos_iff.mpr served.nonempty
    omega
  rw [handleCheckBatch, if_neg sized, if_pos (List.all_eq_true.mpr served.filled), selected]
  exact ⟨_, rfl⟩

theorem check_batch_agrees (memberships : Memberships) (checks : List CheckPermissionRequest)
    (spelled : ∀ check ∈ checks, ∃ user workspace, check.Spells user workspace) :
    (Served checks → ∃ results, handleCheckBatch memberships checks = .ok results) ∧
    ∀ results, handleCheckBatch memberships checks = .ok results → results.length = checks.length ∧
      ∀ (i : Nat) (check : CheckPermissionRequest) (response : CheckPermissionResponse),
        checks[i]? = some check → results[i]? = some response →
        (handleCheckPermission memberships check = .ok response ↔
          check.Canonical ∨ selectRole memberships check.userID check.workspaceID = some none) := by
  refine ⟨fun served => handleCheckBatch_served served spelled, fun results replied => ?_⟩
  obtain ⟨served, rows, selected, rfl⟩ := handleCheckBatch_ok replied
  refine ⟨List.length_map _, fun i check response at_i responded => ?_⟩
  have known : check ∈ checks := List.mem_of_getElem? at_i
  obtain ⟨user, workspace, spells⟩ := spelled check known
  obtain ⟨rows', selected', map⟩ := roleMap_spec memberships spelled
  obtain rfl : rows = rows' := Option.some.inj (selected.symm.trans selected')
  obtain ⟨canonical, other⟩ := map check known user workspace spells
  have lookup : selectRole memberships check.userID check.workspaceID = some (memberships user workspace) := by
    simp [selectRole, spells.user, spells.workspace]
  rw [List.getElem?_map, at_i, Option.map_some, Option.some.injEq] at responded
  rw [handleCheckPermission_spelled (served.filled check known) spells, lookup, Reply.ok.injEq, ← responded]
  by_cases own : check.Canonical
  · rw [canonical own]
    cases memberships user workspace <;> simp [own]
  · rw [other own]
    cases memberships user workspace with
    | none => simp
    | some role =>
        simp only [own, false_or, Option.some.injEq, reduceCtorEq, iff_false]
        exact decideFor_ne_notMember role check

def sampleUser : PgUuid := .repeated 10

def sampleWorkspace : PgUuid := .repeated 11

def sampleMemberships : Memberships := fun user workspace =>
  if user = sampleUser ∧ workspace = sampleWorkspace then some .admin else none

def sampleCheck (workspaceID : String) : CheckPermissionRequest :=
  ⟨"aaaaaaaa-aaaa-aaaa-aaaa-aaaaaaaaaaaa", workspaceID, "view", "manifest"⟩

def upperCaseCheck : CheckPermissionRequest := sampleCheck "BBBBBBBB-BBBB-BBBB-BBBB-BBBBBBBBBBBB"

def canonicalCheck : CheckPermissionRequest := sampleCheck "bbbbbbbb-bbbb-bbbb-bbbb-bbbbbbbbbbbb"

theorem sample_spells : ∀ check ∈ [canonicalCheck, upperCaseCheck], check.Spells sampleUser sampleWorkspace := by
  have user : PgUuid.parse "aaaaaaaa-aaaa-aaaa-aaaa-aaaaaaaaaaaa" = some sampleUser := by decide
  have lower : PgUuid.parse "bbbbbbbb-bbbb-bbbb-bbbb-bbbbbbbbbbbb" = some sampleWorkspace := by decide
  have upper : PgUuid.parse "BBBBBBBB-BBBB-BBBB-BBBB-BBBBBBBBBBBB" = some sampleWorkspace := by decide
  intro check mem
  simp only [List.mem_cons, List.not_mem_nil, or_false] at mem
  rcases mem with rfl | rfl
  · exact ⟨user, lower⟩
  · exact ⟨user, upper⟩

theorem check_batch_agrees_sample :
    handleCheckBatch sampleMemberships [canonicalCheck, upperCaseCheck] = .ok [⟨true, ""⟩, notMember] ∧
      (handleCheckPermission sampleMemberships canonicalCheck = .ok ⟨true, ""⟩ ↔ canonicalCheck.Canonical ∨
        selectRole sampleMemberships canonicalCheck.userID canonicalCheck.workspaceID = some none) := by
  have replied : handleCheckBatch sampleMemberships [canonicalCheck, upperCaseCheck] =
      .ok [⟨true, ""⟩, notMember] := by decide
  have spelled : ∀ check ∈ [canonicalCheck, upperCaseCheck], ∃ user workspace, check.Spells user workspace :=
    fun check mem => ⟨sampleUser, sampleWorkspace, sample_spells check mem⟩
  exact ⟨replied, ((check_batch_agrees sampleMemberships _ spelled).2 _ replied).2 0 _ _ rfl rfl⟩

theorem check_batch_denies_upper_case :
    upperCaseCheck.Spells sampleUser sampleWorkspace ∧
    handleCheckBatch sampleMemberships [upperCaseCheck] =
      .ok [⟨false, "user is not a member of this workspace"⟩] ∧
    handleCheckPermission sampleMemberships upperCaseCheck = .ok ⟨true, ""⟩ := by
  refine ⟨sample_spells _ (by simp), ?_, ?_⟩
  · decide
  · decide

end Provisr.Workspace
