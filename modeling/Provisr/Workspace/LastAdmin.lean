import Provisr.Workspace.AdminRace

namespace Provisr.Workspace

open Provisr.Foundation Provisr.Foundation.Engine
open Provisr.Audit (EventType)
open Provisr.Backend (GoUnicode)
open Provisr.Orchestrator (Platform)

section Admins

def HasAdmin (workspaceID : PgUuid) (d : Db) : Prop := ∃ userID, hasAdmin d workspaceID userID = true

def Guarded (userID workspaceID : PgUuid) (held : Set Key) (d : Db) : Prop :=
  ∃ other, other ≠ userID ∧ Key.membership other workspaceID ∈ held ∧ hasAdmin d workspaceID other = true

def Write.spares (userID workspaceID : PgUuid) : Write → Prop
  | .role u w _ | .removal u w => ¬ (u = userID ∧ w = workspaceID)
  | _ => True

variable {d d' : Db} {userID workspaceID : PgUuid}

theorem hasAdmin_congr (same : d.memberships userID workspaceID = d'.memberships userID workspaceID) :
    hasAdmin d workspaceID userID = hasAdmin d' workspaceID userID := by
  unfold hasAdmin
  rw [same]

theorem hasAdmin_apply {w : Write} (spared : w.spares userID workspaceID)
    (h : hasAdmin d workspaceID userID = true) : hasAdmin (apply w d) workspaceID userID = true := by
  cases w with
  | membership u wid row =>
      rw [← h]
      apply hasAdmin_congr
      change (if _ then some ((d.memberships userID workspaceID).getD row) else d.memberships userID workspaceID) = _
      cases found : d.memberships userID workspaceID with
      | none =>
          unfold hasAdmin at h
          rw [found] at h
          cases h
      | some known => rw [Option.getD_some, ite_self]
  | role u wid role =>
      rw [← h]
      apply hasAdmin_congr
      change (if _ then _ else _) = _
      rw [if_neg fun own => spared ⟨own.1.symm, own.2.symm⟩]
  | removal u wid =>
      rw [← h]
      apply hasAdmin_congr
      change (if _ then _ else _) = _
      rw [if_neg fun own => spared ⟨own.1.symm, own.2.symm⟩]
  | user | workspace | rename | deleteWorkspace | invitation | revoke | key | runs | audit => exact h

theorem quiet_spares {w : Write} (quiet : w.quiet) : w.spares userID workspaceID := by
  cases w with
  | key | audit => trivial
  | _ => exact quiet.elim

theorem isAdminTuple_iff {a : MembershipTuple} :
    isAdminTuple d workspaceID a = true ↔
      hasAdmin d workspaceID a.userID = true ∧ d.removals a.userID workspaceID = a.removals := by
  rw [isAdminTuple, Bool.and_eq_true, beq_iff_eq]

theorem exists_other {admins : List MembershipTuple} (nodup : admins.Nodup)
    (several : 1 < admins.countP (isAdminTuple d workspaceID)) (userID : PgUuid) :
    ∃ other ∈ admins, other.userID ≠ userID ∧ isAdminTuple d workspaceID other = true := by
  by_contra none
  have only : ∀ a ∈ admins.filter (isAdminTuple d workspaceID), a = ⟨userID, d.removals userID workspaceID⟩ := by
    intro a mem
    obtain ⟨own, holds⟩ := List.mem_filter.mp mem
    have same : a.userID = userID := by
      by_contra apart
      exact none ⟨a, own, apart, holds⟩
    cases a
    subst same
    exact congrArg _ (isAdminTuple_iff.mp holds).2.symm
  have repeated := List.eq_replicate_of_mem only
  have one := List.nodup_replicate.mp (repeated ▸ nodup.filter _)
  rw [← List.countP_eq_length_filter] at one
  omega

variable [Platform] [GoUnicode] {fold : Char → Char} {faults : Bool}

theorem hasAdmin_view {ws : List Write} (spared : ∀ w ∈ ws, w.spares userID workspaceID)
    (h : hasAdmin d workspaceID userID = true) :
    hasAdmin ((engine fold faults).view ws d) workspaceID userID = true := by
  induction ws generalizing d with
  | nil => exact h
  | cons w ws ih =>
      exact ih (fun v mem => spared v (List.mem_cons_of_mem _ mem)) (hasAdmin_apply (spared w List.mem_cons_self) h)

end Admins

section Counting

def countsAdmin (workspaceID : PgUuid) : (o : Op) → Db → Ret o → Prop
  | .lockAdmins id _, _, .ok adminCount => PgUuid.parse id = some workspaceID → 0 < adminCount
  | _, _, _ => True

variable [Platform] [GoUnicode] (fold : Char → Char) (faults : Bool) (workspaceID : PgUuid)

-- A request that gets its count of the workspace's admins has found one of those it saw that still is one.
def StillAdmin (s s' : Database Call Ret Key Db Write Outcome) : Prop :=
  ∀ (i : Nat) (t t' : Session Call Ret Key Write Outcome) (id : String) (admins : List MembershipTuple)
    (k : Ret (.lockAdmins id admins) → Prog Ret Outcome) (adminCount : Nat),
    PgUuid.parse id = some workspaceID → s.sessions[i]? = some t → t.rest = some (.op (.lockAdmins id admins) k) →
    s'.sessions[i]? = some t' → t'.rest = some (k (.ok adminCount)) →
    ∃ a ∈ admins, isAdminTuple ((engine fold faults).view t.writes s.committed) workspaceID a = true

variable {fold faults workspaceID}

theorem restrict_stillAdmin {s s' : Database Call Ret Key Db Write Outcome} (step : (engine fold faults).Step s s')
    (still : StillAdmin fold faults workspaceID s s') : (narrowed fold faults (countsAdmin workspaceID)).Step s s' := by
  refine step.restrict fun i t t' o k r ws n session next run session' next' => ?_
  cases o with
  | lockAdmins id admins =>
      cases r with
      | error e => trivial
      | ok adminCount =>
          intro hw
          obtain ⟨a, mem, admin⟩ := still i t t' id admins k adminCount hw session next session' next'
          obtain ⟨⟨w, hw', count⟩ | failed, -⟩ := run
          · obtain rfl := Option.some.inj (hw.symm.trans hw')
            rw [Except.ok.inj count]
            exact List.countP_pos_iff.mpr ⟨a, mem, admin⟩
          · cases failed
  | _ => trivial

end Counting

section Requests

variable [Platform] [GoUnicode] {fold : Char → Char} {faults : Bool} {d d' : Db} {held : Set Key} {ws : List Write}
  {userID workspaceID w : PgUuid}

-- A request whose transaction is committed leaves an admin where there is one.
def KeepsAdmins (fold : Char → Char) (faults : Bool) (workspaceID : PgUuid) (o : Outcome) (_ : Set Key)
    (ws : List Write) (d : Db) : Prop :=
  o.commits = true → HasAdmin workspaceID d → HasAdmin workspaceID ((engine fold faults).view ws d)

theorem keepsAdmins_refusable : Refusable (KeepsAdmins fold faults workspaceID) := fun _ _ _ _ _ _ => nofun

theorem Guarded.kept (h : Guarded userID w held d) (kept : Kept fold faults (countsAdmin workspaceID) held d d')
    {held' : Set Key} (grown : held ⊆ held') : Guarded userID w held' d' := by
  obtain ⟨other, apart, locked, admin⟩ := h
  exact ⟨other, apart, grown locked, (hasAdmin_congr (kept_membership kept locked)).symm.trans admin⟩

theorem guarded_keepsAdmins (h : w = workspaceID → Guarded userID w held d)
    (spared : ∀ v ∈ ws, ∀ u wid, ¬ (u = userID ∧ wid = w) → v.spares u wid) (o : Outcome) :
    KeepsAdmins fold faults workspaceID o held ws d := by
  rintro - ⟨user, own⟩
  by_cases target : user = userID ∧ workspaceID = w
  · obtain ⟨rfl, rfl⟩ := target
    obtain ⟨other, apart, -, admin⟩ := h rfl
    exact ⟨other, hasAdmin_view (fun v mem => spared v mem _ _ fun same => apart same.1) admin⟩
  · exact ⟨user, hasAdmin_view (fun v mem => spared v mem _ _ target) own⟩

def Checked (uid wid : String) (workspaceID : PgUuid) (held : Set Key) (d : Db) : Prop :=
  ∀ u w, PgUuid.parse uid = some u → PgUuid.parse wid = some w → w = workspaceID → Guarded u w held d

theorem requireLastAdminNotTarget_leads {wid uid message text : String} {status : Nat} {code : String}
    {next : Prog Ret Outcome} (quiet : ∀ w ∈ ws, w.quiet)
    (h : ∀ d' held', Checked uid wid workspaceID held' d' →
      (narrowed fold faults (countsAdmin workspaceID)).LeadsUnder (Kept fold faults (countsAdmin workspaceID))
        (KeepsAdmins fold faults workspaceID) d' held' ws next) :
    (narrowed fold faults (countsAdmin workspaceID)).LeadsUnder (Kept fold faults (countsAdmin workspaceID))
      (KeepsAdmins fold faults workspaceID) d held ws
      (requireLastAdminNotTarget wid uid message (.refused status code text) next) := by
  refine statement_leads keepsAdmins_refusable fun d₁ _ admins vs₁ _ _ run₁ _ => ?_
  obtain ⟨⟨w, admins', hw, nodup, -, same⟩ | failed, rfl, -⟩ := run₁
  · obtain rfl := Except.ok.inj same
    refine statement_leads keepsAdmins_refusable fun d₂ _ adminCount vs₂ _ _ run₂ counted => ?_
    obtain ⟨⟨w', hw', same⟩ | failed, rfl, -⟩ := run₂
    · obtain rfl := Option.some.inj (hw.symm.trans hw')
      rw [List.append_nil, List.append_nil]
      have seen : ∀ d u, hasAdmin ((engine fold faults).view ws d) w u = hasAdmin d w u :=
        fun d u => hasAdmin_congr (by rw [(quiet_view quiet d).memberships])
      have found : isAdminTuple ((engine fold faults).view ws d₂) w = isAdminTuple d₂ w := by
        funext a
        rw [isAdminTuple, isAdminTuple, seen, (quiet_view quiet d₂).removals]
      have count : adminCount = admins.countP (isAdminTuple d₂ w) := by
        rw [Except.ok.inj same, List.append_nil, found]
      have locked : ∀ a ∈ admins, isAdminTuple d₂ w a = true → Key.membership a.userID w ∈
          held ∪ locks (.selectAdmins wid) ((engine fold faults).view ws d₁) ∪
            locks (.lockAdmins wid admins) ((engine fold faults).view ws d₂) := by
        intro a mem own
        obtain ⟨admin, current⟩ := isAdminTuple_iff.mp own
        refine .inr ⟨w, hw, a, mem, ?_, ?_, rfl⟩
        · rw [(quiet_view quiet d₂).memberships]
          unfold hasAdmin at admin
          cases known : d₂.memberships a.userID w with
          | none => rw [known] at admin; cases admin
          | some row => rfl
        · rw [(quiet_view quiet d₂).removals, current]
      split
      · refine require_leads keepsAdmins_refusable fun d₃ a kept answer refused => ?_
        refine h d₃ _ fun u w' hu hw' own => ?_
        obtain rfl := Option.some.inj (hw.symm.trans hw')
        simp only [Query.answer, hw, hu, Option.bind_eq_bind, Option.bind_some, Option.some.injEq] at answer
        have before : 0 < admins.countP (isAdminTuple d₂ w) := count ▸ counted (own ▸ hw)
        obtain ⟨other, mem, admin⟩ := List.countP_pos_iff.mp before
        have after : hasAdmin d₃ w other.userID = true :=
          (hasAdmin_congr (kept_membership kept (locked other mem admin))).symm.trans (isAdminTuple_iff.mp admin).1
        refine ⟨other.userID, ?_, locked other mem admin, after⟩
        rintro rfl
        rw [← answer, seen, after] at refused
        cases refused
      · rename_i several
        refine h d₂ _ fun u w' _ hw' _ => ?_
        obtain rfl := Option.some.inj (hw.symm.trans hw')
        rw [count] at several
        obtain ⟨other, mem, apart, admin⟩ := exists_other nodup (not_le.mp several) u
        exact ⟨other.userID, apart, locked other mem admin, (isAdminTuple_iff.mp admin).1⟩
    · cases failed
  · cases failed

variable {wid uid role header : String} {fresh : Fresh}

-- After its one write of a member, a request only records its event.
theorem recorded_leads {actorID resourceType resourceID message : String} {eventType : EventType} {payload : JsFields}
    {v : Write} (guarded : w = workspaceID → Guarded userID w held d) (quiet : ∀ v ∈ ws, v.quiet)
    (own : ∀ u other, ¬ (u = userID ∧ other = w) → v.spares u other) :
    (narrowed fold faults (countsAdmin workspaceID)).LeadsUnder (Kept fold faults (countsAdmin workspaceID))
      (KeepsAdmins fold faults workspaceID) d held (ws ++ [v])
      (audited (appendAuditEvent wid eventType actorID resourceType resourceID payload fresh) message
        (.pure .noContent)) := by
  refine audited_leads keepsAdmins_refusable fun d₁ held₁ row kept₁ grown₁ _ _ => ?_
  intro d₂ kept₂
  refine guarded_keepsAdmins (fun same => ((guarded same).kept kept₁ grown₁).kept kept₂ subset_rfl)
    (fun v' mem u other apart => ?_) _
  rcases List.mem_append.mp mem with mem | mem
  · rcases List.mem_append.mp mem with mem | mem
    · exact quiet_spares (quiet v' mem)
    · rw [List.mem_singleton.mp mem]
      exact own u other apart
  · rw [List.mem_singleton.mp mem]
    trivial

theorem updateRole_leads (quiet : ∀ v ∈ ws, v.quiet) (checked : Checked uid wid workspaceID held d) :
    (narrowed fold faults (countsAdmin workspaceID)).LeadsUnder (Kept fold faults (countsAdmin workspaceID))
      (KeepsAdmins fold faults workspaceID) d held ws (updateRole wid uid role header fresh) := by
  refine statement_leads keepsAdmins_refusable fun d' _ affected vs _ kept run _ => ?_
  obtain ⟨⟨u, w, changed, hu, hw, -, ⟨-, same, rfl⟩ | ⟨-, same, -⟩⟩ | ⟨failed, -⟩, -⟩ := run
  · obtain rfl := Except.ok.inj same
    exact recorded_leads (fun own => (checked u w hu hw own).kept kept Set.subset_union_left) quiet
      fun u' w' apart same => apart ⟨same.1.symm, same.2.symm⟩
  · obtain rfl := Except.ok.inj same
    exact refused_leads keepsAdmins_refusable _ _ _
  · cases failed

theorem removeMember_leads (quiet : ∀ v ∈ ws, v.quiet) (checked : Checked uid wid workspaceID held d) :
    (narrowed fold faults (countsAdmin workspaceID)).LeadsUnder (Kept fold faults (countsAdmin workspaceID))
      (KeepsAdmins fold faults workspaceID) d held ws (removeMember wid uid header fresh) := by
  refine statement_leads keepsAdmins_refusable fun d' _ affected vs _ kept run _ => ?_
  obtain ⟨⟨u, w, hu, hw, ⟨-, same, rfl⟩ | ⟨-, same, -⟩⟩ | ⟨failed, -⟩, -⟩ := run
  · obtain rfl := Except.ok.inj same
    exact recorded_leads (fun own => (checked u w hu hw own).kept kept Set.subset_union_left) quiet
      fun u' w' apart same => apart ⟨same.1.symm, same.2.symm⟩
  · obtain rfl := Except.ok.inj same
    exact refused_leads keepsAdmins_refusable _ _ _
  · cases failed

theorem handleUpdateRole_leads :
    (narrowed fold faults (countsAdmin workspaceID)).LeadsUnder (Kept fold faults (countsAdmin workspaceID))
      (KeepsAdmins fold faults workspaceID) d held [] (handleUpdateRole wid uid role header fresh) := by
  unfold handleUpdateRole
  split
  · refine require_leads keepsAdmins_refusable fun d₁ _ _ _ _ => ?_
    refine claim_leads keepsAdmins_refusable fun d₂ held₂ vs _ _ quiet => ?_
    exact requireLastAdminNotTarget_leads quiet fun d₃ held₃ checked => updateRole_leads quiet checked
  · exact refused_leads keepsAdmins_refusable _ _ _

theorem handleRemoveMember_leads :
    (narrowed fold faults (countsAdmin workspaceID)).LeadsUnder (Kept fold faults (countsAdmin workspaceID))
      (KeepsAdmins fold faults workspaceID) d held [] (handleRemoveMember wid uid header fresh) := by
  refine require_leads keepsAdmins_refusable fun d₁ _ _ _ _ => ?_
  refine claim_leads keepsAdmins_refusable fun d₂ held₂ vs _ _ quiet => ?_
  refine require_leads keepsAdmins_refusable fun d₃ _ _ _ _ => ?_
  exact requireLastAdminNotTarget_leads quiet fun d₄ held₄ checked => removeMember_leads quiet checked

def Call.keepsMembers : Call → Prop
  | .updateRole .. | .removeMember .. => False
  | _ => True

omit [Platform] [GoUnicode] in
theorem permits_spares {c : Call} (other : c.keepsMembers) {o : Op} (permitted : c.permits o) {w : Write}
    (written : w.of o) (u wid : PgUuid) : w.spares u wid := by
  cases w with
  | role u' wid' changed =>
      cases o with
      | updateRole role uid w =>
          cases c with
          | updateRole => exact other.elim
          | _ => exact permitted.elim
      | _ => exact written.elim
  | removal u' wid' =>
      cases o with
      | deleteMembership uid w =>
          cases c with
          | removeMember => exact other.elim
          | _ => exact permitted.elim
      | _ => exact written.elim
  | _ => trivial

theorem program_leads (c : Call) :
    (narrowed fold faults (countsAdmin workspaceID)).LeadsUnder (Kept fold faults (countsAdmin workspaceID))
      (KeepsAdmins fold faults workspaceID) d held [] (program fold c) := by
  have plain : c.keepsMembers → (narrowed fold faults (countsAdmin workspaceID)).LeadsUnder
      (Kept fold faults (countsAdmin workspaceID)) (KeepsAdmins fold faults workspaceID) d held [] (program fold c) := by
    intro other
    have writes : (narrowed fold faults (countsAdmin workspaceID)).LeadsUnder
        (Kept fold faults (countsAdmin workspaceID)) (fun _ _ ws _ => ∀ w ∈ ws, ∀ u wid, w.spares u wid) d held []
        (program fold c) := by
      refine Engine.LeadsUnder.of_all (P := c.permits) ?_ (program_all fold c)
        (fun _ mem => absurd mem List.not_mem_nil) d held
      intro o d n r vs n' permitted run w mem
      exact permits_spares other permitted (exec_writes run.1 mem)
    refine writes.mono fun o held ws d spared _ => ?_
    rintro ⟨user, own⟩
    exact ⟨user, hasAdmin_view (fun w mem => spared w mem user workspaceID) own⟩
  cases c with
  | updateRole workspaceID userID role header fresh => exact handleUpdateRole_leads
  | removeMember workspaceID userID header fresh => exact handleRemoveMember_leads
  | create | update | delete | addMember | createInvitation | revokeInvitation | acceptInvitation | setRuns =>
      exact plain trivial

end Requests

section Runs

variable [Platform] [GoUnicode] {fold : Char → Char} {faults : Bool}

theorem step_keepsAdmins {workspaceID : PgUuid} {d : Db} {n : Nat} {s s' : Database Call Ret Key Db Write Outcome}
    (reachable : (narrowed fold faults (countsAdmin workspaceID)).Reachable d n s)
    (step : (narrowed fold faults (countsAdmin workspaceID)).Step s s')
    (admin : HasAdmin workspaceID s.committed) : HasAdmin workspaceID s'.committed := by
  cases step with
  | start | statement | rollback => exact admin
  | commit i t o session done ok =>
      have owed := Locking.commit_under (L := (locking fold faults).restrict (countsAdmin workspaceID))
        (G := (growing fold faults).restrict (countsAdmin workspaceID)) (fun _ => trivial)
        (Q := fun _ => KeepsAdmins fold faults workspaceID) (fun c d => program_leads c) reachable session done
      exact owed ok admin

theorem last_admin_kept (workspaceID : PgUuid) {d : Db} {n : Nat} {s s' : Database Call Ret Key Db Write Outcome}
    (reachable : Relation.ReflTransGen
      (fun a b => (engine fold faults).Step a b ∧ StillAdmin fold faults workspaceID a b) ⟨d, n, []⟩ s)
    (later : Relation.ReflTransGen
      (fun a b => (engine fold faults).Step a b ∧ StillAdmin fold faults workspaceID a b) s s')
    (admin : HasAdmin workspaceID s.committed) : HasAdmin workspaceID s'.committed := by
  have start := Engine.Steps.restrict (fun _ _ => restrict_stillAdmin) reachable
  have steps := Engine.Steps.restrict (fun _ _ => restrict_stillAdmin) later
  clear later reachable
  induction steps with
  | refl => exact admin
  | tail before last ih => exact step_keepsAdmins (start.trans before) last ih

end Runs

section Samples

theorem step_still [Platform] [GoUnicode] {fold : Char → Char} {watched : Set PgUuid} {workspaceID : PgUuid}
    (own : workspaceID ∈ watched) {s s' : Database Call Ret Key Db Write Outcome}
    (step : (watching fold watched).Step s s') :
    (engine fold false).Step s s' ∧ StillAdmin fold false workspaceID s s' := by
  refine ⟨step.of_restrict, fun i t t' id admins k adminCount hw session next session' next' => ?_⟩
  obtain ⟨r, sees⟩ := step.allowed session next session' next'
  exact sees workspaceID own hw

theorem steps_still [Platform] [GoUnicode] {fold : Char → Char} {s s' : Database Call Ret Key Db Write Outcome}
    (steps : (watching fold {team}).Steps s s') :
    Relation.ReflTransGen (fun a b => (engine fold false).Step a b ∧ StillAdmin fold false team a b) s s' := by
  induction steps with
  | refl => exact .refl
  | tail _ last ih => exact ih.tail (step_still (Set.mem_singleton team) last)

theorem waiting_apart (members : List PgUuid) {tag : String} (apart : tag ≠ "1") :
    Disjoint (near tag members) {Key.key team "1"} :=
  near_apart apart [] (fun _ _ => List.not_mem_nil) _ fun _ own => .inl own

theorem removal_begun [GoUnicode] (watched : Set PgUuid) (u : PgUuid) :
    letI := lastCharacter
    Racing id watched adminDb (remove u "1") ∅ [] (program id (remove u "1"))
        (trio (some .admin) (some .engineer) (some .engineer)) [] := by
  let _ := lastCharacter
  exact ⟨adminDb, 0, ∅, [], subset_rfl, fun _ mem => absurd mem List.not_mem_nil, adminDb_team,
    .single (Step.start _ _)⟩

-- Two admins remove each other, and the removal of the second waits for the first: it finds that one row is gone and
-- that its target is the last admin.
theorem last_admin_kept_removed :
    letI := lastCharacter
    letI := Backend.Approval.asciiTables
    ∃ s', Relation.ReflTransGen (fun a b => (engine id false).Step a b ∧ StillAdmin id false team a b)
        ⟨adminDb, 0, []⟩ s' ∧
      Team (trio (some .admin) none (some .engineer)) ["2", "3"] s'.committed ∧
      (∃ t, s'.sessions[0]? = some t ∧ t.rest = some (.pure (lastAdmin "cannot remove the last admin"))) ∧
      HasAdmin team s'.committed := by
  let _ := lastCharacter
  let _ := Backend.Approval.asciiTables
  have started := removal_begun {team} alice
  have promoted := started.updateRole (tags_plain "2" (by decide)) (by decide) bob .admin (List.nodup_singleton alice)
    (trio_admins (by decide)) (by decide) (by decide) (.inr (by decide)) (Set.disjoint_empty _)
  rw [trio_bob] at promoted
  have selected := promoted.proceeds fun d n h => h.remove (tags_plain "1" (by decide)) (by decide) alice
    (show [alice, bob].Nodup by decide) (trio_admins (by decide))
  rw [Set.empty_union] at selected
  have removed := selected.remove (tags_plain "3" (by decide)) (by decide) bob (show [alice, bob].Nodup by decide)
    (trio_admins (by decide)) (by decide) (by decide) (.inl (by decide)) (waiting_apart _ (by decide))
  rw [trio_bob] at removed
  obtain ⟨d, n, held, done, -, -, after, reach⟩ := removed.proceeds fun d n h => h.refuses (u := alice)
    (H := { x | ∃ v ∈ [alice, bob], x = .membership v team }) (fun v mem => ⟨v, mem, rfl⟩)
    (fun _ => ⟨alice, by decide, by decide⟩) (by decide) (by decide)
  have run := steps_still reach
  exact ⟨_, run, after, ⟨_, rfl, rfl⟩, last_admin_kept team .refl run ⟨alice, rfl⟩⟩

-- While carol's removal waits between the admins it has found and the membership it deletes, alice's role goes to bob
-- and from bob to carol.
theorem last_admin_removed :
    letI := lastCharacter
    letI := Backend.Approval.asciiTables
    ∃ s', (engine id false).Reachable adminDb 0 s' ∧ HasAdmin team adminDb ∧ ¬ HasAdmin team s'.committed := by
  let _ := lastCharacter
  let _ := Backend.Approval.asciiTables
  have begun : Racing id ∅ adminDb (remove carol "1") {.key team "1"} (claimed "1") (removeLocked carol "1" [alice])
      (trio (some .admin) (some .engineer) (some .engineer)) [] := by
    have run := (removal_begun ∅ carol).proceeds fun d n h => h.remove (tags_plain "1" (by decide)) (by decide) carol
      (List.nodup_singleton alice) (trio_admins (by decide))
    rwa [Set.empty_union] at run
  have counted : ∀ members, alice ∉ members → ∀ tag ≠ "1", Disjoint (near tag members)
      ({Key.key team "1"} ∪ { x | ∃ v ∈ [alice], x = .membership v team }) := fun members other tag apart =>
    near_apart apart [alice] (fun u mem own => other (List.mem_singleton.mp own ▸ mem)) _ fun x own => own
  have promoted := begun.updateRole (tags_plain "2" (by decide)) (by decide) bob .admin (List.nodup_singleton alice)
    (trio_admins (by decide)) (by decide) (by decide) (.inr (by decide)) (waiting_apart _ (by decide))
  rw [trio_bob] at promoted
  have demoted := promoted.updateRole (tags_plain "3" (by decide)) (by decide) alice .engineer
    (show [alice, bob].Nodup by decide) (trio_admins (by decide)) (by decide) (by decide) (.inl (by decide))
    (waiting_apart _ (by decide))
  rw [trio_alice] at demoted
  have checked := demoted.proceeds fun d n h => h.passes (u := carol) (H := { x | ∃ v ∈ [alice], x = .membership v team })
    (fun v mem => ⟨v, mem, rfl⟩) (fun own => own.elim) (.inr (by decide))
  have raised := checked.updateRole (tags_plain "4" (by decide)) (by decide) carol .admin (List.nodup_singleton bob)
    (trio_admins (by decide)) (by decide) (by decide) (.inr (by decide)) (counted _ (by decide) "4" (by decide))
  rw [trio_carol] at raised
  have lowered := raised.updateRole (tags_plain "5" (by decide)) (by decide) bob .engineer
    (show [bob, carol].Nodup by decide) (trio_admins (by decide)) (by decide) (by decide) (.inl (by decide))
    (counted _ (by decide) "5" (by decide))
  rw [trio_bob] at lowered
  obtain ⟨s', reach, after⟩ := lowered.commits rfl fun d n h =>
    h.removeMember (tags_plain "1" (by decide)) (by decide) (by decide)
  rw [trio_carol] at after
  refine ⟨s', Steps.of_restrict reach, ⟨alice, rfl⟩, ?_⟩
  rintro ⟨u, admin⟩
  rw [after.hasAdmin, beq_iff_eq] at admin
  have mem : u ∈ [] := (trio_admins (by decide) u).mpr admin
  cases mem

end Samples

end Provisr.Workspace
