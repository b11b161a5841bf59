import Provisr.Workspace.Proceeding

namespace Provisr.Workspace

open Provisr.Foundation Provisr.Foundation.Engine
open Provisr.Audit (AuditRow)
open Provisr.Backend (GoUnicode)
open Provisr.Orchestrator (Platform)

section Team

-- A workspace whose members have these roles and have not been removed before, with what its requests have used up.
structure Team (roles : PgUuid → Option MemberRole) (tags : List String) (d : Db) : Prop where
  live : (liveWorkspace d team).isSome
  members : ∀ u, (d.memberships u team).map MembershipRow.role = roles u
  unremoved : ∀ u, (roles u).isSome → d.removals u team = 0
  keys : ∀ key ∉ tags, d.keys team key = none
  hashes : d.audits.map AuditRow.hash = tags
  runs : d.runs = []

def first (u : PgUuid) : MembershipTuple := ⟨u, 0⟩

variable {roles : PgUuid → Option MemberRole} {tags : List String} {d : Db}

theorem Team.hasAdmin (h : Team roles tags d) (u : PgUuid) : hasAdmin d team u = (roles u == some .admin) := by
  rw [← h.members u]
  unfold Workspace.hasAdmin
  cases d.memberships u team <;> rfl

theorem Team.isAdminTuple_first (h : Team roles tags d) (u : PgUuid) :
    isAdminTuple d team (first u) = (roles u == some .admin) := by
  rw [isAdminTuple, show (first u).userID = u from rfl, h.hasAdmin]
  cases admin : roles u == some .admin with
  | false => rfl
  | true => simpa [first] using h.unremoved u (by rw [beq_iff_eq.mp admin]; rfl)

theorem Team.mem_first (h : Team roles tags d) {admins : List PgUuid} (all : ∀ v, v ∈ admins ↔ roles v = some .admin)
    (a : MembershipTuple) : a ∈ admins.map first ↔ isAdminTuple d team a = true := by
  constructor
  · intro mem
    obtain ⟨u, own, rfl⟩ := List.mem_map.mp mem
    rw [h.isAdminTuple_first, (all u).mp own]
    rfl
  · intro own
    obtain ⟨user, removals⟩ := a
    obtain ⟨admin, current⟩ := (Bool.and_eq_true _ _).mp own
    have admin : roles user = some .admin := beq_iff_eq.mp ((h.hasAdmin user).symm.trans admin)
    have current : d.removals user team = removals := beq_iff_eq.mp current
    rw [h.unremoved user (by rw [admin]; rfl)] at current
    exact List.mem_map.mpr ⟨user, (all user).mpr admin, congrArg _ current⟩

theorem Team.exists (h : Team roles tags d) : (d.workspaces team).isSome := by
  have live := h.live
  unfold liveWorkspace at live
  cases known : d.workspaces team with
  | none => rw [known] at live; cases live
  | some row => rfl

theorem Team.workspaceExists (h : Team roles tags d) : Query.answer d (.workspaceExists team.text) = some true := by
  change (PgUuid.parse team.text).map (fun id => (liveWorkspace d id).isSome) = some true
  rw [PgUuid.parse_text, Option.map_some, h.live]

theorem Team.isAdmin (h : Team roles tags d) (u : PgUuid) :
    Query.answer d (.isAdmin team.text u.text) = some (roles u == some .admin) := by
  change ((PgUuid.parse team.text).bind fun w => (PgUuid.parse u.text).bind fun v =>
    some (Workspace.hasAdmin d w v)) = _
  rw [PgUuid.parse_text, PgUuid.parse_text, Option.bind_some, Option.bind_some, h.hasAdmin]

variable [GoUnicode] {fold : Char → Char} {watched : Set PgUuid} {n : Nat} {tag : String}

def near (tag : String) (members : List PgUuid) : Set Key :=
  { x | x = .key team tag ∨ x = .chain Audit.chainLock ∨ ∃ u ∈ members, x = .membership u team }

omit [GoUnicode] in
theorem near_apart {tag other : String} (apart : tag ≠ other) {members : List PgUuid} (others : List PgUuid)
    (disjoint : ∀ u ∈ members, u ∉ others) (held : Set Key)
    (among : ∀ x ∈ held, x = .key team other ∨ ∃ u ∈ others, x = .membership u team) :
    Disjoint (near tag members) held := by
  rw [Set.disjoint_left]
  intro x own taken
  rcases among x taken with rfl | ⟨u, hu, rfl⟩
  · rcases own with same | same | ⟨v, -, same⟩
    · exact apart (Key.key.inj same).2.symm
    · cases same
    · cases same
  · rcases own with same | same | ⟨v, hv, same⟩
    · cases same
    · cases same
    · obtain ⟨rfl, -⟩ := Key.membership.inj same
      exact disjoint u hv hu

def changeRole (u : PgUuid) (role : MemberRole) (tag : String) : Call :=
  .updateRole team.text u.text role.text tag (tagged tag)

def remove (u : PgUuid) (tag : String) : Call := .removeMember team.text u.text tag (tagged tag)

def checkAdmins (u : PgUuid) (message : String) (refusal : Outcome) (next : Prog Ret Outcome) (admins : List PgUuid) :
    Prog Ret Outcome :=
  statement (.lockAdmins team.text (admins.map first)) message fun adminCount =>
    if adminCount ≤ 1 then require (.isAdmin team.text u.text) message not refusal next else next

def admins (roles : PgUuid → Option MemberRole) (among : List PgUuid) : Nat := among.countP (roles · == some .admin)

section Checks

variable [Platform] {H : Set Key} {u : PgUuid} {seen : List PgUuid} {message key mutation : String} {refusal : Outcome}
  {next : Prog Ret Outcome}

theorem Team.selects (h : Team roles tags d) (nodup : seen.Nodup) (all : ∀ v, v ∈ seen ↔ roles v = some .admin) :
    (watching fold watched).Proceeds H d n [.key team key mutation]
      (requireLastAdminNotTarget team.text u.text message refusal next) n [.key team key mutation]
      (checkAdmins u message refusal next seen) := by
  refine statement_proceeds (o := .selectAdmins team.text) (seen.map first) [] n (Set.empty_subset _)
    ⟨.inl ⟨team, seen.map first, PgUuid.parse_text team, nodup.map fun a b same => congrArg MembershipTuple.userID same,
      h.mem_first all, rfl⟩, rfl, rfl⟩ trivial (.here _ _ _)

theorem Team.locks (h : Team roles tags d) {rest : Nat → Prog Ret Outcome} {n' : Nat} {ws' : List Write}
    {p : Prog Ret Outcome} (among : ∀ v ∈ seen, Key.membership v team ∈ H)
    (sees : team ∈ watched → ∃ v ∈ seen, roles v = some .admin)
    (after : (watching fold watched).Proceeds H d n [.key team key mutation] (rest (admins roles seen)) n' ws' p) :
    (watching fold watched).Proceeds H d n [.key team key mutation]
      (statement (.lockAdmins team.text (seen.map first)) message rest) n' ws' p := by
  have count : (seen.map first).countP (isAdminTuple d team) = admins roles seen := by
    rw [List.countP_map]
    exact List.countP_congr fun v _ => by rw [Function.comp_apply, h.isAdminTuple_first]
  refine statement_proceeds (o := .lockAdmins team.text (seen.map first)) (admins roles seen) [] n ?_
    ⟨.inl ⟨team, PgUuid.parse_text team, congrArg Except.ok count.symm⟩, rfl, rfl⟩ ?_ after
  · rintro x ⟨w, hw, a, mem, -, -, rfl⟩
    cases (PgUuid.parse_text team).symm.trans hw
    obtain ⟨v, own, rfl⟩ := List.mem_map.mp mem
    exact among v own
  · intro w own hw
    cases (PgUuid.parse_text team).symm.trans hw
    obtain ⟨v, mem, admin⟩ := sees own
    exact ⟨first v, List.mem_map_of_mem mem, (h.isAdminTuple_first v).trans (by rw [admin]; rfl)⟩

theorem Team.passes (h : Team roles tags d) (among : ∀ v ∈ seen, Key.membership v team ∈ H)
    (sees : team ∈ watched → ∃ v ∈ seen, roles v = some .admin)
    (allowed : 1 < admins roles seen ∨ roles u ≠ some .admin) :
    (watching fold watched).Proceeds H d n [.key team key mutation] (checkAdmins u message refusal next seen) n
      [.key team key mutation] next := by
  refine h.locks among sees ?_
  split
  · rename_i few
    have few : admins roles seen ≤ 1 := few
    exact require_proceeds _ (h.isAdmin u) (by rw [beq_eq_false_iff_ne.mpr (allowed.resolve_left (by omega))]; rfl)
      (.here _ _ _)
  · exact .here _ _ _

theorem Team.refuses (h : Team roles tags d) (among : ∀ v ∈ seen, Key.membership v team ∈ H)
    (sees : team ∈ watched → ∃ v ∈ seen, roles v = some .admin) (last : admins roles seen ≤ 1)
    (admin : roles u = some .admin) :
    (watching fold watched).Proceeds H d n [.key team key mutation] (checkAdmins u message refusal next seen) n
      [.key team key mutation] (.pure refusal) := by
  refine h.locks among sees ?_
  rw [if_pos last]
  refine select_proceeds true ((h.isAdmin u).trans (by rw [admin]; rfl)) (.here _ _ _)

end Checks

theorem Team.claims (h : Team roles tags d) (plain : Tag tag) (fresh : tag ∉ tags) {mutation : String} {H : Set Key}
    {next : Prog Ret Outcome} {n' : Nat} {ws' : List Write} {p : Prog Ret Outcome} (among : Key.key team tag ∈ H) :
    let _ := lastCharacter
    (watching fold watched).Proceeds H d n [.key team tag mutation] next n' ws' p →
      (watching fold watched).Proceeds H d n [] (claimIdempotencyKey tag team.text mutation next) n' ws' p := by
  intro platform rest
  exact claim_proceeds plain.plain plain.fits plain.storable (PgUuid.parse_text team) among h.exists (h.keys tag fresh) rest

theorem Team.updateRole (h : Team roles tags d) (plain : Tag tag) (fresh : tag ∉ tags) {u : PgUuid} (role : MemberRole)
    {seen : List PgUuid} (nodup : seen.Nodup) (all : ∀ v, v ∈ seen ↔ roles v = some .admin) (admin : seen ≠ [])
    (member : (roles u).isSome) (allowed : 1 < seen.length ∨ roles u ≠ some .admin) :
    let _ := lastCharacter
    ∃ n' ws, (watching fold watched).Proceeds (near tag (u :: seen)) d n [] (program fold (changeRole u role tag)) n' ws
        (.pure .noContent) ∧
      Team (fun v => if v = u then some role else roles v) (tags ++ [tag]) ((engine fold false).view ws d) := by
  intro platform
  have known : (d.memberships u team).isSome := by
    rw [← Option.isSome_map, h.members u]
    exact member
  have changed : ∃ n' ws, (watching fold watched).Proceeds (near tag (u :: seen)) d n
      [.key team tag "member_role_update"] (Workspace.updateRole team.text u.text role.text tag (tagged tag)) n' ws
      (.pure .noContent) ∧
      Team (fun v => if v = u then some role else roles v) (tags ++ [tag]) ((engine fold false).view ws d) := by
    obtain ⟨row, hash, ends⟩ : ∃ row : AuditRow, row.hash = tag ∧ (watching fold watched).Proceeds (near tag (u :: seen))
        d n [.key team tag "member_role_update", .role u team role]
        (audited (appendAuditEvent team.text .memberRoleUpdated u.text "member" u.text
          [("new_role", .str role.text), ("idempotency_key", .str tag)] (tagged tag)) "failed to update role"
          (.pure .noContent)) (n + 1) ([.key team tag "member_role_update", .role u team role] ++ [.audit row])
        (.pure .noContent) := audited_ends plain (.inr (.inl rfl)) (h.hashes.symm ▸ fresh)
    refine ⟨n + 1, _, statement_proceeds (o := .updateRole role.text u.text team.text) true [.role u team role] n ?_
      ⟨.inl ⟨u, team, role, PgUuid.parse_text u, PgUuid.parse_text team, parse_role role, .inl ⟨known, rfl, rfl⟩⟩, rfl⟩
      trivial ends, ?_⟩
    · rintro x ⟨v, hv, w, hw, -, rfl⟩
      cases (PgUuid.parse_text u).symm.trans hv
      cases (PgUuid.parse_text team).symm.trans hw
      exact .inr (.inr ⟨u, List.mem_cons_self, rfl⟩)
    · refine ⟨h.live, fun v => ?_, fun v member' => ?_, fun key unused => ?_, ?_, h.runs⟩
      · change (if v = u ∧ team = team then (d.memberships v team).map ({ · with role := role })
          else d.memberships v team).map MembershipRow.role = _
        rw [← h.members v]
        by_cases same : v = u
        · subst same
          rw [if_pos ⟨rfl, rfl⟩, if_pos rfl]
          obtain ⟨old, here⟩ := Option.isSome_iff_exists.mp known
          rw [here]
          rfl
        · rw [if_neg fun both => same both.1, if_neg same]
      · refine h.unremoved v ?_
        by_cases same : v = u
        · exact same ▸ member
        · rwa [if_neg same] at member'
      · rw [List.mem_append, List.mem_singleton, not_or] at unused
        change (if team = team ∧ key = tag then some _ else d.keys team key) = none
        rw [if_neg fun both => unused.2 both.2, h.keys key unused.1]
      · change (d.audits ++ [row]).map AuditRow.hash = _
        rw [List.map_append, h.hashes, List.map_singleton, hash]
  obtain ⟨n', ws, rest, after⟩ := changed
  have count : admins roles seen = seen.length :=
    List.countP_eq_length.mpr fun v mem => by rw [(all v).mp mem]; rfl
  refine ⟨n', ws, ?_, after⟩
  change (watching fold watched).Proceeds _ d n [] (handleUpdateRole _ _ _ _ _) _ _ _
  unfold handleUpdateRole
  rw [if_pos (validRole_text role)]
  refine require_proceeds (show Query.Answer (.workspaceExists team.text) from true) h.workspaceExists rfl ?_
  refine h.claims plain fresh (.inl rfl) ((h.selects nodup all).trans (.trans (h.passes ?_ ?_ ?_) rest))
  · exact fun v mem => .inr (.inr ⟨v, List.mem_cons_of_mem u mem, rfl⟩)
  · obtain ⟨v, mem⟩ := List.exists_mem_of_ne_nil seen admin
    exact fun _ => ⟨v, mem, (all v).mp mem⟩
  · rwa [count]

def claimed (tag : String) : List Write := [.key team tag "member_remove"]

def removal [Platform] (u : PgUuid) (tag : String) : Prog Ret Outcome :=
  removeMember team.text u.text tag (tagged tag)

def removeLocked [Platform] (u : PgUuid) (tag : String) : List PgUuid → Prog Ret Outcome :=
  checkAdmins u "failed to remove member" (lastAdmin "cannot remove the last admin") (removal u tag)

theorem Team.remove (h : Team roles tags d) (plain : Tag tag) (fresh : tag ∉ tags) (u : PgUuid) {seen : List PgUuid}
    (nodup : seen.Nodup) (all : ∀ v, v ∈ seen ↔ roles v = some .admin) :
    let _ := lastCharacter
    (watching fold watched).Proceeds {.key team tag} d n [] (program fold (remove u tag)) n (claimed tag)
      (removeLocked u tag seen) := by
  intro platform
  change (watching fold watched).Proceeds _ d n [] (handleRemoveMember _ _ _ _) _ _ _
  unfold handleRemoveMember
  refine require_proceeds (show Query.Answer (.workspaceExists team.text) from true) h.workspaceExists rfl ?_
  refine h.claims plain fresh rfl ?_
  refine require_proceeds (show Query.Answer (.activeRuns team.text (some u.text)) from false) ?_ rfl
    (h.selects nodup all)
  change ((PgUuid.parse u.text).bind fun r => (PgUuid.parse team.text).bind fun w => some (activeRun d w (some r))) = _
  rw [PgUuid.parse_text, PgUuid.parse_text, Option.bind_some, Option.bind_some]
  unfold activeRun
  rw [h.runs]
  rfl

theorem Team.removeMember (h : Team roles tags d) (plain : Tag tag) (fresh : tag ∉ tags) {u : PgUuid}
    (member : (roles u).isSome) :
    let _ := lastCharacter
    ∃ n' ws, (watching fold watched).Proceeds (near tag [u]) d n (claimed tag) (removal u tag) n' ws
        (.pure .noContent) ∧
      Team (fun v => if v = u then none else roles v) (tags ++ [tag]) ((engine fold false).view ws d) := by
  intro platform
  have known : (d.memberships u team).isSome := by
    rw [← Option.isSome_map, h.members u]
    exact member
  obtain ⟨row, hash, ends⟩ : ∃ row : AuditRow, row.hash = tag ∧ (watching fold watched).Proceeds (near tag [u])
      d n (claimed tag ++ [.removal u team])
      (audited (appendAuditEvent team.text .memberRemoved u.text "member" u.text
        [("idempotency_key", .str tag)] (tagged tag)) "failed to remove member"
        (.pure .noContent)) (n + 1) (claimed tag ++ [.removal u team] ++ [.audit row])
      (.pure .noContent) := audited_ends plain (.inr (.inl rfl)) (h.hashes.symm ▸ fresh)
  refine ⟨n + 1, _, statement_proceeds (o := .deleteMembership u.text team.text) true [.removal u team] n ?_
    ⟨.inl ⟨u, team, PgUuid.parse_text u, PgUuid.parse_text team, .inl ⟨known, rfl, rfl⟩⟩, rfl⟩ trivial ends, ?_⟩
  · rintro x ⟨v, hv, w, hw, -, rfl⟩
    cases (PgUuid.parse_text u).symm.trans hv
    cases (PgUuid.parse_text team).symm.trans hw
    exact .inr (.inr ⟨u, List.mem_cons_self, rfl⟩)
  · refine ⟨h.live, fun v => ?_, fun v member' => ?_, fun key unused => ?_, ?_, h.runs⟩
    · change (if v = u ∧ team = team then none else d.memberships v team).map MembershipRow.role = _
      rw [← h.members v]
      by_cases same : v = u
      · rw [if_pos ⟨same, rfl⟩, if_pos same]
        rfl
      · rw [if_neg fun both => same both.1, if_neg same]
    · change (if v = u ∧ team = team then d.removals v team + 1 else d.removals v team) = 0
      by_cases same : v = u
      · rw [if_pos same] at member'
        cases member'
      · rw [if_neg fun both => same both.1]
        rw [if_neg same] at member'
        exact h.unremoved v member'
    · rw [List.mem_append, List.mem_singleton, not_or] at unused
      change (if team = team ∧ key = tag then some _ else d.keys team key) = none
      rw [if_neg fun both => unused.2 both.2, h.keys key unused.1]
    · change (d.audits ++ [row]).map AuditRow.hash = _
      rw [List.map_append, h.hashes, List.map_singleton, hash]

def Racing [Platform] (fold : Char → Char) (watched : Set PgUuid) (d₀ : Db) (c : Call) (held : Set Key) (ws : List Write)
    (p : Prog Ret Outcome) (roles : PgUuid → Option MemberRole) (tags : List String) : Prop :=
  ∃ d n held' done, held' ⊆ held ∧ (∀ u : Session Call Ret Key Write Outcome, u ∈ done → u.held = ∅) ∧
    Team roles tags d ∧ (watching fold watched).Reachable d₀ 0 ⟨d, n, ⟨c, held', ws, some p⟩ :: done⟩

variable {d₀ : Db} {c : Call} {held : Set Key} {ws : List Write} {p : Prog Ret Outcome}

theorem Racing.beside (c' : Call) {a : Outcome} (ok : a.commits = true) {H : Set Key}
    {roles' : PgUuid → Option MemberRole} {tags' : List String} (apart : Disjoint H held) :
    let _ := lastCharacter
    (∀ d n, Team roles tags d → ∃ n' ws', (watching fold watched).Proceeds H d n [] (program fold c') n' ws' (.pure a) ∧
      Team roles' tags' ((engine fold false).view ws' d)) →
      Racing fold watched d₀ c held ws p roles tags → Racing fold watched d₀ c held ws p roles' tags' := by
  rintro platform run ⟨d, n, held', done, among, ended, h, reach⟩
  obtain ⟨n', vs, run, after⟩ := run d n h
  have disjoint : ∀ t ∈ ⟨c, held', ws, some p⟩ :: done, Disjoint H t.held := by
    intro t mem
    rcases List.mem_cons.mp mem with rfl | mem
    · exact apart.mono_right among
    · rw [ended t mem]
      exact Set.disjoint_empty _
  have steps : (watching fold watched).Steps ⟨d, n, ⟨c, held', ws, some p⟩ :: done⟩ ⟨(engine fold false).view vs d, n',
      ⟨c, held', ws, some p⟩ :: (done ++ [⟨c', ∅, [], none⟩])⟩ :=
    Proceeds.commits (s := ⟨d, n, ⟨c, held', ws, some p⟩ :: done⟩) run ok disjoint
  refine ⟨_, n', held', _, among, fun t mem => ?_, after, reach.trans steps⟩
  rcases List.mem_append.mp mem with mem | mem
  · exact ended t mem
  · rw [List.mem_singleton.mp mem]

theorem Racing.updateRole (plain : Tag tag) (fresh : tag ∉ tags) (u : PgUuid) (role : MemberRole) {seen : List PgUuid}
    (nodup : seen.Nodup) (all : ∀ v, v ∈ seen ↔ roles v = some .admin) (admin : seen ≠ []) (member : (roles u).isSome)
    (allowed : 1 < seen.length ∨ roles u ≠ some .admin) (apart : Disjoint (near tag (u :: seen)) held) :
    let _ := lastCharacter
    Racing fold watched d₀ c held ws p roles tags →
      Racing fold watched d₀ c held ws p (fun v => if v = u then some role else roles v) (tags ++ [tag]) :=
  Racing.beside (changeRole u role tag) (a := .noContent) rfl apart
    fun _ _ h => h.updateRole plain fresh role nodup all admin member allowed

theorem Racing.remove (plain : Tag tag) (fresh : tag ∉ tags) (u : PgUuid) {seen : List PgUuid}
    (nodup : seen.Nodup) (all : ∀ v, v ∈ seen ↔ roles v = some .admin) (admin : seen ≠ []) (member : (roles u).isSome)
    (allowed : 1 < seen.length ∨ roles u ≠ some .admin) (apart : Disjoint (near tag (u :: seen)) held) :
    let _ := lastCharacter
    Racing fold watched d₀ c held ws p roles tags →
      Racing fold watched d₀ c held ws p (fun v => if v = u then none else roles v) (tags ++ [tag]) := by
  intro platform
  refine Racing.beside (Workspace.remove u tag) (a := .noContent) rfl apart fun d n h => ?_
  obtain ⟨n', ws', ends, after⟩ : ∃ n' ws', (watching fold watched).Proceeds (near tag [u]) d n (claimed tag)
      (removal u tag) n' ws' (.pure .noContent) ∧ _ := h.removeMember plain fresh member
  have count : admins roles seen = seen.length :=
    List.countP_eq_length.mpr fun v mem => by rw [(all v).mp mem]; rfl
  refine ⟨n', ws', ((h.remove plain fresh u nodup all).mono ?_).trans (.trans (h.passes ?_ ?_ ?_) (ends.mono ?_)), after⟩
  · rintro x rfl
    exact .inl rfl
  · exact fun v mem => .inr (.inr ⟨v, List.mem_cons_of_mem u mem, rfl⟩)
  · obtain ⟨v, mem⟩ := List.exists_mem_of_ne_nil seen admin
    exact fun _ => ⟨v, mem, (all v).mp mem⟩
  · rwa [count]
  · rintro x (own | own | ⟨v, mem, own⟩)
    · exact .inl own
    · exact .inr (.inl own)
    · exact .inr (.inr ⟨v, List.mem_singleton.mp mem ▸ List.mem_cons_self, own⟩)

theorem Racing.proceeds {H : Set Key} {ws' : List Write} {p' : Prog Ret Outcome} :
    let _ := lastCharacter
    (∀ d n, Team roles tags d → (watching fold watched).Proceeds H d n ws p n ws' p') →
      Racing fold watched d₀ c held ws p roles tags → Racing fold watched d₀ c (held ∪ H) ws' p' roles tags := by
  rintro platform run ⟨d, n, held', done, among, ended, h, reach⟩
  obtain ⟨held'', among', steps⟩ := (run d n h).beside done ended c held'
  exact ⟨d, n, held'', done, among'.trans (Set.union_subset_union_left _ among), ended, h, reach.trans steps⟩

theorem Racing.commits {H : Set Key} {roles' : PgUuid → Option MemberRole} {tags' : List String} {a : Outcome}
    (ok : a.commits = true) :
    let _ := lastCharacter
    (∀ d n, Team roles tags d → ∃ n' ws', (watching fold watched).Proceeds H d n ws p n' ws' (.pure a) ∧
      Team roles' tags' ((engine fold false).view ws' d)) →
      Racing fold watched d₀ c held ws p roles tags →
      ∃ s', (watching fold watched).Reachable d₀ 0 s' ∧ Team roles' tags' s'.committed := by
  rintro platform run ⟨d, n, held', done, among, ended, h, reach⟩
  obtain ⟨n', ws', run, after⟩ := run d n h
  obtain ⟨held'', -, steps⟩ := run.beside done ended c held'
  have commit := Step.commit (E := watching fold watched) ⟨d, n', ⟨c, held'', ws', some (.pure a)⟩ :: done⟩ 0 _ a rfl rfl ok
  exact ⟨_, (reach.trans steps).tail commit, after⟩

end Team

section Trio

def alice : PgUuid := sampleUser
def bob : PgUuid := .repeated 12
def carol : PgUuid := .repeated 13

def trio (a b c : Option MemberRole) (u : PgUuid) : Option MemberRole :=
  if u = alice then a else if u = bob then b else if u = carol then c else none

def adminDb : Db where
  users _ := none
  workspaces id := if id = team then some ⟨"Acme", "acme", "dev", none, .obj [], false⟩ else none
  creations _ := none
  memberships u w :=
    if w = team then (trio (some .admin) (some .engineer) (some .engineer) u).map (⟨·, none⟩) else none
  removals _ _ := 0
  invitations _ := none
  keys _ _ := none
  runs := []
  audits := []

theorem adminDb_team : Team (trio (some .admin) (some .engineer) (some .engineer)) [] adminDb where
  live := rfl
  members u := by
    unfold adminDb
    dsimp only
    rw [if_pos rfl, Option.map_map]
    exact Option.map_id'
  unremoved _ _ := rfl
  keys _ _ := rfl
  hashes := rfl
  runs := rfl

variable {a b c : Option MemberRole}

theorem mem_trio {v : PgUuid} {role : MemberRole} (h : trio a b c v = some role) : v ∈ [alice, bob, carol] := by
  unfold trio at h
  grind

theorem trio_admins {admins : List PgUuid} (h : [alice, bob, carol].filter (trio a b c · == some .admin) = admins) (v : PgUuid) :
    v ∈ admins ↔ trio a b c v = some .admin := by
  rw [← h, List.mem_filter, beq_iff_eq]
  exact ⟨And.right, fun own => ⟨mem_trio own, own⟩⟩

theorem trio_alice (role : MemberRole) :
    (fun v => if v = alice then some role else trio a b c v) = trio (some role) b c := by
  funext v
  unfold trio
  split <;> rfl

theorem trio_bob (role : Option MemberRole) :
    (fun v => if v = bob then role else trio a b c v) = trio a role c := by
  funext v
  unfold trio
  have apart : bob ≠ alice := by decide
  grind

theorem trio_carol (role : Option MemberRole) :
    (fun v => if v = carol then role else trio a b c v) = trio a b role := by
  funext v
  unfold trio
  have apart : carol ≠ alice ∧ carol ≠ bob := by decide
  grind

end Trio

end Provisr.Workspace
