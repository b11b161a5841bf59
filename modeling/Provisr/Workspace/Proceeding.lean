import Provisr.Backend.ApprovalOrder
import Provisr.Foundation.Proceeding
import Provisr.Workspace.Requests

namespace Provisr.Workspace

open Provisr.Foundation Provisr.Foundation.Engine
open Provisr.Audit (AuditRow EventType)
open Provisr.Backend (GoUnicode TrimSpace)
open Provisr.Backend.Manifest (textIn)
open Provisr.Orchestrator (Platform)

def seesAdmin (watched : Set PgUuid) : (o : Op) → Db → Ret o → Prop
  | .lockAdmins id admins, d, _ =>
    ∀ w ∈ watched, PgUuid.parse id = some w → ∃ a ∈ admins, isAdminTuple d w a = true
  | _, _, _ => True

abbrev watching [Platform] [GoUnicode] (fold : Char → Char) (watched : Set PgUuid) :
    Engine Call Ret Key Db Write Outcome :=
  narrowed fold false (seesAdmin watched)

section Proceeding

variable [Platform] [GoUnicode] {fold : Char → Char} {watched : Set PgUuid} {H : Set Key} {d : Db} {n n' : Nat} {ws ws' : List Write}
  {p : Prog Ret Outcome} {message : String}

theorem statement_proceeds {o : Op} {next : Answer o → Prog Ret Outcome} (a : Answer o) (vs : List Write) (m : Nat)
    (among : locks o ((engine fold false).view ws d) ⊆ H) (run : exec false o ((engine fold false).view ws d) n (.ok a) vs m)
    (sees : seesAdmin watched o ((engine fold false).view ws d) (.ok a))
    (rest : (watching fold watched).Proceeds H d m (ws ++ vs) (next a) n' ws' p) :
    (watching fold watched).Proceeds H d n ws (statement o message next) n' ws' p :=
  .op (.ok a) vs m among ⟨run, sees⟩ rest

theorem select_proceeds {q : Query} {next : q.Answer → Prog Ret Outcome} (a : q.Answer)
    (answer : q.answer ((engine fold false).view ws d) = some a)
    (rest : (watching fold watched).Proceeds H d n ws (next a) n' ws' p) :
    (watching fold watched).Proceeds H d n ws (statement (.select q) message next) n' ws' p := by
  refine statement_proceeds (o := .select q) a [] n (Set.empty_subset H) ⟨.inl ⟨a, answer, rfl⟩, rfl, rfl⟩ trivial ?_
  rwa [List.append_nil]

theorem require_proceeds {q : Query} {holds : q.Answer → Bool} {refusal : Outcome} {next : Prog Ret Outcome}
    (a : q.Answer) (answer : q.answer ((engine fold false).view ws d) = some a) (ok : holds a = true)
    (rest : (watching fold watched).Proceeds H d n ws next n' ws' p) :
    (watching fold watched).Proceeds H d n ws (require q message holds refusal next) n' ws' p := by
  refine select_proceeds a answer ?_
  rwa [if_pos ok]

theorem audited_proceeds {workspaceID actorID resourceType resourceID : String} {eventType : EventType}
    {payload : JsFields} (fresh : Fresh) {next : Prog Ret Outcome} (chain : Key.chain Audit.chainLock ∈ H)
    (unused : ∀ e : Audit.Entry, e.correlationId = Audit.WorkspaceService.correlationId fresh.correlation →
      Platform.sha256Hex (Audit.WorkspaceService.preimage e) ∉ ((engine fold false).view ws d).audits.map AuditRow.hash) :
    ∃ e : Audit.Entry, e.correlationId = Audit.WorkspaceService.correlationId fresh.correlation ∧ ∀ n' ws' p,
      (watching fold watched).Proceeds H d (n + 1)
        (ws ++ [.audit (e.row (Platform.sha256Hex (Audit.WorkspaceService.preimage e)) n)]) next n' ws' p →
      (watching fold watched).Proceeds H d n ws
        (audited (appendAuditEvent workspaceID eventType actorID resourceType resourceID payload fresh) message next)
        n' ws' p := by
  have known : ∀ h ∈ Audit.selectTail ((engine fold false).view ws d).audits,
      h ∈ ((engine fold false).view ws d).audits.map AuditRow.hash := by
    intro h tail
    obtain ⟨row, last, rfl⟩ := Option.map_eq_some_iff.mp tail
    exact List.mem_map_of_mem (List.argmax_mem last)
  let columns (previous : Option String) : Audit.Entry :=
    ⟨workspaceID, eventType, (if actorID = "" then ("system", Audit.ActorType.system) else (actorID, .user)).1,
      (if actorID = "" then ("system", Audit.ActorType.system) else (actorID, .user)).2, resourceType, resourceID,
      .obj payload, previous, Audit.WorkspaceService.correlationId fresh.correlation⟩
  refine ⟨columns (Audit.selectTail ((engine fold false).view ws d).audits), rfl, fun n' ws' p rest =>
    statement_proceeds (o := .audit (.advisoryLock Audit.chainLock)) () [] n ?_
      (.inl ⟨(), [], rfl, ⟨rfl, rfl⟩, rfl⟩) trivial ?_⟩
  · rintro x ⟨key, own, rfl⟩
    rw [Set.mem_singleton_iff.mp own]
    exact chain
  rw [List.append_nil]
  refine statement_proceeds (o := .audit .selectTail) (Audit.selectTail ((engine fold false).view ws d).audits) [] n ?_
    (.inl ⟨_, [], rfl, ⟨rfl, rfl, rfl⟩, rfl⟩) trivial ?_
  · rintro x ⟨key, own, rfl⟩
    cases own
  rw [List.append_nil]
  refine statement_proceeds () _ (n + 1) ?_
    (.inl ⟨(), _, rfl, ⟨unused _ rfl, known, n, le_rfl, rfl, rfl⟩, rfl⟩) trivial rest
  rintro x ⟨key, own, rfl⟩
  cases own

theorem claim_proceeds {key workspaceID mutation : String} {next : Prog Ret Outcome} {w : PgUuid}
    (plain : TrimSpace key = key) (fits : badKey key = false) (storable : (textIn key).isSome)
    (id : PgUuid.parse workspaceID = some w) (among : Key.key w key ∈ H)
    (exists' : (((engine fold false).view ws d).workspaces w).isSome)
    (unused : ((engine fold false).view ws d).keys w key = none)
    (rest : (watching fold watched).Proceeds H d n (ws ++ [.key w key mutation]) next n' ws' p) :
    (watching fold watched).Proceeds H d n ws (claimIdempotencyKey key workspaceID mutation next) n' ws' p := by
  unfold claimIdempotencyKey
  dsimp only
  rw [plain, fits]
  refine statement_proceeds (o := .claimKey workspaceID key mutation) true _ n ?_
    ⟨.inl ⟨w, id, storable, exists', .inl ⟨unused, rfl, rfl⟩⟩, rfl⟩ trivial rest
  rintro x ⟨w', hw', rfl⟩
  rw [Option.some.inj ((Option.mem_def.mp hw').symm.trans id)]
  exact among

end Proceeding

section Samples

def team : PgUuid := sampleWorkspace

-- What a request draws whose correlation id is its tag, and hashes that are told apart by the correlation ids.
def tagged (tag : String) : Fresh := ⟨team, tag, ⟨fun _ => true, tag, "", ""⟩⟩

@[reducible] def lastCharacter : Platform := ⟨fun s => String.ofList s.toList.getLast?.toList, fun _ => false⟩

structure Tag (tag : String) : Prop where
  plain : TrimSpace tag = tag
  fits : badKey tag = false
  storable : (textIn tag).isSome
  last : String.ofList tag.toList.getLast?.toList = tag
  nonempty : tag.toList ≠ []

theorem separated_ends (separator last : String) (fields : List String) :
    ∃ front, (Audit.separated separator (fields ++ [last])).toList = front ++ last.toList := by
  induction fields with
  | nil => exact ⟨[], rfl⟩
  | cons field fields ih =>
      obtain ⟨front, same⟩ := ih
      have split : Audit.separated separator (field :: fields ++ [last]) =
          field ++ separator ++ Audit.separated separator (fields ++ [last]) := by cases fields <;> rfl
      refine ⟨field.toList ++ separator.toList ++ front, ?_⟩
      rw [split, String.toList_append, String.toList_append, same, List.append_assoc, List.append_assoc, List.append_assoc]

theorem hash_tagged {tag : String} (h : Tag tag) {e : Audit.Entry} (own : e.correlationId = tag) :
    lastCharacter.sha256Hex (Audit.WorkspaceService.preimage e) = tag := by
  obtain ⟨front, ends⟩ := separated_ends "|" e.correlationId [e.previousHash.getD "", e.workspaceId, e.eventType.label,
    e.actorId, e.actorType.label, e.resourceType, e.resourceId, GoJson.marshal e.payload]
  have last : (Audit.WorkspaceService.preimage e).toList.getLast? = tag.toList.getLast? := by
    rw [← own]
    refine (congrArg List.getLast? ends).trans ?_
    rw [List.getLast?_append_of_ne_nil _ (own ▸ h.nonempty)]
  change String.ofList (Audit.WorkspaceService.preimage e).toList.getLast?.toList = tag
  rw [last, h.last]

variable [GoUnicode] {fold : Char → Char} {watched : Set PgUuid} {d : Db} {n : Nat} {tag : String}

theorem audited_ends {H : Set Key} {ws : List Write} {actorID resourceType resourceID message : String}
    {eventType : EventType} {payload : JsFields} {a : Outcome} (plain : Tag tag) (chain : Key.chain Audit.chainLock ∈ H) :
    let _ := lastCharacter
    tag ∉ ((engine fold false).view ws d).audits.map AuditRow.hash → ∃ row : AuditRow, row.hash = tag ∧
      (watching fold watched).Proceeds H d n ws
        (audited (appendAuditEvent team.text eventType actorID resourceType resourceID payload (tagged tag)) message
          (.pure a)) (n + 1) (ws ++ [.audit row]) (.pure a) := by
  intro platform unused
  exact (audited_proceeds (tagged tag) chain fun e own => (hash_tagged plain own).symm ▸ unused).elim fun e h =>
    ⟨e.row _ n, hash_tagged plain h.1, h.2 _ _ _ (.here _ _ _)⟩

omit [GoUnicode] in
theorem tags_plain : ∀ tag ∈ ["1", "2", "3", "4", "5"], Tag tag := by
  simp only [List.forall_mem_cons]
  refine ⟨?_, ?_, ?_, ?_, ?_, fun _ mem => absurd mem List.not_mem_nil⟩
  all_goals exact ⟨by decide, by decide, by decide, by decide, by decide⟩

end Samples

end Provisr.Workspace
