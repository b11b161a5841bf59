import Provisr.Workspace.Invitations

namespace Provisr.Workspace

open Provisr.Foundation Provisr.Foundation.Engine
open Provisr.Audit (EventType AuditRow)
open Provisr.Backend (GoUnicode TrimSpace)
open Provisr.Backend.Manifest (SqlError textIn answers answers_ok)
open Provisr.Orchestrator (Platform)

section Effects

structure Creation (req : CreateRequest) (key : String) (id creator : PgUuid) (row : WorkspaceRow) (event : AuditRow)
    (d d' : Db) : Prop where
  unused : d.creations key = none
  absent : d.workspaces id = none
  asked : Inserted req row
  caller : PgUuid.parse req.creatorID = some creator
  workspaces : d'.workspaces = fun i => if i = id then some row else d.workspaces i
  creations : d'.creations = fun k => if k = key then some id else d.creations k
  memberships : d'.memberships = fun u w =>
    if u = creator ∧ w = id then some ⟨.admin, some creator⟩ else d.memberships u w
  audits : d'.audits = d.audits ++ [event]
  kind : event.eventType = .workspaceCreated
  resource : event.resourceId = id.text

variable [Platform] [GoUnicode] {fold : Char → Char} {faults : Bool} {d : Db}

theorem view_creation {key : String} {id creator : PgUuid} {row : WorkspaceRow} {req : CreateRequest} {event : AuditRow}
    (unused : d.creations key = none) (absent : d.workspaces id = none) (new : d.memberships creator id = none)
    (asked : Inserted req row) (caller : PgUuid.parse req.creatorID = some creator)
    (kind : event.eventType = .workspaceCreated) (resource : event.resourceId = id.text) :
    Creation req key id creator row event d ((engine fold faults).view
      [.workspace id row key, .membership creator id ⟨.admin, some creator⟩, .audit event] d) := by
  refine ⟨unused, absent, asked, caller, ?_, ?_, ?_, rfl, kind, resource⟩
  · funext i
    change (if i = id then some ((d.workspaces i).getD row) else d.workspaces i) = _
    split
    · rename_i own
      rw [own, absent, Option.getD_none]
    · rfl
  · funext k
    change (if k = key then some ((d.creations k).getD id) else d.creations k) = _
    split
    · rename_i own
      rw [own, unused, Option.getD_none]
    · rfl
  · funext u w
    change (if u = creator ∧ w = id then some ((d.memberships u w).getD _) else d.memberships u w) = _
    split
    · rename_i own
      rw [own.1, own.2, new, Option.getD_none]
    · rfl

end Effects

section Creations

variable [Platform] [GoUnicode] {fold : Char → Char} {faults : Bool} {ok : (o : Op) → Db → Ret o → Prop}
  {req : CreateRequest} {key header : String} {fresh : Fresh} {d : Db} {held : Set Key} {row : WorkspaceRow}

def Creates (fold : Char → Char) (faults : Bool) (req : CreateRequest) (key : String) (id : PgUuid) (o : Outcome)
    (_ : Set Key) (ws : List Write) (d : Db) : Prop :=
  o.commits = true → ∃ row creator event, o = .created id row ∧
    Creation req key id creator row event d ((engine fold faults).view ws d)

theorem creates_refusable {id : PgUuid} : Refusable (Creates fold faults req key id) := fun _ _ _ _ _ _ => nofun

structure Creating (key : String) (id : PgUuid) (held : Set Key) (d : Db) : Prop where
  reserved : Key.creation key ∈ held
  inserted : Key.workspace id ∈ held
  unused : d.creations key = none
  absent : d.workspaces id = none

theorem Creating.kept {id : PgUuid} (h : Creating key id held d) {d' : Db} (kept : Kept fold faults ok held d d') :
    Creating key id held d' :=
  ⟨h.reserved, h.inserted, (Part.creation.inj (kept.same _ h.reserved)).symm.trans h.unused,
    (Part.workspace.inj (kept.same _ h.inserted)).symm.trans h.absent⟩

omit [Platform] [GoUnicode] in
theorem insertedMembership_creator {creatorID : String} {id : PgUuid} {m : Membership}
    (h : insertedMembership creatorID id.text "admin" (some creatorID) = some m) :
    PgUuid.parse creatorID = some m.user ∧ m = ⟨m.user, id, ⟨.admin, some m.user⟩⟩ := by
  unfold insertedMembership at h
  cases parsed : PgUuid.parse creatorID with
  | none =>
      rw [parsed] at h
      cases h
  | some user =>
      have admin : MemberRole.parse "admin" = some .admin := rfl
      simp only [parsed, admin, PgUuid.parse_text, Option.mapM_some, Option.map_eq_map, Option.map_some,
        Option.bind_eq_bind, Option.bind_some, Option.some.injEq] at h
      subst h
      exact ⟨rfl, rfl⟩

theorem recordCreation_leads (creating : Creating key fresh.id held d) (asked : Inserted req row) :
    (narrowed fold faults ok).LeadsUnder (Kept fold faults ok) (Creates fold faults req key fresh.id) d held
      [.workspace fresh.id row key] (recordCreation req key fresh row) := by
  refine statement_leads creates_refusable fun d₁ _ _ vs _ kept₁ run _ => ?_
  obtain ⟨⟨m, inserted, -, ⟨absent, -, rfl⟩ | ⟨-, never, -⟩⟩ | ⟨failed, -⟩, -⟩ := run
  · obtain ⟨parsed, same⟩ := insertedMembership_creator inserted
    rw [same] at absent
    rw [same]
    have absent : d₁.memberships m.user fresh.id = none := absent
    have taken : Key.membership m.user fresh.id ∈ held ∪ locks (.insertMembership req.creatorID fresh.id.text "admin"
        (some req.creatorID) false) ((engine fold faults).view [.workspace fresh.id row key] d₁) :=
      .inr ⟨m.user, parsed, fresh.id, PgUuid.parse_text _, rfl⟩
    have creating := creating.kept kept₁
    refine audited_leads creates_refusable fun d₂ _ event kept₂ grown kind resource => ?_
    intro d₃ kept₃ _
    have kept := kept₂.trans (kept₃.anti grown)
    have creating := creating.kept (kept.anti Set.subset_union_left)
    have absent := (kept_membership kept taken).symm.trans absent
    exact ⟨row, m.user, event, rfl, view_creation creating.unused creating.absent absent asked parsed kind resource⟩
  · cases never
  · cases failed

omit [Platform] [GoUnicode] in
theorem validateCreate_refused {refusal : Outcome} (h : validateCreate req key = some refusal) :
    refusal.commits = false ∧ ∀ id row, refusal ≠ .replayed id row := by
  unfold validateCreate at h
  split_ifs at h <;> obtain rfl := Option.some.inj h <;> exact ⟨rfl, nofun⟩

theorem handleCreate_leads :
    (narrowed fold faults ok).LeadsUnder (Kept fold faults ok) (Creates fold faults req (TrimSpace header) fresh.id) d
      held [] (handleCreate req header fresh) := by
  unfold handleCreate
  dsimp only
  split
  · rename_i refusal refused
    intro d' _ committed
    rw [(validateCreate_refused refused).1] at committed
    cases committed
  · rename_i valid
    refine statement_leads creates_refusable fun d₁ _ _ vs _ kept₁ run _ => ?_
    obtain ⟨-, rfl, -⟩ := run
    have reserved : Key.creation (TrimSpace header) ∈
        held ∪ locks (.lockCreation (TrimSpace header)) ((engine fold faults).view [] d₁) := .inr rfl
    refine statement_leads creates_refusable fun d₂ _ found vs _ kept₂ run _ => ?_
    obtain ⟨-, rfl, -⟩ := run
    cases found with
    | some replay =>
        dsimp only
        split
        · exact fun _ _ => nofun
        · exact refused_leads creates_refusable _ _ _
    | none =>
        refine statement_leads creates_refusable fun d₃ _ taken vs _ kept₃ run _ => ?_
        obtain ⟨-, rfl, -⟩ := run
        split
        · exact refused_leads creates_refusable _ _ _
        · intro d₄ kept₄ n r vs n' run
          obtain ⟨⟨⟨inserted, key, hi, absent, -, ⟨unused, rfl, rfl⟩ | ⟨-, rfl, rfl⟩⟩ | ⟨rfl, rfl⟩, -⟩, -⟩ := run
          · obtain ⟨rfl, asked⟩ := insertedWorkspace_eq valid hi
            exact recordCreation_leads ⟨.inl (.inl (.inl reserved)), .inr (.inl rfl), unused, absent⟩ asked
          · exact refused_leads creates_refusable _ _ _
          · exact refused_leads creates_refusable _ _ _

end Creations

section Retries

variable {req : CreateRequest} {key header : String} {id creator : PgUuid} {row : WorkspaceRow} {d : Db}

structure Matches (req : CreateRequest) (id : PgUuid) (row : WorkspaceRow) (d : Db) : Prop where
  name : row.name = req.name
  environment : row.environment = req.environment
  description : row.description = req.description
  settings : Json.jsonb row.settings = Json.jsonb (settings req)
  creator : ∃ creator : PgUuid, creator.text = req.creatorID ∧ d.memberships creator id = some ⟨.admin, some creator⟩

theorem marshal_eq_jsonb {a b : JsJson} : GoJson.marshal a = GoJson.marshal b ↔ Json.jsonb a = Json.jsonb b := by
  rw [GoJson.marshal_eq_iff]
  exact Json.normalize_eq_iff Function.injective_id Json.jsonbRank_injective

theorem creatorOf_text (named : req.creatorID ≠ "") (parsed : PgUuid.parse req.creatorID = some creator) :
    ((creatorOf d id creator).map PgUuid.text).getD "" = req.creatorID ↔
      ∃ c : PgUuid, c.text = req.creatorID ∧ d.memberships c id = some ⟨.admin, some c⟩ := by
  unfold creatorOf
  split
  · rename_i member
    refine ⟨fun same => ⟨creator, same, member⟩, ?_⟩
    rintro ⟨c, same, -⟩
    rw [← same, PgUuid.parse_text] at parsed
    rw [Option.some.inj parsed] at same
    exact same
  · rename_i other
    refine ⟨fun empty => absurd empty.symm named, ?_⟩
    rintro ⟨c, same, member⟩
    rw [← same, PgUuid.parse_text] at parsed
    exact absurd (Option.some.inj parsed ▸ member) other

theorem sameRequest_iff (named : req.creatorID ≠ "") (parsed : PgUuid.parse req.creatorID = some creator) :
    sameRequest req ⟨id, row, creatorOf d id creator⟩ = true ↔ Matches req id row d := by
  unfold sameRequest
  simp only [Bool.and_eq_true, beq_iff_eq, creatorOf_text named parsed, marshal_eq_jsonb]
  refine ⟨fun ⟨⟨⟨⟨c, n⟩, e⟩, de⟩, st⟩ => ⟨n, e, de, st, c⟩, fun h => ?_⟩
  exact ⟨⟨⟨⟨h.creator, h.name⟩, h.environment⟩, h.description⟩, h.settings⟩

structure Acceptable (req : CreateRequest) (key : String) (creator : PgUuid) : Prop where
  valid : validateCreate req key = none
  storable : (textIn key).isSome
  caller : PgUuid.parse req.creatorID = some creator

theorem Acceptable.named (h : Acceptable req key creator) : req.creatorID ≠ "" := by
  intro empty
  have parsed := h.caller
  rw [empty] at parsed
  cases parsed

def verdict (req : CreateRequest) (replay : Replay) : Outcome :=
  if sameRequest req replay then .replayed replay.id replay.row else duplicateKey

variable [Platform] [GoUnicode] (fold : Char → Char) (faults : Bool)

def Answered (key : String) (id : PgUuid) (answer : Outcome) (o : Outcome) (_ : Set Key) (_ : List Write) (d : Db) : Prop :=
  d.creations key = some id → o = answer ∨ faults = true ∧ ∃ message, o = internalError message

variable {fold faults} {fresh : Fresh} {answer : Outcome} {P : Db → Prop}

omit [Platform] [GoUnicode] in
theorem selectReplay_acceptable (acceptable : Acceptable req key creator) (d : Db) :
    selectReplay d key req.creatorID = some (findReplay d key creator) := by
  obtain ⟨stored, storable⟩ := Option.isSome_iff_exists.mp acceptable.storable
  simp only [selectReplay, storable, textIn_eq storable, acceptable.caller, Option.bind_eq_bind, Option.bind_some]

theorem handleCreate_answered (acceptable : Acceptable req (TrimSpace header) creator)
    (stands : ∀ d, P d → d.creations (TrimSpace header) = some id →
      ∃ replay, findReplay d (TrimSpace header) creator = some replay ∧ verdict req replay = answer) (d : Db) :
    (engine fold faults).LeadsUnder
      (fun held d d' => (locking fold faults).Keeps (growing fold faults) held d d' ∧ P d')
      (Answered faults (TrimSpace header) id answer) d ∅ [] (handleCreate req header fresh) := by
  unfold handleCreate
  dsimp only
  rw [acceptable.valid]
  intro d₁ kept₁ n r vs n' run
  obtain ⟨locked, empty, -⟩ := run
  obtain ⟨-, -, rfl⟩ | ⟨fault | never, rfl⟩ := locked
  · intro d₂ kept₂ n₂ r₂ vs₂ n₂' run₂
    by_cases used : d₂.creations (TrimSpace header) = some id
    · obtain ⟨replay, found, same⟩ := stands d₂ kept₂.2 used
      have looked : selectReplay ((engine fold faults).view ([] ++ vs) d₂) (TrimSpace header) req.creatorID =
          some (some replay) := by
        rw [empty]
        exact (selectReplay_acceptable acceptable d₂).trans (congrArg some found)
      obtain ⟨a, answered, rfl⟩ | ⟨fault | never, rfl⟩ := run₂.1
      · obtain rfl := Option.some.inj (looked.symm.trans answered)
        exact fun _ _ _ => .inl same
      · exact fun _ _ _ => .inr ⟨fault, _, rfl⟩
      · cases looked.symm.trans never
    · refine .of_kept
        (I := fun held (d : Db) => Key.creation (TrimSpace header) ∈ held ∧ d.creations (TrimSpace header) ≠ some id)
        (fun held d d' kept now => ⟨now.1, ?_⟩) (fun held held' d more now => ⟨more now.1, now.2⟩)
        (fun a held ws d now used => absurd used now.2) ⟨.inl (.inr rfl), used⟩ _
      rw [← Part.creation.inj (kept.1.same _ now.1)]
      exact now.2
  · exact fun _ _ _ => .inr ⟨fault, _, rfl⟩
  · cases never

end Retries

section Events

def recordsCreation (id : PgUuid) (row : AuditRow) : Bool :=
  row.eventType == .workspaceCreated && row.resourceId == id.text

def events (id : PgUuid) (d : Db) : Nat := d.audits.countP (recordsCreation id)

def Unrecorded (d : Db) : Prop := ∀ id, d.workspaces id = none → events id d = 0

def Write.kind (eventType : Option EventType) : Write → Prop
  | .audit row => some row.eventType = eventType
  | _ => True

variable {id : PgUuid} {d : Db}

theorem events_append (d' : Db) {event : AuditRow} (grown : d'.audits = d.audits ++ [event]) :
    events id d' = events id d + if recordsCreation id event then 1 else 0 := by
  unfold events
  rw [grown, List.countP_append, List.countP_singleton]

variable [Platform] [GoUnicode] {fold : Char → Char} {faults : Bool}

theorem events_view {ws : List Write} {eventType : Option EventType} (other : eventType ≠ some .workspaceCreated)
    (kinds : ∀ w ∈ ws, w.kind eventType) (d : Db) : events id ((engine fold faults).view ws d) = events id d := by
  induction ws generalizing d with
  | nil => rfl
  | cons w ws ih =>
      have rest := ih (fun v mem => kinds v (List.mem_cons_of_mem _ mem)) (apply w d)
      refine rest.trans ?_
      cases w with
      | audit row =>
          have kind : some row.eventType = eventType := kinds _ List.mem_cons_self
          have apart : recordsCreation id row = false := by
            unfold recordsCreation
            rw [Bool.and_eq_false_iff, beq_eq_false_iff_ne]
            exact .inl fun same => other (kind ▸ congrArg some same)
          rw [events_append (apply (.audit row) d) rfl, apart]
          rfl
      | _ => rfl

theorem program_kinds {ok : (o : Op) → Db → Ret o → Prop} (c : Call) (d : Db) :
    (narrowed fold faults ok).LeadsUnder (Kept fold faults ok) (fun _ _ ws _ => ∀ w ∈ ws, w.kind c.event) d ∅ []
      (program fold c) := by
  refine Engine.LeadsUnder.of_all (P := c.permits) ?_ (program_all fold c)
    (fun _ mem => absurd mem List.not_mem_nil) d ∅
  intro o d n r vs n' permitted run w mem
  have written := exec_writes run.1 mem
  cases w with
  | audit row =>
      cases o with
      | audit o =>
          obtain ⟨e, hash, rfl, kind, -⟩ := written
          cases c <;> exact (congrArg some kind).trans permitted
      | _ => exact written.elim
  | _ => trivial

end Events

section Runs

variable [Platform] [GoUnicode] (fold : Char → Char) (faults : Bool)

def Stands (req : CreateRequest) (key : String) (id : PgUuid) (row : WorkspaceRow) (d : Db) : Prop :=
  d.creations key = some id → liveWorkspace d id = some row ∧ Matches req id row d

def Differs (req : CreateRequest) (key : String) (id : PgUuid) (d : Db) : Prop :=
  d.creations key = some id → ∃ row, liveWorkspace d id = some row ∧ ¬ Matches req id row d

def MadeFor (made : CreateRequest) (key : String) (id : PgUuid) (s : Database Call Ret Key Db Write Outcome) : Prop :=
  ∃ s₀ s₁ t header fresh row, (engine fold faults).Commits s₀ s₁ t (.created id row) ∧
    t.call = .create made header fresh ∧ TrimSpace header = key ∧ (engine fold faults).Steps s₁ s

def Another (req made : CreateRequest) : Prop :=
  ¬ (PgUuid.parse req.creatorID = PgUuid.parse made.creatorID ∧ req.name = made.name ∧
    req.environment = made.environment ∧ req.description = made.description ∧ settings req = settings made)

structure ExactlyOnce (s : Database Call Ret Key Db Write Outcome) : Prop where
  created : ∀ s' t o req header fresh, t.call = .create req header fresh → (engine fold faults).Commits s s' t o →
    ∃ row creator event, o = .created fresh.id row ∧
      Creation req (TrimSpace header) fresh.id creator row event s.committed s'.committed ∧
      events fresh.id s'.committed = 1
  recorded : ∀ id s', (s.committed.workspaces id).isSome → (engine fold faults).Steps s s' →
    (s'.committed.workspaces id).isSome ∧ events id s'.committed = events id s.committed
  spent : ∀ key id s₁, s.committed.creations key = some id → (engine fold faults).Steps s s₁ →
    s₁.committed.creations key = some id ∧ ∀ s₂ t o req header fresh, t.call = .create req header fresh →
      TrimSpace header = key → ¬ (engine fold faults).Commits s₁ s₂ t o
  failed : ∀ (i : Nat) (s' : Database Call Ret Key Db Write Outcome) (t : Session Call Ret Key Write Outcome)
    (o : Outcome) (req : CreateRequest) (header : String) (fresh : Fresh), s.sessions[i]? = some t →
    t.call = .create req header fresh → t.rest = some (.pure o) → (∀ id row, o ≠ .created id row) →
    (engine fold faults).Step s s' → s'.sessions[i]? = some (Engine.ended t) → s'.committed = s.committed
  retried : ∀ req header fresh creator id row s' t o, Acceptable req (TrimSpace header) creator →
    Stands req (TrimSpace header) id row s.committed →
    (engine fold faults).Along (Stands req (TrimSpace header) id row)
      ((engine fold faults).started s (.create req header fresh)) s' →
    s'.sessions[s.sessions.length]? = some t → t.rest = some (.pure o) →
    s'.committed.creations (TrimSpace header) = some id →
    o = .replayed id row ∨ faults = true ∧ ∃ message, o = internalError message
  conflict : ∀ made req header fresh creator id s' t o, MadeFor fold faults made (TrimSpace header) id s' →
    Another req made → Acceptable req (TrimSpace header) creator → Differs req (TrimSpace header) id s.committed →
    (engine fold faults).Along (Differs req (TrimSpace header) id)
      ((engine fold faults).started s (.create req header fresh)) s' →
    s'.sessions[s.sessions.length]? = some t → t.rest = some (.pure o) →
    s'.committed.creations (TrimSpace header) = some id →
    o = duplicateKey ∨ faults = true ∧ ∃ message, o = internalError message

variable {fold faults} {d : Db} {n : Nat} {s s' : Database Call Ret Key Db Write Outcome}

def OwedCreation (fold : Char → Char) (faults : Bool) : Call → Outcome → Set Key → List Write → Db → Prop
  | .create req header fresh => Creates fold faults req (TrimSpace header) fresh.id
  | _ => fun _ _ _ _ => True

theorem owedCreation_leads {ok : (o : Op) → Db → Ret o → Prop} (c : Call) (d : Db) :
    (narrowed fold faults ok).LeadsUnder (Kept fold faults ok) (OwedCreation fold faults c) d ∅ [] (program fold c) := by
  cases c with
  | create => exact handleCreate_leads
  | _ => exact .of_forall (fun _ _ _ _ => trivial) _ _ _ _

theorem creation_commits {t : Session Call Ret Key Write Outcome} {o : Outcome} {req : CreateRequest} {header : String}
    {fresh : Fresh} (reachable : (engine fold faults).Reachable d n s) (creates : t.call = .create req header fresh)
    (commit : (engine fold faults).Commits s s' t o) :
    ∃ row creator event, o = .created fresh.id row ∧
      Creation req (TrimSpace header) fresh.id creator row event s.committed s'.committed := by
  have owed := commits_leads owedCreation_leads reachable commit
  rw [creates] at owed
  obtain ⟨i, -, -, ok, rfl⟩ := commit
  exact owed ok

omit [Platform] [GoUnicode] in
theorem Creation.events {req : CreateRequest} {key : String} {id creator : PgUuid} {row : WorkspaceRow} {event : AuditRow}
    {d d' : Db} (h : Creation req key id creator row event d d') (other : PgUuid) :
    events other d' = events other d + if other = id then 1 else 0 := by
  rw [events_append d' h.audits]
  unfold recordsCreation
  rw [h.kind, h.resource]
  by_cases own : other = id
  · subst own
    simp
  · have apart : id.text ≠ other.text := fun same => own (PgUuid.text_injective same).symm
    simp [own, apart]

theorem commit_events {t : Session Call Ret Key Write Outcome} {o : Outcome}
    (reachable : (engine fold faults).Reachable d n s) (commit : (engine fold faults).Commits s s' t o) :
    (∀ id, events id s'.committed = events id s.committed) ∨
      ∃ id, s.committed.workspaces id = none ∧ (s'.committed.workspaces id).isSome ∧
        ∀ other, events other s'.committed = events other s.committed + if other = id then 1 else 0 := by
  by_cases creates : t.call.event = some .workspaceCreated
  · cases call : t.call with
    | create req header fresh =>
        obtain ⟨row, creator, event, -, creation⟩ := creation_commits reachable call commit
        refine .inr ⟨fresh.id, creation.absent, ?_, creation.events⟩
        rw [creation.workspaces]
        simp
    | _ =>
        rw [call] at creates
        cases creates
  · have kinds := commits_leads (Q := fun c _ _ ws _ => ∀ w ∈ ws, w.kind c.event) program_kinds reachable commit
    obtain ⟨i, -, -, -, rfl⟩ := commit
    exact .inl fun id => events_view creates kinds s.committed

theorem step_events (reachable : (engine fold faults).Reachable d n s) (step : (engine fold faults).Step s s') :
    (∀ id, (s.committed.workspaces id).isSome → events id s'.committed = events id s.committed) ∧
      (Unrecorded s.committed → Unrecorded s'.committed) := by
  have grown := (growing fold faults).step step
  cases step with
  | start | statement | rollback => exact ⟨fun _ _ => rfl, fun h => h⟩
  | commit i t o session done ok =>
      have commit : (engine fold faults).Commits s ⟨(engine fold faults).view t.writes s.committed, s.drawn,
          s.sessions.set i (Engine.ended t)⟩ t o := ⟨i, session, done, ok, rfl⟩
      have lost : ∀ id, ((engine fold faults).view t.writes s.committed).workspaces id = none →
          s.committed.workspaces id = none := by
        intro id gone
        cases known : s.committed.workspaces id with
        | none => rfl
        | some row =>
            obtain ⟨row', known', -⟩ := grown.workspace id row known
            exact absurd (known'.symm.trans gone) (Option.some_ne_none _)
      rcases commit_events reachable commit with same | ⟨id, absent, present, counts⟩
      · exact ⟨fun id _ => same id, fun h id gone => (same id).trans (h id (lost id gone))⟩
      · refine ⟨fun other known => ?_, fun h other gone => ?_⟩
        · rw [counts, if_neg (by rintro rfl; rw [absent] at known; cases known)]
          rfl
        · rw [counts, h other (lost other gone), if_neg (by rintro rfl; rw [gone] at present; cases present)]

theorem unrecorded_reachable (unrecorded : Unrecorded d) (reachable : (engine fold faults).Reachable d n s) :
    Unrecorded s.committed := by
  induction reachable with
  | refl => exact unrecorded
  | tail before step ih => exact (step_events before step).2 ih

theorem steps_events (reachable : (engine fold faults).Reachable d n s) (steps : (engine fold faults).Steps s s')
    {id : PgUuid} (known : (s.committed.workspaces id).isSome) :
    (s'.committed.workspaces id).isSome ∧ events id s'.committed = events id s.committed := by
  induction steps with
  | refl => exact ⟨known, rfl⟩
  | @tail b c before step ih =>
      obtain ⟨row, known'⟩ := Option.isSome_iff_exists.mp ih.1
      obtain ⟨row', known'', -⟩ := ((growing fold faults).step step).workspace id row known'
      refine ⟨by rw [known'']; rfl, ?_⟩
      exact ((step_events (reachable.trans before) step).1 id ih.1).trans ih.2

theorem workspaces_created_once (unrecorded : Unrecorded d) (reachable : (engine fold faults).Reachable d n s) :
    ExactlyOnce fold faults s where
  created s' t o req header fresh creates commit := by
    obtain ⟨row, creator, event, own, creation⟩ := creation_commits reachable creates commit
    refine ⟨row, creator, event, own, creation, ?_⟩
    rw [creation.events, unrecorded_reachable unrecorded reachable fresh.id creation.absent, if_pos rfl]
  recorded id s' known steps := steps_events reachable steps known
  spent key id s₁ used steps := by
    have used := ((growing fold faults).steps steps).creation key id used
    refine ⟨used, fun s₂ t o req header fresh creates same commit => ?_⟩
    obtain ⟨row, creator, event, -, creation⟩ := creation_commits (reachable.trans steps) creates commit
    rw [same] at creation
    exact Option.some_ne_none _ (used.symm.trans creation.unused)
  failed i s' t o req header fresh session creates done other step closed := by
    refine step.discarded session done ?_ closed
    by_contra commits
    have ok : (engine fold faults).commits o = true := by
      cases known : (engine fold faults).commits o with
      | true => rfl
      | false => exact absurd known commits
    obtain ⟨row, -, -, own, -⟩ := creation_commits reachable creates ⟨i, session, done, ok, rfl⟩
    exact other fresh.id row own
  retried req header fresh creator id row s' t o acceptable now along session done used := by
    refine Locking.answered_along (L := locking fold faults) (G := growing fold faults) (fun _ => trivial) reachable now
      along (fun d => handleCreate_answered acceptable (fun d stands used => ?_) d) session done used
    obtain ⟨live, asked⟩ := stands used
    refine ⟨⟨id, row, creatorOf d id creator⟩, ?_, ?_⟩
    · simp only [findReplay, used, live, Option.bind_eq_bind, Option.bind_some]
    · exact if_pos ((sameRequest_iff acceptable.named acceptable.caller).mpr asked)
  conflict made req header fresh creator id s' t o _ _ acceptable now along session done used := by
    refine Locking.answered_along (L := locking fold faults) (G := growing fold faults) (fun _ => trivial) reachable now
      along (fun d => handleCreate_answered acceptable (fun d stands used => ?_) d) session done used
    obtain ⟨row, live, other⟩ := stands used
    refine ⟨⟨id, row, creatorOf d id creator⟩, ?_, ?_⟩
    · simp only [findReplay, used, live, Option.bind_eq_bind, Option.bind_some]
    · exact if_neg fun same => other ((sameRequest_iff acceptable.named acceptable.caller).mp same)

end Runs

section Samples

def otherUser : PgUuid := .repeated 12

def usersDb : Db where
  users u := if u = sampleUser ∨ u = otherUser then some ⟨u.text, "Ann", "a@b.c"⟩ else none
  workspaces _ := none
  creations _ := none
  memberships _ _ := none
  removals _ _ := 0
  invitations _ := none
  keys _ _ := none
  runs := []
  audits := []

def createBody (creator : PgUuid) : CreateRequest := ⟨"Acme", none, "dev", creator.text, "", ["aws"]⟩

def creating (creator : PgUuid) : Call := .create (createBody creator) "1" (tagged "1")

def createdRow : WorkspaceRow := ⟨"Acme", "acme-1", "dev", none, Json.jsonb (settings (createBody sampleUser)), false⟩

def createdWrites : List Write := [.workspace team createdRow "1", .membership sampleUser team ⟨.admin, some sampleUser⟩]

theorem createBody_acceptable {creator : PgUuid} (own : creator ∈ [sampleUser, otherUser]) :
    Acceptable (createBody creator) "1" creator := by
  refine ⟨?_, by decide, PgUuid.parse_text creator⟩
  simp only [List.mem_cons, List.not_mem_nil, or_false] at own
  rcases own with rfl | rfl <;> decide

theorem sample_created :
    letI := lastCharacter
    letI := Backend.Approval.asciiTables
    ∃ n row, (watching Char.toLower ∅).Proceeds Set.univ usersDb 0 [] (program Char.toLower (creating sampleUser)) n
      (createdWrites ++ [.audit row]) (.pure (.created team createdRow)) := by
  let _ := lastCharacter
  let _ := Backend.Approval.asciiTables
  have plain := tags_plain "1" (by decide)
  obtain ⟨row, -, ends⟩ : ∃ row : AuditRow, row.hash = "1" ∧ (watching Char.toLower ∅).Proceeds Set.univ usersDb 0
      createdWrites (audited (appendAuditEvent team.text .workspaceCreated sampleUser.text "workspace" team.text
        [("name", .str createdRow.name), ("environment", .str createdRow.environment), ("idempotency_key", .str "1")]
        (tagged "1")) "failed to create workspace" (.pure (.created team createdRow))) 1
        (createdWrites ++ [.audit row]) (.pure (.created team createdRow)) :=
    audited_ends plain (Set.mem_univ _) List.not_mem_nil
  refine ⟨1, row, ?_⟩
  change (watching Char.toLower ∅).Proceeds _ _ _ _ (handleCreate (createBody sampleUser) "1" (tagged "1")) _ _ _
  unfold handleCreate
  dsimp only
  have acceptable := createBody_acceptable List.mem_cons_self
  rw [plain.plain, acceptable.valid]
  refine statement_proceeds (o := .lockCreation "1") () [] 0 (Set.subset_univ _) ⟨.inl ⟨(), rfl, rfl⟩, rfl, rfl⟩ trivial ?_
  refine statement_proceeds (o := .selectReplay "1" sampleUser.text) none [] 0 (Set.subset_univ _)
    ⟨.inl ⟨none, selectReplay_acceptable acceptable usersDb, rfl⟩, rfl, rfl⟩ trivial ?_
  change (watching Char.toLower ∅).Proceeds _ _ _ _ (createFresh (createBody sampleUser) "1" (tagged "1")) _ _ _
  unfold createFresh
  rw [show generateSlug (createBody sampleUser).name (tagged "1").random = "acme-1" by decide]
  refine statement_proceeds (o := .slugTaken "acme-1" none) false [] 0 (Set.subset_univ _)
    ⟨.inl ⟨false, ?_, ?_, rfl⟩, rfl, rfl⟩ trivial ?_
  · exact fun _ mem => (Option.not_mem_none _ mem).elim
  · refine ⟨fun taken => absurd taken Bool.false_ne_true, ?_⟩
    rintro ⟨id, row, live, -⟩
    cases live
  refine .op (.ok createdRow) [.workspace team createdRow "1"] 0 (Set.subset_univ _)
    ⟨⟨.inl ⟨createdRow, "1", rfl, rfl, ?_, .inl ⟨rfl, rfl, rfl⟩⟩, rfl⟩, trivial⟩ ?_
  · rintro ⟨id, row, known, -⟩
    cases known
  exact statement_proceeds (o := .insertMembership sampleUser.text team.text "admin" (some sampleUser.text) false) true
    [.membership sampleUser team ⟨.admin, some sampleUser⟩] 0 (Set.subset_univ _)
    ⟨.inl ⟨⟨sampleUser, team, ⟨.admin, some sampleUser⟩⟩, rfl, ⟨rfl, rfl, fun u mem => Option.mem_some.mp mem ▸ rfl⟩,
      .inl ⟨rfl, rfl, rfl⟩⟩, rfl⟩ trivial ends

theorem later_answered (row : AuditRow) (n : Nat) {creator : PgUuid} (own : creator ∈ [sampleUser, otherUser])
    {replay : Option PgUuid} (found : (if creator = sampleUser then some creator else none) = replay) :
    letI := lastCharacter
    letI := Backend.Approval.asciiTables
    (watching Char.toLower ∅).Proceeds Set.univ ((engine Char.toLower false).view (createdWrites ++ [.audit row]) usersDb) n
      [] (program Char.toLower (creating creator)) n [] (.pure (verdict (createBody creator) ⟨team, createdRow, replay⟩)) := by
  let _ := lastCharacter
  let _ := Backend.Approval.asciiTables
  have plain := tags_plain "1" (by decide)
  have acceptable := createBody_acceptable own
  change (watching Char.toLower ∅).Proceeds _ _ _ _ (handleCreate (createBody creator) "1" (tagged "1")) _ _ _
  unfold handleCreate
  dsimp only
  rw [plain.plain, acceptable.valid]
  refine statement_proceeds (o := .lockCreation "1") () [] n (Set.subset_univ _) ⟨.inl ⟨(), rfl, rfl⟩, rfl, rfl⟩ trivial ?_
  refine statement_proceeds (o := .selectReplay "1" creator.text) (some ⟨team, createdRow, replay⟩) [] n
    (Set.subset_univ _) ⟨.inl ⟨_, ?_, rfl⟩, rfl, rfl⟩ trivial (.here _ _ _)
  refine (selectReplay_acceptable acceptable _).trans (congrArg some ?_)
  subst found
  simp only [List.mem_cons, List.not_mem_nil, or_false] at own
  rcases own with rfl | rfl <;> rfl

-- A creation whose answer is lost, the same request again, and then one of another user with the key.
theorem sample_run :
    letI := lastCharacter
    letI := Backend.Approval.asciiTables
    ∃ s t s₁ s₂ s₃ u v, (engine Char.toLower false).Reachable usersDb 0 s ∧ t.call = creating sampleUser ∧
      (engine Char.toLower false).Commits s s₁ t (.created team createdRow) ∧ (engine Char.toLower false).Steps s₁ s₂ ∧
      s₂.sessions[1]? = some u ∧ u.call = creating sampleUser ∧ u.rest = some (.pure (.replayed team createdRow)) ∧
      (engine Char.toLower false).Steps s₂ s₃ ∧ s₃.sessions[2]? = some v ∧ v.call = creating otherUser ∧
      v.rest = some (.pure duplicateKey) ∧ s₃.committed.memberships otherUser team = none := by
  let _ := lastCharacter
  let _ := Backend.Approval.asciiTables
  have replays : verdict (createBody sampleUser) ⟨team, createdRow, some sampleUser⟩ = .replayed team createdRow :=
    if_pos (by decide)
  have refuses : verdict (createBody otherUser) ⟨team, createdRow, none⟩ = duplicateKey := if_neg (by decide)
  obtain ⟨n, row, run⟩ := sample_created
  obtain ⟨s, t, steps, call, commit⟩ := Proceeds.committed (E := watching Char.toLower ∅) (s := ⟨usersDb, 0, []⟩)
    (c := creating sampleUser) run rfl fun _ mem => absurd mem List.not_mem_nil
  have again := later_answered row n (List.mem_cons_self (a := sampleUser)) (if_pos rfl)
  have foreign := later_answered row n (show otherUser ∈ [sampleUser, otherUser] by decide) (if_neg (by decide))
  rw [replays] at again
  rw [refuses] at foreign
  obtain ⟨held, retried⟩ := Proceeds.begun (E := watching Char.toLower ∅)
    (s := ⟨_, n, [⟨creating sampleUser, ∅, [], none⟩]⟩) (c := creating sampleUser) again fun u mem => by
      rw [List.mem_singleton.mp mem]
      exact Set.disjoint_empty _
  obtain ⟨held', refused⟩ := Proceeds.begun (E := watching Char.toLower ∅)
    (s := ⟨_, n, [⟨creating sampleUser, ∅, [], none⟩, ⟨creating sampleUser, ∅, [], none⟩]⟩) (c := creating otherUser)
    foreign fun u mem => by
      simp only [List.mem_cons, List.not_mem_nil, or_false, or_self] at mem
      rw [mem]
      exact Set.disjoint_empty _
  have ended := Step.rollback (E := engine Char.toLower false)
    ⟨(engine Char.toLower false).view (createdWrites ++ [.audit row]) usersDb, n,
      [⟨creating sampleUser, ∅, [], none⟩,
        ⟨creating sampleUser, held, [], some (.pure (.replayed team createdRow))⟩]⟩ 1 _ rfl
  exact ⟨s, t, _, _, _, _, _, Steps.of_restrict steps, call, Commits.of_restrict commit, Steps.of_restrict retried,
    rfl, rfl, rfl, .head ended (Steps.of_restrict refused), rfl, rfl, rfl, rfl⟩

theorem workspaces_created_once_retried :
    letI := lastCharacter
    letI := Backend.Approval.asciiTables
    ∃ s t s₁ s₂ u, (engine Char.toLower false).Reachable usersDb 0 s ∧
      (engine Char.toLower false).Commits s s₁ t (.created team createdRow) ∧ (engine Char.toLower false).Steps s₁ s₂ ∧
      s₂.sessions[1]? = some u ∧ u.call = creating sampleUser ∧ u.rest = some (.pure (.replayed team createdRow)) ∧
      ExactlyOnce Char.toLower false s ∧ ExactlyOnce Char.toLower false s₁ ∧ ExactlyOnce Char.toLower false s₂ := by
  let _ := lastCharacter
  let _ := Backend.Approval.asciiTables
  obtain ⟨s, t, s₁, s₂, -, u, -, reachable, -, commit, retried, session, call, answer, -⟩ := sample_run
  have unrecorded : Unrecorded usersDb := fun _ _ => rfl
  exact ⟨s, t, s₁, s₂, u, reachable, commit, retried, session, call, answer, workspaces_created_once unrecorded reachable,
    workspaces_created_once unrecorded (reachable.tail commit.step),
    workspaces_created_once unrecorded ((reachable.tail commit.step).trans retried)⟩

-- A user whose request has the key of somebody else's workspace.
theorem foreign_key_refused :
    letI := lastCharacter
    letI := Backend.Approval.asciiTables
    ∃ s t, (engine Char.toLower false).Reachable usersDb 0 s ∧ t ∈ s.sessions ∧ t.call = creating otherUser ∧
      t.rest = some (.pure duplicateKey) ∧ s.committed.memberships otherUser team = none := by
  let _ := lastCharacter
  let _ := Backend.Approval.asciiTables
  obtain ⟨s, t, s₁, s₂, s₃, -, v, reachable, -, commit, retried, -, -, -, foreign, session, call, answer, none⟩ := sample_run
  exact ⟨s₃, v, ((reachable.tail commit.step).trans retried).trans foreign, List.mem_of_getElem? session, call, answer,
    none⟩

end Samples

end Provisr.Workspace
