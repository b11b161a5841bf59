import Provisr.Backend.PolicyService
import Provisr.Foundation.UnderLocks

namespace Provisr.Backend.Policy

open Provisr.Foundation
open Provisr.Orchestrator (Platform)

section Growth

-- Nobody deletes a pack, a rule or a key, or moves a rule to another pack.
structure Db.Grows (d d' : Db) : Prop where
  packs : ∀ id row, d.packs id = some row → d'.packs id = some row
  rules : ∀ id row, d.rules id = some row → ∃ row', d'.rules id = some row' ∧ row'.packID = row.packID
  keys : ∀ w k, (d.keys w k).isSome → (d'.keys w k).isSome

theorem Db.Grows.refl (d : Db) : d.Grows d := ⟨fun _ _ => id, fun _ row known => ⟨row, known, rfl⟩, fun _ _ => id⟩

theorem Db.Grows.trans {d d' d'' : Db} (h : d.Grows d') (h' : d'.Grows d'') : d.Grows d'' where
  packs id row known := h'.packs id row (h.packs id row known)
  rules id row known := by
    obtain ⟨row', known', same⟩ := h.rules id row known
    obtain ⟨row'', known'', same'⟩ := h'.rules id row' known'
    exact ⟨row'', known'', same'.trans same⟩
  keys w k known := h'.keys w k (h.keys w k known)

theorem apply_grows (w : Write) (d : Db) : d.Grows (apply w d) := by
  have rules : ∀ i row, d.rules i = some row → ∃ row', d.rules i = some row' ∧ row'.packID = row.packID :=
    fun _ row known => ⟨row, known, rfl⟩
  cases w with
  | workspace | audit | settings => exact ⟨fun _ _ known => known, rules, fun _ _ known => known⟩
  | pack id row =>
    refine ⟨fun i old known => ?_, rules, fun _ _ known => known⟩
    change (if i = id then _ else _) = _
    rw [known]
    split <;> rfl
  | parameters id schema =>
    refine ⟨fun _ _ known => known, fun i old known => ?_, fun _ _ known => known⟩
    change ∃ row', (if i = id then _ else _) = _ ∧ _
    rw [known]
    split
    · exact ⟨_, rfl, rfl⟩
    · exact ⟨old, rfl, rfl⟩
  | key w k mutation =>
    refine ⟨fun _ _ known => known, rules, fun v l known => ?_⟩
    change Option.isSome (if v = w ∧ l = k then _ else _) = true
    split
    · rfl
    · exact known

theorem Db.Grows.workspaceID {d d' : Db} (h : d.Grows d') {id : PgUuid} {found : FoundRule}
    (known : findRule d id = some found) : ∃ later, findRule d' id = some later ∧
      later.workspaceID = found.workspaceID := by
  simp only [findRule, Option.bind_eq_bind, Option.bind_eq_some_iff, Option.some.injEq] at known
  obtain ⟨row, rule, pack, own, rfl⟩ := known
  obtain ⟨row', rule', same⟩ := h.rules id row rule
  refine ⟨⟨id, row', pack.workspaceID⟩, ?_, rfl⟩
  simp [findRule, rule', same, h.packs _ _ own]

end Growth

section Locks

def part : Key → Db → Option String
  | .key w k, d => d.keys w k
  | _, _ => none

def touches : Write → Set Key
  | .key w k _ => {.key w k}
  | _ => ∅

section Statements

def Write.plain : Write → Prop
  | .key .. | .audit _ => False
  | _ => True

variable {o : Op} {d : Db} {n n' : Nat} {r : Ret o} {ws : List Write}

theorem exec_own (run : exec o d n r ws n') : n ≤ n' ∧ ∀ w ∈ ws, touches w ⊆ locks o d := by
  have none : ws = [] → ∀ w ∈ ws, touches w ⊆ locks o d := by
    rintro rfl w mem
    cases mem
  have one : ∀ v : Write, ws = [v] → touches v = ∅ → ∀ w ∈ ws, touches w ⊆ locks o d := by
    rintro v rfl empty w mem
    rw [List.mem_singleton.mp mem, empty]
    exact Set.empty_subset _
  cases o with
  | packExists =>
    obtain ⟨⟨p, w, -, -, -, empty⟩ | ⟨-, empty⟩, rfl⟩ := run <;> exact ⟨le_rfl, none empty⟩
  | lockRule =>
    obtain ⟨⟨id, -, -, empty⟩ | ⟨-, empty⟩, rfl⟩ := run <;> exact ⟨le_rfl, none empty⟩
  | lockSettings =>
    obtain ⟨⟨w, -, -, empty⟩ | ⟨-, empty⟩, rfl⟩ := run <;> exact ⟨le_rfl, none empty⟩
  | claimKey workspaceID key mutation =>
    obtain ⟨⟨w, known, -, -, ⟨-, -, rfl⟩ | ⟨-, -, empty⟩⟩ | ⟨-, empty⟩, rfl⟩ := run
    · refine ⟨le_rfl, fun v mem x touched => ?_⟩
      rw [List.mem_singleton.mp mem] at touched
      exact ⟨w, known, touched⟩
    · exact ⟨le_rfl, none empty⟩
    · exact ⟨le_rfl, none empty⟩
  | insertPack =>
    obtain ⟨⟨w, -, ⟨id, row, -, -, -, -, single⟩ | ⟨-, -, empty⟩⟩ | ⟨-, empty⟩, rfl⟩ := run
    · exact ⟨le_rfl, one _ single rfl⟩
    · exact ⟨le_rfl, none empty⟩
    · exact ⟨le_rfl, none empty⟩
  | selectSettings =>
    obtain ⟨⟨w, -, -, empty⟩ | ⟨-, empty⟩, rfl⟩ := run <;> exact ⟨le_rfl, none empty⟩
  | initSettings =>
    obtain ⟨⟨w, -, ⟨-, -, single⟩ | ⟨-, -, empty⟩⟩ | ⟨-, empty⟩, rfl⟩ := run
    · exact ⟨le_rfl, one _ single rfl⟩
    · exact ⟨le_rfl, none empty⟩
    · exact ⟨le_rfl, none empty⟩
  | upsertSettings =>
    obtain ⟨⟨w, -, ⟨row, -, -, -, single⟩ | ⟨-, -, empty⟩⟩ | ⟨-, empty⟩, rfl⟩ := run
    · exact ⟨le_rfl, one _ single rfl⟩
    · exact ⟨le_rfl, none empty⟩
    · exact ⟨le_rfl, none empty⟩
  | updateParameters =>
    obtain ⟨⟨id, schema, row, -, -, -, -, single⟩ | ⟨-, empty⟩, rfl⟩ := run
    · exact ⟨le_rfl, one _ single rfl⟩
    · exact ⟨le_rfl, none empty⟩
  | audit o =>
    obtain ⟨a, rows, -, run, rfl⟩ | ⟨⟨-, empty⟩, rfl⟩ := run
    · refine ⟨Audit.exec_le run, fun w mem => ?_⟩
      obtain ⟨row, -, rfl⟩ := List.mem_map.mp mem
      exact Set.empty_subset _
    · exact ⟨le_rfl, none empty⟩
  | insertWorkspace =>
    obtain ⟨⟨-, single⟩ | ⟨-, empty⟩, rfl⟩ := run
    · exact ⟨le_rfl, one _ single rfl⟩
    · exact ⟨le_rfl, none empty⟩

end Statements

theorem all_trivial {α : Type} (p : Prog Ret α) : p.All fun _ => True := by
  induction p with
  | pure a => trivial
  | op o k ih => exact ⟨trivial, ih⟩

variable [Platform] [GoFloat]

def growing : Engine.Growing engine where
  grows := Db.Grows
  refl := Db.Grows.refl
  trans _ _ _ := Db.Grows.trans
  apply := apply_grows

def protection : Protection engine (Option String) where
  part := part
  touches := touches
  part_apply := by
    intro x w d d' same
    cases x with
    | key v l =>
      have keys : d.keys v l = d'.keys v l := same
      cases w with
      | key w k mutation =>
        change (if v = w ∧ l = k then _ else _) = (if v = w ∧ l = k then _ else _)
        rw [keys]
      | _ => exact keys
    | _ => rfl
  part_untouched := by
    intro x w d apart
    cases x with
    | key v l =>
      cases w with
      | key w k mutation =>
        have other : ¬(v = w ∧ l = k) := by
          rintro ⟨rfl, rfl⟩
          exact apart rfl
        exact if_neg other
      | _ => rfl
    | _ => rfl
  Kept _ _ _ := True
  mono _ _ := trivial

def locking : Locking engine (Option String) where
  toProtection := protection
  Post _ _ _ _ _ := True
  commits _ _ _ _ := trivial
  program _ _ _ := Protection.wp_of_all (fun _ run => exec_own run) (all_trivial _)

end Locks

section Leads

variable [Platform] [GoFloat]

def Owes (P : List Write → Db → Prop) (a : Outcome) (_ : Set Key) (ws : List Write) (d : Db) : Prop :=
  a.commits = true → P ws d

abbrev Leads (P : List Write → Db → Prop) (d : Db) (held : Set Key) (ws : List Write) (p : Prog Ret Outcome) : Prop :=
  engine.LeadsUnder (locking.Keeps growing) (Owes P) d held ws p

abbrev Keeps (held : Set Key) (d d' : Db) : Prop := locking.Keeps growing held d d'

variable {P : List Write → Db → Prop} {d d' : Db} {held held' : Set Key} {ws : List Write} {message : String}

theorem refused_leads {status : Nat} {code : String} : Leads P d held ws (.pure (.refused status code message)) :=
  fun _ _ ok => absurd ok Bool.false_ne_true

theorem statement_leads {o : Op} {next : Answer o → Prog Ret Outcome}
    (h : ∀ d', Keeps held d d' → ∀ n a vs n', exec o (engine.view ws d') n (.ok a) vs n' →
      Leads P d' (held ∪ locks o (engine.view ws d')) (ws ++ vs) (next a)) :
    Leads P d held ws (statement o message next) :=
  .orEnd (fun _ _ _ _ _ _ _ => refused_leads) h

-- A statement that writes nothing, whatever it answers.
theorem reading_leads {o : Op} {next : Answer o → Prog Ret Outcome}
    (reads : ∀ {d n a vs n'}, exec o d n (.ok a) vs n' → vs = [])
    (h : ∀ d', Keeps held d d' → ∀ n a n', exec o (engine.view ws d') n (.ok a) [] n' →
      Leads P d' (held ∪ locks o (engine.view ws d')) ws (next a)) :
    Leads P d held ws (statement o message next) := by
  refine statement_leads fun d' kept n a vs n' run => ?_
  obtain rfl := reads run
  rw [List.append_nil]
  exact h d' kept n a n' run

variable {ctx : Context} {workspaceID mutation resourceID : String} {payload : JsFields} {a : Outcome}
  {changes : List Write}

def Claimed (ctx : Context) (workspaceID mutation : String) (held : Set Key) (d : Db) (changes ws : List Write) : Prop :=
  (workspaceID = "" ∧ ws = changes) ∨
    ∃ w, workspaceID ≠ "" ∧ PgUuid.parse workspaceID = some w ∧ .key w ctx.key ∈ held ∧ d.keys w ctx.key = none ∧
      ws = .key w ctx.key mutation :: changes

theorem Claimed.later (h : Claimed ctx workspaceID mutation held d changes ws) (kept : Keeps held d d')
    (more : held ⊆ held') : Claimed ctx workspaceID mutation held' d' changes ws := by
  obtain none | ⟨w, some, known, locked, unused, rfl⟩ := h
  · exact .inl none
  · refine .inr ⟨w, some, known, more locked, ?_, rfl⟩
    have same : d.keys w ctx.key = d'.keys w ctx.key := kept.same _ locked
    rw [← same]
    exact unused

omit [Platform] [GoFloat] in
theorem Claimed.append (h : Claimed ctx workspaceID mutation held d changes ws) (vs : List Write) :
    Claimed ctx workspaceID mutation held d (changes ++ vs) (ws ++ vs) := by
  obtain ⟨none, rfl⟩ | ⟨w, some, known, locked, unused, rfl⟩ := h
  · exact .inl ⟨none, rfl⟩
  · exact .inr ⟨w, some, known, locked, unused, rfl⟩

theorem claimIdempotencyKey_leads {next : Prog Ret Outcome}
    (h : ∀ d' held' ws, Keeps held d d' → held ⊆ held' → Claimed ctx workspaceID mutation held' d' [] ws →
      Leads P d' held' ws next) :
    Leads P d held [] (claimIdempotencyKey ctx workspaceID mutation next) := by
  unfold claimIdempotencyKey
  split
  · exact refused_leads
  · split
    · exact refused_leads
    · split
      · rename_i none
        exact h d held [] (.refl _ _) Set.Subset.rfl (.inl ⟨none, rfl⟩)
      · rename_i some
        refine statement_leads fun d' kept n claimed vs n' run => ?_
        obtain ⟨⟨w, known, -, -, ⟨unused, ok, rfl⟩ | ⟨-, ok, rfl⟩⟩ | ⟨failed, -⟩, -⟩ := run
        · obtain rfl := Except.ok.inj ok
          refine h d' _ _ kept Set.subset_union_left (.inr ⟨w, some, known, ?_, unused, rfl⟩)
          exact Set.mem_union_right _ ⟨w, known, rfl⟩
        · obtain rfl := Except.ok.inj ok
          exact refused_leads
        · cases failed

theorem emitAudit_leads (silent : workspaceID = "" → Leads P d held ws (.pure a))
    (loud : workspaceID ≠ "" → ∀ d' held' event, Keeps held d d' → held ⊆ held' →
      Leads P d' held' (ws ++ [.audit event]) (.pure a)) :
    Leads P d held ws (emitAudit ctx workspaceID resourceID payload message (.pure a)) := by
  have quiet : ∀ {o : Audit.Op} {d' : Db} {n n' : Nat} {r : Audit.Ret o} {vs : List Write},
      exec (.audit o) d' n (.ok r) vs n' → (∀ entry hash, o ≠ .insertEvent entry hash) → vs = [] := by
    rintro o d' n n' r vs (⟨b, rows, -, run, rfl⟩ | ⟨⟨failed, -⟩, -⟩) other
    · rw [Audit.exec_silent run other, List.map_nil]
    · cases failed
  unfold emitAudit audited Audit.PolicyService.emitAudit
  split
  · rename_i none
    exact silent none
  · rename_i some
    refine statement_leads fun d₁ kept₁ _ _ vs₁ _ run₁ => ?_
    obtain rfl := quiet run₁ (by simp)
    refine statement_leads fun d₂ kept₂ _ previous vs₂ _ run₂ => ?_
    obtain rfl := quiet run₂ (by simp)
    refine statement_leads fun d₃ kept₃ _ _ vs₃ _ run₃ => ?_
    obtain ⟨b, rows, -, run, rfl⟩ | ⟨⟨failed, -⟩, -⟩ := run₃
    · obtain ⟨-, -, seq, -, -, rfl⟩ := run
      rw [List.append_nil, List.append_nil]
      have more : held ⊆ held ∪ locks (.audit (.advisoryLock Audit.chainLock)) (engine.view ws d₁) :=
        Set.subset_union_left
      have still := more.trans (Set.subset_union_left (t := locks (.audit .selectTail) (engine.view (ws ++ []) d₂)))
      refine loud some d₃ _ _ (kept₁.trans ((kept₂.anti more).trans (kept₃.anti still))) ?_
      exact still.trans Set.subset_union_left
    · cases failed

def Recorded (ctx : Context) (workspaceID mutation : String) (ws : List Write) (d : Db) : Prop :=
  ∃ change : Write, change.plain ∧ ((workspaceID = "" ∧ ws = [change]) ∨
    ∃ w event, workspaceID ≠ "" ∧ PgUuid.parse workspaceID = some w ∧ d.keys w ctx.key = none ∧
      ws = [.key w ctx.key mutation, change, .audit event])

theorem recorded_leads (change : Write) (plain : change.plain)
    (claimed : Claimed ctx workspaceID mutation held d [change] ws)
    (owed : ∀ ws d', Keeps held d d' → Recorded ctx workspaceID mutation ws d' → P ws d') :
    Leads P d held ws (emitAudit ctx workspaceID resourceID payload message (.pure a)) := by
  refine emitAudit_leads (fun none d' kept _ => ?_) fun some d₁ held₁ event kept₁ more d₂ kept₂ _ => ?_
  · refine owed _ _ kept ⟨change, plain, .inl ⟨none, ?_⟩⟩
    obtain ⟨-, rfl⟩ | ⟨w, some, -⟩ := claimed
    · rfl
    · exact absurd none some
  · have kept := kept₁.trans (kept₂.anti more)
    refine owed _ _ kept ⟨change, plain, .inr ?_⟩
    obtain ⟨none, -⟩ | ⟨w, -, known, -, unused, rfl⟩ := claimed.later kept Set.Subset.rfl
    · exact absurd none some
    · exact ⟨w, event, some, known, unused, rfl⟩

theorem createPack_leads (ctx : Context) (req : CreatePackRequest) (d : Db) :
    Leads (Recorded ctx req.workspaceID "create_policy_pack") d ∅ [] (createPack ctx req) := by
  refine claimIdempotencyKey_leads fun d₁ held₁ ws _ _ claimed => ?_
  refine statement_leads fun d₂ kept n r vs n' run => ?_
  obtain ⟨⟨w, -, ⟨id, row, -, -, -, ok, rfl⟩ | ⟨-, ok, -⟩⟩ | ⟨failed, -⟩, -⟩ := run
  · obtain rfl := Except.ok.inj ok
    exact recorded_leads (.pack id row) trivial ((claimed.later kept Set.subset_union_left).append _)
      fun _ _ _ recorded => recorded
  · obtain rfl := Except.ok.inj ok
    exact refused_leads
  · cases failed

theorem handleCreatePack_leads (ctx : Context) (req : CreatePackRequest) (d : Db) :
    Leads (Recorded ctx req.workspaceID "create_policy_pack") d ∅ [] (handleCreatePack ctx (some req)) := by
  dsimp only [handleCreatePack]
  split
  · exact refused_leads
  · split
    · exact refused_leads
    · split
      · exact refused_leads
      · exact createPack_leads ctx req d

theorem updateSettings_leads (ctx : Context) (workspaceID : String) (req : UpdateSettingsRequest) (d : Db)
    (held : Set Key) :
    Leads (Recorded ctx workspaceID "update_policy_settings") d held [] (updateSettings ctx workspaceID req) := by
  refine claimIdempotencyKey_leads fun d₁ held₁ ws _ _ claimed => ?_
  refine reading_leads ?_ fun d₂ kept₂ n existing n' _ => ?_
  · rintro d n a vs n' ⟨⟨w, -, -, empty⟩ | ⟨-, empty⟩, -⟩ <;> exact empty
  · refine statement_leads fun d₃ kept₃ n r vs n' run => ?_
    obtain ⟨⟨w, -, ⟨row, -, -, ok, rfl⟩ | ⟨-, ok, -⟩⟩ | ⟨failed, -⟩, -⟩ := run
    · obtain rfl := Except.ok.inj ok
      exact recorded_leads (.settings w row) trivial
        (((claimed.later kept₂ Set.subset_union_left).later kept₃ Set.subset_union_left).append _)
        fun _ _ _ recorded => recorded
    · obtain rfl := Except.ok.inj ok
      exact refused_leads
    · cases failed

theorem requirePacks_leads {workspaceID : String} {next : Prog Ret Outcome} (packIDs : List String)
    (h : ∀ d held, Leads P d held [] next) (d : Db) (held : Set Key) :
    Leads P d held [] (requirePacks workspaceID next packIDs) := by
  induction packIDs generalizing d held with
  | nil => exact h d held
  | cons packID rest ih =>
    refine reading_leads ?_ fun d' _ n found n' _ => ?_
    · rintro d n a vs n' ⟨⟨p, w, -, -, -, empty⟩ | ⟨-, empty⟩, -⟩ <;> exact empty
    · cases found with
      | true => exact ih d' _
      | false => exact refused_leads

theorem handleUpdateSettings_leads (ctx : Context) (workspaceID : String) (body : Option UpdateSettingsRequest)
    (d : Db) :
    Leads (Recorded ctx workspaceID "update_policy_settings") d ∅ [] (handleUpdateSettings ctx workspaceID body) := by
  unfold handleUpdateSettings
  split
  · exact refused_leads
  · cases body with
    | none => exact refused_leads
    | some req =>
      dsimp only
      split
      · exact refused_leads
      · split
        · exact refused_leads
        · exact requirePacks_leads _ (updateSettings_leads ctx workspaceID req) d ∅

def ruleWorkspace (ctx : Context) (ruleID : String) (d : Db) : String :=
  workspaceOf ctx (((PgUuid.parse ruleID).bind (findRule d)).bind FoundRule.workspaceID)

omit [Platform] [GoFloat] in
theorem ruleWorkspace_grows {ruleID : String} {id : PgUuid} {found : FoundRule} (parsed : PgUuid.parse ruleID = some id)
    (known : findRule d id = some found) (grown : d.Grows d') :
    ruleWorkspace ctx ruleID d' = workspaceOf ctx found.workspaceID := by
  obtain ⟨later, known', same⟩ := grown.workspaceID known
  rw [ruleWorkspace, parsed, Option.bind_some, known', Option.bind_some, same]

theorem updateParameters_leads {ruleID parametersSchema : String} {schema : JsFields} {found : FoundRule}
    (owed : ∀ ws d', Keeps held d d' →
      Recorded ctx (workspaceOf ctx found.workspaceID) "policy_rule.update_parameters" ws d' → P ws d') :
    Leads P d held [] (updateParameters ctx ruleID parametersSchema schema found) := by
  refine claimIdempotencyKey_leads fun d₁ held₁ ws kept₁ more claimed => ?_
  refine statement_leads fun d₂ kept₂ n r vs n' run => ?_
  obtain ⟨⟨id, schema, row, -, -, -, ok, rfl⟩ | ⟨failed, -⟩, -⟩ := run
  · obtain rfl := Except.ok.inj ok
    refine recorded_leads (.parameters id schema) trivial ((claimed.later kept₂ Set.subset_union_left).append _)
      fun ws d₃ kept₃ => ?_
    exact owed ws d₃ (kept₁.trans ((kept₂.anti more).trans (kept₃.anti (more.trans Set.subset_union_left))))
  · cases failed

theorem handleUpdateRuleParameters_leads (ctx : Context) (ruleID : String) (body : Option UpdateRuleParametersRequest)
    (d : Db) :
    Leads (fun ws d => Recorded ctx (ruleWorkspace ctx ruleID d) "policy_rule.update_parameters" ws d ∧
      ((PgUuid.parse ruleID).bind (findRule d)).isSome) d ∅ [] (handleUpdateRuleParameters ctx ruleID body) := by
  unfold handleUpdateRuleParameters
  split
  · exact refused_leads
  · split
    · exact refused_leads
    · cases body with
      | none => exact refused_leads
      | some req =>
        dsimp only
        split
        · exact refused_leads
        · split
          · exact refused_leads
          · refine statement_leads fun d₁ _ n found vs n' run => ?_
            obtain ⟨⟨id, parsed, ok, rfl⟩ | ⟨failed, -⟩, -⟩ := run
            · have answer := Except.ok.inj ok
              cases found with
              | none => exact refused_leads
              | some found =>
                dsimp only
                split
                · exact refused_leads
                · refine updateParameters_leads fun ws d₂ kept recorded => ?_
                  obtain ⟨later, known, -⟩ := kept.grown.workspaceID answer.symm
                  rw [ruleWorkspace_grows parsed answer.symm kept.grown, parsed, Option.bind_some, known]
                  exact ⟨recorded, rfl⟩
            · cases failed

end Leads

section Commits

variable [Platform] [GoFloat]

abbrev PolicyDatabase := Foundation.Database Call Ret Key Db Write Outcome

-- A GET has no key to use, also where it inserts the settings of a workspace.
def Call.mutates : Call → Bool
  | .getSettings _ | .other _ => false
  | _ => true

def Call.context : Call → Context
  | .createPack ctx _ | .updateSettings ctx _ _ | .updateRuleParameters ctx _ _ => ctx
  | .getSettings _ | .other _ => ⟨none, "", "", "", ""⟩

def Call.key (c : Call) : String := c.context.key

def Call.mutation : Call → String
  | .createPack .. => "create_policy_pack"
  | .updateSettings .. => "update_policy_settings"
  | .updateRuleParameters .. => "policy_rule.update_parameters"
  | .getSettings _ | .other _ => ""

def Call.workspaceID (d : Db) : Call → String
  | .createPack _ body => (body.map CreatePackRequest.workspaceID).getD ""
  | .updateSettings _ workspaceID _ => workspaceID
  | .updateRuleParameters ctx ruleID _ => ruleWorkspace ctx ruleID d
  | .getSettings _ | .other _ => ""

def Call.finds (d : Db) : Call → Prop
  | .updateRuleParameters _ ruleID _ => ((PgUuid.parse ruleID).bind (findRule d)).isSome
  | _ => True

theorem program_leads (c : Call) (d : Db) (mutates : c.mutates = true) :
    Leads (fun ws d => Recorded c.context (c.workspaceID d) c.mutation ws d ∧ c.finds d) d ∅ [] (engine.program c) := by
  cases c with
  | createPack ctx body =>
    cases body with
    | none => exact refused_leads
    | some req => exact (handleCreatePack_leads ctx req d).mono fun _ _ _ _ owed ok => ⟨owed ok, trivial⟩
  | updateSettings ctx workspaceID body =>
    exact (handleUpdateSettings_leads ctx workspaceID body d).mono fun _ _ _ _ owed ok => ⟨owed ok, trivial⟩
  | updateRuleParameters ctx ruleID body => exact handleUpdateRuleParameters_leads ctx ruleID body d
  | getSettings | other => cases mutates

variable {d₀ : Db} {n : Nat} {s s' s₂ s₃ : PolicyDatabase} {t u : Session Call Ret Key Write Outcome} {a b : Outcome}

theorem inv (d : Db) (n : Nat) : locking.Inv d n := fun _ => trivial

theorem committed_writes (reachable : engine.Reachable d₀ n s) (commit : engine.Commits s s' t a)
    (mutates : t.call.mutates = true) :
    Recorded t.call.context (t.call.workspaceID s.committed) t.call.mutation t.writes s.committed ∧
      t.call.finds s.committed := by
  obtain ⟨i, session, done, ok, -⟩ := commit
  have program : ∀ c d, engine.LeadsUnder (locking.Keeps growing) (fun a _ ws d => c.mutates = true →
      a.commits = true → Recorded c.context (c.workspaceID d) c.mutation ws d ∧ c.finds d) d ∅ []
      (engine.program c) := by
    intro c d
    cases mutating : c.mutates with
    | true => exact (program_leads c d mutating).mono fun _ _ _ _ owed _ => owed
    | false => exact .of_forall (fun _ _ _ _ never => absurd never Bool.false_ne_true) _ _ _ _
  exact Locking.commit_under (inv _ _) program reachable session done mutates ok

def AuditedOnce (c : Call) (d d' : Db) : Prop :=
  (∃ event, d'.audits = d.audits ++ [event]) ∧ ∃ w, d.keys w c.key = none ∧ d'.keys w c.key = some c.mutation

omit [Platform] [GoFloat] in
theorem plain_apply {w : Write} (plain : w.plain) (d : Db) :
    (apply w d).audits = d.audits ∧ (apply w d).keys = d.keys := by
  cases w with
  | key | audit => cases plain
  | _ => exact ⟨rfl, rfl⟩

-- A committed change is audited once and uses its key exactly if some workspace could be found for it.
theorem audited_once_iff (reachable : engine.Reachable d₀ n s) (commit : engine.Commits s s' t a)
    (mutates : t.call.mutates = true) :
    AuditedOnce t.call s.committed s'.committed ↔ t.call.workspaceID s.committed ≠ "" := by
  have recorded := (committed_writes reachable commit mutates).1
  obtain ⟨i, session, done, ok, rfl⟩ := commit
  obtain ⟨change, plain, ⟨none, writes⟩ | ⟨w, event, some, known, unused, writes⟩⟩ := recorded
  · refine ⟨fun ⟨⟨event, appended⟩, _⟩ => ?_, fun some => absurd none some⟩
    rw [writes] at appended
    have same := (plain_apply plain s.committed).1
    have lengths := congrArg List.length (same.symm.trans appended)
    rw [List.length_append, List.length_singleton] at lengths
    omega
  · refine ⟨fun _ => some, fun _ => ⟨⟨event, ?_⟩, w, unused, ?_⟩⟩
    · rw [writes]
      change (apply change (apply (.key w _ _) s.committed)).audits ++ [event] = _
      rw [(plain_apply plain _).1]
      rfl
    · rw [writes]
      change (apply change (apply (.key w _ _) s.committed)).keys w t.call.key = _
      rw [(plain_apply plain _).2]
      exact if_pos ⟨rfl, rfl⟩

inductive Target where
  | workspace (id : PgUuid)
  | rule (id : PgUuid)

def Call.target : Call → Option Target
  | .createPack _ body => body.bind fun req => (PgUuid.parse req.workspaceID).map .workspace
  | .updateSettings _ workspaceID _ => (PgUuid.parse workspaceID).map .workspace
  | .updateRuleParameters _ ruleID _ => (PgUuid.parse ruleID).map .rule
  | .getSettings _ | .other _ => none

-- Another request with the same key, for the same rule or workspace.
structure Call.Repeats (c c' : Call) : Prop where
  mutates : c'.mutates = true
  key : c'.key = c.key
  target : c'.target = c.target

-- The workspace that the request itself names, for a rule of a system pack.
def Call.named : Call → String
  | .updateRuleParameters ctx _ _ => workspaceOf ctx none
  | _ => ""

-- The rule is of a pack that belongs to a workspace.
def Call.owned (d : Db) : Call → Prop
  | .updateRuleParameters _ ruleID _ => (((PgUuid.parse ruleID).bind (findRule d)).bind FoundRule.workspaceID).isSome
  | _ => True

def AppliedOnce (s s' : PolicyDatabase) (t : Session Call Ret Key Write Outcome) : Prop :=
  AuditedOnce t.call s.committed s'.committed ∧ ∀ s₂ s₃ u b, engine.Steps s' s₂ → engine.Commits s₂ s₃ u b →
    ¬t.call.Repeats u.call

omit [Platform] [GoFloat] in
theorem workspace_target {w : PgUuid} {c : Call} {d : Db} (target : c.target = some (.workspace w)) :
    PgUuid.parse (c.workspaceID d) = some w := by
  cases c with
  | createPack ctx body =>
    cases body with
    | none => cases target
    | some req =>
      obtain ⟨v, parsed, same⟩ := Option.map_eq_some_iff.mp target
      obtain rfl := Target.workspace.inj same
      exact parsed
  | updateSettings ctx workspaceID body =>
    obtain ⟨v, parsed, same⟩ := Option.map_eq_some_iff.mp target
    obtain rfl := Target.workspace.inj same
    exact parsed
  | updateRuleParameters ctx ruleID body =>
    obtain ⟨v, -, same⟩ := Option.map_eq_some_iff.mp target
    cases same
  | getSettings | other => cases target

omit [Platform] [GoFloat] in
theorem rule_target {id : PgUuid} {c : Call} (target : c.target = some (.rule id)) :
    ∃ ctx ruleID body, c = .updateRuleParameters ctx ruleID body ∧ PgUuid.parse ruleID = some id := by
  cases c with
  | createPack ctx body =>
    cases body with
    | none => cases target
    | some req =>
      obtain ⟨v, -, same⟩ := Option.map_eq_some_iff.mp target
      cases same
  | updateSettings ctx workspaceID body =>
    obtain ⟨v, -, same⟩ := Option.map_eq_some_iff.mp target
    cases same
  | updateRuleParameters ctx ruleID body =>
    obtain ⟨v, parsed, same⟩ := Option.map_eq_some_iff.mp target
    obtain rfl := Target.rule.inj same
    exact ⟨ctx, ruleID, body, rfl, parsed⟩
  | getSettings | other => cases target

omit [Platform] [GoFloat] in
theorem same_workspace {c c' : Call} {d d' : Db} {w : PgUuid} (grown : d.Grows d') (owned : c.owned d)
    (repeats : c.Repeats c') (known : PgUuid.parse (c.workspaceID d) = some w) :
    PgUuid.parse (c'.workspaceID d') = some w := by
  have target := repeats.target
  cases c with
  | createPack ctx body =>
    cases body with
    | none => cases known
    | some req => exact workspace_target (target.trans (congrArg (Option.map Target.workspace) known))
  | updateSettings ctx workspaceID body =>
    exact workspace_target (target.trans (congrArg (Option.map Target.workspace) known))
  | updateRuleParameters ctx ruleID body =>
    obtain ⟨own, packs⟩ := Option.isSome_iff_exists.mp owned
    obtain ⟨found, rule, same⟩ := Option.bind_eq_some_iff.mp packs
    obtain ⟨id, parsed, present⟩ := Option.bind_eq_some_iff.mp rule
    obtain ⟨ctx', ruleID', body', rfl, parsed'⟩ :=
      rule_target (target.trans (congrArg (Option.map Target.rule) parsed))
    have before : ruleWorkspace ctx ruleID d = own.text := by
      rw [ruleWorkspace_grows parsed present (.refl d), same]
      rfl
    have after : ruleWorkspace ctx' ruleID' d' = own.text := by
      rw [ruleWorkspace_grows parsed' present grown, same]
      rfl
    change PgUuid.parse (ruleWorkspace ctx ruleID d) = some w at known
    change PgUuid.parse (ruleWorkspace ctx' ruleID' d') = some w
    rw [after, ← before, known]
  | getSettings | other => cases known

theorem used_once (reachable : engine.Reachable d₀ n s) (commit : engine.Commits s s' t a)
    (mutates : t.call.mutates = true) (some_ : t.call.workspaceID s.committed ≠ "") (steps : engine.Steps s' s₂)
    (later : engine.Commits s₂ s₃ u b) (repeats : t.call.Repeats u.call)
    (same : PgUuid.parse (u.call.workspaceID s₂.committed) = PgUuid.parse (t.call.workspaceID s.committed)) : False := by
  have used := (audited_once_iff reachable commit mutates).mpr some_
  have first := (committed_writes reachable commit mutates).1
  have reached : engine.Reachable d₀ n s₂ := (reachable.tail commit.step).trans steps
  obtain ⟨change, plain, ⟨none, -⟩ | ⟨w, event, -, known, unused, writes⟩⟩ := first
  · exact some_ none
  · have kept : (s₂.committed.keys w t.call.key).isSome := by
      refine (growing.steps steps).keys _ _ ?_
      obtain ⟨i, session, done, ok, rfl⟩ := commit
      rw [writes]
      change Option.isSome ((apply change (apply (.key w _ _) s.committed)).keys w t.call.key) = true
      rw [(plain_apply plain _).2]
      exact Option.isSome_iff_exists.mpr ⟨_, if_pos ⟨rfl, rfl⟩⟩
    obtain ⟨change', -, ⟨none, -⟩ | ⟨w', event', -, known', unused', -⟩⟩ :=
      (committed_writes reached later repeats.mutates).1
    · rw [none] at same
      rw [← same] at known
      cases known
    · obtain rfl := Option.some.inj (known'.symm.trans (same.trans known))
      change s₂.committed.keys w' u.call.key = none at unused'
      rw [repeats.key] at unused'
      rw [unused'] at kept
      cases kept

-- A change of a rule of a system pack is recorded where the request says.
omit [Platform] [GoFloat] in
theorem named_workspace {c c' : Call} {d d' : Db} (grown : d.Grows d') (unowned : ¬c.owned d) (finds : c.finds d)
    (repeats : c.Repeats c') : c.workspaceID d = c.named ∧ c'.workspaceID d' = c'.named := by
  cases c with
  | updateRuleParameters ctx ruleID body =>
    obtain ⟨found, rule⟩ := Option.isSome_iff_exists.mp finds
    obtain ⟨id, parsed, present⟩ := Option.bind_eq_some_iff.mp rule
    have system : found.workspaceID = none := by
      rw [Call.owned, rule, Option.bind_some, Option.not_isSome_iff_eq_none] at unowned
      exact unowned
    obtain ⟨ctx', ruleID', body', rfl, parsed'⟩ :=
      rule_target (repeats.target.trans (congrArg (Option.map Target.rule) parsed))
    refine ⟨(ruleWorkspace_grows parsed present (.refl d)).trans ?_, (ruleWorkspace_grows parsed' present grown).trans ?_⟩
    all_goals
      rw [system]
      rfl
  | _ => exact absurd trivial unowned

theorem applied_once_iff (reachable : engine.Reachable d₀ n s) (commit : engine.Commits s s' t a)
    (mutates : t.call.mutates = true) :
    AppliedOnce s s' t ↔ t.call.workspaceID s.committed ≠ "" ∧ (t.call.owned s.committed ∨
      ∀ s₂ s₃ u b, engine.Steps s' s₂ → engine.Commits s₂ s₃ u b → t.call.Repeats u.call →
        PgUuid.parse u.call.named = PgUuid.parse t.call.named) := by
  obtain ⟨recorded, finds⟩ := committed_writes reachable commit mutates
  constructor
  · rintro ⟨audited, once⟩
    refine ⟨(audited_once_iff reachable commit mutates).mp audited, .inr fun s₂ s₃ u b steps later repeats => ?_⟩
    exact absurd repeats (once s₂ s₃ u b steps later)
  · rintro ⟨some, condition⟩
    refine ⟨(audited_once_iff reachable commit mutates).mpr some, fun s₂ s₃ u b steps later repeats => ?_⟩
    have grown : s.committed.Grows s₂.committed := (growing.step commit.step).trans (growing.steps steps)
    refine used_once reachable commit mutates some steps later repeats ?_
    by_cases owned : t.call.owned s.committed
    · obtain ⟨change, -, ⟨none, -⟩ | ⟨w, event, -, known, -, -⟩⟩ := recorded
      · exact absurd none some
      · rw [known, same_workspace grown owned repeats known]
    · obtain ⟨before, after⟩ := named_workspace grown owned finds repeats
      rw [before, after]
      exact condition.resolve_left owned s₂ s₃ u b steps later repeats

end Commits

section Example

def sampleId (digit : Fin 16) : PgUuid := .repeated digit

def systemPack : PackRow := ⟨none, "Security Baseline", "Core security rules", "security", true, true⟩

def publicRule : RuleRow :=
  ⟨sampleId 10, "no_public_s3", "package provisr.security", "deny", "Deny S3 buckets with public ACLs", "", true, .obj []⟩

def seeded : Db where
  workspaces id := id == sampleId 1
  packs id := if id = sampleId 10 then some systemPack else none
  rules id := if id = sampleId 11 then some publicRule else none
  settings _ := none
  keys _ _ := none
  audits := []

def noParameters : String := "\x7b\x7d"

def retry (workspaceID : String) : Call :=
  .updateRuleParameters ⟨some ⟨"policy-service", "admin", workspaceID⟩, "retry-7f3a", "",
    "6f1c2d3e-4a5b-4c6d-8e7f-90a1b2c3d4e5", ""⟩ (sampleId 11).text (some ⟨noParameters⟩)

abbrev noFloats : GoFloat := ⟨fun _ => none⟩

theorem retry_program [Platform] (workspaceID : String) :
    letI : GoFloat := noFloats
    engine.program (retry workspaceID) =
      lockRule (retry workspaceID).context (sampleId 11).text noParameters [] := by
  let _ : GoFloat := noFloats
  have id : (parseUuid (sampleId 11).text).isNone = false := by decide
  have schema : unmarshal noParameters = some [] := by decide
  have admin : isAdmin (retry workspaceID).context = true := rfl
  change handleUpdateRuleParameters (retry workspaceID).context (sampleId 11).text (some ⟨noParameters⟩) = _
  unfold handleUpdateRuleParameters
  rw [id, admin]
  dsimp only
  rw [schema]
  rfl

theorem retry_found : findRule seeded (sampleId 11) = some ⟨sampleId 11, publicRule, none⟩ := by decide

theorem retry_key (workspaceID : String) : (retry workspaceID).context.key = "retry-7f3a" := by
  change TrimSpace "retry-7f3a" = _
  decide

theorem parameters_in : Manifest.jsonbIn noParameters = some (.obj []) := by decide

theorem lockRule_executes [Platform] {ctx : Context} {n : Nat} {ws : List Write} {a : Outcome} :
    letI : GoFloat := noFloats
    engine.Executes seeded 0 [] (updateParameters ctx (sampleId 11).text noParameters [] ⟨sampleId 11, publicRule, none⟩)
      n ws a → engine.Executes seeded 0 [] (lockRule ctx (sampleId 11).text noParameters []) n ws a := by
  let _ : GoFloat := noFloats
  intro rest
  refine .op (.ok (some ⟨sampleId 11, publicRule, none⟩)) [] 0 ⟨.inl ⟨sampleId 11, PgUuid.parse_text _, ?_, rfl⟩, rfl⟩ ?_
  · exact congrArg Except.ok retry_found.symm
  · have valid : validateRuleParameters publicRule.ruleKey [] = .ok () := by decide
    dsimp only
    rw [valid]
    exact rest

def changedRule : Write := .parameters (sampleId 11) (.obj [])

theorem retry_unclaimed [Platform] :
    letI : GoFloat := noFloats
    engine.Executes seeded 0 [] (engine.program (retry "")) 0 [changedRule] (.rule (sampleId 11) publicRule) := by
  let _ : GoFloat := noFloats
  rw [retry_program]
  refine lockRule_executes ?_
  have nowhere : workspaceOf (retry "").context none = "" := by decide
  unfold updateParameters claimIdempotencyKey
  rw [nowhere, retry_key, if_neg (by decide), if_neg (by decide), if_pos rfl]
  refine .op (.ok (sampleId 11, publicRule)) [changedRule] 0 ⟨.inl ⟨sampleId 11, .obj [], publicRule,
    PgUuid.parse_text _, parameters_in, ?_, rfl, rfl⟩, rfl⟩ ?_
  · exact rfl
  · exact .pure _ _ _

def claimedKey : Write := .key (sampleId 1) "retry-7f3a" "policy_rule.update_parameters"

def retryEntry : Audit.Entry :=
  ⟨(sampleId 1).text, .stateTransition, "policy-service", .system, "policy", (sampleId 11).text,
    .obj [("rule_id", .str (sampleId 11).text), ("pack_id", .str (sampleId 10).text), ("rule_key", .str "no_public_s3"),
      ("parameters_schema", .obj [])], none, "6f1c2d3e-4a5b-4c6d-8e7f-90a1b2c3d4e5"⟩

def retryEvent [Platform] : Write :=
  .audit (retryEntry.row (Platform.sha256Hex (Audit.PolicyService.preimage retryEntry)) 0)

theorem retry_claimed [Platform] :
    letI : GoFloat := noFloats
    engine.Executes seeded 0 [] (engine.program (retry (sampleId 1).text)) 1 [claimedKey, changedRule, retryEvent]
      (.rule (sampleId 11) publicRule) := by
  let _ : GoFloat := noFloats
  have somewhere : workspaceOf (retry (sampleId 1).text).context none = (sampleId 1).text := by decide
  have named : ¬(sampleId 1).text = "" := by decide
  rw [retry_program]
  refine lockRule_executes ?_
  unfold updateParameters claimIdempotencyKey
  rw [somewhere, retry_key, if_neg (by decide), if_neg (by decide), if_neg named]
  refine .op (.ok true) [claimedKey] 0 ⟨.inl ⟨sampleId 1, PgUuid.parse_text _, by decide,
    beq_self_eq_true (sampleId 1), .inl ⟨rfl, rfl, rfl⟩⟩, rfl⟩ ?_
  refine .op (.ok (sampleId 11, publicRule)) [changedRule] 0 ⟨.inl ⟨sampleId 11, .obj [], publicRule,
    PgUuid.parse_text _, parameters_in, ?_, rfl, rfl⟩, rfl⟩ ?_
  · exact rfl
  · dsimp only [emitAudit, audited, Audit.PolicyService.emitAudit]
    rw [if_neg named]
    refine .op (.ok ()) [] 0 (.inl ⟨(), [], rfl, ⟨rfl, rfl⟩, rfl⟩) ?_
    refine .op (.ok none) [] 0 (.inl ⟨none, [], rfl, ⟨rfl, rfl, rfl⟩, rfl⟩) ?_
    refine .op (.ok ()) [retryEvent] 1 (.inl ⟨(), _, rfl, ⟨?_, ?_, 0, le_rfl, rfl, rfl⟩, rfl⟩) (.pure _ _ _)
    · exact List.not_mem_nil
    · exact nofun

def retryDigest : String := "6e46bd09872b1e5b7e9f8f40eff4f010ac818d31dfcbf1e630aa8951ec77e407"

@[reducible] def retryPlatform : Platform :=
  ⟨fun text => if text = Audit.PolicyService.preimage retryEntry then retryDigest else "", fun _ => true⟩

theorem retry_applied_once :
    letI := retryPlatform
    letI : GoFloat := noFloats
    ∃ s s' t a, engine.Reachable seeded 0 s ∧ engine.Commits s s' t a ∧
      (AppliedOnce s s' t ↔ t.call.workspaceID s.committed ≠ "" ∧ (t.call.owned s.committed ∨
        ∀ s₂ s₃ u b, engine.Steps s' s₂ → engine.Commits s₂ s₃ u b → t.call.Repeats u.call →
          PgUuid.parse u.call.named = PgUuid.parse t.call.named)) := by
  let := retryPlatform
  let _ : GoFloat := noFloats
  have idle : ∀ t ∈ ([] : List (Session Call Ret Key Write Outcome)), t.held = ∅ := nofun
  obtain ⟨held, steps⟩ := retry_claimed.steps idle (retry (sampleId 1).text) ∅
  have reachable := Relation.ReflTransGen.head (Engine.Step.start ⟨seeded, 0, []⟩ (retry (sampleId 1).text)) steps
  refine ⟨_, _, _, _, reachable, ⟨0, rfl, rfl, rfl, rfl⟩, ?_⟩
  exact applied_once_iff reachable ⟨0, rfl, rfl, rfl, rfl⟩ rfl

theorem service_retry_unaudited :
    ¬ ∀ [Platform] [GoFloat] (d : Db) (n : Nat) (s s' : PolicyDatabase) (t : Session Call Ret Key Write Outcome)
      (a : Outcome), engine.Reachable d n s → engine.Commits s s' t a → t.call.mutates = true →
        AppliedOnce s s' t := by
  intro claim
  let := retryPlatform
  let _ : GoFloat := noFloats
  have idle : ∀ t ∈ ([] : List (Session Call Ret Key Write Outcome)), t.held = ∅ := nofun
  obtain ⟨held, steps⟩ := retry_unclaimed.steps idle (retry "") ∅
  have reachable := Relation.ReflTransGen.head (Engine.Step.start ⟨seeded, 0, []⟩ (retry "")) steps
  obtain ⟨⟨event, appended⟩, -⟩ := (claim _ _ _ _ _ _ reachable ⟨0, rfl, rfl, rfl, rfl⟩ rfl).1
  cases appended

end Example
end Provisr.Backend.Policy
