import Provisr.Backend.PolicyProjection
import Provisr.Workspace.Tables

namespace Provisr.Backend.Policy

open Provisr.Foundation
open Provisr.Audit (AuditRow)
open Provisr.Backend.Manifest (SqlError textIn jsonbIn)
open Provisr.Workspace (varcharIn)

section Rows

-- A system pack has no workspace.
structure PackRow where
  workspaceID : Option PgUuid
  name : String
  description : String
  category : String
  isSystemPack : Bool
  isEnabled : Bool
deriving DecidableEq

structure RuleRow where
  packID : PgUuid
  ruleKey : String
  regoRule : String
  severity : String
  description : String
  remediationHint : String
  isEnabled : Bool
  parametersSchema : Json Literal
deriving DecidableEq

structure SettingsRow where
  enabledPackIDs : List PgUuid
  mode : String
deriving DecidableEq

structure Db where
  workspaces : PgUuid → Bool
  packs : PgUuid → Option PackRow
  rules : PgUuid → Option RuleRow
  settings : PgUuid → Option SettingsRow
  keys : PgUuid → String → Option String
  audits : List AuditRow

inductive Key where
  | pack (id : PgUuid)
  | rule (id : PgUuid)
  | settings (workspaceID : PgUuid)
  | key (workspaceID : PgUuid) (key : String)
  | chain (key : String)
deriving DecidableEq

inductive Write where
  | workspace (id : PgUuid)
  | pack (id : PgUuid) (row : PackRow)
  | parameters (ruleID : PgUuid) (schema : Json Literal)
  | settings (workspaceID : PgUuid) (row : SettingsRow)
  | key (workspaceID : PgUuid) (key mutation : String)
  | audit (row : AuditRow)

-- An INSERT without ON CONFLICT writes where there is no row.
def apply : Write → Db → Db
  | .workspace id, d => { d with workspaces := fun i => if i = id then true else d.workspaces i }
  | .pack id row, d => { d with packs := fun i => if i = id then some ((d.packs i).getD row) else d.packs i }
  | .parameters ruleID schema, d =>
    { d with rules := fun i =>
        if i = ruleID then (d.rules i).map ({ · with parametersSchema := schema }) else d.rules i }
  | .settings workspaceID row, d =>
    { d with settings := fun w => if w = workspaceID then some row else d.settings w }
  | .key workspaceID key mutation, d =>
    { d with keys := fun w k => if w = workspaceID ∧ k = key then some mutation else d.keys w k }
  | .audit row, d => { d with audits := d.audits ++ [row] }

end Rows

section Statements

structure FoundRule where
  id : PgUuid
  row : RuleRow
  workspaceID : Option PgUuid
deriving DecidableEq

inductive Op where
  | packExists (packID workspaceID : String)
  | lockRule (ruleID : String)
  | lockSettings (workspaceID : String)
  | selectSettings (workspaceID : String)
  | initSettings (workspaceID : String)
  | claimKey (workspaceID key mutation : String)
  | insertPack (workspaceID name description category : String)
  | upsertSettings (workspaceID : String) (packIDs : List String) (mode : String)
  | updateParameters (parametersSchema ruleID : String)
  | audit (o : Audit.Op)
  | insertWorkspace (id : PgUuid)

abbrev Answer : Op → Type
  | .packExists .. | .claimKey .. => Bool
  | .lockRule _ => Option FoundRule
  | .lockSettings _ | .selectSettings _ | .initSettings _ | .upsertSettings .. => Option SettingsRow
  | .insertPack .. => Option (PgUuid × PackRow)
  | .updateParameters .. => PgUuid × RuleRow
  | .audit o => Audit.Ret o
  | .insertWorkspace _ => Unit

abbrev Ret (o : Op) : Type := Except SqlError (Answer o)

def findRule (d : Db) (id : PgUuid) : Option FoundRule := do
  let row ← d.rules id
  let pack ← d.packs row.packID
  some ⟨id, row, pack.workspaceID⟩

def packCategories : List String := ["security", "cost", "compliance", "environment"]

def policyModes : List String := ["enforced", "audit_only"]

def insertedPack (workspaceID : PgUuid) (name description category : String) : Option PackRow := do
  let name ← varcharIn 128 name
  let description ← textIn description
  if packCategories.contains category then some ⟨some workspaceID, name, description, category, false, true⟩ else none

def insertedSettings (packIDs : List String) (mode : String) : Option SettingsRow := do
  let ids ← packIDs.mapM PgUuid.parse
  if policyModes.contains mode then some ⟨ids, mode⟩ else none

def defaultPacks : List String :=
  ["a0000000-0000-0000-0000-000000000001", "a0000000-0000-0000-0000-000000000002",
    "a0000000-0000-0000-0000-000000000003"]

def defaultSettings : SettingsRow := ⟨defaultPacks.filterMap PgUuid.parse, "enforced"⟩

-- FOR UPDATE locks the rows of both tables of a join.
def locks : Op → Db → Set Key
  | .lockRule ruleID, d =>
    { x | ∃ id ∈ PgUuid.parse ruleID, ∃ found ∈ findRule d id, x = .rule id ∨ x = .pack found.row.packID }
  | .lockSettings workspaceID, d =>
    { x | ∃ w ∈ PgUuid.parse workspaceID, (d.settings w).isSome ∧ x = .settings w }
  | .initSettings workspaceID, _ | .upsertSettings workspaceID _ _, _ => { x | ∃ w ∈ PgUuid.parse workspaceID, x = .settings w }
  | .claimKey workspaceID key _, _ => { x | ∃ w ∈ PgUuid.parse workspaceID, x = .key w key }
  | .updateParameters _ ruleID, _ => { x | ∃ id ∈ PgUuid.parse ruleID, x = .rule id }
  | .audit o, d => { x | ∃ key ∈ Audit.locks o d.audits, x = .chain key }
  | _, _ => ∅

-- Any statement may fail, and does where a value is not of its column or a constraint is violated.
def fails {α : Type} (r : Except SqlError α) (ws : List Write) : Prop := r = .error .other ∧ ws = []

def exec : (o : Op) → Db → Nat → Ret o → List Write → Nat → Prop
  | .packExists packID workspaceID, d, n, r, ws, n' =>
    ((∃ p w, PgUuid.parse packID = some p ∧ PgUuid.parse workspaceID = some w ∧
        r = .ok ((d.packs p).any fun row => row.workspaceID.all (· == w)) ∧ ws = []) ∨ fails r ws) ∧ n' = n
  | .lockRule ruleID, d, n, r, ws, n' =>
    ((∃ id, PgUuid.parse ruleID = some id ∧ r = .ok (findRule d id) ∧ ws = []) ∨ fails r ws) ∧ n' = n
  | .lockSettings workspaceID, d, n, r, ws, n' =>
    ((∃ w, PgUuid.parse workspaceID = some w ∧ r = .ok (d.settings w) ∧ ws = []) ∨ fails r ws) ∧ n' = n
  | .selectSettings workspaceID, d, n, r, ws, n' =>
    ((∃ w, PgUuid.parse workspaceID = some w ∧ r = .ok (d.settings w) ∧ ws = []) ∨ fails r ws) ∧ n' = n
  | .initSettings workspaceID, d, n, r, ws, n' =>
    ((∃ w, PgUuid.parse workspaceID = some w ∧
        ((d.workspaces w = true ∧ r = .ok (some ((d.settings w).getD defaultSettings)) ∧
            ws = [.settings w ((d.settings w).getD defaultSettings)]) ∨
          (d.workspaces w = false ∧ r = .ok none ∧ ws = []))) ∨ fails r ws) ∧ n' = n
  | .claimKey workspaceID key mutation, d, n, r, ws, n' =>
    ((∃ w, PgUuid.parse workspaceID = some w ∧ (textIn key).isSome ∧ d.workspaces w = true ∧
        ((d.keys w key = none ∧ r = .ok true ∧ ws = [.key w key mutation]) ∨
          ((d.keys w key).isSome ∧ r = .ok false ∧ ws = []))) ∨ fails r ws) ∧ n' = n
  | .insertPack workspaceID name description category, d, n, r, ws, n' =>
    ((∃ w, PgUuid.parse workspaceID = some w ∧
        ((∃ id row, insertedPack w name description category = some row ∧ d.workspaces w = true ∧
            d.packs id = none ∧ r = .ok (some (id, row)) ∧ ws = [.pack id row]) ∨
          (d.workspaces w = false ∧ r = .ok none ∧ ws = []))) ∨ fails r ws) ∧ n' = n
  | .upsertSettings workspaceID packIDs mode, d, n, r, ws, n' =>
    ((∃ w, PgUuid.parse workspaceID = some w ∧
        ((∃ row, insertedSettings packIDs mode = some row ∧ d.workspaces w = true ∧ r = .ok (some row) ∧
            ws = [.settings w row]) ∨
          (d.workspaces w = false ∧ r = .ok none ∧ ws = []))) ∨ fails r ws) ∧ n' = n
  | .updateParameters parametersSchema ruleID, d, n, r, ws, n' =>
    ((∃ id schema row, PgUuid.parse ruleID = some id ∧ jsonbIn parametersSchema = some schema ∧
        d.rules id = some row ∧ r = .ok (id, { row with parametersSchema := schema }) ∧
        ws = [.parameters id schema]) ∨ fails r ws) ∧ n' = n
  | .audit o, d, n, r, ws, n' =>
    (∃ a rows, r = .ok a ∧ Audit.exec o d.audits n a rows n' ∧ ws = rows.map .audit) ∨ fails r ws ∧ n' = n
  | .insertWorkspace id, _, n, r, ws, n' => (r = .ok () ∧ ws = [.workspace id] ∨ fails r ws) ∧ n' = n

end Statements

end Provisr.Backend.Policy
