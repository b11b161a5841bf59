import Provisr.Audit.Writers
import Provisr.Backend.IacArtifact
import Provisr.Backend.Strings
import Provisr.Foundation.JsonbText

namespace Provisr.Backend.Manifest

open Provisr.Foundation
open Provisr.Orchestrator (Platform)
open Provisr.Audit (AuditRow)

-- A row of provisr_manifest.manifests.
structure Row where
  id : String
  runId : String
  version : Nat
  content : Json Literal
  sourceMetadata : JsJson
  createdAt : Nat
  idempotencyKey : Option String
  deriving DecidableEq

structure RunRow where
  workspaceId : String
  requesterId : String
  sessionId : String
  correlationId : String
  state : String
  stateVersion : Nat
  deriving DecidableEq

structure Db where
  role : String → String → Option String
  deleted : String → Bool
  runs : String → Option RunRow
  manifests : List Row
  audits : List AuditRow

inductive Entry where
  | version (runId : String) (version : Nat)
  | key (runId idempotencyKey : String)
  deriving DecidableEq

def entries (row : Row) : List Entry :=
  .version row.runId row.version :: (row.idempotencyKey.map (Entry.key row.runId)).toList

-- Transactions that lock a membership or a workspace together differ in their tags.
inductive Key where
  | membership (workspaceId userId : String) (tag : Nat)
  | workspace (id : String) (tag : Nat)
  | run (id : String)
  | entry (e : Entry)
  | advisory (key : String)
  deriving DecidableEq

inductive Write where
  | role (workspaceId userId : String) (role : Option String)
  | workspace (id : String) (deleted : Bool)
  | run (id : String) (row : RunRow)
  | manifest (row : Row)
  | audit (row : AuditRow)

def apply : Write → Db → Db
  | .role workspaceId userId role, d =>
    { d with role := fun w u => if w = workspaceId ∧ u = userId then role else d.role w u }
  | .workspace id deleted, d => { d with deleted := fun w => if w = id then deleted else d.deleted w }
  | .run id row, d => { d with runs := fun i => if i = id then some row else d.runs i }
  | .manifest row, d => { d with manifests := d.manifests ++ [row] }
  | .audit row, d => { d with audits := d.audits ++ [row] }

section Columns

-- PostgreSQL reads fewer spellings of an id than uuid.Parse.
def uuidIn (s : String) : Option String :=
  (parseUuid s).filter fun _ => s.toList.length != 45 &&
    (s.toList.length != 38 || (s.toList.head? == some Json.openBrace && s.toList.getLast? == some Json.closeBrace))

def textIn (s : String) : Option String := if Json.storableText s then some s else none

-- $n::jsonb
def jsonbIn (content : String) : Option (Json Literal) :=
  (JsonReader.read none content).bind fun j =>
    if j.storable && j.allNum Literal.fits then some (Json.jsonb (Json.mapNum Literal.numeric j)) else none

theorem plainUuid_self {cs : List Char} (h : cs.length = 36) : plainUuid cs = cs := by
  unfold plainUuid
  rw [h]
  rfl

theorem parseUuid_self {s id : String} (h : parseUuid s = some id) : parseUuid id = some id ∧ id.toList.length = 36 := by
  unfold parseUuid at h
  dsimp only at h
  split at h
  · rename_i valid
    obtain ⟨-, uuid⟩ := Bool.and_eq_true_iff.mp valid
    generalize String.ofList (plainUuid s.toList) = text at h uuid
    obtain rfl := Option.some.inj h
    obtain ⟨own, idem, length⟩ := JsText.isUuid_lower uuid
    have ascii : (text.toList.map Char.toLower).all (fun c => decide (c.toNat < 128)) = true := by
      refine List.all_eq_true.mpr fun c mem => decide_eq_true ?_
      rcases JsText.isUuid_chars own c (by rwa [String.toList_ofList]) with rfl | hex
      · decide
      · exact JsText.isHex_ascii hex
    unfold parseUuid
    rw [String.toList_ofList, plainUuid_self length, ascii]
    dsimp only
    rw [own, String.toList_ofList, idem]
    exact ⟨rfl, length⟩
  · cases h

theorem uuidIn_spelled {cs : List Char} (h : spelledUuid cs = true) :
    uuidIn (String.ofList cs) = some (String.ofList cs) := by
  have length : cs.length = 36 := by
    simp only [spelledUuid, Bool.and_eq_true, beq_iff_eq] at h
    exact h.1.1
  simp [uuidIn, parseUuid_spelled h, length]

theorem textIn_ofList {cs : List Char} (h : cs.contains (Char.ofNat 0) = false) :
    textIn (String.ofList cs) = some (String.ofList cs) := by
  rw [textIn, Json.storableText_ofList h, if_pos rfl]

theorem uuidIn_self {s id : String} (h : uuidIn s = some id) : uuidIn id = some id := by
  unfold uuidIn at h ⊢
  obtain ⟨parsed, -⟩ := Option.filter_eq_some_iff.mp h
  obtain ⟨self, length⟩ := parseUuid_self parsed
  rw [self, length]
  rfl

end Columns

section Queries

inductive Query where
  | authorized (workspaceId userId : String)
  | byKey (runId key : String)
  | existing (runId key : String) (content : Option String)
  | owned (runId workspaceId userId : String)
  | snapshot (runId workspaceId : String)
  -- COALESCE(MAX(version), 0) + 1, as the statement that inserts sees it.
  | nextVersion (runId : String)

abbrev Query.Answer : Query → Type
  | .authorized .. | .owned .. => Bool
  | .byKey .. => Option Row
  | .existing .. => Option (Nat × Bool)
  | .snapshot .. => Option RunRow
  | .nextVersion _ => Nat

variable (d : Db)

def mayProvision (role : Option String) : Bool := role == some "admin" || role == some "engineer"

def member (workspaceId userId : String) : Option String :=
  if d.deleted workspaceId then none else d.role workspaceId userId

def findKey (runId key : String) : Option Row :=
  d.manifests.find? fun m => m.runId == runId && m.idempotencyKey == some key

def ownedRun (runId workspaceId userId : String) : Option RunRow :=
  (d.runs runId).filter fun r => r.workspaceId == workspaceId && r.requesterId == userId

def versions (rows : List Row) (runId : String) : List Nat :=
  (rows.filter fun m => m.runId == runId).map Row.version

-- content = $3::jsonb compares numbers by what they are.
def sameJsonb (stored content : Json Literal) : Bool :=
  decide (Json.jsonb (Json.mapNum Literal.value stored) = Json.jsonb (Json.mapNum Literal.value content))

def selectExisting (runId key : String) (content : Option String) : Option (Option (Nat × Bool)) :=
  match content with
  | some content => do
    let content ← jsonbIn content
    some ((findKey d runId key).map fun m => (m.version, sameJsonb m.content content))
  -- No content makes the comparison null, which no bool can hold.
  | none => if (findKey d runId key).isSome then none else some none

-- A statement with a value its column cannot hold fails.
def Query.answer : (q : Query) → Option q.Answer
  | .authorized workspaceId userId => do
    let workspaceId ← uuidIn workspaceId
    let userId ← uuidIn userId
    some (mayProvision (member d workspaceId userId))
  | .byKey runId key => do
    let runId ← uuidIn runId
    let key ← textIn key
    some (findKey d runId key)
  | .existing runId key content => do
    let runId ← uuidIn runId
    let key ← textIn key
    selectExisting d runId key content
  | .owned runId workspaceId userId => do
    let runId ← uuidIn runId
    let workspaceId ← uuidIn workspaceId
    let userId ← uuidIn userId
    some (ownedRun d runId workspaceId userId).isSome
  | .snapshot runId workspaceId => do
    let runId ← uuidIn runId
    let workspaceId ← uuidIn workspaceId
    some ((d.runs runId).filter fun r => r.workspaceId == workspaceId)
  | .nextVersion runId => do
    let runId ← uuidIn runId
    some ((versions d.manifests runId).foldr max 0 + 1)

end Queries

section Statements

structure Insertion where
  runId : String
  version : Nat
  content : Option String
  sourceMetadata : JsJson
  idempotencyKey : Option String

inductive Op where
  | select (q : Query)
  | validator (tool : String)
  | lockMembership (workspaceId userId : String) (tag : Nat)
  | lockRun (runId workspaceId userId : String)
  | advisoryLock (key : String)
  | insert (row : Insertion)
  | audit (o : Audit.Op)
  | write (w : Write)

structure Validation where
  valid : Bool
  errors : List String

abbrev Answer : Op → Type
  | .select q => q.Answer
  | .validator _ => Validation
  | .lockMembership .. => Option String
  | .lockRun .. => Option (String × Nat)
  | .insert _ => Row
  | .audit o => Audit.Ret o
  | .advisoryLock _ | .write _ => Unit

inductive SqlError where
  | uniqueViolation
  | other
  deriving DecidableEq

abbrev Ret (o : Op) : Type := Except SqlError (Answer o)

structure Insertable (row : Insertion) (inserted : Row) (d : Db) : Prop where
  id : JsText.isUuid inserted.id = true ∧ ∀ m ∈ d.manifests, m.id ≠ inserted.id
  run : uuidIn row.runId = some inserted.runId ∧ (d.runs inserted.runId).isSome
  version : inserted.version = row.version ∧ row.version < 2 ^ 31
  content : ∃ text, row.content = some text ∧ jsonbIn text = some inserted.content
  sourceMetadata : inserted.sourceMetadata = Json.jsonb row.sourceMetadata ∧ row.sourceMetadata.storable = true
  idempotencyKey : inserted.idempotencyKey = row.idempotencyKey ∧ ∀ key ∈ row.idempotencyKey, textIn key = some key

def entered (row : Insertion) : List Entry :=
  match uuidIn row.runId with
  | some runId => .version runId row.version :: (row.idempotencyKey.map (Entry.key runId)).toList
  | none => []

def taken (row : Insertion) (d : Db) : Prop := ∃ m ∈ d.manifests, ∃ e ∈ entries m, e ∈ entered row

instance (row : Insertion) (d : Db) : Decidable (taken row d) := List.decidableBEx _ _

-- An insertion waits for another of the same entry. One that fails ends its transaction, or has one of its own.
def locks : Op → Db → Set Key
  | .lockMembership workspaceId userId tag, d => { x | ∃ w u, uuidIn workspaceId = some w ∧ uuidIn userId = some u ∧
      (member d w u).isSome ∧ (x = .membership w u tag ∨ x = .workspace w tag) }
  | .lockRun runId workspaceId userId, d => { x | ∃ r w u, uuidIn runId = some r ∧ uuidIn workspaceId = some w ∧
      uuidIn userId = some u ∧ (ownedRun d r w u).isSome ∧ x = .run r }
  | .advisoryLock key, _ => {.advisory key}
  | .insert row, d => { x | ¬ taken row d ∧ ∃ e ∈ entered row, x = .entry e }
  | .audit o, d => { x | ∃ key ∈ Audit.locks o d.audits, x = .advisory key }
  | .write (.role workspaceId userId _), _ => { x | ∃ tag, x = .membership workspaceId userId tag }
  | .write (.workspace id _), _ => { x | ∃ tag, x = .workspace id tag }
  | .write (.run id _), _ => {.run id}
  | _, _ => ∅

def answers {α : Type} (faults : Bool) (answer : Option α) (r : Except SqlError α) : Prop :=
  (∃ a, answer = some a ∧ r = .ok a) ∨ (faults = true ∨ answer = none) ∧ r = .error .other

theorem answers_ok {α : Type} {faults : Bool} {answer : Option α} {b : α} (h : answers faults answer (.ok b)) :
    answer = some b := by
  obtain ⟨a, answered, h⟩ | ⟨-, h⟩ := h
  · rw [answered, Except.ok.inj h]
  · cases h

def lockedMember (d : Db) (workspaceId userId : String) : Option (Option String) := do
  let workspaceId ← uuidIn workspaceId
  let userId ← uuidIn userId
  some (member d workspaceId userId)

def lockedRun (d : Db) (runId workspaceId userId : String) : Option (Option (String × Nat)) := do
  let runId ← uuidIn runId
  let workspaceId ← uuidIn workspaceId
  let userId ← uuidIn userId
  some ((ownedRun d runId workspaceId userId).map fun r => (r.state, r.stateVersion))

def exec (faults : Bool) : (o : Op) → Db → Nat → Ret o → List Write → Nat → Prop
  | .select q, d, n, r, ws, n' => answers faults (q.answer d) r ∧ ws = [] ∧ n' = n
  | .validator _, _, n, _, ws, n' => ws = [] ∧ n' = n
  | .lockMembership workspaceId userId _, d, n, r, ws, n' =>
    answers faults (lockedMember d workspaceId userId) r ∧ ws = [] ∧ n' = n
  | .lockRun runId workspaceId userId, d, n, r, ws, n' =>
    answers faults (lockedRun d runId workspaceId userId) r ∧ ws = [] ∧ n' = n
  | .advisoryLock _, _, n, r, ws, n' => answers faults (some ()) r ∧ ws = [] ∧ n' = n
  | .insert row, d, n, r, ws, n' =>
    ((∃ inserted, r = .ok inserted ∧ Insertable row inserted d ∧ ¬ taken row d ∧ ws = [.manifest inserted]) ∨
      (r = .error .uniqueViolation ∧ taken row d ∧ ws = []) ∨ r = .error .other ∧ ws = []) ∧ n' = n
  | .audit o, d, n, r, ws, n' =>
    (∃ a rows, r = .ok a ∧ Audit.exec o d.audits n a rows n' ∧ ws = rows.map .audit) ∨
      r = .error .other ∧ ws = [] ∧ n' = n
  | .write w, _, n, r, ws, n' => (r = .ok () ∧ ws = [w] ∨ r = .error .other ∧ ws = []) ∧ n' = n

end Statements

end Provisr.Backend.Manifest
