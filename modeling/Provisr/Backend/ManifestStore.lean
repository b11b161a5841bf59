import Provisr.Foundation.JsNumber
import Provisr.Foundation.JsonNormal
import Provisr.Foundation.Versioned
import Provisr.Orchestrator.Database

namespace Provisr.Backend

open Provisr.Foundation
open Provisr.Orchestrator (ManifestRow)

inductive StoreError where
  | invalidIdempotencyKey
  | idempotencyConflict
  | persist
  deriving DecidableEq, Repr

-- unicode.IsSpace
def isSpace (c : Char) : Bool :=
  let n := c.toNat
  (9 ≤ n && n ≤ 13) || n == 32 || n == 0x85 || n == 0xa0 || n == 0x1680 || (0x2000 ≤ n && n ≤ 0x200a) ||
    n == 0x2028 || n == 0x2029 || n == 0x202f || n == 0x205f || n == 0x3000

-- The stored content as PostgreSQL prints it and the new one as `json.dumps` wrote it: both are decoded
-- with their numbers as they are spelled.
def sameManifestContent (stored content : JsJson) : Bool :=
  decide (Json.jsonb (Json.mapNum JsNumber.numericText stored) =
    Json.jsonb (Json.mapNum JsNumber.pythonText content))

-- COALESCE(MAX(version), 0)
def maxVersion (rows : List ManifestRow) (runId : String) : Nat :=
  ((rows.filter fun m => m.runId == runId).map ManifestRow.version).foldr max 0

def findKey (rows : List ManifestRow) (runId key : String) : Option ManifestRow :=
  rows.find? fun m => m.runId == runId && m.idempotencyKey == some key

-- INSERT of the next version of a run, under the unique index on run and key. The id is of type uuid.
def insertVersion (rows : List ManifestRow) (newId runId : String) (key : Option String)
    (content : JsJson) : Option (ManifestRow × List ManifestRow) :=
  if JsText.isUuid newId && content.storable && key.all (fun k => (findKey rows runId k).isNone) then
    let record : ManifestRow := ⟨newId, runId, maxVersion rows runId + 1, Json.jsonb content, key⟩
    some (record, rows ++ [record])
  else none

def storeManifestVersionWithKey (rows : List ManifestRow) (newId runId key : String) (content : JsJson) :
    Except StoreError (ManifestRow × List ManifestRow) :=
  if key.toList.all isSpace || decide (255 < key.utf8ByteSize) then .error .invalidIdempotencyKey
  else match findKey rows runId key with
    | some record =>
      if sameManifestContent record.content content then .ok (record, rows)
      else .error .idempotencyConflict
    | none =>
      match insertVersion rows newId runId (some key) content with
      | some stored => .ok stored
      | none => .error .persist

section Invariant

def ManifestRow.place (m : ManifestRow) : String × Nat := (m.runId, m.version)

-- What the table of manifests keeps to. Its rows are never changed: a trigger rejects it.
structure StoreInvariant (rows : List ManifestRow) : Prop where
  versions : Unique ManifestRow.place rows
  contents : ∀ m ∈ rows, Json.jsonb m.content = m.content
  ids : ∀ m ∈ rows, JsText.isUuid m.id = true

variable {rows rows' : List ManifestRow} {newId runId : String} {key : Option String} {content : JsJson}
  {record : ManifestRow}

theorem StoreInvariant.empty : StoreInvariant [] := ⟨List.nodup_nil, by simp, by simp⟩

theorem le_maxVersion {m : ManifestRow} (hm : m ∈ rows) : m.version ≤ maxVersion rows m.runId := by
  have hmem : m.version ∈ (rows.filter fun x => x.runId == m.runId).map ManifestRow.version :=
    List.mem_map.mpr ⟨m, List.mem_filter.mpr ⟨hm, by simp⟩, rfl⟩
  have bound : ∀ l : List Nat, ∀ n ∈ l, n ≤ l.foldr max 0 := by
    intro l
    induction l with
    | nil => simp
    | cons k l ih =>
      intro n hn
      rw [List.foldr_cons]
      rcases List.mem_cons.mp hn with rfl | hn
      · exact le_max_left _ _
      · exact (ih n hn).trans (le_max_right _ _)
  exact bound _ _ hmem

theorem findKey_some {k : String} (h : findKey rows runId k = some record) :
    record ∈ rows ∧ record.runId = runId ∧ record.idempotencyKey = some k := by
  have hp := List.find?_some h
  simp only [Bool.and_eq_true, beq_iff_eq] at hp
  exact ⟨List.mem_of_find?_eq_some h, hp.1, hp.2⟩

theorem insertVersion_some (h : insertVersion rows newId runId key content = some (record, rows')) :
    record = ⟨newId, runId, maxVersion rows runId + 1, Json.jsonb content, key⟩ ∧
      rows' = rows ++ [record] ∧ JsText.isUuid newId = true := by
  unfold insertVersion at h
  split at h
  · rename_i allowed
    cases h
    simp only [Bool.and_eq_true] at allowed
    exact ⟨rfl, rfl, allowed.1.1⟩
  · cases h

theorem StoreInvariant.insertVersion (inv : StoreInvariant rows)
    (h : insertVersion rows newId runId key content = some (record, rows')) : StoreInvariant rows' := by
  obtain ⟨rfl, rfl, hid⟩ := insertVersion_some h
  refine ⟨inv.versions.append ?_, ?_, ?_⟩
  · intro m hm hplace
    obtain ⟨hrun, hversion⟩ := Prod.mk.inj hplace
    have hle := le_maxVersion hm
    rw [hrun] at hle
    dsimp only at hversion hle
    omega
  · intro m hm
    rcases List.mem_append.mp hm with hm | hm
    · exact inv.contents m hm
    · rw [List.mem_singleton.mp hm]
      exact Json.jsonb_idempotent content
  · intro m hm
    rcases List.mem_append.mp hm with hm | hm
    · exact inv.ids m hm
    · rw [List.mem_singleton.mp hm]
      exact hid

theorem StoreInvariant.sameManifestContent (inv : StoreInvariant rows) (hm : record ∈ rows)
    (h : sameManifestContent record.content content = true) : record.content = Json.jsonb content := by
  have htext := of_decide_eq_true h
  rw [Json.jsonb_mapNum, Json.jsonb_mapNum, inv.contents record hm] at htext
  exact Json.mapNum_injective (fun _ _ => JsNumber.spelled_injective) htext

structure StoredVersion (rows : List ManifestRow) (record : ManifestRow) (runId key : String)
    (content : JsJson) : Prop where
  mem : record ∈ rows
  run : record.runId = runId
  key : record.idempotencyKey = some key
  content : record.content = Json.jsonb content

theorem storeManifestVersionWithKey_ok {k : String} (inv : StoreInvariant rows)
    (h : storeManifestVersionWithKey rows newId runId k content = .ok (record, rows')) :
    StoreInvariant rows' ∧ rows <+: rows' ∧ StoredVersion rows' record runId k content := by
  unfold storeManifestVersionWithKey at h
  split at h
  · cases h
  · split at h
    · rename_i found hfound
      obtain ⟨mem, hrun, hkey⟩ := findKey_some hfound
      split at h
      · rename_i same
        cases h
        exact ⟨inv, List.prefix_refl _, mem, hrun, hkey, inv.sameManifestContent mem same⟩
      · cases h
    · split at h
      · rename_i stored hstored
        cases h
        have inv' := inv.insertVersion hstored
        obtain ⟨hrecord, rfl, -⟩ := insertVersion_some hstored
        refine ⟨inv', List.prefix_append _ _, by simp, ?_, ?_, ?_⟩ <;> rw [hrecord]
      · cases h

end Invariant

end Provisr.Backend
