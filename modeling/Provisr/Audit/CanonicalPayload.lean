import Provisr.Audit.TamperEvidence
import Provisr.Foundation.JsonEquality
import Provisr.Foundation.StableSort

namespace Provisr.Audit

open Provisr.Foundation Provisr.Foundation.Json

section Steps

-- Object.entries(value).sort: strings are compared by their code units.
def sortEntries (entries : JsFields) : JsFields := sortStable (fun f => f.1.toList.flatMap utf16) entries

-- Object.fromEntries: an object lists its array indices first, and the other keys in the order in which they came.
def fromEntries (entries : JsFields) : JsFields := sortStable (fun f => arrayIndex f.1) entries

mutual

def canonical : JsJson → JsJson
  | .arr items => .arr (canonicalItems items)
  | .obj fields => .obj (fromEntries (sortEntries (canonicalFields fields)))
  | .null => .null
  | .bool b => .bool b
  | .num n => .num n
  | .str s => .str s

def canonicalItems : List JsJson → List JsJson
  | [] => []
  | x :: xs => canonical x :: canonicalItems xs

def canonicalFields : JsFields → JsFields
  | [] => []
  | (k, v) :: fs => (k, canonical v) :: canonicalFields fs

end

mutual

def Unrepeated : JsJson → Prop
  | .arr items => UnrepeatedItems items
  | .obj fields => (fields.map Prod.fst).Nodup ∧ UnrepeatedFields fields
  | _ => True

def UnrepeatedItems : List JsJson → Prop
  | [] => True
  | x :: xs => Unrepeated x ∧ UnrepeatedItems xs

def UnrepeatedFields : JsFields → Prop
  | [] => True
  | (_, v) :: fs => Unrepeated v ∧ UnrepeatedFields fs

end

theorem fromEntries_perm (fields : JsFields) : (fromEntries (sortEntries fields)).Perm fields :=
  (sortStable_perm _ _).trans (sortStable_perm _ _)

theorem utf16_injective {c d : Char} {cs ds : List Nat} (h : utf16 c ++ cs = utf16 d ++ ds) : c = d ∧ cs = ds := by
  have small : ∀ e : Char, e.toNat < 0xD800 ∨ 0xDFFF < e.toNat ∧ e.toNat < 0x110000 := fun e => e.valid
  have hc := small c
  have hd := small d
  unfold utf16 at h
  split at h <;> split at h <;>
    simp only [List.cons_append, List.nil_append, List.cons.injEq] at h
  · exact ⟨Char.toNat_inj.mp h.1, h.2⟩
  · omega
  · omega
  · obtain ⟨high, low, rest⟩ := h
    exact ⟨Char.toNat_inj.mp (by omega), rest⟩

theorem utf16_cancel {cs ds : List Char} (h : cs.flatMap utf16 = ds.flatMap utf16) : cs = ds := by
  have never : ∀ (c : Char) (rest : List Nat), utf16 c ++ rest ≠ [] := by
    intro c rest
    unfold utf16
    split <;> simp
  induction cs generalizing ds with
  | nil =>
    cases ds with
    | nil => rfl
    | cons d ds => exact absurd h.symm (never d _)
  | cons c cs ih =>
    cases ds with
    | nil => exact absurd h (never c _)
    | cons d ds =>
      obtain ⟨rfl, rest⟩ := utf16_injective h
      rw [ih rest]

theorem ordered_fromEntries {fields : JsFields} (nodup : (fields.map Prod.fst).Nodup) :
    Ordered keyRank (fromEntries (sortEntries fields)) := by
  have sorted := sortStable_lex (fun f : String × JsJson => arrayIndex f.1) (fun f => f.1.toList.flatMap utf16)
    (sortStable_pairwise (fun f : String × JsJson => f.1.toList.flatMap utf16) fields)
  have distinct : ((fromEntries (sortEntries fields)).map Prod.fst).Nodup :=
    ((fromEntries_perm fields).map Prod.fst).nodup_iff.mpr nodup
  refine (sorted.and (List.pairwise_map.mp distinct)).imp fun {f g} h => ?_
  obtain ⟨before, apart⟩ := h
  rw [keyRank, keyRank, Prod.Lex.toLex_lt_toLex, Prod.Lex.toLex_lt_toLex]
  refine before.imp_right fun tie => ⟨tie.1, .inl (lt_of_le_of_ne tie.2 fun same => apart ?_)⟩
  exact String.toList_inj.mp (utf16_cancel same)

theorem fromEntries_eq {fields : JsFields} (nodup : (fields.map Prod.fst).Nodup) :
    fromEntries (sortEntries fields) = sortFields keyRank fields := by
  refine (ordered_fromEntries nodup).ext (ordered_sortFields keyRank_injective fields) fun k => ?_
  have distinct : ((fromEntries (sortEntries fields)).map Prod.fst).Nodup :=
    ((fromEntries_perm fields).map Prod.fst).nodup_iff.mpr nodup
  rw [lookup_sortFields keyRank_injective, lookup_reverse nodup]
  refine Option.ext fun v => ?_
  rw [lookup_eq_some_iff distinct, lookup_eq_some_iff nodup]
  exact (fromEntries_perm fields).mem_iff

theorem canonicalFields_keys (fields : JsFields) : (canonicalFields fields).map Prod.fst = fields.map Prod.fst := by
  induction fields with
  | nil => rfl
  | cons f fs ih =>
    obtain ⟨k, v⟩ := f
    rw [canonicalFields, List.map_cons, List.map_cons, ih]

mutual

theorem canonical_eq : ∀ j : JsJson, Unrepeated j → canonical j = Json.normalize keyRank j
  | .null, _ | .bool _, _ | .num _, _ | .str _, _ => by simp [canonical, Json.normalize]
  | .arr items, h => by rw [canonical, Json.normalize, canonicalItems_eq items h]
  | .obj fields, h => by
    have nodup : ((canonicalFields fields).map Prod.fst).Nodup := (canonicalFields_keys fields).symm ▸ h.1
    rw [canonical, Json.normalize, fromEntries_eq nodup, canonicalFields_eq fields h.2]

theorem canonicalItems_eq : ∀ xs : List JsJson, UnrepeatedItems xs → canonicalItems xs = normalizeItems keyRank xs
  | [], _ => rfl
  | x :: xs, h => by rw [canonicalItems, normalizeItems, canonical_eq x h.1, canonicalItems_eq xs h.2]

theorem canonicalFields_eq : ∀ fs : JsFields, UnrepeatedFields fs → canonicalFields fs = normalizeFields keyRank fs
  | [], _ => rfl
  | (k, v) :: fs, h => by rw [canonicalFields, normalizeFields, canonical_eq v h.1, canonicalFields_eq fs h.2]

end

end Steps

-- Equal payloads are hashed alike, and different ones are told apart.
theorem audit_payload_canonical (a b : JsJson) :
    (Same a b → serializeAuditPayload a = serializeAuditPayload b) ∧
      (¬ Same a b → serializeAuditPayload a ≠ serializeAuditPayload b) := by
  refine ⟨fun same => ?_, fun different text => different ?_⟩
  · rw [serializeAuditPayload, serializeAuditPayload, same.normalize keyRank_injective]
  · exact (same_iff_normalize keyRank_injective).mpr (stringify_injective text)

end Provisr.Audit
