import Provisr.Backend.DecodedNumbers
import Provisr.Backend.ManifestPrograms
import Provisr.Foundation.GoMap
import Provisr.Foundation.JsonEquality

namespace Provisr.Backend.SourceMetadata

open Provisr.Foundation
open Provisr.Orchestrator (Platform)
open Provisr.Backend.Manifest (decode jsonbIn ComputeContentHash)
open Provisr.Backend.Policy (nesting nestingFields decodes decodesFields inRange maxNestingDepth)

section Programs

abbrev Map := GoMap (Json Literal)

-- sourceMetadata: a map, each value as it marshals, the bytes of a text, or what json.Marshal makes of another value.
inductive Metadata where
  | nil
  | map (m : Map)
  | bytes (b : String)
  | other (marshalled : Option String)

def anyValue (j : Json Literal) : Json Literal := Json.normalize id (rounded j)

-- json.Unmarshal into a map[string]any: the map after it, none for the nil map, and whether there was no error.
def Unmarshal (data : String) (m : Option Map) : Option Map × Bool :=
  match decode data with
  | none => (m, false)
  | some doc =>
    if maxNestingDepth < nesting doc then (m, false)
    else match doc with
      | .null => (none, true)
      | .obj fields => (some (fields.foldl (fun m f => m.set f.1 (anyValue f.2)) (m.getD .empty)), decodesFields fields)
      | _ => (m, false)

def metaMap : Metadata → Option Map
  | .nil => some .empty
  | .map m => some m
  | .bytes b => if b = "" then some .empty else (Unmarshal b (some .empty)).1
  | .other (some b) => (Unmarshal b (some .empty)).1
  | .other none => some .empty

def Marshal (m : Map) : Json Literal := .obj (Json.sortFields id m.entries)

-- none is a panic: an assignment to an entry of the nil map.
def normalizeMetaBytes (sourceMetadata : Metadata) (hash : String) : Option (Json Literal) :=
  (metaMap sourceMetadata).map fun m => Marshal (m.set "content_hash" (.str hash))

def textUnder (key : String) (m : Option Map) : Option String :=
  match m.bind fun m => m.get? key with
  | some (.str h) => if h = "" then none else some h
  | _ => none

variable [Platform]

def extractOrComputeHash (content srcMeta : String) : String :=
  if srcMeta = "" then ComputeContentHash content
  else match Unmarshal srcMeta none with
    | (m, true) => (textUnder "content_hash" m <|> textUnder "hash" m).getD (ComputeContentHash content)
    | (_, false) => ComputeContentHash content

end Programs

section Maps

variable {m : Map} {fields : List (String × Json Literal)} {k : String}

theorem get?_foldl : (fields.foldl (fun m f => m.set f.1 (anyValue f.2)) m).get? k =
    ((Json.member fields k).map anyValue <|> m.get? k) := by
  induction fields generalizing m with
  | nil => rfl
  | cons f fields ih =>
    obtain ⟨l, v⟩ := f
    unfold Json.member at ih ⊢
    rw [List.foldl_cons, ih, GoMap.get?_set, List.reverse_cons, List.lookup_append]
    cases fields.reverse.lookup k with
    | some w => rfl
    | none =>
      by_cases same : k = l
      · simp [same]
      · simp [same, List.lookup_cons, beq_false_of_ne same]

theorem member_sortFields (m : Map) (k : String) : Json.member (Json.sortFields id m.entries) k = m.get? k := by
  unfold Json.member
  rw [Json.lookup_reverse (Json.ordered_sortFields Function.injective_id _).nodup,
    Json.lookup_sortFields Function.injective_id, Json.lookup_reverse m.distinct]
  rfl

theorem member_set (hash : String) (k : String) :
    Json.member (Json.sortFields id (m.set "content_hash" (.str hash)).entries) k =
      if k = "content_hash" then some (.str hash) else m.get? k := by
  rw [member_sortFields, GoMap.get?_set]

end Maps

section Rows

-- $n::jsonb
def column (j : Json Literal) : Option (Json Literal) :=
  if j.storable && j.allNum Literal.fits then some (Json.jsonb (Json.mapNum Literal.numeric j)) else none

variable {fields : List (String × Json Literal)} {row : Json Literal}

-- The values that come back from their column as the decoder takes them.
def ReadsBack (v : Json Literal) : Prop :=
  Json.allNum inRange (Json.jsonb v) = true ∧ nesting (Json.jsonb v) < maxNestingDepth

theorem mapFields_eq_map (f : Literal → Literal) (fields : List (String × Json Literal)) :
    Json.mapFields f fields = fields.map (Prod.map id (Json.mapNum f)) := by
  induction fields with
  | nil => rfl
  | cons g fields ih =>
    obtain ⟨k, v⟩ := g
    rw [Json.mapFields, ih]
    rfl

def rowFields (fields : List (String × Json Literal)) : List (String × Json Literal) :=
  Json.sortFields Json.jsonbRank (Json.normalizeFields Json.jsonbRank (Json.mapFields Literal.numeric fields))

theorem column_obj (stored : column (.obj fields) = some row) : row = .obj (rowFields fields) := by
  unfold column at stored
  split at stored
  · rw [← Option.some.inj stored, Json.mapNum]
    rfl
  · cases stored

theorem rowFields_nodup : ((rowFields fields).map Prod.fst).Nodup :=
  (Json.ordered_sortFields Json.jsonbRank_injective _).nodup

theorem member_rowFields (k : String) : Json.member (rowFields fields) k =
    (Json.member fields k).map fun v => Json.mapNum Literal.numeric (Json.jsonb v) := by
  unfold Json.member
  rw [Json.lookup_reverse rowFields_nodup]
  unfold rowFields
  rw [Json.lookup_normalizeFields Json.jsonbRank_injective]
  unfold Json.member
  rw [mapFields_eq_map, ← List.map_reverse, Json.lookup_map, Option.map_map]
  refine Option.map_congr fun v _ => ?_
  exact Json.jsonb_mapNum v

theorem reads_iff : (decodesFields (rowFields fields) = true ∧ nesting (.obj (rowFields fields)) ≤ maxNestingDepth) ↔
    ∀ k v, Json.member fields k = some v → ReadsBack v := by
  have numbers (v : Json Literal) : Json.allNum inRange (Json.mapNum Literal.numeric (Json.jsonb v)) =
      Json.allNum inRange (Json.jsonb v) := by
    rw [allNum_mapNum]
    exact congrArg (fun p => Json.allNum p (Json.jsonb v)) (funext inRange_numeric)
  have entries (p : Json Literal → Prop) : (∀ f ∈ rowFields fields, p f.2) ↔
      ∀ k v, Json.member fields k = some v → p (Json.mapNum Literal.numeric (Json.jsonb v)) := by
    constructor
    · intro all k v found
      have there : Json.member (rowFields fields) k = some (Json.mapNum Literal.numeric (Json.jsonb v)) := by
        rw [member_rowFields, found]
        rfl
      unfold Json.member at there
      rw [Json.lookup_reverse rowFields_nodup] at there
      exact all _ (Json.mem_of_lookup there)
    · rintro all ⟨k, w⟩ inside
      have there := (Json.lookup_eq_some_iff rowFields_nodup).mpr inside
      rw [← Json.lookup_reverse rowFields_nodup] at there
      obtain ⟨v, found, rfl⟩ := Option.map_eq_some_iff.mp ((member_rowFields k).symm.trans there)
      exact all k v found
  have bound : nesting (.obj (rowFields fields)) ≤ maxNestingDepth ↔
      ∀ f ∈ rowFields fields, nesting f.2 ≤ maxNestingDepth - 1 := by
    rw [← nestingFields_le_iff, nesting]
    unfold maxNestingDepth
    omega
  rw [decodesFields_eq, allFields_iff, bound, entries fun v => Json.allNum inRange v = true,
    entries fun v => nesting v ≤ maxNestingDepth - 1]
  unfold ReadsBack
  simp only [numbers, nesting_mapNum]
  constructor
  · rintro ⟨range, depth⟩ k v found
    have := depth k v found
    exact ⟨range k v found, by unfold maxNestingDepth at this ⊢; omega⟩
  · intro back
    refine ⟨fun k v found => (back k v found).1, fun k v found => ?_⟩
    have := (back k v found).2
    unfold maxNestingDepth at this ⊢
    omega

variable [Platform] {content hash : String}

omit [Platform] in
theorem jsonbText_ne_empty (fields : List (String × Json Literal)) : Json.jsonbText (.obj fields) ≠ "" := by
  intro empty
  have letters := congrArg String.toList empty
  unfold Json.jsonbText at letters
  rw [String.toList_ofList] at letters
  cases letters

theorem extract_iff (hashed : hash ≠ "") (carried : Json.member fields "content_hash" = some (.str hash)) :
    extractOrComputeHash content (Json.jsonbText (.obj (rowFields fields))) = hash ↔
      (∀ k v, Json.member fields k = some v → ReadsBack v) ∨ ComputeContentHash content = hash := by
  rw [← reads_iff]
  unfold extractOrComputeHash Unmarshal decode
  rw [if_neg (jsonbText_ne_empty _), JsonReader.read_jsonbText]
  dsimp only
  by_cases deep : maxNestingDepth < nesting (.obj (rowFields fields))
  · rw [if_pos deep]
    simp [Nat.not_le.mpr deep]
  · rw [if_neg deep]
    cases range : decodesFields (rowFields fields) with
    | false => simp
    | true =>
      have found : textUnder "content_hash" (some ((rowFields fields).foldl (fun m f => m.set f.1 (anyValue f.2))
          ((none : Option Map).getD .empty))) = some hash := by
        unfold textUnder
        rw [Option.bind_some, get?_foldl, member_rowFields, carried]
        simp [anyValue, Json.jsonb, Json.normalize, Json.mapNum, rounded, hashed]
      simp only [found]
      simp [Nat.not_lt.mp deep]

end Rows

section Callers

end Callers

section Safety

variable [Platform]

def entriesOf : Metadata → Option (List (String × Json Literal))
  | .map m => some m.entries
  | .bytes b | .other (some b) => match decode b with
    | some (.obj fields) => some fields
    | _ => none
  | .nil | .other none => none

-- What the stored object is to say of the content and of the metadata that came with it.
structure Carries (content : String) (source : Metadata) (fields : List (String × Json Literal)) : Prop where
  hash : Json.member fields "content_hash" = some (.str (ComputeContentHash content))
  others : ∀ entries, entriesOf source = some entries → ∀ k, k ≠ "content_hash" →
    (Json.member fields k).map Json.denotation = (Json.member entries k).map Json.denotation
  read : ∀ text row, jsonbIn content = some text → column (.obj fields) = some row →
    extractOrComputeHash (Json.jsonbText text) (Json.jsonbText row) = ComputeContentHash content

def Safe (content : String) (source : Metadata) : Prop :=
  ∃ fields, normalizeMetaBytes source (ComputeContentHash content) = some (.obj fields) ∧ Carries content source fields

omit [Platform] in
-- A text that is not null, and an object only of values that keep what they say.
structure Keeps (b : String) : Prop where
  notNull : decode b ≠ some .null
  entries : ∀ fields, decode b = some (.obj fields) → ∀ k v, k ≠ "content_hash" → Json.member fields k = some v →
    nesting (.obj fields) ≤ maxNestingDepth ∧ Json.allNum exact (Json.normalize id v) = true

-- A map whose row reads back, or whose content has kept its hash.
def Restored (content : String) (m : Map) : Prop :=
  ∀ text row, jsonbIn content = some text →
    column (Marshal (m.set "content_hash" (.str (ComputeContentHash content)))) = some row →
      (∀ k v, k ≠ "content_hash" → m.get? k = some v → ReadsBack v) ∨
        ComputeContentHash (Json.jsonbText text) = ComputeContentHash content

def Sound (content : String) : Metadata → Prop
  | .nil | .other none => True
  | .bytes b | .other (some b) => Keeps b
  | .map m => Restored content m

variable {content b : String} {m : Map}

def fieldsOf (m : Map) (hash : String) : List (String × Json Literal) :=
  Json.sortFields id (m.set "content_hash" (.str hash)).entries

omit [Platform] in
theorem readsBack_str (hash : String) : ReadsBack (.str hash) := by
  unfold ReadsBack Json.jsonb
  simp [Json.normalize, Json.allNum, nesting, maxNestingDepth]

theorem read_iff (hashed : ComputeContentHash content ≠ "") {text row : Json Literal}
    (stored : column (.obj (fieldsOf m (ComputeContentHash content))) = some row) :
    extractOrComputeHash (Json.jsonbText text) (Json.jsonbText row) = ComputeContentHash content ↔
      (∀ k v, k ≠ "content_hash" → m.get? k = some v → ReadsBack v) ∨
        ComputeContentHash (Json.jsonbText text) = ComputeContentHash content := by
  obtain rfl := column_obj stored
  rw [extract_iff hashed (by rw [fieldsOf, member_set, if_pos rfl])]
  refine or_congr_left ?_
  unfold fieldsOf
  simp only [member_set]
  constructor
  · intro back k v other found
    exact back k v (by rw [if_neg other, found])
  · intro back k v found
    split at found
    · rw [← Option.some.inj found]
      exact readsBack_str _
    · rename_i other
      exact back k v other found

theorem safe_map (hashed : ComputeContentHash content ≠ "") : Safe content (.map m) ↔ Restored content m := by
  constructor
  · rintro ⟨fields, made, carries⟩ text row content_stored stored
    obtain rfl := Json.obj.inj (Option.some.inj made)
    exact (read_iff hashed stored).mp (carries.read text row content_stored stored)
  · intro restored
    refine ⟨_, rfl, ⟨by rw [member_set, if_pos rfl], ?_, ?_⟩⟩
    · rintro entries same k other
      obtain rfl := Option.some.inj same
      rw [member_set, if_neg other]
      unfold Json.member
      rw [Json.lookup_reverse m.distinct]
      rfl
    · intro text row content_stored stored
      exact (read_iff hashed stored).mpr (restored text row content_stored stored)

theorem safe_empty (hashed : ComputeContentHash content ≠ "") {source : Metadata}
    (left : metaMap source = some .empty) (bare : entriesOf source = none) : Safe content source := by
  refine ⟨fieldsOf .empty (ComputeContentHash content), ?_, ⟨?_, ?_, ?_⟩⟩
  · unfold normalizeMetaBytes
    rw [left]
    rfl
  · rw [fieldsOf, member_set, if_pos rfl]
  · intro entries present
    rw [bare] at present
    cases present
  · intro text row _ stored
    refine (read_iff hashed stored).mpr (.inl fun k v _ found => ?_)
    cases found

omit [Platform] in
theorem anyValue_readsBack {v : Json Literal} {fields : List (String × Json Literal)} {k : String}
    (found : Json.member fields k = some v) (shallow : nesting (.obj fields) ≤ maxNestingDepth) :
    ReadsBack (anyValue v) := by
  have inside : (k, v) ∈ fields := by
    unfold Json.member at found
    exact List.mem_reverse.mp (Json.mem_of_lookup found)
  have below : nesting v ≤ nestingFields fields := nestingFields_le_iff.mp le_rfl (k, v) inside
  have depth : nesting (Json.jsonb (anyValue v)) ≤ nesting v :=
    (nesting_normalize _).trans ((nesting_normalize _).trans (nesting_rounded v).le)
  rw [nesting] at shallow
  exact ⟨allNum_normalize _ (allNum_normalize _ (rounded_inRange v)), by omega⟩

theorem safe_object (hashed : ComputeContentHash content ≠ "") {source : Metadata} {m : Map}
    {fields : List (String × Json Literal)} (left : metaMap source = some m) (present : entriesOf source = some fields)
    (decoded : ∀ k, m.get? k =
      if maxNestingDepth < nesting (.obj fields) then none else (Json.member fields k).map anyValue) :
    Safe content source ↔ ∀ k v, k ≠ "content_hash" → Json.member fields k = some v →
      nesting (.obj fields) ≤ maxNestingDepth ∧ Json.allNum exact (Json.normalize id v) = true := by
  have made : normalizeMetaBytes source (ComputeContentHash content) =
      some (.obj (fieldsOf m (ComputeContentHash content))) := by
    unfold normalizeMetaBytes
    rw [left]
    rfl
  constructor
  · rintro ⟨kept, made', carries⟩ k v other found
    obtain rfl := Json.obj.inj (Option.some.inj (made.symm.trans made'))
    have same := carries.others fields present k other
    rw [fieldsOf, member_set, if_neg other, decoded, found] at same
    split at same
    · cases same
    · rename_i shallow
      exact ⟨Nat.not_lt.mp shallow, (denotation_rounded_iff v).mp (Option.some.inj same)⟩
  · intro keeps
    refine ⟨_, made, ⟨by rw [fieldsOf, member_set, if_pos rfl], ?_, ?_⟩⟩
    · intro entries same k other
      obtain rfl := Option.some.inj (present.symm.trans same)
      rw [fieldsOf, member_set, if_neg other, decoded]
      cases found : Json.member fields k with
      | none => split <;> rfl
      | some v =>
        obtain ⟨shallow, exactly⟩ := keeps k v other found
        rw [if_neg (Nat.not_lt.mpr shallow)]
        exact congrArg some ((denotation_rounded_iff v).mpr exactly)
    · intro text row _ stored
      refine (read_iff hashed stored).mpr (.inl fun k v _ found => ?_)
      rw [decoded] at found
      split at found
      · cases found
      · rename_i shallow
        obtain ⟨w, there, rfl⟩ := Option.map_eq_some_iff.mp found
        exact anyValue_readsBack there (Nat.not_lt.mp shallow)

structure Given (b : String) (source : Metadata) : Prop where
  left : metaMap source = (Unmarshal b (some .empty)).1
  entries : entriesOf source = match decode b with
    | some (.obj fields) => some fields
    | _ => none

theorem safe_text (hashed : ComputeContentHash content ≠ "") {source : Metadata} (given : Given b source) :
    Safe content source ↔ Keeps b := by
  obtain ⟨left, entries⟩ := given
  unfold Unmarshal at left
  cases read : decode b with
  | none =>
    rw [read] at left entries
    refine iff_of_true (safe_empty hashed left entries) ⟨by simp [read], fun fields same => ?_⟩
    rw [read] at same
    cases same
  | some doc =>
    rw [read] at left entries
    cases doc with
    | obj fields =>
      have decoded : ∃ m, metaMap source = some m ∧ ∀ k, m.get? k =
          if maxNestingDepth < nesting (.obj fields) then none else (Json.member fields k).map anyValue := by
        by_cases deep : maxNestingDepth < nesting (.obj fields)
        · simp only [if_pos deep] at left ⊢
          exact ⟨_, left, fun _ => rfl⟩
        · simp only [if_neg deep] at left ⊢
          refine ⟨_, left, fun k => ?_⟩
          rw [get?_foldl]
          cases Json.member fields k <;> rfl
      obtain ⟨m, left, decoded⟩ := decoded
      rw [safe_object hashed left entries decoded]
      constructor
      · intro keeps
        refine ⟨by simp [read], fun fields' same => ?_⟩
        obtain rfl := Json.obj.inj (Option.some.inj (read.symm.trans same))
        exact keeps
      · intro keeps
        exact keeps.entries fields read
    | null =>
      refine iff_of_false ?_ fun keeps => keeps.notNull read
      rintro ⟨fields, made, -⟩
      unfold normalizeMetaBytes at made
      rw [left] at made
      cases made
    | _ =>
      dsimp only at left entries
      rw [ite_self] at left
      refine iff_of_true (safe_empty hashed left entries) ⟨by simp [read], fun fields same => ?_⟩
      rw [read] at same
      cases same

omit [Platform] in
theorem given_bytes (b : String) : Given b (.bytes b) where
  left := by
    change (if b = "" then some .empty else (Unmarshal b (some .empty)).1) = _
    split
    · rename_i empty
      rw [empty]
      rfl
    · rfl
  entries := rfl

theorem normalizeMetaBytes_safe_iff (content : String) (source : Metadata) (hashed : ComputeContentHash content ≠ "") :
    Safe content source ↔ Sound content source := by
  cases source with
  | nil => exact iff_of_true (safe_empty hashed rfl rfl) trivial
  | map m => exact safe_map hashed
  | bytes b => exact safe_text hashed (given_bytes b)
  | other marshalled =>
    cases marshalled with
    | none => exact iff_of_true (safe_empty hashed rfl rfl) trivial
    | some b => exact safe_text hashed ⟨rfl, rfl⟩

@[reducible]
def objectPlatform : Platform :=
  ⟨fun _ => "44136fa355b3678a1146ad16f7e8649e94fb4fc21fe77e8310c060f61caaff8a", fun _ => true⟩

omit [Platform] in
theorem region_safe : letI := objectPlatform
    Safe "\x7b\x7d" (.map ⟨[("region", .str "eu-west-1")], List.nodup_singleton _⟩) := by
  let _ := objectPlatform
  refine (normalizeMetaBytes_safe_iff _ _ (by decide)).mpr ?_
  rintro text row - -
  refine .inl fun k v _ found => ?_
  obtain ⟨-, rfl⟩ := Prod.mk.inj (List.mem_singleton.mp (GoMap.get?_eq_some_iff.mp found))
  exact readsBack_str _

-- The text null.
omit [Platform] in
theorem null_panics : letI := objectPlatform
    normalizeMetaBytes (.bytes (Json.jsonbText .null)) (ComputeContentHash "\x7b\x7d") = none ∧
      ¬ ∀ content source, Safe content source := by
  let _ := objectPlatform
  have read : decode (Json.jsonbText .null) = some .null := JsonReader.read_jsonbText _ .null
  have panics : normalizeMetaBytes (.bytes (Json.jsonbText .null)) (ComputeContentHash "\x7b\x7d") = none := by
    unfold normalizeMetaBytes
    rw [(given_bytes _).left]
    unfold Unmarshal
    rw [read]
    rfl
  refine ⟨panics, fun safe => ?_⟩
  obtain ⟨fields, made, -⟩ := safe "\x7b\x7d" (.bytes (Json.jsonbText .null))
  rw [panics] at made
  cases made

end Safety

end Provisr.Backend.SourceMetadata
