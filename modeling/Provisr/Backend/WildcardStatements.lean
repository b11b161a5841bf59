import Provisr.Backend.PolicyEvaluator
import Provisr.Backend.ApprovalOrder
import Provisr.Foundation.JsonbText

namespace Provisr.Backend.Policy

open Provisr.Foundation

-- What encoding/json makes of a value: of a key given twice, the last value.
inductive Decodes : Json Literal → JsJson → Prop
  | null : Decodes .null .null
  | bool (b : Bool) : Decodes (.bool b) (.bool b)
  | str (s : String) : Decodes (.str s) (.str s)
  | num {l : Literal} {n : JsNumber} (finite : inRange l = true) (value : Float64.magnitude n = float64Of l)
      (sign : n.negative = l.negative ∨ float64Of l = 0) : Decodes (.num l) (.num n)
  | arr {xs : List (Json Literal)} {ys : List JsJson} (length : xs.length = ys.length)
      (items : ∀ (i : Nat) x y, xs[i]? = some x → ys[i]? = some y → Decodes x y) : Decodes (.arr xs) (.arr ys)
  | obj {fs : List (String × Json Literal)} {gs : JsFields} (once : (gs.map Prod.fst).Nodup)
      (keys : ∀ k, (Json.member fs k).isSome = (gs.lookup k).isSome)
      (members : ∀ k v w, Json.member fs k = some v → gs.lookup k = some w → Decodes v w) :
      Decodes (.obj fs) (.obj gs)

section Meaning

variable {ν : Type}

def FullWildcardAction (actions : Json ν) : Prop :=
  ∃ s ∈ ["*", "*:*"], actions = .str s ∨ ∃ items, actions = .arr items ∧ .str s ∈ items

def WildcardStatement (stmt : String → Option (Json ν)) : Prop :=
  ∃ key ∈ ["Action", "Actions", "action", "actions"], ∃ actions,
    stmt key = some actions ∧ FullWildcardAction actions

-- The single object under Statement, or an object of the list.
def FullWildcard (statement : Json Literal) : Prop :=
  ∃ stmt, (statement = .obj stmt ∨ ∃ items, statement = .arr items ∧ .obj stmt ∈ items) ∧
    WildcardStatement (Json.member stmt)

theorem isWildcard_iff {s : String} : isWildcard s = true ↔ s ∈ ["*", "*:*"] := by
  simp [isWildcard]

theorem fullWildcardAction_str {s : String} : FullWildcardAction (.str s : Json ν) ↔ s ∈ ["*", "*:*"] := by
  constructor
  · rintro ⟨t, mem, same | ⟨items, same, -⟩⟩
    · exact Json.str.inj same ▸ mem
    · cases same
  · exact fun mem => ⟨s, mem, .inl rfl⟩

theorem fullWildcardAction_arr {items : List (Json ν)} :
    FullWildcardAction (.arr items) ↔ ∃ s ∈ ["*", "*:*"], .str s ∈ items := by
  constructor
  · rintro ⟨s, mem, same | ⟨items', same, inside⟩⟩
    · cases same
    · exact ⟨s, mem, Json.arr.inj same ▸ inside⟩
  · rintro ⟨s, mem, inside⟩
    exact ⟨s, mem, .inr ⟨items, rfl, inside⟩⟩

theorem actionsContainWildcard_iff (raw : Option (Json ν)) :
    actionsContainWildcard raw = true ↔ ∃ actions, raw = some actions ∧ FullWildcardAction actions := by
  cases raw with
  | none => simp [actionsContainWildcard]
  | some actions =>
    simp only [Option.some.injEq, exists_eq_left']
    cases actions with
    | str s => exact isWildcard_iff.trans fullWildcardAction_str.symm
    | arr items =>
      rw [actionsContainWildcard, List.any_eq_true, fullWildcardAction_arr]
      constructor
      · rintro ⟨x, mem, wild⟩
        cases x with
        | str s => exact ⟨s, isWildcard_iff.mp wild, mem⟩
        | null | bool | num | arr | obj => cases wild
      · rintro ⟨s, wild, mem⟩
        exact ⟨.str s, mem, isWildcard_iff.mpr wild⟩
    | null | bool | num | obj => simp [actionsContainWildcard, FullWildcardAction]

theorem statementHasWildcard_iff (stmt : String → Option (Json ν)) :
    statementHasWildcard stmt = true ↔ WildcardStatement stmt := by
  rw [statementHasWildcard, List.any_eq_true, WildcardStatement]
  exact exists_congr fun key => and_congr_right fun _ => actionsContainWildcard_iff _

theorem rawHasWildcardStatement_iff (v : JsJson) : rawHasWildcardStatement v = true ↔
    ∃ stmt : JsFields, (v = .obj stmt ∨ ∃ items, v = .arr items ∧ .obj stmt ∈ items) ∧
      WildcardStatement fun key => stmt.lookup key := by
  cases v with
  | obj fields => simp [rawHasWildcardStatement, statementHasWildcard_iff]
  | arr items =>
    rw [rawHasWildcardStatement, List.any_eq_true]
    constructor
    · rintro ⟨x, mem, wild⟩
      cases x with
      | obj stmt => exact ⟨stmt, .inr ⟨items, rfl, mem⟩, (statementHasWildcard_iff _).mp wild⟩
      | null | bool | num | str | arr => cases wild
    · rintro ⟨stmt, same | ⟨items', same, mem⟩, wild⟩
      · cases same
      · exact ⟨.obj stmt, Json.arr.inj same ▸ mem, (statementHasWildcard_iff _).mpr wild⟩
  | null | bool | num | str => simp [rawHasWildcardStatement]

end Meaning

section Decoding

variable {raw x : Json Literal} {v y : JsJson}

theorem forall_items {xs : List (Json Literal)} {ys : List JsJson} (length : xs.length = ys.length)
    (items : ∀ (i : Nat) x y, xs[i]? = some x → ys[i]? = some y → Decodes x y) :
    (∀ x ∈ xs, ∃ y ∈ ys, Decodes x y) ∧ ∀ y ∈ ys, ∃ x ∈ xs, Decodes x y := by
  constructor
  · intro x mem
    obtain ⟨i, bound, rfl⟩ := List.getElem_of_mem mem
    exact ⟨ys[i], List.getElem_mem _, items i _ _ (List.getElem?_eq_getElem bound)
      (List.getElem?_eq_getElem (length ▸ bound))⟩
  · intro y mem
    obtain ⟨i, bound, rfl⟩ := List.getElem_of_mem mem
    exact ⟨xs[i], List.getElem_mem _, items i _ _ (List.getElem?_eq_getElem (length.symm ▸ bound))
      (List.getElem?_eq_getElem bound)⟩

theorem Decodes.action (h : Decodes x y) : FullWildcardAction x ↔ FullWildcardAction y := by
  cases h with
  | str s => rw [fullWildcardAction_str, fullWildcardAction_str]
  | arr length items =>
    rw [fullWildcardAction_arr, fullWildcardAction_arr]
    obtain ⟨forth, back⟩ := forall_items length items
    refine exists_congr fun s => and_congr_right fun _ => ⟨fun mem => ?_, fun mem => ?_⟩
    · obtain ⟨y, mem', decoded⟩ := forth _ mem
      cases decoded
      exact mem'
    · obtain ⟨x, mem', decoded⟩ := back _ mem
      cases decoded
      exact mem'
  | null | bool | num | obj => simp [FullWildcardAction]

theorem Decodes.statement {fs : List (String × Json Literal)} {gs : JsFields} (h : Decodes (.obj fs) (.obj gs)) :
    WildcardStatement (Json.member fs) ↔ WildcardStatement fun key => gs.lookup key := by
  cases h with
  | obj once keys members =>
    refine exists_congr fun key => and_congr_right fun _ => ?_
    have both := keys key
    constructor
    · rintro ⟨actions, found, wild⟩
      rw [found] at both
      obtain ⟨w, found'⟩ := Option.isSome_iff_exists.mp both.symm
      exact ⟨w, found', (members key _ _ found found').action.mp wild⟩
    · rintro ⟨actions, found, wild⟩
      rw [show gs.lookup key = some actions from found] at both
      obtain ⟨w, found'⟩ := Option.isSome_iff_exists.mp both
      exact ⟨w, found', (members key _ _ found' found).action.mpr wild⟩

theorem Decodes.rawHasWildcardStatement (h : Decodes raw v) :
    rawHasWildcardStatement v = true ↔ FullWildcard raw := by
  rw [rawHasWildcardStatement_iff, FullWildcard]
  cases h with
  | obj once keys members =>
    have here := (Decodes.obj once keys members).statement
    simpa using here.symm
  | arr length items =>
    obtain ⟨forth, back⟩ := forall_items length items
    constructor
    · rintro ⟨stmt, same | ⟨items', same, mem⟩, wild⟩
      · cases same
      · obtain ⟨x, mem', decoded⟩ := back _ (Json.arr.inj same ▸ mem)
        cases decoded with
        | obj once keys members =>
          exact ⟨_, .inr ⟨_, rfl, mem'⟩, (Decodes.obj once keys members).statement.mpr wild⟩
    · rintro ⟨stmt, same | ⟨items', same, mem⟩, wild⟩
      · cases same
      · obtain ⟨y, mem', decoded⟩ := forth _ (Json.arr.inj same ▸ mem)
        cases decoded with
        | obj once keys members =>
          exact ⟨_, .inr ⟨_, rfl, mem'⟩, (Decodes.obj once keys members).statement.mp wild⟩
  | null | bool | num | str => simp

-- What the typed decoders take: numbers with a float64, and in a list nothing but objects and nulls.
structure Typed (statement : Json Literal) : Prop where
  numbers : decodes statement = true
  objects : ∀ items, statement = .arr items → ∀ x ∈ items, x = .null ∨ ∃ stmt, x = .obj stmt

theorem decodesItems_iff (items : List (Json Literal)) :
    decodesItems items = true ↔ ∀ x ∈ items, decodes x = true := by
  induction items with
  | nil => simp [decodesItems]
  | cons x xs ih => rw [decodesItems, Bool.and_eq_true, ih, List.forall_mem_cons]

theorem decodeItem_isSome : (decodeItem raw).isSome = true ↔
    decodes raw = true ∧ (raw = .null ∨ ∃ stmt, raw = .obj stmt) := by
  cases raw with
  | obj stmt =>
    rw [decodeItem, decodes]
    split
    · rename_i fits
      simp [fits]
    · rename_i exceeds
      simp [exceeds]
  | null => simp [decodeItem, decodes]
  | bool | num | str | arr => simp [decodeItem]

theorem typed_arr {items : List (Json Literal)} :
    Typed (.arr items) ↔ ∀ x ∈ items, (decodeItem x).isSome = true := by
  constructor
  · intro typed x mem
    have numbers := typed.numbers
    rw [decodes, decodesItems_iff] at numbers
    exact decodeItem_isSome.mpr ⟨numbers x mem, typed.objects items rfl x mem⟩
  · intro each
    constructor
    · rw [decodes, decodesItems_iff]
      exact fun x mem => (decodeItem_isSome.mp (each x mem)).1
    · intro items' same x mem
      exact (decodeItem_isSome.mp (each x (Json.arr.inj same ▸ mem))).2

theorem typed_obj {stmt : List (String × Json Literal)} : Typed (.obj stmt) ↔ decodesFields stmt = true :=
  ⟨fun typed => typed.numbers, fun numbers => ⟨numbers, fun _ same => nomatch same⟩⟩

theorem mapM_decodeItem (items : List (Json Literal)) : items.mapM decodeItem =
    if items.all fun x => (decodeItem x).isSome then some (items.map fun x => (decodeItem x).getD []) else none := by
  induction items with
  | nil => rfl
  | cons x xs ih =>
    rw [List.mapM_cons, ih, List.all_cons]
    cases decoded : decodeItem x with
    | none => rfl
    | some stmt => cases xs.all fun x => (decodeItem x).isSome <;> simp [decoded]

theorem wildcard_decodeItem {stmt : List (String × Json Literal)} (h : decodeItem raw = some stmt) :
    WildcardStatement (Json.member stmt) ↔ ∃ own, raw = .obj own ∧ WildcardStatement (Json.member own) := by
  cases raw with
  | obj own =>
    rw [decodeItem] at h
    split at h
    · rw [Option.some.inj h]
      simp
    · cases h
  | null =>
    rw [← Option.some.inj h]
    simp [WildcardStatement, Json.member]
  | bool | num | str | arr => cases h

theorem policyStringHasWildcard_iff {text : String} {doc : Json Literal}
    (read : JsonReader.read (some (Char.ofNat 0xFFFD)) text = some doc) (statement : rawStatement doc = some raw) :
    policyStringHasWildcard text = true ↔ (nesting doc ≤ maxNestingDepth ∧ Typed raw) ∧ FullWildcard raw := by
  unfold policyStringHasWildcard
  rw [read]
  dsimp only
  split
  · rename_i deep
    simp [Nat.not_le.mpr deep]
  rename_i shallow
  rw [and_iff_right (Nat.not_lt.mp shallow), statement]
  dsimp only
  cases raw with
  | arr items =>
    rw [decodeList, mapM_decodeItem, typed_arr]
    split
    · rename_i list found
      split at found
      · rename_i each
        rw [List.all_eq_true] at each
        rw [and_iff_right each, ← Option.some.inj found, List.any_map, List.any_eq_true, FullWildcard]
        constructor
        · rintro ⟨x, mem, wild⟩
          obtain ⟨stmt, decoded⟩ := Option.isSome_iff_exists.mp (each x mem)
          rw [Function.comp_apply, statementHasWildcard_iff, decoded, Option.getD_some,
            wildcard_decodeItem decoded] at wild
          obtain ⟨own, rfl, wild⟩ := wild
          exact ⟨own, .inr ⟨items, rfl, mem⟩, wild⟩
        · rintro ⟨own, same | ⟨items', same, mem⟩, wild⟩
          · cases same
          · have mem' : .obj own ∈ items := Json.arr.inj same ▸ mem
            obtain ⟨stmt, decoded⟩ := Option.isSome_iff_exists.mp (each _ mem')
            refine ⟨_, mem', ?_⟩
            rw [Function.comp_apply, statementHasWildcard_iff, decoded, Option.getD_some,
              wildcard_decodeItem decoded]
            exact ⟨own, rfl, wild⟩
      · cases found
    · rename_i failed
      split at failed
      · cases failed
      · rename_i odd
        refine iff_of_false (by simp [decodeItem]) fun h => odd ?_
        exact List.all_eq_true.mpr h.1
  | obj stmt =>
    rw [typed_obj, show decodeList (.obj stmt) = none from rfl]
    dsimp only
    rw [decodeItem]
    split
    · rename_i fits
      simp [fits, statementHasWildcard_iff, FullWildcard]
    · rename_i exceeds
      simp [exceeds]
  | null => simp [decodeList, FullWildcard]
  | bool | num | str => simp [decodeList, decodeItem, FullWildcard]

end Decoding

section Verdict

variable [GoUnicode] {res : NormalizedResource}

def Denied (res : NormalizedResource) : Prop := checkIAMNoWildcards [res] ≠ []

def NormalizedResource.given (res : NormalizedResource) (key : String) (value : JsJson) : NormalizedResource :=
  { res with properties := (key, value) :: res.properties }

theorem denied_iff (policy : isPolicy (ToLower res.type) = true) (key : String) (value : JsJson) :
    Denied (res.given key value) ↔ hasWildcard ((key, value) :: res.properties) = true := by
  unfold Denied checkIAMNoWildcards iamNoWildcards NormalizedResource.given
  rw [List.flatMap_singleton, policy, Bool.true_and]
  cases hasWildcard ((key, value) :: res.properties) <;> simp

structure Free (properties : JsFields) : Prop where
  statement : ∀ key ∈ ["statement", "Statement"], properties.lookup key = none
  policy : properties.lookup "policy" = none

omit [GoUnicode] in
theorem hasWildcard_statement {properties : JsFields} (free : Free properties) {key : String}
    (name : key ∈ ["statement", "Statement"]) (value : JsJson) :
    hasWildcard ((key, value) :: properties) = rawHasWildcardStatement value := by
  have small := free.statement "statement" (by decide)
  have capital := free.statement "Statement" (by decide)
  have policy := free.policy
  simp only [List.mem_cons, List.not_mem_nil, or_false] at name
  rcases name with rfl | rfl <;> simp [hasWildcard, List.lookup_cons, small, capital, policy]

omit [GoUnicode] in
theorem hasWildcard_policy {properties : JsFields} (free : Free properties) (text : String) :
    hasWildcard (("policy", .str text) :: properties) = policyStringHasWildcard text := by
  have small := free.statement "statement" (by decide)
  have capital := free.statement "Statement" (by decide)
  simp [hasWildcard, List.lookup_cons, small, capital]

-- The structured spellings say what the document says. The raw one says less where the typed decoders refuse it.
theorem wildcard_spellings_iff (policy : isPolicy (ToLower res.type) = true) (free : Free res.properties)
    {text : String} {doc raw : Json Literal}
    (read : JsonReader.read (some (Char.ofNat 0xFFFD)) text = some doc) (statement : rawStatement doc = some raw) :
    ((∀ v, Decodes raw v → ∀ key ∈ ["statement", "Statement"],
        (Denied (res.given key v) ↔ Denied (res.given "policy" (.str text))) ∧
          (Denied (res.given key v) ↔ FullWildcard raw)) ∧
      (Denied (res.given "policy" (.str text)) ↔ FullWildcard raw)) ↔
      (FullWildcard raw → nesting doc ≤ maxNestingDepth ∧ Typed raw) := by
  have given : Denied (res.given "policy" (.str text)) ↔
      (nesting doc ≤ maxNestingDepth ∧ Typed raw) ∧ FullWildcard raw := by
    rw [denied_iff policy, hasWildcard_policy free, policyStringHasWildcard_iff read statement]
  constructor
  · rintro ⟨-, spelled⟩ wild
    exact (given.mp (spelled.mpr wild)).1
  · intro taken
    have spelled : Denied (res.given "policy" (.str text)) ↔ FullWildcard raw :=
      given.trans ⟨fun h => h.2, fun wild => ⟨taken wild, wild⟩⟩
    refine ⟨fun v decoded key name => ?_, spelled⟩
    have structured : Denied (res.given key v) ↔ FullWildcard raw := by
      rw [denied_iff policy, hasWildcard_statement free name, decoded.rawHasWildcardStatement]
    exact ⟨structured.trans spelled.symm, structured⟩

end Verdict

section Note

def noted : NormalizedResource where
  id := "admin"
  type := "aws_iam_policy"
  region := ""
  properties := [("name", .str "admin")]
  tags := []

theorem noted_free : Free noted.properties := ⟨by decide, by decide⟩

def anyAction {ν : Type} : List (String × Json ν) := [("Effect", .str "Allow"), ("Action", .str "*")]

theorem anyAction_wildcard : WildcardStatement (Json.member (anyAction : List (String × Json Literal))) :=
  ⟨"Action", by decide, .str "*", rfl, fullWildcardAction_str.mpr (by decide)⟩

theorem anyAction_decodes : Decodes (.obj anyAction) (.obj anyAction) := by
  refine .obj (by decide) (fun k => ?_) fun k v w hv hw => ?_
  · rw [Json.member, Json.lookup_reverse (by decide)]
    unfold anyAction
    simp only [List.lookup_cons, List.lookup_nil]
    cases k == "Effect" <;> cases k == "Action" <;> rfl
  · rw [Json.member, Json.lookup_reverse (by decide)] at hv
    unfold anyAction at hv hw
    simp only [List.lookup_cons, List.lookup_nil] at hv hw
    cases effect : k == "Effect" <;> cases action : k == "Action" <;> rw [effect] at hv hw <;>
      simp only [action, reduceCtorEq, Option.some.injEq] at hv hw <;> subst hv hw <;> exact .str _

def notedItems : List (Json Literal) := [.str "full access", .obj anyAction]

theorem notedItems_wildcard : FullWildcard (.arr notedItems) :=
  ⟨anyAction, .inr ⟨notedItems, rfl, by simp [notedItems]⟩, anyAction_wildcard⟩

theorem notedItems_decodes : Decodes (.arr notedItems) (.arr [.str "full access", .obj anyAction]) := by
  refine .arr rfl fun i x y hx hy => ?_
  match i with
  | 0 =>
    cases hx
    cases hy
    exact .str _
  | 1 =>
    cases hx
    cases hy
    exact anyAction_decodes
  | i + 2 => cases hx

theorem wildcard_spellings_differ :
    letI := Approval.asciiTables
    ∃ text doc v, JsonReader.read (some (Char.ofNat 0xFFFD)) text = some doc ∧
      rawStatement doc = some (.arr notedItems) ∧ Decodes (.arr notedItems) v ∧ FullWildcard (.arr notedItems) ∧
      Denied (noted.given "Statement" v) ∧ ¬ Denied (noted.given "policy" (.str text)) := by
  let _ := Approval.asciiTables
  have read : JsonReader.read (some (Char.ofNat 0xFFFD)) (Json.jsonbText (.obj [("Statement", .arr notedItems)])) =
      some (.obj [("Statement", .arr notedItems)]) := JsonReader.read_jsonbText _ _
  have statement : rawStatement (.obj [("Statement", .arr notedItems)]) = some (.arr notedItems) := by decide
  have policy : isPolicy (ToLower noted.type) = true := by decide
  refine ⟨_, _, _, read, statement, notedItems_decodes, notedItems_wildcard, ?_, ?_⟩
  · rw [denied_iff policy, hasWildcard_statement noted_free (by decide), notedItems_decodes.rawHasWildcardStatement]
    exact notedItems_wildcard
  · rw [denied_iff policy, hasWildcard_policy noted_free, policyStringHasWildcard_iff read statement]
    rintro ⟨⟨-, typed⟩, -⟩
    rcases typed.objects _ rfl (.str "full access") List.mem_cons_self with same | ⟨stmt, same⟩ <;> cases same

theorem wildcard_spellings_single :
    letI := Approval.asciiTables
    ∃ text, (∀ v, Decodes (.obj anyAction) v → ∀ key ∈ ["statement", "Statement"],
        (Denied (noted.given key v) ↔ Denied (noted.given "policy" (.str text))) ∧
          (Denied (noted.given key v) ↔ FullWildcard (.obj anyAction))) ∧
      (Denied (noted.given "policy" (.str text)) ↔ FullWildcard (.obj anyAction)) := by
  let _ := Approval.asciiTables
  have read : JsonReader.read (some (Char.ofNat 0xFFFD)) (Json.jsonbText (.obj [("Statement", .obj anyAction)])) =
      some (.obj [("Statement", .obj anyAction)]) := JsonReader.read_jsonbText _ _
  have statement : rawStatement (.obj [("Statement", .obj anyAction)]) = some (.obj anyAction) := by decide
  refine ⟨_, (wildcard_spellings_iff (by decide) noted_free read statement).mpr fun _ => ⟨by decide, ?_⟩⟩
  exact typed_obj.mpr rfl

end Note

end Provisr.Backend.Policy
