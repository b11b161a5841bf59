import Provisr.Foundation.JsValue

namespace Provisr.Foundation.JsTree

abbrev Properties := List (String × JsTree)

-- A schema together with what becomes of the values it yields: they are values in normal form, it yields them again,
-- those it yields of texts only are the same after a text, and a value comes back from the store and through the
-- schema as it was exactly when the value it was read from is clean.
structure Schema where
  parse : JsTree → Option JsTree
  clean : JsTree → Bool
  textual : Bool
  normal : ∀ {j v}, parse j = some v → Json.Normal id j → Json.Normal id v
  again : ∀ {j v}, parse j = some v → parse v = some v
  plain : textual = true → ∀ {j v}, parse j = some v → wire v = v
  survives : ∀ {j v}, parse j = some v → (Json.storable v = true ∧ parse (wire v) = some v ↔ clean j = true)

section Texts

structure TextRule where
  read : String → Option String
  again : ∀ {s t}, read s = some t → read t = some t
  stored : ∀ {s t}, read s = some t → Json.storableText t = Json.storableText s

namespace TextRule

def checked (test : String → Bool) : TextRule where
  read s := if test s then some s else none
  again run := by
    obtain ⟨holds, ⟨⟩⟩ := Option.ite_none_right_eq_some.mp run
    exact run
  stored run := by
    obtain ⟨holds, ⟨⟩⟩ := Option.ite_none_right_eq_some.mp run
    rfl

def any : TextRule := checked fun _ => true

-- z.string().min(1)
def nonempty : TextRule := checked fun s => decide (1 ≤ JsText.length s)

theorem storableText_trim (s : String) : Json.storableText (JsText.trim s) = Json.storableText s := by
  have dark : JsText.isSpace (Char.ofNat 0) = false := by decide
  have dropped : ∀ cs : List Char, Char.ofNat 0 ∈ cs.dropWhile JsText.isSpace ↔ Char.ofNat 0 ∈ cs := by
    intro cs
    induction cs with
    | nil => simp
    | cons c cs ih =>
      cases space : JsText.isSpace c with
      | false => simp [space]
      | true =>
        have other : Char.ofNat 0 ≠ c := by
          rintro rfl
          rw [dark] at space
          cases space
        simp [space, ih, other]
  have ends : ∀ cs : List Char, Char.ofNat 0 ∈ JsText.trimEnd cs ↔ Char.ofNat 0 ∈ cs := by
    intro cs
    rw [JsText.trimEnd, List.mem_reverse, dropped, List.mem_reverse]
  unfold Json.storableText
  rw [JsText.trim_toList, List.contains_eq_mem, List.contains_eq_mem]
  simp only [ends, JsText.trimStart, dropped]

-- z.string().trim().min(1).max(n)
def trimmed (n : Nat) : TextRule where
  read s :=
    let t := JsText.trim s
    if 1 ≤ JsText.length t ∧ JsText.length t ≤ n then some t else none
  again run := by
    obtain ⟨bounds, ⟨⟩⟩ := Option.ite_none_right_eq_some.mp run
    dsimp only
    rw [JsText.trim_trim, if_pos bounds]
  stored run := by
    obtain ⟨bounds, ⟨⟩⟩ := Option.ite_none_right_eq_some.mp run
    exact storableText_trim _

def parse (r : TextRule) : JsTree → Option JsTree
  | .str s => (r.read s).map Json.str
  | _ => none

def clean : JsTree → Bool
  | .str s => Json.storableText s
  | _ => true

theorem parse_iff {r : TextRule} {j v : JsTree} :
    r.parse j = some v ↔ ∃ s t, j = .str s ∧ r.read s = some t ∧ v = .str t := by
  cases j with
  | str s => simp [parse, eq_comm]
  | _ => simp [parse]

end TextRule

def Schema.text (r : TextRule) : Schema where
  parse := r.parse
  clean := TextRule.clean
  textual := true
  normal run _ := by
    obtain ⟨s, t, rfl, read, rfl⟩ := TextRule.parse_iff.mp run
    trivial
  again run := by
    obtain ⟨s, t, rfl, read, rfl⟩ := TextRule.parse_iff.mp run
    exact TextRule.parse_iff.mpr ⟨t, t, rfl, r.again read, rfl⟩
  plain _ _ _ run := by
    obtain ⟨s, t, rfl, read, rfl⟩ := TextRule.parse_iff.mp run
    rfl
  survives run := by
    obtain ⟨s, t, rfl, read, rfl⟩ := TextRule.parse_iff.mp run
    have again : r.parse (wire (.str t)) = some (.str t) := TextRule.parse_iff.mpr ⟨t, t, rfl, r.again read, rfl⟩
    simp only [again, and_true, Json.storable, TextRule.clean, r.stored read]

end Texts

section Numbers

-- z.number() takes an infinite number, but not NaN.
def parseNumber (test : Float64 → Bool) : JsTree → Option JsTree
  | .num n => if n ≠ .nan ∧ test n = true then some (.num n) else none
  | _ => none

def finiteNumber : JsTree → Bool
  | .num n => n.isFinite
  | _ => true

theorem parseNumber_iff {test : Float64 → Bool} {j v : JsTree} :
    parseNumber test j = some v ↔ ∃ n, j = .num n ∧ v = .num n ∧ n ≠ .nan ∧ test n = true := by
  cases j with
  | num n =>
    simp only [parseNumber, Option.ite_none_right_eq_some, Option.some.injEq, Json.num.injEq]
    constructor
    · rintro ⟨holds, rfl⟩
      exact ⟨n, rfl, rfl, holds⟩
    · rintro ⟨_, rfl, rfl, holds⟩
      exact ⟨holds, rfl⟩
  | _ => simp [parseNumber]

def Schema.number (test : Float64 → Bool) : Schema where
  parse := parseNumber test
  clean := finiteNumber
  textual := false
  normal run _ := by
    obtain ⟨n, rfl, rfl, holds⟩ := parseNumber_iff.mp run
    trivial
  again run := by
    obtain ⟨n, rfl, rfl, holds⟩ := parseNumber_iff.mp run
    exact run
  plain textual := by cases textual
  survives run := by
    obtain ⟨n, rfl, rfl, holds⟩ := parseNumber_iff.mp run
    rw [finiteNumber]
    cases finite : n.isFinite with
    | false => simp [wire_infinite finite, parseNumber]
    | true => simp [wire_num_iff.mpr finite, run, Json.storable]

-- z.coerce.number()
def parseCoerced (j : JsTree) : Option JsTree := if number j = .nan then none else some (.num (number j))

theorem parseCoerced_iff {j v : JsTree} : parseCoerced j = some v ↔ number j ≠ .nan ∧ v = .num (number j) := by
  simp [parseCoerced, eq_comm]

def Schema.coerced : Schema where
  parse := parseCoerced
  clean j := (JsTree.number j).isFinite
  textual := false
  normal run _ := by
    obtain ⟨given, rfl⟩ := parseCoerced_iff.mp run
    trivial
  again run := by
    obtain ⟨given, rfl⟩ := parseCoerced_iff.mp run
    exact parseCoerced_iff.mpr ⟨given, rfl⟩
  plain textual := by cases textual
  survives {j v} run := by
    obtain ⟨given, rfl⟩ := parseCoerced_iff.mp run
    have again : parseCoerced (.num (JsTree.number j)) = some (.num (JsTree.number j)) :=
      parseCoerced_iff.mpr ⟨given, rfl⟩
    cases finite : (JsTree.number j).isFinite with
    | true => simp [wire_num_iff.mpr finite, again, Json.storable]
    | false =>
      -- An infinite number comes back as null, and null is read as 0.
      have zero : parseCoerced .null = some (.num (.finite 0)) := rfl
      have other : Float64.finite 0 ≠ JsTree.number j := fun same => by simp [← same, Float64.isFinite] at finite
      simp [wire_infinite finite, zero, other]

end Numbers

section Leaves

def parseBoolean : JsTree → Option JsTree
  | .bool b => some (.bool b)
  | _ => none

theorem parseBoolean_iff {j v : JsTree} : parseBoolean j = some v ↔ ∃ b, j = .bool b ∧ v = .bool b := by
  cases j <;> simp [parseBoolean, eq_comm]

def Schema.boolean : Schema where
  parse := parseBoolean
  clean _ := true
  textual := true
  normal run _ := by
    obtain ⟨b, rfl, rfl⟩ := parseBoolean_iff.mp run
    trivial
  again run := by
    obtain ⟨b, rfl, rfl⟩ := parseBoolean_iff.mp run
    rfl
  plain _ _ _ run := by
    obtain ⟨b, rfl, rfl⟩ := parseBoolean_iff.mp run
    rfl
  survives run := by
    obtain ⟨b, rfl, rfl⟩ := parseBoolean_iff.mp run
    simp [parseBoolean, Json.storable]

def Schema.unknown : Schema where
  parse := some
  clean j := Json.storable j && Json.allNum Float64.isFinite j
  textual := false
  normal run normal := by
    cases run
    exact normal
  again _ := rfl
  plain textual := by cases textual
  survives run := by
    cases run
    rw [Option.some.injEq, wire_eq_self_iff, Bool.and_eq_true]

end Leaves

section Items

def parseItems (s : Schema) : List JsTree → Option (List JsTree)
  | [] => some []
  | x :: xs => do return (← s.parse x) :: (← parseItems s xs)

theorem parseItems_iff {s : Schema} {xs vs : List JsTree} :
    parseItems s xs = some vs ↔ List.Forall₂ (fun x v => s.parse x = some v) xs vs := by
  induction xs generalizing vs with
  | nil => simp [parseItems, eq_comm]
  | cons x xs ih =>
    simp only [parseItems, Option.bind_eq_bind, Option.bind_eq_some_iff, Option.pure_def, Option.some.injEq,
      List.forall₂_cons_left_iff, ih]
    constructor
    · rintro ⟨v, head, vs, tail, rfl⟩
      exact ⟨v, vs, head, tail, rfl⟩
    · rintro ⟨v, vs, head, tail, rfl⟩
      exact ⟨v, head, vs, tail, rfl⟩

def parseArray (s : Schema) (low : Nat) (high : Option Nat) : JsTree → Option JsTree
  | .arr xs =>
    if low ≤ xs.length ∧ high.all (fun h => decide (xs.length ≤ h)) = true then (parseItems s xs).map Json.arr
    else none
  | _ => none

def cleanItems (s : Schema) : JsTree → Bool
  | .arr xs => xs.all s.clean
  | _ => true

variable {s : Schema} {low : Nat} {high : Option Nat}

theorem parseArray_iff {j v : JsTree} : parseArray s low high j = some v ↔ ∃ xs vs, j = .arr xs ∧ v = .arr vs ∧
    parseItems s xs = some vs ∧ low ≤ xs.length ∧ high.all (fun h => decide (xs.length ≤ h)) = true := by
  cases j with
  | arr xs =>
    simp only [parseArray, Option.ite_none_right_eq_some, Option.map_eq_some_iff]
    constructor
    · rintro ⟨⟨above, below⟩, vs, run, rfl⟩
      exact ⟨xs, vs, rfl, rfl, run, above, below⟩
    · rintro ⟨_, vs, ⟨⟩, rfl, run, above, below⟩
      exact ⟨⟨above, below⟩, vs, run, rfl⟩
  | _ => simp [parseArray]

theorem parseItems_length {xs vs : List JsTree} (run : parseItems s xs = some vs) : vs.length = xs.length :=
  (parseItems_iff.mp run).length_eq.symm

theorem parseItems_again {xs vs : List JsTree} (run : parseItems s xs = some vs) : parseItems s vs = some vs := by
  rw [parseItems_iff] at run ⊢
  induction run with
  | nil => exact .nil
  | cons head tail ih => exact .cons (s.again head) ih

theorem parseItems_normal {xs vs : List JsTree} (run : parseItems s xs = some vs) (normal : Json.NormalItems id xs) :
    Json.NormalItems id vs := by
  rw [parseItems_iff] at run
  induction run with
  | nil => trivial
  | cons head tail ih => exact ⟨s.normal head normal.1, ih normal.2⟩

theorem parseItems_plain (textual : s.textual = true) {xs vs : List JsTree} (run : parseItems s xs = some vs) :
    vs.map wire = vs := by
  rw [parseItems_iff] at run
  induction run with
  | nil => rfl
  | cons head tail ih => rw [List.map_cons, ih, s.plain textual head]

theorem parseItems_survives {xs vs : List JsTree} (run : parseItems s xs = some vs) :
    Json.storableItems vs = true ∧ parseItems s (vs.map wire) = some vs ↔ xs.all s.clean = true := by
  rw [parseItems_iff] at run ⊢
  induction run with
  | nil => simp [Json.storableItems]
  | cons head tail ih =>
    rw [List.all_cons, Bool.and_eq_true, ← ih, ← s.survives head, Json.storableItems, Bool.and_eq_true, List.map_cons,
      List.forall₂_cons]
    tauto

-- z.array(s).min(low).max(high)
def Schema.array (s : Schema) (low : Nat) (high : Option Nat) : Schema where
  parse := parseArray s low high
  clean := cleanItems s
  textual := s.textual
  normal run normal := by
    obtain ⟨xs, vs, rfl, rfl, items, -⟩ := parseArray_iff.mp run
    exact parseItems_normal items normal
  again run := by
    obtain ⟨xs, vs, rfl, rfl, items, bounds⟩ := parseArray_iff.mp run
    refine parseArray_iff.mpr ⟨vs, vs, rfl, rfl, parseItems_again items, ?_⟩
    rwa [parseItems_length items]
  plain textual j v run := by
    obtain ⟨xs, vs, rfl, rfl, items, -⟩ := parseArray_iff.mp run
    rw [wire_arr, parseItems_plain textual items]
  survives run := by
    obtain ⟨xs, vs, rfl, rfl, items, bounds⟩ := parseArray_iff.mp run
    rw [cleanItems, ← parseItems_survives items, Json.storable, wire_arr]
    refine and_congr_right fun _ => ?_
    constructor
    · intro again
      obtain ⟨_, _, ⟨⟩, ⟨⟩, read, -⟩ := parseArray_iff.mp again
      exact read
    · intro read
      refine parseArray_iff.mpr ⟨_, vs, rfl, rfl, read, ?_⟩
      rwa [List.length_map, parseItems_length items]

end Items

section Entries

-- The entries of a record. zod leaves the key __proto__ out of what it yields.
def parseEntries (s : Schema) : Properties → Option Properties
  | [] => some []
  | (k, v) :: fs => do
    let w ← s.parse v
    let rest ← parseEntries s fs
    return if k = "__proto__" then rest else (k, w) :: rest

def parseRecord (s : Schema) : JsTree → Option JsTree
  | .obj fs => (parseEntries s fs).map Json.obj
  | _ => none

def cleanEntries (s : Schema) : JsTree → Bool
  | .obj fs => fs.all fun f => f.1 == "__proto__" || (Json.storableText f.1 && s.clean f.2)
  | _ => true

variable {s : Schema} {k : String} {v : JsTree} {fs out : Properties}

theorem parseEntries_cons : parseEntries s ((k, v) :: fs) = some out ↔ ∃ w rest, s.parse v = some w ∧
    parseEntries s fs = some rest ∧ out = if k = "__proto__" then rest else (k, w) :: rest := by
  simp only [parseEntries, Option.bind_eq_bind, Option.bind_eq_some_iff, Option.pure_def, Option.some.injEq]
  constructor
  · rintro ⟨w, head, rest, tail, rfl⟩
    exact ⟨w, rest, head, tail, rfl⟩
  · rintro ⟨w, rest, head, tail, rfl⟩
    exact ⟨w, head, rest, tail, rfl⟩

theorem parseRecord_iff {j v : JsTree} :
    parseRecord s j = some v ↔ ∃ fs out, j = .obj fs ∧ v = .obj out ∧ parseEntries s fs = some out := by
  cases j with
  | obj fs =>
    rw [parseRecord, Option.map_eq_some_iff]
    constructor
    · rintro ⟨out, run, rfl⟩
      exact ⟨fs, out, rfl, rfl, run⟩
    · rintro ⟨_, out, ⟨⟩, rfl, run⟩
      exact ⟨out, run, rfl⟩
  | _ => simp [parseRecord]

theorem parseEntries_again (run : parseEntries s fs = some out) : parseEntries s out = some out := by
  induction fs generalizing out with
  | nil =>
    cases run
    rfl
  | cons f fs ih =>
    obtain ⟨w, rest, head, tail, rfl⟩ := parseEntries_cons.mp run
    split
    · exact ih tail
    · rename_i other
      exact parseEntries_cons.mpr ⟨w, rest, s.again head, ih tail, by rw [if_neg other]⟩

theorem parseEntries_keys (run : parseEntries s fs = some out) : (out.map Prod.fst).Sublist (fs.map Prod.fst) := by
  induction fs generalizing out with
  | nil =>
    cases run
    exact .slnil
  | cons f fs ih =>
    obtain ⟨w, rest, head, tail, rfl⟩ := parseEntries_cons.mp run
    split
    · exact (ih tail).cons _
    · exact (ih tail).cons_cons _

theorem parseEntries_normal (run : parseEntries s fs = some out) (normal : Json.NormalFields id fs) :
    Json.NormalFields id out := by
  induction fs generalizing out with
  | nil =>
    cases run
    trivial
  | cons f fs ih =>
    obtain ⟨w, rest, head, tail, rfl⟩ := parseEntries_cons.mp run
    split
    · exact ih tail normal.2
    · exact ⟨s.normal head normal.1, ih tail normal.2⟩

theorem parseEntries_plain (textual : s.textual = true) (run : parseEntries s fs = some out) :
    out.map (Prod.map id wire) = out := by
  induction fs generalizing out with
  | nil =>
    cases run
    rfl
  | cons f fs ih =>
    obtain ⟨w, rest, head, tail, rfl⟩ := parseEntries_cons.mp run
    split
    · exact ih tail
    · rw [List.map_cons, ih tail, Prod.map, s.plain textual head]
      rfl

theorem parseEntries_survives (run : parseEntries s fs = some out) :
    Json.storableFields out = true ∧ parseEntries s (out.map (Prod.map id wire)) = some out ↔
      cleanEntries s (.obj fs) = true := by
  rw [cleanEntries]
  induction fs generalizing out with
  | nil =>
    cases run
    simp [Json.storableFields, parseEntries]
  | cons f fs ih =>
    obtain ⟨w, rest, head, tail, rfl⟩ := parseEntries_cons.mp run
    rw [List.all_cons, Bool.and_eq_true, ← ih tail]
    split
    · rename_i proto
      simp [proto]
    · rename_i other
      have again : parseEntries s ((f.1, wire w) :: rest.map (Prod.map id wire)) = some ((f.1, w) :: rest) ↔
          s.parse (wire w) = some w ∧ parseEntries s (rest.map (Prod.map id wire)) = some rest := by
        rw [parseEntries_cons]
        simp only [if_neg other, List.cons.injEq, Prod.mk.injEq, true_and]
        constructor
        · rintro ⟨_, _, first, others, rfl, rfl⟩
          exact ⟨first, others⟩
        · rintro ⟨first, others⟩
          exact ⟨w, rest, first, others, rfl, rfl⟩
      have here : (f.1 == "__proto__" || (Json.storableText f.1 && s.clean f.2)) = true ↔
          Json.storableText f.1 = true ∧ Json.storable w = true ∧ s.parse (wire w) = some w := by
        rw [s.survives head, Bool.or_eq_true, Bool.and_eq_true]
        exact or_iff_right (by simpa using other)
      rw [here, Json.storableFields, Bool.and_eq_true, Bool.and_eq_true, List.map_cons, Prod.map, id, again]
      tauto

-- z.record(s)
def Schema.record (s : Schema) : Schema where
  parse := parseRecord s
  clean := cleanEntries s
  textual := s.textual
  normal run normal := by
    obtain ⟨fs, out, rfl, rfl, entries⟩ := parseRecord_iff.mp run
    refine ⟨?_, parseEntries_normal entries normal.2⟩
    have ordered := List.pairwise_map.mpr normal.1
    exact List.pairwise_map.mp (List.Pairwise.sublist (parseEntries_keys entries) ordered)
  again run := by
    obtain ⟨fs, out, rfl, rfl, entries⟩ := parseRecord_iff.mp run
    exact parseRecord_iff.mpr ⟨out, out, rfl, rfl, parseEntries_again entries⟩
  plain textual j v run := by
    obtain ⟨fs, out, rfl, rfl, entries⟩ := parseRecord_iff.mp run
    rw [wire_obj, parseEntries_plain textual entries]
  survives run := by
    obtain ⟨fs, out, rfl, rfl, entries⟩ := parseRecord_iff.mp run
    rw [← parseEntries_survives entries, Json.storable, wire_obj]
    refine and_congr_right fun _ => ?_
    constructor
    · intro again
      obtain ⟨_, _, ⟨⟩, ⟨⟩, read⟩ := parseRecord_iff.mp again
      exact read
    · intro read
      exact parseRecord_iff.mpr ⟨_, out, rfl, rfl, read⟩

end Entries

section Objects

inductive Presence where
  | required
  | optional
  | default (d : JsTree) (normal : Json.Normal id d)

structure Field where
  key : String
  schema : Schema
  presence : Presence

namespace Field

variable {f : Field} {o r : Option JsTree}

-- A field that is missing yields nothing where it is optional, and else what its default is read as.
def parse (f : Field) : Option JsTree → Option (Option JsTree)
  | some j => (f.schema.parse j).map some
  | none =>
    match f.presence with
    | .required => none
    | .optional => some none
    | .default d _ => (f.schema.parse d).map some

def clean (f : Field) : Option JsTree → Bool
  | some j => f.schema.clean j
  | none =>
    match f.presence with
    | .default d _ => f.schema.clean d
    | _ => true

inductive Reads (f : Field) : Option JsTree → Option JsTree → Prop
  | missing (optional : f.presence = .optional) : Reads f none none
  | given {j v : JsTree} (run : f.schema.parse j = some v) : Reads f (some j) (some v)
  | default {d v : JsTree} {normal : Json.Normal id d} (stated : f.presence = .default d normal)
      (run : f.schema.parse d = some v) : Reads f none (some v)

theorem parse_iff : f.parse o = some r ↔ Reads f o r := by
  constructor
  · intro run
    cases o with
    | some j =>
      obtain ⟨v, read, rfl⟩ := Option.map_eq_some_iff.mp run
      exact .given read
    | none =>
      simp only [parse] at run
      split at run
      · cases run
      · rename_i optional
        cases run
        exact .missing optional
      · rename_i stated
        obtain ⟨v, read, rfl⟩ := Option.map_eq_some_iff.mp run
        exact .default stated read
  · intro reads
    cases reads with
    | missing optional => simp [parse, optional]
    | given run => simp [parse, run]
    | default stated run => simp [parse, stated, run]

theorem parse_again (run : f.parse o = some r) : f.parse r = some r := by
  cases parse_iff.mp run with
  | missing optional => exact run
  | given read | default _ read => exact parse_iff.mpr (.given (f.schema.again read))

theorem parse_normal (run : f.parse o = some r) (normal : ∀ j, o = some j → Json.Normal id j) :
    ∀ v, r = some v → Json.Normal id v := by
  rintro v rfl
  cases parse_iff.mp run with
  | given read => exact f.schema.normal read (normal _ rfl)
  | @default d _ holds _ read => exact f.schema.normal read holds

theorem parse_plain (textual : f.schema.textual = true) (run : f.parse o = some r) : r.map wire = r := by
  cases parse_iff.mp run with
  | missing => rfl
  | given read | default _ read => exact congrArg some (f.schema.plain textual read)

theorem parse_survives (run : f.parse o = some r) :
    (∀ v, r = some v → Json.storable v = true) ∧ f.parse (r.map wire) = some r ↔ f.clean o = true := by
  have given : ∀ {j v : JsTree}, f.schema.parse j = some v →
      ((∀ w, some v = some w → Json.storable w = true) ∧ f.parse (some (wire v)) = some (some v) ↔
        f.schema.clean j = true) := by
    intro j v read
    simp [← f.schema.survives read, parse]
  cases parse_iff.mp run with
  | missing optional => simp [parse, clean, optional]
  | given read => exact given read
  | @default d _ _ stated read =>
    have same : f.clean none = f.schema.clean d := by
      rw [clean, stated]
    rw [same]
    exact given read

end Field

structure Extra where
  key : String
  compute : Properties → Option JsTree
  normal : ∀ {out v}, compute out = some v → Json.NormalFields id out → Json.Normal id v
  stored : ∀ {out v}, compute out = some v → Json.storableFields out = true → Json.storable v = true

-- The shape of an object: whether it takes other keys, what its properties are to meet together, and the properties
-- that are added to them.
structure Shape where
  fields : List Field
  strict : Bool := false
  test : Properties → Bool := fun _ => true
  extras : List Extra := []
  distinct : (fields.map Field.key ++ extras.map Extra.key).Nodup := by decide
  keyed : (fields.map Field.key ++ extras.map Extra.key).all Json.storableText = true := by decide
  closed : strict = true → extras = [] := by simp

def collect (view : String → Option JsTree) : List Field → Option Properties
  | [] => some []
  | f :: fields => do
    let r ← f.parse (view f.key)
    let rest ← collect view fields
    return r.toList.map (Prod.mk f.key) ++ rest

theorem collect_iff {view : String → Option JsTree} {fields : List Field} {out : Properties}
    (distinct : (fields.map Field.key).Nodup) : collect view fields = some out ↔
      (out.map Prod.fst).Sublist (fields.map Field.key) ∧
        ∀ f ∈ fields, f.parse (view f.key) = some (out.lookup f.key) := by
  induction fields generalizing out with
  | nil =>
    simp only [collect, Option.some.injEq, List.map_nil, List.sublist_nil, List.map_eq_nil_iff, List.not_mem_nil,
      false_implies, implies_true, and_true]
    exact eq_comm
  | cons f fields ih =>
    rw [List.map_cons, List.nodup_cons] at distinct
    have absent : ∀ {rest : Properties}, (rest.map Prod.fst).Sublist (fields.map Field.key) →
        rest.lookup f.key = none := by
      intro rest keys
      rw [List.lookup_eq_none_iff]
      intro e mem
      rw [bne_iff_ne]
      intro same
      exact distinct.1 (same ▸ keys.subset (List.mem_map_of_mem mem))
    have others : ∀ (v : JsTree) (rest : Properties), ∀ g ∈ fields,
        ((f.key, v) :: rest).lookup g.key = rest.lookup g.key := by
      intro v rest g mem
      have other : g.key ≠ f.key := fun same => distinct.1 (same ▸ List.mem_map_of_mem mem)
      rw [List.lookup_cons, beq_false_of_ne other]
    simp only [collect, Option.bind_eq_bind, Option.bind_eq_some_iff, Option.pure_def, Option.some.injEq, List.map_cons,
      List.forall_mem_cons]
    constructor
    · rintro ⟨r, head, rest, tail, rfl⟩
      obtain ⟨keys, each⟩ := (ih distinct.2).mp tail
      cases r with
      | none => exact ⟨keys.cons _, by rw [head]; exact congrArg some (absent keys).symm, each⟩
      | some v =>
        refine ⟨keys.cons_cons _, by simpa using head, fun g mem => ?_⟩
        rw [Option.toList_some, List.map_singleton, List.singleton_append, others v rest g mem]
        exact each g mem
    · rintro ⟨keys, head, each⟩
      cases out with
      | nil => exact ⟨none, head, [], (ih distinct.2).mpr ⟨List.nil_sublist _, each⟩, rfl⟩
      | cons e rest =>
        obtain ⟨k, v⟩ := e
        rw [List.map_cons] at keys
        cases keys with
        | cons _ below =>
          have under : (((k, v) :: rest).map Prod.fst).Sublist (fields.map Field.key) := below
          exact ⟨none, by rw [head, absent under], _, (ih distinct.2).mpr ⟨under, each⟩, rfl⟩
        | cons_cons _ below =>
          refine ⟨some v, by simpa using head, rest, (ih distinct.2).mpr ⟨below, fun g mem => ?_⟩, rfl⟩
          rw [each g mem, others v rest g mem]

namespace Shape

variable {s : Shape} {fs out : Properties} {k : String} {v : JsTree}

def keys (s : Shape) : List String := s.fields.map Field.key

def added (s : Shape) (out : Properties) : Properties :=
  s.extras.filterMap fun e => (e.compute out).map (Prod.mk e.key)

def yield (s : Shape) (out : Properties) : Properties := Json.sortFields id (out ++ s.added out)

-- z.object({...}), strict where it says so, refined by its test and transformed by its extras.
def parse (s : Shape) : JsTree → Option JsTree
  | .obj fs =>
    if s.strict = true ∧ fs.any (fun f => !s.keys.contains f.1) = true then none
    else do
      let out ← collect (fun k => fs.lookup k) s.fields
      if s.test out = true then some (.obj (s.yield out)) else none
  | _ => none

def clean (s : Shape) : JsTree → Bool
  | .obj fs => s.fields.all fun f => f.clean (fs.lookup f.key)
  | _ => true

structure Reads (s : Shape) (view : String → Option JsTree) (out : Properties) : Prop where
  keys : (out.map Prod.fst).Sublist s.keys
  each : ∀ f ∈ s.fields, f.parse (view f.key) = some (out.lookup f.key)

theorem keys_nodup (s : Shape) : s.keys.Nodup := (List.nodup_append.mp s.distinct).1

theorem collect_iff_reads {view : String → Option JsTree} : collect view s.fields = some out ↔ s.Reads view out :=
  (collect_iff s.keys_nodup).trans ⟨fun h => ⟨h.1, h.2⟩, fun h => ⟨h.keys, h.each⟩⟩

theorem mem_added {e : String × JsTree} :
    e ∈ s.added out ↔ ∃ x ∈ s.extras, x.compute out = some e.2 ∧ x.key = e.1 := by
  unfold added
  simp only [List.mem_filterMap, Option.map_eq_some_iff]
  constructor
  · rintro ⟨x, mem, w, computed, rfl⟩
    exact ⟨x, mem, computed, rfl⟩
  · rintro ⟨x, mem, computed, same⟩
    exact ⟨x, mem, e.2, computed, by rw [same]⟩

theorem added_keys (s : Shape) (out : Properties) :
    ((s.added out).map Prod.fst).Sublist (s.extras.map Extra.key) := by
  unfold added
  induction s.extras with
  | nil => simp
  | cons x extras ih =>
    cases computed : x.compute out with
    | none => simpa [computed] using ih.cons _
    | some v => simpa [computed] using ih

theorem Reads.nodup {view : String → Option JsTree} (reads : s.Reads view out) :
    ((out ++ s.added out).map Prod.fst).Nodup := by
  rw [List.map_append]
  exact s.distinct.sublist (reads.keys.append (s.added_keys out))

theorem Reads.lookup_yield {view : String → Option JsTree} (reads : s.Reads view out) (mem : k ∈ s.keys) :
    (s.yield out).lookup k = out.lookup k := by
  have absent : (s.added out).lookup k = none := by
    rw [List.lookup_eq_none_iff]
    intro e inside
    rw [bne_iff_ne]
    rintro rfl
    have extra := (s.added_keys out).subset (List.mem_map_of_mem inside)
    exact (List.nodup_append.mp s.distinct).2.2 _ mem _ extra rfl
  rw [yield, Json.lookup_sortFields Function.injective_id, Json.lookup_reverse reads.nodup, List.lookup_append, absent,
    Option.or_none]

theorem Reads.mem_yield {view : String → Option JsTree} (reads : s.Reads view out) {e : String × JsTree} :
    e ∈ s.yield out ↔ e ∈ out ∨ e ∈ s.added out := by
  rw [yield, Json.mem_sortFields_iff Function.injective_id reads.nodup, List.mem_append]

theorem parse_iff {j : JsTree} : s.parse j = some v ↔ ∃ fs out, j = .obj fs ∧ v = .obj (s.yield out) ∧
    ¬ (s.strict = true ∧ fs.any (fun f => !s.keys.contains f.1) = true) ∧ s.Reads (fun k => fs.lookup k) out ∧
      s.test out = true := by
  cases j with
  | obj fs =>
    simp only [parse, Option.ite_none_left_eq_some, Option.bind_eq_bind, Option.bind_eq_some_iff,
      Option.ite_none_right_eq_some, Option.some.injEq, collect_iff_reads]
    constructor
    · rintro ⟨known, out, reads, holds, rfl⟩
      exact ⟨fs, out, rfl, rfl, known, reads, holds⟩
    · rintro ⟨_, out, ⟨⟩, rfl, known, reads, holds⟩
      exact ⟨known, out, reads, holds, rfl⟩
  | _ => simp [parse]

theorem Reads.closed {view : String → Option JsTree} (reads : s.Reads view out) :
    ¬ (s.strict = true ∧ (s.yield out).any (fun f => !s.keys.contains f.1) = true) := by
  rintro ⟨strict, unknown⟩
  obtain ⟨e, mem, other⟩ := List.any_eq_true.mp unknown
  have none_added : s.added out = [] := by
    rw [added, s.closed strict]
    rfl
  rw [reads.mem_yield, none_added] at mem
  have inside := reads.keys.subset (List.mem_map_of_mem (mem.resolve_right List.not_mem_nil))
  simp [inside] at other

theorem Reads.again {view : String → Option JsTree} (reads : s.Reads view out) :
    s.Reads (fun k => (s.yield out).lookup k) out := by
  refine ⟨reads.keys, fun f mem => ?_⟩
  rw [reads.lookup_yield (List.mem_map_of_mem mem)]
  exact f.parse_again (reads.each f mem)

theorem Reads.field {view : String → Option JsTree} (reads : s.Reads view out) {e : String × JsTree} (mem : e ∈ out) :
    ∃ f ∈ s.fields, f.key = e.1 ∧ f.parse (view f.key) = some (some e.2) := by
  obtain ⟨f, inside, same⟩ := List.mem_map.mp (reads.keys.subset (List.mem_map_of_mem mem))
  have nodup : (out.map Prod.fst).Nodup := s.keys_nodup.sublist reads.keys
  refine ⟨f, inside, same, ?_⟩
  rw [reads.each f inside, same, (Json.lookup_eq_some_iff nodup).mpr mem]

theorem Reads.normal (reads : s.Reads (fun k => fs.lookup k) out) (normal : Json.NormalFields id fs) :
    Json.Normal id (.obj (s.yield out)) := by
  have read : Json.NormalFields id out := by
    refine Json.normalFields_iff.mpr fun e mem => ?_
    obtain ⟨f, -, -, run⟩ := reads.field mem
    exact f.parse_normal run (fun j found => Json.normalFields_iff.mp normal _ (Json.mem_of_lookup found)) _ rfl
  refine ⟨Json.ordered_sortFields Function.injective_id _, Json.normalFields_iff.mpr fun e mem => ?_⟩
  rcases reads.mem_yield.mp mem with mem | mem
  · exact Json.normalFields_iff.mp read e mem
  · obtain ⟨x, -, computed, -⟩ := mem_added.mp mem
    exact x.normal computed read

theorem Reads.plain (textual : ∀ f ∈ s.fields, f.schema.textual = true) (simple : s.extras = [])
    (reads : s.Reads (fun k => fs.lookup k) out) : wire (.obj (s.yield out)) = .obj (s.yield out) := by
  have none_added : s.added out = [] := by
    rw [added, simple]
    rfl
  have each : ∀ e ∈ s.yield out, Prod.map id wire e = e := by
    intro e mem
    rw [reads.mem_yield, none_added] at mem
    obtain ⟨f, inside, -, run⟩ := reads.field (mem.resolve_right List.not_mem_nil)
    have same := Option.some.inj (f.parse_plain (textual f inside) run)
    rw [Prod.map, same]
    rfl
  rw [wire_obj, List.map_congr_left each, List.map_id']

theorem Reads.storable_iff (reads : s.Reads (fun k => fs.lookup k) out) :
    Json.storable (.obj (s.yield out)) = true ↔
      ∀ f ∈ s.fields, ∀ v, out.lookup f.key = some v → Json.storable v = true := by
  rw [Json.storable, Json.storableFields_iff]
  have keyed := List.all_eq_true.mp s.keyed
  constructor
  · intro all f mem v found
    exact (all (f.key, v) (reads.mem_yield.mpr (.inl (Json.mem_of_lookup found)))).2
  · intro each
    have nodup : (out.map Prod.fst).Nodup := s.keys_nodup.sublist reads.keys
    have read : ∀ e ∈ out, Json.storableText e.1 = true ∧ Json.storable e.2 = true := by
      intro e mem
      obtain ⟨f, inside, same, -⟩ := reads.field mem
      refine ⟨keyed _ (List.mem_append_left _ (same ▸ List.mem_map_of_mem inside)), each f inside e.2 ?_⟩
      rw [same]
      exact (Json.lookup_eq_some_iff nodup).mpr mem
    intro e mem
    rcases reads.mem_yield.mp mem with mem | mem
    · exact read e mem
    · obtain ⟨x, inside, computed, same⟩ := mem_added.mp mem
      exact ⟨keyed _ (List.mem_append_right _ (same ▸ List.mem_map_of_mem inside)),
        x.stored computed (Json.storableFields_iff.mpr read)⟩

theorem Reads.rereads_iff (reads : s.Reads (fun k => fs.lookup k) out) (holds : s.test out = true) :
    s.parse (wire (.obj (s.yield out))) = some (.obj (s.yield out)) ↔
      ∀ f ∈ s.fields, f.parse ((out.lookup f.key).map wire) = some (out.lookup f.key) := by
  have view : ∀ f ∈ s.fields, ((s.yield out).map (Prod.map id wire)).lookup f.key = (out.lookup f.key).map wire := by
    intro f mem
    rw [Json.lookup_map, reads.lookup_yield (List.mem_map_of_mem mem)]
  rw [wire_obj, parse_iff]
  constructor
  · rintro ⟨_, out', ⟨⟩, same, -, reads', -⟩ f mem
    have again := reads'.each f mem
    rwa [view f mem, ← reads'.lookup_yield (List.mem_map_of_mem mem), ← Json.obj.inj same,
      reads.lookup_yield (List.mem_map_of_mem mem)] at again
  · intro each
    refine ⟨_, out, rfl, rfl, ?_, ⟨reads.keys, fun f mem => ?_⟩, holds⟩
    · rw [List.any_map]
      exact reads.closed
    · rw [view f mem]
      exact each f mem

end Shape

def Schema.object (s : Shape) : Schema where
  parse := s.parse
  clean := s.clean
  textual := s.fields.all (fun f => f.schema.textual) && s.extras.isEmpty
  normal run normal := by
    obtain ⟨fs, out, rfl, rfl, -, reads, -⟩ := Shape.parse_iff.mp run
    exact reads.normal normal.2
  again run := by
    obtain ⟨fs, out, rfl, rfl, -, reads, holds⟩ := Shape.parse_iff.mp run
    exact Shape.parse_iff.mpr ⟨_, out, rfl, rfl, reads.closed, reads.again, holds⟩
  plain textual j v run := by
    obtain ⟨fs, out, rfl, rfl, -, reads, -⟩ := Shape.parse_iff.mp run
    rw [Bool.and_eq_true, List.all_eq_true, List.isEmpty_iff] at textual
    exact reads.plain textual.1 textual.2
  survives run := by
    obtain ⟨fs, out, rfl, rfl, -, reads, holds⟩ := Shape.parse_iff.mp run
    rw [reads.storable_iff, reads.rereads_iff holds, Shape.clean, List.all_eq_true, ← forall₂_and]
    exact forall₂_congr fun f mem => Field.parse_survives (reads.each f mem)

theorem Shape.apart {a b : Shape} {f : Field} (mem : f ∈ a.fields) (required : f.presence = .required)
    (foreign : f.key ∉ b.keys) (simple : b.extras = []) {j v : JsTree} (run : b.parse j = some v) :
    a.parse v = none := by
  obtain ⟨fs, out, rfl, rfl, -, reads, -⟩ := parse_iff.mp run
  refine Option.eq_none_iff_forall_ne_some.mpr fun w read => ?_
  obtain ⟨_, out', ⟨⟩, -, -, reads', -⟩ := parse_iff.mp read
  have missing : (b.yield out).lookup f.key = none := by
    rw [List.lookup_eq_none_iff]
    intro e inside
    have none_added : b.added out = [] := by
      rw [added, simple]
      rfl
    rw [reads.mem_yield, none_added] at inside
    have known := reads.keys.subset (List.mem_map_of_mem (inside.resolve_right List.not_mem_nil))
    rw [bne_iff_ne]
    intro same
    exact foreign (same ▸ known)
  have read := reads'.each f mem
  rw [missing, Field.parse, required] at read
  cases read

end Objects

section Unions

def parseUnion (a b : Schema) (j : JsTree) : Option JsTree := (a.parse j).or (b.parse j)

theorem parseUnion_iff {a b : Schema} {j v : JsTree} :
    parseUnion a b j = some v ↔ a.parse j = some v ∨ a.parse j = none ∧ b.parse j = some v := by
  unfold parseUnion
  cases a.parse j <;> simp

-- z.union([a, b]), where what b yields is nothing to a, and neither reads a number.
def Schema.union (a b : Schema) (texts : (a.textual && b.textual) = true)
    (apart : ∀ {j v}, b.parse j = some v → a.parse v = none) : Schema where
  parse := parseUnion a b
  clean j := if (a.parse j).isSome then a.clean j else b.clean j
  textual := true
  normal run normal := by
    rcases parseUnion_iff.mp run with first | ⟨-, second⟩
    · exact a.normal first normal
    · exact b.normal second normal
  again run := by
    rcases parseUnion_iff.mp run with first | ⟨-, second⟩
    · exact parseUnion_iff.mpr (.inl (a.again first))
    · exact parseUnion_iff.mpr (.inr ⟨apart second, b.again second⟩)
  plain _ j v run := by
    rw [Bool.and_eq_true] at texts
    rcases parseUnion_iff.mp run with first | ⟨-, second⟩
    · exact a.plain texts.1 first
    · exact b.plain texts.2 second
  survives run := by
    rw [Bool.and_eq_true] at texts
    rcases parseUnion_iff.mp run with first | ⟨other, second⟩
    · have same := a.plain texts.1 first
      rw [if_pos (by simp [first]), ← a.survives first, same, a.again first, parseUnion_iff, a.again first]
      simp
    · have same := b.plain texts.2 second
      rw [if_neg (by simp [other]), ← b.survives second, same, b.again second, parseUnion_iff, apart second,
        b.again second]
      simp

end Unions

end Provisr.Foundation.JsTree
