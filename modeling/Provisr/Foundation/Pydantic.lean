import Provisr.Foundation.PyValue
import Provisr.Foundation.JsText
import Mathlib.Data.List.Nodup
import Mathlib.Tactic.Common

namespace Provisr.Foundation

-- How pydantic reads a value as one of another type. Only that a value of the type itself is read
-- as what it is, is relied on.
class Pydantic where
  bool : PyValue → Option Bool
  int : PyValue → Option Int
  float : PyValue → Option PyFloat
  strictFloat : PyValue → Option PyFloat
  str : PyValue → Option String
  uuid : PyValue → Option String
  items : PyValue → Option (List PyValue)
  fields : PyValue → Option PyFields
  literalBool : PyValue → Option Bool
  literalInt : PyValue → Option Int
  literalStr : PyValue → Option String
  bool_self : ∀ b, bool (.bool b) = some b
  int_self : ∀ n, int (.int n) = some n
  float_self : ∀ x, float (.float x) = some x
  strictFloat_self : ∀ v x, strictFloat v = some x → strictFloat (.float x) = some x
  str_self : ∀ s, str (.str s) = some s
  uuid_self : ∀ v s, uuid v = some s → uuid (.str s) = some s
  items_list : ∀ xs, items (.list xs) = some xs
  fields_dict : ∀ fs, fields (.dict fs) = some fs
  literalBool_self : ∀ b, literalBool (.bool b) = some b
  literalInt_self : ∀ n, literalInt (.int n) = some n
  literalStr_self : ∀ s, literalStr (.str s) = some s

abbrev plainPydantic : Pydantic where
  bool
    | .bool b => some b
    | _ => none
  int
    | .int n => some n
    | _ => none
  float
    | .float x => some x
    | _ => none
  strictFloat
    | .float x => some x
    | _ => none
  str
    | .str s => some s
    | _ => none
  uuid
    | .str s => if JsText.isUuid s && s.toList.all (fun c => c.toLower == c) then some s else none
    | _ => none
  items
    | .list xs => some xs
    | _ => none
  fields
    | .dict fs => some fs
    | _ => none
  literalBool
    | .bool b => some b
    | _ => none
  literalInt
    | .int n => some n
    | _ => none
  literalStr
    | .str s => some s
    | _ => none
  bool_self _ := rfl
  int_self _ := rfl
  float_self _ := rfl
  strictFloat_self _ _ _ := rfl
  str_self _ := rfl
  uuid_self v s run := by
    cases v with
    | str t =>
      simp only at run ⊢
      split at run
      · rename_i holds
        obtain rfl := Option.some.inj run
        exact if_pos holds
      · cases run
    | _ => cases run
  items_list _ := rfl
  fields_dict _ := rfl
  literalBool_self _ := rfl
  literalInt_self _ := rfl
  literalStr_self _ := rfl

abbrev Such {α : Type} (test : α → Bool) := {a : α // test a = true}

def Such.of {α : Type} (test : α → Bool) (a : α) : Option (Such test) :=
  if h : test a = true then some ⟨a, h⟩ else none

theorem Such.of_eq_some {α : Type} {test : α → Bool} {a : α} {b : Such test} : Such.of test a = some b ↔ a = b.val := by
  unfold Such.of
  split
  · rename_i holds
    simp only [Option.some.injEq]
    exact Subtype.ext_iff
  · rename_i fails
    simp only [reduceCtorEq, false_iff]
    rintro rfl
    exact fails b.property

-- A type that is validated and dumped: what it has accepted, it accepts again from its own dump.
structure Codec (α : Type) where
  validate : PyValue → Option α
  dump : α → PyValue
  again : ∀ v a, validate v = some a → validate (dump a) = some a

structure Fields (α : Type) where
  names : List String
  read : PyFields → Option α
  write : α → PyFields
  keys : ∀ a, (write a).map Prod.fst = names
  again : ∀ fs a gs, read fs = some a → (∀ k ∈ names, gs.lookup k = (write a).lookup k) → read gs = some a

namespace Codec

variable {α β : Type}

def refine (test : α → Bool) (c : Codec α) : Codec (Such test) where
  validate v := (c.validate v).bind (Such.of test)
  dump b := c.dump b.val
  again v b run := by
    obtain ⟨a, read, holds⟩ := Option.bind_eq_some_iff.mp run
    rw [Such.of_eq_some] at holds
    rw [c.again v b.val (holds ▸ read), Option.bind_some, Such.of_eq_some]

theorem refine_self {c : Codec α} {test : α → Bool} {v : PyValue} {a : α} (read : c.validate v = some a)
    (holds : test a = true) : (c.refine test).validate v = some ⟨a, holds⟩ :=
  Option.bind_eq_some_iff.mpr ⟨a, read, Such.of_eq_some.mpr rfl⟩

def before (test : PyValue → Bool) (c : Codec α) (passes : ∀ a, test (c.dump a) = true) : Codec α where
  validate v := if test v then c.validate v else none
  dump := c.dump
  again v a run := by
    rw [if_pos (passes a)]
    split at run
    · exact c.again v a run
    · cases run

def iso (pack : α → β) (unpack : β → α) (inverse : ∀ a, unpack (pack a) = a) (c : Codec α) : Codec β where
  validate v := (c.validate v).map pack
  dump b := c.dump (unpack b)
  again v b run := by
    obtain ⟨a, read, rfl⟩ := Option.map_eq_some_iff.mp run
    rw [inverse, c.again v a read]
    rfl

-- strict=True
def strictStr : Codec String where
  validate
    | .str s => some s
    | _ => none
  dump := .str
  again _ _ _ := rfl

def strictInt : Codec Int where
  validate
    | .int n => some n
    | _ => none
  dump := .int
  again _ _ _ := rfl

-- X | None
def optional (c : Codec α) (some_ : ∀ a, c.dump a ≠ .none) : Codec (Option α) where
  validate
    | .none => some none
    | v => (c.validate v).map some
  dump
    | none => .none
    | some a => c.dump a
  again v a run := by
    cases a with
    | none => rfl
    | some a =>
      have read : c.validate (c.dump a) = some a := by
        split at run
        · cases run
        · obtain ⟨b, read, same⟩ := Option.map_eq_some_iff.mp run
          cases same
          exact c.again _ _ read
      split
      · rename_i none
        exact absurd none (some_ a)
      · rw [read]
        rfl

theorem mapM_again (c : Codec α) {vs : List PyValue} {as : List α} (run : vs.mapM c.validate = some as) :
    (as.map c.dump).mapM c.validate = some as := by
  induction vs generalizing as with
  | nil =>
    cases run
    rfl
  | cons v vs ih =>
    rw [List.mapM_cons] at run
    obtain ⟨a, head, run⟩ := Option.bind_eq_some_iff.mp run
    obtain ⟨rest, tail, same⟩ := Option.bind_eq_some_iff.mp run
    cases same
    rw [List.map_cons, List.mapM_cons, c.again v a head, ih tail]
    rfl

def strictList (c : Codec α) : Codec (List α) where
  validate
    | .list vs => vs.mapM c.validate
    | _ => none
  dump as := .list (as.map c.dump)
  again v as run := by
    split at run
    · exact c.mapM_again run
    · cases run

def entry (c : Codec α) (e : String × PyValue) : Option (String × α) := (c.validate e.2).map fun a => (e.1, a)

theorem entries_again (c : Codec α) {fs : PyFields} {es : List (String × α)} (run : fs.mapM c.entry = some es) :
    (es.map fun e => (e.1, c.dump e.2)).mapM c.entry = some es := by
  induction fs generalizing es with
  | nil =>
    cases run
    rfl
  | cons f fs ih =>
    rw [List.mapM_cons] at run
    obtain ⟨e, head, run⟩ := Option.bind_eq_some_iff.mp run
    obtain ⟨rest, tail, same⟩ := Option.bind_eq_some_iff.mp run
    cases same
    obtain ⟨a, read, rfl⟩ := Option.map_eq_some_iff.mp head
    have again : c.entry (f.1, c.dump a) = some (f.1, a) := by
      unfold entry
      rw [c.again f.2 a read]
      rfl
    rw [List.map_cons, List.mapM_cons, again, ih tail]
    rfl

def strictDict (c : Codec α) : Codec (List (String × α)) where
  validate
    | .dict fs => fs.mapM c.entry
    | _ => none
  dump es := .dict (es.map fun e => (e.1, c.dump e.2))
  again v es run := by
    split at run
    · exact c.entries_again run
    · cases run

section Lax

variable [Pydantic]

def bool : Codec Bool := ⟨Pydantic.bool, .bool, fun _ b _ => Pydantic.bool_self b⟩

def int : Codec Int := ⟨Pydantic.int, .int, fun _ n _ => Pydantic.int_self n⟩

def float : Codec PyFloat := ⟨Pydantic.float, .float, fun _ x _ => Pydantic.float_self x⟩

def strictFloat : Codec PyFloat := ⟨Pydantic.strictFloat, .float, Pydantic.strictFloat_self⟩

def str : Codec String := ⟨Pydantic.str, .str, fun _ s _ => Pydantic.str_self s⟩

def uuid : Codec String := ⟨Pydantic.uuid, .str, Pydantic.uuid_self⟩

-- Literal[...] of texts that stand for the values of an enumeration
def literal (values : List (String × α)) (label : α → String)
    (faithful : ∀ p ∈ values, values.lookup (label p.2) = some p.2) : Codec α where
  validate v := (Pydantic.literalStr v).bind fun s => values.lookup s
  dump a := .str (label a)
  again v a run := by
    obtain ⟨s, -, found⟩ := Option.bind_eq_some_iff.mp run
    obtain ⟨before, after, same, -⟩ := List.lookup_eq_some_iff.mp found
    rw [Pydantic.literalStr_self]
    exact faithful (s, a) (by simp [same])

theorem literal_self {values : List (String × α)} {label : α → String}
    {faithful : ∀ p ∈ values, values.lookup (label p.2) = some p.2} {a : α} (listed : values.lookup (label a) = some a) :
    (literal values label faithful).validate (.str (label a)) = some a :=
  Option.bind_eq_some_iff.mpr ⟨label a, Pydantic.literalStr_self _, listed⟩

def literalInt (values : List Int) : Codec (Such values.contains) :=
  refine values.contains ⟨Pydantic.literalInt, .int, fun _ n _ => Pydantic.literalInt_self n⟩

def literalTrue : Codec Unit where
  validate v := (Pydantic.literalBool v).bind fun b => if b then some () else none
  dump _ := .bool true
  again _ _ _ := by
    rw [Pydantic.literalBool_self]
    rfl

def list (c : Codec α) : Codec (List α) where
  validate v := (Pydantic.items v).bind fun vs => vs.mapM c.validate
  dump as := .list (as.map c.dump)
  again v as run := by
    obtain ⟨vs, -, read⟩ := Option.bind_eq_some_iff.mp run
    rw [Pydantic.items_list]
    exact c.mapM_again read

-- dict[str, X]
def dict (c : Codec α) : Codec (List (String × α)) where
  validate v := (Pydantic.fields v).bind fun fs => fs.mapM c.entry
  dump es := .dict (es.map fun e => (e.1, c.dump e.2))
  again v es run := by
    obtain ⟨fs, -, read⟩ := Option.bind_eq_some_iff.mp run
    rw [Pydantic.fields_dict]
    exact c.entries_again read

theorem list_self {c : Codec α} {as : List α} (each : ∀ a ∈ as, c.validate (c.dump a) = some a) :
    (list c).validate (.list (as.map c.dump)) = some as := by
  refine Option.bind_eq_some_iff.mpr ⟨_, Pydantic.items_list _, ?_⟩
  induction as with
  | nil => rfl
  | cons a as ih =>
    rw [List.map_cons, List.mapM_cons, each a List.mem_cons_self, ih fun b mem => each b (List.mem_cons_of_mem _ mem)]
    rfl

theorem dict_self {c : Codec α} : (dict c).validate (.dict []) = some [] :=
  Option.bind_eq_some_iff.mpr ⟨[], Pydantic.fields_dict [], rfl⟩

-- extra="forbid"
def model (fs : Fields α) : Codec α where
  validate v := (Pydantic.fields v).bind fun given =>
    if given.all fun f => fs.names.contains f.1 then fs.read given else none
  dump a := .dict (fs.write a)
  again v a run := by
    obtain ⟨given, -, run⟩ := Option.bind_eq_some_iff.mp run
    have known : ((fs.write a).all fun f => fs.names.contains f.1) = true := by
      refine List.all_eq_true.mpr fun f mem => List.contains_iff_mem.mpr ?_
      rw [← fs.keys a]
      exact List.mem_map_of_mem mem
    rw [Pydantic.fields_dict, Option.bind_some, if_pos known]
    split at run
    · exact fs.again given a _ run fun _ _ => rfl
    · cases run

end Lax

end Codec

namespace Fields

variable {α β : Type}

def field (name : String) (c : Codec α) : Fields α where
  names := [name]
  read fs := (fs.lookup name).bind c.validate
  write a := [(name, c.dump a)]
  keys _ := rfl
  again fs a gs run same := by
    obtain ⟨v, -, read⟩ := Option.bind_eq_some_iff.mp run
    rw [same name List.mem_cons_self, List.lookup_cons_self]
    exact c.again v a read

-- A default is not validated where it is taken, but it has to pass.
def optional (name : String) (c : Codec α) (default : α) (passes : c.validate (c.dump default) = some default) :
    Fields α where
  names := [name]
  read fs := match fs.lookup name with
    | some v => c.validate v
    | none => some default
  write a := [(name, c.dump a)]
  keys _ := rfl
  again fs a gs run same := by
    rw [same name List.mem_cons_self, List.lookup_cons_self]
    split at run
    · exact c.again _ a run
    · cases run
      exact passes

theorem lookup_left (f : Fields α) (a : α) (gs : PyFields) {k : String} (mem : k ∈ f.names) :
    (f.write a ++ gs).lookup k = (f.write a).lookup k := by
  have some : ((f.write a).lookup k).isSome = true := by
    rw [List.lookup_isSome_iff]
    obtain ⟨e, among, rfl⟩ := List.mem_map.mp ((f.keys a).symm ▸ mem)
    exact ⟨e, among, by simp⟩
  rw [List.lookup_append, Option.or_of_isSome some]

theorem lookup_right (f : Fields α) (a : α) (gs : PyFields) {k : String} (absent : k ∉ f.names) :
    (f.write a ++ gs).lookup k = gs.lookup k := by
  have none : (f.write a).lookup k = none := by
    rw [List.lookup_eq_none_iff]
    intro e among
    rw [bne_iff_ne]
    rintro rfl
    exact absent (by rw [← f.keys a]; exact List.mem_map_of_mem among)
  rw [List.lookup_append, none, Option.none_or]

def and (f : Fields α) (g : Fields β) (apart : (f.names.all fun k => !g.names.contains k) = true := by rfl) :
    Fields (α × β) where
  names := f.names ++ g.names
  read fs := (f.read fs).bind fun a => (g.read fs).map fun b => (a, b)
  write p := f.write p.1 ++ g.write p.2
  keys p := by rw [List.map_append, f.keys, g.keys]
  again fs p gs run same := by
    obtain ⟨a, first, run⟩ := Option.bind_eq_some_iff.mp run
    obtain ⟨b, second, rfl⟩ := Option.map_eq_some_iff.mp run
    have left : f.read gs = some a := f.again fs a gs first fun k mem => by
      rw [same k (List.mem_append_left _ mem), f.lookup_left a _ mem]
    have right : g.read gs = some b := g.again fs b gs second fun k mem => by
      have absent : k ∉ f.names := fun other => by
        have differ := List.all_eq_true.mp apart k other
        simp [mem] at differ
      rw [same k (List.mem_append_right _ mem), f.lookup_right a _ absent]
    rw [left, Option.bind_some, right]
    rfl

def refine (test : α → Bool) (f : Fields α) : Fields (Such test) where
  names := f.names
  read fs := (f.read fs).bind (Such.of test)
  write b := f.write b.val
  keys b := f.keys b.val
  again fs b gs run same := by
    obtain ⟨a, read, holds⟩ := Option.bind_eq_some_iff.mp run
    rw [Such.of_eq_some] at holds
    rw [f.again fs b.val gs (holds ▸ read) same, Option.bind_some, Such.of_eq_some]

def iso (pack : α → β) (unpack : β → α) (inverse : ∀ a, unpack (pack a) = a) (f : Fields α) : Fields β where
  names := f.names
  read fs := (f.read fs).map pack
  write b := f.write (unpack b)
  keys b := f.keys (unpack b)
  again fs b gs run same := by
    obtain ⟨a, read, rfl⟩ := Option.map_eq_some_iff.mp run
    rw [inverse] at same
    rw [f.again fs a gs read same]
    rfl

def Accepts (f : Fields α) (a : α) : Prop := f.read (f.write a) = some a

theorem field_accepts {name : String} {c : Codec α} {a : α} (self : c.validate (c.dump a) = some a) :
    (field name c).Accepts a :=
  Option.bind_eq_some_iff.mpr ⟨c.dump a, List.lookup_cons_self, self⟩

theorem optional_accepts {name : String} {c : Codec α} {d a : α} {passes : c.validate (c.dump d) = some d}
    (self : c.validate (c.dump a) = some a) : (optional name c d passes).Accepts a := by
  have found : [(name, c.dump a)].lookup name = some (c.dump a) := List.lookup_cons_self
  simp only [Accepts, optional, found]
  exact self

theorem and_accepts {f : Fields α} {g : Fields β} {apart : (f.names.all fun k => !g.names.contains k) = true} {a : α}
    {b : β} (left : f.Accepts a) (right : g.Accepts b) : (f.and g apart).Accepts (a, b) := by
  have first : f.read (f.write a ++ g.write b) = some a :=
    f.again _ a _ left fun k mem => f.lookup_left a _ mem
  have second : g.read (f.write a ++ g.write b) = some b := g.again _ b _ right fun k mem => by
    refine f.lookup_right a _ fun other => ?_
    have differ := List.all_eq_true.mp apart k other
    simp [mem] at differ
  exact Option.bind_eq_some_iff.mpr ⟨a, first, Option.map_eq_some_iff.mpr ⟨b, second, rfl⟩⟩

theorem iso_accepts {pack : α → β} {unpack : β → α} {inverse : ∀ a, unpack (pack a) = a} {f : Fields α} {b : β}
    (back : pack (unpack b) = b) (self : f.Accepts (unpack b)) : (f.iso pack unpack inverse).Accepts b :=
  Option.map_eq_some_iff.mpr ⟨unpack b, self, back⟩

theorem refine_accepts {test : α → Bool} {f : Fields α} {b : Such test} (self : f.Accepts b.val) :
    (f.refine test).Accepts b :=
  Option.bind_eq_some_iff.mpr ⟨b.val, self, Such.of_eq_some.mpr rfl⟩

theorem model_accepts [Pydantic] {f : Fields α} {a : α} (self : f.Accepts a) :
    (Codec.model f).validate ((Codec.model f).dump a) = some a := by
  refine Option.bind_eq_some_iff.mpr ⟨_, Pydantic.fields_dict _, ?_⟩
  have known : ((f.write a).all fun e => f.names.contains e.1) = true := by
    refine List.all_eq_true.mpr fun e mem => List.contains_iff_mem.mpr ?_
    rw [← f.keys a]
    exact List.mem_map_of_mem mem
  rw [if_pos known]
  exact self

end Fields

end Provisr.Foundation
