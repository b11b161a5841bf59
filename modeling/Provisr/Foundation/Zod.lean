import Provisr.Foundation.JsNumber
import Provisr.Foundation.JsText
import Mathlib.Data.List.Forall2

namespace Provisr.Foundation

abbrev JsJson := Json JsNumber

abbrev JsFields := List (String × JsJson)

inductive Nullish (α : Type) where
  | undefined
  | null
  | value (a : α)
  deriving DecidableEq, Repr, Inhabited

namespace Nullish

variable {α : Type}

def toOption : Nullish α → Option α
  | .value a => some a
  | _ => none

def field (k : String) (write : α → JsJson) : Nullish α → JsFields
  | .undefined => []
  | .null => [(k, .null)]
  | .value a => [(k, write a)]

end Nullish

-- Schemas in the manner of zod: a schema reads a property, which may be missing. An issue does not always end the
-- reading: there may still be a value that other checks look at.
namespace Zod

inductive Checked (α : Type) where
  | ok (a : α)
  | dirty (a : α) (issues : List String)
  | aborted (issues : List String)
  deriving DecidableEq

abbrev Schema (α : Type) := Option JsJson → Checked α

variable {α β : Type}

namespace Checked

def value : Checked α → Option α
  | .ok a | .dirty a _ => some a
  | .aborted _ => none

def issues : Checked α → List String
  | .ok _ => []
  | .dirty _ issues | .aborted issues => issues

def bind : Checked α → (α → Checked β) → Checked β
  | .ok a, f => f a
  | .dirty a e, f =>
    match f a with
    | .ok b => .dirty b e
    | .dirty b e' => .dirty b (e ++ e')
    | .aborted e' => .aborted (e ++ e')
  | .aborted e, _ => .aborted e

instance : Monad Checked where
  pure := ok
  bind := bind

def map (f : α → β) : Checked α → Checked β
  | .ok a => .ok (f a)
  | .dirty a e => .dirty (f a) e
  | .aborted e => .aborted e

-- schema.parse
def parsed : Checked α → Except (List String) α
  | .ok a => .ok a
  | .dirty _ e | .aborted e => .error e

def noting (r : Checked α) (codes : List String) : Checked α :=
  match codes, r with
  | [], r => r
  | _, .ok a => .dirty a codes
  | _, .dirty a e => .dirty a (e ++ codes)
  | _, .aborted e => .aborted (e ++ codes)

end Checked

def invalidType : Checked α := .aborted ["invalid_type"]

def both (a : Checked α) (b : Checked β) : Checked (α × β) :=
  match a, b with
  | .ok a, .ok b => .ok (a, b)
  | .ok a, .dirty b e | .dirty a e, .ok b => .dirty (a, b) e
  | .dirty a e, .dirty b e' => .dirty (a, b) (e ++ e')
  | a, b => .aborted (a.issues ++ b.issues)

-- z.union of two schemas: of the readings with issues the first that has a value counts.
def union (a b : Checked α) : Checked α :=
  match a, b with
  | .ok a, _ => .ok a
  | _, .ok b => .ok b
  | .dirty a e, _ | _, .dirty a e => .dirty a e
  | _, _ => .aborted ["invalid_union"]

def string : Schema String
  | some (.str s) => .ok s
  | _ => invalidType

def number : Schema JsNumber
  | some (.num n) => .ok n
  | _ => invalidType

def boolean : Schema Bool
  | some (.bool b) => .ok b
  | _ => invalidType

def unknown : Schema (Option JsJson) := .ok

def record : Schema JsFields
  | some (.obj fields) => .ok fields
  | _ => invalidType

-- A check looks at a value, whether there are issues or not.
def check (test : α → Bool) (code : String) (s : Schema α) : Schema α := fun j =>
  (s j).noting (if (s j).value.all test then [] else [code])

def map (f : α → β) (s : Schema α) : Schema β := fun j => (s j).map f

def trimmed (s : Schema String) : Schema String := map JsText.trim s

def min (n : Nat) (s : Schema String) : Schema String :=
  check (fun t => decide (n ≤ JsText.length t)) "too_small" s

def max (n : Nat) (s : Schema String) : Schema String :=
  check (fun t => decide (JsText.length t ≤ n)) "too_big" s

def regex (test : String → Bool) (s : Schema String) : Schema String :=
  check test "invalid_string" s

def uuid : Schema String := regex JsText.isUuid string

def integer : Schema JsNumber := check JsNumber.isInteger "invalid_type" number

def nonnegative (s : Schema JsNumber) : Schema JsNumber := check (fun n => !n.negative) "too_small" s

-- z.number().int().min(low).max(high)
def natural (low : Nat) (high : Option Nat) : Schema Nat :=
  map (fun n => n.toNat?.getD 0)
    (check (fun n => high.all n.atMost) "too_big"
      (check (fun n => n.atLeast low) "too_small" integer))

def enum (values : List (String × α)) : Schema α
  | some (.str s) =>
    match values.lookup s with
    | some a => .ok a
    | none => .aborted ["invalid_enum_value"]
  | _ => invalidType

def literal (j : JsJson) : Schema Unit := fun k => if k = some j then .ok () else .aborted ["invalid_literal"]

def elements (s : Schema α) : List JsJson → Checked (List α)
  | [] => .ok []
  | x :: xs => (both (s (some x)) (elements s xs)).map fun p => p.1 :: p.2

def lengthIssues (low : Nat) (high : Option Nat) (items : List JsJson) : List String :=
  (if items.length < low then ["too_small"] else []) ++
    if high.any fun n => decide (n < items.length) then ["too_big"] else []

-- z.array(s).min(low).max(high): the length is looked at before the elements.
def arrayOf (low : Nat) (high : Option Nat) (s : Schema α) : Schema (List α)
  | some (.arr items) => (both (Checked.noting (.ok ()) (lengthIssues low high items)) (elements s items)).map Prod.snd
  | _ => invalidType

def array (s : Schema α) : Schema (List α) := arrayOf 0 none s

def recordWith (s : Schema α) : Schema JsFields := fun j => do
  let fields ← record j
  let _ ← elements s (fields.map Prod.snd)
  return fields

def optional (s : Schema α) : Schema (Option α)
  | none => .ok none
  | some j => (s (some j)).map some

def nullable (s : Schema α) : Schema (Option α)
  | some .null => .ok none
  | j => (s j).map some

def nullish (s : Schema α) : Schema (Nullish α)
  | none => .ok .undefined
  | some .null => .ok .null
  | some j => (s (some j)).map .value

def withDefault (d : α) (s : Schema α) : Schema α
  | none => .ok d
  | some j => s (some j)

def object (s : JsFields → Checked α) : Schema α
  | some (.obj fields) => s fields
  | _ => invalidType

-- z.object({...}).strict(): `known` are the keys of the shape.
def strict (known : List String) (s : JsFields → Checked α) : Schema α
  | some (.obj fields) =>
    (s fields).noting (if fields.all fun f => known.contains f.1 then [] else ["unrecognized_keys"])
  | _ => invalidType

@[simp]
theorem bind_ok_iff {r : Checked α} {f : α → Checked β} {b : β} : r >>= f = .ok b ↔ ∃ a, r = .ok a ∧ f a = .ok b := by
  change r.bind f = .ok b ↔ _
  cases r with
  | ok a => simp [Checked.bind]
  | dirty a e => cases h : f a <;> simp [Checked.bind, h]
  | aborted e => simp [Checked.bind]

@[simp]
theorem pure_ok_iff {a b : α} : (pure a : Checked α) = .ok b ↔ a = b := by
  change Checked.ok a = .ok b ↔ a = b
  rw [Checked.ok.injEq]

@[simp]
theorem checkedMap_ok_iff {r : Checked α} {f : α → β} {b : β} : r.map f = .ok b ↔ ∃ a, r = .ok a ∧ f a = b := by
  cases r <;> simp [Checked.map]

@[simp]
theorem parsed_ok_iff {r : Checked α} {a : α} : r.parsed = .ok a ↔ r = .ok a := by
  cases r <;> simp [Checked.parsed]

theorem invalidType_ne {a : α} : invalidType ≠ .ok a := by simp [invalidType]

theorem noting_ok_iff {r : Checked α} {codes : List String} {a : α} : r.noting codes = .ok a ↔ codes = [] ∧ r = .ok a := by
  cases codes with
  | nil => simp [Checked.noting]
  | cons code codes => cases r <;> simp [Checked.noting]

@[simp]
theorem noting_nil {r : Checked α} : r.noting [] = r := by
  cases r <;> rfl

theorem union_ok_iff {a b : Checked α} {x : α} :
    union a b = .ok x ↔ a = .ok x ∨ (∀ y, a ≠ .ok y) ∧ b = .ok x := by
  cases a <;> cases b <;> simp [union]

theorem both_ok_iff {a : Checked α} {b : Checked β} {p : α × β} :
    both a b = .ok p ↔ a = .ok p.1 ∧ b = .ok p.2 := by
  cases a <;> cases b <;> simp [both, Prod.ext_iff]

theorem both_ok {a : Checked α} {b : Checked β} {p : α × β} (h : both a b = .ok p) : a = .ok p.1 ∧ b = .ok p.2 :=
  both_ok_iff.mp h

theorem check_ok_iff {test : α → Bool} {code : String} {s : Schema α} {j : Option JsJson} {a : α} :
    check test code s j = .ok a ↔ s j = .ok a ∧ test a = true := by
  unfold check
  rw [noting_ok_iff, and_comm]
  refine and_congr_right fun read => ?_
  rw [read, Checked.value, Option.all_some]
  cases test a <;> simp

theorem map_ok_iff {f : α → β} {s : Schema α} {j : Option JsJson} {b : β} :
    map f s j = .ok b ↔ ∃ a, s j = .ok a ∧ f a = b := by
  exact checkedMap_ok_iff

theorem elements_ok_iff {s : Schema α} {items : List JsJson} {xs : List α} :
    elements s items = .ok xs ↔ List.Forall₂ (fun x a => s (some x) = .ok a) items xs := by
  induction items generalizing xs with
  | nil =>
    cases xs with
    | nil => simp [elements]
    | cons a xs => simp [elements]
  | cons x items ih =>
    unfold elements
    rw [checkedMap_ok_iff]
    constructor
    · rintro ⟨⟨a, rest⟩, together, rfl⟩
      obtain ⟨head, tail⟩ := both_ok together
      exact .cons head (ih.mp tail)
    · intro each
      cases each with
      | @cons _ a _ rest head tail => exact ⟨(a, rest), both_ok_iff.mpr ⟨head, ih.mpr tail⟩, rfl⟩

theorem arrayOf_ok_iff {low : Nat} {high : Option Nat} {s : Schema α} {j : Option JsJson} {xs : List α} :
    arrayOf low high s j = .ok xs ↔ ∃ items, j = some (.arr items) ∧ low ≤ items.length ∧
      (∀ n ∈ high, items.length ≤ n) ∧ elements s items = .ok xs := by
  unfold arrayOf
  split
  · rename_i items
    have short : lengthIssues low high items = [] ↔ low ≤ items.length ∧ ∀ n ∈ high, items.length ≤ n := by
      unfold lengthIssues
      cases high <;> simp
    simp [both_ok_iff, noting_ok_iff, short, and_assoc]
  · rename_i other
    refine ⟨fun never => absurd never invalidType_ne, ?_⟩
    rintro ⟨items, same, -⟩
    exact absurd same (other items)

theorem array_ok_iff {s : Schema α} {items : List JsJson} {xs : List α} :
    array s (some (.arr items)) = .ok xs ↔ elements s items = .ok xs := by
  unfold array
  rw [arrayOf_ok_iff]
  simp

theorem arrayOf_length {low : Nat} {high : Option Nat} {s : Schema α} {j : Option JsJson} {xs : List α}
    (run : arrayOf low high s j = .ok xs) : low ≤ xs.length ∧ ∀ n ∈ high, xs.length ≤ n := by
  obtain ⟨items, -, low, high, read⟩ := arrayOf_ok_iff.mp run
  rw [← (elements_ok_iff.mp read).length_eq]
  exact ⟨low, high⟩

theorem number_ok_iff {j : Option JsJson} {n : JsNumber} : number j = .ok n ↔ j = some (.num n) := by
  unfold number
  split
  · simp
  · rename_i other
    exact ⟨fun never => absurd never invalidType_ne, fun given => absurd given (other n)⟩

theorem natural_ok_iff {low : Nat} {high : Option Nat} {j : Option JsJson} {k : Nat} :
    natural low high j = .ok k ↔
      ∃ n : JsNumber, j = some (.num n) ∧ n.toNat? = some k ∧ low ≤ k ∧ ∀ m ∈ high, k ≤ m := by
  unfold natural integer
  simp only [map_ok_iff, check_ok_iff, number_ok_iff, and_assoc]
  refine exists_congr fun n => and_congr_right fun _ => ?_
  constructor
  · rintro ⟨integer, low, high, rfl⟩
    obtain ⟨negative, low⟩ := Bool.and_eq_true_iff.mp low
    have known := JsNumber.toNat?_eq_some_iff.mpr ⟨integer, (Bool.not_eq_true' _).mp negative, rfl⟩
    rw [known, Option.getD_some]
    refine ⟨rfl, of_decide_eq_true low, fun m given => ?_⟩
    rw [given, Option.all_some] at high
    simp only [JsNumber.atMost, (Bool.not_eq_true' _).mp negative, Bool.false_or, Bool.or_eq_true, decide_eq_true_eq,
      Bool.and_eq_true, beq_iff_eq] at high
    omega
  · rintro ⟨known, low, high⟩
    obtain ⟨integer, negative, rfl⟩ := JsNumber.toNat?_eq_some_iff.mp known
    refine ⟨integer, by simp [JsNumber.atLeast, negative, low], ?_, by rw [known, Option.getD_some]⟩
    cases bound : ‹Option Nat› with
    | none => rfl
    | some m =>
      have := high m bound
      simp only [Option.all_some, JsNumber.atMost, integer, negative, Bool.false_or, Bool.or_eq_true, decide_eq_true_eq,
        Bool.and_eq_true, beq_iff_eq, and_true]
      omega

theorem elements_all_iff {s : Schema α} {test : α → Bool} {items : List JsJson} :
    (∃ xs, elements s items = .ok xs ∧ xs.all test = true) ↔
      ∀ x ∈ items, ∃ a, s (some x) = .ok a ∧ test a = true := by
  induction items with
  | nil => simp [elements]
  | cons x items ih =>
    rw [List.forall_mem_cons, ← ih]
    constructor
    · rintro ⟨xs, run, all⟩
      cases elements_ok_iff.mp run with
      | cons head tail =>
        obtain ⟨first, rest⟩ := Bool.and_eq_true_iff.mp all
        exact ⟨⟨_, head, first⟩, _, elements_ok_iff.mpr tail, rest⟩
    · rintro ⟨⟨a, head, first⟩, xs, run, rest⟩
      exact ⟨a :: xs, elements_ok_iff.mpr (.cons head (elements_ok_iff.mp run)), by simp [first, rest]⟩

theorem strict_ok_iff {known : List String} {s : JsFields → Checked α} {j : Option JsJson} {a : α} :
    strict known s j = .ok a ↔
      ∃ fields, j = some (.obj fields) ∧ (∀ f ∈ fields, f.1 ∈ known) ∧ s fields = .ok a := by
  unfold strict
  split
  · rename_i fields
    rw [noting_ok_iff, ite_eq_left_iff]
    simp
  · rename_i other
    refine ⟨fun never => absurd never invalidType_ne, ?_⟩
    rintro ⟨fields, same, -⟩
    exact absurd same (other fields)

theorem strict_ok {known : List String} {s : JsFields → Checked α} {j : Option JsJson} {a : α}
    (h : strict known s j = .ok a) : ∃ fields, j = some (.obj fields) ∧ (∀ f ∈ fields, f.1 ∈ known) ∧ s fields = .ok a :=
  strict_ok_iff.mp h

theorem string_ok_iff {j : Option JsJson} {s : String} : string j = .ok s ↔ j = some (.str s) := by
  unfold string
  split
  · simp
  · rename_i other
    exact ⟨fun never => absurd never invalidType_ne, fun given => absurd given (other s)⟩

-- What z.string().trim().min(1).max(n) yields, it takes back.
def boundedText (n : Nat) : Schema String := max n (min 1 (trimmed string))

theorem boundedText_ok_iff {n : Nat} {j : Option JsJson} {s : String} :
    boundedText n j = .ok s ↔ ∃ t, j = some (.str t) ∧ JsText.trim t = s ∧ 1 ≤ JsText.length s ∧ JsText.length s ≤ n := by
  unfold boundedText max min trimmed
  rw [check_ok_iff, check_ok_iff, map_ok_iff]
  simp only [string_ok_iff, decide_eq_true_eq]
  constructor
  · rintro ⟨⟨⟨t, given, same⟩, low⟩, high⟩
    exact ⟨t, given, same, low, high⟩
  · rintro ⟨t, given, same, low, high⟩
    exact ⟨⟨⟨t, given, same⟩, low⟩, high⟩

theorem boundedText_again {n : Nat} {j : Option JsJson} {s : String} (run : boundedText n j = .ok s) :
    boundedText n (some (.str s)) = .ok s := by
  obtain ⟨t, -, rfl, low, high⟩ := boundedText_ok_iff.mp run
  exact boundedText_ok_iff.mpr ⟨_, rfl, JsText.trim_trim t, low, high⟩

theorem elements_again {s : Schema String} (again : ∀ j t, s j = .ok t → s (some (.str t)) = .ok t)
    {items : List JsJson} {xs : List String} (run : elements s items = .ok xs) :
    elements s (xs.map .str) = .ok xs := by
  rw [elements_ok_iff] at run ⊢
  induction run with
  | nil => exact .nil
  | cons head tail ih => exact .cons (again _ _ head) ih

end Zod

end Provisr.Foundation
