import Provisr.Foundation.PyText
import Mathlib.Tactic.Common

namespace Provisr.Foundation

-- What `str` knows of characters, of which only those of ASCII are fixed here.
class PyUnicode where
  isAlnum : Char → Bool
  lower : String → String
  ascii : ∀ c : Char, c.toNat < 128 → isAlnum c = c.isAlphanum

abbrev asciiPython : PyUnicode :=
  ⟨Char.isAlphanum, fun s => String.ofList (s.toList.map Char.toLower), fun _ _ => rfl⟩

-- `re.search` for patterns between two `\b`.
namespace PyRegex

variable [PyUnicode]

-- \w
def isWord (c : Char) : Bool := PyUnicode.isAlnum c || c == '_'

-- \b between the character before it and the one after it
def boundary (before after : Option Char) : Bool := before.any isWord != after.any isWord

abbrev Pattern := List Char → Option (List Char)

def literal (term : String) : Pattern := fun cs =>
  if term.toList.isPrefixOf cs then some term.toList else none

-- The first match of \bp\b, after a character that has been passed.
def search (p : Pattern) : Option Char → List Char → Option (List Char)
  | _, [] => none
  | before, c :: cs =>
    match p (c :: cs) with
    | some found =>
      if boundary before (some c) && boundary found.getLast? ((c :: cs).drop found.length).head? then some found
      else search p (some c) cs
    | none => search p (some c) cs

def contains (p : Pattern) (text : String) : Bool := (search p none text.toList).isSome

def Occurs (p : Pattern) (text : List Char) : Prop :=
  ∃ before found after, text = before ++ found ++ after ∧ found ≠ [] ∧ p (found ++ after) = some found ∧
    boundary before.getLast? found.head? = true ∧ boundary found.getLast? after.head? = true

omit [PyUnicode] in
theorem literal_prefix {term : String} {cs found : List Char} (run : literal term cs = some found) : found <+: cs := by
  unfold literal at run
  split at run
  · rename_i starts
    obtain rfl := Option.some.inj run
    exact List.isPrefixOf_iff_prefix.mp starts
  · cases run

section Search

variable {p : Pattern} {before : Option Char} {cs found : List Char}

theorem search_of_match (run : p (found ++ cs) = some found) (nonempty : found ≠ [])
    (first : boundary before found.head? = true) (last : boundary found.getLast? cs.head? = true) :
    (search p before (found ++ cs)).isSome = true := by
  cases found with
  | nil => exact absurd rfl nonempty
  | cons c found =>
    have rest : (c :: (found ++ cs)).drop (c :: found).length = cs := by
      rw [← List.cons_append, List.drop_left]
    have both : (boundary before (some c) &&
        boundary (c :: found).getLast? ((c :: (found ++ cs)).drop (c :: found).length).head?) = true := by
      rw [rest]
      exact Bool.and_eq_true_iff.mpr ⟨first, last⟩
    rw [List.cons_append] at run ⊢
    simp only [search, run]
    rw [if_pos both]
    rfl

theorem search_after (c : Char) (rest : (search p (some c) cs).isSome = true) :
    (search p before (c :: cs)).isSome = true := by
  unfold search
  split
  · split
    · rfl
    · exact rest
  · exact rest

theorem search_append (passed : List Char) (rest : (search p (passed.getLast?.or before) cs).isSome = true) :
    (search p before (passed ++ cs)).isSome = true := by
  induction passed generalizing before with
  | nil => exact rest
  | cons c passed ih =>
    refine search_after c (ih ?_)
    rw [List.getLast?_cons] at rest
    cases last : passed.getLast? with
    | none => simpa [last] using rest
    | some d => simpa [last] using rest

theorem contains_of_occurs {text : String} (occurs : Occurs p text.toList) : contains p text = true := by
  obtain ⟨passed, found, after, split, nonempty, run, first, last⟩ := occurs
  unfold contains
  rw [split, List.append_assoc]
  refine search_append passed (search_of_match run nonempty ?_ last)
  rw [Option.or_none]
  exact first

end Search

section Lines

variable {p : Pattern}

structure Local (p : Pattern) : Prop where
  nonempty : ∀ {cs found}, p cs = some found → found ≠ []
  start : ∀ {cs found}, p cs = some found → found <+: cs
  alone : ∀ {cs found} rest, p cs = some found → p (found ++ rest) = some found

omit [PyUnicode] in
theorem literal_local {term : String} (nonempty : term ≠ "") : Local (literal term) where
  nonempty run := by
    unfold literal at run
    split at run
    · obtain rfl := Option.some.inj run
      exact fun empty => nonempty (String.toList_eq_nil_iff.mp empty)
    · cases run
  start := literal_prefix
  alone rest run := by
    unfold literal at run ⊢
    split at run
    · obtain rfl := Option.some.inj run
      exact if_pos (List.isPrefixOf_iff_prefix.mpr (List.prefix_append _ _))
    · cases run

theorem search_split (loc : Local p) {before : Option Char} {cs found : List Char}
    (run : search p before cs = some found) :
    ∃ passed after, cs = passed ++ found ++ after ∧ p (found ++ after) = some found ∧
      boundary (passed.getLast?.or before) found.head? = true ∧ boundary found.getLast? after.head? = true := by
  induction cs generalizing before with
  | nil => cases run
  | cons c cs ih =>
    have later : search p (some c) cs = some found → ∃ passed after, c :: cs = passed ++ found ++ after ∧
        p (found ++ after) = some found ∧ boundary (passed.getLast?.or before) found.head? = true ∧
          boundary found.getLast? after.head? = true := by
      intro run
      obtain ⟨passed, after, rfl, match_, first, last⟩ := ih run
      refine ⟨c :: passed, after, rfl, match_, ?_, last⟩
      rw [List.getLast?_cons]
      cases ending : passed.getLast? <;> simpa [ending] using first
    unfold search at run
    split at run
    · rename_i here matched
      split at run
      · rename_i bounds
        obtain rfl := Option.some.inj run
        obtain ⟨after, same⟩ := loc.start matched
        rw [← same, List.drop_left] at bounds
        obtain ⟨first, last⟩ := Bool.and_eq_true_iff.mp bounds
        refine ⟨[], after, same.symm, loc.alone after matched, ?_, last⟩
        cases found : here with
        | nil => exact absurd found (loc.nonempty matched)
        | cons d ds =>
          rw [found, List.cons_append, List.cons.injEq] at same
          rw [same.1]
          exact first
      · exact later run
    · exact later run

theorem contains_iff_occurs (loc : Local p) {text : String} : contains p text = true ↔ Occurs p text.toList := by
  refine ⟨fun found => ?_, contains_of_occurs⟩
  obtain ⟨found, run⟩ := Option.isSome_iff_exists.mp found
  obtain ⟨passed, after, split, matched, first, last⟩ := search_split loc run
  rw [Option.or_none] at first
  exact ⟨passed, found, after, split, loc.nonempty matched, matched, first, last⟩

theorem contains_of_literal (loc : Local p) {term text : String} (matched : p term.toList = some term.toList)
    (found : contains (literal term) text = true) : contains p text = true := by
  have nonempty : term ≠ "" := by
    rintro rfl
    exact loc.nonempty matched rfl
  obtain ⟨before, word, after, split, some, run, first, last⟩ := (contains_iff_occurs (literal_local nonempty)).mp found
  have same : word = term.toList := by
    unfold literal at run
    split at run
    · exact (Option.some.inj run).symm
    · cases run
  subst same
  exact contains_of_occurs ⟨before, _, after, split, some, loc.alone after matched, first, last⟩

theorem isWord_newline : isWord '\n' = false := by
  unfold isWord
  rw [PyUnicode.ascii '\n' (by decide)]
  decide

theorem boundary_newline_left (c : Option Char) : boundary (some '\n') c = boundary none c := by
  unfold boundary
  simp [isWord_newline]

theorem boundary_newline_right (c : Option Char) : boundary c (some '\n') = boundary c none := by
  unfold boundary
  simp [isWord_newline]

theorem occurs_lines (loc : Local p) (single : ∀ {cs found}, p cs = some found → '\n' ∉ found) {xs ys : List Char} :
    Occurs p (xs ++ '\n' :: ys) ↔ Occurs p xs ∨ Occurs p ys := by
  constructor
  · rintro ⟨before, found, after, split, nonempty, matched, first, last⟩
    have left : ∀ tail, xs = before ++ found ++ tail → boundary found.getLast? tail.head? = true →
        Occurs p xs := fun tail same ending =>
      ⟨before, found, tail, same, nonempty, loc.alone tail matched, first, ending⟩
    rcases List.append_eq_append_iff.mp split with ⟨tail, same, rest⟩ | ⟨tail, same, rest⟩
    · cases tail with
      | nil =>
        obtain rfl := rest
        rw [List.head?_cons, boundary_newline_right] at last
        exact .inl (left [] (by rw [same, List.append_nil, List.append_nil]) last)
      | cons c tail =>
        obtain ⟨rfl, rfl⟩ := List.cons.inj rest
        rcases List.append_eq_append_iff.mp same with ⟨inner, -, cut⟩ | ⟨inner, rfl, cut⟩
        · exact absurd (cut ▸ List.mem_append_right _ List.mem_cons_self) (single matched)
        · cases inner with
          | nil =>
            have here : '\n' ∈ [] ++ found := cut ▸ List.mem_cons_self
            exact absurd here (single matched)
          | cons d inner =>
            obtain ⟨rfl, rfl⟩ := List.cons.inj cut
            refine .inr ⟨inner, found, after, rfl, nonempty, matched, ?_, last⟩
            rw [List.getLast?_append, List.getLast?_cons] at first
            cases ending : inner.getLast? with
            | none => simpa [ending, boundary_newline_left] using first
            | some e => simpa [ending] using first
    · obtain rfl := rest
      refine .inl (left tail same ?_)
      cases tail with
      | nil => rwa [List.nil_append, List.head?_cons, boundary_newline_right] at last
      | cons c tail => exact last
  · rintro (⟨before, found, after, rfl, nonempty, matched, first, last⟩ |
      ⟨before, found, after, rfl, nonempty, matched, first, last⟩)
    · refine ⟨before, found, after ++ '\n' :: ys, by simp, nonempty, loc.alone _ matched, first, ?_⟩
      cases after with
      | nil => rwa [List.nil_append, List.head?_cons, boundary_newline_right]
      | cons c after => exact last
    · refine ⟨xs ++ '\n' :: before, found, after, by simp, nonempty, matched, ?_, last⟩
      rw [List.getLast?_append, List.getLast?_cons]
      cases inner : before.getLast? with
      | none => simpa [inner, boundary_newline_left] using first
      | some c => simpa [inner] using first

theorem contains_lines (loc : Local p) (single : ∀ {cs found}, p cs = some found → '\n' ∉ found) (lines : List String) :
    contains p ("\n".intercalate lines) = true ↔ ∃ line ∈ lines, contains p line = true := by
  induction lines with
  | nil => simp [contains, search]
  | cons line lines ih =>
    cases lines with
    | nil => simp
    | cons next lines =>
      rw [String.intercalate_cons_cons]
      simp only [List.mem_cons (b := line), exists_eq_or_imp, ← ih]
      simp only [contains_iff_occurs loc, String.toList_append]
      rw [List.append_assoc]
      exact occurs_lines loc single

end Lines

end PyRegex

end Provisr.Foundation
