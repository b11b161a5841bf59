import Provisr.Foundation.JsonText
import Provisr.Foundation.JsonOrder

namespace Provisr.Foundation.GoJson

open Json

section Html

-- The characters `json.Marshal` spells out besides those every writer of JSON does.
def htmlCodes : List (Char × List Char) :=
  [('<', ['0', '0', '3', 'c']), ('>', ['0', '0', '3', 'e']), ('&', ['0', '0', '2', '6']),
    (Char.ofNat 0x2028, ['2', '0', '2', '8']), (Char.ofNat 0x2029, ['2', '0', '2', '9'])]

def htmlChar (c : Char) : List Char :=
  match htmlCodes.lookup c with
  | some code => backslash :: 'u' :: code
  | none => [c]

def htmlEscape (cs : List Char) : List Char := cs.flatMap htmlChar

def decode (code : List Char) : List Char :=
  match htmlCodes.find? fun p => p.2 == code with
  | some p => [p.1]
  | none => backslash :: 'u' :: code

def unescape : List Char → List Char
  | [] => []
  | [c] => [c]
  | c :: x :: cs =>
    if c = backslash then
      if x = 'u' then decode (cs.take 4) ++ unescape (cs.drop 4) else c :: x :: unescape cs
    else c :: unescape (x :: cs)
termination_by cs => cs.length
decreasing_by
  all_goals
    simp only [List.length_cons, List.length_drop]
    omega

theorem unescape_plain {c : Char} (h : c ≠ backslash) (cs : List Char) :
    unescape (c :: cs) = c :: unescape cs := by
  cases cs with
  | nil => simp [unescape]
  | cons x cs => rw [unescape, if_neg h]

theorem unescape_code {code cs : List Char} (h : code.length = 4) :
    unescape (backslash :: 'u' :: (code ++ cs)) = decode code ++ unescape cs := by
  rw [unescape, if_pos rfl, if_pos rfl, ← h, List.take_left, List.drop_left]

theorem unescape_mark {x : Char} (h : x ≠ 'u') (cs : List Char) :
    unescape (backslash :: x :: cs) = backslash :: x :: unescape cs := by
  rw [unescape, if_pos rfl, if_neg h]

def Clean (cs : List Char) : Prop := ∀ rest, unescape (htmlEscape cs ++ rest) = cs ++ unescape rest

theorem Clean.nil : Clean [] := fun _ => rfl

theorem Clean.append {cs ds : List Char} (h : Clean cs) (h' : Clean ds) : Clean (cs ++ ds) := by
  intro rest
  have hsplit : htmlEscape (cs ++ ds) = htmlEscape cs ++ htmlEscape ds := List.flatMap_append
  rw [hsplit, List.append_assoc, h, h', List.append_assoc]

theorem htmlCodes_decode : ∀ p ∈ htmlCodes, p.2.length = 4 ∧ decode p.2 = [p.1] := by decide

theorem Clean.char {c : Char} (h : c ≠ backslash) : Clean [c] := by
  intro rest
  have hone : htmlEscape [c] = htmlChar c := by simp [htmlEscape]
  rw [hone]
  unfold htmlChar
  cases hl : htmlCodes.lookup c with
  | some code =>
    obtain ⟨l₁, l₂, hcodes, -⟩ := List.lookup_eq_some_iff.mp hl
    obtain ⟨hlen, hdecode⟩ := htmlCodes_decode (c, code) (by simp [hcodes])
    dsimp only at hlen hdecode ⊢
    rw [List.cons_append, List.cons_append, unescape_code hlen, hdecode]
  | none => exact unescape_plain h rest

theorem Clean.chars {cs : List Char} (h : ∀ c ∈ cs, c ≠ backslash) : Clean cs := by
  induction cs with
  | nil => exact .nil
  | cons c cs ih =>
    have rest := ih fun d hd => h d (by simp [hd])
    exact (Clean.char (h c (by simp))).append rest

end Html

section Text

theorem escapeChar_special_clean : ∀ n ∈ specialCodes,
    htmlEscape (escapeChar (Char.ofNat n)) = escapeChar (Char.ofNat n) ∧
      ((∃ x, x ≠ 'u' ∧ escapeChar (Char.ofNat n) = [backslash, x]) ∨
        ∃ code, code.length = 4 ∧ decode code = backslash :: 'u' :: code ∧
          escapeChar (Char.ofNat n) = backslash :: 'u' :: code) := by
  have shape : ∀ n ∈ specialCodes,
      htmlEscape (escapeChar (Char.ofNat n)) = escapeChar (Char.ofNat n) ∧
      ((((escapeChar (Char.ofNat n)).drop 1).head? ≠ some 'u' ∧
          escapeChar (Char.ofNat n) = backslash :: (escapeChar (Char.ofNat n)).drop 1 ∧
          ((escapeChar (Char.ofNat n)).drop 1).length = 1) ∨
        (((escapeChar (Char.ofNat n)).drop 2).length = 4 ∧
          decode ((escapeChar (Char.ofNat n)).drop 2) = backslash :: 'u' :: (escapeChar (Char.ofNat n)).drop 2 ∧
          escapeChar (Char.ofNat n) = backslash :: 'u' :: (escapeChar (Char.ofNat n)).drop 2)) := by
    decide
  intro n hn
  obtain ⟨same, h | h⟩ := shape n hn
  · obtain ⟨hne, heq, hlen⟩ := h
    obtain ⟨x, hx⟩ := List.length_eq_one_iff.mp hlen
    rw [hx] at hne heq
    exact ⟨same, Or.inl ⟨x, by simpa using hne, heq⟩⟩
  · exact ⟨same, Or.inr ⟨_, h⟩⟩

theorem clean_escapeChar (c : Char) : Clean (escapeChar c) := by
  by_cases hc : Special c
  · obtain ⟨n, hn, rfl⟩ := hc.code
    obtain ⟨same, h⟩ := escapeChar_special_clean n hn
    intro rest
    rw [same]
    rcases h with ⟨x, hx, heq⟩ | ⟨code, hlen, hdecode, heq⟩
    · rw [heq]
      exact unescape_mark hx rest
    · rw [heq, List.cons_append, List.cons_append, unescape_code hlen, hdecode]
  · rw [escapeChar_plain hc]
    exact .char fun e => hc (Or.inr (Or.inl e))

theorem clean_escape (cs : List Char) : Clean (escape cs) := by
  induction cs with
  | nil => exact .nil
  | cons c cs ih => exact (clean_escapeChar c).append ih

theorem clean_quote (s : String) : Clean (quote s) :=
  (Clean.char (by decide)).append ((clean_escape s.toList).append (.char (by decide)))

variable {ν : Type} [NumberText ν]

mutual

theorem clean_write : ∀ j : Json ν, Clean (write j)
  | .null => .chars (by simp [write, backslash])
  | .bool true => .chars (by simp [write, backslash])
  | .bool false => .chars (by simp [write, backslash])
  | .num n => .chars fun c hc e => by
    have hn := NumberText.numeric n c hc
    rw [e] at hn
    exact absurd hn (by decide)
  | .str s => clean_quote s
  | .arr items => (Clean.char (by decide)).append (clean_writeItems items)
  | .obj fields => (Clean.char (by decide)).append (clean_writeFields fields)

theorem clean_writeItems : ∀ xs : List (Json ν), Clean (writeItems xs)
  | [] => .char (by decide)
  | x :: xs => (clean_write x).append (clean_writeItemsTail xs)

theorem clean_writeItemsTail : ∀ xs : List (Json ν), Clean (writeItemsTail xs)
  | [] => .char (by decide)
  | x :: xs => (Clean.char (by decide)).append ((clean_write x).append (clean_writeItemsTail xs))

theorem clean_writeFields : ∀ fs : List (String × Json ν), Clean (writeFields fs)
  | [] => .char (by decide)
  | (k, v) :: fs => (clean_quote k).append
      ((Clean.char (by decide)).append ((clean_write v).append (clean_writeFieldsTail fs)))

theorem clean_writeFieldsTail : ∀ fs : List (String × Json ν), Clean (writeFieldsTail fs)
  | [] => .char (by decide)
  | (k, v) :: fs => (Clean.char (by decide)).append ((clean_quote k).append
      ((Clean.char (by decide)).append ((clean_write v).append (clean_writeFieldsTail fs))))

end

theorem htmlEscape_write_injective {a b : Json ν} (h : htmlEscape (write a) = htmlEscape (write b)) : a = b := by
  have left := clean_write a []
  have right := clean_write b []
  rw [h, right] at left
  exact stringify_injective (congrArg String.ofList (List.append_cancel_right left).symm)

-- json.Marshal of a map: its keys in the order of their bytes.
def marshalChars (j : Json ν) : List Char := htmlEscape (write (normalize id j))

def marshal (j : Json ν) : String := String.ofList (marshalChars j)

theorem marshal_eq_iff {a b : Json ν} : marshal a = marshal b ↔ Json.normalize id a = Json.normalize id b := by
  unfold marshal marshalChars
  refine ⟨fun h => htmlEscape_write_injective (String.ofList_injective h), fun h => ?_⟩
  rw [h]

theorem marshalFields_cancel {fs gs : List (String × Json ν)} {r r' : List Char}
    (h : marshalChars (.obj fs) ++ r = marshalChars (.obj gs) ++ r') :
    Json.normalize id (.obj fs) = Json.normalize id (.obj gs) ∧ r = r' := by
  have hread := congrArg unescape h
  unfold marshalChars at hread
  rw [clean_write, clean_write] at hread
  have same : Json.normalize id (.obj fs) = Json.normalize id (.obj gs) := by
    rw [Json.normalize, Json.normalize, write, write, List.cons_append, List.cons_append, List.cons.injEq] at hread
    obtain ⟨hfields, -⟩ := writeFields_cancel _ _ hread.2
    rw [Json.normalize, Json.normalize, hfields]
  refine ⟨same, ?_⟩
  unfold marshalChars at h
  rw [same] at h
  exact List.append_cancel_left h

end Text

end Provisr.Foundation.GoJson
