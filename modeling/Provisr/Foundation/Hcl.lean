import Provisr.Foundation.JsonbText

namespace Provisr.Foundation.Hcl

open Json (quoteMark backslash openBrace closeBrace)

section Strings

def escapeOf (c : Char) : Option Char :=
  if c = quoteMark ∨ c = backslash then some c
  else if c = 'n' then some (Char.ofNat 10)
  else if c = 'r' then some (Char.ofNat 13)
  else if c = 't' then some (Char.ofNat 9)
  else none

-- A code that is of no character stands for U+FFFD.
def scalar (code : Nat) : Char := if code.isValidChar then Char.ofNat code else Char.ofNat 0xFFFD

def isSigil (c : Char) : Bool := c == '$' || c == '%'

def isNewline (c : Char) : Bool := c.toNat == 10 || c.toNat == 13

-- The characters of a quoted text, and what stands behind it. One with an interpolation or a directive is no literal.
def readChars : List Char → Option (List Char × List Char)
  | [] => none
  | c :: cs =>
    if c = quoteMark then some ([], cs)
    else if c = backslash then
      match cs with
      | 'u' :: h₁ :: h₂ :: h₃ :: h₄ :: rest =>
        (JsonReader.hexUnit [h₁, h₂, h₃, h₄]).bind fun code =>
          (readChars rest).map (Prod.map (scalar code :: ·) id)
      | 'U' :: h₁ :: h₂ :: h₃ :: h₄ :: h₅ :: h₆ :: h₇ :: h₈ :: rest =>
        (JsonReader.hexUnit [h₁, h₂, h₃, h₄, h₅, h₆, h₇, h₈]).bind fun code =>
          (readChars rest).map (Prod.map (scalar code :: ·) id)
      | e :: rest => (escapeOf e).bind fun d => (readChars rest).map (Prod.map (d :: ·) id)
      | [] => none
    else if isNewline c then none
    else if isSigil c then
      match cs with
      | d :: e :: rest =>
        if d = openBrace then none
        else if d = c ∧ e = openBrace then (readChars rest).map (Prod.map (c :: openBrace :: ·) id)
        else (readChars (d :: e :: rest)).map (Prod.map (c :: ·) id)
      | cs => (readChars cs).map (Prod.map (c :: ·) id)
    else (readChars cs).map (Prod.map (c :: ·) id)
termination_by structural cs => cs

end Strings

section Values

def isBlank (c : Char) : Bool := c == ' ' || c.toNat == 9

def skip (cs : List Char) : List Char := cs.dropWhile isBlank

mutual

def readValue : Nat → List Char → Option (Json Literal × List Char)
  | 0, _ => none
  | fuel + 1, cs =>
    match skip cs with
    | [] => none
    | c :: cs =>
      if c = openBrace then
        match skip cs with
        | [] => none
        | d :: ds =>
          if d = closeBrace then some (.obj [], ds)
          else (readFields fuel (d :: ds)).map fun (fields, rest) => (.obj fields, rest)
      else if c = '[' then
        match skip cs with
        | [] => none
        | d :: ds =>
          if d = ']' then some (.arr [], ds)
          else (readItems fuel (d :: ds)).map fun (items, rest) => (.arr items, rest)
      else if c = quoteMark then (readChars cs).map fun (text, rest) => (.str (String.ofList text), rest)
      else if c = 'n' then JsonReader.readWord ['u', 'l', 'l'] .null cs
      else if c = 't' then JsonReader.readWord ['r', 'u', 'e'] (.bool true) cs
      else if c = 'f' then JsonReader.readWord ['a', 'l', 's', 'e'] (.bool false) cs
      else (JsonReader.readNumber (c :: cs)).map fun (n, rest) => (.num n, rest)

def readItems : Nat → List Char → Option (List (Json Literal) × List Char)
  | 0, _ => none
  | fuel + 1, cs => do
    let (j, rest) ← readValue fuel cs
    match skip rest with
    | [] => none
    | c :: rest =>
      if c = ']' then some ([j], rest)
      else if c = ',' then do
        let (items, rest) ← readItems fuel rest
        some (j :: items, rest)
      else none

def readFields : Nat → List Char → Option (List (String × Json Literal) × List Char)
  | 0, _ => none
  | fuel + 1, cs =>
    match skip cs with
    | [] => none
    | c :: cs =>
      if c = quoteMark then do
        let (key, rest) ← readChars cs
        match skip rest with
        | [] => none
        | c :: rest =>
          if c = ':' ∨ c = '=' then do
            let (j, rest) ← readValue fuel rest
            match skip rest with
            | [] => none
            | c :: rest =>
              if c = closeBrace then some ([(String.ofList key, j)], rest)
              else if c = ',' then do
                let (fields, rest) ← readFields fuel rest
                some ((String.ofList key, j) :: fields, rest)
              else none
          else none
      else none

end

-- A whole expression. No call is deeper than there are characters left, twice.
def read (s : String) : Option (Json Literal) := do
  let (j, rest) ← readValue (2 * s.toList.length + 1) s.toList
  if (skip rest).isEmpty then some j else none

end Values

section Templates

-- An interpolation or a directive that is not escaped.
def live : List Char → Bool
  | [] => false
  | c :: cs =>
    if isSigil c then
      match cs with
      | d :: e :: rest =>
        if d = openBrace then true else if d = c ∧ e = openBrace then live rest else live (d :: e :: rest)
      | cs => cs == [openBrace]
    else live cs

-- strings.ReplaceAll, which doubles the sigil in front of a brace.
def guard (sigil : Char) : List Char → List Char
  | [] => []
  | c :: cs => if c = sigil ∧ cs.head? = some openBrace then c :: c :: guard sigil cs else c :: guard sigil cs

def escapeTemplate (cs : List Char) : List Char := guard '%' (guard '$' cs)

variable {s c : Char} {cs rest : List Char}

theorem head?_guard : (guard s cs).head? = cs.head? := by
  cases cs with
  | nil => rfl
  | cons c cs =>
    unfold guard
    split <;> rfl

theorem guard_other (h : c ≠ s) : guard s (c :: cs) = c :: guard s cs := by
  rw [guard, if_neg fun both => h both.1]

theorem guard_brace (h : cs.head? = some openBrace) : guard s (s :: cs) = s :: s :: guard s cs := by
  rw [guard, if_pos ⟨rfl, h⟩]

theorem guard_plain (h : cs.head? ≠ some openBrace) : guard s (c :: cs) = c :: guard s cs := by
  rw [guard, if_neg fun both => h both.2]

-- What follows a character that is no brace does not matter to what stands before it.
theorem guard_append (other : c ≠ s) (brace : c ≠ openBrace) (cs rest : List Char) :
    guard s (cs ++ c :: rest) = guard s cs ++ c :: guard s rest := by
  induction cs with
  | nil => exact guard_other other
  | cons d cs ih =>
    have head : (cs ++ c :: rest).head? = some openBrace ↔ cs.head? = some openBrace := by
      cases cs with
      | nil => simp [brace]
      | cons e cs => exact Iff.rfl
    rw [List.cons_append, guard, guard, ih]
    simp only [head]
    split <;> rfl

def Closed (cs : List Char) : Prop := ∀ rest, escapeTemplate (cs ++ rest) = escapeTemplate cs ++ escapeTemplate rest

theorem escapeTemplate_other (h : isSigil c = false) (rest : List Char) :
    escapeTemplate (c :: rest) = c :: escapeTemplate rest := by
  simp only [isSigil, Bool.or_eq_false_iff, beq_eq_false_iff_ne] at h
  rw [escapeTemplate, guard_other h.1, guard_other h.2]
  rfl

theorem escapeTemplate_chars (h : ∀ c ∈ cs, isSigil c = false) (rest : List Char) :
    escapeTemplate (cs ++ rest) = cs ++ escapeTemplate rest := by
  induction cs with
  | nil => rfl
  | cons c cs ih =>
    rw [List.cons_append, escapeTemplate_other (h c (by simp)), ih fun d hd => h d (by simp [hd])]
    rfl

theorem Closed.append {ds : List Char} (h : Closed cs) (h' : Closed ds) : Closed (cs ++ ds) := by
  intro rest
  rw [List.append_assoc, h, h', h, List.append_assoc]

theorem Closed.chars (h : ∀ c ∈ cs, isSigil c = false) : Closed cs := by
  intro rest
  have alone := escapeTemplate_chars h []
  rw [List.append_nil] at alone
  rw [escapeTemplate_chars h, alone]
  exact congrArg (· ++ _) (List.append_nil cs).symm

theorem Closed.all (h : cs.all (fun c => !isSigil c) = true) : Closed cs :=
  .chars fun c mem => by simpa using List.all_eq_true.mp h c mem

theorem escapeTemplate_append (sigil : isSigil c = false) (brace : c ≠ openBrace) (cs rest : List Char) :
    escapeTemplate (cs ++ c :: rest) = escapeTemplate cs ++ c :: escapeTemplate rest := by
  simp only [isSigil, Bool.or_eq_false_iff, beq_eq_false_iff_ne] at sigil
  rw [escapeTemplate, guard_append sigil.1 brace, guard_append sigil.2 brace]
  rfl

theorem Closed.ended (sigil : isSigil c = false) (brace : c ≠ openBrace) (cs : List Char) : Closed (cs ++ [c]) := by
  intro rest
  rw [List.append_assoc, List.singleton_append, escapeTemplate_append sigil brace, escapeTemplate_append sigil brace,
    List.append_assoc]
  rfl

theorem escapeTemplate_brace {sigil : Char} (h : isSigil sigil = true) (brace : cs.head? = some openBrace) :
    escapeTemplate (sigil :: cs) = sigil :: sigil :: escapeTemplate cs := by
  simp only [isSigil, Bool.or_eq_true, beq_iff_eq] at h
  rcases h with rfl | rfl
  · rw [escapeTemplate, guard_brace brace, guard_other (by decide), guard_other (by decide)]
    rfl
  · rw [escapeTemplate, guard_other (by decide), guard_brace (by rwa [head?_guard])]
    rfl

theorem escapeTemplate_alone (brace : cs.head? ≠ some openBrace) (c : Char) :
    escapeTemplate (c :: cs) = c :: escapeTemplate cs := by
  rw [escapeTemplate, guard_plain brace, guard_plain (by rwa [head?_guard])]
  rfl

theorem head?_escapeTemplate : (escapeTemplate cs).head? = cs.head? := by
  rw [escapeTemplate, head?_guard, head?_guard]

theorem isSigil_ne_brace (h : isSigil c = true) : c ≠ openBrace := by
  rintro rfl
  cases h

theorem escapeTemplate_ne (h : isSigil c = true) (cs rest : List Char) :
    escapeTemplate cs ≠ c :: openBrace :: rest := by
  intro same
  cases cs with
  | nil => cases same
  | cons d ds =>
    cases sigil : isSigil d with
    | false =>
      rw [escapeTemplate_other sigil] at same
      rw [(List.cons.inj same).1, h] at sigil
      cases sigil
    | true =>
      by_cases brace : ds.head? = some openBrace
      · rw [escapeTemplate_brace sigil brace] at same
        exact isSigil_ne_brace sigil (List.cons.inj (List.cons.inj same).2).1
      · rw [escapeTemplate_alone brace] at same
        have head := congrArg List.head? (List.cons.inj same).2
        rw [head?_escapeTemplate] at head
        exact brace head

theorem live_other (h : isSigil c = false) : live (c :: cs) = live cs := by
  rw [live.eq_def]
  simp [h]

theorem live_alone (brace : cs.head? ≠ some openBrace) (closed : ∀ rest, cs ≠ c :: openBrace :: rest)
    (rest : live cs = false) : live (c :: cs) = false := by
  rw [live.eq_def]
  dsimp only
  split
  · cases cs with
    | nil => rfl
    | cons d ds =>
      have other : d ≠ openBrace := fun same => brace (congrArg some same)
      cases ds with
      | nil => simp [other]
      | cons e es =>
        have unescaped : ¬ (d = c ∧ e = openBrace) := by
          rintro ⟨rfl, rfl⟩
          exact closed es rfl
        dsimp only
        rw [if_neg other, if_neg unescaped, rest]
  · exact rest

theorem live_escapeTemplate (cs : List Char) : live (escapeTemplate cs) = false := by
  induction cs with
  | nil => rfl
  | cons c cs ih =>
    cases sigil : isSigil c with
    | false => rw [escapeTemplate_other sigil, live_other sigil, ih]
    | true =>
      by_cases brace : cs.head? = some openBrace
      · rw [escapeTemplate_brace sigil brace]
        obtain ⟨ds, rfl⟩ := List.head?_eq_some_iff.mp brace
        rw [escapeTemplate_other (by decide), live_other (by decide)] at ih
        rw [escapeTemplate_other (by decide), live.eq_def]
        dsimp only
        rw [if_pos sigil, if_neg (isSigil_ne_brace sigil), if_pos ⟨rfl, rfl⟩, ih]
      · rw [escapeTemplate_alone brace]
        exact live_alone (by rwa [head?_escapeTemplate]) (escapeTemplate_ne sigil cs) ih

end Templates

section Reading

variable {c : Char} {cs rest : List Char}

def Plain (c : Char) : Prop := c ≠ quoteMark ∧ c ≠ backslash ∧ isNewline c = false ∧ isSigil c = false

instance (c : Char) : Decidable (Plain c) := inferInstanceAs (Decidable (_ ∧ _))

theorem readChars_close (rest : List Char) : readChars (quoteMark :: rest) = some ([], rest) := by
  rw [readChars.eq_def]
  rfl

theorem readChars_plain (h : Plain c) (rest : List Char) :
    readChars (c :: rest) = (readChars rest).map (Prod.map (c :: ·) id) := by
  obtain ⟨quote, slash, newline, sigil⟩ := h
  rw [readChars.eq_def]
  dsimp only
  rw [if_neg quote, if_neg slash, newline, sigil]
  rfl

theorem readChars_code (h₁ h₂ h₃ h₄ : Char) (rest : List Char) :
    readChars (backslash :: 'u' :: h₁ :: h₂ :: h₃ :: h₄ :: rest) =
      (JsonReader.hexUnit [h₁, h₂, h₃, h₄]).bind fun code =>
        (readChars rest).map (Prod.map (scalar code :: ·) id) := by
  rw [readChars.eq_def]
  rfl

theorem sigil_special (h : isSigil c = true) : c ≠ quoteMark ∧ c ≠ backslash ∧ isNewline c = false := by
  simp only [isSigil, Bool.or_eq_true, beq_iff_eq] at h
  rcases h with rfl | rfl <;> decide

theorem readChars_doubled (h : isSigil c = true) (rest : List Char) :
    readChars (c :: c :: openBrace :: rest) = (readChars (openBrace :: rest)).map (Prod.map (c :: ·) id) := by
  obtain ⟨quote, slash, newline⟩ := sigil_special h
  rw [readChars_plain (c := openBrace) (by decide), readChars.eq_def]
  dsimp only
  rw [if_neg quote, if_neg slash, newline, h, if_neg Bool.false_ne_true, if_pos rfl, if_neg (isSigil_ne_brace h),
    if_pos ⟨rfl, rfl⟩, Option.map_map]
  rfl

theorem readChars_alone (h : isSigil c = true) (brace : cs.head? ≠ some openBrace)
    (closed : ∀ rest, cs ≠ c :: openBrace :: rest) :
    readChars (c :: cs) = (readChars cs).map (Prod.map (c :: ·) id) := by
  obtain ⟨quote, slash, newline⟩ := sigil_special h
  rw [readChars.eq_def]
  dsimp only
  rw [if_neg quote, if_neg slash, newline, h, if_neg Bool.false_ne_true, if_pos rfl]
  cases cs with
  | nil => rfl
  | cons d ds =>
    have other : d ≠ openBrace := fun same => brace (congrArg some same)
    cases ds with
    | nil => rfl
    | cons e es =>
      have unescaped : ¬ (d = c ∧ e = openBrace) := by
        rintro ⟨rfl, rfl⟩
        exact closed es rfl
      dsimp only
      rw [if_neg other, if_neg unescaped]

end Reading

end Provisr.Foundation.Hcl
