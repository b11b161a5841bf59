import Provisr.Foundation.JsonLiteral
import Provisr.Foundation.JsNumeric

namespace Provisr.Foundation.JsonReader

open Json (quoteMark backslash openBrace closeBrace)

def isSpace (c : Char) : Bool := c == ' ' || c.toNat == 9 || c.toNat == 10 || c.toNat == 13

def skip (cs : List Char) : List Char := cs.dropWhile isSpace

section Strings

def escapeOf (c : Char) : Option Char :=
  if c = quoteMark ∨ c = backslash ∨ c = '/' then some c
  else if c = 'b' then some (Char.ofNat 8)
  else if c = 'f' then some (Char.ofNat 12)
  else if c = 'n' then some (Char.ofNat 10)
  else if c = 'r' then some (Char.ofNat 13)
  else if c = 't' then some (Char.ofNat 9)
  else none

def hexUnit (cs : List Char) : Option Nat :=
  if cs.all JsText.isHex then some (cs.foldl (fun n c => n * 16 + JsNumeric.hexValue c) 0) else none

-- The characters of a string and the code units of its \u escapes, and what stands behind the string.
def readUnits : List Char → Option (List (Char ⊕ Nat) × List Char)
  | [] => none
  | c :: cs =>
    if c = quoteMark then some ([], cs)
    else if c = backslash then
      match cs with
      | 'u' :: h₁ :: h₂ :: h₃ :: h₄ :: rest =>
        (hexUnit [h₁, h₂, h₃, h₄]).bind fun unit => (readUnits rest).map (Prod.map (.inr unit :: ·) id)
      | e :: rest => (escapeOf e).bind fun d => (readUnits rest).map (Prod.map (.inl d :: ·) id)
      | [] => none
    else if c.toNat < 32 then none
    else (readUnits cs).map (Prod.map (.inl c :: ·) id)

def isHigh (unit : Nat) : Bool := 0xD800 ≤ unit && unit < 0xDC00

def isLow (unit : Nat) : Bool := 0xDC00 ≤ unit && unit < 0xE000

-- What stands for half of a pair that stands alone is up to the reader.
def flush (alone : Option Char) (high : Option Nat) (rest : Option (List Char)) : Option (List Char) :=
  match high with
  | none => rest
  | some _ => alone.bind fun c => rest.map (c :: ·)

def joinUnits (alone : Option Char) : Option Nat → List (Char ⊕ Nat) → Option (List Char)
  | high, [] => flush alone high (some [])
  | high, .inl c :: units => flush alone high ((joinUnits alone none units).map (c :: ·))
  | high, .inr unit :: units =>
    if isHigh unit then flush alone high (joinUnits alone (some unit) units)
    else if isLow unit then
      match high with
      | some first =>
        (joinUnits alone none units).map (Char.ofNat (0x10000 + (first - 0xD800) * 0x400 + (unit - 0xDC00)) :: ·)
      | none => alone.bind fun c => (joinUnits alone none units).map (c :: ·)
    else flush alone high ((joinUnits alone none units).map (Char.ofNat unit :: ·))

def readString (alone : Option Char) (cs : List Char) : Option (String × List Char) := do
  let (units, rest) ← readUnits cs
  let text ← joinUnits alone none units
  some (String.ofList text, rest)

end Strings

section Numbers

def readFraction : List Char → Option (List Char × List Char)
  | '.' :: cs =>
    if (cs.takeWhile Char.isDigit).isEmpty then none
    else some (cs.takeWhile Char.isDigit, cs.dropWhile Char.isDigit)
  | cs => some ([], cs)

def readSign : List Char → Option Char × List Char
  | '+' :: cs => (some '+', cs)
  | '-' :: cs => (some '-', cs)
  | cs => (none, cs)

def readExponent : List Char → Option Exponent × List Char
  | [] => (none, [])
  | c :: cs =>
    if c = 'e' ∨ c = 'E' then
      let (sign, cs) := readSign cs
      (some ⟨c, sign, cs.takeWhile Char.isDigit⟩, cs.dropWhile Char.isDigit)
    else (none, c :: cs)

def literal (negative : Bool) (whole fraction : List Char) (exponent : Option Exponent) : Option Literal :=
  if h : (wholeNumber whole && fraction.all Char.isDigit && exponent.all Exponent.valid) = true then
    some ⟨negative, whole, fraction, exponent, h⟩
  else none

def readUnsigned (negative : Bool) (cs : List Char) : Option (Literal × List Char) :=
  (readFraction (cs.dropWhile Char.isDigit)).bind fun (fraction, rest) =>
    (literal negative (cs.takeWhile Char.isDigit) fraction (readExponent rest).1).map fun l => (l, (readExponent rest).2)

def readNumber : List Char → Option (Literal × List Char)
  | '-' :: cs => readUnsigned true cs
  | cs => readUnsigned false cs

end Numbers

section Values

def readWord (word : List Char) (j : Json Literal) (cs : List Char) : Option (Json Literal × List Char) :=
  if cs.take word.length = word then some (j, cs.drop word.length) else none

variable (alone : Option Char)

mutual

def readValue : Nat → List Char → Option (Json Literal × List Char)
  | 0, _ => none
  | fuel + 1, cs =>
    match skip cs with
    | [] => none
    | c :: cs =>
      if c = openBrace then
        match skip cs with
        | [] => none
        | d :: ds =>
          if d = closeBrace then some (.obj [], ds)
          else (readFields fuel (d :: ds)).map fun (fields, rest) => (.obj fields, rest)
      else if c = '[' then
        match skip cs with
        | [] => none
        | d :: ds =>
          if d = ']' then some (.arr [], ds)
          else (readItems fuel (d :: ds)).map fun (items, rest) => (.arr items, rest)
      else if c = quoteMark then (readString alone cs).map fun (s, rest) => (.str s, rest)
      else if c = 'n' then readWord ['u', 'l', 'l'] .null cs
      else if c = 't' then readWord ['r', 'u', 'e'] (.bool true) cs
      else if c = 'f' then readWord ['a', 'l', 's', 'e'] (.bool false) cs
      else (readNumber (c :: cs)).map fun (n, rest) => (.num n, rest)

def readItems : Nat → List Char → Option (List (Json Literal) × List Char)
  | 0, _ => none
  | fuel + 1, cs => do
    let (j, rest) ← readValue fuel cs
    match skip rest with
    | [] => none
    | c :: rest =>
      if c = ']' then some ([j], rest)
      else if c = ',' then do
        let (items, rest) ← readItems fuel rest
        some (j :: items, rest)
      else none

def readFields : Nat → List Char → Option (List (String × Json Literal) × List Char)
  | 0, _ => none
  | fuel + 1, cs =>
    match skip cs with
    | [] => none
    | c :: cs =>
      if c = quoteMark then do
        let (key, rest) ← readString alone cs
        match skip rest with
        | [] => none
        | c :: rest =>
          if c = ':' then do
            let (j, rest) ← readValue fuel rest
            match skip rest with
            | [] => none
            | c :: rest =>
              if c = closeBrace then some ([(key, j)], rest)
              else if c = ',' then do
                let (fields, rest) ← readFields fuel rest
                some ((key, j) :: fields, rest)
              else none
          else none
      else none

end

-- A whole text. No call is deeper than there are characters left, twice.
def read (s : String) : Option (Json Literal) := do
  let (j, rest) ← readValue alone (2 * s.toList.length + 1) s.toList
  if (skip rest).isEmpty then some j else none

end Values

section Lenience

variable {α β : Type}

def Extends (x y : Option α) : Prop := ∀ a, x = some a → y = some a

theorem Extends.refl (x : Option α) : Extends x x := fun _ h => h

theorem Extends.none {y : Option α} : Extends none y := nofun

theorem Extends.map {x y : Option α} (h : Extends x y) (f : α → β) : Extends (x.map f) (y.map f) := by
  intro b hb
  obtain ⟨a, ha, rfl⟩ := Option.map_eq_some_iff.mp hb
  rw [h a ha]
  rfl

theorem Extends.bind {x y : Option α} {f g : α → Option β} (h : Extends x y) (next : ∀ a, Extends (f a) (g a)) :
    Extends (x.bind f) (y.bind g) := by
  intro b hb
  obtain ⟨a, ha, hf⟩ := Option.bind_eq_some_iff.mp hb
  rw [h a ha]
  exact next a b hf

variable {c : Char}

theorem flush_extends {high : Option Nat} {x y : Option (List Char)} (h : Extends x y) :
    Extends (flush none high x) (flush (some c) high y) := by
  cases high with
  | none => exact h
  | some _ => exact .none

theorem joinUnits_extends (units : List (Char ⊕ Nat)) :
    ∀ high, Extends (joinUnits none high units) (joinUnits (some c) high units) := by
  induction units with
  | nil => exact fun _ => flush_extends (.refl _)
  | cons unit units ih =>
    intro high
    cases unit with
    | inl d => exact flush_extends ((ih none).map _)
    | inr unit =>
      unfold joinUnits
      split
      · exact flush_extends (ih _)
      · split
        · cases high with
          | none => exact .none
          | some _ => exact (ih none).map _
        · exact flush_extends ((ih none).map _)

theorem readString_extends (cs : List Char) : Extends (readString none cs) (readString (some c) cs) :=
  (Extends.refl _).bind fun ⟨units, _⟩ => (joinUnits_extends units none).bind fun _ => .refl _

theorem reads_extend (fuel : Nat) :
    (∀ cs, Extends (readValue none fuel cs) (readValue (some c) fuel cs)) ∧
      (∀ cs, Extends (readItems none fuel cs) (readItems (some c) fuel cs)) ∧
        ∀ cs, Extends (readFields none fuel cs) (readFields (some c) fuel cs) := by
  induction fuel with
  | zero => exact ⟨fun _ => .none, fun _ => .none, fun _ => .none⟩
  | succ fuel ih =>
    obtain ⟨values, items, fields⟩ := ih
    refine ⟨fun cs => ?_, fun cs => ?_, fun cs => ?_⟩
    · unfold readValue
      cases skip cs with
      | nil => exact .none
      | cons d cs =>
        dsimp only
        split
        · cases skip cs with
          | nil => exact .none
          | cons d ds =>
            dsimp only
            split
            · exact .refl _
            · exact (fields _).map _
        · split
          · cases skip cs with
            | nil => exact .none
            | cons d ds =>
              dsimp only
              split
              · exact .refl _
              · exact (items _).map _
          · split
            · exact (readString_extends cs).map _
            · exact .refl _
    · unfold readItems
      refine (values cs).bind fun ⟨j, rest⟩ => ?_
      dsimp only
      cases skip rest with
      | nil => exact .none
      | cons d rest =>
        dsimp only
        split
        · exact .refl _
        · split
          · exact (items rest).bind fun _ => .refl _
          · exact .none
    · unfold readFields
      cases skip cs with
      | nil => exact .none
      | cons d cs =>
        dsimp only
        split
        · refine (readString_extends cs).bind fun ⟨key, rest⟩ => ?_
          dsimp only
          cases skip rest with
          | nil => exact .none
          | cons d rest =>
            dsimp only
            split
            · refine (values rest).bind fun ⟨j, rest⟩ => ?_
              dsimp only
              cases skip rest with
              | nil => exact .none
              | cons d rest =>
                dsimp only
                split
                · exact .refl _
                · split
                  · exact (fields rest).bind fun _ => .refl _
                  · exact .none
            · exact .none
        · exact .none

theorem read_extends (s : String) : Extends (read none s) (read (some c) s) :=
  ((reads_extend _).1 s.toList).bind fun _ => .refl _

end Lenience

end Provisr.Foundation.JsonReader
