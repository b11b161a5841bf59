import Provisr.Foundation.JsonText

namespace Provisr.Foundation.Json

def bar : Char := '|'

-- Where a reader of a JSON text stands. A text has no bar and no backslash outside its strings.
inductive Place where
  | outside
  | inside
  | escaped
  deriving DecidableEq

def scan : Place → List Char → Option Place
  | p, [] => some p
  | .outside, c :: cs =>
    if c = quoteMark then scan .inside cs
    else if c = backslash ∨ c = bar then none
    else scan .outside cs
  | .inside, c :: cs =>
    if c = quoteMark then scan .outside cs
    else if c = backslash then scan .escaped cs
    else scan .inside cs
  | .escaped, _ :: cs => scan .inside cs

theorem scan_append (p : Place) (cs ds : List Char) :
    scan p (cs ++ ds) = (scan p cs).bind fun q => scan q ds := by
  induction cs generalizing p with
  | nil => cases p <;> rfl
  | cons c cs ih =>
    cases p with
    | outside =>
      simp only [List.cons_append, scan]
      split
      · exact ih _
      · split
        · rfl
        · exact ih _
    | inside =>
      simp only [List.cons_append, scan]
      split
      · exact ih _
      · split
        · exact ih _
        · exact ih _
    | escaped => exact ih _

theorem scan_append_some {p q : Place} {cs : List Char} (h : scan p cs = some q) (ds : List Char) :
    scan p (cs ++ ds) = scan q ds := by
  rw [scan_append, h]
  rfl

theorem scan_plain {cs : List Char} (h : ∀ c ∈ cs, c ≠ quoteMark ∧ c ≠ backslash ∧ c ≠ bar) :
    scan .outside cs = some .outside := by
  induction cs with
  | nil => rfl
  | cons c cs ih =>
    obtain ⟨hquote, hslash, hbar⟩ := h c (by simp)
    rw [scan, if_neg hquote, if_neg (by simp [hslash, hbar])]
    exact ih fun d hd => h d (by simp [hd])

theorem scan_escapeChar_special :
    ∀ n ∈ specialCodes, scan .inside (escapeChar (Char.ofNat n)) = some .inside := by decide

theorem scan_escapeChar (c : Char) : scan .inside (escapeChar c) = some .inside := by
  by_cases hc : Special c
  · obtain ⟨n, hn, rfl⟩ := hc.code
    exact scan_escapeChar_special n hn
  · rw [escapeChar_plain hc, scan, if_neg fun e => hc (Or.inl e), if_neg fun e => hc (Or.inr (Or.inl e))]
    rfl

theorem scan_escape (cs : List Char) : scan .inside (escape cs) = some .inside := by
  induction cs with
  | nil => rfl
  | cons c cs ih =>
    have hsplit : escape (c :: cs) = escapeChar c ++ escape cs := rfl
    rw [hsplit, scan_append_some (scan_escapeChar c), ih]

theorem scan_quote (s : String) : scan .outside (quote s) = some .outside := by
  rw [quote, scan, if_pos rfl, scan_append_some (scan_escape s.toList)]
  rfl

variable {ν : Type} [NumberText ν]

theorem scan_number (n : ν) : scan .outside (NumberText.text n) = some .outside := by
  refine scan_plain fun c hc => ?_
  have hn := NumberText.numeric n c hc
  refine ⟨?_, ?_, ?_⟩ <;>
  · rintro rfl
    exact absurd hn (by decide)

theorem scan_mark {c : Char} (h : c ≠ quoteMark ∧ c ≠ backslash ∧ c ≠ bar) (cs : List Char) :
    scan .outside (c :: cs) = scan .outside cs := by
  have single : scan .outside [c] = some .outside := scan_plain (by simpa using h)
  exact scan_append_some single cs

mutual

theorem scan_write : ∀ j : Json ν, scan .outside (write j) = some .outside
  | .null => scan_plain (by simp [write, quoteMark, backslash, bar])
  | .bool true => scan_plain (by simp [write, quoteMark, backslash, bar])
  | .bool false => scan_plain (by simp [write, quoteMark, backslash, bar])
  | .num n => by rw [write, scan_number]
  | .str s => by rw [write, scan_quote]
  | .arr items => by rw [write, scan_mark (by decide), scan_writeItems items]
  | .obj fields => by rw [write, scan_mark (by decide), scan_writeFields fields]

theorem scan_writeItems : ∀ xs : List (Json ν), scan .outside (writeItems xs) = some .outside
  | [] => scan_plain (by simp [writeItems, quoteMark, backslash, bar])
  | x :: xs => by rw [writeItems, scan_append_some (scan_write x), scan_writeItemsTail xs]

theorem scan_writeItemsTail : ∀ xs : List (Json ν), scan .outside (writeItemsTail xs) = some .outside
  | [] => scan_plain (by simp [writeItemsTail, quoteMark, backslash, bar])
  | x :: xs => by
    rw [writeItemsTail, scan_mark (by decide), scan_append_some (scan_write x), scan_writeItemsTail xs]

theorem scan_writeFields : ∀ fs : List (String × Json ν), scan .outside (writeFields fs) = some .outside
  | [] => scan_plain (by simp [writeFields, closeBrace, quoteMark, backslash, bar])
  | (k, v) :: fs => by
    rw [writeFields, scan_append_some (scan_quote k), scan_mark (by decide), scan_append_some (scan_write v),
      scan_writeFieldsTail fs]

theorem scan_writeFieldsTail : ∀ fs : List (String × Json ν),
    scan .outside (writeFieldsTail fs) = some .outside
  | [] => scan_plain (by simp [writeFieldsTail, closeBrace, quoteMark, backslash, bar])
  | (k, v) :: fs => by
    rw [writeFieldsTail, scan_mark (by decide), scan_append_some (scan_quote k), scan_mark (by decide),
      scan_append_some (scan_write v), scan_writeFieldsTail fs]

end

-- No text reads well both from the inside of a string and from the outside: every quotation mark swaps the
-- two, and a backslash is read by neither from the outside.
theorem scan_opposite {cs : List Char} (h : scan .inside cs = some .outside) :
    scan .outside cs ≠ some .outside := by
  intro h'
  induction cs with
  | nil => cases h
  | cons c cs ih =>
    simp only [scan] at h h'
    by_cases hquote : c = quoteMark
    · rw [if_pos hquote] at h h'
      exact ih h' h
    · rw [if_neg hquote] at h h'
      by_cases hmark : c = backslash ∨ c = bar
      · rw [if_pos hmark] at h'
        cases h'
      · rw [if_neg hmark] at h'
        rw [if_neg fun e => hmark (Or.inl e)] at h
        exact ih h h'

theorem scan_bar {p : Place} {cs : List Char} (h : scan p (bar :: cs) = some .outside) :
    scan .inside cs = some .outside := by
  cases p with
  | outside => simp [scan, bar, quoteMark, backslash] at h
  | inside =>
    rw [scan, if_neg (by decide), if_neg (by decide)] at h
    exact h
  | escaped => exact h

theorem write_bar_cancel {a b : Json ν} {cs ds : List Char} (h : cs ++ bar :: write a = ds ++ bar :: write b) :
    cs = ds ∧ a = b := by
  have apart : ∀ {a b : Json ν} {es : List Char}, write a ≠ es ++ bar :: write b := by
    intro a b es he
    have ha := scan_write a
    rw [he, scan_append] at ha
    obtain ⟨p, -, hp⟩ := Option.bind_eq_some_iff.mp ha
    exact scan_opposite (scan_bar hp) (scan_write b)
  rcases List.append_eq_append_iff.mp h with ⟨es, hd, hw⟩ | ⟨es, hd, hw⟩
  · cases es with
    | nil =>
      rw [List.append_nil] at hd
      rw [List.nil_append, List.cons.injEq] at hw
      exact ⟨hd.symm, stringify_injective (congrArg String.ofList hw.2)⟩
    | cons e es =>
      rw [List.cons_append, List.cons.injEq] at hw
      exact absurd hw.2 apart
  · cases es with
    | nil =>
      rw [List.append_nil] at hd
      rw [List.nil_append, List.cons.injEq] at hw
      exact ⟨hd, stringify_injective (congrArg String.ofList hw.2.symm)⟩
    | cons e es =>
      rw [List.cons_append, List.cons.injEq] at hw
      exact absurd hw.2 apart

end Provisr.Foundation.Json
