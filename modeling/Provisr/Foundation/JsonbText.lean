import Provisr.Foundation.JsonReader

namespace Provisr.Foundation

namespace Json

mutual

-- What PostgreSQL prints of a jsonb value.
def print : Json Literal → List Char
  | .null => ['n', 'u', 'l', 'l']
  | .bool true => ['t', 'r', 'u', 'e']
  | .bool false => ['f', 'a', 'l', 's', 'e']
  | .num n => n.text
  | .str s => quote s
  | .arr items => '[' :: printItems items
  | .obj fields => openBrace :: printFields fields

def printItems : List (Json Literal) → List Char
  | [] => [']']
  | x :: xs => print x ++ printItemsTail xs

def printItemsTail : List (Json Literal) → List Char
  | [] => [']']
  | x :: xs => ',' :: ' ' :: (print x ++ printItemsTail xs)

def printFields : List (String × Json Literal) → List Char
  | [] => [closeBrace]
  | (k, v) :: fs => quote k ++ ':' :: ' ' :: (print v ++ printFieldsTail fs)

def printFieldsTail : List (String × Json Literal) → List Char
  | [] => [closeBrace]
  | (k, v) :: fs => ',' :: ' ' :: (quote k ++ ':' :: ' ' :: (print v ++ printFieldsTail fs))

end

def jsonbText (j : Json Literal) : String := String.ofList (print j)

end Json

namespace JsonReader

open Json (quoteMark backslash openBrace closeBrace escapeChar escape quote print printItems printItemsTail printFields
  printFieldsTail)

section Strings

def unitOf (c : Char) : Char ⊕ Nat :=
  if c.toNat < 32 ∧ c.toNat ∉ [8, 9, 10, 12, 13] then .inr c.toNat else .inl c

theorem hexUnit_control : ∀ n ∈ List.range 32,
    hexUnit ['0', '0', Json.hexDigit (n / 16), Json.hexDigit (n % 16)] = some n := by decide

theorem readUnits_close (rest : List Char) : readUnits (quoteMark :: rest) = some ([], rest) := by
  rw [readUnits.eq_def]
  rfl

theorem readUnits_plain {c : Char} (special : ¬ Json.Special c) (rest : List Char) :
    readUnits (c :: rest) = (readUnits rest).map (Prod.map (.inl c :: ·) id) := by
  simp only [Json.Special, not_or] at special
  obtain ⟨quote, slash, control⟩ := special
  rw [readUnits.eq_def]
  dsimp only
  rw [if_neg quote, if_neg slash, if_neg control]

theorem readUnits_hex (a b c d : Char) (rest : List Char) : readUnits (backslash :: 'u' :: a :: b :: c :: d :: rest) =
    (hexUnit [a, b, c, d]).bind fun unit => (readUnits rest).map (Prod.map (.inr unit :: ·) id) := by
  rw [readUnits.eq_def]
  rfl

theorem readUnits_escapeChar (c : Char) (rest : List Char) :
    readUnits (escapeChar c ++ rest) = (readUnits rest).map (Prod.map (unitOf c :: ·) id) := by
  have code : ∀ {n : Nat}, c.toNat = n → c = Char.ofNat n := by
    rintro n rfl
    exact (Char.ofNat_toNat c).symm
  unfold escapeChar
  split
  · rename_i h
    subst h
    rfl
  · split
    · rename_i h
      subst h
      rfl
    · split
      · rename_i h
        obtain rfl := code h
        rfl
      · split
        · rename_i h
          obtain rfl := code h
          rfl
        · split
          · rename_i h
            obtain rfl := code h
            rfl
          · split
            · rename_i h
              obtain rfl := code h
              rfl
            · split
              · rename_i h
                obtain rfl := code h
                rfl
              · split
                · rename_i h8 h9 h10 h12 h13 control
                  have unnamed : c.toNat ∉ [8, 9, 10, 12, 13] := by
                    simp only [List.mem_cons, List.not_mem_nil, or_false, not_or]
                    exact ⟨h8, h9, h10, h12, h13⟩
                  have unit : unitOf c = .inr c.toNat := if_pos ⟨control, unnamed⟩
                  rw [unit]
                  change readUnits (backslash :: 'u' :: '0' :: '0' :: _ :: _ :: rest) = _
                  rw [readUnits_hex, hexUnit_control c.toNat (List.mem_range.mpr control)]
                  rfl
                · rename_i quote slash h8 h9 h10 h12 h13 plain
                  have unit : unitOf c = .inl c := if_neg fun h => plain h.1
                  have special : ¬ Json.Special c := fun h => h.elim quote fun h => h.elim slash plain
                  rw [unit, List.singleton_append, readUnits_plain special]

theorem readUnits_escape (cs rest : List Char) :
    readUnits (escape cs ++ quoteMark :: rest) = some (cs.map unitOf, rest) := by
  induction cs with
  | nil => exact readUnits_close rest
  | cons c cs ih =>
    have split : escape (c :: cs) = escapeChar c ++ escape cs := rfl
    rw [split, List.append_assoc, readUnits_escapeChar, ih]
    rfl

theorem joinUnits_map (alone : Option Char) (cs : List Char) : joinUnits alone none (cs.map unitOf) = some cs := by
  induction cs with
  | nil => rfl
  | cons c cs ih =>
    rw [List.map_cons]
    by_cases control : c.toNat < 32 ∧ c.toNat ∉ [8, 9, 10, 12, 13]
    · have unit : unitOf c = .inr c.toNat := if_pos control
      have high : isHigh c.toNat = false := by
        simp only [isHigh, Bool.and_eq_false_imp, decide_eq_true_eq]
        omega
      have low : isLow c.toNat = false := by
        simp only [isLow, Bool.and_eq_false_imp, decide_eq_true_eq]
        omega
      rw [unit, joinUnits, high, low, ih, Char.ofNat_toNat]
      rfl
    · have unit : unitOf c = .inl c := if_neg control
      rw [unit, joinUnits, ih]
      rfl

theorem readString_quote (alone : Option Char) (s : String) (rest : List Char) :
    readString alone (escape s.toList ++ quoteMark :: rest) = some (s, rest) := by
  unfold readString
  rw [readUnits_escape]
  change (joinUnits alone none _).bind _ = _
  rw [joinUnits_map]
  change some (String.ofList s.toList, rest) = _
  rw [String.ofList_toList]

end Strings

section Numbers

variable {r : List Char}

theorem stops_digit (h : Json.Stops r) : r.head?.all (fun c => !c.isDigit) = true := by
  cases r with
  | nil => rfl
  | cons c r =>
    rw [Json.stops_cons] at h
    change (!c.isDigit) = true
    cases hc : c.isDigit with
    | false => rfl
    | true =>
      rw [JsNumber.numericChar_of_isDigit hc] at h
      cases h

theorem takeWhile_run {p : Char → Bool} {cs : List Char} (all : cs.all p = true)
    (ends : r.head?.all (fun c => !p c) = true) : (cs ++ r).takeWhile p = cs ∧ (cs ++ r).dropWhile p = r := by
  rw [List.takeWhile_append_of_pos (List.all_eq_true.mp all), List.dropWhile_append_of_pos (List.all_eq_true.mp all)]
  cases r with
  | nil => exact ⟨List.append_nil cs, rfl⟩
  | cons c r =>
    have stop : p c = false := by simpa using ends
    rw [List.takeWhile_cons_of_neg (by simp [stop]), List.dropWhile_cons_of_neg (by simp [stop]), List.append_nil]
    exact ⟨rfl, rfl⟩

theorem readExponent_text (l : Literal) (stops : Json.Stops r) :
    readExponent (l.exponentText ++ r) = (l.exponent, r) := by
  unfold Literal.exponentText
  cases h : l.exponent with
  | none =>
    change readExponent r = _
    cases r with
    | nil => rfl
    | cons c r =>
      rw [Json.stops_cons] at stops
      have unmarked : ¬ (c = 'e' ∨ c = 'E') := by
        rintro (rfl | rfl) <;> cases stops
      rw [readExponent, if_neg unmarked]
  | some e =>
    have valid := l.exponent_valid h
    obtain ⟨mark, sign, digits⟩ := e
    simp only [Exponent.valid, Bool.and_eq_true, Bool.or_eq_true, beq_iff_eq] at valid
    obtain ⟨⟨⟨mark_e, signed⟩, some_digits⟩, all⟩ := valid
    have run := takeWhile_run all (stops_digit stops)
    have signs : readSign (sign.toList ++ (digits ++ r)) = (sign, digits ++ r) := by
      cases sign with
      | some s =>
        simp only [Option.all_some, Bool.or_eq_true, beq_iff_eq] at signed
        rcases signed with rfl | rfl <;> rfl
      | none =>
        cases digits with
        | nil => cases some_digits
        | cons d ds =>
          rw [List.all_cons, Bool.and_eq_true] at all
          change readSign (d :: (ds ++ r)) = _
          unfold readSign
          split
          · rename_i same
            rw [(List.cons.inj same).1] at all
            exact absurd all.1 (by decide)
          · rename_i same
            rw [(List.cons.inj same).1] at all
            exact absurd all.1 (by decide)
          · rfl
    change readExponent (mark :: (sign.toList ++ digits) ++ r) = _
    rw [List.cons_append, List.append_assoc, readExponent, if_pos mark_e, signs]
    dsimp only
    rw [run.1, run.2]

theorem readFraction_text (l : Literal) (stops : Json.Stops r) :
    readFraction (l.pointText ++ (l.exponentText ++ r)) = some (l.fraction, l.exponentText ++ r) := by
  have ends : (l.exponentText ++ r).head?.all (fun c => !c.isDigit) = true ∧
      (l.exponentText ++ r).head? ≠ some '.' := by
    have head := l.exponentText_head
    cases h : l.exponentText with
    | nil =>
      refine ⟨stops_digit stops, ?_⟩
      cases r with
      | nil => exact nofun
      | cons c r =>
        rintro same
        rw [Json.stops_cons, Option.some.inj same] at stops
        cases stops
    | cons c cs =>
      rw [h] at head
      have mark : (c == 'e' || c == 'E') = true := head
      refine ⟨?_, ?_⟩
      · change (!c.isDigit) = true
        rw [Literal.not_isDigit (by rw [mark, Bool.or_true])]
        rfl
      · rintro same
        rw [Option.some.inj same] at mark
        cases mark
  unfold Literal.pointText
  split
  · rename_i none
    rw [List.nil_append, none]
    unfold readFraction
    split
    · rename_i point
      exact absurd (congrArg List.head? point) ends.2
    · rfl
  · rename_i some
    have run := takeWhile_run l.fraction_digits ends.1
    have nonempty : l.fraction.isEmpty = false := by simpa using some
    rw [List.cons_append, readFraction, run.1, run.2, nonempty]
    rfl

theorem readUnsigned_text (l : Literal) (stops : Json.Stops r) :
    readUnsigned l.negative (l.whole ++ (l.pointText ++ (l.exponentText ++ r))) = some (l, r) := by
  have ends : (l.pointText ++ (l.exponentText ++ r)).head?.all (fun c => !c.isDigit) = true := by
    rw [← List.append_assoc]
    have head := l.pointText_head
    cases h : l.pointText ++ l.exponentText with
    | nil => exact stops_digit stops
    | cons c cs =>
      rw [h] at head
      change (!c.isDigit) = true
      rw [Literal.not_isDigit head]
      rfl
  have run := takeWhile_run l.whole_digits ends
  unfold readUnsigned literal
  rw [run.1, run.2, readFraction_text l stops]
  dsimp only [Option.bind]
  rw [readExponent_text l stops]
  dsimp only
  rw [dif_pos l.valid]
  rfl

theorem readNumber_text (l : Literal) (stops : Json.Stops r) : readNumber (l.text ++ r) = some (l, r) := by
  have unsigned := readUnsigned_text l stops
  unfold Literal.text
  rw [List.append_assoc, List.append_assoc, List.append_assoc]
  cases hn : l.negative with
  | true =>
    rw [hn] at unsigned
    exact unsigned
  | false =>
    rw [hn] at unsigned
    change readNumber (l.whole ++ (l.pointText ++ (l.exponentText ++ r))) = _
    unfold readNumber
    split
    · rename_i minus
      have digits := l.whole_digits
      obtain ⟨c, cs, whole⟩ := List.exists_cons_of_ne_nil l.whole_ne_nil
      rw [whole] at minus digits
      rw [(List.cons.inj minus).1, List.all_cons, Bool.and_eq_true] at digits
      exact absurd digits.1 (by decide)
    · exact unsigned

theorem text_head (l : Literal) : ∃ c cs, l.text = c :: cs ∧ numericChar c = true := by
  obtain ⟨c, cs, text⟩ := List.exists_cons_of_ne_nil (NumberText.text_ne_nil l)
  have all : ∀ d ∈ l.text, numericChar d = true := l.text_numeric
  have same : l.text = c :: cs := text
  rw [same] at all
  exact ⟨c, cs, same, all c List.mem_cons_self⟩

end Numbers

section Values

variable (alone : Option Char)

theorem skip_of {c : Char} {cs : List Char} (h : isSpace c = false) : skip (c :: cs) = c :: cs :=
  List.dropWhile_cons_of_neg (by simp [h])

theorem readValue_space (fuel : Nat) (cs : List Char) : readValue alone fuel (' ' :: cs) = readValue alone fuel cs := by
  cases fuel with
  | zero => rfl
  | succ fuel => rfl

theorem readItems_space (fuel : Nat) (cs : List Char) : readItems alone fuel (' ' :: cs) = readItems alone fuel cs := by
  cases fuel with
  | zero => rfl
  | succ fuel => rw [readItems, readItems, readValue_space]

theorem readFields_space (fuel : Nat) (cs : List Char) :
    readFields alone fuel (' ' :: cs) = readFields alone fuel cs := by
  cases fuel with
  | zero => rfl
  | succ fuel => rfl

theorem printItemsTail_cons (x : Json Literal) (xs : List (Json Literal)) :
    printItemsTail (x :: xs) = ',' :: ' ' :: printItems (x :: xs) := by
  rw [printItemsTail, printItems]

theorem printFieldsTail_cons (f : String × Json Literal) (fs : List (String × Json Literal)) :
    printFieldsTail (f :: fs) = ',' :: ' ' :: printFields (f :: fs) := by
  obtain ⟨k, v⟩ := f
  rw [printFieldsTail, printFields]

theorem print_head (j : Json Literal) : ∃ c cs, print j = c :: cs ∧ isSpace c = false ∧ c ≠ ']' := by
  rcases j with _ | b | n | s | items | fields
  · exact ⟨_, _, by rw [print], by decide, by decide⟩
  · cases b
    · exact ⟨_, _, by rw [print], by decide, by decide⟩
    · exact ⟨_, _, by rw [print], by decide, by decide⟩
  · obtain ⟨c, cs, text, numeric⟩ := text_head n
    refine ⟨c, cs, by rw [print, text], ?_, ?_⟩
    · cases hs : isSpace c with
      | false => rfl
      | true =>
        have space : c = Char.ofNat 32 ∨ c = Char.ofNat 9 ∨ c = Char.ofNat 10 ∨ c = Char.ofNat 13 := by
          simp only [isSpace, Bool.or_eq_true, beq_iff_eq] at hs
          rcases hs with ((h | h) | h) | h
          · exact Or.inl h
          · exact Or.inr (Or.inl (h ▸ (Char.ofNat_toNat c).symm))
          · exact Or.inr (Or.inr (Or.inl (h ▸ (Char.ofNat_toNat c).symm)))
          · exact Or.inr (Or.inr (Or.inr (h ▸ (Char.ofNat_toNat c).symm)))
        rcases space with rfl | rfl | rfl | rfl <;> cases numeric
    · rintro rfl
      cases numeric
  · exact ⟨_, _, by rw [print, quote], by decide, by decide⟩
  · exact ⟨_, _, by rw [print], by decide, by decide⟩
  · exact ⟨_, _, by rw [print], by decide, by decide⟩

theorem readValue_number (n : Literal) {r : List Char} (stops : Json.Stops r) (fuel : Nat) :
    readValue alone (fuel + 1) (n.text ++ r) = some (.num n, r) := by
  obtain ⟨c, cs, text, numeric⟩ := text_head n
  have other : ∀ d, numericChar d = false → c ≠ d := by
    rintro d hd rfl
    rw [numeric] at hd
    cases hd
  obtain ⟨d, ds, printed, space, -⟩ := print_head (.num n)
  rw [print, text] at printed
  obtain ⟨rfl, rfl⟩ := List.cons.inj printed
  have number := readNumber_text n stops
  rw [text, List.cons_append] at number ⊢
  rw [readValue, skip_of space]
  dsimp only
  rw [if_neg (other _ (by decide)), if_neg (other _ (by decide)), if_neg (other _ (by decide)),
    if_neg (other _ (by decide)), if_neg (other _ (by decide)), if_neg (other _ (by decide)), number]
  rfl

mutual

theorem readValue_print : ∀ (j : Json Literal) {n : Nat} {r : List Char}, Json.Stops r →
    2 * (print j).length < n → readValue alone n (print j ++ r) = some (j, r)
  | j, 0, _, _, enough => absurd enough (Nat.not_lt_zero _)
  | .null, fuel + 1, r, _, _ => by
    rw [print]
    rfl
  | .bool true, fuel + 1, r, _, _ => by
    rw [print]
    rfl
  | .bool false, fuel + 1, r, _, _ => by
    rw [print]
    rfl
  | .num n, fuel + 1, r, stops, _ => by
    rw [print]
    exact readValue_number alone n stops fuel
  | .str s, fuel + 1, r, _, _ => by
    rw [print, quote, List.cons_append, List.append_assoc, readValue, skip_of (by decide)]
    dsimp only
    rw [if_neg (by decide), if_neg (by decide), if_pos rfl, List.singleton_append, readString_quote]
    rfl
  | .arr [], fuel + 1, r, _, _ => by
    rw [print, printItems]
    rfl
  | .arr (x :: xs), fuel + 1, r, _, enough => by
    rw [print, List.length_cons] at enough
    have inner := readItems_print (x :: xs) (List.cons_ne_nil x xs) (n := fuel) (r := r) (by omega)
    rw [print, List.cons_append, readValue, skip_of (by decide)]
    dsimp only
    rw [if_neg (by decide), if_pos rfl]
    obtain ⟨c, cs, printed, space, open'⟩ := print_head x
    rw [printItems, printed, List.cons_append, List.cons_append] at inner ⊢
    rw [skip_of space]
    dsimp only
    rw [if_neg open', inner]
    rfl
  | .obj [], fuel + 1, r, _, _ => by
    rw [print, printFields]
    rfl
  | .obj ((k, v) :: fs), fuel + 1, r, _, enough => by
    rw [print, List.length_cons] at enough
    have inner := readFields_print ((k, v) :: fs) (List.cons_ne_nil (k, v) fs) (n := fuel) (r := r) (by omega)
    rw [print, List.cons_append, readValue, skip_of (by decide)]
    dsimp only
    rw [if_pos rfl]
    rw [printFields, quote, List.cons_append, List.cons_append] at inner ⊢
    rw [skip_of (by decide)]
    dsimp only
    rw [if_neg (by decide), inner]
    rfl

theorem readItems_print : ∀ (xs : List (Json Literal)), xs ≠ [] → ∀ {n : Nat} {r : List Char},
    2 * (printItems xs).length < n → readItems alone n (printItems xs ++ r) = some (xs, r)
  | [], nonempty, _, _, _ => absurd rfl nonempty
  | _ :: _, _, 0, _, enough => absurd enough (Nat.not_lt_zero _)
  | [x], _, fuel + 1, r, enough => by
    rw [printItems, printItemsTail, List.length_append, List.length_singleton] at enough
    have first := readValue_print x (n := fuel) (r := ']' :: r) (Json.stops_cons.mpr (by decide)) (by omega)
    rw [printItems, printItemsTail, List.append_assoc, List.singleton_append, readItems]
    change (readValue alone fuel _).bind _ = _
    rw [first]
    rfl
  | x :: y :: ys, _, fuel + 1, r, enough => by
    rw [printItems, printItemsTail_cons, List.length_append, List.length_cons, List.length_cons] at enough
    have first := readValue_print x (n := fuel) (r := ',' :: ' ' :: (printItems (y :: ys) ++ r))
      (Json.stops_cons.mpr (by decide)) (by omega)
    have rest := readItems_print (y :: ys) (List.cons_ne_nil y ys) (n := fuel) (r := r) (by omega)
    rw [printItems, printItemsTail_cons, List.append_assoc, List.cons_append, List.cons_append, readItems]
    change (readValue alone fuel _).bind _ = _
    rw [first]
    dsimp only [Option.bind]
    rw [skip_of (by decide)]
    dsimp only
    rw [if_neg (by decide), if_pos rfl, readItems_space, rest]
    rfl

theorem readFields_print : ∀ (fs : List (String × Json Literal)), fs ≠ [] → ∀ {n : Nat} {r : List Char},
    2 * (printFields fs).length < n → readFields alone n (printFields fs ++ r) = some (fs, r)
  | [], nonempty, _, _, _ => absurd rfl nonempty
  | _ :: _, _, 0, _, enough => absurd enough (Nat.not_lt_zero _)
  | [(k, v)], _, fuel + 1, r, enough => by
    rw [printFields, printFieldsTail, List.length_append, List.length_cons, List.length_cons, List.length_append,
      List.length_singleton] at enough
    have value := readValue_print v (n := fuel) (r := closeBrace :: r) (Json.stops_cons.mpr (by decide)) (by omega)
    rw [printFields, printFieldsTail, quote, List.cons_append, List.cons_append, List.append_assoc, List.append_assoc,
      List.singleton_append, readFields, skip_of (by decide)]
    dsimp only
    rw [if_pos rfl]
    change (readString alone _).bind _ = _
    rw [readString_quote]
    dsimp only [Option.bind]
    rw [List.cons_append, skip_of (by decide)]
    dsimp only
    rw [if_pos rfl, List.cons_append, List.append_assoc, List.singleton_append, readValue_space]
    change (readValue alone fuel _).bind _ = _
    rw [value]
    rfl
  | (k, v) :: g :: gs, _, fuel + 1, r, enough => by
    rw [printFields, printFieldsTail_cons, List.length_append, List.length_cons, List.length_cons, List.length_append,
      List.length_cons, List.length_cons] at enough
    have value := readValue_print v (n := fuel) (r := ',' :: ' ' :: (printFields (g :: gs) ++ r))
      (Json.stops_cons.mpr (by decide)) (by omega)
    have rest := readFields_print (g :: gs) (List.cons_ne_nil g gs) (n := fuel) (r := r) (by omega)
    rw [printFields, printFieldsTail_cons, quote, List.cons_append, List.cons_append, List.append_assoc,
      List.append_assoc, List.singleton_append, readFields, skip_of (by decide)]
    dsimp only
    rw [if_pos rfl]
    change (readString alone _).bind _ = _
    rw [readString_quote]
    dsimp only [Option.bind]
    rw [List.cons_append, skip_of (by decide)]
    dsimp only
    rw [if_pos rfl, List.cons_append, List.append_assoc, List.cons_append, List.cons_append, readValue_space]
    change (readValue alone fuel _).bind _ = _
    rw [value]
    dsimp only [Option.bind]
    rw [skip_of (by decide)]
    dsimp only
    rw [if_neg (by decide), if_pos rfl, readFields_space, rest]
    rfl

end

-- What PostgreSQL prints reads back as what it holds.
theorem read_jsonbText (j : Json Literal) : read alone (Json.jsonbText j) = some j := by
  unfold read Json.jsonbText
  rw [String.toList_ofList]
  have whole := readValue_print alone j (n := 2 * (print j).length + 1) (r := []) Json.stops_nil (Nat.lt_succ_self _)
  rw [List.append_nil] at whole
  change (readValue alone _ _).bind _ = _
  rw [whole]
  rfl

end Values

end JsonReader

end Provisr.Foundation
