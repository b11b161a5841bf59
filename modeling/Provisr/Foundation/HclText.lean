import Provisr.Foundation.GoJson
import Provisr.Foundation.Hcl

namespace Provisr.Foundation.Hcl

open Json (quoteMark backslash openBrace closeBrace)

section Marshalled

open GoJson (htmlEscape htmlChar htmlCodes)
open Json (escape escapeChar quote)

variable {c : Char} {cs rest : List Char}

def known (c : Char) : Bool := c.toNat != 8 && c.toNat != 12

def spelled (c : Char) : List Char := htmlEscape (escapeChar c)

theorem scalar_toNat (c : Char) : scalar c.toNat = c := by
  have valid : c.toNat.isValidChar := c.valid
  unfold scalar
  rw [if_pos valid, Char.ofNat_toNat]

theorem htmlCodes_read : ∀ p ∈ htmlCodes, p.2.length = 4 ∧ (JsonReader.hexUnit p.2).map scalar = some p.1 ∧
    known p.1 = true ∧ ¬ Json.Special p.1 ∧ p.1 ≠ openBrace ∧ p.2.all (fun d => !isSigil d) = true := by decide

theorem spelled_plain (special : ¬ Json.Special c) (html : htmlCodes.lookup c = none) : spelled c = [c] := by
  rw [spelled, Json.escapeChar_plain special]
  simp [htmlEscape, htmlChar, html]

theorem spelled_html (special : ¬ Json.Special c) {code : List Char} (html : htmlCodes.lookup c = some code) :
    spelled c = backslash :: 'u' :: code := by
  rw [spelled, Json.escapeChar_plain special]
  simp [htmlEscape, htmlChar, html]

theorem html_mem {code : List Char} (html : htmlCodes.lookup c = some code) : (c, code) ∈ htmlCodes := by
  obtain ⟨l₁, l₂, codes, -⟩ := List.lookup_eq_some_iff.mp html
  simp [codes]

theorem special_spelled : ∀ n ∈ Json.specialCodes, spelled (Char.ofNat n) = escapeChar (Char.ofNat n) ∧
    (spelled (Char.ofNat n)).head? = some backslash ∧ (spelled (Char.ofNat n)).all (fun d => !isSigil d) = true := by
  decide

theorem spelled_sigil (h : isSigil c = true) : spelled c = [c] := by
  simp only [isSigil, Bool.or_eq_true, beq_iff_eq] at h
  rcases h with rfl | rfl <;> decide

theorem escapeTemplate_spelled (h : isSigil c = false) (rest : List Char) :
    escapeTemplate (spelled c ++ rest) = spelled c ++ escapeTemplate rest := by
  have none : (spelled c).all (fun d => !isSigil d) = true := by
    by_cases special : Json.Special c
    · obtain ⟨n, mem, rfl⟩ := special.code
      exact (special_spelled n mem).2.2
    · cases html : htmlCodes.lookup c with
      | none => simp [spelled_plain special html, h]
      | some code =>
        have codes : code.all (fun d => !isSigil d) = true := (htmlCodes_read _ (html_mem html)).2.2.2.2.2
        rw [spelled_html special html, List.all_cons, List.all_cons, codes]
        rfl
  exact escapeTemplate_chars (fun d mem => by simpa using List.all_eq_true.mp none d mem) rest

theorem readChars_spelled (h : isSigil c = false) (rest : List Char) :
    readChars (spelled c ++ rest) = if known c then (readChars rest).map (Prod.map (c :: ·) id) else none := by
  have code : ∀ {n : Nat}, c.toNat = n → c = Char.ofNat n := by
    rintro n rfl
    exact (Char.ofNat_toNat c).symm
  by_cases special : Json.Special c
  · obtain ⟨n, mem, same⟩ := special.code
    have whole := (special_spelled n mem).1
    rw [← same] at whole
    rw [whole]
    clear whole same
    unfold escapeChar
    split
    · rename_i is
      subst is
      rw [readChars.eq_def]
      rfl
    · split
      · rename_i is
        subst is
        rw [readChars.eq_def]
        rfl
      · split
        · rename_i is
          obtain rfl := code is
          rw [readChars.eq_def]
          rfl
        · split
          · rename_i is
            obtain rfl := code is
            rw [readChars.eq_def]
            rfl
          · split
            · rename_i is
              obtain rfl := code is
              rw [readChars.eq_def]
              rfl
            · split
              · rename_i is
                obtain rfl := code is
                rw [readChars.eq_def]
                rfl
              · split
                · rename_i is
                  obtain rfl := code is
                  rw [readChars.eq_def]
                  rfl
                · split
                  · rename_i h8 h9 h10 h12 h13 control
                    have kept : known c = true := by simp [known, h8, h12]
                    rw [if_pos kept]
                    change readChars (backslash :: 'u' :: '0' :: '0' :: _ :: _ :: rest) = _
                    rw [readChars_code, JsonReader.hexUnit_control c.toNat (List.mem_range.mpr control)]
                    change (readChars rest).map (Prod.map (scalar c.toNat :: ·) id) = _
                    rw [scalar_toNat]
                  · rename_i quote slash h8 h9 h10 h12 h13 plain
                    exact absurd special fun is => is.elim quote fun is => is.elim slash plain
  · cases html : htmlCodes.lookup c with
    | none =>
      simp only [Json.Special, not_or] at special
      obtain ⟨quote, slash, control⟩ := special
      have newline : isNewline c = false := by
        simp only [isNewline, Bool.or_eq_false_iff, beq_eq_false_iff_ne]
        omega
      have kept : known c = true := by
        simp only [known, Bool.and_eq_true, bne_iff_ne]
        omega
      rw [if_pos kept, spelled_plain (by simp [Json.Special, quote, slash, control]) html]
      exact readChars_plain ⟨quote, slash, newline, h⟩ rest
    | some code =>
      obtain ⟨length, read, kept, -⟩ := htmlCodes_read _ (html_mem html)
      dsimp only at length read kept
      rw [if_pos kept, spelled_html special html]
      obtain ⟨h₁, h₂, h₃, h₄, rfl⟩ : ∃ h₁ h₂ h₃ h₄, code = [h₁, h₂, h₃, h₄] := by
        rcases code with _ | ⟨h₁, _ | ⟨h₂, _ | ⟨h₃, _ | ⟨h₄, _ | ⟨h₅, more⟩⟩⟩⟩⟩
        case cons.cons.cons.cons.nil => exact ⟨h₁, h₂, h₃, h₄, rfl⟩
        all_goals simp at length
      obtain ⟨unit, hex, rfl⟩ := Option.map_eq_some_iff.mp read
      change readChars (backslash :: 'u' :: h₁ :: h₂ :: h₃ :: h₄ :: rest) = _
      rw [readChars_code, hex]
      rfl

def body (cs : List Char) : List Char := escapeTemplate (htmlEscape (escape cs))

theorem htmlEscape_cons (c : Char) (cs : List Char) :
    htmlEscape (escape (c :: cs)) = spelled c ++ htmlEscape (escape cs) := by
  rw [escape, List.flatMap_cons, htmlEscape, List.flatMap_append]
  rfl

def outcome {α : Type} (kept : Bool) (a : α) (rest : List Char) : Option (α × List Char) :=
  if kept then some (a, rest) else none

theorem map_outcome {α β : Type} (f : α → β) (kept : Bool) (a : α) (rest : List Char) :
    (outcome kept a rest).map (Prod.map f id) = outcome kept (f a) rest := by
  cases kept <;> rfl

theorem readChars_body (cs rest : List Char) :
    readChars (body cs ++ quoteMark :: rest) = outcome (cs.all known) cs rest := by
  induction cs with
  | nil => exact readChars_close rest
  | cons c cs ih =>
    unfold body at ih ⊢
    rw [htmlEscape_cons, List.all_cons]
    generalize htmlEscape (escape cs) = text at ih ⊢
    cases sigil : isSigil c with
    | false =>
      rw [escapeTemplate_spelled sigil, List.append_assoc, readChars_spelled sigil, ih, map_outcome]
      cases known c <;> rfl
    | true =>
      have kept : known c = true := by
        simp only [isSigil, Bool.or_eq_true, beq_iff_eq] at sigil
        rcases sigil with rfl | rfl <;> decide
      rw [spelled_sigil sigil, kept, Bool.true_and, List.singleton_append, ← map_outcome, ← ih]
      by_cases brace : text.head? = some openBrace
      · rw [escapeTemplate_brace sigil brace]
        obtain ⟨more, rfl⟩ := List.head?_eq_some_iff.mp brace
        rw [escapeTemplate_other (by decide)]
        exact readChars_doubled sigil _
      · rw [escapeTemplate_alone brace]
        have closed := escapeTemplate_ne sigil text
        have plain : (escapeTemplate text).head? ≠ some openBrace := by rwa [head?_escapeTemplate]
        generalize escapeTemplate text = escaped at closed plain ⊢
        refine readChars_alone sigil ?_ fun more same => ?_
        · cases escaped with
          | nil => exact fun same => absurd (Option.some.inj same) (by decide : quoteMark ≠ openBrace)
          | cons d ds => exact plain
        · cases escaped with
          | nil => exact (sigil_special sigil).1 (List.cons.inj same).1.symm
          | cons d ds =>
            cases ds with
            | nil => exact absurd (List.cons.inj (List.cons.inj same).2).1 (by decide)
            | cons e es =>
              have first := List.cons.inj same
              have second := List.cons.inj first.2
              exact closed es (by rw [first.1, second.1])

def emit (cs : List Char) : List Char := escapeTemplate (htmlEscape cs)

theorem htmlEscape_append (cs ds : List Char) : htmlEscape (cs ++ ds) = htmlEscape cs ++ htmlEscape ds :=
  List.flatMap_append

theorem emit_append (closed : Closed (htmlEscape cs)) (ds : List Char) : emit (cs ++ ds) = emit cs ++ emit ds := by
  rw [emit, htmlEscape_append, closed]
  rfl

theorem emit_other (html : htmlCodes.lookup c = none) (sigil : isSigil c = false) (cs : List Char) :
    emit (c :: cs) = c :: emit cs := by
  have plain : htmlEscape (c :: cs) = c :: htmlEscape cs := by simp [htmlEscape, htmlChar, html]
  rw [emit, plain, escapeTemplate_other sigil]
  rfl

theorem emit_mark (cs : List Char) : emit (quoteMark :: cs) = quoteMark :: emit cs :=
  emit_other (by decide) (by decide) cs

theorem emit_quote (s : String) (cs : List Char) :
    emit (quote s ++ cs) = quoteMark :: (body s.toList ++ quoteMark :: emit cs) := by
  have mark : htmlEscape (quoteMark :: cs) = quoteMark :: htmlEscape cs := by
    simp [htmlEscape, htmlChar, (by decide : htmlCodes.lookup quoteMark = none)]
  have text : emit (escape s.toList ++ quoteMark :: cs) = body s.toList ++ quoteMark :: emit cs := by
    rw [emit, htmlEscape_append, mark, escapeTemplate_append (by decide) (by decide)]
    rfl
  rw [quote, List.cons_append, List.append_assoc, List.singleton_append, emit_mark, text]

theorem numeric_other (numeric : numericChar c = true) : htmlCodes.lookup c = none ∧ isSigil c = false := by
  have none : ∀ p ∈ htmlCodes, numericChar p.1 = false := by decide
  refine ⟨?_, ?_⟩
  · cases html : htmlCodes.lookup c with
    | none => rfl
    | some code =>
      have other : numericChar c = false := none _ (html_mem html)
      rw [numeric] at other
      cases other
  · cases sigil : isSigil c with
    | false => rfl
    | true =>
      simp only [isSigil, Bool.or_eq_true, beq_iff_eq] at sigil
      rcases sigil with rfl | rfl <;> cases numeric

theorem htmlEscape_numeric (numeric : ∀ c ∈ cs, numericChar c = true) : htmlEscape cs = cs := by
  induction cs with
  | nil => rfl
  | cons c cs ih =>
    have html := (numeric_other (numeric c (by simp))).1
    rw [← List.singleton_append, htmlEscape_append, ih fun d hd => numeric d (by simp [hd])]
    simp [htmlEscape, htmlChar, html]

theorem numeric_sigils (numeric : ∀ c ∈ cs, numericChar c = true) : ∀ c ∈ cs, isSigil c = false :=
  fun c mem => (numeric_other (numeric c mem)).2

theorem emit_numeric (numeric : ∀ c ∈ cs, numericChar c = true) (rest : List Char) :
    emit (cs ++ rest) = cs ++ emit rest := by
  rw [emit, htmlEscape_append, htmlEscape_numeric numeric, escapeTemplate_chars (numeric_sigils numeric)]
  rfl

end Marshalled

section Written

open Json (write writeItems writeItemsTail writeFields writeFieldsTail quote)
open GoJson (htmlEscape htmlCodes)

theorem Closed.html {c : Char} {cs : List Char} (html : htmlEscape [c] = [c]) (sigil : isSigil c = false)
    (h : Closed (htmlEscape cs)) : Closed (htmlEscape (c :: cs)) := by
  have split : htmlEscape (c :: cs) = c :: htmlEscape cs := by
    rw [← List.singleton_append, htmlEscape_append, html]
    rfl
  intro rest
  rw [split, List.cons_append, escapeTemplate_other sigil, escapeTemplate_other sigil, h]
  rfl

theorem Closed.htmlAppend {cs ds : List Char} (h : Closed (htmlEscape cs)) (h' : Closed (htmlEscape ds)) :
    Closed (htmlEscape (cs ++ ds)) := by
  rw [htmlEscape_append]
  exact h.append h'

theorem closed_quote (s : String) : Closed (htmlEscape (quote s)) := by
  have text : htmlEscape (quote s) = (quoteMark :: htmlEscape (Json.escape s.toList)) ++ [quoteMark] := by
    rw [quote, ← List.singleton_append, htmlEscape_append, htmlEscape_append]
    rfl
  rw [text]
  exact .ended (by decide) (by decide) _

mutual

theorem closed_write : ∀ j : Json Literal, Closed (htmlEscape (write j))
  | .null => .all rfl
  | .bool true => .all rfl
  | .bool false => .all rfl
  | .num n => by
    have numeric : ∀ c ∈ write (.num n), numericChar c = true := n.text_numeric
    rw [htmlEscape_numeric numeric]
    exact .chars (numeric_sigils numeric)
  | .str s => closed_quote s
  | .arr items => (closed_writeItems items).html (by decide) (by decide)
  | .obj fields => (closed_writeFields fields).html (by decide) (by decide)

theorem closed_writeItems : ∀ xs : List (Json Literal), Closed (htmlEscape (writeItems xs))
  | [] => .all rfl
  | x :: xs => (closed_write x).htmlAppend (closed_writeItemsTail xs)

theorem closed_writeItemsTail : ∀ xs : List (Json Literal), Closed (htmlEscape (writeItemsTail xs))
  | [] => .all rfl
  | x :: xs => ((closed_write x).htmlAppend (closed_writeItemsTail xs)).html (by decide) (by decide)

theorem closed_writeFields : ∀ fs : List (String × Json Literal), Closed (htmlEscape (writeFields fs))
  | [] => .all rfl
  | (k, v) :: fs => (closed_quote k).htmlAppend
      (((closed_write v).htmlAppend (closed_writeFieldsTail fs)).html (by decide) (by decide))

theorem closed_writeFieldsTail : ∀ fs : List (String × Json Literal), Closed (htmlEscape (writeFieldsTail fs))
  | [] => .all rfl
  | (k, v) :: fs => ((closed_quote k).htmlAppend
      (((closed_write v).htmlAppend (closed_writeFieldsTail fs)).html (by decide) (by decide))).html
        (by decide) (by decide)

end

theorem emit_value (j : Json Literal) (cs : List Char) : emit (write j ++ cs) = emit (write j) ++ emit cs :=
  emit_append (closed_write j) cs

theorem emit_items (x : Json Literal) (xs : List (Json Literal)) :
    emit (writeItems (x :: xs)) = emit (write x) ++ emit (writeItemsTail xs) := emit_value x _

theorem emit_itemsTail (x : Json Literal) (xs : List (Json Literal)) :
    emit (writeItemsTail (x :: xs)) = ',' :: emit (writeItems (x :: xs)) := emit_other (by decide) (by decide) _

theorem emit_fields (k : String) (v : Json Literal) (fs : List (String × Json Literal)) :
    emit (writeFields ((k, v) :: fs)) =
      quoteMark :: (body k.toList ++ quoteMark :: ':' :: (emit (write v) ++ emit (writeFieldsTail fs))) := by
  rw [writeFields, emit_quote, emit_other (by decide) (by decide), emit_value]

theorem emit_fieldsTail (f : String × Json Literal) (fs : List (String × Json Literal)) :
    emit (writeFieldsTail (f :: fs)) = ',' :: emit (writeFields (f :: fs)) := by
  obtain ⟨k, v⟩ := f
  exact emit_other (by decide) (by decide) _

theorem emit_arr (items : List (Json Literal)) : emit (write (.arr items)) = '[' :: emit (writeItems items) :=
  emit_other (by decide) (by decide) _

theorem emit_obj (fields : List (String × Json Literal)) :
    emit (write (.obj fields)) = openBrace :: emit (writeFields fields) := emit_other (by decide) (by decide) _

theorem emit_str (s : String) : emit (write (.str s : Json Literal)) = quoteMark :: (body s.toList ++ [quoteMark]) := by
  have text := emit_quote s []
  rwa [List.append_nil] at text

theorem emit_num (n : Literal) : emit (write (.num n)) = n.text := by
  have text := emit_numeric n.text_numeric []
  rwa [List.append_nil, show emit [] = [] from rfl, List.append_nil] at text

mutual

-- No text, and no key, has a character that is written with an escape HCL does not know.
def readable : Json Literal → Bool
  | .str s => s.toList.all known
  | .arr items => readableItems items
  | .obj fields => readableFields fields
  | .null | .bool _ | .num _ => true

def readableItems : List (Json Literal) → Bool
  | [] => true
  | x :: xs => readable x && readableItems xs

def readableFields : List (String × Json Literal) → Bool
  | [] => true
  | (k, v) :: fs => k.toList.all known && (readable v && readableFields fs)

end

theorem skip_of {c : Char} {cs : List Char} (h : isBlank c = false) : skip (c :: cs) = c :: cs :=
  List.dropWhile_cons_of_neg (by simp [h])

theorem numeric_blank {c : Char} (numeric : numericChar c = true) : isBlank c = false := by
  cases blank : isBlank c with
  | false => rfl
  | true =>
    simp only [isBlank, Bool.or_eq_true, beq_iff_eq] at blank
    obtain rfl | tab := blank
    · cases numeric
    · rw [show c = Char.ofNat 9 from tab ▸ (Char.ofNat_toNat c).symm] at numeric
      cases numeric

theorem emit_head (j : Json Literal) : ∃ c cs, emit (write j) = c :: cs ∧ isBlank c = false ∧ c ≠ ']' := by
  cases j with
  | null => exact ⟨_, _, emit_other (by decide) (by decide) _, by decide, by decide⟩
  | bool b => cases b <;> exact ⟨_, _, emit_other (by decide) (by decide) _, by decide, by decide⟩
  | num n =>
    obtain ⟨c, cs, text, numeric⟩ := JsonReader.text_head n
    refine ⟨c, cs, (emit_num n).trans text, numeric_blank numeric, ?_⟩
    rintro rfl
    cases numeric
  | str s => exact ⟨_, _, emit_str s, by decide, by decide⟩
  | arr items => exact ⟨_, _, emit_arr items, by decide, by decide⟩
  | obj fields => exact ⟨_, _, emit_obj fields, by decide, by decide⟩

theorem readValue_number (n : Literal) {r : List Char} (stops : Json.Stops r) (fuel : Nat) :
    readValue (fuel + 1) (n.text ++ r) = some (.num n, r) := by
  obtain ⟨c, cs, text, numeric⟩ := JsonReader.text_head n
  have other : ∀ d, numericChar d = false → c ≠ d := by
    rintro d hd rfl
    rw [numeric] at hd
    cases hd
  have number := JsonReader.readNumber_text n stops
  rw [text, List.cons_append] at number ⊢
  rw [readValue, skip_of (numeric_blank numeric)]
  dsimp only
  rw [if_neg (other _ (by decide)), if_neg (other _ (by decide)), if_neg (other _ (by decide)),
    if_neg (other _ (by decide)), if_neg (other _ (by decide)), if_neg (other _ (by decide)), number]
  rfl

mutual

theorem readValue_emit : ∀ (j : Json Literal) {n : Nat} {r : List Char}, Json.Stops r →
    2 * (emit (write j)).length < n → readValue n (emit (write j) ++ r) = outcome (readable j) j r
  | j, 0, _, _, enough => absurd enough (Nat.not_lt_zero _)
  | .null, fuel + 1, r, _, _ => rfl
  | .bool true, fuel + 1, r, _, _ => rfl
  | .bool false, fuel + 1, r, _, _ => rfl
  | .num n, fuel + 1, r, stops, _ => by
    rw [emit_num]
    exact readValue_number n stops fuel
  | .str s, fuel + 1, r, _, _ => by
    rw [emit_str, List.cons_append, List.append_assoc, List.singleton_append, readValue, skip_of (by decide)]
    dsimp only
    rw [if_neg (by decide), if_neg (by decide), if_pos rfl, readChars_body]
    have text : (outcome (s.toList.all known) s.toList r).map (Prod.map (fun cs => Json.str (String.ofList cs)) id) =
        outcome (s.toList.all known) (.str s : Json Literal) r := by
      rw [map_outcome, String.ofList_toList]
    exact text
  | .arr [], fuel + 1, r, _, _ => rfl
  | .arr (x :: xs), fuel + 1, r, _, enough => by
    rw [emit_arr, List.length_cons] at enough
    have inner := readItems_emit (x :: xs) (List.cons_ne_nil x xs) (n := fuel) (r := r) (by omega)
    rw [emit_arr, List.cons_append, readValue, skip_of (by decide)]
    dsimp only
    rw [if_neg (by decide), if_pos rfl]
    obtain ⟨c, cs, written, blank, open'⟩ := emit_head x
    rw [emit_items, written, List.cons_append, List.cons_append] at inner ⊢
    rw [skip_of blank]
    dsimp only
    rw [if_neg open', inner]
    exact map_outcome Json.arr _ _ _
  | .obj [], fuel + 1, r, _, _ => rfl
  | .obj ((k, v) :: fs), fuel + 1, r, _, enough => by
    rw [emit_obj, List.length_cons] at enough
    have inner := readFields_emit ((k, v) :: fs) (List.cons_ne_nil (k, v) fs) (n := fuel) (r := r) (by omega)
    rw [emit_obj, List.cons_append, readValue, skip_of (by decide)]
    dsimp only
    rw [if_pos rfl]
    rw [emit_fields, List.cons_append] at inner ⊢
    rw [skip_of (by decide)]
    dsimp only
    rw [if_neg (by decide), inner]
    exact map_outcome Json.obj _ _ _

theorem readItems_emit : ∀ (xs : List (Json Literal)), xs ≠ [] → ∀ {n : Nat} {r : List Char},
    2 * (emit (writeItems xs)).length < n →
      readItems n (emit (writeItems xs) ++ r) = outcome (readableItems xs) xs r
  | [], nonempty, _, _, _ => absurd rfl nonempty
  | _ :: _, _, 0, _, enough => absurd enough (Nat.not_lt_zero _)
  | [x], _, fuel + 1, r, enough => by
    have last : emit (writeItemsTail ([] : List (Json Literal))) = [']'] := rfl
    rw [emit_items, last, List.length_append, List.length_singleton] at enough
    have first := readValue_emit x (n := fuel) (r := ']' :: r) (Json.stops_cons.mpr (by decide)) (by omega)
    rw [emit_items, last, List.append_assoc, List.singleton_append, readItems, first, readableItems, readableItems,
      Bool.and_true]
    cases readable x <;> rfl
  | x :: y :: ys, _, fuel + 1, r, enough => by
    rw [emit_items, emit_itemsTail, List.length_append, List.length_cons] at enough
    have first := readValue_emit x (n := fuel) (r := ',' :: (emit (writeItems (y :: ys)) ++ r))
      (Json.stops_cons.mpr (by decide)) (by omega)
    have rest := readItems_emit (y :: ys) (List.cons_ne_nil y ys) (n := fuel) (r := r) (by omega)
    rw [emit_items, emit_itemsTail, List.append_assoc, List.cons_append, readItems, first, readableItems]
    cases readable x with
    | false => rfl
    | true =>
      change ((readItems fuel (emit (writeItems (y :: ys)) ++ r)).bind _ : Option _) = _
      rw [rest]
      cases readableItems (y :: ys) <;> rfl

theorem readFields_emit : ∀ (fs : List (String × Json Literal)), fs ≠ [] → ∀ {n : Nat} {r : List Char},
    2 * (emit (writeFields fs)).length < n →
      readFields n (emit (writeFields fs) ++ r) = outcome (readableFields fs) fs r
  | [], nonempty, _, _, _ => absurd rfl nonempty
  | _ :: _, _, 0, _, enough => absurd enough (Nat.not_lt_zero _)
  | [(k, v)], _, fuel + 1, r, enough => by
    have last : emit (writeFieldsTail ([] : List (String × Json Literal))) = [closeBrace] := rfl
    rw [emit_fields, last, List.length_cons, List.length_append, List.length_cons, List.length_cons,
      List.length_append, List.length_singleton] at enough
    have value := readValue_emit v (n := fuel) (r := closeBrace :: r) (Json.stops_cons.mpr (by decide)) (by omega)
    rw [emit_fields, last, List.cons_append, List.append_assoc, List.cons_append, List.cons_append, List.append_assoc,
      List.singleton_append, readFields, skip_of (by decide)]
    dsimp only
    rw [if_pos rfl, readChars_body, readableFields, readableFields, Bool.and_true]
    cases k.toList.all known with
    | false => rfl
    | true =>
      change ((readValue fuel (emit (write v) ++ closeBrace :: r)).bind _ : Option _) = _
      rw [value]
      cases readable v with
      | false => rfl
      | true =>
        change some ([(String.ofList k.toList, v)], r) = some ([(k, v)], r)
        rw [String.ofList_toList]
  | (k, v) :: g :: gs, _, fuel + 1, r, enough => by
    rw [emit_fields, emit_fieldsTail, List.length_cons, List.length_append, List.length_cons, List.length_cons,
      List.length_append, List.length_cons] at enough
    have value := readValue_emit v (n := fuel) (r := ',' :: (emit (writeFields (g :: gs)) ++ r))
      (Json.stops_cons.mpr (by decide)) (by omega)
    have rest := readFields_emit (g :: gs) (List.cons_ne_nil g gs) (n := fuel) (r := r) (by omega)
    rw [emit_fields, emit_fieldsTail, List.cons_append, List.append_assoc, List.cons_append, List.cons_append,
      List.append_assoc, List.cons_append, readFields, skip_of (by decide)]
    dsimp only
    rw [if_pos rfl, readChars_body, readableFields]
    cases k.toList.all known with
    | false => rfl
    | true =>
      change ((readValue fuel (emit (write v) ++ ',' :: (emit (writeFields (g :: gs)) ++ r))).bind _ : Option _) = _
      rw [value]
      cases readable v with
      | false => rfl
      | true =>
        change ((readFields fuel (emit (writeFields (g :: gs)) ++ r)).bind _ : Option _) = _
        rw [rest]
        cases readableFields (g :: gs) with
        | false => rfl
        | true =>
          change some ((String.ofList k.toList, v) :: g :: gs, r) = some ((k, v) :: g :: gs, r)
          rw [String.ofList_toList]

end

theorem read_emit (j : Json Literal) :
    read (String.ofList (emit (write j))) = if readable j then some j else none := by
  have whole := readValue_emit j (n := 2 * (emit (write j)).length + 1) (r := []) Json.stops_nil (Nat.lt_succ_self _)
  rw [List.append_nil] at whole
  unfold read
  rw [String.toList_ofList, whole]
  cases readable j <;> rfl

end Written

end Provisr.Foundation.Hcl
