import Provisr.Foundation.HclText

namespace Provisr.Foundation.Hcl

open Json (quoteMark backslash openBrace closeBrace write writeItems writeItemsTail writeFields writeFieldsTail)

-- A line of a configuration. A word is a number, or a name and what is selected from it.
inductive Token where
  | word (s : String)
  | text (body : String)
  | mark (c : Char)
  deriving DecidableEq

inductive Scan where
  | between
  | word (cs : List Char)
  | text (body : List Char)
  | escaped (body : List Char)
  | comment

section Lexer

def isWord (c : Char) : Bool := c.isAlphanum || c == '_' || c == '-' || c == '.' || c == '+'

def start (c : Char) : Scan × List Token :=
  if isWord c then (.word [c], [])
  else if c = quoteMark then (.text [], [])
  else if c = '#' then (.comment, [])
  else if isBlank c then (.between, [])
  else (.between, [.mark c])

def step : Scan → Char → Scan × List Token
  | .between, c => start c
  | .word cs, c => if isWord c then (.word (cs ++ [c]), []) else ((start c).1, .word (String.ofList cs) :: (start c).2)
  | .text cs, c =>
    if c = quoteMark then (.between, [.text (String.ofList cs)])
    else if c = backslash then (.escaped cs, [])
    else (.text (cs ++ [c]), [])
  | .escaped cs, c => (.text (cs ++ [backslash, c]), [])
  | .comment, _ => (.comment, [])

def finish : Scan → List Token
  | .word cs => [.word (String.ofList cs)]
  | .text _ | .escaped _ => [.mark quoteMark]
  | .between | .comment => []

def lexFrom : Scan → List Char → List Token
  | s, [] => finish s
  | s, c :: cs => (step s c).2 ++ lexFrom (step s c).1 cs

def lex (cs : List Char) : List Token := lexFrom .between cs

def Apart (rest : List Char) : Prop := ∀ c ∈ rest.head?, isWord c = false

def Lexes (cs : List Char) (ts : List Token) : Prop :=
  ∀ rest, Apart rest → lexFrom .between (cs ++ rest) = ts ++ lexFrom .between rest

variable {c : Char} {cs ds rest : List Char} {ts us : List Token}

theorem Apart.nil : Apart [] := nofun

theorem Apart.cons (h : isWord c = false) : Apart (c :: rest) := fun _ same => Option.some.inj same ▸ h

theorem Lexes.lex (h : Lexes cs ts) : lex cs = ts := by
  have whole := h [] .nil
  rwa [List.append_nil, show lexFrom .between [] = [] from rfl, List.append_nil] at whole

theorem Lexes.nil : Lexes [] [] := fun _ _ => rfl

theorem Lexes.append (h : Lexes cs ts) (h' : Lexes ds us) (apart : ∀ rest, Apart rest → Apart (ds ++ rest)) :
    Lexes (cs ++ ds) (ts ++ us) := by
  intro rest stop
  rw [List.append_assoc, h _ (apart rest stop), h' rest stop, List.append_assoc]

theorem Lexes.mark (alone : start c = (.between, [.mark c])) (h : Lexes ds us) :
    Lexes (c :: ds) (.mark c :: us) := by
  intro rest stop
  rw [List.cons_append, lexFrom, show step .between c = start c from rfl, alone, h rest stop]
  rfl

theorem lexFrom_word (word : ∀ c ∈ cs, isWord c = true) (ds : List Char) :
    lexFrom (.word ds) (cs ++ rest) = lexFrom (.word (ds ++ cs)) rest := by
  induction cs generalizing ds with
  | nil => rw [List.nil_append, List.append_nil]
  | cons c cs ih =>
    rw [List.cons_append, lexFrom, step, if_pos (word c (by simp)), List.nil_append,
      ih (fun d mem => word d (by simp [mem])), List.append_assoc, List.singleton_append]

theorem lexFrom_apart (apart : Apart rest) (cs : List Char) :
    lexFrom (.word cs) rest = .word (String.ofList cs) :: lexFrom .between rest := by
  cases rest with
  | nil => rfl
  | cons c rest =>
    have other : isWord c = false := apart c rfl
    rw [lexFrom, step, other]
    rfl

theorem Lexes.word (word : ∀ c ∈ cs, isWord c = true) (filled : cs ≠ []) : Lexes cs [.word (String.ofList cs)] := by
  intro rest apart
  obtain ⟨c, cs, rfl⟩ := List.exists_cons_of_ne_nil filled
  have first : step .between c = (.word [c], []) := by rw [step, start, if_pos (word c (by simp))]
  rw [List.cons_append, lexFrom, first, List.nil_append, lexFrom_word (fun d mem => word d (by simp [mem])),
    lexFrom_apart apart]
  rfl

def Quotable (c : Char) : Prop := c ≠ quoteMark ∧ c ≠ backslash

instance (c : Char) : Decidable (Quotable c) := inferInstanceAs (Decidable (_ ∧ _))

theorem lexFrom_quotable (quotable : ∀ c ∈ cs, Quotable c) (ds : List Char) :
    lexFrom (.text ds) (cs ++ rest) = lexFrom (.text (ds ++ cs)) rest := by
  induction cs generalizing ds with
  | nil => rw [List.nil_append, List.append_nil]
  | cons c cs ih =>
    obtain ⟨quote, slash⟩ := quotable c (by simp)
    rw [List.cons_append, lexFrom, step, if_neg quote, if_neg slash, List.nil_append,
      ih (fun d mem => quotable d (by simp [mem])), List.append_assoc, List.singleton_append]

theorem lexFrom_close (cs rest : List Char) :
    lexFrom (.text cs) (quoteMark :: rest) = .text (String.ofList cs) :: lexFrom .between rest := by
  rw [lexFrom, step, if_pos rfl]
  rfl

end Lexer

section References

structure Reference where
  path : String
  index : Option String
  deriving DecidableEq

def selects (s : String) : Bool := s.toList.head?.any (fun c => c.isAlpha || c == '_') && s.toList.contains '.'

def index : List Token → Option String
  | .mark '[' :: .text k :: .mark ']' :: _ => some k
  | _ => none

def references : List Token → List Reference
  | [] => []
  | .word s :: ts => (if selects s then [⟨s, index ts⟩] else []) ++ references ts
  | _ :: ts => references ts

def Unreferring (ts : List Token) : Prop := ∀ s, .word s ∈ ts → selects s = false

variable {ts us : List Token}

theorem references_cons_mark (c : Char) (ts : List Token) : references (.mark c :: ts) = references ts := rfl

theorem references_cons_text (s : String) (ts : List Token) : references (.text s :: ts) = references ts := rfl

theorem Unreferring.append (h : Unreferring ts) (h' : Unreferring us) : Unreferring (ts ++ us) :=
  fun s mem => (List.mem_append.mp mem).elim (h s) (h' s)

theorem Unreferring.mark (h : Unreferring ts) (c : Char) : Unreferring (.mark c :: ts) := by
  intro s mem
  rcases List.mem_cons.mp mem with same | mem
  · cases same
  · exact h s mem

theorem Unreferring.references_append (h : Unreferring ts) (us : List Token) :
    references (ts ++ us) = references us := by
  induction ts with
  | nil => rfl
  | cons t ts ih =>
    have rest := ih fun s mem => h s (List.mem_cons_of_mem t mem)
    cases t with
    | word s =>
      rw [List.cons_append, references, h s (by simp), rest]
      rfl
    | text | mark => exact rest

theorem Unreferring.references (h : Unreferring ts) : references ts = [] := by
  have whole := h.references_append []
  rwa [List.append_nil] at whole

end References

section Emitted

open GoJson (htmlEscape htmlCodes)
open Json (escape escapeChar)

variable {c : Char} {cs rest : List Char}

theorem special_shape : ∀ n ∈ Json.specialCodes, ∃ x more, spelled (Char.ofNat n) = backslash :: x :: more ∧
    ∀ d ∈ more, Quotable d := by
  have shape : ∀ n ∈ Json.specialCodes, spelled (Char.ofNat n) =
      backslash :: ((spelled (Char.ofNat n)).drop 1).headD backslash :: (spelled (Char.ofNat n)).drop 2 ∧
        ((spelled (Char.ofNat n)).drop 2).all (fun d => decide (Quotable d)) = true := by decide
  exact fun n mem => ⟨_, _, (shape n mem).1, by simpa using (shape n mem).2⟩

theorem html_quotable : ∀ p ∈ htmlCodes, ∀ d ∈ p.2, Quotable d := by
  have all : ∀ p ∈ htmlCodes, p.2.all (fun d => decide (Quotable d)) = true := by decide
  exact fun p mem => by simpa using all p mem

theorem spelled_shape (c : Char) : (spelled c = [c] ∧ Quotable c) ∨
    ∃ x more, spelled c = backslash :: x :: more ∧ ∀ d ∈ more, Quotable d := by
  by_cases special : Json.Special c
  · obtain ⟨n, mem, rfl⟩ := special.code
    exact .inr (special_shape n mem)
  · cases html : htmlCodes.lookup c with
    | none =>
      simp only [Json.Special, not_or] at special
      exact .inl ⟨spelled_plain (by simpa [Json.Special] using special) html, special.1, special.2.1⟩
    | some code => exact .inr ⟨'u', code, spelled_html special html, html_quotable _ (html_mem html)⟩

theorem lexFrom_spelled (c : Char) (ds rest : List Char) :
    lexFrom (.text ds) (spelled c ++ rest) = lexFrom (.text (ds ++ spelled c)) rest := by
  obtain ⟨plain, quotable⟩ | ⟨x, more, escaped, quotable⟩ := spelled_shape c
  · rw [plain]
    exact lexFrom_quotable (by simpa using quotable) ds
  · have open_ : step (.text ds) backslash = (.escaped ds, []) := by
      rw [step, if_neg (by decide), if_pos rfl]
    rw [escaped, List.cons_append, lexFrom, open_, List.nil_append, List.cons_append, lexFrom, step, List.nil_append,
      lexFrom_quotable quotable, List.append_assoc]
    rfl

theorem lexFrom_body (cs ds rest : List Char) :
    lexFrom (.text ds) (body cs ++ rest) = lexFrom (.text (ds ++ body cs)) rest := by
  induction cs generalizing ds with
  | nil => exact congrArg (fun es => lexFrom (.text es) rest) (List.append_nil ds).symm
  | cons c cs ih =>
    unfold body at ih ⊢
    rw [htmlEscape_cons]
    generalize htmlEscape (escape cs) = text at ih ⊢
    cases sigil : isSigil c with
    | false =>
      rw [escapeTemplate_spelled sigil, List.append_assoc, lexFrom_spelled, ih, List.append_assoc]
    | true =>
      have quotable : Quotable c := ⟨(sigil_special sigil).1, (sigil_special sigil).2.1⟩
      rw [spelled_sigil sigil, List.singleton_append]
      by_cases brace : text.head? = some openBrace
      · have twice : lexFrom (.text ds) ([c, c] ++ (escapeTemplate text ++ rest)) =
            lexFrom (.text (ds ++ [c, c])) (escapeTemplate text ++ rest) := lexFrom_quotable (by simpa using quotable) ds
        rw [escapeTemplate_brace sigil brace, List.cons_append, List.cons_append]
        exact twice.trans ((ih _).trans (by rw [List.append_assoc]; rfl))
      · have once : lexFrom (.text ds) ([c] ++ (escapeTemplate text ++ rest)) =
            lexFrom (.text (ds ++ [c])) (escapeTemplate text ++ rest) := lexFrom_quotable (by simpa using quotable) ds
        rw [escapeTemplate_alone brace, List.cons_append]
        exact once.trans ((ih _).trans (by rw [List.append_assoc]; rfl))

theorem lexes_quoted (s : String) :
    Lexes (quoteMark :: (body s.toList ++ [quoteMark])) [.text (String.ofList (body s.toList))] := by
  intro rest _
  have opening : step .between quoteMark = (.text [], []) := rfl
  rw [List.cons_append, lexFrom, opening, List.nil_append, List.append_assoc, lexFrom_body, List.nil_append,
    List.singleton_append, lexFrom_close]
  rfl

theorem numeric_word (numeric : numericChar c = true) : isWord c = true := by
  simp only [numericChar, Bool.or_eq_true, beq_iff_eq] at numeric
  simp only [isWord, Char.isAlphanum, Bool.or_eq_true, beq_iff_eq]
  rcases numeric with ((((digit | rfl) | rfl) | rfl) | rfl) | rfl
  · exact .inl (.inl (.inl (.inl (.inr digit))))
  all_goals decide

theorem digit_alpha (digit : c.isDigit = true) : (c.isAlpha || c == '_') = false := by
  simp only [Char.isDigit, Bool.and_eq_true, decide_eq_true_eq, UInt32.le_iff_toNat_le] at digit
  have high : c.val.toNat ≤ 57 := digit.2
  have upper : c.isUpper = (decide ('A'.val ≤ c.val ∧ c.val ≤ 'Z'.val)) := rfl
  have lower : c.isLower = (decide ('a'.val ≤ c.val) && decide (c.val ≤ 'z'.val)) := rfl
  have notUpper : c.isUpper = false := by
    rw [upper, decide_eq_false_iff_not, UInt32.le_iff_toNat_le]
    exact fun within => absurd (within.1.trans high) (by decide)
  have notLower : c.isLower = false := by
    rw [lower, Bool.and_eq_false_iff, decide_eq_false_iff_not, UInt32.le_iff_toNat_le]
    exact .inl fun within => absurd (within.trans high) (by decide)
  have alpha : c.isAlpha = (c.isUpper || c.isLower) := rfl
  rw [alpha, notUpper, notLower, Bool.false_or, Bool.false_or, beq_eq_false_iff_ne]
  rintro rfl
  exact absurd high (by decide)

theorem literal_selects (n : Literal) : selects (String.ofList n.text) = false := by
  have first : ∀ c ∈ n.text.head?, (c.isAlpha || c == '_') = false := by
    intro c mem
    unfold Literal.text at mem
    cases negative : n.negative with
    | true =>
      rw [negative] at mem
      obtain rfl := Option.some.inj mem
      rfl
    | false =>
      rw [negative] at mem
      obtain ⟨d, ds, whole⟩ := List.exists_cons_of_ne_nil n.whole_ne_nil
      rw [whole] at mem
      obtain rfl := Option.some.inj mem
      exact digit_alpha (List.all_eq_true.mp n.whole_digits d (by simp [whole]))
  unfold selects
  rw [String.toList_ofList]
  cases head : n.text.head? with
  | none => rfl
  | some c => rw [Option.any_some, first c head, Bool.false_and]

def Literally (cs : List Char) : Prop := ∃ ts, Lexes cs ts ∧ Unreferring ts

theorem Literally.mark (alone : start c = (.between, [.mark c])) (h : Literally cs) : Literally (c :: cs) := by
  obtain ⟨ts, lexes, unreferring⟩ := h
  exact ⟨_, lexes.mark alone, unreferring.mark c⟩

theorem Literally.append {ds : List Char} (h : Literally cs) (h' : Literally ds)
    (apart : ∀ c ∈ ds.head?, isWord c = false) (filled : ds ≠ []) : Literally (cs ++ ds) := by
  obtain ⟨ts, lexes, unreferring⟩ := h
  obtain ⟨us, lexes', unreferring'⟩ := h'
  obtain ⟨d, ds, rfl⟩ := List.exists_cons_of_ne_nil filled
  exact ⟨_, lexes.append lexes' fun rest _ => .cons (apart d rfl), unreferring.append unreferring'⟩

theorem literally_quoted (s : String) : Literally (quoteMark :: (body s.toList ++ [quoteMark])) :=
  ⟨_, lexes_quoted s, by simp [Unreferring]⟩

theorem literally_word (w : String) (word : w.toList.all isWord = true) (filled : w.toList ≠ [])
    (plain : selects w = false) : Literally w.toList := by
  refine ⟨_, .word (List.all_eq_true.mp word) filled, fun s mem => ?_⟩
  obtain rfl := Token.word.inj (List.mem_singleton.mp mem)
  rw [String.ofList_toList, plain]

theorem literally_empty : Literally [] := ⟨[], .nil, nofun⟩

theorem literally_close {c : Char} (alone : start c = (.between, [.mark c])) : Literally [c] := literally_empty.mark alone

theorem tail_head (xs : List (Json Literal)) :
    (∀ c ∈ (emit (writeItemsTail xs)).head?, isWord c = false) ∧ emit (writeItemsTail xs) ≠ [] := by
  cases xs with
  | nil => exact ⟨fun c mem => Option.some.inj mem ▸ rfl, by decide⟩
  | cons x xs =>
    rw [emit_itemsTail]
    exact ⟨fun c mem => Option.some.inj mem ▸ rfl, List.cons_ne_nil _ _⟩

theorem fieldsTail_head (fs : List (String × Json Literal)) :
    (∀ c ∈ (emit (writeFieldsTail fs)).head?, isWord c = false) ∧ emit (writeFieldsTail fs) ≠ [] := by
  cases fs with
  | nil => exact ⟨fun c mem => Option.some.inj mem ▸ rfl, by decide⟩
  | cons f fs =>
    rw [emit_fieldsTail]
    exact ⟨fun c mem => Option.some.inj mem ▸ rfl, List.cons_ne_nil _ _⟩

theorem literally_field {k : String} {ds : List Char} (h : Literally ds) :
    Literally (quoteMark :: (body k.toList ++ quoteMark :: ':' :: ds)) := by
  have split : quoteMark :: (body k.toList ++ quoteMark :: ':' :: ds) =
      (quoteMark :: (body k.toList ++ [quoteMark])) ++ ':' :: ds := by simp
  rw [split]
  exact (literally_quoted k).append (h.mark rfl) (fun c mem => Option.some.inj mem ▸ rfl) (List.cons_ne_nil _ _)

mutual

theorem literally_emit : ∀ j : Json Literal, Literally (emit (write j))
  | .null => literally_word "null" (by decide) (by decide) (by decide)
  | .bool true => literally_word "true" (by decide) (by decide) (by decide)
  | .bool false => literally_word "false" (by decide) (by decide) (by decide)
  | .num n => by
    rw [emit_num]
    refine ⟨_, .word (fun c mem => numeric_word (n.text_numeric c mem)) ?_, fun s mem => ?_⟩
    · intro empty
      have whole := n.whole_ne_nil
      simp [Literal.text, whole] at empty
    · obtain rfl := Token.word.inj (List.mem_singleton.mp mem)
      exact literal_selects n
  | .str s => by
    rw [emit_str]
    exact literally_quoted s
  | .arr items => by
    rw [emit_arr]
    exact (literally_items items).mark rfl
  | .obj fields => by
    rw [emit_obj]
    exact (literally_fields fields).mark rfl

theorem literally_items : ∀ xs : List (Json Literal), Literally (emit (writeItems xs))
  | [] => literally_close rfl
  | x :: xs => by
    rw [emit_items]
    exact (literally_emit x).append (literally_itemsTail xs) (tail_head xs).1 (tail_head xs).2

theorem literally_itemsTail : ∀ xs : List (Json Literal), Literally (emit (writeItemsTail xs))
  | [] => literally_close rfl
  | x :: xs => by
    rw [emit_itemsTail, emit_items]
    exact ((literally_emit x).append (literally_itemsTail xs) (tail_head xs).1 (tail_head xs).2).mark rfl

theorem literally_fields : ∀ fs : List (String × Json Literal), Literally (emit (writeFields fs))
  | [] => literally_close rfl
  | (k, v) :: fs => by
    rw [emit_fields]
    exact literally_field ((literally_emit v).append (literally_fieldsTail fs) (fieldsTail_head fs).1 (fieldsTail_head fs).2)

theorem literally_fieldsTail : ∀ fs : List (String × Json Literal), Literally (emit (writeFieldsTail fs))
  | [] => literally_close rfl
  | (k, v) :: fs => by
    rw [emit_fieldsTail, emit_fields]
    exact (literally_field
      ((literally_emit v).append (literally_fieldsTail fs) (fieldsTail_head fs).1 (fieldsTail_head fs).2)).mark rfl

end

end Emitted

section Lines

def unlines (ls : List (List Char)) : List Char := ls.flatMap (· ++ ['\n'])

def lines (cs : List Char) : List (List Char) := cs.splitOn '\n'

def Unbroken (cs : List Char) : Prop := '\n' ∉ cs

instance (cs : List Char) : Decidable (Unbroken cs) := inferInstanceAs (Decidable ('\n' ∉ cs))

theorem lines_unlines {ls : List (List Char)} (unbroken : ∀ l ∈ ls, Unbroken l) : lines (unlines ls) = ls ++ [[]] := by
  induction ls with
  | nil => rfl
  | cons l ls ih =>
    have rest := ih fun m mem => unbroken m (by simp [mem])
    have own : Unbroken l := unbroken l (by simp)
    unfold lines unlines at rest ⊢
    rw [List.flatMap_cons, List.append_assoc, List.singleton_append, List.splitOn_append_cons_self_of_not_mem own, rest]
    rfl

theorem unlines_append (ls ms : List (List Char)) : unlines (ls ++ ms) = unlines ls ++ unlines ms := List.flatMap_append

def lexed (content : String) : List (List Token) := (lines content.toList).map lex

theorem lexed_unlines {ls : List (List Char)} (unbroken : ∀ l ∈ ls, Unbroken l) :
    lexed (String.ofList (unlines ls)) = ls.map lex ++ [[]] := by
  rw [lexed, String.toList_ofList, lines_unlines unbroken, List.map_append]
  rfl

theorem unbroken_of_printable {cs : List Char} (printable : Json.Printable cs) : Unbroken cs := fun broken =>
  absurd (printable _ broken) (by decide)

theorem guard_mem {s c : Char} {cs : List Char} (mem : c ∈ guard s cs) : c ∈ cs := by
  induction cs with
  | nil => exact mem
  | cons d cs ih =>
    unfold guard at mem
    split at mem
    · simp only [List.mem_cons] at mem ⊢
      tauto
    · simp only [List.mem_cons] at mem ⊢
      tauto

theorem htmlChar_printable {c : Char} (h : 32 ≤ c.toNat) : Json.Printable (GoJson.htmlChar c) := by
  have codes : ∀ p ∈ GoJson.htmlCodes, Json.Printable (backslash :: 'u' :: p.2) := by decide
  unfold GoJson.htmlChar
  cases html : GoJson.htmlCodes.lookup c with
  | none => simpa using h
  | some code => exact codes _ (html_mem html)

theorem emit_unbroken (j : Json Literal) : Unbroken (emit (write j)) := by
  refine unbroken_of_printable fun c mem => ?_
  obtain ⟨d, own, spelled⟩ := List.mem_flatMap.mp (guard_mem (guard_mem mem))
  exact htmlChar_printable (Json.write_printable j d own) c spelled

structure Written (s : String) (ls : List (List Char)) : Prop where
  lines : s.toList = unlines ls
  unbroken : ∀ l ∈ ls, Unbroken l

variable {s t : String} {ls ms : List (List Char)}

theorem Written.append (h : Written s ls) (h' : Written t ms) : Written (s ++ t) (ls ++ ms) := by
  refine ⟨?_, List.forall_mem_append.mpr ⟨h.unbroken, h'.unbroken⟩⟩
  rw [String.toList_append, h.lines, h'.lines, unlines_append]

theorem Written.join {α : Type} {f : α → String} {g : α → List (List Char)} {xs : List α}
    (each : ∀ x ∈ xs, Written (f x) (g x)) : Written (String.join (xs.map f)) (xs.flatMap g) := by
  induction xs with
  | nil => exact ⟨by simp [unlines], nofun⟩
  | cons x xs ih =>
    rw [List.map_cons, String.join_cons, List.flatMap_cons]
    exact (each x (by simp)).append (ih fun y mem => each y (by simp [mem]))

theorem Written.newline (unbroken : Unbroken s.toList) : Written (s ++ "\n") [s.toList] := by
  refine ⟨?_, by simpa using unbroken⟩
  rw [String.toList_append, show "\n".toList = ['\n'] by decide, unlines, List.flatMap_singleton]

theorem Written.of {cs : List Char} (whole : unlines (Hcl.lines cs).dropLast = cs)
    (unbroken : ∀ l ∈ (Hcl.lines cs).dropLast, Unbroken l) : Written (String.ofList cs) (Hcl.lines cs).dropLast :=
  ⟨by rw [String.toList_ofList, whole], unbroken⟩

def Means (s : String) (tss : List (List Token)) : Prop := ∃ ls, Written s ls ∧ ls.map lex = tss

variable {tss uss : List (List Token)}

theorem Means.lexed (h : Means s tss) : lexed s = tss ++ [[]] := by
  obtain ⟨ls, written, rfl⟩ := h
  have whole := lexed_unlines written.unbroken
  rwa [← written.lines, String.ofList_toList] at whole

theorem Means.append (h : Means s tss) (h' : Means t uss) : Means (s ++ t) (tss ++ uss) := by
  obtain ⟨ls, written, rfl⟩ := h
  obtain ⟨ms, written', rfl⟩ := h'
  exact ⟨_, written.append written', List.map_append⟩

theorem Means.join {α : Type} {f : α → String} {g : α → List (List Token)} {xs : List α}
    (each : ∀ x ∈ xs, Means (f x) (g x)) : Means (String.join (xs.map f)) (xs.flatMap g) := by
  induction xs with
  | nil => exact ⟨[], ⟨rfl, nofun⟩, rfl⟩
  | cons x xs ih =>
    rw [List.map_cons, String.join_cons, List.flatMap_cons]
    exact (each x (by simp)).append (ih fun y mem => each y (by simp [mem]))

theorem Means.newline {ts : List Token} (unbroken : Unbroken s.toList) (read : lex s.toList = ts) :
    Means (s ++ "\n") [ts] := ⟨_, .newline unbroken, by rw [List.map_singleton, read]⟩

theorem Means.of {cs : List Char} (whole : unlines (Hcl.lines cs).dropLast = cs)
    (unbroken : ∀ l ∈ (Hcl.lines cs).dropLast, Unbroken l) :
    Means (String.ofList cs) ((Hcl.lines cs).dropLast.map lex) := ⟨_, .of whole unbroken, rfl⟩

end Lines

end Provisr.Foundation.Hcl
