import Provisr.Contracts.MetricFilterGrammar
import Mathlib.Data.List.Infix

namespace Provisr.Contracts

open Provisr.Foundation Regex

section Search

variable {key cs rest xs ys : List Char} {value : String}

theorem dropWhile_spaces {c : Char} (spaced : Spaces xs) (dark : PyText.isSpace c = false) :
    (xs ++ c :: ys).dropWhile PyText.isSpace = c :: ys := by
  rw [List.dropWhile_append_of_pos spaced]
  exact List.dropWhile_cons_of_neg (by simp [dark])

theorem spaces_takeWhile (cs : List Char) : Spaces (cs.takeWhile PyText.isSpace) := fun _ => List.mem_takeWhile_imp

theorem selector_eq_some_iff : selector key cs = some (value, rest) ↔
    ∃ before after inner, Spaces before ∧ Spaces after ∧ inner ≠ [] ∧ '"' ∉ inner ∧ value = String.ofList inner ∧
      cs = key ++ (before ++ '=' :: after) ++ '"' :: (inner ++ '"' :: rest) := by
  constructor
  · intro found
    unfold selector at found
    split at found
    · rename_i starts
      obtain ⟨tail, rfl⟩ := List.isPrefixOf_iff_prefix.mp starts
      rw [List.drop_left] at found
      split at found
      · rename_i first eqFirst
        split at found
        · rename_i second eqSecond
          split at found
          · cases found
          · cases found
          · rename_i inner close remains eqThird some
            obtain ⟨rfl, rfl⟩ := Prod.mk.inj (Option.some.inj found)
            have ending : close = '"' := by
              have := List.head?_dropWhile_not (· != '"') second
              rw [eqThird] at this
              simpa using this
            refine ⟨tail.takeWhile PyText.isSpace, first.takeWhile PyText.isSpace, second.takeWhile (· != '"'),
              spaces_takeWhile _, spaces_takeWhile _, some, ?_, rfl, ?_⟩
            · intro inside
              have := List.mem_takeWhile_imp inside
              simp at this
            · have one := List.takeWhile_append_dropWhile (p := PyText.isSpace) (l := tail)
              have two := List.takeWhile_append_dropWhile (p := PyText.isSpace) (l := first)
              have three := List.takeWhile_append_dropWhile (p := (· != '"')) (l := second)
              rw [eqThird, ending] at three
              rw [eqSecond] at two
              rw [eqFirst] at one
              simp only [List.append_assoc, List.cons_append, three, two, one]
        · cases found
      · cases found
    · cases found
  · rintro ⟨before, after, inner, sb, sa, nonempty, plain, rfl, rfl⟩
    have outer : ∀ c ∈ inner, (c != '"') = true := by
      intro c hc
      simp only [bne_iff_ne]
      rintro rfl
      exact plain hc
    unfold selector
    rw [if_pos (by simp [List.isPrefixOf_iff_prefix]), List.append_assoc, List.drop_left, List.append_assoc,
      List.cons_append, dropWhile_spaces sb (by decide)]
    simp only
    rw [dropWhile_spaces sa (by decide)]
    simp only
    rw [List.takeWhile_append_of_pos outer, List.dropWhile_append_of_pos outer]
    simp

theorem selector_length (found : selector key cs = some (value, rest)) : rest.length < cs.length := by
  obtain ⟨before, after, inner, -, -, -, -, -, rfl⟩ := selector_eq_some_iff.mp found
  simp
  omega

theorem selectors_fuel {f g : Nat} (hf : cs.length < f) (hg : cs.length < g) :
    selectors key f cs = selectors key g cs := by
  induction f generalizing g cs with
  | zero => omega
  | succ f ih =>
    cases g with
    | zero => omega
    | succ g =>
      cases cs with
      | nil => rfl
      | cons c cs =>
        rw [List.length_cons] at hf hg
        unfold selectors
        split
        · rename_i value rest found
          have := selector_length found
          rw [List.length_cons] at this
          have same : selectors key f rest = selectors key g rest := ih (by omega) (by omega)
          rw [same]
        · exact ih (by omega) (by omega)

-- re.findall
def found (key cs : List Char) : List String := selectors key (cs.length + 1) cs

theorem selects_iff {key expected filter : String} :
    selects key expected filter = true ↔ found key.toList filter.toList = [expected] := beq_iff_eq

theorem found_some {c : Char} (here : selector key (c :: cs) = some (value, rest)) :
    found key (c :: cs) = value :: found key rest := by
  have := selector_length here
  unfold found
  rw [List.length_cons] at this ⊢
  rw [selectors, here]
  simp only
  rw [selectors_fuel (f := cs.length + 1) (by omega) (Nat.lt_succ_self _)]

theorem found_none {c : Char} (here : selector key (c :: cs) = none) : found key (c :: cs) = found key cs := by
  unfold found
  rw [List.length_cons, selectors, here]

theorem found_skip (never : ∀ zs : List Char, zs ≠ [] → zs <:+ xs → selector key (zs ++ ys) = none) :
    found key (xs ++ ys) = found key ys := by
  induction xs with
  | nil => rfl
  | cons x xs ih =>
    have here := never (x :: xs) (List.cons_ne_nil _ _) List.suffix_rfl
    rw [List.cons_append] at here ⊢
    rw [found_none here]
    exact ih fun zs some suffix => never zs some (suffix.trans (List.suffix_cons x xs))

theorem prefix_of_selector (found : selector key cs = some (value, rest)) : key <+: cs := by
  obtain ⟨before, after, inner, -, -, -, -, -, rfl⟩ := selector_eq_some_iff.mp found
  rw [List.append_assoc]
  exact List.prefix_append _ _

theorem selector_none (other : ¬ key <+: cs) : selector key cs = none := by
  cases result : selector key cs with
  | none => rfl
  | some pair => exact absurd (prefix_of_selector result) other

theorem found_skip_foreign {k : Char} {ks : List Char} (foreign : k ∉ xs) :
    found (k :: ks) (xs ++ ys) = found (k :: ks) ys := by
  refine found_skip fun zs some suffix => selector_none ?_
  cases zs with
  | nil => exact absurd rfl some
  | cons z zs =>
    intro starts
    rw [List.cons_append, List.cons_prefix_cons] at starts
    exact foreign (suffix.subset (starts.1 ▸ List.mem_cons_self))

theorem prefix_before {d : Char} (lacks : d ∉ key) (starts : key <+: xs ++ d :: ys) : key <+: xs := by
  induction xs generalizing key with
  | nil =>
    cases key with
    | nil => exact List.nil_prefix
    | cons k ks =>
      rw [List.nil_append, List.cons_prefix_cons] at starts
      exact absurd (starts.1 ▸ List.mem_cons_self) lacks
  | cons x xs ih =>
    cases key with
    | nil => exact List.nil_prefix
    | cons k ks =>
      rw [List.cons_append, List.cons_prefix_cons] at starts
      rw [List.cons_prefix_cons]
      exact ⟨starts.1, ih (fun inside => lacks (List.mem_cons_of_mem _ inside)) starts.2⟩

theorem found_skip_without {d : Char} (lacks : d ∉ key) (without : ¬ key <:+: xs) :
    found key (xs ++ d :: ys) = found key (d :: ys) := by
  refine found_skip fun zs _ suffix => selector_none fun starts => without ?_
  exact (prefix_before lacks starts).isInfix.trans suffix.isInfix

theorem quote_splits {a b c d : List Char} (ha : '"' ∉ a) (hb : '"' ∉ b) (same : a ++ '"' :: c = b ++ '"' :: d) :
    a = b ∧ c = d := by
  induction a generalizing b with
  | nil =>
    cases b with
    | nil => exact ⟨rfl, (List.cons.inj same).2⟩
    | cons x b => exact absurd ((List.cons.inj same).1 ▸ List.mem_cons_self) hb
  | cons x a ih =>
    cases b with
    | nil => exact absurd ((List.cons.inj same).1 ▸ List.mem_cons_self) ha
    | cons y b =>
      obtain ⟨rfl, later⟩ := List.cons.inj same
      obtain ⟨rfl, rfl⟩ := ih (fun h => ha (List.mem_cons_of_mem _ h)) (fun h => hb (List.mem_cons_of_mem _ h)) later
      exact ⟨rfl, rfl⟩

end Search

section Keys

theorem forall_of_all {p : Char → Prop} [DecidablePred p] {cs : List Char}
    (all : cs.all (fun c => decide (p c)) = true) : ∀ c ∈ cs, p c :=
  fun c member => of_decide_eq_true (List.all_eq_true.mp all c member)

variable {K k : Key}

theorem isType_text (type : K.IsType) : ∃ h t, K.text = h :: t ∧ (h = 'm' ∨ h = 'r') := by
  rcases type with rfl | rfl
  · exact ⟨'m', "etric.type".toList, by decide, .inl rfl⟩
  · exact ⟨'r', "esource.type".toList, by decide, .inr rfl⟩

theorem isType_chars (type : K.IsType) : ∀ c ∈ K.text, c ≠ '=' ∧ c ≠ '"' ∧ PyText.isSpace c = false := by
  rcases type with rfl | rfl
  · exact forall_of_all (by decide)
  · exact forall_of_all (by decide)

theorem infix_around {a d b : Char} {front name : List Char} (inside : [a, d, b] <:+: front ++ name)
    (lacks : d ∉ name) : [a, d, b] <:+: front ∨ [a, d] <:+ front := by
  obtain ⟨u, v, same⟩ := inside
  have split : (u ++ [a, d]) ++ (b :: v) = front ++ name := by simpa using same
  rcases List.append_eq_append_iff.mp split with ⟨t, rfl, rest⟩ | ⟨t, whole, rest⟩
  · cases t with
    | nil => exact .inr ⟨u, by simp⟩
    | cons x t =>
      obtain ⟨rfl, -⟩ := List.cons.inj rest
      exact .inl ⟨u, t, by simp⟩
  · rcases List.eq_nil_or_concat t with rfl | ⟨t, x, rfl⟩
    · exact .inr ⟨u, by simpa using whole⟩
    · have last := congrArg List.getLast? whole
      rw [List.concat_eq_append, ← List.append_assoc, List.getLast?_concat] at last
      simp only [List.getLast?_append, List.getLast?_cons_cons, List.getLast?_singleton, Option.some_or,
        Option.some.injEq] at last
      refine absurd ?_ lacks
      rw [rest, last]
      simp

theorem label_lacks_dot {name : List Char} (label : isLabel name = true) : '.' ∉ name := by
  have dot : ranges lower "_" '.' = false ∧ ranges lowerDigit "_" '.' = false := by decide
  cases name with
  | nil => cases label
  | cons c cs =>
    obtain ⟨first, all⟩ := Bool.and_eq_true_iff.mp label
    rintro (_ | ⟨_, inside⟩)
    · rw [List.head?_cons, Option.any_some, dot.1] at first
      cases first
    · have := List.all_eq_true.mp all '.' inside
      rw [dot.2] at this
      cases this

theorem label_without (type : K.IsType) {front name : List Char} (label : isLabel name = true)
    (inside : K.text <:+: front ++ name) (dots : ∀ a ∈ ['c', 'e'], ¬ [a, '.', 't'] <:+: front ∧ ¬ [a, '.'] <:+ front) :
    False := by
  have middle : ∃ a ∈ ['c', 'e'], [a, '.', 't'] <:+: K.text := by
    rcases type with rfl | rfl
    · exact ⟨'c', by decide, by decide⟩
    · exact ⟨'e', by decide, by decide⟩
  obtain ⟨a, ha, here⟩ := middle
  rcases infix_around (here.trans inside) (label_lacks_dot label) with inner | ending
  · exact (dots a ha).1 inner
  · exact (dots a ha).2 ending

theorem key_without (type : K.IsType) (other : k ≠ K) : ¬ K.text <:+: k.text := by
  intro inside
  cases k with
  | metricType =>
    rcases type with rfl | rfl
    · exact other rfl
    · revert inside
      decide
  | resourceType =>
    rcases type with rfl | rfl
    · revert inside
      decide
    · exact other rfl
  | metricLabel name => exact label_without type name.property inside (forall_of_all (by decide))
  | resourceLabel name => exact label_without type name.property inside (forall_of_all (by decide))

end Keys

section Scan

variable {K : Key} {c : Clause} {cs : List Clause} {rest w : List Char}

theorem found_foreign (type : K.IsType) {xs : List Char} (foreign : 'm' ∉ xs ∧ 'r' ∉ xs) :
    found K.text (xs ++ rest) = found K.text rest := by
  obtain ⟨h, t, same, rfl | rfl⟩ := isType_text type
  · rw [same]
    exact found_skip_foreign foreign.1
  · rw [same]
    exact found_skip_foreign foreign.2

theorem spaces_foreign {xs : List Char} (spaced : Spaces xs) : 'm' ∉ xs ∧ 'r' ∉ xs :=
  ⟨fun inside => absurd (spaced 'm' inside) (by decide), fun inside => absurd (spaced 'r' inside) (by decide)⟩

theorem found_gap (type : K.IsType) (g : Gap) : found K.text (g.text ++ rest) = found K.text rest := by
  refine found_foreign type ?_
  have left := spaces_foreign g.spacedLeft
  have right := spaces_foreign g.spacedRight
  simp [Gap.text, left, right]

theorem found_opening (type : K.IsType) : found K.text (c.opening ++ rest) = found K.text rest := by
  refine found_foreign type ?_
  have left := spaces_foreign c.spacedBefore
  have right := spaces_foreign c.spacedAfter
  simp [Clause.opening, left, right]

theorem opening_head (c : Clause) : ∃ d t, c.opening = d :: t ∧ (d = '=' ∨ PyText.isSpace d = true) := by
  cases before : c.before with
  | nil => exact ⟨'=', _, by rw [Clause.opening, before]; rfl, .inl rfl⟩
  | cons x xs =>
    exact ⟨x, _, by rw [Clause.opening, before]; rfl, .inr (c.spacedBefore x (before ▸ List.mem_cons_self))⟩

theorem found_head (type : K.IsType) (other : c.key ≠ K) :
    found K.text (c.key.text ++ (c.opening ++ rest)) = found K.text rest := by
  obtain ⟨d, t, same, dark⟩ := opening_head c
  have lacks : d ∉ K.text := by
    intro inside
    obtain ⟨equals, -, spaced⟩ := isType_chars type d inside
    rcases dark with rfl | light
    · exact equals rfl
    · rw [spaced] at light
      cases light
  have skip : found K.text (c.key.text ++ d :: (t ++ rest)) = found K.text (d :: (t ++ rest)) :=
    found_skip_without lacks (key_without type other)
  rw [← List.cons_append, ← same] at skip
  rw [skip, found_opening type]

theorem value_plain (c : Clause) : '"' ∉ c.value := fun inside => (c.plain '"' inside).1 rfl

theorem key_plain (type : K.IsType) {before after : List Char} (sb : Spaces before) (sa : Spaces after) :
    '"' ∉ K.text ++ (before ++ '=' :: after) := by
  have key : '"' ∉ K.text := fun inside => (isType_chars type '"' inside).2.1 rfl
  have left : '"' ∉ before := fun inside => absurd (sb '"' inside) (by decide)
  have right : '"' ∉ after := fun inside => absurd (sa '"' inside) (by decide)
  simp [key, left, right]

theorem selector_in_value (type : K.IsType) {zs inner : List Char} (plain : '"' ∉ zs) {value : String}
    (run : selector K.text (zs ++ '"' :: rest) = some (value, inner)) :
    (∃ before after, zs = K.text ++ (before ++ '=' :: after) ∧ Spaces before ∧ Spaces after) ∧
      ∃ quoted, quoted ≠ [] ∧ value = String.ofList quoted ∧ rest = quoted ++ '"' :: inner := by
  obtain ⟨before, after, quoted, sb, sa, nonempty, -, rfl, same⟩ := selector_eq_some_iff.mp run
  obtain ⟨rfl, rfl⟩ := quote_splits plain (key_plain type sb sa) same
  exact ⟨⟨before, after, rfl, sb, sa⟩, quoted, nonempty, rfl, rfl⟩

theorem found_value (type : K.IsType) (open_ : c.Hides K → rest = []) :
    found K.text (c.value ++ '"' :: rest) = found K.text rest := by
  rw [found_skip]
  · have foreign : 'm' ∉ ['"'] ∧ 'r' ∉ ['"'] := by decide
    exact found_foreign type foreign
  · intro zs _ suffix
    cases run : selector K.text (zs ++ '"' :: rest) with
    | none => rfl
    | some pair =>
      obtain ⟨value, inner⟩ := pair
      have plain : '"' ∉ zs := fun inside => value_plain c (suffix.subset inside)
      obtain ⟨⟨before, after, rfl, sb, sa⟩, quoted, -, -, follows⟩ := selector_in_value type plain run
      obtain ⟨front, same⟩ := suffix
      rw [open_ ⟨front, before, after, same.symm, sb, sa⟩] at follows
      exact absurd follows.symm (by simp)

theorem found_hidden (type : K.IsType) {zs before after tail : List Char} {x : Char} (plain : '"' ∉ zs)
    (hides : ∃ front, zs = front ++ (K.text ++ (before ++ '=' :: after))) (sb : Spaces before) (sa : Spaces after)
    (spaced : PyText.isSpace x = true) (quote : '"' ∈ x :: tail) :
    ∃ value ∈ found K.text (zs ++ '"' :: x :: tail), value.toList.head? = some x := by
  induction zs with
  | nil =>
    obtain ⟨front, same⟩ := hides
    exact absurd same.symm (by simp)
  | cons z zs ih =>
    cases run : selector K.text (z :: zs ++ '"' :: x :: tail) with
    | some pair =>
      obtain ⟨value, inner⟩ := pair
      obtain ⟨-, quoted, nonempty, rfl, follows⟩ := selector_in_value type plain run
      refine ⟨String.ofList quoted, ?_, ?_⟩
      · rw [List.cons_append] at run ⊢
        rw [found_some run]
        exact List.mem_cons_self
      · rw [String.toList_ofList]
        cases quoted with
        | nil => exact absurd rfl nonempty
        | cons y quoted => rw [List.head?_cons, (List.cons.inj follows).1]
    | none =>
      obtain ⟨front, same⟩ := hides
      cases front with
      | nil =>
        obtain ⟨inner, more, split, clear⟩ := List.eq_append_cons_of_mem quote
        have filled : inner ≠ [] := by
          rintro rfl
          have : PyText.isSpace '"' = true := (List.cons.inj split).1 ▸ spaced
          exact absurd this (by decide)
        have here : selector K.text (z :: zs ++ '"' :: x :: tail) = some (String.ofList inner, more) :=
          selector_eq_some_iff.mpr
            ⟨before, after, inner, sb, sa, filled, clear, rfl, by rw [same, split, List.nil_append]⟩
        rw [run] at here
        cases here
      | cons y front =>
        obtain ⟨rfl, later⟩ := List.cons.inj same
        obtain ⟨value, member, head⟩ := ih (fun inside => plain (List.mem_cons_of_mem _ inside)) ⟨front, later⟩
        refine ⟨value, ?_, head⟩
        rw [List.cons_append] at run ⊢
        rw [found_none run]
        exact member

theorem text_append : c.text ++ rest = c.key.text ++ (c.opening ++ (c.value ++ '"' :: rest)) := by
  simp [Clause.text]

theorem found_same (type : K.IsType) (same : c.key = K) :
    found K.text (c.text ++ rest) = c.worth :: found K.text rest := by
  obtain ⟨h, t, cons, -⟩ := isType_text type
  have here : selector K.text (c.text ++ rest) = some (c.worth, rest) :=
    selector_eq_some_iff.mpr ⟨c.before, c.after, c.value, c.spacedBefore, c.spacedAfter, c.nonempty, value_plain c, rfl,
      by simp [text_append, Clause.opening, same]⟩
  have form : c.text ++ rest = h :: (t ++ (c.opening ++ (c.value ++ '"' :: rest))) := by
    rw [text_append, same, cons, List.cons_append]
  rw [form] at here ⊢
  exact found_some here

theorem found_other (type : K.IsType) (other : c.key ≠ K) (open_ : c.Hides K → rest = []) :
    found K.text (c.text ++ rest) = found K.text rest := by
  rw [text_append, found_head type other, found_value type open_]

theorem worths_cons : worths K (c :: cs) = if c.key = K then c.worth :: worths K cs else worths K cs := by
  unfold worths
  split
  · rename_i same
    rw [List.filter_cons_of_pos (by simpa using same), List.map_cons]
  · rename_i other
    rw [List.filter_cons_of_neg (by simpa using other)]

theorem conjunction_nonempty (conj : Conjunction cs w) : cs ≠ [] := by
  cases conj <;> exact List.cons_ne_nil _ _

theorem conjunction_quoted (conj : Conjunction cs w) : '"' ∈ w := by
  cases conj <;> simp [Clause.text]

theorem found_of_clean (type : K.IsType) (conj : Conjunction cs w)
    (clean : ∀ c ∈ cs.dropLast, c.key ≠ K → ¬ c.Hides K) : found K.text w = worths K cs := by
  induction conj with
  | one c =>
    rw [worths_cons]
    split
    · rename_i same
      have here : found K.text (c.text ++ []) = c.worth :: found K.text [] := found_same type same
      simpa [found, selectors, worths] using here
    · rename_i other
      have here : found K.text (c.text ++ []) = found K.text [] := found_other type other fun _ => rfl
      simpa [found, selectors, worths] using here
  | @and c g cs rest others ih =>
    rw [List.dropLast_cons_of_ne_nil (conjunction_nonempty others)] at clean
    have later := ih fun d hd => clean d (List.mem_cons_of_mem _ hd)
    rw [worths_cons]
    split
    · rename_i same
      rw [found_same type same, found_gap type, later]
    · rename_i other
      rw [found_other type other fun hides => absurd hides (clean c List.mem_cons_self other), found_gap type, later]

theorem found_of_hidden (type : K.IsType) (conj : Conjunction cs w)
    (hidden : ∃ c ∈ cs.dropLast, c.key ≠ K ∧ c.Hides K) :
    ∃ value ∈ found K.text w, ∃ x, value.toList.head? = some x ∧ PyText.isSpace x = true := by
  induction conj with
  | one c =>
    obtain ⟨d, hd, -⟩ := hidden
    cases hd
  | @and c g cs rest others ih =>
    rw [List.dropLast_cons_of_ne_nil (conjunction_nonempty others)] at hidden
    have later : (∃ c ∈ cs.dropLast, c.key ≠ K ∧ c.Hides K) →
        ∃ value ∈ found K.text (g.text ++ rest), ∃ x, value.toList.head? = some x ∧ PyText.isSpace x = true := by
      rw [found_gap type]
      exact ih
    by_cases same : c.key = K
    · obtain ⟨d, hd, other, hides⟩ := hidden
      rcases List.mem_cons.mp hd with rfl | hd
      · exact absurd same other
      · obtain ⟨value, member, head⟩ := later ⟨d, hd, other, hides⟩
        rw [found_same type same]
        exact ⟨value, List.mem_cons_of_mem _ member, head⟩
    · by_cases here : c.Hides K
      · obtain ⟨front, before, after, whole, sb, sa⟩ := here
        cases left : g.left with
        | nil => exact absurd left g.parted.1
        | cons x xs =>
          have spaced := g.spacedLeft x (left ▸ List.mem_cons_self)
          have form : g.text ++ rest = x :: (xs ++ ("AND".toList ++ g.right) ++ rest) := by
            rw [Gap.text, left]
            rfl
          have quote : '"' ∈ x :: (xs ++ ("AND".toList ++ g.right) ++ rest) := by
            simp [conjunction_quoted others]
          obtain ⟨value, member, head⟩ := found_hidden type (value_plain c) ⟨front, whole⟩ sb sa spaced quote
          rw [text_append, found_head type same, form]
          exact ⟨value, member, x, head, spaced⟩
      · obtain ⟨d, hd, other, hides⟩ := hidden
        rcases List.mem_cons.mp hd with rfl | hd
        · exact absurd hides here
        · rw [found_other type same fun hides => absurd hides here]
          exact later ⟨d, hd, other, hides⟩

end Scan

section Filters

def Dark (name : String) : Prop := ∀ c ∈ name.toList, c ≠ '=' ∧ PyText.isSpace c = false

instance (name : String) : Decidable (Dark name) := List.decidableBAll _ _

theorem dark_of_textual {low : Nat} {high : Option Nat} {r : Regex} {name : String} (bounded : r.Bounded)
    (within : r.Over fun c => c ≠ '=' ∧ PyText.isSpace c = false) (holds : textual low high r.accepts name = true) :
    Dark name := by
  unfold textual at holds
  simp only [Bool.and_eq_true] at holds
  exact over_of_matches within ((accepts_iff bounded).mp holds.1.2)

theorem ranges_dark {rs : List (Char × Char)} {others : String}
    (low : ∀ r ∈ rs, 48 ≤ r.1.toNat ∧ r.2.toNat < 128 ∧ (r.2.toNat < 61 ∨ 61 < r.1.toNat))
    (dark : Dark others) : ∀ c, ranges rs others c = true → c ≠ '=' ∧ PyText.isSpace c = false := by
  intro c holds
  unfold ranges at holds
  rw [Bool.or_eq_true] at holds
  rcases holds with inside | other
  · obtain ⟨r, hr, between⟩ := List.any_eq_true.mp inside
    rw [Bool.and_eq_true, decide_eq_true_eq, decide_eq_true_eq] at between
    have bounds := low r hr
    have first : r.1.toNat ≤ c.toNat := between.1
    have last : c.toNat ≤ r.2.toNat := between.2
    constructor
    · rintro rfl
      have : ('=' : Char).toNat = 61 := rfl
      omega
    · unfold PyText.isSpace
      simp
      omega
  · exact dark c (List.contains_iff_mem.mp other)

theorem metricName_dark (m : GcpMetricFields) : Dark m.metricName.val := by
  refine dark_of_textual ?_ ?_ m.metricName.property
  · exact bounded_cat (by simp)
  · refine over_cat ?_
    simp only [List.forall_mem_cons]
    refine ⟨ranges_dark (by decide) (by decide), ranges_dark (by decide) (by decide),
      over_lit (forall_of_all (by decide)), ranges_dark (by decide) (by decide), fun r hr => nomatch hr⟩

theorem resourceType_dark (m : GcpMetricFields) : Dark m.monitoredResourceType.val := by
  refine dark_of_textual ?_ ?_ m.monitoredResourceType.property
  · exact bounded_plus.mpr bounded_chars
  · exact ranges_dark (by decide) (by decide)

variable {K k : Key} {cs : List Clause} {metricName monitoredResourceType filter : String} {w : List Char}

theorem not_hides_of_dark {c : Clause} (dark : Dark c.worth) : ¬ c.Hides K := by
  rintro ⟨front, before, after, same, -, -⟩
  refine (dark '=' ?_).1 rfl
  rw [Clause.worth, String.toList_ofList, same]
  simp

theorem worth_of_mem {name : String} (one : worths k cs = [name]) {c : Clause} (member : c ∈ cs) (key : c.key = k) :
    c.worth = name := by
  have : c.worth ∈ worths k cs := List.mem_map_of_mem (List.mem_filter.mpr ⟨member, by simpa using key⟩)
  rw [one] at this
  exact List.mem_singleton.mp this

theorem found_iff (type : K.IsType) (conj : Conjunction cs w) {name : String} (dark : Dark name) :
    found K.text w = [name] ↔ worths K cs = [name] ∧ ∀ c ∈ cs.dropLast, c.key ≠ K → ¬ c.Hides K := by
  by_cases clean : ∀ c ∈ cs.dropLast, c.key ≠ K → ¬ c.Hides K
  · rw [found_of_clean type conj clean]
    exact ⟨fun same => ⟨same, clean⟩, And.left⟩
  · refine iff_of_false ?_ fun both => clean both.2
    intro same
    simp only [not_forall, not_not] at clean
    obtain ⟨c, member, other, hides⟩ := clean
    obtain ⟨value, inside, x, head, spaced⟩ := found_of_hidden type conj ⟨c, member, other, hides⟩
    rw [same, List.mem_singleton] at inside
    rw [inside] at head
    have := (dark x (List.mem_of_head? head)).2
    rw [spaced] at this
    cases this

-- Exactly one clause for the metric and one for the resource, with the names given.
def Grammar (metricName monitoredResourceType filter : String) : Prop :=
  ∃ cs, Parse metricName monitoredResourceType filter cs

-- One of the clauses before the last hides a name's key at the end of its value.
def Misread (metricName monitoredResourceType filter : String) : Prop :=
  ∃ cs, Parse metricName monitoredResourceType filter cs ∧
    ∃ c ∈ cs.dropLast, c.Hides .metricType ∨ c.Hides .resourceType

theorem parse_clean (named : Dark metricName) (typed : Dark monitoredResourceType)
    (parse : Parse metricName monitoredResourceType filter cs) {c : Clause} (member : c ∈ cs.dropLast)
    (hides : c.Hides K) : c.key ≠ .metricType ∧ c.key ≠ .resourceType := by
  have inside := List.mem_of_mem_dropLast member
  constructor
  · intro key
    exact not_hides_of_dark (worth_of_mem parse.metric inside key ▸ named) hides
  · intro key
    exact not_hides_of_dark (worth_of_mem parse.resource inside key ▸ typed) hides

theorem metricFilterFor_iff (named : Dark metricName) (typed : Dark monitoredResourceType) :
    metricFilterFor metricName monitoredResourceType filter = true ↔
      ∃ cs, Parse metricName monitoredResourceType filter cs ∧
        ∀ c ∈ cs.dropLast, (c.key ≠ .metricType → ¬ c.Hides .metricType) ∧
          (c.key ≠ .resourceType → ¬ c.Hides .resourceType) := by
  unfold metricFilterFor
  rw [Bool.and_eq_true, Bool.and_eq_true, selects_iff, selects_iff, accepts_metricFilter_iff]
  constructor
  · rintro ⟨⟨⟨cs, conj⟩, metric⟩, resource⟩
    obtain ⟨one, clean⟩ := (found_iff (K := .metricType) (.inl rfl) conj named).mp metric
    obtain ⟨other, clear⟩ := (found_iff (K := .resourceType) (.inr rfl) conj typed).mp resource
    exact ⟨cs, ⟨conj, one, other⟩, fun c hc => ⟨clean c hc, clear c hc⟩⟩
  · rintro ⟨cs, parse, clean⟩
    exact ⟨⟨⟨cs, parse.conjunction⟩,
      (found_iff (K := .metricType) (.inl rfl) parse.conjunction named).mpr
        ⟨parse.metric, fun c hc => (clean c hc).1⟩⟩,
      (found_iff (K := .resourceType) (.inr rfl) parse.conjunction typed).mpr
        ⟨parse.resource, fun c hc => (clean c hc).2⟩⟩

theorem not_accepted_of_misread (named : Dark metricName) (typed : Dark monitoredResourceType)
    (misread : Misread metricName monitoredResourceType filter) :
    ¬ metricFilterFor metricName monitoredResourceType filter = true := by
  obtain ⟨cs, parse, c, member, hides⟩ := misread
  unfold metricFilterFor
  rw [Bool.and_eq_true, Bool.and_eq_true, selects_iff, selects_iff]
  rintro ⟨⟨-, metric⟩, resource⟩
  rcases hides with hides | hides
  · have other := (parse_clean named typed parse member hides).1
    exact ((found_iff (K := .metricType) (.inl rfl) parse.conjunction named).mp metric).2 c member other hides
  · have other := (parse_clean named typed parse member hides).2
    exact ((found_iff (K := .resourceType) (.inr rfl) parse.conjunction typed).mp resource).2 c member other hides

theorem metricFilter_agrees_iff (m : GcpMetricFields) (filter : String) :
    (metricFilterFor m.metricName.val m.monitoredResourceType.val filter = true ↔
      Grammar m.metricName.val m.monitoredResourceType.val filter) ↔
        ¬ Misread m.metricName.val m.monitoredResourceType.val filter := by
  have named := metricName_dark m
  have typed := resourceType_dark m
  constructor
  · rintro agrees misread
    obtain ⟨cs, parse, -⟩ := id misread
    exact not_accepted_of_misread named typed misread (agrees.mpr ⟨cs, parse⟩)
  · intro clear
    rw [metricFilterFor_iff named typed]
    constructor
    · rintro ⟨cs, parse, -⟩
      exact ⟨cs, parse⟩
    · rintro ⟨cs, parse⟩
      refine ⟨cs, parse, fun c member => ⟨fun _ hides => clear ⟨cs, parse, c, member, .inl hides⟩, ?_⟩⟩
      exact fun _ hides => clear ⟨cs, parse, c, member, .inr hides⟩

end Filters

section Witness

def plainClause (key : Key) (value : String) (filled : value.toList ≠ [])
    (plain : ∀ c ∈ value.toList, c ≠ '"' ∧ c ≠ '\\' ∧ c ≠ '\r' ∧ c ≠ '\n') : Clause :=
  ⟨key, [], [], value.toList, fun _ => nofun, fun _ => nofun, filled, plain⟩

def blank : Gap := ⟨[' '], [' '], forall_of_all (by decide), forall_of_all (by decide), by decide⟩

def hidingClauses : List Clause :=
  [plainClause .metricType "ab.googleapis.com/c" (by decide) (forall_of_all (by decide)),
    plainClause .resourceType "vm" (by decide) (forall_of_all (by decide)),
    plainClause (.metricLabel ⟨['a'], by decide⟩) "metric.type=" (by decide) (forall_of_all (by decide)),
    plainClause (.metricLabel ⟨['b'], by decide⟩) "x" (by decide) (forall_of_all (by decide))]

def hidingFilter : String :=
  "metric.type=\"ab.googleapis.com/c\" AND resource.type=\"vm\" AND metric.labels.a=\"metric.type=\" AND " ++
    "metric.labels.b=\"x\""

theorem hidingFilter_parse : Parse "ab.googleapis.com/c" "vm" hidingFilter hidingClauses where
  conjunction := .and _ blank (.and _ blank (.and _ blank (.one _)))
  metric := by decide
  resource := by decide

set_option maxRecDepth 2000 in
theorem hidingFilter_admitted : isFilter hidingFilter = true := by decide

def hidingMetric : GcpMetricFields where
  name := ⟨"cpu", by decide⟩
  resourceRef := ⟨"manifest:vm", by decide⟩
  metricName := ⟨"ab.googleapis.com/c", by decide⟩
  monitoredResourceType := ⟨"vm", by decide⟩
  filter := ⟨hidingFilter, hidingFilter_admitted⟩
  alignmentPeriodSeconds := ⟨60, by decide⟩
  perSeriesAligner := .mean

-- A label whose value ends in metric.type= makes a proper filter unacceptable.
theorem metricFilter_refuses_hiding :
    ¬ ∀ m : GcpMetricFields, m.metricFilter = true ↔
      Grammar m.metricName.val m.monitoredResourceType.val m.filter.val := by
  intro agrees
  have grammar : Grammar "ab.googleapis.com/c" "vm" hidingFilter := ⟨_, hidingFilter_parse⟩
  have accepted := (agrees hidingMetric).mpr grammar
  rw [metricFilter_eq] at accepted
  refine not_accepted_of_misread (metricName_dark hidingMetric) (resourceType_dark hidingMetric) ?_ accepted
  refine ⟨_, hidingFilter_parse, _, List.mem_cons_of_mem _ (List.mem_cons_of_mem _ List.mem_cons_self), .inl ?_⟩
  exact ⟨[], [], [], by decide, fun _ => nofun, fun _ => nofun⟩

end Witness

end Provisr.Contracts
