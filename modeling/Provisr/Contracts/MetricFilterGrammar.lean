import Provisr.Contracts.Monitoring
import Provisr.Foundation.RegexMatching

namespace Provisr.Contracts

open Provisr.Foundation Regex

-- What `metric_filter` finds in any text, for the names that the metric gives.
def metricFilterFor (metricName monitoredResourceType filter : String) : Bool :=
  metricFilter.accepts filter && selects "metric.type" metricName filter &&
    selects "resource.type" monitoredResourceType filter

theorem metricFilter_eq (m : GcpMetricFields) :
    m.metricFilter = metricFilterFor m.metricName.val m.monitoredResourceType.val m.filter.val := rfl

section Grammar

def Spaces (cs : List Char) : Prop := ∀ c ∈ cs, PyText.isSpace c = true

def isLabel (name : List Char) : Bool :=
  name.head?.any (ranges lower "_") && name.tail.all (ranges lowerDigit "_")

inductive Key where
  | metricType
  | resourceType
  | metricLabel (name : {n : List Char // isLabel n = true})
  | resourceLabel (name : {n : List Char // isLabel n = true})
  deriving DecidableEq

def Key.text : Key → List Char
  | metricType => "metric.type".toList
  | resourceType => "resource.type".toList
  | metricLabel name => "metric.labels.".toList ++ name.val
  | resourceLabel name => "resource.labels.".toList ++ name.val

def Key.IsType (k : Key) : Prop := k = metricType ∨ k = resourceType

-- key = "value"
structure Clause where
  key : Key
  before : List Char
  after : List Char
  value : List Char
  spacedBefore : Spaces before
  spacedAfter : Spaces after
  nonempty : value ≠ []
  plain : ∀ c ∈ value, c ≠ '"' ∧ c ≠ '\\' ∧ c ≠ '\r' ∧ c ≠ '\n'

def Clause.opening (c : Clause) : List Char := c.before ++ '=' :: c.after ++ ['"']

def Clause.text (c : Clause) : List Char := c.key.text ++ (c.opening ++ (c.value ++ ['"']))

def Clause.worth (c : Clause) : String := String.ofList c.value

structure Gap where
  left : List Char
  right : List Char
  spacedLeft : Spaces left
  spacedRight : Spaces right
  parted : left ≠ [] ∧ right ≠ []

def Gap.text (g : Gap) : List Char := g.left ++ ("AND".toList ++ g.right)

inductive Conjunction : List Clause → List Char → Prop where
  | one (c : Clause) : Conjunction [c] c.text
  | and (c : Clause) (g : Gap) {cs : List Clause} {rest : List Char} (others : Conjunction cs rest) :
    Conjunction (c :: cs) (c.text ++ (g.text ++ rest))

def worths (k : Key) (cs : List Clause) : List String := (cs.filter (·.key = k)).map Clause.worth

-- The clauses of a filter, where it has exactly one for each of the two names.
structure Parse (metricName monitoredResourceType filter : String) (cs : List Clause) : Prop where
  conjunction : Conjunction cs filter.toList
  metric : worths .metricType cs = [metricName]
  resource : worths .resourceType cs = [monitoredResourceType]

-- key = at the end of a value, before the quote that closes it
def Clause.Hides (k : Key) (c : Clause) : Prop :=
  ∃ front before after, c.value = front ++ (k.text ++ (before ++ '=' :: after)) ∧ Spaces before ∧ Spaces after

end Grammar

section Pattern

theorem matches_key {w : List Char} :
    (oneOf [lit "metric.type", lit "resource.type",
      cat [oneOf [lit "resource", lit "metric"], lit ".labels.", chars (ranges lower "_"),
        star (chars (ranges lowerDigit "_"))]]).Matches w ↔ ∃ k : Key, w = k.text := by
  have label : ∀ v, (cat [lit ".labels.", chars (ranges lower "_"), star (chars (ranges lowerDigit "_"))]).Matches v ↔
      ∃ name : {n : List Char // isLabel n = true}, v = ".labels.".toList ++ name.val := by
    intro v
    simp only [matches_cat_cons, matches_cat_nil, matches_lit, matches_star_chars]
    constructor
    · rintro ⟨_, _, rfl, rfl, _, _, rfl, ⟨c, rfl, first⟩, cs, _, rfl, all, rfl⟩
      refine ⟨⟨c :: cs, ?_⟩, by simp⟩
      simpa [isLabel, first] using all
    · rintro ⟨⟨name, holds⟩, rfl⟩
      cases name with
      | nil => cases holds
      | cons c cs =>
        obtain ⟨first, all⟩ := Bool.and_eq_true_iff.mp holds
        exact ⟨_, _, rfl, rfl, [c], cs, rfl, ⟨c, rfl, first⟩, cs, [], (List.append_nil cs).symm,
          List.all_eq_true.mp all, rfl⟩
  rw [matches_oneOf]
  simp only [List.exists_mem_cons_iff, List.not_mem_nil, false_and, exists_false, or_false, matches_lit]
  rw [matches_cat_cons]
  simp only [label, matches_oneOf, List.exists_mem_cons_iff, List.not_mem_nil, false_and, exists_false, or_false,
    matches_lit]
  constructor
  · rintro (rfl | rfl | ⟨_, _, rfl, rfl | rfl, name, rfl⟩)
    · exact ⟨.metricType, rfl⟩
    · exact ⟨.resourceType, rfl⟩
    · exact ⟨.resourceLabel name, rfl⟩
    · exact ⟨.metricLabel name, rfl⟩
  · rintro ⟨k, rfl⟩
    cases k with
    | metricType => exact .inl rfl
    | resourceType => exact .inr (.inl rfl)
    | metricLabel name => exact .inr (.inr ⟨"metric".toList, ".labels.".toList ++ name.val, rfl, .inr rfl, name, rfl⟩)
    | resourceLabel name =>
      exact .inr (.inr ⟨"resource".toList, ".labels.".toList ++ name.val, rfl, .inl rfl, name, rfl⟩)

theorem plain_iff (c : Char) :
    (!"\"\\\r\n".toList.contains c) = true ↔ c ≠ '"' ∧ c ≠ '\\' ∧ c ≠ '\r' ∧ c ≠ '\n' := by
  simp

theorem matches_clause {w : List Char} : clause.Matches w ↔ ∃ c : Clause, w = c.text := by
  unfold clause
  rw [matches_cat_cons]
  simp only [matches_key]
  simp only [matches_cat_cons, matches_cat_nil, matches_lit, space, matches_star_chars, matches_plus_chars, plain_iff]
  constructor
  · rintro ⟨_, _, rfl, ⟨k, rfl⟩, before, _, rfl, hb, _, _, rfl, rfl, after, _, rfl, ha, _, _, rfl, rfl, value, _, rfl,
      ⟨nonempty, plain⟩, _, _, rfl, rfl, rfl⟩
    exact ⟨⟨k, before, after, value, hb, ha, nonempty, plain⟩, by simp [Clause.text, Clause.opening]⟩
  · rintro ⟨c, rfl⟩
    refine ⟨_, _, rfl, ⟨c.key, rfl⟩, c.before, '=' :: (c.after ++ ('"' :: (c.value ++ ['"']))), ?_, c.spacedBefore,
      ['='], _, rfl, rfl, c.after, _, rfl, c.spacedAfter, ['"'], _, rfl, rfl, c.value, _, rfl, ⟨c.nonempty, c.plain⟩,
      ['"'], [], rfl, rfl, rfl⟩
    simp [Clause.opening]

theorem matches_gap {r : Regex} {w : List Char} :
    (cat [plus space, lit "AND", plus space, r]).Matches w ↔
      ∃ (g : Gap) (v : List Char), w = g.text ++ v ∧ r.Matches v := by
  simp only [matches_cat_cons, matches_cat_nil, matches_lit, space, matches_plus_chars]
  constructor
  · rintro ⟨left, _, rfl, ⟨hl, sl⟩, _, _, rfl, rfl, right, _, rfl, ⟨hr, sr⟩, v, _, rfl, matched, rfl⟩
    exact ⟨⟨left, right, sl, sr, hl, hr⟩, v, by simp [Gap.text], matched⟩
  · rintro ⟨g, v, rfl, matched⟩
    exact ⟨g.left, "AND".toList ++ (g.right ++ v), by simp [Gap.text], ⟨g.parted.1, g.spacedLeft⟩, _, _, rfl, rfl,
      g.right, _, rfl, ⟨g.parted.2, g.spacedRight⟩, v, [], (List.append_nil _).symm, matched, rfl⟩

theorem matches_block {w : List Char} :
    (cat [plus space, lit "AND", plus space, clause]).Matches w ↔ ∃ (g : Gap) (c : Clause), w = g.text ++ c.text := by
  rw [matches_gap]
  constructor
  · rintro ⟨g, v, rfl, matched⟩
    obtain ⟨c, rfl⟩ := matches_clause.mp matched
    exact ⟨g, c, rfl⟩
  · rintro ⟨g, c, rfl⟩
    exact ⟨g, c.text, rfl, matches_clause.mpr ⟨c, rfl⟩⟩

theorem matches_pair {r s : Regex} {w : List Char} :
    (cat [r, s]).Matches w ↔ ∃ u v, w = u ++ v ∧ r.Matches u ∧ s.Matches v := by
  simp only [matches_cat_cons, matches_cat_nil]
  constructor
  · rintro ⟨u, _, rfl, hr, v, _, rfl, hs, rfl⟩
    exact ⟨u, v, by simp, hr, hs⟩
  · rintro ⟨u, v, rfl, hr, hs⟩
    exact ⟨u, v, rfl, hr, v, [], (List.append_nil v).symm, hs, rfl⟩

theorem conjunction_of_blocks (c : Clause) {ws : List (List Char)}
    (each : ∀ u ∈ ws, ∃ (g : Gap) (d : Clause), u = g.text ++ d.text) :
    ∃ cs, Conjunction cs (c.text ++ ws.flatten) := by
  induction ws generalizing c with
  | nil => exact ⟨[c], by simpa using Conjunction.one c⟩
  | cons u ws ih =>
    obtain ⟨g, d, rfl⟩ := each u List.mem_cons_self
    obtain ⟨cs, others⟩ := ih d fun v hv => each v (List.mem_cons_of_mem _ hv)
    exact ⟨c :: cs, by simpa using Conjunction.and c g others⟩

theorem blocks_of_conjunction {cs : List Clause} {w : List Char} (conj : Conjunction cs w) :
    ∃ (c : Clause) (ws : List (List Char)), w = c.text ++ ws.flatten ∧
      ∀ u ∈ ws, ∃ (g : Gap) (d : Clause), u = g.text ++ d.text := by
  induction conj with
  | one c => exact ⟨c, [], by simp, fun u hu => nomatch hu⟩
  | and c g others ih =>
    obtain ⟨d, ws, rfl, each⟩ := ih
    refine ⟨c, (g.text ++ d.text) :: ws, by simp, ?_⟩
    rintro u (_ | ⟨_, hu⟩)
    · exact ⟨g, d, rfl⟩
    · exact each u hu

theorem matches_metricFilter {w : List Char} : metricFilter.Matches w ↔ ∃ cs, Conjunction cs w := by
  unfold metricFilter
  rw [matches_pair]
  constructor
  · rintro ⟨_, _, rfl, first, others⟩
    obtain ⟨c, rfl⟩ := matches_clause.mp first
    obtain ⟨ws, rfl, each⟩ := matches_star.mp others
    exact conjunction_of_blocks c fun u hu => matches_block.mp (each u hu)
  · rintro ⟨cs, conj⟩
    obtain ⟨c, ws, rfl, each⟩ := blocks_of_conjunction conj
    have others := matches_star.mpr ⟨ws, rfl, fun u hu => matches_block.mpr (each u hu)⟩
    exact ⟨_, _, rfl, matches_clause.mpr ⟨c, rfl⟩, others⟩

theorem metricFilter_bounded : metricFilter.Bounded := by
  have inClause : clause.Bounded := by
    refine bounded_cat ?_
    simp only [List.forall_mem_cons, bounded_star, bounded_plus, bounded_lit, space, bounded_chars]
    refine ⟨bounded_oneOf ?_, ?_⟩
    · simp only [List.forall_mem_cons, bounded_lit]
      refine ⟨trivial, trivial, bounded_cat ?_, by simp⟩
      simp only [List.forall_mem_cons, bounded_lit, bounded_chars, bounded_star]
      refine ⟨bounded_oneOf ?_, trivial, trivial, trivial, by simp⟩
      simp
    · simp
  refine bounded_cat ?_
  simp only [List.forall_mem_cons, bounded_star]
  refine ⟨inClause, bounded_cat ?_, by simp⟩
  simp [space, inClause]

theorem accepts_metricFilter_iff {filter : String} :
    metricFilter.accepts filter = true ↔ ∃ cs, Conjunction cs filter.toList :=
  (accepts_iff metricFilter_bounded).trans matches_metricFilter

end Pattern

end Provisr.Contracts
