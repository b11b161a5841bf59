import Provisr.Backend.ApprovalOrder
import Provisr.Foundation.JsonEquality

namespace Provisr.Backend.Approval

open Provisr.Foundation

-- The maps on the way to a leaf, each with the key of the branch that is taken.
abbrev Route := List (JsFields × String)

inductive Leaf : JsJson → Route → String → Prop
  | text (s : String) : Leaf (.str s) [] s
  | item {items : List JsJson} {x : JsJson} {route : Route} {s : String} (mem : x ∈ items) (below : Leaf x route s) :
      Leaf (.arr items) route s
  | field {fields : JsFields} {k : String} {v : JsJson} {route : Route} {s : String} (mem : (k, v) ∈ fields)
      (below : Leaf v route s) : Leaf (.obj fields) ((fields, k) :: route) s

-- A Go map has a key once.
inductive Distinct : JsJson → Prop
  | null : Distinct .null
  | bool (b : Bool) : Distinct (.bool b)
  | num (n : JsNumber) : Distinct (.num n)
  | str (s : String) : Distinct (.str s)
  | arr {items : List JsJson} (inside : ∀ x ∈ items, Distinct x) : Distinct (.arr items)
  | obj {fields : JsFields} (keys : (fields.map Prod.fst).Nodup) (inside : ∀ f ∈ fields, Distinct f.2) :
      Distinct (.obj fields)

section Meaning

variable [GoUnicode]

def AnySource (key s : String) : Prop :=
  ToLower (TrimSpace s) ∈ ["0.0.0.0/0", "::/0"] ∨
    Contains key "source_address_prefix" ∧ ToLower (TrimSpace s) ∈ ["*", "internet", "any"]

-- The key that a leaf stands under, in lower case.
def nearest (key : String) (route : Route) : String := route.foldl (fun _ step => ToLower step.2) key

structure Inbound (step : JsFields × String) : Prop where
  branch : ∀ word ∈ ["egress", "outbound", "destination"], ¬ Contains (ToLower step.2) word
  direction : ∀ field ∈ ["direction", "type"], ∀ s, step.1.lookup field = some (.str s) →
    ToLower s ∉ ["egress", "outbound"]
  access : ∀ s, step.1.lookup "access" = some (.str s) → ¬ EqualFold s "deny"

-- The map of a google_compute_firewall that denies what its source_ranges send.
def denyBlock (fields : JsFields) : Bool := match fields.lookup "deny" with
  | some (.arr blocks) => !blocks.isEmpty
  | some (.obj block) => !block.isEmpty
  | _ => false

structure OpenLeaf (v : JsJson) (key : String) (route : Route) (s : String) : Prop where
  leaf : Leaf v route s
  source : AnySource (nearest key route) s
  inbound : ∀ step ∈ route, Inbound step

-- What the comment of wideOpenIngress says, the deny blocks of its google_compute_firewall among the deny rules.
def InboundAllow (v : JsJson) (key : String) : Prop :=
  ∃ route s, OpenLeaf v key route s ∧ ∀ step ∈ route, denyBlock step.1 = false

theorem inbound_iff {fields : JsFields} {k : String} :
    Inbound (fields, k) ↔ outward fields = false ∧ denied fields = false ∧ passedOver (ToLower k) = false := by
  have direction : outward fields = false ↔ ∀ field ∈ ["direction", "type"], ∀ s,
      fields.lookup field = some (.str s) → ToLower s ∉ ["egress", "outbound"] := by
    rw [outward, List.any_eq_false]
    refine forall₂_congr fun field _ => ?_
    split
    · rename_i s found
      simp [found]
    · rename_i other
      simpa using fun s found => absurd found (other s)
  have access : denied fields = false ↔ ∀ s, fields.lookup "access" = some (.str s) → ¬ EqualFold s "deny" := by
    unfold denied
    split
    · rename_i s found
      simp [found]
    · rename_i other
      simpa using fun s found => absurd found (other s)
  have branch : passedOver (ToLower k) = false ↔
      ∀ word ∈ ["egress", "outbound", "destination"], ¬ Contains (ToLower k) word := by
    simp [passedOver, and_assoc]
  rw [direction, access, branch]
  exact ⟨fun h => ⟨h.direction, h.access, h.branch⟩, fun h => ⟨h.2.2, h.1, h.2.1⟩⟩

theorem anySource_iff {key s : String} : wideOpenIngress (.str s) key = true ↔ AnySource key s := by
  simp [wideOpenIngress, AnySource, or_assoc]

mutual

theorem wideOpenIngress_iff : ∀ (v : JsJson) (key : String),
    wideOpenIngress v key = true ↔ ∃ route s, OpenLeaf v key route s
  | .null, _ | .bool _, _ | .num _, _ =>
    iff_of_false (by simp [wideOpenIngress]) fun ⟨_, _, h⟩ => nomatch h.leaf
  | .str text, key => by
    rw [anySource_iff]
    constructor
    · intro source
      exact ⟨[], text, .text text, source, fun _ mem => absurd mem List.not_mem_nil⟩
    · rintro ⟨route, s, ⟨⟩, source, -⟩
      exact source
  | .arr items, key => by
    rw [wideOpenIngress, wideOpenItems_iff items key]
    constructor
    · rintro ⟨x, mem, route, s, below⟩
      exact ⟨route, s, .item mem below.leaf, below.source, below.inbound⟩
    · rintro ⟨route, s, leaf, source, inbound⟩
      cases leaf with
      | item mem below => exact ⟨_, mem, route, s, below, source, inbound⟩
  | .obj fields, key => by
    rw [wideOpenIngress, Bool.and_eq_true, Bool.and_eq_true, Bool.not_eq_true', Bool.not_eq_true',
      wideOpenFields_iff fields]
    constructor
    · rintro ⟨⟨outside, allowed⟩, f, mem, kept, route, s, below⟩
      refine ⟨(fields, f.1) :: route, s, .field mem below.leaf, below.source, fun step hstep => ?_⟩
      rcases List.mem_cons.mp hstep with rfl | hstep
      · exact inbound_iff.mpr ⟨outside, allowed, kept⟩
      · exact below.inbound step hstep
    · rintro ⟨route, s, leaf, source, inbound⟩
      cases leaf with
      | field mem below =>
        obtain ⟨outside, allowed, kept⟩ := inbound_iff.mp (inbound _ List.mem_cons_self)
        exact ⟨⟨outside, allowed⟩, _, mem, kept, _, s, below, source,
          fun step hstep => inbound step (List.mem_cons_of_mem _ hstep)⟩

theorem wideOpenItems_iff : ∀ (items : List JsJson) (key : String),
    wideOpenItems items key = true ↔ ∃ x ∈ items, ∃ route s, OpenLeaf x key route s
  | [], _ => by simp [wideOpenItems]
  | x :: xs, key => by
    rw [wideOpenItems, Bool.or_eq_true, wideOpenIngress_iff x key, wideOpenItems_iff xs key, List.exists_mem_cons_iff]

theorem wideOpenFields_iff : ∀ (fields : JsFields), wideOpenFields fields = true ↔
    ∃ f ∈ fields, passedOver (ToLower f.1) = false ∧ ∃ route s, OpenLeaf f.2 (ToLower f.1) route s
  | [] => by simp [wideOpenFields]
  | (k, v) :: fs => by
    rw [wideOpenFields, Bool.or_eq_true, Bool.and_eq_true, Bool.not_eq_true', wideOpenIngress_iff v (ToLower k),
      wideOpenFields_iff fs, List.exists_mem_cons_iff]

end

end Meaning

section Iteration

variable {fs gs : JsFields}

theorem Distinct.member (h : Distinct (.obj fs)) (k : String) : Json.member fs k = fs.lookup k := by
  cases h with
  | obj keys inside => exact Json.lookup_reverse keys k

theorem same_lookup (same : Json.Same (.obj fs) (.obj gs)) (hf : Distinct (.obj fs)) (hg : Distinct (.obj gs))
    {k : String} {v : JsJson} (found : fs.lookup k = some v) : ∃ w, gs.lookup k = some w ∧ Json.Same v w := by
  cases same with
  | obj keys members =>
    have both := keys k
    rw [hf.member, hg.member, found] at both
    obtain ⟨w, other⟩ := Option.isSome_iff_exists.mp both.symm
    exact ⟨w, other, members k v w (by rw [hf.member, found]) (by rw [hg.member, other])⟩

theorem Same.symm {a b : JsJson} (h : Json.Same a b) : Json.Same b a :=
  (Json.same_iff_normalize Function.injective_id).mpr
    ((Json.same_iff_normalize Function.injective_id).mp h).symm

theorem same_text (same : Json.Same (.obj fs) (.obj gs)) (hf : Distinct (.obj fs)) (hg : Distinct (.obj gs))
    {k s : String} (found : gs.lookup k = some (.str s)) : fs.lookup k = some (.str s) := by
  obtain ⟨w, other, equal⟩ := same_lookup (Same.symm same) hg hf found
  cases equal
  exact other

variable [GoUnicode]

theorem Inbound.same {k : String} (h : Inbound (fs, k)) (same : Json.Same (.obj fs) (.obj gs))
    (hf : Distinct (.obj fs)) (hg : Distinct (.obj gs)) : Inbound (gs, k) where
  branch := h.branch
  direction field mem s found := h.direction field mem s (same_text same hf hg found)
  access s found := h.access s (same_text same hf hg found)

theorem OpenLeaf.same {a b : JsJson} {key s : String} {route : Route} (h : OpenLeaf a key route s)
    (same : Json.Same a b) (ha : Distinct a) (hb : Distinct b) : ∃ route', OpenLeaf b key route' s := by
  obtain ⟨leaf, source, inbound⟩ := h
  induction leaf generalizing b key with
  | text s =>
    cases same
    exact ⟨[], .text s, source, inbound⟩
  | @item items x route s mem below ih =>
    cases same with
    | @arr _ ys length equal =>
      cases ha with
      | arr inside =>
        cases hb with
        | arr inside' =>
          obtain ⟨i, bound, rfl⟩ := List.getElem_of_mem mem
          have other : ys[i]? = some (ys.get ⟨i, length ▸ bound⟩) := List.getElem?_eq_getElem _
          obtain ⟨route', opened⟩ := ih (equal i _ _ (List.getElem?_eq_getElem bound) other) (inside _ mem)
            (inside' _ (List.mem_of_getElem? other)) source inbound
          exact ⟨route', .item (List.mem_of_getElem? other) opened.leaf, opened.source, opened.inbound⟩
  | @field fields k v route s mem below ih =>
    cases same with
    | @obj _ gs keys members =>
      have whole : Json.Same (.obj fields) (.obj gs) := .obj keys members
      have here := (inbound _ List.mem_cons_self).same whole ha hb
      cases ha with
      | obj once inside =>
        obtain ⟨w, found, equal⟩ := same_lookup whole (.obj once inside) hb ((Json.lookup_eq_some_iff once).mpr mem)
        have mem' := Json.mem_of_lookup found
        cases hb with
        | obj once' inside' =>
          obtain ⟨route', opened⟩ := ih equal (inside _ mem) (inside' _ mem') source
            fun step hstep => inbound step (List.mem_cons_of_mem _ hstep)
          refine ⟨(gs, k) :: route', .field mem' opened.leaf, opened.source, fun step hstep => ?_⟩
          rcases List.mem_cons.mp hstep with rfl | hstep
          · exact here
          · exact opened.inbound step hstep

theorem wideOpenIngress_same {a b : JsJson} {key : String} (same : Json.Same a b) (ha : Distinct a)
    (hb : Distinct b) : wideOpenIngress a key = wideOpenIngress b key := by
  rw [Bool.eq_iff_iff, wideOpenIngress_iff, wideOpenIngress_iff]
  constructor
  · rintro ⟨route, s, opened⟩
    obtain ⟨route', opened'⟩ := opened.same same ha hb
    exact ⟨route', s, opened'⟩
  · rintro ⟨route, s, opened⟩
    obtain ⟨route', opened'⟩ := opened.same (Same.symm same) hb ha
    exact ⟨route', s, opened'⟩

-- The walk takes no notice of a deny block: it is right where a deny block hides every open leaf or none.
theorem wide_open_ingress_iff {v : JsJson} (h : Distinct v) :
    ((wideOpenIngress v "" = true ↔ InboundAllow v "") ∧
        ∀ w, Distinct w → Json.Same v w → wideOpenIngress w "" = wideOpenIngress v "") ↔
      ((∃ route s, OpenLeaf v "" route s ∧ ∃ step ∈ route, denyBlock step.1 = true) →
        ∃ route s, OpenLeaf v "" route s ∧ ∀ step ∈ route, denyBlock step.1 = false) := by
  rw [and_iff_left fun w hw same => (wideOpenIngress_same same h hw).symm, wideOpenIngress_iff]
  constructor
  · rintro matched ⟨route, s, opened, -⟩
    exact matched.mp ⟨route, s, opened⟩
  · intro shown
    constructor
    · rintro ⟨route, s, opened⟩
      by_cases clear : ∀ step ∈ route, denyBlock step.1 = false
      · exact ⟨route, s, opened, clear⟩
      · obtain ⟨step, blocked⟩ := not_forall.mp clear
        obtain ⟨mem, blocked⟩ := Classical.not_imp.mp blocked
        exact shown ⟨route, s, opened, step, mem, Bool.eq_true_of_not_eq_false blocked⟩
    · rintro ⟨route, s, opened, -⟩
      exact ⟨route, s, opened⟩

end Iteration

section Firewall

def openRanges : List (String × JsJson) :=
  [("direction", .str "INGRESS"), ("source_ranges", .arr [.str "0.0.0.0/0"])]

def telnetDenied : JsJson := .obj (("deny", .arr [.obj [("protocol", .str "tcp"), ("ports", .arr [.str "23"])]]) ::
  openRanges)

def webAllowed : JsJson := .obj (("allow", .arr [.obj [("protocol", .str "tcp"), ("ports", .arr [.str "443"])]]) ::
  openRanges)

theorem distinct_firewall {k : String} {block : JsJson} (other : k ∉ ["direction", "source_ranges"])
    (inside : Distinct block) : Distinct (.obj ((k, block) :: openRanges)) := by
  refine .obj ?_ fun f mem => ?_
  · simpa [openRanges] using other
  · rcases List.mem_cons.mp mem with rfl | mem
    · exact inside
    · simp only [openRanges, List.mem_cons, List.not_mem_nil, or_false] at mem
      rcases mem with rfl | rfl
      · exact .str _
      · exact .arr (by simpa using Distinct.str _)

theorem distinct_rule (port : String) :
    Distinct (.arr [.obj [("protocol", .str "tcp"), ("ports", .arr [.str port])]]) := by
  refine .arr fun x mem => ?_
  rw [List.mem_singleton.mp mem]
  refine .obj (by simp) fun f mem => ?_
  simp only [List.mem_cons, List.not_mem_nil, or_false] at mem
  rcases mem with rfl | rfl
  · exact .str _
  · exact .arr (by simpa using Distinct.str _)

theorem wide_open_ingress_denied :
    letI := asciiTables
    Distinct telnetDenied ∧ wideOpenIngress telnetDenied "" = true ∧ ¬ InboundAllow telnetDenied "" := by
  let _ := asciiTables
  refine ⟨distinct_firewall (by decide) (distinct_rule "23"), by decide, ?_⟩
  rintro ⟨route, s, ⟨leaf, -, -⟩, clear⟩
  cases leaf with
  | field mem below => exact Bool.noConfusion (clear _ List.mem_cons_self)

theorem wide_open_ingress_web :
    letI := asciiTables
    (wideOpenIngress webAllowed "" = true ↔ InboundAllow webAllowed "") ∧
      ∀ w, Distinct w → Json.Same webAllowed w → wideOpenIngress w "" = wideOpenIngress webAllowed "" := by
  let _ := asciiTables
  refine (wide_open_ingress_iff (distinct_firewall (by decide) (distinct_rule "443"))).mpr fun _ => ?_
  have leaf : Leaf (.arr [.str "0.0.0.0/0"]) [] "0.0.0.0/0" := .item List.mem_cons_self (.text _)
  refine ⟨_, _, ⟨.field (k := "source_ranges") (by simp [openRanges]) leaf, .inl (by decide), ?_⟩, ?_⟩
  · intro step mem
    rw [List.mem_singleton.mp mem]
    exact inbound_iff.mpr (by decide)
  · intro step mem
    rw [List.mem_singleton.mp mem]
    rfl

end Firewall

end Provisr.Backend.Approval
