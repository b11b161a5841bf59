import Mathlib.Data.Finset.Card
import Mathlib.Data.List.Chain
import Mathlib.Logic.Relation

namespace Provisr.Foundation.DepthFirst

inductive Mark where
  | unvisited
  | visiting
  | visited
  deriving DecidableEq

section Search

variable {α : Type} [DecidableEq α]

def mark (marks : α → Mark) (node : α) (m : Mark) : α → Mark := fun x => if x = node then m else marks x

@[simp] theorem mark_same {marks : α → Mark} {node : α} {m : Mark} : mark marks node m node = m := if_pos rfl

theorem mark_other {marks : α → Mark} {node x : α} {m : Mark} (h : x ≠ node) : mark marks node m x = marks x := if_neg h

def startIdx (path : List α) (dep : α) : Nat := (path.findIdx? (· == dep)).getD 0

-- No outcome is a search that went deeper than it was given.
abbrev Outcome (α : Type) := Option ((α → Mark) × Option (List α))

def scan (visit : α → (α → Mark) → Outcome α) (path : List α) : List α → (α → Mark) → Outcome α
  | [], marks => some (marks, none)
  | dep :: deps, marks =>
    match marks dep with
    | .visiting => some (marks, some (path.drop (startIdx path dep) ++ [dep]))
    | .unvisited =>
      match visit dep marks with
      | some (marks, none) => scan visit path deps marks
      | outcome => outcome
    | .visited => scan visit path deps marks

def dfs (adj : α → List α) : Nat → α → List α → (α → Mark) → Outcome α
  | 0, _, _, _ => none
  | depth + 1, node, path, marks =>
    let path := path ++ [node]
    match scan (fun dep => dfs adj depth dep path) path (adj node) (mark marks node .visiting) with
    | some (marks, none) => some (mark marks node .visited, none)
    | outcome => outcome

def search (adj : α → List α) (depth : Nat) : List α → (α → Mark) → Outcome α
  | [], marks => some (marks, none)
  | node :: nodes, marks =>
    match marks node with
    | .unvisited =>
      match dfs adj depth node [] marks with
      | some (marks, none) => search adj depth nodes marks
      | outcome => outcome
    | _ => search adj depth nodes marks

end Search

section Correct

variable {α : Type}

def Edge (adj : α → List α) (x y : α) : Prop := y ∈ adj x

def Acyclic (r : α → α → Prop) : Prop := ∀ x, ¬ Relation.TransGen r x x

structure ClosedWalk (r : α → α → Prop) (cycle : List α) : Prop where
  two : 2 ≤ cycle.length
  closed : cycle.head? = cycle.getLast?
  walk : cycle.IsChain r

theorem reaches_last {r : α → α → Prop} {x : α} {xs : List α} (walk : (x :: xs).IsChain r) {y : α}
    (last : (x :: xs).getLast? = some y) (long : xs ≠ []) : Relation.TransGen r x y := by
  induction xs generalizing x with
  | nil => exact absurd rfl long
  | cons z zs ih =>
    obtain ⟨first, rest⟩ := List.isChain_cons_cons.mp walk
    rw [List.getLast?_cons_cons] at last
    cases zs with
    | nil =>
      obtain rfl := Option.some.inj last
      exact .single first
    | cons w ws => exact .head first (ih rest last (List.cons_ne_nil _ _))

theorem ClosedWalk.cyclic {r : α → α → Prop} {cycle : List α} (h : ClosedWalk r cycle) : ¬ Acyclic r := by
  intro acyclic
  cases cycle with
  | nil => exact absurd h.two (by simp)
  | cons x xs =>
    have long : xs ≠ [] := by
      rintro rfl
      exact absurd h.two (by simp)
    exact acyclic x (reaches_last h.walk (h.closed.symm.trans List.head?_cons) long)

-- The nodes that are being visited are those of the path, and the visited ones are done with.
structure Searching (adj : α → List α) (marks : α → Mark) (path : List α) : Prop where
  visiting : ∀ x, marks x = .visiting ↔ x ∈ path
  closed : ∀ x, marks x = .visited → ∀ y ∈ adj x, marks y = .visited
  clear : ∀ x, marks x = .visited → ¬ Relation.TransGen (Edge adj) x x
  walk : path.IsChain (Edge adj)

structure Grown (marks marks' : α → Mark) : Prop where
  visiting : ∀ x, marks' x = .visiting ↔ marks x = .visiting
  visited : ∀ x, marks x = .visited → marks' x = .visited

theorem Grown.refl {marks : α → Mark} : Grown marks marks := ⟨fun _ => Iff.rfl, fun _ => id⟩

theorem Grown.trans {marks marks' marks'' : α → Mark} (h : Grown marks marks') (h' : Grown marks' marks'') :
    Grown marks marks'' :=
  ⟨fun x => (h'.visiting x).trans (h.visiting x), fun x before => h'.visited x (h.visited x before)⟩

variable {adj : α → List α} {marks : α → Mark} {path : List α}

theorem Searching.reaches (h : Searching adj marks path) {x y : α} (before : marks x = .visited)
    (reach : Relation.ReflTransGen (Edge adj) x y) : marks y = .visited := by
  induction reach with
  | refl => exact before
  | tail _ edge ih => exact h.closed _ ih _ edge

variable [DecidableEq α]

theorem drop_startIdx {dep : α} (mem : dep ∈ path) : ∃ rest, path.drop (startIdx path dep) = dep :: rest := by
  obtain ⟨i, found⟩ : ∃ i, path.findIdx? (· == dep) = some i := by
    rw [← Option.isSome_iff_exists, List.findIdx?_isSome]
    exact List.any_eq_true.mpr ⟨dep, mem, by simp⟩
  obtain ⟨bound, same, -⟩ := List.findIdx?_eq_some_iff_getElem.mp found
  refine ⟨path.drop (i + 1), ?_⟩
  unfold startIdx
  rw [found, Option.getD_some, List.drop_eq_getElem_cons bound, beq_iff_eq.mp same]

theorem Searching.found (h : Searching adj marks path) {node dep : α} (last : path.getLast? = some node)
    (edge : Edge adj node dep) (mem : dep ∈ path) : ClosedWalk (Edge adj) (path.drop (startIdx path dep) ++ [dep]) := by
  obtain ⟨rest, drop⟩ := drop_startIdx mem
  have ends : (dep :: rest).getLast? = some node := by
    rw [← drop, List.getLast?_drop, if_neg]
    · exact last
    · intro short
      rw [List.drop_eq_nil_of_le short] at drop
      cases drop
  have walk := h.walk.drop (startIdx path dep)
  rw [drop] at walk ⊢
  refine ⟨by simp, List.getLast?_concat.symm, ?_⟩
  refine List.isChain_append.mpr ⟨walk, .singleton _, ?_⟩
  rintro x hx y hy
  rw [ends] at hx
  obtain rfl := Option.some.inj hx
  obtain rfl := Option.some.inj hy
  exact edge

def Result (adj : α → List α) (marks : α → Mark) (path : List α) (nodes : List α) :
    (α → Mark) × Option (List α) → Prop
  | (marks', none) => Searching adj marks' path ∧ Grown marks marks' ∧ ∀ x ∈ nodes, marks' x = .visited
  | (_, some cycle) => ClosedWalk (Edge adj) cycle

theorem scan_result {visit : α → (α → Mark) → Outcome α} {node : α} (last : path.getLast? = some node)
    (spec : ∀ dep marks outcome, Edge adj node dep → Searching adj marks path → marks dep = .unvisited →
      visit dep marks = some outcome → Result adj marks path [dep] outcome)
    {deps : List α} (edges : ∀ dep ∈ deps, Edge adj node dep) (searching : Searching adj marks path)
    {outcome : (α → Mark) × Option (List α)} (run : scan visit path deps marks = some outcome) :
    Result adj marks path deps outcome := by
  induction deps generalizing marks with
  | nil =>
    obtain rfl := Option.some.inj run
    exact ⟨searching, .refl, fun _ mem => absurd mem List.not_mem_nil⟩
  | cons dep deps ih =>
    have edge := edges dep List.mem_cons_self
    have rest := fun dep mem => edges dep (List.mem_cons_of_mem _ mem)
    have onward : ∀ {marks'}, Grown marks marks' → marks' dep = .visited → Searching adj marks' path →
        scan visit path deps marks' = some outcome → Result adj marks path (dep :: deps) outcome := by
      intro marks' grown done searching' run
      have result := ih rest searching' run
      obtain ⟨marks'', _ | cycle⟩ := outcome
      · obtain ⟨searching'', grown', later⟩ := result
        refine ⟨searching'', grown.trans grown', fun x mem => ?_⟩
        rcases List.mem_cons.mp mem with rfl | mem
        · exact grown'.visited x done
        · exact later x mem
      · exact result
    unfold scan at run
    cases now : marks dep with
    | visiting =>
      rw [now] at run
      obtain rfl := Option.some.inj run
      exact searching.found last edge ((searching.visiting dep).mp now)
    | visited =>
      rw [now] at run
      exact onward .refl now searching run
    | unvisited =>
      rw [now] at run
      cases visited : visit dep marks with
      | none =>
        simp only [visited] at run
        cases run
      | some visit =>
        have result := spec dep marks visit edge searching now visited
        obtain ⟨marks', _ | cycle⟩ := visit
        · simp only [visited] at run
          obtain ⟨searching', grown, done⟩ := result
          exact onward grown (done dep List.mem_cons_self) searching' run
        · simp only [visited] at run
          obtain rfl := Option.some.inj run
          exact result

theorem Searching.enter (h : Searching adj marks path) {node : α} (new : marks node = .unvisited)
    (edge : ∀ x ∈ path.getLast?, Edge adj x node) : Searching adj (mark marks node .visiting) (path ++ [node]) := by
  refine ⟨fun x => ?_, fun x before y mem => ?_, fun x before => ?_, ?_⟩
  · by_cases same : x = node
    · subst same
      simp
    · rw [mark_other same, h.visiting]
      simp [same]
  · have other : x ≠ node := by
      rintro rfl
      rw [mark_same] at before
      cases before
    rw [mark_other other] at before
    have done := h.closed x before y mem
    have other' : y ≠ node := by
      rintro rfl
      rw [new] at done
      cases done
    rw [mark_other other', done]
  · have other : x ≠ node := by
      rintro rfl
      rw [mark_same] at before
      cases before
    rw [mark_other other] at before
    exact h.clear x before
  · refine List.isChain_append.mpr ⟨h.walk, .singleton _, fun x hx y hy => ?_⟩
    obtain rfl := Option.some.inj hy
    exact edge x hx

-- A node whose dependencies are done with is on no cycle: it is itself not done with.
theorem Searching.leave {marks' : α → Mark} (h : Searching adj marks path) {node : α} (new : marks node = .unvisited)
    (grown : Grown (mark marks node .visiting) marks') (h' : Searching adj marks' (path ++ [node]))
    (done : ∀ x ∈ adj node, marks' x = .visited) :
    Searching adj (mark marks' node .visited) path ∧ Grown marks (mark marks' node .visited) := by
  have outside : node ∉ path := fun mem => nomatch new.symm.trans ((h.visiting node).mpr mem)
  have kept : ∀ {x}, marks' x = .visited → mark marks' node .visited x = .visited := by
    intro x before
    by_cases same : x = node
    · rw [same, mark_same]
    · rw [mark_other same, before]
  refine ⟨⟨fun x => ?_, fun x before y mem => ?_, fun x before => ?_, (List.isChain_append.mp h'.walk).1⟩,
    fun x => ?_, fun x before => ?_⟩
  · by_cases same : x = node
    · subst same
      simp [outside]
    · rw [mark_other same, h'.visiting]
      simp [same]
  · by_cases same : x = node
    · subst same
      exact kept (done y mem)
    · rw [mark_other same] at before
      exact kept (h'.closed x before y mem)
  · by_cases same : x = node
    · subst same
      intro cycle
      obtain ⟨y, edge, back⟩ := Relation.TransGen.head'_iff.mp cycle
      have visited := h'.reaches (done y edge) back
      have visiting := (h'.visiting x).mpr (List.mem_append_right _ List.mem_cons_self)
      rw [visited] at visiting
      cases visiting
    · rw [mark_other same] at before
      exact h'.clear x before
  · by_cases same : x = node
    · subst same
      simp [new]
    · rw [mark_other same, grown.visiting, mark_other same]
  · by_cases same : x = node
    · subst same
      exact mark_same
    · rw [mark_other same]
      refine grown.visited x ?_
      rw [mark_other same, before]

theorem dfs_result {depth : Nat} {node : α} (searching : Searching adj marks path) (new : marks node = .unvisited)
    (edge : ∀ x ∈ path.getLast?, Edge adj x node) {outcome : (α → Mark) × Option (List α)}
    (run : dfs adj depth node path marks = some outcome) : Result adj marks path [node] outcome := by
  induction depth generalizing node path marks outcome with
  | zero => cases run
  | succ depth ih =>
    simp only [dfs] at run
    cases scanned : scan (fun dep => dfs adj depth dep (path ++ [node])) (path ++ [node]) (adj node)
        (mark marks node .visiting) with
    | none =>
      rw [scanned] at run
      cases run
    | some inner =>
      have last : (path ++ [node]).getLast? = some node := List.getLast?_concat
      have result := scan_result last
        (fun dep marks outcome edge searching new run => ih searching new (by simpa [last] using edge) run)
        (fun dep mem => mem) (searching.enter new edge) scanned
      rw [scanned] at run
      obtain ⟨marks', _ | cycle⟩ := inner
      · obtain rfl := Option.some.inj run
        obtain ⟨searching', grown, done⟩ := result
        obtain ⟨left, grown'⟩ := searching.leave new grown searching' done
        refine ⟨left, grown', fun x mem => ?_⟩
        rw [List.mem_singleton.mp mem, mark_same]
      · obtain rfl := Option.some.inj run
        exact result

theorem search_result {depth : Nat} {nodes : List α} (searching : Searching adj marks [])
    {outcome : (α → Mark) × Option (List α)} (run : search adj depth nodes marks = some outcome) :
    Result adj marks [] nodes outcome := by
  induction nodes generalizing marks with
  | nil =>
    obtain rfl := Option.some.inj run
    exact ⟨searching, .refl, fun _ mem => absurd mem List.not_mem_nil⟩
  | cons node nodes ih =>
    have onward : ∀ {marks'}, Grown marks marks' → marks' node = .visited → Searching adj marks' [] →
        search adj depth nodes marks' = some outcome → Result adj marks [] (node :: nodes) outcome := by
      intro marks' grown done searching' run
      have result := ih searching' run
      obtain ⟨marks'', _ | cycle⟩ := outcome
      · obtain ⟨searching'', grown', later⟩ := result
        refine ⟨searching'', grown.trans grown', fun x mem => ?_⟩
        rcases List.mem_cons.mp mem with rfl | mem
        · exact grown'.visited x done
        · exact later x mem
      · exact result
    unfold search at run
    cases now : marks node with
    | visiting => exact absurd ((searching.visiting node).mp now) List.not_mem_nil
    | visited =>
      rw [now] at run
      exact onward .refl now searching run
    | unvisited =>
      rw [now] at run
      cases visited : dfs adj depth node [] marks with
      | none =>
        simp only [visited] at run
        cases run
      | some visit =>
        have result := dfs_result searching now (by simp) visited
        obtain ⟨marks', _ | cycle⟩ := visit
        · simp only [visited] at run
          obtain ⟨searching', grown, done⟩ := result
          exact onward grown (done node List.mem_cons_self) searching' run
        · simp only [visited] at run
          obtain rfl := Option.some.inj run
          exact result

end Correct

section Ends

variable {α : Type} [DecidableEq α] {adj : α → List α} {marks : α → Mark} {path : List α}

def Kept (marks marks' : α → Mark) : Prop := ∀ x, marks' x = .unvisited → marks x = .unvisited

theorem scan_kept {visit : α → (α → Mark) → Outcome α}
    (spec : ∀ dep marks outcome, visit dep marks = some outcome → Kept marks outcome.1) {deps : List α}
    {outcome : (α → Mark) × Option (List α)} (run : scan visit path deps marks = some outcome) :
    Kept marks outcome.1 := by
  induction deps generalizing marks with
  | nil =>
    obtain rfl := Option.some.inj run
    exact fun _ => id
  | cons dep deps ih =>
    unfold scan at run
    split at run
    · obtain rfl := Option.some.inj run
      exact fun _ => id
    · split at run
      · rename_i marks' visited
        exact fun x after => spec dep marks _ visited x (ih run x after)
      · exact spec dep marks _ run
    · exact ih run

theorem Kept.entered {node : α} {marks' : α → Mark} (kept : Kept (mark marks node .visiting) marks') :
    Kept marks marks' := by
  intro x after
  have before := kept x after
  by_cases same : x = node
  · rw [same, mark_same] at before
    cases before
  · rwa [mark_other same] at before

theorem Kept.left_node {node : α} {marks' : α → Mark} (kept : Kept marks marks') :
    Kept marks (mark marks' node .visited) := by
  intro x after
  by_cases same : x = node
  · rw [same, mark_same] at after
    cases after
  · rw [mark_other same] at after
    exact kept x after

theorem dfs_kept {depth : Nat} {node : α} {outcome : (α → Mark) × Option (List α)}
    (run : dfs adj depth node path marks = some outcome) : Kept marks outcome.1 := by
  induction depth generalizing node path marks outcome with
  | zero => cases run
  | succ depth ih =>
    simp only [dfs] at run
    split at run
    · rename_i marks' scanned
      obtain rfl := Option.some.inj run
      exact (scan_kept (fun dep marks outcome run => ih run) scanned).entered.left_node
    · exact (scan_kept (fun dep marks outcome run => ih run) run).entered

theorem scan_more {visit visit' : α → (α → Mark) → Outcome α}
    (more : ∀ dep marks outcome, visit dep marks = some outcome → visit' dep marks = some outcome) {deps : List α}
    {outcome : (α → Mark) × Option (List α)} (run : scan visit path deps marks = some outcome) :
    scan visit' path deps marks = some outcome := by
  induction deps generalizing marks with
  | nil => exact run
  | cons dep deps ih =>
    unfold scan at run ⊢
    cases now : marks dep with
    | visiting => rwa [now] at run
    | visited =>
      rw [now] at run
      exact ih run
    | unvisited =>
      rw [now] at run
      cases visited : visit dep marks with
      | none =>
        simp only [visited] at run
        cases run
      | some visit =>
        simp only [visited, more dep marks _ visited] at run ⊢
        obtain ⟨marks', _ | cycle⟩ := visit
        · exact ih run
        · exact run

theorem dfs_more {depth : Nat} {node : α} {outcome : (α → Mark) × Option (List α)}
    (run : dfs adj depth node path marks = some outcome) : dfs adj (depth + 1) node path marks = some outcome := by
  induction depth generalizing node path marks outcome with
  | zero => cases run
  | succ depth ih =>
    unfold dfs at run ⊢
    dsimp only at run ⊢
    cases scanned : scan (fun dep => dfs adj depth dep (path ++ [node])) (path ++ [node]) (adj node)
        (mark marks node .visiting) with
    | none =>
      rw [scanned] at run
      cases run
    | some inner =>
      rw [scanned] at run
      rw [scan_more (fun dep marks outcome run => ih run) scanned]
      exact run

theorem search_more {depth depth' : Nat} {nodes : List α} {outcome : (α → Mark) × Option (List α)}
    (more : depth ≤ depth') (run : search adj depth nodes marks = some outcome) :
    search adj depth' nodes marks = some outcome := by
  have deeper : ∀ {node marks outcome}, dfs adj depth node [] marks = some outcome →
      dfs adj depth' node [] marks = some outcome := by
    intro node marks outcome run
    induction more with
    | refl => exact run
    | step _ ih => exact dfs_more ih
  induction nodes generalizing marks with
  | nil => exact run
  | cons node nodes ih =>
    unfold search at run ⊢
    cases now : marks node with
    | visiting | visited =>
      rw [now] at run
      exact ih run
    | unvisited =>
      rw [now] at run
      cases visited : dfs adj depth node [] marks with
      | none =>
        simp only [visited] at run
        cases run
      | some visit =>
        simp only [visited, deeper visited] at run ⊢
        obtain ⟨marks', _ | cycle⟩ := visit
        · exact ih run
        · exact run

-- The nodes that are still to be visited bound how deep a search goes.
def left (nodes : Finset α) (marks : α → Mark) : Nat := (nodes.filter fun x => marks x = .unvisited).card

omit [DecidableEq α] in
theorem left_kept {nodes : Finset α} {marks' : α → Mark} (kept : Kept marks marks') :
    left nodes marks' ≤ left nodes marks :=
  Finset.card_le_card fun x mem => by
    rw [Finset.mem_filter] at mem ⊢
    exact ⟨mem.1, kept x mem.2⟩

theorem left_enter {nodes : Finset α} {node : α} (mem : node ∈ nodes) (new : marks node = .unvisited) :
    left nodes (mark marks node .visiting) < left nodes marks := by
  refine Finset.card_lt_card (Finset.ssubset_iff_subset_ne.mpr ⟨fun x mem => ?_, fun same => ?_⟩)
  · rw [Finset.mem_filter] at mem ⊢
    obtain ⟨here, after⟩ := mem
    refine ⟨here, ?_⟩
    by_cases same : x = node
    · rw [same, new]
    · rwa [mark_other same] at after
  · have gone : node ∈ nodes.filter fun x => mark marks node .visiting x = .unvisited := by
      rw [same, Finset.mem_filter]
      exact ⟨mem, new⟩
    rw [Finset.mem_filter, mark_same] at gone
    cases gone.2

theorem scan_ends {visit : α → (α → Mark) → Outcome α} {nodes : Finset α} {bound : Nat}
    (ends : ∀ dep marks, dep ∈ nodes → marks dep = .unvisited → left nodes marks ≤ bound →
      ∃ outcome, visit dep marks = some outcome ∧ Kept marks outcome.1)
    {deps : List α} (within_ : ∀ dep ∈ deps, dep ∈ nodes) (enough : left nodes marks ≤ bound) :
    ∃ outcome, scan visit path deps marks = some outcome := by
  induction deps generalizing marks with
  | nil => exact ⟨_, rfl⟩
  | cons dep deps ih =>
    have rest := fun x mem => within_ x (List.mem_cons_of_mem _ mem)
    unfold scan
    split
    · exact ⟨_, rfl⟩
    · rename_i now
      obtain ⟨⟨marks', _ | cycle⟩, visited, kept⟩ := ends dep marks (within_ dep List.mem_cons_self) now enough
      · rw [visited]
        exact ih rest ((left_kept kept).trans enough)
      · rw [visited]
        exact ⟨_, rfl⟩
    · exact ih rest enough

theorem dfs_ends {nodes : Finset α} (within_ : ∀ x, ∀ y ∈ adj x, y ∈ nodes) {depth : Nat} {node : α}
    (mem : node ∈ nodes) (new : marks node = .unvisited) (enough : left nodes marks ≤ depth) :
    ∃ outcome, dfs adj depth node path marks = some outcome := by
  induction depth generalizing node path marks with
  | zero => exact absurd (left_enter mem new) (by omega)
  | succ depth ih =>
    have less := left_enter mem new
    have visits : ∀ dep marks, dep ∈ nodes → marks dep = .unvisited → left nodes marks ≤ depth →
        ∃ outcome, dfs adj depth dep (path ++ [node]) marks = some outcome ∧ Kept marks outcome.1 := by
      intro dep marks mem new enough
      obtain ⟨outcome, run⟩ : ∃ outcome, dfs adj depth dep (path ++ [node]) marks = some outcome := ih mem new enough
      exact ⟨outcome, run, dfs_kept run⟩
    have enough : left nodes (mark marks node .visiting) ≤ depth := by omega
    obtain ⟨⟨marks', cycle⟩, scanned⟩ : ∃ outcome, scan (fun dep => dfs adj depth dep (path ++ [node])) (path ++ [node])
        (adj node) (mark marks node .visiting) = some outcome := scan_ends visits (within_ node) enough
    simp only [dfs, scanned]
    cases cycle with
    | none => exact ⟨_, rfl⟩
    | some cycle => exact ⟨_, rfl⟩

theorem search_ends {nodes : Finset α} (within_ : ∀ x, ∀ y ∈ adj x, y ∈ nodes) {depth : Nat} {roots : List α}
    (mem : ∀ x ∈ roots, x ∈ nodes) (enough : left nodes marks ≤ depth) :
    ∃ outcome, search adj depth roots marks = some outcome := by
  induction roots generalizing marks with
  | nil => exact ⟨_, rfl⟩
  | cons node roots ih =>
    have rest := fun x here => mem x (List.mem_cons_of_mem _ here)
    unfold search
    split
    · rename_i now
      obtain ⟨⟨marks', _ | cycle⟩, visited⟩ : ∃ outcome, dfs adj depth node [] marks = some outcome :=
        dfs_ends within_ (mem node List.mem_cons_self) now enough
      · rw [visited]
        exact ih rest ((left_kept (dfs_kept visited)).trans enough)
      · rw [visited]
        exact ⟨_, rfl⟩
    · exact ih rest enough

end Ends

section Search

variable {α : Type} [DecidableEq α] {adj : α → List α}

theorem search_acyclic {depth : Nat} {roots : List α} (rooted : ∀ x, adj x ≠ [] → x ∈ roots)
    {outcome : (α → Mark) × Option (List α)} (run : search adj depth roots (fun _ => .unvisited) = some outcome) :
    (outcome.2 = none ↔ Acyclic (Edge adj)) ∧ ∀ cycle, outcome.2 = some cycle → ClosedWalk (Edge adj) cycle := by
  have start : Searching adj (fun _ => Mark.unvisited) [] := ⟨by simp, nofun, nofun, .nil⟩
  have result := search_result start run
  obtain ⟨marks, _ | cycle⟩ := outcome
  · obtain ⟨searching, -, done⟩ := result
    refine ⟨⟨fun _ x cycle => ?_, fun _ => rfl⟩, nofun⟩
    obtain ⟨y, edge, -⟩ := Relation.TransGen.head'_iff.mp cycle
    exact searching.clear x (done x (rooted x (List.ne_nil_of_mem edge))) cycle
  · refine ⟨⟨nofun, fun acyclic => absurd acyclic (ClosedWalk.cyclic result)⟩, ?_⟩
    rintro _ ⟨⟩
    exact result

end Search

end Provisr.Foundation.DepthFirst
