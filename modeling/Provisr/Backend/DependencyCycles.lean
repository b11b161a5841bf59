import Provisr.Backend.Strings
import Provisr.Foundation.DepthFirst
import Provisr.Foundation.Float64
import Provisr.Foundation.GoSlices

namespace Provisr.Backend.Validator

open Provisr.Foundation Provisr.Foundation.DepthFirst

structure SourceMetadata where
  source : String
  confidence : Float64
  deriving DecidableEq

structure Resource where
  logicalName : String
  type : String
  dependsOn : List String := []
  source : Option SourceMetadata := none
  deriving DecidableEq

def adjacency (resources : List Resource) : String → List String :=
  resources.foldl (fun adj r x => if x = r.logicalName then r.dependsOn else adj x) fun _ => []

structure State where
  heap : GoHeap String
  visited : String → Mark

section Cycles

variable [GoRuntime]

def scan (dfs : String → State → Option (State × Option GoSlice)) (path : GoSlice) :
    List String → State → Option (State × Option GoSlice)
  | [], s => some (s, none)
  | dep :: deps, s =>
    match s.visited dep with
    | .visiting =>
      let (heap, cycle) := (path.tail (startIdx (path.read s.heap) dep)).append "" s.heap dep
      some (⟨heap, s.visited⟩, some cycle)
    | .unvisited =>
      match dfs dep s with
      | some (s, none) => scan dfs path deps s
      | outcome => outcome
    | .visited => scan dfs path deps s

-- The depth of the recursion is bounded here; dfs calls itself as deep as it has to.
def dfs (adj : String → List String) : Nat → String → GoSlice → State → Option (State × Option GoSlice)
  | 0, _, _, _ => none
  | depth + 1, node, path, s =>
    let visited := mark s.visited node .visiting
    let (heap, path) := path.append "" s.heap node
    match scan (fun dep => dfs adj depth dep path) path (adj node) ⟨heap, visited⟩ with
    | some (s, none) => some (⟨s.heap, mark s.visited node .visited⟩, none)
    | outcome => outcome

def roots (adj : String → List String) (depth : Nat) : List String → State → Option (State × Option GoSlice)
  | [], s => some (s, none)
  | node :: nodes, s =>
    match s.visited node with
    | .unvisited =>
      match dfs adj depth node .empty s with
      | some (s, none) => roots adj depth nodes s
      | outcome => outcome
    | _ => roots adj depth nodes s

def detectCyclesTo (depth : Nat) (resources : List Resource) : Option (Option (List String)) :=
  (roots (adjacency resources) depth (resources.map Resource.logicalName) ⟨[], fun _ => .unvisited⟩).map
    fun (s, cycle) => cycle.map (GoSlice.read s.heap)

def names (resources : List Resource) : List String :=
  resources.map Resource.logicalName ++ resources.flatMap Resource.dependsOn

def detectCycles (resources : List Resource) : Option (List String) :=
  (detectCyclesTo (names resources).length resources).join

end Cycles

section Refines

theorem startIdx_le {xs : List String} {x : String} : startIdx xs x ≤ xs.length := by
  unfold startIdx
  cases found : xs.findIdx? (· == x) with
  | none => exact Nat.zero_le _
  | some i => exact Nat.le_of_lt (List.findIdx?_eq_some_iff_getElem.mp found).1

inductive Agrees (h : GoHeap String) (path : GoSlice) : Option (State × Option GoSlice) → Outcome String → Prop
  | deeper : Agrees h path none none
  | done (s : State) (keeps : GoSlice.Keeps h s.heap path) : Agrees h path (some (s, none)) (some (s.visited, none))
  | found (s : State) (c : GoSlice) : Agrees h path (some (s, some c)) (some (s.visited, some (c.read s.heap)))

variable {adj : String → List String} {path : GoSlice}

theorem Agrees.after {h h' : GoHeap String} {o : Option (State × Option GoSlice)} {o' : Outcome String}
    (keeps : GoSlice.Keeps h h' path) (agrees : Agrees h' path o o') : Agrees h path o o' := by
  cases agrees with
  | deeper => exact .deeper
  | done s keeps' => exact .done s (keeps.trans keeps')
  | found s c => exact .found s c

variable [GoRuntime]

theorem scan_agrees {visit : String → State → Option (State × Option GoSlice)}
    {visit' : String → (String → Mark) → Outcome String} {nodes deps : List String} {s : State}
    (agrees : ∀ dep s, GoSlice.Fits s.heap path → path.read s.heap = nodes →
      Agrees s.heap path (visit dep s) (visit' dep s.visited))
    (fits : GoSlice.Fits s.heap path) (read : path.read s.heap = nodes) :
    Agrees s.heap path (scan visit path deps s) (DepthFirst.scan visit' nodes deps s.visited) := by
  induction deps generalizing s with
  | nil => exact .done s .refl
  | cons dep deps ih =>
    unfold scan DepthFirst.scan
    cases s.visited dep with
    | visited => exact ih fits read
    | visiting =>
      have short : startIdx (path.read s.heap) dep ≤ path.len := by
        rw [← fits.read_length]
        exact startIdx_le
      have reads := (GoSlice.append_spec "" dep (fits.tail short)).1
      rw [GoSlice.tail_read, read] at reads
      dsimp only
      rw [← reads, ← read]
      exact .found ⟨_, _⟩ _
    | unvisited =>
      have inner := agrees dep s fits read
      dsimp only
      generalize visit dep s = o, visit' dep s.visited = o' at inner ⊢
      cases inner with
      | deeper => exact .deeper
      | found s c => exact .found s c
      | done s' keeps =>
        obtain ⟨same, fits'⟩ := keeps.keeps path fits fun _ => Nat.le_refl _
        exact (ih fits' (same.trans read)).after keeps

theorem dfs_agrees {depth : Nat} {node : String} {nodes : List String} {s : State} (fits : GoSlice.Fits s.heap path)
    (read : path.read s.heap = nodes) :
    Agrees s.heap path (dfs adj depth node path s) (DepthFirst.dfs adj depth node nodes s.visited) := by
  induction depth generalizing node path nodes s with
  | zero => exact .deeper
  | succ depth ih =>
    obtain ⟨reads, fits', -⟩ := GoSlice.append_spec "" node fits
    rw [read] at reads
    simp only [dfs, DepthFirst.dfs]
    have inner : Agrees (path.append "" s.heap node).1 (path.append "" s.heap node).2
        (scan (fun dep => dfs adj depth dep (path.append "" s.heap node).2) (path.append "" s.heap node).2 (adj node)
          ⟨(path.append "" s.heap node).1, mark s.visited node .visiting⟩)
        (DepthFirst.scan (fun dep => DepthFirst.dfs adj depth dep (nodes ++ [node])) (nodes ++ [node]) (adj node)
          (mark s.visited node .visiting)) :=
      scan_agrees (s := ⟨_, _⟩) (fun dep s fits read => ih fits read) fits' reads
    generalize scan _ _ (adj node) _ = o, DepthFirst.scan _ _ (adj node) _ = o' at inner ⊢
    cases inner with
    | deeper => exact .deeper
    | found s c => exact .found s c
    | done s' keeps => exact .done ⟨_, _⟩ (keeps.of_append fits)

theorem roots_agrees {depth : Nat} {nodes : List String} {s : State} :
    Agrees s.heap .empty (roots adj depth nodes s) (search adj depth nodes s.visited) := by
  induction nodes generalizing s with
  | nil => exact .done s .refl
  | cons node nodes ih =>
    unfold roots search
    cases s.visited node with
    | visiting | visited => exact ih
    | unvisited =>
      have inner : Agrees s.heap .empty (dfs adj depth node .empty s) (DepthFirst.dfs adj depth node [] s.visited) :=
        dfs_agrees GoSlice.fits_empty GoSlice.read_empty
      dsimp only
      generalize dfs adj depth node .empty s = o, DepthFirst.dfs adj depth node [] s.visited = o' at inner ⊢
      cases inner with
      | deeper => exact .deeper
      | found s c => exact .found s c
      | done s' keeps => exact ih.after keeps

theorem detectCyclesTo_eq {depth : Nat} {resources : List Resource} : detectCyclesTo depth resources =
    (search (adjacency resources) depth (resources.map Resource.logicalName) fun _ => .unvisited).map Prod.snd := by
  have agrees : Agrees [] .empty
      (roots (adjacency resources) depth (resources.map Resource.logicalName) ⟨[], fun _ => .unvisited⟩)
      (search (adjacency resources) depth (resources.map Resource.logicalName) fun _ => .unvisited) :=
    roots_agrees (s := ⟨[], fun _ => .unvisited⟩)
  unfold detectCyclesTo
  generalize roots (adjacency resources) depth (resources.map Resource.logicalName) ⟨[], fun _ => .unvisited⟩ = o,
    search (adjacency resources) depth (resources.map Resource.logicalName) (fun _ => .unvisited) = o' at agrees ⊢
  cases agrees <;> rfl

end Refines

section Graph

theorem adjacency_concat {resources : List Resource} {r : Resource} {x : String} :
    adjacency (resources ++ [r]) x = if x = r.logicalName then r.dependsOn else adjacency resources x := by
  simp [adjacency, List.foldl_append]

-- What a resource of that name lists, if there is one.
theorem adjacency_source {resources : List Resource} {x y : String} (edge : y ∈ adjacency resources x) :
    ∃ r ∈ resources, r.logicalName = x ∧ y ∈ r.dependsOn := by
  induction resources using List.reverseRecOn with
  | nil => cases edge
  | append_singleton resources r ih =>
    rw [adjacency_concat] at edge
    split at edge
    · rename_i same
      exact ⟨r, List.mem_append_right _ List.mem_cons_self, same.symm, edge⟩
    · obtain ⟨r', mem, named⟩ := ih edge
      exact ⟨r', List.mem_append_left _ mem, named⟩

theorem adjacency_of_nodup {resources : List Resource} (distinct : (resources.map Resource.logicalName).Nodup)
    {r : Resource} (mem : r ∈ resources) : adjacency resources r.logicalName = r.dependsOn := by
  induction resources using List.reverseRecOn with
  | nil => cases mem
  | append_singleton resources last ih =>
    rw [adjacency_concat]
    rw [List.map_append, List.nodup_append] at distinct
    obtain ⟨before, -, apart⟩ := distinct
    rcases List.mem_append.mp mem with mem | mem
    · rw [if_neg, ih before mem]
      exact apart _ (List.mem_map_of_mem mem) _ List.mem_cons_self
    · rw [List.mem_singleton.mp mem, if_pos rfl]

-- The dependency graph: a name depends on what its resource lists, the last one where several have it.
def DependsOn (resources : List Resource) (x y : String) : Prop :=
  ∃ before r after, resources = before ++ r :: after ∧ r.logicalName = x ∧ (∀ r' ∈ after, r'.logicalName ≠ x) ∧
    y ∈ r.dependsOn

theorem adjacency_after {before after : List Resource} {x : String} (others : ∀ r ∈ after, r.logicalName ≠ x) :
    adjacency (before ++ after) x = adjacency before x := by
  induction after using List.reverseRecOn with
  | nil => rw [List.append_nil]
  | append_singleton after r ih =>
    rw [← List.append_assoc, adjacency_concat, if_neg fun same => others r (by simp) same.symm]
    exact ih fun r' mem => others r' (List.mem_append_left _ mem)

theorem dependsOn_eq {resources : List Resource} : DependsOn resources = Edge (adjacency resources) := by
  funext x y
  refine propext ⟨?_, fun edge => ?_⟩
  · rintro ⟨before, r, after, rfl, rfl, others, listed⟩
    change y ∈ adjacency (before ++ r :: after) r.logicalName
    rw [List.append_cons, adjacency_after others, adjacency_concat, if_pos rfl]
    exact listed
  · induction resources using List.reverseRecOn with
    | nil => cases edge
    | append_singleton resources r ih =>
      change y ∈ adjacency (resources ++ [r]) x at edge
      rw [adjacency_concat] at edge
      split at edge
      · rename_i same
        exact ⟨resources, r, [], rfl, same.symm, nofun, edge⟩
      · rename_i other
        obtain ⟨before, r', after, rfl, named, others, listed⟩ := ih edge
        refine ⟨before, r', after ++ [r], by simp, named, fun r'' mem => ?_, listed⟩
        rcases List.mem_append.mp mem with mem | mem
        · exact others r'' mem
        · rw [List.mem_singleton.mp mem]
          exact Ne.symm other

variable [GoRuntime]

theorem detectCyclesTo_ends (resources : List Resource) {depth : Nat} (enough : (names resources).length ≤ depth) :
    detectCyclesTo depth resources = some (detectCycles resources) := by
  have within_ : ∀ x, ∀ y ∈ adjacency resources x, y ∈ (names resources).toFinset := by
    intro x y edge
    obtain ⟨r, mem, -, listed⟩ := adjacency_source edge
    rw [List.mem_toFinset]
    exact List.mem_append_right _ (List.mem_flatMap.mpr ⟨r, mem, listed⟩)
  have rooted : ∀ x ∈ resources.map Resource.logicalName, x ∈ (names resources).toFinset := by
    intro x mem
    rw [List.mem_toFinset]
    exact List.mem_append_left _ mem
  have bound : left (names resources).toFinset (fun _ => Mark.unvisited) ≤ (names resources).length :=
    (Finset.card_filter_le _ _).trans (List.toFinset_card_le _)
  obtain ⟨outcome, run⟩ := search_ends within_ rooted bound
  unfold detectCycles
  rw [detectCyclesTo_eq, detectCyclesTo_eq, run, search_more enough run]
  rfl

theorem cycle_detection (resources : List Resource) :
    (∃ n, ∀ depth, n ≤ depth → detectCyclesTo depth resources = some (detectCycles resources)) ∧
      (detectCycles resources = none ↔ Acyclic (DependsOn resources)) ∧
        ∀ cycle, detectCycles resources = some cycle → ClosedWalk (DependsOn resources) cycle := by
  rw [dependsOn_eq]
  refine ⟨⟨_, fun depth enough => detectCyclesTo_ends resources enough⟩, ?_⟩
  have ends := detectCyclesTo_ends resources (Nat.le_refl _)
  rw [detectCyclesTo_eq] at ends
  obtain ⟨outcome, run, same⟩ := Option.map_eq_some_iff.mp ends
  rw [← same]
  refine search_acyclic (fun x edges => ?_) run
  obtain ⟨y, edge⟩ := List.exists_mem_of_ne_nil _ edges
  obtain ⟨r, mem, named, -⟩ := adjacency_source edge
  exact List.mem_map.mpr ⟨r, mem, named⟩

end Graph

end Provisr.Backend.Validator
