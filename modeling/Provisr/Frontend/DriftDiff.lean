import Provisr.Foundation.CommonSubsequence
import Mathlib.Data.Bool.Count

namespace Provisr.Frontend

open Provisr.Foundation

section Diff

variable (leftLines rightLines : List String)

-- row[0] is 0, and row[j] looks at prevRow[j - 1], prevRow[j] and row[j - 1].
def dpRow (prevRow : List Nat) (line : String) : List Nat :=
  (List.range rightLines.length).scanl (fun last j =>
    if rightLines[j]? = some line then prevRow.getD j 0 + 1 else max (prevRow.getD (j + 1) 0) last) 0

def dp : List (List Nat) := leftLines.scanl (dpRow rightLines) (List.replicate (rightLines.length + 1) 0)

def dpAt (i j : Nat) : Nat := ((dp leftLines rightLines).getD i []).getD j 0

def backtrack : Nat → Nat → List Bool → List Bool → List Bool × List Bool
  | 0, _, leftMatched, rightMatched => (leftMatched, rightMatched)
  | _, 0, leftMatched, rightMatched => (leftMatched, rightMatched)
  | i + 1, j + 1, leftMatched, rightMatched =>
    if leftLines[i]? = rightLines[j]? then backtrack i j (leftMatched.set i true) (rightMatched.set j true)
    else if dpAt leftLines rightLines (i + 1) j ≤ dpAt leftLines rightLines i (j + 1) then
      backtrack i (j + 1) leftMatched rightMatched
    else backtrack (i + 1) j leftMatched rightMatched
termination_by i j => i + j

def mark (matched : Bool) : String := if matched then "" else "changed"

def diffLines : List String × List String :=
  let m := leftLines.length
  let n := rightLines.length
  let (leftMatched, rightMatched) :=
    backtrack leftLines rightLines m n (List.replicate m false) (List.replicate n false)
  (leftLines.mapIdx fun idx _ => mark (leftMatched.getD idx false),
    rightLines.mapIdx fun idx _ => mark (rightMatched.getD idx false))

end Diff

section Table

variable {leftLines rightLines : List String} {i j : Nat}

theorem dpAt_zero_left (j : Nat) : dpAt leftLines rightLines 0 j = 0 := by
  unfold dpAt dp
  cases leftLines <;> simp [List.getD_eq_getElem?_getD, List.getElem?_replicate] <;> split <;> rfl

theorem dp_succ (h : i < leftLines.length) : (dp leftLines rightLines).getD (i + 1) [] =
    dpRow rightLines ((dp leftLines rightLines).getD i []) leftLines[i] := by
  unfold dp
  rw [List.getD_eq_getElem?_getD, List.getElem?_succ_scanl, List.getElem?_eq_getElem h]
  have inside : i < (leftLines.scanl (dpRow rightLines) (List.replicate (rightLines.length + 1) 0)).length := by
    rw [List.length_scanl]
    omega
  rw [List.getD_eq_getElem?_getD, List.getElem?_eq_getElem inside]
  rfl

theorem dpRow_zero (prevRow : List Nat) (line : String) : (dpRow rightLines prevRow line).getD 0 0 = 0 := by
  unfold dpRow
  rw [List.getD_eq_getElem?_getD, List.getElem?_scanl_zero]
  rfl

theorem dpRow_succ (prevRow : List Nat) (line : String) (h : j < rightLines.length) :
    (dpRow rightLines prevRow line).getD (j + 1) 0 = if rightLines[j] = line then prevRow.getD j 0 + 1
      else max (prevRow.getD (j + 1) 0) ((dpRow rightLines prevRow line).getD j 0) := by
  have bound : j < (dpRow rightLines prevRow line).length := by
    unfold dpRow
    rw [List.length_scanl, List.length_range]
    omega
  have last : (dpRow rightLines prevRow line).getD j 0 = (dpRow rightLines prevRow line)[j] := by
    rw [List.getD_eq_getElem?_getD, List.getElem?_eq_getElem bound, Option.getD_some]
  rw [last, List.getD_eq_getElem?_getD]
  unfold dpRow at bound ⊢
  rw [List.getElem?_succ_scanl, List.getElem?_eq_getElem bound, List.getElem?_range h]
  simp [List.getElem?_eq_getElem h]

theorem dpAt_zero_right (h : i ≤ leftLines.length) : dpAt leftLines rightLines i 0 = 0 := by
  cases i with
  | zero => exact dpAt_zero_left 0
  | succ i =>
    unfold dpAt
    rw [dp_succ h, dpRow_zero]

theorem dpAt_succ (hi : i < leftLines.length) (hj : j < rightLines.length) :
    dpAt leftLines rightLines (i + 1) (j + 1) = if leftLines[i] = rightLines[j] then dpAt leftLines rightLines i j + 1
      else max (dpAt leftLines rightLines i (j + 1)) (dpAt leftLines rightLines (i + 1) j) := by
  unfold dpAt
  rw [dp_succ hi, dpRow_succ _ _ hj]
  exact if_congr eq_comm rfl rfl

-- Induction on the rows, and in a row on its columns.
theorem dpAt_bounds (hi : i ≤ leftLines.length) (hj : j ≤ rightLines.length) :
    CommonAtMost (dpAt leftLines rightLines i j) (leftLines.take i) (rightLines.take j) := by
  induction i generalizing j with
  | zero =>
    rw [dpAt_zero_left, List.take_zero]
    exact commonAtMost_nil_left _
  | succ i ihi =>
    induction j with
    | zero =>
      rw [dpAt_zero_right hi, List.take_zero]
      exact commonAtMost_nil_right _
    | succ j ihj =>
      have diagonal := ihi (Nat.le_of_lt hi) (Nat.le_of_lt hj)
      have up := ihi (Nat.le_of_lt hi) hj
      have left := ihj (Nat.le_of_lt hj)
      rw [List.take_succ_eq_append_getElem hi] at left ⊢
      rw [List.take_succ_eq_append_getElem hj] at up ⊢
      rw [dpAt_succ hi hj]
      split
      · rename_i equal
        rw [equal]
        exact diagonal.same _
      · rename_i apart
        exact up.differ apart left

end Table

section Backtrack

variable {leftLines rightLines : List String} {i j : Nat}

-- What the marks below i and j keep on either side, as many as the table says; the marks above stay.
structure Aligned (leftLines rightLines : List String) (i j : Nat) (before after : List Bool × List Bool) : Prop where
  leftLength : after.1.length = before.1.length
  rightLength : after.2.length = before.2.length
  leftAbove : after.1.drop i = before.1.drop i
  rightAbove : after.2.drop j = before.2.drop j
  same : marked (leftLines.take i) (after.1.take i) = marked (rightLines.take j) (after.2.take j)
  count : (marked (leftLines.take i) (after.1.take i)).length = dpAt leftLines rightLines i j

variable {leftMatched rightMatched : List Bool}

theorem free_below {marks : List Bool} (h : ∀ b ∈ marks.take (i + 1), b = false) :
    ∀ b ∈ marks.take i, b = false :=
  fun b mem => h b (List.take_subset_take_left _ (Nat.le_succ i) mem)

theorem free_at {marks : List Bool} (size : i < marks.length) (h : ∀ b ∈ marks.take (i + 1), b = false) :
    marks[i]? = some false := by
  rw [List.getElem?_eq_getElem size]
  refine congrArg some (h _ ?_)
  rw [List.take_succ_eq_append_getElem size]
  exact List.mem_append_right _ List.mem_cons_self

theorem take_set {marks : List Bool} (i : Nat) : (marks.set i true).take i = marks.take i := List.take_set_of_le le_rfl

theorem drop_set {marks : List Bool} (i : Nat) : (marks.set i true).drop (i + 1) = marks.drop (i + 1) := by
  rw [List.drop_set, if_pos (Nat.lt_succ_self i)]

-- A mark above the place where the rest of the walk starts is still there at its end.
theorem above {before after : List Bool} (same : after.drop i = before.drop i) : after[i]? = before[i]? := by
  have heads := congrArg (fun l => l[0]?) same
  simpa using heads

theorem take_above {before after : List Bool} (same : after.drop i = before.drop i) {b : Bool}
    (here : before[i]? = some b) : after.take (i + 1) = after.take i ++ [b] := by
  rw [List.take_add_one, above same, here]
  rfl

theorem drop_above {before after : List Bool} (same : after.drop i = before.drop i) :
    after.drop (i + 1) = before.drop (i + 1) := by
  rw [← List.drop_drop, ← List.drop_drop, same]

theorem marked_take {lines : List String} {after : List Bool} {b : Bool} (h : i < lines.length)
    (size : after.length = lines.length) (next : after.take (i + 1) = after.take i ++ [b]) :
    marked (lines.take (i + 1)) (after.take (i + 1)) =
      marked (lines.take i) (after.take i) ++ if b = true then [lines[i]] else [] := by
  rw [next, List.take_succ_eq_append_getElem h, marked_concat]
  rw [List.length_take, List.length_take, size]

theorem backtrack_aligned (hi : i ≤ leftLines.length) (hj : j ≤ rightLines.length)
    (leftSize : leftMatched.length = leftLines.length) (rightSize : rightMatched.length = rightLines.length)
    (leftFree : ∀ b ∈ leftMatched.take i, b = false) (rightFree : ∀ b ∈ rightMatched.take j, b = false) :
    Aligned leftLines rightLines i j (leftMatched, rightMatched)
      (backtrack leftLines rightLines i j leftMatched rightMatched) := by
  induction i, j, leftMatched, rightMatched using backtrack.induct leftLines rightLines with
  | case1 j leftMatched rightMatched =>
    rw [backtrack]
    exact ⟨rfl, rfl, rfl, rfl, (marked_of_false rightFree).symm, (dpAt_zero_left j).symm⟩
  | case2 i leftMatched rightMatched apart =>
    rw [backtrack]
    · refine ⟨rfl, rfl, rfl, rfl, marked_of_false leftFree, ?_⟩
      rw [marked_of_false leftFree, dpAt_zero_right hi]
      rfl
    · exact apart
  | case3 i j leftMatched rightMatched equal ih =>
    have lines : leftLines[i] = rightLines[j] := by
      rw [List.getElem?_eq_getElem hi, List.getElem?_eq_getElem hj] at equal
      exact Option.some.inj equal
    have rest := ih (Nat.le_of_lt hi) (Nat.le_of_lt hj) (by rwa [List.length_set]) (by rwa [List.length_set])
      (by rw [take_set]; exact free_below leftFree) (by rw [take_set]; exact free_below rightFree)
    rw [backtrack, if_pos equal]
    have leftNext := take_above rest.leftAbove (b := true) (List.getElem?_set_self (leftSize ▸ hi))
    have rightNext := take_above rest.rightAbove (b := true) (List.getElem?_set_self (rightSize ▸ hj))
    have leftLength := rest.leftLength.trans List.length_set
    have rightLength := rest.rightLength.trans List.length_set
    refine ⟨leftLength, rightLength, (drop_above rest.leftAbove).trans (drop_set i),
      (drop_above rest.rightAbove).trans (drop_set j), ?_, ?_⟩
    · rw [marked_take hi (leftLength.trans leftSize) leftNext, marked_take hj (rightLength.trans rightSize) rightNext,
        rest.same, lines]
    · rw [marked_take hi (leftLength.trans leftSize) leftNext, if_pos rfl, List.length_append, rest.count,
        dpAt_succ hi hj, if_pos lines]
      rfl
  | case4 i j leftMatched rightMatched apart higher ih =>
    have lines : leftLines[i] ≠ rightLines[j] := by
      rw [List.getElem?_eq_getElem hi, List.getElem?_eq_getElem hj] at apart
      exact fun same => apart (congrArg some same)
    have rest := ih (Nat.le_of_lt hi) hj leftSize rightSize (free_below leftFree) rightFree
    rw [backtrack, if_neg apart, if_pos higher]
    have next := take_above rest.leftAbove (free_at (leftSize ▸ hi) leftFree)
    have kept := marked_take hi (rest.leftLength.trans leftSize) next
    rw [if_neg Bool.false_ne_true, List.append_nil] at kept
    refine ⟨rest.leftLength, rest.rightLength, drop_above rest.leftAbove, rest.rightAbove, ?_, ?_⟩
    · rw [kept, rest.same]
    · rw [kept, rest.count, dpAt_succ hi hj, if_neg lines, Nat.max_eq_left higher]
  | case5 i j leftMatched rightMatched apart lower ih =>
    have lines : leftLines[i] ≠ rightLines[j] := by
      rw [List.getElem?_eq_getElem hi, List.getElem?_eq_getElem hj] at apart
      exact fun same => apart (congrArg some same)
    have rest := ih hi (Nat.le_of_lt hj) leftSize rightSize leftFree (free_below rightFree)
    rw [backtrack, if_neg apart, if_neg lower]
    have next := take_above rest.rightAbove (free_at (rightSize ▸ hj) rightFree)
    have kept := marked_take hj (rest.rightLength.trans rightSize) next
    rw [if_neg Bool.false_ne_true, List.append_nil] at kept
    refine ⟨rest.leftLength, rest.rightLength, rest.leftAbove, drop_above rest.rightAbove, ?_, ?_⟩
    · rw [kept, rest.same]
    · rw [rest.count, dpAt_succ hi hj, if_neg lines, Nat.max_eq_right (Nat.le_of_not_le lower)]

end Backtrack

section Unmarked

variable {lines : List String} {matched : List Bool}

def unmarked (lines marks : List String) : List String :=
  ((lines.zip marks).filter fun pair => pair.2 == "").map Prod.fst

theorem marks_eq (size : matched.length = lines.length) :
    (lines.mapIdx fun idx _ => mark (matched.getD idx false)) = matched.map mark := by
  refine List.ext_getElem (by simp [size]) fun i hi hi' => ?_
  rw [List.length_map] at hi'
  rw [List.getElem_mapIdx, List.getElem_map, List.getD_eq_getElem?_getD, List.getElem?_eq_getElem hi', Option.getD_some]

theorem unmarked_eq (lines : List String) (matched : List Bool) :
    unmarked lines (matched.map mark) = marked lines matched := by
  unfold unmarked marked
  rw [List.zip_map_right, List.filter_map, List.map_map]
  refine congrArg _ (List.filter_congr fun pair _ => ?_)
  obtain ⟨line, b⟩ := pair
  cases b <;> rfl

theorem count_changed (matched : List Bool) : (matched.map mark).count "changed" = matched.count false := by
  induction matched with
  | nil => rfl
  | cons b matched ih => cases b <;> simp [mark, ih]

theorem changed_length (size : matched.length = lines.length) :
    (matched.map mark).count "changed" + (marked lines matched).length = lines.length := by
  rw [count_changed, marked_length size, ← size]
  exact List.count_false_add_count_true matched

-- An edit keeps lines that the two lists have in common and changes the others: none changes fewer.
theorem diffLines_minimal (leftLines rightLines : List String) :
    unmarked leftLines (diffLines leftLines rightLines).1 = unmarked rightLines (diffLines leftLines rightLines).2 ∧
      ∀ zs : List String, zs.Sublist leftLines → zs.Sublist rightLines →
        zs.length ≤ (unmarked leftLines (diffLines leftLines rightLines).1).length ∧
          (diffLines leftLines rightLines).1.count "changed" + zs.length ≤ leftLines.length ∧
          (diffLines leftLines rightLines).2.count "changed" + zs.length ≤ rightLines.length := by
  have aligned : Aligned leftLines rightLines leftLines.length rightLines.length
      (List.replicate leftLines.length false, List.replicate rightLines.length false)
      (backtrack leftLines rightLines leftLines.length rightLines.length (List.replicate leftLines.length false)
        (List.replicate rightLines.length false)) :=
    backtrack_aligned le_rfl le_rfl List.length_replicate List.length_replicate
      (fun b mem => List.eq_of_mem_replicate (List.mem_of_mem_take mem))
      fun b mem => List.eq_of_mem_replicate (List.mem_of_mem_take mem)
  unfold diffLines
  dsimp only
  generalize backtrack leftLines rightLines leftLines.length rightLines.length _ _ = after at aligned
  have leftSize := aligned.leftLength.trans List.length_replicate
  have rightSize := aligned.rightLength.trans List.length_replicate
  have same := aligned.same
  have count := aligned.count
  rw [List.take_length, List.take_of_length_le leftSize.le] at same count
  rw [List.take_length, List.take_of_length_le rightSize.le] at same
  rw [marks_eq leftSize, marks_eq rightSize, unmarked_eq, unmarked_eq]
  refine ⟨same, fun zs left right => ?_⟩
  have bound := dpAt_bounds (le_refl leftLines.length) (le_refl rightLines.length)
  rw [List.take_length, List.take_length, ← count] at bound
  have longest := bound zs left right
  have leftChanged := changed_length leftSize
  have rightChanged := changed_length rightSize
  rw [← same] at rightChanged
  exact ⟨longest, by omega, by omega⟩

end Unmarked

end Provisr.Frontend
