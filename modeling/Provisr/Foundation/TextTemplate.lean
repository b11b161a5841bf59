import Provisr.Foundation.HclTokens

namespace Provisr.Foundation.TextTemplate

-- A template: its lines, with holes in them.
inductive Piece (η : Type) where
  | text (s : String)
  | hole (h : η)
  deriving DecidableEq

abbrev Template (η : Type) := List (List (Piece η))

variable {η : Type} {fill : η → Option String} {given : η → String}

def fillLine (fill : η → Option String) : List (Piece η) → Option (List Char)
  | [] => some []
  | .text s :: ps => (fillLine fill ps).map (s.toList ++ ·)
  | .hole h :: ps => (fill h).bind fun s => (fillLine fill ps).map (s.toList ++ ·)

def execute (fill : η → Option String) (t : Template η) : Option String :=
  (t.mapM (fillLine fill)).map fun ls => String.ofList (Hcl.unlines ls)

def holes (ps : List (Piece η)) : List η := ps.filterMap fun
  | .text _ => none
  | .hole h => some h

def written (given : η → String) (ps : List (Piece η)) : List Char := ps.flatMap fun
  | .text s => s.toList
  | .hole h => (given h).toList

@[simp] theorem written_nil : written given [] = [] := rfl

@[simp] theorem written_text (s : String) (ps : List (Piece η)) :
    written given (.text s :: ps) = s.toList ++ written given ps := rfl

@[simp] theorem written_hole (h : η) (ps : List (Piece η)) :
    written given (.hole h :: ps) = (given h).toList ++ written given ps := rfl

theorem fillLine_eq {ps : List (Piece η)} (all : ∀ h ∈ holes ps, fill h = some (given h)) :
    fillLine fill ps = some (written given ps) := by
  induction ps with
  | nil => rfl
  | cons p ps ih =>
    cases p with
    | text s => rw [fillLine, ih all, written_text, Option.map_some]
    | hole h =>
      obtain ⟨first, rest⟩ := List.forall_mem_cons.mp (show ∀ x ∈ h :: holes ps, fill x = some (given x) from all)
      rw [fillLine, first, ih rest, written_hole, Option.bind_some, Option.map_some]

theorem execute_eq {t : Template η} (all : ∀ ps ∈ t, ∀ h ∈ holes ps, fill h = some (given h)) :
    execute fill t = some (String.ofList (Hcl.unlines (t.map (written given)))) := by
  have lines : t.mapM (fillLine fill) = some (t.map (written given)) := by
    induction t with
    | nil => rfl
    | cons ps t ih =>
      rw [List.mapM_cons, fillLine_eq (all ps (by simp)), ih fun qs mem => all qs (by simp [mem])]
      rfl
  rw [execute, lines, Option.map_some]

end Provisr.Foundation.TextTemplate
