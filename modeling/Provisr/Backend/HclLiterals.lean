import Provisr.Foundation.HclText

namespace Provisr.Backend.Terraform

open Provisr.Foundation

-- A value that is no reference: a number is spelled as json.Marshal spells it.
def hcl (value : Json Literal) : String := String.ofList (Hcl.escapeTemplate (GoJson.marshalChars value))

-- The text reads back as the value, whose maps have their keys in no order, and no template of it is live.
structure Faithful (value : Json Literal) : Prop where
  reads : Hcl.read (hcl value) = some (Json.normalize id value)
  inert : Hcl.live (hcl value).toList = false

theorem hcl_inert (value : Json Literal) : Hcl.live (hcl value).toList = false := by
  rw [hcl, String.toList_ofList]
  exact Hcl.live_escapeTemplate _

theorem read_hcl (value : Json Literal) :
    Hcl.read (hcl value) =
      if Hcl.readable (Json.normalize id value) then some (Json.normalize id value) else none :=
  Hcl.read_emit (Json.normalize id value)

theorem hcl_faithful_iff (value : Json Literal) :
    Faithful value ↔ Hcl.readable (Json.normalize id value) = true := by
  refine ⟨fun ⟨reads, _⟩ => ?_, fun readable => ⟨?_, hcl_inert value⟩⟩
  · rw [read_hcl] at reads
    cases readable : Hcl.readable (Json.normalize id value) with
    | true => rfl
    | false =>
      rw [readable] at reads
      cases reads
  · rw [read_hcl, if_pos readable]

def backspaced : Json Literal := .str (String.ofList ['a', Char.ofNat 8])

theorem backspace_unread : ¬ ∀ value : Json Literal, Faithful value := by
  intro claimed
  have reads := (claimed backspaced).reads
  have same : Json.normalize id backspaced = backspaced := rfl
  have unreadable : Hcl.readable backspaced = false := by decide
  rw [read_hcl, same, unreadable] at reads
  cases reads

end Provisr.Backend.Terraform
