import Provisr.Backend.TerraformBundle
import Provisr.Foundation.Exceptional

namespace Provisr.Backend.Terraform

open Provisr.Foundation Provisr.Foundation.TextTemplate
open Provisr.Orchestrator (TerraformFile)

section Properties

variable {r : Resource} {s : Spec} {p q : GoMap (Json Literal)} {key : String}

-- What the check of a field leaves: a value of the field, and the other fields as they were.
structure Checked (key : String) (p q : GoMap (Json Literal)) : Prop where
  value : ∃ v, q.get? key = some v ∧ (isBool v = true ↔ key = "versioning")
  others : ∀ k, k ≠ key → q.get? k = p.get? k

theorem get?_versioned {k : String} (other : k ≠ key) : (versioned p key).get? k = p.get? k := by
  unfold versioned
  split
  · rw [GoMap.get?_set, if_neg other]
  · rfl

theorem checkField_ok (done : checkField r p key = .ok q) : Checked key p q := by
  unfold checkField at done
  split at done
  · rename_i versioning
    split at done
    · rename_i set_
      obtain rfl := Except.ok.inj done
      exact ⟨⟨_, set_, by simp [isBool, versioning]⟩, fun k other => get?_versioned other⟩
    · cases done
  · rename_i versioning
    split at done
    · split at done
      · rename_i size
        obtain rfl := Except.ok.inj done
        refine ⟨?_, fun k _ => rfl⟩
        cases stored : p.get? key with
        | none => simp [stored, storageSize] at size
        | some v =>
          refine ⟨v, rfl, ?_⟩
          cases v with
          | num => simp [isBool, versioning]
          | _ => simp [stored, storageSize] at size
      · cases done
    · split at done
      · split at done
        · cases done
        · cases done
        · split at done
          · cases done
          · obtain rfl := Except.ok.inj done
            refine ⟨⟨_, by rw [GoMap.get?_set, if_pos rfl], by simp [isBool, versioning]⟩, fun k other => ?_⟩
            rw [GoMap.get?_set, if_neg other]
      · split at done
        · rename_i value stored
          split at done
          · cases done
          · split at done
            · cases done
            · split at done
              · cases done
              · obtain rfl := Except.ok.inj done
                exact ⟨⟨_, stored, by simp [isBool, versioning]⟩, fun _ _ => rfl⟩
        · cases done

theorem checkFields_ok {fields : List String} (distinct : fields.Nodup) (done : fields.foldlM (checkField r) p = .ok q) :
    (∀ key ∈ fields, ∃ v, q.get? key = some v ∧ (isBool v = true ↔ key = "versioning")) ∧
      ∀ k ∉ fields, q.get? k = p.get? k := by
  induction fields generalizing p with
  | nil =>
    obtain rfl := Except.ok.inj done
    exact ⟨fun _ mem => absurd mem List.not_mem_nil, fun _ _ => rfl⟩
  | cons key fields ih =>
    rw [List.foldlM_cons] at done
    obtain ⟨first, checked, rest⟩ := except_bind_ok.mp done
    obtain ⟨new, distinct⟩ := List.nodup_cons.mp distinct
    obtain ⟨valued, kept⟩ := ih distinct rest
    obtain ⟨value, others⟩ := checkField_ok checked
    refine ⟨List.forall_mem_cons.mpr ⟨?_, valued⟩, fun k unlisted => ?_⟩
    · rw [kept key new]
      exact value
    · rw [List.mem_cons, not_or] at unlisted
      obtain ⟨other, unlisted⟩ := unlisted
      rw [kept k unlisted, others k other]

structure Complete (s : Spec) (p : GoMap (Json Literal)) : Prop where
  valued : ∀ key ∈ s.fields, ∃ v, p.get? key = some v ∧ (isBool v = true ↔ key = "versioning")
  listed : ∀ key v, p.get? key = some v → key ∈ s.fields

theorem properties_ok (distinct : s.fields.Nodup) (done : properties r s = .ok p) :
    Complete s p ∧ checkSecurity r = .ok () := by
  unfold properties at done
  split at done
  · cases done
  · rename_i none_
    obtain ⟨q, checked, rest⟩ := except_bind_ok.mp done
    obtain ⟨_, secure, same⟩ := except_bind_ok.mp rest
    obtain rfl := Except.ok.inj same
    obtain ⟨valued, kept⟩ := checkFields_ok distinct checked
    refine ⟨⟨valued, fun key v stored => ?_⟩, secure⟩
    by_contra unlisted
    rw [kept key unlisted] at stored
    have absent := GoMap.first_eq_none_iff.mp none_ key v stored
    rw [if_neg unlisted] at absent
    cases absent

end Properties

section Catalog

theorem fields_distinct : ∀ e ∈ catalog, e.2.fields.Nodup := by decide

theorem specOf_mem {kind : String} (known : (catalog.lookup kind).isSome = true) : (kind, specOf kind) ∈ catalog := by
  obtain ⟨s, found⟩ := Option.isSome_iff_exists.mp known
  obtain ⟨l₁, l₂, whole, -⟩ := List.lookup_eq_some_iff.mp found
  rw [specOf, found, whole]
  simp

end Catalog

section Rendering

variable [GoUnicode] {m : Manifest} {res : Result} {parameterized : Bool}

structure Supported (provider : String) (r : Resource) : Prop where
  name : TrimSpace r.logicalName = r.logicalName
  known : (catalog.lookup (TrimSpace r.type)).isSome = true
  provider : provider = "aws"

omit [GoUnicode] in
theorem survey_none {provider : String} {rs : List Resource} :
    survey provider rs = ([], none) ↔ ∀ r ∈ rs, Supported provider r := by
  induction rs with
  | nil => simp [survey]
  | cons r rs ih =>
    rw [List.forall_mem_cons, ← ih, survey]
    constructor
    · intro all
      split at all
      · cases all
      · rename_i name
        dsimp only at all
        split at all
        · cases all
        · rename_i supported
          rw [Decidable.not_not] at name
          rw [not_or, Decidable.not_not, Bool.not_eq_true, Option.isNone_eq_false_iff] at supported
          exact ⟨⟨name.symm, supported.1, supported.2⟩, all⟩
    · rintro ⟨⟨name, known, provider⟩, rest⟩
      rw [if_neg (by simp [name]), rest]
      dsimp only
      rw [if_neg]
      simp [provider, Option.isSome_iff_ne_none.mp known]

structure Rendered [GoRuntime] (m : Manifest) (parameterized : Bool) (files : List TerraformFile) : Prop where
  valid : (Validator.Validate (some m.validated)).valid = true
  resolved : m.unknowns = []
  supported : ∀ r ∈ m.resources, Supported (ToLower (TrimSpace m.provider)) r
  each : List.Forall₂
    (fun r file => renderResource m (byName (trimmed m.resources)) parameterized r = .ok file)
    (byName (trimmed m.resources)) files

theorem render_ok [GoRuntime] : (render (some m) parameterized = (res, none) ∧ res.unsupported = []) ↔
    ∃ files, Rendered m parameterized files ∧ res = ⟨providersFile m :: files, []⟩ := by
  unfold render
  constructor
  · rintro ⟨done, complete⟩
    dsimp only at done
    split at done
    · cases done
    · rename_i valid
      split at done
      · cases done
      · rename_i resolved
        split at done
        · rename_i failed
          rw [(Prod.mk.inj done).2] at failed
          cases failed
        · rename_i failed
          split at done
          · rename_i some_
            obtain ⟨rfl, -⟩ := Prod.mk.inj done
            rw [show (survey (ToLower (TrimSpace m.provider)) m.resources).1 = [] from complete] at some_
            cases some_
          · rename_i none_
            split at done
            · cases done
            · rename_i files each
              obtain ⟨rfl, -⟩ := Prod.mk.inj done
              have unsupported : (survey (ToLower (TrimSpace m.provider)) m.resources).1 = [] :=
                List.length_eq_zero_iff.mp (by omega)
              have failure : (survey (ToLower (TrimSpace m.provider)) m.resources).2 = none := by simpa using failed
              refine ⟨files, ⟨by simpa using valid, List.length_eq_zero_iff.mp (by omega), ?_, mapM_ok_forall₂.mp each⟩, ?_⟩
              · exact survey_none.mp (Prod.ext unsupported failure)
              · rw [unsupported]
  · rintro ⟨files, ⟨valid, resolved, supported, each⟩, rfl⟩
    refine ⟨?_, rfl⟩
    dsimp only
    rw [if_neg (by simp [valid]), if_neg (by simp [resolved]), survey_none.mpr supported]
    dsimp only
    rw [if_neg (by simp), if_neg (by simp), mapM_ok_forall₂.mpr each]

theorem resourceErrors_names {provider : String} {i : Nat} {rs : List Validator.Resource} {resourceMap : List String}
    (none_ : (Validator.resourceErrors provider i rs resourceMap).1 = []) :
    ∀ r ∈ rs, Validator.logicalNameRegex (TrimSpace r.logicalName) = true := by
  induction rs generalizing i resourceMap with
  | nil => exact nofun
  | cons r rs ih =>
    simp only [Validator.resourceErrors, List.append_eq_nil_iff] at none_
    obtain ⟨⟨⟨named, -⟩, -⟩, rest⟩ := none_
    refine List.forall_mem_cons.mpr ⟨?_, ih rest⟩
    unfold Validator.register at named
    dsimp only at named
    split at named
    · cases named
    · split at named
      · cases named
      · rename_i valid
        simpa using valid

theorem valid_names [GoRuntime] {content : Validator.Manifest} (valid : (Validator.Validate (some content)).valid = true) :
    ∀ r ∈ content.resources, Validator.logicalNameRegex (TrimSpace r.logicalName) = true := by
  have none_ := List.isEmpty_iff.mp valid
  unfold Validator.errors at none_
  dsimp only at none_
  split at none_
  · simp at none_
  · simp only [List.append_eq_nil_iff] at none_
    exact resourceErrors_names none_.1.1.1.2

structure Bundled [GoRuntime] (m : Manifest) (files : List TerraformFile) : Prop where
  made : ∃ rendered provider parts, Rendered m true rendered ∧ ProviderConfig m.provider = .ok provider ∧
    List.Forall₂ (fun r p => part (providersFile m :: rendered) r = .ok p) (byName m.resources) parts ∧
    files = byPath (bundleFiles m provider parts)

theorem Bundle_ok [GoRuntime] : (Bundle (some m) = (res, none) ∧ res.unsupported = []) ↔
    ∃ m₀ files, renamed m = .ok m₀ ∧ Bundled m₀ files ∧ res = ⟨files, []⟩ := by
  unfold Bundle
  constructor
  · rintro ⟨done, complete⟩
    dsimp only at done
    split at done
    · cases done
    · rename_i m₀ copied
      rcases rendering : render (some m₀) true with ⟨first, err⟩
      rw [rendering] at done
      dsimp only at done
      split at done
      · rename_i stopped
        obtain ⟨rfl, rfl⟩ := Prod.mk.inj done
        rw [complete] at stopped
        simp at stopped
      · rename_i stopped
        rw [not_or, Option.not_isSome_iff_eq_none] at stopped
        obtain ⟨rfl, none_⟩ := stopped
        obtain ⟨rendered, ok, rfl⟩ := render_ok.mp ⟨rendering, List.length_eq_zero_iff.mp (Nat.eq_zero_of_not_pos none_)⟩
        split at done
        · cases done
        · rename_i files built
          obtain ⟨rfl, -⟩ := Prod.mk.inj done
          obtain ⟨provider, configured, rest⟩ := except_bind_ok.mp built
          obtain ⟨parts, each, last⟩ := except_bind_ok.mp rest
          exact ⟨m₀, files, copied, ⟨_, provider, parts, ok, configured, mapM_ok_forall₂.mp each,
            (Except.ok.inj last).symm⟩, rfl⟩
  · rintro ⟨m₀, files, copied, ⟨rendered, provider, parts, ok, configured, each, rfl⟩, rfl⟩
    obtain ⟨done, -⟩ := render_ok.mpr ⟨rendered, ok, rfl⟩
    refine ⟨?_, rfl⟩
    have built : bundle m₀ (providersFile m₀ :: rendered) = .ok (byPath (bundleFiles m₀ provider parts)) :=
      except_bind_ok.mpr ⟨provider, configured, except_bind_ok.mpr ⟨parts, mapM_ok_forall₂.mpr each, rfl⟩⟩
    dsimp only
    rw [copied]
    dsimp only
    rw [done, if_neg (by simp)]
    dsimp only
    rw [built]

end Rendering

end Provisr.Backend.Terraform
