import Provisr.Backend.BundleOrder

namespace Provisr.Backend.Terraform

open Provisr.Foundation Provisr.Foundation.TextTemplate
open Provisr.Orchestrator (TerraformFile)

section Resources

variable {m : Manifest} {resources : List Resource} {r : Resource} {s : Spec}

theorem assets_known : ∀ e ∈ catalog, (assets.lookup e.2.path).isSome = true := by decide

theorem renderResource_iff (known : (catalog.lookup r.type).isSome = true) (parameterized : Bool) :
    (∃ file, renderResource m resources parameterized r = .ok file) ↔ ∃ p, properties r (specOf r.type) = .ok p := by
  have mem := specOf_mem known
  constructor
  · rintro ⟨file, done⟩
    obtain ⟨p, checked, -⟩ := except_bind_ok.mp done
    exact ⟨p, checked⟩
  · rintro ⟨p, checked⟩
    obtain ⟨complete, -⟩ := properties_ok (fields_distinct _ mem) checked
    obtain ⟨template, found⟩ : ∃ template, assets.lookup (specOf r.type).path = some template :=
      Option.isSome_iff_exists.mp (assets_known _ mem)
    let data : Data := ⟨"r_" ++ r.logicalName, p.entries.map fun e => (e.1, argument parameterized r e.1 e.2),
      mergedTags m r, ", ".intercalate (dependencies resources r)⟩
    have stored : ∀ {key v}, p.get? key = some v → data.P.lookup key = some (argument parameterized r key v) := by
      intro key v here
      rw [lookup_map_entries (argument parameterized r), show p.entries.lookup key = some v from here, Option.map_some]
    have filled : ∀ ps ∈ template, ∀ h ∈ holes ps, fill data h = some ((fill data h).getD "") := by
      intro ps line h hole
      have key := assets_fields _ mem template found ps line h hole
      cases h with
      | name | tags | dependencies => rfl
      | property key | choice key yes no =>
        simp only [keyOf, Option.all_some, List.contains_iff_mem] at key
        obtain ⟨v, here, -⟩ := complete.valued _ key
        rw [fill, stored here]
        rfl
    obtain ⟨content, done⟩ : ∃ content, execute (fill data) template = some content := ⟨_, execute_eq filled⟩
    refine ⟨⟨pathOf r, content⟩, except_bind_ok.mpr ⟨p, checked, ?_⟩⟩
    dsimp only
    rw [found]
    dsimp only
    rw [done]
    rfl

-- A network resource with space before its type, which only the trimmed type shows to be one, without encryption.
structure Misread (r : Resource) : Prop where
  spaced : HasPrefix r.type "network." = false
  network : HasPrefix (TrimSpace r.type) "network." = true
  plain : ∃ settings, r.securitySettings = some settings ∧ settings.encryptionEnabled = false

theorem security_iff (trimmed_ : checkSecurity (trim r) = .ok ()) : checkSecurity r = .ok () ↔ ¬ Misread r := by
  cases given : r.securitySettings with
  | none =>
    refine ⟨fun _ misread => ?_, fun _ => by rw [checkSecurity, given]⟩
    obtain ⟨settings, same, -⟩ := misread.plain
    rw [given] at same
    cases same
  | some settings =>
    have same : (trim r).securitySettings = some settings := given
    rw [checkSecurity, same] at trimmed_
    dsimp only at trimmed_
    split at trimmed_
    · cases trimmed_
    · rename_i kind
      split at trimmed_
      · cases trimmed_
      · rename_i private_
        rw [Bool.or_eq_true, not_or, Bool.not_eq_true, Bool.not_eq_true] at private_
        obtain ⟨closed, encrypted⟩ := private_
        rw [checkSecurity, given]
        dsimp only
        rw [if_neg kind, closed, Bool.false_or]
        split
        · rename_i refused
          rw [Bool.and_eq_true, Bool.not_eq_true', Bool.not_eq_true'] at refused
          have network : HasPrefix (TrimSpace r.type) "network." = true := by simpa [trim, refused.2] using encrypted
          refine ⟨fun broken => ?_, fun fine => absurd ⟨refused.1, network, settings, given, refused.2⟩ fine⟩
          cases broken
        · rename_i allowed
          refine ⟨fun _ misread => allowed ?_, fun _ => rfl⟩
          obtain ⟨settings', same', plain⟩ := misread.plain
          rw [given] at same'
          obtain rfl := Option.some.inj same'
          simp [misread.spaced, plain]

-- What the second reading of the properties asks for beyond the first.
theorem properties_trim (checked : ∃ p, properties (trim r) s = .ok p) :
    (∃ p, properties r s = .ok p) ↔ checkSecurity r = .ok () := by
  obtain ⟨p, checked⟩ := checked
  unfold properties at checked ⊢
  split at checked
  · cases checked
  · rename_i none_
    obtain ⟨q, passed, -⟩ := except_bind_ok.mp checked
    obtain ⟨q', passed', -⟩ := @checkFields_same (trim r) r _ _ _ _ (GoMap.Reordered.refl Json.Same.refl _) passed
    rw [show (r.properties.first fun key _ => if key ∈ s.fields then none else some key) = none from none_]
    dsimp only
    constructor
    · rintro ⟨_, done⟩
      obtain ⟨_, -, rest⟩ := except_bind_ok.mp done
      obtain ⟨_, secure, -⟩ := except_bind_ok.mp rest
      exact secure
    · intro secure
      exact ⟨q', except_bind_ok.mpr ⟨q', passed', except_bind_ok.mpr ⟨(), secure, rfl⟩⟩⟩

end Resources

section Bundles

variable [GoUnicode] [GoRuntime] {m : Manifest} {files : List TerraformFile} {parameterized : Bool}

theorem Rendered.checked (ok : Rendered m parameterized files) :
    ∀ r ∈ m.resources, ∃ p, properties (trim r) (specOf (TrimSpace r.type)) = .ok p := by
  intro r mem
  have sorted : trim r ∈ byName (trimmed m.resources) := mem_byName.mpr (List.mem_map_of_mem mem)
  obtain ⟨file, -, done⟩ := mem_of_forall₂ ok.each sorted
  have known : (catalog.lookup (trim r).type).isSome = true := (ok.supported r mem).known
  exact (@renderResource_iff m _ (trim r) known parameterized).mp ⟨file, done⟩

theorem Rendered.either (ok : Rendered m parameterized files) (parameterized' : Bool) :
    ∃ files', Rendered m parameterized' files' := by
  have each : ∀ r ∈ byName (trimmed m.resources), ∃ file,
      renderResource m (byName (trimmed m.resources)) parameterized' r = .ok file ∧ True := by
    intro r mem
    obtain ⟨r, own, rfl⟩ := List.mem_map.mp (mem_byName.mp mem)
    have known : (catalog.lookup (trim r).type).isSome = true := (ok.supported r own).known
    obtain ⟨file, done⟩ := (@renderResource_iff m (byName (trimmed m.resources)) (trim r) known parameterized').mpr
      (ok.checked r own)
    exact ⟨file, done, trivial⟩
  obtain ⟨files', done, -⟩ := mapM_ok_iff.mpr each
  exact ⟨files', { ok with each := mapM_ok_forall₂.mp done }⟩

theorem Rendered.secure (ok : Rendered m parameterized files) {r : Resource} (mem : r ∈ m.resources) :
    checkSecurity (trim r) = .ok () := by
  obtain ⟨p, checked⟩ := ok.checked r mem
  exact (properties_ok (fields_distinct _ (specOf_mem (ok.supported r mem).known)) checked).2

theorem bundled_iff : (∃ files, Bundled m files) ↔
    (∃ files, Rendered m false files) ∧ ∀ r ∈ m.resources, ¬ Misread r := by
  constructor
  · rintro ⟨files, ⟨rendered, provider, parts, ok, configured, each, -⟩⟩
    refine ⟨ok.either false, fun r mem => (security_iff (ok.secure mem)).mp ?_⟩
    obtain ⟨p, -, done⟩ := mem_of_forall₂ each (mem_byName.mpr mem)
    exact (properties_trim (ok.checked r mem)).mp (part_ok.mp done).1
  · rintro ⟨⟨rendered, ok⟩, read⟩
    obtain ⟨rendered', ok'⟩ := ok.either true
    have configured : ProviderConfig m.provider = .ok awsProvider := by
      rw [ProviderConfig, ok.provider]
      rfl
    have each : ∀ r ∈ byName m.resources, ∃ p, part (providersFile m :: rendered') r = .ok p ∧ True := by
      intro r mem
      have own := mem_byName.mp mem
      have secure := (security_iff (ok.secure own)).mpr (read r own)
      exact ⟨_, part_ok.mpr ⟨(properties_trim (ok.checked r own)).mpr secure, rfl⟩, trivial⟩
    obtain ⟨parts, done, -⟩ := mapM_ok_iff.mpr each
    exact ⟨_, ⟨rendered', awsProvider, parts, ok', configured, mapM_ok_forall₂.mp done, rfl⟩⟩

-- A manifest is packaged where it renders under its cloud names, but for a network resource that is taken for another.
theorem bundle_iff_render : (∃ files, Bundle (some m) = (⟨files, []⟩, none)) ↔
    ∃ m₀, renamed m = .ok m₀ ∧ (∃ files, Render (some m₀) = (⟨files, []⟩, none)) ∧ ∀ r ∈ m₀.resources, ¬ Misread r := by
  have renders : ∀ m₀, (∃ files, Render (some m₀) = (⟨files, []⟩, none)) ↔ ∃ files, Rendered m₀ false files := by
    intro m₀
    constructor
    · rintro ⟨files, done⟩
      obtain ⟨rendered, ok, -⟩ := render_ok.mp ⟨done, rfl⟩
      exact ⟨rendered, ok⟩
    · rintro ⟨rendered, ok⟩
      exact ⟨_, (render_ok.mpr ⟨rendered, ok, rfl⟩).1⟩
  constructor
  · rintro ⟨files, done⟩
    obtain ⟨m₀, files', copied, bundled, -⟩ := Bundle_ok.mp ⟨done, rfl⟩
    obtain ⟨rendered, read⟩ := bundled_iff.mp ⟨files', bundled⟩
    exact ⟨m₀, copied, (renders m₀).mpr rendered, read⟩
  · rintro ⟨m₀, copied, rendered, read⟩
    obtain ⟨files, bundled⟩ := bundled_iff.mpr ⟨(renders m₀).mp rendered, read⟩
    exact ⟨files, (Bundle_ok.mpr ⟨m₀, files, copied, bundled, rfl⟩).1⟩

end Bundles

end Provisr.Backend.Terraform
