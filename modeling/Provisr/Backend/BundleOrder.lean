import Provisr.Backend.ManifestOrder
import Provisr.Backend.TerraformClosed
import Provisr.Foundation.Reordering
import Mathlib.Data.List.Perm.Basic

namespace Provisr.Backend.Terraform

open Provisr.Foundation Provisr.Foundation.TextTemplate
open Provisr.Orchestrator (TerraformFile)

section Readers

variable {a b : Json Literal}

theorem hcl_same (same : Json.Same a b) : hcl a = hcl b := by
  rw [hcl, hcl, GoJson.marshalChars, GoJson.marshalChars, same.normalize Function.injective_id]

theorem isBool_same (same : Json.Same a b) : isBool a = isBool b :=
  same.read fun a => by cases a <;> rfl

theorem isTrue_same (same : Json.Same a b) : isTrue (.value a) = isTrue (.value b) := by
  refine @Json.Same.read _ _ _ _ (fun a => isTrue (.value a)) (fun a => ?_) same
  cases a with
  | arr items =>
    cases items with
    | nil => rfl
    | cons => rfl
  | obj fields =>
    change (!(Json.sortFields id (Json.normalizeFields id fields)).isEmpty) = !fields.isEmpty
    rw [Json.sortFields_isEmpty]
    cases fields with
    | nil => rfl
    | cons => rfl
  | _ => rfl

theorem storageSize_same (same : Json.Same a b) : storageSize a = storageSize b :=
  same.read fun a => by cases a <;> rfl

theorem asStrings_same (same : Json.Same a b) : asStrings a = asStrings b := by
  refine same.read fun a => ?_
  cases a with
  | arr items =>
    rw [Json.normalize, Json.normalizeItems_eq_map, asStrings, asStrings]
    induction items with
    | nil => rfl
    | cons item items ih =>
      rw [List.map_cons, List.mapM_cons, List.mapM_cons, ih]
      cases item <;> rfl
  | _ => rfl

end Readers

section Properties

abbrev SameMap (p q : GoMap (Json Literal)) : Prop := GoMap.Reordered Json.Same p q

structure SameResource (r r' : Resource) : Prop extends Validator.Alike r.toResource r'.toResource where
  properties : SameMap r.properties r'.properties
  tags : GoMap.Reordered Eq r.tags r'.tags
  securitySettings : r'.securitySettings = r.securitySettings

variable {r r' : Resource} {p q p' : GoMap (Json Literal)} {key : String}

theorem isNil_same (same : SameMap p q) (key : String) : isNil (p.get? key) = isNil (q.get? key) := by
  have here := same key
  revert here
  generalize p.get? key = x
  generalize q.get? key = y
  rintro (⟨related⟩ | _)
  · cases related <;> rfl
  · rfl

theorem getD_same (same : SameMap p q) (key : String) :
    Json.Same ((p.get? key).getD .null) ((q.get? key).getD .null) := by
  have here := same key
  revert here
  generalize p.get? key = x
  generalize q.get? key = y
  rintro (⟨related⟩ | _)
  · exact related
  · exact .null

theorem versioned_same (same : SameMap p q) (key : String) : SameMap (versioned p key) (versioned q key) := by
  unfold versioned
  rw [isNil_same same key]
  split
  · exact same.set (Json.Same.refl _) key
  · exact same

theorem checkField_same (same : SameMap p q) (done : checkField r p key = .ok p') :
    ∃ q', checkField r' q key = .ok q' ∧ SameMap p' q' := by
  unfold checkField at done ⊢
  split at done
  · rename_i versioning
    rw [if_pos versioning]
    split at done
    · rename_i set_
      obtain rfl := Except.ok.inj done
      obtain ⟨b, stored, related⟩ := (versioned_same same key).get? set_
      cases related
      rw [stored]
      exact ⟨_, rfl, versioned_same same key⟩
    · cases done
  · rename_i versioning
    rw [if_neg versioning]
    split at done
    · rename_i storage
      rw [if_pos storage]
      split at done
      · rename_i size
        obtain rfl := Except.ok.inj done
        rw [storageSize_same (getD_same same key)] at size
        exact ⟨q, if_pos size, same⟩
      · cases done
    · rename_i storage
      rw [if_neg storage]
      split at done
      · rename_i groups
        rw [if_pos groups, ← asStrings_same (getD_same same key)]
        split at done
        · cases done
        · cases done
        · rename_i ids nonempty listed
          split at done
          · cases done
          · rename_i filled
            obtain rfl := Except.ok.inj done
            exact ⟨_, if_neg filled, same.set (.refl _) key⟩
      · rename_i groups
        rw [if_neg groups]
        split at done
        · rename_i value stored
          obtain ⟨b, stored', related⟩ := same.get? stored
          cases related
          rw [stored']
          dsimp only
          split at done
          · cases done
          · rename_i filled
            rw [if_neg filled]
            split at done
            · cases done
            · rename_i network
              rw [if_neg network]
              split at done
              · cases done
              · rename_i engine
                obtain rfl := Except.ok.inj done
                exact ⟨q, if_neg engine, same⟩
        · cases done

theorem checkFields_same {fields : List String} (same : SameMap p q) (done : fields.foldlM (checkField r) p = .ok p') :
    ∃ q', fields.foldlM (checkField r') q = .ok q' ∧ SameMap p' q' := by
  induction fields generalizing p q with
  | nil =>
    obtain rfl := Except.ok.inj done
    exact ⟨q, rfl, same⟩
  | cons key fields ih =>
    rw [List.foldlM_cons] at done
    obtain ⟨first, checked, rest⟩ := except_bind_ok.mp done
    obtain ⟨first', checked', same'⟩ := checkField_same same checked
    obtain ⟨q', rest', related⟩ := ih same' rest
    refine ⟨q', ?_, related⟩
    rw [List.foldlM_cons]
    exact except_bind_ok.mpr ⟨first', checked', rest'⟩

theorem SameResource.security (same : SameResource r r') : checkSecurity r' = checkSecurity r := by
  unfold checkSecurity resourceError
  rw [same.securitySettings, same.type, same.name]

theorem properties_same (same : SameResource r r') {s : Spec} (done : properties r s = .ok p) :
    ∃ q, properties r' s = .ok q ∧ SameMap p q := by
  unfold properties at done ⊢
  split at done
  · cases done
  · rename_i none_
    obtain ⟨p', checked, rest⟩ := except_bind_ok.mp done
    obtain ⟨_, secure, last⟩ := except_bind_ok.mp rest
    obtain rfl := Except.ok.inj last
    obtain ⟨q, checked', related⟩ := @checkFields_same r r' _ _ _ _ same.properties checked
    refine ⟨q, ?_, related⟩
    rw [same.properties.first_none (fun _ _ => Json.Same.symm) none_]
    exact except_bind_ok.mpr ⟨q, checked', except_bind_ok.mpr ⟨(), same.security ▸ secure, rfl⟩⟩

end Properties

section Rendering

variable {m m' : Manifest} {r r' : Resource} {p q : GoMap (Json Literal)} {resources resources' : List Resource}

theorem get?_mergedTags (m : Manifest) (r : Resource) (k : String) :
    (mergedTags m r).get? k = (r.tags.get? k).or (m.tags.get? k) := by
  rw [mergedTags, GoMap.get?_foldl_set r.tags.distinct, GoMap.get?_foldl_set m.tags.distinct]
  simp [GoMap.get?, GoMap.empty]

theorem rel_eq {α : Type} {x y : Option α} (related : Option.Rel Eq x y) : x = y := by
  cases related with
  | some same => rw [same]
  | none => rfl

theorem SameResource.tagged (same : SameResource r r') (tags : GoMap.Reordered Eq m.tags m'.tags) :
    hcl (tagsJson (mergedTags m r)) = hcl (tagsJson (mergedTags m' r')) := by
  have one : ∀ k, (mergedTags m r).get? k = (mergedTags m' r').get? k := fun k => by
    rw [get?_mergedTags, get?_mergedTags, rel_eq (same.tags k), rel_eq (tags k)]
  have keys : ∀ t : GoMap String, ((t.entries.map (Prod.map id (Json.str : String → Json Literal))).map Prod.fst).Nodup := by
    intro t
    rw [List.map_map]
    exact t.distinct
  refine hcl_same (Json.same_obj (keys _) (keys _) fun k => ?_)
  have listed : ∀ t : GoMap String, (t.entries.map (Prod.map id Json.str)).lookup k =
      ((t.get? k).map Json.str : Option (Json Literal)) := fun t => lookup_map_entries (fun _ => Json.str) t.entries k
  rw [listed, listed, one]
  exact GoMap.rel_self Json.Same.refl _

theorem argument_same (name : r'.logicalName = r.logicalName) (parameterized : Bool) (key : String) {a b : Json Literal}
    (same : Json.Same a b) :
    hclOf (argument parameterized r key a) = hclOf (argument parameterized r' key b) ∧
      isTrue (argument parameterized r key a) = isTrue (argument parameterized r' key b) := by
  unfold argument
  rw [isBool_same same, name]
  split
  · exact ⟨rfl, rfl⟩
  · exact ⟨hcl_same same, isTrue_same same⟩

theorem dependencies_same (same : SameResource r r') (each : List.Forall₂ SameResource resources resources') :
    dependencies resources' r' = dependencies resources r := by
  have found : (fun name => (resources'.filter fun dep => dep.logicalName == name).map fun dep =>
      (specOf dep.type).terraformType ++ ".r_" ++ name) =
      fun name => (resources.filter fun dep => dep.logicalName == name).map fun dep =>
        (specOf dep.type).terraformType ++ ".r_" ++ name := by
    funext name
    induction each with
    | nil => rfl
    | cons alike _ ih =>
      rw [List.filter_cons, List.filter_cons, alike.name]
      split
      · rw [List.map_cons, List.map_cons, ih, alike.type]
      · exact ih
  unfold dependencies
  rw [found]
  exact (sortStable_eq_of_perm (fun _ _ _ _ same => same) (same.dependsOn.flatMap_right _)).symm

theorem fill_same {d d' : Data} (name : d'.name = d.name) (tags : hcl (tagsJson d.tags) = hcl (tagsJson d'.tags))
    (dependencies : d'.dependencies = d.dependencies)
    (values : ∀ key, Option.Rel (fun x y => hclOf x = hclOf y ∧ isTrue x = isTrue y) (d.P.lookup key) (d'.P.lookup key)) :
    fill d' = fill d := by
  funext h
  cases h with
  | name => rw [fill, fill, name]
  | tags => rw [fill, fill, tags]
  | dependencies => rw [fill, fill, dependencies]
  | property key =>
    rw [fill, fill]
    have here := values key
    revert here
    generalize d.P.lookup key = x
    generalize d'.P.lookup key = y
    rintro (⟨same⟩ | _)
    · exact congrArg some same.1.symm
    · rfl
  | choice key yes no =>
    rw [fill, fill]
    have here := values key
    revert here
    generalize d.P.lookup key = x
    generalize d'.P.lookup key = y
    rintro (⟨same⟩ | _)
    · simp [same.2]
    · rfl

theorem SameResource.rendered (same : SameResource r r') (tags : GoMap.Reordered Eq m.tags m'.tags)
    (each : List.Forall₂ SameResource resources resources') {parameterized : Bool} {file : TerraformFile}
    (done : renderResource m resources parameterized r = .ok file) :
    renderResource m' resources' parameterized r' = .ok file := by
  unfold renderResource at done ⊢
  obtain ⟨p, checked, rest⟩ := except_bind_ok.mp done
  obtain ⟨q, checked', related⟩ := properties_same same checked
  rw [← same.type] at checked'
  refine except_bind_ok.mpr ⟨q, checked', ?_⟩
  have filled := @fill_same ⟨"r_" ++ r.logicalName, p.entries.map fun e => (e.1, argument parameterized r e.1 e.2),
      mergedTags m r, ", ".intercalate (dependencies resources r)⟩
    ⟨"r_" ++ r'.logicalName, q.entries.map fun e => (e.1, argument parameterized r' e.1 e.2),
      mergedTags m' r', ", ".intercalate (dependencies resources' r')⟩
    (by rw [same.name]) (same.tagged tags) (by rw [dependencies_same same each]) ?_
  · dsimp only at rest ⊢
    rw [filled, same.type, same.name]
    exact rest
  · intro key
    rw [lookup_map_entries (argument parameterized r), lookup_map_entries (argument parameterized r')]
    have here := related key
    unfold GoMap.get? at here
    revert here
    generalize p.entries.lookup key = x
    generalize q.entries.lookup key = y
    rintro (⟨value⟩ | _)
    · exact .some (argument_same same.name parameterized key value)
    · exact .none

end Rendering

section Manifests

structure SameManifest (m m' : Manifest) : Prop where
  schemaVersion : m'.schemaVersion = m.schemaVersion
  provider : m'.provider = m.provider
  region : m'.region = m.region
  costEstimate : m'.costEstimate = m.costEstimate
  unknowns : m'.unknowns.length = m.unknowns.length
  tags : GoMap.Reordered Eq m.tags m'.tags
  resources : ∃ rs, m.resources.Perm rs ∧ List.Forall₂ SameResource rs m'.resources

variable {m m' m₀ : Manifest} {r r' q : Resource}

theorem SameResource.symm (same : SameResource r r') : SameResource r' r where
  name := same.name.symm
  type := same.type.symm
  source := same.source.symm
  dependsOn := same.dependsOn.symm
  properties := same.properties.symm fun _ _ => Json.Same.symm
  tags := same.tags.symm fun _ _ => Eq.symm
  securitySettings := same.securitySettings.symm

theorem SameManifest.symm (same : SameManifest m m') : SameManifest m' m := by
  obtain ⟨rs, perm, each⟩ := same.resources
  have back : List.Forall₂ SameResource m'.resources rs :=
    List.Forall₂.flip (each.imp fun _ _ alike => SameResource.symm alike)
  have joined : Relation.Comp List.Perm (List.Forall₂ SameResource) m'.resources m.resources := by
    rw [← List.forall₂_comp_perm_eq_perm_comp_forall₂]
    exact ⟨rs, back, perm.symm⟩
  exact {
    schemaVersion := same.schemaVersion.symm
    provider := same.provider.symm
    region := same.region.symm
    costEstimate := same.costEstimate.symm
    unknowns := same.unknowns.symm
    tags := same.tags.symm fun _ _ => Eq.symm
    resources := joined }

theorem renameS3_same (same : SameResource r r') (done : renameS3 r = .ok q) :
    ∃ q', renameS3 r' = .ok q' ∧ SameResource q q' := by
  unfold renameS3 at done ⊢
  rw [same.type, ← isNil_same same.properties]
  split at done
  · rename_i kept
    obtain rfl := Except.ok.inj done
    exact ⟨r', if_pos kept, same⟩
  · rename_i renames
    rw [if_neg renames]
    split at done
    · rename_i name stored
      obtain ⟨_, stored', alike⟩ := same.properties.get? stored
      cases alike
      rw [stored']
      have given : ∀ bucket, SameResource
          { r with properties := (r.properties.set "bucket" bucket).erase "name" }
          { r' with properties := (r'.properties.set "bucket" bucket).erase "name" } := fun bucket =>
        { same with properties := (same.properties.set (.refl _) _).erase _ }
      split at done
      · rename_i bucket here
        obtain ⟨_, here', alike⟩ := same.properties.get? here
        cases alike
        rw [here']
        split at done
        · cases done
        · rename_i agrees
          obtain rfl := Except.ok.inj done
          exact ⟨_, if_neg agrees, given _⟩
      · cases done
      · rename_i none_
        obtain rfl := Except.ok.inj done
        rw [same.properties.absent none_]
        exact ⟨_, rfl, given _⟩
    · cases done

theorem renamed_same (same : SameManifest m m') (done : renamed m = .ok m₀) :
    ∃ m₁, renamed m' = .ok m₁ ∧ SameManifest m₀ m₁ := by
  obtain ⟨qs, each, last⟩ := except_bind_ok.mp done
  obtain rfl := Except.ok.inj last
  obtain ⟨rs, perm, alike⟩ := same.resources
  obtain ⟨ws, moved, perm'⟩ := List.perm_comp_forall₂ perm.symm (mapM_ok_forall₂.mp each)
  have join : ∀ a b c, renameS3 a = .ok b → SameResource a c → ∃ d, renameS3 c = .ok d ∧ SameResource b d :=
    fun _ _ _ renames alike => renameS3_same alike renames
  obtain ⟨qs', each', alike'⟩ := forall₂_joined join moved alike
  refine ⟨{ m' with resources := qs' }, except_bind_ok.mpr ⟨qs', mapM_ok_forall₂.mpr each', rfl⟩, ?_⟩
  exact { same with resources := ⟨ws, perm'.symm, alike'⟩ }

theorem SameManifest.validated (same : SameManifest m m') : Validator.Rearranged m.validated m'.validated where
  schemaVersion := same.schemaVersion
  provider := same.provider
  region := same.region
  costEstimate := same.costEstimate
  resources := by
    obtain ⟨rs, perm, each⟩ := same.resources
    refine ⟨rs.map Resource.toResource, perm.map _, ?_⟩
    rw [Manifest.validated, List.forall₂_map_left_iff, List.forall₂_map_right_iff]
    exact each.imp fun _ _ alike => alike.toAlike

theorem byName_same {rs ss ts : List Resource} (distinct : (rs.map fun r => r.logicalName).Nodup) (perm : rs.Perm ts)
    (each : List.Forall₂ SameResource ts ss) : List.Forall₂ SameResource (byName rs) (byName ss) := by
  have untied : ∀ a ∈ rs, ∀ b ∈ rs, a.logicalName = b.logicalName → a = b := fun a ha b hb same =>
    List.inj_on_of_nodup_map distinct ha hb same
  rw [byName, sortStable_eq_of_perm untied perm]
  exact sortStable_forall₂ (fun _ _ alike => alike.name.symm) each

theorem trim_same [GoUnicode] (same : SameResource r r') : SameResource (trim r) (trim r') where
  name := same.name
  type := by rw [trim, trim, same.type]
  source := same.source
  dependsOn := same.dependsOn
  properties := same.properties
  tags := same.tags
  securitySettings := same.securitySettings

end Manifests

section Bundles

variable [GoUnicode] [GoRuntime] {m m' : Manifest} {files : List TerraformFile}

theorem rendered_same (same : SameManifest m m') {parameterized : Bool} (ok : Rendered m parameterized files) :
    Rendered m' parameterized files := by
  obtain ⟨rs, perm, alike⟩ := same.resources
  have sorted : List.Forall₂ SameResource (byName (trimmed m.resources)) (byName (trimmed m'.resources)) := by
    refine byName_same ?_ (perm.map trim) ?_
    · rw [trimmed, List.map_map]
      exact ok.distinct
    · rw [trimmed, List.forall₂_map_left_iff, List.forall₂_map_right_iff]
      exact alike.imp fun _ _ => trim_same
  have join : ∀ r file r', renderResource m (byName (trimmed m.resources)) parameterized r = .ok file →
      SameResource r r' → ∃ file',
        renderResource m' (byName (trimmed m'.resources)) parameterized r' = .ok file' ∧ file = file' :=
    fun _ file _ done alike => ⟨file, alike.rendered same.tags sorted done, rfl⟩
  obtain ⟨files', each, equal⟩ := forall₂_joined join ok.each sorted
  rw [List.forall₂_eq_eq_eq] at equal
  subst equal
  exact {
    valid := Validator.valid_iff.mpr (Validator.admissible_of_rearranged same.validated (Validator.valid_iff.mp ok.valid))
    resolved := List.length_eq_zero_iff.mp (same.unknowns.trans (List.length_eq_zero_iff.mpr ok.resolved))
    supported := by
      intro r' mem
      obtain ⟨r, own, alike⟩ := exists_of_forall₂_right alike mem
      obtain ⟨name, known, provider⟩ := ok.supported r (perm.mem_iff.mpr own)
      exact ⟨by rw [alike.name, name], by rwa [alike.type], by rwa [same.provider]⟩
    each := each }

omit [GoUnicode] [GoRuntime] in
theorem part_same {rendered : List TerraformFile} {r r' : Resource} {p : Part} (same : SameResource r r')
    (done : part rendered r = .ok p) : part rendered r' = .ok p := by
  obtain ⟨values, checked, last⟩ := except_bind_ok.mp done
  obtain ⟨values', checked', related⟩ := properties_same same checked
  rw [← same.type] at checked'
  have written : hcl (.obj values'.entries) = hcl (.obj values.entries) :=
    (hcl_same (Json.same_obj values.distinct values'.distinct related)).symm
  refine except_bind_ok.mpr ⟨values', checked', ?_⟩
  rw [written, contentOf, same.name, same.type]
  exact last

theorem bundled_same (same : SameManifest m m') (ok : Bundled m files) : Bundled m' files := by
  obtain ⟨rendered, provider, parts, done, configured, each, rfl⟩ := ok.made
  obtain ⟨rs, perm, alike⟩ := same.resources
  have sorted := byName_same done.distinct perm alike
  have head : providersFile m' = providersFile m := by rw [providersFile, providersFile, same.region]
  have join : ∀ r p r', part (providersFile m :: rendered) r = .ok p → SameResource r r' →
      ∃ p', part (providersFile m :: rendered) r' = .ok p' ∧ p = p' :=
    fun _ p _ done alike => ⟨p, part_same alike done, rfl⟩
  obtain ⟨parts', each', equal⟩ := forall₂_joined join each sorted
  rw [List.forall₂_eq_eq_eq] at equal
  subst equal
  have configured' : ProviderConfig m'.provider = .ok provider := by rw [same.provider, configured]
  have each'' : List.Forall₂ (fun r p => part (providersFile m' :: rendered) r = .ok p) (byName m'.resources) parts := by
    rw [head]
    exact each'
  have last : bundleFiles m provider parts = bundleFiles m' provider parts := by
    unfold bundleFiles
    rw [same.region]
  exact ⟨⟨rendered, provider, parts, rendered_same same done, configured', each'', congrArg byPath last⟩⟩

theorem render_whole {parameterized : Bool} {res : Result} {err : Option String}
    (done : render (some m) parameterized = (res, err)) (stopped : err.isSome ∨ 0 < res.unsupported.length) :
    res.files = [] := by
  unfold render at done
  dsimp only at done
  split at done
  · exact (Prod.mk.inj done).1 ▸ rfl
  · split at done
    · exact (Prod.mk.inj done).1 ▸ rfl
    · split at done
      · exact (Prod.mk.inj done).1 ▸ rfl
      · split at done
        · exact (Prod.mk.inj done).1 ▸ rfl
        · rename_i none_
          split at done
          · exact (Prod.mk.inj done).1 ▸ rfl
          · obtain ⟨rfl, rfl⟩ := Prod.mk.inj done
            exact absurd stopped (by simpa using none_)

theorem bundle_whole (m : Manifest) : (Bundle (some m)).1.files = [] ∨
    Bundle (some m) = (⟨(Bundle (some m)).1.files, []⟩, none) := by
  cases copied : renamed m with
  | error err =>
    left
    unfold Bundle
    dsimp only
    rw [copied]
  | ok m₀ =>
    rcases rendering : render (some m₀) true with ⟨first, err⟩
    unfold Bundle
    dsimp only
    rw [copied]
    dsimp only
    rw [rendering]
    dsimp only
    split
    · rename_i stopped
      exact .inl (render_whole rendering stopped)
    · cases bundle m₀ first.files with
      | error => exact .inl rfl
      | ok files => exact .inr rfl

theorem bundle_same (same : SameManifest m m') (done : Bundle (some m) = (⟨files, []⟩, none)) :
    Bundle (some m') = (⟨files, []⟩, none) := by
  obtain ⟨m₀, files', copied, ok, whole⟩ := Bundle_ok.mp ⟨done, rfl⟩
  obtain ⟨m₁, copied', same'⟩ := renamed_same same copied
  have done' := (Bundle_ok.mpr ⟨m₁, files', copied', bundled_same same' ok, rfl⟩).1
  rw [done', whole]

-- No order of the resources, of their dependencies or of a map shows in the files.
theorem bundle_ordered (same : SameManifest m m') :
    (Bundle (some m)).1.files = (Bundle (some m')).1.files ∧
      ∀ files, Bundle (some m) = (⟨files, []⟩, none) ↔ Bundle (some m') = (⟨files, []⟩, none) := by
  refine ⟨?_, fun files => ⟨bundle_same same, bundle_same same.symm⟩⟩
  obtain none_ | whole := bundle_whole m
  · obtain none_' | whole' := bundle_whole m'
    · rw [none_, none_']
    · rw [bundle_same same.symm whole']
  · rw [bundle_same same whole]

end Bundles

section Example

def archive : Resource :=
  { bucketLogs with properties := ⟨[("name", .str "provisr-logs"), ("versioning", .bool false)], by decide⟩ }

def turnedArchive : Resource :=
  { bucketLogs with properties := ⟨[("versioning", .bool false), ("name", .str "provisr-logs")], by decide⟩ }

def archived : Manifest := { network with resources := [vpcMain, archive] }

def turnedArchived : Manifest := { network with resources := [turnedArchive, vpcMain] }

theorem turned_same : SameManifest archived turnedArchived := by
  have strings : ∀ t : GoMap String, GoMap.Reordered Eq t t := GoMap.Reordered.refl fun _ => rfl
  have kept : SameResource vpcMain vpcMain :=
    ⟨⟨rfl, rfl, rfl, .refl _⟩, GoMap.Reordered.refl Json.Same.refl _, strings _, rfl⟩
  have turned : SameMap archive.properties turnedArchive.properties := by
    intro k
    have same : turnedArchive.properties.get? k = archive.properties.get? k := Json.lookup_reverse archive.properties.distinct k
    rw [same]
    exact GoMap.rel_self Json.Same.refl _
  exact {
    schemaVersion := rfl
    provider := rfl
    region := rfl
    costEstimate := rfl
    unknowns := rfl
    tags := strings _
    resources := ⟨[archive, vpcMain], .swap _ _ _, .cons ⟨⟨rfl, rfl, rfl, .refl _⟩, turned, strings _, rfl⟩ (.cons kept .nil)⟩ }

theorem bundle_ordered_archived : letI : GoUnicode := Approval.asciiTables
    letI : GoRuntime := Validator.doubling
    (Bundle (some archived)).1.files = (Bundle (some turnedArchived)).1.files ∧
      ∀ files, Bundle (some archived) = (⟨files, []⟩, none) ↔ Bundle (some turnedArchived) = (⟨files, []⟩, none) :=
  @bundle_ordered Approval.asciiTables Validator.doubling archived turnedArchived turned_same

end Example

end Provisr.Backend.Terraform
