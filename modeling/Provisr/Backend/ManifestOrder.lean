import Provisr.Backend.ManifestValidator
import Provisr.Foundation.Sublists

namespace Provisr.Backend.Validator

open Provisr.Foundation Provisr.Foundation.DepthFirst

section Admissible

variable [GoUnicode] {m : Manifest} {cloud : String} {r : Resource}

structure Clean (cloud : String) (r : Resource) : Prop where
  named : logicalNameRegex (TrimSpace r.logicalName) = true
  typed : typeErrors cloud 0 r = []
  sourced : sourceErrors 0 r = []

structure Admissible (m : Manifest) : Prop where
  head : schemaErrors m ++ providerErrors m ++ regionErrors m = []
  filled : m.resources ≠ []
  clean : ∀ r ∈ m.resources, Clean (provider m) r
  distinct : (m.resources.map fun r => TrimSpace r.logicalName).Nodup
  resolved : ∀ r ∈ m.resources, ∀ dep ∈ r.dependsOn,
    dep ≠ r.logicalName ∧ dep ∈ m.resources.map fun r => TrimSpace r.logicalName
  acyclic : Acyclic (DependsOn m.resources)
  priced : costErrors m = []

theorem register_none {i : Nat} {resourceMap : List String} : (register i r resourceMap).1 = [] ↔
    logicalNameRegex (TrimSpace r.logicalName) = true ∧ TrimSpace r.logicalName ∉ resourceMap := by
  unfold register
  dsimp only
  split
  · rename_i empty
    rw [empty]
    exact ⟨fun broken => absurd broken (List.cons_ne_nil _ _), fun named => absurd named.1 (by decide)⟩
  · split
    · rename_i malformed
      rw [Bool.not_eq_true'] at malformed
      simp [malformed]
    · rename_i named
      rw [Bool.not_eq_true', Bool.not_eq_false] at named
      split
      · rename_i used
        simp [used]
      · rename_i new
        simp [named, new]

theorem typeErrors_none {i : Nat} : typeErrors cloud i r = [] ↔ typeErrors cloud 0 r = [] := by
  unfold typeErrors
  dsimp only
  split
  · simp
  · split
    · simp only [List.append_eq_nil_iff, ite_eq_left_iff, ite_eq_right_iff, List.cons_ne_nil, imp_false]
    · simp

theorem sourceErrors_none {i : Nat} : sourceErrors i r = [] ↔ sourceErrors 0 r = [] := by
  unfold sourceErrors
  split
  · rfl
  · simp only [List.append_eq_nil_iff, ite_eq_left_iff, ite_eq_right_iff, List.cons_ne_nil, imp_false]

theorem resourceErrors_none {i : Nat} {rs : List Resource} {resourceMap : List String} (distinct : resourceMap.Nodup) :
    (resourceErrors cloud i rs resourceMap).1 = [] ↔
      (∀ r ∈ rs, Clean cloud r) ∧ (resourceMap ++ rs.map fun r => TrimSpace r.logicalName).Nodup := by
  induction rs generalizing i resourceMap with
  | nil => simpa [resourceErrors] using distinct
  | cons r rs ih =>
    have grown : TrimSpace r.logicalName ∉ resourceMap → (resourceMap ++ [TrimSpace r.logicalName]).Nodup := by
      intro new
      rw [List.nodup_append]
      refine ⟨distinct, List.nodup_singleton _, fun x mem y single same => ?_⟩
      rw [List.mem_singleton.mp single] at same
      exact new (same ▸ mem)
    simp only [resourceErrors, List.append_eq_nil_iff, List.forall_mem_cons, List.map_cons]
    rw [typeErrors_none, sourceErrors_none]
    constructor
    · rintro ⟨⟨⟨named, typed⟩, sourced⟩, rest⟩
      obtain ⟨regex, new⟩ := register_none.mp named
      rw [(register_ok named).1] at rest
      obtain ⟨clean, nodup⟩ := (ih (grown new)).mp rest
      rw [List.append_assoc] at nodup
      exact ⟨⟨⟨regex, typed, sourced⟩, clean⟩, nodup⟩
    · rintro ⟨⟨⟨regex, typed, sourced⟩, clean⟩, nodup⟩
      have new : TrimSpace r.logicalName ∉ resourceMap := fun mem =>
        (List.nodup_append.mp nodup).2.2 _ mem _ List.mem_cons_self rfl
      have named := (@register_none _ r i resourceMap).mpr ⟨regex, new⟩
      refine ⟨⟨⟨named, typed⟩, sourced⟩, ?_⟩
      rw [(register_ok named).1]
      refine (ih (grown new)).mpr ⟨clean, ?_⟩
      rwa [List.append_assoc]

theorem dependencyErrors_none {resourceMap : List String} {rs : List Resource} :
    (rs.zipIdx.flatMap fun (r, i) => dependencyErrors resourceMap i r) = [] ↔
      ∀ r ∈ rs, ∀ dep ∈ r.dependsOn, dep ≠ r.logicalName ∧ dep ∈ resourceMap := by
  have one : ∀ i r, dependencyErrors resourceMap i r = [] ↔
      ∀ dep ∈ r.dependsOn, dep ≠ r.logicalName ∧ dep ∈ resourceMap := by
    intro i r
    unfold dependencyErrors
    rw [List.flatMap_eq_nil_iff]
    refine forall₂_congr fun dep _ => ?_
    dsimp only
    split
    · rename_i self
      simp [self]
    · rename_i other
      split
      · rename_i known
        simp [other, known]
      · rename_i unknown
        simp [unknown]
  rw [List.flatMap_eq_nil_iff]
  constructor
  · intro all r mem
    obtain ⟨i, here⟩ := List.mem_iff_getElem?.mp mem
    exact (one i r).mp (all (r, i) (List.mem_zipIdx_iff_getElem?.mpr here))
  · rintro all ⟨r, i⟩ mem
    exact (one i r).mpr (all r (List.mem_of_getElem? (List.mem_zipIdx_iff_getElem?.mp mem)))

omit [GoUnicode] in
theorem cycleErrors_none [GoRuntime] {rs : List Resource} : cycleErrors rs = [] ↔ Acyclic (DependsOn rs) := by
  obtain ⟨-, acyclic, walks⟩ := cycle_detection rs
  rw [← acyclic]
  unfold cycleErrors
  cases found : detectCycles rs with
  | none => simp
  | some cycle =>
    have long : 0 < cycle.length := Nat.lt_of_lt_of_le Nat.two_pos (walks cycle found).two
    simp [long]

theorem valid_iff [GoRuntime] : (Validate (some m)).valid = true ↔ Admissible m := by
  have whole : (Validate (some m)).valid = true ↔ errors m = [] := List.isEmpty_iff
  rw [whole, errors]
  dsimp only
  split
  · rename_i empty
    refine ⟨fun none_ => ?_, fun ok => absurd (List.length_eq_zero_iff.mp empty) ok.filled⟩
    simp at none_
  · rename_i filled
    have own := @resourceErrors_none _ (provider m) 0 m.resources [] List.nodup_nil
    rw [List.nil_append] at own
    simp only [List.append_eq_nil_iff]
    constructor
    · rintro ⟨⟨⟨⟨head, errorless⟩, dependencies⟩, cycles⟩, priced⟩
      rw [(resourceErrors_ok errorless List.nodup_nil).1, List.nil_append] at dependencies
      exact {
        head := by simpa only [List.append_eq_nil_iff] using head
        filled := fun none_ => filled (List.length_eq_zero_iff.mpr none_)
        clean := (own.mp errorless).1
        distinct := (own.mp errorless).2
        resolved := dependencyErrors_none.mp dependencies
        acyclic := cycleErrors_none.mp cycles
        priced := priced }
    · intro ok
      have errorless := own.mpr ⟨ok.clean, ok.distinct⟩
      refine ⟨⟨⟨⟨?_, errorless⟩, ?_⟩, cycleErrors_none.mpr ok.acyclic⟩, ok.priced⟩
      · simpa only [List.append_eq_nil_iff] using ok.head
      · rw [(resourceErrors_ok errorless List.nodup_nil).1, List.nil_append]
        exact dependencyErrors_none.mpr ok.resolved

end Admissible

section Order

structure Alike (r r' : Resource) : Prop where
  name : r'.logicalName = r.logicalName
  type : r'.type = r.type
  source : r'.source = r.source
  dependsOn : r.dependsOn.Perm r'.dependsOn

theorem dependsOn_iff {rs : List Resource} (distinct : (rs.map Resource.logicalName).Nodup) {x y : String} :
    DependsOn rs x y ↔ ∃ r ∈ rs, r.logicalName = x ∧ y ∈ r.dependsOn := by
  rw [dependsOn_eq]
  constructor
  · intro edge
    obtain ⟨r, mem, named, listed⟩ := adjacency_source edge
    exact ⟨r, mem, named, listed⟩
  · rintro ⟨r, mem, rfl, listed⟩
    change y ∈ adjacency rs r.logicalName
    rwa [adjacency_of_nodup distinct mem]

structure Rearranged (m m' : Manifest) : Prop where
  schemaVersion : m'.schemaVersion = m.schemaVersion
  provider : m'.provider = m.provider
  region : m'.region = m.region
  costEstimate : m'.costEstimate = m.costEstimate
  resources : ∃ rs, m.resources.Perm rs ∧ List.Forall₂ Alike rs m'.resources

variable [GoUnicode] {m m' : Manifest}

theorem Alike.clean {cloud : String} {r r' : Resource} (same : Alike r r') (clean : Clean cloud r) : Clean cloud r' := by
  obtain ⟨named, typed, sourced⟩ := clean
  refine ⟨by rwa [same.name], ?_, ?_⟩
  · unfold typeErrors at typed ⊢
    rwa [same.type]
  · unfold sourceErrors at sourced ⊢
    rwa [same.source]

theorem admissible_of_rearranged (same : Rearranged m m') (ok : Admissible m) : Admissible m' := by
  obtain ⟨rs, perm, each⟩ := same.resources
  have cloud : provider m' = provider m := by rw [provider, provider, same.provider]
  have back : ∀ r' ∈ m'.resources, ∃ r ∈ m.resources, Alike r r' := by
    intro r' mem
    obtain ⟨r, own, alike⟩ := exists_of_forall₂_right each mem
    exact ⟨r, perm.mem_iff.mpr own, alike⟩
  have names : (m.resources.map fun r => TrimSpace r.logicalName).Perm
      (m'.resources.map fun r => TrimSpace r.logicalName) := by
    have pointwise : rs.map (fun r => TrimSpace r.logicalName) = m'.resources.map fun r => TrimSpace r.logicalName := by
      revert each
      generalize m'.resources = rs'
      intro each
      clear perm
      induction each with
      | nil => rfl
      | cons alike _ ih => rw [List.map_cons, List.map_cons, ih, alike.name]
    rw [← pointwise]
    exact perm.map _
  have apart : (m.resources.map Resource.logicalName).Nodup := by
    have distinct := ok.distinct
    rw [← Function.comp_def, ← List.map_map] at distinct
    exact List.Nodup.of_map _ distinct
  exact {
    head := by
      have schema : schemaErrors m' = schemaErrors m := by rw [schemaErrors, schemaErrors, same.schemaVersion]
      have clouds : providerErrors m' = providerErrors m := by
        rw [providerErrors, providerErrors, cloud, same.provider]
      have regions : regionErrors m' = regionErrors m := by rw [regionErrors, regionErrors, same.region]
      rw [schema, clouds, regions]
      exact ok.head
    filled := by
      intro none_
      rw [none_] at each
      cases each
      exact ok.filled perm.eq_nil
    clean := by
      intro r' mem
      obtain ⟨r, own, alike⟩ := back r' mem
      rw [cloud]
      exact alike.clean (ok.clean r own)
    distinct := names.nodup_iff.mp ok.distinct
    resolved := by
      intro r' mem dep listed
      obtain ⟨r, own, alike⟩ := back r' mem
      obtain ⟨other, known⟩ := ok.resolved r own dep (alike.dependsOn.mem_iff.mpr listed)
      exact ⟨alike.name ▸ other, names.mem_iff.mp known⟩
    acyclic := by
      intro x cycle
      refine ok.acyclic x (Relation.TransGen.mono (fun a b edge => ?_) x x cycle)
      rw [dependsOn_eq] at edge
      obtain ⟨r', mem, named, listed⟩ := adjacency_source edge
      obtain ⟨r, own, alike⟩ := back r' mem
      exact (dependsOn_iff apart).mpr ⟨r, own, alike.name ▸ named, alike.dependsOn.mem_iff.mpr listed⟩
    priced := by
      rw [costErrors, same.costEstimate]
      exact ok.priced }

end Order

end Provisr.Backend.Validator
