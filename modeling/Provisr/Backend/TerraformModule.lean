import Provisr.Backend.TerraformReading

namespace Provisr.Backend.Terraform

open Provisr.Foundation Provisr.Foundation.TextTemplate Provisr.Foundation.Hcl
open Provisr.Orchestrator (TerraformFile)
open Json (quoteMark backslash openBrace closeBrace)

section Lists

theorem map_eq_of_forall₂ {α β γ : Type} {R : α → β → Prop} {f : α → γ} {g : β → γ} {xs : List α} {ys : List β}
    (each : List.Forall₂ R xs ys) (same : ∀ x y, R x y → g y = f x) : ys.map g = xs.map f := by
  induction each with
  | nil => rfl
  | cons head _ ih => rw [List.map_cons, List.map_cons, same _ _ head, ih]

theorem mem_of_forall₂ {α β : Type} {R : α → β → Prop} {xs : List α} {ys : List β} (each : List.Forall₂ R xs ys) {x : α}
    (mem : x ∈ xs) : ∃ y ∈ ys, R x y := by
  induction each with
  | nil => cases mem
  | cons head _ ih =>
    rcases List.mem_cons.mp mem with rfl | mem
    · exact ⟨_, by simp, head⟩
    · obtain ⟨y, own, related⟩ := ih mem
      exact ⟨y, List.mem_cons_of_mem _ own, related⟩

theorem filter_key {α : Type} {key : α → String} {xs : List α} (distinct : (xs.map key).Nodup) {x : α} (mem : x ∈ xs) :
    xs.filter (fun y => key y == key x) = [x] := by
  induction xs with
  | nil => cases mem
  | cons y ys ih =>
    rw [List.map_cons, List.nodup_cons] at distinct
    obtain ⟨new, distinct⟩ := distinct
    rcases List.mem_cons.mp mem with rfl | later
    · rw [List.filter_cons_of_pos (by simp), List.filter_eq_nil_iff.mpr]
      intro z own same
      exact new (List.mem_map.mpr ⟨z, own, by simpa using same⟩)
    · have other : key y ≠ key x := fun same => new (List.mem_map.mpr ⟨x, later, same.symm⟩)
      rw [List.filter_cons_of_neg (by simpa using other), ih distinct later]

theorem affix_injective {start ending s t : String} (same : start ++ s ++ ending = start ++ t ++ ending) : s = t := by
  have chars := congrArg String.toList same
  simp only [String.toList_append, List.append_assoc] at chars
  exact String.toList_inj.mp (List.append_cancel_right (List.append_cancel_left chars))

end Lists

section Resources

variable {m : Manifest} {resources : List Resource} {r : Resource} {file : TerraformFile}

def keyOf : Hole → Option String
  | .property key | .choice key _ _ => some key
  | .name | .tags | .dependencies => none

theorem assets_fields : ∀ e ∈ catalog, ∀ t ∈ assets.lookup e.2.path, ∀ ps ∈ t, ∀ h ∈ holes ps,
    (keyOf h).all e.2.fields.contains = true := by decide

theorem lookup_map_entries {α β : Type} (f : String → α → β) (entries : List (String × α)) (key : String) :
    (entries.map fun e => (e.1, f e.1 e.2)).lookup key = (entries.lookup key).map (f key) := by
  induction entries with
  | nil => rfl
  | cons e entries ih =>
    obtain ⟨k, v⟩ := e
    rw [List.map_cons, List.lookup_cons, List.lookup_cons, ih]
    by_cases same : key = k
    · subst same
      simp
    · simp [beq_false_of_ne same]

theorem terraformType_word : ∀ e ∈ catalog, IsWord e.2.terraformType := by decide

theorem mem_dependencies {w : String} (mem : w ∈ dependencies resources r) :
    ∃ dep ∈ resources, dep.logicalName ∈ r.dependsOn ∧
      w = (specOf dep.type).terraformType ++ "." ++ ("r_" ++ dep.logicalName) := by
  obtain ⟨name, listed, mem⟩ := List.mem_flatMap.mp (mem_sortStable.mp mem)
  obtain ⟨dep, own, rfl⟩ := List.mem_map.mp mem
  obtain ⟨here, same⟩ := List.mem_filter.mp own
  obtain rfl : dep.logicalName = name := by simpa using same
  refine ⟨dep, here, listed, ?_⟩
  rw [String.append_assoc, String.append_assoc, ← @String.append_assoc ".", show "." ++ "r_" = ".r_" by decide]

structure Plain (r : Resource) : Prop where
  name : IsWord r.logicalName
  known : (catalog.lookup r.type).isSome = true

theorem dependencies_words (plain : ∀ dep ∈ resources, Plain dep) :
    ∀ w ∈ dependencies resources r, IsWord w ∧ w ≠ "" := by
  intro w mem
  obtain ⟨dep, here, -, rfl⟩ := mem_dependencies mem
  have kind := terraformType_word _ (specOf_mem (plain dep here).known)
  refine ⟨(kind.append (by decide)).append (IsWord.append (by decide) (plain dep here).name), fun empty => ?_⟩
  simp at empty

theorem renderResource_ok (plain : ∀ dep ∈ resources, Plain dep) (own : Plain r)
    (done : renderResource m resources true r = .ok file) :
    file.path = "resource_" ++ r.logicalName ++ ".tf" ∧ ∃ ls, Written file.content ls ∧
      Reads ("r_" ++ r.logicalName) (Known (specOf r.type) ("r_" ++ r.logicalName) (dependencies resources r))
        (kindsOf (specOf r.type)) ls := by
  have mem := specOf_mem own.known
  obtain ⟨p, checked, rest⟩ := except_bind_ok.mp done
  obtain ⟨complete, -⟩ := properties_ok (fields_distinct _ mem) checked
  dsimp only at rest
  generalize hdata : Data.mk _ _ _ _ = data at rest
  have stored : ∀ {key v}, p.get? key = some v → data.P.lookup key = some (argument true r key v) := by
    intro key v here
    rw [← hdata, lookup_map_entries (argument true r), show p.entries.lookup key = some v from here, Option.map_some]
  have g : Given (specOf r.type) ("r_" ++ r.logicalName) (dependencies resources r) fun h => (fill data h).getD "" := by
    refine ⟨IsWord.append (by decide) own.name, by rw [← hdata]; rfl, fun key listed other => ?_, ⟨_, rfl⟩,
      by rw [← hdata]; rfl, dependencies_words plain, fun key listed yes no => ?_⟩
    · obtain ⟨v, here, bool⟩ := complete.valued key listed
      have plain : isBool v = false := by simpa [other] using bool
      have input : argument true r key v = .expression (inputAt ("r_" ++ r.logicalName) key) := by
        rw [argument, plain, inputAt, ← @String.append_assoc "var.", show "var." ++ "r_" = "var.r_" by decide]
        rfl
      rw [fill, stored here, input]
      rfl
    · obtain ⟨v, here, -⟩ := complete.valued key listed
      rw [fill, stored here, Option.map_some, Option.getD_some]
      split
      · exact .inl rfl
      · exact .inr rfl
  obtain ⟨template, found, reads⟩ := template_reads own.known g
  rw [found] at rest
  have filled : ∀ ps ∈ template, ∀ h ∈ holes ps, fill data h = some ((fill data h).getD "") := by
    intro ps line h hole
    have key := assets_fields _ mem template found ps line h hole
    cases h with
    | name | tags | dependencies => rfl
    | property key | choice key yes no =>
      simp only [keyOf, Option.all_some, List.contains_iff_mem] at key
      obtain ⟨v, here, -⟩ := complete.valued _ key
      rw [fill, stored here]
      rfl
  dsimp only at rest
  rw [execute_eq filled] at rest
  obtain rfl := Except.ok.inj rest
  exact ⟨rfl, _, ⟨String.toList_ofList, reads.unbroken⟩, reads⟩

end Resources

section Names

variable [GoUnicode] [GoRuntime] {m : Manifest} {parameterized : Bool} {rendered : List TerraformFile}

omit [GoUnicode] [GoRuntime] in
theorem nameChar_word {c : Char} (h : Validator.isNameChar c = true) : isWord c = true := by
  simp only [Validator.isNameChar, Bool.or_eq_true] at h
  have alpha : c.isLower = true → c.isAlpha = true := fun lower => Bool.or_eq_true_iff.mpr (.inr lower)
  simp only [isWord, Char.isAlphanum, Bool.or_eq_true]
  tauto

theorem Rendered.nameChars (h : Rendered m parameterized rendered) :
    ∀ r ∈ m.resources, ∀ c ∈ r.logicalName.toList, Validator.isNameChar c = true := by
  intro r mem c own
  have valid := valid_names h.valid r.toResource (List.mem_map_of_mem mem)
  rw [(h.supported r mem).name] at valid
  simp only [Validator.logicalNameRegex, Validator.isName, Bool.and_eq_true] at valid
  exact List.all_eq_true.mp valid.1.2 c own

theorem Rendered.word (h : Rendered m parameterized rendered) : ∀ r ∈ m.resources, IsWord r.logicalName :=
  fun r mem c own => nameChar_word (h.nameChars r mem c own)

theorem Rendered.distinct (h : Rendered m parameterized rendered) : (m.resources.map fun r => r.logicalName).Nodup := by
  have distinct := (Validator.errors_ok (List.isEmpty_iff.mp h.valid)).distinct
  have same : m.validated.resources.map (fun r => TrimSpace r.logicalName) = m.resources.map fun r => r.logicalName := by
    rw [Manifest.validated, List.map_map]
    exact List.map_congr_left fun r mem => (h.supported r mem).name
  rwa [same] at distinct

theorem Rendered.provider (h : Rendered m parameterized rendered) : ToLower (TrimSpace m.provider) = "aws" := by
  have none_ := List.isEmpty_iff.mp h.valid
  cases given : m.resources with
  | nil =>
    unfold Validator.errors at none_
    simp [Manifest.validated, given] at none_
  | cons r rs => exact (h.supported r (by simp [given])).provider

omit [GoUnicode] [GoRuntime] in
theorem byName_trimmed (rs : List Resource) : byName (trimmed rs) = trimmed (byName rs) := sortStable_map _ trim rs

omit [GoUnicode] [GoRuntime] in
theorem mem_byName {rs : List Resource} {r : Resource} : r ∈ byName rs ↔ r ∈ rs := mem_sortStable

theorem Rendered.plain (h : Rendered m parameterized rendered) : ∀ r ∈ byName (trimmed m.resources), Plain r := by
  intro r mem
  obtain ⟨r, own, rfl⟩ := List.mem_map.mp (mem_byName.mp mem)
  exact ⟨h.word r own, (h.supported r own).known⟩

theorem Rendered.sorted (h : Rendered m parameterized rendered) :
    ((byName m.resources).map fun r => r.logicalName).Nodup :=
  ((sortStable_perm _ m.resources).map _).nodup_iff.mpr h.distinct

def pathOf (r : Resource) : String := "resource_" ++ r.logicalName ++ ".tf"

omit [GoUnicode] [GoRuntime] in
theorem renderResource_path {resources : List Resource} {r : Resource} {file : TerraformFile}
    (done : renderResource m resources parameterized r = .ok file) : file.path = pathOf r := by
  obtain ⟨p, -, rest⟩ := except_bind_ok.mp done
  dsimp only at rest
  split at rest
  · cases rest
  · split at rest
    · cases rest
    · obtain rfl := Except.ok.inj rest
      rfl

theorem Rendered.content (h : Rendered m true rendered) {r : Resource} (mem : r ∈ m.resources) :
    ∃ ls, Written (contentOf (providersFile m :: rendered) r) ls ∧
      Reads ("r_" ++ r.logicalName) (Known (specOf (TrimSpace r.type)) ("r_" ++ r.logicalName)
        (dependencies (byName (trimmed m.resources)) (trim r))) (kindsOf (specOf (TrimSpace r.type))) ls := by
  have sorted : trim r ∈ byName (trimmed m.resources) := mem_byName.mpr (List.mem_map_of_mem mem)
  obtain ⟨file, own, done⟩ := mem_of_forall₂ h.each sorted
  obtain ⟨path, ls, written, reads⟩ := renderResource_ok h.plain (h.plain _ sorted) done
  have paths : rendered.map (fun file => file.path) = (byName (trimmed m.resources)).map pathOf :=
    map_eq_of_forall₂ h.each fun _ _ => renderResource_path
  have distinct : (rendered.map fun file => file.path).Nodup := by
    rw [paths, byName_trimmed, trimmed, List.map_map]
    have names := h.sorted
    rw [List.Nodup, List.pairwise_map] at names ⊢
    exact names.imp fun differ same => differ (affix_injective same)
  have first : (providersFile m).path ≠ "resource_" ++ r.logicalName ++ ".tf" := by
    intro same
    have chars := congrArg (fun s : String => s.toList.head?) same
    simp [providersFile] at chars
  have only : contentOf (providersFile m :: rendered) r = file.content ++ "\n" := by
    have filtered := filter_key distinct own
    rw [show file.path = "resource_" ++ r.logicalName ++ ".tf" from path] at filtered
    rw [contentOf, List.filter_cons_of_neg (by simpa using first), filtered]
    simp
  have blank : Written "\n" [[]] := .of rfl (by decide)
  have last : Reads ("r_" ++ r.logicalName) (Known (specOf (TrimSpace r.type)) ("r_" ++ r.logicalName)
      (dependencies (byName (trimmed m.resources)) (trim r))) [] [[]] := .line (by decide) rfl nofun .nil
  have all := reads.append last
  rw [List.append_nil] at all
  rw [only]
  exact ⟨_, written.append blank, all⟩

end Names

section Parts

variable [GoUnicode] [GoRuntime] {m : Manifest} {rendered : List TerraformFile} {r : Resource} {p : Part}

def inputName (r : Resource) : String := "r_" ++ r.logicalName

def specFor (r : Resource) : Spec := specOf (TrimSpace r.type)

def propsOf (r : Resource) : GoMap (Json Literal) :=
  match properties r (specFor r) with
  | .ok p => p
  | .error _ => .empty

def partOf (rendered : List TerraformFile) (r : Resource) : Part where
  declaration := "variable " ++ hcl (.str (inputName r)) ++ " \x7b\n  type = any\n\x7d\n"
  value := inputName r ++ " = " ++ hcl (.obj (propsOf r).entries) ++ "\n"
  argument := "  " ++ inputName r ++ " = var." ++ inputName r ++ "\n"
  domain := domainOf (specFor r)
  content := contentOf rendered r
  output := "    " ++ hcl (.str r.logicalName) ++ " = " ++ (specFor r).terraformType ++ ".r_" ++ r.logicalName ++ ".id\n"

omit [GoUnicode] [GoRuntime] in
theorem part_ok : part rendered r = .ok p ↔ (∃ props, properties r (specFor r) = .ok props) ∧ p = partOf rendered r := by
  constructor
  · intro done
    obtain ⟨props, checked, rest⟩ := except_bind_ok.mp done
    obtain rfl := Except.ok.inj rest
    refine ⟨⟨props, checked⟩, ?_⟩
    have known : propsOf r = props := by
      rw [propsOf, show properties r (specFor r) = .ok props from checked]
    rw [partOf, known]
    rfl
  · rintro ⟨⟨props, checked⟩, rfl⟩
    have known : propsOf r = props := by rw [propsOf, checked]
    refine except_bind_ok.mpr ⟨props, checked, ?_⟩
    rw [partOf, known]
    rfl

end Parts

end Provisr.Backend.Terraform
