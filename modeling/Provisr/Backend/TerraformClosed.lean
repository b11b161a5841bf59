import Provisr.Backend.TerraformModule

namespace Provisr.Backend.Terraform

open Provisr.Foundation Provisr.Foundation.TextTemplate Provisr.Foundation.Hcl
open Provisr.Orchestrator (TerraformFile)
open Json (quoteMark backslash openBrace closeBrace)

section Parts

variable {r : Resource} {rendered : List TerraformFile} {left right : String} {ts us : List Token}

theorem lexFrom_blanks (n : Nat) (rest : List Char) :
    lexFrom .between (List.replicate n ' ' ++ rest) = lexFrom .between rest := by
  induction n with
  | zero => rfl
  | succ n ih => exact ih

theorem lex_assignment (n : Nat) (h : Lexes left.toList ts) (h' : Lexes right.toList us) :
    lex (List.replicate n ' ' ++ (left.toList ++ (" = ".toList ++ right.toList))) = ts ++ .mark '=' :: us := by
  have sign : ∀ rest, lexFrom .between (" = ".toList ++ rest) = .mark '=' :: lexFrom .between rest := by
    intro rest
    rw [String.toList_ofList]
    rfl
  have apart : ∀ rest, Apart (" = ".toList ++ rest) := by
    intro rest
    rw [String.toList_ofList]
    exact .cons rfl
  rw [lex, lexFrom_blanks, h _ (apart _), sign]
  exact congrArg (ts ++ .mark '=' :: ·) h'.lex

theorem assignment_unbroken (n : Nat) (h : Unbroken left.toList) (h' : Unbroken right.toList) :
    Unbroken (List.replicate n ' ' ++ (left.toList ++ (" = ".toList ++ right.toList))) := by
  have blanks : Unbroken (List.replicate n ' ') := fun broken => absurd (List.eq_of_mem_replicate broken) (by decide)
  unfold Unbroken at *
  simp only [List.mem_append, not_or]
  exact ⟨blanks, h, by decide, h'⟩

theorem means_assignment (n : Nat) (h : Lexes left.toList ts) (h' : Lexes right.toList us) (line : Unbroken left.toList)
    (line' : Unbroken right.toList) {s : String}
    (same : s.toList = List.replicate n ' ' ++ (left.toList ++ (" = ".toList ++ right.toList))) :
    Means (s ++ "\n") [ts ++ .mark '=' :: us] := by
  refine .newline ?_ ?_
  · rw [same]
    exact assignment_unbroken n line line'
  · rw [same]
    exact lex_assignment n h h'

def declared (name : String) : List (List Token) :=
  [[.word "variable", .text name, .mark openBrace], [.word "type", .mark '=', .word "any"], [.mark closeBrace]]

theorem inputName_word (word : IsWord r.logicalName) : IsWord (inputName r) := IsWord.append (by decide) word

theorem inputName_ne (r : Resource) : inputName r ≠ "" := fun empty => by simp [inputName] at empty

theorem lexes_var {name : String} (word : IsWord name) : Lexes ("var." ++ name).toList [.word ("var." ++ name)] :=
  lexes_word (IsWord.append (by decide) word) fun empty => by simp at empty

theorem var_unbroken {name : String} (word : IsWord name) : Unbroken ("var." ++ name).toList :=
  word_unbroken (IsWord.append (by decide) word)

theorem declaration_means (word : IsWord r.logicalName) :
    Means (partOf rendered r).declaration (declared (inputName r)) := by
  have first : Means ("variable " ++ hcl (.str (inputName r)) ++ " \x7b" ++ "\n")
      [[.word "variable", .text (inputName r), .mark openBrace]] := by
    have front : ∀ rest, lexFrom .between ("variable ".toList ++ rest) = .word "variable" :: lexFrom .between rest := by
      intro rest
      rw [String.toList_ofList]
      rfl
    have back : Apart " \x7b".toList ∧ lexFrom .between " \x7b".toList = [.mark openBrace] := by
      rw [String.toList_ofList]
      exact ⟨.cons rfl, rfl⟩
    refine .newline ?_ ?_
    · have middle := hcl_unbroken (.str (inputName r))
      unfold Unbroken at *
      simp only [String.toList_append, List.mem_append, not_or]
      exact ⟨⟨by decide, middle⟩, by decide⟩
    · rw [String.toList_append, String.toList_append, List.append_assoc, lex, front,
        lexes_hcl_word (inputName_word word) _ back.1, back.2]
      rfl
  have rest : Means "  type = any\n\x7d\n" [[.word "type", .mark '=', .word "any"], [.mark closeBrace]] :=
    .of rfl (by decide)
  have whole := first.append rest
  rwa [String.append_assoc, String.append_assoc, show " \x7b" ++ ("\n" ++ "  type = any\n\x7d\n") = " \x7b\n  type = any\n\x7d\n"
    by decide] at whole

theorem argument_means (word : IsWord r.logicalName) :
    Means (partOf rendered r).argument [[.word (inputName r), .mark '=', .word ("var." ++ inputName r)]] := by
  have word := inputName_word word
  change Means ("  " ++ inputName r ++ " = var." ++ inputName r ++ "\n") _
  refine means_assignment 2 (lexes_word word (inputName_ne r)) (lexes_var word) (word_unbroken word) (var_unbroken word) ?_
  rw [show " = var." = " = " ++ "var." by decide]
  simp [String.toList_append]

def idOf (r : Resource) : String := (specFor r).terraformType ++ "." ++ inputName r ++ ".id"

theorem idOf_word (word : IsWord r.logicalName) (known : (catalog.lookup (TrimSpace r.type)).isSome = true) :
    IsWord (idOf r) := by
  have kind : IsWord (specFor r).terraformType := terraformType_word (TrimSpace r.type, specFor r) (specOf_mem known)
  exact IsWord.append (IsWord.append (IsWord.append kind (by decide)) (inputName_word word)) (by decide)

theorem output_means (word : IsWord r.logicalName) (known : (catalog.lookup (TrimSpace r.type)).isSome = true) :
    Means (partOf rendered r).output [[.text r.logicalName, .mark '=', .word (idOf r)]] := by
  have kind := idOf_word word known
  change Means ("    " ++ hcl (.str r.logicalName) ++ " = " ++ (specFor r).terraformType ++ ".r_" ++ r.logicalName ++
    ".id\n") _
  rw [show ".id\n" = ".id" ++ "\n" by decide, ← String.append_assoc]
  have filled : idOf r ≠ "" := fun empty => by simp [idOf] at empty
  refine means_assignment 4 (lexes_hcl_word word) (lexes_word kind filled) (hcl_unbroken _) (word_unbroken kind) ?_
  simp [String.toList_append, idOf, inputName]

theorem value_written (word : IsWord r.logicalName) :
    Written (partOf rendered r).value [(inputName r ++ " = " ++ hcl (.obj (propsOf r).entries)).toList] := by
  change Written (inputName r ++ " = " ++ hcl (.obj (propsOf r).entries) ++ "\n") _
  refine .newline ?_
  have one := word_unbroken (inputName_word word)
  have two := hcl_unbroken (.obj (propsOf r).entries)
  unfold Unbroken at *
  simp only [String.toList_append, List.mem_append, not_or]
  exact ⟨⟨one, by decide⟩, two⟩

end Parts

section Reading

def contents (files : List TerraformFile) (path : String) : String :=
  ((files.find? fun file => file.path == path).map fun file => file.content).getD ""

def inputs (content : String) : List String := (lexed content).filterMap variableOf

-- The lines of a block, to the next brace that closes one.
def inside (head : List String) (ls : List (List Token)) : List (List Token) :=
  ((ls.dropWhile fun ts => header ts != some head).drop 1).takeWhile fun ts => ts != [.mark closeBrace]

def passing : List Token → Option (String × String)
  | [.word name, .mark '=', .word value] => some (name, value)
  | _ => none

def passed (content : String) : List (String × String) := (inside ["module", "resources"] (lexed content)).filterMap passing

def assignment (line : List Char) : Option (String × String) :=
  match line.dropWhile isWord with
  | ' ' :: '=' :: ' ' :: value => some (String.ofList (line.takeWhile isWord), String.ofList value)
  | _ => none

def assigned (content : String) : List (String × String) := (lines content.toList).filterMap assignment

def outputOf : List Token → Option String
  | [.text key, .mark '=', .word _] => some key
  | _ => none

def outputs (content : String) : List String := (lexed content).filterMap outputOf

def referencesIn (content : String) : List Reference := (lexed content).flatMap references

def moduleFiles (files : List TerraformFile) : List TerraformFile :=
  files.filter fun file => HasPrefix file.path "resources/"

def emitted (files : List TerraformFile) : List (String × String) :=
  (moduleFiles files).flatMap fun file => (lexed file.content).filterMap blockOf

-- A reference takes a key that terraform.tfvars gives to an input of the module, or a block of the module.
def Resolved (files : List TerraformFile) (ref : Reference) : Prop :=
  (∃ name key fields, ref = ⟨"var." ++ name, some key⟩ ∧
    (name, hcl (.obj fields)) ∈ assigned (contents files "terraform.tfvars") ∧ key ∈ fields.map Prod.fst) ∨
  ∃ kind name, (kind, name) ∈ emitted files ∧
    (ref = ⟨kind ++ "." ++ name, none⟩ ∨ ref = ⟨kind ++ "." ++ name ++ ".id", none⟩)

structure Closed (names : List String) (files : List TerraformFile) : Prop where
  paths : (files.map fun file => file.path).Nodup
  distinct : names.Nodup
  declared : inputs (contents files "variables.tf") = "region" :: names.map ("r_" ++ ·)
  inner : inputs (contents files "resources/variables.tf") = names.map ("r_" ++ ·)
  handed : passed (contents files "main.tf") = names.map fun name => ("r_" ++ name, "var." ++ ("r_" ++ name))
  valued : (assigned (contents files "terraform.tfvars")).map Prod.fst = "region" :: names.map ("r_" ++ ·)
  shown : outputs (contents files "resources/outputs.tf") = names
  single : (emitted files).Nodup
  root : ∀ ref ∈ referencesIn (contents files "main.tf"),
    ∃ name ∈ "region" :: names.map ("r_" ++ ·), ref = ⟨"var." ++ name, none⟩
  resolved : ∀ file ∈ moduleFiles files, ∀ ref ∈ referencesIn file.content, Resolved files ref

theorem contents_of_mem {files : List TerraformFile} (paths : (files.map fun file => file.path).Nodup)
    {path content : String} (mem : ⟨path, content⟩ ∈ files) : contents files path = content := by
  have only := filter_key paths mem
  rw [contents, ← List.head?_filter, only]
  rfl

theorem inside_eq {head : List String} {before body after : List (List Token)} {first : List Token}
    (others : ∀ ts ∈ before, header ts ≠ some head) (opens : header first = some head)
    (closed : ∀ ts ∈ body, ts ≠ [.mark closeBrace]) :
    inside head (before ++ first :: (body ++ [.mark closeBrace] :: after)) = body := by
  have drop : (before ++ first :: (body ++ [.mark closeBrace] :: after)).dropWhile (fun ts => header ts != some head) =
      first :: (body ++ [.mark closeBrace] :: after) := by
    rw [List.dropWhile_append_of_pos fun ts mem => by simpa using others ts mem, List.dropWhile_cons_of_neg (by simp [opens])]
  rw [inside, drop, List.drop_one, List.tail_cons, List.takeWhile_append_of_pos fun ts mem => by simpa using closed ts mem]
  simp

theorem assignment_eq {name value : String} (word : IsWord name) :
    assignment (name ++ " = " ++ value).toList = some (name, value) := by
  have split : (name ++ " = " ++ value).toList = name.toList ++ ' ' :: '=' :: ' ' :: value.toList := by
    rw [String.toList_append, String.toList_append, List.append_assoc, show " = ".toList = [' ', '=', ' '] by decide]
    rfl
  rw [assignment, split, List.dropWhile_append_of_pos word, List.takeWhile_append_of_pos word,
    List.dropWhile_cons_of_neg (by decide), List.takeWhile_cons_of_neg (by decide)]
  change some (String.ofList (name.toList ++ []), String.ofList value.toList) = _
  rw [List.append_nil, String.ofList_toList, String.ofList_toList]

def partsOf (m : Manifest) (rendered : List TerraformFile) : List Part :=
  (byName m.resources).map (partOf (providersFile m :: rendered))

def namesOf (m : Manifest) : List String := (byName m.resources).map fun r => r.logicalName

theorem inputNames (m : Manifest) : (byName m.resources).map inputName = (namesOf m).map ("r_" ++ ·) := by
  rw [namesOf, List.map_map]
  rfl

theorem join_parts {m : Manifest} {rendered : List TerraformFile} (f : Part → String) :
    String.join ((partsOf m rendered).map f) =
      String.join ((byName m.resources).map fun r => f (partOf (providersFile m :: rendered) r)) := by
  rw [partsOf, List.map_map]
  rfl

theorem filterMap_lexed {α : Type} {s : String} {tss : List (List Token)} (means : Means s tss) (f : List Token → Option α)
    (blank : f [] = none) : (lexed s).filterMap f = tss.filterMap f := by
  rw [means.lexed, List.filterMap_append, List.filterMap_cons_none blank, List.filterMap_nil, List.append_nil]

theorem mem_referencesIn {s : String} {tss : List (List Token)} (means : Means s tss) {ref : Reference}
    (mem : ref ∈ referencesIn s) : ∃ ts ∈ tss, ref ∈ references ts := by
  rw [referencesIn, means.lexed, List.flatMap_append, List.mem_append, List.mem_flatMap] at mem
  rcases mem with found | blank
  · exact found
  · cases blank

theorem variables_declared (rs : List Resource) :
    (rs.flatMap fun r => declared (inputName r)).filterMap variableOf = rs.map inputName := by
  induction rs with
  | nil => rfl
  | cons r rs ih => rw [List.flatMap_cons, List.filterMap_append, ih]; rfl

end Reading

section Files

variable [GoUnicode] [GoRuntime] {m : Manifest} {files rendered : List TerraformFile} {lines : Resource → List (List Token)}

def blocksFor (r : Resource) : List (String × String) := (kindsOf (specFor r)).map fun kind => (kind, inputName r)

structure Made (m : Manifest) (rendered : List TerraformFile) (lines : Resource → List (List Token)) : Prop where
  renders : Rendered m true rendered
  props : ∀ r ∈ m.resources, properties r (specFor r) = .ok (propsOf r)
  means : ∀ r ∈ m.resources, Means (contentOf (providersFile m :: rendered) r) (lines r)
  blocks : ∀ r ∈ m.resources, (lines r).filterMap blockOf = blocksFor r
  known : ∀ r ∈ m.resources, ∀ ts ∈ lines r, ∀ ref ∈ references ts,
    Known (specFor r) (inputName r) (dependencies (byName (trimmed m.resources)) (trim r)) ref

theorem Bundled.resources (b : Bundled m files) :
    ∃ rendered lines, Made m rendered lines ∧ files = byPath (bundleFiles m awsProvider (partsOf m rendered)) := by
  obtain ⟨rendered, provider, parts, h, configured, each, rfl⟩ := b.made
  have same : parts = partsOf m rendered := by
    have mapped := map_eq_of_forall₂ (g := id) each fun r p done => (part_ok.mp done).2
    rwa [List.map_id] at mapped
  have props : ∀ r ∈ m.resources, properties r (specFor r) = .ok (propsOf r) := by
    intro r mem
    obtain ⟨p, -, done⟩ := mem_of_forall₂ each (mem_byName.mpr mem)
    obtain ⟨⟨props, checked⟩, -⟩ := part_ok.mp done
    rw [propsOf, checked]
  have provided : provider = awsProvider := by
    unfold ProviderConfig at configured
    rw [h.provider] at configured
    exact (Except.ok.inj configured).symm
  have content : ∀ r, ∃ tss, r ∈ m.resources → Means (contentOf (providersFile m :: rendered) r) tss ∧
      tss.filterMap blockOf = blocksFor r ∧ ∀ ts ∈ tss, ∀ ref ∈ references ts,
        Known (specFor r) (inputName r) (dependencies (byName (trimmed m.resources)) (trim r)) ref := by
    intro r
    by_cases mem : r ∈ m.resources
    · obtain ⟨ls, written, reads⟩ := h.content mem
      refine ⟨ls.map lex, fun _ => ⟨⟨ls, written, rfl⟩, ?_, ?_⟩⟩
      · rw [List.filterMap_map]
        exact reads.blocks
      · intro ts own
        obtain ⟨l, here, rfl⟩ := List.mem_map.mp own
        exact reads.known l here
    · exact ⟨[], fun own => absurd own mem⟩
  choose lines content using content
  refine ⟨rendered, lines, ⟨h, props, fun r mem => (content r mem).1, fun r mem => (content r mem).2.1,
    fun r mem => (content r mem).2.2⟩, ?_⟩
  rw [provided, same]

theorem Made.word (made : Made m rendered lines) : ∀ r ∈ byName m.resources, IsWord r.logicalName := fun r mem =>
  made.renders.word r (mem_byName.mp mem)

theorem Made.unselecting (made : Made m rendered lines) : ∀ r ∈ byName m.resources, selects (inputName r) = false := by
  intro r mem
  have undotted : '.' ∉ (inputName r).toList := by
    rw [inputName, String.toList_append, List.mem_append, not_or]
    refine ⟨by decide, fun own => ?_⟩
    have dot := made.renders.nameChars r (mem_byName.mp mem) _ own
    cases dot
  rw [selects, Bool.and_eq_false_iff]
  exact .inr (by simpa using undotted)

theorem Made.known_kind (made : Made m rendered lines) :
    ∀ r ∈ byName m.resources, (catalog.lookup (TrimSpace r.type)).isSome = true := fun r mem =>
  (made.renders.supported r (mem_byName.mp mem)).known

theorem Made.declarations (made : Made m rendered lines) :
    Means (String.join ((partsOf m rendered).map Part.declaration))
      ((byName m.resources).flatMap fun r => declared (inputName r)) := by
  rw [join_parts]
  exact .join fun r mem => declaration_means (made.word r mem)

theorem Made.arguments (made : Made m rendered lines) :
    Means (String.join ((partsOf m rendered).map Part.argument))
      ((byName m.resources).flatMap fun r => [[.word (inputName r), .mark '=', .word ("var." ++ inputName r)]]) := by
  rw [join_parts]
  exact .join fun r mem => argument_means (made.word r mem)

theorem Made.ids (made : Made m rendered lines) :
    Means (String.join ((partsOf m rendered).map Part.output))
      ((byName m.resources).flatMap fun r => [[.text r.logicalName, .mark '=', .word (idOf r)]]) := by
  rw [join_parts]
  exact .join fun r mem => output_means (made.word r mem) (made.known_kind r mem)

theorem Made.values (made : Made m rendered lines) :
    Written (String.join ((partsOf m rendered).map Part.value))
      ((byName m.resources).flatMap fun r => [(inputName r ++ " = " ++ hcl (.obj (propsOf r).entries)).toList]) := by
  rw [join_parts]
  exact .join fun r mem => value_written (made.word r mem)

theorem Made.domain (made : Made m rendered lines) (domain : String) :
    Means (domainFile (partsOf m rendered) domain).content
      (((byName m.resources).filter fun r => domainOf (specFor r) == domain).flatMap lines) := by
  have parts : ((partsOf m rendered).filter fun p => p.domain == domain).map Part.content =
      ((byName m.resources).filter fun r => domainOf (specFor r) == domain).map
        (contentOf (providersFile m :: rendered)) := by
    rw [partsOf, List.filter_map, List.map_map]
    rfl
  rw [domainFile, parts]
  exact .join fun r mem => made.means r (mem_byName.mp (List.mem_of_mem_filter mem))

theorem Made.inner (made : Made m rendered lines) :
    inputs (String.join ((partsOf m rendered).map Part.declaration)) = (namesOf m).map ("r_" ++ ·) := by
  rw [inputs, filterMap_lexed made.declarations variableOf rfl, variables_declared, inputNames]

def inputsText (m : Manifest) (rendered : List TerraformFile) : String :=
  "variable \"region\" \x7b\n  type = string\n\x7d\n" ++ String.join ((partsOf m rendered).map Part.declaration)

theorem Made.declared (made : Made m rendered lines) :
    inputs (inputsText m rendered) = "region" :: (namesOf m).map ("r_" ++ ·) := by
  have region : Means "variable \"region\" \x7b\n  type = string\n\x7d\n" [[.word "variable", .text "region", .mark openBrace],
      [.word "type", .mark '=', .word "string"], [.mark closeBrace]] := .of rfl (by decide)
  unfold inputsText
  rw [inputs, filterMap_lexed (region.append made.declarations) variableOf rfl, List.filterMap_append, variables_declared,
    inputNames]
  rfl

def valuesText (m : Manifest) (rendered : List TerraformFile) : String :=
  "region = " ++ hcl (.str (TrimSpace m.region)) ++ "\n" ++ String.join ((partsOf m rendered).map Part.value)

theorem Made.valued (made : Made m rendered lines) : assigned (valuesText m rendered) =
    ("region", hcl (.str (TrimSpace m.region))) ::
      (byName m.resources).map fun r => (inputName r, hcl (.obj (propsOf r).entries)) := by
  have region : Written ("region = " ++ hcl (.str (TrimSpace m.region)) ++ "\n")
      [("region" ++ " = " ++ hcl (.str (TrimSpace m.region))).toList] := by
    have value := hcl_unbroken (.str (TrimSpace m.region))
    rw [show "region" ++ " = " = "region = " by decide]
    refine .newline ?_
    unfold Unbroken at *
    rw [String.toList_append, List.mem_append, not_or]
    exact ⟨by decide, value⟩
  have whole := region.append made.values
  have each : ∀ rs : List Resource, (∀ r ∈ rs, IsWord r.logicalName) →
      (rs.flatMap fun r => [(inputName r ++ " = " ++ hcl (.obj (propsOf r).entries)).toList]).filterMap assignment =
        rs.map fun r => (inputName r, hcl (.obj (propsOf r).entries)) := by
    intro rs word
    induction rs with
    | nil => rfl
    | cons r rs ih =>
      rw [List.flatMap_cons, List.filterMap_append, ih fun s mem => word s (by simp [mem]),
        List.filterMap_cons_some (assignment_eq (inputName_word (word r (by simp))))]
      rfl
  rw [assigned, valuesText, whole.lines, lines_unlines whole.unbroken, List.filterMap_append, List.filterMap_append,
    each _ made.word, List.filterMap_cons_some (assignment_eq (by decide)), List.filterMap_cons_none rfl]
  exact List.append_nil _

def showing (m : Manifest) : List (List Token) :=
  [[.word "output", .text "resource_ids", .mark openBrace], [.word "value", .mark '=', .mark openBrace]] ++
    (byName m.resources).flatMap (fun r => [[.text r.logicalName, .mark '=', .word (idOf r)]]) ++
    [[.mark closeBrace], [.mark closeBrace]]

def outputsText (m : Manifest) (rendered : List TerraformFile) : String :=
  "output \"resource_ids\" \x7b\n  value = \x7b\n" ++ String.join ((partsOf m rendered).map Part.output) ++ "  \x7d\n\x7d\n"

theorem Made.showing (made : Made m rendered lines) : Means (outputsText m rendered) (showing m) := by
  have first : Means "output \"resource_ids\" \x7b\n  value = \x7b\n" [[.word "output", .text "resource_ids", .mark openBrace],
      [.word "value", .mark '=', .mark openBrace]] := .of rfl (by decide)
  have last : Means "  \x7d\n\x7d\n" [[.mark closeBrace], [.mark closeBrace]] := .of rfl (by decide)
  exact (first.append made.ids).append last

theorem Made.shown (made : Made m rendered lines) : outputs (outputsText m rendered) = namesOf m := by
  have each : ∀ rs : List Resource,
      (rs.flatMap fun r => [[Token.text r.logicalName, .mark '=', .word (idOf r)]]).filterMap outputOf =
        rs.map fun r => r.logicalName := by
    intro rs
    induction rs with
    | nil => rfl
    | cons r rs ih => rw [List.flatMap_cons, List.filterMap_append, ih]; rfl
  rw [outputs, filterMap_lexed made.showing outputOf rfl, Terraform.showing, List.filterMap_append,
    List.filterMap_append, each]
  exact List.append_nil _

def mainText (m : Manifest) (rendered : List TerraformFile) : String :=
  awsProvider ++ "module \"resources\" \x7b\n  source = \"./resources\"\n" ++
    String.join ((partsOf m rendered).map Part.argument) ++ "\x7d\n"

omit [GoUnicode] [GoRuntime] in
theorem awsProvider_means : ∃ before, Means awsProvider before ∧
    (∀ ts ∈ before, header ts ≠ some ["module", "resources"]) ∧ before.flatMap references = [⟨"var.region", none⟩] := by
  have requires : Means "terraform \x7b\n  required_providers \x7b\n" _ := .of rfl (by decide)
  have aws : Means ("    aws = \x7b source = \"hashicorp/aws\", version = \"~> 5.0\" \x7d\n  \x7d\n" ++
      "  backend \"s3\" \x7b\x7d\n\x7d\n") _ := .append (.of rfl (by decide)) (.of rfl (by decide))
  have region : Means "provider \"aws\" \x7b\n  region = var.region\n\x7d\n" _ := .of rfl (by decide)
  exact ⟨_, requires.append (aws.append region), by decide, rfl⟩

def handing (m : Manifest) : List (List Token) :=
  (byName m.resources).flatMap fun r => [[.word (inputName r), .mark '=', .word ("var." ++ inputName r)]]

theorem Made.main (made : Made m rendered lines) : ∃ before, Means (mainText m rendered)
    (before ++ [.word "module", .text "resources", .mark openBrace] ::
      ([.word "source", .mark '=', .text "./resources"] :: handing m ++ [.mark closeBrace] :: [])) ∧
      (∀ ts ∈ before, header ts ≠ some ["module", "resources"]) ∧ before.flatMap references = [⟨"var.region", none⟩] := by
  obtain ⟨before, provider, others, refers⟩ := awsProvider_means
  have opened : Means "module \"resources\" \x7b\n  source = \"./resources\"\n"
    [[.word "module", .text "resources", .mark openBrace], [.word "source", .mark '=', .text "./resources"]] :=
    .of rfl (by decide)
  have closed : Means "\x7d\n" [[.mark closeBrace]] := .of rfl (by decide)
  have whole := ((provider.append opened).append made.arguments).append closed
  refine ⟨before, ?_, others, refers⟩
  rw [mainText]
  simpa [handing] using whole

omit [GoUnicode] [GoRuntime] in
theorem handing_passing (rs : List Resource) :
    (rs.flatMap fun r => [[Token.word (inputName r), .mark '=', .word ("var." ++ inputName r)]]).filterMap passing =
      rs.map fun r => (inputName r, "var." ++ inputName r) := by
  induction rs with
  | nil => rfl
  | cons r rs ih => rw [List.flatMap_cons, List.filterMap_append, ih]; rfl

theorem Made.handed (made : Made m rendered lines) :
    passed (mainText m rendered) = (namesOf m).map fun name => ("r_" ++ name, "var." ++ ("r_" ++ name)) := by
  obtain ⟨before, means, others, -⟩ := made.main
  have shut : ∀ ts ∈ [.word "source", .mark '=', .text "./resources"] :: handing m, ts ≠ [.mark closeBrace] := by
    refine List.forall_mem_cons.mpr ⟨by decide, fun ts mem => ?_⟩
    obtain ⟨r, -, own⟩ := List.mem_flatMap.mp mem
    rw [List.mem_singleton.mp own]
    exact nofun
  rw [passed, means.lexed, List.append_assoc, List.cons_append, List.append_assoc]
  refine (congrArg _ (@inside_eq _ _ _ [[]] _ others rfl shut)).trans ?_
  rw [List.filterMap_cons_none rfl, handing, handing_passing, namesOf, List.map_map]
  rfl

theorem Made.root (made : Made m rendered lines) : ∀ ref ∈ referencesIn (mainText m rendered),
    ∃ name ∈ "region" :: (namesOf m).map ("r_" ++ ·), ref = ⟨"var." ++ name, none⟩ := by
  obtain ⟨before, means, -, refers⟩ := made.main
  intro ref mem
  rw [referencesIn, means.lexed, List.flatMap_append, List.flatMap_append, refers] at mem
  rcases List.mem_append.mp mem with mem | blank
  · rcases List.mem_append.mp mem with region | mem
    · exact ⟨"region", by simp, List.mem_singleton.mp region⟩
    · obtain ⟨ts, own, refers⟩ := List.mem_flatMap.mp mem
      simp only [List.mem_cons, List.mem_append, List.not_mem_nil, or_false, handing, List.mem_flatMap] at own
      rcases own with rfl | (rfl | ⟨r, here, rfl⟩) | rfl
      · cases refers
      · cases refers
      · refine ⟨inputName r, List.mem_cons_of_mem _ ?_, ?_⟩
        · rw [← inputNames]
          exact List.mem_map_of_mem here
        · rw [references, references_cons_mark, references, references] at refers
          rcases List.mem_append.mp refers with first | second
          · split at first
            · rename_i selecting
              rw [made.unselecting r here] at selecting
              cases selecting
            · cases first
          · rw [List.append_nil] at second
            split at second
            · exact List.mem_singleton.mp second
            · cases second
      · cases refers
  · cases blank

omit [GoUnicode] [GoRuntime] in
theorem domains : ∀ e ∈ catalog, domainOf e.2 ∈ ["compute", "storage", "database", "networking"] := by decide

def domainsOf (m : Manifest) (rendered : List TerraformFile) : List String := ((partsOf m rendered).map Part.domain).dedup

theorem Made.domains (made : Made m rendered lines) :
    ∀ domain ∈ domainsOf m rendered, domain ∈ ["compute", "storage", "database", "networking"] := by
  intro domain mem
  rw [domainsOf, List.mem_dedup, partsOf, List.map_map] at mem
  obtain ⟨r, own, rfl⟩ := List.mem_map.mp mem
  exact Terraform.domains (TrimSpace r.type, specFor r) (specOf_mem (made.known_kind r own))

omit [GoUnicode] [GoRuntime] in
theorem mem_domains {r : Resource} (mem : r ∈ byName m.resources) : domainOf (specFor r) ∈ domainsOf m rendered := by
  rw [domainsOf, List.mem_dedup, partsOf, List.map_map]
  exact List.mem_map_of_mem (f := fun r => domainOf (specFor r)) mem

def fixedPaths : List String :=
  ["outputs.tf", "main.tf", "variables.tf", "terraform.tfvars", "resources/variables.tf", "resources/outputs.tf"]

omit [GoUnicode] [GoRuntime] in
theorem paths_perm (m : Manifest) (rendered : List TerraformFile) :
    ((bundleFiles m awsProvider (partsOf m rendered)).map fun file => file.path).Perm
      (fixedPaths ++ (domainsOf m rendered).map fun domain => "resources/" ++ domain ++ ".tf") := by
  have moved := (@List.perm_append_comm _ ((domainsOf m rendered).map fun domain => "resources/" ++ domain ++ ".tf")
    ["resources/outputs.tf"]).append_left
      ["outputs.tf", "main.tf", "variables.tf", "terraform.tfvars", "resources/variables.tf"]
  rw [bundleFiles, List.map_append, List.map_append, List.map_map, List.append_assoc]
  exact moved

theorem Made.paths (made : Made m rendered lines) :
    ((bundleFiles m awsProvider (partsOf m rendered)).map fun file => file.path).Nodup := by
  have apart : ∀ path ∈ fixedPaths, ∀ domain ∈ ["compute", "storage", "database", "networking"],
      path ≠ "resources/" ++ domain ++ ".tf" := by decide
  rw [(paths_perm m rendered).nodup_iff, List.nodup_append]
  refine ⟨by decide, (List.nodup_dedup _).map fun _ _ => affix_injective, fun path fixed_ other mem => ?_⟩
  obtain ⟨domain, own, rfl⟩ := List.mem_map.mp mem
  exact apart path fixed_ domain (made.domains domain own)

theorem Made.sorted (made : Made m rendered lines) :
    ((byPath (bundleFiles m awsProvider (partsOf m rendered))).map fun file => file.path).Nodup :=
  ((sortStable_perm _ _).map _).nodup_iff.mpr made.paths

theorem Made.contents (made : Made m rendered lines) {path content : String}
    (mem : ⟨path, content⟩ ∈ bundleFiles m awsProvider (partsOf m rendered)) :
    contents (byPath (bundleFiles m awsProvider (partsOf m rendered))) path = content := by
  have mem : ⟨path, content⟩ ∈ byPath (bundleFiles m awsProvider (partsOf m rendered)) := mem_sortStable.mpr mem
  exact contents_of_mem made.sorted mem

omit [GoUnicode] [GoRuntime] in
theorem mem_values : ⟨"terraform.tfvars", valuesText m rendered⟩ ∈ bundleFiles m awsProvider (partsOf m rendered) := by
  unfold valuesText
  simp [bundleFiles]

omit [GoUnicode] [GoRuntime] in
theorem mem_main : ⟨"main.tf", mainText m rendered⟩ ∈ bundleFiles m awsProvider (partsOf m rendered) := by
  unfold mainText
  simp [bundleFiles]

omit [GoUnicode] [GoRuntime] in
theorem mem_inputs : ⟨"variables.tf", inputsText m rendered⟩ ∈ bundleFiles m awsProvider (partsOf m rendered) := by
  unfold inputsText
  simp [bundleFiles]

omit [GoUnicode] [GoRuntime] in
theorem mem_declarations : ⟨"resources/variables.tf", String.join ((partsOf m rendered).map Part.declaration)⟩ ∈
    bundleFiles m awsProvider (partsOf m rendered) := by
  simp [bundleFiles]

omit [GoUnicode] [GoRuntime] in
theorem mem_outputs : ⟨"resources/outputs.tf", outputsText m rendered⟩ ∈
    bundleFiles m awsProvider (partsOf m rendered) := by
  unfold outputsText
  simp [bundleFiles]

omit [GoUnicode] [GoRuntime] in
theorem hasPrefix_append (start rest : String) : HasPrefix (start ++ rest) start = true := by
  rw [HasPrefix, String.toList_append]
  exact List.isPrefixOf_iff_prefix.mpr (List.prefix_append _ _)

def declarationsFile (m : Manifest) (rendered : List TerraformFile) : TerraformFile :=
  ⟨"resources/variables.tf", String.join ((partsOf m rendered).map Part.declaration)⟩

def outputsFile (m : Manifest) (rendered : List TerraformFile) : TerraformFile :=
  ⟨"resources/outputs.tf", outputsText m rendered⟩

omit [GoUnicode] [GoRuntime] in
theorem moduleFiles_eq : moduleFiles (bundleFiles m awsProvider (partsOf m rendered)) =
    declarationsFile m rendered :: ((domainsOf m rendered).map (domainFile (partsOf m rendered)) ++ [outputsFile m rendered]) := by
  have domain : ((domainsOf m rendered).map (domainFile (partsOf m rendered))).filter
      (fun file => HasPrefix file.path "resources/") = (domainsOf m rendered).map (domainFile (partsOf m rendered)) := by
    refine List.filter_eq_self.mpr fun file mem => ?_
    obtain ⟨domain, -, rfl⟩ := List.mem_map.mp mem
    rw [domainFile, String.append_assoc]
    exact hasPrefix_append _ _
  have roots : ∀ path ∈ ["outputs.tf", "main.tf", "variables.tf", "terraform.tfvars"], HasPrefix path "resources/" = false := by
    decide
  have root : ∀ path ∈ ["outputs.tf", "main.tf", "variables.tf", "terraform.tfvars"], ∀ content files,
      (TerraformFile.mk path content :: files).filter (fun file => HasPrefix file.path "resources/") =
        files.filter fun file => HasPrefix file.path "resources/" :=
    fun path mem content files => List.filter_cons_of_neg (by simp [roots path mem])
  have insides : ∀ path ∈ ["resources/variables.tf", "resources/outputs.tf"], HasPrefix path "resources/" = true := by decide
  have inside : ∀ path ∈ ["resources/variables.tf", "resources/outputs.tf"], ∀ content,
      [TerraformFile.mk path content].filter (fun file => HasPrefix file.path "resources/") = [⟨path, content⟩] :=
    fun path mem content => List.filter_cons_of_pos (by simp [insides path mem])
  rw [moduleFiles, bundleFiles, List.filter_append, List.filter_append, root _ (by simp), root _ (by simp),
    root _ (by simp), root _ (by simp), inside _ (by simp), inside _ (by simp)]
  exact congrArg (fun files => declarationsFile m rendered :: (files ++ [outputsFile m rendered])) domain

theorem Made.emitted_domain (made : Made m rendered lines) (domain : String) :
    (lexed (domainFile (partsOf m rendered) domain).content).filterMap blockOf =
      ((byName m.resources).filter fun r => domainOf (specFor r) == domain).flatMap blocksFor := by
  have each : ∀ rs : List Resource, (∀ r ∈ rs, r ∈ m.resources) →
      (rs.flatMap lines).filterMap blockOf = rs.flatMap blocksFor := by
    intro rs own
    induction rs with
    | nil => rfl
    | cons r rs ih =>
      rw [List.flatMap_cons, List.filterMap_append, made.blocks r (own r (by simp)), ih fun s mem => own s (by simp [mem]),
        List.flatMap_cons]
  rw [filterMap_lexed (made.domain domain) blockOf rfl]
  exact each _ fun r mem => mem_byName.mp (List.mem_of_mem_filter mem)

omit [GoUnicode] [GoRuntime] in
theorem emitted_byPath (fs : List TerraformFile) : (emitted (byPath fs)).Perm (emitted fs) :=
  ((sortStable_perm _ fs).filter _).flatMap_right _

theorem Made.emitted (made : Made m rendered lines) :
    emitted (bundleFiles m awsProvider (partsOf m rendered)) = (domainsOf m rendered).flatMap fun domain =>
      ((byName m.resources).filter fun r => domainOf (specFor r) == domain).flatMap blocksFor := by
  have declares : (lexed (declarationsFile m rendered).content).filterMap blockOf = [] := by
    rw [declarationsFile, filterMap_lexed made.declarations blockOf rfl, List.filterMap_eq_nil_iff]
    intro ts mem
    obtain ⟨r, -, own⟩ := List.mem_flatMap.mp mem
    simp only [Terraform.declared, List.mem_cons, List.not_mem_nil, or_false] at own
    rcases own with rfl | rfl | rfl <;> rfl
  have shows : (lexed (outputsFile m rendered).content).filterMap blockOf = [] := by
    have each : ∀ rs : List Resource,
        (rs.flatMap fun r => [[Token.text r.logicalName, .mark '=', .word (idOf r)]]).filterMap blockOf = [] := by
      intro rs
      rw [List.filterMap_eq_nil_iff]
      intro ts mem
      obtain ⟨r, -, own⟩ := List.mem_flatMap.mp mem
      rw [List.mem_singleton.mp own]
      rfl
    rw [outputsFile, filterMap_lexed made.showing blockOf rfl, Terraform.showing, List.filterMap_append,
      List.filterMap_append, each]
    rfl
  rw [Terraform.emitted, moduleFiles_eq, List.flatMap_cons, List.flatMap_append, declares, List.flatMap_singleton, shows,
    List.append_nil, List.nil_append, List.flatMap_map]
  exact List.flatMap_congr fun domain _ => made.emitted_domain domain

omit [GoUnicode] [GoRuntime] in
theorem mem_blocksFor {r : Resource} {block : String × String} :
    block ∈ blocksFor r ↔ block.1 ∈ kindsOf (specFor r) ∧ block.2 = inputName r := by
  rw [blocksFor, List.mem_map]
  constructor
  · rintro ⟨kind, own, rfl⟩
    exact ⟨own, rfl⟩
  · rintro ⟨own, name⟩
    exact ⟨block.1, own, by rw [← name]⟩

omit [GoUnicode] [GoRuntime] in
theorem blocksFor_nodup (r : Resource) : (blocksFor r).Nodup := by
  have kinds : (kindsOf (specFor r)).Nodup := by
    unfold kindsOf
    split
    · decide
    · exact List.nodup_singleton _
  exact kinds.map fun _ _ same => (Prod.mk.inj same).1

theorem Made.same (made : Made m rendered lines) {r s : Resource} (mem : r ∈ byName m.resources)
    (mem' : s ∈ byName m.resources) (same : inputName r = inputName s) : r = s := by
  refine List.inj_on_of_nodup_map made.renders.sorted mem mem' ?_
  exact @affix_injective "r_" "" _ _ (by simpa [inputName] using same)

theorem Made.mem_emitted (made : Made m rendered lines) {block : String × String} :
    block ∈ Terraform.emitted (bundleFiles m awsProvider (partsOf m rendered)) ↔ ∃ r ∈ byName m.resources, block ∈ blocksFor r := by
  rw [made.emitted, List.mem_flatMap]
  constructor
  · rintro ⟨domain, -, mem⟩
    obtain ⟨r, own, block⟩ := List.mem_flatMap.mp mem
    exact ⟨r, List.mem_of_mem_filter own, block⟩
  · rintro ⟨r, own, block⟩
    refine ⟨domainOf (specFor r), mem_domains own, List.mem_flatMap.mpr ⟨r, ?_, block⟩⟩
    exact List.mem_filter.mpr ⟨own, by simp⟩

theorem Made.single (made : Made m rendered lines) :
    (Terraform.emitted (bundleFiles m awsProvider (partsOf m rendered))).Nodup := by
  have shared : ∀ {r s : Resource} {block : String × String}, r ∈ byName m.resources → s ∈ byName m.resources →
      block ∈ blocksFor r → block ∈ blocksFor s → r = s := by
    intro r s block mem mem' own own'
    exact made.same mem mem' ((mem_blocksFor.mp own).2.symm.trans (mem_blocksFor.mp own').2)
  have nodup : (byName m.resources).Nodup := List.Nodup.of_map _ made.renders.sorted
  rw [made.emitted, List.nodup_flatMap]
  refine ⟨fun domain _ => List.nodup_flatMap.mpr ⟨fun r _ => blocksFor_nodup r, ?_⟩, ?_⟩
  · refine (nodup.filter _).imp_of_mem fun mem mem' differ block own own' => differ ?_
    exact shared (List.mem_of_mem_filter mem) (List.mem_of_mem_filter mem') own own'
  · refine (List.nodup_dedup _).imp fun differ block own own' => differ ?_
    obtain ⟨r, mem, here⟩ := List.mem_flatMap.mp own
    obtain ⟨s, mem', here'⟩ := List.mem_flatMap.mp own'
    obtain ⟨mem, domain⟩ := List.mem_filter.mp mem
    obtain ⟨mem', domain'⟩ := List.mem_filter.mp mem'
    obtain rfl := shared mem mem' here here'
    rw [← eq_of_beq domain, ← eq_of_beq domain']

omit [GoUnicode] [GoRuntime] in
theorem terraformType_kind (s : Spec) : s.terraformType ∈ kindsOf s := by
  unfold kindsOf
  split
  · rename_i bucket
    simp [bucket]
  · exact List.mem_singleton_self _

def bundledFiles (m : Manifest) (rendered : List TerraformFile) : List TerraformFile :=
  byPath (bundleFiles m awsProvider (partsOf m rendered))

theorem Made.block (made : Made m rendered lines) {r : Resource} (mem : r ∈ byName m.resources) :
    ((specFor r).terraformType, inputName r) ∈ Terraform.emitted (bundledFiles m rendered) := by
  refine (emitted_byPath _).mem_iff.mpr (made.mem_emitted.mpr ⟨r, mem, mem_blocksFor.mpr ⟨terraformType_kind _, rfl⟩⟩)

theorem Made.input (made : Made m rendered lines) {r : Resource} (mem : r ∈ byName m.resources) {key : String}
    (listed : key ∈ (specFor r).fields) : Resolved (bundledFiles m rendered) ⟨"var." ++ inputName r, some key⟩ := by
  refine .inl ⟨inputName r, key, (propsOf r).entries, rfl, ?_, ?_⟩
  · rw [bundledFiles, made.contents mem_values, made.valued]
    exact List.mem_cons_of_mem _ (List.mem_map_of_mem mem)
  · have done := made.props r (mem_byName.mp mem)
    have distinct := fields_distinct (TrimSpace r.type, specFor r) (specOf_mem (made.known_kind r mem))
    obtain ⟨complete, -⟩ := properties_ok distinct done
    obtain ⟨v, stored, -⟩ := complete.valued key listed
    exact List.mem_map_of_mem (GoMap.get?_eq_some_iff.mp stored)

theorem Made.resolves (made : Made m rendered lines) {r : Resource} (mem : r ∈ byName m.resources) {ref : Reference}
    (known : Known (specFor r) (inputName r) (dependencies (byName (trimmed m.resources)) (trim r)) ref) :
    Resolved (bundledFiles m rendered) ref := by
  cases known with
  | input listed => exact made.input mem listed
  | dependency listed =>
    obtain ⟨dep, own, -, rfl⟩ := mem_dependencies listed
    obtain ⟨d, here, rfl⟩ := List.mem_map.mp (mem_byName.mp own)
    exact .inr ⟨_, _, made.block (mem_byName.mpr here), .inl rfl⟩
  | own => exact .inr ⟨_, _, made.block mem, .inr rfl⟩

theorem Made.resolved (made : Made m rendered lines) : ∀ file ∈ moduleFiles (bundledFiles m rendered),
    ∀ ref ∈ referencesIn file.content, Resolved (bundledFiles m rendered) ref := by
  intro file mem ref refers
  have unsorted : file ∈ moduleFiles (bundleFiles m awsProvider (partsOf m rendered)) :=
    ((sortStable_perm _ _).filter _).mem_iff.mp mem
  rw [moduleFiles_eq, List.mem_cons, List.mem_append, List.mem_singleton, List.mem_map] at unsorted
  rcases unsorted with rfl | ⟨domain, -, rfl⟩ | rfl
  · obtain ⟨ts, own, refers⟩ := mem_referencesIn made.declarations refers
    obtain ⟨r, -, own⟩ := List.mem_flatMap.mp own
    simp only [Terraform.declared, List.mem_cons, List.not_mem_nil, or_false] at own
    rcases own with rfl | rfl | rfl <;> cases refers
  · obtain ⟨ts, own, refers⟩ := mem_referencesIn (made.domain domain) refers
    obtain ⟨r, here, own⟩ := List.mem_flatMap.mp own
    have here := List.mem_of_mem_filter here
    exact made.resolves here (made.known r (mem_byName.mp here) ts own ref refers)
  · obtain ⟨ts, own, refers⟩ := mem_referencesIn made.showing refers
    simp only [Terraform.showing, List.mem_append, List.mem_cons, List.not_mem_nil, or_false, List.mem_flatMap] at own
    rcases own with ((rfl | rfl) | ⟨r, here, rfl⟩) | rfl | rfl
    · cases refers
    · cases refers
    · rw [references_cons_text, references_cons_mark, references, references, List.append_nil] at refers
      split at refers
      · obtain rfl := List.mem_singleton.mp refers
        exact .inr ⟨_, _, made.block here, .inr rfl⟩
      · cases refers
    · cases refers
    · cases refers

end Files

section Bundles

variable [GoUnicode] [GoRuntime] {m : Manifest} {files : List TerraformFile} {res : Result}

theorem Bundled.closed (b : Bundled m files) : Closed (namesOf m) files := by
  obtain ⟨rendered, lines, made, rfl⟩ := b.resources
  refine ⟨made.sorted, made.renders.sorted, ?_, ?_, ?_, ?_, ?_,
    (emitted_byPath _).nodup_iff.mpr made.single, ?_, made.resolved⟩
  · rw [made.contents mem_inputs, made.declared]
  · rw [made.contents mem_declarations, made.inner]
  · rw [made.contents mem_main, made.handed]
  · rw [made.contents mem_values, made.valued, List.map_cons, List.map_map, ← inputNames]
    rfl
  · rw [made.contents mem_outputs, made.shown]
  · rw [made.contents mem_main]
    exact made.root

-- A bundle is a module of its own: what its files refer to is declared and has a value in it.
theorem bundle_closed (done : (Bundle (some m)).2 = none) (complete : (Bundle (some m)).1.unsupported = []) :
    ∃ m₀, renamed m = .ok m₀ ∧ Closed (namesOf m₀) (Bundle (some m)).1.files := by
  have whole : Bundle (some m) = ((Bundle (some m)).1, none) := Prod.ext rfl done
  obtain ⟨m₀, files, copied, bundled, same⟩ := Bundle_ok.mp ⟨whole, complete⟩
  rw [same]
  exact ⟨m₀, copied, bundled.closed⟩

end Bundles

section Example

def vpcMain : Resource where
  logicalName := "main"
  type := "network.aws.vpc"
  dependsOn := []
  properties := ⟨[("cidr_block", .str "10.0.0.0/16")], by decide⟩
  tags := .empty
  securitySettings := none

def bucketLogs : Resource where
  logicalName := "logs"
  type := "storage.aws.s3"
  dependsOn := ["main"]
  properties := ⟨[("name", .str "provisr-logs")], by decide⟩
  tags := .empty
  securitySettings := none

def network : Manifest := ⟨"1.0", "aws", "eu-west-1", [vpcMain, bucketLogs], [], none, .empty⟩

theorem network_bundled : letI : GoUnicode := Approval.asciiTables
    letI : GoRuntime := Validator.doubling
    (Bundle (some network)).2 = none ∧ (Bundle (some network)).1.unsupported.isEmpty = true := by
  decide +kernel

theorem bundle_closed_network : letI : GoUnicode := Approval.asciiTables
    letI : GoRuntime := Validator.doubling
    (Bundle (some network)).2 = none ∧
      ∃ m₀, renamed network = .ok m₀ ∧ Closed (namesOf m₀) (Bundle (some network)).1.files :=
  ⟨network_bundled.1, @bundle_closed Approval.asciiTables Validator.doubling network network_bundled.1
    (List.isEmpty_iff.mp network_bundled.2)⟩

end Example

end Provisr.Backend.Terraform
