import Provisr.Backend.TerraformChecks

namespace Provisr.Backend.Terraform

open Provisr.Foundation Provisr.Foundation.TextTemplate Provisr.Foundation.Hcl
open Json (quoteMark backslash openBrace closeBrace)

section Reading

def labelOf : Token → Option String
  | .word s | .text s => some s
  | .mark _ => none

-- The kind of the block that a line opens, and its labels.
def header (ts : List Token) : Option (List String) :=
  if ts.getLast? = some (.mark openBrace) then ts.dropLast.mapM labelOf else none

def variableOf (ts : List Token) : Option String :=
  match header ts with
  | some ["variable", name] => some name
  | _ => none

def blockOf (ts : List Token) : Option (String × String) :=
  match header ts with
  | some ["resource", kind, name] => some (kind, name)
  | _ => none

end Reading

section Words

def IsWord (s : String) : Prop := ∀ c ∈ s.toList, isWord c = true

instance (s : String) : Decidable (IsWord s) := List.decidableBAll (fun c => isWord c = true) s.toList

variable {c : Char} {s t : String}

theorem IsWord.append (h : IsWord s) (h' : IsWord t) : IsWord (s ++ t) := by
  intro c mem
  rw [String.toList_append] at mem
  exact (List.mem_append.mp mem).elim (h c) (h' c)

theorem word_special (word : isWord c = true) : ¬ Json.Special c := by
  have codes : ∀ n ∈ Json.specialCodes, isWord (Char.ofNat n) = false := by decide
  intro special
  obtain ⟨n, mem, rfl⟩ := special.code
  rw [codes n mem] at word
  cases word

theorem word_html (word : isWord c = true) : GoJson.htmlCodes.lookup c = none := by
  have codes : ∀ p ∈ GoJson.htmlCodes, isWord p.1 = false := by decide
  cases html : GoJson.htmlCodes.lookup c with
  | none => rfl
  | some code =>
    have other : isWord c = false := codes (c, code) (html_mem html)
    rw [word] at other
    cases other

theorem word_sigil (word : isWord c = true) : isSigil c = false := by
  cases sigil : isSigil c with
  | false => rfl
  | true =>
    simp only [isSigil, Bool.or_eq_true, beq_iff_eq] at sigil
    rcases sigil with rfl | rfl <;> cases word

theorem body_word {cs : List Char} (word : ∀ c ∈ cs, isWord c = true) : body cs = cs := by
  induction cs with
  | nil => rfl
  | cons c cs ih =>
    have own := word c (by simp)
    have rest := ih fun d mem => word d (by simp [mem])
    unfold body at rest ⊢
    rw [htmlEscape_cons, spelled_plain (word_special own) (word_html own), List.singleton_append,
      escapeTemplate_other (word_sigil own), rest]

theorem hcl_eq_emit (v : Json Literal) : (hcl v).toList = emit (Json.write (Json.normalize id v)) := by
  rw [hcl, String.toList_ofList]
  rfl

theorem hcl_word (word : IsWord s) : (hcl (.str s)).toList = quoteMark :: (s.toList ++ [quoteMark]) := by
  rw [hcl_eq_emit, Json.normalize, emit_str, body_word word]

theorem hcl_unbroken (v : Json Literal) : Unbroken (hcl v).toList := by
  rw [hcl_eq_emit]
  exact emit_unbroken _

theorem word_unbroken (word : IsWord s) : Unbroken s.toList := fun broken => by
  have newline : isWord '\n' = true := word _ broken
  cases newline

theorem lexes_word (word : IsWord s) (filled : s ≠ "") : Lexes s.toList [.word s] := by
  have read := Lexes.word word fun empty => filled (String.toList_inj.mp empty)
  rwa [String.ofList_toList] at read

theorem lexes_hcl_word (word : IsWord s) : Lexes (hcl (.str s)).toList [.text s] := by
  have read := lexes_quoted s
  rw [body_word word, String.ofList_toList] at read
  rwa [hcl_word word]

theorem literally_hcl (v : Json Literal) : Literally (hcl v).toList := by
  rw [hcl_eq_emit]
  exact literally_emit _

theorem IsWord.quotable (word : IsWord s) : ∀ c ∈ s.toList, Quotable c := by
  intro c mem
  have special := word_special (word c mem)
  simp only [Json.Special, not_or] at special
  exact ⟨special.1, special.2.1⟩

theorem lexFrom_label (word : IsWord s) (rest : List Char) :
    lexFrom (.text []) (s.toList ++ quoteMark :: rest) = .text s :: lexFrom .between rest := by
  rw [lexFrom_quotable word.quotable, lexFrom_close, List.nil_append, String.ofList_toList]

end Words

section Lines

structure Reads (name : String) (known : Reference → Prop) (kinds : List String) (ls : List (List Char)) : Prop where
  unbroken : ∀ l ∈ ls, Unbroken l
  blocks : ls.filterMap (fun l => blockOf (lex l)) = kinds.map fun kind => (kind, name)
  known : ∀ l ∈ ls, ∀ ref ∈ references (lex l), known ref

variable {name kind : String} {known : Reference → Prop} {kinds : List String} {l : List Char} {ls : List (List Char)}
  {given : Hole → String}

theorem Reads.nil : Reads name known [] [] := ⟨nofun, rfl, nofun⟩

theorem Reads.opening (unbroken : Unbroken l) (block : blockOf (lex l) = some (kind, name))
    (none_ : references (lex l) = []) (rest : Reads name known kinds ls) : Reads name known (kind :: kinds) (l :: ls) := by
  refine ⟨List.forall_mem_cons.mpr ⟨unbroken, rest.unbroken⟩, ?_, List.forall_mem_cons.mpr ⟨?_, rest.known⟩⟩
  · rw [List.filterMap_cons, block, rest.blocks, List.map_cons]
  · rw [none_]
    exact nofun

theorem Reads.line (unbroken : Unbroken l) (none_ : blockOf (lex l) = none)
    (own : ∀ ref ∈ references (lex l), known ref) (rest : Reads name known kinds ls) :
    Reads name known kinds (l :: ls) := by
  refine ⟨List.forall_mem_cons.mpr ⟨unbroken, rest.unbroken⟩, ?_, List.forall_mem_cons.mpr ⟨own, rest.known⟩⟩
  rw [List.filterMap_cons, none_, rest.blocks]

theorem Reads.append {kinds' : List String} {ms : List (List Char)} (h : Reads name known kinds ls)
    (h' : Reads name known kinds' ms) : Reads name known (kinds ++ kinds') (ls ++ ms) := by
  refine ⟨List.forall_mem_append.mpr ⟨h.unbroken, h'.unbroken⟩, ?_, List.forall_mem_append.mpr ⟨h.known, h'.known⟩⟩
  rw [List.filterMap_append, h.blocks, h'.blocks, List.map_append]

theorem lexFrom_resource (rest : List Char) :
    lexFrom .between ("resource \"".toList ++ rest) = .word "resource" :: lexFrom (.text []) rest := by
  rw [String.toList_ofList]
  rfl

theorem lexFrom_secondLabel (word : IsWord kind) (rest : List Char) :
    lexFrom (.text []) (kind.toList ++ ("\" \"".toList ++ rest)) = .text kind :: lexFrom (.text []) rest := by
  rw [String.toList_ofList]
  exact lexFrom_label word _

theorem lex_resourceLine (word : IsWord kind) (named : IsWord (given .name)) :
    lex (written given (resourceLine kind)) =
      [.word "resource", .text kind, .text (given .name), .mark openBrace] := by
  have last : lexFrom (.text []) ((given .name).toList ++ "\" \x7b".toList) = [.text (given .name), .mark openBrace] := by
    rw [String.toList_ofList]
    exact lexFrom_label named _
  rw [resourceLine, written_text, written_hole, written_text, written_nil, List.append_nil, String.toList_append,
    String.toList_append, List.append_assoc, List.append_assoc, lex, lexFrom_resource, lexFrom_secondLabel word, last]

theorem resourceLine_unbroken (word : IsWord kind) (named : IsWord (given .name)) :
    Unbroken (written given (resourceLine kind)) := by
  have front : Unbroken "resource \"".toList := by
    rw [String.toList_ofList]
    decide
  have middle : Unbroken "\" \"".toList := by
    rw [String.toList_ofList]
    decide
  have last : Unbroken "\" \x7b".toList := by
    rw [String.toList_ofList]
    decide
  have one := word_unbroken word
  have two := word_unbroken named
  unfold Unbroken at *
  rw [resourceLine, written_text, written_hole, written_text, written_nil, List.append_nil, String.toList_append,
    String.toList_append]
  simp only [List.mem_append, not_or]
  exact ⟨⟨⟨front, one⟩, middle⟩, two, last⟩

theorem Reads.resource (word : IsWord kind) (named : IsWord name) (same : given .name = name)
    (rest : Reads name known kinds ls) : Reads name known (kind :: kinds) (written given (resourceLine kind) :: ls) := by
  subst same
  refine .opening (resourceLine_unbroken word named) ?_ ?_ rest
  · rw [lex_resourceLine word named]
    rfl
  · rw [lex_resourceLine word named]
    rfl

structure Fixed (line : String) : Prop where
  unbroken : Unbroken line.toList
  block : blockOf (lex line.toList) = none
  references : references (lex line.toList) = []

theorem Fixed.of {cs : List Char} (unbroken : Unbroken cs)
    (plain : ((blockOf (lex cs)).isNone && (Hcl.references (lex cs)).isEmpty) = true) : Fixed (String.ofList cs) := by
  rw [Bool.and_eq_true, Option.isNone_iff_eq_none, List.isEmpty_iff] at plain
  refine ⟨?_, ?_, ?_⟩
  · rwa [String.toList_ofList]
  · rw [String.toList_ofList, plain.1]
  · rw [String.toList_ofList, plain.2]

theorem Reads.fixed {line : String} (plain : Fixed line) (rest : Reads name known kinds ls) :
    Reads name known kinds (written given (fixed line) :: ls) := by
  rw [Terraform.fixed, written_text, written_nil, List.append_nil]
  refine .line plain.unbroken plain.block ?_ rest
  rw [plain.references]
  exact nofun

structure Begins (start word : String) : Prop where
  unbroken : Unbroken start.toList
  lexes : ∀ rest, lexFrom .between (start.toList ++ rest) = .word word :: .mark '=' :: lexFrom .between rest
  plain : selects word = false

theorem Begins.of {cs : List Char} {word : String} (unbroken : Unbroken cs)
    (lexes : ∀ rest, lexFrom .between (cs ++ rest) = .word word :: .mark '=' :: lexFrom .between rest)
    (plain : selects word = false) : Begins (String.ofList cs) word := by
  refine ⟨?_, fun rest => ?_, plain⟩
  · rwa [String.toList_ofList]
  · rw [String.toList_ofList, lexes]

theorem header_argument (word : String) (ts : List Token) : header (.word word :: .mark '=' :: ts) = none := by
  unfold header
  split
  · rename_i last
    cases ts with
    | nil => cases last
    | cons t ts => rfl
  · rfl

theorem blockOf_argument (word : String) (ts : List Token) : blockOf (.word word :: .mark '=' :: ts) = none := by
  rw [blockOf, header_argument]

theorem Reads.argument {start word : String} {value : List Char} {ts : List Token} (begins : Begins start word)
    (unbroken : Unbroken value) (lexes : lexFrom .between value = ts) (own : ∀ ref ∈ references ts, known ref)
    (rest : Reads name known kinds ls) : Reads name known kinds ((start.toList ++ value) :: ls) := by
  have read : lex (start.toList ++ value) = .word word :: .mark '=' :: ts := by rw [lex, begins.lexes, lexes]
  refine .line ?_ ?_ ?_ rest
  · exact fun broken => (List.mem_append.mp broken).elim begins.unbroken unbroken
  · rw [read, blockOf_argument]
  · rw [read, references, references_cons_mark, begins.plain]
    exact own

end Lines

section Arguments

variable {name start word key : String} {known : Reference → Prop} {kinds : List String} {ls : List (List Char)}
  {given : Hole → String}

def inputAt (name key : String) : String := "var." ++ name ++ "[" ++ hcl (.str key) ++ "]"

theorem lexes_inputAt (named : IsWord name) (plain : IsWord key) :
    Lexes (inputAt name key).toList [.word ("var." ++ name), .mark '[', .text key, .mark ']'] := by
  have var : Lexes ("var." ++ name).toList [.word ("var." ++ name)] :=
    lexes_word (IsWord.append (by decide) named) fun empty => by simp at empty
  have index : Lexes ('[' :: ((hcl (.str key)).toList ++ [']'])) [.mark '[', .text key, .mark ']'] := by
    refine .mark rfl ((lexes_hcl_word plain).append (.mark rfl .nil) fun rest _ => .cons rfl)
  have split : (inputAt name key).toList = ("var." ++ name).toList ++ '[' :: ((hcl (.str key)).toList ++ [']']) := by
    simp [inputAt, String.toList_append]
  rw [split]
  exact var.append index fun rest _ => .cons rfl

theorem inputAt_unbroken (named : IsWord name) : Unbroken (inputAt name key).toList := by
  have one := word_unbroken named
  have two := hcl_unbroken (.str key)
  unfold Unbroken at *
  simp only [inputAt, String.toList_append, List.mem_append, not_or]
  exact ⟨⟨⟨⟨by decide, one⟩, by decide⟩, two⟩, by decide⟩

theorem references_inputAt (name key : String) :
    ∀ ref ∈ references [.word ("var." ++ name), .mark '[', .text key, .mark ']'], ref = ⟨"var." ++ name, some key⟩ := by
  intro ref mem
  rw [references, references_cons_mark, references_cons_text, references_cons_mark] at mem
  split at mem
  · exact List.mem_singleton.mp mem
  · cases mem

theorem Reads.value (begins : Begins start word) (named : IsWord name) (plain : IsWord key)
    (input : given (.property key) = inputAt name key) (own : known ⟨"var." ++ name, some key⟩)
    (rest : Reads name known kinds ls) : Reads name known kinds (written given (valueLine start key) :: ls) := by
  rw [valueLine, written_text, written_hole, written_nil, List.append_nil, input]
  refine .argument begins (inputAt_unbroken named) (lexes_inputAt named plain).lex (fun ref mem => ?_) rest
  rw [references_inputAt name key ref mem]
  exact own

theorem Reads.valueRemarked {remark : String} (begins : Begins start word) (named : IsWord name) (plain : IsWord key)
    (input : given (.property key) = inputAt name key) (own : known ⟨"var." ++ name, some key⟩)
    (unbroken : Unbroken remark.toList) (apart : Apart remark.toList) (unread : lexFrom .between remark.toList = [])
    (rest : Reads name known kinds ls) :
    Reads name known kinds (written given (valueLine start key ++ Terraform.fixed remark) :: ls) := by
  have whole : written given (valueLine start key ++ Terraform.fixed remark) =
      start.toList ++ ((inputAt name key).toList ++ remark.toList) := by
    rw [← input]
    simp [valueLine, Terraform.fixed]
  rw [whole]
  refine .argument begins ?_ (lexes_inputAt named plain _ apart) (fun ref mem => ?_) rest
  · exact fun broken => (List.mem_append.mp broken).elim (inputAt_unbroken named) unbroken
  · rw [unread, List.append_nil] at mem
    rw [references_inputAt name key ref mem]
    exact own

theorem Reads.tags {v : Json Literal} (written_ : given .tags = hcl v) (rest : Reads name known kinds ls) :
    Reads name known kinds (written given tagsLine :: ls) := by
  obtain ⟨ts, lexes, unreferring⟩ := literally_hcl v
  rw [tagsLine, written_text, written_hole, written_nil, List.append_nil, written_]
  refine .argument (.of (by decide) (fun _ => rfl) (by decide) : Begins "  tags = " "tags") (hcl_unbroken v) lexes.lex (fun ref mem => ?_) rest
  rw [unreferring.references] at mem
  cases mem

def listed : List String → List Token
  | [] => []
  | [w] => [.word w]
  | w :: ws => .word w :: .mark ',' :: listed ws

theorem lexes_listed {ws : List String} (word : ∀ w ∈ ws, IsWord w ∧ w ≠ "") :
    Lexes (", ".intercalate ws).toList (listed ws) := by
  induction ws with
  | nil => exact .nil
  | cons w ws ih =>
    obtain ⟨plain, filled⟩ := word w (by simp)
    have first := lexes_word plain filled
    cases ws with
    | nil =>
      rw [String.intercalate_singleton]
      exact first
    | cons v ws =>
      have rest := ih fun u mem => word u (by simp [mem])
      have comma : Lexes (", ".toList ++ (", ".intercalate (v :: ws)).toList) (.mark ',' :: listed (v :: ws)) := by
        intro after apart
        have blank : ∀ cs, lexFrom .between (", ".toList ++ cs) = .mark ',' :: lexFrom .between cs := by
          intro cs
          rw [String.toList_ofList]
          rfl
        rw [List.append_assoc, blank, rest after apart]
        rfl
      rw [String.intercalate_cons_cons, String.toList_append, String.toList_append, List.append_assoc]
      refine first.append comma fun after _ => ?_
      rw [String.toList_ofList]
      exact .cons rfl

theorem listed_unbroken {ws : List String} (word : ∀ w ∈ ws, IsWord w ∧ w ≠ "") :
    Unbroken (", ".intercalate ws).toList := by
  induction ws with
  | nil => decide
  | cons w ws ih =>
    have first := word_unbroken (word w (by simp)).1
    cases ws with
    | nil =>
      rw [String.intercalate_singleton]
      exact first
    | cons v ws =>
      have rest := ih fun u mem => word u (by simp [mem])
      unfold Unbroken at *
      rw [String.intercalate_cons_cons, String.toList_append, String.toList_append]
      simp only [List.mem_append, not_or]
      exact ⟨⟨first, by decide⟩, rest⟩

theorem references_listed (ws : List String) :
    ∀ ref ∈ references (listed ws ++ [.mark ']']), ref.index = none ∧ ref.path ∈ ws := by
  induction ws with
  | nil => exact nofun
  | cons w ws ih =>
    intro ref mem
    have own : ∀ after, ref ∈ (if selects w then [⟨w, none⟩] else []) ++ references after →
        (ref.index = none ∧ ref.path ∈ w :: ws) ∨ ref ∈ references after := by
      intro after mem
      refine (List.mem_append.mp mem).imp_left fun first => ?_
      split at first
      · rw [List.mem_singleton.mp first]
        exact ⟨rfl, by simp⟩
      · cases first
    cases ws with
    | nil => exact (own [.mark ']'] mem).resolve_right nofun
    | cons v ws =>
      have split : references (listed (w :: v :: ws) ++ [.mark ']']) =
          (if selects w then [⟨w, none⟩] else []) ++ references (listed (v :: ws) ++ [.mark ']']) := rfl
      rw [split] at mem
      rcases own _ mem with found | later
      · exact found
      · obtain ⟨none_, mem⟩ := ih ref later
        exact ⟨none_, List.mem_cons_of_mem w mem⟩

theorem Reads.dependsOn {deps : List String} (written_ : given .dependencies = ", ".intercalate deps)
    (word : ∀ w ∈ deps, IsWord w ∧ w ≠ "") (own : ∀ w ∈ deps, known ⟨w, none⟩) (rest : Reads name known kinds ls) :
    Reads name known kinds (written given dependsOnLine :: ls) := by
  have begins : ∀ cs, lexFrom .between ("  depends_on = [".toList ++ cs) =
      .word "depends_on" :: .mark '=' :: .mark '[' :: lexFrom .between cs := by
    intro cs
    rw [String.toList_ofList]
    rfl
  have close : lexFrom .between "]".toList = [.mark ']'] := by
    rw [String.toList_ofList]
    rfl
  have read : lex (written given dependsOnLine) =
      .word "depends_on" :: .mark '=' :: .mark '[' :: (listed deps ++ [.mark ']']) := by
    have apart : Apart "]".toList := by
      rw [String.toList_ofList]
      exact .cons rfl
    rw [dependsOnLine, written_text, written_hole, written_text, written_nil, List.append_nil, written_, lex, begins,
      lexes_listed word _ apart, close]
  refine .line ?_ ?_ (fun ref mem => ?_) rest
  · have unbroken := listed_unbroken word
    unfold Unbroken at *
    rw [dependsOnLine, written_text, written_hole, written_text, written_nil, List.append_nil, written_]
    simp only [List.mem_append, not_or]
    exact ⟨by decide, unbroken, by decide⟩
  · rw [read, blockOf_argument]
  · rw [read] at mem
    change ref ∈ references (listed deps ++ [.mark ']']) at mem
    obtain ⟨none_, mem⟩ := references_listed deps ref mem
    obtain ⟨path, index⟩ := ref
    obtain rfl : index = none := none_
    exact own path mem

theorem Reads.bucket (named : IsWord name) (same : given .name = name)
    (own : known ⟨"aws_s3_bucket." ++ name ++ ".id", none⟩) (rest : Reads name known kinds ls) :
    Reads name known kinds (written given bucketLine :: ls) := by
  have word : IsWord ("aws_s3_bucket." ++ name ++ ".id") :=
    IsWord.append (IsWord.append (by decide) named) (by decide)
  have begins : Begins "  bucket = " "bucket" := .of (by decide) (fun _ => rfl) (by decide)
  have split : written given bucketLine = "  bucket = ".toList ++ ("aws_s3_bucket." ++ name ++ ".id").toList := by
    rw [bucketLine, written_text, written_hole, written_text, written_nil, List.append_nil, same,
      show "  bucket = aws_s3_bucket." = "  bucket = " ++ "aws_s3_bucket." by decide]
    simp only [String.toList_append, List.append_assoc]
  rw [split]
  refine .argument begins (word_unbroken word) (lexes_word word fun empty => by simp at empty).lex (fun ref mem => ?_) rest
  rw [references] at mem
  split at mem
  · rw [List.mem_singleton.mp mem]
    exact own
  · cases mem

end Arguments

section Templates

structure Given (s : Spec) (name : String) (deps : List String) (given : Hole → String) : Prop where
  named : IsWord name
  same : given .name = name
  input : ∀ key ∈ s.fields, key ≠ "versioning" → given (.property key) = inputAt name key
  tags : ∃ v, given .tags = hcl v
  dependencies : given .dependencies = ", ".intercalate deps
  words : ∀ w ∈ deps, IsWord w ∧ w ≠ ""
  choice : ∀ key ∈ s.fields, ∀ yes no, given (.choice key yes no) = yes ∨ given (.choice key yes no) = no

inductive Known (s : Spec) (name : String) (deps : List String) : Reference → Prop
  | input {key : String} (listed : key ∈ s.fields) : Known s name deps ⟨"var." ++ name, some key⟩
  | dependency {path : String} (listed : path ∈ deps) : Known s name deps ⟨path, none⟩
  | own : Known s name deps ⟨s.terraformType ++ "." ++ name ++ ".id", none⟩

def kindsOf (s : Spec) : List String :=
  if s.terraformType = "aws_s3_bucket" then
    ["aws_s3_bucket", "aws_s3_bucket_public_access_block", "aws_s3_bucket_server_side_encryption_configuration",
      "aws_s3_bucket_versioning"]
  else [s.terraformType]

variable {s : Spec} {name start word key : String} {deps : List String} {given : Hole → String} {kinds : List String}
  {ls : List (List Char)}

def isInput (s : Spec) (key : String) : Bool := s.fields.contains key && decide (IsWord key) && key != "versioning"

theorem Given.value (g : Given s name deps given) (begins : Begins start word) (field : isInput s key = true)
    (rest : Reads name (Known s name deps) kinds ls) :
    Reads name (Known s name deps) kinds (written given (valueLine start key) :: ls) := by
  simp only [isInput, Bool.and_eq_true, List.contains_iff_mem, decide_eq_true_eq, bne_iff_ne] at field
  obtain ⟨⟨listed, plain⟩, other⟩ := field
  exact .value begins g.named plain (g.input key listed other) (.input listed) rest

theorem Given.resource (g : Given s name deps given) {kind : String} (word : IsWord kind)
    (rest : Reads name (Known s name deps) kinds ls) :
    Reads name (Known s name deps) (kind :: kinds) (written given (resourceLine kind) :: ls) :=
  .resource word g.named g.same rest

theorem Given.closing (g : Given s name deps given) (rest : Reads name (Known s name deps) kinds ls) :
    Reads name (Known s name deps) kinds
      (written given tagsLine :: written given dependsOnLine :: written given (fixed "\x7d") :: ls) := by
  obtain ⟨v, tags⟩ := g.tags
  exact .tags tags (.dependsOn g.dependencies g.words (fun w mem => .dependency mem) (.fixed (.of (by decide) rfl) rest))

theorem ec2_reads (g : Given (specOf "compute.aws.instance") name deps given) :
    Reads name (Known (specOf "compute.aws.instance") name deps) ["aws_instance"] (ec2.map (written given)) :=
  g.resource (by decide) <|
  g.value (.of (by decide) (fun _ => rfl) (by decide) : Begins _ "ami") (by decide) <|
  g.value (.of (by decide) (fun _ => rfl) (by decide) : Begins _ "instance_type") (by decide) <|
  g.value (.of (by decide) (fun _ => rfl) (by decide) : Begins _ "subnet_id") (by decide) <|
  .fixed (.of (by decide) rfl) <|
  .fixed (.of (by decide) rfl) <|
  .fixed (.of (by decide) rfl) <|
  g.closing .nil

theorem vpc_reads (g : Given (specOf "network.aws.vpc") name deps given) :
    Reads name (Known (specOf "network.aws.vpc") name deps) ["aws_vpc"] (vpc.map (written given)) :=
  g.resource (by decide) <|
  g.value (.of (by decide) (fun _ => rfl) (by decide) : Begins _ "cidr_block") (by decide) <|
  .fixed (.of (by decide) rfl) <|
  .fixed (.of (by decide) rfl) <|
  g.closing .nil

theorem subnet_reads (g : Given (specOf "network.aws.subnet") name deps given) :
    Reads name (Known (specOf "network.aws.subnet") name deps) ["aws_subnet"] (subnet.map (written given)) :=
  g.resource (by decide) <|
  g.value (.of (by decide) (fun _ => rfl) (by decide) : Begins _ "vpc_id") (by decide) <|
  g.value (.of (by decide) (fun _ => rfl) (by decide) : Begins _ "cidr_block") (by decide) <|
  g.value (.of (by decide) (fun _ => rfl) (by decide) : Begins _ "availability_zone") (by decide) <|
  .fixed (.of (by decide) rfl) <|
  g.closing .nil

theorem securityGroup_reads (g : Given (specOf "network.aws.security_group") name deps given) :
    Reads name (Known (specOf "network.aws.security_group") name deps) ["aws_security_group"]
      (securityGroup.map (written given)) :=
  g.resource (by decide) <|
  g.value (.of (by decide) (fun _ => rfl) (by decide) : Begins _ "vpc_id") (by decide) <|
  g.value (.of (by decide) (fun _ => rfl) (by decide) : Begins _ "description") (by decide) <|
  .fixed (.of (by decide) rfl) <|
  .fixed (.of (by decide) rfl) <|
  g.closing .nil

theorem rds_reads (g : Given (specOf "database.aws.rds") name deps given) :
    Reads name (Known (specOf "database.aws.rds") name deps) ["aws_db_instance"] (rds.map (written given)) :=
  g.resource (by decide) <|
  g.value (.of (by decide) (fun _ => rfl) (by decide) : Begins _ "identifier") (by decide) <|
  g.value (.of (by decide) (fun _ => rfl) (by decide) : Begins _ "engine") (by decide) <|
  g.value (.of (by decide) (fun _ => rfl) (by decide) : Begins _ "engine_version") (by decide) <|
  g.value (.of (by decide) (fun _ => rfl) (by decide) : Begins _ "instance_class") (by decide) <|
  g.value (.of (by decide) (fun _ => rfl) (by decide) : Begins _ "allocated_storage") (by decide) <|
  g.value (.of (by decide) (fun _ => rfl) (by decide) : Begins _ "username") (by decide) <|
  .fixed (.of (by decide) rfl) <|
  .fixed (.of (by decide) rfl) <|
  .fixed (.of (by decide) rfl) <|
  .fixed (.of (by decide) rfl) <|
  .fixed (.of (by decide) rfl) <|
  .fixed (.of (by decide) rfl) <|
  .valueRemarked (.of (by decide) (fun _ => rfl) (by decide) : Begins _ "final_snapshot_identifier") g.named (by decide)
    (g.input "identifier" (by decide) (by decide)) (.input (by decide))
    (by rw [String.toList_ofList]; decide) (by rw [String.toList_ofList]; exact .cons rfl)
    (by rw [String.toList_ofList]; rfl) <|
  g.value (.of (by decide) (fun _ => rfl) (by decide) : Begins _ "db_subnet_group_name") (by decide) <|
  g.value (.of (by decide) (fun _ => rfl) (by decide) : Begins _ "vpc_security_group_ids") (by decide) <|
  g.closing .nil

theorem Given.bucket (g : Given (specOf "storage.aws.s3") name deps given)
    (rest : Reads name (Known (specOf "storage.aws.s3") name deps) kinds ls) :
    Reads name (Known (specOf "storage.aws.s3") name deps) kinds (written given bucketLine :: ls) :=
  .bucket g.named g.same .own rest

theorem Given.versioning (g : Given s name deps given) (listed : "versioning" ∈ s.fields)
    (rest : Reads name (Known s name deps) kinds ls) :
    Reads name (Known s name deps) kinds (written given [.text "  versioning_configuration \x7b status = \"",
      .hole (.choice "versioning" "Enabled" "Suspended"), .text "\" \x7d"] :: ls) := by
  have line : Fixed ("  versioning_configuration \x7b status = \"" ++
      (given (.choice "versioning" "Enabled" "Suspended") ++ "\" \x7d")) := by
    rcases g.choice "versioning" listed "Enabled" "Suspended" with chosen | chosen <;>
    · rw [chosen]
      simp only [String.reduceAppend]
      exact .of (by decide) rfl
  have split : Reads name (Known s name deps) kinds (written given (fixed ("  versioning_configuration \x7b status = \"" ++
      (given (.choice "versioning" "Enabled" "Suspended") ++ "\" \x7d"))) :: ls) := .fixed line rest
  rw [fixed, written_text, written_nil, List.append_nil, String.toList_append, String.toList_append] at split
  rwa [written_text, written_hole, written_text, written_nil, List.append_nil]

theorem s3_reads (g : Given (specOf "storage.aws.s3") name deps given) :
    Reads name (Known (specOf "storage.aws.s3") name deps) (kindsOf (specOf "storage.aws.s3")) (s3.map (written given)) :=
  g.resource (by decide) <|
  g.value (.of (by decide) (fun _ => rfl) (by decide) : Begins _ "bucket") (by decide) <|
  g.closing <|
  g.resource (by decide) <|
  g.bucket <|
  .fixed (.of (by decide) rfl) <|
  .fixed (.of (by decide) rfl) <|
  .fixed (.of (by decide) rfl) <|
  .fixed (.of (by decide) rfl) <|
  .fixed (.of (by decide) rfl) <|
  g.resource (by decide) <|
  g.bucket <|
  .fixed (.of (by decide) rfl) <|
  .fixed (.of (by decide) rfl) <|
  .fixed (.of (by decide) rfl) <|
  .fixed (.of (by decide) rfl) <|
  g.resource (by decide) <|
  g.bucket <|
  g.versioning (by decide) <|
  .fixed (.of (by decide) rfl) .nil

-- Whatever resource of the catalog it is, its template reads as it should.
theorem template_reads {kind : String} (known : (catalog.lookup kind).isSome = true)
    (g : Given (specOf kind) name deps given) :
    ∃ template, assets.lookup (specOf kind).path = some template ∧
      Reads name (Known (specOf kind) name deps) (kindsOf (specOf kind)) (template.map (written given)) := by
  have kinds : kind ∈ catalog.map Prod.fst := List.mem_map.mpr ⟨_, specOf_mem known, rfl⟩
  simp only [catalog, List.map_cons, List.map_nil, List.mem_cons, List.not_mem_nil, or_false] at kinds
  rcases kinds with rfl | rfl | rfl | rfl | rfl | rfl
  · exact ⟨_, rfl, ec2_reads g⟩
  · exact ⟨_, rfl, s3_reads g⟩
  · exact ⟨_, rfl, rds_reads g⟩
  · exact ⟨_, rfl, vpc_reads g⟩
  · exact ⟨_, rfl, subnet_reads g⟩
  · exact ⟨_, rfl, securityGroup_reads g⟩

end Templates

end Provisr.Backend.Terraform
