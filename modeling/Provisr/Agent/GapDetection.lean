import Provisr.Foundation.PyRegex
import Provisr.Agent.Contexts
import Provisr.Foundation.Exceptional

namespace Provisr.Agent

open Provisr.Foundation PyRegex
open Provisr.Contracts (Provider)

variable [PyUnicode]

section Terms

def awsRegions : List String :=
  ["us-east-1", "us-east-2", "us-west-1", "us-west-2", "ap-southeast-1", "ap-southeast-2", "ap-northeast-1",
    "ap-northeast-2", "ap-south-1", "eu-west-1", "eu-west-2", "eu-west-3", "eu-central-1", "eu-north-1", "sa-east-1",
    "ca-central-1", "me-south-1", "af-south-1"]

def ambiguousSize : List String :=
  ["small", "medium", "large", "big", "tiny", "huge", "cheap", "fast", "powerful", "lightweight", "heavy"]

def ambiguousHa : List String :=
  ["high availability", "highly available", "ha setup", "redundant", "fault tolerant", "multi-az", "multi az",
    "failover"]

def knownProviders : List String := ["aws", "azure", "gcp", "google cloud"]

def environmentKeywords : List String :=
  ["dev", "development", "staging", "stage", "prod", "production", "sandbox"]

def regionCodes : List (List Char) := ["us", "eu", "ap", "sa", "ca", "me", "af"].map String.toList

-- (us|eu|ap|sa|ca|me|af)-[a-z]+-[0-9]
def awsRegionPattern : Pattern
  | a :: b :: '-' :: cs =>
    match cs.dropWhile JsText.isLower with
    | '-' :: d :: _ =>
      if regionCodes.contains [a, b] && !(cs.takeWhile JsText.isLower).isEmpty && d.isDigit then
        some (a :: b :: '-' :: cs.takeWhile JsText.isLower ++ ['-', d])
      else none
    | _ => none
  | _ => none

def containsTerm (normalized : String) (terms : List String) : Bool :=
  terms.any fun term => contains (literal term) normalized

def messageMentionsProvider (normalized : String) : Bool := containsTerm normalized knownProviders

def mentionedProviders (normalized : String) : List Provider :=
  (if containsTerm normalized ["aws"] then [.aws] else []) ++
    (if containsTerm normalized ["azure"] then [.azure] else []) ++
    (if containsTerm normalized ["gcp", "google cloud"] then [.gcp] else [])

def messageMentionsEnvironment (normalized : String) : Bool := containsTerm normalized environmentKeywords

def hasAmbiguousSize (normalized : String) : Bool := containsTerm normalized ambiguousSize

def hasAmbiguousHa (normalized : String) : Bool := containsTerm normalized ambiguousHa

def mentionsDatabase (normalized : String) : Bool :=
  containsTerm normalized ["database", "db", "rds", "postgres", "postgresql", "mysql"]

def mentionsDbEngine (normalized : String) : Bool :=
  containsTerm normalized ["postgres", "postgresql", "mysql", "aurora"]

end Terms

section Questions

def questionProvider (connectedProviders : Option (List Provider)) : ClarificationQuestion where
  questionId := "provider"
  questionText := "Which connected cloud provider should host this infrastructure?"
  inputType := .select
  options := match connectedProviders with
    | none | some [] => ["aws"]
    | some providers => providers.map Provider.label
  required := true
  fieldMapping := "provider"

def questionRegion (verifiedRegions : Option (List String)) : ClarificationQuestion where
  questionId := "region"
  questionText := "Which verified cloud region should host this workload?"
  inputType := .select
  options := match verifiedRegions with
    | none | some [] => awsRegions
    | some regions => regions
  required := true
  fieldMapping := "region"

def questionEnvironment : ClarificationQuestion where
  questionId := "environment"
  questionText := "What environment is this for? (development, staging, production, or sandbox)"
  inputType := .select
  options := ["development", "staging", "production", "sandbox"]
  required := true
  fieldMapping := "environment"

def questionInstanceSize : ClarificationQuestion where
  questionId := "instance_size"
  questionText := "You mentioned a size like 'small' or 'large'. Which EC2 instance type best fits your workload? " ++
    "For example: t3.micro, t3.medium, m5.large, or c5.xlarge."
  inputType := .text
  options := []
  required := true
  fieldMapping := "resources[0].instance_type"

def questionHaCount : ClarificationQuestion where
  questionId := "ha_count"
  questionText := "You mentioned high availability. " ++
    "How many instances do you need? (1 = single, 2+ = multi-instance)"
  inputType := .select
  options := ["1", "2", "3", "4", "6"]
  required := false
  fieldMapping := "resources[0].count"

def questionDbEngine : ClarificationQuestion where
  questionId := "db_engine"
  questionText := "Which database engine do you need? (postgres or mysql)"
  inputType := .select
  options := ["postgres", "mysql"]
  required := true
  fieldMapping := "resources[0].engine"

end Questions

def maxClarificationQuestions : Nat := 5

-- The words of the message name a provider outside the allowed ones.
def providerUnavailable (normalized : String) (allowed : Option (List Provider)) : Bool :=
  match allowed with
  | none | some [] => false
  | some providers => (mentionedProviders normalized).any fun p => !providers.contains p

def providerAmbiguous (normalized : String) : Bool := decide (1 < (mentionedProviders normalized).length)

def asksProvider (normalized : String) (answered resolved : List String) (connected : Option (List Provider)) : Bool :=
  ((providerUnavailable normalized connected || providerAmbiguous normalized) && !answered.contains "provider") ||
    (!(answered ++ resolved).contains "provider" && !messageMentionsProvider normalized)

-- The first region that the text names, where it is one of the verified ones.
def mentionsRegion (normalized : String) (verified : Option (List String)) : Bool :=
  match search awsRegionPattern none normalized.toList, verified with
  | none, _ => false
  | some _, none | some _, some [] => true
  | some found, some regions => regions.contains (String.ofList found)

def hasNoPreference (normalized : String) : Bool :=
  ["any region", "no preference", "don't care"].any fun phrase =>
    normalized.toList.tails.any fun cs => phrase.toList.isPrefixOf cs

def checkRegion (normalized : String) (verified : Option (List String)) :
    Except ValidationError (List ClarificationQuestion) :=
  if mentionsRegion normalized verified then return []
  else if hasNoPreference normalized then return []
  else return [← (questionRegion verified).create]

def candidate (asked : Bool) (question : ClarificationQuestion) : Except ValidationError (List ClarificationQuestion) :=
  if asked then return [← question.create] else return []

def regionGap (normalized : String) (fields : List String) (verified : Option (List String)) :
    Except ValidationError (List ClarificationQuestion) :=
  if !fields.contains "region" then checkRegion normalized verified else return []

def detectGaps (message : String) (answeredQuestions : List AnsweredQuestion) (resolvedFields : List String)
    (connectedProviders : Option (List Provider)) (verifiedRegions : Option (List String)) :
    Except ValidationError (List ClarificationQuestion) := do
  let answered := answeredQuestions.map AnsweredQuestion.fieldMapping
  let answeredFields := answered ++ resolvedFields
  let normalized := PyUnicode.lower message
  let provider ← candidate (asksProvider normalized answered resolvedFields connectedProviders)
    (questionProvider connectedProviders)
  let region ← regionGap normalized answeredFields verifiedRegions
  let environment ← candidate (!answeredFields.contains "environment" && !messageMentionsEnvironment normalized)
    questionEnvironment
  let size ← candidate (!answeredFields.contains "resources[0].instance_type" && hasAmbiguousSize normalized)
    questionInstanceSize
  let count ← candidate (!answeredFields.contains "resources[0].count" && hasAmbiguousHa normalized) questionHaCount
  let engine ← candidate (!answeredFields.contains "resources[0].engine" && mentionsDatabase normalized &&
    !mentionsDbEngine normalized) questionDbEngine
  return (provider ++ region ++ environment ++ size ++ count ++ engine).take maxClarificationQuestions

section Context

-- list(dict.fromkeys(xs))
def fromKeys (xs : List String) : List String := xs.eraseDups

def accountRegions (provider : Option String) (accounts : List CloudAccountContext) : List String :=
  (accounts.filter fun a => provider.all (· == a.provider.label)).flatMap CloudAccountContext.supportedRegions

def answeredProvider (answeredQuestions : List AnsweredQuestion) : Option String :=
  (answeredQuestions.reverse.find? fun a => a.fieldMapping == "provider").map AnsweredQuestion.answer

-- `xs or ys`
def orElse (xs ys : List String) : List String := if xs.isEmpty then ys else xs

def contextRegionOptions (context : Option ExecutionContext) (answeredQuestions : List AnsweredQuestion) :
    Option (List String) :=
  match context with
  | none => none
  | some context =>
    let cloud := context.cloudContext
    let regions := orElse (accountRegions (answeredProvider answeredQuestions) cloud.activeAccounts) cloud.regions
    if truthy cloud.defaultRegion then some (fromKeys (cloud.defaultRegion.toList ++ regions))
    else if (fromKeys regions).isEmpty then none
    else some (fromKeys regions)

def contextResolvedFields (context : Option ExecutionContext) : List String :=
  match context with
  | none => []
  | some context =>
    (if context.cloudContext.connectedProviders.length = 1 then ["provider"] else []) ++
      (if truthy context.cloudContext.defaultRegion || ((contextRegionOptions (some context) []).getD []).length = 1 then
        ["region"] else [])

def connectedProviders (context : Option ExecutionContext) : Option (List Provider) :=
  context.map fun c => c.cloudContext.connectedProviders

-- `detect_gaps` as a turn calls it, with the words of all user messages.
def turnGaps (context : Option ExecutionContext) (answeredQuestions : List AnsweredQuestion) (userContext : String) :
    Except ValidationError (List ClarificationQuestion) :=
  detectGaps userContext answeredQuestions (contextResolvedFields context) (connectedProviders context)
    (contextRegionOptions context answeredQuestions)

end Context

section Spec

def Valid (q : ClarificationQuestion) : Prop := ∀ b ∈ q.bounds, b.2 = true

omit [PyUnicode] in
theorem candidate_ok_iff {asked : Bool} {q : ClarificationQuestion} {qs : List ClarificationQuestion} :
    candidate asked q = .ok qs ↔ (asked = true → Valid q) ∧ qs = if asked then [q] else [] := by
  unfold candidate
  cases asked with
  | false =>
    simp only [Bool.false_eq_true, if_false, false_implies, true_and]
    exact ⟨fun run => (Except.ok.inj run).symm, fun same => congrArg Except.ok same.symm⟩
  | true =>
    simp only [if_true, true_implies]
    constructor
    · intro run
      obtain ⟨a, made, same⟩ := except_bind_ok.mp run
      obtain ⟨rfl, valid⟩ := ClarificationQuestion.create_ok_iff.mp made
      exact ⟨valid, (Except.ok.inj same).symm⟩
    · rintro ⟨valid, rfl⟩
      exact except_bind_ok.mpr ⟨q, ClarificationQuestion.create_ok_iff.mpr ⟨rfl, valid⟩, rfl⟩

def asksRegion (normalized : String) (fields : List String) (verified : Option (List String)) : Bool :=
  !fields.contains "region" && !(mentionsRegion normalized verified) && !hasNoPreference normalized

theorem regionGap_eq (normalized : String) (fields : List String) (verified : Option (List String)) :
    regionGap normalized fields verified =
      candidate (asksRegion normalized fields verified) (questionRegion verified) := by
  unfold regionGap checkRegion asksRegion candidate
  cases fields.contains "region" <;> cases mentionsRegion normalized verified <;> cases hasNoPreference normalized <;> rfl

-- The questions of a pass in the order of their priority, before only the first ones are kept.
def candidates (normalized : String) (answered resolved : List String) (connected : Option (List Provider))
    (verified : Option (List String)) : List (Bool × ClarificationQuestion) :=
  let fields := answered ++ resolved
  [(asksProvider normalized answered resolved connected, questionProvider connected),
    (asksRegion normalized fields verified, questionRegion verified),
    (!fields.contains "environment" && !messageMentionsEnvironment normalized, questionEnvironment),
    (!fields.contains "resources[0].instance_type" && hasAmbiguousSize normalized, questionInstanceSize),
    (!fields.contains "resources[0].count" && hasAmbiguousHa normalized, questionHaCount),
    (!fields.contains "resources[0].engine" && mentionsDatabase normalized && !mentionsDbEngine normalized,
      questionDbEngine)]

def asked (cs : List (Bool × ClarificationQuestion)) : List ClarificationQuestion := (cs.filter Prod.fst).map Prod.snd

def priority : List String :=
  ["provider", "region", "environment", "resources[0].instance_type", "resources[0].count", "resources[0].engine"]

variable {normalized : String} {answered resolved : List String} {connected : Option (List Provider)}
  {verified : Option (List String)}

theorem candidates_priority :
    (candidates normalized answered resolved connected verified).map (fun c => c.2.fieldMapping) = priority := rfl

omit [PyUnicode] in
theorem asked_cons (b : Bool) (q : ClarificationQuestion) (cs : List (Bool × ClarificationQuestion)) :
    asked ((b, q) :: cs) = (if b then [q] else []) ++ asked cs := by
  cases b <;> rfl

omit [PyUnicode] in
theorem valid_iff (q : ClarificationQuestion) {id text mapping : Nat} (hid : q.questionId.length = id)
    (htext : q.questionText.length = text) (hmapping : q.fieldMapping.length = mapping)
    (fits : 1 ≤ id ∧ id ≤ 64 ∧ 1 ≤ text ∧ text ≤ 500 ∧ 1 ≤ mapping ∧ mapping ≤ 128) :
    Valid q ↔ q.options.length ≤ 50 := by
  subst hid htext hmapping
  obtain ⟨h1, h2, h3, h4, h5, h6⟩ := fits
  simp [Valid, ClarificationQuestion.bounds, h1, h2, h3, h4, h5, h6]

omit [PyUnicode] in
theorem questionProvider_valid : Valid (questionProvider connected) ↔ (connected.getD []).length ≤ 50 := by
  rw [valid_iff (questionProvider _) String.length_ofList String.length_ofList String.length_ofList (by decide)]
  unfold questionProvider
  cases connected with
  | none => decide
  | some ps =>
    cases ps with
    | nil => decide
    | cons p ps => simp

omit [PyUnicode] in
theorem questionRegion_valid : Valid (questionRegion verified) ↔ (verified.getD []).length ≤ 50 := by
  rw [valid_iff (questionRegion _) String.length_ofList String.length_ofList String.length_ofList (by decide)]
  unfold questionRegion
  cases verified with
  | none => decide
  | some rs =>
    cases rs with
    | nil => decide
    | cons r rs => simp

theorem detectGaps_ok_iff {message : String} {answers : List AnsweredQuestion} {qs : List ClarificationQuestion} :
    detectGaps message answers resolved connected verified = .ok qs ↔
      (∀ c ∈ candidates (PyUnicode.lower message) (answers.map AnsweredQuestion.fieldMapping) resolved connected verified,
        c.1 = true → Valid c.2) ∧
      qs = (asked (candidates (PyUnicode.lower message) (answers.map AnsweredQuestion.fieldMapping) resolved connected
        verified)).take maxClarificationQuestions := by
  unfold detectGaps candidates
  simp only [regionGap_eq, except_bind_ok, candidate_ok_iff, List.forall_mem_cons, List.not_mem_nil, false_implies,
    implies_true, and_true, asked_cons]
  constructor
  · rintro ⟨_, ⟨v1, rfl⟩, _, ⟨v2, rfl⟩, _, ⟨v3, rfl⟩, _, ⟨v4, rfl⟩, _, ⟨v5, rfl⟩, _, ⟨v6, rfl⟩, same⟩
    refine ⟨⟨v1, v2, v3, v4, v5, v6⟩, ?_⟩
    rw [← Except.ok.inj same]
    simp [asked]
  · rintro ⟨⟨v1, v2, v3, v4, v5, v6⟩, rfl⟩
    refine ⟨_, ⟨v1, rfl⟩, _, ⟨v2, rfl⟩, _, ⟨v3, rfl⟩, _, ⟨v4, rfl⟩, _, ⟨v5, rfl⟩, _, ⟨v6, rfl⟩, ?_⟩
    refine congrArg Except.ok ?_
    simp [asked]

theorem candidates_valid_iff :
    (∀ c ∈ candidates normalized answered resolved connected verified, c.1 = true → Valid c.2) ↔
      (asksProvider normalized answered resolved connected = true → (connected.getD []).length ≤ 50) ∧
        (asksRegion normalized (answered ++ resolved) verified = true → (verified.getD []).length ≤ 50) := by
  have environment : Valid questionEnvironment :=
    (valid_iff questionEnvironment String.length_ofList String.length_ofList
      String.length_ofList (by decide)).mpr (by decide)
  have size : Valid questionInstanceSize :=
    (valid_iff questionInstanceSize String.length_ofList (JsText.length_append String.length_ofList String.length_ofList)
      String.length_ofList (by decide)).mpr (by decide)
  have count : Valid questionHaCount :=
    (valid_iff questionHaCount String.length_ofList (JsText.length_append String.length_ofList String.length_ofList)
      String.length_ofList (by decide)).mpr (by decide)
  have engine : Valid questionDbEngine :=
    (valid_iff questionDbEngine String.length_ofList String.length_ofList
      String.length_ofList (by decide)).mpr (by decide)
  unfold candidates
  simp only [List.forall_mem_cons, List.not_mem_nil, false_implies, implies_true, and_true, questionProvider_valid,
    questionRegion_valid, environment, size, count, engine]

omit [PyUnicode] in
theorem asked_sublist (cs : List (Bool × ClarificationQuestion)) :
    ((asked cs).map ClarificationQuestion.fieldMapping).Sublist (cs.map fun c => c.2.fieldMapping) := by
  unfold asked
  rw [List.map_map]
  exact List.filter_sublist.map _

omit [PyUnicode] in
theorem mem_asked {cs : List (Bool × ClarificationQuestion)} {q : ClarificationQuestion} :
    q ∈ asked cs ↔ (true, q) ∈ cs := by
  simp [asked]

theorem asked_reason {q : ClarificationQuestion}
    (mem : q ∈ asked (candidates normalized answered resolved connected verified)) :
    (q = questionProvider connected ∧ asksProvider normalized answered resolved connected = true) ∨
      (q.fieldMapping ≠ "provider" ∧ q.fieldMapping ∉ answered ++ resolved) := by
  rw [mem_asked] at mem
  simp only [candidates, List.mem_cons, Prod.mk.injEq, List.not_mem_nil, or_false] at mem
  rcases mem with ⟨asks, rfl⟩ | ⟨asks, rfl⟩ | ⟨asks, rfl⟩ | ⟨asks, rfl⟩ | ⟨asks, rfl⟩ | ⟨asks, rfl⟩
  · exact .inl ⟨rfl, asks.symm⟩
  all_goals
    refine .inr ⟨by simp [questionRegion, questionEnvironment, questionInstanceSize, questionHaCount, questionDbEngine],
      fun known => ?_⟩
    have listed := List.contains_iff_mem.mpr known
    simp only [questionRegion, questionEnvironment, questionInstanceSize, questionHaCount, questionDbEngine] at listed
    simp only [asksRegion, listed, Bool.not_true, Bool.false_and, Bool.true_eq_false] at asks

end Spec

section Turn

variable {context : Option ExecutionContext} {answers : List AnsweredQuestion} {text : String}
  {qs : List ClarificationQuestion}

-- The context leaves one provider, or one region, to choose from.
def Fixed (context : Option ExecutionContext) (field : String) : Prop :=
  ∃ c ∈ context,
    (field = "provider" ∧ ∃ p, ∀ x ∈ c.cloudContext.connectedProviders, x = p) ∨
      (field = "region" ∧ (truthy c.cloudContext.defaultRegion = true ∨
        ∃ r, ∀ x ∈ (contextRegionOptions (some c) []).getD [], x = r))

-- The text names a provider that is not connected, or a second one.
def namesOther (context : Option ExecutionContext) (text : String) : Bool :=
  providerUnavailable (PyUnicode.lower text) (connectedProviders context) || providerAmbiguous (PyUnicode.lower text)

structure WellFormed (context : Option ExecutionContext) (answers : List AnsweredQuestion) (text : String)
    (qs : List ClarificationQuestion) : Prop where
  few : qs.length ≤ 5
  distinct : (qs.map ClarificationQuestion.fieldMapping).Nodup
  unanswered : ∀ q ∈ qs, q.fieldMapping ∉ answers.map AnsweredQuestion.fieldMapping
  unfixed : ∀ q ∈ qs, Fixed context q.fieldMapping → q.fieldMapping = "provider" ∧ namesOther context text = true
  ordered : (qs.map ClarificationQuestion.fieldMapping).Sublist priority
  selectable : ∀ q ∈ qs, q.inputType = .select → q.options ≠ []

-- A question about the provider, or the region, that has to be asked can be.
structure Presentable (context : Option ExecutionContext) (answers : List AnsweredQuestion) (text : String) : Prop where
  provider : asksProvider (PyUnicode.lower text) (answers.map AnsweredQuestion.fieldMapping)
      (contextResolvedFields context) (connectedProviders context) = true →
    ((connectedProviders context).getD []).length ≤ 50 ∧
      (namesOther context text = true ∨ ∀ c ∈ context, ∃ p ∈ c.cloudContext.connectedProviders,
        ∃ q ∈ c.cloudContext.connectedProviders, p ≠ q)
  region : asksRegion (PyUnicode.lower text) (answers.map AnsweredQuestion.fieldMapping ++ contextResolvedFields context)
      (contextRegionOptions context answers) = true →
    ((contextRegionOptions context answers).getD []).length ≤ 50

omit [PyUnicode] in
theorem fromKeys_single {xs : List String} {r : String} (nonempty : xs ≠ []) (same : ∀ x ∈ fromKeys xs, x = r) :
    (fromKeys xs).length = 1 := by
  cases xs with
  | nil => exact absurd rfl nonempty
  | cons a xs =>
    unfold fromKeys at same ⊢
    rw [List.eraseDups_cons] at same ⊢
    have rest : (xs.filter fun b => !b == a).eraseDups = [] := by
      refine List.eq_nil_iff_forall_not_mem.mpr fun b mem => ?_
      have other := List.mem_filter.mp (List.mem_eraseDups.mp mem)
      have equal := (same b (List.mem_cons_of_mem _ mem)).trans (same a List.mem_cons_self).symm
      simp [equal] at other
    rw [rest]
    rfl

omit [PyUnicode] in
theorem orElse_ne_nil {xs ys : List String} (nonempty : ys ≠ []) : orElse xs ys ≠ [] := by
  unfold orElse
  split
  · exact nonempty
  · rename_i given
    exact fun empty => given (List.isEmpty_iff.mpr empty)

omit [PyUnicode] in
theorem fixed_region (fixed : Fixed context "region") : "region" ∈ contextResolvedFields context := by
  obtain ⟨c, rfl, ⟨other, -⟩ | ⟨-, given | ⟨r, same⟩⟩⟩ := fixed
  · exact absurd other (by decide)
  · simp [contextResolvedFields, given]
  · cases given : truthy c.cloudContext.defaultRegion with
    | true => simp [contextResolvedFields, given]
    | false =>
      have regions : orElse (accountRegions (answeredProvider []) c.cloudContext.activeAccounts)
          c.cloudContext.regions ≠ [] :=
        orElse_ne_nil c.cloudContext.regions_some
      have single : ((contextRegionOptions (some c) []).getD []).length = 1 := by
        unfold contextRegionOptions at same ⊢
        simp only [given, Bool.false_eq_true, if_false] at same ⊢
        split
        · rename_i empty
          rw [List.isEmpty_iff] at empty
          cases listed : orElse (accountRegions (answeredProvider []) c.cloudContext.activeAccounts)
              c.cloudContext.regions with
          | nil => exact absurd listed regions
          | cons a rs =>
            rw [listed, fromKeys, List.eraseDups_cons] at empty
            cases empty
        · rename_i some
          rw [if_neg some] at same
          exact fromKeys_single regions same
      simp [contextResolvedFields, single]

omit [PyUnicode] in
theorem fixed_provider (fixed : Fixed context "provider") :
    ∃ c ∈ context, ∃ p, ∀ x ∈ c.cloudContext.connectedProviders, x = p := by
  obtain ⟨c, rfl, ⟨-, same⟩ | ⟨other, -⟩⟩ := fixed
  · exact ⟨c, rfl, same⟩
  · exact absurd other (by decide)

omit [PyUnicode] in
theorem fixed_field {field : String} (fixed : Fixed context field) : field = "provider" ∨ field = "region" := by
  obtain ⟨c, -, ⟨provider, -⟩ | ⟨region, -⟩⟩ := fixed
  · exact .inl provider
  · exact .inr region

theorem candidates_select {normalized : String} {answered resolved : List String} {connected : Option (List Provider)}
    {verified : Option (List String)} {q : ClarificationQuestion}
    (mem : q ∈ asked (candidates normalized answered resolved connected verified)) (select : q.inputType = .select) :
    q.options ≠ [] := by
  rw [mem_asked] at mem
  simp only [candidates, List.mem_cons, Prod.mk.injEq, List.not_mem_nil, or_false] at mem
  rcases mem with ⟨-, rfl⟩ | ⟨-, rfl⟩ | ⟨-, rfl⟩ | ⟨-, rfl⟩ | ⟨-, rfl⟩ | ⟨-, rfl⟩
  · unfold questionProvider
    cases connected with
    | none => simp
    | some ps => cases ps <;> simp
  · unfold questionRegion
    cases verified with
    | none => simp [awsRegions]
    | some rs => cases rs <;> simp [awsRegions]
  · simp [questionEnvironment]
  · simp [questionInstanceSize] at select
  · simp [questionHaCount]
  · simp [questionDbEngine]

theorem turn_questions (run : turnGaps context answers text = .ok qs) (presentable : Presentable context answers text) :
    WellFormed context answers text qs := by
  obtain ⟨-, rfl⟩ := detectGaps_ok_iff.mp run
  have ordered := (((List.take_sublist maxClarificationQuestions (asked (candidates (PyUnicode.lower text)
    (answers.map AnsweredQuestion.fieldMapping) (contextResolvedFields context) (connectedProviders context)
    (contextRegionOptions context answers)))).map ClarificationQuestion.fieldMapping).trans (asked_sublist _))
  rw [candidates_priority] at ordered
  refine ⟨List.length_take_le _ _, ordered.nodup (by decide), fun q mem => ?_, fun q mem fixed => ?_, ordered,
    fun q mem => candidates_select (List.mem_of_mem_take mem)⟩
  · rcases asked_reason (List.mem_of_mem_take mem) with ⟨rfl, asks⟩ | ⟨-, free⟩
    · intro known
      have listed : (answers.map AnsweredQuestion.fieldMapping).contains "provider" = true :=
        List.contains_iff_mem.mpr known
      have listed' : (answers.map AnsweredQuestion.fieldMapping ++ contextResolvedFields context).contains "provider" =
          true :=
        List.contains_iff_mem.mpr (List.mem_append_left _ known)
      simp only [asksProvider, listed, listed', Bool.not_true, Bool.and_false, Bool.false_and, Bool.or_false,
        Bool.false_eq_true] at asks
    · exact fun known => free (List.mem_append_left _ known)
  · rcases asked_reason (List.mem_of_mem_take mem) with ⟨rfl, asks⟩ | ⟨other, free⟩
    · refine ⟨rfl, ?_⟩
      obtain ⟨-, named | several⟩ := presentable.provider asks
      · exact named
      · obtain ⟨c, given, p, same⟩ := fixed_provider fixed
        obtain ⟨x, mx, y, my, differ⟩ := several c given
        exact absurd ((same x mx).trans (same y my).symm) differ
    · rcases fixed_field fixed with provider | region
      · exact absurd provider other
      · rw [region] at fixed free
        exact absurd (List.mem_append_right _ (fixed_region fixed)) free

theorem turn_presentable (run : turnGaps context answers text = .ok qs) (formed : WellFormed context answers text qs) :
    Presentable context answers text := by
  obtain ⟨valid, same⟩ := detectGaps_ok_iff.mp run
  obtain ⟨provider, region⟩ := candidates_valid_iff.mp valid
  refine ⟨fun asks => ⟨provider asks, ?_⟩, region⟩
  cases named : namesOther context text with
  | true => exact .inl rfl
  | false =>
    refine .inr fun c given => ?_
    have first : questionProvider (connectedProviders context) ∈ qs := by
      rw [same, candidates, asks, asked_cons]
      exact List.mem_cons_self
    by_contra one
    have fixed : Fixed context "provider" := by
      refine ⟨c, given, .inl ⟨rfl, ?_⟩⟩
      obtain ⟨p, rest, listed⟩ := List.exists_cons_of_ne_nil c.cloudContext.connected
      refine ⟨p, fun x mem => ?_⟩
      by_contra differ
      exact one ⟨x, mem, p, by simp [listed], differ⟩
    have other := (formed.unfixed _ first fixed).2
    rw [named] at other
    cases other

theorem gap_detection : (∃ qs, turnGaps context answers text = .ok qs ∧ WellFormed context answers text qs) ↔
    Presentable context answers text := by
  constructor
  · rintro ⟨qs, run, formed⟩
    exact turn_presentable run formed
  · intro presentable
    have valid := candidates_valid_iff.mpr ⟨fun asks => (presentable.provider asks).1, presentable.region⟩
    have run := detectGaps_ok_iff.mpr ⟨valid, rfl⟩
    exact ⟨_, run, turn_questions run presentable⟩

end Turn

section Example

def manyRegions : CloudContext where
  connectedProviders := [.aws]
  providers := []
  regions := (List.range 51).map fun i => "region-" ++ toString i
  existingResources := []
  defaultRegion := none
  activeAccounts := []
  connected := nofun
  same_providers := fun some => absurd rfl some
  same_accounts := fun some => absurd rfl some
  regions_some := by simp [List.range_succ]
  default_verified := nofun

def manyRegionsContext : ExecutionContext :=
  ⟨"8b8c64dc-6607-4a45-aa71-f51b2d381cdf", ⟨true, [], none, [], [], false, false⟩, manyRegions, nofun⟩

omit [PyUnicode] in
theorem many_regions_raise : ¬ ∀ [PyUnicode] (context : Option ExecutionContext) (answers : List AnsweredQuestion)
    (text : String), ∃ qs, turnGaps context answers text = .ok qs ∧ WellFormed context answers text qs := by
  intro claim
  let _ : PyUnicode := asciiPython
  obtain ⟨qs, run, -⟩ := claim (some manyRegionsContext) [] "a server for production"
  have refused : turnGaps (some manyRegionsContext) [] "a server for production" = .error ⟨"options"⟩ := by
    decide
  rw [refused] at run
  cases run

end Example

end Provisr.Agent
