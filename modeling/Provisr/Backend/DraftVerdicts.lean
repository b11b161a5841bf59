import Provisr.Backend.DraftStore
import Provisr.Foundation.JsNumber
import Provisr.Foundation.Transcripts

namespace Provisr.Backend.Manifest

open Provisr.Foundation
open Provisr.Orchestrator (Platform)

section Replies

structure ManifestValidationError where
  field : String
  code : String
  message : String
  allowedValues : Option (List JsJson) := none

def ManifestValidationError.body (e : ManifestValidationError) : JsJson :=
  .obj [("field", .str e.field), ("code", .str e.code), ("message", .str e.message),
    ("allowed_values", (e.allowedValues.map Json.arr).getD .null)]

-- What both tools send: a verdict, valid where there are no errors.
def verdictBody (errors : List JsJson) : JsJson := .obj [("valid", .bool errors.isEmpty), ("errors", .arr errors)]

def responseLimit : Nat := 2 ^ 20

def decodeError : JsJson → Option String
  | .str s => some s
  | .null => some ""
  | _ => none

-- A text that is longer than the reader's limit ends before its object does.
def decodeVerdict (errors : List JsJson) : Option Validation :=
  if (Json.stringify (verdictBody errors)).utf8ByteSize ≤ responseLimit then
    (errors.mapM decodeError).map fun texts => ⟨errors.isEmpty, texts⟩
  else none

-- The errors of the tools' answers, or nothing where a tool does not answer with status 200.
structure Answers where
  manifest : Option (List ManifestValidationError)
  schema : Option (List String)

variable (answers : Answers)

def Answers.sent (tool : String) : Option (List JsJson) :=
  if tool = "validate_manifest" then answers.manifest.map fun errors => errors.map ManifestValidationError.body
  else answers.schema.map fun errors => errors.map Json.str

def Answers.reply (tool : String) : Except SqlError Validation :=
  match (answers.sent tool).bind decodeVerdict with
  | some result => .ok result
  | none => .error .other

def Answers.Rejects : Prop := (∃ e es, answers.manifest = some (e :: es)) ∨ ∃ e es, answers.schema = some (e :: es)

def Answers.errorCount : Nat :=
  match answers.manifest with
  | some (e :: es) => (e :: es).length
  | _ => (answers.schema.getD []).length

def Answers.Readable : Prop :=
  answers.manifest = some [] ∧ ∃ errors, answers.schema = some errors ∧
    (Json.stringify (verdictBody (errors.map Json.str))).utf8ByteSize ≤ responseLimit

def Answers.Given : Obs Ret → Prop
  | ⟨.validator tool, r⟩ => r = answers.reply tool
  | _ => True

theorem mapM_str (errors : List String) : (errors.map Json.str).mapM decodeError = some errors := by
  induction errors with
  | nil => rfl
  | cons e es ih =>
    rw [List.map_cons, List.mapM_cons, ih]
    rfl

theorem decode_objects (e : ManifestValidationError) (es : List ManifestValidationError) :
    decodeVerdict ((e :: es).map ManifestValidationError.body) = none := by
  have first : ((e :: es).map ManifestValidationError.body).mapM decodeError = none := by
    rw [List.map_cons, List.mapM_cons]
    rfl
  unfold decodeVerdict
  rw [first]
  split <;> rfl

theorem decode_texts (errors : List String)
    (fits : (Json.stringify (verdictBody (errors.map Json.str))).utf8ByteSize ≤ responseLimit) :
    decodeVerdict (errors.map Json.str) = some ⟨(errors.map (Json.str (ν := JsNumber))).isEmpty, errors⟩ := by
  unfold decodeVerdict
  rw [if_pos fits, mapM_str]
  rfl

theorem empty_fits : (Json.stringify (verdictBody [])).utf8ByteSize ≤ responseLimit := by decide

theorem reply_sent {tool : String} {errors : List JsJson} (sent : answers.sent tool = some errors) :
    answers.reply tool = (decodeVerdict errors).elim (.error .other) .ok := by
  unfold Answers.reply
  rw [sent, Option.bind_some]
  cases decodeVerdict errors <;> rfl

theorem reply_manifest_nil (accepts : answers.manifest = some []) :
    answers.reply "validate_manifest" = .ok ⟨true, []⟩ := by
  have sent : answers.sent "validate_manifest" = some ([] : List JsJson) := by
    rw [Answers.sent, if_pos rfl, accepts]
    rfl
  have decoded : decodeVerdict [] = some ⟨true, []⟩ := decode_texts [] empty_fits
  rw [reply_sent answers sent, decoded]
  rfl

theorem reply_manifest_cons {e : ManifestValidationError} {es : List ManifestValidationError}
    (rejects : answers.manifest = some (e :: es)) : answers.reply "validate_manifest" = .error .other := by
  have sent : answers.sent "validate_manifest" = some ((e :: es).map ManifestValidationError.body) := by
    rw [Answers.sent, if_pos rfl, rejects]
    rfl
  rw [reply_sent answers sent, decode_objects]
  rfl

theorem reply_manifest_none (absent : answers.manifest = none) :
    answers.reply "validate_manifest" = .error .other := by
  have sent : answers.sent "validate_manifest" = none := by
    rw [Answers.sent, if_pos rfl, absent]
    rfl
  rw [Answers.reply, sent]
  rfl

theorem reply_schema {e : String} {es : List String} (rejects : answers.schema = some (e :: es)) :
    answers.reply "validate_manifest_schema" =
      if (Json.stringify (verdictBody ((e :: es).map Json.str))).utf8ByteSize ≤ responseLimit then .ok ⟨false, e :: es⟩
      else .error .other := by
  have sent : answers.sent "validate_manifest_schema" = some ((e :: es).map Json.str) := by
    rw [Answers.sent, if_neg (by decide), rejects]
    rfl
  rw [reply_sent answers sent]
  split
  · rename_i fits
    rw [decode_texts (e :: es) fits]
    rfl
  · rename_i long
    rw [decodeVerdict, if_neg long]
    rfl

end Replies

section Endpoints

inductive Response where
  | verdict (status : Nat) (valid : Bool) (errors : List String)
  | version (status version : Nat)
  | message (status : Nat) (message : String)
  deriving DecidableEq

inductive Endpoint where
  | validate
  | store
  deriving DecidableEq

def draftServer.validate (incoming : Incoming) : Prog Ret Outcome :=
  readRequest incoming fun body => validateDraft body (.pure .done)

def Endpoint.program [Platform] (incoming : Incoming) (tag : Nat) : Endpoint → Prog Ret Outcome
  | .validate => draftServer.validate incoming
  | .store => draftServer.store tag incoming

def Endpoint.rejected : Endpoint → Nat
  | .validate => 200
  | .store => 422

-- The other outcomes are not of this server.
def Endpoint.respond (e : Endpoint) : Outcome → Option Response
  | .invalid errors => some (.verdict e.rejected false errors)
  | .refused status message => some (.message status message)
  | .done => if e = .validate then some (.verdict 200 true []) else none
  | .stored version => if e = .store then some (.version 201 version) else none
  | .existing version => if e = .store then some (.version 200 version) else none
  | .created _ | .returned _ | .failed _ => none

def Op.asks : Op → Bool
  | .validator _ => true
  | _ => false

def Op.writes : Op → Bool
  | .insert _ | .audit _ | .write _ => true
  | _ => false

def Asked (seen : List (Obs Ret)) : Prop := ∃ obs ∈ seen, obs.1.asks = true

structure Verdict (answers : Answers) (e : Endpoint) (seen : List (Obs Ret)) (o : Outcome) : Prop where
  response : ∃ errors, e.respond o = some (.verdict e.rejected false errors) ∧ errors.length = answers.errorCount
  silent : ∀ obs ∈ seen, obs.1.writes = false

structure Outage (e : Endpoint) (seen : List (Obs Ret)) (o : Outcome) : Prop where
  response : e.respond o = some (.message 503 "Manifest validation unavailable")
  silent : ∀ obs ∈ seen, obs.1.writes = false

theorem Outage.not_verdict {answers : Answers} {e : Endpoint} {seen : List (Obs Ret)} {o : Outcome}
    (h : Outage e seen o) : ¬ Verdict answers e seen o := by
  rintro ⟨⟨errors, response, -⟩, -⟩
  cases h.response.symm.trans response

end Endpoints

section Runs

variable {answers : Answers} {e : Endpoint} {seen : List (Obs Ret)}

def Judged (answers : Answers) (e : Endpoint) (seen : List (Obs Ret)) (o : Outcome) : Prop :=
  Asked seen → answers.Readable ∧ Verdict answers e seen o ∨ ¬ answers.Readable ∧ Outage e seen o

def Quiet (seen : List (Obs Ret)) : Prop := ∀ obs ∈ seen, obs.1.asks = false ∧ obs.1.writes = false

theorem Quiet.judged (h : Quiet seen) (o : Outcome) : Judged answers e seen o := by
  rintro ⟨obs, mem, asks⟩
  rw [(h obs mem).1] at asks
  cases asks

theorem Quiet.snoc {o : Op} {r : Ret o} (h : Quiet seen) (quiet : o.asks = false ∧ o.writes = false) :
    Quiet (seen ++ [⟨o, r⟩]) := by
  intro obs mem
  rcases List.mem_append.mp mem with mem | mem
  · exact h obs mem
  · rw [List.mem_singleton.mp mem]
    exact quiet

theorem silent_snoc {tool : String} {r : Ret (.validator tool)} (h : ∀ obs ∈ seen, obs.1.writes = false) :
    ∀ obs ∈ seen ++ [⟨.validator tool, r⟩], obs.1.writes = false := by
  intro obs mem
  rcases List.mem_append.mp mem with mem | mem
  · exact h obs mem
  · rw [List.mem_singleton.mp mem]
    rfl

abbrev Tells (answers : Answers) (e : Endpoint) (seen : List (Obs Ret)) (p : Prog Ret Outcome) : Prop :=
  p.wp (fun _ _ => True) (fun _ o r => answers.Given ⟨o, r⟩) (Judged answers e) seen

theorem statement_tells {o : Op} {failure : Outcome} {next : Answer o → Prog Ret Outcome} (clean : Quiet seen)
    (quiet : o.asks = false ∧ o.writes = false)
    (rest : ∀ a seen', Quiet seen' → Tells answers e seen' (next a)) :
    Tells answers e seen (statement o failure next) := by
  refine ⟨trivial, fun r _ => ?_⟩
  cases r with
  | ok a => exact rest a _ (clean.snoc quiet)
  | error _ => exact (clean.snoc quiet).judged failure

theorem refused_judged (unreadable : ¬ answers.Readable) (silent : ∀ obs ∈ seen, obs.1.writes = false) :
    Judged answers e seen (.refused 503 "Manifest validation unavailable") :=
  fun _ => Or.inr ⟨unreadable, rfl, silent⟩

theorem schema_tells {next : Prog Ret Outcome} (accepts : answers.manifest = some []) (rejects : answers.Rejects)
    (silent : ∀ obs ∈ seen, obs.1.writes = false) :
    Tells answers e seen (runTools next ["validate_manifest_schema"]) := by
  obtain ⟨x, xs, answered⟩ : ∃ x xs, answers.schema = some (x :: xs) := by
    obtain ⟨x, xs, answered⟩ | found := rejects
    · cases accepts.symm.trans answered
    · exact found
  refine ⟨trivial, fun r given => ?_⟩
  have reply : r = answers.reply "validate_manifest_schema" := given
  rw [reply_schema answers answered] at reply
  split at reply
  · rename_i fits
    rw [reply]
    refine fun _ => Or.inl ⟨⟨accepts, _, answered, fits⟩, ⟨_, rfl, ?_⟩, silent_snoc silent⟩
    unfold Answers.errorCount
    rw [accepts, answered]
    rfl
  · rename_i long
    rw [reply]
    refine refused_judged ?_ (silent_snoc silent)
    rintro ⟨-, errors, answered', fits⟩
    rw [Option.some.inj (answered'.symm.trans answered)] at fits
    exact long fits

theorem runTools_tells {next : Prog Ret Outcome} (rejects : answers.Rejects) (clean : Quiet seen) :
    Tells answers e seen (runTools next ["validate_manifest", "validate_manifest_schema"]) := by
  have silent : ∀ obs ∈ seen, obs.1.writes = false := fun obs mem => (clean obs mem).2
  refine ⟨trivial, fun r given => ?_⟩
  have reply : r = answers.reply "validate_manifest" := given
  cases answered : answers.manifest with
  | none =>
    rw [reply, reply_manifest_none answers answered]
    refine refused_judged ?_ (silent_snoc silent)
    rintro ⟨accepts, -⟩
    cases answered.symm.trans accepts
  | some errors =>
    cases errors with
    | nil =>
      rw [reply, reply_manifest_nil answers answered]
      exact schema_tells answered rejects (silent_snoc silent)
    | cons x xs =>
      rw [reply, reply_manifest_cons answers answered]
      refine refused_judged ?_ (silent_snoc silent)
      rintro ⟨accepts, -⟩
      cases answered.symm.trans accepts

theorem validateDraft_tells {body : DraftRequest} {next : Prog Ret Outcome} (rejects : answers.Rejects)
    (clean : Quiet seen) : Tells answers e seen (validateDraft body next) := by
  refine statement_tells clean ⟨rfl, rfl⟩ fun found seen clean => ?_
  cases found with
  | none => exact clean.judged _
  | some run =>
    change Tells answers e seen (if snapshotMatches body run then _ else _)
    split
    · exact runTools_tells rejects clean
    · exact clean.judged _

theorem readRequest_tells {incoming : Incoming} {next : DraftRequest → Prog Ret Outcome}
    (rest : ∀ body seen, Quiet seen → Tells answers e seen (next body)) :
    Tells answers e [] (readRequest incoming next) := by
  have clean : Quiet [] := fun obs mem => absurd mem List.not_mem_nil
  cases incoming with
  | unauthorized | malformed => exact clean.judged _
  | request body =>
    unfold readRequest
    dsimp only
    split
    · exact clean.judged _
    · split
      · exact clean.judged _
      · refine statement_tells clean ⟨rfl, rfl⟩ fun authorized seen clean => ?_
        cases authorized with
        | false => exact clean.judged _
        | true => exact rest body seen clean

theorem replayDraft_tells {body : DraftRequest} {version : Nat} {sameContent : Bool} (clean : Quiet seen) :
    Tells answers e seen (replayDraft body version sameContent) := by
  cases sameContent with
  | false => exact clean.judged _
  | true => exact statement_tells clean ⟨rfl, rfl⟩ fun owned seen clean => clean.judged _

variable [Platform]

theorem endpoint_tells (rejects : answers.Rejects) (incoming : Incoming) (tag : Nat) :
    Tells answers e [] (e.program incoming tag) := by
  cases e with
  | validate => exact readRequest_tells fun body seen clean => validateDraft_tells rejects clean
  | store =>
    refine readRequest_tells fun body seen clean => statement_tells clean ⟨rfl, rfl⟩ fun found seen clean => ?_
    cases found with
    | none => exact validateDraft_tells rejects clean
    | some stored => exact replayDraft_tells clean

end Runs

-- The tools themselves, with what jsonschema and pydantic say of a draft, what is checked of a draft that
-- they accept, and the verdict of the backend's validator.
section Tools

structure DraftChecks where
  validateSchema : JsJson → List String
  validateContext : JsFields → (cloud policy : JsJson) → (workspaceId : String) → List String
  validateManifest : JsFields → Option (List ManifestValidationError)

structure DraftPayload where
  manifest : JsJson
  cloudContext : JsJson
  policyContext : JsJson
  workspaceId : String

variable (checks : DraftChecks) (payload : DraftPayload)

def validateContextualManifest (manifest : JsFields) : List String :=
  match checks.validateSchema (.obj manifest) with
  | [] => checks.validateContext manifest payload.cloudContext payload.policyContext payload.workspaceId
  | errors => errors

def invalidDraft (error : String) : ManifestValidationError := ⟨"manifest", "invalid_draft", error, none⟩

def validateManifestTool : Option (List ManifestValidationError) :=
  match payload.manifest with
  | .obj manifest =>
    match validateContextualManifest checks payload manifest with
    | [] => checks.validateManifest manifest
    | errors => some (errors.map invalidDraft)
  | _ => none

def validateManifestSchema : Option (List String) := some (checks.validateSchema payload.manifest)

def toolAnswers : Answers := ⟨validateManifestTool checks payload, validateManifestSchema checks payload⟩

theorem tools_unreadable (rejects : (toolAnswers checks payload).Rejects) :
    ¬ (toolAnswers checks payload).Readable := by
  rintro ⟨accepts, -⟩
  obtain ⟨e, es, answered⟩ | ⟨e, es, answered⟩ := rejects
  · cases answered.symm.trans accepts
  · have schema : checks.validateSchema payload.manifest = e :: es := Option.some.inj answered
    change validateManifestTool checks payload = some [] at accepts
    unfold validateManifestTool at accepts
    cases manifest : payload.manifest with
    | obj fields =>
      rw [manifest] at accepts schema
      have errors : validateContextualManifest checks payload fields = e :: es := by
        unfold validateContextualManifest
        rw [schema]
      simp [errors] at accepts
    | null | bool | num | str | arr =>
      rw [manifest] at accepts
      cases accepts

end Tools

section Verdicts

variable [Platform]

-- Answers of the tools themselves are never readable.
theorem rejected_draft_iff {answers : Answers} (rejects : answers.Rejects) {e : Endpoint} {incoming : Incoming}
    {tag : Nat} {seen : List (Obs Ret)} {o : Outcome} (run : Transcript (e.program incoming tag) seen (.pure o))
    (given : ∀ obs ∈ seen, answers.Given obs) (asked : Asked seen) :
    (Verdict answers e seen o ↔ answers.Readable) ∧
      ∀ checks payload, answers = toolAnswers checks payload → Outage e seen o := by
  rcases run.result (endpoint_tells rejects incoming tag) given asked with ⟨readable, verdict⟩ | ⟨unreadable, outage⟩
  · refine ⟨⟨fun _ => readable, fun _ => verdict⟩, fun checks payload same => ?_⟩
    rw [same] at readable rejects
    exact absurd readable (tools_unreadable checks payload rejects)
  · exact ⟨⟨fun verdict => absurd verdict outage.not_verdict, fun readable => absurd readable unreadable⟩,
      fun _ _ _ => outage⟩

omit [Platform] in
theorem readRequest_eq {body : DraftRequest} (valid : ValidRequest body) (next : DraftRequest → Prog Ret Outcome) :
    readRequest (.request body) next =
      statement (.select (.authorized body.context.workspaceId body.context.userId))
        (.refused 503 "Manifest storage unavailable") fun authorized =>
          if authorized then next body else .pure (.refused 403 "Provisioning permission required") := by
  unfold readRequest
  exact (if_neg (by simp [valid.ids])).trans (if_neg (by simp [valid.context]))

def draftSeen (content : String) : List (Obs Ret) :=
  [⟨.select (.authorized (draftRequest content).context.workspaceId (draftRequest content).context.userId), .ok true⟩,
    ⟨.select (.snapshot (draftRequest content).runId (draftRequest content).context.workspaceId), .ok (some draftRun)⟩]

theorem draft_validated {content : String} {tag : Nat} {seen : List (Obs Ret)} {rest : Prog Ret Outcome}
    (run : Transcript (runTools (.pure .done) ["validate_manifest", "validate_manifest_schema"]) seen rest) :
    Transcript (Endpoint.program (.request (draftRequest content)) tag .validate) (draftSeen content ++ seen) rest := by
  have matched : snapshotMatches (draftRequest content) draftRun = true := by
    simp [snapshotMatches, draftRequest, draftRun]
  change Transcript (draftServer.validate _) _ _
  unfold draftServer.validate
  rw [readRequest_eq (draft_valid content)]
  refine .reply (.reply ?_)
  change Transcript (if snapshotMatches (draftRequest content) draftRun then _ else _) _ _
  rwa [if_pos matched]

omit [Platform] in
theorem draft_given {answers : Answers} {content : String} {seen : List (Obs Ret)}
    (given : ∀ obs ∈ seen, answers.Given obs) : ∀ obs ∈ draftSeen content ++ seen, answers.Given obs := by
  rintro obs mem
  rcases List.mem_append.mp mem with mem | mem
  · simp only [draftSeen, List.mem_cons, List.not_mem_nil, or_false] at mem
    rcases mem with rfl | rfl <;> trivial
  · exact given obs mem

-- A draft that has no region, where only the second tool says so, and one without encryption.
def regionMissing : String := "manifest: required validation failed"

def schemaAnswers : Answers := ⟨some [], some [regionMissing]⟩

def policyAnswers : Answers := ⟨some [invalidDraft "Workspace policy requires encryption"], some []⟩

def schemaSeen : List (Obs Ret) :=
  [⟨.validator "validate_manifest", .ok ⟨true, []⟩⟩,
    ⟨.validator "validate_manifest_schema", .ok ⟨false, [regionMissing]⟩⟩]

def policySeen : List (Obs Ret) := [⟨.validator "validate_manifest", .error .other⟩]

omit [Platform] in
theorem schema_rejection_told :
    letI := draftHashes
    Verdict schemaAnswers .validate (draftSeen wholeText ++ schemaSeen) (.invalid [regionMissing]) := by
  let := draftHashes
  have readable : schemaAnswers.Readable := ⟨rfl, _, rfl, by decide⟩
  have first := reply_manifest_nil schemaAnswers rfl
  have second : schemaAnswers.reply "validate_manifest_schema" = .ok ⟨false, [regionMissing]⟩ :=
    (reply_schema schemaAnswers rfl).trans (if_pos (by decide))
  have run : Transcript (Endpoint.program (.request (draftRequest wholeText)) 0 .validate)
      (draftSeen wholeText ++ schemaSeen) (.pure (.invalid [regionMissing])) :=
    draft_validated (.reply (.reply (.start _)))
  refine (rejected_draft_iff (Or.inr ⟨_, _, rfl⟩) run (draft_given fun obs mem => ?_) ?_).1.mpr readable
  · simp only [schemaSeen, List.mem_cons, List.not_mem_nil, or_false] at mem
    rcases mem with rfl | rfl
    · exact first.symm
    · exact second.symm
  · exact ⟨_, List.mem_append_right _ List.mem_cons_self, rfl⟩

omit [Platform] in
theorem policy_rejection_untold :
    ¬ ∀ [Platform] (answers : Answers) (e : Endpoint) (incoming : Incoming) (tag : Nat) (seen : List (Obs Ret))
      (o : Outcome), answers.Rejects → Transcript (e.program incoming tag) seen (.pure o) →
        (∀ obs ∈ seen, answers.Given obs) → Asked seen → Verdict answers e seen o := by
  intro claimed
  let := draftHashes
  have run : Transcript (Endpoint.program (.request (draftRequest wholeText)) 0 .validate)
      (draftSeen wholeText ++ policySeen) (.pure (.refused 503 "Manifest validation unavailable")) :=
    draft_validated (.reply (.start _))
  have given : ∀ obs ∈ policySeen, policyAnswers.Given obs := by
    intro obs mem
    rw [List.mem_singleton.mp mem]
    exact (reply_manifest_cons policyAnswers rfl).symm
  have verdict := claimed policyAnswers .validate _ 0 _ _ (Or.inl ⟨_, _, rfl⟩) run (draft_given given)
    ⟨_, List.mem_append_right _ List.mem_cons_self, rfl⟩
  obtain ⟨errors, response, -⟩ := verdict.response
  cases response

end Verdicts

end Provisr.Backend.Manifest
