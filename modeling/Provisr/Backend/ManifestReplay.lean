import Provisr.Backend.ManifestHistory
import Provisr.Foundation.JsonOrder

namespace Provisr.Backend.Manifest

open Provisr.Foundation
open Provisr.Orchestrator (Platform)

section Content

def denote (text : String) : Option (Json Rat) := (decode text).map Json.denotation

-- No number that is left of a text has an exponent or is a negative zero.
def Plain (text : String) : Prop := ∃ j, decode text = some j ∧ (Json.normalize id j).allNum Literal.plain = true

instance (text : String) : Decidable (Plain text) :=
  match h : decode text with
  | some j => decidable_of_iff ((Json.normalize id j).allNum Literal.plain = true) (by simp [Plain, h])
  | none => isFalse (by simp [Plain, h])

variable {text other : String} {stored : Json Literal}

theorem decode_jsonbText (j : Json Literal) : decode (Json.jsonbText j) = some j := JsonReader.read_jsonbText _ j

theorem jsonbIn_decode (h : jsonbIn text = some stored) :
    ∃ j, decode text = some j ∧ stored = Json.jsonb (Json.mapNum Literal.numeric j) := by
  obtain ⟨j, read, h⟩ := Option.bind_eq_some_iff.mp h
  split at h
  · exact ⟨j, JsonReader.read_extends text j read, (Option.some.inj h).symm⟩
  · cases h

theorem normalize_stored (j : Json Literal) :
    Json.normalize id (Json.jsonb (Json.mapNum Literal.numeric j)) = Json.mapNum Literal.numeric (Json.normalize id j) := by
  unfold Json.jsonb
  rw [Json.normalize_normalize Function.injective_id Json.jsonbRank_injective, Json.normalize_mapNum]

theorem sameManifestContent_iff {a : Json Literal} (ha : decode text = some a) :
    sameManifestContent text other = true ↔
      ∃ b, decode other = some b ∧ Json.normalize id a = Json.normalize id b := by
  unfold sameManifestContent
  rw [ha]
  cases hb : decode other with
  | none => simp
  | some b => simp [GoJson.marshal_eq_iff]

theorem same_bytes_iff (h : jsonbIn text = some stored) :
    sameManifestContent (Json.jsonbText stored) text = true ↔ Plain text := by
  obtain ⟨j, hj, rfl⟩ := jsonbIn_decode h
  rw [sameManifestContent_iff (decode_jsonbText _)]
  simp only [hj, Plain, Option.some.injEq, exists_eq_left', normalize_stored]
  exact Json.mapNum_eq_self_iff fun l => l.numeric_eq_self_iff

theorem denote_of_same (h : jsonbIn text = some stored)
    (same : sameManifestContent (Json.jsonbText stored) other = true) : denote other = denote text := by
  obtain ⟨j, hj, rfl⟩ := jsonbIn_decode h
  obtain ⟨k, hk, same⟩ := (sameManifestContent_iff (decode_jsonbText _)).mp same
  rw [normalize_stored] at same
  have values : Json.denotation k = Json.denotation j := by
    unfold Json.denotation
    rw [Json.normalize_mapNum, Json.normalize_mapNum, ← same, Json.mapNum_mapNum]
    simp only [Literal.value_numeric]
  simp only [denote, hj, hk, Option.map_some, values]

end Content

theorem Unique.findKey {d : Db} (h : Unique d.manifests) {row : Row} {key : String} (mem : row ∈ d.manifests)
    (keyed : row.idempotencyKey = some key) : findKey d row.runId key = some row := by
  cases found : d.manifests.find? fun m => m.runId == row.runId && m.idempotencyKey == some key with
  | none => exact absurd (by simp [keyed]) (List.find?_eq_none.mp found row mem)
  | some other =>
    have facts := List.find?_some found
    simp only [Bool.and_eq_true, beq_iff_eq] at facts
    have entry : Entry.key row.runId key ∈ entries other := by
      rw [← facts.1]
      exact entries_key facts.2
    rw [Manifest.findKey, found, h.same mem (List.mem_of_find?_eq_some found) (entries_key keyed) entry]

variable [Platform] {faults : Bool}

section Leads

theorem executes_total (p : Prog Ret Outcome) (d : Db) (n : Nat) (ws : List Write) :
    ∃ n' ws' o, (engine false).Executes d n ws p n' ws' o := by
  have answered : ∀ {α : Type} (answer : Option α), ∃ r, answers false answer r := by
    intro α answer
    cases answer with
    | none => exact ⟨.error .other, Or.inr ⟨Or.inr rfl, rfl⟩⟩
    | some a => exact ⟨.ok a, Or.inl ⟨a, rfl, rfl⟩⟩
  refine Engine.Executes.total (fun o d n => ?_) p d n ws
  cases o with
  | select q => exact ⟨_, _, _, (answered (q.answer d)).choose_spec, rfl, rfl⟩
  | validator tool => exact ⟨.error .other, _, _, rfl, rfl⟩
  | lockMembership workspaceId userId tag => exact ⟨_, _, _, (answered _).choose_spec, rfl, rfl⟩
  | lockRun runId workspaceId userId => exact ⟨_, _, _, (answered _).choose_spec, rfl, rfl⟩
  | advisoryLock key => exact ⟨_, _, _, (answered _).choose_spec, rfl, rfl⟩
  | insert row => exact ⟨.error .other, _, _, Or.inr (Or.inr ⟨rfl, rfl⟩), rfl⟩
  | audit o => exact ⟨.error .other, _, _, Or.inr ⟨rfl, rfl, rfl⟩⟩
  | write w => exact ⟨.error .other, _, _, Or.inr ⟨rfl, rfl⟩, rfl⟩

def Replay (runID key text : String) (c : Call) : Prop :=
  ∃ runID' content source, c = .keyed runID' key content source ∧ uuidIn runID' = uuidIn runID ∧
    normalizeContentBytes content = .ok text

def replayed (text : String) (row : Row) : Outcome :=
  if sameManifestContent (Json.jsonbText row.content) text then
    .returned (scanned row (extractOrComputeHash (Json.jsonbText row.content) row.sourceMetadata))
  else .failed .idempotencyConflict

def Told (faults : Bool) (answer o : Outcome) (ws : List Write) : Prop :=
  (o = answer ∨ faults = true ∧ o = .failed .database) ∧ ws = []

structure ValidKey (key : String) : Prop where
  accepted : (key.toList.all isSpace || decide (255 < key.utf8ByteSize)) = false
  stored : textIn key = some key

omit [Platform] in
theorem uuidIn_parse {runID run : String} (h : uuidIn runID = some run) : (parseUuid runID).isNone = false := by
  unfold uuidIn at h
  cases parsed : parseUuid runID with
  | none => rw [parsed] at h; cases h
  | some id => rfl

theorem replay_leads {runID key text : String} {row : Row} {c : Call} (valid : ValidKey key) (replay : Replay runID key text c)
    (run : uuidIn runID = some row.runId) (d : Db) :
    (engine faults).Leads (fun _ d' => findKey d' row.runId key = some row)
      (fun o ws _ => Told faults (replayed text row) o ws) d [] ((engine faults).program c) := by
  obtain ⟨runID', content, source, rfl, sameRun, bytes⟩ := replay
  have run' : uuidIn runID' = some row.runId := sameRun.trans run
  have fails : faults = true → ∀ d : Db, Told faults (replayed text row) (.failed .database) [] :=
    fun faulty _ => ⟨Or.inr ⟨faulty, rfl⟩, rfl⟩
  change (engine faults).Leads _ _ _ _ (StoreManifestVersionWithKey runID' key content source)
  unfold StoreManifestVersionWithKey
  rw [if_neg (by simp [uuidIn_parse run']), if_neg (by simp [valid.accepted]), bytes]
  refine advisoryLock_leads fails fun d₁ _ => ?_
  have answer : ∀ d', findKey d' row.runId key = some row → Query.answer d' (.byKey runID' key) = some (some row) := by
    intro d' found
    simp [Query.answer, run', valid.stored, found]
  refine query_leads ?_ ?_
  · rintro d₂ found (faulty | none)
    · exact fails faulty
    · exact absurd ((answer d₂ found).symm.trans none) (by simp)
  · intro d₂ found r selected
    obtain rfl := Option.some.inj ((answer d₂ found).symm.trans selected)
    change (engine faults).Leads _ _ _ _ (replayKeyed text row)
    unfold replayKeyed replayed
    split
    · exact fun _ _ => ⟨Or.inl rfl, rfl⟩
    · exact fun _ _ => ⟨Or.inl rfl, rfl⟩

def Accepted : Call → Prop
  | .keyed _ key _ _ => (key.toList.all isSpace || decide (255 < key.utf8ByteSize)) = false
  | _ => True

theorem accepted_leads (c : Call) (d : Db) :
    (engine faults).Leads (growing faults).grows (fun o _ _ => o.commits = true → Accepted c) d []
      ((engine faults).program c) := by
  cases c with
  | unkeyed | draft | other => exact .of_forall (fun _ _ _ _ => trivial) _ _ _
  | keyed runID key content source =>
    change (engine faults).Leads _ _ _ _ (StoreManifestVersionWithKey runID key content source)
    unfold StoreManifestVersionWithKey
    split
    · exact fun _ _ => nofun
    · split
      · exact fun _ _ => nofun
      · rename_i accepted
        exact .of_forall (fun _ _ _ _ => by simpa [Accepted] using accepted) _ _ _

end Leads

section Runs

variable {d₀ : Db} {n : Nat} {s s' s'' : ManifestDatabase} {runID key text : String} {record : ManifestRecord}

def Accepts (faults : Bool) (s s' : ManifestDatabase) (runID key text : String) (record : ManifestRecord) : Prop :=
  ∃ i t content source, CommitOf faults s s' i t (.created record) ∧ t.call = .keyed runID key content source ∧
    normalizeContentBytes content = .ok text

theorem Accepts.step (accepts : Accepts faults s s' runID key text record) : (engine faults).Step s s' := by
  obtain ⟨i, t, content, source, ⟨session, done, commits, rfl⟩, -⟩ := accepts
  exact .commit s i t _ session done commits

-- What a call that starts now is told whatever the others do, unless a statement fails; it has written nothing.
structure Answered (faults : Bool) (s : ManifestDatabase) (c : Call) (answer : Outcome) : Prop where
  returns : ∃ n', (engine false).Executes s.committed s.drawn [] ((engine false).program c) n' [] answer
  told : ∀ s', (engine faults).Steps ((engine faults).started s c) s' → ∀ t o,
    s'.sessions[s.sessions.length]? = some t → t.rest = some (.pure o) → Told faults answer o t.writes

theorem replay_answered {row : Row} {c : Call} (valid : ValidKey key) (replay : Replay runID key text c)
    (run : uuidIn runID = some row.runId) (found : findKey s.committed row.runId key = some row) :
    Answered faults s c (replayed text row) := by
  refine ⟨?_, fun s' steps t o session done => ?_⟩
  · obtain ⟨n', ws', o, executed⟩ := executes_total ((engine false).program c) s.committed s.drawn []
    obtain ⟨rfl | ⟨h, -⟩, rfl⟩ := (replay_leads valid replay run s.committed).executes found executed
    · exact ⟨n', executed⟩
    · cases h
  · have kept : ∀ a b, (engine faults).Step a b → findKey a.committed row.runId key = some row →
        findKey b.committed row.runId key = some row :=
      fun a b step found => ((growing faults).step step).find?_eq_some found
    obtain ⟨-, along⟩ := Engine.Along.of_steps (P := fun d => findKey d row.runId key = some row) kept steps found
    exact along.answered (replay_leads valid replay run) found session done

theorem Answered.unique {row : Row} {c : Call} (valid : ValidKey key) (replay : Replay runID key text c)
    (run : uuidIn runID = some row.runId) (found : findKey s.committed row.runId key = some row) {answer : Outcome}
    (h : Answered faults s c answer) : answer = replayed text row := by
  obtain ⟨n', executed⟩ := h.returns
  obtain ⟨same | ⟨faulty, -⟩, -⟩ := (replay_leads valid replay run s.committed).executes found executed
  · exact same
  · cases faulty

-- What is accepted is a version of its own, with the hash of its bytes in its metadata.
theorem Accepts.row (reachable : (engine faults).Reachable d₀ n s) (accepts : Accepts faults s s' runID key text record) :
    ∃ row source, s'.committed.manifests = s.committed.manifests ++ [row] ∧
      Made runID (some key) (some text) (normalizeMetaBytes source (ComputeContentHash text)) row ∧
      record = scanned row (ComputeContentHash text) := by
  obtain ⟨i, t, content, source, commit, call, bytes⟩ := accepts
  obtain ⟨row, creates, -, added⟩ | ⟨⟨deeds, other⟩, -⟩ := commit.cases reachable
  · rw [call] at creates
    obtain ⟨text', bytes', made, scanned⟩ := creates
    obtain rfl := Except.ok.inj (bytes.symm.trans bytes')
    exact ⟨row, source, added, made, scanned⟩
  · cases call.symm.trans other

theorem Accepts.valid (reachable : (engine faults).Reachable d₀ n s) (accepts : Accepts faults s s' runID key text record) :
    ValidKey key := by
  obtain ⟨row, source, -, made, -⟩ := accepts.row reachable
  refine ⟨?_, made.keyText key rfl⟩
  obtain ⟨i, t, content, source, commit, call, -⟩ := accepts
  have accepted := Engine.Growing.commit accepted_leads reachable commit.session commit.done commit.commits
  rw [call] at accepted
  exact accepted

theorem extract_jsonb (content : String) (source : JsFields) {hash : String} (hashed : hash ≠ "") :
    extractOrComputeHash content (Json.jsonb (normalizeMetaBytes source hash)) = hash := by
  have found : (Json.jsonb (normalizeMetaBytes source hash)).get? "content_hash" = some (.str hash) := by
    unfold Json.jsonb normalizeMetaBytes
    rw [Json.normalize, Json.get?_obj, Json.lookup_sortFields Json.jsonbRank_injective, Json.normalizeFields_eq_map,
      List.map_append, List.reverse_append]
    rfl
  unfold extractOrComputeHash hashUnder
  rw [found]
  simp [hashed]

theorem keyed_manifest_replay (hashed : ∀ content, ComputeContentHash content ≠ "") (empty : d₀.manifests = [])
    (reachable : (engine faults).Reachable d₀ n s) (accepts : Accepts faults s s' runID key text record)
    (steps : (engine faults).Steps s' s'') :
    ((∀ c, Replay runID key text c → Answered faults s'' c (.returned record)) ↔ Plain text) ∧
      ∀ other c, Replay runID key other c → denote other ≠ denote text →
        Answered faults s'' c (.failed .idempotencyConflict) := by
  obtain ⟨row, source, added, made, recorded⟩ := accepts.row reachable
  have valid := accepts.valid reachable
  have stored : jsonbIn text = some row.content := by
    obtain ⟨_, same, stored⟩ := made.content
    obtain rfl := Option.some.inj same
    exact stored
  have found : findKey s''.committed row.runId key = some row := by
    have grown : s'.committed.manifests <+: s''.committed.manifests := (growing faults).steps steps
    refine grown.find?_eq_some ?_
    have unique := unique_reachable empty (reachable.tail accepts.step)
    exact unique.findKey (by simp [added]) made.key
  have returned : record = scanned row (extractOrComputeHash (Json.jsonbText row.content) row.sourceMetadata) := by
    rw [recorded, made.sourceMetadata, extract_jsonb _ _ (hashed text)]
  have answered : ∀ other c, Replay runID key other c → Answered faults s'' c (replayed other row) :=
    fun other c replay => replay_answered valid replay made.run found
  refine ⟨⟨fun always => ?_, fun plain c replay => ?_⟩, fun other c replay differs => ?_⟩
  · obtain ⟨i, t, content, source, -, -, bytes⟩ := accepts
    have own : Replay runID key text (.keyed runID key content source) := ⟨runID, content, source, rfl, rfl, bytes⟩
    have same := (always _ own).unique valid own made.run found
    unfold replayed at same
    split at same
    · rename_i matching
      exact (same_bytes_iff stored).mp matching
    · cases same
  · have same := answered text c replay
    unfold replayed at same
    rwa [if_pos ((same_bytes_iff stored).mpr plain), ← returned] at same
  · have conflict := answered other c replay
    unfold replayed at conflict
    rwa [if_neg fun same => differs (denote_of_same stored same)] at conflict

end Runs

section Example

def replicasId : String := "a40c7f12-9e35-4b68-8d2a-6f10b3c5e789"

def replicasRun : String := "d2f60e8b-3c47-4a19-8b5d-1e9f7c40a632"

def replicasKey : String := "manifest:replicas"

def exponentText : String := "\x7b\"replicas\":1e2\x7d"

def wholeText : String := "\x7b\"replicas\":100\x7d"

@[reducible] def replicasHashes : Platform where
  sha256Hex s :=
    if s = exponentText then "7da3d390dadc00455edd36e547a4eb1aa0b4482bb480cc3bc5b7c80d99442981"
    else "47026f107ee4a0fd210760daf7ba13fb14ea0c90787b2f9daa0a1e95c1974211"
  isUrl _ := true

def replicasDb : Db where
  role _ _ := none
  deleted _ := false
  runs id := if id = replicasRun then
      some ⟨"e81b5c24-9f06-4d73-a2c8-6b3d0f9e7154", "6f1c2d3e-4a5b-4c6d-8e7f-90a1b2c3d4e5",
        "a4d7e2b9-6c31-4e58-b0f2-5d8c1a3e9f76", "0b9e4c1a-7d52-4f3e-9a61-2c8d5e7f1034", "MANIFEST_CREATING", 3⟩
    else none
  manifests := []
  audits := []

def replicas (number : Literal) : Json Literal := .obj [("replicas", .num number)]

def hundred : Literal where
  negative := false
  whole := ['1', '0', '0']
  fraction := []
  exponent := none
  valid := rfl

def replicasMetadata (text : String) : JsJson :=
  letI := replicasHashes
  normalizeMetaBytes [] (ComputeContentHash text)

def replicasRow (text : String) : Row where
  id := replicasId
  runId := replicasRun
  version := 1
  content := replicas hundred
  sourceMetadata := Json.jsonb (replicasMetadata text)
  createdAt := 0
  idempotencyKey := some replicasKey

def replicasCall (text : String) : Call := .keyed replicasRun replicasKey (.bytes text) []

def replicasRecord (text : String) : ManifestRecord :=
  letI := replicasHashes
  scanned (replicasRow text) (ComputeContentHash text)

omit [Platform] in
theorem replicasHashes_cases (text : String) :
    letI := replicasHashes
    ComputeContentHash text = "7da3d390dadc00455edd36e547a4eb1aa0b4482bb480cc3bc5b7c80d99442981" ∨
      ComputeContentHash text = "47026f107ee4a0fd210760daf7ba13fb14ea0c90787b2f9daa0a1e95c1974211" := by
  by_cases h : text = exponentText
  · exact Or.inl (if_pos h)
  · exact Or.inr (if_neg h)

omit [Platform] in
theorem replicasRun_parsed : parseUuid replicasRun = some replicasRun := by
  unfold replicasRun
  exact parseUuid_spelled (by decide)

omit [Platform] in
theorem replicasRun_in : uuidIn replicasRun = some replicasRun := by
  unfold replicasRun
  exact uuidIn_spelled (by decide)

omit [Platform] in
theorem replicasKey_in : textIn replicasKey = some replicasKey := by
  unfold replicasKey
  exact textIn_ofList (by decide)

omit [Platform] in
theorem replicasKey_given : (replicasKey.toList.all isSpace || decide (255 < replicasKey.utf8ByteSize)) = false := by
  decide +kernel

omit [Platform] in
theorem wholeText_in : jsonbIn wholeText = some (replicas hundred) := by decide +kernel

omit [Platform] in
theorem replicasMetadata_storable (text : String) : (replicasMetadata text).storable = true := by
  let := replicasHashes
  have name : Json.storableText "content_hash" = true := Json.storableText_ofList (by decide)
  have hash : Json.storableText (ComputeContentHash text) = true := by
    rcases replicasHashes_cases text with h | h
    · rw [h]
      exact Json.storableText_ofList (by decide)
    · rw [h]
      exact Json.storableText_ofList (by decide)
  simp [replicasMetadata, normalizeMetaBytes, Json.storable, Json.storableFields, name, hash]

omit [Platform] in
theorem replicas_executes {text : String} (bytes : normalizeContentBytes (.bytes text) = .ok text)
    (content : jsonbIn text = some (replicas hundred)) :
    letI := replicasHashes
    (engine true).Executes replicasDb 0 [] ((engine true).program (replicasCall text)) 0
      [.manifest (replicasRow text)] (.created (replicasRecord text)) := by
  let := replicasHashes
  have insertable : Insertable ⟨replicasRun, 1, some text, replicasMetadata text, some replicasKey⟩ (replicasRow text)
      replicasDb := by
    have id : JsText.isUuid replicasId = true := by
      unfold replicasId
      exact isUuid_spelled (by decide)
    have known : uuidIn replicasRun = some replicasRun ∧ (replicasDb.runs replicasRun).isSome :=
      ⟨replicasRun_in, by simp [replicasDb]⟩
    exact ⟨⟨id, fun m hm => absurd hm List.not_mem_nil⟩, known, ⟨rfl, (by decide : 1 < 2 ^ 31)⟩, ⟨text, rfl, content⟩,
      ⟨rfl, replicasMetadata_storable text⟩, rfl, fun _ same => Option.some.inj same ▸ replicasKey_in⟩
  have unheld : Query.answer replicasDb (.byKey replicasRun replicasKey) = some none := by
    simp [Query.answer, replicasRun_in, replicasKey_in, findKey, replicasDb]
  have first : Query.answer replicasDb (.nextVersion replicasRun) = some 1 := by
    simp [Query.answer, replicasRun_in, versions, replicasDb]
  change (engine true).Executes _ _ _ (StoreManifestVersionWithKey replicasRun replicasKey (.bytes text) []) _ _ _
  unfold StoreManifestVersionWithKey
  rw [if_neg (by simp [replicasRun_parsed]), if_neg (by simp [replicasKey_given]), bytes]
  refine .op (.ok ()) [] 0 ⟨Or.inl ⟨(), rfl, rfl⟩, rfl, rfl⟩ ?_
  refine .op (.ok none) [] 0 ⟨Or.inl ⟨none, unheld, rfl⟩, rfl, rfl⟩ ?_
  refine .op (.ok (1 : Nat)) [] 0 ⟨Or.inl ⟨(1 : Nat), first, rfl⟩, rfl, rfl⟩ ?_
  refine .op (.ok (replicasRow text)) [.manifest (replicasRow text)] 0 ⟨Or.inl ⟨_, rfl, insertable, ?_, rfl⟩, rfl⟩ (.pure _ _ _)
  rintro ⟨m, hm, -⟩
  exact absurd hm List.not_mem_nil

omit [Platform] in
theorem replicas_accepted (text : String) (bytes : normalizeContentBytes (.bytes text) = .ok text)
    (content : jsonbIn text = some (replicas hundred)) :
    letI := replicasHashes
    ∃ s s', (engine true).Reachable replicasDb 0 s ∧ Accepts true s s' replicasRun replicasKey text (replicasRecord text) ∧
      s'.committed.manifests = [replicasRow text] := by
  let := replicasHashes
  have idle : ∀ t ∈ ([] : List (Session Call Ret Key Write Outcome)), t.held = ∅ := by simp
  obtain ⟨held, steps⟩ := (replicas_executes bytes content).steps idle (replicasCall text) ∅
  refine ⟨_, _, .head (.start ⟨replicasDb, 0, []⟩ (replicasCall text)) steps,
    ⟨0, _, .bytes text, [], ⟨rfl, rfl, rfl, rfl⟩, rfl, bytes⟩, rfl⟩

def revisedRow : Row where
  id := "5e0b7c94-2a61-4d8f-b3c7-9f14e6a8d025"
  runId := replicasRun
  version := 2
  content := replicas hundred
  sourceMetadata := Json.jsonb (replicasMetadata wholeText)
  createdAt := 1
  idempotencyKey := none

def storedDb : Db := { replicasDb with manifests := [replicasRow wholeText] }

def unkeyedCall : Call := .unkeyed replicasRun (.bytes wholeText) []

def insertion (version : Nat) : Insertion := ⟨replicasRun, version, some wholeText, replicasMetadata wholeText, none⟩

def numbered (runID content hash : String) (sourceMetadata : JsJson) (left version : Nat) : Prog Ret Outcome :=
  .op (.insert ⟨runID, version, some content, sourceMetadata, none⟩) fun
    | .ok row => .pure (.created (scanned row hash))
    | .error .uniqueViolation => attempts runID content hash sourceMetadata left
    | .error .other => .pure (.failed .database)

omit [Platform] in
theorem attempts_succ (runID content hash : String) (sourceMetadata : JsJson) (left : Nat) :
    attempts runID content hash sourceMetadata (left + 1) =
      statement (.select (.nextVersion runID)) (.failed .database) (numbered runID content hash sourceMetadata left) := rfl

def remaining : Prog Ret Outcome :=
  letI := replicasHashes
  numbered replicasRun wholeText (ComputeContentHash wholeText) (replicasMetadata wholeText) 2 1

omit [Platform] in
theorem remaining_executes :
    letI := replicasHashes
    (engine true).Executes storedDb 0 [] remaining 0 [.manifest revisedRow]
      (.created (scanned revisedRow (ComputeContentHash wholeText))) := by
  let := replicasHashes
  have entered_ : ∀ v, entered (insertion v) = [.version replicasRun v] := by
    intro v
    simp [entered, insertion, replicasRun_in]
  have entries_ : entries (replicasRow wholeText) = [.version replicasRun 1, .key replicasRun replicasKey] := rfl
  have taken_ : taken (insertion 1) storedDb := by
    refine ⟨replicasRow wholeText, List.mem_singleton_self _, .version replicasRun 1, ?_, ?_⟩
    · rw [entries_]
      exact List.mem_cons_self
    · rw [entered_]
      exact List.mem_cons_self
  have free : ¬taken (insertion 2) storedDb := by
    rintro ⟨m, mem, e, inM, inRow⟩
    obtain rfl := List.mem_singleton.mp mem
    rw [entered_] at inRow
    obtain rfl := List.mem_singleton.mp inRow
    rw [entries_] at inM
    simp at inM
  have second : Query.answer storedDb (.nextVersion replicasRun) = some 2 := by
    simp [Query.answer, replicasRun_in, versions, storedDb, replicasRow]
  have insertable : Insertable (insertion 2) revisedRow storedDb := by
    have id : JsText.isUuid revisedRow.id = true := isUuid_spelled (by decide)
    have new : ∀ m ∈ storedDb.manifests, m.id ≠ revisedRow.id := by
      intro m mem
      rw [List.mem_singleton.mp mem]
      decide
    exact ⟨⟨id, new⟩, ⟨replicasRun_in, by simp [storedDb, replicasDb, revisedRow]⟩, ⟨rfl, (by decide : 2 < 2 ^ 31)⟩,
      ⟨wholeText, rfl, wholeText_in⟩, ⟨rfl, replicasMetadata_storable _⟩, rfl, by simp [insertion]⟩
  refine .op (.error .uniqueViolation) [] 0 ⟨Or.inr (Or.inl ⟨rfl, taken_, rfl⟩), rfl⟩ ?_
  refine .op (.ok (2 : Nat)) [] 0 ⟨Or.inl ⟨(2 : Nat), second, rfl⟩, rfl, rfl⟩ ?_
  exact .op (.ok revisedRow) [.manifest revisedRow] 0 ⟨Or.inl ⟨_, rfl, insertable, free, rfl⟩, rfl⟩ (.pure _ _ _)

theorem select_step {d : Db} {n : Nat} {c : Call} {q : Query} {failure : Outcome} {next : q.Answer → Prog Ret Outcome}
    {a : q.Answer} (answer : q.answer d = some a) :
    (engine faults).Step ⟨d, n, [⟨c, ∅, [], some (statement (.select q) failure next)⟩]⟩
      ⟨d, n, [⟨c, ∅, [], some (next a)⟩]⟩ := by
  have alone : ∀ (j : Nat) (u : Session Call Ret Key Write Outcome),
      [(⟨c, ∅, [], some (statement (.select q) failure next)⟩ : Session Call Ret Key Write Outcome)][j]? = some u → j ≠ 0 →
      Disjoint (locks (.select q) d) u.held := fun _ _ _ _ => Set.empty_disjoint _
  have run : (engine faults).exec (.select q) d n (.ok a) [] n := ⟨Or.inl ⟨a, answer, rfl⟩, rfl, rfl⟩
  have step : (engine faults).Step ⟨d, n, [⟨c, ∅, [], some (statement (.select q) failure next)⟩]⟩
      ⟨d, n, [⟨c, ∅ ∪ ∅, [], some (next a)⟩]⟩ :=
    Engine.Step.statement (E := engine faults) ⟨d, n, [⟨c, ∅, [], some (statement (.select q) failure next)⟩]⟩ 0 _ _ _ _ _ _
      rfl rfl alone run
  rwa [Set.union_empty] at step

theorem program_unkeyed (runID : String) (content : Content) (sourceMetadata : JsFields) :
    (engine faults).program (.unkeyed runID content sourceMetadata) =
      StoreManifestVersion runID content sourceMetadata := rfl

-- Two writers that have read the same number: one is refused it and takes the next.
omit [Platform] in
theorem revised_reachable :
    letI := replicasHashes
    ∃ s : ManifestDatabase, (engine true).Reachable replicasDb 0 s ∧
      s.committed.manifests = [replicasRow wholeText, revisedRow] := by
  let := replicasHashes
  have bytes : normalizeContentBytes (.bytes wholeText) = .ok wholeText := by decide +kernel
  have first : Query.answer replicasDb (.nextVersion replicasRun) = some 1 := by
    simp [Query.answer, replicasRun_in, versions, replicasDb]
  have program : (engine true).program unkeyedCall =
      statement (.select (.nextVersion replicasRun)) (.failed .database)
        (numbered replicasRun wholeText (ComputeContentHash wholeText) (replicasMetadata wholeText) 2) := by
    rw [unkeyedCall, program_unkeyed, StoreManifestVersion, if_neg (by simp [replicasRun_parsed]), bytes]
    exact attempts_succ _ _ _ _ 2
  have started : (engine true).Step ⟨replicasDb, 0, []⟩ ⟨replicasDb, 0, [⟨unkeyedCall, ∅, [], some ((engine true).program unkeyedCall)⟩]⟩ :=
    .start _ unkeyedCall
  rw [program] at started
  have stored := (replicas_executes bytes wholeText_in).commits (s := ⟨replicasDb, 0, [⟨unkeyedCall, ∅, [], some remaining⟩]⟩)
    rfl (by simp)
  have waiting : [(⟨unkeyedCall, ∅, [], some remaining⟩ : Session Call Ret Key Write Outcome),
      ⟨replicasCall wholeText, ∅, [], none⟩][0]? = some ⟨unkeyedCall, ∅, [], some remaining⟩ := rfl
  have committed := remaining_executes.ends rfl waiting (by
    rintro (_ | _ | j) u at_ other
    · exact absurd rfl other
    · exact (Option.some.inj at_) ▸ rfl
    · cases at_)
  exact ⟨_, (Relation.ReflTransGen.head started (.head (select_step first) stored)).trans committed, rfl⟩

omit [Platform] in
theorem manifest_version_history_replicas :
    letI := replicasHashes
    ∃ s, s.committed.manifests = [replicasRow wholeText, revisedRow] ∧
      (∀ runId, ∃ k, versions s.committed.manifests runId = List.range' 1 k) ∧
      ∀ s', (engine true).Steps s s' → s.committed.manifests <+: s'.committed.manifests := by
  let := replicasHashes
  obtain ⟨s, reachable, rows⟩ := revised_reachable
  obtain ⟨gapless, grown, -⟩ := manifest_version_history rfl reachable
  exact ⟨s, rows, gapless, grown⟩

omit [Platform] in
theorem keyed_manifest_replay_whole :
    letI := replicasHashes
    ∃ s record, ∀ c, Replay replicasRun replicasKey wholeText c → Answered true s c (.returned record) := by
  let := replicasHashes
  obtain ⟨s, s', reachable, accepts, -⟩ := replicas_accepted wholeText (by decide +kernel) wholeText_in
  have hashed : ∀ content, ComputeContentHash content ≠ "" := by
    intro content
    rcases replicasHashes_cases content with h | h
    · rw [h]
      decide
    · rw [h]
      decide
  have plain : Plain wholeText := by decide +kernel
  exact ⟨s', _, (keyed_manifest_replay hashed rfl reachable accepts .refl).1.mpr plain⟩

-- The same bytes again are refused: 1e2 is kept as 100.
omit [Platform] in
theorem keyed_manifest_replay_exponent :
    letI := replicasHashes
    ¬ ∀ s s' record, (engine true).Reachable replicasDb 0 s → Accepts true s s' replicasRun replicasKey exponentText record →
      ∀ c, Replay replicasRun replicasKey exponentText c → Answered true s' c (.returned record) := by
  let := replicasHashes
  intro always
  have bytes : normalizeContentBytes (.bytes exponentText) = .ok exponentText := by decide +kernel
  obtain ⟨s, s', reachable, accepts, rows⟩ := replicas_accepted exponentText bytes (by decide +kernel)
  have own : Replay replicasRun replicasKey exponentText (replicasCall exponentText) := ⟨_, _, _, rfl, rfl, bytes⟩
  have found : findKey s'.committed (replicasRow exponentText).runId replicasKey = some (replicasRow exponentText) := by
    unfold findKey
    rw [rows]
    rfl
  have answer := (always s s' _ reachable accepts _ own).unique
    ⟨by decide +kernel, by decide +kernel⟩ own (by decide +kernel) found
  have differs : sameManifestContent (Json.jsonbText (replicas hundred)) exponentText = false := by decide +kernel
  rw [replayed, show (replicasRow exponentText).content = replicas hundred from rfl, differs] at answer
  cases answer

end Example

end Provisr.Backend.Manifest
