import Provisr.Audit.Chain
import Provisr.Foundation.JsValue
import Provisr.Foundation.JsonScan

namespace Provisr.Audit

open Provisr.Foundation Provisr.Orchestrator Json

-- What the columns of a row and the constraints on them leave.
structure Entry.Persisted (e : Entry) : Prop where
  workspace : JsText.isUuid e.workspaceId = true
  correlation : JsText.isUuid e.correlationId = true
  previous : ∀ h ∈ e.previousHash, h.toList.length = 64 ∧ ∀ c ∈ h.toList, JsText.isHex c = true
  payload : ∃ fields, e.payload = .obj fields
  stored : jsonb e.payload = e.payload

-- A row as it is read back: JSON.parse makes doubles of the numbers of its payload.
def AuditService.reread (e : Entry) : Entry :=
  { e with payload := JsTree.encode (mapNum JsTree.parsed e.payload) }

-- The columns each writer hashes.
def AuditService.hashed (e : Entry) : Option String × String × EventType × String × JsJson × String :=
  (e.previousHash, e.workspaceId, e.eventType, e.resourceId, e.payload, e.correlationId)

def CloudAccount.hashed (e : Entry) : Option String × EventType × JsJson × String :=
  (e.previousHash, e.eventType, e.payload, e.correlationId)

section Texts

variable {sep : Char} {cs cs' ds ds' : List Char}

theorem mark_cancel (h : sep ∉ cs) (h' : sep ∉ cs') (heq : cs ++ sep :: ds = cs' ++ sep :: ds') :
    cs = cs' ∧ ds = ds' := by
  have left := @JsNumber.split_at _ _ ds h
  have right := @JsNumber.split_at _ _ ds' h'
  rw [heq] at left
  exact ⟨left.1.symm.trans right.1, left.2.symm.trans right.2⟩

theorem mark_cancel_last (h : sep ∉ ds) (h' : sep ∉ ds') (heq : cs ++ sep :: ds = cs' ++ sep :: ds') :
    cs = cs' ∧ ds = ds' := by
  have reversed := congrArg List.reverse heq
  simp only [List.reverse_append, List.reverse_cons, List.append_assoc, List.singleton_append] at reversed
  obtain ⟨hds, hcs⟩ := mark_cancel (by simpa using h) (by simpa using h') reversed
  exact ⟨List.reverse_injective hcs, List.reverse_injective hds⟩

theorem bar_notMem_uuid {s : String} (h : JsText.isUuid s = true) : bar ∉ s.toList := by
  intro hbar
  rcases JsText.isUuid_chars h bar hbar with hc | hc
  · exact absurd hc (by decide)
  · exact absurd hc (by decide)

def EventType.all : List EventType :=
  [.promptReceived, .runCreated, .stateTransition, .toolCall, .manifestCreated, .artifactGenerated,
    .policyCheck, .confirmation, .approvalDecision, .executionStarted, .executionCompleted, .executionFailed,
    .cloudStateSynced, .driftDetected, .error, .cloudAccountCreated, .cloudAccountStatusChanged,
    .cloudAccountDeleted, .workspaceCreated, .workspaceUpdated, .workspaceDeleted, .memberAdded,
    .memberRoleUpdated, .memberRemoved, .invitationCreated, .invitationRevoked, .invitationAccepted,
    .policyPreflightLoaded, .policyPreflightSkipped, .approvalRequirementsEvaluated,
    .stateBackendProvisioned, .stateBackendVerified, .stateBackendFailed]

theorem EventType.mem_all (e : EventType) : e ∈ EventType.all := by
  cases e <;> decide

theorem EventType.label_injective : Function.Injective EventType.label := by
  have distinct : (EventType.all.map EventType.label).Nodup := by decide
  exact fun d e same => List.inj_on_of_nodup_map distinct d.mem_all e.mem_all same

theorem chars_of {s : String} {cs : List Char} (h : s.toList = cs)
    (plain : bar ∉ cs ∧ openBrace ∉ cs ∧ cs.length < 64) :
    bar ∉ s.toList ∧ openBrace ∉ s.toList ∧ s.toList.length < 64 := h ▸ plain

theorem EventType.label_chars (e : EventType) :
    bar ∉ e.label.toList ∧ openBrace ∉ e.label.toList ∧ e.label.toList.length < 64 := by
  cases e <;> exact chars_of String.toList_ofList (by decide)

theorem keyRank_injective : Function.Injective keyRank := by
  intro k l h
  exact (Prod.mk.inj (Prod.mk.inj h).2).2

end Texts

namespace Entry

variable {a b : Entry}

def previousText (e : Entry) : List Char := (e.previousHash.getD "").toList

theorem Persisted.previous_hex (h : a.Persisted) : ∀ c ∈ a.previousText, JsText.isHex c = true := by
  unfold previousText
  cases hp : a.previousHash with
  | none => simp
  | some hash => exact (h.previous hash hp).2

theorem Persisted.previous_length (h : a.Persisted) :
    a.previousText.length = if a.previousHash.isSome then 64 else 0 := by
  unfold previousText
  cases hp : a.previousHash with
  | none => rfl
  | some hash => exact (h.previous hash hp).1

theorem Persisted.previous_eq (ha : a.Persisted) (hb : b.Persisted) (same : a.previousText = b.previousText) :
    a.previousHash = b.previousHash := by
  have la := ha.previous_length
  have lb := hb.previous_length
  rw [same, lb] at la
  unfold previousText at same
  cases hpa : a.previousHash with
  | none =>
    cases hpb : b.previousHash with
    | none => rfl
    | some h => simp [hpa, hpb] at la
  | some h =>
    cases hpb : b.previousHash with
    | none => simp [hpa, hpb] at la
    | some h' =>
      rw [hpa, hpb] at same
      exact congrArg some (String.toList_inj.mp same)

theorem Persisted.notMem_previous (h : a.Persisted) {c : Char} (hc : JsText.isHex c = false) :
    c ∉ a.previousText := by
  intro hm
  rw [h.previous_hex c hm] at hc
  cases hc

theorem Persisted.payload_eq (ha : a.Persisted) (hb : b.Persisted) {κ : Type} [LinearOrder κ]
    {rank : String → κ} (inj : Function.Injective rank)
    (same : normalize rank a.payload = normalize rank b.payload) : a.payload = b.payload := by
  have stored := (normalize_eq_iff inj jsonbRank_injective).mp same
  rw [← ha.stored, ← hb.stored]
  exact stored

end Entry

section Preimages

variable {a b : Entry}

theorem AuditService.preimage_chars (e : Entry) : (AuditService.preimage e).toList =
    e.previousText ++ bar :: (e.workspaceId.toList ++ bar :: (e.eventType.label.toList ++ bar ::
      ((e.resourceId.toList ++ bar :: write (normalize keyRank e.payload)) ++ bar ::
        e.correlationId.toList))) := by
  have hbar : "|".toList = [bar] := by decide
  simp only [AuditService.preimage, separated, String.toList_append, hbar, serializeAuditPayload, stringify,
    String.toList_ofList, Entry.previousText, List.append_assoc, List.cons_append, List.nil_append]

theorem AuditService.preimage_eq_iff (ha : a.Persisted) (hb : b.Persisted) :
    AuditService.preimage a = AuditService.preimage b ↔ AuditService.hashed a = AuditService.hashed b := by
  constructor
  · intro same
    have chars := congrArg String.toList same
    rw [AuditService.preimage_chars, AuditService.preimage_chars] at chars
    have hbar : JsText.isHex bar = false := by decide
    obtain ⟨hprevious, chars⟩ := mark_cancel (ha.notMem_previous hbar) (hb.notMem_previous hbar) chars
    obtain ⟨hworkspace, chars⟩ := mark_cancel (bar_notMem_uuid ha.workspace) (bar_notMem_uuid hb.workspace) chars
    obtain ⟨hevent, chars⟩ := mark_cancel a.eventType.label_chars.1 b.eventType.label_chars.1 chars
    obtain ⟨chars, hcorrelation⟩ :=
      mark_cancel_last (bar_notMem_uuid ha.correlation) (bar_notMem_uuid hb.correlation) chars
    obtain ⟨hresource, hpayload⟩ := write_bar_cancel chars
    rw [AuditService.hashed, AuditService.hashed, ha.previous_eq hb hprevious, String.toList_inj.mp hworkspace,
      EventType.label_injective (String.toList_inj.mp hevent), String.toList_inj.mp hresource,
      ha.payload_eq hb keyRank_injective hpayload, String.toList_inj.mp hcorrelation]
  · intro same
    simp only [AuditService.hashed, Prod.mk.injEq] at same
    obtain ⟨hprevious, hworkspace, hevent, hresource, hpayload, hcorrelation⟩ := same
    rw [AuditService.preimage, AuditService.preimage, hprevious, hworkspace, hevent, hresource, hpayload,
      hcorrelation]

theorem AuditService.reread_persisted (h : a.Persisted) : (AuditService.reread a).Persisted where
  workspace := h.workspace
  correlation := h.correlation
  previous := h.previous
  payload := by
    obtain ⟨fields, same⟩ := h.payload
    exact ⟨JsTree.encodeFields (mapFields JsTree.parsed fields), by rw [AuditService.reread, same]; rfl⟩
  stored := by
    have stored : normalize jsonbRank a.payload = a.payload := h.stored
    change normalize jsonbRank (JsTree.encode (mapNum JsTree.parsed a.payload)) = _
    rw [JsTree.normalize_encode, normalize_mapNum, stored]
    rfl

-- The text that verifies a persisted row.
def AuditService.recheck (e : Entry) : String := AuditService.preimage (AuditService.reread e)

theorem marshalChars_obj (fields : JsFields) :
    ∃ rest, GoJson.marshalChars (.obj fields) = openBrace :: rest := by
  refine ⟨GoJson.htmlEscape (writeFields (sortFields id (normalizeFields id fields))), ?_⟩
  rw [GoJson.marshalChars, Json.normalize, write]
  rfl

theorem CloudAccount.preimage_chars (e : Entry) : (CloudAccount.preimage e).toList =
    e.previousText ++ (e.eventType.label.toList ++ (GoJson.marshalChars e.payload ++ e.correlationId.toList)) := by
  simp only [CloudAccount.preimage, String.toList_append, GoJson.marshal, String.toList_ofList,
    Entry.previousText, List.append_assoc]

-- The opening brace of the payload comes within the first 64 characters unless a hash stands before it.
theorem CloudAccount.previous_length_le (ha : a.Persisted) (hb : b.Persisted)
    (same : (CloudAccount.preimage a).toList = (CloudAccount.preimage b).toList) :
    b.previousText.length ≤ a.previousText.length := by
  rw [CloudAccount.preimage_chars, CloudAccount.preimage_chars] at same
  by_contra hlt
  have la := ha.previous_length
  have lb := hb.previous_length
  have hnone : a.previousText = [] := by
    apply List.length_eq_zero_iff.mp
    split at la <;> split at lb <;> omega
  have hlen : b.previousText.length = 64 := by
    split at lb <;> omega
  obtain ⟨fields, hfields⟩ := ha.payload
  obtain ⟨rest, hrest⟩ := marshalChars_obj fields
  rw [hnone, List.nil_append, hfields, hrest, List.cons_append] at same
  have hshort := a.eventType.label_chars.2.2
  have brace : (b.previousText ++ (b.eventType.label.toList ++
      (GoJson.marshalChars b.payload ++ b.correlationId.toList)))[a.eventType.label.toList.length]? =
        some openBrace := by
    rw [← same]
    simp
  rw [List.getElem?_append_left (by omega)] at brace
  exact absurd (hb.previous_hex _ (List.mem_of_getElem? brace)) (by decide)

theorem CloudAccount.preimage_eq_iff (ha : a.Persisted) (hb : b.Persisted) :
    CloudAccount.preimage a = CloudAccount.preimage b ↔ CloudAccount.hashed a = CloudAccount.hashed b := by
  constructor
  · intro same
    have chars := congrArg String.toList same
    have hlen := le_antisymm (CloudAccount.previous_length_le hb ha chars.symm)
      (CloudAccount.previous_length_le ha hb chars)
    rw [CloudAccount.preimage_chars, CloudAccount.preimage_chars] at chars
    obtain ⟨hprevious, chars⟩ := List.append_inj chars hlen
    obtain ⟨fields, hfields⟩ := ha.payload
    obtain ⟨fields', hfields'⟩ := hb.payload
    obtain ⟨rest, hrest⟩ := marshalChars_obj fields
    obtain ⟨rest', hrest'⟩ := marshalChars_obj fields'
    rw [hfields, hfields'] at chars
    have cut := chars
    rw [hrest, hrest', List.cons_append, List.cons_append] at cut
    obtain ⟨hevent, -⟩ := mark_cancel a.eventType.label_chars.2.1 b.eventType.label_chars.2.1 cut
    rw [hevent] at chars
    obtain ⟨hpayload, hcorrelation⟩ := GoJson.marshalFields_cancel (List.append_cancel_left chars)
    rw [← hfields, ← hfields'] at hpayload
    rw [CloudAccount.hashed, CloudAccount.hashed, ha.previous_eq hb hprevious,
      EventType.label_injective (String.toList_inj.mp hevent),
      ha.payload_eq hb Function.injective_id hpayload, String.toList_inj.mp hcorrelation]
  · intro same
    simp only [CloudAccount.hashed, Prod.mk.injEq] at same
    obtain ⟨hprevious, hevent, hpayload, hcorrelation⟩ := same
    rw [CloudAccount.preimage, CloudAccount.preimage, hprevious, hevent, hpayload, hcorrelation]

end Preimages

variable [Platform]

-- A row is in order when its hash is that of the text its writer hashes.
def Verifies (preimage : Entry → String) (row : AuditRow) : Prop :=
  row.hash = Platform.sha256Hex (preimage row.toEntry)

theorem not_verifies_iff {preimage : Entry → String} {row row' : AuditRow} (kept : row'.hash = row.hash)
    (verified : Verifies preimage row)
    (collisionFree : Platform.sha256Hex (preimage row.toEntry) = Platform.sha256Hex (preimage row'.toEntry) →
      preimage row.toEntry = preimage row'.toEntry) :
    ¬ Verifies preimage row' ↔ preimage row.toEntry ≠ preimage row'.toEntry := by
  unfold Verifies at verified ⊢
  rw [kept, verified]
  exact not_congr ⟨collisionFree, congrArg _⟩

theorem change_told_iff_hashed {row row' : AuditRow} (persisted : row.toEntry.Persisted)
    (persisted' : row'.toEntry.Persisted) (kept : row'.hash = row.hash)
    (collisionFree : ∀ text ∈ [AuditService.recheck, CloudAccount.preimage],
      Platform.sha256Hex (text row.toEntry) = Platform.sha256Hex (text row'.toEntry) →
        text row.toEntry = text row'.toEntry) :
    ((AuditService.recheck row.toEntry ≠ AuditService.recheck row'.toEntry ↔
        AuditService.hashed (AuditService.reread row.toEntry) ≠ AuditService.hashed (AuditService.reread row'.toEntry)) ∧
      (Verifies AuditService.recheck row → (¬ Verifies AuditService.recheck row' ↔
        AuditService.hashed (AuditService.reread row.toEntry) ≠ AuditService.hashed (AuditService.reread row'.toEntry)))) ∧
    (CloudAccount.preimage row.toEntry ≠ CloudAccount.preimage row'.toEntry ↔
        CloudAccount.hashed row.toEntry ≠ CloudAccount.hashed row'.toEntry) ∧
      (Verifies CloudAccount.preimage row → (¬ Verifies CloudAccount.preimage row' ↔
        CloudAccount.hashed row.toEntry ≠ CloudAccount.hashed row'.toEntry)) := by
  have service := not_congr (AuditService.preimage_eq_iff (AuditService.reread_persisted persisted)
    (AuditService.reread_persisted persisted'))
  have account := not_congr (CloudAccount.preimage_eq_iff persisted persisted')
  refine ⟨⟨service, ?_⟩, account, ?_⟩
  · exact fun verified => (not_verifies_iff kept verified (collisionFree _ (by simp))).trans service
  · exact fun verified => (not_verifies_iff kept verified (collisionFree _ (by simp))).trans account

section Example

def runRow : AuditRow := runEntry.row secondHash 1

def otherActor : AuditRow := { runRow with actorId := "7c04d9a1-52be-4e86-93f7-0a6d1c8b2e5f" }

def accountRow : AuditRow := accountEntry.row firstHash 0

def otherWorkspace : AuditRow := { accountRow with workspaceId := "94e1f7b3-0d26-4c58-b7a9-8f3e5c1d6072" }

omit [Platform] in
theorem runRow_persisted : runRow.toEntry.Persisted :=
  ⟨by decide, by decide, fun h hh => by cases hh; exact ⟨rfl, List.all_eq_true.mp (by decide)⟩, ⟨_, rfl⟩, rfl⟩

omit [Platform] in
theorem accountRow_persisted : accountRow.toEntry.Persisted :=
  ⟨by decide, by decide, by simp [accountRow, accountEntry, Entry.row], ⟨_, rfl⟩, rfl⟩

omit [Platform] in
theorem otherActor_persisted : otherActor.toEntry.Persisted := { runRow_persisted with }

omit [Platform] in
theorem otherWorkspace_persisted : otherWorkspace.toEntry.Persisted :=
  { accountRow_persisted with workspace := by decide }

omit [Platform] in
theorem change_told_iff_hashed_actor :
    letI := twoHashes
    Verifies AuditService.recheck runRow ∧ Verifies AuditService.recheck otherActor := by
  let _ := twoHashes
  have verified : Verifies AuditService.recheck runRow := twoRows_hashes.2.symm
  have told := (change_told_iff_hashed runRow_persisted otherActor_persisted rfl (fun text mem _ => by
    rcases List.mem_pair.mp mem with rfl | rfl
    · rfl
    · rfl)).1.2 verified
  exact ⟨verified, not_not.mp fun other => told.mp other rfl⟩

-- Of a run its actor, and of an account its workspace, can be changed under the hash.
omit [Platform] in
theorem change_not_told :
    ¬ (∀ a b : Entry, a.Persisted → b.Persisted → a ≠ b →
        AuditService.preimage a ≠ AuditService.preimage b) ∧
      ¬ ∀ a b : Entry, a.Persisted → b.Persisted → a ≠ b →
        CloudAccount.preimage a ≠ CloudAccount.preimage b := by
  refine ⟨fun told => ?_, fun told => ?_⟩
  · exact told runRow.toEntry otherActor.toEntry runRow_persisted otherActor_persisted (by decide) rfl
  · exact told accountRow.toEntry otherWorkspace.toEntry accountRow_persisted otherWorkspace_persisted
      (by decide) rfl

end Example

end Provisr.Audit
