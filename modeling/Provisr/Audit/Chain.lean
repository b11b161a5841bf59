import Provisr.Audit.Writers

namespace Provisr.Audit

open Provisr.Foundation Provisr.Orchestrator

inductive Append where
  | auditService (params : AuditAppendParams)
  | workspaceService (workspaceId : String) (eventType : EventType) (actorId resourceType resourceId : String)
      (payload : JsFields) (correlation : Correlation)
  | policyService (workspaceId : String) (eventType : EventType) (resourceId : String) (payload : JsFields)
      (correlationId fresh : String)
  | approvalService (record : AuditRecord) (correlationId fresh : String) (parses : String → Bool)
  | stateService (workspaceId runId : String) (version : Nat) (correlationId : String)
  | iacArtifact (workspaceId correlationId : String) (artifact : ArtifactEvidence)
  | stateBackend (workspaceId correlationId : String) (event : EventType) (resourceId : String)
      (fields : JsFields)
  | cloudAccount (workspaceId : String) (eventType : EventType) (resourceId : String) (payload : JsFields)
      (correlationId : String)

variable [Platform]

def Append.program : Append → Prog Ret Unit
  | .auditService params => AuditService.executeAppend params
  | .workspaceService workspaceId eventType actorId resourceType resourceId payload correlation =>
    WorkspaceService.appendAuditEvent workspaceId eventType actorId resourceType resourceId payload correlation
  | .policyService workspaceId eventType resourceId payload correlationId fresh =>
    PolicyService.emitAudit workspaceId eventType resourceId payload correlationId fresh
  | .approvalService record correlationId fresh parses =>
    ApprovalService.recordEvaluation record correlationId fresh parses
  | .stateService workspaceId runId version correlationId =>
    StateService.store workspaceId runId version correlationId
  | .iacArtifact workspaceId correlationId artifact =>
    IacArtifact.appendAudit workspaceId correlationId artifact
  | .stateBackend workspaceId correlationId event resourceId fields =>
    StateBackend.appendAudit workspaceId correlationId event resourceId fields
  | .cloudAccount workspaceId eventType resourceId payload correlationId =>
    CloudAccount.emitAudit workspaceId eventType resourceId payload correlationId

def transaction : List Append → Prog Ret Unit
  | [] => pure ()
  | a :: rest => do
    a.program
    transaction rest

def engine : Engine (List Append) Ret String (List AuditRow) AuditRow Unit where
  apply row rows := rows ++ [row]
  locks := locks
  exec := exec
  program := transaction
  commits _ := true

structure Chain (rows : List AuditRow) (drawn : Nat) : Prop where
  ascending : rows.Pairwise fun a b => a.seq < b.seq
  below : ∀ r ∈ rows, r.seq < drawn
  linked : Linked AuditRow.hash (fun r => r.previousHash) none rows
  unique : (rows.map AuditRow.hash).Nodup

omit [Platform] in
theorem Chain.nil (n : Nat) : Chain [] n := ⟨List.Pairwise.nil, by simp, trivial, List.nodup_nil⟩

omit [Platform] in
theorem Chain.mono {rows : List AuditRow} {n n' : Nat} (le : n ≤ n') (h : Chain rows n) : Chain rows n' :=
  ⟨h.ascending, fun r hr => (h.below r hr).trans_le le, h.linked, h.unique⟩

omit [Platform] in
theorem argmax_seq {rows : List AuditRow} (h : rows.Pairwise fun a b => a.seq < b.seq) :
    rows.argmax AuditRow.seq = rows.getLast? := by
  induction rows using List.reverseRecOn with
  | nil => rfl
  | append_singleton rows r ih =>
    obtain ⟨hrows, -, hlast⟩ := List.pairwise_append.mp h
    rw [List.argmax_concat, ih hrows, List.getLast?_concat]
    cases hl : rows.getLast? with
    | none => rfl
    | some l =>
      have hlt : l.seq < r.seq := hlast l (List.mem_of_getLast? hl) r (by simp)
      simp [hlt]

omit [Platform] in
theorem Chain.selectTail {rows : List AuditRow} {n : Nat} (h : Chain rows n) :
    selectTail rows = tip AuditRow.hash none rows := by
  rw [Audit.selectTail, argmax_seq h.ascending, tip, Option.or_none]

omit [Platform] in
theorem Chain.insert {rows : List AuditRow} {n : Nat} (h : Chain rows n) {r : AuditRow} (le : n ≤ r.seq)
    (fresh : r.hash ∉ rows.map AuditRow.hash) (previous : r.previousHash = tip AuditRow.hash none rows) :
    Chain (rows ++ [r]) (r.seq + 1) := by
  have below : ∀ a ∈ rows, a.seq < r.seq := fun a ha => (h.below a ha).trans_le le
  refine ⟨?_, ?_, linked_concat.mpr ⟨h.linked, previous⟩, ?_⟩
  · exact List.pairwise_append.mpr ⟨h.ascending, List.pairwise_singleton _ _, by simpa using below⟩
  · intro a ha
    rcases List.mem_append.mp ha with ha | ha
    · exact (below a ha).trans (Nat.lt_succ_self _)
    · rw [List.mem_singleton.mp ha]
      exact Nat.lt_succ_self _
  · rw [List.map_append, List.map_singleton]
    exact List.nodup_append.mpr ⟨h.unique, List.nodup_singleton _, by
      intro a ha b hb
      rw [List.mem_singleton.mp hb]
      exact fun e => fresh (e ▸ ha)⟩

-- The lock of the chain stands for the whole table.
def protection : Protection engine (List AuditRow) where
  part key rows := if key = chainLock then rows else []
  touches _ := {chainLock}
  part_apply := by
    intro key w d d' h
    by_cases hkey : key = chainLock
    · rw [if_pos hkey, if_pos hkey] at h ⊢
      rw [h]
    · rw [if_neg hkey, if_neg hkey]
  part_untouched := by
    intro key w d hkey
    rw [Set.mem_singleton_iff] at hkey
    rw [if_neg hkey, if_neg hkey]
  Kept _ rows n := Chain rows n
  mono := Chain.mono

theorem part_chainLock (rows : List AuditRow) : protection.part chainLock rows = rows := by
  change (if chainLock = chainLock then rows else []) = rows
  rw [if_pos rfl]

theorem rely_chainLock {held : Set String} {d d' : List AuditRow} (h : protection.Rely held d d')
    (locked : chainLock ∈ held) : d' = d := by
  have same := h chainLock locked
  rw [part_chainLock, part_chainLock] at same
  exact same.symm

-- With the lock of the chain held, the rows are a chain exactly when everything held is as it is kept.
theorem Chain.intact {held : Set String} {rows : List AuditRow} {n : Nat} (h : Chain rows n) :
    protection.Intact held rows n := by
  intro key hkey
  change Chain (if key = chainLock then rows else []) n
  by_cases hk : key = chainLock
  · rw [if_pos hk]
    exact h
  · rw [if_neg hk]
    exact Chain.nil n

def Unbroken {α : Type} (_ : α) (held : Set String) (rows : List AuditRow) (n : Nat) : Prop :=
  protection.Intact held rows n

-- The tail that is read is the tail the row is appended to: nobody else appends in between.
theorem appendEvent_wp (preimage : Entry → String) {columns : Option String → Entry}
    (keeps : ∀ previous, (columns previous).previousHash = previous) {held : Set String}
    {rows : List AuditRow} {n : Nat} (h : protection.Intact held rows n) :
    protection.wp Unbroken (appendEvent preimage columns) held rows n := by
  intro rows₁ n₁ rely₁ le₁ kept r ws n₂ run
  obtain ⟨rfl, rfl⟩ := run
  refine ⟨le_rfl, by simp, ?_⟩
  have chain : Chain rows₁ n₂ := by
    by_cases locked : chainLock ∈ held
    · have before := h.rely rely₁ le₁ chainLock locked
      rwa [part_chainLock] at before
    · have before := kept chainLock locked
      rwa [part_chainLock] at before
  intro rows₂ n₃ rely₂ le₂ _ previous ws n₄ run
  obtain ⟨rfl, rfl, rfl⟩ := run
  obtain rfl := rely_chainLock rely₂ (Set.mem_union_right _ rfl)
  refine ⟨le_rfl, by simp, ?_⟩
  intro rows₃ n₅ rely₃ le₃ _ _ ws n₆ run
  obtain rfl := rely_chainLock rely₃ (Set.mem_union_left _ (Set.mem_union_right _ rfl))
  obtain ⟨fresh, -, seq, le, rfl, rfl⟩ := run
  refine ⟨le.trans (Nat.le_succ _), ?_, ?_⟩
  · intro w _
    exact Set.singleton_subset_iff.mpr (Set.mem_union_left _ (Set.mem_union_left _ (Set.mem_union_right _ rfl)))
  · intro rows₄ n₇ rely₄ le₄
    have hrow : Chain _ (seq + 1) := (chain.mono (le₂.trans le₃)).insert
      (r := (columns (selectTail rows₃)).row (Platform.sha256Hex (preimage (columns (selectTail rows₃)))) seq)
      le fresh ((keeps _).trans chain.selectTail)
    exact hrow.intact.rely rely₄ le₄

theorem Append.program_wp (a : Append) {held : Set String} {rows : List AuditRow} {n : Nat}
    (h : protection.Intact held rows n) : protection.wp Unbroken a.program held rows n := by
  cases a with
  | policyService workspaceId eventType resourceId payload correlationId fresh =>
    rw [Append.program, PolicyService.emitAudit]
    split
    · exact fun _ _ rely le => h.rely rely le
    · exact appendEvent_wp _ (fun _ => rfl) h
  | _ => exact appendEvent_wp _ (fun _ => rfl) h

theorem transaction_wp (call : List Append) {held : Set String} {rows : List AuditRow} {n : Nat}
    (h : protection.Intact held rows n) : protection.wp Unbroken (transaction call) held rows n := by
  induction call generalizing held rows n with
  | nil => exact fun _ _ rely le => h.rely rely le
  | cons a rest ih =>
    refine Protection.wp_bind (Protection.wp_mono (a.program_wp h) ?_)
    exact fun _ _ _ _ after => ih after

def locking : Locking engine (List AuditRow) where
  toProtection := protection
  Post _ := Unbroken
  commits _ post := post
  program call _ _ := transaction_wp call (by simp [Protection.Intact])

-- SELECT ... ORDER BY seq
def bySeq (rows : List AuditRow) : List AuditRow := rows.mergeSort fun a b => a.seq ≤ b.seq

omit [Platform] in
theorem bySeq_eq {rows : List AuditRow} (h : rows.Pairwise fun a b => a.seq < b.seq) : bySeq rows = rows :=
  List.mergeSort_of_pairwise (h.imp fun hlt => by simpa using hlt.le)

theorem committed_chain {n : Nat} {s : Database (List Append) Ret String (List AuditRow) AuditRow Unit}
    (reachable : engine.Reachable [] n s) : Chain s.committed s.drawn := by
  have start : locking.Inv [] n := fun key => by
    have intact : protection.Intact {key} [] n := (Chain.nil n).intact
    exact intact key rfl
  have kept := (locking.holds_reachable start reachable).inv chainLock
  rw [show locking.part = protection.part from rfl, part_chainLock] at kept
  exact kept

theorem audit_rows_one_chain {n : Nat} {s : Database (List Append) Ret String (List AuditRow) AuditRow Unit}
    (reachable : engine.Reachable [] n s) :
    (∀ first, (bySeq s.committed)[0]? = some first → first.previousHash = none) ∧
      (∀ i row next, (bySeq s.committed)[i]? = some row → (bySeq s.committed)[i + 1]? = some next →
        row.seq < next.seq ∧ next.previousHash = some row.hash) ∧
      ∀ a ∈ s.committed, ∀ b ∈ s.committed, a.previousHash = b.previousHash → a = b := by
  have chain := committed_chain reachable
  rw [bySeq_eq chain.ascending]
  refine ⟨?_, ?_, ?_⟩
  · exact fun first h => previous_head chain.linked h
  · intro i row next hrow hnext
    refine ⟨?_, previous_succ chain.linked hrow hnext⟩
    obtain ⟨hi, rfl⟩ := List.getElem?_eq_some_iff.mp hrow
    obtain ⟨hj, rfl⟩ := List.getElem?_eq_some_iff.mp hnext
    exact List.pairwise_iff_getElem.mp chain.ascending i (i + 1) hi hj (Nat.lt_succ_self i)
  · intro a ha b hb same
    exact List.inj_on_of_nodup_map (previous_nodup chain.linked chain.unique) ha hb same

section Example

def firstHash : String := "5f5fcc7a842c60214cf90ff196c1fc22ed311df86f2191412bcb6dba72b240ea"

def secondHash : String := "b13fa74c95cf31faee9faefef854804b5ee6dd99746262ecc949d7c524d6cb61"

@[reducible] def twoHashes : Platform :=
  ⟨fun s => if s.toList.head? = some 'c' then firstHash else secondHash, fun _ => true⟩

def accountConnected : Append :=
  .cloudAccount "0b9e4c1a-7d52-4f3e-9a61-2c8d5e7f1034" .cloudAccountCreated
    "d2f60e8b-3c47-4a19-8b5d-1e9f7c40a632" [("provider", .str "aws"), ("label", .str "main")]
    "6f1c2d3e-4a5b-4c6d-8e7f-90a1b2c3d4e5"

def runCreated : Append :=
  .auditService ⟨"0b9e4c1a-7d52-4f3e-9a61-2c8d5e7f1034", .runCreated,
    "e81b5c24-9f06-4d73-a2c8-6b3d0f9e7154", .user, "provisioning_run",
    "3c5a9d70-18e4-4b2f-a6c3-7e9f01b2d845", [("sessionId", .str "a4d7e2b9-6c31-4e58-b0f2-5d8c1a3e9f76")],
    "6f1c2d3e-4a5b-4c6d-8e7f-90a1b2c3d4e5"⟩

def accountEntry : Entry :=
  ⟨"0b9e4c1a-7d52-4f3e-9a61-2c8d5e7f1034", .cloudAccountCreated, "cloud-account-service", .system,
    "cloud_account", "d2f60e8b-3c47-4a19-8b5d-1e9f7c40a632",
    .obj [("provider", .str "aws"), ("label", .str "main")], none, "6f1c2d3e-4a5b-4c6d-8e7f-90a1b2c3d4e5"⟩

def runEntry : Entry :=
  ⟨"0b9e4c1a-7d52-4f3e-9a61-2c8d5e7f1034", .runCreated, "e81b5c24-9f06-4d73-a2c8-6b3d0f9e7154", .user,
    "provisioning_run", "3c5a9d70-18e4-4b2f-a6c3-7e9f01b2d845",
    .obj [("sessionId", .str "a4d7e2b9-6c31-4e58-b0f2-5d8c1a3e9f76")], some firstHash,
    "6f1c2d3e-4a5b-4c6d-8e7f-90a1b2c3d4e5"⟩

def twoRows : List AuditRow := [accountEntry.row firstHash 0, runEntry.row secondHash 1]

omit [Platform] in
theorem twoHashes_first {s t : String} (h : s.toList.head? = some 'c') :
    twoHashes.sha256Hex (s ++ t) = firstHash := by
  refine if_pos ?_
  rw [String.toList_append, List.head?_append, h]
  rfl

omit [Platform] in
theorem twoHashes_second {s t : String} {c : Char} (h : s.toList.head? = some c) (other : c ≠ 'c') :
    twoHashes.sha256Hex (s ++ t) = secondHash := by
  refine if_neg ?_
  rw [String.toList_append, List.head?_append, h]
  simpa using other

omit [Platform] in
theorem twoRows_hashes :
    twoHashes.sha256Hex (CloudAccount.preimage accountEntry) = firstHash ∧
      twoHashes.sha256Hex (AuditService.preimage runEntry) = secondHash := by
  constructor
  · unfold CloudAccount.preimage
    rw [String.append_assoc, String.append_assoc]
    exact (congrArg twoHashes.sha256Hex String.empty_append).trans (twoHashes_first (by decide))
  · unfold AuditService.preimage separated
    rw [String.append_assoc]
    exact twoHashes_second (c := '5') (by decide) (by decide)

omit [Platform] in
theorem twoRows_reachable :
    letI := twoHashes
    engine.Reachable [] 0 ⟨twoRows, 2, [⟨[accountConnected], ∅, [], none⟩, ⟨[runCreated], ∅, [], none⟩]⟩ := by
  let := twoHashes
  have first : engine.Executes [] 0 [] (transaction [accountConnected]) 1 [accountEntry.row firstHash 0] () := by
    refine .op () [] _ ⟨rfl, rfl⟩ ?_
    refine .op none [] _ ⟨rfl, rfl, rfl⟩ ?_
    refine .op () [accountEntry.row firstHash 0] _ ?_ (.pure _ _ _)
    rw [← twoRows_hashes.1]
    exact ⟨List.not_mem_nil, by simp, 0, le_rfl, rfl, rfl⟩
  have second : engine.Executes [accountEntry.row firstHash 0] 1 [] (transaction [runCreated]) 2
      [runEntry.row secondHash 1] () := by
    refine .op () [] _ ⟨rfl, rfl⟩ ?_
    refine .op (some firstHash) [] _ ⟨rfl, rfl, rfl⟩ ?_
    refine .op () [runEntry.row secondHash 1] _ ?_ (.pure _ _ _)
    rw [← twoRows_hashes.2]
    refine ⟨?_, ?_, 1, le_rfl, rfl, rfl⟩
    · change twoHashes.sha256Hex (AuditService.preimage runEntry) ∉ [firstHash]
      rw [twoRows_hashes.2]
      decide
    · exact fun h hh => List.mem_singleton.mpr (Option.some.inj hh).symm
  have one := first.commits (s := ⟨[], 0, []⟩) (c := [accountConnected]) rfl (by simp)
  have two := second.commits (c := [runCreated])
    (s := ⟨[accountEntry.row firstHash 0], 1, [⟨[accountConnected], ∅, [], none⟩]⟩) rfl (by simp)
  exact one.trans two

omit [Platform] in
theorem audit_rows_one_chain_two :
    (∀ first, (bySeq twoRows)[0]? = some first → first.previousHash = none) ∧
      (∀ i row next, (bySeq twoRows)[i]? = some row → (bySeq twoRows)[i + 1]? = some next →
        row.seq < next.seq ∧ next.previousHash = some row.hash) ∧
      ∀ a ∈ twoRows, ∀ b ∈ twoRows, a.previousHash = b.previousHash → a = b :=
  letI := twoHashes
  audit_rows_one_chain twoRows_reachable

end Example

end Provisr.Audit
