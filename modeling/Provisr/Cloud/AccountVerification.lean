import Provisr.Cloud.AccountService
import Provisr.Foundation.Clients

namespace Provisr.Cloud.Accounts

open Provisr.Foundation Provisr.Backend
open Provisr.Backend.SourceMetadata (Map)
open Op (Ret)

abbrev Seen := List (Obs Ret)

section Vetting

structure Read (seen : Seen) (workspaceID id : String) (row : AccountRow) : Prop where
  selected : ∃ i, (⟨.select id workspaceID, some (some (i, row))⟩ : Obs Ret) ∈ seen ∧ PgUuid.parse id = some i
  workspace : PgUuid.parse workspaceID = some row.workspaceID
  provider : row.provider = "aws"
  status : row.status = .pending ∨ row.status = .failed

theorem Read.later {seen seen' : Seen} {workspaceID id : String} {row : AccountRow} (h : Read seen workspaceID id row)
    (more : seen ⊆ seen') : Read seen' workspaceID id row := by
  obtain ⟨i, mem, parsed⟩ := h.selected
  exact ⟨⟨i, more mem, parsed⟩, h.workspace, h.provider, h.status⟩

variable [CloudPlatform]

structure Vetted (seen : Seen) (workspaceID id externalID : String) (row : AccountRow) (key : String)
    (metadata : Option Map) : Prop extends Read seen workspaceID id row where
  derived : DeriveWorkspaceKey workspaceID = some key
  hash : ∃ h, HashExternalID key externalID = some h ∧ row.externalIDHash = some h
  stored : storedMetadata key row.metadataEncrypted = .ok metadata

-- Only a verification assumes a role, activates an account or fails it, and it may do so for the account that it has
-- read.
def Owed (c : Call) (seen : Seen) : Op → Prop
  | .verifyRole arn externalID => ∃ headers workspaceID id row key metadata,
      c = .verify headers workspaceID id (some externalID) ∧ Vetted seen workspaceID id externalID row key metadata ∧
        roleARN metadata = arn ∧ arn ≠ ""
  | .verifyAccount id workspaceID encrypted _ => ∃ headers externalID row key metadata result now nonce,
      c = .verify headers workspaceID id (some externalID) ∧
        Vetted seen workspaceID id externalID row key (some metadata) ∧
        (⟨.verifyRole (roleARN (some metadata)) externalID, .ok result⟩ : Obs Ret) ∈ seen ∧
        EncryptJSON key (verifiedMetadata metadata result externalID now) nonce = some encrypted
  | .failAccount id workspaceID _ => ∃ headers body row,
      c = .verify headers workspaceID id body ∧ Read seen workspaceID id row
  | _ => True

def granted (_ : Seen) : (o : Op) → Ret o → Prop
  | .select id workspaceID, some (some (i, row)) =>
    PgUuid.parse id = some i ∧ PgUuid.parse workspaceID = some row.workspaceID
  | _, _ => True

variable {seen seen' : Seen} {workspaceID id externalID key : String} {row : AccountRow} {metadata : Option Map}

theorem Vetted.later (h : Vetted seen workspaceID id externalID row key metadata) (more : seen ⊆ seen') :
    Vetted seen' workspaceID id externalID row key metadata :=
  ⟨h.toRead.later more, h.derived, h.hash, h.stored⟩

theorem owed_ordinary {c : Call} {o : Op} (own : o.ordinary = true ∨ o = .beginTx) : Owed c seen o := by
  cases o with
  | verifyRole | verifyAccount | failAccount => simp [Op.ordinary] at own
  | _ => trivial

end Vetting

section Requests

variable {c : Call} {headers : Headers} {workspaceID id externalID key : String} {row : AccountRow}
  {metadata : Option Map} {seen : Seen} {α : Type}

theorem inTransaction_all {message : String} {body : Int → Handling Response}
    (all : ∀ now, (body now).All (·.ordinary = true)) :
    (inTransaction message body).All fun o => o.ordinary = true ∨ o = .beginTx :=
  Async.all_bind (Async.all_attempt (.inr rfl)) fun now =>
    Async.all_finally ((all now).mono fun _ => .inl) (Async.all_ask (.inl rfl))

theorem requireAccount_all {P : Op → Prop} : (requireAccount workspaceID id).All P :=
  Async.all_bind (Async.all_bind require_all fun _ => require_all) fun _ => require_all

theorem handleUpdateStatus_all {body : Option String} :
    (handleUpdateStatus headers workspaceID id body).All fun o => o.ordinary = true ∨ o = .beginTx :=
  Async.all_bind requireAccount_all fun _ => Async.all_bind Async.all_ofExcept fun _ =>
    Async.all_bind Async.all_ofExcept fun _ => inTransaction_all fun _ => update_ordinary

theorem handleDelete_all : (handleDelete headers workspaceID id).All fun o => o.ordinary = true ∨ o = .beginTx :=
  Async.all_bind requireAccount_all fun _ => inTransaction_all fun _ => delete_ordinary

variable [CloudPlatform]

theorem handleCreate_all {body : Option CreateRequest} :
    (handleCreate headers body).All fun o => o.ordinary = true ∨ o = .beginTx := by
  refine Async.all_bind Async.all_ofExcept fun req => Async.all_bind require_all fun _ => ?_
  refine Async.all_bind require_all fun _ => Async.all_bind require_all fun _ => Async.all_bind require_all fun _ => ?_
  refine Async.all_bind Async.all_ofExcept fun key => Async.all_bind (Async.all_ask (.inl rfl)) fun nonce => ?_
  refine Async.all_bind Async.all_ofExcept fun encrypted => Async.all_bind Async.all_ofExcept fun hash => ?_
  exact inTransaction_all fun now => insert_ordinary

theorem handleList_all : (handleList workspaceID).All fun o => o.ordinary = true ∨ o = .beginTx :=
  Async.all_bind (Async.all_bind require_all fun _ => require_all) fun _ =>
    Async.all_bind (Async.all_attempt (.inl rfl)) fun _ => Async.all_pure

theorem handleGet_all : (handleGet workspaceID id).All fun o => o.ordinary = true ∨ o = .beginTx :=
  Async.all_bind requireAccount_all fun _ => Async.all_bind (Async.all_attempt (.inl rfl)) fun _ =>
    Async.all_bind Async.all_ofExcept fun _ => Async.all_bind Async.all_ofExcept fun _ => Async.all_pure

end Requests

section Verification

variable [CloudPlatform] {c : Call} {headers : Headers} {workspaceID id externalID key : String} {row : AccountRow}
  {seen : Seen} {α β : Type} {Q : Seen → α → Prop}

structure Owes (c : Call) (Q : Seen → α → Prop) (seen : Seen) (p : Handling α) : Prop where
  wp : Async.wp (Owed c) granted p Q (fun _ _ => True) seen

theorem Owes.of_all {p : Handling α} (all : p.All fun o => o.ordinary = true ∨ o = .beginTx)
    (h : ∀ seen' a, seen ⊆ seen' → Q seen' a) : Owes c Q seen p :=
  ⟨Async.wp_mono (all.wp (fun _ _ => owed_ordinary) seen) (fun seen' a more _ => h seen' a more.subset)
    fun _ _ _ _ => trivial⟩

theorem Owes.pure {a : α} (h : Q seen a) : Owes c Q seen (pure a) := ⟨h⟩

theorem Owes.throw {e : Response} : Owes c Q seen (throw e) := ⟨trivial⟩

theorem Owes.ofExcept {x : Except Response α} (h : ∀ a, x = .ok a → Q seen a) : Owes c Q seen (Async.ofExcept x) := by
  cases x with
  | error e => exact ⟨trivial⟩
  | ok a => exact ⟨h a rfl⟩

theorem Owes.require {holds : Bool} {refusal : Response} {Q : Seen → Unit → Prop} (h : holds = true → Q seen ()) :
    Owes c Q seen (Accounts.require holds refusal) := by
  unfold Accounts.require
  split
  · exact .pure (h ‹_›)
  · exact .throw

theorem Owes.attempt {o : Op} {f : Ret o → Except Response α} (owed : Owed c seen o)
    (h : ∀ r a, granted seen o r → f r = .ok a → Q (seen ++ [⟨o, r⟩]) a) : Owes c Q seen (Async.attempt o f) := by
  refine ⟨(Async.wp_attempt o f).mpr ⟨owed, fun r known => ?_⟩⟩
  cases at_ : f r with
  | error e => trivial
  | ok a => exact h r a known at_

theorem Owes.bind {Q : Seen → β → Prop} {p : Handling α} {f : α → Handling β}
    (h : Owes c (fun seen a => Owes c Q seen (f a)) seen p) : Owes c Q seen (p >>= f) :=
  ⟨(Async.wp_bind p f).mpr (Async.wp_mono h.wp (fun _ _ _ rest => rest.wp) fun _ _ _ e => e)⟩

omit [CloudPlatform] in
theorem valid_account {provider : String} {status : AccountStatus}
    (valid : validateVerificationPreconditions provider status externalID = .ok ()) :
    provider = "aws" ∧ (status = .pending ∨ status = .failed) := by
  unfold validateVerificationPreconditions at valid
  split at valid
  · cases valid
  · split at valid
    · cases valid
    · split at valid
      · cases valid
      · exact ⟨not_not.mp ‹_›, by tauto⟩

theorem hash_matches {stored : Option String} (same : verifyExternalIDHash key externalID stored = true) :
    ∃ h, HashExternalID key externalID = some h ∧ stored = some h := by
  unfold verifyExternalIDHash at same
  cases stored with
  | none => cases same
  | some h =>
    simp only [Bool.and_eq_true, beq_iff_eq] at same
    exact ⟨h, same.2, rfl⟩

omit [CloudPlatform] in
theorem some_of_orElse {refusal : Response} {x : Option α} {a : α} (same : orElse refusal x = .ok a) : x = some a := by
  cases x with
  | none => cases same
  | some b => rw [Except.ok.inj same]

abbrev Sound (c : Call) (seen : Seen) (p : Handling α) : Prop := Owes c (fun _ _ => True) seen p

theorem transaction_sound {message : String} {body : Int → Handling Response}
    (h : ∀ now seen', seen ⊆ seen' → Sound c seen' (body now)) : Sound c seen (inTransaction message body) := by
  refine .bind ?_
  refine .attempt trivial fun r now _ _ => ?_
  refine ⟨(Async.wp_finally _ _).mpr (Async.wp_mono (h now _ (List.subset_append_left _ _)).wp ?_ ?_)⟩
  · exact fun _ _ _ _ => ⟨trivial, fun _ _ => trivial⟩
  · exact fun _ _ _ _ => ⟨trivial, fun _ _ => trivial⟩

theorem failing_sound {body : Option String} {reason text : String} {response : Response}
    (read : Read seen workspaceID id row) : Sound (.verify headers workspaceID id body) seen
      (failing headers workspaceID id reason text response : Handling α) := by
  unfold failing
  refine ⟨(Async.wp_bind _ _).mpr ((Async.wp_lift _).mpr ⟨trivial, fun r _ => ?_⟩)⟩
  cases r with
  | none => trivial
  | some now =>
    have read := read.later (List.subset_append_left _ [(⟨Op.beginTx, some now⟩ : Obs Ret)])
    refine ⟨⟨headers, body, row, rfl, read⟩, fun _ _ => ⟨trivial, fun _ _ => ⟨trivial, fun _ _ => ⟨trivial, ?_⟩⟩⟩⟩
    exact fun _ _ => trivial

theorem verified_sound {encrypted : String} {e : AuditEvent} {f g k : Bool → Except Response Unit}
    {rest : Int → Unit → Handling Response}
    (owed : ∀ seen' now, seen ⊆ seen' → Owed c seen' (.verifyAccount id workspaceID encrypted now))
    (done : ∀ seen now u, Sound c seen (rest now u)) :
    Sound c seen (Async.ask Op.clock >>= fun now => Async.attempt (Op.verifyAccount id workspaceID encrypted now) f >>=
      fun _ => Async.attempt (Op.emitAudit e) g >>= fun _ => Async.attempt Op.commit k >>= rest now) := by
  refine .bind ?_
  refine .attempt trivial fun now _ _ _ => ?_
  refine .bind ?_
  refine .attempt (owed _ _ (List.subset_append_left _ _)) fun _ _ _ _ => ?_
  refine .bind ?_
  refine .attempt trivial fun _ _ _ _ => ?_
  refine .bind ?_
  exact .attempt trivial fun _ _ _ _ => done _ _ _

theorem activate_sound {metadata : Map} {result : AWSVerificationResult} {encrypted : String} {now began : Int}
    {nonce : Option String} (vetted : Vetted seen workspaceID id externalID row key (some metadata))
    (assumed : (⟨.verifyRole (roleARN (some metadata)) externalID, .ok result⟩ : Obs Ret) ∈ seen)
    (sealed_ : EncryptJSON key (verifiedMetadata metadata result externalID now) nonce = some encrypted) :
    Sound (.verify headers workspaceID id (some externalID)) seen
      (activate headers workspaceID id result encrypted began) := by
  have owed : ∀ {seen'}, seen ⊆ seen' → ∀ now',
      Owed (.verify headers workspaceID id (some externalID)) seen' (.verifyAccount id workspaceID encrypted now') :=
    fun more now' =>
      ⟨headers, externalID, row, key, metadata, result, now, nonce, rfl, vetted.later more, more assumed, sealed_⟩
  unfold activate
  split
  · refine .bind ?_
    refine .of_all (claim_ordinary.mono fun _ => .inl) fun seen₁ _ more => ?_
    exact verified_sound (fun seen' now more' => owed (List.Subset.trans more more') now) fun _ _ _ => .pure trivial
  · exact verified_sound (fun seen' now more => owed more now) fun _ _ _ => .pure trivial

theorem assume_sound {metadata : Option Map} (vetted : Vetted seen workspaceID id externalID row key metadata) :
    Sound (.verify headers workspaceID id (some externalID)) seen
      (assume headers workspaceID id externalID key metadata) := by
  unfold assume
  split
  · exact failing_sound vetted.toRead
  · refine .bind ?_
    refine .attempt ⟨headers, workspaceID, id, row, key, metadata, rfl, vetted, rfl, ‹_›⟩ fun assumed _ _ same => ?_
    obtain rfl := Except.ok.inj same
    have vetted := vetted.later
      (List.subset_append_left _ [(⟨Op.verifyRole (roleARN metadata) externalID, assumed⟩ : Obs Ret)])
    cases assumed with
    | error err => exact failing_sound vetted.toRead
    | ok result =>
      cases metadata with
      | none => exact .throw
      | some metadata =>
        refine .bind ?_
        refine .attempt trivial fun now _ _ _ => ?_
        refine .bind ?_
        refine .attempt trivial fun nonce _ _ _ => ?_
        refine .bind ?_
        refine .ofExcept fun encrypted same => ?_
        have sealed_ := some_of_orElse same
        refine transaction_sound fun began seen' more => ?_
        refine activate_sound (vetted.later ?_) (more ?_) sealed_
        · refine List.Subset.trans ?_ more
          rw [List.append_assoc]
          exact List.subset_append_left _ _
        · simp

theorem handleVerify_sound {body : Option String} :
    Sound (.verify headers workspaceID id body) [] (handleVerify headers workspaceID id body) := by
  unfold handleVerify
  refine .bind ?_
  refine .of_all requireAccount_all fun seen₁ _ _ => ?_
  refine .bind ?_
  refine .ofExcept fun externalID asked => ?_
  obtain rfl : body = some externalID := some_of_orElse asked
  refine .bind ?_
  refine .require fun _ => ?_
  refine .bind ?_
  refine .attempt trivial ?_
  rintro r ⟨j, row⟩ known same
  obtain rfl : r = some (some (j, row)) := by
    rcases r with _ | _ | found
    · cases same
    · cases same
    · rw [Except.ok.inj same]
  refine .bind ?_
  refine .ofExcept fun _ valid => ?_
  obtain ⟨provider, status⟩ := valid_account valid
  have read : Read (seen₁ ++ [⟨Op.select id workspaceID, some (some (j, row))⟩]) workspaceID id row :=
    ⟨⟨j, List.mem_append_right _ (List.mem_singleton.mpr rfl), known.1⟩, known.2, provider, status⟩
  refine .bind ?_
  refine .ofExcept fun key derived => ?_
  split
  · refine .bind ?_
    refine .ofExcept fun metadata stored => ?_
    exact assume_sound ⟨read, some_of_orElse derived, hash_matches ‹_›, stored⟩
  · exact failing_sound read

theorem handler_sound : ∀ c : Call, Sound c [] (handler c)
  | .create .. => .of_all handleCreate_all fun _ _ _ => trivial
  | .list _ => .of_all handleList_all fun _ _ _ => trivial
  | .get .. => .of_all handleGet_all fun _ _ _ => trivial
  | .updateStatus .. => .of_all handleUpdateStatus_all fun _ _ _ => trivial
  | .verify .. => handleVerify_sound
  | .delete .. => .of_all handleDelete_all fun _ _ _ => trivial

end Verification

section Runs

variable [CloudPlatform] {d : Tables} {s : System Call Ret Lock Tables Write Response}
  {c : Client Call Ret Lock Write Response}

theorem granted_of_move {d' : Tables} {tx tx' : Option (Tx Lock Write)} {o : Op} {r : Ret o} {seen : Seen}
    (move : server.Move d tx o r d' tx') : granted seen o r := by
  cases o with
  | select id workspaceID =>
    rcases r with _ | _ | ⟨i, row⟩
    · trivial
    · trivial
    · rcases (move.aside rfl).1 _ rfl with ⟨j, row', finds, same⟩ | ⟨-, none_⟩
      · cases same
        exact ⟨finds.1, finds.2.1⟩
      · cases none_
  | _ => trivial

def vetting : server.Duty where
  pre := Owed
  ok := granted
  post _ _ _ := True
  Inv _ := True
  Knows _ _ _ _ := True
  knows_nil _ _ := trivial
  own _ _ _ move := ⟨trivial, granted_of_move move, trivial⟩
  lost _ := trivial
  other _ _ _ _ _ _ _ := trivial
  program c := by
    change (answer <$> (handler c).run).wp _ _ _ _
    rw [map_eq_pure_bind, Prog.wp_bind]
    exact Prog.wp_mono (handler_sound c).wp fun _ _ _ _ => trivial

-- No role is assumed, and no account is activated or failed, but for an account that was read as one to verify, with
-- the external id that it was created with.
theorem verification_vetted (reachable : server.Reachable d s) (client : c ∈ s.clients) {o : Op}
    {k : Ret o → Prog Ret Response} (next : c.rest = .op o k) : Owed c.call c.seen o := by
  have spec := (vetting.holds_reachable trivial reachable).wp c client
  rw [next] at spec
  exact spec.1

end Runs

section Example

@[reducible] def plainPlatform : CloudPlatform where
  master := "master"
  mac key text := key ++ "/" ++ text
  sealed _ nonce plaintext := nonce ++ plaintext
  opened _ blob := some (String.ofList (blob.toList.drop 5))
  format _ := "2026-01-01T00:00:00Z"

def workspaceId : String := (PgUuid.repeated 6).text

def accountId : String := (PgUuid.repeated 10).text

def browser : Headers := ⟨"key-1", "correlation-1"⟩

def waiting : AccountRow :=
  ⟨PgUuid.repeated 6, "aws", "main", some ("master/cloud-account:v1:" ++ workspaceId ++ "/external-id:x"),
    "nonce\x7b\"role_arn\":\"r\"\x7d", .pending, none, 1, 1⟩

def neighbourId : String := (PgUuid.repeated 11).text

def neighbour : AccountRow :=
  ⟨PgUuid.repeated 7, "gcp", "billing", some "hash", "nonce\x7b\x7d", .pending, none, 1, 1⟩

def bothWaiting : Tables :=
  ⟨fun i => if i = PgUuid.repeated 10 then some waiting else if i = PgUuid.repeated 11 then some neighbour else none,
    fun _ _ => none,
    [⟨workspaceId, .cloudAccountCreated, accountId, [("provider", .str "aws"), ("label", .str "main")],
      "correlation-0"⟩,
     ⟨(PgUuid.repeated 7).text, .cloudAccountCreated, neighbourId, [("provider", .str "gcp"), ("label", .str "billing")],
      "correlation-2"⟩]⟩

theorem requireAccount_valid {workspaceID id : String} (given : workspaceID ≠ "")
    (workspace : validWorkspaceID workspaceID = true) (account : validWorkspaceID id = true) :
    requireAccount workspaceID id = pure () := by
  simp [requireAccount, requireWorkspaceID, require, given, workspace, account]

theorem example_valid : workspaceId ≠ "" ∧ validWorkspaceID workspaceId = true ∧ validWorkspaceID accountId = true := by
  decide +kernel

theorem stored_role : letI := plainPlatform
    (storedMetadata ("master/cloud-account:v1:" ++ workspaceId) waiting.metadataEncrypted).toOption.map roleARN =
      some "r" := by
  decide +kernel

theorem example_key : letI := plainPlatform
    workspaceKey workspaceId = .ok ("master/cloud-account:v1:" ++ workspaceId) := by
  let _ := plainPlatform
  unfold workspaceKey DeriveWorkspaceKey
  rw [if_neg example_valid.1]
  rfl

-- A verification that has read its account goes on to assume the role.
theorem verification_starts : letI := plainPlatform
    ∃ k, Transcript (server.program (.verify browser workspaceId accountId (some "x")))
      [⟨.select accountId workspaceId, some (some (PgUuid.repeated 10, waiting))⟩] (.op (.verifyRole "r" "x") k) := by
  let _ := plainPlatform
  obtain ⟨given, workspace, account⟩ := example_valid
  have hash : verifyExternalIDHash ("master/cloud-account:v1:" ++ workspaceId) "x" waiting.externalIDHash = true := by
    decide +kernel
  obtain ⟨m, stored, arn⟩ : ∃ m, storedMetadata ("master/cloud-account:v1:" ++ workspaceId) waiting.metadataEncrypted =
      .ok m ∧ roleARN m = "r" := by
    have read := stored_role
    cases at_ : storedMetadata ("master/cloud-account:v1:" ++ workspaceId) waiting.metadataEncrypted with
    | error e =>
      rw [at_] at read
      cases read
    | ok m =>
      rw [at_] at read
      exact ⟨m, rfl, Option.some.inj read⟩
  have trimmed : (TrimSpace "x" != "") = true := by decide +kernel
  have vetted : validateVerificationPreconditions "aws" .pending "x" = .ok () := by
    have spaces : TrimSpace "x" ≠ "" := by simpa using trimmed
    simp [validateVerificationPreconditions, spaces]
  change ∃ k, Transcript (answer <$> (handleVerify browser workspaceId accountId (some "x")).run) _ _
  unfold handleVerify
  rw [requireAccount_valid given workspace account]
  simp only [pure_bind, decoded, orElse, Async.ofExcept_ok, require, trimmed, if_true, example_key]
  rw [map_eq_pure_bind]
  obtain ⟨k, assumes⟩ : ∃ k,
      (assume browser workspaceId accountId "x" ("master/cloud-account:v1:" ++ workspaceId) m).run =
        .op (.verifyRole "r" "x") k := by
    unfold assume
    rw [arn, if_neg (by decide)]
    exact ⟨_, rfl⟩
  have read : Transcript (Async.attempt (Op.select accountId workspaceId) (found "failed to query cloud account") :
      Handling (PgUuid × AccountRow)).run [⟨.select accountId workspaceId, some (some (PgUuid.repeated 10, waiting))⟩]
      (.pure (.ok (PgUuid.repeated 10, waiting))) := .attempt rfl
  refine ⟨fun r => k r >>= fun a => pure (answer a), ?_⟩
  change Transcript _ _ (Prog.op (Op.verifyRole "r" "x") k >>= fun a => pure (answer a))
  rw [← List.append_nil [_]]
  refine .under (.andThen read ?_)
  change Transcript (Async.ofExcept (validateVerificationPreconditions "aws" .pending "x") >>= _).run [] _
  rw [vetted, Async.ofExcept_ok, pure_bind, if_pos hash, stored, Async.ofExcept_ok, pure_bind, assumes]
  exact .start _

theorem finds_waiting : Op.Finds bothWaiting accountId workspaceId (PgUuid.repeated 10) waiting :=
  ⟨PgUuid.parse_text _, PgUuid.parse_text _, by simp [bothWaiting]⟩

theorem verification_vetted_waiting : letI := plainPlatform
    ∃ (s : System Call Ret Lock Tables Write Response) (c : Client Call Ret Lock Write Response),
      server.Reachable bothWaiting s ∧ c ∈ s.clients ∧ (∃ k, c.rest = .op (.verifyRole "r" "x") k) ∧
        Owed c.call c.seen (.verifyRole "r" "x") := by
  let _ := plainPlatform
  obtain ⟨k, starts⟩ := verification_starts
  have moves : server.Moves bothWaiting none [⟨.select accountId workspaceId, some (some (PgUuid.repeated 10, waiting))⟩]
      bothWaiting none := by
    refine .next (.outside rfl ⟨?_, rfl⟩) (.done _ _)
    rintro found same
    exact .inl ⟨_, _, finds_waiting, (Option.some.inj same).symm⟩
  have reachable := Service.reachable_alone starts moves
  exact ⟨_, _, reachable, List.mem_singleton.mpr rfl, ⟨k, rfl⟩,
    verification_vetted reachable (List.mem_singleton.mpr rfl) rfl⟩

end Example

end Provisr.Cloud.Accounts
