import Provisr.Orchestrator.SessionDeletion

namespace Provisr.Orchestrator.Sessions

open Provisr.Foundation
open Provisr.Backend.Manifest (uuidIn textIn answers)
open ChatPersistenceService (PlanningTurn Fresh fingerprint submitPlanningTurn replayTurn)

variable [Platform]

section Requests

-- error instanceof ConflictError || error instanceof ForbiddenError
def rethrown : Outcome → Bool
  | .refused (.conflict _) | .refused (.forbidden _) => true
  | _ => false

-- A whole request: its transaction, which sees the database d, and after a rollback the lookup, which sees d'.
-- The writes are what it leaves behind.
inductive Submits (faults : Bool) (params : PlanningTurn) (fresh : Fresh) (d d' : Db) (n : Nat) :
    List Write → Outcome → Prop
  | committed {n' : Nat} {ws : List Write} {a : Outcome}
      (run : (engine faults).Executes d n [] (submitPlanningTurn params fresh) n' ws a) (ok : a.commits = true) :
      Submits faults params fresh d d' n ws a
  | thrown {n' : Nat} {ws : List Write} {a : Outcome}
      (run : (engine faults).Executes d n [] (submitPlanningTurn params fresh) n' ws a) (undone : a.commits = false)
      (typed : rethrown a = true) : Submits faults params fresh d d' n [] a
  | recovered {n' m : Nat} {ws ws' : List Write} {a b : Outcome}
      (run : (engine faults).Executes d n [] (submitPlanningTurn params fresh) n' ws a) (undone : a.commits = false)
      (untyped : rethrown a = false)
      (lookup : (engine faults).Executes d' n' [] (ChatPersistenceService.fallback params a) m ws' b) :
      Submits faults params fresh d d' n ws' b

def roleOf (d : Db) (params : PlanningTurn) : Option (Option String) := do
  let workspaceId ← uuidIn params.workspaceId
  let userId ← uuidIn params.userId
  some (d.role workspaceId userId)

def Unauthorized (d : Db) (params : PlanningTurn) : Prop := ∀ role, roleOf d params = some role → mayMutate role = false

def isMember (d : Db) (params : PlanningTurn) : Bool := (roleOf d params).any Option.isSome

def storedTurn (d : Db) (params : PlanningTurn) : Option TurnRow :=
  ((Query.turnByKey params.workspaceId params.userId params.idempotencyKey).answer d).join

def Refuses (faults : Bool) (params : PlanningTurn) (fresh : Fresh) (d d' : Db) (n : Nat) : Prop :=
  ∀ ws a, Submits faults params fresh d d' n ws a → a.commits = false ∧ ws = []

end Requests

section Transaction

variable {faults : Bool} {params : PlanningTurn} {fresh : Fresh} {d : Db} {n n' : Nat} {ws ws' : List Write}
  {a : Outcome}

omit [Platform] in
theorem roleOf_eq : roleOf d params = (uuidIn params.workspaceId).bind fun w => (uuidIn params.userId).bind fun u =>
    some (d.role w u) := rfl

omit [Platform] in
theorem answer_membership : (Query.membership params.workspaceId params.userId).answer d =
    (roleOf d params).map Option.isSome := by
  change ((uuidIn params.workspaceId).bind fun w => (uuidIn params.userId).bind fun u =>
    some (d.role w u).isSome) = _
  rw [roleOf_eq]
  cases uuidIn params.workspaceId <;> cases uuidIn params.userId <;> rfl

omit [Platform] in
theorem answer_mutationPermission : (Query.mutationPermission params.workspaceId params.userId).answer d =
    (roleOf d params).map mayMutate := by
  change ((uuidIn params.workspaceId).bind fun w => (uuidIn params.userId).bind fun u =>
    some (mayMutate (d.role w u))) = _
  rw [roleOf_eq]
  cases uuidIn params.workspaceId <;> cases uuidIn params.userId <;> rfl

theorem require_executes {q : Query} {holds : q.Answer → Bool} {r : Refusal} {next : Prog Ret Outcome}
    (run : (engine faults).Executes d n [] (require q holds r next) n' ws a) :
    (∃ answer, q.answer d = some answer ∧ holds answer = true ∧ (engine faults).Executes d n [] next n' ws a) ∨
      (∃ answer, q.answer d = some answer ∧ holds answer = false ∧ a = .refused r) ∨
      ((faults = true ∨ q.answer d = none) ∧ a = .failed .other) := by
  unfold require statement at run
  cases run with
  | op r' vs m ran rest =>
    obtain ⟨answered, rfl, rfl⟩ := ran
    obtain ⟨answer, found, rfl⟩ | ⟨why, rfl⟩ := answered
    · change (engine faults).Executes d _ [] (if holds answer then next else .pure (.refused r)) n' ws a at rest
      cases held : holds answer with
      | true =>
        rw [held] at rest
        exact .inl ⟨answer, found, held, rest⟩
      | false =>
        rw [held] at rest
        cases rest
        exact .inr (.inl ⟨answer, found, held, rfl⟩)
    · cases rest
      exact .inr (.inr ⟨why, rfl⟩)

theorem unauthorized_executes (unauthorized : Unauthorized d params)
    (run : (engine faults).Executes d n [] (submitPlanningTurn params fresh) n' ws a) :
    (a = .refused (.notFound "workspace membership") ∧ isMember d params = false) ∨
      (a = .refused (.forbidden "Provisioning permission required") ∧ isMember d params = true) ∨
      (a = .failed .other ∧ (faults = true ∨ roleOf d params = none)) := by
  rcases require_executes run with ⟨answer, found, held, run⟩ | ⟨answer, found, held, same⟩ | ⟨why, same⟩
  · rw [answer_membership] at found
    obtain ⟨role, has, rfl⟩ := Option.map_eq_some_iff.mp found
    rcases require_executes run with ⟨answer, found, allowed, run⟩ | ⟨-, -, -, same⟩ | ⟨why, same⟩
    · rw [answer_mutationPermission, has] at found
      obtain rfl := Option.some.inj found
      rw [show id (mayMutate role) = mayMutate role from rfl, unauthorized role has] at allowed
      cases allowed
    · refine .inr (.inl ⟨same, ?_⟩)
      unfold isMember
      rw [has]
      exact held
    · refine .inr (.inr ⟨same, why.imp_right fun absent => ?_⟩)
      rw [answer_mutationPermission] at absent
      exact Option.map_eq_none_iff.mp absent
  · rw [answer_membership] at found
    obtain ⟨role, has, rfl⟩ := Option.map_eq_some_iff.mp found
    refine .inl ⟨same, ?_⟩
    unfold isMember
    rw [has]
    exact held
  · refine .inr (.inr ⟨same, why.imp_right fun absent => ?_⟩)
    rw [answer_membership] at absent
    exact Option.map_eq_none_iff.mp absent

theorem unauthorized_undone (unauthorized : Unauthorized d params)
    (run : (engine faults).Executes d n [] (submitPlanningTurn params fresh) n' ws a) : a.commits = false := by
  rcases unauthorized_executes unauthorized run with ⟨rfl, -⟩ | ⟨rfl, -⟩ | ⟨rfl, -⟩ <;> rfl

theorem stranger_executes (stranger : isMember d params = false) {role : Option String}
    (known : roleOf d params = some role) : (engine faults).Executes d n [] (submitPlanningTurn params fresh) n []
      (.refused (.notFound "workspace membership")) := by
  have absent : role.isSome = false := by
    unfold isMember at stranger
    rw [known] at stranger
    exact stranger
  have answered : (Query.membership params.workspaceId params.userId).answer d = some false := by
    rw [answer_membership, known, Option.map_some, absent]
  exact .op (.ok false) [] n ⟨.inl ⟨_, answered, rfl⟩, rfl, rfl⟩ (.pure _ _ _)

theorem broken_executes : (engine true).Executes d n [] (submitPlanningTurn params fresh) n [] (.failed .other) :=
  .op (.error .other) [] n ⟨.inr ⟨.inl rfl, rfl⟩, rfl, rfl⟩ (.pure _ _ _)

end Transaction

section Lookup

variable {faults : Bool} {params : PlanningTurn} {fresh : Fresh} {d d' : Db} {n n' : Nat} {ws : List Write}
  {a b : Outcome}

theorem fallback_executes (undone : a.commits = false)
    (lookup : (engine faults).Executes d' n [] (ChatPersistenceService.fallback params a) n' ws b) :
    ws = [] ∧ (b.commits = false ∨
      ∃ turn, storedTurn d' params = some turn ∧ turn.requestFingerprint = fingerprint params) := by
  cases lookup with
  | op r vs m ran rest =>
    obtain ⟨answered, rfl, rfl⟩ := ran
    obtain ⟨answer, found, rfl⟩ | ⟨-, rfl⟩ := answered
    · cases answer with
      | none =>
        cases rest
        exact ⟨rfl, .inl undone⟩
      | some turn =>
        cases rest
        refine ⟨rfl, ?_⟩
        by_cases same : turn.requestFingerprint = fingerprint params
        · exact .inr ⟨turn, Option.join_eq_some_iff.mpr found, same⟩
        · refine .inl ?_
          unfold replayTurn
          rw [if_pos same]
          rfl
    · cases rest
      exact ⟨rfl, .inl undone⟩

theorem fallback_replays {turn : TurnRow} (stored : storedTurn d' params = some turn)
    (same : turn.requestFingerprint = fingerprint params) :
    (engine faults).Executes d' n [] (ChatPersistenceService.fallback params a) n []
      (.turn turn.id turn.provisioningRunId true) := by
  have answered : (Query.turnByKey params.workspaceId params.userId params.idempotencyKey).answer d' =
      some (some turn) := by
    unfold storedTurn at stored
    exact Option.join_eq_some_iff.mp stored
  have replayed : replayTurn params turn = .turn turn.id turn.provisioningRunId true := by
    unfold replayTurn
    rw [if_neg (not_not.mpr same)]
  rw [← replayed]
  exact .op (.ok (some turn)) [] n ⟨.inl ⟨_, answered, rfl⟩, rfl, rfl⟩ (.pure _ _ _)

omit [Platform] in
theorem roleOf_of_stored {turn : TurnRow} (stored : storedTurn d' params = some turn) (d : Db) :
    ∃ role, roleOf d params = some role := by
  unfold storedTurn at stored
  obtain ⟨w, workspace, user⟩ := Option.bind_eq_some_iff.mp (Option.join_eq_some_iff.mp stored)
  obtain ⟨u, user, -⟩ := Option.bind_eq_some_iff.mp user
  rw [roleOf_eq, workspace, user]
  exact ⟨_, rfl⟩

-- The refusal of a stranger and a failure are followed by the lookup, that of a member without the role is not.
theorem refuses_iff (faults : Bool) (params : PlanningTurn) (fresh : Fresh) (d d' : Db) (n : Nat)
    (unauthorized : Unauthorized d params) : Refuses faults params fresh d d' n ↔
      ∀ turn, storedTurn d' params = some turn → turn.requestFingerprint = fingerprint params →
        isMember d params = true ∧ faults = false := by
  constructor
  · intro refuses turn stored same
    obtain ⟨role, known⟩ := roleOf_of_stored stored d
    have silent : ∀ {n' a}, (engine faults).Executes d n [] (submitPlanningTurn params fresh) n' [] a →
        rethrown a = false → False := by
      intro n' a run untyped
      have replayed := refuses _ _
        (.recovered run (unauthorized_undone unauthorized run) untyped (fallback_replays stored same))
      cases replayed.1
    constructor
    · cases member : isMember d params with
      | true => rfl
      | false => exact (silent (stranger_executes member known) rfl).elim
    · cases faults with
      | false => rfl
      | true => exact (silent broken_executes rfl).elim
  · rintro guarded ws a (⟨run, ok⟩ | ⟨run, undone, -⟩ | ⟨run, undone, untyped, lookup⟩)
    · rw [unauthorized_undone unauthorized run] at ok
      cases ok
    · exact ⟨undone, rfl⟩
    · obtain ⟨rfl, fails | ⟨turn, stored, same⟩⟩ := fallback_executes undone lookup
      · exact ⟨fails, rfl⟩
      · obtain ⟨member, calm⟩ := guarded turn stored same
        obtain ⟨role, known⟩ := roleOf_of_stored stored d
        rcases unauthorized_executes unauthorized run with ⟨-, stranger⟩ | ⟨rfl, -⟩ | ⟨-, broken | unknown⟩
        · rw [stranger] at member
          cases member
        · cases untyped
        · rw [broken] at calm
          cases calm
        · rw [unknown] at known
          cases known

end Lookup

section Example

def prompted : PlanningTurn :=
  ⟨ownedSessionId, ownerWorkspace, owner, "a bucket", "0c3d9a54-76c5-4b57-9a39-53b7a1de4c03", "key"⟩

def firstTurn : TurnRow :=
  ⟨"7d8f4c5e-2b5a-4d11-9a57-1f1f6b1f0a01", ownedSessionId, ownerWorkspace, owner, prompted.clientMessageId, "key",
    fingerprint prompted, .obj [("kind", .str "text"), ("text", .str "a bucket")],
    "7d8f4c5e-2b5a-4d11-9a57-1f1f6b1f0a02", "7d8f4c5e-2b5a-4d11-9a57-1f1f6b1f0a03"⟩

-- The database in which the turn has been taken, and the user has another role since or none.
def laterDb (role : Option String) : Db := { idleDb with role := fun _ _ => role, turns := [firstTurn] }

theorem roleOf_later (role : Option String) : roleOf (laterDb role) prompted = some role := by
  rw [roleOf_eq]
  simp [prompted, ownerWorkspace_in, owner_in, laterDb]

theorem storedTurn_later (role : Option String) : storedTurn (laterDb role) prompted = some firstTurn := by
  have key : textIn "key" = some "key" := by decide
  have found : findTurn (laterDb role) ownerWorkspace owner "key" = some firstTurn := by
    simp [findTurn, laterDb, firstTurn]
  refine Option.join_eq_some_iff.mpr ?_
  unfold Query.answer
  simp [prompted, ownerWorkspace_in, owner_in, key, found]

omit [Platform] in
theorem viewer_refused : letI := digestPlatform
    Refuses false prompted freshIds (laterDb (some "viewer")) (laterDb (some "viewer")) 0 := by
  let _ := digestPlatform
  refine (refuses_iff _ _ _ _ _ _ ?_).mpr fun _ _ _ => ⟨?_, rfl⟩
  · intro role known
    rw [roleOf_later] at known
    rw [← Option.some.inj known]
    decide
  · unfold isMember
    rw [roleOf_later]
    rfl

omit [Platform] in
theorem stranger_replays : letI := digestPlatform
    ¬ ∀ faults params fresh d n, Unauthorized d params → Refuses faults params fresh d d n := by
  let _ := digestPlatform
  intro claim
  have stranger : isMember (laterDb none) prompted = false := by
    unfold isMember
    rw [roleOf_later]
    rfl
  have unauthorized : Unauthorized (laterDb none) prompted := by
    intro role known
    rw [roleOf_later] at known
    rw [← Option.some.inj known]
    decide
  have run : (engine false).Executes (laterDb none) 0 [] (submitPlanningTurn prompted freshIds) 0 []
      (.refused (.notFound "workspace membership")) := stranger_executes stranger (roleOf_later none)
  have replayed := claim false prompted freshIds (laterDb none) 0 unauthorized _ _
    (.recovered run rfl rfl (fallback_replays (storedTurn_later none) rfl))
  cases replayed.1

end Example

end Provisr.Orchestrator.Sessions
