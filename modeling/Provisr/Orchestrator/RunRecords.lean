import Provisr.Orchestrator.TurnRecords

namespace Provisr.Orchestrator.Sessions

open Provisr.Foundation
open Provisr.Backend.Manifest (textIn answers_ok)

section Keys

def Fits (d : Db) : Prop := ∀ r ∈ d.runs, r.idempotencyKey.length ≤ 255

variable {d : Db} {w : Write} {ws : List Write}

theorem Fits.apply (h : Fits d) (own : ∀ row, w = .run row → row.idempotencyKey.length ≤ 255) : Fits (apply w d) := by
  intro r mem
  cases w with
  | run row =>
    rcases List.mem_append.mp mem with mem | mem
    · exact h r mem
    · obtain rfl := List.mem_singleton.mp mem
      exact own r rfl
  | advance id a =>
    obtain ⟨before, found, rfl⟩ := List.mem_map.mp mem
    rw [(evolves_update id a before).same]
    exact h before found
  | role | workspace | openSession | deleteSession | turn | message | audit | chat | outbox => exact h r mem

variable [Platform] {faults : Bool}

theorem Fits.view (h : Fits d) (own : ∀ row, .run row ∈ ws → row.idempotencyKey.length ≤ 255) :
    Fits ((engine faults).view ws d) := by
  induction ws generalizing d with
  | nil => exact h
  | cons w ws ih =>
    refine ih (h.apply fun row same => own row (same ▸ List.mem_cons_self)) fun row mem => ?_
    exact own row (List.mem_cons_of_mem w mem)

theorem runs_recorded {vs : List Write} (recorded : ∀ w ∈ vs, w.record) (d : Db) :
    ((engine faults).view vs d).runs = d.runs := by
  induction vs generalizing d with
  | nil => rfl
  | cons w vs ih =>
    refine (ih (fun v mem => recorded v (List.mem_cons_of_mem w mem)) (Sessions.apply w d)).trans ?_
    have own := recorded w List.mem_cons_self
    cases w with
    | audit | chat | outbox => rfl
    | role | workspace | openSession | deleteSession | run | advance | turn | message => exact own.elim

variable {params : ChatPersistenceService.PlanningTurn} {fresh : ChatPersistenceService.Fresh}
  {request : RunsService.CreateRun} {c : Call} {o : Outcome}

theorem Accepts.fits (told : Accepts params fresh o d ws) (commits : o.commits = true) :
    ∀ row, .run row ∈ ws → row.idempotencyKey.length ≤ 255 := by
  intro row mem
  cases told with
  | accepted inserted turned said opened recorded recorded' =>
    simp only [List.mem_cons, List.mem_append, reduceCtorEq, false_or] at mem
    rcases mem with same | mem | mem
    · obtain rfl := Write.run.inj same
      exact varcharIn_length (insertedRun_fields inserted).key
    · exact absurd rfl ((recorded _ mem).foreign row)
    · exact absurd rfl ((recorded' _ mem).foreign row)
  | replayed => cases mem
  | refused | lost | obstructed | obstructedTurn => cases commits

omit [Platform] in
theorem Creates.fits (told : Creates fresh request o d ws) (commits : o.commits = true) :
    ∀ row, .run row ∈ ws → row.idempotencyKey.length ≤ 255 := by
  intro row mem
  cases told with
  | created inserted opened recorded =>
    rcases List.mem_cons.mp mem with same | mem
    · obtain rfl := Write.run.inj same
      exact varcharIn_length (insertedRun_fields inserted).key
    · exact absurd rfl ((recorded _ mem).foreign row)
  | existing => cases mem
  | refused | lost | obstructed => cases commits

theorem Told.fits (told : Told c o d ws) (commits : o.commits = true) :
    ∀ row, .run row ∈ ws → row.idempotencyKey.length ≤ 255 := by
  intro row mem
  cases c with
  | deleteSession =>
    cases told with
    | deleted => simp at mem
    | kept => cases mem
  | submitPlanningTurn => exact Accepts.fits told commits row mem
  | createRun => exact Creates.fits told commits row mem
  | createSession | fallback | mutate | transition | other => exact (told _ mem).elim

end Keys

section Past

variable {P : Outcome → Prop}

theorem ends_statement {o : Op} {next : Answer o → Prog Ret Outcome} (failed : ∀ e, P (.failed e))
    (rest : ∀ a, (next a).Ends P) : (statement o next).Ends P := by
  rintro (e | a)
  · exact failed e
  · exact rest a

theorem ends_audited {α : Type} (failed : ∀ e, P (.failed e)) (p : Prog Audit.Ret α) {next : α → Prog Ret Outcome}
    (rest : ∀ a, (next a).Ends P) : (audited p next).Ends P := by
  induction p with
  | pure a => exact rest a
  | op o k ih => exact ends_statement failed fun a => ih a

theorem ends_published {α : Type} (failed : ∀ e, P (.failed e)) (p : Prog Events.Sse.Ret α) {next : α → Prog Ret Outcome}
    (rest : ∀ a, (next a).Ends P) : (published p next).Ends P := by
  induction p with
  | pure a => exact rest a
  | op o k ih => exact ends_statement failed fun a => ih a

variable [Platform] {faults : Bool} {Seen : Db → Prop} {request : RunsService.CreateRun}
  {fresh : ChatPersistenceService.Fresh}

def Shown (Seen : Db → Prop) (o : Outcome) : Prop := ∀ run, o = .existing run → ∃ d, Seen d ∧ run ∈ d.runs

theorem insertRun_ends : (RunsService.insertRun request fresh).Ends (Shown Seen) := by
  have other : ∀ {o : Outcome}, (∀ run, o ≠ .existing run) → Shown Seen o := fun other run same => absurd same (other run)
  have failed : ∀ e, Shown Seen (.failed e) := fun e => other fun _ => Outcome.noConfusion
  refine ends_statement failed fun owned => ?_
  cases owned with
  | none => exact other fun _ => Outcome.noConfusion
  | some _ =>
    refine ends_statement failed fun run => ?_
    exact ends_audited failed _ fun _ => ends_published failed _ fun _ => other fun _ => Outcome.noConfusion

theorem statement_shown {q : Query} {next : q.Answer → Prog Ret Outcome} {d : Db}
    (h : ∀ d' a, Seen d' → q.answer d' = some a →
      (engine faults).Leads (fun _ d' => Seen d') (fun o _ _ => Shown Seen o) d' [] (next a)) :
    (engine faults).Leads (fun _ d' => Seen d') (fun o _ _ => Shown Seen o) d [] (statement (.select q) next) := by
  intro d' seen n r vs n' run
  obtain ⟨answer, rfl, -⟩ := run
  cases r with
  | error e => exact fun _ _ _ => Outcome.noConfusion
  | ok a => exact h d' a seen (answers_ok answer)

theorem require_shown {q : Query} {holds : q.Answer → Bool} {refusal : Refusal} {next : Prog Ret Outcome}
    (h : ∀ d, (engine faults).Leads (fun _ d' => Seen d') (fun o _ _ => Shown Seen o) d [] next) (d : Db) :
    (engine faults).Leads (fun _ d' => Seen d') (fun o _ _ => Shown Seen o) d [] (require q holds refusal next) := by
  refine statement_shown fun d' a _ _ => ?_
  split
  · exact h d'
  · exact fun _ _ _ => Outcome.noConfusion

theorem createRun_shown (d : Db) :
    (engine faults).Leads (fun _ d' => Seen d') (fun o _ _ => Shown Seen o) d [] (RunsService.createRun request fresh) := by
  refine require_shown (require_shown fun d => ?_) d
  intro d₁ _ n r vs n' run
  obtain ⟨-, rfl, -⟩ := run
  cases r with
  | error e => exact fun _ _ _ => Outcome.noConfusion
  | ok _ =>
    refine statement_shown fun d₂ found seen answer => ?_
    cases found with
    | none => exact .of_ends insertRun_ends (fun _ _ _ shown => shown) _ _
    | some run =>
      intro _ _ run' told
      unfold RunsService.replayRun at told
      split at told
      · obtain rfl := Outcome.existing.inj told
        exact ⟨d₂, seen, (runByKey_mem answer).1⟩
      · cases told

end Past

section Runs

variable [Platform] {faults : Bool} {d₀ : Db} {n : Nat} {s : SessionDatabase} {o : Outcome}

theorem fits_reachable (unused : Unused d₀) (reachable : (engine faults).Reachable d₀ n s) : Fits s.committed := by
  induction reachable with
  | refl =>
    unfold Fits
    rw [unused.runs]
    exact fun _ mem => absurd mem List.not_mem_nil
  | tail reached step ih =>
    cases step with
    | start | statement | rollback => exact ih
    | commit i t o session done commits => exact ih.view ((told_of_done unused reached session done).fits commits)

omit [Platform] in
theorem sameRequest_evolves {request : RunsService.CreateRun} {r r' : RunRow} (h : r.Evolves r') :
    RunsService.sameRequest request r' = RunsService.sameRequest request r := by
  rw [h.same]
  rfl

-- What a request is told once a run is stored under its key, which has become run' meanwhile.
structure ToldOf (run' : RunRow) (request : RunsService.CreateRun) (ws : List Write) (o : Outcome) : Prop where
  fresh : ∀ r, o ≠ .created r
  existing : ∀ r, o = .existing r → ws = [] ∧ r.Evolves run' ∧ RunsService.sameRequest request run' = true
  refused : ∀ message, o = .refused (.conflict message) → ws = [] ∧ RunsService.sameRequest request run' = false

theorem toldOf (unused : Unused d₀) (reachable : (engine faults).Reachable d₀ n s) {i : Nat}
    {t : Session Call Ret Key Write Outcome} (session : s.sessions[i]? = some t) (done : t.rest = some (.pure o))
    {request : RunsService.CreateRun} {fresh : ChatPersistenceService.Fresh} (call : t.call = .createRun request fresh)
    {run' : RunRow} (mem : run' ∈ s.committed.runs)
    (filed : varcharIn request.idempotencyKey = some run'.idempotencyKey) : ToldOf run' request t.writes o := by
  have told := told_of_done unused reachable session done
  rw [call] at told
  have apart := unshared_reachable unused reachable
  generalize written : t.writes = ws at told
  cases told with
  | @created run vs _ inserted opened recorded =>
    -- There would be two runs under one key.
    have after := (unshared_committed unused reachable session done rfl).runs
    have key := Option.some.inj (filed.symm.trans (insertedRun_fields inserted).key)
    have both : ((engine faults).view (.run run :: vs) s.committed).runs = s.committed.runs ++ [run] :=
      runs_recorded recorded _
    rw [written, both] at after
    have two := (List.pairwise_append.mp after).2.2 run' mem run List.mem_cons_self
    have own : .runKey run'.idempotencyKey ∈ run'.entries := List.mem_cons_of_mem _ List.mem_cons_self
    have own' : .runKey run'.idempotencyKey ∈ run.entries := key ▸ List.mem_cons_of_mem _ List.mem_cons_self
    exact (two own own').elim
  | @existing run stored _ found evolves text =>
    have same : run.idempotencyKey = stored.idempotencyKey := by rw [evolves.same]
    have short := fits_reachable unused reachable stored found
    rw [same] at text
    have key := Option.some.inj (filed.symm.trans (varcharIn_of_textIn text short))
    have own : .runKey run'.idempotencyKey ∈ run'.entries := List.mem_cons_of_mem _ List.mem_cons_self
    have own' : .runKey run'.idempotencyKey ∈ stored.entries := key ▸ List.mem_cons_of_mem _ List.mem_cons_self
    obtain rfl := eq_of_disjoint apart.runs mem found own own'
    unfold RunsService.replayRun
    rw [← sameRequest_evolves evolves]
    split
    · rename_i asked
      refine ⟨fun r => Outcome.noConfusion, fun r told => ?_, fun _ => Outcome.noConfusion⟩
      obtain rfl := Outcome.existing.inj told
      exact ⟨rfl, evolves, asked⟩
    · rename_i other
      refine ⟨fun r => Outcome.noConfusion, fun r => Outcome.noConfusion, fun _ _ => ?_⟩
      exact ⟨rfl, Bool.eq_false_iff.mpr other⟩
  | refused other =>
    exact ⟨fun r => Outcome.noConfusion, fun r => Outcome.noConfusion, fun message same =>
      absurd (Outcome.refused.inj same) (other message)⟩
  | lost | obstructed =>
    exact ⟨fun r => Outcome.noConfusion, fun r => Outcome.noConfusion, fun _ => Outcome.noConfusion⟩

theorem shown_past (reachable : (engine faults).Reachable d₀ n s) {i : Nat} {t : Session Call Ret Key Write Outcome}
    (session : s.sessions[i]? = some t) (done : t.rest = some (.pure o)) {request : RunsService.CreateRun}
    {fresh : ChatPersistenceService.Fresh} (call : t.call = .createRun request fresh) :
    Shown ((engine faults).Past ⟨d₀, n, []⟩ s) o := by
  have owed : ∀ c d, (engine faults).Leads (fun _ d' => (engine faults).Past ⟨d₀, n, []⟩ s d')
      (fun o _ _ => ∀ request fresh, c = .createRun request fresh → Shown ((engine faults).Past ⟨d₀, n, []⟩ s) o) d []
      ((engine faults).program c) := by
    intro c d
    cases c with
    | createRun request fresh => exact (createRun_shown d).mono fun _ _ _ shown _ _ _ => shown
    | _ => exact .of_forall (fun _ _ _ _ _ => Call.noConfusion) _ _ _
  exact (Engine.along_past reachable).done ⟨_, .refl, reachable, rfl⟩ owed session done request fresh call

-- Whoever asks for runs and whatever becomes of them, there is one under a key for good, and no request under the key
-- is told of another.
theorem runs_created_once (unused : Unused d₀) (reachable : (engine faults).Reachable d₀ n s) :
    (∀ (i : Nat) t request fresh run, s.sessions[i]? = some t → t.rest = some (.pure (.created run)) →
      t.call = .createRun request fresh → ((engine faults).view t.writes s.committed).runs = s.committed.runs ++ [run] ∧
        varcharIn request.idempotencyKey = some run.idempotencyKey) ∧
      ∀ s', (engine faults).Steps s s' → ∀ run ∈ s.committed.runs, ∃ run' ∈ s'.committed.runs, run.Evolves run' ∧
        ∀ (i : Nat) t request fresh o, s'.sessions[i]? = some t → t.rest = some (.pure o) →
          t.call = .createRun request fresh → varcharIn request.idempotencyKey = some run.idempotencyKey →
          ToldOf run' request t.writes o ∧
            ∀ r, o = .existing r → ∃ s₁, (engine faults).Reachable d₀ n s₁ ∧ (engine faults).Steps s₁ s' ∧
              r ∈ s₁.committed.runs := by
  refine ⟨fun i t request fresh run session done call => ?_, fun s' steps run mem => ?_⟩
  · have told := told_of_done unused reachable session done
    rw [call] at told
    generalize created : Outcome.created run = o at told
    generalize t.writes = ws at told
    cases told with
    | @created run' vs _ inserted opened recorded =>
      obtain rfl := Outcome.created.inj created
      exact ⟨runs_recorded recorded _, (insertedRun_fields inserted).key⟩
    | @existing run' _ _ found evolves text =>
      unfold RunsService.replayRun at created
      split at created <;> cases created
    | refused | lost | obstructed => cases created
  · obtain ⟨run', mem', evolves⟩ := ((growing faults).steps steps).mem mem
    refine ⟨run', mem', evolves, fun i t request fresh o session done call filed => ?_⟩
    have same : run'.idempotencyKey = run.idempotencyKey := by rw [evolves.same]
    refine ⟨toldOf unused (reachable.trans steps) session done call mem' (same ▸ filed), fun r told => ?_⟩
    obtain ⟨_, ⟨s₁, before, after, rfl⟩, seen⟩ := shown_past (reachable.trans steps) session done call r told
    exact ⟨s₁, before, after, seen⟩

end Runs

section Example

def retryIds : ChatPersistenceService.Fresh :=
  ⟨"7d8f4c5e-2b5a-4d11-9a57-1f1f6b1f0a14", "7d8f4c5e-2b5a-4d11-9a57-1f1f6b1f0a15",
    "7d8f4c5e-2b5a-4d11-9a57-1f1f6b1f0a16", ⟨"7d8f4c5e-2b5a-4d11-9a57-1f1f6b1f0a17", by decide⟩⟩

theorem retry_executes [Platform] : (engine true).Executes endedDb 4 []
    ((engine true).program (.createRun bucketRequest retryIds)) 4 [] (.existing cancelledRun) := by
  have member : (Query.workspaceMember ownerWorkspace owner).answer endedDb = some true := by
    simp [Query.answer, ownerWorkspace_in, owner_in, endedDb, idleDb]
  have permitted : (Query.mutationPermission ownerWorkspace owner).answer endedDb = some true := by
    simp [Query.answer, ownerWorkspace_in, owner_in, endedDb, idleDb, mayMutate]
  have used : (Query.runByKey "key").answer endedDb = some (some cancelledRun) := by
    have key : textIn "key" = some "key" := by decide
    simp [Query.answer, key, endedDb, findRun, cancelledRun, createdRun]
  have same : RunsService.replayRun bucketRequest cancelledRun = .existing cancelledRun := by decide
  refine .op (.ok true) [] 4 ⟨Or.inl ⟨_, member, rfl⟩, rfl, rfl⟩ ?_
  refine .op (.ok true) [] 4 ⟨Or.inl ⟨_, permitted, rfl⟩, rfl, rfl⟩ ?_
  refine .op (.ok ()) [] 4 ⟨Or.inl ⟨_, rfl, rfl⟩, rfl, rfl⟩ ?_
  refine .op (.ok (some cancelledRun)) [] 4 ⟨Or.inl ⟨_, used, rfl⟩, rfl, rfl⟩ ?_
  exact same ▸ .pure _ _ _

-- The request is sent again after its run was cancelled.
theorem runs_created_once_retried : letI := digestPlatform
    ∃ s t run', (engine true).Reachable idleDb 0 createdState ∧ createdRun ∈ createdState.committed.runs ∧
      (engine true).Steps createdState s ∧ t ∈ s.sessions ∧ t.call = .createRun bucketRequest retryIds ∧
      t.rest = some (.pure (.existing cancelledRun)) ∧ createdRun.Evolves run' ∧
      ToldOf run' bucketRequest t.writes (.existing cancelledRun) ∧
      ∃ s₁, (engine true).Reachable idleDb 0 s₁ ∧ (engine true).Steps s₁ s ∧ cancelledRun ∈ s₁.committed.runs := by
  let := digestPlatform
  obtain ⟨held, retried⟩ := retry_executes.steps ended_idle (.createRun bucketRequest retryIds) ∅
  have steps := ended_steps.trans (.head (.start endedState (.createRun bucketRequest retryIds)) retried)
  obtain ⟨-, lasting⟩ := runs_created_once idle_unused created_reachable
  obtain ⟨run', -, evolves, told⟩ := lasting _ steps createdRun List.mem_cons_self
  obtain ⟨told, seen⟩ := told 2 _ bucketRequest retryIds _ rfl rfl rfl key_in
  exact ⟨_, _, run', created_reachable, List.mem_cons_self, steps, List.mem_append_right _ List.mem_cons_self, rfl, rfl,
    evolves, told, seen _ rfl⟩

end Example

end Provisr.Orchestrator.Sessions
