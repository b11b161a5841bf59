import Provisr.Orchestrator.WorldInvariant

namespace Provisr.Orchestrator

open Provisr.Foundation RunsService

variable {Ext : Type}

def observed : Obs Ret → Option ProvisioningRun
  | ⟨.selectRun _ _, r⟩ => match (r : Reply (Option ProvisioningRun)) with
    | .ok row => row
    | .error _ => .none
  | ⟨.createRun _, r⟩ | ⟨.mutate _ _ _ _ _, r⟩ => match (r : Reply ProvisioningRun) with
    | .ok row => some row
    | .error _ => .none
  | _ => .none

def exchanged (seen : Seen) (q : HttpRequest) (r : Reply HttpResponse) : Prop :=
  (⟨.fetch q, r⟩ : Obs Ret) ∈ seen

def Consistent (seen : Seen) (run : ProvisioningRun) : Prop :=
  ∀ x ∈ seen, ∀ row, observed x = some row → row.id = run.id → row.stateVersion = run.stateVersion →
    row = run

section Obligations

variable [Platform] [ComponentRegistry]

-- A mutation is requested only with a closure that makes one of the known changes of whatever row
-- of that version it may meet.
def pre (seen : Seen) : Op → Prop
  | .mutate id workspaceId expectedVersion actorId operation =>
    ∀ run now change, run.id = id → run.workspaceId = workspaceId → run.stateVersion = expectedVersion →
      Consistent seen run → operation run now = .ok change →
        Intent (exchanged seen) run now actorId change
  | .outOfFuel => False
  | _ => True

def granted (seen : Seen) : (o : Op) → Ret o → Prop
  | .selectRun id workspaceId, r => ∀ row, (r : Reply (Option ProvisioningRun)) = .ok (some row) →
      row.id = id ∧ row.workspaceId = workspaceId
  | .mutate id workspaceId expectedVersion _ operation, r => ∀ row, (r : Reply ProvisioningRun) = .ok row →
      ∃ (env : TxEnv) (run : ProvisioningRun) (change : Change), run.id = id ∧
        run.workspaceId = workspaceId ∧ run.stateVersion = expectedVersion ∧ Consistent seen run ∧
        operation run ⟨env.dateNow, env.uuid⟩ = .ok change ∧ row = writtenRun env run change
  | _, _ => True

end Obligations

section Knowledge

variable {svc : Services Ext} (contract : Contract svc)

structure Knows (w : World Ext) (seen : Seen) : Prop where
  rows : ∀ x ∈ seen, ∀ row, observed x = some row →
    Behind ProvisioningRun.id ProvisioningRun.stateVersion w.db.runs row
  exchanges : ∀ q r, exchanged seen q r → contract.Known w.ext q r

variable {contract} {w w' : World Ext}

theorem Knows.snoc {seen : Seen} (knows : Knows contract w seen) {x : Obs Ret}
    (rows : ∀ row, observed x = some row →
      Behind ProvisioningRun.id ProvisioningRun.stateVersion w.db.runs row)
    (exchanges : ∀ q r, (⟨.fetch q, r⟩ : Obs Ret) = x → contract.Known w.ext q r) :
    Knows contract w (seen ++ [x]) := by
  refine ⟨?_, ?_⟩
  · intro y hy row ho
    rcases List.mem_append.mp hy with hy | hy
    · exact knows.rows y hy row ho
    · obtain rfl := List.mem_singleton.mp hy
      exact rows row ho
  · intro q r hx
    rcases List.mem_append.mp hx with hx | hx
    · exact knows.exchanges q r hx
    · exact exchanges q r (List.mem_singleton.mp hx)

variable [Platform] [ComponentRegistry]

theorem Knows.moves {seen : Seen} (knows : Knows contract w seen) (h : WorldInvariant contract w)
    (move : Moves contract w w') : Knows contract w' seen :=
  ⟨fun x hx row ho => move.behind h (knows.rows x hx row ho),
    fun q r he => move.known (knows.exchanges q r he)⟩

-- The row a transaction locks agrees with whatever the task has read of that version.
theorem Knows.consistent {seen : Seen} (knows : Knows contract w seen) (h : WorldInvariant contract w)
    {run : ProvisioningRun} (mem : run ∈ w.db.runs) : Consistent seen run := by
  intro x hx row ho hid hv
  exact ((knows.rows x hx row ho).current h.history.unique mem hid.symm hv.symm).symm

theorem moves_createRun {c : CreateRun} {r : Reply ProvisioningRun} (run : ExecCreateRun svc c w r w') :
    Moves contract w w' ∧ ∀ row, r = .ok row → row ∈ w'.db.runs := by
  obtain ⟨env, -, run⟩ := run
  split at run
  · obtain ⟨rfl, rfl⟩ := run
    exact ⟨.idle, by simp⟩
  · rename_i row db hc
    obtain ⟨hr, rfl⟩ := run
    have hmem : ∀ x, r = .ok x → x = row := by
      rcases hr with rfl | rfl <;> simp [eq_comm]
    rcases createRun_ok hc with ⟨rfl, hrow⟩ | ⟨rfl, fresh, rfl⟩
    · exact ⟨.idle, fun x hx => hmem x hx ▸ hrow⟩
    · refine ⟨.insert _ _ ⟨env, c, rfl⟩ fresh
        ⟨rfl, ⟨[createdAudit c _], rfl, by simp [createdAudit]⟩,
          ⟨[createdEvent env _], rfl, by simp [createdEvent]⟩⟩, ?_⟩
      intro x hx
      obtain rfl := hmem x hx
      exact List.mem_append_right _ (List.mem_singleton.mpr rfl)

theorem mutate_sound {seen : Seen} {env : TxEnv} {id workspaceId : String} {version : Nat}
    {actorId : String} {operation : Operation} {c : Commit} (h : WorldInvariant contract w)
    (knows : Knows contract w seen) (owed : pre seen (.mutate id workspaceId version actorId operation))
    (meets : Meets svc env w) (hm : mutate env w.db id workspaceId version actorId operation = .ok c) :
    c.before ∈ w.db.runs ∧ Sound contract w.ext c := by
  obtain ⟨hsel, hv, rfl, rfl, hop, hc⟩ := mutate_ok hm
  obtain ⟨mem, hid, hws⟩ := selectRun_some hsel
  exact ⟨mem, hc, (owed c.before c.now c.change hid hws hv (knows.consistent h mem) hop).mono
    knows.exchanges, meets.fresh c.before mem⟩

theorem moves_mutate {seen : Seen} {id workspaceId : String} {version : Nat} {actorId : String}
    {operation : Operation} {r : Reply ProvisioningRun} (h : WorldInvariant contract w)
    (knows : Knows contract w seen) (owed : pre seen (.mutate id workspaceId version actorId operation))
    (run : ExecMutate svc id workspaceId version actorId operation w r w') :
    Moves contract w w' ∧ granted seen (.mutate id workspaceId version actorId operation) r ∧
      ∀ row, r = .ok row → row ∈ w'.db.runs := by
  obtain ⟨env, meets, run⟩ := run
  split at run
  · obtain ⟨rfl, rfl⟩ := run
    exact ⟨.idle, by simp [granted], by simp⟩
  · rename_i c hm
    obtain ⟨hr, rfl⟩ := run
    have hrow : ∀ x, r = .ok x → x = c.after := by
      rcases hr with rfl | rfl <;> simp [eq_comm]
    obtain ⟨mem, sound⟩ := mutate_sound h knows owed meets hm
    obtain ⟨hsel, hv, rfl, rfl, hop, hc⟩ := mutate_ok hm
    obtain ⟨-, hid, hws⟩ := selectRun_some hsel
    refine ⟨.commit c mem sound, ?_, ?_⟩
    · intro row hx
      exact ⟨c.env, c.before, c.change, hid, hws, hv, knows.consistent h mem, hop,
        (hrow row hx).trans hc.written⟩
    · intro row hx
      rw [hrow row hx]
      dsimp only
      rw [apply_runs h.history.unique mem hc]
      exact mem_replace_self mem hc.id_after.symm

-- One request of a task: where it moves the world, what its reply is worth, and that the task then
-- knows what it has seen.
theorem exec_moves {seen : Seen} {o : Op} {r : Ret o} (h : WorldInvariant contract w)
    (knows : Knows contract w seen) (owed : pre seen o) (run : exec svc o w r w') :
    Moves contract w w' ∧ granted seen o r ∧
      (∀ row, observed ⟨o, r⟩ = some row → row ∈ w'.db.runs) ∧
      ∀ q reply, (⟨.fetch q, reply⟩ : Obs Ret) = ⟨o, r⟩ → contract.Known w'.ext q reply := by
  cases o with
  | mutate id ws v actor operation =>
    obtain ⟨move, hg, hrow⟩ := moves_mutate h knows owed run
    refine ⟨move, hg, ?_, by simp⟩
    intro row ho
    cases r with
    | ok x => exact hrow row (congrArg Except.ok (Option.some.inj ho))
    | error e => cases ho
  | createRun c =>
    obtain ⟨move, hrow⟩ := moves_createRun run
    refine ⟨move, trivial, ?_, by simp⟩
    intro row ho
    cases r with
    | ok x => exact hrow row (congrArg Except.ok (Option.some.inj ho))
    | error e => cases ho
  | selectRun id ws =>
    obtain ⟨rfl, answer⟩ := run
    refine ⟨.idle, ?_, ?_, by simp⟩
    · rintro row rfl
      exact (selectRun_some answer.symm).2
    · intro row ho
      cases r with
      | ok x =>
        obtain rfl : x = some row := ho
        exact (selectRun_some answer.symm).1
      | error e => cases ho
  | fetch q =>
    obtain ⟨ext, call, rfl⟩ := run
    obtain ⟨inv, known⟩ := contract.call h.ext call
    refine ⟨.exchange ext inv (contract.call_mono h.ext call), trivial, by simp [observed], ?_⟩
    intro q' reply he
    cases he
    exact known
  | membership | selectPending | selectExpired | selectSettings | selectManifestId | tryLock | unlock =>
    obtain ⟨rfl, -⟩ := run
    exact ⟨.idle, trivial, by simp [observed], by simp⟩
  | dateNow | randomUUID | aborted | stopping | outOfFuel =>
    obtain rfl : w' = w := run
    exact ⟨.idle, trivial, by simp [observed], by simp⟩

theorem ambiently_moves (h : WorldInvariant contract w) (move : Ambiently svc w w') :
    Moves contract w w' := by
  cases move with
  | background ext move =>
    exact .exchange ext (contract.background h.ext move) (contract.background_mono h.ext move)
  | planningTurn env c db inserted =>
    obtain ⟨rfl, fresh⟩ := insertRun_ok inserted
    exact .insert _ _ ⟨env, c, rfl⟩ fresh ⟨rfl, ⟨[], by simp⟩, ⟨[], by simp⟩⟩

theorem worldInvariant_empty {ext : Ext} (h : contract.Inv ext) :
    WorldInvariant contract (emptyWorld ext) :=
  ⟨History.empty, by simp [emptyWorld], rfl, rfl, h⟩

variable (contract) in
-- The service keeps to its discipline if each call, on its own, makes only the known changes. `own`
-- and `post` are what else a call keeps to.
def discipline (clients : Option PlanningConfig) (own : Call → Seen → Op → Prop)
    (post : Call → Seen → Outcome → Prop)
    (safe : ∀ call : Call, ((call.action clients).run).wp pre granted (fun _ _ => True) [])
    (program : ∀ call : Call, ((call.action clients).run).wp (own call) granted (post call) []) :
    Pool.Discipline (system svc clients) where
  pre call seen o := pre seen o ∧ own call seen o
  ok := granted
  post call seen out := True ∧ post call seen out
  Inv := WorldInvariant contract
  Knows := Knows contract
  knows_nil _ := ⟨by simp, by simp [exchanged]⟩
  request := by
    intro w call seen o r w' h knows owed run
    obtain ⟨move, hg, rows, known⟩ := exec_moves h knows owed.1 run
    refine ⟨h.moves move, hg, (knows.moves h move).snoc ?_ known⟩
    exact fun row ho => behind_of_mem (rows row ho)
  request_stable := by
    intro w call seen o r w' other h knows owed run
    exact fun known => known.moves h (exec_moves h knows owed.1 run).1
  ambient h move := h.moves (ambiently_moves h move)
  ambient_stable h move known := known.moves h (ambiently_moves h move)
  program call := Prog.wp_and (safe call) (program call)

end Knowledge

end Provisr.Orchestrator
