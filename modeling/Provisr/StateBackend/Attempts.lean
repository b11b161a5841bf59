import Provisr.StateBackend.Preparation

namespace Provisr.StateBackend

open Provisr.Foundation Provisr.Backend
open Op (Ret)

section Phases

def early : Op → Bool
  | .clock | .beginTx | .role .. | .runExists .. | .account .. | .lock _ | .backend _ | .replay .. | .newString => true
  | _ => false

structure Starting (started : Int) (seen : Seen) : Prop where
  clock : (⟨.clock, started⟩ : Obs Ret) ∈ seen
  early : ∀ obs ∈ seen, early obs.1 = true

structure Holding (started : Int) (accountId : String) (seen : Seen) : Prop extends Starting started seen where
  locked : (⟨.lock accountId, true⟩ : Obs Ret) ∈ since Op.part seen
  account : ∀ w p acc, (⟨.account w p, some (some acc)⟩ : Obs Ret) ∈ seen → acc.id = accountId

variable {started : Int} {seen : Seen} {a key : String} {o : Op} {r : Ret o}

theorem Starting.append (h : Starting started seen) (mine : StateBackend.early o = true) :
    Starting started (seen ++ [⟨o, r⟩]) := by
  refine ⟨List.mem_append_left _ h.clock, fun obs mem => ?_⟩
  rcases List.mem_append.mp mem with mem | mem
  · exact h.early obs mem
  · cases List.mem_singleton.mp mem
    exact mine

theorem Starting.tame (h : Starting started seen) : Tame seen := by
  intro obs mem
  have early := h.early obs mem
  generalize obs.1 = o at early ⊢
  cases o <;> first | rfl | cases early

theorem Starting.quiet (h : Starting started seen) : Quiet (since Op.part seen) := by
  intro obs mem
  have early := h.early obs (seen_of_since mem)
  generalize obs.1 = o at early ⊢
  cases o <;> first | rfl | cases early

theorem Starting.unrefused (h : Starting started seen) : Unrefused seen := by
  rintro a n ⟨target, cause, mem, -⟩
  cases h.early _ mem

theorem Starting.uncommitted (h : Starting started seen) (b : Bool) : (⟨.commit, b⟩ : Obs Ret) ∉ seen := by
  intro mem
  cases h.early _ mem

theorem Holding.append (h : Holding started a seen) (mine : StateBackend.early o = true) (other : o.part ≠ .opens)
    (same : ∀ w p, o ≠ .account w p) : Holding started a (seen ++ [⟨o, r⟩]) := by
  refine ⟨h.toStarting.append mine, ?_, ?_⟩
  · rw [since_other other]
    exact List.mem_append_left _ h.locked
  · intro w p acc mem
    rcases List.mem_append.mp mem with mem | mem
    · exact h.account w p acc mem
    · cases List.mem_singleton.mp mem
      exact absurd rfl (same w p)

theorem Tame.append {o : Op} {r : Ret o} (h : Tame seen) (mine : storing o = false) : Tame (seen ++ [⟨o, r⟩]) := by
  intro obs mem
  rcases List.mem_append.mp mem with mem | mem
  · exact h obs mem
  · cases List.mem_singleton.mp mem
    exact mine

end Phases

section Programs

variable {started now : Int} {seen : Seen} {c : EnsureCall} {input : Request} {accountId backendID : String}

theorem recording_wp {n : Nat} {code : String} (tame : Tame seen) (clock : (⟨.clock, started⟩ : Obs Ret) ∈ seen)
    (refused : Refused accountId n seen) :
    (recording input accountId backendID code started now).wp (Owed c) granted (fun s _ => Tame s) (fun s _ => Tame s)
      (seen ++ [⟨.beginTx, some now⟩]) := by
  have tame : Tame (seen ++ [⟨.beginTx, some now⟩]) := tame.append rfl
  refine (Async.wp_bind _ _).mpr ⟨trivial, fun r _ => ?_⟩
  cases r with
  | false => exact tame.append rfl
  | true =>
    have tame : Tame (seen ++ [⟨.beginTx, some now⟩] ++ [⟨.lock accountId, true⟩]) := tame.append rfl
    have opened : since Op.part (seen ++ [⟨.beginTx, some now⟩] ++ [⟨.lock accountId, true⟩]) =
        [⟨.lock accountId, true⟩] := by
      rw [since_other (by simp [Op.part]), since_opens rfl, List.nil_append]
    refine (Async.wp_bind _ _).mpr ⟨⟨?_, ?_, ?_, n, refused.append.append⟩, fun r _ => ?_⟩
    · rw [opened]
      exact List.mem_cons_self
    · rw [opened]
      simp [Quiet, writing]
    · exact List.mem_append_left _ (List.mem_append_left _ clock)
    cases r with
    | none => exact tame.append rfl
    | some n =>
      have tame := tame.append (o := .upsertFailed backendID input.context.workspaceId accountId code started now)
        (r := some n) rfl
      change (if n = 0 then _ else _ : Ensuring Unit).wp _ _ _ _ _
      split
      · exact tame
      · refine (Async.wp_bind _ _).mpr ⟨trivial, fun r _ => ?_⟩
        rcases r with _ | _ | id
        · exact tame.append rfl
        · exact tame.append rfl
        · refine (Async.wp_bind _ _).mpr ⟨trivial, fun r _ => ?_⟩
          cases r with
          | false => exact (tame.append rfl).append rfl
          | true =>
            refine ⟨trivial, fun r _ => ?_⟩
            cases r <;> exact ((tame.append rfl).append rfl).append rfl

theorem recordFailure_wp {n : Nat} {cause : Cause} (tame : Tame seen) (clock : (⟨.clock, started⟩ : Obs Ret) ∈ seen)
    (refused : Refused accountId n seen) :
    (recordFailure input accountId backendID started cause).wp (Owed c) granted (fun s _ => Tame s) seen := by
  unfold recordFailure
  split
  · exact tame
  · refine ⟨tame, fun r _ => ?_⟩
    cases r with
    | none => exact tame.append rfl
    | some now =>
      change ((recording input accountId backendID (errorCode cause) started now).run >>= fun _ =>
        Prog.call Op.rollback).wp _ _ _ _
      refine (Prog.wp_bind _ _ _ _).mpr (Prog.wp_mono (recording_wp tame clock refused) ?_)
      intro s x _ ended
      have tame : Tame s := by cases x <;> exact ended
      exact ⟨trivial, fun _ _ => tame.append rfl⟩

structure Provided (accountId : String) (seen : Seen) : Prop where
  locked : (⟨.lock accountId, true⟩ : Obs Ret) ∈ since Op.part seen
  account : ∀ w p acc, (⟨.account w p, some (some acc)⟩ : Obs Ret) ∈ seen → acc.id = accountId
  called : ∃ target ended, (⟨.driverEnsure target, ended⟩ : Obs Ret) ∈ seen ∧ target.account.id = accountId
  unrefused : Unrefused seen
  unrecorded : ∀ b k r, (⟨.insertRequest b k r, true⟩ : Obs Ret) ∉ seen
  uncommitted : (⟨.commit, true⟩ : Obs Ret) ∉ seen

theorem persist_wp {outcome : Outcome} (h : Provided accountId seen) (key : input.context.idempotencyKey = c.key) :
    (persist input accountId backendID now outcome).wp (Owed c) granted (fun s x => Answered c s (.ok x))
      (fun s e => Answered c s (.error e)) seen := by
  have uncommitted := h.uncommitted
  have unrecorded := h.unrecorded
  refine (Async.wp_bind _ _).mpr ⟨⟨h.locked, h.unrefused⟩, fun r _ => ?_⟩
  cases r with
  | none =>
    intro mem
    simp [uncommitted] at mem
  | some verified =>
    refine (Async.wp_bind _ _).mpr ⟨⟨rfl, by simpa using unrecorded, by simpa using uncommitted⟩, fun r _ => ?_⟩
    cases r with
    | false =>
      intro mem
      simp [uncommitted] at mem
    | true =>
      refine (Async.wp_bind _ _).mpr ⟨trivial, fun r _ => ?_⟩
      cases r with
      | false =>
        intro mem
        simp [uncommitted] at mem
      | true =>
        refine (Async.wp_bind _ _).mpr ⟨trivial, fun r _ => ?_⟩
        cases r with
        | false =>
          intro mem
          simp [uncommitted] at mem
        | true =>
          obtain ⟨target, ended, called, same⟩ := h.called
          refine ⟨accountId, by simpa using h.account, .inr ⟨⟨target, ended, by simp [called], same⟩, ?_, by simp⟩⟩
          simp [key]

theorem provision_wp {m : Manager} {acc : Account} {existing : Settings} (h : Holding started acc.id seen)
    (looked : Looked c.key acc.id (since Op.part seen)) (key : input.context.idempotencyKey = c.key) :
    (provision m input acc backendID existing started now).wp (Owed c) granted (fun s x => Answered c s (.ok x))
      (fun s e => Answered c s (.error e)) seen := by
  have uncommitted : (⟨.commit, true⟩ : Obs Ret) ∉ seen := h.uncommitted true
  unfold provision
  split
  · exact fun mem => absurd mem uncommitted
  split
  · exact fun mem => absurd mem uncommitted
  rename_i identity _
  refine (Async.wp_bind _ _).mpr ⟨⟨looked, h.tame⟩, fun r _ => ?_⟩
  obtain ⟨result, n⟩ := r
  cases result with
  | ok outcome =>
    refine persist_wp ⟨?_, by simpa using h.account, ⟨_, _, List.mem_append_right _ List.mem_cons_self, rfl⟩, ?_, ?_, ?_⟩ key
    · rw [since_other (by simp [Op.part])]
      exact List.mem_append_left _ h.locked
    · rintro a n ⟨target, cause, mem, same⟩
      rcases List.mem_append.mp mem with mem | mem
      · exact h.unrefused a n ⟨target, cause, mem, same⟩
      · cases List.mem_singleton.mp mem
    · intro b k r mem
      rcases List.mem_append.mp mem with mem | mem
      · cases h.early _ mem
      · cases List.mem_singleton.mp mem
    · simpa using uncommitted
  | error cause =>
    refine (Async.wp_bind _ _).mpr ⟨trivial, fun r _ => ?_⟩
    have failed := fun target => (h.tame.append (o := .driverEnsure target) (r := (.error cause, n)) rfl).append
      (o := .rollback) (r := r) rfl
    refine (Async.wp_bind _ _).mpr ((Async.wp_lift _).mpr (Prog.wp_mono (recordFailure_wp (n := n) (failed _) ?_ ?_) ?_))
    · exact List.mem_append_left _ (List.mem_append_left _ h.clock)
    · exact Refused.append ⟨_, cause, List.mem_append_right _ List.mem_cons_self, rfl⟩
    · exact fun s _ _ tame _ => tame

theorem Starting.failed (h : Starting started seen) : (⟨.commit, true⟩ : Obs Ret) ∈ seen → Tame seen :=
  fun mem => absurd mem (h.uncommitted true)

theorem active_ok {r : Option (Option Account)} {acc : Account} (h : active r = .ok acc) : r = some (some acc) := by
  rcases r with _ | _ | a
  · cases h
  · cases h
  · by_cases on : a.status = "active"
    · rw [show active (some (some a)) = .ok a from if_pos on] at h
      rw [Except.ok.inj h]
    · rw [show active (some (some a)) = fail 404 _ _ from if_neg on] at h
      cases h

theorem located_wp {m : Manager} (h : Starting started seen)
    (fresh : ∀ w p acc, (⟨.account w p, some (some acc)⟩ : Obs Ret) ∉ seen) (key : input.context.idempotencyKey = c.key) :
    (located m input started now).wp (Owed c) granted (fun s x => Answered c s (.ok x))
      (fun s e => Answered c s (.error e)) seen := by
  refine (Async.wp_bind _ _).mpr ⟨trivial, fun r _ => ?_⟩
  have h : Starting started (seen ++ [⟨.account input.context.workspaceId input.provider, r⟩]) := h.append rfl
  change Async.outcome _ _ _ (active r)
  cases found : active r with
  | error e => exact h.failed
  | ok acc =>
    have account : ∀ w p acc', (⟨.account w p, some (some acc')⟩ : Obs Ret) ∈
        seen ++ [⟨.account input.context.workspaceId input.provider, r⟩] → acc'.id = acc.id := by
      intro w p acc' mem
      rcases List.mem_append.mp mem with mem | mem
      · exact absurd mem (fresh w p acc')
      · cases List.mem_singleton.mp mem
        cases active_ok found
        rfl
    generalize seen ++ [⟨.account input.context.workspaceId input.provider, r⟩] = seen at h account
    refine (Async.wp_bind _ _).mpr ⟨trivial, fun r _ => ?_⟩
    cases r with
    | false => exact (h.append rfl).failed
    | true =>
      have h : Holding started acc.id (seen ++ [⟨.lock acc.id, true⟩]) := by
        refine ⟨h.append rfl, ?_, by simpa using account⟩
        rw [since_other (by simp [Op.part])]
        exact List.mem_append_right _ List.mem_cons_self
      generalize seen ++ [⟨.lock acc.id, true⟩] = seen at h
      refine (Async.wp_bind _ _).mpr ⟨⟨h.locked, h.quiet⟩, fun r _ => ?_⟩
      have ended : Holding started acc.id (seen ++ [⟨.backend acc.id, r⟩]) := h.append rfl (by simp [Op.part]) (by simp)
      have read : (⟨.backend acc.id, r⟩ : Obs Ret) ∈ since Op.part (seen ++ [⟨.backend acc.id, r⟩]) := by
        rw [since_other (by simp [Op.part])]
        exact List.mem_append_right _ List.mem_cons_self
      generalize seen ++ [⟨.backend acc.id, r⟩] = seen at ended read
      rcases r with _ | _ | ⟨backendID, existing⟩
      · exact ended.failed
      · refine (Async.wp_bind _ _).mpr ⟨trivial, fun id _ => ?_⟩
        refine provision_wp (ended.append rfl (by simp [Op.part]) (by simp)) (.inl ?_) key
        rw [since_other (by simp [Op.part])]
        exact List.mem_append_left _ read
      · refine (Async.wp_bind _ _).mpr ⟨⟨⟨acc.id, existing, read⟩, ended.quiet⟩, fun r _ => ?_⟩
        have last : Holding started acc.id (seen ++ [⟨.replay backendID input.context.idempotencyKey, r⟩]) :=
          ended.append rfl (by simp [Op.part]) (by simp)
        rcases r with _ | _ | result
        · exact last.failed
        · refine provision_wp last (.inr ⟨backendID, existing, ?_, ?_⟩) key
          · rw [since_other (by simp [Op.part])]
            exact List.mem_append_left _ read
          · rw [since_other (by simp [Op.part]), key]
            exact List.mem_append_right _ List.mem_cons_self
        · refine ⟨acc.id, last.account, .inl ⟨backendID, existing, ?_, ?_⟩⟩
          · exact List.mem_append_left _ (seen_of_since read)
          · rw [key]
            exact List.mem_append_right _ List.mem_cons_self

theorem attempt_wp {m : Manager} {runID : String} (h : Starting started seen)
    (fresh : ∀ w p acc, (⟨.account w p, some (some acc)⟩ : Obs Ret) ∉ seen) (key : input.context.idempotencyKey = c.key) :
    (attempt m input runID started now).wp (Owed c) granted (fun s x => Answered c s (.ok x))
      (fun s e => Answered c s (.error e)) seen := by
  refine (Async.wp_bind _ _).mpr ⟨trivial, fun r _ => ?_⟩
  have h : Starting started (seen ++ [⟨.role input.context.workspaceId input.context.userId, r⟩]) := h.append rfl
  change Async.outcome _ _ _ (permitted r)
  cases permitted r with
  | error e => exact h.failed
  | ok _ =>
    have fresh : ∀ w p acc, (⟨.account w p, some (some acc)⟩ : Obs Ret) ∉
        seen ++ [⟨.role input.context.workspaceId input.context.userId, r⟩] := by simpa using fresh
    change Async.wp _ _ (if runID ≠ "" then _ else _ : Ensuring (Result × Settings)) _ _ _
    split
    · refine (Async.wp_bind _ _).mpr ⟨trivial, fun r _ => ?_⟩
      change Async.outcome _ _ _ (inWorkspace r)
      cases inWorkspace r with
      | error e => exact (h.append rfl).failed
      | ok _ => exact located_wp (h.append rfl) (by simpa using fresh) key
    · exact located_wp h fresh key

theorem Answered.rolledBack {r : Op.rollback.Ret} {x : Except Cause (Result × Settings)} (h : Answered c seen x) :
    Answered c (seen ++ [⟨.rollback, r⟩]) x := by
  cases x with
  | ok x =>
    obtain ⟨a, account, h⟩ := h
    refine ⟨a, by simpa using account, ?_⟩
    rcases h with ⟨b, settings, read, replayed⟩ | ⟨⟨target, ended, called, same⟩, recorded, committed⟩
    · exact .inl ⟨b, settings, List.mem_append_left _ read, List.mem_append_left _ replayed⟩
    · exact .inr ⟨⟨target, ended, List.mem_append_left _ called, same⟩, List.mem_append_left _ recorded,
        List.mem_append_left _ committed⟩
  | error e =>
    intro mem
    refine Tame.append (h ?_) rfl
    simpa using mem

end Programs

section Ensuring

variable [GoUnicode]

theorem validRequest_key {input input' : Request} (h : validRequest input = some input') :
    input'.context.idempotencyKey = input.context.idempotencyKey := by
  simp only [validRequest, Option.bind_eq_bind] at h
  split at h
  · cases h
  · obtain ⟨workspaceId, -, h⟩ := Option.bind_eq_some_iff.mp h
    obtain ⟨userId, -, h⟩ := Option.bind_eq_some_iff.mp h
    obtain ⟨correlationId, -, h⟩ := Option.bind_eq_some_iff.mp h
    split at h
    · cases h
    · rw [← Option.some.inj h]

theorem ensure_wp (m : Manager) (c : EnsureCall) :
    (ensure m c.input c.runID).wp (Owed c) granted (Answered c) [] := by
  unfold ensure
  split
  · exact fun mem => absurd mem List.not_mem_nil
  · rename_i input valid
    refine ⟨rfl, fun started _ => ⟨?_, fun r _ => ?_⟩⟩
    · change Tame _
      simp [Tame, storing]
    have begun : Starting started ([] ++ [⟨.clock, started⟩] ++ [⟨.beginTx, r⟩]) :=
      Starting.append ⟨List.mem_cons_self, by simp [early]⟩ rfl
    cases r with
    | none => exact begun.failed
    | some now =>
      change ((attempt m input c.runID started now).run >>= fun outcome =>
        Prog.call Op.rollback >>= fun _ => pure outcome).wp _ _ _ _
      refine (Prog.wp_bind _ _ _ _).mpr
        (Prog.wp_mono (attempt_wp begun (by simp) (validRequest_key valid)) fun s x _ answered => ?_)
      refine ⟨trivial, fun r _ => Answered.rolledBack ?_⟩
      cases x <;> exact answered

def managerDuty (m : Manager) : (managerService m).Duty where
  pre := Owed
  ok := granted
  post := Answered
  Inv := Kept
  Knows _ := Noted
  knows_nil _ _ := ⟨nofun, nofun, nofun, nofun⟩
  own kept noted owed move :=
    have kept_noted := noted.own kept owed move
    ⟨kept_noted.1, trivial, kept_noted.2⟩
  lost := Noted.lost
  other _ own _ _ _ disjoint others := own.other disjoint others
  program := ensure_wp m

end Ensuring

end Provisr.StateBackend
