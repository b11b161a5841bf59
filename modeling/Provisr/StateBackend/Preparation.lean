import Provisr.StateBackend.Manager

namespace Provisr.StateBackend

open Provisr.Foundation Provisr.Backend
open Op (Ret)

abbrev Seen := List (Obs Ret)

section Rows

variable {ws : List Write} {d : Tables} {a b k : String}

def Write.touches : Write → String → Prop
  | .ready a .., b | .failed a .., b => a = b
  | _, _ => False

theorem apply_id {w : Write} {row : BackendRow} (h : d.backends a = some row) :
    ∃ row', (w.apply d).backends a = some row' ∧ row'.id = row.id := by
  cases w with
  | ready c id ws p st now =>
    by_cases same : a = c
    · subst same
      exact ⟨_, if_pos rfl, by simp [readyRow, h]⟩
    · exact ⟨row, (if_neg same).trans h, rfl⟩
  | failed c id ws p code now =>
    by_cases same : a = c
    · subst same
      exact ⟨_, if_pos rfl, by simp [failedRow, h]⟩
    · exact ⟨row, (if_neg same).trans h, rfl⟩
  | request | audit => exact ⟨row, h, rfl⟩

theorem apply_row {w : Write} (other : ¬ w.touches a) : (w.apply d).backends a = d.backends a := by
  cases w with
  | ready | failed => exact if_neg fun same => other same.symm
  | request | audit => rfl

theorem apply_request {w : Write} (other : ∀ r, w ≠ .request b k r) : (w.apply d).requests b k = d.requests b k := by
  cases w with
  | request b' k' r =>
    refine if_neg ?_
    rintro ⟨rfl, rfl⟩
    exact other r rfl
  | ready | failed | audit => rfl

variable [GoUnicode] {m : Manager}

theorem view_id {row : BackendRow} (h : d.backends a = some row) :
    ∃ row', ((managerService m).view ws d).backends a = some row' ∧ row'.id = row.id := by
  induction ws generalizing d row with
  | nil => exact ⟨row, h, rfl⟩
  | cons w ws ih =>
    obtain ⟨row', found, same⟩ := apply_id (w := w) h
    obtain ⟨row'', found', same'⟩ := ih found
    exact ⟨row'', found', same'.trans same⟩

theorem view_row (others : ∀ w ∈ ws, ¬ w.touches a) : ((managerService m).view ws d).backends a = d.backends a := by
  induction ws generalizing d with
  | nil => rfl
  | cons w ws ih =>
    rw [Service.view_cons, ih fun w mem => others w (List.mem_cons_of_mem _ mem)]
    exact apply_row (others w List.mem_cons_self)

theorem view_request (others : ∀ r, .request b k r ∉ ws) :
    ((managerService m).view ws d).requests b k = d.requests b k := by
  induction ws generalizing d with
  | nil => rfl
  | cons w ws ih =>
    rw [Service.view_cons, ih fun r mem => others r (List.mem_cons_of_mem _ mem)]
    exact apply_request fun r same => others r (same ▸ List.mem_cons_self)

theorem view_recorded {r : Result} (mem : .request b k r ∈ ws) (only : ∀ r', .request b k r' ∈ ws → r' = r) :
    ((managerService m).view ws d).requests b k = some r := by
  induction ws generalizing d with
  | nil => cases mem
  | cons w ws ih =>
    rw [Service.view_cons]
    by_cases later : .request b k r ∈ ws
    · exact ih later fun r' mem => only r' (List.mem_cons_of_mem _ mem)
    · rw [view_request fun r' mem => later (only r' (List.mem_cons_of_mem _ mem) ▸ mem)]
      obtain rfl := (List.mem_cons.mp mem).resolve_right later
      exact if_pos ⟨rfl, rfl⟩

end Rows

section Obligations

def writing : Op → Bool
  | .upsertReady .. | .insertRequest .. | .upsertFailed .. | .appendAudit _ => true
  | _ => false

def storing : Op → Bool
  | .upsertReady .. | .insertRequest .. => true
  | _ => false

def Quiet (seen : Seen) : Prop := ∀ obs ∈ seen, writing obs.1 = false

def Tame (seen : Seen) : Prop := ∀ obs ∈ seen, storing obs.1 = false

def EnsureCall.key (c : EnsureCall) : String := c.input.context.idempotencyKey

def Looked (key accountId : String) (seen : Seen) : Prop :=
  (⟨.backend accountId, some none⟩ : Obs Ret) ∈ seen ∨
    ∃ b settings, (⟨.backend accountId, some (some (b, settings))⟩ : Obs Ret) ∈ seen ∧
      (⟨.replay b key, some none⟩ : Obs Ret) ∈ seen

-- The provider call for the account that ended with an error, when so many ready records had been committed.
def Refused (accountId : String) (n : Nat) (seen : Seen) : Prop :=
  ∃ target cause, (⟨.driverEnsure target, (.error cause, n)⟩ : Obs Ret) ∈ seen ∧ target.account.id = accountId

def Unrefused (seen : Seen) : Prop := ∀ a n, ¬ Refused a n seen

def Owed (c : EnsureCall) (seen : Seen) : Op → Prop
  | .clock => seen = []
  | .beginTx => Tame seen
  | .backend a => (⟨.lock a, true⟩ : Obs Ret) ∈ since Op.part seen ∧ Quiet (since Op.part seen)
  | .replay b _ =>
    (∃ a settings, (⟨.backend a, some (some (b, settings))⟩ : Obs Ret) ∈ since Op.part seen) ∧
      Quiet (since Op.part seen)
  | .driverEnsure target => Looked c.key target.account.id (since Op.part seen) ∧ Tame seen
  | .upsertReady a .. => (⟨.lock a, true⟩ : Obs Ret) ∈ since Op.part seen ∧ Unrefused seen
  | .insertRequest b _ r =>
    r.id = b ∧ (∀ b k r', (⟨.insertRequest b k r', true⟩ : Obs Ret) ∉ seen) ∧ (⟨.commit, true⟩ : Obs Ret) ∉ seen
  | .upsertFailed _ _ a _ started _ =>
    (⟨.lock a, true⟩ : Obs Ret) ∈ since Op.part seen ∧ Quiet (since Op.part seen) ∧
      (⟨.clock, started⟩ : Obs Ret) ∈ seen ∧ ∃ n, Refused a n seen
  | _ => True

def granted (_ : Seen) (o : Op) (_ : Ret o) : Prop := True

def Answered (c : EnsureCall) (seen : Seen) : Except Cause (Result × Settings) → Prop
  | .ok (r, _) => ∃ a, (∀ w p acc, (⟨.account w p, some (some acc)⟩ : Obs Ret) ∈ seen → acc.id = a) ∧
      ((∃ b settings, (⟨.backend a, some (some (b, settings))⟩ : Obs Ret) ∈ seen ∧
          (⟨.replay b c.key, some (some r)⟩ : Obs Ret) ∈ seen) ∨
        ((∃ target ended, (⟨.driverEnsure target, ended⟩ : Obs Ret) ∈ seen ∧ target.account.id = a) ∧
          (⟨.insertRequest r.id c.key r, true⟩ : Obs Ret) ∈ seen ∧ (⟨.commit, true⟩ : Obs Ret) ∈ seen))
  | .error _ => (⟨.commit, true⟩ : Obs Ret) ∈ seen → Tame seen

def Stands (d : Tables) : (o : Op) → Ret o → Prop
  | .backend a, some (some (b, _)) => ∃ row, d.backends a = some row ∧ row.id = b
  | .replay b k, some (some r) => d.requests b k = some r
  | _, _ => True

def Held (d : Tables) (held : Set Lock) : (o : Op) → Ret o → Prop
  | .lock a, true => .advisory a ∈ held
  | .backend a, some none => .advisory a ∈ held ∧ d.backends a = none
  | .backend _, some (some (b, _)) => .row b ∈ held
  | .replay b k, some none => .row b ∈ held ∧ d.requests b k = none
  | _, _ => True

def Backed (d : Tables) (held : Set Lock) (seen : Seen) : Write → Prop
  | .ready a .. => .advisory a ∈ held ∧ ¬ Tame seen ∧ Unrefused seen
  | .failed a .. => .advisory a ∈ held ∧ ∃ started, (⟨.clock, started⟩ : Obs Ret) ∈ seen ∧ (∃ n, Refused a n seen) ∧
      ∀ row, d.backends a = some row → row.updatedAt < started
  | .request b k r => .row b ∈ held ∧ d.requests b k = none ∧ r.id = b ∧
      (⟨.insertRequest b k r, true⟩ : Obs Ret) ∈ seen
  | .audit _ => True

structure Opened (d : Tables) (t : Tx Lock Write) (seen : Seen) : Prop where
  held : ∀ obs ∈ since Op.part seen, Held d t.held obs.1 obs.2
  quiet : Quiet (since Op.part seen) → t.writes = []
  backed : ∀ w ∈ t.writes, Backed d t.held seen w

structure Noted (d : Tables) (tx : Option (Tx Lock Write)) (seen : Seen) : Prop where
  stands : ∀ obs ∈ seen, Stands d obs.1 obs.2
  one : ∀ b k r b' k' r', (⟨.insertRequest b k r, true⟩ : Obs Ret) ∈ seen →
    (⟨.insertRequest b' k' r', true⟩ : Obs Ret) ∈ seen → r = r'
  recorded : ∀ b k r, (⟨.insertRequest b k r, true⟩ : Obs Ret) ∈ seen →
    (∀ t, tx = some t → .request b k r ∈ t.writes) ∧ ((⟨.commit, true⟩ : Obs Ret) ∈ seen → d.requests b k = some r)
  opened : ∀ t, tx = some t → Opened d t seen

-- A recorded response names the backend it is recorded for, and ready rows are numbered below what is to come.
structure Kept (d : Tables) : Prop where
  named : ∀ b k r, d.requests b k = some r → r.id = b
  numbered : ∀ a row, d.backends a = some row → row.status = "ready" → row.serial < d.readied

end Obligations

section Replies

variable {d : Tables} {held apart : Set Lock} {seen : Seen} {a : String}

theorem Held.mono {o : Op} {r : Ret o} (h : Held d held o r) (more : held ⊆ apart) : Held d apart o r := by
  cases o with
  | lock a =>
    cases r with
    | false => trivial
    | true => exact more h
  | backend a =>
    rcases r with _ | _ | ⟨b, settings⟩
    · trivial
    · exact ⟨more h.1, h.2⟩
    · exact more h
  | replay b k =>
    rcases r with _ | _ | r
    · trivial
    · exact ⟨more h.1, h.2⟩
    · trivial
  | _ => trivial

theorem Refused.append {n : Nat} {obs : Obs Ret} (h : Refused a n seen) : Refused a n (seen ++ [obs]) := by
  obtain ⟨target, cause, mem, same⟩ := h
  exact ⟨target, cause, List.mem_append_left _ mem, same⟩

theorem Unrefused.append {o : Op} {r : Ret o} (h : Unrefused seen) (other : ∀ target, o ≠ .driverEnsure target) :
    Unrefused (seen ++ [⟨o, r⟩]) := by
  rintro a n ⟨target, cause, mem, same⟩
  rcases List.mem_append.mp mem with mem | mem
  · exact h a n ⟨target, cause, mem, same⟩
  · cases List.mem_singleton.mp mem
    exact other target rfl

theorem Tame.of_append {obs : Obs Ret} (h : Tame (seen ++ [obs])) : Tame seen :=
  fun obs mem => h obs (List.mem_append_left _ mem)

theorem Backed.append {w : Write} {o : Op} {r : Ret o} (h : Backed d held seen w) (more : held ⊆ apart)
    (tame : ∀ target, o = .driverEnsure target → Tame seen) : Backed d apart (seen ++ [⟨o, r⟩]) w := by
  cases w with
  | ready =>
    refine ⟨more h.1, fun calm => h.2.1 calm.of_append, h.2.2.append ?_⟩
    exact fun target same => h.2.1 (tame target same)
  | failed =>
    obtain ⟨lock, started, clock, ⟨n, refused⟩, older⟩ := h
    exact ⟨more lock, started, List.mem_append_left _ clock, ⟨n, refused.append⟩, older⟩
  | request => exact ⟨more h.1, h.2.1, h.2.2.1, List.mem_append_left _ h.2.2.2⟩
  | audit => trivial

theorem exec_quiet {ws : List Write} {o : Op} {r : Ret o} (run : o.exec d r ws) (quiet : writing o = false) : ws = [] := by
  cases o with
  | backend | replay | idOf => exact run.2
  | driverEnsure => exact run.2
  | upsertReady | insertRequest | upsertFailed | appendAudit => cases quiet
  | _ => exact run

theorem Opened.locked {t : Tx Lock Write} (h : Opened d t seen) (mem : (⟨.lock a, true⟩ : Obs Ret) ∈ since Op.part seen) :
    .advisory a ∈ t.held := h.held _ mem

theorem Opened.outside {c : EnsureCall} {t : Tx Lock Write} {o : Op} {r : Ret o} (h : Opened d t seen)
    (owed : Owed c seen o) (part : o.part = .outside) : Opened d t (seen ++ [⟨o, r⟩]) := by
  have grown : since Op.part (seen ++ [⟨o, r⟩]) = since Op.part seen ++ [⟨o, r⟩] := since_other (by simp [part])
  refine ⟨?_, ?_, ?_⟩
  · rw [grown]
    intro obs mem
    rcases List.mem_append.mp mem with mem | mem
    · exact h.held obs mem
    · cases List.mem_singleton.mp mem
      cases o with
      | clock | newString | driverEnsure => trivial
      | _ => cases part
  · rw [grown]
    exact fun quiet => h.quiet fun obs mem => quiet obs (List.mem_append_left _ mem)
  · intro w mem
    refine (h.backed w mem).append (fun _ here => here) ?_
    rintro target rfl
    exact owed.2

theorem Opened.opens {o : Op} {r : Ret o} (part : o.part = .opens) : Opened d ⟨∅, []⟩ (seen ++ [⟨o, r⟩]) := by
  have fresh : since Op.part (seen ++ [⟨o, r⟩]) = [] := since_opens part
  refine ⟨?_, fun _ => rfl, ?_⟩
  · rw [fresh]
    exact fun obs mem => absurd mem List.not_mem_nil
  · exact fun w mem => absurd mem List.not_mem_nil

structure Silent (d : Tables) (o : Op) (r : Ret o) : Prop where
  stands : Stands d o r
  unrecorded : ∀ b k response, (⟨o, r⟩ : Obs Ret) ≠ ⟨.insertRequest b k response, true⟩
  uncommitted : (⟨o, r⟩ : Obs Ret) ≠ ⟨.commit, true⟩

theorem silent {o : Op} {r : Ret o} (h : o.part ≠ .statement ∧ o.part ≠ .commits ∨ ¬ o.succeeds r) : Silent d o r := by
  cases o with
  | backend a =>
    refine ⟨?_, nofun, nofun⟩
    cases r with
    | none => trivial
    | some found => exact absurd h (by simp [Op.part, Op.succeeds])
  | replay b k =>
    refine ⟨?_, nofun, nofun⟩
    cases r with
    | none => trivial
    | some found => exact absurd h (by simp [Op.part, Op.succeeds])
  | insertRequest b k response =>
    refine ⟨trivial, ?_, nofun⟩
    rintro b' k' response' ⟨⟩
    exact absurd h (by simp [Op.part, Op.succeeds])
  | commit =>
    refine ⟨trivial, nofun, ?_⟩
    rintro ⟨⟩
    exact absurd h (by simp [Op.part, Op.succeeds])
  | _ => exact ⟨trivial, nofun, nofun⟩

theorem Noted.passive {o : Op} {r : Ret o} {tx tx' : Option (Tx Lock Write)} (h : Noted d tx seen)
    (silent : Silent d o r) (same : tx' = none ∨ tx' = tx)
    (opened : ∀ t, tx' = some t → Opened d t (seen ++ [⟨o, r⟩])) : Noted d tx' (seen ++ [⟨o, r⟩]) := by
  have before : ∀ {b k response}, (⟨.insertRequest b k response, true⟩ : Obs Ret) ∈ seen ++ [⟨o, r⟩] →
      (⟨.insertRequest b k response, true⟩ : Obs Ret) ∈ seen := fun mem =>
    (List.mem_append.mp mem).resolve_right fun mem => silent.unrecorded _ _ _ (List.mem_singleton.mp mem).symm
  refine ⟨?_, fun b k r b' k' r' mem mem' => h.one b k r b' k' r' (before mem) (before mem'), ?_, opened⟩
  · intro obs mem
    rcases List.mem_append.mp mem with mem | mem
    · exact h.stands obs mem
    · cases List.mem_singleton.mp mem
      exact silent.stands
  · intro b k response mem
    have recorded := h.recorded b k response (before mem)
    refine ⟨fun t open_ => ?_, fun mem => recorded.2 ?_⟩
    · rcases same with rfl | rfl
      · cases open_
      · exact recorded.1 t open_
    · exact (List.mem_append.mp mem).resolve_right fun mem => silent.uncommitted (List.mem_singleton.mp mem).symm

theorem Kept.apply {w : Write} (h : Kept d) (named : ∀ b k r, w = .request b k r → r.id = b) : Kept (w.apply d) := by
  cases w with
  | ready a id workspaceId provider settings now =>
    refine ⟨h.named, fun b row found ready => ?_⟩
    by_cases same : b = a
    · obtain rfl := Option.some.inj ((if_pos same).symm.trans found)
      unfold readyRow
      cases d.backends a <;> exact Nat.lt_succ_self _
    · exact Nat.lt_succ_of_lt (h.numbered b row ((if_neg same).symm.trans found) ready)
  | failed a id workspaceId provider code now =>
    refine ⟨h.named, fun b row found ready => ?_⟩
    by_cases same : b = a
    · obtain rfl := Option.some.inj ((if_pos same).symm.trans found)
      unfold failedRow at ready
      cases at_ : d.backends a <;> simp [at_] at ready
    · exact h.numbered b row ((if_neg same).symm.trans found) ready
  | request b k r =>
    refine ⟨fun b' k' r' found => ?_, h.numbered⟩
    by_cases same : b' = b ∧ k' = k
    · obtain rfl := Option.some.inj ((if_pos same).symm.trans found)
      exact (named b k r rfl).trans same.1.symm
    · exact h.named b' k' r' ((if_neg same).symm.trans found)
  | audit => exact ⟨h.named, h.numbered⟩

theorem Noted.opens {c : EnsureCall} {o : Op} {r : Ret o} {tx : Option (Tx Lock Write)} (h : Noted d tx seen)
    (owed : Owed c seen o) (part : o.part = .opens) : Noted d (some ⟨∅, []⟩) (seen ++ [⟨o, r⟩]) := by
  have silent : Silent d o r := silent (.inl (by simp [part]))
  have quiet := h.passive silent (.inl rfl) nofun
  refine ⟨quiet.stands, quiet.one, ?_, ?_⟩
  · intro b k response mem
    refine ⟨fun t _ => ?_, (quiet.recorded b k response mem).2⟩
    have old := (List.mem_append.mp mem).resolve_right fun mem =>
      silent.unrecorded _ _ _ (List.mem_singleton.mp mem).symm
    cases o with
    | beginTx => exact nomatch owed _ old
    | _ => cases part
  · rintro _ ⟨⟩
    exact .opens part

theorem Noted.lost {tx : Option (Tx Lock Write)} (h : Noted d tx seen) : Noted d none seen :=
  ⟨h.stands, h.one, fun b k r mem => ⟨nofun, (h.recorded b k r mem).2⟩, nofun⟩

end Replies

section Steps

variable [GoUnicode] {m : Manager} {d : Tables} {held apart : Set Lock} {seen : Seen} {ws : List Write} {a b k : String}

-- Writes under locks that are not held leave what the held ones protect.
theorem apart_row (backed : ∀ w ∈ ws, Backed d held seen w) (disjoint : Disjoint held apart) (mem : .advisory a ∈ apart) :
    ((managerService m).view ws d).backends a = d.backends a := by
  apply view_row
  intro w here touches
  have own := backed w here
  cases w with
  | ready => exact Set.disjoint_left.mp disjoint (touches ▸ own.1) mem
  | failed => exact Set.disjoint_left.mp disjoint (touches ▸ own.1) mem
  | request | audit => exact touches

theorem apart_request (backed : ∀ w ∈ ws, Backed d held seen w) (disjoint : Disjoint held apart) (mem : .row b ∈ apart) :
    ((managerService m).view ws d).requests b k = d.requests b k :=
  view_request fun _ here => Set.disjoint_left.mp disjoint (backed _ here).1 mem

theorem Held.stays {o : Op} {r : Ret o} (h : Held d apart o r) (backed : ∀ w ∈ ws, Backed d held seen w)
    (disjoint : Disjoint held apart) : Held ((managerService m).view ws d) apart o r := by
  cases o with
  | lock a => cases r <;> exact h
  | backend a =>
    rcases r with _ | _ | ⟨b, settings⟩
    · trivial
    · exact ⟨h.1, (apart_row backed disjoint h.1).trans h.2⟩
    · exact h
  | replay b k =>
    rcases r with _ | _ | r
    · trivial
    · exact ⟨h.1, (apart_request backed disjoint h.1).trans h.2⟩
    · trivial
  | _ => trivial

theorem Stands.stays {o : Op} {r : Ret o} (h : Stands d o r) (backed : ∀ w ∈ ws, Backed d held seen w) :
    Stands ((managerService m).view ws d) o r := by
  cases o with
  | backend a =>
    rcases r with _ | _ | ⟨b, settings⟩
    · trivial
    · trivial
    · obtain ⟨row, found, rfl⟩ := h
      exact view_id found
  | replay b k =>
    rcases r with _ | _ | r
    · trivial
    · trivial
    · refine (view_request fun r' here => ?_).trans h
      exact absurd ((backed _ here).2.1.symm.trans h) nofun
  | _ => trivial

theorem Backed.stays {w : Write} {seen' : Seen} (h : Backed d apart seen' w) (backed : ∀ w ∈ ws, Backed d held seen w)
    (disjoint : Disjoint held apart) : Backed ((managerService m).view ws d) apart seen' w := by
  cases w with
  | ready => exact h
  | failed a =>
    obtain ⟨lock, started, clock, refused, older⟩ := h
    refine ⟨lock, started, clock, refused, ?_⟩
    rw [apart_row backed disjoint lock]
    exact older
  | request b k => exact ⟨h.1, (apart_request backed disjoint h.1).trans h.2.1, h.2.2⟩
  | audit => trivial

section Own

variable {c : EnsureCall} {t : Tx Lock Write} {o : Op} {r : Ret o}

theorem Opened.reply (h : Opened d t seen) (owed : Owed c seen o)
    (run : o.exec ((managerService m).view t.writes d) r ws) :
    Held d (t.held ∪ o.locks ((managerService m).view t.writes d)) o r := by
  cases o with
  | lock a =>
    cases r with
    | false => trivial
    | true => exact .inr rfl
  | backend a =>
    have none_written := h.quiet owed.2
    rw [none_written] at run ⊢
    obtain ⟨rfl, -⟩ := run
    rw [Service.view_nil]
    cases found : d.backends a with
    | none => exact ⟨.inl (h.locked owed.1), found⟩
    | some row => exact .inr ⟨row, found, rfl⟩
  | replay b k =>
    obtain ⟨⟨a, settings, read⟩, quiet⟩ := owed
    have none_written := h.quiet quiet
    rw [none_written] at run ⊢
    obtain ⟨rfl, -⟩ := run
    rw [Service.view_nil]
    cases found : d.requests b k with
    | none => exact ⟨.inl (h.held _ read), found⟩
    | some r => trivial
  | _ => trivial

theorem Opened.stands (h : Opened d t seen) (owed : Owed c seen o)
    (run : o.exec ((managerService m).view t.writes d) r ws) : Stands d o r := by
  cases o with
  | backend a =>
    rw [h.quiet owed.2] at run
    obtain ⟨rfl, -⟩ := run
    rw [Service.view_nil]
    cases found : d.backends a with
    | none => trivial
    | some row => exact ⟨row, found, rfl⟩
  | replay b k =>
    rw [h.quiet owed.2] at run
    obtain ⟨rfl, -⟩ := run
    rw [Service.view_nil]
    cases found : d.requests b k with
    | none => trivial
    | some r => exact found
  | _ => trivial

theorem Opened.wrote (h : Opened d t seen) (owed : Owed c seen o) (ok : o.succeeds r)
    (run : o.exec ((managerService m).view t.writes d) r ws) :
    ∀ w ∈ ws, Backed d (t.held ∪ o.locks ((managerService m).view t.writes d)) (seen ++ [⟨o, r⟩]) w := by
  intro w mem
  cases o with
  | upsertReady a id workspaceId provider settings now =>
    obtain ⟨-, -, rfl⟩ := run
    obtain rfl := List.mem_singleton.mp mem
    refine ⟨.inl (h.locked owed.1), fun tame => ?_, owed.2.append nofun⟩
    cases tame _ (List.mem_append_right _ List.mem_cons_self)
  | insertRequest b k response =>
    obtain ⟨absent, -, rfl⟩ := run
    obtain rfl := List.mem_singleton.mp mem
    cases (show r = true from ok)
    refine ⟨.inr rfl, ?_, owed.1, List.mem_append_right _ List.mem_cons_self⟩
    rw [view_request fun r' here => owed.2.1 _ _ _ (h.backed _ here).2.2.2] at absent
    exact absent
  | upsertFailed id workspaceId a code started now =>
    obtain ⟨lock, quiet, clock, n, refused⟩ := owed
    rw [h.quiet quiet, Service.view_nil] at run
    rcases run with ⟨-, rfl⟩ | ⟨-, -, older, provider, rfl⟩
    · cases mem
    · obtain rfl := List.mem_singleton.mp mem
      exact ⟨.inl (h.locked lock), started, List.mem_append_left _ clock, ⟨n, refused.append⟩, older⟩
  | appendAudit e =>
    obtain rfl : ws = [.audit e] := run
    obtain rfl := List.mem_singleton.mp mem
    trivial
  | _ =>
    rw [exec_quiet run rfl] at mem
    cases mem

theorem Opened.statement (h : Opened d t seen) (owed : Owed c seen o) (part : o.part = .statement) (ok : o.succeeds r)
    (run : o.exec ((managerService m).view t.writes d) r ws) :
    Opened d ⟨t.held ∪ o.locks ((managerService m).view t.writes d), t.writes ++ ws⟩ (seen ++ [⟨o, r⟩]) := by
  have grown : since Op.part (seen ++ [⟨o, r⟩]) = since Op.part seen ++ [⟨o, r⟩] := since_other (by simp [part])
  have backed : ∀ w ∈ t.writes ++ ws, Backed d (t.held ∪ o.locks ((managerService m).view t.writes d))
      (seen ++ [⟨o, r⟩]) w := by
    intro w mem
    rcases List.mem_append.mp mem with mem | mem
    · exact (h.backed w mem).append Set.subset_union_left (by rintro target rfl; cases part)
    · exact h.wrote owed ok run w mem
  refine ⟨?_, ?_, backed⟩
  · rw [grown]
    intro obs mem
    rcases List.mem_append.mp mem with mem | mem
    · exact (h.held obs mem).mono Set.subset_union_left
    · cases List.mem_singleton.mp mem
      exact h.reply owed run
  · rw [grown]
    intro quiet
    rw [h.quiet fun obs mem => quiet obs (List.mem_append_left _ mem),
      exec_quiet run (quiet _ (List.mem_append_right _ List.mem_cons_self))]
    rfl

theorem Noted.statement (h : Noted d (some t) seen) (owed : Owed c seen o) (part : o.part = .statement)
    (ok : o.succeeds r) (run : o.exec ((managerService m).view t.writes d) r ws) :
    Noted d (some ⟨t.held ∪ o.locks ((managerService m).view t.writes d), t.writes ++ ws⟩) (seen ++ [⟨o, r⟩]) := by
  have opened := h.opened t rfl
  have uncommitted : (⟨.commit, true⟩ : Obs Ret) ∈ seen ++ [⟨o, r⟩] → (⟨.commit, true⟩ : Obs Ret) ∈ seen := by
    intro mem
    refine (List.mem_append.mp mem).resolve_right fun mem => ?_
    cases List.mem_singleton.mp mem
    cases part
  refine ⟨?_, ?_, ?_, ?_⟩
  · intro obs mem
    rcases List.mem_append.mp mem with mem | mem
    · exact h.stands obs mem
    · cases List.mem_singleton.mp mem
      exact opened.stands owed run
  · intro b k r₁ b' k' r₂ mem mem'
    rcases List.mem_append.mp mem with old | new <;> rcases List.mem_append.mp mem' with old' | new'
    · exact h.one b k r₁ b' k' r₂ old old'
    · cases List.mem_singleton.mp new'
      exact absurd old (owed.2.1 b k r₁)
    · cases List.mem_singleton.mp new
      exact absurd old' (owed.2.1 b' k' r₂)
    · cases List.mem_singleton.mp new
      cases List.mem_singleton.mp new'
      rfl
  · intro b k response mem
    rcases List.mem_append.mp mem with mem | mem
    · obtain ⟨pending, recorded⟩ := h.recorded b k response mem
      refine ⟨?_, fun committed => recorded (uncommitted committed)⟩
      rintro _ ⟨⟩
      exact List.mem_append_left _ (pending t rfl)
    · cases List.mem_singleton.mp mem
      refine ⟨?_, fun committed => absurd (uncommitted committed) owed.2.2⟩
      rintro _ ⟨⟩
      exact List.mem_append_right _ (run.2.2 ▸ List.mem_cons_self)
  · rintro _ ⟨⟩
    exact opened.statement owed part ok run

theorem Noted.commits (h : Noted d (some t) seen) (part : o.part = .commits) :
    Noted ((managerService m).view t.writes d) none (seen ++ [⟨o, r⟩]) := by
  have opened := h.opened t rfl
  cases o with
  | commit =>
    have before : ∀ {b k response}, (⟨.insertRequest b k response, true⟩ : Obs Ret) ∈ seen ++ [⟨.commit, r⟩] →
        (⟨.insertRequest b k response, true⟩ : Obs Ret) ∈ seen := by
      intro b k response mem
      exact (List.mem_append.mp mem).resolve_right fun mem => nomatch List.mem_singleton.mp mem
    refine ⟨?_, fun b k r b' k' r' mem mem' => h.one b k r b' k' r' (before mem) (before mem'), ?_, nofun⟩
    · intro obs mem
      rcases List.mem_append.mp mem with mem | mem
      · exact (h.stands obs mem).stays opened.backed
      · cases List.mem_singleton.mp mem
        trivial
    · intro b k response mem
      refine ⟨nofun, fun _ => view_recorded ((h.recorded b k response (before mem)).1 t rfl) ?_⟩
      intro response' here
      exact h.one b k response' b k response (opened.backed _ here).2.2.2 (before mem)
  | _ => cases part

end Own

theorem Kept.view (h : Kept d) (named : ∀ b k r, .request b k r ∈ ws → r.id = b) :
    Kept ((managerService m).view ws d) := by
  induction ws generalizing d with
  | nil => exact h
  | cons w ws ih =>
    rw [Service.view_cons]
    refine ih (h.apply ?_) fun b k r mem => named b k r (List.mem_cons_of_mem _ mem)
    rintro b k r rfl
    exact named b k r List.mem_cons_self

theorem Noted.own {c : EnsureCall} {o : Op} {r : Ret o} {tx tx' : Option (Tx Lock Write)} {d' : Tables} (kept : Kept d)
    (h : Noted d tx seen) (owed : Owed c seen o) (move : (managerService m).Move d tx o r d' tx') :
    Kept d' ∧ Noted d' tx' (seen ++ [⟨o, r⟩]) := by
  cases move with
  | opens part ok => exact ⟨kept, h.opens owed part⟩
  | statement part ok run => exact ⟨kept, h.statement owed part ok run⟩
  | commits part =>
    refine ⟨kept.view fun b k r mem => ?_, h.commits part⟩
    exact ((h.opened _ rfl).backed _ mem).2.2.1
  | rollsBack part =>
    have part : o.part = .rollsBack := part
    exact ⟨kept, h.passive (silent (.inl (by simp [part]))) (.inl rfl) nofun⟩
  | outside part run =>
    have part : o.part = .outside := part
    refine ⟨kept, h.passive (silent (.inl (by simp [part]))) (.inr rfl) fun t open_ => ?_⟩
    exact (h.opened t open_).outside owed part
  | failed part no => exact ⟨kept, h.passive (silent (.inr no)) (.inl rfl) nofun⟩

theorem Noted.other {t : Tx Lock Write} {seen' : Seen} {tx : Option (Tx Lock Write)} (own : Noted d (some t) seen)
    (disjoint : Disjoint t.held (heldBy tx)) (h : Noted d tx seen') :
    Noted ((managerService m).view t.writes d) tx seen' := by
  have backed := (own.opened t rfl).backed
  refine ⟨fun obs mem => (h.stands obs mem).stays backed, h.one, ?_, ?_⟩
  · intro b k r mem
    refine ⟨(h.recorded b k r mem).1, fun committed => ?_⟩
    have recorded := (h.recorded b k r mem).2 committed
    refine (view_request fun r' here => ?_).trans recorded
    exact absurd ((backed _ here).2.1.symm.trans recorded) nofun
  · rintro u rfl
    have opened := h.opened u rfl
    refine ⟨fun obs mem => (opened.held obs mem).stays backed disjoint, opened.quiet, ?_⟩
    exact fun w mem => (opened.backed w mem).stays backed disjoint

end Steps

end Provisr.StateBackend
