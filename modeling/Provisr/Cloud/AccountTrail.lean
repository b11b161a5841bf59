import Provisr.Cloud.AccountVerification
import Provisr.Foundation.RelyGuarantee

namespace Provisr.Cloud.Accounts

open Provisr.Foundation Provisr.Backend
open Provisr.Audit (EventType)
open Provisr.Backend.SourceMetadata (Map)
open Op (Ret)

section Replay

def AuditEvent.status (e : AuditEvent) : Option AccountStatus :=
  match e.payload.lookup "status" with
  | some (.str s) => AccountStatus.parse s
  | _ => none

def AuditEvent.apply (e : AuditEvent) (before : Option AccountStatus) : Option AccountStatus :=
  match e.eventType with
  | .cloudAccountCreated => some .pending
  | .cloudAccountStatusChanged => before.map fun s => e.status.getD s
  | .cloudAccountDeleted => none
  | _ => before

def AuditEvent.about (e : AuditEvent) (i : PgUuid) : Prop := PgUuid.parse e.resourceID = some i

instance (e : AuditEvent) (i : PgUuid) : Decidable (e.about i) := inferInstanceAs (Decidable (_ = _))

def replay (i : PgUuid) (events : List AuditEvent) : Option AccountStatus :=
  events.foldl (fun before e => if e.about i then e.apply before else before) none

variable {i : PgUuid} {events : List AuditEvent} {e : AuditEvent}

theorem replay_append : replay i (events ++ [e]) =
    if e.about i then e.apply (replay i events) else replay i events := by
  simp [replay, List.foldl_append]

theorem replay_unheard (unheard : ∀ e ∈ events, ¬ e.about i) : replay i events = none := by
  induction events using List.reverseRecOn with
  | nil => rfl
  | append_singleton events e ih =>
    rw [replay_append, if_neg (unheard e (by simp))]
    exact ih fun e mem => unheard e (by simp [mem])

def Consistent (d : Tables) : Prop := ∀ i, (d.accounts i).map (·.status) = replay i d.audits

theorem Consistent.heard {d : Tables} (h : Consistent d) {row : AccountRow} (found : d.accounts i = some row) :
    ¬ Op.Unheard d i := by
  intro unheard
  have same := h i
  rw [replay_unheard unheard, found] at same
  cases same

end Replay

section Writes

def Write.target : Write → Option PgUuid
  | .insert i _ | .retry i .. | .status i .. | .failed i _ | .verified i .. | .delete i => some i
  | .key .. | .audit _ => none

def Write.row : Write → Option AccountRow → Option AccountRow
  | .insert _ row => fun _ => some row
  | .retry _ label hash encrypted now => Option.map (·.retry label hash encrypted now)
  | .status _ s now => Option.map (·.setStatus s now)
  | .failed _ now => Option.map (·.fail now)
  | .verified _ encrypted now => Option.map (·.verify encrypted now)
  | .delete _ => fun _ => none
  | .key .. | .audit _ => id

variable {w : Write} {i : PgUuid} {d : Tables}

theorem apply_accounts (target : w.target = some i) (j : PgUuid) :
    (w.apply d).accounts j = if j = i then w.row (d.accounts j) else d.accounts j := by
  cases w with
  | key | audit => cases target
  | _ =>
    obtain rfl := Option.some.inj target
    rfl

theorem apply_rest (target : w.target = some i) : (w.apply d).audits = d.audits ∧ (w.apply d).keys = d.keys := by
  cases w with
  | key | audit => cases target
  | _ => exact ⟨rfl, rfl⟩

end Writes

section Rely

structure Known (d : Tables) (i w : PgUuid) : Prop where
  heard : ¬ Op.Unheard d i
  workspace : ∀ row, d.accounts i = some row → row.workspaceID = w

structure Stays (held : Set Lock) (d d' : Tables) : Prop where
  row : ∀ i, .account i ∈ held → d'.accounts i = d.accounts i
  unheard : ∀ i, .account i ∈ held → Op.Unheard d i → Op.Unheard d' i
  heard : ∀ i, ¬ Op.Unheard d i → ¬ Op.Unheard d' i
  gone : ∀ i, ¬ Op.Unheard d i → d.accounts i = none → d'.accounts i = none
  known : ∀ i w, Known d i w → Known d' i w

structure Isolated (workspaceID : String) (d d' : Tables) : Prop where
  accounts : ∀ i row, PgUuid.parse workspaceID ≠ some row.workspaceID →
    (d'.accounts i = some row ↔ d.accounts i = some row)
  keys : ∀ w, PgUuid.parse workspaceID ≠ some w → d'.keys w = d.keys w
  audits : ∃ es, d'.audits = d.audits ++ es ∧ ∀ e ∈ es, e.workspaceID = workspaceID

variable {held held' : Set Lock} {d d' d'' : Tables} {i : PgUuid} {text : String}

theorem Stays.refl (held : Set Lock) (d : Tables) : Stays held d d :=
  ⟨fun _ _ => rfl, fun _ _ h => h, fun _ h => h, fun _ _ h => h, fun _ _ h => h⟩

theorem Stays.trans (h : Stays held d d') (h' : Stays held d' d'') : Stays held d d'' where
  row i mem := (h'.row i mem).trans (h.row i mem)
  unheard i mem unheard := h'.unheard i mem (h.unheard i mem unheard)
  heard i heard := h'.heard i (h.heard i heard)
  gone i heard none_ := h'.gone i (h.heard i heard) (h.gone i heard none_)
  known i w known := h'.known i w (h.known i w known)

theorem Stays.fewer (more : held ⊆ held') (h : Stays held' d d') : Stays held d d' :=
  ⟨fun i mem => h.row i (more mem), fun i mem => h.unheard i (more mem), h.heard, h.gone, h.known⟩

theorem Isolated.refl (text : String) (d : Tables) : Isolated text d d :=
  ⟨fun _ _ _ => Iff.rfl, fun _ _ => rfl, [], (List.append_nil _).symm, nofun⟩

def Call.workspaceID : Call → String
  | .create _ body => (body.map (·.workspaceID)).getD ""
  | .list workspaceID | .get workspaceID _ | .updateStatus _ workspaceID .. | .verify _ workspaceID .. |
    .delete _ workspaceID _ => workspaceID

variable [CloudPlatform]

def trail : Service.Pact server where
  Inv := Consistent
  Rely := Stays
  Guar c := Isolated c.workspaceID
  refl := .refl
  trans := .trans
  fewer := .fewer
  unchanged c := .refl c.workspaceID

end Rely

section Recording

variable {d d' : Tables} {t : Tx Lock Write} {text : String} {e : AuditEvent} {i : PgUuid} {ws : List Write}

def Claimed (text : String) (ws : List Write) : Prop :=
  ∀ v ∈ ws, ∃ w key mutation, PgUuid.parse text = some w ∧ v = .key w key mutation

inductive Ready (text : String) (d : Tables) (t : Tx Lock Write) (e : AuditEvent) : Prop
  | changed {ws : List Write} {v : Write} {i w : PgUuid} (writes : t.writes = ws ++ [v]) (claimed : Claimed text ws)
      (target : v.target = some i) (held : .account i ∈ t.held) (scope : PgUuid.parse text = some w)
      (fresh : d.accounts i = none → Op.Unheard d i) (old : ∀ row, d.accounts i = some row → row.workspaceID = w)
      (new : ∀ row, v.row (d.accounts i) = some row → row.workspaceID = w)
      (same : (v.row (d.accounts i)).map (·.status) = e.apply ((d.accounts i).map (·.status)))
      (resource : e.about i) (workspace : e.workspaceID = text)
  | missed {i : PgUuid} (claimed : Claimed text t.writes) (heard : ¬ Op.Unheard d i) (gone : d.accounts i = none)
      (same : e.apply none = none) (resource : e.about i) (workspace : e.workspaceID = text)

theorem Ready.later (h : Ready text d t e) (stays : Stays t.held d d') : Ready text d' t e := by
  cases h with
  | changed writes claimed target held scope fresh old new same resource workspace =>
    have row := stays.row _ held
    refine .changed writes claimed target held scope ?_ ?_ ?_ ?_ resource workspace
    · exact fun none_ => stays.unheard _ held (fresh (row.symm.trans none_))
    · rwa [row]
    · rwa [row]
    · rwa [row]
  | missed claimed heard gone same resource workspace =>
    exact .missed claimed (stays.heard _ heard) (stays.gone _ heard gone) same resource workspace

structure Settled (text : String) (held : Set Lock) (i : PgUuid) (d d' : Tables) (e : AuditEvent) : Prop where
  audits : d'.audits = d.audits ++ [e]
  keys : ∀ w, PgUuid.parse text ≠ some w → d'.keys w = d.keys w
  other : ∀ j, j ≠ i → d'.accounts j = d.accounts j
  status : (d'.accounts i).map (·.status) = e.apply ((d.accounts i).map (·.status))
  claim : .account i ∈ held ∧ (d.accounts i = none → Op.Unheard d i) ∨
    ¬ Op.Unheard d i ∧ d.accounts i = none ∧ d'.accounts i = none
  workspace : ∀ row, d.accounts i = some row ∨ d'.accounts i = some row → PgUuid.parse text = some row.workspaceID
  resource : e.about i
  scope : e.workspaceID = text

section Commits

variable {held : Set Lock}

theorem Settled.consistent (h : Settled text held i d d' e) (consistent : Consistent d) : Consistent d' := by
  intro j
  rw [h.audits, replay_append]
  by_cases same : j = i
  · subst same
    rw [if_pos h.resource, h.status, consistent j]
  · rw [if_neg fun about => same (Option.some.inj (about.symm.trans h.resource)), h.other j same, consistent j]

theorem Settled.isolated (h : Settled text held i d d' e) : Isolated text d d' := by
  refine ⟨fun j row other => ?_, h.keys, [e], h.audits, by simpa using h.scope⟩
  by_cases same : j = i
  · subst same
    exact ⟨fun found => absurd (h.workspace row (.inr found)) other,
      fun found => absurd (h.workspace row (.inl found)) other⟩
  · rw [h.other j same]

theorem Settled.heard (h : Settled text held i d d' e) (j : PgUuid) (heard : ¬ Op.Unheard d j) : ¬ Op.Unheard d' j :=
  fun unheard => heard fun e mem => unheard e (h.audits ▸ List.mem_append_left _ mem)

theorem Settled.stays (h : Settled text held i d d' e) {apart : Set Lock} (disjoint : Disjoint held apart) :
    Stays apart d d' := by
  have away : ∀ j, .account j ∈ apart → .account i ∈ held → j ≠ i := by
    rintro j mem here rfl
    exact Set.disjoint_left.mp disjoint here mem
  have gone : ∀ j, ¬ Op.Unheard d j → d.accounts j = none → d'.accounts j = none := by
    intro j heard none_
    by_cases same : j = i
    · subst same
      rcases h.claim with ⟨-, fresh⟩ | ⟨-, -, none_'⟩
      · exact absurd (fresh none_) heard
      · exact none_'
    · exact (h.other j same).trans none_
  refine ⟨fun j mem => ?_, fun j mem unheard => ?_, h.heard, gone, fun j w known => ⟨h.heard j known.heard, ?_⟩⟩
  · rcases h.claim with ⟨here, -⟩ | ⟨-, none_, none_'⟩
    · exact h.other j (away j mem here)
    · by_cases same : j = i
      · subst same
        exact none_'.trans none_.symm
      · exact h.other j same
  · have ne : j ≠ i := by
      rcases h.claim with ⟨here, -⟩ | ⟨heard, -, -⟩
      · exact away j mem here
      · rintro rfl
        exact heard unheard
    rintro e' mem' about
    rw [h.audits] at mem'
    rcases List.mem_append.mp mem' with mem' | mem'
    · exact unheard e' mem' about
    · obtain rfl := List.mem_singleton.mp mem'
      exact ne (Option.some.inj (about.symm.trans h.resource))
  · intro row found
    by_cases same : j = i
    · subst same
      cases before : d.accounts j with
      | none => cases (gone j known.heard before).symm.trans found
      | some row' =>
        have new := h.workspace row (.inr found)
        have old := h.workspace row' (.inl before)
        rw [← known.workspace row' before]
        exact Option.some.inj (new.symm.trans old)
    · exact known.workspace row ((h.other j same).symm.trans found)

def Recorded (text : String) (d : Tables) (t : Tx Lock Write) : Prop :=
  ∃ u e, Ready text d u e ∧ u.held ⊆ t.held ∧ t.writes = u.writes ++ [.audit e]

theorem Recorded.later (h : Recorded text d t) (stays : Stays t.held d d') : Recorded text d' t := by
  obtain ⟨u, e, ready, more, writes⟩ := h
  exact ⟨u, e, ready.later (stays.fewer more), more, writes⟩

theorem Ready.recorded (h : Ready text d t e) {more : Set Lock} :
    Recorded text d ⟨t.held ∪ more, t.writes ++ [.audit e]⟩ :=
  ⟨t, e, h, Set.subset_union_left, rfl⟩

end Commits

section Views

variable [CloudPlatform]

theorem view_claims (claimed : Claimed text ws) :
    (server.view ws d).accounts = d.accounts ∧ (server.view ws d).audits = d.audits ∧
      ∀ w, PgUuid.parse text ≠ some w → (server.view ws d).keys w = d.keys w := by
  induction ws generalizing d with
  | nil => exact ⟨rfl, rfl, fun _ _ => rfl⟩
  | cons v ws ih =>
    obtain ⟨w, key, mutation, scope, rfl⟩ := claimed v List.mem_cons_self
    obtain ⟨accounts, audits, keys⟩ := ih (d := server.apply (.key w key mutation) d)
      fun v mem => claimed v (List.mem_cons_of_mem _ mem)
    refine ⟨accounts, audits, fun w' other => (keys w' other).trans ?_⟩
    funext key'
    refine if_neg ?_
    rintro ⟨rfl, -⟩
    exact other scope

theorem Ready.settled (h : Ready text d t e) :
    ∃ i, Settled text t.held i d (server.view (t.writes ++ [.audit e]) d) e := by
  rw [Service.view_append]
  cases h with
  | @changed ws v i w writes claimed target held scope fresh old new same resource workspace =>
    obtain ⟨accounts, audits, keys⟩ := view_claims (d := d) claimed
    obtain ⟨audits', keys'⟩ := apply_rest (d := server.view ws d) target
    have rows : ∀ j, (server.view t.writes d).accounts j = if j = i then v.row (d.accounts j) else d.accounts j := by
      intro j
      rw [writes, Service.view_append, ← accounts]
      exact apply_accounts target j
    have here := (rows i).trans (if_pos rfl)
    refine ⟨i, ?_, ?_, fun j other => (rows j).trans (if_neg other), ?_, .inl ⟨held, fresh⟩, ?_, resource, workspace⟩
    · rw [writes, Service.view_append]
      exact congrArg (· ++ [e]) (audits'.trans audits)
    · intro w other
      rw [writes, Service.view_append]
      exact (congrFun keys' w).trans (keys w other)
    · exact (congrArg (Option.map (·.status)) here).trans same
    · rintro row (found | found)
      · rw [old row found, scope]
      · rw [new row (here.symm.trans found), scope]
  | @missed i claimed heard gone same resource workspace =>
    obtain ⟨accounts, audits, keys⟩ := view_claims (d := d) claimed
    have here := (congrFun accounts i).trans gone
    refine ⟨i, congrArg (· ++ [e]) audits, keys, fun j _ => congrFun accounts j, ?_, .inr ⟨heard, gone, here⟩, ?_,
      resource, workspace⟩
    · refine (congrArg (Option.map (·.status)) here).trans ?_
      rw [gone]
      exact same.symm
    · rintro row (found | found)
      · cases gone.symm.trans found
      · cases here.symm.trans found

theorem Recorded.fits {c : Call} (h : Recorded c.workspaceID d t) (inv : Consistent d) :
    trail.Fits c d t.held (server.view t.writes d) := by
  obtain ⟨u, e, ready, more, writes⟩ := h
  obtain ⟨i, settled⟩ := ready.settled
  rw [writes]
  exact ⟨settled.consistent inv, settled.isolated, fun apart disjoint => settled.stays (disjoint.mono_left more)⟩

end Views

end Recording

section Programs

variable [CloudPlatform] {c : Call} {d : Tables} {t : Tx Lock Write} {headers : Headers} {id message mutation : String}
  {e : AuditEvent} {α β : Type}

abbrev Keeps (c : Call) (p : Handling α) : Prop := ∀ d, trail.Apart c (fun _ _ => True) d p

abbrev KeepsWithin (c : Call) (d : Tables) (t : Tx Lock Write) (p : Handling α) : Prop :=
  trail.Within c (fun _ _ _ => True) d t p

def quiet (o : Op) : Prop := server.part o ≠ .opens

section Statements

variable {W : Tables → Tx Lock Write → Unit → Prop}

theorem within_require {holds : Bool} {refusal : Response} (h : W d t ()) :
    trail.Within c W d t (require holds refusal) := by
  unfold require
  split
  · exact .pure h
  · exact .throw

theorem claim_within (claimed : Claimed c.workspaceID t.writes)
    (h : ∀ d' t', Stays t.held d d' → Claimed c.workspaceID t'.writes → W d' t' ()) :
    trail.Within c W d t (claimIdempotencyKey headers c.workspaceID mutation) := by
  unfold claimIdempotencyKey
  refine .bind ?_
  refine within_require ?_
  refine .attempt rfl ?_
  intro d' inv rely r ws a ok run same
  refine h d' _ rely fun v mem => ?_
  rcases List.mem_append.mp mem with mem | mem
  · exact claimed v mem
  · obtain ⟨w, scope, ⟨-, -, rfl⟩ | ⟨-, -, rfl⟩⟩ := run
    · exact ⟨w, _, _, scope, List.mem_singleton.mp mem⟩
    · cases mem

theorem record_within {f g : Bool → Except Response Unit} {rest : Unit → Handling β}
    (ready : Ready c.workspaceID d t e) :
    KeepsWithin c d t (Async.attempt (Op.emitAudit e) f >>= fun _ => Async.attempt Op.commit g >>= rest) := by
  refine .bind ?_
  refine .attempt rfl ?_
  intro d' inv rely r ws a ok run same
  obtain rfl : ws = [.audit e] := run
  refine .bind ?_
  refine .commits rfl fun d'' inv' rely' => ?_
  exact ((ready.later rely).recorded.later rely').fits inv'

end Statements

section Bodies

variable {row : Insertion} {now : Int} {i w : PgUuid} {status : AccountStatus}

theorem viewed {ws : List Write} {text : String} (claimed : Claimed text ws) {found : Option AccountRow}
    (at_ : (server.view ws d).accounts i = found) : d.accounts i = found := by
  rwa [(view_claims claimed).1] at at_

theorem unheard_viewed {ws : List Write} {text : String} (claimed : Claimed text ws)
    (unheard : Op.Unheard (server.view ws d) i) : Op.Unheard d i := by
  unfold Op.Unheard at unheard
  rwa [(view_claims claimed).2.1] at unheard

omit [CloudPlatform] in
theorem apply_status {text account : String} {payload : JsFields} {before : AccountStatus}
    (said : payload.lookup "status" = some (.str status.text)) :
    (event headers text .cloudAccountStatusChanged account payload).apply (some before) = some status := by
  simp [AuditEvent.apply, AuditEvent.status, event, said]

theorem Ready.found {v : Write} {text account : String} {found : AccountRow} {more : Set Lock}
    (claimed : Claimed text t.writes) (finds : Op.Finds (server.view t.writes d) account text i found)
    (target : v.target = some i) (held : .account i ∈ more)
    (new : ∀ row, v.row (some found) = some row → row.workspaceID = found.workspaceID)
    (same : (v.row (some found)).map (·.status) = e.apply (some found.status)) (resource : e.resourceID = account)
    (workspace : e.workspaceID = text) : Ready text d ⟨t.held ∪ more, t.writes ++ [v]⟩ e := by
  obtain ⟨id_, scope, at_⟩ := finds
  have at_ := viewed claimed at_
  refine .changed rfl claimed target (.inr held) scope ?_ ?_ ?_ ?_ ?_ workspace
  · exact fun none_ => nomatch at_.symm.trans none_
  · rintro row' found'
    rw [Option.some.inj (at_.symm.trans found')]
  · rwa [at_]
  · rwa [at_]
  · unfold AuditEvent.about
    rwa [resource]

theorem tryRetryPending_keeps (scope : row.workspaceID = c.workspaceID) (claimed : Claimed c.workspaceID t.writes) :
    KeepsWithin c d t (tryRetryPending headers row now) := by
  unfold tryRetryPending
  refine .bind ?_
  refine .attempt rfl ?_
  intro d₁ inv rely r ws a ok run same
  obtain rfl : ws = [] := run
  rw [List.append_nil]
  refine .bind ?_
  refine .attempt rfl ?_
  rintro d₂ inv' rely' r ws a ok run same
  cases a with
  | none => exact .throw
  | some id =>
    rcases run with ⟨i, found, pending, rfl, rfl⟩ | ⟨-, rfl, rfl⟩
    · obtain rfl : i = id := Option.some.inj (Except.ok.inj same)
      refine record_within (.changed rfl claimed rfl ?_ (scope ▸ pending.1) ?_ ?_ ?_ ?_ (PgUuid.parse_text i) scope)
      · exact .inr ⟨i, found, pending, rfl⟩
      all_goals rw [viewed claimed pending.2.2.2]
      · exact nofun
      · rintro row' ⟨⟩
        rfl
      · rintro row' ⟨⟩
        rfl
      · exact congrArg some pending.2.2.1
    · cases same

theorem insert_keeps (scope : row.workspaceID = c.workspaceID) (claimed : Claimed c.workspaceID t.writes) :
    KeepsWithin c d t (insert headers row now) := by
  unfold insert
  rw [scope]
  refine .bind ?_
  refine claim_within claimed ?_
  intro d₁ t₁ _ claimed
  refine .bind ?_
  refine .attempt rfl ?_
  intro d₂ inv rely r ws a ok run same
  obtain rfl : ws = [] := run
  rw [List.append_nil]
  refine .bind ?_
  refine .aside rfl ?_
  intro d₃ inv rely id a run drawn
  obtain rfl := Except.ok.inj drawn
  refine .bind ?_
  refine .attempt rfl ?_
  intro d₄ inv rely r ws a ok run same
  obtain rfl := Except.ok.inj same
  cases r with
  | inserted =>
    obtain ⟨w, parsed, -, ⟨vacant, absent, unheard, -, rfl⟩ | ⟨-, bad, -⟩⟩ := run
    · have absent := viewed claimed absent
      refine record_within (.changed rfl claimed rfl ?_ (scope ▸ parsed) ?_ ?_ ?_ ?_ (PgUuid.parse_text id) rfl)
      · exact .inr ⟨w, parsed, vacant, .inl rfl⟩
      · exact fun _ => unheard_viewed claimed unheard
      · exact fun row' found => nomatch absent.symm.trans found
      · rintro row' ⟨⟩
        rfl
      · rfl
    · cases bad
  | uniqueViolation =>
    obtain rfl : ws = [] := by
      obtain ⟨w, parsed, -, ⟨-, -, -, bad, -⟩ | ⟨-, -, rfl⟩⟩ := run
      · cases bad
      · rfl
    rw [List.append_nil]
    exact tryRetryPending_keeps scope claimed
  | foreignKeyViolation | error => exact .throw

theorem update_keeps {id : String} (claimed : Claimed c.workspaceID t.writes) :
    KeepsWithin c d t (update headers c.workspaceID id status now) := by
  unfold update
  refine .bind ?_
  refine claim_within claimed ?_
  intro d₁ t₁ _ claimed
  refine .bind ?_
  refine .attempt rfl ?_
  intro d₂ inv rely r ws a ok run same
  rcases run with ⟨i, found, finds, rfl, rfl⟩ | ⟨-, rfl, rfl⟩
  · refine record_within (.found claimed finds rfl ⟨i, found, finds, rfl⟩ ?_ ?_ rfl rfl)
    · rintro row' ⟨⟩
      rfl
    · exact (apply_status rfl).symm
  · cases same

theorem delete_keeps {id : String} (claimed : Claimed c.workspaceID t.writes) :
    KeepsWithin c d t (delete headers c.workspaceID id now) := by
  unfold delete
  refine .bind ?_
  refine claim_within claimed ?_
  intro d₁ t₁ _ claimed
  refine .bind ?_
  refine .attempt rfl ?_
  rintro d₂ inv rely r ws ⟨accountWorkspaceID, provider⟩ ok run same
  obtain rfl : ws = [] := run.2
  rw [List.append_nil]
  refine .bind ?_
  refine .attempt rfl ?_
  intro d₃ inv rely r' ws a ok run same
  obtain rfl : ws = [] := run
  rw [List.append_nil]
  refine .bind ?_
  refine .attempt rfl ?_
  intro d₄ inv rely r'' ws a ok run same
  rcases run with ⟨i, found, finds, rfl, rfl⟩ | ⟨rfl, rfl⟩
  · refine record_within (.found claimed finds rfl ⟨i, found, finds, .inl rfl⟩ nofun rfl rfl rfl)
  · cases same

theorem gone_of_missing {ws : List Write} {text account : String} (known : Known d i w)
    (id_ : PgUuid.parse account = some i) (scope : PgUuid.parse text = some w) (claimed : Claimed text ws)
    (missing : Op.Missing (server.view ws d) account text) : d.accounts i = none := by
  cases at_ : d.accounts i with
  | none => rfl
  | some row =>
    refine absurd ⟨i, row, id_, ?_, ?_⟩ missing
    · rw [scope, known.workspace row at_]
    · rw [(view_claims claimed).1]
      exact at_

-- A status that is recorded for an account of the workspace which may be gone by now.
theorem Ready.changing {v : Write} {account : String} {more : Set Lock} {f : AccountRow → AccountRow}
    {s : AccountStatus} {payload : JsFields} {ws : List Write} (known : Known d i w) (id_ : PgUuid.parse account = some i)
    (scope : PgUuid.parse c.workspaceID = some w) (claimed : Claimed c.workspaceID t.writes)
    (run : (∃ row, Op.Finds (server.view t.writes d) account c.workspaceID i row) ∧ .account i ∈ more ∧ ws = [v] ∨
      Op.Missing (server.view t.writes d) account c.workspaceID ∧ ws = [])
    (target : v.target = some i) (row : v.row = Option.map f)
    (same : ∀ row, (f row).workspaceID = row.workspaceID ∧ (f row).status = s)
    (said : payload.lookup "status" = some (.str s.text)) :
    Ready c.workspaceID d ⟨t.held ∪ more, t.writes ++ ws⟩
      (event headers c.workspaceID .cloudAccountStatusChanged account payload) := by
  rcases run with ⟨⟨found, finds⟩, held, rfl⟩ | ⟨missing, rfl⟩
  · refine .found claimed finds target held ?_ ?_ rfl rfl
    · rw [row]
      rintro row' ⟨⟩
      exact (same found).1
    · rw [row, apply_status said]
      exact congrArg some (same found).2
  · refine .missed (i := i) ?_ known.heard (gone_of_missing known id_ scope claimed missing) rfl id_ rfl
    rwa [List.append_nil]

theorem markFailed_keeps {id reason text : String} (known : Known d i w) (id_ : PgUuid.parse id = some i)
    (scope : PgUuid.parse c.workspaceID = some w) :
    trail.Leads c (fun _ tx _ => tx = none) d none (markFailed headers c.workspaceID id reason text) := by
  have closed : ∀ {p : Prog Ret Unit}, p.All quiet → ∀ d, trail.Leads c (fun _ tx _ => tx = none) d none p :=
    fun all d => Service.Pact.leads_closed all fun _ _ => rfl
  refine Service.Pact.leads_opens rfl ?_ ?_
  · intro d₁ inv rely r ok
    obtain ⟨now, rfl⟩ := Option.isSome_iff_exists.mp ok
    refine Service.Pact.leads_statement rfl ?_ ?_
    · intro d₂ inv rely' r ws ok run
      have ready : Ready c.workspaceID d₂ ⟨∅ ∪ Op.locks (.failAccount id c.workspaceID now) d₂, [] ++ ws⟩
          (event headers c.workspaceID .cloudAccountStatusChanged id
            [("status", .str AccountStatus.failed.text), (reason, .str text), ("provider", .str "aws")]) := by
        refine .changing (v := .failed i now) (t := ⟨∅, []⟩) ((rely.trans rely').known _ _ known) id_ scope nofun ?_ rfl
          rfl (fun _ => ⟨rfl, rfl⟩) rfl
        rcases run with ⟨i', row, finds, rfl⟩ | missing
        · obtain rfl : i' = i := Option.some.inj (finds.1.symm.trans id_)
          exact .inl ⟨⟨row, finds⟩, ⟨i', row, finds, rfl⟩, rfl⟩
        · exact .inr missing
      refine Service.Pact.leads_statement rfl ?_ ?_
      · intro d₃ inv rely'' r ws' ok run'
        obtain rfl : ws' = [.audit _] := run'
        refine Service.Pact.leads_commits rfl ?_ ?_
        · exact fun d₄ inv rely₃ => ((ready.later rely'').recorded.later rely₃).fits inv
        · intro d r
          refine closed ?_ d
          exact ⟨nofun, fun _ => trivial⟩
      · intro d r
        refine closed ?_ d
        exact ⟨nofun, fun _ => ⟨nofun, fun _ => trivial⟩⟩
    · intro d r
      refine closed ?_ d
      exact ⟨nofun, fun _ => ⟨nofun, fun _ => ⟨nofun, fun _ => trivial⟩⟩⟩
  · intro d₁ r no
    cases r with
    | none => rfl
    | some now => exact absurd rfl no

theorem failing_keeps {id reason text : String} {response : Response} (known : Known d i w)
    (id_ : PgUuid.parse id = some i) (scope : PgUuid.parse c.workspaceID = some w) :
    trail.Apart c (fun _ _ => True) d
      (failing headers c.workspaceID id reason text response : Handling β) := by
  constructor
  unfold failing
  rw [ExceptT.run_bind, ExceptT.run_lift, map_eq_pure_bind, bind_assoc, Service.Pact.leads_bind]
  exact (markFailed_keeps known id_ scope).mono fun d tx a closed => ⟨closed, nofun⟩

theorem verified_keeps {result : AWSVerificationResult} {id encrypted : String} {f g k : Bool → Except Response Unit}
    {rest : Int → Unit → Handling β} (known : Known d i w) (id_ : PgUuid.parse id = some i)
    (scope : PgUuid.parse c.workspaceID = some w) (claimed : Claimed c.workspaceID t.writes) :
    KeepsWithin c d t (Async.ask Op.clock >>= fun now =>
      Async.attempt (Op.verifyAccount id c.workspaceID encrypted now) f >>= fun _ =>
      Async.attempt (Op.emitAudit (event headers c.workspaceID .cloudAccountStatusChanged id (verifyPayload result))) g
        >>= fun _ => Async.attempt Op.commit k >>= rest now) := by
  refine .bind ?_
  refine .aside rfl ?_
  intro d₁ inv rely _ now run drawn
  refine .bind ?_
  refine .attempt rfl ?_
  intro d₂ inv rely' r ws a ok run same
  have known := (rely.trans rely').known _ _ known
  have said : (verifyPayload result).lookup "status" = some (.str AccountStatus.active.text) := rfl
  refine record_within (.changing (v := .verified i encrypted now) known id_ scope claimed ?_ rfl rfl
    (fun _ => ⟨rfl, rfl⟩) said)
  rcases run with ⟨i', row, finds, rfl⟩ | missing
  · obtain rfl : i' = i := Option.some.inj (finds.1.symm.trans id_)
    exact .inl ⟨⟨row, finds⟩, ⟨i', row, finds, rfl⟩, rfl⟩
  · exact .inr missing

theorem activate_keeps {result : AWSVerificationResult} {id encrypted : String} (known : Known d i w)
    (id_ : PgUuid.parse id = some i) (scope : PgUuid.parse c.workspaceID = some w)
    (claimed : Claimed c.workspaceID t.writes) :
    KeepsWithin c d t (activate headers c.workspaceID id result encrypted now) := by
  unfold activate
  split
  · refine .bind ?_
    refine claim_within claimed ?_
    intro d₁ t₁ stays claimed
    exact verified_keeps (stays.known _ _ known) id_ scope claimed
  · exact verified_keeps known id_ scope claimed

end Bodies

section Quiet

theorem quiet_of_ordinary {o : Op} (own : o.ordinary = true) : quiet o := by
  cases o with
  | beginTx => cases own
  | _ => exact nofun

theorem activate_quiet {workspaceID id encrypted : String} {result : AWSVerificationResult} {now : Int} :
    (activate headers workspaceID id result encrypted now).All quiet := by
  have claim : (claimIdempotencyKey headers workspaceID "cloud_account.verify").All quiet :=
    claim_ordinary.mono fun _ => quiet_of_ordinary
  unfold activate
  split
  · refine Async.all_bind claim fun _ => Async.all_bind (Async.all_ask nofun) fun now => ?_
    refine Async.all_bind (Async.all_attempt nofun) fun _ => Async.all_bind (Async.all_attempt nofun) fun _ => ?_
    exact Async.all_bind (Async.all_attempt nofun) fun _ => Async.all_pure
  · refine Async.all_bind (Async.all_ask nofun) fun now => Async.all_bind (Async.all_attempt nofun) fun _ => ?_
    refine Async.all_bind (Async.all_attempt nofun) fun _ => ?_
    exact Async.all_bind (Async.all_attempt nofun) fun _ => Async.all_pure

end Quiet

section Handlers

theorem apart_require {holds : Bool} {refusal : Response} {Q : Tables → Unit → Prop} (h : Q d ()) :
    trail.Apart c Q d (require holds refusal) := by
  unfold require
  split
  · exact .pure h
  · exact .throw

theorem inTransaction_keeps {body : Int → Handling Response} (all : ∀ now, (body now).All quiet)
    (h : ∀ d', Stays ∅ d d' → ∀ now, KeepsWithin c d' ⟨∅, []⟩ (body now)) :
    trail.Apart c (fun _ _ => True) d (inTransaction message body) := by
  refine .transaction rfl ?_ all (fun d' r now inv rely _ => h d' rely now) ?_
  · intro r
    cases r with
    | none => exact ⟨nofun, nofun⟩
    | some now => exact ⟨fun _ => ⟨now, rfl⟩, fun _ => rfl⟩
  · exact fun d tx => Service.Pact.leads_rollsBack rfl fun d' r => rfl

theorem requireWorkspaceID_apart {workspaceID : String} {Q : Tables → Unit → Prop} (h : Q d ()) :
    trail.Apart c Q d (requireWorkspaceID workspaceID) := by
  unfold requireWorkspaceID
  refine .bind ?_
  refine apart_require ?_
  exact apart_require h

theorem requireAccount_apart {workspaceID id : String} {Q : Tables → Unit → Prop} (h : Q d ()) :
    trail.Apart c Q d (requireAccount workspaceID id) := by
  unfold requireAccount
  refine .bind ?_
  refine requireWorkspaceID_apart ?_
  exact apart_require h

theorem handleCreate_keeps {body : Option CreateRequest} (call : c = .create headers body) :
    Keeps c (handleCreate headers body) := by
  intro d
  unfold handleCreate
  refine .bind ?_
  refine .ofExcept fun req asked => ?_
  have scope : req.workspaceID = c.workspaceID := by
    rw [call]
    cases body with
    | none => cases asked
    | some body =>
      obtain rfl := Except.ok.inj asked
      rfl
  refine .bind ?_
  refine apart_require ?_
  refine .bind ?_
  refine apart_require ?_
  refine .bind ?_
  refine apart_require ?_
  refine .bind ?_
  refine apart_require ?_
  refine .bind ?_
  refine .ofExcept fun key _ => ?_
  refine .bind ?_
  refine .attempt rfl fun d' inv rely r nonce run _ => ?_
  refine .bind ?_
  refine .ofExcept fun encrypted _ => ?_
  refine .bind ?_
  refine .ofExcept fun externalIDHash _ => ?_
  refine inTransaction_keeps (fun now => insert_ordinary.mono fun _ => quiet_of_ordinary) fun d'' _ now => ?_
  exact insert_keeps scope nofun

theorem handleList_keeps {workspaceID : String} : Keeps c (handleList workspaceID) := by
  intro d
  unfold handleList
  refine .bind ?_
  refine requireWorkspaceID_apart ?_
  refine .bind ?_
  refine .attempt rfl fun d' inv rely r rows run _ => ?_
  exact .pure trivial

theorem handleGet_keeps {workspaceID id : String} : Keeps c (handleGet workspaceID id) := by
  intro d
  unfold handleGet
  refine .bind ?_
  refine requireAccount_apart ?_
  refine .bind ?_
  refine .attempt rfl fun d' inv rely r found run _ => ?_
  refine .bind ?_
  refine .ofExcept fun key _ => ?_
  refine .bind ?_
  refine .ofExcept fun metadata _ => ?_
  exact .pure trivial

theorem handleUpdateStatus_keeps {id : String} {body : Option String} :
    Keeps c (handleUpdateStatus headers c.workspaceID id body) := by
  intro d
  unfold handleUpdateStatus
  refine .bind ?_
  refine requireAccount_apart ?_
  refine .bind ?_
  refine .ofExcept fun text _ => ?_
  refine .bind ?_
  refine .ofExcept fun status _ => ?_
  exact inTransaction_keeps (fun now => update_ordinary.mono fun _ => quiet_of_ordinary)
    fun d' _ now => update_keeps nofun

theorem handleDelete_keeps {id : String} : Keeps c (handleDelete headers c.workspaceID id) := by
  intro d
  unfold handleDelete
  refine .bind ?_
  refine requireAccount_apart ?_
  exact inTransaction_keeps (fun now => delete_ordinary.mono fun _ => quiet_of_ordinary)
    fun d' _ now => delete_keeps nofun

theorem assume_keeps {id externalID key : String} {metadata : Option Map} {i w : PgUuid} (known : Known d i w)
    (id_ : PgUuid.parse id = some i) (scope : PgUuid.parse c.workspaceID = some w) :
    trail.Apart c (fun _ _ => True) d (assume headers c.workspaceID id externalID key metadata) := by
  unfold assume
  split
  · exact failing_keeps known id_ scope
  · refine .bind ?_
    refine .attempt rfl fun d₁ inv rely r assumed run _ => ?_
    have known := rely.known _ _ known
    cases assumed with
    | error err => exact failing_keeps known id_ scope
    | ok result =>
      cases metadata with
      | none => exact .throw
      | some metadata =>
        refine .bind ?_
        refine .attempt rfl fun d₂ inv rely₂ r now run _ => ?_
        refine .bind ?_
        refine .attempt rfl fun d₃ inv rely₃ r nonce run _ => ?_
        refine .bind ?_
        refine .ofExcept fun encrypted _ => ?_
        refine inTransaction_keeps (fun now => activate_quiet) fun d₄ rely₄ now => ?_
        exact activate_keeps (((rely₂.trans rely₃).trans rely₄).known _ _ known) id_ scope nofun

theorem handleVerify_keeps {id : String} {body : Option String} :
    Keeps c (handleVerify headers c.workspaceID id body) := by
  intro d
  unfold handleVerify
  refine .bind ?_
  refine requireAccount_apart ?_
  refine .bind ?_
  refine .ofExcept fun externalID _ => ?_
  refine .bind ?_
  refine apart_require ?_
  refine .bind ?_
  refine .attempt rfl ?_
  rintro d₁ inv rely r ⟨j, row⟩ run same
  obtain rfl : r = some (some (j, row)) := by
    rcases r with _ | _ | found
    · cases same
    · cases same
    · rw [Except.ok.inj same]
  rcases run.1 _ rfl with ⟨i, row', finds, seen⟩ | ⟨-, none_⟩
  · have known : Known d₁ i row'.workspaceID := by
      refine ⟨Consistent.heard inv finds.2.2, fun row found => ?_⟩
      rw [Option.some.inj (finds.2.2.symm.trans found)]
    refine .bind ?_
    refine .ofExcept fun _ _ => ?_
    refine .bind ?_
    refine .ofExcept fun key _ => ?_
    split
    · refine .bind ?_
      refine .ofExcept fun metadata _ => ?_
      exact assume_keeps known finds.1 finds.2.1
    · exact failing_keeps known finds.1 finds.2.1
  · cases none_

theorem handler_keeps (c : Call) : Keeps c (handler c) := by
  cases c with
  | create headers body => exact handleCreate_keeps rfl
  | list workspaceID => exact handleList_keeps
  | get workspaceID id => exact handleGet_keeps
  | updateStatus headers workspaceID id body =>
    exact handleUpdateStatus_keeps (c := .updateStatus headers workspaceID id body)
  | verify headers workspaceID id body => exact handleVerify_keeps (c := .verify headers workspaceID id body)
  | delete headers workspaceID id => exact handleDelete_keeps (c := .delete headers workspaceID id)

theorem program_follows (c : Call) (d : Tables) : trail.Follows c d none (server.program c) := by
  change trail.Leads c _ d none (answer <$> (handler c).run)
  rw [map_eq_pure_bind, Service.Pact.leads_bind]
  exact (handler_keeps c d).leads.mono fun _ _ _ _ => trivial

end Handlers

end Programs

section Runs

variable [CloudPlatform] {d : Tables} {s s' : System Call Ret Lock Tables Write Response}

-- In whatever order requests, replies and lost connections come, the accounts are what the events of the trail say.
theorem trail_replayed (consistent : Consistent d) (reachable : server.Reachable d s) (i : PgUuid) :
    (s.committed.accounts i).map (·.status) = replay i s.committed.audits :=
  (Service.Pact.holds_reachable program_follows consistent reachable).inv i

-- The client that is served changes nothing but what is its workspace's.
theorem step_isolated {i : Nat} {c c' : Client Call Ret Lock Write Response} (consistent : Consistent d)
    (reachable : server.Reachable d s) (step : server.Step s s') (client : s.clients[i]? = some c)
    (after : s'.clients[i]? = some c') (served : c'.seen ≠ c.seen) :
    Isolated c.call.workspaceID s.committed s'.committed := by
  have holds := Service.Pact.holds_reachable program_follows consistent reachable
  obtain ⟨o, k, r, tx, next, move, -⟩ := step.moved client after served
  exact (holds.request (List.mem_of_getElem? client) next move).1.guar

end Runs

section Example

def disconnection : AuditEvent :=
  event browser workspaceId .cloudAccountStatusChanged accountId [("status", .str AccountStatus.disconnected.text)]

def updated : Response := .json 200 [("id", .str accountId), ("status", .str AccountStatus.disconnected.text)]

theorem update_disconnects (now : Int) : update browser workspaceId accountId .disconnected now =
    Async.attempt (Op.claimKey workspaceId "key-1" "cloud_account.update_status") claimed >>= fun _ =>
      Async.attempt (Op.updateStatus accountId workspaceId .disconnected now) (affected updateFailed) >>= fun _ =>
        record updateFailed disconnection updated := by
  have trimmed : TrimSpace browser.idempotencyKey = "key-1" := by decide +kernel
  have valid : validIdempotencyKey "key-1" = true := by decide +kernel
  unfold update claimIdempotencyKey
  simp only [trimmed, require, valid, if_true, pure_bind]
  rfl

def disconnecting : Seen :=
  [⟨.beginTx, some 5⟩, ⟨.claimKey workspaceId "key-1" "cloud_account.update_status", some true⟩,
    ⟨.updateStatus accountId workspaceId .disconnected 5, some 1⟩, ⟨.emitAudit disconnection, true⟩]

theorem disconnects : letI := plainPlatform
    ∃ k, Transcript (server.program (.updateStatus browser workspaceId accountId (some "disconnected"))) disconnecting
      (.op .commit k) := by
  let _ := plainPlatform
  obtain ⟨given, workspace, account⟩ := example_valid
  change ∃ k, Transcript (answer <$> (handleUpdateStatus browser workspaceId accountId (some "disconnected")).run) _ _
  unfold handleUpdateStatus
  rw [requireAccount_valid given workspace account]
  simp only [pure_bind, decoded, orElse, Async.ofExcept_ok, validStatus, AccountStatus.parse]
  rw [funext update_disconnects]
  exact ⟨_, .reply (.reply (.reply (.reply (.start _))))⟩

theorem bothWaiting_consistent : Consistent bothWaiting := by
  intro i
  have about : PgUuid.parse accountId = some (PgUuid.repeated 10) := PgUuid.parse_text _
  have beside : PgUuid.parse neighbourId = some (PgUuid.repeated 11) := PgUuid.parse_text _
  have apart : PgUuid.repeated 11 ≠ PgUuid.repeated 10 := by decide
  by_cases same : i = PgUuid.repeated 10
  · subst same
    simp [bothWaiting, replay, AuditEvent.about, about, beside, apart, AuditEvent.apply, waiting]
  · by_cases near : i = PgUuid.repeated 11
    · subst near
      simp [bothWaiting, replay, AuditEvent.about, about, beside, apart, apart.symm, AuditEvent.apply, neighbour]
    · simp [bothWaiting, replay, AuditEvent.about, about, beside, same, near, Ne.symm same, Ne.symm near]

theorem disconnecting_moves : letI := plainPlatform
    ∃ t, server.Moves bothWaiting none disconnecting bothWaiting (some t) ∧
      ((server.view t.writes bothWaiting).accounts (PgUuid.repeated 10)).map (·.status) = some .disconnected := by
  let _ := plainPlatform
  have workspace : PgUuid.parse workspaceId = some (PgUuid.repeated 6) := PgUuid.parse_text _
  refine ⟨_, .next (.opens rfl rfl) (.next (.statement rfl rfl ⟨_, workspace, .inl ⟨rfl, rfl, rfl⟩⟩)
    (.next (.statement rfl rfl (.inl ⟨_, _, finds_waiting, rfl, rfl⟩)) (.next (.statement rfl rfl rfl)
      (.done _ _)))), ?_⟩
  simp [Service.view, server, Write.apply, Tables.change, bothWaiting, AccountRow.setStatus]

theorem disconnects_step : letI := plainPlatform
    ∃ (s s' : System Call Ret Lock Tables Write Response) (c c' : Client Call Ret Lock Write Response),
      server.Reachable bothWaiting s ∧ server.Step s s' ∧ s.clients[0]? = some c ∧ s'.clients[0]? = some c' ∧
        c'.seen = c.seen ++ [⟨.commit, true⟩] ∧
          (s'.committed.accounts (PgUuid.repeated 10)).map (·.status) = some .disconnected ∧
            s.committed.accounts (PgUuid.repeated 11) = some neighbour := by
  let _ := plainPlatform
  obtain ⟨k, starts⟩ := disconnects
  obtain ⟨t, moves, row⟩ := disconnecting_moves
  have reachable := Service.reachable_alone starts moves
  have commits : server.Move bothWaiting (some t) Op.commit true (server.view t.writes bothWaiting) none :=
    .commits rfl
  refine ⟨_, _, _, _, reachable, .request _ 0 _ .commit k true _ none rfl rfl commits ?_, rfl, rfl, rfl, row, rfl⟩
  exact fun _ _ _ _ => Set.empty_disjoint _

theorem trail_replayed_disconnected : letI := plainPlatform
    ∃ s : System Call Ret Lock Tables Write Response, server.Reachable bothWaiting s ∧
      replay (PgUuid.repeated 10) s.committed.audits = some .disconnected := by
  let _ := plainPlatform
  obtain ⟨s, s', -, -, reachable, step, -, -, -, row, -⟩ := disconnects_step
  have after := reachable.tail step
  exact ⟨s', after, (trail_replayed bothWaiting_consistent after _).symm.trans row⟩

-- The account of the other workspace is as it was.
theorem step_isolated_disconnected : letI := plainPlatform
    ∃ (s s' : System Call Ret Lock Tables Write Response) (c : Client Call Ret Lock Write Response),
      c ∈ s.clients ∧ (s'.committed.accounts (PgUuid.repeated 10)).map (·.status) = some .disconnected ∧
        s.committed.accounts (PgUuid.repeated 11) = some neighbour ∧
          Isolated c.call.workspaceID s.committed s'.committed := by
  let _ := plainPlatform
  obtain ⟨s, s', c, c', reachable, step, client, after, seen, row, beside⟩ := disconnects_step
  exact ⟨s, s', c, List.mem_of_getElem? client, row, beside,
    step_isolated bothWaiting_consistent reachable step client after (by simp [seen])⟩

end Example

end Provisr.Cloud.Accounts
