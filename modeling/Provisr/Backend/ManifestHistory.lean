import Provisr.Backend.ManifestVersions
import Mathlib.Data.List.Range

namespace Provisr.Backend.Manifest

open Provisr.Foundation
open Provisr.Orchestrator (Platform)
open Provisr.Audit (AuditRow)

section Numbers

theorem foldr_max_concat (ns : List Nat) (n : Nat) : (ns ++ [n]).foldr max 0 = max (ns.foldr max 0) n := by
  induction ns with
  | nil => simp
  | cons m ns ih => rw [List.cons_append, List.foldr_cons, List.foldr_cons, ih, max_assoc]

theorem foldr_max_range' (k : Nat) : (List.range' 1 k).foldr max 0 = k := by
  induction k with
  | zero => rfl
  | succ k ih =>
    rw [List.range'_1_concat, foldr_max_concat, ih]
    omega

theorem next_of_range' {seen given : List Nat} {k n : Nat} (gapless : given = List.range' 1 k) (before : seen <+: given)
    (drawn : n = seen.foldr max 0 + 1) (fresh : n ∉ given) : given ++ [n] = List.range' 1 (k + 1) := by
  subst gapless
  have count : seen = List.range' 1 seen.length := by
    have taken := List.prefix_iff_eq_take.mp before
    have short := before.length_le
    rw [List.length_range'] at short
    rwa [List.take_range'_of_length_ge short] at taken
  rw [count, foldr_max_range'] at drawn
  have short := before.length_le
  rw [List.length_range'] at short
  have beyond : ¬ seen.length + 1 < 1 + k := fun inside =>
    fresh (List.mem_range'_1.mpr ⟨by omega, by omega⟩)
  have last : n = 1 + k := by omega
  rw [last, List.range'_1_concat]

end Numbers

section Rows

variable {rows rows' : List Row} {row a b : Row} {runId : String}

theorem versions_concat : versions (rows ++ [row]) runId =
    versions rows runId ++ if row.runId = runId then [row.version] else [] := by
  unfold versions
  rw [List.filter_append, List.map_append]
  by_cases same : row.runId = runId
  · rw [if_pos same, List.filter_cons_of_pos (by simpa using same)]
    rfl
  · rw [if_neg same, List.filter_cons_of_neg (by simpa using same)]
    rfl

theorem versions_grown (h : rows <+: rows') : versions rows runId <+: versions rows' runId :=
  (h.filter _).map _

theorem entries_version (row : Row) : .version row.runId row.version ∈ entries row := List.mem_cons_self

theorem entries_key {key : String} (h : row.idempotencyKey = some key) : .key row.runId key ∈ entries row := by
  simp [entries, h]

def Unique (rows : List Row) : Prop := ∀ e, (withEntry e rows).length ≤ 1

theorem Unique.same (h : Unique rows) (ha : a ∈ rows) (hb : b ∈ rows) {e : Entry} (hea : e ∈ entries a)
    (heb : e ∈ entries b) : a = b := by
  have both : ∀ {r}, r ∈ rows → e ∈ entries r → r ∈ withEntry e rows :=
    fun hr he => List.mem_filter.mpr ⟨hr, decide_eq_true he⟩
  have first := both ha hea
  have second := both hb heb
  match hl : withEntry e rows, h e with
  | [], _ =>
    rw [hl] at first
    cases first
  | [r], _ =>
    rw [hl] at first second
    rw [List.mem_singleton.mp first, List.mem_singleton.mp second]

theorem Unique.keyed (h : Unique rows) {runID key : String} (ha : a ∈ rows) (hb : b ∈ rows) (keyed : Keyed runID key a)
    (keyed' : Keyed runID key b) : a = b := by
  have run : a.runId = b.runId := Option.some.inj (keyed.run.symm.trans keyed'.run)
  refine h.same ha hb (entries_key keyed.key) ?_
  rw [run]
  exact entries_key keyed'.key

theorem Unique.fresh (h : Unique (rows ++ [row])) : row.version ∉ versions rows row.runId := by
  intro mem
  obtain ⟨m, hm, version⟩ := List.mem_map.mp mem
  obtain ⟨hm, run⟩ := List.mem_filter.mp hm
  have entry : Entry.version row.runId row.version ∈ entries m := by
    rw [← version, ← beq_iff_eq.mp run]
    exact entries_version m
  have two := h (.version row.runId row.version)
  rw [withEntry_append, List.length_append] at two
  have positive : ∀ {r : Row} {rs : List Row}, r ∈ rs → .version row.runId row.version ∈ entries r →
      0 < (withEntry (.version row.runId row.version) rs).length := fun hr he =>
    List.length_pos_of_mem (List.mem_filter.mpr ⟨hr, decide_eq_true he⟩)
  have first := positive hm entry
  have second := positive (List.mem_singleton_self row) (entries_version row)
  omega

end Rows

variable [Platform] {faults : Bool} {d₀ : Db} {n : Nat} {s s' : ManifestDatabase}

structure CommitOf (faults : Bool) (s s' : ManifestDatabase) (i : Nat) (t : Session Call Ret Key Write Outcome)
    (o : Outcome) : Prop where
  session : s.sessions[i]? = some t
  done : t.rest = some (.pure o)
  commits : o.commits = true
  state : s' = ⟨(engine faults).view t.writes s.committed, s.drawn, s.sessions.set i (Engine.ended t)⟩

section Steps

variable {i : Nat} {t : Session Call Ret Key Write Outcome} {o : Outcome}

theorem wrote_of_done (reachable : (engine faults).Reachable d₀ n s) (session : s.sessions[i]? = some t)
    (done : t.rest = some (.pure o)) : Wrote t.call o t.writes s.committed :=
  Engine.Growing.commit program_leads reachable session done

theorem step_commit (step : (engine faults).Step s s') :
    s'.committed = s.committed ∨ ∃ i t o, CommitOf faults s s' i t o := by
  cases step with
  | start | statement | rollback => exact Or.inl rfl
  | commit i t o session done ok => exact Or.inr ⟨i, t, o, session, done, ok, rfl⟩

theorem view_foreign {ws : List Write} (foreign : ∀ w ∈ ws, Foreign w) (d : Db) :
    ((engine faults).view ws d).manifests = d.manifests := by
  induction ws generalizing d with
  | nil => rfl
  | cons w ws ih =>
    have own := foreign w List.mem_cons_self
    refine (ih (fun v hv => foreign v (List.mem_cons_of_mem w hv)) (apply w d)).trans ?_
    cases w with
    | role | workspace | run | audit => rfl
    | manifest row => exact own.elim

theorem CommitOf.cases (h : CommitOf faults s s' i t o) (reachable : (engine faults).Reachable d₀ n s) :
    (∃ row, Creates t.call o row ∧ Numbered row s.committed ∧
        s'.committed.manifests = s.committed.manifests ++ [row]) ∨
      (∃ deeds, t.call = .other deeds) ∧ s'.committed.manifests = s.committed.manifests := by
  obtain ⟨session, done, commits, rfl⟩ := h
  cases (wrote_of_done reachable session done).commit commits with
  | version row creates numbered writes store => exact Or.inl ⟨row, creates, numbered, by rw [writes]; rfl⟩
  | draft body tag row event call creates numbered writes announces =>
    exact Or.inl ⟨row, creates, numbered, by rw [writes]; rfl⟩
  | other deeds call foreign => exact Or.inr ⟨⟨deeds, call⟩, view_foreign foreign s.committed⟩

end Steps

section Runs

theorem inv_of_empty (empty : d₀.manifests = []) (n : Nat) : (locking faults).Inv d₀ n := by
  intro x
  cases x with
  | membership | workspace | run | advisory => trivial
  | entry e =>
    change (withEntry e d₀.manifests).length ≤ 1
    rw [empty]
    exact Nat.zero_le 1

theorem unique_reachable (empty : d₀.manifests = []) (reachable : (engine faults).Reachable d₀ n s) :
    Unique s.committed.manifests :=
  fun e => ((locking faults).holds_reachable (inv_of_empty empty n) reachable).inv (.entry e)

theorem gapless_reachable (empty : d₀.manifests = []) (reachable : (engine faults).Reachable d₀ n s) (runId : String) :
    ∃ k, versions s.committed.manifests runId = List.range' 1 k := by
  induction reachable with
  | refl => exact ⟨0, by rw [empty]; rfl⟩
  | @tail b c reached step ih =>
    obtain ⟨k, given⟩ := ih
    have unique := unique_reachable empty (reached.tail step)
    rcases step_commit step with same | ⟨i, t, o, commit⟩
    · exact ⟨k, by rw [same, given]⟩
    · rcases commit.cases reached with ⟨row, -, ⟨seen, before, version⟩, added⟩ | ⟨-, same⟩
      · rw [added] at unique ⊢
        rw [versions_concat]
        by_cases own : row.runId = runId
        · subst own
          exact ⟨k + 1, by rw [if_pos rfl]; exact next_of_range' given (versions_grown before) version unique.fresh⟩
        · exact ⟨k, by rw [if_neg own, List.append_nil, given]⟩
      · exact ⟨k, by rw [same, given]⟩

theorem manifest_version_history (empty : d₀.manifests = []) (reachable : (engine faults).Reachable d₀ n s) :
    (∀ runId, ∃ k, versions s.committed.manifests runId = List.range' 1 k) ∧
      (∀ s', (engine faults).Steps s s' → s.committed.manifests <+: s'.committed.manifests) ∧
      (∀ a ∈ s.committed.manifests, ∀ b ∈ s.committed.manifests, ∀ runID key, Keyed runID key a → Keyed runID key b →
        a = b) ∧
      (∀ s', (engine faults).Step s s' → s'.committed.manifests = s.committed.manifests ∨
        ∃ (i : Nat) (t : Session Call Ret Key Write Outcome) (o : Outcome), CommitOf faults s s' i t o) ∧
      (∀ s' i t o, CommitOf faults s s' i t o →
        (∃ row, Creates t.call o row ∧ s'.committed.manifests = s.committed.manifests ++ [row]) ∨
          (∃ deeds, t.call = .other deeds) ∧ s'.committed.manifests = s.committed.manifests) ∧
      ∀ (i : Nat) (t : Session Call Ret Key Write Outcome) (o : Outcome), s.sessions[i]? = some t →
        t.rest = some (.pure o) → o.reports = true → ∃ row ∈ s.committed.manifests, Reports t.call o row := by
  refine ⟨gapless_reachable empty reachable, fun s' steps => (growing faults).steps steps, ?_, ?_, ?_, ?_⟩
  · intro a ha b hb runID key keyed keyed'
    exact (unique_reachable empty reachable).keyed ha hb keyed keyed'
  · intro s' step
    rcases step_commit step with same | commit
    · exact Or.inl (by rw [same])
    · exact Or.inr commit
  · intro s' i t o commit
    rcases commit.cases reachable with ⟨row, creates, -, added⟩ | same
    · exact Or.inl ⟨row, creates, added⟩
    · exact Or.inr same
  · intro i t o session done reports
    exact (wrote_of_done reachable session done).report reports

end Runs

end Provisr.Backend.Manifest
