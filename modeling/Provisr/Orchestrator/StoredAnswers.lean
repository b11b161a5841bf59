import Provisr.Orchestrator.ServicePrograms

namespace Provisr.Orchestrator

open Provisr.Foundation RunsService

section StoredAnswers

def JsonbOrdered (q : ClarificationQuestion) : Prop :=
  (q.fields.map AnswerField.name).Pairwise fun a b => Json.jsonbRank a < Json.jsonbRank b

instance (q : ClarificationQuestion) : Decidable (JsonbOrdered q) := inferInstanceAs (Decidable (List.Pairwise _ _))

theorem normalItems_texts (ss : List String) :
    Json.NormalItems Json.jsonbRank (ss.map fun s => (Json.str s : JsJson)) := by
  induction ss with
  | nil => trivial
  | cons s ss ih => exact ⟨trivial, ih⟩

theorem answerSchema_normal {f : AnswerField} {given : Option JsJson} {v : JsJson}
    (h : answerSchema f given = .ok v) : Json.Normal Json.jsonbRank v := by
  unfold answerSchema at h
  cases hf : f.type with
  | number | boolean | string =>
    rw [hf] at h
    obtain ⟨a, -, rfl⟩ := Zod.map_ok_iff.mp h
    trivial
  | strings =>
    rw [hf] at h
    obtain ⟨ss, -, rfl⟩ := Zod.map_ok_iff.mp h
    exact normalItems_texts ss

theorem answerShape_normal {given out : JsFields} {fs : List AnswerField}
    (h : answerShape given fs = .ok out) : Json.NormalFields Json.jsonbRank out := by
  induction fs generalizing out with
  | nil =>
    cases h
    trivial
  | cons f fs ih =>
    unfold answerShape at h
    obtain ⟨p, together, rfl⟩ := Zod.checkedMap_ok_iff.mp h
    obtain ⟨head, rest⟩ := Zod.both_ok together
    exact ⟨answerSchema_normal head, ih rest⟩

theorem validateAnswers_normal {q : ClarificationQuestion} {given : Option JsJson} {out : JsFields}
    (h : validateAnswers q given = .ok out) : Json.NormalFields Json.jsonbRank out := by
  obtain ⟨fields, -, -, h⟩ := Zod.strict_ok (Zod.parsed_ok_iff.mp h)
  exact answerShape_normal h

theorem storedFields_of_normal {fs : JsFields} (h : Json.NormalFields Json.jsonbRank fs) :
    storedFields fs = Json.sortFields Json.jsonbRank fs := by
  unfold storedFields
  rw [Json.normalizeFields_of_normal h]

theorem storedFields_idempotent (fs : JsFields) : storedFields (storedFields fs) = storedFields fs := by
  have h := Json.jsonb_idempotent (Json.obj fs)
  unfold Json.jsonb at h
  simp only [Json.normalize, Json.obj.injEq] at h
  exact h

theorem jsonbOrdered_iff {q : ClarificationQuestion} {fs : JsFields}
    (keys : fs.map Prod.fst = q.fields.map AnswerField.name) :
    Json.Ordered Json.jsonbRank fs ↔ JsonbOrdered q := by
  unfold Json.Ordered JsonbOrdered
  rw [← keys, List.pairwise_map]

theorem storedFields_validateAnswers {q : ClarificationQuestion} {given : Option JsJson} {out : JsFields}
    (h : validateAnswers q given = .ok out) : storedFields out = out ↔ JsonbOrdered q := by
  rw [storedFields_of_normal (validateAnswers_normal h),
    Json.sortFields_eq_self_iff Json.jsonbRank_injective, jsonbOrdered_iff (validateAnswers_keys h)]

structure Recorded (e : AnswerEntry) : Prop where
  accepted : ∃ given answers, validateAnswers e.question given = .ok answers ∧
    e.answers = storedFields answers

def SameAnswers (e : AnswerEntry) (given : Option JsJson) : Prop :=
  ∃ answers, validateAnswers e.question given = .ok answers ∧ storedFields answers = e.answers

theorem replay_ok_iff {e : AnswerEntry} {given : Option JsJson} {run : ProvisioningRun} :
    replay e given run = .ok run ↔ validateAnswers e.question given = .ok e.answers := by
  unfold replay
  cases validateAnswers e.question given with
  | error issues => simp
  | ok answers =>
    by_cases h : Json.stringify (Json.obj e.answers) = Json.stringify (Json.obj answers)
    · have heq : e.answers = answers := Json.obj.inj (Json.stringify_injective h)
      simp [heq]
    · have hne : answers ≠ e.answers := fun he => h (he ▸ rfl)
      simp [h, hne]

theorem replay_error_of_ne {e : AnswerEntry} {given : Option JsJson} {run : ProvisioningRun}
    (h : replay e given run ≠ .ok run) : replay e given run = .error usedForDifferentAnswers := by
  unfold replay at h ⊢
  split
  · rfl
  · rename_i heq
    rw [heq] at h
    simp only at h
    split
    · rfl
    · rename_i hs
      exact absurd (if_neg hs) h

-- A retry with the recorded answers is recognised just where the column kept the order of the fields.
theorem replay_same {e : AnswerEntry} {given : Option JsJson} {run : ProvisioningRun}
    (same : SameAnswers e given) : replay e given run = .ok run ↔ JsonbOrdered e.question := by
  obtain ⟨answers, valid, stored⟩ := same
  rw [replay_ok_iff, ← storedFields_validateAnswers valid, valid, stored, Except.ok.injEq, eq_comm]

theorem replay_different {e : AnswerEntry} {given : Option JsJson} {run : ProvisioningRun}
    (recorded : Recorded e) (different : ¬ SameAnswers e given) :
    replay e given run = .error usedForDifferentAnswers := by
  refine replay_error_of_ne fun h => different ?_
  obtain ⟨_, answers, -, he⟩ := recorded.accepted
  refine ⟨e.answers, replay_ok_iff.mp h, ?_⟩
  rw [he, storedFields_idempotent]

end StoredAnswers

section Entries

structure Keyed (r : ProvisioningRun) : Prop where
  recorded : ∀ e ∈ r.answersHistory, Recorded e
  once : ∀ key ≠ "", (r.answersHistory.filter fun e => e.idempotencyKey = key).length ≤ 1

theorem keyed_initial (env : TxEnv) (c : CreateRun) : Keyed (initialRun env c) :=
  ⟨by simp [initialRun], by simp [initialRun]⟩

theorem findEntry_none {r : ProvisioningRun} {key : String} (h : findEntry r key = none) :
    ∀ e ∈ r.answersHistory, e.idempotencyKey ≠ key := by
  intro e he
  simpa using List.find?_eq_none.mp h e he

theorem findEntry_of_keyed {r : ProvisioningRun} (keyed : Keyed r) {e : AnswerEntry}
    (he : e ∈ r.answersHistory) (hne : e.idempotencyKey ≠ "") :
    findEntry r e.idempotencyKey = some e := by
  cases hf : findEntry r e.idempotencyKey with
  | none => exact absurd rfl (findEntry_none hf e he)
  | some x =>
    have hx : x ∈ r.answersHistory := List.mem_of_find?_eq_some hf
    have hk : x.idempotencyKey = e.idempotencyKey := by simpa using List.find?_some hf
    have hlen := keyed.once e.idempotencyKey hne
    have mx : x ∈ r.answersHistory.filter fun f => f.idempotencyKey = e.idempotencyKey := by
      simp [hx, hk]
    have me : e ∈ r.answersHistory.filter fun f => f.idempotencyKey = e.idempotencyKey := by
      simp [he]
    obtain ⟨y, hy⟩ := List.length_eq_one_iff.mp (le_antisymm hlen (List.length_pos_of_mem me))
    rw [hy, List.mem_singleton] at mx me
    rw [mx, me]

theorem stored_of_recorded {e : AnswerEntry} (h : Recorded e) : e.stored = e := by
  obtain ⟨_, answers, -, he⟩ := h.accepted
  unfold AnswerEntry.stored
  rw [he, storedFields_idempotent, ← he]

variable [Platform] [ComponentRegistry] {known : HttpRequest → Reply HttpResponse → Prop}
  {r : ProvisioningRun} {now : Ambient} {actorId : String} {change : Change}

theorem Intent.answersHistory (intent : Intent known r now actorId change) (env : TxEnv) :
    (writtenRun env r change).answersHistory = r.answersHistory ∨
    ∃ question given answers key, validateAnswers question given = .ok answers ∧
      (∀ k, key = some k → k ≠ "" → findEntry r k = none) ∧
      (writtenRun env r change).answersHistory = (r.answersHistory ++
        [(⟨question, answers, now.dateNow, key.getD now.uuid⟩ : AnswerEntry)]).map AnswerEntry.stored := by
  cases intent with
  | answer _ answers key _ question given asked valid fresh h =>
    obtain ⟨q, _, -, hq, -, -, rfl⟩ := answerChange_ok h
    obtain rfl := Option.some.inj (asked.symm.trans hq)
    exact Or.inr ⟨question, given, answers, key, valid, fresh, rfl⟩
  | confirm _ _ _ _ h =>
    obtain ⟨-, -, -, rfl⟩ := confirmChange_ok h
    exact Or.inl rfl
  | suspend _ _ _ h =>
    obtain ⟨data, rfl⟩ := suspendChange_ok h
    exact Or.inl rfl
  | _ => exact Or.inl rfl

theorem Keyed.step (keyed : Keyed r) (intent : Intent known r now actorId change) (env : TxEnv)
    (unused : ∀ e ∈ r.answersHistory, e.idempotencyKey ≠ now.uuid) : Keyed (writtenRun env r change) := by
  rcases intent.answersHistory env with h | ⟨question, given, answers, key, valid, fresh, h⟩
  · exact ⟨h ▸ keyed.recorded, h ▸ keyed.once⟩
  · have kept : r.answersHistory.map AnswerEntry.stored = r.answersHistory := by
      refine (List.map_congr_left fun e he => ?_).trans (List.map_id _)
      exact stored_of_recorded (keyed.recorded e he)
    rw [List.map_append, kept, List.map_singleton] at h
    refine ⟨?_, ?_⟩
    · rw [h]
      intro e he
      rcases List.mem_append.mp he with he | he
      · exact keyed.recorded e he
      · rw [List.mem_singleton.mp he]
        exact ⟨given, answers, valid, rfl⟩
    · intro k hk
      rw [h, List.filter_append, List.length_append]
      by_cases hnew : key.getD now.uuid = k
      · -- The key is new to the row: the closure has looked for it, or it has just been made up.
        have none : ∀ e ∈ r.answersHistory, e.idempotencyKey ≠ k := by
          cases key with
          | none => exact hnew ▸ unused
          | some k' =>
            obtain rfl : k' = k := hnew
            exact findEntry_none (fresh k' rfl hk)
        have empty : r.answersHistory.filter (fun e => e.idempotencyKey = k) = [] := by
          rw [List.filter_eq_nil_iff]
          intro e he
          simpa using none e he
        rw [empty, List.length_nil, Nat.zero_add]
        exact List.length_filter_le _ _
      · have hlen := keyed.once k hk
        simpa [AnswerEntry.stored, hnew] using hlen

end Entries

section Rows

variable [Platform] [ComponentRegistry] {Ext : Type} {svc : Services Ext} {contract : Contract svc}
  {w : World Ext}

theorem WorldInvariant.keyed (h : WorldInvariant contract w) {r : ProvisioningRun} (hr : r ∈ w.db.runs) :
    Keyed r := by
  obtain ⟨first, ⟨env, create, rfl⟩, way⟩ := h.history.trail r hr
  refine way.invariant (keyed_initial env create) ?_
  intro c hc keyed
  have sound := h.sound c (List.mem_filter.mp hc).1
  rw [sound.committed.written]
  exact keyed.step sound.intent c.env sound.fresh

end Rows

end Provisr.Orchestrator
