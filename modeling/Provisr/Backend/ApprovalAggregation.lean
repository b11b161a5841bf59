import Provisr.Backend.ApprovalMonotone

namespace Provisr.Backend.Approval

open Provisr.Foundation
open Provisr.Orchestrator (Platform)

section Reference

variable (ts : List TriggeredRule)

def IsHighest (level : RiskLevel) : Prop :=
  (∃ t ∈ ts, t.riskLevel = level) ∧ ∀ t ∈ ts, riskRank t.riskLevel ≤ riskRank level

def Escalates : Prop :=
  IsHighest ts .high ∧ (∃ t ∈ ts, t.rule = .environment) ∧ ∃ t ∈ ts, t.rule ≠ .environment ∧ t.riskLevel = .high

-- Among the rules of the highest risk an admin goes before security, and security before finance.
def Decides (role : ApproverRole) : Prop :=
  ∃ t ∈ ts, t.approverRole = role ∧ IsHighest ts t.riskLevel ∧
    ∀ u ∈ ts, u.riskLevel = t.riskLevel → approverRank role ≤ approverRank u.approverRole

-- What the triggered rules ask for, whatever their order.
structure Aggregated (r : Requirement) : Prop where
  required : r.requiresApproval = true ↔ ∃ t, t ∈ ts
  idle : (∀ t, t ∉ ts) → r.riskLevel = .low
  escalated : Escalates ts → r.riskLevel = .critical
  highest : ¬ Escalates ts → (∃ t, t ∈ ts) → IsHighest ts r.riskLevel
  approver : ∀ role, r.requiredApproverRole = some role ↔ Decides ts role
  absent : r.requiredApproverRole = none ↔ ∀ t, t ∉ ts

end Reference

section Summary

variable {s : Summary} {t : TriggeredRule} {ts : List TriggeredRule}

theorem approverRank_injective {a b : ApproverRole} (h : approverRank a = approverRank b) : a = b := by
  cases a <;> cases b <;> first | rfl | cases h

theorem approverRank_le (a : ApproverRole) : approverRank a ≤ 2 := by
  cases a <;> decide

def weight (t : TriggeredRule) : Nat := 3 * riskRank t.riskLevel + (2 - approverRank t.approverRole)

theorem add_top : (s.add t).top = if weight s.top < weight t then t else s.top := by
  have hs := approverRank_le s.top.approverRole
  have ht := approverRank_le t.approverRole
  unfold Summary.add weight
  dsimp only
  refine if_congr ⟨?_, ?_⟩ rfl rfl
  · rintro (higher | ⟨tie, before⟩)
    · omega
    · rw [tie]
      omega
  · intro heavier
    by_cases tie : t.riskLevel = s.top.riskLevel
    · rw [tie] at heavier
      exact .inr ⟨tie, by omega⟩
    · have apart : riskRank t.riskLevel ≠ riskRank s.top.riskLevel := fun same => tie (riskRank_injective same)
      exact .inl (by omega)

theorem foldl_top (ts : List TriggeredRule) (s : Summary) : (ts.foldl Summary.add s).top ∈ s.top :: ts ∧
    ∀ t ∈ s.top :: ts, weight t ≤ weight (ts.foldl Summary.add s).top := by
  induction ts generalizing s with
  | nil => simp
  | cons t ts ih =>
    rw [List.foldl_cons]
    obtain ⟨mem, most⟩ := ih (s := s.add t)
    rw [add_top] at mem most
    split at mem
    · rename_i heavier
      rw [if_pos heavier] at most
      refine ⟨List.mem_cons_of_mem _ mem, fun u hu => ?_⟩
      rcases List.mem_cons.mp hu with rfl | hu
      · exact le_trans heavier.le (most t List.mem_cons_self)
      · exact most u hu
    · rename_i lighter
      rw [if_neg lighter] at most
      refine ⟨(List.mem_cons.mp mem).elim (fun h => h ▸ List.mem_cons_self) fun h =>
        List.mem_cons_of_mem _ (List.mem_cons_of_mem _ h), fun u hu => ?_⟩
      rcases List.mem_cons.mp hu with rfl | hu
      · exact most _ List.mem_cons_self
      rcases List.mem_cons.mp hu with rfl | hu
      · exact le_trans (not_lt.mp lighter) (most _ List.mem_cons_self)
      · exact most u (List.mem_cons_of_mem _ hu)

theorem IsHighest.unique {level level' : RiskLevel} (h : IsHighest ts level) (h' : IsHighest ts level') :
    level = level' := by
  obtain ⟨⟨t, ht, rfl⟩, most⟩ := h
  obtain ⟨⟨t', ht', rfl⟩, most'⟩ := h'
  exact riskRank_injective (le_antisymm (most' t ht) (most t' ht'))

theorem foldl_risk (top : TriggeredRule) (some_rule : t ∈ ts) :
    IsHighest ts (ts.foldl Summary.add (start top)).riskLevel := by
  have most : ∀ u ∈ ts, riskRank u.riskLevel ≤ riskRank (ts.foldl Summary.add (start top)).riskLevel :=
    (foldl_riskLevel_le.mp le_rfl).2
  refine ⟨?_, most⟩
  by_contra never
  have below : ∀ u ∈ ts, riskRank u.riskLevel < riskRank (ts.foldl Summary.add (start top)).riskLevel :=
    fun u hu => lt_of_le_of_ne (most u hu) fun same => never ⟨u, hu, riskRank_injective same⟩
  have positive := below t some_rule
  have lower : riskRank (ts.foldl Summary.add (start top)).riskLevel ≤
      riskRank (ts.foldl Summary.add (start top)).riskLevel - 1 :=
    foldl_riskLevel_le.mpr ⟨Nat.zero_le _, fun u hu => Nat.le_sub_one_of_lt (below u hu)⟩
  omega

theorem decides_foldl (first : TriggeredRule) (rest : List TriggeredRule) (role : ApproverRole) :
    ((first :: rest).foldl Summary.add (start first)).top.approverRole = role ↔ Decides (first :: rest) role := by
  obtain ⟨mem, most⟩ := foldl_top (first :: rest) (start first)
  generalize (first :: rest).foldl Summary.add (start first) = s at mem most
  have mem' : s.top ∈ first :: rest := (List.mem_cons.mp mem).elim (fun h => h ▸ List.mem_cons_self) id
  have heaviest : ∀ u ∈ first :: rest, weight u ≤ weight s.top := fun u hu => most u (List.mem_cons_of_mem _ hu)
  have highest : IsHighest (first :: rest) s.top.riskLevel := by
    refine ⟨⟨s.top, mem', rfl⟩, fun u hu => ?_⟩
    have heavier := heaviest u hu
    unfold weight at heavier
    omega
  have before : ∀ u ∈ first :: rest, u.riskLevel = s.top.riskLevel →
      approverRank s.top.approverRole ≤ approverRank u.approverRole := by
    intro u hu tie
    have heavier := heaviest u hu
    have own := approverRank_le s.top.approverRole
    have bound := approverRank_le u.approverRole
    unfold weight at heavier
    rw [tie] at heavier
    omega
  constructor
  · rintro rfl
    exact ⟨s.top, mem', rfl, highest, before⟩
  · rintro ⟨t, ht, rfl, high, least⟩
    have tie : t.riskLevel = s.top.riskLevel := high.unique highest
    exact approverRank_injective (le_antisymm (before t ht tie) (least s.top mem' tie.symm))

end Summary

section Rules

variable [GoUnicode] {n : Input} {threshold : JsNumber} {t : TriggeredRule}

omit [GoUnicode] in
theorem mem_category {reason : String} {role : ApproverRole} {risk : RiskLevel} {found : List String}
    (h : t ∈ category reason role risk found) : t.rule = .resourceType := by
  unfold category at h
  split at h
  · cases h
  · rw [List.mem_singleton.mp h]

theorem environment_first (n : Input) (threshold : JsNumber) :
    ∃ rest, triggered n threshold = checkEnvironment n ++ rest ∧ ∀ t ∈ rest, t.rule ≠ .environment := by
  refine ⟨_, by rw [triggered, List.append_assoc, List.append_assoc, List.append_assoc, List.append_assoc], ?_⟩
  intro t ht environment
  simp only [List.mem_append, checkResourceTypes] at ht
  rcases ht with cost | ((database | iam) | group) | exposed | policy | role
  · unfold checkCost at cost
    dsimp only at cost
    split at cost
    · cases cost
    · rw [List.mem_singleton.mp cost] at environment
      cases environment
  · cases environment.symm.trans (mem_category database)
  · cases environment.symm.trans (mem_category iam)
  · cases environment.symm.trans (mem_category group)
  · unfold checkPublicExposure at exposed
    dsimp only at exposed
    split at exposed
    · cases exposed
    · rw [List.mem_singleton.mp exposed] at environment
      cases environment
  · unfold checkPolicy at policy
    dsimp only at policy
    split at policy
    · cases policy
    · rw [List.mem_singleton.mp policy] at environment
      cases environment
  · unfold checkRole at role
    dsimp only at role
    split at role
    · cases role
    · split at role
      · rw [List.mem_singleton.mp role] at environment
        cases environment
      · split at role
        · rw [List.mem_singleton.mp role] at environment
          cases environment
        · cases role

omit [GoUnicode] in
theorem one_environment (n : Input) :
    checkEnvironment n = [] ∨ ∃ e, checkEnvironment n = [e] ∧ e.rule = .environment ∧ e.riskLevel = .high := by
  unfold checkEnvironment
  split
  · exact .inl rfl
  · exact .inr ⟨_, rfl, rfl, rfl⟩

-- The environment rule is one of high risk, so that a count above one tells of another.
theorem escalates_foldl (n : Input) (threshold : JsNumber) (top : TriggeredRule) :
    (((triggered n threshold).foldl Summary.add (start top)).production = true ∧
      ((triggered n threshold).foldl Summary.add (start top)).riskLevel = .high ∧
      1 < ((triggered n threshold).foldl Summary.add (start top)).highCount) ↔ Escalates (triggered n threshold) := by
  obtain ⟨rest, parts, others⟩ := environment_first n threshold
  rw [foldl_production, foldl_highCount]
  rcases one_environment n with absent | ⟨e, one, environment, high⟩
  · have never : ¬ ∃ t ∈ triggered n threshold, t.rule = .environment := by
      rw [parts, absent]
      rintro ⟨t, ht, environment⟩
      exact others t ht environment
    refine iff_of_false (fun h => never (h.1.resolve_left Bool.false_ne_true)) fun h => never h.2.1
  · have mem : e ∈ triggered n threshold := by
      rw [parts, one]
      exact List.mem_cons_self
    have counted : (start top).highCount + (triggered n threshold).countP (fun t => t.riskLevel == .high) =
        1 + rest.countP fun t => t.riskLevel == .high := by
      rw [parts, one, List.singleton_append, List.countP_cons, high]
      simp [start, Nat.add_comm]
    rw [counted, Nat.lt_add_right_iff_pos, List.countP_pos_iff]
    have highest := foldl_risk top mem
    constructor
    · rintro ⟨-, risk, u, hu, above⟩
      have inside : u ∈ triggered n threshold := by
        rw [parts]
        exact List.mem_append_right _ hu
      exact ⟨risk ▸ highest, ⟨e, mem, environment⟩, u, inside, others u hu, beq_iff_eq.mp above⟩
    · rintro ⟨top_high, -, u, hu, other, above⟩
      rw [parts, one, List.singleton_append] at hu
      rcases List.mem_cons.mp hu with rfl | hu
      · exact absurd environment other
      · exact ⟨.inr ⟨e, mem, environment⟩, highest.unique top_high, u, hu, beq_iff_eq.mpr above⟩

end Rules

section Evaluate

variable [GoUnicode] [Platform]

theorem requirement_aggregated (n : Input) (threshold : JsNumber) :
    Aggregated (triggered n threshold) (requirement n threshold) := by
  cases rules : triggered n threshold with
  | nil =>
    have idle : requirement n threshold = ⟨false, "no approval rules matched", none, .low, [], RuleSetVersion,
        inputDigest n threshold, threshold, n.costSource⟩ := by
      rw [requirement, rules]
    rw [idle]
    constructor
    · simp
    · exact fun _ => rfl
    · rintro ⟨⟨⟨t, ht, -⟩, -⟩, -⟩
      cases ht
    · rintro - ⟨t, ht⟩
      cases ht
    · refine fun role => iff_of_false nofun ?_
      rintro ⟨t, ht, -⟩
      cases ht
    · simp
  | cons first rest =>
    have some_rule : first ∈ triggered n threshold := rules ▸ List.mem_cons_self
    have highest := foldl_risk first some_rule
    have escalates := escalates_foldl n threshold first
    have decides := decides_foldl first rest
    have found : requirement n threshold = ⟨true, "; ".intercalate ((first :: rest).map TriggeredRule.reason),
        some ((first :: rest).foldl Summary.add (start first)).top.approverRole,
        ((first :: rest).foldl Summary.add (start first)).risk, first :: rest, RuleSetVersion,
        inputDigest n threshold, threshold, n.costSource⟩ := by
      rw [requirement, rules]
      rfl
    rw [rules] at highest escalates
    rw [found]
    generalize (first :: rest).foldl Summary.add (start first) = s at highest escalates decides
    constructor
    · exact iff_of_true rfl ⟨first, List.mem_cons_self⟩
    · exact fun idle => absurd List.mem_cons_self (idle first)
    · exact fun h => if_pos (escalates.mpr h)
    · rintro h -
      have risk : s.risk = s.riskLevel := if_neg fun raised => h (escalates.mp raised)
      exact risk.symm ▸ highest
    · exact fun role => Option.some_inj.trans (decides role)
    · exact iff_of_false nofun fun idle => idle first List.mem_cons_self

-- The requirement says of the triggered rules what it would say of them in any other order.
theorem approval_aggregated {input : RunContext} {threshold : Float64} {r : Requirement}
    (h : Evaluate input threshold = .ok r) :
    ∃ n t, normalize input = .ok n ∧ nonNegative threshold = some t ∧ r.triggeredRules = triggered n t ∧
      Aggregated (triggered n t) r := by
  obtain ⟨n, t, hn, ht, rfl⟩ := evaluate_cases h
  refine ⟨n, t, hn, ht, ?_, requirement_aggregated n t⟩
  unfold requirement
  cases triggered n t <;> rfl

end Evaluate

section Example

def rollout (type : String) : RunContext :=
  { deposed "i-04f1" "i-09c7" with
    environment := "production"
    resourceChanges := [⟨"orders", type, "delete", false, ⟨[], rfl⟩⟩, ⟨"ci", "aws_iam_role", "update", false, ⟨[], rfl⟩⟩]
    estimatedMonthlyUSD := some (.finite (JsNumber.ofNat 620))
    userRole := "engineer" }

def rolled (type : String) : Input :=
  letI := asciiTables
  Input.of (rollout type) "prod" (JsNumber.ofNat 620) "ALLOW"

@[reducible] def rolloutHashes : Platform :=
  ⟨fun s => if s = encoded (rolled "aws_instance") (JsNumber.ofNat 500) then
      "465602d3cb88f3affe214a9ea55ac9dea83d9ed7652836a9f360e2051312d1fe"
    else "03bc60b5978bed999d4ce45f471677759535fcd3a62bf4deee6cd3683d4e84df", fun _ => true⟩

def rolloutRules : List (Rule × RiskLevel × ApproverRole) :=
  [(.environment, .high, .admin), (.cost, .medium, .finance), (.resourceType, .high, .security), (.role, .medium, .admin)]

theorem rollout_triggered :
    letI := asciiTables
    (triggered (rolled "aws_instance") (JsNumber.ofNat 500)).map (fun t => (t.rule, t.riskLevel, t.approverRole)) =
        rolloutRules ∧
      (triggered (rolled "aws_db_instance") (JsNumber.ofNat 500)).map (fun t => (t.rule, t.riskLevel, t.approverRole)) =
        rolloutRules.insertIdx 2 (.resourceType, .critical, .admin) := by
  decide +kernel

-- The one is raised to critical by the two rules of high risk; the other has a rule that is.
theorem approval_aggregated_rollout :
    letI := asciiTables
    letI := rolloutHashes
    ∃ r s, Evaluate (rollout "aws_instance") usualThreshold = .ok r ∧ Aggregated r.triggeredRules r ∧
      r.triggeredRules.map (fun t => (t.rule, t.riskLevel, t.approverRole)) = rolloutRules ∧
      Evaluate (rollout "aws_db_instance") usualThreshold = .ok s ∧ Aggregated s.triggeredRules s ∧
      s.triggeredRules.map (fun t => (t.rule, t.riskLevel, t.approverRole)) =
        rolloutRules.insertIdx 2 (.resourceType, .critical, .admin) := by
  let _ := asciiTables
  let _ := rolloutHashes
  have first : Evaluate (rollout "aws_instance") usualThreshold =
      .ok (requirement (rolled "aws_instance") (JsNumber.ofNat 500)) := rfl
  have second : Evaluate (rollout "aws_db_instance") usualThreshold =
      .ok (requirement (rolled "aws_db_instance") (JsNumber.ofNat 500)) := rfl
  obtain ⟨n, t, hn, ht, rules, aggregated⟩ := approval_aggregated first
  obtain ⟨n', t', hn', ht', rules', aggregated'⟩ := approval_aggregated second
  obtain rfl : rolled "aws_instance" = n := Except.ok.inj hn
  obtain rfl : rolled "aws_db_instance" = n' := Except.ok.inj hn'
  obtain rfl : JsNumber.ofNat 500 = t := Option.some.inj ht
  obtain rfl : JsNumber.ofNat 500 = t' := Option.some.inj ht'
  obtain ⟨own, own'⟩ := rollout_triggered
  exact ⟨_, _, first, rules ▸ aggregated, (congrArg (List.map _) rules).trans own, second, rules' ▸ aggregated',
    (congrArg (List.map _) rules').trans own'⟩

end Example

end Provisr.Backend.Approval
