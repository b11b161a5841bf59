import Provisr.Backend.ApprovalOrder
import Provisr.Foundation.Sublists

namespace Provisr.Backend.Approval

open Provisr.Foundation
open Provisr.Orchestrator (Platform)

structure Covers (t t' : TriggeredRule) : Prop where
  rule : t.rule = t'.rule
  approverRole : t.approverRole = t'.approverRole
  risk : riskRank t.riskLevel ≤ riskRank t'.riskLevel

section Risk

variable {s : Summary} {ts us : List TriggeredRule} {t : TriggeredRule}

theorem riskRank_injective {r r' : RiskLevel} (h : riskRank r = riskRank r') : r = r' := by
  cases r <;> cases r' <;> first | rfl | cases h

theorem riskRank_le (r : RiskLevel) : riskRank r ≤ 3 := by
  cases r <;> decide

theorem add_riskLevel_le {k : Nat} : riskRank (s.add t).riskLevel ≤ k ↔
    riskRank s.riskLevel ≤ k ∧ riskRank t.riskLevel ≤ k := by
  unfold Summary.add
  dsimp only
  split <;> omega

theorem foldl_riskLevel_le {k : Nat} : riskRank (ts.foldl Summary.add s).riskLevel ≤ k ↔
    riskRank s.riskLevel ≤ k ∧ ∀ t ∈ ts, riskRank t.riskLevel ≤ k := by
  induction ts generalizing s with
  | nil => simp
  | cons t ts ih => rw [List.foldl_cons, ih, add_riskLevel_le, List.forall_mem_cons, and_assoc]

theorem foldl_production : (ts.foldl Summary.add s).production = true ↔
    s.production = true ∨ ∃ t ∈ ts, t.rule = .environment := by
  induction ts generalizing s with
  | nil => simp
  | cons t ts ih => simp [ih, Summary.add, or_assoc]

theorem foldl_highCount : (ts.foldl Summary.add s).highCount =
    s.highCount + ts.countP fun t => t.riskLevel == .high := by
  induction ts generalizing s with
  | nil => simp
  | cons t ts ih =>
    rw [List.foldl_cons, ih, List.countP_cons]
    unfold Summary.add
    dsimp only
    by_cases high : t.riskLevel = .high
    · simp [high]
      omega
    · simp [high]

def start (top : TriggeredRule) : Summary := ⟨.low, top, false, 0⟩

theorem risk_mono (covers : List.SublistForall₂ Covers ts us) (top top' : TriggeredRule) :
    riskRank (ts.foldl Summary.add (start top)).risk ≤ riskRank (us.foldl Summary.add (start top')).risk := by
  generalize hs : ts.foldl Summary.add (start top) = s
  generalize hs' : us.foldl Summary.add (start top') = s'
  have level : riskRank s.riskLevel ≤ riskRank s'.riskLevel := by
    have reached : riskRank s'.riskLevel ≤ riskRank s'.riskLevel := le_rfl
    rw [← hs'] at reached
    rw [← hs, foldl_riskLevel_le]
    obtain ⟨-, all⟩ := foldl_riskLevel_le.mp reached
    rw [hs'] at all
    refine ⟨Nat.zero_le _, fun t ht => ?_⟩
    obtain ⟨u, hu, covered⟩ := sublistForall₂_mem covers ht
    exact covered.risk.trans (all u hu)
  have kept : riskRank s'.riskLevel ≤ riskRank s'.risk := by
    unfold Summary.risk
    split
    · exact riskRank_le _
    · exact le_rfl
  unfold Summary.risk
  split
  · rename_i escalated
    obtain ⟨production, high, count⟩ := escalated
    rcases Nat.lt_or_eq_of_le level with higher | same
    · rw [high] at higher
      have : riskRank RiskLevel.critical ≤ riskRank s'.riskLevel := higher
      exact this.trans kept
    · rw [high] at same
      have high' : s'.riskLevel = .high := riskRank_injective same.symm
      have production' : s'.production = true := by
        rw [← hs] at production
        rw [← hs']
        obtain none | ⟨t, ht, rule⟩ := foldl_production.mp production
        · cases none
        · obtain ⟨u, hu, covered⟩ := sublistForall₂_mem covers ht
          exact foldl_production.mpr (Or.inr ⟨u, hu, covered.rule ▸ rule⟩)
      have count' : 1 < s'.highCount := by
        have bounded := foldl_riskLevel_le.mp (le_of_eq (congrArg (fun s => riskRank s.riskLevel) hs'))
        have counts := countP_le_of_sublistForall₂ covers (p := fun t => t.riskLevel == .high)
          (q := fun u => u.riskLevel == .high) fun t u hu covered ht => by
            have upper := bounded.2 u hu
            have lower := covered.risk
            rw [beq_iff_eq] at ht ⊢
            rw [high'] at upper
            rw [ht] at lower
            exact riskRank_injective (le_antisymm upper lower)
        rw [← hs, foldl_highCount] at count
        rw [← hs', foldl_highCount]
        unfold start at count ⊢
        dsimp only at count ⊢
        omega
      rw [if_pos ⟨production', high', count'⟩]
  · exact level.trans kept

end Risk

structure Stricter (n n' : Input) : Prop where
  production : n.environment = "prod" ∨ n.workspaceEnvironment = "prod" →
    n'.environment = "prod" ∨ n'.workspaceEnvironment = "prod"
  cost : Float64.magnitude n.cost ≤ Float64.magnitude n'.cost
  exposure : n'.publicExposure = n.publicExposure
  changes : ∀ c ∈ n.resourceChanges, c ∈ n'.resourceChanges
  violations : ∀ v ∈ n.violations, v ∈ n'.violations
  decision : n'.decision = n.decision
  role : n'.userRole = n.userRole

section Rules

variable [GoUnicode] {n n' : Input} {t t' : JsNumber}

omit [GoUnicode] in
theorem covers_single {rule : Rule} {approverRole : ApproverRole} {risk risk' : RiskLevel} (reason reason' : String)
    (h : riskRank risk ≤ riskRank risk') :
    List.SublistForall₂ Covers [⟨rule, reason, approverRole, risk⟩] [⟨rule, reason', approverRole, risk'⟩] :=
  .cons ⟨rfl, rfl, h⟩ .nil

omit [GoUnicode] in
theorem Stricter.checkEnvironment (h : Stricter n n') :
    List.SublistForall₂ Covers (checkEnvironment n) (checkEnvironment n') := by
  unfold Approval.checkEnvironment
  by_cases production : n.environment = "prod" ∨ n.workspaceEnvironment = "prod"
  · have production' := h.production production
    rw [if_neg fun other => production.elim other.1 other.2, if_neg fun other => production'.elim other.1 other.2]
    exact covers_single _ _ le_rfl
  · rw [if_pos (not_or.mp production)]
    exact .nil

omit [GoUnicode] in
theorem Stricter.checkCost (h : Stricter n n') (lower : Float64.magnitude t' ≤ Float64.magnitude t) :
    List.SublistForall₂ Covers (checkCost n t) (checkCost n' t') := by
  unfold Approval.checkCost
  dsimp only
  have more := h.cost
  by_cases within : Float64.magnitude n.cost ≤ Float64.magnitude t
  · rw [if_pos within]
    exact .nil
  · have within' : ¬ Float64.magnitude n'.cost ≤ Float64.magnitude t' := by omega
    rw [if_neg within, if_neg within']
    refine covers_single _ _ ?_
    by_cases reached : Float64.atLeast (Float64.magnitude n.cost) highCostMultiplier (Float64.magnitude t) = true
    · rw [if_pos reached, if_pos (Float64.atLeast_mono more lower reached)]
    · rw [if_neg reached]
      split <;> decide

omit [GoUnicode] in
theorem Stricter.addresses (h : Stricter n n') (p : ResourceChange → Bool)
    (found : addresses p n.resourceChanges ≠ []) : addresses p n'.resourceChanges ≠ [] := by
  unfold Approval.addresses at found ⊢
  obtain ⟨address, mem⟩ := List.exists_mem_of_ne_nil _ found
  obtain ⟨c, hc, rfl⟩ := List.mem_map.mp mem
  obtain ⟨hc, hp⟩ := List.mem_filter.mp hc
  exact List.ne_nil_of_mem (List.mem_map_of_mem (List.mem_filter.mpr ⟨h.changes c hc, hp⟩))

omit [GoUnicode] in
theorem Stricter.category (h : Stricter n n') (reason : String) (role : ApproverRole) (risk : RiskLevel)
    (p : ResourceChange → Bool) :
    List.SublistForall₂ Covers (category reason role risk (Approval.addresses p n.resourceChanges))
      (category reason role risk (Approval.addresses p n'.resourceChanges)) := by
  unfold Approval.category
  split
  · exact .nil
  · rename_i found
    rw [if_neg (h.addresses p found)]
    exact covers_single _ _ le_rfl

theorem Stricter.checkResourceTypes (h : Stricter n n') :
    List.SublistForall₂ Covers (checkResourceTypes n) (checkResourceTypes n') :=
  sublistForall₂_append (sublistForall₂_append (h.category _ _ _ _) (h.category _ _ _ _)) (h.category _ _ _ _)

omit [GoUnicode] in
theorem Stricter.checkPublicExposure (h : Stricter n n') :
    List.SublistForall₂ Covers (checkPublicExposure n) (checkPublicExposure n') := by
  unfold Approval.checkPublicExposure
  dsimp only
  split
  · exact .nil
  · rename_i exposed
    have exposed' : ¬ (n'.publicExposure = false ∧ Approval.addresses exposes n'.resourceChanges = []) := by
      rintro ⟨flag, none⟩
      refine exposed ⟨h.exposure ▸ flag, ?_⟩
      by_contra found
      exact h.addresses exposes found none
    rw [if_neg exposed']
    exact covers_single _ _ le_rfl

omit [GoUnicode] in
theorem mem_approvalKeys {key : String} (vs : List Violation) :
    key ∈ approvalKeys vs ↔ ∃ v ∈ vs, v.severity = "approval" ∧ v.ruleKey = key := by
  have fold : ∀ keys : List String,
      key ∈ vs.foldl (fun keys v => if v.severity = "approval" ∧ v.ruleKey ∉ keys then keys ++ [v.ruleKey] else keys)
        keys ↔ key ∈ keys ∨ ∃ v ∈ vs, v.severity = "approval" ∧ v.ruleKey = key := by
    induction vs with
    | nil => simp
    | cons v vs ih =>
      intro keys
      rw [List.foldl_cons, ih]
      by_cases new : v.severity = "approval" ∧ v.ruleKey ∉ keys
      · rw [if_pos new]
        simp [new.1, eq_comm, or_assoc]
      · rw [if_neg new]
        constructor
        · rintro (mem | ⟨w, hw, same⟩)
          · exact Or.inl mem
          · exact Or.inr ⟨w, List.mem_cons_of_mem _ hw, same⟩
        · rintro (mem | ⟨w, hw, severity, rfl⟩)
          · exact Or.inl mem
          · rcases List.mem_cons.mp hw with rfl | hw
            · exact Or.inl (by_contra fun absent => new ⟨severity, absent⟩)
            · exact Or.inr ⟨w, hw, severity, rfl⟩
  unfold approvalKeys
  rw [fold]
  simp

omit [GoUnicode] in
theorem Stricter.checkPolicy (h : Stricter n n') : List.SublistForall₂ Covers (checkPolicy n) (checkPolicy n') := by
  unfold Approval.checkPolicy
  dsimp only
  split
  · exact .nil
  · rename_i required
    have required' : ¬ (n'.decision ≠ "REQUIRES_APPROVAL" ∧ approvalKeys n'.violations = []) := by
      rintro ⟨decision, none⟩
      refine required ⟨h.decision ▸ decision, ?_⟩
      rw [List.eq_nil_iff_forall_not_mem] at none ⊢
      intro key mem
      obtain ⟨v, hv, severity⟩ := (mem_approvalKeys _).mp mem
      exact none key ((mem_approvalKeys _).mpr ⟨v, h.violations v hv, severity⟩)
    rw [if_neg required']
    exact covers_single _ _ le_rfl

omit [GoUnicode] in
theorem Stricter.any (h : Stricter n n') {p : ResourceChange → Bool} (found : n.resourceChanges.any p = true) :
    n'.resourceChanges.any p = true := by
  obtain ⟨c, hc, hp⟩ := List.any_eq_true.mp found
  exact List.any_eq_true.mpr ⟨c, h.changes c hc, hp⟩

theorem Stricter.checkRole (h : Stricter n n') : List.SublistForall₂ Covers (checkRole n) (checkRole n') := by
  unfold Approval.checkRole
  rw [h.role]
  dsimp only
  by_cases admin : n.userRole = "admin"
  · rw [if_pos admin]
    exact .nil
  · rw [if_neg admin, if_neg admin]
    by_cases change : n.userRole ≠ "engineer" ∧ (n.resourceChanges.any fun c => mutating c.action) = true
    · have change' : n.userRole ≠ "engineer" ∧ (n'.resourceChanges.any fun c => mutating c.action) = true :=
        ⟨change.1, h.any change.2⟩
      rw [if_pos change, if_pos change']
      exact covers_single _ _ le_rfl
    · rw [if_neg change]
      by_cases destroyed : (n.resourceChanges.any fun c => destructive c.action) = true
      · rw [if_pos destroyed, if_pos (h.any destroyed)]
        by_cases change' : n.userRole ≠ "engineer" ∧ (n'.resourceChanges.any fun c => mutating c.action) = true
        · rw [if_pos change']
          exact covers_single _ _ le_rfl
        · rw [if_neg change']
          exact covers_single _ _ le_rfl
      · rw [if_neg destroyed]
        exact .nil

theorem Stricter.triggered (h : Stricter n n') (lower : Float64.magnitude t' ≤ Float64.magnitude t) :
    List.SublistForall₂ Covers (triggered n t) (triggered n' t') :=
  sublistForall₂_append (sublistForall₂_append (sublistForall₂_append (sublistForall₂_append (sublistForall₂_append
    h.checkEnvironment (h.checkCost lower)) h.checkResourceTypes) h.checkPublicExposure) h.checkPolicy) h.checkRole

end Rules

structure NoWeaker (r r' : Requirement) : Prop where
  required : r.requiresApproval = true → r'.requiresApproval = true
  risk : riskRank r.riskLevel ≤ riskRank r'.riskLevel
  rules : List.SublistForall₂ Covers r.triggeredRules r'.triggeredRules

section Evaluate

variable [GoUnicode] [Platform]

theorem noWeaker_of_covers {n n' : Input} {t t' : JsNumber}
    (covers : List.SublistForall₂ Covers (triggered n t) (triggered n' t')) :
    NoWeaker (requirement n t) (requirement n' t') := by
  unfold requirement
  dsimp only
  cases before : triggered n t with
  | nil => exact ⟨fun h => absurd h Bool.false_ne_true, Nat.zero_le _, .nil⟩
  | cons first rest =>
    cases after : triggered n' t' with
    | nil =>
      rw [before, after] at covers
      cases covers
    | cons first' rest' =>
      rw [before, after] at covers
      exact ⟨fun _ => rfl, risk_mono covers first first', covers⟩

-- A further change or violation, a higher cost, a lower threshold, or production instead of what was none.
inductive Raised (input : RunContext) (threshold : Float64) : RunContext → Float64 → Prop
  | change (before after : List ResourceChange) (c : ResourceChange)
      (changes : input.resourceChanges = before ++ after) :
      Raised input threshold { input with resourceChanges := before ++ c :: after } threshold
  | violation (before after : List Violation) (v : Violation) (violations : input.violations = before ++ after) :
      Raised input threshold { input with violations := before ++ v :: after } threshold
  | cost (low high : JsNumber) (estimate : input.estimatedMonthlyUSD = some (.finite low))
      (more : Float64.magnitude low ≤ Float64.magnitude high) :
      Raised input threshold { input with estimatedMonthlyUSD := some (.finite high) } threshold
  | threshold (high low : JsNumber) (limit : threshold = .finite high)
      (less : Float64.magnitude low ≤ Float64.magnitude high) : Raised input threshold input (.finite low)
  | environment (text : String) (before : normalizeEnvironment input.environment ≠ .ok "prod")
      (production : normalizeEnvironment text = .ok "prod") :
      Raised input threshold { input with environment := text } threshold
  | workspace (text : String) (before : normalizeWorkspace input.workspaceEnvironment ≠ "prod")
      (production : normalizeWorkspace text = "prod") :
      Raised input threshold { input with workspaceEnvironment := text } threshold

theorem evaluate_cases {a : RunContext} {threshold : Float64} {r : Requirement} (h : Evaluate a threshold = .ok r) :
    ∃ n t, normalize a = .ok n ∧ nonNegative threshold = some t ∧ r = requirement n t := by
  unfold Evaluate at h
  split at h
  · cases h
  · rename_i n hn
    split at h
    · cases h
    · rename_i t ht
      exact ⟨n, t, hn, ht, (Except.ok.inj h).symm⟩

theorem evaluated_of {a : RunContext} {threshold : Float64} (h : Evaluable a threshold) :
    ∃ r, Evaluate a threshold = .ok r := by
  obtain ⟨n, t, hn, ht⟩ := evaluable_iff.mp h
  refine ⟨requirement n t, ?_⟩
  rw [Evaluate, hn]
  dsimp only
  rw [ht]

omit [GoUnicode] [Platform] in
theorem nonNegative_finite {m n : JsNumber} (h : nonNegative (.finite m) = some n) : n = m := by
  rw [nonNegative] at h
  split at h
  · cases h
  · exact (Option.some.inj h).symm

omit [GoUnicode] [Platform] in
theorem normalizeCost_finite {low cost : JsNumber} (h : normalizeCost (some (.finite low)) = .ok cost) : cost = low := by
  rw [normalizeCost] at h
  split at h
  · cases h
  · rename_i amount
    exact (Except.ok.inj h).symm.trans (nonNegative_finite amount)

omit [Platform] in
theorem stricter_of {a b : RunContext} {environment environment' decision : String} {cost cost' : JsNumber}
    (production : environment = "prod" ∨ normalizeWorkspace a.workspaceEnvironment = "prod" →
      environment' = "prod" ∨ normalizeWorkspace b.workspaceEnvironment = "prod")
    (costs : Float64.magnitude cost ≤ Float64.magnitude cost')
    (exposure : b.publicExposure = a.publicExposure)
    (changes : ∀ c ∈ a.resourceChanges, c ∈ b.resourceChanges) (violations : ∀ v ∈ a.violations, v ∈ b.violations)
    (role : b.userRole = a.userRole) :
    Stricter (Input.of a environment cost decision) (Input.of b environment' cost' decision) := by
  constructor
  · simpa only [Input.of] using production
  · simpa only [Input.of] using costs
  · simpa only [Input.of] using exposure
  · intro c hc
    simp only [Input.of] at hc ⊢
    obtain ⟨d, hd, rfl⟩ := List.mem_map.mp (mem_sortStable.mp hc)
    exact mem_sortStable.mpr (List.mem_map_of_mem (changes d hd))
  · intro v hv
    simp only [Input.of] at hv ⊢
    exact mem_sortStable.mpr (violations v (mem_sortStable.mp hv))
  · simp only [Input.of]
  · simp only [Input.of, role]

omit [GoUnicode] [Platform] in
theorem mem_insert {α : Type} {xs before after : List α} (split : xs = before ++ after) (x : α) :
    ∀ y ∈ xs, y ∈ before ++ x :: after := by
  rw [split]
  intro y hy
  rcases List.mem_append.mp hy with hy | hy
  · exact List.mem_append_left _ hy
  · exact List.mem_append_right _ (List.mem_cons_of_mem _ hy)

theorem approval_monotone {input input' : RunContext} {threshold threshold' : Float64}
    (raised : Raised input threshold input' threshold') {r r' : Requirement} (h : Evaluate input threshold = .ok r)
    (h' : Evaluate input' threshold' = .ok r') : NoWeaker r r' := by
  obtain ⟨n, t, hn, ht, rfl⟩ := evaluate_cases h
  obtain ⟨n', t', hn', ht', rfl⟩ := evaluate_cases h'
  obtain ⟨environment, cost, decision, checked, decided, rfl⟩ := normalize_ok hn
  obtain ⟨environment', cost', decision', checked', decided', rfl⟩ := normalize_ok hn'
  refine noWeaker_of_covers ?_
  cases raised with
  | change before after c changes =>
    obtain rfl := Except.ok.inj (checked.environment.symm.trans checked'.environment)
    obtain rfl := Except.ok.inj (checked.cost.symm.trans checked'.cost)
    obtain rfl := Except.ok.inj (decided.symm.trans decided')
    obtain rfl := Option.some.inj (ht.symm.trans ht')
    exact (stricter_of (a := input) (b := { input with resourceChanges := before ++ c :: after }) id le_rfl rfl
      (mem_insert changes c) (fun _ hv => hv) rfl).triggered le_rfl
  | violation before after v violations =>
    obtain rfl := Except.ok.inj (checked.environment.symm.trans checked'.environment)
    obtain rfl := Except.ok.inj (checked.cost.symm.trans checked'.cost)
    obtain rfl := Except.ok.inj (decided.symm.trans decided')
    obtain rfl := Option.some.inj (ht.symm.trans ht')
    exact (stricter_of (a := input) (b := { input with violations := before ++ v :: after }) id le_rfl rfl
      (fun _ hc => hc) (mem_insert violations v) rfl).triggered le_rfl
  | cost low high estimate more =>
    have estimated := checked.cost
    rw [estimate] at estimated
    obtain rfl := normalizeCost_finite estimated
    obtain rfl := normalizeCost_finite checked'.cost
    obtain rfl := Except.ok.inj (checked.environment.symm.trans checked'.environment)
    obtain rfl := Except.ok.inj (decided.symm.trans decided')
    obtain rfl := Option.some.inj (ht.symm.trans ht')
    exact (stricter_of id more rfl (fun _ hc => hc) (fun _ hv => hv) rfl).triggered le_rfl
  | threshold high low limit less =>
    subst limit
    obtain rfl := nonNegative_finite ht
    obtain rfl := nonNegative_finite ht'
    obtain rfl := Except.ok.inj (checked.environment.symm.trans checked'.environment)
    obtain rfl := Except.ok.inj (checked.cost.symm.trans checked'.cost)
    obtain rfl := Except.ok.inj (decided.symm.trans decided')
    exact (stricter_of id le_rfl rfl (fun _ hc => hc) (fun _ hv => hv) rfl).triggered less
  | environment text before production =>
    obtain rfl := Except.ok.inj (production.symm.trans checked'.environment)
    obtain rfl := Except.ok.inj (checked.cost.symm.trans checked'.cost)
    obtain rfl := Except.ok.inj (decided.symm.trans decided')
    obtain rfl := Option.some.inj (ht.symm.trans ht')
    exact (stricter_of (a := input) (b := { input with environment := text }) (fun _ => Or.inl rfl) le_rfl rfl
      (fun _ hc => hc) (fun _ hv => hv) rfl).triggered le_rfl
  | workspace text before production =>
    obtain rfl := Except.ok.inj (checked.environment.symm.trans checked'.environment)
    obtain rfl := Except.ok.inj (checked.cost.symm.trans checked'.cost)
    obtain rfl := Except.ok.inj (decided.symm.trans decided')
    obtain rfl := Option.some.inj (ht.symm.trans ht')
    exact (stricter_of (a := input) (b := { input with workspaceEnvironment := text }) (fun _ => Or.inr production)
      le_rfl rfl (fun _ hc => hc) (fun _ hv => hv) rfl).triggered le_rfl

end Evaluate

theorem approval_monotone_production :
    letI := asciiTables
    letI := deposedHashes
    ∃ r r', Evaluate (deposed "i-04f1" "i-09c7") usualThreshold = .ok r ∧
      Evaluate { deposed "i-04f1" "i-09c7" with environment := "production" } usualThreshold = .ok r' ∧
      NoWeaker r r' := by
  let _ := asciiTables
  let _ := deposedHashes
  have evaluable' : Evaluable { deposed "i-04f1" "i-09c7" with environment := "production" } usualThreshold :=
    { deposed_evaluable with environment := by decide }
  obtain ⟨r, h⟩ := evaluated_of deposed_evaluable
  obtain ⟨r', h'⟩ := evaluated_of evaluable'
  refine ⟨r, r', h, h', approval_monotone (.environment "production" ?_ ?_) h h'⟩
  · decide
  · decide

end Provisr.Backend.Approval
