import Provisr.StateBackend.Bucket

namespace Provisr.StateBackend.Bucket

open Provisr.Foundation Provisr.Backend

section Properties

variable (b : Bucket) (seen : List (Obs S3Op.Ret))

def Missing (r : Except String Unit) : Prop := r = .error "NotFound" ∨ r = .error "NoSuchBucket"

def Opened : Prop :=
  (∀ name owner r, (⟨.HeadBucket name owner, r⟩ : Obs S3Op.Ret) ∈ seen → Missing r) ∨
    (⟨.HeadBucket b.name b.owner, .ok ()⟩ : Obs S3Op.Ret) ∈ seen

def TagsClear : Prop :=
  ∃ r set, (⟨.GetBucketTagging b.name b.owner, r⟩ : Obs S3Op.Ret) ∈ seen ∧ tagSet r = .ok set ∧
    ∀ ws, found set tagWorkspace = some ws → ws = b.workspace

def Cleared : Prop :=
  (∀ name owner r, (⟨.HeadBucket name owner, r⟩ : Obs S3Op.Ret) ∈ seen → Missing r) ∨
    (⟨.HeadBucket b.name b.owner, .ok ()⟩ : Obs S3Op.Ret) ∈ seen ∧ TagsClear b seen

variable [ConditionOperators]

def Secured : Prop :=
  ∃ before versioning pab rules policy,
    seen = before ++ [⟨.GetBucketVersioning b.name b.owner, .ok versioning⟩,
      ⟨.GetPublicAccessBlock b.name b.owner, .ok (some pab)⟩, ⟨.GetBucketEncryption b.name b.owner, .ok rules⟩,
      ⟨.GetBucketPolicy b.name b.owner, .ok (some policy)⟩] ∧
    versioning = "Enabled" ∧ pab.full = true ∧ rules.kms = true ∧ DeniesInsecureTransport b.arn policy

structure Safe (rest : Prog S3Op.Ret (Except Failure (Bool × Bool))) : Prop where
  mutates : ∀ o k, rest = .op o k → o.mutates = true → Cleared b seen
  success : ∀ outcome, rest = .pure (.ok outcome) → Secured b seen

end Properties

def Given (policies : Set String) : Obs S3Op.Ret → Prop
  | ⟨.GetBucketPolicy _ _, .ok (some policy)⟩ => policy ∈ policies
  | _ => True

def namesSid (policy : String) : Bool := Contains policy ("\"" ++ policySid ++ "\"")

section Programs

variable {b : Bucket} {seen : List (Obs S3Op.Ret)} {policies : Set String}

def Owed (b : Bucket) (seen : List (Obs S3Op.Ret)) (o : S3Op) : Prop := o.mutates = true → Cleared b seen

def Replied (policies : Set String) (_ : List (Obs S3Op.Ret)) (o : S3Op) (r : S3Op.Ret o) : Prop := Given policies ⟨o, r⟩

def isHead : S3Op → Bool
  | .HeadBucket .. => true
  | _ => false

theorem Opened.later (h : Opened b seen) {o : S3Op} (other : isHead o = false) (r : S3Op.Ret o) :
    Opened b (seen ++ [⟨o, r⟩]) := by
  rcases h with missing | found
  · refine .inl fun name owner r' mem => ?_
    rcases List.mem_append.mp mem with mem | mem
    · exact missing name owner r' mem
    · cases List.mem_singleton.mp mem
      cases other
  · exact .inr (List.mem_append_left _ found)

structure Held (b : Bucket) (seen : List (Obs S3Op.Ret)) : Prop where
  opened : Opened b seen
  tags : TagsClear b seen

theorem Held.later (h : Held b seen) {o : S3Op} (other : isHead o = false) (r : S3Op.Ret o) :
    Held b (seen ++ [⟨o, r⟩]) := by
  obtain ⟨r', set, mem, read, clear⟩ := h.tags
  exact ⟨h.opened.later other r, r', set, List.mem_append_left _ mem, read, clear⟩

theorem Held.cleared (h : Held b seen) : Cleared b seen := h.opened.imp id fun found => ⟨found, h.tags⟩

abbrev spec {α : Type} (b : Bucket) (policies : Set String) (p : Driver α) (Q : List (Obs S3Op.Ret) → α → Prop)
    (seen : List (Obs S3Op.Ret)) : Prop :=
  Async.wp (Owed b) (Replied policies) p Q (fun _ _ => True) seen

theorem attempt_spec {α : Type} {o : S3Op} {outcome : S3Op.Ret o → Except Failure α}
    {Q : List (Obs S3Op.Ret) → α → Prop} (owed : Owed b seen o)
    (next : ∀ r a, Given policies ⟨o, r⟩ → outcome r = .ok a → Q (seen ++ [⟨o, r⟩]) a) :
    spec b policies (Async.attempt o outcome) Q seen := by
  refine (Async.wp_attempt o outcome).mpr ⟨owed, fun r given => ?_⟩
  cases read : outcome r with
  | ok a => exact next r a given read
  | error e => trivial

theorem mutate_spec (held : Held b seen) {o : S3Op} (other : isHead o = false) {Q : List (Obs S3Op.Ret) → Unit → Prop}
    {outcome : S3Op.Ret o → Except Failure Unit} (next : ∀ seen', Held b seen' → Q seen' ()) :
    spec b policies (Async.attempt o outcome) Q seen :=
  attempt_spec (fun _ => held.cleared) fun r _ _ _ => next _ (held.later other r)

theorem claim_spec (opened : Opened b seen) {Q : List (Obs S3Op.Ret) → Unit → Prop}
    (next : ∀ seen', Held b seen' → Q seen' ()) : spec b policies b.claim Q seen := by
  unfold claim
  refine (Async.wp_bind _ _).mpr (attempt_spec nofun fun r set _ read => ?_)
  split
  · trivial
  · rename_i own
    have held : Held b (seen ++ [⟨.GetBucketTagging b.name b.owner, r⟩]) := by
      refine ⟨opened.later rfl r, r, set, by simp, read, fun ws same => ?_⟩
      rw [same] at own
      simpa using own
    split
    · exact next _ held
    · exact mutate_spec held rfl next

theorem ok_of_unavailable {α : Type} {r : Except String α} {a : α} (h : unavailable r = .ok a) : r = .ok a := by
  cases r with
  | ok a' => exact congrArg Except.ok (Except.ok.inj h)
  | error e => cases h

theorem ok_of_orMissing {α : Type} {code : String} {r : Except String α} {a : α}
    (h : orMissing code r = .ok (some a)) : r = .ok a := by
  cases r with
  | ok a' => exact congrArg Except.ok (Option.some.inj (Except.ok.inj h))
  | error e =>
    simp only [orMissing] at h
    split at h <;> cases h

theorem harden_spec (held : Held b seen) {Q : List (Obs S3Op.Ret) → Unit → Prop}
    (next : ∀ seen', Held b seen' → Q seen' ()) : spec b policies b.harden Q seen := by
  unfold harden
  refine (Async.wp_bind _ _).mpr (mutate_spec held rfl fun s₁ held₁ => ?_)
  refine (Async.wp_bind _ _).mpr (mutate_spec held₁ rfl fun s₂ held₂ => ?_)
  refine (Async.wp_bind _ _).mpr (mutate_spec held₂ rfl fun s₃ held₃ => ?_)
  exact mutate_spec held₃ rfl next

variable [ConditionOperators]

theorem drifted_spec
    (deny : ∀ policy ∈ policies, namesSid policy = true → DeniesInsecureTransport b.arn policy)
    (held : Held b seen) {Q : List (Obs S3Op.Ret) → Bool → Prop} (drift : ∀ seen', Held b seen' → Q seen' true)
    (sound : ∀ seen', Held b seen' → Secured b seen' → Q seen' false) : spec b policies b.drifted Q seen := by
  unfold drifted
  refine (Async.wp_bind _ _).mpr (attempt_spec nofun fun r₁ versioning _ read₁ => ?_)
  have held₁ := held.later rfl r₁
  split
  · exact drift _ held₁
  · rename_i enabled
    refine (Async.wp_bind _ _).mpr (attempt_spec nofun fun r₂ pab _ read₂ => ?_)
    have held₂ := held₁.later rfl r₂
    split
    · exact drift _ held₂
    · rename_i full
      refine (Async.wp_bind _ _).mpr (attempt_spec nofun fun r₃ enc _ read₃ => ?_)
      have held₃ := held₂.later rfl r₃
      split
      · exact drift _ held₃
      · rename_i kms
        refine (Async.wp_bind _ _).mpr (attempt_spec nofun fun r₄ policy given read₄ => ?_)
        have held₄ := held₃.later rfl r₄
        cases policy with
        | none => exact drift _ held₄
        | some policy =>
          obtain rfl := ok_of_orMissing read₄
          change Q _ (!namesSid (policy.getD ""))
          cases named : namesSid (policy.getD "") with
          | false => exact drift _ held₄
          | true =>
            obtain ⟨c, found, fullBlock⟩ := Option.any_eq_true _ _ |>.mp (Bool.eq_true_of_not_eq_false full)
            obtain ⟨rules, rfl, kmsRules⟩ := Option.any_eq_true _ _ |>.mp (Bool.eq_true_of_not_eq_false kms)
            cases policy with
            | none => exact absurd named (by decide)
            | some policy =>
              obtain rfl := ok_of_unavailable read₁
              obtain rfl := Option.join_eq_some_iff.mp found
              obtain rfl := ok_of_orMissing read₂
              obtain rfl := ok_of_orMissing read₃
              refine sound _ held₄ ⟨seen, versioning, c, rules, policy, ?_, not_not.mp enabled, fullBlock, kmsRules,
                deny policy given named⟩
              simp

def Ends (b : Bucket) (seen : List (Obs S3Op.Ret)) (_ : Bool × Bool) : Prop := Secured b seen

theorem settle_spec
    (deny : ∀ policy ∈ policies, namesSid policy = true → DeniesInsecureTransport b.arn policy)
    (opened : Opened b seen) (created : Bool) : spec b policies (b.settle created) (Ends b) seen := by
  unfold settle
  refine (Async.wp_bind _ _).mpr (claim_spec opened fun s₁ held₁ => ?_)
  refine (Async.wp_bind _ _).mpr (drifted_spec deny held₁ (fun s₂ held₂ => ?_) fun s₂ _ secured => secured)
  refine (Async.wp_bind _ _).mpr (harden_spec held₂ fun s₃ held₃ => ?_)
  refine (Async.wp_bind _ _).mpr ((Async.wp_handle _ _).mpr (Async.wp_mono
    (drifted_spec deny held₃ (fun _ _ => trivial) fun _ _ secured => secured) (fun _ _ _ h => h) fun _ _ _ _ => trivial))

theorem ensure_spec
    (deny : ∀ policy ∈ policies, namesSid policy = true → DeniesInsecureTransport b.arn policy) :
    spec b policies b.ensure (Ends b) [] := by
  unfold ensure
  refine (Async.wp_bind _ _).mpr (attempt_spec nofun fun r exists_ _ read => ?_)
  rw [List.nil_append]
  cases r with
  | ok u =>
    obtain rfl := Except.ok.inj read
    exact settle_spec deny (.inr (List.mem_singleton_self _)) false
  | error code =>
    have missing : exists_ = false ∧ Missing (.error code) := by
      simp only [headed] at read
      split at read
      · rename_i absent
        exact ⟨(Except.ok.inj read).symm, absent.imp (congrArg _) (congrArg _)⟩
      · split at read <;> cases read
    obtain ⟨rfl, missing⟩ := missing
    have none : ∀ name owner r, (⟨.HeadBucket name owner, r⟩ : Obs S3Op.Ret) ∈
        [⟨.HeadBucket b.name b.owner, .error code⟩] → Missing r := by
      intro name owner r mem
      cases List.mem_singleton.mp mem
      exact missing
    refine (Async.wp_bind _ _).mpr (attempt_spec (fun _ => .inl none) fun r _ _ _ => ?_)
    exact settle_spec deny (Opened.later (.inl none) rfl r) true

end Programs

section Transcripts

variable {b : Bucket} {policies : Set String}

def sealed : PublicAccessBlock := ⟨some true, some true, some true, some true⟩

def healthy (b : Bucket) (policy : String) : List (Obs S3Op.Ret) :=
  [⟨.HeadBucket b.name b.owner, .ok ()⟩,
    ⟨.GetBucketTagging b.name b.owner, .ok [⟨tagManaged, "true"⟩, ⟨tagWorkspace, b.workspace⟩]⟩,
    ⟨.GetBucketVersioning b.name b.owner, .ok "Enabled"⟩, ⟨.GetPublicAccessBlock b.name b.owner, .ok (some sealed)⟩,
    ⟨.GetBucketEncryption b.name b.owner, .ok [some "aws:kms"]⟩,
    ⟨.GetBucketPolicy b.name b.owner, .ok (some policy)⟩]

theorem healthy_ensures {policy : String} (named : namesSid policy = true) :
    Transcript b.ensure.run (healthy b policy) (.pure (.ok (false, false))) := by
  have claim : Transcript b.claim.run
      [⟨.GetBucketTagging b.name b.owner, .ok [⟨tagManaged, "true"⟩, ⟨tagWorkspace, b.workspace⟩]⟩] (.pure (.ok ())) := by
    have tags : found [⟨tagManaged, "true"⟩, ⟨tagWorkspace, b.workspace⟩] tagWorkspace = some b.workspace ∧
        found [⟨tagManaged, "true"⟩, ⟨tagWorkspace, b.workspace⟩] tagManaged = some "true" := by
      have apart : (tagManaged == tagWorkspace) = false := by decide
      simp [found, List.lookup_cons, apart]
    refine Transcript.andThen (Transcript.attempt (a := [⟨tagManaged, "true"⟩, ⟨tagWorkspace, b.workspace⟩]) rfl) ?_
    rw [tags.1, tags.2, if_neg (by simp), if_pos (by simp)]
    exact .start _
  have drifted : Transcript b.drifted.run (healthy b policy |>.drop 2) (.pure (.ok false)) := by
    refine Transcript.andThen (Transcript.attempt (a := "Enabled") rfl) ?_
    rw [if_neg (by simp)]
    refine Transcript.andThen (Transcript.attempt (a := some (some sealed)) rfl) ?_
    rw [if_neg (by decide)]
    refine Transcript.andThen (Transcript.attempt (a := some [some "aws:kms"]) rfl) ?_
    rw [if_neg (by decide)]
    refine Transcript.andThen (Transcript.attempt (a := some (some policy)) rfl) (?_ : Transcript _ [] _)
    change Transcript (Prog.pure (Except.ok (!namesSid policy))) _ _
    rw [named]
    exact .start _
  refine Transcript.andThen (Transcript.attempt (a := true) rfl) ?_
  rw [if_pos rfl]
  refine Transcript.andThen claim (Transcript.andThen drifted (?_ : Transcript _ [] _))
  exact .start _

theorem denies_of_safe [ConditionOperators]
    (safe : ∀ seen rest, Transcript b.ensure.run seen rest → (∀ obs ∈ seen, Given policies obs) → Safe b seen rest)
    {policy : String} (given : policy ∈ policies) (named : namesSid policy = true) :
    DeniesInsecureTransport b.arn policy := by
  have replies : ∀ obs ∈ healthy b policy, Given policies obs := by
    simp [healthy, Given, given]
  obtain ⟨before, versioning, pab, rules, last, same, -, -, -, denies⟩ :=
    (safe _ _ (healthy_ensures named) replies).success _ rfl
  have ends := congrArg List.getLast? same
  simp only [healthy, List.getLast?_append, List.getLast?_cons_cons, List.getLast?_singleton] at ends
  cases Option.some.inj ends
  exact denies

theorem state_bucket_safe_iff [ConditionOperators] (b : Bucket) (policies : Set String) :
    (∀ seen rest, Transcript b.ensure.run seen rest → (∀ obs ∈ seen, Given policies obs) → Safe b seen rest) ↔
      ∀ policy ∈ policies, namesSid policy = true → DeniesInsecureTransport b.arn policy := by
  constructor
  · intro safe policy given named
    exact denies_of_safe safe given named
  · intro deny seen rest ran replies
    have holds := ran.wp (ensure_spec deny) replies
    constructor
    · rintro o k rfl mutates
      exact holds.1 mutates
    · rintro outcome rfl
      exact holds

end Transcripts

section Example

open JsText (toList_append)

def stateBucket : Bucket :=
  ⟨"provisr-state", "123456789012", "us-east-1", "05a0cb9b-6793-4d47-ac80-c37916dc7b57", "aws"⟩

def objectsOnly : String :=
  "\x7b\"Version\":\"2012-10-17\",\"Statement\":[\x7b\"Sid\":\"ProvisrDenyInsecureTransport\",\"Effect\":\"Deny\"," ++
    "\"Principal\":\"*\",\"Action\":\"s3:*\",\"Resource\":\"arn:aws:s3:::provisr-state/*\"," ++
    "\"Condition\":\x7b\"Bool\":\x7b\"aws:SecureTransport\":\"false\"\x7d\x7d\x7d]\x7d"

def listing : PolicyRequest :=
  ⟨"arn:aws:iam::123456789012:user/dev", "s3:ListBucket", "arn:aws:s3:::provisr-state",
    fun key => if key = "aws:securetransport" then some "false" else none⟩

abbrev noOperators : ConditionOperators := ⟨fun _ _ _ _ => false⟩

theorem objectsOnly_allows : namesSid objectsOnly = true ∧
    letI := noOperators
    Policy.Denied objectsOnly listing = false := by
  have chars : objectsOnly.toList = _ :=
    toList_append (toList_append String.toList_ofList String.toList_ofList) String.toList_ofList
  constructor
  · unfold namesSid Contains policySid
    rw [chars, toList_append (toList_append String.toList_ofList String.toList_ofList) String.toList_ofList]
    decide
  · unfold Policy.Denied JsonReader.read
    rw [chars]
    decide +kernel

theorem state_bucket_unsafe :
    ¬ ∀ [ConditionOperators] (b : Bucket) (seen : List (Obs S3Op.Ret))
      (rest : Prog S3Op.Ret (Except Failure (Bool × Bool))), Transcript b.ensure.run seen rest → Safe b seen rest := by
  intro claim
  let _ : ConditionOperators := noOperators
  obtain ⟨named, allowed⟩ := objectsOnly_allows
  have safe : ∀ seen rest, Transcript stateBucket.ensure.run seen rest → (∀ obs ∈ seen, Given {objectsOnly} obs) →
      Safe stateBucket seen rest := fun seen rest ran _ => claim stateBucket seen rest ran
  have denies := denies_of_safe safe rfl named
  have denied := denies listing (by decide) (.inl (by decide)) (by decide)
  rw [allowed] at denied
  cases denied

end Example

end Provisr.StateBackend.Bucket
