import Provisr.Foundation.StableSchemas

namespace Provisr.Orchestrator.Payloads

open Provisr.Foundation JsTree

section Fields

def text : Schema := .text .any

def nonempty : Schema := .text .nonempty

def anyNumber : Schema := .number fun _ => true

def enum (values : List String) : Schema := .text (.checked fun s => values.contains s)

def providers : List String := ["aws", "azure", "gcp"]

def list (s : Schema) : Schema := .array s 0 none

def required (key : String) (s : Schema) : Field := ⟨key, s, .required⟩

def optional (key : String) (s : Schema) : Field := ⟨key, s, .optional⟩

def flagOr (key : String) (b : Bool) : Field := ⟨key, .boolean, .default (.bool b) trivial⟩

def textOr (key : String) (s : Schema) (t : String) : Field := ⟨key, s, .default (.str t) trivial⟩

def numberOr (key : String) (s : Schema) (n : Nat) : Field := ⟨key, s, .default (.num (.finite (.ofNat n))) trivial⟩

def listOr (key : String) (s : Schema) : Field := ⟨key, list s, .default (.arr []) trivial⟩

end Fields

section Numbers

def atLeast (n : Nat) (x : Float64) : Bool := Float64.le (.finite (.ofNat n)) x

def atMost (n : Nat) (x : Float64) : Bool := x.le (.finite (.ofNat n))

def positive (x : Float64) : Bool := !x.le (.finite 0)

-- z.number().finite().nonnegative()
def amount : Schema := .number fun x => x.isFinite && atLeast 0 x

-- z.number().int().min(n)
def integer (n : Nat) : Schema := .number fun x => x.isInteger && atLeast n x

def port : Schema := .number fun x => x.isInteger && atLeast 1 x && atMost 65535 x

def numberAt (out : Properties) (key : String) : Option Float64 :=
  match out.lookup key with
  | some (.num n) => some n
  | _ => none

def textAt (out : Properties) (key : String) : Option String :=
  match out.lookup key with
  | some (.str s) => some s
  | _ => none

def ordered (low high : String) (out : Properties) : Bool :=
  match numberAt out low, numberAt out high with
  | some m, some n => m.le n
  | _, _ => true

end Numbers

def approvalRequestSchema : Schema := .object
  { fields := [required "requestId" text, required "status" (enum ["pending", "approved", "rejected", "expired"]),
      required "reason" text, optional "requiredApprovers" (list text), flagOr "autoApprovalEligible" false,
      optional "expiresAt" text] }

def architectureSummarySchema : Schema := .object
  { fields := [optional "title" text, textOr "provider" (enum ["aws", "azure", "gcp", "unknown"]) "unknown",
      required "region" text, required "environment" text, optional "estimatedCostUsd" anyNumber,
      required "resources" (list (.object
        { fields := [required "id" text, required "name" text, required "type" text, optional "tier" text,
            optional "properties" (.record text)] })),
      optional "highlights" (list text)] }

def artifactViewerSchema : Schema := .object
  { fields := [required "id" text, required "title" text,
      required "type" (enum ["manifest", "terraform", "diagram", "cost_report", "policy_report"]), optional "url" text,
      optional "content" text, optional "sizeBytes" anyNumber] }

def chatMessageSchema : Schema := .object
  { fields := [required "id" text, required "role" (enum ["user", "assistant", "system"]), required "content" text,
      optional "senderName" text, optional "createdAt" text,
      optional "status" (enum ["sending", "sent", "complete", "failed"]),
      optional "toolSummary" (.object
        { fields := [required "toolName" text, optional "durationMs" anyNumber, optional "result" text] })] }

-- z.union([z.string(), z.array(z.string())])
def selected : Schema := .union text (list text) rfl fun run => by
  obtain ⟨xs, vs, rfl, rfl, -⟩ := parseArray_iff.mp run
  rfl

def clarificationQuestionSchema : Schema := .object
  { fields := [required "id" text, required "question" text, optional "description" text,
      required "inputType" (enum ["single_select", "multi_select", "text", "confirmation"]),
      optional "options" (list (.object
        { fields := [required "label" text, required "value" text, optional "description" text] })),
      optional "selected" selected, optional "answered" .boolean] }

def cloudStateSchema : Schema := .object
  { fields := [required "cloudAccountId" text, required "provider" (enum providers), required "syncedAt" text,
      required "totalResources" anyNumber, required "healthyCount" anyNumber, required "unhealthyCount" anyNumber] }

def computePlanSchema : Schema := .object
  { fields := [required "service" text, optional "provider" (enum providers), optional "instanceType" text,
      numberOr "replicaCount" anyNumber 1,
      optional "autoScaling" (.object
        { fields := [required "min" .coerced, required "max" .coerced, optional "desired" .coerced,
            optional "targetCpuUtilization" .coerced]
          test := ordered "min" "max" }),
      optional "os" text, optional "architecture" (enum ["x86_64", "arm64"]), optional "vcpu" .coerced,
      optional "memoryGb" .coerced, optional "hourlyCostUsd" .coerced, optional "monthlyCostUsd" .coerced,
      optional "reservation" (enum ["reserved", "on-demand", "spot"]), optional "policyNotes" (list text)] }

def containerCardSchema : Schema := .object
  { fields := [required "image" text, optional "tag" text, required "port" anyNumber,
      optional "environmentVariables" (.record text), optional "cpu" text, optional "memory" text,
      optional "healthCheckPath" text] }

section CostEstimate

def costBreakdownByServiceSchema : Schema := .object
  { fields := [required "service" nonempty, required "monthly_cost" amount,
      required "percentage" (.number fun x => x.isFinite && atLeast 0 x && atMost 100 x)] }

def legacyCostBreakdownSchema : Schema := .object
  { fields := [required "category" text, required "serviceName" text, required "costUsd" amount, optional "unit" text] }

def isLetter (c : Char) : Bool := JsText.isLower c || JsText.isUpper c

def isCode (cs : List Char) : Bool := cs.length == 3 && cs.all isLetter

theorem letter_ascii {c : Char} (letter : isLetter c = true) : c.toNat < 128 := by
  simp only [isLetter, JsText.isLower, JsText.isUpper, Bool.or_eq_true, Bool.and_eq_true, decide_eq_true_eq,
    Char.le_def, UInt32.le_iff_toNat_le] at letter
  change c.val.toNat < 128
  rcases letter with ⟨-, below⟩ | ⟨-, below⟩
  · exact below.trans_lt (by decide)
  · exact below.trans_lt (by decide)

theorem letter_upper {c : Char} (letter : isLetter c = true) :
    isLetter c.toUpper = true ∧ c.toUpper.toUpper = c.toUpper := by
  have ascii : ∀ n < 128, isLetter (Char.ofNat n) = true →
      isLetter (Char.ofNat n).toUpper = true ∧ (Char.ofNat n).toUpper.toUpper = (Char.ofNat n).toUpper := by decide
  have known := ascii c.toNat (letter_ascii letter)
  rw [Char.ofNat_toNat] at known
  exact known letter

theorem isCode_upper {cs : List Char} (code : isCode cs = true) : isCode (cs.map Char.toUpper) = true := by
  unfold isCode at code ⊢
  rw [Bool.and_eq_true, List.all_eq_true] at code ⊢
  rw [List.length_map]
  exact ⟨code.1, List.forall_mem_map.mpr fun c mem => (letter_upper (code.2 c mem)).1⟩

theorem storable_code {s : String} (code : isCode s.toList = true) : Json.storableText s = true := by
  unfold isCode at code
  rw [Bool.and_eq_true, List.all_eq_true] at code
  unfold Json.storableText
  rw [Bool.not_eq_true', List.contains_eq_mem, decide_eq_false_iff_not]
  intro mem
  exact absurd (code.2 _ mem) (by decide)

-- z.string().regex(/^[A-Za-z]{3}$/), transformed to upper case
def currency : TextRule where
  read s := if isCode s.toList = true then some (String.ofList (s.toList.map Char.toUpper)) else none
  again run := by
    obtain ⟨code, ⟨⟩⟩ := Option.ite_none_right_eq_some.mp run
    have letters := List.all_eq_true.mp (Bool.and_eq_true_iff.mp code).2
    rw [String.toList_ofList, if_pos (isCode_upper code), List.map_map]
    have same := List.map_congr_left fun c mem => (letter_upper (letters c mem)).2
    exact congrArg (fun cs => some (String.ofList cs)) same
  stored run := by
    obtain ⟨code, ⟨⟩⟩ := Option.ite_none_right_eq_some.mp run
    rw [storable_code code, storable_code (by rw [String.toList_ofList]; exact isCode_upper code)]

-- !unit || /^(month|mo)$/i.test(unit.trim())
def isMonthly (unit : Option String) : Bool :=
  unit.all fun s =>
    let word := (JsText.trim s).toList.map Char.toLower
    s == "" || word == "month".toList || word == "mo".toList

def present (fs : List (String × Option JsTree)) : Properties := fs.filterMap fun f => f.2.map (Prod.mk f.1)

def percentage (cost total : Option Float64) (unit : Option String) : Option JsTree :=
  match cost, total with
  | some c, some t =>
    if isMonthly unit = true then
      some (.num (if positive t = true then (c.div t).mul (.finite (.ofNat 100)) else .finite 0))
    else none
  | _, _ => none

def total (out : Properties) : Option JsTree := (out.lookup "total_monthly_estimate").or (out.lookup "monthlyTotalUsd")

def totalNumber (out : Properties) : Option Float64 :=
  (numberAt out "total_monthly_estimate").or (numberAt out "monthlyTotalUsd")

def service (out : Properties) : JsTree → JsTree
  | .obj item => .obj (Json.sortFields id (present
      [("service", item.lookup "serviceName"), ("monthly_cost", item.lookup "costUsd"), ("unit", item.lookup "unit"),
        ("percentage", percentage (numberAt item "costUsd") (totalNumber out) (textAt item "unit"))]))
  | item => item

def services (out : Properties) : Option JsTree :=
  match out.lookup "breakdown_by_service" with
  | some byService => some byService
  | none =>
    match out.lookup "breakdown" with
    | some (.arr items) => some (.arr (items.map (service out)))
    | _ => some (.arr [])

def freshnessNote (out : Properties) : Option JsTree := (out.lookup "freshness_note").or (out.lookup "freshness")

theorem mem_present {fs : List (String × Option JsTree)} {e : String × JsTree} :
    e ∈ present fs ↔ ∃ f ∈ fs, f.2 = some e.2 ∧ f.1 = e.1 := by
  unfold present
  simp only [List.mem_filterMap, Option.map_eq_some_iff]
  constructor
  · rintro ⟨f, mem, v, given, rfl⟩
    exact ⟨f, mem, given, rfl⟩
  · rintro ⟨f, mem, given, same⟩
    exact ⟨f, mem, e.2, given, by rw [same]⟩

theorem normal_lookup {out : Properties} {k : String} {v : JsTree} (found : out.lookup k = some v)
    (normal : Json.NormalFields id out) : Json.Normal id v :=
  Json.normalFields_iff.mp normal _ (Json.mem_of_lookup found)

theorem storable_lookup {out : Properties} {k : String} {v : JsTree} (found : out.lookup k = some v)
    (stored : Json.storableFields out = true) : Json.storable v = true :=
  (Json.storableFields_iff.mp stored _ (Json.mem_of_lookup found)).2

theorem percentage_number {cost total : Option Float64} {unit : Option String} {v : JsTree}
    (computed : percentage cost total unit = some v) : ∃ n, v = .num n := by
  unfold percentage at computed
  split at computed
  · obtain ⟨-, ⟨⟩⟩ := Option.ite_none_right_eq_some.mp computed
    exact ⟨_, rfl⟩
  · cases computed

theorem normal_service {out : Properties} {item : JsTree} (normal : Json.Normal id item) :
    Json.Normal id (service out item) := by
  cases item with
  | obj item =>
    refine ⟨Json.ordered_sortFields Function.injective_id _, Json.normalFields_iff.mpr fun e mem => ?_⟩
    obtain ⟨f, inside, given, -⟩ := mem_present.mp (Json.mem_sortFields mem)
    simp only [List.mem_cons, List.not_mem_nil, or_false] at inside
    rcases inside with rfl | rfl | rfl | rfl
    · exact normal_lookup given normal.2
    · exact normal_lookup given normal.2
    · exact normal_lookup given normal.2
    · obtain ⟨n, same⟩ := percentage_number given
      rw [same]
      trivial
  | _ => exact normal

theorem storable_service {out : Properties} {item : JsTree} (stored : Json.storable item = true) :
    Json.storable (service out item) = true := by
  cases item with
  | obj item =>
    refine Json.storableFields_iff.mpr fun e mem => ?_
    obtain ⟨f, inside, given, same⟩ := mem_present.mp (Json.mem_sortFields mem)
    have keyed : ["service", "monthly_cost", "unit", "percentage"].all Json.storableText = true := by decide
    simp only [List.all_cons, Bool.and_eq_true] at keyed
    obtain ⟨service, monthlyCost, unit, percentage, -⟩ := keyed
    simp only [List.mem_cons, List.not_mem_nil, or_false] at inside
    rw [← same]
    rcases inside with rfl | rfl | rfl | rfl
    · exact ⟨service, storable_lookup given stored⟩
    · exact ⟨monthlyCost, storable_lookup given stored⟩
    · exact ⟨unit, storable_lookup given stored⟩
    · obtain ⟨n, number⟩ := percentage_number given
      rw [number]
      exact ⟨percentage, rfl⟩
  | _ => exact stored

theorem normal_services {out : Properties} {items : List JsTree} (normal : Json.NormalItems id items) :
    Json.NormalItems id (items.map (service out)) := by
  induction items with
  | nil => trivial
  | cons item items ih => exact ⟨normal_service normal.1, ih normal.2⟩

theorem services_cases {out : Properties} {v : JsTree} (computed : services out = some v) :
    out.lookup "breakdown_by_service" = some v ∨ v = .arr [] ∨
      ∃ items, out.lookup "breakdown" = some (.arr items) ∧ v = .arr (items.map (service out)) := by
  unfold services at computed
  split at computed
  · rename_i byService
    cases computed
    exact .inl byService
  · split at computed
    · rename_i items legacy
      cases computed
      exact .inr (.inr ⟨items, legacy, rfl⟩)
    · cases computed
      exact .inr (.inl rfl)

def eitherExtra (key first second : String) : Extra where
  key := key
  compute out := (out.lookup first).or (out.lookup second)
  normal computed normal := by
    rcases Option.or_eq_some_iff.mp computed with found | ⟨-, found⟩
    · exact normal_lookup found normal
    · exact normal_lookup found normal
  stored computed stored := by
    rcases Option.or_eq_some_iff.mp computed with found | ⟨-, found⟩
    · exact storable_lookup found stored
    · exact storable_lookup found stored

def servicesExtra : Extra where
  key := "services"
  compute := services
  normal computed normal := by
    rcases services_cases computed with found | rfl | ⟨items, found, rfl⟩
    · exact normal_lookup found normal
    · trivial
    · exact normal_services (normal_lookup found normal)
  stored computed stored := by
    rcases services_cases computed with found | rfl | ⟨items, found, rfl⟩
    · exact storable_lookup found stored
    · rfl
    · have each := Json.storableItems_iff.mp (storable_lookup found stored)
      refine Json.storableItems_iff.mpr (List.forall_mem_map.mpr fun item mem => storable_service (each item mem))

-- superRefine: a complete estimate has a total.
def complete (out : Properties) : Bool :=
  textAt out "state" != some "default" || (out.lookup "total_monthly_estimate").isSome ||
    (out.lookup "monthlyTotalUsd").isSome

def costEstimateSchema : Schema := .object
  { fields := [textOr "currency" (.text currency) "USD", optional "total_monthly_estimate" amount,
      optional "monthlyTotalUsd" amount, optional "breakdown_by_service" (list costBreakdownByServiceSchema),
      optional "breakdown" (list legacyCostBreakdownSchema), listOr "assumptions" text,
      optional "confidence" (enum ["low", "medium", "high"]), optional "pricing_source" text,
      optional "freshness_note" text, optional "freshness" text, optional "cost_approval_threshold" amount,
      flagOr "requires_approval" false, textOr "state" (enum ["default", "loading", "partial"]) "default",
      optional "partial_reasons" (list text), optional "previousMonthlyCostUsd" amount,
      optional "deltaPercentage" (.number Float64.isFinite)]
    test := complete
    extras := [eitherExtra "totalMonthlyEstimate" "total_monthly_estimate" "monthlyTotalUsd", servicesExtra,
      eitherExtra "freshnessNote" "freshness_note" "freshness"] }

end CostEstimate

def databaseConfigSchema : Schema := .object
  { fields := [required "engine" nonempty, optional "version" text, optional "instanceClass" text,
      required "allocatedStorageGb" (.number positive), optional "maxAllocatedStorageGb" (.number positive),
      optional "storageType" text, flagOr "multiAz" false, required "backupRetentionDays" (integer 0),
      optional "maintenanceWindow" text, required "storageEncrypted" .boolean, required "publiclyAccessible" .boolean,
      required "deletionProtection" .boolean]
    test := ordered "allocatedStorageGb" "maxAllocatedStorageGb" }

def databaseEngineSelectorSchema : Schema := .object
  { fields := [required "runId" nonempty, required "provider" (enum providers), optional "recommendedEngine" text,
      optional "selectedEngine" text, optional "reasoning" text,
      required "availableEngines" (.array (.object
        { fields := [required "engine" nonempty, required "displayName" nonempty, required "version" nonempty,
            required "supported" .boolean, listOr "managedServices" text, optional "bestFor" text] }) 1 none)] }

def driftStatusSchema : Schema := .object
  { fields := [required "hasDrift" .boolean, required "lastCheckedAt" text,
      optional "driftedResources" (list (.object
        { fields := [required "resourceId" text, optional "resourceName" text, required "resourceType" text,
            required "property" text, required "expectedValue" text, required "actualValue" text] }))] }

def executionTimelineSchema : Schema := .object
  { fields := [required "currentStep" text,
      required "steps" (list (.object
        { fields := [required "id" text, required "name" text,
            required "status" (enum ["pending", "running", "succeeded", "failed", "skipped"]),
            optional "durationMs" anyNumber, optional "startedAt" text, optional "completedAt" text] }))] }

def loadbalancerCardSchema : Schema := .object
  { fields := [required "name" nonempty, required "lbType" (enum ["ALB", "NLB", "AGW"]),
      required "scheme" (enum ["internet-facing", "internal"]),
      required "listeners" (list (.object
        { fields := [required "port" port, required "protocol" nonempty, optional "sslPolicy" text,
            optional "targetGroup" text] })),
      listOr "targetGroups" (.object
        { fields := [required "name" nonempty, required "protocol" nonempty, required "port" port,
            optional "healthCheckPath" text, optional "interval" (.number positive)] }),
      optional "publicExposure" .boolean, optional "approvalNote" text, listOr "policyNotes" text] }

def notificationTargetSchema : Schema := .object
  { fields := [required "type" (enum ["sns", "email", "webhook"]), required "destination" nonempty] }

def monitoringCardSchema : Schema := .object
  { fields := [required "logGroupNames" (list nonempty), listOr "metricNamespaces" nonempty,
      required "alarmCount" (integer 0),
      required "retentionDays" (.number fun x => x.isInteger && positive x),
      listOr "notificationTargets" notificationTargetSchema, listOr "policyNotes" text] }

def firewallRuleSchema : Schema := .object
  { fields := [required "direction" (enum ["ingress", "egress"]), required "protocol" text, required "portRange" text,
      optional "source" text, optional "destination" text] }

def networkingTopologySchema : Schema := .object
  { fields := [optional "vpcName" text, required "vpcCidr" text,
      required "subnets" (list (.object
        { fields := [required "name" text, required "cidr" text,
            required "type" (enum ["public", "private", "isolated"]), optional "zone" text] })),
      optional "natGateway" .boolean, optional "internetGateway" .boolean,
      optional "securityGroups" (list (.object
        { fields := [required "name" text, optional "rulesCount" .coerced,
            optional "rules" (list firewallRuleSchema)] }))] }

def policyResultSchema : Schema := .object
  { fields := [required "status" (enum ["passed", "failed", "warning", "pending"]), optional "packName" text,
      required "evaluatedCount" anyNumber, required "passedCount" anyNumber,
      optional "violations" (list (.object
        { fields := [required "ruleId" text, required "severity" (enum ["critical", "high", "medium", "low"]),
            required "message" text, optional "remediation" text] }))] }

def regionOptionSchema : Schema := .object
  { fields := [required "id" nonempty, required "name" nonempty, optional "latencyMs" amount,
      optional "complianceCompliant" .boolean, flagOr "available" true, flagOr "restrictedByPolicy" false] }

def regionSelectorSchema : Schema := .object
  { fields := [required "provider" (enum providers), required "selectedRegion" text,
      required "availableRegions" (list regionOptionSchema),
      optional "providers" (list (.object
        { fields := [required "provider" (enum providers), optional "selectedRegion" text,
            required "availableRegions" (list regionOptionSchema)] })),
      optional "loading" .boolean, optional "reasoning" text] }

def resourceTableSchema : Schema := .object
  { fields := [optional "title" text, optional "columns" (list text),
      required "rows" (list (.object
        { fields := [required "id" nonempty, required "name" nonempty, required "type" nonempty,
            required "provider" nonempty, required "status" nonempty, optional "monthlyCostUsd" anyNumber,
            optional "region" text, listOr "dependsOn" text, numberOr "warningCount" (integer 0) 0,
            optional "spec" (.record .unknown)] }))] }

def securityFinding : Shape where
  fields := [required "title" (.text (.trimmed 256)), required "severity" (enum ["critical", "high", "medium", "low"]),
    required "description" (.text (.trimmed 4000)), optional "affectedResource" (.text (.trimmed 256)),
    optional "suggestedFix" (.text (.trimmed 2000)),
    optional "mitigationSteps" (.array (.text (.trimmed 2000)) 0 (some 30))]
  strict := true

def securityFindingSchema : Schema := .object securityFinding

def securityFindings : Shape where
  fields := [required "findings" (.array securityFindingSchema 0 (some 200))]
  strict := true

def securityWarningSchema : Schema := .union (.object securityFindings) securityFindingSchema rfl fun run =>
  Shape.apart (a := securityFindings) List.mem_cons_self rfl (by decide) rfl run

def storageCardSchema : Schema := .object
  { fields := [required "bucketName" text, optional "storageClass" text, flagOr "versioning" false,
      optional "encryption" text, flagOr "publicAccessBlocked" true, optional "lifecycleRulesCount" anyNumber] }

def terraformPlanDiffSchema : Schema := .object
  { fields := [required "addCount" anyNumber, required "changeCount" anyNumber, required "destroyCount" anyNumber,
      required "changes" (list (.object
        { fields := [required "resourceType" text, required "resourceName" text,
            required "action" (enum ["create", "update", "delete", "no-op"]), optional "details" text] }))] }

def terraformReviewSchema : Schema := .object
  { fields := [required "moduleName" text, required "provider" text, optional "version" text,
      required "codeSnippet" text, optional "summary" text,
      optional "files" (list (.object { fields := [required "filename" text, required "linesCount" anyNumber] }))] }

def componentSchemas : List (String × Schema) :=
  [("approval_request", approvalRequestSchema), ("architecture_summary", architectureSummarySchema),
    ("artifact_viewer", artifactViewerSchema), ("chat_message", chatMessageSchema),
    ("clarification_question", clarificationQuestionSchema), ("cloud_state", cloudStateSchema),
    ("compute_plan", computePlanSchema), ("container_card", containerCardSchema),
    ("cost_estimate", costEstimateSchema), ("database_config", databaseConfigSchema),
    ("database_engine_selector", databaseEngineSelectorSchema), ("drift_status", driftStatusSchema),
    ("execution_timeline", executionTimelineSchema), ("loadbalancer_card", loadbalancerCardSchema),
    ("monitoring_card", monitoringCardSchema), ("networking_topology", networkingTopologySchema),
    ("policy_result", policyResultSchema), ("region_selector", regionSelectorSchema),
    ("resource_table", resourceTableSchema), ("security_warning", securityWarningSchema),
    ("storage_card", storageCardSchema), ("terraform_plan_diff", terraformPlanDiffSchema),
    ("terraform_review", terraformReviewSchema)]

end Provisr.Orchestrator.Payloads
