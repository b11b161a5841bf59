import Provisr.Foundation.Regex
import Provisr.Foundation.Pydantic
import Provisr.Foundation.PyRegex

namespace Provisr.Contracts

open Provisr.Foundation Regex

section Common

def nonblank (s : String) : Bool := PyText.strip s != ""

-- A text field of a strict model: its length in code points, its pattern, and that it is not blank.
def textual (low : Nat) (high : Option Nat) (pattern : String → Bool) (s : String) : Bool :=
  low ≤ s.length && high.all (s.length ≤ ·) && pattern s && nonblank s

def unrestricted (_ : String) : Bool := true

-- ^[a-zA-Z][a-zA-Z0-9_-]{0,63}$
def logicalName : Regex := cat [chars (ranges letter ""), between 0 63 (chars (ranges alnum "_-"))]

def isLogicalName (s : String) : Bool := textual 0 none logicalName.accepts s

def inRange (low high n : Int) : Bool := low ≤ n && n ≤ high

def sized {α : Type} (low high : Nat) (xs : List α) : Bool := low ≤ xs.length && xs.length ≤ high

inductive Comparison where
  | greaterThan
  | greaterThanOrEqual
  | lessThan
  | lessThanOrEqual
  deriving DecidableEq, Repr

def Comparison.label : Comparison → String
  | .greaterThan => "greater_than"
  | .greaterThanOrEqual => "greater_than_or_equal"
  | .lessThan => "less_than"
  | .lessThanOrEqual => "less_than_or_equal"

def comparisons : List (String × Comparison) :=
  [("greater_than", .greaterThan), ("greater_than_or_equal", .greaterThanOrEqual), ("less_than", .lessThan),
    ("less_than_or_equal", .lessThanOrEqual)]

inductive MissingData where
  | breaching
  | notBreaching
  | ignore
  | missing
  deriving DecidableEq, Repr

def MissingData.label : MissingData → String
  | .breaching => "breaching"
  | .notBreaching => "not_breaching"
  | .ignore => "ignore"
  | .missing => "missing"

def missingData : List (String × MissingData) :=
  [("breaching", .breaching), ("not_breaching", .notBreaching), ("ignore", .ignore), ("missing", .missing)]

def isNonEmpty : String → Bool := textual 1 (some 1024) unrestricted

def positive (n : Int) : Bool := 1 ≤ n

def text (test : String → Bool) : Codec (Such test) := Codec.strictStr.refine test

def number (test : Int → Bool) : Codec (Such test) := Codec.strictInt.refine test

def sizedList {α : Type} (low high : Nat) (c : Codec α) : Codec (Such (sized (α := α) low high)) :=
  (Codec.strictList c).refine (sized low high)

section Literals

variable [Pydantic]

def tag (name : String) : Codec Unit := Codec.literal [(name, ())] (fun _ => name) (by simp)

def comparisonType : Codec Comparison := Codec.literal comparisons Comparison.label (by decide)

def missingDataType : Codec MissingData := Codec.literal missingData MissingData.label (by decide)

end Literals

end Common

variable [Pydantic]

section Aws

def partition : Regex := opt (oneOf [lit "-us-gov", lit "-cn"])

def account : Regex := exactly 12 digit

def manifestRef : Regex := cat [lit "manifest:", between 1 512 (chars (ranges alnum "_.-"))]

def isAwsResourceRef : String → Bool :=
  textual 0 none (oneOf [manifestRef,
    cat [lit "arn:aws", partition, lit ":", plus (chars (ranges lowerDigit "-")), lit ":",
      star (chars (ranges lowerDigit "-")), lit ":", account, lit ":", plus dark],
    cat [lit "arn:aws", partition, lit ":s3:::", chars (ranges lowerDigit ""),
      between 1 61 (chars (ranges lowerDigit ".-")), chars (ranges lowerDigit "")]]).accepts

def isSnsTarget : String → Bool :=
  textual 0 none (cat [lit "arn:aws", partition, lit ":sns:", plus (chars (ranges lowerDigit "-")), lit ":", account,
    lit ":", between 1 256 (chars (ranges alnum "_-")), opt (lit ".fifo")]).accepts

-- ^[.\-_/#a-zA-Z0-9]+$, and outside the reserved prefix
def isLogGroupName (s : String) : Bool :=
  textual 1 (some 512) (plus (chars (ranges alnum ".-_/#"))).accepts s && !"aws/".toList.isPrefixOf s.toList

def retentionDays : List Int :=
  [1, 3, 5, 7, 14, 30, 60, 90, 120, 150, 180, 365, 400, 545, 731, 1096, 1827, 2192, 2557, 2922, 3288, 3653]

def isInt : PyValue → Bool
  | .int _ => true
  | _ => false

structure AwsLogGroup where
  name : Such isLogGroupName
  resourceRefs : Such (sized (α := Such isAwsResourceRef) 1 100)
  retentionDays : Option (Such retentionDays.contains)

def AwsLogGroup.fields : Fields AwsLogGroup :=
  ((((Fields.field "name" (text isLogGroupName)).and
    (Fields.field "resource_refs" (sizedList 1 100 (text isAwsResourceRef)))).and
    (Fields.field "type" (tag "aws_cloudwatch_log_group"))).and
    (Fields.field "retention_days"
      (((Codec.literalInt Contracts.retentionDays).before isInt fun _ => rfl).optional nofun))).iso
    (fun (((name, refs), _), days) => ⟨name, refs, days⟩) (fun r => (((r.name, r.resourceRefs), ()), r.retentionDays))
    fun _ => rfl

inductive Statistic where
  | average
  | sum
  | minimum
  | maximum
  | sampleCount
  deriving DecidableEq, Repr

def Statistic.label : Statistic → String
  | .average => "Average"
  | .sum => "Sum"
  | .minimum => "Minimum"
  | .maximum => "Maximum"
  | .sampleCount => "SampleCount"

def statistics : List (String × Statistic) :=
  [("Average", .average), ("Sum", .sum), ("Minimum", .minimum), ("Maximum", .maximum), ("SampleCount", .sampleCount)]

def isControl (c : Char) : Bool := c.toNat < 32

def isDimension (d : String × String) : Bool :=
  1 ≤ d.1.length && d.1.length ≤ 255 && 1 ≤ d.2.length && d.2.length ≤ 1024 && !":".toList.isPrefixOf d.1.toList &&
    nonblank d.1 && nonblank d.2 && !(d.1.toList ++ d.2.toList).any isControl

def areDimensions (ds : List (String × String)) : Bool := sized 1 30 ds && ds.all isDimension

structure AwsMetric where
  name : Such isLogicalName
  resourceRef : Such isAwsResourceRef
  metricName : Such (textual 1 (some 255) (plus (printable "")).accepts)
  namespace_ : Such (textual 1 (some 255) (plus (printable ":")).accepts)
  dimensions : Such areDimensions
  statistic : Statistic
  storageResolutionSeconds : Such (α := Int) [1, 60].contains

def AwsMetric.fields : Fields AwsMetric :=
  ((((((((Fields.field "name" (text isLogicalName)).and
    (Fields.field "resource_ref" (text isAwsResourceRef))).and
    (Fields.field "metric_name" (text _))).and
    (Fields.field "type" (tag "aws_cloudwatch_metric"))).and
    (Fields.field "namespace" (text _))).and
    (Fields.field "dimensions" ((Codec.strictDict Codec.strictStr).refine areDimensions))).and
    (Fields.field "statistic" (Codec.literal statistics Statistic.label (by decide)))).and
    (Fields.field "storage_resolution_seconds" ((Codec.literalInt [1, 60]).before isInt fun _ => rfl))).iso
    (fun (((((((name, ref), metric), _), space), dimensions), statistic), resolution) =>
      ⟨name, ref, metric, space, dimensions, statistic, resolution⟩)
    (fun r => (((((((r.name, r.resourceRef), r.metricName), ()), r.namespace_), r.dimensions), r.statistic),
      r.storageResolutionSeconds))
    fun _ => rfl

-- period_seconds: 10, 20, 30 or a multiple of 60
def isPeriod (n : Int) : Bool := inRange 10 86400 n && ([10, 20, 30].contains n || n % 60 == 0)

structure AwsAlarmFields where
  name : Such (textual 1 (some 255) (plus (printable "")).accepts)
  metricRef : Such isLogicalName
  threshold : PyFloat
  comparison : Comparison
  missingData : MissingData
  periodSeconds : Such isPeriod
  evaluationPeriods : Such positive
  datapointsToAlarm : Such positive
  notificationTargetRefs : Such (sized (α := Such isSnsTarget) 1 5)

def AwsAlarmFields.window (a : AwsAlarmFields) : Bool :=
  decide (a.periodSeconds.val * a.evaluationPeriods.val ≤ if a.periodSeconds.val < 3600 then 86400 else 604800) &&
    decide (a.datapointsToAlarm.val ≤ a.evaluationPeriods.val)

abbrev AwsAlarm := Such AwsAlarmFields.window

def AwsAlarm.fields : Fields AwsAlarm :=
  (((((((((((Fields.field "name" (text _)).and
    (Fields.field "metric_ref" (text isLogicalName))).and
    (Fields.field "threshold" Codec.strictFloat)).and
    (Fields.field "comparison" comparisonType)).and
    (Fields.field "missing_data" missingDataType)).and
    (Fields.field "type" (tag "aws_cloudwatch_alarm"))).and
    (Fields.field "period_seconds" (number isPeriod))).and
    (Fields.field "evaluation_periods" (number positive))).and
    (Fields.field "datapoints_to_alarm" (number positive))).and
    (Fields.field "notification_target_refs" (sizedList 1 5 (text isSnsTarget)))).iso
    (fun (((((((((name, ref), threshold), comparison), data), _), period), periods), points), targets) =>
      (⟨name, ref, threshold, comparison, data, period, periods, points, targets⟩ : AwsAlarmFields))
    (fun r => (((((((((r.name, r.metricRef), r.threshold), r.comparison), r.missingData), ()), r.periodSeconds),
      r.evaluationPeriods), r.datapointsToAlarm), r.notificationTargetRefs))
    fun _ => rfl).refine AwsAlarmFields.window

end Aws

section Azure

def uuidPattern : Regex :=
  cat [exactly 8 hex, lit "-", exactly 4 hex, lit "-", exactly 4 hex, lit "-", exactly 4 hex, lit "-", exactly 12 hex]

-- [^/\s]
def isSegment (c : Char) : Bool := isDark c && c != '/'

def segment : Regex := chars isSegment

def isAzureResourceRef : String → Bool :=
  textual 0 none (oneOf [manifestRef,
    cat [lit "/subscriptions/", uuidPattern, lit "/resourceGroups/", plus segment, lit "/providers/",
      plus (chars (ranges alnum ".")), plus (cat [lit "/", plus segment, lit "/", plus segment])]]).accepts

def isActionGroup : String → Bool :=
  textual 0 none (cat [lit "/subscriptions/", uuidPattern, lit "/resourceGroups/", plus segment,
    lit "/providers/Microsoft.Insights/actionGroups/", plus segment]).accepts

structure AzureLogWorkspace where
  name : Such (textual 4 (some 63)
    (cat [chars (ranges alnum ""), star (chars (ranges alnum "-")), chars (ranges alnum "")]).accepts)
  resourceRefs : Such (sized (α := Such isAzureResourceRef) 1 100)
  retentionDays : Such (inRange 30 730)

def AzureLogWorkspace.fields : Fields AzureLogWorkspace :=
  (((((Fields.field "name" (text _)).and
    (Fields.field "resource_refs" (sizedList 1 100 (text isAzureResourceRef)))).and
    (Fields.field "type" (tag "azure_log_analytics_workspace"))).and
    (Fields.field "retention_days" (number (inRange 30 730)))).and
    (Fields.field "sku" (tag "PerGB2018"))).iso
    (fun ((((name, refs), _), days), _) => ⟨name, refs, days⟩)
    (fun r => ((((r.name, r.resourceRefs), ()), r.retentionDays), ())) fun _ => rfl

inductive Aggregation where
  | average
  | count
  | minimum
  | maximum
  | total
  deriving DecidableEq, Repr

def Aggregation.label : Aggregation → String
  | .average => "Average"
  | .count => "Count"
  | .minimum => "Minimum"
  | .maximum => "Maximum"
  | .total => "Total"

def aggregations : List (String × Aggregation) :=
  [("Average", .average), ("Count", .count), ("Minimum", .minimum), ("Maximum", .maximum), ("Total", .total)]

structure AzureMetricFields where
  name : Such isLogicalName
  resourceRef : Such isAzureResourceRef
  metricName : Such isNonEmpty
  namespace_ : Such (textual 1 (some 255)
    (cat [plus (chars (ranges alnum ".")), lit "/", plus (chars (ranges alnum "/"))]).accepts)
  aggregation : Aggregation

-- The last field of a text that is split from the left, none where the separator does not occur.
def afterLast (separator : List Char) (skip : Nat) : List Char → Option (List Char)
  | [] => none
  | c :: cs =>
    match skip with
    | n + 1 => afterLast separator n cs
    | 0 =>
      if separator.isPrefixOf (c :: cs) then
        some ((afterLast separator (separator.length - 1) cs).getD ((c :: cs).drop separator.length))
      else afterLast separator 0 cs

-- parts[1::2]
def everySecond {α : Type} : List α → List α
  | _ :: x :: xs => x :: everySecond xs
  | _ => []

def expectedNamespace (ref : String) : Option String :=
  (afterLast "/providers/".toList 0 ref.toList).map fun rest =>
    let parts := rest.splitOn '/'
    "/".intercalate ((parts.head?.toList ++ everySecond parts).map String.ofList)

def AzureMetricFields.resourceNamespace [PyUnicode] (m : AzureMetricFields) : Bool :=
  (expectedNamespace m.resourceRef.val).all fun expected =>
    PyUnicode.lower m.namespace_.val == PyUnicode.lower expected

abbrev AzureMetric [PyUnicode] := Such AzureMetricFields.resourceNamespace

def AzureMetric.fields [PyUnicode] : Fields AzureMetric :=
  (((((((Fields.field "name" (text isLogicalName)).and
    (Fields.field "resource_ref" (text isAzureResourceRef))).and
    (Fields.field "metric_name" (text isNonEmpty))).and
    (Fields.field "type" (tag "azure_monitor_metric"))).and
    (Fields.field "namespace" (text _))).and
    (Fields.field "aggregation" (Codec.literal aggregations Aggregation.label (by decide)))).iso
    (fun (((((name, ref), metric), _), space), aggregation) =>
      (⟨name, ref, metric, space, aggregation⟩ : AzureMetricFields))
    (fun r => (((((r.name, r.resourceRef), r.metricName), ()), r.namespace_), r.aggregation))
    fun _ => rfl).refine AzureMetricFields.resourceNamespace

-- [^\s*#&+:<>?%{}\\/]
def isAlarmChar (c : Char) : Bool := isSegment c && !"*#&+:<>?%\x7b\x7d\\".toList.contains c

structure AzureAlarm where
  name : Such (textual 1 (some 260) (plus (chars isAlarmChar)).accepts)
  metricRef : Such isLogicalName
  threshold : PyFloat
  comparison : Comparison
  windowSeconds : Such (α := Int) [60, 300, 900, 1800, 3600, 21600, 43200, 86400].contains
  evaluationFrequencySeconds : Such (α := Int) [60, 300, 900, 1800, 3600].contains
  severity : Such (inRange 0 4)
  notificationTargetRefs : Such (sized (α := Such isActionGroup) 1 5)

def AzureAlarm.fields : Fields AzureAlarm :=
  ((((((((((Fields.field "name" (text _)).and
    (Fields.field "metric_ref" (text isLogicalName))).and
    (Fields.field "threshold" Codec.strictFloat)).and
    (Fields.field "comparison" comparisonType)).and
    (Fields.field "missing_data" (tag "ignore"))).and
    (Fields.field "type" (tag "azure_monitor_alarm"))).and
    (Fields.field "window_seconds" (Codec.literalInt _))).and
    (Fields.field "evaluation_frequency_seconds" (Codec.literalInt _))).and
    (Fields.field "severity" (number (inRange 0 4)))).and
    (Fields.field "notification_target_refs" (sizedList 1 5 (text isActionGroup)))).iso
    (fun (((((((((name, ref), threshold), comparison), _), _), window), frequency), severity), targets) =>
      ⟨name, ref, threshold, comparison, window, frequency, severity, targets⟩)
    (fun r => (((((((((r.name, r.metricRef), r.threshold), r.comparison), ()), ()), r.windowSeconds),
      r.evaluationFrequencySeconds), r.severity), r.notificationTargetRefs))
    fun _ => rfl

end Azure

section Gcp

-- [a-z][a-z0-9-]{4,28}[a-z0-9]
def project : Regex :=
  cat [chars (ranges lower ""), between 4 28 (chars (ranges lowerDigit "-")), chars (ranges lowerDigit "")]

def isGcpResourceRef : String → Bool :=
  textual 0 none (oneOf [manifestRef,
    cat [lit "//", chars (ranges lower ""), plus (chars (ranges lowerDigit ".")), lit ".googleapis.com/projects/",
      project, lit "/", plus dark]]).accepts

def isNotificationChannel : String → Bool :=
  textual 0 none (cat [lit "projects/", project, lit "/notificationChannels/", plus digit]).accepts

def isFilter : String → Bool := textual 1 (some 20000) unrestricted

structure GcpLogBucket where
  name : Such (textual 1 (some 100) (cat [chars (ranges alnum ""), star (chars (ranges alnum "_.-"))]).accepts)
  resourceRefs : Such (sized (α := Such isGcpResourceRef) 1 100)
  projectId : Such (textual 0 none project.accepts)
  location : Such (textual 1 (some 63) (plus (chars (ranges lowerDigit "-"))).accepts)
  retentionDays : Such (inRange 1 3650)
  filter : Such isFilter

def GcpLogBucket.fields : Fields GcpLogBucket :=
  (((((((Fields.field "name" (text _)).and
    (Fields.field "resource_refs" (sizedList 1 100 (text isGcpResourceRef)))).and
    (Fields.field "type" (tag "gcp_logging_bucket"))).and
    (Fields.field "project_id" (text _))).and
    (Fields.field "location" (text _))).and
    (Fields.field "retention_days" (number (inRange 1 3650)))).and
    (Fields.field "filter" (text isFilter))).iso
    (fun ((((((name, refs), _), project), location), days), filter) => ⟨name, refs, project, location, days, filter⟩)
    (fun r => ((((((r.name, r.resourceRefs), ()), r.projectId), r.location), r.retentionDays), r.filter))
    fun _ => rfl

inductive Aligner where
  | mean
  | max
  | min
  | sum
  | rate
  deriving DecidableEq, Repr

def Aligner.label : Aligner → String
  | .mean => "ALIGN_MEAN"
  | .max => "ALIGN_MAX"
  | .min => "ALIGN_MIN"
  | .sum => "ALIGN_SUM"
  | .rate => "ALIGN_RATE"

def aligners : List (String × Aligner) :=
  [("ALIGN_MEAN", .mean), ("ALIGN_MAX", .max), ("ALIGN_MIN", .min), ("ALIGN_SUM", .sum), ("ALIGN_RATE", .rate)]

-- \s of `re`
def space : Regex := chars PyText.isSpace

def clause : Regex :=
  cat [oneOf [lit "metric.type", lit "resource.type",
      cat [oneOf [lit "resource", lit "metric"], lit ".labels.", chars (ranges lower "_"),
        star (chars (ranges lowerDigit "_"))]],
    star space, lit "=", star space, lit "\"", plus (chars fun c => !"\"\\\r\n".toList.contains c), lit "\""]

def metricFilter : Regex := cat [clause, star (cat [plus space, lit "AND", plus space, clause])]

-- key\s*=\s*"([^"]+)" at the start of a text: what is between the quotes, and what is left.
def selector (key : List Char) (cs : List Char) : Option (String × List Char) :=
  if key.isPrefixOf cs then
    match (cs.drop key.length).dropWhile PyText.isSpace with
    | '=' :: cs =>
      match cs.dropWhile PyText.isSpace with
      | '"' :: cs =>
        match cs.takeWhile (· != '"'), cs.dropWhile (· != '"') with
        | [], _ | _, [] => none
        | value, _ :: rest => some (String.ofList value, rest)
      | _ => none
    | _ => none
  else none

-- re.findall, over at most `fuel` characters
def selectors (key : List Char) : Nat → List Char → List String
  | 0, _ => []
  | _ + 1, [] => []
  | fuel + 1, c :: cs =>
    match selector key (c :: cs) with
    | some (value, rest) => value :: selectors key fuel rest
    | none => selectors key fuel cs

def selects (key expected filter : String) : Bool :=
  selectors key.toList (filter.toList.length + 1) filter.toList == [expected]

structure GcpMetricFields where
  name : Such isLogicalName
  resourceRef : Such isGcpResourceRef
  metricName : Such (textual 0 none (cat [chars (ranges lower ""), plus (chars (ranges lowerDigit ".")),
    lit ".googleapis.com/", plus (chars (ranges alnum "_/"))]).accepts)
  monitoredResourceType : Such (textual 1 (some 100) (plus (chars (ranges lowerDigit "_"))).accepts)
  filter : Such isFilter
  alignmentPeriodSeconds : Such (inRange 60 90000)
  perSeriesAligner : Aligner

def GcpMetricFields.metricFilter (m : GcpMetricFields) : Bool :=
  Contracts.metricFilter.accepts m.filter.val && selects "metric.type" m.metricName.val m.filter.val &&
    selects "resource.type" m.monitoredResourceType.val m.filter.val

abbrev GcpMetric := Such GcpMetricFields.metricFilter

def GcpMetric.fields : Fields GcpMetric :=
  (((((((((Fields.field "name" (text isLogicalName)).and
    (Fields.field "resource_ref" (text isGcpResourceRef))).and
    (Fields.field "metric_name" (text _))).and
    (Fields.field "type" (tag "gcp_monitoring_metric"))).and
    (Fields.field "monitored_resource_type" (text _))).and
    (Fields.field "filter" (text isFilter))).and
    (Fields.field "alignment_period_seconds" (number (inRange 60 90000)))).and
    (Fields.field "per_series_aligner" (Codec.literal aligners Aligner.label (by decide)))).iso
    (fun (((((((name, ref), metric), _), type), filter), period), aligner) =>
      (⟨name, ref, metric, type, filter, period, aligner⟩ : GcpMetricFields))
    (fun r => (((((((r.name, r.resourceRef), r.metricName), ()), r.monitoredResourceType), r.filter),
      r.alignmentPeriodSeconds), r.perSeriesAligner))
    fun _ => rfl).refine GcpMetricFields.metricFilter

structure GcpAlarmFields where
  name : Such (textual 1 (some 512) (plus (printable "")).accepts)
  metricRef : Such isLogicalName
  threshold : PyFloat
  comparison : Such [Comparison.greaterThan, .lessThan].contains
  missingData : Such [MissingData.breaching, .notBreaching, .ignore].contains
  projectId : Such (textual 0 none project.accepts)
  durationSeconds : Such fun n => inRange 60 86400 n && n % 60 == 0
  triggerCount : Such positive
  notificationTargetRefs : Such (sized (α := Such isNotificationChannel) 1 16)

def GcpAlarmFields.channelProject (a : GcpAlarmFields) : Bool :=
  a.notificationTargetRefs.val.all fun ref => (ref.val.toList.splitOn '/')[1]? == some a.projectId.val.toList

abbrev GcpAlarm := Such GcpAlarmFields.channelProject

def GcpAlarm.fields : Fields GcpAlarm :=
  (((((((((((Fields.field "name" (text _)).and
    (Fields.field "metric_ref" (text isLogicalName))).and
    (Fields.field "threshold" Codec.strictFloat)).and
    (Fields.field "comparison" (comparisonType.refine _))).and
    (Fields.field "missing_data" (missingDataType.refine _))).and
    (Fields.field "type" (tag "gcp_monitoring_alarm"))).and
    (Fields.field "project_id" (text _))).and
    (Fields.field "duration_seconds" (number _))).and
    (Fields.field "trigger_count" (number positive))).and
    (Fields.field "notification_target_refs" (sizedList 1 16 (text isNotificationChannel)))).iso
    (fun (((((((((name, ref), threshold), comparison), data), _), project), duration), count), targets) =>
      (⟨name, ref, threshold, comparison, data, project, duration, count, targets⟩ : GcpAlarmFields))
    (fun r => (((((((((r.name, r.metricRef), r.threshold), r.comparison), r.missingData), ()), r.projectId),
      r.durationSeconds), r.triggerCount), r.notificationTargetRefs))
    fun _ => rfl).refine GcpAlarmFields.channelProject

end Gcp

end Provisr.Contracts
