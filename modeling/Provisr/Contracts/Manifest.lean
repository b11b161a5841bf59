import Provisr.Contracts.Monitoring

namespace Provisr.Contracts

open Provisr.Foundation Regex

-- A policy's required tag with this value asks for the key, with any value.
def anyTagValue : String := "*"

inductive Provider where
  | aws
  | azure
  | gcp
  deriving DecidableEq, Repr, Inhabited

def Provider.label : Provider → String
  | .aws => "aws"
  | .azure => "azure"
  | .gcp => "gcp"

def providers : List (String × Provider) := [("aws", .aws), ("azure", .azure), ("gcp", .gcp)]

theorem providers_label : ∀ p ∈ providers, providers.lookup p.2.label = some p.2 := by
  decide

inductive Environment where
  | development
  | staging
  | production
  | sandbox
  deriving DecidableEq, Repr, Inhabited

def Environment.label : Environment → String
  | .development => "development"
  | .staging => "staging"
  | .production => "production"
  | .sandbox => "sandbox"

def environments : List (String × Environment) :=
  [("development", .development), ("staging", .staging), ("production", .production), ("sandbox", .sandbox)]

inductive PolicyConstraintName where
  | allowedRegions
  | maxBudget
  | requiredTags
  | prohibitedResourceTypes
  | requiredEncryption
  | requiredBackup
  deriving DecidableEq, Repr

def PolicyConstraintName.label : PolicyConstraintName → String
  | .allowedRegions => "allowed_regions"
  | .maxBudget => "max_budget"
  | .requiredTags => "required_tags"
  | .prohibitedResourceTypes => "prohibited_resource_types"
  | .requiredEncryption => "required_encryption"
  | .requiredBackup => "required_backup"

def policyConstraintNames : List (String × PolicyConstraintName) :=
  [("allowed_regions", .allowedRegions), ("max_budget", .maxBudget), ("required_tags", .requiredTags),
    ("prohibited_resource_types", .prohibitedResourceTypes), ("required_encryption", .requiredEncryption),
    ("required_backup", .requiredBackup)]

inductive Engine where
  | postgres
  | mysql
  deriving DecidableEq, Repr

def Engine.label : Engine → String
  | .postgres => "postgres"
  | .mysql => "mysql"

def engines : List (String × Engine) := [("postgres", .postgres), ("mysql", .mysql)]

section Resources

def lengthIn (low high : Nat) (s : String) : Bool := low ≤ s.length && s.length ≤ high

theorem lengthIn_of {low high n : Nat} {s : String} (h : s.length = n) (fits : low ≤ n ∧ n ≤ high) :
    lengthIn low high s = true := by
  simp [lengthIn, h, fits]

-- ^[a-zA-Z0-9_-]+$
def isPlainName (s : String) : Bool := lengthIn 1 64 s && (plus (chars (ranges alnum "_-"))).accepts s

-- ^[a-z0-9][a-z0-9.-]+[a-z0-9]$
def isBucketName (s : String) : Bool :=
  lengthIn 3 63 s && (cat [chars (ranges lowerDigit ""), plus (chars (ranges lowerDigit ".-")),
    chars (ranges lowerDigit "")]).accepts s

structure Ec2Resource where
  name : Such isPlainName
  instanceType : Such (lengthIn 1 64)
  image : Such (lengthIn 1 128)
  count : Such (inRange 1 20)

structure RdsResource where
  name : Such isPlainName
  engine : Engine
  instanceClass : Such (lengthIn 1 64)
  allocatedStorageGb : Such (inRange 20 16384)

structure S3Resource where
  name : Such isBucketName
  versioning : Bool

variable [Pydantic]

def laxText (test : String → Bool) : Codec (Such test) := Codec.str.refine test

def one : Such (inRange 1 20) := ⟨1, by decide⟩

def Ec2Resource.fields : Fields Ec2Resource :=
  (((((Fields.field "type" (tag "aws_ec2")).and
    (Fields.field "name" (laxText isPlainName))).and
    (Fields.field "instance_type" (laxText _))).and
    (Fields.field "image" (laxText _))).and
    (Fields.optional "count" (Codec.int.refine (inRange 1 20)) one
      (Codec.refine_self (Pydantic.int_self 1) one.property))).iso
    (fun ((((_, name), type), image), count) => ⟨name, type, image, count⟩)
    (fun r => (((((), r.name), r.instanceType), r.image), r.count)) fun _ => rfl

def RdsResource.fields : Fields RdsResource :=
  (((((Fields.field "type" (tag "aws_rds")).and
    (Fields.field "name" (laxText isPlainName))).and
    (Fields.field "engine" (Codec.literal engines Engine.label (by decide)))).and
    (Fields.field "instance_class" (laxText _))).and
    (Fields.field "allocated_storage_gb" (Codec.int.refine (inRange 20 16384)))).iso
    (fun ((((_, name), engine), size), storage) => ⟨name, engine, size, storage⟩)
    (fun r => (((((), r.name), r.engine), r.instanceClass), r.allocatedStorageGb)) fun _ => rfl

def S3Resource.fields : Fields S3Resource :=
  (((Fields.field "type" (tag "aws_s3")).and
    (Fields.field "name" (laxText isBucketName))).and
    (Fields.optional "versioning" Codec.bool true (Pydantic.bool_self true))).iso
    (fun ((_, name), versioning) => ⟨name, versioning⟩) (fun r => (((), r.name), r.versioning)) fun _ => rfl

end Resources

variable [Pydantic] [PyUnicode]

inductive Resource [PyUnicode] where
  | ec2 (r : Ec2Resource)
  | rds (r : RdsResource)
  | s3 (r : S3Resource)
  | awsLogGroup (r : AwsLogGroup)
  | awsMetric (r : AwsMetric)
  | awsAlarm (r : AwsAlarm)
  | azureLogWorkspace (r : AzureLogWorkspace)
  | azureMetric (r : AzureMetric)
  | azureAlarm (r : AzureAlarm)
  | gcpLogBucket (r : GcpLogBucket)
  | gcpMetric (r : GcpMetric)
  | gcpAlarm (r : GcpAlarm)

namespace Resource

def type : Resource → String
  | ec2 _ => "aws_ec2"
  | rds _ => "aws_rds"
  | s3 _ => "aws_s3"
  | awsLogGroup _ => "aws_cloudwatch_log_group"
  | awsMetric _ => "aws_cloudwatch_metric"
  | awsAlarm _ => "aws_cloudwatch_alarm"
  | azureLogWorkspace _ => "azure_log_analytics_workspace"
  | azureMetric _ => "azure_monitor_metric"
  | azureAlarm _ => "azure_monitor_alarm"
  | gcpLogBucket _ => "gcp_logging_bucket"
  | gcpMetric _ => "gcp_monitoring_metric"
  | gcpAlarm _ => "gcp_monitoring_alarm"

def name : Resource → String
  | ec2 r => r.name.val
  | rds r => r.name.val
  | s3 r => r.name.val
  | awsLogGroup r => r.name.val
  | awsMetric r => r.name.val
  | awsAlarm r => r.val.name.val
  | azureLogWorkspace r => r.name.val
  | azureMetric r => r.val.name.val
  | azureAlarm r => r.name.val
  | gcpLogBucket r => r.name.val
  | gcpMetric r => r.val.name.val
  | gcpAlarm r => r.val.name.val

def modelFields : Resource → PyFields
  | ec2 r => Ec2Resource.fields.write r
  | rds r => RdsResource.fields.write r
  | s3 r => S3Resource.fields.write r
  | awsLogGroup r => AwsLogGroup.fields.write r
  | awsMetric r => AwsMetric.fields.write r
  | awsAlarm r => AwsAlarm.fields.write r
  | azureLogWorkspace r => AzureLogWorkspace.fields.write r
  | azureMetric r => AzureMetric.fields.write r
  | azureAlarm r => AzureAlarm.fields.write r
  | gcpLogBucket r => GcpLogBucket.fields.write r
  | gcpMetric r => GcpMetric.fields.write r
  | gcpAlarm r => GcpAlarm.fields.write r

def discriminator (v : PyValue) : Option String :=
  (Pydantic.fields v).bind fun fs => (fs.lookup "type").bind Pydantic.literalStr

def as {α : Type} (fields : Fields α) (resource : α → Resource) (v : PyValue) : Option Resource :=
  ((Codec.model fields).validate v).map resource

def validateAs (type : String) (v : PyValue) : Option Resource :=
  match type with
  | "aws_ec2" => as Ec2Resource.fields ec2 v
  | "aws_rds" => as RdsResource.fields rds v
  | "aws_s3" => as S3Resource.fields s3 v
  | "aws_cloudwatch_log_group" => as AwsLogGroup.fields awsLogGroup v
  | "aws_cloudwatch_metric" => as AwsMetric.fields awsMetric v
  | "aws_cloudwatch_alarm" => as AwsAlarm.fields awsAlarm v
  | "azure_log_analytics_workspace" => as AzureLogWorkspace.fields azureLogWorkspace v
  | "azure_monitor_metric" => as AzureMetric.fields azureMetric v
  | "azure_monitor_alarm" => as AzureAlarm.fields azureAlarm v
  | "gcp_logging_bucket" => as GcpLogBucket.fields gcpLogBucket v
  | "gcp_monitoring_metric" => as GcpMetric.fields gcpMetric v
  | "gcp_monitoring_alarm" => as GcpAlarm.fields gcpAlarm v
  | _ => none

def validate (v : PyValue) : Option Resource := (discriminator v).bind fun type => validateAs type v

theorem discriminator_dump (r : Resource) : discriminator (.dict r.modelFields) = some r.type := by
  unfold discriminator
  rw [Pydantic.fields_dict]
  cases r <;> exact Pydantic.literalStr_self _

theorem as_again {α : Type} {fields : Fields α} {resource : α → Resource} {v : PyValue} {r : Resource}
    (run : as fields resource v = some r) (write : ∀ a, (resource a).modelFields = fields.write a) :
    as fields resource (.dict r.modelFields) = some r := by
  obtain ⟨a, read, rfl⟩ := Option.map_eq_some_iff.mp run
  unfold as
  rw [write a]
  exact Option.map_eq_some_iff.mpr ⟨a, (Codec.model fields).again v a read, rfl⟩

theorem as_type {α : Type} {fields : Fields α} {resource : α → Resource} {v : PyValue} {r : Resource} {type : String}
    (run : as fields resource v = some r) (typed : ∀ a, (resource a).type = type) : r.type = type := by
  obtain ⟨a, -, rfl⟩ := Option.map_eq_some_iff.mp run
  exact typed a

theorem validateAs_again {type : String} {v : PyValue} {r : Resource} (run : validateAs type v = some r) :
    r.type = type ∧ validateAs type (.dict r.modelFields) = some r := by
  unfold validateAs at run ⊢
  split at run
  case h_13 => cases run
  all_goals exact ⟨as_type run fun _ => rfl, as_again run fun _ => rfl⟩

def codec : Codec Resource where
  validate := validate
  dump r := .dict r.modelFields
  again v r run := by
    obtain ⟨type, -, run⟩ := Option.bind_eq_some_iff.mp run
    obtain ⟨typed, again⟩ := validateAs_again run
    unfold validate
    rw [discriminator_dump, typed]
    exact again

def isMetric : Resource → Bool
  | awsMetric _ | azureMetric _ | gcpMetric _ => true
  | _ => false

def isAlarm : Resource → Bool
  | awsAlarm _ | azureAlarm _ | gcpAlarm _ => true
  | _ => false

def isLogDestination : Resource → Bool
  | awsLogGroup _ | azureLogWorkspace _ | gcpLogBucket _ => true
  | _ => false

def indexed {test : String → Bool} (refs : List (Such test)) : List (String × String) :=
  refs.mapIdx fun i ref => ("resource_refs." ++ toString i, ref.val)

def refs : Resource → List (String × String)
  | awsMetric r => [("resource_ref", r.resourceRef.val)]
  | azureMetric r => [("resource_ref", r.val.resourceRef.val)]
  | gcpMetric r => [("resource_ref", r.val.resourceRef.val)]
  | awsLogGroup r => indexed r.resourceRefs.val
  | azureLogWorkspace r => indexed r.resourceRefs.val
  | gcpLogBucket r => indexed r.resourceRefs.val
  | _ => []

def metricRef : Resource → Option String
  | awsAlarm r => some r.val.metricRef.val
  | azureAlarm r => some r.metricRef.val
  | gcpAlarm r => some r.val.metricRef.val
  | _ => none

end Resource

section Integrity

structure Issue where
  index : Nat
  field : String
  message : String
  deriving DecidableEq, Repr

def startsWith (start s : String) : Bool := start.toList.isPrefixOf s.toList

-- names.get(name)
def named (resources : List Resource) (name : String) : Option Resource :=
  resources.reverse.find? fun r => r.name == name

def removePrefix (start s : String) : String := String.ofList (s.toList.drop start.toList.length)

def checkRef (resources : List Resource) (allowExternalManifestRefs : Bool) (index : Nat) (field ref : String) :
    List Issue :=
  if startsWith "manifest:" ref then
    match named resources (removePrefix "manifest:" ref) with
    | none =>
      if allowExternalManifestRefs then []
      else [⟨index, field, "Reference must resolve to a resource in this manifest"⟩]
    | some target =>
      if target.isMetric || target.isAlarm || target.isLogDestination then
        [⟨index, field, "Monitored references must identify workload resources"⟩]
      else []
  else []

def checkAlarm (resources : List Resource) (region : Option String) (index : Nat) (r : Resource) : List Issue :=
  match r.metricRef with
  | none => []
  | some ref =>
    let metric := named resources ref
    (if metric.any Resource.isMetric then []
      else [⟨index, "metric_ref", "Reference must resolve to a metric in these resources"⟩]) ++
    match r with
    | .awsAlarm a =>
      (match metric with
        | some (.awsMetric m) =>
          if a.val.periodSeconds.val < 60 && m.storageResolutionSeconds.val != 1 then
            [⟨index, "period_seconds", "Sub-minute alarms require a high-resolution metric"⟩]
          else []
        | _ => []) ++
      (a.val.notificationTargetRefs.val.filter fun target =>
        region.any fun region => (target.val.toList.splitOn ':')[3]? != some region.toList).map fun _ =>
          ⟨index, "notification_target_refs", "SNS topic region must match manifest region"⟩
    | .azureAlarm a =>
      if a.windowSeconds.val < a.evaluationFrequencySeconds.val then
        [⟨index, "evaluation_frequency_seconds", "Frequency cannot exceed window"⟩]
      else []
    | _ => []

def checkResource (provider : Provider) (resources : List Resource) (allowExternalManifestRefs : Bool)
    (region : Option String) (index : Nat) (r : Resource) : List Issue :=
  (if (resources.take index).any fun s => s.name == r.name then
      [⟨index, "name", "Resource names must be unique in the manifest"⟩]
    else []) ++
  (if startsWith (provider.label ++ "_") r.type then []
    else [⟨index, "type", "Resource provider must match the fragment/manifest provider"⟩]) ++
  r.refs.flatMap (fun ref => checkRef resources allowExternalManifestRefs index ref.1 ref.2) ++
  checkAlarm resources region index r

def checkResources (provider : Provider) (resources : List Resource) (allowExternalManifestRefs : Bool)
    (region : Option String) : List Issue :=
  (resources.mapIdx (checkResource provider resources allowExternalManifestRefs region)).flatten

end Integrity

section Manifest

omit [Pydantic] [PyUnicode]

def placeholderFree (tags : List (String × String)) : Bool := tags.all fun t => PyText.strip t.2 != anyTagValue

theorem placeholderFree_nil : placeholderFree [] = true := rfl

def positiveFloat (x : PyFloat) : Bool := !(x.le PyFloat.zero)

end Manifest

structure ManifestFields where
  provider : Provider
  region : Such (lengthIn 3 32)
  environment : Environment
  monthlyBudgetUsd : Option (Such positiveFloat)
  tags : Such placeholderFree
  encryptionEnabled : Bool
  backupEnabled : Bool
  appliedConstraints : List PolicyConstraintName
  resources : Such (sized (α := Resource) 1 50)

def ManifestFields.resourceIntegrity (m : ManifestFields) : Bool :=
  (checkResources m.provider m.resources.val false (some m.region.val)).isEmpty

abbrev ResourceManifest := Such ManifestFields.resourceIntegrity

def securityConfiguration : Codec Bool := Codec.model (Fields.field "encryption_enabled" Codec.bool)

def backupConfiguration : Codec Bool := Codec.model (Fields.field "enabled" Codec.bool)

def policyApplication : Codec (List PolicyConstraintName) :=
  (Codec.model ((Fields.field "requirements_loaded" Codec.literalTrue).and
    (Fields.field "applied_constraints"
      (Codec.list (Codec.literal policyConstraintNames PolicyConstraintName.label (by decide)))))).iso
    (fun (_, constraints) => constraints) (fun constraints => ((), constraints)) fun _ => rfl

def tagMap : Codec (Such placeholderFree) := (Codec.dict Codec.str).refine placeholderFree

def budget : Codec (Option (Such positiveFloat)) := (Codec.float.refine positiveFloat).optional nofun

def ResourceManifest.fields : Fields ResourceManifest :=
  ((((((((((Fields.optional "schema_version" (tag "1.0") () (Codec.literal_self rfl)).and
    (Fields.optional "provider" (Codec.literal providers Provider.label providers_label) .aws
      (Codec.literal_self rfl))).and
    (Fields.field "region" (laxText _))).and
    (Fields.field "environment" (Codec.literal environments Environment.label (by decide)))).and
    (Fields.optional "monthly_budget_usd" budget none rfl)).and
    (Fields.optional "tags" tagMap ⟨[], placeholderFree_nil⟩ (Codec.refine_self Codec.dict_self placeholderFree_nil))).and
    (Fields.field "security" securityConfiguration)).and
    (Fields.field "backup" backupConfiguration)).and
    (Fields.field "policy" policyApplication)).and
    (Fields.field "resources" ((Codec.list Resource.codec).refine (sized 1 50)))).iso
    (fun (((((((((_, provider), region), environment), budget), tags), security), backup), policy), resources) =>
      (⟨provider, region, environment, budget, tags, security, backup, policy, resources⟩ : ManifestFields))
    (fun m => ((((((((((), m.provider), m.region), m.environment), m.monthlyBudgetUsd), m.tags), m.encryptionEnabled),
      m.backupEnabled), m.appliedConstraints), m.resources))
    (fun _ => rfl) |>.refine ManifestFields.resourceIntegrity

def ResourceManifest.codec : Codec ResourceManifest := Codec.model ResourceManifest.fields

end Provisr.Contracts
