import Provisr.Contracts.Manifest
import Mathlib.Data.List.Dedup
import Mathlib.Data.List.Sort
import Mathlib.Data.String.Basic

namespace Provisr.Contracts

open Provisr.Foundation

variable [PyUnicode]

namespace Resource

def isMonitoring (r : Resource) : Bool := r.isMetric || r.isAlarm || r.isLogDestination

def isWorkload (r : Resource) : Bool := !r.isMonitoring

end Resource

abbrev MonitoringResource := Such Resource.isMonitoring

abbrev WorkloadResource := Such Resource.isWorkload

section Fragment

structure FragmentFields where
  provider : Provider
  region : Such (textual 3 (some 32) unrestricted)
  resources : Such (sized (α := MonitoringResource) 1 50)

def FragmentFields.references (f : FragmentFields) : Bool :=
  (checkResources f.provider (f.resources.val.map Subtype.val) true (some f.region.val)).isEmpty

abbrev MonitoringFragment := Such FragmentFields.references

def MonitoringFragment.fields [Pydantic] : Fields MonitoringFragment :=
  (((Fields.field "provider" (Codec.literal providers Provider.label providers_label)).and
    (Fields.field "region" (text _))).and
    (Fields.field "resources" (sizedList 1 50 (Resource.codec.refine Resource.isMonitoring)))).iso
    (fun ((provider, region), resources) => (⟨provider, region, resources⟩ : FragmentFields))
    (fun f => ((f.provider, f.region), f.resources)) (fun _ => rfl) |>.refine FragmentFields.references

def MonitoringFragment.codec [Pydantic] : Codec MonitoringFragment := Codec.model MonitoringFragment.fields

def manifestRefs (r : Resource) : List String := (r.refs.map Prod.snd).filter (startsWith "manifest:")

def deferredResourceRefs (resources : List MonitoringResource) : List String :=
  ((resources.flatMap fun r => manifestRefs r.val).dedup).insertionSort (· ≤ ·)

def validate_monitoring_request [Pydantic] (fragment : PyValue) : Option (List String) :=
  (MonitoringFragment.codec.validate fragment).map fun parsed => deferredResourceRefs parsed.val.resources.val

end Fragment

section Names

omit [PyUnicode] in
theorem startsWith_iff {start s : String} : startsWith start s = true ↔ s = start ++ removePrefix start s := by
  unfold startsWith removePrefix
  rw [List.isPrefixOf_iff_prefix]
  constructor
  · rintro ⟨rest, same⟩
    apply String.toList_injective
    rw [String.toList_append, String.toList_ofList, ← same, List.drop_left]
  · intro same
    refine ⟨s.toList.drop start.toList.length, ?_⟩
    have letters := congrArg String.toList same
    rw [String.toList_append, String.toList_ofList] at letters
    exact letters.symm

omit [PyUnicode] in
theorem removePrefix_append (start s : String) : removePrefix start (start ++ s) = s := by
  unfold removePrefix
  rw [String.toList_append, List.drop_left, String.ofList_toList]

variable {resources others : List Resource} {name : String} {r s : Resource}

theorem of_named (found : named resources name = some r) : r ∈ resources ∧ r.name = name := by
  unfold named at found
  exact ⟨List.mem_reverse.mp (List.mem_of_find?_eq_some found), by simpa using List.find?_some found⟩

theorem named_eq_none_iff : named resources name = none ↔ ∀ r ∈ resources, r.name ≠ name := by
  unfold named
  simp [List.find?_eq_none]

theorem named_eq_some_iff (distinct : (resources.map Resource.name).Nodup) :
    named resources name = some r ↔ r ∈ resources ∧ r.name = name := by
  constructor
  · exact of_named
  · rintro ⟨member, called⟩
    cases found : named resources name with
    | none => exact absurd called (named_eq_none_iff.mp found r member)
    | some s =>
      obtain ⟨there, same⟩ := of_named found
      exact congrArg some (List.inj_on_of_nodup_map distinct there member (same.trans called.symm))

end Names

section Acceptance

variable {provider : Provider} {resources others : List Resource} {external : Bool} {region : Option String}
  {index : Nat} {r : Resource} {ref : String}

def Resolved (resources : List Resource) (external : Bool) (ref : String) : Prop :=
  match named resources (removePrefix "manifest:" ref) with
  | none => external = true
  | some target => target.isWorkload = true

theorem checkRef_eq_nil_iff {field : String} : checkRef resources external index field ref = [] ↔
    (startsWith "manifest:" ref = true → Resolved resources external ref) := by
  unfold checkRef Resolved
  split
  · rename_i deferred
    simp only [deferred, true_implies]
    cases named resources (removePrefix "manifest:" ref) with
    | none => cases external <;> simp
    | some target =>
      unfold Resource.isWorkload Resource.isMonitoring
      cases target.isMetric || target.isAlarm || target.isLogDestination <;> simp
  · rename_i native
    simp [native]

def AlarmSound (resources : List Resource) (region : Option String) (r : Resource) : Prop :=
  checkAlarm resources region 0 r = []

theorem checkAlarm_eq_nil_iff : checkAlarm resources region index r = [] ↔ AlarmSound resources region r := by
  unfold AlarmSound checkAlarm
  cases r with
  | awsAlarm a =>
    simp only [Resource.metricRef]
    cases named resources a.val.metricRef.val with
    | none => simp
    | some m => cases m <;> simp [Resource.isMetric]
  | azureAlarm a =>
    simp only [Resource.metricRef]
    cases named resources a.metricRef.val with
    | none => simp
    | some m => cases m <;> simp [Resource.isMetric]
  | gcpAlarm a =>
    simp only [Resource.metricRef]
    cases named resources a.val.metricRef.val with
    | none => simp
    | some m => cases m <;> simp [Resource.isMetric]
  | _ => simp [Resource.metricRef]

theorem AlarmSound.metric (sound : AlarmSound resources region r) {metric : String}
    (watched : r.metricRef = some metric) :
    ∃ m, named resources metric = some m ∧ m.isMetric = true := by
  unfold AlarmSound checkAlarm at sound
  rw [watched] at sound
  have present : (named resources metric).any Resource.isMetric = true := by
    by_contra missing
    simp [missing] at sound
  cases found : named resources metric with
  | none => simp [found] at present
  | some m => exact ⟨m, rfl, by simpa [found] using present⟩

theorem AlarmSound.congr (same : ∀ metric, r.metricRef = some metric → named others metric = named resources metric)
    (sound : AlarmSound resources region r) : AlarmSound others region r := by
  unfold AlarmSound checkAlarm at sound ⊢
  cases watched : r.metricRef with
  | none => rfl
  | some metric =>
    simp only [watched] at sound ⊢
    rw [same metric watched]
    exact sound

structure Sound (provider : Provider) (resources : List Resource) (external : Bool) (region : Option String)
    (r : Resource) : Prop where
  type : startsWith (provider.label ++ "_") r.type = true
  refs : ∀ ref ∈ manifestRefs r, Resolved resources external ref
  alarm : AlarmSound resources region r

theorem mem_manifestRefs : ref ∈ manifestRefs r ↔ ref ∈ r.refs.map Prod.snd ∧ startsWith "manifest:" ref = true := by
  unfold manifestRefs
  rw [List.mem_filter]

theorem checkResource_eq_nil_iff : checkResource provider resources external region index r = [] ↔
    ((resources.take index).any fun s => s.name == r.name) = false ∧ Sound provider resources external region r := by
  have references : r.refs.flatMap (fun ref => checkRef resources external index ref.1 ref.2) = [] ↔
      ∀ ref ∈ manifestRefs r, Resolved resources external ref := by
    rw [List.flatMap_eq_nil_iff]
    constructor
    · intro none ref member
      obtain ⟨listed, deferred⟩ := mem_manifestRefs.mp member
      obtain ⟨entry, there, rfl⟩ := List.mem_map.mp listed
      exact checkRef_eq_nil_iff.mp (none entry there) deferred
    · intro resolved entry there
      exact checkRef_eq_nil_iff.mpr fun deferred =>
        resolved entry.2 (mem_manifestRefs.mpr ⟨List.mem_map_of_mem there, deferred⟩)
  unfold checkResource
  rw [List.append_eq_nil_iff, List.append_eq_nil_iff, List.append_eq_nil_iff, references, checkAlarm_eq_nil_iff]
  constructor
  · rintro ⟨⟨⟨fresh, typed⟩, resolved⟩, alarm⟩
    exact ⟨by simpa using fresh, by simpa using typed, resolved, alarm⟩
  · rintro ⟨fresh, typed, resolved, alarm⟩
    exact ⟨⟨⟨by simpa using fresh, by simpa using typed⟩, resolved⟩, alarm⟩

omit [PyUnicode] in
theorem nodup_iff_take {α : Type} {names : List α} :
    names.Nodup ↔ ∀ i (inside : i < names.length), names[i] ∉ names.take i := by
  rw [List.nodup_iff_pairwise_ne, List.pairwise_iff_getElem]
  constructor
  · intro apart i inside member
    obtain ⟨j, before, same⟩ := List.mem_take_iff_getElem.mp member
    exact apart j i (by omega) inside (by omega) same
  · intro fresh i j left right before same
    exact fresh j right (List.mem_take_iff_getElem.mpr ⟨i, by omega, same⟩)

theorem checkResources_iff : (checkResources provider resources external region).isEmpty = true ↔
    (resources.map Resource.name).Nodup ∧ ∀ r ∈ resources, Sound provider resources external region r := by
  have each : (checkResources provider resources external region).isEmpty = true ↔
      ∀ i (inside : i < resources.length), checkResource provider resources external region i resources[i] = [] := by
    unfold checkResources
    rw [List.isEmpty_iff, List.flatten_eq_nil_iff]
    constructor
    · intro clean i inside
      exact clean _ (List.mem_mapIdx.mpr ⟨i, inside, rfl⟩)
    · intro clean issues member
      obtain ⟨i, inside, rfl⟩ := List.mem_mapIdx.mp member
      exact clean i inside
  have fresh : (resources.map Resource.name).Nodup ↔ ∀ i (inside : i < resources.length),
      ((resources.take i).any fun s => s.name == resources[i].name) = false := by
    rw [nodup_iff_take]
    simp only [List.length_map, List.getElem_map]
    refine forall₂_congr fun i inside => ?_
    rw [← List.map_take, List.mem_map]
    simp
  rw [each, fresh]
  constructor
  · intro clean
    refine ⟨fun i inside => (checkResource_eq_nil_iff.mp (clean i inside)).1, fun r member => ?_⟩
    obtain ⟨i, inside, rfl⟩ := List.mem_iff_getElem.mp member
    exact (checkResource_eq_nil_iff.mp (clean i inside)).2
  · rintro ⟨distinct, sound⟩ i inside
    exact checkResource_eq_nil_iff.mpr ⟨distinct i inside, sound _ (List.getElem_mem inside)⟩

theorem Sound.congr (same : ∀ name, named others name = named resources name)
    (sound : Sound provider resources external region r) : Sound provider others external region r where
  type := sound.type
  refs ref member := by
    have resolved := sound.refs ref member
    unfold Resolved at resolved ⊢
    rw [same]
    exact resolved
  alarm := sound.alarm.congr fun metric _ => same metric

theorem checkResources_perm (perm : resources.Perm others)
    (accepted : (checkResources provider resources external region).isEmpty = true) :
    (checkResources provider others external region).isEmpty = true := by
  obtain ⟨distinct, sound⟩ := checkResources_iff.mp accepted
  have distinct' := (perm.map Resource.name).nodup_iff.mp distinct
  have same : ∀ name, named others name = named resources name := by
    intro name
    refine Option.ext fun r => ?_
    rw [named_eq_some_iff distinct', named_eq_some_iff distinct, perm.mem_iff]
  exact checkResources_iff.mpr ⟨distinct', fun r member => (sound r (perm.mem_iff.mpr member)).congr same⟩

end Acceptance

section Composition

variable {provider : Provider} {region : Option String} {W : List WorkloadResource} {F : List MonitoringResource}
  {ref : String}

theorem mem_deferredResourceRefs : ref ∈ deferredResourceRefs F ↔ ∃ r ∈ F, ref ∈ manifestRefs r.val := by
  unfold deferredResourceRefs
  rw [List.mem_insertionSort, List.mem_dedup, List.mem_flatMap]

def composed (W : List WorkloadResource) (F : List MonitoringResource) : List Resource :=
  W.map Subtype.val ++ F.map Subtype.val

theorem workload_sound {r : Resource} (workload : r.isWorkload = true) : manifestRefs r = [] ∧ r.metricRef = none := by
  cases r <;> first | exact ⟨rfl, rfl⟩ | cases workload

theorem isWorkload_eq_false {r : Resource} (monitoring : r.isMonitoring = true) : r.isWorkload = false := by
  unfold Resource.isWorkload
  rw [monitoring]
  rfl

theorem isMonitoring_of_metric {r : Resource} (metric : r.isMetric = true) : r.isMonitoring = true := by
  unfold Resource.isMonitoring
  rw [metric]
  rfl

theorem sound_workload {r : WorkloadResource} {resources : List Resource} {external : Bool}
    (typed : startsWith (provider.label ++ "_") r.val.type = true) :
    Sound provider resources external region r.val := by
  obtain ⟨bare, silent⟩ := workload_sound r.property
  refine ⟨typed, fun ref member => ?_, ?_⟩
  · rw [bare] at member
    cases member
  · unfold AlarmSound checkAlarm
    rw [silent]

theorem named_workload {name : String} {r : Resource} (found : named (composed W F) name = some r)
    (workload : r.isWorkload = true) : ∃ w ∈ W, w.val = r := by
  obtain ⟨member, -⟩ := of_named found
  rcases List.mem_append.mp member with here | monitoring
  · exact List.mem_map.mp here
  · obtain ⟨f, -, rfl⟩ := List.mem_map.mp monitoring
    rw [isWorkload_eq_false f.property] at workload
    cases workload

section Distinct

variable (distinct : ((composed W F).map Resource.name).Nodup)
include distinct

theorem fragment_distinct : ((F.map Subtype.val).map Resource.name).Nodup := by
  unfold composed at distinct
  rw [List.map_append] at distinct
  exact distinct.of_append_right

theorem named_composed {name : String} {r : Resource} (found : named (F.map Subtype.val) name = some r) :
    named (composed W F) name = some r := by
  obtain ⟨member, called⟩ := of_named found
  exact (named_eq_some_iff distinct).mpr ⟨List.mem_append_right _ member, called⟩

theorem named_fragment {name : String} {r : Resource} (found : named (composed W F) name = some r)
    (metric : r.isMetric = true) : named (F.map Subtype.val) name = some r := by
  obtain ⟨member, called⟩ := of_named found
  refine (named_eq_some_iff (fragment_distinct distinct)).mpr ⟨?_, called⟩
  rcases List.mem_append.mp member with workload | monitoring
  · obtain ⟨w, -, rfl⟩ := List.mem_map.mp workload
    have other := w.property
    rw [isWorkload_eq_false (isMonitoring_of_metric metric)] at other
    cases other
  · exact monitoring

theorem resolved_iff {ref : String} (deferred : startsWith "manifest:" ref = true) :
    Resolved (composed W F) false ref ↔ ∃ w ∈ W, ref = "manifest:" ++ w.val.name := by
  unfold Resolved
  constructor
  · intro resolved
    cases found : named (composed W F) (removePrefix "manifest:" ref) with
    | none =>
      rw [found] at resolved
      cases resolved
    | some target =>
      rw [found] at resolved
      obtain ⟨w, member, rfl⟩ := named_workload found resolved
      exact ⟨w, member, (of_named found).2 ▸ startsWith_iff.mp deferred⟩
  · rintro ⟨w, member, rfl⟩
    have found : named (composed W F) w.val.name = some w.val :=
      (named_eq_some_iff distinct).mpr ⟨List.mem_append_left _ (List.mem_map_of_mem member), rfl⟩
    rw [removePrefix_append, found]
    exact w.property

theorem sound_fragment {f : MonitoringResource} (sound : Sound provider (composed W F) false region f.val) :
    Sound provider (F.map Subtype.val) true region f.val where
  type := sound.type
  refs ref member := by
    have deferred := (mem_manifestRefs.mp member).2
    have resolved := sound.refs ref member
    unfold Resolved at resolved ⊢
    cases found : named (F.map Subtype.val) (removePrefix "manifest:" ref) with
    | none => rfl
    | some target =>
      rw [named_composed distinct found] at resolved
      exact resolved
  alarm := sound.alarm.congr fun metric watched => by
    obtain ⟨m, found, measured⟩ := sound.alarm.metric watched
    rw [found, named_fragment distinct found measured]

theorem sound_composed {f : MonitoringResource} (sound : Sound provider (F.map Subtype.val) true region f.val)
    (resolved : ∀ ref ∈ manifestRefs f.val, ∃ w ∈ W, ref = "manifest:" ++ w.val.name) :
    Sound provider (composed W F) false region f.val where
  type := sound.type
  refs ref member := (resolved_iff distinct (mem_manifestRefs.mp member).2).mpr (resolved ref member)
  alarm := sound.alarm.congr fun metric watched => by
    obtain ⟨m, found, -⟩ := sound.alarm.metric watched
    rw [found, named_composed distinct found]

end Distinct

theorem composed_iff : (checkResources provider (composed W F) false region).isEmpty = true ↔
    (checkResources provider (F.map Subtype.val) true region).isEmpty = true ∧
      (∀ w ∈ W, startsWith (provider.label ++ "_") w.val.type = true) ∧
      ((composed W F).map Resource.name).Nodup ∧
      ∀ ref ∈ deferredResourceRefs F, ∃ w ∈ W, ref = "manifest:" ++ w.val.name := by
  rw [checkResources_iff, checkResources_iff]
  have left : ∀ w ∈ W, w.val ∈ composed W F := fun w member =>
    List.mem_append_left _ (List.mem_map_of_mem member)
  have right : ∀ f ∈ F, f.val ∈ composed W F := fun f member =>
    List.mem_append_right _ (List.mem_map_of_mem member)
  constructor
  · rintro ⟨distinct, sound⟩
    refine ⟨⟨fragment_distinct distinct, ?_⟩, fun w member => (sound _ (left w member)).type, distinct, ?_⟩
    · intro r member
      obtain ⟨f, inside, rfl⟩ := List.mem_map.mp member
      exact sound_fragment distinct (sound _ (right f inside))
    · intro ref reported
      obtain ⟨f, inside, member⟩ := mem_deferredResourceRefs.mp reported
      exact (resolved_iff distinct (mem_manifestRefs.mp member).2).mp ((sound _ (right f inside)).refs ref member)
  · rintro ⟨⟨-, sound⟩, typed, distinct, resolved⟩
    refine ⟨distinct, fun r member => ?_⟩
    rcases List.mem_append.mp member with workload | monitoring
    · obtain ⟨w, inside, rfl⟩ := List.mem_map.mp workload
      exact sound_workload (typed w inside)
    · obtain ⟨f, inside, rfl⟩ := List.mem_map.mp monitoring
      exact sound_composed distinct (sound _ (List.mem_map_of_mem inside)) fun ref here =>
        resolved ref (mem_deferredResourceRefs.mpr ⟨f, inside, here⟩)

theorem interleaved_iff {resources : List Resource} (interleaved : resources.Perm (composed W F)) :
    (checkResources provider resources false region).isEmpty = true ↔
      (checkResources provider (composed W F) false region).isEmpty = true :=
  ⟨checkResources_perm interleaved, checkResources_perm interleaved.symm⟩

-- A manifest in any order is accepted exactly when its fragment is and its workloads answer the fragment.
theorem checkResources_interleaved (provider : Provider) (region : Option String) (W : List WorkloadResource)
    (F : List MonitoringResource) (resources : List Resource)
    (interleaved : resources.Perm (W.map Subtype.val ++ F.map Subtype.val)) :
    (checkResources provider resources false region).isEmpty = true ↔
      (checkResources provider (F.map Subtype.val) true region).isEmpty = true ∧
        (∀ w ∈ W, startsWith (provider.label ++ "_") w.val.type = true) ∧
        ((W.map Subtype.val ++ F.map Subtype.val).map Resource.name).Nodup ∧
        ∀ ref ∈ deferredResourceRefs F, ∃ w ∈ W, ref = "manifest:" ++ w.val.name := by
  rw [interleaved_iff interleaved]
  exact composed_iff

section Site

omit [PyUnicode]

def siteBucket : S3Resource := ⟨⟨"site", by decide⟩, true⟩

def siteMetric : AwsMetric where
  name := ⟨"requests", by decide⟩
  resourceRef := ⟨"manifest:site", by decide⟩
  metricName := ⟨"AllRequests", by decide⟩
  namespace_ := ⟨"Site", by decide⟩
  dimensions := ⟨[("BucketName", "site")], by decide⟩
  statistic := .sum
  storageResolutionSeconds := ⟨60, by decide⟩

theorem site_accepted : letI := asciiPython
    (checkResources .aws [.awsMetric siteMetric, .s3 siteBucket] false (some "eu-west-1")).isEmpty = true := by
  let _ := asciiPython
  refine (checkResources_interleaved .aws (some "eu-west-1") [⟨.s3 siteBucket, rfl⟩] [⟨.awsMetric siteMetric, rfl⟩] _
    (List.Perm.swap _ _ _)).mpr ⟨by decide, by decide, by decide, fun ref reported => ?_⟩
  refine ⟨_, List.mem_singleton_self _, ?_⟩
  obtain ⟨f, inside, member⟩ := mem_deferredResourceRefs.mp reported
  obtain rfl := List.mem_singleton.mp inside
  exact List.mem_singleton.mp (mem_manifestRefs.mp member).1

end Site

end Composition

end Provisr.Contracts
