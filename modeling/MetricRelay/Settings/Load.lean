/-
Loading the settings.

The sections of a configuration are checked in order, and in each section the members; what is
absent has its default, and unknown members do not matter.  Before that, three variables of the
environment are written into the configuration, as far as they are not empty.
-/
import MetricRelay.Json.Lenient
import MetricRelay.Settings.Basic
import MetricRelay.Settings.Leaf
import MetricRelay.Settings.Prefixes

namespace MetricRelay.Settings

open Checked

/-- A word that has to be one of the log formats. -/
def checkLogFormat : Json → Checked LogFormat
  | .text s => withText s fun
    | "json" => valid .json
    | "text" => valid .text
    | _ => problem .notListed
  | _ => problem .notListed

/-- The settings of the process. -/
def checkGeneral : Json → Checked General :=
  model fun ms =>
    General.mk <$> optional ms "log_level" "INFO" checkText
      <*> optional ms "log_format" .text checkLogFormat
      <*> optional ms "control_api_enabled" true checkBool
      <*> optional ms "control_api_port" 8081 checkInt

/-- The settings of the exposing server. -/
def checkExposure : Json → Checked Exposure :=
  model fun ms =>
    Exposure.mk <$> optional ms "port" 9255 checkInt
      <*> optional ms "bind_address" "0.0.0.0" checkText
      <*> optional ms "namespace" "stackdriver" checkText

/-- The settings of the requests. -/
def checkApi : Json → Checked Api :=
  model fun ms =>
    Api.mk <$> optional ms "base_url" "https://monitoring.googleapis.com/v3" checkText
      <*> optional ms "timeout_s" 30.0 checkFloat
      <*> optional ms "page_size" none (orNull checkInt)
      <*> optional ms "access_token" none (orNull checkText)

/-- Prefixes of metric types, at least one; those that others cover are dropped. -/
def checkPrefixes (v : Json) : Checked (List String) :=
  (list checkText v).andThen fun
    | [] => problem (.broken "At least one metric type prefix must be defined")
    | ps => valid (minimalPrefixes ps)

/-- An extra filter. -/
def checkExtraFilter : Json → Checked ExtraFilter :=
  model fun ms =>
    ExtraFilter.mk <$> required ms "targeted_metric_prefix" checkText
      <*> required ms "filter_query" checkText

/-- An aggregation. -/
def checkAggregation : Json → Checked Aggregation :=
  model fun ms =>
    Aggregation.mk <$> required ms "targeted_metric_prefix" checkText
      <*> optional ms "alignment_period" "60s" checkText
      <*> optional ms "cross_series_reducer" "REDUCE_NONE" checkText
      <*> optional ms "group_by_fields" [] (list checkText)
      <*> optional ms "per_series_aligner" "ALIGN_NONE" checkText

/-- The extra filter that a text in the short form writes. -/
def shortExtraFilter (s : String) : Checked ExtraFilter :=
  match ExtraFilter.parse s with
  | .ok f => checkExtraFilter f.toJson
  | .error fault => problem (.broken (fault.message?.getD ""))

/-- The aggregation that a text in the short form writes. -/
def shortAggregation (s : String) : Checked Aggregation :=
  match Aggregation.parse s with
  | .ok a => checkAggregation a.toJson
  | .error fault => problem (.broken (fault.message?.getD ""))

/-- The word for the shape of a value. -/
def shape : Json → String
  | .null => "NoneType"
  | .bool _ => "bool"
  | .int _ => "int"
  | .real _ => "float"
  | .text _ => "str"
  | .list _ => "list"
  | .object _ => "dict"

/-- Reads the texts among some values, as far as the first that is not in order. -/
def readTexts {α : Type} (read : String → Checked α) : List Json → Checked (List (Json ⊕ α))
  | [] => valid []
  | .text s :: vs => (read s).andThen fun a => (readTexts read vs).map (.inr a :: ·)
  | v :: vs => (readTexts read vs).map (.inl v :: ·)

/-- Checks the values that were no texts, each at its index. -/
def checkOthers {α : Type} (check : Json → Checked α) : Nat → List (Json ⊕ α) → Checked (List α)
  | _, [] => valid []
  | n, .inr a :: vs => (checkOthers check (n + 1) vs).map (a :: ·)
  | n, .inl v :: vs =>
    (((check v).below (.index n)).pair (checkOthers check (n + 1) vs)).map fun p => p.1 :: p.2

/-- A list whose elements are objects or texts in a short form; what is vacant is empty. -/
def checkShortForms {α : Type} (read : String → Checked α) (check : Json → Checked α)
    (v : Json) : Checked (List α) :=
  if v.isVacant then valid []
  else
    match v.items with
    | .error _ => crashed (.notIterable (shape v))
    | .ok vs => (readTexts read vs).andThen (checkOthers check 0)

/-- The settings of what is collected. -/
def checkCollection : Json → Checked Collection :=
  model fun ms =>
    let prefixes := (checkPrefixes ((Json.member? ms "metrics_prefixes").getD (.list []))).below
      (.key "metrics_prefixes")
    Collection.mk <$> optional ms "project_id" "" checkText
      <*> prefixes
      <*> optional ms "extra_filters" [] (checkShortForms shortExtraFilter checkExtraFilter)
      <*> optional ms "aggregations" [] (checkShortForms shortAggregation checkAggregation)
      <*> optional ms "interval" ⟨300000000⟩ checkSpan
      <*> optional ms "offset" ⟨0⟩ checkSpan
      <*> optional ms "ingest_delay" false checkBool
      <*> optional ms "fill_missing_labels" true checkBool
      <*> optional ms "drop_delegated_projects" false checkBool
      <*> optional ms "aggregate_deltas" false checkBool
      <*> optional ms "aggregate_deltas_ttl" ⟨1800000000⟩ checkSpan
      <*> optional ms "sweep_interval" ⟨60000000⟩ checkSpan
      <*> optional ms "descriptor_cache_ttl" ⟨0⟩ checkSpan
      <*> optional ms "descriptor_cache_only_google" true checkBool

/-- The section of the process, under either of its names; the first one counts. -/
def checkGeneralSection (ms : List (String × Json)) : Checked General :=
  match Json.member? ms "global" with
  | some v => (checkGeneral v).below (.key "global")
  | none => optional ms "global_" {} checkGeneral

/-- All settings; a project has to be named. -/
def checkSettings (ms : List (String × Json)) : Checked Settings :=
  (Settings.mk <$> checkGeneralSection ms
    <*> optional ms "exporter" {} checkExposure
    <*> optional ms "api" {} checkApi
    <*> required ms "monitoring" checkCollection).andThen fun s =>
      if s.collection.projectId.isEmpty then
        problem (.broken "monitoring.project_id must be set")
      else valid s

/-- The variables of the environment; an empty one counts as unset. -/
structure Environment where
  projectId : String := ""
  accessToken : String := ""
  logLevel : String := ""
deriving DecidableEq, Repr

/-- Why the settings cannot be loaded. -/
inductive LoadFault where
  | noFile (path : String)
  /-- There is a folder instead of a file. -/
  | folder (path : String)
  /-- There is nothing where a path should be. -/
  | noPath
  /-- Variables are to be written into a configuration that is no object. -/
  | rootNotObject (shape : String)
  /-- A variable is to be written into a section that is no object. -/
  | sectionNotObject (shape : String)
  /-- A configuration is no object. -/
  | notMapping (shape : String)
  | invalid (problems : List Problem)
  | crashed (c : Crash)
deriving DecidableEq, Repr

/-- An object in which a member of a section has a value; an empty value changes nothing. -/
def override (sectionName key value : String) (root : Json) : Except LoadFault Json :=
  if value.isEmpty then .ok root
  else
    match root with
    | .object ms =>
      match (Json.member? ms sectionName).getD (.object []) with
      | .object inner =>
        .ok (.object (Assoc.put ms sectionName (.object (Assoc.put inner key (.text value)))))
      | v => .error (.sectionNotObject (shape v))
    | v => .error (.rootNotObject (shape v))

/-- A configuration with the variables of the environment. -/
def applyEnvironment (env : Environment) (root : Json) : Except LoadFault Json := do
  let root ← override "monitoring" "project_id" env.projectId root
  let root ← override "api" "access_token" env.accessToken root
  override "global" "log_level" env.logLevel root

/-- The settings of a configuration; a vacant one counts as an empty object. -/
def load (env : Environment) (config : Json) : Except LoadFault Settings := do
  match ← applyEnvironment env (Json.orEmpty (some config)) with
  | .object ms =>
    match checkSettings ms with
    | valid s => .ok s
    | invalid ps => .error (.invalid ps)
    | crashed c => .error (.crashed c)
  | v => .error (.notMapping (shape v))

/-- The text of an overlong span. -/
def spanFaultText : Time.SpanFault → String
  | .infinite => "cannot convert float infinity to integer"
  | .notANumber => "cannot convert float NaN to integer"
  | .tooLong days =>
    if -2147483648 ≤ days ∧ days < 2147483648 then
      "days=" ++ toString days ++ "; must have magnitude <= 999999999"
    else "Python int too large to convert to C int"

/-- The text about a configuration that cannot be loaded; of the problems of an invalid one only
their count. -/
def LoadFault.message : LoadFault → String
  | noFile path => "Configuration file not found: " ++ path
  | folder path => "[Errno 21] Is a directory: " ++ Text.quoted path
  | noPath => "stat: path should be string, bytes, os.PathLike or integer, not list"
  | rootNotObject shape => "'" ++ shape ++ "' object has no attribute 'setdefault'"
  | sectionNotObject shape =>
    if shape = "list" then "list indices must be integers or slices, not str"
    else "'" ++ shape ++ "' object does not support item assignment"
  | notMapping shape => failed ++
      "gcm_exporter.config.Config() argument after ** must be a mapping, not " ++ shape
  | invalid ps => failed ++ toString ps.length ++
      (if ps.length = 1 then " validation error" else " validation errors") ++ " for Config"
  | crashed (.notIterable shape) => failed ++ "'" ++ shape ++ "' object is not iterable"
  | crashed (.span fault) => failed ++ spanFaultText fault
where
  failed : String := "Configuration validation failed: "

end MetricRelay.Settings
