/-
Module: SqlLineage.Config.Document
Purpose: Reading and writing configuration documents. Every option may be missing and has a default,
  and options that are not known are passed over. The written forms of a document differ in how they
  spell a record, a list and the single values; the options are the same in each.
Main exports: DocumentForm, DocumentForm.json, readConfiguration, Configuration.toJson
-/
import SqlLineage.Config.Basic
import SqlLineage.Json.Record

namespace SqlLineage.Config

open SqlLineage.Flow (ClassificationOptions LayoutOptions)

/-- How a written form of documents spells the parts of a configuration. -/
structure DocumentForm (δ : Type) where
  /-- The options with these names that a section gives. -/
  record : List String → δ → Option (List (String × δ))
  items : δ → Option (List δ)
  text : δ → Option String
  flag : δ → Option Bool
  natural : δ → Option Nat
  real : δ → Option Float

/-- Documents in JSON. -/
def DocumentForm.json : DocumentForm Json :=
  { record := Json.record
    items := Json.asList some
    text := Json.asString
    flag := Json.asBool
    natural := Json.asNat
    real := Json.asFloat }

section

variable {δ : Type} (form : DocumentForm δ)

/-- An option with the value to take if it is not given. -/
def option (read : δ → Option α) (value : α) (name : String) (given : List (String × δ)) :
    Option α :=
  match given.lookup name with
  | some written => read written
  | none => some value

def texts (document : δ) : Option (List String) := do
  (← form.items document).mapM form.text

def readClassification (document : δ) : Option ClassificationOptions := do
  let given ← form.record [
    "fact_min_joins", "dimension_min_joins", "temp_prefixes", "temp_suffixes", "fact_prefixes",
    "fact_suffixes", "dimension_prefixes", "dimension_suffixes"] document
  let defaults : ClassificationOptions := {}
  pure {
    factMinJoins := ← option form.natural defaults.factMinJoins "fact_min_joins" given
    dimensionMinJoins :=
      ← option form.natural defaults.dimensionMinJoins "dimension_min_joins" given
    tempPrefixes := ← option (texts form) defaults.tempPrefixes "temp_prefixes" given
    tempSuffixes := ← option (texts form) defaults.tempSuffixes "temp_suffixes" given
    factPrefixes := ← option (texts form) defaults.factPrefixes "fact_prefixes" given
    factSuffixes := ← option (texts form) defaults.factSuffixes "fact_suffixes" given
    dimensionPrefixes :=
      ← option (texts form) defaults.dimensionPrefixes "dimension_prefixes" given
    dimensionSuffixes :=
      ← option (texts form) defaults.dimensionSuffixes "dimension_suffixes" given }

def readLayout (document : δ) : Option LayoutOptions := do
  let given ← form.record ["layer_spacing", "node_spacing", "result_node"] document
  let defaults : LayoutOptions := {}
  pure {
    layerSpacing := ← option form.real defaults.layerSpacing "layer_spacing" given
    nodeSpacing := ← option form.real defaults.nodeSpacing "node_spacing" given
    resultNode := ← option form.flag defaults.resultNode "result_node" given }

def readRemote (document : δ) : Option RemoteOptions := do
  let given ← form.record ["enabled", "endpoint", "timeout_ms"] document
  let defaults : RemoteOptions := {}
  pure {
    enabled := ← option form.flag defaults.enabled "enabled" given
    endpoint := ← option form.text defaults.endpoint "endpoint" given
    timeoutMillis := ← option form.natural defaults.timeoutMillis "timeout_ms" given }

/-- The configuration that a document holds. -/
def readConfiguration (document : δ) : Option Configuration := do
  let given ← form.record ["dialect", "remote", "classification", "layout"] document
  let defaults : Configuration := {}
  pure {
    dialect := ← option form.text defaults.dialect "dialect" given
    remote := ← option (readRemote form) defaults.remote "remote" given
    classification := ← option (readClassification form) defaults.classification
      "classification" given
    layout := ← option (readLayout form) defaults.layout "layout" given }

end

/-! ### Writing -/

def classificationJson (options : ClassificationOptions) : Json :=
  .obj [
    ("fact_min_joins", .nat options.factMinJoins),
    ("dimension_min_joins", .nat options.dimensionMinJoins),
    ("temp_prefixes", .strings options.tempPrefixes),
    ("temp_suffixes", .strings options.tempSuffixes),
    ("fact_prefixes", .strings options.factPrefixes),
    ("fact_suffixes", .strings options.factSuffixes),
    ("dimension_prefixes", .strings options.dimensionPrefixes),
    ("dimension_suffixes", .strings options.dimensionSuffixes)]

def layoutJson (options : LayoutOptions) : Json :=
  .obj [
    ("layer_spacing", .float options.layerSpacing),
    ("node_spacing", .float options.nodeSpacing),
    ("result_node", .bool options.resultNode)]

def RemoteOptions.toJson (options : RemoteOptions) : Json :=
  .obj [
    ("enabled", .bool options.enabled),
    ("endpoint", .str options.endpoint),
    ("timeout_ms", .nat options.timeoutMillis)]

/-- The document of a configuration. -/
def Configuration.toJson (configuration : Configuration) : Json :=
  .obj [
    ("dialect", .str configuration.dialect),
    ("remote", configuration.remote.toJson),
    ("classification", classificationJson configuration.classification),
    ("layout", layoutJson configuration.layout)]

end SqlLineage.Config
