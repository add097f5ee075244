import SentimentTree.Config.Basic
import SentimentTree.Decimal.Layout
import SentimentTree.Text.Lines
import SentimentTree.Toml.Document

/-! # Configurations as TOML documents

Reading a configuration fills every setting that the document leaves out with its default, the one
that stands with its reader in a section that is there, and passes over keys it does not know. A
section may also be given as an array of its settings in order.
Writing spells out every setting but the absent ones.
-/

namespace SentimentTree

namespace Toml

def text? : Toml → Option String
  | .string text => some text
  | _ => none

def bool? : Toml → Option Bool
  | .bool value => some value
  | _ => none

/-- A floating point number; an integer counts as one. -/
def number? : Toml → Option Float
  | .float value => some value
  | .int n => some (Decimal.toFloat (n < 0) (Decimal.BinaryFormat.double.nearest n.natAbs 1))
  | _ => none

/-- A floating point number rounded to thirty-two bits. -/
def single? : Toml → Option Float
  | .float value => some (Decimal.toSingle value)
  | .int n =>
    (Decimal.BinaryFormat.single.nearest n.natAbs 1).map fun x =>
      let (num, den) := x.ratio
      Decimal.toFloat (n < 0) (Decimal.BinaryFormat.double.nearest num den)
  | _ => none

def nat? : Toml → Option Nat
  | .int n => if 0 ≤ n then some n.toNat else none
  | _ => none

/-- The name of a choice: a string, or the one key of a table whose value is empty. -/
def choice? : Toml → Option String
  | .string name => some name
  | .table [(name, .table [])] => some name
  | .table [(name, .array [])] => some name
  | _ => none

def settings? (names : List String) : Toml → Option (List (Option Toml))
  | .table entries => some (names.map fun name => entries.lookup name)
  | .array items =>
    some ((items.take names.length).map some ++ List.replicate (names.length - items.length) none)
  | .moment => some (names.map fun _ => none)
  | _ => none

def withDefault {α : Type} (fallback : α) (read : Toml → Option α) : Option Toml → Option α
  | none => some fallback
  | some value => read value

end Toml

namespace OutputSettings

def names : List String := ["output", "hierarchy_output", "verbose"]

def ofToml? (value : Toml) : Option OutputSettings := do
  match ← value.settings? names with
  | [word, hierarchy, verbose] =>
    pure {
      word := ← Toml.withDefault "tree.lsys" Toml.text? word
      hierarchy := ← Toml.withDefault none (fun v => v.text?.map some) hierarchy
      verbose := ← Toml.withDefault false Toml.bool? verbose }
  | _ => none

end OutputSettings

def Toml.frequency? (value : Toml) : Option Calendar.Frequency := do
  match Calendar.Frequency.read (← value.text?).toList with
  | .ok frequency => some frequency
  | .error _ => none

def Calendar.BucketEdge.ofName? (name : String) : Option BucketEdge :=
  if name = "start" then some .first else if name = "end" then some .last else none

def Calendar.BucketEdge.name : BucketEdge → String
  | .first => "start"
  | .last => "end"

namespace AggregationSettings

def names : List String :=
  ["bucket_freq", "bucket_label", "contrast_factor", "max_tree_height", "min_trunk_height",
    "max_trunk_height", "normalized_count", "raw_count"]

def ofToml? (value : Toml) : Option AggregationSettings := do
  match ← value.settings? names with
  | [frequency, edge, contrast, tree, least, greatest, normalized, raw] =>
    pure {
      frequency := ← Toml.withDefault (.weekly .sunday) Toml.frequency? frequency
      edge := ← Toml.withDefault .last (fun v => v.choice?.bind Calendar.BucketEdge.ofName?) edge
      contrastFactor := ← Toml.withDefault 2.0 Toml.number? contrast
      maxTreeHeight := ← Toml.withDefault 600.0 Toml.number? tree
      minTrunkHeight := ← Toml.withDefault 10.0 Toml.number? least
      maxTrunkHeight := ← Toml.withDefault 40.0 Toml.number? greatest
      normalizedCount := ← Toml.withDefault true Toml.bool? normalized
      rawCount := ← Toml.withDefault true Toml.bool? raw }
  | _ => none

end AggregationSettings

namespace Geometry

def names : List String :=
  ["trunk_segment_height", "week_step", "week_length_base", "week_length_scale", "first_branch"]

def ofToml? (value : Toml) : Option Geometry := do
  match ← value.settings? names with
  | [segment, step, base, scale, side] =>
    pure {
      segmentHeight := ← Toml.withDefault 20.0 Toml.number? segment
      step := ← Toml.withDefault 8.0 Toml.number? step
      lengthBase := ← Toml.withDefault 10.0 Toml.number? base
      lengthScale := ← Toml.withDefault 0.5 Toml.number? scale
      firstSide := ← Toml.withDefault .right (fun v => v.choice?.bind Side.ofName?) side }
  | _ => none

end Geometry

namespace ClassifierSettings

def names : List String :=
  ["enabled", "model", "ollama_url", "temperature", "timeout_seconds", "batch_size",
    "concurrency", "retries"]

def ofToml? (value : Toml) : Option ClassifierSettings := do
  match ← value.settings? names with
  | [enabled, model, url, temperature, timeout, batch, width, retries] =>
    pure {
      enabled := ← Toml.withDefault false Toml.bool? enabled
      model := ← Toml.withDefault "llama3.2:latest" Toml.text? model
      url := ← Toml.withDefault "http://localhost:11434" Toml.text? url
      temperature := ← Toml.withDefault 0.0 Toml.single? temperature
      timeoutSeconds := ← Toml.withDefault 120 Toml.nat? timeout
      batchSize := ← Toml.withDefault 64 Toml.nat? batch
      width := ← Toml.withDefault 4 Toml.nat? width
      retries := ← Toml.withDefault 3 Toml.nat? retries }
  | _ => none

end ClassifierSettings

namespace Config

def ofEntries? (entries : List (String × Toml)) : Option Config := do
  pure {
    output := ← Toml.withDefault {} OutputSettings.ofToml? (entries.lookup "general")
    aggregation := ← Toml.withDefault {} AggregationSettings.ofToml? (entries.lookup "aggregation")
    geometry := ← Toml.withDefault {} Geometry.ofToml? (entries.lookup "grammar")
    classifier := ← Toml.withDefault {} ClassifierSettings.ofToml? (entries.lookup "classifier") }

def read? (text : List Char) : Option Config := (Toml.parse? text).bind ofEntries?

end Config

def settingLine (name : String) (value : List Char) : List Char :=
  name.toList ++ " = ".toList ++ value ++ ['\n']

def settingChar (c : Char) : List Char :=
  if c = '"' ∨ c = '\\' then ['\\', c]
  else if c.toNat < 0x20 ∨ c.toNat = 0x7F then
    ['\\', 'u', '0', '0', Nat.digitChar (c.toNat / 16), Nat.digitChar (c.toNat % 16)]
  else [c]

def settingText (text : String) : List Char := '"' :: text.toList.flatMap settingChar ++ ['"']

def settingNumber (x : Float) : List Char :=
  if x.isNaN then "nan".toList
  else
    let text := Decimal.plainText x
    if x.isInf || text.contains '.' then text else text ++ ".0".toList

def boolText (value : Bool) : List Char := (if value then "true" else "false").toList

namespace Config

def lines (config : Config) : List (String × List (String × List Char)) := [
  ("general",
    ("output", settingText config.output.word) ::
    (config.output.hierarchy.map fun file => ("hierarchy_output", settingText file)).toList ++
    [("verbose", boolText config.output.verbose)]),
  ("aggregation", [
    ("bucket_freq", '"' :: config.aggregation.frequency.code ++ ['"']),
    ("bucket_label", settingText config.aggregation.edge.name),
    ("contrast_factor", settingNumber config.aggregation.contrastFactor),
    ("max_tree_height", settingNumber config.aggregation.maxTreeHeight),
    ("min_trunk_height", settingNumber config.aggregation.minTrunkHeight),
    ("max_trunk_height", settingNumber config.aggregation.maxTrunkHeight),
    ("normalized_count", boolText config.aggregation.normalizedCount),
    ("raw_count", boolText config.aggregation.rawCount)]),
  ("grammar", [
    ("trunk_segment_height", settingNumber config.geometry.segmentHeight),
    ("week_step", settingNumber config.geometry.step),
    ("week_length_base", settingNumber config.geometry.lengthBase),
    ("week_length_scale", settingNumber config.geometry.lengthScale),
    ("first_branch", settingText config.geometry.firstSide.name)]),
  ("classifier", [
    ("enabled", boolText config.classifier.enabled),
    ("model", settingText config.classifier.model),
    ("ollama_url", settingText config.classifier.url),
    ("temperature", settingNumber config.classifier.temperature),
    ("timeout_seconds", Nat.toDigits 10 config.classifier.timeoutSeconds),
    ("batch_size", Nat.toDigits 10 config.classifier.batchSize),
    ("concurrency", Nat.toDigits 10 config.classifier.width),
    ("retries", Nat.toDigits 10 config.classifier.retries)])]

/-- The document of a configuration, sections with an empty line between. -/
def documentText (config : Config) : List Char :=
  Text.joinWith ['\n'] (config.lines.map fun (title, settings) =>
    '[' :: title.toList ++ ']' :: '\n' ::
      settings.flatMap fun (name, value) => settingLine name value)

def defaultDocument : List Char := documentText {}

end Config

end SentimentTree
