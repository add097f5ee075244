import SentimentTree.Aggregation.Settings
import SentimentTree.Classifier.Exchange
import SentimentTree.Word.Geometry

/-! # Configuration

Everything a run can be told by a configuration file: where results go, how messages are aggregated,
how the word is drawn, and which model classifies messages. Every setting has a default.
-/

namespace SentimentTree

/-- Where results go, and how much is told about the work. -/
structure OutputSettings where
  /-- The file of the word. -/
  word : String := "tree.lsys"
  /-- The file of the tree, if it is wanted. -/
  hierarchy : Option String := none
  verbose : Bool := false
deriving DecidableEq

/-- How messages are classified. -/
structure ClassifierSettings where
  enabled : Bool := false
  model : String := "llama3.2:latest"
  url : String := "http://localhost:11434"
  /-- A number of thirty-two bits. -/
  temperature : Float := 0.0
  timeoutSeconds : Nat := 120
  batchSize : Nat := 64
  /-- The number of batches in flight. -/
  width : Nat := 4
  retries : Nat := 3
deriving DecidableEq

def ClassifierSettings.server (settings : ClassifierSettings) : ServerSettings where
  model := settings.model
  url := settings.url
  temperature := settings.temperature
  timeoutSeconds := settings.timeoutSeconds
  retries := settings.retries

/-- A whole configuration. -/
structure Config where
  output : OutputSettings := {}
  aggregation : AggregationSettings := {}
  geometry : Geometry := {}
  classifier : ClassifierSettings := {}
deriving DecidableEq

instance : Inhabited Config := ⟨{}⟩

/-- The file that is looked for when no other is named. -/
def Config.defaultFile : String := ".sentitree.toml"

end SentimentTree
