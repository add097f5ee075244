import SentimentTree.Arguments.Basic
import SentimentTree.Config.Basic

/-! # Command lines over configurations

What the command line gives takes the place of what the configuration says; everything else stays.
-/

namespace SentimentTree

/-- The configuration with the command line's requests in force. -/
def Config.merge (config : Config) (args : Arguments) : Config where
  output := {
    word := args.output.getD config.output.word
    hierarchy := args.hierarchyOut <|> config.output.hierarchy
    verbose := config.output.verbose || args.verbose }
  aggregation := { config.aggregation with
    frequency := args.frequency.getD config.aggregation.frequency
    contrastFactor := args.contrast.getD config.aggregation.contrastFactor }
  geometry := { config.geometry with
    firstSide := args.firstSide.getD config.geometry.firstSide }
  classifier := { config.classifier with
    enabled := config.classifier.enabled || args.classify
    model := args.model.getD config.classifier.model
    url := args.url.getD config.classifier.url
    batchSize := args.batchSize.getD config.classifier.batchSize
    width := args.width.getD config.classifier.width }

end SentimentTree
