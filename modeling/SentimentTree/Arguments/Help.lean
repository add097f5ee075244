import SentimentTree.Arguments.Parse

/-! # Help

What the program says about its command line on request: every option with its letter, its value and
its meaning.
-/

namespace SentimentTree

namespace OptionName

/-- What the value of an option is, for options that take one. -/
def valueName? : OptionName → Option String
  | input | output | config | hierarchyOut | fromHierarchy => some "FILE"
  | bucketFreq => some "FREQ"
  | contrast => some "FACTOR"
  | firstBranch => some "SIDE"
  | model => some "MODEL"
  | ollamaUrl => some "OLLAMA_URL"
  | batchSize => some "COUNT"
  | concurrency => some "NUM"
  | _ => none

def purpose : OptionName → String
  | input => "Message table to read (.csv or .json)"
  | output => "Output file for the grammar word"
  | config => "Path to configuration file"
  | hierarchyOut => "Also write the aggregated hierarchy as JSON"
  | fromHierarchy => "Produce the word from a previously written hierarchy JSON"
  | bucketFreq => "Bucket width: D, W (= W-SUN), W-MON .. W-SAT, or M"
  | contrast => "Contrast factor applied to bucket sentiment (> 0)"
  | firstBranch => "Lean of the first month branch; later months alternate"
  | classify => "Classify messages with Ollama instead of reading sentiment_score"
  | model => "Ollama model used by --classify [env: SENTITREE_MODEL]"
  | ollamaUrl => "Ollama API endpoint URL [env: OLLAMA_URL]"
  | batchSize => "Messages per classification request"
  | concurrency => "Classification requests in flight at once"
  | print => "Also print the grammar word to stdout"
  | verbose => "Enable verbose logging output"
  | quiet => "Run in quiet mode (minimal output)"
  | initConfig => "Generate a default .sentitree.toml configuration file"
  | help => "Print help"
  | version => "Print version"

def usage (option : OptionName) : String :=
  let letter := match option.short? with
    | some letter => "-" ++ String.ofList [letter] ++ ", "
    | none => "    "
  let value := match option.valueName? with
    | some name => " <" ++ name ++ ">"
    | none => ""
  letter ++ "--" ++ option.long ++ value

end OptionName

/-- What the program says about its command line. -/
def helpText : String :=
  "Usage: sentitree [OPTIONS]\n\nOptions:\n" ++ "\n".intercalate
    (OptionName.all.map fun option => "  " ++ option.usage ++ "\n          " ++ option.purpose)

end SentimentTree
