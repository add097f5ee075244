import SentimentTree.Aggregation.Tree
import SentimentTree.Arguments.Basic
import SentimentTree.Config.Merge
import SentimentTree.Hierarchy.Document
import SentimentTree.Run.Host
import SentimentTree.Table.Sheet
import SentimentTree.Word.Produce

/-! # The pipeline

From a message table, or a stored tree, to the word: reading, scoring, aggregating, storing the tree
if asked, producing and checking the word, and writing it, with a report on the way.
-/

namespace SentimentTree

section
variable {m : Type → Type} [Monad m] (host : Host m)

/-- A step of a run, which a problem may stop. -/
abbrev Run (m : Type → Type) (α : Type) : Type := ExceptT RunProblem m α

/-- A step that fails with the problem that a value carries. -/
def Run.ofExcept {α ε : Type} (wrap : ε → RunProblem) : Except ε α → Run m α
  | .ok value => pure value
  | .error problem => throw (wrap problem)

def say (line : String) : Run m Unit := ExceptT.lift (host.print line)

def note (level : LogLevel) (message : String) : Run m Unit :=
  ExceptT.lift (host.log ⟨level, message⟩)

/-- The problem of a message table that cannot be had. A directory can be opened, so it counts as a
table that cannot be read. -/
def tableProblem (path : String) (unreadable : RunProblem) : FileFault → RunProblem
  | .isDirectory => unreadable
  | fault => .cannotOpen path fault

def loadRows (path : String) : Run m (List MessageRow) := do
  match TableFormat.ofPath? path with
  | none => throw (.unsupportedFormat path)
  | some format =>
    note host .info ("Loading messages from " ++ path ++ " (" ++ format.name ++ ")")
    let content ← ExceptT.lift (host.read path)
    let rows ← match format with
      | .csv => do
        let bytes ← Run.ofExcept (tableProblem path (.badRow 1 path)) content
        Run.ofExcept (.badRow · path) (MessageRow.ofSheet (Text.glyphs bytes))
      | .json => do
        let bytes ← Run.ofExcept (tableProblem path (.badTable path)) content
        match MessageRow.ofDocument? (Text.glyphs bytes) with
        | some rows => pure rows
        | none => throw (.badTable path)
    note host .debug ("Loaded " ++ toString rows.length ++ " rows")
    pure rows

def classifyRows (settings : ClassifierSettings) (rows : List MessageRow) :
    Run m (List ScoredMessage) := do
  note host .info
    ("Initializing classifier with model " ++ settings.model ++ " at " ++ settings.url)
  let report (event : ScoringEvent) : m Unit :=
    let level : LogLevel := match event with
      | .sending .. => .info
      | .received _ => .debug
    host.log ⟨level, event.message⟩
  let classify (_ : Nat) (texts : List String) : m BatchOutcome :=
    (host.wire settings.timeoutSeconds).classify settings.server texts
  let result ← ExceptT.lift
    (scoreWith report classify (fun _ => 0) rows settings.batchSize settings.width)
  Run.ofExcept (fun problem => .pipeline (.ofScoring problem)) result

def growTree (power : Float → Float → Float) (settings : AggregationSettings)
    (messages : List ScoredMessage) : Run m Hierarchy := do
  let tree ← Run.ofExcept (fun problem => .pipeline (.aggregation problem))
    (aggregate power settings messages)
  note host .debug ("Bucketed " ++ toString messages.length ++ " messages into " ++
    toString tree.bucketCount ++ " " ++ String.ofList settings.frequency.code ++ " buckets")
  note host .debug ("Grouped into " ++ toString tree.totalMonths ++ " months, trunk height " ++
    String.ofList (Decimal.fixedText 2 tree.trunkHeight))
  pure tree

def buildTree (power : Float → Float → Float) (path : String) (config : Config) :
    Run m Hierarchy := do
  say host ("📥 Reading messages: " ++ path)
  let rows ← loadRows host path
  note host .info ("Read " ++ toString rows.length ++ " rows")
  let messages ←
    if config.classifier.enabled then do
      say host "🤖 Classifying sentiment..."
      say host ("   Model: " ++ config.classifier.model)
      say host ("   Ollama: " ++ config.classifier.url)
      say host ("   Batches: " ++ toString config.classifier.batchSize ++ " messages, " ++
        toString config.classifier.width ++ " in flight")
      classifyRows host config.classifier rows
    else Run.ofExcept (fun error => .pipeline (.row error)) (scoreRows rows)
  say host ("🧮 Aggregating " ++ toString messages.length ++ " messages (" ++
    String.ofList config.aggregation.frequency.code ++ " buckets, contrast " ++
    String.ofList (Decimal.plainText config.aggregation.contrastFactor) ++ ")...")
  growTree host power config.aggregation messages

/-- The tree of a document text that is accepted under the settings' trunk bounds. -/
def readTree (settings : AggregationSettings) (path : String) (text : List Char) :
    Except RunProblem Hierarchy :=
  match Hierarchy.ofDocumentText? text with
  | none => .error (.badHierarchy path)
  | some tree =>
    match tree.validate settings.minTrunkHeight settings.maxTrunkHeight with
    | .ok () => .ok tree
    | .error problem => .error (.inconsistentHierarchy path problem)

def loadTree (settings : AggregationSettings) (path : String) : Run m Hierarchy := do
  let text ← Run.ofExcept (.cannotReadHierarchy path) (← ExceptT.lift (host.readText path))
  Run.ofExcept id (readTree settings path text.toList)

def storeTree (tree : Hierarchy) (path : String) : Run m Unit := do
  let written ← ExceptT.lift (host.write path (String.ofList tree.documentText))
  Run.ofExcept (.cannotWriteHierarchy path) written

/-- The word of a tree and what it holds, once geometry and word have been checked. -/
def checkedWord (geometry : Geometry) (tree : Hierarchy) :
    Except PipelineError (List Char × WordStats) := do
  match geometry.validate with
  | .error problem => throw (.geometry problem)
  | .ok () =>
    match checkWord (tree.word geometry) with
    | .error problem => throw (.word problem)
    | .ok stats => pure (tree.word geometry, stats)

/-- The number of messages for the report, which breaks off if there is none. -/
def countMessages (tree : Hierarchy) : Run m UInt64 :=
  match tree.messageCount? with
  | some count => pure count
  | none => throw .countOverflow

def summarize (tree : Hierarchy) (word : List Char) (path : String) : Run m Unit := do
  let seconds ← ExceptT.lift host.elapsed
  say host "\n📊 Tree Summary:"
  let count ← countMessages tree
  say host ("   Messages: " ++ toString count.toNat)
  say host ("   Months: " ++ toString tree.totalMonths ++ " | Buckets: " ++
    toString tree.bucketCount)
  say host ("   Trunk height: " ++ String.ofList (Decimal.fixedText 1 tree.trunkHeight))
  say host ("   Word length: " ++ toString (String.ofList word).utf8ByteSize ++ " chars")
  say host ("   Duration: " ++ String.ofList (Decimal.fixedText 1 seconds) ++ "s")
  say host ("\n✅ Done! Word saved to: " ++ path)

def obtainTree (power : Float → Float → Float) (args : Arguments) (config : Config) :
    Run m Hierarchy := do
  match args.fromHierarchy with
  | some path =>
    say host ("📂 Loading hierarchy: " ++ path)
    loadTree host config.aggregation path
  | none =>
    match args.input with
    | some path => buildTree host power path config
    | none => throw .noInput

/-- Stores the tree if the settings name a file for it. -/
def keepTree (output : OutputSettings) (tree : Hierarchy) : Run m Unit := do
  match output.hierarchy with
  | some path =>
    storeTree host tree path
    say host ("💾 Hierarchy saved to: " ++ path)
  | none => pure ()

/-- Produces the word of a tree, checks it and writes it, and reports on the work. -/
def produceWord (args : Arguments) (config : Config) (tree : Hierarchy) : Run m Unit := do
  say host "\n🌱 Producing grammar word..."
  let (word, stats) ← Run.ofExcept .pipeline (checkedWord config.geometry tree)
  note host .debug ("Word has " ++ toString stats.segments ++ " trunk segments, " ++
    toString stats.steps ++ " steps, " ++ toString stats.fruits ++ " fruits, depth " ++
    toString stats.maxDepth)
  let written ← ExceptT.lift (host.write config.output.word (String.ofList word))
  Run.ofExcept (.cannotWriteWord config.output.word) written
  if args.print then say host ("\n" ++ String.ofList word)
  summarize host tree word config.output.word

def runPipeline (power : Float → Float → Float) (args : Arguments) (config : Config) :
    Run m Unit := do
  let tree ← obtainTree host power args config
  if tree.months.isEmpty then
    note host .warning "No messages to aggregate; the word will be empty"
  keepTree host config.output tree
  produceWord host args config tree

end

end SentimentTree
