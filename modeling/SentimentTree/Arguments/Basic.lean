import SentimentTree.Calendar.Frequency
import SentimentTree.Log
import SentimentTree.Table.Format
import SentimentTree.Word.Geometry

/-! # Command line arguments

What a command line can ask for, and the checks on it that need no more than knowing which files
there are.
-/

namespace SentimentTree

/-- The requests of a command line. -/
structure Arguments where
  input : Option String := none
  output : Option String := none
  config : Option String := none
  hierarchyOut : Option String := none
  fromHierarchy : Option String := none
  frequency : Option Calendar.Frequency := none
  contrast : Option Float := none
  firstSide : Option Side := none
  classify : Bool := false
  model : Option String := none
  url : Option String := none
  batchSize : Option Nat := none
  width : Option Nat := none
  print : Bool := false
  verbose : Bool := false
  quiet : Bool := false
  initConfig : Bool := false
deriving DecidableEq

instance : Inhabited Arguments := ⟨{}⟩

/-- Why a command line cannot be carried out. -/
inductive ArgumentsProblem
  | verboseAndQuiet
  | noInput (path : String)
  | unsupportedFormat (path : String)
  | noHierarchy (path : String)
  | contrastNotPositive
  | noBatchSize
  | noWidth
  | urlScheme
deriving DecidableEq

/-- The complaint about a table file whose format is not known. -/
def unsupportedFormatMessage (path : String) : String :=
  "Unsupported input format (expected .csv or .json): " ++ path

def ArgumentsProblem.message : ArgumentsProblem → String
  | verboseAndQuiet => "Cannot use both --verbose and --quiet"
  | noInput path => "Input file does not exist: " ++ path
  | unsupportedFormat path => unsupportedFormatMessage path
  | noHierarchy path => "Hierarchy file does not exist: " ++ path
  | contrastNotPositive => "Contrast factor must be greater than 0"
  | noBatchSize => "Batch size must be at least 1"
  | noWidth => "Concurrency must be at least 1"
  | urlScheme => "Ollama URL must start with 'http://' or 'https://'"

namespace Arguments

/-- Whether an address starts like that of a web server. -/
def hasWebScheme (url : String) : Bool :=
  (Text.afterPrefix? "http://".toList url.toList).isSome ||
    (Text.afterPrefix? "https://".toList url.toList).isSome

/-- The first problem of a command line, given which paths are files. -/
def problem? (isFile : String → Bool) (args : Arguments) : Option ArgumentsProblem :=
  if args.initConfig then none
  else if args.verbose && args.quiet then some .verboseAndQuiet
  else
    (args.input.bind fun path =>
      if !isFile path then some (.noInput path)
      else if (TableFormat.ofPath? path).isNone then some (.unsupportedFormat path) else none)
    <|> (args.fromHierarchy.bind fun path =>
      if !isFile path then some (.noHierarchy path) else none)
    <|> (args.contrast.bind fun factor =>
      if !factor.isFinite || factor ≤ 0.0 then some .contrastNotPositive else none)
    <|> (if args.batchSize = some 0 then some .noBatchSize else none)
    <|> (if args.width = some 0 then some .noWidth else none)
    <|> (args.url.bind fun url => if hasWebScheme url then none else some .urlScheme)

def validate (isFile : String → Bool) (args : Arguments) : Except ArgumentsProblem Unit :=
  match args.problem? isFile with
  | some problem => .error problem
  | none => .ok ()

/-- The least grave level of log lines that a command line asks for. -/
def logLevel (args : Arguments) : LogLevel :=
  if args.quiet then .error else if args.verbose then .debug else .info

end Arguments

end SentimentTree
