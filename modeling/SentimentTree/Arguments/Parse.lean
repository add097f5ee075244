import SentimentTree.Arguments.Basic
import SentimentTree.Decimal.Reader

/-! # Parsing command lines

A command line is read word by word. An option waits for its value, which may be attached or be the
next word that does not look like an option; a waiting option is settled when the next option is
recognised or the line ends, so complaints about it come then. Two options may take their value from
the environment.
-/

namespace SentimentTree

/-- The options of the command line. -/
inductive OptionName
  | input | output | config | hierarchyOut | fromHierarchy | bucketFreq | contrast | firstBranch
  | classify | model | ollamaUrl | batchSize | concurrency | print | verbose | quiet | initConfig
  | help | version
deriving DecidableEq

namespace OptionName

def all : List OptionName :=
  [input, output, config, hierarchyOut, fromHierarchy, bucketFreq, contrast, firstBranch,
    classify, model, ollamaUrl, batchSize, concurrency, print, verbose, quiet, initConfig, help,
    version]

def long : OptionName → String
  | input => "input" | output => "output" | config => "config"
  | hierarchyOut => "hierarchy-out" | fromHierarchy => "from-hierarchy"
  | bucketFreq => "bucket-freq" | contrast => "contrast" | firstBranch => "first-branch"
  | classify => "classify" | model => "model" | ollamaUrl => "ollama-url"
  | batchSize => "batch-size" | concurrency => "concurrency" | print => "print"
  | verbose => "verbose" | quiet => "quiet" | initConfig => "init-config"
  | help => "help" | version => "version"

/-- The letter after one hyphen, for the options that have one. -/
def short? : OptionName → Option Char
  | input => some 'i' | output => some 'o' | config => some 'c' | model => some 'm'
  | verbose => some 'v' | quiet => some 'q' | help => some 'h' | version => some 'V'
  | _ => none

def isFlag : OptionName → Bool
  | classify | print | verbose | quiet | initConfig | help | version => true
  | _ => false

def ofLong? (name : String) : Option OptionName := all.find? fun option => option.long == name

def ofShort? (letter : Char) : Option OptionName :=
  all.find? fun option => option.short? == some letter

end OptionName

/-- Why a command line is refused, or what it asks for instead of a run. -/
inductive UsageError
  | unknownArgument
  | tooManyValues
  | invalidValue
  | valueValidation
  | argumentConflict
  | missingRequired
  | displayHelp
  | displayVersion
deriving DecidableEq

/-- The state of reading a command line. -/
structure ArgumentScan where
  /-- The options settled so far. -/
  settled : List OptionName := []
  arguments : Arguments := {}
  /-- An option that is not settled yet, with its value once it has one. -/
  waiting : Option (OptionName × Option String) := none
  /-- Whether the next word may be the value of the waiting option. -/
  expecting : Bool := false
  /-- Whether the words since a double hyphen are no options. -/
  escaped : Bool := false

/-- A file name, which is never empty. -/
def filePath (value : String) : Except UsageError String :=
  if value.isEmpty then .error .invalidValue else .ok value

/-- A value that a reader has to accept. -/
def requireValue {α : Type} : Option α → Except UsageError α
  | some value => .ok value
  | none => .error .valueValidation

def countValue (value : String) : Except UsageError Nat :=
  requireValue (Decimal.readUnsigned? Decimal.maxUnsigned64 value.toList)

namespace Arguments

def withValue (args : Arguments) (name : OptionName) (value : String) :
    Except UsageError Arguments := do
  match name with
  | .input => pure { args with input := some (← filePath value) }
  | .output => pure { args with output := some (← filePath value) }
  | .config => pure { args with config := some (← filePath value) }
  | .hierarchyOut => pure { args with hierarchyOut := some (← filePath value) }
  | .fromHierarchy => pure { args with fromHierarchy := some (← filePath value) }
  | .bucketFreq =>
    match Calendar.Frequency.read value.toList with
    | .ok frequency => pure { args with frequency := some frequency }
    | .error _ => throw .valueValidation
  | .contrast =>
    pure { args with contrast := some (← requireValue (Decimal.readFloat? value.toList)) }
  | .firstBranch =>
    match Side.ofName? value with
    | some side => pure { args with firstSide := some side }
    | none => throw .invalidValue
  | .model => pure { args with model := some value }
  | .ollamaUrl => pure { args with url := some value }
  | .batchSize => pure { args with batchSize := some (← countValue value) }
  | .concurrency => pure { args with width := some (← countValue value) }
  | _ => pure args

def withFlag (args : Arguments) (name : OptionName) : Arguments :=
  match name with
  | .classify => { args with classify := true }
  | .print => { args with print := true }
  | .verbose => { args with verbose := true }
  | .quiet => { args with quiet := true }
  | .initConfig => { args with initConfig := true }
  | _ => args

end Arguments

namespace ArgumentScan

/-- The scan with an option and its value settled; an option is given once. -/
def accept (scan : ArgumentScan) (name : OptionName) (value : String) :
    Except UsageError ArgumentScan := do
  if scan.settled.contains name then throw .argumentConflict
  let arguments ← scan.arguments.withValue name value
  pure { scan with settled := name :: scan.settled, arguments }

def settle (scan : ArgumentScan) : Except UsageError ArgumentScan :=
  match scan.waiting with
  | none => .ok { scan with expecting := false }
  | some (_, none) => .error .invalidValue
  | some (name, some value) => { scan with waiting := none, expecting := false }.accept name value

def flag (scan : ArgumentScan) (name : OptionName) : Except UsageError ArgumentScan := do
  let scan ← scan.settle
  match name with
  | .help => throw .displayHelp
  | .version => throw .displayVersion
  | _ =>
    if scan.settled.contains name then throw .argumentConflict
    pure { scan with
      settled := name :: scan.settled, arguments := scan.arguments.withFlag name }

/-- The scan after an option that takes a value, attached or to come. -/
def option (scan : ArgumentScan) (name : OptionName) (attached : Option String) :
    Except UsageError ArgumentScan := do
  let scan ← scan.settle
  match attached with
  | some value => scan.accept name value
  | none => pure { scan with waiting := some (name, none), expecting := true }

/-- The scan after a word that starts with two hyphens. -/
def long (scan : ArgumentScan) (body : List Char) : Except UsageError ArgumentScan :=
  let (name, attached) := match Text.cutAt? (· == '=') body with
    | some (name, value) => (name, some (String.ofList value))
    | none => (body, none)
  match OptionName.ofLong? (String.ofList name) with
  | none => .error .unknownArgument
  | some name =>
    if name.isFlag then
      if attached.isSome then .error .tooManyValues else scan.flag name
    else scan.option name attached

/-- The scan after letters behind one hyphen; the first option that takes a value has the rest of
the word attached, behind an optional equals sign. -/
def shorts (scan : ArgumentScan) : List Char → Except UsageError ArgumentScan
  | [] => .ok scan
  | letter :: rest =>
    match OptionName.ofShort? letter with
    | none => .error .unknownArgument
    | some name =>
      if name.isFlag then do
        let scan ← scan.flag name
        scan.shorts rest
      else
        scan.option name (match rest with
          | [] => none
          | '=' :: value => some (String.ofList value)
          | value => some (String.ofList value))

def plain (scan : ArgumentScan) (word : String) : Except UsageError ArgumentScan :=
  match scan.expecting, scan.waiting with
  | true, some (name, _) => .ok { scan with waiting := some (name, some word), expecting := false }
  | _, _ => .error .unknownArgument

def step (scan : ArgumentScan) (word : String) : Except UsageError ArgumentScan :=
  if scan.escaped then .error .unknownArgument
  else match word.toList with
    | ['-', '-'] => .ok { scan with escaped := true }
    | '-' :: '-' :: body => scan.long body
    | '-' :: letter :: rest => scan.shorts (letter :: rest)
    | _ => scan.plain word

/-- The scan with an option filled from the environment, unless the command line gave it. -/
def fromEnvironment (scan : ArgumentScan) (name : OptionName) (value : Option String) :
    Except UsageError ArgumentScan :=
  match value with
  | some value => if scan.settled.contains name then .ok scan else scan.accept name value
  | none => .ok scan

/-- The arguments at the end of the line: a stored tree excludes a table and its classification,
and a table is needed unless there is a stored tree or only a configuration is asked for. -/
def finish (scan : ArgumentScan) : Except UsageError Arguments :=
  let given (name : OptionName) : Bool := scan.settled.contains name
  if given .fromHierarchy && (given .input || given .classify) then .error .argumentConflict
  else if !given .input && !given .initConfig && !given .fromHierarchy then .error .missingRequired
  else .ok scan.arguments

end ArgumentScan

/-- The arguments of a command line, with the values of the environment's two variables. -/
def Arguments.parse (model url : Option String) (words : List String) :
    Except UsageError Arguments := do
  let scan ← words.foldlM ArgumentScan.step {}
  let scan ← scan.settle
  let scan ← scan.fromEnvironment .model model
  let scan ← scan.fromEnvironment .ollamaUrl url
  scan.finish

end SentimentTree
