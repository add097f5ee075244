import SentimentTree.Arguments.Help
import SentimentTree.Config.Document
import SentimentTree.Run.Pipeline

/-! # The program

Command line, configuration and pipeline put together, with the ways a run can end and what each
tells the outside.
-/

namespace SentimentTree

/-- The name and version that the program gives on request. -/
def versionText : String := "sentitree 0.1.0"

/-- How a run ends. -/
inductive ProgramEnd
  | done
  | usage (error : UsageError)
  | invalid (problem : ArgumentsProblem)
  /-- A configuration was to be created where there is one. -/
  | configExists
  | failed (problem : RunProblem)
deriving DecidableEq

namespace ProgramEnd

/-- Zero for success, two for a command line that cannot be understood, a number of its own for a
run that breaks off, else one. -/
def exitCode : ProgramEnd → Nat
  | done | usage .displayHelp | usage .displayVersion => 0
  | usage _ => 2
  | failed .countOverflow => 101
  | _ => 1

/-- What the program says about its end on the error output. -/
def complaint? : ProgramEnd → Option String
  | invalid problem => some ("Error: " ++ problem.message)
  | configExists =>
    some ("⚠️  " ++ Config.defaultFile ++
      " already exists. Remove it first or edit it manually.")
  | failed (.cannotWriteConfig path fault) =>
    some ("Error: Failed to write " ++ path ++ "\n\nCaused by:\n    " ++ fault.message)
  | failed .countOverflow => some ("thread 'main' panicked:\n" ++ RunProblem.countOverflow.message)
  | failed problem => some ("\n❌ Error: " ++ problem.message)
  | usage .displayHelp | usage .displayVersion | done => none
  | usage _ => some "error: the arguments cannot be understood; try '--help'"

end ProgramEnd

section
variable {m : Type → Type} [Monad m] (host : Host m)

/-- Creates a configuration file with the defaults, unless there is one. -/
def createConfig : m ProgramEnd := do
  if ← host.exists? Config.defaultFile then pure .configExists
  else
    match ← host.write Config.defaultFile (String.ofList Config.defaultDocument) with
    | .error fault => pure (.failed (.cannotWriteConfig Config.defaultFile fault))
    | .ok () =>
      host.print ("✅ Created " ++ Config.defaultFile ++ " with default settings.")
      host.print
        "   Edit it to customize bucketing, contrast, geometry, and the classifier."
      pure .done

def loadConfig (path : String) : Run m Config := do
  let text ← Run.ofExcept (.cannotReadConfig path) (← ExceptT.lift (host.readText path))
  match Config.read? text.toList with
  | some config => pure config
  | none => throw (.badConfig path)

/-- The configuration in force: a named file has to be good; of the default one, if there is any, a
fault is only complained about. -/
def configFor (args : Arguments) : Run m Config := do
  match args.config with
  | some path => loadConfig host path
  | none =>
    if ← ExceptT.lift (host.exists? Config.defaultFile) then
      match ← ExceptT.lift (loadConfig host Config.defaultFile).run with
      | .ok config => pure config
      | .error problem =>
        ExceptT.lift (host.complain ("⚠️  Failed to load config: " ++ problem.message))
        pure {}
    else pure {}

/-- The threshold of the log: a verbose configuration asks for everything, unless the command line
asks for quiet. -/
def logThreshold (args : Arguments) (config : Config) : LogLevel :=
  if config.output.verbose && !args.quiet then .debug else args.logLevel

def runConfigured (power : Float → Float → Float) (args : Arguments) : Run m Unit := do
  let config := (← configFor host args).merge args
  runPipeline (host.withThreshold (logThreshold args config)) power args config

/-- Runs the program on a command line, with the values of the environment's two variables. -/
def runProgram (power : Float → Float → Float) (model url : Option String)
    (words : List String) : m ProgramEnd := do
  match Arguments.parse model url words with
  | .error .displayVersion =>
    host.print versionText
    pure (.usage .displayVersion)
  | .error .displayHelp =>
    host.print helpText
    pure (.usage .displayHelp)
  | .error error => pure (.usage error)
  | .ok args =>
    let tables ← args.input.toList.filterM host.isFile
    let trees ← args.fromHierarchy.toList.filterM host.isFile
    match args.validate fun path => (tables ++ trees).contains path with
    | .error problem => pure (.invalid problem)
    | .ok () =>
      if args.initConfig then createConfig host
      else
        match ← (runConfigured host power args).run with
        | .ok () => pure .done
        | .error problem => pure (.failed problem)

end

end SentimentTree
