import SentimentTree.Aggregation.Settings
import SentimentTree.Classifier.Batches
import SentimentTree.Hierarchy.Validity
import SentimentTree.Word.Check
import SentimentTree.Word.Geometry

/-! # What stops a run

The problems of the pipeline with the stage they belong to, the faults of files, and the problems of
a whole run. A problem is told as a chain of texts, the outermost first.
-/

namespace SentimentTree

/-- The part of the pipeline in which input turns out to be invalid. -/
inductive Stage
  | ingest
  | scoring
  | aggregation
  | hierarchy
  | grammar
deriving DecidableEq

def Stage.name : Stage → String
  | ingest => "ingest"
  | scoring => "scoring"
  | aggregation => "aggregation"
  | hierarchy => "hierarchy"
  | grammar => "grammar"

/-- A problem of the pipeline. -/
inductive PipelineError
  | row (error : RowError)
  | noBatches
  | classifier (batch : Nat) (problem : BatchProblem)
  | aggregation (problem : AggregationProblem)
  | hierarchy (problem : HierarchyProblem)
  | geometry (problem : GeometryProblem)
  | word (problem : WordProblem)
deriving DecidableEq

def RowProblem.stage : RowProblem → Stage
  | noTimestamp | unreadableTimestamp _ | noFlag => .ingest
  | unknownLabel _ | outsideUnit _ _ | noSentiment => .scoring

namespace PipelineError

def ofScoring : ScoringProblem → PipelineError
  | .noBatches => noBatches
  | .row error => row error
  | .batch number problem => classifier number problem

/-- The stage and the reason of invalid input; the classifier and the word have problems of their
own kind. -/
def invalidInput? : PipelineError → Option (Stage × String)
  | row error => some (error.problem.stage, error.message)
  | noBatches => some (.scoring, "batch size and concurrency must be at least 1")
  | aggregation problem => some (.aggregation, problem.message)
  | hierarchy problem => some (.hierarchy, problem.message)
  | geometry problem => some (.grammar, problem.message)
  | classifier _ _ | word _ => none

def message : PipelineError → String
  | classifier batch problem =>
    "sentiment classifier failed: batch " ++ toString batch ++ ": " ++ problem.message
  | word problem => "malformed grammar word: " ++ problem.message
  | error =>
    match error.invalidInput? with
    | some (stage, reason) => "invalid input during " ++ stage.name ++ ": " ++ reason
    | none => ""

/-- The problem as a chain; a malformed word is told once more as the cause. -/
def chain (error : PipelineError) : List String :=
  match error with
  | word problem => [error.message, problem.message]
  | _ => [error.message]

end PipelineError

/-- Why a file cannot be read or written. -/
inductive FileFault
  | notFound
  | notDirectory
  | isDirectory
  | nameTooLong
  | zeroByte
  /-- The content is no UTF-8 text. -/
  | notText
  /-- Any other reason, in the system's words. -/
  | other (text : String)
deriving DecidableEq

def FileFault.message : FileFault → String
  | notFound => "No such file or directory (os error 2)"
  | notDirectory => "Not a directory (os error 20)"
  | isDirectory => "Is a directory (os error 21)"
  | nameTooLong => "File name too long (os error 36)"
  | zeroByte => "file name contained an unexpected NUL byte"
  | notText => "stream did not contain valid UTF-8"
  | other text => text

/-- What stops a run. -/
inductive RunProblem
  | pipeline (error : PipelineError)
  | noInput
  | unsupportedFormat (path : String)
  | cannotOpen (path : String) (fault : FileFault)
  /-- A row, counted from 1, that cannot be read. -/
  | badRow (row : Nat) (path : String)
  | badTable (path : String)
  | cannotReadHierarchy (path : String) (fault : FileFault)
  | badHierarchy (path : String)
  | inconsistentHierarchy (path : String) (problem : HierarchyProblem)
  | cannotWriteHierarchy (path : String) (fault : FileFault)
  | cannotWriteWord (path : String) (fault : FileFault)
  | cannotReadConfig (path : String) (fault : FileFault)
  | badConfig (path : String)
  | cannotWriteConfig (path : String) (fault : FileFault)
  /-- The messages of a tree are too many to be counted. Nothing provides for that: the run breaks
  off in the middle of its report. -/
  | countOverflow
deriving DecidableEq

namespace RunProblem

def chain : RunProblem → List String
  | pipeline error => error.chain
  | noInput => ["No input file given (use --input or --from-hierarchy)"]
  | unsupportedFormat path => ["Unsupported input format (expected .csv or .json): " ++ path]
  | cannotOpen path fault => ["Failed to open " ++ path, fault.message]
  | badRow row path => ["Failed to parse row " ++ toString row ++ " of " ++ path]
  | badTable path => ["Failed to parse " ++ path]
  | cannotReadHierarchy path fault =>
    ["Failed to read hierarchy file: " ++ path, fault.message]
  | badHierarchy path => ["Failed to parse hierarchy file: " ++ path]
  | inconsistentHierarchy path problem =>
    ["Hierarchy file is inconsistent: " ++ path, (PipelineError.hierarchy problem).message]
  | cannotWriteHierarchy path fault => ["Failed to write hierarchy to " ++ path, fault.message]
  | cannotWriteWord path fault => ["Failed to write word to " ++ path, fault.message]
  | cannotReadConfig path fault => ["Failed to read config file: " ++ path, fault.message]
  | badConfig path => ["Failed to parse config file: " ++ path]
  | cannotWriteConfig path fault => ["Failed to write " ++ path, fault.message]
  | countOverflow => ["attempt to add with overflow"]

def message (problem : RunProblem) : String := joinChain problem.chain

end RunProblem

end SentimentTree
