import SentimentTree.Table.Row

/-! # Scoring rows with a classifier

The texts of the rows that can be analyzed go to a classifier in batches. A window of batches is in
flight at a time and they may complete in any order; their answers are put back in order before
they are joined with the rows.
-/

namespace SentimentTree

/-- What comes back for a batch: its verdicts, or the texts of a failure, outermost first. -/
abbrev BatchOutcome := Except (List String) (List Classification)

/-- Why a batch cannot be used. -/
inductive BatchProblem
  | failed (chain : List String)
  | wrongCount (got expected : Nat)
deriving DecidableEq

/-- The texts of a chain of causes in one line. -/
def joinChain (chain : List String) : String := ": ".intercalate chain

def BatchProblem.message : BatchProblem → String
  | failed chain => joinChain chain
  | wrongCount got expected =>
    "classifier returned " ++ toString got ++ " results for " ++ toString expected ++ " messages"

/-- Why rows cannot be scored. -/
inductive ScoringProblem
  /-- The batch size or the number of batches in flight is zero. -/
  | noBatches
  | row (error : RowError)
  /-- A batch, counted from 1, that cannot be used. -/
  | batch (number : Nat) (problem : BatchProblem)
deriving DecidableEq

def flatText (text : String) : String :=
  String.ofList (text.toList.map fun c => if c = '\r' ∨ c = '\n' then ' ' else c)

/-- The texts of the rows from a number on that can be analyzed; the first row without a readable
timestamp or a flag is refused. -/
def textsFrom (number : Nat) : List MessageRow → Except RowError (List String)
  | [] => .ok []
  | row :: rest => do
    let _ ← atRow number row.timestamp
    let analyzable ← atRow number row.flag
    let texts ← textsFrom (number + 1) rest
    pure (if analyzable then flatText row.text :: texts else texts)

/-- Consecutive pieces of a list with `size` members each, except perhaps the last. -/
def chunks {α : Type} (size : Nat) (items : List α) : List (List α) :=
  (List.range ((items.length + size - 1) / size)).map fun k => (items.drop (k * size)).take size

/-- The batches that are in flight: the first that has not completed, and those after it while
fewer than `width` have started without it. -/
def inFlight {α : Type} (width : Nat) (waiting : List (Nat × α)) : List (Nat × α) :=
  match waiting with
  | [] => []
  | (first, _) :: _ => waiting.takeWhile fun batch => batch.1 < first + width

/-- Runs the waiting batches, `pick` choosing which of those in flight completes next, and lists
what comes back in order of completion. -/
def completions {m : Type → Type} [Monad m] {α β : Type} (run : Nat → α → m β)
    (pick : List Nat → Nat) (width : Nat) : Nat → List (Nat × α) → m (List (Nat × β))
  | 0, _ => pure []
  | steps + 1, waiting => do
    let window := inFlight width waiting
    let place := pick (window.map (·.1)) % window.length
    match waiting[place]? with
    | none => pure []
    | some (number, batch) =>
      let outcome ← run number batch
      let later ← completions run pick width steps (waiting.eraseIdx place)
      pure ((number, outcome) :: later)

/-- The outcomes in order of their numbers below `count`. -/
def inOrder {β : Type} (count : Nat) (completed : List (Nat × β)) : List β :=
  (List.range count).filterMap fun number => List.lookup number completed

/-- The verdicts of the batches from a number on, or the first batch that cannot be used. -/
def verdictsFrom (number : Nat) :
    List (List String) → List BatchOutcome → Except ScoringProblem (List Classification)
  | texts :: batches, outcome :: outcomes =>
    match outcome with
    | .error chain => .error (.batch number (.failed chain))
    | .ok verdicts =>
      if verdicts.length = texts.length then do
        let later ← verdictsFrom (number + 1) batches outcomes
        pure (verdicts ++ later)
      else .error (.batch number (.wrongCount verdicts.length texts.length))
  | _, _ => .ok []

/-- The messages of the rows from a number on, analyzable rows taking one verdict each. -/
def joinVerdicts (number : Nat) (verdicts : List Classification) :
    List MessageRow → Except RowError (List ScoredMessage)
  | [] => .ok []
  | row :: rest => do
    let analyzable ← atRow number row.flag
    let message ← atRow number (row.scored (if analyzable then verdicts.head? else none))
    let later ← joinVerdicts (number + 1) (if analyzable then verdicts.tail else verdicts) rest
    pure (message :: later)

/-- The texts that a scoring run sends, once its sizes and all rows have been checked. -/
def scoringTexts (rows : List MessageRow) (batchSize width : Nat) :
    Except ScoringProblem (List String) :=
  if batchSize = 0 ∨ width = 0 then .error .noBatches
  else match textsFrom 1 rows with
    | .error error => .error (.row error)
    | .ok texts => .ok texts

/-- A batch with its number, counted from 0. -/
def numbered {α : Type} (batches : List α) : List (Nat × α) :=
  (List.range batches.length).zip batches

/-- What a scoring run tells about its progress. -/
inductive ScoringEvent
  | sending (texts rows batchSize width : Nat)
  | received (verdicts : Nat)
deriving DecidableEq

def ScoringEvent.message : ScoringEvent → String
  | sending texts rows batchSize width =>
    "Classifying " ++ toString texts ++ " of " ++ toString rows ++ " messages (" ++
      toString batchSize ++ " per batch, " ++ toString width ++ " in flight)"
  | received verdicts => "Received " ++ toString verdicts ++ " classifications"

/-- Scores the rows with a classifier: `classify` gets the number of a batch and its texts, and
`pick` decides which batch in flight completes next. -/
def scoreWith {m : Type → Type} [Monad m] (report : ScoringEvent → m Unit)
    (classify : Nat → List String → m BatchOutcome) (pick : List Nat → Nat)
    (rows : List MessageRow) (batchSize width : Nat) :
    m (Except ScoringProblem (List ScoredMessage)) :=
  match scoringTexts rows batchSize width with
  | .error problem => pure (.error problem)
  | .ok texts => do
    report (.sending texts.length rows.length batchSize width)
    let batches := chunks batchSize texts
    let completed ← completions classify pick width batches.length (numbered batches)
    match verdictsFrom 1 batches (inOrder batches.length completed) with
    | .error problem => pure (.error problem)
    | .ok verdicts => do
      report (.received verdicts.length)
      match joinVerdicts 1 verdicts rows with
      | .error error => pure (.error (.row error))
      | .ok messages => pure (.ok messages)

end SentimentTree
