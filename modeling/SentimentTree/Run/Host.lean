import SentimentTree.Classifier.Exchange
import SentimentTree.Run.Problem

/-! # What a run needs from its surroundings

Files, two output streams, a log, a way to a model server and a clock, as operations of some monad.
The program is written over them, so that it can run on a real machine as well as on a record of
one.
-/

namespace SentimentTree

/-- The surroundings of a run. -/
structure Host (m : Type → Type) where
  isFile : String → m Bool
  exists? : String → m Bool
  read : String → m (Except FileFault ByteArray)
  write : String → String → m (Except FileFault Unit)
  /-- Writes a line to the standard output. -/
  print : String → m Unit
  /-- Writes a line to the error output. -/
  complain : String → m Unit
  log : LogLine → m Unit
  /-- Posts a document to a server and waits for so many seconds at most. -/
  post : Nat → WebAddress → Json → m HttpOutcome
  /-- The seconds since the run began. -/
  elapsed : m Float

/-- The host with a log that leaves out lines below a threshold. -/
def Host.withThreshold {m : Type → Type} [Monad m] (host : Host m) (threshold : LogLevel) :
    Host m :=
  { host with log := fun line =>
      if threshold.passes line.level then host.log line else pure () }

def Host.wire {m : Type → Type} (host : Host m) (timeoutSeconds : Nat) : Wire m where
  post := host.post timeoutSeconds
  log := host.log

def Host.readText {m : Type → Type} [Monad m] (host : Host m) (path : String) :
    m (Except FileFault String) := do
  match ← host.read path with
  | .error fault => pure (.error fault)
  | .ok bytes =>
    match String.fromUTF8? bytes with
    | some text => pure (.ok text)
    | none => pure (.error .notText)

end SentimentTree
