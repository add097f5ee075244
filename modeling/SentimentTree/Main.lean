import SentimentTree.Classifier.HttpText
import SentimentTree.Run.Program
import Std.Async.DNS
import Std.Async.TCP
import Std.Async.Timer

/-! # The command line program

The host that a real machine is: files, standard streams, the clock, and connections to a model
server. Everything else is decided by `runProgram`. Servers that ask for encryption are out of
reach.
-/

namespace SentimentTree

open Std.Async

/-- The fault with a number of the operating system, which may come negated. -/
def FileFault.ofCode (code : UInt32) (details : String) : FileFault :=
  let number := if code.toNat < Nat.pow 2 31 then code.toNat else Nat.pow 2 32 - code.toNat
  match number with
  | 2 => .notFound
  | 20 => .notDirectory
  | 21 => .isDirectory
  | 36 => .nameTooLong
  | number => .other (details.capitalize ++ " (os error " ++ toString number ++ ")")

def FileFault.ofError (error : IO.Error) : FileFault :=
  match error with
  | .otherError code details | .resourceBusy code details | .resourceVanished code details
  | .unsupportedOperation code details | .hardwareFault code details
  | .unsatisfiedConstraints code details | .illegalOperation code details
  | .protocolError code details | .timeExpired code details | .alreadyExists _ code details
  | .interrupted _ code details | .noFileOrDirectory _ code details
  | .invalidArgument _ code details | .permissionDenied _ code details
  | .resourceExhausted _ code details | .inappropriateType _ code details
  | .noSuchThing _ code details => .ofCode code details
  | .unexpectedEof => .other "unexpected end of file"
  | .userError text => .other text

def readStored (path : String) : IO (Except FileFault ByteArray) := do
  if path.toList.contains (Char.ofNat 0) then pure (.error .zeroByte)
  else try pure (.ok (← IO.FS.readBinFile path)) catch error => pure (.error (.ofError error))

def writeStored (path content : String) : IO (Except FileFault Unit) := do
  if path.toList.contains (Char.ofNat 0) then pure (.error .zeroByte)
  else try pure (.ok (← IO.FS.writeFile path content)) catch error => pure (.error (.ofError error))

partial def receiveAll (socket : TCP.Socket.Client) (got : ByteArray) : Async ByteArray := do
  match ← socket.recv? 65536 with
  | some more => receiveAll socket (got ++ more)
  | none => pure got

def connectFirst (port : UInt16) : List Std.Net.IPAddr → Async (Option TCP.Socket.Client)
  | [] => pure none
  | place :: rest => do
    let socket ← TCP.Socket.Client.mk
    let accepted ← try
        socket.connect (match place with
          | .v4 number => .v4 ⟨number, port⟩
          | .v6 number => .v6 ⟨number, port⟩)
        pure true
      catch _ => pure false
    if accepted then pure (some socket) else connectFirst port rest

def postOnce (address : WebAddress) (document : Json) : Async HttpOutcome := do
  let host := String.ofList (address.host.filter fun c => c != '[' && c != ']')
  let places ← try DNS.getAddrInfo host (toString address.port) catch _ => pure #[]
  match ← connectFirst (UInt16.ofNat address.port) places.toList with
  | none => pure .unreachable
  | some socket =>
    try
      socket.send (address.postRequest document)
      pure ((HttpReply.read? (← receiveAll socket ByteArray.empty)).getD .notSent)
    catch _ => pure .notSent

/-- What becomes of a document that is posted, if that is known after so many seconds. -/
def postWithin (seconds : Nat) (address : WebAddress) (document : Json) : IO HttpOutcome := do
  if address.secure then pure .unreachable
  else if seconds = 0 then pure .timedOut
  else
    let limit : Std.Time.Millisecond.Offset := .ofNat (min seconds 1000000000 * 1000)
    let waited : Async (Option HttpOutcome) := do
      sleep limit
      pure none
    let posted : Async (Option HttpOutcome) := do pure (some (← postOnce address document))
    try pure (((← (Async.race posted waited).block)).getD .timedOut) catch _ => pure .unreachable

/-- The host that the machine is, for a run that began at a time in milliseconds. -/
def Host.machine (began : Nat) : Host IO where
  isFile path := do
    match ← readStored path with
    | .ok _ => pure true
    | .error _ => pure false
  exists? path := do
    match ← readStored path with
    | .error .notFound | .error .notDirectory | .error .nameTooLong | .error .zeroByte => pure false
    | _ => pure true
  read := readStored
  write := writeStored
  print := IO.println
  complain := IO.eprintln
  log line := IO.println (line.level.name ++ " " ++ line.shown)
  post := postWithin
  elapsed := do pure (Float.ofNat ((← IO.monoMsNow) - began) / 1000.0)

end SentimentTree

/-- Runs the program on the command line and tells how it ended. -/
def main (words : List String) : IO UInt32 := do
  let host := SentimentTree.Host.machine (← IO.monoMsNow)
  let ending ← SentimentTree.runProgram host Float.pow (← IO.getEnv "SENTITREE_MODEL")
    (← IO.getEnv "OLLAMA_URL") words
  match ending.complaint? with
  | some text => IO.eprintln text
  | none => pure ()
  pure (UInt32.ofNat ending.exitCode)
