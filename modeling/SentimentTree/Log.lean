/-! # Log lines

What the program tells about its work, with a level. A threshold lets lines of its level and of
graver ones through. Characters that steer a terminal are shown by their codes, so that no file name
and no reply of a server can hide a line.
-/

namespace SentimentTree

/-- How grave a log line is. -/
inductive LogLevel
  | debug
  | info
  | warning
  | error
deriving DecidableEq

/-- Graver levels have higher ranks. -/
def LogLevel.rank : LogLevel → Nat
  | debug => 0
  | info => 1
  | warning => 2
  | error => 3

def LogLevel.name : LogLevel → String
  | debug => "DEBUG"
  | info => "INFO"
  | warning => "WARN"
  | error => "ERROR"

def LogLevel.passes (threshold level : LogLevel) : Bool := threshold.rank ≤ level.rank

/-- One remark of the program. -/
structure LogLine where
  level : LogLevel
  message : String
deriving DecidableEq

/-- A character as the log shows it: the controls of terminals by their codes, others as they
are. -/
def loggedChar (c : Char) : List Char :=
  let digits := Nat.toDigits 16 c.toNat
  if [0x07, 0x08, 0x0C].contains c.toNat then ['\\', 'x', '0'] ++ digits
  else if [0x1B, 0x7F].contains c.toNat then ['\\', 'x'] ++ digits
  else if 0x80 ≤ c.toNat ∧ c.toNat ≤ 0x9F then ['\\', 'u', '\x7b'] ++ digits ++ ['\x7d']
  else [c]

def LogLine.shown (line : LogLine) : String :=
  String.ofList (line.message.toList.flatMap loggedChar)

end SentimentTree
