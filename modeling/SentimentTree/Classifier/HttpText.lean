import SentimentTree.Classifier.Exchange
import SentimentTree.Text.Glyph

/-! # Requests and replies as bytes

The bytes of a request that posts a document to a model server, and the status and body in the bytes
that come back. A connection serves one request, so a body without a stated length ends with it.
-/

namespace SentimentTree

namespace WebAddress

def postRequest (address : WebAddress) (document : Json) : ByteArray :=
  let body := (String.ofList document.compact).toUTF8
  let head := String.ofList (Text.joinWith ['\r', '\n'] [
    "POST ".toList ++ address.target ++ " HTTP/1.1".toList,
    "host: ".toList ++ address.authority,
    "content-type: application/json".toList,
    "accept: */*".toList,
    "content-length: ".toList ++ Nat.toDigits 10 body.size,
    "connection: close".toList, [], []])
  head.toUTF8 ++ body

end WebAddress

namespace HttpReply

/-- The bytes before and after the first empty line. -/
def cutHead? : List UInt8 → Option (List UInt8 × List UInt8)
  | 13 :: 10 :: 13 :: 10 :: body => some ([], body)
  | byte :: rest => (cutHead? rest).map fun (head, body) => (byte :: head, body)
  | [] => none

def byteChars (bytes : List UInt8) : List Char := bytes.map fun byte => Char.ofNat byte.toNat

/-- The status in the first line of a head, a number of three digits. -/
def status? (head : List Char) : Option Nat := do
  let first ← (Text.lines head).head?
  let digits ← (Text.splitAt (· == ' ') first)[1]?
  if digits.length = 3 then Decimal.readNat? digits else none

/-- The value of a field in a head, without the blanks around it. -/
def field? (head : List Char) (name : String) : Option (List Char) :=
  (Text.lines head).findSome? fun line => do
    let (key, value) ← Text.cutAt? (· == ':') line
    if String.ofList (key.map Char.toLower) = name then some (Text.trim value) else none

/-- The body that chunks with their sizes in front make up, with a bound on their number. -/
def joinChunks? : Nat → List UInt8 → Option (List UInt8)
  | 0, _ => none
  | bound + 1, bytes => do
    let line := bytes.takeWhile (· != 10)
    let rest := bytes.drop (line.length + 1)
    let digits := (byteChars line).takeWhile fun c => c != ';' && c != '\r'
    let size ← Text.numberIn? 16 (Text.trim digits)
    if size = 0 then some []
    else if rest.length < size then none
    else (joinChunks? bound (rest.drop (size + 2))).map (rest.take size ++ ·)

def body? (head : List Char) (rest : List UInt8) : Option (List UInt8) :=
  match field? head "transfer-encoding", field? head "content-length" with
  | some _, _ => joinChunks? (rest.length + 1) rest
  | none, some text => do
    let length ← Decimal.readNat? text
    if length ≤ rest.length then some (rest.take length) else none
  | none, none => some rest

/-- Bytes as text, with a mark for those that are none. -/
def bodyText (bytes : List UInt8) : String :=
  String.ofList ((Text.glyphs ⟨bytes.toArray⟩).map (·.getD (Char.ofNat 0xFFFD)))

/-- The reply that bytes write, if they do, with a bound on the number of replies that announce
it. -/
def readAfter? : Nat → List UInt8 → Option HttpOutcome
  | 0, _ => none
  | bound + 1, bytes => do
    let (headBytes, rest) ← cutHead? bytes
    let head := byteChars headBytes
    let status ← status? head
    if HttpOutcome.isInterim status then readAfter? bound rest
    else if HttpOutcome.isBodiless status then pure (.ofReply status "")
    else pure (.ofReply status (bodyText (← body? head rest)))

def read? (bytes : ByteArray) : Option HttpOutcome := readAfter? (bytes.size + 1) bytes.toList

end HttpReply

end SentimentTree
