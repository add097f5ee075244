import SentimentTree.HostName.Basic
import SentimentTree.HostName.Groups
import SentimentTree.HostName.Number
import SentimentTree.Text.PercentEscape

/-! # Addresses of a model server

The parts of a web address that a request needs, read as browsers read addresses: blanks at the ends
and line breaks are dropped, the scheme is in any case, any number of slashes or backslashes may
follow it, and the host is a name in any script, a dotted or bare number, or a bracketed address. In
the path, segments of dots are followed.
-/

namespace SentimentTree

/-- Where a request goes. -/
structure WebAddress where
  secure : Bool
  host : List Char
  port : Nat
  /-- The path from its first slash, with the query, as a request line takes them. -/
  target : List Char
deriving DecidableEq

namespace WebAddress

/-- The port of a scheme, which an address need not name. -/
def usualPort (secure : Bool) : Nat := if secure then 443 else 80

/-- The host with the port behind it, unless that is the scheme's own. -/
def authority (address : WebAddress) : List Char :=
  if address.port = usualPort address.secure then address.host
  else address.host ++ ':' :: Nat.toDigits 10 address.port

def text (address : WebAddress) : List Char :=
  (if address.secure then "https://" else "http://").toList ++ address.authority ++ address.target

/-! ## The host -/

/-- The host that a text names, in ASCII. -/
def host? (text : List Char) : Option (List Char) :=
  match text with
  | '[' :: rest =>
    if rest.getLast? = some ']' ∧ HostName.isGroupedAddress rest.dropLast then some text else none
  | _ => do
    let name ← HostName.ascii? (← Text.unescape? text)
    if name.isEmpty then none
    else if HostName.endsInNumber name then
      (HostName.dottedNumber? name).map HostName.dottedText
    else some name

/-- A host and what follows the colon after it; colons in brackets belong to the host. -/
def splitPort (authority : List Char) : List Char × List Char :=
  let (bracketed, rest) := match authority with
    | '[' :: _ =>
      let inside := authority.takeWhile (· != ']')
      (inside ++ (authority.drop inside.length).take 1, authority.drop (inside.length + 1))
    | _ => ([], authority)
  (bracketed ++ rest.takeWhile (· != ':'), (rest.dropWhile (· != ':')).drop 1)

/-- What follows the last sign that ends a user's name and password. -/
def afterUser (authority : List Char) : List Char :=
  (authority.reverse.takeWhile (· != '@')).reverse

/-- The port that a text writes, if it is one; none stands for the scheme's own. -/
def port? (secure : Bool) (text : List Char) : Option Nat :=
  if text.isEmpty then some (usualPort secure)
  else (Decimal.readNat? text).filter (· ≤ 65535)

/-! ## The path -/

def isSlash (c : Char) : Bool := c == '/' || c == '\\'

/-- Whether a segment of a path names a drive: a letter with a colon or a bar. -/
def isDrive : List Char → Bool
  | [letter, sign] => letter.isAlpha && (sign == ':' || sign == '|')
  | _ => false

/-- How a segment of a path changes the segments before it, which come last first: one dot keeps
them, two dots take back the last unless it is a drive, and dots may be escaped. -/
def follow (before : List (List Char)) (segment : List Char) : List (List Char) :=
  let name := String.ofList (segment.map Char.toLower)
  if [".", "%2e"].contains name then before
  else if ["..", ".%2e", "%2e.", "%2e%2e"].contains name then
    if before.head?.any isDrive then before else before.tail
  else segment :: before

/-- The segments of a path after its dots have been followed; dots at its end leave an empty
segment. -/
def followAll (segments : List (List Char)) : List (List Char) :=
  let before := segments.dropLast.foldl follow []
  match segments.getLast? with
  | none => []
  | some last =>
    let reached := follow before last
    (if reached.length = before.length + 1 then reached else [] :: reached).reverse

def pathTarget (path : List Char) : List Char :=
  let segments := (followAll ((Text.splitAt isSlash path).drop 1)).map
    (Text.escapeAll ['"', '#', '<', '>', '?', '\x60', '\x7b', '\x7d'])
  '/' :: Text.joinWith ['/'] segments

/-- A query with its question mark, or nothing, as a request line takes it. -/
def queryTarget (query : List Char) : List Char :=
  Text.escapeAll ['"', '#', '\'', '<', '>'] query

/-- A fragment with the sign in front, or nothing, as addresses hold it. -/
def fragmentText (fragment : List Char) : List Char :=
  Text.escapeAll ['"', '<', '>', '\x60'] fragment

/-! ## The whole -/

def isScheme : List Char → Bool
  | [] => false
  | c :: rest =>
    c.isAlpha && rest.all fun c => c.isAlphanum || c == '+' || c == '-' || c == '.'

/-- The longest address that a request is sent to, with a fragment. -/
def maxLength : Nat := 65534

/-- The address that a text writes, if its scheme is that of web servers. -/
def read? (text : List Char) : Option WebAddress := do
  let outer (c : Char) : Bool := c.toNat ≤ 0x20
  let text := Text.dropEndWhile outer (text.dropWhile outer)
  let text := text.filter fun c => !(c == '\t' || c == '\n' || c == '\r')
  let (scheme, rest) ← Text.cutAt? (· == ':') text
  let name := String.ofList (scheme.map Char.toLower)
  if !isScheme scheme || !(name == "http" || name == "https") then none
  else
    let secure := name == "https"
    let rest := rest.dropWhile isSlash
    let authority := rest.takeWhile fun c => !(isSlash c || c == '?' || c == '#')
    let (hostText, portText) := splitPort (afterUser authority)
    let port ← port? secure portText
    let host ← host? hostText
    let asked := (rest.drop authority.length).takeWhile (· != '#')
    let path := asked.takeWhile (· != '?')
    let fragment := fragmentText (rest.drop (authority.length + asked.length))
    let address : WebAddress :=
      ⟨secure, host, port, pathTarget path ++ queryTarget (asked.drop path.length)⟩
    if address.text.length + fragment.length ≤ maxLength then some address else none

end WebAddress

end SentimentTree
