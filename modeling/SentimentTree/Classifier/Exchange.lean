import SentimentTree.Classifier.Address
import SentimentTree.Classifier.Answer
import SentimentTree.Classifier.Batches
import SentimentTree.Classifier.Prompt
import SentimentTree.Json.Writer
import SentimentTree.Log

/-! # Asking a model server

One chat request per batch. A request may fail on the way, be refused by the server, or bring an
answer that cannot be used; then it is sent again unchanged, a set number of times. The way a
request travels is a parameter.
-/

namespace SentimentTree

/-- How a model server is asked. -/
structure ServerSettings where
  model : String
  url : String
  /-- A number of thirty-two bits. -/
  temperature : Float
  timeoutSeconds : Nat
  /-- How often a failed request is sent again. -/
  retries : Nat

/-- What becomes of a request. -/
inductive HttpOutcome
  | reply (status : Nat) (body : String)
  | timedOut
  | unreachable
  /-- The connection broke, or the request could not be made at all. -/
  | notSent
deriving DecidableEq

namespace HttpOutcome

/-- Whether a status only announces the reply that is to follow. -/
def isInterim (status : Nat) : Bool := 100 ≤ status && status < 200 && status != 101

/-- Whether a reply with a status has no body, whatever follows its head. -/
def isBodiless (status : Nat) : Bool := [101, 204, 304].contains status

/-- What becomes of a request that is answered once. Only a number of three digits is a status, and
an announcement that nothing follows is no reply. -/
def ofReply (status : Nat) (body : String) : HttpOutcome :=
  if status < 100 || 999 < status || isInterim status then .notSent
  else .reply status (if isBodiless status then "" else body)

end HttpOutcome

def statusPhrases : List (Nat × String) := [
  (100, "Continue"), (101, "Switching Protocols"), (102, "Processing"), (103, "Early Hints"),
  (200, "OK"), (201, "Created"), (202, "Accepted"), (203, "Non Authoritative Information"),
  (204, "No Content"), (205, "Reset Content"), (206, "Partial Content"), (207, "Multi-Status"),
  (208, "Already Reported"), (226, "IM Used"), (300, "Multiple Choices"),
  (301, "Moved Permanently"), (302, "Found"), (303, "See Other"), (304, "Not Modified"),
  (305, "Use Proxy"), (307, "Temporary Redirect"), (308, "Permanent Redirect"),
  (400, "Bad Request"), (401, "Unauthorized"), (402, "Payment Required"), (403, "Forbidden"),
  (404, "Not Found"), (405, "Method Not Allowed"), (406, "Not Acceptable"),
  (407, "Proxy Authentication Required"), (408, "Request Timeout"), (409, "Conflict"),
  (410, "Gone"), (411, "Length Required"), (412, "Precondition Failed"),
  (413, "Payload Too Large"), (414, "URI Too Long"), (415, "Unsupported Media Type"),
  (416, "Range Not Satisfiable"), (417, "Expectation Failed"), (418, "I'm a teapot"),
  (421, "Misdirected Request"), (422, "Unprocessable Entity"), (423, "Locked"),
  (424, "Failed Dependency"), (425, "Too Early"), (426, "Upgrade Required"),
  (428, "Precondition Required"), (429, "Too Many Requests"),
  (431, "Request Header Fields Too Large"), (451, "Unavailable For Legal Reasons"),
  (500, "Internal Server Error"), (501, "Not Implemented"), (502, "Bad Gateway"),
  (503, "Service Unavailable"), (504, "Gateway Timeout"), (505, "HTTP Version Not Supported"),
  (506, "Variant Also Negotiates"), (507, "Insufficient Storage"), (508, "Loop Detected"),
  (510, "Not Extended"), (511, "Network Authentication Required")]

def statusText (status : Nat) : String :=
  toString status ++ " " ++ (statusPhrases.lookup status).getD "<unknown status code>"

/-- Why an attempt gives no verdicts. -/
inductive AttemptProblem
  | timedOut (seconds : Nat)
  | unreachable (url : String)
  | notSent
  | refused (status : Nat) (body : String)
  | unreadableReply
  | answer (problem : AnswerProblem)
deriving DecidableEq

def AttemptProblem.message : AttemptProblem → String
  | timedOut seconds => "Request timed out after " ++ toString seconds ++ "s"
  | unreachable url => "Cannot connect to Ollama at " ++ url ++ ". Is Ollama running?"
  | notSent => "Failed to send request"
  | refused status body => "Ollama API error " ++ statusText status ++ ": " ++ body
  | unreadableReply => "Failed to parse Ollama response"
  | answer problem => problem.message

/-- A text without the mark of its byte order in front. -/
def withoutMark (text : String) : String :=
  match text.toList with
  | '\ufeff' :: rest => String.ofList rest
  | _ => text

def replyContent? (body : Json) : Option String := do
  match ← body.fields? ["message"] with
  | [some message] =>
    match ← message.fields? ["role", "content"] with
    | [some role, some content] =>
      let _ ← role.text?
      content.text?
    | _ => none
  | _ => none

namespace ServerSettings

/-- The address of chat requests: the server's, without slashes at its end, and the chat path. -/
def chatUrl (settings : ServerSettings) : List Char :=
  Text.dropEndWhile (· == '/') settings.url.toList ++ "/api/chat".toList

/-- The temperature as it is sent; only a finite one has a number. -/
def temperatureJson (settings : ServerSettings) : Json :=
  match Decimal.singleDataText? settings.temperature with
  | some literal => .number literal
  | none => .null

/-- The body of the chat request for a batch. -/
def chatRequest (settings : ServerSettings) (texts : List String) : Json :=
  let message (role content : String) : Json :=
    .record [("role", .text role), ("content", .text content)]
  .record [
    ("model", .text settings.model),
    ("messages", .array [message "system" systemPrompt,
      message "user" (String.ofList (prompt texts))]),
    ("stream", .bool false),
    ("options", .record [("temperature", settings.temperatureJson)])]

/-- The content of an answer to a request, or what went wrong with it. -/
def contentOf (settings : ServerSettings) : HttpOutcome → Except AttemptProblem String
  | .timedOut => .error (.timedOut settings.timeoutSeconds)
  | .unreachable => .error (.unreachable settings.url)
  | .notSent => .error .notSent
  | .reply status body =>
    if 200 ≤ status ∧ status < 300 then
      match (Json.parse? body.toList).bind replyContent? with
      | some content => .ok content
      | none => .error .unreadableReply
    else .error (.refused status (withoutMark body))

/-- The verdicts that an outcome brings for a batch, with the remarks made on reading them. -/
def verdictsOf (settings : ServerSettings) (expected : Nat) (outcome : HttpOutcome) :
    List String × Except AttemptProblem (List Classification) :=
  match settings.contentOf outcome with
  | .error problem => ([], .error problem)
  | .ok content =>
    match readAnswer expected content.toList with
    | (remarks, .ok verdicts) => (remarks, .ok verdicts)
    | (remarks, .error problem) => (remarks, .error (.answer problem))

/-- How often a batch is tried in all, counted in sixty-four bits. The numbers of a document are too
small for the count to start again. -/
def attempts (settings : ServerSettings) : Nat := (settings.retries + 1) % Nat.pow 2 64

def givingUp (settings : ServerSettings) (last : Option AttemptProblem) : List String :=
  ["giving up after " ++ toString settings.attempts ++ " attempts",
    match last with
    | some problem => problem.message
    | none => "no classification attempt was made"]

end ServerSettings

/-- The way requests travel, and the log. -/
structure Wire (m : Type → Type) where
  post : WebAddress → Json → m HttpOutcome
  log : LogLine → m Unit

section
variable {m : Type → Type} [Monad m] (wire : Wire m) (settings : ServerSettings)

/-- Sends a request, if there is an address to send it to. -/
def Wire.send (body : Json) : m HttpOutcome :=
  match WebAddress.read? settings.chatUrl with
  | some address => wire.post address body
  | none => pure .notSent

/-- Tries a batch so many times, going on from an attempt. -/
def Wire.tryFrom (texts : List String) (attempt : Nat) (last : Option AttemptProblem) :
    Nat → m BatchOutcome
  | 0 => pure (.error (settings.givingUp last))
  | more + 1 => do
    wire.log ⟨.debug, "Classifying " ++ toString texts.length ++ " messages (attempt " ++
      toString attempt ++ "/" ++ toString settings.attempts ++ ")"⟩
    let outcome ← wire.send settings (settings.chatRequest texts)
    let (remarks, result) := settings.verdictsOf texts.length outcome
    remarks.forM fun remark => wire.log ⟨.debug, remark⟩
    match result with
    | .ok verdicts => pure (.ok verdicts)
    | .error problem =>
      wire.log ⟨.warning, "Classification attempt " ++ toString attempt ++ " failed: " ++
        problem.message⟩
      Wire.tryFrom texts (attempt + 1) (some problem) more

/-- The verdicts of the model on a batch; nothing is sent for an empty one. -/
def Wire.classify (texts : List String) : m BatchOutcome :=
  if texts.isEmpty then pure (.ok []) else wire.tryFrom settings texts 1 none settings.attempts

end

end SentimentTree
