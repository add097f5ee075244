import SentimentTree.Run.Host
import SentimentTree.Run.Store

/-! # A recorded host

A host whose surroundings are a value: the stored files, what has been printed and logged, and the
model server's behaviour with the requests it got. Running the program on it is a pure function.
-/

namespace SentimentTree

/-- How the model server behaves. -/
inductive ServerBehaviour
  /-- Answers in turn, and refuses service after the last. -/
  | scripted (outcomes : List HttpOutcome)
  /-- Accepts no connection. -/
  | refusing
  /-- Accepts connections and never answers. -/
  | silent

/-- A request that the server got. -/
structure SentRequest where
  /-- What the request line asks for. -/
  path : String
  body : Json

/-- The surroundings of a run as a value. Outputs are kept last first. -/
structure Scene where
  store : Store := {}
  printed : List String := []
  complaints : List String := []
  log : List LogLine := []
  server : ServerBehaviour := .refusing
  requests : List SentRequest := []

namespace Scene

def post (scene : Scene) (address : WebAddress) (body : Json) : HttpOutcome × Scene :=
  let recorded : Scene :=
    { scene with requests := ⟨String.ofList address.target, body⟩ :: scene.requests }
  match scene.server with
  | .refusing => (.unreachable, scene)
  | .silent => (.timedOut, scene)
  | .scripted [] => (.reply 503 "script exhausted", recorded)
  | .scripted (outcome :: rest) => (outcome, { recorded with server := .scripted rest })

end Scene

def Host.recorded : Host (StateM Scene) where
  isFile path := do
    match (← get).store.find path with
    | .ok (.file _) => pure true
    | _ => pure false
  exists? path := do
    match (← get).store.find path with
    | .ok _ => pure true
    | .error _ => pure false
  read path := do pure ((← get).store.read path)
  write path content := do
    match (← get).store.write path content with
    | .ok store =>
      modify fun scene => { scene with store := store }
      pure (.ok ())
    | .error fault => pure (.error fault)
  print line := modify fun scene => { scene with printed := line :: scene.printed }
  complain line := modify fun scene => { scene with complaints := line :: scene.complaints }
  log line := modify fun scene => { scene with log := line :: scene.log }
  post _ address body := fun scene => scene.post address body
  elapsed := pure 0.0

end SentimentTree
