import SentimentTree.Json.Value

/-! # Prompts

The request that asks a model for the sentiment of a batch of messages: a fixed system prompt, and
the messages numbered from 1, one to a line, between two marker lines.
-/

namespace SentimentTree

/-- What every request tells the model about its task. -/
def systemPrompt : String :=
  "You are a sentiment classifier for chat messages.\n" ++
  "Label every message as positive, negative or neutral with a confidence.\n" ++
  "Output each result as a JSON object on its own line.\n" ++
  "Only output valid JSON, no explanations or markdown."

def promptHead : String :=
  "Classify the sentiment of each numbered message.\n\n" ++
  "For each message, output one JSON object per line in this exact format:\n" ++
  "\x7b\"index\": 1, \"label\": \"positive\", \"confidence\": 0.93\x7d" ++
  "\n\nlabel is one of positive, negative, neutral; confidence is between 0 and 1.\n" ++
  "Only output JSON, no other text.\n\n" ++
  "=== MESSAGES ===\n"

def promptTail : String := "=== END OF MESSAGES ===\n"

/-- The messages from a number on, each on a line of its own behind its number. -/
def numberedLines (number : Nat) : List String → List Char
  | [] => []
  | text :: rest =>
    Nat.toDigits 10 number ++ '.' :: ' ' :: text.toList ++ '\n' :: numberedLines (number + 1) rest

/-- The prompt for a batch of messages. -/
def prompt (texts : List String) : List Char :=
  promptHead.toList ++ numberedLines 1 texts ++ promptTail.toList

end SentimentTree
