/-! # TOML values

A TOML document as a tree, and the tables under construction while a document is read: a table
remembers whether it was only implied by a longer path and whether dotted keys made it, because
that decides what may still be added to it.
-/

namespace SentimentTree

/-- A TOML value. -/
inductive Toml
  | string (text : String)
  | int (value : Int)
  | float (value : Float)
  | bool (value : Bool)
  /-- A date or time; nothing here reads its parts. -/
  | moment
  | array (items : List Toml)
  | table (entries : List (String × Toml))

/-- An entry of a table that is being read. -/
inductive TomlNode
  | value (content : Toml)
  | table (implied dotted : Bool) (entries : List (String × TomlNode))
  /-- An array of tables, last first. -/
  | tables (elements : List (List (String × TomlNode)))

namespace TomlNode

mutual

def toToml : TomlNode → Toml
  | value content => content
  | table _ _ entries => .table (entriesToToml entries)
  | tables elements => .array (elementsToToml elements).reverse

def entriesToToml : List (String × TomlNode) → List (String × Toml)
  | [] => []
  | (key, node) :: rest => (key, node.toToml) :: entriesToToml rest

def elementsToToml : List (List (String × TomlNode)) → List Toml
  | [] => []
  | entries :: rest => .table (entriesToToml entries) :: elementsToToml rest

end

/-- The entries with the node of a key replaced, or added at the end. -/
def put (key : String) (node : TomlNode) : List (String × TomlNode) → List (String × TomlNode)
  | [] => [(key, node)]
  | entry :: rest => if entry.1 = key then (key, node) :: rest else entry :: put key node rest

/-- Changes the table at the end of a path; missing tables on the way are implied. A path of dotted
keys may not enter a table that has a header of its own. The change also gets to know whether
dotted keys made the table. -/
def changeAt (byDots : Bool)
    (change : Bool → List (String × TomlNode) → Option (List (String × TomlNode))) :
    List String → Bool → List (String × TomlNode) → Option (List (String × TomlNode))
  | [], madeByDots, entries => change madeByDots entries
  | key :: path, _, entries =>
    match entries.lookup key with
    | none =>
      (changeAt byDots change path byDots []).map fun child =>
        put key (.table true byDots child) entries
    | some (.table implied dotted child) =>
      if byDots && !implied then none
      else (changeAt byDots change path dotted child).map fun child =>
        put key (.table implied dotted child) entries
    | some (.tables (last :: earlier)) =>
      (changeAt byDots change path false last).map fun last =>
        put key (.tables (last :: earlier)) entries
    | some _ => none

/-- Adds a value under a dotted key; a key is used once. -/
def addValue (path : List String) (key : String) (content : Toml)
    (entries : List (String × TomlNode)) : Option (List (String × TomlNode)) :=
  changeAt true
    (fun madeByDots entries =>
      if madeByDots == path.isEmpty || (entries.lookup key).isSome then none
      else some (put key (.value content) entries))
    path false entries

/-- Opens the table of a header, which may so far only have been implied by longer headers. -/
def openTable (path : List String) (key : String) (entries : List (String × TomlNode)) :
    Option (List (String × TomlNode)) :=
  changeAt false
    (fun _ entries =>
      match entries.lookup key with
      | none => some (put key (.table false false []) entries)
      | some (.table true false child) => some (put key (.table false false child) entries)
      | some _ => none)
    path false entries

def openElement (path : List String) (key : String) (entries : List (String × TomlNode)) :
    Option (List (String × TomlNode)) :=
  changeAt false
    (fun _ entries =>
      match entries.lookup key with
      | none => some (put key (.tables [[]]) entries)
      | some (.tables elements) => some (put key (.tables ([] :: elements)) entries)
      | some _ => none)
    path false entries

end TomlNode

end SentimentTree
