/-
This file holds TOML documents and puts them together from their lines. A document is a
tree of tables. A table comes into being in one of three ways: by a header of its own, as
a step on the path of a header, or as a step on a dotted key; which one decides what may
be added to it later. A header may be given once for each table, also when the table was
already a step on a path; a dotted key may only add to tables that dotted keys made; a
header in double brackets appends to an array of tables, and paths lead through its last
element. Values, inline tables and arrays that are written out take nothing more.
-/

namespace CurlScribe.Toml

/-! ### Values -/

/-- A TOML value. Integers have any size; floats and points in time are kept as they are
written. -/
inductive Value where
  | string (content : String)
  | boolean (value : Bool)
  | integer (value : Int)
  | float (written : List Char)
  | moment (written : List Char)
  | array (items : List Value)
  | table (entries : List (String × Value))
  deriving Repr

namespace Value

/-- The value of a key; only tables have any. -/
def get? (key : String) : Value → Option Value
  | .table entries => (entries.find? fun entry => entry.1 == key).map (·.2)
  | _ => none

/-- The value as a text. -/
def asString? : Value → Option String
  | .string content => some content
  | _ => none

/-- The value as a truth value. -/
def asBoolean? : Value → Option Bool
  | .boolean value => some value
  | _ => none

end Value

/-! ### Tables under construction -/

/-- How a table came into being. -/
inductive Origin where
  /-- By a header of its own. -/
  | header
  /-- As a step on the path of a header. -/
  | path
  /-- As a step on a dotted key. -/
  | dotted
  deriving DecidableEq, Repr

/-- What a key holds while the document is put together. -/
inductive Node where
  | value (value : Value)
  | table (origin : Origin) (entries : List (String × Node))
  | tables (elements : List (List (String × Node)))
  deriving Repr

/-- The entries of a table under construction. -/
abbrev Entries := List (String × Node)

namespace Entries

/-- What a key holds. -/
def get? (key : String) (entries : Entries) : Option Node :=
  (entries.find? fun entry => entry.1 == key).map (·.2)

/-- The entries with a key given anew, at its place if it is there. -/
def put (key : String) (node : Node) : Entries → Entries
  | [] => [(key, node)]
  | entry :: rest => if entry.1 = key then (key, node) :: rest else entry :: put key node rest

/-- Change the table at the end of a path, given by its origin and entries; steps that are not there
are made. A dotted key does not lead through a table that has a header of its own. -/
def descend (isDotted : Bool) (change : Origin → Entries → Option Entries) :
    (path : List String) → Origin → Entries → Option Entries
  | [], origin, entries => change origin entries
  | key :: rest, _, entries =>
    match get? key entries with
    | none => do
      let origin := if isDotted then Origin.dotted else Origin.path
      let inner ← descend isDotted change rest origin []
      some (put key (.table origin inner) entries)
    | some (.table origin inner) => do
      if isDotted ∧ origin = .header then none
      else
        let changed ← descend isDotted change rest origin inner
        some (put key (.table origin changed) entries)
    | some (.tables elements) => do
      let last ← elements.getLast?
      let changed ← descend isDotted change rest .header last
      some (put key (.tables (elements.dropLast ++ [changed])) entries)
    | some (.value _) => none

/-- Add a value under a key that may be dotted. The last table on the way has to be one that dotted
keys make, and the key has to be new. -/
def addPair (entries : Entries) (keys : List String) (value : Value) : Option Entries :=
  match keys.getLast? with
  | none => none
  | some key =>
    let path := keys.dropLast
    let add (origin : Origin) (found : Entries) : Option Entries :=
      if (origin == .dotted) == path.isEmpty then none
      else if (get? key found).isSome then none
      else some (put key (.value value) found)
    descend true add path .header entries

/-- Add several values one after another. -/
def addPairs (entries : Entries) (pairs : List (List String × Value)) : Option Entries :=
  pairs.foldlM (fun entries pair => addPair entries pair.1 pair.2) entries

end Entries

mutual

/-- The value of a node. -/
def Node.toValue : Node → Value
  | .value value => value
  | .table _ entries => .table (entriesValues entries)
  | .tables elements => .array (elementsValues elements)

/-- The values of the entries of a table. -/
def entriesValues : List (String × Node) → List (String × Value)
  | [] => []
  | (key, node) :: rest => (key, node.toValue) :: entriesValues rest

/-- The values of the elements of an array of tables. -/
def elementsValues : List (List (String × Node)) → List Value
  | [] => []
  | entries :: rest => .table (entriesValues entries) :: elementsValues rest

end

/-- The inline table with the given pairs. -/
def Value.ofPairs (pairs : List (List String × Value)) : Option Value :=
  (Entries.addPairs [] pairs).map fun entries => .table (entriesValues entries)

/-! ### Documents -/

/-- A header with the pairs below it. A header in double brackets starts an element of an array. -/
structure Section where
  keys : List String
  isElement : Bool
  pairs : List (List String × Value)

/-- Add a section to the entries of a document. -/
def Entries.addSection (entries : Entries) (part : Section) : Option Entries :=
  match part.keys.getLast? with
  | none => none
  | some key =>
    let place (_ : Origin) (found : Entries) : Option Entries :=
      match part.isElement, get? key found with
      | true, none => do
        let built ← addPairs [] part.pairs
        some (put key (.tables [built]) found)
      | true, some (.tables elements) => do
        let built ← addPairs [] part.pairs
        some (put key (.tables (elements ++ [built])) found)
      | false, none => do
        let built ← addPairs [] part.pairs
        some (put key (.table .header built) found)
      | false, some (.table .path inner) => do
        let built ← addPairs inner part.pairs
        some (put key (.table .header built) found)
      | _, _ => none
    descend false place part.keys.dropLast .header entries

/-- The document with the given pairs before the first header, and the given sections. -/
def Value.ofSections (pairs : List (List String × Value)) (sections : List Section) :
    Option Value := do
  let top ← Entries.addPairs [] pairs
  let all ← sections.foldlM Entries.addSection top
  some (.table (entriesValues all))

end CurlScribe.Toml
