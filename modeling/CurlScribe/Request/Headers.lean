/-
This file holds the headers of a request: an ordered list in which no two names differ
only in the case of ASCII letters. Names are kept in their customary form. Setting a
name that is there replaces the header at its place, so headers stand in the order in
which their names first appeared; removing one keeps the order of the others.
-/

import CurlScribe.Text.HeaderCase

namespace CurlScribe

open Text

/-- A header, its name in the customary form. -/
structure Header where
  name : String
  value : String
  deriving DecidableEq, Repr

/-- The header is the one that `name` asks for: the names agree up to the case of ASCII letters. -/
def Header.answersTo (header : Header) (name : String) : Bool :=
  lowered header.name == lowered name

/-- Headers in order. -/
structure Headers where
  entries : List Header := []
  deriving DecidableEq, Repr

namespace Headers

/-- Whether there is no header. -/
def isEmpty (headers : Headers) : Bool :=
  headers.entries.isEmpty

/-- The number of headers. -/
def size (headers : Headers) : Nat :=
  headers.entries.length

/-- The list with the header of that name replaced at its place, or appended if there is none. -/
def setIn (name value : String) : List Header → List Header
  | [] => [⟨titleCase name, value⟩]
  | header :: rest =>
    if header.answersTo name then ⟨titleCase name, value⟩ :: rest
    else header :: setIn name value rest

/-- Give a header a value; the last value given for a name counts. -/
def set (headers : Headers) (name value : String) : Headers :=
  ⟨setIn name value headers.entries⟩

/-- The header of a name. -/
def find? (headers : Headers) (name : String) : Option Header :=
  headers.entries.find? (·.answersTo name)

/-- The value of the header of a name. -/
def get? (headers : Headers) (name : String) : Option String :=
  (headers.find? name).map (·.value)

/-- Whether there is a header of that name. -/
def contains (headers : Headers) (name : String) : Bool :=
  headers.entries.any (·.answersTo name)

/-- The headers without the one of a name; the others keep their order. -/
def erase (headers : Headers) (name : String) : Headers :=
  ⟨headers.entries.eraseP (·.answersTo name)⟩

/-- The headers that a list of names and values gives when they are set one after another. -/
def ofPairs (pairs : List (String × String)) : Headers :=
  pairs.foldl (fun headers pair => headers.set pair.1 pair.2) {}

end Headers

end CurlScribe
