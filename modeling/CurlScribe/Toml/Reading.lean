/-
This file reads TOML documents. A document is a list of lines: pairs of a key and a value,
headers in single or double brackets, comments, and empty lines. Arrays and inline tables
may go over several lines, also around an equals sign, and may end with a comma. They may
be nested 80 deep, and a key may have 80 parts. A byte order mark may stand first. Whether
the lines fit together is settled by the tables they make, and what the document means by
the interpretation of these.
-/

import CurlScribe.Toml.Interpretation
import CurlScribe.Toml.Quoted

namespace CurlScribe.Toml

open Text

/-! ### Space, comments and line ends -/

/-- The text behind the tabs and spaces at its start. -/
def skipSpace (text : List Char) : List Char :=
  text.dropWhile isSpace

/-- The text behind a comment at its start, if there is one; the line end stays. -/
def skipComment : List Char → List Char
  | '#' :: rest => rest.dropWhile isAllowed
  | text => text

theorem skipComment_suffix (text : List Char) : skipComment text <:+ text := by
  unfold skipComment
  split
  · rename_i rest
    exact (List.dropWhile_suffix isAllowed).trans (List.suffix_cons '#' rest)
  · exact List.suffix_refl _

/-- The text behind the spaces, comments and line ends at its start: all that may stand between the
tokens of an array. -/
def skipTrivia (text : List Char) : List Char :=
  match ended : skipLineEnd (skipComment (skipSpace text)) with
  | some rest =>
    have : rest.length < text.length :=
      Nat.lt_of_lt_of_le (skipLineEnd_length_lt _ _ ended)
        ((skipComment_suffix _).trans (List.dropWhile_suffix isSpace)).length_le
    skipTrivia rest
  | none => skipComment (skipSpace text)
termination_by text.length

/-- What follows the end of a line: possibly a comment, then a line end or the end of the text. -/
def finishLine (text : List Char) : Option (List Char) :=
  match skipComment (skipSpace text) with
  | [] => some []
  | rest => skipLineEnd rest

/-! ### Keys -/

/-- The characters of a key without quotes. -/
def isKeyCharacter (character : Char) : Bool :=
  character.isAlphanum || character == '_' || character == '-'

/-- Read one part of a key. -/
def readKeyPart : Reader String := fun text =>
  match text.span isKeyCharacter with
  | ([], _) => readShortString text
  | (part, rest) => some (String.ofList part, rest)

/-- Read a key, whose parts stand between dots. The count bounds the number of parts. -/
def readKeyParts : Nat → Reader (List String)
  | 0, _ => none
  | count + 1, text => do
    let (part, rest) ← readKeyPart (skipSpace text)
    match skipSpace rest with
    | '.' :: later =>
      let (others, after) ← readKeyParts count later
      some (part :: others, after)
    | after => some ([part], after)

/-- How many parts a key may have, and how deep arrays and inline tables may be nested. -/
def depthLimit : Nat := 80

/-- Read a key and the spaces around it. -/
def readKey : Reader (List String) :=
  readKeyParts depthLimit

/-! ### Values -/

/-- Read a key, an equals sign and a value, with what is skipped around the equals sign. -/
def readPair (skip : List Char → List Char) (value : Reader Value) :
    Reader (List String × Value) := fun text => do
  let (keys, rest) ← readKey text
  let rest ← expect ['='] (skip rest)
  let (meaning, after) ← value (skip rest)
  some ((keys, meaning), after)

/-- A list ends with the given character; a comma may stand before that. -/
def listUpTo (closing : Char) : ListStyle :=
  ⟨closing, skipTrivia, true⟩

/-- Read a value in which arrays and inline tables may be nested `depth` deep. -/
def readValue : (depth : Nat) → Reader Value
  | depth + 1, '[' :: rest =>
    (readList (listUpTo ']') (readValue depth) rest).map fun (items, after) => (.array items, after)
  | depth + 1, '\x7b' :: rest => do
    let (pairs, after) ←
      readList (listUpTo '\x7d') (readPair skipTrivia (readValue depth)) rest
    let table ← Value.ofPairs pairs
    some (table, after)
  | _, text =>
    ((readQuoted text).map fun (content, after) => (Value.string content, after)).or
      (readScalar text)

/-! ### Lines -/

/-- A line that says something. -/
inductive Line where
  | pair (keys : List String) (value : Value)
  | header (keys : List String) (isElement : Bool)

/-- Read a line that says something, up to its comment. -/
def readLine : Reader Line
  | '[' :: '[' :: rest => do
    let (keys, rest) ← readKey rest
    let after ← expect [']', ']'] rest
    some (.header keys true, after)
  | '[' :: rest => do
    let (keys, rest) ← readKey rest
    let after ← expect [']'] rest
    some (.header keys false, after)
  | text => do
    let ((keys, value), after) ← readPair skipSpace (readValue depthLimit) text
    some (.pair keys value, after)

/-- Read all lines of a text. The count bounds their number. -/
def readLines : Nat → List Char → Option (List Line)
  | 0, _ => none
  | count + 1, text =>
    match skipTrivia text with
    | [] => some []
    | start => do
      let (line, rest) ← readLine start
      let rest ← finishLine rest
      let others ← readLines count rest
      some (line :: others)

/-- The pairs before the first header among lines, and the sections that the headers start. -/
def sectionsOf : List Line → List (List String × Value) × List Section
  | [] => ([], [])
  | .pair keys value :: rest =>
    let (pairs, sections) := sectionsOf rest
    ((keys, value) :: pairs, sections)
  | .header keys isElement :: rest =>
    let (pairs, sections) := sectionsOf rest
    ([], ⟨keys, isElement, pairs⟩ :: sections)

/-! ### Documents -/

/-- What a document means, if the text is a document and means anything. -/
def read (text : String) : Option Value := do
  let content :=
    match text.toList with
    | '\ufeff' :: rest => rest
    | characters => characters
  let lines ← readLines (content.length + 1) content
  let (pairs, sections) := sectionsOf lines
  (Value.ofSections pairs sections).bind Value.interpreted

end CurlScribe.Toml
