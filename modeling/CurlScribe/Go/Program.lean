/-
This file wraps a fragment of code into a complete program: a package clause, an import
block and a main function with the fragment as its body. The body is indented by one tab,
except where a line continues a raw string, since a tab there would change the string.
-/

import CurlScribe.Go.Package
import CurlScribe.Text.Split

namespace CurlScribe.Go

open Text

/-! ### Lexemes across lines -/

/-- What a place in the code is part of. -/
inductive Lexeme where
  | code
  | interpreted
  | raw
  | comment
  deriving DecidableEq, Repr

/-- What the end of a line is part of, given what its start is part of. -/
def lexemeAfter : Lexeme → List Char → Lexeme
  | state, [] => state
  | .code, character :: rest =>
    if character = '\x22' then lexemeAfter .interpreted rest
    else if character = '\x60' then lexemeAfter .raw rest
    else if character = '/' ∧ rest.head? = some '/' then lexemeAfter .comment rest
    else lexemeAfter .code rest
  | .interpreted, '\x5c' :: _ :: rest => lexemeAfter .interpreted rest
  | .interpreted, character :: rest =>
    if character = '\x22' then lexemeAfter .code rest else lexemeAfter .interpreted rest
  | .raw, character :: rest =>
    if character = '\x60' then lexemeAfter .code rest else lexemeAfter .raw rest
  | .comment, _ :: rest => lexemeAfter .comment rest

/-- What the next line starts in: only a raw string goes on across the end of a line. -/
def Lexeme.acrossLine : Lexeme → Lexeme
  | .raw => .raw
  | _ => .code

/-! ### Lines -/

/-- A line without the carriage return before its line feed. -/
def withoutReturn (line : List Char) : List Char :=
  if line.getLast? = some '\r' then line.dropLast else line

/-- The lines among pieces that were cut at line feeds: the last piece has no line feed, so it is a
line only if it is not empty, and keeps its carriage return. -/
def linesOfPieces : List (List Char) → List (List Char)
  | [] => []
  | [last] => if last.isEmpty then [] else [last]
  | line :: rest => withoutReturn line :: linesOfPieces rest

/-- The lines of a text. -/
def linesOf (text : List Char) : List (List Char) :=
  linesOfPieces (segments '\n' text)

/-! ### Indentation -/

/-- The lines indented by one tab, except empty ones and those that continue a raw string. -/
def indentLines : Lexeme → List (List Char) → List Char
  | _, [] => []
  | state, line :: rest =>
    (if state = .raw ∨ line.isEmpty then line else '\t' :: line) ++
      '\n' :: indentLines (lexemeAfter state line).acrossLine rest

/-- A fragment indented by one tab. -/
def indent (fragment : String) : String :=
  String.ofList (indentLines .code (linesOf fragment.toList))

/-! ### Programs -/

/-- The line that imports a package. -/
def importLine (package : Package) : String :=
  "\t\x22" ++ package.path ++ "\x22\n"

/-- The program that runs a fragment. -/
def programText (imports : List Package) (fragment : String) : String :=
  "package main\n\nimport (\n" ++ String.join (imports.map importLine) ++
    ")\n\nfunc main() \x7b\n" ++ indent fragment ++ "\x7d\n"

end CurlScribe.Go
