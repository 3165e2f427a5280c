/-
This file says which names can be given to the type of a JSON body. The type is declared
among the statements of the generated code, so its name has to be a Go identifier, no
keyword, and none of the names that these statements use.
-/

import CurlScribe.Text.Alphabetic

namespace CurlScribe.Go

open Text

/-! ### Names that are taken -/

/-- The keywords of Go. -/
def keywords : List String :=
  ["break", "case", "chan", "const", "continue", "default", "defer", "else", "fallthrough", "for",
    "func", "go", "goto", "if", "import", "interface", "map", "package", "range", "return",
    "select", "struct", "switch", "type", "var"]

/-- The variables of the generated code, the packages it uses, and the types of struct fields. -/
def takenNames : List String :=
  ["body", "client", "data", "err", "f", "params", "payload", "payloadBytes", "req", "resp", "tr",
    "bytes", "http", "io", "json", "os", "strings", "tls", "url",
    "any", "bool", "float64", "int", "int64", "interface", "string"]

/-- The name is the variable of one of several files: an `f` and a number. -/
def isFileVariable (name : String) : Bool :=
  match name.toList with
  | 'f' :: digits => !digits.isEmpty && digits.all Char.isDigit
  | _ => false

/-! ### Names that can be given -/

/-- The name is a letter or an underscore, followed by letters, numerals and underscores. -/
def isIdentifier (name : String) : Bool :=
  match name.toList with
  | first :: rest =>
    (isLetter first || first == '_') &&
      rest.all fun character => isLetterOrNumeral character || character == '_'
  | [] => false

/-- The name can be given to the type of a JSON body. -/
def isTypeName (name : String) : Bool :=
  isIdentifier name && name != "_" && !isFileVariable name && !keywords.contains name &&
    !takenNames.contains name

/-- The name for the type of a JSON body when no other is asked for. -/
def defaultTypeName : String := "Payload"

theorem isTypeName_defaultTypeName : isTypeName defaultTypeName = true := by
  decide +kernel

end CurlScribe.Go
