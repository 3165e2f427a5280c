/-
This file writes the declaration of a Go type. A struct stands inline, a field on each
line, indented by its depth; the tag of a field says the name that it has in JSON and
whether it may be left out.
-/

import CurlScribe.Go.Literal
import CurlScribe.Go.Type.FieldName
import CurlScribe.Go.Type.Inference
import CurlScribe.Json.Reading

namespace CurlScribe.Go

open Text

/-- What the tag of a field says: the name in JSON, and whether the field may be left out. -/
def Field.tagText {Shape : Type} (field : Field Shape) : String :=
  if field.optional then field.key ++ ",omitempty" else field.key

/-- The tag of a field. -/
def Field.tag {Shape : Type} (field : Field Shape) : String :=
  "\x60json:" ++ quote field.tagText ++ "\x60"

/-- As many tabs. -/
def tabs (count : Nat) : String :=
  String.ofList (List.replicate count '\t')

namespace GoType

mutual

/-- A type as it is written, inside of `depth` structs. -/
def text (depth : Nat) : GoType → String
  | .any => "interface\x7b\x7d"
  | .boolean => "bool"
  | .string => "string"
  | .int => "int"
  | .int64 => "int64"
  | .float64 => "float64"
  | .slice element => "[]" ++ text depth element
  | .struct fields =>
    "struct \x7b\n" ++
      String.join (fieldTexts (depth + 1) (fieldNames (fields.map (·.key))) fields) ++
      tabs depth ++ "\x7d"

/-- The lines for fields that get the given names. -/
def fieldTexts (depth : Nat) : List String → List (Field GoType) → List String
  | name :: names, field :: rest =>
    (tabs depth ++ name ++ " " ++ fieldTypeText depth field ++ " " ++ field.tag ++ "\n") ::
      fieldTexts depth names rest
  | _, _ => []

/-- The type of a field as it is written. -/
def fieldTypeText (depth : Nat) : Field GoType → String
  | ⟨_, type, _⟩ => text depth type

end

end GoType

/-- The declaration of a type of the given name that a JSON document fits; a text that is no
document has none. -/
def typeDefinition (document typeName : String) : Option String :=
  (Json.read document).map fun value =>
    "type " ++ typeName ++ " " ++ (GoType.ofValue value).text 0

end CurlScribe.Go
