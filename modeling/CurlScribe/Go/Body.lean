/-
This file writes the code that makes a reader for the body of a request. Inline text
becomes a reader of a marshalled value, of encoded form fields, or of a string; each file
is opened and closed again; several readers are read one after another, the text first and
the files in their order.
-/

import CurlScribe.Go.Draft
import CurlScribe.Text.FormEncoding

namespace CurlScribe.Go

open Text

/-! ### Types for JSON bodies -/

/-- A way to write the declaration of a type, given by its name, that a JSON document fits; it can
fail on a text that is no document. -/
abbrev TypeWriter := (document typeName : String) → Option String

/-- What decides how a body is written. -/
structure BodyStyle where
  typeWriter : TypeWriter
  typeName : String
  encoding : BodyEncoding

/-! ### Inline text -/

/-- The variable that holds the reader of inline text. -/
def bodyName : String := "body"

/-- A reader of the value that a document describes, which the user fills in. -/
def writeDocument (typeName definition : String) : Draft :=
  .require [.bytes, .json] ++
  .emit
    [.declareType typeName definition,
     .blank,
     .define ["data"] (.composite (.name typeName) (.lines ["fill struct"]) []),
     .define ["payloadBytes", "err"] (.callOf .json "Marshal" [.name "data"]),
     .checkError,
     .define [bodyName] (.callOf .bytes "NewReader" [.name "payloadBytes"])]

/-- A reader of a string. -/
def writeString (encoding : BodyEncoding) (content : String) : Draft :=
  .require [.strings] ++
  .emit
    [.define [bodyName] (.callOf .strings "NewReader" [.literal (bodyLiteral encoding content)])]

/-- The statement that adds one form field. -/
def writeField (field : String × String) : Draft :=
  .requireFor [field.1, field.2] ++
  .emit
    [.perform (.callOn "params" "Add" [.ofString field.1, .ofString field.2])]

/-- A reader of form fields, which are encoded when the program runs. -/
def writeForm (content : String) : Draft :=
  .require [.url, .strings] ++
  .emit [.define ["params"] (.composite (.qualified .url "Values") .inline [])] ++
  .concat ((formFields content).map writeField) ++
  .emit
    [.define [bodyName] (.callOf .strings "NewReader" [.callOn "params" "Encode" []])]

/-- A reader of inline text. A text that is sent as JSON and is none is written as a string. -/
def writePayload (style : BodyStyle) : Payload → Draft
  | .json content =>
    (match style.typeWriter content style.typeName with
      | some definition => writeDocument style.typeName definition
      | none => .warn .bodyNotJson ++ writeString style.encoding content) ++
    .emit [.blank]
  | .form content => writeForm content ++ .emit [.blank]
  | .text content => writeString style.encoding content ++ .emit [.blank]

/-! ### Files -/

/-- The variables that hold the opened files: a single one has no number. -/
def fileNames (count : Nat) : List String :=
  if count = 1 then ["f"] else (List.range count).map fun index => "f" ++ toString (index + 1)

/-- The statements that open a file and close it at the end. -/
def writeFile (file path : String) : Draft :=
  .requireFor [path] ++ .require [.os] ++
  .emit
    [.define [file, "err"] (.callOf .os "Open" [.ofString path]),
     .checkError,
     .deferred (.callOn file "Close" [])]

/-! ### The reader -/

/-- The code that joins readers, and the expression for what they are joined to. -/
def joinReaders : List String → Draft × Expression
  | [] => ({}, .nil)
  | [reader] => ({}, .name reader)
  | readers =>
    (.require [.io] ++
      .emit [.define ["payload"] (.callOf .io "MultiReader" (readers.map .name))],
      .name "payload")

/-- The code for a body, and the expression for its reader; without a body that is no value. -/
def writeBody (style : BodyStyle) (body : Body) : Draft × Expression :=
  let files := fileNames body.paths.length
  let inline := body.payload?.toList
  let joined := joinReaders (inline.map (fun _ => bodyName) ++ files)
  (.concat (inline.map (writePayload style)) ++
    .concat ((files.zip body.paths).map fun file => writeFile file.1 file.2) ++
    joined.1,
    joined.2)

end CurlScribe.Go
