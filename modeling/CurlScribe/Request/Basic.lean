/-
This file holds a request: everything that the code for it depends on, with the question
which option of the command wins already settled. A body is inline text, files, or both;
the text goes first. Inline text is sorted by the way it will be written: as a JSON
document, as form fields, or as plain text.
-/

import CurlScribe.Request.Headers
import CurlScribe.Text.Split

namespace CurlScribe

open Text

/-! ### Bodies -/

/-- How plain text is quoted: in a raw string without escapes, or in an interpreted string that
keeps the escapes of the text. -/
inductive BodyEncoding where
  | templated
  | raw
  deriving DecidableEq, Repr

/-- Inline text of a body, by the way it will be written. -/
inductive Payload where
  | json (content : String)
  | form (content : String)
  | text (content : String)
  deriving DecidableEq, Repr

/-- The text itself. -/
def Payload.content : Payload → String
  | .json content | .form content | .text content => content

/-- The body of a request; the files are paths, in order. -/
inductive Body where
  | none
  | payload (inline : Payload)
  | files (paths : List String)
  | mixed (inline : Payload) (paths : List String)
  deriving DecidableEq, Repr

namespace Body

/-- Whether there is no body. -/
def isNone : Body → Bool
  | .none => true
  | _ => false

/-- The inline text, if there is any. -/
def payload? : Body → Option Payload
  | .payload inline | .mixed inline _ => some inline
  | _ => Option.none

/-- The paths of the files, in order. -/
def paths : Body → List String
  | .files list | .mixed _ list => list
  | _ => []

/-- The body that consists of the given text and files. -/
def ofParts : Option Payload → List String → Body
  | Option.none, [] => .none
  | Option.none, list => .files list
  | some inline, [] => .payload inline
  | some inline, list => .mixed inline list

end Body

/-! ### Credentials -/

/-- A user and a password for basic authentication. -/
structure BasicAuth where
  user : String
  password : String
  deriving DecidableEq, Repr

/-- The password that stands for one that was not given. -/
def passwordPlaceholder : String := "<PASSWORD>"

/-- Credentials are cut at their first colon; without one they are a user alone. -/
def BasicAuth.ofCredentials (credentials : String) : BasicAuth :=
  match cutAt ':' credentials with
  | some (user, password) => ⟨user, password⟩
  | none => ⟨credentials, passwordPlaceholder⟩

/-! ### Requests -/

/-- A request. If `insecure` is set, the certificate of the server is not verified. -/
structure Request where
  url : String
  method : String
  headers : Headers := {}
  body : Body := .none
  encoding : BodyEncoding := .templated
  basicAuth : Option BasicAuth := none
  insecure : Bool := false
  deriving DecidableEq, Repr

/-- The request says nothing beyond its method and its address. -/
def Request.isSimple (request : Request) : Bool :=
  request.headers.isEmpty && request.body.isNone && request.basicAuth.isNone && !request.insecure

end CurlScribe
