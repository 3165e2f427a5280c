/-
This file settles which request a command describes. Only some options shape the request;
all others are ignored. The data options are read in a fixed order, whatever their order
in the command, and their values are joined as form fields. Where two options contradict
each other, the rule that decides is stated at the function that reads them.
-/

import CurlScribe.Command.Basic
import CurlScribe.Request.Basic
import CurlScribe.Text.LetterCase
import CurlScribe.Error

namespace CurlScribe

open Text

/-! ### Address, headers, credentials -/

/-- The address is the first value of `url`, or else the second word. -/
def addressOf (command : Command) : String :=
  ((command.first? "url").or command.positionals[1]?).getD ""

/-- The name and the value of a header line, without the blanks around them; a line without a
colon is none. -/
def headerOfLine (line : String) : Option (String × String) :=
  (cutAt ':' line).map fun parts => (trim parts.1, trim parts.2)

/-- The headers of the lines given with `H`, then of those given with `header`. -/
def headersOf (command : Command) : Headers :=
  .ofPairs ((command.values "H" ++ command.values "header").filterMap headerOfLine)

/-- The credentials are the last value of `user`, or else of `u`; empty ones do not count. -/
def basicAuthOf (command : Command) : Option BasicAuth :=
  (((command.last? "user").or (command.last? "u")).filter (!·.isEmpty)).map .ofCredentials

/-- Whether the certificate of the server goes unverified. -/
def isInsecure (command : Command) : Bool :=
  command.isSet "k" || command.isSet "insecure"

/-! ### Data -/

/-- One value of a data option: the path of a file to send, or text to send as it stands. -/
inductive Datum where
  | file (path : String)
  | text (content : String)
  deriving DecidableEq, Repr

/-- A value that starts with an at sign names a file, if the option lets it. -/
def Datum.ofValue (namesFiles : Bool) (value : String) : Datum :=
  match namesFiles, value.toList with
  | true, '@' :: path => .file (String.ofList path)
  | _, _ => .text value

/-- The path of a datum that is a file. -/
def Datum.path? : Datum → Option String
  | .file path => some path
  | .text _ => none

/-- The content of a datum that is text. -/
def Datum.content? : Datum → Option String
  | .file _ => none
  | .text content => some content

/-- The data options in the order in which they are read, and whether they can name files. -/
def dataFlags : List (String × Bool) :=
  [("d", true), ("data", true), ("data-binary", true), ("data-raw", false)]

/-- All data of a command, in the order of the options. -/
def dataOf (command : Command) : List Datum :=
  dataFlags.flatMap fun flag => (command.values flag.1).map (Datum.ofValue flag.2)

/-! ### Method and encoding -/

/-- The method that is asked for by name: the last value of `request`, or else of `X`. -/
def namedMethod (command : Command) : Option String :=
  (command.last? "request").or (command.last? "X")

/-- Whether data is given that is sent as it stands. -/
def sendsRawData (command : Command) : Bool :=
  command.isSet "data-binary" || command.isSet "data-raw"

/-- The method, where an empty text means that nothing decides it: a method asked for by name
counts first, in capitals; raw data makes a POST; `I` and `head` make a HEAD. -/
def chosenMethod (command : Command) : String :=
  match namedMethod command with
  | some name => upperCase name
  | none =>
    if sendsRawData command then "POST"
    else if command.isSet "I" || command.isSet "head" then "HEAD"
    else ""

/-- The method: the chosen one, or else POST with data and GET without. -/
def methodOf (command : Command) : String :=
  let chosen := chosenMethod command
  if !chosen.isEmpty then chosen
  else if (dataOf command).isEmpty then "GET"
  else "POST"

/-- Text keeps its escapes when raw data is sent and no method is asked for by name. -/
def encodingOf (command : Command) : BodyEncoding :=
  if (namedMethod command).isNone && sendsRawData command then .raw else .templated

/-! ### Body -/

/-- The content type of a body for which none is given. -/
def defaultContentType : String := "application/x-www-form-urlencoded"

/-- Every field between ampersands has an equals sign; empty fields do not count. -/
def looksLikeForm (content : String) : Bool :=
  ((segments '&' content.toList).filter (!·.isEmpty)).all (·.contains '=')

/-- Sort inline text by the content type it is sent with. -/
def classify (content contentType : String) : Payload :=
  if mentions "json".toList contentType.toList then .json content
  else if contentType = defaultContentType ∧ looksLikeForm content then .form content
  else .text content

/-- The inline text: all data that is text, joined by ampersands. -/
def inlineText (data : List Datum) : String :=
  "&".intercalate (data.filterMap Datum.content?)

/-- The headers with the default content type, if there is something to send and none is given. -/
def withContentType (headers : Headers) (isSending : Bool) : Headers :=
  if isSending && !headers.contains "Content-Type" then
    headers.set "Content-Type" defaultContentType
  else headers

/-! ### The request -/

/-- The request that a command describes. -/
def requestOf (command : Command) : Request :=
  let data := dataOf command
  let content := inlineText data
  let paths := data.filterMap Datum.path?
  let headers := withContentType (headersOf command) (!content.isEmpty || !paths.isEmpty)
  let inline :=
    if content.isEmpty then none
    else some (classify content ((headers.get? "Content-Type").getD ""))
  { url := addressOf command
    method := methodOf command
    headers := headers
    body := .ofParts inline paths
    encoding := encodingOf command
    basicAuth := basicAuthOf command
    insecure := isInsecure command }

/-- The request of a command whose first word is `curl`. -/
def extract (command : Command) : Except Error Request :=
  let word := command.positionals.head?.getD ""
  if word = "curl" then .ok (requestOf command) else .error (.notACurlCommand word)

end CurlScribe
