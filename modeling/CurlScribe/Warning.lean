/-
This file lists what the user is told about although the work goes on.
-/

namespace CurlScribe

/-- Something that went wrong and was worked around. -/
inductive Warning where
  /-- The settings cannot be used; the built-in ones are. -/
  | settingsRejected
  /-- The command ends inside a quote or behind a backslash; it is read as if it were closed. -/
  | commandUnclosed
  /-- The body is sent as JSON but is no JSON document; it is written as a string. -/
  | bodyNotJson
  /-- The name for the type of the body cannot be used; another one is. -/
  | typeNameUnusable
  /-- The formatter cannot be used or failed; the code is printed as it is. -/
  | formatterFailed
  deriving DecidableEq, Repr

/-- The words of a warning. -/
def Warning.message : Warning → String
  | .settingsRejected => "Failed to load config; using defaults"
  | .commandUnclosed => "Command ends inside an unterminated construct"
  | .bodyNotJson => "JSON body did not parse; emitting it as a string"
  | .typeNameUnusable => "Unusable type name; using Payload"
  | .formatterFailed => "gofmt unavailable; printing unformatted code"

end CurlScribe
