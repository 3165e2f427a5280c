/-
This file is the program: it collects the arguments, the file of settings and the input,
makes one run of them, and prints what the run leaves behind.
-/

import CurlScribe.Session

namespace CurlScribe

/-- The directory of settings: the one that the environment names, or the one of this program among
the user's settings. -/
def settingsDirectory : IO String := do
  if let some directory ← IO.getEnv "CURL_TO_GO_CONFIG_DIR" then
    return directory
  if let some base ← IO.getEnv "XDG_CONFIG_HOME" then
    if base.startsWith "/" then
      return base ++ "/curl-to-go"
  if let some home ← IO.getEnv "HOME" then
    if !home.isEmpty then
      return home ++ "/.config/curl-to-go"
  return ".curl-to-go"

/-- What a text is, given its bytes. -/
def fileStateOf (bytes : ByteArray) : FileState :=
  match String.fromUTF8? bytes with
  | some text => .content text
  | none => .unreadable .badStream

/-- What is found where the file of settings should be. -/
def readSettingsFile (directory : String) : IO FileState := do
  try
    return fileStateOf (← IO.FS.readBinFile (directory ++ "/config.toml"))
  catch
    | .noFileOrDirectory .. => return .missing
    | .permissionDenied .. => return .unreadable .permissionDenied
    | _ => return .unreadable .isDirectory

/-- All bytes of a stream. -/
def readAll (stream : IO.FS.Stream) : IO ByteArray := do
  let mut bytes := ByteArray.empty
  repeat
    let chunk ← stream.read 65536
    if chunk.isEmpty then
      break
    bytes := bytes ++ chunk
  return bytes

/-- What there is to read. -/
def readInput : IO Input := do
  let stream ← IO.getStdin
  if ← stream.isTty then
    return .terminal
  match String.fromUTF8? (← readAll stream) with
  | some text => return .text text
  | none => return .badBytes

/-- The input is read only where it is asked for. -/
def inputFor (words : List String) : IO Input :=
  match Arguments.read words with
  | .ok arguments => if readsInput arguments.command then readInput else pure .terminal
  | .error _ => pure .terminal

/-- Print what a run leaves behind. -/
def report (outcome : Outcome) : IO Unit := do
  for warning in outcome.warnings do
    IO.eprintln (" WARN " ++ warning.message)
  IO.print outcome.output
  if let some fault := outcome.fault then
    IO.eprintln ("Error: " ++ fault)

/-- Make one run, and return the status that it ends with. -/
def start (words : List String) : IO UInt32 := do
  let file ← readSettingsFile (← settingsDirectory)
  let outcome := run ⟨words, file, ← inputFor words⟩
  report outcome
  return UInt32.ofNat outcome.status

end CurlScribe

/-- The program. -/
def main (words : List String) : IO UInt32 :=
  CurlScribe.start words
