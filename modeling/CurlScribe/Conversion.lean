/-
This file converts a command to Go code: it reads the command, settles the request that it
describes, and writes the code for that request.
-/

import CurlScribe.Command.Reading
import CurlScribe.Go.Generator
import CurlScribe.Go.Type.Definition
import CurlScribe.Request.Extraction

namespace CurlScribe

open Go

/-- The code for a command or the fault that prevents it, and what the user is warned of. -/
structure Conversion where
  result : Except Error String
  warnings : List Warning

/-- The code for a command that was read. A command that says nothing is none. -/
def convertCommand (options : RenderOptions) (typeWriter : TypeWriter) (command : Command) :
    Conversion :=
  let unclosed := command.unclosed.toList.map fun _ => Warning.commandUnclosed
  if command.isEmpty then ⟨.error .emptyInput, unclosed⟩
  else
    match extract command with
    | .error fault => ⟨.error fault, unclosed⟩
    | .ok request =>
      let rendering := render options typeWriter request
      ⟨.ok rendering.code, unclosed ++ rendering.warnings⟩

/-- Convert the text of a command. -/
def convertWith (options : RenderOptions) (typeWriter : TypeWriter) (text : String) : Conversion :=
  convertCommand options typeWriter (Command.read text)

/-- Convert the text of a command, with types inferred from JSON documents. -/
def convert (options : RenderOptions) (text : String) : Conversion :=
  convertWith options typeDefinition text

end CurlScribe
