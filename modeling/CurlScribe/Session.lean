/-
This file is a whole run of the program as a function of what it is given: its arguments,
what is found where the settings should be, its input, and the programs of the system, one
of which may be asked to format. A run prints the code for one
command, or nothing and says why. Options in the arguments count more than settings in
the file; a file that cannot be used is reported, and the defaults take its place.
-/

import CurlScribe.CommandLine.Help
import CurlScribe.CommandLine.Quoting
import CurlScribe.Conversion
import CurlScribe.Settings

namespace CurlScribe

open Go

/-! ### What a run is given -/

/-- What there is to read: a user at a terminal, a text, or bytes that are no text. -/
inductive Input where
  | terminal
  | text (content : String)
  | badBytes
  deriving DecidableEq, Repr

/-- What a run depends on. -/
structure Surroundings where
  words : List String
  settingsFile : FileState
  input : Input

/-! ### What a run leaves behind -/

/-- The status that the program ends with, what it prints, the fault that it tells, and the warnings
that it gives on the way. -/
structure Outcome where
  status : Nat
  output : String
  fault : Option String
  warnings : List Warning
  deriving DecidableEq, Repr

namespace Outcome

/-- A run that ends well. -/
def success (output : String) (warnings : List Warning) : Outcome := ⟨0, output, none, warnings⟩

/-- A run that ends with a fault, told with its structure if details are asked for. -/
def failure (detailed : Bool) (fault : Error) (warnings : List Warning) : Outcome :=
  ⟨1, "", some (if detailed then fault.detail else fault.message), warnings⟩

end Outcome

/-! ### Steps -/

/-- The settings of the file, or the default ones and a warning. -/
def effectiveSettings (file : FileState) : Settings × List Warning :=
  match Settings.ofFile file with
  | .ok settings => (settings, [])
  | .error _ => ({}, [.settingsRejected])

/-- The options of the settings, overridden by those of the arguments. A name for types in the
arguments has to be one that can be used. -/
def effectiveOptions (arguments : Arguments) (settings : Settings) : Except Error RenderOptions :=
  let options :=
    { settings.renderOptions with
      standalone := settings.standalone || arguments.standalone
      banner := settings.banner && !arguments.noBanner }
  match arguments.typeName with
  | none => .ok options
  | some name =>
    if isTypeName name then .ok { options with typeName := name } else .error (.typeName name)

/-- The text of the command: the words of the arguments, or what there is to read. -/
def commandText (words : List String) (input : Input) : Except Error String :=
  if readsInput words then
    match input with
    | .terminal => .error .emptyInput
    | .text content => .ok content
    | .badBytes => .error (.system .badStream)
  else .ok (commandLine words)

/-- The code as it is printed, through the formatter if that is asked for. -/
def printedCode (system : System) (formats : Bool) (formatter code : String) :
    String × List Warning :=
  if formats then
    match formatCodeIn system formatter code with
    | .ok formatted => (formatted, [])
    | .error _ => (code, [.formatterFailed])
  else (code, [])

/-- A text that ends with a line feed, which is added where there is none. -/
def withFinalLineFeed (text : String) : String :=
  if text.toList.getLast? = some '\n' then text else text ++ "\n"

/-! ### Runs -/

/-- Convert one command. -/
def work (system : System) (arguments : Arguments) (settings : Settings) (input : Input)
    (warnings : List Warning) : Outcome :=
  match effectiveOptions arguments settings, commandText arguments.command input with
  | .error fault, _ | _, .error fault => .failure arguments.debug fault warnings
  | .ok options, .ok text =>
    let conversion := convert options text
    match conversion.result with
    | .error fault => .failure arguments.debug fault (warnings ++ conversion.warnings)
    | .ok code =>
      let formats := arguments.gofmt || settings.formats
      let printed := printedCode system formats settings.formatter code
      .success (withFinalLineFeed printed.1) (warnings ++ conversion.warnings ++ printed.2)

/-- A run of the program on a system. Completions and manuals are not written here, so a run that
asks for them prints nothing. -/
def runIn (system : System) (surroundings : Surroundings) : Outcome :=
  match Arguments.read surroundings.words with
  | .error (.help full) => .success (helpText full) []
  | .error .version => .success versionText []
  | .error _ => ⟨1, "", none, []⟩
  | .ok arguments =>
    if arguments.completions.isSome || arguments.manpage then .success "" []
    else
      let (settings, warnings) := effectiveSettings surroundings.settingsFile
      work system arguments settings surroundings.input warnings

/-- A run of the program where the filters are all there is to format code. -/
def run : Surroundings → Outcome :=
  runIn runProgram

end CurlScribe
