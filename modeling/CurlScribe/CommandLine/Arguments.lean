/-
This file reads the arguments of the program. Options come first; the first word that is
none of them starts the command to convert, and from there on nothing is an option any
more. An option with a value takes it from its own word, behind an equals sign, or from
the next word, which may start with a dash unless it is one of the options itself. No
option may be given twice. Help and version answer as soon as they are reached.
-/

import CurlScribe.Text.Split

namespace CurlScribe

open Text

/-! ### Options -/

/-- An option without a value. -/
inductive Toggle where
  | standalone
  | noBanner
  | gofmt
  | debug
  | manpage
  deriving DecidableEq, Repr

/-- An option with a value. -/
inductive Parameter where
  | typeName
  | logFormat
  | completions
  deriving DecidableEq, Repr

/-- The form in which diagnostics are written. -/
inductive LogFormat where
  | text
  | json
  deriving DecidableEq, Repr

/-- A shell to write completions for. -/
inductive Shell where
  | bash
  | zsh
  | fish
  | powerShell
  | elvish
  deriving DecidableEq, Repr

/-- The form of diagnostics with a name. -/
def LogFormat.ofName? : String → Option LogFormat
  | "text" => some .text
  | "json" => some .json
  | _ => none

/-- The shell with a name. -/
def Shell.ofName? : String → Option Shell
  | "bash" => some .bash
  | "zsh" => some .zsh
  | "fish" => some .fish
  | "power-shell" => some .powerShell
  | "elvish" => some .elvish
  | _ => none

/-! ### Arguments -/

/-- What the arguments ask for. -/
structure Arguments where
  command : List String := []
  typeName : Option String := none
  standalone : Bool := false
  noBanner : Bool := false
  gofmt : Bool := false
  logFormat : Option LogFormat := none
  debug : Bool := false
  completions : Option Shell := none
  manpage : Bool := false
  deriving DecidableEq, Repr

/-- Why the arguments ask for no work: they ask for a text about the program, or they are wrong. -/
inductive Stop where
  /-- Help is asked for, in full or as a summary. -/
  | help (full : Bool)
  | version
  | missingValue (parameter : Parameter)
  | unknownValue (parameter : Parameter) (value : String)
  | repeatedToggle (toggle : Toggle)
  | repeatedParameter (parameter : Parameter)
  /-- An option without a value is given one. -/
  | surplusValue
  deriving DecidableEq, Repr

namespace Arguments

/-- Switch a toggle on, unless it is on. -/
def switchOn (arguments : Arguments) (toggle : Toggle) : Except Stop Arguments :=
  match toggle with
  | .standalone =>
    if arguments.standalone then .error (.repeatedToggle toggle)
    else .ok { arguments with standalone := true }
  | .noBanner =>
    if arguments.noBanner then .error (.repeatedToggle toggle)
    else .ok { arguments with noBanner := true }
  | .gofmt =>
    if arguments.gofmt then .error (.repeatedToggle toggle)
    else .ok { arguments with gofmt := true }
  | .debug =>
    if arguments.debug then .error (.repeatedToggle toggle)
    else .ok { arguments with debug := true }
  | .manpage =>
    if arguments.manpage then .error (.repeatedToggle toggle)
    else .ok { arguments with manpage := true }

/-- Whether a parameter has a value. -/
def isGiven (arguments : Arguments) : Parameter → Bool
  | .typeName => arguments.typeName.isSome
  | .logFormat => arguments.logFormat.isSome
  | .completions => arguments.completions.isSome

/-- Give a parameter a value, unless it has one. -/
def assign (arguments : Arguments) (parameter : Parameter) (value : String) :
    Except Stop Arguments :=
  if arguments.isGiven parameter then .error (.repeatedParameter parameter)
  else
    match parameter with
    | .typeName => .ok { arguments with typeName := some value }
    | .logFormat =>
      match LogFormat.ofName? value with
      | some format => .ok { arguments with logFormat := some format }
      | none => .error (.unknownValue parameter value)
    | .completions =>
      match Shell.ofName? value with
      | some shell => .ok { arguments with completions := some shell }
      | none => .error (.unknownValue parameter value)

end Arguments

/-! ### Words -/

/-- What a word before the command is. -/
inductive WordRole where
  /-- Two dashes, behind which everything is the command. -/
  | endOfOptions
  | help (full : Bool)
  | version
  | toggle (toggle : Toggle)
  /-- An option without a value that is given one. -/
  | surplus
  /-- An option with a value, which may stand in the same word. -/
  | parameter (parameter : Parameter) (value : Option String)
  /-- None of the options. -/
  | other
  deriving DecidableEq, Repr

/-- The option with a name, without the dashes. -/
def roleOfName (name : String) (value : Option String) : WordRole :=
  let bare (role : WordRole) := if value.isNone then role else .surplus
  match name with
  | "help" => bare (.help true)
  | "version" => bare .version
  | "standalone" => bare (.toggle .standalone)
  | "no-banner" => bare (.toggle .noBanner)
  | "gofmt" => bare (.toggle .gofmt)
  | "debug" => bare (.toggle .debug)
  | "generate-manpage" => bare (.toggle .manpage)
  | "type-name" => .parameter .typeName value
  | "log-format" => .parameter .logFormat value
  | "generate-completions" => .parameter .completions value
  | _ => .other

/-- What a word before the command is. One-letter options may share a word, and the first one
counts; a word with any other letter is none of the options. -/
def roleOfWord (word : String) : WordRole :=
  match word.toList with
  | ['-', '-'] => .endOfOptions
  | '-' :: '-' :: text =>
    match splitFirst '=' text with
    | some (name, value) => roleOfName (String.ofList name) (some (String.ofList value))
    | none => roleOfName (String.ofList text) none
  | '-' :: 'h' :: letters => if letters.all (· ∈ ['h', 'V']) then .help false else .other
  | '-' :: 'V' :: letters => if letters.all (· ∈ ['h', 'V']) then .version else .other
  | _ => .other

/-! ### Reading -/

/-- A parameter that is named but takes effect only with the next option, with the command, or at
the end; its value is the next word, if it has come. -/
structure Awaited where
  parameter : Parameter
  value : Option String

/-- Let an awaited parameter take effect. -/
def settle (arguments : Arguments) : Option Awaited → Except Stop Arguments
  | none => .ok arguments
  | some ⟨parameter, none⟩ => .error (.missingValue parameter)
  | some ⟨parameter, some value⟩ => arguments.assign parameter value

/-- Read arguments, given what the words before them ask for. -/
def readFrom (arguments : Arguments) (awaited : Option Awaited) :
    List String → Except Stop Arguments
  | [] => settle arguments awaited
  | word :: rest =>
    match roleOfWord word, awaited with
    | .surplus, _ => .error .surplusValue
    | .other, some ⟨parameter, none⟩ =>
      readFrom arguments (some ⟨parameter, some word⟩) rest
    | role, _ =>
      (settle arguments awaited).bind fun settled =>
        match role with
        | .endOfOptions => .ok { settled with command := rest }
        | .help full => .error (.help full)
        | .version => .error .version
        | .toggle toggle =>
          (settled.switchOn toggle).bind fun changed => readFrom changed none rest
        | .parameter parameter none => readFrom settled (some ⟨parameter, none⟩) rest
        | .parameter parameter (some value) =>
          (settled.assign parameter value).bind fun changed => readFrom changed none rest
        | .surplus => .error .surplusValue
        | .other => .ok { settled with command := word :: rest }

/-- Read the arguments of the program. -/
def Arguments.read (words : List String) : Except Stop Arguments :=
  readFrom {} none words

end CurlScribe
