/-
This file names everything that can go wrong and says how each fault is told to the user:
in one line of plain words, and in the form that shows the structure of the fault, which
is printed when details are asked for.
-/

import CurlScribe.Text.Printable

namespace CurlScribe

open Text

/-! ### Faults of the surroundings -/

/-- What the system answers when a file or a program cannot be used. -/
inductive SystemFault where
  | notFound
  | permissionDenied
  | isDirectory
  /-- Bytes that are not UTF-8: the index of the first bad sequence and its width. -/
  | badBytes (index width : Nat)
  /-- A stream whose bytes are not UTF-8. -/
  | badStream
  /-- A name with a character that no name can have. -/
  | badName
  deriving DecidableEq, Repr

/-- The words of the system for a fault. -/
def SystemFault.message : SystemFault → String
  | .notFound => "No such file or directory (os error 2)"
  | .permissionDenied => "Permission denied (os error 13)"
  | .isDirectory => "Is a directory (os error 21)"
  | .badBytes index width =>
    "invalid utf-8 sequence of " ++ toString width ++ " bytes from index " ++ toString index
  | .badStream => "stream did not contain valid UTF-8"
  | .badName => "nul byte found in provided data"

/-- The fault with its structure. -/
def SystemFault.detail : SystemFault → String
  | .badStream =>
    "Error \x7b kind: InvalidData, message: \"stream did not contain valid UTF-8\" \x7d"
  | fault => shown fault.message

/-- Why settings cannot be used: the file cannot be read, its text is not TOML, or the name it
gives to generated types is none that Go accepts there. -/
inductive SettingsFault where
  | unreadable (fault : SystemFault)
  | notToml
  | typeName (name : String)
  deriving DecidableEq, Repr

/-- The words for a fault of the settings. -/
def SettingsFault.message : SettingsFault → String
  | .unreadable fault => "Failed to read config: " ++ fault.message
  | .notToml => "Invalid config TOML"
  | .typeName name => "output.type_name `" ++ name ++ "` is not a usable Go type name"

/-! ### All faults -/

/-- Everything that can go wrong. -/
inductive Error where
  /-- The first word of the command, which has to be `curl`, is another one. -/
  | notACurlCommand (word : String)
  /-- There is no command at all. -/
  | emptyInput
  /-- A file, a program or a stream cannot be used. -/
  | system (fault : SystemFault)
  /-- The settings cannot be used. -/
  | settings (fault : SettingsFault)
  /-- A formatter ended with a status other than zero and complained. -/
  | formatter (program : String) (status : Nat) (complaint : String)
  /-- The name for generated types in the arguments is none that Go accepts there. -/
  | typeName (name : String)
  deriving DecidableEq, Repr

/-- The part of a fault's message behind its heading. -/
def Error.subject : Error → String
  | .notACurlCommand word => word
  | .emptyInput => ""
  | .system fault => fault.message
  | .settings fault => fault.message
  | .formatter program status complaint =>
    program ++ " exited with exit status: " ++ toString status ++ ": " ++ complaint
  | .typeName name => "--type-name `" ++ name ++ "` is not a usable Go type name"

/-- The line that tells a fault to the user. -/
def Error.message : Error → String
  | .notACurlCommand word =>
    "Not a curl command (first word must be `curl`, found `" ++ word ++ "`)"
  | .emptyInput => "No curl command given"
  | .system fault => "IO error: " ++ fault.message
  | error@(.settings _) => "Config error: " ++ error.subject
  | error@(.formatter _ _ _) => "Format error: " ++ error.subject
  | error@(.typeName _) => "Invalid argument: " ++ error.subject

/-- The fault with its structure, for a user who asked for details. -/
def Error.detail : Error → String
  | .notACurlCommand word => "NotACurlCommand(" ++ shown word ++ ")"
  | .emptyInput => "EmptyInput"
  | .system fault => "Io(" ++ fault.detail ++ ")"
  | error@(.settings _) => "Config(" ++ shown error.subject ++ ")"
  | error@(.formatter _ _ _) => "Format(" ++ shown error.subject ++ ")"
  | error@(.typeName _) => "Argument(" ++ shown error.subject ++ ")"

end CurlScribe
