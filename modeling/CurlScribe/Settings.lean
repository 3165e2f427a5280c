/-
This file holds the settings that a user keeps in a file: the table `output` of a TOML
document. A setting that is missing or of the wrong kind takes its default; a name for
generated types that cannot be used rejects the whole file. A file that is not there
means the default settings.
-/

import CurlScribe.Error
import CurlScribe.Formatter
import CurlScribe.Go.Generator
import CurlScribe.Toml.Reading

namespace CurlScribe

open Go

/-! ### Settings -/

/-- What a user can set. -/
structure Settings where
  banner : Bool := true
  standalone : Bool := false
  typeName : String := defaultTypeName
  /-- Whether code is passed through the formatter without being asked for. -/
  formats : Bool := false
  formatter : String := defaultFormatter
  deriving DecidableEq, Repr

/-- The settings that shape generated code. -/
def Settings.renderOptions (settings : Settings) : RenderOptions where
  typeName := settings.typeName
  banner := settings.banner
  standalone := settings.standalone

/-! ### Reading -/

/-- The value of a key in the table `output` of a document. -/
def outputValue? (document : Toml.Value) (key : String) : Option Toml.Value :=
  (document.get? "output").bind (·.get? key)

/-- The truth value of a key, or the default. -/
def outputBoolean (document : Toml.Value) (key : String) (default : Bool) : Bool :=
  ((outputValue? document key).bind (·.asBoolean?)).getD default

/-- The text of a key, or the default. -/
def outputString (document : Toml.Value) (key default : String) : String :=
  ((outputValue? document key).bind (·.asString?)).getD default

/-- The settings of a document, whether or not the name for types can be used. -/
def Settings.ofDocument (document : Toml.Value) : Settings where
  banner := outputBoolean document "banner" true
  standalone := outputBoolean document "standalone" false
  typeName := outputString document "type_name" defaultTypeName
  formats := outputBoolean document "gofmt" false
  formatter := outputString document "gofmt_program" defaultFormatter

/-- The settings that a text holds. -/
def Settings.read (text : String) : Except SettingsFault Settings :=
  match Toml.read text with
  | none => .error .notToml
  | some document =>
    let settings := Settings.ofDocument document
    if isTypeName settings.typeName then .ok settings else .error (.typeName settings.typeName)

/-! ### Files -/

/-- What is found where a file is looked for. -/
inductive FileState where
  | missing
  | unreadable (fault : SystemFault)
  | content (text : String)
  deriving DecidableEq, Repr

/-- The settings in a file; without a file they are the default ones. -/
def Settings.ofFile : FileState → Except SettingsFault Settings
  | .missing => .ok {}
  | .unreadable fault => .error (.unreadable fault)
  | .content text => Settings.read text

/-- Settings together with the directory that they were looked for in. -/
structure LocatedSettings where
  directory : String
  settings : Settings

/-- Load the settings of a directory, given what is found where its file of settings should be. -/
def LocatedSettings.load (directory : String) (file : FileState) :
    Except SettingsFault LocatedSettings :=
  (Settings.ofFile file).map fun settings => ⟨directory, settings⟩

end CurlScribe
