/-
This file holds what a command line says once it is read: the words that stand alone, the
options with their values, and the construct that the text left open, if it did. The
options form a finite map from names, without dashes, to what was given for them: either
the option takes no value and was merely present, or every value it was given, in order.
Two maps say the same exactly when they agree on every name.
-/

import CurlScribe.Command.Word

namespace CurlScribe

/-! ### Options -/

/-- What was given for an option. -/
inductive FlagValue where
  | switch
  | values (texts : List String)
  deriving DecidableEq, Repr

/-- A finite map from the names of options to what was given for them. -/
structure Flags where
  entries : List (String × FlagValue) := []
  deriving DecidableEq, Repr

namespace Flags

/-- No option at all. -/
def empty : Flags := {}

/-- What the first entry of a name says. -/
def lookIn (name : String) : List (String × FlagValue) → Option FlagValue
  | [] => none
  | entry :: rest => if entry.1 = name then some entry.2 else lookIn name rest

/-- What was given for a name. -/
def get? (flags : Flags) (name : String) : Option FlagValue :=
  lookIn name flags.entries

/-- The entries with the one of a name replaced at its place, or appended if there is none. -/
def putIn (name : String) (value : FlagValue) :
    List (String × FlagValue) → List (String × FlagValue)
  | [] => [(name, value)]
  | entry :: rest =>
    if entry.1 = name then (name, value) :: rest else entry :: putIn name value rest

/-- The map with one name given anew. -/
def put (flags : Flags) (name : String) (value : FlagValue) : Flags :=
  ⟨putIn name value flags.entries⟩

/-- The map with one more value for a name; a switch takes none. -/
def addValue (flags : Flags) (name text : String) : Flags :=
  match flags.get? name with
  | none => flags.put name (.values [text])
  | some (.values texts) => flags.put name (.values (texts ++ [text]))
  | some .switch => flags

@[simp] theorem get?_empty (name : String) : empty.get? name = none := rfl

theorem lookIn_putIn (entries : List (String × FlagValue)) (name other : String)
    (value : FlagValue) :
    lookIn other (putIn name value entries) =
      if other = name then some value else lookIn other entries := by
  induction entries with
  | nil => simp [putIn, lookIn, eq_comm]
  | cons entry rest inductionHypothesis =>
    by_cases here : entry.1 = name
    · by_cases same : other = name
      · simp [putIn, lookIn, here, same]
      · simp [putIn, lookIn, here, same, Ne.symm same]
    · by_cases same : other = name
      · subst same
        simp [putIn, lookIn, here, inductionHypothesis]
      · simp [putIn, lookIn, here, same, inductionHypothesis]

/-- Putting a value changes the map at its name and nowhere else. -/
@[simp] theorem get?_put (flags : Flags) (name other : String) (value : FlagValue) :
    (flags.put name value).get? other = if other = name then some value else flags.get? other :=
  lookIn_putIn flags.entries name other value

end Flags

/-! ### Commands -/

/-- The construct that the end of a command left open, and where its word starts, counted in
characters from the start of the command. -/
structure Unclosed where
  construct : Construct
  offset : Nat
  deriving DecidableEq, Repr

/-- A command line once it is read. -/
structure Command where
  positionals : List String := []
  flags : Flags := {}
  unclosed : Option Unclosed := none
  deriving DecidableEq, Repr

namespace Command

/-- The values of an option; a switch and an absent option have none. -/
def values (command : Command) (name : String) : List String :=
  match command.flags.get? name with
  | some (.values texts) => texts
  | _ => []

/-- The option is there, as a switch or with a value. -/
def isSet (command : Command) (name : String) : Bool :=
  match command.flags.get? name with
  | some .switch => true
  | some (.values texts) => !texts.isEmpty
  | none => false

/-- The first value of an option. -/
def first? (command : Command) (name : String) : Option String :=
  (command.values name).head?

/-- The last value of an option. -/
def last? (command : Command) (name : String) : Option String :=
  (command.values name).getLast?

/-- The command has neither a word nor an option. -/
def isEmpty (command : Command) : Bool :=
  command.positionals.isEmpty && command.flags.entries.isEmpty

end Command

/-! ### Parts -/

/-- What one stretch of a command line says: a word that stands alone, an option without a value,
or an option and one value. -/
inductive Part where
  | word (text : String)
  | switch (name : String)
  | value (name text : String)
  deriving DecidableEq, Repr

/-- The word of a part that stands alone. -/
def Part.word? : Part → Option String
  | .word text => some text
  | _ => none

/-- The options with one more part: a switch is set, a value comes after the earlier ones. -/
def Flags.record (flags : Flags) : Part → Flags
  | .word _ => flags
  | .switch name => flags.put name .switch
  | .value name text => flags.addValue name text

/-- The command that consists of the given parts. -/
def Command.ofParts (parts : List Part) (unclosed : Option Unclosed) : Command where
  positionals := parts.filterMap Part.word?
  flags := parts.foldl Flags.record {}
  unclosed := unclosed

@[simp] theorem Command.positionals_ofParts (parts : List Part) (unclosed : Option Unclosed) :
    (Command.ofParts parts unclosed).positionals = parts.filterMap Part.word? := rfl

@[simp] theorem Command.unclosed_ofParts (parts : List Part) (unclosed : Option Unclosed) :
    (Command.ofParts parts unclosed).unclosed = unclosed := rfl

end CurlScribe
