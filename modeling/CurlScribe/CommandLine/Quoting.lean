/-
This file turns the words of a command back into one line. A shell took the quotes off
separate words, so they are put on again where a word needs them: around it, and with
each single quote inside written as the end of a quoted part, an escaped quote, and the
start of the next part. A single word is a whole line already and stays as it is.
-/

import CurlScribe.CommandLine.Arguments

namespace CurlScribe

/-- The character needs no quotes in a word. -/
def isPlainCharacter (character : Char) : Bool :=
  character.isAlphanum || "-_./:=@,+%".toList.contains character

/-- A character inside single quotes. -/
def quotedInSingle (character : Char) : List Char :=
  if character = '\x27' then ['\x27', '\x5c', '\x27', '\x27'] else [character]

/-- A word as a shell takes it. -/
def shellWord (word : String) : String :=
  if !word.isEmpty && word.toList.all isPlainCharacter then word
  else String.ofList ('\x27' :: word.toList.flatMap quotedInSingle ++ ['\x27'])

/-- The line that a list of words makes up. -/
def commandLine : List String → String
  | [line] => line
  | words => " ".intercalate (words.map shellWord)

/-- The command has to be read from the input: there is none, or a dash stands for it. -/
def readsInput (words : List String) : Bool :=
  words.isEmpty || words == ["-"]

end CurlScribe
