/-
This file writes the names of HTTP headers in their customary form: each run of ASCII
letters, digits and underscores starts with a capital and goes on in small letters, and
everything between the runs stays as it is. Two names have the same customary form
exactly when they differ at most in the case of ASCII letters.
-/

namespace CurlScribe.Text

/-- The characters that make up the words of a header name. -/
def isNameCharacter (character : Char) : Bool :=
  character.isAlphanum || character == '_'

/-- The customary form of the rest of a name, behind a word character or at the start of a word. -/
def titleFrom (inWord : Bool) : List Char → List Char
  | [] => []
  | character :: rest =>
    if isNameCharacter character then
      (if inWord then character.toLower else character.toUpper) :: titleFrom true rest
    else character :: titleFrom false rest

/-- The customary form of a header name. -/
def titleCase (name : String) : String :=
  String.ofList (titleFrom false name.toList)

/-- A name with its ASCII letters small: what header names are compared by. -/
def lowered (name : String) : String :=
  String.ofList (name.toList.map Char.toLower)

theorem length_titleFrom (inWord : Bool) (name : List Char) :
    (titleFrom inWord name).length = name.length := by
  induction name generalizing inWord with
  | nil => rfl
  | cons character rest inductionHypothesis =>
    by_cases word : isNameCharacter character = true <;>
      simp [titleFrom, word, inductionHypothesis]

end CurlScribe.Text
