/-
This file holds what the readers of structured text share. A reader takes a thing from the
start of a text and returns it with what follows, or refuses the text. A list of things
between commas is read by repeating the reader of one thing; the number of repetitions is
bounded by the length of the text, which each thing makes shorter.
-/

namespace CurlScribe.Text

/-- Reads a thing from the start of a text, and returns it with what follows. -/
abbrev Reader (Thing : Type) := List Char → Option (Thing × List Char)

/-- What follows the given characters at the start of a text. -/
def expect : List Char → List Char → Option (List Char)
  | [], text => some text
  | _ :: _, [] => none
  | wanted :: later, character :: rest => if wanted = character then expect later rest else none

theorem expect_eq_some_iff (wanted text rest : List Char) :
    expect wanted text = some rest ↔ text = wanted ++ rest := by
  induction wanted generalizing text with
  | nil => simp [expect]
  | cons character later inductionHypothesis =>
    cases text with
    | nil => simp [expect]
    | cons first others =>
      by_cases same : character = first
      · simp [expect, same, inductionHypothesis]
      · simp [expect, same, Ne.symm same]

theorem expect_length_le (wanted text rest : List Char) (found : expect wanted text = some rest) :
    rest.length ≤ text.length := by
  rw [expect_eq_some_iff] at found
  simp [found]

/-- How the things of a list are put between its brackets. -/
structure ListStyle where
  /-- The character behind the last thing. -/
  closing : Char
  /-- Drops what may stand between the tokens of the list. -/
  skip : List Char → List Char
  /-- Whether a comma may stand behind the last thing. -/
  trailingComma : Bool

/-- Read things between commas up to the closing character, of which there is at least one. The
count bounds the number of things. -/
def readThings {Thing : Type} (style : ListStyle) (thing : Reader Thing) :
    Nat → Reader (List Thing)
  | 0, _ => none
  | count + 1, text => do
    let (first, rest) ← thing (style.skip text)
    match style.skip rest with
    | ',' :: later =>
      if style.trailingComma ∧ (style.skip later).head? = some style.closing then
        some ([first], (style.skip later).tail)
      else
        let (others, after) ← readThings style thing count later
        some (first :: others, after)
    | character :: after => if character = style.closing then some ([first], after) else none
    | [] => none

/-- Read things between commas, or none at all, from behind the opening character up to the closing
one. -/
def readList {Thing : Type} (style : ListStyle) (thing : Reader Thing) : Reader (List Thing) :=
  fun text =>
    match style.skip text with
    | character :: rest =>
      if character = style.closing then some ([], rest)
      else readThings style thing text.length text
    | [] => none

end CurlScribe.Text
