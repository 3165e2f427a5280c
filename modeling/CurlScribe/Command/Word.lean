/-
This file reads one word of a command line. A word is a chain of plain characters, quoted
parts and escaped characters that ends at a separator. Single quotes keep everything as it
stands; double quotes and plain text know the backslash; a dollar before a single quote
opens a part that is kept as it stands and drops the dollar. An escaped dollar keeps its
backslash, because a later step tells by it a literal dollar from a variable. A quote or a
backslash that the text leaves open is reported, and what was read so far still counts.
-/

import CurlScribe.Text.Blank

namespace CurlScribe

open Text

/-! ### Where a word stands -/

/-- The constructs that a text can end inside of. -/
inductive Construct where
  | singleQuote
  | doubleQuote
  | dollarQuote
  | escape
  deriving DecidableEq, Repr

/-- Where in a word the next character stands: in plain text, between a dollar and the quote that
it opens, in one of the three kinds of quotes, or behind a backslash, which is either inside double
quotes or outside all quotes. -/
inductive Quoting where
  | plain
  | opening
  | single
  | double
  | dollar
  | escaped (quoted : Bool)
  deriving DecidableEq, Repr

/-- What is left open when the text ends here. -/
def Quoting.unclosed : Quoting → Option Construct
  | .plain => none
  | .single => some .singleQuote
  | .double => some .doubleQuote
  | .opening | .dollar => some .dollarQuote
  | .escaped _ => some .escape

/-- Where a word goes on behind an escaped character. -/
def Quoting.around (quoted : Bool) : Quoting :=
  if quoted then .double else .plain

/-- A word, the text after it, and the construct that the end of the text left open. -/
structure Word where
  text : List Char
  rest : List Char
  unclosed : Option Construct
  deriving DecidableEq, Repr

/-- Put characters in front of the text of a word. -/
def Word.precede (characters : List Char) (word : Word) : Word :=
  { word with text := characters ++ word.text }

@[simp] theorem Word.text_precede (characters : List Char) (word : Word) :
    (word.precede characters).text = characters ++ word.text := rfl

@[simp] theorem Word.rest_precede (characters : List Char) (word : Word) :
    (word.precede characters).rest = word.rest := rfl

@[simp] theorem Word.unclosed_precede (characters : List Char) (word : Word) :
    (word.precede characters).unclosed = word.unclosed := rfl

/-! ### Escapes -/

/-- What a backslash before a character stands for. A line feed vanishes with the backslash; a
dollar keeps it; before a double quote, a backslash or a backquote it is dropped; before anything
else it stays inside double quotes and is dropped outside them. -/
def escapedText (quoted : Bool) (character : Char) : List Char :=
  if character = '\n' then []
  else if character = '$' then ['\x5c', '$']
  else if character = '\x22' ∨ character = '\x5c' ∨ character = '\x60' then [character]
  else if quoted then ['\x5c', character]
  else [character]

/-! ### Reading -/

/-- A dollar before the text opens a quoted part: a single quote follows that is not the mark. -/
def opensQuote (mark : Option Char) (text : List Char) : Prop :=
  text.head? = some '\x27' ∧ mark ≠ some '\x27'

instance (mark : Option Char) (text : List Char) : Decidable (opensQuote mark text) :=
  inferInstanceAs (Decidable (_ ∧ _))

/-- Read a word from the given place in it. In plain text the word ends before a separator and
right after the mark, if one is given. A carriage return between a backslash and a line feed
vanishes with both of them. -/
def readWord (mark : Option Char) : Quoting → List Char → Word
  | quoting, [] => ⟨[], [], quoting.unclosed⟩
  | .plain, character :: rest =>
    if isSeparator character then ⟨[], character :: rest, none⟩
    else if mark = some character then ⟨[], rest, none⟩
    else if character = '\x27' then readWord mark .single rest
    else if character = '\x22' then readWord mark .double rest
    else if character = '\x5c' then readWord mark (.escaped false) rest
    else if character = '$' ∧ opensQuote mark rest then readWord mark .opening rest
    else (readWord mark .plain rest).precede [character]
  | .opening, _ :: rest => readWord mark .dollar rest
  | .single, character :: rest =>
    if character = '\x27' then readWord mark .plain rest
    else (readWord mark .single rest).precede [character]
  | .dollar, character :: rest =>
    if character = '\x27' then readWord mark .plain rest
    else (readWord mark .dollar rest).precede [character]
  | .double, character :: rest =>
    if character = '\x22' then readWord mark .plain rest
    else if character = '\x5c' then readWord mark (.escaped true) rest
    else (readWord mark .double rest).precede [character]
  | .escaped quoted, character :: rest =>
    if character = '\r' ∧ rest.head? = some '\n' then readWord mark (.escaped quoted) rest
    else (readWord mark (.around quoted) rest).precede (escapedText quoted character)

/-! ### What is left after a word -/

/-- A word leaves an end of the text it was read from. -/
theorem readWord_rest_suffix (mark : Option Char) (quoting : Quoting) (text : List Char) :
    (readWord mark quoting text).rest <:+ text := by
  fun_induction readWord mark quoting text <;>
    grind [Word.rest_precede, List.suffix_cons_iff, List.suffix_refl, List.suffix_cons]

theorem readWord_rest_length_le (mark : Option Char) (quoting : Quoting) (text : List Char) :
    (readWord mark quoting text).rest.length ≤ text.length :=
  (readWord_rest_suffix mark quoting text).length_le

/-- A word that starts at a character which is no separator takes that character away. -/
theorem readWord_rest_length_lt (mark : Option Char) (character : Char) (rest : List Char)
    (inside : isSeparator character = false) :
    (readWord mark .plain (character :: rest)).rest.length < (character :: rest).length := by
  have shorter := fun quoting => readWord_rest_length_le mark quoting rest
  unfold readWord
  simp only [inside]
  grind [Word.rest_precede]

end CurlScribe
