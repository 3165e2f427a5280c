/-
This file knows two notions of empty space. A separator is one of the four characters
that part the words of a command; a blank is any of the twenty-five characters with the
white-space property, and trimming removes those. Every separator is a blank.
-/

namespace CurlScribe.Text

/-- The four characters that end a word of a command. -/
def isSeparator (character : Char) : Bool :=
  character == ' ' || character == '\t' || character == '\n' || character == '\r'

/-- The characters with the white-space property. -/
def isBlank (character : Char) : Bool :=
  let point := character.toNat
  (0x9 ≤ point && point ≤ 0xd) || point == 0x20 || point == 0x85 || point == 0xa0 ||
    point == 0x1680 || (0x2000 ≤ point && point ≤ 0x200a) || point == 0x2028 ||
    point == 0x2029 || point == 0x202f || point == 0x205f || point == 0x3000

theorem isBlank_of_isSeparator (character : Char) (separator : isSeparator character = true) :
    isBlank character = true := by
  simp only [isSeparator, Bool.or_eq_true, beq_iff_eq] at separator
  rcases separator with ((rfl | rfl) | rfl) | rfl <;> decide

/-! ### Trimming -/

/-- The characters from the first one that is not blank. -/
def trimStart (characters : List Char) : List Char :=
  characters.dropWhile isBlank

/-- The characters up to the last one that is not blank. -/
def trimEnd (characters : List Char) : List Char :=
  (characters.reverse.dropWhile isBlank).reverse

/-- The characters without the blanks at both ends. -/
def trimBoth (characters : List Char) : List Char :=
  trimEnd (trimStart characters)

/-- A text without the blanks at both ends. -/
def trim (text : String) : String :=
  String.ofList (trimBoth text.toList)

end CurlScribe.Text
