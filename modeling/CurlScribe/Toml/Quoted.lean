/-
This file reads the quoted strings of a TOML document. Strings in double quotes know
escapes, strings in single quotes do not; with three quotes at each end a string may go
over several lines, of which a first empty one does not count. A backslash at the end of
a line in double quotes drops the white space up to the next visible character. Control
characters other than the tab have to be escaped; a carriage return may stand before a
line feed, and both of them then belong to the string.
-/

import CurlScribe.Text.Digits
import CurlScribe.Text.Reader

namespace CurlScribe.Toml

open Text

/-! ### Characters -/

/-- Tabs and spaces. -/
def isSpace (character : Char) : Bool :=
  character == ' ' || character == '\t'

/-- The character may stand in a string or a comment as it is, also behind a line feed. -/
def isAllowed (character : Char) : Bool :=
  character == '\t' || (0x20 ≤ character.toNat && character.toNat != 0x7f)

/-- What follows the end of a line at the start of a text. -/
def skipLineEnd : List Char → Option (List Char)
  | '\n' :: rest => some rest
  | '\r' :: '\n' :: rest => some rest
  | _ => none

theorem skipLineEnd_length_lt (text rest : List Char) (ended : skipLineEnd text = some rest) :
    rest.length < text.length := by
  unfold skipLineEnd at ended
  split at ended
  · cases ended
    exact Nat.lt_succ_self _
  · cases ended
    exact Nat.lt_succ_of_lt (Nat.lt_succ_self _)
  · exact nomatch ended

/-- The text behind a line end at its start, if there is one. -/
def dropLineEnd (text : List Char) : List Char :=
  (skipLineEnd text).getD text

/-- The text behind the white space and the line ends at its start. -/
def skipBlankLines : List Char → List Char
  | '\r' :: '\n' :: rest => skipBlankLines rest
  | character :: rest =>
    if isSpace character || character == '\n' then skipBlankLines rest else character :: rest
  | [] => []

theorem skipBlankLines_length_le (text : List Char) :
    (skipBlankLines text).length ≤ text.length := by
  fun_induction skipBlankLines text with
  | case1 rest inductionHypothesis =>
    exact Nat.le_succ_of_le (Nat.le_succ_of_le inductionHypothesis)
  | case2 character rest _ blank inductionHypothesis => exact Nat.le_succ_of_le inductionHypothesis
  | case3 => exact Nat.le_refl _
  | case4 => exact Nat.le_refl _

/-! ### Escapes -/

/-- The character that a backslash and one more character stand for. -/
def shortEscape (character : Char) : Option Char :=
  match character with
  | '\x22' | '\x5c' => some character
  | 'b' => some '\x08'
  | 'e' => some '\x1b'
  | 'f' => some '\x0c'
  | 'n' => some '\n'
  | 'r' => some '\r'
  | 't' => some '\t'
  | _ => none

/-- Read the code point of a character in exactly `count` hexadecimal digits. -/
def readCodePoint (count : Nat) (text : List Char) : Option (Char × List Char) :=
  (readDigits 16 count 0 text).bind fun (point, rest) =>
    if point.isValidChar then some (Char.ofNat point, rest) else none

/-- Read what follows a backslash. -/
def readEscape : Reader Char
  | 'x' :: rest => readCodePoint 2 rest
  | 'u' :: rest => readCodePoint 4 rest
  | 'U' :: rest => readCodePoint 8 rest
  | character :: rest => (shortEscape character).map fun meaning => (meaning, rest)
  | [] => none

theorem readCodePoint_length_le (count : Nat) (text : List Char) (result : Char × List Char)
    (read : readCodePoint count text = some result) : result.2.length ≤ text.length := by
  simp only [readCodePoint, Option.bind_eq_some_iff] at read
  obtain ⟨⟨point, rest⟩, digits, accepted⟩ := read
  have shorter := readDigits_length_le _ _ _ _ _ digits
  dsimp only at accepted
  split at accepted
  · cases accepted
    exact shorter
  · exact nomatch accepted

theorem readEscape_length_lt (text : List Char) (result : Char × List Char)
    (read : readEscape text = some result) : result.2.length < text.length := by
  unfold readEscape at read
  split at read
  · exact Nat.lt_succ_of_le (readCodePoint_length_le _ _ _ read)
  · exact Nat.lt_succ_of_le (readCodePoint_length_le _ _ _ read)
  · exact Nat.lt_succ_of_le (readCodePoint_length_le _ _ _ read)
  · simp only [Option.map_eq_some_iff] at read
    obtain ⟨meaning, _, rfl⟩ := read
    exact Nat.lt_succ_self _
  · simp at read

/-! ### One line -/

/-- Read a string in single quotes from behind the opening one. -/
def readLiteral : List Char → Option (List Char × List Char)
  | [] => none
  | character :: rest =>
    if character = '\x27' then some ([], rest)
    else if isAllowed character then
      (readLiteral rest).map fun (content, after) => (character :: content, after)
    else none

/-- Read a string in double quotes from behind the opening one. -/
def readBasic (text : List Char) : Option (List Char × List Char) :=
  match text with
  | [] => none
  | character :: rest =>
    if character = '\x22' then some ([], rest)
    else if character = '\x5c' then
      match escape : readEscape rest with
      | none => none
      | some (meaning, later) =>
        have : later.length < rest.length := readEscape_length_lt rest (meaning, later) escape
        (readBasic later).map fun (content, after) => (meaning :: content, after)
    else if isAllowed character then
      (readBasic rest).map fun (content, after) => (character :: content, after)
    else none
termination_by text.length

/-! ### Several lines -/

/-- The number of quotes at the start of a text. -/
def countQuotes (quote : Char) (text : List Char) : Nat :=
  (text.takeWhile (· == quote)).length

/-- End a string over several lines at a run of `count` quotes. Three quotes end it, and up to two
more may stand before them, which still belong to the string. -/
def closeQuotes (quote : Char) (count : Nat) (text : List Char) :
    Option (List Char × List Char) :=
  if count ≤ 5 then some (List.replicate (count - 3) quote, text.drop count) else none

/-- The character may stand as it is in a string over several lines, given what follows it. Line
ends are kept the way they are written. -/
def mayStand (character : Char) (rest : List Char) : Bool :=
  isAllowed character || character == '\n' || (character == '\r' && rest.head? == some '\n')

/-- Read a string over several lines in single quotes. -/
def readLongLiteral : List Char → Option (List Char × List Char)
  | [] => none
  | character :: rest =>
    let count := countQuotes '\x27' (character :: rest)
    if 3 ≤ count then closeQuotes '\x27' count (character :: rest)
    else if mayStand character rest then
      (readLongLiteral rest).map fun (content, after) => (character :: content, after)
    else none

/-- What follows a backslash that ends a line, up to the next visible character. -/
def skipLineJoin (text : List Char) : Option (List Char) :=
  (skipLineEnd (text.dropWhile isSpace)).map skipBlankLines

theorem skipLineJoin_length_le (text rest : List Char) (skipped : skipLineJoin text = some rest) :
    rest.length ≤ text.length := by
  simp only [skipLineJoin, Option.map_eq_some_iff] at skipped
  obtain ⟨later, ended, rfl⟩ := skipped
  have first := skipBlankLines_length_le later
  have second := (List.dropWhile_suffix isSpace (l := text)).length_le
  have third := skipLineEnd_length_lt _ _ ended
  omega

/-- Read a string over several lines in double quotes. -/
def readLongBasic (text : List Char) : Option (List Char × List Char) :=
  match text with
  | [] => none
  | character :: rest =>
    let count := countQuotes '\x22' (character :: rest)
    if 3 ≤ count then closeQuotes '\x22' count (character :: rest)
    else if character = '\x5c' then
      match join : skipLineJoin rest with
      | some later =>
        have : later.length ≤ rest.length := skipLineJoin_length_le rest later join
        readLongBasic later
      | none =>
        match escape : readEscape rest with
        | none => none
        | some (meaning, later) =>
          have : later.length < rest.length :=
            readEscape_length_lt rest (meaning, later) escape
          (readLongBasic later).map fun (content, after) => (meaning :: content, after)
    else if mayStand character rest then
      (readLongBasic rest).map fun (content, after) => (character :: content, after)
    else none
termination_by text.length

/-! ### All strings -/

/-- Read a string on one line. -/
def readShortString : Reader String
  | '\x22' :: rest => (readBasic rest).map fun (content, after) => (String.ofList content, after)
  | '\x27' :: rest => (readLiteral rest).map fun (content, after) => (String.ofList content, after)
  | _ => none

/-- Read a string, on one line or over several. -/
def readQuoted : Reader String
  | '\x22' :: '\x22' :: '\x22' :: rest =>
    (readLongBasic (dropLineEnd rest)).map fun (content, after) => (String.ofList content, after)
  | '\x27' :: '\x27' :: '\x27' :: rest =>
    (readLongLiteral (dropLineEnd rest)).map fun (content, after) =>
      (String.ofList content, after)
  | text => readShortString text

end CurlScribe.Toml
