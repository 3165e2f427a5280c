/-
This file writes Go string literals. A string that may refer to environment variables is
quoted with as few escapes as possible and judged by its first dollar. The text of a
request body becomes a literal of one of two kinds: a raw string where a raw string can
hold it, or an interpreted string that either keeps the escapes of the text, where Go
accepts them, or escapes every backslash.
-/

import CurlScribe.Request.Basic
import CurlScribe.Text.Digits
import CurlScribe.Text.Split

namespace CurlScribe.Go

open Text

/-! ### Quoted strings -/

/-- A character between the quotes of a string: quotes and backslashes follow a backslash. -/
def quotedCharacter (character : Char) : List Char :=
  if character = '\x5c' ∨ character = '\x22' then ['\x5c', character] else [character]

/-- The text between the quotes of a string. -/
def escapeQuotes (characters : List Char) : List Char :=
  characters.flatMap quotedCharacter

/-- Characters between double quotes. -/
def enclose (characters : List Char) : String :=
  String.ofList ('\x22' :: characters ++ ['\x22'])

/-- A string between double quotes. -/
def quote (text : String) : String :=
  enclose (escapeQuotes text.toList)

/-! ### References to the environment -/

/-- How a string refers to environment variables, judged by its first dollar: not at all, with a
backslash before the dollar, given by its offset in bytes, or with a dollar that counts. -/
inductive EnvReference where
  | absent
  | escaped (offset : Nat)
  | live
  deriving DecidableEq, Repr

/-- The number of bytes that characters take. -/
def byteLength (characters : List Char) : Nat :=
  characters.foldr (fun character later => character.utf8Size + later) 0

/-- Judge a string by its first dollar. -/
def envReference (text : String) : EnvReference :=
  match splitFirst '$' text.toList with
  | none => .absent
  | some (before, _) =>
    if before.getLast? = some '\x5c' then .escaped (byteLength before.dropLast) else .live

/-- The string without the backslash before its first dollar, if there is one. -/
def withoutEscape (text : String) : String :=
  match splitFirst '$' text.toList with
  | none => text
  | some (before, after) =>
    if before.getLast? = some '\x5c' then String.ofList (before.dropLast ++ '$' :: after)
    else text

/-! ### Escapes of interpreted strings -/

/-- What an escape spells: a byte, or a character that is no surrogate. -/
inductive EscapeRange where
  | byte
  | character

/-- Whether an escape may spell the number. -/
def EscapeRange.holds : EscapeRange → Nat → Bool
  | .byte, value => value ≤ 0xff
  | .character, value => value.isValidChar

/-- Read digits that spell a number in the given range, and return what follows them. -/
def readNumber (range : EscapeRange) (base count value : Nat) (text : List Char) :
    Option (List Char) :=
  (readDigits base count value text).bind fun result =>
    if range.holds result.1 then some result.2 else none

/-- Read what may follow a backslash in an interpreted string, and return what follows that. -/
def readEscape : List Char → Option (List Char)
  | [] => none
  | character :: rest =>
    if character ∈ ['a', 'b', 'f', 'n', 'r', 't', 'v', '\x5c', '\x22'] then some rest
    else if character = 'x' then readNumber .byte 16 2 0 rest
    else if character = 'u' then readNumber .character 16 4 0 rest
    else if character = 'U' then readNumber .character 16 8 0 rest
    else (digitValue 8 character).bind fun digit => readNumber .byte 8 2 digit rest

theorem readNumber_length_le (range : EscapeRange) (base count value : Nat)
    (text rest : List Char) (read : readNumber range base count value text = some rest) :
    rest.length ≤ text.length := by
  simp only [readNumber, Option.bind_eq_some_iff] at read
  obtain ⟨result, digits, accepted⟩ := read
  have shorter := readDigits_length_le base count value text result digits
  split at accepted
  · cases accepted
    exact shorter
  · exact nomatch accepted

theorem readEscape_length_lt (text rest : List Char) (read : readEscape text = some rest) :
    rest.length < text.length := by
  cases text with
  | nil => simp [readEscape] at read
  | cons character tail =>
    have shorter : rest.length ≤ tail.length := by
      simp only [readEscape] at read
      split at read
      · cases read
        exact Nat.le_refl _
      · split at read
        · exact readNumber_length_le _ _ _ _ _ _ read
        · split at read
          · exact readNumber_length_le _ _ _ _ _ _ read
          · split at read
            · exact readNumber_length_le _ _ _ _ _ _ read
            · simp only [Option.bind_eq_some_iff] at read
              obtain ⟨digit, _, read⟩ := read
              exact readNumber_length_le _ _ _ _ _ _ read
    simp only [List.length_cons]
    omega

/-- Whether characters can stand between the quotes of an interpreted string: no quote and no line
feed stands alone, and every backslash starts an escape. -/
def isInterpreted (text : List Char) : Bool :=
  match text with
  | [] => true
  | character :: rest =>
    if character = '\x5c' then
      match escape : readEscape rest with
      | none => false
      | some later =>
        have : later.length < rest.length := readEscape_length_lt rest later escape
        isInterpreted later
    else character != '\x22' && character != '\n' && isInterpreted rest
termination_by text.length

/-! ### Literals for the text of a body -/

/-- A character of a body between the quotes of an interpreted string that keeps escapes. -/
def rawCharacter (character : Char) : List Char :=
  if character = '\x22' then ['\x5c', '\x22']
  else if character = '\n' then ['\x5c', 'n']
  else if character = '\r' then ['\x5c', 'r']
  else [character]

/-- A character of a body between the quotes of an interpreted string that escapes everything. -/
def safeCharacter (character : Char) : List Char :=
  if character = '\x5c' then ['\x5c', '\x5c'] else rawCharacter character

/-- The interpreted string whose value is the text. -/
def safeLiteral (text : String) : String :=
  enclose (text.toList.flatMap safeCharacter)

/-- The literal for the text of a body. With the raw encoding the escapes in the text reach Go as
they are, unless Go would refuse them; else the text stands in a raw string, unless it holds a
backquote or a carriage return, which a raw string cannot carry. -/
def bodyLiteral (encoding : BodyEncoding) (text : String) : String :=
  match encoding with
  | .raw =>
    let escaped := text.toList.flatMap rawCharacter
    if isInterpreted escaped then enclose escaped else safeLiteral text
  | .templated =>
    if text.toList.any fun character => character = '\x60' ∨ character = '\r' then
      safeLiteral text
    else "\x60" ++ text ++ "\x60"

end CurlScribe.Go
