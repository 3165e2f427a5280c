/-
This file reads JSON documents, strictly: nothing but white space may surround a document,
no comma may trail, no control character may stand in a string, and escaped surrogates
have to come in pairs. Arrays and objects may be nested 127 deep, and a number may not be
too large for a double. A name that is repeated in an object keeps its first place and
takes its last value.
-/

import CurlScribe.Json.Value
import CurlScribe.Text.Digits
import CurlScribe.Text.Reader

namespace CurlScribe.Json

open Text

/-! ### White space -/

/-- The four characters that may stand between the tokens of a document. -/
def isSpace (character : Char) : Bool :=
  character == ' ' || character == '\n' || character == '\t' || character == '\r'

/-- The text behind the white space at its start. -/
def skipSpace (text : List Char) : List Char :=
  text.dropWhile isSpace

/-! ### Strings -/

/-- The character that a backslash and one more character stand for. -/
def shortEscape (character : Char) : Option Char :=
  match character with
  | '\x22' | '\x5c' | '/' => some character
  | 'b' => some '\x08'
  | 'f' => some '\x0c'
  | 'n' => some '\n'
  | 'r' => some '\r'
  | 't' => some '\t'
  | _ => none

/-- Read the second half of a surrogate pair, with its backslash, and return the character. -/
def readLowSurrogate (high : Nat) (text : List Char) : Option (Char × List Char) := do
  let digits ← expect ['\x5c', 'u'] text
  let (low, rest) ← readDigits 16 4 0 digits
  if 0xdc00 ≤ low ∧ low ≤ 0xdfff then
    some (Char.ofNat (0x10000 + (high - 0xd800) * 0x400 + (low - 0xdc00)), rest)
  else none

/-- Read what follows a backslash in a string. -/
def readEscape : Reader Char
  | 'u' :: digits =>
    (readDigits 16 4 0 digits).bind fun (unit, rest) =>
      if 0xd800 ≤ unit ∧ unit ≤ 0xdbff then readLowSurrogate unit rest
      else if unit.isValidChar then some (Char.ofNat unit, rest)
      else none
  | character :: rest => (shortEscape character).map fun meaning => (meaning, rest)
  | [] => none

theorem readLowSurrogate_length_le (high : Nat) (text : List Char) (result : Char × List Char)
    (read : readLowSurrogate high text = some result) : result.2.length ≤ text.length := by
  simp only [readLowSurrogate, Option.bind_eq_bind, Option.bind_eq_some_iff] at read
  obtain ⟨digits, found, ⟨low, rest⟩, number, accepted⟩ := read
  have first := expect_length_le _ _ _ found
  have second := readDigits_length_le _ _ _ _ _ number
  dsimp only at accepted second
  split at accepted
  · rw [← Option.some.inj accepted]
    exact Nat.le_trans second first
  · exact nomatch accepted

theorem readEscape_length_lt (text : List Char) (result : Char × List Char)
    (read : readEscape text = some result) : result.2.length < text.length := by
  unfold readEscape at read
  split at read
  · rename_i digits
    simp only [Option.bind_eq_some_iff] at read
    obtain ⟨⟨unit, rest⟩, number, accepted⟩ := read
    have first := readDigits_length_le _ _ _ _ _ number
    dsimp only at accepted first
    simp only [List.length_cons]
    split at accepted
    · have second := readLowSurrogate_length_le unit rest result accepted
      omega
    · split at accepted
      · cases accepted
        exact Nat.lt_succ_of_le first
      · exact nomatch accepted
  · simp only [Option.map_eq_some_iff] at read
    obtain ⟨meaning, _, rfl⟩ := read
    exact Nat.lt_succ_self _
  · simp at read

/-- Read a string from behind its opening quote. -/
def readString (text : List Char) : Option (List Char × List Char) :=
  match text with
  | [] => none
  | character :: rest =>
    if character = '\x22' then some ([], rest)
    else if character = '\x5c' then
      match escape : readEscape rest with
      | none => none
      | some (meaning, later) =>
        have : later.length < rest.length := readEscape_length_lt rest (meaning, later) escape
        (readString later).map fun (content, after) => (meaning :: content, after)
    else if character.toNat < 0x20 then none
    else (readString rest).map fun (content, after) => (character :: content, after)
termination_by text.length

/-! ### Numbers -/

/-- The nearest number with a significand of 53 bits; a number halfway between two goes to the one
whose significand is even. -/
def roundToDouble (value : Nat) : Nat :=
  let shift := value.log2 - 52
  let unit := Nat.pow 2 shift
  let below := value / unit
  let rest := value % unit
  let goesUp := 2 * rest > unit ∨ (2 * rest = unit ∧ below % 2 = 1)
  (if goesUp then below + 1 else below) * unit

/-- A product of two doubles rounds to infinity from here on. -/
def overflowBound : Nat := Nat.pow 2 1024 - Nat.pow 2 970

/-- The decimal is too large for a double: its rounded significand times its rounded power of ten
would be infinite. -/
def isTooLarge (significand : Nat) (exponent : Int) : Bool :=
  match exponent with
  | .ofNat power =>
    if power ≤ 308 then
      overflowBound ≤ roundToDouble significand * roundToDouble (Nat.pow 10 power)
    else significand != 0
  | .negSucc _ => false

/-- The digits at the start of a text, and what follows them. -/
def takeDigits (text : List Char) : List Char × List Char :=
  text.span Char.isDigit

/-- Take up digits into a significand of 64 bits, as long as it has room: the significand, and the
number of digits that found no room. -/
def takeUp : Nat → List Char → Nat × Nat
  | significand, [] => (significand, 0)
  | significand, digit :: rest =>
    let next := significand * 10 + (digitValue 10 digit).getD 0
    if next < Nat.pow 2 64 then takeUp next rest else (significand, rest.length + 1)

/-- The largest exponent that can be written; a larger one is none of a number but zero. -/
def greatestExponent : Nat := 0x7fffffff

/-- A decimal that may be too large. -/
def decimalOf (negative : Bool) (significand : Nat) (exponent : Int) : Option Number :=
  if isTooLarge significand exponent then none
  else some (.decimal (if negative then -(significand : Int) else significand) exponent)

/-- Read the exponent of a number from behind its letter: an optional sign and digits. -/
def readExponent (text : List Char) : Option (Int × List Char) :=
  let (negative, digits) :=
    match text with
    | '-' :: rest => (true, rest)
    | '+' :: rest => (false, rest)
    | _ => (false, text)
  let (spelled, rest) := takeDigits digits
  if spelled.isEmpty then none
  else
    let value := digitsValue 10 spelled
    some (if negative then -(value : Int) else value, rest)

/-- Add a written exponent to the one that the place of the point gives. An exponent beyond the
greatest one makes every number zero if it is negative; if it is positive, every number but zero is
too large. -/
def withExponent (negative : Bool) (significand : Nat) (exponent written : Int) : Option Number :=
  if written.natAbs ≤ greatestExponent then decimalOf negative significand (exponent + written)
  else if significand = 0 ∨ written < 0 then some (.decimal 0 0)
  else none

/-- The number of an integer part and what follows it, an optional fraction and an optional
exponent. Digits beyond the room of the significand count by their place alone. -/
def readFraction (negative : Bool) (integer : List Char) (text : List Char) :
    Option (Number × List Char) :=
  let (whole, extra) := takeUp 0 integer
  match text with
  | '.' :: rest =>
    let (fraction, later) := takeDigits rest
    let (significand, dropped) := takeUp whole fraction
    let exponent : Int := extra - (fraction.length - dropped)
    if fraction.isEmpty then none
    else
      match later with
      | 'e' :: tail | 'E' :: tail => do
        let (written, after) ← readExponent tail
        let number ← withExponent negative significand exponent written
        some (number, after)
      | _ => (decimalOf negative significand exponent).map fun number => (number, later)
  | 'e' :: rest | 'E' :: rest => do
    let (written, after) ← readExponent rest
    let number ← withExponent negative whole extra written
    some (number, after)
  | _ =>
    let value : Int := if negative then -(whole : Int) else whole
    if extra = 0 ∧ -0x8000000000000000 ≤ value ∧ ¬(negative ∧ whole = 0) then
      some (.integer value, text)
    else (decimalOf negative whole extra).map fun number => (number, text)

/-- Read a number from behind its sign. The integer part is a zero alone, or digits that do not
start with one. -/
def readNumber (negative : Bool) (text : List Char) : Option (Number × List Char) :=
  let (integer, rest) := takeDigits text
  match integer with
  | [] => none
  | '0' :: _ :: _ => none
  | _ => readFraction negative integer rest

/-! ### Arrays and objects -/

/-- A list of a document ends with the given character, and no comma stands before that. -/
def listUpTo (closing : Char) : ListStyle :=
  ⟨closing, skipSpace, false⟩

/-- Read a name, a colon and a value. -/
def readMember (value : Reader Value) : Reader (String × Value) :=
  fun text => do
    let opened ← expect ['\x22'] text
    let (name, rest) ← readString opened
    let content ← expect [':'] (skipSpace rest)
    let (meaning, after) ← value (skipSpace content)
    some ((String.ofList name, meaning), after)

/-- Read a value in which arrays and objects may be nested `depth` deep. -/
def readValue : (depth : Nat) → Reader Value
  | _, 'n' :: rest => (expect "ull".toList rest).map fun after => (.null, after)
  | _, 't' :: rest => (expect "rue".toList rest).map fun after => (.boolean true, after)
  | _, 'f' :: rest => (expect "alse".toList rest).map fun after => (.boolean false, after)
  | _, '\x22' :: rest =>
    (readString rest).map fun (content, after) => (.string (String.ofList content), after)
  | _, '-' :: rest => (readNumber true rest).map fun (number, after) => (.number number, after)
  | depth + 1, '[' :: rest =>
    (readList (listUpTo ']') (readValue depth) rest).map fun (items, after) => (.array items, after)
  | depth + 1, '\x7b' :: rest =>
    (readList (listUpTo '\x7d') (readMember (readValue depth)) rest).map
      fun (members, after) => (.object (membersOf members), after)
  | _, text => (readNumber false text).map fun (number, after) => (.number number, after)

/-! ### Documents -/

/-- How deep arrays and objects may be nested. -/
def depthLimit : Nat := 127

/-- The document that a text holds, if it holds one. -/
def read (text : String) : Option Value :=
  match readValue depthLimit (skipSpace text.toList) with
  | some (value, rest) => if (skipSpace rest).isEmpty then some value else none
  | none => none

end CurlScribe.Json
