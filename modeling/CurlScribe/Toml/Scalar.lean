/-
This file recognises the values that stand without quotes in a TOML document: truth
values, integers in four bases, floats, and points in time. Digits may be parted by
single underscores, and a decimal number does not start with a zero that could be left
out; how large a number is does not matter here. A point in time is a date, a time, or
both, then possibly with an offset; its parts are within the bounds of the calendar, and
seconds may be left out.
-/

import CurlScribe.Text.Digits
import CurlScribe.Text.Reader
import CurlScribe.Text.Split
import CurlScribe.Toml.Value

namespace CurlScribe.Toml

open Text

/-! ### Digits -/

/-- All characters are digits of the base. -/
def areDigits (base : Nat) (characters : List Char) : Bool :=
  characters.all fun character => (digitValue base character).isSome

/-- The digits of a numeral in which single underscores may stand between digits. -/
def digitsOf (base : Nat) (numeral : List Char) : Option (List Char) :=
  let groups := segments '_' numeral
  if groups.all fun group => !group.isEmpty && areDigits base group then some groups.flatten
  else none

/-- The digits of a decimal numeral, which starts with a zero only if that is all. -/
def decimalDigits (numeral : List Char) : Option (List Char) :=
  (digitsOf 10 numeral).filter fun digits => digits.head? != some '0' || digits.length == 1

/-- A sign at the start of a numeral, if there is one, and what follows it. -/
def splitSign : List Char → Bool × List Char
  | '-' :: rest => (true, rest)
  | '+' :: rest => (false, rest)
  | text => (false, text)

/-! ### Integers -/

/-- The integer that is written in the given base behind its mark. -/
def basedInteger (base : Nat) (numeral : List Char) : Option Int :=
  (digitsOf base numeral).map fun digits => (digitsValue base digits : Int)

/-- The integer that a scalar spells. Only decimal integers have a sign. -/
def readInteger (scalar : List Char) : Option Int :=
  match scalar with
  | '0' :: 'x' :: numeral => basedInteger 16 numeral
  | '0' :: 'o' :: numeral => basedInteger 8 numeral
  | '0' :: 'b' :: numeral => basedInteger 2 numeral
  | _ =>
    let (negative, numeral) := splitSign scalar
    (decimalDigits numeral).map fun digits =>
      let magnitude : Int := digitsValue 10 digits
      if negative then -magnitude else magnitude

/-! ### Floats -/

/-- The exponent of a float, behind its letter. -/
def readExponent (written : List Char) : Option Int :=
  let (negative, numeral) := splitSign written
  (digitsOf 10 numeral).map fun digits =>
    if negative then -(digitsValue 10 digits : Int) else digitsValue 10 digits

/-- The digits of a float without a sign, and the power of ten that they are multiplied by. It has a
fraction, an exponent, or both behind its first digits. -/
def readDigitFloat (numeral : List Char) : Option (List Char × Int) :=
  let (mantissa, exponent) :=
    match numeral.span fun character => character != 'e' && character != 'E' with
    | (before, _ :: after) => (before, some (readExponent after))
    | (before, []) => (before, none)
  let parts :=
    match splitFirst '.' mantissa with
    | some (whole, fraction) => (decimalDigits whole, some (digitsOf 10 fraction))
    | none => (decimalDigits mantissa, none)
  match parts, exponent with
  | (some whole, some (some fraction)), some (some power) =>
    some (whole ++ fraction, power - fraction.length)
  | (some whole, some (some fraction)), none =>
    some (whole ++ fraction, -(fraction.length : Int))
  | (some whole, none), some (some power) => some (whole, power)
  | _, _ => none

/-- The characters name a float that no digits spell. -/
def isNamedFloat (numeral : List Char) : Bool :=
  numeral == "inf".toList || numeral == "nan".toList

/-- The scalar spells a float. -/
def isFloat (scalar : List Char) : Bool :=
  let numeral := (splitSign scalar).2
  isNamedFloat numeral || (readDigitFloat numeral).isSome

/-! ### Points in time -/

/-- Read a number of exactly `count` digits that lies within bounds. -/
def readField (count least greatest : Nat) (text : List Char) : Option (Nat × List Char) :=
  (readDigits 10 count 0 text).filter fun field => least ≤ field.1 && field.1 ≤ greatest

/-- The number of days of a month. -/
def daysIn (year month : Nat) : Nat :=
  if month = 2 then
    if year % 4 = 0 ∧ (year % 100 ≠ 0 ∨ year % 400 = 0) then 29 else 28
  else if month = 4 ∨ month = 6 ∨ month = 9 ∨ month = 11 then 30
  else 31

/-- What follows a date at the start of a text. -/
def skipDate (text : List Char) : Option (List Char) := do
  let (year, rest) ← readField 4 0 9999 text
  let (month, rest) ← readField 2 1 12 (← expect ['-'] rest)
  let (_, rest) ← readField 2 1 (daysIn year month) (← expect ['-'] rest)
  some rest

/-- What follows a fraction of a second, if there is one. -/
def skipFraction : List Char → Option (List Char)
  | '.' :: rest =>
    let (digits, after) := rest.span Char.isDigit
    if digits.isEmpty then none else some after
  | text => some text

/-- What follows a time at the start of a text. -/
def skipTime (text : List Char) : Option (List Char) := do
  let (_, rest) ← readField 2 0 23 text
  let (_, rest) ← readField 2 0 59 (← expect [':'] rest)
  match rest with
  | ':' :: seconds =>
    let (_, rest) ← readField 2 0 60 seconds
    skipFraction rest
  | _ => some rest

/-- The text is an offset from universal time, or empty. -/
def isOffset (text : List Char) : Bool :=
  match text with
  | [] | ['Z'] | ['z'] => true
  | sign :: rest =>
    (sign == '+' || sign == '-') &&
      ((do
        let (_, rest) ← readField 2 0 23 rest
        let (_, rest) ← readField 2 0 59 (← expect [':'] rest)
        some rest.isEmpty).getD false)

/-- The scalar spells a point in time. -/
def isMoment (scalar : List Char) : Bool :=
  match skipDate scalar with
  | some [] => true
  | some (mark :: rest) =>
    (mark == 'T' || mark == 't' || mark == ' ') && ((skipTime rest).map isOffset).getD false
  | none => ((skipTime scalar).map List.isEmpty).getD false

/-! ### Scalars -/

/-- The value that a scalar without quotes spells. -/
def valueOfScalar (scalar : List Char) : Option Value :=
  if scalar = "true".toList then some (.boolean true)
  else if scalar = "false".toList then some (.boolean false)
  else if isMoment scalar then some (.moment scalar)
  else if isFloat scalar then some (.float scalar)
  else (readInteger scalar).map .integer

/-- The characters of a scalar without quotes. -/
def isScalarCharacter (character : Char) : Bool :=
  character.isAlphanum || character == '_' || character == '+' || character == '-' ||
    character == '.' || character == ':'

/-- The scalar at the start of a text, and what follows it. A space belongs to it between a date
and a time. -/
def spanScalar (text : List Char) : List Char × List Char :=
  let (first, rest) := text.span isScalarCharacter
  match rest with
  | ' ' :: digit :: later =>
    if skipDate first = some [] ∧ digit.isDigit then
      let (second, after) := (digit :: later).span isScalarCharacter
      (first ++ ' ' :: second, after)
    else (first, rest)
  | _ => (first, rest)

/-- Read a value without quotes. -/
def readScalar : Reader Value := fun text =>
  let (scalar, rest) := spanScalar text
  (valueOfScalar scalar).map fun value => (value, rest)

end CurlScribe.Toml
