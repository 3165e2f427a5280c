/-
This file says what a TOML document means once its tables are put together. An integer has
64 bits, and a float that is written in digits is finite. A point in time has a second
form, a table: when the least of its keys is the one reserved for that, the text below the
key is the point in time and the rest of the table does not count, so it may hold numbers
that mean nothing elsewhere.
-/

import CurlScribe.Toml.Scalar

namespace CurlScribe.Toml

open Text

/-! ### Numbers -/

/-- The integer fits into 64 bits. -/
def isFitting (value : Int) : Bool :=
  decide (-0x8000000000000000 ≤ value ∧ value < 0x8000000000000000)

/-- From here on a number rounds to an infinite double. -/
def infinityBound : Nat := Nat.pow 2 1024 - Nat.pow 2 970

/-- The number with these digits and this power of ten rounds to a finite double. -/
def isFinite (digits : List Char) (exponent : Int) : Bool :=
  let value := digitsValue 10 digits
  match exponent with
  | .ofNat power =>
    value == 0 || (decide (power ≤ 400) && decide (value * Nat.pow 10 power < infinityBound))
  | .negSucc power =>
    decide (digits.length ≤ power + 1) || decide (value < infinityBound * Nat.pow 10 (power + 1))

/-- The float is one that has a name, or its digits spell a finite number. -/
def isUsableFloat (written : List Char) : Bool :=
  let numeral := (splitSign written).2
  isNamedFloat numeral || (readDigitFloat numeral).any fun float => isFinite float.1 float.2

/-! ### Points in time -/

/-- The key below which a table holds a point in time. -/
def momentKey : String := "$__toml_private_datetime"

/-- The value below the reserved key, if no key comes before it in the order of code points. -/
def momentValue? (entries : List (String × Value)) : Option Value :=
  if entries.all fun entry => !decide (entry.1 < momentKey) then
    (entries.find? fun entry => entry.1 == momentKey).map (·.2)
  else none

/-- The point in time that a value below the reserved key spells; only texts spell any. -/
def momentOf : Value → Option Value
  | .string content =>
    if isMoment content.toList then some (.moment content.toList) else none
  | _ => none

/-! ### Values -/

mutual

/-- What a value means, if it means anything. -/
def Value.interpreted : Value → Option Value
  | .integer value => if isFitting value then some (.integer value) else none
  | .float written => if isUsableFloat written then some (.float written) else none
  | .array items => (interpretedItems items).map .array
  | .table entries =>
    match momentValue? entries with
    | some value => momentOf value
    | none => (interpretedEntries entries).map .table
  | .string content => some (.string content)
  | .boolean value => some (.boolean value)
  | .moment written => some (.moment written)

/-- What the items of an array mean, if all of them mean anything. -/
def interpretedItems : List Value → Option (List Value)
  | [] => some []
  | item :: rest =>
    item.interpreted.bind fun meaning =>
      (interpretedItems rest).map fun meanings => meaning :: meanings

/-- What the entries of a table mean, if all of them mean anything. -/
def interpretedEntries : List (String × Value) → Option (List (String × Value))
  | [] => some []
  | (key, value) :: rest =>
    value.interpreted.bind fun meaning =>
      (interpretedEntries rest).map fun meanings => (key, meaning) :: meanings

end

end CurlScribe.Toml
