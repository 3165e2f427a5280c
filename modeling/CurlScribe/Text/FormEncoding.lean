/-
This file reads form fields from the text of a request body. Fields stand between
ampersands, a name and a value on both sides of the first equals sign; a plus sign is a
space, and a percent sign before two hexadecimal digits is the byte that they spell.
Bytes that are no UTF-8 are replaced. Reading never fails: a percent sign before anything
else stands for itself.
-/

import CurlScribe.Text.Digits
import CurlScribe.Text.Split
import CurlScribe.Text.Utf8

namespace CurlScribe.Text

/-! ### Bytes behind percent signs -/

/-- The value of the hexadecimal digit with that byte. -/
def hexByteValue (byte : UInt8) : Option Nat :=
  hexValue (Char.ofNat byte.toNat)

/-- The bytes with every percent sign before two hexadecimal digits replaced by the byte that the
digits spell. -/
def percentDecode : List UInt8 → List UInt8
  | 0x25 :: high :: low :: rest =>
    match hexByteValue high, hexByteValue low with
    | some tens, some ones => UInt8.ofNat (tens * 16 + ones) :: percentDecode rest
    | _, _ => 0x25 :: percentDecode (high :: low :: rest)
  | byte :: rest => byte :: percentDecode rest
  | [] => []

/-- A name or a value of a form field. -/
def formText (characters : List Char) : String :=
  let spaced := characters.map fun character => if character = '+' then ' ' else character
  String.ofList (decode (percentDecode (encode spaced)))

/-- The fields of a form, names and values; a field without an equals sign is a name alone, and
empty fields do not count. -/
def formFields (content : String) : List (String × String) :=
  ((segments '&' content.toList).filter (!·.isEmpty)).map fun field =>
    match splitFirst '=' field with
    | some (name, value) => (formText name, formText value)
    | none => (formText field, "")

example : formFields "a=1+2&&b%3D=%e2%82%ac%zz&c" =
    [("a", "1 2"), ("b=", "€%zz"), ("c", "")] := by
  decide +kernel

end CurlScribe.Text
