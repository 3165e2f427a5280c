/-
This file reads numbers from the digits that spell them, in bases up to sixteen. A fixed
count of digits is read or nothing is; small and capital letters spell the same digits. The
decimal digits that a number is written in tell the number.
-/

namespace CurlScribe.Text

/-! ### Single digits -/

/-- The number that a hexadecimal digit stands for. -/
def hexValue (character : Char) : Option Nat :=
  if '0' ≤ character ∧ character ≤ '9' then some (character.toNat - '0'.toNat)
  else if 'a' ≤ character ∧ character ≤ 'f' then some (character.toNat - 'a'.toNat + 10)
  else if 'A' ≤ character ∧ character ≤ 'F' then some (character.toNat - 'A'.toNat + 10)
  else none

/-- The value of a digit in the given base, which is at most sixteen. -/
def digitValue (base : Nat) (character : Char) : Option Nat :=
  (hexValue character).filter (· < base)

/-! ### Several digits -/

/-- Read exactly `count` digits, and return the number and what follows them; `value` is what the
digits before them spell. -/
def readDigits (base : Nat) : Nat → Nat → List Char → Option (Nat × List Char)
  | 0, value, text => some (value, text)
  | _ + 1, _, [] => none
  | count + 1, value, character :: rest =>
    (digitValue base character).bind fun digit =>
      readDigits base count (value * base + digit) rest

theorem readDigits_length_le (base count value : Nat) (text : List Char) (result : Nat × List Char)
    (read : readDigits base count value text = some result) :
    result.2.length ≤ text.length := by
  induction count generalizing value text with
  | zero =>
    simp only [readDigits, Option.some.injEq] at read
    exact read ▸ Nat.le_refl _
  | succ count inductionHypothesis =>
    cases text with
    | nil => simp [readDigits] at read
    | cons character rest =>
      simp only [readDigits, Option.bind_eq_some_iff] at read
      obtain ⟨digit, _, read⟩ := read
      have := inductionHypothesis _ _ read
      simp only [List.length_cons]
      omega

/-- The number that digits of the given base spell; characters that are no digits count as zero. -/
def digitsValue (base : Nat) (digits : List Char) : Nat :=
  digits.foldl (fun value digit => value * base + (digitValue base digit).getD 0) 0

/-! ### Numbers in texts -/

/-- Different numbers behind a text make different texts. -/
theorem append_toString_inj {text : String} {first second : Nat}
    (same : text ++ toString first = text ++ toString second) : first = second := by
  have characters := congrArg String.toList same
  simp only [String.toList_append, Nat.toString_eq_repr, Nat.toList_repr] at characters
  have digits := List.append_cancel_left characters
  rw [← Nat.ofDigitChars_ten_toDigits (n := first), digits, Nat.ofDigitChars_ten_toDigits]

end CurlScribe.Text
