/-
This file proves that the check of escapes accepts exactly what Go accepts between the quotes of
an interpreted literal, so the literal for a raw body is always one that Go accepts.

The check reads numbers of any size, and a machine reads them in words of 32 bits. Digits only
ever make a number larger, so a number that outgrows a word does so for good: reading in words,
with every product and every sum checked, finds the number if it fits into a word and nothing
otherwise. The digits of an escape are too few to outgrow a word.
-/

import CurlScribe.Proofs.BodyLiterals
import Mathlib.Algebra.Group.Nat.Defs

namespace CurlScribe.Go

open Text

/-! ### Words -/

/-- The product of two words, if it is a word. -/
def productWord (first second : UInt32) : Option UInt32 :=
  if first.toNat * second.toNat < 2 ^ 32 then some (first * second) else none

/-- The sum of two words, if it is a word. -/
def sumWord (first second : UInt32) : Option UInt32 :=
  if first.toNat + second.toNat < 2 ^ 32 then some (first + second) else none

/-- A word with one more digit, if it is a word. -/
def appendDigit (base value digit : UInt32) : Option UInt32 :=
  (productWord value base).bind fun product => sumWord product digit

/-- Read exactly `count` digits, and return the word they spell and what follows them; `value` is
what the digits before them spell. -/
def readWordDigits (base : UInt32) : Nat → UInt32 → List Char → Option (UInt32 × List Char)
  | 0, value, text => some (value, text)
  | _ + 1, _, [] => none
  | count + 1, value, character :: rest =>
    (digitValue base.toNat character).bind fun digit =>
      (appendDigit base value (UInt32.ofNat digit)).bind fun word =>
        readWordDigits base count word rest

/-- What follows the digits, if their word is accepted. -/
def acceptWord (accepts : UInt32 → Bool) (read : Option (UInt32 × List Char)) :
    Option (List Char) :=
  read.bind fun result => if accepts result.1 then some result.2 else none

/-- Read what may follow a backslash, with numbers in words. The first digit of an octal escape
counts sixty-four times. -/
def readWordEscape : List Char → Option (List Char)
  | [] => none
  | character :: rest =>
    if character ∈ escapeLetters then some rest
    else if character = 'x' then acceptWord (· ≤ 0xff) (readWordDigits 16 2 0 rest)
    else if character = 'u' then acceptWord (·.toNat.isValidChar) (readWordDigits 16 4 0 rest)
    else if character = 'U' then acceptWord (·.toNat.isValidChar) (readWordDigits 16 8 0 rest)
    else
      (digitValue 8 character).bind fun high =>
        acceptWord (UInt32.ofNat high * 64 + · ≤ 0xff) (readWordDigits 8 2 0 rest)

/-! ### Numbers that digits spell -/

theorem digitValue_lt {base digit : Nat} {character : Char}
    (found : digitValue base character = some digit) : digit < base := by
  obtain ⟨-, small⟩ := Option.filter_eq_some_iff.1 found
  exact of_decide_eq_true small

section Digits

variable {base count value : Nat} {text : List Char} {result : Nat × List Char}

theorem readDigits_cons_eq_some {character : Char} {rest : List Char}
    (read : readDigits base (count + 1) value (character :: rest) = some result) :
    ∃ digit < base, digitValue base character = some digit ∧
      readDigits base count (value * base + digit) rest = some result := by
  obtain ⟨digit, found, later⟩ := Option.bind_eq_some_iff.1 read
  exact ⟨digit, digitValue_lt found, found, later⟩

/-- Digits make a number larger. -/
theorem le_of_readDigits (read : readDigits base count value text = some result) :
    value ≤ result.1 := by
  induction count generalizing value text with
  | zero =>
    cases read
    exact Nat.le_refl _
  | succ count inductionHypothesis =>
    cases text with
    | nil => cases read
    | cons character rest =>
      obtain ⟨digit, small, -, later⟩ := readDigits_cons_eq_some read
      have grown : value ≤ value * base := Nat.le_mul_of_pos_right _ (Nat.zero_lt_of_lt small)
      exact Nat.le_trans (Nat.le_add_right_of_le grown) (inductionHypothesis later)

/-- So many digits spell a number below that power of the base. -/
theorem lt_of_readDigits (read : readDigits base count value text = some result) :
    result.1 < (value + 1) * base ^ count := by
  induction count generalizing value text with
  | zero =>
    cases read
    simp
  | succ count inductionHypothesis =>
    cases text with
    | nil => cases read
    | cons character rest =>
      obtain ⟨digit, small, -, later⟩ := readDigits_cons_eq_some read
      have step : value * base + digit + 1 ≤ (value + 1) * base := by
        rw [Nat.succ_mul]
        omega
      calc result.1 < (value * base + digit + 1) * base ^ count := inductionHypothesis later
        _ ≤ (value + 1) * base * base ^ count := Nat.mul_le_mul_right _ step
        _ = (value + 1) * base ^ (count + 1) := by rw [Nat.mul_assoc, Nat.pow_succ']

/-- What stands before the digits adds its share to the number. -/
theorem readDigits_add (base count high value : Nat) (text : List Char) :
    readDigits base count (high + value) text =
      (readDigits base count value text).map fun result =>
        (high * base ^ count + result.1, result.2) := by
  induction count generalizing high value text with
  | zero => simp [readDigits]
  | succ count inductionHypothesis =>
    cases text with
    | nil => rfl
    | cons character rest =>
      rw [readDigits, readDigits, Option.map_bind]
      refine Option.bind_congr fun digit _ => ?_
      rw [Nat.add_mul, Nat.add_assoc, inductionHypothesis, Nat.mul_assoc, ← Nat.pow_succ']
      rfl

end Digits

/-! ### Reading in words -/

/-- The word of a number, if it fits into one. -/
def wordOf (number : Nat) : Option UInt32 :=
  if number < 2 ^ 32 then some (UInt32.ofNat number) else none

theorem wordOf_eq_some_iff {number : Nat} {word : UInt32} :
    wordOf number = some word ↔ word.toNat = number := by
  unfold wordOf
  constructor
  · intro found
    split_ifs at found with small
    cases found
    exact UInt32.toNat_ofNat_of_lt' small
  · rintro rfl
    rw [if_pos word.toNat_lt, UInt32.ofNat_toNat]

theorem wordOf_eq_none_iff {number : Nat} : wordOf number = none ↔ 2 ^ 32 ≤ number := by
  simp [wordOf]

theorem productWord_eq (first second : UInt32) :
    productWord first second = wordOf (first.toNat * second.toNat) := by
  unfold productWord wordOf
  rw [UInt32.ofNat_mul, UInt32.ofNat_toNat, UInt32.ofNat_toNat]

theorem sumWord_eq (first second : UInt32) :
    sumWord first second = wordOf (first.toNat + second.toNat) := by
  unfold sumWord wordOf
  rw [UInt32.ofNat_add, UInt32.ofNat_toNat, UInt32.ofNat_toNat]

/-- A product that is no word makes a sum that is none either, so the sum alone decides. -/
theorem appendDigit_eq (base value digit : UInt32) :
    appendDigit base value digit = wordOf (value.toNat * base.toNat + digit.toNat) := by
  unfold appendDigit
  rw [productWord_eq]
  cases product : wordOf (value.toNat * base.toNat) with
  | none =>
    have large := wordOf_eq_none_iff.1 product
    exact (wordOf_eq_none_iff.2 (Nat.le_add_right_of_le large)).symm
  | some word => rw [Option.bind_some, sumWord_eq, wordOf_eq_some_iff.1 product]

/-- Reading in words finds the number that the digits spell if it fits into a word, and nothing if
it does not. -/
theorem readWordDigits_eq (base : UInt32) (count : Nat) (value : UInt32) (text : List Char) :
    readWordDigits base count value text =
      (readDigits base.toNat count value.toNat text).bind fun result =>
        (wordOf result.1).map (·, result.2) := by
  induction count generalizing value text with
  | zero =>
    rw [readWordDigits, readDigits, Option.bind_some, wordOf_eq_some_iff.2 rfl]
    rfl
  | succ count inductionHypothesis =>
    cases text with
    | nil => rfl
    | cons character rest =>
      rw [readWordDigits, readDigits, Option.bind_assoc]
      refine Option.bind_congr fun digit found => ?_
      have small : (UInt32.ofNat digit).toNat = digit :=
        UInt32.toNat_ofNat_of_lt' (Nat.lt_trans (digitValue_lt found) base.toNat_lt)
      rw [appendDigit_eq, small]
      cases next : wordOf (value.toNat * base.toNat + digit) with
      | some word =>
        rw [Option.bind_some, inductionHypothesis, wordOf_eq_some_iff.1 next]
      | none =>
        -- The number has outgrown a word, and the digits to come cannot make it smaller.
        refine (Option.bind_eq_none_iff.2 fun result read => ?_).symm
        have large := Nat.le_trans (wordOf_eq_none_iff.1 next) (le_of_readDigits read)
        rw [wordOf_eq_none_iff.2 large]
        rfl

/-- Digits that cannot outgrow a word are read as the number they spell. -/
theorem acceptWord_readWordDigits {base : UInt32} {count : Nat} (fits : base.toNat ^ count ≤ 2 ^ 32)
    (accepts : UInt32 → Bool) (holds : Nat → Bool)
    (alike : ∀ word : UInt32, word.toNat < base.toNat ^ count → accepts word = holds word.toNat)
    (text : List Char) :
    acceptWord accepts (readWordDigits base count 0 text) =
      (readDigits base.toNat count 0 text).bind fun result =>
        if holds result.1 then some result.2 else none := by
  rw [acceptWord, readWordDigits_eq, Option.bind_assoc]
  refine Option.bind_congr fun result read => ?_
  have small : result.1 < base.toNat ^ count := by
    simpa using lt_of_readDigits read
  have spelled : (UInt32.ofNat result.1).toNat = result.1 :=
    UInt32.toNat_ofNat_of_lt' (Nat.lt_of_lt_of_le small fits)
  rw [wordOf_eq_some_iff.2 spelled, Option.map_some, Option.bind_some,
    alike _ (spelled.symm ▸ small), spelled]

/-- Reading an escape in words is reading it with numbers of any size. -/
theorem readWordEscape_eq (text : List Char) : readWordEscape text = readEscape text := by
  have byte (word : UInt32) : decide (word ≤ 0xff) = EscapeRange.byte.holds word.toNat :=
    decide_eq_decide.2 UInt32.le_iff_toNat_le
  cases text with
  | nil => rfl
  | cons character rest =>
    rw [readWordEscape, readEscape]
    refine if_congr Iff.rfl rfl (if_congr Iff.rfl ?_ (if_congr Iff.rfl ?_ (if_congr Iff.rfl ?_ ?_)))
    · exact acceptWord_readWordDigits (by decide) _ _ (fun word _ => byte word) rest
    · exact acceptWord_readWordDigits (by decide) _ EscapeRange.character.holds
        (fun _ _ => rfl) rest
    · exact acceptWord_readWordDigits (by decide) _ EscapeRange.character.holds
        (fun _ _ => rfl) rest
    · refine Option.bind_congr fun high found => ?_
      have octal : high < 8 := digitValue_lt found
      have spelled (word : UInt32) (small : word.toNat < 8 ^ 2) :
          (UInt32.ofNat high * 64 + word).toNat = high * 8 ^ 2 + word.toNat := by
        have first : (UInt32.ofNat high).toNat = high :=
          UInt32.toNat_ofNat_of_lt' (Nat.lt_trans octal (by decide))
        have weight : (64 : UInt32).toNat = 64 := rfl
        rw [UInt32.toNat_add, UInt32.toNat_mul, first, weight]
        omega
      refine (acceptWord_readWordDigits (by decide) _
        (fun low => EscapeRange.byte.holds (high * 8 ^ 2 + low)) (fun word small => ?_) rest).trans ?_
      · rw [byte, spelled word small]
      · have split := readDigits_add 8 2 high 0 rest
        rw [readNumber, ← Nat.add_zero high, split, Option.bind_map]
        rfl

/-! ### Literals that Go accepts -/

/-- A text passes the check if and only if it is an interpreted literal between its quotes. -/
theorem isInterpreted_iff_enclose (text : List Char) :
    isInterpreted text = true ↔ IsInterpretedLiteral (enclose text) := by
  rw [isInterpreted_iff]
  constructor
  · rintro ⟨items, fit, rfl⟩
    exact ⟨items, fit, rfl⟩
  · rintro ⟨items, fit, token⟩
    exact ⟨items, fit, enclose_injective token⟩

/-- The literal for a raw body is an interpreted one, with the escapes of the body or with every
backslash escaped. -/
theorem isInterpretedLiteral_raw (text : String) :
    IsInterpretedLiteral (bodyLiteral .raw text) := by
  simp only [bodyLiteral]
  split_ifs with accepted
  · exact (isInterpreted_iff_enclose _).1 accepted
  · obtain ⟨items, fit, token, -⟩ := denotes_safeLiteral text
    exact ⟨items, fit, token⟩

/-- The check of escapes accepts a text exactly if it is an interpreted literal between its quotes.
Its numbers can be read in words: digits whose number does not fit into a word are refused, and
every escape is read as with numbers of any size. The literal for a raw body is therefore always
one that Go accepts. -/
theorem escapeCheck_isExact :
    (∀ text : List Char, isInterpreted text = true ↔ IsInterpretedLiteral (enclose text)) ∧
      (∀ base count value text, readWordDigits base count value text =
        (readDigits base.toNat count value.toNat text).bind fun result =>
          (wordOf result.1).map (·, result.2)) ∧
      (∀ text, readWordEscape text = readEscape text) ∧
      ∀ text, IsInterpretedLiteral (bodyLiteral .raw text) :=
  ⟨isInterpreted_iff_enclose, readWordDigits_eq, readWordEscape_eq, isInterpretedLiteral_raw⟩

end CurlScribe.Go
