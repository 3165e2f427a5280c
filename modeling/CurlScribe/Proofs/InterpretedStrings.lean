/-
This file gives the grammar of the interpreted string literals of Go. Between two double
quotes stand characters, none of them a quote, a backslash or a line feed, and escapes: a
backslash before one of nine letters, or before digits that spell a byte or a character.

A quoted string follows this grammar exactly if it holds no line feed. Quoting escapes what
would close the literal or start an escape, and nothing else.
-/

import CurlScribe.Go.Literal
import Mathlib.Tactic.SplitIfs

namespace CurlScribe.Go

open Text

/-! ### The grammar -/

/-- The escapes that spell a number: a byte by hexadecimal or octal digits, or a character by few or
by many hexadecimal digits. -/
inductive NumericEscape where
  | hexByte
  | octalByte
  | shortPoint
  | longPoint
  deriving DecidableEq, Repr

namespace NumericEscape

/-- What stands between the backslash and the digits. -/
def lead : NumericEscape → List Char
  | .hexByte => ['x']
  | .octalByte => []
  | .shortPoint => ['u']
  | .longPoint => ['U']

/-- The base of the digits. -/
def base : NumericEscape → Nat
  | .octalByte => 8
  | _ => 16

/-- The number of digits. -/
def count : NumericEscape → Nat
  | .hexByte => 2
  | .octalByte => 3
  | .shortPoint => 4
  | .longPoint => 8

/-- What the number has to be. -/
def range : NumericEscape → EscapeRange
  | .hexByte | .octalByte => .byte
  | .shortPoint | .longPoint => .character

end NumericEscape

/-- The letters that make an escape on their own. -/
def escapeLetters : List Char :=
  ['a', 'b', 'f', 'n', 'r', 't', 'v', '\x5c', '\x22']

/-- What stands between the quotes of a literal: ordinary characters and two kinds of escapes. -/
inductive LiteralItem where
  | ordinary (character : Char)
  | letter (character : Char)
  | numeric (escape : NumericEscape) (digits : List Char)
  deriving DecidableEq, Repr

namespace LiteralItem

/-- An item as it is written. -/
def written : LiteralItem → List Char
  | .ordinary character => [character]
  | .letter character => ['\x5c', character]
  | .numeric escape digits => '\x5c' :: (escape.lead ++ digits)

/-- An item that Go accepts. -/
def Fits : LiteralItem → Prop
  | .ordinary character => character ≠ '\x22' ∧ character ≠ '\x5c' ∧ character ≠ '\n'
  | .letter character => character ∈ escapeLetters
  | .numeric escape digits =>
    digits.length = escape.count ∧ (∀ digit ∈ digits, (digitValue escape.base digit).isSome) ∧
      escape.range.holds (digitsValue escape.base digits) = true

/-- No item goes on over the end of a line. -/
theorem lineFeed_not_mem_written {item : LiteralItem} (fits : item.Fits) :
    '\n' ∉ item.written := by
  cases item with
  | ordinary character =>
    rw [written, List.mem_singleton]
    exact fits.2.2.symm
  | letter character =>
    have member : character ∈ escapeLetters := fits
    rw [written, List.mem_cons, List.mem_singleton]
    rintro (backslash | rfl)
    · cases backslash
    · exact absurd member (by decide)
  | numeric escape digits =>
    rw [written, List.mem_cons, List.mem_append]
    rintro (backslash | lead | digit)
    · cases backslash
    · exact absurd lead (by cases escape <;> decide)
    · exact absurd (fits.2.1 _ digit) (by cases escape <;> decide)

end LiteralItem

/-- The token is an interpreted string literal. -/
def IsInterpretedLiteral (token : String) : Prop :=
  ∃ items : List LiteralItem, (∀ item ∈ items, item.Fits) ∧
    token = enclose (items.flatMap LiteralItem.written)

/-! ### Quoted strings -/

/-- What a character of a quoted string becomes. -/
def quotedItem (character : Char) : LiteralItem :=
  if character = '\x5c' ∨ character = '\x22' then .letter character else .ordinary character

theorem written_quotedItem (character : Char) :
    (quotedItem character).written = quotedCharacter character := by
  unfold quotedItem quotedCharacter
  split_ifs <;> rfl

theorem fits_quotedItem {character : Char} (other : character ≠ '\n') :
    (quotedItem character).Fits := by
  unfold quotedItem
  split_ifs with special
  · show character ∈ escapeLetters
    rcases special with rfl | rfl <;> decide
  · exact ⟨fun quote => special (Or.inr quote), fun backslash => special (Or.inl backslash), other⟩

/-- Quoting adds backslashes only. -/
theorem mem_escapeQuotes_iff {character : Char} (ordinary : character ≠ '\x5c')
    (characters : List Char) : character ∈ escapeQuotes characters ↔ character ∈ characters := by
  simp only [escapeQuotes, List.mem_flatMap]
  constructor
  · rintro ⟨other, member, among⟩
    unfold quotedCharacter at among
    split_ifs at among
    · simp only [List.mem_cons, List.not_mem_nil, or_false] at among
      exact among.resolve_left ordinary ▸ member
    · exact List.mem_singleton.1 among ▸ member
  · intro member
    refine ⟨character, member, ?_⟩
    unfold quotedCharacter
    split_ifs
    · exact List.mem_cons_of_mem _ List.mem_cons_self
    · exact List.mem_cons_self

theorem enclose_injective {first second : List Char} (same : enclose first = enclose second) :
    first = second := by
  have both := String.ofList_injective same
  exact List.append_cancel_right (List.cons.inj both).2

/-- A quoted string is a literal exactly if it stands on one line. -/
theorem isInterpretedLiteral_quote_iff (text : String) :
    IsInterpretedLiteral (quote text) ↔ '\n' ∉ text.toList := by
  constructor
  · rintro ⟨items, fit, same⟩ member
    have inside := (mem_escapeQuotes_iff (by decide) _).2 member
    rw [enclose_injective same] at inside
    obtain ⟨item, among, found⟩ := List.mem_flatMap.1 inside
    exact LiteralItem.lineFeed_not_mem_written (fit item among) found
  · intro absent
    refine ⟨text.toList.map quotedItem, ?_, ?_⟩
    · intro item member
      obtain ⟨character, among, rfl⟩ := List.mem_map.1 member
      exact fits_quotedItem fun same => absent (same ▸ among)
    · have same : (fun character => (quotedItem character).written) = quotedCharacter :=
        funext written_quotedItem
      rw [List.flatMap_map, same, quote, escapeQuotes]

/-- Only a backslash is ever taken out of a string before it is quoted. -/
theorem mem_withoutEscape_iff {character : Char} (other : character ≠ '\x5c') (text : String) :
    character ∈ (withoutEscape text).toList ↔ character ∈ text.toList := by
  unfold withoutEscape
  split
  · rfl
  · rename_i before after found
    split_ifs with escaped
    · obtain ⟨equal, -⟩ := splitFirst_eq_some found
      obtain ⟨front, split⟩ := List.getLast?_eq_some_iff.1 escaped
      rw [String.toList_ofList, equal, split, List.dropLast_concat]
      simp [other]
    · rfl

end CurlScribe.Go
