/-
This file says what the expressions for strings evaluate to when generated code runs. An
interpreted literal stands for the characters of its items. The function that expands
variables belongs to the package for the operating system, so it is a parameter here, and so
is the environment that the code runs in.
-/

import CurlScribe.Proofs.SelfDelimiting

namespace CurlScribe.Go

open Text

/-! ### Literals -/

/-- The character that a letter stands for behind a backslash. -/
def escapedLetter : Char → Char
  | 'a' => '\x07'
  | 'b' => '\x08'
  | 'f' => '\x0c'
  | 'n' => '\n'
  | 'r' => '\r'
  | 't' => '\t'
  | 'v' => '\x0b'
  | character => character

/-- The character that an item stands for; a byte above the first 128 is none. -/
def LiteralItem.character? : LiteralItem → Option Char
  | .ordinary character => some character
  | .letter character => some (escapedLetter character)
  | .numeric escape digits =>
    match escape.range with
    | .byte =>
      if digitsValue escape.base digits < 0x80 then
        some (Char.ofNat (digitsValue escape.base digits))
      else none
    | .character => some (Char.ofNat (digitsValue escape.base digits))

/-- The token is an interpreted literal for the characters. -/
def Denotes (token : String) (value : List Char) : Prop :=
  ∃ items : List LiteralItem, (∀ item ∈ items, item.Fits) ∧
    token = enclose (items.flatMap LiteralItem.written) ∧
    items.map LiteralItem.character? = value.map some

theorem character?_quotedItem (character : Char) :
    (quotedItem character).character? = some character := by
  unfold quotedItem
  split_ifs with special
  · rcases special with rfl | rfl <;> rfl
  · rfl

theorem written_ne_nil (item : LiteralItem) : item.written ≠ [] := by
  cases item <;> exact List.cons_ne_nil _ _

/-- An item that is written like a character of a quoted string is that character. -/
theorem cancels_quotedItem {item : LiteralItem} (fits : item.Fits) (character : Char) :
    Cancels LiteralItem.written item (quotedItem character) := by
  intro firstRest secondRest same
  unfold quotedItem at same ⊢
  split_ifs at same ⊢ with special
  · cases item with
    | ordinary other => exact absurd (List.cons.inj same).1 fits.2.1
    | letter other =>
      obtain ⟨rfl, rests⟩ := List.cons.inj (List.cons.inj same).2
      exact ⟨rfl, rests⟩
    | numeric escape digits =>
      -- Behind the backslash stands a letter or a digit, and no quote or backslash.
      have other : character ≠ 'x' ∧ character ≠ 'u' ∧ character ≠ 'U' ∧
          digitValue 8 character = none := by
        rcases special with rfl | rfl <;> decide
      have behind := (List.cons.inj same).2
      cases escape with
      | hexByte => exact absurd (List.cons.inj behind).1.symm other.1
      | shortPoint => exact absurd (List.cons.inj behind).1.symm other.2.1
      | longPoint => exact absurd (List.cons.inj behind).1.symm other.2.2.1
      | octalByte =>
        obtain ⟨count, valid, -⟩ := fits
        cases digits with
        | nil => cases count
        | cons digit later =>
          obtain rfl : digit = character := (List.cons.inj behind).1
          have spells := valid digit List.mem_cons_self
          rw [show NumericEscape.octalByte.base = 8 from rfl, other.2.2.2] at spells
          cases spells
  · cases item with
    | ordinary other =>
      obtain ⟨rfl, rests⟩ := List.cons.inj same
      exact ⟨rfl, rests⟩
    | letter other => exact absurd (Or.inl (List.cons.inj same).1.symm) special
    | numeric escape digits => exact absurd (Or.inl (List.cons.inj same).1.symm) special

theorem flatMap_written_quotedItem (characters : List Char) :
    (characters.map quotedItem).flatMap LiteralItem.written = escapeQuotes characters := by
  rw [List.flatMap_map, escapeQuotes, funext written_quotedItem]

/-- A quoted string stands for itself, and it is a literal if it stands on one line. -/
theorem denotes_quote_iff (text : String) (value : List Char) :
    Denotes (quote text) value ↔ value = text.toList ∧ '\n' ∉ text.toList := by
  have characters : (text.toList.map quotedItem).map LiteralItem.character? =
      text.toList.map some := by
    rw [List.map_map]
    exact List.map_congr_left fun character _ => character?_quotedItem character
  constructor
  · rintro ⟨items, fit, token, spelled⟩
    have oneLine := (isInterpretedLiteral_quote_iff text).1 ⟨items, fit, token⟩
    have same : items.flatMap LiteralItem.written ++ [] =
        (text.toList.map quotedItem).flatMap LiteralItem.written ++ [] := by
      rw [flatMap_written_quotedItem, ← enclose_injective token]
    obtain ⟨rfl, -⟩ := flatMap_cancel
      (fun item member other among => by
        obtain ⟨character, -, rfl⟩ := List.mem_map.1 among
        exact cancels_quotedItem (fit item member) character)
      (fun item _ begins => written_ne_nil item (List.prefix_nil.1 begins))
      (fun item _ begins => written_ne_nil item (List.prefix_nil.1 begins)) same
    rw [characters] at spelled
    exact ⟨(List.map_injective_iff.2 (fun _ _ => Option.some.inj) spelled).symm, oneLine⟩
  · rintro ⟨rfl, oneLine⟩
    refine ⟨text.toList.map quotedItem, fun item member => ?_, ?_, characters⟩
    · obtain ⟨character, among, rfl⟩ := List.mem_map.1 member
      exact fits_quotedItem fun same => oneLine (same ▸ among)
    · rw [flatMap_written_quotedItem, quote]

/-! ### Expressions for strings -/

/-- What an expression evaluates to, for a function that expands variables and an environment. -/
inductive Evaluates (expand : (List Char → List Char) → List Char → List Char)
    (environment : List Char → List Char) : Expression → List Char → Prop
  | literal {token : String} {value : List Char} (denotes : Denotes token value) :
      Evaluates expand environment (.literal token) value
  | expanded {argument : Expression} {value : List Char}
      (evaluates : Evaluates expand environment argument value) :
      Evaluates expand environment (.call (.qualified .os "ExpandEnv") [argument])
        (expand environment value)

section

variable {expand : (List Char → List Char) → List Char → List Char}
  {environment : List Char → List Char}

theorem evaluates_quote_iff {text : String} (oneLine : '\n' ∉ text.toList)
    (result : List Char) :
    Evaluates expand environment (.literal (quote text)) result ↔ result = text.toList := by
  constructor
  · rintro ⟨denotes⟩
    exact ((denotes_quote_iff text result).1 denotes).1
  · rintro rfl
    exact .literal ((denotes_quote_iff text _).2 ⟨rfl, oneLine⟩)

/-- The expression for a string on one line evaluates to the string, with its variables expanded or
without the backslash before its first dollar. -/
theorem evaluates_ofString_iff {text : String} (oneLine : '\n' ∉ text.toList)
    (result : List Char) :
    Evaluates expand environment (.ofString text) result ↔
      result = if envReference text = .live then expand environment text.toList
        else (withoutEscape text).toList := by
  have shorter : '\n' ∉ (withoutEscape text).toList := by
    rwa [mem_withoutEscape_iff (by decide)]
  unfold Expression.ofString
  cases reference : envReference text with
  | absent =>
    rw [if_neg (by decide), withoutEscape_of_absent reference]
    exact evaluates_quote_iff oneLine result
  | escaped offset =>
    rw [if_neg nofun]
    exact evaluates_quote_iff shorter result
  | live =>
    rw [if_pos rfl]
    constructor
    · intro evaluates
      cases evaluates with
      | expanded argument => rw [(evaluates_quote_iff oneLine _).1 argument]
    · rintro rfl
      exact .expanded ((evaluates_quote_iff oneLine _).2 rfl)

end

end CurlScribe.Go
