/-
This file says which string literals Go accepts and which bytes they stand for. A literal
is interpreted, between double quotes, or raw, between backquotes, where nothing is an
escape and carriage returns do not count. A literal stands for bytes and not for characters,
since an escape may spell a single byte of any value.

The items of an interpreted literal can be read off from the left, so a literal has one
value; and the check of escapes accepts exactly the texts that are made of items.
-/

import CurlScribe.Proofs.LiteralValues
import CurlScribe.Text.Utf8
import Mathlib.Data.Bool.AllAny

namespace CurlScribe.Go

open Text

/-! ### Reading escapes -/

/-- Digits are read if there are enough of them, and what they spell goes on from the value. -/
theorem readDigits_eq_some_iff (base count value : Nat) (text : List Char)
    (result : Nat × List Char) :
    readDigits base count value text = some result ↔
      ∃ digits : List Char, digits.length = count ∧
        (∀ digit ∈ digits, (digitValue base digit).isSome) ∧ text = digits ++ result.2 ∧
        result.1 = digits.foldl
          (fun value digit => value * base + (digitValue base digit).getD 0) value := by
  induction count generalizing value text with
  | zero =>
    simp only [readDigits, Option.some.injEq, List.length_eq_zero_iff]
    constructor
    · rintro rfl
      exact ⟨[], rfl, List.forall_mem_nil _, rfl, rfl⟩
    · rintro ⟨_, rfl, -, same, spelled⟩
      exact Prod.ext spelled.symm same
  | succ count inductionHypothesis =>
    cases text with
    | nil =>
      simp only [readDigits, reduceCtorEq, false_iff]
      rintro ⟨digits, enough, -, same, -⟩
      rw [(List.append_eq_nil_iff.1 same.symm).1] at enough
      cases enough
    | cons character rest =>
      simp only [readDigits, Option.bind_eq_some_iff, inductionHypothesis]
      constructor
      · rintro ⟨digit, first, digits, enough, valid, rfl, spelled⟩
        refine ⟨character :: digits, congrArg (· + 1) enough, ?_, rfl, ?_⟩
        · exact List.forall_mem_cons.2 ⟨first ▸ rfl, valid⟩
        · rw [List.foldl_cons, first]
          exact spelled
      · rintro ⟨digits, enough, valid, same, spelled⟩
        cases digits with
        | nil => cases enough
        | cons digit later =>
          obtain ⟨first, others⟩ := List.forall_mem_cons.1 valid
          obtain ⟨rfl, rest⟩ := List.cons.inj same
          obtain ⟨number, found⟩ := Option.isSome_iff_exists.1 first
          rw [List.foldl_cons, found] at spelled
          exact ⟨number, found, later, Nat.succ.inj enough, others, rest, spelled⟩

/-- The number of an escape is read if there are digits for it. -/
theorem readNumber_eq_some_iff (escape : NumericEscape) (text rest : List Char) :
    readNumber escape.range escape.base escape.count 0 text = some rest ↔
      ∃ digits, (LiteralItem.numeric escape digits).Fits ∧ text = digits ++ rest := by
  simp only [readNumber, Option.bind_eq_some_iff, readDigits_eq_some_iff]
  constructor
  · rintro ⟨⟨number, later⟩, ⟨digits, enough, valid, same, spelled⟩, accepted⟩
    split_ifs at accepted with holds
    cases accepted
    rw [spelled] at holds
    exact ⟨digits, ⟨enough, valid, holds⟩, same⟩
  · rintro ⟨digits, ⟨enough, valid, holds⟩, same⟩
    exact ⟨(_, rest), ⟨digits, enough, valid, same, rfl⟩, if_pos holds⟩

/-- A first digit that is read on its own counts like the others. -/
theorem readNumber_succ (range : EscapeRange) (base count value : Nat) (character : Char)
    (rest : List Char) :
    readNumber range base (count + 1) value (character :: rest) =
      (digitValue base character).bind fun digit =>
        readNumber range base count (value * base + digit) rest := by
  simp only [readNumber, readDigits]
  exact Option.bind_assoc ..

/-- No octal digit starts another escape. -/
theorem not_mem_of_octal {character : Char} (octal : (digitValue 8 character).isSome) :
    character ∉ escapeLetters ∧ character ≠ 'x' ∧ character ≠ 'u' ∧ character ≠ 'U' := by
  -- The letters of the list are checked, not all characters there are.
  have others : ∀ other ∈ 'x' :: 'u' :: 'U' :: escapeLetters, digitValue 8 other = none :=
    List.all_iff_forall_prop.1 (by decide)
  have absent : character ∉ 'x' :: 'u' :: 'U' :: escapeLetters := fun member => by
    rw [others character member] at octal
    cases octal
  simp only [List.mem_cons, not_or] at absent
  exact ⟨absent.2.2.2, absent.1, absent.2.1, absent.2.2.1⟩

/-- The digits of an octal escape are not empty, and they start with an octal digit. -/
theorem octal_of_fits {digits : List Char} (fits : (LiteralItem.numeric .octalByte digits).Fits) :
    ∃ digit later, digits = digit :: later ∧ (digitValue 8 digit).isSome := by
  obtain ⟨enough, valid, -⟩ := fits
  cases digits with
  | nil => cases enough
  | cons digit later => exact ⟨digit, later, rfl, valid digit List.mem_cons_self⟩

/-- Behind a backslash stands a letter, or what tells a number and its digits. -/
theorem readEscape_eq_some_iff (text rest : List Char) :
    readEscape text = some rest ↔
      (∃ character ∈ escapeLetters, text = character :: rest) ∨
      ∃ escape digits, (LiteralItem.numeric escape digits).Fits ∧
        text = escape.lead ++ (digits ++ rest) := by
  constructor
  · intro read
    cases text with
    | nil => cases read
    | cons character later =>
      simp only [readEscape] at read
      split_ifs at read with letter hex short long
      · cases read
        exact Or.inl ⟨character, letter, rfl⟩
      · obtain ⟨digits, fits, rfl⟩ := (readNumber_eq_some_iff .hexByte ..).1 read
        exact Or.inr ⟨.hexByte, digits, fits, hex ▸ rfl⟩
      · obtain ⟨digits, fits, rfl⟩ := (readNumber_eq_some_iff .shortPoint ..).1 read
        exact Or.inr ⟨.shortPoint, digits, fits, short ▸ rfl⟩
      · obtain ⟨digits, fits, rfl⟩ := (readNumber_eq_some_iff .longPoint ..).1 read
        exact Or.inr ⟨.longPoint, digits, fits, long ▸ rfl⟩
      · have whole : readNumber .byte 8 3 0 (character :: later) = some rest := by
          rw [readNumber_succ]
          simpa using read
        obtain ⟨digits, fits, same⟩ := (readNumber_eq_some_iff .octalByte ..).1 whole
        exact Or.inr ⟨.octalByte, digits, fits, same⟩
  · rintro (⟨_, letter, rfl⟩ | ⟨escape, digits, fits, rfl⟩)
    · exact if_pos letter
    · have read := (readNumber_eq_some_iff escape (digits ++ rest) rest).2 ⟨digits, fits, rfl⟩
      cases escape with
      | octalByte =>
        obtain ⟨digit, later, rfl, octal⟩ := octal_of_fits fits
        obtain ⟨letter, hex, short, long⟩ := not_mem_of_octal octal
        refine (if_neg letter).trans ?_
        rw [if_neg hex, if_neg short, if_neg long]
        refine Eq.trans ?_ read
        show _ = readNumber .byte 8 3 0 (digit :: (later ++ rest))
        rw [readNumber_succ]
        simp
      | _ => exact read

/-! ### The check of escapes -/

theorem isInterpreted_backslash (rest : List Char) :
    isInterpreted ('\x5c' :: rest) = true ↔
      ∃ later, readEscape rest = some later ∧ isInterpreted later = true := by
  rw [isInterpreted, if_pos rfl]
  split
  · rename_i refused
    simp [refused]
  · rename_i later read
    simp [read]

theorem isInterpreted_ordinary {character : Char} (ordinary : character ≠ '\x5c')
    (rest : List Char) :
    isInterpreted (character :: rest) = true ↔
      character ≠ '\x22' ∧ character ≠ '\n' ∧ isInterpreted rest = true := by
  rw [isInterpreted, if_neg ordinary]
  simp [and_assoc]

/-- An item in front of a text passes the check on its own. -/
theorem isInterpreted_written_iff {item : LiteralItem} (fits : item.Fits) (rest : List Char) :
    isInterpreted (item.written ++ rest) = true ↔ isInterpreted rest = true := by
  have escape {text : List Char} (read : readEscape text = some rest) :
      isInterpreted ('\x5c' :: text) = true ↔ isInterpreted rest = true := by
    simp only [isInterpreted_backslash, read, Option.some.injEq, exists_eq_left']
  cases item with
  | ordinary character =>
    rw [LiteralItem.written, List.singleton_append, isInterpreted_ordinary fits.2.1]
    exact ⟨fun accepted => accepted.2.2, fun accepted => ⟨fits.1, fits.2.2, accepted⟩⟩
  | letter character =>
    exact escape ((readEscape_eq_some_iff ..).2 (Or.inl ⟨character, fits, rfl⟩))
  | numeric kind digits =>
    exact escape ((readEscape_eq_some_iff ..).2
      (Or.inr ⟨kind, digits, fits, List.append_assoc ..⟩))

/-- The check accepts exactly the texts that are made of the items of a literal. -/
theorem isInterpreted_iff (text : List Char) :
    isInterpreted text = true ↔
      ∃ items : List LiteralItem, (∀ item ∈ items, item.Fits) ∧
        text = items.flatMap LiteralItem.written := by
  constructor
  · intro accepted
    fun_induction isInterpreted text with
    | case1 => exact ⟨[], nofun, rfl⟩
    | case2 rest refused => cases accepted
    | case3 rest later read shorter inductionHypothesis =>
      obtain ⟨items, fit, rfl⟩ := inductionHypothesis accepted
      rcases (readEscape_eq_some_iff ..).1 read with
        ⟨letter, among, rfl⟩ | ⟨escape, digits, fits, rfl⟩
      · exact ⟨.letter letter :: items, List.forall_mem_cons.2 ⟨among, fit⟩, rfl⟩
      · refine ⟨.numeric escape digits :: items, List.forall_mem_cons.2 ⟨fits, fit⟩, ?_⟩
        simp [LiteralItem.written]
    | case4 character rest ordinary inductionHypothesis =>
      simp only [Bool.and_eq_true, bne_iff_ne] at accepted
      obtain ⟨⟨open', line⟩, others⟩ := accepted
      obtain ⟨items, fit, rfl⟩ := inductionHypothesis others
      exact ⟨.ordinary character :: items,
        List.forall_mem_cons.2 ⟨⟨open', ordinary, line⟩, fit⟩, rfl⟩
  · rintro ⟨items, fit, rfl⟩
    induction items with
    | nil => rw [List.flatMap_nil, isInterpreted]
    | cons item later inductionHypothesis =>
      obtain ⟨fits, others⟩ := List.forall_mem_cons.1 fit
      exact (isInterpreted_written_iff fits _).2 (inductionHypothesis others)

/-! ### Unique reading -/

/-- The kind of numeric escape that a character behind the backslash tells. -/
def NumericEscape.ofHead (head : Char) : NumericEscape :=
  if head = 'x' then .hexByte
  else if head = 'u' then .shortPoint
  else if head = 'U' then .longPoint
  else .octalByte

/-- An item that can be told from others by how it is written: no lone backslash counts as a
character, and no letter tells a number. -/
def LiteralItem.IsDistinct : LiteralItem → Prop
  | .ordinary character => character ≠ '\x5c'
  | .letter character => character ∉ ['x', 'u', 'U'] ∧ digitValue 8 character = none
  | item@(.numeric _ _) => item.Fits

/-- The character behind the backslash tells which numeric escape it is, and that it is one. -/
theorem exists_head_of_fits {escape : NumericEscape} {digits : List Char}
    (fits : (LiteralItem.numeric escape digits).Fits) :
    ∃ head later, escape.lead ++ digits = head :: later ∧ NumericEscape.ofHead head = escape ∧
      (head ∈ ['x', 'u', 'U'] ∨ (digitValue 8 head).isSome) := by
  cases escape with
  | octalByte =>
    obtain ⟨digit, later, rfl, octal⟩ := octal_of_fits fits
    obtain ⟨-, hex, short, long⟩ := not_mem_of_octal octal
    refine ⟨digit, later, rfl, ?_, Or.inr octal⟩
    rw [NumericEscape.ofHead, if_neg hex, if_neg short, if_neg long]
  | _ => exact ⟨_, digits, rfl, by decide, Or.inl (by decide)⟩

namespace LiteralItem

theorem isDistinct_of_fits {item : LiteralItem} (fits : item.Fits) : item.IsDistinct := by
  cases item with
  | ordinary character => exact fits.2.1
  | letter character =>
    have letters : ∀ letter ∈ escapeLetters,
        letter ∉ ['x', 'u', 'U'] ∧ digitValue 8 letter = none :=
      List.all_iff_forall_prop.1 (by decide)
    exact letters character fits
  | numeric escape digits => exact fits

/-- A letter and a number do not begin the same text. -/
theorem letter_ne_numeric {character : Char} {escape : NumericEscape} {digits : List Char}
    (letter : (LiteralItem.letter character).IsDistinct)
    (fits : (LiteralItem.numeric escape digits).Fits) (rest later : List Char) :
    character :: rest ≠ escape.lead ++ digits ++ later := by
  intro same
  obtain ⟨head, behind, split, -, number⟩ := exists_head_of_fits fits
  rw [split] at same
  obtain ⟨rfl, -⟩ := List.cons.inj same
  rcases number with lead | octal
  · exact letter.1 lead
  · rw [letter.2] at octal
    cases octal

/-- Distinct items can be read off from the left. -/
theorem cancels_of_isDistinct {first second : LiteralItem} (isFirst : first.IsDistinct)
    (isSecond : second.IsDistinct) : Cancels written first second := by
  intro firstRest secondRest same
  cases first with
  | ordinary character =>
    cases second with
    | ordinary other =>
      obtain ⟨rfl, rests⟩ := List.cons.inj same
      exact ⟨rfl, rests⟩
    | _ => exact absurd (List.cons.inj same).1 isFirst
  | letter character =>
    cases second with
    | ordinary other => exact absurd (List.cons.inj same).1.symm isSecond
    | letter other =>
      obtain ⟨rfl, rests⟩ := List.cons.inj (List.cons.inj same).2
      exact ⟨rfl, rests⟩
    | numeric escape digits =>
      exact absurd (List.cons.inj same).2 (letter_ne_numeric isFirst isSecond _ _)
  | numeric escape digits =>
    cases second with
    | ordinary other => exact absurd (List.cons.inj same).1.symm isSecond
    | letter other =>
      exact absurd (List.cons.inj same).2.symm (letter_ne_numeric isSecond isFirst _ _)
    | numeric other numbers =>
      have behind : escape.lead ++ digits ++ firstRest = other.lead ++ numbers ++ secondRest :=
        (List.cons.inj same).2
      obtain ⟨head, later, split, kind, -⟩ := exists_head_of_fits isFirst
      obtain ⟨otherHead, otherLater, otherSplit, otherKind, -⟩ := exists_head_of_fits isSecond
      obtain rfl : escape = other := by
        rw [split, otherSplit] at behind
        rw [← kind, ← otherKind, (List.cons.inj behind).1]
      rw [List.append_assoc, List.append_assoc] at behind
      obtain ⟨rfl, rests⟩ := List.append_inj (List.append_cancel_left behind)
        (isFirst.1.trans isSecond.1.symm)
      exact ⟨rfl, rests⟩

/-- A text is made of distinct items in one way only. -/
theorem eq_of_flatMap_written {first second : List LiteralItem}
    (areFirst : ∀ item ∈ first, item.IsDistinct) (areSecond : ∀ item ∈ second, item.IsDistinct)
    (same : first.flatMap written = second.flatMap written) : first = second := by
  have notEmpty (item : LiteralItem) : ¬ item.written <+: [] :=
    fun begins => written_ne_nil item (List.prefix_nil.1 begins)
  exact (flatMap_cancel
    (fun item member other among =>
      cancels_of_isDistinct (areFirst item member) (areSecond other among))
    (fun item _ => notEmpty item) (fun item _ => notEmpty item)
    (congrArg (· ++ []) same)).1

end LiteralItem

/-! ### Values -/

/-- The bytes that an item stands for. -/
def LiteralItem.bytes : LiteralItem → List UInt8
  | .ordinary character => String.utf8EncodeChar character
  | .letter character => String.utf8EncodeChar (escapedLetter character)
  | .numeric escape digits =>
    match escape.range with
    | .byte => [UInt8.ofNat (digitsValue escape.base digits)]
    | .character => String.utf8EncodeChar (Char.ofNat (digitsValue escape.base digits))

/-- Characters between backquotes. -/
def backquoted (content : List Char) : String :=
  String.ofList ('\x60' :: content ++ ['\x60'])

/-- The token is a string literal that stands for the bytes. An interpreted literal is made of
items; a raw one ends at the first backquote, and carriage returns are left out of its value. -/
inductive HasValue (token : String) (value : List UInt8) : Prop
  | interpreted (items : List LiteralItem) (fit : ∀ item ∈ items, item.Fits)
      (isWritten : token = enclose (items.flatMap LiteralItem.written))
      (same : value = items.flatMap LiteralItem.bytes)
  | raw (content : List Char) (closed : '\x60' ∉ content) (isWritten : token = backquoted content)
      (same : value = encode (content.filter (· ≠ '\r')))

theorem backquoted_injective {first second : List Char}
    (same : backquoted first = backquoted second) : first = second := by
  have both := String.ofList_injective same
  exact List.append_cancel_right (List.cons.inj both).2

theorem backquoted_ne_enclose (first second : List Char) : backquoted first ≠ enclose second :=
  fun same => absurd (List.cons.inj (String.ofList_injective same)).1 (by decide)

/-- A literal stands for one value only. -/
theorem HasValue.unique {token : String} {first second : List UInt8}
    (isFirst : HasValue token first) (isSecond : HasValue token second) : first = second := by
  cases isFirst with
  | interpreted items fit isWritten same =>
    cases isSecond with
    | interpreted others otherFit otherWritten otherSame =>
      have texts := enclose_injective (isWritten.symm.trans otherWritten)
      obtain rfl := LiteralItem.eq_of_flatMap_written
        (fun item member => LiteralItem.isDistinct_of_fits (fit item member))
        (fun item member => LiteralItem.isDistinct_of_fits (otherFit item member)) texts
      exact same.trans otherSame.symm
    | raw content _ otherWritten _ =>
      exact absurd (otherWritten.symm.trans isWritten) (backquoted_ne_enclose _ _)
  | raw content _ isWritten same =>
    cases isSecond with
    | interpreted items _ otherWritten _ =>
      exact absurd (isWritten.symm.trans otherWritten) (backquoted_ne_enclose _ _)
    | raw other _ otherWritten otherSame =>
      obtain rfl := backquoted_injective (isWritten.symm.trans otherWritten)
      exact same.trans otherSame.symm

/-- A number below 128 is the only byte of its character. -/
theorem utf8EncodeChar_of_lt {number : Nat} (small : number < 0x80) :
    String.utf8EncodeChar (Char.ofNat number) = [UInt8.ofNat number] := by
  revert number
  decide

/-- An item that stands for a character stands for the bytes of the character. -/
theorem LiteralItem.bytes_of_character? {item : LiteralItem} {character : Char}
    (stands : item.character? = some character) :
    item.bytes = String.utf8EncodeChar character := by
  cases item with
  | ordinary other => exact congrArg String.utf8EncodeChar (Option.some.inj stands)
  | letter other => exact congrArg String.utf8EncodeChar (Option.some.inj stands)
  | numeric escape digits =>
    simp only [LiteralItem.character?] at stands
    simp only [LiteralItem.bytes]
    cases range : escape.range with
    | byte =>
      simp only [range] at stands
      split_ifs at stands with small
      rw [← Option.some.inj stands, utf8EncodeChar_of_lt small]
    | character =>
      simp only [range] at stands
      rw [← Option.some.inj stands]

/-- A literal for characters stands for their bytes. -/
theorem Denotes.hasValue {token : String} {value : List Char} (denotes : Denotes token value) :
    HasValue token (encode value) := by
  obtain ⟨items, fit, isWritten, spelled⟩ := denotes
  refine .interpreted items fit isWritten ?_
  clear fit isWritten
  induction items generalizing value with
  | nil =>
    rw [List.map_nil, eq_comm, List.map_eq_nil_iff] at spelled
    rw [spelled]
    rfl
  | cons item later inductionHypothesis =>
    cases value with
    | nil => cases spelled
    | cons character others =>
      obtain ⟨head, rest⟩ := List.cons.inj spelled
      rw [List.flatMap_cons, item.bytes_of_character? head, ← inductionHypothesis rest]
      rfl

end CurlScribe.Go
