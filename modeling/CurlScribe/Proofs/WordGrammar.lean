/-
This file gives the grammar of a word of a command line and proves that the reader of words
accepts exactly that grammar. A word is a list of segments: plain characters, parts in single
or double quotes, escapes, and parts behind a dollar in single quotes. Each segment has a
written form and a meaning, and both are put together by appending.

Two pairs of neighbours are not what they look like. Single quotes behind a plain dollar are
a part behind a dollar, and an escaped carriage return before a line feed is an escaped line
break. The grammar excludes these pairs; without them, what is written determines how it is
read, so the reader can be compared with it segment by segment.
-/

import CurlScribe.Command.Word
import Mathlib.Data.List.Chain

namespace CurlScribe

open Text

/-! ### Pieces of text -/

/-- Pieces fit before a text if each of them fits before what is written behind it. -/
def FitBefore {Piece : Type} (written : Piece → List Char) (fits : Piece → List Char → Prop) :
    List Piece → List Char → Prop
  | [], _ => True
  | piece :: later, text =>
    fits piece (later.flatMap written ++ text) ∧ FitBefore written fits later text

/-! ### Escapes -/

/-- What a backslash stands before: a character, or a carriage return with its line feed. -/
inductive Escape where
  | before (character : Char)
  | lineBreak
  deriving DecidableEq, Repr

namespace Escape

/-- The characters behind the backslash. -/
def behind : Escape → List Char
  | .before character => [character]
  | .lineBreak => ['\r', '\n']

/-- An escaped carriage return directly before a line feed is an escaped line break. -/
def Fits : Escape → List Char → Prop
  | .before character, text => ¬ (character = '\r' ∧ text.head? = some '\n')
  | .lineBreak, _ => True

/-- What an escape stands for, inside or outside double quotes. -/
def meaning (quoted : Bool) : Escape → List Char
  | .lineBreak => []
  | .before '\n' => []
  | .before '$' => ['\x5c', '$']
  | .before '\x22' => ['\x22']
  | .before '\x5c' => ['\x5c']
  | .before '\x60' => ['\x60']
  | .before character => if quoted then ['\x5c', character] else [character]

theorem meaning_before (quoted : Bool) (character : Char) :
    (Escape.before character).meaning quoted = escapedText quoted character := by
  unfold meaning escapedText
  split <;> simp_all

end Escape

/-- Behind a backslash the reader goes on with what the escape stands for. -/
theorem readWord_escaped (mark : Option Char) (quoted : Bool) (escape : Escape)
    (text : List Char) (fits : escape.Fits text) :
    readWord mark (.escaped quoted) (escape.behind ++ text) =
      (readWord mark (.around quoted) text).precede (escape.meaning quoted) := by
  cases escape with
  | before character =>
    rw [Escape.meaning_before]
    show readWord mark (.escaped quoted) (character :: text) = _
    rw [readWord, if_neg fits]
  | lineBreak =>
    show readWord mark (.escaped quoted) ('\r' :: '\n' :: text) = _
    rw [readWord, if_pos ⟨rfl, rfl⟩, readWord, if_neg (by simp)]
    rfl

/-- A text that closes behind a backslash starts with an escape. -/
theorem exists_escape {mark : Option Char} {quoted : Bool} {text : List Char}
    (closed : (readWord mark (.escaped quoted) text).unclosed = none) :
    ∃ (escape : Escape) (later : List Char), text = escape.behind ++ later ∧ escape.Fits later := by
  cases text with
  | nil => simp [readWord, Quoting.unclosed] at closed
  | cons character rest =>
    by_cases lineBreak : character = '\r' ∧ rest.head? = some '\n'
    · obtain ⟨rfl, next⟩ := lineBreak
      obtain ⟨later, rfl⟩ := List.head?_eq_some_iff.1 next
      exact ⟨.lineBreak, later, rfl, trivial⟩
    · exact ⟨.before character, rest, rfl, lineBreak⟩

/-! ### Double quotes -/

/-- What stands between double quotes: ordinary characters and escapes. -/
inductive QuotedItem where
  | ordinary (character : Char)
  | escaped (escape : Escape)
  deriving DecidableEq, Repr

namespace QuotedItem

/-- An item as it is written. -/
def written : QuotedItem → List Char
  | .ordinary character => [character]
  | .escaped escape => '\x5c' :: escape.behind

/-- An ordinary character is neither a double quote nor a backslash. -/
def Fits : QuotedItem → List Char → Prop
  | .ordinary character, _ => character ≠ '\x22' ∧ character ≠ '\x5c'
  | .escaped escape, text => escape.Fits text

/-- What an item stands for. -/
def meaning : QuotedItem → List Char
  | .ordinary character => [character]
  | .escaped escape => escape.meaning true

theorem written_ne_nil (item : QuotedItem) : item.written ≠ [] := by
  cases item <;> simp [written]

end QuotedItem

/-- One item between double quotes. -/
theorem readWord_item (mark : Option Char) (item : QuotedItem) (text : List Char)
    (fits : item.Fits text) :
    readWord mark .double (item.written ++ text) =
      (readWord mark .double text).precede item.meaning := by
  cases item with
  | ordinary character =>
    show readWord mark .double (character :: text) = _
    rw [readWord, if_neg fits.1, if_neg fits.2]
    rfl
  | escaped escape =>
    show readWord mark .double ('\x5c' :: (escape.behind ++ text)) = _
    rw [readWord, if_neg (by decide), if_pos rfl, readWord_escaped mark true escape text fits]
    rfl

theorem Word.precede_precede (first second : List Char) (word : Word) :
    (word.precede second).precede first = word.precede (first ++ second) := by
  simp [Word.precede]

/-- Between double quotes the items are read one after another, up to the closing quote. -/
theorem readWord_items (mark : Option Char) (items : List QuotedItem) (text : List Char)
    (fits : FitBefore QuotedItem.written QuotedItem.Fits items ('\x22' :: text)) :
    readWord mark .double (items.flatMap QuotedItem.written ++ '\x22' :: text) =
      (readWord mark .plain text).precede (items.flatMap QuotedItem.meaning) := by
  induction items with
  | nil =>
    show readWord mark .double ('\x22' :: text) = readWord mark .plain text
    rw [readWord, if_pos rfl]
  | cons item later inductionHypothesis =>
    rw [List.flatMap_cons, List.append_assoc, readWord_item mark item _ fits.1,
      inductionHypothesis fits.2, Word.precede_precede, List.flatMap_cons]

/-- A text that closes between double quotes is a list of items and a closing quote. -/
theorem exists_items {mark : Option Char} {text : List Char}
    (closed : (readWord mark .double text).unclosed = none) :
    ∃ (items : List QuotedItem) (later : List Char),
      text = items.flatMap QuotedItem.written ++ '\x22' :: later ∧
        FitBefore QuotedItem.written QuotedItem.Fits items ('\x22' :: later) := by
  induction size : text.length using Nat.strongRecOn generalizing text with
  | ind bound inductionHypothesis =>
    -- One item in front of a text that closes, whatever the item is.
    have extend : ∀ (item : QuotedItem) (rest : List Char), text = item.written ++ rest →
        item.Fits rest → ∃ (items : List QuotedItem) (later : List Char),
          text = items.flatMap QuotedItem.written ++ '\x22' :: later ∧
            FitBefore QuotedItem.written QuotedItem.Fits items ('\x22' :: later) := by
      rintro item rest rfl fits
      rw [readWord_item mark item rest fits, Word.unclosed_precede] at closed
      have shorter : rest.length < bound := by
        have := List.length_pos_iff.2 item.written_ne_nil
        simp only [List.length_append] at size
        omega
      obtain ⟨items, later, rfl, itemsFit⟩ := inductionHypothesis _ shorter closed rfl
      exact ⟨item :: items, later, by rw [List.flatMap_cons, List.append_assoc], fits, itemsFit⟩
    cases text with
    | nil => simp [readWord, Quoting.unclosed] at closed
    | cons character rest =>
      by_cases closing : character = '\x22'
      · exact ⟨[], rest, by rw [closing]; rfl, trivial⟩
      by_cases backslash : character = '\x5c'
      · subst backslash
        have inside : (readWord mark (.escaped true) rest).unclosed = none := by
          rwa [readWord, if_neg (by decide), if_pos rfl] at closed
        obtain ⟨escape, later, rfl, fits⟩ := exists_escape inside
        exact extend (.escaped escape) later rfl fits
      · exact extend (.ordinary character) rest rfl ⟨closing, backslash⟩

/-! ### Verbatim quotes -/

/-- The two kinds of quotes between which everything stands as it is. -/
def Quoting.Verbatim (quoting : Quoting) : Prop :=
  quoting = .single ∨ quoting = .dollar

/-- Between verbatim quotes the text up to the next single quote is read as it stands. -/
theorem readWord_verbatim (mark : Option Char) {quoting : Quoting} (verbatim : quoting.Verbatim)
    (body text : List Char) (absent : '\x27' ∉ body) :
    readWord mark quoting (body ++ '\x27' :: text) =
      (readWord mark .plain text).precede body := by
  induction body with
  | nil =>
    show readWord mark quoting ('\x27' :: text) = readWord mark .plain text
    rcases verbatim with rfl | rfl <;> rw [readWord, if_pos rfl]
  | cons character rest inductionHypothesis =>
    have different := List.ne_of_not_mem_cons absent
    have later := inductionHypothesis (List.not_mem_of_not_mem_cons absent)
    show readWord mark quoting (character :: (rest ++ '\x27' :: text)) = _
    rcases verbatim with rfl | rfl <;>
      rw [readWord, if_neg different.symm, later, Word.precede_precede, List.singleton_append]

/-- A text that closes between verbatim quotes holds a single quote. -/
theorem exists_verbatim {mark : Option Char} {quoting : Quoting} (verbatim : quoting.Verbatim)
    {text : List Char} (closed : (readWord mark quoting text).unclosed = none) :
    ∃ body later, text = body ++ '\x27' :: later ∧ '\x27' ∉ body := by
  induction text with
  | nil => rcases verbatim with rfl | rfl <;> simp [readWord, Quoting.unclosed] at closed
  | cons character rest inductionHypothesis =>
    by_cases closing : character = '\x27'
    · exact ⟨[], rest, by rw [closing]; rfl, List.not_mem_nil⟩
    · have inside : (readWord mark quoting rest).unclosed = none := by
        rcases verbatim with rfl | rfl <;>
          rwa [readWord, if_neg closing, Word.unclosed_precede] at closed
      obtain ⟨body, later, rfl, absent⟩ := inductionHypothesis inside
      refine ⟨character :: body, later, rfl, ?_⟩
      exact List.not_mem_cons_of_ne_of_not_mem (Ne.symm closing) absent

/-! ### Segments -/

/-- A character that stands for itself in plain text: no separator, quote or backslash. -/
def IsLiteral (character : Char) : Prop :=
  isSeparator character = false ∧ character ≠ '\x27' ∧ character ≠ '\x22' ∧ character ≠ '\x5c'

instance (character : Char) : Decidable (IsLiteral character) :=
  inferInstanceAs (Decidable (_ ∧ _))

/-- A segment of a word: a plain character, a part in single quotes, a part in double quotes, an
escape, or a part behind a dollar in single quotes. -/
inductive Segment where
  | plain (character : Char)
  | single (body : List Char)
  | double (items : List QuotedItem)
  | escaped (escape : Escape)
  | dollar (body : List Char)
  deriving DecidableEq, Repr

namespace Segment

/-- A segment as it is written. -/
def written : Segment → List Char
  | .plain character => [character]
  | .single body => '\x27' :: (body ++ ['\x27'])
  | .double items => '\x22' :: (items.flatMap QuotedItem.written ++ ['\x22'])
  | .escaped escape => '\x5c' :: escape.behind
  | .dollar body => '$' :: '\x27' :: (body ++ ['\x27'])

/-- What a segment stands for. -/
def meaning : Segment → List Char
  | .plain character => [character]
  | .single body => body
  | .double items => items.flatMap QuotedItem.meaning
  | .escaped escape => escape.meaning false
  | .dollar body => body

/-- A plain character stands for itself, and what stands in single quotes holds none. -/
def Fits : Segment → List Char → Prop
  | .plain character, _ => IsLiteral character
  | .single body, _ => '\x27' ∉ body
  | .double items, text => FitBefore QuotedItem.written QuotedItem.Fits items ('\x22' :: text)
  | .escaped escape, text => escape.Fits text
  | .dollar body, _ => '\x27' ∉ body

/-- The characters of a segment that are read in plain text. -/
def opening : Segment → List Char
  | .plain character => [character]
  | .single _ => ['\x27']
  | .double _ => ['\x22']
  | .escaped _ => ['\x5c']
  | .dollar _ => ['$', '\x27']

/-- Single quotes do not directly follow a plain dollar. -/
def MayMeet : Segment → Segment → Prop
  | .plain character, .single _ => character ≠ '$'
  | _, _ => True

theorem written_ne_nil (segment : Segment) : segment.written ≠ [] := by
  cases segment <;> simp [written]

end Segment

/-! ### Segments in front of a text -/

section Openings

variable {mark : Option Char} {text : List Char}

theorem readWord_literalCharacter {character : Char} (literal : IsLiteral character)
    (unmarked : mark ≠ some character) (alone : character = '$' → ¬ opensQuote mark text) :
    readWord mark .plain (character :: text) =
      (readWord mark .plain text).precede [character] := by
  obtain ⟨separated, single, double, backslash⟩ := literal
  have plain : ¬ (character = '$' ∧ opensQuote mark text) := fun both => alone both.1 both.2
  rw [readWord, if_neg (by simp [separated]), if_neg unmarked, if_neg single, if_neg double,
    if_neg backslash, if_neg plain]

theorem readWord_singleQuote (unmarked : mark ≠ some '\x27') :
    readWord mark .plain ('\x27' :: text) = readWord mark .single text := by
  rw [readWord, if_neg (by decide), if_neg unmarked, if_pos rfl]

theorem readWord_doubleQuote (unmarked : mark ≠ some '\x22') :
    readWord mark .plain ('\x22' :: text) = readWord mark .double text := by
  rw [readWord, if_neg (by decide), if_neg unmarked, if_neg (by decide), if_pos rfl]

theorem readWord_backslash (unmarked : mark ≠ some '\x5c') :
    readWord mark .plain ('\x5c' :: text) = readWord mark (.escaped false) text := by
  rw [readWord, if_neg (by decide), if_neg unmarked, if_neg (by decide), if_neg (by decide),
    if_pos rfl]

/-- A dollar that opens quotes takes the quote with it. -/
theorem readWord_dollarQuote (unmarked : mark ≠ some '$') (quote : mark ≠ some '\x27') :
    readWord mark .plain ('$' :: '\x27' :: text) = readWord mark .dollar text := by
  have opens : opensQuote mark ('\x27' :: text) := ⟨rfl, quote⟩
  rw [readWord, if_neg (by decide), if_neg unmarked, if_neg (by decide), if_neg (by decide),
    if_neg (by decide), if_pos ⟨rfl, opens⟩, readWord]

end Openings

/-- One segment in front of a text. A plain dollar in front of a quote would be read together with
it. -/
theorem readWord_segment (mark : Option Char) (segment : Segment) (text : List Char)
    (fits : segment.Fits text) (unmarked : ∀ stop ∈ mark, stop ∉ segment.opening)
    (apart : segment = .plain '$' → ¬ opensQuote mark text) :
    readWord mark .plain (segment.written ++ text) =
      (readWord mark .plain text).precede segment.meaning := by
  have inside : ∀ character ∈ segment.opening, mark ≠ some character :=
    fun character member same => unmarked character same member
  cases segment with
  | plain character =>
    refine readWord_literalCharacter fits (inside _ List.mem_cons_self) ?_
    rintro rfl
    exact apart rfl
  | single body =>
    show readWord mark .plain ('\x27' :: ((body ++ ['\x27']) ++ text)) = _
    rw [readWord_singleQuote (inside _ List.mem_cons_self), List.append_assoc]
    exact readWord_verbatim mark (Or.inl rfl) body text fits
  | double items =>
    show readWord mark .plain
      ('\x22' :: ((items.flatMap QuotedItem.written ++ ['\x22']) ++ text)) = _
    rw [readWord_doubleQuote (inside _ List.mem_cons_self), List.append_assoc]
    exact readWord_items mark items text fits
  | escaped escape =>
    show readWord mark .plain ('\x5c' :: (escape.behind ++ text)) = _
    rw [readWord_backslash (inside _ List.mem_cons_self)]
    exact readWord_escaped mark false escape text fits
  | dollar body =>
    have quote := inside '\x27' (List.mem_cons_of_mem _ List.mem_cons_self)
    show readWord mark .plain ('$' :: '\x27' :: ((body ++ ['\x27']) ++ text)) = _
    rw [readWord_dollarQuote (inside _ List.mem_cons_self) quote, List.append_assoc]
    exact readWord_verbatim mark (Or.inr rfl) body text fits

/-- A text that closes starts with a segment, unless it stands at the end of its word. -/
theorem exists_segment {mark : Option Char} {character : Char} {rest : List Char}
    (closed : (readWord mark .plain (character :: rest)).unclosed = none)
    (inside : isSeparator character = false) (unmarked : mark ≠ some character) :
    ∃ (segment : Segment) (later : List Char), character :: rest = segment.written ++ later ∧
      segment.Fits later ∧ (∀ stop ∈ mark, stop ∉ segment.opening) ∧
      (segment = .plain '$' → ¬ opensQuote mark later) := by
  -- The mark is not the character, so a segment that opens with nothing else is unmarked.
  have first : ∀ stop ∈ mark, stop ∉ [character] := by
    intro stop member same
    rw [List.mem_singleton.1 same] at member
    exact unmarked member
  by_cases single : character = '\x27'
  · subst single
    rw [readWord_singleQuote unmarked] at closed
    obtain ⟨body, later, rfl, absent⟩ := exists_verbatim (Or.inl rfl) closed
    exact ⟨.single body, later, by simp [Segment.written], absent, first, nofun⟩
  by_cases double : character = '\x22'
  · subst double
    rw [readWord_doubleQuote unmarked] at closed
    obtain ⟨items, later, rfl, fits⟩ := exists_items closed
    exact ⟨.double items, later, by simp [Segment.written], fits, first, nofun⟩
  by_cases backslash : character = '\x5c'
  · subst backslash
    rw [readWord_backslash unmarked] at closed
    obtain ⟨escape, later, rfl, fits⟩ := exists_escape closed
    exact ⟨.escaped escape, later, rfl, fits, first, nofun⟩
  by_cases dollar : character = '$' ∧ opensQuote mark rest
  · obtain ⟨rfl, next, quote⟩ := dollar
    obtain ⟨behind, rfl⟩ := List.head?_eq_some_iff.1 next
    rw [readWord_dollarQuote unmarked quote] at closed
    obtain ⟨body, later, rfl, absent⟩ := exists_verbatim (Or.inr rfl) closed
    refine ⟨.dollar body, later, by simp [Segment.written], absent, ?_, nofun⟩
    intro stop member
    simp only [Segment.opening, List.mem_cons, List.not_mem_nil, or_false, not_or]
    constructor
    · rintro rfl
      exact unmarked member
    · rintro rfl
      exact quote member
  · refine ⟨.plain character, rest, rfl, ⟨inside, single, double, backslash⟩, first, ?_⟩
    intro same opens
    exact dollar ⟨Segment.plain.inj same, opens⟩

/-! ### Words -/

/-- Segments make up a word in front of a text: each of them fits before what is written behind it,
no single quotes directly follow a plain dollar, and none of them opens with the mark. -/
structure Spells (mark : Option Char) (segments : List Segment) (text : List Char) : Prop where
  fits : FitBefore Segment.written Segment.Fits segments text
  apart : segments.IsChain Segment.MayMeet
  unmarked : ∀ segment ∈ segments, ∀ stop ∈ mark, stop ∉ segment.opening

/-- A word stops at a text, and reading goes on with the second text: at the end, before a
separator, or at the mark, which is taken away. -/
inductive Stops (mark : Option Char) : List Char → List Char → Prop
  | nothing : Stops mark [] []
  | separator {character : Char} {rest : List Char} (separated : isSeparator character = true) :
      Stops mark (character :: rest) (character :: rest)
  | mark {character : Char} {rest : List Char} (inside : isSeparator character = false)
      (marked : mark = some character) : Stops mark (character :: rest) rest

/-- The end of a text and a separator stop a word whatever the mark is. -/
theorem Stops.withMark {text rest : List Char} (stops : Stops none text rest)
    (mark : Option Char) : Stops mark text rest := by
  cases stops with
  | nothing => exact .nothing
  | separator separated => exact .separator separated
  | mark inside marked => cases marked

theorem readWord_of_stops {mark : Option Char} {text rest : List Char}
    (stops : Stops mark text rest) : readWord mark .plain text = ⟨[], rest, none⟩ := by
  cases stops with
  | nothing => rfl
  | separator separated => rw [readWord, if_pos separated]
  | mark inside marked => rw [readWord, if_neg (by simp [inside]), if_pos marked]

/-- Where a word stops there is no quote to open, since a quote that stops a word is the mark. -/
theorem not_opensQuote_of_stops {mark : Option Char} {text rest : List Char}
    (stops : Stops mark text rest) : ¬ opensQuote mark text := by
  rintro ⟨next, unmarked⟩
  cases stops with
  | nothing => cases next
  | separator separated =>
    rw [Option.some_inj.1 next] at separated
    exact absurd separated (by decide)
  | mark inside marked => exact unmarked (marked.trans next)

/-- A quote right behind a plain dollar opens a part in single quotes of its own, which the word
does not have there. -/
theorem not_opensQuote_of_spells {mark : Option Char} {segments : List Segment}
    {text rest : List Char} (spells : Spells mark (.plain '$' :: segments) text)
    (stops : Stops mark text rest) :
    ¬ opensQuote mark (segments.flatMap Segment.written ++ text) := by
  cases segments with
  | nil => exact not_opensQuote_of_stops stops
  | cons next later =>
    rintro ⟨quote, unmarked⟩
    have meets : Segment.MayMeet (.plain '$') next := (List.isChain_cons_cons.1 spells.apart).1
    cases next with
    | plain character =>
      have same : character = '\x27' := Option.some_inj.1 quote
      exact spells.fits.2.1.2.1 same
    | single body => exact meets rfl
    | double items => exact absurd quote (by simp [Segment.written])
    | escaped escape => exact absurd quote (by simp [Segment.written])
    | dollar body => exact absurd quote (by simp [Segment.written])

/-- The reader gives the meaning of the segments and goes on where the word stops. -/
theorem readWord_of_spells {mark : Option Char} {segments : List Segment} {text rest : List Char}
    (spells : Spells mark segments text) (stops : Stops mark text rest) :
    readWord mark .plain (segments.flatMap Segment.written ++ text) =
      ⟨segments.flatMap Segment.meaning, rest, none⟩ := by
  induction segments with
  | nil => exact readWord_of_stops stops
  | cons segment later inductionHypothesis =>
    have behind : Spells mark later text :=
      ⟨spells.fits.2, spells.apart.tail,
        fun next member => spells.unmarked next (List.mem_cons_of_mem _ member)⟩
    have apart : segment = .plain '$' →
        ¬ opensQuote mark (later.flatMap Segment.written ++ text) := by
      rintro rfl
      exact not_opensQuote_of_spells spells stops
    rw [List.flatMap_cons, List.append_assoc,
      readWord_segment mark segment _ spells.fits.1
        (spells.unmarked segment List.mem_cons_self) apart,
      inductionHypothesis behind]
    rfl

theorem spells_literal {mark : Option Char} {word : List Char}
    (literal : ∀ character ∈ word, IsLiteral character)
    (unmarked : ∀ character ∈ word, mark ≠ some character) (text : List Char) :
    Spells mark (word.map .plain) text := by
  induction word with
  | nil => exact ⟨trivial, .nil, nofun⟩
  | cons character later inductionHypothesis =>
    obtain ⟨fits, apart, behind⟩ := inductionHypothesis
      (fun other member => literal other (List.mem_cons_of_mem _ member))
      (fun other member => unmarked other (List.mem_cons_of_mem _ member))
    refine ⟨⟨literal character List.mem_cons_self, fits⟩, List.isChain_cons.2 ⟨?_, apart⟩, ?_⟩
    · intro next member
      obtain ⟨first, -, rfl⟩ := List.mem_map.1 (List.mem_of_mem_head? member)
      trivial
    · intro segment member stop marked opens
      rcases List.mem_cons.1 member with rfl | inLater
      · rw [List.mem_singleton.1 opens] at marked
        exact unmarked character List.mem_cons_self marked
      · exact behind segment inLater stop marked opens

/-- Characters that stand for themselves are a word, if the mark is not among them. -/
theorem readWord_literal {mark : Option Char} {word text rest : List Char}
    (literal : ∀ character ∈ word, IsLiteral character)
    (unmarked : ∀ character ∈ word, mark ≠ some character) (stops : Stops mark text rest) :
    readWord mark .plain (word ++ text) = ⟨word, rest, none⟩ := by
  have read := readWord_of_spells (spells_literal literal unmarked text) stops
  have written : (word.map Segment.plain).flatMap Segment.written = word := by
    rw [List.flatMap_map]
    exact List.flatMap_singleton' word
  have meaning : (word.map Segment.plain).flatMap Segment.meaning = word := by
    rw [List.flatMap_map]
    exact List.flatMap_singleton' word
  rwa [written, meaning] at read

/-- A segment in front of a word makes a longer word, unless it is a plain dollar and the word
starts with single quotes. -/
theorem spells_cons {mark : Option Char} {segment : Segment} {segments : List Segment}
    {text : List Char} (fits : segment.Fits (segments.flatMap Segment.written ++ text))
    (unmarked : ∀ stop ∈ mark, stop ∉ segment.opening)
    (apart : segment = .plain '$' →
      ¬ opensQuote mark (segments.flatMap Segment.written ++ text))
    (spells : Spells mark segments text) : Spells mark (segment :: segments) text := by
  refine ⟨⟨fits, spells.fits⟩, List.isChain_cons.2 ⟨?_, spells.apart⟩, ?_⟩
  · intro next member
    obtain ⟨later, rfl⟩ := List.head?_eq_some_iff.1 member
    cases segment with
    | plain character =>
      cases next with
      | single body =>
        rintro rfl
        refine apart rfl ⟨rfl, fun marked => ?_⟩
        exact spells.unmarked _ List.mem_cons_self _ marked List.mem_cons_self
      | _ => trivial
    | _ => trivial
  · intro next member
    rcases List.mem_cons.1 member with rfl | inLater
    · exact unmarked
    · exact spells.unmarked next inLater

/-- Every text that closes is a word up to where it stops. -/
theorem exists_spells {mark : Option Char} {text : List Char}
    (closed : (readWord mark .plain text).unclosed = none) :
    ∃ segments tail rest, text = segments.flatMap Segment.written ++ tail ∧
      Spells mark segments tail ∧ Stops mark tail rest := by
  induction size : text.length using Nat.strongRecOn generalizing text with
  | ind bound inductionHypothesis =>
    have stop : ∀ rest, Stops mark text rest →
        ∃ segments tail rest, text = segments.flatMap Segment.written ++ tail ∧
          Spells mark segments tail ∧ Stops mark tail rest :=
      fun rest stops => ⟨[], text, rest, rfl, ⟨trivial, .nil, nofun⟩, stops⟩
    cases text with
    | nil => exact stop [] .nothing
    | cons character rest =>
      cases separated : isSeparator character with
      | true => exact stop _ (.separator separated)
      | false =>
        by_cases marked : mark = some character
        · exact stop rest (.mark separated marked)
        · obtain ⟨segment, later, equal, fits, unmarked, apart⟩ :=
            exists_segment closed separated marked
          rw [equal, readWord_segment mark segment later fits unmarked apart,
            Word.unclosed_precede] at closed
          have shorter : later.length < bound := by
            have := List.length_pos_iff.2 segment.written_ne_nil
            rw [equal, List.length_append] at size
            omega
          obtain ⟨segments, tail, rest, rfl, spells, stops⟩ :=
            inductionHypothesis _ shorter closed rfl
          refine ⟨segment :: segments, tail, rest, ?_, spells_cons fits unmarked apart spells,
            stops⟩
          rw [equal, List.flatMap_cons, List.append_assoc]

/-- The reader accepts exactly the words of the grammar: it reads a text without leaving anything
open if and only if the text starts with the written form of a word, and then it gives the meaning
of the word and stops where the word does. Each text of a word has one meaning, whatever segments
it is taken apart into. -/
theorem readWord_eq_iff_spells (mark : Option Char) (text word rest : List Char) :
    readWord mark .plain text = ⟨word, rest, none⟩ ↔
      ∃ segments tail, text = segments.flatMap Segment.written ++ tail ∧
        Spells mark segments tail ∧ Stops mark tail rest ∧
        segments.flatMap Segment.meaning = word := by
  constructor
  · intro read
    obtain ⟨segments, tail, last, rfl, spells, stops⟩ := exists_spells (congrArg Word.unclosed read)
    have both := (readWord_of_spells spells stops).symm.trans read
    obtain ⟨meaning, same, -⟩ := Word.mk.inj both
    exact ⟨segments, tail, rfl, spells, same ▸ stops, meaning⟩
  · rintro ⟨segments, tail, rfl, spells, stops, rfl⟩
    exact readWord_of_spells spells stops

end CurlScribe
