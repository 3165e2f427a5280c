/-
This file proves that the expression for a string tells the string. The expression is a quoted
string, alone or in a call; undoing the escapes between the quotes gives back what was quoted, and
no quote between them could end the literal early. What was quoted is the string itself, without the
one backslash that may stand right before its first dollar. A string that lost its backslash has a
dollar and is not put in a call, so it cannot be taken for another string.
-/

import CurlScribe.Proofs.SelfDelimiting
import Mathlib.Algebra.Ring.Parity
import Mathlib.Data.List.DropRight

namespace CurlScribe.Go

open Text

/-! ### Undoing escapes -/

/-- The text whose escapes these are. A backslash stands before another one or before a quote, and
neither stands alone. -/
def unescapeQuotes : List Char → Option (List Char)
  | [] => some []
  | '\x5c' :: character :: rest =>
    if character = '\x5c' ∨ character = '\x22' then
      (unescapeQuotes rest).map (character :: ·)
    else none
  | character :: rest =>
    if character = '\x5c' ∨ character = '\x22' then none
    else (unescapeQuotes rest).map (character :: ·)

/-- The string that stands between the quotes of a token, with its escapes undone. -/
def unquote (token : String) : Option String :=
  match token.toList with
  | '\x22' :: rest =>
    if rest.getLast? = some '\x22' then (unescapeQuotes rest.dropLast).map String.ofList else none
  | _ => none

theorem unescapeQuotes_quotedCharacter (character : Char) (rest : List Char) :
    unescapeQuotes (quotedCharacter character ++ rest) =
      (unescapeQuotes rest).map (character :: ·) := by
  unfold quotedCharacter
  split_ifs with special
  · exact if_pos special
  · rw [List.singleton_append, unescapeQuotes]
    · exact if_neg special
    · rintro next later rfl -
      exact special (Or.inl rfl)

theorem unescapeQuotes_escapeQuotes (text : List Char) :
    unescapeQuotes (escapeQuotes text) = some text := by
  induction text with
  | nil => rfl
  | cons character rest inductionHypothesis =>
    rw [escapeQuotes, List.flatMap_cons, unescapeQuotes_quotedCharacter, ← escapeQuotes,
      inductionHypothesis]
    rfl

/-- A quoted string stands for the string. -/
theorem unquote_quote (text : String) : unquote (quote text) = some text := by
  have whole : (quote text).toList = '\x22' :: (escapeQuotes text.toList ++ ['\x22']) := by
    rw [quote, enclose, String.toList_ofList]
    rfl
  unfold unquote
  rw [whole]
  simp [unescapeQuotes_escapeQuotes]

/-! ### Escaped quotes -/

/-- A character behind the text is escaped: the number of backslashes right before it is odd. -/
def EscapesNext (text : List Char) : Prop :=
  Odd (text.rtakeWhile fun character => character = '\x5c').length

theorem escapesNext_concat_iff (text : List Char) (character : Char) :
    EscapesNext (text ++ [character]) ↔ character = '\x5c' ∧ ¬ EscapesNext text := by
  unfold EscapesNext
  by_cases backslash : character = '\x5c'
  · rw [List.rtakeWhile_concat_pos _ _ _ (by simp [backslash]), List.length_append,
      List.length_singleton, Nat.odd_add_one]
    simp [backslash]
  · rw [List.rtakeWhile_concat_neg _ _ _ (by simp [backslash])]
    simp [backslash]

/-- Escapes are complete: nothing behind them is escaped. -/
theorem not_escapesNext_escapeQuotes (text : List Char) : ¬ EscapesNext (escapeQuotes text) := by
  induction text using List.reverseRecOn with
  | nil => exact Nat.not_odd_zero
  | append_singleton text character inductionHypothesis =>
    rw [escapeQuotes, List.flatMap_append, List.flatMap_singleton, ← escapeQuotes, quotedCharacter]
    split_ifs with special
    · rw [← List.singleton_append, ← List.append_assoc, escapesNext_concat_iff,
        escapesNext_concat_iff]
      tauto
    · rw [escapesNext_concat_iff]
      tauto

/-- A quote among escapes is the second character of one. -/
theorem exists_of_quote_mem {text before after : List Char}
    (split : escapeQuotes text = before ++ '\x22' :: after) :
    ∃ front, before = escapeQuotes front ++ ['\x5c'] := by
  induction text generalizing before with
  | nil => simp [escapeQuotes] at split
  | cons character rest inductionHypothesis =>
    rw [escapeQuotes, List.flatMap_cons, ← escapeQuotes] at split
    have further (more : List Char) (behind : escapeQuotes rest = more ++ '\x22' :: after) :
        ∃ front, quotedCharacter character ++ more = escapeQuotes front ++ ['\x5c'] := by
      obtain ⟨front, rfl⟩ := inductionHypothesis behind
      exact ⟨character :: front, by simp [escapeQuotes]⟩
    unfold quotedCharacter at split further
    split_ifs at split further with special
    · rcases before with - | ⟨first, - | ⟨second, more⟩⟩
      · exact absurd (List.cons.inj split).1 (by decide)
      · obtain rfl := (List.cons.inj split).1
        exact ⟨[], rfl⟩
      · obtain ⟨rfl, later⟩ := List.cons.inj split
        obtain ⟨rfl, behind⟩ := List.cons.inj later
        exact further more behind
    · rcases before with - | ⟨first, more⟩
      · exact absurd (Or.inr (List.cons.inj split).1) special
      · obtain ⟨rfl, behind⟩ := List.cons.inj split
        exact further more behind

theorem escapesNext_of_quote_mem {text before after : List Char}
    (split : escapeQuotes text = before ++ '\x22' :: after) : EscapesNext before := by
  obtain ⟨front, rfl⟩ := exists_of_quote_mem split
  exact (escapesNext_concat_iff _ _).2 ⟨rfl, not_escapesNext_escapeQuotes front⟩

/-! ### The first dollar -/

/-- The first dollar of a text stands right behind a backslash, between the given parts. -/
def MarksFirstDollar (text before after : String) : Prop :=
  text = before ++ "\x5c$" ++ after ∧ '$' ∉ before.toList

/-- A text has a dollar, and no backslash stands right before the first one. -/
def HasLiveDollar (text : String) : Prop :=
  '$' ∈ text.toList ∧ ∀ before after, ¬ MarksFirstDollar text before after

theorem byteLength_toList (text : String) : byteLength text.toList = text.utf8ByteSize := by
  have bytes (characters : List Char) :
      byteLength characters = (String.ofList characters).utf8ByteSize := by
    induction characters with
    | nil => rfl
    | cons character rest inductionHypothesis =>
      have split : String.ofList (character :: rest) =
          String.singleton character ++ String.ofList rest := by
        rw [← String.toList_inj]
        simp
      rw [split, String.utf8ByteSize_append, String.utf8ByteSize_singleton, ← inductionHypothesis]
      rfl
  rw [bytes, String.ofList_toList]

theorem MarksFirstDollar.splitFirst_eq {text before after : String}
    (marks : MarksFirstDollar text before after) :
    splitFirst '$' text.toList = some (before.toList ++ ['\x5c'], after.toList) := by
  obtain ⟨rfl, absent⟩ := marks
  have whole : (before ++ "\x5c$" ++ after).toList =
      (before.toList ++ ['\x5c']) ++ '$' :: after.toList := by
    simp
  rw [whole]
  refine splitFirst_append (fun member => ?_) _
  rcases List.mem_append.1 member with within | backslash
  · exact absent within
  · exact absurd (List.mem_singleton.1 backslash) (by decide)

/-- A backslash before the first dollar is found at its offset in bytes, and left out. -/
theorem MarksFirstDollar.envReference_eq {text before after : String}
    (marks : MarksFirstDollar text before after) :
    envReference text = .escaped before.utf8ByteSize ∧
      withoutEscape text = before ++ "$" ++ after := by
  unfold envReference withoutEscape
  rw [marks.splitFirst_eq]
  simp only [List.getLast?_concat, List.dropLast_concat, if_true, byteLength_toList, true_and]
  rw [← String.toList_inj]
  simp

theorem exists_marksFirstDollar {text : String} {offset : Nat}
    (escaped : envReference text = .escaped offset) :
    ∃ before after, MarksFirstDollar text before after := by
  have plain : envReference text ≠ .live := escaped ▸ nofun
  rcases plain_cases plain with ⟨absent, -⟩ | ⟨before, after, new, whole, -⟩
  · rw [envReference, (splitFirst_eq_none_iff '$' _).2 absent] at escaped
    cases escaped
  · refine ⟨String.ofList before, String.ofList after, ?_, by simpa using new⟩
    rw [← String.toList_inj, whole]
    simp

/-- The offset of a reference is where the backslash starts, and the dollar starts one byte behind
it; both are places between characters. -/
theorem MarksFirstDollar.isValid {text before after : String}
    (marks : MarksFirstDollar text before after) :
    String.Pos.Raw.IsValid text ⟨before.utf8ByteSize⟩ ∧
      String.Pos.Raw.IsValid text ⟨before.utf8ByteSize + 1⟩ := by
  obtain ⟨rfl, -⟩ := marks
  constructor
  · exact String.Pos.Raw.isValid_iff_exists_append.2
      ⟨before, "\x5c$" ++ after, String.append_assoc .., rfl⟩
  · refine String.Pos.Raw.isValid_iff_exists_append.2 ⟨before ++ "\x5c", "$" ++ after, ?_, ?_⟩
    · rw [← String.toList_inj]
      simp
    · rw [String.rawEndPos, String.utf8ByteSize_append]
      rfl

/-! ### Expressions for strings -/

/-- A literal is quoted for a text: the backslash right before the first dollar is left out, if
there is one, and nothing else. -/
def IsQuotedFor (literal text : String) : Prop :=
  (∃ before after, MarksFirstDollar text before after ∧ literal = before ++ "$" ++ after) ∨
    ((∀ before after, ¬ MarksFirstDollar text before after) ∧ literal = text)

theorem isQuotedFor_withoutEscape (text : String) : IsQuotedFor (withoutEscape text) text := by
  by_cases marked : ∃ before after, MarksFirstDollar text before after
  · obtain ⟨before, after, marks⟩ := marked
    exact Or.inl ⟨before, after, marks, marks.envReference_eq.2⟩
  · refine Or.inr ⟨fun before after marks => marked ⟨before, after, marks⟩, ?_⟩
    cases reference : envReference text with
    | absent => exact withoutEscape_of_absent reference
    | escaped offset => exact absurd (exists_marksFirstDollar reference) marked
    | live => exact withoutEscape_of_live reference

theorem envReference_eq_live_iff (text : String) :
    envReference text = .live ↔ HasLiveDollar text := by
  constructor
  · intro live
    refine ⟨?_, fun before after marks => ?_⟩
    · by_contra absent
      rw [envReference, (splitFirst_eq_none_iff '$' _).2 absent] at live
      cases live
    · rw [marks.envReference_eq.1] at live
      cases live
  · rintro ⟨member, unmarked⟩
    cases reference : envReference text with
    | absent =>
      unfold envReference at reference
      split at reference
      · rename_i missing
        exact absurd member ((splitFirst_eq_none_iff '$' _).1 missing)
      · split_ifs at reference
    | escaped offset =>
      obtain ⟨before, after, marks⟩ := exists_marksFirstDollar reference
      exact absurd marks (unmarked before after)
    | live => rfl

theorem text_ofString (text : String) :
    (Expression.ofString text).text =
      if envReference text = .live then "os.ExpandEnv(" ++ quote (withoutEscape text) ++ ")"
      else quote (withoutEscape text) := by
  have written := stringText_eq text
  rw [← String.toList_inj]
  split_ifs at written ⊢ with live
  · rw [withoutEscape_of_live live, ← stringText, written]
    simp
  · exact written

/-- An expression holds the literal that is quoted for a text, in a call that expands variables if
the first dollar of the text counts. Undoing the escapes gives the literal, and each quote inside is
escaped. -/
structure IsExpressionFor (text literal expression : String) : Prop where
  quoted : IsQuotedFor literal text
  form : (HasLiveDollar text ∧ expression = "os.ExpandEnv(" ++ quote literal ++ ")") ∨
    (¬ HasLiveDollar text ∧ expression = quote literal)
  undone : unquote (quote literal) = some literal
  closed : ∃ inside, quote literal = enclose inside ∧
    ∀ before after, inside = before ++ '\x22' :: after → EscapesNext before

theorem isExpressionFor_ofString (text : String) :
    IsExpressionFor text (withoutEscape text) (Expression.ofString text).text where
  quoted := isQuotedFor_withoutEscape text
  form := by
    rw [← envReference_eq_live_iff, text_ofString]
    by_cases live : envReference text = .live
    · exact Or.inl ⟨live, if_pos live⟩
    · exact Or.inr ⟨live, if_neg live⟩
  undone := unquote_quote _
  closed := ⟨_, rfl, fun _ _ => escapesNext_of_quote_mem⟩

/-- The expression for a text tells the text: it is the text quoted, but for the backslash before
the first dollar, and no other text has the same expression. The reference of the text tells at which
byte that backslash stands. -/
theorem ofString_tells (text : String) :
    (∃ literal, IsExpressionFor text literal (Expression.ofString text).text) ∧
      (∀ other, (Expression.ofString other).text = (Expression.ofString text).text →
        other = text) ∧
      ∀ offset, envReference text = .escaped offset ↔
        ∃ before after, MarksFirstDollar text before after ∧ offset = before.utf8ByteSize ∧
          String.Pos.Raw.IsValid text ⟨offset⟩ ∧ String.Pos.Raw.IsValid text ⟨offset + 1⟩ := by
  refine ⟨⟨_, isExpressionFor_ofString text⟩, fun other same => ?_, fun offset => ?_⟩
  · have characters : stringText other ++ [] = stringText text ++ [] :=
      congrArg (fun written => written.toList ++ []) same
    exact (selfDelimiting_stringText other text characters).1
  · constructor
    · intro escaped
      obtain ⟨before, after, marks⟩ := exists_marksFirstDollar escaped
      obtain rfl : before.utf8ByteSize = offset := by
        rw [marks.envReference_eq.1] at escaped
        exact EnvReference.escaped.inj escaped
      exact ⟨before, after, marks, rfl, marks.isValid⟩
    · rintro ⟨before, after, marks, rfl, -⟩
      exact marks.envReference_eq.1

/-- Only the first of two marked dollars loses its backslash, and its offset counts bytes. -/
example : (Expression.ofString "\u00e9\x5c$a\x5c$b\x22").text =
      "\x22\u00e9$a\x5c\x5c$b\x5c\x22\x22" ∧
    envReference "\u00e9\x5c$a\x5c$b\x22" = .escaped 2 := by
  decide +kernel

end CurlScribe.Go
