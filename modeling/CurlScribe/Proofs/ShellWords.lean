/-
This file proves that quoting a word is undone by reading it. Whatever a word consists of,
the reader gets it back from its quoted form and stops right behind it, so a line of quoted
words can be taken apart again at the spaces between them. The line starts and ends with a
character that is neither a blank nor a prompt, so nothing is removed from it first.

What quoting does not keep is the first character: a word that needs quotes starts with one.
-/

import CurlScribe.CommandLine.Quoting
import CurlScribe.Proofs.Scanning
import CurlScribe.Proofs.WordGrammar

namespace CurlScribe

open Text

/-! ### Plain characters -/

theorem range_of_isAlphanum {character : Char} (letter : character.isAlphanum = true) :
    (65 ≤ character.toNat ∧ character.toNat ≤ 90 ∨
      97 ≤ character.toNat ∧ character.toNat ≤ 122) ∨
      48 ≤ character.toNat ∧ character.toNat ≤ 57 := by
  delta Char.isAlphanum Char.isAlpha Char.isUpper Char.isLower Char.isDigit at letter
  simp only [Bool.or_eq_true, Bool.and_eq_true, decide_eq_true_eq, ge_iff_le,
    UInt32.le_iff_toNat_le] at letter
  exact letter

theorem isBlank_of_plain {character : Char} (plain : isPlainCharacter character = true) :
    isBlank character = false := by
  unfold isPlainCharacter at plain
  rw [Bool.or_eq_true] at plain
  rcases plain with letter | sign
  · have range := range_of_isAlphanum letter
    simp only [isBlank, Bool.or_eq_false_iff, Bool.and_eq_false_iff, decide_eq_false_iff_not,
      beq_eq_false_iff_ne]
    omega
  · have signs : ("-_./:=@,+%".toList.all fun sign => !isBlank sign) = true := by decide
    rw [List.contains_eq_mem, decide_eq_true_eq] at sign
    have bare := List.all_eq_true.1 signs character sign
    rwa [Bool.not_eq_true'] at bare

theorem isLiteral_of_plain {character : Char} (plain : isPlainCharacter character = true) :
    IsLiteral character := by
  refine ⟨?_, ?_, ?_, ?_⟩
  · rw [← Bool.not_eq_true]
    intro separated
    have blank := isBlank_of_isSeparator character separated
    rw [isBlank_of_plain plain] at blank
    cases blank
  · rintro rfl
    exact absurd plain (by decide)
  · rintro rfl
    exact absurd plain (by decide)
  · rintro rfl
    exact absurd plain (by decide)

/-- A word that is written without quotes. -/
def IsPlain (word : List Char) : Prop :=
  ∀ character ∈ word, isPlainCharacter character = true

instance (word : List Char) : Decidable (IsPlain word) :=
  decidable_of_iff (word.all isPlainCharacter = true) List.all_eq_true

theorem IsPlain.literal {word : List Char} (plain : IsPlain word) :
    ∀ character ∈ word, IsLiteral character :=
  fun character member => isLiteral_of_plain (plain character member)

theorem toList_shellWord_of_plain {word : String} (nonempty : word.toList ≠ [])
    (plain : IsPlain word.toList) : (shellWord word).toList = word.toList := by
  have bare : (!word.isEmpty && word.toList.all isPlainCharacter) = true := by
    rw [Bool.and_eq_true, List.all_eq_true]
    refine ⟨?_, plain⟩
    rw [Bool.not_eq_true', ← Bool.not_eq_true, String.isEmpty_iff]
    rintro rfl
    exact nonempty rfl
  rw [shellWord, if_pos bare]

theorem toList_shellWord_of_not_plain {word : String}
    (quoted : ¬ (word.toList ≠ [] ∧ IsPlain word.toList)) :
    (shellWord word).toList = '\x27' :: (word.toList.flatMap quotedInSingle ++ ['\x27']) := by
  have unbare : ¬ (!word.isEmpty && word.toList.all isPlainCharacter) = true := by
    rw [Bool.and_eq_true, List.all_eq_true]
    rintro ⟨nonempty, plain⟩
    refine quoted ⟨?_, plain⟩
    intro empty
    rw [String.toList_eq_nil_iff.1 empty] at nonempty
    cases nonempty
  rw [shellWord, if_neg unbare, String.toList_ofList]
  rfl

/-! ### Reading a quoted word -/

/-- Between the quotes each character is read back; a single quote leaves them and comes back. -/
theorem readWord_quotedInSingle (word tail : List Char) :
    readWord none .single (word.flatMap quotedInSingle ++ '\x27' :: tail) =
      (readWord none .plain tail).precede word := by
  induction word with
  | nil =>
    show readWord none .single ('\x27' :: tail) = readWord none .plain tail
    rw [readWord, if_pos rfl]
  | cons character later inductionHypothesis =>
    rw [List.flatMap_cons, List.append_assoc]
    by_cases quote : character = '\x27'
    · subst quote
      have fits : Escape.Fits (.before '\x27')
          ('\x27' :: (later.flatMap quotedInSingle ++ '\x27' :: tail)) := by
        simp [Escape.Fits]
      show readWord none .single ('\x27' :: '\x5c' :: '\x27' :: '\x27' ::
        (later.flatMap quotedInSingle ++ '\x27' :: tail)) = _
      rw [readWord, if_pos rfl, readWord_backslash (by decide)]
      -- Behind the backslash stands the quote, and behind that the quoted part goes on.
      refine (readWord_escaped none false (.before '\x27') _ fits).trans ?_
      show (readWord none .plain ('\x27' ::
        (later.flatMap quotedInSingle ++ '\x27' :: tail))).precede ['\x27'] = _
      rw [readWord_singleQuote (by decide), inductionHypothesis, Word.precede_precede]
      rfl
    · rw [quotedInSingle, if_neg quote]
      show readWord none .single (character ::
        (later.flatMap quotedInSingle ++ '\x27' :: tail)) = _
      rw [readWord, if_neg quote, inductionHypothesis, Word.precede_precede]
      rfl

/-- A word is read back from the form in which it is passed on. -/
theorem readWord_shellWord (word : String) {tail : List Char} (stops : Stops none tail tail) :
    readWord none .plain ((shellWord word).toList ++ tail) = ⟨word.toList, tail, none⟩ := by
  by_cases plain : word.toList ≠ [] ∧ IsPlain word.toList
  · rw [toList_shellWord_of_plain plain.1 plain.2]
    refine readWord_literal plain.2.literal ?_ stops
    intro character member same
    cases same
  · rw [toList_shellWord_of_not_plain plain]
    show readWord none .plain ('\x27' ::
      ((word.toList.flatMap quotedInSingle ++ ['\x27']) ++ tail)) = _
    rw [List.append_assoc, List.singleton_append, readWord_singleQuote (by decide),
      readWord_quotedInSingle, readWord_of_stops stops]
    exact congrArg (fun text => Word.mk text tail none) (List.append_nil _)

/-! ### The ends of a word -/

/-- The characters at which the form of a word starts and ends. -/
def IsEdge (character : Char) : Prop :=
  isPlainCharacter character = true ∨ character = '\x27'

theorem IsEdge.not_blank {character : Char} (edge : IsEdge character) :
    isBlank character = false := by
  rcases edge with plain | rfl
  · exact isBlank_of_plain plain
  · decide

theorem IsEdge.inside {character : Char} (edge : IsEdge character) :
    isSeparator character = false := by
  rcases edge with plain | rfl
  · exact (isLiteral_of_plain plain).1
  · decide

theorem IsEdge.ne {character other : Char} (edge : IsEdge character)
    (special : isPlainCharacter other = false ∧ other ≠ '\x27') : character ≠ other := by
  rintro rfl
  rcases edge with plain | quote
  · rw [special.1] at plain
    cases plain
  · exact special.2 quote

theorem exists_first_shellWord (word : String) :
    ∃ first rest, (shellWord word).toList = first :: rest ∧ IsEdge first := by
  by_cases plain : word.toList ≠ [] ∧ IsPlain word.toList
  · obtain ⟨first, rest, equal⟩ := List.exists_cons_of_ne_nil plain.1
    refine ⟨first, rest, (toList_shellWord_of_plain plain.1 plain.2).trans equal, Or.inl ?_⟩
    exact plain.2 first (by rw [equal]; exact List.mem_cons_self)
  · exact ⟨_, _, toList_shellWord_of_not_plain plain, Or.inr rfl⟩

theorem exists_last_shellWord (word : String) :
    ∃ front last, (shellWord word).toList = front ++ [last] ∧ IsEdge last := by
  by_cases plain : word.toList ≠ [] ∧ IsPlain word.toList
  · have split := List.dropLast_append_getLast plain.1
    refine ⟨_, _, (toList_shellWord_of_plain plain.1 plain.2).trans split.symm, Or.inl ?_⟩
    exact plain.2 _ (List.getLast_mem plain.1)
  · refine ⟨'\x27' :: word.toList.flatMap quotedInSingle, '\x27', ?_, Or.inr rfl⟩
    rw [toList_shellWord_of_not_plain plain, List.cons_append]

/-- No gap stands in front of a word. -/
theorem skipGap_shellWord (word : String) (tail : List Char) :
    skipGap ((shellWord word).toList ++ tail) = (shellWord word).toList ++ tail := by
  obtain ⟨first, rest, equal, edge⟩ := exists_first_shellWord word
  rw [equal, List.cons_append]
  exact skipGap_inside edge.inside (edge.ne (by decide)) _

/-! ### The line -/

/-- Words as they stand behind others, each with a space in front of it. -/
def following (words : List String) : List Char :=
  words.flatMap fun word => ' ' :: (shellWord word).toList

theorem following_cons (word : String) (later : List String) :
    following (word :: later) = ' ' :: ((shellWord word).toList ++ following later) := rfl

/-- A word stops at the words behind it. -/
theorem stops_following (words : List String) :
    Stops none (following words) (following words) := by
  cases words with
  | nil => exact .nothing
  | cons word later => exact .separator rfl

theorem skipGap_following_cons (word : String) (later : List String) :
    skipGap (following (word :: later)) = (shellWord word).toList ++ following later := by
  rw [following_cons, skipGap_separator rfl, skipGap_shellWord]

theorem intercalate_shellWords (first : String) (later : List String) :
    (" ".intercalate ((first :: later).map shellWord)).toList =
      (shellWord first).toList ++ following later := by
  induction later generalizing first with
  | nil =>
    rw [List.map_singleton, String.intercalate_singleton]
    exact (List.append_nil _).symm
  | cons second later inductionHypothesis =>
    rw [List.map_cons, List.map_cons, String.intercalate_cons_cons, String.toList_append,
      String.toList_append, ← List.map_cons, inductionHypothesis second, List.append_assoc]
    rfl

theorem toList_commandLine {words : List String} (several : 2 ≤ words.length) :
    ∃ first later, words = first :: later ∧
      (commandLine words).toList = (shellWord first).toList ++ following later := by
  match words, several with
  | first :: second :: later, _ =>
    exact ⟨first, second :: later, rfl, intercalate_shellWords first (second :: later)⟩

/-- The line ends as its last word does. -/
theorem exists_last_line (first : String) (later : List String) :
    ∃ front last, (shellWord first).toList ++ following later = front ++ [last] ∧ IsEdge last := by
  induction later generalizing first with
  | nil =>
    obtain ⟨front, last, equal, edge⟩ := exists_last_shellWord first
    exact ⟨front, last, (List.append_nil _).trans equal, edge⟩
  | cons second later inductionHypothesis =>
    obtain ⟨front, last, equal, edge⟩ := inductionHypothesis second
    refine ⟨(shellWord first).toList ++ ' ' :: front, last, ?_, edge⟩
    rw [following_cons, equal, List.append_assoc]
    rfl

theorem trimBoth_of_edges {text front rest : List Char} {first last : Char}
    (starts : text = first :: rest) (ends : text = front ++ [last])
    (firstEdge : IsEdge first) (lastEdge : IsEdge last) : trimBoth text = text := by
  have start : trimStart text = text := by
    rw [starts, trimStart, List.dropWhile_cons_of_neg (by simp [firstEdge.not_blank])]
  rw [trimBoth, start, trimEnd, ends, List.reverse_append, List.reverse_singleton,
    List.singleton_append, List.dropWhile_cons_of_neg (by simp [lastEdge.not_blank]),
    List.reverse_cons, List.reverse_reverse]

/-- A line of words has neither a prompt nor blanks around it. -/
theorem stripPrompt_line (first : String) (later : List String) :
    stripPrompt ((shellWord first).toList ++ following later) =
      (shellWord first).toList ++ following later := by
  obtain ⟨character, rest, start, firstEdge⟩ := exists_first_shellWord first
  obtain ⟨front, last, ends, lastEdge⟩ := exists_last_line first later
  rw [start, List.cons_append] at ends ⊢
  unfold stripPrompt
  rw [trimBoth_of_edges rfl ends firstEdge lastEdge]
  split
  · rename_i prompt
    exact absurd (List.cons.inj prompt).1 (firstEdge.ne (by decide))
  · rename_i prompt
    exact absurd (List.cons.inj prompt).1 (firstEdge.ne (by decide))
  · rfl

/-- Reading the line of words is reading the words one behind another. -/
theorem readWith_line {words : List String} (several : 2 ≤ words.length)
    (isSwitch : String → Bool) :
    ∃ total, Command.readWith isSwitch (commandLine words) =
      Command.ofParts (readParts isSwitch total (following words)).1
        (readParts isSwitch total (following words)).2 := by
  obtain ⟨first, later, rfl, line⟩ := toList_commandLine several
  refine ⟨(commandLine (first :: later)).toList.length, ?_⟩
  have gap : skipGap (following (first :: later)) =
      skipGap (commandLine (first :: later)).toList := by
    rw [following_cons, skipGap_separator rfl, line]
  rw [readParts_congr gap, Command.readWith, line, stripPrompt_line]
  rfl

end CurlScribe
