/-
This file proves that the reader of a command line does not look beyond the character at which
it stops. If a word, a gap or a whole step leaves an end of its text, this end can be exchanged
for any other that starts with the same character, and what was read before stays as it is. So
what is said in front of a place where a word starts does not depend on how the text goes on
behind the first character there.

The gap alone looks at two characters, since a backslash belongs to it only in front of a
separator. But a word that starts with a backslash takes the next character as well, so where a
word follows the gap, the second character is never part of the end that is exchanged.
-/

import CurlScribe.Proofs.Occurrences
import CurlScribe.Proofs.WordGrammar

namespace CurlScribe

open Text

/-! ### Ends of texts -/

/-- An end that is left of itself has nothing in front of it. -/
theorem eq_nil_of_append_suffix {left tail : List Char} (within : left ++ tail <:+ tail) :
    left = [] := by
  have longer := within.length_le
  rw [List.length_append] at longer
  exact List.eq_nil_of_length_eq_zero (by omega)

/-- If something is left in front of two ends, or they start alike, then so they do behind any text
that it is left of. -/
theorem head?_append_of_suffix {front left tail other : List Char}
    (within : left ++ tail <:+ front ++ tail)
    (start : (left ++ tail).head? = (left ++ other).head?) :
    (front ++ tail).head? = (front ++ other).head? := by
  cases front with
  | nil =>
    rw [eq_nil_of_append_suffix within] at start
    exact start
  | cons first front => rfl

/-- What contains an end with something in front of it consists of this end and a front. -/
theorem exists_front_of_suffix {text left tail : List Char} (within : left ++ tail <:+ text) :
    ∃ front, text = front ++ tail := by
  obtain ⟨before, rfl⟩ := within
  exact ⟨before ++ left, (List.append_assoc _ _ _).symm⟩

/-- A character in front of what contains an end is in front of this end. -/
theorem exists_cons_of_suffix {front left tail rest : List Char} {first : Char}
    (within : left ++ tail <:+ rest) (whole : front ++ tail = first :: rest) :
    ∃ later, front = first :: later ∧ rest = later ++ tail := by
  cases front with
  | nil =>
    have longer := within.length_le
    rw [show tail = _ from whole, List.length_append, List.length_cons] at longer
    omega
  | cons other later =>
    obtain ⟨rfl, rfl⟩ := List.cons.inj whole
    exact ⟨later, rfl, rfl⟩

/-- What stands behind the start of a text does not change it. -/
theorem head?_append_congr {left : List Char} (nonempty : left ≠ []) (tail other : List Char) :
    (left ++ tail).head? = (left ++ other).head? := by
  rw [List.head?_append_of_ne_nil left nonempty, List.head?_append_of_ne_nil left nonempty]

/-- A character that starts neither of two texts starts none that is made up of them. -/
theorem head?_append_ne {character first : Char} {left : List Char}
    (single : left.head? ≠ some character) (other : first ≠ character) (behind : List Char) :
    (left ++ first :: behind).head? ≠ some character := by
  cases left with
  | nil => exact fun same => other (Option.some_inj.1 same)
  | cons next left => exact single

/-! ### Gaps -/

theorem skipGap_skipGap (text : List Char) : skipGap (skipGap text) = skipGap text := by
  fun_induction skipGap text with
  | case1 character rest separated inductionHypothesis => exact inductionHypothesis
  | case2 character rest inside => rw [skipGap, if_neg inside]
  | case3 character rest single separated inductionHypothesis => exact inductionHypothesis
  | case4 character rest single inside => rw [skipGap, if_neg inside]; exact single
  | case5 => rfl

/-- A gap looks at two characters. -/
theorem skipGap_eq_self_congr {first second : Char} {rest : List Char}
    (stays : skipGap (first :: second :: rest) = first :: second :: rest) (other : List Char) :
    skipGap (first :: second :: other) = first :: second :: other := by
  have inside := isSeparator_of_skipGap stays
  by_cases backslash : first = '\x5c'
  · subst backslash
    rw [skipGap] at stays ⊢
    split_ifs at stays ⊢ with separated
    · have shorter := skipGap_length_le rest
      rw [stays] at shorter
      simp only [List.length_cons] at shorter
      omega
    · rfl
  · exact skipGap_inside inside backslash _

/-- A gap in front of an exchanged end is the same gap, up to the characters that it looks at. -/
theorem skipGap_exchange {front left tail : List Char}
    (ends : skipGap (front ++ tail) = left ++ tail) (other : List Char) :
    skipGap (front ++ other) = skipGap (left ++ other) := by
  have stays : ∀ {front : List Char}, front ++ tail = left ++ tail →
      skipGap (front ++ other) = skipGap (left ++ other) :=
    fun same => by rw [List.append_cancel_right same]
  generalize whole : front ++ tail = text at ends
  fun_induction skipGap text generalizing front with
  | case1 character rest separated inductionHypothesis =>
    have within : left ++ tail <:+ rest := ends ▸ skipGap_suffix rest
    obtain ⟨later, rfl, next⟩ :=
      exists_cons_of_suffix (within.trans (List.suffix_cons character rest)) whole
    obtain ⟨later, rfl, rfl⟩ := exists_cons_of_suffix within next.symm
    rw [List.cons_append, List.cons_append, skipGap, if_pos separated]
    exact inductionHypothesis rfl ends
  | case3 character rest single separated inductionHypothesis =>
    obtain ⟨later, rfl, rfl⟩ := exists_cons_of_suffix (ends ▸ skipGap_suffix rest) whole
    rw [List.cons_append, skipGap_separator separated]
    exact inductionHypothesis rfl ends
  | case2 | case4 | case5 => exact stays (whole.trans ends)

/-- A gap in front of a word is the same whatever stands behind the word, unless the word is a
backslash alone, which would take the next character with it. -/
theorem skipGap_append {text rest : List Char} {first : Char} (start : skipGap text = first :: rest)
    (whole : first :: rest ≠ ['\x5c']) (other : List Char) :
    skipGap (text ++ other) = first :: (rest ++ other) := by
  have stays : skipGap (first :: rest) = first :: rest := start ▸ skipGap_skipGap text
  have ends : skipGap (text ++ []) = first :: rest ++ [] := by
    rw [List.append_nil, List.append_nil, start]
  rw [skipGap_exchange ends other, List.cons_append]
  cases rest with
  | nil =>
    refine skipGap_inside (isSeparator_of_skipGap start) ?_ other
    rintro rfl
    exact whole rfl
  | cons second rest => exact skipGap_eq_self_congr stays _

/-! ### Words -/

/-- Two texts look alike from inside a word: both go on with a quote that a dollar would open, or
neither does, and both go on with a line feed, or neither does. -/
structure LooksAlike (mark : Option Char) (first second : List Char) : Prop where
  opens : opensQuote mark first ↔ opensQuote mark second
  lineFeed : first.head? = some '\n' ↔ second.head? = some '\n'

theorem LooksAlike.of_head? {first second : List Char} (same : first.head? = second.head?)
    (mark : Option Char) : LooksAlike mark first second where
  opens := by rw [opensQuote, opensQuote, same]
  lineFeed := by rw [same]

/-- A word ends at a character, or goes on behind it, and how it goes on depends on what the text
behind looks like only. -/
theorem readWord_cons (mark : Option Char) (quoting : Quoting) (character : Char)
    (rest : List Char) :
    (quoting = .plain ∧ ∃ stop, Stops mark (character :: rest) stop) ∨
      ∃ next characters, ∀ behind : List Char, LooksAlike mark behind rest →
        readWord mark quoting (character :: behind) =
          (readWord mark next behind).precede characters := by
  cases quoting with
  | plain =>
    by_cases separated : isSeparator character = true
    · exact Or.inl ⟨rfl, _, .separator separated⟩
    by_cases marked : mark = some character
    · exact Or.inl ⟨rfl, _, .mark (Bool.eq_false_iff.2 separated) marked⟩
    refine Or.inr ?_
    simp only [readWord, if_neg separated, if_neg marked]
    split_ifs
    · exact ⟨.single, [], fun behind _ => rfl⟩
    · exact ⟨.double, [], fun behind _ => rfl⟩
    · exact ⟨.escaped false, [], fun behind _ => rfl⟩
    · by_cases dollar : character = '$' ∧ opensQuote mark rest
      · exact ⟨.opening, [], fun behind alike => if_pos ⟨dollar.1, alike.opens.2 dollar.2⟩⟩
      · refine ⟨.plain, [character], fun behind alike => if_neg ?_⟩
        rwa [alike.opens]
  | opening => exact Or.inr ⟨.dollar, [], fun behind _ => rfl⟩
  | single =>
    refine Or.inr ?_
    simp only [readWord]
    split_ifs
    · exact ⟨.plain, [], fun behind _ => rfl⟩
    · exact ⟨.single, [character], fun behind _ => rfl⟩
  | dollar =>
    refine Or.inr ?_
    simp only [readWord]
    split_ifs
    · exact ⟨.plain, [], fun behind _ => rfl⟩
    · exact ⟨.dollar, [character], fun behind _ => rfl⟩
  | double =>
    refine Or.inr ?_
    simp only [readWord]
    split_ifs
    · exact ⟨.plain, [], fun behind _ => rfl⟩
    · exact ⟨.escaped true, [], fun behind _ => rfl⟩
    · exact ⟨.double, [character], fun behind _ => rfl⟩
  | escaped quoted =>
    refine Or.inr ?_
    by_cases lineBreak : character = '\r' ∧ rest.head? = some '\n'
    · refine ⟨.escaped quoted, [], fun behind alike => ?_⟩
      rw [readWord, if_pos (by rwa [alike.lineFeed])]
      rfl
    · refine ⟨.around quoted, escapedText quoted character, fun behind alike => ?_⟩
      rw [readWord, if_neg (by rwa [alike.lineFeed])]

/-- Where a word stops does not depend on the text behind. -/
theorem Stops.exchange {mark : Option Char} {front left tail other : List Char}
    (stops : Stops mark (front ++ tail) (left ++ tail))
    (start : (left ++ tail).head? = (left ++ other).head?) :
    Stops mark (front ++ other) (left ++ other) := by
  generalize whole : front ++ tail = text at stops
  generalize ends : left ++ tail = rest at stops
  cases stops with
  | nothing =>
    obtain ⟨rfl, rfl⟩ := List.append_eq_nil_iff.1 whole
    obtain ⟨rfl, -⟩ := List.append_eq_nil_iff.1 ends
    obtain rfl : other = [] := List.head?_eq_none_iff.1 start.symm
    exact .nothing
  | separator separated =>
    obtain rfl := List.append_cancel_right (whole.trans ends.symm)
    rw [whole] at start
    obtain ⟨behind, same⟩ := List.head?_eq_some_iff.1 start.symm
    rw [same]
    exact .separator separated
  | mark inside marked =>
    obtain ⟨later, rfl, rfl⟩ := exists_cons_of_suffix ⟨[], ends⟩ whole
    rw [List.append_cancel_right ends]
    exact .mark inside marked

/-- A word by what it leaves. -/
theorem Word.eq_of_rest {word : Word} {rest : List Char} (ends : word.rest = rest) :
    word = ⟨word.text, rest, word.unclosed⟩ :=
  ends ▸ rfl

/-- A word in front of an exchanged end is the same word. -/
theorem readWord_exchange {mark : Option Char} {quoting : Quoting}
    {front left tail other text : List Char} {unclosed : Option Construct}
    (read : readWord mark quoting (front ++ tail) = ⟨text, left ++ tail, unclosed⟩)
    (start : (left ++ tail).head? = (left ++ other).head?) :
    readWord mark quoting (front ++ other) = ⟨text, left ++ other, unclosed⟩ := by
  have within := readWord_rest_suffix mark quoting (front ++ tail)
  rw [read] at within
  induction front generalizing quoting text with
  | nil =>
    obtain rfl := eq_nil_of_append_suffix within
    cases tail with
    | nil =>
      obtain rfl : other = [] := List.head?_eq_none_iff.1 start.symm
      exact read
    | cons first tail =>
      rcases readWord_cons mark quoting first tail with ⟨rfl, stop, stops⟩ | ⟨next, _, goesOn⟩
      · have stopped := (readWord_of_stops stops).symm.trans read
        obtain ⟨rfl, rfl, rfl⟩ := Word.mk.inj stopped
        have here : Stops mark ([] ++ first :: tail) ([] ++ first :: tail) := stops
        exact readWord_of_stops (here.exchange start)
      · have shorter := readWord_rest_length_le mark next tail
        rw [List.nil_append, goesOn _ (.of_head? rfl mark)] at read
        obtain ⟨-, ends, -⟩ := Word.mk.inj read
        rw [ends] at shorter
        exact absurd shorter (Nat.not_succ_le_self _)
  | cons character front inductionHypothesis =>
    rw [List.cons_append] at read ⊢
    rcases readWord_cons mark quoting character (front ++ tail) with
      ⟨rfl, stop, stops⟩ | ⟨next, characters, goesOn⟩
    · have stopped := (readWord_of_stops stops).symm.trans read
      obtain ⟨rfl, rfl, rfl⟩ := Word.mk.inj stopped
      have here : Stops mark (character :: front ++ tail) (left ++ tail) := stops
      exact readWord_of_stops (here.exchange start)
    · rw [goesOn _ (.of_head? rfl mark)] at read
      obtain ⟨rfl, ends, rfl⟩ := Word.mk.inj read
      have within := readWord_rest_suffix mark next (front ++ tail)
      rw [ends] at within
      have same := head?_append_of_suffix within start
      have later := inductionHypothesis (Word.eq_of_rest ends) within
      rw [goesOn _ (.of_head? same.symm mark), later]
      rfl

/-- A word that does not reach the end of its text is the same in front of a further text. -/
theorem readWord_append {mark : Option Char} {quoting : Quoting} {text word rest : List Char}
    {unclosed : Option Construct} (read : readWord mark quoting text = ⟨word, rest, unclosed⟩)
    (nonempty : rest ≠ []) (other : List Char) :
    readWord mark quoting (text ++ other) = ⟨word, rest ++ other, unclosed⟩ := by
  have whole : readWord mark quoting (text ++ []) = ⟨word, rest ++ [], unclosed⟩ := by
    rw [List.append_nil, List.append_nil, read]
  exact readWord_exchange whole (head?_append_congr nonempty [] other)

/-- A word behind a backslash takes the character that the backslash stands before. -/
theorem readWord_escaped_rest_ne (mark : Option Char) (quoted : Bool) (character : Char)
    (rest left : List Char) :
    (readWord mark (.escaped quoted) (character :: rest)).rest ≠ left ++ character :: rest := by
  intro same
  rcases readWord_cons mark (.escaped quoted) character rest with ⟨plain, -⟩ | ⟨next, _, goesOn⟩
  · cases plain
  · have shorter := readWord_rest_length_le mark next rest
    rw [goesOn _ (.of_head? rfl mark), Word.rest_precede] at same
    rw [same, List.length_append, List.length_cons] at shorter
    omega

/-- No gap comes up in front of a word when an end that the word does not reach is exchanged. -/
theorem skipGap_eq_self_of_readWord {front left tail other : List Char}
    (stays : skipGap (front ++ tail) = front ++ tail)
    (ends : (readWord none .plain (front ++ tail)).rest = left ++ tail)
    (start : (left ++ tail).head? = (left ++ other).head?) :
    skipGap (front ++ other) = front ++ other := by
  -- A gap looks at two characters, so only a shorter front lets it see the exchanged end.
  match front, tail with
  | first :: second :: front, _ => exact skipGap_eq_self_congr stays (front ++ other)
  | [], [] =>
    obtain rfl : left = [] := eq_nil_of_append_suffix (ends ▸ readWord_rest_suffix none .plain [])
    obtain rfl : other = [] := List.head?_eq_none_iff.1 start.symm
    rfl
  | [], first :: tail =>
    have shorter := readWord_rest_length_lt none first tail (isSeparator_of_skipGap stays)
    rw [show (readWord none .plain (first :: tail)).rest = _ from ends,
      List.length_append] at shorter
    omega
  | [first], [] =>
    have shorter := readWord_rest_length_lt none first [] (isSeparator_of_skipGap stays)
    rw [show (readWord none .plain [first]).rest = _ from ends, List.append_nil] at shorter
    obtain rfl : left = [] := List.eq_nil_of_length_eq_zero (Nat.lt_one_iff.1 shorter)
    obtain rfl : other = [] := List.head?_eq_none_iff.1 start.symm
    exact stays
  | [first], second :: tail =>
    by_cases backslash : first = '\x5c'
    · subst backslash
      have read : readWord none .plain ('\x5c' :: second :: tail) = _ :=
        readWord_backslash (by decide)
      rw [show ['\x5c'] ++ second :: tail = '\x5c' :: second :: tail from rfl, read] at ends
      exact absurd ends (readWord_escaped_rest_ne none false second tail left)
    · exact skipGap_inside (isSeparator_of_skipGap stays) backslash other

/-- The word behind the name of an option is the same in front of an exchanged end. -/
theorem wordBehind_exchange {front left tail other text : List Char}
    {unclosed : Option Construct}
    (read : wordBehind (front ++ tail) = ⟨text, left ++ tail, unclosed⟩)
    (start : (left ++ tail).head? = (left ++ other).head?) :
    wordBehind (front ++ other) = ⟨text, left ++ other, unclosed⟩ := by
  have within := readWord_rest_suffix none .plain (skipGap (front ++ tail))
  rw [show readWord none .plain (skipGap (front ++ tail)) = _ from read] at within
  obtain ⟨middle, next⟩ := exists_front_of_suffix within
  have word : readWord none .plain (middle ++ tail) = ⟨text, left ++ tail, unclosed⟩ := by
    rw [← next]
    exact read
  have stays : skipGap (middle ++ other) = middle ++ other :=
    skipGap_eq_self_of_readWord (next ▸ skipGap_skipGap _) (congrArg Word.rest word) start
  show readWord none .plain (skipGap (front ++ other)) = _
  rw [skipGap_exchange next, stays]
  exact readWord_exchange word start

/-! ### Options -/

variable {isSwitch : String → Bool}

theorem ClusterSays.suffix {text behind : List Char} {parts : List Part}
    (meaning : ClusterSays isSwitch text parts behind) : behind <:+ text := by
  obtain ⟨-, rfl⟩ := (clusterSays_iff 0).1 meaning
  exact readCluster_rest_suffix isSwitch 0 text

theorem wordBehind_suffix (text : List Char) : (wordBehind text).rest <:+ text :=
  readValue_rest_suffix 0 "" text

theorem LongSays.suffix {text behind : List Char} {parts : List Part}
    (meaning : LongSays isSwitch text parts behind) : behind <:+ text := by
  obtain ⟨-, rfl⟩ := (longSays_iff 0).1 meaning
  exact readLong_rest_suffix isSwitch 0 text

/-- A letter with a value takes the word behind it. -/
theorem ClusterSays.of_wordBehind {letter : Char} {rest : List Char} {word : Word}
    (inside : isSeparator letter = false) (valued : isSwitch (String.singleton letter) = false)
    (read : wordBehind rest = word) :
    ClusterSays isSwitch (letter :: rest)
      [.value (String.singleton letter) (String.ofList word.text)] word.rest :=
  read ▸ .value inside valued

/-- A long option with a value takes the word behind its name. -/
theorem LongSays.of_wordBehind {text : List Char} {name word : Word}
    (read : readWord (some '=') .plain text = name) (named : name.text ≠ [])
    (valued : isSwitch (String.ofList name.text) = false) (behind : wordBehind name.rest = word) :
    LongSays isSwitch text [.value (String.ofList name.text) (String.ofList word.text)] word.rest :=
  behind ▸ .value read named valued

/-- The letters of a cluster are the same in front of an exchanged end. -/
theorem ClusterSays.exchange {front left tail other : List Char} {parts : List Part}
    (meaning : ClusterSays isSwitch (front ++ tail) parts (left ++ tail))
    (start : (left ++ tail).head? = (left ++ other).head?) :
    ClusterSays isSwitch (front ++ other) parts (left ++ other) := by
  generalize whole : front ++ tail = text at meaning
  generalize ends : left ++ tail = behind at meaning
  induction meaning generalizing front with
  | ended stops =>
    obtain rfl := List.append_cancel_right (whole.trans ends.symm)
    exact .ended (by rwa [← start, whole])
  | switch inside switch more inductionHypothesis =>
    obtain ⟨later, rfl, rfl⟩ := exists_cons_of_suffix (ends ▸ more.suffix) whole
    exact .switch inside switch (inductionHypothesis rfl ends)
  | @value letter rest inside valued =>
    have within : left ++ tail <:+ rest := ends ▸ wordBehind_suffix rest
    obtain ⟨later, rfl, rfl⟩ := exists_cons_of_suffix within whole
    exact .of_wordBehind inside valued (wordBehind_exchange (Word.eq_of_rest ends.symm) start)

/-- A long option is the same in front of an exchanged end. -/
theorem LongSays.exchange {front left tail other : List Char} {parts : List Part}
    (meaning : LongSays isSwitch (front ++ tail) parts (left ++ tail))
    (start : (left ++ tail).head? = (left ++ other).head?) :
    LongSays isSwitch (front ++ other) parts (left ++ other) := by
  generalize ends : left ++ tail = behind at meaning
  cases meaning with
  | anonymous read empty =>
    have word := read.trans (Word.eq_of_rest ends.symm)
    exact .anonymous (readWord_exchange word start) empty
  | switch read named switch =>
    have word := read.trans (Word.eq_of_rest ends.symm)
    exact .switch (readWord_exchange word start) named switch
  | @value name read named valued =>
    obtain ⟨name, following, unclosed⟩ := name
    have within : left ++ tail <:+ following := ends ▸ wordBehind_suffix following
    obtain ⟨middle, rfl⟩ := exists_front_of_suffix within
    have same := readWord_exchange read (head?_append_of_suffix within start)
    exact .of_wordBehind same named valued (wordBehind_exchange (Word.eq_of_rest ends.symm) start)

/-! ### Steps -/

/-- Two dashes, one dash, or none start a step. -/
theorem dashes_cases (first : Char) (rest : List Char) :
    (∃ name, first = '-' ∧ rest = '-' :: name) ∨ (first = '-' ∧ rest.head? ≠ some '-') ∨
      first ≠ '-' := by
  by_cases dash : first = '-'
  · by_cases long : rest.head? = some '-'
    · obtain ⟨name, rfl⟩ := List.head?_eq_some_iff.1 long
      exact Or.inl ⟨name, dash, rfl⟩
    · exact Or.inr (Or.inl ⟨dash, long⟩)
  · exact Or.inr (Or.inr dash)

/-- What a text says first, and where it goes on: a word, a cluster of letters, or a long option. -/
inductive StepSays (isSwitch : String → Bool) : List Char → List Part → List Char → Prop
  | word {first : Char} {rest : List Char} {word : Word} (plain : first ≠ '-')
    (read : readWord none .plain (first :: rest) = word) :
    StepSays isSwitch (first :: rest) [.word (String.ofList word.text)] word.rest
  | cluster {rest behind : List Char} {parts : List Part} (single : rest.head? ≠ some '-')
    (here : ClusterSays isSwitch rest parts behind) :
    StepSays isSwitch ('-' :: rest) parts behind
  | long {rest behind : List Char} {parts : List Part}
    (here : LongSays isSwitch rest parts behind) :
    StepSays isSwitch ('-' :: '-' :: rest) parts behind

theorem stepSays_iff (total : Nat) {first : Char} {rest behind : List Char} {parts : List Part} :
    StepSays isSwitch (first :: rest) parts behind ↔
      (readStep isSwitch total (first :: rest)).parts = parts ∧
        (readStep isSwitch total (first :: rest)).rest = behind := by
  constructor
  · intro meaning
    cases meaning with
    | word plain read =>
      rw [readStep_word plain, read]
      exact ⟨rfl, rfl⟩
    | cluster single here =>
      rw [readStep_cluster single]
      exact (clusterSays_iff total).1 here
    | long here => exact (longSays_iff total).1 here
  · rintro ⟨rfl, rfl⟩
    rcases dashes_cases first rest with ⟨name, rfl, rfl⟩ | ⟨rfl, single⟩ | plain
    · exact .long ((longSays_iff total).2 ⟨rfl, rfl⟩)
    · rw [readStep_cluster single]
      exact .cluster single ((clusterSays_iff total).2 ⟨rfl, rfl⟩)
    · rw [readStep_word plain]
      exact .word plain rfl

/-- A step is the same in front of an exchanged end. -/
theorem StepSays.exchange {first : Char} {front left tail other : List Char} {parts : List Part}
    (meaning : StepSays isSwitch (first :: (front ++ tail)) parts (left ++ tail))
    (start : (left ++ tail).head? = (left ++ other).head?) :
    StepSays isSwitch (first :: (front ++ other)) parts (left ++ other) := by
  generalize whole : front ++ tail = rest at meaning
  generalize ends : left ++ tail = behind at meaning
  cases meaning with
  | word plain read =>
    subst whole
    have word : readWord none .plain (first :: front ++ tail) = _ :=
      read.trans (Word.eq_of_rest ends.symm)
    exact .word plain (readWord_exchange word start)
  | cluster single here =>
    subst whole ends
    refine .cluster ?_ (here.exchange start)
    rwa [← head?_append_of_suffix here.suffix start]
  | long here =>
    obtain ⟨later, rfl, rfl⟩ := exists_cons_of_suffix (ends.symm ▸ here.suffix) whole
    subst ends
    exact .long (here.exchange start)

/-- A step takes the character away that it starts at. -/
theorem StepSays.suffix {first : Char} {rest behind : List Char} {parts : List Part}
    (meaning : StepSays isSwitch (first :: rest) parts behind)
    (inside : isSeparator first = false) : behind <:+ rest := by
  cases meaning with
  | word plain read =>
    have shorter := readWord_rest_length_lt none first rest inside
    rcases List.suffix_cons_iff.1 (readWord_rest_suffix none .plain (first :: rest)) with
      whole | within
    · rw [whole] at shorter
      exact absurd shorter (Nat.lt_irrefl _)
    · exact read ▸ within
  | cluster single here => exact here.suffix
  | long here => exact here.suffix.trans (List.suffix_cons _ _)

/-! ### Step by step -/

/-- What the steps of a text come to, where each is put in front of what the later ones come to. -/
def foldSteps {Result : Type} (isSwitch : String → Bool) (put : List Char → Result → Result)
    (last : Result) (text : List Char) : Result :=
  match next : skipGap text with
  | [] => last
  | character :: rest =>
    have : (readStep isSwitch 0 (character :: rest)).rest.length < text.length :=
      Nat.lt_of_lt_of_le
        (readStep_rest_length_lt isSwitch 0 character rest (isSeparator_of_skipGap next))
        (next ▸ skipGap_length_le text)
    put (character :: rest)
      (foldSteps isSwitch put last (readStep isSwitch 0 (character :: rest)).rest)
termination_by text.length

section Folding

variable {Result : Type} {put : List Char → Result → Result} {last : Result} {text : List Char}

theorem foldSteps_of_nil (empty : skipGap text = []) : foldSteps isSwitch put last text = last := by
  rw [foldSteps]
  split
  · rfl
  · rename_i next
    rw [empty] at next
    cases next

theorem foldSteps_of_cons {rest : List Char} {character : Char}
    (next : skipGap text = character :: rest) (total : Nat) :
    foldSteps isSwitch put last text =
      put (character :: rest)
        (foldSteps isSwitch put last (readStep isSwitch total (character :: rest)).rest) := by
  rw [readStep_rest_eq isSwitch total 0, foldSteps]
  split
  · rename_i empty
    rw [empty] at next
    cases next
  · rename_i same
    rw [next] at same
    cases same
    rfl

end Folding

/-! ### Places where words start -/

/-- Reading a text comes to an end of it where a word starts, and says the given parts before. -/
inductive ComesTo (isSwitch : String → Bool) : List Char → List Part → List Char → Prop
  | here {text rest : List Char} (start : skipGap text = rest) : ComesTo isSwitch text [] rest
  | later {text following behind rest : List Char} {first : Char} {parts others : List Part}
    (start : skipGap text = first :: following)
    (step : StepSays isSwitch (first :: following) parts behind)
    (more : ComesTo isSwitch behind others rest) : ComesTo isSwitch text (parts ++ others) rest

/-- What a text says is what it says up to a place where a word starts, and what it says from
there on. -/
theorem ComesTo.readParts {text rest : List Char} {parts : List Part}
    (comes : ComesTo isSwitch text parts rest) (total : Nat) :
    (readParts isSwitch total text).1 = parts ++ (readParts isSwitch total rest).1 := by
  induction comes with
  | here start =>
    rw [List.nil_append, readParts_congr]
    rw [← start, skipGap_skipGap]
  | later start step more inductionHypothesis =>
    obtain ⟨said, behind⟩ := (stepSays_iff total).1 step
    rw [readParts_of_cons start, said, behind, inductionHypothesis, List.append_assoc]

theorem ComesTo.suffix {text rest : List Char} {parts : List Part}
    (comes : ComesTo isSwitch text parts rest) : rest <:+ text := by
  induction comes with
  | here start => exact start ▸ skipGap_suffix _
  | later start step more inductionHypothesis =>
    have inside := step.suffix (isSeparator_of_skipGap start)
    exact inductionHypothesis.trans
      ((inside.trans (List.suffix_cons _ _)).trans (start ▸ skipGap_suffix _))

/-- Reading comes to a dash in the same way whatever stands behind the dash. -/
theorem ComesTo.exchange {front tail : List Char} {parts : List Part}
    (comes : ComesTo isSwitch (front ++ '-' :: tail) parts ('-' :: tail)) (other : List Char) :
    ComesTo isSwitch (front ++ '-' :: other) parts ('-' :: other) := by
  generalize whole : front ++ '-' :: tail = text at comes
  generalize ends : '-' :: tail = rest at comes
  induction comes generalizing front with
  | here start =>
    subst whole ends
    refine .here ?_
    rw [skipGap_exchange (show skipGap (front ++ '-' :: tail) = [] ++ '-' :: tail from start)]
    exact skipGap_inside rfl (by decide) other
  | @later text following behind rest first parts others start step more inductionHypothesis =>
    subst whole ends
    have edge := isSeparator_of_skipGap start
    -- The end is left by the step, and the step leaves it behind its first character.
    obtain ⟨left, rfl⟩ := more.suffix
    obtain ⟨middle, rfl⟩ := exists_front_of_suffix (step.suffix edge)
    have stays := skipGap_skipGap (front ++ '-' :: tail)
    have gap : skipGap (front ++ '-' :: other) = first :: (middle ++ '-' :: other) := by
      rw [start] at stays
      rw [skipGap_exchange (show _ = first :: middle ++ '-' :: tail from start)]
      cases middle with
      | nil => exact skipGap_eq_self_congr stays other
      | cons second middle => exact skipGap_eq_self_congr stays _
    have alike : (left ++ '-' :: tail).head? = (left ++ '-' :: other).head? := by
      simp only [List.head?_append, List.head?_cons]
    exact .later gap (step.exchange alike) (inductionHypothesis rfl rfl)

end CurlScribe
