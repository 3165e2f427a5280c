/-
This file proves what becomes of a command that ends inside a quote or behind a backslash. The
reader tries to read one word after another; the word that the end leaves open reaches the end,
so every later attempt finds no text, and there is only one word to report. If the construct is a
quote, the quote that closes it can be put at the end of the command: the words and the options
stay as they are, and nothing is left open.

The attempts are listed by functions that follow the readers. What relates such a list to what was
read is the same for every reader, and is kept when one step is put behind another: the attempts
start one behind another, and they give the words and the values that the text consists of.
-/

import CurlScribe.Proofs.Lookahead
import CurlScribe.Proofs.Trimming

namespace CurlScribe

open Text

/-! ### Words left open -/

/-- The character that closes a construct at the end of a text; none closes an escape. -/
def Construct.closing? : Construct → Option Char
  | .singleQuote | .dollarQuote => some '\x27'
  | .doubleQuote => some '\x22'
  | .escape => none

/-- A construct is closed by a quote. -/
theorem Construct.quote_of_closing {construct : Construct} {closing : Char}
    (closes : closing ∈ construct.closing?) : closing = '\x27' ∨ closing = '\x22' := by
  cases construct with
  | singleQuote | dollarQuote => cases closes; exact Or.inl rfl
  | doubleQuote => cases closes; exact Or.inr rfl
  | escape => cases closes

theorem Construct.isBlank_closing {construct : Construct} {closing : Char}
    (closes : closing ∈ construct.closing?) : isBlank closing = false := by
  rcases quote_of_closing closes with rfl | rfl <;> rfl

theorem Construct.isSeparator_closing {construct : Construct} {closing : Char}
    (closes : closing ∈ construct.closing?) : isSeparator closing = false := by
  rcases quote_of_closing closes with rfl | rfl <;> rfl

/-- A word that is left open reaches the end of its text. -/
theorem readWord_rest_of_open {mark : Option Char} {quoting : Quoting} {text : List Char}
    {construct : Construct} (left : (readWord mark quoting text).unclosed = some construct) :
    (readWord mark quoting text).rest = [] := by
  fun_induction readWord mark quoting text <;> simp_all

theorem Word.unclosed_of_report {word : Word} {offset : Nat} {found : Unclosed}
    (reports : word.report offset = some found) : word.unclosed = some found.construct := by
  obtain ⟨construct, left, rfl⟩ := Option.map_eq_some_iff.1 reports
  exact left

/-- A word that is left open starts with a character of its own. -/
theorem exists_first_of_open {mark : Option Char} {text : List Char} {construct : Construct}
    (left : (readWord mark .plain text).unclosed = some construct) :
    ∃ first ∈ text.head?, isSeparator first = false := by
  cases text with
  | nil => cases left
  | cons first rest =>
    refine ⟨first, rfl, ?_⟩
    by_contra separated
    rw [readWord_of_stops (.separator (by simpa using separated))] at left
    cases left

/-- A word that reaches the end of its text and leaves nothing open there. -/
def Word.closed (word : Word) : Word :=
  { word with rest := [], unclosed := none }

@[simp] theorem Word.closed_precede (word : Word) (characters : List Char) :
    (word.precede characters).closed = word.closed.precede characters := rfl

/-- A word with the quote that it lacks at its end has the same text. -/
theorem readWord_closing {mark : Option Char} {quoting : Quoting} {text : List Char}
    {construct : Construct} {closing : Char}
    (left : (readWord mark quoting text).unclosed = some construct)
    (closes : closing ∈ construct.closing?) (started : quoting = .opening → text ≠ []) :
    readWord mark quoting (text ++ [closing]) = (readWord mark quoting text).closed := by
  -- The quote is no line feed, and with a text in front of it a dollar does not look at it.
  have lineFeed : ∀ rest : List Char, (rest ++ [closing]).head? = some '\n' ↔
      rest.head? = some '\n' := by
    intro rest
    cases rest with
    | nil => rcases Construct.quote_of_closing closes with rfl | rfl <;> decide
    | cons next rest => rfl
  have opens : ∀ {rest : List Char}, rest ≠ [] →
      (opensQuote mark (rest ++ [closing]) ↔ opensQuote mark rest) := by
    intro rest nonempty
    obtain ⟨next, rest, rfl⟩ := List.exists_cons_of_ne_nil nonempty
    rfl
  fun_induction readWord mark quoting text with
  | case1 quoting =>
    cases quoting <;> cases left <;> cases closes
    · exact absurd rfl (started rfl)
    · rfl
    · rfl
    · rfl
  | case7 character rest inside unmarked single double backslash dollar inductionHypothesis =>
    have nonempty : rest ≠ [] := by
      rintro rfl
      cases dollar.2.1
    have opened : character = '$' ∧ opensQuote mark (rest ++ [closing]) :=
      ⟨dollar.1, (opens nonempty).2 dollar.2⟩
    rw [List.cons_append, readWord, if_neg inside, if_neg unmarked, if_neg single, if_neg double,
      if_neg backslash, if_pos opened, inductionHypothesis left fun _ => nonempty]
  | case8 character rest inside unmarked single double backslash plain inductionHypothesis =>
    have nonempty : rest ≠ [] := by
      rintro rfl
      cases left
    have literal : IsLiteral character := ⟨by simpa using inside, single, double, backslash⟩
    have alone : character = '$' → ¬ opensQuote mark (rest ++ [closing]) :=
      fun same opened => plain ⟨same, (opens nonempty).1 opened⟩
    rw [List.cons_append, readWord_literalCharacter literal unmarked alone,
      inductionHypothesis left fun _ => nonempty]
    rfl
  | case18 quoted character rest single inductionHypothesis =>
    have around : Quoting.around quoted = .opening → rest ≠ [] := by
      intro same
      cases quoted <;> cases same
    have lone : ¬ (character = '\r' ∧ (rest ++ [closing]).head? = some '\n') := by
      rwa [lineFeed]
    rw [List.cons_append, readWord, if_neg lone, inductionHypothesis left around]
    rfl
  | _ => simp_all [readWord]

/-! ### Attempts to read a word -/

/-- An attempt to read a word: the mark that ends the word, and the text from where it starts. -/
structure Attempt where
  mark : Option Char
  text : List Char

/-- The word that an attempt reads. -/
def Attempt.word (attempt : Attempt) : Word :=
  readWord attempt.mark .plain attempt.text

/-- What an attempt reports in a command of `total` characters. -/
def Attempt.report (total : Nat) (attempt : Attempt) : Option Unclosed :=
  attempt.word.report (total - attempt.text.length)

/-- What an attempt gives to the parts of a command: a word or a value. Only names have a mark. -/
def Attempt.given? (attempt : Attempt) : Option String :=
  if attempt.mark.isNone then some (String.ofList attempt.word.text) else none

/-- The text of a word or of a value; a switch has none. -/
def Part.text? : Part → Option String
  | .word text => some text
  | .switch _ => none
  | .value _ text => some text

/-- The value behind the name of an option is read in one attempt. -/
def valueAttempt (text : List Char) : Attempt :=
  ⟨none, skipGap text⟩

/-- The attempts of a cluster, from behind its dash: the letters are no words. -/
def clusterAttempts (isSwitch : String → Bool) : List Char → List Attempt
  | [] => []
  | letter :: rest =>
    if isSeparator letter then []
    else if isSwitch (String.singleton letter) then clusterAttempts isSwitch rest
    else [valueAttempt rest]

/-- The attempts of a long option, from behind its two dashes: the name, and the value if there is
one. -/
def longAttempts (isSwitch : String → Bool) (text : List Char) : List Attempt :=
  let word := readWord (some '=') .plain text
  if word.text.isEmpty then [⟨some '=', text⟩]
  else if isSwitch (String.ofList word.text) then [⟨some '=', text⟩]
  else [⟨some '=', text⟩, valueAttempt word.rest]

/-- The attempts of one step. -/
def stepAttempts (isSwitch : String → Bool) : List Char → List Attempt
  | '-' :: '-' :: rest => longAttempts isSwitch rest
  | '-' :: rest => clusterAttempts isSwitch rest
  | text => [⟨none, text⟩]

/-- The attempts to read a word of a text, in the order in which they are made. -/
def attempts (isSwitch : String → Bool) (text : List Char) : List Attempt :=
  foldSteps isSwitch (fun start later => stepAttempts isSwitch start ++ later) [] text

theorem Attempt.word_rest_suffix (attempt : Attempt) : attempt.word.rest <:+ attempt.text :=
  readWord_rest_suffix attempt.mark .plain attempt.text

/-- Where no text is left, nothing is left open. -/
theorem Attempt.closed_of_nil {attempt : Attempt} (empty : attempt.text = []) :
    attempt.word.unclosed = none := by
  unfold Attempt.word
  rw [empty]
  rfl

theorem Attempt.rest_of_report {total : Nat} {attempt : Attempt} {found : Unclosed}
    (reports : attempt.report total = some found) : attempt.word.rest = [] :=
  readWord_rest_of_open (Word.unclosed_of_report reports)

/-- The place that an attempt reports is where its word starts. -/
theorem Attempt.drop_offset {text : List Char} {attempt : Attempt} {found : Unclosed}
    (reports : attempt.report text.length = some found) (within : attempt.text <:+ text) :
    text.drop found.offset = attempt.text := by
  obtain ⟨construct, -, rfl⟩ := Option.map_eq_some_iff.1 reports
  exact (List.suffix_iff_eq_drop.1 within).symm

/-- To read parts of a text up to the rest of it takes these attempts, one behind another. They give
the words and the values, and the first word that is left open is reported. -/
structure Takes (total : Nat) (text : List Char) (made : List Attempt) (parts : List Part)
    (rest : List Char) (unclosed : Option Unclosed) : Prop where
  forward : rest <:+ text
  within : ∀ attempt ∈ made, attempt.text <:+ text
  behind : ∀ attempt ∈ made, rest <:+ attempt.word.rest
  ordered : made.Pairwise fun earlier later => later.text <:+ earlier.word.rest
  given : parts.filterMap Part.text? = made.filterMap Attempt.given?
  reported : unclosed = made.findSome? (Attempt.report total)

namespace Takes

variable {total : Nat} {text rest : List Char} {made : List Attempt} {parts : List Part}
  {unclosed : Option Unclosed}

/-- Without an attempt nothing is read and nothing is reported. -/
theorem nothing (forward : rest <:+ text) : Takes total text [] [] rest none :=
  ⟨forward, List.forall_mem_nil _, List.forall_mem_nil _, .nil, rfl, rfl⟩

/-- One attempt reads one word. -/
theorem single {attempt : Attempt} (within : attempt.text <:+ text)
    (given : parts.filterMap Part.text? = [attempt].filterMap Attempt.given?) :
    Takes total text [attempt] parts attempt.word.rest (attempt.report total) where
  forward := attempt.word_rest_suffix.trans within
  within := List.forall_mem_singleton.2 within
  behind := List.forall_mem_singleton.2 (List.suffix_refl _)
  ordered := List.pairwise_singleton _ _
  given := given
  reported := by rw [List.findSome?_singleton]

/-- Characters in front of a text take no attempt. -/
theorem skip {whole : List Char} (takes : Takes total text made parts rest unclosed)
    (within : text <:+ whole) : Takes total whole made parts rest unclosed where
  forward := takes.forward.trans within
  within attempt member := (takes.within attempt member).trans within
  behind := takes.behind
  ordered := takes.ordered
  given := takes.given
  reported := takes.reported

/-- A switch in front of other parts takes no attempt. -/
theorem switch (takes : Takes total text made parts rest unclosed) (name : String) :
    Takes total text made (.switch name :: parts) rest unclosed :=
  { takes with }

/-- What is read behind a rest takes its attempts behind the others. -/
theorem append {others : List Attempt} {further : List Part} {last : List Char}
    {found : Option Unclosed} (takes : Takes total text made parts rest unclosed)
    (later : Takes total rest others further last found) :
    Takes total text (made ++ others) (parts ++ further) last (unclosed.or found) where
  forward := later.forward.trans takes.forward
  within := List.forall_mem_append.2
    ⟨takes.within, fun attempt member => (later.within attempt member).trans takes.forward⟩
  behind := List.forall_mem_append.2
    ⟨fun attempt member => later.forward.trans (takes.behind attempt member), later.behind⟩
  ordered := List.pairwise_append.2 ⟨takes.ordered, later.ordered,
    fun earlier inMade attempt inOthers =>
      (later.within attempt inOthers).trans (takes.behind earlier inMade)⟩
  given := by rw [List.filterMap_append, List.filterMap_append, takes.given, later.given]
  reported := by rw [takes.reported, later.reported, List.findSome?_append]

/-- If a word is left open, the attempts before it leave nothing open, and those behind it find no
text. -/
theorem breaksOff {found : Unclosed} (takes : Takes total text made parts rest (some found)) :
    ∃ earlier attempt later, made = earlier ++ attempt :: later ∧
      (∀ other ∈ earlier, other.word.unclosed = none) ∧ attempt.report total = some found ∧
      ∀ other ∈ later, other.text = [] := by
  obtain ⟨earlier, attempt, later, rfl, reports, silent⟩ :=
    List.findSome?_eq_some_iff.1 takes.reported.symm
  refine ⟨earlier, attempt, later, rfl, fun other member => ?_, reports, fun other member => ?_⟩
  · exact (Word.report_eq_none_iff _ _).1 (silent other member)
  · have behind := List.rel_of_pairwise_cons (List.pairwise_append.1 takes.ordered).2.1 member
    rw [Attempt.rest_of_report reports] at behind
    exact List.suffix_nil.1 behind

/-- If a word is left open, the text is read to its end. -/
theorem rest_of_reported {found : Unclosed}
    (takes : Takes total text made parts rest (some found)) : rest = [] := by
  obtain ⟨earlier, attempt, later, rfl, -, reports, -⟩ := takes.breaksOff
  have behind := takes.behind attempt (List.mem_append_right _ List.mem_cons_self)
  rw [Attempt.rest_of_report reports] at behind
  exact List.suffix_nil.1 behind

/-- Nothing is reported if and only if every attempt leaves nothing open. -/
theorem unclosed_eq_none_iff (takes : Takes total text made parts rest unclosed) :
    unclosed = none ↔ ∀ attempt ∈ made, attempt.word.unclosed = none := by
  rw [takes.reported, List.findSome?_eq_none_iff]
  exact forall₂_congr fun attempt _ => Word.report_eq_none_iff attempt.word _

end Takes

/-! ### The attempts of the readers -/

variable {isSwitch : String → Bool}

theorem takes_readValue (total : Nat) (name : String) (text : List Char) :
    Takes total text [valueAttempt text] (readValue total name text).parts
      (readValue total name text).rest (readValue total name text).unclosed := by
  have within : (valueAttempt text).text <:+ text := skipGap_suffix text
  exact .single within rfl

theorem takes_readCluster (total : Nat) (text : List Char) :
    Takes total text (clusterAttempts isSwitch text) (readCluster isSwitch total text).parts
      (readCluster isSwitch total text).rest (readCluster isSwitch total text).unclosed := by
  induction text with
  | nil => exact .nothing (List.suffix_refl _)
  | cons letter rest inductionHypothesis =>
    unfold readCluster clusterAttempts
    split_ifs
    · exact .nothing (List.suffix_refl _)
    · exact (inductionHypothesis.skip (List.suffix_cons letter rest)).switch _
    · exact (takes_readValue total _ rest).skip (List.suffix_cons letter rest)

theorem takes_readLong (total : Nat) (text : List Char) :
    Takes total text (longAttempts isSwitch text) (readLong isSwitch total text).parts
      (readLong isSwitch total text).rest (readLong isSwitch total text).unclosed := by
  have name : Takes total text [⟨some '=', text⟩] [] _ _ := .single (List.suffix_refl text) rfl
  unfold readLong longAttempts
  dsimp only
  split_ifs
  · exact name
  · exact name.switch _
  · exact name.append (takes_readValue total _ _)

theorem stepAttempts_cluster {rest : List Char} (single : rest.head? ≠ some '-') :
    stepAttempts isSwitch ('-' :: rest) = clusterAttempts isSwitch rest := by
  unfold stepAttempts
  split
  · rename_i equal
    cases equal
    exact absurd rfl single
  · rename_i equal
    cases equal
    rfl
  · rename_i cluster
    exact absurd rfl (cluster rest)

theorem stepAttempts_word {first : Char} (word : first ≠ '-') (rest : List Char) :
    stepAttempts isSwitch (first :: rest) = [⟨none, first :: rest⟩] := by
  unfold stepAttempts
  split
  · rename_i equal
    cases equal
    exact absurd rfl word
  · rename_i equal
    cases equal
    exact absurd rfl word
  · rfl

theorem takes_readStep (isSwitch : String → Bool) (total : Nat) (first : Char) (rest : List Char) :
    Takes total (first :: rest) (stepAttempts isSwitch (first :: rest))
      (readStep isSwitch total (first :: rest)).parts
      (readStep isSwitch total (first :: rest)).rest
      (readStep isSwitch total (first :: rest)).unclosed := by
  rcases dashes_cases first rest with ⟨name, rfl, rfl⟩ | ⟨rfl, single⟩ | plain
  · exact (takes_readLong total name).skip ⟨['-', '-'], rfl⟩
  · rw [readStep_cluster single, stepAttempts_cluster single]
    exact (takes_readCluster total rest).skip (List.suffix_cons _ _)
  · rw [readStep_word plain, stepAttempts_word plain]
    have within : (Attempt.mk none (first :: rest)).text <:+ first :: rest := List.suffix_refl _
    exact .single within rfl

/-- A text is read to its end by its attempts, which give the words and the values that it consists
of. -/
theorem takes_readParts (total : Nat) (text : List Char) :
    Takes total text (attempts isSwitch text) (readParts isSwitch total text).1 []
      (readParts isSwitch total text).2 := by
  induction text using step_induction isSwitch total with
  | gap text next =>
    rw [readParts_of_nil next, attempts, foldSteps_of_nil next]
    exact .nothing List.nil_suffix
  | step text character rest next inductionHypothesis =>
    have within : character :: rest <:+ text := next ▸ skipGap_suffix text
    rw [readParts_of_cons next, attempts, foldSteps_of_cons next total]
    exact ((takes_readStep isSwitch total character rest).append inductionHypothesis).skip within

/-- A step that does not reach the end of its text leaves nothing open. -/
theorem readStep_unclosed_of_rest {total : Nat} {first : Char} {rest : List Char}
    (nonempty : (readStep isSwitch total (first :: rest)).rest ≠ []) :
    (readStep isSwitch total (first :: rest)).unclosed = none := by
  have takes := takes_readStep isSwitch total first rest
  cases reported : (readStep isSwitch total (first :: rest)).unclosed with
  | none => rfl
  | some found =>
    rw [reported] at takes
    exact absurd takes.rest_of_reported nonempty

/-- A step that does not reach the end of its text is the same in front of a further text. -/
theorem readStep_append {total : Nat} {first : Char} {rest : List Char}
    (nonempty : (readStep isSwitch total (first :: rest)).rest ≠ []) (other : List Char)
    (longer : Nat) :
    readStep isSwitch longer (first :: (rest ++ other)) =
      ⟨(readStep isSwitch total (first :: rest)).parts,
        (readStep isSwitch total (first :: rest)).rest ++ other, none⟩ := by
  have meaning : StepSays isSwitch (first :: (rest ++ []))
      (readStep isSwitch total (first :: rest)).parts
      ((readStep isSwitch total (first :: rest)).rest ++ []) := by
    rw [List.append_nil, List.append_nil]
    exact (stepSays_iff total).2 ⟨rfl, rfl⟩
  obtain ⟨said, behind⟩ :=
    (stepSays_iff longer).1 (meaning.exchange (head?_append_congr nonempty [] other))
  have remains : (readStep isSwitch longer (first :: (rest ++ other))).rest ≠ [] := by
    rw [behind]
    exact List.append_ne_nil_of_left_ne_nil nonempty other
  rw [← said, ← behind, ← readStep_unclosed_of_rest remains]

/-! ### Closing a command -/

/-- A step that reaches the end of its text and leaves nothing open there. -/
def Step.closed (step : Step) : Step :=
  { step with rest := [], unclosed := none }

/-- A gap in front of a word is the same if a character that is no separator is put at the end. -/
theorem skipGap_concat {text rest : List Char} {first last : Char}
    (start : skipGap text = first :: rest) (inside : isSeparator last = false) :
    skipGap (text ++ [last]) = first :: (rest ++ [last]) := by
  by_cases backslash : first :: rest = ['\x5c']
  · cases backslash
    have ends : skipGap (text ++ []) = ['\x5c'] ++ [] := by rw [List.append_nil, start]; rfl
    rw [skipGap_exchange ends [last]]
    exact if_neg (Bool.eq_false_iff.1 inside)
  · exact skipGap_append start backslash [last]

section Closing

variable {total : Nat} {text : List Char} {found : Unclosed} {closing : Char}

theorem readValue_closing {name : String} (left : (readValue total name text).unclosed = some found)
    (closes : closing ∈ found.construct.closing?) (longer : Nat) :
    readValue longer name (text ++ [closing]) = (readValue total name text).closed := by
  have leftWord : (readWord none .plain (skipGap text)).unclosed = some found.construct :=
    Word.unclosed_of_report left
  obtain ⟨first, begins, -⟩ := exists_first_of_open leftWord
  obtain ⟨rest, start⟩ := List.head?_eq_some_iff.1 begins
  have gap : skipGap (text ++ [closing]) = skipGap text ++ [closing] := by
    rw [skipGap_concat start (Construct.isSeparator_closing closes), start]
    rfl
  unfold readValue
  dsimp only
  rw [gap, readWord_closing leftWord closes nofun]
  rfl

theorem readCluster_closing (left : (readCluster isSwitch total text).unclosed = some found)
    (closes : closing ∈ found.construct.closing?) (longer : Nat) :
    readCluster isSwitch longer (text ++ [closing]) =
      (readCluster isSwitch total text).closed := by
  induction text with
  | nil => cases left
  | cons letter rest inductionHypothesis =>
    rw [List.cons_append]
    unfold readCluster at left ⊢
    split_ifs at left ⊢
    · have later : (readCluster isSwitch total rest).unclosed = some found := left
      rw [inductionHypothesis later]
      rfl
    · exact readValue_closing left closes longer

/-- A long option whose name reaches the end of its text has no value but the empty one. -/
theorem readLong_of_whole {name : List Char} {unclosed : Option Construct}
    (read : readWord (some '=') .plain text = ⟨name, [], unclosed⟩) :
    readLong isSwitch total text =
      ⟨if name.isEmpty then []
        else if isSwitch (String.ofList name) then [.switch (String.ofList name)]
        else [.value (String.ofList name) ""], [],
        Word.report ⟨name, [], unclosed⟩ (total - text.length)⟩ := by
  unfold readLong
  dsimp only
  rw [read]
  split_ifs
  · rfl
  · rfl
  · exact congrArg (Step.mk _ _) Option.or_none

theorem readLong_closing (left : (readLong isSwitch total text).unclosed = some found)
    (closes : closing ∈ found.construct.closing?) (longer : Nat) :
    readLong isSwitch longer (text ++ [closing]) = (readLong isSwitch total text).closed := by
  cases read : readWord (some '=') .plain text with
  | mk name rest unclosed =>
  cases unclosed with
  | some construct =>
    have leftName : (readWord (some '=') .plain text).unclosed = some construct := by rw [read]
    obtain rfl : rest = [] := by simpa [read] using readWord_rest_of_open leftName
    rw [readLong_of_whole read] at left ⊢
    cases left
    have whole := readWord_closing leftName closes nofun
    rw [read] at whole
    rw [readLong_of_whole whole]
    rfl
  | none =>
    rw [readLong_of_readWord read] at left ⊢
    split_ifs at left with anonymous switch
    have nonempty : rest ≠ [] := by
      rintro rfl
      cases left
    rw [readLong_of_readWord (readWord_append read nonempty [closing]), if_neg anonymous,
      if_neg switch, if_neg anonymous, if_neg switch]
    exact readValue_closing left closes longer

theorem readStep_closing {first : Char} {rest : List Char}
    (left : (readStep isSwitch total (first :: rest)).unclosed = some found)
    (closes : closing ∈ found.construct.closing?) (longer : Nat) :
    readStep isSwitch longer (first :: (rest ++ [closing])) =
      (readStep isSwitch total (first :: rest)).closed := by
  rcases dashes_cases first rest with ⟨name, rfl, rfl⟩ | ⟨rfl, single⟩ | plain
  · exact readLong_closing left closes longer
  · have other : closing ≠ '-' := by
      rcases Construct.quote_of_closing closes with rfl | rfl <;> decide
    rw [readStep_cluster single] at left ⊢
    rw [readStep_cluster (head?_append_ne single other [])]
    exact readCluster_closing left closes longer
  · rw [readStep_word plain] at left ⊢
    have whole := readWord_closing (Word.unclosed_of_report left) closes nofun
    rw [readStep_word plain, ← List.cons_append, whole]
    rfl

/-- The quote that closes what a text leaves open changes nothing else. -/
theorem readParts_closing (left : (readParts isSwitch total text).2 = some found)
    (closes : closing ∈ found.construct.closing?) (longer : Nat) :
    readParts isSwitch longer (text ++ [closing]) = ((readParts isSwitch total text).1, none) := by
  induction text using step_induction isSwitch total with
  | gap text next =>
    rw [readParts_of_nil next] at left
    cases left
  | step text character rest next inductionHypothesis =>
    have takes := takes_readStep isSwitch total character rest
    rw [readParts_of_cons next] at left ⊢
    rw [readParts_of_cons (skipGap_concat next (Construct.isSeparator_closing closes))]
    cases reported : (readStep isSwitch total (character :: rest)).unclosed with
    | some other =>
      rw [reported] at left takes
      cases left
      rw [readStep_closing reported closes longer, takes.rest_of_reported]
      show (_ ++ (readParts isSwitch longer []).1, (readParts isSwitch longer []).2) = _
      rw [readParts_of_nil rfl, readParts_of_nil rfl]
      rfl
    | none =>
      rw [reported, Option.none_or] at left
      have nonempty : (readStep isSwitch total (character :: rest)).rest ≠ [] := by
        intro empty
        rw [empty, readParts_of_nil rfl] at left
        cases left
      rw [readStep_append nonempty, Option.none_or, inductionHypothesis left]

/-- The quote that closes what a command leaves open can be put at its end. -/
theorem scan_closing (left : (Command.scan isSwitch text).unclosed = some found)
    (closes : closing ∈ found.construct.closing?) :
    Command.scan isSwitch (text ++ [closing]) =
      { Command.scan isSwitch text with unclosed := none } := by
  have same := readParts_closing left closes (text ++ [closing]).length
  unfold Command.scan
  dsimp only
  rw [same]
  rfl

end Closing

/-- A command that ends inside a construct is diagnosed, and read as if the construct were closed.
At most one attempt to read a word leaves a construct open; it takes at least one character, and
the attempts behind it take none. The construct is reported in that case and in no other, where the
word starts. If a quote closes it, the command with the quote at its end has the same words and
options and leaves nothing open. -/
theorem readWith_unclosed (isSwitch : String → Bool) (text : String)
    (trimmed : trimBoth text.toList = text.toList) (bare : ¬ StartsWithPrompt text.toList) :
    let command := Command.readWith isSwitch text
    let made := attempts isSwitch text.toList
    (command.unclosed = none ↔ ∀ attempt ∈ made, attempt.word.unclosed = none) ∧
    ∀ found, command.unclosed = some found →
      (∃ earlier attempt later, made = earlier ++ attempt :: later ∧
        (∀ other ∈ earlier, other.word.unclosed = none) ∧
        attempt.word.unclosed = some found.construct ∧ attempt.word.rest = [] ∧
        (∀ other ∈ later, other.word.unclosed = none ∧ other.text = []) ∧
        text.toList.drop found.offset = attempt.text) ∧
      (∃ first ∈ text.toList[found.offset]?, isSeparator first = false) ∧
      ∀ closing ∈ found.construct.closing?,
        Command.readWith isSwitch (text.push closing) = { command with unclosed := none } := by
  have whole : stripPrompt text.toList = text.toList := stripPrompt_eq_self trimmed bare
  intro command made
  have read : command = Command.scan isSwitch text.toList := congrArg (Command.scan isSwitch) whole
  have takes : Takes _ _ made _ [] (Command.scan isSwitch text.toList).unclosed :=
    takes_readParts text.toList.length text.toList
  rw [← read] at takes
  refine ⟨takes.unclosed_eq_none_iff, fun found left => ?_⟩
  rw [left] at takes
  obtain ⟨earlier, attempt, later, split, silent, reports, empty⟩ := takes.breaksOff
  have leftWord := Word.unclosed_of_report reports
  have member : attempt ∈ made := split ▸ List.mem_append_right earlier List.mem_cons_self
  have starts := Attempt.drop_offset reports (takes.within attempt member)
  have nothingLeft : ∀ other ∈ later, other.word.unclosed = none ∧ other.text = [] :=
    fun other member => ⟨Attempt.closed_of_nil (empty other member), empty other member⟩
  refine ⟨⟨earlier, attempt, later, split, silent, leftWord, Attempt.rest_of_report reports,
    nothingLeft, starts⟩, ?_, ?_⟩
  · rw [← List.head?_drop, starts]
    exact exists_first_of_open leftWord
  · intro closing closes
    rw [read] at left
    have nonempty : text.toList ≠ [] := by
      intro nothing
      rw [nothing, Command.scan, readParts_of_nil rfl] at left
      cases left
    rw [read, Command.readWith, String.toList_push,
      stripPrompt_concat trimmed bare nonempty (Construct.isBlank_closing closes)]
    exact scan_closing left closes

/-- The value of a long option ends inside single quotes, which start behind a part in double
quotes. -/
theorem readWith_unclosed_value :
    let text := "curl x --data=\"a\"'b c"
    let command := Command.readWith CurlScribe.isSwitch text
    trimBoth text.toList = text.toList ∧ ¬ StartsWithPrompt text.toList ∧
      command.unclosed = some ⟨.singleQuote, 14⟩ ∧
      Command.readWith CurlScribe.isSwitch (text.push '\x27') =
        { command with unclosed := none } := by
  intro text command
  have trimmed : trimBoth text.toList = text.toList := by decide +kernel
  have bare : ¬ StartsWithPrompt text.toList := by decide +kernel
  have left : command.unclosed = some ⟨.singleQuote, 14⟩ := by decide +kernel
  obtain ⟨-, reported⟩ := readWith_unclosed CurlScribe.isSwitch text trimmed bare
  exact ⟨trimmed, bare, left, (reported _ left).2.2 '\x27' rfl⟩

end CurlScribe
