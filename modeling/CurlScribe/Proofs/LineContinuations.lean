/-
This file proves what a backslash at the end of a line does to a command. Put with a line feed
between a word and the space behind it, it changes neither the words nor the options: at the end
of a word it vanishes together with the line feed, and in front of a word both belong to the gap.

There is one exception. A cluster whose letters are all switches goes on with any character that is
no separator, so behind such a cluster the backslash is one more letter, and the option it names
takes what follows. The two cases exclude each other, and together they are all there is.
-/

import CurlScribe.Proofs.OpenConstructs
import CurlScribe.Proofs.Spellings

namespace CurlScribe

open Text

/-! ### A line continued behind a text -/

/-- A text, a backslash at the end of its line, a space, and another text. -/
def continued (text later : List Char) : List Char :=
  text ++ '\x5c' :: '\n' :: ' ' :: later

@[simp] theorem continued_nil (later : List Char) :
    continued [] later = '\x5c' :: '\n' :: ' ' :: later := rfl

@[simp] theorem continued_cons (character : Char) (text later : List Char) :
    continued (character :: text) later = character :: continued text later := rfl

/-- A gap that reaches the end of its text goes on behind the continued line. -/
theorem skipGap_continued_of_nil {text : List Char} (empty : skipGap text = [])
    (later : List Char) : skipGap (continued text later) = skipGap (' ' :: later) := by
  have ends : skipGap (text ++ []) = [] ++ [] := by rw [List.append_nil, empty]; rfl
  rw [continued, skipGap_exchange ends]
  rfl

/-- A backslash looks like the end of a text from inside a word. -/
theorem looksAlike_continued (mark : Option Char) (text later : List Char) :
    LooksAlike mark (continued text later) text := by
  cases text with
  | nil => exact ⟨by simp [opensQuote], by simp⟩
  | cons first rest => exact .of_head? (by rfl) mark

/-- A word that reaches the end of its text takes a line continuation with it, unless its mark ends
it there; what is left is a gap in any case. -/
theorem readWord_continued {mark : Option Char} {quoting : Quoting} {text : List Char}
    (unmarked : mark ≠ some '\x5c') (closed : (readWord mark quoting text).unclosed = none)
    (ends : (readWord mark quoting text).rest = []) (later : List Char) :
    ∃ rest, readWord mark quoting (continued text later) =
        ⟨(readWord mark quoting text).text, rest, none⟩ ∧
      skipGap rest = skipGap (' ' :: later) := by
  induction text generalizing quoting with
  | nil =>
    cases quoting with
    | plain =>
      refine ⟨' ' :: later, ?_, rfl⟩
      rw [continued_nil, readWord_backslash unmarked]
      rfl
    | _ => cases closed
  | cons character text inductionHypothesis =>
    rcases readWord_cons mark quoting character text with ⟨rfl, stop, stops⟩ | ⟨next, _, goesOn⟩
    · rw [readWord_of_stops stops] at ends ⊢
      cases stops with
      | separator separated => cases ends
      | mark inside marked =>
        obtain rfl : text = [] := ends
        refine ⟨continued [] later, ?_, skipGap_continued_of_nil rfl later⟩
        exact readWord_of_stops (.mark inside marked)
    · rw [goesOn _ (.of_head? rfl mark)] at closed ends ⊢
      obtain ⟨rest, read, gap⟩ := inductionHypothesis closed ends
      refine ⟨rest, ?_, gap⟩
      rw [continued_cons, goesOn _ (looksAlike_continued mark text later), read]
      rfl

/-- In front of a space alone the same is left. -/
theorem readWord_spaced_of_ends {mark : Option Char} {quoting : Quoting} {text : List Char}
    (closed : (readWord mark quoting text).unclosed = none)
    (ends : (readWord mark quoting text).rest = []) (later : List Char) :
    readWord mark quoting (spaced text later) =
      ⟨(readWord mark quoting text).text, ' ' :: later, none⟩ := by
  rw [readWord_spaced closed, Word.before, ends, closed]
  rfl

/-! ### Clusters of switches -/

/-- The text consists of letters of which none takes a value. -/
def onlySwitches (isSwitch : String → Bool) (letters : List Char) : Bool :=
  letters.all fun letter => !isSeparator letter && isSwitch (String.singleton letter)

/-- The text is a single cluster of switches, which may have no letter at all. -/
def stepSwitches (isSwitch : String → Bool) : List Char → Bool
  | '-' :: rest => rest.head? ≠ some '-' && onlySwitches isSwitch rest
  | _ => false

theorem stepSwitches_iff {isSwitch : String → Bool} {first : Char} {rest : List Char} :
    stepSwitches isSwitch (first :: rest) = true ↔
      first = '-' ∧ rest.head? ≠ some '-' ∧ onlySwitches isSwitch rest = true := by
  by_cases dash : first = '-'
  · subst dash
    simp [stepSwitches]
  · simp [stepSwitches, dash]

/-- The text ends with a cluster of switches, so that a further letter would belong to it. -/
def endsInSwitches (isSwitch : String → Bool) (text : List Char) : Bool :=
  foldSteps isSwitch (fun start later => stepSwitches isSwitch start || later) false text

variable {isSwitch : String → Bool} {total : Nat} {text : List Char}

theorem endsInSwitches_of_nil (empty : skipGap text = []) :
    endsInSwitches isSwitch text = false :=
  foldSteps_of_nil empty

theorem endsInSwitches_of_cons {rest : List Char} {character : Char}
    (next : skipGap text = character :: rest) (total : Nat) :
    endsInSwitches isSwitch text =
      (stepSwitches isSwitch (character :: rest) ||
        endsInSwitches isSwitch (readStep isSwitch total (character :: rest)).rest) :=
  foldSteps_of_cons next total

/-! ### Steps in front of a continued line -/

/-- Two steps say the same and go on with the same word. -/
structure Step.Agrees (first second : Step) : Prop where
  parts : first.parts = second.parts
  gap : skipGap first.rest = skipGap second.rest

theorem readValue_congr {first second : List Char} (same : skipGap first = skipGap second)
    (name : String) (longer other : Nat) :
    (readValue longer name first).Agrees (readValue other name second) := by
  unfold readValue
  rw [same]
  exact ⟨rfl, rfl⟩

theorem readValue_continued {name : String} (closed : (readValue total name text).unclosed = none)
    (ends : (readValue total name text).rest = []) (later : List Char) (longer other : Nat) :
    (readValue longer name (continued text later)).Agrees
      (readValue other name (spaced text later)) := by
  cases start : skipGap text with
  | nil =>
    refine readValue_congr ?_ name longer other
    rw [skipGap_continued_of_nil start, skipGap_spaced_of_nil start, skipGap_separator rfl]
  | cons first rest =>
    have closedWord := (Word.report_eq_none_iff _ _).1 closed
    rw [start] at closedWord
    have whole : first :: rest ≠ ['\x5c'] := by
      intro single
      rw [single] at closedWord
      cases closedWord
    have ends : (readWord none .plain (first :: rest)).rest = [] := start ▸ ends
    have gap : skipGap (continued text later) = continued (first :: rest) later :=
      skipGap_append start whole _
    have gapSpaced : skipGap (spaced text later) = spaced (first :: rest) later :=
      skipGap_append start whole _
    obtain ⟨left, read, behind⟩ := readWord_continued (by decide) closedWord ends later
    unfold readValue
    dsimp only
    rw [gap, gapSpaced, read, readWord_spaced_of_ends closedWord ends]
    exact ⟨rfl, behind⟩

theorem readCluster_continued (given : onlySwitches isSwitch text = false)
    (closed : (readCluster isSwitch total text).unclosed = none)
    (ends : (readCluster isSwitch total text).rest = []) (later : List Char)
    (longer other : Nat) :
    (readCluster isSwitch longer (continued text later)).Agrees
      (readCluster isSwitch other (spaced text later)) := by
  induction text with
  | nil => cases given
  | cons letter rest inductionHypothesis =>
    rw [continued_cons, spaced_cons]
    unfold readCluster at closed ends ⊢
    split_ifs at closed ends ⊢ with separated switch
    · have more : onlySwitches isSwitch rest = false := by
        simpa [onlySwitches, separated, switch] using given
      obtain ⟨parts, gap⟩ := inductionHypothesis more closed ends
      exact ⟨congrArg (_ :: ·) parts, gap⟩
    · exact readValue_continued closed ends later longer other

theorem readLong_continued (closed : (readLong isSwitch total text).unclosed = none)
    (ends : (readLong isSwitch total text).rest = []) (later : List Char) (longer other : Nat) :
    (readLong isSwitch longer (continued text later)).Agrees
      (readLong isSwitch other (spaced text later)) := by
  have closedName := readWord_closed_of_readLong closed
  cases read : readWord (some '=') .plain text with
  | mk name rest unclosed =>
    rw [read] at closedName
    obtain rfl : unclosed = none := closedName
    rw [readLong_of_readWord read] at closed ends
    -- Either the name reaches the end of the text, or a value does.
    by_cases whole : rest = []
    · subst whole
      have closedName : (readWord (some '=') .plain text).unclosed = none := by rw [read]
      have endsName : (readWord (some '=') .plain text).rest = [] := by rw [read]
      obtain ⟨left, readName, behind⟩ := readWord_continued (by decide) closedName endsName later
      have readSpaced := readWord_spaced_of_ends closedName endsName later
      rw [read] at readName readSpaced
      rw [readLong_of_readWord readName, readLong_of_readWord readSpaced]
      split_ifs
      · exact ⟨rfl, behind⟩
      · exact ⟨rfl, behind⟩
      · exact readValue_congr behind _ longer other
    · rw [continued, readLong_of_readWord (readWord_append read whole _), spaced,
        readLong_of_readWord (readWord_append read whole _)]
      split_ifs at closed ends ⊢
      · exact absurd ends whole
      · exact absurd ends whole
      · exact readValue_continued closed ends later longer other

theorem readStep_continued {first : Char} {rest : List Char}
    (given : stepSwitches isSwitch (first :: rest) = false)
    (closed : (readStep isSwitch total (first :: rest)).unclosed = none)
    (ends : (readStep isSwitch total (first :: rest)).rest = []) (later : List Char)
    (longer other : Nat) :
    (readStep isSwitch longer (first :: continued rest later)).Agrees
      (readStep isSwitch other (first :: spaced rest later)) := by
  rcases dashes_cases first rest with ⟨name, rfl, rfl⟩ | ⟨rfl, single⟩ | plain
  · exact readLong_continued closed ends later longer other
  · have more : onlySwitches isSwitch rest = false := by
      simpa [stepSwitches, single] using given
    rw [readStep_cluster single] at closed ends
    rw [continued, readStep_cluster (head?_append_ne single (by decide) _), spaced,
      readStep_cluster (head?_append_ne single (by decide) _)]
    exact readCluster_continued more closed ends later longer other
  · rw [readStep_word plain] at closed ends ⊢
    have closedWord := (Word.report_eq_none_iff _ _).1 closed
    obtain ⟨left, read, behind⟩ := readWord_continued (by decide) closedWord ends later
    have readSpaced := readWord_spaced_of_ends closedWord ends later
    rw [continued_cons] at read
    rw [spaced_cons] at readSpaced
    rw [readStep_word plain, read, readSpaced]
    exact ⟨rfl, behind⟩

/-! ### Commands with a continued line -/

/-- A gap in front of a step that leaves nothing open is the same whatever stands behind. -/
theorem skipGap_append_of_closed {first : Char} {rest : List Char}
    (start : skipGap text = first :: rest)
    (closed : (readStep isSwitch total (first :: rest)).unclosed = none) (other : List Char) :
    skipGap (text ++ other) = first :: (rest ++ other) := by
  refine skipGap_append start ?_ other
  intro single
  rw [single] at closed
  cases closed

/-- A continued line behind a text says what a space behind the text says, unless the text ends in
switches. -/
theorem readParts_continued (given : endsInSwitches isSwitch text = false)
    (closed : (readParts isSwitch total text).2 = none) (later : List Char) (longer other : Nat) :
    (readParts isSwitch longer (continued text later)).1 =
      (readParts isSwitch other (spaced text later)).1 := by
  induction text using step_induction isSwitch total with
  | gap text next =>
    have same := (skipGap_continued_of_nil next later).trans (skipGap_separator rfl later)
    rw [readParts_congr (same.trans (skipGap_spaced_of_nil next later).symm), readParts_fst_eq]
  | step text first rest next inductionHypothesis =>
    rw [endsInSwitches_of_cons next total, Bool.or_eq_false_iff] at given
    rw [readParts_of_cons next] at closed
    obtain ⟨closedStep, closedLater⟩ := Option.or_eq_none_iff.1 closed
    have gap : skipGap (continued text later) = first :: continued rest later :=
      skipGap_append_of_closed next closedStep _
    have gapSpaced : skipGap (spaced text later) = first :: spaced rest later :=
      skipGap_append_of_closed next closedStep _
    rw [readParts_of_cons gap, readParts_of_cons gapSpaced]
    by_cases ends : (readStep isSwitch total (first :: rest)).rest = []
    · obtain ⟨parts, behind⟩ := readStep_continued given.1 closedStep ends later longer other
      rw [parts, readParts_congr behind, readParts_fst_eq longer other]
    · rw [continued, spaced, readStep_append ends, readStep_append ends]
      exact congrArg (_ ++ ·) (inductionHypothesis given.2 closedLater)

/-- Switches in front of a cluster are part of it. -/
theorem ClusterSays.behind_switches {letters behind rest : List Char} {parts : List Part}
    (meaning : ClusterSays isSwitch behind parts rest)
    (switches : onlySwitches isSwitch letters = true) :
    ClusterSays isSwitch (letters ++ behind)
      (letters.map (fun letter => .switch (String.singleton letter)) ++ parts) rest := by
  induction letters with
  | nil => exact meaning
  | cons letter letters inductionHypothesis =>
    obtain ⟨⟨inside, switch⟩, more⟩ :
        (isSeparator letter = false ∧ isSwitch (String.singleton letter) = true) ∧
          onlySwitches isSwitch letters = true := by
      simpa [onlySwitches] using switches
    exact .switch inside switch (inductionHypothesis more)

/-- The backslash of a continued line names the same option as one in front of a space. -/
theorem readCluster_backslash (isSwitch : String → Bool) (later : List Char)
    (longer other : Nat) :
    (readCluster isSwitch longer (continued [] later)).Agrees
      (readCluster isSwitch other ('\x5c' :: ' ' :: later)) := by
  have same : skipGap ('\n' :: ' ' :: later) = skipGap (' ' :: later) := skipGap_separator rfl _
  rw [continued_nil]
  unfold readCluster
  split_ifs
  · contradiction
  · exact ⟨rfl, same⟩
  · exact readValue_congr same _ longer other

theorem readParts_switches_continued {letters : List Char} (single : letters.head? ≠ some '-')
    (switches : onlySwitches isSwitch letters = true) (later : List Char) (longer other : Nat) :
    (readParts isSwitch longer ('-' :: continued letters later)).1 =
      (readParts isSwitch other
        ('-' :: spaced letters ('-' :: '\x5c' :: ' ' :: later))).1 := by
  have inCluster : ClusterSays isSwitch (continued [] later) _ _ :=
    (clusterSays_iff longer).2 ⟨rfl, rfl⟩
  have alone : ClusterSays isSwitch ('\x5c' :: ' ' :: later) _ _ :=
    (clusterSays_iff other).2 ⟨rfl, rfl⟩
  have ended : ClusterSays isSwitch (spaced [] ('-' :: '\x5c' :: ' ' :: later)) [] _ :=
    clusterSays_space _
  have gap : skipGap (' ' :: '-' :: '\x5c' :: ' ' :: later) = '-' :: '\x5c' :: ' ' :: later :=
    (skipGap_separator rfl _).trans (skipGap_dash _)
  obtain ⟨parts, behind⟩ := readCluster_backslash isSwitch later longer other
  have whole : StepSays isSwitch ('-' :: continued letters later) _ _ :=
    .cluster (head?_append_ne single (by decide) _) (inCluster.behind_switches switches)
  have front : StepSays isSwitch ('-' :: spaced letters ('-' :: '\x5c' :: ' ' :: later)) _ _ :=
    .cluster (head?_append_ne single (by decide) _) (ended.behind_switches switches)
  rw [readParts_of_step (skipGap_dash _) whole, readParts_of_step (skipGap_dash _) front,
    readParts_of_step gap (.cluster (by simp) alone), parts, readParts_congr behind,
    readParts_fst_eq longer other, List.append_nil, List.append_assoc]

/-- A continued line behind switches gives one more option, which the backslash names. -/
theorem readParts_continued_switches (given : endsInSwitches isSwitch text = true)
    (closed : (readParts isSwitch total text).2 = none) (later : List Char) (longer other : Nat) :
    (readParts isSwitch longer (continued text later)).1 =
      (readParts isSwitch other (spaced text ('-' :: '\x5c' :: ' ' :: later))).1 := by
  induction text using step_induction isSwitch total with
  | gap text next =>
    rw [endsInSwitches_of_nil next] at given
    cases given
  | step text first rest next inductionHypothesis =>
    rw [endsInSwitches_of_cons next total, Bool.or_eq_true] at given
    rw [readParts_of_cons next] at closed
    obtain ⟨closedStep, closedLater⟩ := Option.or_eq_none_iff.1 closed
    have gap : skipGap (continued text later) = first :: continued rest later :=
      skipGap_append_of_closed next closedStep _
    have gapSpaced : ∀ behind, skipGap (spaced text behind) = first :: spaced rest behind :=
      fun behind => skipGap_append_of_closed next closedStep _
    rcases given with here | further
    · obtain ⟨rfl, single, switches⟩ := stepSwitches_iff.1 here
      rw [readParts_congr (gap.trans (skipGap_dash _).symm),
        readParts_congr ((gapSpaced _).trans (skipGap_dash _).symm)]
      exact readParts_switches_continued single switches later longer other
    · have ends : (readStep isSwitch total (first :: rest)).rest ≠ [] := by
        intro nothing
        rw [nothing, endsInSwitches_of_nil rfl] at further
        cases further
      rw [readParts_of_cons gap, readParts_of_cons (gapSpaced _), continued, spaced,
        readStep_append ends, readStep_append ends]
      exact congrArg (_ ++ ·) (inductionHypothesis further closedLater)

/-- A continued line in a command is as good as a space, or as a space and an option that the
backslash names. -/
theorem scan_continued (isSwitch : String → Bool) {before : List Char}
    (closed : (Command.scan isSwitch before).unclosed = none) (later : List Char) :
    (endsInSwitches isSwitch before = false →
      (Command.scan isSwitch (continued before later)).Matches
        (Command.scan isSwitch (spaced before later))) ∧
    (endsInSwitches isSwitch before = true →
      (Command.scan isSwitch (continued before later)).Matches
        (Command.scan isSwitch (spaced before ('-' :: '\x5c' :: ' ' :: later)))) :=
  ⟨fun given => scan_matches (readParts_continued given closed later _ _),
    fun given => scan_matches (readParts_continued_switches given closed later _ _)⟩

/-- What is removed around a command is removed as well if a line of the command is continued, or an
option put behind the space. -/
theorem surrounds_continued {lead trail before later : List Char}
    (around : Surrounds lead trail (spaced before later)) :
    Surrounds lead trail (continued before later) ∧
      Surrounds lead trail (spaced before ('-' :: '\x5c' :: ' ' :: later)) := by
  obtain ⟨start, edge⟩ := trimBoth_eq_self_iff.1 around.trimmed
  have nonempty : later ≠ [] := by
    rintro rfl
    exact absurd (edge ' ' List.getLast?_concat) (by decide)
  -- The three commands end in the same text, which ends with no blank.
  have ends : ∀ front : List Char, ∀ last ∈ (front ++ later).getLast?, isBlank last = false := by
    intro front
    rw [spaced, ← List.singleton_append, ← List.append_assoc,
      List.getLast?_append_of_ne_nil _ nonempty] at edge
    rwa [List.getLast?_append_of_ne_nil _ nonempty]
  cases before with
  | nil => exact absurd (start ' ' rfl) (by decide)
  | cons first rest =>
    constructor
    · refine around.exchange rfl ?_ ?_
      · cases rest with
        | nil => exact fun prompt => absurd prompt.2 (by decide)
        | cons second rest => exact id
      · simpa [continued] using ends (first :: rest ++ ['\x5c', '\n', ' '])
    · refine around.exchange rfl ?_ ?_
      · cases rest with
        | nil => exact id
        | cons second rest => exact id
      · simpa [spaced] using ends (first :: rest ++ [' ', '-', '\x5c', ' '])

/-- Where a line of a command is continued between a word and a space, the words and the options
stay the same, unless the word is a cluster of switches. Behind such a cluster the backslash names
a further option, which takes what follows, as if it stood there with a dash of its own. -/
theorem readWith_continued (isSwitch : String → Bool) (text : String) {before later : List Char}
    (point : stripPrompt text.toList = spaced before later)
    (closed : (Command.scan isSwitch before).unclosed = none) :
    ∃ lead trail, text.toList = lead ++ spaced before later ++ trail ∧
      let command :=
        Command.readWith isSwitch (String.ofList (lead ++ continued before later ++ trail))
      (endsInSwitches isSwitch before = false →
        command.Matches (Command.readWith isSwitch text)) ∧
      (endsInSwitches isSwitch before = true →
        command.Matches (Command.readWith isSwitch
          (String.ofList (lead ++ spaced before ('-' :: '\x5c' :: ' ' :: later) ++ trail)))) := by
  obtain ⟨lead, trail, split, around⟩ := exists_surrounds text.toList
  rw [point] at split around
  obtain ⟨aroundContinued, aroundOption⟩ := surrounds_continued around
  refine ⟨lead, trail, split, ?_⟩
  simp only [Command.readWith, String.toList_ofList, point,
    aroundContinued.stripPrompt_eq (by simp [continued]),
    aroundOption.stripPrompt_eq (by simp [spaced])]
  exact scan_continued isSwitch closed later

/-- A continued line behind the first word of a command, and one behind a switch. -/
theorem readWith_continued_prompt :
    let text := "$ curl -s http://x"
    let word := "curl".toList
    let cluster := "curl -s".toList
    let behind := "-s http://x".toList
    let address := "http://x".toList
    stripPrompt text.toList = spaced word behind ∧
      (Command.scan CurlScribe.isSwitch word).unclosed = none ∧
      endsInSwitches CurlScribe.isSwitch word = false ∧
      (∃ lead trail, text.toList = lead ++ spaced word behind ++ trail ∧
        (Command.read (String.ofList (lead ++ continued word behind ++ trail))).Matches
          (Command.read text)) ∧
      stripPrompt text.toList = spaced cluster address ∧
      (Command.scan CurlScribe.isSwitch cluster).unclosed = none ∧
      endsInSwitches CurlScribe.isSwitch cluster = true ∧
      ∃ lead trail, text.toList = lead ++ spaced cluster address ++ trail ∧
        (Command.read (String.ofList (lead ++ continued cluster address ++ trail))).Matches
          (Command.read (String.ofList
            (lead ++ spaced cluster ('-' :: '\x5c' :: ' ' :: address) ++ trail))) := by
  intro text word cluster behind address
  have pointWord : stripPrompt text.toList = spaced word behind := by decide +kernel
  have pointCluster : stripPrompt text.toList = spaced cluster address := by decide +kernel
  have closedWord : (Command.scan CurlScribe.isSwitch word).unclosed = none := by decide +kernel
  have closedCluster : (Command.scan CurlScribe.isSwitch cluster).unclosed = none := by
    decide +kernel
  have given : endsInSwitches CurlScribe.isSwitch word = false := by decide +kernel
  have switches : endsInSwitches CurlScribe.isSwitch cluster = true := by decide +kernel
  obtain ⟨lead, trail, split, same, -⟩ :=
    readWith_continued CurlScribe.isSwitch text pointWord closedWord
  obtain ⟨front, tail, around, -, option⟩ :=
    readWith_continued CurlScribe.isSwitch text pointCluster closedCluster
  exact ⟨pointWord, closedWord, given, ⟨lead, trail, split, same given⟩, pointCluster,
    closedCluster, switches, front, tail, around, option switches⟩

/-- Behind a switch a line cannot be continued: the option that the backslash names takes the
address. -/
theorem not_matches_continued :
    (Command.read "curl -s http://x").unclosed = none ∧
      ¬ (Command.read "curl -s\\\n http://x").Matches (Command.read "curl -s http://x") := by
  refine ⟨by decide +kernel, ?_⟩
  rintro ⟨positionals, -⟩
  exact absurd positionals (by decide +kernel)

end CurlScribe
