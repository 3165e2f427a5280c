/-
This file proves that the ways to write an option agree. The value of a letter may stand behind
it in the same word or in the next one; the value of a long option may follow an equals sign or
a space; and a cluster of letters may be taken apart behind any letter that is a switch. Each
change leaves the words and the options of a command as they are, whatever text remains, so a
whole cluster says what its letters say one by one.

The two spellings of a value leave the reader at the same word: no gap follows an equals sign or
a letter unless the text has one there, and a space in front of it makes the gap longer.
-/

import CurlScribe.Proofs.Lookahead

namespace CurlScribe

open Text

variable {isSwitch : String → Bool}

/-! ### The same words and options -/

/-- Two commands have the same words and the same options. -/
def Command.Matches (first second : Command) : Prop :=
  first.positionals = second.positionals ∧ first.flags = second.flags

theorem Command.Matches.trans {first second third : Command} (earlier : first.Matches second)
    (later : second.Matches third) : first.Matches third :=
  ⟨earlier.1.trans later.1, earlier.2.trans later.2⟩

/-- What a text says does not depend on where it stands in a command. -/
theorem readParts_fst_eq (total other : Nat) (text : List Char) :
    (readParts isSwitch total text).1 = (readParts isSwitch other text).1 :=
  (says_iff total).1 (says_readParts other text)

theorem scan_matches {first second : List Char}
    (same : (readParts isSwitch first.length first).1 =
      (readParts isSwitch second.length second).1) :
    (Command.scan isSwitch first).Matches (Command.scan isSwitch second) :=
  ⟨congrArg (List.filterMap Part.word?) same, congrArg (List.foldl Flags.record {}) same⟩

/-! ### Spellings -/

/-- A character that can name an option in a cluster. -/
def IsLetter (letter : Char) : Prop :=
  isSeparator letter = false ∧ letter ≠ '-'

instance (letter : Char) : Decidable (IsLetter letter) :=
  inferInstanceAs (Decidable (_ ∧ _))

/-- Two spellings of the option at the start of a text: the value of a letter in its word or behind
a space, the value of a name behind an equals sign or a space, and a switch in front of other
letters or in a cluster of its own. -/
inductive Respelled (isSwitch : String → Bool) : List Char → List Char → Prop
  | letter {letter : Char} (rest : List Char) (proper : IsLetter letter)
    (valued : isSwitch (String.singleton letter) = false) :
    Respelled isSwitch ('-' :: letter :: rest) ('-' :: letter :: ' ' :: rest)
  | name {name : List Char} (rest : List Char) (named : name ≠ [])
    (literal : ∀ character ∈ name, IsLiteral character) (absent : '=' ∉ name)
    (valued : isSwitch (String.ofList name) = false) :
    Respelled isSwitch ('-' :: '-' :: (name ++ '=' :: rest)) ('-' :: '-' :: (name ++ ' ' :: rest))
  | cluster {letter : Char} {rest : List Char} (proper : IsLetter letter)
    (switch : isSwitch (String.singleton letter) = true) (single : rest.head? ≠ some '-') :
    Respelled isSwitch ('-' :: letter :: rest) ('-' :: letter :: ' ' :: '-' :: rest)

/-- Both spellings start with a dash. -/
theorem Respelled.exists_dash {first second : List Char}
    (spelled : Respelled isSwitch first second) :
    ∃ tail other, first = '-' :: tail ∧ second = '-' :: other := by
  cases spelled <;> exact ⟨_, _, rfl, rfl⟩

/-- A space in front of a value makes its gap longer. -/
theorem wordBehind_space (text : List Char) : wordBehind (' ' :: text) = wordBehind text := by
  unfold wordBehind
  rw [skipGap_separator rfl]

/-- What a text says is what its first step says, and what it says behind this step. -/
theorem readParts_of_step {text following behind : List Char} {first : Char} {parts : List Part}
    (start : skipGap text = first :: following)
    (step : StepSays isSwitch (first :: following) parts behind) (total : Nat) :
    (readParts isSwitch total text).1 = parts ++ (readParts isSwitch total behind).1 := by
  obtain ⟨said, rest⟩ := (stepSays_iff total).1 step
  rw [readParts_of_cons start, said, rest]

theorem IsLetter.single {letter : Char} (proper : IsLetter letter) (rest : List Char) :
    (letter :: rest).head? ≠ some '-' := by
  simpa using proper.2

/-- A cluster ends before a space. -/
theorem clusterSays_space (rest : List Char) :
    ClusterSays isSwitch (' ' :: rest) [] (' ' :: rest) := by
  refine .ended fun character first => ?_
  cases first
  rfl

/-- A switch in a cluster of its own. -/
theorem stepSays_switch {letter : Char} (proper : IsLetter letter)
    (switch : isSwitch (String.singleton letter) = true) (rest : List Char) :
    StepSays isSwitch ('-' :: letter :: ' ' :: rest) [.switch (String.singleton letter)]
      (' ' :: rest) :=
  .cluster (proper.single _) (.switch proper.1 switch (clusterSays_space rest))

/-- A dash is no part of a gap. -/
theorem skipGap_dash (text : List Char) : skipGap ('-' :: text) = '-' :: text :=
  skipGap_inside rfl (by decide) text

/-- Two spellings say the same. -/
theorem readParts_respelled {first second : List Char}
    (spelled : Respelled isSwitch first second) (total : Nat) :
    (readParts isSwitch total first).1 = (readParts isSwitch total second).1 := by
  cases spelled with
  | @letter letter rest proper valued =>
    have attached : ClusterSays isSwitch (letter :: rest) _ _ := .value proper.1 valued
    have separate : ClusterSays isSwitch (letter :: ' ' :: rest) _ _ :=
      .of_wordBehind proper.1 valued (wordBehind_space rest)
    rw [readParts_of_step (skipGap_dash _) (.cluster (proper.single _) attached),
      readParts_of_step (skipGap_dash _) (.cluster (proper.single _) separate)]
    rfl
  | @name name rest named literal absent valued =>
    have unmarked : ∀ character ∈ name, some '=' ≠ some character := by
      rintro character member same
      cases same
      exact absent member
    have marked : readWord (some '=') .plain (name ++ '=' :: rest) = _ :=
      readWord_literal literal unmarked (.mark (by decide) rfl)
    have spaced : readWord (some '=') .plain (name ++ ' ' :: rest) = _ :=
      readWord_literal literal unmarked (.separator rfl)
    have attached := LongSays.of_wordBehind marked named valued rfl
    have separate := LongSays.of_wordBehind spaced named valued (wordBehind_space rest)
    rw [readParts_of_step (skipGap_dash _) (.long attached),
      readParts_of_step (skipGap_dash _) (.long separate)]
  | @cluster letter rest proper switch single =>
    have more : ClusterSays isSwitch rest _ _ := (clusterSays_iff total).2 ⟨rfl, rfl⟩
    have gap : skipGap (' ' :: '-' :: rest) = '-' :: rest :=
      (skipGap_separator rfl _).trans (skipGap_dash rest)
    rw [readParts_of_step (skipGap_dash _)
        (.cluster (proper.single _) (.switch proper.1 switch more)),
      readParts_of_step (skipGap_dash _) (stepSays_switch proper switch ('-' :: rest)),
      readParts_of_step gap (.cluster single more)]
    rfl

/-! ### Spellings inside a command -/

/-- The reader of a command comes to the text as to the start of a word, behind what stands before
it. -/
def StartsWord (isSwitch : String → Bool) (before text : List Char) : Prop :=
  ∃ parts, ComesTo isSwitch (before ++ text) parts text

/-- The spelling of an option in a command does not matter, and the other spelling starts a word at
the same place. -/
theorem scan_respelled {before first second : List Char}
    (spelled : Respelled isSwitch first second) (start : StartsWord isSwitch before first) :
    (Command.scan isSwitch (before ++ first)).Matches
        (Command.scan isSwitch (before ++ second)) ∧
      StartsWord isSwitch before second := by
  have same := readParts_respelled spelled
  obtain ⟨tail, other, rfl, rfl⟩ := spelled.exists_dash
  obtain ⟨parts, comes⟩ := start
  have moved := comes.exchange other
  refine ⟨scan_matches ?_, parts, moved⟩
  rw [comes.readParts, moved.readParts, same, readParts_fst_eq]

/-- A gap in front of a text changes nothing about where its words start. -/
theorem ComesTo.of_skipGap {text other rest : List Char} {parts : List Part}
    (same : skipGap text = skipGap other) (comes : ComesTo isSwitch other parts rest) :
    ComesTo isSwitch text parts rest := by
  cases comes with
  | here start => exact .here (same.trans start)
  | later start step more => exact .later (same.trans start) step more

/-- Places where words start follow one another. -/
theorem ComesTo.trans {text middle rest : List Char} {parts others : List Part}
    (comes : ComesTo isSwitch text parts middle) (more : ComesTo isSwitch middle others rest) :
    ComesTo isSwitch text (parts ++ others) rest := by
  induction comes with
  | here start =>
    subst start
    exact more.of_skipGap (skipGap_skipGap _).symm
  | later start step _ inductionHypothesis =>
    rw [List.append_assoc]
    exact .later start step (inductionHypothesis more)

/-- Behind a switch in a cluster of its own the next option starts. -/
theorem StartsWord.behind_switch {before rest : List Char} {letter : Char}
    (proper : IsLetter letter) (switch : isSwitch (String.singleton letter) = true)
    (start : StartsWord isSwitch before ('-' :: letter :: ' ' :: '-' :: rest)) :
    StartsWord isSwitch (before ++ ['-', letter, ' ']) ('-' :: rest) := by
  obtain ⟨parts, comes⟩ := start
  have gap : skipGap (' ' :: '-' :: rest) = '-' :: rest :=
    (skipGap_separator rfl _).trans (skipGap_dash rest)
  have more : ComesTo isSwitch ('-' :: letter :: ' ' :: '-' :: rest) _ ('-' :: rest) :=
    .later (skipGap_dash _) (stepSays_switch proper switch ('-' :: rest)) (.here gap)
  have whole := comes.trans more
  rw [StartsWord, List.append_assoc]
  exact ⟨_, whole⟩

/-- Switches one by one, each in a cluster of its own. -/
def oneByOne (letters : List Char) : List Char :=
  letters.flatMap fun letter => ['-', letter, ' ']

/-- A cluster of switches and a last letter is the same as its letters one by one. -/
theorem scan_oneByOne {before letters rest : List Char} {last : Char}
    (proper : ∀ letter ∈ letters, IsLetter letter)
    (switches : ∀ letter ∈ letters, isSwitch (String.singleton letter) = true)
    (properLast : IsLetter last)
    (start : StartsWord isSwitch before ('-' :: (letters ++ last :: rest))) :
    (Command.scan isSwitch (before ++ '-' :: (letters ++ last :: rest))).Matches
        (Command.scan isSwitch (before ++ oneByOne letters ++ '-' :: last :: rest)) ∧
      StartsWord isSwitch (before ++ oneByOne letters) ('-' :: last :: rest) := by
  induction letters generalizing before with
  | nil =>
    rw [show before ++ oneByOne [] = before from List.append_nil before]
    exact ⟨⟨rfl, rfl⟩, start⟩
  | cons letter letters inductionHypothesis =>
    obtain ⟨here, proper⟩ := List.forall_mem_cons.1 proper
    obtain ⟨switch, switches⟩ := List.forall_mem_cons.1 switches
    have single : (letters ++ last :: rest).head? ≠ some '-' := by
      cases letters with
      | nil => exact properLast.single rest
      | cons next letters => exact (proper next List.mem_cons_self).single _
    obtain ⟨same, moved⟩ := scan_respelled (.cluster here switch single) start
    obtain ⟨later, final⟩ := inductionHypothesis proper switches (moved.behind_switch here switch)
    have split : before ++ ['-', letter, ' '] ++ oneByOne letters =
        before ++ oneByOne (letter :: letters) := List.append_assoc _ _ _
    rw [split] at later final
    rw [List.append_assoc before] at later
    exact ⟨same.trans later, final⟩

/-- All spellings of an option agree. Wherever a word starts and whatever text remains, a value may
be attached to a letter or to a name or stand behind a space, and a switch may be taken out of its
cluster; so a cluster of switches with a last option that takes a value says what these options say
one by one, with the value attached to the last or separate. -/
theorem scan_spellings (isSwitch : String → Bool) (before : List Char) :
    (∀ first second, Respelled isSwitch first second → StartsWord isSwitch before first →
      (Command.scan isSwitch (before ++ first)).Matches
        (Command.scan isSwitch (before ++ second))) ∧
    ∀ letters last rest, (∀ letter ∈ letters, IsLetter letter) →
      (∀ letter ∈ letters, isSwitch (String.singleton letter) = true) →
      IsLetter last → isSwitch (String.singleton last) = false →
      StartsWord isSwitch before ('-' :: (letters ++ last :: rest)) →
      let cluster := Command.scan isSwitch (before ++ '-' :: (letters ++ last :: rest))
      cluster.Matches
          (Command.scan isSwitch (before ++ oneByOne letters ++ '-' :: last :: rest)) ∧
        cluster.Matches
          (Command.scan isSwitch (before ++ oneByOne letters ++ '-' :: last :: ' ' :: rest)) := by
  constructor
  · intro first second spelled start
    exact (scan_respelled spelled start).1
  · intro letters last rest proper switches properLast valued start
    obtain ⟨attached, behind⟩ := scan_oneByOne proper switches properLast start
    obtain ⟨separate, -⟩ := scan_respelled (.letter rest properLast valued) behind
    exact ⟨attached, attached.trans separate⟩

/-- An option with its value attached to its name, and a cluster whose last letter has a value that
comes in quotes. -/
theorem scan_spellings_quoted :
    let before := "curl ".toList
    let first := "--data=a x".toList
    let second := "--data a x".toList
    Respelled CurlScribe.isSwitch first second ∧ StartsWord CurlScribe.isSwitch before first ∧
      (Command.scan CurlScribe.isSwitch (before ++ first)).Matches
        (Command.scan CurlScribe.isSwitch (before ++ second)) ∧
      (∀ letter ∈ ['s', 'k'], IsLetter letter) ∧
      (∀ letter ∈ ['s', 'k'], CurlScribe.isSwitch (String.singleton letter) = true) ∧
      IsLetter 'H' ∧ CurlScribe.isSwitch (String.singleton 'H') = false ∧
      StartsWord CurlScribe.isSwitch before ('-' :: (['s', 'k'] ++ 'H' :: "'A: b' x".toList)) ∧
      (Command.scan CurlScribe.isSwitch "curl -skH'A: b' x".toList).Matches
        (Command.scan CurlScribe.isSwitch "curl -s -k -H 'A: b' x".toList) := by
  intro before first second
  have spelled : Respelled CurlScribe.isSwitch first second :=
    @Respelled.name _ "data".toList "a x".toList (by decide) (by simp [IsLiteral, isSeparator])
      (by decide) (by decide +kernel)
  have start : StartsWord CurlScribe.isSwitch before first :=
    ⟨_, .later rfl (.word (by decide) rfl) (.here rfl)⟩
  have proper : ∀ letter ∈ ['s', 'k'], IsLetter letter := by
    simp [IsLetter, isSeparator]
  have switches : ∀ letter ∈ ['s', 'k'], CurlScribe.isSwitch (String.singleton letter) = true :=
    List.forall_mem_cons.2 ⟨by decide +kernel, List.forall_mem_singleton.2 (by decide +kernel)⟩
  have properLast : IsLetter 'H' := ⟨rfl, by decide⟩
  have valued : CurlScribe.isSwitch (String.singleton 'H') = false := by decide +kernel
  have startCluster : StartsWord CurlScribe.isSwitch before
      ('-' :: (['s', 'k'] ++ 'H' :: "'A: b' x".toList)) :=
    ⟨_, .later rfl (.word (by decide) rfl) (.here rfl)⟩
  obtain ⟨respelled, cluster⟩ := scan_spellings CurlScribe.isSwitch before
  exact ⟨spelled, start, respelled _ _ spelled start, proper, switches, properLast, valued,
    startCluster, (cluster _ _ _ proper switches properLast valued startCluster).2⟩

end CurlScribe
