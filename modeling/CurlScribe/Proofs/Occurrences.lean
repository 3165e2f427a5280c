/-
This file says what a command line consists of, by rules that do not depend on how it is read:
words, clusters of letters and long options follow one another, and behind the name of an
option that takes a value stands one word that is its value. The reader finds exactly what the
rules say, and they leave no choice, so every text consists of one list of parts. Two facts
about these parts are read off the rules at once: an option is a switch or has a value by its
name alone, and no name is empty.
-/

import CurlScribe.Proofs.Scanning

namespace CurlScribe

open Text

/-! ### Options and their values -/

/-- The word behind the name of an option, past the gap. -/
def wordBehind (text : List Char) : Word :=
  readWord none .plain (skipGap text)

/-- The value of an option as part of a command, where the text stands behind the name. -/
def valueBehind (name : String) (text : List Char) : Part :=
  .value name (String.ofList (wordBehind text).text)

variable (isSwitch : String → Bool)

/-- What a text behind the dash of a cluster says, and where the cluster ends. Each letter is an
option; the first with a value is the last. -/
inductive ClusterSays : List Char → List Part → List Char → Prop
  | ended {rest : List Char} (stops : ∀ character ∈ rest.head?, isSeparator character = true) :
    ClusterSays rest [] rest
  | switch {letter : Char} {rest behind : List Char} {parts : List Part}
    (inside : isSeparator letter = false) (switch : isSwitch (String.singleton letter) = true)
    (more : ClusterSays rest parts behind) :
    ClusterSays (letter :: rest) (.switch (String.singleton letter) :: parts) behind
  | value {letter : Char} {rest : List Char} (inside : isSeparator letter = false)
    (valued : isSwitch (String.singleton letter) = false) :
    ClusterSays (letter :: rest) [valueBehind (String.singleton letter) rest]
      (wordBehind rest).rest

/-- What a text behind two dashes says, and where the option ends. The name is the text up to an
equals sign or the end of the word; without a name nothing is said. -/
inductive LongSays : List Char → List Part → List Char → Prop
  | anonymous {text : List Char} {name : Word} (read : readWord (some '=') .plain text = name)
    (empty : name.text = []) : LongSays text [] name.rest
  | switch {text : List Char} {name : Word} (read : readWord (some '=') .plain text = name)
    (named : name.text ≠ []) (switch : isSwitch (String.ofList name.text) = true) :
    LongSays text [.switch (String.ofList name.text)] name.rest
  | value {text : List Char} {name : Word} (read : readWord (some '=') .plain text = name)
    (named : name.text ≠ []) (valued : isSwitch (String.ofList name.text) = false) :
    LongSays text [valueBehind (String.ofList name.text) name.rest] (wordBehind name.rest).rest

/-- What a text says, part by part in order of appearance. -/
inductive Says : List Char → List Part → Prop
  | nothing {text : List Char} (gap : skipGap text = []) : Says text []
  | word {text rest : List Char} {first : Char} {parts : List Part}
    (start : skipGap text = first :: rest) (plain : first ≠ '-')
    (later : Says (readWord none .plain (first :: rest)).rest parts) :
    Says text (.word (String.ofList (readWord none .plain (first :: rest)).text) :: parts)
  | cluster {text rest behind : List Char} {letters parts : List Part}
    (start : skipGap text = '-' :: rest) (single : rest.head? ≠ some '-')
    (here : ClusterSays isSwitch rest letters behind) (later : Says behind parts) :
    Says text (letters ++ parts)
  | long {text rest behind : List Char} {option parts : List Part}
    (start : skipGap text = '-' :: '-' :: rest) (here : LongSays isSwitch rest option behind)
    (later : Says behind parts) : Says text (option ++ parts)

/-! ### The reader finds what is said -/

variable {isSwitch}

theorem clusterSays_iff (total : Nat) {text behind : List Char} {parts : List Part} :
    ClusterSays isSwitch text parts behind ↔
      (readCluster isSwitch total text).parts = parts ∧
        (readCluster isSwitch total text).rest = behind := by
  constructor
  · intro meaning
    induction meaning with
    | @ended rest stops =>
      cases rest with
      | nil => exact ⟨rfl, rfl⟩
      | cons letter rest =>
        rw [readCluster, if_pos (stops letter rfl)]
        exact ⟨rfl, rfl⟩
    | switch inside switch more inductionHypothesis =>
      rw [readCluster, if_neg (Bool.eq_false_iff.1 inside), if_pos switch]
      exact ⟨congrArg _ inductionHypothesis.1, inductionHypothesis.2⟩
    | value inside valued =>
      rw [readCluster, if_neg (Bool.eq_false_iff.1 inside), if_neg (Bool.eq_false_iff.1 valued)]
      exact ⟨rfl, rfl⟩
  · rintro ⟨rfl, rfl⟩
    induction text with
    | nil => exact .ended fun character first => absurd first (Option.not_mem_none character)
    | cons letter rest inductionHypothesis =>
      rw [readCluster]
      split_ifs with separator switch
      · refine .ended fun character first => ?_
        cases first
        exact separator
      · exact .switch (Bool.eq_false_iff.2 separator) switch inductionHypothesis
      · exact .value (Bool.eq_false_iff.2 separator) (Bool.eq_false_iff.2 switch)

theorem longSays_iff (total : Nat) {text behind : List Char} {parts : List Part} :
    LongSays isSwitch text parts behind ↔
      (readLong isSwitch total text).parts = parts ∧
        (readLong isSwitch total text).rest = behind := by
  constructor
  · intro meaning
    unfold readLong
    dsimp only
    cases meaning with
    | anonymous read empty =>
      rw [read, if_pos (List.isEmpty_iff.2 empty)]
      exact ⟨rfl, rfl⟩
    | switch read named switch =>
      rw [read, if_neg (mt List.isEmpty_iff.1 named), if_pos switch]
      exact ⟨rfl, rfl⟩
    | value read named valued =>
      rw [read, if_neg (mt List.isEmpty_iff.1 named), if_neg (Bool.eq_false_iff.1 valued)]
      exact ⟨rfl, rfl⟩
  · rintro ⟨rfl, rfl⟩
    rw [readLong]
    dsimp only
    split_ifs with empty switch
    · exact .anonymous rfl (List.isEmpty_iff.1 empty)
    · exact .switch rfl (mt List.isEmpty_iff.2 empty) switch
    · exact .value rfl (mt List.isEmpty_iff.2 empty) (Bool.eq_false_iff.2 switch)

/-- What a reader finds is what the text says. -/
theorem says_readParts (total : Nat) (text : List Char) :
    Says isSwitch text (readParts isSwitch total text).1 := by
  induction text using step_induction isSwitch total with
  | gap text next =>
    rw [readParts_of_nil next]
    exact .nothing next
  | step text character rest next inductionHypothesis =>
    rw [readParts_of_cons next]
    by_cases dash : character = '-'
    · subst dash
      by_cases long : rest.head? = some '-'
      · obtain ⟨name, rfl⟩ := List.head?_eq_some_iff.1 long
        exact .long next ((longSays_iff total).2 ⟨rfl, rfl⟩) inductionHypothesis
      · rw [readStep_cluster long] at inductionHypothesis ⊢
        exact .cluster next long ((clusterSays_iff total).2 ⟨rfl, rfl⟩) inductionHypothesis
    · rw [readStep_word dash] at inductionHypothesis ⊢
      exact .word next dash inductionHypothesis

/-- A text says one list of parts, and the reader finds it. -/
theorem says_iff (total : Nat) {text : List Char} {parts : List Part} :
    Says isSwitch text parts ↔ (readParts isSwitch total text).1 = parts := by
  refine ⟨fun meaning => ?_, fun found => found ▸ says_readParts total text⟩
  induction meaning with
  | nothing gap => rw [readParts_of_nil gap]
  | word start plain later inductionHypothesis =>
    rw [readParts_of_cons start, readStep_word plain]
    exact congrArg (_ :: ·) inductionHypothesis
  | cluster start single here later inductionHypothesis =>
    obtain ⟨rfl, rfl⟩ := (clusterSays_iff total).1 here
    rw [readParts_of_cons start, readStep_cluster single]
    exact congrArg (_ ++ ·) inductionHypothesis
  | long start here later inductionHypothesis =>
    obtain ⟨rfl, rfl⟩ := (longSays_iff total).1 here
    rw [readParts_of_cons start]
    exact congrArg (_ ++ ·) inductionHypothesis

/-! ### Options by their names -/

/-- A part gives a switch for options without a value, and a value for the others. -/
def Part.Suits (isSwitch : String → Bool) : Part → Prop
  | .word _ => True
  | .switch name => isSwitch name = true
  | .value name _ => isSwitch name = false

/-- The option of a part has a name. -/
def Part.IsNamed : Part → Prop
  | .word _ => True
  | .switch name => name ≠ ""
  | .value name _ => name ≠ ""

theorem ClusterSays.suits {text behind : List Char} {parts : List Part}
    (meaning : ClusterSays isSwitch text parts behind) :
    ∀ part ∈ parts, part.Suits isSwitch ∧ part.IsNamed := by
  induction meaning with
  | ended stops => exact List.forall_mem_nil _
  | switch inside switch more inductionHypothesis =>
    exact List.forall_mem_cons.2 ⟨⟨switch, String.singleton_ne_empty⟩, inductionHypothesis⟩
  | value inside valued =>
    exact List.forall_mem_singleton.2 ⟨valued, String.singleton_ne_empty⟩

theorem LongSays.suits {text behind : List Char} {parts : List Part}
    (meaning : LongSays isSwitch text parts behind) :
    ∀ part ∈ parts, part.Suits isSwitch ∧ part.IsNamed := by
  cases meaning with
  | anonymous read empty => exact List.forall_mem_nil _
  | switch read named switch =>
    exact List.forall_mem_singleton.2 ⟨switch, mt String.ofList_eq_empty_iff.1 named⟩
  | value read named valued =>
    exact List.forall_mem_singleton.2 ⟨valued, mt String.ofList_eq_empty_iff.1 named⟩

/-- Every option is a switch or has a value by its name alone, and has a name. -/
theorem Says.suits {text : List Char} {parts : List Part} (meaning : Says isSwitch text parts) :
    ∀ part ∈ parts, part.Suits isSwitch ∧ part.IsNamed := by
  induction meaning with
  | nothing gap => exact List.forall_mem_nil _
  | word start plain later inductionHypothesis =>
    exact List.forall_mem_cons.2 ⟨⟨trivial, trivial⟩, inductionHypothesis⟩
  | cluster start single here later inductionHypothesis =>
    exact List.forall_mem_append.2 ⟨here.suits, inductionHypothesis⟩
  | long start here later inductionHypothesis =>
    exact List.forall_mem_append.2 ⟨here.suits, inductionHypothesis⟩

/-- No option is ever read as a switch here and with a value there. -/
theorem readParts_suits (isSwitch : String → Bool) (total : Nat) (text : List Char) :
    ∀ part ∈ (readParts isSwitch total text).1, part.Suits isSwitch :=
  fun part member => ((says_readParts total text).suits part member).1

/-- No option is ever read without a name. -/
theorem readParts_isNamed (isSwitch : String → Bool) (total : Nat) (text : List Char) :
    ∀ part ∈ (readParts isSwitch total text).1, part.IsNamed :=
  fun part member => ((says_readParts total text).suits part member).2

end CurlScribe
