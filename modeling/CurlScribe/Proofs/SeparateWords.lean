/-
This file compares the command that a list of words asks for with the command that is read
from the line they make up. The first is read word by word: a word that starts with a dash
is an option, unless an option before it waits for its value, and any other word is that
value or stands alone. The second quotes the words, joins them and reads the line.

Both are the same exactly when every option of the list survives on the line. An option
that needs quotes does not, since the quote then hides its dash and it is read as a word
that stands alone. Nor does a long option that has a value and no name: reading it stops at
the equals sign, and what should be its value is read as the next word.
-/

import CurlScribe.Proofs.OptionMap
import CurlScribe.Proofs.ShellWords

namespace CurlScribe

open Text

/-! ### Forms of words -/

/-- The forms of a word: a long option with a value behind an equals sign, a long option alone, a
cluster of one-letter options, or anything else. -/
inductive WordForm where
  | attached (name value : List Char)
  | long (name : List Char)
  | cluster (letters : List Char)
  | word (text : List Char)
  deriving DecidableEq, Repr

namespace WordForm

/-- The form of a word. -/
def of : List Char → WordForm
  | '-' :: '-' :: text =>
    match splitFirst '=' text with
    | some (name, value) => .attached name value
    | none => .long text
  | '-' :: letters => .cluster letters
  | text => .word text

/-- The word of a form. -/
def written : WordForm → List Char
  | .attached name value => '-' :: '-' :: (name ++ '=' :: value)
  | .long name => '-' :: '-' :: name
  | .cluster letters => '-' :: letters
  | .word text => text

/-- The word is an option. -/
def isOption : WordForm → Bool
  | .word _ => false
  | _ => true

/-- The first equals sign ends a name, a cluster starts with one dash, and other words with none. -/
def Proper : WordForm → Prop
  | .attached name _ => '=' ∉ name
  | .long name => '=' ∉ name
  | .cluster letters => letters.head? ≠ some '-'
  | .word text => text.head? ≠ some '-'

theorem written_of (text : List Char) : (of text).written = text ∧ (of text).Proper := by
  unfold of
  split
  · rename_i name
    split
    · rename_i found
      obtain ⟨rfl, absent⟩ := splitFirst_eq_some found
      exact ⟨rfl, absent⟩
    · rename_i missing
      exact ⟨rfl, (splitFirst_eq_none_iff '=' name).1 missing⟩
  · rename_i letters single
    refine ⟨rfl, fun dash => ?_⟩
    obtain ⟨rest, rfl⟩ := List.head?_eq_some_iff.1 dash
    exact single rest rfl
  · rename_i single
    refine ⟨rfl, fun dash => ?_⟩
    obtain ⟨rest, rfl⟩ := List.head?_eq_some_iff.1 dash
    exact single rest rfl

theorem head?_written_of_isOption {form : WordForm} (option : form.isOption = true) :
    form.written.head? = some '-' := by
  cases form with
  | word text => cases option
  | _ => rfl

end WordForm

/-! ### Reading words one by one -/

/-- What one word asks for, and the option, if any, that takes the next word as its value. -/
structure Reading where
  parts : List Part
  waiting : Option String
  deriving DecidableEq, Repr

/-- The letters of a cluster, from left to right. The first letter with a value takes the rest of
its word, or waits for the next word. -/
def readLetters (isSwitch : String → Bool) : List Char → Reading
  | [] => ⟨[], none⟩
  | letter :: rest =>
    let name := String.singleton letter
    if isSwitch name then
      let later := readLetters isSwitch rest
      { later with parts := .switch name :: later.parts }
    else if rest.isEmpty then ⟨[], some name⟩
    else ⟨[.value name (String.ofList rest)], none⟩

/-- What a word of a given form asks for. -/
def WordForm.reading (isSwitch : String → Bool) : WordForm → Reading
  | .attached name value => ⟨[.value (String.ofList name) (String.ofList value)], none⟩
  | .long name =>
    if isSwitch (String.ofList name) then ⟨[.switch (String.ofList name)], none⟩
    else ⟨[], some (String.ofList name)⟩
  | .cluster letters => readLetters isSwitch letters
  | .word text => ⟨[.word (String.ofList text)], none⟩

/-- What a list of words asks for, behind an option that may wait for its value. An option that
waits at the end has the empty value. -/
def readWords (isSwitch : String → Bool) : Option String → List String → List Part
  | none, [] => []
  | some name, [] => [.value name ""]
  | some name, value :: later => .value name value :: readWords isSwitch none later
  | none, word :: later =>
    let reading := (WordForm.of word.toList).reading isSwitch
    reading.parts ++ readWords isSwitch reading.waiting later

/-- The options among words, without those words that are values. -/
def optionForms (isSwitch : String → Bool) : Option String → List String → List WordForm
  | _, [] => []
  | some _, _ :: later => optionForms isSwitch none later
  | none, word :: later =>
    let form := WordForm.of word.toList
    let others := optionForms isSwitch (form.reading isSwitch).waiting later
    if form.isOption then form :: others else others

namespace WordForm

/-- The option has a name, and no value where it takes none or the value is missing. -/
def Regular (isSwitch : String → Bool) : WordForm → Prop
  | .attached name value => isSwitch (String.ofList name) = false ∧ value ≠ []
  | .long name => name ≠ []
  | .cluster letters => letters ≠ []
  | .word _ => True

instance (isSwitch : String → Bool) : (form : WordForm) → Decidable (form.Regular isSwitch)
  | .attached _ _ => inferInstanceAs (Decidable (_ ∧ _))
  | .long _ => inferInstanceAs (Decidable (_ ≠ _))
  | .cluster _ => inferInstanceAs (Decidable (_ ≠ _))
  | .word _ => inferInstanceAs (Decidable True)

/-- A value is attached to a name, not to the dashes. -/
def Named : WordForm → Prop
  | .attached name _ => name ≠ []
  | _ => True

instance : (form : WordForm) → Decidable form.Named
  | .attached _ _ => inferInstanceAs (Decidable (_ ≠ _))
  | .long _ | .cluster _ | .word _ => inferInstanceAs (Decidable True)

/-- The option is written without quotes and has a name. -/
def Survives (form : WordForm) : Prop :=
  IsPlain form.written ∧ form.Named

instance (form : WordForm) : Decidable form.Survives :=
  inferInstanceAs (Decidable (_ ∧ _))

end WordForm

/-- A word that is no option is regular. -/
theorem WordForm.regular_of_isOption {isSwitch : String → Bool} {form : WordForm}
    (regular : form.isOption = true → form.Regular isSwitch) : form.Regular isSwitch := by
  cases form with
  | word text => trivial
  | _ => exact regular rfl

/-- The options of a list are its first word, if that is one, and the options of the rest. -/
theorem forall_optionForms_cons {isSwitch : String → Bool} {holds : WordForm → Prop}
    {word : String} {later : List String} :
    (∀ form ∈ optionForms isSwitch none (word :: later), holds form) ↔
      ((WordForm.of word.toList).isOption = true → holds (WordForm.of word.toList)) ∧
        ∀ form ∈ optionForms isSwitch ((WordForm.of word.toList).reading isSwitch).waiting later,
          holds form := by
  rw [optionForms]
  split_ifs with option
  · rw [List.forall_mem_cons]
    exact and_congr_left' ⟨fun first _ => first, fun first => first option⟩
  · exact ⟨fun others => ⟨fun first => absurd first option, others⟩, fun both => both.2⟩

/-! ### Options on the line -/

/-- Where a step goes that reads what one word asks for. -/
def Reading.step (total : Nat) (reading : Reading) (tail : List Char) : Step :=
  match reading.waiting with
  | none => ⟨reading.parts, tail, none⟩
  | some name =>
    let value := readValue total name tail
    { value with parts := reading.parts ++ value.parts }

theorem readValue_literal {word : List Char} (nonempty : word ≠ [])
    (literal : ∀ character ∈ word, IsLiteral character) {tail : List Char}
    (stops : Stops none tail tail) (total : Nat) (name : String) :
    readValue total name (word ++ tail) = ⟨[.value name (String.ofList word)], tail, none⟩ := by
  obtain ⟨first, rest, rfl⟩ := List.exists_cons_of_ne_nil nonempty
  have edge := literal first List.mem_cons_self
  have gap : skipGap (first :: rest ++ tail) = first :: rest ++ tail :=
    skipGap_inside edge.1 edge.2.2.2 (rest ++ tail)
  have unmarked : ∀ character ∈ first :: rest, none ≠ some character := by
    intro character member same
    cases same
  unfold readValue
  dsimp only
  rw [gap, readWord_literal literal unmarked stops]
  rfl

theorem readCluster_literal {letters : List Char}
    (literal : ∀ character ∈ letters, IsLiteral character) {tail : List Char}
    (stops : Stops none tail tail) (isSwitch : String → Bool) (total : Nat) :
    readCluster isSwitch total (letters ++ tail) =
      (readLetters isSwitch letters).step total tail := by
  induction letters with
  | nil =>
    cases stops with
    | nothing => rfl
    | separator separated =>
      show readCluster isSwitch total (_ :: _) = _
      rw [readCluster, if_pos separated]
      rfl
  | cons letter rest inductionHypothesis =>
    have later := inductionHypothesis fun other member =>
      literal other (List.mem_cons_of_mem _ member)
    rw [List.cons_append, readCluster, readLetters,
      if_neg (by simp [(literal letter List.mem_cons_self).1])]
    dsimp only
    split_ifs with switch empty
    · rw [later]
      unfold Reading.step
      dsimp only
      cases (readLetters isSwitch rest).waiting <;> rfl
    · rw [List.isEmpty_iff.1 empty]
      rfl
    · exact readValue_literal (by simpa using empty)
        (fun other member => literal other (List.mem_cons_of_mem _ member)) stops total _

/-- A name of literal characters ends at the first equals sign or with its word. -/
theorem readWord_name {name text rest : List Char}
    (literal : ∀ character ∈ name, IsLiteral character) (absent : '=' ∉ name)
    (stops : Stops (some '=') text rest) :
    readWord (some '=') .plain (name ++ text) = ⟨name, rest, none⟩ := by
  refine readWord_literal literal ?_ stops
  rintro character member same
  cases same
  exact absent member

theorem readLong_attached {isSwitch : String → Bool} {name value : List Char}
    (literal : ∀ character ∈ name ++ '=' :: value, IsLiteral character) (absent : '=' ∉ name)
    (named : name ≠ []) (given : value ≠ []) (valued : isSwitch (String.ofList name) = false)
    {tail : List Char} (stops : Stops none tail tail) (total : Nat) :
    readLong isSwitch total ((name ++ '=' :: value) ++ tail) =
      ⟨[.value (String.ofList name) (String.ofList value)], tail, none⟩ := by
  have inName : ∀ character ∈ name, IsLiteral character :=
    fun character member => literal character (List.mem_append_left _ member)
  have inValue : ∀ character ∈ value, IsLiteral character :=
    fun character member =>
      literal character (List.mem_append_right _ (List.mem_cons_of_mem _ member))
  have read : readWord (some '=') .plain (name ++ '=' :: (value ++ tail)) =
      ⟨name, value ++ tail, none⟩ := readWord_name inName absent (.mark (by decide) rfl)
  have nonempty : ¬ name.isEmpty = true := fun empty => named (List.isEmpty_iff.1 empty)
  rw [List.append_assoc, List.cons_append, readLong_of_readWord read, if_neg nonempty,
    if_neg (by simp [valued])]
  exact readValue_literal given inValue stops total _

theorem readLong_alone {name : List Char} (literal : ∀ character ∈ name, IsLiteral character)
    (absent : '=' ∉ name) (named : name ≠ []) {tail : List Char} (stops : Stops none tail tail)
    (isSwitch : String → Bool) (total : Nat) :
    readLong isSwitch total (name ++ tail) =
      ((WordForm.long name).reading isSwitch).step total tail := by
  have read := readWord_name literal absent (stops.withMark (some '='))
  have nonempty : ¬ name.isEmpty = true := fun empty => named (List.isEmpty_iff.1 empty)
  rw [readLong_of_readWord read, if_neg nonempty, WordForm.reading]
  split_ifs
  · rfl
  · rfl

/-- An option that survives is read from the line as it is read from the list. -/
theorem readStep_option {form : WordForm} (option : form.isOption = true) (proper : form.Proper)
    {isSwitch : String → Bool} (regular : form.Regular isSwitch) (survives : form.Survives)
    {tail : List Char} (stops : Stops none tail tail) (total : Nat) :
    readStep isSwitch total (form.written ++ tail) = (form.reading isSwitch).step total tail := by
  obtain ⟨plain, named⟩ := survives
  cases form with
  | attached name value =>
    have literal : ∀ character ∈ name ++ '=' :: value, IsLiteral character :=
      fun character member => plain.literal character
        (List.mem_cons_of_mem _ (List.mem_cons_of_mem _ member))
    exact readLong_attached literal proper named regular.2 regular.1 stops total
  | long name =>
    have literal : ∀ character ∈ name, IsLiteral character :=
      fun character member => plain.literal character
        (List.mem_cons_of_mem _ (List.mem_cons_of_mem _ member))
    exact readLong_alone literal proper regular stops isSwitch total
  | cluster letters =>
    have literal : ∀ character ∈ letters, IsLiteral character :=
      fun character member => plain.literal character (List.mem_cons_of_mem _ member)
    obtain ⟨first, rest, rfl⟩ := List.exists_cons_of_ne_nil regular
    have single : (first :: rest ++ tail).head? ≠ some '-' := proper
    show readStep isSwitch total ('-' :: (first :: rest ++ tail)) = _
    rw [readStep_cluster single]
    exact readCluster_literal literal stops isSwitch total
  | word text => cases option

/-- A word that is written with quotes, or is no option, is read as a word that stands alone. -/
theorem readStep_shellWord {word : String}
    (hidden : word.toList.head? ≠ some '-' ∨ ¬ IsPlain word.toList) {tail : List Char}
    (stops : Stops none tail tail) (isSwitch : String → Bool) (total : Nat) :
    readStep isSwitch total ((shellWord word).toList ++ tail) =
      Reading.step total ⟨[.word word], none⟩ tail := by
  have read := readWord_shellWord word stops
  obtain ⟨first, rest, equal, -⟩ := exists_first_shellWord word
  have other : first ≠ '-' := by
    rintro rfl
    by_cases plain : word.toList ≠ [] ∧ IsPlain word.toList
    · rw [toList_shellWord_of_plain plain.1 plain.2] at equal
      rcases hidden with undashed | quoted
      · exact undashed (by rw [equal]; rfl)
      · exact quoted plain.2
    · rw [toList_shellWord_of_not_plain plain] at equal
      exact absurd (List.cons.inj equal).1 (by decide)
  rw [equal, List.cons_append] at read ⊢
  rw [readStep_word other, read, String.ofList_toList]
  rfl

/-! ### Reading on -/

/-- Read a text behind an option that may wait for its value. -/
def resume (isSwitch : String → Bool) (total : Nat) (waiting : Option String)
    (text : List Char) : List Part × Option Unclosed :=
  match waiting with
  | none => readParts isSwitch total text
  | some name =>
    let value := readValue total name text
    let later := readParts isSwitch total value.rest
    (value.parts ++ later.1, value.unclosed.or later.2)

/-- What a word asks for comes before what is read behind it. -/
theorem resume_of_step {isSwitch : String → Bool} {total : Nat} {text tail : List Char}
    {reading : Reading} (nonempty : skipGap text ≠ [])
    (step : readStep isSwitch total (skipGap text) = reading.step total tail) :
    resume isSwitch total none text =
      (reading.parts ++ (resume isSwitch total reading.waiting tail).1,
        (resume isSwitch total reading.waiting tail).2) := by
  obtain ⟨character, rest, next⟩ := List.exists_cons_of_ne_nil nonempty
  rw [next] at step
  show readParts isSwitch total text = _
  rw [readParts_of_cons next, step]
  unfold Reading.step resume
  cases reading.waiting with
  | none => rfl
  | some name => exact Prod.ext (List.append_assoc _ _ _) rfl

theorem skipGap_following_ne_nil (word : String) (later : List String) :
    skipGap (following (word :: later)) ≠ [] := by
  obtain ⟨first, rest, equal, -⟩ := exists_first_shellWord word
  rw [skipGap_following_cons, equal]
  exact List.cons_ne_nil _ _

/-- The word behind an option that waits is its value, whatever the word looks like. -/
theorem resume_value (isSwitch : String → Bool) (total : Nat) (name value : String)
    (later : List String) :
    resume isSwitch total (some name) (following (value :: later)) =
      (.value name value :: (resume isSwitch total none (following later)).1,
        (resume isSwitch total none (following later)).2) := by
  have read : readValue total name (following (value :: later)) =
      ⟨[.value name value], following later, none⟩ := by
    unfold readValue
    dsimp only
    rw [skipGap_following_cons, readWord_shellWord value (stops_following later),
      String.ofList_toList]
    rfl
  unfold resume
  dsimp only
  rw [read]
  rfl

/-- An option that survives, and a word that is no option, are read from the line as they are read
from the list. -/
theorem resume_word {isSwitch : String → Bool} {word : String}
    (regular : (WordForm.of word.toList).Regular isSwitch)
    (survives : (WordForm.of word.toList).isOption = true → (WordForm.of word.toList).Survives)
    (total : Nat) (later : List String) :
    let reading := (WordForm.of word.toList).reading isSwitch
    resume isSwitch total none (following (word :: later)) =
      (reading.parts ++ (resume isSwitch total reading.waiting (following later)).1,
        (resume isSwitch total reading.waiting (following later)).2) := by
  refine resume_of_step (skipGap_following_ne_nil word later) ?_
  obtain ⟨written, proper⟩ := WordForm.written_of word.toList
  rw [skipGap_following_cons]
  cases option : (WordForm.of word.toList).isOption with
  | true =>
    have dash := WordForm.head?_written_of_isOption option
    have plain := (survives option).1
    rw [written] at dash plain
    have nonempty : word.toList ≠ [] := by
      intro empty
      rw [empty] at dash
      cases dash
    have step := readStep_option option proper regular (survives option)
      (stops_following later) total
    rw [written] at step
    rw [toList_shellWord_of_plain nonempty plain]
    exact step
  | false =>
    generalize WordForm.of word.toList = form at *
    cases form with
    | word text =>
      obtain rfl : text = word.toList := written
      rw [readStep_shellWord (Or.inl proper) (stops_following later), WordForm.reading,
        String.ofList_toList]
    | _ => cases option

/-- An option that needs quotes is read as a word that stands alone. -/
theorem resume_quoted {word : String} (quoted : ¬ IsPlain word.toList) (isSwitch : String → Bool)
    (total : Nat) (later : List String) :
    resume isSwitch total none (following (word :: later)) =
      (.word word :: (resume isSwitch total none (following later)).1,
        (resume isSwitch total none (following later)).2) := by
  have step := readStep_shellWord (Or.inr quoted) (stops_following later) isSwitch total
  rw [← skipGap_following_cons] at step
  exact resume_of_step (skipGap_following_ne_nil word later) step

/-- A line whose options survive says what its list of words says. -/
theorem resume_following {isSwitch : String → Bool} {waiting : Option String}
    {words : List String}
    (regular : ∀ form ∈ optionForms isSwitch waiting words, form.Regular isSwitch)
    (survives : ∀ form ∈ optionForms isSwitch waiting words, form.Survives) (total : Nat) :
    resume isSwitch total waiting (following words) = (readWords isSwitch waiting words, none) := by
  induction words generalizing waiting with
  | nil =>
    cases waiting with
    | none => exact readParts_of_nil rfl isSwitch total
    | some name =>
      show ([.value name ""] ++ (readParts isSwitch total []).1,
        (readParts isSwitch total []).2) = _
      rw [readParts_of_nil rfl]
      rfl
  | cons word later inductionHypothesis =>
    cases waiting with
    | some name =>
      rw [resume_value, inductionHypothesis regular survives]
      rfl
    | none =>
      obtain ⟨regularWord, regular⟩ := forall_optionForms_cons.1 regular
      obtain ⟨survivesWord, survives⟩ := forall_optionForms_cons.1 survives
      rw [resume_word (WordForm.regular_of_isOption regularWord) survivesWord,
        inductionHypothesis regular survives]
      rfl

/-! ### Options that do not survive -/

/-- What an option asks for is part of what its list asks for. -/
theorem mem_readWords {isSwitch : String → Bool} {waiting : Option String} {words : List String}
    {form : WordForm} (member : form ∈ optionForms isSwitch waiting words) {part : Part}
    (inside : part ∈ (form.reading isSwitch).parts) :
    part ∈ readWords isSwitch waiting words := by
  induction words generalizing waiting with
  | nil => cases waiting <;> cases member
  | cons word later inductionHypothesis =>
    cases waiting with
    | some name => exact List.mem_cons_of_mem _ (inductionHypothesis member)
    | none =>
      rw [optionForms] at member
      rw [readWords, List.mem_append]
      split_ifs at member with option
      · rcases List.mem_cons.1 member with rfl | other
        · exact Or.inl inside
        · exact Or.inr (inductionHypothesis other)
      · exact Or.inr (inductionHypothesis member)

/-- A list that attaches a value to no name gives the empty name a value, which no line does. -/
theorem named_of_get?_eq {isSwitch : String → Bool} {words : List String} {total : Nat}
    {text : List Char}
    (same : givenBy "" (readParts isSwitch total text).1 =
      givenBy "" (readWords isSwitch none words)) :
    ∀ form ∈ optionForms isSwitch none words, form.Named := by
  have nothing : givenBy "" (readParts isSwitch total text).1 = none :=
    givenBy_eq_none_iff.2 fun part member =>
      Part.given_of_isNamed (readParts_isNamed isSwitch total text part member)
  have absent := givenBy_eq_none_iff.1 (same.symm.trans nothing)
  intro form member
  cases form with
  | attached name value =>
    rintro rfl
    have given := absent _ (mem_readWords member List.mem_cons_self)
    exact absurd given (by simp [Part.given])
  | _ => trivial

theorem readLetters_word?_eq_none (isSwitch : String → Bool) (letters : List Char) :
    ∀ part ∈ (readLetters isSwitch letters).parts, part.word? = none := by
  induction letters with
  | nil => exact List.forall_mem_nil _
  | cons letter rest inductionHypothesis =>
    unfold readLetters
    dsimp only
    split_ifs
    · exact List.forall_mem_cons.2 ⟨rfl, inductionHypothesis⟩
    · exact List.forall_mem_nil _
    · exact List.forall_mem_singleton.2 rfl

/-- Only a word that is no option stands alone. -/
theorem reading_word?_eq_none {form : WordForm} (option : form.isOption = true)
    (isSwitch : String → Bool) : ∀ part ∈ (form.reading isSwitch).parts, part.word? = none := by
  cases form with
  | attached name value => exact List.forall_mem_singleton.2 rfl
  | long name =>
    rw [WordForm.reading]
    split_ifs
    · exact List.forall_mem_singleton.2 rfl
    · exact List.forall_mem_nil _
  | cluster letters => exact readLetters_word?_eq_none isSwitch letters
  | word text => cases option

theorem head?_ne_of_mem_reading {form : WordForm} (proper : form.Proper)
    {isSwitch : String → Bool} {part : Part} {text : String}
    (inside : part ∈ (form.reading isSwitch).parts) (alone : part.word? = some text) :
    text.toList.head? ≠ some '-' := by
  cases option : form.isOption with
  | true =>
    rw [reading_word?_eq_none option isSwitch part inside] at alone
    cases alone
  | false =>
    cases form with
    | word other =>
      rw [List.mem_singleton.1 inside] at alone
      cases alone
      rwa [String.toList_ofList]
    | _ => cases option

/-- Words that stand alone in a list do not start with a dash. -/
theorem head?_ne_of_mem_readWords {isSwitch : String → Bool} {waiting : Option String}
    {words : List String} {text : String}
    (member : text ∈ (readWords isSwitch waiting words).filterMap Part.word?) :
    text.toList.head? ≠ some '-' := by
  induction words generalizing waiting with
  | nil => cases waiting <;> cases member
  | cons word later inductionHypothesis =>
    cases waiting with
    | some name => exact inductionHypothesis member
    | none =>
      rw [readWords, List.filterMap_append] at member
      rcases List.mem_append.1 member with here | there
      · obtain ⟨part, inside, alone⟩ := List.mem_filterMap.1 here
        exact head?_ne_of_mem_reading (WordForm.written_of word.toList).2 inside alone
      · exact inductionHypothesis there

/-- If some option needs quotes and all of them have names, then a word that starts with a dash is
read as a word that stands alone. -/
theorem exists_dashed_word {isSwitch : String → Bool} {waiting : Option String}
    {words : List String}
    (regular : ∀ form ∈ optionForms isSwitch waiting words, form.Regular isSwitch)
    (named : ∀ form ∈ optionForms isSwitch waiting words, form.Named)
    (quoted : ¬ ∀ form ∈ optionForms isSwitch waiting words, IsPlain form.written)
    (total : Nat) :
    ∃ text ∈ (resume isSwitch total waiting (following words)).1.filterMap Part.word?,
      text.toList.head? = some '-' := by
  induction words generalizing waiting with
  | nil => exact absurd (by cases waiting <;> exact List.forall_mem_nil _) quoted
  | cons word later inductionHypothesis =>
    cases waiting with
    | some name =>
      rw [resume_value]
      exact inductionHypothesis regular named quoted
    | none =>
      obtain ⟨regularWord, regular⟩ := forall_optionForms_cons.1 regular
      obtain ⟨namedWord, named⟩ := forall_optionForms_cons.1 named
      have written := (WordForm.written_of word.toList).1
      by_cases plain : (WordForm.of word.toList).isOption = true →
          IsPlain (WordForm.of word.toList).written
      · have others := fun rest => quoted (forall_optionForms_cons.2 ⟨plain, rest⟩)
        obtain ⟨text, member, dash⟩ := inductionHypothesis regular named others
        rw [resume_word (WordForm.regular_of_isOption regularWord)
          (fun option => ⟨plain option, namedWord option⟩), List.filterMap_append]
        exact ⟨text, List.mem_append_right _ member, dash⟩
      · obtain ⟨option, unplain⟩ := Classical.not_imp.1 plain
        have dash := WordForm.head?_written_of_isOption option
        rw [written] at unplain dash
        rw [resume_quoted unplain]
        exact ⟨word, List.mem_cons_self, dash⟩

/-! ### Lines and lists -/

/-- Two commands have the same words and give the same for every option. -/
def Command.Agrees (first second : Command) : Prop :=
  first.positionals = second.positionals ∧ ∀ name, first.flags.get? name = second.flags.get? name

/-- Separate words keep their meaning exactly if their options survive. A list of at least two
words, in which no option is irregular, is read from its line as it is read word by word if and only
if each option consists of characters that need no quotes and, if a value is attached to it, has a
name. -/
theorem readWith_commandLine_agrees_iff (isSwitch : String → Bool) (words : List String)
    (several : 2 ≤ words.length)
    (regular : ∀ form ∈ optionForms isSwitch none words, form.Regular isSwitch) :
    (Command.readWith isSwitch (commandLine words)).Agrees
        (Command.ofParts (readWords isSwitch none words) none) ↔
      ∀ form ∈ optionForms isSwitch none words, form.Survives := by
  obtain ⟨total, read⟩ := readWith_line several isSwitch
  rw [read]
  constructor
  · rintro ⟨positionals, flags⟩
    have empty := flags ""
    rw [Command.get?_ofParts, Command.get?_ofParts] at empty
    have named := named_of_get?_eq empty
    by_contra quoted
    have unplain : ¬ ∀ form ∈ optionForms isSwitch none words, IsPlain form.written :=
      fun plain => quoted fun form member => ⟨plain form member, named form member⟩
    obtain ⟨text, member, dash⟩ := exists_dashed_word regular named unplain total
    rw [Command.positionals_ofParts, Command.positionals_ofParts] at positionals
    exact head?_ne_of_mem_readWords (positionals ▸ member) dash
  · intro survives
    have same : readParts isSwitch total (following words) = _ :=
      resume_following regular survives total
    rw [same]
    exact ⟨rfl, fun name => rfl⟩

/-- Separate values may need quotes. -/
theorem readWith_commandLine_agrees_header :
    let words := ["curl", "-sH", "Accept: x", "--data=a", "-o", "-", "it's"]
    2 ≤ words.length ∧ (∀ form ∈ optionForms isSwitch none words, form.Regular isSwitch) ∧
      (Command.readWith isSwitch (commandLine words)).Agrees
        (Command.ofParts (readWords isSwitch none words) none) := by
  have regular : ∀ form ∈ optionForms isSwitch none
      ["curl", "-sH", "Accept: x", "--data=a", "-o", "-", "it's"], form.Regular isSwitch := by
    decide +kernel
  have survives : ∀ form ∈ optionForms isSwitch none
      ["curl", "-sH", "Accept: x", "--data=a", "-o", "-", "it's"], form.Survives := by
    decide +kernel
  exact ⟨by decide, regular,
    (readWith_commandLine_agrees_iff isSwitch _ (by decide) regular).2 survives⟩

/-- An attached value that needs quotes turns its option into a word that stands alone. -/
theorem readWith_commandLine_not_agrees :
    let words := ["curl", "-HAccept: x", "example.com"]
    2 ≤ words.length ∧ (∀ form ∈ optionForms isSwitch none words, form.Regular isSwitch) ∧
      ¬ (Command.readWith isSwitch (commandLine words)).Agrees
        (Command.ofParts (readWords isSwitch none words) none) := by
  refine ⟨by decide, by decide +kernel, ?_⟩
  rintro ⟨positionals, -⟩
  revert positionals
  decide +kernel

end CurlScribe
