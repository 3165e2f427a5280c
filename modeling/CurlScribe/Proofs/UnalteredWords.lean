/-
This file proves that no word is altered on its way through a line. Words that do not start with
a dash are read back from the line they make up, each as it was: the quotes around a word hold
whatever it consists of, two words do not grow together, and nothing at the ends of the line is
taken for a prompt or trimmed. The same is true of the value of an option, which may even start
with a dash, since it stands where the option waits for it.
-/

import CurlScribe.Proofs.SeparateWords

namespace CurlScribe

open Text

variable {isSwitch : String → Bool}

/-! ### Words without a dash -/

/-- The words do not start with a dash. -/
def Undashed (words : List String) : Prop :=
  ∀ word ∈ words, word.toList.head? ≠ some '-'

instance (words : List String) : Decidable (Undashed words) :=
  inferInstanceAs (Decidable (∀ word ∈ words, word.toList.head? ≠ some '-'))

theorem WordForm.of_undashed {text : List Char} (undashed : text.head? ≠ some '-') :
    of text = .word text := by
  have written := (written_of text).1
  cases option : (of text).isOption with
  | true =>
    have dash := head?_written_of_isOption option
    rw [written] at dash
    exact absurd dash undashed
  | false =>
    generalize of text = form at *
    cases form with
    | word other => rw [show other = text from written]
    | _ => cases option

/-- Words that do not start with a dash stand alone. -/
theorem readWords_undashed {words : List String} (undashed : Undashed words)
    (later : List String) :
    readWords isSwitch none (words ++ later) =
      words.map .word ++ readWords isSwitch none later := by
  induction words with
  | nil => rfl
  | cons word words inductionHypothesis =>
    obtain ⟨here, there⟩ := List.forall_mem_cons.1 undashed
    rw [List.cons_append, readWords, WordForm.of_undashed here]
    show .word (String.ofList word.toList) :: readWords isSwitch none (words ++ later) = _
    rw [inductionHypothesis there, String.ofList_toList]
    rfl

theorem optionForms_undashed {words : List String} (undashed : Undashed words)
    (later : List String) :
    optionForms isSwitch none (words ++ later) = optionForms isSwitch none later := by
  induction words with
  | nil => rfl
  | cons word words inductionHypothesis =>
    obtain ⟨here, there⟩ := List.forall_mem_cons.1 undashed
    rw [List.cons_append, optionForms, WordForm.of_undashed here]
    exact inductionHypothesis there

/-! ### An option and its value -/

/-- The ways to write an option whose value is the next word: a letter behind one dash, or a name of
letters, digits and dashes behind two. -/
inductive WritesOption : String → String → Prop
  | letter {letter : Char} (alphabetic : letter.isAlpha = true) :
    WritesOption (String.singleton letter) (String.ofList ['-', letter])
  | long {name : List Char} (named : name ≠ [])
    (plain : ∀ character ∈ name, character.isAlphanum = true ∨ character = '-') :
    WritesOption (String.ofList name) (String.ofList ('-' :: '-' :: name))

theorem isPlainCharacter_of_isAlphanum {character : Char}
    (alphanumeric : character.isAlphanum = true) : isPlainCharacter character = true := by
  rw [isPlainCharacter, alphanumeric, Bool.true_or]

/-- An option that is written so consists of plain characters and waits for the next word. -/
theorem WritesOption.waits {name option : String} (writes : WritesOption name option)
    (valued : isSwitch name = false) :
    ∃ form, WordForm.of option.toList = form ∧ form.isOption = true ∧ form.Regular isSwitch ∧
      form.Survives ∧ form.reading isSwitch = ⟨[], some name⟩ := by
  cases writes with
  | @letter letter alphabetic =>
    have alphanumeric : letter.isAlphanum = true := by
      rw [Char.isAlphanum, alphabetic, Bool.true_or]
    have form : WordForm.of ['-', letter] = .cluster [letter] := by
      have undashed : letter ≠ '-' := by
        rintro rfl
        cases alphabetic
      unfold WordForm.of
      split
      · rename_i same
        exact absurd (List.cons.inj (List.cons.inj same).2).1 undashed
      · rename_i same
        rw [← (List.cons.inj same).2]
      · rename_i other
        exact absurd rfl (other [letter])
    refine ⟨.cluster [letter], ?_, rfl, List.cons_ne_nil _ _, ⟨?_, trivial⟩, ?_⟩
    · rw [String.toList_ofList, form]
    · exact List.forall_mem_cons.2 ⟨by decide,
        List.forall_mem_singleton.2 (isPlainCharacter_of_isAlphanum alphanumeric)⟩
    · simp [WordForm.reading, readLetters, valued]
  | @long name named plain =>
    have plainName : IsPlain name := by
      intro character member
      rcases plain character member with alphanumeric | rfl
      · exact isPlainCharacter_of_isAlphanum alphanumeric
      · decide
    have absent : '=' ∉ name := by
      intro member
      rcases plain '=' member with alphanumeric | dash
      · cases alphanumeric
      · cases dash
    have form : WordForm.of ('-' :: '-' :: name) = .long name := by
      simp only [WordForm.of, (splitFirst_eq_none_iff '=' name).2 absent]
    refine ⟨.long name, ?_, rfl, named, ⟨?_, trivial⟩, ?_⟩
    · rw [String.toList_ofList, form]
    · exact List.forall_mem_cons.2 ⟨by decide, List.forall_mem_cons.2 ⟨by decide, plainName⟩⟩
    · simp [WordForm.reading, valued]

/-! ### The line -/

/-- A line whose options survive says what its list of words says. -/
theorem readWith_of_survives {words : List String} (several : 2 ≤ words.length)
    (regular : ∀ form ∈ optionForms isSwitch none words, form.Regular isSwitch)
    (survives : ∀ form ∈ optionForms isSwitch none words, form.Survives) :
    Command.readWith isSwitch (commandLine words) =
      Command.ofParts (readWords isSwitch none words) none := by
  obtain ⟨total, read⟩ := readWith_line several isSwitch
  have same : readParts isSwitch total (following words) = _ :=
    resume_following regular survives total
  rw [read, same]

/-- Words that stand alone are no options. -/
theorem foldl_record_words (flags : Flags) (words : List String) :
    (words.map Part.word).foldl Flags.record flags = flags := by
  induction words with
  | nil => rfl
  | cons word words inductionHypothesis => exact inductionHypothesis

theorem filterMap_word?_words (words : List String) :
    (words.map Part.word).filterMap Part.word? = words := by
  rw [List.filterMap_map]
  exact List.filterMap_some

/-- The command of some words and an option with one value among them. -/
theorem ofParts_value (before behind : List String) (name value : String) :
    Command.ofParts (before.map .word ++ .value name value :: behind.map .word) none =
      ⟨before ++ behind, ⟨[(name, .values [value])]⟩, none⟩ := by
  have words : (before.map Part.word ++ Part.value name value :: behind.map Part.word).filterMap
      Part.word? = before ++ behind := by
    rw [List.filterMap_append, filterMap_word?_words]
    exact congrArg (before ++ ·) (filterMap_word?_words behind)
  have options : (before.map Part.word ++ Part.value name value :: behind.map Part.word).foldl
      Flags.record {} = ⟨[(name, .values [value])]⟩ := by
    rw [List.foldl_append, foldl_record_words, List.foldl_cons, foldl_record_words]
    rfl
  unfold Command.ofParts
  rw [words, options]

/-- No word is altered by its quotes. A list of at least two words, none of which starts with a
dash, is read back from its line as these words, without options and with nothing left open; and if
an option that takes a value and any word at all stand somewhere between them, then the words are
the same and this word is the one value of the only option. -/
theorem readWith_commandLine_words (isSwitch : String → Bool) {words : List String}
    (several : 2 ≤ words.length) (undashed : Undashed words) :
    Command.readWith isSwitch (commandLine words) = ⟨words, {}, none⟩ ∧
      ∀ before behind name option value, words = before ++ behind → WritesOption name option →
        isSwitch name = false →
        Command.readWith isSwitch (commandLine (before ++ option :: value :: behind)) =
          ⟨words, ⟨[(name, .values [value])]⟩, none⟩ := by
  constructor
  · have parts : readWords isSwitch none (words ++ []) = _ := readWords_undashed undashed []
    have forms : optionForms isSwitch none (words ++ []) = [] := optionForms_undashed undashed []
    rw [List.append_nil] at parts forms
    rw [readWith_of_survives several (forms ▸ List.forall_mem_nil _)
      (forms ▸ List.forall_mem_nil _), parts]
    show Command.ofParts (words.map Part.word ++ []) none = _
    rw [List.append_nil, Command.ofParts, filterMap_word?_words, foldl_record_words]
  · rintro before behind name option value rfl writes valued
    obtain ⟨undashedBefore, undashedBehind⟩ := List.forall_mem_append.1 undashed
    obtain ⟨form, formed, isOption, regular, survives, reading⟩ := writes.waits valued
    have parts : readWords isSwitch none (option :: value :: behind) =
        .value name value :: behind.map .word := by
      have rest : readWords isSwitch none (behind ++ []) = _ := readWords_undashed undashedBehind []
      rw [List.append_nil] at rest
      rw [readWords, formed, reading]
      show .value name value :: readWords isSwitch none behind = _
      rw [rest]
      exact congrArg _ (List.append_nil _)
    have forms : optionForms isSwitch none (before ++ option :: value :: behind) = [form] := by
      have rest : optionForms isSwitch none (behind ++ []) = _ :=
        optionForms_undashed undashedBehind []
      rw [List.append_nil] at rest
      rw [optionForms_undashed undashedBefore, optionForms, formed, reading, if_pos isOption]
      exact congrArg _ rest
    have longer : 2 ≤ (before ++ option :: value :: behind).length := by
      simp only [List.length_append, List.length_cons]
      omega
    rw [readWith_of_survives longer (forms ▸ List.forall_mem_singleton.2 regular)
      (forms ▸ List.forall_mem_singleton.2 survives), readWords_undashed undashedBefore, parts,
      ofParts_value]

/-- A prompt, a quote, a dollar and a Unicode space come back as they were, and so does a value that
looks like an option. -/
theorem readWith_commandLine_words_dollar :
    let words := ["$", "it's", "a\x5c$'b", "\u00a0"]
    2 ≤ words.length ∧ Undashed words ∧
      Command.readWith CurlScribe.isSwitch (commandLine words) = ⟨words, {}, none⟩ ∧
      words = ["$", "it's"] ++ ["a\x5c$'b", "\u00a0"] ∧
      WritesOption "data-raw" "--data-raw" ∧ CurlScribe.isSwitch "data-raw" = false ∧
      Command.readWith CurlScribe.isSwitch
          (commandLine (["$", "it's"] ++ "--data-raw" :: "-k\n" :: ["a\x5c$'b", "\u00a0"])) =
        ⟨words, ⟨[("data-raw", .values ["-k\n"])]⟩, none⟩ := by
  intro words
  have several : 2 ≤ words.length := by decide
  have undashed : Undashed words := by decide
  have writes : WritesOption "data-raw" "--data-raw" :=
    @WritesOption.long "data-raw".toList (by decide) (by simp)
  have valued : CurlScribe.isSwitch "data-raw" = false := by decide +kernel
  obtain ⟨alone, among⟩ := readWith_commandLine_words CurlScribe.isSwitch several undashed
  exact ⟨several, undashed, alone, rfl, writes, valued,
    among ["$", "it's"] ["a\x5c$'b", "\u00a0"] _ _ _ rfl writes valued⟩

end CurlScribe
