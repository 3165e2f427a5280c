/-
This file proves that the order of options with different names decides nothing. Two groups
of options, each complete in itself, trade places in a command: the words stay where they
are, a switch is there either way, and the values of an option that takes one come from one
of the groups alone. The map of options is the same, so the request is, and the code.

A group is complete if it leaves nothing open and no option without its value, and then it is
read the same way wherever it stands. What is left to show is that the blanks and the prompt
that are removed around a command are not part of a group.
-/

import CurlScribe.Proofs.Composition
import CurlScribe.Proofs.OptionMap
import CurlScribe.Proofs.ShapingOptions
import CurlScribe.Proofs.Trimming

namespace CurlScribe

open Text Go
open FlagValue (join)

/-! ### Switches and values -/

/-- What two groups give for an option comes to the same either way round, if at most one of them
gives it values. -/
theorem join_comm_of_apart {isSwitch : String → Bool} {first second : List Part}
    (suits : ∀ part ∈ first, part.Suits isSwitch) {name : String}
    (apart : isSwitch name = false → givenBy name first = none ∨ givenBy name second = none) :
    join (givenBy name first) (givenBy name second) =
      join (givenBy name second) (givenBy name first) := by
  cases switch : isSwitch name with
  | true =>
    rcases givenBy_of_suits suits switch with absent | present
    · rw [absent, FlagValue.join_none_left, FlagValue.join_none_right]
    · rw [present, FlagValue.join_switch_left, FlagValue.join_switch_right]
  | false =>
    rcases apart switch with absent | absent
    · rw [absent, FlagValue.join_none_left, FlagValue.join_none_right]
    · rw [absent, FlagValue.join_none_left, FlagValue.join_none_right]

/-! ### Blanks and prompts around a command -/

/-- The text starts with a word that is neither an option nor the mark of a shell prompt. -/
def StartsWithWord : List Char → Prop
  | [] => False
  | first :: rest =>
    first ≠ '-' ∧
      (first = '$' ∨ first = '#' → ∃ next ∈ rest.head?, isSeparator next = false)

instance : DecidablePred StartsWithWord
  | [] => inferInstanceAs (Decidable False)
  | _ :: _ => inferInstanceAs (Decidable (_ ∧ _))

theorem StartsWithWord.inside {first character : Char} {rest tail later : List Char}
    (starts : StartsWithWord (first :: rest)) (marked : first = '$' ∨ first = '#')
    (next : rest ++ tail = character :: later) : isSeparator character = false := by
  obtain ⟨other, found, inside⟩ := starts.2 marked
  obtain ⟨others, rfl⟩ := List.head?_eq_some_iff.1 found
  cases next
  exact inside

theorem stripPrompt_of_trimmed {first : Char} {rest text : List Char}
    (starts : StartsWithWord (first :: rest)) {tail : List Char}
    (trimmed : trimBoth text = first :: (rest ++ tail)) :
    stripPrompt text = first :: (rest ++ tail) := by
  unfold stripPrompt
  rw [trimmed]
  split
  · rename_i character later marked
    obtain ⟨rfl, next⟩ := List.cons.inj marked
    rw [if_neg (by rw [starts.inside (Or.inl rfl) next]; decide), next]
  · rename_i character later marked
    obtain ⟨rfl, next⟩ := List.cons.inj marked
    rw [if_neg (by rw [starts.inside (Or.inr rfl) next]; decide), next]
  · rfl

/-- Nothing but the blanks at its end is removed from a command that starts with a word. -/
theorem stripPrompt_spaced {text : List Char} (starts : StartsWithWord text)
    (trimmed : trimBoth text = text) (later : List Char) :
    stripPrompt (spaced text later) = trimEnd (spaced text later) := by
  cases text with
  | nil => exact starts.elim
  | cons first rest =>
    have edge : isBlank first = false := by
      have start := trimStart_of_trimBoth trimmed
      rw [trimStart, List.dropWhile_eq_self_iff] at start
      exact Bool.eq_false_iff.2 (start (Nat.succ_pos _))
    have start : trimStart (spaced (first :: rest) later) = spaced (first :: rest) later :=
      List.dropWhile_cons_of_neg (Bool.eq_false_iff.1 edge)
    have kept : ∃ tail, trimEnd (spaced (first :: rest) later) = first :: (rest ++ tail) := by
      rw [trimEnd_spaced, trimEnd_of_trimBoth trimmed]
      split_ifs
      · exact ⟨[], by rw [List.append_nil]⟩
      · exact ⟨_, rfl⟩
    obtain ⟨tail, kept⟩ := kept
    rw [kept]
    exact stripPrompt_of_trimmed starts ((congrArg trimEnd start).trans kept)

/-! ### Groups of options -/

/-- A text without blanks around it that leaves nothing open and no option without its value. -/
structure IsComplete (isSwitch : String → Bool) (text : List Char) : Prop where
  trimmed : trimBoth text = text
  closed : (Command.scan isSwitch text).unclosed = none
  given : waitsAtEnd isSwitch text = false

/-- A complete text that holds options and no word of its own. -/
structure IsGroup (isSwitch : String → Bool) (text : List Char) : Prop
    extends IsComplete isSwitch text where
  onlyOptions : (Command.scan isSwitch text).positionals = []

/-- What a text says, part by part. -/
def textParts (isSwitch : String → Bool) (text : List Char) : List Part :=
  (readParts isSwitch text.length text).1

theorem positionals_scan (isSwitch : String → Bool) (text : List Char) :
    (Command.scan isSwitch text).positionals = (textParts isSwitch text).filterMap Part.word? := rfl

theorem get?_scan (isSwitch : String → Bool) (text : List Char) (name : String) :
    (Command.scan isSwitch text).flags.get? name = givenBy name (textParts isSwitch text) :=
  Command.get?_ofParts _ _ _

/-- A complete text says what it says alone, and what stands behind it says the rest. -/
theorem textParts_spaced {isSwitch : String → Bool} {text : List Char}
    (complete : IsComplete isSwitch text) (later : List Char) :
    textParts isSwitch (trimEnd (spaced text later)) =
      textParts isSwitch text ++ textParts isSwitch (trimEnd later) := by
  unfold textParts
  rw [trimEnd_spaced]
  split_ifs with blank
  · rw [blank, readParts_of_nil (rfl : skipGap [] = []), List.append_nil,
      trimEnd_of_trimBoth complete.trimmed]
  · rw [readParts_whole complete.closed complete.given]

/-- A command with two groups of options says what its four texts say, one after another. -/
theorem textParts_groups {isSwitch : String → Bool} {command first second : String}
    (starts : StartsWithWord command.toList) (complete : IsComplete isSwitch command.toList)
    (completeFirst : IsComplete isSwitch first.toList)
    (completeSecond : IsComplete isSwitch second.toList) (later : String) :
    textParts isSwitch
        (stripPrompt (command ++ " " ++ first ++ " " ++ second ++ " " ++ later).toList) =
      textParts isSwitch command.toList ++ (textParts isSwitch first.toList ++
        (textParts isSwitch second.toList ++ textParts isSwitch (trimEnd later.toList))) := by
  have text : (command ++ " " ++ first ++ " " ++ second ++ " " ++ later).toList =
      spaced command.toList (spaced first.toList (spaced second.toList later.toList)) := by
    simp [spaced]
  rw [text, stripPrompt_spaced starts complete.trimmed, textParts_spaced complete,
    textParts_spaced completeFirst, textParts_spaced completeSecond]

/-- Two groups that share no option with a value can trade places in what a command gives for an
option. -/
theorem givenBy_swap {isSwitch : String → Bool} {first second : List Char} {name : String}
    (apart : isSwitch name = false →
      (Command.scan isSwitch first).flags.get? name = none ∨
        (Command.scan isSwitch second).flags.get? name = none) (before behind : List Part) :
    givenBy name (before ++
        (textParts isSwitch first ++ (textParts isSwitch second ++ behind))) =
      givenBy name (before ++
        (textParts isSwitch second ++ (textParts isSwitch first ++ behind))) := by
  rw [get?_scan, get?_scan] at apart
  have swap := join_comm_of_apart (readParts_suits isSwitch first.length first) apart
  simp only [givenBy_append]
  rw [← FlagValue.join_assoc (givenBy name (textParts isSwitch first)),
    ← FlagValue.join_assoc (givenBy name (textParts isSwitch second))]
  exact congrArg (join _) (congrArg (join · _) swap)

/-- A map of options is empty if and only if it gives nothing for any name. -/
theorem Flags.isEmpty_entries_iff (flags : Flags) :
    flags.entries.isEmpty = true ↔ ∀ name, flags.get? name = none := by
  cases flags with
  | mk entries =>
    cases entries with
    | nil => exact ⟨fun _ _ => rfl, fun _ => rfl⟩
    | cons entry rest =>
      refine ⟨nofun, fun absent => ?_⟩
      have present : Flags.lookIn entry.1 (entry :: rest) = some entry.2 := if_pos rfl
      cases (absent entry.1).symm.trans present

/-- Two commands that have the same words and give the same for every option come to the same. -/
theorem result_convertCommand_of_same {first second : Command}
    (words : first.positionals = second.positionals)
    (same : ∀ name, first.flags.get? name = second.flags.get? name) (options : RenderOptions)
    (typeWriter : TypeWriter) :
    (convertCommand options typeWriter first).result =
      (convertCommand options typeWriter second).result := by
  have empty : first.flags.entries.isEmpty = second.flags.entries.isEmpty := by
    rw [Bool.eq_iff_iff, Flags.isEmpty_entries_iff, Flags.isEmpty_entries_iff]
    exact forall_congr' fun name => by rw [same]
  refine result_convertCommand_congr ?_ (extract_congr (by rw [words]) fun name _ => same name)
    options typeWriter
  unfold Command.isEmpty
  rw [words, empty]

/-- The order of options with different names decides nothing. If two groups of options, complete
in themselves, share no option that takes a value, then a command in which they trade places comes
to the same code or the same fault, whatever stands behind them. -/
theorem convertWith_swap_groups (options : RenderOptions) (typeWriter : TypeWriter)
    {command first second : String} (starts : StartsWithWord command.toList)
    (complete : IsComplete isSwitch command.toList) (groupFirst : IsGroup isSwitch first.toList)
    (groupSecond : IsGroup isSwitch second.toList)
    (apart : ∀ name, isSwitch name = false →
      (Command.scan isSwitch first.toList).flags.get? name = none ∨
        (Command.scan isSwitch second.toList).flags.get? name = none) (later : String) :
    (convertWith options typeWriter
        (command ++ " " ++ first ++ " " ++ second ++ " " ++ later)).result =
      (convertWith options typeWriter
        (command ++ " " ++ second ++ " " ++ first ++ " " ++ later)).result := by
  have parts := textParts_groups starts complete groupFirst.toIsComplete groupSecond.toIsComplete
    later
  have swapped := textParts_groups starts complete groupSecond.toIsComplete
    groupFirst.toIsComplete later
  refine result_convertCommand_of_same ?_ (fun name => ?_) options typeWriter
  · have noneFirst := groupFirst.onlyOptions
    have noneSecond := groupSecond.onlyOptions
    rw [positionals_scan] at noneFirst noneSecond
    unfold Command.read Command.readWith
    rw [positionals_scan, positionals_scan, parts, swapped]
    simp only [List.filterMap_append, noneFirst, noneSecond]
  · unfold Command.read Command.readWith
    rw [get?_scan, get?_scan, parts, swapped]
    exact givenBy_swap (apart name) _ _

/-- A switch and a header trade places with the same switch and a method. -/
theorem convertWith_swap_groups_header :
    let command := "curl"
    let first := "-s -H 'A: b'"
    let second := "-sX PUT"
    StartsWithWord command.toList ∧ IsComplete isSwitch command.toList ∧
      IsGroup isSwitch first.toList ∧ IsGroup isSwitch second.toList ∧
      (∀ name, isSwitch name = false →
        (Command.scan isSwitch first.toList).flags.get? name = none ∨
          (Command.scan isSwitch second.toList).flags.get? name = none) ∧
      (convertWith {} typeDefinition
          (command ++ " " ++ first ++ " " ++ second ++ " " ++ "example.com")).result =
        (convertWith {} typeDefinition
          (command ++ " " ++ second ++ " " ++ first ++ " " ++ "example.com")).result := by
  intro command first second
  have starts : StartsWithWord command.toList := by decide +kernel
  have complete : IsComplete isSwitch command.toList :=
    ⟨by decide +kernel, by decide +kernel, by decide +kernel⟩
  have readFirst : Command.scan isSwitch first.toList =
      ⟨[], ⟨[("s", .switch), ("H", .values ["A: b"])]⟩, none⟩ := by
    decide +kernel
  have readSecond : Command.scan isSwitch second.toList =
      ⟨[], ⟨[("s", .switch), ("X", .values ["PUT"])]⟩, none⟩ := by
    decide +kernel
  have groupFirst : IsGroup isSwitch first.toList :=
    ⟨⟨by decide +kernel, by rw [readFirst], by decide +kernel⟩, by rw [readFirst]⟩
  have groupSecond : IsGroup isSwitch second.toList :=
    ⟨⟨by decide +kernel, by rw [readSecond], by decide +kernel⟩, by rw [readSecond]⟩
  have apart : ∀ name, isSwitch name = false →
      (Command.scan isSwitch first.toList).flags.get? name = none ∨
        (Command.scan isSwitch second.toList).flags.get? name = none := by
    intro name takesValue
    rw [readFirst, readSecond]
    by_cases header : name = "H"
    · subst header
      exact Or.inr (by decide)
    · have other : name ≠ "s" := by
        rintro rfl
        exact absurd takesValue (by decide +kernel)
      exact Or.inl (by simp [Flags.get?, Flags.lookIn, Ne.symm other, Ne.symm header])
  exact ⟨starts, complete, groupFirst, groupSecond, apart,
    convertWith_swap_groups {} typeDefinition starts complete groupFirst groupSecond apart
      "example.com"⟩

end CurlScribe
