/-
This file proves that commands are read piece by piece. If a command leaves nothing open and
no option without its value, a second command behind a space adds its own words and options
and changes nothing of the first: the words follow one another, the values of an option that
both give follow one another, and what the second leaves open is reported where it now
stands. A switch put between the two therefore adds itself and takes no word.
-/

import CurlScribe.Proofs.Flags
import CurlScribe.Proofs.Scanning
import CurlScribe.Proofs.WordGrammar

namespace CurlScribe

open Text
open FlagValue (join)

/-! ### Switches as they are written -/

/-- The ways to write an option without a value: a letter behind one dash, or any word that means
its name behind two. -/
inductive WritesSwitch : String → List Char → Prop
  | letter {character : Char} (inside : isSeparator character = false)
      (other : character ≠ '-') : WritesSwitch (String.singleton character) ['-', character]
  | long {segments : List Segment} (spells : Spells (some '=') segments [])
      (named : segments.flatMap Segment.meaning ≠ []) :
      WritesSwitch (String.ofList (segments.flatMap Segment.meaning))
        ('-' :: '-' :: segments.flatMap Segment.written)

theorem skipGap_writesSwitch {name : String} {flag : List Char} (writes : WritesSwitch name flag) :
    ∃ rest, flag = '-' :: rest ∧ skipGap flag = '-' :: rest := by
  cases writes with
  | letter inside other => exact ⟨_, rfl, skipGap_inside rfl (by decide) _⟩
  | long spells named => exact ⟨_, rfl, skipGap_inside rfl (by decide) _⟩

theorem readStep_writesSwitch {isSwitch : String → Bool} {name : String} {flag : List Char}
    (switch : isSwitch name = true) (writes : WritesSwitch name flag) (total : Nat) :
    readStep isSwitch total flag = ⟨[.switch name], [], none⟩ := by
  cases writes with
  | @letter character inside other =>
    rw [readStep_cluster (by simpa using other)]
    simp [readCluster, inside, switch]
  | @long segments spells named =>
    have read := readWord_of_spells spells .nothing
    rw [List.append_nil] at read
    show readLong isSwitch total (segments.flatMap Segment.written) = _
    rw [readLong_of_readWord read, if_neg (by simpa using named), if_pos switch]

theorem stepWaits_writesSwitch {isSwitch : String → Bool} {name : String} {flag : List Char}
    (switch : isSwitch name = true) (writes : WritesSwitch name flag) :
    stepWaits isSwitch flag = false := by
  cases writes with
  | @letter character inside other =>
    rw [stepWaits_cluster (by simpa using other)]
    simp [clusterWaits, inside, switch]
  | @long segments spells named =>
    have read := readWord_of_spells spells .nothing
    rw [List.append_nil] at read
    show longWaits isSwitch (segments.flatMap Segment.written) = false
    unfold longWaits
    rw [read]
    simp [switch]

/-- A written switch is read as this switch alone. -/
theorem readParts_writesSwitch {isSwitch : String → Bool} {name : String} {flag : List Char}
    (switch : isSwitch name = true) (writes : WritesSwitch name flag) (total : Nat) :
    readParts isSwitch total flag = ([.switch name], none) := by
  obtain ⟨rest, rfl, gap⟩ := skipGap_writesSwitch writes
  rw [readParts_of_cons gap, readStep_writesSwitch switch writes, readParts_of_nil rfl]
  rfl

theorem waitsAtEnd_writesSwitch {isSwitch : String → Bool} {name : String} {flag : List Char}
    (switch : isSwitch name = true) (writes : WritesSwitch name flag) :
    waitsAtEnd isSwitch flag = false := by
  obtain ⟨rest, rfl, gap⟩ := skipGap_writesSwitch writes
  rw [waitsAtEnd_of_cons gap, stepWaits_writesSwitch switch writes,
    readStep_writesSwitch switch writes, waitsAtEnd_of_nil rfl]
  rfl

/-! ### Two commands -/

theorem length_spaced (first second : List Char) :
    (spaced first second).length = second.length + (first.length + 1) := by
  simp only [spaced, List.length_append, List.length_cons]
  omega

/-- What a whole command says, by the parts of its two halves. -/
theorem readParts_whole {isSwitch : String → Bool} {first : List Char}
    (closed : (readParts isSwitch first.length first).2 = none)
    (given : waitsAtEnd isSwitch first = false) (second : List Char) :
    readParts isSwitch (spaced first second).length (spaced first second) =
      ((readParts isSwitch first.length first).1 ++ (readParts isSwitch second.length second).1,
        (readParts isSwitch second.length second).2.map (Unclosed.shift (first.length + 1))) := by
  rw [readParts_spaced given closed, length_spaced, readParts_add (Nat.le_refl _)]

theorem scan_of_readParts {isSwitch : String → Bool} {text : List Char} {parts : List Part}
    {unclosed : Option Unclosed} (read : readParts isSwitch text.length text = (parts, unclosed)) :
    Command.scan isSwitch text = Command.ofParts parts unclosed := by
  unfold Command.scan
  rw [read]

theorem Unclosed.shift_comm (first second : Nat) (unclosed : Option Unclosed) :
    (unclosed.map (Unclosed.shift first)).map (Unclosed.shift second) =
      (unclosed.map (Unclosed.shift second)).map (Unclosed.shift first) := by
  cases unclosed with
  | none => rfl
  | some found =>
    exact congrArg (fun offset => some (Unclosed.mk found.construct offset))
      (Nat.add_right_comm _ _ _)

/-- A command behind a switch says what it says alone, and the switch. -/
theorem readParts_behind_switch {isSwitch : String → Bool} {name : String} {flag : List Char}
    (switch : isSwitch name = true) (writes : WritesSwitch name flag) (second : List Char) :
    readParts isSwitch (spaced flag second).length (spaced flag second) =
      (.switch name :: (readParts isSwitch second.length second).1,
        (readParts isSwitch second.length second).2.map (Unclosed.shift (flag.length + 1))) := by
  have alone := readParts_writesSwitch switch writes flag.length
  rw [readParts_whole (by rw [alone]) (waitsAtEnd_writesSwitch switch writes), alone]
  rfl

theorem givenBy_switch (name other : String) (first second : List Part) :
    givenBy other (first ++ .switch name :: second) =
      if other = name then some .switch else givenBy other (first ++ second) := by
  rw [givenBy_append, givenBy_append]
  show join _ (join (if name = other then some .switch else none) _) = _
  by_cases same : other = name
  · rw [if_pos same.symm, if_pos same, FlagValue.join_switch_left, FlagValue.join_switch_right]
  · rw [if_neg (Ne.symm same), if_neg same, FlagValue.join_none_left]

/-- Reading is compositional. If the first of two texts leaves nothing open and no option without
its value, then the words of both texts follow one another, each option has what the first text and
then the second give for it, and what is open is what the second text leaves open. A switch between
the two texts sets this option and changes nothing else; the word behind it stays where it was. -/
theorem scan_append (isSwitch : String → Bool) (first second : List Char)
    (closed : (Command.scan isSwitch first).unclosed = none)
    (given : waitsAtEnd isSwitch first = false) :
    let whole := Command.scan isSwitch (first ++ ' ' :: second)
    (whole.positionals =
        (Command.scan isSwitch first).positionals ++ (Command.scan isSwitch second).positionals ∧
      (∀ name, whole.flags.get? name =
        join ((Command.scan isSwitch first).flags.get? name)
          ((Command.scan isSwitch second).flags.get? name)) ∧
      whole.unclosed =
        (Command.scan isSwitch second).unclosed.map (Unclosed.shift (first.length + 1))) ∧
    ∀ name flag, isSwitch name = true → WritesSwitch name flag →
      let extended := Command.scan isSwitch (first ++ ' ' :: (flag ++ ' ' :: second))
      extended.positionals = whole.positionals ∧
      (∀ other, extended.flags.get? other =
        if other = name then some .switch else whole.flags.get? other) ∧
      extended.unclosed = whole.unclosed.map (Unclosed.shift (flag.length + 1)) := by
  have read : ∀ second, Command.scan isSwitch (first ++ ' ' :: second) = _ :=
    fun second => scan_of_readParts (readParts_whole closed given second)
  refine ⟨?_, fun name flag switch writes => ?_⟩
  · rw [read]
    refine ⟨List.filterMap_append, fun name => ?_, rfl⟩
    unfold Command.scan
    rw [Command.get?_ofParts, Command.get?_ofParts, Command.get?_ofParts, givenBy_append]
  · have behind : readParts isSwitch (flag ++ ' ' :: second).length (flag ++ ' ' :: second) = _ :=
      readParts_behind_switch switch writes second
    rw [read, read, behind]
    refine ⟨?_, fun other => ?_, Unclosed.shift_comm _ _ _⟩
    · rw [Command.positionals_ofParts, Command.positionals_ofParts, List.filterMap_append,
        List.filterMap_append]
      rfl
    · rw [Command.get?_ofParts, Command.get?_ofParts, givenBy_switch]

/-- The two headers of these commands come together, and a switch between them is set. -/
theorem scan_append_two_headers :
    let first := "curl -sH 'A: b'".toList
    let second := "-H C x 'y".toList
    (Command.scan isSwitch first).unclosed = none ∧ waitsAtEnd isSwitch first = false ∧
      isSwitch (String.singleton 'k') = true ∧
      WritesSwitch (String.singleton 'k') ['-', 'k'] ∧
      (Command.scan isSwitch (first ++ ' ' :: second)).flags.get? "H" =
        some (.values ["A: b", "C"]) ∧
      (Command.scan isSwitch (first ++ ' ' :: (['-', 'k'] ++ ' ' :: second))).unclosed =
        some ⟨.singleQuote, 26⟩ := by
  have closed : (Command.scan isSwitch "curl -sH 'A: b'".toList).unclosed = none := by
    decide +kernel
  have given : waitsAtEnd isSwitch "curl -sH 'A: b'".toList = false := by
    decide +kernel
  have switch : isSwitch (String.singleton 'k') = true := by
    decide +kernel
  have writes : WritesSwitch (String.singleton 'k') ['-', 'k'] := .letter rfl (by decide)
  obtain ⟨⟨-, flags, unclosed⟩, extended⟩ := scan_append isSwitch _ "-H C x 'y".toList closed given
  refine ⟨closed, given, switch, writes, (flags "H").trans ?_,
    (extended _ _ switch writes).2.2.trans ?_⟩
  · decide +kernel
  · rw [unclosed]
    decide +kernel

end CurlScribe
