/-
This file proves that the reader of a command line keeps nothing in mind across a space. A
text that leaves no construct open and no option without its value is read the same way
whatever stands behind it, up to a space: each reader returns what it returned before, with
the space and what follows it behind the rest.

Nothing else could be true of a text that ends in the middle of something. A quote goes on
over the space, a backslash escapes it, and an option that still needs a value takes the
next word. The two conditions exclude exactly these.

The offset of an open construct is counted from the start of the command, so reading an end
of a longer command only moves it.
-/

import CurlScribe.Command.Reading
import Mathlib.Tactic.SplitIfs

namespace CurlScribe

open Text

/-! ### A text behind a space -/

/-- A text, a space, and another text. -/
def spaced (text later : List Char) : List Char :=
  text ++ ' ' :: later

@[simp] theorem spaced_nil (later : List Char) : spaced [] later = ' ' :: later := rfl

@[simp] theorem spaced_cons (character : Char) (text later : List Char) :
    spaced (character :: text) later = character :: spaced text later := rfl

/-- The space is the only character that can come to stand first. -/
theorem head?_spaced_eq_iff (character : Char) (text later : List Char) (other : character ≠ ' ') :
    (spaced text later).head? = some character ↔ text.head? = some character := by
  cases text with
  | nil => simp [other.symm]
  | cons first rest => rfl

theorem opensQuote_spaced (mark : Option Char) (text later : List Char) :
    opensQuote mark (spaced text later) ↔ opensQuote mark text := by
  unfold opensQuote
  rw [head?_spaced_eq_iff '\x27' text later (by decide)]

/-- A word in front of a text that is not part of it. -/
def Word.before (word : Word) (later : List Char) : Word :=
  { word with rest := spaced word.rest later }

@[simp] theorem Word.before_precede (word : Word) (characters later : List Char) :
    (word.precede characters).before later = (word.before later).precede characters := rfl

/-- A step in front of a text that it does not reach. -/
def Step.before (step : Step) (later : List Char) : Step :=
  { step with rest := spaced step.rest later }

@[simp] theorem Step.parts_before (step : Step) (later : List Char) :
    (step.before later).parts = step.parts := rfl

@[simp] theorem Step.rest_before (step : Step) (later : List Char) :
    (step.before later).rest = spaced step.rest later := rfl

@[simp] theorem Step.unclosed_before (step : Step) (later : List Char) :
    (step.before later).unclosed = step.unclosed := rfl

/-! ### Words and gaps -/

/-- A word that is closed where its text ends is not changed by what stands behind a space. -/
theorem readWord_spaced {mark : Option Char} {quoting : Quoting} {text : List Char}
    (closed : (readWord mark quoting text).unclosed = none) (later : List Char) :
    readWord mark quoting (spaced text later) = (readWord mark quoting text).before later := by
  fun_induction readWord mark quoting text with
  | case1 quoting =>
    cases quoting with
    | plain => rw [spaced_nil, readWord, if_pos (by decide)]; rfl
    | _ => cases closed
  | case2 character rest separated => rw [spaced_cons, readWord, if_pos separated]; rfl
  | case3 character rest inside marked =>
    rw [spaced_cons, readWord, if_neg inside, if_pos marked]
    rfl
  | _ => simp_all [readWord, opensQuote_spaced, head?_spaced_eq_iff]

/-- A separator belongs to the gap. -/
theorem skipGap_separator {character : Char} (separated : isSeparator character = true)
    (rest : List Char) : skipGap (character :: rest) = skipGap rest := by
  rw [skipGap, if_pos separated]
  rintro next later rfl
  exact absurd separated (by decide)

/-- A word starts at a character that is neither a separator nor a backslash. -/
theorem skipGap_inside {character : Char} (inside : isSeparator character = false)
    (other : character ≠ '\x5c') (rest : List Char) :
    skipGap (character :: rest) = character :: rest := by
  rw [skipGap, if_neg (by simp [inside])]
  intro next later same
  exact absurd same other

/-- A gap that reaches the end of its text goes on behind the space. -/
theorem skipGap_spaced_of_nil {text : List Char} (empty : skipGap text = []) (later : List Char) :
    skipGap (spaced text later) = skipGap later := by
  fun_induction skipGap text with
  | case1 character rest separated inductionHypothesis =>
    rw [spaced_cons, spaced_cons, skipGap, if_pos separated, inductionHypothesis empty]
  | case3 character rest _ separated inductionHypothesis =>
    rw [spaced_cons, skipGap_separator separated, inductionHypothesis empty]
  | case5 => exact skipGap_separator rfl later
  | _ => cases empty

/-- A gap that ends before a word ends there, unless the word is a backslash alone, which would
take the space with it. -/
theorem skipGap_spaced_of_ne_nil {text : List Char} (nonempty : skipGap text ≠ [])
    (whole : skipGap text ≠ ['\x5c']) (later : List Char) :
    skipGap (spaced text later) = spaced (skipGap text) later := by
  fun_induction skipGap text with
  | case1 character rest separated inductionHypothesis =>
    rw [spaced_cons, spaced_cons, skipGap, if_pos separated, inductionHypothesis nonempty whole]
  | case2 character rest inside =>
    rw [spaced_cons, spaced_cons, skipGap, if_neg inside]
  | case3 character rest _ separated inductionHypothesis =>
    rw [spaced_cons, skipGap_separator separated, inductionHypothesis nonempty whole]
  | case4 character rest single inside =>
    have other : character ≠ '\x5c' := by
      rintro rfl
      cases rest with
      | nil => exact whole rfl
      | cons next rest => exact single next rest rfl rfl
    exact skipGap_inside (by simpa using inside) other _
  | case5 => exact absurd rfl nonempty

/-! ### Options without their value -/

/-- The value of an option is looked for where nothing but a gap is left. -/
def lacksValue (text : List Char) : Bool :=
  (skipGap text).isEmpty

/-- Whether the cluster of one-letter options at the start of a text lacks a value. -/
def clusterWaits (isSwitch : String → Bool) : List Char → Bool
  | [] => false
  | letter :: rest =>
    if isSeparator letter then false
    else if isSwitch (String.singleton letter) then clusterWaits isSwitch rest
    else lacksValue rest

/-- Whether the long option at the start of a text lacks a value. -/
def longWaits (isSwitch : String → Bool) (text : List Char) : Bool :=
  let word := readWord (some '=') .plain text
  !word.text.isEmpty && !isSwitch (String.ofList word.text) && lacksValue word.rest

/-- Whether what starts a text is an option that lacks a value. -/
def stepWaits (isSwitch : String → Bool) : List Char → Bool
  | '-' :: '-' :: rest => longWaits isSwitch rest
  | '-' :: rest => clusterWaits isSwitch rest
  | _ => false

/-- Whether some option of a text has to take its value where the text has only a gap left. -/
def waitsAtEnd (isSwitch : String → Bool) (text : List Char) : Bool :=
  match next : skipGap text with
  | [] => false
  | character :: rest =>
    have : (readStep isSwitch 0 (character :: rest)).rest.length < text.length :=
      Nat.lt_of_lt_of_le
        (readStep_rest_length_lt isSwitch 0 character rest (isSeparator_of_skipGap next))
        (next ▸ skipGap_length_le text)
    stepWaits isSwitch (character :: rest) ||
      waitsAtEnd isSwitch (readStep isSwitch 0 (character :: rest)).rest
termination_by text.length

/-! ### Steps -/

theorem Word.report_eq_none_iff (word : Word) (offset : Nat) :
    word.report offset = none ↔ word.unclosed = none :=
  Option.map_eq_none_iff

theorem readValue_spaced {total : Nat} {name : String} {text : List Char}
    (given : lacksValue text = false) (closed : (readValue total name text).unclosed = none)
    (later : List Char) (longer : Nat) :
    readValue longer name (spaced text later) = (readValue total name text).before later := by
  have nonempty : skipGap text ≠ [] := by
    simpa [lacksValue] using given
  have closedWord : (readWord none .plain (skipGap text)).unclosed = none :=
    (Word.report_eq_none_iff _ _).1 closed
  have whole : skipGap text ≠ ['\x5c'] := by
    intro single
    rw [single] at closedWord
    cases closedWord
  have unreported : ∀ offset, (readWord none .plain (skipGap text)).report offset = none :=
    fun offset => (Word.report_eq_none_iff _ offset).2 closedWord
  have same := readWord_spaced closedWord later
  rw [← skipGap_spaced_of_ne_nil nonempty whole later] at same
  unfold readValue
  dsimp only
  rw [same, unreported]
  exact congrArg (Step.mk _ _) (unreported _)

theorem readCluster_spaced {isSwitch : String → Bool} {total : Nat} {text : List Char}
    (given : clusterWaits isSwitch text = false)
    (closed : (readCluster isSwitch total text).unclosed = none) (later : List Char)
    (longer : Nat) :
    readCluster isSwitch longer (spaced text later) =
      (readCluster isSwitch total text).before later := by
  induction text with
  | nil => rfl
  | cons letter rest inductionHypothesis =>
    rw [spaced_cons]
    unfold clusterWaits at given
    unfold readCluster at closed ⊢
    cases separated : isSeparator letter with
    | true => rfl
    | false =>
      simp only [separated, Bool.false_eq_true, if_false] at given closed ⊢
      cases switch : isSwitch (String.singleton letter) with
      | true =>
        simp only [switch, if_true] at given closed ⊢
        rw [inductionHypothesis given closed]
        rfl
      | false =>
        simp only [switch, Bool.false_eq_true, if_false] at given closed ⊢
        exact readValue_spaced given closed later longer

/-- A long option that leaves nothing open has a name that leaves nothing open. -/
theorem readWord_closed_of_readLong {isSwitch : String → Bool} {total : Nat} {text : List Char}
    (closed : (readLong isSwitch total text).unclosed = none) :
    (readWord (some '=') .plain text).unclosed = none := by
  rw [← Word.report_eq_none_iff _ (total - text.length)]
  unfold readLong at closed
  dsimp only at closed
  split at closed
  · exact closed
  · split at closed
    · exact closed
    · exact (Option.or_eq_none_iff.1 closed).1

/-- A long option whose name is closed says nothing, is a switch, or takes a value. -/
theorem readLong_of_readWord {text name rest : List Char}
    (read : readWord (some '=') .plain text = ⟨name, rest, none⟩) (isSwitch : String → Bool)
    (total : Nat) :
    readLong isSwitch total text =
      if name.isEmpty then ⟨[], rest, none⟩
      else if isSwitch (String.ofList name) then ⟨[.switch (String.ofList name)], rest, none⟩
      else readValue total (String.ofList name) rest := by
  unfold readLong
  rw [read]
  rfl

theorem readLong_spaced {isSwitch : String → Bool} {total : Nat} {text : List Char}
    (given : longWaits isSwitch text = false)
    (closed : (readLong isSwitch total text).unclosed = none) (later : List Char)
    (longer : Nat) :
    readLong isSwitch longer (spaced text later) =
      (readLong isSwitch total text).before later := by
  have closedName := readWord_closed_of_readLong closed
  have behind := readWord_spaced closedName later
  unfold longWaits at given
  cases read : readWord (some '=') .plain text with
  | mk name rest unclosed =>
    rw [read] at closedName behind given
    obtain rfl : unclosed = none := closedName
    have behind : readWord (some '=') .plain (spaced text later) =
        ⟨name, spaced rest later, none⟩ := behind
    rw [readLong_of_readWord read] at closed ⊢
    rw [readLong_of_readWord behind]
    split_ifs at closed ⊢ with anonymous switch
    · rfl
    · rfl
    · have valued : lacksValue rest = false := by
        simpa [anonymous, switch] using given
      exact readValue_spaced valued closed later longer

/-- A dash that no second dash follows starts a cluster. -/
theorem readStep_cluster {rest : List Char} (single : rest.head? ≠ some '-')
    (isSwitch : String → Bool) (total : Nat) :
    readStep isSwitch total ('-' :: rest) = readCluster isSwitch total rest := by
  unfold readStep
  split
  · rename_i equal
    cases equal
    exact absurd rfl single
  · rename_i equal
    cases equal
    rfl
  · rename_i cluster
    exact absurd rfl (cluster rest)

/-- What starts with anything but a dash is a word. -/
theorem readStep_word {character : Char} (word : character ≠ '-') (isSwitch : String → Bool)
    (total : Nat) (rest : List Char) :
    readStep isSwitch total (character :: rest) =
      ⟨[.word (String.ofList (readWord none .plain (character :: rest)).text)],
        (readWord none .plain (character :: rest)).rest,
        (readWord none .plain (character :: rest)).report
          (total - (character :: rest).length)⟩ := by
  unfold readStep
  split
  · rename_i equal
    cases equal
    exact absurd rfl word
  · rename_i equal
    cases equal
    exact absurd rfl word
  · rfl

theorem stepWaits_cluster {rest : List Char} (single : rest.head? ≠ some '-')
    (isSwitch : String → Bool) :
    stepWaits isSwitch ('-' :: rest) = clusterWaits isSwitch rest := by
  unfold stepWaits
  split
  · rename_i equal
    cases equal
    exact absurd rfl single
  · rename_i equal
    cases equal
    rfl
  · rename_i cluster
    exact absurd rfl (cluster rest)

/-- A step that leaves nothing open and lacks no value is not changed by what stands behind a
space. -/
theorem readStep_spaced {isSwitch : String → Bool} {total : Nat} {character : Char}
    {rest : List Char} (given : stepWaits isSwitch (character :: rest) = false)
    (closed : (readStep isSwitch total (character :: rest)).unclosed = none)
    (later : List Char) (longer : Nat) :
    readStep isSwitch longer (spaced (character :: rest) later) =
      (readStep isSwitch total (character :: rest)).before later := by
  by_cases dash : character = '-'
  · subst dash
    by_cases long : rest.head? = some '-'
    · obtain ⟨name, rfl⟩ := List.head?_eq_some_iff.1 long
      exact readLong_spaced given closed later longer
    · rw [readStep_cluster long] at closed ⊢
      rw [stepWaits_cluster long] at given
      have behind : (spaced rest later).head? ≠ some '-' := by
        rwa [ne_eq, head?_spaced_eq_iff '-' rest later (by decide)]
      rw [spaced_cons, readStep_cluster behind]
      exact readCluster_spaced given closed later longer
  · rw [readStep_word dash] at closed ⊢
    have closedWord := (Word.report_eq_none_iff _ _).1 closed
    have behind := readWord_spaced closedWord later
    rw [spaced_cons] at behind ⊢
    rw [readStep_word dash, behind]
    have unreported : ∀ offset, (readWord none .plain (character :: rest)).report offset = none :=
      fun offset => (Word.report_eq_none_iff _ offset).2 closedWord
    exact congrArg (Step.mk _ _) ((unreported _).trans (unreported _).symm)

/-! ### The whole text -/

theorem readParts_of_nil {text : List Char} (empty : skipGap text = [])
    (isSwitch : String → Bool) (total : Nat) : readParts isSwitch total text = ([], none) := by
  rw [readParts]
  split
  · rfl
  · rename_i next
    rw [empty] at next
    cases next

theorem readParts_of_cons {text rest : List Char} {character : Char}
    (next : skipGap text = character :: rest) (isSwitch : String → Bool) (total : Nat) :
    readParts isSwitch total text =
      ((readStep isSwitch total (character :: rest)).parts ++
          (readParts isSwitch total (readStep isSwitch total (character :: rest)).rest).1,
        (readStep isSwitch total (character :: rest)).unclosed.or
          (readParts isSwitch total (readStep isSwitch total (character :: rest)).rest).2) := by
  rw [readParts]
  split
  · rename_i empty
    rw [empty] at next
    cases next
  · rename_i same
    rw [next] at same
    cases same
    rfl

/-- To prove something of every text, prove it where only a gap is left, and prove it of a text if
it holds behind the first step. -/
theorem step_induction (isSwitch : String → Bool) (total : Nat) {motive : List Char → Prop}
    (gap : ∀ text, skipGap text = [] → motive text)
    (step : ∀ text character rest, skipGap text = character :: rest →
      motive (readStep isSwitch total (character :: rest)).rest → motive text)
    (text : List Char) : motive text := by
  induction size : text.length using Nat.strongRecOn generalizing text with
  | ind bound inductionHypothesis =>
    cases next : skipGap text with
    | nil => exact gap text next
    | cons character rest =>
      refine step text character rest next (inductionHypothesis _ ?_ _ rfl)
      have shorter := readStep_rest_length_lt isSwitch total character rest
        (isSeparator_of_skipGap next)
      have remains := skipGap_length_le text
      rw [next] at remains
      exact size ▸ Nat.lt_of_lt_of_le shorter remains

theorem waitsAtEnd_of_nil {text : List Char} (empty : skipGap text = [])
    (isSwitch : String → Bool) : waitsAtEnd isSwitch text = false := by
  rw [waitsAtEnd]
  split
  · rfl
  · rename_i next
    rw [empty] at next
    cases next

theorem waitsAtEnd_of_cons {text rest : List Char} {character : Char}
    (next : skipGap text = character :: rest) (isSwitch : String → Bool) :
    waitsAtEnd isSwitch text =
      (stepWaits isSwitch (character :: rest) ||
        waitsAtEnd isSwitch (readStep isSwitch 0 (character :: rest)).rest) := by
  rw [waitsAtEnd]
  split
  · rename_i empty
    rw [empty] at next
    cases next
  · rename_i same
    rw [next] at same
    cases same
    rfl

/-- A gap in front of a text says nothing. -/
theorem readParts_congr {first second : List Char} (same : skipGap first = skipGap second)
    (isSwitch : String → Bool) (total : Nat) :
    readParts isSwitch total first = readParts isSwitch total second := by
  cases next : skipGap second with
  | nil => rw [readParts_of_nil next, readParts_of_nil (same.trans next)]
  | cons character rest => rw [readParts_of_cons next, readParts_of_cons (same.trans next)]

theorem readCluster_rest_eq (isSwitch : String → Bool) (total other : Nat) (text : List Char) :
    (readCluster isSwitch total text).rest = (readCluster isSwitch other text).rest := by
  induction text with
  | nil => rfl
  | cons letter rest inductionHypothesis =>
    unfold readCluster
    split
    · rfl
    · split
      · exact inductionHypothesis
      · rfl

theorem readLong_rest_eq (isSwitch : String → Bool) (total other : Nat) (text : List Char) :
    (readLong isSwitch total text).rest = (readLong isSwitch other text).rest := by
  unfold readLong
  dsimp only
  split
  · rfl
  · split <;> rfl

/-- The offset of a text in its command does not matter to where a step ends. -/
theorem readStep_rest_eq (isSwitch : String → Bool) (total other : Nat) (text : List Char) :
    (readStep isSwitch total text).rest = (readStep isSwitch other text).rest := by
  unfold readStep
  split
  · exact readLong_rest_eq isSwitch total other _
  · exact readCluster_rest_eq isSwitch total other _
  · rfl

/-- A text that leaves nothing open and lacks no value is read the same in front of a space and
another text, and the other text is read on its own. -/
theorem readParts_spaced {isSwitch : String → Bool} {total : Nat} {text : List Char}
    (given : waitsAtEnd isSwitch text = false)
    (closed : (readParts isSwitch total text).2 = none) (later : List Char) (longer : Nat) :
    readParts isSwitch longer (spaced text later) =
      ((readParts isSwitch total text).1 ++ (readParts isSwitch longer later).1,
        (readParts isSwitch longer later).2) := by
  induction text using step_induction isSwitch total with
  | gap text next =>
    rw [readParts_of_nil next, readParts_congr (skipGap_spaced_of_nil next later)]
    rfl
  | step text character rest next inductionHypothesis =>
    rw [waitsAtEnd_of_cons next, readStep_rest_eq isSwitch 0 total, Bool.or_eq_false_iff] at given
    rw [readParts_of_cons next] at closed ⊢
    obtain ⟨closedStep, closedLater⟩ := Option.or_eq_none_iff.1 closed
    have whole : skipGap text ≠ ['\x5c'] := by
      intro single
      rw [next] at single
      rw [single] at closedStep
      cases closedStep
    have behind : skipGap (spaced text later) = character :: spaced rest later := by
      rw [skipGap_spaced_of_ne_nil (by simp [next]) whole, next, spaced_cons]
    rw [readParts_of_cons behind, ← spaced_cons, readStep_spaced given.1 closedStep later longer]
    simp only [Step.parts_before, Step.rest_before, Step.unclosed_before]
    rw [inductionHypothesis given.2 closedLater, closedStep, Option.none_or, List.append_assoc]

/-! ### Ends of longer commands -/

/-- An open construct of a command that has a number of characters more in front. -/
def Unclosed.shift (distance : Nat) (unclosed : Unclosed) : Unclosed :=
  { unclosed with offset := unclosed.offset + distance }

/-- A step in a command that has a number of characters more in front. -/
def Step.shift (distance : Nat) (step : Step) : Step :=
  { step with unclosed := step.unclosed.map (Unclosed.shift distance) }

@[simp] theorem Step.parts_shift (distance : Nat) (step : Step) :
    (step.shift distance).parts = step.parts := rfl

@[simp] theorem Step.rest_shift (distance : Nat) (step : Step) :
    (step.shift distance).rest = step.rest := rfl

@[simp] theorem Step.unclosed_shift (distance : Nat) (step : Step) :
    (step.shift distance).unclosed = step.unclosed.map (Unclosed.shift distance) := rfl

theorem Word.report_add (word : Word) (offset distance : Nat) :
    word.report (offset + distance) = (word.report offset).map (Unclosed.shift distance) := by
  unfold Word.report
  rw [Option.map_map]
  rfl

theorem readValue_add {total : Nat} {text : List Char} (fits : text.length ≤ total)
    (distance : Nat) (name : String) :
    readValue (total + distance) name text = (readValue total name text).shift distance := by
  have shorter := Nat.le_trans (skipGap_length_le text) fits
  unfold readValue
  dsimp only
  rw [Nat.sub_add_comm shorter, Word.report_add]
  rfl

theorem readCluster_add {isSwitch : String → Bool} {total : Nat} {text : List Char}
    (fits : text.length ≤ total) (distance : Nat) :
    readCluster isSwitch (total + distance) text =
      (readCluster isSwitch total text).shift distance := by
  induction text with
  | nil => rfl
  | cons letter rest inductionHypothesis =>
    have shorter : rest.length ≤ total := Nat.le_trans (Nat.le_succ _) fits
    unfold readCluster
    split_ifs
    · rfl
    · rw [inductionHypothesis shorter]
      rfl
    · exact readValue_add shorter distance _

theorem readLong_add {isSwitch : String → Bool} {total : Nat} {text : List Char}
    (fits : text.length ≤ total) (distance : Nat) :
    readLong isSwitch (total + distance) text =
      (readLong isSwitch total text).shift distance := by
  have shorter := Nat.le_trans (readWord_rest_length_le (some '=') .plain text) fits
  unfold readLong
  dsimp only
  rw [Nat.sub_add_comm fits, Word.report_add]
  split_ifs
  · rfl
  · rfl
  · rw [readValue_add shorter]
    show Step.mk _ _ _ = Step.mk _ _ _
    rw [Option.map_or]
    rfl

theorem readStep_add {isSwitch : String → Bool} {total : Nat} {text : List Char}
    (fits : text.length ≤ total) (distance : Nat) :
    readStep isSwitch (total + distance) text =
      (readStep isSwitch total text).shift distance := by
  unfold readStep
  split
  · exact readLong_add (Nat.le_trans (Nat.le_add_right _ 2) fits) distance
  · exact readCluster_add (Nat.le_trans (Nat.le_succ _) fits) distance
  · dsimp only
    rw [Nat.sub_add_comm fits, Word.report_add]
    rfl

/-- A text at the end of a longer command says the same, and its offsets are moved. -/
theorem readParts_add {isSwitch : String → Bool} {total : Nat} {text : List Char}
    (fits : text.length ≤ total) (distance : Nat) :
    readParts isSwitch (total + distance) text =
      ((readParts isSwitch total text).1,
        (readParts isSwitch total text).2.map (Unclosed.shift distance)) := by
  induction text using step_induction isSwitch total with
  | gap text next =>
    rw [readParts_of_nil next, readParts_of_nil next]
    rfl
  | step text character rest next inductionHypothesis =>
    have remains := skipGap_length_le text
    rw [next] at remains
    have shorter := readStep_rest_length_lt isSwitch total character rest
      (isSeparator_of_skipGap next)
    have inside : (readStep isSwitch total (character :: rest)).rest.length ≤ total :=
      Nat.le_trans (Nat.le_of_lt shorter) (Nat.le_trans remains fits)
    rw [readParts_of_cons next, readParts_of_cons next, readStep_add (Nat.le_trans remains fits)]
    simp only [Step.parts_shift, Step.rest_shift, Step.unclosed_shift]
    rw [inductionHypothesis inside, Option.map_or]

end CurlScribe
