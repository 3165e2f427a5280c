/-
This file reads a command line. After a shell prompt and the blanks around it are removed,
the text is taken apart from left to right: a part that starts with two dashes is a long
option, one that starts with a dash is a cluster of one-letter options, everything else is
a word. Whether an option takes a value is asked of a predicate on its name; the value is
the rest of the option's own word or, failing that, the next word. Reading never fails:
each step takes at least one character away, so it ends with nothing left.
-/

import CurlScribe.Command.Basic
import CurlScribe.Command.Switch

namespace CurlScribe

open Text

/-! ### Gaps between words -/

/-- The text from the next word on. A backslash before a separator belongs to the gap, whether it
continues a line or stands before a blank. -/
def skipGap : List Char → List Char
  | '\x5c' :: character :: rest =>
    if isSeparator character then skipGap rest else '\x5c' :: character :: rest
  | character :: rest => if isSeparator character then skipGap rest else character :: rest
  | [] => []

theorem skipGap_suffix (text : List Char) : skipGap text <:+ text := by
  fun_induction skipGap text with
  | case1 character rest separator inductionHypothesis =>
    exact inductionHypothesis.trans ⟨['\x5c', character], rfl⟩
  | case2 => exact List.suffix_refl _
  | case3 character rest _ separator inductionHypothesis =>
    exact inductionHypothesis.trans (List.suffix_cons character rest)
  | case4 => exact List.suffix_refl _
  | case5 => exact List.suffix_refl _

theorem skipGap_length_le (text : List Char) : (skipGap text).length ≤ text.length :=
  (skipGap_suffix text).length_le

/-- What follows a gap starts with a character that is no separator. -/
theorem isSeparator_of_skipGap {text rest : List Char} {character : Char}
    (next : skipGap text = character :: rest) : isSeparator character = false := by
  fun_induction skipGap text generalizing character rest <;> grind [isSeparator]

/-! ### One step -/

/-- What one step finds: the parts it reads, the text after them, and the construct that the end
of the text left open. -/
structure Step where
  parts : List Part
  rest : List Char
  unclosed : Option Unclosed

/-- The construct that a word leaves open, reported at the place where the word starts. -/
def Word.report (word : Word) (offset : Nat) : Option Unclosed :=
  word.unclosed.map fun construct => ⟨construct, offset⟩

/-- Read the value of an option: the word after the gap, if there is a gap. The text is the end
of a command of `total` characters, so the offset of the word is a difference of lengths. -/
def readValue (total : Nat) (name : String) (text : List Char) : Step :=
  let start := skipGap text
  let word := readWord none .plain start
  ⟨[.value name (String.ofList word.text)], word.rest, word.report (total - start.length)⟩

/-- Read a cluster of one-letter options from behind its dash. Letters without a value follow one
another; the first letter with a value takes the rest of the word, or the next word. -/
def readCluster (isSwitch : String → Bool) (total : Nat) : List Char → Step
  | [] => ⟨[], [], none⟩
  | letter :: rest =>
    if isSeparator letter then ⟨[], letter :: rest, none⟩
    else if isSwitch (String.singleton letter) then
      let later := readCluster isSwitch total rest
      { later with parts := .switch (String.singleton letter) :: later.parts }
    else readValue total (String.singleton letter) rest

/-- Read a long option from behind its two dashes. The name ends at an equals sign or with the
word; an empty name says nothing. -/
def readLong (isSwitch : String → Bool) (total : Nat) (text : List Char) : Step :=
  let word := readWord (some '=') .plain text
  let name := String.ofList word.text
  let unclosed := word.report (total - text.length)
  if word.text.isEmpty then ⟨[], word.rest, unclosed⟩
  else if isSwitch name then ⟨[.switch name], word.rest, unclosed⟩
  else
    let value := readValue total name word.rest
    { value with unclosed := unclosed.or value.unclosed }

/-- Read what starts at the given character, which no gap separates from it. -/
def readStep (isSwitch : String → Bool) (total : Nat) : List Char → Step
  | '-' :: '-' :: rest => readLong isSwitch total rest
  | '-' :: rest => readCluster isSwitch total rest
  | text =>
    let word := readWord none .plain text
    ⟨[.word (String.ofList word.text)], word.rest, word.report (total - text.length)⟩

/-! ### Steps go forward -/

theorem readValue_rest_suffix (total : Nat) (name : String) (text : List Char) :
    (readValue total name text).rest <:+ text :=
  (readWord_rest_suffix none .plain (skipGap text)).trans (skipGap_suffix text)

theorem readCluster_rest_suffix (isSwitch : String → Bool) (total : Nat) (text : List Char) :
    (readCluster isSwitch total text).rest <:+ text := by
  induction text with
  | nil => simp [readCluster]
  | cons letter rest inductionHypothesis =>
    unfold readCluster
    split
    · simp
    · split
      · exact inductionHypothesis.trans (List.suffix_cons letter rest)
      · exact (readValue_rest_suffix _ _ rest).trans (List.suffix_cons letter rest)

theorem readLong_rest_suffix (isSwitch : String → Bool) (total : Nat) (text : List Char) :
    (readLong isSwitch total text).rest <:+ text := by
  have name := readWord_rest_suffix (some '=') .plain text
  unfold readLong
  dsimp only
  split
  · exact name
  · split
    · exact name
    · exact (readValue_rest_suffix total (String.ofList (readWord (some '=') .plain text).text)
        (readWord (some '=') .plain text).rest).trans name

/-- A step leaves an end of its text that is strictly shorter. -/
theorem readStep_rest_length_lt (isSwitch : String → Bool) (total : Nat) (character : Char)
    (rest : List Char) (inside : isSeparator character = false) :
    (readStep isSwitch total (character :: rest)).rest.length < (character :: rest).length := by
  unfold readStep
  split
  · rename_i inner equal
    cases equal
    have shorter := (readLong_rest_suffix isSwitch total inner).length_le
    simp only [List.length_cons]
    omega
  · rename_i inner equal
    cases equal
    have shorter := (readCluster_rest_suffix isSwitch total rest).length_le
    exact Nat.lt_succ_of_le shorter
  · exact readWord_rest_length_lt none character rest inside

/-! ### The whole text -/

/-- The parts of a text, and the first construct that its end left open. -/
def readParts (isSwitch : String → Bool) (total : Nat) (text : List Char) :
    List Part × Option Unclosed :=
  match next : skipGap text with
  | [] => ([], none)
  | character :: rest =>
    let step := readStep isSwitch total (character :: rest)
    have : step.rest.length < text.length :=
      Nat.lt_of_lt_of_le
        (readStep_rest_length_lt isSwitch total character rest (isSeparator_of_skipGap next))
        (next ▸ skipGap_length_le text)
    let later := readParts isSwitch total step.rest
    (step.parts ++ later.1, step.unclosed.or later.2)
termination_by text.length

/-- The text without the blanks around it and without a shell prompt, which is a dollar or a hash
before a separator. -/
def stripPrompt (text : List Char) : List Char :=
  match trimBoth text with
  | '$' :: character :: rest =>
    if isSeparator character then trimStart (character :: rest) else '$' :: character :: rest
  | '#' :: character :: rest =>
    if isSeparator character then trimStart (character :: rest) else '#' :: character :: rest
  | trimmed => trimmed

/-- Read a text without prompt and outer blanks. -/
def Command.scan (isSwitch : String → Bool) (text : List Char) : Command :=
  let found := readParts isSwitch text.length text
  Command.ofParts found.1 found.2

/-- Read a command line, asking `isSwitch` which options take no value. -/
def Command.readWith (isSwitch : String → Bool) (text : String) : Command :=
  Command.scan isSwitch (stripPrompt text.toList)

/-- Read a command line with the registry of options that take no value. -/
def Command.read (text : String) : Command :=
  Command.readWith CurlScribe.isSwitch text

end CurlScribe
