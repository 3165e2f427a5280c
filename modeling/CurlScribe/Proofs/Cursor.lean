/-
This file reads a command with a cursor. The text stands still, and four loops move the cursor over
it: one over a gap, one over a word, one over a cluster of options, and one over the whole text,
which starts the others. Some turns move it by two characters: over a backslash and the separator
behind it, over the two characters of a line break that a backslash joins, over the two dashes of a
long option.

Each turn that goes on moves the cursor forward and keeps it within the text, which is why the
loops may be run at all: the number of characters that are left bounds the number of turns. What
they find is what reading the text from its front finds, and the cursor ends behind the last
character.
-/

import CurlScribe.Proofs.Lookahead
import CurlScribe.Proofs.Progress

namespace CurlScribe

open Text

/-! ### Characters at the cursor -/

section Cursor

variable {chars : List Char}

theorem lt_length_of_getElem? {cursor : Nat} {character : Char}
    (here : chars[cursor]? = some character) : cursor < chars.length :=
  (List.getElem?_eq_some_iff.1 here).1

theorem drop_of_getElem? {cursor : Nat} {character : Char}
    (here : chars[cursor]? = some character) :
    chars.drop cursor = character :: chars.drop (cursor + 1) := by
  obtain ⟨inside, rfl⟩ := List.getElem?_eq_some_iff.1 here
  exact List.drop_eq_getElem_cons inside

theorem drop_of_getElem?_none {cursor : Nat} (here : chars[cursor]? = none) :
    chars.drop cursor = [] :=
  List.drop_eq_nil_of_le (List.getElem?_eq_none_iff.1 here)

/-! ### Gaps -/

/-- One turn over a gap: over a separator, or over a backslash and the separator behind it. -/
def gapTurn (chars : List Char) (cursor : Nat) : Turn Nat :=
  match chars[cursor]? with
  | none => .stop cursor
  | some character =>
    if character = '\x5c' ∧ (chars[cursor + 1]?).any isSeparator = true then .goOn (cursor + 2)
    else if isSeparator character then .goOn (cursor + 1)
    else .stop cursor

theorem progress_gapTurn (chars : List Char) : Progress (gapTurn chars) id chars.length := by
  refine .of_meets fun cursor => ?_
  unfold gapTurn
  split
  · exact .refl _
  · rename_i character here
    split_ifs with escaped separated
    · obtain ⟨separator, behind, -⟩ := (Option.any_eq_true _ _).1 escaped.2
      exact ⟨Nat.lt_add_of_pos_right (by decide), lt_length_of_getElem? behind⟩
    · exact ⟨Nat.lt_succ_self _, lt_length_of_getElem? here⟩
    · exact .refl _

/-- The loop over a gap. -/
def gapLoop (chars : List Char) : Loop Nat :=
  ⟨gapTurn chars, id, chars.length, progress_gapTurn chars⟩

/-- Where the gap at the cursor ends. -/
def gapEnd (chars : List Char) (cursor : Nat) : Nat :=
  (gapLoop chars).run cursor

theorem onward_gapEnd (chars : List Char) (cursor : Nat) :
    Onward chars.length cursor (gapEnd chars cursor) :=
  (gapLoop chars).onward cursor

/-- A turn takes a part of the gap away, or stops where the gap ends. -/
theorem skipGap_gapTurn (chars : List Char) (cursor : Nat) :
    (gapTurn chars cursor).Meets
      (fun later => skipGap (chars.drop cursor) = skipGap (chars.drop later))
      fun last => skipGap (chars.drop cursor) = chars.drop last := by
  unfold gapTurn
  split
  · rename_i beyond
    rw [drop_of_getElem?_none beyond]
    exact (drop_of_getElem?_none beyond).symm
  · rename_i character here
    rw [drop_of_getElem? here]
    split_ifs with escaped separated
    · obtain ⟨rfl, next⟩ := escaped
      obtain ⟨separator, behind, separated⟩ := (Option.any_eq_true _ _).1 next
      rw [drop_of_getElem? behind, skipGap, if_pos separated]
      rfl
    · exact skipGap_separator separated _
    · show skipGap _ = chars.drop cursor
      rw [drop_of_getElem? here]
      by_cases backslash : character = '\x5c'
      · subst backslash
        cases behind : chars[cursor + 1]? with
        | none =>
          rw [drop_of_getElem?_none behind]
          rfl
        | some next =>
          have inside : isSeparator next ≠ true := fun separated =>
            escaped ⟨rfl, behind ▸ separated⟩
          rw [drop_of_getElem? behind, skipGap, if_neg inside]
      · exact skipGap_inside (Bool.eq_false_iff.2 separated) backslash _

theorem drop_gapEnd (chars : List Char) (cursor : Nat) :
    chars.drop (gapEnd chars cursor) = skipGap (chars.drop cursor) := by
  obtain ⟨_, -, halts⟩ := (gapLoop chars).exists_halts cursor
  exact (halts.eq_of_meets (skipGap_gapTurn chars)).symm

/-! ### Words -/

/-- How far a word was read: the cursor, where the next character stands, and the text so far. -/
structure WordState where
  cursor : Nat
  place : Quoting
  text : List Char

/-- Go on behind so many characters, which stand for the given text. -/
def WordState.move (state : WordState) (width : Nat) (place : Quoting) (added : List Char) :
    WordState :=
  ⟨state.cursor + width, place, state.text ++ added⟩

/-- One turn over a word: over a character, or over a line break behind a backslash. -/
def wordTurn (mark : Option Char) (chars : List Char) (state : WordState) : Turn WordState :=
  match chars[state.cursor]? with
  | none => .stop state
  | some character =>
    match state.place with
    | .plain =>
      if isSeparator character then .stop state
      else if mark = some character then .stop (state.move 1 .plain [])
      else if character = '\x27' then .goOn (state.move 1 .single [])
      else if character = '\x22' then .goOn (state.move 1 .double [])
      else if character = '\x5c' then .goOn (state.move 1 (.escaped false) [])
      else if character = '$' ∧ opensQuote mark (chars.drop (state.cursor + 1)) then
        .goOn (state.move 1 .opening [])
      else .goOn (state.move 1 .plain [character])
    | .opening => .goOn (state.move 1 .dollar [])
    | .single =>
      if character = '\x27' then .goOn (state.move 1 .plain [])
      else .goOn (state.move 1 .single [character])
    | .dollar =>
      if character = '\x27' then .goOn (state.move 1 .plain [])
      else .goOn (state.move 1 .dollar [character])
    | .double =>
      if character = '\x22' then .goOn (state.move 1 .plain [])
      else if character = '\x5c' then .goOn (state.move 1 (.escaped true) [])
      else .goOn (state.move 1 .double [character])
    | .escaped quoted =>
      if character = '\r' ∧ chars[state.cursor + 1]? = some '\n' then
        .goOn (state.move 2 (.around quoted) [])
      else .goOn (state.move 1 (.around quoted) (escapedText quoted character))

theorem progress_wordTurn (mark : Option Char) (chars : List Char) :
    Progress (wordTurn mark chars) WordState.cursor chars.length := by
  refine .of_meets fun state => ?_
  unfold wordTurn
  split
  · exact .refl _
  · rename_i character here
    have inside := lt_length_of_getElem? here
    have one : state.cursor < state.cursor + 1 ∧ state.cursor + 1 ≤ chars.length :=
      ⟨Nat.lt_succ_self _, inside⟩
    split
    · split_ifs
      · exact .refl _
      · exact ⟨Nat.le_succ _, fun _ => inside⟩
      all_goals exact one
    · exact one
    · split_ifs <;> exact one
    · split_ifs <;> exact one
    · split_ifs <;> exact one
    · split_ifs with lineBreak
      · exact ⟨Nat.lt_add_of_pos_right (by decide), lt_length_of_getElem? lineBreak.2⟩
      · exact one

/-- The loop over a word, which ends behind the mark, if one is given. -/
def wordLoop (mark : Option Char) (chars : List Char) : Loop WordState :=
  ⟨wordTurn mark chars, WordState.cursor, chars.length, progress_wordTurn mark chars⟩

/-- A turn reads a part of the word, or stops where the word ends. -/
theorem readWord_wordTurn (mark : Option Char) (chars : List Char) (state : WordState) :
    let found := fun state : WordState =>
      (readWord mark state.place (chars.drop state.cursor)).precede state.text
    (wordTurn mark chars state).Meets (fun later => found state = found later)
      fun last => found state = ⟨last.text, chars.drop last.cursor, last.place.unclosed⟩ := by
  intro found
  have kept {width : Nat} {place : Quoting} {added : List Char}
      (read : readWord mark state.place (chars.drop state.cursor) =
        (readWord mark place (chars.drop (state.cursor + width))).precede added) :
      found state = found (state.move width place added) := by
    show Word.precede _ _ = Word.precede _ _
    rw [read, Word.precede_precede]
    rfl
  have settled {last : WordState} (text : last.text = state.text)
      (read : readWord mark state.place (chars.drop state.cursor) =
        ⟨[], chars.drop last.cursor, last.place.unclosed⟩) :
      found state = ⟨last.text, chars.drop last.cursor, last.place.unclosed⟩ := by
    show Word.precede _ _ = _
    rw [read, text, Word.precede, List.append_nil]
  unfold wordTurn
  split
  · rename_i beyond
    refine settled rfl ?_
    rw [drop_of_getElem?_none beyond, readWord]
  · rename_i character here
    rw [drop_of_getElem? here] at kept settled
    split
    · rename_i place
      rw [place] at kept settled
      split_ifs with separated marked single double escape dollar
      · refine settled rfl ?_
        rw [readWord, if_pos separated, drop_of_getElem? here, place]
        rfl
      · refine settled (List.append_nil _) ?_
        rw [readWord, if_neg separated, if_pos marked]
        rfl
      all_goals
        refine kept ?_
        rw [readWord, if_neg separated, if_neg marked]
      · rw [if_pos single]; rfl
      · rw [if_neg single, if_pos double]; rfl
      · rw [if_neg single, if_neg double, if_pos escape]; rfl
      · rw [if_neg single, if_neg double, if_neg escape, if_pos dollar]; rfl
      · rw [if_neg single, if_neg double, if_neg escape, if_neg dollar]
    · rename_i place
      rw [place] at kept
      exact kept rfl
    · rename_i place
      rw [place] at kept
      split_ifs with closing
      · exact kept (if_pos closing)
      · exact kept (if_neg closing)
    · rename_i place
      rw [place] at kept
      split_ifs with closing
      · exact kept (if_pos closing)
      · exact kept (if_neg closing)
    · rename_i place
      rw [place] at kept
      split_ifs with closing escape
      · exact kept (if_pos closing)
      · exact kept ((if_neg closing).trans (if_pos escape))
      · exact kept ((if_neg closing).trans (if_neg escape))
    · rename_i quoted place
      rw [place] at kept
      have joins : (chars.drop (state.cursor + 1)).head? = chars[state.cursor + 1]? :=
        List.head?_drop
      split_ifs with lineBreak
      · refine kept ?_
        obtain ⟨rfl, lineFeed⟩ := lineBreak
        rw [readWord, if_pos ⟨rfl, joins.trans lineFeed⟩, drop_of_getElem? lineFeed]
        rfl
      · refine kept ?_
        rw [readWord, joins, if_neg lineBreak]

/-- What the loop over a word finds is the word. -/
theorem readWord_wordLoop (mark : Option Char) (chars : List Char) (cursor : Nat) :
    let last := (wordLoop mark chars).run ⟨cursor, .plain, []⟩
    readWord mark .plain (chars.drop cursor) =
      ⟨last.text, chars.drop last.cursor, last.place.unclosed⟩ := by
  obtain ⟨_, -, halts⟩ := (wordLoop mark chars).exists_halts ⟨cursor, .plain, []⟩
  exact halts.eq_of_meets (readWord_wordTurn mark chars)

/-! ### Values -/

/-- How far a command was read: the cursor, the parts so far, and the first construct that the end
of the text left open. -/
structure Scan where
  cursor : Nat
  parts : List Part
  unclosed : Option Unclosed

namespace Scan

/-- Put the cursor somewhere else. -/
def moveTo (scan : Scan) (cursor : Nat) : Scan :=
  { scan with cursor := cursor }

/-- Put a part behind the others. -/
def add (scan : Scan) (part : Part) : Scan :=
  { scan with parts := scan.parts ++ [part] }

/-- The text of the word at the cursor, and the scan behind it. -/
def word (mark : Option Char) (chars : List Char) (scan : Scan) : List Char × Scan :=
  let last := (wordLoop mark chars).run ⟨scan.cursor, .plain, []⟩
  (last.text, ⟨last.cursor, scan.parts,
    scan.unclosed.or (last.place.unclosed.map fun construct => ⟨construct, scan.cursor⟩)⟩)

/-- Read the next word, behind a gap if there is one, as a part of the command. -/
def nextWord (chars : List Char) (part : String → Part) (scan : Scan) : Scan :=
  let read := (scan.moveTo (gapEnd chars scan.cursor)).word none chars
  read.2.add (part (String.ofList read.1))

/-- What was found so far, in front of the text that is left. -/
def found (chars : List Char) (scan : Scan) : Step :=
  ⟨scan.parts, chars.drop scan.cursor, scan.unclosed⟩

/-- What was found so far and in a step behind it. -/
def andThen (scan : Scan) (step : Step) : Step :=
  ⟨scan.parts ++ step.parts, step.rest, scan.unclosed.or step.unclosed⟩

theorem onward_word (mark : Option Char) (chars : List Char) (scan : Scan) :
    Onward chars.length scan.cursor (scan.word mark chars).2.cursor :=
  (wordLoop mark chars).onward ⟨scan.cursor, .plain, []⟩

theorem onward_nextWord (chars : List Char) (part : String → Part) (scan : Scan) :
    Onward chars.length scan.cursor (scan.nextWord chars part).cursor :=
  (onward_gapEnd chars scan.cursor).trans
    (onward_word none chars (scan.moveTo (gapEnd chars scan.cursor)))

/-- The place of the cursor is the difference of two lengths. -/
theorem length_sub_length_drop {cursor : Nat} (inside : cursor ≤ chars.length) :
    chars.length - (chars.drop cursor).length = cursor := by
  rw [List.length_drop]
  omega

/-- The word at the cursor is the word that the text behind the cursor starts with. -/
theorem word_eq (mark : Option Char) (scan : Scan) (inside : scan.cursor ≤ chars.length) :
    let word := readWord mark .plain (chars.drop scan.cursor)
    (scan.word mark chars).1 = word.text ∧
      (scan.word mark chars).2.found chars = scan.andThen ⟨[], word.rest,
        word.report (chars.length - (chars.drop scan.cursor).length)⟩ := by
  intro word
  have read : word = _ := readWord_wordLoop mark chars scan.cursor
  rw [length_sub_length_drop inside, read, andThen, List.append_nil]
  exact ⟨rfl, rfl⟩

theorem found_add (scan : Scan) (part : Part) :
    (scan.add part).found chars =
      { scan.found chars with parts := (scan.found chars).parts ++ [part] } := rfl

theorem found_nextWord (part : String → Part) (scan : Scan) (inside : scan.cursor ≤ chars.length) :
    let start := skipGap (chars.drop scan.cursor)
    let word := readWord none .plain start
    (scan.nextWord chars part).found chars = scan.andThen
      ⟨[part (String.ofList word.text)], word.rest, word.report (chars.length - start.length)⟩ := by
  have start := (onward_gapEnd chars scan.cursor).inside inside
  obtain ⟨text, found⟩ := word_eq none (scan.moveTo (gapEnd chars scan.cursor)) start
  rw [show (scan.moveTo (gapEnd chars scan.cursor)).cursor = gapEnd chars scan.cursor from rfl,
    drop_gapEnd] at text found
  rw [nextWord, found_add, found, text]
  simp [andThen, moveTo]

end Scan

/-! ### Options -/

/-- One turn over a cluster of options: over a letter, and over its value if it takes one. -/
def clusterTurn (isSwitch : String → Bool) (chars : List Char) (scan : Scan) : Turn Scan :=
  match chars[scan.cursor]? with
  | none => .stop scan
  | some letter =>
    if isSeparator letter then .stop scan
    else
      let name := String.singleton letter
      let behind := scan.moveTo (scan.cursor + 1)
      if isSwitch name then .goOn (behind.add (.switch name))
      else .stop (behind.nextWord chars (.value name))

theorem progress_clusterTurn (isSwitch : String → Bool) (chars : List Char) :
    Progress (clusterTurn isSwitch chars) Scan.cursor chars.length := by
  refine .of_meets fun scan => ?_
  unfold clusterTurn
  split
  · exact .refl _
  · rename_i letter here
    have inside := lt_length_of_getElem? here
    dsimp only
    split_ifs
    · exact .refl _
    · exact ⟨Nat.lt_succ_self _, inside⟩
    · have once : Onward chars.length scan.cursor (scan.cursor + 1) :=
        ⟨Nat.le_succ _, fun _ => inside⟩
      exact once.trans (Scan.onward_nextWord chars _ (scan.moveTo (scan.cursor + 1)))

/-- The loop over a cluster of options, from behind its dash. -/
def clusterLoop (isSwitch : String → Bool) (chars : List Char) : Loop Scan :=
  ⟨clusterTurn isSwitch chars, Scan.cursor, chars.length, progress_clusterTurn isSwitch chars⟩

/-- A turn reads an option of the cluster, or stops where the cluster ends. -/
theorem readCluster_clusterTurn (isSwitch : String → Bool) (chars : List Char) (scan : Scan) :
    let found := fun scan : Scan =>
      scan.andThen (readCluster isSwitch chars.length (chars.drop scan.cursor))
    (clusterTurn isSwitch chars scan).Meets (fun later => found scan = found later)
      fun last => found scan = last.found chars := by
  intro found
  unfold clusterTurn
  split
  · rename_i beyond
    show Scan.andThen _ _ = _
    rw [drop_of_getElem?_none beyond, readCluster, Scan.found, drop_of_getElem?_none beyond]
    simp [Scan.andThen]
  · rename_i letter here
    have inside := lt_length_of_getElem? here
    dsimp only [found]
    rw [drop_of_getElem? here, readCluster]
    split_ifs with separated switch
    · show _ = Scan.found chars scan
      rw [Scan.found, drop_of_getElem? here]
      simp [Scan.andThen]
    · show _ = Scan.andThen _ _
      simp [Scan.andThen, Scan.add, Scan.moveTo]
    · exact (Scan.found_nextWord (.value (String.singleton letter))
        (scan.moveTo (scan.cursor + 1)) inside).symm

theorem found_clusterLoop (isSwitch : String → Bool) (chars : List Char) (scan : Scan) :
    ((clusterLoop isSwitch chars).run scan).found chars =
      scan.andThen (readCluster isSwitch chars.length (chars.drop scan.cursor)) := by
  obtain ⟨_, -, halts⟩ := (clusterLoop isSwitch chars).exists_halts scan
  exact (halts.eq_of_meets (readCluster_clusterTurn isSwitch chars)).symm

/-- Where an option goes on behind its first dash, or behind both of its dashes. -/
def afterDashes (chars : List Char) (start : Nat) : Nat :=
  if chars[start + 1]? = some '-' then start + 2 else start + 1

/-- The cursor moves over one dash or two, and stays within the text. -/
theorem afterDashes_le {start : Nat} (dash : chars[start]? = some '-') :
    start < afterDashes chars start ∧ afterDashes chars start ≤ chars.length := by
  unfold afterDashes
  split_ifs with second
  · exact ⟨Nat.lt_add_of_pos_right (by decide), lt_length_of_getElem? second⟩
  · exact ⟨Nat.lt_succ_self _, lt_length_of_getElem? dash⟩

namespace Scan

/-- Read a long option from behind its two dashes. -/
def longOption (isSwitch : String → Bool) (chars : List Char) (scan : Scan) : Scan :=
  let read := scan.word (some '=') chars
  let name := String.ofList read.1
  if read.1.isEmpty then read.2
  else if isSwitch name then read.2.add (.switch name)
  else read.2.nextWord chars (.value name)

theorem onward_longOption (isSwitch : String → Bool) (chars : List Char) (scan : Scan) :
    Onward chars.length scan.cursor (scan.longOption isSwitch chars).cursor := by
  have name := onward_word (some '=') chars scan
  unfold longOption
  dsimp only
  split_ifs
  · exact name
  · exact name
  · exact name.trans (onward_nextWord chars _ _)

/-- What a second step finds behind a first one. -/
theorem andThen_of_found {scan later : Scan} {first : Step}
    (found : later.found chars = scan.andThen first) (second : Step) :
    later.andThen second = scan.andThen
      ⟨first.parts ++ second.parts, second.rest, first.unclosed.or second.unclosed⟩ := by
  have parts : later.parts = scan.parts ++ first.parts := congrArg Step.parts found
  have unclosed : later.unclosed = scan.unclosed.or first.unclosed := congrArg Step.unclosed found
  rw [andThen, andThen, parts, unclosed, List.append_assoc, Option.or_assoc]

theorem found_longOption (isSwitch : String → Bool) (scan : Scan)
    (inside : scan.cursor ≤ chars.length) :
    (scan.longOption isSwitch chars).found chars =
      scan.andThen (readLong isSwitch chars.length (chars.drop scan.cursor)) := by
  obtain ⟨text, found⟩ := word_eq (some '=') scan inside
  have within := (onward_word (some '=') chars scan).inside inside
  have rest : chars.drop (scan.word (some '=') chars).2.cursor =
      (readWord (some '=') .plain (chars.drop scan.cursor)).rest :=
    congrArg Step.rest found
  unfold longOption readLong
  dsimp only
  rw [text]
  split_ifs
  · exact found
  · rw [found_add, found]
    simp [andThen]
  · rw [found_nextWord _ _ within, rest, andThen_of_found found]
    rfl

/-- Read the option at the cursor, which is on its first dash. -/
def option (isSwitch : String → Bool) (chars : List Char) (scan : Scan) : Scan :=
  let behind := scan.moveTo (afterDashes chars scan.cursor)
  if chars[scan.cursor + 1]? = some '-' then behind.longOption isSwitch chars
  else (clusterLoop isSwitch chars).run behind

theorem onward_option (isSwitch : String → Bool) (chars : List Char) (scan : Scan) :
    Onward chars.length (afterDashes chars scan.cursor) (scan.option isSwitch chars).cursor := by
  unfold option
  dsimp only
  split_ifs
  · exact onward_longOption isSwitch chars (scan.moveTo (afterDashes chars scan.cursor))
  · exact (clusterLoop isSwitch chars).onward (scan.moveTo (afterDashes chars scan.cursor))

theorem found_option (isSwitch : String → Bool) {scan : Scan}
    (dash : chars[scan.cursor]? = some '-') :
    (scan.option isSwitch chars).found chars =
      scan.andThen (readStep isSwitch chars.length (chars.drop scan.cursor)) := by
  have within := (afterDashes_le dash).2
  unfold option
  dsimp only
  rw [drop_of_getElem? dash]
  split_ifs with second
  · rw [found_longOption isSwitch (scan.moveTo (afterDashes chars scan.cursor)) within,
      drop_of_getElem? second]
    show andThen _ (readLong _ _ (chars.drop (afterDashes chars scan.cursor))) = _
    rw [afterDashes, if_pos second]
    rfl
  · have single : (chars.drop (scan.cursor + 1)).head? ≠ some '-' := by
      rwa [List.head?_drop]
    rw [found_clusterLoop, readStep_cluster single]
    show andThen _ (readCluster _ _ (chars.drop (afterDashes chars scan.cursor))) = _
    rw [afterDashes, if_neg second]
    rfl

/-- Read what stands at the cursor: an option or a word. -/
def step (isSwitch : String → Bool) (chars : List Char) (scan : Scan) : Scan :=
  if chars[scan.cursor]? = some '-' then scan.option isSwitch chars
  else scan.nextWord chars .word

theorem found_step (isSwitch : String → Bool) {scan : Scan} {character : Char}
    (here : chars[scan.cursor]? = some character)
    (noGap : skipGap (chars.drop scan.cursor) = chars.drop scan.cursor) :
    (scan.step isSwitch chars).found chars =
      scan.andThen (readStep isSwitch chars.length (chars.drop scan.cursor)) := by
  unfold step
  split_ifs with dash
  · exact found_option isSwitch dash
  · have word : character ≠ '-' := fun same => dash (same ▸ here)
    have inside := Nat.le_of_lt (lt_length_of_getElem? here)
    rw [found_nextWord .word scan inside, noGap, drop_of_getElem? here, readStep_word word]

/-- A step moves the cursor forward. -/
theorem lt_step (isSwitch : String → Bool) {scan : Scan} {character : Char}
    (here : chars[scan.cursor]? = some character)
    (noGap : skipGap (chars.drop scan.cursor) = chars.drop scan.cursor) :
    scan.cursor < (scan.step isSwitch chars).cursor ∧
      (scan.step isSwitch chars).cursor ≤ chars.length := by
  have inside := lt_length_of_getElem? here
  have rest : chars.drop (scan.step isSwitch chars).cursor =
      (readStep isSwitch chars.length (chars.drop scan.cursor)).rest :=
    congrArg Step.rest (found_step isSwitch here noGap)
  have text := drop_of_getElem? here
  have shorter := readStep_rest_length_lt isSwitch chars.length character
    (chars.drop (scan.cursor + 1)) (isSeparator_of_skipGap (text ▸ noGap))
  constructor
  · rw [← text, ← rest, List.length_drop, List.length_drop] at shorter
    omega
  · unfold step
    split_ifs with dash
    · exact (onward_option isSwitch chars scan).inside (afterDashes_le dash).2
    · exact (onward_nextWord chars .word scan).inside (Nat.le_of_lt inside)

end Scan

/-! ### The whole text -/

/-- One turn over the text: over a gap, and over the option or the word behind it. -/
def runTurn (isSwitch : String → Bool) (chars : List Char) (scan : Scan) : Turn Scan :=
  let start := scan.moveTo (gapEnd chars scan.cursor)
  match chars[start.cursor]? with
  | none => .stop start
  | some _ => .goOn (start.step isSwitch chars)

/-- No gap stands where a gap ends. -/
theorem skipGap_drop_gapEnd (chars : List Char) (cursor : Nat) :
    skipGap (chars.drop (gapEnd chars cursor)) = chars.drop (gapEnd chars cursor) := by
  rw [drop_gapEnd, skipGap_skipGap]

/-- A turn that goes on moves the cursor beyond the end of the gap. -/
theorem runTurn_meets (isSwitch : String → Bool) (chars : List Char) (scan : Scan) :
    (runTurn isSwitch chars scan).Meets
      (fun later => gapEnd chars scan.cursor < later.cursor ∧ later.cursor ≤ chars.length)
      fun last => last.cursor = gapEnd chars scan.cursor ∧ chars.length ≤ last.cursor := by
  unfold runTurn
  dsimp only
  split
  · rename_i beyond
    exact ⟨rfl, List.getElem?_eq_none_iff.1 beyond⟩
  · rename_i character here
    exact Scan.lt_step isSwitch here (skipGap_drop_gapEnd chars scan.cursor)

theorem progress_runTurn (isSwitch : String → Bool) (chars : List Char) :
    Progress (runTurn isSwitch chars) Scan.cursor chars.length := by
  refine .of_meets fun scan => ?_
  have gap := onward_gapEnd chars scan.cursor
  have meets := runTurn_meets isSwitch chars scan
  cases turn : runTurn isSwitch chars scan with
  | goOn later =>
    rw [turn] at meets
    exact ⟨Nat.lt_of_le_of_lt gap.notBack meets.1, meets.2⟩
  | stop last =>
    rw [turn] at meets
    show Onward chars.length scan.cursor last.cursor
    rw [meets.1]
    exact gap

/-- The loop over the whole text. -/
def runLoop (isSwitch : String → Bool) (chars : List Char) : Loop Scan :=
  ⟨runTurn isSwitch chars, Scan.cursor, chars.length, progress_runTurn isSwitch chars⟩

/-- A turn reads a step, or stops where nothing is left to be read. -/
theorem readParts_runTurn (isSwitch : String → Bool) (chars : List Char) (scan : Scan) :
    let found := fun scan : Scan =>
      let later := readParts isSwitch chars.length (chars.drop scan.cursor)
      (scan.parts ++ later.1, scan.unclosed.or later.2)
    (runTurn isSwitch chars scan).Meets (fun later => found scan = found later)
      fun last => found scan = (last.parts, last.unclosed) := by
  intro found
  have gap := drop_gapEnd chars scan.cursor
  unfold runTurn
  dsimp only [found]
  split
  · rename_i beyond
    rw [readParts_of_nil (gap.symm.trans (drop_of_getElem?_none beyond)), List.append_nil,
      Option.or_none]
    rfl
  · rename_i character here
    let start := scan.moveTo (gapEnd chars scan.cursor)
    have text := drop_of_getElem? here
    have next : (start.step isSwitch chars).found chars =
        start.andThen (readStep isSwitch chars.length (chars.drop (gapEnd chars scan.cursor))) :=
      Scan.found_step isSwitch here (skipGap_drop_gapEnd chars scan.cursor)
    have parts : (start.step isSwitch chars).parts = _ := congrArg Step.parts next
    have rest : chars.drop (start.step isSwitch chars).cursor = _ := congrArg Step.rest next
    have unclosed : (start.step isSwitch chars).unclosed = _ := congrArg Step.unclosed next
    show _ = ((start.step isSwitch chars).parts ++ _, (start.step isSwitch chars).unclosed.or _)
    rw [readParts_of_cons (gap.symm.trans text), ← text, parts, rest, unclosed]
    simp only [Scan.andThen, List.append_assoc, Option.or_assoc]
    rfl

/-- The scan of a text before anything was read. -/
def Scan.start : Scan :=
  ⟨0, [], none⟩

/-- The command that was read. -/
def Scan.command (scan : Scan) : Command :=
  Command.ofParts scan.parts scan.unclosed

/-- Reading a text with the cursor comes to an end, and finds what reading it from its front finds.
Each turn of each loop that goes on moves the cursor forward and keeps it within the text, and so
does each single step over one dash or two; no turn moves it back or out of the text. A turn over
the text moves it beyond the gap in front, or else stops with the cursor at the end, and there are
at most as many turns as there are characters, and one more. -/
theorem cursor_reaches_end (isSwitch : String → Bool) (chars : List Char) :
    Progress (gapTurn chars) id chars.length ∧
    (∀ mark, Progress (wordTurn mark chars) WordState.cursor chars.length) ∧
    Progress (clusterTurn isSwitch chars) Scan.cursor chars.length ∧
    Progress (runTurn isSwitch chars) Scan.cursor chars.length ∧
    (∀ start, chars[start]? = some '-' →
      start < afterDashes chars start ∧ afterDashes chars start ≤ chars.length) ∧
    (∀ scan later, runTurn isSwitch chars scan = .goOn later →
      gapEnd chars scan.cursor < later.cursor ∧ later.cursor ≤ chars.length) ∧
    (∀ scan last, scan.cursor ≤ chars.length → runTurn isSwitch chars scan = .stop last →
      last.cursor = chars.length) ∧
    ∃ count last, Halts (runTurn isSwitch chars) .start count last ∧ count ≤ chars.length + 1 ∧
      last.cursor = chars.length ∧ last.command = Command.scan isSwitch chars := by
  have goesOn (scan later : Scan) (goes : runTurn isSwitch chars scan = .goOn later) :
      gapEnd chars scan.cursor < later.cursor ∧ later.cursor ≤ chars.length := by
    have meets := runTurn_meets isSwitch chars scan
    rwa [goes] at meets
  have ending {scan last : Scan} (ends : runTurn isSwitch chars scan = .stop last) :
      chars.length ≤ last.cursor := by
    have meets := runTurn_meets isSwitch chars scan
    rw [ends] at meets
    exact meets.2
  have progress := progress_runTurn isSwitch chars
  refine ⟨progress_gapTurn chars, fun mark => progress_wordTurn mark chars,
    progress_clusterTurn isSwitch chars, progress, fun start dash => afterDashes_le dash, goesOn,
    fun scan last inside ends =>
      Nat.le_antisymm ((progress.settles ends).inside inside) (ending ends), ?_⟩
  obtain ⟨count, bound, halts⟩ := (runLoop isSwitch chars).exists_halts .start
  have within := (progress.onward halts).inside (Nat.zero_le _)
  have found := halts.eq_of_meets (readParts_runTurn isSwitch chars)
  refine ⟨count, _, halts, bound, Nat.le_antisymm within (halts.last_of_stop ending), ?_⟩
  exact congrArg (fun found => Command.ofParts found.1 found.2) found.symm

end Cursor

end CurlScribe
