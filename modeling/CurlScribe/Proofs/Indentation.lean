/-
This file proves that indenting code touches no literal and no comment. A fragment of code is a
sequence of pieces: literals, comments, and single characters of other code. Indentation reads the
fragment line by line and carries over from one line to the next only whether a raw literal is
open. That is enough: an interpreted literal and a comment end on their line, whatever backquotes
or slashes they hold, and a quote or two slashes in a raw literal start nothing. So a line gets a
tab exactly if it is not empty and starts in no raw literal, and every literal and every comment
stands in the result as it stood in the fragment.
-/

import CurlScribe.Go.Program
import Mathlib.Data.List.Basic
import Mathlib.Data.List.Chain
import Mathlib.Tactic.SplitIfs

namespace CurlScribe.Go

open Text

/-! ### Pieces of code -/

/-- A piece of code. A comment takes the end of its line along. -/
inductive Piece where
  | other (character : Char)
  | interpreted (content : List Char)
  | raw (content : List Char)
  | comment (note : List Char)
  deriving DecidableEq, Repr

/-- The characters can stand between two quotes on one line: a backslash takes the character behind
it along, and no quote stands alone. -/
inductive IsClosed : List Char → Prop
  | nil : IsClosed []
  | ordinary {character : Char} {rest : List Char} (quote : character ≠ '\x22')
      (backslash : character ≠ '\x5c') (line : character ≠ '\n') (closed : IsClosed rest) :
      IsClosed (character :: rest)
  | escaped {character : Char} {rest : List Char} (line : character ≠ '\n')
      (closed : IsClosed rest) : IsClosed ('\x5c' :: character :: rest)

namespace Piece

/-- A piece as it is written. -/
def written : Piece → List Char
  | .other character => [character]
  | .interpreted content => '\x22' :: (content ++ ['\x22'])
  | .raw content => '\x60' :: (content ++ ['\x60'])
  | .comment note => '/' :: '/' :: (note ++ ['\n'])

/-- The piece is complete: it ends where it is said to end. -/
def Fits : Piece → Prop
  | .other character => character ≠ '\x22' ∧ character ≠ '\x60'
  | .interpreted content => IsClosed content
  | .raw content => '\x60' ∉ content
  | .comment note => '\n' ∉ note

/-- The piece is a literal or a comment. -/
def isLexeme : Piece → Bool
  | .other _ => false
  | .interpreted _ | .raw _ | .comment _ => true

/-- Two slashes of other code stand side by side. -/
def StartComment (first second : Piece) : Prop :=
  first = .other '/' ∧ second = .other '/'

end Piece

/-- Pieces as they are written one after another. -/
def textOf (pieces : List Piece) : List Char :=
  pieces.flatMap Piece.written

/-- The pieces are complete, and no comment starts in other code. -/
structure Complete (pieces : List Piece) : Prop where
  fit : ∀ piece ∈ pieces, piece.Fits
  apart : pieces.IsChain fun first second => ¬ first.StartComment second

/-! ### Lines -/

/-- Lines as a text, each with its line feed. -/
def joinLines (lines : List (List Char)) : List Char :=
  lines.flatMap (· ++ ['\n'])

/-- Behind the text a raw literal of the pieces is open. -/
def InRaw (pieces : List Piece) (before : List Char) : Prop :=
  ∃ earlier front back later, pieces = earlier ++ .raw (front ++ back) :: later ∧
    before = textOf earlier ++ '\x60' :: front

/-- The line behind a text takes a tab: it is not empty, and it starts in no raw literal. -/
def TakesTab (pieces : List Piece) (before line : List Char) : Prop :=
  line ≠ [] ∧ ¬ InRaw pieces before

/-- The lines, each with the text before it. -/
def withStarts (before : List Char) : List (List Char) → List (List Char × List Char)
  | [] => []
  | line :: rest => (before, line) :: withStarts (before ++ line ++ ['\n']) rest

/-- A line with a tab, if it is marked. -/
def putTab (marked : Bool) (line : List Char) : List Char :=
  if marked then '\t' :: line else line

/-- A line without its tab, if it is marked. -/
def takeTab (marked : Bool) (line : List Char) : List Char :=
  if marked then line.tail else line

@[simp] theorem textOf_nil : textOf [] = [] := rfl

@[simp] theorem textOf_cons (piece : Piece) (later : List Piece) :
    textOf (piece :: later) = piece.written ++ textOf later := rfl

@[simp] theorem textOf_append (first second : List Piece) :
    textOf (first ++ second) = textOf first ++ textOf second :=
  List.flatMap_append

@[simp] theorem joinLines_nil : joinLines [] = [] := rfl

@[simp] theorem joinLines_cons (line : List Char) (rest : List (List Char)) :
    joinLines (line :: rest) = line ++ '\n' :: joinLines rest := by
  simp [joinLines]

/-! ### What a line ends in -/

theorem lexemeAfter_comment (text : List Char) : lexemeAfter .comment text = .comment := by
  induction text with
  | nil => rfl
  | cons character rest inductionHypothesis => exact inductionHypothesis

theorem lexemeAfter_other {character : Char} (quote : character ≠ '\x22')
    (backquote : character ≠ '\x60') {rest : List Char}
    (apart : ¬ (character = '/' ∧ rest.head? = some '/')) :
    lexemeAfter .code (character :: rest) = lexemeAfter .code rest := by
  rw [lexemeAfter, if_neg quote, if_neg backquote, if_neg apart]

theorem lexemeAfter_slashes (rest : List Char) :
    lexemeAfter .code ('/' :: '/' :: rest) = .comment := by
  rw [lexemeAfter, if_neg (by decide), if_neg (by decide), if_pos ⟨rfl, rfl⟩]
  exact lexemeAfter_comment _

/-- An interpreted literal is left behind with the quote that closes it. -/
theorem lexemeAfter_closed {content : List Char} (closed : IsClosed content) (rest : List Char) :
    lexemeAfter .interpreted (content ++ '\x22' :: rest) = lexemeAfter .code rest := by
  induction closed with
  | nil => rfl
  | ordinary quote backslash line closed inductionHypothesis =>
    rw [List.cons_append, lexemeAfter, if_neg quote, inductionHypothesis]
    rintro next later rfl
    exact absurd rfl backslash
  | escaped line closed inductionHypothesis => exact inductionHypothesis

/-- A raw literal is left behind with the backquote that closes it, and not before. -/
theorem lexemeAfter_raw {content : List Char} (closed : '\x60' ∉ content) (rest : List Char) :
    lexemeAfter .raw (content ++ rest) = lexemeAfter .raw rest := by
  induction content with
  | nil => rfl
  | cons character later inductionHypothesis =>
    obtain ⟨other, closedLater⟩ := List.ne_and_not_mem_of_not_mem_cons closed
    rw [List.cons_append, lexemeAfter, if_neg (Ne.symm other), inductionHypothesis closedLater]

theorem lineFeed_not_mem_of_closed {content : List Char} (closed : IsClosed content) :
    '\n' ∉ content := by
  induction closed with
  | nil => exact List.not_mem_nil
  | ordinary quote backslash line closed inductionHypothesis =>
    exact List.not_mem_cons_of_ne_of_not_mem (Ne.symm line) inductionHypothesis
  | escaped line closed inductionHypothesis =>
    exact List.not_mem_cons_of_ne_of_not_mem (by decide)
      (List.not_mem_cons_of_ne_of_not_mem (Ne.symm line) inductionHypothesis)

/-! ### Line ends -/

/-- A text is cut at its first line feed in one way. -/
theorem eq_of_lines {first second firstRest secondRest : List Char} (short : '\n' ∉ first)
    (shortOther : '\n' ∉ second)
    (same : first ++ '\n' :: firstRest = second ++ '\n' :: secondRest) :
    first = second ∧ firstRest = secondRest := by
  have cut := splitFirst_append short firstRest
  rw [same, splitFirst_append shortOther] at cut
  obtain ⟨rfl, rfl⟩ := Prod.mk.inj (Option.some.inj cut)
  exact ⟨rfl, rfl⟩

/-- A text without a line feed is the start of the first line. -/
theorem exists_line_behind {front text line rest : List Char} (short : '\n' ∉ front)
    (whole : front ++ text = line ++ '\n' :: rest) :
    ∃ behind, line = front ++ behind ∧ text = behind ++ '\n' :: rest := by
  rcases List.append_eq_append_iff.1 whole with ⟨behind, rfl, same⟩ | ⟨inside, rfl, same⟩
  · exact ⟨behind, rfl, same⟩
  · cases inside with
    | nil => exact ⟨[], by simp, same.symm⟩
    | cons first later =>
      obtain rfl := (List.cons.inj same).1
      exact absurd (List.mem_append_right _ List.mem_cons_self) short

/-! ### Places -/

/-- A place in pieces with what stands behind it: between two pieces, or in a raw literal. -/
inductive Place where
  | between (later : List Piece)
  | inside (back : List Char) (later : List Piece)

namespace Place

/-- The text behind a place. -/
def text : Place → List Char
  | .between later => textOf later
  | .inside back later => back ++ '\x60' :: textOf later

/-- What the place is part of. -/
def state : Place → Lexeme
  | .between _ => .code
  | .inside _ _ => .raw

/-- The pieces that start behind a place. -/
def later : Place → List Piece
  | .between later | .inside _ later => later

end Place

/-- A text in front of which pieces start ends at a place. -/
inductive Passes : List Piece → List Char → Place → Prop
  | between (passed later : List Piece) :
      Passes (passed ++ later) (textOf passed) (.between later)
  | inside (passed : List Piece) (front back : List Char) (later : List Piece) :
      Passes (passed ++ .raw (front ++ back) :: later) (textOf passed ++ '\x60' :: front)
        (.inside back later)

/-- A text behind a place leads to another place. -/
inductive Leads : Place → List Char → Place → Prop
  | between {later : List Piece} {text : List Char} {next : Place}
      (passes : Passes later text next) : Leads (.between later) text next
  | inside (front back : List Char) (later : List Piece) :
      Leads (.inside (front ++ back) later) front (.inside back later)
  | closing (back : List Char) {later : List Piece} {text : List Char} {next : Place}
      (passes : Passes later text next) :
      Leads (.inside back later) (back ++ '\x60' :: text) next

theorem Complete.cons {piece : Piece} {later : List Piece} (complete : Complete (piece :: later)) :
    piece.Fits ∧ Complete later := by
  obtain ⟨fits, fit⟩ := List.forall_mem_cons.1 complete.fit
  exact ⟨fits, fit, complete.apart.tail⟩

theorem Complete.of_append {passed later : List Piece} (complete : Complete (passed ++ later)) :
    Complete later :=
  ⟨fun piece member => complete.fit piece (List.mem_append_right _ member),
    complete.apart.right_of_append⟩

namespace Passes

variable {pieces later : List Piece} {before text : List Char} {place next : Place}

theorem append (passes : Passes later text next) (passed : List Piece) :
    Passes (passed ++ later) (textOf passed ++ text) next := by
  cases passes with
  | between inner later =>
    rw [← List.append_assoc, ← textOf_append]
    exact .between _ _
  | inside inner front back later =>
    rw [← List.append_assoc, ← List.append_assoc, ← textOf_append]
    exact .inside _ _ _ _

/-- A text that leads on from the place where another ends continues it. -/
theorem trans (passes : Passes pieces before place) (leads : Leads place text next) :
    Passes pieces (before ++ text) next := by
  cases passes with
  | between passed later =>
    cases leads with
    | between further => exact further.append passed
  | inside passed front back later =>
    cases leads with
    | inside _ back later =>
      have further := Passes.inside passed (front ++ text) back later
      simpa using further
    | closing back further =>
      have further := further.append (passed ++ [.raw (front ++ back)])
      simpa [Piece.written] using further

theorem complete (passes : Passes pieces before place) (complete : Complete pieces) :
    Complete place.later := by
  cases passes with
  | between passed later => exact complete.of_append
  | inside passed front back later => exact (complete.of_append.cons).2

/-- A raw literal is open behind a text exactly if the text ends at a place in one. -/
theorem inRaw_iff (passes : Passes pieces before place) :
    InRaw pieces before ↔ place.state = .raw := by
  cases passes with
  | inside passed front back later =>
    exact iff_of_true ⟨passed, front, back, later, rfl, rfl⟩ rfl
  | between passed later =>
    refine iff_of_false ?_ nofun
    rintro ⟨earlier, front, back, following, split, same⟩
    -- The literal would have to end in front of the place, or start behind it.
    have lengths := congrArg List.length same
    rcases List.append_eq_append_iff.1 split with ⟨more, rfl, -⟩ | ⟨more, rfl, behind⟩
    · rw [textOf_append, List.length_append, List.length_append, List.length_cons] at lengths
      omega
    · cases more with
      | nil =>
        rw [List.append_nil, List.length_append, List.length_cons] at lengths
        omega
      | cons piece inner =>
        obtain rfl := (List.cons.inj behind).1
        simp only [textOf_append, textOf_cons, Piece.written, List.length_append,
          List.length_cons] at lengths
        omega

end Passes

/-! ### Over a line -/

/-- A slash of other code that stands before a slash stands before a comment. -/
theorem exists_comment {later : List Piece} (complete : Complete (.other '/' :: later))
    (slash : (textOf later).head? = some '/') : ∃ note more, later = .comment note :: more := by
  cases later with
  | nil => cases slash
  | cons piece more =>
    cases piece with
    | other character =>
      obtain rfl : character = '/' := Option.some.inj slash
      exact absurd ⟨rfl, rfl⟩ (List.rel_of_isChain_cons_cons complete.apart)
    | interpreted content => exact absurd (Option.some.inj slash) (by decide)
    | raw content => exact absurd (Option.some.inj slash) (by decide)
    | comment note => exact ⟨note, more, rfl⟩

/-- A comment is the whole of its line. -/
theorem line_of_comment {note line rest : List Char} {more : List Piece} (fits : '\n' ∉ note)
    (short : '\n' ∉ line) (whole : textOf (.comment note :: more) = line ++ '\n' :: rest) :
    line = '/' :: '/' :: note ∧ rest = textOf more := by
  have cut : ('/' :: '/' :: note) ++ '\n' :: textOf more = line ++ '\n' :: rest := by
    simpa [Piece.written] using whole
  have shortComment : '\n' ∉ '/' :: '/' :: note := by
    simpa using fits
  exact (eq_of_lines shortComment short cut).imp Eq.symm Eq.symm

/-- A line that pieces start with ends at a place, with the rest of the text behind it, and the
place is part of what the line ends in. -/
def EndsAtPlace (pieces : List Piece) (line rest : List Char) : Prop :=
  ∃ place, Passes pieces (line ++ ['\n']) place ∧ place.text = rest ∧
    place.state = (lexemeAfter .code line).acrossLine

/-- What stands behind a piece on its line is a line of the later pieces. -/
theorem EndsAtPlace.behind {later : List Piece} {behind rest : List Char}
    (ends : EndsAtPlace later behind rest) {piece : Piece}
    (state : lexemeAfter .code (piece.written ++ behind) = lexemeAfter .code behind) :
    EndsAtPlace (piece :: later) (piece.written ++ behind) rest := by
  obtain ⟨place, passes, text, part⟩ := ends
  refine ⟨place, ?_, text, state ▸ part⟩
  have whole := passes.append [piece]
  simpa using whole

/-- A comment ends its line. -/
theorem endsAtPlace_comment {note line rest : List Char} {more : List Piece} (fits : '\n' ∉ note)
    (short : '\n' ∉ line) (whole : textOf (.comment note :: more) = line ++ '\n' :: rest) :
    EndsAtPlace (.comment note :: more) line rest := by
  obtain ⟨rfl, rfl⟩ := line_of_comment fits short whole
  have passes := Passes.between [.comment note] more
  refine ⟨.between more, by simpa [Piece.written] using passes, rfl, ?_⟩
  rw [lexemeAfter_slashes]
  rfl

/-- A slash of other code before a comment ends its line with the comment. -/
theorem endsAtPlace_slash_comment {note line rest : List Char} {more : List Piece}
    (fits : '\n' ∉ note) (short : '\n' ∉ line)
    (whole : textOf (.comment note :: more) = line ++ '\n' :: rest) :
    EndsAtPlace (.other '/' :: .comment note :: more) ('/' :: line) rest := by
  obtain ⟨place, passes, text, part⟩ := endsAtPlace_comment fits short whole
  obtain ⟨rfl, -⟩ := line_of_comment fits short whole
  refine ⟨place, passes.append [.other '/'], text, ?_⟩
  rw [lexemeAfter_slashes] at part ⊢
  exact part

/-- A line that starts in a raw literal ends in it, or behind it as a line of the later pieces. -/
theorem exists_leads_inside {back line rest : List Char} {later : List Piece}
    (fits : '\x60' ∉ back) (whole : back ++ '\x60' :: textOf later = line ++ '\n' :: rest)
    (short : '\n' ∉ line)
    (further : ∀ behind, textOf later = behind ++ '\n' :: rest → '\n' ∉ behind →
      EndsAtPlace later behind rest) :
    ∃ next, Leads (.inside back later) (line ++ ['\n']) next ∧ next.text = rest ∧
      next.state = (lexemeAfter .raw line).acrossLine := by
  by_cases member : '\n' ∈ back
  · obtain ⟨front, back, rfl, new⟩ := List.eq_append_cons_of_mem member
    have cut : front ++ '\n' :: (back ++ '\x60' :: textOf later) = line ++ '\n' :: rest := by
      simpa using whole
    obtain ⟨rfl, rfl⟩ := eq_of_lines new short cut
    have leads := Leads.inside (front ++ ['\n']) back later
    refine ⟨.inside back later, by simpa using leads, rfl, ?_⟩
    have opened := lexemeAfter_raw (fun closes => fits (List.mem_append_left _ closes)) []
    rw [List.append_nil] at opened
    rw [Place.state, opened]
    rfl
  · have cut : (back ++ ['\x60']) ++ textOf later = line ++ '\n' :: rest := by
      simpa using whole
    obtain ⟨behind, rfl, next⟩ := exists_line_behind (by simpa using member) cut
    obtain ⟨place, passes, text, part⟩ := further behind next fun inLine =>
      short (List.mem_append_right _ inLine)
    refine ⟨place, by simpa using Leads.closing back passes, text, part.trans ?_⟩
    rw [List.append_assoc, List.singleton_append, lexemeAfter_raw fits]
    rfl

/-- A line that starts between two pieces ends at a place. -/
theorem endsAtPlace_of_line {pieces : List Piece} (complete : Complete pieces)
    {line rest : List Char} (whole : textOf pieces = line ++ '\n' :: rest) (short : '\n' ∉ line) :
    EndsAtPlace pieces line rest := by
  induction pieces generalizing line with
  | nil => simp at whole
  | cons piece later inductionHypothesis =>
    obtain ⟨fits, completeLater⟩ := complete.cons
    cases piece with
    | other character =>
      cases line with
      | nil =>
        obtain ⟨rfl, behind⟩ : character = '\n' ∧ textOf later = rest := List.cons.inj whole
        exact ⟨.between later, .between [.other '\n'] later, behind, rfl⟩
      | cons first line =>
        obtain ⟨rfl, next⟩ : character = first ∧ textOf later = line ++ '\n' :: rest :=
          List.cons.inj whole
        have shortLine : '\n' ∉ line := fun member => short (List.mem_cons_of_mem _ member)
        by_cases slashes : character = '/' ∧ line.head? = some '/'
        · obtain ⟨rfl, slash⟩ := slashes
          have behind : (textOf later).head? = some '/' := by
            rw [next, List.head?_append, slash]
            rfl
          obtain ⟨note, more, rfl⟩ := exists_comment complete behind
          exact endsAtPlace_slash_comment completeLater.cons.1 shortLine next
        · exact (inductionHypothesis completeLater next shortLine).behind
            (lexemeAfter_other fits.1 fits.2 slashes)
    | interpreted content =>
      have shortPiece : '\n' ∉ (Piece.interpreted content).written := by
        simpa [Piece.written] using lineFeed_not_mem_of_closed fits
      obtain ⟨behind, rfl, next⟩ := exists_line_behind shortPiece whole
      have shortBehind : '\n' ∉ behind := fun member => short (List.mem_append_right _ member)
      refine (inductionHypothesis completeLater next shortBehind).behind ?_
      have closed := lexemeAfter_closed fits behind
      simpa [Piece.written, lexemeAfter] using closed
    | raw content =>
      have opening : ['\x60'] ++ (content ++ '\x60' :: textOf later) = line ++ '\n' :: rest := by
        simpa [Piece.written] using whole
      obtain ⟨line, rfl, literal⟩ := exists_line_behind (by decide) opening
      have shortLine : '\n' ∉ line := fun member => short (List.mem_cons_of_mem _ member)
      obtain ⟨place, leads, text, part⟩ := exists_leads_inside fits literal shortLine
        fun behind => inductionHypothesis completeLater
      exact ⟨place, (Passes.inside [] [] content later).trans leads, text, part⟩
    | comment note => exact endsAtPlace_comment fits short whole

/-- A line that starts at a place ends at a place, and that place is part of what the line ends
in. -/
theorem exists_leads_line {place : Place} {pieces : List Piece} {before : List Char}
    (passes : Passes pieces before place) (complete : Complete pieces)
    {line rest : List Char} (whole : place.text = line ++ '\n' :: rest) (short : '\n' ∉ line) :
    ∃ next, Leads place (line ++ ['\n']) next ∧ next.text = rest ∧
      next.state = (lexemeAfter place.state line).acrossLine := by
  cases passes with
  | between passed later =>
    obtain ⟨next, further, text, part⟩ := endsAtPlace_of_line complete.of_append whole short
    exact ⟨next, .between further, text, part⟩
  | inside passed front back later =>
    obtain ⟨fits, completeLater⟩ := complete.of_append.cons
    exact exists_leads_inside (fun closes => fits (List.mem_append_right _ closes)) whole short
      fun behind => endsAtPlace_of_line completeLater

/-! ### Marks -/

/-- The lines behind a place are indented where they are not empty and start in no raw literal. -/
theorem exists_marks {pieces : List Piece} (complete : Complete pieces) {before : List Char}
    {place : Place} (passes : Passes pieces before place) {lines : List (List Char)}
    (whole : place.text = joinLines lines) (short : ∀ line ∈ lines, '\n' ∉ line) :
    ∃ marks : List Bool,
      List.Forall₂ (fun entry mark => mark = true ↔ TakesTab pieces entry.1 entry.2)
        (withStarts before lines) marks ∧
      indentLines place.state lines = joinLines (List.zipWith putTab marks lines) := by
  induction lines generalizing before place with
  | nil => exact ⟨[], .nil, rfl⟩
  | cons line rest inductionHypothesis =>
    rw [joinLines_cons] at whole
    obtain ⟨shortLine, shortRest⟩ := List.forall_mem_cons.1 short
    obtain ⟨next, leads, behind, part⟩ := exists_leads_line passes complete whole shortLine
    obtain ⟨marks, marked, indented⟩ := inductionHypothesis (passes.trans leads) behind shortRest
    rw [← List.append_assoc] at marked
    refine ⟨decide (¬ (place.state = .raw ∨ line.isEmpty = true)) :: marks, .cons ?_ marked, ?_⟩
    · rw [TakesTab, passes.inRaw_iff]
      simp [and_comm]
    · rw [part] at indented
      rw [indentLines, indented, List.zipWith_cons_cons, joinLines_cons, putTab]
      split_ifs with kept tabbed <;> simp_all

/-! ### Literals and comments -/

/-- The literals and comments among pieces. -/
def lexemesOf (pieces : List Piece) : List Piece :=
  pieces.filter Piece.isLexeme

/-- Behind two places stand the same literals and comments. -/
inductive Place.SameLexemes : Place → Place → Prop
  | between {later other : List Piece} (complete : Complete other)
      (same : lexemesOf other = lexemesOf later) :
      SameLexemes (.between later) (.between other)
  | inside {back : List Char} {later other : List Piece} (complete : Complete other)
      (same : lexemesOf other = lexemesOf later) :
      SameLexemes (.inside back later) (.inside back other)

theorem lexemesOf_append (first second : List Piece) :
    lexemesOf (first ++ second) = lexemesOf first ++ lexemesOf second :=
  List.filter_append _ _

theorem lexemesOf_cons (piece : Piece) (later : List Piece) :
    lexemesOf (piece :: later) =
      (if piece.isLexeme = true then [piece] else []) ++ lexemesOf later := by
  unfold lexemesOf
  rw [List.filter_cons]
  split_ifs <;> rfl

/-- Complete pieces stay so before others unless a slash comes to stand before a slash. -/
theorem Complete.append {first second : List Piece} (complete : Complete first)
    (completeSecond : Complete second)
    (other : (textOf first).getLast? ≠ some '/' ∨ (textOf second).head? ≠ some '/') :
    Complete (first ++ second) where
  fit := fun piece member => (List.mem_append.1 member).elim (complete.fit piece)
    (completeSecond.fit piece)
  apart := by
    refine complete.apart.append completeSecond.apart fun last ends next starts slashes => ?_
    obtain ⟨front, rfl⟩ := List.getLast?_eq_some_iff.1 (Option.mem_def.1 ends)
    obtain ⟨rest, rfl⟩ := List.head?_eq_some_iff.1 (Option.mem_def.1 starts)
    obtain ⟨rfl, rfl⟩ := slashes
    rcases other with ends | starts
    · exact ends (by simp [Piece.written])
    · exact starts rfl

/-- A literal, a comment or a tab can stand before complete pieces. -/
theorem Complete.behind {piece : Piece} (fits : piece.Fits) (other : piece ≠ .other '/')
    {later : List Piece} (complete : Complete later) : Complete (piece :: later) where
  fit := List.forall_mem_cons.2 ⟨fits, complete.fit⟩
  apart := List.isChain_cons.2 ⟨fun _ _ slashes => other slashes.1, complete.apart⟩

theorem Complete.left {first second : List Piece} (complete : Complete (first ++ second)) :
    Complete first :=
  ⟨fun piece member => complete.fit piece (List.mem_append_left _ member),
    complete.apart.left_of_append⟩

/-- Pieces that lead to a place can be exchanged for others behind the place. -/
theorem Passes.exchange {pieces : List Piece} {text : List Char} {place other : Place}
    (passes : Passes pieces text place) (complete : Complete pieces)
    (same : place.SameLexemes other) (ends : text.getLast? ≠ some '/') :
    ∃ result, Complete result ∧ lexemesOf result = lexemesOf pieces ∧
      textOf result = text ++ other.text := by
  cases passes with
  | between passed later =>
    cases same with
    | between completeOther same =>
      refine ⟨_, complete.left.append completeOther (Or.inl ends), ?_, textOf_append _ _⟩
      rw [lexemesOf_append, lexemesOf_append, same]
  | inside passed front back later =>
    cases same with
    | @inside _ _ other completeOther same =>
      have literal : Complete (.raw (front ++ back) :: other) :=
        completeOther.behind complete.of_append.cons.1 nofun
      refine ⟨_, complete.left.append literal (Or.inr (by simp [Piece.written])), ?_, ?_⟩
      · rw [lexemesOf_append, lexemesOf_append, lexemesOf_cons, lexemesOf_cons, same]
      · simp [Piece.written, Place.text]

theorem getLast?_of_append_cons {front behind : List Char} {character : Char}
    (ends : (front ++ character :: behind).getLast? ≠ some '/') :
    behind.getLast? ≠ some '/' := by
  intro slash
  obtain ⟨start, rfl⟩ := List.getLast?_eq_some_iff.1 slash
  refine ends ?_
  rw [← List.cons_append, ← List.append_assoc]
  exact List.getLast?_concat

/-- What leads to a place leads to any place with the same literals and comments behind it. -/
theorem Leads.exchange {place next other : Place} {text : List Char}
    (leads : Leads place text next) (complete : Complete place.later)
    (same : next.SameLexemes other) (ends : text.getLast? ≠ some '/') :
    ∃ result, place.SameLexemes result ∧ result.text = text ++ other.text := by
  cases leads with
  | between passes =>
    obtain ⟨result, completeResult, kept, whole⟩ := passes.exchange complete same ends
    exact ⟨.between result, .between completeResult kept, whole⟩
  | inside _ back later =>
    cases same with
    | @inside _ _ other completeOther same =>
      exact ⟨.inside (text ++ back) other, .inside completeOther same, List.append_assoc _ _ _⟩
  | closing back passes =>
    obtain ⟨result, completeResult, kept, whole⟩ := passes.exchange complete same
      (getLast?_of_append_cons ends)
    refine ⟨.inside back result, .inside completeResult kept, ?_⟩
    rw [Place.text, whole, List.append_assoc, List.cons_append]

/-- Indented lines have the same literals and comments, each with its content as it was. -/
theorem exists_sameLexemes {pieces : List Piece} (complete : Complete pieces) {before : List Char}
    {place : Place} (passes : Passes pieces before place) {lines : List (List Char)}
    (whole : place.text = joinLines lines) (short : ∀ line ∈ lines, '\n' ∉ line) :
    ∃ result, place.SameLexemes result ∧ result.text = indentLines place.state lines := by
  induction lines generalizing before place with
  | nil =>
    refine ⟨place, ?_, whole⟩
    cases place with
    | between later => exact .between (passes.complete complete) rfl
    | inside back later => exact .inside (passes.complete complete) rfl
  | cons line rest inductionHypothesis =>
    rw [joinLines_cons] at whole
    obtain ⟨shortLine, shortRest⟩ := List.forall_mem_cons.1 short
    obtain ⟨next, leads, behind, part⟩ := exists_leads_line passes complete whole shortLine
    obtain ⟨later, same, indented⟩ := inductionHypothesis (passes.trans leads) behind shortRest
    obtain ⟨result, sameResult, text⟩ :=
      leads.exchange (passes.complete complete) same (by simp)
    rw [indented, part] at text
    rw [indentLines]
    -- A tab is one more character of other code in front of what the line starts with.
    split_ifs with kept
    · exact ⟨result, sameResult, by simpa using text⟩
    · cases sameResult with
      | inside completeResult same => exact absurd (Or.inl rfl) kept
      | @between _ result completeResult same =>
        have tab : (Piece.other '\t').Fits := ⟨by decide, by decide⟩
        refine ⟨.between (.other '\t' :: result), ?_, ?_⟩
        · exact .between (completeResult.behind tab (by decide)) same
        · rw [Place.text] at text
          simp [Place.text, Piece.written, text]

/-! ### Fragments -/

/-- A text that ends with a line feed consists of lines. -/
theorem exists_lines {text : List Char} (ends : text.getLast? = some '\n') :
    ∃ lines, text = joinLines lines ∧ ∀ line ∈ lines, '\n' ∉ line := by
  obtain ⟨front, rfl⟩ := List.getLast?_eq_some_iff.1 ends
  induction front with
  | nil => exact ⟨[[]], rfl, by simp⟩
  | cons character front inductionHypothesis =>
    obtain ⟨lines, whole, short⟩ := inductionHypothesis List.getLast?_concat
    rw [List.cons_append, whole]
    by_cases line : character = '\n'
    · exact ⟨[] :: lines, by simp [line], List.forall_mem_cons.2 ⟨List.not_mem_nil, short⟩⟩
    · cases lines with
      | nil => simp at whole
      | cons first rest =>
        obtain ⟨shortFirst, shortRest⟩ := List.forall_mem_cons.1 short
        refine ⟨(character :: first) :: rest, by simp, List.forall_mem_cons.2 ⟨?_, shortRest⟩⟩
        exact List.not_mem_cons_of_ne_of_not_mem (Ne.symm line) shortFirst

/-- A text without carriage returns is read as its lines. -/
theorem linesOf_joinLines {lines : List (List Char)} (short : ∀ line ∈ lines, '\n' ∉ line)
    (carried : '\r' ∉ joinLines lines) : linesOf (joinLines lines) = lines := by
  unfold linesOf
  induction lines with
  | nil => rfl
  | cons line rest inductionHypothesis =>
    obtain ⟨shortLine, shortRest⟩ := List.forall_mem_cons.1 short
    rw [joinLines_cons] at carried ⊢
    have carriedRest : '\r' ∉ joinLines rest := fun member =>
      carried (List.mem_append_right _ (List.mem_cons_of_mem _ member))
    have plain : withoutReturn line = line := if_neg fun ends =>
      carried (List.mem_append_left _ (List.mem_of_getLast? ends))
    have behind := inductionHypothesis shortRest carriedRest
    rw [segments_append shortLine]
    cases pieces : segments '\n' (joinLines rest) with
    | nil => exact absurd pieces (segments_ne_nil _ _)
    | cons first others =>
      rw [pieces] at behind
      rw [linesOfPieces, plain, behind]
      exact nofun

theorem takeTab_putTab (marked : Bool) (line : List Char) :
    takeTab marked (putTab marked line) = line := by
  cases marked <;> rfl

/-- Tabs that were put before lines can be taken away again. -/
theorem zipWith_takeTab_putTab {marks : List Bool} {lines : List (List Char)}
    (each : marks.length = lines.length) :
    List.zipWith takeTab marks (List.zipWith putTab marks lines) = lines := by
  induction marks generalizing lines with
  | nil => exact (List.length_eq_zero_iff.1 each.symm).symm
  | cons mark marks inductionHypothesis =>
    cases lines with
    | nil => cases each
    | cons line rest =>
      rw [List.zipWith_cons_cons, List.zipWith_cons_cons, takeTab_putTab,
        inductionHypothesis (Nat.succ.inj each)]

theorem length_withStarts (before : List Char) (lines : List (List Char)) :
    (withStarts before lines).length = lines.length := by
  induction lines generalizing before with
  | nil => rfl
  | cons line rest inductionHypothesis => exact congrArg Nat.succ (inductionHypothesis _)

/-- A text is a fragment indented: the same lines, with a tab before each that is not empty and
starts in no raw literal of the fragment, so that taking these tabs away gives the fragment back.
The literals and the comments are those of the fragment, in the same order. -/
structure Indents (pieces : List Piece) (fragment result : List Char) : Prop where
  lines : ∃ (lines : List (List Char)) (marks : List Bool),
    fragment = joinLines lines ∧ (∀ line ∈ lines, '\n' ∉ line) ∧
    List.Forall₂ (fun entry mark => mark = true ↔ TakesTab pieces entry.1 entry.2)
      (withStarts [] lines) marks ∧
    result = joinLines (List.zipWith putTab marks lines) ∧
    fragment = joinLines (List.zipWith takeTab marks (List.zipWith putTab marks lines))
  lexemes : ∃ indented, Complete indented ∧ result = textOf indented ∧
    lexemesOf indented = lexemesOf pieces

/-- A fragment of complete pieces is indented without a change to its literals and comments. -/
theorem indents_indent {fragment : String} {pieces : List Piece} (complete : Complete pieces)
    (whole : fragment.toList = textOf pieces) (carried : '\r' ∉ fragment.toList)
    (ends : fragment.toList.getLast? = some '\n') :
    Indents pieces fragment.toList (indent fragment).toList := by
  obtain ⟨lines, same, short⟩ := exists_lines ends
  have text : textOf pieces = joinLines lines := whole.symm.trans same
  have passes : Passes pieces [] (.between pieces) := .between [] pieces
  have result : (indent fragment).toList = indentLines .code lines := by
    rw [indent, String.toList_ofList, same, linesOf_joinLines short (same ▸ carried)]
  obtain ⟨marks, marked, indented⟩ := exists_marks complete passes text short
  have each : marks.length = lines.length := by
    rw [← marked.length_eq, length_withStarts]
  obtain ⟨other, sameLexemes, kept⟩ := exists_sameLexemes complete passes text short
  constructor
  · refine ⟨lines, marks, same, short, marked, result.trans indented, ?_⟩
    rw [zipWith_takeTab_putTab each, same]
  · cases sameLexemes with
    | @between _ indented completeResult same =>
      exact ⟨indented, completeResult, result.trans kept.symm, same⟩

/-- A literal with two slashes, an escaped quote and a backquote, a comment with a backquote, and a
literal over several lines, one of them empty and one with a quote and two slashes. -/
theorem indents_indent_literals :
    let fragment := "a(\x22//\\\x22\x60\x22) // \x60\nb(\x60c\n\n\x22d // e\n\x60)\n\nf\n"
    let pieces : List Piece := [.other 'a', .other '(', .interpreted "//\\\x22\x60".toList,
      .other ')', .other ' ', .comment " \x60".toList, .other 'b', .other '(',
      .raw "c\n\n\x22d // e\n".toList, .other ')', .other '\n', .other '\n', .other 'f',
      .other '\n']
    Complete pieces ∧ fragment.toList = textOf pieces ∧ '\r' ∉ fragment.toList ∧
      fragment.toList.getLast? = some '\n' ∧
      Indents pieces fragment.toList (indent fragment).toList ∧
      indent fragment =
        "\ta(\x22//\\\x22\x60\x22) // \x60\n\tb(\x60c\n\n\x22d // e\n\x60)\n\n\tf\n" := by
  intro fragment pieces
  have literal : IsClosed ['/', '/', '\x5c', '\x22', '\x60'] :=
    .ordinary (by decide) (by decide) (by decide) <|
      .ordinary (by decide) (by decide) (by decide) <|
        .escaped (by decide) <| .ordinary (by decide) (by decide) (by decide) .nil
  have complete : Complete pieces :=
    ⟨by simp [pieces, Piece.Fits, literal], by simp [pieces, Piece.StartComment]⟩
  have whole : fragment.toList = textOf pieces := by decide +kernel
  have carried : '\r' ∉ fragment.toList := by decide +kernel
  have ends : fragment.toList.getLast? = some '\n' := by decide +kernel
  exact ⟨complete, whole, carried, ends, indents_indent complete whole carried ends,
    by decide +kernel⟩

end CurlScribe.Go
