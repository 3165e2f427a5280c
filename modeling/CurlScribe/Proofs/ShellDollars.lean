/-
This file compares what a word gives in the shell with what its expression evaluates to when
generated code runs. Quotes and backslashes mark each character of a word: it is live, or it
stands for itself, or it is a dollar that a backslash takes the meaning from. The shell
expands live dollars and drops the marks. The reader of words drops the marks as well, except
that it keeps the backslash before a dollar, and the expression for the text is judged by its
first dollar alone.

So the two agree where the text tells what the marks said: if all dollars that stand before a
name are live, or if the first dollar follows a backslash and no other one is live or escaped.
-/

import CurlScribe.Proofs.LiteralValues
import CurlScribe.Proofs.WordGrammar

namespace CurlScribe

open Go

/-! ### Marks -/

/-- A character of a word with what quotes and backslashes make of it, or a place between
characters. -/
inductive Mark where
  /-- A character outside single quotes that no backslash stands before. -/
  | live (character : Char)
  /-- A character that stands for itself. -/
  | quoted (character : Char)
  /-- A dollar behind a backslash. -/
  | escapedDollar
  /-- The place where quotes open or close. -/
  | edge
  /-- What the shell reads in another way than the reader of words, which keeps the given text. -/
  | foreign (text : List Char)
  deriving DecidableEq, Repr

/-- What the reader of words keeps of a mark. -/
def Mark.scanned : Mark → List Char
  | .live character | .quoted character => [character]
  | .escapedDollar => ['\x5c', '$']
  | .edge => []
  | .foreign text => text

/-- What a mark stands for, if it is no live dollar. -/
def Mark.characters : Mark → List Char
  | .live character | .quoted character => [character]
  | .escapedDollar => ['$']
  | .edge => []
  | .foreign text => text

/-- What the reader of words keeps of marks. -/
def scannedText (marks : List Mark) : List Char :=
  marks.flatMap Mark.scanned

/-- The marks of an escape. A backslash before a line feed joins lines, and between double quotes a
backslash that stands before nothing special stands for itself. The shell does not join lines at a
carriage return. -/
def Escape.marks (quoted : Bool) : Escape → List Mark
  | .lineBreak => [.foreign []]
  | .before character =>
    if character = '\n' then []
    else if character = '$' then [.escapedDollar]
    else if quoted = true ∧ character ∉ ['\x22', '\x5c', '\x60'] then
      [.quoted '\x5c', .quoted character]
    else [.quoted character]

/-- The marks of an item between double quotes. -/
def QuotedItem.marks : QuotedItem → List Mark
  | .ordinary character => [.live character]
  | .escaped escape => escape.marks true

/-- The marks of a segment. The shell interprets what stands behind a dollar in single quotes. -/
def Segment.marks : Segment → List Mark
  | .plain character => [.live character]
  | .single body => .edge :: (body.map .quoted ++ [.edge])
  | .double items => .edge :: (items.flatMap QuotedItem.marks ++ [.edge])
  | .escaped escape => escape.marks false
  | .dollar body => [.foreign body]

/-- The marks of a word. -/
def marksOf (segments : List Segment) : List Mark :=
  segments.flatMap Segment.marks

/-! ### What the reader keeps -/

theorem scannedText_append (first second : List Mark) :
    scannedText (first ++ second) = scannedText first ++ scannedText second :=
  List.flatMap_append

theorem scannedText_quoted (body : List Char) : scannedText (body.map .quoted) = body := by
  rw [scannedText, List.flatMap_map]
  exact List.flatMap_singleton' body

theorem Escape.scannedText_marks (quoted : Bool) (escape : Escape) :
    scannedText (escape.marks quoted) = escape.meaning quoted := by
  cases escape with
  | lineBreak => rfl
  | before character =>
    rw [Escape.meaning_before]
    unfold Escape.marks escapedText
    split_ifs <;> simp_all [scannedText, Mark.scanned]

theorem QuotedItem.scannedText_marks (item : QuotedItem) :
    scannedText item.marks = item.meaning := by
  cases item with
  | ordinary character => rfl
  | escaped escape => exact escape.scannedText_marks true

theorem Segment.scannedText_marks (segment : Segment) :
    scannedText segment.marks = segment.meaning := by
  cases segment with
  | plain character => rfl
  | single body =>
    show scannedText (body.map .quoted ++ [.edge]) = body
    rw [scannedText_append, scannedText_quoted]
    exact List.append_nil body
  | double items =>
    show scannedText (items.flatMap QuotedItem.marks ++ [.edge]) = items.flatMap QuotedItem.meaning
    rw [scannedText_append, scannedText, List.flatMap_assoc]
    exact (List.append_nil _).trans
      (List.flatMap_congr fun item _ => item.scannedText_marks)
  | escaped escape => exact escape.scannedText_marks false
  | dollar body => exact List.append_nil body

/-- The reader of words keeps of a word what it keeps of the marks. -/
theorem scannedText_marksOf (segments : List Segment) :
    scannedText (marksOf segments) = segments.flatMap Segment.meaning := by
  rw [scannedText, marksOf, List.flatMap_assoc]
  exact List.flatMap_congr fun segment _ => segment.scannedText_marks

/-! ### Expansion of names -/

/-- The character may stand in a name. -/
def isNameCharacter (character : Char) : Bool :=
  character.isAlphanum || character == '_'

/-- The name of a variable: letters, digits and underscores, and no digit first. -/
def IsName (name : List Char) : Prop :=
  name ≠ [] ∧ (∀ character ∈ name, isNameCharacter character = true) ∧
    ∀ character, name.head? = some character → character.isDigit = false

/-- A name that stands in front of the text ends there. -/
def EndsName (text : List Char) : Prop :=
  ∀ character, text.head? = some character → isNameCharacter character = false

/-- A dollar in front of the text does not stand before the name of a variable, before one of the
variables with a special name, or before braces. -/
def LeavesDollar (text : List Char) : Prop :=
  ∀ character, text.head? = some character →
    isNameCharacter character = false ∧ character ∉ ['\x7b', '*', '#', '$', '@', '!', '?', '-']

/-- The function replaces each name behind a dollar by its value in the environment, and copies all
other text. -/
structure ExpandsNames (expand : (List Char → List Char) → List Char → List Char) : Prop where
  nothing : ∀ environment, expand environment [] = []
  copies : ∀ environment character later, character ≠ '$' →
    expand environment (character :: later) = character :: expand environment later
  leaves : ∀ environment later, LeavesDollar later →
    expand environment ('$' :: later) = '$' :: expand environment later
  replaces : ∀ environment name later, IsName name → EndsName later →
    expand environment ('$' :: (name ++ later)) = environment name ++ expand environment later

/-- What the shell gives for marks. Each live dollar stands before the name of a variable, which
goes on as long as live characters of a name follow; commands in backquotes are left out. -/
inductive ShellGives (environment : List Char → List Char) : List Mark → List Char → Prop
  | nothing : ShellGives environment [] []
  | live {character : Char} {later : List Mark} {value : List Char}
      (ordinary : character ≠ '$' ∧ character ≠ '\x60')
      (gives : ShellGives environment later value) :
      ShellGives environment (.live character :: later) (character :: value)
  | quoted {character : Char} {later : List Mark} {value : List Char}
      (gives : ShellGives environment later value) :
      ShellGives environment (.quoted character :: later) (character :: value)
  | escapedDollar {later : List Mark} {value : List Char}
      (gives : ShellGives environment later value) :
      ShellGives environment (.escapedDollar :: later) ('$' :: value)
  | edge {later : List Mark} {value : List Char} (gives : ShellGives environment later value) :
      ShellGives environment (.edge :: later) value
  | reference {name : List Char} {later : List Mark} {value : List Char} (valid : IsName name)
      (ends : ∀ character, later.head? = some (.live character) →
        isNameCharacter character = false)
      (gives : ShellGives environment later value) :
      ShellGives environment (.live '$' :: (name.map .live ++ later)) (environment name ++ value)

/-! ### Dollars in the text -/

/-- The mark is a live character of a name. -/
def Mark.continuesName : Mark → Bool
  | .live character => isNameCharacter character
  | _ => false

/-- The text that the reader keeps says of each dollar what its mark says: none follows a backslash,
one that stands for itself is left alone, and behind the name at a live one the text goes on with no
character of a name. -/
def Faithful : List Mark → Prop
  | [] => True
  | .escapedDollar :: _ => False
  | .quoted character :: later =>
    (character = '$' → LeavesDollar (scannedText later)) ∧ Faithful later
  | .live character :: later =>
    (character = '$' → EndsName (scannedText (later.dropWhile Mark.continuesName))) ∧
      Faithful later
  | .edge :: later | .foreign _ :: later => Faithful later

theorem Faithful.behind {earlier later : List Mark} (faithful : Faithful (earlier ++ later)) :
    Faithful later := by
  induction earlier with
  | nil => exact faithful
  | cons mark between inductionHypothesis =>
    cases mark with
    | live character => exact inductionHypothesis faithful.2
    | quoted character => exact inductionHypothesis faithful.2
    | escapedDollar => exact faithful.elim
    | edge => exact inductionHypothesis faithful
    | foreign text => exact inductionHypothesis faithful

/-- The characters of a name go on up to where the name ends. -/
theorem dropWhile_continuesName {name : List Char} {later : List Mark}
    (inside : ∀ character ∈ name, isNameCharacter character = true)
    (ends : ∀ character, later.head? = some (.live character) →
      isNameCharacter character = false) :
    (name.map Mark.live ++ later).dropWhile Mark.continuesName = later := by
  rw [List.dropWhile_append_of_pos]
  · cases later with
    | nil => rfl
    | cons mark rest =>
      refine List.dropWhile_cons_of_neg ?_
      cases mark with
      | live character => simp [Mark.continuesName, ends character rfl]
      | quoted _ | escapedDollar | edge | foreign _ => exact Bool.false_ne_true
  · intro mark member
    obtain ⟨character, among, rfl⟩ := List.mem_map.1 member
    exact inside character among

theorem scannedText_live (name : List Char) : scannedText (name.map .live) = name := by
  rw [scannedText, List.flatMap_map]
  exact List.flatMap_singleton' name

section

variable {expand : (List Char → List Char) → List Char → List Char}
  {environment : List Char → List Char}

/-- If the text says of each dollar what its mark says, expanding the text gives what the shell
gives. -/
theorem expand_scannedText (expands : ExpandsNames expand) {marks : List Mark} {value : List Char}
    (gives : ShellGives environment marks value) (faithful : Faithful marks) :
    expand environment (scannedText marks) = value := by
  induction gives with
  | nothing => exact expands.nothing environment
  | live ordinary gives inductionHypothesis =>
    rw [← inductionHypothesis faithful.2]
    exact expands.copies _ _ _ ordinary.1
  | @quoted character later value gives inductionHypothesis =>
    rw [← inductionHypothesis faithful.2]
    by_cases dollar : character = '$'
    · subst dollar
      exact expands.leaves _ _ (faithful.1 rfl)
    · exact expands.copies _ _ _ dollar
  | escapedDollar gives inductionHypothesis => exact faithful.elim
  | edge gives inductionHypothesis => exact inductionHypothesis faithful
  | @reference name later value valid ends gives inductionHypothesis =>
    obtain ⟨ended, behind⟩ := faithful
    have nameEnds := ended rfl
    rw [dropWhile_continuesName valid.2.1 ends] at nameEnds
    have text : scannedText (.live '$' :: (name.map .live ++ later)) =
        '$' :: (name ++ scannedText later) := by
      show '$' :: scannedText (name.map .live ++ later) = _
      rw [scannedText_append, scannedText_live]
    rw [text, expands.replaces _ _ _ valid nameEnds, inductionHypothesis behind.behind]

/-- Without a dollar nothing is expanded. -/
theorem expand_of_not_mem (expands : ExpandsNames expand) {text : List Char}
    (absent : '$' ∉ text) : expand environment text = text := by
  induction text with
  | nil => exact expands.nothing environment
  | cons character later inductionHypothesis =>
    obtain ⟨other, absentLater⟩ := List.ne_and_not_mem_of_not_mem_cons absent
    rw [expands.copies _ _ _ other.symm, inductionHypothesis absentLater]

/-- Without a live dollar the shell takes every character for what it is. -/
theorem ShellGives.eq_of_dead {marks : List Mark} {value : List Char}
    (gives : ShellGives environment marks value) (dead : .live '$' ∉ marks) :
    value = marks.flatMap Mark.characters := by
  induction gives with
  | nothing => rfl
  | live ordinary gives inductionHypothesis =>
    rw [inductionHypothesis (List.not_mem_of_not_mem_cons dead)]
    rfl
  | quoted gives inductionHypothesis =>
    rw [inductionHypothesis (List.not_mem_of_not_mem_cons dead)]
    rfl
  | escapedDollar gives inductionHypothesis =>
    rw [inductionHypothesis (List.not_mem_of_not_mem_cons dead)]
    rfl
  | edge gives inductionHypothesis =>
    exact inductionHypothesis (List.not_mem_of_not_mem_cons dead)
  | reference valid ends gives inductionHypothesis => exact absurd List.mem_cons_self dead

theorem characters_of_unescaped {marks : List Mark} (unescaped : .escapedDollar ∉ marks) :
    marks.flatMap Mark.characters = scannedText marks := by
  refine List.flatMap_congr fun mark member => ?_
  cases mark with
  | escapedDollar => exact absurd member unescaped
  | live _ | quoted _ | edge | foreign _ => rfl

/-- No mark is a dollar if the text holds none. -/
theorem not_mem_of_scannedText {marks : List Mark} (absent : '$' ∉ scannedText marks)
    {mark : Mark} (dollar : '$' ∈ mark.scanned) : mark ∉ marks :=
  fun member => absent (List.mem_flatMap.2 ⟨mark, member, dollar⟩)

/-- If one dollar follows a backslash and the others stand for themselves, the shell gives the text
without that backslash. -/
theorem ShellGives.eq_of_escapedDollar {before after : List Mark} {value : List Char}
    (gives : ShellGives environment (before ++ .escapedDollar :: after) value)
    (first : '$' ∉ scannedText before) (dead : .live '$' ∉ after)
    (unescaped : .escapedDollar ∉ after) :
    value = scannedText before ++ '$' :: scannedText after := by
  have deadBefore : .live '$' ∉ before :=
    not_mem_of_scannedText first List.mem_cons_self
  have unescapedBefore : .escapedDollar ∉ before :=
    not_mem_of_scannedText first (List.mem_cons_of_mem _ List.mem_cons_self)
  have deadAll : .live '$' ∉ before ++ .escapedDollar :: after := by
    simp [deadBefore, dead]
  rw [gives.eq_of_dead deadAll, List.flatMap_append, List.flatMap_cons,
    characters_of_unescaped unescapedBefore, characters_of_unescaped unescaped]
  rfl

end

/-! ### A function that expands names -/

/-- The value of a name, or the dollar alone if no name follows it. -/
def nameValue (environment : List Char → List Char) (name : List Char) : List Char :=
  if name = [] then ['$'] else environment name

/-- Expand the names in a text; behind a dollar the characters of its name are collected first. -/
def expandFrom (environment : List Char → List Char) :
    Option (List Char) → List Char → List Char
  | none, [] => []
  | some name, [] => nameValue environment name
  | none, character :: later =>
    if character = '$' then expandFrom environment (some []) later
    else character :: expandFrom environment none later
  | some name, character :: later =>
    if isNameCharacter character then expandFrom environment (some (name ++ [character])) later
    else nameValue environment name ++
      (if character = '$' then expandFrom environment (some []) later
        else character :: expandFrom environment none later)

/-- Expand the names in a text. -/
def expandNames (environment : List Char → List Char) (text : List Char) : List Char :=
  expandFrom environment none text

theorem expandFrom_name (environment : List Char → List Char) {rest later : List Char}
    (inside : ∀ character ∈ rest, isNameCharacter character = true) (ends : EndsName later)
    (name : List Char) :
    expandFrom environment (some name) (rest ++ later) =
      nameValue environment (name ++ rest) ++ expandFrom environment none later := by
  induction rest generalizing name with
  | nil =>
    rw [List.nil_append, List.append_nil]
    cases later with
    | nil => exact (List.append_nil _).symm
    | cons character behind =>
      show (if isNameCharacter character then _ else _) = _
      rw [if_neg (by simp [ends character rfl])]
      rfl
  | cons character others inductionHypothesis =>
    obtain ⟨first, insideOthers⟩ := List.forall_mem_cons.1 inside
    rw [List.cons_append, expandFrom, if_pos first, inductionHypothesis insideOthers,
      List.append_assoc]
    rfl

theorem expandsNames_expandNames : ExpandsNames expandNames where
  nothing _ := rfl
  copies environment character later other := by
    rw [expandNames, expandFrom, if_neg other]
    rfl
  leaves environment later left := by
    have ends : EndsName later := fun character head => (left character head).1
    exact expandFrom_name environment (List.forall_mem_nil _) ends []
  replaces environment name later valid ends := by
    have expanded := expandFrom_name environment valid.2.1 ends []
    rw [List.nil_append, nameValue, if_neg valid.1] at expanded
    exact expanded

/-! ### Expressions for words -/

/-- The expression for the word that a text starts with. -/
def wordExpression (text : List Char) : Expression :=
  .ofString (String.ofList (readWord none .plain text).text)

/-- The expression evaluates to the value and to nothing else. -/
def EvaluatesTo (expand : (List Char → List Char) → List Char → List Char)
    (environment : List Char → List Char) (expression : Expression) (value : List Char) : Prop :=
  ∀ result, Evaluates expand environment expression result ↔ result = value

section

variable {expand : (List Char → List Char) → List Char → List Char}
  {environment : List Char → List Char} {text : String}

/-- A text whose first dollar follows no backslash is expanded if it holds a dollar at all. -/
theorem evaluatesTo_ofString_of_bare (expands : ExpandsNames expand)
    (bare : ∀ before after, text.toList = before ++ '\x5c' :: '$' :: after → '$' ∈ before)
    (oneLine : '\n' ∉ text.toList) :
    EvaluatesTo expand environment (.ofString text) (expand environment text.toList) := by
  intro result
  rw [evaluates_ofString_iff oneLine]
  by_cases live : envReference text = .live
  · rw [if_pos live]
  · rw [if_neg live]
    rcases plain_cases live with ⟨absent, kept⟩ | ⟨before, after, first, equal, -⟩
    · rw [kept, expand_of_not_mem expands absent]
    · exact absurd (bare before after equal) first

/-- A text whose first dollar follows a backslash loses this backslash and is not expanded. -/
theorem evaluatesTo_ofString_of_escaped {before after : List Char}
    (equal : text.toList = before ++ '\x5c' :: '$' :: after) (first : '$' ∉ before)
    (oneLine : '\n' ∉ text.toList) :
    EvaluatesTo expand environment (.ofString text) (before ++ '$' :: after) := by
  have found : Text.splitFirst '$' text.toList = some (before ++ ['\x5c'], after) := by
    have absent : '$' ∉ before ++ ['\x5c'] := by
      simp [first]
    rw [equal, ← Text.splitFirst_append absent after, List.append_assoc]
    rfl
  have plain : envReference text ≠ .live := by
    rw [envReference, found]
    simp
  have kept : (withoutEscape text).toList = before ++ '$' :: after := by
    rw [withoutEscape, found]
    simp
  intro result
  rw [evaluates_ofString_iff oneLine, if_neg plain, kept]

end

/-- A word is judged by the first dollar of the text that the reader keeps. Where this text says of
each dollar what its mark says and no backslash stands before the first one, the expression
evaluates to what the shell gives, in every environment. Where the first dollar is escaped, nothing
is expanded: the expression evaluates to the text without this one backslash, which is what the
shell gives if the other dollars stand for themselves. -/
theorem evaluatesTo_wordExpression {expand : (List Char → List Char) → List Char → List Char}
    (expands : ExpandsNames expand) {segments : List Segment} {tail rest : List Char}
    (spells : Spells none segments tail) (stops : Stops none tail rest)
    (oneLine : '\n' ∉ scannedText (marksOf segments)) :
    (Faithful (marksOf segments) →
      (∀ before after, scannedText (marksOf segments) = before ++ '\x5c' :: '$' :: after →
        '$' ∈ before) →
      ∀ environment value, ShellGives environment (marksOf segments) value →
        EvaluatesTo expand environment
          (wordExpression (segments.flatMap Segment.written ++ tail)) value) ∧
    ∀ before after, marksOf segments = before ++ .escapedDollar :: after →
      '$' ∉ scannedText before → ∀ environment,
        EvaluatesTo expand environment
          (wordExpression (segments.flatMap Segment.written ++ tail))
          (scannedText before ++ '$' :: scannedText after) ∧
        (.live '$' ∉ after → .escapedDollar ∉ after →
          ∀ value, ShellGives environment (marksOf segments) value →
            value = scannedText before ++ '$' :: scannedText after) := by
  have read : (readWord none .plain (segments.flatMap Segment.written ++ tail)).text =
      scannedText (marksOf segments) := by
    rw [readWord_of_spells spells stops, scannedText_marksOf]
  have kept := String.toList_ofList (l := scannedText (marksOf segments))
  unfold wordExpression
  rw [read]
  rw [← kept] at oneLine
  constructor
  · intro faithful bare environment value gives
    rw [← expand_scannedText expands gives faithful]
    rw [← kept] at bare
    have evaluates : EvaluatesTo expand environment _ _ :=
      evaluatesTo_ofString_of_bare expands bare oneLine
    rwa [kept] at evaluates
  · intro before after split first environment
    refine ⟨evaluatesTo_ofString_of_escaped ?_ first oneLine, fun dead unescaped value gives => ?_⟩
    · rw [kept, split, scannedText_append]
      rfl
    · rw [split] at gives
      exact gives.eq_of_escapedDollar first dead unescaped

/-- A dollar that is left alone in single quotes does not keep a live one from being expanded, and
behind an escaped dollar one in single quotes stands for itself. -/
theorem evaluatesTo_wordExpression_quoted :
    EvaluatesTo expandNames (fun _ => ['b']) (wordExpression "\x22$A\x22/'$' x".toList)
        "b/$".toList ∧
      EvaluatesTo expandNames (fun _ => ['b']) (wordExpression "\\$5'$B'".toList)
        "$5$B".toList := by
  have first : Spells none [.double [.ordinary '$', .ordinary 'A'], .plain '/', .single ['$']]
      " x".toList :=
    ⟨by simp [FitBefore, Segment.Fits, QuotedItem.Fits, IsLiteral, Text.isSeparator],
      by simp [Segment.MayMeet], by simp⟩
  have second : Spells none [.escaped (.before '$'), .plain '5', .single ['$', 'B']] [] :=
    ⟨by simp [FitBefore, Segment.Fits, Escape.Fits, IsLiteral, Text.isSeparator],
      by simp [Segment.MayMeet], by simp⟩
  have reference : ShellGives (fun _ => ['b'])
      (.live '$' :: (['A'].map .live ++ [.edge, .live '/', .edge, .quoted '$', .edge]))
      (['b'] ++ ['/', '$']) := by
    refine .reference ⟨List.cons_ne_nil _ _, List.forall_mem_singleton.2 rfl, ?_⟩ (by simp)
      (.edge (.live (by decide) (.edge (.quoted (.edge .nothing)))))
    intro character head
    rw [← Option.some.inj head]
    rfl
  constructor
  · refine (evaluatesTo_wordExpression expandsNames_expandNames first (.separator (by decide))
      (by decide)).1 ?_ ?_ _ _ (.edge reference)
    · refine ⟨fun _ character head => ?_, fun same => absurd same (by decide),
        fun same => absurd same (by decide), fun _ character head => ?_, trivial⟩
      · rw [← Option.some.inj head]
        rfl
      · exact absurd head.symm (Option.some_ne_none character)
    · intro before after same
      have backslash : '\x5c' ∈ before ++ '\x5c' :: '$' :: after :=
        List.mem_append_right _ List.mem_cons_self
      rw [← same] at backslash
      exact absurd backslash (by decide)
  · exact ((evaluatesTo_wordExpression expandsNames_expandNames second .nothing
      (by decide)).2 [] _ rfl (by decide) _).1

/-- Only the first of two escaped dollars loses its backslash. -/
theorem not_evaluates_wordExpression_escaped :
    Spells none [.escaped (.before '$'), .plain '5', .escaped (.before '$'), .plain '6'] [] ∧
      ShellGives (fun _ => []) (marksOf
          [.escaped (.before '$'), .plain '5', .escaped (.before '$'), .plain '6'])
        "$5$6".toList ∧
      ¬ Evaluates expandNames (fun _ => []) (wordExpression "\\$5\\$6".toList) "$5$6".toList := by
  refine ⟨⟨by simp [FitBefore, Segment.Fits, Escape.Fits, IsLiteral, Text.isSeparator],
    by simp [Segment.MayMeet], by simp⟩,
    .escapedDollar (.live (by decide) (.escapedDollar (.live (by decide) .nothing))), ?_⟩
  intro evaluates
  have kept : (String.ofList (readWord none .plain "\\$5\\$6".toList).text).toList =
      [] ++ '\x5c' :: '$' :: "5\\$6".toList := by
    decide
  have value := (evaluatesTo_ofString_of_escaped kept (by decide) (by decide) _).1 evaluates
  exact absurd value (by decide)

end CurlScribe
