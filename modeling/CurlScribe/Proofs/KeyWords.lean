/-
This file cuts the words of a key out of it. The characters that are neither letters nor numerals
stand between the parts of the key, and a part is cut before each capital behind a small letter or a
digit. The cuts are made at offsets in bytes, and a cut that does not lie between two characters has
no result.

No such cut is made. The slices are the words that names are made of: they are not empty, they lie
in the key one behind the other, and together they hold its letters and numerals. Within a word
nothing is dropped and no capital stands behind a small letter or a digit, and everywhere else a
word ends.
-/

import CurlScribe.Go.Type.FieldName
import Mathlib.Data.List.Chain

namespace CurlScribe.Go

open Text

/-! ### Slices -/

/-- The part of a text between two offsets. There is none unless both lie between characters of the
text, in this order. -/
def sliceAt (text : String.Slice) (start stop : String.Pos.Raw) : Option String.Slice := do
  text.slice? (← text.pos? start) (← text.pos? stop)

/-- The characters, each with its offset, if the first stands at the given one. -/
def withOffsets (offset : String.Pos.Raw) : List Char → List (String.Pos.Raw × Char)
  | [] => []
  | character :: rest => (offset, character) :: withOffsets (offset + character) rest

/-- The parts of a text between the characters that are neither letters nor numerals, the first of
them from the given offset on. -/
def cutParts (text : String.Slice) (start : String.Pos.Raw) :
    List (String.Pos.Raw × Char) → Option (List String.Slice)
  | [] => do return [← sliceAt text start text.rawEndPos]
  | (offset, character) :: rest =>
    if isLetterOrNumeral character then cutParts text start rest
    else do
      let part ← sliceAt text start offset
      return part :: (← cutParts text (offset + character) rest)

/-- The words of a part, the first of them from the given offset on. A capital starts a word if the
character before it is known to be a small letter or a digit. -/
def cutWords (part : String.Slice) (start : String.Pos.Raw) (small : Bool) :
    List (String.Pos.Raw × Char) → Option (List String.Slice)
  | [] => do return [← sliceAt part start part.rawEndPos]
  | (offset, character) :: rest =>
    if isCapital character && small then do
      let word ← sliceAt part start offset
      return word :: (← cutWords part offset (endsSmall character) rest)
    else cutWords part start (endsSmall character) rest

/-- The words of all parts that are not empty. -/
def wordsOfParts : List String.Slice → Option (List String.Slice)
  | [] => return []
  | part :: parts =>
    if part.isEmpty then wordsOfParts parts
    else do
      let words ← cutWords part 0 false (withOffsets 0 part.copy.toList)
      return words ++ (← wordsOfParts parts)

/-- The words of a key, cut out of it. -/
def slicedWords (key : String) : Option (List String.Slice) := do
  wordsOfParts (← cutParts key.toSlice 0 (withOffsets 0 key.toList))

/-! ### Offsets -/

/-- The offset behind the characters. -/
def offsetBehind (characters : List Char) : String.Pos.Raw :=
  (String.ofList characters).rawEndPos

theorem offsetBehind_append (before characters : List Char) :
    offsetBehind (before ++ characters) =
      (offsetBehind characters).offsetBy (offsetBehind before) := by
  unfold offsetBehind
  rw [String.ofList_append]
  ext
  rw [String.Pos.Raw.byteIdx_offsetBy]
  exact String.utf8ByteSize_append

theorem offsetBehind_concat (before : List Char) (character : Char) :
    offsetBehind (before ++ [character]) = offsetBehind before + character := by
  have width : (offsetBehind [character]).byteIdx = character.utf8Size :=
    String.utf8ByteSize_singleton
  rw [offsetBehind_append]
  ext
  rw [String.Pos.Raw.byteIdx_offsetBy, width]
  rfl

theorem offsetBehind_le (before characters : List Char) :
    offsetBehind before ≤ offsetBehind (before ++ characters) := by
  rw [offsetBehind_append, String.Pos.Raw.le_iff, String.Pos.Raw.byteIdx_offsetBy]
  exact Nat.le_add_right _ _

theorem offsetBehind_lt {characters : List Char} (before : List Char)
    (present : characters ≠ []) : offsetBehind before < offsetBehind (before ++ characters) := by
  obtain ⟨first, rest, rfl⟩ := List.exists_cons_of_ne_nil present
  have wide : offsetBehind before < offsetBehind (before ++ [first]) := by
    rw [offsetBehind_concat, String.Pos.Raw.lt_iff]
    exact Nat.lt_add_of_pos_right first.utf8Size_pos
  have rest := offsetBehind_le (before ++ [first]) rest
  rw [List.append_assoc] at rest
  exact String.Pos.Raw.lt_of_lt_of_le wide rest

/-- The slice holds the word, which stands in the key right behind the characters before it. -/
structure LiesBehind (key : String) (before word : List Char) (slice : String.Slice) : Prop where
  str : slice.str = key
  start : slice.startInclusive.offset = offsetBehind before
  copy : slice.copy = String.ofList word

theorem LiesBehind.stop {key : String} {before word : List Char} {slice : String.Slice}
    (lies : LiesBehind key before word slice) :
    slice.endExclusive.offset = offsetBehind (before ++ word) := by
  have order : slice.startInclusive.offset ≤ slice.endExclusive.offset :=
    slice.startInclusive_le_endExclusive
  have width := String.Slice.utf8ByteSize_copy_eq_sub (s := slice)
  rw [lies.copy] at width
  rw [String.Pos.Raw.le_iff, lies.start] at order
  rw [lies.start] at width
  have wide : (offsetBehind word).byteIdx = (String.ofList word).utf8ByteSize := rfl
  rw [offsetBehind_append]
  ext
  rw [String.Pos.Raw.byteIdx_offsetBy, wide]
  omega

theorem LiesBehind.rawEndPos_eq {key : String} {before word : List Char} {slice : String.Slice}
    (lies : LiesBehind key before word slice) : slice.rawEndPos = offsetBehind word := by
  rw [← String.Slice.rawEndPos_copy, lies.copy, offsetBehind]

theorem liesBehind_toSlice (key : String) : LiesBehind key [] key.toList key.toSlice :=
  ⟨rfl, rfl, by simp⟩

theorem sliceAt_eq_some {text : String.Slice} {start stop : String.Pos.Raw}
    (startValid : start.IsValidForSlice text) (stopValid : stop.IsValidForSlice text)
    (order : start ≤ stop) :
    sliceAt text start stop =
      some (text.slice (text.pos start startValid) (text.pos stop stopValid) order) := by
  unfold sliceAt String.Slice.pos? String.Slice.slice?
  rw [dif_pos (String.Pos.Raw.isValidForSlice_eq_true_iff.2 startValid),
    dif_pos (String.Pos.Raw.isValidForSlice_eq_true_iff.2 stopValid)]
  exact dif_pos order

/-- The offset behind some of the characters of a slice lies between two characters of it. -/
theorem LiesBehind.exists_splits {key : String} {outer before after : List Char}
    {text : String.Slice} (lies : LiesBehind key outer (before ++ after) text) :
    ∃ valid : (offsetBehind before).IsValidForSlice text,
      (text.pos _ valid).Splits (String.ofList before) (String.ofList after) := by
  have whole : text.copy = String.ofList before ++ String.ofList after := by
    rw [lies.copy, String.ofList_append]
  exact ⟨String.Pos.Raw.isValidForSlice_iff_exists_append.2 ⟨_, _, whole, rfl⟩, whole, rfl⟩

/-- A cut between characters has a result. -/
theorem exists_sliceAt {key : String} {text : String.Slice} {outer before word after : List Char}
    (lies : LiesBehind key outer (before ++ word ++ after) text) :
    ∃ slice, sliceAt text (offsetBehind before) (offsetBehind (before ++ word)) = some slice ∧
      LiesBehind key (outer ++ before) word slice := by
  obtain ⟨stopValid, stop⟩ := lies.exists_splits
  rw [List.append_assoc] at lies
  obtain ⟨startValid, start⟩ := lies.exists_splits
  rw [String.ofList_append] at start stop
  obtain ⟨order, copy⟩ := String.Slice.copy_slice_eq_iff_splits.2 ⟨_, _, start, stop⟩
  refine ⟨_, sliceAt_eq_some startValid stopValid order, lies.str, ?_, copy⟩
  show (offsetBehind before).offsetBy text.startInclusive.offset = _
  rw [lies.start, offsetBehind_append]

/-- A cut within a character has none. -/
example : (sliceAt "é".toSlice 0 ⟨1⟩).isNone = true := by
  decide +kernel

/-! ### Words of a text -/

theorem ne_nil_of_mem_growFirst {character : Char} {words : List (List Char)}
    (notEmpty : ∀ word ∈ words, word ≠ []) : ∀ word ∈ growFirst character words, word ≠ [] := by
  cases words with
  | nil => exact List.forall_mem_singleton.2 (List.cons_ne_nil _ _)
  | cons first rest =>
    exact List.forall_mem_cons.2
      ⟨List.cons_ne_nil _ _, (List.forall_mem_cons.1 notEmpty).2⟩

theorem ne_nil_of_mem_wordsOf (characters : List Char) :
    ∀ word ∈ wordsOf characters, word ≠ [] := by
  fun_induction wordsOf characters with
  | case1 => exact List.forall_mem_nil _
  | case2 _ _ _ inductionHypothesis => exact inductionHypothesis
  | case3 => exact List.forall_mem_singleton.2 (List.cons_ne_nil _ _)
  | case4 _ _ _ _ _ inductionHypothesis =>
    exact List.forall_mem_cons.2 ⟨List.cons_ne_nil _ _, inductionHypothesis⟩
  | case5 _ _ _ _ _ inductionHypothesis => exact ne_nil_of_mem_growFirst inductionHypothesis

theorem flatten_growFirst (character : Char) (words : List (List Char)) :
    (growFirst character words).flatten = character :: words.flatten := by
  cases words <;> rfl

/-- The words of a key hold the letters and the numerals of the key, in their order. -/
theorem flatten_wordsOf (characters : List Char) :
    (wordsOf characters).flatten = characters.filter isLetterOrNumeral := by
  have keep {character : Char} (kept : ¬ (!isLetterOrNumeral character) = true)
      (rest : List Char) : (character :: rest).filter isLetterOrNumeral =
        character :: rest.filter isLetterOrNumeral :=
    List.filter_cons_of_pos (by simpa using kept)
  fun_induction wordsOf characters with
  | case1 => rfl
  | case2 character rest dropped inductionHypothesis =>
    rw [inductionHypothesis, List.filter_cons_of_neg (by simpa using dropped)]
  | case3 character kept => exact (keep kept []).symm
  | case4 character kept _ _ _ inductionHypothesis =>
    rw [List.flatten_cons, inductionHypothesis, keep kept, List.singleton_append]
  | case5 character kept _ _ _ inductionHypothesis =>
    rw [flatten_growFirst, inductionHypothesis, keep kept]

/-- No word holds both of two neighbours: one of them is neither a letter nor a numeral, or the
second is a capital behind a small letter or a digit. -/
def breaks (last next : Char) : Bool :=
  !isLetterOrNumeral last || !isLetterOrNumeral next || (isCapital next && endsSmall last)

/-- All characters are kept, and no word ends among them. -/
structure IsUnbroken (word : List Char) : Prop where
  kept : ∀ character ∈ word, isLetterOrNumeral character = true
  chain : word.IsChain fun last next => breaks last next = false

/-- No word holds both the last of the characters and the first of the rest. -/
def EndsBefore (characters rest : List Char) : Prop :=
  ∀ last ∈ characters.getLast?, ∀ next ∈ rest.head?, breaks last next = true

theorem endsBefore_of_outside {rest : List Char}
    (outside : ∀ next ∈ rest.head?, isLetterOrNumeral next = false) (characters : List Char) :
    EndsBefore characters rest := by
  intro last _ next first
  simp [breaks, outside next first]

theorem endsBefore_concat_iff {last next : Char} (before after : List Char) :
    EndsBefore (before ++ [last]) (next :: after) ↔
      isLetterOrNumeral last = false ∨ isLetterOrNumeral next = false ∨
        isCapital next = true ∧ (isSmall last = true ∨ last.isDigit = true) := by
  simp [EndsBefore, breaks, endsSmall, or_assoc]

/-- What ends before does not matter for what ends here. -/
theorem endsBefore_append_iff {before between after : List Char}
    (ends : EndsBefore before (between ++ after)) :
    EndsBefore (before ++ between) after ↔ EndsBefore between after := by
  cases between with
  | nil =>
    rw [List.append_nil]
    exact iff_of_true ends nofun
  | cons first rest =>
    unfold EndsBefore
    rw [List.getLast?_append_of_ne_nil _ (List.cons_ne_nil _ _)]

theorem wordsOf_dropped {character : Char} (outside : isLetterOrNumeral character = false)
    (rest : List Char) : wordsOf (character :: rest) = wordsOf rest := by
  cases rest <;> simp [wordsOf, outside]

theorem wordsOf_cons_cons {character : Char} (kept : isLetterOrNumeral character = true)
    (next : Char) (rest : List Char) :
    wordsOf (character :: next :: rest) =
      if breaks character next then [character] :: wordsOf (next :: rest)
      else growFirst character (wordsOf (next :: rest)) := by
  rw [wordsOf]
  simp [breaks, kept]

/-- A word that ends before the rest is the first word. -/
theorem wordsOf_append {word rest : List Char} (present : word ≠ []) (unbroken : IsUnbroken word)
    (ends : EndsBefore word rest) : wordsOf (word ++ rest) = word :: wordsOf rest := by
  induction word with
  | nil => exact absurd rfl present
  | cons character more inductionHypothesis =>
    obtain ⟨kept, keptMore⟩ := List.forall_mem_cons.1 unbroken.kept
    cases more with
    | nil =>
      cases rest with
      | nil => simp [wordsOf, kept]
      | cons next later =>
        rw [List.singleton_append, wordsOf_cons_cons kept, if_pos (ends character rfl next rfl)]
    | cons next later =>
      obtain ⟨joined, chain⟩ := List.isChain_cons_cons.1 unbroken.chain
      have goesOn := inductionHypothesis (List.cons_ne_nil _ _) ⟨keptMore, chain⟩ ends
      rw [List.cons_append] at goesOn
      rw [List.cons_append, List.cons_append, wordsOf_cons_cons kept,
        if_neg (Bool.eq_false_iff.1 joined), goesOn, growFirst]

/-! ### Words in a key -/

/-- The slices are the words of the text, which stands in the key right behind the characters before
it. -/
inductive Divides (key : String) : (before text : List Char) → List String.Slice → Prop
  | done (before : List Char) : Divides key before [] []
  | dropped {before rest : List Char} {character : Char} {words : List String.Slice}
      (outside : isLetterOrNumeral character = false)
      (later : Divides key (before ++ [character]) rest words) :
      Divides key before (character :: rest) words
  | word {before word rest : List Char} {slice : String.Slice} {words : List String.Slice}
      (lies : LiesBehind key before word slice) (present : word ≠ []) (unbroken : IsUnbroken word)
      (ends : EndsBefore word rest) (later : Divides key (before ++ word) rest words) :
      Divides key before (word ++ rest) (slice :: words)

/-- The word lies across the place. -/
def RunsAcross (place : String.Pos.Raw) (word : String.Slice) : Prop :=
  word.startInclusive.offset < place ∧ place < word.endExclusive.offset

/-- No word lies across the place. -/
def IsBoundary (words : List String.Slice) (place : String.Pos.Raw) : Prop :=
  ∀ word ∈ words, ¬ RunsAcross place word

/-- The second slice lies behind the first. -/
def InOrder (first second : String.Slice) : Prop :=
  first.endExclusive.offset ≤ second.startInclusive.offset

/-- A place in a text is behind the first word, or before its end. -/
theorem cut_cases {word rest between after : List Char} (split : word ++ rest = between ++ after) :
    (∃ beyond, between = word ++ beyond ∧ rest = beyond ++ after) ∨
      ∃ inner, inner ≠ [] ∧ word = between ++ inner ∧ after = inner ++ rest := by
  rcases List.append_eq_append_iff.1 split with behind | ⟨inner, whole, others⟩
  · exact Or.inl behind
  · by_cases last : inner = []
    · subst last
      exact Or.inl ⟨[], by simp [whole], others.symm⟩
    · exact Or.inr ⟨inner, last, whole, others⟩

theorem LiesBehind.runsAcross {key : String} {before between inner : List Char}
    {slice : String.Slice} (lies : LiesBehind key before (between ++ inner) slice)
    (first : between ≠ []) (last : inner ≠ []) :
    RunsAcross (offsetBehind (before ++ between)) slice := by
  rw [RunsAcross, lies.start, lies.stop, ← List.append_assoc]
  exact ⟨offsetBehind_lt before first, offsetBehind_lt _ last⟩

/-- A word does not lie across a place behind it. -/
theorem LiesBehind.isBoundary_cons_iff {key : String} {before word : List Char}
    {slice : String.Slice} (lies : LiesBehind key before word slice) (words : List String.Slice)
    (beyond : List Char) :
    IsBoundary (slice :: words) (offsetBehind (before ++ (word ++ beyond))) ↔
      IsBoundary words (offsetBehind (before ++ word ++ beyond)) := by
  have apart : ¬ RunsAcross (offsetBehind (before ++ word ++ beyond)) slice := by
    rintro ⟨-, across⟩
    rw [lies.stop] at across
    exact absurd across (Nat.not_lt.2 (offsetBehind_le _ _))
  rw [← List.append_assoc, IsBoundary, List.forall_mem_cons, and_iff_right apart]
  rfl

/-- Each place within an unbroken word lies between two neighbours. -/
theorem IsUnbroken.not_endsBefore {between inner : List Char}
    (unbroken : IsUnbroken (between ++ inner)) (first : between ≠ []) (last : inner ≠ [])
    (rest : List Char) : ¬ EndsBefore between (inner ++ rest) := by
  obtain ⟨_, _, joined⟩ := List.isChain_append.1 unbroken.chain
  obtain ⟨next, more, rfl⟩ := List.exists_cons_of_ne_nil last
  have isLast := List.getLast?_eq_some_getLast first
  intro ends
  have apart := ends _ isLast next rfl
  rw [joined _ isLast next rfl] at apart
  cases apart

namespace Divides

variable {key : String} {before text : List Char} {words : List String.Slice}

theorem str_eq (divides : Divides key before text words) : ∀ word ∈ words, word.str = key := by
  induction divides with
  | done => exact List.forall_mem_nil _
  | dropped _ _ inductionHypothesis => exact inductionHypothesis
  | word lies _ _ _ _ inductionHypothesis =>
    exact List.forall_mem_cons.2 ⟨lies.str, inductionHypothesis⟩

/-- The slices hold the words of the text. -/
theorem map_eq (divides : Divides key before text words) :
    words.map (fun word => word.copy.toList) = wordsOf text := by
  induction divides with
  | done => rfl
  | dropped outside _ inductionHypothesis =>
    rw [inductionHypothesis, wordsOf_dropped outside]
  | word lies present unbroken ends _ inductionHypothesis =>
    rw [wordsOf_append present unbroken ends, List.map_cons, inductionHypothesis, lies.copy,
      String.toList_ofList]

theorem offsetBehind_le_start (divides : Divides key before text words) :
    ∀ word ∈ words, offsetBehind before ≤ word.startInclusive.offset := by
  induction divides with
  | done => exact List.forall_mem_nil _
  | dropped _ _ inductionHypothesis =>
    exact fun word member =>
      String.Pos.Raw.le_trans (offsetBehind_le _ _) (inductionHypothesis word member)
  | word lies _ _ _ _ inductionHypothesis =>
    refine List.forall_mem_cons.2 ⟨?_, fun word member => ?_⟩
    · exact lies.start ▸ String.Pos.Raw.le_refl
    · exact String.Pos.Raw.le_trans (offsetBehind_le _ _) (inductionHypothesis word member)

theorem pairwise_inOrder (divides : Divides key before text words) : words.Pairwise InOrder := by
  induction divides with
  | done => exact .nil
  | dropped _ _ inductionHypothesis => exact inductionHypothesis
  | word lies _ _ _ later inductionHypothesis =>
    refine .cons (fun word member => ?_) inductionHypothesis
    unfold InOrder
    rw [lies.stop]
    exact later.offsetBehind_le_start word member

theorem isBoundary_start (divides : Divides key before text words) :
    IsBoundary words (offsetBehind before) :=
  fun word member across =>
    absurd across.1 (Nat.not_lt.2 (divides.offsetBehind_le_start word member))

/-- No word lies across a place exactly if none goes on from the characters before it into those
behind it. -/
theorem isBoundary_iff (divides : Divides key before text words) {between after : List Char}
    (split : text = between ++ after) :
    IsBoundary words (offsetBehind (before ++ between)) ↔ EndsBefore between after := by
  induction divides generalizing between with
  | done before =>
    obtain ⟨rfl, rfl⟩ := List.append_eq_nil_iff.1 split.symm
    exact iff_of_true (List.forall_mem_nil _) nofun
  | @dropped before rest character words outside later inductionHypothesis =>
    cases between with
    | nil =>
      rw [List.append_nil]
      exact iff_of_true (Divides.dropped outside later).isBoundary_start nofun
    | cons first between =>
      obtain ⟨rfl, rfl⟩ := List.cons.inj split
      have ends : EndsBefore [character] (between ++ after) := by
        intro last here next _
        obtain rfl := Option.some.inj here
        simp [breaks, outside]
      rw [List.append_cons, inductionHypothesis rfl]
      exact (endsBefore_append_iff ends).symm
  | @word before word rest slice words lies present unbroken ends later inductionHypothesis =>
    rcases cut_cases split with ⟨beyond, rfl, rfl⟩ | ⟨inner, last, rfl, rfl⟩
    · rw [lies.isBoundary_cons_iff, endsBefore_append_iff ends]
      exact inductionHypothesis rfl
    · by_cases first : between = []
      · subst first
        rw [List.append_nil]
        exact iff_of_true (Divides.word lies present unbroken ends later).isBoundary_start nofun
      · refine iff_of_false (fun boundary => ?_) (unbroken.not_endsBefore first last rest)
        exact boundary slice List.mem_cons_self (lies.runsAcross first last)

end Divides

/-! ### Cutting -/

theorem IsUnbroken.concat {run : List Char} {character : Char} (unbroken : IsUnbroken run)
    (kept : isLetterOrNumeral character = true)
    (goesOn : ¬ (isCapital character && run.getLast?.any endsSmall) = true) :
    IsUnbroken (run ++ [character]) := by
  refine ⟨List.forall_mem_append.2 ⟨unbroken.kept, List.forall_mem_singleton.2 kept⟩,
    List.isChain_append.2 ⟨unbroken.chain, .singleton character, fun last isLast next first => ?_⟩⟩
  obtain rfl := Option.some.inj first
  have keptLast := unbroken.kept last (List.mem_of_getLast? isLast)
  rw [Option.mem_def.1 isLast] at goesOn
  simpa [breaks, keptLast, kept] using goesOn

theorem endsBefore_of_capital {run : List Char} {character : Char}
    (broken : (isCapital character && run.getLast?.any endsSmall) = true) (rest : List Char) :
    EndsBefore run (character :: rest) := by
  intro last isLast next first
  obtain rfl := Option.some.inj first
  rw [Option.mem_def.1 isLast] at broken
  unfold breaks
  rw [Bool.or_eq_true]
  exact Or.inr broken

/-- The words of a part are cut out of it from where one of them has begun. The part holds that
beginning and the rest, and the other words lie behind it. -/
def CutsWords (key : String) (part : String.Slice) (outer after : List Char)
    (others : List String.Slice) (before run rest : List Char) : Prop :=
  ∃ words, cutWords part (offsetBehind before) (run.getLast?.any endsSmall)
      (withOffsets (offsetBehind (before ++ run)) rest) = some words ∧
    Divides key (outer ++ before) (run ++ rest ++ after) (words ++ others)

section CutsWords

variable {key : String} {part : String.Slice} {outer after before run rest : List Char}
  {others : List String.Slice} {character : Char}

/-- The last word ends with the part. -/
theorem cutsWords_nil (lies : LiesBehind key outer (before ++ run) part) (present : run ≠ [])
    (unbroken : IsUnbroken run) (outside : ∀ next ∈ after.head?, isLetterOrNumeral next = false)
    (later : Divides key (outer ++ (before ++ run)) after others) :
    CutsWords key part outer after others before run [] := by
  have stop := lies.rawEndPos_eq
  rw [← List.append_nil (before ++ run)] at lies
  obtain ⟨word, found, liesWord⟩ := exists_sliceAt lies
  rw [← List.append_assoc] at later
  refine ⟨[word], ?_, ?_⟩
  · rw [withOffsets, cutWords, stop, found]
    rfl
  · rw [List.append_nil]
    exact .word liesWord present unbroken (endsBefore_of_outside outside run) later

/-- A capital behind a small letter or a digit ends a word and begins another. -/
theorem CutsWords.capital (lies : LiesBehind key outer (before ++ run ++ character :: rest) part)
    (unbroken : IsUnbroken run)
    (broken : (isCapital character && run.getLast?.any endsSmall) = true)
    (cuts : CutsWords key part outer after others (before ++ run) [character] rest) :
    CutsWords key part outer after others before run (character :: rest) := by
  obtain ⟨word, found, liesWord⟩ := exists_sliceAt lies
  obtain ⟨words, foundLater, divides⟩ := cuts
  have present : run ≠ [] := by
    rintro rfl
    simp at broken
  refine ⟨word :: words, ?_, ?_⟩
  · rw [withOffsets, cutWords, ← offsetBehind_concat, if_pos broken, found]
    exact congrArg (Option.bind · fun words => some (word :: words)) foundLater
  · rw [← List.append_assoc] at divides
    rw [List.append_assoc]
    exact .word liesWord present unbroken (endsBefore_of_capital broken _) divides

/-- Any other character belongs to the word. -/
theorem CutsWords.inside (goesOn : ¬ (isCapital character && run.getLast?.any endsSmall) = true)
    (cuts : CutsWords key part outer after others before (run ++ [character]) rest) :
    CutsWords key part outer after others before run (character :: rest) := by
  obtain ⟨words, found, divides⟩ := cuts
  refine ⟨words, ?_, ?_⟩
  · rw [List.getLast?_concat, ← List.append_assoc] at found
    rw [withOffsets, cutWords, ← offsetBehind_concat, if_neg goesOn]
    exact found
  · rwa [List.append_cons]

/-- All words of a part are cut out of it. -/
theorem cutsWords (lies : LiesBehind key outer (before ++ run ++ rest) part)
    (present : run ++ rest ≠ []) (unbroken : IsUnbroken run)
    (kept : ∀ character ∈ rest, isLetterOrNumeral character = true)
    (outside : ∀ next ∈ after.head?, isLetterOrNumeral next = false)
    (later : Divides key (outer ++ (before ++ run ++ rest)) after others) :
    CutsWords key part outer after others before run rest := by
  induction rest generalizing before run with
  | nil =>
    rw [List.append_nil] at lies present later
    exact cutsWords_nil lies present unbroken outside later
  | cons character rest inductionHypothesis =>
    obtain ⟨keptHere, keptLater⟩ := List.forall_mem_cons.1 kept
    by_cases broken : (isCapital character && run.getLast?.any endsSmall) = true
    · have begun : IsUnbroken [character] :=
        ⟨List.forall_mem_singleton.2 keptHere, .singleton character⟩
      refine .capital lies unbroken broken ?_
      rw [List.append_cons] at lies later
      exact inductionHypothesis lies (List.cons_ne_nil _ _) begun keptLater later
    · have shift : before ++ run ++ character :: rest =
          before ++ (run ++ [character]) ++ rest := by
        simp
      rw [shift] at lies later
      exact .inside broken
        (inductionHypothesis lies (by simp) (unbroken.concat keptHere broken) keptLater later)

end CutsWords

/-- The words of a part, if it is not empty, come before those of the other parts. -/
theorem exists_wordsOfParts_cons {key : String} {part : String.Slice} {parts : List String.Slice}
    {before run after : List Char} {others : List String.Slice}
    (lies : LiesBehind key before run part)
    (kept : ∀ character ∈ run, isLetterOrNumeral character = true)
    (outside : ∀ next ∈ after.head?, isLetterOrNumeral next = false)
    (found : wordsOfParts parts = some others)
    (later : Divides key (before ++ run) after others) :
    ∃ words, wordsOfParts (part :: parts) = some words ∧
      Divides key before (run ++ after) words := by
  by_cases empty : run = []
  · subst empty
    have dropped : part.isEmpty = true := by
      rw [← String.Slice.copy_eq_empty_iff, lies.copy, String.ofList_nil]
    refine ⟨others, ?_, ?_⟩
    · rwa [wordsOfParts, if_pos dropped]
    · rwa [List.append_nil] at later
  · have inside : part.isEmpty = false := by
      rw [← String.Slice.copy_ne_empty_iff, lies.copy, ne_eq, String.ofList_eq_empty_iff]
      exact empty
    have whole : LiesBehind key before ([] ++ [] ++ run) part := lies
    obtain ⟨words, cut, divides⟩ := cutsWords whole empty ⟨nofun, .nil⟩ kept outside later
    have characters : part.copy.toList = run := by
      rw [lies.copy, String.toList_ofList]
    rw [List.append_nil] at divides
    refine ⟨words ++ others, ?_, divides⟩
    rw [wordsOfParts, inside, if_neg Bool.false_ne_true, characters, found]
    exact congrArg (Option.bind · fun words => some (words ++ others)) cut

/-- The words of a key are cut out of its parts from where one of them has begun. -/
def CutsParts (key : String) (before run rest : List Char) : Prop :=
  ∃ parts words, cutParts key.toSlice (offsetBehind before)
      (withOffsets (offsetBehind (before ++ run)) rest) = some parts ∧
    wordsOfParts parts = some words ∧ Divides key before (run ++ rest) words

section CutsParts

variable {key : String} {before run rest : List Char} {character : Char}

/-- The last part ends with the key. -/
theorem cutsParts_nil (whole : key.toList = before ++ run)
    (kept : ∀ character ∈ run, isLetterOrNumeral character = true) :
    CutsParts key before run [] := by
  have lies : LiesBehind key [] (before ++ run) key.toSlice := whole ▸ liesBehind_toSlice key
  have stop := lies.rawEndPos_eq
  rw [← List.append_nil (before ++ run)] at lies
  obtain ⟨part, found, liesPart⟩ := exists_sliceAt lies
  have nothing : ∀ next ∈ ([] : List Char).head?, isLetterOrNumeral next = false := nofun
  have noWords : wordsOfParts [] = some [] := rfl
  obtain ⟨words, cut, divides⟩ :=
    exists_wordsOfParts_cons liesPart kept nothing noWords (.done _)
  refine ⟨[part], words, ?_, cut, divides⟩
  rw [withOffsets, cutParts, stop, found]
  rfl

/-- A character that is neither a letter nor a numeral ends a part. -/
theorem CutsParts.outside (whole : key.toList = before ++ run ++ character :: rest)
    (kept : ∀ character ∈ run, isLetterOrNumeral character = true)
    (outside : isLetterOrNumeral character = false)
    (cuts : CutsParts key (before ++ run ++ [character]) [] rest) :
    CutsParts key before run (character :: rest) := by
  have lies : LiesBehind key [] (before ++ run ++ character :: rest) key.toSlice :=
    whole ▸ liesBehind_toSlice key
  obtain ⟨part, foundPart, liesPart⟩ := exists_sliceAt lies
  obtain ⟨parts, others, found, cut, divides⟩ := cuts
  rw [List.append_nil] at found
  have later : Divides key ([] ++ before ++ run) (character :: rest) others :=
    .dropped outside divides
  have separated : ∀ next ∈ (character :: rest).head?, isLetterOrNumeral next = false :=
    fun _ first => Option.some.inj first ▸ outside
  obtain ⟨words, cutAll, dividesAll⟩ := exists_wordsOfParts_cons liesPart kept separated cut later
  refine ⟨part :: parts, words, ?_, cutAll, dividesAll⟩
  rw [withOffsets, cutParts, ← offsetBehind_concat, outside, if_neg Bool.false_ne_true, foundPart]
  exact congrArg (Option.bind · fun parts => some (part :: parts)) found

/-- A letter or numeral belongs to the part. -/
theorem CutsParts.inside (kept : isLetterOrNumeral character = true)
    (cuts : CutsParts key before (run ++ [character]) rest) :
    CutsParts key before run (character :: rest) := by
  obtain ⟨parts, words, found, cut, divides⟩ := cuts
  refine ⟨parts, words, ?_, cut, ?_⟩
  · rw [← List.append_assoc] at found
    rw [withOffsets, cutParts, ← offsetBehind_concat, if_pos kept]
    exact found
  · rwa [List.append_cons]

/-- The words of all parts are cut out of the key. -/
theorem cutsParts (whole : key.toList = before ++ run ++ rest)
    (kept : ∀ character ∈ run, isLetterOrNumeral character = true) :
    CutsParts key before run rest := by
  induction rest generalizing before run with
  | nil =>
    rw [List.append_nil] at whole
    exact cutsParts_nil whole kept
  | cons character rest inductionHypothesis =>
    by_cases inside : isLetterOrNumeral character = true
    · refine .inside inside (inductionHypothesis ?_ ?_)
      · rw [whole]
        simp
      · exact List.forall_mem_append.2 ⟨kept, List.forall_mem_singleton.2 inside⟩
    · refine .outside whole kept (Bool.eq_false_iff.2 inside) (inductionHypothesis ?_ nofun)
      rw [whole]
      simp

end CutsParts

/-! ### Keys -/

/-- The words of a key are cut out of it, and no cut is made within a character. The slices lie in
the key one behind the other. They are the words that names are made of, none of them is empty, and
side by side they are the letters and numerals of the key. A word ends between two characters of the
key exactly if one of them is neither a letter nor a numeral, or the second is a capital and the
first a small letter or a digit. -/
theorem slicedWords_isComplete (key : String) :
    ∃ words, slicedWords key = some words ∧
      words.map (fun word => word.copy.toList) = wordsOf key.toList ∧
      (∀ word ∈ words, word.str = key ∧ word.copy ≠ "") ∧
      words.Pairwise InOrder ∧
      words.flatMap (fun word => word.copy.toList) = key.toList.filter isLetterOrNumeral ∧
      ∀ before last next after, key.toList = before ++ last :: next :: after →
        (IsBoundary words (offsetBehind (before ++ [last])) ↔
          isLetterOrNumeral last = false ∨ isLetterOrNumeral next = false ∨
            isCapital next = true ∧ (isSmall last = true ∨ last.isDigit = true)) := by
  have whole : key.toList = [] ++ [] ++ key.toList := rfl
  obtain ⟨parts, words, found, cut, divides⟩ := cutsParts whole nofun
  rw [List.nil_append] at divides
  have sliced : slicedWords key = some words := by
    rw [slicedWords]
    exact (congrArg (Option.bind · wordsOfParts) found).trans cut
  have same := divides.map_eq
  refine ⟨words, sliced, same, fun word member => ⟨divides.str_eq word member, fun empty => ?_⟩,
    divides.pairwise_inOrder, ?_, fun before last next after split => ?_⟩
  · have inWords : word.copy.toList ∈ wordsOf key.toList := same ▸ List.mem_map_of_mem member
    exact ne_nil_of_mem_wordsOf _ _ inWords (by rw [empty, String.toList_empty])
  · rw [← flatten_wordsOf, ← same]
    rfl
  · have halves : key.toList = (before ++ [last]) ++ next :: after := by
      rw [split, List.append_cons]
    rw [← endsBefore_concat_iff before after, ← divides.isBoundary_iff halves, List.nil_append]

/-- The words and the offsets where they start; the first and the last character take two bytes. -/
example :
    (slicedWords "éA2Go__ß").map (·.map fun word =>
        (word.startInclusive.offset.byteIdx, word.copy.toList)) =
      some [(0, ['é']), (2, ['A', '2']), (4, ['G', 'o']), (8, ['ß'])] := by
  decide +kernel

end CurlScribe.Go
