/-
This file cuts a text at a character: once, at its first occurrence, or at every
occurrence. Nothing but the cutting characters is lost, so joining the pieces with the
same character gives the text back.
-/

namespace CurlScribe.Text

/-! ### One cut -/

/-- The parts before and after the first occurrence of `mark`, if there is one. -/
def splitFirst (mark : Char) : List Char → Option (List Char × List Char)
  | [] => none
  | character :: rest =>
    if character = mark then some ([], rest)
    else (splitFirst mark rest).map fun parts => (character :: parts.1, parts.2)

/-- The cut loses only the mark, and the first part holds none. -/
theorem splitFirst_eq_some {mark : Char} {text before after : List Char}
    (found : splitFirst mark text = some (before, after)) :
    text = before ++ mark :: after ∧ mark ∉ before := by
  induction text generalizing before with
  | nil => simp [splitFirst] at found
  | cons character rest inductionHypothesis =>
    unfold splitFirst at found
    split at found
    · rename_i same
      simp only [Option.some.injEq, Prod.mk.injEq] at found
      obtain ⟨rfl, rfl⟩ := found
      simp [same]
    · rename_i different
      obtain ⟨⟨left, right⟩, parts, equal⟩ := Option.map_eq_some_iff.1 found
      simp only [Prod.mk.injEq] at equal
      obtain ⟨rfl, rfl⟩ := equal
      obtain ⟨rfl, absent⟩ := inductionHypothesis parts
      simp [absent, Ne.symm different]

/-- A cut is made at the first mark. -/
theorem splitFirst_append {mark : Char} {before : List Char} (absent : mark ∉ before)
    (after : List Char) : splitFirst mark (before ++ mark :: after) = some (before, after) := by
  induction before with
  | nil => simp [splitFirst]
  | cons character rest inductionHypothesis =>
    obtain ⟨other, absentLater⟩ := List.ne_and_not_mem_of_not_mem_cons absent
    rw [List.cons_append, splitFirst, if_neg (Ne.symm other), inductionHypothesis absentLater]
    rfl

/-- No cut is made exactly where the mark does not occur. -/
theorem splitFirst_eq_none_iff (mark : Char) (text : List Char) :
    splitFirst mark text = none ↔ mark ∉ text := by
  induction text with
  | nil => simp [splitFirst]
  | cons character rest inductionHypothesis =>
    by_cases same : character = mark
    · simp [splitFirst, same]
    · simp [splitFirst, same, inductionHypothesis, Ne.symm same]

/-- `splitFirst` on texts. -/
def cutAt (mark : Char) (text : String) : Option (String × String) :=
  (splitFirst mark text.toList).map fun parts => (String.ofList parts.1, String.ofList parts.2)

/-! ### All cuts -/

/-- The pieces between the occurrences of `mark`; an empty text is one empty piece. -/
def segments (mark : Char) : List Char → List (List Char)
  | [] => [[]]
  | character :: rest =>
    if character = mark then [] :: segments mark rest
    else
      match segments mark rest with
      | [] => [[character]]
      | first :: others => (character :: first) :: others

theorem segments_ne_nil (mark : Char) (text : List Char) : segments mark text ≠ [] := by
  cases text with
  | nil => simp [segments]
  | cons character rest =>
    unfold segments
    split
    · simp
    · split <;> simp

/-- Putting the mark between the pieces gives the text back. -/
theorem intercalate_segments (mark : Char) (text : List Char) :
    [mark].intercalate (segments mark text) = text := by
  induction text with
  | nil => rfl
  | cons character rest inductionHypothesis =>
    unfold segments
    cases pieces : segments mark rest with
    | nil => exact absurd pieces (segments_ne_nil mark rest)
    | cons first others =>
      rw [pieces] at inductionHypothesis
      by_cases same : character = mark
      · simp only [same, if_true]
        rw [← inductionHypothesis]
        simp [List.intercalate, List.intersperse]
      · simp only [same, if_false]
        rw [← inductionHypothesis]
        cases others <;> simp [List.intercalate, List.intersperse]

/-- A text without the mark is one piece. -/
theorem segments_of_not_mem {mark : Char} {text : List Char} (absent : mark ∉ text) :
    segments mark text = [text] := by
  induction text with
  | nil => rfl
  | cons character rest inductionHypothesis =>
    obtain ⟨other, absentLater⟩ := List.ne_and_not_mem_of_not_mem_cons absent
    rw [segments, if_neg (Ne.symm other), inductionHypothesis absentLater]

/-- The first mark ends the first piece. -/
theorem segments_append {mark : Char} {before : List Char} (absent : mark ∉ before)
    (after : List Char) :
    segments mark (before ++ mark :: after) = before :: segments mark after := by
  induction before with
  | nil => exact if_pos rfl
  | cons character rest inductionHypothesis =>
    obtain ⟨other, absentLater⟩ := List.ne_and_not_mem_of_not_mem_cons absent
    rw [List.cons_append, segments, if_neg (Ne.symm other), inductionHypothesis absentLater]

/-- The first piece starts the text, and the mark is not in it. -/
theorem segments_eq_cons {mark : Char} {text first : List Char} {others : List (List Char)}
    (pieces : segments mark text = first :: others) : first <+: text ∧ mark ∉ first := by
  by_cases present : mark ∈ text
  · obtain ⟨before, after, rfl, absent⟩ := List.eq_append_cons_of_mem present
    rw [segments_append absent] at pieces
    obtain ⟨rfl, -⟩ := List.cons.inj pieces
    exact ⟨List.prefix_append _ _, absent⟩
  · rw [segments_of_not_mem present] at pieces
    obtain ⟨rfl, -⟩ := List.cons.inj pieces
    exact ⟨List.prefix_refl _, present⟩

/-! ### Search -/

/-- The characters `needle` stand somewhere in the text, side by side. -/
def mentions (needle : List Char) : List Char → Bool
  | [] => needle.isEmpty
  | character :: rest => needle.isPrefixOf (character :: rest) || mentions needle rest

end CurlScribe.Text
