/-
This file says what becomes of a string with an escaped dollar, one that stands right behind a
backslash. If no other dollar comes before the first escaped one, the expression is a plain literal
for the string without that backslash, whatever dollars follow. If another dollar does come before
it, that dollar counts: the variables of the string are expanded, and every backslash stays.
-/

import CurlScribe.Proofs.StringExpressions

namespace CurlScribe.Go

open Text

/-! ### The first escaped dollar -/

/-- The first escaped dollar of a text stands between the given parts, with its backslash. -/
def MarksFirstEscape (text before after : String) : Prop :=
  text = before ++ "\x5c$" ++ after ∧ ¬ ['\x5c', '$'] <:+: before.toList

theorem exists_first_pair {first second : Char} {text : List Char}
    (there : [first, second] <:+: text) :
    ∃ before after, text = before ++ first :: second :: after ∧
      ¬ [first, second] <:+: before := by
  induction text with
  | nil => exact absurd (List.infix_nil.1 there) (List.cons_ne_nil _ _)
  | cons character rest inductionHypothesis =>
    by_cases here : [first, second] <+: character :: rest
    · obtain ⟨after, whole⟩ := here
      exact ⟨[], after, whole.symm, by simp⟩
    · obtain ⟨before, after, rfl, new⟩ :=
        inductionHypothesis ((List.infix_cons_iff.1 there).resolve_left here)
      refine ⟨character :: before, after, rfl, fun earlier => ?_⟩
      rcases List.infix_cons_iff.1 earlier with start | later
      · exact here (start.trans (List.prefix_append (character :: before) _))
      · exact new later

theorem exists_marksFirstEscape {text : String} (escaped : ['\x5c', '$'] <:+: text.toList) :
    ∃ before after, MarksFirstEscape text before after := by
  obtain ⟨before, after, whole, new⟩ := exists_first_pair escaped
  refine ⟨String.ofList before, String.ofList after, ?_, by simpa using new⟩
  rw [← String.toList_inj, whole]
  simp

/-! ### Other dollars -/

section

variable {text before after : String}

/-- Without a dollar before it, the first escaped dollar is the first of all. -/
theorem MarksFirstEscape.marksFirstDollar (marks : MarksFirstEscape text before after)
    (absent : '$' ∉ before.toList) : MarksFirstDollar text before after :=
  ⟨marks.1, absent⟩

/-- A dollar before the first escaped one is live. -/
theorem MarksFirstEscape.hasLiveDollar (marks : MarksFirstEscape text before after)
    (present : '$' ∈ before.toList) : HasLiveDollar text := by
  obtain ⟨rfl, new⟩ := marks
  refine ⟨by simp, fun front back first => ?_⟩
  obtain ⟨lead, rest, split, early⟩ : ∃ lead rest,
      before.toList = lead ++ '$' :: rest ∧ '$' ∉ lead := by
    cases found : splitFirst '$' before.toList with
    | none => exact absurd present ((splitFirst_eq_none_iff '$' _).1 found)
    | some parts => exact ⟨parts.1, parts.2, splitFirst_eq_some found⟩
  -- The first dollar of the text is that of the part before, so its backslash is there as well.
  have here : splitFirst '$' (before ++ "\x5c$" ++ after).toList =
      some (lead, rest ++ '\x5c' :: '$' :: after.toList) := by
    rw [← splitFirst_append early, String.toList_append, String.toList_append, split]
    simp
  rw [first.splitFirst_eq, Option.some.injEq, Prod.mk.injEq] at here
  refine new ⟨front.toList, rest, ?_⟩
  rw [split, ← here.1]
  simp

/-- The expression for a text with an escaped dollar. Let the first one stand between two parts. If
the part before it has no dollar, the expression is the text in quotes without the one backslash,
and not in a call. If it has one, variables are expanded in the text as it stands. -/
theorem text_ofString_of_escapedDollar (escaped : ['\x5c', '$'] <:+: text.toList) :
    (∃ before after, MarksFirstEscape text before after) ∧
      ∀ before after, MarksFirstEscape text before after →
        ('$' ∉ before.toList →
          (Expression.ofString text).text = quote (before ++ "$" ++ after)) ∧
        ('$' ∈ before.toList →
          (Expression.ofString text).text = "os.ExpandEnv(" ++ quote text ++ ")") := by
  refine ⟨exists_marksFirstEscape escaped, fun before after marks => ⟨fun absent => ?_,
    fun present => ?_⟩⟩
  · obtain ⟨reference, literal⟩ := (marks.marksFirstDollar absent).envReference_eq
    rw [text_ofString, reference, if_neg nofun, literal]
  · have live := (envReference_eq_live_iff text).2 (marks.hasLiveDollar present)
    rw [text_ofString, if_pos live, withoutEscape_of_live live]

end

/-- Of three dollars the first and the last are escaped, and only the first loses its backslash. -/
theorem text_ofString_of_escapedDollar_three :
    let text := "\u00e9\x5c$a$b\x5c$c"
    ['\x5c', '$'] <:+: text.toList ∧ MarksFirstEscape text "\u00e9" "a$b\x5c$c" ∧
      '$' ∉ "\u00e9".toList ∧
      (Expression.ofString text).text = quote ("\u00e9" ++ "$" ++ "a$b\x5c$c") := by
  intro text
  have escaped : ['\x5c', '$'] <:+: text.toList := by decide +kernel
  have marks : MarksFirstEscape text "\u00e9" "a$b\x5c$c" :=
    ⟨by decide +kernel, by decide +kernel⟩
  have absent : '$' ∉ "\u00e9".toList := by decide +kernel
  exact ⟨escaped, marks, absent,
    ((text_ofString_of_escapedDollar escaped).2 _ _ marks).1 absent⟩

/-- A dollar that is not escaped stands first: the string with an escaped dollar is put in a call
and keeps its backslash. -/
theorem text_ofString_ne_of_liveDollar :
    MarksFirstEscape "$a\x5c$b" "$a" "b" ∧
      (Expression.ofString "$a\x5c$b").text = "os.ExpandEnv(\x22$a\x5c\x5c$b\x22)" ∧
      (Expression.ofString "$a\x5c$b").text ≠ quote ("$a" ++ "$" ++ "b") := by
  refine ⟨⟨?_, ?_⟩, ?_, ?_⟩ <;> decide +kernel

end CurlScribe.Go
