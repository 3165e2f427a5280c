/-
This file proves what looking up a header rests on. The customary form of a name changes the
case of ASCII letters and nothing else, so a header that is set under a name answers to that
name, and to every name that differs from it in the case of ASCII letters.
-/

import CurlScribe.Request.Headers
import Mathlib.Tactic.SplitIfs

namespace CurlScribe

open Text

/-! ### The case of letters -/

theorem toUpper_of_large {character : Char} (large : ¬ character.toNat < 128) :
    character.toUpper = character :=
  dif_neg fun small => large (Nat.lt_of_le_of_lt (UInt32.le_iff_toNat_le.1 small.2) (by decide))

theorem toLower_of_large {character : Char} (large : ¬ character.toNat < 128) :
    character.toLower = character :=
  dif_neg fun small => large (Nat.lt_of_le_of_lt (UInt32.le_iff_toNat_le.1 small.2) (by decide))

/-- What holds of all characters beyond ASCII holds of all if it holds of the first 128. -/
@[elab_as_elim] theorem forall_of_ascii {holds : Char → Prop}
    (small : ∀ point < 128, holds (Char.ofNat point))
    (large : ∀ character : Char, ¬ character.toNat < 128 → holds character) (character : Char) :
    holds character := by
  by_cases within : character.toNat < 128
  · rw [← Char.ofNat_toNat character]
    exact small _ within
  · exact large character within

/-- A letter that was raised or lowered first is lowered to the same letter. -/
theorem toLower_recased (character : Char) :
    character.toUpper.toLower = character.toLower ∧
      character.toLower.toLower = character.toLower := by
  refine forall_of_ascii ?_ (fun character large => ?_) character
  · decide +kernel
  · rw [toUpper_of_large large, toLower_of_large large, toLower_of_large large]
    exact ⟨rfl, rfl⟩

theorem map_toLower_titleFrom (inWord : Bool) (name : List Char) :
    (titleFrom inWord name).map Char.toLower = name.map Char.toLower := by
  induction name generalizing inWord with
  | nil => rfl
  | cons character rest inductionHypothesis =>
    obtain ⟨raised, lowered⟩ := toLower_recased character
    rw [titleFrom]
    split_ifs <;> simp only [List.map_cons, inductionHypothesis, raised, lowered]

/-- The customary form of a name is compared as the name itself is. -/
theorem lowered_titleCase (name : String) : lowered (titleCase name) = lowered name := by
  simp only [lowered, titleCase, String.toList_ofList, map_toLower_titleFrom]

/-- Lowering a letter changes neither what it is raised to nor whether it belongs to a word, and
what belongs to no word is no letter. -/
theorem toUpper_toLower (character : Char) :
    character.toLower.toUpper = character.toUpper ∧
      isNameCharacter character.toLower = isNameCharacter character ∧
      (isNameCharacter character = false → character.toLower = character) := by
  refine forall_of_ascii ?_ (fun character large => ?_) character
  · decide +kernel
  · rw [toLower_of_large large]
    exact ⟨rfl, rfl, fun _ => rfl⟩

theorem titleFrom_map_toLower (inWord : Bool) (name : List Char) :
    titleFrom inWord (name.map Char.toLower) = titleFrom inWord name := by
  induction name generalizing inWord with
  | nil => rfl
  | cons character rest inductionHypothesis =>
    obtain ⟨raised, word, other⟩ := toUpper_toLower character
    rw [List.map_cons, titleFrom, titleFrom, word, raised, (toLower_recased character).2,
      inductionHypothesis, inductionHypothesis]
    split_ifs with belongs
    · rfl
    · rfl
    · rw [other (Bool.eq_false_iff.2 belongs)]

/-- Names that are compared as the same have the same customary form. -/
theorem titleCase_eq_of_lowered_eq {first second : String}
    (same : lowered first = lowered second) : titleCase first = titleCase second := by
  have characters := String.ofList_injective same
  rw [titleCase, ← titleFrom_map_toLower, characters, titleFrom_map_toLower, titleCase]

/-! ### Headers that are set -/

theorem answersTo_titleCase (name value : String) :
    (Header.mk (titleCase name) value).answersTo name = true :=
  beq_iff_eq.2 (lowered_titleCase name)

theorem find?_setIn_self (name value : String) (headers : List Header) :
    (Headers.setIn name value headers).find? (·.answersTo name) =
      some ⟨titleCase name, value⟩ := by
  induction headers with
  | nil => exact List.find?_cons_of_pos (answersTo_titleCase name value)
  | cons header rest inductionHypothesis =>
    rw [Headers.setIn]
    split_ifs with here
    · exact List.find?_cons_of_pos (answersTo_titleCase name value)
    · rw [List.find?_cons, Bool.eq_false_iff.2 here]
      exact inductionHypothesis

/-- A header that is set has the value that it was given. -/
theorem Headers.get?_set_self (headers : Headers) (name value : String) :
    (headers.set name value).get? name = some value :=
  congrArg (Option.map Header.value) (find?_setIn_self name value headers.entries)

/-- A header is there if and only if it has a value. -/
theorem Headers.contains_eq_isSome (headers : Headers) (name : String) :
    headers.contains name = (headers.get? name).isSome := by
  rw [Headers.get?, Option.isSome_map, Bool.eq_iff_iff, Headers.find?, List.find?_isSome,
    Headers.contains, List.any_eq_true]

end CurlScribe
