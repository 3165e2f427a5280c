/-
This file proves that the customary form of a header name stands for all names that differ from
it in the case of ASCII letters. Two names have the same form exactly if they have the same
letters at the same places, and the form itself is one of these names.

The words of a name are its longest runs of letters, digits and underscores. A change of case
moves no end of a run, so a character takes its form from the character before it alone.
-/

import CurlScribe.Proofs.HeaderNames
import Mathlib.Data.List.Forall2

namespace CurlScribe

open Text

/-! ### The same letters -/

/-- The characters are the same, or they are an ASCII letter and its other case. -/
inductive SameLetter : Char → Char → Prop
  | same (character : Char) : SameLetter character character
  | raised {place : Nat} (within : place < 26) :
      SameLetter (Char.ofNat ('a'.toNat + place)) (Char.ofNat ('A'.toNat + place))
  | lowered {place : Nat} (within : place < 26) :
      SameLetter (Char.ofNat ('A'.toNat + place)) (Char.ofNat ('a'.toNat + place))

/-- The names have the same letters, place by place. -/
def SameLetters (first second : String) : Prop :=
  List.Forall₂ SameLetter first.toList second.toList

/-- Only the capitals change when letters are lowered. -/
theorem toLower_cases (character : Char) :
    character.toLower = character ∨ ∃ place < 26, character = Char.ofNat ('A'.toNat + place) ∧
      character.toLower = Char.ofNat ('a'.toNat + place) := by
  refine forall_of_ascii ?_ (fun character large => Or.inl (toLower_of_large large)) character
  decide +kernel

theorem toLower_letters {place : Nat} (within : place < 26) :
    (Char.ofNat ('a'.toNat + place)).toLower = Char.ofNat ('a'.toNat + place) ∧
      (Char.ofNat ('A'.toNat + place)).toLower = Char.ofNat ('a'.toNat + place) := by
  revert place
  decide

theorem letter_injective {place other : Nat} (within : place < 26) (withinOther : other < 26)
    (same : Char.ofNat ('a'.toNat + place) = Char.ofNat ('a'.toNat + other)) : place = other := by
  have all : ∀ place < 26, ∀ other < 26,
      Char.ofNat ('a'.toNat + place) = Char.ofNat ('a'.toNat + other) → place = other := by
    decide
  exact all place within other withinOther same

theorem sameLetter_iff {first second : Char} :
    SameLetter first second ↔ first.toLower = second.toLower := by
  constructor
  · intro same
    cases same with
    | same => rfl
    | raised within => rw [(toLower_letters within).1, (toLower_letters within).2]
    | lowered within => rw [(toLower_letters within).1, (toLower_letters within).2]
  · intro same
    rcases toLower_cases first with small | ⟨place, within, rfl, small⟩ <;>
      rcases toLower_cases second with smallOther | ⟨other, withinOther, rfl, smallOther⟩ <;>
      rw [small, smallOther] at same
    · exact same ▸ .same first
    · exact same ▸ .raised withinOther
    · exact same ▸ .lowered within
    · exact letter_injective within withinOther same ▸ .same _

/-- Names have the same letters if and only if they are compared as the same. -/
theorem sameLetters_iff {first second : String} :
    SameLetters first second ↔ lowered first = lowered second := by
  have relation : SameLetter = fun small other => small.toLower = other.toLower :=
    funext fun _ => funext fun _ => propext sameLetter_iff
  unfold SameLetters
  rw [lowered, lowered, String.ofList_inj, ← List.forall₂_eq_eq_eq, List.forall₂_map_left_iff,
    List.forall₂_map_right_iff, relation]

/-! ### Places in the customary form -/

/-- The form of a character, by the one before it: a word begins with a capital and goes on in small
letters. -/
def casedBehind (before : Option Char) (character : Char) : Char :=
  if isNameCharacter character then
    if before.any isNameCharacter then character.toLower else character.toUpper
  else character

theorem titleFrom_cons (inWord : Bool) (character : Char) (rest : List Char) :
    titleFrom inWord (character :: rest) =
      (if isNameCharacter character then
        if inWord then character.toLower else character.toUpper
      else character) :: titleFrom (isNameCharacter character) rest := by
  rw [titleFrom]
  split_ifs with word
  · rw [word]
  · rw [word]
  · rw [Bool.eq_false_iff.2 word]

theorem getElem?_titleFrom (before : Option Char) (name : List Char) (place : Nat) :
    (titleFrom (before.any isNameCharacter) name)[place]? =
      name[place]?.map (casedBehind (before.toList ++ name.take place).getLast?) := by
  induction name generalizing before place with
  | nil => rfl
  | cons character rest inductionHypothesis =>
    rw [titleFrom_cons]
    cases place with
    | zero => cases before <;> rfl
    | succ place =>
      have later := inductionHypothesis (some character) place
      rw [List.getElem?_cons_succ, List.getElem?_cons_succ, List.take_succ_cons,
        List.getLast?_append_of_ne_nil _ (List.cons_ne_nil _ _)]
      exact later

/-! ### Canonical names -/

/-- Names have the same customary form if and only if they have the same letters, and the form is
such a name itself: it is its own form, and it is compared as the name is. Place by place, the
character before decides the case of the next. -/
theorem titleCase_isCanonical (first second : String) :
    (titleCase first = titleCase second ↔ SameLetters first second) ∧
      titleCase (titleCase first) = titleCase first ∧
      SameLetters first (titleCase first) ∧
      (∀ place, (titleCase first).toList[place]? =
        first.toList[place]?.map (casedBehind (first.toList.take place).getLast?)) ∧
      lowered (titleCase first) = lowered first := by
  refine ⟨?_, ?_, ?_, fun place => ?_, lowered_titleCase first⟩
  · rw [sameLetters_iff]
    constructor
    · intro same
      rw [← lowered_titleCase first, same, lowered_titleCase second]
    · exact titleCase_eq_of_lowered_eq
  · exact titleCase_eq_of_lowered_eq (lowered_titleCase first)
  · exact sameLetters_iff.2 (lowered_titleCase first).symm
  · rw [titleCase, String.toList_ofList]
    exact getElem?_titleFrom none first.toList place

/-- Digits and underscores belong to words, other characters end them. -/
example : titleCase "x_TOKEN-2fa É-aé" = "X_token-2fa É-Aé" := by
  decide

end CurlScribe
