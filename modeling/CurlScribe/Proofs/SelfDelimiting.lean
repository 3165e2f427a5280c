/-
This file says when a text that was written for a value can be told from the text behind it.
A way of writing is self-delimiting if the value and what follows can be read off. Texts
between fixed words, pairs of texts, and lists in front of something else keep this. The
quoted strings of generated code are self-delimiting, whatever characters they hold, since a
quote in them follows a backslash; so are the expressions for strings, since a string whose
variables are expanded is wrapped in a call and the others have no dollar that counts.
-/

import CurlScribe.Proofs.EmittedLiterals
import Mathlib.Data.List.Basic

namespace CurlScribe.Go

open Text

/-! ### Reading texts off -/

section

variable {Value : Type} {write : Value → List Char}

/-- Where the texts of two values begin the same text, the values agree, and so do the rests. -/
def Cancels (write : Value → List Char) (first second : Value) : Prop :=
  ∀ ⦃firstRest secondRest : List Char⦄,
    write first ++ firstRest = write second ++ secondRest →
      first = second ∧ firstRest = secondRest

/-- The text of a value tells the value and where it ends. -/
def SelfDelimiting (write : Value → List Char) : Prop :=
  ∀ first second, Cancels write first second

namespace SelfDelimiting

theorem before (delimiting : SelfDelimiting write) (opening : List Char) :
    SelfDelimiting fun value => opening ++ write value := by
  intro first second firstRest secondRest same
  rw [List.append_assoc, List.append_assoc] at same
  exact delimiting first second (List.append_cancel_left same)

theorem behind (delimiting : SelfDelimiting write) (closing : List Char) :
    SelfDelimiting fun value => write value ++ closing := by
  intro first second firstRest secondRest same
  rw [List.append_assoc, List.append_assoc] at same
  obtain ⟨values, rests⟩ := delimiting first second same
  exact ⟨values, List.append_cancel_left rests⟩

end SelfDelimiting

/-- Values in front of texts that do not start with a value can be read off one by one. -/
theorem flatMap_cancel {firstValues secondValues : List Value} {firstRest secondRest : List Char}
    (cancels : ∀ first ∈ firstValues, ∀ second ∈ secondValues, Cancels write first second)
    (firstOther : ∀ value ∈ secondValues, ¬ write value <+: firstRest)
    (secondOther : ∀ value ∈ firstValues, ¬ write value <+: secondRest)
    (same : firstValues.flatMap write ++ firstRest = secondValues.flatMap write ++ secondRest) :
    firstValues = secondValues ∧ firstRest = secondRest := by
  induction firstValues generalizing secondValues with
  | nil =>
    cases secondValues with
    | nil => exact ⟨rfl, same⟩
    | cons value later =>
      rw [List.flatMap_cons, List.append_assoc] at same
      exact absurd ⟨_, same.symm⟩ (firstOther value List.mem_cons_self)
  | cons value later inductionHypothesis =>
    obtain ⟨other, otherLater⟩ := List.forall_mem_cons.1 secondOther
    cases secondValues with
    | nil =>
      rw [List.flatMap_cons, List.append_assoc] at same
      exact absurd ⟨_, same⟩ other
    | cons next following =>
      rw [List.flatMap_cons, List.flatMap_cons, List.append_assoc, List.append_assoc] at same
      obtain ⟨rfl, rests⟩ := cancels value List.mem_cons_self next List.mem_cons_self same
      obtain ⟨rfl, ends⟩ := inductionHypothesis
        (fun first member second among => cancels first (List.mem_cons_of_mem _ member) second
          (List.mem_cons_of_mem _ among))
        (fun value member => firstOther value (List.mem_cons_of_mem _ member)) otherLater rests
      exact ⟨rfl, ends⟩

/-- A list does not start with a text if neither one of its values nor what follows does. -/
theorem not_prefix_flatMap {text rest : List Char} {values : List Value}
    (value : ∀ value ∈ values, ∀ more, ¬ text <+: write value ++ more) (behind : ¬ text <+: rest) :
    ¬ text <+: values.flatMap write ++ rest := by
  cases values with
  | nil => exact behind
  | cons first later =>
    rw [List.flatMap_cons, List.append_assoc]
    exact value first List.mem_cons_self _

end

/-- Neither of two texts begins the other. -/
def Apart (first second : List Char) : Prop :=
  ¬ first <+: second ∧ ¬ second <+: first

instance (first second : List Char) : Decidable (Apart first second) :=
  inferInstanceAs (Decidable (_ ∧ _))

theorem Apart.not_prefix {first second : List Char} (apart : Apart first second)
    (firstRest secondRest : List Char) : ¬ first ++ firstRest <+: second ++ secondRest := by
  intro begins
  have within := (List.prefix_append first firstRest).trans begins
  rcases List.prefix_or_prefix_of_prefix within (List.prefix_append _ _) with short | long
  · exact apart.1 short
  · exact apart.2 long

theorem Apart.append_ne {first second : List Char} (apart : Apart first second)
    (firstRest secondRest : List Char) : first ++ firstRest ≠ second ++ secondRest :=
  fun same => apart.not_prefix firstRest secondRest (same ▸ List.prefix_rfl)

/-! ### Quoted strings -/

theorem selfDelimiting_quotedCharacter : SelfDelimiting quotedCharacter := by
  intro first second firstRest secondRest same
  unfold quotedCharacter at same
  split_ifs at same with firstSpecial secondSpecial secondSpecial
  · simpa using same
  · exact absurd (Or.inl (List.cons.inj same).1.symm) secondSpecial
  · exact absurd (Or.inl (List.cons.inj same).1) firstSpecial
  · exact List.cons.inj same

/-- The quote that ends a string is not a character of the string. -/
theorem not_prefix_quote (character : Char) (rest : List Char) :
    ¬ quotedCharacter character <+: '\x22' :: rest := by
  rintro ⟨later, same⟩
  unfold quotedCharacter at same
  split_ifs at same with special
  · exact absurd (List.cons.inj same).1 (by decide)
  · exact absurd (Or.inr (List.cons.inj same).1) special

theorem selfDelimiting_quote : SelfDelimiting fun text : String => (quote text).toList := by
  intro first second firstRest secondRest same
  unfold quote enclose at same
  simp only [String.toList_ofList, List.cons_append, List.append_assoc, List.nil_append,
    List.cons.injEq, true_and] at same
  obtain ⟨characters, rests⟩ := flatMap_cancel
    (fun first _ second _ => selfDelimiting_quotedCharacter first second)
    (fun _ _ => not_prefix_quote _ _) (fun _ _ => not_prefix_quote _ _) same
  exact ⟨String.toList_inj.1 characters, (List.cons.inj rests).2⟩

/-! ### Strings with variables -/

/-- The expression for a string as it is written. -/
def stringText (value : String) : List Char :=
  (Expression.ofString value).text.toList

/-- A string is written quoted, and inside a call if variables have to be expanded in it. -/
theorem stringText_eq (value : String) :
    stringText value =
      if envReference value = .live then
        "os.ExpandEnv(".toList ++ ((quote value).toList ++ ")".toList)
      else (quote (withoutEscape value)).toList := by
  unfold stringText Expression.ofString
  cases reference : envReference value with
  | absent => simp [Expression.text, withoutEscape_of_absent reference]
  | escaped offset => simp [Expression.text]
  | live =>
    simp [Expression.text, Expression.texts, Expression.callOf, Package.qualifier]

/-- A string without a dollar that counts has none, or its first one follows a backslash, which the
literal leaves out. -/
theorem plain_cases {text : String} (plain : envReference text ≠ .live) :
    ('$' ∉ text.toList ∧ withoutEscape text = text) ∨
      ∃ before after, '$' ∉ before ∧ text.toList = before ++ '\x5c' :: '$' :: after ∧
        (withoutEscape text).toList = before ++ '$' :: after := by
  unfold envReference at plain
  unfold withoutEscape
  split at plain
  · rename_i missing
    exact Or.inl ⟨(splitFirst_eq_none_iff '$' _).1 missing, rfl⟩
  · rename_i before after found
    split_ifs at plain with escaped
    · obtain ⟨equal, absent⟩ := splitFirst_eq_some found
      obtain ⟨front, rfl⟩ := List.getLast?_eq_some_iff.1 escaped
      refine Or.inr ⟨front, after, fun member => absent (List.mem_append_left _ member), ?_, ?_⟩
      · rw [equal, List.append_assoc]
        rfl
      · simp
    · exact absurd rfl plain

/-- A string without a dollar that counts can be told from the string that is quoted for it. -/
theorem withoutEscape_inj {first second : String} (firstPlain : envReference first ≠ .live)
    (secondPlain : envReference second ≠ .live)
    (same : withoutEscape first = withoutEscape second) : first = second := by
  have dollars : '$' ∈ first.toList ↔ '$' ∈ second.toList := by
    rw [← mem_withoutEscape_iff (by decide), same, mem_withoutEscape_iff (by decide)]
  rcases plain_cases firstPlain with
    ⟨absent, firstKept⟩ | ⟨before, after, new, firstEqual, firstKept⟩
  · rcases plain_cases secondPlain with ⟨-, secondKept⟩ | ⟨_, _, _, secondEqual, _⟩
    · rw [← firstKept, same, secondKept]
    · refine absurd (dollars.2 ?_) absent
      simp [secondEqual]
  · rcases plain_cases secondPlain with
      ⟨absent, -⟩ | ⟨otherBefore, otherAfter, otherNew, secondEqual, secondKept⟩
    · refine absurd (dollars.1 ?_) absent
      simp [firstEqual]
    · have parts : before ++ '$' :: after = otherBefore ++ '$' :: otherAfter := by
        rw [← firstKept, same, secondKept]
      have split := splitFirst_append new after
      rw [parts, splitFirst_append otherNew] at split
      obtain ⟨rfl, rfl⟩ := Prod.mk.inj (Option.some.inj split)
      exact String.toList_inj.1 (firstEqual.trans secondEqual.symm)

theorem selfDelimiting_stringText : SelfDelimiting stringText := by
  have wrapped : SelfDelimiting fun value : String =>
      "os.ExpandEnv(".toList ++ ((quote value).toList ++ ")".toList) :=
    (selfDelimiting_quote.behind _).before _
  have apart : ∀ (value rest : List Char), "os.ExpandEnv(".toList ++ value ≠ '\x22' :: rest :=
    fun value rest same => absurd (List.cons.inj same).1 (by decide)
  have quoted : ∀ (value : String) (rest : List Char), ∃ more,
      (quote value).toList ++ rest = '\x22' :: more := by
    intro value rest
    refine ⟨escapeQuotes value.toList ++ ['\x22'] ++ rest, ?_⟩
    rw [quote, enclose, String.toList_ofList]
    rfl
  intro first second firstRest secondRest same
  rw [stringText_eq, stringText_eq] at same
  split_ifs at same with firstLive secondLive secondLive
  · exact wrapped first second same
  · obtain ⟨more, begins⟩ := quoted (withoutEscape second) secondRest
    rw [begins, List.append_assoc] at same
    exact absurd same (apart _ _)
  · obtain ⟨more, begins⟩ := quoted (withoutEscape first) firstRest
    rw [begins, List.append_assoc] at same
    exact absurd same.symm (apart _ _)
  · obtain ⟨values, rests⟩ := selfDelimiting_quote _ _ same
    exact ⟨withoutEscape_inj firstLive secondLive values, rests⟩

/-- Two strings between fixed words tell a value that they determine. -/
theorem selfDelimiting_strings {Value : Type} (first second : Value → String)
    (determined : ∀ value other, first value = first other → second value = second other →
      value = other) (opening between closing : List Char) :
    SelfDelimiting fun value => opening ++ (stringText (first value) ++ (between ++
      (stringText (second value) ++ closing))) := by
  intro value other rest otherRest same
  simp only [List.append_assoc] at same
  obtain ⟨firsts, later⟩ := selfDelimiting_stringText _ _ (List.append_cancel_left same)
  obtain ⟨seconds, ends⟩ := selfDelimiting_stringText _ _ (List.append_cancel_left later)
  exact ⟨determined value other firsts seconds, List.append_cancel_left ends⟩

end CurlScribe.Go
