/-
This file proves what the map of options holds once a command is read. Options that take no
value and options that take one are written into the same map, the first by setting a switch
and the second by adding to a list, and neither ever meets an entry of the other kind: a name
alone decides which it is. So no value is dropped because a switch stands in its place, and
no list of values is replaced by a switch.

The map of a stretch of a command says of each name whether it occurs there or which values
it has there, and every part that is recorded keeps it so.
-/

import CurlScribe.Proofs.Flags
import CurlScribe.Proofs.Occurrences
import Mathlib.Data.List.Nodup

namespace CurlScribe

open FlagValue (join)

variable {isSwitch : String → Bool}

/-! ### Switches -/

theorem Part.given_eq_some_iff_of_switch {part : Part} (suits : part.Suits isSwitch)
    {name : String} (switch : isSwitch name = true) (given : FlagValue) :
    part.given name = some given ↔ given = .switch ∧ part = .switch name := by
  cases part with
  | word text => exact ⟨nofun, fun both => Part.noConfusion both.2⟩
  | switch option =>
    rw [Part.given, Option.ite_none_right_eq_some, Part.switch.injEq, Option.some.injEq]
    exact ⟨fun both => ⟨both.2.symm, both.1⟩, fun both => ⟨both.2, both.1.symm⟩⟩
  | value option text =>
    have other : option ≠ name := by
      rintro rfl
      exact Bool.noConfusion (switch.symm.trans suits)
    rw [Part.given, if_neg other]
    exact ⟨nofun, fun both => Part.noConfusion both.2⟩

/-- What parts give for a switch is whether it occurs among them. -/
theorem givenBy_eq_some_iff_of_switch {parts : List Part}
    (suits : ∀ part ∈ parts, part.Suits isSwitch) {name : String}
    (switch : isSwitch name = true) (given : FlagValue) :
    givenBy name parts = some given ↔ given = .switch ∧ .switch name ∈ parts := by
  induction parts with
  | nil => exact ⟨nofun, fun both => absurd both.2 List.not_mem_nil⟩
  | cons part later inductionHypothesis =>
    obtain ⟨here, there⟩ := List.forall_mem_cons.1 suits
    have first := Part.given_eq_some_iff_of_switch here switch
    rw [givenBy, List.mem_cons]
    cases present : part.given name with
    | none =>
      have other : .switch name ≠ part := fun same =>
        Option.some_ne_none _ (((first .switch).2 ⟨rfl, same.symm⟩).symm.trans present)
      rw [FlagValue.join_none_left, inductionHypothesis there, or_iff_right other]
    | some value =>
      obtain ⟨rfl, rfl⟩ := (first value).1 present
      rw [FlagValue.join_switch_left, Option.some.injEq, eq_comm]
      exact ⟨fun same => ⟨same, Or.inl rfl⟩, And.left⟩

/-- A switch that is given at all is given as a switch. -/
theorem givenBy_of_suits {parts : List Part} (suits : ∀ part ∈ parts, part.Suits isSwitch)
    {name : String} (switch : isSwitch name = true) :
    givenBy name parts = none ∨ givenBy name parts = some .switch := by
  cases present : givenBy name parts with
  | none => exact Or.inl rfl
  | some given =>
    obtain ⟨rfl, -⟩ := (givenBy_eq_some_iff_of_switch suits switch given).1 present
    exact Or.inr rfl

/-! ### Values -/

/-- The value of a part, if it is one of the given option. -/
def Part.valueOf? (name : String) : Part → Option String
  | .value option text => if option = name then some text else none
  | _ => none

/-- The values of an option among parts, in order of appearance. -/
def valuesOf (name : String) (parts : List Part) : List String :=
  parts.filterMap (Part.valueOf? name)

/-- What is given for an option that has these values. -/
def FlagValue.ofTexts : List String → Option FlagValue
  | [] => none
  | texts => some (.values texts)

theorem FlagValue.join_ofTexts (earlier later : List String) :
    join (ofTexts earlier) (ofTexts later) = ofTexts (earlier ++ later) := by
  cases earlier with
  | nil => exact FlagValue.join_none_left _
  | cons first others =>
    cases later with
    | nil =>
      rw [List.append_nil]
      exact FlagValue.join_none_right _
    | cons text texts => rfl

theorem FlagValue.ofTexts_eq_some_iff (texts : List String) (given : FlagValue) :
    ofTexts texts = some given ↔ given = .values texts ∧ texts ≠ [] := by
  cases texts with
  | nil => exact ⟨nofun, fun both => absurd rfl both.2⟩
  | cons text others =>
    exact ⟨fun same => ⟨(Option.some.inj same).symm, nofun⟩, fun both => both.1 ▸ rfl⟩

theorem Part.given_eq_ofTexts {part : Part} (suits : part.Suits isSwitch) {name : String}
    (valued : isSwitch name = false) :
    part.given name = FlagValue.ofTexts (part.valueOf? name).toList := by
  cases part with
  | word text => rfl
  | switch option =>
    refine if_neg ?_
    rintro rfl
    exact Bool.noConfusion (valued.symm.trans suits)
  | value option text =>
    rw [Part.given, Part.valueOf?]
    split_ifs
    · rfl
    · rfl

/-- What parts give for an option with values is every one of its values, in order. -/
theorem givenBy_eq_ofTexts {parts : List Part} (suits : ∀ part ∈ parts, part.Suits isSwitch)
    {name : String} (valued : isSwitch name = false) :
    givenBy name parts = FlagValue.ofTexts (valuesOf name parts) := by
  induction parts with
  | nil => rfl
  | cons part later inductionHypothesis =>
    obtain ⟨here, there⟩ := List.forall_mem_cons.1 suits
    rw [givenBy, Part.given_eq_ofTexts here valued, inductionHypothesis there,
      FlagValue.join_ofTexts, valuesOf, valuesOf, List.filterMap_cons]
    cases part.valueOf? name <;> rfl

/-! ### Names -/

/-- The names of the options. -/
def Flags.names (flags : Flags) : List String :=
  flags.entries.map Prod.fst

theorem Flags.lookIn_eq_none_iff (name : String) (entries : List (String × FlagValue)) :
    Flags.lookIn name entries = none ↔ name ∉ entries.map Prod.fst := by
  induction entries with
  | nil => exact ⟨fun _ => List.not_mem_nil, fun _ => rfl⟩
  | cons entry rest inductionHypothesis =>
    rw [Flags.lookIn, List.map_cons, List.mem_cons, not_or, ← inductionHypothesis]
    split_ifs with here
    · exact iff_of_false not_false fun both => both.1 here.symm
    · exact ⟨fun missing => ⟨Ne.symm here, missing⟩, fun both => both.2⟩

theorem Flags.get?_eq_none_iff (flags : Flags) (name : String) :
    flags.get? name = none ↔ name ∉ flags.names :=
  Flags.lookIn_eq_none_iff name flags.entries

theorem Flags.names_putIn (name : String) (value : FlagValue)
    (entries : List (String × FlagValue)) :
    (Flags.putIn name value entries).map Prod.fst =
      if name ∈ entries.map Prod.fst then entries.map Prod.fst
      else entries.map Prod.fst ++ [name] := by
  induction entries with
  | nil => rfl
  | cons entry rest inductionHypothesis =>
    rw [Flags.putIn]
    by_cases here : entry.1 = name
    · simp [here]
    · rw [if_neg here, List.map_cons, List.map_cons, inductionHypothesis]
      simp only [List.mem_cons, Ne.symm here, false_or]
      split_ifs
      · rfl
      · rfl

/-- A name that is put keeps its place, or comes last if it is new. -/
theorem Flags.names_put (flags : Flags) (name : String) (value : FlagValue) :
    (flags.put name value).names =
      if name ∈ flags.names then flags.names else flags.names ++ [name] :=
  Flags.names_putIn name value flags.entries

theorem Flags.nodup_names_put {flags : Flags} (distinct : flags.names.Nodup) (name : String)
    (value : FlagValue) : (flags.put name value).names.Nodup := by
  rw [Flags.names_put]
  split_ifs with there
  · exact distinct
  · rw [← List.concat_eq_append]
    exact distinct.concat there

theorem Flags.nodup_names_record {flags : Flags} (distinct : flags.names.Nodup) (part : Part) :
    (flags.record part).names.Nodup := by
  cases part with
  | word text => exact distinct
  | switch name => exact Flags.nodup_names_put distinct name .switch
  | value name text =>
    rw [Flags.record, Flags.addValue]
    split
    · exact Flags.nodup_names_put distinct name _
    · exact Flags.nodup_names_put distinct name _
    · exact distinct

/-- No name is recorded twice. -/
theorem Flags.nodup_names_foldl (parts : List Part) {flags : Flags}
    (distinct : flags.names.Nodup) : (parts.foldl Flags.record flags).names.Nodup := by
  induction parts generalizing flags with
  | nil => exact distinct
  | cons part later inductionHypothesis =>
    exact inductionHypothesis (Flags.nodup_names_record distinct part)

/-! ### The map -/

/-- The map tells of each name what the parts say: a name has one entry at most and is not empty, a
switch is there if it occurs, and any other option is there with the list of its values, in order of
appearance, unless there are none. -/
structure Tells (isSwitch : String → Bool) (parts : List Part) (flags : Flags) : Prop where
  distinct : flags.names.Nodup
  named : "" ∉ flags.names
  switch_iff : ∀ name, isSwitch name = true → ∀ given,
    flags.get? name = some given ↔ given = .switch ∧ .switch name ∈ parts
  values_iff : ∀ name, isSwitch name = false → ∀ given,
    flags.get? name = some given ↔ given = .values (valuesOf name parts) ∧ valuesOf name parts ≠ []

/-- While parts are recorded one after another, no value finds a switch under its name, where it
would be dropped, and no switch finds values, which it would replace. -/
structure NothingLost (parts : List Part) : Prop where
  value : ∀ earlier name text later, parts = earlier ++ .value name text :: later →
    (earlier.foldl Flags.record {}).get? name ≠ some .switch
  switch : ∀ earlier name later, parts = earlier ++ .switch name :: later →
    ∀ texts, (earlier.foldl Flags.record {}).get? name ≠ some (.values texts)

theorem Part.given_of_isNamed {part : Part} (named : part.IsNamed) : part.given "" = none := by
  cases part with
  | word text => rfl
  | switch name => exact if_neg named
  | value name text => exact if_neg named

theorem get?_foldl_empty (parts : List Part) (name : String) :
    (parts.foldl Flags.record {}).get? name = givenBy name parts :=
  (Flags.get?_foldl_record {} parts name).trans (FlagValue.join_none_left _)

/-- Parts that suit their options are told by the map they are recorded in. -/
theorem tells_foldl {parts : List Part} (suits : ∀ part ∈ parts, part.Suits isSwitch)
    (named : ∀ part ∈ parts, part.IsNamed) :
    Tells isSwitch parts (parts.foldl Flags.record {}) where
  distinct := Flags.nodup_names_foldl parts List.nodup_nil
  named := by
    rw [← Flags.get?_eq_none_iff, get?_foldl_empty, givenBy_eq_none_iff]
    exact fun part member => Part.given_of_isNamed (named part member)
  switch_iff name switch given := by
    rw [get?_foldl_empty]
    exact givenBy_eq_some_iff_of_switch suits switch given
  values_iff name valued given := by
    rw [get?_foldl_empty, givenBy_eq_ofTexts suits valued]
    exact FlagValue.ofTexts_eq_some_iff _ given

/-- What was recorded before a part is told by the parts before it, so the part finds nothing of the
other kind. -/
theorem nothingLost_of_suits {parts : List Part} (suits : ∀ part ∈ parts, part.Suits isSwitch)
    (named : ∀ part ∈ parts, part.IsNamed) : NothingLost parts := by
  constructor
  · rintro earlier name text later rfl present
    obtain ⟨before, rest⟩ := List.forall_mem_append.1 suits
    have valued : isSwitch name = false := (List.forall_mem_cons.1 rest).1
    have told := tells_foldl before (List.forall_mem_append.1 named).1
    exact FlagValue.noConfusion ((told.values_iff name valued _).1 present).1
  · rintro earlier name later rfl texts present
    obtain ⟨before, rest⟩ := List.forall_mem_append.1 suits
    have switch : isSwitch name = true := (List.forall_mem_cons.1 rest).1
    have told := tells_foldl before (List.forall_mem_append.1 named).1
    exact FlagValue.noConfusion ((told.switch_iff name switch _).1 present).1

/-- The options of a command are what its text says. The text consists of one list of parts, which
are recorded one after another without loss, and the map tells what they say. -/
theorem tells_readWith (isSwitch : String → Bool) (text : String) :
    ∃ parts, (∀ found, Says isSwitch (stripPrompt text.toList) found ↔ found = parts) ∧
      (Command.readWith isSwitch text).flags = parts.foldl Flags.record {} ∧
      NothingLost parts ∧ Tells isSwitch parts (Command.readWith isSwitch text).flags := by
  let stripped := stripPrompt text.toList
  have suits := readParts_suits isSwitch stripped.length stripped
  have named := readParts_isNamed isSwitch stripped.length stripped
  exact ⟨_, fun found => (says_iff stripped.length).trans eq_comm, rfl,
    nothingLost_of_suits suits named, tells_foldl suits named⟩

/-- A long option of one letter and the letter of a cluster are one option. -/
example : (Command.read "curl -sHa --H=b").flags =
    ⟨[("s", .switch), ("H", .values ["a", "b"])]⟩ := by
  decide +kernel

end CurlScribe
