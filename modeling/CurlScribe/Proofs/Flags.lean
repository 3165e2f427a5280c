/-
This file computes what the map of options says of one name. The map is built by recording
parts one after another, and it is enough to know what each part says of the name alone:
nothing, that the option is there, or one value. Joining these in order gives what the map
says, so the map of two lists of parts is the join of their maps.
-/

import CurlScribe.Command.Basic

namespace CurlScribe

/-! ### Joining what is given -/

/-- What two stretches of a command give for an option: the values of the second come after those of
the first, and a switch stays a switch. -/
def FlagValue.join : Option FlagValue → Option FlagValue → Option FlagValue
  | none, second => second
  | some first, none => some first
  | some (.values earlier), some (.values later) => some (.values (earlier ++ later))
  | some .switch, some _ => some .switch
  | some _, some .switch => some .switch

namespace FlagValue

@[simp] theorem join_none_left (second : Option FlagValue) : join none second = second := by
  cases second <;> rfl

@[simp] theorem join_none_right (first : Option FlagValue) : join first none = first := by
  cases first <;> rfl

@[simp] theorem join_switch_left (second : Option FlagValue) :
    join (some .switch) second = some .switch := by
  rcases second with _ | _ | _ <;> rfl

@[simp] theorem join_switch_right (first : Option FlagValue) :
    join first (some .switch) = some .switch := by
  rcases first with _ | _ | _ <;> rfl

@[simp] theorem join_values (earlier later : List String) :
    join (some (.values earlier)) (some (.values later)) = some (.values (earlier ++ later)) := rfl

theorem join_eq_none_iff (first second : Option FlagValue) :
    join first second = none ↔ first = none ∧ second = none := by
  rcases first with _ | _ | earlier <;> rcases second with _ | _ | later <;> simp

theorem join_assoc (first second third : Option FlagValue) :
    join (join first second) third = join first (join second third) := by
  rcases first with _ | _ | earlier
  · simp
  · simp
  rcases second with _ | _ | middle
  · simp
  · simp
  rcases third with _ | _ | later
  · simp
  · simp
  · simp

end FlagValue

open FlagValue (join)

/-! ### One part -/

/-- What a part gives for an option. -/
def Part.given (name : String) : Part → Option FlagValue
  | .word _ => none
  | .switch option => if option = name then some .switch else none
  | .value option text => if option = name then some (.values [text]) else none

theorem Flags.get?_addValue (flags : Flags) (option text name : String) :
    (flags.addValue option text).get? name =
      join (flags.get? name) (if option = name then some (.values [text]) else none) := by
  unfold Flags.addValue
  by_cases same : option = name
  · subst same
    rw [if_pos rfl]
    split
    · rename_i absent
      rw [Flags.get?_put, if_pos rfl, absent, FlagValue.join_none_left]
    · rename_i texts present
      rw [Flags.get?_put, if_pos rfl, present, FlagValue.join_values]
    · rename_i present
      rw [present, FlagValue.join_switch_left]
  · rw [if_neg same, FlagValue.join_none_right]
    split
    · rw [Flags.get?_put, if_neg (Ne.symm same)]
    · rw [Flags.get?_put, if_neg (Ne.symm same)]
    · rfl

/-- Recording a part joins what it gives to what was there. -/
theorem Flags.get?_record (flags : Flags) (part : Part) (name : String) :
    (flags.record part).get? name = join (flags.get? name) (part.given name) := by
  cases part with
  | word text => exact (FlagValue.join_none_right _).symm
  | switch option =>
    show (flags.put option .switch).get? name =
      join (flags.get? name) (if option = name then some .switch else none)
    rw [Flags.get?_put]
    by_cases same : option = name
    · rw [if_pos same.symm, if_pos same, FlagValue.join_switch_right]
    · rw [if_neg (Ne.symm same), if_neg same, FlagValue.join_none_right]
  | value option text => exact Flags.get?_addValue flags option text name

/-! ### Many parts -/

/-- What parts give for an option, one after another. -/
def givenBy (name : String) : List Part → Option FlagValue
  | [] => none
  | part :: later => join (part.given name) (givenBy name later)

theorem givenBy_append (name : String) (first second : List Part) :
    givenBy name (first ++ second) = join (givenBy name first) (givenBy name second) := by
  induction first with
  | nil => exact (FlagValue.join_none_left _).symm
  | cons part later inductionHypothesis =>
    show join _ (givenBy name (later ++ second)) = join (join _ _) _
    rw [inductionHypothesis, FlagValue.join_assoc]

theorem givenBy_eq_none_iff {name : String} {parts : List Part} :
    givenBy name parts = none ↔ ∀ part ∈ parts, part.given name = none := by
  induction parts with
  | nil => exact ⟨fun _ => List.forall_mem_nil _, fun _ => rfl⟩
  | cons part later inductionHypothesis =>
    rw [givenBy, FlagValue.join_eq_none_iff, inductionHypothesis, List.forall_mem_cons]

theorem Flags.get?_foldl_record (flags : Flags) (parts : List Part) (name : String) :
    (parts.foldl Flags.record flags).get? name = join (flags.get? name) (givenBy name parts) := by
  induction parts generalizing flags with
  | nil => exact (FlagValue.join_none_right _).symm
  | cons part later inductionHypothesis =>
    rw [List.foldl_cons, inductionHypothesis, Flags.get?_record, FlagValue.join_assoc]
    rfl

/-- The map of a command says of each name what its parts give for it. -/
theorem Command.get?_ofParts (parts : List Part) (unclosed : Option Unclosed) (name : String) :
    (Command.ofParts parts unclosed).flags.get? name = givenBy name parts :=
  (Flags.get?_foldl_record {} parts name).trans (FlagValue.join_none_left _)

end CurlScribe
