/-
This file gives every JSON document a Go type that holds it. Objects become structs with a
field for each member, arrays slices of the type that holds all their elements, integers
the smallest of the integer types that is used for them, and null the type that holds
everything.
-/

import CurlScribe.Go.Type.Basic
import CurlScribe.Json.Value

namespace CurlScribe.Go.GoType

open Json

/-- The type of a number. Integers beyond 32 bits are `int64`, decimals `float64`. -/
def ofNumber : Number → GoType
  | .integer value => if -0x80000000 ≤ value ∧ value < 0x80000000 then .int else .int64
  | .decimal _ _ => .float64

mutual

/-- The type of a document. -/
def ofValue : Value → GoType
  | .null => .any
  | .boolean _ => .boolean
  | .string _ => .string
  | .number number => ofNumber number
  | .array items => .slice (unifyAll (ofValues items))
  | .object members => .struct (fieldsOf members)

/-- The types of documents. -/
def ofValues : List Value → List GoType
  | [] => []
  | value :: rest => ofValue value :: ofValues rest

/-- The fields for the members of an object, in their order and none of them optional. -/
def fieldsOf : List (String × Value) → List (Field GoType)
  | [] => []
  | (name, value) :: rest => ⟨name, ofValue value, false⟩ :: fieldsOf rest

end

theorem ofValues_eq_map (values : List Value) : ofValues values = values.map ofValue := by
  induction values with
  | nil => rfl
  | cons value rest inductionHypothesis => simp [ofValues, inductionHypothesis]

theorem fieldsOf_eq_map (members : List (String × Value)) :
    fieldsOf members =
      members.map fun member => ⟨member.1, ofValue member.2, false⟩ := by
  induction members with
  | nil => rfl
  | cons member rest inductionHypothesis => simp [fieldsOf, inductionHypothesis]

end CurlScribe.Go.GoType
