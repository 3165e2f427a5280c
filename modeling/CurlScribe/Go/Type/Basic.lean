/-
This file holds the Go types that JSON documents are given, and widens two of them to one
that holds both. Numbers widen from `int` over `int64` to `float64`, slices by their
elements, and structs field by field: a field that one of two structs lacks becomes
optional. Types that have nothing in common widen to the type that holds everything.
-/

namespace CurlScribe.Go

/-! ### Types -/

/-- A field of a struct: the name it has in JSON, its type, and whether it may be left out. -/
structure Field (Shape : Type) where
  key : String
  type : Shape
  optional : Bool
  deriving DecidableEq, Repr

/-- A Go type for JSON documents. -/
inductive GoType where
  | any
  | boolean
  | string
  | int
  | int64
  | float64
  | slice (element : GoType)
  | struct (fields : List (Field GoType))
  deriving Repr

namespace GoType

/-! ### Widening -/

/-- The field, whose struct was put together with one that lacks it. -/
def asOptional (field : Field GoType) : Field GoType :=
  { field with optional := true }

/-- The fields whose keys are none of the given fields'. -/
def fieldsBeyond (known : List (Field GoType)) (fields : List (Field GoType)) :
    List (Field GoType) :=
  fields.filter fun field => !(known.any (·.key == field.key))

mutual

/-- The type that holds what either of two types holds. -/
def unify : GoType → GoType → GoType
  | .boolean, .boolean => .boolean
  | .string, .string => .string
  | .int, .int => .int
  | .int, .int64 | .int64, .int | .int64, .int64 => .int64
  | .int, .float64 | .int64, .float64 => .float64
  | .float64, .int | .float64, .int64 | .float64, .float64 => .float64
  | .slice first, .slice second => .slice (unify first second)
  | .struct first, .struct second =>
    .struct (unifyFields first second ++ (fieldsBeyond first second).map asOptional)
  | _, _ => .any

/-- The fields of one struct after it is put together with the fields of another: those that both
have are widened, the others become optional. -/
def unifyFields : List (Field GoType) → List (Field GoType) → List (Field GoType)
  | [], _ => []
  | ⟨key, type, optional⟩ :: rest, others =>
    (match others.find? (·.key == key) with
      | some other => ⟨key, unify type other.type, optional || other.optional⟩
      | none => ⟨key, type, true⟩) :: unifyFields rest others

end

/-- The fields of two structs put together: those of the first in their order, then those that only
the second has. -/
def merge (first second : List (Field GoType)) : List (Field GoType) :=
  unifyFields first second ++ (fieldsBeyond first second).map asOptional

theorem unify_struct (first second : List (Field GoType)) :
    unify (.struct first) (.struct second) = .struct (merge first second) := by
  simp [unify, merge]

/-- The type that holds what any of a list of types holds; without a type that is every value. -/
def unifyAll : List GoType → GoType
  | [] => .any
  | first :: rest => rest.foldl unify first

end GoType

end CurlScribe.Go
