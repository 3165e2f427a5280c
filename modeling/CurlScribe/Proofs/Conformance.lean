/-
This file proves which documents decode into the type that is inferred for them. Widening
never loses a document: what conforms to one of two types conforms to what they widen to,
either way round. Every element of an array therefore conforms to the type of all elements,
and every object to the struct of its members.

One thing stands between this and a plain theorem. An integer that is too large for 64 bits
with a sign, though not for 64 bits without one, gets the type of the integers with a sign.
Conformance is therefore stated for any idea of which integers an integer type holds, proved
if it holds all of them, and compared with the one that counts: a document conforms exactly
if no such integer stands at a place that its type declares as an integer.
-/

import CurlScribe.Proofs.FieldOrder

namespace CurlScribe.Go.GoType

open Json

/-! ### Conformance -/

/-- The integers with a sign that fit into 64 bits. -/
def IsInt64 (value : Int) : Prop :=
  -0x8000000000000000 ≤ value ∧ value < 0x8000000000000000

/-- A document decodes into a type, if an integer type takes the integers that `fits` accepts.
Everything decodes into the type that holds everything, and null into every type. In an object each
key has to be a field, whose type its value decodes into, and each field that may not be left out
has to be a key. -/
inductive Conforms (fits : Int → Prop) : Value → GoType → Prop
  | any (value : Value) : Conforms fits value .any
  | null (type : GoType) : Conforms fits .null type
  | boolean (value : Bool) : Conforms fits (.boolean value) .boolean
  | string (value : String) : Conforms fits (.string value) .string
  | int {value : Int} (fitting : fits value) : Conforms fits (.number (.integer value)) .int
  | int64 {value : Int} (fitting : fits value) : Conforms fits (.number (.integer value)) .int64
  | float64 (number : Number) : Conforms fits (.number number) .float64
  | slice {items : List Value} {element : GoType}
      (inside : ∀ item ∈ items, Conforms fits item element) :
      Conforms fits (.array items) (.slice element)
  | struct {members : List (String × Value)} {fields : List (Field GoType)}
      (known : ∀ member ∈ members, member.1 ∈ keys fields)
      (inside : ∀ member ∈ members, ∀ field ∈ fields, field.key = member.1 →
        Conforms fits member.2 field.type)
      (required : ∀ field ∈ fields, field.optional = false → field.key ∈ members.map Prod.fst) :
      Conforms fits (.object members) (.struct fields)

/-- The number stands in a document at a place that a type declares as an integer. -/
inductive TypedAsInteger (number : Int) : Value → GoType → Prop
  | int : TypedAsInteger number (.number (.integer number)) .int
  | int64 : TypedAsInteger number (.number (.integer number)) .int64
  | element {items : List Value} {item : Value} {element : GoType} (member : item ∈ items)
      (inside : TypedAsInteger number item element) :
      TypedAsInteger number (.array items) (.slice element)
  | field {members : List (String × Value)} {member : String × Value}
      {fields : List (Field GoType)} {field : Field GoType} (present : member ∈ members)
      (declared : field ∈ fields) (same : field.key = member.1)
      (inside : TypedAsInteger number member.2 field.type) :
      TypedAsInteger number (.object members) (.struct fields)

/-! ### Which integers fit -/

section Fitting

variable {fits : Int → Prop} {value : Value} {type : GoType}

theorem Conforms.fits_of_typedAsInteger (conforms : Conforms fits value type) {number : Int}
    (typed : TypedAsInteger number value type) : fits number := by
  induction typed with
  | int =>
    cases conforms with
    | int fitting => exact fitting
  | int64 =>
    cases conforms with
    | int64 fitting => exact fitting
  | element member _ inductionHypothesis =>
    cases conforms with
    | slice inside => exact inductionHypothesis (inside _ member)
  | field present declared same _ inductionHypothesis =>
    cases conforms with
    | struct _ inside _ => exact inductionHypothesis (inside _ present _ declared same)

theorem Conforms.mono {wider : Int → Prop} (conforms : Conforms fits value type)
    (holds : ∀ number, TypedAsInteger number value type → wider number) :
    Conforms wider value type := by
  induction conforms with
  | any value => exact .any value
  | null type => exact .null type
  | boolean value => exact .boolean value
  | string value => exact .string value
  | int => exact .int (holds _ .int)
  | int64 => exact .int64 (holds _ .int64)
  | float64 number => exact .float64 number
  | slice _ inductionHypothesis =>
    exact .slice fun item member => inductionHypothesis item member
      fun number typed => holds number (.element member typed)
  | struct known _ required inductionHypothesis =>
    exact .struct known (fun member present field declared same =>
      inductionHypothesis member present field declared same
        fun number typed => holds number (.field present declared same typed)) required

/-- Which integers fit matters at the places that are declared as integers and nowhere else. -/
theorem conforms_iff_typedAsInteger :
    Conforms fits value type ↔
      Conforms (fun _ => True) value type ∧
        ∀ number, TypedAsInteger number value type → fits number :=
  ⟨fun conforms => ⟨conforms.mono fun _ _ => trivial,
      fun _ => conforms.fits_of_typedAsInteger⟩,
    fun conforms => conforms.1.mono conforms.2⟩

end Fitting

/-! ### Widening loses no document -/

section Widening

variable {fits : Int → Prop} {value : Value}

/-- A field put together with what another struct says has to be there only if the other struct
says that it has to. -/
theorem required_of_widened {field : Field GoType} {other : Option (Field GoType)}
    (required : (widened field other).optional = false) :
    field.optional = false ∧ ∃ beside, other = some beside ∧ beside.optional = false := by
  cases other with
  | none => cases required
  | some beside =>
    obtain ⟨own, others⟩ := Bool.or_eq_false_iff.1 required
    exact ⟨own, beside, rfl, others⟩

variable {members : List (String × Value)} {fields : List (Field GoType)}

/-- An object conforms to a struct that is put together with one behind it, if its values conform
to the wider types. -/
theorem conforms_merge_left (known : ∀ member ∈ members, member.1 ∈ keys fields)
    (inside : ∀ member ∈ members, ∀ field ∈ fields, field.key = member.1 →
      Conforms fits member.2 field.type ∧
        ∀ other, Conforms fits member.2 (unify field.type other))
    (required : ∀ field ∈ fields, field.optional = false → field.key ∈ members.map Prod.fst)
    (others : List (Field GoType)) :
    Conforms fits (.object members) (.struct (merge fields others)) := by
  refine .struct (fun member present => mem_keys_merge.2 (Or.inl (known member present))) ?_ ?_
  · intro member present field declared same
    rcases mem_merge.1 declared with ⟨own, memberOwn, rfl⟩ | ⟨other, _, absent, rfl⟩
    · rw [key_widened] at same
      cases lookUp others own.key with
      | none => exact (inside member present own memberOwn same).1
      | some other => exact (inside member present own memberOwn same).2 other.type
    · exact absurd (same ▸ known member present) absent
  · intro field declared needed
    rcases mem_merge.1 declared with ⟨own, memberOwn, rfl⟩ | ⟨other, _, _, rfl⟩
    · rw [key_widened]
      exact required own memberOwn (required_of_widened needed).1
    · cases needed

/-- An object conforms to a struct that is put together with one in front of it, if its values
conform to the wider types. -/
theorem conforms_merge_right (known : ∀ member ∈ members, member.1 ∈ keys fields)
    (inside : ∀ member ∈ members, ∀ field ∈ fields, field.key = member.1 →
      Conforms fits member.2 field.type ∧
        ∀ other, Conforms fits member.2 (unify other field.type))
    (required : ∀ field ∈ fields, field.optional = false → field.key ∈ members.map Prod.fst)
    (others : List (Field GoType)) :
    Conforms fits (.object members) (.struct (merge others fields)) := by
  refine .struct (fun member present => mem_keys_merge.2 (Or.inr (known member present))) ?_ ?_
  · intro member present field declared same
    rcases mem_merge.1 declared with ⟨other, _, rfl⟩ | ⟨own, memberOwn, _, rfl⟩
    · rw [key_widened] at same
      obtain ⟨own, found⟩ := exists_lookUp (same ▸ known member present : other.key ∈ keys fields)
      obtain ⟨memberOwn, sameKey⟩ := lookUp_eq_some found
      rw [found]
      exact (inside member present own memberOwn (sameKey.trans same)).2 other.type
    · exact (inside member present own memberOwn same).1
  · intro field declared needed
    rcases mem_merge.1 declared with ⟨other, _, rfl⟩ | ⟨own, _, _, rfl⟩
    · obtain ⟨_, own, found, neededOwn⟩ := required_of_widened needed
      obtain ⟨memberOwn, sameKey⟩ := lookUp_eq_some found
      rw [key_widened, ← sameKey]
      exact required own memberOwn neededOwn
    · cases needed

/-- What conforms to a type conforms to all that it widens to, whichever type stands first. -/
theorem Conforms.unify {type : GoType} (conforms : Conforms fits value type) (other : GoType) :
    Conforms fits value (unify type other) ∧ Conforms fits value (GoType.unify other type) := by
  induction conforms generalizing other with
  | any value =>
    rw [unify_any_left, unify_any_right]
    exact ⟨.any value, .any value⟩
  | null => exact ⟨.null _, .null _⟩
  | boolean value =>
    cases other <;> first | exact ⟨.any _, .any _⟩ | exact ⟨.boolean value, .boolean value⟩
  | string value =>
    cases other <;> first | exact ⟨.any _, .any _⟩ | exact ⟨.string value, .string value⟩
  | int fitting =>
    cases other <;> first
      | exact ⟨.any _, .any _⟩
      | exact ⟨.int fitting, .int fitting⟩
      | exact ⟨.int64 fitting, .int64 fitting⟩
      | exact ⟨.float64 _, .float64 _⟩
  | int64 fitting =>
    cases other <;> first
      | exact ⟨.any _, .any _⟩
      | exact ⟨.int64 fitting, .int64 fitting⟩
      | exact ⟨.float64 _, .float64 _⟩
  | float64 number =>
    cases other <;> first | exact ⟨.any _, .any _⟩ | exact ⟨.float64 _, .float64 _⟩
  | slice inside inductionHypothesis =>
    cases other with
    | slice element =>
      exact ⟨.slice fun item member => (inductionHypothesis item member element).1,
        .slice fun item member => (inductionHypothesis item member element).2⟩
    | _ => exact ⟨.any _, .any _⟩
  | struct known inside required inductionHypothesis =>
    cases other with
    | struct others =>
      rw [unify_struct, unify_struct]
      exact ⟨conforms_merge_left known (fun member present field declared same =>
          ⟨inside member present field declared same,
            fun type => (inductionHypothesis member present field declared same type).1⟩)
          required others,
        conforms_merge_right known (fun member present field declared same =>
          ⟨inside member present field declared same,
            fun type => (inductionHypothesis member present field declared same type).2⟩)
          required others⟩
    | _ => exact ⟨.any _, .any _⟩

theorem Conforms.foldl {types : List GoType} {start : GoType}
    (conforms : Conforms fits value start ∨ ∃ type ∈ types, Conforms fits value type) :
    Conforms fits value (types.foldl GoType.unify start) := by
  induction types generalizing start with
  | nil => exact conforms.resolve_right (by simp)
  | cons first rest inductionHypothesis =>
    refine inductionHypothesis ?_
    rcases conforms with before | ⟨type, member, conforms⟩
    · exact Or.inl (before.unify first).1
    · rcases List.mem_cons.1 member with rfl | later
      · exact Or.inl (conforms.unify start).2
      · exact Or.inr ⟨type, later, conforms⟩

/-- What conforms to one of many types conforms to the type that holds them all. -/
theorem Conforms.unifyAll {types : List GoType} {type : GoType} (member : type ∈ types)
    (conforms : Conforms fits value type) : Conforms fits value (unifyAll types) := by
  cases types with
  | nil => cases member
  | cons first rest =>
    rcases List.mem_cons.1 member with rfl | later
    · exact .foldl (Or.inl conforms)
    · exact .foldl (Or.inr ⟨type, later, conforms⟩)

end Widening

/-! ### Documents and their types -/

/-- If integer types held all integers, every document would decode into its type. -/
theorem conforms_ofValue {value : Value} (formed : value.IsWellFormed) :
    Conforms (fun _ => True) value (ofValue value) := by
  induction formed with
  | null => exact .null _
  | boolean value => exact .boolean value
  | string value => exact .string value
  | @integer value fits =>
    rw [ofValue, ofNumber]
    split_ifs
    · exact .int trivial
    · exact .int64 trivial
  | decimal significand exponent => exact .float64 _
  | @array items inside inductionHypothesis =>
    rw [ofValue, ofValues_eq_map]
    exact .slice fun item member =>
      (inductionHypothesis item member).unifyAll (List.mem_map_of_mem member)
  | @object members distinct inside inductionHypothesis =>
    rw [ofValue]
    refine .struct (fun member present => ?_) (fun member present field declared same => ?_)
      fun field declared _ => ?_
    · rw [keys_fieldsOf]
      exact List.mem_map_of_mem present
    · rw [fieldsOf_eq_map] at declared
      obtain ⟨own, memberOwn, rfl⟩ := List.mem_map.1 declared
      rw [List.inj_on_of_nodup_map distinct memberOwn present same]
      exact inductionHypothesis member present
    · rw [← keys_fieldsOf]
      exact mem_keys declared

theorem isInteger64_of_typedAsInteger {value : Value} (formed : value.IsWellFormed) {type : GoType}
    {number : Int} (typed : TypedAsInteger number value type) : IsInteger64 number := by
  induction typed with
  | int | int64 =>
    cases formed with
    | integer fits => exact fits
  | element member _ inductionHypothesis =>
    cases formed with
    | array inside => exact inductionHypothesis (inside _ member)
  | field present _ _ _ inductionHypothesis =>
    cases formed with
    | object _ inside => exact inductionHypothesis (inside _ present)

/-- A document decodes into the type that is inferred for it if and only if each integer at a place
that the type declares as an integer fits into 64 bits with its sign. -/
theorem conforms_ofValue_iff {value : Value} (formed : value.IsWellFormed) :
    Conforms IsInt64 value (ofValue value) ↔
      ∀ number, TypedAsInteger number value (ofValue value) → number < 0x8000000000000000 := by
  rw [conforms_iff_typedAsInteger]
  refine ⟨fun conforms number typed => (conforms.2 number typed).2, fun small => ?_⟩
  exact ⟨conforms_ofValue formed, fun number typed =>
    ⟨(isInteger64_of_typedAsInteger formed typed).1, small number typed⟩⟩

/-- A large integer is no obstacle beside a decimal, since both become decimals, but it is one
beside a small integer. -/
theorem conforms_ofValue_iff_large :
    let large := Value.number (.integer 0x8000000000000000)
    let decimals := Value.array [large, .number (.decimal 15 (-1))]
    let integers := Value.array [.number (.integer 1), large]
    read "[9223372036854775808,1.5]" = some decimals ∧
      read "[1,9223372036854775808]" = some integers ∧
      Conforms IsInt64 decimals (ofValue decimals) ∧
      ¬ Conforms IsInt64 integers (ofValue integers) := by
  intro large decimals integers
  have readDecimals : read "[9223372036854775808,1.5]" = some decimals := rfl
  have readIntegers : read "[1,9223372036854775808]" = some integers := rfl
  have formedDecimals : decimals.IsWellFormed := isWellFormed_of_read readDecimals
  have formedIntegers : integers.IsWellFormed := isWellFormed_of_read readIntegers
  refine ⟨readDecimals, readIntegers, (conforms_ofValue_iff formedDecimals).2 ?_, ?_⟩
  · intro number typed
    change TypedAsInteger number (.array _) (.slice .float64) at typed
    cases typed with
    | element _ inside => cases inside
  · intro conforms
    have typed : TypedAsInteger 0x8000000000000000 integers (ofValue integers) :=
      .element (List.mem_cons_of_mem _ List.mem_cons_self) .int64
    exact absurd ((conforms_ofValue_iff formedIntegers).1 conforms _ typed) (by decide)

/-- The text of the first integer that is too large is read as a document which does not decode into
its type. -/
theorem not_conforms_ofValue_large :
    ∃ value, read "9223372036854775808" = some value ∧
      ¬ Conforms IsInt64 value (ofValue value) := by
  refine ⟨.number (.integer 0x8000000000000000), rfl, fun conforms => ?_⟩
  exact absurd (conforms.fits_of_typedAsInteger .int64).2 (by decide)

end CurlScribe.Go.GoType
