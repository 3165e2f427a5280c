/-
This file proves the laws of widening. Two types whose values are of different kinds widen
to the type that holds everything, so every law is a law about types of one kind: numbers,
where it is checked, slices, where it is the same law for the elements, and structs.

What a struct made of two says of a key depends on nothing but what the two say of it. This
is an operation on what is there for one key, and structs inherit its laws key by key; that
the order of the fields agrees as well follows because putting two structs together keeps
the fields of the first at their places and takes the new ones of the second as they come.

Every law is stated for types in which no struct repeats a key. These are the types that
documents are given, and widening stays among them.
-/

import CurlScribe.Go.Type.Basic
import Mathlib.Data.List.Nodup
import Mathlib.Tactic.SplitIfs

namespace CurlScribe.Go.GoType

/-! ### Types without repeated keys -/

/-- The keys of fields, in their order. -/
def keys (fields : List (Field GoType)) : List String :=
  fields.map (·.key)

/-- In no struct of the type, however deep, do two fields have the same key. -/
inductive HasDistinctKeys : GoType → Prop
  | any : HasDistinctKeys .any
  | boolean : HasDistinctKeys .boolean
  | string : HasDistinctKeys .string
  | int : HasDistinctKeys .int
  | int64 : HasDistinctKeys .int64
  | float64 : HasDistinctKeys .float64
  | slice {element : GoType} (inside : HasDistinctKeys element) : HasDistinctKeys (.slice element)
  | struct {fields : List (Field GoType)} (distinct : (keys fields).Nodup)
      (inside : ∀ field ∈ fields, HasDistinctKeys field.type) : HasDistinctKeys (.struct fields)

/-! ### Kinds -/

/-- What two types have in common if they widen to a type that does not hold everything. -/
inductive Kind where
  | any
  | boolean
  | string
  | number
  | slice
  | struct
  deriving DecidableEq

/-- The kind of a type; all numbers are of one kind. -/
def kind : GoType → Kind
  | .any => .any
  | .boolean => .boolean
  | .string => .string
  | .int | .int64 | .float64 => .number
  | .slice _ => .slice
  | .struct _ => .struct

theorem eq_any_of_kind {type : GoType} (same : type.kind = .any) : type = .any := by
  cases type <;> first | rfl | cases same

theorem eq_boolean_of_kind {type : GoType} (same : type.kind = .boolean) : type = .boolean := by
  cases type <;> first | rfl | cases same

theorem eq_string_of_kind {type : GoType} (same : type.kind = .string) : type = .string := by
  cases type <;> first | rfl | cases same

theorem number_cases {type : GoType} (same : type.kind = .number) :
    type = .int ∨ type = .int64 ∨ type = .float64 := by
  cases type <;> simp_all [kind]

theorem exists_element_of_kind {type : GoType} (same : type.kind = .slice) :
    ∃ element, type = .slice element := by
  cases type <;> first | exact ⟨_, rfl⟩ | cases same

theorem exists_fields_of_kind {type : GoType} (same : type.kind = .struct) :
    ∃ fields, type = .struct fields := by
  cases type <;> first | exact ⟨_, rfl⟩ | cases same

/-- Types of different kinds have nothing in common. -/
theorem unify_of_kind_ne {first second : GoType} (differ : first.kind ≠ second.kind) :
    unify first second = .any := by
  cases first <;> cases second <;> first | rfl | exact absurd rfl differ

theorem kind_unify (first second : GoType) :
    (unify first second).kind = if first.kind = second.kind then first.kind else .any := by
  split_ifs with same
  · cases first <;> cases second <;> first | rfl | cases same
  · rw [unify_of_kind_ne same]
    rfl

theorem unify_any_left (type : GoType) : unify .any type = .any := by
  cases type <;> rfl

theorem unify_any_right (type : GoType) : unify type .any = .any := by
  cases type <;> rfl

theorem unify_slice (first second : GoType) :
    unify (.slice first) (.slice second) = .slice (unify first second) := rfl

/-! ### What a struct says of a key -/

/-- The field of a key. -/
def lookUp (fields : List (Field GoType)) (key : String) : Option (Field GoType) :=
  fields.find? (·.key == key)

theorem lookUp_eq_none_iff {fields : List (Field GoType)} {key : String} :
    lookUp fields key = none ↔ key ∉ keys fields := by
  simp [lookUp, keys]

theorem lookUp_eq_some {fields : List (Field GoType)} {key : String} {field : Field GoType}
    (found : lookUp fields key = some field) : field ∈ fields ∧ field.key = key :=
  ⟨List.mem_of_find?_eq_some found, by simpa using List.find?_some found⟩

theorem mem_keys {fields : List (Field GoType)} {field : Field GoType} (member : field ∈ fields) :
    field.key ∈ keys fields :=
  List.mem_map_of_mem member

theorem exists_lookUp {fields : List (Field GoType)} {key : String} (present : key ∈ keys fields) :
    ∃ field, lookUp fields key = some field := by
  rw [← Option.ne_none_iff_exists']
  exact fun absent => lookUp_eq_none_iff.1 absent present

/-- Without repeated keys, every field is the one that its key looks up. -/
theorem lookUp_of_mem {fields : List (Field GoType)} (distinct : (keys fields).Nodup)
    {field : Field GoType} (member : field ∈ fields) : lookUp fields field.key = some field := by
  obtain ⟨other, found⟩ := exists_lookUp (mem_keys member)
  obtain ⟨memberOther, same⟩ := lookUp_eq_some found
  rw [found, List.inj_on_of_nodup_map distinct memberOther member same]

theorem mem_fieldsBeyond {known fields : List (Field GoType)} {field : Field GoType} :
    field ∈ fieldsBeyond known fields ↔ field ∈ fields ∧ field.key ∉ keys known := by
  simp only [fieldsBeyond, List.mem_filter, keys, List.mem_map, Bool.not_eq_true',
    List.any_eq_false, beq_iff_eq, not_exists, not_and]

theorem lookUp_append (first second : List (Field GoType)) (key : String) :
    lookUp (first ++ second) key = (lookUp first key).or (lookUp second key) :=
  List.find?_append

theorem lookUp_map {change : Field GoType → Field GoType}
    (keeps : ∀ field, (change field).key = field.key) (fields : List (Field GoType))
    (key : String) : lookUp (fields.map change) key = (lookUp fields key).map change := by
  simp only [lookUp, List.find?_map, Function.comp_def, keeps]

theorem lookUp_fieldsBeyond (known fields : List (Field GoType)) (key : String) :
    lookUp (fieldsBeyond known fields) key =
      if key ∈ keys known then none else lookUp fields key := by
  split_ifs with present
  · rw [lookUp_eq_none_iff]
    intro member
    obtain ⟨field, memberField, rfl⟩ := List.mem_map.1 member
    exact (mem_fieldsBeyond.1 memberField).2 present
  · unfold lookUp fieldsBeyond
    rw [List.find?_filter]
    refine congrArg (List.find? · fields) (funext fun field => ?_)
    by_cases same : field.key = key
    · subst same
      simpa [keys] using present
    · simp [same]

/-! ### Fields put together -/

/-- A field, put together with what another struct says of its key. -/
def widened (field : Field GoType) : Option (Field GoType) → Field GoType
  | some other =>
    ⟨field.key, unify field.type other.type, field.optional || other.optional⟩
  | none => asOptional field

/-- What two structs put together say of a key, by what each of them says of it. -/
def together : Option (Field GoType) → Option (Field GoType) → Option (Field GoType)
  | some field, other => some (widened field other)
  | none, other => other.map asOptional

@[simp] theorem key_widened (field : Field GoType) (other : Option (Field GoType)) :
    (widened field other).key = field.key := by
  cases other <;> rfl

@[simp] theorem key_asOptional (field : Field GoType) : (asOptional field).key = field.key := rfl

theorem unifyFields_eq_map (fields others : List (Field GoType)) :
    unifyFields fields others =
      fields.map fun field => widened field (lookUp others field.key) := by
  induction fields with
  | nil => rfl
  | cons field rest inductionHypothesis =>
    rw [unifyFields, inductionHypothesis, List.map_cons]
    refine congrArg (· :: _) ?_
    show (match lookUp others field.key with
      | some other => _
      | none => _) = _
    cases lookUp others field.key <;> rfl

theorem merge_eq (first second : List (Field GoType)) :
    merge first second =
      (first.map fun field => widened field (lookUp second field.key)) ++
        (fieldsBeyond first second).map asOptional := by
  rw [merge, unifyFields_eq_map]

/-- What a struct made of two says of a key depends on what the two say of this key alone. -/
theorem lookUp_merge (first second : List (Field GoType)) (key : String) :
    lookUp (merge first second) key = together (lookUp first key) (lookUp second key) := by
  rw [merge_eq, lookUp_append, lookUp_map key_asOptional, lookUp_fieldsBeyond,
    lookUp_map fun _ => key_widened _ _]
  cases found : lookUp first key with
  | some field =>
    rw [← (lookUp_eq_some found).2]
    rfl
  | none =>
    rw [if_neg (lookUp_eq_none_iff.1 found)]
    rfl

theorem keys_merge (first second : List (Field GoType)) :
    keys (merge first second) = keys first ++ keys (fieldsBeyond first second) := by
  simp [merge_eq, keys, Function.comp_def]

theorem nodup_keys_fieldsBeyond (known : List (Field GoType)) {fields : List (Field GoType)}
    (distinct : (keys fields).Nodup) : (keys (fieldsBeyond known fields)).Nodup :=
  distinct.sublist (List.filter_sublist.map _)

/-- Putting structs together repeats no key. -/
theorem nodup_keys_merge {first second : List (Field GoType)} (distinctFirst : (keys first).Nodup)
    (distinctSecond : (keys second).Nodup) : (keys (merge first second)).Nodup := by
  rw [keys_merge, List.nodup_append']
  refine ⟨distinctFirst, nodup_keys_fieldsBeyond first distinctSecond, ?_⟩
  intro key present member
  obtain ⟨field, memberField, rfl⟩ := List.mem_map.1 member
  exact (mem_fieldsBeyond.1 memberField).2 present

theorem mem_keys_merge {first second : List (Field GoType)} {key : String} :
    key ∈ keys (merge first second) ↔ key ∈ keys first ∨ key ∈ keys second := by
  rw [← not_iff_not, not_or, ← lookUp_eq_none_iff, ← lookUp_eq_none_iff, ← lookUp_eq_none_iff,
    lookUp_merge]
  cases lookUp first key <;> cases lookUp second key <;> simp [together]

/-- Each field of a struct made of two is a field of the first, put together with what the second
says of its key, or a field of the second that the first lacks. -/
theorem mem_merge {first second : List (Field GoType)} {field : Field GoType} :
    field ∈ merge first second ↔
      (∃ own ∈ first, widened own (lookUp second own.key) = field) ∨
        ∃ other ∈ second, other.key ∉ keys first ∧ asOptional other = field := by
  simp only [merge_eq, List.mem_append, List.mem_map, mem_fieldsBeyond, and_assoc]

/-! ### Widening keeps keys apart -/

/-- Widening two types in which no struct repeats a key gives another one. -/
theorem HasDistinctKeys.unify {first second : GoType} (distinctFirst : first.HasDistinctKeys)
    (distinctSecond : second.HasDistinctKeys) : (unify first second).HasDistinctKeys := by
  induction distinctFirst generalizing second with
  | any => exact unify_any_left second ▸ .any
  | boolean | string | int | int64 | float64 => cases second <;> constructor
  | slice inside inductionHypothesis =>
    cases distinctSecond with
    | slice insideSecond => exact .slice (inductionHypothesis insideSecond)
    | _ => exact .any
  | @struct fields distinct inside inductionHypothesis =>
    cases distinctSecond with
    | @struct others distinctOthers insideOthers =>
      refine .struct (nodup_keys_merge distinct distinctOthers) fun field member => ?_
      rcases mem_merge.1 member with ⟨own, memberOwn, rfl⟩ | ⟨other, memberOther, _, rfl⟩
      · cases found : lookUp others own.key with
        | none => exact inside own memberOwn
        | some other =>
          exact inductionHypothesis own memberOwn (insideOthers other (lookUp_eq_some found).1)
      · exact insideOthers other memberOther
    | _ => exact .any

/-! ### Idempotence -/

theorem merge_self {fields : List (Field GoType)} (distinct : (keys fields).Nodup)
    (same : ∀ field ∈ fields, unify field.type field.type = field.type) :
    merge fields fields = fields := by
  have beyond : fieldsBeyond fields fields = [] :=
    List.eq_nil_iff_forall_not_mem.2 fun field member =>
      (mem_fieldsBeyond.1 member).2 (mem_keys (mem_fieldsBeyond.1 member).1)
  rw [merge_eq, beyond, List.map_nil, List.append_nil]
  refine (List.map_congr_left fun field member => ?_).trans (List.map_id fields)
  rw [lookUp_of_mem distinct member, widened, same field member, Bool.or_self]
  rfl

/-- Widening a type by itself changes nothing, so to look first whether two types are equal would
decide nothing. -/
theorem unify_self {type : GoType} (distinct : type.HasDistinctKeys) : unify type type = type := by
  induction distinct with
  | any | boolean | string | int | int64 | float64 => rfl
  | slice inside inductionHypothesis => rw [unify_slice, inductionHypothesis]
  | struct distinct inside inductionHypothesis =>
    rw [unify_struct, merge_self distinct inductionHypothesis]

/-! ### Associativity -/

theorem unify_assoc_of_number {first second third : GoType} (firstNumber : first.kind = .number)
    (secondNumber : second.kind = .number) (thirdNumber : third.kind = .number) :
    unify (unify first second) third = unify first (unify second third) := by
  rcases number_cases firstNumber with rfl | rfl | rfl <;>
    rcases number_cases secondNumber with rfl | rfl | rfl <;>
      rcases number_cases thirdNumber with rfl | rfl | rfl <;> rfl

/-- Types that are not of one kind widen to the type that holds everything, in either order. -/
theorem unify_assoc_of_kind_ne {first second third : GoType}
    (differ : ¬ (second.kind = first.kind ∧ third.kind = first.kind)) :
    unify (unify first second) third = unify first (unify second third) := by
  have left : (unify (unify first second) third).kind = .any := by
    rw [kind_unify, kind_unify]
    split_ifs <;> simp_all
  have right : (unify first (unify second third)).kind = .any := by
    rw [kind_unify, kind_unify]
    split_ifs <;> simp_all
  rw [eq_any_of_kind left, eq_any_of_kind right]

/-- A type associates with all types if it associates with those of its kind. -/
theorem unify_assoc_of_alike {first : GoType}
    (alike : ∀ second third, second.kind = first.kind → third.kind = first.kind →
      unify (unify first second) third = unify first (unify second third))
    (second third : GoType) :
    unify (unify first second) third = unify first (unify second third) := by
  by_cases same : second.kind = first.kind ∧ third.kind = first.kind
  · exact alike second third same.1 same.2
  · exact unify_assoc_of_kind_ne same

theorem widened_widened {field : Field GoType}
    (associates : ∀ second third, unify (unify field.type second) third =
      unify field.type (unify second third)) (second third : Option (Field GoType)) :
    widened (widened field second) third = widened field (together second third) := by
  cases second with
  | none =>
    cases third with
    | none => rfl
    | some other => simp [widened, together, asOptional]
  | some other =>
    cases third with
    | none => simp [widened, together, asOptional]
    | some last => simp [widened, together, associates, Bool.or_assoc]

theorem widened_asOptional (field : Field GoType) (other : Option (Field GoType)) :
    widened (asOptional field) other = asOptional (widened field other) := by
  cases other <;> rfl

theorem fieldsBeyond_map {change : Field GoType → Field GoType}
    (keeps : ∀ field, (change field).key = field.key) (known fields : List (Field GoType)) :
    fieldsBeyond known (fields.map change) = (fieldsBeyond known fields).map change := by
  simp only [fieldsBeyond, List.filter_map, Function.comp_def, keeps]

theorem fieldsBeyond_append (known first second : List (Field GoType)) :
    fieldsBeyond known (first ++ second) =
      fieldsBeyond known first ++ fieldsBeyond known second :=
  List.filter_append ..

/-- What goes beyond a struct made of two goes beyond the second and then beyond the first. -/
theorem fieldsBeyond_merge (first second fields : List (Field GoType)) :
    fieldsBeyond (merge first second) fields =
      fieldsBeyond first (fieldsBeyond second fields) := by
  have outside : ∀ known (field : Field GoType),
      (!known.any (·.key == field.key)) = decide (field.key ∉ keys known) := by
    intro known field
    rw [Bool.eq_iff_iff]
    simp [keys]
  unfold fieldsBeyond
  rw [List.filter_filter]
  refine List.filter_congr fun field _ => ?_
  rw [outside, outside, outside, ← Bool.decide_and]
  exact decide_eq_decide.2 (mem_keys_merge.not.trans not_or)

/-- Structs whose fields associate are put together in either order with the same result, fields
in the same places. -/
theorem merge_assoc {first second : List (Field GoType)}
    (associates : ∀ field ∈ first, ∀ second third, unify (unify field.type second) third =
      unify field.type (unify second third)) (third : List (Field GoType)) :
    merge (merge first second) third = merge first (merge second third) := by
  have shared : (first.map fun field => widened field (lookUp second field.key)).map
        (fun field => widened field (lookUp third field.key)) =
      first.map fun field => widened field (lookUp (merge second third) field.key) := by
    rw [List.map_map]
    refine List.map_congr_left fun field member => ?_
    rw [lookUp_merge, ← widened_widened (associates field member)]
    simp
  have added : ((fieldsBeyond first second).map asOptional).map
        (fun field => widened field (lookUp third field.key)) =
      (fieldsBeyond first
        (second.map fun field => widened field (lookUp third field.key))).map asOptional := by
    rw [fieldsBeyond_map fun _ => key_widened _ _, List.map_map, List.map_map]
    exact List.map_congr_left fun field _ => widened_asOptional field _
  have last : (fieldsBeyond (merge first second) third).map asOptional =
      (fieldsBeyond first ((fieldsBeyond second third).map asOptional)).map asOptional := by
    rw [fieldsBeyond_merge, fieldsBeyond_map key_asOptional, List.map_map]
    rfl
  rw [merge_eq (merge first second), merge_eq first (merge second third), last,
    merge_eq second third, fieldsBeyond_append, List.map_append, merge_eq first second,
    List.map_append, shared, added, List.append_assoc, merge_eq second third]

/-- It does not matter which two of three types are widened first. -/
theorem unify_assoc_of_distinct {first : GoType} (distinct : first.HasDistinctKeys)
    (second third : GoType) :
    unify (unify first second) third = unify first (unify second third) := by
  induction distinct generalizing second third with
  | any => rw [unify_any_left, unify_any_left, unify_any_left]
  | boolean =>
    refine unify_assoc_of_alike (fun second third sameSecond sameThird => ?_) second third
    rw [eq_boolean_of_kind sameSecond, eq_boolean_of_kind sameThird]
    rfl
  | string =>
    refine unify_assoc_of_alike (fun second third sameSecond sameThird => ?_) second third
    rw [eq_string_of_kind sameSecond, eq_string_of_kind sameThird]
    rfl
  | int | int64 | float64 =>
    exact unify_assoc_of_alike (fun _ _ => unify_assoc_of_number rfl) second third
  | slice inside inductionHypothesis =>
    refine unify_assoc_of_alike (fun second third sameSecond sameThird => ?_) second third
    obtain ⟨middle, rfl⟩ := exists_element_of_kind sameSecond
    obtain ⟨last, rfl⟩ := exists_element_of_kind sameThird
    rw [unify_slice, unify_slice, unify_slice, unify_slice, inductionHypothesis]
  | struct distinct inside inductionHypothesis =>
    refine unify_assoc_of_alike (fun second third sameSecond sameThird => ?_) second third
    obtain ⟨middle, rfl⟩ := exists_fields_of_kind sameSecond
    obtain ⟨last, rfl⟩ := exists_fields_of_kind sameThird
    rw [unify_struct, unify_struct, unify_struct, unify_struct,
      merge_assoc fun field member => inductionHypothesis field member]

end CurlScribe.Go.GoType
