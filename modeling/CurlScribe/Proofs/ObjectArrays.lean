/-
This file says what type an array of objects gets. Its elements get one struct. The fields of the
struct are the keys of the objects, each once and in the order in which they first appear; a field
is optional if an object lacks its key, and its type holds the values that the key has, widened one
after another in the order of the objects.

The struct comes about by putting in one object after the other. A step changes the fields that are
there at their places and takes the new keys in behind them, so the proof is an induction on the
objects from the back.
-/

import CurlScribe.Proofs.FieldOrder
import Mathlib.Data.List.Induction

namespace CurlScribe.Go.GoType

open Json

/-! ### The fields for objects -/

/-- The keys of objects, each once, in the order in which they first appear. -/
def keysOf (objects : List (List (String × Value))) : List String :=
  (objects.flatMap fun members => members.map Prod.fst).eraseDups

/-- The types of the values that a key has in objects, in their order. -/
def typesAt (objects : List (List (String × Value))) (key : String) : List GoType :=
  objects.filterMap fun members => (members.lookup key).map ofValue

/-- The field for a key of objects. -/
def unionField (objects : List (List (String × Value))) (key : String) : Field GoType :=
  ⟨key, unifyAll (typesAt objects key), objects.any fun members => (members.lookup key).isNone⟩

/-- The fields for objects. -/
def unionFields (objects : List (List (String × Value))) : List (Field GoType) :=
  (keysOf objects).map (unionField objects)

/-! ### Keys -/

theorem eraseDups_of_nodup {names : List String} (distinct : names.Nodup) :
    names.eraseDups = names := by
  induction names with
  | nil => rfl
  | cons name rest inductionHypothesis =>
    obtain ⟨absent, distinctRest⟩ := List.nodup_cons.1 distinct
    have others : rest.filter (fun other => !other == name) = rest :=
      List.filter_eq_self.2 fun other member => by
        simpa using fun same : other = name => absent (same ▸ member)
    rw [List.eraseDups_cons, others, inductionHypothesis distinctRest]

theorem nodup_eraseDups (names : List String) : names.eraseDups.Nodup := by
  induction names using List.reverseRecOn with
  | nil => exact List.nodup_nil
  | append_singleton front name inductionHypothesis =>
    rw [List.eraseDups_append, List.cons_removeAll]
    split_ifs with absent
    · have new : name ∉ front.eraseDups := by
        rw [List.mem_eraseDups]
        simpa using absent
      refine List.nodup_append'.2 ⟨inductionHypothesis, List.nodup_singleton name, ?_⟩
      exact List.disjoint_singleton.2 new
    · rw [List.nil_removeAll, List.eraseDups_nil, List.append_nil]
      exact inductionHypothesis

section

variable {objects : List (List (String × Value))} {members : List (String × Value)} {key : String}

theorem lookup_eq_none_iff : members.lookup key = none ↔ key ∉ members.map Prod.fst := by
  rw [List.lookup_eq_none_iff, List.mem_map]
  constructor
  · rintro others ⟨member, present, rfl⟩
    simpa using others member present
  · intro absent member present
    simpa using fun same : key = member.1 => absent ⟨member, present, same.symm⟩

theorem mem_keysOf : key ∈ keysOf objects ↔ ∃ members ∈ objects, key ∈ members.map Prod.fst := by
  rw [keysOf, List.mem_eraseDups, List.mem_flatMap]

theorem keys_unionFields (objects : List (List (String × Value))) :
    keys (unionFields objects) = keysOf objects := by
  rw [keys, unionFields, List.map_map]
  exact List.map_id' _

/-- One more object puts its new keys behind those that are there. -/
theorem keysOf_concat (distinct : (members.map Prod.fst).Nodup) :
    keysOf (objects ++ [members]) = keysOf objects ++
      (members.filter fun member => member.1 ∉ keysOf objects).map Prod.fst := by
  have new : (members.map Prod.fst).removeAll
        (objects.flatMap fun members => members.map Prod.fst) =
      (members.filter fun member => member.1 ∉ keysOf objects).map Prod.fst := by
    rw [List.removeAll, List.filter_map]
    refine congrArg (List.map Prod.fst) (List.filter_congr fun member _ => ?_)
    rw [Function.comp_apply, List.elem_eq_mem, ← decide_not]
    exact decide_eq_decide.2 (not_congr List.mem_eraseDups.symm)
  have distinctNew : ((members.filter fun member => member.1 ∉ keysOf objects).map
      Prod.fst).Nodup :=
    distinct.sublist (List.filter_sublist.map _)
  rw [keysOf, List.flatMap_append, List.flatMap_singleton, List.eraseDups_append, new,
    eraseDups_of_nodup distinctNew, ← keysOf]

/-! ### One more object -/

theorem lookUp_fieldsOf (members : List (String × Value)) (key : String) :
    lookUp (fieldsOf members) key =
      (members.lookup key).map fun value => ⟨key, ofValue value, false⟩ := by
  induction members with
  | nil => rfl
  | cons member rest inductionHypothesis =>
    obtain ⟨name, value⟩ := member
    rw [fieldsOf, lookUp_cons, List.lookup_cons]
    by_cases same : name = key
    · subst same
      simp
    · have other : (key == name) = false := by simpa using Ne.symm same
      rw [if_neg same, other, inductionHypothesis]

theorem fieldsBeyond_fieldsOf (known : List (Field GoType)) (members : List (String × Value)) :
    fieldsBeyond known (fieldsOf members) =
      fieldsOf (members.filter fun member => member.1 ∉ keys known) := by
  rw [fieldsOf_eq_map, fieldsOf_eq_map, fieldsBeyond, List.filter_map]
  refine congrArg (List.map _) (List.filter_congr fun member _ => ?_)
  rw [Function.comp_apply, Bool.eq_iff_iff]
  simp [keys]

theorem typesAt_concat (objects : List (List (String × Value))) (members : List (String × Value))
    (key : String) :
    typesAt (objects ++ [members]) key =
      typesAt objects key ++ ((members.lookup key).map ofValue).toList := by
  rw [typesAt, List.filterMap_append, ← typesAt]
  cases found : members.lookup key with
  | none => rw [List.filterMap_cons_none (by rw [found]; rfl), List.filterMap_nil]; rfl
  | some value => rw [List.filterMap_cons_some (by rw [found]; rfl), List.filterMap_nil]; rfl

theorem unifyAll_concat {types : List GoType} (nonempty : types ≠ []) (type : GoType) :
    unifyAll (types ++ [type]) = unify (unifyAll types) type := by
  cases types with
  | nil => exact absurd rfl nonempty
  | cons first rest => exact List.foldl_concat _ _ _ _

theorem typesAt_eq_nil_iff : typesAt objects key = [] ↔ key ∉ keysOf objects := by
  simp only [typesAt, List.filterMap_eq_nil_iff, Option.map_eq_none_iff, lookup_eq_none_iff,
    mem_keysOf, not_exists, not_and]

/-- The field for a key that is there is put together with what one more object says of the key. -/
theorem unionField_concat_of_mem (members : List (String × Value))
    (present : key ∈ keysOf objects) :
    unionField (objects ++ [members]) key =
      widened (unionField objects key) (lookUp (fieldsOf members) key) := by
  have nonempty : typesAt objects key ≠ [] := fun empty => typesAt_eq_nil_iff.1 empty present
  rw [lookUp_fieldsOf]
  unfold unionField
  rw [typesAt_concat, List.any_append]
  cases found : members.lookup key with
  | none => simp [widened, asOptional, found]
  | some value => simp [widened, found, unifyAll_concat nonempty]

/-- A key that comes in with one more object is one that all objects before it lack. -/
theorem unionField_concat_of_not_mem (nonempty : objects ≠ [])
    (absent : key ∉ keysOf objects) {value : Value} (found : members.lookup key = some value) :
    unionField (objects ++ [members]) key = asOptional ⟨key, ofValue value, false⟩ := by
  obtain ⟨first, rest, rfl⟩ := List.exists_cons_of_ne_nil nonempty
  have lacking : (first.lookup key).isNone = true := by
    rw [Option.isNone_iff_eq_none, lookup_eq_none_iff]
    exact fun there => absent (mem_keysOf.2 ⟨first, List.mem_cons_self, there⟩)
  unfold unionField
  rw [typesAt_concat, typesAt_eq_nil_iff.2 absent, found]
  simp [asOptional, lacking, unifyAll]

/-- Without a repeated name, the value of a member is the one that its name looks up. -/
theorem lookup_of_mem (distinct : (members.map Prod.fst).Nodup) {member : String × Value}
    (present : member ∈ members) : members.lookup member.1 = some member.2 := by
  obtain ⟨before, after, rfl⟩ := List.append_of_mem present
  rw [List.map_append, List.nodup_append'] at distinct
  refine List.lookup_eq_some_iff.2 ⟨before, after, rfl, fun other earlier => ?_⟩
  simpa using fun same : member.1 = other.1 =>
    distinct.2.2 (List.mem_map_of_mem earlier) (same ▸ List.mem_cons_self)

/-- Putting in one more object keeps the struct the one for the objects so far. -/
theorem merge_unionFields (nonempty : objects ≠ []) (distinct : (members.map Prod.fst).Nodup) :
    merge (unionFields objects) (fieldsOf members) = unionFields (objects ++ [members]) := by
  have kept : (unionFields objects).map
        (fun field => widened field (lookUp (fieldsOf members) field.key)) =
      (keysOf objects).map (unionField (objects ++ [members])) := by
    rw [unionFields, List.map_map]
    exact List.map_congr_left fun key present =>
      (unionField_concat_of_mem members present).symm
  have added : (fieldsBeyond (unionFields objects) (fieldsOf members)).map asOptional =
      ((members.filter fun member => member.1 ∉ keysOf objects).map Prod.fst).map
        (unionField (objects ++ [members])) := by
    rw [fieldsBeyond_fieldsOf, fieldsOf_eq_map, List.map_map, List.map_map, keys_unionFields]
    refine List.map_congr_left fun member new => ?_
    obtain ⟨present, absent⟩ := List.mem_filter.1 new
    exact (unionField_concat_of_not_mem nonempty (by simpa using absent)
      (lookup_of_mem distinct present)).symm
  rw [merge_eq, kept, added, ← List.map_append, ← keysOf_concat distinct, ← unionFields]

theorem unionFields_singleton (distinct : (members.map Prod.fst).Nodup) :
    unionFields [members] = fieldsOf members := by
  have single : keysOf [members] = members.map Prod.fst := by
    rw [keysOf, List.flatMap_singleton, eraseDups_of_nodup distinct]
  rw [unionFields, single, List.map_map, fieldsOf_eq_map]
  refine List.map_congr_left fun member present => ?_
  simp [unionField, typesAt, lookup_of_mem distinct present, unifyAll]

/-! ### All objects -/

/-- The type that holds objects is the struct of the fields for them. -/
theorem unifyAll_objects (nonempty : objects ≠ [])
    (distinct : ∀ members ∈ objects, (members.map Prod.fst).Nodup) :
    unifyAll (objects.map fun members => ofValue (.object members)) =
      .struct (unionFields objects) := by
  induction objects using List.reverseRecOn with
  | nil => exact absurd rfl nonempty
  | append_singleton front members inductionHypothesis =>
    have last := distinct members (List.mem_append_right _ List.mem_cons_self)
    by_cases empty : front = []
    · subst empty
      rw [List.nil_append, unionFields_singleton last]
      rfl
    · have before := inductionHypothesis empty
        fun other member => distinct other (List.mem_append_left _ member)
      rw [List.map_append, List.map_singleton, unifyAll_concat (by simpa using empty), before,
        ofValue, unify_struct, merge_unionFields empty last]

/-- The element type of a non-empty array of objects, none of which repeats a name. It is a struct
whose fields are the keys of the objects, each once, in the order of their first appearance. A field
is optional exactly if an object lacks its key, and its type is what the types of the values of that
key widen to, taken in the order of the objects. -/
theorem elementType_of_objects (nonempty : objects ≠ [])
    (distinct : ∀ members ∈ objects, (members.map Prod.fst).Nodup) :
    ∃ fields, ofValue (.array (objects.map .object)) = .slice (.struct fields) ∧
      keys fields = (objects.flatMap fun members => members.map Prod.fst).eraseDups ∧
      (keys fields).Nodup ∧
      ∀ field ∈ fields,
        (field.optional = true ↔ ∃ members ∈ objects, field.key ∉ members.map Prod.fst) ∧
        ∃ first rest, (objects.filterMap fun members => (members.lookup field.key).map ofValue) =
            first :: rest ∧
          field.type = rest.foldl unify first := by
  refine ⟨unionFields objects, ?_, keys_unionFields objects, ?_, fun field member => ?_⟩
  · rw [ofValue, ofValues_eq_map, List.map_map]
    exact congrArg GoType.slice (unifyAll_objects nonempty distinct)
  · rw [keys_unionFields]
    exact nodup_eraseDups _
  · obtain ⟨key, present, rfl⟩ := List.mem_map.1 member
    constructor
    · simp only [unionField, List.any_eq_true, Option.isNone_iff_eq_none, lookup_eq_none_iff]
    · have some : typesAt objects key ≠ [] := fun empty => typesAt_eq_nil_iff.1 empty present
      obtain ⟨first, rest, types⟩ := List.exists_cons_of_ne_nil some
      refine ⟨first, rest, types, ?_⟩
      rw [unionField, types]
      rfl

end

/-- Three objects: the second lacks one key of the first and brings in another, and the third puts
the keys in another order. -/
theorem elementType_of_objects_three :
    let objects : List (List (String × Value)) :=
      [[("id", .number (.integer 1)), ("name", .string "a")],
       [("extra", .boolean true), ("id", .number (.decimal 15 (-1)))],
       [("name", .null), ("id", .number (.integer 2))]]
    objects ≠ [] ∧ (∀ members ∈ objects, (members.map Prod.fst).Nodup) ∧
      ofValue (.array (objects.map .object)) = .slice (.struct
        [⟨"id", .float64, false⟩, ⟨"name", .any, true⟩, ⟨"extra", .boolean, true⟩]) ∧
      ∃ fields, ofValue (.array (objects.map .object)) = .slice (.struct fields) ∧
        keys fields = ["id", "name", "extra"] := by
  intro objects
  have nonempty : objects ≠ [] := List.cons_ne_nil _ _
  have distinct : ∀ members ∈ objects, (members.map Prod.fst).Nodup := by decide
  obtain ⟨fields, struct, inOrder, -⟩ := elementType_of_objects nonempty distinct
  exact ⟨nonempty, distinct, rfl, fields, struct, inOrder.trans rfl⟩

end CurlScribe.Go.GoType
