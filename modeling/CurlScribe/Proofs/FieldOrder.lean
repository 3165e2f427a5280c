/-
This file proves that widening is a join up to the order in which structs list their fields.
Which of two types comes first decides nothing but this order, at any depth: the fields of
the first struct keep their places and the others follow. A document whose array is
reordered therefore gets a type that differs in the order of fields at most.

The relation is generated by the one change that is meant, two neighbouring fields of a
struct trading places. To prove that two structs are related it is enough that they say the
same of each key, since no key is repeated.
-/

import CurlScribe.Go.Type.Inference
import CurlScribe.Proofs.WellFormedDocuments
import CurlScribe.Proofs.Widening
import Mathlib.Data.Option.Basic

namespace CurlScribe.Go.GoType

open Json

/-! ### Types up to the order of fields -/

/-- Types that differ at most in the order of the fields in their structs, at any depth. -/
inductive Reordered : GoType → GoType → Prop
  | refl (type : GoType) : Reordered type type
  | trans {first second third : GoType} (left : Reordered first second)
      (right : Reordered second third) : Reordered first third
  | slice {element other : GoType} (inside : Reordered element other) :
      Reordered (.slice element) (.slice other)
  | swap (first second : Field GoType) (rest : List (Field GoType)) :
      Reordered (.struct (first :: second :: rest)) (.struct (second :: first :: rest))
  | head (key : String) (optional : Bool) (rest : List (Field GoType)) {type other : GoType}
      (inside : Reordered type other) :
      Reordered (.struct (⟨key, type, optional⟩ :: rest)) (.struct (⟨key, other, optional⟩ :: rest))
  | tail (field : Field GoType) {rest others : List (Field GoType)}
      (later : Reordered (.struct rest) (.struct others)) :
      Reordered (.struct (field :: rest)) (.struct (field :: others))

theorem Reordered.of_perm {fields others : List (Field GoType)} (perm : fields.Perm others) :
    Reordered (.struct fields) (.struct others) := by
  induction perm with
  | nil => exact .refl _
  | cons field _ inductionHypothesis => exact .tail field inductionHypothesis
  | swap first second rest => exact .swap second first rest
  | trans _ _ left right => exact .trans left right

/-! ### Structs by their keys -/

/-- Fields that agree in everything but the order of fields inside of their types. -/
def SameField (first second : Field GoType) : Prop :=
  first.key = second.key ∧ first.optional = second.optional ∧ Reordered first.type second.type

theorem SameField.refl (field : Field GoType) : SameField field field :=
  ⟨rfl, rfl, .refl _⟩

theorem SameField.trans {first second third : Field GoType} (left : SameField first second)
    (right : SameField second third) : SameField first third :=
  ⟨left.1.trans right.1, left.2.1.trans right.2.1, left.2.2.trans right.2.2⟩

theorem SameField.reordered {first second : Field GoType} (same : SameField first second)
    (rest : List (Field GoType)) :
    Reordered (.struct (first :: rest)) (.struct (second :: rest)) := by
  obtain ⟨key, type, optional⟩ := first
  obtain ⟨other, otherType, otherOptional⟩ := second
  obtain ⟨sameKey, sameOptional, inside⟩ := same
  cases sameKey
  cases sameOptional
  exact .head key optional rest inside

/-- Two structs say the same of a key. -/
abbrev SaysSame (first second : Option (Field GoType)) : Prop :=
  Option.Rel SameField first second

theorem SaysSame.refl (said : Option (Field GoType)) : SaysSame said said := by
  cases said with
  | none => exact .none
  | some field => exact .some (.refl field)

theorem SaysSame.trans {first second third : Option (Field GoType)} (left : SaysSame first second)
    (right : SaysSame second third) : SaysSame first third := by
  cases left with
  | none => exact right
  | some left =>
    cases right with
    | some right => exact .some (left.trans right)

theorem SaysSame.exists_of_some {field : Field GoType} {said : Option (Field GoType)}
    (same : SaysSame (some field) said) : ∃ other, said = some other ∧ SameField field other := by
  cases same with
  | some alike => exact ⟨_, rfl, alike⟩

theorem lookUp_cons (field : Field GoType) (rest : List (Field GoType)) (key : String) :
    lookUp (field :: rest) key = if field.key = key then some field else lookUp rest key := by
  by_cases same : field.key = key <;> simp [lookUp, same]

theorem lookUp_eq_some_iff {fields : List (Field GoType)} (distinct : (keys fields).Nodup)
    {key : String} {field : Field GoType} :
    lookUp fields key = some field ↔ field ∈ fields ∧ field.key = key := by
  refine ⟨lookUp_eq_some, ?_⟩
  rintro ⟨member, rfl⟩
  exact lookUp_of_mem distinct member

theorem keys_perm {fields others : List (Field GoType)} (perm : fields.Perm others) :
    (keys fields).Perm (keys others) :=
  perm.map _

/-- Without repeated keys, the order of fields is nothing that a struct says of a key. -/
theorem lookUp_perm {fields others : List (Field GoType)} (distinct : (keys fields).Nodup)
    (perm : fields.Perm others) (key : String) : lookUp fields key = lookUp others key := by
  have distinctOthers : (keys others).Nodup := (keys_perm perm).nodup_iff.1 distinct
  refine Option.ext fun field => ?_
  rw [lookUp_eq_some_iff distinct, lookUp_eq_some_iff distinctOthers, perm.mem_iff]

/-- Structs that say the same of each key differ at most in the order of fields. -/
theorem Reordered.of_lookUp {fields others : List (Field GoType)} (distinct : (keys fields).Nodup)
    (distinctOthers : (keys others).Nodup)
    (same : ∀ key, SaysSame (lookUp fields key) (lookUp others key)) :
    Reordered (.struct fields) (.struct others) := by
  induction fields generalizing others with
  | nil =>
    cases others with
    | nil => exact .refl _
    | cons other rest =>
      have absent := same other.key
      rw [lookUp_cons, if_pos rfl] at absent
      cases absent
  | cons field rest inductionHypothesis =>
    obtain ⟨absent, distinctRest⟩ := List.nodup_cons.1 distinct
    have found := same field.key
    rw [lookUp_cons, if_pos rfl] at found
    obtain ⟨other, said, alike⟩ := found.exists_of_some
    obtain ⟨before, after, rfl⟩ := List.append_of_mem (lookUp_eq_some said).1
    have moved : (before ++ other :: after).Perm (other :: (before ++ after)) := List.perm_middle
    obtain ⟨absentOther, distinctRemaining⟩ :=
      List.nodup_cons.1 ((keys_perm moved).nodup_iff.1 distinctOthers)
    have remaining : ∀ key, SaysSame (lookUp rest key) (lookUp (before ++ after) key) := by
      intro key
      by_cases here : field.key = key
      · rw [lookUp_eq_none_iff.2 (here ▸ absent),
          lookUp_eq_none_iff.2 (here ▸ alike.1 ▸ absentOther)]
        exact .none
      · have there := same key
        rwa [lookUp_cons, if_neg here, lookUp_perm distinctOthers moved, lookUp_cons,
          if_neg (alike.1 ▸ here)] at there
    exact (alike.reordered rest).trans
      ((Reordered.tail other (inductionHypothesis distinctRest distinctRemaining remaining)).trans
        (.of_perm moved.symm))

/-- What is left of the fields of a struct when they change places. -/
structure SameFields (fields others : List (Field GoType)) : Prop where
  perm : (keys fields).Perm (keys others)
  alike : (keys fields).Nodup → ∀ key, SaysSame (lookUp fields key) (lookUp others key)

/-- The forms of types that differ in the order of fields. -/
inductive Aligned : GoType → GoType → Prop
  | same (type : GoType) : Aligned type type
  | slice {element other : GoType} (inside : Reordered element other) :
      Aligned (.slice element) (.slice other)
  | struct {fields others : List (Field GoType)} (same : SameFields fields others) :
      Aligned (.struct fields) (.struct others)

theorem SameFields.refl (fields : List (Field GoType)) : SameFields fields fields :=
  ⟨.refl _, fun _ _ => .refl _⟩

theorem SameFields.trans {first second third : List (Field GoType)}
    (left : SameFields first second) (right : SameFields second third) :
    SameFields first third :=
  ⟨left.perm.trans right.perm, fun distinct key =>
    (left.alike distinct key).trans (right.alike (left.perm.nodup_iff.1 distinct) key)⟩

theorem SameFields.swap (first second : Field GoType) (rest : List (Field GoType)) :
    SameFields (first :: second :: rest) (second :: first :: rest) :=
  ⟨.swap _ _ _, fun distinct key => lookUp_perm distinct (.swap _ _ _) key ▸ .refl _⟩

theorem SameFields.cons {field other : Field GoType} (alike : SameField field other)
    {rest others : List (Field GoType)} (later : SameFields rest others) :
    SameFields (field :: rest) (other :: others) := by
  refine ⟨?_, fun distinct key => ?_⟩
  · show (field.key :: keys rest).Perm (other.key :: keys others)
    rw [alike.1]
    exact later.perm.cons _
  · rw [lookUp_cons, lookUp_cons, alike.1]
    split_ifs
    · exact .some alike
    · exact later.alike (List.nodup_cons.1 distinct).2 key

/-- Reordering changes the order of fields and nothing else. -/
theorem Reordered.aligned {type other : GoType} (same : Reordered type other) :
    Aligned type other := by
  induction same with
  | refl type => exact .same type
  | trans _ _ left right =>
    cases left with
    | same => exact right
    | slice inside =>
      cases right with
      | same => exact .slice inside
      | slice insideRight => exact .slice (inside.trans insideRight)
    | struct fields =>
      cases right with
      | same => exact .struct fields
      | struct fieldsRight => exact .struct (fields.trans fieldsRight)
  | slice inside => exact .slice inside
  | swap first second rest => exact .struct (.swap first second rest)
  | @head key optional rest type other inside =>
    have alike : SameField ⟨key, type, optional⟩ ⟨key, other, optional⟩ := ⟨rfl, rfl, inside⟩
    exact .struct (.cons alike (.refl rest))
  | tail field _ aligned =>
    cases aligned with
    | same => exact .struct (.refl _)
    | struct fields => exact .struct (.cons (.refl field) fields)

/-! ### Widening either way round -/

theorem together_comm {first second : Option (Field GoType)}
    (commutes : ∀ field ∈ first, ∀ other ∈ second, field.key = other.key ∧
      Reordered (unify field.type other.type) (unify other.type field.type)) :
    SaysSame (together first second) (together second first) := by
  cases first with
  | none => cases second <;> exact .refl _
  | some field =>
    cases second with
    | none => exact .refl _
    | some other =>
      obtain ⟨sameKey, inside⟩ := commutes field rfl other rfl
      exact .some ⟨sameKey, Bool.or_comm _ _, inside⟩

/-- Which of two types comes first decides nothing but the order of fields. -/
theorem unify_comm_reordered {first second : GoType} (distinctFirst : first.HasDistinctKeys)
    (distinctSecond : second.HasDistinctKeys) :
    Reordered (unify first second) (unify second first) := by
  induction distinctFirst generalizing second with
  | any =>
    rw [unify_any_left, unify_any_right]
    exact .refl _
  | boolean | string | int | int64 | float64 => cases second <;> exact .refl _
  | slice inside inductionHypothesis =>
    cases distinctSecond with
    | slice insideSecond => exact .slice (inductionHypothesis insideSecond)
    | _ => exact .refl _
  | @struct fields distinct inside inductionHypothesis =>
    cases distinctSecond with
    | @struct others distinctOthers insideOthers =>
      rw [unify_struct, unify_struct]
      refine .of_lookUp (nodup_keys_merge distinct distinctOthers)
        (nodup_keys_merge distinctOthers distinct) fun key => ?_
      rw [lookUp_merge, lookUp_merge]
      refine together_comm fun field said other saidOther => ?_
      obtain ⟨member, sameKey⟩ := lookUp_eq_some said
      obtain ⟨memberOther, sameKeyOther⟩ := lookUp_eq_some saidOther
      exact ⟨sameKey.trans sameKeyOther.symm,
        inductionHypothesis field member (insideOthers other memberOther)⟩
    | _ => exact .refl _

/-! ### Widening of reordered types -/

theorem together_congr_left {first other second : Option (Field GoType)}
    (same : SaysSame first other)
    (inside : ∀ field ∈ first, ∀ type, Reordered field.type type → ∀ beside ∈ second,
      Reordered (unify field.type beside.type) (unify type beside.type)) :
    SaysSame (together first second) (together other second) := by
  cases same with
  | none => exact .refl _
  | @some field other alike =>
    obtain ⟨sameKey, sameOptional, types⟩ := alike
    cases second with
    | none => exact .some ⟨sameKey, rfl, types⟩
    | some beside =>
      exact .some ⟨sameKey, congrArg (· || beside.optional) sameOptional,
        inside field rfl other.type types beside rfl⟩

/-- Reordering the first of two types reorders what they widen to. -/
theorem Reordered.unify_left {first other second : GoType} (same : Reordered first other)
    (distinctFirst : first.HasDistinctKeys) (distinctSecond : second.HasDistinctKeys) :
    Reordered (unify first second) (unify other second) := by
  induction distinctFirst generalizing other second with
  | any | boolean | string | int | int64 | float64 =>
    cases same.aligned
    exact .refl _
  | slice inside inductionHypothesis =>
    cases same.aligned with
    | same => exact .refl _
    | slice element =>
      cases distinctSecond with
      | slice insideSecond => exact .slice (inductionHypothesis element insideSecond)
      | _ => exact .refl _
  | @struct fields distinct inside inductionHypothesis =>
    cases same.aligned with
    | same => exact .refl _
    | @struct _ others fieldsSame =>
      cases distinctSecond with
      | @struct besides distinctBesides insideBesides =>
        rw [unify_struct, unify_struct]
        refine .of_lookUp (nodup_keys_merge distinct distinctBesides)
          (nodup_keys_merge (fieldsSame.perm.nodup_iff.1 distinct) distinctBesides) fun key => ?_
        rw [lookUp_merge, lookUp_merge]
        refine together_congr_left (fieldsSame.alike distinct key) ?_
        intro field said type types beside saidBeside
        exact inductionHypothesis field (lookUp_eq_some said).1 types
          (insideBesides beside (lookUp_eq_some saidBeside).1)
      | _ => exact .refl _

/-- Reordering the second of two types reorders what they widen to. -/
theorem Reordered.unify_right {first second other : GoType} (same : Reordered second other)
    (distinctFirst : first.HasDistinctKeys) (distinctSecond : second.HasDistinctKeys)
    (distinctOther : other.HasDistinctKeys) :
    Reordered (unify first second) (unify first other) :=
  (unify_comm_reordered distinctFirst distinctSecond).trans
    ((same.unify_left distinctSecond distinctFirst).trans
      (unify_comm_reordered distinctOther distinctFirst))

/-! ### Many types -/

section Many

variable {types others : List GoType} {start other : GoType}

theorem reordered_foldl_start (same : Reordered start other) (distinct : start.HasDistinctKeys)
    (all : ∀ type ∈ types, type.HasDistinctKeys) :
    Reordered (types.foldl unify start) (types.foldl unify other) := by
  induction types generalizing start other with
  | nil => exact same
  | cons type rest inductionHypothesis =>
    obtain ⟨here, later⟩ := List.forall_mem_cons.1 all
    exact inductionHypothesis (same.unify_left distinct here) (distinct.unify here) later

/-- Two types that come one after the other can come the other way round. -/
theorem reordered_unify_swap {first second : GoType} (distinct : start.HasDistinctKeys)
    (distinctFirst : first.HasDistinctKeys) (distinctSecond : second.HasDistinctKeys) :
    Reordered (unify (unify start first) second) (unify (unify start second) first) := by
  rw [unify_assoc_of_distinct distinct, unify_assoc_of_distinct distinct]
  exact (unify_comm_reordered distinctFirst distinctSecond).unify_right distinct
    (distinctFirst.unify distinctSecond) (distinctSecond.unify distinctFirst)

theorem reordered_foldl_perm (perm : types.Perm others) (distinct : start.HasDistinctKeys)
    (all : ∀ type ∈ types, type.HasDistinctKeys) :
    Reordered (types.foldl unify start) (others.foldl unify start) := by
  induction perm generalizing start with
  | nil => exact .refl _
  | cons type _ inductionHypothesis =>
    obtain ⟨here, later⟩ := List.forall_mem_cons.1 all
    exact inductionHypothesis (distinct.unify here) later
  | swap first second rest =>
    obtain ⟨distinctSecond, later⟩ := List.forall_mem_cons.1 all
    obtain ⟨distinctFirst, later⟩ := List.forall_mem_cons.1 later
    exact reordered_foldl_start (reordered_unify_swap distinct distinctSecond distinctFirst)
      ((distinct.unify distinctSecond).unify distinctFirst) later
  | trans perm _ left right =>
    exact (left distinct all).trans
      (right distinct fun type member => all type (perm.mem_iff.2 member))

/-- The order of types decides nothing but the order of fields in the type that holds them all. -/
theorem reordered_unifyAll_perm (perm : types.Perm others)
    (all : ∀ type ∈ types, type.HasDistinctKeys) :
    Reordered (unifyAll types) (unifyAll others) := by
  induction perm with
  | nil => exact .refl _
  | cons type perm _ =>
    obtain ⟨here, later⟩ := List.forall_mem_cons.1 all
    exact reordered_foldl_perm perm here later
  | swap first second rest =>
    obtain ⟨distinctSecond, later⟩ := List.forall_mem_cons.1 all
    obtain ⟨distinctFirst, later⟩ := List.forall_mem_cons.1 later
    exact reordered_foldl_start (unify_comm_reordered distinctSecond distinctFirst)
      (distinctSecond.unify distinctFirst) later
  | trans perm _ left right =>
    exact (left all).trans (right fun type member => all type (perm.mem_iff.2 member))

end Many

/-! ### Types of documents -/

theorem hasDistinctKeys_foldl {types : List GoType} {start : GoType}
    (distinct : start.HasDistinctKeys) (all : ∀ type ∈ types, type.HasDistinctKeys) :
    (types.foldl unify start).HasDistinctKeys := by
  induction types generalizing start with
  | nil => exact distinct
  | cons type rest inductionHypothesis =>
    obtain ⟨here, later⟩ := List.forall_mem_cons.1 all
    exact inductionHypothesis (distinct.unify here) later

theorem hasDistinctKeys_unifyAll {types : List GoType}
    (all : ∀ type ∈ types, type.HasDistinctKeys) : (unifyAll types).HasDistinctKeys := by
  cases types with
  | nil => exact .any
  | cons type rest =>
    obtain ⟨here, later⟩ := List.forall_mem_cons.1 all
    exact hasDistinctKeys_foldl here later

theorem keys_fieldsOf (members : List (String × Value)) :
    keys (fieldsOf members) = members.map Prod.fst := by
  rw [fieldsOf_eq_map, keys, List.map_map]
  rfl

theorem hasDistinctKeys_ofNumber (number : Number) : (ofNumber number).HasDistinctKeys := by
  cases number with
  | integer value =>
    rw [ofNumber]
    split_ifs
    · exact .int
    · exact .int64
  | decimal => exact .float64

/-- In the type of a well-formed document, no struct repeats a key. -/
theorem hasDistinctKeys_ofValue {value : Value} (formed : value.IsWellFormed) :
    (ofValue value).HasDistinctKeys := by
  induction formed with
  | null => exact .any
  | boolean => exact .boolean
  | string => exact .string
  | integer | decimal =>
    rw [ofValue]
    exact hasDistinctKeys_ofNumber _
  | @array items inside inductionHypothesis =>
    refine .slice (hasDistinctKeys_unifyAll fun type member => ?_)
    rw [ofValues_eq_map] at member
    obtain ⟨item, memberItem, rfl⟩ := List.mem_map.1 member
    exact inductionHypothesis item memberItem
  | @object members distinct inside inductionHypothesis =>
    refine .struct (keys_fieldsOf members ▸ distinct) fun field memberField => ?_
    rw [fieldsOf_eq_map] at memberField
    obtain ⟨member, found, rfl⟩ := List.mem_map.1 memberField
    exact inductionHypothesis member found

/-- Elements in another order give an array a type that differs in the order of fields at most. -/
theorem exists_elements_of_perm {items others : List Value} (perm : items.Perm others)
    (formed : ∀ item ∈ items, item.IsWellFormed) :
    ∃ element other, ofValue (.array items) = .slice element ∧
      ofValue (.array others) = .slice other ∧ Reordered element other := by
  refine ⟨unifyAll (items.map ofValue), unifyAll (others.map ofValue), ?_, ?_,
    reordered_unifyAll_perm (perm.map ofValue) fun type member => ?_⟩
  · rw [ofValue, ofValues_eq_map]
  · rw [ofValue, ofValues_eq_map]
  · obtain ⟨item, memberItem, rfl⟩ := List.mem_map.1 member
    exact hasDistinctKeys_ofValue (formed item memberItem)

/-- Widening is a join. On the types in which no struct repeats a key, and it stays among these, it
is idempotent, associative with all fields in the same places and equally optional, and commutative
up to the order of fields; the type that holds everything absorbs all others. The order of the
elements of an array therefore decides nothing but the order of fields in their type. -/
theorem unify_isJoin :
    (∀ type : GoType, type.HasDistinctKeys → unify type type = type) ∧
      (∀ first second third : GoType, first.HasDistinctKeys → second.HasDistinctKeys →
        third.HasDistinctKeys →
        unify (unify first second) third = unify first (unify second third)) ∧
      (∀ first second : GoType, first.HasDistinctKeys → second.HasDistinctKeys →
        (unify first second).HasDistinctKeys ∧
          Reordered (unify first second) (unify second first)) ∧
      (∀ type : GoType, unify .any type = .any ∧ unify type .any = .any) ∧
      ∀ items others : List Value, items.Perm others → (∀ item ∈ items, item.IsWellFormed) →
        ∃ element other, ofValue (.array items) = .slice element ∧
          ofValue (.array others) = .slice other ∧ Reordered element other := by
  refine ⟨fun type => unify_self, ?_, ?_, ?_, fun items others => exists_elements_of_perm⟩
  · exact fun first second third distinct _ _ => unify_assoc_of_distinct distinct second third
  · exact fun first second distinctFirst distinctSecond =>
      ⟨distinctFirst.unify distinctSecond, unify_comm_reordered distinctFirst distinctSecond⟩
  · exact fun type => ⟨unify_any_left type, unify_any_right type⟩

/-- These structs share a key and have one of their own each; put together either way round, they
differ in the place of one field. -/
theorem unify_isJoin_two_structs :
    let first := GoType.struct [⟨"id", .int, false⟩, ⟨"name", .string, false⟩]
    let second := GoType.struct [⟨"extra", .boolean, false⟩, ⟨"id", .int64, false⟩]
    first.HasDistinctKeys ∧ second.HasDistinctKeys ∧ unify first first = first ∧
      unify (unify first second) first = unify first (unify second first) ∧
      unify first second =
        .struct [⟨"id", .int64, false⟩, ⟨"name", .string, true⟩, ⟨"extra", .boolean, true⟩] ∧
      Reordered (unify first second) (unify second first) ∧
      ∃ element other,
        ofValue (.array [.object [("id", .null)], .object [("name", .null)]]) = .slice element ∧
          ofValue (.array [.object [("name", .null)], .object [("id", .null)]]) = .slice other ∧
            Reordered element other := by
  intro first second
  have distinctFirst : first.HasDistinctKeys :=
    .struct (by decide) (List.forall_mem_cons.2 ⟨.int, List.forall_mem_singleton.2 .string⟩)
  have distinctSecond : second.HasDistinctKeys :=
    .struct (by decide) (List.forall_mem_cons.2 ⟨.boolean, List.forall_mem_singleton.2 .int64⟩)
  have object : ∀ name, (Value.object [(name, .null)]).IsWellFormed :=
    fun name => .object (List.nodup_singleton name) (List.forall_mem_singleton.2 .null)
  have formed : ∀ item ∈ [Value.object [("id", .null)], .object [("name", .null)]],
      item.IsWellFormed :=
    List.forall_mem_cons.2 ⟨object "id", List.forall_mem_singleton.2 (object "name")⟩
  obtain ⟨idempotent, associative, commutative, -, elements⟩ := unify_isJoin
  exact ⟨distinctFirst, distinctSecond, idempotent first distinctFirst,
    associative first second first distinctFirst distinctSecond distinctFirst, rfl,
    (commutative first second distinctFirst distinctSecond).2,
    elements _ _ (.swap _ _ []) formed⟩

end CurlScribe.Go.GoType
