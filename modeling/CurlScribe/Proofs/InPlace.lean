/-
This file infers types in the way in which a machine does it. Structs are put together in place:
each field of the second struct is looked for among the fields so far, which change and grow on
the way, and a list of marks, which does not grow, says which of the first fields were found.
Such a computation stops without a result where it reaches for a place that is not there, and it
writes down every type that it makes and every mark that it sets.

Since no struct repeats a key, a field that was added for one field of the second struct is never
found by another one, so only the first fields are marked. In closed form the fields so far are
those that the two structs give when the second ends there, but for the fields that wait for a
mark. At the end nothing waits, and the result is the type that was inferred without places.
-/

import CurlScribe.Proofs.FieldOrder

namespace CurlScribe.Go.GoType

open Json

/-! ### Recorded computations -/

/-- What a computation writes down: a type that it made, or that it set the mark at a place in a
list of marks of that size. -/
inductive Event where
  | made (type : GoType)
  | marked (place size : Nat)

/-- No struct of a type that was made repeats a key, and a mark that was set is there. -/
def Event.IsSound : Event → Prop
  | .made type => type.HasDistinctKeys
  | .marked place size => place < size

/-- A computation with what it writes down. It has no result if it reaches for a place that is not
there. -/
structure Recorded (Result : Type) where
  events : List Event
  result : Option Result

namespace Recorded

section

variable {First Second : Type}

/-- One computation and then the next, unless the first stops. -/
def andThen (first : Recorded First) (next : First → Recorded Second) : Recorded Second :=
  match first.result with
  | none => ⟨first.events, none⟩
  | some value => ⟨first.events ++ (next value).events, (next value).result⟩

instance : Monad Recorded where
  pure value := ⟨[], some value⟩
  bind := andThen

/-- Write down an event. -/
def note (event : Event) : Recorded Unit := ⟨[event], some ()⟩

/-- Reach for something, and stop if it is not there. -/
def reach (found : Option First) : Recorded First := ⟨[], found⟩

/-- The computation does not stop, it has the result, and all that it writes down is sound. -/
structure Settles (computation : Recorded First) (value : First) : Prop where
  result : computation.result = some value
  sound : ∀ event ∈ computation.events, event.IsSound

theorem settles_pure (value : First) : Settles (pure value : Recorded First) value :=
  ⟨rfl, nofun⟩

theorem settles_note {event : Event} (sound : event.IsSound) : Settles (note event) () :=
  ⟨rfl, List.forall_mem_singleton.2 sound⟩

theorem settles_reach {found : Option First} {value : First} (there : found = some value) :
    Settles (reach found) value :=
  ⟨there, nofun⟩

theorem Settles.bind {first : Recorded First} {next : First → Recorded Second} {value : First}
    {result : Second} (isFirst : first.Settles value) (isNext : (next value).Settles result) :
    (first >>= next).Settles result := by
  have whole : first >>= next = ⟨first.events ++ (next value).events, (next value).result⟩ := by
    show andThen first next = _
    rw [andThen, isFirst.result]
  rw [whole]
  exact ⟨isNext.result, fun event member =>
    (List.mem_append.1 member).elim (isFirst.sound event) (isNext.sound event)⟩

end

end Recorded

/-- Make a type, and write it down. -/
def make (type : GoType) : Recorded GoType := do
  .note (.made type)
  return type

theorem settles_make {type : GoType} (distinct : type.HasDistinctKeys) :
    (make type).Settles type := by
  have sound : (Event.made type).IsSound := distinct
  exact (Recorded.settles_note sound).bind (Recorded.settles_pure type)

theorem hasDistinctKeys_struct_iff {fields : List (Field GoType)} :
    (struct fields).HasDistinctKeys ↔
      (keys fields).Nodup ∧ ∀ field ∈ fields, field.type.HasDistinctKeys := by
  constructor
  · intro distinct
    cases distinct with
    | struct apart inside => exact ⟨apart, inside⟩
  · rintro ⟨apart, inside⟩
    exact .struct apart inside

/-! ### Equal types -/

mutual

/-- Whether two types are the same. -/
def same : GoType → GoType → Bool
  | .any, .any | .boolean, .boolean | .string, .string => true
  | .int, .int | .int64, .int64 | .float64, .float64 => true
  | .slice first, .slice second => same first second
  | .struct first, .struct second => sameFields first second
  | _, _ => false

/-- Whether two lists of fields are the same. -/
def sameFields : List (Field GoType) → List (Field GoType) → Bool
  | [], [] => true
  | ⟨key, type, optional⟩ :: rest, ⟨otherKey, otherType, otherOptional⟩ :: others =>
    key == otherKey && same type otherType && optional == otherOptional && sameFields rest others
  | _, _ => false

end

mutual

theorem same_iff : (first second : GoType) → (same first second = true ↔ first = second)
  | .slice first, .slice second => by
    rw [same, same_iff first second, slice.injEq]
  | .struct first, .struct second => by
    rw [same, sameFields_iff first second, struct.injEq]
  | .any, second | .boolean, second | .string, second => by
    cases second <;> simp [same]
  | .int, second | .int64, second | .float64, second => by
    cases second <;> simp [same]
  | .slice _, .any | .slice _, .boolean | .slice _, .string | .slice _, .int | .slice _, .int64
  | .slice _, .float64 | .slice _, .struct _ => by
    simp [same]
  | .struct _, .any | .struct _, .boolean | .struct _, .string | .struct _, .int
  | .struct _, .int64 | .struct _, .float64 | .struct _, .slice _ => by
    simp [same]

theorem sameFields_iff : (first second : List (Field GoType)) →
    (sameFields first second = true ↔ first = second)
  | [], [] => by simp [sameFields]
  | [], _ :: _ => by simp [sameFields]
  | _ :: _, [] => by simp [sameFields]
  | ⟨key, type, optional⟩ :: rest, ⟨otherKey, otherType, otherOptional⟩ :: others => by
    simp only [sameFields, Bool.and_eq_true, beq_iff_eq, same_iff type otherType,
      sameFields_iff rest others, List.cons.injEq, Field.mk.injEq]
    exact and_congr_left' and_assoc

end

/-! ### Putting structs together in place -/

/-- The fields that others are put into, and the marks: whether a field that was there at the start
was found. -/
structure Merging where
  fields : List (Field GoType)
  marks : List Bool

namespace Merging

/-- Before the first turn nothing is marked. -/
def start (fields : List (Field GoType)) : Merging :=
  ⟨fields, List.replicate fields.length false⟩

/-- Put in one more field. A field of its key is widened, and its type is taken out meanwhile; a
field of a new key is added. -/
def turn (widen : GoType → Recorded GoType) (field : Field GoType) (state : Merging) :
    Recorded Merging :=
  match state.fields.findIdx? (·.key == field.key) with
  | none => do
    let fields := state.fields ++ [asOptional field]
    .note (.made (.struct fields))
    return ⟨fields, state.marks⟩
  | some place => do
    let existing ← Recorded.reach state.fields[place]?
    .note (.made (.struct (state.fields.set place { existing with type := .any })))
    let type ← widen existing.type
    let fields := state.fields.set place ⟨existing.key, type, existing.optional || field.optional⟩
    .note (.made (.struct fields))
    .note (.marked place state.marks.length)
    .reach (if place < state.marks.length then some ⟨fields, state.marks.set place true⟩ else none)

end Merging

/-- The fields, those without a mark made optional. Fields beyond the marks stay as they are. -/
def markOptional : List (Field GoType) → List Bool → List (Field GoType)
  | field :: rest, mark :: marks =>
    (if mark then field else asOptional field) :: markOptional rest marks
  | fields, _ => fields

mutual

/-- Widen two types to one that holds both. -/
def unifyInPlace : GoType → GoType → Recorded GoType
  | first, second =>
    if same first second then make first
    else
      match first, second with
      | .int, .int64 | .int64, .int => make .int64
      | .slice first, .slice second => do make (.slice (← unifyInPlace first second))
      | .struct first, .struct second => do
        let last ← mergeInto (.start first) second
        make (.struct (markOptional last.fields last.marks))
      | first, second =>
        make (if first.kind = .number ∧ second.kind = .number then .float64 else .any)

/-- Put fields in, one after the other. -/
def mergeInto (state : Merging) : List (Field GoType) → Recorded Merging
  | [] => return state
  | ⟨key, type, optional⟩ :: rest => do
    let next ← state.turn (fun existing => unifyInPlace existing type) ⟨key, type, optional⟩
    mergeInto next rest

end

mutual

/-- The type of a document. -/
def inferInPlace : Value → Recorded GoType
  | .null => make .any
  | .boolean _ => make .boolean
  | .string _ => make .string
  | .number number => make (ofNumber number)
  | .array items => do
    let element ← inferElements none items
    make (.slice (element.getD .any))
  | .object members => do make (.struct (← inferFields members))

/-- The type that holds what the items before and all items of a list hold. -/
def inferElements (before : Option GoType) : List Value → Recorded (Option GoType)
  | [] => return before
  | item :: rest => do
    let type ← inferInPlace item
    let joined ← match before with
      | none => pure type
      | some before => unifyInPlace before type
    inferElements (some joined) rest

/-- The fields for the members of an object. -/
def inferFields : List (String × Value) → Recorded (List (Field GoType))
  | [] => return []
  | (name, value) :: rest => do
    let type ← inferInPlace value
    return ⟨name, type, false⟩ :: (← inferFields rest)

end

/-- A key that the second struct repeats is found among the added fields, which have no marks. -/
example :
    (unifyInPlace (.struct []) (.struct [⟨"a", .int, false⟩, ⟨"a", .string, false⟩])).result.isNone =
      true := by
  decide

/-! ### The closed form -/

/-- A field after the turns so far: widened if its key was found, and waiting for a mark if not. -/
def waiting (field : Field GoType) : Option (Field GoType) → Field GoType
  | some other => widened field (some other)
  | none => field

@[simp] theorem key_waiting (field : Field GoType) (other : Option (Field GoType)) :
    (waiting field other).key = field.key := by
  cases other <;> rfl

/-- The first fields after the given fields were put in. -/
def soFar (found first : List (Field GoType)) : List (Field GoType) :=
  first.map fun field => waiting field (lookUp found field.key)

/-- Which of the first fields were found. -/
def marksFor (found first : List (Field GoType)) : List Bool :=
  first.map fun field => (lookUp found field.key).isSome

theorem keys_soFar (found first : List (Field GoType)) : keys (soFar found first) = keys first := by
  simp [soFar, keys, Function.comp_def]

theorem length_soFar (found first : List (Field GoType)) :
    (soFar found first).length = first.length :=
  List.length_map _

theorem length_marksFor (found first : List (Field GoType)) :
    (marksFor found first).length = first.length :=
  List.length_map _

theorem markOptional_soFar (found first added : List (Field GoType)) :
    markOptional (soFar found first ++ added) (marksFor found first) =
      (first.map fun field => widened field (lookUp found field.key)) ++ added := by
  induction first with
  | nil => cases added <;> rfl
  | cons field rest inductionHypothesis =>
    simp only [soFar, marksFor, List.map_cons, List.cons_append, markOptional] at inductionHypothesis ⊢
    rw [inductionHypothesis]
    cases lookUp found field.key <;> rfl

section Concat

variable {found first : List (Field GoType)} {field : Field GoType}

theorem lookUp_concat_of_ne {key : String} (other : field.key ≠ key) :
    lookUp (found ++ [field]) key = lookUp found key := by
  rw [lookUp_append, lookUp_cons, if_neg other]
  exact Option.or_none

theorem lookUp_concat_self (absent : field.key ∉ keys found) :
    lookUp (found ++ [field]) field.key = some field := by
  rw [lookUp_append, lookUp_eq_none_iff.2 absent, lookUp_cons, if_pos rfl]
  rfl

/-- One more field changes none of the fields with other keys. -/
theorem soFar_concat (absent : field.key ∉ keys first) :
    soFar (found ++ [field]) first = soFar found first :=
  List.map_congr_left fun own member => by
    rw [lookUp_concat_of_ne fun same => absent (same ▸ mem_keys member)]

theorem marksFor_concat (absent : field.key ∉ keys first) :
    marksFor (found ++ [field]) first = marksFor found first :=
  List.map_congr_left fun own member => by
    rw [lookUp_concat_of_ne fun same => absent (same ▸ mem_keys member)]

theorem fieldsBeyond_concat (known found : List (Field GoType)) (field : Field GoType) :
    fieldsBeyond known (found ++ [field]) =
      fieldsBeyond known found ++ if field.key ∈ keys known then [] else [field] := by
  rw [fieldsBeyond_append]
  refine congrArg (fieldsBeyond known found ++ ·) ?_
  split_ifs with present
  · refine List.eq_nil_iff_forall_not_mem.2 fun other member => ?_
    obtain ⟨alone, absent⟩ := mem_fieldsBeyond.1 member
    exact absent (List.mem_singleton.1 alone ▸ present)
  · refine List.filter_eq_self.2 fun other alone => ?_
    rw [List.mem_singleton.1 alone]
    simpa [keys] using present

end Concat

/-- The state after the given fields were put in. -/
def Merging.after (first found : List (Field GoType)) : Merging where
  fields := soFar found first ++ (fieldsBeyond first found).map asOptional
  marks := marksFor found first

namespace Merging

variable {first found : List (Field GoType)}

theorem after_nil (first : List (Field GoType)) : after first [] = start first := by
  simp [after, start, soFar, marksFor, lookUp, fieldsBeyond, waiting, List.map_const']

theorem keys_after (first found : List (Field GoType)) :
    keys (after first found).fields = keys (merge first found) := by
  simp [after, merge_eq, keys, soFar, Function.comp_def]

theorem markOptional_after (first found : List (Field GoType)) :
    markOptional (after first found).fields (after first found).marks = merge first found := by
  rw [merge_eq]
  exact markOptional_soFar ..

theorem after_split (front back found : List (Field GoType)) (own : Field GoType) :
    after (front ++ own :: back) found =
      ⟨soFar found front ++ waiting own (lookUp found own.key) :: (soFar found back ++
          (fieldsBeyond (front ++ own :: back) found).map asOptional),
        marksFor found front ++ (lookUp found own.key).isSome :: marksFor found back⟩ := by
  simp [after, soFar, marksFor]

/-- No struct repeats a key while fields are put in. -/
theorem hasDistinctKeys_after (distinctFirst : (struct first).HasDistinctKeys)
    (distinctFound : (struct found).HasDistinctKeys) :
    (struct (after first found).fields).HasDistinctKeys := by
  obtain ⟨distinct, inside⟩ := hasDistinctKeys_struct_iff.1 distinctFirst
  obtain ⟨distinctOthers, insideOthers⟩ := hasDistinctKeys_struct_iff.1 distinctFound
  refine .struct (keys_after first found ▸ nodup_keys_merge distinct distinctOthers) ?_
  intro field member
  rcases List.mem_append.1 member with there | added
  · obtain ⟨own, memberOwn, rfl⟩ := List.mem_map.1 there
    cases said : lookUp found own.key with
    | none => exact inside own memberOwn
    | some other =>
      exact (inside own memberOwn).unify (insideOthers other (lookUp_eq_some said).1)
  · obtain ⟨other, beyond, rfl⟩ := List.mem_map.1 added
    exact insideOthers other (mem_fieldsBeyond.1 beyond).1

end Merging

/-! ### Turns -/

/-- A field can be replaced by one of its key. -/
theorem HasDistinctKeys.replace {before behind : List (Field GoType)} {own other : Field GoType}
    (distinct : (GoType.struct (before ++ own :: behind)).HasDistinctKeys)
    (sameKey : other.key = own.key) (inside : other.type.HasDistinctKeys) :
    (GoType.struct (before ++ other :: behind)).HasDistinctKeys := by
  obtain ⟨apart, insides⟩ := hasDistinctKeys_struct_iff.1 distinct
  refine .struct ?_ fun field member => ?_
  · simpa [keys, sameKey] using apart
  · rcases List.mem_append.1 member with earlier | here
    · exact insides field (List.mem_append_left _ earlier)
    · rcases List.mem_cons.1 here with rfl | later
      · exact inside
      · exact insides field (List.mem_append_right _ (List.mem_cons_of_mem _ later))

namespace Merging

variable {first found : List (Field GoType)} {field own : Field GoType}
  {widen : GoType → Recorded GoType}

/-- A field of a new key is added. -/
theorem turn_new (new : field.key ∉ keys first) (absent : field.key ∉ keys found)
    (distinct : (struct (after first (found ++ [field])).fields).HasDistinctKeys) :
    ((after first found).turn widen field).Settles (after first (found ++ [field])) := by
  have nowhere : (after first found).fields.findIdx? (·.key == field.key) = none := by
    rw [List.findIdx?_eq_none_iff]
    intro other member
    have key := mem_keys member
    rw [keys_after, mem_keys_merge] at key
    exact beq_eq_false_iff_ne.2 fun same => (same ▸ key).elim new absent
  have next : after first (found ++ [field]) =
      ⟨(after first found).fields ++ [asOptional field], (after first found).marks⟩ := by
    rw [after, soFar_concat new, marksFor_concat new, fieldsBeyond_concat, if_neg new,
      List.map_append, ← List.append_assoc]
    rfl
  rw [next] at distinct ⊢
  have made : (Event.made (.struct ((after first found).fields ++ [asOptional field]))).IsSound :=
    distinct
  unfold turn
  rw [nowhere]
  exact (Recorded.settles_note made).bind (Recorded.settles_pure _)

/-- The field that is found is widened, and the mark at its place is set. -/
theorem turn_at {before behind : List (Field GoType)} {marks : List Bool} {type : GoType}
    (distinct : (struct (before ++ own :: behind)).HasDistinctKeys)
    (fresh : field.key ∉ keys before) (sameKey : own.key = field.key)
    (room : before.length < marks.length) (widens : (widen own.type).Settles type)
    (inside : type.HasDistinctKeys) :
    (turn widen field ⟨before ++ own :: behind, marks⟩).Settles
      ⟨before ++ ⟨own.key, type, own.optional || field.optional⟩ :: behind,
        marks.set before.length true⟩ := by
  have place : (before ++ own :: behind).findIdx? (·.key == field.key) = some before.length := by
    have earlier : before.findIdx? (·.key == field.key) = none := by
      rw [List.findIdx?_eq_none_iff]
      exact fun other member => beq_eq_false_iff_ne.2 fun same => fresh (same ▸ mem_keys member)
    simp [List.findIdx?_append, earlier, List.findIdx?_cons, sameKey]
  have there : (before ++ own :: behind)[before.length]? = some own := by
    simp
  have replaced (other : Field GoType) : (before ++ own :: behind).set before.length other =
      before ++ other :: behind := by
    simp
  have taken : (Event.made (.struct (before ++ { own with type := .any } :: behind))).IsSound :=
    distinct.replace rfl .any
  have made : (Event.made (.struct (before ++
      ⟨own.key, type, own.optional || field.optional⟩ :: behind))).IsSound :=
    distinct.replace rfl inside
  have marked : (Event.marked before.length marks.length).IsSound := room
  unfold turn
  dsimp only
  rw [place]
  simp only [replaced]
  refine (Recorded.settles_reach there).bind ?_
  refine (Recorded.settles_note taken).bind (widens.bind ?_)
  refine (Recorded.settles_note made).bind ((Recorded.settles_note marked).bind ?_)
  exact Recorded.settles_reach (if_pos room)

/-- A field of a known key is widened. Its place is among the first fields, since the fields that
were added have the keys of others. -/
theorem turn_known {front back : List (Field GoType)}
    (distinct : (struct (after (front ++ own :: back) found).fields).HasDistinctKeys)
    (apart : (keys (front ++ own :: back)).Nodup) (sameKey : own.key = field.key)
    (absent : field.key ∉ keys found) (widens : (widen own.type).Settles (unify own.type field.type))
    (inside : (unify own.type field.type).HasDistinctKeys) :
    ((after (front ++ own :: back) found).turn widen field).Settles
      (after (front ++ own :: back) (found ++ [field])) := by
  have keysApart : (keys front ++ own.key :: keys back).Nodup := by
    simpa [keys] using apart
  obtain ⟨-, unique, separate⟩ := List.nodup_append'.1 keysApart
  have notFront : field.key ∉ keys front := fun member =>
    separate member (sameKey ▸ List.mem_cons_self)
  have notBack : field.key ∉ keys back := sameKey ▸ (List.nodup_cons.1 unique).1
  have unmarked : lookUp found own.key = none := lookUp_eq_none_iff.2 (sameKey ▸ absent)
  have now : lookUp (found ++ [field]) own.key = some field := sameKey ▸ lookUp_concat_self absent
  have known : field.key ∈ keys (front ++ own :: back) := by
    simp [keys, sameKey]
  let behind := soFar found back ++ (fieldsBeyond (front ++ own :: back) found).map asOptional
  have state : after (front ++ own :: back) found =
      ⟨soFar found front ++ own :: behind,
        marksFor found front ++ false :: marksFor found back⟩ := by
    rw [after_split, unmarked]
    rfl
  have next : after (front ++ own :: back) (found ++ [field]) =
      ⟨soFar found front ++
          ⟨own.key, unify own.type field.type, own.optional || field.optional⟩ :: behind,
        (marksFor found front ++ false :: marksFor found back).set (soFar found front).length
          true⟩ := by
    rw [after_split, now, soFar_concat notFront, soFar_concat notBack, marksFor_concat notFront,
      marksFor_concat notBack, fieldsBeyond_concat, if_pos known, List.append_nil, length_soFar,
      ← length_marksFor found front]
    simp [behind, waiting, widened]
  rw [next]
  rw [state] at distinct ⊢
  refine turn_at distinct ?_ sameKey ?_ widens inside
  · rwa [keys_soFar]
  · simp [length_soFar, length_marksFor]

end Merging

/-! ### Whole computations -/

theorem HasDistinctKeys.sublist {fields others : List (Field GoType)}
    (distinct : (GoType.struct others).HasDistinctKeys) (part : fields.Sublist others) :
    (GoType.struct fields).HasDistinctKeys := by
  obtain ⟨apart, inside⟩ := hasDistinctKeys_struct_iff.1 distinct
  exact .struct (apart.sublist (part.map _)) fun field member => inside field (part.subset member)

/-- One turn keeps to the closed form. -/
theorem settles_turn {first found : List (Field GoType)} {field : Field GoType}
    {widen : GoType → Recorded GoType} (distinctFirst : (struct first).HasDistinctKeys)
    (distinct : (struct (found ++ [field])).HasDistinctKeys)
    (widens : ∀ type : GoType, type.HasDistinctKeys →
      (widen type).Settles (unify type field.type)) :
    ((Merging.after first found).turn widen field).Settles (.after first (found ++ [field])) := by
  have absent : field.key ∉ keys found := by
    have apart := (hasDistinctKeys_struct_iff.1 distinct).1
    rw [keys, List.map_append, List.nodup_append'] at apart
    exact fun member => apart.2.2 member List.mem_cons_self
  by_cases known : field.key ∈ keys first
  · obtain ⟨own, member, sameKey⟩ := List.mem_map.1 known
    obtain ⟨apart, inside⟩ := hasDistinctKeys_struct_iff.1 distinctFirst
    have insideField := (hasDistinctKeys_struct_iff.1 distinct).2 field (by simp)
    have before := Merging.hasDistinctKeys_after distinctFirst
      (distinct.sublist (List.sublist_append_left found [field]))
    have distinctOwn := inside own member
    obtain ⟨front, back, rfl⟩ := List.append_of_mem member
    exact Merging.turn_known before apart sameKey absent (widens own.type distinctOwn)
      (distinctOwn.unify insideField)
  · exact Merging.turn_new known absent (Merging.hasDistinctKeys_after distinctFirst distinct)

/-- Putting fields in one after the other keeps to the closed form. -/
theorem settles_mergeInto {first found rest : List (Field GoType)}
    (distinctFirst : (struct first).HasDistinctKeys)
    (distinct : (struct (found ++ rest)).HasDistinctKeys)
    (widens : ∀ other ∈ rest, ∀ type : GoType, type.HasDistinctKeys →
      (unifyInPlace type other.type).Settles (unify type other.type)) :
    (mergeInto (.after first found) rest).Settles (.after first (found ++ rest)) := by
  induction rest generalizing found with
  | nil =>
    rw [List.append_nil]
    exact Recorded.settles_pure _
  | cons field later inductionHypothesis =>
    obtain ⟨here, others⟩ := List.forall_mem_cons.1 widens
    have split : found ++ field :: later = found ++ [field] ++ later := by
      simp
    rw [split] at distinct ⊢
    have turn := settles_turn distinctFirst
      (distinct.sublist (List.sublist_append_left _ later)) here
    exact turn.bind (inductionHypothesis distinct others)

/-- Widening in place never reaches for a place that is not there, makes only types in which no
struct repeats a key, and comes to the type that holds both. -/
theorem settles_unifyInPlace {first second : GoType} (distinctFirst : first.HasDistinctKeys)
    (distinctSecond : second.HasDistinctKeys) :
    (unifyInPlace first second).Settles (unify first second) := by
  induction distinctSecond generalizing first with
  | any | boolean | string | int | int64 | float64 =>
    cases distinctFirst <;> exact settles_make (by constructor)
  | @slice element inside inductionHypothesis =>
    cases distinctFirst with
    | @slice own insideOwn =>
      rw [unifyInPlace, unify_slice]
      split_ifs with equal
      · obtain rfl := slice.inj ((same_iff _ _).1 equal)
        rw [unify_self inside]
        exact settles_make (.slice inside)
      · exact (inductionHypothesis insideOwn).bind (settles_make (.slice (insideOwn.unify inside)))
    | _ => exact settles_make .any
  | @struct fields distinct inside inductionHypothesis =>
    cases distinctFirst with
    | @struct own distinctOwn insideOwn =>
      have wholeOwn : (struct own).HasDistinctKeys := .struct distinctOwn insideOwn
      have whole : (struct fields).HasDistinctKeys := .struct distinct inside
      have joined := wholeOwn.unify whole
      rw [unifyInPlace]
      split_ifs with equal
      · obtain rfl := struct.inj ((same_iff _ _).1 equal)
        rw [unify_self whole]
        exact settles_make whole
      · have merged : (mergeInto (.after own []) fields).Settles (.after own ([] ++ fields)) :=
          settles_mergeInto wholeOwn whole fun other member type distinctType =>
            inductionHypothesis other member distinctType
        rw [Merging.after_nil, List.nil_append] at merged
        rw [unify_struct] at joined ⊢
        rw [← Merging.markOptional_after] at joined ⊢
        exact merged.bind (settles_make joined)
    | _ => exact settles_make .any

/-! ### Documents -/

section Documents

variable {items : List Value}

theorem settles_inferElements_some {type : GoType} (distinct : type.HasDistinctKeys)
    (distinctItems : ∀ item ∈ items, (ofValue item).HasDistinctKeys)
    (infers : ∀ item ∈ items, (inferInPlace item).Settles (ofValue item)) :
    (inferElements (some type) items).Settles (some ((items.map ofValue).foldl unify type)) := by
  induction items generalizing type with
  | nil => exact Recorded.settles_pure _
  | cons item rest inductionHypothesis =>
    obtain ⟨distinctItem, distinctRest⟩ := List.forall_mem_cons.1 distinctItems
    obtain ⟨inferred, infersRest⟩ := List.forall_mem_cons.1 infers
    have joined := settles_unifyInPlace distinct distinctItem
    rw [inferElements]
    exact inferred.bind (joined.bind
      (inductionHypothesis (distinct.unify distinctItem) distinctRest infersRest))

/-- The elements of an array come to the type that holds them all. -/
theorem exists_settles_inferElements
    (distinctItems : ∀ item ∈ items, (ofValue item).HasDistinctKeys)
    (infers : ∀ item ∈ items, (inferInPlace item).Settles (ofValue item)) :
    ∃ element, (inferElements none items).Settles element ∧
      element.getD .any = unifyAll (items.map ofValue) := by
  cases items with
  | nil => exact ⟨none, Recorded.settles_pure _, rfl⟩
  | cons item rest =>
    obtain ⟨distinctItem, distinctRest⟩ := List.forall_mem_cons.1 distinctItems
    obtain ⟨inferred, infersRest⟩ := List.forall_mem_cons.1 infers
    refine ⟨some ((rest.map ofValue).foldl unify (ofValue item)), ?_, rfl⟩
    rw [inferElements]
    exact inferred.bind ((Recorded.settles_pure _).bind
      (settles_inferElements_some distinctItem distinctRest infersRest))

theorem settles_inferFields {members : List (String × Value)}
    (infers : ∀ member ∈ members, (inferInPlace member.2).Settles (ofValue member.2)) :
    (inferFields members).Settles (fieldsOf members) := by
  induction members with
  | nil => exact Recorded.settles_pure _
  | cons member rest inductionHypothesis =>
    obtain ⟨inferred, infersRest⟩ := List.forall_mem_cons.1 infers
    rw [inferFields, fieldsOf]
    exact inferred.bind ((inductionHypothesis infersRest).bind (Recorded.settles_pure _))

end Documents

theorem settles_inferInPlace {value : Value} (formed : value.IsWellFormed) :
    (inferInPlace value).Settles (ofValue value) := by
  have distinct := hasDistinctKeys_ofValue formed
  induction formed with
  | null => exact settles_make distinct
  | boolean => exact settles_make distinct
  | string => exact settles_make distinct
  | integer | decimal => exact settles_make (hasDistinctKeys_ofNumber _)
  | @array items inside inductionHypothesis =>
    have distinctItems : ∀ item ∈ items, (ofValue item).HasDistinctKeys :=
      fun item member => hasDistinctKeys_ofValue (inside item member)
    obtain ⟨element, elements, same⟩ := exists_settles_inferElements distinctItems
      fun item member => inductionHypothesis item member (distinctItems item member)
    rw [ofValue, ofValues_eq_map, ← same] at distinct ⊢
    rw [inferInPlace]
    exact elements.bind (settles_make distinct)
  | @object members apart inside inductionHypothesis =>
    have fields := settles_inferFields fun member found =>
      inductionHypothesis member found (hasDistinctKeys_ofValue (inside member found))
    rw [ofValue] at distinct ⊢
    rw [inferInPlace]
    exact fields.bind (settles_make distinct)

/-- Inferring the type of a well-formed document in place comes to its type without reaching for a
place that is not there. In no type made on the way does a struct repeat a key, and every mark is
set at a place below the number of the fields that were there at the start. -/
theorem inferInPlace_isSafe {value : Value} (formed : value.IsWellFormed) :
    (inferInPlace value).result = some (ofValue value) ∧
      (∀ type, Event.made type ∈ (inferInPlace value).events → type.HasDistinctKeys) ∧
      ∀ place size, Event.marked place size ∈ (inferInPlace value).events → place < size := by
  obtain ⟨result, sound⟩ := settles_inferInPlace formed
  exact ⟨result, fun type made => sound _ made, fun place size marked => sound _ marked⟩

/-- Objects in an array: the key that the second brings in is found behind the fields of the first,
and the mark for it is set. -/
theorem inferInPlace_isSafe_three :
    let value := Value.array [
      .object [("a", .number (.integer 1)), ("b", .object [("c", .null)])],
      .object [("d", .boolean true), ("b", .object [("e", .string "f")])],
      .object [("d", .boolean false)]]
    value.IsWellFormed ∧ (inferInPlace value).result = some (ofValue value) ∧
      Event.marked 2 3 ∈ (inferInPlace value).events ∧ 2 < 3 := by
  intro value
  have found : read "[\x7b\x22a\x22:1,\x22b\x22:\x7b\x22c\x22:null\x7d\x7d,\x7b\x22d\x22:true,\x22b\x22:\x7b\x22e\x22:\x22f\x22\x7d\x7d,\x7b\x22d\x22:false\x7d]" =
      some value := by
    with_unfolding_all rfl
  have formed : value.IsWellFormed := isWellFormed_of_read found
  obtain ⟨result, -, below⟩ := inferInPlace_isSafe formed
  have marked : Event.marked 2 3 ∈ (inferInPlace value).events :=
    List.mem_of_getElem? (i := 20) rfl
  exact ⟨formed, result, marked, below 2 3 marked⟩

end CurlScribe.Go.GoType
