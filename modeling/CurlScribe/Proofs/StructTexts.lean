/-
This file says how the structs of a type are written. A struct may stand at any depth, behind
brackets or as the type of a field, and its text is a part of the text of the whole type: an
opening line, a line for each field, and a closing brace. The line of a field holds its name, its
type and its tag.

In the type of a document the structs stand where the document has objects. All keys of an
object are fields of the struct at its place, so each of them has a line in the definition.
-/

import CurlScribe.Go.Type.Definition
import CurlScribe.Proofs.CodeLiterals
import CurlScribe.Proofs.Conformance

namespace CurlScribe.Go

/-! ### Texts within texts -/

theorem IsWrittenIn.refl (text : String) : IsWrittenIn text text :=
  List.infix_refl _

theorem IsWrittenIn.trans {first second third : String} (inner : IsWrittenIn first second)
    (outer : IsWrittenIn second third) : IsWrittenIn first third :=
  List.IsInfix.trans inner outer

/-! ### Names of fields -/

theorem length_uniqueNames (taken keys : List String) :
    (uniqueNames taken keys).length = keys.length := by
  induction keys generalizing taken with
  | nil => rfl
  | cons key rest inductionHypothesis => exact congrArg (· + 1) (inductionHypothesis _)

theorem length_fieldNames (keys : List String) : (fieldNames keys).length = keys.length :=
  length_uniqueNames [] keys

namespace GoType

open Json

/-- The fields of a struct with the names that they get. -/
def namedFields (fields : List (Field GoType)) : List (String × Field GoType) :=
  (fieldNames (keys fields)).zip fields

theorem length_fieldNames_keys (fields : List (Field GoType)) :
    (fieldNames (keys fields)).length = fields.length := by
  rw [length_fieldNames, keys, List.length_map]

theorem map_fst_namedFields (fields : List (Field GoType)) :
    (namedFields fields).map Prod.fst = fieldNames (keys fields) :=
  List.map_fst_zip (Nat.le_of_eq (length_fieldNames_keys fields))

theorem map_snd_namedFields (fields : List (Field GoType)) :
    (namedFields fields).map Prod.snd = fields :=
  List.map_snd_zip (Nat.le_of_eq (length_fieldNames_keys fields).symm)

/-- Every field gets a name. -/
theorem exists_name_of_mem {fields : List (Field GoType)} {field : Field GoType}
    (member : field ∈ fields) : ∃ name, (name, field) ∈ namedFields fields := by
  rw [← map_snd_namedFields fields] at member
  obtain ⟨⟨name, _⟩, among, rfl⟩ := List.mem_map.1 member
  exact ⟨name, among⟩

/-! ### Lines of fields -/

/-- The line of a field, inside of `depth` structs. -/
def fieldLine (depth : Nat) (named : String × Field GoType) : String :=
  tabs depth ++ named.1 ++ " " ++ named.2.type.text depth ++ " " ++ named.2.tag ++ "\n"

theorem fieldTexts_eq_map (depth : Nat) (names : List String) (fields : List (Field GoType)) :
    fieldTexts depth names fields = (names.zip fields).map (fieldLine depth) := by
  induction names generalizing fields with
  | nil =>
    rw [fieldTexts, List.zip_nil_left, List.map_nil]
    exact nofun
  | cons name names inductionHypothesis =>
    cases fields with
    | nil =>
      rw [fieldTexts, List.zip_nil_right, List.map_nil]
      exact nofun
    | cons field rest =>
      rw [fieldTexts, inductionHypothesis, fieldTypeText, List.zip_cons_cons, List.map_cons]
      rfl

/-- A struct is written with a line for each of its fields. -/
theorem text_struct (depth : Nat) (fields : List (Field GoType)) :
    (GoType.struct fields).text depth =
      "struct \x7b\n" ++ String.join ((namedFields fields).map (fieldLine (depth + 1))) ++
        tabs depth ++ "\x7d" := by
  rw [text, fieldTexts_eq_map]
  rfl

theorem isWrittenIn_text_struct {fields : List (Field GoType)} {named : String × Field GoType}
    (member : named ∈ namedFields fields) (depth : Nat) :
    IsWrittenIn (fieldLine (depth + 1) named) ((GoType.struct fields).text depth) := by
  rw [text_struct]
  have line := (IsWrittenIn.refl (fieldLine (depth + 1) named)).join (List.mem_map_of_mem member)
  exact ((line.append_right _).append_left _).append_left _

/-! ### Structs within a type -/

/-- A type has a struct with the given fields somewhere, inside of so many other structs. -/
inductive HasStruct : GoType → Nat → List (Field GoType) → Prop
  | here (fields : List (Field GoType)) : HasStruct (.struct fields) 0 fields
  | element {element : GoType} {depth : Nat} {fields : List (Field GoType)}
      (inside : HasStruct element depth fields) : HasStruct (.slice element) depth fields
  | field {others fields : List (Field GoType)} {field : Field GoType} {depth : Nat}
      (member : field ∈ others) (inside : HasStruct field.type depth fields) :
      HasStruct (.struct others) (depth + 1) fields

namespace HasStruct

variable {type : GoType} {depth : Nat} {fields : List (Field GoType)}

/-- A struct is written within the type, indented by its depth. -/
theorem isWrittenIn (inside : HasStruct type depth fields) (outer : Nat) :
    IsWrittenIn ((GoType.struct fields).text (outer + depth)) (type.text outer) := by
  induction inside generalizing outer with
  | here fields => exact .refl _
  | element _ inductionHypothesis =>
    rw [text]
    exact (inductionHypothesis outer).append_right _
  | @field others _ field depth member _ inductionHypothesis =>
    obtain ⟨name, among⟩ := exists_name_of_mem member
    have inType := inductionHypothesis (outer + 1)
    rw [Nat.add_right_comm, Nat.add_assoc] at inType
    have inLine : IsWrittenIn _ (fieldLine (outer + 1) (name, field)) :=
      (((inType.append_right _).append_left _).append_left _).append_left _
    exact inLine.trans (isWrittenIn_text_struct among outer)

end HasStruct

/-! ### Objects and their structs -/

/-- A document has an object with the given members at a place where a type has a struct with the
given fields, inside of so many other structs. -/
inductive HasObject : Value → GoType → List (String × Value) → Nat → List (Field GoType) → Prop
  | here (members : List (String × Value)) (fields : List (Field GoType)) :
      HasObject (.object members) (.struct fields) members 0 fields
  | element {items : List Value} {item : Value} {element : GoType}
      {members : List (String × Value)} {depth : Nat} {fields : List (Field GoType)}
      (among : item ∈ items) (inside : HasObject item element members depth fields) :
      HasObject (.array items) (.slice element) members depth fields
  | field {others members : List (String × Value)} {member : String × Value}
      {declared fields : List (Field GoType)} {field : Field GoType} {depth : Nat}
      (present : member ∈ others) (known : field ∈ declared) (same : field.key = member.1)
      (inside : HasObject member.2 field.type members depth fields) :
      HasObject (.object others) (.struct declared) members (depth + 1) fields

namespace HasObject

variable {value : Value} {type : GoType} {members : List (String × Value)} {depth : Nat}
  {fields : List (Field GoType)}

theorem hasStruct (object : HasObject value type members depth fields) :
    HasStruct type depth fields := by
  induction object with
  | here members fields => exact .here fields
  | element _ _ inductionHypothesis => exact .element inductionHypothesis
  | field _ known _ _ inductionHypothesis => exact .field known inductionHypothesis

/-- In a document of a type, the keys of an object are among the fields of its struct. -/
theorem mem_keys {fits : Int → Prop} (object : HasObject value type members depth fields)
    (conforms : Conforms fits value type) {key : String} (present : key ∈ members.map Prod.fst) :
    key ∈ keys fields := by
  induction object with
  | here members fields =>
    cases conforms with
    | struct known _ _ =>
      obtain ⟨member, among, rfl⟩ := List.mem_map.1 present
      exact known member among
  | element among _ inductionHypothesis =>
    cases conforms with
    | slice inside => exact inductionHypothesis (inside _ among) present
  | field there known same _ inductionHypothesis =>
    cases conforms with
    | struct _ inside _ => exact inductionHypothesis (inside _ there _ known same) present

end HasObject

/-! ### Definitions -/

section Definition

variable {document typeName definition : String} {value : Value} {depth : Nat}
  {fields : List (Field GoType)}

/-- The definition for a document ends with the type of the document. -/
theorem typeDefinition_of_read (found : Json.read document = some value) (typeName : String) :
    typeDefinition document typeName =
      some ("type " ++ typeName ++ " " ++ (ofValue value).text 0) := by
  rw [typeDefinition, found]
  rfl

theorem exists_read (accepted : typeDefinition document typeName = some definition) :
    ∃ value, Json.read document = some value := by
  obtain ⟨value, found, -⟩ := Option.map_eq_some_iff.1 accepted
  exact ⟨value, found⟩

/-- Every struct in the type of a document is written in the definition. -/
theorem HasStruct.isWrittenIn_definition (inside : HasStruct (ofValue value) depth fields)
    (accepted : typeDefinition document typeName = some definition)
    (found : Json.read document = some value) :
    IsWrittenIn ((GoType.struct fields).text depth) definition := by
  have written := inside.isWrittenIn 0
  rw [Nat.zero_add] at written
  rw [typeDefinition_of_read found, Option.some.injEq] at accepted
  exact accepted ▸ written.append_right _

/-- Every key of an object of a document has a line in the definition, unless the object stands
where the type holds everything. -/
theorem HasObject.exists_line {members : List (String × Value)}
    (object : HasObject value (ofValue value) members depth fields)
    (accepted : typeDefinition document typeName = some definition)
    (found : Json.read document = some value) {key : String}
    (present : key ∈ members.map Prod.fst) :
    ∃ name field, (name, field) ∈ namedFields fields ∧ field.key = key ∧
      IsWrittenIn (fieldLine (depth + 1) (name, field)) definition := by
  have conforms := conforms_ofValue (isWellFormed_of_read found)
  obtain ⟨field, member, same⟩ := List.mem_map.1 (object.mem_keys conforms present)
  obtain ⟨name, among⟩ := exists_name_of_mem member
  exact ⟨name, field, among, same, (isWrittenIn_text_struct among depth).trans
    (object.hasStruct.isWrittenIn_definition accepted found)⟩

end Definition

end GoType

end CurlScribe.Go
