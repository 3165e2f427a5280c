/-
This file says which types of documents the stub for a value fits. For a document that is sent, the
code declares a type and then writes a literal of the type with braces, for the user to fill in. Go
has such literals of slices and structs, and no others among the types for documents: so the stub
fits the arrays and objects, and these can be told by the first character of the document.
-/

import CurlScribe.Proofs.Statements
import CurlScribe.Proofs.WellFormedDocuments
import Mathlib.Data.List.TakeDrop

namespace CurlScribe

/-! ### The start of a document -/

namespace Json

/-- The text starts with an opening bracket or brace. -/
def opensList (text : List Char) : Bool :=
  text.head? == some '[' || text.head? == some '\x7b'

theorem isDigit_of_readNumber {text : List Char} {result : Number × List Char}
    (found : readNumber false text = some result) {first : Char}
    (head : text.head? = some first) : first.isDigit = true := by
  obtain ⟨rest, rfl⟩ := List.head?_eq_some_iff.1 head
  by_contra other
  have none : takeDigits (first :: rest) = ([], first :: rest) := by
    rw [takeDigits, List.span_eq_takeWhile_dropWhile, List.takeWhile_cons_of_neg other,
      List.dropWhile_cons_of_neg other]
  rw [readNumber, none] at found
  cases found

theorem opensList_of_readNumber {text : List Char} {result : Number × List Char}
    (found : readNumber false text = some result) : opensList text = false := by
  rw [opensList, Bool.or_eq_false_iff, beq_eq_false_iff_ne, beq_eq_false_iff_ne]
  exact ⟨fun head => absurd (isDigit_of_readNumber found head) (by decide),
    fun head => absurd (isDigit_of_readNumber found head) (by decide)⟩

end Json

namespace Go

/-! ### Literals with braces -/

/-- Go has literals of the type that are written with braces. -/
def GoType.hasLiterals : GoType → Bool
  | .slice _ | .struct _ => true
  | .any | .boolean | .string | .int | .int64 | .float64 => false

theorem GoType.hasLiterals_ofNumber (number : Json.Number) :
    (ofNumber number).hasLiterals = false := by
  cases number with
  | integer value =>
    simp only [ofNumber]
    split_ifs <;> rfl
  | decimal significand exponent => rfl

/-- The type of a value has literals if the value is written between brackets or braces. -/
theorem hasLiterals_of_readValue {depth : Nat} {text : List Char}
    {result : Json.Value × List Char} (found : Json.readValue depth text = some result) :
    (GoType.ofValue result.1).hasLiterals = Json.opensList text := by
  unfold Json.readValue at found
  split at found <;> obtain ⟨inner, read, rfl⟩ := Option.map_eq_some_iff.1 found
  · rfl
  · rfl
  · rfl
  · rfl
  · exact GoType.hasLiterals_ofNumber _
  · rfl
  · rfl
  · rw [Json.opensList_of_readNumber read]
    exact GoType.hasLiterals_ofNumber _

theorem hasLiterals_of_read {text : String} {value : Json.Value}
    (found : Json.read text = some value) :
    (GoType.ofValue value).hasLiterals = Json.opensList (Json.skipSpace text.toList) := by
  obtain ⟨rest, accepted, -⟩ := Json.exists_readValue_of_read found
  exact hasLiterals_of_readValue accepted

/-! ### Stubs -/

/-- The declaration of a type and the literal of it that the user fills in. -/
def stub (typeName definition : String) : List Statement :=
  [.declareType typeName definition, .blank,
    .define ["data"] (.composite (.name typeName) (.lines ["fill struct"]) [])]

theorem stub_writePayload (style : BodyStyle) {text definition : String}
    (accepted : style.typeWriter text style.typeName = some definition) :
    stub style.typeName definition <:+: (writePayload style (.json text)).statements := by
  rw [writePayload, accepted]
  exact ⟨[], _, rfl⟩

/-- The code for a request holds the stub for the document that it sends. -/
theorem stub_draft {options : RenderOptions} {typeWriter : TypeWriter} {request : Request}
    {text definition : String} (sent : request.body.payload? = some (.json text))
    (accepted : typeWriter text options.effectiveTypeName = some definition) :
    stub options.effectiveTypeName definition <:+:
      (draft options typeWriter request).statements := by
  have built : ¬ request.isSimple = true := by
    intro simple
    rw [body_of_isSimple simple] at sent
    cases sent
  have inline : inlineStatements ⟨typeWriter, options.effectiveTypeName, request.encoding⟩
      request.body = (writePayload ⟨typeWriter, options.effectiveTypeName, request.encoding⟩
        (.json text)).statements := by
    rw [inlineStatements, sent, Option.toList_some, List.flatMap_singleton]
  rw [statements_draft, if_neg built, statements_draftBuilt, statements_writeBody,
    readerStatements, inline]
  simp only [List.append_assoc]
  exact (stub_writePayload ⟨typeWriter, options.effectiveTypeName, request.encoding⟩
    accepted).trans (List.infix_append' _ _ _)

/-- For every document that is sent as such, the code declares a type for it and then writes a
literal of the type with braces. The type is that of the document, and it has such literals if and
only if the document starts with an opening bracket or brace. -/
theorem stub_hasLiterals_iff {options : RenderOptions} {request : Request}
    {text definition : String} (sent : request.body.payload? = some (.json text))
    (accepted : typeDefinition text options.effectiveTypeName = some definition) :
    stub options.effectiveTypeName definition <:+:
        (draft options typeDefinition request).statements ∧
      ∃ value, Json.read text = some value ∧
        definition =
          "type " ++ options.effectiveTypeName ++ " " ++ (GoType.ofValue value).text 0 ∧
        ((GoType.ofValue value).hasLiterals = true ↔
          (Json.skipSpace text.toList).head? ∈ [some '[', some '\x7b']) := by
  refine ⟨stub_draft sent accepted, ?_⟩
  obtain ⟨value, read, rfl⟩ := Option.map_eq_some_iff.1 accepted
  refine ⟨value, read, rfl, ?_⟩
  rw [hasLiterals_of_read read, Json.opensList]
  simp

/-- An array with a space in front: its type is a slice. -/
theorem stub_hasLiterals_iff_array :
    let request : Request := {
      url := "x"
      method := "POST"
      headers := ⟨[⟨"Content-Type", "application/json"⟩]⟩
      body := .payload (.json " [1]") }
    stub "Payload" "type Payload []int" <:+: (draft {} typeDefinition request).statements ∧
      ∃ value, Json.read " [1]" = some value ∧ (GoType.ofValue value).hasLiterals = true := by
  intro request
  have accepted : typeDefinition " [1]" (RenderOptions.effectiveTypeName {}) =
      some "type Payload []int" := by
    decide +kernel
  obtain ⟨written, value, read, -, braces⟩ :=
    @stub_hasLiterals_iff {} request _ _ rfl accepted
  exact ⟨written, value, read, braces.2 (by decide)⟩

/-- A number is a document, and the code writes a literal with braces of the type `int`. -/
theorem stub_not_hasLiterals :
    let command : Command := {
      positionals := ["curl", "x"]
      flags := ⟨[("H", .values ["Content-Type: application/json"]), ("d", .values ["42"])]⟩ }
    ∃ request value, extract command = .ok request ∧
      request.body.payload? = some (.json "42") ∧ Json.read "42" = some value ∧
      typeDefinition "42" "Payload" = some "type Payload int" ∧
      stub "Payload" "type Payload int" <:+: (draft {} typeDefinition request).statements ∧
      (GoType.ofValue value).hasLiterals = false := by
  intro command
  have sent : (requestOf command).body.payload? = some (.json "42") := by
    decide +kernel
  have accepted : typeDefinition "42" (RenderOptions.effectiveTypeName {}) =
      some "type Payload int" := by
    decide +kernel
  exact ⟨requestOf command, .number (.integer 42), rfl, sent, rfl, accepted,
    stub_draft sent accepted, rfl⟩

end Go

end CurlScribe
