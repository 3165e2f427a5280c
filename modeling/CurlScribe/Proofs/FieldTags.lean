/-
This file reads the tags of fields by the rules of Go. A tag is a raw string literal, in which
carriage returns do not count; its value is the word for JSON and an interpreted literal; and the
value of that one is cut at its commas into the name of the field in JSON and the options. So a key
passes through three notations, of which the tag minds one: it escapes quotes and backslashes for
the interpreted literal.

What a tag says is therefore the key, with the option for fields that may be left out, exactly for
the keys that hold no backquote, no comma, no line feed and no carriage return.
-/

import CurlScribe.Proofs.StringLiterals
import CurlScribe.Proofs.StructTexts

namespace CurlScribe.Go

open Text

/-! ### Reading a tag -/

/-- The tag is a raw literal for a word and an interpreted literal; the value of that one starts
with the name, up to the first comma, and the options follow. -/
def TagReads (tag : String) (name : List Char) (options : List (List Char)) : Prop :=
  ∃ (content : List Char) (literal : String) (said : List Char),
    '\x60' ∉ content ∧ tag = backquoted content ∧
    content.filter (· ≠ '\r') = "json:".toList ++ literal.toList ∧
    Denotes literal said ∧ segments ',' said = name :: options

/-- An interpreted literal stands for one text only. -/
theorem Denotes.unique {token : String} {first second : List Char} (isFirst : Denotes token first)
    (isSecond : Denotes token second) : first = second := by
  obtain ⟨items, fit, isWritten, spelled⟩ := isFirst
  obtain ⟨others, otherFit, otherWritten, otherSpelled⟩ := isSecond
  obtain rfl := LiteralItem.eq_of_flatMap_written
    (fun item member => LiteralItem.isDistinct_of_fits (fit item member))
    (fun item member => LiteralItem.isDistinct_of_fits (otherFit item member))
    (enclose_injective (isWritten.symm.trans otherWritten))
  exact List.map_injective_iff.2 (fun _ _ => Option.some.inj) (spelled.symm.trans otherSpelled)

/-- A tag says one thing only. -/
theorem TagReads.unique {tag : String} {name otherName : List Char}
    {options otherOptions : List (List Char)} (isFirst : TagReads tag name options)
    (isSecond : TagReads tag otherName otherOptions) :
    name = otherName ∧ options = otherOptions := by
  obtain ⟨content, literal, said, -, isWritten, spelled, denotes, pieces⟩ := isFirst
  obtain ⟨other, otherLiteral, otherSaid, -, otherWritten, otherSpelled, otherDenotes,
    otherPieces⟩ := isSecond
  obtain rfl := backquoted_injective (isWritten.symm.trans otherWritten)
  obtain rfl := String.toList_injective
    (List.append_cancel_left (spelled.symm.trans otherSpelled))
  obtain rfl := denotes.unique otherDenotes
  exact List.cons.inj (pieces.symm.trans otherPieces)

/-! ### The tag of a field -/

/-- Quoting a text and leaving out characters that need no escape may be done in either order. -/
theorem filter_escapeQuotes {keeps : Char → Bool} (backslash : keeps '\x5c' = true)
    (mark : keeps '\x22' = true) (characters : List Char) :
    (escapeQuotes characters).filter keeps = escapeQuotes (characters.filter keeps) := by
  induction characters with
  | nil => rfl
  | cons character rest inductionHypothesis =>
    have tail : (escapeQuotes (character :: rest)).filter keeps =
        (quotedCharacter character).filter keeps ++ escapeQuotes (rest.filter keeps) := by
      rw [escapeQuotes, List.flatMap_cons, List.filter_append, ← inductionHypothesis, escapeQuotes]
    rw [tail, List.filter_cons]
    unfold quotedCharacter
    split_ifs with special kept kept
    · rcases special with rfl | rfl <;> simp [backslash, mark, escapeQuotes, quotedCharacter]
    · rcases special with rfl | rfl
      · exact absurd backslash kept
      · exact absurd mark kept
    · simp [kept, special, escapeQuotes, quotedCharacter]
    · simp [kept]

namespace Field

variable {Shape : Type} (field : Field Shape)

theorem toList_tagText :
    field.tagText.toList =
      field.key.toList ++ if field.optional then ",omitempty".toList else [] := by
  rw [tagText]
  split_ifs
  · rw [String.toList_append]
  · rw [List.append_nil]

/-- A character that is not in the option is in what the tag says if it is in the key. -/
theorem mem_tagText_iff {character : Char} (other : character ∉ ",omitempty".toList) :
    character ∈ field.tagText.toList ↔ character ∈ field.key.toList := by
  rw [toList_tagText, List.mem_append]
  split_ifs
  · exact or_iff_left other
  · exact or_iff_left List.not_mem_nil

theorem tag_eq_backquoted :
    field.tag = backquoted ("json:".toList ++ (quote field.tagText).toList) := by
  rw [tag, backquoted, String.ext_iff]
  simp

/-- What the tag of a field says: the text for it, without its carriage returns, cut at its commas.
It says nothing if the key holds a backquote or a line feed. -/
theorem tagReads_tag_iff (name : List Char) (options : List (List Char)) :
    TagReads field.tag name options ↔
      '\x60' ∉ field.key.toList ∧ '\n' ∉ field.key.toList ∧
        segments ',' (field.tagText.toList.filter (· ≠ '\r')) = name :: options := by
  let carried := String.ofList (field.tagText.toList.filter (· ≠ '\r'))
  have characters : carried.toList = field.tagText.toList.filter (· ≠ '\r') := String.toList_ofList
  have closed : '\x60' ∉ "json:".toList ++ (quote field.tagText).toList ↔
      '\x60' ∉ field.key.toList := by
    rw [← mem_tagText_iff field (by decide),
      ← mem_escapeQuotes_iff (by decide) field.tagText.toList]
    simp [quote, enclose]
  have oneLine : '\n' ∉ carried.toList ↔ '\n' ∉ field.key.toList := by
    rw [← mem_tagText_iff field (by decide), characters, List.mem_filter]
    simp
  have value : ("json:".toList ++ (quote field.tagText).toList).filter (· ≠ '\r') =
      "json:".toList ++ (quote carried).toList := by
    have inside : (escapeQuotes field.tagText.toList).filter (· ≠ '\r') =
        escapeQuotes carried.toList := by
      rw [characters, filter_escapeQuotes (by decide) (by decide)]
    simp only [quote, enclose, String.toList_ofList, List.filter_append, ← inside]
    rfl
  rw [← oneLine, ← characters]
  constructor
  · rintro ⟨content, literal, said, open', isWritten, spelled, denotes, pieces⟩
    obtain rfl := backquoted_injective (isWritten.symm.trans field.tag_eq_backquoted)
    obtain rfl := String.toList_injective (List.append_cancel_left (spelled.symm.trans value))
    obtain ⟨rfl, line⟩ := (denotes_quote_iff carried said).1 denotes
    exact ⟨closed.1 open', line, pieces⟩
  · rintro ⟨open', line, pieces⟩
    exact ⟨_, quote carried, carried.toList, closed.2 open', field.tag_eq_backquoted, value,
      (denotes_quote_iff carried _).2 ⟨rfl, line⟩, pieces⟩

/-- The tag carries the key: read by the rules of Go it gives the key, and it has the option exactly
if the field may be left out. -/
def CarriesKey : Prop :=
  ∃ options, TagReads field.tag field.key.toList options ∧
    ("omitempty".toList ∈ options ↔ field.optional = true)

/-- The options that the tag of a field has if its key can be read back. -/
def options : List (List Char) :=
  if field.optional then ["omitempty".toList] else []

theorem omitempty_mem_options_iff :
    "omitempty".toList ∈ field.options ↔ field.optional = true := by
  rw [options]
  split_ifs with optional <;> simp [optional]

/-- A key without a comma is the first of the pieces. -/
theorem segments_tagText (whole : ',' ∉ field.key.toList) :
    segments ',' field.tagText.toList = field.key.toList :: field.options := by
  rw [toList_tagText, options]
  split_ifs
  · exact segments_append whole "omitempty".toList
  · rw [List.append_nil, segments_of_not_mem whole]

/-- The tag carries the keys without four characters, and no others. -/
theorem carriesKey_iff :
    field.CarriesKey ↔
      ∀ character ∈ field.key.toList, character ∉ ['\x60', ',', '\n', '\r'] := by
  constructor
  · rintro ⟨options, reads, -⟩
    obtain ⟨closed, oneLine, pieces⟩ := (field.tagReads_tag_iff _ _).1 reads
    obtain ⟨begins, whole⟩ := segments_eq_cons pieces
    have carried : '\r' ∉ field.key.toList := fun member => by
      simpa using List.of_mem_filter (begins.subset member)
    intro character member among
    simp only [List.mem_cons, List.not_mem_nil, or_false] at among
    rcases among with rfl | rfl | rfl | rfl
    · exact closed member
    · exact whole member
    · exact oneLine member
    · exact carried member
  · intro ordinary
    have absent {character : Char} (special : character ∈ ['\x60', ',', '\n', '\r']) :
        character ∉ field.key.toList := fun member => ordinary character member special
    have carried : field.tagText.toList.filter (· ≠ '\r') = field.tagText.toList := by
      refine List.filter_eq_self.2 fun character member => decide_eq_true ?_
      rintro rfl
      exact absent (by decide) ((field.mem_tagText_iff (by decide)).1 member)
    refine ⟨field.options, ?_, field.omitempty_mem_options_iff⟩
    rw [tagReads_tag_iff, carried]
    exact ⟨absent (by decide), absent (by decide), field.segments_tagText (absent (by decide))⟩

end Field

/-! ### Tags in a definition -/

namespace GoType

open Json

/-- Every key of an object of a document, at any depth, has a line in the definition, unless the
object stands where the type holds everything; and the tag in that line carries the key exactly if
the key holds no backquote, no comma, no line feed and no carriage return. -/
theorem carriesKey_iff_of_hasObject {document typeName definition : String}
    (accepted : typeDefinition document typeName = some definition) :
    ∃ value, Json.read document = some value ∧
      ∀ members depth fields, HasObject value (ofValue value) members depth fields →
        ∀ key ∈ members.map Prod.fst, ∃ name field,
          (name, field) ∈ namedFields fields ∧ field.key = key ∧
          IsWrittenIn (fieldLine (depth + 1) (name, field)) definition ∧
          (field.CarriesKey ↔
            ∀ character ∈ key.toList, character ∉ ['\x60', ',', '\n', '\r']) := by
  obtain ⟨value, found⟩ := exists_read accepted
  refine ⟨value, found, fun members depth fields object key present => ?_⟩
  obtain ⟨name, field, among, rfl, written⟩ := object.exists_line accepted found present
  exact ⟨name, field, among, rfl, written, field.carriesKey_iff⟩

/-- The key of a field that may be left out holds a quote and a backslash. -/
theorem carriesKey_iff_of_hasObject_quote :
    let field : Field GoType := ⟨"\x22\x5c", .int, true⟩
    ∃ definition, typeDefinition "[\x7b\x22\x5c\x22\x5c\x5c\x22:1\x7d,\x7b\x7d]" "Payload" =
        some definition ∧
      IsWrittenIn (fieldLine 1 ("Field", field)) definition ∧
      field.tag = "\x60json:\x22\x5c\x22\x5c\x5c,omitempty\x22\x60" ∧ field.CarriesKey := by
  intro field
  have found : Json.read "[\x7b\x22\x5c\x22\x5c\x5c\x22:1\x7d,\x7b\x7d]" =
      some (.array [.object [("\x22\x5c", .number (.integer 1))], .object []]) := by
    with_unfolding_all rfl
  have accepted := typeDefinition_of_read found "Payload"
  obtain ⟨value, same, all⟩ := carriesKey_iff_of_hasObject accepted
  obtain rfl := Option.some.inj (found.symm.trans same)
  obtain ⟨name, other, among, -, written, carries⟩ :=
    all _ 0 [field] (.element List.mem_cons_self (.here _ _)) "\x22\x5c" List.mem_cons_self
  obtain ⟨isName, isField⟩ := List.of_mem_zip among
  obtain rfl := List.mem_singleton.1 isField
  rw [show fieldNames (keys [field]) = ["Field"] by decide +kernel, List.mem_singleton] at isName
  obtain rfl := isName
  exact ⟨_, accepted, written, by decide +kernel,
    carries.2 (List.all_iff_forall_prop.1 (by decide +kernel))⟩

/-- A line feed in a key ends up in the interpreted literal of the tag, which is none with it. -/
theorem not_carriesKey_lineFeed :
    let field : Field GoType := ⟨"a\nb", .int, false⟩
    typeDefinition "\x7b\x22a\x5cnb\x22:1\x7d" "Payload" =
        some ("type Payload struct \x7b\n" ++ fieldLine 1 ("AB", field) ++ "\x7d") ∧
      field.tag = "\x60json:\x22a\nb\x22\x60" ∧ ¬ field.CarriesKey := by
  refine ⟨by decide +kernel, by decide +kernel, fun carries => ?_⟩
  exact Field.carriesKey_iff _ |>.1 carries '\n' (by decide) (by decide)

end GoType

end CurlScribe.Go
