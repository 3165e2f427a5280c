/-
This file says which keys are given names that Go exports. Such a name starts with a capital
letter, and letters, decimal digits and underscores follow. The words of a key are made of
characters with the Alphabetic property and numerals of all kinds, and only the ten digits of
ASCII are kept from the start of a name. So a key is given an exported name exactly if the text of
its words, each of them with a capital at its start, starts with a capital letter or with one of
these digits, and nothing but letters and decimal digits follows. Initialisms, and the number
behind a name that is taken, make no difference to that. All keys in ASCII are given exported names.
-/

import CurlScribe.Proofs.Categories
import CurlScribe.Proofs.DistinctNames
import CurlScribe.Proofs.KeyWords

namespace CurlScribe.Go

open Text

/-! ### Exported names -/

/-- The name is an identifier that Go exports. -/
def IsExported (name : String) : Prop :=
  ∃ first rest, name.toList = first :: rest ∧ isCategoryLu first = true ∧
    ∀ character ∈ rest, isIdentifierPart character = true

/-- A word with its first character in its upper-case form. -/
def capitalized : List Char → List Char
  | [] => []
  | first :: rest => raise first ++ rest

/-- The words of a key side by side, each of them with a capital at its start. -/
def joinedWords (key : String) : List Char :=
  (wordsOf key.toList).flatMap capitalized

/-- The words of the key make an exported name, if digits at the start are kept away from it. -/
def GivesExported (key : String) : Prop :=
  ∀ first rest, joinedWords key = first :: rest →
    (isCategoryLu first = true ∨ first.isDigit = true) ∧
      ∀ character ∈ rest, isIdentifierPart character = true

theorem isExported_iff {name : String} {first : Char} {rest : List Char}
    (characters : name.toList = first :: rest) :
    IsExported name ↔ isCategoryLu first = true ∧
      ∀ character ∈ rest, isIdentifierPart character = true := by
  constructor
  · rintro ⟨_, _, others, capital, parts⟩
    obtain ⟨rfl, rfl⟩ := List.cons.inj (characters.symm.trans others)
    exact ⟨capital, parts⟩
  · exact fun both => ⟨first, rest, characters, both⟩

theorem givesExported_iff {key : String} {first : Char} {rest : List Char}
    (words : joinedWords key = first :: rest) :
    GivesExported key ↔ (isCategoryLu first = true ∨ first.isDigit = true) ∧
      ∀ character ∈ rest, isIdentifierPart character = true := by
  constructor
  · exact fun gives => gives first rest words
  · intro both _ _ others
    obtain ⟨rfl, rfl⟩ := List.cons.inj (words.symm.trans others)
    exact both

/-! ### Digits -/

theorem isIdentifierPart_of_isDigit {character : Char} (digit : character.isDigit = true) :
    isIdentifierPart character = true :=
  isIdentifierPart_of_isAlphanum ((isAlphanum_iff character).2 (Or.inr digit))

theorem isIdentifierPart_of_mem_toString {number : Nat} {character : Char}
    (member : character ∈ (toString number).toList) : isIdentifierPart character = true := by
  rw [Nat.toString_eq_repr, Nat.toList_repr] at member
  exact isIdentifierPart_of_isDigit (Nat.isDigit_of_mem_toDigits (by decide) (by decide) member)

/-- The number behind a name does not matter. -/
theorem isExported_append_toString {name : String} (notEmpty : name.toList ≠ []) (number : Nat) :
    IsExported (name ++ toString number) ↔ IsExported name := by
  obtain ⟨first, rest, characters⟩ := List.exists_cons_of_ne_nil notEmpty
  have numbered : (name ++ toString number).toList =
      first :: (rest ++ (toString number).toList) := by
    rw [String.toList_append, characters, List.cons_append]
  rw [isExported_iff numbered, isExported_iff characters, List.forall_mem_append]
  exact and_congr_right' (and_iff_left fun _ member => isIdentifierPart_of_mem_toString member)

/-! ### Words -/

/-- Initialisms are made of letters and digits of ASCII. -/
theorem isAlphanum_of_initialism {initialism : String} (member : initialism ∈ initialisms) :
    ∀ character ∈ initialism.toList, character.toNat < 128 ∧ character.isAlphanum = true := by
  -- The characters of the lists are checked, not all characters there are.
  have checked : initialisms.all (fun initialism => initialism.toList.all fun character =>
      character.toNat < 128 ∧ character.isAlphanum = true) = true := by
    decide +kernel
  exact List.all_iff_forall_prop.1 (List.all_eq_true.1 checked initialism member)

/-- An initialism is made of letters and digits, in whatever case. -/
theorem isIdentifierPart_of_mem_initialism {word : List Char}
    (initialism : String.ofList (word.flatMap raise) ∈ initialisms) {character : Char}
    (member : character ∈ word) : isIdentifierPart character = true := by
  have raised := isAlphanum_of_initialism initialism
  rw [String.toList_ofList] at raised
  have inside {form : Char} (among : form ∈ raise character) : form ∈ word.flatMap raise :=
    List.mem_flatMap.2 ⟨character, member, among⟩
  by_cases same : raise character = [character]
  · have itself : character ∈ raise character := same ▸ List.mem_cons_self
    exact isIdentifierPart_of_isAlphanum (raised character (inside itself)).2
  · exact isIdentifierPart_of_raise same fun form among => (raised form (inside among)).1

/-- A word in a name starts as if it were no initialism, and what follows is made of letters and
digits if the rest of the word is. -/
theorem exists_nameOfWord (first : Char) (rest : List Char) :
    ∃ more, nameOfWord (first :: rest) = raise first ++ more ∧
      ((∀ character ∈ more, isIdentifierPart character = true) ↔
        ∀ character ∈ rest, isIdentifierPart character = true) := by
  rw [nameOfWord]
  split_ifs with initialism
  · have member := List.contains_iff_mem.1 initialism
    refine ⟨rest.flatMap raise, List.flatMap_cons, iff_of_true (fun character among => ?_)
      fun character among => ?_⟩
    · refine isIdentifierPart_of_isAlphanum (isAlphanum_of_initialism member character ?_).2
      rw [String.toList_ofList, List.flatMap_cons]
      exact List.mem_append_right _ among
    · exact isIdentifierPart_of_mem_initialism member (List.mem_cons_of_mem _ among)
  · exact ⟨rest, rfl, Iff.rfl⟩

theorem forall_mem_nameOfWord_iff {word : List Char} (notEmpty : word ≠ []) :
    (∀ character ∈ nameOfWord word, isIdentifierPart character = true) ↔
      ∀ character ∈ capitalized word, isIdentifierPart character = true := by
  obtain ⟨first, rest, rfl⟩ := List.exists_cons_of_ne_nil notEmpty
  obtain ⟨more, name, same⟩ := exists_nameOfWord first rest
  rw [name, capitalized, List.forall_mem_append, List.forall_mem_append, same]

/-! ### Names of keys -/

/-- The words of a key make the same start with initialisms and without, and what follows the first
character is made of letters and digits in both cases or in neither. -/
theorem nameOfWord_alike {words : List (List Char)} (notEmpty : ∀ word ∈ words, word ≠ []) :
    words.flatMap nameOfWord = [] ∧ words.flatMap capitalized = [] ∨
      ∃ first more rest, words.flatMap nameOfWord = first :: more ∧
        words.flatMap capitalized = first :: rest ∧
        ((∀ character ∈ more, isIdentifierPart character = true) ↔
          ∀ character ∈ rest, isIdentifierPart character = true) := by
  cases words with
  | nil => exact Or.inl ⟨rfl, rfl⟩
  | cons word others =>
    obtain ⟨present, presentOthers⟩ := List.forall_mem_cons.1 notEmpty
    obtain ⟨start, rest, rfl⟩ := List.exists_cons_of_ne_nil present
    obtain ⟨more, name, same⟩ := exists_nameOfWord start rest
    obtain ⟨first, raised, form⟩ := List.exists_cons_of_ne_nil (raise_ne_nil start)
    have later : (∀ character ∈ others.flatMap nameOfWord, isIdentifierPart character = true) ↔
        ∀ character ∈ others.flatMap capitalized, isIdentifierPart character = true := by
      simp only [List.forall_mem_flatMap]
      exact forall₂_congr fun word among => forall_mem_nameOfWord_iff (presentOthers word among)
    refine Or.inr ⟨first, raised ++ more ++ others.flatMap nameOfWord,
      raised ++ rest ++ others.flatMap capitalized, ?_, ?_, ?_⟩
    · rw [List.flatMap_cons, name, form]
      rfl
    · rw [List.flatMap_cons, capitalized, form]
      rfl
    · simp only [List.forall_mem_append, same, later]

theorem toList_fieldName_ne_nil (key : String) : (fieldName key).toList ≠ [] := by
  rw [fieldName]
  split
  · decide
  · split_ifs
    · simp
    · simp

/-- A key is given an exported name exactly if its words make one. -/
theorem isExported_fieldName_iff (key : String) :
    IsExported (fieldName key) ↔ GivesExported key := by
  rcases nameOfWord_alike (ne_nil_of_mem_wordsOf key.toList) with
    ⟨name, words⟩ | ⟨first, more, rest, name, words, same⟩
  · have given : fieldName key = "Field" := by rw [fieldName, name]
    have absent (first : Char) (rest : List Char) : joinedWords key ≠ first :: rest :=
      fun other => nomatch words.symm.trans other
    have parts : "ield".toList.all isIdentifierPart = true := by decide +kernel
    have exported : IsExported "Field" :=
      ⟨'F', "ield".toList, by decide, by decide +kernel, List.all_eq_true.1 parts⟩
    exact iff_of_true (given ▸ exported) fun first rest other => absurd other (absent first rest)
  · rw [givesExported_iff words, ← same]
    by_cases digit : first.isDigit = true
    · have given : (fieldName key).toList = 'N' :: ("um".toList ++ first :: more) := by
        simp only [fieldName, name, if_pos digit]
        simp
      have capital : isCategoryLu 'N' = true := by decide +kernel
      have other : ∀ character ∈ "um".toList, isIdentifierPart character = true :=
        List.all_eq_true.1 (by decide +kernel)
      rw [isExported_iff given, List.forall_mem_append, List.forall_mem_cons]
      rw [and_iff_right capital, and_iff_right other,
        and_iff_right (isIdentifierPart_of_isDigit digit), and_iff_right (Or.inr digit)]
    · have given : (fieldName key).toList = first :: more := by
        simp only [fieldName, name, if_neg digit, String.toList_ofList]
      rw [isExported_iff given, or_iff_left digit]

/-- A number that makes a name unlike others makes no difference. -/
theorem IsPicked.isExported_iff {natural name : String} {taken : List String}
    (picked : IsPicked natural taken name) (notEmpty : natural.toList ≠ []) :
    IsExported name ↔ IsExported natural := by
  cases picked with
  | natural _ => rfl
  | numbered _ _ _ => exact isExported_append_toString notEmpty _

/-! ### Keys in ASCII -/

/-- The upper-case form of a letter or digit of ASCII is a capital letter or a digit. -/
theorem toUpper_of_isAlphanum {character : Char} (small : character.toNat < 128)
    (alphanumeric : character.isAlphanum = true) :
    character.toUpper.isUpper = true ∨ character.toUpper.isDigit = true := by
  have checked : ∀ point < 128, (Char.ofNat point).isAlphanum = true →
      (Char.ofNat point).toUpper.isUpper = true ∨ (Char.ofNat point).toUpper.isDigit = true := by
    decide +kernel
  rw [← Char.ofNat_toNat character]
  exact checked _ small (by rwa [Char.ofNat_toNat])

/-- A word in ASCII is given a capital letter or a digit at its start, and the rest is kept. -/
theorem capitalized_of_ascii {word : List Char} (notEmpty : word ≠ [])
    (kept : ∀ character ∈ word,
      character.toNat < 128 ∧ isLetterOrNumeral character = true) :
    ∃ first rest, capitalized word = first :: rest ∧
      (isCategoryLu first = true ∨ first.isDigit = true) ∧
      ∀ character ∈ capitalized word, isIdentifierPart character = true := by
  obtain ⟨start, rest, rfl⟩ := List.exists_cons_of_ne_nil notEmpty
  obtain ⟨⟨small, known⟩, others⟩ := List.forall_mem_cons.1 kept
  have raised := toUpper_of_isAlphanum small (isAlphanum_of_small small known)
  have form : capitalized (start :: rest) = start.toUpper :: rest := by
    rw [capitalized, raise_of_small small, List.singleton_append]
  refine ⟨start.toUpper, rest, form, raised.imp_left isCategoryLu_of_isUpper, ?_⟩
  rw [form]
  refine List.forall_mem_cons.2 ⟨?_, fun character member => ?_⟩
  · exact isIdentifierPart_of_isAlphanum ((isAlphanum_iff _).2 (raised.imp_left Or.inl))
  · obtain ⟨small, known⟩ := others character member
    exact isIdentifierPart_of_isAlphanum (isAlphanum_of_small small known)

theorem givesExported_of_ascii {key : String}
    (ascii : ∀ character ∈ key.toList, character.toNat < 128) : GivesExported key := by
  have words : ∀ word ∈ wordsOf key.toList, ∃ first rest, capitalized word = first :: rest ∧
      (isCategoryLu first = true ∨ first.isDigit = true) ∧
      ∀ character ∈ capitalized word, isIdentifierPart character = true := by
    intro word among
    refine capitalized_of_ascii (ne_nil_of_mem_wordsOf _ _ among) fun character member => ?_
    have inside := List.mem_flatten.2 ⟨word, among, member⟩
    rw [flatten_wordsOf] at inside
    obtain ⟨inKey, known⟩ := List.mem_filter.1 inside
    exact ⟨ascii character inKey, known⟩
  have parts : ∀ character ∈ joinedWords key, isIdentifierPart character = true :=
    List.forall_mem_flatMap.2 fun word among =>
      let ⟨_, _, _, _, parts⟩ := words word among
      parts
  intro first rest joined
  refine ⟨?_, (List.forall_mem_cons.1 (joined ▸ parts)).2⟩
  rw [joinedWords] at joined
  cases split : wordsOf key.toList with
  | nil => rw [split] at joined; cases joined
  | cons word others =>
    obtain ⟨start, _, form, capital, -⟩ := words word (split ▸ List.mem_cons_self)
    rw [split, List.flatMap_cons, form] at joined
    exact (List.cons.inj joined).1 ▸ capital

/-! ### Names in a definition -/

namespace GoType

open Json

/-- Every key of an object of a document, at any depth, has a line in the definition, unless the
object stands where the type holds everything; and the name in that line is exported exactly if the
words of the key make an exported name. All keys in ASCII are given exported names. -/
theorem isExported_iff_of_hasObject {document typeName definition : String}
    (accepted : typeDefinition document typeName = some definition) :
    ∃ value, Json.read document = some value ∧
      ∀ members depth fields, HasObject value (ofValue value) members depth fields →
        ∀ key ∈ members.map Prod.fst, ∃ name field,
          (name, field) ∈ namedFields fields ∧ field.key = key ∧
          IsWrittenIn (fieldLine (depth + 1) (name, field)) definition ∧
          (IsExported name ↔ GivesExported key) ∧
          ((∀ character ∈ key.toList, character.toNat < 128) → IsExported name) := by
  obtain ⟨value, found⟩ := exists_read accepted
  refine ⟨value, found, fun members depth fields object key present => ?_⟩
  obtain ⟨name, field, among, rfl, written⟩ := object.exists_line accepted found present
  obtain ⟨before, after, split⟩ := List.append_of_mem among
  have exported : IsExported name ↔ GivesExported field.key :=
    ((isPicked_of_zip split).isExported_iff (toList_fieldName_ne_nil _)).trans
      (isExported_fieldName_iff field.key)
  exact ⟨name, field, among, rfl, written, exported,
    fun ascii => exported.2 (givesExported_of_ascii ascii)⟩

/-- The key of an object within an object starts with a digit. -/
theorem isExported_iff_of_hasObject_digit :
    let field : Field GoType := ⟨"2fa", .int, false⟩
    ∃ definition, typeDefinition "\x7b\x22a\x22:\x7b\x222fa\x22:1\x7d\x7d" "Payload" =
        some definition ∧
      IsWrittenIn (fieldLine 2 ("Num2fa", field)) definition ∧ IsExported "Num2fa" := by
  intro field
  have found : Json.read "\x7b\x22a\x22:\x7b\x222fa\x22:1\x7d\x7d" =
      some (.object [("a", .object [("2fa", .number (.integer 1))])]) := by
    with_unfolding_all rfl
  have accepted := typeDefinition_of_read found "Payload"
  obtain ⟨value, same, all⟩ := isExported_iff_of_hasObject accepted
  obtain rfl := Option.some.inj (found.symm.trans same)
  have inside := HasObject.here [("2fa", Value.number (.integer 1))] [field]
  obtain ⟨name, other, among, -, written, -, exported⟩ :=
    all _ 1 [field] (.field List.mem_cons_self List.mem_cons_self rfl inside) "2fa"
      List.mem_cons_self
  obtain ⟨isName, isField⟩ := List.of_mem_zip among
  obtain rfl := List.mem_singleton.1 isField
  rw [show fieldNames (keys [field]) = ["Num2fa"] by decide +kernel, List.mem_singleton] at isName
  obtain rfl := isName
  exact ⟨_, accepted, written, exported (List.all_iff_forall_prop.1 (by decide))⟩

/-- A decimal digit outside ASCII stays at the start of the name of its field. -/
theorem not_isExported_digit :
    let field : Field GoType := ⟨"٣", .int, false⟩
    typeDefinition "\x7b\x22٣\x22:1\x7d" "Payload" =
        some ("type Payload struct \x7b\n" ++ fieldLine 1 ("٣", field) ++ "\x7d") ∧
      ¬ IsExported "٣" := by
  refine ⟨by decide +kernel, ?_⟩
  rw [isExported_iff (show "٣".toList = ['٣'] by decide)]
  decide +kernel

end GoType

end CurlScribe.Go
