/-
This file holds the general categories that decide what Go takes for an identifier: letters (L),
capital letters (Lu) and decimal digits (Nd). The first two are the Alphabetic and the Uppercase
property without the characters that have the property but are no letters, such as letter numbers,
vowel signs and letters in circles. The tables are those of version 16 of the Unicode character
database.

Raising and lowering letters looks at properties and not at categories. So a character that is
raised need not be a letter; it is one if its upper-case form is written in ASCII.
-/

import CurlScribe.Text.Alphabetic
import CurlScribe.Text.LetterCase
import Mathlib.Data.Bool.AllAny

namespace CurlScribe.Text

/-! ### Categories -/

/-- The blocks of characters with the Alphabetic property that are not of category L: letter
numbers, vowel signs and other marks, letters in circles. -/
def alphabeticOthers : List (Nat × Nat) :=
  [(0x345, 0x345), (0x363, 0x36f), (0x5b0, 0x5bd), (0x5bf, 0x5bf), (0x5c1, 0x5c2), (0x5c4, 0x5c5),
   (0x5c7, 0x5c7), (0x610, 0x61a), (0x64b, 0x657), (0x659, 0x65f), (0x670, 0x670), (0x6d6, 0x6dc),
   (0x6e1, 0x6e4), (0x6e7, 0x6e8), (0x6ed, 0x6ed), (0x711, 0x711), (0x730, 0x73f), (0x7a6, 0x7b0),
   (0x816, 0x817), (0x81b, 0x823), (0x825, 0x827), (0x829, 0x82c), (0x897, 0x897), (0x8d4, 0x8df),
   (0x8e3, 0x8e9), (0x8f0, 0x903), (0x93a, 0x93b), (0x93e, 0x94c), (0x94e, 0x94f), (0x955, 0x957),
   (0x962, 0x963), (0x981, 0x983), (0x9be, 0x9c4), (0x9c7, 0x9c8), (0x9cb, 0x9cc), (0x9d7, 0x9d7),
   (0x9e2, 0x9e3), (0xa01, 0xa03), (0xa3e, 0xa42), (0xa47, 0xa48), (0xa4b, 0xa4c), (0xa51, 0xa51),
   (0xa70, 0xa71), (0xa75, 0xa75), (0xa81, 0xa83), (0xabe, 0xac5), (0xac7, 0xac9), (0xacb, 0xacc),
   (0xae2, 0xae3), (0xafa, 0xafc), (0xb01, 0xb03), (0xb3e, 0xb44), (0xb47, 0xb48), (0xb4b, 0xb4c),
   (0xb56, 0xb57), (0xb62, 0xb63), (0xb82, 0xb82), (0xbbe, 0xbc2), (0xbc6, 0xbc8), (0xbca, 0xbcc),
   (0xbd7, 0xbd7), (0xc00, 0xc04), (0xc3e, 0xc44), (0xc46, 0xc48), (0xc4a, 0xc4c), (0xc55, 0xc56),
   (0xc62, 0xc63), (0xc81, 0xc83), (0xcbe, 0xcc4), (0xcc6, 0xcc8), (0xcca, 0xccc), (0xcd5, 0xcd6),
   (0xce2, 0xce3), (0xcf3, 0xcf3), (0xd00, 0xd03), (0xd3e, 0xd44), (0xd46, 0xd48), (0xd4a, 0xd4c),
   (0xd57, 0xd57), (0xd62, 0xd63), (0xd81, 0xd83), (0xdcf, 0xdd4), (0xdd6, 0xdd6), (0xdd8, 0xddf),
   (0xdf2, 0xdf3), (0xe31, 0xe31), (0xe34, 0xe3a), (0xe4d, 0xe4d), (0xeb1, 0xeb1), (0xeb4, 0xeb9),
   (0xebb, 0xebc), (0xecd, 0xecd), (0xf71, 0xf83), (0xf8d, 0xf97), (0xf99, 0xfbc), (0x102b, 0x1036),
   (0x1038, 0x1038), (0x103b, 0x103e), (0x1056, 0x1059), (0x105e, 0x1060), (0x1062, 0x1064),
   (0x1067, 0x106d), (0x1071, 0x1074), (0x1082, 0x108d), (0x108f, 0x108f), (0x109a, 0x109d),
   (0x16ee, 0x16f0), (0x1712, 0x1713), (0x1732, 0x1733), (0x1752, 0x1753), (0x1772, 0x1773),
   (0x17b6, 0x17c8), (0x1885, 0x1886), (0x18a9, 0x18a9), (0x1920, 0x192b), (0x1930, 0x1938),
   (0x1a17, 0x1a1b), (0x1a55, 0x1a5e), (0x1a61, 0x1a74), (0x1abf, 0x1ac0), (0x1acc, 0x1ace),
   (0x1b00, 0x1b04), (0x1b35, 0x1b43), (0x1b80, 0x1b82), (0x1ba1, 0x1ba9), (0x1bac, 0x1bad),
   (0x1be7, 0x1bf1), (0x1c24, 0x1c36), (0x1dd3, 0x1df4), (0x2160, 0x2182), (0x2185, 0x2188),
   (0x24b6, 0x24e9), (0x2de0, 0x2dff), (0x3007, 0x3007), (0x3021, 0x3029), (0x3038, 0x303a),
   (0xa674, 0xa67b), (0xa69e, 0xa69f), (0xa6e6, 0xa6ef), (0xa802, 0xa802), (0xa80b, 0xa80b),
   (0xa823, 0xa827), (0xa880, 0xa881), (0xa8b4, 0xa8c3), (0xa8c5, 0xa8c5), (0xa8ff, 0xa8ff),
   (0xa926, 0xa92a), (0xa947, 0xa952), (0xa980, 0xa983), (0xa9b4, 0xa9bf), (0xa9e5, 0xa9e5),
   (0xaa29, 0xaa36), (0xaa43, 0xaa43), (0xaa4c, 0xaa4d), (0xaa7b, 0xaa7d), (0xaab0, 0xaab0),
   (0xaab2, 0xaab4), (0xaab7, 0xaab8), (0xaabe, 0xaabe), (0xaaeb, 0xaaef), (0xaaf5, 0xaaf5),
   (0xabe3, 0xabea), (0xfb1e, 0xfb1e), (0x10140, 0x10174), (0x10341, 0x10341), (0x1034a, 0x1034a),
   (0x10376, 0x1037a), (0x103d1, 0x103d5), (0x10a01, 0x10a03), (0x10a05, 0x10a06),
   (0x10a0c, 0x10a0f), (0x10d24, 0x10d27), (0x10d69, 0x10d69), (0x10eab, 0x10eac),
   (0x10efc, 0x10efc), (0x11000, 0x11002), (0x11038, 0x11045), (0x11073, 0x11074),
   (0x11080, 0x11082), (0x110b0, 0x110b8), (0x110c2, 0x110c2), (0x11100, 0x11102),
   (0x11127, 0x11132), (0x11145, 0x11146), (0x11180, 0x11182), (0x111b3, 0x111bf),
   (0x111ce, 0x111cf), (0x1122c, 0x11234), (0x11237, 0x11237), (0x1123e, 0x1123e),
   (0x11241, 0x11241), (0x112df, 0x112e8), (0x11300, 0x11303), (0x1133e, 0x11344),
   (0x11347, 0x11348), (0x1134b, 0x1134c), (0x11357, 0x11357), (0x11362, 0x11363),
   (0x113b8, 0x113c0), (0x113c2, 0x113c2), (0x113c5, 0x113c5), (0x113c7, 0x113ca),
   (0x113cc, 0x113cd), (0x11435, 0x11441), (0x11443, 0x11445), (0x114b0, 0x114c1),
   (0x115af, 0x115b5), (0x115b8, 0x115be), (0x115dc, 0x115dd), (0x11630, 0x1163e),
   (0x11640, 0x11640), (0x116ab, 0x116b5), (0x1171d, 0x1172a), (0x1182c, 0x11838),
   (0x11930, 0x11935), (0x11937, 0x11938), (0x1193b, 0x1193c), (0x11940, 0x11940),
   (0x11942, 0x11942), (0x119d1, 0x119d7), (0x119da, 0x119df), (0x119e4, 0x119e4),
   (0x11a01, 0x11a0a), (0x11a35, 0x11a39), (0x11a3b, 0x11a3e), (0x11a51, 0x11a5b),
   (0x11a8a, 0x11a97), (0x11c2f, 0x11c36), (0x11c38, 0x11c3e), (0x11c92, 0x11ca7),
   (0x11ca9, 0x11cb6), (0x11d31, 0x11d36), (0x11d3a, 0x11d3a), (0x11d3c, 0x11d3d),
   (0x11d3f, 0x11d41), (0x11d43, 0x11d43), (0x11d47, 0x11d47), (0x11d8a, 0x11d8e),
   (0x11d90, 0x11d91), (0x11d93, 0x11d96), (0x11ef3, 0x11ef6), (0x11f00, 0x11f01),
   (0x11f03, 0x11f03), (0x11f34, 0x11f3a), (0x11f3e, 0x11f40), (0x12400, 0x1246e),
   (0x1611e, 0x1612e), (0x16f4f, 0x16f4f), (0x16f51, 0x16f87), (0x16f8f, 0x16f92),
   (0x16ff0, 0x16ff1), (0x1bc9e, 0x1bc9e), (0x1e000, 0x1e006), (0x1e008, 0x1e018),
   (0x1e01b, 0x1e021), (0x1e023, 0x1e024), (0x1e026, 0x1e02a), (0x1e08f, 0x1e08f),
   (0x1e947, 0x1e947), (0x1f130, 0x1f149), (0x1f150, 0x1f169), (0x1f170, 0x1f189)]

/-- The character is of general category L. -/
def isCategoryL (character : Char) : Bool :=
  isLetter character && !inBlocks alphabeticOthers character

/-- The blocks of characters with the Uppercase property that are not of category Lu: letter numbers
and letters in circles and squares. -/
def uppercaseOthers : List (Nat × Nat) :=
  [(0x2160, 0x216f), (0x24b6, 0x24cf), (0x1f130, 0x1f149), (0x1f150, 0x1f169), (0x1f170, 0x1f189)]

/-- The character is of general category Lu. -/
def isCategoryLu (character : Char) : Bool :=
  isCapital character && !inBlocks uppercaseOthers character

/-- The blocks of characters of general category Nd. -/
def decimals : List (Nat × Nat) :=
  [(0x30, 0x39), (0x660, 0x669), (0x6f0, 0x6f9), (0x7c0, 0x7c9), (0x966, 0x96f), (0x9e6, 0x9ef),
   (0xa66, 0xa6f), (0xae6, 0xaef), (0xb66, 0xb6f), (0xbe6, 0xbef), (0xc66, 0xc6f), (0xce6, 0xcef),
   (0xd66, 0xd6f), (0xde6, 0xdef), (0xe50, 0xe59), (0xed0, 0xed9), (0xf20, 0xf29), (0x1040, 0x1049),
   (0x1090, 0x1099), (0x17e0, 0x17e9), (0x1810, 0x1819), (0x1946, 0x194f), (0x19d0, 0x19d9),
   (0x1a80, 0x1a89), (0x1a90, 0x1a99), (0x1b50, 0x1b59), (0x1bb0, 0x1bb9), (0x1c40, 0x1c49),
   (0x1c50, 0x1c59), (0xa620, 0xa629), (0xa8d0, 0xa8d9), (0xa900, 0xa909), (0xa9d0, 0xa9d9),
   (0xa9f0, 0xa9f9), (0xaa50, 0xaa59), (0xabf0, 0xabf9), (0xff10, 0xff19), (0x104a0, 0x104a9),
   (0x10d30, 0x10d39), (0x10d40, 0x10d49), (0x11066, 0x1106f), (0x110f0, 0x110f9),
   (0x11136, 0x1113f), (0x111d0, 0x111d9), (0x112f0, 0x112f9), (0x11450, 0x11459),
   (0x114d0, 0x114d9), (0x11650, 0x11659), (0x116c0, 0x116c9), (0x116d0, 0x116e3),
   (0x11730, 0x11739), (0x118e0, 0x118e9), (0x11950, 0x11959), (0x11bf0, 0x11bf9),
   (0x11c50, 0x11c59), (0x11d50, 0x11d59), (0x11da0, 0x11da9), (0x11f50, 0x11f59),
   (0x16130, 0x16139), (0x16a60, 0x16a69), (0x16ac0, 0x16ac9), (0x16b50, 0x16b59),
   (0x16d70, 0x16d79), (0x1ccf0, 0x1ccf9), (0x1d7ce, 0x1d7ff), (0x1e140, 0x1e149),
   (0x1e2f0, 0x1e2f9), (0x1e4f0, 0x1e4f9), (0x1e5f1, 0x1e5fa), (0x1e950, 0x1e959),
   (0x1fbf0, 0x1fbf9)]

/-- The character is of general category Nd. -/
def isCategoryNd (character : Char) : Bool :=
  inBlocks decimals character

/-- The character may stand in an identifier of Go. -/
def isIdentifierPart (character : Char) : Bool :=
  isCategoryL character || isCategoryNd character || character == '_'

/-- Letters have one of three cases or none; a vowel sign, a letter in a circle and a letter number
are no letters. -/
example : "aZßǅʰ名ª".toList.all isCategoryL ∧ "ाⓐⅧ".toList.all (!isCategoryL ·) := by
  decide +kernel

/-- Decimal digits come in tens. -/
example : decimals.all fun block => (block.2 + 1 - block.1) % 10 == 0 := by decide

/-! ### ASCII -/

theorem not_inBlocks {blocks : List (Nat × Nat)} {bound : Nat}
    (later : ∀ block ∈ blocks, bound ≤ block.1) {character : Char}
    (small : character.toNat < bound) : inBlocks blocks character = false := by
  refine Bool.eq_false_iff.2 fun inside => ?_
  obtain ⟨block, among, notBefore, -⟩ := (inBlocks_iff _ _).1 inside
  exact absurd (later block among) (Nat.not_le.2 (Nat.lt_of_le_of_lt notBefore small))

theorem isUpper_iff (character : Char) :
    character.isUpper = true ↔ 0x41 ≤ character.toNat ∧ character.toNat ≤ 0x5a :=
  decide_eq_true_iff.trans (and_congr UInt32.le_iff_toNat_le UInt32.le_iff_toNat_le)

theorem isLower_iff (character : Char) :
    character.isLower = true ↔ 0x61 ≤ character.toNat ∧ character.toNat ≤ 0x7a :=
  Bool.and_eq_true_iff.trans (and_congr (decide_eq_true_iff.trans UInt32.le_iff_toNat_le)
    (decide_eq_true_iff.trans UInt32.le_iff_toNat_le))

theorem isDigit_iff (character : Char) :
    character.isDigit = true ↔ 0x30 ≤ character.toNat ∧ character.toNat ≤ 0x39 :=
  Bool.and_eq_true_iff.trans (and_congr (decide_eq_true_iff.trans UInt32.le_iff_toNat_le)
    (decide_eq_true_iff.trans UInt32.le_iff_toNat_le))

theorem isAlphanum_iff (character : Char) :
    character.isAlphanum = true ↔
      (character.isUpper = true ∨ character.isLower = true) ∨ character.isDigit = true :=
  Bool.or_eq_true_iff.trans (or_congr_left Bool.or_eq_true_iff)

theorem isCategoryLu_of_isUpper {character : Char} (capital : character.isUpper = true) :
    isCategoryLu character = true := by
  obtain ⟨notBefore, within⟩ := (isUpper_iff character).1 capital
  have reached : isCapital character = true := by
    refine List.any_eq_true.2 ⟨(0x41, 0x5a, 1), List.mem_cons_self, ?_⟩
    simp [inRun, notBefore, within, Nat.mod_one]
  have later : ∀ block ∈ uppercaseOthers, 128 ≤ block.1 := by decide
  rw [isCategoryLu, reached, not_inBlocks later (by omega)]
  rfl

/-- Letters and digits of ASCII may stand in an identifier. -/
theorem isIdentifierPart_of_isAlphanum {character : Char}
    (alphanumeric : character.isAlphanum = true) : isIdentifierPart character = true := by
  have letter (small : character.toNat < 128) (known : isLetter character = true) :
      isIdentifierPart character = true := by
    have later : ∀ block ∈ alphabeticOthers, 128 ≤ block.1 := by decide +kernel
    rw [isIdentifierPart, isCategoryL, known, not_inBlocks later small]
    rfl
  rcases (isAlphanum_iff character).1 alphanumeric with (upper | lower) | digit
  · obtain ⟨notBefore, within⟩ := (isUpper_iff character).1 upper
    exact letter (by omega) ((inBlocks_iff _ _).2
      ⟨(0x41, 0x5a), List.mem_cons_self, notBefore, within⟩)
  · obtain ⟨notBefore, within⟩ := (isLower_iff character).1 lower
    exact letter (by omega) ((inBlocks_iff _ _).2
      ⟨(0x61, 0x7a), List.mem_cons_of_mem _ List.mem_cons_self, notBefore, within⟩)
  · have decimal : isCategoryNd character = true :=
      (inBlocks_iff _ _).2 ⟨(0x30, 0x39), List.mem_cons_self, (isDigit_iff character).1 digit⟩
    rw [isIdentifierPart, decimal, Bool.or_true, Bool.true_or]

/-- A letter or numeral in ASCII is a letter or digit of ASCII. -/
theorem isAlphanum_of_small {character : Char} (small : character.toNat < 128)
    (kept : isLetterOrNumeral character = true) : character.isAlphanum = true := by
  have firstLetters : ∀ block ∈ letters, block.1 < 128 →
      block = (0x41, 0x5a) ∨ block = (0x61, 0x7a) := by
    decide +kernel
  have firstNumerals : ∀ block ∈ numerals, block.1 < 128 → block = (0x30, 0x39) := by
    decide +kernel
  rw [isAlphanum_iff, isUpper_iff, isLower_iff, isDigit_iff]
  rcases Bool.or_eq_true _ _ ▸ kept with letter | numeral
  · obtain ⟨block, among, bounds⟩ := (inBlocks_iff _ _).1 letter
    rcases firstLetters block among (Nat.lt_of_le_of_lt bounds.1 small) with rfl | rfl
    · exact Or.inl (Or.inl bounds)
    · exact Or.inl (Or.inr bounds)
  · obtain ⟨block, among, bounds⟩ := (inBlocks_iff _ _).1 numeral
    obtain rfl := firstNumerals block among (Nat.lt_of_le_of_lt bounds.1 small)
    exact Or.inr bounds

/-! ### Upper-case forms -/

/-- What has several characters of ASCII for its upper-case form is a letter. -/
theorem isIdentifierPart_of_raisedLong :
    raisedLong.all (fun entry =>
      (entry.2.any fun point => 128 ≤ (Char.ofNat point).toNat) ||
        isIdentifierPart (Char.ofNat entry.1)) = true := by
  decide +kernel

/-- What has another character of ASCII for its upper-case form is a letter. -/
theorem isIdentifierPart_of_raisedRuns :
    raisedRuns.all (fun run => (List.range' run.1 (run.2.1 + 1 - run.1)).all fun point =>
      128 ≤ (Char.ofNat (point - run.1 + run.2.2.2)).toNat ||
        isIdentifierPart (Char.ofNat point)) = true := by
  decide +kernel

/-- A character may stand in an identifier if its upper-case form is another one in ASCII. The
tables are looked through for this, since the property of having an upper-case form is no category:
vowel signs, letter numbers and letters in circles are among them. -/
theorem isIdentifierPart_of_raise {character : Char} (changed : raise character ≠ [character])
    (ascii : ∀ raised ∈ raise character, raised.toNat < 128) :
    isIdentifierPart character = true := by
  rw [← Char.ofNat_toNat character]
  rcases raise_cases character with ⟨entry, among, same, form⟩ | ⟨run, among, reached, form⟩ | form
  · have checked := List.all_eq_true.1 isIdentifierPart_of_raisedLong entry among
    rw [Bool.or_eq_true, List.any_eq_true] at checked
    refine same ▸ checked.resolve_left ?_
    rintro ⟨point, member, large⟩
    exact absurd (ascii _ (form ▸ List.mem_map_of_mem member))
      (Nat.not_lt.2 (of_decide_eq_true large))
  · have checked := List.all_eq_true.1 isIdentifierPart_of_raisedRuns run among
    have within : character.toNat ∈ List.range' run.1 (run.2.1 + 1 - run.1) := by
      simp only [inRun, Bool.and_eq_true, decide_eq_true_eq] at reached
      rw [List.mem_range'_1]
      omega
    have either := List.all_eq_true.1 checked _ within
    rw [Bool.or_eq_true] at either
    refine either.resolve_left fun large => ?_
    exact absurd (ascii _ (form ▸ List.mem_cons_self)) (Nat.not_lt.2 (of_decide_eq_true large))
  · exact absurd form changed

end CurlScribe.Text
