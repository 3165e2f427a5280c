/-
This file says what the literal for the text of a body stands for. With the templated
encoding it stands for exactly the text, whatever characters that holds. With the raw
encoding the escapes in the text are meant for Go: where every backslash begins one, they
are to be interpreted, and else the text is to be kept as it is.

The raw encoding decides on the text after quotes and line ends are escaped in it, so a
backslash right before a line end pairs up with the backslash that the line end gets. Such a
text passes the check, and the line end becomes a letter. No other text is changed.
-/

import CurlScribe.Proofs.StringLiterals

namespace CurlScribe.Go

open Text

/-! ### Characters of a body -/

/-- What a character of a body becomes where backslashes are kept. -/
def rawItem (character : Char) : LiteralItem :=
  if character = '\x22' then .letter '\x22'
  else if character = '\n' then .letter 'n'
  else if character = '\r' then .letter 'r'
  else .ordinary character

/-- What a character of a body becomes where everything is escaped. -/
def safeItem (character : Char) : LiteralItem :=
  if character = '\x5c' then .letter '\x5c' else rawItem character

theorem written_rawItem (character : Char) :
    (rawItem character).written = rawCharacter character := by
  unfold rawItem rawCharacter
  split_ifs <;> rfl

theorem written_safeItem (character : Char) :
    (safeItem character).written = safeCharacter character := by
  unfold safeItem safeCharacter
  split_ifs
  · rfl
  · exact written_rawItem character

theorem fits_rawItem {character : Char} (other : character ≠ '\x5c') :
    (rawItem character).Fits := by
  unfold rawItem
  split_ifs with quote line start
  · show '\x22' ∈ escapeLetters
    decide
  · show 'n' ∈ escapeLetters
    decide
  · show 'r' ∈ escapeLetters
    decide
  · exact ⟨quote, other, line⟩

theorem fits_safeItem (character : Char) : (safeItem character).Fits := by
  unfold safeItem
  split_ifs with backslash
  · show '\x5c' ∈ escapeLetters
    decide
  · exact fits_rawItem backslash

theorem character?_rawItem (character : Char) :
    (rawItem character).character? = some character := by
  unfold rawItem
  split_ifs with quote line start
  · exact congrArg some quote.symm
  · exact congrArg some line.symm
  · exact congrArg some start.symm
  · rfl

theorem character?_safeItem (character : Char) :
    (safeItem character).character? = some character := by
  unfold safeItem
  split_ifs with backslash
  · exact congrArg some backslash.symm
  · exact character?_rawItem character

/-! ### Literals that escape everything -/

/-- The literal that escapes everything stands for the text. -/
theorem denotes_safeLiteral (text : String) : Denotes (safeLiteral text) text.toList := by
  refine ⟨text.toList.map safeItem, fun item member => ?_, ?_, ?_⟩
  · obtain ⟨character, -, rfl⟩ := List.mem_map.1 member
    exact fits_safeItem character
  · rw [List.flatMap_map, funext written_safeItem, safeLiteral]
  · rw [List.map_map]
    exact List.map_congr_left fun character _ => character?_safeItem character

/-- The token is a raw string literal that carries all that is written in it. -/
def IsRawLiteral (token : String) : Prop :=
  ∃ content : List Char, '\x60' ∉ content ∧ '\r' ∉ content ∧ token = backquoted content

/-- The literal for a templated body is one that Go accepts, and it stands for the text. -/
theorem bodyLiteral_templated (text : String) :
    (IsRawLiteral (bodyLiteral .templated text) ∨
      IsInterpretedLiteral (bodyLiteral .templated text)) ∧
    ∀ value, HasValue (bodyLiteral .templated text) value ↔ value = encode text.toList := by
  have settled (stands : HasValue (bodyLiteral .templated text) (encode text.toList))
      (value : List UInt8) :
      HasValue (bodyLiteral .templated text) value ↔ value = encode text.toList :=
    ⟨fun other => other.unique stands, fun same => same ▸ stands⟩
  simp only [bodyLiteral] at settled ⊢
  split_ifs at settled ⊢ with special
  · have denotes := denotes_safeLiteral text
    obtain ⟨items, fit, isWritten, -⟩ := id denotes
    exact ⟨Or.inr ⟨items, fit, isWritten⟩, settled denotes.hasValue⟩
  · simp only [List.any_eq_true, decide_eq_true_eq, not_exists, not_and, not_or] at special
    have closed : '\x60' ∉ text.toList := fun member => (special _ member).1 rfl
    have carried : '\r' ∉ text.toList := fun member => (special _ member).2 rfl
    have token : "\x60" ++ text ++ "\x60" = backquoted text.toList := by
      simp [backquoted, String.ext_iff]
    refine ⟨Or.inl ⟨text.toList, closed, carried, token⟩, settled ?_⟩
    refine .raw text.toList closed token (congrArg encode ?_)
    refine (List.filter_eq_self.2 fun character member => ?_).symm
    exact decide_eq_true fun same => carried (same ▸ member)

/-! ### Escapes in a raw body -/

namespace LiteralItem

/-- An item that the text of a body may hold: a character other than a backslash, or an escape
that Go knows, but not the one for a quote, since a quote in a body stands for itself. -/
def IsTyped : LiteralItem → Prop
  | .ordinary character => character ≠ '\x5c'
  | .letter character => character ∈ escapeLetters ∧ character ≠ '\x22'
  | item@(.numeric _ _) => item.Fits

/-- The item is a backslash right before the end of a line. -/
def BreaksLine (item : LiteralItem) : Prop :=
  item = .letter '\n' ∨ item = .letter '\r'

/-- An item of a body that the check lets pass. -/
def IsKept (item : LiteralItem) : Prop :=
  item.IsTyped ∨ item.BreaksLine

/-- What an item of a body becomes in the literal. -/
def emitted : LiteralItem → List LiteralItem
  | .ordinary character => [rawItem character]
  | .letter '\n' => [.letter '\x5c', .ordinary 'n']
  | .letter '\r' => [.letter '\x5c', .ordinary 'r']
  | item => [item]

theorem isDistinct_of_isTyped {item : LiteralItem} (typed : item.IsTyped) : item.IsDistinct := by
  cases item with
  | ordinary character => exact typed
  | letter character =>
    have fits : (LiteralItem.letter character).Fits := typed.1
    exact isDistinct_of_fits fits
  | numeric escape digits => exact typed

theorem isDistinct_of_isKept {item : LiteralItem} (kept : item.IsKept) : item.IsDistinct := by
  rcases kept with typed | rfl | rfl
  · exact isDistinct_of_isTyped typed
  · exact ⟨by decide, by decide⟩
  · exact ⟨by decide, by decide⟩

theorem not_breaksLine_of_isTyped {item : LiteralItem} (typed : item.IsTyped) :
    ¬ item.BreaksLine := by
  rintro (rfl | rfl)
  · exact absurd typed.1 (by decide)
  · exact absurd typed.1 (by decide)

/-- Behind the backslash of a number stands nothing that a literal has to escape. -/
theorem not_special_of_fits {escape : NumericEscape} {digits : List Char}
    (fits : (LiteralItem.numeric escape digits).Fits) {character : Char}
    (member : character ∈ escape.lead ++ digits) :
    character ∉ ['\x5c', '\x22', '\n', '\r'] := by
  intro special
  rcases List.mem_append.1 member with lead | digit
  · have leads : ∀ other ∈ ['\x5c', '\x22', '\n', '\r'], other ∉ escape.lead :=
      List.all_iff_forall_prop.1 (by cases escape <;> decide)
    exact leads character special lead
  · have digits : ∀ other ∈ ['\x5c', '\x22', '\n', '\r'],
        digitValue escape.base other = none :=
      List.all_iff_forall_prop.1 (by cases escape <;> decide)
    have valid := fits.2.1 character digit
    rw [digits character special] at valid
    cases valid

end LiteralItem

/-- A character is written as it stands, or behind a backslash. -/
theorem rawCharacter_cases (character : Char) :
    rawCharacter character = [character] ∨ ∃ letter, rawCharacter character = ['\x5c', letter] := by
  unfold rawCharacter
  split_ifs
  · exact Or.inr ⟨_, rfl⟩
  · exact Or.inr ⟨_, rfl⟩
  · exact Or.inr ⟨_, rfl⟩
  · exact Or.inl rfl

theorem flatMap_rawCharacter_of_ordinary {text : List Char}
    (ordinary : ∀ character ∈ text, character ∉ ['\x22', '\n', '\r']) :
    text.flatMap rawCharacter = text := by
  induction text with
  | nil => rfl
  | cons character later inductionHypothesis =>
    obtain ⟨first, others⟩ := List.forall_mem_cons.1 ordinary
    simp only [List.mem_cons, List.not_mem_nil, or_false, not_or] at first
    rw [List.flatMap_cons, inductionHypothesis others, rawCharacter, if_neg first.1,
      if_neg first.2.1, if_neg first.2.2]
    rfl

/-- Characters that start the written form of a text, none of them a backslash, start the text. -/
theorem exists_of_flatMap_rawCharacter {plain rest text : List Char} (noBackslash : '\x5c' ∉ plain)
    (same : text.flatMap rawCharacter = plain ++ rest) :
    ∃ later, text = plain ++ later ∧ later.flatMap rawCharacter = rest := by
  induction plain generalizing text with
  | nil => exact ⟨text, rfl, same⟩
  | cons character others inductionHypothesis =>
    obtain ⟨other, absent⟩ := List.ne_and_not_mem_of_not_mem_cons noBackslash
    cases text with
    | nil => cases same
    | cons first text =>
      rw [List.flatMap_cons] at same
      rcases rawCharacter_cases first with itself | ⟨letter, escaped⟩
      · rw [itself] at same
        obtain ⟨rfl, rests⟩ := List.cons.inj same
        obtain ⟨later, rfl, found⟩ := inductionHypothesis absent rests
        exact ⟨later, rfl, found⟩
      · rw [escaped] at same
        exact absurd (List.cons.inj same).1 other

/-! ### The check on a raw body -/

/-- The text starts with an item that the check lets pass, and goes on with a text that it lets
pass. -/
def Advances (text : List Char) : Prop :=
  ∃ item : LiteralItem, item.IsKept ∧ ∃ later, text = item.written ++ later ∧
    isInterpreted (later.flatMap rawCharacter) = true

/-- Behind a character other than a backslash the check goes on. -/
theorem advances_of_ordinary {character : Char} (ordinary : character ≠ '\x5c') {text : List Char}
    (accepted : isInterpreted ((character :: text).flatMap rawCharacter) = true) :
    Advances (character :: text) := by
  refine ⟨.ordinary character, Or.inl ordinary, text, rfl, ?_⟩
  rw [List.flatMap_cons, ← written_rawItem] at accepted
  exact (isInterpreted_written_iff (fits_rawItem ordinary) _).1 accepted

/-- Behind a backslash stands an escape that Go knows, or the end of a line: the backslash that a
quote gets pairs up with the one before it, and the quote is left alone. -/
theorem advances_of_backslash {text : List Char}
    (accepted : isInterpreted (('\x5c' :: text).flatMap rawCharacter) = true) :
    Advances ('\x5c' :: text) := by
  obtain ⟨later, read, others⟩ :=
    (isInterpreted_backslash (text.flatMap rawCharacter)).1 accepted
  rcases (readEscape_eq_some_iff ..).1 read with
    ⟨letter, among, same⟩ | ⟨escape, digits, fits, same⟩
  · cases text with
    | nil => cases same
    | cons next text =>
      rw [List.flatMap_cons] at same
      by_cases quote : next = '\x22'
      · subst quote
        obtain ⟨rfl, rfl⟩ := List.cons.inj same
        exact absurd rfl ((isInterpreted_ordinary (by decide) _).1 others).1
      · by_cases line : next = '\n'
        · subst line
          obtain ⟨rfl, rfl⟩ := List.cons.inj same
          exact ⟨.letter '\n', Or.inr (Or.inl rfl), text, rfl,
            ((isInterpreted_ordinary (by decide) _).1 others).2.2⟩
        · by_cases start : next = '\r'
          · subst start
            obtain ⟨rfl, rfl⟩ := List.cons.inj same
            exact ⟨.letter '\r', Or.inr (Or.inr rfl), text, rfl,
              ((isInterpreted_ordinary (by decide) _).1 others).2.2⟩
          · rw [rawCharacter, if_neg quote, if_neg line, if_neg start] at same
            obtain ⟨rfl, rfl⟩ := List.cons.inj same
            exact ⟨.letter next, Or.inl ⟨among, quote⟩, text, rfl, others⟩
  · rw [← List.append_assoc] at same
    obtain ⟨rest, rfl, rfl⟩ := exists_of_flatMap_rawCharacter
      (fun member => LiteralItem.not_special_of_fits fits member List.mem_cons_self) same
    exact ⟨.numeric escape digits, Or.inl fits, rest, rfl, others⟩

/-- The check lets a body pass only if it lets each of its items pass. -/
theorem exists_kept_items {text : List Char}
    (accepted : isInterpreted (text.flatMap rawCharacter) = true) :
    ∃ items : List LiteralItem, (∀ item ∈ items, item.IsKept) ∧
      text = items.flatMap LiteralItem.written := by
  induction length : text.length using Nat.strongRecOn generalizing text with
  | _ count inductionHypothesis =>
    cases text with
    | nil => exact ⟨[], nofun, rfl⟩
    | cons character rest =>
      have advances : Advances (character :: rest) := by
        by_cases backslash : character = '\x5c'
        · subst backslash
          exact advances_of_backslash accepted
        · exact advances_of_ordinary backslash accepted
      obtain ⟨item, kept, later, split, goesOn⟩ := advances
      have shorter : later.length < count := by
        have some := List.length_pos_of_ne_nil (written_ne_nil item)
        rw [← length, split, List.length_append]
        omega
      obtain ⟨items, areKept, rfl⟩ := inductionHypothesis _ shorter goesOn rfl
      exact ⟨item :: items, List.forall_mem_cons.2 ⟨kept, areKept⟩, split⟩

/-! ### The value of a raw body -/

namespace LiteralItem

theorem emitted_ordinary (character : Char) :
    (LiteralItem.ordinary character).emitted = [rawItem character] :=
  rfl

theorem emitted_letter {character : Char} (letter : character ∈ escapeLetters) :
    (LiteralItem.letter character).emitted = [.letter character] := by
  have all : ∀ other ∈ escapeLetters, (LiteralItem.letter other).emitted = [.letter other] :=
    List.all_iff_forall_prop.1 (by decide)
  exact all character letter

/-- An item that passes the check is written in the literal as the items it becomes. -/
theorem written_emitted {item : LiteralItem} (kept : item.IsKept) :
    item.written.flatMap rawCharacter = item.emitted.flatMap written := by
  rcases kept with typed | rfl | rfl
  · cases item with
    | ordinary character =>
      rw [emitted_ordinary, List.flatMap_singleton, written_rawItem]
      exact List.flatMap_singleton ..
    | letter character =>
      have letters : ∀ other ∈ escapeLetters, other ≠ '\x22' →
          other ∉ ['\x22', '\n', '\r'] :=
        List.all_iff_forall_prop.1 (by decide)
      rw [emitted_letter typed.1, List.flatMap_singleton]
      refine flatMap_rawCharacter_of_ordinary (List.forall_mem_cons.2 ⟨by decide, ?_⟩)
      rw [List.forall_mem_singleton]
      exact letters character typed.1 typed.2
    | numeric escape digits =>
      rw [show emitted (.numeric escape digits) = [.numeric escape digits] from rfl,
        List.flatMap_singleton]
      refine flatMap_rawCharacter_of_ordinary (List.forall_mem_cons.2 ⟨by decide, ?_⟩)
      exact fun character member special =>
        not_special_of_fits typed member (List.mem_cons_of_mem _ special)
  · rfl
  · rfl

theorem fits_emitted {item : LiteralItem} (kept : item.IsKept) :
    ∀ other ∈ item.emitted, other.Fits := by
  have backslash : '\x5c' ∈ escapeLetters := by decide
  rcases kept with typed | rfl | rfl
  · cases item with
    | ordinary character => exact List.forall_mem_singleton.2 (fits_rawItem typed)
    | letter character =>
      rw [emitted_letter typed.1]
      exact List.forall_mem_singleton.2 typed.1
    | numeric escape digits => exact List.forall_mem_singleton.2 typed
  · exact List.forall_mem_cons.2 ⟨backslash, List.forall_mem_singleton.2
      ⟨by decide, by decide, by decide⟩⟩
  · exact List.forall_mem_cons.2 ⟨backslash, List.forall_mem_singleton.2
      ⟨by decide, by decide, by decide⟩⟩

/-- An item that Go reads as it is typed stands for the same in the literal. -/
theorem bytes_emitted {item : LiteralItem} (typed : item.IsTyped) :
    item.emitted.flatMap bytes = item.bytes := by
  cases item with
  | ordinary character =>
    rw [emitted_ordinary, List.flatMap_singleton]
    exact bytes_of_character? (character?_rawItem character)
  | letter character => rw [emitted_letter typed.1, List.flatMap_singleton]
  | numeric escape digits => exact List.flatMap_singleton ..

end LiteralItem

theorem fits_flatMap_emitted {items : List LiteralItem} (kept : ∀ item ∈ items, item.IsKept) :
    ∀ item ∈ items.flatMap LiteralItem.emitted, item.Fits := by
  intro other member
  obtain ⟨item, among, inside⟩ := List.mem_flatMap.1 member
  exact LiteralItem.fits_emitted (kept item among) other inside

theorem written_flatMap_emitted {items : List LiteralItem} (kept : ∀ item ∈ items, item.IsKept) :
    (items.flatMap LiteralItem.written).flatMap rawCharacter =
      (items.flatMap LiteralItem.emitted).flatMap LiteralItem.written := by
  rw [List.flatMap_assoc, List.flatMap_assoc]
  exact List.flatMap_congr fun item member => LiteralItem.written_emitted (kept item member)

/-- The check lets a body pass if and only if it lets each of its items pass. -/
theorem isInterpreted_rawCharacters_iff (text : List Char) :
    isInterpreted (text.flatMap rawCharacter) = true ↔
      ∃ items : List LiteralItem, (∀ item ∈ items, item.IsKept) ∧
        text = items.flatMap LiteralItem.written := by
  refine ⟨exists_kept_items, ?_⟩
  rintro ⟨items, kept, rfl⟩
  exact (isInterpreted_iff _).2 ⟨_, fits_flatMap_emitted kept, written_flatMap_emitted kept⟩

/-- A body whose items pass the check stands for what its items become. -/
theorem hasValue_raw_of_isKept {items : List LiteralItem} (kept : ∀ item ∈ items, item.IsKept)
    {text : String} (split : text.toList = items.flatMap LiteralItem.written) :
    HasValue (bodyLiteral .raw text)
      ((items.flatMap LiteralItem.emitted).flatMap LiteralItem.bytes) := by
  have accepted := (isInterpreted_rawCharacters_iff text.toList).2 ⟨items, kept, split⟩
  refine .interpreted _ (fits_flatMap_emitted kept) ?_ rfl
  simp only [bodyLiteral]
  rw [if_pos accepted, split, written_flatMap_emitted kept]

/-- A body that the check refuses stands for itself. -/
theorem hasValue_raw_of_refused {text : String}
    (refused : ¬ isInterpreted (text.toList.flatMap rawCharacter) = true) :
    HasValue (bodyLiteral .raw text) (encode text.toList) := by
  simp only [bodyLiteral]
  rw [if_neg refused]
  exact (denotes_safeLiteral text).hasValue

/-! ### Changed bodies -/

/-- In the text, every backslash begins an escape other than the one for a quote. -/
def IsEscapeValid (text : List Char) : Prop :=
  ∃ items : List LiteralItem, (∀ item ∈ items, item.IsTyped) ∧
    text = items.flatMap LiteralItem.written

/-- What a raw body is to stand for: the text with its escapes interpreted if each backslash begins
one, and else the text itself. -/
inductive IsIntended (text : List Char) (value : List UInt8) : Prop
  | interpreted (items : List LiteralItem) (typed : ∀ item ∈ items, item.IsTyped)
      (split : text = items.flatMap LiteralItem.written)
      (same : value = items.flatMap LiteralItem.bytes)
  | itself (invalid : ¬ IsEscapeValid text) (same : value = encode text)

/-- In the text, every backslash begins an escape other than the one for a quote, or stands right
before the end of a line, and at least one does the latter. -/
def BreaksLine (text : List Char) : Prop :=
  ∃ items : List LiteralItem, (∀ item ∈ items, item.IsKept) ∧
    text = items.flatMap LiteralItem.written ∧ ∃ item ∈ items, item.BreaksLine

theorem length_encode_ge (characters : List Char) :
    characters.length ≤ (encode characters).length := by
  induction characters with
  | nil => exact Nat.le_refl _
  | cons character later inductionHypothesis =>
    have some := character.utf8Size_pos
    simp only [encode, List.flatMap_cons, List.length_append, String.length_utf8EncodeChar,
      List.length_cons] at inductionHypothesis ⊢
    omega

namespace LiteralItem

/-- A numeric escape is longer than any character. -/
theorem length_bytes_lt_of_fits {escape : NumericEscape} {digits : List Char}
    (fits : (LiteralItem.numeric escape digits).Fits) :
    (LiteralItem.numeric escape digits).bytes.length <
      (LiteralItem.numeric escape digits).written.length := by
  have enough := fits.1
  have point := (Char.ofNat (digitsValue escape.base digits)).utf8Size_le_four
  cases escape <;>
    simp only [bytes, written, NumericEscape.range, NumericEscape.lead, NumericEscape.count,
      NumericEscape.base, List.length_cons, List.length_append, List.length_nil,
      String.length_utf8EncodeChar] at enough point ⊢ <;>
    omega

/-- An escape stands for fewer bytes than it is written with. -/
theorem bytes_of_isTyped {item : LiteralItem} (typed : item.IsTyped) :
    item.bytes = encode item.written ∨ item.bytes.length < (encode item.written).length := by
  cases item with
  | ordinary character => exact Or.inl (List.append_nil _).symm
  | letter character =>
    have letters : ∀ other ∈ escapeLetters, (LiteralItem.letter other).bytes.length <
        (encode (LiteralItem.letter other).written).length :=
      List.all_iff_forall_prop.1 (by decide)
    exact Or.inr (letters character typed.1)
  | numeric escape digits =>
    exact Or.inr (Nat.lt_of_lt_of_le (length_bytes_lt_of_fits typed) (length_encode_ge _))

/-- Behind a backslash the end of a line becomes another character. -/
theorem bytes_of_breaksLine {item : LiteralItem} (breaks : item.BreaksLine) :
    (item.emitted.flatMap bytes).length = (encode item.written).length ∧
      item.emitted.flatMap bytes ≠ encode item.written := by
  rcases breaks with rfl | rfl
  · decide
  · decide

theorem length_bytes_emitted_le {item : LiteralItem} (kept : item.IsKept) :
    (item.emitted.flatMap bytes).length ≤ (encode item.written).length := by
  rcases kept with typed | breaks
  · rw [bytes_emitted typed]
    rcases bytes_of_isTyped typed with same | shorter
    · exact Nat.le_of_eq (congrArg List.length same)
    · exact Nat.le_of_lt shorter
  · exact Nat.le_of_eq (bytes_of_breaksLine breaks).1

end LiteralItem

/-- The items of a body never stand for more bytes than the body has. -/
theorem length_bytes_le {items : List LiteralItem} (kept : ∀ item ∈ items, item.IsKept) :
    ((items.flatMap LiteralItem.emitted).flatMap LiteralItem.bytes).length ≤
      (encode (items.flatMap LiteralItem.written)).length := by
  induction items with
  | nil => exact Nat.le_refl _
  | cons item later inductionHypothesis =>
    obtain ⟨first, others⟩ := List.forall_mem_cons.1 kept
    have rest := inductionHypothesis others
    have head := LiteralItem.length_bytes_emitted_le first
    simp only [encode, List.flatMap_cons, List.flatMap_append, List.length_append] at rest head ⊢
    omega

/-- A body with a backslash before the end of a line does not stand for itself: nothing makes up
for an item that stands for less, and where no item does, the end of the line is changed. -/
theorem bytes_ne_of_breaksLine {items : List LiteralItem} (kept : ∀ item ∈ items, item.IsKept)
    {broken : LiteralItem} (member : broken ∈ items) (breaks : broken.BreaksLine) :
    (items.flatMap LiteralItem.emitted).flatMap LiteralItem.bytes ≠
      encode (items.flatMap LiteralItem.written) := by
  induction items with
  | nil => cases member
  | cons item later inductionHypothesis =>
    obtain ⟨first, others⟩ := List.forall_mem_cons.1 kept
    intro same
    have pieces : item.emitted.flatMap LiteralItem.bytes ++
          (later.flatMap LiteralItem.emitted).flatMap LiteralItem.bytes =
        encode item.written ++ encode (later.flatMap LiteralItem.written) := by
      simpa only [encode, List.flatMap_cons, List.flatMap_append] using same
    have rest := length_bytes_le others
    rcases first with typed | here
    · rw [LiteralItem.bytes_emitted typed] at pieces
      rcases LiteralItem.bytes_of_isTyped typed with equal | shorter
      · rw [equal] at pieces
        rcases List.mem_cons.1 member with rfl | behind
        · exact LiteralItem.not_breaksLine_of_isTyped typed breaks
        · exact inductionHypothesis others behind (List.append_cancel_left pieces)
      · have lengths := congrArg List.length pieces
        rw [List.length_append, List.length_append] at lengths
        omega
    · obtain ⟨sameLength, different⟩ := LiteralItem.bytes_of_breaksLine here
      exact different (List.append_inj pieces sameLength).1

/-- Items that pass the check are the only ones that make up their text. -/
theorem eq_of_isKept {first second : List LiteralItem} (firstKept : ∀ item ∈ first, item.IsKept)
    (secondKept : ∀ item ∈ second, item.IsKept)
    (same : first.flatMap LiteralItem.written = second.flatMap LiteralItem.written) :
    first = second :=
  LiteralItem.eq_of_flatMap_written
    (fun item member => LiteralItem.isDistinct_of_isKept (firstKept item member))
    (fun item member => LiteralItem.isDistinct_of_isKept (secondKept item member)) same

/-- What a body with a backslash before the end of a line stands for is not intended. -/
theorem not_isIntended_of_breaksLine {items : List LiteralItem}
    (kept : ∀ item ∈ items, item.IsKept) {broken : LiteralItem} (member : broken ∈ items)
    (breaks : broken.BreaksLine) :
    ¬ IsIntended (items.flatMap LiteralItem.written)
      ((items.flatMap LiteralItem.emitted).flatMap LiteralItem.bytes) := by
  intro intended
  cases intended with
  | interpreted others typed split _ =>
    obtain rfl := eq_of_isKept kept (fun item among => Or.inl (typed item among)) split
    exact LiteralItem.not_breaksLine_of_isTyped (typed broken member) breaks
  | itself _ same => exact bytes_ne_of_breaksLine kept member breaks same

/-- The literal for a raw body has one value. It is the intended one unless the body passes the
check and has a backslash right before the end of a line. -/
theorem bodyLiteral_raw_intended_iff (text : String) :
    ∃ value, (∀ other, HasValue (bodyLiteral .raw text) other ↔ other = value) ∧
      (IsIntended text.toList value ↔ ¬ BreaksLine text.toList) := by
  have only {value : List UInt8} (stands : HasValue (bodyLiteral .raw text) value)
      (other : List UInt8) : HasValue (bodyLiteral .raw text) other ↔ other = value :=
    ⟨fun another => another.unique stands, fun same => same ▸ stands⟩
  by_cases passes : ∃ items : List LiteralItem, (∀ item ∈ items, item.IsKept) ∧
      text.toList = items.flatMap LiteralItem.written
  · obtain ⟨items, kept, split⟩ := passes
    refine ⟨_, only (hasValue_raw_of_isKept kept split), ?_, ?_⟩
    · rintro intended ⟨others, otherKept, otherSplit, broken, member, breaks⟩
      obtain rfl := eq_of_isKept otherKept kept (otherSplit.symm.trans split)
      rw [split] at intended
      exact not_isIntended_of_breaksLine kept member breaks intended
    · intro whole
      have typed : ∀ item ∈ items, item.IsTyped := fun item member =>
        (kept item member).resolve_right fun breaks =>
          whole ⟨items, kept, split, item, member, breaks⟩
      refine .interpreted items typed split ?_
      rw [List.flatMap_assoc]
      exact List.flatMap_congr fun item member => LiteralItem.bytes_emitted (typed item member)
  · have refused : ¬ isInterpreted (text.toList.flatMap rawCharacter) = true := fun accepted =>
      passes ((isInterpreted_rawCharacters_iff text.toList).1 accepted)
    refine ⟨_, only (hasValue_raw_of_refused refused), fun _ => ?_, fun _ => ?_⟩
    · rintro ⟨items, kept, split, -⟩
      exact passes ⟨items, kept, split⟩
    · refine .itself ?_ rfl
      rintro ⟨items, typed, split⟩
      exact passes ⟨items, fun item member => Or.inl (typed item member), split⟩

/-- The backslash before the line feed makes an escape with the backslash that the line feed gets,
and the line feed becomes a letter. -/
theorem bodyLiteral_raw_not_intended :
    ∃ value, HasValue (bodyLiteral .raw "a\\\nb") value ∧ value = encode "a\\nb".toList ∧
      ¬ IsIntended "a\\\nb".toList value := by
  have plain {character : Char} (other : character ≠ '\x5c') :
      (LiteralItem.ordinary character).IsKept := Or.inl other
  have kept : ∀ item ∈ [LiteralItem.ordinary 'a', .letter '\n', .ordinary 'b'], item.IsKept := by
    simp only [List.forall_mem_cons]
    exact ⟨plain (by decide), Or.inr (Or.inl rfl), plain (by decide), nofun⟩
  refine ⟨_, hasValue_raw_of_isKept kept rfl, ?_, ?_⟩
  · decide
  · exact not_isIntended_of_breaksLine kept (List.mem_cons_of_mem _ List.mem_cons_self) (Or.inl rfl)

end CurlScribe.Go
