/-
This file follows references to variables through what is done to the texts of a command. A
reference is a dollar before a name that goes on as long as it can. Trimming a text leaves every
reference alone. The customary form of a header name starts each name with a capital and goes on in
small letters, and the upper-case form of a method raises every letter of it; in both no other name
is left, so a reference keeps its spelling only if it had that form before.

A name ends where it ended, except that a character that is no letter of a name may have an
upper-case form that begins with one.
-/

import CurlScribe.Proofs.HeaderNames
import CurlScribe.Proofs.ShellDollars
import CurlScribe.Proofs.ShellWords
import CurlScribe.Proofs.Trimming
import CurlScribe.Text.LetterCase

namespace CurlScribe

open Text

/-! ### References -/

/-- A text is cut at a reference: a dollar before the name of a variable, which goes on as long as
it can. -/
structure Refers (text before name after : List Char) : Prop where
  whole : text = before ++ '$' :: (name ++ after)
  valid : IsName name
  ends : EndsName after

/-- The text refers to a variable. -/
def RefersTo (text name : List Char) : Prop :=
  ∃ before after, Refers text before name after

theorem Refers.refersTo {text before name after : List Char}
    (refers : Refers text before name after) : RefersTo text name :=
  ⟨before, after, refers⟩

theorem endsName_nil : EndsName [] := by
  rintro _ ⟨⟩

theorem EndsName.of_append {text later : List Char} (ends : EndsName (text ++ later)) :
    EndsName text := by
  intro character head
  refine ends character ?_
  rw [List.head?_append, head]
  rfl

/-- A reference that lies in a part of a text is one of the part. -/
theorem Refers.of_around {front part back before name after : List Char}
    (refers : Refers (front ++ part ++ back) (front ++ before) name (after ++ back)) :
    Refers part before name after := by
  refine ⟨?_, refers.valid, refers.ends.of_append⟩
  have whole : front ++ (part ++ back) =
      front ++ (before ++ '$' :: (name ++ after) ++ back) := by
    simpa using refers.whole
  exact List.append_cancel_right (List.append_cancel_left whole)

/-! ### Trimming -/

theorem isBlank_of_isNameCharacter {character : Char}
    (inside : isNameCharacter character = true) : isBlank character = false := by
  refine isBlank_of_plain ?_
  rcases Bool.or_eq_true_iff.1 inside with letter | underscore
  · exact Bool.or_eq_true_iff.2 (Or.inl letter)
  · rw [beq_iff_eq.1 underscore]
    rfl

theorem trimStart_middle {character : Char} (visible : isBlank character = false)
    (text later : List Char) :
    trimStart (text ++ character :: later) = trimStart text ++ character :: later := by
  rw [trimStart, List.dropWhile_append, List.dropWhile_cons_of_neg (by simp [visible])]
  split_ifs with blank
  · rw [trimStart, List.isEmpty_iff.1 blank]
    rfl
  · rfl

theorem trimEnd_middle {character : Char} (visible : isBlank character = false)
    (text later : List Char) :
    trimEnd (text ++ character :: later) = text ++ character :: trimEnd later := by
  have reversed := trimStart_middle visible later.reverse text.reverse
  rw [trimEnd, List.reverse_append, List.reverse_cons, List.append_assoc, List.singleton_append,
    ← trimStart, reversed]
  simp [trimEnd, trimStart]

/-- A reference stays when the blanks around its text are removed. -/
theorem Refers.trimmed {text before name after : List Char}
    (refers : Refers text before name after) :
    Refers (trimBoth text) (trimStart before) name (trimEnd after) := by
  obtain ⟨rfl, valid, ends⟩ := refers
  obtain ⟨front, last, rfl⟩ := (List.eq_nil_or_concat' name).resolve_left valid.1
  have visible := isBlank_of_isNameCharacter (valid.2.1 last (by simp))
  obtain ⟨trail, -, whole⟩ := exists_trimEnd after
  have ended : EndsName (trimEnd after ++ trail) := by
    rwa [← whole]
  have started : trimStart (before ++ '$' :: (front ++ [last] ++ after)) =
      trimStart before ++ '$' :: (front ++ [last] ++ after) :=
    trimStart_middle rfl before _
  have stopped := trimEnd_middle visible (trimStart before ++ '$' :: front) after
  refine ⟨?_, valid, ended.of_append⟩
  rw [trimBoth, started]
  simpa using stopped

/-! ### The case of letters -/

theorem isNameCharacter_of_large {character : Char} (large : ¬ character.toNat < 128) :
    isNameCharacter character = false := by
  rw [← Bool.not_eq_true]
  intro inside
  rcases Bool.or_eq_true_iff.1 inside with letter | underscore
  · have range := range_of_isAlphanum letter
    omega
  · rw [beq_iff_eq.1 underscore] at large
    exact large (by decide)

theorem isDigit_toLower (character : Char) : character.toLower.isDigit = character.isDigit := by
  refine forall_of_ascii ?_ (fun character large => ?_) character
  · decide +kernel
  · rw [toLower_of_large large]

theorem isName_iff_of_toLower {name other : List Char}
    (same : name.map Char.toLower = other.map Char.toLower) : IsName name ↔ IsName other := by
  have lowered : ∀ text : List Char, IsName (text.map Char.toLower) ↔ IsName text := by
    intro text
    have inside : ∀ character, isNameCharacter character.toLower = isNameCharacter character :=
      fun character => (toUpper_toLower character).2.1
    simp [IsName, inside, isDigit_toLower]
  rw [← lowered name, same, lowered]

/-! ### Customary forms of header names -/

/-- The form of a text is that of its two parts if no word goes on from the first part into the
second. -/
theorem titleFrom_append {later : List Char} (ends : EndsName later) (inWord : Bool)
    (text : List Char) :
    titleFrom inWord (text ++ later) = titleFrom inWord text ++ titleFrom false later := by
  induction text generalizing inWord with
  | nil =>
    cases later with
    | nil => rfl
    | cons character rest =>
      have outside : Text.isNameCharacter character = false := ends character rfl
      simp [titleFrom, outside]
  | cons character rest inductionHypothesis =>
    rw [List.cons_append, titleFrom, titleFrom, inductionHypothesis, inductionHypothesis]
    split_ifs <;> rfl

theorem titleFrom_reference {before name after : List Char} (ends : EndsName after) :
    titleFrom false (before ++ '$' :: (name ++ after)) =
      titleFrom false before ++ '$' :: (titleFrom false name ++ titleFrom false after) := by
  have dollar : EndsName ('$' :: (name ++ after)) := by
    rintro character ⟨⟩
    rfl
  rw [titleFrom_append dollar, ← titleFrom_append ends]
  rfl

theorem titleFrom_titleFrom (text : List Char) :
    titleFrom false (titleFrom false text) = titleFrom false text := by
  rw [← titleFrom_map_toLower, map_toLower_titleFrom, titleFrom_map_toLower]

/-- A text is cut at a dollar in two ways. If the parts are of the same lengths, the names are the
same. -/
theorem parts_eq_of_length {before other name given after rest : List Char}
    (front : other.length = before.length) (middle : given.length = name.length)
    (same : before ++ '$' :: (name ++ after) = other ++ '$' :: (given ++ rest)) :
    given = name := by
  obtain ⟨-, behind⟩ := List.append_inj same front.symm
  exact ((List.append_inj (List.cons.inj behind).2 middle.symm).1).symm

/-- A reference in a header name stays where it is, its name in the customary form. -/
theorem Refers.titled {text before name after : List Char}
    (refers : Refers text before name after) :
    Refers (titleFrom false text) (titleFrom false before) (titleFrom false name)
      (titleFrom false after) := by
  obtain ⟨rfl, valid, ends⟩ := refers
  refine ⟨titleFrom_reference ends, (isName_iff_of_toLower (map_toLower_titleFrom _ _)).2 valid, ?_⟩
  cases after with
  | nil => exact ends
  | cons character rest =>
    have outside : Text.isNameCharacter character = false := ends character rfl
    rw [titleFrom, if_neg (by simp [outside])]
    rintro same ⟨⟩
    exact outside

/-- A header name refers to no name in another form. -/
theorem titleFrom_eq_of_refersTo {text name : List Char}
    (refers : RefersTo (titleFrom false text) name) : titleFrom false name = name := by
  obtain ⟨before, after, whole, -, ends⟩ := refers
  have same := titleFrom_titleFrom text
  rw [whole, titleFrom_reference ends] at same
  exact parts_eq_of_length (length_titleFrom _ _) (length_titleFrom _ _) same.symm

/-! ### Upper-case forms -/

theorem flatMap_raise_of_isName {name : List Char} (valid : IsName name) :
    name.flatMap raise = name.map Char.toUpper := by
  rw [List.map_eq_flatMap]
  refine List.flatMap_congr fun character member => raise_of_small ?_
  by_contra large
  have inside := valid.2.1 character member
  rw [isNameCharacter_of_large large] at inside
  cases inside

theorem toUpper_ofNat {point : Nat} (other : point < 0x61 ∨ 0x7a < point) :
    (Char.ofNat point).toUpper = Char.ofNat point := by
  by_cases small : point < 128
  · have all : ∀ point < 128, point < 0x61 ∨ 0x7a < point →
        (Char.ofNat point).toUpper = Char.ofNat point := by
      decide +kernel
    exact all point small other
  · by_cases valid : point.isValidChar
    · refine toUpper_of_large ?_
      have same : (Char.ofNat point).toNat = point := by
        rw [Char.ofNat, dif_pos valid]
        rfl
      rwa [same]
    · rw [Char.ofNat, dif_neg valid]
      rfl

theorem toUpper_toUpper (character : Char) : character.toUpper.toUpper = character.toUpper := by
  refine forall_of_ascii ?_ (fun character large => ?_) character
  · decide +kernel
  · rw [toUpper_of_large large, toUpper_of_large large]

/-- What stands in an upper-case form is no small letter. -/
theorem toUpper_of_mem_raise {character raised : Char} (member : raised ∈ raise character) :
    raised.toUpper = raised := by
  have long : ∀ entry ∈ raisedLong, ∀ point ∈ entry.2,
      (Char.ofNat point).toUpper = Char.ofNat point := by
    decide +kernel
  have runs : ∀ run ∈ raisedRuns,
      run.2.1 - run.1 + run.2.2.2 < 0x61 ∨ 0x7a < run.2.2.2 := by
    decide +kernel
  by_cases small : character.toNat < 128
  · rw [raise_of_small small, List.mem_singleton] at member
    rw [member, toUpper_toUpper]
  rcases raise_cases character with ⟨entry, among, -, form⟩ | ⟨run, among, reached, form⟩ | form
  · obtain ⟨point, inForm, rfl⟩ := List.mem_map.1 (form ▸ member)
    exact long entry among point inForm
  · obtain rfl := List.mem_singleton.1 (form ▸ member)
    have image := runs run among
    simp only [inRun, Bool.and_eq_true, decide_eq_true_eq] at reached
    exact toUpper_ofNat (by omega)
  · obtain rfl := List.mem_singleton.1 (form ▸ member)
    exact toUpper_of_large small

/-- The upper-case form of the first character begins with a character of a name, so a name in front
of the text goes on in it. -/
def RunsOn (text : List Char) : Prop :=
  ∃ character first, text.head? = some character ∧ (raise character).head? = some first ∧
    isNameCharacter first = true

theorem endsName_flatMap_raise {text : List Char} (stays : ¬ RunsOn text) :
    EndsName (text.flatMap raise) := by
  cases text with
  | nil => exact endsName_nil
  | cons character rest =>
    intro first head
    rw [List.flatMap_cons, List.head?_append_of_ne_nil _ (raise_ne_nil character)] at head
    rw [← Bool.not_eq_true]
    exact fun inside => stays ⟨character, first, rfl, head, inside⟩

/-- A name goes on up to where the characters of names end. -/
theorem refers_of_run {before name : List Char} (valid : IsName name) (text : List Char) :
    Refers (before ++ '$' :: (name ++ text)) before (name ++ text.takeWhile isNameCharacter)
      (text.dropWhile isNameCharacter) where
  whole := by
    rw [List.append_assoc, List.takeWhile_append_dropWhile]
  valid := by
    refine ⟨List.append_ne_nil_of_left_ne_nil valid.1 _, ?_, ?_⟩
    · intro character member
      rcases List.mem_append.1 member with inside | behind
      · exact valid.2.1 character inside
      · exact List.mem_takeWhile_imp behind
    · intro character head
      rw [List.head?_append_of_ne_nil _ valid.1] at head
      exact valid.2.2 character head
  ends := by
    intro character head
    have stopped := List.head?_dropWhile_not isNameCharacter text
    rw [head] at stopped
    exact stopped

theorem map_toLower_toUpper (name : List Char) :
    (name.map Char.toUpper).map Char.toLower = name.map Char.toLower := by
  rw [List.map_map]
  exact List.map_congr_left fun character _ => (toLower_recased character).1

/-- A reference in a method stays where it is, its name in capitals. The name goes on if the
upper-case form of what stands behind it does. -/
theorem Refers.raised {text before name after : List Char}
    (refers : Refers text before name after) :
    ∃ more rest, (more = [] ∨ RunsOn after) ∧
      Refers (text.flatMap raise) (before.flatMap raise) (name.map Char.toUpper ++ more) rest := by
  obtain ⟨rfl, valid, ends⟩ := refers
  have raised : IsName (name.map Char.toUpper) :=
    (isName_iff_of_toLower (map_toLower_toUpper name)).2 valid
  have whole : (before ++ '$' :: (name ++ after)).flatMap raise =
      before.flatMap raise ++ '$' :: (name.map Char.toUpper ++ after.flatMap raise) := by
    have dollar : raise '$' = ['$'] := raise_of_small (by decide)
    simp [List.flatMap_append, dollar, flatMap_raise_of_isName valid]
  rw [whole]
  by_cases runs : RunsOn after
  · exact ⟨_, _, Or.inr runs, refers_of_run raised _⟩
  · refine ⟨[], after.flatMap raise, Or.inl rfl, ?_⟩
    rw [List.append_nil]
    exact ⟨rfl, raised, endsName_flatMap_raise runs⟩

/-- The upper-case form of a sharp s goes on with the name in front of it. -/
example : "$aß".toList.flatMap raise = "$ASS".toList := by decide

/-- A method refers to no name in small letters. -/
theorem map_toUpper_of_refersTo {text name : List Char}
    (refers : RefersTo (text.flatMap raise) name) : name.map Char.toUpper = name := by
  obtain ⟨before, after, whole, -, -⟩ := refers
  conv_rhs => rw [← List.map_id name]
  refine List.map_congr_left fun character member => ?_
  have within : character ∈ text.flatMap raise := by
    simp [whole, member]
  obtain ⟨_, -, among⟩ := List.mem_flatMap.1 within
  exact toUpper_of_mem_raise among

end CurlScribe
