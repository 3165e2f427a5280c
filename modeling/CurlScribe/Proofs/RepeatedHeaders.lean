/-
This file says which headers the header lines of a command give. Lines without a colon count for
nothing; each of the others is cut at its first colon. Of the lines whose names differ in the case
of ASCII letters only, the first settles the place of the header and the last its value. Behind
the headers of the lines stands at most one more: the default content type, where there is a body
and no line names a content type.

The name that a header is kept under depends on the letters of the name alone, so writing the
names of the lines in another case changes nothing of the request.
-/

import CurlScribe.Proofs.ConsistentRequests
import CurlScribe.Proofs.HeaderHistory
import CurlScribe.Proofs.ShapingOptions
import Mathlib.Data.List.Forall2

namespace CurlScribe

open Text

/-! ### Lines -/

/-- The header lines of a command. -/
def headerLines (command : Command) : List String :=
  command.values "H" ++ command.values "header"

/-- The line has a name and a value: it is cut at its first colon, and the blanks around both parts
are left out. -/
def ReadsAs (line : String) (pair : String × String) : Prop :=
  ∃ name value : List Char, line.toList = name ++ ':' :: value ∧ ':' ∉ name ∧
    pair = (String.ofList (trimBoth name), String.ofList (trimBoth value))

theorem headerOfLine_of_colon {line : String} {name value : List Char}
    (whole : line.toList = name ++ ':' :: value) (first : ':' ∉ name) :
    headerOfLine line = some (String.ofList (trimBoth name), String.ofList (trimBoth value)) := by
  rw [headerOfLine, cutAt, whole, splitFirst_append first]
  simp [trim]

theorem headerOfLine_of_no_colon {line : String} (absent : ':' ∉ line.toList) :
    headerOfLine line = none := by
  rw [headerOfLine, cutAt, (splitFirst_eq_none_iff ':' _).2 absent]
  rfl

/-- A line with a colon has a first one. -/
theorem exists_first_colon {line : String} (member : ':' ∈ line.toList) :
    ∃ name value, line.toList = name ++ ':' :: value ∧ ':' ∉ name := by
  cases found : splitFirst ':' line.toList with
  | none => exact absurd member ((splitFirst_eq_none_iff ':' _).1 found)
  | some parts => exact ⟨parts.1, parts.2, splitFirst_eq_some found⟩

/-- What the lines of a command say, line by line. -/
theorem readsAs_filterMap (lines : List String) :
    List.Forall₂ ReadsAs (lines.filter fun line => ':' ∈ line.toList)
      (lines.filterMap headerOfLine) := by
  induction lines with
  | nil => exact .nil
  | cons line rest inductionHypothesis =>
    by_cases member : ':' ∈ line.toList
    · obtain ⟨name, value, whole, first⟩ := exists_first_colon member
      rw [List.filter_cons_of_pos (by simpa using member),
        List.filterMap_cons_some (headerOfLine_of_colon whole first)]
      exact .cons ⟨name, value, whole, first, rfl⟩ inductionHypothesis
    · rw [List.filter_cons_of_neg (by simpa using member),
        List.filterMap_cons_none (headerOfLine_of_no_colon member)]
      exact inductionHypothesis

/-! ### One header for each name -/

/-- The last pair whose name has a key. -/
def IsLast (pairs : List (String × String)) (key : String) (pair : String × String) : Prop :=
  ∃ earlier later, pairs = earlier ++ pair :: later ∧ lowered pair.1 = key ∧
    ∀ other ∈ later, lowered other.1 ≠ key

/-- Headers stand for a list of names and values: one for each name up to the case of ASCII letters,
in the order in which the names first appear, with the last value of the name. -/
structure StandFor (pairs : List (String × String)) (entries : List Header) : Prop where
  inOrder : entries.map (fun header => lowered header.name) =
    (pairs.map fun pair => lowered pair.1).eraseDups
  last : ∀ header ∈ entries, ∃ name, header.name = titleCase name ∧
    IsLast pairs (lowered header.name) (name, header.value)

/-- The headers of a list of names and values are those that stay when all of them are set. -/
theorem ofPairs_eq_after (pairs : List (String × String)) :
    Headers.ofPairs pairs = Headers.after (pairs.map fun pair => .set pair.1 pair.2) := by
  rw [Headers.after, List.foldl_map]
  rfl

theorem keys_ofPairs (pairs : List (String × String)) :
    (Headers.ofPairs pairs).keys = (pairs.map fun pair => lowered pair.1).eraseDups := by
  induction pairs using List.reverseRecOn with
  | nil => rfl
  | append_singleton pairs pair inductionHypothesis =>
    have step : Headers.ofPairs (pairs ++ [pair]) = (Headers.ofPairs pairs).set pair.1 pair.2 :=
      List.foldl_concat _ _ _ _
    rw [step, keys_set, inductionHypothesis, List.map_append, List.map_singleton,
      List.eraseDups_append, List.cons_removeAll]
    -- The last key is new, or it has its place already.
    split_ifs with there absent absent
    · exact absurd (List.mem_eraseDups.1 there) (by simpa using absent)
    · exact (List.append_nil _).symm
    · rfl
    · exact absurd (List.mem_eraseDups.2 (by simpa using absent)) there

theorem isLast_of_lastSet {pairs : List (String × String)} {key name value : String}
    (set : LastSet (pairs.map fun pair => .set pair.1 pair.2) key name value) :
    IsLast pairs key (name, value) := by
  obtain ⟨earlier, later, split, same, silent⟩ := set
  obtain ⟨front, back, rfl, -, behind⟩ := List.map_eq_append_iff.1 split
  obtain ⟨⟨given, content⟩, rest, rfl, here, rfl⟩ := List.map_eq_cons_iff.1 behind
  cases here
  exact ⟨front, rest, rfl, same, fun other member equal =>
    (silent _ (List.mem_map_of_mem member)).1 equal⟩

theorem standFor_ofPairs (pairs : List (String × String)) :
    StandFor pairs (Headers.ofPairs pairs).entries where
  inOrder := keys_ofPairs pairs
  last := by
    intro header member
    rw [ofPairs_eq_after] at member
    obtain ⟨name, value, set, same⟩ := ((holds_after _).mem_iff header).1 member
    subst same
    exact ⟨name, rfl, isLast_of_lastSet set⟩

/-! ### The default content type -/

/-- Headers have a content type exactly if one of the names is that, in whatever case. -/
theorem contains_ofPairs (pairs : List (String × String)) (name : String) :
    (Headers.ofPairs pairs).contains name = true ↔
      ∃ pair ∈ pairs, lowered pair.1 = lowered name := by
  have key : lowered name ∈ (Headers.ofPairs pairs).keys ↔
      lowered name ∈ pairs.map fun pair => lowered pair.1 := by
    rw [keys_ofPairs, List.mem_eraseDups]
  rw [Headers.keys, List.mem_map, List.mem_map] at key
  rw [← key, Headers.contains, List.any_eq_true]
  simp only [answersTo_iff]

theorem entries_set_of_not_contains {headers : Headers} {name : String}
    (absent : ¬ headers.contains name = true) (value : String) :
    (headers.set name value).entries = headers.entries ++ [⟨titleCase name, value⟩] := by
  refine entries_set_of_not_mem_keys value fun there => absent ?_
  obtain ⟨header, member, same⟩ := List.mem_map.1 there
  exact List.any_eq_true.2 ⟨header, member, (answersTo_iff header name).2 same⟩

/-- The header that is put behind those of the lines, if there is a body without a content type. -/
def addedHeaders (pairs : List (String × String)) (body : Body) : List Header :=
  if body ≠ .none ∧ ∀ pair ∈ pairs, lowered pair.1 ≠ "content-type" then
    [⟨"Content-Type", "application/x-www-form-urlencoded"⟩]
  else []

theorem entries_requestOf (command : Command) :
    (requestOf command).headers.entries =
      (headersOf command).entries ++
        addedHeaders ((headerLines command).filterMap headerOfLine) (requestOf command).body := by
  have named : lowered "Content-Type" = "content-type" := by decide +kernel
  have known : (headersOf command).contains "Content-Type" = true ↔
      ∃ pair ∈ (headerLines command).filterMap headerOfLine, lowered pair.1 = "content-type" := by
    rw [← named]
    exact contains_ofPairs _ _
  have sends : (requestOf command).body ≠ .none ↔ sendsBody command = true := by
    rw [ne_eq, body_requestOf_eq_none_iff, Bool.not_eq_false]
  rw [headers_requestOf, addedHeaders]
  by_cases sent : sendsBody command = true
  · by_cases given : (headersOf command).contains "Content-Type" = true
    · rw [withContentType, if_neg (by simp [given]), if_neg, List.append_nil]
      rintro ⟨-, absent⟩
      obtain ⟨pair, member, same⟩ := known.1 given
      exact absent pair member same
    · rw [withContentType, if_pos (by simp [sent, given]), if_pos]
      · exact entries_set_of_not_contains given defaultContentType
      · exact ⟨sends.2 sent, fun pair member same => given (known.2 ⟨pair, member, same⟩)⟩
  · rw [Bool.eq_false_iff.2 sent, withContentType_false, if_neg fun added => sent (sends.1 added.1),
      List.append_nil]

/-! ### The case of names -/

/-- The lines differ at most in the case of ASCII letters in front of their first colon. -/
def Recased (line other : String) : Prop :=
  line = other ∨ ∃ name given value : List Char, ':' ∉ name ∧
    name.map Char.toLower = given.map Char.toLower ∧
    line.toList = name ++ ':' :: value ∧ other.toList = given ++ ':' :: value

/-- Two commands differ at most in the case of ASCII letters in the names of their header lines. -/
structure RecasesNames (first second : Command) : Prop where
  words : first.positionals = second.positionals
  flags : ∀ name, name ≠ "H" → name ≠ "header" → first.flags.get? name = second.flags.get? name
  short : List.Forall₂ Recased (first.values "H") (second.values "H")
  long : List.Forall₂ Recased (first.values "header") (second.values "header")

/-- Two names and values are set to the same effect. -/
def SameSetting (first second : String × String) : Prop :=
  lowered first.1 = lowered second.1 ∧ first.2 = second.2

theorem isBlank_toLower (character : Char) : isBlank character.toLower = isBlank character := by
  refine forall_of_ascii ?_ (fun character large => ?_) character
  · decide +kernel
  · rw [toLower_of_large large]

theorem colon_mem_of_map_toLower {name given : List Char}
    (same : name.map Char.toLower = given.map Char.toLower) (member : ':' ∈ given) :
    ':' ∈ name := by
  have lowered : ':' ∈ name.map Char.toLower := same ▸ List.mem_map_of_mem member
  obtain ⟨character, within, colon⟩ := List.mem_map.1 lowered
  by_cases word : isNameCharacter character = true
  · rw [← (toUpper_toLower character).2.1, colon] at word
    cases word
  · rwa [← colon, (toUpper_toLower character).2.2 (Bool.eq_false_iff.2 word)]

theorem map_toLower_trimBoth (name : List Char) :
    (trimBoth name).map Char.toLower = trimBoth (name.map Char.toLower) := by
  have blank : isBlank ∘ Char.toLower = isBlank := funext isBlank_toLower
  simp only [trimBoth, trimStart, trimEnd, List.dropWhile_map, blank, ← List.map_reverse]

/-- A line in another case says nothing either, or it sets the same name to the same value. -/
theorem headerOfLine_of_recased {line other : String} (recased : Recased line other) :
    (headerOfLine line = none ∧ headerOfLine other = none) ∨
      ∃ first second, headerOfLine line = some first ∧ headerOfLine other = some second ∧
        SameSetting first second := by
  rcases recased with rfl | ⟨name, given, value, first, same, whole, wholeOther⟩
  · cases read : headerOfLine line with
    | none => exact Or.inl ⟨rfl, rfl⟩
    | some pair => exact Or.inr ⟨pair, pair, rfl, rfl, rfl, rfl⟩
  · have firstOther : ':' ∉ given := fun member => first (colon_mem_of_map_toLower same member)
    refine Or.inr ⟨_, _, headerOfLine_of_colon whole first,
      headerOfLine_of_colon wholeOther firstOther, ?_, rfl⟩
    simp only [lowered, String.toList_ofList, map_toLower_trimBoth, same]

theorem sameSetting_filterMap {lines others : List String}
    (recased : List.Forall₂ Recased lines others) :
    List.Forall₂ SameSetting (lines.filterMap headerOfLine) (others.filterMap headerOfLine) := by
  induction recased with
  | nil => exact .nil
  | cons line _ inductionHypothesis =>
    rcases headerOfLine_of_recased line with
      ⟨absent, absentOther⟩ | ⟨first, second, read, readOther, same⟩
    · rw [List.filterMap_cons_none absent, List.filterMap_cons_none absentOther]
      exact inductionHypothesis
    · rw [List.filterMap_cons_some read, List.filterMap_cons_some readOther]
      exact .cons same inductionHypothesis

/-- What setting a name does depends on the letters of the name alone. -/
theorem set_of_lowered_eq {first second : String} (same : lowered first = lowered second)
    (headers : Headers) (value : String) : headers.set first value = headers.set second value := by
  obtain ⟨entries⟩ := headers
  refine congrArg Headers.mk ?_
  show Headers.setIn first value entries = Headers.setIn second value entries
  induction entries with
  | nil => rw [Headers.setIn, Headers.setIn, titleCase_eq_of_lowered_eq same]
  | cons header rest inductionHypothesis =>
    rw [Headers.setIn, Headers.setIn, titleCase_eq_of_lowered_eq same, inductionHypothesis,
      Header.answersTo, Header.answersTo, same]

theorem ofPairs_congr {pairs others : List (String × String)}
    (same : List.Forall₂ SameSetting pairs others) :
    Headers.ofPairs pairs = Headers.ofPairs others := by
  unfold Headers.ofPairs
  generalize ({} : Headers) = headers
  induction same generalizing headers with
  | nil => rfl
  | cons pair _ inductionHypothesis =>
    rw [List.foldl_cons, List.foldl_cons, set_of_lowered_eq pair.1, pair.2]
    exact inductionHypothesis _

/-- A command whose header names are written in another case describes the same request. -/
theorem RecasesNames.extract_eq {first second : Command} (recases : RecasesNames first second) :
    extract first = extract second := by
  have apart : ∀ name ∈ besideHeaders, name ≠ "H" ∧ name ≠ "header" := by
    decide
  have beside : SameBesideHeaders first second := fun name shapes =>
    recases.flags name (apart name shapes).1 (apart name shapes).2
  have headers : headersOf first = headersOf second :=
    ofPairs_congr (sameSetting_filterMap (List.rel_append recases.short recases.long))
  exact beside.extract_eq (congrArg (List.take 2) recases.words) headers

/-! ### The headers of a request -/

/-- The headers of a request stand for the header lines of its command: one for each name, with the
last value, in the order of first appearance, and perhaps the default content type behind them. The
case of the names makes no difference. -/
theorem headers_of_extract {command : Command} {request : Request}
    (extracted : extract command = .ok request) :
    (∃ pairs own, List.Forall₂ ReadsAs
        ((headerLines command).filter fun line => ':' ∈ line.toList) pairs ∧
      StandFor pairs own ∧
      request.headers.entries = own ++ addedHeaders pairs request.body) ∧
    ∀ other, RecasesNames command other → extract other = .ok request := by
  obtain rfl := eq_requestOf_of_extract extracted
  refine ⟨⟨_, _, readsAs_filterMap _, standFor_ofPairs _, entries_requestOf command⟩, ?_⟩
  intro other recases
  rw [← recases.extract_eq, extracted]

/-- Four lines for two names, one of them with a blank behind its name and one with a second colon,
a line without a colon, and text to send without a content type; and the same in another case. -/
theorem headers_of_extract_repeated :
    let command : Command := {
      positionals := ["curl", "http://localhost"]
      flags := ⟨[("header", .values ["accept:\tb", "x-id: 2:3"]), ("d", .values ["a"]),
        ("H", .values ["X-ID : 1", "nothing", "Accept: a"])]⟩ }
    let other : Command := {
      positionals := ["curl", "http://localhost"]
      flags := ⟨[("header", .values ["ACCEPT:\tb", "X-id: 2:3"]), ("d", .values ["a"]),
        ("H", .values ["x-id : 1", "nothing", "Accept: a"])]⟩ }
    let request : Request := {
      url := "http://localhost"
      method := "POST"
      headers := ⟨[⟨"X-Id", "2:3"⟩, ⟨"Accept", "b"⟩,
        ⟨"Content-Type", "application/x-www-form-urlencoded"⟩]⟩
      body := .payload (.text "a") }
    extract command = .ok request ∧ extract other = .ok request ∧ ∃ pairs own,
      List.Forall₂ ReadsAs ((headerLines command).filter fun line => ':' ∈ line.toList) pairs ∧
      StandFor pairs own ∧ request.headers.entries = own ++ addedHeaders pairs request.body := by
  intro command other request
  have described : requestOf command = request := by
    decide +kernel
  have extracted : extract command = .ok request := congrArg Except.ok described
  have recases : RecasesNames command other := {
    words := rfl
    flags := fun name short long => by
      simp [command, other, Flags.get?, Flags.lookIn, Ne.symm short, Ne.symm long]
    short := .cons (Or.inr ⟨"X-ID ".toList, "x-id ".toList, " 1".toList, by decide +kernel⟩)
      (.cons (Or.inl rfl) (.cons (Or.inl rfl) .nil))
    long := .cons (Or.inr ⟨"accept".toList, "ACCEPT".toList, "\tb".toList, by decide +kernel⟩)
      (.cons (Or.inr ⟨"x-id".toList, "X-id".toList, " 2:3".toList, by decide +kernel⟩) .nil) }
  obtain ⟨stands, recased⟩ := headers_of_extract extracted
  exact ⟨extracted, recased other recases, stands⟩

end CurlScribe
