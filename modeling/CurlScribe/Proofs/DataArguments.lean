/-
This file proves that no data argument of a command is lost, sent twice or moved. The values of
the four data options stand in a fixed order; those that name a file become the files of the
body and the others become its text, both in that order. A body is missing only where there is
nothing to send: no file, and no text but at most one empty value, since any second value brings
an ampersand with it.
-/

import CurlScribe.Proofs.ConsistentRequests

namespace CurlScribe

/-! ### Arguments -/

/-- A value that is given for a data option. -/
structure DataArgument where
  option : String
  value : String
  deriving DecidableEq, Repr

namespace DataArgument

/-- The value starts with an at sign, and its option is not the one that takes values as they
are. -/
def NamesFile (argument : DataArgument) : Prop :=
  argument.option ≠ "data-raw" ∧ argument.value.toList.head? = some '@'

instance (argument : DataArgument) : Decidable argument.NamesFile :=
  inferInstanceAs (Decidable (_ ∧ _))

/-- What the argument gives to the body. -/
def datum (argument : DataArgument) : Datum :=
  .ofValue (argument.option != "data-raw") argument.value

/-- A file of the body has its at sign removed, and text is sent as it was given. -/
theorem datum_cases (argument : DataArgument) :
    (argument.NamesFile ∧ ∃ path, argument.datum = .file path ∧ argument.value = "@" ++ path) ∨
      (¬ argument.NamesFile ∧ argument.datum = .text argument.value) := by
  obtain ⟨option, value⟩ := argument
  unfold datum Datum.ofValue NamesFile
  dsimp only
  split
  · rename_i path reads characters
    refine Or.inl ⟨⟨bne_iff_ne.1 reads, by rw [characters]; rfl⟩, String.ofList path, rfl, ?_⟩
    rw [← String.toList_inj, characters]
    simp
  · rename_i other
    refine Or.inr ⟨fun ⟨reads, begins⟩ => ?_, rfl⟩
    obtain ⟨path, characters⟩ := List.head?_eq_some_iff.1 begins
    exact other path (bne_iff_ne.2 reads) characters

theorem path?_datum (argument : DataArgument) :
    argument.datum.path?.map ("@" ++ ·) =
      if argument.NamesFile then some argument.value else none := by
  rcases argument.datum_cases with ⟨names, path, datum, value⟩ | ⟨sent, datum⟩
  · rw [datum, if_pos names, value]
    rfl
  · rw [datum, if_neg sent]
    rfl

theorem content?_datum (argument : DataArgument) :
    argument.datum.content? = if argument.NamesFile then none else some argument.value := by
  rcases argument.datum_cases with ⟨names, path, datum, -⟩ | ⟨sent, datum⟩
  · rw [datum, if_pos names]
    rfl
  · rw [datum, if_neg sent]
    rfl

end DataArgument

/-- The values of the data options, each with its option. -/
def dataArguments (command : Command) : List DataArgument :=
  ["d", "data", "data-binary", "data-raw"].flatMap fun option =>
    (command.values option).map (DataArgument.mk option)

/-- The arguments whose values name files. -/
def fileArguments (arguments : List DataArgument) : List DataArgument :=
  arguments.filter fun argument => argument.NamesFile

/-- The arguments whose values are sent themselves. -/
def textArguments (arguments : List DataArgument) : List DataArgument :=
  arguments.filter fun argument => ¬ argument.NamesFile

theorem dataOf_eq_map (command : Command) :
    dataOf command = (dataArguments command).map DataArgument.datum := by
  simp only [dataOf, dataFlags, dataArguments, List.flatMap_cons, List.flatMap_nil,
    List.append_nil, List.map_append, List.map_map]
  rfl

/-! ### Files and text -/

theorem paths_of_arguments (arguments : List DataArgument) :
    ((arguments.map DataArgument.datum).filterMap Datum.path?).map ("@" ++ ·) =
      (fileArguments arguments).map DataArgument.value := by
  rw [List.map_filterMap, List.filterMap_map, fileArguments, ← List.filterMap_eq_map,
    List.filterMap_filter]
  refine congrArg (List.filterMap · arguments) (funext fun argument => ?_)
  simp [DataArgument.path?_datum]

theorem contents_of_arguments (arguments : List DataArgument) :
    (arguments.map DataArgument.datum).filterMap Datum.content? =
      (textArguments arguments).map DataArgument.value := by
  rw [List.filterMap_map, textArguments, ← List.filterMap_eq_map, List.filterMap_filter]
  refine congrArg (List.filterMap · arguments) (funext fun argument => ?_)
  simp [DataArgument.content?_datum]

/-- Joined texts are empty only if nothing was joined: a separator stands between any two. -/
theorem intercalate_eq_empty_iff {separator : String} (visible : separator ≠ "")
    (texts : List String) :
    separator.intercalate texts = "" ↔ texts = [] ∨ texts = [""] := by
  rcases texts with - | ⟨first, - | ⟨second, later⟩⟩
  · simp
  · simp
  · rw [String.intercalate_cons_cons]
    simp [visible]

/-! ### Bodies -/

/-- The text that arguments are sent as. -/
def joinedText (arguments : List DataArgument) : String :=
  "&".intercalate ((textArguments arguments).map DataArgument.value)

/-- A body carries data arguments: the files that they name, without the at sign, and the other
values as text. -/
structure Carries (arguments : List DataArgument) (body : Body) : Prop where
  files : body.paths.map ("@" ++ ·) = (fileArguments arguments).map DataArgument.value
  text : body.payload?.map Payload.content =
    if joinedText arguments = "" then none else some (joinedText arguments)
  none_iff : body = .none ↔ fileArguments arguments = [] ∧
    ((textArguments arguments).map DataArgument.value = [] ∨
      (textArguments arguments).map DataArgument.value = [""])

theorem paths_ofParts (inline : Option Payload) (paths : List String) :
    (Body.ofParts inline paths).paths = paths := by
  cases inline <;> cases paths <;> rfl

theorem inlineText_dataOf (command : Command) :
    inlineText (dataOf command) = joinedText (dataArguments command) := by
  rw [inlineText, dataOf_eq_map, contents_of_arguments, joinedText]

theorem content_requestOf (command : Command) :
    (requestOf command).body.payload?.map Payload.content =
      if joinedText (dataArguments command) = "" then none
      else some (joinedText (dataArguments command)) := by
  rw [payload?_requestOf, inlineText_dataOf]
  simp only [String.isEmpty_iff]
  split_ifs
  · rfl
  · rw [Option.map_some, content_classify]

theorem fileArguments_eq_nil_iff (command : Command) :
    fileArguments (dataArguments command) = [] ↔
      (dataOf command).filterMap Datum.path? = [] := by
  rw [← List.map_eq_nil_iff (f := DataArgument.value), ← paths_of_arguments, ← dataOf_eq_map,
    List.map_eq_nil_iff]

/-- The body of a request carries all data of its command, in the order of the options. -/
theorem carries_of_extract {command : Command} {request : Request}
    (extracted : extract command = .ok request) :
    Carries (dataArguments command) request.body := by
  obtain rfl := eq_requestOf_of_extract extracted
  refine { files := ?_, text := content_requestOf command, none_iff := ?_ }
  · have paths : (requestOf command).body.paths = (dataOf command).filterMap Datum.path? :=
      paths_ofParts _ _
    rw [paths, dataOf_eq_map, paths_of_arguments]
  · have visible : "&" ≠ "" := by decide
    rw [body_requestOf_eq_none_iff, sendsBody, inlineText_dataOf, fileArguments_eq_nil_iff,
      ← intercalate_eq_empty_iff visible, ← joinedText]
    simp [and_comm]

/-- A file name that starts with an at sign, a bare at sign, an at sign that is text, and two empty
values. -/
theorem carries_of_extract_mixed :
    let command : Command := {
      positionals := ["curl", "http://localhost"]
      flags := ⟨[("data-raw", .values ["@handle", ""]), ("data", .values ["@@a"]),
        ("d", .values ["", "@"])]⟩ }
    let request : Request := {
      url := "http://localhost"
      method := "POST"
      headers := ⟨[⟨"Content-Type", "application/x-www-form-urlencoded"⟩]⟩
      body := .mixed (.text "&@handle&") ["", "@a"]
      encoding := .raw }
    extract command = .ok request ∧ Carries (dataArguments command) request.body := by
  intro command request
  have described : requestOf command = request := by
    decide +kernel
  have extracted : extract command = .ok request := congrArg Except.ok described
  exact ⟨extracted, carries_of_extract extracted⟩

end CurlScribe
