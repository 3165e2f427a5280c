/-
This file proves that every request that a command describes is consistent. Method, headers,
body and encoding are settled one after another, and the later steps look at what the earlier
ones found: the content type is added before the text is sorted by it, and a method that
nothing names falls back on the data. Whatever the options of the command, read from a line or
put together by hand, the parts of the request fit together in the end.
-/

import CurlScribe.Proofs.HeaderNames
import CurlScribe.Request.Extraction
import Mathlib.Logic.Basic

namespace CurlScribe

open Text

/-! ### Bodies from their parts -/

theorem Body.ofParts_eq_none_iff {inline : Option Payload} {paths : List String} :
    Body.ofParts inline paths = .none ↔ inline = Option.none ∧ paths = [] := by
  cases inline <;> cases paths <;> simp [Body.ofParts]

theorem Body.payload?_ofParts (inline : Option Payload) (paths : List String) :
    (Body.ofParts inline paths).payload? = inline := by
  cases inline <;> cases paths <;> rfl

/-- A body holds a list of files only if there are files. -/
theorem Body.paths_ne_nil_of_ofParts {inline : Option Payload} {given paths : List String}
    (holds : Body.ofParts inline given = .files paths ∨
      ∃ text, Body.ofParts inline given = .mixed text paths) : paths ≠ [] := by
  rcases holds with equal | ⟨text, equal⟩ <;> cases inline <;> cases given <;>
    cases equal <;> exact List.cons_ne_nil _ _

/-! ### Sorting text -/

theorem mentions_iff (needle text : List Char) :
    mentions needle text = true ↔ needle <:+: text := by
  induction text with
  | nil => simp [mentions]
  | cons character rest inductionHypothesis =>
    rw [mentions, Bool.or_eq_true, inductionHypothesis, List.isPrefixOf_iff_prefix,
      List.infix_cons_iff]

theorem looksLikeForm_iff (content : String) :
    looksLikeForm content = true ↔
      ∀ segment ∈ segments '&' content.toList, segment ≠ [] → '=' ∈ segment := by
  simp [looksLikeForm, List.all_eq_true, or_iff_not_imp_left]

theorem content_classify (content contentType : String) :
    (classify content contentType).content = content := by
  unfold classify
  split_ifs <;> rfl

/-- Text is sorted as JSON if and only if its content type mentions it. -/
theorem classify_eq_json_iff (content contentType : String) :
    (∃ text, classify content contentType = .json text) ↔
      "json".toList <:+: contentType.toList := by
  rw [← mentions_iff]
  unfold classify
  split_ifs with json form
  · exact iff_of_true ⟨content, rfl⟩ json
  · exact iff_of_false (by simp) json
  · exact iff_of_false (by simp) json

/-- Text is sorted as a form if and only if it has the content type of forms and looks like one:
the content type of forms does not mention JSON. -/
theorem classify_eq_form_iff (content contentType : String) :
    (∃ text, classify content contentType = .form text) ↔
      contentType = defaultContentType ∧
        ∀ segment ∈ segments '&' content.toList, segment ≠ [] → '=' ∈ segment := by
  have notJson : ¬ mentions "json".toList defaultContentType.toList = true := by
    decide +kernel
  rw [← looksLikeForm_iff]
  unfold classify
  split_ifs with json form
  · exact iff_of_false (by simp) fun ⟨isDefault, _⟩ => notJson (isDefault ▸ json)
  · exact iff_of_true ⟨content, rfl⟩ form
  · exact iff_of_false (by simp) form

/-! ### Headers -/

theorem isSome_get?_withContentType (headers : Headers) :
    ((withContentType headers true).get? "Content-Type").isSome = true := by
  unfold withContentType
  split_ifs with absent
  · rw [Headers.get?_set_self]
    rfl
  · rw [← Headers.contains_eq_isSome]
    simpa using absent

theorem withContentType_false (headers : Headers) : withContentType headers false = headers := rfl

/-! ### Method and encoding -/

theorem namedMethod_eq_none_iff (command : Command) :
    namedMethod command = none ↔ command.values "request" = [] ∧ command.values "X" = [] := by
  simp [namedMethod, Command.last?, Option.or_eq_none_iff]

theorem methodOf_ne_empty (command : Command) : methodOf command ≠ "" := by
  unfold methodOf
  dsimp only
  split_ifs with chosen
  · intro empty
    rw [empty] at chosen
    cases chosen
  · decide
  · decide

/-- Raw data decides the method as well as the encoding. -/
theorem methodOf_of_raw {command : Command} (unnamed : namedMethod command = none)
    (raw : sendsRawData command = true) : methodOf command = "POST" := by
  have chosen : chosenMethod command = "POST" := by
    rw [chosenMethod, unnamed]
    exact if_pos raw
  simp only [methodOf, chosen]
  rfl

theorem encodingOf_eq_raw_iff (command : Command) :
    encodingOf command = .raw ↔ namedMethod command = none ∧ sendsRawData command = true := by
  unfold encodingOf
  split_ifs with raw
  · simpa using raw
  · simpa using raw

/-! ### What is sent -/

/-- Whether the command has text or a file to send. -/
def sendsBody (command : Command) : Bool :=
  !(inlineText (dataOf command)).isEmpty || !((dataOf command).filterMap Datum.path?).isEmpty

theorem headers_requestOf (command : Command) :
    (requestOf command).headers = withContentType (headersOf command) (sendsBody command) := rfl

theorem payload?_requestOf (command : Command) :
    (requestOf command).body.payload? =
      if (inlineText (dataOf command)).isEmpty then none
      else some (classify (inlineText (dataOf command))
        (((requestOf command).headers.get? "Content-Type").getD "")) :=
  Body.payload?_ofParts _ _

theorem body_requestOf_eq_none_iff (command : Command) :
    (requestOf command).body = .none ↔ sendsBody command = false := by
  simp only [requestOf, Body.ofParts_eq_none_iff, sendsBody]
  split_ifs with empty <;> simp [empty]

theorem isSome_contentType_requestOf {command : Command}
    (sent : (requestOf command).body ≠ .none) :
    ((requestOf command).headers.get? "Content-Type").isSome = true := by
  rw [Ne, body_requestOf_eq_none_iff, Bool.not_eq_false] at sent
  rw [headers_requestOf, sent]
  exact isSome_get?_withContentType _

/-- Inline text is not empty, and it is sorted by the content type it is sent with. -/
theorem exists_contentType_of_payload {command : Command} {inline : Payload}
    (holds : (requestOf command).body.payload? = some inline) :
    ∃ content contentType, content ≠ "" ∧ inline = classify content contentType ∧
      (requestOf command).headers.get? "Content-Type" = some contentType := by
  have sent : (requestOf command).body ≠ .none := fun empty => by
    rw [empty] at holds
    cases holds
  obtain ⟨contentType, given⟩ := Option.isSome_iff_exists.1 (isSome_contentType_requestOf sent)
  rw [payload?_requestOf, given, Option.getD_some] at holds
  split_ifs at holds with empty
  exact ⟨_, contentType, fun equal => empty (String.isEmpty_iff.2 equal),
    (Option.some.inj holds).symm, given⟩

/-! ### The request -/

/-- The parts of a request fit together, and fit the command that it is for. The content type
of the clauses on JSON and forms is the one that the request is sent with, given or not. -/
structure Consistent (command : Command) (request : Request) : Prop where
  method_ne_empty : request.method ≠ ""
  of_raw : request.encoding = .raw →
    request.method = "POST" ∧ command.values "request" = [] ∧ command.values "X" = [] ∧
      (command.isSet "data-binary" = true ∨ command.isSet "data-raw" = true)
  contentType_of_body : request.body ≠ .none →
    (request.headers.get? "Content-Type").isSome = true
  headers_of_no_body : request.body = .none → request.headers = headersOf command
  content_ne_empty : ∀ inline, request.body.payload? = some inline → inline.content ≠ ""
  paths_ne_nil : ∀ paths,
    (request.body = .files paths ∨ ∃ inline, request.body = .mixed inline paths) → paths ≠ []
  json_iff : ∀ inline, request.body.payload? = some inline →
    ((∃ content, inline = .json content) ↔
      ∃ contentType, request.headers.get? "Content-Type" = some contentType ∧
        "json".toList <:+: contentType.toList)
  form_iff : ∀ inline, request.body.payload? = some inline →
    ((∃ content, inline = .form content) ↔
      request.headers.get? "Content-Type" = some "application/x-www-form-urlencoded" ∧
        ∀ segment ∈ segments '&' inline.content.toList, segment ≠ [] → '=' ∈ segment)

theorem eq_requestOf_of_extract {command : Command} {request : Request}
    (extracted : extract command = .ok request) : request = requestOf command := by
  unfold extract at extracted
  dsimp only at extracted
  split_ifs at extracted with curl
  exact (Except.ok.inj extracted).symm

/-- Whatever options a command holds, a request that is extracted from it is consistent. -/
theorem consistent_of_extract {command : Command} {request : Request}
    (extracted : extract command = .ok request) : Consistent command request := by
  obtain rfl := eq_requestOf_of_extract extracted
  refine {
    method_ne_empty := methodOf_ne_empty command
    of_raw := fun raw => ?_
    contentType_of_body := isSome_contentType_requestOf
    headers_of_no_body := fun empty => ?_
    content_ne_empty := fun inline holds => ?_
    paths_ne_nil := fun paths holds => Body.paths_ne_nil_of_ofParts holds
    json_iff := fun inline holds => ?_
    form_iff := fun inline holds => ?_ }
  · obtain ⟨unnamed, sendsRaw⟩ := (encodingOf_eq_raw_iff command).1 raw
    obtain ⟨noRequest, noX⟩ := (namedMethod_eq_none_iff command).1 unnamed
    exact ⟨methodOf_of_raw unnamed sendsRaw, noRequest, noX, by
      simpa [sendsRawData] using sendsRaw⟩
  · rw [headers_requestOf, (body_requestOf_eq_none_iff command).1 empty, withContentType_false]
  · obtain ⟨content, contentType, nonempty, rfl, -⟩ := exists_contentType_of_payload holds
    rwa [content_classify]
  · obtain ⟨content, contentType, -, rfl, given⟩ := exists_contentType_of_payload holds
    simp [classify_eq_json_iff, given]
  · obtain ⟨content, contentType, -, rfl, given⟩ := exists_contentType_of_payload holds
    simp [classify_eq_form_iff, content_classify, given, defaultContentType]

/-- A command that was put together by hand, with a switch where a reader would give values, a
name without values, and data that is sorted as a form under the default content type. -/
theorem consistent_of_extract_form :
    let command : Command := {
      positionals := ["curl", "http://localhost"]
      flags := ⟨[("data-raw", .switch), ("X", .values []), ("d", .values ["a=b", "c=d"])]⟩ }
    let request : Request := {
      url := "http://localhost"
      method := "POST"
      headers := ⟨[⟨"Content-Type", "application/x-www-form-urlencoded"⟩]⟩
      body := .payload (.form "a=b&c=d")
      encoding := .raw }
    extract command = .ok request ∧ Consistent command request := by
  intro command request
  have described : requestOf command = request := by
    decide +kernel
  have extracted : extract command = .ok request := congrArg Except.ok described
  exact ⟨extracted, consistent_of_extract extracted⟩

end CurlScribe
