/-
This file lists the string literals in generated code. The code for a request writes the
strings of the request as quoted literals: its method and address, its credentials, its host
and headers, the paths of its files, and the names and values of its form fields. Each of
them is written once. The only other literals are the empty content type of a plain POST and
the text of a body that is neither a form nor a document.

A quoted literal is one that Go accepts exactly if its string holds no line feed, so this is
what decides whether the code for a command is well formed.
-/

import CurlScribe.Conversion
import CurlScribe.Proofs.CodeLiterals
import CurlScribe.Proofs.InterpretedStrings

namespace CurlScribe.Go

open Text

/-! ### Quoted strings -/

/-- The literal for a string that may refer to environment variables. -/
def stringToken (value : String) : String :=
  quote (withoutEscape value)

theorem withoutEscape_of_absent {text : String} (absent : envReference text = .absent) :
    withoutEscape text = text := by
  unfold envReference at absent
  unfold withoutEscape
  split at absent
  · rfl
  · split_ifs at absent

theorem withoutEscape_of_live {text : String} (live : envReference text = .live) :
    withoutEscape text = text := by
  unfold envReference at live
  unfold withoutEscape
  split at live
  · cases live
  · split_ifs at live with escaped
    exact if_neg escaped

/-- The expression for a string holds one literal, whatever the string refers to. -/
@[simp] theorem literals_ofString (value : String) :
    (Expression.ofString value).literals = [stringToken value] := by
  unfold Expression.ofString stringToken
  split
  · rename_i absent
    rw [withoutEscape_of_absent absent]
    rfl
  · rfl
  · rename_i live
    rw [withoutEscape_of_live live]
    rfl

/-! ### Strings of a request -/

/-- The strings of inline text that are written quoted: the names and values of form fields. -/
def payloadStrings : Payload → List String
  | .form content => (formFields content).flatMap fun field => [field.1, field.2]
  | .json _ | .text _ => []

/-- The strings of a request that are written quoted, in the order of the code. -/
def quotedStrings (request : Request) : List String :=
  if request.isSimple then
    if request.method ∈ ["GET", "POST", "HEAD"] then [request.url]
    else [request.method, request.url]
  else
    request.body.payload?.toList.flatMap payloadStrings ++
    request.body.paths ++
    [request.method, request.url] ++
    request.basicAuth.toList.flatMap (fun auth => [auth.user, auth.password]) ++
    (request.headers.find? "Host").toList.map (fun host => host.value) ++
    (request.headers.erase "Host").entries.flatMap (fun header => [header.name, header.value])

/-- The literals of inline text that is no form: text, and documents that have no type. -/
def verbatimLiterals (style : BodyStyle) : Payload → List String
  | .json content =>
    if (style.typeWriter content style.typeName).isSome then []
    else [bodyLiteral style.encoding content]
  | .form _ => []
  | .text content => [bodyLiteral style.encoding content]

/-- The literals in the code for a request that stand for none of its quoted strings. -/
def otherLiterals (style : BodyStyle) (request : Request) : List String :=
  if request.isSimple then if request.method = "POST" then ["\x22\x22"] else []
  else request.body.payload?.toList.flatMap (verbatimLiterals style)

/-! ### Bodies -/

theorem literals_writePayload (style : BodyStyle) (payload : Payload) :
    (writePayload style payload).literals =
      verbatimLiterals style payload ++ (payloadStrings payload).map stringToken := by
  cases payload with
  | json content =>
    rw [writePayload, verbatimLiterals]
    cases style.typeWriter content style.typeName with
    | none => rfl
    | some definition => rfl
  | form content =>
    have field : ∀ field, (writeField field).literals = [field.1, field.2].map stringToken := by
      intro field
      simp [writeField]
    unfold writePayload writeForm
    simp [verbatimLiterals, payloadStrings, field, List.flatMap_map, List.map_flatMap]
  | text content => rfl

theorem literals_writeFile (file path : String) :
    (writeFile file path).literals = [stringToken path] := by
  simp [writeFile]

theorem length_fileNames (count : Nat) : (fileNames count).length = count := by
  unfold fileNames
  split_ifs with single
  · exact single.symm
  · rw [List.length_map, List.length_range]

/-- Each file of a body is opened once. -/
theorem literals_writeFiles (paths : List String) :
    ((fileNames paths.length).zip paths).flatMap
        (fun file => (writeFile file.1 file.2).literals) = paths.map stringToken := by
  have file : (fun file : String × String => (writeFile file.1 file.2).literals) =
      fun file => [stringToken file.2] :=
    funext fun file => literals_writeFile file.1 file.2
  have second := List.map_snd_zip (Nat.le_of_eq (length_fileNames paths.length).symm)
  have tokens := congrArg (List.map stringToken) second
  rw [List.map_map] at tokens
  rw [file, ← List.map_eq_flatMap]
  exact tokens

theorem literalsOf_names (names : List String) :
    Expression.literalsOf (names.map .name) = [] := by
  induction names with
  | nil => rfl
  | cons name later inductionHypothesis => exact inductionHypothesis

/-- Readers are joined without a literal. -/
theorem literals_joinReaders (readers : List String) :
    (joinReaders readers).1.literals = [] ∧ (joinReaders readers).2.literals = [] := by
  unfold joinReaders
  split
  · exact ⟨rfl, rfl⟩
  · exact ⟨rfl, rfl⟩
  · refine ⟨?_, rfl⟩
    simp [literalsOf_names]

theorem literals_writeBody (style : BodyStyle) (body : Body) :
    (writeBody style body).1.literals =
        body.payload?.toList.flatMap (verbatimLiterals style) ++
          (body.payload?.toList.flatMap payloadStrings ++ body.paths).map stringToken ∧
      (writeBody style body).2.literals = [] := by
  unfold writeBody
  dsimp only
  refine ⟨?_, (literals_joinReaders _).2⟩
  rw [Draft.literals_append, Draft.literals_append, (literals_joinReaders _).1, List.append_nil,
    Draft.literals_concat, Draft.literals_concat, List.flatMap_map, List.flatMap_map,
    literals_writeFiles, List.map_append, ← List.append_assoc]
  cases body.payload? with
  | none => rfl
  | some payload =>
    simp only [Option.toList_some, List.flatMap_singleton, literals_writePayload]

/-! ### Requests -/

theorem literals_build (method url : String) (reader : Expression) :
    (build method url reader).literals =
      [stringToken method, stringToken url] ++ reader.literals := by
  simp [build]

theorem literals_writeHeaders (headers : Headers) :
    (writeHeaders headers).literals =
      ((headers.find? "Host").toList.map (fun host => host.value) ++
        (headers.erase "Host").entries.flatMap
          (fun header => [header.name, header.value])).map stringToken := by
  have host : ∀ host, (writeHost host).literals = [stringToken host.value] := by
    intro host
    simp [writeHost]
  have header : ∀ header, (writeHeader header).literals =
      [header.name, header.value].map stringToken := by
    intro header
    simp [writeHeader]
  unfold writeHeaders
  simp only [Draft.literals_append, Draft.literals_concat, List.flatMap_map, host, header,
    List.map_append, List.map_map, List.map_flatMap]
  rw [← List.map_eq_flatMap]
  rfl

theorem literals_draftSimple (method url : String) :
    (draftSimple method url).literals.Perm
      ((if method = "POST" then ["\x22\x22"] else []) ++
        (if method ∈ ["GET", "POST", "HEAD"] then [url] else [method, url]).map stringToken) := by
  have closed : closing.flatMap Statement.literals = [] := rfl
  have received : ∀ function arguments,
      (receive (.callOf .http function arguments)).literals = Expression.literalsOf arguments :=
    fun function arguments => List.nil_append _
  by_cases get : method = "GET"
  · subst get
    simp [draftSimple, closed, received]
  by_cases post : method = "POST"
  · subst post
    have written : (draftSimple "POST" url).literals = [stringToken url, "\x22\x22"] := by
      simp [draftSimple, closed, received]
    rw [written, if_pos rfl, if_pos (by decide)]
    exact List.Perm.swap _ _ _
  by_cases head : method = "HEAD"
  · subst head
    simp [draftSimple, closed, received]
  · have sent : Statement.checkError.literals = [] ∧
        (receive (sendWith defaultClient)).literals = [] := ⟨rfl, rfl⟩
    simp [draftSimple, get, post, head, closed, sent, literals_build]

theorem literals_draftBuilt (style : BodyStyle) (request : Request) :
    (draftBuilt style request).literals =
      request.body.payload?.toList.flatMap (verbatimLiterals style) ++
        (request.body.payload?.toList.flatMap payloadStrings ++
          request.body.paths ++
          [request.method, request.url] ++
          request.basicAuth.toList.flatMap (fun auth => [auth.user, auth.password]) ++
          (request.headers.find? "Host").toList.map (fun host => host.value) ++
          (request.headers.erase "Host").entries.flatMap
            (fun header => [header.name, header.value])).map stringToken := by
  have credentials : ∀ auth, (writeCredentials auth).literals =
      [auth.user, auth.password].map stringToken := by
    intro auth
    simp [writeCredentials]
  have client : (if request.insecure then writeInsecureClient else {}).literals = [] := by
    split_ifs <;> rfl
  have sent : ([.blank, receive (sendWith (if request.insecure then .name "client"
      else defaultClient))] ++ closing).flatMap Statement.literals = [] := by
    split_ifs <;> rfl
  have body := literals_writeBody style request.body
  have built : [build request.method request.url (writeBody style request.body).2,
      .checkError].flatMap Statement.literals =
        [request.method, request.url].map stringToken := by
    rw [List.flatMap_cons, literals_build, body.2]
    rfl
  unfold draftBuilt
  dsimp only
  simp only [Draft.literals_append, Draft.literals_require, Draft.literals_requireFor,
    Draft.literals_emit, Draft.literals_concat, List.flatMap_map, literals_writeHeaders, client,
    body.1, built, sent, credentials, List.nil_append, List.append_nil, List.map_append,
    List.map_flatMap, List.append_assoc]

/-- The literals in the code for a request are those of its quoted strings, each written as often as
the request has it, and the literals that stand for none of them. -/
theorem literals_draft (options : RenderOptions) (typeWriter : TypeWriter) (request : Request) :
    (draft options typeWriter request).literals.Perm
      (otherLiterals ⟨typeWriter, options.effectiveTypeName, request.encoding⟩ request ++
        (quotedStrings request).map stringToken) := by
  unfold draft otherLiterals quotedStrings
  by_cases simple : request.isSimple = true
  · rw [if_pos simple, if_pos simple, if_pos simple]
    exact literals_draftSimple request.method request.url
  · rw [if_neg simple, if_neg simple, if_neg simple, Draft.literals_append, literals_draftBuilt]
    refine List.Perm.of_eq ?_
    split_ifs <;> rfl

/-! ### Commands -/

theorem exists_ok_of_isSome {Fault Result : Type} {outcome : Except Fault Result}
    (succeeds : outcome.toOption.isSome = true) : ∃ result, outcome = .ok result := by
  cases outcome with
  | error fault => cases succeeds
  | ok result => exact ⟨result, rfl⟩

/-- A command that is converted describes a request, and the code is the code for that request. -/
theorem exists_request_of_convertWith {options : RenderOptions} {typeWriter : TypeWriter}
    {text code : String} (converts : (convertWith options typeWriter text).result = .ok code) :
    ∃ request, extract (Command.read text) = .ok request ∧
      code = (render options typeWriter request).code := by
  unfold convertWith convertCommand at converts
  dsimp only at converts
  split at converts
  · cases converts
  · split at converts
    · cases converts
    · rename_i request described
      exact ⟨request, described, (Except.ok.inj converts).symm⟩

/-- The quoted literals of a converted command. The code is that of a request. Its literals are one
for each quoted string of the request and others that stand for none of these, and all of them are
written in it. A quoted literal is one that Go accepts if and only if its string holds no line
feed. -/
theorem convertWith_quoted_literals (options : RenderOptions) (typeWriter : TypeWriter)
    {text code : String} (converts : (convertWith options typeWriter text).result = .ok code) :
    ∃ request, extract (Command.read text) = .ok request ∧
      code = (render options typeWriter request).code ∧
      (draft options typeWriter request).literals.Perm
        (otherLiterals ⟨typeWriter, options.effectiveTypeName, request.encoding⟩ request ++
          (quotedStrings request).map stringToken) ∧
      (∀ token ∈ (draft options typeWriter request).literals,
        IsWrittenIn token (draft options typeWriter request).text) ∧
      ∀ value ∈ quotedStrings request,
        (IsInterpretedLiteral (stringToken value) ↔ '\n' ∉ value.toList) := by
  obtain ⟨request, described, same⟩ := exists_request_of_convertWith converts
  refine ⟨request, described, same, literals_draft options typeWriter request, ?_, ?_⟩
  · intro token member
    exact Draft.literal_written member
  · intro value _
    unfold stringToken
    rw [isInterpretedLiteral_quote_iff, mem_withoutEscape_iff (by decide)]

/-- The code for a command with a header holds four quoted literals, and Go accepts them all. -/
theorem convertWith_quoted_literals_header :
    ∃ code request, (convertWith {} typeDefinition "curl -H 'Accept: x' example.com").result =
        .ok code ∧
      code = (render {} typeDefinition request).code ∧
      quotedStrings request = ["GET", "example.com", "Accept", "x"] ∧
      ∀ value ∈ quotedStrings request, IsInterpretedLiteral (stringToken value) := by
  have converted : (convertWith {} typeDefinition
      "curl -H 'Accept: x' example.com").result.toOption.isSome = true := by
    decide +kernel
  have strings : (extract (Command.read "curl -H 'Accept: x' example.com")).toOption.map
      quotedStrings = some ["GET", "example.com", "Accept", "x"] := by
    decide +kernel
  obtain ⟨code, converts⟩ := exists_ok_of_isSome converted
  obtain ⟨request, described, same, -, -, accepted⟩ := convertWith_quoted_literals _ _ converts
  rw [described] at strings
  have quoted : quotedStrings request = ["GET", "example.com", "Accept", "x"] :=
    Option.some.inj strings
  refine ⟨code, request, converts, same, quoted, fun value member => ?_⟩
  refine (accepted value member).2 ?_
  rw [quoted] at member
  revert value
  decide

/-- A line feed between single quotes reaches its literal as it stands, and Go refuses the code. -/
theorem convertWith_line_feed :
    ∃ code request, (convertWith {} typeDefinition "curl 'a\nb'").result = .ok code ∧
      code = (render {} typeDefinition request).code ∧
      "\x22a\nb\x22" ∈ (draft {} typeDefinition request).literals ∧
      ¬ IsInterpretedLiteral "\x22a\nb\x22" := by
  have converted : (convertWith {} typeDefinition "curl 'a\nb'").result.toOption.isSome = true := by
    decide +kernel
  have literals : (extract (Command.read "curl 'a\nb'")).toOption.map
      (fun request => (draft {} typeDefinition request).literals) = some ["\x22a\nb\x22"] := by
    decide +kernel
  obtain ⟨code, converts⟩ := exists_ok_of_isSome converted
  obtain ⟨request, described, same⟩ := exists_request_of_convertWith converts
  rw [described] at literals
  have single : (draft {} typeDefinition request).literals = ["\x22a\nb\x22"] :=
    Option.some.inj literals
  have quoted : quote "a\nb" = "\x22a\nb\x22" := by
    decide +kernel
  refine ⟨code, request, converts, same, single ▸ List.mem_singleton_self _, fun accepted => ?_⟩
  rw [← quoted] at accepted
  exact (isInterpretedLiteral_quote_iff "a\nb").1 accepted (by decide)

end CurlScribe.Go
