/-
This file says which reader a request is built with. The code for a body makes one reader
for its text and one for each of its files, in this order. The request is built with no
value if there is none, with the only reader if there is one, and with a reader that reads
all of them one after another if there are several.
-/

import CurlScribe.Proofs.Scoping

namespace CurlScribe.Go

/-! ### Calls that define variables -/

/-- A call of a function of a package, with the variables that hold its results. -/
structure Creation where
  package : Package
  function : String
  results : List String
  arguments : List Expression

/-- The calls of functions of packages by which a statement defines variables. -/
@[simp] def Statement.creations : Statement → List Creation
  | .define results (.call (.qualified package function) arguments) =>
    [⟨package, function, results, arguments⟩]
  | _ => []

/-- The calls of functions of a package by which statements define variables. -/
def creationsOf (package : Package) (statements : List Statement) : List Creation :=
  (statements.flatMap Statement.creations).filter (·.package = package)

/-- The call makes the reader of a text, or opens a file. -/
def Creation.MakesReader (creation : Creation) : Prop :=
  creation.package ∈ [.strings, .bytes] ∧ creation.function = "NewReader" ∨
    creation.package = .os ∧ creation.function = "Open"

instance (creation : Creation) : Decidable creation.MakesReader :=
  inferInstanceAs (Decidable (_ ∨ _))

/-- The variables that hold readers, in the order in which the readers are made. -/
def readersOf (statements : List Statement) : List String :=
  ((statements.flatMap Statement.creations).filter (·.MakesReader)).filterMap (·.results.head?)

/-- The expression for what is read from readers, of which there may be none, one or several. -/
def passedReader : List String → Expression
  | [] => .nil
  | [reader] => .name reader
  | _ => .name "payload"

/-- The call that opens a file. -/
def openFile (file : String × String) : Creation :=
  ⟨.os, "Open", [file.1, "err"], [.ofString file.2]⟩

/-- The calls that join readers: none if there are fewer than two. -/
def joinAll : List String → List Creation
  | [] | [_] => []
  | readers => [⟨.io, "MultiReader", ["payload"], readers.map .name⟩]

/-- What statements do: the readers that they make, and the calls by which they open files, join
readers and build requests. -/
structure Does (statements : List Statement) (readers : List String)
    (opened joined built : List Creation) : Prop where
  readers : readersOf statements = readers
  opened : creationsOf .os statements = opened
  joined : creationsOf .io statements = joined
  built : creationsOf .http statements = built

/-- Statements that define nothing by a call do nothing. -/
theorem does_nothing {statements : List Statement}
    (none : statements.flatMap Statement.creations = []) : Does statements [] [] [] [] := by
  constructor <;> simp only [readersOf, creationsOf, none] <;> rfl

theorem Does.append {first second : List Statement} {readers laterReaders : List String}
    {opened joined built laterOpened laterJoined laterBuilt : List Creation}
    (doesFirst : Does first readers opened joined built)
    (doesSecond : Does second laterReaders laterOpened laterJoined laterBuilt) :
    Does (first ++ second) (readers ++ laterReaders) (opened ++ laterOpened)
      (joined ++ laterJoined) (built ++ laterBuilt) := by
  have calls : ∀ package, creationsOf package (first ++ second) =
      creationsOf package first ++ creationsOf package second := by
    intro package
    unfold creationsOf
    rw [List.flatMap_append, List.filter_append]
  constructor
  · rw [← doesFirst.readers, ← doesSecond.readers]
    unfold readersOf
    rw [List.flatMap_append, List.filter_append, List.filterMap_append]
  · rw [calls, doesFirst.opened, doesSecond.opened]
  · rw [calls, doesFirst.joined, doesSecond.joined]
  · rw [calls, doesFirst.built, doesSecond.built]

/-! ### Parts of a draft -/

theorem ActOn.does_nothing {receiver : String} {statements : List Statement}
    (acts : ActOn receiver statements) : Does statements [] [] [] [] := by
  refine Go.does_nothing (List.flatMap_eq_nil_iff.2 fun statement member => ?_)
  obtain ⟨⟨call, rfl⟩ | ⟨target, value, rfl⟩, -⟩ := acts statement member <;> rfl

/-- The code for a text makes one reader. -/
theorem does_writePayload (style : BodyStyle) (payload : Payload) :
    Does (writePayload style payload).statements [bodyName] [] [] [] := by
  cases payload with
  | json content =>
    rw [writePayload]
    cases style.typeWriter content style.typeName with
    | none => exact ⟨rfl, rfl, rfl, rfl⟩
    | some definition => exact ⟨rfl, rfl, rfl, rfl⟩
  | form content =>
    have parameters : Does [.define ["params"] (.composite (.qualified .url "Values") .inline [])]
        [] [] [] [] := ⟨rfl, rfl, rfl, rfl⟩
    have fields := (writeFields_actOn (Text.formFields content)).does_nothing
    have reader : Does [.define [bodyName]
        (.callOf .strings "NewReader" [.callOn "params" "Encode" []]), .blank]
        [bodyName] [] [] [] := ⟨rfl, rfl, rfl, rfl⟩
    have together := parameters.append (fields.append reader)
    have statements : (writePayload style (.form content)).statements =
        [.define ["params"] (.composite (.qualified .url "Values") .inline [])] ++
          ((Text.formFields content).flatMap (fun field => (writeField field).statements) ++
            [.define [bodyName] (.callOf .strings "NewReader" [.callOn "params" "Encode" []]),
              .blank]) := by
      simp [writePayload, writeForm, List.flatMap_map]
    rw [statements]
    exact together
  | text content => exact ⟨rfl, rfl, rfl, rfl⟩

/-- The code for a body makes the reader of its text. -/
theorem does_inlineStatements (style : BodyStyle) (body : Body) :
    Does (inlineStatements style body) (body.payload?.toList.map fun _ => bodyName) [] [] [] := by
  unfold inlineStatements
  cases body.payload? with
  | none => exact ⟨rfl, rfl, rfl, rfl⟩
  | some payload =>
    rw [Option.toList_some, List.flatMap_singleton]
    exact does_writePayload style payload

/-- Files are opened in order, each for a reader of its own. -/
theorem does_writeFiles (files : List (String × String)) :
    Does (files.flatMap fun file => (writeFile file.1 file.2).statements)
      (files.map Prod.fst) (files.map openFile) [] [] := by
  induction files with
  | nil => exact ⟨rfl, rfl, rfl, rfl⟩
  | cons file later inductionHypothesis =>
    have opens : Does (writeFile file.1 file.2).statements [file.1] [openFile file] [] [] :=
      ⟨rfl, rfl, rfl, rfl⟩
    exact opens.append inductionHypothesis

theorem does_joinReaders (readers : List String) :
    Does (joinReaders readers).1.statements [] [] (joinAll readers) [] := by
  rcases readers with - | ⟨first, - | ⟨second, later⟩⟩ <;> exact ⟨rfl, rfl, rfl, rfl⟩

theorem joinReaders_snd (readers : List String) :
    (joinReaders readers).2 = passedReader readers := by
  rcases readers with - | ⟨first, - | ⟨second, later⟩⟩ <;> rfl

/-- The code for a body makes its readers and joins them. -/
theorem does_writeBody (style : BodyStyle) (body : Body) :
    Does (writeBody style body).1.statements (bodyReaders body)
      (((fileNames body.paths.length).zip body.paths).map openFile)
      (joinAll (bodyReaders body)) [] := by
  have readers := (does_inlineStatements style body).append
    (does_writeFiles ((fileNames body.paths.length).zip body.paths))
  have together := readers.append (does_joinReaders (bodyReaders body))
  rw [fileNames_zip_fst] at together
  rw [statements_writeBody]
  simpa [readerStatements, bodyReaders] using together

/-! ### Requests -/

/-- The call that builds a request. -/
def buildRequest (method url : String) (reader : Expression) : Creation :=
  ⟨.http, "NewRequest", ["req", "err"], [.ofString method, .ofString url, reader]⟩

/-- The only function of a package that is called to send a built request builds it. -/
theorem does_sendingStatements (request : Request) (reader : Expression) :
    Does (sendingStatements request reader) [] [] []
      [buildRequest request.method request.url reader] := by
  have builds : Does [build request.method request.url reader, .checkError] [] [] []
      [buildRequest request.method request.url reader] := ⟨rfl, rfl, rfl, rfl⟩
  have settings := (settingStatements_actOn request).does_nothing
  have sends : Does (.blank :: receive (sendWith (sendingClient request.insecure)) :: closing)
      [] [] [] [] := ⟨rfl, rfl, rfl, rfl⟩
  exact builds.append (settings.append sends)

theorem does_draftBuilt (style : BodyStyle) (request : Request) :
    Does (draftBuilt style request).statements (bodyReaders request.body)
      (((fileNames request.body.paths.length).zip request.body.paths).map openFile)
      (joinAll (bodyReaders request.body))
      [buildRequest request.method request.url (passedReader (bodyReaders request.body))] := by
  have client : Does (clientStatements request.insecure) [] [] [] [] := by
    cases request.insecure <;> exact ⟨rfl, rfl, rfl, rfl⟩
  have reader : (writeBody style request.body).2 = passedReader (bodyReaders request.body) :=
    joinReaders_snd _
  have sending := does_sendingStatements request (passedReader (bodyReaders request.body))
  have together := client.append ((does_writeBody style request.body).append sending)
  rw [statements_draftBuilt, reader]
  simpa using together

/-- The call of a package by which a request that says nothing beyond its method and its address
is sent, or built. -/
def simpleCall (method url : String) : Creation :=
  if method = "GET" then ⟨.http, "Get", ["resp", "err"], [.ofString url]⟩
  else if method = "POST" then
    ⟨.http, "Post", ["resp", "err"], [.ofString url, .literal "\x22\x22", .nil]⟩
  else if method = "HEAD" then ⟨.http, "Head", ["resp", "err"], [.ofString url]⟩
  else buildRequest method url .nil

theorem does_draftSimple (method url : String) :
    Does (draftSimple method url).statements [] [] [] [simpleCall method url] := by
  unfold draftSimple simpleCall
  dsimp only
  split_ifs <;> exact ⟨rfl, rfl, rfl, rfl⟩

/-! ### Readers of requests -/

/-- A convenience function of the package for requests builds the request and sends it. -/
def SentDirectly (request : Request) : Prop :=
  request.isSimple = true ∧ request.method ∈ ["GET", "POST", "HEAD"]

instance (request : Request) : Decidable (SentDirectly request) :=
  inferInstanceAs (Decidable (_ ∧ _))

/-- The calls by which statements build requests. -/
def requestsOf (statements : List Statement) : List Creation :=
  (creationsOf .http statements).filter (·.function = "NewRequest")

/-- Statements make a reader for each part of the body of a request, the text first and the files
in order, and build the request with what is read from all of these readers. -/
structure ReadsBody (request : Request) (statements : List Statement) : Prop where
  distinct : (readersOf statements).Nodup
  parts : readersOf statements =
    request.body.payload?.toList.map (fun _ => bodyName) ++ fileNames request.body.paths.length
  opened : creationsOf .os statements =
    ((fileNames request.body.paths.length).zip request.body.paths).map openFile
  joined : creationsOf .io statements = joinAll (readersOf statements)
  nothing : passedReader (readersOf statements) = .nil ↔
    request.body.payload? = none ∧ request.body.paths = []
  passed : requestsOf statements =
    if SentDirectly request then []
    else [buildRequest request.method request.url (passedReader (readersOf statements))]

theorem nodup_bodyReaders (body : Body) : (bodyReaders body).Nodup := by
  refine List.Nodup.append ?_ (nodup_fileNames _) fun name inText inFiles => ?_
  · cases body.payload? with
    | none => exact List.nodup_nil
    | some payload => exact List.nodup_singleton _
  · obtain ⟨-, -, rfl⟩ := List.mem_map.1 inText
    exact absurd (isFileName_of_mem inFiles) (by decide)

/-- There is nothing to read exactly if there are no readers. -/
theorem passedReader_bodyReaders_eq_nil_iff (body : Body) :
    passedReader (bodyReaders body) = .nil ↔ body.payload? = none ∧ body.paths = [] := by
  have named : "nil" ∉ bodyReaders body := by
    intro member
    rcases List.mem_append.1 member with text | file
    · obtain ⟨-, -, same⟩ := List.mem_map.1 text
      exact absurd same (by decide)
    · exact absurd (isFileName_of_mem file) (by decide)
  have none : bodyReaders body = [] ↔ body.payload? = none ∧ body.paths = [] := by
    rw [bodyReaders, List.append_eq_nil_iff, ← List.length_eq_zero_iff (l := fileNames _),
      length_fileNames, List.length_eq_zero_iff, List.map_eq_nil_iff, Option.toList_eq_nil_iff]
  rw [← none]
  rcases given : bodyReaders body with - | ⟨first, - | ⟨second, later⟩⟩
  · exact iff_of_true rfl rfl
  · refine iff_of_false (fun same => ?_) (List.cons_ne_nil _ _)
    obtain rfl : first = "nil" := by
      injection same
    exact named (given ▸ List.mem_cons_self)
  · refine iff_of_false (fun same => ?_) (List.cons_ne_nil _ _)
    injection same with same
    exact absurd same (by decide)

theorem Does.readsBody {request : Request} {statements : List Statement} {built : List Creation}
    (does : Does statements (bodyReaders request.body)
      (((fileNames request.body.paths.length).zip request.body.paths).map openFile)
      (joinAll (bodyReaders request.body)) built)
    (passed : built.filter (·.function = "NewRequest") =
      if SentDirectly request then []
      else [buildRequest request.method request.url (passedReader (bodyReaders request.body))]) :
    ReadsBody request statements where
  distinct := by
    rw [does.readers]
    exact nodup_bodyReaders request.body
  parts := does.readers
  opened := does.opened
  joined := by rw [does.joined, does.readers]
  nothing := by
    rw [does.readers]
    exact passedReader_bodyReaders_eq_nil_iff request.body
  passed := by rw [requestsOf, does.built, passed, does.readers]

theorem readsBody_draftSimple {request : Request} (simple : request.isSimple = true) :
    ReadsBody request (draftSimple request.method request.url).statements := by
  have empty := body_of_isSimple simple
  have noReader : bodyReaders request.body = [] := by
    rw [empty]
    rfl
  have does : Does (draftSimple request.method request.url).statements (bodyReaders request.body)
      (((fileNames request.body.paths.length).zip request.body.paths).map openFile)
      (joinAll (bodyReaders request.body)) [simpleCall request.method request.url] := by
    rw [noReader, empty]
    exact does_draftSimple request.method request.url
  refine does.readsBody ?_
  rw [noReader]
  unfold SentDirectly simpleCall
  by_cases get : request.method = "GET"
  · simp [simple, get]
  · by_cases post : request.method = "POST"
    · simp [simple, post]
    · by_cases head : request.method = "HEAD"
      · simp [simple, head]
      · simp [get, post, head, buildRequest, passedReader]

theorem readsBody_draft (options : RenderOptions) (typeWriter : TypeWriter) (request : Request) :
    ReadsBody request (draft options typeWriter request).statements := by
  rw [statements_draft]
  split_ifs with simple
  · exact readsBody_draftSimple simple
  · have built := does_draftBuilt ⟨typeWriter, options.effectiveTypeName, request.encoding⟩ request
    refine built.readsBody ?_
    rw [if_neg fun direct => simple direct.1]
    rfl

/-- Generated code declares what it uses and uses what it declares, and it builds a request with a
reader of exactly the parts of its body. -/
theorem wellScoped_draft (options : RenderOptions) (typeWriter : TypeWriter) (request : Request) :
    WellScoped (draft options typeWriter request).statements ∧
      ReadsBody request (draft options typeWriter request).statements :=
  ⟨wellScoped_of_inScope (inScope_draft options typeWriter request),
    readsBody_draft options typeWriter request⟩

end CurlScribe.Go
