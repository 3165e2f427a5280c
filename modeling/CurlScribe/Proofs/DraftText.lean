/-
This file says how the code for a request without inline text is written. Statements are
written one after another; a blank line is added where one is asked for, since no line of
the code in front of it is empty.
-/

import CurlScribe.Proofs.Scoping
import CurlScribe.Proofs.SelfDelimiting

namespace CurlScribe.Go

/-! ### Statements one after another -/

/-- Statements as they are written, without blank lines. -/
def written (statements : List Statement) : List Char :=
  statements.flatMap fun statement => statement.text.toList

@[simp] theorem written_nil : written [] = [] := rfl

@[simp] theorem written_cons (statement : Statement) (later : List Statement) :
    written (statement :: later) = statement.text.toList ++ written later := rfl

@[simp] theorem written_append (first second : List Statement) :
    written (first ++ second) = written first ++ written second :=
  List.flatMap_append

theorem written_flatMap {Value : Type} (values : List Value) (write : Value → List Statement) :
    written (values.flatMap write) = values.flatMap fun value => written (write value) :=
  List.flatMap_assoc

/-- The statement is written, unlike a blank line. -/
@[simp] def Statement.Shows : Statement → Prop
  | .blank => False
  | _ => True

theorem toList_foldl {statements : List Statement}
    (shows : ∀ statement ∈ statements, statement.Shows) (code : String) :
    (statements.foldl appendStatement code).toList = code.toList ++ written statements := by
  induction statements generalizing code with
  | nil => simp
  | cons statement later inductionHypothesis =>
    obtain ⟨first, others⟩ := List.forall_mem_cons.1 shows
    have step : appendStatement code statement = code ++ statement.text := by
      cases statement <;> first | rfl | exact first.elim
    rw [List.foldl_cons, inductionHypothesis others, step, written_cons, String.toList_append,
      List.append_assoc]

/-- A text ends with a line that is not empty. -/
def EndsLine (text : List Char) : Prop :=
  ∃ front last, last ≠ '\n' ∧ text = front ++ [last, '\n']

theorem EndsLine.append {text : List Char} (ends : EndsLine text) (earlier : List Char) :
    EndsLine (earlier ++ text) := by
  obtain ⟨front, last, other, rfl⟩ := ends
  exact ⟨earlier ++ front, last, other, (List.append_assoc _ _ _).symm⟩

theorem EndsLine.append_flatMap {Value : Type} {write : Value → List Char} {text : List Char}
    (ends : EndsLine text) (each : ∀ value, EndsLine (write value)) (values : List Value) :
    EndsLine (text ++ values.flatMap write) := by
  induction values generalizing text with
  | nil =>
    rw [List.flatMap_nil, List.append_nil]
    exact ends
  | cons value later inductionHypothesis =>
    rw [List.flatMap_cons, ← List.append_assoc]
    exact inductionHypothesis ((each value).append text)

/-- The expression for a string ends with the quote or the parenthesis that closes it. -/
theorem endsLine_stringText (value : String) : EndsLine (stringText value ++ "\n".toList) := by
  rw [stringText_eq, quote, quote, enclose, enclose, String.toList_ofList, String.toList_ofList]
  split_ifs
  · refine ⟨"os.ExpandEnv(".toList ++ ('\x22' :: escapeQuotes value.toList ++ ['\x22']), ')',
      by decide, ?_⟩
    simp
  · refine ⟨'\x22' :: escapeQuotes (withoutEscape value).toList, '\x22', by decide, ?_⟩
    simp

theorem endsLine_call : EndsLine ")\n".toList :=
  ⟨[], ')', by decide, rfl⟩

theorem endsLine_checkError : EndsLine Statement.checkError.text.toList :=
  ⟨Statement.checkError.text.toList.dropLast.dropLast, '\x7d', by decide, by decide⟩

/-- A blank line is added behind a line that is not empty. -/
theorem appendStatement_blank {code : String} (ends : EndsLine code.toList) :
    (appendStatement code .blank).toList = code.toList ++ ['\n'] := by
  obtain ⟨front, last, other, equal⟩ := ends
  have full : code.isEmpty = false := by
    refine Bool.eq_false_iff.2 fun empty => ?_
    rw [String.isEmpty_iff.1 empty] at equal
    simp at equal
  have single : endsBlank code = false := by
    refine Bool.eq_false_iff.2 fun blank => ?_
    obtain ⟨earlier, split⟩ := List.isSuffixOf_iff_suffix.1 blank
    rw [equal] at split
    have ends := (List.append_inj_right' split rfl)
    exact other (List.cons.inj ends).1.symm
  rw [appendStatement, full, single]
  simp

/-- A blank line between statements is written if it follows a line that is not empty. -/
theorem toList_foldl_blank {before after : List Statement}
    (showsBefore : ∀ statement ∈ before, statement.Shows)
    (showsAfter : ∀ statement ∈ after, statement.Shows) (ends : EndsLine (written before))
    (code : String) :
    ((before ++ .blank :: after).foldl appendStatement code).toList =
      code.toList ++ (written before ++ '\n' :: written after) := by
  have whole : EndsLine (before.foldl appendStatement code).toList := by
    rw [toList_foldl showsBefore]
    exact ends.append _
  rw [List.foldl_append, List.foldl_cons, toList_foldl showsAfter, appendStatement_blank whole,
    toList_foldl showsBefore]
  simp

/-! ### Parts of requests -/

/-- The code that opens a file as it is written. -/
def fileText (file : String × String) : List Char :=
  written (writeFile file.1 file.2).statements

theorem fileText_eq (file : String × String) :
    fileText file = file.1.toList ++ (", err := os.Open(".toList ++ (stringText file.2 ++
      ((")\n" ++ Statement.checkError.text ++ "defer ").toList ++ (file.1.toList ++
        ".Close()\n".toList)))) := by
  simp [fileText, writeFile, Statement.text, stringText, Expression.text, Expression.texts,
    Expression.callOf, Expression.callOn, Package.qualifier]

/-- The code that builds a request as it is written, from its method and address. -/
def buildText (reader : Expression) (target : String × String) : List Char :=
  written [build target.1 target.2 reader, .checkError]

theorem buildText_eq (reader : Expression) (target : String × String) :
    buildText reader target = "req, err := http.NewRequest(".toList ++ (stringText target.1 ++
      (", ".toList ++ (stringText target.2 ++
        (", " ++ reader.text ++ ")\n" ++ Statement.checkError.text).toList))) := by
  simp [buildText, build, Statement.text, stringText, Expression.text, Expression.texts,
    Expression.callOf, Package.qualifier]

/-- The code that gives the credentials as it is written. -/
def credentialsText (auth : BasicAuth) : List Char :=
  written (writeCredentials auth).statements

theorem credentialsText_eq (auth : BasicAuth) :
    credentialsText auth = "req.SetBasicAuth(".toList ++ (stringText auth.user ++
      (", ".toList ++ (stringText auth.password ++ ")\n".toList))) := by
  simp [credentialsText, writeCredentials, Statement.text, stringText, Expression.text,
    Expression.texts, Expression.callOn]

/-- The code that sets the host as it is written. -/
def hostText (host : String) : List Char :=
  (Statement.assign (.select (.name "req") "Host") (.ofString host)).text.toList

theorem hostText_eq (host : String) :
    hostText host = "req.Host = ".toList ++ (stringText host ++ "\n".toList) := by
  simp [hostText, Statement.text, stringText, Expression.text]

/-- The code that sets a header as it is written. -/
def headerText (header : Header) : List Char :=
  written (writeHeader header).statements

theorem headerText_eq (header : Header) :
    headerText header = "req.Header.Set(".toList ++ (stringText header.name ++
      (", ".toList ++ (stringText header.value ++ ")\n".toList))) := by
  simp [headerText, writeHeader, Statement.text, stringText, Expression.text, Expression.texts]

theorem written_writeHost (host : Header) :
    written (writeHost host).statements = hostText host.value :=
  List.append_nil _

/-- The settings of a request as they are written. -/
theorem written_settingStatements (request : Request) :
    written (settingStatements request) =
      request.basicAuth.toList.flatMap credentialsText ++
        ((request.headers.get? "Host").toList.flatMap hostText ++
          (request.headers.erase "Host").entries.flatMap headerText) := by
  have credentials : written (request.basicAuth.toList.flatMap fun auth =>
      (writeCredentials auth).statements) = request.basicAuth.toList.flatMap credentialsText :=
    written_flatMap _ _
  have host : written ((Draft.concat ((request.headers.find? "Host").toList.map
      writeHost)).statements) = (request.headers.get? "Host").toList.flatMap hostText := by
    rw [Draft.statements_concat, List.flatMap_map, written_flatMap, Headers.get?]
    simp only [written_writeHost]
    cases request.headers.find? "Host" <;> rfl
  have headers : written ((Draft.concat ((request.headers.erase "Host").entries.map
      writeHeader)).statements) = (request.headers.erase "Host").entries.flatMap headerText := by
    rw [Draft.statements_concat, List.flatMap_map, written_flatMap]
    rfl
  rw [settingStatements, written_append, credentials, writeHeaders, Draft.statements_append,
    written_append, host, headers]

/-- The client that is made for a request as it is written, with the blank line behind it. -/
def clientText (insecure : Bool) : List Char :=
  if insecure then written writeInsecureClient.statements ++ ['\n'] else []

/-- The code that joins the readers of files as it is written. -/
def joinText (count : Nat) : List Char :=
  written (joinReaders (fileNames count)).1.statements

/-- The reader of files. -/
def fileReader (count : Nat) : Expression :=
  (joinReaders (fileNames count)).2

/-- The code that sends a built request as it is written. -/
def sendText (insecure : Bool) : List Char :=
  written (receive (sendWith (sendingClient insecure)) :: closing)

/-! ### Requests -/

/-- The code for a request without inline text that is built explicitly, as it is written. -/
def builtText (request : Request) : List Char :=
  clientText request.insecure ++
    (((fileNames request.body.paths.length).zip request.body.paths).flatMap fileText ++
      (joinText request.body.paths.length ++
        (buildText (fileReader request.body.paths.length) (request.method, request.url) ++
          (request.basicAuth.toList.flatMap credentialsText ++
            ((request.headers.get? "Host").toList.flatMap hostText ++
              ((request.headers.erase "Host").entries.flatMap headerText ++
                '\n' :: sendText request.insecure))))))

theorem bodyReaders_of_plain {body : Body} (plain : body.payload? = none) :
    bodyReaders body = fileNames body.paths.length := by
  rw [bodyReaders, plain]
  rfl

/-- The code for files as it is written. -/
theorem written_writeBody {body : Body} (plain : body.payload? = none) (style : BodyStyle) :
    written (writeBody style body).1.statements =
      ((fileNames body.paths.length).zip body.paths).flatMap fileText ++
        joinText body.paths.length := by
  have text : inlineStatements style body = [] := by
    rw [inlineStatements, plain]
    rfl
  rw [statements_writeBody, written_append, readerStatements, text, List.nil_append,
    written_flatMap, bodyReaders_of_plain plain]
  rfl

theorem shows_writeBody {body : Body} (plain : body.payload? = none) (style : BodyStyle) :
    ∀ statement ∈ (writeBody style body).1.statements, statement.Shows := by
  intro statement member
  rw [statements_writeBody, readerStatements, inlineStatements, plain, List.mem_append] at member
  rcases member with file | joined
  · obtain ⟨opened, -, inFile⟩ := List.mem_flatMap.1 file
    simp only [writeFile, Draft.statements_append, Draft.statements_requireFor,
      Draft.statements_require, Draft.statements_emit, List.nil_append, List.mem_cons,
      List.not_mem_nil, or_false] at inFile
    rcases inFile with rfl | rfl | rfl <;> trivial
  · unfold joinReaders at joined
    split at joined
    · cases joined
    · cases joined
    · obtain rfl := List.mem_singleton.1 joined
      trivial

theorem shows_settingStatements (request : Request) :
    ∀ statement ∈ settingStatements request, statement.Shows := by
  intro statement member
  obtain ⟨⟨call, rfl⟩ | ⟨target, value, rfl⟩, -⟩ :=
    settingStatements_actOn request statement member <;> trivial

/-- The code in front of the sending ends with a line that is not empty. -/
theorem endsLine_buildText (reader : Expression) (target : String × String) (request : Request) :
    EndsLine (buildText reader target ++ written (settingStatements request)) := by
  have built : EndsLine (buildText reader target) := by
    rw [buildText_eq, String.toList_append]
    exact ((((endsLine_checkError.append _).append _).append _).append _).append _
  have credentials (auth : BasicAuth) : EndsLine (credentialsText auth) := by
    rw [credentialsText_eq]
    exact (((endsLine_call.append _).append _).append _).append _
  have host (value : String) : EndsLine (hostText value) := by
    rw [hostText_eq]
    exact (endsLine_stringText value).append _
  have header (header : Header) : EndsLine (headerText header) := by
    rw [headerText_eq]
    exact (((endsLine_call.append _).append _).append _).append _
  rw [written_settingStatements, ← List.append_assoc, ← List.append_assoc]
  exact ((built.append_flatMap credentials _).append_flatMap host _).append_flatMap header _

/-- The statement that makes a client of its own. -/
def defineClient : Statement :=
  .define ["client"]
    (.address (.composite (.qualified .http "Client") .inline [.keyed "Transport" (.name "tr")]))

theorem toList_foldl_clientStatements (insecure : Bool) :
    ((clientStatements insecure).foldl appendStatement "").toList = clientText insecure := by
  cases insecure with
  | false => rfl
  | true =>
    have split : writeInsecureClient.statements =
        (writeInsecureClient.statements.take 2 ++ [defineClient]) ++ .blank :: [] := rfl
    have shows : ∀ statement ∈ writeInsecureClient.statements.take 2 ++ [defineClient],
        statement.Shows := by
      simp [writeInsecureClient, defineClient]
    have client : EndsLine defineClient.text.toList :=
      ⟨"client := &http.Client\x7bTransport: tr".toList, '\x7d', by decide, by decide +kernel⟩
    have ends : EndsLine (written (writeInsecureClient.statements.take 2 ++ [defineClient])) := by
      rw [written_append, written_cons, written_nil, List.append_nil]
      exact client.append _
    rw [clientStatements, if_pos rfl, clientText, if_pos rfl, split,
      toList_foldl_blank shows (List.forall_mem_nil _) ends]
    simp [Statement.text]

theorem toList_text_draftBuilt {request : Request} (plain : request.body.payload? = none)
    (style : BodyStyle) : (draftBuilt style request).text.toList = builtText request := by
  have reader : (writeBody style request.body).2 = fileReader request.body.paths.length := by
    show (joinReaders (bodyReaders request.body)).2 = _
    rw [bodyReaders_of_plain plain]
    rfl
  have statements : (draftBuilt style request).statements =
      clientStatements request.insecure ++
        (((writeBody style request.body).1.statements ++
          ([build request.method request.url (writeBody style request.body).2, .checkError] ++
            settingStatements request)) ++
          .blank :: receive (sendWith (sendingClient request.insecure)) :: closing) := by
    rw [statements_draftBuilt, sendingStatements]
    simp only [List.append_assoc, List.cons_append, List.nil_append]
  have built : written [build request.method request.url (writeBody style request.body).2,
      .checkError] = buildText (fileReader request.body.paths.length)
        (request.method, request.url) := by
    rw [reader]
    rfl
  rw [Draft.text, fragmentText, statements, List.foldl_append, toList_foldl_blank]
  · simp only [toList_foldl_clientStatements, written_append, written_writeBody plain, built,
      written_settingStatements, builtText, sendText, List.append_assoc]
  · intro statement member
    simp only [List.mem_append, List.mem_cons, List.not_mem_nil, or_false] at member
    rcases member with body | (rfl | rfl) | setting
    · exact shows_writeBody plain style statement body
    · trivial
    · trivial
    · exact shows_settingStatements request statement setting
  · intro statement member
    simp only [closing, List.mem_cons, List.not_mem_nil, or_false] at member
    rcases member with rfl | rfl | rfl <;> trivial
  · rw [written_append, written_append, built]
    exact (endsLine_buildText _ _ request).append _

/-! ### Simple requests -/

/-- The code for a request that says nothing beyond its method and its address, as it is written. -/
def simpleText (method url : String) : List Char :=
  if method = "GET" then "resp, err := http.Get(".toList ++ (stringText url ++
    (")\n".toList ++ written closing))
  else if method = "POST" then "resp, err := http.Post(".toList ++ (stringText url ++
    (", \x22\x22, nil)\n".toList ++ written closing))
  else if method = "HEAD" then "resp, err := http.Head(".toList ++ (stringText url ++
    (")\n".toList ++ written closing))
  else buildText .nil (method, url) ++ sendText false

theorem toList_text_draftSimple (method url : String) :
    (draftSimple method url).text.toList = simpleText method url := by
  unfold Draft.text fragmentText
  rw [toList_foldl]
  · unfold draftSimple simpleText
    dsimp only
    split_ifs
    · simp [receive, Statement.text, stringText, Expression.text, Expression.texts,
        Expression.callOf, Package.qualifier]
    · simp [receive, Statement.text, stringText, Expression.text, Expression.texts,
        Expression.callOf, Package.qualifier, Expression.nil]
    · simp [receive, Statement.text, stringText, Expression.text, Expression.texts,
        Expression.callOf, Package.qualifier]
    · simp [buildText, sendText, sendingClient]
  · unfold draftSimple
    dsimp only
    split_ifs <;> simp [receive, build, closing]

end CurlScribe.Go
