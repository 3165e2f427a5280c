/-
This file proves that the code for a request without inline text can be read back. The code
is read from its start: the client, the files, the method and the address, the credentials,
the host and the headers. At each place the next word of the code says which part begins, and
no string can be taken for a part, since the text of a string tells where it ends.
-/

import CurlScribe.Go.Type.Definition
import CurlScribe.Proofs.DraftText

namespace CurlScribe.Go

open Text

/-! ### Parts -/

theorem selfDelimiting_buildText (reader : Expression) : SelfDelimiting (buildText reader) := by
  rw [funext (buildText_eq reader)]
  exact selfDelimiting_strings Prod.fst Prod.snd (fun _ _ => Prod.ext) _ _ _

theorem selfDelimiting_credentialsText : SelfDelimiting credentialsText := by
  rw [funext credentialsText_eq]
  refine selfDelimiting_strings BasicAuth.user BasicAuth.password ?_ _ _ _
  rintro ⟨user, password⟩ ⟨_, _⟩ rfl rfl
  rfl

theorem selfDelimiting_hostText : SelfDelimiting hostText := by
  rw [funext hostText_eq]
  exact (selfDelimiting_stringText.behind _).before _

theorem selfDelimiting_headerText : SelfDelimiting headerText := by
  rw [funext headerText_eq]
  refine selfDelimiting_strings Header.name Header.value ?_ _ _ _
  rintro ⟨name, value⟩ ⟨_, _⟩ rfl rfl
  rfl

/-- The variable of a file is an `f` and digits. -/
theorem exists_digits_of_isFileName {name : String} (file : IsFileName name) :
    ∃ digits, name.toList = 'f' :: digits ∧ ',' ∉ digits := by
  rcases file with rfl | numbered
  · exact ⟨[], rfl, List.not_mem_nil⟩
  · unfold isFileVariable at numbered
    split at numbered
    · rename_i digits equal
      refine ⟨digits, equal, fun comma => ?_⟩
      simp only [Bool.and_eq_true, List.all_eq_true] at numbered
      exact absurd (numbered.2 ',' comma) (by decide)
    · cases numbered

theorem fileText_begins {file : String × String} (name : IsFileName file.1) :
    ∃ more, fileText file = "f".toList ++ more := by
  obtain ⟨digits, equal, -⟩ := exists_digits_of_isFileName name
  rw [fileText_eq, equal]
  exact ⟨_, rfl⟩

/-- The name of a file ends at the comma behind it. -/
theorem cancels_fileText {first second : String × String} (firstName : IsFileName first.1)
    (secondName : IsFileName second.1) : Cancels fileText first second := by
  have absent {name : String} (file : IsFileName name) : ',' ∉ name.toList := by
    obtain ⟨digits, equal, absent⟩ := exists_digits_of_isFileName file
    rw [equal]
    simp [absent]
  have comma : ", err := os.Open(".toList = ',' :: " err := os.Open(".toList := rfl
  intro firstRest secondRest same
  rw [fileText_eq, fileText_eq, comma] at same
  simp only [List.append_assoc, List.cons_append] at same
  have split := splitFirst_append (absent firstName)
    (" err := os.Open(".toList ++ (stringText first.2 ++
      ((")\n" ++ Statement.checkError.text ++ "defer ").toList ++ (first.1.toList ++
        (".Close()\n".toList ++ firstRest)))))
  rw [same, splitFirst_append (absent secondName)] at split
  obtain ⟨names, behind⟩ := Prod.mk.inj (Option.some.inj split)
  obtain ⟨paths, later⟩ := selfDelimiting_stringText _ _ (List.append_cancel_left behind)
  rw [names] at later
  have rests := List.append_cancel_left (List.append_cancel_left (List.append_cancel_left later))
  exact ⟨Prod.ext (String.toList_inj.1 names.symm) paths.symm, rests.symm⟩

/-! ### Requests that are built -/

theorem joinText_cases (count : Nat) :
    joinText count = [] ∨ ∃ more, joinText count = "payload".toList ++ more := by
  unfold joinText joinReaders
  split
  · exact Or.inl rfl
  · exact Or.inl rfl
  · have define (value : Expression) : (Statement.define ["payload"] value).text.toList =
        "payload".toList ++ (" := " ++ value.text ++ "\n").toList := by
      simp [Statement.text]
    exact Or.inr ⟨_, (List.append_nil _).trans (define _)⟩

/-- The code that builds a request is not a text that begins in another way. -/
theorem buildText_append_ne {text : List Char}
    (apart : Apart "req, err := http.NewRequest(".toList text) (reader : Expression)
    (target : String × String) (rest more : List Char) :
    buildText reader target ++ rest ≠ text ++ more := by
  rw [buildText_eq, List.append_assoc]
  exact apart.append_ne _ _

/-- Behind the files stand the joining of readers or the building of the request. -/
theorem not_prefix_joinText {text : List Char} (joined : Apart text "payload".toList)
    (built : Apart text "req, err := http.NewRequest(".toList) (more : List Char) (count : Nat)
    (reader : Expression) (target : String × String) (rest : List Char) :
    ¬ text ++ more <+: joinText count ++ (buildText reader target ++ rest) := by
  rcases joinText_cases count with none | ⟨later, join⟩
  · rw [none, List.nil_append, buildText_eq, List.append_assoc]
    exact built.not_prefix _ _
  · rw [join, List.append_assoc]
    exact joined.not_prefix _ _

/-- Behind the host stand the headers and a blank line. -/
theorem not_prefix_headers {text : List Char} (header : Apart text "req.Header.Set(".toList)
    (blank : Apart text "\n".toList) (more : List Char) (headers : List Header)
    (rest : List Char) : ¬ text ++ more <+: headers.flatMap headerText ++ '\n' :: rest := by
  refine not_prefix_flatMap (fun value _ later => ?_) (blank.not_prefix _ _)
  rw [headerText_eq, List.append_assoc]
  exact header.not_prefix _ _

/-- Behind the credentials stand the host, the headers and a blank line. -/
theorem not_prefix_hosts {text : List Char} (host : Apart text "req.Host = ".toList)
    (header : Apart text "req.Header.Set(".toList) (blank : Apart text "\n".toList)
    (more : List Char) (hosts : List String) (headers : List Header) (rest : List Char) :
    ¬ text ++ more <+: hosts.flatMap hostText ++ (headers.flatMap headerText ++ '\n' :: rest) := by
  refine not_prefix_flatMap (fun value _ later => ?_) (not_prefix_headers header blank _ _ _)
  rw [hostText_eq, List.append_assoc]
  exact host.not_prefix _ _

theorem not_prefix_credentialsText (auth : BasicAuth) (hosts : List String) (headers : List Header)
    (rest : List Char) : ¬ credentialsText auth <+:
      hosts.flatMap hostText ++ (headers.flatMap headerText ++ '\n' :: rest) := by
  rw [credentialsText_eq]
  exact not_prefix_hosts (by decide) (by decide) (by decide) _ _ _ _

theorem not_prefix_hostText (host : String) (headers : List Header) (rest : List Char) :
    ¬ hostText host <+: headers.flatMap headerText ++ '\n' :: rest := by
  rw [hostText_eq]
  exact not_prefix_headers (by decide) (by decide) _ _ _

theorem not_prefix_headerText (header : Header) (rest : List Char) :
    ¬ headerText header <+: '\n' :: rest := by
  rw [headerText_eq]
  have blank : Apart "req.Header.Set(".toList "\n".toList := by decide
  exact blank.not_prefix _ _

/-- What two requests agree in if their code is the same. -/
structure Agree (first second : Request) : Prop where
  method : first.method = second.method
  url : first.url = second.url
  insecure : first.insecure = second.insecure
  credentials : first.basicAuth = second.basicAuth
  files : first.body.paths = second.body.paths
  host : first.headers.get? "Host" = second.headers.get? "Host"
  headers : (first.headers.erase "Host").entries = (second.headers.erase "Host").entries

/-- The names of files are names for opened files. -/
theorem isFileName_of_mem_zip {paths : List String} {file : String × String}
    (member : file ∈ (fileNames paths.length).zip paths) : IsFileName file.1 :=
  isFileName_of_mem (List.of_mem_zip member).1

theorem clientText_begins : ∃ more, clientText true = "//".toList ++ more := by
  have comment (note : String) : (Statement.comment note).text.toList =
      "//".toList ++ (" " ++ note ++ "\n").toList := by
    simp [Statement.text]
  rw [clientText, if_pos rfl, writeInsecureClient, Draft.statements_append, Draft.statements_emit,
    Draft.statements_require, List.nil_append, written_cons, comment, List.append_assoc,
    List.append_assoc]
  exact ⟨_, rfl⟩

/-- Only the code for a client of its own begins with a comment. -/
theorem not_prefix_clientText {paths : List String} (reader : Expression)
    (target : String × String) (rest : List Char) :
    ¬ clientText true <+: ((fileNames paths.length).zip paths).flatMap fileText ++
      (joinText paths.length ++ (buildText reader target ++ rest)) := by
  obtain ⟨more, begins⟩ := clientText_begins
  rw [begins]
  refine not_prefix_flatMap (fun file member later => ?_)
    (not_prefix_joinText (by decide) (by decide) _ _ _ _ _)
  obtain ⟨behind, equal⟩ := fileText_begins (isFileName_of_mem_zip member)
  rw [equal, List.append_assoc]
  exact Apart.not_prefix (by decide) _ _

theorem clientText_cancel {first second : Bool} {firstRest secondRest : List Char}
    (firstOther : ¬ clientText true <+: firstRest) (secondOther : ¬ clientText true <+: secondRest)
    (same : clientText first ++ firstRest = clientText second ++ secondRest) :
    first = second ∧ firstRest = secondRest := by
  cases first with
  | false =>
    cases second with
    | false => exact ⟨rfl, same⟩
    | true => exact absurd ⟨_, same.symm⟩ firstOther
  | true =>
    cases second with
    | false => exact absurd ⟨_, same⟩ secondOther
    | true => exact ⟨rfl, List.append_cancel_left same⟩

theorem not_prefix_fileText {paths : List String} {file : String × String}
    (member : file ∈ (fileNames paths.length).zip paths) (count : Nat) (reader : Expression)
    (target : String × String) (rest : List Char) :
    ¬ fileText file <+: joinText count ++ (buildText reader target ++ rest) := by
  obtain ⟨more, begins⟩ := fileText_begins (isFileName_of_mem_zip member)
  rw [begins]
  exact not_prefix_joinText (by decide) (by decide) _ _ _ _ _

theorem agree_of_builtText {first second : Request} (same : builtText first = builtText second) :
    Agree first second := by
  unfold builtText at same
  obtain ⟨insecure, behindClient⟩ := clientText_cancel (not_prefix_clientText _ _ _)
    (not_prefix_clientText _ _ _) same
  obtain ⟨files, behindFiles⟩ := flatMap_cancel
    (fun file member other among =>
      cancels_fileText (isFileName_of_mem_zip member) (isFileName_of_mem_zip among))
    (fun file member => not_prefix_fileText member _ _ _ _)
    (fun file member => not_prefix_fileText member _ _ _ _) behindClient
  have paths : first.body.paths = second.body.paths := by
    have seconds := congrArg (List.map Prod.snd) files
    rwa [List.map_snd_zip (Nat.le_of_eq (length_fileNames _).symm),
      List.map_snd_zip (Nat.le_of_eq (length_fileNames _).symm)] at seconds
  rw [paths] at behindFiles
  obtain ⟨targets, behindTarget⟩ :=
    selfDelimiting_buildText _ _ _ (List.append_cancel_left behindFiles)
  obtain ⟨method, url⟩ := Prod.mk.inj targets
  obtain ⟨credentials, behindCredentials⟩ := flatMap_cancel
    (fun auth _ other _ => selfDelimiting_credentialsText auth other)
    (fun auth _ => not_prefix_credentialsText auth _ _ _)
    (fun auth _ => not_prefix_credentialsText auth _ _ _) behindTarget
  obtain ⟨hosts, behindHost⟩ := flatMap_cancel
    (fun host _ other _ => selfDelimiting_hostText host other)
    (fun host _ => not_prefix_hostText host _ _)
    (fun host _ => not_prefix_hostText host _ _) behindCredentials
  obtain ⟨headers, -⟩ := flatMap_cancel
    (fun header _ other _ => selfDelimiting_headerText header other)
    (fun header _ => not_prefix_headerText header _)
    (fun header _ => not_prefix_headerText header _) behindHost
  have option {Value : Type} {value other : Option Value} (same : value.toList = other.toList) :
      value = other := by
    simpa using congrArg List.head? same
  exact ⟨method, url, insecure, option credentials, paths, option hosts, headers⟩

/-! ### Simple requests -/

/-- The convenience function, or the building of the request, tells the method. -/
theorem simpleText_inj {method otherMethod url otherUrl : String}
    (same : simpleText method url = simpleText otherMethod otherUrl) :
    method = otherMethod ∧ url = otherUrl := by
  unfold simpleText at same
  simp only [buildText_eq, List.append_assoc] at same
  split_ifs at same with get otherGet otherPost otherHead post otherGet otherPost otherHead head
    otherGet otherPost otherHead otherGet otherPost otherHead
  all_goals try exact absurd same (Apart.append_ne (by decide) _ _)
  · exact ⟨get.trans otherGet.symm,
      (selfDelimiting_stringText _ _ (List.append_cancel_left same)).1⟩
  · exact ⟨post.trans otherPost.symm,
      (selfDelimiting_stringText _ _ (List.append_cancel_left same)).1⟩
  · exact ⟨head.trans otherHead.symm,
      (selfDelimiting_stringText _ _ (List.append_cancel_left same)).1⟩
  · obtain ⟨methods, later⟩ := selfDelimiting_stringText _ _ (List.append_cancel_left same)
    exact ⟨methods, (selfDelimiting_stringText _ _ (List.append_cancel_left later)).1⟩

theorem simpleText_begins (method url : String) :
    ∃ more, simpleText method url = "re".toList ++ more := by
  unfold simpleText
  split_ifs
  · exact ⟨_, rfl⟩
  · exact ⟨_, rfl⟩
  · exact ⟨_, rfl⟩
  · rw [buildText_eq, List.append_assoc]
    exact ⟨_, rfl⟩

/-- Behind the building of the request no response is received at once. -/
theorem not_prefix_response (more : List Char) (credentials : List BasicAuth) (hosts : List String)
    (headers : List Header) (rest : List Char) :
    ¬ "resp".toList ++ more <+: credentials.flatMap credentialsText ++
      (hosts.flatMap hostText ++ (headers.flatMap headerText ++ '\n' :: rest)) := by
  refine not_prefix_flatMap (fun auth _ later => ?_)
    (not_prefix_hosts (by decide) (by decide) (by decide) _ _ _ _)
  rw [credentialsText_eq, List.append_assoc]
  exact Apart.not_prefix (by decide) _ _

theorem sendText_begins : ∃ more, sendText false = "resp".toList ++ more := by
  have define (value : Expression) : (Statement.define ["resp", "err"] value).text.toList =
      "resp".toList ++ (", err := " ++ value.text ++ "\n").toList := by
    simp [Statement.text]
  rw [sendText, written_cons, receive, define, List.append_assoc]
  exact ⟨_, rfl⟩

/-- A request that is built explicitly makes a client, opens files, or is followed by settings or a
blank line, so its code is none of a simple request. -/
theorem builtText_ne_simpleText (request : Request) (method url : String) :
    builtText request ≠ simpleText method url := by
  obtain ⟨more, begins⟩ := simpleText_begins method url
  intro same
  unfold builtText at same
  change _ = clientText false ++ simpleText method url at same
  have noClient : ¬ clientText true <+: simpleText method url := by
    obtain ⟨comment, client⟩ := clientText_begins
    rw [client, begins]
    exact Apart.not_prefix (by decide) _ _
  obtain ⟨-, behindClient⟩ := clientText_cancel (not_prefix_clientText _ _ _) noClient same
  change _ = ([] : List (String × String)).flatMap fileText ++ simpleText method url
    at behindClient
  have noFile : ∀ file ∈ (fileNames request.body.paths.length).zip request.body.paths,
      ¬ fileText file <+: simpleText method url := by
    intro file member
    obtain ⟨behind, name⟩ := fileText_begins (isFileName_of_mem_zip member)
    rw [name, begins]
    exact Apart.not_prefix (by decide) _ _
  obtain ⟨files, behindFiles⟩ := flatMap_cancel
    (fun _ _ _ among => absurd among List.not_mem_nil) (List.forall_mem_nil _) noFile behindClient
  have paths : request.body.paths = [] := by
    have lengths := congrArg List.length files
    rw [List.length_zip, length_fileNames, Nat.min_self] at lengths
    exact List.length_eq_zero_iff.1 lengths
  have joined : joinText ([] : List String).length = [] := rfl
  have reader : fileReader ([] : List String).length = .nil := rfl
  rw [paths, joined, reader, List.nil_append] at behindFiles
  unfold simpleText at behindFiles
  split_ifs at behindFiles
  · exact absurd behindFiles (buildText_append_ne (by decide) _ _ _ _)
  · exact absurd behindFiles (buildText_append_ne (by decide) _ _ _ _)
  · exact absurd behindFiles (buildText_append_ne (by decide) _ _ _ _)
  · obtain ⟨-, settings⟩ := selfDelimiting_buildText _ _ _ behindFiles
    obtain ⟨response, receives⟩ := sendText_begins
    rw [receives] at settings
    exact not_prefix_response _ _ _ _ _ ⟨[], (List.append_nil _).trans settings.symm⟩

/-! ### All requests -/

/-- The code for a request without inline text as it is written. -/
theorem toList_text_draft {request : Request} (plain : request.body.payload? = none)
    (options : RenderOptions) (typeWriter : TypeWriter) :
    (draft options typeWriter request).text.toList =
      if request.isSimple then simpleText request.method request.url else builtText request := by
  rw [Draft.text, statements_draft]
  split_ifs
  · exact toList_text_draftSimple _ _
  · exact toList_text_draftBuilt plain _

/-- Requests that say nothing beyond their method and their address agree if these do. -/
theorem agree_of_isSimple {first second : Request} (firstSimple : first.isSimple = true)
    (secondSimple : second.isSimple = true) (method : first.method = second.method)
    (url : first.url = second.url) : Agree first second := by
  have said {request : Request} (simple : request.isSimple = true) :
      request.headers = {} ∧ request.basicAuth = none ∧ request.insecure = false := by
    simp only [Request.isSimple, Headers.isEmpty, Bool.and_eq_true, List.isEmpty_iff,
      Option.isNone_iff_eq_none, Bool.not_eq_true'] at simple
    obtain ⟨⟨⟨entries, -⟩, credentials⟩, insecure⟩ := simple
    exact ⟨congrArg Headers.mk entries, credentials, insecure⟩
  obtain ⟨firstHeaders, firstCredentials, firstInsecure⟩ := said firstSimple
  obtain ⟨secondHeaders, secondCredentials, secondInsecure⟩ := said secondSimple
  exact {
    method := method
    url := url
    insecure := firstInsecure.trans secondInsecure.symm
    credentials := firstCredentials.trans secondCredentials.symm
    files := by rw [body_of_isSimple firstSimple, body_of_isSimple secondSimple]
    host := by rw [firstHeaders, secondHeaders]
    headers := by rw [firstHeaders, secondHeaders] }

/-- Requests without inline text whose code is the same agree in all that the code says: nothing is
dropped, repeated, put in another place or taken for something else. -/
theorem agree_of_render {options : RenderOptions} {typeWriter : TypeWriter}
    {first second : Request} (fragment : options.standalone = false)
    (firstPlain : first.body.payload? = none) (secondPlain : second.body.payload? = none)
    (same : (render options typeWriter first).code = (render options typeWriter second).code) :
    Agree first second := by
  have texts : (draft options typeWriter first).text.toList =
      (draft options typeWriter second).text.toList := by
    unfold render at same
    simp only [fragment, Bool.false_eq_true, if_false] at same
    have characters := congrArg String.toList same
    rw [String.toList_append, String.toList_append] at characters
    exact List.append_cancel_left characters
  rw [toList_text_draft firstPlain, toList_text_draft secondPlain] at texts
  split_ifs at texts with firstSimple secondSimple secondSimple
  · obtain ⟨method, url⟩ := simpleText_inj texts
    exact agree_of_isSimple firstSimple secondSimple method url
  · exact absurd texts.symm (builtText_ne_simpleText _ _ _)
  · exact absurd texts (builtText_ne_simpleText _ _ _)
  · exact agree_of_builtText texts

/-- A host among the headers is written in front of them, wherever it stands. -/
theorem agree_of_render_host_last :
    ∃ first second : Request, first ≠ second ∧
      (render {} typeDefinition first).code = (render {} typeDefinition second).code ∧
      Agree first second := by
  let hostFirst : Request :=
    ⟨"a", "GET", ⟨[⟨"Host", "b"⟩, ⟨"Accept", "$c"⟩]⟩, .files ["d"], .raw, none, false⟩
  let hostLast : Request :=
    ⟨"a", "GET", ⟨[⟨"Accept", "$c"⟩, ⟨"Host", "b"⟩]⟩, .files ["d"], .raw, none, false⟩
  have texts : (draft {} typeDefinition hostFirst).text =
      (draft {} typeDefinition hostLast).text := by
    refine String.toList_inj.1 ?_
    rw [toList_text_draft rfl, toList_text_draft rfl]
    rfl
  have same : (render {} typeDefinition hostFirst).code =
      (render {} typeDefinition hostLast).code :=
    congrArg (bannerText ++ ·) texts
  exact ⟨hostFirst, hostLast, by decide, same, agree_of_render rfl rfl rfl same⟩

end CurlScribe.Go
