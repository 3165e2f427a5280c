/-
This file compares the name that is given to the type of a JSON body with the identifiers of
the code around it. The name is checked against lists that are kept by hand, while the
identifiers come from the places that write code: variables, among them one for each file,
packages, types of struct fields, and the predeclared names for no value and for truth. The
last two are missing from the lists. A type may be called `nil`, a name that the code for
every request uses, or `true`, which the code uses if it does not verify certificates; no
other name that is accepted stands in the code.
-/

import CurlScribe.Proofs.Imports

namespace CurlScribe.Go

/-! ### Identifiers -/

namespace Expression

/-- The expression is the given name. -/
def isName (name : String) : Expression → Bool
  | .name identifier => identifier == name
  | _ => false

mutual

/-- The identifiers without a qualifier in an expression, where the name of a package is one. The
given type does not count where a value of it is made; nor do fields and methods, which are found
by their operand and not in scope. -/
@[simp] def identifiers (type : String) : Expression → List String
  | .name identifier => [identifier]
  | .qualified package _ => [package.qualifier]
  | .select operand _ => operand.identifiers type
  | .literal _ => []
  | .call function arguments => function.identifiers type ++ identifiersOf type arguments
  | .keyed _ value => value.identifiers type
  | .composite made _ elements =>
    (if made.isName type then [] else made.identifiers type) ++ identifiersOf type elements
  | .address operand => operand.identifiers type

/-- The identifiers in expressions. -/
@[simp] def identifiersOf (type : String) : List Expression → List String
  | [] => []
  | expression :: rest => expression.identifiers type ++ identifiersOf type rest

end

end Expression

/-- The identifiers that a statement declares or refers to, apart from the given type itself. -/
@[simp] def Statement.identifiers (type : String) : Statement → List String
  | .define names value => names ++ value.identifiers type
  | .assign target value => target.identifiers type ++ value.identifiers type
  | .perform call | .deferred call => call.identifiers type
  | .checkError => ["err", "nil"]
  | .declareType name _ => if name = type then [] else [name]
  | .comment _ | .blank => []

/-- The identifiers of a draft, apart from the given type itself. -/
def Draft.identifiers (type : String) (draft : Draft) : List String :=
  draft.statements.flatMap (Statement.identifiers type)

namespace GoType

mutual

/-- The identifiers in a type as it is written. The name of a field is not one of them. -/
def identifiers : GoType → List String
  | .any => []
  | .slice element => element.identifiers
  | .struct fields => identifiersOf fields
  | type => [type.text 0]

/-- The identifiers in the types of fields. -/
def identifiersOf : List (Field GoType) → List String
  | [] => []
  | ⟨_, type, _⟩ :: rest => type.identifiers ++ identifiersOf rest

end

end GoType

section

variable {type : String}

namespace Expression

theorem mem_words_of_isName {name word : String} {expression : Expression}
    (named : expression.isName name = true) :
    word ∈ expression.references.map Reference.word ↔ word = name := by
  cases expression with
  | name identifier =>
    obtain rfl : identifier = name := by simpa [isName] using named
    simp [Reference.word]
  | _ => simp [isName] at named

mutual

/-- Nothing but the type is left out of what an expression refers to. -/
theorem mem_identifiers_iff {word : String} (other : word ≠ type) : (expression : Expression) →
    (word ∈ expression.identifiers type ↔ word ∈ expression.references.map Reference.word)
  | .name identifier => by simp [Reference.word]
  | .qualified package member => by simp [Reference.word]
  | .select operand _ => mem_identifiers_iff other operand
  | .literal token => by simp
  | .call function arguments => by
    rw [identifiers, references, List.map_append, List.mem_append, List.mem_append,
      mem_identifiers_iff other function, mem_identifiersOf_iff other arguments]
  | .keyed _ value => mem_identifiers_iff other value
  | .composite made _ elements => by
    rw [identifiers, references, List.map_append, List.mem_append, List.mem_append,
      mem_identifiersOf_iff other elements]
    split_ifs with named
    · rw [mem_words_of_isName named]
      simp [other]
    · rw [mem_identifiers_iff other made]
  | .address operand => mem_identifiers_iff other operand

theorem mem_identifiersOf_iff {word : String} (other : word ≠ type) :
    (expressions : List Expression) →
    (word ∈ identifiersOf type expressions ↔
      word ∈ (referencesOf expressions).map Reference.word)
  | [] => Iff.rfl
  | expression :: rest => by
    rw [identifiersOf, referencesOf, List.map_append, List.mem_append, List.mem_append,
      mem_identifiers_iff other expression, mem_identifiersOf_iff other rest]

end

end Expression

/-- Apart from the type, the identifiers are what a statement declares and what it refers to. -/
theorem Statement.mem_identifiers_iff {word : String} (other : word ≠ type)
    (statement : Statement) :
    word ∈ statement.identifiers type ↔
      word ∈ statement.declares ∨ word ∈ statement.references.map Reference.word := by
  cases statement with
  | define names value => simp [Expression.mem_identifiers_iff other]
  | assign target value => simp [Expression.mem_identifiers_iff other]
  | perform call => simp [Expression.mem_identifiers_iff other]
  | deferred call => simp [Expression.mem_identifiers_iff other]
  | checkError => simp [Reference.word]
  | declareType name definition =>
    rw [identifiers]
    split_ifs with same
    · simp [same, other]
    · simp
  | comment note => simp
  | blank => simp

/-! ### Identifiers of drafts -/

namespace Expression

@[simp] theorem identifiers_nil : nil.identifiers type = ["nil"] := rfl

@[simp] theorem identifiers_callOf (package : Package) (function : String)
    (arguments : List Expression) :
    (callOf package function arguments).identifiers type =
      package.qualifier :: identifiersOf type arguments := rfl

@[simp] theorem identifiers_callOn (receiver method : String) (arguments : List Expression) :
    (callOn receiver method arguments).identifiers type =
      receiver :: identifiersOf type arguments := rfl

@[simp] theorem identifiersOf_names (names : List String) :
    identifiersOf type (names.map .name) = names := by
  induction names with
  | nil => rfl
  | cons name later inductionHypothesis =>
    show name :: identifiersOf type (later.map .name) = _
    rw [inductionHypothesis]

/-- The expression for a string names at most the package that expands variables. -/
@[simp] theorem mem_identifiers_ofString (name value : String) :
    name ∈ (ofString value).identifiers type ↔ envReference value = .live ∧ name = "os" := by
  unfold ofString
  split <;> simp_all [Package.qualifier]

end Expression

namespace Draft

@[simp] theorem identifiers_empty : ({} : Draft).identifiers type = [] := rfl

@[simp] theorem identifiers_append (first second : Draft) :
    (first ++ second).identifiers type = first.identifiers type ++ second.identifiers type :=
  List.flatMap_append

@[simp] theorem identifiers_emit (statements : List Statement) :
    (emit statements).identifiers type = statements.flatMap (Statement.identifiers type) := rfl

@[simp] theorem identifiers_require (packages : List Package) :
    (require packages).identifiers type = [] := rfl

@[simp] theorem identifiers_requireFor (values : List String) :
    (requireFor values).identifiers type = [] := rfl

@[simp] theorem identifiers_warn (warning : Warning) : (warn warning).identifiers type = [] := rfl

@[simp] theorem identifiers_concat (drafts : List Draft) :
    (concat drafts).identifiers type = drafts.flatMap (identifiers type) := by
  unfold identifiers
  rw [statements_concat, List.flatMap_assoc]

end Draft

/-! ### Names of the code -/

/-- The names in code besides those of files: variables, packages, and the name for no value. -/
def codeNames : List String :=
  "nil" :: localVariables ++ Package.inOrder.map Package.qualifier

/-- The name stands for something in the code for a request, other than for truth. -/
def IsCodeName (name : String) : Prop :=
  name ∈ codeNames ∨ IsFileName name

instance (name : String) : Decidable (IsCodeName name) :=
  inferInstanceAs (Decidable (_ ∨ _))

/-- A name that can be given to a type is `nil` if it stands in the code. -/
theorem eq_nil_of_isCodeName {name : String} (valid : isTypeName name = true)
    (code : IsCodeName name) : name = "nil" := by
  have taken : ∀ other ∈ codeNames, other = "nil" ∨ other ∈ takenNames := by decide
  rcases code with fixed | file
  · rcases taken name fixed with same | inList
    · exact same
    · exact absurd rfl (ne_of_isTypeName valid name inList)
  · exact absurd file (not_isFileName_of_isTypeName valid)

/-- Every identifier of the draft, apart from the type, stands for something in the code. -/
def Draft.KeepsNames (type : String) (draft : Draft) : Prop :=
  ∀ name ∈ draft.identifiers type, IsCodeName name

namespace Draft.KeepsNames

theorem append {first second : Draft} (inFirst : first.KeepsNames type)
    (inSecond : second.KeepsNames type) : (first ++ second).KeepsNames type := by
  intro name member
  rw [identifiers_append] at member
  exact (List.mem_append.1 member).elim (inFirst name) (inSecond name)

theorem concat {drafts : List Draft} (each : ∀ draft ∈ drafts, draft.KeepsNames type) :
    (Draft.concat drafts).KeepsNames type := by
  intro name member
  rw [identifiers_concat] at member
  obtain ⟨draft, inDrafts, inDraft⟩ := List.mem_flatMap.1 member
  exact each draft inDrafts name inDraft

end Draft.KeepsNames

theorem isCodeName_of_mem {name : String} (fixed : name ∈ codeNames) : IsCodeName name :=
  Or.inl fixed

theorem isCodeName_of_isFileName {name : String} (file : IsFileName name) : IsCodeName name :=
  Or.inr file

/-! ### Bodies -/

theorem keepsNames_writeDocument (definition : String) :
    (writeDocument type definition).KeepsNames type := by
  simp (disch := decide) [Draft.KeepsNames, writeDocument, Expression.isName, isCodeName_of_mem]

theorem keepsNames_writeString (encoding : BodyEncoding) (content : String) :
    (writeString encoding content).KeepsNames type := by
  simp (disch := decide) [Draft.KeepsNames, writeString, isCodeName_of_mem]

theorem keepsNames_writeField (field : String × String) : (writeField field).KeepsNames type := by
  simp (disch := decide) [Draft.KeepsNames, writeField, isCodeName_of_mem, or_imp, forall_and]

theorem keepsNames_writeFile {file : String} (named : IsFileName file) (path : String) :
    (writeFile file path).KeepsNames type := by
  simp (disch := decide) [Draft.KeepsNames, writeFile, isCodeName_of_mem,
    isCodeName_of_isFileName named, or_imp, forall_and]

theorem keepsNames_writeForm (content : String) : (writeForm content).KeepsNames type := by
  have fields : (Draft.concat ((Text.formFields content).map writeField)).KeepsNames type := by
    refine Draft.KeepsNames.concat fun draft member => ?_
    obtain ⟨field, -, rfl⟩ := List.mem_map.1 member
    exact keepsNames_writeField field
  refine Draft.KeepsNames.append (Draft.KeepsNames.append ?_ fields) ?_
  · simp (disch := decide) [Draft.KeepsNames, Expression.isName, isCodeName_of_mem]
  · simp (disch := decide) [Draft.KeepsNames, isCodeName_of_mem]

theorem keepsNames_writePayload (style : BodyStyle) (payload : Payload) :
    (writePayload style payload).KeepsNames style.typeName := by
  have blank : (Draft.emit [.blank]).KeepsNames style.typeName := by
    simp [Draft.KeepsNames]
  cases payload with
  | json content =>
    refine Draft.KeepsNames.append ?_ blank
    cases style.typeWriter content style.typeName with
    | none =>
      have warning : (Draft.warn .bodyNotJson).KeepsNames style.typeName := nofun
      exact warning.append (keepsNames_writeString style.encoding content)
    | some definition => exact keepsNames_writeDocument definition
  | form content => exact (keepsNames_writeForm content).append blank
  | text content => exact (keepsNames_writeString style.encoding content).append blank

theorem keepsNames_joinReaders (type : String) {readers : List String}
    (known : ∀ reader ∈ readers, IsCodeName reader) :
    (joinReaders readers).1.KeepsNames type ∧
      ∀ name ∈ (joinReaders readers).2.identifiers type, IsCodeName name := by
  unfold joinReaders
  split
  · exact ⟨nofun, List.forall_mem_singleton.2 (by decide)⟩
  · exact ⟨nofun, known⟩
  · refine ⟨?_, List.forall_mem_singleton.2 (by decide)⟩
    simpa (disch := decide) [Draft.KeepsNames, isCodeName_of_mem] using known

theorem isCodeName_of_mem_bodyReaders {body : Body} {reader : String}
    (member : reader ∈ bodyReaders body) : IsCodeName reader := by
  rcases List.mem_append.1 member with text | file
  · obtain ⟨payload, -, rfl⟩ := List.mem_map.1 text
    decide
  · exact isCodeName_of_isFileName (isFileName_of_mem file)

theorem keepsNames_writeBody (style : BodyStyle) (body : Body) :
    (writeBody style body).1.KeepsNames style.typeName ∧
      ∀ name ∈ (writeBody style body).2.identifiers style.typeName, IsCodeName name := by
  have known : ∀ reader ∈ bodyReaders body, IsCodeName reader :=
    fun reader member => isCodeName_of_mem_bodyReaders member
  obtain ⟨joined, reader⟩ := keepsNames_joinReaders style.typeName known
  refine ⟨((Draft.KeepsNames.concat ?_).append (Draft.KeepsNames.concat ?_)).append joined, reader⟩
  · intro draft member
    obtain ⟨payload, -, rfl⟩ := List.mem_map.1 member
    exact keepsNames_writePayload style payload
  · intro draft member
    obtain ⟨file, among, rfl⟩ := List.mem_map.1 member
    exact keepsNames_writeFile (isFileName_of_mem (List.of_mem_zip among).1) file.2

/-! ### Requests -/

theorem keepsNames_draftSimple (method url : String) :
    (draftSimple method url).KeepsNames type := by
  unfold draftSimple
  dsimp only
  split_ifs
  all_goals
    simp (disch := decide) [Draft.KeepsNames, receive, build, sendWith, defaultClient, closing,
      isCodeName_of_mem, or_imp, forall_and]

/-- The client that does not verify certificates is the one part that names truth. -/
theorem mem_identifiers_writeInsecureClient {name : String}
    (member : name ∈ writeInsecureClient.identifiers type) : IsCodeName name ∨ name = "true" := by
  have among : ∀ name ∈ ["tr", "http", "tls", "true", "client", "http", "tr"],
      IsCodeName name ∨ name = "true" := by
    decide
  refine among name ?_
  simpa [writeInsecureClient, Expression.isName, Package.qualifier] using member

theorem keepsNames_writeCredentials (auth : BasicAuth) :
    (writeCredentials auth).KeepsNames type := by
  simp (disch := decide) [Draft.KeepsNames, writeCredentials, isCodeName_of_mem, or_imp, forall_and]

theorem keepsNames_writeHeaders (headers : Headers) : (writeHeaders headers).KeepsNames type := by
  refine Draft.KeepsNames.append (Draft.KeepsNames.concat ?_) (Draft.KeepsNames.concat ?_)
  · intro draft member
    obtain ⟨host, -, rfl⟩ := List.mem_map.1 member
    simp (disch := decide) [Draft.KeepsNames, writeHost, isCodeName_of_mem, or_imp, forall_and]
  · intro draft member
    obtain ⟨header, -, rfl⟩ := List.mem_map.1 member
    simp (disch := decide) [Draft.KeepsNames, writeHeader, isCodeName_of_mem, or_imp, forall_and]

theorem keepsNames_build {reader : Expression}
    (known : ∀ name ∈ reader.identifiers type, IsCodeName name) (method url : String) :
    (Draft.emit [build method url reader, .checkError]).KeepsNames type := by
  simpa (disch := decide) [Draft.KeepsNames, build, isCodeName_of_mem, or_imp, forall_and]
    using known

theorem keepsNames_send (insecure : Bool) :
    (Draft.emit ([.blank, receive (sendWith (sendingClient insecure))] ++ closing)).KeepsNames
      type := by
  cases insecure
  all_goals
    simp (disch := decide) [Draft.KeepsNames, receive, sendWith, sendingClient, defaultClient,
      closing, isCodeName_of_mem, or_imp, forall_and]

end

/-- Every identifier of the code for a request, apart from the type, stands for something in it, or
for truth if certificates are not verified. -/
theorem mem_identifiers_draftBuilt (style : BodyStyle) (request : Request) {name : String}
    (member : name ∈ (draftBuilt style request).identifiers style.typeName) :
    IsCodeName name ∨ name = "true" ∧ request.insecure = true := by
  obtain ⟨body, reader⟩ := keepsNames_writeBody style request.body
  have credentials : (Draft.concat (request.basicAuth.toList.map writeCredentials)).KeepsNames
      style.typeName := by
    refine Draft.KeepsNames.concat fun draft member => ?_
    obtain ⟨auth, -, rfl⟩ := List.mem_map.1 member
    exact keepsNames_writeCredentials auth
  unfold draftBuilt at member
  simp only [Draft.identifiers_append, Draft.identifiers_require, Draft.identifiers_requireFor,
    List.nil_append, List.append_nil, List.mem_append, or_assoc] at member
  rcases member with client | inBody | inBuild | inCredentials | inHeaders | inSend
  · split_ifs at client with insecure
    · exact (mem_identifiers_writeInsecureClient client).imp_right fun truth => ⟨truth, insecure⟩
    · cases client
  · exact Or.inl (body name inBody)
  · exact Or.inl (keepsNames_build reader _ _ name inBuild)
  · exact Or.inl (credentials name inCredentials)
  · exact Or.inl (keepsNames_writeHeaders _ name inHeaders)
  · exact Or.inl (keepsNames_send request.insecure name inSend)

section

variable (options : RenderOptions) (typeWriter : TypeWriter) (request : Request)

theorem mem_identifiers_draft {name : String}
    (member : name ∈ (draft options typeWriter request).identifiers options.effectiveTypeName) :
    IsCodeName name ∨ name = "true" ∧ request.insecure = true := by
  rw [Draft.identifiers, statements_draft] at member
  split_ifs at member
  · exact Or.inl (keepsNames_draftSimple request.method request.url name member)
  · exact mem_identifiers_draftBuilt ⟨typeWriter, _, request.encoding⟩ request member

/-- The code for every request checks for errors, so it names no value. -/
theorem nil_mem_identifiers_draft (type : String) :
    "nil" ∈ (draft options typeWriter request).identifiers type := by
  have checks : .checkError ∈ (draft options typeWriter request).statements := by
    rw [statements_draft]
    split_ifs
    · simp [draftSimple, closing]
    · simp [statements_draftBuilt, sendingStatements]
  exact List.mem_flatMap.2 ⟨_, checks, List.mem_cons_of_mem _ List.mem_cons_self⟩

theorem true_mem_identifiers_draft (insecure : request.insecure = true) (type : String) :
    "true" ∈ (draft options typeWriter request).identifiers type := by
  have built : ¬ request.isSimple = true := by
    simp [Request.isSimple, insecure]
  rw [Draft.identifiers, statements_draft, if_neg built, statements_draftBuilt,
    List.flatMap_append]
  refine List.mem_append_left _ ?_
  simp [clientStatements, insecure, writeInsecureClient]

end

/-! ### Types of fields -/

mutual

/-- The identifiers in a type are taken. -/
theorem GoType.mem_takenNames : (type : GoType) → ∀ name ∈ type.identifiers, name ∈ takenNames
  | .any => nofun
  | .boolean | .string | .int | .int64 | .float64 => by decide
  | .slice element => GoType.mem_takenNames element
  | .struct fields => GoType.mem_takenNames_of_fields fields

theorem GoType.mem_takenNames_of_fields : (fields : List (Field GoType)) →
    ∀ name ∈ GoType.identifiersOf fields, name ∈ takenNames
  | [] => nofun
  | ⟨_, type, _⟩ :: rest => List.forall_mem_append.2
    ⟨GoType.mem_takenNames type, GoType.mem_takenNames_of_fields rest⟩

end

/-! ### Accepted names -/

/-- A name that can be given to a type is no keyword and no identifier in the types of fields. It
stands among the other identifiers of the code exactly if it is `nil`, or if it is `true` and the
code does not verify certificates. -/
theorem typeName_mem_identifiers_iff (options : RenderOptions) (typeWriter : TypeWriter)
    (request : Request) (valid : isTypeName options.typeName = true) :
    options.typeName ∉ keywords ∧ (∀ type : GoType, options.typeName ∉ type.identifiers) ∧
      (options.typeName ∈ (draft options typeWriter request).identifiers options.typeName ↔
        options.typeName = "nil" ∨ options.typeName = "true" ∧ request.insecure = true) := by
  have effective : options.effectiveTypeName = options.typeName := if_pos valid
  refine ⟨?_, fun type member => ?_, fun member => ?_, ?_⟩
  · simp only [isTypeName, Bool.and_eq_true, Bool.not_eq_true', List.contains_eq_mem,
      decide_eq_false_iff_not] at valid
    exact valid.1.2
  · exact ne_of_isTypeName valid _ (GoType.mem_takenNames type _ member) rfl
  · rw [← effective] at member
    rcases mem_identifiers_draft options typeWriter request member with code | truth
    · rw [effective] at code
      exact Or.inl (eq_nil_of_isCodeName valid code)
    · rw [effective] at truth
      exact Or.inr truth
  · rintro (none | ⟨truth, insecure⟩)
    · exact none ▸ nil_mem_identifiers_draft options typeWriter request options.typeName
    · exact truth ▸ true_mem_identifiers_draft options typeWriter request insecure options.typeName

/-- The code for a JSON document, sent without verifying certificates, as a type of the given
name. -/
def documentDraft (typeName : String) : Draft :=
  draft { typeName := typeName } typeDefinition
    { url := "example.com", method := "POST", body := .payload (.json "1"), insecure := true }

/-- An accepted name apart from the code. -/
theorem item_not_mem_identifiers :
    isTypeName "Item" = true ∧ "Item" ∉ (documentDraft "Item").identifiers "Item" := by
  have valid : isTypeName "Item" = true := by decide +kernel
  refine ⟨valid, fun member => ?_⟩
  have clash := (typeName_mem_identifiers_iff { typeName := "Item" } typeDefinition _ valid).2.2.1
    member
  revert clash
  decide

/-- Two names are accepted although the code that declares the type refers to them. -/
theorem nil_mem_identifiers :
    (isTypeName "nil" = true ∧
      "nil" ∈ (documentDraft "nil").statements.flatMap Statement.declares ∧
      "nil" ∈ (documentDraft "nil").identifiers "nil") ∧
    isTypeName "true" = true ∧
      "true" ∈ (documentDraft "true").statements.flatMap Statement.declares ∧
      "true" ∈ (documentDraft "true").identifiers "true" := by
  decide +kernel

end CurlScribe.Go
