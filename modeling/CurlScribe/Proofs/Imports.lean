/-
This file proves that the import block matches the code. Packages are asked for at the
places that write code, apart from the statements that refer to them, and a place asks for
the package that expands variables only if one of its strings has a variable. For each
package every part of a draft asks for it exactly if the part refers to it; only the package
for requests is asked for once and for all parts.
-/

import CurlScribe.Proofs.Scoping

namespace CurlScribe.Go

/-! ### Packages of drafts -/

/-- The members of a package that generated code refers to. -/
def Package.members : Package → List String
  | .bytes => ["NewReader"]
  | .tls => ["Config"]
  | .json => ["Marshal"]
  | .io => ["MultiReader"]
  | .http => ["Get", "Post", "Head", "NewRequest", "DefaultClient", "Transport", "Client"]
  | .url => ["Values"]
  | .os => ["Open", "ExpandEnv"]
  | .strings => ["NewReader"]

namespace Draft

/-- A draft asks for a package, unless it is the one for requests, exactly if it refers to a member
of it, and it refers to known members only. -/
structure Accounts (package : Package) (draft : Draft) : Prop where
  required : package ≠ .http → (package ∈ draft.packages ↔
    ∃ name, .member package name ∈ draft.statements.flatMap Statement.references)
  known : ∀ name, .member package name ∈ draft.statements.flatMap Statement.references →
    name ∈ package.members

theorem append_assoc (first second third : Draft) :
    first ++ second ++ third = first ++ (second ++ third) := by
  show Draft.mk _ _ _ = Draft.mk _ _ _
  simp only [statements_append, packages_append, warnings_append, List.append_assoc]

end Draft

open Draft

section

variable {package : Package}

theorem Draft.Accounts.append {first second : Draft} (inFirst : first.Accounts package)
    (inSecond : second.Accounts package) : (first ++ second).Accounts package where
  required := by
    intro other
    simp only [packages_append, statements_append, List.flatMap_append, List.mem_append,
      inFirst.required other, inSecond.required other, exists_or]
  known := by
    intro name refers
    rw [statements_append, List.flatMap_append, List.mem_append] at refers
    exact refers.elim (inFirst.known name) (inSecond.known name)

/-- Nothing is asked for by a draft without statements that refer to a package. -/
theorem accounts_empty : ({} : Draft).Accounts package where
  required := by simp
  known := by simp

theorem accounts_concat {drafts : List Draft}
    (each : ∀ draft ∈ drafts, draft.Accounts package) : (concat drafts).Accounts package := by
  induction drafts with
  | nil => exact accounts_empty
  | cons draft later inductionHypothesis =>
    obtain ⟨first, others⟩ := List.forall_mem_cons.1 each
    exact first.append (inductionHypothesis others)

/-- Statements whose only package is the one that expands the variables in some strings. -/
theorem accounts_strings {values : List String} {statements : List Statement}
    (refers : ∀ name, .member package name ∈ statements.flatMap Statement.references ↔
      (package = .os ∧ ∃ value ∈ values, envReference value = .live) ∧ name = "ExpandEnv") :
    (requireFor values ++ emit statements).Accounts package where
  required := by
    simp [refers]
  known := by
    intro name used
    simp only [requireFor, statements_append, statements_require, statements_emit,
      List.nil_append, refers] at used
    obtain ⟨⟨rfl, -⟩, rfl⟩ := used
    decide

/-- The expressions for strings refer to the expansion of variables if one of them needs it. -/
theorem mem_referencesOf_strings (reference : Reference) (values : List String) :
    reference ∈ Expression.referencesOf (values.map .ofString) ↔
      (∃ value ∈ values, envReference value = .live) ∧ reference = .member .os "ExpandEnv" := by
  induction values with
  | nil => simp
  | cons value later inductionHypothesis =>
    simp only [List.map_cons, Expression.referencesOf, List.mem_append,
      Expression.mem_references_ofString, inductionHypothesis, List.exists_mem_cons_iff,
      or_and_right]

/-- A call of a method with strings as arguments. -/
theorem accounts_perform (method : Expression)
    (unqualified : ∀ name, .member package name ∉ method.references) (values : List String) :
    (requireFor values ++ emit [.perform (.call method (values.map .ofString))]).Accounts
      package := by
  refine accounts_strings fun name => ?_
  simp only [List.flatMap_singleton, Statement.references, Expression.references, List.mem_append,
    unqualified name, false_or, mem_referencesOf_strings, Reference.member.injEq]
  tauto

/-! ### Bodies -/

theorem accounts_writeDocument (typeName definition : String) :
    (writeDocument typeName definition).Accounts package where
  required := by
    cases package <;> simp [writeDocument]
  known := by
    cases package <;> simp [writeDocument, Package.members]

theorem accounts_writeString (encoding : BodyEncoding) (content : String) :
    (writeString encoding content).Accounts package where
  required := by
    cases package <;> simp [writeString]
  known := by
    cases package <;> simp [writeString, Package.members]

theorem accounts_writeForm (content : String) : (writeForm content).Accounts package := by
  have fields : (concat ((Text.formFields content).map writeField)).Accounts package := by
    refine accounts_concat fun draft member => ?_
    obtain ⟨field, -, rfl⟩ := List.mem_map.1 member
    exact accounts_perform (.select (.name "params") "Add") (by simp) [field.1, field.2]
  unfold writeForm
  generalize concat ((Text.formFields content).map writeField) = added at fields ⊢
  constructor
  · intro other
    cases package <;> simp [fields.required other]
  · intro name refers
    have cases : (package = .url ∧ name = "Values") ∨
        .member package name ∈ added.statements.flatMap Statement.references ∨
        (package = .strings ∧ name = "NewReader") := by
      simpa using refers
    rcases cases with ⟨rfl, rfl⟩ | inField | ⟨rfl, rfl⟩
    · decide
    · exact fields.known name inField
    · decide

theorem accounts_writePayload (style : BodyStyle) (payload : Payload) :
    (writePayload style payload).Accounts package := by
  have blank : (emit [.blank]).Accounts package := by
    constructor <;> simp
  cases payload with
  | json content =>
    refine Accounts.append ?_ blank
    cases style.typeWriter content style.typeName with
    | none =>
      have warning : (warn .bodyNotJson).Accounts package := by
        constructor <;> simp
      exact warning.append (accounts_writeString style.encoding content)
    | some definition => exact accounts_writeDocument style.typeName definition
  | form content => exact (accounts_writeForm content).append blank
  | text content => exact (accounts_writeString style.encoding content).append blank

theorem accounts_writeFile (file path : String) : (writeFile file path).Accounts package where
  required := by
    cases package <;> simp [writeFile]
  known := by
    cases package <;> simp [writeFile, Package.members]

theorem accounts_joinReaders (readers : List String) :
    (joinReaders readers).1.Accounts package := by
  rcases readers with - | ⟨first, - | ⟨second, later⟩⟩
  · exact accounts_empty
  · exact accounts_empty
  · constructor <;> cases package <;> simp [joinReaders, Package.members]

theorem accounts_writeBody (style : BodyStyle) (body : Body) :
    (writeBody style body).1.Accounts package := by
  refine ((accounts_concat ?_).append (accounts_concat ?_)).append (accounts_joinReaders _)
  · intro draft member
    obtain ⟨payload, -, rfl⟩ := List.mem_map.1 member
    exact accounts_writePayload style payload
  · intro draft member
    obtain ⟨file, -, rfl⟩ := List.mem_map.1 member
    exact accounts_writeFile file.1 file.2

/-! ### Requests -/

theorem accounts_writeInsecureClient : writeInsecureClient.Accounts package := by
  constructor <;> cases package <;> simp [writeInsecureClient, Package.members]

theorem accounts_writeHeaders (headers : Headers) : (writeHeaders headers).Accounts package := by
  refine (accounts_concat ?_).append (accounts_concat ?_)
  · intro draft member
    obtain ⟨host, -, rfl⟩ := List.mem_map.1 member
    refine accounts_strings fun name => ?_
    simp only [List.flatMap_singleton, Statement.references, Expression.references, List.mem_append,
      List.mem_singleton, reduceCtorEq, false_or, Expression.mem_references_ofString,
      Reference.member.injEq, exists_eq_left]
    tauto
  · intro draft member
    obtain ⟨header, -, rfl⟩ := List.mem_map.1 member
    exact accounts_perform (.select (.select (.name "req") "Header") "Set") (by simp)
      [header.name, header.value]

theorem accounts_draftSimple (method url : String) : (draftSimple method url).Accounts package := by
  unfold draftSimple
  dsimp only
  split_ifs
  all_goals
    constructor
    · cases package <;>
        simp [receive, build, sendWith, defaultClient, closing, exists_or, or_comm]
    · cases package <;>
        simp [receive, build, sendWith, defaultClient, closing, Package.members, or_imp, forall_and]

/-- The request is built from the strings of its method and address, and from a reader that refers
to no package. -/
theorem accounts_build {reader : Expression}
    (unqualified : ∀ name, .member package name ∉ reader.references) (method url : String) :
    (requireFor [method, url] ++ emit [build method url reader, .checkError]).Accounts package := by
  constructor
  · cases package <;> simp [build, unqualified, exists_or]
  · cases package <;> simp [build, unqualified, Package.members, or_imp, forall_and]

theorem accounts_send (insecure : Bool) :
    (emit ([.blank, receive (sendWith (sendingClient insecure))] ++ closing)).Accounts package := by
  cases insecure
  all_goals
    constructor <;> cases package <;>
      simp [receive, sendWith, sendingClient, defaultClient, closing, Package.members]

theorem unqualified_joinReaders (readers : List String) (name : String) :
    .member package name ∉ (joinReaders readers).2.references := by
  rcases readers with - | ⟨first, - | ⟨second, later⟩⟩ <;> simp [joinReaders]

theorem accounts_draftBuilt (style : BodyStyle) (request : Request) :
    (draftBuilt style request).Accounts package := by
  have http : (require [.http]).Accounts package := by
    constructor <;> cases package <;> simp
  have client : (if request.insecure then writeInsecureClient else {}).Accounts package := by
    split_ifs
    · exact accounts_writeInsecureClient
    · exact accounts_empty
  have building : (requireFor [request.method, request.url] ++ emit
      [build request.method request.url (writeBody style request.body).2, .checkError]).Accounts
        package :=
    accounts_build (unqualified_joinReaders _) request.method request.url
  have credentials : (concat (request.basicAuth.toList.map writeCredentials)).Accounts package := by
    refine accounts_concat fun draft member => ?_
    obtain ⟨auth, -, rfl⟩ := List.mem_map.1 member
    exact accounts_perform (.select (.name "req") "SetBasicAuth") (by simp)
      [auth.user, auth.password]
  have together := http.append (client.append ((accounts_writeBody style request.body).append
    (building.append (credentials.append ((accounts_writeHeaders request.headers).append
      (accounts_send request.insecure))))))
  unfold sendingClient at together
  unfold draftBuilt
  simpa only [Draft.append_assoc] using together

/-- The code for a request accounts for each package. -/
theorem accounts_draft (options : RenderOptions) (typeWriter : TypeWriter) (request : Request) :
    (draft options typeWriter request).Accounts package := by
  have warning : (warn .typeNameUnusable).Accounts package := by
    constructor <;> simp
  unfold draft
  split_ifs
  · exact accounts_draftSimple _ _
  · exact accounts_empty.append (accounts_draftBuilt _ _)
  · exact warning.append (accounts_draftBuilt _ _)

end

/-- Imports match statements: a package is imported exactly if a statement uses its qualifier, and
the imports are listed by path without repetition. -/
structure ImportsMatch (imports : List Package) (statements : List Statement) : Prop where
  exact : ∀ package, package ∈ imports ↔
    package.qualifier ∈ (statements.flatMap Statement.references).map Reference.word
  ordered : (imports.map Package.path).Pairwise (· < ·)

/-! ### Names that code declares -/

/-- The variables that code for a request can declare, apart from those of files. -/
def localVariables : List String :=
  ["tr", "client", "req", "resp", "err", "payload"] ++ payloadVariables

theorem declares_draftSimple (method url : String) :
    (draftSimple method url).statements.flatMap Statement.declares ⊆ localVariables := by
  unfold draftSimple
  dsimp only
  split_ifs <;> simp [receive, build, closing, localVariables]

theorem declares_sendingStatements (request : Request) (reader : Expression) :
    (sendingStatements request reader).flatMap Statement.declares ⊆ localVariables := by
  have settings := (settingStatements_actOn request).declares_eq_nil
  simp [sendingStatements, settings, receive, build, closing, localVariables]

/-! ### Packages of requests -/

section

variable (options : RenderOptions) (typeWriter : TypeWriter) (request : Request)

/-- The package for requests is asked for and referred to. -/
theorem http_draft : .http ∈ (draft options typeWriter request).packages ∧
    ∃ name, .member .http name ∈
      (draft options typeWriter request).statements.flatMap Statement.references := by
  constructor
  · unfold draft
    split_ifs <;> simp [draftSimple, draftBuilt]
  · rw [statements_draft]
    split_ifs
    · unfold draftSimple
      dsimp only
      split_ifs
      · exact ⟨"Get", by simp [receive]⟩
      · exact ⟨"Post", by simp [receive]⟩
      · exact ⟨"Head", by simp [receive]⟩
      · exact ⟨"NewRequest", by simp [build]⟩
    · refine ⟨"NewRequest", ?_⟩
      rw [statements_draftBuilt]
      simp [sendingStatements, build]

/-- The code for a request asks for the packages whose members it refers to. -/
theorem mem_packages_draft (package : Package) :
    package ∈ (draft options typeWriter request).packages ↔
      ∃ name, .member package name ∈
        (draft options typeWriter request).statements.flatMap Statement.references := by
  by_cases other : package = .http
  · rw [other]
    exact iff_of_true (http_draft options typeWriter request).1
      (http_draft options typeWriter request).2
  · exact (accounts_draft options typeWriter request).required other

/-- The text of a body asks for a package for documents only if the type of a document is known. -/
theorem mem_packages_writePayload {package : Package} (document : package ∈ [.bytes, .json])
    (style : BodyStyle) (payload : Payload) :
    package ∈ (writePayload style payload).packages ↔
      ∃ content definition, payload = .json content ∧
        style.typeWriter content style.typeName = some definition := by
  have apart : package ≠ .url ∧ package ≠ .os ∧ package ≠ .strings := by
    revert document
    cases package <;> decide
  obtain ⟨url, os, strings⟩ := apart
  cases payload with
  | json content =>
    cases written : style.typeWriter content style.typeName with
    | none => simp [writePayload, written, writeString, strings]
    | some definition => simpa [writePayload, written, writeDocument] using document
  | form content => simp [writePayload, writeForm, writeField, url, os, strings]
  | text content => simp [writePayload, writeString, strings]

/-- The packages for documents are asked for only if the type of a document is known. -/
theorem mem_packages_draft_document {package : Package} (document : package ∈ [.bytes, .json]) :
    package ∈ (draft options typeWriter request).packages ↔
      ∃ content definition, request.body.payload? = some (.json content) ∧
        typeWriter content options.effectiveTypeName = some definition := by
  have apart : package ≠ .http ∧ package ≠ .tls ∧ package ≠ .io ∧ package ≠ .os := by
    revert document
    cases package <;> decide
  obtain ⟨http, tls, io, os⟩ := apart
  have client : package ∉ (if request.insecure then writeInsecureClient else {}).packages := by
    split_ifs <;> simp [writeInsecureClient, tls]
  have joined : ∀ readers, package ∉ (joinReaders readers).1.packages := by
    rintro (- | ⟨first, - | ⟨second, later⟩⟩) <;> simp [joinReaders, io]
  unfold draft
  by_cases simple : request.isSimple
  · have empty : request.body.payload? = none := by
      rw [body_of_isSimple simple]
      rfl
    have unused : package ∉ (draftSimple request.method request.url).packages := by
      unfold draftSimple
      dsimp only
      split_ifs <;> simp [http, os]
    simp [simple, empty, unused]
  · have warning : package ∉
        (if isTypeName options.typeName then {} else warn .typeNameUnusable : Draft).packages := by
      split_ifs <;> simp
    simp [simple, warning, draftBuilt, client, joined, writeBody, writeFile, writeCredentials,
      writeHeaders, writeHeader, writeHost, mem_packages_writePayload document, http, os]

/-- What the code for a request declares. -/
theorem declares_draft {name : String}
    (member : name ∈ (draft options typeWriter request).statements.flatMap Statement.declares) :
    name = options.effectiveTypeName ∨ name ∈ localVariables ∨ IsFileName name := by
  rw [statements_draft] at member
  split_ifs at member
  · exact Or.inr (Or.inl (declares_draftSimple _ _ member))
  · rw [statements_draftBuilt, List.flatMap_append, List.flatMap_append, List.mem_append,
      List.mem_append] at member
    rcases member with client | body | sending
    · refine Or.inr (Or.inl ?_)
      rcases declares_clientStatements client with rfl | rfl <;> decide
    · rcases declares_writeBody body with type | rfl | text | file
      · exact Or.inl type
      · exact Or.inr (Or.inl (by decide))
      · have inside : ∀ name ∈ "payload" :: payloadVariables, name ∈ localVariables := by decide
        exact Or.inr (Or.inl (inside name text))
      · exact Or.inr (Or.inr file)
    · exact Or.inr (Or.inl (declares_sendingStatements request _ sending))

/-- A name without a qualifier is not the qualifier of a package. -/
theorem ne_qualifier_of_bare {name : String}
    (refers : .bare name ∈ (draft options typeWriter request).statements.flatMap
      Statement.references) (package : Package) : name ≠ package.qualifier := by
  obtain ⟨statement, member, used⟩ := List.mem_flatMap.1 refers
  obtain ⟨earlier, later, split⟩ := List.append_of_mem member
  have wellScoped := wellScoped_of_inScope (inScope_draft options typeWriter request)
  rcases wellScoped.declared earlier statement later split name used with given | declared
  · rintro rfl
    revert given
    cases package <;> decide
  · have inAll : name ∈ (draft options typeWriter request).statements.flatMap
        Statement.declares := by
      rw [split, List.flatMap_append]
      exact List.mem_append_left _ declared
    rcases declares_draft options typeWriter request inAll with rfl | fixed | file
    · refine (ne_of_isTypeName (isTypeName_effectiveTypeName options) _ ?_).symm
      cases package <;> decide
    · rintro rfl
      revert fixed
      cases package <;> decide
    · rintro rfl
      revert file
      cases package <;> decide

theorem Package.qualifier_injective : Function.Injective Package.qualifier := by
  intro first second
  cases first <;> cases second <;> decide

/-- The words of the code hold the qualifier of a package exactly if it refers to a member of it. -/
theorem qualifier_mem_words_draft (package : Package) :
    package.qualifier ∈ ((draft options typeWriter request).statements.flatMap
      Statement.references).map Reference.word ↔
      ∃ name, .member package name ∈
        (draft options typeWriter request).statements.flatMap Statement.references := by
  rw [List.mem_map]
  constructor
  · rintro ⟨reference, refers, word⟩
    cases reference with
    | bare name =>
      exact absurd word (ne_qualifier_of_bare options typeWriter request refers package)
    | member other name =>
      obtain rfl := Package.qualifier_injective word
      exact ⟨name, refers⟩
  · rintro ⟨name, refers⟩
    exact ⟨_, refers, rfl⟩

end

end CurlScribe.Go
