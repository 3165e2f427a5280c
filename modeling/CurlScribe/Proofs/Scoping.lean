/-
This file proves that generated code is well scoped. Every name is declared before it is
used, every definition adds a variable, and every variable is used later on.

Scoping is checked along the statements, between the names that are declared before them and
the references that are made behind them, so that the parts of a draft can be checked apart.
-/

import CurlScribe.Proofs.Statements
import Mathlib.Tactic.SplitIfs

namespace CurlScribe.Go

/-! ### Scoping of statements -/

/-- The names that code uses without declaring them. -/
def predeclared : List String := ["nil", "true"]

/-- The variables that a statement defines. -/
@[simp] def Statement.variables : Statement → List String
  | .define names _ => names
  | .comment _ | .assign _ _ | .perform _ | .deferred _ | .checkError | .declareType _ _
  | .blank => []

/-- Statements are well scoped: a name is declared in an earlier statement than it is used in, a
definition has a variable that was not declared earlier, and a later statement uses each of its
variables. -/
structure WellScoped (statements : List Statement) : Prop where
  declared : ∀ earlier statement later, statements = earlier ++ statement :: later →
    ∀ name, .bare name ∈ statement.references →
      name ∈ predeclared ∨ name ∈ earlier.flatMap Statement.declares
  fresh : ∀ earlier names value later, statements = earlier ++ .define names value :: later →
    ∃ name ∈ names, name ∉ earlier.flatMap Statement.declares
  used : ∀ earlier names value later, statements = earlier ++ .define names value :: later →
    ∀ name ∈ names, .bare name ∈ later.flatMap Statement.references

/-- A statement defines no variables, or one that was not declared before. -/
@[simp] def Statement.AddsTo (before : List String) : Statement → Prop
  | .define names _ => ∃ name ∈ names, name ∉ before
  | .comment _ | .assign _ _ | .perform _ | .deferred _ | .checkError | .declareType _ _
  | .blank => True

/-- Statements are well scoped between the names declared before them and the references made
behind them. -/
def InScope (before : List String) : List Statement → List Reference → Prop
  | [], _ => True
  | statement :: later, after =>
    (∀ name, .bare name ∈ statement.references → name ∈ predeclared ∨ name ∈ before) ∧
    statement.AddsTo before ∧
    (∀ name ∈ statement.variables,
      .bare name ∈ later.flatMap Statement.references ++ after) ∧
    InScope (before ++ statement.declares) later after

theorem inScope_append {before : List String} {first second : List Statement}
    {after : List Reference} :
    InScope before (first ++ second) after ↔
      InScope before first (second.flatMap Statement.references ++ after) ∧
        InScope (before ++ first.flatMap Statement.declares) second after := by
  induction first generalizing before with
  | nil => simp [InScope]
  | cons statement later inductionHypothesis =>
    simp only [List.cons_append, InScope, inductionHypothesis, List.flatMap_append,
      List.flatMap_cons, List.append_assoc, and_assoc]

theorem wellScoped_of_inScope {statements : List Statement} (inScope : InScope [] statements []) :
    WellScoped statements where
  declared := by
    rintro earlier statement later rfl
    exact (inScope_append.1 inScope).2.1
  fresh := by
    rintro earlier names value later rfl
    exact (inScope_append.1 inScope).2.2.1
  used := by
    rintro earlier names value later rfl
    have used := (inScope_append.1 inScope).2.2.2.1
    rwa [List.append_nil] at used

/-! ### Effects -/

/-- Statements act on one variable: each is a call or an assignment that uses no other name. -/
def ActOn (receiver : String) (statements : List Statement) : Prop :=
  ∀ statement ∈ statements,
    ((∃ call, statement = .perform call) ∨ ∃ target value, statement = .assign target value) ∧
      ∀ name, .bare name ∈ statement.references → name = receiver

namespace ActOn

variable {receiver : String} {statements : List Statement}

theorem declares_eq_nil (acts : ActOn receiver statements) :
    statements.flatMap Statement.declares = [] := by
  refine List.flatMap_eq_nil_iff.2 fun statement member => ?_
  obtain ⟨⟨call, rfl⟩ | ⟨target, value, rfl⟩, -⟩ := acts statement member <;> rfl

theorem inScope (acts : ActOn receiver statements) {before : List String}
    (declared : receiver ∈ before) (after : List Reference) :
    InScope before statements after := by
  induction statements with
  | nil => trivial
  | cons statement later inductionHypothesis =>
    obtain ⟨⟨effect, uses⟩, actsLater⟩ := List.forall_mem_cons.1 acts
    have inside : ∀ name, .bare name ∈ statement.references →
        name ∈ predeclared ∨ name ∈ before :=
      fun name refers => Or.inr (uses name refers ▸ declared)
    obtain ⟨call, rfl⟩ | ⟨target, value, rfl⟩ := effect
    all_goals
      refine ⟨inside, trivial, nofun, ?_⟩
      rw [Statement.declares, List.append_nil]
      exact inductionHypothesis actsLater

end ActOn

/-! ### Inline text -/

/-- The name of a type is no variable of the generated code. -/
theorem ne_of_isTypeName {name : String} (valid : isTypeName name = true) (taken : String)
    (member : taken ∈ takenNames) : taken ≠ name := by
  rintro rfl
  simp [isTypeName, member] at valid

theorem not_isFileName_of_isTypeName {name : String} (valid : isTypeName name = true) :
    ¬ IsFileName name := by
  rintro (rfl | numbered)
  · exact ne_of_isTypeName valid _ (by decide) rfl
  · simp [isTypeName, numbered] at valid

theorem isTypeName_effectiveTypeName (options : RenderOptions) :
    isTypeName options.effectiveTypeName = true := by
  unfold RenderOptions.effectiveTypeName
  split_ifs with valid
  · exact valid
  · exact isTypeName_defaultTypeName

theorem writeFields_actOn (fields : List (String × String)) :
    ActOn "params" (fields.flatMap fun field => (writeField field).statements) := by
  intro statement member
  obtain ⟨field, -, written⟩ := List.mem_flatMap.1 member
  obtain rfl := List.mem_singleton.1 written
  refine ⟨Or.inl ⟨_, rfl⟩, fun name refers => ?_⟩
  simpa using refers

section Parts

variable {before : List String} {after : List Reference}

theorem inScope_writeDocument {typeName definition : String} (valid : isTypeName typeName = true)
    (data : "data" ∉ before) (bytes : "payloadBytes" ∉ before) (body : bodyName ∉ before)
    (used : .bare bodyName ∈ after) :
    InScope before (writeDocument typeName definition).statements after := by
  have apart := ne_of_isTypeName valid
  simp [writeDocument, InScope, predeclared, data, bytes, body, used,
    apart "data" (by decide), apart "payloadBytes" (by decide), apart bodyName (by decide)]
  decide

theorem inScope_writeString {encoding : BodyEncoding} {content : String}
    (body : bodyName ∉ before) (used : .bare bodyName ∈ after) :
    InScope before (writeString encoding content).statements after := by
  simp [writeString, InScope, body, used]

theorem inScope_writeForm {content : String} (params : "params" ∉ before)
    (body : bodyName ∉ before) (used : .bare bodyName ∈ after) :
    InScope before (writeForm content).statements after := by
  have acts := writeFields_actOn (Text.formFields content)
  have inside : "params" ∈ before ++ ["params"] :=
    List.mem_append_right _ (List.mem_singleton_self _)
  have other : bodyName ≠ "params" := by decide
  simp [writeForm, InScope, inScope_append, List.flatMap_map, acts.declares_eq_nil,
    acts.inScope inside, params, body, used, other]

/-- The variables that code for inline text declares. -/
def payloadVariables : List String := ["data", "payloadBytes", "params", bodyName]

theorem inScope_writePayload {style : BodyStyle} {payload : Payload}
    (valid : isTypeName style.typeName = true)
    (fresh : ∀ name ∈ payloadVariables, name ∉ before) (used : .bare bodyName ∈ after) :
    InScope before (writePayload style payload).statements after := by
  simp only [payloadVariables, List.forall_mem_cons] at fresh
  obtain ⟨data, bytes, params, body, -⟩ := fresh
  -- The blank line behind the text changes nothing.
  have blank : ∀ {statements}, InScope before statements after →
      InScope before (statements ++ [.blank]) after := by
    intro statements inScope
    simp [inScope_append, InScope, inScope]
  cases payload with
  | json content =>
    rw [writePayload, Draft.statements_append]
    refine blank ?_
    split
    · exact inScope_writeDocument valid data bytes body used
    · exact inScope_writeString body used
  | form content => exact blank (inScope_writeForm params body used)
  | text content => exact blank (inScope_writeString body used)

theorem declares_writePayload {style : BodyStyle} {payload : Payload} {name : String}
    (member : name ∈ (writePayload style payload).statements.flatMap Statement.declares) :
    name = style.typeName ∨ name = "err" ∨ name ∈ payloadVariables := by
  cases payload with
  | json content =>
    rw [writePayload] at member
    cases written : style.typeWriter content style.typeName with
    | none =>
      have same : name = bodyName := by
        simpa [written, writeString] using member
      exact Or.inr (Or.inr (same ▸ by decide))
    | some definition =>
      have among : name ∈ [style.typeName, "data", "payloadBytes", "err", bodyName] := by
        simpa [written, writeDocument] using member
      simp only [payloadVariables, List.mem_cons] at among ⊢
      tauto
  | form content =>
    have among : name ∈ ["params", bodyName] := by
      simpa [writePayload, writeForm, List.flatMap_map,
        (writeFields_actOn (Text.formFields content)).declares_eq_nil] using member
    simp only [payloadVariables, List.mem_cons] at among ⊢
    tauto
  | text content =>
    have same : name = bodyName := by
      simpa [writePayload, writeString] using member
    exact Or.inr (Or.inr (same ▸ by decide))

theorem mem_declares_writePayload (style : BodyStyle) (payload : Payload) :
    bodyName ∈ (writePayload style payload).statements.flatMap Statement.declares := by
  cases payload with
  | json content =>
    rw [writePayload]
    cases style.typeWriter content style.typeName <;> simp [writeString, writeDocument]
  | form content => simp [writePayload, writeForm]
  | text content => simp [writePayload, writeString]

/-! ### Files and readers -/

theorem inScope_writeFiles (files : List (String × String))
    (distinct : (files.map Prod.fst).Nodup)
    (fresh : ∀ file ∈ files, file.1 ≠ "err" ∧ file.1 ∉ before) :
    InScope before (files.flatMap fun file => (writeFile file.1 file.2).statements) after := by
  induction files generalizing before with
  | nil => trivial
  | cons file later inductionHypothesis =>
    obtain ⟨⟨notError, new⟩, freshLater⟩ := List.forall_mem_cons.1 fresh
    obtain ⟨apart, distinctLater⟩ := List.nodup_cons.1 distinct
    rw [List.flatMap_cons, inScope_append]
    constructor
    · simp [writeFile, InScope, predeclared, new]
    · refine inductionHypothesis distinctLater fun other member => ?_
      have different : other.1 ≠ file.1 := fun same =>
        apart (same ▸ List.mem_map_of_mem member)
      simp [writeFile, freshLater other member, different]

theorem inScope_joinReaders {readers : List String}
    (declared : ∀ reader ∈ readers, reader ∈ before) (fresh : "payload" ∉ before)
    (used : .bare "payload" ∈ (joinReaders readers).2.references → .bare "payload" ∈ after) :
    InScope before (joinReaders readers).1.statements after := by
  unfold joinReaders at used ⊢
  split
  · trivial
  · trivial
  · refine ⟨fun name refers => Or.inr (declared name ?_), ⟨_, List.mem_singleton_self _, fresh⟩,
      ?_, trivial⟩
    · simpa using refers
    · intro name member
      simp only [Expression.references, List.mem_singleton, forall_const] at used
      rw [List.mem_singleton.1 member]
      exact used

/-- A reader is used where the readers are joined, or it is the joined reader itself. -/
theorem mem_references_joinReaders {readers : List String} {reader : String}
    (member : reader ∈ readers) :
    .bare reader ∈ (joinReaders readers).1.statements.flatMap Statement.references ++
      (joinReaders readers).2.references := by
  unfold joinReaders
  split
  · cases member
  · simpa using member
  · simp [member]

/-- The joined reader is no value, the only reader, or the variable for several readers. -/
theorem references_joinReaders {readers : List String} {name : String}
    (refers : .bare name ∈ (joinReaders readers).2.references) :
    name = "nil" ∨ name ∈ readers ∨
      name ∈ (joinReaders readers).1.statements.flatMap Statement.declares := by
  unfold joinReaders at refers ⊢
  split at refers
  · exact Or.inl (by simpa using refers)
  · exact Or.inr (Or.inl (by simpa using refers))
  · exact Or.inr (Or.inr (by simpa using refers))

end Parts

/-! ### Bodies -/

/-- What the files of a body declare. -/
theorem declares_writeFiles (files : List (String × String)) :
    (files.flatMap fun file => (writeFile file.1 file.2).statements).flatMap Statement.declares =
      files.flatMap fun file => [file.1, "err"] := by
  rw [List.flatMap_assoc]
  rfl

section Bodies

variable {style : BodyStyle} {body : Body} {before : List String} {after : List Reference}

/-- What the text of a body declares. -/
theorem declares_inlineStatements {name : String}
    (member : name ∈ (inlineStatements style body).flatMap Statement.declares) :
    name = style.typeName ∨ name = "err" ∨ name ∈ payloadVariables := by
  unfold inlineStatements at member
  rw [List.flatMap_assoc] at member
  obtain ⟨payload, -, declared⟩ := List.mem_flatMap.1 member
  exact declares_writePayload declared

/-- The text of a body declares no variable of a file. -/
theorem not_isFileName_of_inlineStatements (valid : isTypeName style.typeName = true)
    {name : String} (member : name ∈ (inlineStatements style body).flatMap Statement.declares) :
    ¬ IsFileName name := by
  have payload : ∀ name ∈ payloadVariables, ¬ IsFileName name := by decide
  rcases declares_inlineStatements member with rfl | rfl | inText
  · exact not_isFileName_of_isTypeName valid
  · decide
  · exact payload name inText

/-- The code for a body declares each of its readers. -/
theorem mem_declares_readerStatements {reader : String} (member : reader ∈ bodyReaders body) :
    reader ∈ (readerStatements style body).flatMap Statement.declares := by
  unfold bodyReaders at member
  unfold readerStatements
  rw [List.flatMap_append, declares_writeFiles, List.mem_append]
  rcases List.mem_append.1 member with text | file
  · obtain ⟨payload, given, rfl⟩ := List.mem_map.1 text
    refine Or.inl ?_
    rw [inlineStatements, List.flatMap_assoc]
    exact List.mem_flatMap.2 ⟨payload, given, mem_declares_writePayload style payload⟩
  · refine Or.inr ?_
    rw [← fileNames_zip_fst] at file
    obtain ⟨pair, among, rfl⟩ := List.mem_map.1 file
    exact List.mem_flatMap.2 ⟨pair, among, List.mem_cons_self⟩

/-- What the readers of a body declare. -/
theorem declares_readerStatements {name : String}
    (member : name ∈ (readerStatements style body).flatMap Statement.declares) :
    name = style.typeName ∨ name = "err" ∨ name ∈ payloadVariables ∨ IsFileName name := by
  unfold readerStatements at member
  rw [List.flatMap_append, declares_writeFiles, List.mem_append] at member
  rcases member with text | file
  · rcases declares_inlineStatements text with type | error | inText
    · exact Or.inl type
    · exact Or.inr (Or.inl error)
    · exact Or.inr (Or.inr (Or.inl inText))
  · obtain ⟨pair, among, inPair⟩ := List.mem_flatMap.1 file
    have first := isFileName_of_mem (List.of_mem_zip among).1
    simp only [List.mem_cons, List.not_mem_nil, or_false] at inPair
    rcases inPair with rfl | rfl
    · exact Or.inr (Or.inr (Or.inr first))
    · exact Or.inr (Or.inl rfl)

theorem inScope_readerStatements (valid : isTypeName style.typeName = true)
    (fresh : ∀ name ∈ payloadVariables, name ∉ before)
    (files : ∀ name, IsFileName name → name ∉ before)
    (used : ∀ reader ∈ bodyReaders body, .bare reader ∈ after) :
    InScope before (readerStatements style body) after := by
  have distinct := nodup_fileNames body.paths.length
  rw [← fileNames_zip_fst] at distinct
  refine inScope_append.2 ⟨?_, inScope_writeFiles _ distinct fun file member => ⟨?_, ?_⟩⟩
  · unfold inlineStatements
    cases given : body.payload? with
    | none => trivial
    | some payload =>
      rw [Option.toList_some, List.flatMap_singleton]
      refine inScope_writePayload valid fresh (List.mem_append_right _ (used _ ?_))
      simp [bodyReaders, given]
  · have name := isFileName_of_mem (List.of_mem_zip member).1
    intro same
    rw [same] at name
    exact absurd name (by decide)
  · have name := isFileName_of_mem (List.of_mem_zip member).1
    rw [List.mem_append, not_or]
    exact ⟨files _ name, fun text => not_isFileName_of_inlineStatements valid text name⟩

theorem declares_joinReaders {readers : List String} {name : String}
    (member : name ∈ (joinReaders readers).1.statements.flatMap Statement.declares) :
    name = "payload" := by
  unfold joinReaders at member
  split at member
  · cases member
  · cases member
  · simpa using member

/-- What the code for a body declares. -/
theorem declares_writeBody {name : String}
    (member : name ∈ (writeBody style body).1.statements.flatMap Statement.declares) :
    name = style.typeName ∨ name = "err" ∨ name ∈ "payload" :: payloadVariables ∨
      IsFileName name := by
  rw [statements_writeBody, List.flatMap_append, List.mem_append] at member
  rcases member with readers | joined
  · rcases declares_readerStatements readers with type | error | inText | file
    · exact Or.inl type
    · exact Or.inr (Or.inl error)
    · exact Or.inr (Or.inr (Or.inl (List.mem_cons_of_mem _ inText)))
    · exact Or.inr (Or.inr (Or.inr file))
  · rw [declares_joinReaders joined]
    exact Or.inr (Or.inr (Or.inl List.mem_cons_self))

/-- The code for a body is in scope if what comes behind uses the reader that it makes. -/
theorem inScope_writeBody (valid : isTypeName style.typeName = true)
    (fresh : ∀ name ∈ "payload" :: payloadVariables, name ∉ before)
    (files : ∀ name, IsFileName name → name ∉ before)
    (used : (writeBody style body).2.references ⊆ after) :
    InScope before (writeBody style body).1.statements after := by
  obtain ⟨freshJoined, freshText⟩ := List.forall_mem_cons.1 fresh
  rw [statements_writeBody, inScope_append]
  constructor
  · refine inScope_readerStatements valid freshText files fun reader member => ?_
    rcases List.mem_append.1 (mem_references_joinReaders member) with joined | alone
    · exact List.mem_append_left _ joined
    · exact List.mem_append_right _ (used alone)
  · refine inScope_joinReaders (fun reader member => ?_) ?_ fun refers => used refers
    · exact List.mem_append_right _ (mem_declares_readerStatements member)
    · rw [List.mem_append, not_or]
      refine ⟨freshJoined, fun declared => ?_⟩
      have apart : ∀ name ∈ payloadVariables, "payload" ≠ name := by decide
      rcases declares_readerStatements declared with type | error | inText | file
      · exact ne_of_isTypeName valid _ (by decide) type
      · exact absurd error (by decide)
      · exact apart _ inText rfl
      · exact absurd file (by decide)

/-- The reader of a body is declared where it is used. -/
theorem references_writeBody {name : String}
    (refers : .bare name ∈ (writeBody style body).2.references) :
    name ∈ predeclared ∨
      name ∈ (writeBody style body).1.statements.flatMap Statement.declares := by
  rw [statements_writeBody, List.flatMap_append]
  rcases references_joinReaders refers with rfl | reader | joined
  · exact Or.inl (by decide)
  · exact Or.inr (List.mem_append_left _ (mem_declares_readerStatements reader))
  · exact Or.inr (List.mem_append_right _ joined)

end Bodies

/-! ### Requests -/

theorem settingStatements_actOn (request : Request) :
    ActOn "req" (settingStatements request) := by
  intro statement member
  simp only [settingStatements, writeHeaders, Draft.statements_append, Draft.statements_concat,
    List.mem_append, List.mem_flatMap, List.mem_map] at member
  rcases member with ⟨auth, -, written⟩ | ⟨_, ⟨host, -, rfl⟩, written⟩ |
    ⟨_, ⟨header, -, rfl⟩, written⟩
  all_goals obtain rfl := List.mem_singleton.1 written
  · exact ⟨Or.inl ⟨_, rfl⟩, fun name refers => by simpa using refers⟩
  · exact ⟨Or.inr ⟨_, _, rfl⟩, fun name refers => by simpa using refers⟩
  · exact ⟨Or.inl ⟨_, rfl⟩, fun name refers => by simpa using refers⟩

theorem inScope_sendingStatements {request : Request} {reader : Expression} {before : List String}
    (built : "req" ∉ before) (received : "resp" ∉ before)
    (readerDeclared : ∀ name, .bare name ∈ reader.references → name ∈ predeclared ∨ name ∈ before)
    (clientDeclared : request.insecure = true → "client" ∈ before) :
    InScope before (sendingStatements request reader) [] := by
  have acts := settingStatements_actOn request
  have inside : "req" ∈ before ++ ["req", "err"] :=
    List.mem_append_right _ List.mem_cons_self
  have client : ∀ name, .bare name ∈ (sendingClient request.insecure).references →
      name ∈ before := by
    intro name refers
    unfold sendingClient at refers
    split_ifs at refers with insecure
    · have same : name = "client" := by
        simpa using refers
      exact same ▸ clientDeclared insecure
    · simp [defaultClient] at refers
  have sent : ∀ name, .bare name ∈ (sendingClient request.insecure).references ∨ name = "req" →
      name ∈ predeclared ∨ name ∈ before ++ ["req", "err"] := by
    rintro name (inClient | rfl)
    · exact Or.inr (List.mem_append_left _ (client name inClient))
    · exact Or.inr inside
  simpa [sendingStatements, build, receive, sendWith, closing, InScope, inScope_append,
    predeclared, acts.declares_eq_nil, acts.inScope inside, built, received] using
    And.intro readerDeclared sent

theorem inScope_clientStatements {insecure : Bool} {after : List Reference}
    (used : insecure = true → .bare "client" ∈ after) :
    InScope [] (clientStatements insecure) after := by
  unfold clientStatements
  split_ifs with set
  · simpa [writeInsecureClient, InScope, predeclared] using used set
  · trivial

theorem declares_clientStatements {insecure : Bool} {name : String}
    (member : name ∈ (clientStatements insecure).flatMap Statement.declares) :
    name = "tr" ∨ name = "client" := by
  unfold clientStatements at member
  split_ifs at member
  · simpa [writeInsecureClient] using member
  · cases member

/-- The code for a request that is built explicitly is in scope. -/
theorem inScope_draftBuilt {style : BodyStyle} (valid : isTypeName style.typeName = true)
    (request : Request) : InScope [] (draftBuilt style request).statements [] := by
  have text : ∀ name ∈ "payload" :: payloadVariables, ¬ (name = "tr" ∨ name = "client") := by
    decide
  have sending : ∀ name ∈ ["req", "resp"], ¬ (name = "tr" ∨ name = "client") ∧
      name ∈ takenNames ∧ name ≠ "err" ∧ name ∉ "payload" :: payloadVariables ∧
      ¬ IsFileName name := by
    decide
  -- The request and the response are new behind the client and the body.
  have fresh : ∀ name ∈ ["req", "resp"],
      name ∉ [] ++ (clientStatements request.insecure).flatMap Statement.declares ++
        (writeBody style request.body).1.statements.flatMap Statement.declares := by
    intro name member declared
    obtain ⟨client, taken, error, inline, file⟩ := sending name member
    rcases List.mem_append.1 declared with inClient | inBody
    · exact client (declares_clientStatements inClient)
    · rcases declares_writeBody inBody with type | same | inText | inFiles
      · exact ne_of_isTypeName valid _ taken type
      · exact error same
      · exact inline inText
      · exact file inFiles
  rw [statements_draftBuilt, inScope_append, inScope_append]
  refine ⟨inScope_clientStatements fun insecure => ?_, inScope_writeBody valid ?_ ?_ ?_,
    inScope_sendingStatements ?_ ?_ ?_ ?_⟩
  · simp [sendingStatements, sendingClient, insecure, receive, sendWith]
  · exact fun name member declared => text name member (declares_clientStatements declared)
  · rintro name file declared
    rcases declares_clientStatements declared with rfl | rfl <;> exact absurd file (by decide)
  · intro reference refers
    simp [sendingStatements, build, refers]
  · exact fresh _ List.mem_cons_self
  · exact fresh _ (List.mem_cons_of_mem _ List.mem_cons_self)
  · intro name refers
    exact (references_writeBody refers).imp_right (List.mem_append_right _)
  · intro insecure
    simp [clientStatements, insecure, writeInsecureClient]

theorem inScope_draftSimple (method url : String) :
    InScope [] (draftSimple method url).statements [] := by
  unfold draftSimple
  dsimp only
  split_ifs
  all_goals simp [receive, build, sendWith, defaultClient, closing, InScope, predeclared]

/-- The code for a request is in scope. -/
theorem inScope_draft (options : RenderOptions) (typeWriter : TypeWriter) (request : Request) :
    InScope [] (draft options typeWriter request).statements [] := by
  rw [statements_draft]
  split_ifs
  · exact inScope_draftSimple _ _
  · refine inScope_draftBuilt ?_ request
    exact isTypeName_effectiveTypeName options

end CurlScribe.Go
