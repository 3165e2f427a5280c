/-
This file says what generated code refers to and what it declares. Code refers to names
without a qualifier, which are variables, types and predeclared names, and to members of
packages. What a literal or a comment holds is no reference, and the declaration of a type
is text to the generator, so it is not looked into.
-/

import CurlScribe.Go.Draft

namespace CurlScribe.Go

/-! ### References of code -/

/-- What code refers to: a name without a qualifier, or a member of a package. -/
inductive Reference where
  | bare (name : String)
  | member (package : Package) (name : String)
  deriving DecidableEq, Repr

/-- The word by which code refers to something: the name itself, or the qualifier of the package. -/
def Reference.word : Reference → String
  | .bare name => name
  | .member package _ => package.qualifier

namespace Expression

mutual

/-- The references of an expression, from left to right. -/
@[simp] def references : Expression → List Reference
  | .name identifier => [.bare identifier]
  | .qualified package member => [.member package member]
  | .literal _ => []
  | .select operand _ => operand.references
  | .call function arguments => function.references ++ referencesOf arguments
  | .keyed _ value => value.references
  | .composite type _ elements => type.references ++ referencesOf elements
  | .address operand => operand.references

/-- The references of expressions. -/
@[simp] def referencesOf : List Expression → List Reference
  | [] => []
  | expression :: rest => expression.references ++ referencesOf rest

end

@[simp] theorem references_nil : nil.references = [.bare "nil"] := rfl

@[simp] theorem references_callOf (package : Package) (function : String)
    (arguments : List Expression) :
    (callOf package function arguments).references =
      .member package function :: referencesOf arguments := rfl

@[simp] theorem references_callOn (receiver method : String) (arguments : List Expression) :
    (callOn receiver method arguments).references =
      .bare receiver :: referencesOf arguments := rfl

@[simp] theorem referencesOf_names (names : List String) :
    referencesOf (names.map .name) = names.map .bare := by
  induction names with
  | nil => rfl
  | cons name later inductionHypothesis =>
    show .bare name :: referencesOf (later.map .name) = _
    rw [inductionHypothesis, List.map_cons]

/-- The expression for a string refers to nothing, unless variables have to be expanded in it. -/
@[simp] theorem mem_references_ofString (reference : Reference) (value : String) :
    reference ∈ (ofString value).references ↔
      envReference value = .live ∧ reference = .member .os "ExpandEnv" := by
  unfold ofString
  split <;> simp_all

end Expression

namespace Statement

/-- The references of a statement. -/
@[simp] def references : Statement → List Reference
  | .define _ value => value.references
  | .assign target value => target.references ++ value.references
  | .perform call | .deferred call => call.references
  | .checkError => [.bare "err", .bare "nil"]
  | .comment _ | .declareType _ _ | .blank => []

/-- The names that a statement declares: variables, or a type. -/
@[simp] def declares : Statement → List String
  | .define names _ => names
  | .declareType name _ => [name]
  | .comment _ | .assign _ _ | .perform _ | .deferred _ | .checkError | .blank => []

end Statement

/-! ### Statements and packages of drafts -/

namespace Draft

@[simp] theorem statements_emit (statements : List Statement) :
    (emit statements).statements = statements := rfl

@[simp] theorem statements_require (packages : List Package) :
    (require packages).statements = [] := rfl

@[simp] theorem statements_requireFor (values : List String) :
    (requireFor values).statements = [] := rfl

@[simp] theorem statements_warn (warning : Warning) : (warn warning).statements = [] := rfl

@[simp] theorem statements_concat (drafts : List Draft) :
    (concat drafts).statements = drafts.flatMap statements := by
  induction drafts with
  | nil => rfl
  | cons draft later inductionHypothesis =>
    show (draft ++ concat later).statements = _
    rw [statements_append, inductionHypothesis, List.flatMap_cons]

@[simp] theorem packages_emit (statements : List Statement) : (emit statements).packages = [] := rfl

@[simp] theorem packages_require (packages : List Package) :
    (require packages).packages = packages := rfl

@[simp] theorem packages_warn (warning : Warning) : (warn warning).packages = [] := rfl

/-- Strings need a package if variables have to be expanded in one of them. -/
@[simp] theorem mem_packages_requireFor (package : Package) (values : List String) :
    package ∈ (requireFor values).packages ↔
      package = .os ∧ ∃ value ∈ values, envReference value = .live := by
  show package ∈ (if values.any fun value => envReference value == .live then [.os] else []) ↔ _
  split <;> simp_all

@[simp] theorem packages_concat (drafts : List Draft) :
    (concat drafts).packages = drafts.flatMap packages := by
  induction drafts with
  | nil => rfl
  | cons draft later inductionHypothesis =>
    show (draft ++ concat later).packages = _
    rw [packages_append, inductionHypothesis, List.flatMap_cons]

end Draft

end CurlScribe.Go
