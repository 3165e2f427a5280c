/-
This file lists the string literals in code, from left to right, and proves that the code
is written with each of them. The list follows the shape of expressions and statements; the
declaration of a type is text to the generator, so it is not looked into.
-/

import CurlScribe.Go.Draft
import Mathlib.Tactic.SplitIfs

namespace CurlScribe.Go

/-! ### Literals of code -/

namespace Expression

mutual

/-- The literals in an expression, from left to right. -/
@[simp] def literals : Expression → List String
  | .name _ | .qualified _ _ => []
  | .select operand _ => operand.literals
  | .literal token => [token]
  | .call function arguments => function.literals ++ literalsOf arguments
  | .keyed _ value => value.literals
  | .composite type _ elements => type.literals ++ literalsOf elements
  | .address operand => operand.literals

/-- The literals in expressions. -/
@[simp] def literalsOf : List Expression → List String
  | [] => []
  | expression :: rest => expression.literals ++ literalsOf rest

end

@[simp] theorem literals_nil : nil.literals = [] := rfl

@[simp] theorem literals_callOf (package : Package) (function : String)
    (arguments : List Expression) :
    (callOf package function arguments).literals = literalsOf arguments := rfl

@[simp] theorem literals_callOn (receiver method : String) (arguments : List Expression) :
    (callOn receiver method arguments).literals = literalsOf arguments := rfl

end Expression

/-- The literals in a statement. The declaration of a type is not looked into. -/
def Statement.literals : Statement → List String
  | .define _ value => value.literals
  | .assign target value => target.literals ++ value.literals
  | .perform call | .deferred call => call.literals
  | .comment _ | .checkError | .declareType _ _ | .blank => []

namespace Statement

@[simp] theorem literals_define (names : List String) (value : Expression) :
    (define names value).literals = value.literals := rfl

@[simp] theorem literals_assign (target value : Expression) :
    (assign target value).literals = target.literals ++ value.literals := rfl

@[simp] theorem literals_perform (call : Expression) :
    (perform call).literals = call.literals := rfl

@[simp] theorem literals_deferred (call : Expression) :
    (deferred call).literals = call.literals := rfl

@[simp] theorem literals_checkError : checkError.literals = [] := rfl

@[simp] theorem literals_blank : blank.literals = [] := rfl

end Statement

/-- The literals in a draft. -/
def Draft.literals (draft : Draft) : List String :=
  draft.statements.flatMap Statement.literals

namespace Draft

@[simp] theorem literals_append (first second : Draft) :
    (first ++ second).literals = first.literals ++ second.literals :=
  List.flatMap_append

@[simp] theorem literals_emit (statements : List Statement) :
    (emit statements).literals = statements.flatMap Statement.literals := rfl

@[simp] theorem literals_require (packages : List Package) : (require packages).literals = [] := rfl

@[simp] theorem literals_requireFor (values : List String) :
    (requireFor values).literals = [] := rfl

@[simp] theorem literals_concat (drafts : List Draft) :
    (concat drafts).literals = drafts.flatMap Draft.literals := by
  induction drafts with
  | nil => rfl
  | cons draft later inductionHypothesis =>
    show (draft ++ concat later).literals = _
    rw [literals_append, inductionHypothesis, List.flatMap_cons]

end Draft

/-! ### Literals in the text -/

/-- The token stands somewhere in the text. -/
def IsWrittenIn (token text : String) : Prop :=
  token.toList <:+: text.toList

namespace IsWrittenIn

variable {token : String}

theorem append_left {text : String} (written : IsWrittenIn token text) (later : String) :
    IsWrittenIn token (text ++ later) := by
  unfold IsWrittenIn
  rw [String.toList_append]
  exact written.trans (List.prefix_append _ _).isInfix

theorem append_right {text : String} (earlier : String) (written : IsWrittenIn token text) :
    IsWrittenIn token (earlier ++ text) := by
  unfold IsWrittenIn
  rw [String.toList_append]
  exact written.trans (List.suffix_append _ _).isInfix

theorem intercalate {texts : List String} {text : String} (member : text ∈ texts)
    (written : IsWrittenIn token text) (separator : String) :
    IsWrittenIn token (separator.intercalate texts) := by
  induction texts with
  | nil => cases member
  | cons first later inductionHypothesis =>
    cases later with
    | nil =>
      rw [String.intercalate_singleton, ← List.mem_singleton.1 member]
      exact written
    | cons second later =>
      rw [String.intercalate_cons_cons]
      rcases List.mem_cons.1 member with rfl | inLater
      · exact (written.append_left _).append_left _
      · exact (inductionHypothesis inLater).append_right _

theorem join {texts : List String} {text : String} (member : text ∈ texts)
    (written : IsWrittenIn token text) : IsWrittenIn token (String.join texts) := by
  induction texts with
  | nil => cases member
  | cons first later inductionHypothesis =>
    rw [String.join_cons]
    rcases List.mem_cons.1 member with rfl | inLater
    · exact written.append_left _
    · exact (inductionHypothesis inLater).append_right _

end IsWrittenIn

namespace Expression

mutual

/-- Every literal of an expression is written in it. -/
theorem literal_written {token : String} :
    (expression : Expression) → token ∈ expression.literals → IsWrittenIn token expression.text
  | .name _, member => nomatch member
  | .qualified _ _, member => nomatch member
  | .select operand _, member =>
    ((literal_written operand member).append_left _).append_left _
  | .literal _, member => List.mem_singleton.1 member ▸ List.infix_rfl
  | .call function arguments, member => by
    rcases List.mem_append.1 member with inFunction | inArguments
    · have written := literal_written function inFunction
      exact ((written.append_left _).append_left _).append_left _
    · obtain ⟨text, among, written⟩ := literal_written_among arguments inArguments
      exact ((written.intercalate among _).append_right _).append_left _
  | .keyed _ value, member => (literal_written value member).append_right _
  | .composite type .inline elements, member => by
    rcases List.mem_append.1 member with inType | inElements
    · have written := literal_written type inType
      exact ((written.append_left _).append_left _).append_left _
    · obtain ⟨text, among, written⟩ := literal_written_among elements inElements
      exact ((written.intercalate among _).append_right _).append_left _
  | .composite type (.lines notes) elements, member => by
    rcases List.mem_append.1 member with inType | inElements
    · have written := literal_written type inType
      exact (((written.append_left _).append_left _).append_left _).append_left _
    · obtain ⟨text, among, written⟩ := literal_written_among elements inElements
      have line : IsWrittenIn token ("\t" ++ text ++ ",\n") :=
        (written.append_right _).append_left _
      exact ((line.join (List.mem_map_of_mem among)).append_right _).append_left _
  | .address operand, member => (literal_written operand member).append_right _

theorem literal_written_among {token : String} :
    (expressions : List Expression) → token ∈ literalsOf expressions →
      ∃ text ∈ texts expressions, IsWrittenIn token text
  | expression :: rest, member => by
    rcases List.mem_append.1 member with here | there
    · exact ⟨expression.text, List.mem_cons_self, literal_written expression here⟩
    · obtain ⟨text, among, written⟩ := literal_written_among rest there
      exact ⟨text, List.mem_cons_of_mem _ among, written⟩

end

end Expression

theorem Statement.literal_written {token : String} {statement : Statement}
    (member : token ∈ statement.literals) : IsWrittenIn token statement.text := by
  cases statement with
  | define names value =>
    exact ((Expression.literal_written value member).append_right _).append_left _
  | assign target value =>
    rcases List.mem_append.1 member with inTarget | inValue
    · have written := Expression.literal_written target inTarget
      exact ((written.append_left _).append_left _).append_left _
    · exact ((Expression.literal_written value inValue).append_right _).append_left _
  | perform call => exact (Expression.literal_written call member).append_left _
  | deferred call => exact ((Expression.literal_written call member).append_right _).append_left _
  | _ => cases member

theorem written_appendStatement {token code : String} (written : IsWrittenIn token code)
    (statement : Statement) : IsWrittenIn token (appendStatement code statement) := by
  unfold appendStatement
  split
  · split_ifs
    · exact written
    · exact written.append_left _
  · exact written.append_left _

/-- What is written stays written, and each literal is written with its statement. -/
theorem written_foldl {token code : String} {statements : List Statement}
    (found : IsWrittenIn token code ∨ token ∈ statements.flatMap Statement.literals) :
    IsWrittenIn token (statements.foldl appendStatement code) := by
  induction statements generalizing code with
  | nil =>
    rcases found with written | absent
    · exact written
    · cases absent
  | cons statement rest inductionHypothesis =>
    refine inductionHypothesis ?_
    rw [List.flatMap_cons, List.mem_append] at found
    rcases found with written | here | there
    · exact Or.inl (written_appendStatement written statement)
    · refine Or.inl ?_
      have written := Statement.literal_written here
      cases statement with
      | blank => cases here
      | _ => exact written.append_right _
    · exact Or.inr there

/-- Every literal of a draft is written in its text. -/
theorem Draft.literal_written {token : String} {draft : Draft} (member : token ∈ draft.literals) :
    IsWrittenIn token draft.text :=
  written_foldl (Or.inr member)

end CurlScribe.Go
