/-
This file holds the Go code that is generated, as expressions and statements, and writes
it out. Code refers to packages, variables and predeclared names through its expressions,
so what a statement declares and what it uses can be read off it. A string literal is kept
as the token that will be written; a blank line between statements is a statement too, and
is written only where no blank line stands already.
-/

import CurlScribe.Go.Literal
import CurlScribe.Go.Package

namespace CurlScribe.Go

/-! ### Expressions -/

/-- How a composite literal is laid out: on one line, or with its elements on lines of their own
below some lines of comment. -/
inductive Layout where
  | inline
  | lines (notes : List String)
  deriving DecidableEq, Repr

/-- A Go expression. -/
inductive Expression where
  /-- A name without a qualifier: a variable, a type or a predeclared name. -/
  | name (identifier : String)
  /-- A member of a package. -/
  | qualified (package : Package) (member : String)
  /-- A field or a method of an operand. -/
  | select (operand : Expression) (member : String)
  /-- A string literal, as the token that is written. -/
  | literal (token : String)
  | call (function : Expression) (arguments : List Expression)
  /-- An element of a composite literal that is given for a field. -/
  | keyed (field : String) (value : Expression)
  | composite (type : Expression) (layout : Layout) (elements : List Expression)
  | address (operand : Expression)
  deriving Repr

namespace Expression

mutual

/-- An expression as it is written. -/
def text : Expression → String
  | .name identifier => identifier
  | .qualified package member => package.qualifier ++ "." ++ member
  | .select operand member => operand.text ++ "." ++ member
  | .literal token => token
  | .call function arguments => function.text ++ "(" ++ ", ".intercalate (texts arguments) ++ ")"
  | .keyed field value => field ++ ": " ++ value.text
  | .composite type .inline elements =>
    type.text ++ "\x7b" ++ ", ".intercalate (texts elements) ++ "\x7d"
  | .composite type (.lines notes) elements =>
    type.text ++ "\x7b\n" ++ String.join (notes.map fun note => "\t// " ++ note ++ "\n") ++
      String.join ((texts elements).map fun element => "\t" ++ element ++ ",\n") ++ "\x7d"
  | .address operand => "&" ++ operand.text

/-- Expressions as they are written. -/
def texts : List Expression → List String
  | [] => []
  | expression :: rest => expression.text :: texts rest

end

theorem texts_eq_map (expressions : List Expression) :
    texts expressions = expressions.map text := by
  induction expressions with
  | nil => rfl
  | cons expression rest inductionHypothesis => simp [texts, inductionHypothesis]

/-- No value. -/
def nil : Expression := .name "nil"

/-- A call of a function of a package. -/
def callOf (package : Package) (function : String) (arguments : List Expression) : Expression :=
  .call (.qualified package function) arguments

/-- A call of a method of a variable. -/
def callOn (receiver method : String) (arguments : List Expression) : Expression :=
  .call (.select (.name receiver) method) arguments

/-- The expression for a string. A string whose first dollar follows a backslash loses that
backslash and is plain; with any other dollar the variables in it are expanded when the program
runs. -/
def ofString (value : String) : Expression :=
  match envReference value with
  | .absent => .literal (quote value)
  | .escaped _ => .literal (quote (withoutEscape value))
  | .live => callOf .os "ExpandEnv" [.literal (quote value)]

end Expression

/-! ### Statements -/

/-- A Go statement. -/
inductive Statement where
  | comment (note : String)
  /-- New variables for the results of an expression. -/
  | define (names : List String) (value : Expression)
  | assign (target value : Expression)
  | perform (call : Expression)
  | deferred (call : Expression)
  /-- What to do when the variable `err` holds an error. -/
  | checkError
  /-- The declaration of a type, as the text that is written. -/
  | declareType (name definition : String)
  | blank
  deriving Repr

/-- A statement as it is written, with the line feed that ends it; a blank line has none of
its own. -/
def Statement.text : Statement → String
  | .comment note => "// " ++ note ++ "\n"
  | .define names value => ", ".intercalate names ++ " := " ++ value.text ++ "\n"
  | .assign target value => target.text ++ " = " ++ value.text ++ "\n"
  | .perform call => call.text ++ "\n"
  | .deferred call => "defer " ++ call.text ++ "\n"
  | .checkError => "if err != nil \x7b\n\t// handle err\n\x7d\n"
  | .declareType _ definition => definition ++ "\n"
  | .blank => ""

/-! ### Fragments -/

/-- The code ends with a blank line. -/
def endsBlank (code : String) : Bool :=
  ['\n', '\n'].isSuffixOf code.toList

/-- The code with one more statement. No blank line stands first or follows another. -/
def appendStatement (code : String) : Statement → String
  | .blank => if code.isEmpty || endsBlank code then code else code ++ "\n"
  | statement => code ++ statement.text

/-- Statements as they are written one after another. -/
def fragmentText (statements : List Statement) : String :=
  statements.foldl appendStatement ""

end CurlScribe.Go
