/-
This file collects generated code while it is written: the statements in order, the
packages that have to be imported for them, and what the user is warned of. Drafts are
put together by appending. The import block lists each package once, in the order of the
paths, whatever the order in which the packages were asked for.
-/

import CurlScribe.Go.Code
import CurlScribe.Warning

namespace CurlScribe.Go

/-! ### Drafts -/

/-- Generated code with the packages it needs and the warnings it gives rise to. -/
structure Draft where
  statements : List Statement := []
  packages : List Package := []
  warnings : List Warning := []
  deriving Repr

namespace Draft

/-- One draft after another. -/
def append (first second : Draft) : Draft where
  statements := first.statements ++ second.statements
  packages := first.packages ++ second.packages
  warnings := first.warnings ++ second.warnings

instance : Append Draft := ⟨append⟩

@[simp] theorem statements_append (first second : Draft) :
    (first ++ second).statements = first.statements ++ second.statements := rfl

@[simp] theorem packages_append (first second : Draft) :
    (first ++ second).packages = first.packages ++ second.packages := rfl

@[simp] theorem warnings_append (first second : Draft) :
    (first ++ second).warnings = first.warnings ++ second.warnings := rfl

/-- One draft after another for each element of a list. -/
def concat (drafts : List Draft) : Draft :=
  drafts.foldr (· ++ ·) {}

/-- Statements that need no package beyond those asked for elsewhere. -/
def emit (statements : List Statement) : Draft := { statements := statements }

/-- The need for packages. -/
def require (packages : List Package) : Draft := { packages := packages }

/-- A warning. -/
def warn (warning : Warning) : Draft := { warnings := [warning] }

/-- The package that the expressions for the given strings need: a string whose variables are
expanded when the program runs needs the one that expands them. -/
def requireFor (values : List String) : Draft :=
  require (if values.any fun value => envReference value == .live then [.os] else [])

/-- The packages to import, each once and in the order of their paths. -/
def imports (draft : Draft) : List Package :=
  Package.inOrder.filter draft.packages.contains

theorem mem_imports (draft : Draft) (package : Package) :
    package ∈ draft.imports ↔ package ∈ draft.packages := by
  simp [imports, Package.mem_inOrder]

/-- The statements as they are written. -/
def text (draft : Draft) : String :=
  fragmentText draft.statements

end Draft

end CurlScribe.Go
