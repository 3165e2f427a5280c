/-
This file passes code through a formatter: a program that reads the code and prints it in
another form. What the programs of a system do is taken as given. The ones that are known
here are some text filters of the standard tools; no other program can be found. A
formatter that cannot be used or fails leaves the code as it is, where the caller wants
that.
-/

import CurlScribe.Error
import CurlScribe.Text.Blank
import CurlScribe.Text.Split

namespace CurlScribe

open Text

/-! ### Filters -/

/-- How a program ends. -/
inductive Ending where
  /-- With success, having printed a text. -/
  | printed (text : String)
  /-- With success, having printed bytes that are not UTF-8 from the given index on. -/
  | printedBytes (index width : Nat)
  /-- With a status other than zero, having complained. -/
  | failed (status : Nat) (complaint : String)
  deriving DecidableEq, Repr

/-- The lines of a text from the last to the first, each with its line feed if it has one. -/
def reverseLines (text : String) : String :=
  let pieces := segments '\n' text.toList
  String.ofList ((pieces.dropLast.map (· ++ ['\n'])) ++ pieces.getLast?.toList).reverse.flatten

/-- The programs of a system: what comes of one that is started by its name and given a text to
read. -/
abbrev System := (program text : String) → Except SystemFault Ending

/-- A program that reads a text and ends; it may name itself when it complains. -/
abbrev Filter := (program text : String) → Ending

/-- The filter that a plain name stands for. A compressor prints a mark that is no UTF-8 first. -/
def filterNamed : String → Option Filter
  | "cat" => some fun _ text => .printed text
  | "tac" => some fun _ text => .printed (reverseLines text)
  | "true" => some fun _ _ => .printed ""
  | "false" => some fun _ _ => .failed 1 ""
  | "gzip" => some fun _ _ => .printedBytes 1 1
  | "mkdir" => some fun program _ =>
    .failed 1
      (program ++ ": missing operand\nTry '" ++ program ++ " --help' for more information.\n")
  | _ => none

/-- The directories that hold the filters. -/
def filterDirectories : List (List Char) := ["/bin/".toList, "/usr/bin/".toList]

/-- The filter that a program stands for, by its plain name or by its path. -/
def findFilter (program : String) : Option Filter :=
  let characters := program.toList
  let plain := filterDirectories.find? (·.isPrefixOf characters)
  match plain with
  | some directory => filterNamed (String.ofList (characters.drop directory.length))
  | none => filterNamed program

/-- The directories that stand in the root of every system. -/
def rootDirectories : List (List Char) :=
  ["bin", "dev", "etc", "home", "lib", "opt", "proc", "root", "run", "sbin", "srv", "sys", "tmp",
    "usr", "var"].map String.toList

/-- The program is the path of a directory that always exists: it names no step but dots, or one
directory of the root. -/
def isDirectoryPath (program : String) : Bool :=
  let steps := segments '/' program.toList
  match steps.filter fun step => !(step.isEmpty || step == ['.'] || step == ['.', '.']) with
  | [] => !program.isEmpty
  | [step] => steps.head? == some [] && rootDirectories.contains step
  | _ => false

/-- Run one of the filters on a text. -/
def runProgram : System := fun program text =>
  if program.toList.any (·.toNat == 0) then .error .badName
  else
    match findFilter program with
    | some filter => .ok (filter program text)
    | none => .error (if isDirectoryPath program then .permissionDenied else .notFound)

/-! ### Formatting -/

/-- The formatter that is used when the settings name no other. -/
def defaultFormatter : String := "gofmt"

/-- The code as a program of a system prints it. -/
def formatCodeIn (system : System) (program code : String) : Except Error String :=
  match system program code with
  | .error fault => .error (.system fault)
  | .ok (.printed text) => .ok text
  | .ok (.printedBytes index width) => .error (.system (.badBytes index width))
  | .ok (.failed status complaint) => .error (.formatter program status (trim complaint))

/-- The code as a filter prints it. -/
def formatCode : (program code : String) → Except Error String :=
  formatCodeIn runProgram

/-- The code as a filter prints it, or as it is if the filter fails. -/
def formatOrKeep (program code : String) : String :=
  match formatCode program code with
  | .ok formatted => formatted
  | .error _ => code

/-- Lines change places as a whole; a last line without a line feed joins the one that follows
it. -/
example : reverseLines "a\nb\nc\n" = "c\nb\na\n" ∧ reverseLines "a\nb" = "ba\n" := by
  decide +kernel

end CurlScribe
