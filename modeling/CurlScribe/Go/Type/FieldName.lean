/-
This file names the fields of a struct after the keys of a JSON object. A key is cut into
words at characters that are neither letters nor numerals and at the changes from small to
capital letters; each word starts with a capital, except that the initialisms which Go
writes in capitals stay in capitals. Within a struct a name that is taken gets a number.
-/

import CurlScribe.Text.Alphabetic
import CurlScribe.Text.LetterCase

namespace CurlScribe.Go

open Text

/-! ### Words -/

/-- Put a character at the start of the first word, or of a new one. -/
def growFirst (character : Char) : List (List Char) → List (List Char)
  | [] => [[character]]
  | word :: rest => (character :: word) :: rest

/-- A capital behind this character starts a word. -/
def endsSmall (character : Char) : Bool :=
  isSmall character || character.isDigit

/-- The words of a key. A word ends before a character that is neither a letter nor a numeral, which
is dropped, and between a small letter or a digit and a capital. -/
def wordsOf : List Char → List (List Char)
  | [] => []
  | character :: rest =>
    if !isLetterOrNumeral character then wordsOf rest
    else
      match rest with
      | [] => [[character]]
      | next :: _ =>
        if !isLetterOrNumeral next || (isCapital next && endsSmall character) then
          [character] :: wordsOf rest
        else growFirst character (wordsOf rest)

/-! ### Names -/

/-- The initialisms that Go writes in capitals. -/
def initialisms : List String :=
  ["ACL", "API", "ASCII", "CPU", "CSS", "DNS", "EOF", "GUID", "HTML", "HTTP", "HTTPS", "ID", "IP",
    "JSON", "LHS", "QPS", "RAM", "RHS", "RPC", "SLA", "SMTP", "SQL", "SSH", "TCP", "TLS", "TTL",
    "UDP", "UI", "UID", "UUID", "URI", "URL", "UTF8", "VM", "XML", "XMPP", "XSRF", "XSS"]

/-- A word as it stands in a name: an initialism in capitals, any other word with a capital at its
start. -/
def nameOfWord (word : List Char) : List Char :=
  let raised := word.flatMap raise
  if initialisms.contains (String.ofList raised) then raised
  else
    match word with
    | [] => []
    | first :: rest => raise first ++ rest

/-- The name for a key. A name cannot be empty or start with a digit. -/
def fieldName (key : String) : String :=
  match (wordsOf key.toList).flatMap nameOfWord with
  | [] => "Field"
  | first :: rest =>
    if first.isDigit then "Num" ++ String.ofList (first :: rest) else String.ofList (first :: rest)

/-! ### Names within a struct -/

/-- The first of the names with the given number, the next one, and so on that is not taken; the
count bounds the search. -/
def numberedName (name : String) (taken : List String) : (count number : Nat) → String
  | 0, _ => name
  | count + 1, number =>
    let candidate := name ++ toString number
    if taken.contains candidate then numberedName name taken count (number + 1) else candidate

/-- The name itself if it is not taken, or else the name with the least number, from two on, that is
not taken. One more candidate than there are taken names is enough. -/
def uniqueName (name : String) (taken : List String) : String :=
  if taken.contains name then numberedName name taken (taken.length + 1) 2 else name

/-- The names for the keys of a struct, each one unlike those before it. -/
def uniqueNames (taken : List String) : List String → List String
  | [] => []
  | key :: rest =>
    let name := uniqueName (fieldName key) taken
    name :: uniqueNames (taken ++ [name]) rest

/-- The names for the keys of a struct. -/
def fieldNames (keys : List String) : List String :=
  uniqueNames [] keys

end CurlScribe.Go
