/-
This file names the options that shape a request and proves that nothing else of a command
does. The request is put together from the values of single options, each asked for by its
name, and from the first two words; so two commands that agree on these describe the same
request, whatever else they say and in whatever order. None of the named options could be left
out: each of them makes a difference on its own.
-/

import CurlScribe.Conversion
import Mathlib.Data.List.Basic

namespace CurlScribe

open Go

/-- The options that shape a request. -/
def shapingOptions : List String :=
  ["url", "H", "header", "I", "head", "request", "X", "d", "data", "data-binary", "data-raw",
    "user", "u", "k", "insecure"]

/-- Two commands give the same for each of the options that shape a request. -/
def SameShaping (first second : Command) : Prop :=
  ∀ name ∈ shapingOptions, first.flags.get? name = second.flags.get? name

/-- The options that shape a request, but for those that give its header lines. -/
def besideHeaders : List String :=
  shapingOptions.removeAll ["H", "header"]

/-- Two commands give the same for each of the options that shape a request, but perhaps for the
header lines. -/
def SameBesideHeaders (first second : Command) : Prop :=
  ∀ name ∈ besideHeaders, first.flags.get? name = second.flags.get? name

section Congruence

variable {first second : Command} {name : String}

theorem values_congr (same : first.flags.get? name = second.flags.get? name) :
    first.values name = second.values name := by
  unfold Command.values
  rw [same]

theorem SameShaping.headersOf (same : SameShaping first second) :
    headersOf first = headersOf second := by
  unfold CurlScribe.headersOf
  rw [values_congr (same "H" (by decide)), values_congr (same "header" (by decide))]

theorem SameShaping.beside (same : SameShaping first second) :
    SameBesideHeaders first second :=
  fun name beside => same name ((by decide : besideHeaders ⊆ shapingOptions) beside)

namespace SameBesideHeaders

theorem values (same : SameBesideHeaders first second) (beside : name ∈ besideHeaders) :
    first.values name = second.values name :=
  values_congr (same name beside)

theorem first? (same : SameBesideHeaders first second) (beside : name ∈ besideHeaders) :
    first.first? name = second.first? name :=
  congrArg List.head? (same.values beside)

theorem last? (same : SameBesideHeaders first second) (beside : name ∈ besideHeaders) :
    first.last? name = second.last? name :=
  congrArg List.getLast? (same.values beside)

theorem isSet (same : SameBesideHeaders first second) (beside : name ∈ besideHeaders) :
    first.isSet name = second.isSet name := by
  unfold Command.isSet
  rw [same name beside]

theorem basicAuthOf (same : SameBesideHeaders first second) :
    basicAuthOf first = basicAuthOf second := by
  unfold CurlScribe.basicAuthOf
  rw [same.last? (by decide), same.last? (by decide)]

theorem isInsecure (same : SameBesideHeaders first second) :
    isInsecure first = isInsecure second := by
  unfold CurlScribe.isInsecure
  rw [same.isSet (by decide), same.isSet (by decide)]

theorem dataOf (same : SameBesideHeaders first second) : dataOf first = dataOf second := by
  refine List.flatMap_congr fun flag member => ?_
  rw [same.values ((by decide : ∀ flag ∈ dataFlags, flag.1 ∈ besideHeaders) flag member)]

theorem namedMethod (same : SameBesideHeaders first second) :
    namedMethod first = namedMethod second := by
  unfold CurlScribe.namedMethod
  rw [same.last? (by decide), same.last? (by decide)]

theorem sendsRawData (same : SameBesideHeaders first second) :
    sendsRawData first = sendsRawData second := by
  unfold CurlScribe.sendsRawData
  rw [same.isSet (by decide), same.isSet (by decide)]

theorem methodOf (same : SameBesideHeaders first second) : methodOf first = methodOf second := by
  unfold CurlScribe.methodOf chosenMethod
  rw [same.namedMethod, same.sendsRawData, same.dataOf, same.isSet (by decide),
    same.isSet (by decide)]

theorem encodingOf (same : SameBesideHeaders first second) :
    encodingOf first = encodingOf second := by
  unfold CurlScribe.encodingOf
  rw [same.namedMethod, same.sendsRawData]

theorem addressOf (same : SameBesideHeaders first second)
    (words : first.positionals.take 2 = second.positionals.take 2) :
    addressOf first = addressOf second := by
  have word : first.positionals[1]? = second.positionals[1]? := by
    have taken := congrArg (·[1]?) words
    simpa using taken
  unfold CurlScribe.addressOf
  rw [same.first? (by decide), word]

/-- The header lines shape the headers only: commands whose headers are the same describe the same
request if they agree on the other options and on their first two words. -/
theorem extract_eq (same : SameBesideHeaders first second)
    (words : first.positionals.take 2 = second.positionals.take 2)
    (headers : headersOf first = headersOf second) : extract first = extract second := by
  have word : first.positionals.head? = second.positionals.head? := by
    rw [List.head?_eq_getElem?, List.head?_eq_getElem?]
    have taken := congrArg (·[0]?) words
    simpa using taken
  have request : requestOf first = requestOf second := by
    unfold requestOf
    rw [same.dataOf, headers, same.addressOf words, same.methodOf, same.encodingOf,
      same.basicAuthOf, same.isInsecure]
  unfold extract
  rw [word, request]

end SameBesideHeaders

/-- Commands that agree on their first two words and on the options that shape a request describe
the same request, or fail with the same word. -/
theorem extract_congr (words : first.positionals.take 2 = second.positionals.take 2)
    (same : SameShaping first second) : extract first = extract second :=
  same.beside.extract_eq words same.headersOf

end Congruence

/-- What comes of a command depends on the request that it describes, and on whether it says
anything. -/
theorem result_convertCommand_congr {first second : Command}
    (empty : first.isEmpty = second.isEmpty) (same : extract first = extract second)
    (options : RenderOptions) (typeWriter : TypeWriter) :
    (convertCommand options typeWriter first).result =
      (convertCommand options typeWriter second).result := by
  unfold convertCommand
  rw [empty, same]
  dsimp only
  split
  · rfl
  · split <;> rfl

/-! ### Which options settle what comes of a command -/

/-- Two commands agree on their first two words and on the options of some names. -/
structure AgreeOn (names : List String) (first second : Command) : Prop where
  words : first.positionals.take 2 = second.positionals.take 2
  flags : ∀ name ∈ names, first.flags.get? name = second.flags.get? name

/-- The options of some names settle what comes of a command. Commands that agree on them describe
the same request or fail with the same word; and texts that are read as such commands, and say
anything at all, come to the same code or the same fault. -/
structure Settle (names : List String) : Prop where
  extract_eq : ∀ first second, AgreeOn names first second → extract first = extract second
  result_eq : ∀ first second, AgreeOn names (Command.read first) (Command.read second) →
    (Command.read first).isEmpty = false → (Command.read second).isEmpty = false →
    ∀ options typeWriter, (convertWith options typeWriter first).result =
      (convertWith options typeWriter second).result

theorem AgreeOn.extract_eq {names : List String} {first second : Command}
    (agree : AgreeOn names first second) (shaping : shapingOptions ⊆ names) :
    extract first = extract second :=
  extract_congr agree.words fun name shapes => agree.flags name (shaping shapes)

/-- A command that asks for an address and gives at most one option, with one value. The value is an
address, a header, a method, data and credentials alike. -/
def asking (given : List String) : Command where
  positionals := ["curl", "localhost"]
  flags := ⟨given.map fun name => (name, .values ["a:b"])⟩

/-- An option changes nothing under another name. -/
theorem agreeOn_asking {names : List String} {name : String} (other : name ∉ names) :
    AgreeOn names (asking []) (asking [name]) where
  words := rfl
  flags := by
    intro asked member
    have apart : name ≠ asked := fun same => other (same ▸ member)
    exact (if_neg apart).symm

/-- Each of the options that shape a request can make a difference on its own. -/
theorem extract_asking_ne {name : String} (shapes : name ∈ shapingOptions) :
    extract (asking []) ≠ extract (asking [name]) := by
  have differ : ∀ name ∈ shapingOptions, requestOf (asking []) ≠ requestOf (asking [name]) := by
    decide +kernel
  exact fun same => differ name shapes (Except.ok.inj same)

/-- Every option is ignored but those that shape a request, and none of these is: the options of
some names settle what comes of a command if and only if all of these are among them. -/
theorem settle_iff (names : List String) : Settle names ↔ shapingOptions ⊆ names := by
  constructor
  · intro settle name shapes
    by_contra other
    exact extract_asking_ne shapes (settle.extract_eq _ _ (agreeOn_asking other))
  · intro shaping
    exact {
      extract_eq := fun first second agree => agree.extract_eq shaping
      result_eq := fun first second agree firstSays secondSays options typeWriter =>
        result_convertCommand_congr (firstSays.trans secondSays.symm) (agree.extract_eq shaping)
          options typeWriter }

end CurlScribe
