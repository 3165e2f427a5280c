/-
This file proves that a run asks only for code whose type has a name that can be used. The name
is the built-in one, that of the settings, or that of the arguments. A file of settings with a
bad name is rejected as a whole and the built-in settings take its place, and a bad name in the
arguments stops the run, so no combination of the sources lets a bad name through.

The generator has a name of its own to fall back on, and it warns whenever it does. The warnings
of generated code are settled part by part: the only other one is about a body that is no JSON
document. No run gives the warning about the name.
-/

import CurlScribe.Proofs.WholeRuns
import Mathlib.Tactic.SplitIfs

namespace CurlScribe

open Go

/-! ### Names in settings -/

namespace Settings

/-- A text holds settings exactly if it is a document that describes them, whatever else is in it,
and their name for types can be used. -/
theorem read_eq_ok_iff {text : String} {settings : Settings} :
    Settings.read text = .ok settings ↔
      ∃ document, Toml.read text = some document ∧ settings.IsDescribedBy document ∧
        isTypeName settings.typeName = true := by
  simp only [isDescribedBy_iff]
  unfold Settings.read
  cases read : Toml.read text with
  | none => simp
  | some document =>
    simp only [Option.some.injEq, exists_eq_left']
    split_ifs with usable
    · rw [Except.ok.injEq]
      exact ⟨fun same => ⟨same, same ▸ usable⟩, And.left⟩
    · refine iff_of_false nofun ?_
      rintro ⟨rfl, accepted⟩
      exact usable accepted

/-- Whatever is found where the file should be, the name in the settings can be used. -/
theorem isTypeName_effectiveSettings (file : FileState) :
    isTypeName (effectiveSettings file).1.typeName = true := by
  unfold effectiveSettings
  cases found : ofFile file with
  | error fault => exact isTypeName_defaultTypeName
  | ok settings =>
    cases file with
    | missing =>
      obtain rfl := Except.ok.inj found
      exact isTypeName_defaultTypeName
    | unreadable fault => cases found
    | content text =>
      obtain ⟨-, -, -, usable⟩ := read_eq_ok_iff.1 found
      exact usable

end Settings

/-! ### Names in options -/

/-- Options keep the name of the settings, or take one that can be used from the arguments. -/
theorem isTypeName_of_effectiveOptions {arguments : Arguments} {settings : Settings}
    {options : RenderOptions} (usable : isTypeName settings.typeName = true)
    (shaped : effectiveOptions arguments settings = .ok options) :
    isTypeName options.typeName = true := by
  obtain ⟨given, kept, -, -⟩ := shape_iff.2 shaped
  cases name : arguments.typeName with
  | none => rwa [kept name]
  | some asked =>
    obtain ⟨accepted, same⟩ := given asked name
    rwa [same]

/-! ### Warnings of generated code -/

namespace Go

section Warnings

variable {Part : Type}

@[simp] theorem warnings_emit (statements : List Statement) :
    (Draft.emit statements).warnings = [] := rfl

@[simp] theorem warnings_require (packages : List Package) :
    (Draft.require packages).warnings = [] := rfl

@[simp] theorem warnings_requireFor (values : List String) :
    (Draft.requireFor values).warnings = [] := rfl

@[simp] theorem warnings_warn (warning : Warning) : (Draft.warn warning).warnings = [warning] := rfl

@[simp] theorem warnings_concat (parts : List Part) (write : Part → Draft) :
    (Draft.concat (parts.map write)).warnings = parts.flatMap fun part => (write part).warnings := by
  induction parts with
  | nil => rfl
  | cons part rest inductionHypothesis =>
    exact congrArg ((write part).warnings ++ ·) inductionHypothesis

theorem flatMap_warnings_eq_nil {parts : List Part} {write : Part → Draft}
    (silent : ∀ part, (write part).warnings = []) :
    parts.flatMap (fun part => (write part).warnings) = [] :=
  List.flatMap_eq_nil_iff.2 fun part _ => silent part

end Warnings

/-- What the user is told about inline text: that it is no JSON document though it is sent as one. -/
def payloadWarnings (style : BodyStyle) : Payload → List Warning
  | .json content =>
    if (style.typeWriter content style.typeName).isNone then [.bodyNotJson] else []
  | _ => []

theorem warnings_writeString (encoding : BodyEncoding) (content : String) :
    (writeString encoding content).warnings = [] := rfl

theorem warnings_writeDocument (typeName definition : String) :
    (writeDocument typeName definition).warnings = [] := rfl

theorem warnings_writeForm (content : String) : (writeForm content).warnings = [] := by
  simp only [writeForm, Draft.warnings_append, warnings_require, warnings_emit, warnings_concat,
    List.nil_append, List.append_nil]
  exact flatMap_warnings_eq_nil fun _ => rfl

theorem warnings_writePayload (style : BodyStyle) (payload : Payload) :
    (writePayload style payload).warnings = payloadWarnings style payload := by
  cases payload with
  | json content =>
    cases written : style.typeWriter content style.typeName <;>
      simp [writePayload, payloadWarnings, written, warnings_writeString, warnings_writeDocument]
  | form content => simp [writePayload, payloadWarnings, warnings_writeForm]
  | text content => simp [writePayload, payloadWarnings, warnings_writeString]

theorem warnings_joinReaders (readers : List String) : (joinReaders readers).1.warnings = [] := by
  match readers with
  | [] => rfl
  | [_] => rfl
  | _ :: _ :: _ => rfl

theorem warnings_writeBody (style : BodyStyle) (body : Body) :
    (writeBody style body).1.warnings = body.payload?.toList.flatMap (payloadWarnings style) := by
  simp only [writeBody, Draft.warnings_append, warnings_concat, warnings_joinReaders,
    List.append_nil, warnings_writePayload]
  rw [flatMap_warnings_eq_nil fun _ => rfl, List.append_nil]

theorem warnings_writeHeaders (headers : Headers) : (writeHeaders headers).warnings = [] := by
  simp only [writeHeaders, Draft.warnings_append, warnings_concat]
  rw [flatMap_warnings_eq_nil fun _ => rfl, flatMap_warnings_eq_nil fun _ => rfl]
  rfl

theorem warnings_draftSimple (method url : String) : (draftSimple method url).warnings = [] := by
  unfold draftSimple
  dsimp only
  split_ifs <;> rfl

theorem warnings_draftBuilt (style : BodyStyle) (request : Request) :
    (draftBuilt style request).warnings =
      request.body.payload?.toList.flatMap (payloadWarnings style) := by
  have client : (if request.insecure then writeInsecureClient else {}).warnings = [] := by
    split_ifs <;> rfl
  unfold draftBuilt
  simp only [Draft.warnings_append, warnings_require, warnings_requireFor, warnings_emit,
    warnings_concat, client, warnings_writeBody, warnings_writeHeaders, List.nil_append,
    List.append_nil]
  rw [flatMap_warnings_eq_nil fun _ => rfl, List.append_nil]

/-- The warnings do not tell that the generator falls back on its own name. -/
def NoFallback (warnings : List Warning) : Prop :=
  Warning.typeNameUnusable ∉ warnings

theorem noFallback_payloadWarnings (style : BodyStyle) (payload : Payload) :
    NoFallback (payloadWarnings style payload) := by
  unfold NoFallback payloadWarnings
  split
  · split_ifs <;> decide
  · exact List.not_mem_nil

/-- The generator warns of a name exactly if it falls back on another one. -/
theorem typeNameUnusable_mem_render_iff (options : RenderOptions) (typeWriter : TypeWriter)
    (request : Request) :
    Warning.typeNameUnusable ∈ (render options typeWriter request).warnings ↔
      request.isSimple = false ∧ isTypeName options.typeName = false := by
  have others (style : BodyStyle) :
      Warning.typeNameUnusable ∉ request.body.payload?.toList.flatMap (payloadWarnings style) := by
    intro member
    obtain ⟨payload, -, found⟩ := List.mem_flatMap.1 member
    exact noFallback_payloadWarnings style payload found
  show _ ∈ (draft options typeWriter request).warnings ↔ _
  unfold draft
  split_ifs with simple usable
  · simp [warnings_draftSimple, simple]
  · simp [warnings_draftBuilt, others, usable]
  · simp [simple, usable]

end Go

/-! ### Runs -/

/-- The run comes to convert the text with the options. -/
inductive Converts (surroundings : Surroundings) : RenderOptions → String → Prop
  | reached {arguments : Arguments} {options : RenderOptions} {text : String}
      (read : Arguments.read surroundings.words = .ok arguments)
      (ordinary : (arguments.completions.isSome || arguments.manpage) = false)
      (shaped : effectiveOptions arguments (effectiveSettings surroundings.settingsFile).1 =
        .ok options)
      (given : commandText arguments.command surroundings.input = .ok text) :
      Converts surroundings options text

theorem infix_warnings_work {system : System} {arguments : Arguments} {settings : Settings}
    {options : RenderOptions} {input : Input} {text : String}
    (shaped : effectiveOptions arguments settings = .ok options)
    (given : commandText arguments.command input = .ok text) (before : List Warning) :
    (convert options text).warnings <:+: (work system arguments settings input before).warnings := by
  unfold work
  rw [shaped, given]
  dsimp only
  split
  · exact (List.suffix_append _ _).isInfix
  · exact List.infix_append _ _ _

/-- What the conversion warns of, the run warns of. -/
theorem Converts.infix_warnings {surroundings : Surroundings} {options : RenderOptions}
    {text : String} (converts : Converts surroundings options text) (system : System) :
    (convert options text).warnings <:+: (runIn system surroundings).warnings := by
  obtain ⟨read, ordinary, shaped, given⟩ := converts
  unfold runIn
  rw [read]
  dsimp only
  rw [if_neg (Bool.eq_false_iff.1 ordinary)]
  exact infix_warnings_work shaped given _

/-- A run that asks for no other text succeeds only by converting. -/
theorem exists_converts {system : System} {surroundings : Surroundings}
    (noText : ¬ AsksForText surroundings.words)
    (noGenerated : ¬ AsksForGenerated surroundings.words)
    (succeeds : (runIn system surroundings).status = 0) :
    ∃ options text, Converts surroundings options text := by
  unfold runIn at succeeds
  split at succeeds
  · rename_i full read
    exact absurd (Or.inl ⟨full, read⟩) noText
  · rename_i read
    exact absurd (Or.inr read) noText
  · cases succeeds
  · rename_i arguments read
    split_ifs at succeeds with generated
    · exact absurd ⟨arguments, read, generated⟩ noGenerated
    · obtain ⟨options, text, code, shaped, given, -⟩ := work_prints_iff.1 ⟨succeeds, rfl⟩
      exact ⟨options, text, .reached read (Bool.eq_false_iff.2 generated) shaped given⟩

theorem isTypeName_of_converts {surroundings : Surroundings} {options : RenderOptions}
    {text : String} (converts : Converts surroundings options text) :
    isTypeName options.typeName = true := by
  obtain ⟨-, -, shaped, -⟩ := converts
  exact isTypeName_of_effectiveOptions (Settings.isTypeName_effectiveSettings _) shaped

theorem NoFallback.append {first second : List Warning} (isFirst : NoFallback first)
    (isSecond : NoFallback second) : NoFallback (first ++ second) :=
  fun member => (List.mem_append.1 member).elim isFirst isSecond

theorem noFallback_convert {options : RenderOptions} (usable : isTypeName options.typeName = true)
    (text : String) : NoFallback (convert options text).warnings := by
  have unclosed : NoFallback ((Command.read text).unclosed.toList.map
      fun _ => Warning.commandUnclosed) := by
    cases (Command.read text).unclosed <;> simp [NoFallback]
  unfold convert convertWith convertCommand
  dsimp only
  split_ifs
  · exact unclosed
  · split
    · exact unclosed
    · refine NoFallback.append unclosed fun told => ?_
      have fallsBack := ((typeNameUnusable_mem_render_iff ..).1 told).2
      rw [usable] at fallsBack
      cases fallsBack

theorem noFallback_printedCode (system : System) (formats : Bool) (formatter code : String) :
    NoFallback (printedCode system formats formatter code).2 := by
  unfold printedCode NoFallback
  split_ifs
  · split <;> simp
  · simp

theorem noFallback_effectiveSettings (file : FileState) :
    NoFallback (effectiveSettings file).2 := by
  unfold effectiveSettings NoFallback
  split <;> simp

theorem noFallback_work {system : System} {arguments : Arguments} {settings : Settings}
    {input : Input} {warnings : List Warning} (usable : isTypeName settings.typeName = true)
    (before : NoFallback warnings) :
    NoFallback (work system arguments settings input warnings).warnings := by
  unfold work
  split
  · exact before
  · exact before
  · rename_i options text shaped given
    have converted := NoFallback.append before
      (noFallback_convert (isTypeName_of_effectiveOptions usable shaped) text)
    dsimp only
    split
    · exact converted
    · exact NoFallback.append converted (noFallback_printedCode _ _ _ _)

theorem noFallback_runIn (system : System) (surroundings : Surroundings) :
    NoFallback (runIn system surroundings).warnings := by
  unfold runIn
  split
  · exact List.not_mem_nil
  · exact List.not_mem_nil
  · exact List.not_mem_nil
  · split_ifs
    · exact List.not_mem_nil
    · exact noFallback_work (Settings.isTypeName_effectiveSettings _)
        (noFallback_effectiveSettings _)

/-- Options that a run converts a command with name a type that can be used, and the generator takes
that name. A run that asks for no other text succeeds only by converting, and it passes on what the
conversion warns of. The generator warns where it would take another name, and no run gives this
warning. Settings are read from a text exactly if it is a document that describes them and their
name can be used. -/
theorem typeName_isUsable_in_run (system : System) (surroundings : Surroundings) :
    (∀ options text, Converts surroundings options text →
      isTypeName options.typeName = true ∧ options.effectiveTypeName = options.typeName ∧
      (convert options text).warnings <:+: (runIn system surroundings).warnings) ∧
    (¬ AsksForText surroundings.words → ¬ AsksForGenerated surroundings.words →
      (runIn system surroundings).status = 0 →
        ∃ options text, Converts surroundings options text) ∧
    (∀ options typeWriter request,
      Warning.typeNameUnusable ∈ (render options typeWriter request).warnings ↔
        request.isSimple = false ∧ isTypeName options.typeName = false) ∧
    Warning.typeNameUnusable ∉ (runIn system surroundings).warnings ∧
    ∀ text settings, Settings.read text = .ok settings ↔
      ∃ document, Toml.read text = some document ∧ settings.IsDescribedBy document ∧
        isTypeName settings.typeName = true := by
  refine ⟨fun options text converts => ?_, exists_converts, typeNameUnusable_mem_render_iff,
    noFallback_runIn system surroundings, fun _ _ => Settings.read_eq_ok_iff⟩
  have usable := isTypeName_of_converts converts
  exact ⟨usable, if_pos usable, converts.infix_warnings system⟩

/-- The file of settings has a bad name, so the run works with the built-in settings. -/
theorem typeName_isUsable_in_run_rejected :
    let surroundings : Surroundings :=
      { words := ["--standalone", "curl", "-d", "\x7b\"a b\":1\x7d", "x"]
        settingsFile := .content "[output]\nbanner = false\ntype_name = \"1\"\n"
        input := .terminal }
    let options : RenderOptions := { typeName := "Payload", banner := true, standalone := true }
    ∃ text, Converts surroundings options text ∧ isTypeName options.typeName = true ∧
      options.effectiveTypeName = options.typeName ∧
      (¬ AsksForText surroundings.words ∧ ¬ AsksForGenerated surroundings.words ∧
        (runIn runProgram surroundings).status = 0 ∧
        ∃ options text, Converts surroundings options text) ∧
      Warning.typeNameUnusable ∉ (runIn runProgram surroundings).warnings := by
  intro surroundings options
  have settings : (effectiveSettings surroundings.settingsFile).1 = {} := by decide +kernel
  have read : Arguments.read surroundings.words =
      .ok { command := ["curl", "-d", "\x7b\"a b\":1\x7d", "x"], standalone := true } := rfl
  have converts : Converts surroundings options _ :=
    .reached read rfl (by rw [settings]; rfl) rfl
  have noText : ¬ AsksForText surroundings.words := not_asksForText read
  have noGenerated : ¬ AsksForGenerated surroundings.words := not_asksForGenerated (by decide)
  have succeeds : (runIn runProgram surroundings).status = 0 := by decide +kernel
  obtain ⟨usable, only, -, silent, -⟩ := typeName_isUsable_in_run runProgram surroundings
  obtain ⟨name, kept, -⟩ := usable options _ converts
  exact ⟨_, converts, name, kept,
    ⟨noText, noGenerated, succeeds, only noText noGenerated succeeds⟩, silent⟩

end CurlScribe
