/-
This file says what a run prints: all of the code for one command, or nothing. What the code
depends on is described apart from the steps of a run: the settings in force, the options that
come of them and of the arguments, the text of the command, the code that a formatter makes of
it, and the line feed at its end. Each step finds exactly what is described, so a run prints
the one text that fits the descriptions, and fails and prints nothing if there is none. No
description asks for a file of settings that can be used or for a formatter that succeeds.
-/

import CurlScribe.Session

namespace CurlScribe

open Go

/-! ### Settings in force -/

/-- The document has a value of a kind under a key of the table `output`. -/
def Toml.Value.Sets {Content : Type} (document : Toml.Value)
    (kind : Toml.Value → Option Content) (key : String) (content : Content) : Prop :=
  ∃ table value, document.get? "output" = some table ∧ table.get? key = some value ∧
    kind value = some content

/-- The content is the one that the document has under a key, or the default if it has none of
this kind there. -/
def Toml.Value.Yields {Content : Type} (document : Toml.Value)
    (kind : Toml.Value → Option Content) (key : String) (default content : Content) : Prop :=
  document.Sets kind key content ∨ (∀ other, ¬ document.Sets kind key other) ∧ content = default

namespace Settings

/-- The document describes the settings, each by its key and with its default. -/
structure IsDescribedBy (settings : Settings) (document : Toml.Value) : Prop where
  banner : document.Yields Toml.Value.asBoolean? "banner" true settings.banner
  standalone : document.Yields Toml.Value.asBoolean? "standalone" false settings.standalone
  typeName : document.Yields Toml.Value.asString? "type_name" "Payload" settings.typeName
  formats : document.Yields Toml.Value.asBoolean? "gofmt" false settings.formats
  formatter : document.Yields Toml.Value.asString? "gofmt_program" "gofmt" settings.formatter

/-- The settings are in force, given what is found where the file of settings should be. A file
counts as a whole: if its name for types cannot be used, none of its settings is. -/
inductive InForce : FileState → Settings → Prop
  | missing : InForce .missing {}
  | unreadable {fault : SystemFault} : InForce (.unreadable fault) {}
  | notToml {text : String} (foreign : Toml.read text = none) : InForce (.content text) {}
  | badName {text : String} {document : Toml.Value} {rejected : Settings}
      (read : Toml.read text = some document) (described : rejected.IsDescribedBy document)
      (unusable : isTypeName rejected.typeName = false) : InForce (.content text) {}
  | usable {text : String} {document : Toml.Value} {settings : Settings}
      (read : Toml.read text = some document) (described : settings.IsDescribedBy document)
      (usable : isTypeName settings.typeName = true) : InForce (.content text) settings

end Settings

section Document

variable {Content : Type} {document : Toml.Value} {kind : Toml.Value → Option Content}
  {key : String} {content default : Content}

theorem sets_key_iff :
    document.Sets kind key content ↔ (outputValue? document key).bind kind = some content := by
  rw [Option.bind_eq_some_iff]
  unfold outputValue?
  constructor
  · rintro ⟨table, value, found, isThere, isContent⟩
    exact ⟨value, Option.bind_eq_some_iff.2 ⟨table, found, isThere⟩, isContent⟩
  · rintro ⟨value, isValue, isContent⟩
    obtain ⟨table, found, isThere⟩ := Option.bind_eq_some_iff.1 isValue
    exact ⟨table, value, found, isThere, isContent⟩

theorem yields_key_iff :
    document.Yields kind key default content ↔
      ((outputValue? document key).bind kind).getD default = content := by
  simp only [Toml.Value.Yields, sets_key_iff]
  cases (outputValue? document key).bind kind with
  | none => simp [eq_comm]
  | some found => simp

end Document

namespace Settings

/-- A document describes one list of settings. -/
theorem isDescribedBy_iff {settings : Settings} {document : Toml.Value} :
    settings.IsDescribedBy document ↔ ofDocument document = settings := by
  constructor
  · rintro ⟨banner, standalone, typeName, formats, formatter⟩
    cases settings
    simp only [ofDocument, mk.injEq]
    exact ⟨yields_key_iff.1 banner, yields_key_iff.1 standalone, yields_key_iff.1 typeName,
      yields_key_iff.1 formats, yields_key_iff.1 formatter⟩
  · rintro rfl
    exact ⟨yields_key_iff.2 rfl, yields_key_iff.2 rfl, yields_key_iff.2 rfl,
      yields_key_iff.2 rfl, yields_key_iff.2 rfl⟩

/-- The settings that a run works with are the ones in force. -/
theorem inForce_iff {file : FileState} {settings : Settings} :
    InForce file settings ↔ (effectiveSettings file).1 = settings := by
  constructor
  · intro inForce
    cases inForce with
    | missing => rfl
    | unreadable => rfl
    | notToml foreign => simp [effectiveSettings, ofFile, Settings.read, foreign]
    | badName read described unusable =>
      obtain rfl := isDescribedBy_iff.1 described
      simp [effectiveSettings, ofFile, Settings.read, read, unusable]
    | usable read described usable =>
      obtain rfl := isDescribedBy_iff.1 described
      simp [effectiveSettings, ofFile, Settings.read, read, usable]
  · rintro rfl
    cases file with
    | missing => exact .missing
    | unreadable fault => exact .unreadable
    | content text =>
      cases read : Toml.read text with
      | none =>
        simpa [effectiveSettings, ofFile, Settings.read, read] using InForce.notToml read
      | some document =>
        have described := isDescribedBy_iff.2 (Eq.refl (ofDocument document))
        cases usable : isTypeName (ofDocument document).typeName with
        | false =>
          simpa [effectiveSettings, ofFile, Settings.read, read, usable] using
            InForce.badName read described usable
        | true =>
          simpa [effectiveSettings, ofFile, Settings.read, read, usable] using
            InForce.usable read described usable

end Settings

/-! ### Options in force -/

/-- The options are those of the settings, overridden by those of the arguments: a name for types
that is given has to be one that can be used, and takes the place of the other. -/
structure Arguments.Shape (arguments : Arguments) (settings : Settings) (options : RenderOptions) :
    Prop where
  given : ∀ name, arguments.typeName = some name →
    isTypeName name = true ∧ options.typeName = name
  kept : arguments.typeName = none → options.typeName = settings.typeName
  standalone : options.standalone = true ↔
    arguments.standalone = true ∨ settings.standalone = true
  banner : options.banner = true ↔ arguments.noBanner = false ∧ settings.banner = true

/-- The options that a run works with are the ones in force. -/
theorem shape_iff {arguments : Arguments} {settings : Settings} {options : RenderOptions} :
    arguments.Shape settings options ↔ effectiveOptions arguments settings = .ok options := by
  constructor
  · rintro ⟨given, kept, standalone, banner⟩
    have isStandalone : (settings.standalone || arguments.standalone) = options.standalone := by
      rw [Bool.eq_iff_iff, standalone, Bool.or_eq_true, or_comm]
    have hasBanner : (settings.banner && !arguments.noBanner) = options.banner := by
      rw [Bool.eq_iff_iff, banner, Bool.and_eq_true, Bool.not_eq_true', and_comm]
    unfold effectiveOptions
    rw [isStandalone, hasBanner]
    cases typeName : arguments.typeName with
    | none => simp [Settings.renderOptions, ← kept typeName]
    | some name =>
      obtain ⟨usable, rfl⟩ := given name typeName
      simp [usable]
  · intro found
    unfold effectiveOptions at found
    cases typeName : arguments.typeName with
    | none =>
      rw [typeName] at found
      obtain rfl := Except.ok.inj found
      exact ⟨by simp [typeName], fun _ => rfl, by simp [or_comm], by simp [and_comm]⟩
    | some name =>
      simp only [typeName] at found
      split at found
      · rename_i usable
        obtain rfl := Except.ok.inj found
        exact ⟨by simpa [typeName] using usable, by simp [typeName], by simp [or_comm],
          by simp [and_comm]⟩
      · cases found

/-! ### The text of the command -/

/-- The text is that of the command: what there is to read if there are no words or only a dash,
the word itself if it is another one, and several words put back into quotes where they need
them. -/
inductive ChosenText : List String → Input → String → Prop
  | noWord {text : String} : ChosenText [] (.text text) text
  | dash {text : String} : ChosenText ["-"] (.text text) text
  | word {word : String} {input : Input} (plain : word ≠ "-") : ChosenText [word] input word
  | words {first second : String} {others : List String} {input : Input} :
      ChosenText (first :: second :: others) input
        (" ".intercalate ((first :: second :: others).map shellWord))

theorem commandText_word {word : String} (plain : word ≠ "-") (input : Input) :
    commandText [word] input = .ok word := by
  simp [commandText, readsInput, commandLine, plain]

theorem commandText_words (first second : String) (others : List String) (input : Input) :
    commandText (first :: second :: others) input =
      .ok (" ".intercalate ((first :: second :: others).map shellWord)) := by
  simp [commandText, readsInput, commandLine]

/-- The text that a run converts is that of the command. -/
theorem chosenText_iff {words : List String} {input : Input} {text : String} :
    ChosenText words input text ↔ commandText words input = .ok text := by
  constructor
  · intro chosen
    cases chosen with
    | noWord => rfl
    | dash => rfl
    | word plain => exact commandText_word plain input
    | words => exact commandText_words ..
  · intro found
    match words with
    | [] =>
      cases input with
      | text content =>
        obtain rfl := Except.ok.inj found
        exact .noWord
      | terminal => cases found
      | badBytes => cases found
    | [word] =>
      by_cases plain : word = "-"
      · subst plain
        cases input with
        | text content =>
          obtain rfl := Except.ok.inj found
          exact .dash
        | terminal => cases found
        | badBytes => cases found
      · obtain rfl := Except.ok.inj ((commandText_word plain input).symm.trans found)
        exact .word plain
    | first :: second :: others =>
      obtain rfl := Except.ok.inj ((commandText_words first second others input).symm.trans found)
      exact .words

/-! ### The printed text -/

/-- The text is what becomes of the code: what a program prints that is asked to format it and
succeeds in printing a text, and the code itself in all other cases. -/
inductive Formatted (system : System) (asked : Prop) (program code : String) : String → Prop
  | unasked (off : ¬ asked) : Formatted system asked program code code
  | printed {text : String} (on : asked) (succeeds : system program code = .ok (.printed text)) :
      Formatted system asked program code text
  | kept (on : asked) (fails : ∀ text, system program code ≠ .ok (.printed text)) :
      Formatted system asked program code code

/-- The output is the text with one line feed more if it does not end in one. -/
inductive EndsLine : String → String → Prop
  | ended (front : String) : EndsLine (front ++ "\n") (front ++ "\n")
  | added {text : String} (unended : ∀ front, text ≠ front ++ "\n") :
      EndsLine text (text ++ "\n")

/-- Code is formatted only by a program that succeeds in printing a text. -/
theorem formatCodeIn_eq_ok_iff {system : System} {program code text : String} :
    formatCodeIn system program code = .ok text ↔ system program code = .ok (.printed text) := by
  unfold formatCodeIn
  split <;> simp [*]

/-- The code that a run prints is what becomes of it. -/
theorem formatted_iff {system : System} {asked : Prop} {formats : Bool}
    (asks : formats = true ↔ asked) {program code text : String} :
    Formatted system asked program code text ↔
      (printedCode system formats program code).1 = text := by
  obtain rfl := propext asks
  unfold printedCode
  cases formats with
  | false =>
    constructor
    · intro formatted
      cases formatted with
      | unasked off => rfl
      | printed on succeeds => cases on
      | kept on fails => cases on
    · rintro rfl
      exact .unasked nofun
  | true =>
    simp only [if_true]
    constructor
    · intro formatted
      cases formatted with
      | unasked off => exact absurd trivial off
      | printed on succeeds => rw [formatCodeIn_eq_ok_iff.2 succeeds]
      | kept on fails =>
        cases found : formatCodeIn system program code with
        | ok other => exact absurd (formatCodeIn_eq_ok_iff.1 found) (fails other)
        | error fault => rfl
    · rintro rfl
      cases found : formatCodeIn system program code with
      | ok other => exact .printed trivial (formatCodeIn_eq_ok_iff.1 found)
      | error fault =>
        refine .kept trivial fun other succeeds => ?_
        rw [formatCodeIn_eq_ok_iff.2 succeeds] at found
        cases found

theorem getLast?_eq_lineFeed_iff {text : String} :
    text.toList.getLast? = some '\n' ↔ ∃ front, text = front ++ "\n" := by
  rw [List.getLast?_eq_some_iff]
  constructor
  · rintro ⟨front, same⟩
    refine ⟨String.ofList front, String.toList_injective ?_⟩
    simpa using same
  · rintro ⟨front, rfl⟩
    exact ⟨front.toList, by simp⟩

/-- The output of a run ends as it should. -/
theorem endsLine_iff {text output : String} :
    EndsLine text output ↔ withFinalLineFeed text = output := by
  unfold withFinalLineFeed
  constructor
  · intro ends
    cases ends with
    | ended front => exact if_pos (getLast?_eq_lineFeed_iff.2 ⟨front, rfl⟩)
    | added unended =>
      refine if_neg fun ended => ?_
      obtain ⟨front, same⟩ := getLast?_eq_lineFeed_iff.1 ended
      exact unended front same
  · rintro rfl
    split
    · rename_i ended
      obtain ⟨front, rfl⟩ := getLast?_eq_lineFeed_iff.1 ended
      exact .ended front
    · rename_i unended
      exact .added fun front same => unended (getLast?_eq_lineFeed_iff.2 ⟨front, same⟩)

/-! ### Words that ask for another text -/

/-- The words ask for help or for the version. -/
def AsksForText (words : List String) : Prop :=
  (∃ full, Arguments.read words = .error (.help full)) ∨ Arguments.read words = .error .version

/-- The words ask for completions or for the manual. -/
def AsksForGenerated (words : List String) : Prop :=
  ∃ arguments, Arguments.read words = .ok arguments ∧
    (arguments.completions.isSome || arguments.manpage) = true

/-- Words that are read as arguments ask for no text. -/
theorem not_asksForText {words : List String} {arguments : Arguments}
    (read : Arguments.read words = .ok arguments) : ¬ AsksForText words := by
  simp [AsksForText, read]

theorem exists_of_bind_eq_ok {Fault First Second : Type} {first : Except Fault First}
    {next : First → Except Fault Second} {result : Second} (done : first.bind next = .ok result) :
    ∃ value, first = .ok value ∧ next value = .ok result := by
  cases first with
  | ok value => exact ⟨value, rfl, done⟩
  | error fault => cases done

theorem eq_of_guarded_eq_ok {Fault Value : Type} {guard : Prop} [Decidable guard]
    {fault : Fault} {value result : Value}
    (passed : (if guard then .error fault else .ok value : Except Fault Value) = .ok result) :
    value = result := by
  split at passed
  · cases passed
  · exact Except.ok.inj passed

/-- A word with the role keeps what holds of the arguments, whatever stands behind it. -/
def WordRole.Keeps (Holds : Arguments → Prop) : WordRole → Prop
  | .toggle switch => ∀ arguments changed, Holds arguments →
      arguments.switchOn switch = .ok changed → Holds changed
  | .parameter named _ => ∀ arguments value changed, Holds arguments →
      arguments.assign named value = .ok changed → Holds changed
  | _ => True

section Keeps

variable {Holds : Arguments → Prop} {arguments result : Arguments}

/-- A parameter that waits is named by none of the words behind it and has to keep on its own what
holds. -/
theorem holds_of_settle {awaited : Option Awaited}
    (waits : ∀ pending ∈ awaited, (WordRole.parameter pending.parameter none).Keeps Holds)
    (holds : Holds arguments) (settled : settle arguments awaited = .ok result) : Holds result := by
  match awaited with
  | none =>
    obtain rfl := Except.ok.inj settled
    exact holds
  | some ⟨parameter, none⟩ => cases settled
  | some ⟨parameter, some value⟩ => exact waits _ rfl _ _ _ holds settled

/-- What holds of the arguments and is kept by each option that the words name holds of what is
read. -/
theorem holds_of_readFrom {awaited : Option Awaited} {words : List String}
    (command : ∀ arguments words, Holds arguments →
      Holds { arguments with command := words })
    (keeps : ∀ word ∈ words, (roleOfWord word).Keeps Holds)
    (waits : ∀ pending ∈ awaited, (WordRole.parameter pending.parameter none).Keeps Holds)
    (holds : Holds arguments) (read : readFrom arguments awaited words = .ok result) :
    Holds result := by
  induction words generalizing arguments awaited with
  | nil => exact holds_of_settle waits holds read
  | cons word rest inductionHypothesis =>
    obtain ⟨kept, others⟩ := List.forall_mem_cons.1 keeps
    unfold readFrom at read
    cases role : roleOfWord word with
    | surplus =>
      rw [role] at read
      cases read
    | other =>
      rw [role] at read
      match awaited with
      | some ⟨parameter, none⟩ =>
        exact inductionHypothesis others (by simpa using waits) holds read
      | none | some ⟨parameter, some value⟩ =>
        obtain ⟨settled, settles, starts⟩ := exists_of_bind_eq_ok read
        obtain rfl := Except.ok.inj starts
        exact command _ _ (holds_of_settle waits holds settles)
    | endOfOptions =>
      rw [role] at read
      obtain ⟨settled, settles, starts⟩ := exists_of_bind_eq_ok read
      obtain rfl := Except.ok.inj starts
      exact command _ _ (holds_of_settle waits holds settles)
    | help full =>
      rw [role] at read
      obtain ⟨settled, settles, stops⟩ := exists_of_bind_eq_ok read
      cases stops
    | version =>
      rw [role] at read
      obtain ⟨settled, settles, stops⟩ := exists_of_bind_eq_ok read
      cases stops
    | toggle switch =>
      rw [role] at read kept
      obtain ⟨settled, settles, goesOn⟩ := exists_of_bind_eq_ok read
      obtain ⟨changed, switched, later⟩ := exists_of_bind_eq_ok goesOn
      have holdsNow := kept _ _ (holds_of_settle waits holds settles) switched
      exact inductionHypothesis others (by simp) holdsNow later
    | parameter named value =>
      rw [role] at read kept
      obtain ⟨settled, settles, goesOn⟩ := exists_of_bind_eq_ok read
      have holdsNow := holds_of_settle waits holds settles
      cases value with
      | none => exact inductionHypothesis others (by simpa using kept) holdsNow goesOn
      | some value =>
        obtain ⟨changed, assigned, later⟩ := exists_of_bind_eq_ok goesOn
        exact inductionHypothesis others (by simp) (kept _ _ _ holdsNow assigned) later

end Keeps

/-- A word with the role asks for completions or for the manual. -/
def WordRole.generates : WordRole → Bool
  | .toggle .manpage | .parameter .completions _ => true
  | _ => false

/-- Other options leave it open whether completions or the manual are asked for. -/
theorem keeps_of_not_generates {role : WordRole} (other : role.generates = false) :
    role.Keeps fun arguments => arguments.completions = none ∧ arguments.manpage = false := by
  match role with
  | .toggle switch =>
    intro arguments changed holds switched
    cases switch with
    | manpage => cases other
    | standalone | noBanner | gofmt | debug =>
      obtain rfl := eq_of_guarded_eq_ok switched
      exact holds
  | .parameter named _ =>
    intro arguments value changed holds assigned
    unfold Arguments.assign at assigned
    split at assigned
    · cases assigned
    · cases named with
      | completions => cases other
      | typeName =>
        obtain rfl := Except.ok.inj assigned
        exact holds
      | logFormat =>
        simp only at assigned
        split at assigned
        · obtain rfl := Except.ok.inj assigned
          exact holds
        · cases assigned
  | .endOfOptions | .help _ | .version | .surplus | .other => trivial

/-- Words of which none asks for completions or for the manual do not ask for them together. -/
theorem not_asksForGenerated {words : List String}
    (without : ∀ word ∈ words, (roleOfWord word).generates = false) : ¬ AsksForGenerated words := by
  rintro ⟨arguments, read, asks⟩
  obtain ⟨noShell, noManual⟩ := holds_of_readFrom (fun _ _ holds => holds)
    (fun word member => keeps_of_not_generates (without word member)) (by simp) ⟨rfl, rfl⟩ read
  simp [noShell, noManual] at asks

/-! ### Runs -/

/-- The run is to print the output: it is the code for the text of the command under the options
in force, formatted if that is asked for, with a line feed at its end. -/
inductive Prints (system : System) (surroundings : Surroundings) : String → Prop
  | whole {arguments : Arguments} {settings : Settings} {options : RenderOptions}
      {text code formatted output : String}
      (read : Arguments.read surroundings.words = .ok arguments)
      (inForce : Settings.InForce surroundings.settingsFile settings)
      (shape : arguments.Shape settings options)
      (chosen : ChosenText arguments.command surroundings.input text)
      (converted : (convert options text).result = .ok code)
      (becomes : Formatted system (arguments.gofmt = true ∨ settings.formats = true)
        settings.formatter code formatted)
      (ends : EndsLine formatted output) : Prints system surroundings output

/-- The outcome is a success, or a failure that prints nothing. -/
def Outcome.IsWhole (outcome : Outcome) : Prop :=
  outcome.status = 0 ∨ outcome.status = 1 ∧ outcome.output = ""

/-- What a run is to print is what its steps find. -/
theorem prints_iff {system : System} {surroundings : Surroundings} {arguments : Arguments}
    {output : String} (read : Arguments.read surroundings.words = .ok arguments) :
    let settings := (effectiveSettings surroundings.settingsFile).1
    Prints system surroundings output ↔
      ∃ options text code, effectiveOptions arguments settings = .ok options ∧
        commandText arguments.command surroundings.input = .ok text ∧
        (convert options text).result = .ok code ∧
        withFinalLineFeed (printedCode system (arguments.gofmt || settings.formats)
          settings.formatter code).1 = output := by
  constructor
  · rintro ⟨isRead, inForce, shape, chosen, converted, becomes, ends⟩
    obtain rfl := Except.ok.inj (read.symm.trans isRead)
    obtain rfl := Settings.inForce_iff.1 inForce
    obtain rfl := (formatted_iff Bool.or_eq_true_iff).1 becomes
    exact ⟨_, _, _, shape_iff.1 shape, chosenText_iff.1 chosen, converted, endsLine_iff.1 ends⟩
  · rintro ⟨options, text, code, shape, chosen, converted, ends⟩
    exact .whole read (Settings.inForce_iff.2 rfl) (shape_iff.2 shape)
      (chosenText_iff.2 chosen) converted ((formatted_iff Bool.or_eq_true_iff).2 rfl)
      (endsLine_iff.2 ends)

/-- Work on a command succeeds with an output exactly if each step finds its part. -/
theorem work_prints_iff {system : System} {arguments : Arguments} {settings : Settings}
    {input : Input} {warnings : List Warning} {output : String} :
    ((work system arguments settings input warnings).status = 0 ∧
      (work system arguments settings input warnings).output = output) ↔
    ∃ options text code, effectiveOptions arguments settings = .ok options ∧
      commandText arguments.command input = .ok text ∧ (convert options text).result = .ok code ∧
      withFinalLineFeed (printedCode system (arguments.gofmt || settings.formats)
        settings.formatter code).1 = output := by
  unfold work
  cases effectiveOptions arguments settings with
  | error fault => simp [Outcome.failure]
  | ok options =>
    cases commandText arguments.command input with
    | error fault => simp [Outcome.failure]
    | ok text =>
      cases converted : (convert options text).result with
      | error fault => simp [Outcome.failure, converted]
      | ok code => simp [Outcome.success, converted]

theorem isWhole_work (system : System) (arguments : Arguments) (settings : Settings)
    (input : Input) (warnings : List Warning) :
    (work system arguments settings input warnings).IsWhole := by
  unfold work
  split
  · exact Or.inr ⟨rfl, rfl⟩
  · exact Or.inr ⟨rfl, rfl⟩
  · simp only
    split
    · exact Or.inr ⟨rfl, rfl⟩
    · exact Or.inl rfl

/-- A run that asks for no generated text succeeds, or fails and prints nothing. If it asks for no
text about the program either, it succeeds with an output exactly if that is the one that is to be
printed. -/
theorem runIn_prints_iff (system : System) (surroundings : Surroundings)
    (ordinary : ¬ AsksForGenerated surroundings.words) :
    (runIn system surroundings).IsWhole ∧
      (¬ AsksForText surroundings.words → ∀ output,
        ((runIn system surroundings).status = 0 ∧ (runIn system surroundings).output = output) ↔
          Prints system surroundings output) := by
  cases read : Arguments.read surroundings.words with
  | error stop =>
    have nothing (output : String) : ¬ Prints system surroundings output := by
      rintro ⟨isRead⟩
      rw [read] at isRead
      cases isRead
    unfold runIn
    rw [read]
    cases stop with
    | help full => exact ⟨Or.inl rfl, fun noText => absurd (Or.inl ⟨full, read⟩) noText⟩
    | version => exact ⟨Or.inl rfl, fun noText => absurd (Or.inr read) noText⟩
    | missingValue | unknownValue | repeatedToggle | repeatedParameter | surplusValue =>
      exact ⟨Or.inr ⟨rfl, rfl⟩, fun _ output => iff_of_false (by simp) (nothing output)⟩
  | ok arguments =>
    have works : runIn system surroundings =
        work system arguments (effectiveSettings surroundings.settingsFile).1
          surroundings.input (effectiveSettings surroundings.settingsFile).2 := by
      unfold runIn
      rw [read]
      exact if_neg fun asks => ordinary ⟨arguments, read, asks⟩
    rw [works]
    exact ⟨isWhole_work .., fun _ output => work_prints_iff.trans (prints_iff read).symm⟩

/-- The settings of the file are rejected for their name, so the code has the banner that they turn
off. The formatter that the words ask for is not found, so the code is printed as it is. -/
theorem runIn_prints_iff_curl :
    let surroundings : Surroundings :=
      { words := ["--type-name", "Person", "--gofmt", "curl", "-d", "\x7b\"a b\":1\x7d", "x"]
        settingsFile := .content "[output]\nbanner = false\ntype_name = \"1\"\n"
        input := .terminal }
    let code := "// Generated by curl-to-go\n\n" ++
      "body := strings.NewReader(\x60\x7b\"a b\":1\x7d\x60)\n\n" ++
      "req, err := http.NewRequest(\"POST\", \"x\", body)\n" ++
      "if err != nil \x7b\n\t// handle err\n\x7d\n" ++
      "req.Header.Set(\"Content-Type\", \"application/x-www-form-urlencoded\")\n\n" ++
      "resp, err := http.DefaultClient.Do(req)\n" ++
      "if err != nil \x7b\n\t// handle err\n\x7d\n" ++
      "defer resp.Body.Close()" ++ "\n"
    ¬ AsksForGenerated surroundings.words ∧ ¬ AsksForText surroundings.words ∧
      ((runIn runProgram surroundings).status = 0 ∧
        (runIn runProgram surroundings).output = code) ∧
      (runIn runProgram surroundings).IsWhole ∧
      ∀ output, Prints runProgram surroundings output ↔ code = output := by
  intro surroundings code
  have ordinary : ¬ AsksForGenerated surroundings.words := not_asksForGenerated (by decide)
  let words := ["curl", "-d", "\x7b\"a b\":1\x7d", "x"]
  have read : Arguments.read surroundings.words =
      .ok { command := words, typeName := some "Person", gofmt := true } := rfl
  have noText : ¬ AsksForText surroundings.words := not_asksForText read
  have inForce : Settings.InForce surroundings.settingsFile {} :=
    Settings.inForce_iff.2 (by decide +kernel)
  let options : RenderOptions := { typeName := "Person" }
  have converted : (convert options (commandLine words)).result = .ok code := by
    let command : Command :=
      { positionals := ["curl", "x"], flags := ⟨[("d", .values ["\x7b\"a b\":1\x7d"])]⟩ }
    have isRead : Command.read (commandLine words) = command := by decide +kernel
    have rendered : (render options typeDefinition (requestOf command)).code = code := by
      decide +kernel
    rw [convert, convertWith, isRead, ← rendered]
    rfl
  have prints : Prints runProgram surroundings code :=
    .whole read inForce (shape_iff.2 rfl) .words converted
      (.kept (Or.inl rfl) fun text succeeds => nomatch succeeds) (.ended _)
  obtain ⟨whole, exactly⟩ := runIn_prints_iff runProgram surroundings ordinary
  obtain ⟨succeeds, printed⟩ := (exactly noText code).2 prints
  refine ⟨ordinary, noText, ⟨succeeds, printed⟩, whole, fun output => ?_⟩
  rw [← exactly noText output, printed]
  exact and_iff_right succeeds

end CurlScribe
