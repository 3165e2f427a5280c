/-
This file separates the options of the program from the words of the command behind them.
The words in front of the command form groups: a switch, or an option with its value, which
stands in the same word or in the next one. The groups are read one by one, and what is known
after each of them is what the groups so far say, so their order does not matter. The first
word that belongs to no group starts the command; nothing behind it is looked at.
-/

import CurlScribe.CommandLine.Arguments
import Mathlib.Logic.Function.Basic

namespace CurlScribe

open Text

/-! ### Names -/

/-- The name of a switch. -/
def Toggle.name : Toggle → String
  | .standalone => "standalone"
  | .noBanner => "no-banner"
  | .gofmt => "gofmt"
  | .debug => "debug"
  | .manpage => "generate-manpage"

/-- The name of an option with a value. -/
def Parameter.name : Parameter → String
  | .typeName => "type-name"
  | .logFormat => "log-format"
  | .completions => "generate-completions"

/-- The name of a form of diagnostics. -/
def LogFormat.name : LogFormat → String
  | .text => "text"
  | .json => "json"

/-- The name of a shell. -/
def Shell.name : Shell → String
  | .bash => "bash"
  | .zsh => "zsh"
  | .fish => "fish"
  | .powerShell => "power-shell"
  | .elvish => "elvish"

/-- The option takes the text for its value. -/
def Parameter.Allows : Parameter → String → Prop
  | .typeName, _ => True
  | .logFormat, value => ∃ format : LogFormat, value = format.name
  | .completions, value => ∃ shell : Shell, value = shell.name

/-- The names of all options, the ones that ask for help or the version among them. -/
def optionNames : List String :=
  ["help", "version"] ++
  [Toggle.standalone, .noBanner, .gofmt, .debug, .manpage].map Toggle.name ++
  [Parameter.typeName, .logFormat, .completions].map Parameter.name

/-! ### Words -/

/-- The word for an option, with its value behind an equals sign if it has one there. -/
def optionWord (name : String) : Option String → String
  | none => "--" ++ name
  | some value => "--" ++ name ++ "=" ++ value

/-- The word is one of the program itself: two dashes, an option by its name, or the letters for
help and the version. -/
def IsOwnWord (word : String) : Prop :=
  word = "--" ∨ (∃ name ∈ optionNames, ∃ value, word = optionWord name value) ∨
    ∃ letters : List Char, letters ≠ [] ∧ (∀ letter ∈ letters, letter ∈ ['h', 'V']) ∧
      word = String.ofList ('-' :: letters)

/-- A name has a role if and only if it is the name of an option. -/
theorem roleOfName_eq_other_iff (name : String) (value : Option String) :
    roleOfName name value = .other ↔ name ∉ optionNames := by
  constructor
  · intro role member
    simp only [optionNames, List.map_cons, List.map_nil, List.cons_append, List.nil_append,
      List.mem_cons, List.not_mem_nil, or_false, Toggle.name, Parameter.name] at member
    rcases member with rfl | rfl | rfl | rfl | rfl | rfl | rfl | rfl | rfl | rfl <;>
      cases value <;> cases role
  · intro absent
    cases value <;>
      simp only [roleOfName, Option.isNone_none, Option.isNone_some, if_true, Bool.false_eq_true,
        if_false] <;>
      split <;> first | rfl | exact absurd (by decide) absent

/-- The word for an option is split behind its name. -/
theorem roleOfWord_optionWord {name : String} (notEmpty : name ≠ "") (plain : '=' ∉ name.toList)
    (value : Option String) : roleOfWord (optionWord name value) = roleOfName name value := by
  obtain ⟨character, letters, same⟩ : ∃ character letters, name.toList = character :: letters := by
    cases characters : name.toList with
    | nil => exact absurd (String.toList_eq_nil_iff.1 characters) notEmpty
    | cons character letters => exact ⟨character, letters, rfl⟩
  cases value with
  | none =>
    have characters : (optionWord name none).toList = '-' :: '-' :: name.toList := by
      simp [optionWord]
    unfold roleOfWord
    rw [characters, same]
    simp only
    rw [← same, (splitFirst_eq_none_iff '=' name.toList).2 plain]
    simp
  | some value =>
    have characters : (optionWord name (some value)).toList =
        '-' :: '-' :: (name.toList ++ '=' :: value.toList) := by
      simp [optionWord]
    unfold roleOfWord
    rw [characters, same]
    simp only [List.cons_append]
    rw [← List.cons_append, ← same, splitFirst_append plain]
    simp

/-- The names of options can be told from values behind them. -/
theorem plain_of_mem_optionNames {name : String} (member : name ∈ optionNames) :
    name ≠ "" ∧ '=' ∉ name.toList := by
  have plain : ∀ other ∈ optionNames, other ≠ "" ∧ '=' ∉ other.toList := by
    decide
  exact plain name member

/-- The letters for help and the version are told by the first of them. -/
theorem roleOfWord_letters {letters : List Char} (notEmpty : letters ≠ [])
    (known : ∀ letter ∈ letters, letter ∈ ['h', 'V']) :
    roleOfWord (String.ofList ('-' :: letters)) ≠ .other := by
  cases letters with
  | nil => exact absurd rfl notEmpty
  | cons letter later =>
    obtain ⟨first, others⟩ := List.forall_mem_cons.1 known
    have accepted : (later.all fun letter => letter ∈ ['h', 'V']) = true := by
      simpa only [List.all_eq_true, decide_eq_true_eq] using others
    unfold roleOfWord
    rw [String.toList_ofList]
    simp only [List.mem_cons, List.not_mem_nil, or_false] at first
    rcases first with rfl | rfl
    · simp only [accepted, if_true]
      exact nofun
    · simp only [accepted, if_true]
      exact nofun

/-- A word has a role in front of the command if and only if it is one of the program itself. -/
theorem roleOfWord_eq_other_iff (word : String) : roleOfWord word = .other ↔ ¬ IsOwnWord word := by
  constructor
  · rintro role (rfl | ⟨name, member, value, rfl⟩ | ⟨letters, notEmpty, known, rfl⟩)
    · exact absurd role (by decide)
    · obtain ⟨notEmpty, plain⟩ := plain_of_mem_optionNames member
      rw [roleOfWord_optionWord notEmpty plain] at role
      exact (roleOfName_eq_other_iff name value).1 role member
    · exact roleOfWord_letters notEmpty known role
  · intro foreign
    unfold roleOfWord
    split
    · rename_i dashes
      exact absurd (Or.inl (String.toList_injective dashes)) foreign
    · rename_i text _ characters
      split
      · rename_i name value cut
        refine (roleOfName_eq_other_iff ..).2 fun member => foreign (Or.inr (Or.inl ?_))
        refine ⟨_, member, some (String.ofList value), String.toList_injective ?_⟩
        rw [characters, (splitFirst_eq_some cut).1]
        simp [optionWord]
      · refine (roleOfName_eq_other_iff ..).2 fun member => foreign (Or.inr (Or.inl ?_))
        refine ⟨_, member, none, String.toList_injective ?_⟩
        rw [characters]
        simp [optionWord]
    · rename_i letters characters
      refine if_neg fun known => foreign (Or.inr (Or.inr ⟨'h' :: letters, nofun, ?_, ?_⟩))
      · refine List.forall_mem_cons.2 ⟨by decide, ?_⟩
        simpa only [List.all_eq_true, decide_eq_true_eq] using known
      · exact String.toList_injective (by rw [characters, String.toList_ofList])
    · rename_i letters characters
      refine if_neg fun known => foreign (Or.inr (Or.inr ⟨'V' :: letters, nofun, ?_, ?_⟩))
      · refine List.forall_mem_cons.2 ⟨by decide, ?_⟩
        simpa only [List.all_eq_true, decide_eq_true_eq] using known
      · exact String.toList_injective (by rw [characters, String.toList_ofList])
    · rfl

theorem roleOfWord_toggle (toggle : Toggle) :
    roleOfWord (optionWord toggle.name none) = .toggle toggle := by
  cases toggle <;> decide

theorem roleOfWord_parameter (parameter : Parameter) (value : Option String) :
    roleOfWord (optionWord parameter.name value) = .parameter parameter value := by
  have member : parameter.name ∈ optionNames := by
    cases parameter <;> decide
  obtain ⟨notEmpty, plain⟩ := plain_of_mem_optionNames member
  rw [roleOfWord_optionWord notEmpty plain]
  cases parameter <;> rfl

/-! ### What arguments say -/

/-- A form of diagnostics is told by its name. -/
theorem LogFormat.isPartialInv_name : Function.IsPartialInv LogFormat.name LogFormat.ofName? := by
  intro format value
  constructor
  · intro named
    unfold ofName? at named
    split at named <;> cases named <;> rfl
  · rintro rfl
    cases format <;> rfl

/-- A shell is told by its name. -/
theorem Shell.isPartialInv_name : Function.IsPartialInv Shell.name Shell.ofName? := by
  intro shell value
  constructor
  · intro named
    unfold ofName? at named
    split at named <;> cases named <;> rfl
  · rintro rfl
    cases shell <;> rfl

namespace Arguments

variable {arguments : Arguments}

/-- Whether a switch is on. -/
def isOn (arguments : Arguments) : Toggle → Bool
  | .standalone => arguments.standalone
  | .noBanner => arguments.noBanner
  | .gofmt => arguments.gofmt
  | .debug => arguments.debug
  | .manpage => arguments.manpage

/-- The value of an option, as it is written. -/
def value? (arguments : Arguments) : Parameter → Option String
  | .typeName => arguments.typeName
  | .logFormat => arguments.logFormat.map LogFormat.name
  | .completions => arguments.completions.map Shell.name

/-- Arguments are told by their command, their switches and their values. -/
theorem eq_of_same_answers {first second : Arguments} (command : first.command = second.command)
    (toggles : first.isOn = second.isOn) (values : first.value? = second.value?) :
    first = second := by
  have format : first.logFormat = second.logFormat :=
    Option.map_injective LogFormat.isPartialInv_name.injective (congrFun values .logFormat)
  have shell : first.completions = second.completions :=
    Option.map_injective Shell.isPartialInv_name.injective (congrFun values .completions)
  cases first
  cases second
  simp only [mk.injEq]
  exact ⟨command, congrFun values .typeName, congrFun toggles .standalone,
    congrFun toggles .noBanner, congrFun toggles .gofmt, format, congrFun toggles .debug, shell,
    congrFun toggles .manpage⟩

theorem isGiven_eq_isSome (parameter : Parameter) :
    arguments.isGiven parameter = (arguments.value? parameter).isSome := by
  cases parameter <;> simp [isGiven, value?]

/-- A switch that is off can be switched on, and nothing else changes. -/
theorem exists_switchOn {toggle : Toggle} (off : arguments.isOn toggle = false) :
    ∃ changed, arguments.switchOn toggle = .ok changed ∧ changed.command = arguments.command ∧
      changed.isOn = Function.update arguments.isOn toggle true ∧
      changed.value? = arguments.value? := by
  cases toggle <;>
    refine ⟨_, if_neg (Bool.eq_false_iff.1 off), rfl, funext fun other => ?_, rfl⟩ <;>
    cases other <;> rfl

/-- An option without a value can be given one that it takes, and nothing else changes. -/
theorem exists_assign {parameter : Parameter} {value : String}
    (absent : arguments.value? parameter = none) (allowed : parameter.Allows value) :
    ∃ changed, arguments.assign parameter value = .ok changed ∧
      changed.command = arguments.command ∧ changed.isOn = arguments.isOn ∧
      changed.value? = Function.update arguments.value? parameter (some value) := by
  have free : ¬ arguments.isGiven parameter = true := by
    rw [isGiven_eq_isSome, absent]
    exact nofun
  unfold assign
  rw [if_neg free]
  cases parameter with
  | typeName =>
    refine ⟨_, rfl, rfl, rfl, funext fun other => ?_⟩
    cases other <;> rfl
  | logFormat =>
    obtain ⟨format, rfl⟩ := allowed
    simp only [LogFormat.isPartialInv_name.eq]
    refine ⟨_, rfl, rfl, rfl, funext fun other => ?_⟩
    cases other <;> rfl
  | completions =>
    obtain ⟨shell, rfl⟩ := allowed
    simp only [Shell.isPartialInv_name.eq]
    refine ⟨_, rfl, rfl, rfl, funext fun other => ?_⟩
    cases other <;> rfl

/-- An option is not given a value that it does not take. -/
theorem allows_of_assign {changed : Arguments} {parameter : Parameter} {value : String}
    (assigned : arguments.assign parameter value = .ok changed) : parameter.Allows value := by
  unfold assign at assigned
  split at assigned
  · cases assigned
  · cases parameter with
    | typeName => trivial
    | logFormat =>
      cases named : LogFormat.ofName? value with
      | none => simp [named] at assigned
      | some format => exact ⟨format, ((LogFormat.isPartialInv_name format value).1 named).symm⟩
    | completions =>
      cases named : Shell.ofName? value with
      | none => simp [named] at assigned
      | some shell => exact ⟨shell, ((Shell.isPartialInv_name shell value).1 named).symm⟩

end Arguments

/-! ### Groups -/

/-- The words that make up one option: a switch, or an option with its value in the same word or in
the next one. -/
inductive OptionGroup where
  | toggle (switch : Toggle)
  | attached (parameter : Parameter) (value : String)
  | separate (parameter : Parameter) (value : String)
  deriving DecidableEq, Repr

namespace OptionGroup

/-- The words of a group. -/
def words : OptionGroup → List String
  | .toggle switch => [optionWord switch.name none]
  | .attached parameter value => [optionWord parameter.name (some value)]
  | .separate parameter value => [optionWord parameter.name none, value]

/-- The option that a group is about. -/
def subject : OptionGroup → Toggle ⊕ Parameter
  | .toggle switch => .inl switch
  | .attached parameter _ | .separate parameter _ => .inr parameter

/-- The group is complete: its value is one that the option takes, and a value in the next word is
not mistaken for an option. -/
def IsComplete : OptionGroup → Prop
  | .toggle _ => True
  | .attached parameter value => parameter.Allows value
  | .separate parameter value => parameter.Allows value ∧ ¬ IsOwnWord value

end OptionGroup

/-- The arguments say what the groups say, and nothing about a command. -/
structure Arguments.Reports (arguments : Arguments) (groups : List OptionGroup) : Prop where
  command : arguments.command = []
  toggles : ∀ toggle, arguments.isOn toggle = true ↔ .toggle toggle ∈ groups
  values : ∀ parameter value, arguments.value? parameter = some value ↔
    .attached parameter value ∈ groups ∨ .separate parameter value ∈ groups

namespace Arguments.Reports

theorem empty : ({} : Arguments).Reports [] where
  command := rfl
  toggles toggle := by cases toggle <;> decide
  values parameter value := by cases parameter <;> simp [value?]

/-- What groups say does not depend on their order. -/
theorem eq_of_perm {first second : Arguments} {firstGroups secondGroups : List OptionGroup}
    (ofFirst : first.Reports firstGroups) (ofSecond : second.Reports secondGroups)
    (same : firstGroups.Perm secondGroups) : first = second := by
  refine eq_of_same_answers (ofFirst.command.trans ofSecond.command.symm) (funext fun toggle => ?_)
    (funext fun parameter => Option.ext fun value => ?_)
  · rw [Bool.eq_iff_iff, ofFirst.toggles, ofSecond.toggles, same.mem_iff]
  · rw [ofFirst.values, ofSecond.values, same.mem_iff, same.mem_iff]

variable {arguments : Arguments} {groups : List OptionGroup}

theorem isOn_eq_false (reports : arguments.Reports groups) {toggle : Toggle}
    (fresh : Sum.inl toggle ∉ groups.map OptionGroup.subject) :
    arguments.isOn toggle = false := by
  rw [Bool.eq_false_iff, Ne, reports.toggles]
  exact fun member => fresh (List.mem_map.2 ⟨_, member, rfl⟩)

theorem value?_eq_none (reports : arguments.Reports groups) {parameter : Parameter}
    (fresh : Sum.inr parameter ∉ groups.map OptionGroup.subject) :
    arguments.value? parameter = none := by
  refine Option.eq_none_iff_forall_ne_some.2 fun value given => ?_
  rcases (reports.values parameter value).1 given with attached | separate
  · exact fresh (List.mem_map.2 ⟨_, attached, rfl⟩)
  · exact fresh (List.mem_map.2 ⟨_, separate, rfl⟩)

/-- A switch is reported by what it changes. -/
theorem toggle (reports : arguments.Reports groups) {switch : Toggle} {changed : Arguments}
    (command : changed.command = arguments.command)
    (toggles : changed.isOn = Function.update arguments.isOn switch true)
    (values : changed.value? = arguments.value?) :
    changed.Reports (groups ++ [.toggle switch]) where
  command := command.trans reports.command
  toggles other := by
    rw [toggles, List.mem_append, List.mem_singleton, OptionGroup.toggle.injEq, ← reports.toggles]
    by_cases same : other = switch
    · simp [same]
    · simp [same]
  values parameter value := by
    rw [values, reports.values]
    simp

/-- An option with a value is reported by what it changes, wherever its value stands. -/
theorem parameter (reports : arguments.Reports groups) {parameter : Parameter} {value : String}
    (absent : arguments.value? parameter = none) {group : OptionGroup}
    (form : group = .attached parameter value ∨ group = .separate parameter value)
    {changed : Arguments} (command : changed.command = arguments.command)
    (toggles : changed.isOn = arguments.isOn)
    (values : changed.value? = Function.update arguments.value? parameter (some value)) :
    changed.Reports (groups ++ [group]) where
  command := command.trans reports.command
  toggles other := by
    rw [toggles, reports.toggles]
    rcases form with rfl | rfl
    · simp
    · simp
  values other text := by
    have reported :
        .attached other text ∈ groups ++ [group] ∨ .separate other text ∈ groups ++ [group] ↔
          arguments.value? other = some text ∨ other = parameter ∧ text = value := by
      rw [reports.values]
      rcases form with rfl | rfl
      · simp [or_right_comm]
      · simp [or_assoc]
    rw [reported, values]
    by_cases same : other = parameter
    · rw [same, Function.update_self, absent]
      simp [eq_comm]
    · rw [Function.update_of_ne same]
      simp [same]

end Arguments.Reports

/-! ### Reading groups -/

/-- A value that has come takes effect, whatever stands behind it. -/
theorem readFrom_settled {arguments changed : Arguments} {parameter : Parameter} {value : String}
    (assigned : arguments.assign parameter value = .ok changed) (words : List String) :
    readFrom arguments (some ⟨parameter, some value⟩) words = readFrom changed none words := by
  cases words with
  | nil => exact assigned
  | cons word rest =>
    unfold readFrom
    simp only [settle, assigned]
    cases roleOfWord word <;> rfl

/-- A value that has come and is not taken ends the reading, whatever stands behind it. -/
theorem exists_assign_of_readFrom {arguments result : Arguments} {parameter : Parameter}
    {value : String} {words : List String}
    (read : readFrom arguments (some ⟨parameter, some value⟩) words = .ok result) :
    ∃ changed, arguments.assign parameter value = .ok changed := by
  cases words with
  | nil => exact ⟨result, read⟩
  | cons word rest =>
    unfold readFrom at read
    simp only [settle] at read
    cases assigned : arguments.assign parameter value with
    | ok changed => exact ⟨changed, rfl⟩
    | error stop =>
      rw [assigned] at read
      cases role : roleOfWord word <;> rw [role] at read <;> cases read

theorem readFrom_toggle {arguments changed : Arguments} {toggle : Toggle}
    (switched : arguments.switchOn toggle = .ok changed) (words : List String) :
    readFrom arguments none (optionWord toggle.name none :: words) =
      readFrom changed none words := by
  simp only [readFrom, roleOfWord_toggle, settle, Except.bind, switched]

theorem readFrom_attached {arguments changed : Arguments} {parameter : Parameter} {value : String}
    (assigned : arguments.assign parameter value = .ok changed) (words : List String) :
    readFrom arguments none (optionWord parameter.name (some value) :: words) =
      readFrom changed none words := by
  simp only [readFrom, roleOfWord_parameter, settle, Except.bind, assigned]

theorem readFrom_parameter (arguments : Arguments) (parameter : Parameter) (words : List String) :
    readFrom arguments none (optionWord parameter.name none :: words) =
      readFrom arguments (some ⟨parameter, none⟩) words := by
  simp only [readFrom, roleOfWord_parameter, settle, Except.bind]

/-- An option takes the next word for its value unless it is one of the program itself. -/
theorem readFrom_value (arguments : Arguments) (parameter : Parameter) {word : String}
    (foreign : ¬ IsOwnWord word) (words : List String) :
    readFrom arguments (some ⟨parameter, none⟩) (word :: words) =
      readFrom arguments (some ⟨parameter, some word⟩) words := by
  simp only [readFrom, (roleOfWord_eq_other_iff word).2 foreign]

/-- A word of the program itself is never the value of an option. -/
theorem not_isOwnWord_of_readFrom {arguments result : Arguments} {parameter : Parameter}
    {word : String} {words : List String}
    (read : readFrom arguments (some ⟨parameter, none⟩) (word :: words) = .ok result) :
    ¬ IsOwnWord word := by
  rw [← roleOfWord_eq_other_iff]
  unfold readFrom at read
  cases role : roleOfWord word with
  | other => rfl
  | _ =>
    rw [role] at read
    cases read

/-- A complete group about an option that was not given adds what it says, and reading goes on with
what stands behind it. -/
theorem reads_group {arguments : Arguments} {before : List OptionGroup}
    (reports : arguments.Reports before) {group : OptionGroup} (complete : group.IsComplete)
    (fresh : group.subject ∉ before.map OptionGroup.subject) :
    ∃ changed : Arguments, changed.Reports (before ++ [group]) ∧
      ∀ words, readFrom arguments none (group.words ++ words) = readFrom changed none words := by
  cases group with
  | toggle switch =>
    obtain ⟨changed, switched, command, toggles, values⟩ :=
      Arguments.exists_switchOn (reports.isOn_eq_false fresh)
    exact ⟨changed, reports.toggle command toggles values, readFrom_toggle switched⟩
  | attached parameter value =>
    have absent := reports.value?_eq_none fresh
    obtain ⟨changed, assigned, command, toggles, values⟩ :=
      Arguments.exists_assign absent complete
    exact ⟨changed, reports.parameter absent (Or.inl rfl) command toggles values,
      readFrom_attached assigned⟩
  | separate parameter value =>
    have absent := reports.value?_eq_none fresh
    obtain ⟨changed, assigned, command, toggles, values⟩ :=
      Arguments.exists_assign absent complete.1
    refine ⟨changed, reports.parameter absent (Or.inr rfl) command toggles values, fun words => ?_⟩
    show readFrom arguments none (optionWord parameter.name none :: value :: words) = _
    rw [readFrom_parameter, readFrom_value arguments parameter complete.2,
      readFrom_settled assigned]

/-- Nothing is read behind a group that is not complete. -/
theorem isComplete_of_readFrom {arguments result : Arguments} {group : OptionGroup}
    {words : List String} (read : readFrom arguments none (group.words ++ words) = .ok result) :
    group.IsComplete := by
  cases group with
  | toggle switch => trivial
  | attached parameter value =>
    cases assigned : arguments.assign parameter value with
    | ok changed => exact Arguments.allows_of_assign assigned
    | error stop =>
      simp only [OptionGroup.words, List.cons_append, readFrom, roleOfWord_parameter, settle,
        Except.bind, assigned] at read
      cases read
  | separate parameter value =>
    have awaits : readFrom arguments (some ⟨parameter, none⟩) (value :: words) = .ok result :=
      (readFrom_parameter arguments parameter (value :: words)).symm.trans read
    have foreign := not_isOwnWord_of_readFrom awaits
    rw [readFrom_value arguments parameter foreign] at awaits
    obtain ⟨changed, assigned⟩ := exists_assign_of_readFrom awaits
    exact ⟨Arguments.allows_of_assign assigned, foreign⟩

theorem subject_not_mem {before later : List OptionGroup} {group : OptionGroup}
    (distinct : ((before ++ group :: later).map OptionGroup.subject).Nodup) :
    group.subject ∉ before.map OptionGroup.subject := by
  rw [List.map_append, List.map_cons, List.nodup_append] at distinct
  exact fun member => distinct.2.2 _ member _ List.mem_cons_self rfl

/-- Complete groups about different options are read one after another. -/
theorem reads_groups {arguments : Arguments} {before groups : List OptionGroup}
    (reports : arguments.Reports before) (complete : ∀ group ∈ groups, group.IsComplete)
    (distinct : ((before ++ groups).map OptionGroup.subject).Nodup) :
    ∃ changed : Arguments, changed.Reports (before ++ groups) ∧
      ∀ words, readFrom arguments none (groups.flatMap OptionGroup.words ++ words) =
        readFrom changed none words := by
  induction groups generalizing arguments before with
  | nil => exact ⟨arguments, by rwa [List.append_nil], fun words => rfl⟩
  | cons group later inductionHypothesis =>
    obtain ⟨first, others⟩ := List.forall_mem_cons.1 complete
    obtain ⟨next, nextReports, goesOn⟩ := reads_group reports first (subject_not_mem distinct)
    rw [List.append_cons] at distinct ⊢
    obtain ⟨changed, changedReports, readsOn⟩ := inductionHypothesis nextReports others distinct
    refine ⟨changed, changedReports, fun words => ?_⟩
    rw [List.flatMap_cons, List.append_assoc, goesOn, readsOn]

/-- Groups about different options that are read are complete. -/
theorem forall_isComplete_of_readFrom {arguments result : Arguments}
    {before groups : List OptionGroup} (reports : arguments.Reports before)
    (distinct : ((before ++ groups).map OptionGroup.subject).Nodup)
    (read : readFrom arguments none (groups.flatMap OptionGroup.words) = .ok result) :
    ∀ group ∈ groups, group.IsComplete := by
  induction groups generalizing arguments before with
  | nil => exact nofun
  | cons group later inductionHypothesis =>
    rw [List.flatMap_cons] at read
    have complete := isComplete_of_readFrom read
    obtain ⟨next, nextReports, goesOn⟩ := reads_group reports complete (subject_not_mem distinct)
    rw [goesOn] at read
    rw [List.append_cons] at distinct
    exact List.forall_mem_cons.2 ⟨complete, inductionHypothesis nextReports distinct read⟩

/-- From the first word that is not one of the program itself on, everything is the command. -/
theorem readFrom_command (arguments : Arguments) {word : String} (foreign : ¬ IsOwnWord word)
    (rest : List String) :
    readFrom arguments none (word :: rest) = .ok { arguments with command := word :: rest } := by
  simp only [readFrom, (roleOfWord_eq_other_iff word).2 foreign, settle, Except.bind]

/-- Groups about different options are read exactly if they are complete. Then the arguments say
what the groups say, in whatever order they stand; and where more words stand behind them, of which
the first is not one of the program itself, all of these words are the command, unread. -/
theorem read_groups_iff {groups : List OptionGroup}
    (distinct : (groups.map OptionGroup.subject).Nodup) {word : String}
    (foreign : ¬ IsOwnWord word) (rest : List String) :
    (∀ group ∈ groups, group.IsComplete) ↔
      ∃ settings : Arguments, settings.Reports groups ∧
        ∀ reordered : List OptionGroup, reordered.Perm groups →
          Arguments.read (reordered.flatMap OptionGroup.words) = .ok settings ∧
          Arguments.read (reordered.flatMap OptionGroup.words ++ word :: rest) =
            .ok { settings with command := word :: rest } := by
  constructor
  · intro complete
    obtain ⟨settings, reports, -⟩ := reads_groups .empty complete distinct
    refine ⟨settings, reports, fun reordered same => ?_⟩
    obtain ⟨changed, changedReports, readsOn⟩ := reads_groups .empty
      (fun group member => complete group (same.mem_iff.1 member))
      ((same.map OptionGroup.subject).nodup_iff.2 distinct)
    obtain rfl : changed = settings := changedReports.eq_of_perm reports same
    have alone := readsOn []
    rw [List.append_nil] at alone
    exact ⟨alone, (readsOn (word :: rest)).trans (readFrom_command changed foreign rest)⟩
  · rintro ⟨settings, -, reads⟩
    exact forall_isComplete_of_readFrom .empty distinct (reads groups (List.Perm.refl _)).1

/-- A value may start with a dash, and the command may hold options of the program. In any order,
these groups come to the name, the switch and the format. -/
theorem read_groups_iff_curl :
    let groups : List OptionGroup :=
      [.separate .typeName "-x", .toggle .standalone, .attached .logFormat "json"]
    let rest := ["--standalone", "-h", "--", "--type-name", "A"]
    let settings : Arguments := { typeName := "-x", standalone := true, logFormat := some .json }
    (groups.map OptionGroup.subject).Nodup ∧ ¬ IsOwnWord "curl" ∧
      (∀ group ∈ groups, group.IsComplete) ∧ settings.Reports groups ∧
      ∀ reordered : List OptionGroup, reordered.Perm groups →
        Arguments.read (reordered.flatMap OptionGroup.words) = .ok settings ∧
        Arguments.read (reordered.flatMap OptionGroup.words ++ "curl" :: rest) =
          .ok { settings with command := "curl" :: rest } := by
  intro groups rest settings
  have distinct : (groups.map OptionGroup.subject).Nodup := by decide
  have foreign : ¬ IsOwnWord "curl" := (roleOfWord_eq_other_iff "curl").1 (by decide)
  have complete : ∀ group ∈ groups, group.IsComplete := by
    have name : OptionGroup.IsComplete (.separate .typeName "-x") :=
      ⟨trivial, (roleOfWord_eq_other_iff "-x").1 (by decide)⟩
    have format : OptionGroup.IsComplete (.attached .logFormat "json") := ⟨.json, rfl⟩
    simp only [groups, List.forall_mem_cons]
    exact ⟨name, trivial, format, List.forall_mem_nil _⟩
  obtain ⟨found, reports, reads⟩ := (read_groups_iff distinct foreign rest).1 complete
  have inOrder : Arguments.read (groups.flatMap OptionGroup.words) = .ok settings := rfl
  obtain rfl : found = settings :=
    Except.ok.inj ((reads groups (List.Perm.refl _)).1.symm.trans inOrder)
  exact ⟨distinct, foreign, complete, reports, reads⟩

end CurlScribe
