/-
This file proves that headers keep count of what was done to them. What they hold and answer is
settled by the history of operations alone: a name stands for its latest setting, unless it
was removed since, and the headers stand in the order in which their names came in. Names
count as the same if they differ in the case of ASCII letters only.

The headers are compared as well with an ordered map in which each of them is filed under a key,
its name in small letters. Both give the same answers and hold the same headers, since the
customary form in which a name is kept has the same key as the name that was given.
-/

import CurlScribe.Proofs.HeaderNames
import Mathlib.Data.List.Induction
import Mathlib.Data.List.Nodup

namespace CurlScribe

open Text

/-! ### Operations on headers -/

/-- One operation on headers. -/
inductive HeaderStep where
  | set (name value : String)
  | get (name : String)
  | contains (name : String)
  | remove (name : String)

/-- What an operation answers. -/
inductive HeaderAnswer where
  | done
  | value (found : Option String)
  | presence (found : Bool)
  | removed (found : Option Header)
  deriving DecidableEq

/-- The headers after an operation, and its answer. -/
def Headers.perform (headers : Headers) : HeaderStep → Headers × HeaderAnswer
  | .set name value => (headers.set name value, .done)
  | .get name => (headers, .value (headers.get? name))
  | .contains name => (headers, .presence (headers.contains name))
  | .remove name => (headers.erase name, .removed (headers.find? name))

/-- The headers after a history of operations. -/
def Headers.after (steps : List HeaderStep) : Headers :=
  steps.foldl (fun headers step => (headers.perform step).1) {}

theorem Headers.after_snoc (steps : List HeaderStep) (step : HeaderStep) :
    after (steps ++ [step]) = ((after steps).perform step).1 :=
  List.foldl_concat _ _ _ _

/-- The keys of headers: their names in small letters. -/
def Headers.keys (headers : Headers) : List String :=
  headers.entries.map fun header => lowered header.name

/-! ### Histories -/

namespace HeaderStep

/-- The operation sets a name with the given key. -/
def Sets (key : String) : HeaderStep → Prop
  | .set name _ => lowered name = key
  | .get _ | .contains _ | .remove _ => False

/-- The operation removes a name with the given key. -/
def Removes (key : String) : HeaderStep → Prop
  | .remove name => lowered name = key
  | .get _ | .contains _ | .set _ _ => False

end HeaderStep

/-- The latest setting of a key in a history, which is not removed since: the name as it was given,
and its value. -/
def LastSet (steps : List HeaderStep) (key name value : String) : Prop :=
  ∃ earlier later, steps = earlier ++ .set name value :: later ∧ lowered name = key ∧
    ∀ step ∈ later, ¬ step.Sets key ∧ ¬ step.Removes key

/-- The operation at a place in a history is the first setting of a key since the key was last
removed: no setting counts before it, and no removal comes behind it. -/
def EntersAt (steps : List HeaderStep) (key : String) (place : Nat) : Prop :=
  ∃ earlier step later, steps = earlier ++ step :: later ∧ earlier.length = place ∧
    step.Sets key ∧ (∀ name value, ¬ LastSet earlier key name value) ∧
    ∀ other ∈ later, ¬ other.Removes key

/-- One key came in before another. -/
def EntersBefore (steps : List HeaderStep) (first second : String) : Prop :=
  ∃ place behind, EntersAt steps first place ∧ EntersAt steps second behind ∧ place < behind

section History

variable {steps : List HeaderStep} {step : HeaderStep} {key name value : String}

theorem not_lastSet_nil : ¬ LastSet [] key name value := by
  rintro ⟨earlier, later, split, -⟩
  exact List.append_ne_nil_of_right_ne_nil _ (List.cons_ne_nil _ _) split.symm

/-- A history with one more operation is cut at that operation, or before it. -/
theorem snoc_eq_split {earlier later : List HeaderStep} {middle : HeaderStep}
    (split : steps ++ [step] = earlier ++ middle :: later) :
    (later = [] ∧ earlier = steps ∧ middle = step) ∨
      ∃ front, later = front ++ [step] ∧ steps = earlier ++ middle :: front := by
  rcases later.eq_nil_or_concat with rfl | ⟨front, last, rfl⟩
  · obtain ⟨before, same⟩ := List.append_inj' split rfl
    exact Or.inl ⟨rfl, before.symm, (List.cons.inj same).1.symm⟩
  · rw [List.concat_eq_append, ← List.cons_append, ← List.append_assoc] at split
    obtain ⟨before, same⟩ := List.append_inj' split rfl
    obtain rfl := (List.cons.inj same).1
    exact Or.inr ⟨front, List.concat_eq_append, before⟩

/-- The latest setting of a key is the last operation, or it was the latest before and the last
operation leaves the key alone. -/
theorem lastSet_snoc_iff : LastSet (steps ++ [step]) key name value ↔
    (step = .set name value ∧ lowered name = key) ∨
      (LastSet steps key name value ∧ ¬ step.Sets key ∧ ¬ step.Removes key) := by
  constructor
  · rintro ⟨earlier, later, split, same, silent⟩
    rcases snoc_eq_split split with ⟨-, -, last⟩ | ⟨front, rfl, before⟩
    · exact Or.inl ⟨last.symm, same⟩
    · obtain ⟨silentFront, silentLast⟩ := List.forall_mem_append.1 silent
      exact Or.inr ⟨⟨earlier, front, before, same, silentFront⟩,
        silentLast step (List.mem_singleton_self _)⟩
  · rintro (⟨rfl, same⟩ | ⟨⟨earlier, later, rfl, same, silent⟩, silentLast⟩)
    · exact ⟨steps, [], rfl, same, List.forall_mem_nil _⟩
    · refine ⟨earlier, later ++ [step], by rw [List.append_assoc, List.cons_append], same, ?_⟩
      exact List.forall_mem_append.2 ⟨silent, List.forall_mem_singleton.2 silentLast⟩

theorem LastSet.lowered_eq (set : LastSet steps key name value) : lowered name = key := by
  obtain ⟨earlier, later, split, same, silent⟩ := set
  exact same

theorem sets_iff :
    step.Sets key ↔ ∃ name, (∃ value, step = .set name value) ∧ lowered name = key := by
  cases step <;> simp [HeaderStep.Sets]

theorem not_removes_of_sets (sets : step.Sets key) : ¬ step.Removes key := by
  cases step with
  | set name value => exact id
  | get name | contains name | remove name => exact sets.elim

theorem EntersAt.lt {place : Nat} (enters : EntersAt steps key place) : place < steps.length := by
  obtain ⟨earlier, first, later, rfl, rfl, -⟩ := enters
  rw [List.length_append, List.length_cons]
  omega

/-- A key comes in with the operation that sets it if it is not there, and stays where it is until
it is removed. -/
theorem entersAt_snoc_iff {place : Nat} : EntersAt (steps ++ [step]) key place ↔
    (place = steps.length ∧ step.Sets key ∧ ∀ name value, ¬ LastSet steps key name value) ∨
      (EntersAt steps key place ∧ ¬ step.Removes key) := by
  constructor
  · rintro ⟨earlier, first, later, split, rfl, sets, absent, silent⟩
    rcases snoc_eq_split split with ⟨-, rfl, rfl⟩ | ⟨front, rfl, before⟩
    · exact Or.inl ⟨rfl, sets, absent⟩
    · obtain ⟨silentFront, silentLast⟩ := List.forall_mem_append.1 silent
      exact Or.inr ⟨⟨earlier, first, front, before, rfl, sets, absent, silentFront⟩,
        silentLast step (List.mem_singleton_self _)⟩
  · rintro (⟨rfl, sets, absent⟩ | ⟨⟨earlier, first, later, rfl, rfl, sets, absent, silent⟩, kept⟩)
    · exact ⟨steps, step, [], rfl, rfl, sets, absent, List.forall_mem_nil _⟩
    · refine ⟨earlier, first, later ++ [step], by rw [List.append_assoc, List.cons_append], rfl,
        sets, absent, ?_⟩
      exact List.forall_mem_append.2 ⟨silent, List.forall_mem_singleton.2 kept⟩

theorem EntersBefore.snoc {first second : String} (before : EntersBefore steps first second)
    (kept : ¬ step.Removes first ∧ ¬ step.Removes second) :
    EntersBefore (steps ++ [step]) first second := by
  obtain ⟨place, behind, enters, entersBehind, less⟩ := before
  exact ⟨place, behind, entersAt_snoc_iff.2 (Or.inr ⟨enters, kept.1⟩),
    entersAt_snoc_iff.2 (Or.inr ⟨entersBehind, kept.2⟩), less⟩

/-- A key came in if and only if one of its settings counts. -/
theorem exists_entersAt_iff :
    (∃ place, EntersAt steps key place) ↔ ∃ name value, LastSet steps key name value := by
  induction steps using List.reverseRecOn with
  | nil =>
    refine iff_of_false ?_ fun ⟨_, _, set⟩ => not_lastSet_nil set
    exact fun ⟨_, enters⟩ => Nat.not_lt_zero _ enters.lt
  | append_singleton steps step inductionHypothesis =>
    simp only [entersAt_snoc_iff, lastSet_snoc_iff, exists_or, exists_and_right, ← sets_iff,
      exists_eq, true_and, inductionHypothesis, ← not_exists]
    by_cases sets : step.Sets key
    · refine iff_of_true ?_ (Or.inl sets)
      exact (em _).symm.imp (fun absent => ⟨sets, absent⟩)
        fun there => ⟨there, not_removes_of_sets sets⟩
    · simp [sets]

/-- A key that is there came in at one place. -/
theorem EntersAt.unique {place other : Nat} (enters : EntersAt steps key place)
    (entersOther : EntersAt steps key other) : place = other := by
  induction steps using List.reverseRecOn with
  | nil => exact absurd enters.lt (Nat.not_lt_zero _)
  | append_singleton steps step inductionHypothesis =>
    have settled : ∀ {place}, EntersAt steps key place →
        ¬ ∀ name value, ¬ LastSet steps key name value := by
      intro place enters absent
      obtain ⟨name, value, set⟩ := exists_entersAt_iff.1 ⟨place, enters⟩
      exact absent name value set
    rcases entersAt_snoc_iff.1 enters with ⟨rfl, -, absent⟩ | ⟨before, -⟩ <;>
      rcases entersAt_snoc_iff.1 entersOther with ⟨rfl, -, absentOther⟩ | ⟨beforeOther, -⟩
    · rfl
    · exact absurd absent (settled beforeOther)
    · exact absurd absentOther (settled before)
    · exact inductionHypothesis before beforeOther

end History

/-! ### One operation -/

section Operation

variable (headers : Headers) (name value : String)

theorem answersTo_iff (header : Header) (name : String) :
    header.answersTo name = true ↔ lowered header.name = lowered name :=
  beq_iff_eq

/-- A name that is there is set at its place, and a new one behind all others. -/
theorem setIn_cases (entries : List Header) :
    (∃ (front : List Header) (header : Header) (back : List Header),
      entries = front ++ header :: back ∧ lowered header.name = lowered name ∧
      Headers.setIn name value entries = front ++ ⟨titleCase name, value⟩ :: back) ∨
    ((∀ header ∈ entries, lowered header.name ≠ lowered name) ∧
      Headers.setIn name value entries = entries ++ [⟨titleCase name, value⟩]) := by
  induction entries with
  | nil => exact Or.inr ⟨List.forall_mem_nil _, rfl⟩
  | cons header rest inductionHypothesis =>
    rw [Headers.setIn]
    split_ifs with here
    · exact Or.inl ⟨[], header, rest, rfl, (answersTo_iff _ _).1 here, rfl⟩
    · rcases inductionHypothesis with ⟨front, found, back, rfl, same, set⟩ | ⟨apart, set⟩
      · exact Or.inl ⟨header :: front, found, back, rfl, same, congrArg _ set⟩
      · refine Or.inr ⟨List.forall_mem_cons.2 ⟨?_, apart⟩, congrArg _ set⟩
        exact fun same => here ((answersTo_iff _ _).2 same)

/-- Setting a name changes the keys only if the name is new. -/
theorem keys_set : (headers.set name value).keys =
    if lowered name ∈ headers.keys then headers.keys else headers.keys ++ [lowered name] := by
  have key : lowered (titleCase name) = lowered name := lowered_titleCase name
  unfold Headers.keys Headers.set
  dsimp only
  rcases setIn_cases name value headers.entries with ⟨front, header, back, split, same, set⟩ |
    ⟨apart, set⟩
  · rw [set, split, if_pos (by simp [same])]
    simp only [List.map_append, List.map_cons, key, same]
  · rw [set, if_neg (by simpa using apart), List.map_append, List.map_singleton, key]

variable {headers}

theorem mem_of_find? {header : Header} (found : headers.find? name = some header) :
    header ∈ headers.entries ∧ lowered header.name = lowered name := by
  unfold Headers.find? at found
  have answers := List.find?_some found
  exact ⟨List.mem_of_find?_eq_some found, (answersTo_iff header name).1 answers⟩

/-- The header of a name is the only one with its key. -/
theorem find?_eq_some_iff (distinct : headers.keys.Nodup) {header : Header} :
    headers.find? name = some header ↔
      header ∈ headers.entries ∧ lowered header.name = lowered name := by
  refine ⟨mem_of_find? name, fun ⟨member, same⟩ => ?_⟩
  have present : (headers.find? name).isSome = true :=
    List.find?_isSome.2 ⟨header, member, (answersTo_iff header name).2 same⟩
  obtain ⟨other, found⟩ := Option.isSome_iff_exists.1 present
  obtain ⟨memberOther, answers⟩ := mem_of_find? name found
  rw [found, List.inj_on_of_nodup_map distinct memberOther member (answers.trans same.symm)]

/-- Setting a name puts one header there and keeps those with other keys. -/
theorem mem_set_iff (distinct : headers.keys.Nodup) {header : Header} :
    header ∈ (headers.set name value).entries ↔
      header = ⟨titleCase name, value⟩ ∨
        (header ∈ headers.entries ∧ lowered header.name ≠ lowered name) := by
  unfold Headers.set
  dsimp only
  rcases setIn_cases name value headers.entries with ⟨front, old, back, split, same, set⟩ |
    ⟨apart, set⟩
  · rw [Headers.keys, split, List.map_append, List.map_cons, List.nodup_middle, List.nodup_cons,
      ← List.map_append, same, List.mem_map] at distinct
    have others : ∀ other ∈ front ++ back, lowered other.name ≠ lowered name :=
      fun other member equal => distinct.1 ⟨other, member, equal⟩
    have kept : header ∈ front ++ back ↔
        header ∈ front ++ old :: back ∧ lowered header.name ≠ lowered name := by
      constructor
      · exact fun member => ⟨by grind, others header member⟩
      · grind
    rw [set, split, ← kept]
    grind
  · rw [set, List.mem_append, List.mem_singleton]
    constructor
    · rintro (member | new)
      · exact Or.inr ⟨member, apart header member⟩
      · exact Or.inl new
    · rintro (new | ⟨member, -⟩)
      · exact Or.inr new
      · exact Or.inl member

/-- Removing a name takes out what has its key, and keeps the order of the others. -/
theorem entries_erase (distinct : headers.keys.Nodup) :
    (headers.erase name).entries = headers.entries.filter (!·.answersTo name) := by
  obtain ⟨entries⟩ := headers
  show entries.eraseP (·.answersTo name) = _
  induction entries with
  | nil => rfl
  | cons header rest inductionHypothesis =>
    obtain ⟨apart, distinctRest⟩ := List.nodup_cons.1 distinct
    by_cases here : header.answersTo name = true
    · rw [List.eraseP_cons_of_pos (by exact here), List.filter_cons_of_neg (by simp [here])]
      refine (List.filter_eq_self.2 fun other member => ?_).symm
      rw [Bool.not_eq_true', Bool.eq_false_iff, ne_eq, answersTo_iff,
        ← (answersTo_iff header name).1 here]
      exact fun same => apart (List.mem_map.2 ⟨other, member, same⟩)
    · rw [List.eraseP_cons_of_neg (by exact here), List.filter_cons_of_pos (by simp [here])]
      exact congrArg _ (inductionHypothesis distinctRest)

/-- Removing a name takes its key out. -/
theorem keys_erase (distinct : headers.keys.Nodup) :
    (headers.erase name).keys = headers.keys.filter (· != lowered name) := by
  rw [Headers.keys, entries_erase name distinct, Headers.keys, List.filter_map]
  rfl

theorem mem_erase_iff (distinct : headers.keys.Nodup) {header : Header} :
    header ∈ (headers.erase name).entries ↔
      header ∈ headers.entries ∧ lowered header.name ≠ lowered name := by
  rw [entries_erase name distinct, List.mem_filter, Bool.not_eq_true', Bool.eq_false_iff, ne_eq,
    answersTo_iff]

end Operation

/-! ### The whole history -/

/-- What an operation has to answer behind a history. -/
def HeaderStep.Expects (steps : List HeaderStep) : HeaderStep → HeaderAnswer → Prop
  | .set _ _, answer => answer = .done
  | .get name, answer => ∃ found, answer = .value found ∧
      ∀ value, found = some value ↔ ∃ given, LastSet steps (lowered name) given value
  | .contains name, answer => ∃ found, answer = .presence found ∧
      (found = true ↔ ∃ given value, LastSet steps (lowered name) given value)
  | .remove name, answer => ∃ found, answer = .removed found ∧
      ∀ header, found = some header ↔
        ∃ given value, LastSet steps (lowered name) given value ∧
          header = ⟨titleCase given, value⟩

/-- Headers hold what a history of operations left: for each key the latest setting, and the keys in
the order in which they came in. -/
structure Holds (steps : List HeaderStep) (headers : Headers) : Prop where
  distinct : headers.keys.Nodup
  mem_iff : ∀ header, header ∈ headers.entries ↔
    ∃ given value, LastSet steps (lowered header.name) given value ∧
      header = ⟨titleCase given, value⟩
  inOrder : headers.keys.Pairwise (EntersBefore steps)

theorem holds_nil : Holds [] {} where
  distinct := List.nodup_nil
  mem_iff := fun _ => iff_of_false List.not_mem_nil fun ⟨_, _, set, _⟩ => not_lastSet_nil set
  inOrder := List.Pairwise.nil

namespace Holds

variable {steps : List HeaderStep} {headers : Headers}

theorem find?_iff (holds : Holds steps headers) (name : String) (header : Header) :
    headers.find? name = some header ↔
      ∃ given value, LastSet steps (lowered name) given value ∧
        header = ⟨titleCase given, value⟩ := by
  rw [find?_eq_some_iff name holds.distinct, holds.mem_iff]
  constructor
  · rintro ⟨⟨given, value, set, rfl⟩, same⟩
    exact ⟨given, value, same ▸ set, rfl⟩
  · rintro ⟨given, value, set, rfl⟩
    have key : lowered (titleCase given) = lowered name :=
      (lowered_titleCase given).trans set.lowered_eq
    rw [key]
    exact ⟨⟨given, value, set, rfl⟩, rfl⟩

/-- The keys are those with a setting that counts. -/
theorem mem_keys_iff (holds : Holds steps headers) (key : String) :
    key ∈ headers.keys ↔ ∃ given value, LastSet steps key given value := by
  rw [Headers.keys, List.mem_map]
  constructor
  · rintro ⟨header, member, rfl⟩
    obtain ⟨given, value, set, -⟩ := (holds.mem_iff header).1 member
    exact ⟨given, value, set⟩
  · rintro ⟨given, value, set⟩
    have same : lowered (titleCase given) = key := (lowered_titleCase given).trans set.lowered_eq
    exact ⟨⟨titleCase given, value⟩, (holds.mem_iff _).2 ⟨given, value, by rwa [same], rfl⟩, same⟩

/-- An operation that only looks changes nothing. -/
theorem looked (holds : Holds steps headers) {step : HeaderStep}
    (looks : ∀ key, ¬ step.Sets key ∧ ¬ step.Removes key) : Holds (steps ++ [step]) headers where
  distinct := holds.distinct
  mem_iff := by
    intro header
    have notSet : ∀ given value, step ≠ .set given value := by
      rintro given value rfl
      exact (looks (lowered given)).1 rfl
    simp only [holds.mem_iff, lastSet_snoc_iff, notSet, looks, false_and, false_or, not_false_iff,
      and_true]
  inOrder := holds.inOrder.imp fun before => before.snoc ⟨(looks _).2, (looks _).2⟩

theorem set (holds : Holds steps headers) (name value : String) :
    Holds (steps ++ [.set name value]) (headers.set name value) where
  distinct := by
    rw [keys_set]
    split_ifs with there
    · exact holds.distinct
    · exact List.nodup_append_comm.1 (List.nodup_cons.2 ⟨there, holds.distinct⟩)
  mem_iff := by
    intro header
    rw [mem_set_iff name value holds.distinct, holds.mem_iff]
    simp only [lastSet_snoc_iff]
    constructor
    · rintro (rfl | ⟨⟨given, other, set, same⟩, apart⟩)
      · exact ⟨name, value, Or.inl ⟨rfl, (lowered_titleCase name).symm⟩, rfl⟩
      · exact ⟨given, other, Or.inr ⟨set, fun equal => apart equal.symm, id⟩, same⟩
    · rintro ⟨given, other, ⟨last, -⟩ | ⟨set, apart, -⟩, same⟩
      · cases last
        exact Or.inl same
      · exact Or.inr ⟨⟨given, other, set, same⟩, fun equal => apart equal.symm⟩
  inOrder := by
    have earlier : headers.keys.Pairwise (EntersBefore (steps ++ [.set name value])) :=
      holds.inOrder.imp fun before => before.snoc ⟨id, id⟩
    rw [keys_set]
    split_ifs with there
    · exact earlier
    · -- Every key that is there came in before the history was this long.
      refine List.pairwise_append.2 ⟨earlier, List.pairwise_singleton _ _, ?_⟩
      intro first member second new
      obtain rfl := List.mem_singleton.1 new
      obtain ⟨place, enters⟩ := exists_entersAt_iff.2 ((holds.mem_keys_iff first).1 member)
      have absent : ∀ given other, ¬ LastSet steps (lowered name) given other :=
        fun given other set => there ((holds.mem_keys_iff _).2 ⟨given, other, set⟩)
      exact ⟨place, steps.length, entersAt_snoc_iff.2 (Or.inr ⟨enters, id⟩),
        entersAt_snoc_iff.2 (Or.inl ⟨rfl, rfl, absent⟩), enters.lt⟩

theorem remove (holds : Holds steps headers) (name : String) :
    Holds (steps ++ [.remove name]) (headers.erase name) where
  distinct := by
    rw [keys_erase name holds.distinct]
    exact holds.distinct.filter _
  mem_iff := by
    intro header
    rw [mem_erase_iff name holds.distinct, holds.mem_iff]
    simp only [lastSet_snoc_iff]
    constructor
    · rintro ⟨⟨given, value, set, same⟩, apart⟩
      exact ⟨given, value, Or.inr ⟨set, id, fun equal => apart equal.symm⟩, same⟩
    · rintro ⟨given, value, ⟨last, -⟩ | ⟨set, -, apart⟩, same⟩
      · cases last
      · exact ⟨⟨given, value, set, same⟩, fun equal => apart equal.symm⟩
  inOrder := by
    have kept : ∀ key ∈ headers.keys.filter (· != lowered name),
        ¬ (HeaderStep.remove name).Removes key := by
      intro key member removed
      exact bne_iff_ne.1 (List.mem_filter.1 member).2 removed.symm
    rw [keys_erase name holds.distinct]
    exact (holds.inOrder.filter _).imp_of_mem fun first second before =>
      before.snoc ⟨kept _ first, kept _ second⟩

/-- Headers that hold what a history left hold what it leaves with one more operation. -/
theorem perform (holds : Holds steps headers) (step : HeaderStep) :
    Holds (steps ++ [step]) (headers.perform step).1 := by
  cases step with
  | set name value => exact holds.set name value
  | get name => exact holds.looked fun _ => ⟨id, id⟩
  | contains name => exact holds.looked fun _ => ⟨id, id⟩
  | remove name => exact holds.remove name

end Holds

theorem holds_after (steps : List HeaderStep) : Holds steps (Headers.after steps) := by
  induction steps using List.reverseRecOn with
  | nil => exact holds_nil
  | append_singleton steps step inductionHypothesis =>
    rw [Headers.after_snoc]
    exact inductionHypothesis.perform step

/-! ### Headers filed under keys -/

/-- An ordered map from keys to headers. -/
structure HeaderMap where
  slots : List (String × Header) := []
  deriving DecidableEq

namespace HeaderMap

/-- The slots with a header put under a key: in the place of what is there, or behind all others. -/
def insertIn (key : String) (header : Header) : List (String × Header) → List (String × Header)
  | [] => [(key, header)]
  | slot :: rest =>
    if slot.1 = key then (key, header) :: rest else slot :: insertIn key header rest

/-- One operation on a map. A header is filed under its name as it is given, in small letters. -/
def perform (map : HeaderMap) : HeaderStep → HeaderMap × HeaderAnswer
  | .set name value =>
    (⟨insertIn (lowered name) ⟨titleCase name, value⟩ map.slots⟩, .done)
  | .get name => (map, .value ((map.slots.lookup (lowered name)).map (·.value)))
  | .contains name => (map, .presence (map.slots.lookup (lowered name)).isSome)
  | .remove name =>
    (⟨map.slots.eraseP (·.1 == lowered name)⟩, .removed (map.slots.lookup (lowered name)))

/-- The map after a history of operations. -/
def after (steps : List HeaderStep) : HeaderMap :=
  steps.foldl (fun map step => (map.perform step).1) {}

/-- A header under the key of its own name. -/
def slot (header : Header) : String × Header :=
  (lowered header.name, header)

theorem insertIn_map_slot (name value : String) (entries : List Header) :
    insertIn (lowered name) ⟨titleCase name, value⟩ (entries.map slot) =
      (Headers.setIn name value entries).map slot := by
  have new : slot ⟨titleCase name, value⟩ = (lowered name, ⟨titleCase name, value⟩) := by
    rw [slot, lowered_titleCase]
  induction entries with
  | nil => exact congrArg (fun slot => [slot]) new.symm
  | cons header rest inductionHypothesis =>
    rw [List.map_cons, insertIn, Headers.setIn, inductionHypothesis]
    simp only [answersTo_iff, apply_ite (List.map slot), List.map_cons, new]
    rfl

theorem lookup_map_slot (name : String) (entries : List Header) :
    (entries.map slot).lookup (lowered name) = entries.find? (·.answersTo name) := by
  induction entries with
  | nil => rfl
  | cons header rest inductionHypothesis =>
    rw [List.map_cons, slot, List.lookup_cons, List.find?_cons, inductionHypothesis,
      Header.answersTo, BEq.comm]

theorem eraseP_map_slot (name : String) (entries : List Header) :
    (entries.map slot).eraseP (·.1 == lowered name) =
      (entries.eraseP (·.answersTo name)).map slot :=
  List.eraseP_map

end HeaderMap

/-- The headers, each under the key of its own name. -/
def Headers.filed (headers : Headers) : HeaderMap :=
  ⟨headers.entries.map HeaderMap.slot⟩

/-- An operation does the same to headers and to the map they are filed in. -/
theorem perform_filed (headers : Headers) (step : HeaderStep) :
    headers.filed.perform step = ((headers.perform step).1.filed, (headers.perform step).2) := by
  have found (name : String) : headers.filed.slots.lookup (lowered name) = headers.find? name :=
    HeaderMap.lookup_map_slot name headers.entries
  cases step with
  | set name value =>
    exact congrArg (fun slots => (HeaderMap.mk slots, HeaderAnswer.done))
      (HeaderMap.insertIn_map_slot name value headers.entries)
  | get name =>
    rw [HeaderMap.perform, found]
    rfl
  | contains name =>
    rw [HeaderMap.perform, found, Headers.perform, Headers.contains_eq_isSome, Headers.get?,
      Option.isSome_map]
  | remove name =>
    rw [HeaderMap.perform, found]
    exact congrArg (fun slots => (HeaderMap.mk slots, HeaderAnswer.removed (headers.find? name)))
      (HeaderMap.eraseP_map_slot name headers.entries)

theorem after_eq_filed (steps : List HeaderStep) :
    HeaderMap.after steps = (Headers.after steps).filed := by
  induction steps using List.reverseRecOn with
  | nil => rfl
  | append_singleton steps step inductionHypothesis =>
    rw [Headers.after_snoc, HeaderMap.after, List.foldl_concat]
    exact congrArg Prod.fst ((congrArg (·.perform step) inductionHypothesis).trans
      (perform_filed _ step))

/-! ### What headers keep -/

/-- What headers say of the history of operations that led to them. -/
structure Record (steps : List HeaderStep) (headers : Headers) : Prop where
  /-- No two names differ in the case of ASCII letters only. -/
  distinct : headers.keys.Nodup
  /-- A header has the name and the value of the latest setting, the name in customary form. -/
  latest : ∀ header ∈ headers.entries, ∃ given,
    LastSet steps (lowered header.name) given header.value ∧ header.name = titleCase given
  /-- A name came in once since it was last removed. -/
  entered : ∀ key ∈ headers.keys, ∃! place, EntersAt steps key place
  inOrder : headers.keys.Pairwise (EntersBefore steps)
  answers : ∀ step : HeaderStep, step.Expects steps (headers.perform step).2
  set_there : ∀ name value, lowered name ∈ headers.keys → ∃ front header back,
    headers.entries = front ++ header :: back ∧ lowered header.name = lowered name ∧
      (headers.set name value).entries = front ++ ⟨titleCase name, value⟩ :: back
  set_new : ∀ name value, lowered name ∉ headers.keys →
    (headers.set name value).entries = headers.entries ++ [⟨titleCase name, value⟩]
  removed : ∀ name, (headers.erase name).entries =
    headers.entries.filter fun header => lowered header.name != lowered name
  /-- Each header is filed under the key of the name that it is kept under. -/
  filed : HeaderMap.after steps = headers.filed
  answersFiled : ∀ step,
    ((HeaderMap.after steps).perform step).2 = (headers.perform step).2

theorem Holds.expects {steps : List HeaderStep} {headers : Headers} (holds : Holds steps headers)
    (step : HeaderStep) : step.Expects steps (headers.perform step).2 := by
  cases step with
  | set name value => exact rfl
  | get name =>
    refine ⟨headers.get? name, rfl, fun value => ?_⟩
    rw [Headers.get?, Option.map_eq_some_iff]
    constructor
    · rintro ⟨header, found, rfl⟩
      obtain ⟨given, value, set, rfl⟩ := (holds.find?_iff name header).1 found
      exact ⟨given, set⟩
    · rintro ⟨given, set⟩
      exact ⟨_, (holds.find?_iff name _).2 ⟨given, value, set, rfl⟩, rfl⟩
  | contains name =>
    refine ⟨headers.contains name, rfl, ?_⟩
    rw [← holds.mem_keys_iff, Headers.contains, List.any_eq_true, Headers.keys, List.mem_map]
    simp only [answersTo_iff]
  | remove name => exact ⟨headers.find? name, rfl, holds.find?_iff name⟩

theorem entries_set_of_mem_keys {headers : Headers} {name : String} (value : String)
    (there : lowered name ∈ headers.keys) : ∃ front header back,
      headers.entries = front ++ header :: back ∧ lowered header.name = lowered name ∧
        (headers.set name value).entries = front ++ ⟨titleCase name, value⟩ :: back := by
  rcases setIn_cases name value headers.entries with placed | ⟨apart, -⟩
  · exact placed
  · obtain ⟨header, member, same⟩ := List.mem_map.1 there
    exact absurd same (apart header member)

theorem entries_set_of_not_mem_keys {headers : Headers} {name : String} (value : String)
    (new : lowered name ∉ headers.keys) :
    (headers.set name value).entries = headers.entries ++ [⟨titleCase name, value⟩] := by
  rcases setIn_cases name value headers.entries with ⟨front, header, back, split, same, -⟩ |
    ⟨-, set⟩
  · refine absurd (List.mem_map.2 ⟨header, ?_, same⟩) new
    exact split ▸ List.mem_append_right _ List.mem_cons_self
  · exact set

/-- After any history of operations, headers are the record of it. They stand for an ordered list
of names, looked up without regard to the case of ASCII letters, in which the latest setting of a
name counts and keeps the place of the first. -/
theorem record_after (steps : List HeaderStep) : Record steps (Headers.after steps) := by
  have holds := holds_after steps
  refine {
    distinct := holds.distinct
    latest := fun header member => ?_
    entered := fun key member => ?_
    inOrder := holds.inOrder
    answers := holds.expects
    set_there := fun name value => entries_set_of_mem_keys value
    set_new := fun name value => entries_set_of_not_mem_keys value
    removed := fun name => entries_erase name holds.distinct
    filed := after_eq_filed steps
    answersFiled := fun step => ?_ }
  · obtain ⟨given, value, set, same⟩ := (holds.mem_iff header).1 member
    rw [same] at set ⊢
    exact ⟨given, set, rfl⟩
  · obtain ⟨place, enters⟩ := exists_entersAt_iff.2 ((holds.mem_keys_iff key).1 member)
    exact ⟨place, enters, fun other entersOther => entersOther.unique enters⟩
  · rw [after_eq_filed, perform_filed]

/-- A name that is set again keeps its place, and one that is removed and set again loses it. -/
example : (Headers.after [.set "accept" "a", .set "x-id" "1", .set "ACCEPT" "b", .remove "X-Id",
    .set "host" "h", .set "x-id" "2"]).entries =
    [⟨"Accept", "b"⟩, ⟨"Host", "h"⟩, ⟨"X-Id", "2"⟩] := by
  decide +kernel

end CurlScribe
