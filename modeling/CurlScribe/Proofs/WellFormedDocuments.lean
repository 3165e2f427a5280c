/-
This file proves what can be relied on in a JSON document that was read: no object in it,
however deep, has two members of one name, and every number that counts as an integer fits
into 64 bits, with a sign or without. Both are settled by the innermost readers and passed on
by the readers of lists and objects, whatever the things in the lists are.
-/

import CurlScribe.Json.Reading
import Mathlib.Tactic.SplitIfs

namespace CurlScribe.Json

open Text

/-! ### Well-formed documents -/

/-- The integers that a document can hold as such: the signed and the unsigned ones of 64 bits. -/
def IsInteger64 (value : Int) : Prop :=
  -0x8000000000000000 ≤ value ∧ value < 0x10000000000000000

instance (value : Int) : Decidable (IsInteger64 value) :=
  inferInstanceAs (Decidable (_ ∧ _))

/-- The integers of a document fit into 64 bits, and no object has two members of one name. -/
inductive Value.IsWellFormed : Value → Prop
  | null : IsWellFormed .null
  | boolean (value : Bool) : IsWellFormed (.boolean value)
  | string (value : String) : IsWellFormed (.string value)
  | integer {value : Int} (fits : IsInteger64 value) : IsWellFormed (.number (.integer value))
  | decimal (significand exponent : Int) : IsWellFormed (.number (.decimal significand exponent))
  | array {items : List Value} (inside : ∀ item ∈ items, item.IsWellFormed) :
      IsWellFormed (.array items)
  | object {members : List (String × Value)} (distinct : (members.map Prod.fst).Nodup)
      (inside : ∀ member ∈ members, member.2.IsWellFormed) : IsWellFormed (.object members)

/-! ### Members -/

theorem mem_putMember {name : String} {value : Value} {members : List (String × Value)}
    {member : String × Value} (found : member ∈ putMember name value members) :
    member = (name, value) ∨ member ∈ members := by
  induction members with
  | nil => exact Or.inl (List.mem_singleton.1 found)
  | cons first rest inductionHypothesis =>
    rw [putMember] at found
    split_ifs at found with same
    · exact (List.mem_cons.1 found).imp_right (List.mem_cons_of_mem _)
    · rcases List.mem_cons.1 found with rfl | later
      · exact Or.inr List.mem_cons_self
      · exact (inductionHypothesis later).imp_right (List.mem_cons_of_mem _)

/-- Settling which values count invents no member. -/
theorem mem_of_mem_membersOf {members : List (String × Value)} {member : String × Value}
    (found : member ∈ membersOf members) : member ∈ members := by
  have step : ∀ (rest kept : List (String × Value)),
      member ∈ rest.foldl (fun kept member => putMember member.1 member.2 kept) kept →
        member ∈ kept ∨ member ∈ rest := by
    intro rest
    induction rest with
    | nil => exact fun _ => Or.inl
    | cons first rest inductionHypothesis =>
      intro kept found
      rcases inductionHypothesis _ found with before | later
      · rcases mem_putMember before with rfl | kept
        · exact Or.inr List.mem_cons_self
        · exact Or.inl kept
      · exact Or.inr (List.mem_cons_of_mem _ later)
  exact (step members [] found).resolve_left List.not_mem_nil

/-! ### Lists -/

section Lists

variable {Thing : Type} {style : ListStyle} {thing : Reader Thing} {holds : Thing → Prop}

theorem forall_mem_readThings
    (each : ∀ text result, thing text = some result → holds result.1) {count : Nat}
    {text : List Char} {result : List Thing × List Char}
    (found : readThings style thing count text = some result) :
    ∀ member ∈ result.1, holds member := by
  induction count generalizing text result with
  | zero => cases found
  | succ count inductionHypothesis =>
    rw [readThings] at found
    simp only [Option.bind_eq_bind, Option.bind_eq_some_iff] at found
    obtain ⟨⟨first, rest⟩, one, found⟩ := found
    have start : holds first := each _ _ one
    dsimp only at found
    split at found
    · split_ifs at found
      · cases found
        exact List.forall_mem_singleton.2 start
      · simp only [Option.bind_eq_some_iff] at found
        obtain ⟨⟨others, after⟩, later, found⟩ := found
        cases found
        exact List.forall_mem_cons.2 ⟨start, inductionHypothesis later⟩
    · split_ifs at found
      cases found
      exact List.forall_mem_singleton.2 start
    · cases found

/-- What holds of everything that a reader returns holds of all things of a list. -/
theorem forall_mem_readList
    (each : ∀ text result, thing text = some result → holds result.1) {text : List Char}
    {result : List Thing × List Char} (found : readList style thing text = some result) :
    ∀ member ∈ result.1, holds member := by
  unfold readList at found
  split at found
  · split_ifs at found
    · cases found
      exact List.forall_mem_nil _
    · exact forall_mem_readThings each found
  · cases found

end Lists

/-! ### Numbers -/

theorem takeUp_fst_lt {significand : Nat} (small : significand < Nat.pow 2 64)
    (digits : List Char) : (takeUp significand digits).1 < Nat.pow 2 64 := by
  induction digits generalizing significand with
  | nil => exact small
  | cons digit rest inductionHypothesis =>
    rw [takeUp]
    split_ifs with room
    · exact inductionHypothesis room
    · exact small

theorem isWellFormed_decimalOf {negative : Bool} {significand : Nat} {exponent : Int}
    {number : Number} (found : decimalOf negative significand exponent = some number) :
    (Value.number number).IsWellFormed := by
  unfold decimalOf at found
  split at found
  · cases found
  · cases found
    exact .decimal _ _

theorem isWellFormed_withExponent {negative : Bool} {significand : Nat} {exponent written : Int}
    {number : Number} (found : withExponent negative significand exponent written = some number) :
    (Value.number number).IsWellFormed := by
  unfold withExponent at found
  split_ifs at found
  · exact isWellFormed_decimalOf found
  · cases found
    exact .decimal _ _

/-- A written exponent keeps a number well formed. -/
theorem isWellFormed_of_exponent {negative : Bool} {significand : Nat} {exponent : Int}
    {text : List Char} {result : Number × List Char}
    (found : ((readExponent text).bind fun written =>
      (withExponent negative significand exponent written.1).bind fun number =>
        some (number, written.2)) = some result) :
    (Value.number result.1).IsWellFormed := by
  simp only [Option.bind_eq_some_iff] at found
  obtain ⟨written, _, number, accepted, found⟩ := found
  cases found
  exact isWellFormed_withExponent accepted

/-- What digits and a sign spell fits unless it is too far below zero. -/
theorem isInteger64_of_takeUp {negative : Bool} {digits : List Char} {value : Int}
    (signed : (if negative then -((takeUp 0 digits).1 : Int) else (takeUp 0 digits).1) = value)
    (lower : -0x8000000000000000 ≤ value) : IsInteger64 value := by
  have small : (takeUp 0 digits).1 < 0x10000000000000000 := takeUp_fst_lt (by decide) digits
  refine ⟨lower, ?_⟩
  split_ifs at signed <;> omega

theorem isWellFormed_readFraction {negative : Bool} {integer text : List Char}
    {result : Number × List Char} (found : readFraction negative integer text = some result) :
    (Value.number result.1).IsWellFormed := by
  unfold readFraction at found
  dsimp only at found
  split at found
  · split_ifs at found
    split at found
    · exact isWellFormed_of_exponent found
    · exact isWellFormed_of_exponent found
    · obtain ⟨number, accepted, rfl⟩ := Option.map_eq_some_iff.1 found
      exact isWellFormed_decimalOf accepted
  · exact isWellFormed_of_exponent found
  · exact isWellFormed_of_exponent found
  · generalize signed :
      (if negative then -((takeUp 0 integer).1 : Int) else (takeUp 0 integer).1) = value at found
    split_ifs at found with plain
    · cases found
      exact .integer (isInteger64_of_takeUp signed plain.2.1)
    · obtain ⟨number, accepted, rfl⟩ := Option.map_eq_some_iff.1 found
      exact isWellFormed_decimalOf accepted

theorem isWellFormed_readNumber {negative : Bool} {text : List Char}
    {result : Number × List Char} (found : readNumber negative text = some result) :
    (Value.number result.1).IsWellFormed := by
  unfold readNumber at found
  dsimp only at found
  split at found
  · cases found
  · cases found
  · exact isWellFormed_readFraction found

/-! ### Documents -/

theorem isWellFormed_readMember {value : Reader Value}
    (each : ∀ text result, value text = some result → result.1.IsWellFormed) (text : List Char)
    (result : (String × Value) × List Char) (found : readMember value text = some result) :
    result.1.2.IsWellFormed := by
  unfold readMember at found
  simp only [Option.bind_eq_bind, Option.bind_eq_some_iff] at found
  obtain ⟨opened, _, ⟨name, rest⟩, _, content, _, ⟨meaning, after⟩, read, found⟩ := found
  cases found
  exact each _ _ read

theorem isWellFormed_readValue {depth : Nat} {text : List Char} {result : Value × List Char}
    (found : readValue depth text = some result) : result.1.IsWellFormed := by
  induction depth using Nat.strongRecOn generalizing text result with
  | ind depth inductionHypothesis =>
    unfold readValue at found
    split at found <;> obtain ⟨inner, read, rfl⟩ := Option.map_eq_some_iff.1 found
    · exact .null
    · exact .boolean true
    · exact .boolean false
    · exact .string _
    · exact isWellFormed_readNumber read
    · exact .array (forall_mem_readList
        (fun _ _ => inductionHypothesis _ (Nat.lt_succ_self _)) read)
    · have members : ∀ member ∈ inner.1, member.2.IsWellFormed := forall_mem_readList
        (isWellFormed_readMember fun _ _ => inductionHypothesis _ (Nat.lt_succ_self _)) read
      exact .object (nodup_membersOf inner.1) fun member kept =>
        members member (mem_of_mem_membersOf kept)
    · exact isWellFormed_readNumber read

/-- A document is a value with white space around it. -/
theorem exists_readValue_of_read {text : String} {value : Value} (found : read text = some value) :
    ∃ rest, readValue depthLimit (skipSpace text.toList) = some (value, rest) ∧
      skipSpace rest = [] := by
  unfold read at found
  split at found
  · rename_i document rest accepted
    split_ifs at found with blank
    cases found
    exact ⟨rest, accepted, List.isEmpty_iff.1 blank⟩
  · cases found

/-- Every document that was read is well formed. -/
theorem isWellFormed_of_read {text : String} {value : Value} (found : read text = some value) :
    value.IsWellFormed := by
  obtain ⟨rest, accepted, -⟩ := exists_readValue_of_read found
  exact isWellFormed_readValue accepted

end CurlScribe.Json
