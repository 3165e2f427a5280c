/-
This file holds JSON documents. A number is an integer, if it is written as one and fits
into 64 bits, or a decimal. The members of an object stand in the order in which their
names first appeared; no name appears twice in an object that was read.
-/

namespace CurlScribe.Json

/-- A JSON number. The decimal with a significand and an exponent is the significand times that
power of ten. -/
inductive Number where
  | integer (value : Int)
  | decimal (significand exponent : Int)
  deriving DecidableEq, Repr

/-- A JSON document. -/
inductive Value where
  | null
  | boolean (value : Bool)
  | number (value : Number)
  | string (value : String)
  | array (items : List Value)
  | object (members : List (String × Value))
  deriving Repr

/-- The members with one more: a name that is there gets the new value at its old place. -/
def putMember (name : String) (value : Value) : List (String × Value) → List (String × Value)
  | [] => [(name, value)]
  | member :: rest =>
    if member.1 = name then (name, value) :: rest else member :: putMember name value rest

/-- The members of a list in which names may repeat: the last value of a name counts, at the place
of its first. -/
def membersOf (members : List (String × Value)) : List (String × Value) :=
  members.foldl (fun kept member => putMember member.1 member.2 kept) []

theorem mem_names_putMember (name other : String) (value : Value)
    (members : List (String × Value)) :
    other ∈ (putMember name value members).map Prod.fst ↔
      other = name ∨ other ∈ members.map Prod.fst := by
  induction members with
  | nil => simp [putMember]
  | cons member rest inductionHypothesis =>
    by_cases same : member.1 = name
    · simp [putMember, same]
    · simp only [putMember, same, if_false, List.map_cons, List.mem_cons, inductionHypothesis]
      exact or_left_comm

theorem nodup_putMember (name : String) (value : Value) (members : List (String × Value))
    (distinct : (members.map Prod.fst).Nodup) :
    ((putMember name value members).map Prod.fst).Nodup := by
  induction members with
  | nil => simp [putMember]
  | cons member rest inductionHypothesis =>
    simp only [List.map_cons, List.nodup_cons] at distinct
    by_cases same : member.1 = name
    · simp only [putMember, same, if_true, List.map_cons, List.nodup_cons]
      exact same ▸ distinct
    · simp only [putMember, same, if_false, List.map_cons, List.nodup_cons,
        mem_names_putMember, false_or]
      exact ⟨distinct.1, inductionHypothesis distinct.2⟩

/-- No name appears twice. -/
theorem nodup_membersOf (members : List (String × Value)) :
    ((membersOf members).map Prod.fst).Nodup := by
  have step : ∀ (rest kept : List (String × Value)), (kept.map Prod.fst).Nodup →
      ((rest.foldl (fun kept member => putMember member.1 member.2 kept) kept).map
        Prod.fst).Nodup := by
    intro rest
    induction rest with
    | nil => exact fun _ distinct => distinct
    | cons member rest inductionHypothesis =>
      exact fun kept distinct => inductionHypothesis _ (nodup_putMember _ _ _ distinct)
  exact step members [] List.nodup_nil

end CurlScribe.Json
