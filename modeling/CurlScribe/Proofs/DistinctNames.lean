/-
This file proves that no two fields of a struct get the same name. Keys may come to the same
name, and a name may look like another one with a number, so a name is compared with all names
before it. If it is taken, numbers are tried from two on. Different numbers make different names,
so among one more number than there are taken names one is free: the search finds the first such
number, and it needs no more steps than that.
-/

import CurlScribe.Proofs.StructTexts
import Mathlib.Data.List.Perm.Subperm
import Mathlib.Data.Nat.Find

namespace CurlScribe.Go

open Text

/-! ### Numbered names -/

/-- The number is the first one, from `start` on, with which the name is not taken. -/
structure IsFirstFree (name : String) (taken : List String) (start number : Nat) : Prop where
  notBefore : start ≤ number
  free : name ++ toString number ∉ taken
  earlier : ∀ other, start ≤ other → other < number → name ++ toString other ∈ taken

/-- The taken names are too few for a name with each of as many numbers and one more. -/
theorem exists_free (name : String) (taken : List String) (start : Nat) :
    ∃ number, number ≤ start + taken.length ∧ start ≤ number ∧
      name ++ toString number ∉ taken := by
  by_contra none
  let candidates :=
    (List.range' start (taken.length + 1)).map fun number => name ++ toString number
  have distinct : candidates.Nodup :=
    List.Nodup.map (fun _ _ => append_toString_inj) List.nodup_range'
  have all : candidates ⊆ taken := by
    intro candidate member
    obtain ⟨number, among, rfl⟩ := List.mem_map.1 member
    obtain ⟨notBefore, within⟩ := List.mem_range'_1.1 among
    by_contra free
    exact none ⟨number, Nat.le_of_lt_succ within, notBefore, free⟩
  have few := (distinct.subperm all).length_le
  rw [List.length_map, List.length_range'] at few
  exact Nat.not_succ_le_self _ few

theorem exists_isFirstFree (name : String) (taken : List String) (start : Nat) :
    ∃ number, IsFirstFree name taken start number ∧ number ≤ start + taken.length := by
  obtain ⟨bound, within, found⟩ := exists_free name taken start
  have some : ∃ number, start ≤ number ∧ name ++ toString number ∉ taken := ⟨bound, found⟩
  refine ⟨Nat.find some, ⟨(Nat.find_spec some).1, (Nat.find_spec some).2, ?_⟩,
    Nat.le_trans (Nat.find_min' some found) within⟩
  intro other notBefore before
  by_contra free
  exact Nat.find_min some before ⟨notBefore, free⟩

/-! ### The search -/

/-- The search finds the first free number if its bound reaches that far. -/
theorem numberedName_eq {name : String} {taken : List String} {start number : Nat}
    (first : IsFirstFree name taken start number) {count : Nat} (enough : number < start + count) :
    numberedName name taken count start = name ++ toString number := by
  induction count generalizing start with
  | zero => exact absurd first.notBefore (Nat.not_le.2 enough)
  | succ count inductionHypothesis =>
    rw [numberedName]
    by_cases here : start = number
    · rw [if_neg fun clash => first.free (here ▸ List.contains_iff_mem.1 clash), here]
    · have before : start < number := Nat.lt_of_le_of_ne first.notBefore here
      have later : IsFirstFree name taken (start + 1) number :=
        ⟨before, first.free, fun other behind => first.earlier other (Nat.le_of_succ_le behind)⟩
      rw [if_pos (List.contains_iff_mem.2 (first.earlier start (Nat.le_refl _) before))]
      exact inductionHypothesis later (by omega)

/-- How a name comes from the one that its key is given by itself: it is that name if it is not
taken, or else that name with the first number, from two on, that makes it free. Numbers need not
be tried beyond as many as there are taken names, and one more. -/
inductive IsPicked (natural : String) (taken : List String) : String → Prop
  | natural (free : natural ∉ taken) : IsPicked natural taken natural
  | numbered {number : Nat} (clash : natural ∈ taken) (first : IsFirstFree natural taken 2 number)
      (soon : number < 2 + (taken.length + 1)) :
      IsPicked natural taken (natural ++ toString number)

theorem isPicked_uniqueName (natural : String) (taken : List String) :
    IsPicked natural taken (uniqueName natural taken) := by
  unfold uniqueName
  split_ifs with clash
  · obtain ⟨number, first, within⟩ := exists_isFirstFree natural taken 2
    have soon : number < 2 + (taken.length + 1) := Nat.lt_succ_of_le within
    rw [numberedName_eq first soon]
    exact .numbered (List.contains_iff_mem.1 clash) first soon
  · exact .natural fun member => clash (List.contains_iff_mem.2 member)

theorem IsPicked.not_mem {natural name : String} {taken : List String}
    (picked : IsPicked natural taken name) : name ∉ taken := by
  cases picked with
  | natural free => exact free
  | numbered _ first _ => exact first.free

/-- A search that may go on longer finds the same name, so it never gives up with a name that is
taken. -/
theorem IsPicked.numberedName_eq {natural name : String} {taken : List String}
    (picked : IsPicked natural taken name) (clash : natural ∈ taken) {count : Nat}
    (enough : taken.length < count) : numberedName natural taken count 2 = name := by
  cases picked with
  | natural free => exact absurd clash free
  | numbered _ first soon => exact Go.numberedName_eq first (by omega)

/-! ### All names of a struct -/

theorem not_mem_of_mem_uniqueNames {taken keys : List String} {name : String}
    (member : name ∈ uniqueNames taken keys) : name ∉ taken := by
  induction keys generalizing taken with
  | nil => cases member
  | cons key rest inductionHypothesis =>
    rcases List.mem_cons.1 member with rfl | later
    · exact (isPicked_uniqueName _ _).not_mem
    · exact fun before => inductionHypothesis later (List.mem_append_left _ before)

theorem nodup_uniqueNames (taken keys : List String) : (uniqueNames taken keys).Nodup := by
  induction keys generalizing taken with
  | nil => exact List.nodup_nil
  | cons key rest inductionHypothesis =>
    refine List.nodup_cons.2 ⟨fun later => ?_, inductionHypothesis _⟩
    exact not_mem_of_mem_uniqueNames later (List.mem_append_right _ List.mem_cons_self)

namespace GoType

/-- The name of a field is picked with regard to the names of the fields in front of it. -/
theorem isPicked_of_zip {taken : List String} {fields : List (Field GoType)}
    {before after : List (String × Field GoType)} {named : String × Field GoType}
    (split : (uniqueNames taken (keys fields)).zip fields = before ++ named :: after) :
    IsPicked (fieldName named.2.key) (taken ++ before.map Prod.fst) named.1 := by
  induction fields generalizing taken before with
  | nil =>
    rw [List.zip_nil_right, eq_comm, List.append_eq_nil_iff] at split
    exact nomatch split.2
  | cons field rest inductionHypothesis =>
    cases before with
    | nil =>
      obtain ⟨rfl, -⟩ := List.cons.inj split
      rw [List.map_nil, List.append_nil]
      exact isPicked_uniqueName _ _
    | cons first before =>
      obtain ⟨rfl, later⟩ := List.cons.inj split
      have picked := inductionHypothesis later
      rwa [List.append_assoc] at picked

/-- In every struct of the definition for a document the names of the fields are distinct. The
struct is written with these names, and each of them is the name of its key, or that name with the
first number that makes it unlike all names in front of it; the search for the number ends within
as many steps as there are names in front, and one more, however far it might go on. -/
theorem nodup_names_of_hasStruct {document typeName definition : String}
    (accepted : typeDefinition document typeName = some definition) :
    ∃ value, Json.read document = some value ∧
      ∀ depth fields, HasStruct (ofValue value) depth fields →
        IsWrittenIn ((GoType.struct fields).text depth) definition ∧
        (GoType.struct fields).text depth =
          "struct \x7b\n" ++ String.join ((namedFields fields).map (fieldLine (depth + 1))) ++
            tabs depth ++ "\x7d" ∧
        (namedFields fields).map Prod.snd = fields ∧
        ((namedFields fields).map Prod.fst).Nodup ∧
        ∀ before named after, namedFields fields = before ++ named :: after →
          IsPicked (fieldName named.2.key) (before.map Prod.fst) named.1 ∧
          (fieldName named.2.key ∈ before.map Prod.fst →
            ∀ count > before.length,
              numberedName (fieldName named.2.key) (before.map Prod.fst) count 2 = named.1) := by
  obtain ⟨value, found⟩ := exists_read accepted
  refine ⟨value, found, fun depth fields inside => ?_⟩
  refine ⟨inside.isWrittenIn_definition accepted found, text_struct depth fields,
    map_snd_namedFields fields, ?_, fun before named after split => ?_⟩
  · rw [map_fst_namedFields]
    exact nodup_uniqueNames [] (keys fields)
  · have picked := isPicked_of_zip split
    rw [List.nil_append] at picked
    refine ⟨picked, fun clash count enough => picked.numberedName_eq clash ?_⟩
    rwa [List.length_map]

/-- Two keys come to one name, and the third looks like that name with a number. -/
theorem nodup_names_of_hasStruct_id :
    let fields : List (Field GoType) :=
      [⟨"id", .int, false⟩, ⟨"ID", .int, false⟩, ⟨"ID2", .int, false⟩]
    ∃ definition, typeDefinition "[\x7b\x22id\x22:1,\x22ID\x22:2,\x22ID2\x22:3\x7d]" "Payload" =
        some definition ∧
      IsWrittenIn ((GoType.struct fields).text 0) definition ∧
      (namedFields fields).map Prod.fst = ["ID", "ID2", "ID22"] ∧
      ((namedFields fields).map Prod.fst).Nodup := by
  intro fields
  have found : Json.read "[\x7b\x22id\x22:1,\x22ID\x22:2,\x22ID2\x22:3\x7d]" =
      some (.array [.object [("id", .number (.integer 1)), ("ID", .number (.integer 2)),
        ("ID2", .number (.integer 3))]]) := by
    with_unfolding_all rfl
  have accepted := typeDefinition_of_read found "Payload"
  obtain ⟨value, same, all⟩ := nodup_names_of_hasStruct accepted
  obtain rfl := Option.some.inj (found.symm.trans same)
  obtain ⟨written, -, -, distinct, -⟩ := all 0 fields (.element (.here fields))
  exact ⟨_, accepted, written, by decide +kernel, distinct⟩

end GoType

end CurlScribe.Go
