/-
This file says what is removed around a command: blanks on both sides and, in front of it, a
prompt between blanks. A command can stand between such texts exactly if neither of its ends is
blank and it does not start with a prompt itself, or one is removed already. Both conditions look
at the two ends only, so what is written inside a command or put at its end stays in it.
-/

import CurlScribe.Proofs.Scanning
import Mathlib.Data.List.DropRight

namespace CurlScribe

open Text

/-! ### Blanks -/

theorem trimStart_suffix (text : List Char) : trimStart text <:+ text :=
  List.dropWhile_suffix _

theorem length_trimEnd_le (text : List Char) : (trimEnd text).length ≤ text.length :=
  List.IsPrefix.length_le (List.rdropWhile_prefix isBlank text)

theorem trimStart_of_trimBoth {text : List Char} (trimmed : trimBoth text = text) :
    trimStart text = text := by
  have shorter := length_trimEnd_le (trimStart text)
  rw [show trimEnd (trimStart text) = text from trimmed] at shorter
  exact (trimStart_suffix text).eq_of_length_le shorter

theorem trimEnd_of_trimBoth {text : List Char} (trimmed : trimBoth text = text) :
    trimEnd text = text := by
  rwa [trimBoth, trimStart_of_trimBoth trimmed] at trimmed

/-- Of two texts the blanks at the end are those of the second, unless it has nothing else. -/
theorem trimEnd_spaced (text later : List Char) :
    trimEnd (spaced text later) =
      if trimEnd later = [] then trimEnd text else spaced text (trimEnd later) := by
  have space : [' '].dropWhile isBlank = [] := rfl
  simp only [trimEnd, spaced, List.reverse_append, List.reverse_cons, List.append_assoc,
    List.dropWhile_append, List.reverse_eq_nil_iff, List.isEmpty_iff, space, if_true]
  split_ifs with blank
  · rfl
  · simp

/-- The blanks are removed from the start if the first character is one. -/
theorem trimStart_eq_self_iff {text : List Char} :
    trimStart text = text ↔ ∀ first ∈ text.head?, isBlank first = false := by
  cases text with
  | nil => exact ⟨nofun, fun _ => rfl⟩
  | cons first rest => simp [trimStart]

/-- The blanks are removed from the end if the last character is one. -/
theorem trimEnd_eq_self_iff {text : List Char} :
    trimEnd text = text ↔ ∀ last ∈ text.getLast?, isBlank last = false := by
  rw [← List.head?_reverse, ← trimStart_eq_self_iff, trimStart, trimEnd, List.reverse_eq_iff]

/-- A text is trimmed if neither of its ends is blank. -/
theorem trimBoth_eq_self_iff {text : List Char} :
    trimBoth text = text ↔
      (∀ first ∈ text.head?, isBlank first = false) ∧
        ∀ last ∈ text.getLast?, isBlank last = false := by
  rw [← trimStart_eq_self_iff, ← trimEnd_eq_self_iff]
  constructor
  · intro trimmed
    exact ⟨trimStart_of_trimBoth trimmed, trimEnd_of_trimBoth trimmed⟩
  · rintro ⟨start, ends⟩
    rw [trimBoth, start, ends]

/-- A start of a text that starts with no blank starts with none. -/
theorem trimStart_of_prefix {text whole : List Char} (within : text <+: whole)
    (start : trimStart whole = whole) : trimStart text = text := by
  obtain ⟨behind, rfl⟩ := within
  refine trimStart_eq_self_iff.2 fun first member => trimStart_eq_self_iff.1 start first ?_
  rw [List.head?_append, Option.mem_def.1 member]
  rfl

/-- An end of a text that ends with no blank ends with none. -/
theorem trimEnd_of_suffix {text whole : List Char} (within : text <:+ whole)
    (ends : trimEnd whole = whole) : trimEnd text = text := by
  obtain ⟨front, rfl⟩ := within
  refine trimEnd_eq_self_iff.2 fun last member => trimEnd_eq_self_iff.1 ends last ?_
  rw [List.getLast?_append, Option.mem_def.1 member]
  rfl

/-- What is left of a text is trimmed. -/
theorem trimBoth_trimBoth (text : List Char) : trimBoth (trimBoth text) = trimBoth text := by
  have start : trimStart (trimStart text) = trimStart text := List.dropWhile_idempotent _ _
  have ends : trimEnd (trimBoth text) = trimBoth text := List.rdropWhile_idempotent isBlank _
  have within : trimBoth text <+: trimStart text := List.rdropWhile_prefix isBlank _
  rw [trimBoth, trimStart_of_prefix within start, ends]

/-- The blanks in front of a text are removed. -/
theorem trimStart_append {lead : List Char} (blank : ∀ character ∈ lead, isBlank character = true)
    (text : List Char) : trimStart (lead ++ text) = trimStart text :=
  List.dropWhile_append_of_pos blank

/-- The blanks behind a text are removed. -/
theorem trimEnd_append {trail : List Char} (blank : ∀ character ∈ trail, isBlank character = true)
    (text : List Char) : trimEnd (text ++ trail) = trimEnd text := by
  have reversed : ∀ character ∈ trail.reverse, isBlank character = true :=
    fun character member => blank character (List.mem_reverse.1 member)
  rw [trimEnd, List.reverse_append, ← trimStart, trimStart_append reversed]
  rfl

/-- A trimmed text is what is left when blanks are put around it. -/
theorem trimBoth_around {lead text trail : List Char} (trimmed : trimBoth text = text)
    (nonempty : text ≠ []) (front : ∀ character ∈ lead, isBlank character = true)
    (behind : ∀ character ∈ trail, isBlank character = true) :
    trimBoth (lead ++ text ++ trail) = text := by
  obtain ⟨start, -⟩ := trimBoth_eq_self_iff.1 trimmed
  have edge : ∀ first ∈ (text ++ trail).head?, isBlank first = false := by
    rwa [List.head?_append_of_ne_nil text nonempty]
  rw [trimBoth, List.append_assoc, trimStart_append front, trimStart_eq_self_iff.2 edge,
    trimEnd_append behind, trimEnd_of_trimBoth trimmed]

/-- What is removed from the start of a text is blank. -/
theorem exists_trimStart (text : List Char) :
    ∃ lead, (∀ character ∈ lead, isBlank character = true) ∧ text = lead ++ trimStart text :=
  ⟨text.takeWhile isBlank, fun _ member => List.mem_takeWhile_imp member,
    List.takeWhile_append_dropWhile.symm⟩

/-- What is removed from the end of a text is blank. -/
theorem exists_trimEnd (text : List Char) :
    ∃ trail, (∀ character ∈ trail, isBlank character = true) ∧ text = trimEnd text ++ trail := by
  obtain ⟨lead, blank, whole⟩ := exists_trimStart text.reverse
  refine ⟨lead.reverse, fun character member => blank character (List.mem_reverse.1 member), ?_⟩
  rw [trimEnd, ← trimStart, ← List.reverse_append, ← whole, List.reverse_reverse]

/-! ### Prompts -/

/-- The text starts with a prompt: a mark and a separator. -/
def StartsWithPrompt : List Char → Prop
  | mark :: next :: _ => (mark = '$' ∨ mark = '#') ∧ isSeparator next = true
  | _ => False

instance : DecidablePred StartsWithPrompt
  | _ :: _ :: _ => inferInstanceAs (Decidable (_ ∧ _))
  | [_] => inferInstanceAs (Decidable False)
  | [] => inferInstanceAs (Decidable False)

/-- A prompt is removed with the blanks behind it. -/
theorem stripPrompt_of_prompt {text rest : List Char} {mark next : Char}
    (trimmed : trimBoth text = mark :: next :: rest) (marked : mark = '$' ∨ mark = '#')
    (separated : isSeparator next = true) : stripPrompt text = trimStart rest := by
  have blank : trimStart (next :: rest) = trimStart rest :=
    List.dropWhile_cons_of_pos (isBlank_of_isSeparator next separated)
  unfold stripPrompt
  rw [trimmed]
  rcases marked with rfl | rfl
  · exact (if_pos separated).trans blank
  · exact (if_pos separated).trans blank

/-- Only the blanks are removed from a text without a prompt. -/
theorem stripPrompt_of_not_startsWithPrompt {text : List Char}
    (bare : ¬ StartsWithPrompt (trimBoth text)) : stripPrompt text = trimBoth text := by
  unfold stripPrompt
  split
  · rename_i next rest trimmed
    rw [trimmed] at bare ⊢
    exact if_neg fun separated => bare ⟨Or.inl rfl, separated⟩
  · rename_i next rest trimmed
    rw [trimmed] at bare ⊢
    exact if_neg fun separated => bare ⟨Or.inr rfl, separated⟩
  · rfl

/-- Nothing is removed from a trimmed text without a prompt. -/
theorem stripPrompt_eq_self {text : List Char} (trimmed : trimBoth text = text)
    (bare : ¬ StartsWithPrompt text) : stripPrompt text = text := by
  rw [stripPrompt_of_not_startsWithPrompt (by rwa [trimmed]), trimmed]

/-! ### Texts around a command -/

/-- A text that is removed in front of a command: blanks, or a prompt between blanks, and then the
command itself may start like a prompt. -/
inductive Leads (command : List Char) : List Char → Prop
  | blanks {lead : List Char} (blank : ∀ character ∈ lead, isBlank character = true)
    (bare : ¬ StartsWithPrompt command) : Leads command lead
  | prompt {lead gap : List Char} {mark next : Char}
    (blank : ∀ character ∈ lead, isBlank character = true) (marked : mark = '$' ∨ mark = '#')
    (separated : isSeparator next = true)
    (blankGap : ∀ character ∈ gap, isBlank character = true) :
    Leads command (lead ++ mark :: next :: gap)

/-- Two texts are removed around a command. -/
structure Surrounds (lead trail command : List Char) : Prop where
  leads : Leads command lead
  trimmed : trimBoth command = command
  blank : ∀ character ∈ trail, isBlank character = true

/-- The texts around a command are removed. -/
theorem Surrounds.stripPrompt_eq {lead trail command : List Char}
    (around : Surrounds lead trail command) (nonempty : command ≠ []) :
    stripPrompt (lead ++ command ++ trail) = command := by
  obtain ⟨leads, trimmed, blankTrail⟩ := around
  obtain ⟨start, edge⟩ := trimBoth_eq_self_iff.1 trimmed
  cases leads with
  | blanks blank bare =>
    have whole := trimBoth_around trimmed nonempty blank blankTrail
    rw [stripPrompt_of_not_startsWithPrompt (by rwa [whole]), whole]
  | @prompt lead gap mark next blank marked separated blankGap =>
    have edges : trimBoth (mark :: next :: gap ++ command) = mark :: next :: gap ++ command := by
      refine trimBoth_eq_self_iff.2 ⟨?_, ?_⟩
      · rintro first ⟨rfl⟩
        rcases marked with rfl | rfl <;> rfl
      · rwa [List.getLast?_append_of_ne_nil _ nonempty]
    have whole := trimBoth_around edges (List.cons_ne_nil _ _) blank blankTrail
    rw [← List.append_assoc] at whole
    rw [stripPrompt_of_prompt whole marked separated]
    exact (trimStart_append blankGap command).trans (trimStart_eq_self_iff.2 start)

/-- Every text is a command between texts that are removed. -/
theorem exists_surrounds (text : List Char) :
    ∃ lead trail, text = lead ++ stripPrompt text ++ trail ∧
      Surrounds lead trail (stripPrompt text) := by
  obtain ⟨lead, blank, front⟩ := exists_trimStart text
  obtain ⟨trail, blankTrail, behind⟩ := exists_trimEnd (trimStart text)
  have trimmed := trimBoth_trimBoth text
  have whole : text = lead ++ (trimBoth text ++ trail) := front.trans (congrArg (lead ++ ·) behind)
  by_cases prompt : StartsWithPrompt (trimBoth text)
  · match kept : trimBoth text, prompt with
    | mark :: next :: rest, ⟨marked, separated⟩ =>
      obtain ⟨gap, blankGap, split⟩ := exists_trimStart rest
      have within : trimStart rest <:+ mark :: next :: rest :=
        (trimStart_suffix rest).trans ⟨[mark, next], rfl⟩
      have start : trimStart (trimStart rest) = trimStart rest := List.dropWhile_idempotent _ _
      rw [kept] at trimmed whole
      have ends := trimEnd_of_suffix within (trimEnd_of_trimBoth trimmed)
      rw [stripPrompt_of_prompt kept marked separated]
      refine ⟨lead ++ mark :: next :: gap, trail, ?_, .prompt blank marked separated blankGap, ?_,
        blankTrail⟩
      · rw [split] at whole
        simpa using whole
      · rw [trimBoth, start, ends]
  · rw [stripPrompt_of_not_startsWithPrompt prompt]
    exact ⟨lead, trail, by rwa [List.append_assoc], .blanks blank prompt, trimmed, blankTrail⟩

/-- The command between two texts can be exchanged for one that starts alike and has no blank at
its end. -/
theorem Surrounds.exchange {lead trail command other : List Char}
    (around : Surrounds lead trail command) (start : other.head? = command.head?)
    (bare : StartsWithPrompt other → StartsWithPrompt command)
    (edge : ∀ last ∈ other.getLast?, isBlank last = false) : Surrounds lead trail other := by
  obtain ⟨leads, trimmed, blankTrail⟩ := around
  refine ⟨?_, trimBoth_eq_self_iff.2 ⟨?_, edge⟩, blankTrail⟩
  · cases leads with
    | blanks blank unprompted => exact .blanks blank (mt bare unprompted)
    | prompt blank marked separated blankGap => exact .prompt blank marked separated blankGap
  · rw [start]
    exact (trimBoth_eq_self_iff.1 trimmed).1

/-- A character that is not blank can be put at the end of a command. -/
theorem Surrounds.concat {lead trail command : List Char} {last : Char}
    (around : Surrounds lead trail command) (nonempty : command ≠ [])
    (edge : isBlank last = false) : Surrounds lead trail (command ++ [last]) := by
  obtain ⟨first, rest, rfl⟩ := List.exists_cons_of_ne_nil nonempty
  refine around.exchange rfl ?_ ?_
  · cases rest with
    | nil =>
      rintro ⟨-, separated⟩
      rw [isBlank_of_isSeparator last separated] at edge
      cases edge
    | cons second rest => exact id
  · rw [List.getLast?_concat]
    rintro other ⟨rfl⟩
    exact edge

theorem stripPrompt_concat {text : List Char} {last : Char} (trimmed : trimBoth text = text)
    (bare : ¬ StartsWithPrompt text) (nonempty : text ≠ []) (edge : isBlank last = false) :
    stripPrompt (text ++ [last]) = text ++ [last] := by
  have alone : Surrounds [] [] text :=
    ⟨.blanks (List.forall_mem_nil _) bare, trimmed, List.forall_mem_nil _⟩
  simpa using (alone.concat nonempty edge).stripPrompt_eq (by simp)

end CurlScribe
