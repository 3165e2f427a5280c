/-
This file says what it means that a loop makes progress over a text. Each turn of the loop goes on
from another state or stops. A cursor tells how far a state has come: every turn that goes on moves
it forward and keeps it within the text. So the number of characters that are left bounds the
number of turns, and the loop comes to an end.

What every turn keeps is what the whole loop keeps, by induction on its turns.
-/

namespace CurlScribe

/-! ### Turns -/

/-- What one turn of a loop comes to: another state to go on from, or the last state. -/
inductive Turn (State : Type) where
  | goOn (later : State)
  | stop (last : State)

variable {State : Type} {turn : State → Turn State} {cursor : State → Nat} {total : Nat}

/-- The first condition holds of the state to go on from, or the second one of the last state. -/
def Turn.Meets (goesOn halts : State → Prop) : Turn State → Prop
  | .goOn later => goesOn later
  | .stop last => halts last

/-- The loop stops in the given last state, at the turn of the given number. -/
inductive Halts (turn : State → Turn State) : State → Nat → State → Prop
  | now {state last : State} (ends : turn state = .stop last) : Halts turn state 1 last
  | later {state next last : State} {count : Nat} (goes : turn state = .goOn next)
      (halts : Halts turn next count last) : Halts turn state (count + 1) last

/-- What every last turn brings about holds where the loop stops. -/
theorem Halts.last_of_stop {holds : State → Prop}
    (settled : ∀ {state last}, turn state = .stop last → holds last)
    {state last : State} {count : Nat} (halts : Halts turn state count last) : holds last := by
  induction halts with
  | now ends => exact settled ends
  | later _ _ inductionHypothesis => exact inductionHypothesis

/-- A value that every turn keeps is what the last turn makes of it. -/
theorem Halts.eq_of_meets {Result : Type} {found result : State → Result}
    (meets : ∀ state, (turn state).Meets (fun later => found state = found later)
      fun last => found state = result last)
    {state last : State} {count : Nat} (halts : Halts turn state count last) :
    found state = result last := by
  induction halts with
  | @now state last ends =>
    have settled := meets state
    rwa [ends] at settled
  | @later state next last _ goes _ inductionHypothesis =>
    have kept := meets state
    rw [goes] at kept
    exact Eq.trans kept inductionHypothesis

/-! ### Cursors -/

/-- The cursor does not move back, and it stays in a text with so many characters. -/
structure Onward (total before behind : Nat) : Prop where
  notBack : before ≤ behind
  inside : before ≤ total → behind ≤ total

theorem Onward.refl (place : Nat) : Onward total place place :=
  ⟨Nat.le_refl _, id⟩

theorem Onward.trans {first second third : Nat} (before : Onward total first second)
    (behind : Onward total second third) : Onward total first third :=
  ⟨Nat.le_trans before.notBack behind.notBack, fun inside => behind.inside (before.inside inside)⟩

/-- A turn that goes on moves the cursor forward, the last one does not move it back, and neither
moves it out of a text with so many characters. -/
structure Progress (turn : State → Turn State) (cursor : State → Nat) (total : Nat) : Prop where
  forward : ∀ {state later}, turn state = .goOn later → cursor state < cursor later
  within : ∀ {state later}, turn state = .goOn later → cursor later ≤ total
  settles : ∀ {state last}, turn state = .stop last → Onward total (cursor state) (cursor last)

namespace Progress

theorem of_meets
    (meets : ∀ state, (turn state).Meets
      (fun later => cursor state < cursor later ∧ cursor later ≤ total)
      fun last => Onward total (cursor state) (cursor last)) :
    Progress turn cursor total := by
  have goesOn {state later : State} (goes : turn state = .goOn later) :
      cursor state < cursor later ∧ cursor later ≤ total := by
    have both := meets state
    rwa [goes] at both
  refine ⟨fun goes => (goesOn goes).1, fun goes => (goesOn goes).2, fun {state last} ends => ?_⟩
  have settled := meets state
  rwa [ends] at settled

theorem onward (progress : Progress turn cursor total) {state last : State} {count : Nat}
    (halts : Halts turn state count last) : Onward total (cursor state) (cursor last) := by
  induction halts with
  | now ends => exact progress.settles ends
  | later goes _ inductionHypothesis =>
    have once : Onward total _ _ :=
      ⟨Nat.le_of_lt (progress.forward goes), fun _ => progress.within goes⟩
    exact once.trans inductionHypothesis

end Progress

/-! ### Loops -/

/-- A loop whose cursor makes progress over a text. -/
structure Loop (State : Type) where
  turn : State → Turn State
  cursor : State → Nat
  total : Nat
  progress : Progress turn cursor total

namespace Loop

/-- The last state of the loop. -/
def run (loop : Loop State) (state : State) : State :=
  match result : loop.turn state with
  | .stop last => last
  | .goOn later =>
    have : loop.total - loop.cursor later < loop.total - loop.cursor state := by
      have forward := loop.progress.forward result
      have within := loop.progress.within result
      omega
    loop.run later
termination_by loop.total - loop.cursor state

/-- A loop takes no more turns than there are characters left, and one more to stop. -/
theorem exists_halts (loop : Loop State) (state : State) :
    ∃ count ≤ loop.total - loop.cursor state + 1, Halts loop.turn state count (loop.run state) := by
  fun_induction Loop.run loop state with
  | case1 state last ends => exact ⟨1, Nat.le_add_left .., .now ends⟩
  | case2 state later goes fewer inductionHypothesis =>
    obtain ⟨count, bound, halts⟩ := inductionHypothesis
    exact ⟨count + 1, by omega, .later goes halts⟩

theorem onward (loop : Loop State) (state : State) :
    Onward loop.total (loop.cursor state) (loop.cursor (loop.run state)) := by
  obtain ⟨_, -, halts⟩ := loop.exists_halts state
  exact loop.progress.onward halts

end Loop

end CurlScribe
