/-
This file says when a character belongs to a class that a table describes. A class of
characters is stored as blocks of neighbouring code points, or, where capital and small
letters of a script alternate, as runs with a step. The tables themselves stand in the
modules named for the property they hold; a character is a member exactly when some
block or run of the table reaches it.
-/

namespace CurlScribe.Text

/-! ### Blocks -/

/-- Some block of the table, both ends included, holds the character. -/
def inBlocks (blocks : List (Nat × Nat)) (character : Char) : Bool :=
  blocks.any fun block => block.1 ≤ character.toNat && character.toNat ≤ block.2

theorem inBlocks_iff (blocks : List (Nat × Nat)) (character : Char) :
    inBlocks blocks character = true ↔
      ∃ block ∈ blocks, block.1 ≤ character.toNat ∧ character.toNat ≤ block.2 := by
  simp [inBlocks]

/-! ### Runs with a step -/

/-- A code point is one of `first`, `first + step`, … up to `last`. -/
def inRun (first last step point : Nat) : Bool :=
  first ≤ point && point ≤ last && (point - first) % step == 0

/-- Some run of the table, written as first point, last point and step, reaches the character. -/
def inRuns (runs : List (Nat × Nat × Nat)) (character : Char) : Bool :=
  runs.any fun run => inRun run.1 run.2.1 run.2.2 character.toNat

end CurlScribe.Text
