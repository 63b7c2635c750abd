import BranchingStory.Journal
import BranchingStory.Random
import BranchingStory.Story.Choice

/-!
# Chance tables

A chance table is a list of effects with weights.  The effects whose condition is absent or holds
are eligible.  One draw selects among them: the first whose running sum of weights reaches the draw,
or the last if none does.  Only the selected effect is applied.

Main results:

- `Chance.select_isSome`: among at least one effect, one is always selected.
-/

namespace BranchingStory
namespace Chance

/-! ## Selection -/

section Selection

variable {α : Type} [Add α] [LE α] [DecidableLE α]

/-- Position of the first weight whose running sum, begun at `sum`, reaches the draw. -/
def firstReaching (draw : α) : α → List α → Option Nat
  | _, [] => none
  | sum, weight :: rest =>
      if draw ≤ sum + weight then some 0
      else (firstReaching draw (sum + weight) rest).map (· + 1)

/-- The position is one of the list. -/
theorem firstReaching_lt {draw sum : α} {weights : List α} {i : Nat}
    (h : firstReaching draw sum weights = some i) : i < weights.length := by
  induction weights generalizing sum i with
  | nil => simp [firstReaching] at h
  | cons weight rest ih =>
      simp only [firstReaching] at h
      split at h
      · cases h
        simp
      · obtain ⟨j, hj, rfl⟩ := Option.map_eq_some_iff.mp h
        simpa using ih hj

variable [OfNat α 0]

/-- Position of the weight that a draw selects: the first whose running sum reaches the draw, else
the last. -/
def select (weights : List α) (draw : α) : Option Nat :=
  if weights.isEmpty then none
  else some ((firstReaching draw 0 weights).getD (weights.length - 1))

/-- Among at least one weight, one is always selected. -/
theorem select_isSome {weights : List α} (h : weights ≠ []) (draw : α) :
    (select weights draw).isSome = true := by
  cases weights with
  | nil => exact absurd rfl h
  | cons weight rest => rfl

/-- The selected position is a position of the list. -/
theorem select_lt {weights : List α} {draw : α} {i : Nat} (h : select weights draw = some i) :
    i < weights.length := by
  cases weights with
  | nil => simp [select] at h
  | cons weight rest =>
      simp only [select, List.isEmpty_cons, Bool.false_eq_true, if_false, Option.some.injEq] at h
      cases hfirst : firstReaching draw 0 (weight :: rest) with
      | none =>
          rw [hfirst] at h
          simp at h
          simp only [List.length_cons]
          omega
      | some j =>
          rw [hfirst] at h
          exact h ▸ firstReaching_lt hfirst

end Selection

/-! ## Applying a table -/

/-- The eligible entries with their positions in the table. -/
def eligible (s : Playthrough) (table : List ChanceEntry) : Traced (List (ChanceEntry × Nat)) :=
  Traced.filter (fun entry => testingOr true s entry.1.condition) table.zipIdx

/-- What came of a table: the position of the applied entry, the stats and the source after it. -/
structure Outcome where
  picked : Option Nat
  stats : Stats
  source : Source

/-- Draw from a table and apply the selected effect.  A table without eligible entries takes no
draw. -/
def apply (bounds : PerStat Bounds) (s : Playthrough) (table : List ChanceEntry)
    (source : Source) : Traced Outcome := do
  if table.isEmpty then
    return ⟨none, s.stats, source⟩
  let entries ← eligible s table
  let draw := Source.fraction source.word
  match select (entries.map fun entry => entry.1.chance) draw with
  | none =>
      Traced.note .nothingEligible
      return ⟨none, s.stats, source⟩
  | some i =>
      match entries[i]? with
      | none => return ⟨none, s.stats, source⟩
      | some (entry, position) =>
          Traced.note (.drew draw i entries.length)
          return ⟨some position, entry.effect.applyTo bounds s.stats, source.next⟩

end Chance
end BranchingStory
