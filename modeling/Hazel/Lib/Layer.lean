import Mathlib.Tactic.Common

/-!
# Values laid over a base

A merge lays a value over a base. Where the merge is stable, laying what came
out over the same base once more changes nothing, so that a result may be stored
and merged again.
-/

namespace Layers

variable {α β : Type}

/-- What a base becomes: it stays as it is, or something is merged over it. -/
def Layered (merge : α → α → α) (base x : α) : Prop :=
  x = base ∨ ∃ above, x = merge base above

/-- What a base becomes stays as it is when it is merged over the base. -/
def Stable (merge : α → α → α) : Prop :=
  ∀ base x, Layered merge base x → merge base x = x

/-- The merge takes one of its two sides. -/
def Chooses (merge : α → α → α) : Prop :=
  ∀ base above, merge base above = base ∨ merge base above = above

variable {merge : α → α → α}

/-- A part of what a base becomes is what the base's part becomes. -/
theorem Layered.map {part : α → β} {mergePart : β → β → β}
    (h : ∀ base above, part (merge base above) = mergePart (part base) (part above)) {base x : α}
    (hx : Layered merge base x) : Layered mergePart (part base) (part x) := by
  rcases hx with rfl | ⟨above, rfl⟩
  · exact .inl rfl
  · exact .inr ⟨part above, h base above⟩

/-- A stable part is left as it is. -/
theorem Stable.part {mergePart : β → β → β} (hstable : Stable mergePart) (part : α → β)
    (h : ∀ base above, part (merge base above) = mergePart (part base) (part above)) {base x : α}
    (hx : Layered merge base x) : part (merge base x) = part x := by
  rw [h]
  exact hstable _ _ (hx.map h)

end Layers
