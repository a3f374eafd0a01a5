import Hazel.Lib.Script

/-!
# Scripts whichever way they end

A triple with two postconditions, one for a script that goes on and one for a
script that exits. Nothing is said of which of the two happens, so that it holds
of a command whose outcome is not known, and composes along a sequence with every
failure on the way.
-/

namespace Scripts.Script

variable {σ α β : Type}

/-- From a state in `P`, `p` goes on with a value and a state in `Q`, or exits with
a status and a state in `R`. -/
def Ends (P : σ → Prop) (p : Script σ α) (Q : α → σ → Prop) (R : Nat → σ → Prop) : Prop :=
  ∀ s, P s →
    match p s with
    | (.next a, s') => Q a s'
    | (.exited status, s') => R status s'

section Rules

variable {P P' : σ → Prop} {p : Script σ α} {f : α → Script σ β} {Q Q' : α → σ → Prop}
  {R R' : Nat → σ → Prop}

theorem Ends.bind {Q' : β → σ → Prop} (hp : Ends P p Q R) (hf : ∀ a, Ends (Q a) (f a) Q' R) :
    Ends P (p >>= f) Q' R := by
  intro s hs
  have hend := hp s hs
  rcases hrun : p s with ⟨a | status, s'⟩
  · rw [hrun] at hend
    rw [bind_of_next hrun]
    exact hf a s' hend
  · rw [hrun] at hend
    rw [bind_of_exited hrun]
    exact hend

theorem Ends.mono (h : Ends P p Q R) (hP : ∀ s, P' s → P s) (hQ : ∀ a s, Q a s → Q' a s)
    (hR : ∀ status s, R status s → R' status s) : Ends P' p Q' R' := by
  intro s hs
  have hend := h s (hP s hs)
  rcases hrun : p s with ⟨a | status, s'⟩
  · rw [hrun] at hend
    exact hQ a s' hend
  · rw [hrun] at hend
    exact hR status s' hend

/-- An exit of the command is passed on, unless its status is 0. -/
theorem Ends.assign {p : Script σ String} {Q : String → σ → Prop} (h : Ends P p Q R)
    (hR : ∀ s, ¬ R 0 s) :
    Ends P (Script.assign p) (fun output s =>
      ∃ printed, output = stripNewlines printed ∧ Q printed s) R := by
  intro s hs
  have hend := h s hs
  rcases hrun : p s with ⟨printed | status, s'⟩
  · rw [hrun] at hend
    rw [Script.assign, bind_of_next (capture_of_next hrun)]
    exact ⟨printed, rfl, hend⟩
  · rw [hrun] at hend
    have hne : status ≠ 0 := by
      intro heq
      rw [heq] at hend
      exact hR s' hend
    have herrexit : (errexit status : Script σ Unit) s' = (.exited status, s') := by
      rw [errexit, if_neg hne]
      rfl
    have hassign : Script.assign p s = (.exited status, s') := by
      rw [Script.assign, bind_of_next (capture_of_exited hrun)]
      exact bind_of_exited herrexit
    rw [hassign]
    exact hend

end Rules

end Scripts.Script
