import Mathlib.Tactic.Common

/-!
# Shell scripts under `set -e`

A script transforms a state and either goes on with a value or exits with a
status. Two triples speak of it, one for each way it can end, and compose along
the sequence of its commands.

## Main definitions

- `Goes P p Q`: from a state in `P`, `p` goes on with a value and a state in `Q`
- `Exits P p Q`: from a state in `P`, `p` exits with a status and a state in `Q`
-/

namespace Scripts

inductive Outcome (α : Type) where
  | next (a : α)
  | exited (status : Nat)
  deriving DecidableEq, Repr

/-- The exit status of the whole script. -/
def Outcome.status {α : Type} : Outcome α → Nat
  | next _ => 0
  | exited status => status

def Script (σ α : Type) : Type := σ → Outcome α × σ

namespace Script

variable {σ α β : Type}

instance : Monad (Script σ) where
  pure a := fun s => (.next a, s)
  bind p f := fun s =>
    match p s with
    | (.next a, s) => f a s
    | (.exited status, s) => (.exited status, s)

def exit (status : Nat) : Script σ α := fun s => (.exited status, s)

def get : Script σ σ := fun s => (.next s, s)

def modify (f : σ → σ) : Script σ Unit := fun s => (.next (), f s)

/-- A command that failed ends the script. -/
def errexit (status : Nat) : Script σ Unit := if status = 0 then pure () else exit status

/-- What a command substitution leaves of the output. -/
def stripNewlines (output : String) : String :=
  String.ofList (output.toList.reverse.dropWhile (· = '\n')).reverse

/-- `$(p)`: the output of `p` in a shell of its own, and its status. -/
def capture (p : Script σ String) : Script σ (String × Nat) := fun s =>
  match p s with
  | (.next output, s) => (.next (stripNewlines output, 0), s)
  | (.exited status, s) => (.next ("", status), s)

/-- `x=$(p)`. -/
def assign (p : Script σ String) : Script σ String := do
  let (output, status) ← capture p
  errexit status
  pure output

/-- `x=$(p)` where a failure does not matter: bash clears `-e` in the shell of a
command substitution. -/
def assignAnyway (p : Script σ String) : Script σ String := do
  let (output, _) ← capture p
  pure output

def Goes (P : σ → Prop) (p : Script σ α) (Q : α → σ → Prop) : Prop :=
  ∀ s, P s → ∃ a s', p s = (.next a, s') ∧ Q a s'

def Exits (P : σ → Prop) (p : Script σ α) (Q : Nat → σ → Prop) : Prop :=
  ∀ s, P s → ∃ status s', p s = (.exited status, s') ∧ Q status s'

/-- Nothing is stripped from an output without line breaks. -/
theorem stripNewlines_eq_self {output : String} (h : '\n' ∉ output.toList) :
    stripNewlines output = output := by
  have hkeep : output.toList.reverse.dropWhile (· = '\n') = output.toList.reverse := by
    cases hreverse : output.toList.reverse with
    | nil => rfl
    | cons last rest =>
      have hlast : last ∈ output.toList := List.mem_reverse.mp (hreverse ▸ List.mem_cons_self)
      have hne : last ≠ '\n' := fun heq => h (heq ▸ hlast)
      rw [List.dropWhile_cons_of_neg (by simpa using hne)]
  rw [stripNewlines, hkeep, List.reverse_reverse, String.ofList_toList]

section Run

variable {p : Script σ α} {f : α → Script σ β} {s s' : σ}

theorem bind_of_next {a : α} (h : p s = (.next a, s')) : (p >>= f) s = f a s' := by
  change (match p s with | (.next a, s) => f a s | (.exited status, s) => _) = _
  rw [h]

theorem bind_of_exited {status : Nat} (h : p s = (.exited status, s')) :
    (p >>= f) s = (.exited status, s') := by
  change (match p s with | (.next a, s) => f a s | (.exited status, s) => _) = _
  rw [h]

theorem capture_of_next {p : Script σ String} {output : String}
    (h : p s = (.next output, s')) : capture p s = (.next (stripNewlines output, 0), s') := by
  rw [capture, h]

theorem capture_of_exited {p : Script σ String} {status : Nat}
    (h : p s = (.exited status, s')) : capture p s = (.next ("", status), s') := by
  rw [capture, h]

end Run

section Rules

variable {P : σ → Prop} {p : Script σ α} {f : α → Script σ β} {Q : α → σ → Prop}

theorem goes_pure {a : α} (h : ∀ s, P s → Q a s) : Goes P (pure a) Q :=
  fun s hs => ⟨a, s, rfl, h s hs⟩

theorem goes_modify {Q : Unit → σ → Prop} {g : σ → σ} (h : ∀ s, P s → Q () (g s)) :
    Goes P (modify g) Q :=
  fun s hs => ⟨(), g s, rfl, h s hs⟩

theorem goes_get : Goes P get fun (a : σ) s => a = s ∧ P s :=
  fun s hs => ⟨s, s, rfl, rfl, hs⟩

theorem exits_exit {status : Nat} {R : Nat → σ → Prop} (h : ∀ s, P s → R status s) :
    Exits P (exit status : Script σ α) R :=
  fun s hs => ⟨status, s, rfl, h s hs⟩

theorem Goes.bind {R : β → σ → Prop} (hp : Goes P p Q) (hf : ∀ a, Goes (Q a) (f a) R) :
    Goes P (p >>= f) R := by
  intro s hs
  obtain ⟨a, s', hrun, ha⟩ := hp s hs
  rw [bind_of_next hrun]
  exact hf a s' ha

theorem Goes.bind_exits {R : Nat → σ → Prop} (hp : Goes P p Q)
    (hf : ∀ a, Exits (Q a) (f a) R) : Exits P (p >>= f) R := by
  intro s hs
  obtain ⟨a, s', hrun, ha⟩ := hp s hs
  rw [bind_of_next hrun]
  exact hf a s' ha

theorem Exits.bind {R : Nat → σ → Prop} (hp : Exits P p R) : Exits P (p >>= f) R := by
  intro s hs
  obtain ⟨status, s', hrun, hstatus⟩ := hp s hs
  exact ⟨status, s', bind_of_exited hrun, hstatus⟩

theorem Goes.mono {Q' : α → σ → Prop} (h : Goes P p Q) (hQ : ∀ a s, Q a s → Q' a s) :
    Goes P p Q' := by
  intro s hs
  obtain ⟨a, s', hrun, ha⟩ := h s hs
  exact ⟨a, s', hrun, hQ a s' ha⟩

theorem Exits.mono {R R' : Nat → σ → Prop} (h : Exits P p R) (hR : ∀ n s, R n s → R' n s) :
    Exits P p R' := by
  intro s hs
  obtain ⟨status, s', hrun, hstatus⟩ := h s hs
  exact ⟨status, s', hrun, hR status s' hstatus⟩

/-- A substitution whose command goes on assigns what it printed. -/
theorem Goes.assign {p : Script σ String} {Q : String → σ → Prop} (h : Goes P p Q) :
    Goes P (Script.assign p) fun output s =>
      ∃ printed, output = stripNewlines printed ∧ Q printed s := by
  intro s hs
  obtain ⟨printed, s', hrun, hprinted⟩ := h s hs
  refine ⟨stripNewlines printed, s', ?_, printed, rfl, hprinted⟩
  rw [Script.assign, bind_of_next (capture_of_next hrun)]
  rfl

theorem Exits.assign {p : Script σ String} {R : Nat → σ → Prop}
    (h : Exits P p fun status s => status ≠ 0 ∧ R status s) : Exits P (Script.assign p) R := by
  intro s hs
  obtain ⟨status, s', hrun, hne, hR⟩ := h s hs
  refine ⟨status, s', ?_, hR⟩
  have herrexit : (errexit status : Script σ Unit) s' = (.exited status, s') := by
    rw [errexit, if_neg hne]
    rfl
  rw [Script.assign, bind_of_next (capture_of_exited hrun)]
  exact bind_of_exited herrexit

theorem Goes.assignAnyway {p : Script σ String} {Q : String → σ → Prop} (h : Goes P p Q) :
    Goes P (Script.assignAnyway p) fun output s =>
      ∃ printed, output = stripNewlines printed ∧ Q printed s := by
  intro s hs
  obtain ⟨printed, s', hrun, hprinted⟩ := h s hs
  refine ⟨stripNewlines printed, s', ?_, printed, rfl, hprinted⟩
  rw [Script.assignAnyway, bind_of_next (capture_of_next hrun)]
  rfl

theorem Exits.assignAnyway {p : Script σ String} {R : Nat → σ → Prop} (h : Exits P p R) :
    Goes P (Script.assignAnyway p) fun output s => output = "" ∧ ∃ status, R status s := by
  intro s hs
  obtain ⟨status, s', hrun, hR⟩ := h s hs
  refine ⟨"", s', ?_, rfl, status, hR⟩
  rw [Script.assignAnyway, bind_of_next (capture_of_exited hrun)]
  rfl

end Rules

end Script

end Scripts
