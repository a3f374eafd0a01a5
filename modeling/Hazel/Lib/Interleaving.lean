import Mathlib.Data.List.Infix

/-!
# Parties that run side by side and write to one store

Each party `p` has a program, the list `program p` of its actions. A run is a list
of actions with the parties that take them, in any order in which every party
keeps to its own program. What the actions write goes into one store, where the
last write to a key stays.
-/

namespace Interleavings

section Runs

variable {P A : Type} [DecidableEq P]

/-- What `p` does in a run. -/
def actionsOf (p : P) (run : List (P × A)) : List A :=
  (run.filter fun event => event.1 = p).map Prod.snd

/-- No party leaves its program, and any may be stopped anywhere in it. -/
def Interleaves (program : P → List A) (run : List (P × A)) : Prop :=
  ∀ p, actionsOf p run <+: program p

/-- Every party gets to the end of its program. -/
def Finishes (program : P → List A) (run : List (P × A)) : Prop :=
  ∀ p, actionsOf p run = program p

variable {program : P → List A} {run : List (P × A)}

theorem Finishes.interleaves (h : Finishes program run) : Interleaves program run :=
  fun p => h p ▸ List.prefix_refl _

theorem mem_actionsOf {p : P} {a : A} : a ∈ actionsOf p run ↔ (p, a) ∈ run := by
  simp [actionsOf]

/-- An action of a run is one of its party's program. -/
theorem Interleaves.mem (h : Interleaves program run) {p : P} {a : A} (hmem : (p, a) ∈ run) :
    a ∈ program p :=
  (h p).subset (mem_actionsOf.mpr hmem)

theorem actionsOf_append (p : P) (run run' : List (P × A)) :
    actionsOf p (run ++ run') = actionsOf p run ++ actionsOf p run' := by
  simp [actionsOf]

/-- The actions of one party, without a break. -/
def solo (p : P) (actions : List A) : List (P × A) := actions.map fun a => (p, a)

theorem actionsOf_solo_self (p : P) (actions : List A) :
    actionsOf p (solo p actions) = actions := by
  simp [actionsOf, solo, List.filter_map, Function.comp_def]

theorem actionsOf_solo_of_ne {p q : P} (h : q ≠ p) (actions : List A) :
    actionsOf p (solo q actions) = [] := by
  simp [actionsOf, solo, List.filter_map, Function.comp_def, h]

/-- The parties of a list, one after the other. -/
theorem actionsOf_flatMap_solo (program : P → List A) {parties : List P} (h : parties.Nodup)
    (p : P) : actionsOf p (parties.flatMap fun q => solo q (program q)) =
      if p ∈ parties then program p else [] := by
  induction parties with
  | nil => rfl
  | cons q parties ih =>
    obtain ⟨hq, hparties⟩ := List.nodup_cons.mp h
    rw [List.flatMap_cons, actionsOf_append, ih hparties]
    by_cases hp : q = p
    · subst hp
      rw [actionsOf_solo_self, if_neg hq, if_pos List.mem_cons_self, List.append_nil]
    · have hp' : p ≠ q := fun heq => hp heq.symm
      rw [actionsOf_solo_of_ne hp, List.nil_append]
      simp [hp']

end Runs

section Stores

variable {K V : Type} [DecidableEq K]

/-- The store after some writes to it. -/
def written (writes : List (K × V)) (k : K) : Option V :=
  writes.foldl (fun found write => if write.1 = k then some write.2 else found) none

variable {writes writes' : List (K × V)} {k : K} {v : V}

theorem written_append_of_not_mem (h : ∀ write ∈ writes', write.1 ≠ k) :
    written (writes ++ writes') k = written writes k := by
  rw [written, List.foldl_append]
  show List.foldl _ (written writes k) writes' = written writes k
  generalize written writes k = found
  induction writes' with
  | nil => rfl
  | cons write writes' ih =>
    have hrest : ∀ write ∈ writes', write.1 ≠ k := fun w hw => h w (List.mem_cons_of_mem _ hw)
    rw [List.foldl_cons, if_neg (h write List.mem_cons_self), ih hrest]

/-- A write stays until the next one to its key. -/
theorem written_of_last (h : ∀ write ∈ writes', write.1 ≠ k) :
    written (writes ++ (k, v) :: writes') k = some v := by
  have hsplit : writes ++ (k, v) :: writes' = (writes ++ [(k, v)]) ++ writes' := by simp
  rw [hsplit, written_append_of_not_mem h, written, List.foldl_append]
  simp

/-- What is in the store has been written. -/
theorem mem_of_written (h : written writes k = some v) : (k, v) ∈ writes := by
  induction writes using List.reverseRecOn with
  | nil => cases h
  | append_singleton writes write ih =>
    rw [written, List.foldl_append] at h
    by_cases hk : write.1 = k
    · have hv : write.2 = v := by simpa [hk] using h
      subst hk hv
      simp
    · have hbefore : written writes k = some v := by
        rw [written]
        simpa [hk] using h
      exact List.mem_append_left _ (ih hbefore)

end Stores

end Interleavings
