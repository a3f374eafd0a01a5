import Mathlib.Tactic.Common
import Mathlib.Data.List.Induction

/-!
# Paths as sequences of moves

A path is a list of segments, each of which stays in the current directory,
goes down into one of its entries, or goes up to its parent. A path is confined
when no part of it from the start goes up more often than down. Two readings of
that: its lexical normal form has no segment left that goes up, and resolving
it never leaves the directory it starts from.
-/

namespace DotSegments

/-- What a segment does to the current directory. -/
inductive Move where
  | stay
  | down
  | up
  deriving DecidableEq, Repr

section

variable {σ : Type} (move : σ → Move)

def ups (segs : List σ) : Nat := segs.countP (move · = .up)

def downs (segs : List σ) : Nat := segs.countP (move · = .down)

/-- In every prefix, as many segments at most go up as go down. -/
def Confined (segs : List σ) : Prop := ∀ pre, pre <+: segs → ups move pre ≤ downs move pre

/-- One segment on the stack of segments that are left so far, the last on top:
one that goes up cancels the one that went down before it. -/
def push (stack : List σ) (seg : σ) : List σ :=
  match move seg with
  | .stay => stack
  | .down => seg :: stack
  | .up =>
    match stack with
    | [] => [seg]
    | top :: rest => if move top = .up then seg :: stack else rest

def normalizeStack (segs : List σ) : List σ := segs.foldl (push move) []

/-- The lexical normal form. -/
def normalize (segs : List σ) : List σ := (normalizeStack move segs).reverse

/-- The directory that `segs` leads to from `dir`, given by its names from the
innermost out. The parent of the root is the root. -/
def resolve (dir segs : List σ) : List σ :=
  segs.foldl (fun dir seg =>
    match move seg with
    | .stay => dir
    | .down => seg :: dir
    | .up => dir.tail) dir

end

section Push

variable {σ : Type} {move : σ → Move} {seg top : σ} {stack : List σ}

theorem push_of_stay (h : move seg = .stay) : push move stack seg = stack := by
  simp [push, h]

theorem push_of_down (h : move seg = .down) : push move stack seg = seg :: stack := by
  simp [push, h]

theorem push_nil_of_up (h : move seg = .up) : push move [] seg = [seg] := by
  simp [push, h]

theorem push_cons_of_up (h : move seg = .up) (htop : move top = .up) :
    push move (top :: stack) seg = seg :: top :: stack := by
  simp [push, h, htop]

theorem push_cancels (h : move seg = .up) (htop : move top ≠ .up) :
    push move (top :: stack) seg = stack := by
  simp [push, h, htop]

end Push

section Counts

variable {σ : Type} {move : σ → Move} {segs : List σ} {seg : σ}

theorem normalizeStack_concat (segs : List σ) (seg : σ) :
    normalizeStack move (segs ++ [seg]) = push move (normalizeStack move segs) seg := by
  simp [normalizeStack]

theorem ups_concat :
    ups move (segs ++ [seg]) = ups move segs + if move seg = .up then 1 else 0 := by
  simp [ups, List.countP_cons]

theorem downs_concat :
    downs move (segs ++ [seg]) = downs move segs + if move seg = .down then 1 else 0 := by
  simp [downs, List.countP_cons]

theorem confined_nil : Confined move ([] : List σ) := by
  intro pre hpre
  rw [List.prefix_nil.mp hpre]
  exact Nat.le_refl _

theorem confined_concat : Confined move (segs ++ [seg]) ↔
    Confined move segs ∧ ups move (segs ++ [seg]) ≤ downs move (segs ++ [seg]) := by
  constructor
  · intro h
    exact ⟨fun pre hpre => h pre (hpre.trans (List.prefix_append _ _)), h _ List.prefix_rfl⟩
  · rintro ⟨hsegs, hlast⟩ pre hpre
    rcases List.prefix_concat_iff.mp hpre with rfl | hpre
    · exact hlast
    · exact hsegs pre hpre

/-- Staying segments make no difference at the front. -/
theorem confined_cons_of_stay (hseg : move seg = .stay) :
    Confined move (seg :: segs) ↔ Confined move segs := by
  have hups (pre : List σ) : ups move (seg :: pre) = ups move pre := by
    simp [ups, hseg]
  have hdowns (pre : List σ) : downs move (seg :: pre) = downs move pre := by
    simp [downs, hseg]
  constructor
  · intro h pre hpre
    rw [← hups, ← hdowns]
    exact h (seg :: pre) (List.cons_prefix_cons.mpr ⟨rfl, hpre⟩)
  · intro h pre hpre
    cases pre with
    | nil => exact Nat.le_refl _
    | cons first pre =>
      obtain ⟨rfl, htail⟩ := List.cons_prefix_cons.mp hpre
      rw [hups, hdowns]
      exact h pre htail

end Counts

section Normal

variable {σ : Type} {move : σ → Move} {segs : List σ}

/-- Along a confined path the stack holds what went down and has not been
cancelled, so it is as high as the path is deep. -/
theorem normalizeStack_of_confined (h : Confined move segs) :
    (∀ seg ∈ normalizeStack move segs, move seg = .down) ∧
      (normalizeStack move segs).length + ups move segs = downs move segs := by
  induction segs using List.reverseRecOn with
  | nil => exact ⟨fun _ hmem => absurd hmem List.not_mem_nil, rfl⟩
  | append_singleton segs seg ih =>
    obtain ⟨hsegs, hlast⟩ := confined_concat.mp h
    obtain ⟨hdown, hlength⟩ := ih hsegs
    rw [ups_concat, downs_concat] at hlast ⊢
    rw [normalizeStack_concat]
    cases hmove : move seg with
    | stay =>
      rw [push_of_stay hmove]
      simpa using ⟨hdown, hlength⟩
    | down =>
      rw [push_of_down hmove, List.length_cons]
      refine ⟨fun s hs => ?_, by simp; omega⟩
      rcases List.mem_cons.mp hs with rfl | hs
      · exact hmove
      · exact hdown s hs
    | up =>
      simp only [hmove, reduceCtorEq, if_true, if_false] at hlast ⊢
      -- the path has gone down before, so there is a segment to cancel
      cases hstack : normalizeStack move segs with
      | nil =>
        rw [hstack, List.length_nil] at hlength
        omega
      | cons top rest =>
        rw [hstack] at hdown hlength
        have htop : move top = .down := hdown top List.mem_cons_self
        rw [push_cancels hmove (by rw [htop]; decide)]
        refine ⟨fun s hs => hdown s (List.mem_cons_of_mem _ hs), ?_⟩
        rw [List.length_cons] at hlength
        omega

/-- A segment that goes up from the bottom of the stack stays there. -/
theorem exists_up_of_not_confined (h : ¬ Confined move segs) :
    ∃ seg ∈ normalizeStack move segs, move seg = .up := by
  induction segs using List.reverseRecOn with
  | nil => exact absurd confined_nil h
  | append_singleton segs seg ih =>
    rw [normalizeStack_concat]
    by_cases hsegs : Confined move segs
    · have hlast : ¬ ups move (segs ++ [seg]) ≤ downs move (segs ++ [seg]) :=
        fun hlast => h (confined_concat.mpr ⟨hsegs, hlast⟩)
      obtain ⟨-, hlength⟩ := normalizeStack_of_confined hsegs
      rw [ups_concat, downs_concat] at hlast
      -- the last segment is the first to go up too often, so the stack is empty
      cases hmove : move seg with
      | stay => simp [hmove] at hlast; omega
      | down => simp [hmove] at hlast; omega
      | up =>
        simp only [hmove, reduceCtorEq, if_true, if_false] at hlast
        have hempty : normalizeStack move segs = [] := List.length_eq_zero_iff.mp (by omega)
        rw [hempty, push_nil_of_up hmove]
        exact ⟨seg, List.mem_singleton_self _, hmove⟩
    · obtain ⟨up, hmem, hup⟩ := ih hsegs
      -- only a segment that goes down is ever cancelled, so `up` stays
      cases hmove : move seg with
      | stay => exact ⟨up, by rwa [push_of_stay hmove], hup⟩
      | down => exact ⟨up, by rw [push_of_down hmove]; exact List.mem_cons_of_mem _ hmem, hup⟩
      | up =>
        cases hstack : normalizeStack move segs with
        | nil => exact absurd hmem (by rw [hstack]; exact List.not_mem_nil)
        | cons top rest =>
          rw [hstack] at hmem
          by_cases htop : move top = .up
          · rw [push_cons_of_up hmove htop]
            exact ⟨seg, List.mem_cons_self, hmove⟩
          · rw [push_cancels hmove htop]
            rcases List.mem_cons.mp hmem with rfl | hmem
            · exact absurd hup htop
            · exact ⟨up, hmem, hup⟩

/-- A path is confined exactly when nothing in its normal form goes up. -/
theorem confined_iff_normalize :
    Confined move segs ↔ ∀ seg ∈ normalize move segs, move seg ≠ .up := by
  simp only [normalize, List.mem_reverse]
  constructor
  · intro h seg hseg hup
    have hdown := (normalizeStack_of_confined h).1 seg hseg
    rw [hup] at hdown
    cases hdown
  · intro h
    by_contra hconfined
    obtain ⟨seg, hseg, hup⟩ := exists_up_of_not_confined hconfined
    exact h seg hseg hup

/-- A confined path leads from a directory to below it, by its normal form. -/
theorem resolve_of_confined (h : Confined move segs) (dir : List σ) :
    resolve move dir segs = normalizeStack move segs ++ dir := by
  induction segs using List.reverseRecOn with
  | nil => rfl
  | append_singleton segs seg ih =>
    obtain ⟨hsegs, hlast⟩ := confined_concat.mp h
    obtain ⟨hdown, hlength⟩ := normalizeStack_of_confined hsegs
    have hstep : resolve move dir (segs ++ [seg]) =
        resolve move (resolve move dir segs) [seg] := by
      simp [resolve]
    rw [hstep, ih hsegs, normalizeStack_concat]
    cases hmove : move seg with
    | stay => simp [resolve, hmove, push_of_stay]
    | down => simp [resolve, hmove, push_of_down]
    | up =>
      rw [ups_concat, downs_concat] at hlast
      simp only [hmove, reduceCtorEq, if_true, if_false] at hlast
      cases hstack : normalizeStack move segs with
      | nil =>
        rw [hstack, List.length_nil] at hlength
        omega
      | cons top rest =>
        have htop : move top = .down := hdown top (hstack ▸ List.mem_cons_self)
        rw [push_cancels hmove (by rw [htop]; decide)]
        simp [resolve, hmove]

end Normal

end DotSegments
