import Mathlib.Tactic.Common

/-!
# Programs that ask a store for keys

A `Prog` reads a store one key at a time, decides on each answer what to ask
next, and ends with a value or an error. `run` answers it from a store,
`consulted` lists the keys it asks on that run, and `AsksIn` bounds the keys it
can ask on any run. Two stores that agree on what a program asks take it to the
same end, so what a program does not ask cannot change its result.
-/

namespace Query

/-- A computation that asks a store of `K`-indexed values of type `V` and ends
in an error of type `ε` or a value of type `α`. -/
inductive Prog (K V ε α : Type) : Type where
  | done (r : Except ε α) : Prog K V ε α
  | ask (k : K) (next : V → Prog K V ε α) : Prog K V ε α

namespace Prog

variable {K V ε α β : Type}

/-- Run `p`, then `f` on its value. An error of `p` ends the whole program. -/
def bind (p : Prog K V ε α) (f : α → Prog K V ε β) : Prog K V ε β :=
  match p with
  | done (.ok a) => f a
  | done (.error e) => done (.error e)
  | ask k next => ask k fun v => (next v).bind f

instance : Monad (Prog K V ε) where
  pure a := done (.ok a)
  bind := bind

/-- Ask for one key and return the answer. -/
def lookup (k : K) : Prog K V ε V := ask k fun v => done (.ok v)

/-- End with an error. -/
def fail (e : ε) : Prog K V ε α := done (.error e)

/-- Go on with the value of `r`, or end with its error. -/
def lift (r : Except ε α) : Prog K V ε α := done r

/-- Answer every question from the store `env`. -/
def run (env : K → V) : Prog K V ε α → Except ε α
  | done r => r
  | ask k next => (next (env k)).run env

/-- The keys asked on the run over `env`, in order. -/
def consulted (env : K → V) : Prog K V ε α → List K
  | done _ => []
  | ask k next => k :: (next (env k)).consulted env

/-- Whatever it is answered, the program asks only for keys in `S`. -/
def AsksIn (S : K → Prop) : Prog K V ε α → Prop
  | done _ => True
  | ask k next => S k ∧ ∀ v, (next v).AsksIn S

section Run

variable (env : K → V)

@[simp] theorem run_pure (a : α) : (pure a : Prog K V ε α).run env = .ok a := rfl

@[simp] theorem run_lookup_bind (k : K) (f : V → Prog K V ε α) :
    (lookup k >>= f).run env = (f (env k)).run env := rfl

theorem run_bind (p : Prog K V ε α) (f : α → Prog K V ε β) :
    (p >>= f).run env = p.run env >>= fun a => (f a).run env := by
  change (p.bind f).run env = _
  induction p with
  | done r => cases r <;> rfl
  | ask k next ih => exact ih (env k)

theorem run_bind_of_ok {p : Prog K V ε α} {f : α → Prog K V ε β} {a : α}
    (h : p.run env = .ok a) : (p >>= f).run env = (f a).run env := by
  rw [run_bind, h]
  rfl

/-- A sequence succeeds exactly when both of its parts do. -/
theorem run_bind_eq_ok {p : Prog K V ε α} {f : α → Prog K V ε β} {b : β} :
    (p >>= f).run env = .ok b ↔ ∃ a, p.run env = .ok a ∧ (f a).run env = .ok b := by
  rw [run_bind]
  cases p.run env with
  | error e => simp [Bind.bind, Except.bind]
  | ok a => simp [Bind.bind, Except.bind]

@[simp] theorem consulted_pure (a : α) : (pure a : Prog K V ε α).consulted env = [] := rfl

@[simp] theorem consulted_fail (e : ε) : (fail e : Prog K V ε α).consulted env = [] := rfl

@[simp] theorem consulted_lookup_bind (k : K) (f : V → Prog K V ε α) :
    (lookup k >>= f).consulted env = k :: (f (env k)).consulted env := rfl

theorem consulted_bind_of_error {p : Prog K V ε α} {f : α → Prog K V ε β} {e : ε}
    (h : p.run env = .error e) : (p >>= f).consulted env = p.consulted env := by
  change (p.bind f).consulted env = _
  induction p with
  | done r =>
    have hr : r = .error e := h
    subst hr
    rfl
  | ask k next ih => exact congrArg (k :: ·) (ih (env k) h)

/-- After `p` succeeds with `a`, a sequence has asked what `p` asked and what
`f a` asked. -/
theorem consulted_bind_of_ok {p : Prog K V ε α} {f : α → Prog K V ε β} {a : α}
    (h : p.run env = .ok a) :
    (p >>= f).consulted env = p.consulted env ++ (f a).consulted env := by
  change (p.bind f).consulted env = _
  induction p with
  | done r =>
    have hr : r = .ok a := h
    subst hr
    rfl
  | ask k next ih => exact congrArg (k :: ·) (ih (env k) h)

/-- A sequence asks what its first part asks and, when that succeeds, what its
second part asks. -/
theorem mem_consulted_bind {p : Prog K V ε α} {f : α → Prog K V ε β} {k : K} :
    k ∈ (p >>= f).consulted env ↔
      k ∈ p.consulted env ∨ ∃ a, p.run env = .ok a ∧ k ∈ (f a).consulted env := by
  cases hp : p.run env with
  | error e => simp [consulted_bind_of_error env hp]
  | ok a => simp [consulted_bind_of_ok env hp]

/-- Every key asked on the run over `env` satisfies `P`. -/
def Asks (P : K → Prop) (p : Prog K V ε α) : Prop := ∀ k ∈ p.consulted env, P k

theorem asks_pure {P : K → Prop} (a : α) : Asks env P (pure a : Prog K V ε α) := by
  simp [Asks]

theorem asks_bind {P : K → Prop} {p : Prog K V ε α} {f : α → Prog K V ε β}
    (hp : Asks env P p) (hf : ∀ a, p.run env = .ok a → Asks env P (f a)) :
    Asks env P (p >>= f) := by
  intro k hk
  rcases (mem_consulted_bind env).mp hk with hk | ⟨a, ha, hk⟩
  · exact hp k hk
  · exact hf a ha k hk

end Run

section Agreement

variable {env env' : K → V}

/-- A program ends alike on two stores that agree on what it asked. -/
theorem run_eq_of_agree {p : Prog K V ε α} (h : ∀ k ∈ p.consulted env, env k = env' k) :
    p.run env = p.run env' := by
  induction p with
  | done r => rfl
  | ask k next ih =>
    have hk : env k = env' k := h k (by simp [consulted])
    have hrest : ∀ j ∈ (next (env k)).consulted env, env j = env' j := fun j hj =>
      h j (by simp [consulted, hj])
    simpa only [run, ← hk] using ih (env k) hrest

theorem consulted_mem_of_asksIn {S : K → Prop} {p : Prog K V ε α} (h : p.AsksIn S) :
    ∀ k ∈ p.consulted env, S k := by
  induction p with
  | done r => simp [consulted]
  | ask k next ih =>
    intro j hj
    rcases List.mem_cons.mp hj with rfl | hj
    · exact h.1
    · exact ih (env k) (h.2 _) j hj

/-- A program that asks only in `S` does not see stores differ outside `S`. -/
theorem run_eq_of_asksIn {S : K → Prop} {p : Prog K V ε α} (hp : p.AsksIn S)
    (h : ∀ k, S k → env k = env' k) : p.run env = p.run env' :=
  run_eq_of_agree fun k hk => h k (consulted_mem_of_asksIn hp k hk)

theorem asksIn_bind {S : K → Prop} {p : Prog K V ε α} {f : α → Prog K V ε β}
    (hp : p.AsksIn S) (hf : ∀ a, (f a).AsksIn S) : (p >>= f).AsksIn S := by
  change (p.bind f).AsksIn S
  induction p with
  | done r =>
    cases r with
    | error e => trivial
    | ok a => exact hf a
  | ask k next ih => exact ⟨hp.1, fun v => ih v (hp.2 v)⟩

end Agreement

end Prog

/-- Two outcomes agree when both are errors, or both are the same value. -/
def Agree {ε α : Type} (r r' : Except ε α) : Prop :=
  (∃ a, r = .ok a ∧ r' = .ok a) ∨ ((∃ e, r = .error e) ∧ ∃ e, r' = .error e)

theorem Agree.refl {ε α : Type} (r : Except ε α) : Agree r r := by
  cases r with
  | error e => exact .inr ⟨⟨e, rfl⟩, e, rfl⟩
  | ok a => exact .inl ⟨a, rfl, rfl⟩

/-- Outcomes agree when they are the same values. -/
theorem agree_iff {ε α : Type} {r r' : Except ε α} :
    Agree r r' ↔ ∀ a, r = .ok a ↔ r' = .ok a := by
  constructor
  · rintro (⟨b, rfl, rfl⟩ | ⟨⟨e, rfl⟩, e', rfl⟩) a
    · exact Iff.rfl
    · exact iff_of_false nofun nofun
  · intro h
    cases r with
    | ok a => exact .inl ⟨a, rfl, (h a).mp rfl⟩
    | error e =>
      cases r' with
      | ok a => exact absurd ((h a).mpr rfl) nofun
      | error e' => exact .inr ⟨⟨e, rfl⟩, e', rfl⟩

/-- A program that asks only in `S` ends in agreement on stores that are the
same in `S`. -/
theorem Agree.of_asksIn {K V ε α : Type} {env env' : K → V} {S : K → Prop}
    {p : Prog K V ε α} (hp : p.AsksIn S) (h : ∀ k, S k → env k = env' k) :
    Agree (p.run env) (p.run env') := by
  rw [Prog.run_eq_of_asksIn hp h]
  exact .refl _

/-- Sequences agree when their first parts do and, on every value, their
second parts do. -/
theorem Agree.bind {K V ε α β : Type} {env env' : K → V} {p p' : Prog K V ε α}
    {f f' : α → Prog K V ε β} (h : Agree (p.run env) (p'.run env'))
    (hf : ∀ a, Agree ((f a).run env) ((f' a).run env')) :
    Agree ((p >>= f).run env) ((p' >>= f').run env') := by
  simp only [Prog.run_bind]
  rcases h with ⟨a, ha, ha'⟩ | ⟨⟨e, he⟩, e', he'⟩
  · rw [ha, ha']
    exact hf a
  · rw [he, he']
    exact .inr ⟨⟨e, rfl⟩, e', rfl⟩

end Query
