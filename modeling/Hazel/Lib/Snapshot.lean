import Hazel.Lib.Query
import Mathlib.Logic.Function.Basic

/-!
# Programs over a store that changes while they run

`runDuring` answers each question from the store as it is at that instant, and
`ending` is the instant after the last one. A program that asks its keys along a
list without duplicates cannot tell a changing store from one that stands still:
there is a snapshot, made of the values of some instants of the run, over which
it ends alike.

## Main definitions

- `runDuring world n p`: `p` starts at instant `n` of the history `world`
- `AsksAlong keys p`: on every run, `p` asks its keys in the order of `keys`,
  none of them twice
- `embed`: every question becomes a look at a whole world
-/

namespace Query.Prog

variable {K V W ε α β : Type}

def runDuring (world : Nat → K → V) : Nat → Prog K V ε α → Except ε α
  | _, done r => r
  | n, ask k next => runDuring world (n + 1) (next (world n k))

def ending (world : Nat → K → V) : Nat → Prog K V ε α → Nat
  | n, done _ => n
  | n, ask k next => ending world (n + 1) (next (world n k))

section During

variable (world : Nat → K → V) (n : Nat)

@[simp] theorem runDuring_pure (a : α) :
    (pure a : Prog K V ε α).runDuring world n = .ok a := rfl

@[simp] theorem ending_pure (a : α) : (pure a : Prog K V ε α).ending world n = n := rfl

theorem le_ending (p : Prog K V ε α) : n ≤ p.ending world n := by
  induction p generalizing n with
  | done r => exact Nat.le_refl n
  | ask k next ih =>
    have hrest := ih (world n k) (n + 1)
    show n ≤ (next (world n k)).ending world (n + 1)
    omega

end During

section Along

theorem AsksIn.mono {S T : K → Prop} {p : Prog K V ε α} (h : p.AsksIn S)
    (hST : ∀ k, S k → T k) : p.AsksIn T := by
  induction p with
  | done r => trivial
  | ask k next ih => exact ⟨hST k h.1, fun v => ih v (h.2 v)⟩

/-- On every run, the keys asked are among `keys`, in that order. -/
def AsksAlong : List K → Prog K V ε α → Prop
  | _, done _ => True
  | keys, ask k next => ∃ rest, k :: rest <:+ keys ∧ ∀ v, AsksAlong rest (next v)

variable {p : Prog K V ε α} {f : α → Prog K V ε β} {keys keys' : List K}

theorem AsksAlong.of_suffix (h : AsksAlong keys p) (hkeys : keys <:+ keys') :
    AsksAlong keys' p := by
  cases p with
  | done r => trivial
  | ask k next =>
    obtain ⟨rest, hrest, hnext⟩ := h
    exact ⟨rest, hrest.trans hkeys, hnext⟩

theorem AsksAlong.bind (hp : AsksAlong keys p) (hf : ∀ a, AsksAlong keys' (f a)) :
    AsksAlong (keys ++ keys') (p >>= f) := by
  change AsksAlong (keys ++ keys') (p.bind f)
  induction p generalizing keys with
  | done r =>
    cases r with
    | error e => trivial
    | ok a => exact (hf a).of_suffix (List.suffix_append keys keys')
  | ask k next ih =>
    obtain ⟨rest, ⟨before, hbefore⟩, hnext⟩ := hp
    refine ⟨rest ++ keys', ⟨before, ?_⟩, fun v => ih v (hnext v)⟩
    rw [← hbefore]
    simp

/-- `p` asks one key, and what follows asks later ones. -/
theorem AsksAlong.cons_bind {k : K} (hp : AsksAlong [k] p) (hf : ∀ a, AsksAlong keys (f a)) :
    AsksAlong (k :: keys) (p >>= f) :=
  hp.bind hf

/-- What is made of the value of `p` asks nothing more. -/
theorem AsksAlong.map (h : AsksAlong keys p) (g : α → β) :
    AsksAlong keys (p >>= fun a => pure (g a)) := by
  have hbind : AsksAlong (keys ++ []) (p >>= fun a => pure (g a)) := h.bind fun _ => trivial
  rwa [List.append_nil] at hbind

/-- More keys at the end, which `p` does not ask. -/
theorem AsksAlong.of_prefix (h : AsksAlong keys p) (keys' : List K) :
    AsksAlong (keys ++ keys') p := by
  induction p generalizing keys with
  | done r => trivial
  | ask k next ih =>
    obtain ⟨rest, ⟨before, hbefore⟩, hnext⟩ := h
    refine ⟨rest ++ keys', ⟨before, ?_⟩, fun v => ih v (hnext v)⟩
    rw [← hbefore]
    simp

theorem AsksAlong.asksIn (h : AsksAlong keys p) : p.AsksIn (· ∈ keys) := by
  induction p generalizing keys with
  | done r => trivial
  | ask k next ih =>
    obtain ⟨rest, hrest, hnext⟩ := h
    have hmem : ∀ j ∈ k :: rest, j ∈ keys := fun j hj => hrest.subset hj
    exact ⟨hmem k List.mem_cons_self, fun v =>
      (ih v (hnext v)).mono fun j hj => hmem j (List.mem_cons_of_mem k hj)⟩

theorem AsksAlong.consulted_sublist (h : AsksAlong keys p) (store : K → V) :
    (p.consulted store).Sublist keys := by
  induction p generalizing keys with
  | done r => exact List.nil_sublist keys
  | ask k next ih =>
    obtain ⟨rest, hrest, hnext⟩ := h
    exact ((ih (store k) (hnext (store k))).cons_cons k).trans hrest.sublist

/-- Whatever happens to the store during the run, the run ends as it would over
one snapshot, which takes every key as it was at some instant of the run, or as
it was at instant `d`. -/
theorem AsksAlong.exists_snapshot (h : AsksAlong keys p) (hkeys : keys.Nodup)
    (world : Nat → K → V) (n d : Nat) :
    ∃ store : K → V,
      (∀ k, (∃ i, n ≤ i ∧ i < p.ending world n ∧ store k = world i k) ∨ store k = world d k) ∧
        p.runDuring world n = p.run store := by
  classical
  -- the key asked first is not asked again, so its value may be fixed afterwards
  induction p generalizing keys n with
  | done r => exact ⟨world d, fun k => .inr rfl, rfl⟩
  | ask k next ih =>
    obtain ⟨rest, hrest, hnext⟩ := h
    have hnodup : (k :: rest).Nodup := hkeys.sublist hrest.sublist
    obtain ⟨hk, hrestNodup⟩ := List.nodup_cons.mp hnodup
    obtain ⟨store, hstore, hrun⟩ := ih (world n k) (hnext _) hrestNodup (n + 1)
    refine ⟨Function.update store k (world n k), fun j => ?_, ?_⟩
    · by_cases hj : j = k
      · subst hj
        have hle : n + 1 ≤ (next (world n j)).ending world (n + 1) := le_ending ..
        exact .inl ⟨n, Nat.le_refl n, hle, Function.update_self ..⟩
      · rw [Function.update_of_ne hj]
        refine (hstore j).imp_left fun ⟨i, hn, hend, hi⟩ => ?_
        exact ⟨i, by omega, hend, hi⟩
    · have hagree : ∀ j, j ∈ rest → store j = Function.update store k (world n k) j := by
        intro j hj
        have hne : j ≠ k := fun heq => hk (heq ▸ hj)
        rw [Function.update_of_ne hne]
      show (next (world n k)).runDuring world (n + 1) =
        (next (Function.update store k (world n k) k)).run (Function.update store k (world n k))
      rw [Function.update_self, hrun]
      exact run_eq_of_asksIn (hnext (world n k)).asksIn hagree

end Along

section Embed

/-- Each question of `p` is a look at the world, of which `answer` says what it
answers. The outcome of `p` becomes a value. -/
def embed {ε' : Type} (answer : W → K → V) : Prog K V ε α → Prog Unit W ε' (Except ε α)
  | done r => done (.ok r)
  | ask k next => ask () fun w => embed answer (next (answer w k))

variable {ε' : Type} (answer : W → K → V) (p : Prog K V ε α)

theorem run_embed (w : W) :
    (p.embed answer : Prog Unit W ε' _).run (fun _ => w) = .ok (p.run (answer w)) := by
  induction p with
  | done r => rfl
  | ask k next ih => exact ih (answer w k)

theorem runDuring_embed (world : Nat → W) (n : Nat) :
    (p.embed answer : Prog Unit W ε' _).runDuring (fun i _ => world i) n =
      .ok (p.runDuring (fun i => answer (world i)) n) := by
  induction p generalizing n with
  | done r => rfl
  | ask k next ih => exact ih (answer (world n) k) (n + 1)

theorem ending_embed (world : Nat → W) (n : Nat) :
    (p.embed answer : Prog Unit W ε' _).ending (fun i _ => world i) n =
      p.ending (fun i => answer (world i)) n := by
  induction p generalizing n with
  | done r => rfl
  | ask k next ih => exact ih (answer (world n) k) (n + 1)

end Embed

end Query.Prog
