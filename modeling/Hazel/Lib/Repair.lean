import Hazel.Lib.Snapshot

/-!
# Mending a store until a program ends well

A program that fails only on the answer to its last question, and that has a good
answer to each question, can be helped to its end: whoever changes the key that was
asked last, to anything that the program gets past, is never stuck, and is done after
as many changes as there are keys.

## Main definitions

- `Mendable p`: `p` fails only right after a question, and has an answer to go on with
- `Repair p store store'`: the key on which `p` fails has been changed in `store'`
- `Repairs p n store store'`: `n` repairs, one after the other
-/

namespace Query.Prog

variable {K V ε α β : Type}

def Mendable : Prog K V ε α → Prop
  | done r => ∃ a, r = .ok a
  | ask _ next => (∃ v, (next v).Mendable) ∧
      ∀ v, (∃ e, next v = done (.error e)) ∨ (next v).Mendable

/-- The run over `store` fails on the answer for `k`. -/
def FailsAt (p : Prog K V ε α) (store : K → V) (k : K) : Prop :=
  (∃ e, p.run store = .error e) ∧ (p.consulted store).getLast? = some k

/-- The key on which `p` fails is changed, and `p` gets past it. -/
def Repair (p : Prog K V ε α) (store store' : K → V) : Prop :=
  ∃ k, p.FailsAt store k ∧ ¬ p.FailsAt store' k ∧ ∀ j, j ≠ k → store' j = store j

inductive Repairs (p : Prog K V ε α) : Nat → (K → V) → (K → V) → Prop where
  | refl (store : K → V) : Repairs p 0 store store
  | step {n : Nat} {store store' store'' : K → V} (h : Repairs p n store store')
      (hrepair : p.Repair store' store'') : Repairs p (n + 1) store store''

section Mendable

variable {p : Prog K V ε α} {f : α → Prog K V ε β} {store : K → V}

theorem mendable_pure (a : α) : (pure a : Prog K V ε α).Mendable := ⟨a, rfl⟩

theorem Mendable.bind (hp : p.Mendable) (hf : ∀ a, (f a).Mendable) : (p >>= f).Mendable := by
  change (p.bind f).Mendable
  induction p with
  | done r =>
    obtain ⟨a, ha⟩ := hp
    subst ha
    exact hf a
  | ask k next ih =>
    obtain ⟨⟨v, hv⟩, hnext⟩ := hp
    refine ⟨⟨v, ih v hv⟩, fun u => ?_⟩
    rcases hnext u with ⟨e, he⟩ | hu
    · exact .inl ⟨e, congrArg (·.bind f) he⟩
    · exact .inr (ih u hu)

/-- A failure comes after a question. -/
theorem Mendable.exists_failsAt (hp : p.Mendable) {e : ε} (h : p.run store = .error e) :
    ∃ k, p.FailsAt store k := by
  cases p with
  | done r =>
    obtain ⟨a, ha⟩ := hp
    subst ha
    contradiction
  | ask k next =>
    have hne : (ask k next).consulted store ≠ [] := List.cons_ne_nil k _
    exact ⟨_, ⟨e, h⟩, List.getLast?_eq_some_getLast hne⟩

/-- The first question of a failing run is the one it fails on, or a later one is. -/
theorem failsAt_ask {k j : K} {next : V → Prog K V ε α} :
    (ask j next).FailsAt store k ↔
      (k = j ∧ ∃ e, next (store j) = done (.error e)) ∨ (next (store j)).FailsAt store k := by
  have hrun : (ask j next).run store = (next (store j)).run store := rfl
  have hconsulted : (ask j next).consulted store = j :: (next (store j)).consulted store := rfl
  unfold FailsAt
  rw [hrun, hconsulted]
  cases hnext : next (store j) with
  | done r =>
    cases r with
    | error e => simp [run, consulted, eq_comm]
    | ok a => simp [run, consulted]
  | ask i next' => simp [consulted, List.getLast?_cons_cons]

/-- Of the keys along which a program asks, it fails on one. -/
theorem AsksAlong.mem_of_failsAt {keys : List K} (h : AsksAlong keys p) {k : K}
    (hfails : p.FailsAt store k) : k ∈ keys :=
  (h.consulted_sublist store).subset (List.mem_of_getLast? hfails.2)

end Mendable

section Repair

variable {p : Prog K V ε α} {keys : List K} (hp : p.Mendable) (h : AsksAlong keys p)
  (hkeys : keys.Nodup) {store store' : K → V}

include h hkeys in
/-- What was asked before a repair is asked again after it. -/
theorem AsksAlong.consulted_prefix {k : K} (hfails : p.FailsAt store k)
    (hagree : ∀ j, j ≠ k → store' j = store j) :
    p.consulted store <+: p.consulted store' := by
  induction p generalizing keys with
  | done r => exact List.nil_prefix
  | ask j next ih =>
    obtain ⟨rest, hrest, hnext⟩ := h
    have hnodup : (j :: rest).Nodup := hkeys.sublist hrest.sublist
    obtain ⟨hj, hrestNodup⟩ := List.nodup_cons.mp hnodup
    rcases failsAt_ask.mp hfails with ⟨-, e, he⟩ | hlater
    · have hconsulted : (ask j next).consulted store = [j] := by rw [consulted, he]; rfl
      rw [hconsulted]
      exact List.prefix_append [j] _
    · have hne : j ≠ k := fun heq => hj (heq ▸ (hnext _).mem_of_failsAt hlater)
      show j :: _ <+: j :: (next (store' j)).consulted store'
      rw [hagree j hne]
      exact (List.prefix_cons_inj j).mpr (ih (store j) (hnext _) hrestNodup hlater)

include hp h hkeys

/-- A run that fails can be repaired. -/
theorem Mendable.exists_repair {e : ε} (hrun : p.run store = .error e) :
    ∃ store', p.Repair store store' := by
  classical
  obtain ⟨k, hfails⟩ := hp.exists_failsAt hrun
  suffices hmend : ∃ v, ¬ p.FailsAt (Function.update store k v) k by
    obtain ⟨v, hv⟩ := hmend
    exact ⟨Function.update store k v, k, hfails, hv, fun j hj => Function.update_of_ne hj v store⟩
  induction p generalizing keys with
  | done r =>
    obtain ⟨a, ha⟩ := hp
    subst ha
    contradiction
  | ask j next ih =>
    obtain ⟨rest, hrest, hnext⟩ := h
    obtain ⟨⟨v, hv⟩, hmend⟩ := hp
    have hnodup : (j :: rest).Nodup := hkeys.sublist hrest.sublist
    obtain ⟨hj, hrestNodup⟩ := List.nodup_cons.mp hnodup
    rcases failsAt_ask.mp hfails with ⟨heq, -⟩ | hlater
    -- `k` is asked first: the good answer for it leads on to other keys
    · subst heq
      refine ⟨v, fun hagain => ?_⟩
      rcases failsAt_ask.mp hagain with ⟨-, e', he'⟩ | hlater
      · rw [Function.update_self] at he'
        rw [he'] at hv
        obtain ⟨a, ha⟩ := hv
        contradiction
      · exact hj ((hnext _).mem_of_failsAt hlater)
    · have hne : j ≠ k := fun heq => hj (heq ▸ (hnext _).mem_of_failsAt hlater)
      have hnextMendable : (next (store j)).Mendable := by
        rcases hmend (store j) with ⟨e', he'⟩ | hok
        · rw [he'] at hlater
          exact absurd hlater.2 nofun
        · exact hok
      obtain ⟨u, hu⟩ := ih (store j) hnextMendable (hnext _) hrestNodup hrun hlater
      refine ⟨u, fun hagain => hu ?_⟩
      rcases failsAt_ask.mp hagain with ⟨heq, -⟩ | hagain
      · exact absurd heq.symm hne
      · rwa [Function.update_of_ne hne] at hagain

/-- After `n` repairs, `n` keys have been asked, and one more when the run still fails. -/
theorem Repairs.le_consulted {n : Nat} (hrepairs : Repairs p n store store') :
    n ≤ (p.consulted store').length ∧
      ∀ e, p.run store' = .error e → n + 1 ≤ (p.consulted store').length := by
  induction hrepairs with
  | refl =>
    refine ⟨Nat.zero_le _, fun e he => ?_⟩
    obtain ⟨k, hk⟩ := hp.exists_failsAt he
    exact List.length_pos_of_mem (List.mem_of_getLast? hk.2)
  | step hsteps hrepair ih =>
    obtain ⟨k, hfails, hpast, hagree⟩ := hrepair
    obtain ⟨e, he⟩ := hfails.1
    have hle := ih.2 e he
    have hprefix := h.consulted_prefix hkeys hfails hagree
    refine ⟨Nat.le_trans hle hprefix.length_le, fun e' he' => ?_⟩
    -- if no further key had been asked, the run would still fail on `k`
    by_contra hlt
    have hlength := hprefix.length_le
    have heq := hprefix.eq_of_length (by omega)
    exact hpast ⟨⟨e', he'⟩, heq ▸ hfails.2⟩

/-- Repairs that have been begun, in whatever way, can go on until the run ends well. -/
theorem Repairs.finish {n : Nat} {now : K → V} (hrepairs : Repairs p n store now) :
    ∃ m last a, Repairs p (n + m) store last ∧ p.run last = .ok a := by
  cases hrun : p.run now with
  | ok a => exact ⟨0, now, a, hrepairs, hrun⟩
  | error e =>
    obtain ⟨next, hnext⟩ := hp.exists_repair h hkeys hrun
    have hle := (hrepairs.le_consulted hp h hkeys).2 e hrun
    have hkeysLe := (h.consulted_sublist now).length_le
    obtain ⟨m, last, a, hlast, ha⟩ := Repairs.finish (hrepairs.step hnext)
    exact ⟨1 + m, last, a, by rwa [← Nat.add_assoc], ha⟩
termination_by keys.length - n

end Repair

end Query.Prog
