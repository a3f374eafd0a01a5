import Mathlib.Tactic.Common

/-!
# Readers

A reader takes a value off the front of a list of tokens and leaves the rest,
or fails. A token ends a reader when the reader makes the same of some tokens
whether they end or go on with that token. What comes after such a token then
makes no difference to what is read before it.

## Main definitions

- `complete p`: the value of `p` where it leaves nothing
- `EndedBy w p`: the token `w` ends the reader `p`
-/

namespace Readers

def Reader (τ α : Type) : Type := List τ → Option (α × List τ)

namespace Reader

variable {τ α β : Type}

instance : Monad (Reader τ) where
  pure a := fun ts => some (a, ts)
  bind p f := fun ts => (p ts).bind fun r => f r.1 r.2

def fail : Reader τ α := fun _ => none

/-- The value of `o`, with nothing taken. -/
def ofOption (o : Option α) : Reader τ α := fun ts => o.map fun a => (a, ts)

/-- `p`, or `q` on the same tokens where `p` fails. -/
def orElse (p q : Reader τ α) : Reader τ α := fun ts => (p ts).or (q ts)

/-- `p`, or no value and nothing taken where `p` fails. -/
def optional (p : Reader τ α) : Reader τ (Option α) := fun ts =>
  match p ts with
  | some (a, rest) => some (some a, rest)
  | none => some (none, ts)

def token [DecidableEq τ] (t : τ) : Reader τ Unit
  | [] => none
  | first :: rest => if first = t then some ((), rest) else none

/-- The values of the longest run of tokens that have one. -/
def values (f : τ → Option α) : List τ → List α × List τ
  | [] => ([], [])
  | t :: ts =>
    match f t with
    | some a => (a :: (values f ts).1, (values f ts).2)
    | none => ([], t :: ts)

def many (f : τ → Option α) : Reader τ (List α) := fun ts => some (values f ts)

/-- The value of `p` where it leaves nothing of the tokens. -/
def complete (p : Reader τ α) (ts : List τ) : Option α :=
  match p ts with
  | some (a, []) => some a
  | _ => none

/-- What `p` leaves is an end of its tokens, and it makes the same of them
whether they end or go on with `w`. -/
structure EndedBy (w : τ) (p : Reader τ α) : Prop where
  leaves : ∀ ts a rest, p ts = some (a, rest) → rest <:+ ts
  stops : ∀ ts us, p (ts ++ w :: us) = (p ts).map fun r => (r.1, r.2 ++ w :: us)

section Run

variable {p : Reader τ α} {ts rest : List τ} {a : α}

theorem bind_eq_some {f : α → Reader τ β} {b : β} :
    (p >>= f) ts = some (b, rest) ↔
      ∃ a left, p ts = some (a, left) ∧ f a left = some (b, rest) := by
  change ((p ts).bind fun r => f r.1 r.2) = _ ↔ _
  rw [Option.bind_eq_some_iff]
  constructor
  · rintro ⟨⟨a, left⟩, hp, hf⟩
    exact ⟨a, left, hp, hf⟩
  · rintro ⟨a, left, hp, hf⟩
    exact ⟨(a, left), hp, hf⟩

theorem pure_eq_some {b : α} : (pure b : Reader τ α) ts = some (a, rest) ↔ b = a ∧ ts = rest := by
  change some (b, ts) = some (a, rest) ↔ _
  rw [Option.some.injEq, Prod.mk.injEq]

theorem ofOption_eq_some {o : Option α} :
    (ofOption o : Reader τ α) ts = some (a, rest) ↔ o = some a ∧ ts = rest := by
  cases o <;> simp [ofOption]

theorem orElse_eq_some {q : Reader τ α} :
    orElse p q ts = some (a, rest) ↔
      p ts = some (a, rest) ∨ p ts = none ∧ q ts = some (a, rest) := by
  unfold orElse
  cases p ts <;> simp

theorem optional_eq_some {o : Option α} :
    optional p ts = some (o, rest) ↔
      (∃ a, o = some a ∧ p ts = some (a, rest)) ∨ o = none ∧ p ts = none ∧ rest = ts := by
  unfold optional
  cases p ts with
  | none => simp [eq_comm]
  | some r =>
    obtain ⟨a, left⟩ := r
    simp only [Option.some.injEq, Prod.mk.injEq, reduceCtorEq, false_and, and_false, or_false]
    constructor
    · rintro ⟨rfl, rfl⟩
      exact ⟨a, rfl, rfl, rfl⟩
    · rintro ⟨_, rfl, rfl, rfl⟩
      exact ⟨rfl, rfl⟩

theorem token_eq_some [DecidableEq τ] {t : τ} {u : Unit} :
    token t ts = some (u, rest) ↔ ts = t :: rest := by
  cases ts with
  | nil => simp [token]
  | cons first ts =>
    by_cases h : first = t
    · simp [token, h]
    · simp [token, h]

theorem complete_eq_some : complete p ts = some a ↔ p ts = some (a, []) := by
  unfold complete
  cases h : p ts with
  | none => simp
  | some r =>
    obtain ⟨b, left⟩ := r
    cases left <;> simp

/-- Tokens that all have a value are all read. -/
theorem many_of_forall {f : τ → Option α} {g : τ → α} (h : ∀ t ∈ ts, f t = some (g t)) :
    many f ts = some (ts.map g, []) := by
  refine congrArg some ?_
  induction ts with
  | nil => rfl
  | cons t ts ih =>
    have ht : f t = some (g t) := h t List.mem_cons_self
    have hts := ih fun u hu => h u (List.mem_cons_of_mem t hu)
    simp only [values, ht, hts, List.map_cons]

end Run

namespace EndedBy

variable {w : τ} {p : Reader τ α}

theorem pure (a : α) : EndedBy w (pure a : Reader τ α) where
  leaves ts b rest h := by
    obtain ⟨-, rfl⟩ := pure_eq_some.mp h
    exact List.suffix_rfl
  stops _ _ := rfl

theorem fail : EndedBy w (fail : Reader τ α) where
  leaves _ _ _ h := nomatch h
  stops _ _ := rfl

theorem ofOption (o : Option α) : EndedBy w (ofOption o : Reader τ α) where
  leaves ts a rest h := by
    obtain ⟨-, rfl⟩ := ofOption_eq_some.mp h
    exact List.suffix_rfl
  stops _ _ := by cases o <;> rfl

theorem bind {f : α → Reader τ β} (hp : EndedBy w p) (hf : ∀ a, EndedBy w (f a)) :
    EndedBy w (p >>= f) where
  leaves ts b rest h := by
    obtain ⟨a, left, hpa, hfa⟩ := bind_eq_some.mp h
    have hleft : left <:+ ts := hp.leaves ts a left hpa
    exact ((hf a).leaves left b rest hfa).trans hleft
  stops ts us := by
    change (p (ts ++ w :: us)).bind _ = ((p ts).bind _).map _
    rw [hp.stops]
    cases p ts with
    | none => rfl
    | some r => exact (hf r.1).stops r.2 us

theorem optional (hp : EndedBy w p) : EndedBy w (optional p) where
  leaves ts a rest h := by
    unfold Reader.optional at h
    cases hpts : p ts with
    | none =>
      rw [hpts, Option.some.injEq, Prod.mk.injEq] at h
      exact h.2 ▸ List.suffix_rfl
    | some r =>
      rw [hpts, Option.some.injEq, Prod.mk.injEq] at h
      exact h.2 ▸ hp.leaves ts r.1 r.2 hpts
  stops ts us := by
    unfold Reader.optional
    rw [hp.stops]
    cases p ts <;> rfl

theorem token [DecidableEq τ] {t : τ} (h : w ≠ t) : EndedBy w (token t) where
  leaves ts a rest hts := by
    rw [token_eq_some.mp hts]
    exact List.suffix_cons t rest
  stops ts us := by
    cases ts with
    | nil => simp [Reader.token, h]
    | cons first ts =>
      by_cases hfirst : first = t
      · simp [Reader.token, hfirst]
      · simp [Reader.token, hfirst]

theorem many {f : τ → Option α} (h : f w = none) : EndedBy w (many f) where
  leaves ts a rest hts := by
    have hrest : rest = (values f ts).2 := congrArg Prod.snd (Option.some.inj hts).symm
    rw [hrest]
    clear hts hrest
    induction ts with
    | nil => exact List.suffix_rfl
    | cons t ts ih =>
      unfold values
      cases f t with
      | none => exact List.suffix_rfl
      | some a => exact ih.trans (List.suffix_cons t ts)
  stops ts us := by
    refine congrArg some ?_
    induction ts with
    | nil => simp [values, h]
    | cons t ts ih =>
      rw [List.cons_append]
      unfold values
      cases f t with
      | none => rfl
      | some a => rw [ih]

variable (h : EndedBy w p) {ts us : List τ} {a : α}
include h

/-- To read up to `w` is to read all of what comes before it. -/
theorem eq_some_iff :
    p ts = some (a, w :: us) ↔ ∃ pre, ts = pre ++ w :: us ∧ p pre = some (a, []) := by
  constructor
  · intro hts
    obtain ⟨pre, rfl⟩ := h.leaves ts a (w :: us) hts
    refine ⟨pre, rfl, ?_⟩
    rw [h.stops, Option.map_eq_some_iff] at hts
    obtain ⟨⟨b, rest⟩, hpre, heq⟩ := hts
    obtain ⟨rfl, hrest⟩ := Prod.mk.inj heq
    have hempty : rest = [] := List.append_left_eq_self.mp hrest
    rw [hpre, hempty]
  · rintro ⟨pre, rfl, hpre⟩
    rw [h.stops, hpre]
    rfl

/-- What is read completely has no `w` in it. -/
theorem notMem_of_complete (hts : p ts = some (a, [])) : w ∉ ts := by
  intro hmem
  obtain ⟨pre, post, rfl⟩ := List.append_of_mem hmem
  rw [h.stops, Option.map_eq_some_iff] at hts
  obtain ⟨r, -, heq⟩ := hts
  have hnil : r.2 ++ w :: post = [] := congrArg Prod.snd heq
  exact absurd hnil (List.append_ne_nil_of_right_ne_nil _ (List.cons_ne_nil w post))

end EndedBy

end Reader

/-- A list is split at the last place of a token in one way. -/
theorem append_cons_inj {τ : Type} {w : τ} {pre post pre' post' : List τ} (hpost : w ∉ post)
    (hpost' : w ∉ post') (h : pre ++ w :: post = pre' ++ w :: post') :
    pre = pre' ∧ post = post' := by
  rcases List.append_eq_append_iff.mp h with ⟨mid, rfl, hmid⟩ | ⟨mid, rfl, hmid⟩
  · cases mid with
    | nil => exact ⟨(List.append_nil pre).symm, (List.cons.inj hmid).2⟩
    | cons t mid =>
      obtain ⟨rfl, rfl⟩ := List.cons.inj hmid
      exact absurd List.mem_append_cons_self hpost
  · cases mid with
    | nil => exact ⟨List.append_nil pre', (List.cons.inj hmid).2.symm⟩
    | cons t mid =>
      obtain ⟨rfl, rfl⟩ := List.cons.inj hmid
      exact absurd List.mem_append_cons_self hpost'

end Readers
