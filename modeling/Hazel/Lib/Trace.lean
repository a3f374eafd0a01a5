import Mathlib.Tactic.Common
import Mathlib.Data.List.Infix

/-!
# Computations that leave a trace

A computation does things in some order, which stay done, and goes on with a
value or stops for a reason of type `X`. What it follows is a plan: it does the
plan from the start, and the whole of it unless it stops.

## Main definitions

- `Traced E X α`: the events, and how the computation ends
- `Follows plan p`: `p` does what is planned, in that order, until it stops
-/

namespace Traces

/-- A computation with events of type `E`. -/
structure Traced (E X α : Type) where
  events : List E
  outcome : Except X α

namespace Traced

variable {E X α β : Type}

instance : Monad (Traced E X) where
  pure a := ⟨[], .ok a⟩
  bind p f :=
    match p.outcome with
    | .ok a => ⟨p.events ++ (f a).events, (f a).outcome⟩
    | .error x => ⟨p.events, .error x⟩

/-- Something is done. -/
def perform (e : E) : Traced E X Unit := ⟨[e], .ok ()⟩

/-- A result from outside, which may be the end. -/
def lift (r : Except X α) : Traced E X α := ⟨[], r⟩

def stop (x : X) : Traced E X α := ⟨[], .error x⟩

section Run

variable {p : Traced E X α} {f : α → Traced E X β}

theorem bind_of_ok {a : α} (h : p.outcome = .ok a) :
    p >>= f = ⟨p.events ++ (f a).events, (f a).outcome⟩ := by
  show (match p.outcome with
    | .ok a => (⟨p.events ++ (f a).events, (f a).outcome⟩ : Traced E X β)
    | .error x => ⟨p.events, .error x⟩) = _
  rw [h]

theorem bind_of_error {x : X} (h : p.outcome = .error x) :
    p >>= f = ⟨p.events, .error x⟩ := by
  show (match p.outcome with
    | .ok a => (⟨p.events ++ (f a).events, (f a).outcome⟩ : Traced E X β)
    | .error x => ⟨p.events, .error x⟩) = _
  rw [h]

@[simp] theorem perform_bind (e : E) (f : Unit → Traced E X β) :
    perform e >>= f = ⟨e :: (f ()).events, (f ()).outcome⟩ := rfl

/-- What happens after a result from outside happens only where there is one. -/
theorem mem_lift_bind {r : Except X α} {e : E} :
    e ∈ (lift r >>= f).events ↔ ∃ a, r = .ok a ∧ e ∈ (f a).events := by
  cases r with
  | ok a =>
    show e ∈ (f a).events ↔ _
    simp
  | error x =>
    show e ∈ [] ↔ _
    simp

theorem mem_perform_bind {e e' : E} {f : Unit → Traced E X β} :
    e ∈ (perform e' >>= f).events ↔ e = e' ∨ e ∈ (f ()).events := by
  rw [perform_bind, List.mem_cons]

end Run

section Follows

variable {plan rest : List E}

/-- Either all of the plan is done, or the computation stops within it. -/
def Follows (plan : List E) (p : Traced E X α) : Prop :=
  p.events <+: plan ∧ ∀ a, p.outcome = .ok a → p.events = plan

theorem follows_lift (r : Except X α) : Follows [] (lift r : Traced E X α) :=
  ⟨List.nil_prefix, fun _ _ => rfl⟩

theorem follows_perform (e : E) : Follows [e] (perform e : Traced E X Unit) :=
  ⟨List.prefix_refl [e], fun _ _ => rfl⟩

/-- One plan after the other. -/
theorem Follows.bind {p : Traced E X α} {f : α → Traced E X β} (hp : Follows plan p)
    (hf : ∀ a, p.outcome = .ok a → Follows rest (f a)) : Follows (plan ++ rest) (p >>= f) := by
  cases hout : p.outcome with
  | error x =>
    rw [bind_of_error hout]
    exact ⟨hp.1.trans (List.prefix_append plan rest), fun _ h => by cases h⟩
  | ok a =>
    have hrest := hf a hout
    rw [bind_of_ok hout, hp.2 a hout]
    refine ⟨(List.prefix_append_right_inj plan).mpr hrest.1, fun b hb => ?_⟩
    show plan ++ (f a).events = plan ++ rest
    rw [hrest.2 b hb]

theorem Follows.lift_bind {r : Except X α} {f : α → Traced E X β}
    (hf : ∀ a, r = .ok a → Follows plan (f a)) : Follows plan (lift r >>= f) :=
  (follows_lift r).bind hf

theorem Follows.perform_bind {f : Unit → Traced E X β} (hf : Follows plan (f ())) (e : E) :
    Follows (e :: plan) (perform e >>= f) :=
  (follows_perform e).bind fun _ _ => hf

/-- Where a plan has one event of a kind, whatever comes before that event is
what is planned before it. -/
theorem Follows.before_eq {p : Traced E X α} {kind : E → Prop} {before after first last : List E}
    {e planned : E} (h : Follows (first ++ planned :: last) p)
    (hevents : p.events = before ++ e :: after) (hkind : kind e) (hfirst : ∀ d ∈ first, ¬ kind d)
    (hlast : ∀ d ∈ last, ¬ kind d) : before = first ∧ e = planned ∧ after <+: last := by
  obtain ⟨missing, hplan⟩ := h.1
  rw [hevents, List.append_assoc, List.cons_append] at hplan
  clear h hevents
  induction before generalizing first with
  | nil =>
    cases first with
    | nil =>
      obtain ⟨rfl, hrest⟩ := List.cons.inj hplan
      exact ⟨rfl, rfl, missing, hrest⟩
    | cons d first =>
      obtain ⟨rfl, -⟩ := List.cons.inj hplan
      exact absurd hkind (hfirst e List.mem_cons_self)
  | cons d before ih =>
    cases first with
    | nil =>
      obtain ⟨rfl, hrest⟩ := List.cons.inj hplan
      have hmem : e ∈ last := by
        rw [← hrest]
        exact List.mem_append_right before List.mem_cons_self
      exact absurd hkind (hlast e hmem)
    | cons d' first =>
      obtain ⟨rfl, hrest⟩ := List.cons.inj hplan
      obtain ⟨rfl, heq, hafter⟩ := ih (fun c hc => hfirst c (List.mem_cons_of_mem d hc)) hrest
      exact ⟨rfl, heq, hafter⟩

end Follows

end Traced

end Traces
