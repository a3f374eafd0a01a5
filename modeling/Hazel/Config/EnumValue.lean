import Hazel.Config.Util

/-!
# Variables that select among a few names

`impl_enum_based_env_value!` reads a variable, lower-cases it and goes on with
the arm it names. An unset variable reads as the empty string.
-/

namespace Hazel

open Query

variable {α : Type}

/-- What the macro does with the variable's value. -/
def enumBasedEnvValue (env : String) (error : String → String)
    (fields : String → Option (EnvM α)) : Except TryParseError String → EnvM α
  | .ok input =>
    match fields (toAsciiLowercase input) with
    | some value => value
    | none => Prog.fail (.message (error input))
  | .error (.system (.notUnicode _)) =>
    Prog.fail (.message ("environment variable `$" ++ env ++
      "` couldn't be loaded due to invalid unicode data"))
  | .error e => Prog.fail (.env e)

/-- `impl_enum_based_env_value!`: `fields` are the macro's arms, on the
lower-cased input, and `error` is its `on match fail` message. -/
def implEnumBasedEnvValue (cr : Crates) (env : String) (error : String → String)
    (fields : String → Option (EnvM α)) : EnvM α := do
  enumBasedEnvValue env error fields (← Env.tryParseOrElse cr textFromEnvValue env "")

/-- The name a selector variable holds: lower-cased, and empty when unset. It
holds none when it is not Unicode. -/
def selectorName (var : Except VarError String) : Option String :=
  (settled textFromEnvValue (some "") var).map toAsciiLowercase

section Selected

variable {cr : Crates} (hcr : cr.DocumentedEnv) (key : String) (error : String → String)
  {fields : String → Option (EnvM α)} (env : Environment)

theorem enumValue_run :
    (implEnumBasedEnvValue cr key error fields).run env = (enumBasedEnvValue key error fields
      (cr.tryParseOrElse textFromEnvValue "" (env key))).run env := rfl

theorem enumValue_consulted :
    (implEnumBasedEnvValue cr key error fields).consulted env =
      key :: (enumBasedEnvValue key error fields
        (cr.tryParseOrElse textFromEnvValue "" (env key))).consulted env := rfl

include hcr

/-- A selector that names an arm is read, and then that arm runs. -/
theorem enumValue_of_selected {name : String} {p : EnvM α}
    (hname : selectorName (env key) = some name) (hp : fields name = some p) :
    (implEnumBasedEnvValue cr key error fields).run env = p.run env ∧
      (implEnumBasedEnvValue cr key error fields).consulted env = key :: p.consulted env := by
  obtain ⟨input, hinput, rfl⟩ := Option.map_eq_some_iff.mp hname
  have hok : cr.tryParseOrElse textFromEnvValue "" (env key) = .ok input :=
    toOption_eq_some.mp ((hcr.tryParseOrElse _ _ _).trans hinput)
  rw [enumValue_run, enumValue_consulted, hok]
  simp only [enumBasedEnvValue, hp, and_self]

/-- A selector that is not Unicode, or names no arm, ends in an error. -/
theorem enumValue_of_not_selected (h : (selectorName (env key)).bind fields = none) :
    ∃ e, (implEnumBasedEnvValue cr key error fields).run env = .error e := by
  have hread := hcr.tryParseOrElse textFromEnvValue "" (env key)
  rw [enumValue_run]
  cases hr : cr.tryParseOrElse textFromEnvValue "" (env key) with
  | error e =>
    rcases e with (_ | raw) | text <;> exact ⟨_, rfl⟩
  | ok input =>
    have hinput : settled textFromEnvValue (some "") (env key) = some input := by
      rw [← hread, hr]
      rfl
    have hnone : fields (toAsciiLowercase input) = none := by
      simpa [selectorName, hinput] using h
    simp only [enumBasedEnvValue, hnone]
    exact ⟨_, rfl⟩

/-- A selector's program succeeds exactly when it names an arm that does. -/
theorem enumValue_eq_ok {a : α} :
    (implEnumBasedEnvValue cr key error fields).run env = .ok a ↔
      ∃ name p, selectorName (env key) = some name ∧ fields name = some p ∧
        p.run env = .ok a := by
  constructor
  · intro h
    cases hs : (selectorName (env key)).bind fields with
    | none =>
      obtain ⟨e, he⟩ := enumValue_of_not_selected hcr key error env hs
      rw [he] at h
      cases h
    | some p =>
      obtain ⟨name, hname, hp⟩ := Option.bind_eq_some_iff.mp hs
      rw [(enumValue_of_selected hcr key error env hname hp).1] at h
      exact ⟨name, p, hname, hp, h⟩
  · rintro ⟨name, p, hname, hp, h⟩
    rw [(enumValue_of_selected hcr key error env hname hp).1, h]

end Selected

end Hazel
