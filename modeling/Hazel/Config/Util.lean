import Hazel.Lib.Query
import Hazel.Crates

/-!
# Reading one environment variable

The program's own helpers (`env_from_str`, `env_from_result`, `bool_env`) and
azalia's, as programs that ask the environment. Each of them asks one variable
and settles it the same way, which `IsRead` states once for all of them.
-/

namespace Hazel

open Query

/-- `eyre::Report`: a message of the program, or an error passed on by `?`. -/
inductive Report where
  | message (text : String)
  | env (e : TryParseError)
  | io (e : IoError)
  | toml (text : String)
  | deserialize (e : DeError)
  deriving DecidableEq, Repr

/-- A computation that reads the process environment. -/
abbrev EnvM := Prog String (Except VarError String) Report

/-- `?` on a result of azalia. -/
def EnvM.question {V : Type} (p : EnvM (Except TryParseError V)) : EnvM V := do
  Prog.lift ((← p).mapError .env)

namespace Env

variable {V : Type} (cr : Crates) (parse : String → Except String V)

def tryParse (key : String) : EnvM (Except TryParseError V) := do
  pure (cr.tryParse parse (← Prog.lookup key))

def tryParseOr (key : String) (default : Unit → V) : EnvM (Except TryParseError V) := do
  pure (cr.tryParseOr parse default (← Prog.lookup key))

def tryParseOrElse (key : String) (default : V) : EnvM (Except TryParseError V) := do
  pure (cr.tryParseOrElse parse default (← Prog.lookup key))

def tryParseOptional (key : String) : EnvM (Except TryParseError (Option V)) := do
  pure (cr.tryParseOptional parse (← Prog.lookup key))

end Env

/-- `TryFromEnvValue` of `String` and of `PathBuf`: any text is a value. -/
def textFromEnvValue (text : String) : Except String String := .ok text

namespace Util

def envFromStr {F : Type} (fromStr : String → Except String F) (key : String) (default : F) :
    EnvM F := do
  match ← Prog.lookup key with
  | .ok value =>
    match fromStr value with
    | .ok v => pure v
    | .error e =>
      Prog.fail (.message ("failed to parse environment variable `$" ++ key ++ "`: " ++ e))
  | .error .notPresent => pure default
  | .error (.notUnicode _) =>
    Prog.fail (.message ("received non-unicode in environment variable `$" ++ key ++ "`"))

def envFromResult {T : Type} (result : Except VarError T) (default : T) : Except Report T :=
  match result with
  | .ok value => .ok value
  | .error .notPresent => .ok default
  | .error (.notUnicode _) =>
    .error (.message "received non-unicode value in environment variable")

def boolEnv (cr : Crates) (key : String) : EnvM Bool := do
  Prog.lift (envFromResult ((← Prog.lookup key).map cr.truthyRegexIsMatch) false)

end Util

/-- `p` asks for `key` alone and settles on its value. -/
structure IsRead {V : Type} (p : EnvM V) (key : String) (parse : String → Except String V)
    (default : Option V) : Prop where
  consulted : ∀ env, p.consulted env = [key]
  value : ∀ env, (p.run env).toOption = settled parse default (env key)

section Reads

variable {V : Type}

theorem toOption_eq_some {ε α : Type} {r : Except ε α} {a : α} :
    r.toOption = some a ↔ r = .ok a := by
  cases r <;> simp [Except.toOption]

theorem toOption_mapError {ε ε' α : Type} (f : ε → ε') (r : Except ε α) :
    (r.mapError f).toOption = r.toOption := by
  cases r <;> rfl

/-- A variable settles on `v` when it is set to a text that parses to `v`, or
when it is unset and `v` is the default. -/
theorem settled_eq_some {parse : String → Except String V} {default : Option V}
    {var : Except VarError String} {v : V} :
    settled parse default var = some v ↔
      (∃ text, var = .ok text ∧ parse text = .ok v) ∨
        (var = .error .notPresent ∧ default = some v) := by
  rcases var with (_ | raw) | text
  · simp [settled]
  · simp [settled]
  · simp [settled, toOption_eq_some]

theorem IsRead.run_eq_ok {p : EnvM V} {key : String} {parse : String → Except String V}
    {default : Option V} (h : IsRead p key parse default) {env : Environment} {v : V} :
    p.run env = .ok v ↔ settled parse default (env key) = some v := by
  rw [← h.value env, toOption_eq_some]

/-- `?` on a helper that hands the variable's value to `read`. -/
theorem isRead_question {read : Except VarError String → Except TryParseError V}
    {key : String} {parse : String → Except String V} {default : Option V}
    (h : ∀ var, (read var).toOption = settled parse default var) :
    IsRead (EnvM.question (do pure (read (← Prog.lookup key)))) key parse default where
  consulted _ := rfl
  value env := (toOption_mapError Report.env _).trans (h (env key))

section Azalia

variable {cr : Crates} (hcr : cr.DocumentedEnv) (key : String)
include hcr

theorem isRead_tryParse (parse : String → Except String V) :
    IsRead (Env.tryParse cr parse key).question key parse none :=
  isRead_question (hcr.tryParse parse)

theorem isRead_tryParseOr (parse : String → Except String V) (default : Unit → V) :
    IsRead (Env.tryParseOr cr parse key default).question key parse (some (default ())) :=
  isRead_question (hcr.tryParseOr parse default)

theorem isRead_tryParseOrElse (parse : String → Except String V) (default : V) :
    IsRead (Env.tryParseOrElse cr parse key default).question key parse (some default) :=
  isRead_question (hcr.tryParseOrElse parse default)

theorem isRead_tryParseOptional (parse : String → Except String V) :
    IsRead (Env.tryParseOptional cr parse key).question key
      (fun text => (parse text).map some) (some none) :=
  isRead_question (hcr.tryParseOptional parse)

end Azalia

theorem isRead_envFromStr (fromStr : String → Except String V) (key : String) (default : V) :
    IsRead (Util.envFromStr fromStr key default) key fromStr (some default) where
  consulted env := by
    simp only [Util.envFromStr, Prog.consulted_lookup_bind]
    rcases env key with (_ | raw) | value
    · rfl
    · rfl
    · cases h : fromStr value <;> simp [h]
  value env := by
    simp only [Util.envFromStr, Prog.run_lookup_bind]
    rcases env key with (_ | raw) | value
    · rfl
    · rfl
    · cases h : fromStr value <;> simp [settled, h] <;> rfl

theorem isRead_boolEnv (cr : Crates) (key : String) :
    IsRead (Util.boolEnv cr key) key (fun text => .ok (cr.truthyRegexIsMatch text))
      (some false) where
  consulted _ := rfl
  value env := by
    change (Util.envFromResult ((env key).map cr.truthyRegexIsMatch) false).toOption = _
    rcases env key with (_ | raw) | text <;> rfl

end Reads

end Hazel
