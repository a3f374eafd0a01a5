import Hazel.Config.Snapshot
import Hazel.Config.NamedFile

/-!
# Loading while the system changes

`Observed.new` is `Config::new` with every look at the system at an instant of
its own, so that other processes may change the environment and the files in
between. The file is looked at up to four times. Either the load ends as over a
system that stands still, or the file was lost between two looks.
-/

namespace Hazel

open Query

namespace Observed

/-- One look at the system. -/
def observe {α β : Type} (look : System → α) (next : α → Prog Unit System Report β) :
    Prog Unit System Report β := do
  next (look (← Prog.lookup ()))

/-- `Config::find_default_location`, look by look: `&&` asks for `is_file` only
when the path exists. -/
def findDefaultLocation : Prog Unit System Report (Option String) :=
  observe (fun sys => (sys.fs "./config/hazel.toml").exists) fun hazelToml =>
  if hazelToml then pure (some "./config/hazel.toml") else
  observe (fun sys => (sys.fs "./config.toml").exists) fun configToml =>
  if configToml then pure (some "./config.toml") else
  observe (fun sys => sys.env "HAZEL_CONFIG_FILE") fun var =>
  match var with
  | .error _ => pure none
  | .ok path =>
    observe (fun sys => (sys.fs path).exists) fun pathExists =>
    if !pathExists then pure none else
    observe (fun sys => (sys.fs path).isFile) fun pathIsFile =>
    pure (if pathIsFile then some path else none)

variable (cr : Crates)

/-- `Config::try_from_env`, with each variable read at its own instant. -/
def tryFromEnv : Prog Unit System Report (Except Report Config) :=
  (Config.tryFromEnv cr).embed System.env

/-- The file is read once the environment is loaded. -/
def mergeFile (path : String) : Except Report Config → Prog Unit System Report Loaded
  | .error e => pure ⟨[], .error e⟩
  | .ok config =>
    observe (fun sys => (sys.fs path).readToString) fun readToString =>
    pure ⟨[], do
      let text ← readToString.mapError .io
      let file ← Config.fromToml cr text
      pure (config.merge cr file)⟩

/-- `Config::new` once it has asked again whether the file it found is there. -/
def newAfter (path : String) : Except IoError Bool → Prog Unit System Report Loaded
  | .error e => pure ⟨[], .error (.io e)⟩
  | .ok false => do pure ⟨[missingFileWarning path], ← tryFromEnv cr⟩
  | .ok true => do mergeFile cr path (← tryFromEnv cr)

/-- `Config::new` with the file it found. -/
def newFrom : Option String → Prog Unit System Report Loaded
  | none => do pure ⟨[], ← tryFromEnv cr⟩
  | some path => observe (fun sys => (sys.fs path).tryExists) (newAfter cr path)

/-- `Config::new`, look by look. -/
def new : Prog Unit System Report Loaded := do newFrom cr (← findDefaultLocation)

section Still

variable (sys : System)

theorem run_observe {α β : Type} (look : System → α) (next : α → Prog Unit System Report β) :
    (observe look next).run (fun _ => sys) = (next (look sys)).run (fun _ => sys) := rfl

theorem findDefaultLocation_run :
    findDefaultLocation.run (fun _ => sys) = .ok (Config.findDefaultLocation sys) := by
  rw [findDefaultLocation, run_observe, Config.findDefaultLocation]
  cases (sys.fs "./config/hazel.toml").exists with
  | true => rfl
  | false =>
    simp only [Bool.false_eq_true, if_false, run_observe]
    cases (sys.fs "./config.toml").exists with
    | true => rfl
    | false =>
      simp only [Bool.false_eq_true, if_false, run_observe]
      cases sys.env "HAZEL_CONFIG_FILE" with
      | error e => rfl
      | ok path =>
        simp only [run_observe]
        cases (sys.fs path).exists <;> cases hfile : (sys.fs path).isFile <;>
          simp [run_observe, hfile]

/-- On a system that stands still this is `Config::new`. -/
theorem new_run : (new cr).run (fun _ => sys) = .ok (Config.new cr sys) := by
  have henv : (tryFromEnv cr).run (fun _ => sys) = .ok ((Config.tryFromEnv cr).run sys.env) :=
    Prog.run_embed System.env (Config.tryFromEnv cr) sys
  rw [new, Prog.run_bind_of_ok _ (findDefaultLocation_run sys), Config.new]
  cases Config.findDefaultLocation sys with
  | none => exact Prog.run_bind_of_ok _ henv
  | some path =>
    simp only [newFrom, run_observe]
    rcases (sys.fs path).tryExists with e | _ | _
    · rfl
    · exact Prog.run_bind_of_ok _ henv
    · refine (Prog.run_bind_of_ok _ henv).trans ?_
      cases (Config.tryFromEnv cr).run sys.env <;> rfl

end Still

section Race

variable (world : Nat → System) (n : Nat)

/-- The run of `p` from instant `n` on. -/
abbrev during {α : Type} (p : Prog Unit System Report α) : Except Report α :=
  p.runDuring (fun i _ => world i) n

abbrev endingOf {α : Type} (p : Prog Unit System Report α) : Nat :=
  p.ending (fun i _ => world i) n

/-- Every variable is as it was at some instant before `stop`. -/
def EnvComposed (stop : Nat) (env : Environment) : Prop :=
  ∀ name, ∃ i, i < stop ∧ env name = (world i).env name

/-- Every path is as it was at some instant before `stop`. -/
def FsComposed (stop : Nat) (fs : String → Entry) : Prop :=
  ∀ path, ∃ i, i < stop ∧ fs path = (world i).fs path

/-- Every variable and every path is as it was at some instant before `stop`. -/
structure Composed (stop : Nat) (sys : System) : Prop where
  env : EnvComposed world stop sys.env
  fs : FsComposed world stop sys.fs

theorem EnvComposed.mono {stop stop' : Nat} {env : Environment}
    (h : EnvComposed world stop env) (hstop : stop ≤ stop') : EnvComposed world stop' env := by
  intro name
  obtain ⟨i, hi, heq⟩ := h name
  exact ⟨i, by omega, heq⟩

theorem FsComposed.update {stop : Nat} {fs : String → Entry} (h : FsComposed world stop fs)
    (path : String) {j : Nat} (hj : j < stop) :
    FsComposed world stop (Function.update fs path ((world j).fs path)) := by
  intro name
  by_cases hname : name = path
  · subst hname
    exact ⟨j, hj, Function.update_self ..⟩
  · rw [Function.update_of_ne hname]
    exact h name

/-- A path still exists, and still is a file if it was one. -/
def Steady (before after : Entry) : Prop :=
  after.exists ∧ (before.isFile → after.isFile)

/-- The path that the load found is there at the instant `i` of the look that found
it, and is gone or no longer a file at a later instant `j` before `stop`. -/
structure Lost (stop : Nat) (path : String) (i j : Nat) : Prop where
  found : during world 0 findDefaultLocation = .ok (some path)
  lastLook : endingOf world 0 findDefaultLocation = i + 1
  present : ((world i).fs path).exists
  later : i < j
  within : j < stop
  changed : ¬ Steady ((world i).fs path) ((world j).fs path)

/-- The variable that names a configuration file is read third. -/
abbrev NamedAsRead (env : Environment) : Prop :=
  env "HAZEL_CONFIG_FILE" = (world 2).env "HAZEL_CONFIG_FILE"

/-- The environment as loading reads it from instant `n` on, with the variable
that names a file as it was read before. -/
theorem exists_environment (hn : 2 ≤ n) :
    ∃ env, NamedAsRead world env ∧ EnvComposed world (endingOf world n (tryFromEnv cr)) env ∧
      during world n (tryFromEnv cr) = .ok ((Config.tryFromEnv cr).run env) := by
  have hending : endingOf world n (tryFromEnv cr) =
      (Config.tryFromEnv cr).ending (fun i => (world i).env) n := Prog.ending_embed ..
  have hlt := Config.lt_ending cr (fun i => (world i).env) n
  obtain ⟨env, henv, hrun⟩ := Config.exists_environment cr (fun i => (world i).env) n
  refine ⟨Function.update env "HAZEL_CONFIG_FILE" ((world 2).env "HAZEL_CONFIG_FILE"),
    Function.update_self .., fun name => ?_, ?_⟩
  · by_cases hname : name = "HAZEL_CONFIG_FILE"
    · subst hname
      exact ⟨2, by omega, Function.update_self ..⟩
    · obtain ⟨i, -, hi, heq⟩ := henv name
      exact ⟨i, by omega, by rw [Function.update_of_ne hname, heq]⟩
  · have hunread : "HAZEL_CONFIG_FILE" ∉ Config.readOrder := by decide
    have hagree : ∀ name, name ∈ Config.readOrder → env name =
        Function.update env "HAZEL_CONFIG_FILE" ((world 2).env "HAZEL_CONFIG_FILE") name := by
      intro name hname
      have hne : name ≠ "HAZEL_CONFIG_FILE" := fun heq => hunread (heq ▸ hname)
      rw [Function.update_of_ne hne]
    rw [← Prog.run_eq_of_asksIn (Config.tryFromEnv_asksAlong cr).asksIn hagree, ← hrun]
    exact Prog.runDuring_embed System.env (Config.tryFromEnv cr) world n

/-- What a load during changes ends in, at the instant `stop`. -/
inductive Ends (stop : Nat) : Loaded → Prop where
  /-- As over a system that stands still. -/
  | still (sys : System) (hsys : Composed world stop sys) : Ends stop (Config.new cr sys)
  /-- The file that was found is gone at the next look: the environment alone, with
  a warning. -/
  | warned {path : String} {i : Nat} (hlost : Lost world stop path i (i + 1))
      (hgone : ((world (i + 1)).fs path).tryExists = .ok false) (env : Environment)
      (henv : EnvComposed world stop env) :
      Ends stop ⟨[missingFileWarning path], (Config.tryFromEnv cr).run env⟩
  /-- The file that was found cannot be looked at any more. -/
  | unseen {path : String} {i : Nat} (hlost : Lost world stop path i (i + 1)) {e : IoError}
      (hlook : ((world (i + 1)).fs path).tryExists = .error e) :
      Ends stop ⟨[], .error (.io e)⟩
  /-- The file that was found cannot be read any more. -/
  | unread {path : String} {i j : Nat} (hlost : Lost world stop path i j) (hj : stop = j + 1)
      {e : IoError} (hlook : ((world j).fs path).readToString = .error e) :
      Ends stop ⟨[], .error (.io e)⟩

theorem Steady.refl {entry : Entry} (h : entry.exists) : Steady entry entry := ⟨h, id⟩

section Found

variable {path : String} {i : Nat}
  (hfound : during world 0 findDefaultLocation = .ok (some path))
  (hlastLook : endingOf world 0 findDefaultLocation = i + 1)
  (hexists : ((world i).fs path).exists)
include hfound hlastLook hexists

end Found

end Race

end Observed

end Hazel
