import Hazel.Config.Util

/-!
# `config::logging`
-/

namespace Hazel.Logging

open Query

def FILTER : String := "HAZEL_LOG_FILTER"
def LEVEL : String := "HAZEL_LOG_LEVEL"
def JSON : String := "HAZEL_LOG_JSON"

/-- A log filter whose text `EnvFilter` has accepted, by that text. -/
structure Filter where
  text : String
  deriving DecidableEq, Repr

structure Config where
  filter : Option Filter
  level : Level
  json : Bool
  deriving DecidableEq, Repr

def defaultLevel : Level := .info

def Config.default : Config where
  filter := none
  level := defaultLevel
  json := false

variable (cr : Crates)

def Filter.tryFromEnvValue (value : String) : Except String Filter :=
  (cr.envFilterTryNew value).map fun _ => ⟨value⟩

def Filter.merge (me other : Filter) : Filter := ⟨cr.overwriteEmpty me.text other.text⟩

/-- The fields in the order the source reads them: `json` before `level`. -/
def Config.tryFromEnv : EnvM Config := do
  let filter ← (Env.tryParseOptional cr (Filter.tryFromEnvValue cr) FILTER).question
  let json ← Util.boolEnv cr JSON
  let level ← (Env.tryParseOr cr cr.levelFromEnvValue LEVEL fun _ => defaultLevel).question
  pure { filter, level, json }

def Config.merge (me other : Config) : Config where
  filter := cr.mergeOption (Filter.merge cr) me.filter other.filter
  level := cr.mergeLevel me.level other.level
  json := cr.onlyIfFalsy me.json other.json

end Hazel.Logging
