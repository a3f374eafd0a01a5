import Hazel.Config.Logging
import Hazel.Config.Storage
import Hazel.Config.Server

/-!
# `config`

The whole configuration: read from the environment, deserialised from a TOML
document, and loaded by `Config::new` from both.
-/

namespace Hazel

open Query

structure Config where
  serverName : Option String
  sentryDsn : Option Dsn
  logging : Logging.Config
  storage : Storage.Config
  server : Server.Config
  deriving DecidableEq, Repr

def SERVER_NAME : String := "HAZEL_SERVER_NAME"
def SENTRY_DSN : String := "HAZEL_SENTRY_DSN"

section Environment

variable (cr : Crates)

def Config.tryFromEnv : EnvM Config := do
  let serverName ← (Env.tryParseOptional cr textFromEnvValue SERVER_NAME).question
  let sentryDsn ← (Env.tryParseOptional cr cr.dsnFromEnvValue SENTRY_DSN).question
  let logging ← Logging.Config.tryFromEnv cr
  let storage ← Storage.Config.tryFromEnv cr
  let server ← Server.Config.tryFromEnv cr
  pure { serverName, sentryDsn, logging, storage, server }

/-- The derived merge: field by field. -/
def Config.merge (me other : Config) : Config where
  serverName := cr.mergeOption cr.mergeString me.serverName other.serverName
  sentryDsn := cr.mergeOption cr.mergeDsn me.sentryDsn other.sentryDsn
  logging := me.logging.merge cr other.logging
  storage := me.storage.merge cr other.storage
  server := me.server.merge cr other.server

end Environment

section Deserialize

/-- The fields of a struct as serde's derived visitor finds them: by key in a
table, or by position in an array. -/
def structFields (names : List String) (denyUnknownFields : Bool) :
    Toml → Except DeError (String → Option Toml)
  | .table entries =>
    match entries.find? fun entry => denyUnknownFields && !names.contains entry.1 with
    | some entry => .error (.unknownField entry.1)
    | none => .ok fun name => entries.lookup name
  | .array items => .ok fun name => items[names.idxOf name]?
  | _ => .error .invalidType

/-- One field: deserialised when given, `default` when absent. -/
def field {α : Type} (fields : String → Option Toml) (name : String)
    (deserialize : Toml → Except DeError α) (default : Option α) : Except DeError α :=
  match fields name with
  | some value => deserialize value
  | none =>
    match default with
    | some a => .ok a
    | none => .error (.missingField name)

/-- A field of type `Option<T>` with `#[serde(default)]`. -/
def optionalField {α : Type} (fields : String → Option Toml) (name : String)
    (deserialize : Toml → Except DeError α) : Except DeError (Option α) :=
  field fields name (fun value => (deserialize value).map some) (some none)

def deserializeString : Toml → Except DeError String
  | .string s => .ok s
  | _ => .error .invalidType

def deserializeBool : Toml → Except DeError Bool
  | .boolean b => .ok b
  | _ => .error .invalidType

def deserializeU16 : Toml → Except DeError UInt16
  | .integer i =>
    if 0 ≤ i ∧ i < 65536 then .ok (UInt16.ofNat i.toNat) else .error .invalidType
  | _ => .error .invalidType

def deserializeStringMap : Toml → Except DeError StringMap
  | .table entries => entries.mapM fun entry => do
    let value ← deserializeString entry.2
    pure (entry.1, value)
  | _ => .error .invalidType

variable (cr : Crates)

def Logging.Filter.deserialize (value : Toml) : Except DeError Filter := do
  let text ← deserializeString value
  (Filter.tryFromEnvValue cr text).mapError .custom

/-- `level` is the one field with no `default` attribute. -/
def Logging.Config.deserialize (value : Toml) : Except DeError Logging.Config := do
  let fields ← structFields ["filter", "level", "json"] true value
  let filter ← optionalField fields "filter" (Filter.deserialize cr)
  let level ← field fields "level" cr.deserializeLevel none
  let json ← field fields "json" deserializeBool (some false)
  pure { filter, level, json }

/-- An externally tagged enum: a table with the variant's name as its one key. -/
def Storage.Config.deserialize : Toml → Except DeError Storage.Config
  | .table [("filesystem", value)] => (cr.deserializeFs value).map .filesystem
  | .table [("azure", value)] => (cr.deserializeAzure value).map .azure
  | .table [("s3", value)] => (cr.deserializeS3 value).map .s3
  | .table [(variant, _)] => .error (.unknownVariant variant)
  | _ => .error .invalidType

def Server.Ssl.Config.deserialize (value : Toml) : Except DeError Server.Ssl.Config := do
  let fields ← structFields ["cert_key", "cert"] true value
  let certKey ← field fields "cert_key" deserializeString none
  let cert ← field fields "cert" deserializeString none
  pure { certKey, cert }

def Server.Config.deserialize (value : Toml) : Except DeError Server.Config := do
  let fields ← structFields ["headers", "host", "port", "ssl"] true value
  let headers ← field fields "headers" deserializeStringMap (some [])
  let host ← field fields "host" deserializeString (some defaultHost)
  let port ← field fields "port" deserializeU16 (some defaultPort)
  let ssl ← optionalField fields "ssl" Ssl.Config.deserialize
  pure { headers, host, port, ssl }

/-- The document is a table, and keys it does not know are ignored. -/
def Config.deserialize (document : List (String × Toml)) : Except DeError Config := do
  let fields := fun name => document.lookup name
  let serverName ← optionalField fields "server_name" deserializeString
  let sentryDsn ← optionalField fields "sentry_dsn" cr.deserializeDsn
  let logging ← field fields "logging" (Logging.Config.deserialize cr)
    (some Logging.Config.default)
  let storage ← field fields "storage" (Storage.Config.deserialize cr)
    (some Storage.Config.default)
  let server ← field fields "server" Server.Config.deserialize (some Server.Config.default)
  pure { serverName, sentryDsn, logging, storage, server }

end Deserialize

section New

/-- What `Config::new` finds when it is called. -/
structure System where
  env : Environment
  fs : String → Entry

/-- What `Config::new` prints on standard error, and what it returns. -/
structure Loaded where
  stderr : List String
  result : Except Report Config

def Config.findDefaultLocation (sys : System) : Option String :=
  if (sys.fs "./config/hazel.toml").exists then some "./config/hazel.toml"
  else if (sys.fs "./config.toml").exists then some "./config.toml"
  else
    match sys.env "HAZEL_CONFIG_FILE" with
    | .ok path => if (sys.fs path).exists && (sys.fs path).isFile then some path else none
    | .error _ => none

variable (cr : Crates)

/-- `toml::from_str`. -/
def Config.fromToml (text : String) : Except Report Config := do
  let document ← (cr.parseToml text).mapError .toml
  (Config.deserialize cr document).mapError .deserialize

def missingFileWarning (path : String) : String :=
  "[hazel WARN] given file [" ++ path ++
    "] doesn't exist, using system env variables as configuration source"

def Config.new (sys : System) : Loaded :=
  match Config.findDefaultLocation sys with
  | none => ⟨[], (Config.tryFromEnv cr).run sys.env⟩
  | some path =>
    match (sys.fs path).tryExists with
    | .error e => ⟨[], .error (.io e)⟩
    | .ok false => ⟨[missingFileWarning path], (Config.tryFromEnv cr).run sys.env⟩
    | .ok true => ⟨[], do
        let config ← (Config.tryFromEnv cr).run sys.env
        let text ← (sys.fs path).readToString.mapError .io
        let file ← Config.fromToml cr text
        pure (config.merge cr file)⟩

end New

end Hazel
