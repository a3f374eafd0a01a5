import Hazel.Config.Util

/-!
# `config::server` and `config::server::ssl`
-/

namespace Hazel.Server

open Query

namespace Ssl

def CERT_KEY : String := "HAZEL_SERVER_SSL_CERT_KEY"
def ENABLED : String := "HAZEL_SERVER_SSL"
def CERT : String := "HAZEL_SERVER_SSL_CERTIFICATE"

structure Config where
  certKey : String
  cert : String
  deriving DecidableEq, Repr

/-- `.map_err(|err| eyre!("unable to load ..."))` on a required path. -/
def requiredPath (cr : Crates) (key : String) : EnvM String := do
  Prog.lift ((← Env.tryParse cr textFromEnvValue key).mapError fun err =>
    .message ("unable to load `$" ++ key ++ "`: " ++ cr.displayTryParseError err))

def Config.tryFromEnv (cr : Crates) : EnvM Config := do
  let certKey ← requiredPath cr CERT_KEY
  let cert ← requiredPath cr CERT
  pure { certKey, cert }

def Config.merge (cr : Crates) (me other : Config) : Config where
  certKey := cr.mergePathBuf me.certKey other.certKey
  cert := cr.mergePathBuf me.cert other.cert

end Ssl

def HEADERS : String := "HAZEL_SERVER_HEADERS"
def HOST : String × String := ("HAZEL_SERVER_HOST", "HOST")
def PORT : String × String := ("HAZEL_SERVER_PORT", "PORT")

structure Config where
  headers : StringMap
  host : String
  port : UInt16
  ssl : Option Ssl.Config
  deriving DecidableEq, Repr

def defaultHost : String := "0.0.0.0"

def defaultPort : UInt16 := 8989

def Config.default : Config where
  headers := []
  host := defaultHost
  port := defaultPort
  ssl := none

variable (cr : Crates)

/-- The `match` on `bool_env(ssl::ENABLED)` in `try_from_env`. -/
def sslFromEnv : EnvM (Option Ssl.Config) := do
  if ← Util.boolEnv cr Ssl.ENABLED then
    pure (some (← Ssl.Config.tryFromEnv cr))
  else
    pure none

/-- The generic variable is read first: it is an argument of the read of the
program's own. Any error of reading the headers is replaced by no headers. -/
def Config.tryFromEnv : EnvM Config := do
  let headers ← Env.tryParse cr cr.mapFromEnvValue HEADERS
  let genericHost ← (Env.tryParseOrElse cr textFromEnvValue HOST.2 defaultHost).question
  let host ← (Env.tryParseOrElse cr textFromEnvValue HOST.1 genericHost).question
  let genericPort ← (Env.tryParseOrElse cr u16FromStr PORT.2 defaultPort).question
  let port ← (Env.tryParseOrElse cr u16FromStr PORT.1 genericPort).question
  let ssl ← sslFromEnv cr
  pure { headers := headers.toOption.getD [], host, port, ssl }

def Config.merge (me other : Config) : Config where
  headers := cr.mergeMap me.headers other.headers
  host := cr.mergeString me.host other.host
  port := cr.mergeU16 me.port other.port
  ssl := cr.mergeOption (Ssl.Config.merge cr) me.ssl other.ssl

end Hazel.Server
