import Hazel.Server.Http

/-!
# `server::middlewares`
-/

namespace Hazel

open Http

/-- `VERSION`, from Cargo. -/
def VERSION : String := "2.0.0"

/-- What `git rev-parse --short=8 HEAD` prints. -/
structure CommitHash where
  text : String
  hexadecimal : ∀ c ∈ text.toList, c ∈ "0123456789abcdef".toList

/-- What the build script compiles into the binary. -/
structure Build where
  /-- `COMMIT_HASH`. -/
  commitHash : Option CommitHash
  /-- `BUILD_TIMESTAMP`. -/
  timestamp : String

/-- `hazel::version`. -/
def Build.version (build : Build) : String :=
  match build.commitHash with
  | some hash => VERSION ++ "+" ++ hash.text
  | none => VERSION

namespace Middlewares

variable (rt : Runtime)

/-- `From<XRequestId> for HeaderValue`. -/
def XRequestId.intoHeaderValue (id : XRequestId) : Except Panic HeaderValue :=
  unwrap (rt.headerValueFromStr id.text)

/-- The text of the `server` header. -/
def serverText (build : Build) (config : Config) : String :=
  "Noelware/hazel" ++
    (match config.serverName with
      | some name => " [" ++ name ++ "]"
      | none => "") ++
    " (+https://github.com/Noelware/hazel; v" ++ build.version ++ ")"

def Request.withRequestId (req : Request) (id : XRequestId) : Request :=
  { req with extensions := { req.extensions with requestId := some id } }

/-- The headers are built, and may panic, before `next` runs. -/
def requestId (build : Build) (next : Service) : Service := fun req =>
  match req.extensions.config with
  | none => .ok rt.missingExtension
  | some config => do
    let id := rt.sampleString req
    let idValue ← id.intoHeaderValue rt
    let serverValue ← unwrap (rt.headerValueFromStr (serverText build config))
    let headers := (HeaderMap.empty.insert "x-request-id" idValue).insert "server" serverValue
    let res ← next (Request.withRequestId req id)
    pure (rt.withHeaders headers res)

structure Metadata where
  extensions : Extensions
  version : Version
  headers : HeaderMap
  matched : Option String
  method : String
  uri : String

/-- `Metadata::from_request_parts`: none of its extractors rejects. -/
def Metadata.fromRequestParts (req : Request) : Metadata where
  extensions := req.extensions
  version := req.version
  headers := req.headers
  matched := req.extensions.matchedPath
  method := req.method
  uri := req.path

def httpVersion (metadata : Metadata) : Except Panic String :=
  match metadata.version with
  | .http09 => .ok "http/0.9"
  | .http10 => .ok "http/1.0"
  | .http11 => .ok "http/1.1"
  | .http2 => .ok "http/2.0"
  | .http3 => .ok "http/3.0"
  | .other => .error ⟨"not implemented"⟩

def getUserAgent (metadata : Metadata) : Option String :=
  (metadata.headers "user-agent").head?.map HeaderValue.text

def displayOpt (opt : Option String) : String := opt.getD "<unknown>"

/-- The fields of the span `hazel.http.request`. -/
structure Span where
  matchedPath : String
  ua : String
  id : String
  version : String
  method : String
  uri : String

/-- The fields in the order of `#[instrument]`. -/
def span (metadata : Metadata) : Except Panic Span := do
  let matchedPath := displayOpt metadata.matched
  let ua := displayOpt (getUserAgent metadata)
  let id ← match metadata.extensions.requestId with
    | some id => .ok id
    | none => .error ⟨"called `Option::unwrap()` on a `None` value"⟩
  let version ← httpVersion metadata
  pure { matchedPath, ua, id := id.text, version, method := metadata.method, uri := metadata.uri }

/-- The fields of the span are evaluated only when it is recorded. A heartbeat
differs from other requests in the log alone. -/
def log (next : Service) : Service := fun req => do
  if rt.spanEnabled req then
    let _ ← span (Metadata.fromRequestParts req)
  next req

end Middlewares

end Hazel
