import Hazel.Lib.Query
import Hazel.Server.Middlewares

/-!
# `server::routes`
-/

namespace Hazel

open Query Http

namespace Routes

variable (rt : Runtime)

/-- `Response::builder()` with one header, and the `unwrap` of its `body`. -/
def buildResponse (status : Nat) (name : HeaderName) (value : String) (body : Body) :
    Except Panic Response := do
  let value ← unwrap (rt.headerValueFromStr value)
  pure { status, headers := HeaderMap.empty.append name value, body }

/-- `IntoResponse` of `(StatusCode, Json<Value>)`. -/
def jsonResponse (status : Nat) (value : Json) : Response where
  status := status
  headers := HeaderMap.empty.insert "content-type" ⟨"application/json"⟩
  body := .json value

/-- The panic's message is only logged. -/
def panicHandler (_message : Panic) : Except Panic Response :=
  buildResponse rt 500 "content-type" "application/json; charset=utf-8" (.json (.object [
    ("status", .string "failed"),
    ("message", .string "was unable to complete request"),
    ("context", .object [
      ("new_issue_uri", .string "https://github.com/Noelware/hazel/issues/new")])]))

def main (build : Build) : Service := fun req =>
  match req.extensions.config with
  | none => .ok rt.missingExtension
  | some config => .ok (jsonResponse 200 (.object [
      ("hello", .string "world"),
      ("server", .string (config.serverName.getD "unknown")),
      ("build", .object [
        ("version", .string build.version),
        ("timestamp", .string build.timestamp)])]))

def healthz : Service := fun _ => .ok {
  status := 200
  headers := HeaderMap.empty.insert "content-type" ⟨"text/plain; charset=utf-8"⟩
  body := .text "Ok." }

/-- `str::split('/')`. -/
def segments (path : String) : List (List Char) := path.toList.splitOn '/'

/-- `[..].join("/")`. -/
def join (segments : List (List Char)) : String := String.ofList (['/'].intercalate segments)

/-- `str::trim_start_matches('/')`. -/
def trimSlashes (path : String) : String := String.ofList (path.toList.dropWhile (· = '/'))

/-- The string that `query` looks up. -/
def queryString (storage : StorageService) (path : String) : String :=
  let query := segments (trimSlashes path)
  match storage with
  | .filesystem _ => "./" ++ join query
  | _ => "/" ++ join query

def notFound (query : String) : Response :=
  jsonResponse 404 (.object [
    ("status", .string "not_found"),
    ("message", .string "object was not found"),
    ("context", .object [("query", .string query)])])

def lookupFailed (query : String) : Response :=
  jsonResponse 500 (.object [
    ("status", .string "failed"),
    ("message", .string "unable to perform lookup on query! try again later maybe?"),
    ("context", .object [("query", .string query)])])

/-- The body of `query`, as a program that asks the storage service. -/
def query (storage : StorageService) (path : String) :
    Prog String BlobResult Panic Response := do
  let query := queryString storage path
  match ← Prog.lift (← Prog.lookup query) with
  | .error _ => pure (lookupFailed query)
  | .ok none => pure (notFound query)
  | .ok (some (.file contentType data)) =>
    Prog.lift (buildResponse rt 200 "content-type" (contentType.getD rt.defaultContentType)
      (.bytes data))
  | .ok (some .directory) => pure (notFound query)

/-- `query` behind its extractors. -/
def queryHandler : Service := fun req =>
  match rt.extractPath req with
  | .error rejection => .ok rejection
  | .ok path =>
    match req.extensions.storage with
    | none => .ok rt.missingExtension
    | some storage => (query rt storage path).run (rt.blob storage)

/-- `Extension(storage)` as a layer. -/
def storageLayer (storage : StorageService) : Layer := fun next req =>
  next { req with extensions := { req.extensions with storage := some storage } }

/-- `Extension(config)` as a layer. -/
def configLayer (config : Config) : Layer := fun next req =>
  next { req with extensions := { req.extensions with config := some config } }

def createRouter (build : Build) (storage : StorageService) (config : Config) : Router :=
  (⟨[], rt.fallback⟩ : Router)
    |>.route "/healthz" (rt.get healthz)
    |>.route "/\x7b*file\x7d" (rt.get (queryHandler rt))
    |>.route "/" (rt.get (main rt build))
    |>.layer rt.newSentryLayer
    |>.layer rt.sentryHttpLayer
    |>.layer (rt.catchPanic (panicHandler rt))
    |>.layer (Middlewares.log rt)
    |>.layer (Middlewares.requestId rt build)
    |>.layer (storageLayer storage)
    |>.layer (configLayer config)

end Routes

end Hazel
