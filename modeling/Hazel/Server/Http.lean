import Hazel.Lib.Services
import Hazel.Config.Load

/-!
# The HTTP types of the server, and the crates it is built on

Requests and responses with the parts the program reads or writes. The
functions of axum, http, tower, sentry and remi that the server calls are the
fields of `Runtime`, and what their documentation promises is stated by
`Runtime.Documented`.
-/

namespace Hazel

namespace Http

/-- `http::HeaderValue`, by its text. -/
structure HeaderValue where
  text : String
  deriving DecidableEq, Repr

/-- `http::HeaderName`, in lower case. -/
abbrev HeaderName := String

/-- `http::HeaderMap`, by the values of each name. -/
abbrev HeaderMap := HeaderName → List HeaderValue

namespace HeaderMap

def empty : HeaderMap := fun _ => []

/-- `HeaderMap::insert`: one value, whatever there was. -/
def insert (headers : HeaderMap) (name : HeaderName) (value : HeaderValue) : HeaderMap :=
  Function.update headers name [value]

/-- `HeaderMap::append`: one more value. -/
def append (headers : HeaderMap) (name : HeaderName) (value : HeaderValue) : HeaderMap :=
  Function.update headers name (headers name ++ [value])

end HeaderMap

/-- `serde_json::Value`, as far as the program builds it. -/
inductive Json where
  | string (s : String)
  | object (entries : List (String × Json))

inductive Body where
  | empty
  | text (s : String)
  | json (value : Json)
  | bytes (data : List UInt8)

structure Response where
  status : Nat
  headers : HeaderMap
  body : Body

/-- `http::Version`. `other` stands for the versions that http may yet add. -/
inductive Version where
  | http09
  | http10
  | http11
  | http2
  | http3
  | other
  deriving DecidableEq, Repr

/-- The panic of a Rust thread, by its message. -/
structure Panic where
  message : String
  deriving DecidableEq, Repr

/-- `Result::unwrap`. -/
def unwrap {α : Type} : Except String α → Except Panic α
  | .ok a => .ok a
  | .error e => .error ⟨"called `Result::unwrap()` on an `Err` value: " ++ e⟩

end Http

namespace Middlewares

/-- `middlewares::XRequestId`: twelve characters of `rand`'s `Alphanumeric`. -/
structure XRequestId where
  text : String
  length : text.length = 12
  alphanumeric : ∀ c ∈ text.toList, c.isAlphanum
  deriving DecidableEq

end Middlewares

/-- `azalia::remi::StorageService`, by the configuration it was made from. -/
inductive StorageService where
  | filesystem (config : Remi.Fs.StorageConfig)
  | azure (config : Remi.Azure.StorageConfig)
  | s3 (config : Remi.S3.StorageConfig)
  deriving DecidableEq, Repr

/-- `azalia::remi::core::Blob`, with the fields the program reads. -/
inductive Blob where
  | file (contentType : Option String) (data : List UInt8)
  | directory

/-- What a storage service does when it is asked for the path of a blob: it answers,
or panics. -/
abbrev BlobResult := Except Http.Panic (Except String (Option Blob))

namespace Http

/-- The entries of `http::Extensions` that the program and axum put there. -/
structure Extensions where
  config : Option Config
  storage : Option StorageService
  requestId : Option Middlewares.XRequestId
  matchedPath : Option String

structure Request where
  method : String
  path : String
  version : Version
  headers : HeaderMap
  extensions : Extensions

abbrev Service := Services.Service Request Response Panic

abbrev Layer := Services.Layer Request Response Panic

abbrev Router := Services.Router Request Response Panic

end Http

open Http

/-- The functions of other crates that the server calls. -/
structure Runtime where
  /-- `HeaderValue::from_str`. -/
  headerValueFromStr : String → Except String HeaderValue
  /-- `IntoResponse` of `(HeaderMap, R)`. -/
  withHeaders : HeaderMap → Response → Response
  /-- `CatchPanicLayer::custom`. -/
  catchPanic : (Panic → Except Panic Response) → Layer
  /-- What `Alphanumeric.sample_string` draws for the request. -/
  sampleString : Request → Middlewares.XRequestId
  /-- Whether tracing records the span of the request. -/
  spanEnabled : Request → Bool
  /-- The rejection of the extractor `Extension<T>`. -/
  missingExtension : Response
  /-- axum's answer where no route matches. -/
  fallback : Service
  /-- `routing::get`. -/
  get : Service → Service
  /-- axum's choice of a route. -/
  selectRoute : List String → Request → Option String
  /-- The extractor `Path<String>`, or its rejection. -/
  extractPath : Request → Except Response String
  /-- `NewSentryLayer::new_from_top`. -/
  newSentryLayer : Layer
  /-- `SentryHttpLayer::new().enable_transaction()`. -/
  sentryHttpLayer : Layer
  /-- `azalia::remi::fs::DEFAULT_CONTENT_TYPE`. -/
  defaultContentType : String
  /-- `StorageService::blob`. -/
  blob : StorageService → String → BlobResult

/-- How axum recognises a request, and the extension it notes the pattern in. -/
def Runtime.matcher (rt : Runtime) : Services.Matcher Request where
  select := rt.selectRoute
  annotate pattern req :=
    { req with extensions := { req.extensions with matchedPath := some pattern } }

/-- The characters that have no place in a header: the control characters other
than tab, and DEL. -/
def IsForbidden (c : Char) : Prop := (c.toNat < 32 ∧ c.toNat ≠ 9) ∨ c.toNat = 127

instance (c : Char) : Decidable (IsForbidden c) :=
  inferInstanceAs (Decidable ((c.toNat < 32 ∧ c.toNat ≠ 9) ∨ c.toNat = 127))

/-- The text can be the value of a header. -/
def HeaderText (text : String) : Prop := ∀ c ∈ text.toList, ¬ IsForbidden c

instance (text : String) : Decidable (HeaderText text) :=
  List.decidableBAll (fun c => ¬ IsForbidden c) text.toList

/-- What the crates document. -/
structure Runtime.Documented (rt : Runtime) : Prop where
  headerValueFromStr_isOk : ∀ text,
    (∃ value, rt.headerValueFromStr text = .ok value) ↔ HeaderText text
  headerValueFromStr_text : ∀ text value,
    rt.headerValueFromStr text = .ok value → value.text = text
  withHeaders_status : ∀ headers res, (rt.withHeaders headers res).status = res.status
  withHeaders_body : ∀ headers res, (rt.withHeaders headers res).body = res.body
  withHeaders_headers : ∀ headers res name, (rt.withHeaders headers res).headers name =
    if headers name = [] then res.headers name else headers name
  catchPanic_ok : ∀ handler service req res, service req = .ok res →
    rt.catchPanic handler service req = .ok res
  catchPanic_panic : ∀ handler service req p, service req = .error p →
    rt.catchPanic handler service req = handler p

/-- The same crates over another store. -/
def Runtime.withBlob (rt : Runtime) (blob : StorageService → String → BlobResult) : Runtime :=
  { rt with blob }

theorem Runtime.Documented.withBlob {rt : Runtime} (h : rt.Documented)
    (blob : StorageService → String → BlobResult) : (rt.withBlob blob).Documented where
  headerValueFromStr_isOk := h.headerValueFromStr_isOk
  headerValueFromStr_text := h.headerValueFromStr_text
  withHeaders_status := h.withHeaders_status
  withHeaders_body := h.withHeaders_body
  withHeaders_headers := h.withHeaders_headers
  catchPanic_ok := h.catchPanic_ok
  catchPanic_panic := h.catchPanic_panic

namespace Runtime

/-- Crates that do what is documented, over an empty storage and with routes of
fixed paths and one wildcard. -/
def reference : Runtime where
  headerValueFromStr text :=
    if HeaderText text then .ok ⟨text⟩ else .error "InvalidHeaderValue"
  withHeaders headers res :=
    { res with headers := fun name =>
        if headers name = [] then res.headers name else headers name }
  catchPanic handler service req :=
    match service req with
    | .ok res => .ok res
    | .error p => handler p
  sampleString _ := ⟨"000000000000", by decide, List.all_eq_true.mp (by decide)⟩
  spanEnabled _ := true
  missingExtension := ⟨500, HeaderMap.empty, .text "Missing request extension"⟩
  fallback _ := .ok ⟨404, HeaderMap.empty, .empty⟩
  get handler req :=
    if req.method = "GET" then handler req else .ok ⟨405, HeaderMap.empty, .empty⟩
  selectRoute patterns req :=
    if req.path ∈ patterns then some req.path else patterns.find? (· = "/\x7b*file\x7d")
  extractPath req := .ok (String.ofList req.path.toList.tail)
  newSentryLayer service := service
  sentryHttpLayer service := service
  defaultContentType := "application/octet-stream"
  blob _ _ := .ok (.ok none)

theorem reference_documented : reference.Documented where
  headerValueFromStr_isOk text := by
    by_cases h : HeaderText text <;> simp [reference, h]
  headerValueFromStr_text text value h := by
    by_cases htext : HeaderText text
    · simp only [reference, htext, if_true, Except.ok.injEq] at h
      exact h ▸ rfl
    · simp [reference, htext] at h
  withHeaders_status _ _ := rfl
  withHeaders_body _ _ := rfl
  withHeaders_headers _ _ _ := rfl
  catchPanic_ok _ _ _ _ h := by simp [reference, h]
  catchPanic_panic _ _ _ _ h := by simp [reference, h]

end Runtime

end Hazel
