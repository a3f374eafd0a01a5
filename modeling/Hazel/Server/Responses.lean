import Hazel.Config.Document
import Hazel.Server.Routes

/-!
# What leaves the service

The answer of the service that `create_router` builds, from the answer of the
part of it below the layer that catches panics.
-/

namespace Hazel

open Http

section HeaderTexts

theorem headerText_append {s t : String} : HeaderText (s ++ t) ↔ HeaderText s ∧ HeaderText t := by
  simp only [HeaderText, String.toList_append, List.mem_append, or_imp, forall_and]

theorem not_isForbidden_of_isAlphanum {c : Char} (h : c.isAlphanum) : ¬ IsForbidden c := by
  delta Char.isAlphanum Char.isAlpha Char.isUpper Char.isLower Char.isDigit at h
  simp only [Bool.or_eq_true, Bool.and_eq_true, decide_eq_true_eq, ge_iff_le,
    UInt32.le_iff_toNat_le] at h
  change ((65 ≤ c.toNat ∧ c.toNat ≤ 90) ∨ (97 ≤ c.toNat ∧ c.toNat ≤ 122)) ∨
    (48 ≤ c.toNat ∧ c.toNat ≤ 57) at h
  unfold IsForbidden
  omega

theorem Middlewares.XRequestId.headerText (id : XRequestId) : HeaderText id.text :=
  fun c hc => not_isForbidden_of_isAlphanum (id.alphanumeric c hc)

theorem CommitHash.headerText (hash : CommitHash) : HeaderText hash.text := by
  have hdigits : HeaderText "0123456789abcdef" := by decide
  exact fun c hc => hdigits c (hash.hexadecimal c hc)

theorem Build.version_headerText (build : Build) : HeaderText build.version := by
  have hversion : HeaderText VERSION := by decide
  rw [Build.version]
  cases build.commitHash with
  | none => exact hversion
  | some hash =>
    exact headerText_append.mpr ⟨headerText_append.mpr ⟨hversion, by decide⟩, hash.headerText⟩

/-- The name of the server, if it has one, can stand in a header. -/
def Config.ServerNamePrintable (config : Config) : Prop :=
  ∀ name ∈ config.serverName, HeaderText name

instance (config : Config) : Decidable config.ServerNamePrintable :=
  Option.decidableForallMem config.serverName

/-- The server header is valid exactly when the configured name is. -/
theorem Middlewares.serverText_headerText_iff (build : Build) (config : Config) :
    HeaderText (serverText build config) ↔ config.ServerNamePrintable := by
  have hversion := build.version_headerText
  have hstart : HeaderText "Noelware/hazel" := by decide
  have hmiddle : HeaderText " (+https://github.com/Noelware/hazel; v" := by decide
  have hend : HeaderText ")" := by decide
  unfold serverText Config.ServerNamePrintable
  cases config.serverName with
  | none =>
    have hempty : HeaderText "" := by decide
    simp only [headerText_append, hstart, hempty, hmiddle, hversion, hend, Option.not_mem_none,
      false_implies, implies_true, and_self]
  | some name =>
    have hopen : HeaderText " [" := by decide
    have hclose : HeaderText "]" := by decide
    simp only [headerText_append, hstart, hopen, hclose, hmiddle, hversion, hend, true_and,
      and_true, Option.mem_some_iff, forall_eq']

end HeaderTexts

section Runtime

variable {rt : Runtime} (hrt : rt.Documented)
include hrt

/-- A header value from a text that can be one. -/
theorem Runtime.Documented.unwrap_headerValue {text : String} (h : HeaderText text) :
    ∃ value, unwrap (rt.headerValueFromStr text) = .ok value ∧ value.text = text := by
  obtain ⟨value, hvalue⟩ := (hrt.headerValueFromStr_isOk text).mpr h
  exact ⟨value, by rw [hvalue]; rfl, hrt.headerValueFromStr_text text value hvalue⟩

theorem Runtime.Documented.unwrap_headerValue_error {text : String} (h : ¬ HeaderText text) :
    ∃ p, unwrap (rt.headerValueFromStr text) = .error p := by
  cases hvalue : rt.headerValueFromStr text with
  | ok value => exact absurd ((hrt.headerValueFromStr_isOk text).mp ⟨value, hvalue⟩) h
  | error e => exact ⟨_, rfl⟩

/-- `panic_handler` does not panic, and answers with status 500. -/
theorem Routes.panicHandler_ok (p : Panic) :
    ∃ res, panicHandler rt p = .ok res ∧ res.status = 500 := by
  have htext : HeaderText "application/json; charset=utf-8" := by decide
  obtain ⟨value, hvalue, -⟩ := hrt.unwrap_headerValue htext
  exact ⟨_, by rw [panicHandler, buildResponse, hvalue]; rfl, rfl⟩

end Runtime

namespace Routes

section Answer

variable (rt : Runtime) (build : Build) (storage : StorageService) (config : Config)
  (req : Request)

/-- The routes of `create_router`, without its layers. -/
def routed : Router :=
  (⟨[], rt.fallback⟩ : Router)
    |>.route "/healthz" (rt.get healthz)
    |>.route "/\x7b*file\x7d" (rt.get (queryHandler rt))
    |>.route "/" (rt.get (main rt build))

/-- The service below the layer that catches panics. -/
def below : Service :=
  rt.sentryHttpLayer (rt.newSentryLayer ((routed rt build).endpoint rt.matcher req))

/-- The request that reaches `request_id`. -/
def requestWithExtensions : Request :=
  let req := (routed rt build).annotated rt.matcher req
  { req with extensions :=
      { req.extensions with config := some config, storage := some storage } }

/-- The request that reaches `below`. -/
def requestBelow : Request :=
  let req := requestWithExtensions rt build storage config req
  Middlewares.Request.withRequestId req (rt.sampleString req)

/-- What `below` answers, or `panic_handler` in its place. -/
def answer : Except Panic Response :=
  match below rt build req (requestBelow rt build storage config req) with
  | .ok res => .ok res
  | .error p => panicHandler rt p

theorem requestBelow_version :
    (requestBelow rt build storage config req).version = req.version := by
  simp only [requestBelow, requestWithExtensions, Middlewares.Request.withRequestId,
    Services.Router.annotated]
  cases (routed rt build).selected rt.matcher req <;> rfl

theorem createRouter_call : (createRouter rt build storage config).call rt.matcher req =
    Middlewares.requestId rt build
      (Middlewares.log rt (rt.catchPanic (panicHandler rt) (below rt build req)))
      (requestWithExtensions rt build storage config req) :=
  Services.Router.call_layers rt.matcher (routed rt build)
    [rt.newSentryLayer, rt.sentryHttpLayer, rt.catchPanic (panicHandler rt),
      Middlewares.log rt, Middlewares.requestId rt build, storageLayer storage,
      configLayer config] req

end Answer

variable {rt : Runtime} (build : Build) (storage : StorageService) (config : Config)
  {req : Request}

/-- `log` finds the request id and a known version, so it only passes on. -/
theorem log_eq (next : Service) {id : Middlewares.XRequestId}
    (hid : req.extensions.requestId = some id) (hversion : req.version ≠ .other) :
    Middlewares.log rt next req = next req := by
  have hspan : ∃ span, Middlewares.span (Middlewares.Metadata.fromRequestParts req) = .ok span := by
    simp only [Middlewares.span, Middlewares.Metadata.fromRequestParts, hid,
      Middlewares.httpVersion]
    cases hv : req.version with
    | other => exact absurd hv hversion
    | http09 | http10 | http11 | http2 | http3 => exact ⟨_, rfl⟩
  obtain ⟨span, hspan⟩ := hspan
  unfold Middlewares.log
  by_cases henabled : rt.spanEnabled req
  · rw [if_pos henabled, hspan]
    rfl
  · rw [if_neg henabled]

theorem catchPanic_eq (hrt : rt.Documented) (service : Service) (req : Request) :
    rt.catchPanic (panicHandler rt) service req =
      match service req with
      | .ok res => .ok res
      | .error p => panicHandler rt p := by
  cases hres : service req with
  | ok res => exact hrt.catchPanic_ok _ _ _ _ hres
  | error p => exact hrt.catchPanic_panic _ _ _ _ hres

theorem exists_answer (hrt : rt.Documented) :
    ∃ inner, answer rt build storage config req = .ok inner := by
  unfold answer
  cases below rt build req (requestBelow rt build storage config req) with
  | ok res => exact ⟨res, rfl⟩
  | error p =>
    obtain ⟨res, hres, -⟩ := panicHandler_ok hrt p
    exact ⟨res, hres⟩

/-- `res` is `inner` with one request id and one server header. -/
structure Attaches (id : Middlewares.XRequestId) (inner res : Response) : Prop where
  status : res.status = inner.status
  body : res.body = inner.body
  requestId : ∃ value, res.headers "x-request-id" = [value] ∧ value.text = id.text
  server : ∃ value, res.headers "server" = [value]
  others : ∀ name, name ≠ "x-request-id" → name ≠ "server" → res.headers name = inner.headers name

theorem withHeaders_attaches (hrt : rt.Documented) (id : Middlewares.XRequestId) (inner : Response)
    {idValue : HeaderValue} (hid : idValue.text = id.text) (serverValue : HeaderValue) :
    Attaches id inner (rt.withHeaders
      ((HeaderMap.empty.insert "x-request-id" idValue).insert "server" serverValue) inner) where
  status := hrt.withHeaders_status _ _
  body := hrt.withHeaders_body _ _
  requestId := by
    refine ⟨idValue, ?_, hid⟩
    rw [hrt.withHeaders_headers]
    simp [HeaderMap.insert, Function.update]
  server := by
    refine ⟨serverValue, ?_⟩
    rw [hrt.withHeaders_headers]
    simp [HeaderMap.insert, Function.update]
  others name hid hserver := by
    rw [hrt.withHeaders_headers]
    simp [HeaderMap.insert, HeaderMap.empty, Function.update, hid, hserver]

/-- With a printable server name, `request_id` adds its two headers to what
`next` answers the request with its id. -/
theorem requestId_eq (hrt : rt.Documented) (next : Service)
    (hconfig : req.extensions.config = some config) (hname : config.ServerNamePrintable) :
    ∃ idValue serverValue, idValue.text = (rt.sampleString req).text ∧
      Middlewares.requestId rt build next req =
        (next (Middlewares.Request.withRequestId req (rt.sampleString req))).map (rt.withHeaders
          ((HeaderMap.empty.insert "x-request-id" idValue).insert "server" serverValue)) := by
  obtain ⟨idValue, hidValue, hid⟩ := hrt.unwrap_headerValue (rt.sampleString req).headerText
  obtain ⟨serverValue, hserverValue, -⟩ := hrt.unwrap_headerValue
    ((Middlewares.serverText_headerText_iff build config).mpr hname)
  refine ⟨idValue, serverValue, hid, ?_⟩
  simp only [Middlewares.requestId, hconfig, Middlewares.XRequestId.intoHeaderValue, hidValue,
    hserverValue, Except.bind, bind, pure, Except.pure]
  cases next (Middlewares.Request.withRequestId req (rt.sampleString req)) <;> rfl

theorem requestId_panics (hrt : rt.Documented) (next : Service)
    (hconfig : req.extensions.config = some config) (hname : ¬ config.ServerNamePrintable) :
    ∃ p, Middlewares.requestId rt build next req = .error p := by
  obtain ⟨idValue, hidValue, -⟩ := hrt.unwrap_headerValue (rt.sampleString req).headerText
  obtain ⟨p, hp⟩ := hrt.unwrap_headerValue_error
    (mt (Middlewares.serverText_headerText_iff build config).mp hname)
  refine ⟨p, ?_⟩
  simp only [Middlewares.requestId, hconfig, Middlewares.XRequestId.intoHeaderValue, hidValue,
    hp, Except.bind, bind]

/-- With a printable server name the service answers with what is answered
below, and its own two headers. -/
theorem createRouter_eq_ok (hrt : rt.Documented) (hversion : req.version ≠ .other)
    (hname : config.ServerNamePrintable) {inner : Response}
    (hinner : answer rt build storage config req = .ok inner) :
    ∃ id res, (requestBelow rt build storage config req).extensions.requestId = some id ∧
      (createRouter rt build storage config).call rt.matcher req = .ok res ∧
      Attaches id inner res := by
  -- `log` runs inside `request_id`, so the id it unwraps is there
  have hbelow : Middlewares.log rt (rt.catchPanic (panicHandler rt) (below rt build req))
      (requestBelow rt build storage config req) = .ok inner := by
    rw [log_eq _ rfl (requestBelow_version rt build storage config req ▸ hversion),
      catchPanic_eq hrt]
    exact hinner
  obtain ⟨idValue, serverValue, hid, heq⟩ := requestId_eq build config hrt
    (Middlewares.log rt (rt.catchPanic (panicHandler rt) (below rt build req)))
    (show (requestWithExtensions rt build storage config req).extensions.config = some config
      from rfl) hname
  refine ⟨_, _, rfl, ?_, withHeaders_attaches hrt _ inner hid serverValue⟩
  rw [createRouter_call, heq]
  exact congrArg (Except.map _) hbelow

/-- Any other server name panics outside the layer that catches panics. -/
theorem createRouter_panics (hrt : rt.Documented) (req : Request)
    (hname : ¬ config.ServerNamePrintable) :
    ∃ p, (createRouter rt build storage config).call rt.matcher req = .error p := by
  rw [createRouter_call]
  exact requestId_panics build config hrt _ rfl hname

theorem serverNamePrintable_of_ok (hrt : rt.Documented) {res : Response}
    (hres : (createRouter rt build storage config).call rt.matcher req = .ok res) :
    config.ServerNamePrintable := by
  by_contra hname
  obtain ⟨p, hp⟩ := createRouter_panics build storage config hrt req hname
  rw [hp] at hres
  cases hres

/-- A panic below the catching layer is answered as `panic_handler` does. -/
def AnswersPanic (rt : Runtime) (build : Build) (storage : StorageService) (config : Config)
    (req : Request) (res : Response) : Prop :=
  ∀ p, below rt build req (requestBelow rt build storage config req) = .error p →
    ∃ handled, panicHandler rt p = .ok handled ∧ handled.status = 500 ∧
      res.status = handled.status ∧ res.body = handled.body

/-- The service responds, to panics below with status 500, exactly when the
server name is printable. -/
theorem createRouter_responds_iff (hrt : rt.Documented) (hversion : req.version ≠ .other) :
    (∃ res, (createRouter rt build storage config).call rt.matcher req = .ok res ∧
      AnswersPanic rt build storage config req res) ↔ config.ServerNamePrintable := by
  constructor
  · rintro ⟨res, hres, -⟩
    exact serverNamePrintable_of_ok build storage config hrt hres
  · intro hname
    obtain ⟨inner, hinner⟩ := exists_answer build storage config hrt
    obtain ⟨id, res, -, hres, hattaches⟩ :=
      createRouter_eq_ok build storage config hrt hversion hname hinner
    refine ⟨res, hres, fun p hp => ?_⟩
    obtain ⟨handled, hhandled, hstatus⟩ := panicHandler_ok hrt p
    obtain rfl : handled = inner := by
      rw [answer, hp] at hinner
      exact Except.ok.inj (hhandled.symm.trans hinner)
    exact ⟨handled, hhandled, hstatus, hattaches.status, hattaches.body⟩

/-- `GET` over HTTP/1.1. -/
def getRequest (path : String) : Request where
  method := "GET"
  path := path
  version := .http11
  headers := HeaderMap.empty
  extensions := ⟨none, none, none, none⟩

def sampleBuild : Build := ⟨none, "2025-01-01T00:00:00+00:00"⟩

/-- A store that panics, behind a named server. -/
theorem createRouter_responds_dots :
    let rt := Runtime.reference.withBlob fun _ _ =>
      .error ⟨"called `Option::unwrap()` on a `None` value"⟩
    let config := { Config.builtIn with serverName := some "acme" }
    ∃ res, (createRouter rt sampleBuild (.filesystem ⟨"./data"⟩) config).call rt.matcher
        (getRequest "/nope/..") = .ok res ∧
      AnswersPanic rt sampleBuild (.filesystem ⟨"./data"⟩) config (getRequest "/nope/..") res :=
  (createRouter_responds_iff _ _ _ (Runtime.reference_documented.withBlob _)
    (by decide)).mpr (by decide)

/-- A server name of two lines is loaded, and then every request panics. -/
theorem createRouter_panics_on_lines :
    let config := { Config.builtIn with serverName := some "a\nb" }
    (Config.tryFromEnv Crates.reference).run (Environment.of [(SERVER_NAME, .ok "a\nb")]) =
        .ok config ∧
      ¬ ∃ res, (createRouter Runtime.reference sampleBuild (.filesystem ⟨"./data"⟩)
        config).call Runtime.reference.matcher (getRequest "/healthz") = .ok res := by
  refine ⟨rfl, ?_⟩
  rintro ⟨res, hres⟩
  -- the line break is a control character
  have hname : ¬ { Config.builtIn with serverName := some "a\nb" }.ServerNamePrintable := by
    decide
  exact hname (serverNamePrintable_of_ok _ _ _ Runtime.reference_documented hres)

end Routes

end Hazel
