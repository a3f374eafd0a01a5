import Hazel.Server.Proxy

/-!
# The headers that leave the service

Below the layers of the router an answer has one header at most, the content
type. `request_id` adds its two, and nothing adds the configured ones.
-/

namespace Hazel

open Http

/-- What axum documents of the headers of its own answers. The two that it writes
beyond the layers, `content-length` and the `allow` of a 405, are not among them. -/
structure Runtime.DocumentedHeaders (rt : Runtime) : Prop where
  fallback : ∀ req res, rt.fallback req = .ok res → res.headers = HeaderMap.empty
  /-- Where the body is dropped, the headers stay. -/
  get_head : ∀ handler req, req.method = "HEAD" →
    (rt.get handler req).map Response.headers = (handler req).map Response.headers
  get_other : ∀ handler req res, req.method ≠ "GET" → req.method ≠ "HEAD" →
    rt.get handler req = .ok res → res.headers = HeaderMap.empty
  /-- A rejection is a text. -/
  extractPath_error : ∀ req rejection, rt.extractPath req = .error rejection →
    rejection.headers = HeaderMap.empty.insert "content-type" ⟨"text/plain; charset=utf-8"⟩

namespace Proxy

/-- The content type of what is answered, if anything is said of it. -/
def Site.contentType (site : Site) (method : String) (ask : Ask) : Option String :=
  if method = "GET" ∨ method = "HEAD" then
    match ask with
    | .outside => none
    | .malformed => some "text/plain; charset=utf-8"
    | .home | .health | .object _ => (site.reply ask).map Reply.contentType
  else none

/-- Each of the headers is one that the site sends by itself. -/
def Site.Sends (site : Site) (method : String) (ask : Ask) (headers : List (String × String)) :
    Prop :=
  ∀ entry ∈ headers, toAsciiLowercase entry.1 = "content-type" ∧
    site.contentType method ask = some entry.2

/-- The header of a content type. -/
def contentTypeHeader : Option String → HeaderMap
  | none => HeaderMap.empty
  | some contentType => HeaderMap.empty.insert "content-type" ⟨contentType⟩

theorem mem_contentTypeHeader_iff (contentType : Option String) (name value : String) :
    ⟨value⟩ ∈ contentTypeHeader contentType name ↔
      name = "content-type" ∧ contentType = some value := by
  cases contentType with
  | none => simp [contentTypeHeader, HeaderMap.empty]
  | some contentType =>
    rw [contentTypeHeader, HeaderMap.insert]
    by_cases h : name = "content-type"
    · subst h
      rw [Function.update_self]
      simp [eq_comm]
    · rw [Function.update_of_ne h]
      simp [HeaderMap.empty, h]

end Proxy

namespace Routes

open Proxy

variable {rt : Runtime} (build : Build) (storage : StorageService) (config : Config)
  {req : Request}

theorem caught_headers_congr {result result' : Except Panic Response}
    (h : result.map Response.headers = result'.map Response.headers) :
    (caught rt result).map Response.headers = (caught rt result').map Response.headers := by
  cases result with
  | ok res =>
    cases result' with
    | ok res' => exact h
    | error p' => cases h
  | error p =>
    cases result' with
    | ok res' => cases h
    | error p' =>
      cases h
      rfl

/-- What the handler of a path answers has the content type for its one header. -/
theorem handler_headers (hrt : rt.Documented) (hrouting : rt.DocumentedRouting)
    (hheaders : rt.DocumentedHeaders) {service : Service}
    (hservice : handler rt build (Ask.of req.path) = some service)
    {method : String} (hmethod : method = "GET" ∨ method = "HEAD") :
    (caught rt (service (requestBelow rt build storage config req))).map Response.headers =
      .ok (contentTypeHeader
        ((site rt build storage config.serverName).contentType method (Ask.of req.path))) := by
  obtain ⟨res, hres, hshows⟩ := handler_shows build storage config hrt hrouting hservice
  simp only [hres, Except.map, Site.contentType, if_pos hmethod]
  congr 1
  cases hask : Ask.of req.path with
  | home | health | object name =>
    rw [hask] at hshows
    exact hshows.headers
  | malformed =>
    rw [hask] at hshows
    obtain ⟨-, req', hreject⟩ := hshows
    exact hheaders.extractPath_error req' res hreject
  | outside => exact absurd hask (ne_outside_of_handler build hservice)

/-- Below the layers of the router nothing but the content type is written. -/
theorem answer_headers (hrt : rt.Documented) (hrouting : rt.DocumentedRouting)
    (hheaders : rt.DocumentedHeaders) :
    (answer rt build storage config req).map Response.headers =
      .ok (contentTypeHeader
        ((site rt build storage config.serverName).contentType req.method (Ask.of req.path))) := by
  have hmethod := requestBelow_method rt build storage config req
  rw [answer_eq_caught build storage config hrouting, endpoint_eq build hrouting]
  cases hservice : handler rt build (Ask.of req.path) with
  | none =>
    have houtside := (handler_eq_none_iff build).mp hservice
    obtain ⟨res, hres, -⟩ := hrouting.fallback (requestBelow rt build storage config req)
    have hempty := hheaders.fallback _ res hres
    simp only [hres, caught, Except.map, hempty, houtside, Site.contentType, ite_self,
      contentTypeHeader]
  | some service =>
    by_cases hget : req.method = "GET"
    · have hrun := hrouting.get_get service _ (hmethod.trans hget)
      simp only [hrun]
      exact handler_headers build storage config hrt hrouting hheaders hservice (.inl hget)
    by_cases hhead : req.method = "HEAD"
    · have hstripped := hheaders.get_head service _ (hmethod.trans hhead)
      calc (caught rt (rt.get service (requestBelow rt build storage config req))).map
            Response.headers
          = (caught rt (service (requestBelow rt build storage config req))).map
              Response.headers := caught_headers_congr hstripped
        _ = _ := handler_headers build storage config hrt hrouting hheaders hservice (.inr hhead)
    · obtain ⟨res, -, hrun⟩ := hrouting.get_other (requestBelow rt build storage config req)
        (hmethod ▸ hget) (hmethod ▸ hhead)
      have hempty := hheaders.get_other service _ res (hmethod ▸ hget) (hmethod ▸ hhead)
        (hrun service)
      simp only [hrun, caught, Except.map, hempty, Site.contentType,
        if_neg (not_or.mpr ⟨hget, hhead⟩), contentTypeHeader]

/-- Every configured header is among those of the response. -/
def CarriesHeaders (config : Config) (res : Response) : Prop :=
  ∀ entry ∈ config.server.headers, ⟨entry.2⟩ ∈ res.headers (toAsciiLowercase entry.1)

/-- Apart from the two that it sets itself, the service carries the configured
headers that the site sends anyway. -/
theorem carriesHeaders_iff (hrt : rt.Documented) (hrouting : rt.DocumentedRouting)
    (hdocumented : rt.DocumentedHeaders)
    (hheaders : ∀ entry ∈ config.server.headers,
      toAsciiLowercase entry.1 ≠ "x-request-id" ∧ toAsciiLowercase entry.1 ≠ "server")
    {inner res : Response} {id : Middlewares.XRequestId}
    (hinner : answer rt build storage config req = .ok inner) (h : Attaches id inner res) :
    CarriesHeaders config res ↔
      (site rt build storage config.serverName).Sends req.method (Ask.of req.path)
        config.server.headers := by
  have hwritten : (answer rt build storage config req).map Response.headers = _ :=
    answer_headers build storage config hrt hrouting hdocumented
  rw [hinner] at hwritten
  refine forall₂_congr fun entry hentry => ?_
  rw [h.others _ (hheaders entry hentry).1 (hheaders entry hentry).2, Except.ok.inj hwritten,
    mem_contentTypeHeader_iff]

/-- The service keeps what is answered below and carries the id, the server
name and the configured headers exactly when the server name is printable and
the configured headers are no more than the content type that the site sends
anyway. -/
theorem createRouter_carries_headers_iff (hrt : rt.Documented) (hrouting : rt.DocumentedRouting)
    (hdocumented : rt.DocumentedHeaders) (hversion : req.version ≠ .other)
    (hheaders : ∀ entry ∈ config.server.headers,
      toAsciiLowercase entry.1 ≠ "x-request-id" ∧ toAsciiLowercase entry.1 ≠ "server")
    {inner : Response} (hinner : answer rt build storage config req = .ok inner) :
    (∃ id res, (requestBelow rt build storage config req).extensions.requestId = some id ∧
      (createRouter rt build storage config).call rt.matcher req = .ok res ∧
      res.status = inner.status ∧ res.body = inner.body ∧
      (∃ value, res.headers "x-request-id" = [value] ∧ value.text = id.text) ∧
      (∃ value, res.headers "server" = [value]) ∧ CarriesHeaders config res) ↔
    config.ServerNamePrintable ∧
      (site rt build storage config.serverName).Sends req.method (Ask.of req.path)
        config.server.headers := by
  have hcarries {id : Middlewares.XRequestId} {res : Response} (h : Attaches id inner res) :=
    carriesHeaders_iff build storage config hrt hrouting hdocumented hheaders hinner h
  constructor
  · rintro ⟨id, res, -, hres, -, -, -, -, hconfigured⟩
    have hname := serverNamePrintable_of_ok build storage config hrt hres
    obtain ⟨id', res', -, hres', hattaches⟩ :=
      createRouter_eq_ok build storage config hrt hversion hname hinner
    obtain rfl : res' = res := Except.ok.inj (hres'.symm.trans hres)
    exact ⟨hname, (hcarries hattaches).mp hconfigured⟩
  · rintro ⟨hname, hsends⟩
    obtain ⟨id, res, hid, hres, hattaches⟩ :=
      createRouter_eq_ok build storage config hrt hversion hname hinner
    exact ⟨id, res, hid, hres, hattaches.status, hattaches.body, hattaches.requestId,
      hattaches.server, (hcarries hattaches).mpr hsends⟩

theorem routing_documentedHeaders : Runtime.routing.DocumentedHeaders where
  fallback _ res h := by
    cases h
    rfl
  get_head handler req h := by
    have hget : req.method ≠ "GET" := by
      rw [h]
      decide
    simp only [Runtime.routing, if_neg hget, if_pos h]
    cases handler req <;> rfl
  get_other handler req res hget hhead h := by
    simp only [Runtime.routing, if_neg hget, if_neg hhead, Except.ok.injEq] at h
    rw [← h]
  extractPath_error req rejection h := by
    simp only [Runtime.routing] at h
    split at h
    · cases h
    · cases h
      rfl

/-- A named server that is to append the content type of its health page. -/
def namedConfig : Config :=
  { Config.builtIn with
    serverName := some "acme"
    server := { Server.Config.default with
      headers := [("Content-Type", "text/plain; charset=utf-8")] } }

theorem createRouter_carries_headers_healthz :
    let storage : StorageService := .filesystem ⟨"./data"⟩
    let req := getRequest "/healthz"
    ∃ inner, answer Runtime.routing sampleBuild storage namedConfig req = .ok inner ∧
      ∃ id res, (requestBelow Runtime.routing sampleBuild storage namedConfig
          req).extensions.requestId = some id ∧
        (createRouter Runtime.routing sampleBuild storage namedConfig).call
          Runtime.routing.matcher req = .ok res ∧
        res.status = inner.status ∧ res.body = inner.body ∧
        (∃ value, res.headers "x-request-id" = [value] ∧ value.text = id.text) ∧
        (∃ value, res.headers "server" = [value]) ∧ CarriesHeaders namedConfig res := by
  intro storage req
  refine ⟨_, rfl, (createRouter_carries_headers_iff _ _ _ Runtime.routing_documented
    Runtime.routing_documentedRouting routing_documentedHeaders (by decide) (by decide) rfl).mpr
      ⟨by decide, ?_⟩⟩
  intro entry hentry
  obtain rfl := List.mem_singleton.mp hentry
  have hask : Ask.of req.path = .health := by decide
  rw [hask]
  exact ⟨by decide, rfl⟩

/-- A configured header does not leave the service. -/
theorem createRouter_drops_header :
    let config := { Config.builtIn with
      server := { Server.Config.default with headers := [("x-frame-options", "DENY")] } }
    ∃ res, (createRouter Runtime.reference sampleBuild (.filesystem ⟨"./data"⟩)
        config).call Runtime.reference.matcher (getRequest "/healthz") = .ok res ∧
      res.headers "x-frame-options" = [] ∧ ¬ CarriesHeaders config res := by
  refine ⟨_, rfl, by decide, fun h => ?_⟩
  exact absurd (h ("x-frame-options", "DENY") (List.mem_singleton_self _)) (by decide)

end Routes

end Hazel
