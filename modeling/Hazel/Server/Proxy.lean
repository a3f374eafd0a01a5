import Hazel.Lib.Percent
import Hazel.Server.Lookup
import Hazel.Server.Responses

/-!
# The service as a proxy

What the service is for: a site of two pages and of the objects that a store
holds under their names. The router that `create_router` builds, with axum
around it, answers every request as the site does.
-/

namespace Hazel

open Http

/-- The one of the three routes of `create_router` that axum takes for a path.
A path that is listed as it is goes before the wildcard, and the wildcard
matches no empty rest. -/
def routePattern (path : String) : Option String :=
  if path = "/" then some "/"
  else if path = "/healthz" then some "/healthz"
  else if path.toList.head? = some '/' then some "/\x7b*file\x7d"
  else none

/-- What the crates document of how a request gets to its handler. -/
structure Runtime.DocumentedRouting (rt : Runtime) : Prop where
  selectRoute : ∀ req,
    rt.selectRoute ["/healthz", "/\x7b*file\x7d", "/"] req = routePattern req.path
  get_get : ∀ handler req, req.method = "GET" → rt.get handler req = handler req
  /-- The handler of `GET` takes `HEAD` too, and the body is dropped. -/
  get_head : ∀ req, req.method = "HEAD" → ∃ strip : Response → Response,
    (∀ res, (strip res).status = res.status) ∧
      ∀ handler, rt.get handler req = (handler req).map strip
  get_other : ∀ req, req.method ≠ "GET" → req.method ≠ "HEAD" →
    ∃ res, res.status = 405 ∧ ∀ handler, rt.get handler req = .ok res
  /-- The wildcard's text is percent-decoded. -/
  extractPath_ok : ∀ req rest path, routePattern req.path = some "/\x7b*file\x7d" →
    req.path = "/" ++ rest → Percent.decode rest = some path → rt.extractPath req = .ok path
  extractPath_error : ∀ req rest, routePattern req.path = some "/\x7b*file\x7d" →
    req.path = "/" ++ rest → Percent.decode rest = none →
      ∃ rejection, rt.extractPath req = .error rejection ∧ rejection.status = 400
  fallback : ∀ req, ∃ res, rt.fallback req = .ok res ∧ res.status = 404
  newSentryLayer : ∀ service req, rt.newSentryLayer service req = service req
  sentryHttpLayer : ∀ service req, rt.sentryHttpLayer service req = service req

theorem Runtime.DocumentedRouting.withBlob {rt : Runtime} (h : rt.DocumentedRouting)
    (blob : StorageService → String → BlobResult) : (rt.withBlob blob).DocumentedRouting where
  selectRoute := h.selectRoute
  get_get := h.get_get
  get_head := h.get_head
  get_other := h.get_other
  extractPath_ok := h.extractPath_ok
  extractPath_error := h.extractPath_error
  fallback := h.fallback
  newSentryLayer := h.newSentryLayer
  sentryHttpLayer := h.sentryHttpLayer

/-- The reference crates with axum's routing, over a store of one object. -/
def Runtime.routing : Runtime :=
  { Runtime.reference with
    get handler req :=
      if req.method = "GET" then handler req
      else if req.method = "HEAD" then (handler req).map fun res => { res with body := .empty }
      else .ok ⟨405, HeaderMap.empty, .empty⟩
    selectRoute _ req := routePattern req.path
    extractPath req :=
      match Percent.decode (String.ofList req.path.toList.tail) with
      | some path => .ok path
      | none => .error {
          status := 400
          headers := HeaderMap.empty.insert "content-type" ⟨"text/plain; charset=utf-8"⟩
          body := .text "Invalid UTF-8 in path" }
    blob _ name := .ok (.ok
      (if name = "./hello.txt" then some (.file (some "text/plain") [104, 105]) else none)) }

theorem Runtime.routing_documented : Runtime.routing.Documented where
  headerValueFromStr_isOk := reference_documented.headerValueFromStr_isOk
  headerValueFromStr_text := reference_documented.headerValueFromStr_text
  withHeaders_status := reference_documented.withHeaders_status
  withHeaders_body := reference_documented.withHeaders_body
  withHeaders_headers := reference_documented.withHeaders_headers
  catchPanic_ok := reference_documented.catchPanic_ok
  catchPanic_panic := reference_documented.catchPanic_panic

theorem Runtime.routing_documentedRouting : Runtime.routing.DocumentedRouting where
  selectRoute _ := rfl
  get_get _ _ h := if_pos h
  get_head req h := by
    refine ⟨fun res => { res with body := .empty }, fun _ => rfl, fun handler => ?_⟩
    simp [routing, h]
  get_other req hget hhead :=
    ⟨⟨405, HeaderMap.empty, .empty⟩, rfl, fun handler => by simp [routing, hget, hhead]⟩
  extractPath_ok req rest path _ hpath hdecode := by
    have hrest : String.ofList req.path.toList.tail = rest := by simp [hpath]
    simp only [routing, hrest, hdecode]
  extractPath_error req rest _ hpath hdecode := by
    have hrest : String.ofList req.path.toList.tail = rest := by simp [hpath]
    simp only [routing, hrest, hdecode]
    exact ⟨_, rfl, rfl⟩
  fallback _ := ⟨_, rfl, rfl⟩
  newSentryLayer _ _ := rfl
  sentryHttpLayer _ _ := rfl

namespace Proxy

/-- What a path asks a site for. -/
inductive Ask where
  | home
  | health
  | object (name : String)
  | malformed
  | outside
  deriving DecidableEq, Repr

/-- The object that a decoded path names has no slash in front. -/
def Ask.of (path : String) : Ask :=
  match path.toList with
  | '/' :: rest =>
    if rest = [] then .home
    else if rest = "healthz".toList then .health
    else
      match Percent.decode (String.ofList rest) with
      | some decoded => .object (Routes.trimSlashes decoded)
      | none => .malformed
  | _ => .outside

/-- What a store has under a name, or that looking there makes it panic. -/
inductive Held where
  | file (contentType : String) (data : List UInt8)
  | nothing
  | unreadable
  | panics
  deriving DecidableEq, Repr

structure Reply where
  status : Nat
  contentType : String
  body : Body

/-- A site: its page, what it calls an object in a reply, and the store. -/
structure Site where
  home : Json
  shown : String → String
  held : String → Held

def Reply.json (status : Nat) (value : Json) : Reply := ⟨status, "application/json", .json value⟩

/-- The reply where the store panics or a content type cannot stand in a header. -/
def Reply.failed : Reply :=
  ⟨500, "application/json; charset=utf-8", .json (.object [
    ("status", .string "failed"),
    ("message", .string "was unable to complete request"),
    ("context", .object [
      ("new_issue_uri", .string "https://github.com/Noelware/hazel/issues/new")])])⟩

namespace Site

variable (site : Site)

def fetch (name : String) : Reply :=
  match site.held name with
  | .file contentType data =>
    if HeaderText contentType then ⟨200, contentType, .bytes data⟩ else .failed
  | .nothing => .json 404 (.object [
      ("status", .string "not_found"),
      ("message", .string "object was not found"),
      ("context", .object [("query", .string (site.shown name))])])
  | .unreadable => .json 500 (.object [
      ("status", .string "failed"),
      ("message", .string "unable to perform lookup on query! try again later maybe?"),
      ("context", .object [("query", .string (site.shown name))])])
  | .panics => .failed

/-- The reply of the site itself, if it comes to that. -/
def reply : Ask → Option Reply
  | .home => some (.json 200 site.home)
  | .health => some ⟨200, "text/plain; charset=utf-8", .text "Ok."⟩
  | .object name => some (site.fetch name)
  | .malformed | .outside => none

def status (method : String) (ask : Ask) : Nat :=
  if ask = .outside then 404
  else if method = "GET" ∨ method = "HEAD" then
    match site.reply ask with
    | some reply => reply.status
    | none => 400
  else 405

/-- A response is the one the site has for the method and the path. -/
structure Answers (method : String) (ask : Ask) (res : Response) : Prop where
  status : res.status = site.status method ask
  content : method = "GET" → ∀ reply, site.reply ask = some reply →
    res.headers "content-type" = [⟨reply.contentType⟩] ∧ res.body = reply.body

end Site

end Proxy

namespace Routes

open Proxy

/-- What the storage service has under the name of an object. -/
def held (rt : Runtime) (storage : StorageService) (name : String) : Held :=
  match rt.blob storage (backendPrefix storage ++ name) with
  | .ok (.ok (some (.file contentType data))) =>
    .file (contentType.getD rt.defaultContentType) data
  | .ok (.ok (some .directory)) => .nothing
  | .ok (.ok none) => .nothing
  | .ok (.error _) => .unreadable
  | .error _ => .panics

/-- The site that a configuration sets up: of the settings, only the name of the
server and the storage have a part in it. -/
def site (rt : Runtime) (build : Build) (storage : StorageService) (serverName : Option String) :
    Site where
  home := .object [
    ("hello", .string "world"),
    ("server", .string (serverName.getD "unknown")),
    ("build", .object [
      ("version", .string build.version),
      ("timestamp", .string build.timestamp)])]
  shown name := backendPrefix storage ++ name
  held := held rt storage

section Requests

variable (rt : Runtime) (build : Build) (storage : StorageService) (config : Config)
  (req : Request)

theorem annotated_path : ((routed rt build).annotated rt.matcher req).path = req.path := by
  unfold Services.Router.annotated
  cases (routed rt build).selected rt.matcher req <;> rfl

theorem annotated_method : ((routed rt build).annotated rt.matcher req).method = req.method := by
  unfold Services.Router.annotated
  cases (routed rt build).selected rt.matcher req <;> rfl

theorem requestBelow_path :
    (requestBelow rt build storage config req).path = req.path :=
  annotated_path rt build req

theorem requestBelow_method :
    (requestBelow rt build storage config req).method = req.method :=
  annotated_method rt build req

theorem requestBelow_storage :
    (requestBelow rt build storage config req).extensions.storage = some storage := rfl

end Requests

/-- The handler for what a path asks for. -/
def handler (rt : Runtime) (build : Build) : Ask → Option Service
  | .home => some (main rt build)
  | .health => some healthz
  | .object _ | .malformed => some (queryHandler rt)
  | .outside => none

variable {rt : Runtime} (build : Build) (storage : StorageService) (config : Config)
  {req : Request}

/-- The four kinds of paths, by what they ask for and the route that axum takes. -/
inductive Routed (path : String) : Ask → Option String → Prop where
  | home (h : path = "/") : Routed path .home (some "/")
  | health (h : path = "/healthz") : Routed path .health (some "/healthz")
  | object {rest decoded : String} (h : path = "/" ++ rest)
    (hdecoded : Percent.decode rest = some decoded) :
    Routed path (.object (trimSlashes decoded)) (some "/\x7b*file\x7d")
  | malformed {rest : String} (h : path = "/" ++ rest) (hdecoded : Percent.decode rest = none) :
    Routed path .malformed (some "/\x7b*file\x7d")
  | outside : Routed path .outside none

theorem routed_of (path : String) : Routed path (Ask.of path) (routePattern path) := by
  by_cases hhome : path = "/"
  · subst hhome
    exact .home rfl
  by_cases hhealth : path = "/healthz"
  · subst hhealth
    exact .health rfl
  rw [routePattern, if_neg hhome, if_neg hhealth]
  unfold Ask.of
  cases hchars : path.toList with
  | nil => exact .outside
  | cons c rest =>
    by_cases hslash : c = '/'
    · subst hslash
      have hpath : path = "/" ++ String.ofList rest := by
        apply String.toList_injective
        simp [hchars]
      have hrest : rest ≠ [] := by
        intro heq
        rw [heq] at hpath
        exact hhome hpath
      have hname : rest ≠ "healthz".toList := by
        intro heq
        rw [heq] at hpath
        exact hhealth hpath
      simp only [if_neg hrest, if_neg hname, List.head?_cons, if_true]
      cases hdecoded : Percent.decode (String.ofList rest) with
      | some decoded => exact .object hpath hdecoded
      | none => exact .malformed hpath hdecoded
    · have hhead : (c :: rest).head? ≠ some '/' := by
        intro heq
        exact hslash (Option.some.inj heq)
      rw [if_neg hhead]
      split
      · next heq => exact absurd (List.cons.inj heq).1 hslash
      · exact .outside

theorem endpoint_eq (hrouting : rt.DocumentedRouting) :
    (routed rt build).endpoint rt.matcher req =
      match handler rt build (Ask.of req.path) with
      | some handler => rt.get handler
      | none => rt.fallback := by
  have hselected : (routed rt build).selected rt.matcher req = routePattern req.path :=
    hrouting.selectRoute req
  have hrouted := routed_of req.path
  rw [Services.Router.endpoint, hselected]
  generalize routePattern req.path = pattern at hrouted
  generalize Ask.of req.path = ask at hrouted
  cases hrouted <;> rfl

/-- What a handler answers, or `panic_handler` in its place. -/
def caught (rt : Runtime) : Except Panic Response → Except Panic Response
  | .ok res => .ok res
  | .error p => panicHandler rt p

/-- The response is a reply of the site, with its content type for a header. -/
structure Shows (reply : Reply) (res : Response) : Prop where
  status : res.status = reply.status
  headers : res.headers = HeaderMap.empty.insert "content-type" ⟨reply.contentType⟩
  body : res.body = reply.body

theorem Shows.contentType {reply : Reply} {res : Response} (h : Shows reply res) :
    res.headers "content-type" = [⟨reply.contentType⟩] := by
  rw [h.headers, HeaderMap.insert, Function.update_self]

theorem jsonResponse_shows (status : Nat) (value : Json) :
    Shows (.json status value) (jsonResponse status value) where
  status := rfl
  headers := rfl
  body := rfl

theorem buildResponse_shows (hrt : rt.Documented) (status : Nat) {contentType : String}
    (h : HeaderText contentType) (body : Body) :
    ∃ res, buildResponse rt status "content-type" contentType body = .ok res ∧
      Shows ⟨status, contentType, body⟩ res := by
  obtain ⟨value, hvalue, htext⟩ := hrt.unwrap_headerValue h
  refine ⟨_, by rw [buildResponse, hvalue]; rfl, rfl, ?_, rfl⟩
  subst htext
  -- one more value, where there was none
  rfl

theorem panicHandler_shows (hrt : rt.Documented) (p : Panic) :
    ∃ res, panicHandler rt p = .ok res ∧ Shows .failed res :=
  buildResponse_shows hrt 500 (by decide) _

theorem caught_buildResponse_shows (hrt : rt.Documented) (contentType : String)
    (data : List UInt8) :
    ∃ res, caught rt (buildResponse rt 200 "content-type" contentType (.bytes data)) = .ok res ∧
      Shows (if HeaderText contentType then ⟨200, contentType, .bytes data⟩ else .failed) res := by
  by_cases h : HeaderText contentType
  · obtain ⟨res, hres, hshows⟩ := buildResponse_shows hrt 200 h (.bytes data)
    rw [if_pos h, hres]
    exact ⟨res, rfl, hshows⟩
  -- the `unwrap` of the response's body panics
  · obtain ⟨p, hp⟩ := hrt.unwrap_headerValue_error h
    obtain ⟨res, hres, hshows⟩ := panicHandler_shows hrt p
    have herror : buildResponse rt 200 "content-type" contentType (.bytes data) = .error p := by
      rw [buildResponse, hp]
      rfl
    rw [if_neg h, herror]
    exact ⟨res, hres, hshows⟩

/-- The handler of an object answers as the site fetches it. -/
theorem query_shows (hrt : rt.Documented) (serverName : Option String) (path : String) :
    ∃ res, caught rt ((query rt storage path).run (rt.blob storage)) = .ok res ∧
      Shows ((site rt build storage serverName).fetch (trimSlashes path)) res := by
  rw [query, Query.Prog.run_lookup_bind, queryString_eq]
  simp only [Site.fetch, site, held]
  rcases rt.blob storage (backendPrefix storage ++ trimSlashes path) with p | e | _ | _ | _
  · exact panicHandler_shows hrt p
  · exact ⟨_, rfl, jsonResponse_shows 500 _⟩
  · exact ⟨_, rfl, jsonResponse_shows 404 _⟩
  · exact caught_buildResponse_shows hrt _ _
  · exact ⟨_, rfl, jsonResponse_shows 404 _⟩

/-- What a path asks for is answered by its handler: as the site replies, or
with axum's rejection of a text that is not UTF-8. -/
theorem handler_shows (hrt : rt.Documented) (hrouting : rt.DocumentedRouting) {service : Service}
    (hservice : handler rt build (Ask.of req.path) = some service) :
    ∃ res, caught rt (service (requestBelow rt build storage config req)) = .ok res ∧
      match (site rt build storage config.serverName).reply (Ask.of req.path) with
      | some reply => Shows reply res
      | none => res.status = 400 ∧ ∃ req', rt.extractPath req' = .error res := by
  have hpath := requestBelow_path rt build storage config req
  have hrouted := routed_of req.path
  generalize hpattern : routePattern req.path = pattern at hrouted
  generalize Ask.of req.path = ask at hrouted hservice
  cases hrouted with
  | home =>
    cases hservice
    exact ⟨_, rfl, jsonResponse_shows 200 _⟩
  | health =>
    cases hservice
    exact ⟨_, rfl, rfl, rfl, rfl⟩
  | object hrest hdecoded =>
    cases hservice
    rw [← hpath] at hpattern hrest
    have hextract := hrouting.extractPath_ok _ _ _ hpattern hrest hdecoded
    simp only [queryHandler, hextract, requestBelow_storage]
    exact query_shows build storage hrt config.serverName _
  | malformed hrest hdecoded =>
    cases hservice
    rw [← hpath] at hpattern hrest
    obtain ⟨rejection, hreject, hstatus⟩ :=
      hrouting.extractPath_error _ _ hpattern hrest hdecoded
    simp only [queryHandler, hreject]
    exact ⟨rejection, rfl, hstatus, _, hreject⟩
  | outside => cases hservice

/-- The layers of sentry pass on. -/
theorem below_eq_endpoint (hrouting : rt.DocumentedRouting) (req' : Request) :
    below rt build req req' = (routed rt build).endpoint rt.matcher req req' := by
  rw [below, hrouting.sentryHttpLayer, hrouting.newSentryLayer]

theorem answer_eq_caught (hrouting : rt.DocumentedRouting) :
    answer rt build storage config req =
      caught rt ((routed rt build).endpoint rt.matcher req
        (requestBelow rt build storage config req)) := by
  rw [answer, below_eq_endpoint build hrouting]
  cases (routed rt build).endpoint rt.matcher req (requestBelow rt build storage config req) <;> rfl

/-- Only what is outside the three routes has no handler. -/
theorem handler_eq_none_iff {ask : Ask} : handler rt build ask = none ↔ ask = .outside := by
  cases ask <;> simp [handler]

theorem ne_outside_of_handler {ask : Ask} {service : Service}
    (h : handler rt build ask = some service) : ask ≠ .outside := by
  intro houtside
  rw [(handler_eq_none_iff build).mpr houtside] at h
  cases h

theorem status_of_shows {site : Site} {ask : Ask} {res : Response} (hask : ask ≠ .outside)
    {method : String} (hmethod : method = "GET" ∨ method = "HEAD")
    (h : match site.reply ask with
      | some reply => Shows reply res
      | none => res.status = 400 ∧ ∃ req', rt.extractPath req' = .error res) :
    res.status = site.status method ask := by
  rw [Site.status, if_neg hask, if_pos hmethod]
  cases hreply : site.reply ask with
  | none =>
    rw [hreply] at h
    exact h.1
  | some reply =>
    rw [hreply] at h
    exact h.status

/-- What is answered below the layers of the router is the answer of the site. -/
theorem answer_answers (hrt : rt.Documented) (hrouting : rt.DocumentedRouting) :
    ∃ inner, answer rt build storage config req = .ok inner ∧
      (site rt build storage config.serverName).Answers req.method (Ask.of req.path) inner := by
  have hmethod := requestBelow_method rt build storage config req
  rw [answer_eq_caught build storage config hrouting, endpoint_eq build hrouting]
  cases hservice : handler rt build (Ask.of req.path) with
  | none =>
    have houtside := (handler_eq_none_iff build).mp hservice
    obtain ⟨res, hres, hstatus⟩ :=
      hrouting.fallback (requestBelow rt build storage config req)
    simp only [houtside, hres]
    exact ⟨res, rfl, hstatus, fun _ _ hreply => absurd hreply (Option.some_ne_none _).symm⟩
  | some service =>
    have hask := ne_outside_of_handler build hservice
    obtain ⟨res, hres, hshows⟩ := handler_shows build storage config hrt hrouting hservice
    by_cases hget : req.method = "GET"
    · have hrun := hrouting.get_get service _ (hmethod.trans hget)
      simp only [hrun]
      refine ⟨res, hres, status_of_shows hask (.inl hget) hshows, fun _ reply hreply => ?_⟩
      rw [hreply] at hshows
      exact ⟨hshows.contentType, hshows.body⟩
    by_cases hhead : req.method = "HEAD"
    · obtain ⟨strip, hstrip, hrun⟩ := hrouting.get_head _ (hmethod.trans hhead)
      simp only [hrun]
      have hstatus := status_of_shows hask (.inr hhead) hshows
      -- a panic passes by what drops the body
      cases hserved : service (requestBelow rt build storage config req) with
      | ok served =>
        rw [hserved] at hres
        cases hres
        exact ⟨strip res, rfl, (hstrip res).trans hstatus, fun h => absurd h hget⟩
      | error p =>
        rw [hserved] at hres
        exact ⟨res, hres, hstatus, fun h => absurd h hget⟩
    · obtain ⟨res, hstatus, hrun⟩ := hrouting.get_other (requestBelow rt build storage config req)
        (hmethod ▸ hget) (hmethod ▸ hhead)
      simp only [hrun]
      refine ⟨res, rfl, ?_, fun h => absurd h hget⟩
      rw [Site.status, if_neg hask, if_neg (not_or.mpr ⟨hget, hhead⟩)]
      exact hstatus

/-- The service answers every request as the site that the configuration sets up. -/
theorem createRouter_answers (hrt : rt.Documented) (hrouting : rt.DocumentedRouting)
    (hversion : req.version ≠ .other) (hname : config.ServerNamePrintable) :
    ∃ res, (createRouter rt build storage config).call rt.matcher req = .ok res ∧
      (site rt build storage config.serverName).Answers req.method (Ask.of req.path) res := by
  obtain ⟨inner, hinner, hanswers⟩ := answer_answers build storage config hrt hrouting
  obtain ⟨id, res, -, hres, hattaches⟩ :=
    createRouter_eq_ok build storage config hrt hversion hname hinner
  refine ⟨res, hres, hattaches.status.trans hanswers.status, fun hget reply hreply => ?_⟩
  obtain ⟨hcontentType, hbody⟩ := hanswers.content hget reply hreply
  have hkept := hattaches.others "content-type" (by decide) (by decide)
  exact ⟨hkept.trans hcontentType, hattaches.body.trans hbody⟩

/-- The service answers a request as the site does exactly when the name of the
server can stand in a header. The other settings, the storage apart, have no
part in what it answers. -/
theorem createRouter_refines_site_iff (hrt : rt.Documented) (hrouting : rt.DocumentedRouting)
    (hversion : req.version ≠ .other) :
    (∃ res, (createRouter rt build storage config).call rt.matcher req = .ok res ∧
      (site rt build storage config.serverName).Answers req.method (Ask.of req.path) res) ↔
    config.ServerNamePrintable := by
  constructor
  · intro ⟨res, hres, _⟩
    exact serverNamePrintable_of_ok build storage config hrt hres
  · exact createRouter_answers build storage config hrt hrouting hversion

theorem createRouter_refines_site_hello :
    let config := { Config.builtIn with serverName := some "acme" }
    let req := getRequest "/hello.txt"
    ∃ res, (createRouter .routing sampleBuild (.filesystem ⟨"./data"⟩) config).call
        Runtime.routing.matcher req = .ok res ∧
      (site .routing sampleBuild (.filesystem ⟨"./data"⟩) config.serverName).Answers
        req.method (Ask.of req.path) res :=
  (createRouter_refines_site_iff _ _ _ Runtime.routing_documented
    Runtime.routing_documentedRouting Version.noConfusion).mpr (by decide)

/-- The path behind a second slash asks for the object of the decoded name,
`healthz` included. -/
theorem ask_of_encode {name : String} (h : name.toList.head? ≠ some '/') :
    Ask.of ("//" ++ Percent.encode name) = .object name := by
  have hchars : ("//" ++ Percent.encode name).toList =
      '/' :: ("/" ++ Percent.encode name).toList := by simp
  have hrest : ("/" ++ Percent.encode name).toList ≠ [] := by simp
  have hhealth : ("/" ++ Percent.encode name).toList ≠ "healthz".toList := by
    simp [String.toList_append]
  have hdecode : Percent.decode ("/" ++ Percent.encode name) = some ("/" ++ name) :=
    Percent.decode_append_encode (by decide) name
  unfold Ask.of
  rw [hchars]
  simp only [if_neg hrest, if_neg hhealth, String.ofList_toList, hdecode]
  rw [trimSlashes_slash, trimSlashes_eq_self h]

/-- The one reply with the bytes of an object is the one with status 200 that
fetches it. -/
theorem reply_bytes {serverName : Option String} {ask : Ask} {reply : Reply} {data : List UInt8}
    (hreply : (site rt build storage serverName).reply ask = some reply)
    (hbody : reply.body = .bytes data) :
    ∃ name, ask = .object name ∧ held rt storage name = .file reply.contentType data ∧
      HeaderText reply.contentType := by
  cases ask with
  | home | health =>
    cases hreply
    cases hbody
  | malformed | outside => cases hreply
  | object name =>
    cases hreply
    refine ⟨name, rfl, ?_⟩
    unfold Site.fetch at hbody ⊢
    cases hheld : held rt storage name with
    | nothing | unreadable | panics =>
      simp only [site, hheld] at hbody
      cases hbody
    | file contentType stored =>
      simp only [site, hheld] at hbody ⊢
      by_cases htext : HeaderText contentType
      · rw [if_pos htext] at hbody ⊢
        cases hbody
        exact ⟨rfl, htext⟩
      · rw [if_neg htext] at hbody
        cases hbody

/-- Where axum replies by itself, the status is not that of a success. -/
theorem status_ne_ok {site : Site} {ask : Ask} (h : site.reply ask = none) (method : String) :
    site.status method ask ≠ 200 := by
  unfold Site.status
  by_cases houtside : ask = .outside
  · rw [if_pos houtside]
    decide
  · rw [if_neg houtside]
    by_cases hmethod : method = "GET" ∨ method = "HEAD"
    · rw [if_pos hmethod, h]
      decide
    · rw [if_neg hmethod]
      decide

theorem object_name_head {path name : String} (h : Ask.of path = .object name) :
    name.toList.head? ≠ some '/' := by
  have hrouted := routed_of path
  rw [h] at hrouted
  generalize routePattern path = pattern at hrouted
  cases hrouted
  exact (trimmed_trimSlashes _).maximal

/-- A request is answered with the bytes of an object. -/
def Fetches (rt : Runtime) (build : Build) (storage : StorageService) (config : Config)
    (req : Request) (contentType : String) (data : List UInt8) : Prop :=
  ∃ res, (createRouter rt build storage config).call rt.matcher req = .ok res ∧
    res.status = 200 ∧ res.headers "content-type" = [⟨contentType⟩] ∧ res.body = .bytes data

/-- `GET` fetches the object that its path asks for, where the store has it with a
content type that can stand in a header. -/
theorem fetches_iff (hrt : rt.Documented) (hrouting : rt.DocumentedRouting)
    (hname : config.ServerNamePrintable) (hversion : req.version ≠ .other)
    (hget : req.method = "GET") (contentType : String) (data : List UInt8) :
    Fetches rt build storage config req contentType data ↔
      ∃ name, Ask.of req.path = .object name ∧
        held rt storage name = .file contentType data ∧ HeaderText contentType := by
  obtain ⟨res, hres, hanswers⟩ :=
    createRouter_answers build storage config hrt hrouting hversion hname
  constructor
  · intro ⟨res', hres', hstatus, hcontentType, hbody⟩
    obtain rfl : res = res' := Except.ok.inj (hres.symm.trans hres')
    cases hreply : (site rt build storage config.serverName).reply (Ask.of req.path) with
    | none =>
      have hother := status_ne_ok hreply req.method
      exact absurd (hanswers.status.symm.trans hstatus) hother
    | some reply =>
      obtain ⟨hreplied, hreplyBody⟩ := hanswers.content hget reply hreply
      obtain rfl : reply.contentType = contentType := by
        rw [hreplied] at hcontentType
        simpa using hcontentType
      exact reply_bytes build storage hreply (hreplyBody.symm.trans hbody)
  · intro ⟨name, hask, hheld, htext⟩
    have hfetch : (site rt build storage config.serverName).fetch name =
        ⟨200, contentType, .bytes data⟩ := by
      simp only [Site.fetch, site, hheld, if_pos htext]
    rw [hask] at hanswers
    obtain ⟨hcontentType, hbody⟩ := hanswers.content hget _ rfl
    have hstatus := hanswers.status
    rw [Site.status, if_neg Ask.noConfusion, if_pos (.inl hget)] at hstatus
    rw [hfetch] at hcontentType hbody
    refine ⟨res, hres, hstatus.trans ?_, hcontentType, hbody⟩
    exact congrArg Reply.status hfetch

/-- What `GET` can fetch are the objects of the store whose content type can stand
in a header, under whatever name, and nothing else. Behind a second slash the
percent-encoded name fetches the object. -/
theorem createRouter_fetches_iff (hrt : rt.Documented) (hrouting : rt.DocumentedRouting)
    (hname : config.ServerNamePrintable) (contentType : String) (data : List UInt8) :
    ((∃ req, req.version ≠ .other ∧ req.method = "GET" ∧
        Fetches rt build storage config req contentType data) ↔
      ∃ name : String, name.toList.head? ≠ some '/' ∧
        held rt storage name = .file contentType data ∧ HeaderText contentType) ∧
    ∀ name : String, name.toList.head? ≠ some '/' →
      (Fetches rt build storage config (getRequest ("//" ++ Percent.encode name))
          contentType data ↔
        held rt storage name = .file contentType data ∧ HeaderText contentType) := by
  have hencoded {name : String} (hslash : name.toList.head? ≠ some '/') :
      Fetches rt build storage config (getRequest ("//" ++ Percent.encode name))
          contentType data ↔
        held rt storage name = .file contentType data ∧ HeaderText contentType := by
    have hask : Ask.of (getRequest ("//" ++ Percent.encode name)).path = .object name :=
      ask_of_encode hslash
    rw [fetches_iff build storage config hrt hrouting hname Version.noConfusion rfl, hask]
    constructor
    · intro ⟨name', heq, hheld⟩
      obtain rfl := Ask.object.inj heq
      exact hheld
    · exact fun hheld => ⟨name, rfl, hheld⟩
  refine ⟨⟨fun ⟨req, hversion, hget, hfetches⟩ => ?_, fun ⟨name, hslash, hheld⟩ => ?_⟩,
    fun name hslash => hencoded hslash⟩
  · obtain ⟨name, hask, hheld⟩ :=
      (fetches_iff build storage config hrt hrouting hname hversion hget _ _).mp hfetches
    exact ⟨name, object_name_head hask, hheld⟩
  · exact ⟨_, Version.noConfusion, rfl, (hencoded hslash).mpr hheld⟩

theorem createRouter_fetches_hello :
    Fetches .routing sampleBuild (.filesystem ⟨"./data"⟩) Config.builtIn
      (getRequest ("//" ++ Percent.encode "hello.txt")) "text/plain" [104, 105] :=
  ((createRouter_fetches_iff sampleBuild (.filesystem ⟨"./data"⟩) Config.builtIn
    Runtime.routing_documented Runtime.routing_documentedRouting (by decide) "text/plain"
    [104, 105]).2 "hello.txt" (by decide)).mpr ⟨rfl, by decide⟩

section Authority

variable {blob blob' : StorageService → String → BlobResult}

theorem requestId_congr {next next' : Service}
    (h : next (Middlewares.Request.withRequestId req (rt.sampleString req)) =
      next' (Middlewares.Request.withRequestId req (rt.sampleString req))) :
    Middlewares.requestId rt build next req = Middlewares.requestId rt build next' req := by
  unfold Middlewares.requestId
  cases req.extensions.config with
  | none => rfl
  | some config => simp only [h]

theorem log_congr {next next' : Service} (h : next req = next' req) :
    Middlewares.log rt next req = Middlewares.log rt next' req := by
  unfold Middlewares.log
  rw [h]

theorem get_congr (hrouting : rt.DocumentedRouting) {service service' : Service}
    (h : req.method = "GET" ∨ req.method = "HEAD" → service req = service' req) :
    rt.get service req = rt.get service' req := by
  by_cases hget : req.method = "GET"
  · rw [hrouting.get_get _ _ hget, hrouting.get_get _ _ hget, h (.inl hget)]
  by_cases hhead : req.method = "HEAD"
  · obtain ⟨strip, -, hrun⟩ := hrouting.get_head _ hhead
    rw [hrun, hrun, h (.inr hhead)]
  · obtain ⟨res, -, hrun⟩ := hrouting.get_other _ hget hhead
    rw [hrun, hrun]

/-- A request asks the store for one name at most. -/
def Consults (req : Request) (name : String) : Prop :=
  (req.method = "GET" ∨ req.method = "HEAD") ∧ Ask.of req.path = .object name

theorem queryHandler_congr (hrouting : rt.DocumentedRouting)
    (hask : Ask.of req.path = .malformed ∨ ∃ name, Ask.of req.path = .object name)
    (hstorage : req.extensions.storage = some storage)
    (h : ∀ name, Ask.of req.path = .object name →
      blob storage (backendPrefix storage ++ name) =
        blob' storage (backendPrefix storage ++ name)) :
    queryHandler (rt.withBlob blob) req = queryHandler (rt.withBlob blob') req := by
  have hrouted := routed_of req.path
  generalize hpattern : routePattern req.path = pattern at hrouted
  generalize Ask.of req.path = ask at hrouted hask h
  cases hrouted with
  | home | health | outside => rcases hask with heq | ⟨name, heq⟩ <;> cases heq
  | malformed hrest hdecoded =>
    obtain ⟨rejection, hreject, -⟩ := hrouting.extractPath_error req _ hpattern hrest hdecoded
    have hrejected (blobs : StorageService → String → BlobResult) :
        (rt.withBlob blobs).extractPath req = .error rejection := hreject
    simp only [queryHandler, hrejected]
  | object hrest hdecoded =>
    have hextract := hrouting.extractPath_ok req _ _ hpattern hrest hdecoded
    have hextracted (blobs : StorageService → String → BlobResult) :
        (rt.withBlob blobs).extractPath req = _ := hextract
    simp only [queryHandler, hextracted, hstorage]
    apply Query.Prog.run_eq_of_agree
    intro key hkey
    rw [query_consulted, List.mem_singleton, queryString_eq] at hkey
    rw [hkey]
    exact h _ rfl

/-- The answer to a request depends on the store through the one name that the
request asks for, and on nothing in it where it asks for none. -/
theorem createRouter_withBlob_congr (hrt : rt.Documented) (hrouting : rt.DocumentedRouting)
    (h : ∀ name, Consults req name →
      blob storage (backendPrefix storage ++ name) =
        blob' storage (backendPrefix storage ++ name)) :
    (createRouter (rt.withBlob blob) build storage config).call (rt.withBlob blob).matcher req =
      (createRouter (rt.withBlob blob') build storage config).call
        (rt.withBlob blob').matcher req := by
  rw [createRouter_call, createRouter_call]
  apply requestId_congr
  apply log_congr
  -- from here on the two sides are the answers below the layers
  rw [catchPanic_eq (hrt.withBlob blob), catchPanic_eq (hrt.withBlob blob')]
  show answer (rt.withBlob blob) build storage config req =
    answer (rt.withBlob blob') build storage config req
  have hmethod := requestBelow_method (rt.withBlob blob) build storage config req
  have hpath := requestBelow_path (rt.withBlob blob) build storage config req
  have hbelow : requestBelow (rt.withBlob blob') build storage config req =
      requestBelow (rt.withBlob blob) build storage config req := rfl
  rw [answer_eq_caught build storage config (hrouting.withBlob blob),
    answer_eq_caught build storage config (hrouting.withBlob blob'),
    endpoint_eq build (hrouting.withBlob blob), endpoint_eq build (hrouting.withBlob blob'), hbelow]
  apply congrArg (caught rt)
  have hquery (hask : Ask.of req.path = .malformed ∨ ∃ name, Ask.of req.path = .object name) :
      rt.get (queryHandler (rt.withBlob blob))
          (requestBelow (rt.withBlob blob) build storage config req) =
        rt.get (queryHandler (rt.withBlob blob'))
          (requestBelow (rt.withBlob blob) build storage config req) := by
    apply get_congr hrouting
    intro hserved
    rw [hmethod] at hserved
    apply queryHandler_congr storage hrouting (hpath ▸ hask) rfl
    intro name hname
    rw [hpath] at hname
    exact h name ⟨hserved, hname⟩
  cases hask : Ask.of req.path with
  | home | health | outside => rfl
  | malformed => exact hquery (.inl hask)
  | object name => exact hquery (.inr ⟨name, hask⟩)

/-- A store that cannot be read at all but for one name. -/
theorem createRouter_withBlob_hello :
    let blob : StorageService → String → BlobResult := fun _ name =>
      .ok (.ok (if name = "./hello.txt" then none else some .directory))
    let blob' : StorageService → String → BlobResult := fun _ name =>
      if name = "./hello.txt" then .ok (.ok none) else .error ⟨"connection refused"⟩
    let req := getRequest ("//" ++ Percent.encode "hello.txt")
    (createRouter (Runtime.routing.withBlob blob) sampleBuild (.filesystem ⟨"./data"⟩)
        Config.builtIn).call (Runtime.routing.withBlob blob).matcher req =
      (createRouter (Runtime.routing.withBlob blob') sampleBuild (.filesystem ⟨"./data"⟩)
        Config.builtIn).call (Runtime.routing.withBlob blob').matcher req := by
  intro blob blob' req
  apply createRouter_withBlob_congr _ _ _ Runtime.routing_documented
    Runtime.routing_documentedRouting
  intro name ⟨_, hask⟩
  have hhello : Ask.of req.path = .object "hello.txt" := ask_of_encode (by decide)
  obtain rfl : "hello.txt" = name := Ask.object.inj (hhello.symm.trans hask)
  rfl

end Authority

end Routes

end Hazel
