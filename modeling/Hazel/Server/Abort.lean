import Hazel.Server.Proxy

/-!
# A panic in a released binary

The release profile of `Cargo.toml` makes a panic abort the process, so that
what catches panics in a development build is out of work. A released server
runs as long as nothing panics in it: one request for an object that the store
panics over, or whose content type cannot stand in a header, ends it for everyone.
-/

namespace Hazel

open Http

/-- The profiles that `Cargo.toml` tells apart. -/
inductive Profile where
  | dev
  | release
  deriving DecidableEq, Repr

/-- The crates in a process whose panics abort it: nothing is caught. -/
def Runtime.aborting (rt : Runtime) : Runtime :=
  { rt with catchPanic := fun _ service => service }

/-- A request, with the store as it is when the request is handled. -/
structure Arrival where
  request : Request
  blob : StorageService → String → BlobResult

/-- What is held makes the handler panic that is to answer with it. -/
def Proxy.Held.Panics : Proxy.Held → Prop
  | .file contentType _ => ¬ HeaderText contentType
  | .nothing | .unreadable => False
  | .panics => True

namespace Routes

open Proxy

section Process

variable (rt : Runtime) (build : Build) (storage : StorageService) (config : Config)

/-- The answer to one request. A panic that nothing catches is the end of the
connection's task in a development build, and of the process in a released one. -/
def serve (profile : Profile) (a : Arrival) : Option (Except Panic Response) :=
  let rt := rt.withBlob a.blob
  match profile with
  | .dev => some ((createRouter rt build storage config).call rt.matcher a.request)
  | .release =>
    match (createRouter rt.aborting build storage config).call rt.aborting.matcher a.request with
    | .ok res => some (.ok res)
    | .error _ => none

/-- A process that has given its answers so far handles one more request. -/
def handle (profile : Profile) (answers : List (Except Panic Response)) (a : Arrival) :
    Option (List (Except Panic Response)) :=
  (serve rt build storage config profile a).map fun answer => answers ++ [answer]

/-- The answers to the requests in the order they are handled, unless the
process was aborted. -/
def process (profile : Profile) (arrivals : List Arrival) :
    Option (List (Except Panic Response)) :=
  arrivals.foldlM (handle rt build storage config profile) []

/-- Nothing panics on the request: the server's name can stand in a header, the
store does not panic when it is asked for the object, and the content type of the
object can stand in a header. -/
structure Harmless (a : Arrival) : Prop where
  name : config.ServerNamePrintable
  lookup : ∀ name, Consults a.request name →
    held (rt.withBlob a.blob) storage name ≠ .panics
  contentType : ∀ name contentType data, Consults a.request name →
    held (rt.withBlob a.blob) storage name = .file contentType data → HeaderText contentType

end Process

variable {rt : Runtime} (build : Build) (storage : StorageService) (config : Config)
  {req : Request}

theorem ok_not_panics (res : Response) :
    ¬ ∃ p : Panic, (.ok res : Except Panic Response) = .error p := by
  intro h
  obtain ⟨p, hp⟩ := h
  cases hp

theorem get_panics_iff (hrouting : rt.DocumentedRouting) (service : Service) :
    (∃ p, rt.get service req = .error p) ↔
      (req.method = "GET" ∨ req.method = "HEAD") ∧ ∃ p, service req = .error p := by
  by_cases hget : req.method = "GET"
  · rw [hrouting.get_get _ _ hget]
    exact (and_iff_right (.inl hget)).symm
  by_cases hhead : req.method = "HEAD"
  · obtain ⟨strip, -, hrun⟩ := hrouting.get_head _ hhead
    rw [hrun, and_iff_right (.inr hhead)]
    cases service req <;> simp [Except.map]
  · obtain ⟨res, -, hrun⟩ := hrouting.get_other _ hget hhead
    rw [hrun]
    exact iff_of_false (ok_not_panics _) fun h => (not_or.mpr ⟨hget, hhead⟩) h.1

theorem buildResponse_panics_iff (hrt : rt.Documented) (status : Nat) (contentType : String)
    (body : Body) :
    (∃ p, buildResponse rt status "content-type" contentType body = .error p) ↔
      ¬ HeaderText contentType := by
  by_cases h : HeaderText contentType
  · obtain ⟨res, hres, -⟩ := buildResponse_shows hrt status h body
    rw [hres]
    exact iff_of_false (ok_not_panics _) (not_not_intro h)
  · obtain ⟨p, hp⟩ := hrt.unwrap_headerValue_error h
    refine iff_of_true ⟨p, ?_⟩ h
    rw [buildResponse, hp]
    rfl

theorem query_panics_iff (hrt : rt.Documented) (path : String) :
    (∃ p, (query rt storage path).run (rt.blob storage) = .error p) ↔
      (held rt storage (trimSlashes path)).Panics := by
  rw [query, Query.Prog.run_lookup_bind, queryString_eq]
  unfold held
  rcases rt.blob storage (backendPrefix storage ++ trimSlashes path) with p | e | _ | _ | _
  · exact iff_of_true ⟨p, rfl⟩ trivial
  · exact iff_of_false (ok_not_panics _) id
  · exact iff_of_false (ok_not_panics _) id
  · exact buildResponse_panics_iff hrt 200 _ _
  · exact iff_of_false (ok_not_panics _) id

/-- Only the handler of objects panics, and only on what the store holds. -/
theorem handler_panics_iff (hrt : rt.Documented) (hrouting : rt.DocumentedRouting)
    {service : Service} (hservice : handler rt build (Ask.of req.path) = some service) :
    (∃ p, service (requestBelow rt build storage config req) = .error p) ↔
      ∃ name, Ask.of req.path = .object name ∧ (held rt storage name).Panics := by
  have hpath := requestBelow_path rt build storage config req
  have hrouted := routed_of req.path
  generalize hpattern : routePattern req.path = pattern at hrouted
  generalize Ask.of req.path = ask at hrouted hservice
  cases hrouted with
  | home | health =>
    cases hservice
    exact iff_of_false (ok_not_panics _) (by simp)
  | object hrest hdecoded =>
    cases hservice
    rw [← hpath] at hpattern hrest
    have hextract := hrouting.extractPath_ok _ _ _ hpattern hrest hdecoded
    simp only [queryHandler, hextract, requestBelow_storage, Ask.object.injEq, exists_eq_left']
    exact query_panics_iff storage hrt _
  | malformed hrest hdecoded =>
    cases hservice
    rw [← hpath] at hpattern hrest
    obtain ⟨rejection, hreject, -⟩ := hrouting.extractPath_error _ _ hpattern hrest hdecoded
    simp only [queryHandler, hreject]
    exact iff_of_false (ok_not_panics _) (by simp)
  | outside => cases hservice

theorem endpoint_panics_iff (hrt : rt.Documented) (hrouting : rt.DocumentedRouting) :
    (∃ p, (routed rt build).endpoint rt.matcher req
        (requestBelow rt build storage config req) = .error p) ↔
      ∃ name, Consults req name ∧ (held rt storage name).Panics := by
  have hmethod := requestBelow_method rt build storage config req
  rw [endpoint_eq build hrouting]
  cases hservice : handler rt build (Ask.of req.path) with
  | none =>
    obtain ⟨res, hres, -⟩ := hrouting.fallback (requestBelow rt build storage config req)
    simp only [hres]
    refine iff_of_false (ok_not_panics _) fun ⟨name, hconsults, _⟩ => ?_
    rw [hconsults.2] at hservice
    cases hservice
  | some service =>
    show (∃ p, rt.get service (requestBelow rt build storage config req) = .error p) ↔ _
    rw [get_panics_iff hrouting, hmethod,
      handler_panics_iff build storage config hrt hrouting hservice]
    constructor
    · intro ⟨hserved, name, hask, hpanics⟩
      exact ⟨name, ⟨hserved, hask⟩, hpanics⟩
    · intro ⟨name, ⟨hserved, hask⟩, hpanics⟩
      exact ⟨hserved, name, hask, hpanics⟩

section Aborting

theorem aborting_call_eq :
    (createRouter rt.aborting build storage config).call rt.aborting.matcher req =
      Middlewares.requestId rt build (Middlewares.log rt (below rt build req))
        (requestWithExtensions rt build storage config req) := by
  rw [createRouter_call]
  rfl

theorem log_below_eq (hrouting : rt.DocumentedRouting) (hversion : req.version ≠ .other) :
    Middlewares.log rt (below rt build req) (requestBelow rt build storage config req) =
      (routed rt build).endpoint rt.matcher req (requestBelow rt build storage config req) := by
  have hversion' : (requestBelow rt build storage config req).version ≠ .other := by
    rw [requestBelow_version]
    exact hversion
  rw [log_eq (below rt build req) rfl hversion', below_eq_endpoint build hrouting]

/-- Where nothing panics below, it does not matter that nothing is caught. -/
theorem aborting_call_of_ok (hrt : rt.Documented) (hrouting : rt.DocumentedRouting)
    {res : Response}
    (h : (routed rt build).endpoint rt.matcher req (requestBelow rt build storage config req) =
      .ok res) :
    (createRouter rt.aborting build storage config).call rt.aborting.matcher req =
      (createRouter rt build storage config).call rt.matcher req := by
  rw [aborting_call_eq, createRouter_call]
  apply requestId_congr
  show Middlewares.log rt (below rt build req) (requestBelow rt build storage config req) =
    Middlewares.log rt (rt.catchPanic (panicHandler rt) (below rt build req))
      (requestBelow rt build storage config req)
  apply log_congr
  rw [catchPanic_eq hrt, below_eq_endpoint build hrouting, h]

theorem aborting_call_panics_iff (hrt : rt.Documented) (hrouting : rt.DocumentedRouting)
    (hversion : req.version ≠ .other) :
    (∃ p, (createRouter rt.aborting build storage config).call rt.aborting.matcher req =
        .error p) ↔
      ¬ config.ServerNamePrintable ∨ ∃ p, (routed rt build).endpoint rt.matcher req
        (requestBelow rt build storage config req) = .error p := by
  have hconfig : (requestWithExtensions rt build storage config req).extensions.config =
      some config := rfl
  rw [aborting_call_eq]
  by_cases hname : config.ServerNamePrintable
  · obtain ⟨idValue, serverValue, -, heq⟩ := requestId_eq build config hrt
      (Middlewares.log rt (below rt build req)) hconfig hname
    have hlog := log_below_eq build storage config hrouting hversion
    have hnext : Middlewares.log rt (below rt build req)
        (Middlewares.Request.withRequestId (requestWithExtensions rt build storage config req)
          (rt.sampleString (requestWithExtensions rt build storage config req))) = _ := hlog
    rw [heq, hnext, or_iff_right (not_not_intro hname)]
    cases (routed rt build).endpoint rt.matcher req
      (requestBelow rt build storage config req) <;> simp [Except.map]
  · exact iff_of_true (requestId_panics build config hrt _ hconfig hname) (.inl hname)

end Aborting

section Runs

variable {a : Arrival} {arrivals : List Arrival}

theorem harmless_iff (hrt : rt.Documented) (hrouting : rt.DocumentedRouting) :
    Harmless rt storage config a ↔ ¬ (¬ config.ServerNamePrintable ∨
      ∃ p, (routed (rt.withBlob a.blob) build).endpoint (rt.withBlob a.blob).matcher a.request
        (requestBelow (rt.withBlob a.blob) build storage config a.request) = .error p) := by
  rw [endpoint_panics_iff build storage config (hrt.withBlob a.blob) (hrouting.withBlob a.blob),
    not_or, not_not]
  constructor
  · intro h
    refine ⟨h.name, fun ⟨name, hconsults, hpanics⟩ => ?_⟩
    cases hheld : held (rt.withBlob a.blob) storage name with
    | file contentType data =>
      rw [hheld] at hpanics
      exact hpanics (h.contentType name contentType data hconsults hheld)
    | nothing | unreadable =>
      rw [hheld] at hpanics
      exact hpanics
    | panics => exact h.lookup name hconsults hheld
  · intro ⟨hname, hnone⟩
    refine ⟨hname, fun name hconsults hheld => ?_, fun name contentType data hconsults hheld => ?_⟩
    · apply hnone
      refine ⟨name, hconsults, ?_⟩
      rw [hheld]
      trivial
    · by_contra htext
      apply hnone
      refine ⟨name, hconsults, ?_⟩
      rw [hheld]
      exact htext

/-- A harmless request is answered as in a development build. -/
theorem serve_release_of_harmless (hrt : rt.Documented) (hrouting : rt.DocumentedRouting)
    (hversion : a.request.version ≠ .other) (h : Harmless rt storage config a) :
    serve rt build storage config .release a = serve rt build storage config .dev a := by
  have hsafe := (harmless_iff build storage config hrt hrouting).mp h
  rw [← aborting_call_panics_iff build storage config (hrt.withBlob a.blob)
    (hrouting.withBlob a.blob) hversion] at hsafe
  cases hserved : (routed (rt.withBlob a.blob) build).endpoint (rt.withBlob a.blob).matcher
      a.request (requestBelow (rt.withBlob a.blob) build storage config a.request) with
  | error p =>
    have hpanics := (harmless_iff build storage config hrt hrouting).mp h
    exact absurd (.inr ⟨p, hserved⟩) hpanics
  | ok inner =>
    have hcall := aborting_call_of_ok build storage config (hrt.withBlob a.blob)
      (hrouting.withBlob a.blob) hserved
    unfold serve
    cases hres : (createRouter (rt.withBlob a.blob).aborting build storage config).call
        (rt.withBlob a.blob).aborting.matcher a.request with
    | error p => exact absurd ⟨p, hres⟩ hsafe
    | ok res =>
      simp only [hres]
      rw [← hcall, hres]

/-- Any other request ends the process. -/
theorem serve_release_of_not_harmless (hrt : rt.Documented) (hrouting : rt.DocumentedRouting)
    (hversion : a.request.version ≠ .other) (h : ¬ Harmless rt storage config a) :
    serve rt build storage config .release a = none := by
  rw [harmless_iff build storage config hrt hrouting, not_not,
    ← aborting_call_panics_iff build storage config (hrt.withBlob a.blob)
      (hrouting.withBlob a.blob) hversion] at h
  obtain ⟨p, hp⟩ := h
  unfold serve
  simp only [hp]

/-- A development build runs on, whatever it is asked. -/
theorem process_dev (arrivals : List Arrival) :
    process rt build storage config .dev arrivals = some (arrivals.map fun a =>
      (createRouter (rt.withBlob a.blob) build storage config).call
        (rt.withBlob a.blob).matcher a.request) := by
  induction arrivals using List.reverseRecOn with
  | nil => rfl
  | append_singleton arrivals a ih =>
    rw [process] at ih ⊢
    rw [List.foldlM_append, ih, List.map_append]
    rfl

/-- A released server is there to answer the last of a series of requests exactly
when all of them are harmless, and then it has answered them as a development
build does. -/
theorem process_release_iff (hrt : rt.Documented) (hrouting : rt.DocumentedRouting)
    (hversion : ∀ a ∈ arrivals, a.request.version ≠ .other)
    (answers : List (Except Panic Response)) :
    process rt build storage config .release arrivals = some answers ↔
      (∀ a ∈ arrivals, Harmless rt storage config a) ∧
        process rt build storage config .dev arrivals = some answers := by
  unfold process
  generalize ([] : List (Except Panic Response)) = earlier
  induction arrivals generalizing earlier with
  | nil => exact (and_iff_right fun _ h => absurd h List.not_mem_nil).symm
  | cons a arrivals ih =>
    rw [List.forall_mem_cons] at hversion ⊢
    rw [List.foldlM_cons, List.foldlM_cons]
    by_cases h : Harmless rt storage config a
    · have hserve := serve_release_of_harmless build storage config hrt hrouting hversion.1 h
      have hhandle : handle rt build storage config .release earlier a =
          handle rt build storage config .dev earlier a := by
        rw [handle, handle, hserve]
      rw [hhandle, and_iff_right h]
      exact ih hversion.2 _
    · have hserve := serve_release_of_not_harmless build storage config hrt hrouting hversion.1 h
      rw [handle, hserve]
      exact iff_of_false (fun hnone => by cases hnone) fun hall => h hall.1.1

/-- A directory that makes the store panic, as `..` below a directory does that is
not there, ends a released server after it has answered. -/
theorem process_release_iff_dots :
    let blob : StorageService → String → BlobResult := fun _ name =>
      if name = "./nope/.." then .error ⟨"called `Option::unwrap()` on a `None` value"⟩
      else .ok (.ok none)
    let arrivals : List Arrival := [⟨getRequest "/healthz", blob⟩,
      ⟨getRequest ("//" ++ Percent.encode "nope/.."), blob⟩]
    process .routing sampleBuild (.filesystem ⟨"./data"⟩) Config.builtIn .release arrivals =
      none := by
  intro blob arrivals
  have hask : Ask.of ("//" ++ Percent.encode "nope/..") = .object "nope/.." :=
    ask_of_encode (by decide)
  have hnever (answers : List (Except Panic Response)) : process .routing sampleBuild
      (.filesystem ⟨"./data"⟩) Config.builtIn .release arrivals ≠ some answers := by
    intro hrun
    have hall := ((process_release_iff sampleBuild _ Config.builtIn Runtime.routing_documented
      Runtime.routing_documentedRouting (by simp [arrivals, getRequest]) answers).mp hrun).1
    have hlookup := (hall ⟨getRequest ("//" ++ Percent.encode "nope/.."), blob⟩
      (by simp [arrivals])).lookup "nope/.." ⟨.inl rfl, hask⟩
    exact hlookup rfl
  exact Option.eq_none_iff_forall_ne_some.mpr hnever

end Runs

end Routes

end Hazel
