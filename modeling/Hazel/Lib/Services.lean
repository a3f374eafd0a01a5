import Mathlib.Tactic.Common

/-!
# Services, layers and routers

A service answers a request with a response or ends in an error of type `ε`. A
layer wraps a service. A router picks a service by pattern, and a layer on a
router wraps every service it can pick, after the picking.
-/

namespace Services

abbrev Service (Req Res ε : Type) := Req → Except ε Res

abbrev Layer (Req Res ε : Type) := Service Req Res ε → Service Req Res ε

variable {Req Res ε : Type}

/-- The layers around a service in the order they were added: the last one is
the outermost. -/
def stack (layers : List (Layer Req Res ε)) (service : Service Req Res ε) : Service Req Res ε :=
  layers.foldl (fun service layer => layer service) service

/-- How a router recognises requests: the pattern it selects among its own, and
what it notes in a request of the selected pattern. -/
structure Matcher (Req : Type) where
  select : List String → Req → Option String
  annotate : String → Req → Req

structure Router (Req Res ε : Type) where
  routes : List (String × Service Req Res ε)
  fallback : Service Req Res ε

namespace Router

def route (router : Router Req Res ε) (pattern : String) (service : Service Req Res ε) :
    Router Req Res ε :=
  { router with routes := router.routes ++ [(pattern, service)] }

def layer (router : Router Req Res ε) (layer : Layer Req Res ε) : Router Req Res ε where
  routes := router.routes.map fun route => (route.1, layer route.2)
  fallback := layer router.fallback

variable (m : Matcher Req)

def selected (router : Router Req Res ε) (req : Req) : Option String :=
  m.select (router.routes.map Prod.fst) req

/-- The service the router picks. -/
def endpoint (router : Router Req Res ε) (req : Req) : Service Req Res ε :=
  match router.selected m req with
  | some pattern => (router.routes.lookup pattern).getD router.fallback
  | none => router.fallback

def annotated (router : Router Req Res ε) (req : Req) : Req :=
  match router.selected m req with
  | some pattern => m.annotate pattern req
  | none => req

def call (router : Router Req Res ε) : Service Req Res ε := fun req =>
  router.endpoint m req (router.annotated m req)

theorem selected_layer (router : Router Req Res ε) (l : Layer Req Res ε) (req : Req) :
    (router.layer l).selected m req = router.selected m req := by
  simp [selected, layer, Function.comp_def]

theorem lookup_layer (routes : List (String × Service Req Res ε)) (l : Layer Req Res ε)
    (pattern : String) :
    (routes.map fun route => (route.1, l route.2)).lookup pattern =
      (routes.lookup pattern).map l := by
  induction routes with
  | nil => rfl
  | cons route routes ih =>
    rw [List.map_cons, List.lookup_cons, List.lookup_cons, ih]
    cases pattern == route.1 <;> rfl

theorem endpoint_layer (router : Router Req Res ε) (l : Layer Req Res ε) (req : Req) :
    (router.layer l).endpoint m req = l (router.endpoint m req) := by
  rw [endpoint, endpoint, selected_layer]
  cases router.selected m req with
  | none => rfl
  | some pattern =>
    simp only [layer, lookup_layer]
    cases router.routes.lookup pattern <;> rfl

theorem annotated_layer (router : Router Req Res ε) (l : Layer Req Res ε) (req : Req) :
    (router.layer l).annotated m req = router.annotated m req := by
  rw [annotated, annotated, selected_layer]

/-- Layers on a router are a stack around the service it picks. -/
theorem call_layers (router : Router Req Res ε) (layers : List (Layer Req Res ε)) (req : Req) :
    (layers.foldl layer router).call m req =
      stack layers (router.endpoint m req) (router.annotated m req) := by
  -- the first layer added is innermost, hence the induction over any router
  induction layers generalizing router with
  | nil => rfl
  | cons l layers ih =>
    rw [List.foldl_cons, ih, endpoint_layer, annotated_layer]
    rfl

end Router

end Services
