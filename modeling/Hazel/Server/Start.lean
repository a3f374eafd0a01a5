import Hazel.Config.NamedFile
import Hazel.Config.Settled
import Hazel.Lib.Trace
import Hazel.Server.Address
import Hazel.Server.Routes

/-!
# From `main` to the listener

`main` and `real_main` of the binary and `server::start`, as a trace of what they
do. Each step may be the last one, by an error that `?` passes on or by a panic.
-/

namespace Hazel

open Net Http Traces Traced

namespace Start

def HAZEL_WORKER_THREADS : String := "HAZEL_WORKER_THREADS"

/-- Why the process ends: `main` returns an error, or its thread panics. -/
inductive Stop where
  | error (e : Report)
  | panic (p : Panic)

/-- What the process does that can be seen from outside. -/
inductive Event where
  | spawnsWorkers (workers : Nat)
  | initsSentry (serverName : String) (dsn : Option Dsn)
  | initsLogging (json : Bool) (level : Level)
  | info (message : String) (address : Option SocketAddr)
  | initsStorage (storage : StorageService)
  | loadsPem (cert certKey : String)
  | listens (addr : SocketAddr) (tls : Bool) (service : Router)

/-- The machine that the binary is started on, with what the crates do there. -/
structure Machine where
  cr : Crates
  rt : Runtime
  build : Build
  /-- `RUSTC`. -/
  rustc : String
  /-- `num_cpus::get`. -/
  numCpus : Nat
  env : Environment
  fs : String → Entry
  /-- The entries of the `.env` file, up to one that cannot be read. -/
  dotenv : List (String × String)
  /-- `Builder::build`, with the number of workers. -/
  buildRuntime : Nat → Except Report Unit
  /-- `color_eyre::install`. -/
  installColorEyre : Except Report Unit
  /-- `remi_azure::StorageService::new`. -/
  newAzure : Remi.Azure.StorageConfig → Except Report Unit
  /-- `remi_s3::StorageService::new`, which has no error to return. -/
  newS3 : Remi.S3.StorageConfig → Except Panic Unit
  /-- `StorageService::init`. -/
  initStorage : StorageService → Except Report Unit
  /-- `RustlsConfig::from_pem_file`. -/
  fromPemFile : String → String → Except Report Unit
  /-- Binding the socket. -/
  bind : SocketAddr → Except Report Unit
  /-- Serving on the socket, until the process is told to stop. -/
  serve : SocketAddr → Except Report Unit

abbrev Boot := Traced Event Stop

/-- `?`. -/
def question {α : Type} (r : Except Report α) : Boot α := lift (r.mapError .error)

/-- A call that may panic. -/
def mayPanic {α : Type} (r : Except Panic α) : Boot α := lift (r.mapError .panic)

variable (m : Machine)

/-- `dotenvy::dotenv`: a variable that can be read is left as it is. -/
def Machine.loaded : Environment := fun name =>
  match m.env name with
  | .ok value => .ok value
  | .error e =>
    match m.dotenv.lookup name with
    | some value => .ok value
    | none => .error e

def Machine.sys : System := ⟨m.loaded, m.fs⟩

def Machine.workers : Except Report Nat := do
  let threads ← (m.cr.tryParseOr usizeFromStr (fun _ => m.numCpus)
    (m.loaded HAZEL_WORKER_THREADS)).mapError .env
  pure (max m.numCpus threads)

/-- The service that a storage configuration is for. -/
def storageService : Storage.Config → StorageService
  | .filesystem fs => .filesystem fs
  | .azure azure => .azure azure
  | .s3 s3 => .s3 s3

def newStorage : Storage.Config → Except Stop StorageService
  | .filesystem fs => .ok (.filesystem fs)
  | .azure azure => ((m.newAzure azure).mapError .error).map fun _ => .azure azure
  | .s3 s3 => ((m.newS3 s3).mapError .panic).map fun _ => .s3 s3

def initMessage : String :=
  "init Hazel :: " ++ m.build.version ++ " (built @ " ++ m.build.timestamp ++ ") with Rust " ++
    m.rustc

def startHttpsServer (config : Config) (ssl : Server.Ssl.Config) (router : Router) :
    Boot Unit := do
  let addr ← mayPanic config.server.toSocketAddr
  question (m.fromPemFile ssl.cert ssl.certKey)
  perform (.loadsPem ssl.cert ssl.certKey)
  perform (.info "listening on HTTPS" (some addr))
  question (m.bind addr)
  perform (.listens addr true router)
  question (m.serve addr)

def startHttpServer (config : Config) (router : Router) : Boot Unit := do
  let addr ← mayPanic config.server.toSocketAddr
  question (m.bind addr)
  perform (.listens addr false router)
  perform (.info "listening on HTTP" (some addr))
  question (m.serve addr)

/-- `server::start`. -/
def start (storage : StorageService) (config : Config) : Boot Unit := do
  perform (.info "starting HTTP server!" none)
  let router := Routes.createRouter m.rt m.build storage config
  match config.server.ssl with
  | some ssl => startHttpsServer m config ssl router
  | none => startHttpServer m config router

def realMain : Boot Unit := do
  let config ← question (Config.new m.cr m.sys).result
  question m.installColorEyre
  perform (.initsSentry (config.serverName.getD "hazel") config.sentryDsn)
  perform (.initsLogging config.logging.json config.logging.level)
  perform (.info (initMessage m) none)
  let storage ← lift (newStorage m config.storage)
  question (m.initStorage storage)
  perform (.initsStorage storage)
  perform (.info "data storage has been initialized" none)
  start m storage config

def main : Boot Unit := do
  let workers ← question m.workers
  question (m.buildRuntime workers)
  perform (.spawnsWorkers workers)
  realMain m

section Listening

variable {m}

theorem mem_question_bind {α β : Type} {r : Except Report α} {f : α → Boot β} {e : Event} :
    e ∈ (question r >>= f).events ↔ ∃ a, r = .ok a ∧ e ∈ (f a).events := by
  rw [question, mem_lift_bind]
  simp only [mapError_eq_ok]

theorem mem_mayPanic_bind {α β : Type} {r : Except Panic α} {f : α → Boot β} {e : Event} :
    e ∈ (mayPanic r >>= f).events ↔ ∃ a, r = .ok a ∧ e ∈ (f a).events := by
  rw [mayPanic, mem_lift_bind]
  simp only [mapError_eq_ok]

/-- All that has to go well before the process listens on `addr` for the
configuration `c`. -/
structure Ready (m : Machine) (c : Config) (addr : SocketAddr) : Prop where
  threads : ∃ threads, settled usizeFromStr (some m.numCpus) (m.loaded HAZEL_WORKER_THREADS) =
    some threads ∧ m.buildRuntime (max m.numCpus threads) = .ok ()
  config : (Config.new m.cr m.sys).result = .ok c
  colorEyre : m.installColorEyre = .ok ()
  azure : ∀ azure, c.storage = .azure azure → m.newAzure azure = .ok ()
  s3 : ∀ s3, c.storage = .s3 s3 → m.newS3 s3 = .ok ()
  storage : m.initStorage (storageService c.storage) = .ok ()
  host : SocketHost c.server.host c.server.port addr
  pem : ∀ ssl, c.server.ssl = some ssl → m.fromPemFile ssl.cert ssl.certKey = .ok ()
  bind : m.bind addr = .ok ()

theorem workers_eq_ok (hcr : m.cr.DocumentedEnv) {workers : Nat} :
    m.workers = .ok workers ↔ ∃ threads, settled usizeFromStr (some m.numCpus)
      (m.loaded HAZEL_WORKER_THREADS) = some threads ∧ max m.numCpus threads = workers := by
  have hread := hcr.tryParseOr usizeFromStr (fun _ => m.numCpus) (m.loaded HAZEL_WORKER_THREADS)
  rw [← hread]
  simp only [Machine.workers, except_bind_eq_ok, mapError_eq_ok, toOption_eq_some, pure,
    Except.pure, Except.ok.injEq]

theorem newStorage_eq_ok {config : Storage.Config} {storage : StorageService} :
    newStorage m config = .ok storage ↔
      (∀ azure, config = .azure azure → m.newAzure azure = .ok ()) ∧
        (∀ s3, config = .s3 s3 → m.newS3 s3 = .ok ()) ∧ storageService config = storage := by
  cases config with
  | filesystem fs => simp [newStorage, storageService]
  | azure azure =>
    simp only [newStorage, storageService, Storage.Config.azure.injEq, forall_eq']
    cases m.newAzure azure <;> simp [Except.map, Except.mapError]
  | s3 s3 =>
    simp only [newStorage, storageService, Storage.Config.s3.injEq, forall_eq']
    cases m.newS3 s3 <;> simp [Except.map, Except.mapError]

variable {addr : SocketAddr} {tls : Bool} {service : Router}

theorem events_question {α : Type} (r : Except Report α) : (question r).events = [] := rfl

theorem listens_start_iff {storage : StorageService} {c : Config} :
    .listens addr tls service ∈ (start m storage c).events ↔
      SocketHost c.server.host c.server.port addr ∧
      (∀ ssl, c.server.ssl = some ssl → m.fromPemFile ssl.cert ssl.certKey = .ok ()) ∧
      m.bind addr = .ok () ∧ tls = c.server.ssl.isSome ∧
      service = Routes.createRouter m.rt m.build storage c := by
  unfold start
  rw [mem_perform_bind]
  cases hssl : c.server.ssl with
  | none =>
    delta startHttpServer
    simp only [mem_mayPanic_bind, mem_question_bind, mem_perform_bind,
      Server.toSocketAddr_eq_ok, events_question, List.not_mem_nil, or_false, reduceCtorEq,
      false_or, Event.listens.injEq]
    constructor
    · intro ⟨addr', hhost, _, hbind, heq, htls, hservice⟩
      subst heq
      exact ⟨hhost, fun _ h => False.elim h, hbind, htls, hservice⟩
    · intro ⟨hhost, _, hbind, htls, hservice⟩
      exact ⟨addr, hhost, (), hbind, rfl, htls, hservice⟩
  | some ssl =>
    delta startHttpsServer
    simp only [mem_mayPanic_bind, mem_question_bind, mem_perform_bind,
      Server.toSocketAddr_eq_ok, events_question, List.not_mem_nil, or_false, reduceCtorEq,
      false_or, Event.listens.injEq, Option.some.injEq, forall_eq']
    constructor
    · intro ⟨addr', hhost, _, hpem, _, hbind, heq, htls, hservice⟩
      subst heq
      exact ⟨hhost, hpem, hbind, htls, hservice⟩
    · intro ⟨hhost, hpem, hbind, htls, hservice⟩
      exact ⟨addr, hhost, (), hpem, (), hbind, rfl, htls, hservice⟩

theorem listens_main_iff (hcr : m.cr.DocumentedEnv) :
    .listens addr tls service ∈ (main m).events ↔
      ∃ c, Ready m c addr ∧ tls = c.server.ssl.isSome ∧
        service = Routes.createRouter m.rt m.build (storageService c.storage) c := by
  simp only [main, realMain, mem_question_bind, mem_perform_bind, mem_lift_bind, reduceCtorEq,
    false_or, workers_eq_ok hcr, newStorage_eq_ok, listens_start_iff]
  constructor
  · intro ⟨_, ⟨threads, hthreads, hworkers⟩, _, hruntime, c, hconfig, _, hcolor, _,
      ⟨hazure, hs3, heq⟩, _, hstorage, hhost, hpem, hbind, htls, hservice⟩
    subst hworkers heq
    exact ⟨c, ⟨⟨threads, hthreads, hruntime⟩, hconfig, hcolor, hazure, hs3, hstorage, hhost,
      hpem, hbind⟩, htls, hservice⟩
  · intro ⟨c, hready, htls, hservice⟩
    obtain ⟨threads, hthreads, hruntime⟩ := hready.threads
    exact ⟨_, ⟨threads, hthreads, rfl⟩, (), hruntime, c, hready.config, (), hready.colorEyre, _,
      ⟨hready.azure, hready.s3, rfl⟩, (), hready.storage, hready.host, hready.pem, hready.bind,
      htls, hservice⟩

end Listening

section Order

/-- What the process does before it looks at the address. -/
def prelude (workers : Nat) (c : Config) : List Event :=
  [.spawnsWorkers workers,
    .initsSentry (c.serverName.getD "hazel") c.sentryDsn,
    .initsLogging c.logging.json c.logging.level,
    .info (initMessage m) none,
    .initsStorage (storageService c.storage),
    .info "data storage has been initialized" none,
    .info "starting HTTP server!" none]

/-- What it does then. Over TLS it says that it listens before it does. -/
def opening (c : Config) (addr : SocketAddr) : List Event :=
  match c.server.ssl with
  | some ssl => [.loadsPem ssl.cert ssl.certKey, .info "listening on HTTPS" (some addr)]
  | none => []

def closing (c : Config) (addr : SocketAddr) : List Event :=
  match c.server.ssl with
  | some _ => []
  | none => [.info "listening on HTTP" (some addr)]

def listening (c : Config) (addr : SocketAddr) : Event :=
  .listens addr c.server.ssl.isSome
    (Routes.createRouter m.rt m.build (storageService c.storage) c)

variable {m}

theorem follows_start {c : Config} {addr : SocketAddr}
    (haddr : c.server.toSocketAddr = .ok addr) :
    Follows (.info "starting HTTP server!" none :: (opening c addr ++ listening m c addr ::
      closing c addr)) (start m (storageService c.storage) c) := by
  apply Follows.perform_bind
  unfold opening closing listening
  cases c.server.ssl with
  | none =>
    apply Follows.lift_bind
    intro addr' haddr'
    rw [haddr] at haddr'
    cases haddr'
    apply Follows.lift_bind
    intro _ _
    apply Follows.perform_bind
    apply Follows.perform_bind
    exact follows_lift _
  | some ssl =>
    apply Follows.lift_bind
    intro addr' haddr'
    rw [haddr] at haddr'
    cases haddr'
    apply Follows.lift_bind
    intro _ _
    apply Follows.perform_bind
    apply Follows.perform_bind
    apply Follows.lift_bind
    intro _ _
    apply Follows.perform_bind
    exact follows_lift _

theorem follows_main {workers : Nat} {c : Config} {addr : SocketAddr}
    (hworkers : m.workers = .ok workers) (hconfig : (Config.new m.cr m.sys).result = .ok c)
    (haddr : c.server.toSocketAddr = .ok addr) :
    Follows (prelude m workers c ++ (opening c addr ++ listening m c addr :: closing c addr))
      (main m) := by
  unfold main realMain
  rw [hworkers, hconfig]
  apply Follows.lift_bind
  intro _ h
  cases h
  apply Follows.lift_bind
  intro _ _
  apply Follows.perform_bind
  apply Follows.lift_bind
  intro _ h
  cases h
  apply Follows.lift_bind
  intro _ _
  apply Follows.perform_bind
  apply Follows.perform_bind
  apply Follows.perform_bind
  apply Follows.lift_bind
  intro storage hstorage
  have hservice := (newStorage_eq_ok.mp hstorage).2.2
  subst hservice
  apply Follows.lift_bind
  intro _ _
  apply Follows.perform_bind
  apply Follows.perform_bind
  exact follows_start haddr

/-- The event is that the process listens somewhere. -/
def Event.Listens (e : Event) : Prop := ∃ addr tls service, e = .listens addr tls service

theorem not_listens_prelude {workers : Nat} {c : Config} {addr : SocketAddr} :
    ∀ e ∈ prelude m workers c ++ opening c addr, ¬ e.Listens := by
  intro e he ⟨addr', tls, service, heq⟩
  subst heq
  unfold opening at he
  cases hssl : c.server.ssl <;> simp [prelude, hssl] at he

theorem not_listens_closing {c : Config} {addr : SocketAddr} :
    ∀ e ∈ closing c addr, ¬ e.Listens := by
  intro e he ⟨addr', tls, service, heq⟩
  subst heq
  unfold closing at he
  cases hssl : c.server.ssl <;> simp [hssl] at he

/-- A run listens for a service on an address exactly when everything up to then
goes well, for the service of the loaded configuration on the address that its
host and port name, with TLS where it is configured and in no other case. By then
it has done what is planned before it, in order and nothing else, and it never
listens again. -/
theorem main_listens_iff (hcr : m.cr.DocumentedEnv) (addr : SocketAddr) (tls : Bool)
    (service : Router) (before : List Event) :
    (∃ after, (main m).events = before ++ .listens addr tls service :: after ∧
        ∀ e ∈ after, ¬ e.Listens) ↔
      ∃ workers c, m.workers = .ok workers ∧ Ready m c addr ∧ tls = c.server.ssl.isSome ∧
        service = Routes.createRouter m.rt m.build (storageService c.storage) c ∧
        before = prelude m workers c ++ opening c addr := by
  have hfollows {workers : Nat} {c : Config} (hworkers : m.workers = .ok workers)
      (hready : Ready m c addr) : Follows (prelude m workers c ++ opening c addr ++
        listening m c addr :: closing c addr) (main m) := by
    have haddr := Server.toSocketAddr_eq_ok.mpr hready.host
    rw [List.append_assoc]
    exact follows_main hworkers hready.config haddr
  constructor
  · intro ⟨after, hevents, _⟩
    have hmem : .listens addr tls service ∈ (main m).events := by
      rw [hevents]
      exact List.mem_append_right before List.mem_cons_self
    obtain ⟨c, hready, htls, hservice⟩ := (listens_main_iff hcr).mp hmem
    obtain ⟨threads, hthreads, -⟩ := hready.threads
    have hworkers := (workers_eq_ok hcr).mpr ⟨threads, hthreads, rfl⟩
    obtain ⟨hbefore, -, -⟩ := (hfollows hworkers hready).before_eq hevents
      ⟨addr, tls, service, rfl⟩ not_listens_prelude not_listens_closing
    exact ⟨_, c, hworkers, hready, htls, hservice, hbefore⟩
  · intro ⟨workers, c, hworkers, hready, htls, hservice, hbefore⟩
    have hmem := (listens_main_iff hcr).mpr ⟨c, hready, htls, hservice⟩
    obtain ⟨before', after, hevents⟩ := List.append_of_mem hmem
    obtain ⟨hbefore', -, hafter⟩ := (hfollows hworkers hready).before_eq hevents
      ⟨addr, tls, service, rfl⟩ not_listens_prelude not_listens_closing
    rw [hbefore, ← hbefore']
    exact ⟨after, hevents, fun e he => not_listens_closing e (hafter.subset he)⟩

/-- A machine of four cores where nothing is configured and nothing fails. -/
def quietMachine : Machine where
  cr := Crates.reference
  rt := Runtime.reference
  build := ⟨none, "2025-01-01T00:00:00+00:00"⟩
  rustc := "1.92.0"
  numCpus := 4
  env := Environment.of []
  fs _ := .missing
  dotenv := [("HAZEL_SERVER_PORT", "80")]
  buildRuntime _ := .ok ()
  installColorEyre := .ok ()
  newAzure _ := .ok ()
  newS3 _ := .ok ()
  initStorage _ := .ok ()
  fromPemFile _ _ := .ok ()
  bind _ := .ok ()
  serve _ := .ok ()

/-- The configuration of `quietMachine`, with the port of its `.env` file. -/
def quietConfig : Config :=
  { Config.builtIn with server := { Server.Config.default with port := 80 } }

theorem quietMachine_ready : Ready quietMachine quietConfig (.v4 ⟨0, 0, 0, 0⟩ 80) where
  threads := ⟨4, rfl, rfl⟩
  config := rfl
  colorEyre := rfl
  azure := fun _ _ => rfl
  s3 := fun _ _ => rfl
  storage := rfl
  host := .v4 (show Ipv4Addr.fromStr "0.0.0.0" = some ⟨0, 0, 0, 0⟩ by decide)
  pem := fun _ _ => rfl
  bind := rfl

theorem main_listens_quiet :
    let service := Routes.createRouter .reference quietMachine.build (.filesystem ⟨"./data"⟩)
      quietConfig
    ∃ after, (main quietMachine).events =
      (prelude quietMachine 4 quietConfig ++ []) ++
        .listens (.v4 ⟨0, 0, 0, 0⟩ 80) false service :: after ∧
        ∀ e ∈ after, ¬ e.Listens :=
  (main_listens_iff Crates.reference_documentedEnv _ _ _ _).mpr
    ⟨4, quietConfig, rfl, quietMachine_ready, rfl, rfl, rfl⟩

end Order

end Start

end Hazel
