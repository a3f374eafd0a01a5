import Hazel.Config.Document
import Hazel.Config.Loads
import Hazel.Config.StorageMerge

/-!
# A configuration file over the environment

What `Config::new` returns when a configuration file exists: when it succeeds,
which of the environment's settings survive the file, and which of the file's.
-/

namespace Hazel

open Query

/-- `Config::new` finds the file at `path`, and the file is the TOML document
`document`. -/
structure System.HasFile (cr : Crates) (sys : System) (document : List (String × Toml)) :
    Prop where
  found : ∃ path text, Config.findDefaultLocation sys = some path ∧
    sys.fs path = .file (.ok text) ∧ cr.parseToml text = .ok document

variable {cr : Crates} {sys : System} {document : List (String × Toml)}

theorem mapError_eq_ok {ε ε' α : Type} {f : ε → ε'} {r : Except ε α} {a : α} :
    r.mapError f = .ok a ↔ r = .ok a := by
  rw [← toOption_eq_some, toOption_mapError, toOption_eq_some]

theorem fromToml_eq_ok {text : String} (hparse : cr.parseToml text = .ok document) {f : Config} :
    Config.fromToml cr text = .ok f ↔ Config.deserialize cr document = .ok f := by
  simp [Config.fromToml, except_bind_eq_ok, mapError_eq_ok, hparse]

/-- With a file, both layers have to load, and the file is merged over the
environment. -/
theorem new_result_eq_ok (hfile : sys.HasFile cr document) {c : Config} :
    (Config.new cr sys).result = .ok c ↔
      ∃ e f, (Config.tryFromEnv cr).run sys.env = .ok e ∧
        Config.deserialize cr document = .ok f ∧ c = e.merge cr f := by
  obtain ⟨path, text, hpath, hentry, hparse⟩ := hfile.found
  simp only [Config.new, hpath, hentry, Entry.tryExists, Entry.readToString, except_bind_eq_ok,
    mapError_eq_ok, pure, Except.pure, Except.ok.injEq]
  constructor
  · rintro ⟨e, he, _, rfl, f, hf, rfl⟩
    exact ⟨e, f, he, (fromToml_eq_ok hparse).mp hf, rfl⟩
  · rintro ⟨e, f, he, hf, rfl⟩
    exact ⟨e, he, text, rfl, f, (fromToml_eq_ok hparse).mpr hf, rfl⟩

section Unmentioned

/-- The settings whose default in a document is a value, which a merge cannot
tell from a given one. -/
def Setting.defaultsToValue : List Setting := [.level, .storage, .host, .port]

theorem Storage.Config.merge_default (hpathBuf : cr.ReplacesPathBuf) (me : Storage.Config) :
    me.merge cr Storage.Config.default = Storage.Config.default := by
  cases me with
  | filesystem fs => simp [Storage.Config.merge, Storage.Config.default, hpathBuf]
  | azure azure => rfl
  | s3 s3 => rfl

variable (hstring : cr.ReplacesString) (hpathBuf : cr.ReplacesPathBuf)
  (hlevel : cr.ReplacesLevel) (hu16 : cr.ReplacesU16) (hnone : cr.IgnoresNone)
  (hmap : cr.IgnoresEmptyMap) (hflag : cr.AssignsIfFalsy)
include hstring hpathBuf hlevel hu16 hnone hmap hflag

/-- Merging a setting that is left at its default keeps the setting, unless the
default is a value. Then the default itself remains. -/
theorem Config.merge_same_iff (e : Config) {f : Config} (s : Setting)
    (hf : s.Same f Config.builtIn) :
    s.Same (e.merge cr f) e ↔ (s ∈ Setting.defaultsToValue → s.Same e Config.builtIn) := by
  -- six settings are left at no value, which each merge passes over
  cases s with
  | serverName =>
    have hsame : cr.mergeOption cr.mergeString e.serverName f.serverName = e.serverName := by
      rw [show f.serverName = none from hf, hnone]
    exact iff_of_true hsame fun hmem => absurd hmem (by decide)
  | sentryDsn =>
    have hsame : cr.mergeOption cr.mergeDsn e.sentryDsn f.sentryDsn = e.sentryDsn := by
      rw [show f.sentryDsn = none from hf, hnone]
    exact iff_of_true hsame fun hmem => absurd hmem (by decide)
  | filter =>
    have hsame : cr.mergeOption (Logging.Filter.merge cr) e.logging.filter f.logging.filter =
        e.logging.filter := by
      rw [show f.logging.filter = none from hf, hnone]
    exact iff_of_true hsame fun hmem => absurd hmem (by decide)
  | json =>
    have hsame : cr.onlyIfFalsy e.logging.json f.logging.json = e.logging.json := by
      rw [show f.logging.json = false from hf, hflag]
      cases e.logging.json <;> rfl
    exact iff_of_true hsame fun hmem => absurd hmem (by decide)
  | headers =>
    have hsame : cr.mergeMap e.server.headers f.server.headers = e.server.headers := by
      rw [show f.server.headers = [] from hf, hmap]
    exact iff_of_true hsame fun hmem => absurd hmem (by decide)
  | ssl =>
    have hsame : cr.mergeOption (Server.Ssl.Config.merge cr) e.server.ssl f.server.ssl =
        e.server.ssl := by
      rw [show f.server.ssl = none from hf, hnone]
    exact iff_of_true hsame fun hmem => absurd hmem (by decide)
  -- and four at a value, which the merge takes
  | level =>
    have hmerge : (e.merge cr f).logging.level = Config.builtIn.logging.level :=
      (hlevel _ _).trans hf
    simp only [Setting.Same, hmerge, Setting.defaultsToValue, List.mem_cons, true_or,
      true_implies]
    exact eq_comm
  | storage =>
    have hmerge : (e.merge cr f).storage = Config.builtIn.storage := by
      change e.storage.merge cr f.storage = _
      rw [show f.storage = Storage.Config.default from hf]
      exact Storage.Config.merge_default hpathBuf _
    simp only [Setting.Same, hmerge, Setting.defaultsToValue, List.mem_cons, true_or, or_true,
      true_implies]
    exact eq_comm
  | host =>
    have hmerge : (e.merge cr f).server.host = Config.builtIn.server.host :=
      (hstring _ _).trans hf
    simp only [Setting.Same, hmerge, Setting.defaultsToValue, List.mem_cons, true_or, or_true,
      true_implies]
    exact eq_comm
  | port =>
    have hport : f.server.port ≠ 0 := by
      rw [show f.server.port = Server.defaultPort from hf]
      decide
    have hmerge : (e.merge cr f).server.port = Config.builtIn.server.port :=
      (hu16 _ _ hport).trans hf
    simp only [Setting.Same, hmerge, Setting.defaultsToValue, List.mem_cons, true_or, or_true,
      true_implies]
    exact eq_comm

/-- `Config::new` keeps every setting that the file does not mention exactly
when the environment leaves the log level, the storage, the host and the port
at their defaults wherever the file does not mention these. -/
theorem new_keeps_unmentioned_iff (hfile : sys.HasFile cr document) {e f : Config}
    (he : (Config.tryFromEnv cr).run sys.env = .ok e)
    (hf : Config.deserialize cr document = .ok f) :
    (∃ c, (Config.new cr sys).result = .ok c ∧
      ∀ s : Setting, s.given document = none → s.Same c e) ↔
    ∀ s ∈ Setting.defaultsToValue, s.given document = none → s.Same e Config.builtIn := by
  have hnew := (new_result_eq_ok hfile).mpr ⟨e, f, he, hf, rfl⟩
  have hgives := (Config.deserialize_eq_ok.mp hf).2
  constructor
  · rintro ⟨c, hc, hkeeps⟩ s hmem habsent
    obtain rfl : e.merge cr f = c := Except.ok.inj (hnew.symm.trans hc)
    exact (Config.merge_same_iff hstring hpathBuf hlevel hu16 hnone hmap hflag e s
      (hgives.same_builtIn s habsent)).mp (hkeeps s habsent) hmem
  · intro h
    exact ⟨_, hnew, fun s habsent =>
      (Config.merge_same_iff hstring hpathBuf hlevel hu16 hnone hmap hflag e s
        (hgives.same_builtIn s habsent)).mpr fun hmem => h s hmem habsent⟩

omit hstring hpathBuf hlevel hu16 hnone hmap hflag

/-- The process with the given variables and `./config/hazel.toml`. -/
def System.of (vars : List (String × Except VarError String)) (hazelToml : String) : System where
  env := Environment.of vars
  fs path := if path = "./config/hazel.toml" then .file (.ok hazelToml) else .missing

theorem System.of_hasFile {hazelToml : String} (h : cr.parseToml hazelToml = .ok document)
    (vars : List (String × Except VarError String)) :
    (System.of vars hazelToml).HasFile cr document :=
  ⟨⟨"./config/hazel.toml", hazelToml, rfl, rfl, h⟩⟩

theorem new_keeps_unmentioned_serverName :
    ∃ c, (Config.new Crates.reference
        (System.of [(SERVER_NAME, .ok "acme")] "")).result = .ok c ∧
      ∀ s : Setting, s.given [] = none → s.Same c
        { Config.builtIn with serverName := some "acme" } := by
  have hf : Config.deserialize Crates.reference [] = .ok Config.builtIn := rfl
  refine (new_keeps_unmentioned_iff (fun _ _ => rfl) (fun _ _ => rfl) (fun _ _ => rfl)
    Crates.reference_replacesU16 Crates.reference_ignoresNone Crates.reference_ignoresEmptyMap
    (fun _ _ => rfl) (System.of_hasFile rfl _) rfl hf).mpr fun s hmem _ => ?_
  simp only [Setting.defaultsToValue, List.mem_cons, List.not_mem_nil, or_false] at hmem
  rcases hmem with rfl | rfl | rfl | rfl <;> rfl

/-- An empty file resets the port of the environment. -/
theorem new_resets_port :
    let sys := System.of [(Server.PORT.1, .ok "9000")] ""
    ∃ e c, (Config.tryFromEnv Crates.reference).run sys.env = .ok e ∧
      (Config.new Crates.reference sys).result = .ok c ∧ Setting.given [] .port = none ∧
      e.server.port = 9000 ∧ c.server.port = 8989 :=
  ⟨_, _, rfl, rfl, rfl, rfl, rfl⟩

end Unmentioned

section Complete

/-- The value given for the setting, if any, deserialises. The table of a
storage backend or of TLS deserialises with its required entries only. -/
def Setting.AcceptedIn (cr : Crates) (document : List (String × Toml)) : Setting → Prop
  | .serverName => Accepted (given document .serverName) deserializeString
  | .sentryDsn => Accepted (given document .sentryDsn) cr.deserializeDsn
  | .filter => Accepted (given document .filter) (Logging.Filter.deserialize cr)
  | .level => Accepted (given document .level) cr.deserializeLevel
  | .json => Accepted (given document .json) deserializeBool
  | .storage => Accepted (given document .storage) (Storage.Config.deserialize cr)
  | .headers => Accepted (given document .headers) deserializeStringMap
  | .host => Accepted (given document .host) deserializeString
  | .port => Accepted (given document .port) deserializeU16
  | .ssl => Accepted (given document .ssl) Server.Ssl.Config.deserialize

/-- Every value that the document gives is accepted, and its tables are. -/
structure DocumentLoads (cr : Crates) (document : List (String × Toml)) : Prop where
  tables : TablesAccepted document
  settings : ∀ s : Setting, s.AcceptedIn cr document

theorem DocumentLoads.exists_gives (h : DocumentLoads cr document) :
    ∃ f, Config.Gives cr document f := by
  have hoptional {α : Type} {value : Option Toml} {deserialize : Toml → Except DeError α}
      (haccepted : Accepted value deserialize) : ∃ a, OptionalFieldHolds value deserialize a :=
    (accepted_map_some.mpr haccepted).exists_holds none
  obtain ⟨serverName, hserverName⟩ := hoptional (h.settings .serverName)
  obtain ⟨sentryDsn, hsentryDsn⟩ := hoptional (h.settings .sentryDsn)
  obtain ⟨filter, hfilter⟩ := hoptional (h.settings .filter)
  obtain ⟨level, hlevel⟩ := (h.settings .level).exists_holds Logging.defaultLevel
  obtain ⟨json, hjson⟩ := (h.settings .json).exists_holds false
  obtain ⟨storage, hstorage⟩ := (h.settings .storage).exists_holds Storage.Config.default
  obtain ⟨headers, hheaders⟩ := (h.settings .headers).exists_holds []
  obtain ⟨host, hhost⟩ := (h.settings .host).exists_holds Server.defaultHost
  obtain ⟨port, hport⟩ := (h.settings .port).exists_holds Server.defaultPort
  obtain ⟨ssl, hssl⟩ := hoptional (h.settings .ssl)
  exact ⟨⟨serverName, sentryDsn, ⟨filter, level, json⟩, storage, ⟨headers, host, port, ssl⟩⟩,
    hserverName, hsentryDsn, hfilter, hlevel, hjson, hstorage, hheaders, hhost, hport, hssl⟩

/-- A document deserialises exactly when all it gives is accepted. -/
theorem exists_deserialize_eq_ok_iff :
    (∃ f, Config.deserialize cr document = .ok f) ↔ DocumentLoads cr document := by
  constructor
  · rintro ⟨f, hf⟩
    obtain ⟨htables, h⟩ := Config.deserialize_eq_ok.mp hf
    refine ⟨htables, fun s => ?_⟩
    cases s with
    | serverName => exact accepted_map_some.mp h.serverName.accepted
    | sentryDsn => exact accepted_map_some.mp h.sentryDsn.accepted
    | filter => exact accepted_map_some.mp h.filter.accepted
    | level => exact h.level.accepted
    | json => exact h.json.accepted
    | storage => exact h.storage.accepted
    | headers => exact h.headers.accepted
    | host => exact h.host.accepted
    | port => exact h.port.accepted
    | ssl => exact accepted_map_some.mp h.ssl.accepted
  · intro h
    obtain ⟨f, hf⟩ := h.exists_gives
    exact ⟨f, Config.deserialize_eq_ok.mpr ⟨h.tables, hf⟩⟩

/-- `c` is for the backend of `f`, with what `f` gives, and what `f` leaves open is
as in `me`. A key prefix given by `f` and a bearer token that replaces another are
left out. -/
def Storage.Overlaid (me f c : Storage.Config) : Prop :=
  match me, f with
  | .filesystem _, .filesystem fs => c = .filesystem fs
  | .azure me, .azure f => ∃ merged, c = .azure merged ∧ merged.location = f.location ∧
      merged.container = f.container ∧
      (¬ Azure.BearersDiffer me.credentials f.credentials → merged.credentials = f.credentials)
  | .s3 me, .s3 f => ∃ merged, c = .s3 merged ∧
      S3.OverlaysButPrefix (fun _ text => text) me f merged ∧
      (f.keyPrefix = none → merged.keyPrefix = me.keyPrefix)
  | _, f => c = f

theorem Storage.merge_overlaid (hstring : cr.ReplacesString) (hpathBuf : cr.ReplacesPathBuf)
    (hflag : cr.AssignsIfFalsy) (me f : Storage.Config) : Overlaid me f (me.merge cr f) := by
  have htext : cr.mergeString = fun _ text => text := by
    funext me other
    exact hstring me other
  -- for two backends that differ the merge is `f` itself
  cases me with
  | filesystem fs1 =>
    cases f with
    | filesystem fs2 =>
      show Config.filesystem ⟨cr.mergePathBuf fs1.directory fs2.directory⟩ = .filesystem fs2
      rw [hpathBuf]
    | azure | s3 => rfl
  | azure azure1 =>
    cases f with
    | azure azure2 =>
      exact ⟨_, rfl, Azure.mergeConfig_location cr azure1 azure2, hstring _ _,
        Azure.mergeConfig_credentials cr azure1 azure2⟩
    | filesystem | s3 => rfl
  | s3 s31 =>
    cases f with
    | s3 s32 =>
      have hoverlays := S3.mergeConfig_overlaysButPrefix hflag s31 s32
      rw [htext] at hoverlays
      exact ⟨_, rfl, hoverlays, fun _ => rfl⟩
    | filesystem | azure => rfl

/-- `c` holds what `e` and `f`, read from the environment and from the document,
give between them. Nothing is said of a level, a storage, a host and a port that
the document does not give. -/
structure Config.Overlaid (cr : Crates) (document : List (String × Toml)) (e f c : Config) :
    Prop where
  serverName : c.serverName = e.serverName.or f.serverName
  sentryDsn : c.sentryDsn = e.sentryDsn.or f.sentryDsn
  filter : c.logging.filter = e.logging.filter.or f.logging.filter
  level : Setting.given document .level ≠ none → c.logging.level = f.logging.level
  json : c.logging.json = true ↔ e.logging.json = true ∨ f.logging.json = true
  storage : Setting.given document .storage ≠ none →
    Storage.Overlaid e.storage f.storage c.storage
  headers : c.server.headers = cr.mergeMap e.server.headers f.server.headers
  headersOfFile : e.server.headers = [] → c.server.headers = f.server.headers
  headersOfEnvironment : f.server.headers = [] → c.server.headers = e.server.headers
  host : Setting.given document .host ≠ none → c.server.host = f.server.host
  port : Setting.given document .port ≠ none →
    c.server.port = if f.server.port = 0 then e.server.port else f.server.port
  ssl : c.server.ssl = e.server.ssl.or f.server.ssl

theorem Server.merge_port (hu16 : cr.ReplacesU16) (hzero : cr.IgnoresZero) (me f : Config) :
    (me.merge cr f).port = if f.port = 0 then me.port else f.port := by
  change cr.mergeU16 me.port f.port = _
  by_cases hport : f.port = 0
  · rw [if_pos hport, hport, hzero]
  · rw [if_neg hport, hu16 _ _ hport]

variable (hstring : cr.ReplacesString) (hpathBuf : cr.ReplacesPathBuf)
  (hlevel : cr.ReplacesLevel) (hu16 : cr.ReplacesU16) (hzero : cr.IgnoresZero)
  (hnone : cr.FillsNone) (hmap : cr.IgnoresEmptyMap) (hempty : cr.FillsEmptyMap)
  (hflag : cr.AssignsIfFalsy)
include hstring hpathBuf hlevel hu16 hzero hnone hmap hempty hflag

theorem Config.merge_overlaid (document : List (String × Toml)) (e f : Config) :
    Config.Overlaid cr document e f (e.merge cr f) where
  serverName := hnone _ _ _
  sentryDsn := hnone _ _ _
  filter := hnone _ _ _
  level _ := hlevel _ _
  json := Storage.S3.onlyIfFalsy_eq_true hflag _ _
  storage _ := Storage.merge_overlaid hstring hpathBuf hflag e.storage f.storage
  headers := rfl
  headersOfFile h := by
    change cr.mergeMap e.server.headers f.server.headers = _
    rw [h, hempty]
  headersOfEnvironment h := by
    change cr.mergeMap e.server.headers f.server.headers = _
    rw [h, hmap]
  host _ := hstring _ _
  port _ := Server.merge_port hu16 hzero e.server f.server
  ssl := hnone _ _ _

/-- Where the environment loads and the file's document does, `Config::new`
returns the overlay of the one on the other. -/
theorem new_result_of_loads (henvironment : cr.DocumentedEnv) (hfile : sys.HasFile cr document)
    (henv : Loads cr sys.env) (hdocument : DocumentLoads cr document) :
    ∃ e f c, Config.Settles cr sys.env e ∧ Config.Gives cr document f ∧
      (Config.new cr sys).result = .ok c ∧ Config.Overlaid cr document e f c := by
  obtain ⟨e, he⟩ := exists_settles_iff.mpr henv
  obtain ⟨f, hf⟩ := hdocument.exists_gives
  have hrun : (Config.tryFromEnv cr).run sys.env = .ok e :=
    (Config.tryFromEnv_eq_ok henvironment).mpr he
  have hdeserialize : Config.deserialize cr document = .ok f :=
    Config.deserialize_eq_ok.mpr ⟨hdocument.tables, hf⟩
  have hnew : (Config.new cr sys).result = .ok (e.merge cr f) :=
    (new_result_eq_ok hfile).mpr ⟨e, f, hrun, hdeserialize, rfl⟩
  have hoverlaid := Config.merge_overlaid hstring hpathBuf hlevel hu16 hzero hnone hmap hempty
    hflag document e f
  exact ⟨e, f, e.merge cr f, he, hf, hnew, hoverlaid⟩

omit hstring hpathBuf hlevel hu16 hzero hnone hmap hempty hflag

/-- Every setting is given by the file, and most of them by the environment too. -/
theorem new_result_of_loads_full :
    let document := [("server_name", Toml.string "acme"), ("sentry_dsn", .string "https://file"),
      ("logging", .table [("filter", .string "hazel=debug"), ("level", .string "warn"),
        ("json", .boolean true)]),
      ("storage", .table [("filesystem", .table [("directory", .string "/srv")])]),
      ("server", .table [("headers", .table [("x-frame-options", .string "DENY")]),
        ("host", .string "127.0.0.1"), ("port", .integer 80),
        ("ssl", .table [("cert_key", .string "key.pem"), ("cert", .string "cert.pem")])])]
    let vars := [(SERVER_NAME, .ok "hazel"), (Logging.LEVEL, .ok "debug"),
      (Storage.Filesystem.DIRECTORY, .ok "/var"), (Server.PORT.1, .ok "9000")]
    let cr := Crates.parsing "full" document
    ∃ e f c, Config.Settles cr (Environment.of vars) e ∧ Config.Gives cr document f ∧
      (Config.new cr (System.of vars "full")).result = .ok c ∧
        Config.Overlaid cr document e f c := by
  intro document vars cr
  have hcr : cr.DocumentedEnv := Crates.parsing_documentedEnv "full" document
  have henv : Loads cr (System.of vars "full").env :=
    (exists_tryFromEnv_eq_ok_iff hcr).mp ⟨_, rfl⟩
  have hdocument : DocumentLoads cr document := exists_deserialize_eq_ok_iff.mp ⟨_, rfl⟩
  have hu16 : cr.ReplacesU16 := Crates.reference_replacesU16
  have hmap : cr.IgnoresEmptyMap := Crates.reference_ignoresEmptyMap
  have hempty : cr.FillsEmptyMap := Crates.reference_fillsEmptyMap
  exact new_result_of_loads (fun _ _ => rfl) (fun _ _ => rfl) (fun _ _ => rfl) hu16
    (fun _ => rfl) (fun _ _ _ => rfl) hmap hempty (fun _ _ => rfl) hcr
    (System.of_hasFile rfl vars) henv hdocument

/-- A file that gives both paths of the TLS block. -/
def tlsToml : String := "[server.ssl]\ncert_key = \"/etc/key.pem\"\ncert = \"/etc/cert.pem\"\n"

def tlsDocument : List (String × Toml) :=
  [("server", .table [("ssl", .table [("cert_key", .string "/etc/key.pem"),
    ("cert", .string "/etc/cert.pem")])])]

def tlsCrates : Crates := Crates.parsing tlsToml tlsDocument

/-- TLS switched on by the environment alone fails to load, although the file
gives both of its paths. -/
theorem new_rejects_tls_of_file :
    let sys := System.of [(Server.Ssl.ENABLED, .ok "true")] tlsToml
    sys.HasFile tlsCrates tlsDocument ∧
      (∃ f, Config.deserialize tlsCrates tlsDocument = .ok f ∧
        f.server.ssl = some ⟨"/etc/key.pem", "/etc/cert.pem"⟩) ∧
      (Config.new tlsCrates sys).result = .error (.message
        "unable to load `$HAZEL_SERVER_SSL_CERT_KEY`: environment variable not found") :=
  ⟨System.of_hasFile (by simp [tlsCrates, Crates.parsing]) _, ⟨_, rfl, rfl⟩, by decide⟩

end Complete

end Hazel
