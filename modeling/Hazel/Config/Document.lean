import Hazel.Config.Load

/-!
# The settings of a document

The ten settings a configuration file can give, the value a document gives for
each of them, and what deserialising the document makes of these values.
-/

namespace Hazel

inductive Setting where
  | serverName
  | sentryDsn
  | filter
  | level
  | json
  | storage
  | headers
  | host
  | port
  | ssl
  deriving DecidableEq, Repr

namespace Setting

/-- The entry `name` of the struct table `table`. -/
def inTable (document : List (String × Toml)) (table : String) (names : List String)
    (name : String) : Option Toml :=
  (document.lookup table).bind fun value =>
    (structFields names true value).toOption.bind fun fields => fields name

abbrev inLogging (document : List (String × Toml)) : String → Option Toml :=
  inTable document "logging" ["filter", "level", "json"]

abbrev inServer (document : List (String × Toml)) : String → Option Toml :=
  inTable document "server" ["headers", "host", "port", "ssl"]

/-- The value that a document gives for a setting, if it mentions it. -/
def given (document : List (String × Toml)) : Setting → Option Toml
  | serverName => document.lookup "server_name"
  | sentryDsn => document.lookup "sentry_dsn"
  | filter => inLogging document "filter"
  | level => inLogging document "level"
  | json => inLogging document "json"
  | storage => document.lookup "storage"
  | headers => inServer document "headers"
  | host => inServer document "host"
  | port => inServer document "port"
  | ssl => inServer document "ssl"

/-- Two configurations have the same value for the setting. -/
def Same (c c' : Config) : Setting → Prop
  | serverName => c.serverName = c'.serverName
  | sentryDsn => c.sentryDsn = c'.sentryDsn
  | filter => c.logging.filter = c'.logging.filter
  | level => c.logging.level = c'.logging.level
  | json => c.logging.json = c'.logging.json
  | storage => c.storage = c'.storage
  | headers => c.server.headers = c'.server.headers
  | host => c.server.host = c'.server.host
  | port => c.server.port = c'.server.port
  | ssl => c.server.ssl = c'.server.ssl

end Setting

/-- The configuration that every setting is left at its default of. -/
def Config.builtIn : Config where
  serverName := none
  sentryDsn := none
  logging := Logging.Config.default
  storage := Storage.Config.default
  server := Server.Config.default

section Field

variable {α β : Type}

/-- What a field holds: its given value deserialised, or its default. -/
def FieldHolds (value : Option Toml) (deserialize : Toml → Except DeError α)
    (default : Option α) (a : α) : Prop :=
  match value with
  | some value => deserialize value = .ok a
  | none => default = some a

theorem except_bind_eq_ok {ε : Type} {r : Except ε α} {f : α → Except ε β} {b : β} :
    (r >>= f) = .ok b ↔ ∃ a, r = .ok a ∧ f a = .ok b := by
  cases r <;> simp [bind, Except.bind]

theorem field_eq_ok {fields : String → Option Toml} {name : String}
    {deserialize : Toml → Except DeError α} {default : Option α} {a : α} :
    field fields name deserialize default = .ok a ↔
      FieldHolds (fields name) deserialize default a := by
  unfold field FieldHolds
  cases fields name with
  | some value => rfl
  | none => cases default <;> simp

/-- An optional field holds nothing when it is absent. -/
abbrev OptionalFieldHolds (value : Option Toml) (deserialize : Toml → Except DeError α) :
    Option α → Prop :=
  FieldHolds value (fun value => (deserialize value).map some) (some none)

theorem optionalField_eq_ok {fields : String → Option Toml} {name : String}
    {deserialize : Toml → Except DeError α} {a : Option α} :
    optionalField fields name deserialize = .ok a ↔
      OptionalFieldHolds (fields name) deserialize a :=
  field_eq_ok

theorem FieldHolds.of_absent {value : Option Toml} {deserialize : Toml → Except DeError α}
    {default a : α} (h : FieldHolds value deserialize (some default) a) (habsent : value = none) :
    a = default := by
  subst habsent
  exact (Option.some.inj h).symm

theorem FieldHolds.exists_of_given {value : Option Toml} {deserialize : Toml → Except DeError α}
    {a : Option α} (h : OptionalFieldHolds value deserialize a) (hgiven : value ≠ none) :
    ∃ b, a = some b := by
  obtain ⟨v, rfl⟩ := Option.ne_none_iff_exists'.mp hgiven
  have hmap : (deserialize v).map some = .ok a := h
  cases hv : deserialize v with
  | error e => simp [hv, Except.map] at hmap
  | ok b =>
    simp only [hv, Except.map, Except.ok.injEq] at hmap
    exact ⟨b, hmap.symm⟩

/-- The given value, if any, deserialises. -/
def Accepted (value : Option Toml) (deserialize : Toml → Except DeError α) : Prop :=
  ∀ v, value = some v → ∃ a, deserialize v = .ok a

theorem FieldHolds.accepted {value : Option Toml} {deserialize : Toml → Except DeError α}
    {default : Option α} {a : α} (h : FieldHolds value deserialize default a) :
    Accepted value deserialize := by
  rintro v rfl
  exact ⟨a, h⟩

theorem Accepted.exists_holds {value : Option Toml} {deserialize : Toml → Except DeError α}
    (h : Accepted value deserialize) (default : α) :
    ∃ a, FieldHolds value deserialize (some default) a := by
  cases value with
  | none => exact ⟨default, rfl⟩
  | some v => exact h v rfl

theorem accepted_map_some {value : Option Toml} {deserialize : Toml → Except DeError α} :
    Accepted value (fun v => (deserialize v).map some) ↔ Accepted value deserialize := by
  refine forall_congr' fun v => imp_congr_right fun _ => ?_
  cases h : deserialize v with
  | error e => simp [h, Except.map]
  | ok a => simp [h, Except.map]

end Field

section Tables

variable {document : List (String × Toml)} {table : String} {names : List String}

theorem inTable_of_absent (h : document.lookup table = none) (name : String) :
    Setting.inTable document table names name = none := by
  rw [Setting.inTable, h, Option.bind_none]

theorem inTable_of_fields {value : Toml} {fields : String → Option Toml}
    (h : document.lookup table = some value) (hfields : structFields names true value = .ok fields)
    (name : String) : Setting.inTable document table names name = fields name := by
  rw [Setting.inTable, h, Option.bind_some, hfields]
  rfl

end Tables

/-- The tables of a document are tables of the fields they may have, and the
logging table gives the level. -/
structure TablesAccepted (document : List (String × Toml)) : Prop where
  logging : ∀ value, document.lookup "logging" = some value →
    ∃ fields, structFields ["filter", "level", "json"] true value = .ok fields ∧
      fields "level" ≠ none
  server : ∀ value, document.lookup "server" = some value →
    ∃ fields, structFields ["headers", "host", "port", "ssl"] true value = .ok fields

/-- Every setting of `c` holds what the document gives for it, or its default. -/
structure Config.Gives (cr : Crates) (document : List (String × Toml)) (c : Config) : Prop where
  serverName : OptionalFieldHolds (Setting.given document .serverName) deserializeString
    c.serverName
  sentryDsn : OptionalFieldHolds (Setting.given document .sentryDsn) cr.deserializeDsn c.sentryDsn
  filter : OptionalFieldHolds (Setting.given document .filter) (Logging.Filter.deserialize cr)
    c.logging.filter
  level : FieldHolds (Setting.given document .level) cr.deserializeLevel
    (some Logging.defaultLevel) c.logging.level
  json : FieldHolds (Setting.given document .json) deserializeBool (some false) c.logging.json
  storage : FieldHolds (Setting.given document .storage) (Storage.Config.deserialize cr)
    (some Storage.Config.default) c.storage
  headers : FieldHolds (Setting.given document .headers) deserializeStringMap (some [])
    c.server.headers
  host : FieldHolds (Setting.given document .host) deserializeString (some Server.defaultHost)
    c.server.host
  port : FieldHolds (Setting.given document .port) deserializeU16 (some Server.defaultPort)
    c.server.port
  ssl : OptionalFieldHolds (Setting.given document .ssl) Server.Ssl.Config.deserialize c.server.ssl

variable {cr : Crates} {document : List (String × Toml)}

theorem Logging.Config.deserialize_eq_ok {value : Toml} {c : Logging.Config} :
    Logging.Config.deserialize cr value = .ok c ↔
      ∃ fields, structFields ["filter", "level", "json"] true value = .ok fields ∧
        OptionalFieldHolds (fields "filter") (Filter.deserialize cr) c.filter ∧
        FieldHolds (fields "level") cr.deserializeLevel none c.level ∧
        FieldHolds (fields "json") deserializeBool (some false) c.json := by
  simp only [Logging.Config.deserialize, except_bind_eq_ok, optionalField_eq_ok, field_eq_ok,
    pure, Except.pure, Except.ok.injEq]
  constructor
  · rintro ⟨fields, hfields, filter, hfilter, level, hlevel, json, hjson, rfl⟩
    exact ⟨fields, hfields, hfilter, hlevel, hjson⟩
  · rintro ⟨fields, hfields, hfilter, hlevel, hjson⟩
    exact ⟨fields, hfields, _, hfilter, _, hlevel, _, hjson, rfl⟩

theorem Server.Config.deserialize_eq_ok {value : Toml} {c : Server.Config} :
    Server.Config.deserialize value = .ok c ↔
      ∃ fields, structFields ["headers", "host", "port", "ssl"] true value = .ok fields ∧
        FieldHolds (fields "headers") deserializeStringMap (some []) c.headers ∧
        FieldHolds (fields "host") deserializeString (some defaultHost) c.host ∧
        FieldHolds (fields "port") deserializeU16 (some defaultPort) c.port ∧
        OptionalFieldHolds (fields "ssl") Ssl.Config.deserialize c.ssl := by
  simp only [Server.Config.deserialize, except_bind_eq_ok, optionalField_eq_ok, field_eq_ok,
    pure, Except.pure, Except.ok.injEq]
  constructor
  · rintro ⟨fields, hfields, headers, hheaders, host, hhost, port, hport, ssl, hssl, rfl⟩
    exact ⟨fields, hfields, hheaders, hhost, hport, hssl⟩
  · rintro ⟨fields, hfields, hheaders, hhost, hport, hssl⟩
    exact ⟨fields, hfields, _, hheaders, _, hhost, _, hport, _, hssl, rfl⟩

/-- The logging table as a whole against its three settings. -/
theorem holds_logging_iff {c : Logging.Config} :
    FieldHolds (document.lookup "logging") (Logging.Config.deserialize cr)
        (some Logging.Config.default) c ↔
      (∀ value, document.lookup "logging" = some value →
        ∃ fields, structFields ["filter", "level", "json"] true value = .ok fields ∧
          fields "level" ≠ none) ∧
      OptionalFieldHolds (Setting.given document .filter) (Logging.Filter.deserialize cr)
        c.filter ∧
      FieldHolds (Setting.given document .level) cr.deserializeLevel
        (some Logging.defaultLevel) c.level ∧
      FieldHolds (Setting.given document .json) deserializeBool (some false) c.json := by
  simp only [Setting.given, Setting.inLogging]
  cases hlookup : document.lookup "logging" with
  | none =>
    simp only [inTable_of_absent hlookup, FieldHolds, Option.some.injEq, reduceCtorEq,
      false_implies, implies_true, true_and]
    constructor
    · rintro rfl
      exact ⟨rfl, rfl, rfl⟩
    · rintro ⟨hfilter, hlevel, hjson⟩
      rw [Logging.Config.default, hfilter, hlevel, hjson]
  | some value =>
    change Logging.Config.deserialize cr value = .ok c ↔ _
    rw [Logging.Config.deserialize_eq_ok]
    constructor
    · rintro ⟨fields, hfields, hfilter, hlevel, hjson⟩
      simp only [inTable_of_fields hlookup hfields]
      refine ⟨?_, hfilter, ?_, hjson⟩
      · intro value' hvalue
        refine ⟨fields, Option.some.inj hvalue ▸ hfields, fun habsent => ?_⟩
        rw [habsent] at hlevel
        cases hlevel
      -- the table has no default for the level, so it must be given
      · cases hf : fields "level" with
        | none => rw [hf] at hlevel; cases hlevel
        | some level => rw [hf] at hlevel; exact hlevel
    · rintro ⟨htable, hfilter, hlevel, hjson⟩
      obtain ⟨fields, hfields, hgiven⟩ := htable value rfl
      simp only [inTable_of_fields hlookup hfields] at hfilter hlevel hjson
      refine ⟨fields, hfields, hfilter, ?_, hjson⟩
      obtain ⟨level, hf⟩ := Option.ne_none_iff_exists'.mp hgiven
      rw [hf] at hlevel ⊢
      exact hlevel

/-- The server table as a whole against its four settings. -/
theorem holds_server_iff {c : Server.Config} :
    FieldHolds (document.lookup "server") Server.Config.deserialize
        (some Server.Config.default) c ↔
      (∀ value, document.lookup "server" = some value →
        ∃ fields, structFields ["headers", "host", "port", "ssl"] true value = .ok fields) ∧
      FieldHolds (Setting.given document .headers) deserializeStringMap (some []) c.headers ∧
      FieldHolds (Setting.given document .host) deserializeString (some Server.defaultHost)
        c.host ∧
      FieldHolds (Setting.given document .port) deserializeU16 (some Server.defaultPort) c.port ∧
      OptionalFieldHolds (Setting.given document .ssl) Server.Ssl.Config.deserialize c.ssl := by
  simp only [Setting.given, Setting.inServer]
  cases hlookup : document.lookup "server" with
  | none =>
    simp only [inTable_of_absent hlookup, FieldHolds, Option.some.injEq, reduceCtorEq,
      false_implies, implies_true, true_and]
    constructor
    · rintro rfl
      exact ⟨rfl, rfl, rfl, rfl⟩
    · rintro ⟨hheaders, hhost, hport, hssl⟩
      rw [Server.Config.default, hheaders, hhost, hport, hssl]
  | some value =>
    change Server.Config.deserialize value = .ok c ↔ _
    rw [Server.Config.deserialize_eq_ok]
    constructor
    · rintro ⟨fields, hfields, hholds⟩
      simp only [inTable_of_fields hlookup hfields]
      exact ⟨fun _ hvalue => Option.some.inj hvalue ▸ ⟨fields, hfields⟩, hholds⟩
    · rintro ⟨htable, hholds⟩
      obtain ⟨fields, hfields⟩ := htable value rfl
      simp only [inTable_of_fields hlookup hfields] at hholds
      exact ⟨fields, hfields, hholds⟩

/-- Deserialising a document fills every setting with its given value or its
default, once the tables are accepted. -/
theorem Config.deserialize_eq_ok {c : Config} :
    Config.deserialize cr document = .ok c ↔
      TablesAccepted document ∧ Config.Gives cr document c := by
  simp only [Config.deserialize, except_bind_eq_ok, optionalField_eq_ok, field_eq_ok,
    pure, Except.pure, Except.ok.injEq]
  constructor
  · rintro ⟨name, hname, dsn, hdsn, logging, hlogging, storage, hstorage, server, hserver, rfl⟩
    obtain ⟨hlogging, hfilter, hlevel, hjson⟩ := holds_logging_iff.mp hlogging
    obtain ⟨hserver, hheaders, hhost, hport, hssl⟩ := holds_server_iff.mp hserver
    exact ⟨⟨hlogging, hserver⟩, hname, hdsn, hfilter, hlevel, hjson, hstorage, hheaders, hhost,
      hport, hssl⟩
  · rintro ⟨htables, h⟩
    exact ⟨_, h.serverName, _, h.sentryDsn, _,
      holds_logging_iff.mpr ⟨htables.logging, h.filter, h.level, h.json⟩, _, h.storage, _,
      holds_server_iff.mpr ⟨htables.server, h.headers, h.host, h.port, h.ssl⟩, rfl⟩

/-- A setting that the document does not mention is left at its default. -/
theorem Config.Gives.same_builtIn {c : Config} (h : Config.Gives cr document c) (s : Setting)
    (habsent : s.given document = none) : s.Same c Config.builtIn := by
  cases s with
  | serverName => exact h.serverName.of_absent habsent
  | sentryDsn => exact h.sentryDsn.of_absent habsent
  | filter => exact h.filter.of_absent habsent
  | level => exact h.level.of_absent habsent
  | json => exact h.json.of_absent habsent
  | storage => exact h.storage.of_absent habsent
  | headers => exact h.headers.of_absent habsent
  | host => exact h.host.of_absent habsent
  | port => exact h.port.of_absent habsent
  | ssl => exact h.ssl.of_absent habsent

end Hazel
