import Hazel.Config.Document

/-!
# Writing a configuration down

The derived `Serialize` of the configuration, against its `Deserialize`: a
field that is skipped comes back as its default, and every other field comes
back as it was written. Only the text of a log filter is checked on the way.
-/

namespace Hazel

/-- The `Serialize` instances of the types of other crates. -/
structure Serializers where
  /-- `azalia::serde::tracing`. -/
  level : Level → Toml
  dsn : Dsn → Toml
  fs : Remi.Fs.StorageConfig → Toml
  azure : Remi.Azure.StorageConfig → Toml
  s3 : Remi.S3.StorageConfig → Toml

/-- Their `Deserialize` instances read back what these write. -/
structure Serializers.Documented (cr : Crates) (s : Serializers) : Prop where
  level : ∀ level, cr.deserializeLevel (s.level level) = .ok level
  dsn : ∀ dsn, cr.deserializeDsn (s.dsn dsn) = .ok dsn
  fs : ∀ fs, cr.deserializeFs (s.fs fs) = .ok fs
  azure : ∀ azure, cr.deserializeAzure (s.azure azure) = .ok azure
  s3 : ∀ s3, cr.deserializeS3 (s.s3 s3) = .ok s3

/-- The entries of a struct in the order of its fields, without those that
`skip_serializing_if` skips. -/
def record : List (String × Option Toml) → List (String × Toml)
  | [] => []
  | (name, some value) :: fields => (name, value) :: record fields
  | (_, none) :: fields => record fields

/-- `Filter::to_env_filter`, which only its error matters of. -/
def Logging.Filter.toEnvFilter (cr : Crates) (filter : Filter) : Except String Unit :=
  cr.envFilterTryNew filter.text

/-- What a written configuration is rejected for: the text of its filter. -/
def Logging.Config.check (cr : Crates) (c : Config) : Except DeError Unit :=
  match c.filter with
  | none => .ok ()
  | some filter => (filter.toEnvFilter cr).mapError .custom

/-- The filter, if there is one, is a text that `EnvFilter` accepts. -/
def Logging.Config.Accepted (cr : Crates) (c : Logging.Config) : Prop :=
  ∀ filter, c.filter = some filter → filter.toEnvFilter cr = .ok ()

section Serialize

def Logging.Filter.serialize (filter : Filter) : Toml := .string filter.text

def Logging.Config.fields (s : Serializers) (c : Config) : List (String × Option Toml) :=
  [("filter", c.filter.map Filter.serialize),
    ("level", some (s.level c.level)),
    ("json", some (.boolean c.json))]

def Logging.Config.serialize (s : Serializers) (c : Config) : Toml :=
  .table (record (c.fields s))

def Storage.Config.serialize (s : Serializers) : Config → Toml
  | .filesystem config => .table [("filesystem", s.fs config)]
  | .azure config => .table [("azure", s.azure config)]
  | .s3 config => .table [("s3", s.s3 config)]

def Server.Ssl.Config.serialize (c : Config) : Toml :=
  .table (record [("cert_key", some (.string c.certKey)), ("cert", some (.string c.cert))])

def serializeStringMap (map : StringMap) : Toml :=
  .table (map.map fun entry => (entry.1, .string entry.2))

def Server.Config.fields (c : Config) : List (String × Option Toml) :=
  [("headers", if c.headers.isEmpty then none else some (serializeStringMap c.headers)),
    ("host", some (.string c.host)),
    ("port", some (.integer c.port.toNat)),
    ("ssl", c.ssl.map Ssl.Config.serialize)]

def Server.Config.serialize (c : Config) : Toml :=
  .table (record c.fields)

def Config.fields (s : Serializers) (c : Config) : List (String × Option Toml) :=
  [("server_name", c.serverName.map .string),
    ("sentry_dsn", c.sentryDsn.map s.dsn),
    ("logging", some (c.logging.serialize s)),
    ("storage", some (c.storage.serialize s)),
    ("server", some c.server.serialize)]

/-- The document of a configuration. -/
def Config.serialize (s : Serializers) (c : Config) : List (String × Toml) :=
  record (c.fields s)

end Serialize

section Record

variable {fields : List (String × Option Toml)} {names : List String}

theorem lookup_record_of_notMem {name : String} (h : name ∉ fields.map Prod.fst) :
    (record fields).lookup name = none := by
  induction fields with
  | nil => rfl
  | cons head tail ih =>
    obtain ⟨key, value⟩ := head
    rw [List.map_cons, List.mem_cons, not_or] at h
    obtain ⟨hne, htail⟩ := h
    cases value with
    | none => exact ih htail
    | some value =>
      rw [record, List.lookup_cons, beq_false_of_ne hne]
      exact ih htail

/-- The entry of a field is its value, if it is written. -/
theorem lookup_record (hnames : fields.map Prod.fst = names) (hnodup : names.Nodup)
    (name : String) : (record fields).lookup name = (fields.lookup name).join := by
  subst hnames
  induction fields with
  | nil => rfl
  | cons head tail ih =>
    obtain ⟨key, value⟩ := head
    rw [List.map_cons, List.nodup_cons] at hnodup
    obtain ⟨hfresh, hnodup⟩ := hnodup
    by_cases hkey : name = key
    · subst hkey
      rw [List.lookup_cons_self]
      cases value with
      -- no field further down has the name of one that is skipped
      | none =>
        show (record tail).lookup name = none
        exact lookup_record_of_notMem hfresh
      | some value => rw [record, List.lookup_cons_self, Option.join_some]
    · rw [List.lookup_cons, beq_false_of_ne hkey]
      cases value with
      | none => exact ih hnodup
      | some value =>
        rw [record, List.lookup_cons, beq_false_of_ne hkey]
        exact ih hnodup

theorem mem_names_of_mem_record {entry : String × Toml} (h : entry ∈ record fields) :
    entry.1 ∈ fields.map Prod.fst := by
  induction fields with
  | nil => cases h
  | cons head tail ih =>
    obtain ⟨key, value⟩ := head
    cases value with
    | none => exact List.mem_cons_of_mem key (ih h)
    | some value =>
      rcases List.mem_cons.mp h with rfl | hmem
      · exact List.mem_cons_self
      · exact List.mem_cons_of_mem key (ih hmem)

/-- A struct that is written has no field that reading it does not know. -/
theorem structFields_record (hnames : fields.map Prod.fst = names) (hnodup : names.Nodup) :
    structFields names true (.table (record fields)) =
      .ok fun name => (fields.lookup name).join := by
  have hknown : (record fields).find? (fun entry => true && !names.contains entry.1) = none := by
    apply List.find?_eq_none.mpr
    intro entry hentry
    have hmem := mem_names_of_mem_record hentry
    rw [hnames] at hmem
    simp [hmem]
  rw [structFields, hknown]
  apply congrArg Except.ok
  funext name
  exact lookup_record hnames hnodup name

end Record

/-- An optional field holds the value that it was written from. -/
theorem holds_map_some {α : Type} {write : α → Toml} {deserialize : Toml → Except DeError α}
    (h : ∀ b, deserialize (write b) = .ok b) (a : Option α) :
    OptionalFieldHolds (a.map write) deserialize a := by
  cases a with
  | none => rfl
  | some b =>
    show (deserialize (write b)).map some = .ok (some b)
    rw [h b]
    rfl

section RoundTrip

theorem deserializeStringMap_serialize (map : StringMap) :
    deserializeStringMap (serializeStringMap map) = .ok map := by
  rw [serializeStringMap, deserializeStringMap, List.mapM_map]
  induction map with
  | nil => rfl
  | cons entry map ih =>
    rw [List.mapM_cons, ih]
    rfl

theorem deserializeU16_toNat (n : UInt16) : deserializeU16 (.integer n.toNat) = .ok n := by
  have hlt : n.toNat < 65536 := n.toNat_lt
  have hrange : (0 : Int) ≤ n.toNat ∧ (n.toNat : Int) < 65536 := by omega
  rw [deserializeU16, if_pos hrange, Int.toNat_natCast, UInt16.ofNat_toNat]

theorem Server.Ssl.Config.deserialize_serialize (c : Server.Ssl.Config) :
    Server.Ssl.Config.deserialize c.serialize = .ok c := by
  rfl

theorem Server.Config.deserialize_serialize (c : Server.Config) :
    Server.Config.deserialize c.serialize = .ok c := by
  apply Server.Config.deserialize_eq_ok.mpr
  refine ⟨_, structFields_record rfl (by decide), ?_, rfl, deserializeU16_toNat c.port, ?_⟩
  · show FieldHolds (if c.headers.isEmpty then none else some (serializeStringMap c.headers))
      deserializeStringMap (some []) c.headers
    by_cases hempty : c.headers.isEmpty
    · rw [if_pos hempty, List.isEmpty_iff.mp hempty]
      rfl
    · rw [if_neg hempty]
      exact deserializeStringMap_serialize c.headers
  · exact holds_map_some Ssl.Config.deserialize_serialize c.ssl

variable {cr : Crates} {s : Serializers} (hs : s.Documented cr)

theorem Logging.Filter.deserialize_serialize (cr : Crates) (filter : Logging.Filter) :
    Logging.Filter.deserialize cr filter.serialize =
      ((filter.toEnvFilter cr).mapError DeError.custom).map fun _ => filter := by
  show ((cr.envFilterTryNew filter.text).map fun _ => filter).mapError DeError.custom = _
  unfold Logging.Filter.toEnvFilter
  cases cr.envFilterTryNew filter.text <;> rfl

include hs

theorem Logging.Config.deserialize_serialize (c : Logging.Config) :
    Logging.Config.deserialize cr (c.serialize s) = (c.check cr).map fun _ => c := by
  have hfields : structFields ["filter", "level", "json"] true (c.serialize s) =
      .ok fun name => ((c.fields s).lookup name).join := structFields_record rfl (by decide)
  have hlevel : field (fun name => ((c.fields s).lookup name).join) "level" cr.deserializeLevel
      none = .ok c.level := hs.level c.level
  rw [Logging.Config.deserialize, hfields]
  obtain ⟨filter, level, json⟩ := c
  cases filter with
  | none =>
    show (field _ "level" cr.deserializeLevel none).bind _ = _
    rw [hlevel]
    rfl
  | some filter =>
    show ((Logging.Filter.deserialize cr filter.serialize).map some).bind _ = _
    rw [Logging.Filter.deserialize_serialize]
    simp only [Logging.Config.check]
    cases filter.toEnvFilter cr with
    | error e => rfl
    | ok =>
      show (field _ "level" cr.deserializeLevel none).bind _ = _
      rw [hlevel]
      rfl

theorem Storage.Config.deserialize_serialize (c : Storage.Config) :
    Storage.Config.deserialize cr (c.serialize s) = .ok c := by
  cases c with
  | filesystem config =>
    show (cr.deserializeFs (s.fs config)).map Storage.Config.filesystem = _
    rw [hs.fs]
    rfl
  | azure config =>
    show (cr.deserializeAzure (s.azure config)).map Storage.Config.azure = _
    rw [hs.azure]
    rfl
  | s3 config =>
    show (cr.deserializeS3 (s.s3 config)).map Storage.Config.s3 = _
    rw [hs.s3]
    rfl

end RoundTrip

section Reference

/-- A text that may be missing, in an array. -/
def optionalText : Option String → Toml
  | some text => .string text
  | none => .boolean false

def readOptionalText : Toml → Option String
  | .string text => some text
  | _ => none

theorem readOptionalText_optionalText (text : Option String) :
    readOptionalText (optionalText text) = text := by
  cases text <;> rfl

def levelName : Level → String
  | .trace => "trace"
  | .debug => "debug"
  | .info => "info"
  | .warn => "warn"
  | .error => "error"

def credentialEntry : Remi.Azure.Credential → List Toml
  | .anonymous => []
  | .accessKey account accessKey => [.string "accesskey", .string account, .string accessKey]
  | .sasToken token => [.string "sastoken", .string token]
  | .bearer token => [.string "bearer", .string token]

def readCredential : Toml → Except DeError Remi.Azure.Credential
  | .array [] => .ok .anonymous
  | .array [_, .string account, .string accessKey] => .ok (.accessKey account accessKey)
  | .array [.string kind, .string token] =>
    .ok (if kind = "bearer" then .bearer token else .sasToken token)
  | _ => .error .invalidType

def locationEntry : Remi.Azure.CloudLocation → List Toml
  | .publicCloud account => [.string "public", .string account]
  | .china account => [.string "china", .string account]
  | .custom account uri => [.string "custom", .string account, .string uri]

def readLocation : Toml → Except DeError Remi.Azure.CloudLocation
  | .array [_, .string account, .string uri] => .ok (.custom account uri)
  | .array [.string kind, .string account] =>
    .ok (if kind = "china" then .china account else .publicCloud account)
  | _ => .error .invalidType

def Serializers.reference : Serializers where
  level level := .string (levelName level)
  dsn dsn := .string dsn.text
  fs fs := .table [("directory", .string fs.directory)]
  azure azure := .array [.array (credentialEntry azure.credentials),
    .array (locationEntry azure.location), .string azure.container]
  s3 s3 := .array [.boolean s3.enableSignerV4Requests, .boolean s3.enforcePathAccessStyle,
    optionalText (s3.defaultBucketAcl.map Remi.BucketCannedAcl.name),
    optionalText (s3.defaultObjectAcl.map Remi.ObjectCannedAcl.name),
    .string s3.secretAccessKey, .string s3.accessKeyId, optionalText s3.appName,
    optionalText s3.endpoint, optionalText s3.keyPrefix,
    optionalText (s3.region.map Remi.Region.name), .string s3.bucket]

/-- The reference crates with a grammar for each storage backend. -/
def Crates.referenceSerde : Crates :=
  { Crates.reference with
    deserializeAzure
      | .array [credentials, location, .string container] => do
        let credentials ← readCredential credentials
        let location ← readLocation location
        pure { credentials, location, container }
      | _ => .error .invalidType
    deserializeS3
      | .array [.boolean enableSignerV4Requests, .boolean enforcePathAccessStyle, bucketAcl,
          objectAcl, .string secretAccessKey, .string accessKeyId, appName, endpoint, keyPrefix,
          region, .string bucket] =>
        .ok {
          enableSignerV4Requests, enforcePathAccessStyle, secretAccessKey, accessKeyId, bucket
          defaultBucketAcl := (readOptionalText bucketAcl).map .mk
          defaultObjectAcl := (readOptionalText objectAcl).map .mk
          appName := readOptionalText appName
          endpoint := readOptionalText endpoint
          keyPrefix := readOptionalText keyPrefix
          region := (readOptionalText region).map .mk }
      | _ => .error .invalidType }

theorem Serializers.reference_documented :
    Serializers.reference.Documented Crates.referenceSerde where
  level level := by cases level <;> rfl
  dsn _ := rfl
  fs _ := rfl
  azure azure := by
    obtain ⟨credentials, location, container⟩ := azure
    cases credentials <;> cases location <;> rfl
  s3 s3 := by
    obtain ⟨_, _, bucketAcl, objectAcl, _, _, appName, endpoint, keyPrefix, region, _⟩ := s3
    simp only [Serializers.reference, Crates.referenceSerde, readOptionalText_optionalText,
      Option.map_map, Function.comp_def, Option.map_id']

end Reference

end Hazel
