import Hazel.Config.Isolation
import Hazel.Config.Load

/-!
# What an environment settles on

For each part of the configuration, the relation between the environment and
the value loaded from it, and the proof that loading computes it. Later results
about loading cite these and never unfold a loading function.
-/

namespace Hazel

open Query

section Reads

variable {V : Type} {env : Environment} {v : V}

theorem boolEnv_eq_ok (cr : Crates) (key : String) {v : Bool} :
    (Util.boolEnv cr key).run env = .ok v ↔
      settled (fun text => .ok (cr.truthyRegexIsMatch text)) (some false) (env key) = some v :=
  (isRead_boolEnv cr key).run_eq_ok

theorem envFromStr_eq_ok (fromStr : String → Except String V) (key : String) (default : V) :
    (Util.envFromStr fromStr key default).run env = .ok v ↔
      settled fromStr (some default) (env key) = some v :=
  (isRead_envFromStr fromStr key default).run_eq_ok

variable {cr : Crates} (hcr : cr.DocumentedEnv) (key : String)
include hcr

theorem tryParse_eq_ok (parse : String → Except String V) :
    (Env.tryParse cr parse key).question.run env = .ok v ↔
      settled parse none (env key) = some v :=
  (isRead_tryParse hcr key parse).run_eq_ok

theorem tryParseOr_eq_ok (parse : String → Except String V) (default : Unit → V) :
    (Env.tryParseOr cr parse key default).question.run env = .ok v ↔
      settled parse (some (default ())) (env key) = some v :=
  (isRead_tryParseOr hcr key parse default).run_eq_ok

theorem tryParseOrElse_eq_ok (parse : String → Except String V) (default : V) :
    (Env.tryParseOrElse cr parse key default).question.run env = .ok v ↔
      settled parse (some default) (env key) = some v :=
  (isRead_tryParseOrElse hcr key parse default).run_eq_ok

theorem tryParseOptional_eq_ok (parse : String → Except String V) {v : Option V} :
    (Env.tryParseOptional cr parse key).question.run env = .ok v ↔
      settled (fun text => (parse text).map some) (some none) (env key) = some v :=
  (isRead_tryParseOptional hcr key parse).run_eq_ok

end Reads

/-- The settled value of an optional variable. -/
abbrev settledOptional {V : Type} (parse : String → Except String V) :
    Except VarError String → Option (Option V) :=
  settled (fun text => (parse text).map some) (some none)

/-- The settled value of a boolean variable. -/
abbrev settledBool (cr : Crates) : Except VarError String → Option Bool :=
  settled (fun text => .ok (cr.truthyRegexIsMatch text)) (some false)

/-- Any text is a value, so a required text settles on what is set. -/
theorem settled_text_none {var : Except VarError String} {text : String} :
    settled textFromEnvValue none var = some text ↔ var = .ok text := by
  rcases var with (_ | raw) | s <;> simp [settled, textFromEnvValue, Except.toOption]

variable {cr : Crates} {env : Environment} {V : Type}

namespace Logging

structure Config.Settles (cr : Crates) (env : Environment) (c : Config) : Prop where
  filter : settledOptional (Filter.tryFromEnvValue cr) (env FILTER) = some c.filter
  json : settledBool cr (env JSON) = some c.json
  level : settled cr.levelFromEnvValue (some defaultLevel) (env LEVEL) = some c.level

theorem Config.tryFromEnv_eq_ok (hcr : cr.DocumentedEnv) {c : Config} :
    (Config.tryFromEnv cr).run env = .ok c ↔ Config.Settles cr env c := by
  simp only [Config.tryFromEnv, Prog.run_bind_eq_ok, tryParseOptional_eq_ok hcr,
    boolEnv_eq_ok, tryParseOr_eq_ok hcr, Prog.run_pure, Except.ok.injEq]
  constructor
  · rintro ⟨filter, hfilter, json, hjson, level, hlevel, rfl⟩
    exact ⟨hfilter, hjson, hlevel⟩
  · intro h
    exact ⟨_, h.filter, _, h.json, _, h.level, rfl⟩

end Logging

namespace Storage

namespace S3

structure Settles (cr : Crates) (env : Environment) (c : Remi.S3.StorageConfig) : Prop where
  enableSignerV4Requests :
    settledBool cr (env ENABLE_SIGNER_V4_REQUESTS) = some c.enableSignerV4Requests
  enforcePathAccessStyle :
    settledBool cr (env ENFORCE_PATH_ACCESS_STYLE) = some c.enforcePathAccessStyle
  defaultBucketAcl : ∃ acl, settled cr.bucketCannedAclFromStr (some DEFAULT_BUCKET_CANNED_ACL)
    (env DEFAULT_BUCKET_ACL) = some acl ∧ c.defaultBucketAcl = some acl
  defaultObjectAcl : ∃ acl, settled cr.objectCannedAclFromStr (some DEFAULT_OBJECT_CANNED_ACL)
    (env DEFAULT_OBJECT_ACL) = some acl ∧ c.defaultObjectAcl = some acl
  secretAccessKey : env SECRET_ACCESS_KEY = .ok c.secretAccessKey
  accessKeyId : env ACCESS_KEY_ID = .ok c.accessKeyId
  appName : settledOptional textFromEnvValue (env APP_NAME) = some c.appName
  endpoint : settledOptional textFromEnvValue (env ENDPOINT) = some c.endpoint
  keyPrefix : settledOptional textFromEnvValue (env PREFIX) = some c.keyPrefix
  region : ∃ region, settled regionFromEnvValue (some ⟨"us-east-1"⟩) (env REGION) =
    some region ∧ c.region = some region
  bucket : ∃ bucket, settledOptional textFromEnvValue (env BUCKET) = some bucket ∧
    c.bucket = bucket.getD "charted"

theorem createConfig_eq_ok (hcr : cr.DocumentedEnv) {c : Remi.S3.StorageConfig} :
    (createConfig cr).run env = .ok c ↔ Settles cr env c := by
  simp only [createConfig, Prog.run_bind_eq_ok, boolEnv_eq_ok, envFromStr_eq_ok,
    tryParse_eq_ok hcr, tryParseOptional_eq_ok hcr, tryParseOrElse_eq_ok hcr,
    settled_text_none, Prog.run_pure, Except.ok.injEq]
  constructor
  · rintro ⟨signer, hsigner, style, hstyle, bucketAcl, hbucketAcl, objectAcl, hobjectAcl,
      secret, hsecret, keyId, hkeyId, appName, happName, endpoint, hendpoint, keyPrefix,
      hkeyPrefix, region, hregion, bucket, hbucket, rfl⟩
    exact ⟨hsigner, hstyle, ⟨_, hbucketAcl, rfl⟩, ⟨_, hobjectAcl, rfl⟩, hsecret, hkeyId,
      happName, hendpoint, hkeyPrefix, ⟨_, hregion, rfl⟩, ⟨_, hbucket, rfl⟩⟩
  · intro h
    obtain ⟨bucketAcl, hbucketAcl, hb⟩ := h.defaultBucketAcl
    obtain ⟨objectAcl, hobjectAcl, ho⟩ := h.defaultObjectAcl
    obtain ⟨region, hregion, hr⟩ := h.region
    obtain ⟨bucket, hbucket, hk⟩ := h.bucket
    refine ⟨_, h.enableSignerV4Requests, _, h.enforcePathAccessStyle, _, hbucketAcl, _,
      hobjectAcl, _, h.secretAccessKey, _, h.accessKeyId, _, h.appName, _, h.endpoint, _,
      h.keyPrefix, _, hregion, _, hbucket, ?_⟩
    rw [← hb, ← ho, ← hr, ← hk]

end S3

namespace Azure

open Remi.Azure (Credential CloudLocation)

theorem requiredText_eq_ok (hcr : cr.DocumentedEnv) {key text : String} :
    (requiredText cr key).run env = .ok text ↔ env key = .ok text := by
  rw [requiredText, tryParse_eq_ok hcr, settled_text_none]

/-- The names that select each kind of credential. -/
def credentialNames : Credential → List String
  | .anonymous => ["anonymous", "anon", ""]
  | .accessKey _ _ => ["accesskey", "access-key", "access_key"]
  | .sasToken _ => ["sastoken", "sas-token", "sas_token"]
  | .bearer _ => ["bearer"]

/-- The names that select each kind of location. -/
def locationNames : CloudLocation → List String
  | .publicCloud _ => ["public", ""]
  | .china _ => ["china"]
  | .custom _ _ => ["custom"]

/-- The variables of each kind of credential hold its strings. -/
def CredentialSet (env : Environment) : Credential → Prop
  | .anonymous => True
  | .accessKey account accessKey =>
    env ACCESS_KEY_ACCOUNT = .ok account ∧ env ACCESS_KEY = .ok accessKey
  | .sasToken token => env SAS_TOKEN = .ok token
  | .bearer token => env BEARER = .ok token

/-- The variables of each kind of location hold its strings. -/
def LocationSet (env : Environment) : CloudLocation → Prop
  | .publicCloud account => env ACCOUNT = .ok account
  | .china account => env ACCOUNT = .ok account
  | .custom account uri => env ACCOUNT = .ok account ∧ env URI = .ok uri

structure Settles (env : Environment) (c : Remi.Azure.StorageConfig) : Prop where
  credential : Selects env CREDENTIAL (credentialNames c.credentials)
  credentialSet : CredentialSet env c.credentials
  location : Selects env LOCATION (locationNames c.location)
  locationSet : LocationSet env c.location
  container : ∃ container, settledOptional textFromEnvValue (env CONTAINER) = some container ∧
    c.container = container.getD "charted"

theorem accessKeyCredential_eq_ok (hcr : cr.DocumentedEnv) {c : Credential} :
    (accessKeyCredential cr).run env = .ok c ↔ ∃ account accessKey,
      c = .accessKey account accessKey ∧ CredentialSet env (.accessKey account accessKey) := by
  simp only [accessKeyCredential, Prog.run_bind_eq_ok, requiredText_eq_ok hcr, Prog.run_pure,
    Except.ok.injEq, CredentialSet]
  constructor
  · rintro ⟨account, haccount, accessKey, hkey, rfl⟩
    exact ⟨account, accessKey, rfl, haccount, hkey⟩
  · rintro ⟨account, accessKey, rfl, haccount, hkey⟩
    exact ⟨account, haccount, accessKey, hkey, rfl⟩

/-- An arm that wraps one required text in a constructor. -/
theorem oneText_eq_ok (hcr : cr.DocumentedEnv) {α : Type} {key : String} {mk : String → α}
    {a : α} : (do pure (mk (← requiredText cr key)) : EnvM α).run env = .ok a ↔
      ∃ text, a = mk text ∧ env key = .ok text := by
  simp only [Prog.run_bind_eq_ok, requiredText_eq_ok hcr, Prog.run_pure, Except.ok.injEq]
  constructor
  · rintro ⟨text, htext, rfl⟩
    exact ⟨text, rfl, htext⟩
  · rintro ⟨text, rfl, htext⟩
    exact ⟨text, htext, rfl⟩

theorem customLocation_eq_ok (hcr : cr.DocumentedEnv) {l : CloudLocation} :
    (customLocation cr).run env = .ok l ↔ ∃ account uri,
      l = .custom account uri ∧ LocationSet env (.custom account uri) := by
  simp only [customLocation, Prog.run_bind_eq_ok, requiredText_eq_ok hcr, Prog.run_pure,
    Except.ok.injEq, LocationSet]
  constructor
  · rintro ⟨account, haccount, uri, huri, rfl⟩
    exact ⟨account, uri, rfl, haccount, huri⟩
  · rintro ⟨account, uri, rfl, haccount, huri⟩
    exact ⟨account, haccount, uri, huri, rfl⟩

theorem createCredentialsConfig_eq_ok (hcr : cr.DocumentedEnv) {c : Credential} :
    (createCredentialsConfig cr).run env = .ok c ↔
      Selects env CREDENTIAL (credentialNames c) ∧ CredentialSet env c := by
  rw [createCredentialsConfig, enumValue_eq_ok hcr]
  constructor
  · rintro ⟨name, p, hname, hp, hrun⟩
    rcases (credentialFields_eq_some cr).mp hp with
      ⟨hmem, rfl⟩ | ⟨hmem, rfl⟩ | ⟨hmem, rfl⟩ | ⟨hmem, rfl⟩
    · cases hrun
      exact ⟨⟨name, hmem, hname⟩, trivial⟩
    · obtain ⟨account, accessKey, rfl, hset⟩ := (accessKeyCredential_eq_ok hcr).mp hrun
      exact ⟨⟨name, hmem, hname⟩, hset⟩
    · obtain ⟨token, rfl, htoken⟩ := (oneText_eq_ok hcr).mp hrun
      exact ⟨⟨name, hmem, hname⟩, htoken⟩
    · obtain ⟨token, rfl, htoken⟩ := (oneText_eq_ok hcr).mp hrun
      exact ⟨⟨name, hmem, hname⟩, htoken⟩
  · rintro ⟨⟨name, hmem, hname⟩, hset⟩
    cases c with
    | anonymous =>
      exact ⟨name, _, hname, (credentialFields_eq_some cr).mpr (.inl ⟨hmem, rfl⟩), rfl⟩
    | accessKey account accessKey =>
      exact ⟨name, _, hname, (credentialFields_eq_some cr).mpr (.inr (.inl ⟨hmem, rfl⟩)),
        (accessKeyCredential_eq_ok hcr).mpr ⟨account, accessKey, rfl, hset⟩⟩
    | sasToken token =>
      exact ⟨name, _, hname,
        (credentialFields_eq_some cr).mpr (.inr (.inr (.inl ⟨hmem, rfl⟩))),
        (oneText_eq_ok hcr).mpr ⟨token, rfl, hset⟩⟩
    | bearer token =>
      exact ⟨name, _, hname,
        (credentialFields_eq_some cr).mpr (.inr (.inr (.inr ⟨hmem, rfl⟩))),
        (oneText_eq_ok hcr).mpr ⟨token, rfl, hset⟩⟩

theorem createLocation_eq_ok (hcr : cr.DocumentedEnv) {l : CloudLocation} :
    (createLocation cr).run env = .ok l ↔
      Selects env LOCATION (locationNames l) ∧ LocationSet env l := by
  rw [createLocation, enumValue_eq_ok hcr]
  constructor
  · rintro ⟨name, p, hname, hp, hrun⟩
    rcases (locationFields_eq_some cr).mp hp with ⟨hmem, rfl⟩ | ⟨hmem, rfl⟩ | ⟨hmem, rfl⟩
    · obtain ⟨account, rfl, haccount⟩ := (oneText_eq_ok hcr).mp hrun
      exact ⟨⟨name, hmem, hname⟩, haccount⟩
    · obtain ⟨account, rfl, haccount⟩ := (oneText_eq_ok hcr).mp hrun
      exact ⟨⟨name, hmem, hname⟩, haccount⟩
    · obtain ⟨account, uri, rfl, hset⟩ := (customLocation_eq_ok hcr).mp hrun
      exact ⟨⟨name, hmem, hname⟩, hset⟩
  · rintro ⟨⟨name, hmem, hname⟩, hset⟩
    cases l with
    | publicCloud account =>
      exact ⟨name, _, hname, (locationFields_eq_some cr).mpr (.inl ⟨hmem, rfl⟩),
        (oneText_eq_ok hcr).mpr ⟨account, rfl, hset⟩⟩
    | china account =>
      exact ⟨name, _, hname, (locationFields_eq_some cr).mpr (.inr (.inl ⟨hmem, rfl⟩)),
        (oneText_eq_ok hcr).mpr ⟨account, rfl, hset⟩⟩
    | custom account uri =>
      exact ⟨name, _, hname, (locationFields_eq_some cr).mpr (.inr (.inr ⟨hmem, rfl⟩)),
        (customLocation_eq_ok hcr).mpr ⟨account, uri, rfl, hset⟩⟩

theorem createConfig_eq_ok (hcr : cr.DocumentedEnv) {c : Remi.Azure.StorageConfig} :
    (createConfig cr).run env = .ok c ↔ Settles env c := by
  simp only [createConfig, Prog.run_bind_eq_ok, createCredentialsConfig_eq_ok hcr,
    createLocation_eq_ok hcr, tryParseOptional_eq_ok hcr, Prog.run_pure, Except.ok.injEq]
  constructor
  · rintro ⟨credentials, ⟨hc, hcs⟩, location, ⟨hl, hls⟩, container, hcontainer, rfl⟩
    exact ⟨hc, hcs, hl, hls, container, hcontainer, rfl⟩
  · intro h
    obtain ⟨container, hcontainer, hk⟩ := h.container
    refine ⟨_, ⟨h.credential, h.credentialSet⟩, _, ⟨h.location, h.locationSet⟩, _,
      hcontainer, ?_⟩
    rw [← hk]

end Azure

/-- The names that select each backend. -/
def serviceNames : Config → List String
  | .filesystem _ => ["filesystem", "fs", ""]
  | .azure _ => ["azure"]
  | .s3 _ => ["s3"]

/-- What the backend of each configuration settles on. The directory has no way
to fail. -/
def BackendSettles (cr : Crates) (env : Environment) : Config → Prop
  | .filesystem fs =>
    fs.directory = (settled textFromEnvValue none (env Filesystem.DIRECTORY)).getD "./data"
  | .azure azure => Azure.Settles env azure
  | .s3 s3 => S3.Settles cr env s3

theorem filesystemService_eq_ok (hcr : cr.DocumentedEnv) {c : Config} :
    (filesystemService cr).run env = .ok c ↔
      ∃ fs, c = .filesystem fs ∧ BackendSettles cr env (.filesystem fs) := by
  have hread := hcr.tryParse textFromEnvValue (env Filesystem.DIRECTORY)
  simp only [BackendSettles, ← hread]
  constructor
  · intro h
    cases h
    exact ⟨_, rfl, rfl⟩
  · rintro ⟨⟨directory⟩, rfl, rfl⟩
    rfl

theorem azureService_eq_ok (hcr : cr.DocumentedEnv) {c : Config} :
    (azureService cr).run env = .ok c ↔ ∃ azure, c = .azure azure ∧ Azure.Settles env azure := by
  simp only [azureService, Prog.run_bind_eq_ok, Azure.createConfig_eq_ok hcr, Prog.run_pure,
    Except.ok.injEq]
  constructor
  · rintro ⟨azure, hazure, rfl⟩
    exact ⟨azure, rfl, hazure⟩
  · rintro ⟨azure, rfl, hazure⟩
    exact ⟨azure, hazure, rfl⟩

theorem s3Service_eq_ok (hcr : cr.DocumentedEnv) {c : Config} :
    (s3Service cr).run env = .ok c ↔ ∃ s3, c = .s3 s3 ∧ S3.Settles cr env s3 := by
  simp only [s3Service, Prog.run_bind_eq_ok, S3.createConfig_eq_ok hcr, Prog.run_pure,
    Except.ok.injEq]
  constructor
  · rintro ⟨s3, hs3, rfl⟩
    exact ⟨s3, rfl, hs3⟩
  · rintro ⟨s3, rfl, hs3⟩
    exact ⟨s3, hs3, rfl⟩

structure Config.Settles (cr : Crates) (env : Environment) (c : Config) : Prop where
  service : Selects env SERVICE (serviceNames c)
  backend : BackendSettles cr env c

theorem Config.tryFromEnv_eq_ok (hcr : cr.DocumentedEnv) {c : Config} :
    (Config.tryFromEnv cr).run env = .ok c ↔ Config.Settles cr env c := by
  rw [Config.tryFromEnv, enumValue_eq_ok hcr]
  constructor
  · rintro ⟨name, p, hname, hp, hrun⟩
    rcases (serviceFields_eq_some cr).mp hp with ⟨hmem, rfl⟩ | ⟨hmem, rfl⟩ | ⟨hmem, rfl⟩
    · obtain ⟨fs, rfl, hfs⟩ := (filesystemService_eq_ok hcr).mp hrun
      exact ⟨⟨name, hmem, hname⟩, hfs⟩
    · obtain ⟨azure, rfl, hazure⟩ := (azureService_eq_ok hcr).mp hrun
      exact ⟨⟨name, hmem, hname⟩, hazure⟩
    · obtain ⟨s3, rfl, hs3⟩ := (s3Service_eq_ok hcr).mp hrun
      exact ⟨⟨name, hmem, hname⟩, hs3⟩
  · rintro ⟨⟨name, hmem, hname⟩, hbackend⟩
    cases c with
    | filesystem fs =>
      exact ⟨name, _, hname, (serviceFields_eq_some cr).mpr (.inl ⟨hmem, rfl⟩),
        (filesystemService_eq_ok hcr).mpr ⟨fs, rfl, hbackend⟩⟩
    | azure azure =>
      exact ⟨name, _, hname, (serviceFields_eq_some cr).mpr (.inr (.inl ⟨hmem, rfl⟩)),
        (azureService_eq_ok hcr).mpr ⟨azure, rfl, hbackend⟩⟩
    | s3 s3 =>
      exact ⟨name, _, hname, (serviceFields_eq_some cr).mpr (.inr (.inr ⟨hmem, rfl⟩)),
        (s3Service_eq_ok hcr).mpr ⟨s3, rfl, hbackend⟩⟩

end Storage

namespace Server

namespace Ssl

theorem requiredPath_eq_ok (hcr : cr.DocumentedEnv) {key text : String} :
    (requiredPath cr key).run env = .ok text ↔ env key = .ok text := by
  have hread : IsRead (requiredPath cr key) key textFromEnvValue none :=
    ⟨fun _ => rfl, fun env =>
      (toOption_mapError _ _).trans (hcr.tryParse textFromEnvValue (env key))⟩
  rw [hread.run_eq_ok, settled_text_none]

structure Config.Settles (env : Environment) (c : Config) : Prop where
  certKey : env CERT_KEY = .ok c.certKey
  cert : env CERT = .ok c.cert

theorem Config.tryFromEnv_eq_ok (hcr : cr.DocumentedEnv) {c : Config} :
    (Config.tryFromEnv cr).run env = .ok c ↔ Config.Settles env c := by
  simp only [Config.tryFromEnv, Prog.run_bind_eq_ok, requiredPath_eq_ok hcr, Prog.run_pure,
    Except.ok.injEq]
  constructor
  · rintro ⟨certKey, hcertKey, cert, hcert, rfl⟩
    exact ⟨hcertKey, hcert⟩
  · intro h
    exact ⟨_, h.certKey, _, h.cert, rfl⟩

end Ssl

/-- The TLS block is there exactly when it is enabled, and then both of its
paths are set. -/
def SslSettles (cr : Crates) (env : Environment) (ssl : Option Ssl.Config) : Prop :=
  settledBool cr (env Ssl.ENABLED) = some ssl.isSome ∧ ∀ c ∈ ssl, Ssl.Config.Settles env c

structure Config.Settles (cr : Crates) (env : Environment) (c : Config) : Prop where
  headers : c.headers = (settled cr.mapFromEnvValue none (env HEADERS)).getD []
  host : ∃ generic, settled textFromEnvValue (some defaultHost) (env HOST.2) = some generic ∧
    settled textFromEnvValue (some generic) (env HOST.1) = some c.host
  port : ∃ generic, settled u16FromStr (some defaultPort) (env PORT.2) = some generic ∧
    settled u16FromStr (some generic) (env PORT.1) = some c.port
  ssl : SslSettles cr env c.ssl

theorem sslFromEnv_eq_ok (hcr : cr.DocumentedEnv) {ssl : Option Ssl.Config} :
    (sslFromEnv cr).run env = .ok ssl ↔ SslSettles cr env ssl := by
  simp only [sslFromEnv, Prog.run_bind_eq_ok, boolEnv_eq_ok]
  constructor
  · rintro ⟨enabled, henabled, hrun⟩
    cases enabled with
    | false =>
      cases hrun
      exact ⟨henabled, fun _ hmem => absurd hmem (Option.not_mem_none _)⟩
    | true =>
      simp only [if_true, Prog.run_bind_eq_ok, Ssl.Config.tryFromEnv_eq_ok hcr,
        Prog.run_pure, Except.ok.injEq] at hrun
      obtain ⟨c, hc, rfl⟩ := hrun
      exact ⟨henabled, fun _ hmem => Option.some.inj hmem ▸ hc⟩
  · rintro ⟨henabled, hssl⟩
    refine ⟨_, henabled, ?_⟩
    cases ssl with
    | none => rfl
    | some c =>
      simp only [Option.isSome_some, if_true, Prog.run_bind_eq_ok,
        Ssl.Config.tryFromEnv_eq_ok hcr, Prog.run_pure]
      exact ⟨c, hssl c rfl, rfl⟩

theorem tryParse_run (parse : String → Except String V) (key : String) :
    (Env.tryParse cr parse key).run env = .ok (cr.tryParse parse (env key)) := rfl

theorem Config.tryFromEnv_eq_ok (hcr : cr.DocumentedEnv) {c : Config} :
    (Config.tryFromEnv cr).run env = .ok c ↔ Config.Settles cr env c := by
  have hheaders := hcr.tryParse cr.mapFromEnvValue (env HEADERS)
  simp only [Config.tryFromEnv, Prog.run_bind_eq_ok, tryParse_run,
    tryParseOrElse_eq_ok hcr, sslFromEnv_eq_ok hcr, Prog.run_pure, Except.ok.injEq]
  constructor
  · rintro ⟨headers, rfl, genericHost, hgenericHost, host, hhost, genericPort, hgenericPort,
      port, hport, ssl, hssl, rfl⟩
    exact ⟨by rw [← hheaders], ⟨_, hgenericHost, hhost⟩, ⟨_, hgenericPort, hport⟩, hssl⟩
  · intro h
    obtain ⟨genericHost, hgenericHost, hhost⟩ := h.host
    obtain ⟨genericPort, hgenericPort, hport⟩ := h.port
    refine ⟨_, rfl, _, hgenericHost, _, hhost, _, hgenericPort, _, hport, _, h.ssl, ?_⟩
    rw [hheaders, ← h.headers]

end Server

structure Config.Settles (cr : Crates) (env : Environment) (c : Config) : Prop where
  serverName : settledOptional textFromEnvValue (env SERVER_NAME) = some c.serverName
  sentryDsn : settledOptional cr.dsnFromEnvValue (env SENTRY_DSN) = some c.sentryDsn
  logging : Logging.Config.Settles cr env c.logging
  storage : Storage.Config.Settles cr env c.storage
  server : Server.Config.Settles cr env c.server

/-- Loading from the environment computes what the environment settles on. -/
theorem Config.tryFromEnv_eq_ok (hcr : cr.DocumentedEnv) {c : Config} :
    (Config.tryFromEnv cr).run env = .ok c ↔ Config.Settles cr env c := by
  simp only [Config.tryFromEnv, Prog.run_bind_eq_ok, tryParseOptional_eq_ok hcr,
    Logging.Config.tryFromEnv_eq_ok hcr, Storage.Config.tryFromEnv_eq_ok hcr,
    Server.Config.tryFromEnv_eq_ok hcr, Prog.run_pure, Except.ok.injEq]
  constructor
  · rintro ⟨name, hname, dsn, hdsn, logging, hlogging, storage, hstorage, server, hserver,
      rfl⟩
    exact ⟨hname, hdsn, hlogging, hstorage, hserver⟩
  · intro h
    exact ⟨_, h.serverName, _, h.sentryDsn, _, h.logging, _, h.storage, _, h.server, rfl⟩

end Hazel
