import Hazel.Config.Heeded

/-!
# Which environments load

The environments that the program loads a configuration from, variable by
variable, and when every configuration it loads heeds its environment.
-/

namespace Hazel

open Query

variable {cr : Crates} {env : Environment}

/-- The variable is unset, or holds Unicode text. -/
abbrev UnicodeIfSet (env : Environment) (key : String) : Prop :=
  AcceptedIfSet env key textFromEnvValue

section Settled

variable {V : Type} {key : String} {parse : String → Except String V}

theorem AcceptedIfSet.exists_settled (h : AcceptedIfSet env key parse) (default : V) :
    ∃ v, settled parse (some default) (env key) = some v := by
  rcases h with hunset | ⟨text, htext, v, hv⟩
  · exact ⟨default, by rw [hunset]; rfl⟩
  · exact ⟨v, by rw [htext, settled, hv]; rfl⟩

theorem AcceptedIfSet.exists_settledOptional (h : AcceptedIfSet env key parse) :
    ∃ v, settledOptional parse (env key) = some v := by
  rcases h with hunset | ⟨text, htext, v, hv⟩
  · exact ⟨none, by rw [hunset]; rfl⟩
  · exact ⟨some v, by rw [htext, settledOptional, settled, hv]; rfl⟩

theorem UnicodeIfSet.exists_settledBool (cr : Crates) {key : String}
    (h : UnicodeIfSet env key) :
    ∃ b, settledBool cr (env key) = some b := by
  rcases h with hunset | ⟨text, htext, -⟩
  · exact ⟨false, by rw [hunset]; rfl⟩
  · exact ⟨cr.truthyRegexIsMatch text, by rw [htext]; rfl⟩

theorem acceptedIfSet_of_settled {default : Option V} {v : V}
    (h : settled parse default (env key) = some v) : AcceptedIfSet env key parse :=
  (heeded_of_settled h).imp fun _ hv => ⟨v, hv⟩

theorem acceptedIfSet_of_settledOptional {v : Option V}
    (h : settledOptional parse (env key) = some v) : AcceptedIfSet env key parse :=
  (heeded_of_settledOptional h).imp fun _ ⟨a, ha, _⟩ => ⟨a, ha⟩

theorem unicodeIfSet_of_settledBool {key : String} {b : Bool}
    (h : settledBool cr (env key) = some b) : UnicodeIfSet env key :=
  (heeded_of_settled h).imp fun text _ => ⟨text, rfl⟩

end Settled

namespace Logging

structure Loads (cr : Crates) (env : Environment) : Prop where
  filter : AcceptedIfSet env FILTER (Filter.tryFromEnvValue cr)
  json : UnicodeIfSet env JSON
  level : AcceptedIfSet env LEVEL cr.levelFromEnvValue

theorem exists_settles_iff : (∃ c, Config.Settles cr env c) ↔ Loads cr env := by
  constructor
  · rintro ⟨c, h⟩
    exact ⟨acceptedIfSet_of_settledOptional h.filter, unicodeIfSet_of_settledBool h.json,
      acceptedIfSet_of_settled h.level⟩
  · intro h
    obtain ⟨filter, hfilter⟩ := h.filter.exists_settledOptional
    obtain ⟨json, hjson⟩ := UnicodeIfSet.exists_settledBool cr h.json
    obtain ⟨level, hlevel⟩ := h.level.exists_settled defaultLevel
    exact ⟨⟨filter, level, json⟩, hfilter, hjson, hlevel⟩

end Logging

namespace Storage

namespace S3

structure Loads (cr : Crates) (env : Environment) : Prop where
  unicode : ∀ key ∈ keys, UnicodeIfSet env key
  defaultBucketAcl : AcceptedIfSet env DEFAULT_BUCKET_ACL cr.bucketCannedAclFromStr
  defaultObjectAcl : AcceptedIfSet env DEFAULT_OBJECT_ACL cr.objectCannedAclFromStr
  secretAccessKey : env SECRET_ACCESS_KEY ≠ .error .notPresent
  accessKeyId : env ACCESS_KEY_ID ≠ .error .notPresent

theorem exists_settles_iff : (∃ c, Settles cr env c) ↔ Loads cr env := by
  constructor
  · rintro ⟨c, h⟩
    obtain ⟨bucketAcl, hbucketAcl, -⟩ := h.defaultBucketAcl
    obtain ⟨objectAcl, hobjectAcl, -⟩ := h.defaultObjectAcl
    refine ⟨fun key hkey => (heeded_of_settles h hkey).imp fun text _ => ⟨text, rfl⟩,
      acceptedIfSet_of_settled hbucketAcl, acceptedIfSet_of_settled hobjectAcl, ?_, ?_⟩
    · simp [h.secretAccessKey]
    · simp [h.accessKeyId]
  · intro h
    -- the two required variables have no default to fall back on
    have hunicode : ∀ key ∈ keys, env key ≠ .error .notPresent → ∃ text, env key = .ok text :=
      fun key hkey hset => (h.unicode key hkey).elim (absurd · hset) fun ⟨text, htext, _⟩ =>
        ⟨text, htext⟩
    obtain ⟨signer, hsigner⟩ := UnicodeIfSet.exists_settledBool cr
      (h.unicode ENABLE_SIGNER_V4_REQUESTS (by simp [keys]))
    obtain ⟨style, hstyle⟩ := UnicodeIfSet.exists_settledBool cr
      (h.unicode ENFORCE_PATH_ACCESS_STYLE (by simp [keys]))
    obtain ⟨bucketAcl, hbucketAcl⟩ := h.defaultBucketAcl.exists_settled DEFAULT_BUCKET_CANNED_ACL
    obtain ⟨objectAcl, hobjectAcl⟩ := h.defaultObjectAcl.exists_settled DEFAULT_OBJECT_CANNED_ACL
    obtain ⟨secret, hsecret⟩ := hunicode SECRET_ACCESS_KEY (by simp [keys]) h.secretAccessKey
    obtain ⟨keyId, hkeyId⟩ := hunicode ACCESS_KEY_ID (by simp [keys]) h.accessKeyId
    obtain ⟨appName, happName⟩ :=
      AcceptedIfSet.exists_settledOptional (h.unicode APP_NAME (by simp [keys]))
    obtain ⟨endpoint, hendpoint⟩ :=
      AcceptedIfSet.exists_settledOptional (h.unicode ENDPOINT (by simp [keys]))
    obtain ⟨keyPrefix, hkeyPrefix⟩ :=
      AcceptedIfSet.exists_settledOptional (h.unicode PREFIX (by simp [keys]))
    have hregionText : AcceptedIfSet env REGION regionFromEnvValue :=
      (h.unicode REGION (by simp [keys])).imp fun text _ => ⟨⟨text⟩, rfl⟩
    obtain ⟨region, hregion⟩ := hregionText.exists_settled ⟨"us-east-1"⟩
    obtain ⟨bucket, hbucket⟩ :=
      AcceptedIfSet.exists_settledOptional (h.unicode BUCKET (by simp [keys]))
    exact ⟨⟨signer, style, some bucketAcl, some objectAcl, secret, keyId, appName, endpoint,
        keyPrefix, some region, bucket.getD "charted"⟩,
      hsigner, hstyle, ⟨_, hbucketAcl, rfl⟩, ⟨_, hobjectAcl, rfl⟩, hsecret, hkeyId, happName,
      hendpoint, hkeyPrefix, ⟨_, hregion, rfl⟩, ⟨_, hbucket, rfl⟩⟩

end S3

namespace Azure

/-- The credential selector names a kind whose strings are set, the location
selector names one whose strings are set, and the container is Unicode. -/
structure Loads (env : Environment) : Prop where
  credential : ∃ c, Selects env CREDENTIAL (credentialNames c) ∧ CredentialSet env c
  location : ∃ l, Selects env LOCATION (locationNames l) ∧ LocationSet env l
  container : UnicodeIfSet env CONTAINER

theorem exists_settles_iff : (∃ c, Settles env c) ↔ Loads env := by
  constructor
  · rintro ⟨c, h⟩
    obtain ⟨container, hcontainer, -⟩ := h.container
    exact ⟨⟨_, h.credential, h.credentialSet⟩, ⟨_, h.location, h.locationSet⟩,
      acceptedIfSet_of_settledOptional hcontainer⟩
  · rintro ⟨⟨c, hc, hcs⟩, ⟨l, hl, hls⟩, hcontainer⟩
    obtain ⟨container, hcontainer⟩ := hcontainer.exists_settledOptional
    exact ⟨⟨c, l, container.getD "charted"⟩, hc, hcs, hl, hls, container, hcontainer, rfl⟩

end Azure

/-- The service selector names a backend, and this backend loads. The
file-system backend always does. -/
def Loads (cr : Crates) (env : Environment) : Prop :=
  Selects env SERVICE ["filesystem", "fs", ""] ∨
    (Selects env SERVICE ["azure"] ∧ Azure.Loads env) ∨
    (Selects env SERVICE ["s3"] ∧ S3.Loads cr env)

theorem exists_settles_iff : (∃ c, Config.Settles cr env c) ↔ Loads cr env := by
  constructor
  · rintro ⟨c, hservice, hbackend⟩
    cases c with
    | filesystem fs => exact .inl hservice
    | azure azure => exact .inr (.inl ⟨hservice, Azure.exists_settles_iff.mp ⟨_, hbackend⟩⟩)
    | s3 s3 => exact .inr (.inr ⟨hservice, S3.exists_settles_iff.mp ⟨_, hbackend⟩⟩)
  · rintro (hservice | ⟨hservice, hazure⟩ | ⟨hservice, hs3⟩)
    · exact ⟨.filesystem ⟨_⟩, hservice, rfl⟩
    · obtain ⟨azure, hazure⟩ := Azure.exists_settles_iff.mpr hazure
      exact ⟨.azure azure, hservice, hazure⟩
    · obtain ⟨s3, hs3⟩ := S3.exists_settles_iff.mpr hs3
      exact ⟨.s3 s3, hservice, hs3⟩

end Storage

namespace Server

/-- When TLS is enabled, both of its paths are set. -/
structure SslLoads (cr : Crates) (env : Environment) : Prop where
  enabled : UnicodeIfSet env Ssl.ENABLED
  paths : settledBool cr (env Ssl.ENABLED) = some true →
    (∃ certKey, env Ssl.CERT_KEY = .ok certKey) ∧ ∃ cert, env Ssl.CERT = .ok cert

theorem exists_sslSettles_iff : (∃ ssl, SslSettles cr env ssl) ↔ SslLoads cr env := by
  constructor
  · rintro ⟨ssl, henabled, hssl⟩
    refine ⟨unicodeIfSet_of_settledBool henabled, fun htrue => ?_⟩
    have hsome : ssl.isSome = true := Option.some.inj (henabled.symm.trans htrue)
    obtain ⟨c, hc⟩ := Option.isSome_iff_exists.mp hsome
    exact ⟨⟨_, (hssl c hc).certKey⟩, _, (hssl c hc).cert⟩
  · rintro ⟨henabled, hpaths⟩
    obtain ⟨enabled, hsettled⟩ := UnicodeIfSet.exists_settledBool cr henabled
    cases enabled with
    | false => exact ⟨none, hsettled, fun _ hmem => absurd hmem (Option.not_mem_none _)⟩
    | true =>
      obtain ⟨⟨certKey, hcertKey⟩, cert, hcert⟩ := hpaths hsettled
      exact ⟨some ⟨certKey, cert⟩, hsettled, fun _ hmem =>
        Option.some.inj hmem ▸ ⟨hcertKey, hcert⟩⟩

structure Loads (cr : Crates) (env : Environment) : Prop where
  genericHost : UnicodeIfSet env HOST.2
  host : UnicodeIfSet env HOST.1
  genericPort : AcceptedIfSet env PORT.2 u16FromStr
  port : AcceptedIfSet env PORT.1 u16FromStr
  ssl : SslLoads cr env

theorem exists_settles_iff : (∃ c, Config.Settles cr env c) ↔ Loads cr env := by
  constructor
  · rintro ⟨c, h⟩
    obtain ⟨_, hgenericHost, hhost⟩ := h.host
    obtain ⟨_, hgenericPort, hport⟩ := h.port
    exact ⟨acceptedIfSet_of_settled hgenericHost, acceptedIfSet_of_settled hhost,
      acceptedIfSet_of_settled hgenericPort, acceptedIfSet_of_settled hport,
      exists_sslSettles_iff.mp ⟨_, h.ssl⟩⟩
  · intro h
    obtain ⟨genericHost, hgenericHost⟩ := h.genericHost.exists_settled defaultHost
    obtain ⟨host, hhost⟩ := h.host.exists_settled genericHost
    obtain ⟨genericPort, hgenericPort⟩ := h.genericPort.exists_settled defaultPort
    obtain ⟨port, hport⟩ := h.port.exists_settled genericPort
    obtain ⟨ssl, hssl⟩ := exists_sslSettles_iff.mpr h.ssl
    exact ⟨⟨_, host, port, ssl⟩, rfl, ⟨_, hgenericHost, hhost⟩, ⟨_, hgenericPort, hport⟩, hssl⟩

end Server

/-- Every variable that loading consults is unset or valid, leaving out the
headers and the directory, and every required one is set. -/
structure Loads (cr : Crates) (env : Environment) : Prop where
  serverName : UnicodeIfSet env SERVER_NAME
  sentryDsn : AcceptedIfSet env SENTRY_DSN cr.dsnFromEnvValue
  logging : Logging.Loads cr env
  storage : Storage.Loads cr env
  server : Server.Loads cr env

theorem exists_settles_iff : (∃ c, Config.Settles cr env c) ↔ Loads cr env := by
  constructor
  · rintro ⟨c, h⟩
    exact ⟨acceptedIfSet_of_settledOptional h.serverName,
      acceptedIfSet_of_settledOptional h.sentryDsn, Logging.exists_settles_iff.mp ⟨_, h.logging⟩,
      Storage.exists_settles_iff.mp ⟨_, h.storage⟩, Server.exists_settles_iff.mp ⟨_, h.server⟩⟩
  · intro h
    obtain ⟨serverName, hserverName⟩ := h.serverName.exists_settledOptional
    obtain ⟨sentryDsn, hsentryDsn⟩ := h.sentryDsn.exists_settledOptional
    obtain ⟨logging, hlogging⟩ := Logging.exists_settles_iff.mpr h.logging
    obtain ⟨storage, hstorage⟩ := Storage.exists_settles_iff.mpr h.storage
    obtain ⟨server, hserver⟩ := Server.exists_settles_iff.mpr h.server
    exact ⟨⟨serverName, sentryDsn, logging, storage, server⟩, hserverName, hsentryDsn, hlogging,
      hstorage, hserver⟩

/-- An environment loads exactly when its variables allow it. -/
theorem exists_tryFromEnv_eq_ok_iff (hcr : cr.DocumentedEnv) :
    (∃ c, (Config.tryFromEnv cr).run env = .ok c) ↔ Loads cr env := by
  simp only [Config.tryFromEnv_eq_ok hcr]
  exact exists_settles_iff

section Consulted

/-- A run that gets as far as storage and server asks what they ask. -/
theorem mem_consulted_of_storage {c : Config} (h : (Config.tryFromEnv cr).run env = .ok c)
    {key : String} (hkey : key ∈ (Storage.Config.tryFromEnv cr).consulted env) :
    key ∈ (Config.tryFromEnv cr).consulted env := by
  simp only [Config.tryFromEnv, Prog.run_bind_eq_ok] at h
  obtain ⟨name, hname, dsn, hdsn, logging, hlogging, -⟩ := h
  refine (Prog.mem_consulted_bind env).mpr (.inr ⟨name, hname, ?_⟩)
  refine (Prog.mem_consulted_bind env).mpr (.inr ⟨dsn, hdsn, ?_⟩)
  refine (Prog.mem_consulted_bind env).mpr (.inr ⟨logging, hlogging, ?_⟩)
  exact (Prog.mem_consulted_bind env).mpr (.inl hkey)

theorem mem_consulted_of_server {c : Config} (h : (Config.tryFromEnv cr).run env = .ok c)
    {key : String} (hkey : key ∈ (Server.Config.tryFromEnv cr).consulted env) :
    key ∈ (Config.tryFromEnv cr).consulted env := by
  simp only [Config.tryFromEnv, Prog.run_bind_eq_ok] at h
  obtain ⟨name, hname, dsn, hdsn, logging, hlogging, storage, hstorage, -⟩ := h
  refine (Prog.mem_consulted_bind env).mpr (.inr ⟨name, hname, ?_⟩)
  refine (Prog.mem_consulted_bind env).mpr (.inr ⟨dsn, hdsn, ?_⟩)
  refine (Prog.mem_consulted_bind env).mpr (.inr ⟨logging, hlogging, ?_⟩)
  refine (Prog.mem_consulted_bind env).mpr (.inr ⟨storage, hstorage, ?_⟩)
  exact (Prog.mem_consulted_bind env).mpr (.inl hkey)

theorem headers_mem_consulted {c : Config} (h : (Config.tryFromEnv cr).run env = .ok c) :
    Server.HEADERS ∈ (Config.tryFromEnv cr).consulted env :=
  mem_consulted_of_server h ((Prog.mem_consulted_bind env).mpr (.inl (List.mem_singleton_self _)))

theorem directory_mem_consulted (hcr : cr.DocumentedEnv) {c : Config}
    (h : (Config.tryFromEnv cr).run env = .ok c)
    (hservice : Selects env Storage.SERVICE ["filesystem", "fs", ""]) :
    Storage.Filesystem.DIRECTORY ∈ (Config.tryFromEnv cr).consulted env := by
  refine mem_consulted_of_storage h ?_
  obtain ⟨name, hmem, hname⟩ := hservice
  have hp := (Storage.serviceFields_eq_some cr).mpr (.inl ⟨hmem, rfl⟩)
  rw [Storage.Config.tryFromEnv, (enumValue_of_selected hcr _ _ env hname hp).2]
  exact List.mem_cons_of_mem _ (List.mem_singleton_self _)

end Consulted

section Headers

variable {text key : String}

theorem Logging.Reflects.key_ne_headers {c : Logging.Config}
    (h : Logging.Reflects cr c key text) : key ≠ Server.HEADERS := by
  cases h <;> decide

theorem Storage.Reflects.key_ne_headers {c : Storage.Config}
    (h : Storage.Reflects cr c key text) : key ≠ Server.HEADERS := by
  cases h with
  | service => decide
  | directory => decide
  | azure h => cases h <;> decide
  | s3 h => cases h <;> decide

theorem Server.Reflects.headers_accepted {c : Server.Config}
    (h : Server.Reflects cr c key text) (hkey : key = Server.HEADERS) :
    cr.mapFromEnvValue text = .ok c.headers := by
  cases h with
  | headers h => exact h
  | host => exact absurd hkey (by decide)
  | port => exact absurd hkey (by decide)
  | ssl => exact absurd hkey (by decide)
  | certKey => exact absurd hkey (by decide)
  | cert => exact absurd hkey (by decide)

/-- Only the server's headers reflect the headers variable. -/
theorem Reflects.headers_accepted {c : Config} (h : Reflects cr c key text)
    (hkey : key = Server.HEADERS) : cr.mapFromEnvValue text = .ok c.server.headers := by
  cases h with
  | serverName => exact absurd hkey (by decide)
  | sentryDsn => exact absurd hkey (by decide)
  | logging h => exact absurd hkey h.key_ne_headers
  | storage h => exact absurd hkey h.key_ne_headers
  | server h => exact h.headers_accepted hkey

end Headers

/-- Every configuration that an environment loads heeds it exactly when the
headers and the directory, whose errors are swallowed, are valid or unset
wherever everything else loads. -/
theorem tryFromEnv_heeds_iff (hcr : cr.DocumentedEnv) (env : Environment) :
    (∀ c, (Config.tryFromEnv cr).run env = .ok c → Heeds cr env c) ↔
      (Loads cr env → HeadersAccepted cr env ∧ Storage.DirectoryAccepted env) := by
  constructor
  · intro h hloads
    -- the run that loads asks for both variables, so what it loads reflects them
    obtain ⟨c, hc⟩ := (exists_tryFromEnv_eq_ok_iff hcr).mpr hloads
    have hheeds := h c hc
    constructor
    · have hheaders := hheeds _ (headers_mem_consulted hc) (by unfold Server.IsOwn; decide)
      exact hheaders.imp fun text hreflects => ⟨_, hreflects.headers_accepted rfl⟩
    · intro hservice
      have hdirectory := hheeds _ (directory_mem_consulted hcr hc hservice)
        (by unfold Server.IsOwn; decide)
      exact hdirectory.imp fun text _ => ⟨text, rfl⟩
  · intro h c hc
    have hsettles := (Config.tryFromEnv_eq_ok hcr).mp hc
    obtain ⟨hheaders, hdirectory⟩ := h (exists_settles_iff.mp ⟨c, hsettles⟩)
    exact heeds_of_accepted hcr hsettles hheaders hdirectory

theorem tryFromEnv_heeds_sample :
    let env := Environment.of [(SERVER_NAME, .ok "acme"), (Server.PORT.1, .ok "9000"),
      (Server.HEADERS, .ok ""), (Storage.Filesystem.DIRECTORY, .ok "/srv/hazel")]
    ∃ c, (Config.tryFromEnv Crates.reference).run env = .ok c ∧ c.serverName = some "acme" ∧
      c.server.port = 9000 ∧ c.storage = .filesystem ⟨"/srv/hazel"⟩ ∧
      Heeds Crates.reference env c := by
  intro env
  have haccepted : HeadersAccepted Crates.reference env ∧ Storage.DirectoryAccepted env :=
    ⟨.inr ⟨"", rfl, [], rfl⟩, fun _ => .inr ⟨"/srv/hazel", rfl, "/srv/hazel", rfl⟩⟩
  exact ⟨_, rfl, rfl, rfl, rfl,
    (tryFromEnv_heeds_iff Crates.reference_documentedEnv env).mpr (fun _ => haccepted) _ rfl⟩

/-- Headers that are not Unicode load as no headers. -/
theorem tryFromEnv_ignores_headers :
    let env := Environment.of [(Server.HEADERS, .error (.notUnicode [255]))]
    ∃ c, (Config.tryFromEnv Crates.reference).run env = .ok c ∧ c.server.headers = [] ∧
      ¬ Heeds Crates.reference env c := by
  refine ⟨_, rfl, rfl, fun h => ?_⟩
  rcases h Server.HEADERS (headers_mem_consulted rfl) (by unfold Server.IsOwn; decide) with
    hunset | ⟨text, htext, -⟩
  · cases hunset
  · cases htext

end Hazel
