import Hazel.Config.Settled

/-!
# No set variable is silently ignored

`Reflects cr c key text` says that the parser of the variable `key` accepts
`text` and that the field of `c` it belongs to holds the parsed value. A
configuration heeds its environment when every consulted variable of the
program is unset or reflected.
-/

namespace Hazel

open Query

variable {cr : Crates} {env : Environment}

/-- The variable is unset, or set to a text that `R` holds of. -/
def Heeded (env : Environment) (key : String) (R : String → Prop) : Prop :=
  env key = .error .notPresent ∨ ∃ text, env key = .ok text ∧ R text

/-- The variable is unset, or set to a text that `parse` accepts. -/
def AcceptedIfSet {V : Type} (env : Environment) (key : String)
    (parse : String → Except String V) : Prop :=
  Heeded env key fun text => ∃ v, parse text = .ok v

theorem Heeded.imp {key : String} {R R' : String → Prop} (h : Heeded env key R)
    (himp : ∀ text, R text → R' text) : Heeded env key R' :=
  h.imp_right fun ⟨text, htext, hR⟩ => ⟨text, htext, himp text hR⟩

theorem heeded_of_settled {V : Type} {key : String} {parse : String → Except String V}
    {default : Option V} {v : V} (h : settled parse default (env key) = some v) :
    Heeded env key fun text => parse text = .ok v :=
  (settled_eq_some.mp h).elim (fun h => .inr h) fun h => .inl h.1

theorem heeded_of_settledOptional {V : Type} {key : String} {parse : String → Except String V}
    {v : Option V} (h : settledOptional parse (env key) = some v) :
    Heeded env key fun text => ∃ a, parse text = .ok a ∧ v = some a := by
  refine (heeded_of_settled h).imp fun text htext => ?_
  cases ha : parse text with
  | error e => simp [ha, Except.map] at htext
  | ok a =>
    simp only [ha, Except.map, Except.ok.injEq] at htext
    exact ⟨a, rfl, htext.symm⟩

/-- An optional text is the text that is set. -/
theorem heeded_of_settledOptionalText {key : String} {v : Option String}
    (h : settledOptional textFromEnvValue (env key) = some v) :
    Heeded env key fun text => v = some text := by
  refine (heeded_of_settledOptional h).imp fun text hparsed => ?_
  obtain ⟨parsed, hparse, hv⟩ := hparsed
  have heq : text = parsed := Except.ok.inj hparse
  rw [hv, heq]

theorem heeded_of_ok {key text : String} (h : env key = .ok text) :
    Heeded env key (· = text) :=
  .inr ⟨text, h, rfl⟩

theorem asks_question {V : Type} {P : String → Prop} {key : String}
    {read : Except VarError String → Except TryParseError V} (h : P key) :
    Prog.Asks env P (EnvM.question (do pure (read (← Prog.lookup key)))) :=
  Prog.consulted_mem_of_asksIn (asksIn_question h)

theorem asks_boolEnv {P : String → Prop} {key : String} (h : P key) :
    Prog.Asks env P (Util.boolEnv cr key) :=
  Prog.consulted_mem_of_asksIn (asksIn_boolEnv cr h)

/-- A selector that names one of `names` is unset, or set to one of them. -/
theorem heeded_of_selects {key : String} {names : List String} (h : Selects env key names) :
    Heeded env key fun text => toAsciiLowercase text ∈ names := by
  obtain ⟨name, hmem, hname⟩ := h
  obtain ⟨input, hinput, rfl⟩ := Option.map_eq_some_iff.mp hname
  exact (heeded_of_settled hinput).imp fun _ hparse => by rwa [Except.ok.inj hparse]

/-- What a selector's program asks: the selector, then what its arm asks. -/
theorem asks_enumValue {α : Type} (hcr : cr.DocumentedEnv) {P : String → Prop} {key : String}
    {error : String → String} {fields : String → Option (EnvM α)} {a : α}
    (hrun : (implEnumBasedEnvValue cr key error fields).run env = .ok a) (hkey : P key)
    (harm : ∀ name p, fields name = some p → p.run env = .ok a → Prog.Asks env P p) :
    Prog.Asks env P (implEnumBasedEnvValue cr key error fields) := by
  obtain ⟨name, p, hname, hp, hok⟩ := (enumValue_eq_ok hcr key error env).mp hrun
  intro k hk
  rw [(enumValue_of_selected hcr key error env hname hp).2] at hk
  rcases List.mem_cons.mp hk with rfl | hk
  · exact hkey
  · exact harm name p hp hok k hk

namespace Logging

inductive Reflects (cr : Crates) (c : Config) : String → String → Prop where
  | filter {text : String} {filter : Filter} (h : Filter.tryFromEnvValue cr text = .ok filter)
      (hc : c.filter = some filter) : Reflects cr c FILTER text
  | json {text : String} (hc : c.json = cr.truthyRegexIsMatch text) : Reflects cr c JSON text
  | level {text : String} (h : cr.levelFromEnvValue text = .ok c.level) :
      Reflects cr c LEVEL text

theorem asks_heeded {c : Config} (h : Config.Settles cr env c) :
    Prog.Asks env (fun key => Heeded env key (Reflects cr c key)) (Config.tryFromEnv cr) := by
  have hfilter : Heeded env FILTER (Reflects cr c FILTER) :=
    (heeded_of_settledOptional h.filter).imp fun _ ⟨_, hparse, hc⟩ => .filter hparse hc
  have hjson : Heeded env JSON (Reflects cr c JSON) :=
    (heeded_of_settled h.json).imp fun _ hc => .json (Except.ok.inj hc).symm
  have hlevel : Heeded env LEVEL (Reflects cr c LEVEL) :=
    (heeded_of_settled h.level).imp fun _ hc => .level hc
  refine Prog.asks_bind env (asks_question hfilter) fun _ _ => ?_
  refine Prog.asks_bind env (asks_boolEnv hjson) fun _ _ => ?_
  refine Prog.asks_bind env (asks_question hlevel) fun _ _ => ?_
  exact Prog.asks_pure env _

end Logging

namespace Storage

namespace S3

inductive Reflects (cr : Crates) (c : Remi.S3.StorageConfig) : String → String → Prop where
  | enableSignerV4Requests {text : String}
      (hc : c.enableSignerV4Requests = cr.truthyRegexIsMatch text) :
      Reflects cr c ENABLE_SIGNER_V4_REQUESTS text
  | enforcePathAccessStyle {text : String}
      (hc : c.enforcePathAccessStyle = cr.truthyRegexIsMatch text) :
      Reflects cr c ENFORCE_PATH_ACCESS_STYLE text
  | defaultObjectAcl {text : String} {acl : Remi.ObjectCannedAcl}
      (h : cr.objectCannedAclFromStr text = .ok acl) (hc : c.defaultObjectAcl = some acl) :
      Reflects cr c DEFAULT_OBJECT_ACL text
  | defaultBucketAcl {text : String} {acl : Remi.BucketCannedAcl}
      (h : cr.bucketCannedAclFromStr text = .ok acl) (hc : c.defaultBucketAcl = some acl) :
      Reflects cr c DEFAULT_BUCKET_ACL text
  | secretAccessKey {text : String} (hc : c.secretAccessKey = text) :
      Reflects cr c SECRET_ACCESS_KEY text
  | accessKeyId {text : String} (hc : c.accessKeyId = text) : Reflects cr c ACCESS_KEY_ID text
  | appName {text : String} (hc : c.appName = some text) : Reflects cr c APP_NAME text
  | endpoint {text : String} (hc : c.endpoint = some text) : Reflects cr c ENDPOINT text
  | keyPrefix {text : String} (hc : c.keyPrefix = some text) : Reflects cr c PREFIX text
  | region {text : String} (hc : c.region = some ⟨text⟩) : Reflects cr c REGION text
  | bucket {text : String} (hc : c.bucket = text) : Reflects cr c BUCKET text

theorem heeded_of_settles {c : Remi.S3.StorageConfig} (h : Settles cr env c) {key : String}
    (hkey : key ∈ keys) : Heeded env key (Reflects cr c key) := by
  simp only [keys, List.mem_cons, List.not_mem_nil, or_false] at hkey
  rcases hkey with rfl | rfl | rfl | rfl | rfl | rfl | rfl | rfl | rfl | rfl | rfl
  · have hset := heeded_of_settled h.enableSignerV4Requests
    exact hset.imp fun _ hc => .enableSignerV4Requests (Except.ok.inj hc).symm
  · have hset := heeded_of_settled h.enforcePathAccessStyle
    exact hset.imp fun _ hc => .enforcePathAccessStyle (Except.ok.inj hc).symm
  · obtain ⟨acl, hacl, hc⟩ := h.defaultObjectAcl
    exact (heeded_of_settled hacl).imp fun _ hparse => .defaultObjectAcl hparse hc
  · obtain ⟨acl, hacl, hc⟩ := h.defaultBucketAcl
    exact (heeded_of_settled hacl).imp fun _ hparse => .defaultBucketAcl hparse hc
  · have hset := heeded_of_ok h.secretAccessKey
    exact hset.imp fun _ htext => .secretAccessKey htext.symm
  · have hset := heeded_of_ok h.accessKeyId
    exact hset.imp fun _ htext => .accessKeyId htext.symm
  · have hset := heeded_of_settledOptionalText h.appName
    exact hset.imp fun _ hc => .appName hc
  · have hset := heeded_of_settledOptionalText h.endpoint
    exact hset.imp fun _ hc => .endpoint hc
  · have hset := heeded_of_settledOptionalText h.keyPrefix
    exact hset.imp fun _ hc => .keyPrefix hc
  · obtain ⟨region, hregion, hc⟩ := h.region
    have hset := heeded_of_settled hregion
    exact hset.imp fun _ hparse => .region (Except.ok.inj hparse ▸ hc)
  · obtain ⟨bucket, hbucket, hc⟩ := h.bucket
    have hset := heeded_of_settledOptionalText hbucket
    refine hset.imp fun text hb => .bucket ?_
    rw [hc, hb, Option.getD_some]

end S3

namespace Azure

open Remi.Azure (Credential CloudLocation)

/-- The account of a location. -/
def account : CloudLocation → String
  | .publicCloud account => account
  | .china account => account
  | .custom account _ => account

inductive Reflects (c : Remi.Azure.StorageConfig) : String → String → Prop where
  | credential {text : String} (hc : toAsciiLowercase text ∈ credentialNames c.credentials) :
      Reflects c CREDENTIAL text
  | accessKeyAccount {text accessKey : String} (hc : c.credentials = .accessKey text accessKey) :
      Reflects c ACCESS_KEY_ACCOUNT text
  | accessKey {text account : String} (hc : c.credentials = .accessKey account text) :
      Reflects c ACCESS_KEY text
  | sasToken {text : String} (hc : c.credentials = .sasToken text) : Reflects c SAS_TOKEN text
  | bearer {text : String} (hc : c.credentials = .bearer text) : Reflects c BEARER text
  | location {text : String} (hc : toAsciiLowercase text ∈ locationNames c.location) :
      Reflects c LOCATION text
  | account {text : String} (hc : account c.location = text) : Reflects c ACCOUNT text
  | uri {text account : String} (hc : c.location = .custom account text) : Reflects c URI text
  | container {text : String} (hc : c.container = text) : Reflects c CONTAINER text

theorem asks_requiredText {P : String → Prop} {key : String} (h : P key) :
    Prog.Asks env P (requiredText cr key) :=
  asks_question h

theorem createCredentialsConfig_asks_heeded (hcr : cr.DocumentedEnv)
    {c : Remi.Azure.StorageConfig} (h : Settles env c) :
    Prog.Asks env (fun key => Heeded env key (Reflects c key)) (createCredentialsConfig cr) := by
  have hrun := (createCredentialsConfig_eq_ok hcr).mpr ⟨h.credential, h.credentialSet⟩
  refine asks_enumValue hcr hrun
    ((heeded_of_selects h.credential).imp fun _ hc => .credential hc) fun name p hp hok => ?_
  have hset := h.credentialSet
  rcases (credentialFields_eq_some cr).mp hp with ⟨-, rfl⟩ | ⟨-, rfl⟩ | ⟨-, rfl⟩ | ⟨-, rfl⟩
  · exact Prog.asks_pure env _
  · obtain ⟨account, accessKey, hc, -⟩ := (accessKeyCredential_eq_ok hcr).mp hok
    rw [hc] at hset
    obtain ⟨haccount, hkey⟩ := hset
    have hheededAccount : Heeded env ACCESS_KEY_ACCOUNT (Reflects c ACCESS_KEY_ACCOUNT) :=
      (heeded_of_ok haccount).imp fun _ htext => .accessKeyAccount (htext ▸ hc)
    have hheededKey : Heeded env ACCESS_KEY (Reflects c ACCESS_KEY) :=
      (heeded_of_ok hkey).imp fun _ htext => .accessKey (htext ▸ hc)
    refine Prog.asks_bind env (asks_requiredText hheededAccount) fun _ _ => ?_
    refine Prog.asks_bind env (asks_requiredText hheededKey) fun _ _ => ?_
    exact Prog.asks_pure env _
  · obtain ⟨token, hc, htoken⟩ := (oneText_eq_ok hcr).mp hok
    have hheeded : Heeded env SAS_TOKEN (Reflects c SAS_TOKEN) :=
      (heeded_of_ok htoken).imp fun _ htext => .sasToken (htext ▸ hc)
    exact Prog.asks_bind env (asks_requiredText hheeded) fun _ _ => Prog.asks_pure env _
  · obtain ⟨token, hc, htoken⟩ := (oneText_eq_ok hcr).mp hok
    have hheeded : Heeded env BEARER (Reflects c BEARER) :=
      (heeded_of_ok htoken).imp fun _ htext => .bearer (htext ▸ hc)
    exact Prog.asks_bind env (asks_requiredText hheeded) fun _ _ => Prog.asks_pure env _

theorem createLocation_asks_heeded (hcr : cr.DocumentedEnv) {c : Remi.Azure.StorageConfig}
    (h : Settles env c) :
    Prog.Asks env (fun key => Heeded env key (Reflects c key)) (createLocation cr) := by
  have hrun := (createLocation_eq_ok hcr).mpr ⟨h.location, h.locationSet⟩
  refine asks_enumValue hcr hrun
    ((heeded_of_selects h.location).imp fun _ hc => .location hc) fun name p hp hok => ?_
  -- every kind of location has an account
  have hheededAccount {name : String} (hset : env ACCOUNT = .ok name)
      (hc : account c.location = name) : Heeded env ACCOUNT (Reflects c ACCOUNT) :=
    (heeded_of_ok hset).imp fun _ htext => .account (htext ▸ hc)
  rcases (locationFields_eq_some cr).mp hp with ⟨-, rfl⟩ | ⟨-, rfl⟩ | ⟨-, rfl⟩
  · obtain ⟨name, hc, hset⟩ := (oneText_eq_ok hcr).mp hok
    have hheeded := hheededAccount hset (by rw [hc]; rfl)
    exact Prog.asks_bind env (asks_requiredText hheeded) fun _ _ => Prog.asks_pure env _
  · obtain ⟨name, hc, hset⟩ := (oneText_eq_ok hcr).mp hok
    have hheeded := hheededAccount hset (by rw [hc]; rfl)
    exact Prog.asks_bind env (asks_requiredText hheeded) fun _ _ => Prog.asks_pure env _
  · obtain ⟨name, uri, hc, hset, huri⟩ := (customLocation_eq_ok hcr).mp hok
    have hheeded := hheededAccount hset (by rw [hc]; rfl)
    have hheededUri : Heeded env URI (Reflects c URI) :=
      (heeded_of_ok huri).imp fun _ htext => .uri (htext ▸ hc)
    refine Prog.asks_bind env (asks_requiredText hheeded) fun _ _ => ?_
    refine Prog.asks_bind env (asks_requiredText hheededUri) fun _ _ => ?_
    exact Prog.asks_pure env _

theorem createConfig_asks_heeded (hcr : cr.DocumentedEnv) {c : Remi.Azure.StorageConfig}
    (h : Settles env c) :
    Prog.Asks env (fun key => Heeded env key (Reflects c key)) (createConfig cr) := by
  obtain ⟨container, hcontainer, hc⟩ := h.container
  have hheeded : Heeded env CONTAINER (Reflects c CONTAINER) := by
    refine (heeded_of_settledOptionalText hcontainer).imp fun text hb => .container ?_
    rw [hc, hb, Option.getD_some]
  refine Prog.asks_bind env (createCredentialsConfig_asks_heeded hcr h) fun _ _ => ?_
  refine Prog.asks_bind env (createLocation_asks_heeded hcr h) fun _ _ => ?_
  exact Prog.asks_bind env (asks_question hheeded) fun _ _ => Prog.asks_pure env _

end Azure

inductive Reflects (cr : Crates) : Config → String → String → Prop where
  | service {c : Config} {text : String} (hc : toAsciiLowercase text ∈ serviceNames c) :
      Reflects cr c SERVICE text
  | directory {text : String} : Reflects cr (.filesystem ⟨text⟩) Filesystem.DIRECTORY text
  | azure {config : Remi.Azure.StorageConfig} {key text : String}
      (h : Azure.Reflects config key text) : Reflects cr (.azure config) key text
  | s3 {config : Remi.S3.StorageConfig} {key text : String}
      (h : S3.Reflects cr config key text) : Reflects cr (.s3 config) key text

/-- Where the file-system backend is selected, its directory is unset or
Unicode. -/
def DirectoryAccepted (env : Environment) : Prop :=
  Selects env SERVICE ["filesystem", "fs", ""] →
    AcceptedIfSet env Filesystem.DIRECTORY textFromEnvValue

theorem asks_heeded (hcr : cr.DocumentedEnv) {c : Config} (h : Config.Settles cr env c)
    (hdirectory : DirectoryAccepted env) :
    Prog.Asks env (fun key => Heeded env key (Reflects cr c key)) (Config.tryFromEnv cr) := by
  have hrun := (Config.tryFromEnv_eq_ok hcr).mpr h
  refine asks_enumValue hcr hrun
    ((heeded_of_selects h.service).imp fun _ hc => .service hc) fun name p hp hok => ?_
  have hbackend := h.backend
  rcases (serviceFields_eq_some cr).mp hp with ⟨-, rfl⟩ | ⟨-, rfl⟩ | ⟨-, rfl⟩
  -- the directory settles on its default whatever its error is
  · obtain ⟨fs, rfl, hfs⟩ := (filesystemService_eq_ok hcr).mp hok
    have hheeded : Heeded env Filesystem.DIRECTORY
        (Reflects cr (.filesystem fs) Filesystem.DIRECTORY) := by
      rcases hdirectory h.service with hunset | ⟨text, htext, -⟩
      · exact .inl hunset
      · have hfs' : fs = ⟨text⟩ := by
          cases fs
          simpa [BackendSettles, htext, settled, textFromEnvValue, Except.toOption] using hfs
        exact .inr ⟨text, htext, hfs' ▸ .directory⟩
    intro key hkey
    have hkey' : key = Filesystem.DIRECTORY := List.mem_singleton.mp hkey
    exact hkey' ▸ hheeded
  · obtain ⟨azure, rfl, hazure⟩ := (azureService_eq_ok hcr).mp hok
    refine Prog.asks_bind env (fun key hkey => ?_) fun _ _ => Prog.asks_pure env _
    have hheeded := Azure.createConfig_asks_heeded hcr hazure key hkey
    exact hheeded.imp fun _ => .azure
  · obtain ⟨s3, rfl, hs3⟩ := (s3Service_eq_ok hcr).mp hok
    refine Prog.asks_bind env (fun key hkey => ?_) fun _ _ => Prog.asks_pure env _
    have hmem : key ∈ S3.keys :=
      Prog.consulted_mem_of_asksIn (S3.createConfig_asksIn cr) key hkey
    exact (S3.heeded_of_settles hs3 hmem).imp fun _ => .s3

end Storage

namespace Server

inductive Reflects (cr : Crates) (c : Config) : String → String → Prop where
  | headers {text : String} (h : cr.mapFromEnvValue text = .ok c.headers) :
      Reflects cr c HEADERS text
  | host {text : String} (hc : c.host = text) : Reflects cr c HOST.1 text
  | port {text : String} (h : u16FromStr text = .ok c.port) : Reflects cr c PORT.1 text
  | ssl {text : String} (hc : c.ssl.isSome = cr.truthyRegexIsMatch text) :
      Reflects cr c Ssl.ENABLED text
  | certKey {text : String} {ssl : Ssl.Config} (hc : c.ssl = some ssl)
      (hssl : ssl.certKey = text) : Reflects cr c Ssl.CERT_KEY text
  | cert {text : String} {ssl : Ssl.Config} (hc : c.ssl = some ssl) (hssl : ssl.cert = text) :
      Reflects cr c Ssl.CERT text

/-- The variable is one of the program's own, and not one that shells and
platforms set for other purposes. -/
def IsOwn (key : String) : Prop := "HAZEL_".toList <+: key.toList

theorem sslFromEnv_asks_heeded {c : Config} (h : SslSettles cr env c.ssl) :
    Prog.Asks env (fun key => Heeded env key (Reflects cr c key)) (sslFromEnv cr) := by
  have henabled : Heeded env Ssl.ENABLED (Reflects cr c Ssl.ENABLED) :=
    (heeded_of_settled h.1).imp fun _ hc => .ssl (Except.ok.inj hc).symm
  refine Prog.asks_bind env (asks_boolEnv henabled) fun enabled hrun => ?_
  have hsome : c.ssl.isSome = enabled :=
    Option.some.inj (h.1.symm.trans ((boolEnv_eq_ok cr _).mp hrun))
  cases enabled with
  | false => exact Prog.asks_pure env _
  | true =>
    obtain ⟨ssl, hssl⟩ := Option.isSome_iff_exists.mp hsome
    have hset := h.2 ssl hssl
    have hcertKey : Heeded env Ssl.CERT_KEY (Reflects cr c Ssl.CERT_KEY) :=
      (heeded_of_ok hset.certKey).imp fun _ htext => .certKey hssl htext.symm
    have hcert : Heeded env Ssl.CERT (Reflects cr c Ssl.CERT) :=
      (heeded_of_ok hset.cert).imp fun _ htext => .cert hssl htext.symm
    refine Prog.asks_bind env ?_ fun _ _ => Prog.asks_pure env _
    refine Prog.asks_bind env ?_ fun _ _ => Prog.asks_bind env ?_ fun _ _ =>
      Prog.asks_pure env _
    · intro key hkey
      have hkey' : key = Ssl.CERT_KEY := List.mem_singleton.mp hkey
      exact hkey' ▸ hcertKey
    · intro key hkey
      have hkey' : key = Ssl.CERT := List.mem_singleton.mp hkey
      exact hkey' ▸ hcert

theorem asks_heeded {c : Config} (h : Config.Settles cr env c)
    (hheaders : AcceptedIfSet env HEADERS cr.mapFromEnvValue) :
    Prog.Asks env (fun key => IsOwn key → Heeded env key (Reflects cr c key))
      (Config.tryFromEnv cr) := by
  obtain ⟨genericHost, -, hhost⟩ := h.host
  obtain ⟨genericPort, -, hport⟩ := h.port
  have hheeded : Heeded env HEADERS (Reflects cr c HEADERS) := by
    rcases hheaders with hunset | ⟨text, htext, headers, hparse⟩
    · exact .inl hunset
    · have hc : c.headers = headers := by
        rw [h.headers, htext, settled, hparse]
        rfl
      exact .inr ⟨text, htext, .headers (hc ▸ hparse)⟩
  -- `HOST` and `PORT` are read too, and nothing is said of them
  have hgeneric : ∀ key, ¬ IsOwn key → IsOwn key → Heeded env key (Reflects cr c key) :=
    fun _ hnot hown => absurd hown hnot
  have hgenericHost : ¬ IsOwn HOST.2 := by unfold IsOwn; decide
  have hgenericPort : ¬ IsOwn PORT.2 := by unfold IsOwn; decide
  have hhostHeeded : Heeded env HOST.1 (Reflects cr c HOST.1) :=
    (heeded_of_settled hhost).imp fun _ htext => .host (Except.ok.inj htext).symm
  have hportHeeded : Heeded env PORT.1 (Reflects cr c PORT.1) :=
    (heeded_of_settled hport).imp fun _ hparse => .port hparse
  refine Prog.asks_bind env ?_ fun _ _ => ?_
  · intro key hkey _
    have hkey' : key = HEADERS := List.mem_singleton.mp hkey
    exact hkey' ▸ hheeded
  refine Prog.asks_bind env (asks_question (hgeneric _ hgenericHost)) fun _ _ => ?_
  refine Prog.asks_bind env (asks_question fun _ => hhostHeeded) fun _ _ => ?_
  refine Prog.asks_bind env (asks_question (hgeneric _ hgenericPort)) fun _ _ => ?_
  refine Prog.asks_bind env (asks_question fun _ => hportHeeded) fun _ _ => ?_
  refine Prog.asks_bind env ?_ fun _ _ => Prog.asks_pure env _
  exact fun key hkey _ => sslFromEnv_asks_heeded h.ssl key hkey

end Server

inductive Reflects (cr : Crates) (c : Config) : String → String → Prop where
  | serverName {text : String} (hc : c.serverName = some text) : Reflects cr c SERVER_NAME text
  | sentryDsn {text : String} {dsn : Dsn} (h : cr.dsnFromEnvValue text = .ok dsn)
      (hc : c.sentryDsn = some dsn) : Reflects cr c SENTRY_DSN text
  | logging {key text : String} (h : Logging.Reflects cr c.logging key text) :
      Reflects cr c key text
  | storage {key text : String} (h : Storage.Reflects cr c.storage key text) :
      Reflects cr c key text
  | server {key text : String} (h : Server.Reflects cr c.server key text) :
      Reflects cr c key text

/-- Every variable of the program that loading consulted is unset, or is valid
and held by the field it belongs to. -/
def Heeds (cr : Crates) (env : Environment) (c : Config) : Prop :=
  Prog.Asks env (fun key => Server.IsOwn key → Heeded env key (Reflects cr c key))
    (Config.tryFromEnv cr)

/-- The headers are unset or parse. -/
def HeadersAccepted (cr : Crates) (env : Environment) : Prop :=
  AcceptedIfSet env Server.HEADERS cr.mapFromEnvValue

theorem heeds_of_accepted (hcr : cr.DocumentedEnv) {c : Config} (h : Config.Settles cr env c)
    (hheaders : HeadersAccepted cr env) (hdirectory : Storage.DirectoryAccepted env) :
    Heeds cr env c := by
  have hname : Heeded env SERVER_NAME (Reflects cr c SERVER_NAME) :=
    (heeded_of_settledOptionalText h.serverName).imp fun _ hc => .serverName hc
  have hdsn : Heeded env SENTRY_DSN (Reflects cr c SENTRY_DSN) :=
    (heeded_of_settledOptional h.sentryDsn).imp fun _ ⟨_, hparse, hc⟩ => .sentryDsn hparse hc
  refine Prog.asks_bind env (asks_question fun _ => hname) fun _ _ => ?_
  refine Prog.asks_bind env (asks_question fun _ => hdsn) fun _ _ => ?_
  refine Prog.asks_bind env ?_ fun _ _ => Prog.asks_bind env ?_ fun _ _ =>
    Prog.asks_bind env ?_ fun _ _ => Prog.asks_pure env _
  · intro key hkey _
    have hheeded := Logging.asks_heeded h.logging key hkey
    exact hheeded.imp fun _ => .logging
  · intro key hkey _
    have hheeded := Storage.asks_heeded hcr h.storage hdirectory key hkey
    exact hheeded.imp fun _ => .storage
  · intro key hkey hown
    have hheeded := Server.asks_heeded h.server hheaders key hkey hown
    exact hheeded.imp fun _ => .server

end Hazel
