import Hazel.Config.Storage

/-!
# Only the selected backend is read

Loading the storage configuration depends on the variables of the selected
backend, credential kind and location, and on the selectors only up to letter
case.
-/

namespace Hazel

open Query

section Asks

variable {V : Type} {S : String → Prop} {key : String}

theorem asksIn_question {read : Except VarError String → Except TryParseError V} (h : S key) :
    (EnvM.question (do pure (read (← Prog.lookup key)))).AsksIn S :=
  ⟨h, fun _ => trivial⟩

/-- One read agrees on environments that agree on its variable. -/
theorem agree_question {read : Except VarError String → Except TryParseError V}
    {env env' : Environment} (h : env key = env' key) :
    Agree ((EnvM.question (do pure (read (← Prog.lookup key)))).run env)
      ((EnvM.question (do pure (read (← Prog.lookup key)))).run env') :=
  Agree.of_asksIn (S := (· = key)) (asksIn_question rfl) fun _ hk => hk ▸ h

theorem asksIn_boolEnv (cr : Crates) (h : S key) : (Util.boolEnv cr key).AsksIn S :=
  ⟨h, fun _ => trivial⟩

theorem asksIn_envFromStr (fromStr : String → Except String V) (default : V) (h : S key) :
    (Util.envFromStr fromStr key default).AsksIn S := by
  refine ⟨h, fun var => ?_⟩
  rcases var with (_ | raw) | value
  · trivial
  · trivial
  · cases hv : fromStr value <;> simp only [Prog.bind, hv] <;> trivial

end Asks

/-- Two values of a variable that differ at most in ASCII letter case. -/
def SameCaseFolded : Except VarError String → Except VarError String → Prop
  | .ok s, .ok t => toAsciiLowercase s = toAsciiLowercase t
  | .error .notPresent, .error .notPresent => True
  | .error (.notUnicode raw), .error (.notUnicode raw') =>
    bytesToAsciiLowercase raw = bytesToAsciiLowercase raw'
  | _, _ => False

theorem SameCaseFolded.selectorName_eq {var var' : Except VarError String}
    (h : SameCaseFolded var var') : selectorName var = selectorName var' := by
  rcases var with (_ | raw) | s <;> rcases var' with (_ | raw') | t
  · rfl
  · exact h.elim
  · exact h.elim
  · exact h.elim
  · rfl
  · exact h.elim
  · exact h.elim
  · exact h.elim
  · exact congrArg some h

/-- The selector `key` of `env` holds one of `names`. -/
def Selects (env : Environment) (key : String) (names : List String) : Prop :=
  ∃ name ∈ names, selectorName (env key) = some name

theorem selects_of_selectorName {env : Environment} {key name : String} {names : List String}
    (h : selectorName (env key) = some name) (hmem : name ∈ names) : Selects env key names :=
  ⟨name, hmem, h⟩

theorem not_selects_of_selectorName {env : Environment} {key name : String}
    {names : List String} (h : selectorName (env key) = some name) (hmem : name ∉ names) :
    ¬ Selects env key names := by
  rintro ⟨name', hmem', h'⟩
  rw [h, Option.some.injEq] at h'
  exact hmem (h' ▸ hmem')

/-- A selector that differs in letter case takes the same arm, and the results
agree when those of the arm do. -/
theorem enumValue_agree {α : Type} {cr : Crates} (hcr : cr.DocumentedEnv) {key : String}
    {error : String → String} {fields : String → Option (EnvM α)} {env env' : Environment}
    (hkey : SameCaseFolded (env key) (env' key))
    (harm : ∀ name p, selectorName (env key) = some name → fields name = some p →
      Agree (p.run env) (p.run env')) :
    Agree ((implEnumBasedEnvValue cr key error fields).run env)
      ((implEnumBasedEnvValue cr key error fields).run env') := by
  have hname := hkey.selectorName_eq
  cases hs : (selectorName (env key)).bind fields with
  | none =>
    -- the messages may differ by the letter case they quote
    have hs' : (selectorName (env' key)).bind fields = none := by rw [← hname, hs]
    exact .inr ⟨enumValue_of_not_selected hcr key error env hs,
      enumValue_of_not_selected hcr key error env' hs'⟩
  | some p =>
    obtain ⟨name, hn, hp⟩ := Option.bind_eq_some_iff.mp hs
    rw [(enumValue_of_selected hcr key error env hn hp).1,
      (enumValue_of_selected hcr key error env' (hname ▸ hn) hp).1]
    exact harm name p hn hp

namespace Storage

namespace S3

/-- The variables of the S3 backend. -/
def keys : List String :=
  [ENABLE_SIGNER_V4_REQUESTS, ENFORCE_PATH_ACCESS_STYLE, DEFAULT_OBJECT_ACL,
    DEFAULT_BUCKET_ACL, SECRET_ACCESS_KEY, ACCESS_KEY_ID, APP_NAME, ENDPOINT, PREFIX, REGION,
    BUCKET]

theorem createConfig_asksIn (cr : Crates) : (createConfig cr).AsksIn (· ∈ keys) := by
  refine Prog.asksIn_bind (asksIn_boolEnv cr (by simp [keys])) fun _ => ?_
  refine Prog.asksIn_bind (asksIn_boolEnv cr (by simp [keys])) fun _ => ?_
  refine Prog.asksIn_bind (asksIn_envFromStr _ _ (by simp [keys])) fun _ => ?_
  refine Prog.asksIn_bind (asksIn_envFromStr _ _ (by simp [keys])) fun _ => ?_
  refine Prog.asksIn_bind (asksIn_question (by simp [keys])) fun _ => ?_
  refine Prog.asksIn_bind (asksIn_question (by simp [keys])) fun _ => ?_
  refine Prog.asksIn_bind (asksIn_question (by simp [keys])) fun _ => ?_
  refine Prog.asksIn_bind (asksIn_question (by simp [keys])) fun _ => ?_
  refine Prog.asksIn_bind (asksIn_question (by simp [keys])) fun _ => ?_
  refine Prog.asksIn_bind (asksIn_question (by simp [keys])) fun _ => ?_
  refine Prog.asksIn_bind (asksIn_question (by simp [keys])) fun _ => ?_
  trivial

end S3

namespace Azure

/-- The two environments agree on what the Azure backend selected by `env`
reads: the account key, the tokens and the URI only for the kind they belong
to, and the two selectors up to letter case. -/
structure AgreeOnSelected (env env' : Environment) : Prop where
  credential : SameCaseFolded (env CREDENTIAL) (env' CREDENTIAL)
  location : SameCaseFolded (env LOCATION) (env' LOCATION)
  container : env CONTAINER = env' CONTAINER
  account : env ACCOUNT = env' ACCOUNT
  accessKey : Selects env CREDENTIAL ["accesskey", "access-key", "access_key"] →
    env ACCESS_KEY_ACCOUNT = env' ACCESS_KEY_ACCOUNT ∧ env ACCESS_KEY = env' ACCESS_KEY
  sasToken : Selects env CREDENTIAL ["sastoken", "sas-token", "sas_token"] →
    env SAS_TOKEN = env' SAS_TOKEN
  bearer : Selects env CREDENTIAL ["bearer"] → env BEARER = env' BEARER
  uri : Selects env LOCATION ["custom"] → env URI = env' URI

variable {cr : Crates} (hcr : cr.DocumentedEnv) {env env' : Environment}

theorem requiredText_agree {key : String} (h : env key = env' key) :
    Agree ((requiredText cr key).run env) ((requiredText cr key).run env') :=
  agree_question h

include hcr

theorem createCredentialsConfig_agree (h : AgreeOnSelected env env') :
    Agree ((createCredentialsConfig cr).run env) ((createCredentialsConfig cr).run env') := by
  refine enumValue_agree hcr h.credential fun name p hname hp => ?_
  rcases (credentialFields_eq_some cr).mp hp with ⟨-, rfl⟩ | ⟨hmem, rfl⟩ | ⟨hmem, rfl⟩ | ⟨hmem, rfl⟩
  · exact .refl _
  · obtain ⟨haccount, hkey⟩ := h.accessKey (selects_of_selectorName hname hmem)
    exact (requiredText_agree haccount).bind fun _ =>
      (requiredText_agree hkey).bind fun _ => .refl _
  · have htoken := h.sasToken (selects_of_selectorName hname hmem)
    exact (requiredText_agree htoken).bind fun _ => .refl _
  · have htoken := h.bearer (selects_of_selectorName hname hmem)
    exact (requiredText_agree htoken).bind fun _ => .refl _

theorem createLocation_agree (h : AgreeOnSelected env env') :
    Agree ((createLocation cr).run env) ((createLocation cr).run env') := by
  refine enumValue_agree hcr h.location fun name p hname hp => ?_
  rcases (locationFields_eq_some cr).mp hp with ⟨-, rfl⟩ | ⟨-, rfl⟩ | ⟨hmem, rfl⟩
  · exact (requiredText_agree h.account).bind fun _ => .refl _
  · exact (requiredText_agree h.account).bind fun _ => .refl _
  · have huri := h.uri (selects_of_selectorName hname hmem)
    exact (requiredText_agree h.account).bind fun _ =>
      (requiredText_agree huri).bind fun _ => .refl _

theorem createConfig_agree (h : AgreeOnSelected env env') :
    Agree ((createConfig cr).run env) ((createConfig cr).run env') := by
  exact (createCredentialsConfig_agree hcr h).bind fun _ =>
    (createLocation_agree hcr h).bind fun _ =>
      (agree_question h.container).bind fun _ => .refl _

end Azure

/-- The two environments agree on what the backend selected by `env` reads, and
their selectors differ at most in letter case. -/
structure AgreeOnSelected (env env' : Environment) : Prop where
  service : SameCaseFolded (env SERVICE) (env' SERVICE)
  filesystem : Selects env SERVICE ["filesystem", "fs", ""] →
    env Filesystem.DIRECTORY = env' Filesystem.DIRECTORY
  azure : Selects env SERVICE ["azure"] → Azure.AgreeOnSelected env env'
  s3 : Selects env SERVICE ["s3"] → ∀ key ∈ S3.keys, env key = env' key

/-- No variable outside the selected backend, credential kind and location can
change the storage configuration or make loading it fail. -/
theorem tryFromEnv_agree {cr : Crates} (hcr : cr.DocumentedEnv) {env env' : Environment}
    (h : AgreeOnSelected env env') :
    Agree ((Config.tryFromEnv cr).run env) ((Config.tryFromEnv cr).run env') := by
  refine enumValue_agree hcr h.service fun name p hname hp => ?_
  rcases (serviceFields_eq_some cr).mp hp with ⟨hmem, rfl⟩ | ⟨hmem, rfl⟩ | ⟨hmem, rfl⟩
  · have hdirectory := h.filesystem (selects_of_selectorName hname hmem)
    exact Agree.of_asksIn (S := (· = Filesystem.DIRECTORY)) ⟨rfl, fun _ => trivial⟩
      fun _ hk => hk ▸ hdirectory
  · have hazure := h.azure (selects_of_selectorName hname hmem)
    exact (Azure.createConfig_agree hcr hazure).bind fun _ => .refl _
  · have hkeys := h.s3 (selects_of_selectorName hname hmem)
    exact (Agree.of_asksIn (S3.createConfig_asksIn cr) hkeys).bind fun _ => .refl _

/-- `HAZEL_STORAGE_SERVICE` in another letter case, and a bucket that is not
Unicode, are the same configuration of the file system. -/
theorem tryFromEnv_agree_filesystem :
    Agree
      ((Config.tryFromEnv Crates.reference).run
        (Environment.of [(SERVICE, .ok "fs"), (Filesystem.DIRECTORY, .ok "/srv")]))
      ((Config.tryFromEnv Crates.reference).run
        (Environment.of [(SERVICE, .ok "FS"), (Filesystem.DIRECTORY, .ok "/srv"),
          (S3.BUCKET, .error (.notUnicode [255]))])) := by
  have hname : selectorName (.ok "fs") = some "fs" := by decide
  refine tryFromEnv_agree Crates.reference_documentedEnv ⟨?_, fun _ => rfl, ?_, ?_⟩
  · change toAsciiLowercase "fs" = toAsciiLowercase "FS"
    decide
  · exact fun h => absurd h (not_selects_of_selectorName hname (by decide))
  · exact fun h => absurd h (not_selects_of_selectorName hname (by decide))

end Storage

end Hazel
