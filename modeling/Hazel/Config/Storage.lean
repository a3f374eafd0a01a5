import Hazel.Config.EnumValue

/-!
# `config::storage`

The storage backends as the environment selects them, and the merge of two
storage configurations.
-/

namespace Hazel.Storage

open Query

def SERVICE : String := "HAZEL_STORAGE_SERVICE"

inductive Config where
  | filesystem (config : Remi.Fs.StorageConfig)
  | azure (config : Remi.Azure.StorageConfig)
  | s3 (config : Remi.S3.StorageConfig)
  deriving DecidableEq, Repr

def Config.default : Config := .filesystem ⟨"./data"⟩

namespace Filesystem

def DIRECTORY : String := "HAZEL_STORAGE_FILESYSTEM_DIRECTORY"

end Filesystem

namespace S3

def ENABLE_SIGNER_V4_REQUESTS : String := "HAZEL_STORAGE_S3_ENABLE_SIGNER_V4_REQUESTS"
def ENFORCE_PATH_ACCESS_STYLE : String := "HAZEL_STORAGE_S3_ENFORCE_PATH_ACCESS_STYLE"
def DEFAULT_OBJECT_ACL : String := "HAZEL_STORAGE_S3_DEFAULT_OBJECT_ACL"
def DEFAULT_BUCKET_ACL : String := "HAZEL_STORAGE_S3_DEFAULT_BUCKET_ACL"
def SECRET_ACCESS_KEY : String := "HAZEL_STORAGE_S3_SECRET_ACCESS_KEY"
def ACCESS_KEY_ID : String := "HAZEL_STORAGE_S3_ACCESS_KEY_ID"
def APP_NAME : String := "HAZEL_STORAGE_S3_APP_NAME"
def ENDPOINT : String := "HAZEL_STORAGE_S3_ENDPOINT"
def PREFIX : String := "HAZEL_STORAGE_S3_PREFIX"
def REGION : String := "HAZEL_STORAGE_S3_REGION"
def BUCKET : String := "HAZEL_STORAGE_S3_BUCKET"

def DEFAULT_OBJECT_CANNED_ACL : Remi.ObjectCannedAcl := ⟨"bucket-owner-full-control"⟩
def DEFAULT_BUCKET_CANNED_ACL : Remi.BucketCannedAcl := ⟨"authenticated-read"⟩

/-- `RegionEnv`: any text names a region. -/
def regionFromEnvValue (value : String) : Except String Remi.Region := .ok ⟨value⟩

def createConfig (cr : Crates) : EnvM Remi.S3.StorageConfig := do
  let enableSignerV4Requests ← Util.boolEnv cr ENABLE_SIGNER_V4_REQUESTS
  let enforcePathAccessStyle ← Util.boolEnv cr ENFORCE_PATH_ACCESS_STYLE
  let bucketAcl ← Util.envFromStr cr.bucketCannedAclFromStr DEFAULT_BUCKET_ACL
    DEFAULT_BUCKET_CANNED_ACL
  let objectAcl ← Util.envFromStr cr.objectCannedAclFromStr DEFAULT_OBJECT_ACL
    DEFAULT_OBJECT_CANNED_ACL
  let secretAccessKey ← (Env.tryParse cr textFromEnvValue SECRET_ACCESS_KEY).question
  let accessKeyId ← (Env.tryParse cr textFromEnvValue ACCESS_KEY_ID).question
  let appName ← (Env.tryParseOptional cr textFromEnvValue APP_NAME).question
  let endpoint ← (Env.tryParseOptional cr textFromEnvValue ENDPOINT).question
  let keyPrefix ← (Env.tryParseOptional cr textFromEnvValue PREFIX).question
  let region ← (Env.tryParseOrElse cr regionFromEnvValue REGION ⟨"us-east-1"⟩).question
  let bucket ← (Env.tryParseOptional cr textFromEnvValue BUCKET).question
  pure {
    enableSignerV4Requests, enforcePathAccessStyle, secretAccessKey, accessKeyId, appName,
    endpoint, keyPrefix
    defaultBucketAcl := some bucketAcl
    defaultObjectAcl := some objectAcl
    region := some region
    bucket := bucket.getD "charted" }

/-- `merge_tuple!`: what it leaves in `first`. -/
def mergeTuple {T : Type} [DecidableEq T] (first second : Option T) : Option T :=
  match first, second with
  | some obj1, some obj2 => if obj1 ≠ obj2 then some obj2 else some obj1
  | none, some obj => some obj
  | first, none => first

/-- The fields in the order the source merges them. It has no line for
`prefix`. -/
def mergeConfig (cr : Crates) (me other : Remi.S3.StorageConfig) : Remi.S3.StorageConfig :=
  { me with
    enableSignerV4Requests :=
      cr.onlyIfFalsy me.enableSignerV4Requests other.enableSignerV4Requests
    enforcePathAccessStyle :=
      cr.onlyIfFalsy me.enforcePathAccessStyle other.enforcePathAccessStyle
    defaultBucketAcl := mergeTuple me.defaultBucketAcl other.defaultBucketAcl
    defaultObjectAcl := mergeTuple me.defaultObjectAcl other.defaultObjectAcl
    secretAccessKey := cr.mergeString me.secretAccessKey other.secretAccessKey
    accessKeyId := cr.mergeString me.accessKeyId other.accessKeyId
    appName := mergeTuple me.appName other.appName
    endpoint := mergeTuple me.endpoint other.endpoint
    region := mergeTuple me.region other.region
    bucket := cr.mergeString me.bucket other.bucket }

end S3

namespace Azure

open Remi.Azure (Credential CloudLocation)

def ACCESS_KEY_ACCOUNT : String := "HAZEL_STORAGE_AZURE_CREDENTIAL_ACCESSKEY_ACCOUNT"
def ACCESS_KEY : String := "HAZEL_STORAGE_AZURE_CREDENTIAL_ACCESSKEY"
def SAS_TOKEN : String := "HAZEL_STORAGE_AZURE_CREDENTIAL_SAS_TOKEN"
def BEARER : String := "HAZEL_STORAGE_AZURE_CREDENTIAL_BEARER"
def ACCOUNT : String := "HAZEL_STORAGE_AZURE_ACCOUNT"
def URI : String := "HAZEL_STORAGE_AZURE_URI"
def CREDENTIAL : String := "HAZEL_STORAGE_AZURE_CREDENTIAL"
def CONTAINER : String := "HAZEL_STORAGE_AZURE_CONTAINER"
def LOCATION : String := "HAZEL_STORAGE_AZURE_LOCATION"

variable (cr : Crates)

/-- `env::try_parse(key)?` into a `String`. -/
def requiredText (key : String) : EnvM String :=
  (Env.tryParse cr textFromEnvValue key).question

def accessKeyCredential : EnvM Credential := do
  let account ← requiredText cr ACCESS_KEY_ACCOUNT
  let accessKey ← requiredText cr ACCESS_KEY
  pure (.accessKey account accessKey)

def sasTokenCredential : EnvM Credential := do
  pure (.sasToken (← requiredText cr SAS_TOKEN))

def bearerCredential : EnvM Credential := do
  pure (.bearer (← requiredText cr BEARER))

/-- The arms of `create_credentials_config`. -/
def credentialFields : String → Option (EnvM Credential)
  | "anonymous" | "anon" | "" => some (pure .anonymous)
  | "accesskey" | "access-key" | "access_key" => some (accessKeyCredential cr)
  | "sastoken" | "sas-token" | "sas_token" => some (sasTokenCredential cr)
  | "bearer" => some (bearerCredential cr)
  | _ => none

/-- A name that `create_credentials_config` accepts, with its arm. -/
theorem credentialFields_eq_some {name : String} {p : EnvM Credential} :
    credentialFields cr name = some p ↔
    (name ∈ ["anonymous", "anon", ""] ∧ p = pure .anonymous) ∨
      (name ∈ ["accesskey", "access-key", "access_key"] ∧ p = accessKeyCredential cr) ∨
      (name ∈ ["sastoken", "sas-token", "sas_token"] ∧ p = sasTokenCredential cr) ∨
      (name ∈ ["bearer"] ∧ p = bearerCredential cr) := by
  constructor
  · intro h
    unfold credentialFields at h
    split at h <;> simp_all
  · simp only [List.mem_cons, List.not_mem_nil, or_false]
    rintro (⟨h, rfl⟩ | ⟨h, rfl⟩ | ⟨h, rfl⟩ | ⟨h, rfl⟩)
    all_goals rcases h with rfl | rfl | rfl
    all_goals rfl

def createCredentialsConfig : EnvM Credential :=
  implEnumBasedEnvValue cr CREDENTIAL
    (fun input => "invalid input [" ++ input ++ "] for `$" ++ CREDENTIAL ++
      "`: expected either `anonymous` (`anon` is accepted as well), " ++
      "`sastoken` (`sas-token`, `sas_token` is accepted as well), " ++
      "`accesskey` (`access-key` and `access_key` is accepted as well) or `bearer`.")
    (credentialFields cr)

def publicLocation : EnvM CloudLocation := do
  pure (.publicCloud (← requiredText cr ACCOUNT))

def chinaLocation : EnvM CloudLocation := do
  pure (.china (← requiredText cr ACCOUNT))

def customLocation : EnvM CloudLocation := do
  let account ← requiredText cr ACCOUNT
  let uri ← requiredText cr URI
  pure (.custom account uri)

/-- The arms of `create_location`. -/
def locationFields : String → Option (EnvM CloudLocation)
  | "public" | "" => some (publicLocation cr)
  | "china" => some (chinaLocation cr)
  | "custom" => some (customLocation cr)
  | _ => none

/-- A name that `create_location` accepts, with its arm. -/
theorem locationFields_eq_some {name : String} {p : EnvM CloudLocation} :
    locationFields cr name = some p ↔
    (name ∈ ["public", ""] ∧ p = publicLocation cr) ∨
      (name ∈ ["china"] ∧ p = chinaLocation cr) ∨
      (name ∈ ["custom"] ∧ p = customLocation cr) := by
  constructor
  · intro h
    unfold locationFields at h
    split at h <;> simp_all
  · simp only [List.mem_cons, List.not_mem_nil, or_false]
    rintro (⟨h, rfl⟩ | ⟨h, rfl⟩ | ⟨h, rfl⟩)
    all_goals rcases h with rfl | rfl | rfl
    all_goals rfl

def createLocation : EnvM CloudLocation :=
  implEnumBasedEnvValue cr LOCATION
    (fun input => "invalid input [" ++ input ++ "] for `$" ++ LOCATION ++
      "`: expected either: `public`, `china`, or `custom`.")
    (locationFields cr)

def createConfig : EnvM Remi.Azure.StorageConfig := do
  let credentials ← createCredentialsConfig cr
  let location ← createLocation cr
  let container ← (Env.tryParseOptional cr textFromEnvValue CONTAINER).question
  pure { credentials, location, container := container.getD "charted" }

/-- Where a guard of the source fails, the last arm `(_, other)` takes over. -/
def mergeConfig (me other : Remi.Azure.StorageConfig) : Remi.Azure.StorageConfig where
  container := cr.mergeString me.container other.container
  location :=
    match me.location, other.location with
    | .publicCloud acc1, .publicCloud acc2 =>
      if acc1 ≠ acc2 then .publicCloud acc2 else other.location
    | .china acc1, .china acc2 => if acc1 ≠ acc2 then .china acc2 else other.location
    | _, other => other
  credentials :=
    match me.credentials, other.credentials with
    | .accessKey acc1 ak1, .accessKey account accessKey =>
      if acc1 ≠ account ∨ ak1 ≠ accessKey then .accessKey account accessKey
      else other.credentials
    | .sasToken token1, .sasToken token2 =>
      if token1 ≠ token2 then .sasToken token2 else other.credentials
    | .bearer token1, .bearer token2 =>
      if token1 ≠ token2 then .sasToken token2 else other.credentials
    | .anonymous, .anonymous => me.credentials
    | _, other => other

end Azure

variable (cr : Crates)

/-- Any error of reading the directory is replaced by the default. -/
def filesystemService : EnvM Config := do
  let directory ← Env.tryParse cr textFromEnvValue Filesystem.DIRECTORY
  pure (.filesystem ⟨directory.toOption.getD "./data"⟩)

def azureService : EnvM Config := do
  pure (.azure (← Azure.createConfig cr))

def s3Service : EnvM Config := do
  pure (.s3 (← S3.createConfig cr))

/-- The arms of `storage::Config::try_from_env`. -/
def serviceFields : String → Option (EnvM Config)
  | "filesystem" | "fs" | "" => some (filesystemService cr)
  | "azure" => some (azureService cr)
  | "s3" => some (s3Service cr)
  | _ => none

/-- A name that `storage::Config::try_from_env` accepts, with its arm. -/
theorem serviceFields_eq_some {name : String} {p : EnvM Config} :
    serviceFields cr name = some p ↔
    (name ∈ ["filesystem", "fs", ""] ∧ p = filesystemService cr) ∨
      (name ∈ ["azure"] ∧ p = azureService cr) ∨ (name ∈ ["s3"] ∧ p = s3Service cr) := by
  constructor
  · intro h
    unfold serviceFields at h
    split at h <;> simp_all
  · simp only [List.mem_cons, List.not_mem_nil, or_false]
    rintro (⟨h, rfl⟩ | ⟨h, rfl⟩ | ⟨h, rfl⟩)
    all_goals rcases h with rfl | rfl | rfl
    all_goals rfl

def Config.tryFromEnv : EnvM Config :=
  implEnumBasedEnvValue cr SERVICE
    (fun input => "environment variable `$" ++ SERVICE ++
      "` is not invalid: expected `filesystem`, `s3`, or `azure`, received `" ++ input ++
      "` instead")
    (serviceFields cr)

def Config.merge (me other : Config) : Config :=
  match me, other with
  | .filesystem fs1, .filesystem fs2 =>
    .filesystem ⟨cr.mergePathBuf fs1.directory fs2.directory⟩
  | .azure azure1, .azure azure2 => .azure (Azure.mergeConfig cr azure1 azure2)
  | .s3 s31, .s3 s32 => .s3 (S3.mergeConfig cr s31 s32)
  | _, other => other

end Hazel.Storage
