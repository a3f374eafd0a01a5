import Hazel.Lib.Snapshot
import Hazel.Config.Load

/-!
# Loading while the environment changes

The variables that loading reads, in the order in which it reads them. None is
read twice, so an environment that changes during the load is read as if it had
stood still.
-/

namespace Hazel

open Query

section Reads

variable {V : Type} {key : String}

theorem asksAlong_question {read : Except VarError String → Except TryParseError V} :
    Prog.AsksAlong [key] (EnvM.question (do pure (read (← Prog.lookup key)))) :=
  ⟨[], List.suffix_refl _, fun _ => trivial⟩

theorem asksAlong_boolEnv (cr : Crates) : Prog.AsksAlong [key] (Util.boolEnv cr key) :=
  ⟨[], List.suffix_refl _, fun _ => trivial⟩

theorem asksAlong_envFromStr (fromStr : String → Except String V) (default : V) :
    Prog.AsksAlong [key] (Util.envFromStr fromStr key default) := by
  refine ⟨[], List.suffix_refl _, fun var => ?_⟩
  rcases var with (_ | raw) | value
  · trivial
  · trivial
  · cases hv : fromStr value <;> simp only [Prog.bind, hv] <;> trivial

theorem asksAlong_pure {α : Type} (keys : List String) (a : α) :
    Prog.AsksAlong keys (pure a : EnvM α) := trivial

/-- A selector is read first, then what its arm reads. -/
theorem asksAlong_enumValue {α : Type} (cr : Crates) {error : String → String}
    {fields : String → Option (EnvM α)} {keys : List String}
    (harm : ∀ name p, fields name = some p → Prog.AsksAlong keys p) :
    Prog.AsksAlong (key :: keys) (implEnumBasedEnvValue cr key error fields) := by
  refine ⟨keys, List.suffix_refl _, fun var => ?_⟩
  show Prog.AsksAlong keys
    (enumBasedEnvValue key error fields (cr.tryParseOrElse textFromEnvValue "" var))
  rcases cr.tryParseOrElse textFromEnvValue "" var with ((_ | raw) | text) | input
  · trivial
  · trivial
  · trivial
  · cases hp : fields (toAsciiLowercase input) with
    | none =>
      simp only [enumBasedEnvValue, hp]
      trivial
    | some p =>
      simp only [enumBasedEnvValue, hp]
      exact harm _ p hp

end Reads

section Orders

variable (cr : Crates)

namespace Logging

def readOrder : List String := [FILTER, JSON, LEVEL]

theorem Config.tryFromEnv_asksAlong : Prog.AsksAlong readOrder (Config.tryFromEnv cr) := by
  refine asksAlong_question.cons_bind fun filter => ?_
  refine (asksAlong_boolEnv cr).cons_bind fun json => ?_
  refine asksAlong_question.cons_bind fun level => ?_
  exact asksAlong_pure [] _

end Logging

namespace Storage

namespace S3

def readOrder : List String :=
  [ENABLE_SIGNER_V4_REQUESTS, ENFORCE_PATH_ACCESS_STYLE, DEFAULT_BUCKET_ACL,
    DEFAULT_OBJECT_ACL, SECRET_ACCESS_KEY, ACCESS_KEY_ID, APP_NAME, ENDPOINT, PREFIX, REGION,
    BUCKET]

theorem createConfig_asksAlong : Prog.AsksAlong readOrder (createConfig cr) := by
  refine (asksAlong_boolEnv cr).cons_bind fun signer => ?_
  refine (asksAlong_boolEnv cr).cons_bind fun style => ?_
  refine (asksAlong_envFromStr _ _).cons_bind fun bucketAcl => ?_
  refine (asksAlong_envFromStr _ _).cons_bind fun objectAcl => ?_
  refine asksAlong_question.cons_bind fun secret => ?_
  refine asksAlong_question.cons_bind fun keyId => ?_
  refine asksAlong_question.cons_bind fun appName => ?_
  refine asksAlong_question.cons_bind fun endpoint => ?_
  refine asksAlong_question.cons_bind fun keyPrefix => ?_
  refine asksAlong_question.cons_bind fun region => ?_
  refine asksAlong_question.cons_bind fun bucket => ?_
  exact asksAlong_pure [] _

end S3

namespace Azure

theorem requiredText_asksAlong (key : String) : Prog.AsksAlong [key] (requiredText cr key) :=
  asksAlong_question

def credentialReads : List String := [ACCESS_KEY_ACCOUNT, ACCESS_KEY, SAS_TOKEN, BEARER]

/-- Each kind reads some of the variables that the kinds have among them. -/
theorem createCredentialsConfig_asksAlong :
    Prog.AsksAlong (CREDENTIAL :: credentialReads) (createCredentialsConfig cr) := by
  refine asksAlong_enumValue cr fun name p hp => ?_
  rcases (credentialFields_eq_some cr).mp hp with ⟨-, rfl⟩ | ⟨-, rfl⟩ | ⟨-, rfl⟩ | ⟨-, rfl⟩
  · exact asksAlong_pure _ _
  · refine (requiredText_asksAlong cr _).cons_bind fun account => ?_
    refine (requiredText_asksAlong cr _).cons_bind fun accessKey => ?_
    exact asksAlong_pure _ _
  · have hsas : Prog.AsksAlong [SAS_TOKEN, BEARER] (sasTokenCredential cr) :=
      (requiredText_asksAlong cr _).cons_bind fun token => asksAlong_pure _ _
    exact hsas.of_suffix ⟨[ACCESS_KEY_ACCOUNT, ACCESS_KEY], rfl⟩
  · have hbearer : Prog.AsksAlong [BEARER] (bearerCredential cr) :=
      (requiredText_asksAlong cr _).cons_bind fun token => asksAlong_pure _ _
    exact hbearer.of_suffix ⟨[ACCESS_KEY_ACCOUNT, ACCESS_KEY, SAS_TOKEN], rfl⟩

theorem createLocation_asksAlong :
    Prog.AsksAlong [LOCATION, ACCOUNT, URI] (createLocation cr) := by
  refine asksAlong_enumValue cr fun name p hp => ?_
  rcases (locationFields_eq_some cr).mp hp with ⟨-, rfl⟩ | ⟨-, rfl⟩ | ⟨-, rfl⟩
  · exact (requiredText_asksAlong cr _).cons_bind fun account => asksAlong_pure _ _
  · exact (requiredText_asksAlong cr _).cons_bind fun account => asksAlong_pure _ _
  · refine (requiredText_asksAlong cr _).cons_bind fun account => ?_
    exact (requiredText_asksAlong cr _).cons_bind fun uri => asksAlong_pure _ _

def readOrder : List String :=
  (CREDENTIAL :: credentialReads) ++ ([LOCATION, ACCOUNT, URI] ++ [CONTAINER])

theorem createConfig_asksAlong : Prog.AsksAlong readOrder (createConfig cr) := by
  refine (createCredentialsConfig_asksAlong cr).bind fun credentials => ?_
  refine (createLocation_asksAlong cr).bind fun location => ?_
  exact asksAlong_question.map _

end Azure

def readOrder : List String :=
  SERVICE :: ([Filesystem.DIRECTORY] ++ (Azure.readOrder ++ S3.readOrder))

theorem Config.tryFromEnv_asksAlong : Prog.AsksAlong readOrder (Config.tryFromEnv cr) := by
  refine asksAlong_enumValue cr fun name p hp => ?_
  rcases (serviceFields_eq_some cr).mp hp with ⟨-, rfl⟩ | ⟨-, rfl⟩ | ⟨-, rfl⟩
  · exact ⟨_, List.suffix_refl _, fun _ => asksAlong_pure _ _⟩
  · have hazure : Prog.AsksAlong Azure.readOrder (azureService cr) :=
      (Azure.createConfig_asksAlong cr).map Config.azure
    exact (hazure.of_prefix S3.readOrder).of_suffix (List.suffix_append _ _)
  · have hs3 : Prog.AsksAlong S3.readOrder (s3Service cr) :=
      (S3.createConfig_asksAlong cr).map Config.s3
    refine hs3.of_suffix ?_
    exact (List.suffix_append _ _).trans (List.suffix_append _ _)

end Storage

namespace Server

def readOrder : List String :=
  [HEADERS, HOST.2, HOST.1, PORT.2, PORT.1, Ssl.ENABLED, Ssl.CERT_KEY, Ssl.CERT]

theorem Ssl.requiredPath_asksAlong (key : String) :
    Prog.AsksAlong [key] (Ssl.requiredPath cr key) :=
  ⟨[], List.suffix_refl _, fun _ => trivial⟩

theorem sslFromEnv_asksAlong :
    Prog.AsksAlong [Ssl.ENABLED, Ssl.CERT_KEY, Ssl.CERT] (sslFromEnv cr) := by
  refine (asksAlong_boolEnv cr).cons_bind fun enabled => ?_
  cases enabled with
  | false => exact asksAlong_pure _ _
  | true =>
    have hpaths : Prog.AsksAlong [Ssl.CERT_KEY, Ssl.CERT] (Ssl.Config.tryFromEnv cr) := by
      refine (Ssl.requiredPath_asksAlong cr _).cons_bind fun certKey => ?_
      exact (Ssl.requiredPath_asksAlong cr _).cons_bind fun cert => asksAlong_pure _ _
    exact hpaths.map some

theorem Config.tryFromEnv_asksAlong : Prog.AsksAlong readOrder (Config.tryFromEnv cr) := by
  refine Prog.AsksAlong.cons_bind ⟨[], List.suffix_refl _, fun _ => trivial⟩ fun headers => ?_
  refine asksAlong_question.cons_bind fun genericHost => ?_
  refine asksAlong_question.cons_bind fun host => ?_
  refine asksAlong_question.cons_bind fun genericPort => ?_
  refine asksAlong_question.cons_bind fun port => ?_
  exact (sslFromEnv_asksAlong cr).map _

end Server

/-- The variables of the whole configuration, in the order they are read. -/
def Config.readOrder : List String :=
  SERVER_NAME :: SENTRY_DSN ::
    (Logging.readOrder ++ (Storage.readOrder ++ Server.readOrder))

theorem Config.readOrder_nodup : Config.readOrder.Nodup := by decide

theorem Config.tryFromEnv_asksAlong : Prog.AsksAlong Config.readOrder (Config.tryFromEnv cr) := by
  refine asksAlong_question.cons_bind fun serverName => ?_
  refine asksAlong_question.cons_bind fun sentryDsn => ?_
  refine (Logging.Config.tryFromEnv_asksAlong cr).bind fun logging => ?_
  refine (Storage.Config.tryFromEnv_asksAlong cr).bind fun storage => ?_
  exact (Server.Config.tryFromEnv_asksAlong cr).map _

/-- The name of the server is read in any case. -/
theorem Config.lt_ending (world : Nat → Environment) (start : Nat) :
    start < (Config.tryFromEnv cr).ending world start :=
  Prog.le_ending world (start + 1) _

/-- The environment as a load from instant `start` on has read it. -/
theorem Config.exists_environment (world : Nat → Environment) (start : Nat) :
    ∃ env : Environment,
      (∀ name, ∃ i, start ≤ i ∧ i < (Config.tryFromEnv cr).ending world start ∧
        env name = world i name) ∧
      (Config.tryFromEnv cr).runDuring world start = (Config.tryFromEnv cr).run env := by
  obtain ⟨env, henv, hrun⟩ :=
    (Config.tryFromEnv_asksAlong cr).exists_snapshot Config.readOrder_nodup world start start
  refine ⟨env, fun name => (henv name).elim id fun hstart => ?_, hrun⟩
  exact ⟨start, Nat.le_refl start, Config.lt_ending cr world start, hstart⟩

/-- However the environment changes between the reads, loading ends as it would
in one environment that stands still, in which every variable is as it was at
some instant of the load. No variable is read twice. -/
theorem Config.tryFromEnv_snapshot (world : Nat → Environment) (start : Nat) :
    ∃ env : Environment,
      (∀ name, ∃ i, start ≤ i ∧ i < (Config.tryFromEnv cr).ending world start ∧
        env name = world i name) ∧
      (Config.tryFromEnv cr).runDuring world start = (Config.tryFromEnv cr).run env ∧
      ((Config.tryFromEnv cr).consulted env).Sublist Config.readOrder ∧
      ((Config.tryFromEnv cr).consulted env).Nodup := by
  obtain ⟨env, henv, hrun⟩ := Config.exists_environment cr world start
  have hsublist := (Config.tryFromEnv_asksAlong cr).consulted_sublist env
  exact ⟨env, henv, hrun, hsublist, Config.readOrder_nodup.sublist hsublist⟩

end Orders

end Hazel
