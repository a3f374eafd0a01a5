import Hazel.Std

/-!
# The crates the program depends on

Their source is not part of the repository. The data types are those the
program's own code builds and matches on; the functions it calls are the fields
of `Crates`. What they do is stated by `Crates.DocumentedEnv` and by one
proposition for each law of a merge. `Crates.reference` is one implementation
that keeps all of them.
-/

namespace Hazel

/-- `azalia::config::env::TryParseError`, a parser's error by its text. -/
inductive TryParseError where
  | system (e : VarError)
  | parse (text : String)
  deriving DecidableEq, Repr

/-- `tracing::Level`. -/
inductive Level where
  | trace | debug | info | warn | error
  deriving DecidableEq, Repr

/-- `sentry::types::Dsn`, by its text. -/
structure Dsn where
  text : String
  deriving DecidableEq, Repr

/-- A TOML value. -/
inductive Toml where
  | string (s : String)
  | integer (i : Int)
  | float (text : String)
  | boolean (b : Bool)
  | datetime (text : String)
  | array (items : List Toml)
  | table (entries : List (String × Toml))

/-- Why serde rejects a value. -/
inductive DeError where
  | missingField (name : String)
  | unknownField (name : String)
  | unknownVariant (name : String)
  | invalidType
  | custom (text : String)
  deriving DecidableEq, Repr

namespace Remi

/-- `remi_s3::aws::config::Region`. -/
structure Region where
  name : String
  deriving DecidableEq, Repr

/-- `BucketCannedAcl`, by its wire name. -/
structure BucketCannedAcl where
  name : String
  deriving DecidableEq, Repr

/-- `ObjectCannedAcl`, by its wire name. -/
structure ObjectCannedAcl where
  name : String
  deriving DecidableEq, Repr

/-- `remi_fs::StorageConfig`. -/
structure Fs.StorageConfig where
  directory : String
  deriving DecidableEq, Repr

/-- `remi_s3::StorageConfig`; `keyPrefix` is its `prefix`. -/
structure S3.StorageConfig where
  enableSignerV4Requests : Bool
  enforcePathAccessStyle : Bool
  defaultBucketAcl : Option BucketCannedAcl
  defaultObjectAcl : Option ObjectCannedAcl
  secretAccessKey : String
  accessKeyId : String
  appName : Option String
  endpoint : Option String
  keyPrefix : Option String
  region : Option Region
  bucket : String
  deriving DecidableEq, Repr

/-- `remi_azure::Credential`. -/
inductive Azure.Credential where
  | anonymous
  | accessKey (account accessKey : String)
  | sasToken (token : String)
  | bearer (token : String)
  deriving DecidableEq, Repr

/-- `remi_azure::CloudLocation`. -/
inductive Azure.CloudLocation where
  | publicCloud (account : String)
  | china (account : String)
  | custom (account uri : String)
  deriving DecidableEq, Repr

/-- `remi_azure::StorageConfig`. -/
structure Azure.StorageConfig where
  credentials : Azure.Credential
  location : Azure.CloudLocation
  container : String
  deriving DecidableEq, Repr

end Remi

/-- A `BTreeMap<String, String>`, by its entries. -/
abbrev StringMap := List (String × String)

/-- The functions of other crates that loading a configuration calls. A parser
of a variable's text gives the value or the text of its error. -/
structure Crates where
  /-- `azalia::config::env::try_parse`, on the variable's value. -/
  tryParse : {V : Type} → (String → Except String V) → Except VarError String →
    Except TryParseError V
  /-- `azalia::config::env::try_parse_or`. -/
  tryParseOr : {V : Type} → (String → Except String V) → (Unit → V) →
    Except VarError String → Except TryParseError V
  /-- `azalia::config::env::try_parse_or_else`. -/
  tryParseOrElse : {V : Type} → (String → Except String V) → V →
    Except VarError String → Except TryParseError V
  /-- `azalia::config::env::try_parse_optional`. -/
  tryParseOptional : {V : Type} → (String → Except String V) → Except VarError String →
    Except TryParseError (Option V)
  /-- `Display` of `TryParseError`. -/
  displayTryParseError : TryParseError → String
  /-- `azalia::TRUTHY_REGEX.is_match`. -/
  truthyRegexIsMatch : String → Bool
  /-- `TryFromEnvValue` of `BTreeMap<String, String>`. -/
  mapFromEnvValue : String → Except String StringMap
  /-- `TryFromEnvValue` of `Dsn`. -/
  dsnFromEnvValue : String → Except String Dsn
  /-- `TryFromEnvValue` of `Level`. -/
  levelFromEnvValue : String → Except String Level
  /-- `EnvFilter::try_new`, which only its error matters of. -/
  envFilterTryNew : String → Except String Unit
  /-- `BucketCannedAcl::from_str`. -/
  bucketCannedAclFromStr : String → Except String Remi.BucketCannedAcl
  /-- `ObjectCannedAcl::from_str`. -/
  objectCannedAclFromStr : String → Except String Remi.ObjectCannedAcl
  /-- `Merge` of `String`. -/
  mergeString : String → String → String
  /-- `Merge` of `PathBuf`. -/
  mergePathBuf : String → String → String
  /-- `Merge` of `u16`. -/
  mergeU16 : UInt16 → UInt16 → UInt16
  /-- `Merge` of `Level`. -/
  mergeLevel : Level → Level → Level
  /-- `Merge` of `Dsn`. -/
  mergeDsn : Dsn → Dsn → Dsn
  /-- `Merge` of `BTreeMap<String, String>`. -/
  mergeMap : StringMap → StringMap → StringMap
  /-- `Merge` of `Option<T>`, given that of `T`. -/
  mergeOption : {T : Type} → (T → T → T) → Option T → Option T → Option T
  /-- `azalia::config::merge::strategy::bool::only_if_falsy`. -/
  onlyIfFalsy : Bool → Bool → Bool
  /-- `azalia::config::merge::strategy::string::overwrite_empty`. -/
  overwriteEmpty : String → String → String
  /-- The grammar of `toml::from_str`: a document is a table. -/
  parseToml : String → Except String (List (String × Toml))
  /-- `Deserialize` of `Dsn`. -/
  deserializeDsn : Toml → Except DeError Dsn
  /-- `azalia::serde::tracing`. -/
  deserializeLevel : Toml → Except DeError Level
  /-- `Deserialize` of `remi_fs::StorageConfig`. -/
  deserializeFs : Toml → Except DeError Remi.Fs.StorageConfig
  /-- `Deserialize` of `remi_azure::StorageConfig`. -/
  deserializeAzure : Toml → Except DeError Remi.Azure.StorageConfig
  /-- `Deserialize` of `remi_s3::StorageConfig`. -/
  deserializeS3 : Toml → Except DeError Remi.S3.StorageConfig

/-- The value a variable settles on: its parsed text when it is set, `default`
when it is unset. There is none when the variable is set but invalid. -/
def settled {V : Type} (parse : String → Except String V) (default : Option V) :
    Except VarError String → Option V
  | .ok text => (parse text).toOption
  | .error .notPresent => default
  | .error (.notUnicode _) => none

/-- What azalia documents of its environment helpers. -/
structure Crates.DocumentedEnv (cr : Crates) : Prop where
  tryParse : ∀ {V : Type} (parse : String → Except String V) (var : Except VarError String),
    (cr.tryParse parse var).toOption = settled parse none var
  tryParseOr : ∀ {V : Type} (parse : String → Except String V) (default : Unit → V)
    (var : Except VarError String),
    (cr.tryParseOr parse default var).toOption = settled parse (some (default ())) var
  tryParseOrElse : ∀ {V : Type} (parse : String → Except String V) (default : V)
    (var : Except VarError String),
    (cr.tryParseOrElse parse default var).toOption = settled parse (some default) var
  tryParseOptional : ∀ {V : Type} (parse : String → Except String V)
    (var : Except VarError String),
    (cr.tryParseOptional parse var).toOption =
      settled (fun text => (parse text).map some) (some none) var

section Merges

variable (cr : Crates)

/-- `Merge` of `String`: a differing right value replaces the left one. -/
abbrev Crates.ReplacesString : Prop := ∀ me other, cr.mergeString me other = other

/-- `Merge` of `PathBuf`. -/
abbrev Crates.ReplacesPathBuf : Prop := ∀ me other, cr.mergePathBuf me other = other

/-- `Merge` of `Level`. -/
abbrev Crates.ReplacesLevel : Prop := ∀ me other, cr.mergeLevel me other = other

/-- `Merge` of `u16`, for a right value that is not 0. -/
abbrev Crates.ReplacesU16 : Prop := ∀ me other, other ≠ 0 → cr.mergeU16 me other = other

/-- `Merge` of `u16` passes over a 0. -/
abbrev Crates.IgnoresZero : Prop := ∀ me, cr.mergeU16 me 0 = me

/-- `Merge` of `Option<T>` passes over a `None`. -/
abbrev Crates.IgnoresNone : Prop :=
  ∀ {T : Type} (merge : T → T → T) (me : Option T), cr.mergeOption merge me none = me

/-- `Merge` of `Option<T>` assigns only where there was nothing. -/
abbrev Crates.FillsNone : Prop :=
  ∀ {T : Type} (merge : T → T → T) (me other : Option T),
    cr.mergeOption merge me other = me.or other

/-- `Merge` of a map passes over one without entries. -/
abbrev Crates.IgnoresEmptyMap : Prop := ∀ me, cr.mergeMap me [] = me

abbrev Crates.FillsEmptyMap : Prop := ∀ other, cr.mergeMap [] other = other

/-- `only_if_falsy` assigns the right value exactly when the left one is false. -/
abbrev Crates.AssignsIfFalsy : Prop :=
  ∀ me other, cr.onlyIfFalsy me other = if me then me else other

end Merges

namespace Crates

/-- A `TryFromEnvValue` helper that does what azalia documents. -/
def settle {V : Type} (parse : String → Except String V) (default : Option V) :
    Except VarError String → Except TryParseError V
  | .ok text =>
    match parse text with
    | .ok v => .ok v
    | .error e => .error (.parse e)
  | .error .notPresent =>
    match default with
    | some v => .ok v
    | none => .error (.system .notPresent)
  | .error (.notUnicode raw) => .error (.system (.notUnicode raw))

theorem settle_toOption {V : Type} (parse : String → Except String V) (default : Option V)
    (var : Except VarError String) :
    (settle parse default var).toOption = settled parse default var := by
  rcases var with (_ | raw) | text
  · cases default <;> rfl
  · rfl
  · simp only [settle, settled]
    cases parse text <;> rfl

/-- The five level names, in either case. -/
def levelOfName (text : String) : Except String Level :=
  match toAsciiLowercase text with
  | "trace" => .ok .trace
  | "debug" => .ok .debug
  | "info" => .ok .info
  | "warn" => .ok .warn
  | "error" => .ok .error
  | _ => .error "error parsing level"

/-- Crates that keep all of these, on small grammars: the only TOML document is
the empty one, and a map variable is always empty. -/
def reference : Crates where
  tryParse parse var := settle parse none var
  tryParseOr parse default var := settle parse (some (default ())) var
  tryParseOrElse parse default var := settle parse (some default) var
  tryParseOptional parse var := settle (fun text => (parse text).map some) (some none) var
  displayTryParseError
    | .system .notPresent => "environment variable not found"
    | .system (.notUnicode _) => "environment variable was not valid unicode"
    | .parse text => text
  truthyRegexIsMatch text := ["1", "true", "yes", "enable"].contains (toAsciiLowercase text)
  mapFromEnvValue _ := .ok []
  dsnFromEnvValue text := .ok ⟨text⟩
  levelFromEnvValue := levelOfName
  envFilterTryNew _ := .ok ()
  bucketCannedAclFromStr text := .ok ⟨text⟩
  objectCannedAclFromStr text := .ok ⟨text⟩
  mergeString _ other := other
  mergePathBuf _ other := other
  mergeU16 me other := if other = 0 then me else other
  mergeLevel _ other := other
  mergeDsn _ other := other
  mergeMap me other := me ++ other.filter fun entry => !(me.map Prod.fst).contains entry.1
  mergeOption _ me other := me.or other
  onlyIfFalsy me other := if me then me else other
  overwriteEmpty me other := if me = "" then other else me
  parseToml text := if text = "" then .ok [] else .error "unsupported document"
  deserializeDsn
    | .string text => .ok ⟨text⟩
    | _ => .error .invalidType
  deserializeLevel
    | .string text => (levelOfName text).mapError .custom
    | _ => .error .invalidType
  deserializeFs
    | .table [("directory", .string directory)] => .ok ⟨directory⟩
    | _ => .error .invalidType
  deserializeAzure _ := .error .invalidType
  deserializeS3 _ := .error .invalidType

theorem reference_documentedEnv : reference.DocumentedEnv where
  tryParse parse var := settle_toOption parse none var
  tryParseOr parse default var := settle_toOption parse (some (default ())) var
  tryParseOrElse parse default var := settle_toOption parse (some default) var
  tryParseOptional _ var := settle_toOption _ (some none) var

/-- The reference crates with the grammar of one file. -/
def parsing (text : String) (document : List (String × Toml)) : Crates :=
  { reference with
    parseToml := fun toml =>
      if toml = text then .ok document else .error "unsupported document" }

theorem parsing_documentedEnv (text : String) (document : List (String × Toml)) :
    (parsing text document).DocumentedEnv where
  tryParse := reference_documentedEnv.tryParse
  tryParseOr := reference_documentedEnv.tryParseOr
  tryParseOrElse := reference_documentedEnv.tryParseOrElse
  tryParseOptional := reference_documentedEnv.tryParseOptional

theorem reference_replacesU16 : reference.ReplacesU16 := fun _ _ h => if_neg h

theorem reference_ignoresNone : reference.IgnoresNone := fun _ _ => Option.or_none

theorem reference_ignoresEmptyMap : reference.IgnoresEmptyMap := List.append_nil

theorem reference_fillsEmptyMap : reference.FillsEmptyMap := by
  intro other
  show [] ++ other.filter (fun entry => !(List.map Prod.fst []).contains entry.1) = other
  simp

end Crates

end Hazel
