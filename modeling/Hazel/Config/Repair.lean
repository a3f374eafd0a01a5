import Hazel.Lib.Repair
import Hazel.Config.Isolation
import Hazel.Config.Snapshot

/-!
# Mending an environment

Loading stops at the first variable that it cannot use, and reads none twice. So
whoever mends the variable that the last attempt stopped at needs no other advice.
-/

namespace Hazel

open Query

section Reads

variable {V : Type} {p : EnvM V} {key : String}

/-- A variable that has a good value at all. -/
theorem IsRead.mendable {parse : String → Except String V} {default : Option V}
    (h : IsRead p key parse default) {var : Except VarError String} {v : V}
    (hvar : settled parse default var = some v) : p.Mendable := by
  cases p with
  | done r => exact absurd (h.consulted fun _ => var) nofun
  | ask k next =>
    have hdone (u : Except VarError String) : ∃ r, next u = .done r := by
      have hconsulted := h.consulted fun _ => u
      cases hnext : next u with
      | done r => exact ⟨r, rfl⟩
      | ask j next' => simp [Prog.consulted, hnext] at hconsulted
    refine ⟨⟨var, ?_⟩, fun u => ?_⟩
    · have hkey := List.cons.inj (h.consulted fun _ => var)
      have hvalue := h.value fun _ => var
      obtain ⟨r, hr⟩ := hdone var
      rw [hvar, Prog.run, hr, Prog.run, toOption_eq_some] at hvalue
      exact hr ▸ ⟨v, hvalue⟩
    · obtain ⟨r, hr⟩ := hdone u
      rw [hr]
      cases r with
      | error e => exact .inl ⟨e, rfl⟩
      | ok a => exact .inr ⟨a, rfl⟩

/-- To unset a variable with a default is good enough. -/
theorem IsRead.mendable_default {parse : String → Except String V} {default : V}
    (h : IsRead p key parse (some default)) : p.Mendable :=
  h.mendable (show settled parse (some default) (.error .notPresent) = some default from rfl)

/-- A selector with an arm, where no arm is stuck. -/
theorem mendable_enumValue {α : Type} {cr : Crates} (hcr : cr.DocumentedEnv)
    {error : String → String} {fields : String → Option (EnvM α)}
    (hunset : (fields "").isSome) (harm : ∀ name p, fields name = some p → p.Mendable) :
    (implEnumBasedEnvValue cr key error fields).Mendable := by
  have hread (var : Except VarError String) :
      (∃ e, enumBasedEnvValue key error fields (cr.tryParseOrElse textFromEnvValue "" var) =
        .done (.error e)) ∨
      (enumBasedEnvValue key error fields
        (cr.tryParseOrElse textFromEnvValue "" var)).Mendable := by
    rcases cr.tryParseOrElse textFromEnvValue "" var with ((_ | raw) | text) | input
    · exact .inl ⟨_, rfl⟩
    · exact .inl ⟨_, rfl⟩
    · exact .inl ⟨_, rfl⟩
    · simp only [enumBasedEnvValue]
      cases hp : fields (toAsciiLowercase input) with
      | none => exact .inl ⟨_, rfl⟩
      | some p => exact .inr (harm _ p hp)
  refine ⟨⟨.error .notPresent, ?_⟩, hread⟩
  obtain ⟨p, hp⟩ := Option.isSome_iff_exists.mp hunset
  have hempty : cr.tryParseOrElse textFromEnvValue "" (.error .notPresent) = .ok "" :=
    toOption_eq_some.mp (hcr.tryParseOrElse textFromEnvValue "" _)
  show (enumBasedEnvValue key error fields (cr.tryParseOrElse textFromEnvValue "" _)).Mendable
  have hlower : toAsciiLowercase "" = "" := by decide
  rw [hempty]
  simp only [enumBasedEnvValue, hlower, hp]
  exact harm "" p hp

end Reads

section Loading

variable {cr : Crates} (hcr : cr.DocumentedEnv)

/-- A read whose errors are replaced is never at fault. -/
theorem mendable_tryParse {V : Type} (parse : String → Except String V) (key : String) :
    (Env.tryParse cr parse key).Mendable :=
  ⟨⟨.error .notPresent, Prog.mendable_pure _⟩, fun _ => .inr (Prog.mendable_pure _)⟩

theorem mendable_boolEnv (key : String) : (Util.boolEnv cr key).Mendable :=
  (isRead_boolEnv cr key).mendable_default

include hcr

theorem mendable_tryParseOptional {V : Type} (parse : String → Except String V) (key : String) :
    (Env.tryParseOptional cr parse key).question.Mendable :=
  (isRead_tryParseOptional hcr key parse).mendable_default

theorem mendable_tryParseOrElse {V : Type} (parse : String → Except String V) (key : String)
    (default : V) : (Env.tryParseOrElse cr parse key default).question.Mendable :=
  (isRead_tryParseOrElse hcr key parse default).mendable_default

/-- A required text is mended by any text. -/
theorem mendable_requiredText (key : String) :
    (Env.tryParse cr textFromEnvValue key).question.Mendable :=
  (isRead_tryParse hcr key textFromEnvValue).mendable
    (show settled textFromEnvValue none (.ok "") = some "" from rfl)

namespace Logging

theorem Config.tryFromEnv_mendable : (Config.tryFromEnv cr).Mendable := by
  apply (mendable_tryParseOptional hcr _ _).bind
  intro filter
  apply (mendable_boolEnv _).bind
  intro json
  apply (isRead_tryParseOr hcr _ _ _).mendable_default.bind
  intro level
  exact Prog.mendable_pure _

end Logging

namespace Storage

namespace S3

theorem createConfig_mendable : (createConfig cr).Mendable := by
  apply (mendable_boolEnv _).bind
  intro signer
  apply (mendable_boolEnv _).bind
  intro style
  apply (isRead_envFromStr _ _ _).mendable_default.bind
  intro bucketAcl
  apply (isRead_envFromStr _ _ _).mendable_default.bind
  intro objectAcl
  apply (mendable_requiredText hcr _).bind
  intro secret
  apply (mendable_requiredText hcr _).bind
  intro keyId
  apply (mendable_tryParseOptional hcr _ _).bind
  intro appName
  apply (mendable_tryParseOptional hcr _ _).bind
  intro endpoint
  apply (mendable_tryParseOptional hcr _ _).bind
  intro keyPrefix
  apply (mendable_tryParseOrElse hcr _ _ _).bind
  intro region
  apply (mendable_tryParseOptional hcr _ _).bind
  intro bucket
  exact Prog.mendable_pure _

end S3

namespace Azure

theorem createCredentialsConfig_mendable : (createCredentialsConfig cr).Mendable := by
  apply mendable_enumValue hcr rfl
  intro name p hp
  rcases (credentialFields_eq_some cr).mp hp with ⟨-, rfl⟩ | ⟨-, rfl⟩ | ⟨-, rfl⟩ | ⟨-, rfl⟩
  · exact Prog.mendable_pure _
  · apply (mendable_requiredText hcr _).bind
    intro account
    exact (mendable_requiredText hcr _).bind fun _ => Prog.mendable_pure _
  · exact (mendable_requiredText hcr _).bind fun _ => Prog.mendable_pure _
  · exact (mendable_requiredText hcr _).bind fun _ => Prog.mendable_pure _

theorem createLocation_mendable : (createLocation cr).Mendable := by
  apply mendable_enumValue hcr rfl
  intro name p hp
  rcases (locationFields_eq_some cr).mp hp with ⟨-, rfl⟩ | ⟨-, rfl⟩ | ⟨-, rfl⟩
  · exact (mendable_requiredText hcr _).bind fun _ => Prog.mendable_pure _
  · exact (mendable_requiredText hcr _).bind fun _ => Prog.mendable_pure _
  · apply (mendable_requiredText hcr _).bind
    intro account
    exact (mendable_requiredText hcr _).bind fun _ => Prog.mendable_pure _

theorem createConfig_mendable : (createConfig cr).Mendable := by
  apply (createCredentialsConfig_mendable hcr).bind
  intro credentials
  apply (createLocation_mendable hcr).bind
  intro location
  exact (mendable_tryParseOptional hcr _ _).bind fun _ => Prog.mendable_pure _

end Azure

theorem Config.tryFromEnv_mendable : (Config.tryFromEnv cr).Mendable := by
  apply mendable_enumValue hcr rfl
  intro name p hp
  rcases (serviceFields_eq_some cr).mp hp with ⟨-, rfl⟩ | ⟨-, rfl⟩ | ⟨-, rfl⟩
  · exact (mendable_tryParse _ _).bind fun _ => Prog.mendable_pure _
  · exact (Azure.createConfig_mendable hcr).bind fun _ => Prog.mendable_pure _
  · exact (S3.createConfig_mendable hcr).bind fun _ => Prog.mendable_pure _

end Storage

namespace Server

theorem Ssl.requiredPath_mendable (key : String) : (Ssl.requiredPath cr key).Mendable := by
  have hread : IsRead (Ssl.requiredPath cr key) key textFromEnvValue none := {
    consulted := fun _ => rfl
    value := fun env => (toOption_mapError _ _).trans (hcr.tryParse textFromEnvValue (env key)) }
  exact hread.mendable (show settled textFromEnvValue none (.ok "") = some "" from rfl)

theorem sslFromEnv_mendable : (sslFromEnv cr).Mendable := by
  apply (mendable_boolEnv _).bind
  intro enabled
  cases enabled with
  | false => exact Prog.mendable_pure _
  | true =>
    have hpaths : (Ssl.Config.tryFromEnv cr).Mendable := by
      apply (Ssl.requiredPath_mendable hcr _).bind
      intro certKey
      exact (Ssl.requiredPath_mendable hcr _).bind fun _ => Prog.mendable_pure _
    exact hpaths.bind fun _ => Prog.mendable_pure _

theorem Config.tryFromEnv_mendable : (Config.tryFromEnv cr).Mendable := by
  apply (mendable_tryParse _ _).bind
  intro headers
  apply (mendable_tryParseOrElse hcr _ _ _).bind
  intro genericHost
  apply (mendable_tryParseOrElse hcr _ _ _).bind
  intro host
  apply (mendable_tryParseOrElse hcr _ _ _).bind
  intro genericPort
  apply (mendable_tryParseOrElse hcr _ _ _).bind
  intro port
  exact (sslFromEnv_mendable hcr).bind fun _ => Prog.mendable_pure _

end Server

theorem Config.tryFromEnv_mendable : (Config.tryFromEnv cr).Mendable := by
  apply (mendable_tryParseOptional hcr _ _).bind
  intro serverName
  apply (mendable_tryParseOptional hcr _ _).bind
  intro sentryDsn
  apply (Logging.Config.tryFromEnv_mendable hcr).bind
  intro logging
  apply (Storage.Config.tryFromEnv_mendable hcr).bind
  intro storage
  exact (Server.Config.tryFromEnv_mendable hcr).bind fun _ => Prog.mendable_pure _

/-- Whoever changes, after each failed load, the variable that it stopped at until
the load gets past it can always go on, comes to an environment that loads, and has
never changed more variables than that load reads. -/
theorem Config.tryFromEnv_repairs (env : Environment) {n : Nat} {now : Environment}
    (h : Prog.Repairs (Config.tryFromEnv cr) n env now) :
    n ≤ ((Config.tryFromEnv cr).consulted now).length ∧
      ((Config.tryFromEnv cr).consulted now).Sublist Config.readOrder ∧
      ((∃ e, (Config.tryFromEnv cr).run now = .error e) →
        ∃ next, Prog.Repair (Config.tryFromEnv cr) now next) ∧
      ∃ m last c, Prog.Repairs (Config.tryFromEnv cr) (n + m) env last ∧
        (Config.tryFromEnv cr).run last = .ok c := by
  have hmendable := Config.tryFromEnv_mendable hcr
  have halong := Config.tryFromEnv_asksAlong cr
  refine ⟨(h.le_consulted hmendable halong Config.readOrder_nodup).1,
    halong.consulted_sublist now, ?_, h.finish hmendable halong Config.readOrder_nodup⟩
  intro ⟨e, he⟩
  exact hmendable.exists_repair halong Config.readOrder_nodup he

end Loading

/-- A port that is no number, and the environment without it. -/
theorem Config.tryFromEnv_repairs_port :
    let env := Environment.of [("HAZEL_SERVER_PORT", .ok "http")]
    let now := Environment.of []
    1 ≤ ((Config.tryFromEnv Crates.reference).consulted now).length ∧
      ((Config.tryFromEnv Crates.reference).consulted now).Sublist Config.readOrder ∧
      ((∃ e, (Config.tryFromEnv Crates.reference).run now = .error e) →
        ∃ next, Prog.Repair (Config.tryFromEnv Crates.reference) now next) ∧
      ∃ m last c, Prog.Repairs (Config.tryFromEnv Crates.reference) (1 + m) env last ∧
        (Config.tryFromEnv Crates.reference).run last = .ok c := by
  intro env now
  have hrepair : Prog.Repair (Config.tryFromEnv Crates.reference) env now := by
    refine ⟨"HAZEL_SERVER_PORT", ⟨⟨_, rfl⟩, rfl⟩, fun ⟨⟨e, he⟩, _⟩ => ?_, fun name hname => ?_⟩
    · exact nomatch he
    · have hne : (name == "HAZEL_SERVER_PORT") = false := beq_false_of_ne hname
      simp [env, now, Environment.of, List.lookup_cons, hne]
  exact Config.tryFromEnv_repairs Crates.reference_documentedEnv env (.step (.refl env) hrepair)

end Hazel
