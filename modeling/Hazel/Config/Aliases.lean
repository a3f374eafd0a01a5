import Hazel.Config.Loads

/-!
# The two names of a server setting

Host and port are each read from a variable of the program's own and from a
generic one, which is the default of the first. The default is read and checked
before it is known to be needed, so a generic variable that the program's own one
overrides can still keep the server from loading.
-/

namespace Hazel

open Query

/-- The first of the two variables that is set; the second where neither is. -/
def firstSet (env : Environment) (keys : String × String) : String :=
  match env keys.1 with
  | .error .notPresent => keys.2
  | _ => keys.1

/-- Reading the first variable with what the second one gives as its default is
reading the first that is set, provided the second can be read. -/
theorem settled_settled {V : Type} {env : Environment} {parse : String → Except String V}
    {keys : String × String} {default v : V} :
    (∃ generic, settled parse (some default) (env keys.2) = some generic ∧
      settled parse (some generic) (env keys.1) = some v) ↔
      AcceptedIfSet env keys.2 parse ∧
        settled parse (some default) (env (firstSet env keys)) = some v := by
  unfold firstSet
  rcases hown : env keys.1 with (_ | raw) | text
  · show (∃ generic, settled parse (some default) (env keys.2) = some generic ∧
      some generic = some v) ↔ _
    constructor
    · rintro ⟨generic, hgeneric, heq⟩
      rw [heq] at hgeneric
      exact ⟨acceptedIfSet_of_settled hgeneric, hgeneric⟩
    · rintro ⟨-, hfirst⟩
      exact ⟨v, hfirst, rfl⟩
  · simp [settled, hown]
  · -- the default makes no difference to a variable that is set
    show (∃ generic, settled parse (some default) (env keys.2) = some generic ∧
      (parse text).toOption = some v) ↔ _ ∧ settled parse (some default) (env keys.1) = some v
    rw [hown]
    constructor
    · rintro ⟨generic, hgeneric, hparse⟩
      exact ⟨acceptedIfSet_of_settled hgeneric, hparse⟩
    · rintro ⟨haccepted, hparse⟩
      obtain ⟨generic, hgeneric⟩ := haccepted.exists_settled default
      exact ⟨generic, hgeneric, hparse⟩

theorem firstSet_congr {env env' : Environment} {keys : String × String}
    (hown : env keys.1 = env' keys.1)
    (hgeneric : env keys.2 = env' keys.2 ∨ env keys.1 ≠ .error .notPresent) :
    env (firstSet env keys) = env' (firstSet env' keys) := by
  unfold firstSet
  rw [← hown]
  rcases hvar : env keys.1 with (_ | raw) | text
  · exact hgeneric.resolve_right fun hset => hset hvar
  · exact hown
  · exact hown

namespace Server

variable {cr : Crates} {env env' : Environment}

/-- `c` has for host and port what the first variable that is set gives, and the
default where none is. -/
structure Config.Prioritised (cr : Crates) (env : Environment) (c : Config) : Prop where
  headers : c.headers = (settled cr.mapFromEnvValue none (env HEADERS)).getD []
  host : settled textFromEnvValue (some defaultHost) (env (firstSet env HOST)) = some c.host
  port : settled u16FromStr (some defaultPort) (env (firstSet env PORT)) = some c.port
  ssl : SslSettles cr env c.ssl

/-- The variables that take priority are valid, and so is the rest. -/
structure FirstSetLoads (cr : Crates) (env : Environment) : Prop where
  host : UnicodeIfSet env (firstSet env HOST)
  port : AcceptedIfSet env (firstSet env PORT) u16FromStr
  ssl : SslLoads cr env

/-- The generic variables are unset or valid. -/
structure GenericsAccepted (env : Environment) : Prop where
  host : UnicodeIfSet env HOST.2
  port : AcceptedIfSet env PORT.2 u16FromStr

theorem exists_prioritised_iff :
    (∃ c, Config.Prioritised cr env c) ↔ FirstSetLoads cr env := by
  constructor
  · rintro ⟨c, h⟩
    exact ⟨acceptedIfSet_of_settled h.host, acceptedIfSet_of_settled h.port,
      exists_sslSettles_iff.mp ⟨_, h.ssl⟩⟩
  · intro h
    obtain ⟨host, hhost⟩ := h.host.exists_settled defaultHost
    obtain ⟨port, hport⟩ := h.port.exists_settled defaultPort
    obtain ⟨ssl, hssl⟩ := exists_sslSettles_iff.mpr h.ssl
    exact ⟨⟨_, host, port, ssl⟩, rfl, hhost, hport, hssl⟩

theorem settles_iff_prioritised {c : Config} :
    Config.Settles cr env c ↔ GenericsAccepted env ∧ Config.Prioritised cr env c := by
  constructor
  · intro h
    obtain ⟨hgenericHost, hhost⟩ := settled_settled.mp h.host
    obtain ⟨hgenericPort, hport⟩ := settled_settled.mp h.port
    exact ⟨⟨hgenericHost, hgenericPort⟩, h.headers, hhost, hport, h.ssl⟩
  · rintro ⟨hgenerics, h⟩
    exact ⟨h.headers, settled_settled.mpr ⟨hgenerics.host, h.host⟩,
      settled_settled.mpr ⟨hgenerics.port, h.port⟩, h.ssl⟩

theorem tryFromEnv_eq_ok_iff_prioritised (hcr : cr.DocumentedEnv) {c : Config} :
    (Config.tryFromEnv cr).run env = .ok c ↔
      GenericsAccepted env ∧ Config.Prioritised cr env c := by
  rw [Config.tryFromEnv_eq_ok hcr, settles_iff_prioritised]

/-- The two environments differ at most in generic variables that a valid variable
of the program's own overrides. -/
structure DifferBehind (env env' : Environment) : Prop where
  others : ∀ key, key ≠ HOST.2 → key ≠ PORT.2 → env key = env' key
  host : env HOST.2 = env' HOST.2 ∨ ∃ text, env HOST.1 = .ok text
  port : env PORT.2 = env' PORT.2 ∨
    ∃ text port, env PORT.1 = .ok text ∧ u16FromStr text = .ok port

namespace DifferBehind

theorem symm (h : DifferBehind env env') : DifferBehind env' env where
  others key hhost hport := (h.others key hhost hport).symm
  host := by
    rw [← h.others HOST.1 (by decide) (by decide)]
    exact h.host.imp_left Eq.symm
  port := by
    rw [← h.others PORT.1 (by decide) (by decide)]
    exact h.port.imp_left Eq.symm

theorem firstSet_host (h : DifferBehind env env') :
    env (firstSet env HOST) = env' (firstSet env' HOST) := by
  apply firstSet_congr (h.others _ (by decide) (by decide))
  refine h.host.imp_right fun ⟨text, htext⟩ => ?_
  rw [htext]
  nofun

theorem firstSet_port (h : DifferBehind env env') :
    env (firstSet env PORT) = env' (firstSet env' PORT) := by
  apply firstSet_congr (h.others _ (by decide) (by decide))
  refine h.port.imp_right fun ⟨text, port, htext, _⟩ => ?_
  rw [htext]
  nofun

/-- What has priority is the same in both. -/
theorem prioritised (h : DifferBehind env env') {c : Config}
    (hc : Config.Prioritised cr env c) : Config.Prioritised cr env' c where
  headers := by
    rw [← h.others HEADERS (by decide) (by decide)]
    exact hc.headers
  host := by
    rw [← h.firstSet_host]
    exact hc.host
  port := by
    rw [← h.firstSet_port]
    exact hc.port
  ssl := by
    obtain ⟨henabled, hpaths⟩ := hc.ssl
    rw [h.others Ssl.ENABLED (by decide) (by decide)] at henabled
    refine ⟨henabled, fun ssl hssl => ?_⟩
    obtain ⟨hcertKey, hcert⟩ := hpaths ssl hssl
    rw [h.others Ssl.CERT_KEY (by decide) (by decide)] at hcertKey
    rw [h.others Ssl.CERT (by decide) (by decide)] at hcert
    exact ⟨hcertKey, hcert⟩

end DifferBehind

/-- Both reads of a setting give the same to what follows, where the generic
variables can be read and differ at most behind a valid variable. -/
theorem aliased_run_congr (hcr : cr.DocumentedEnv) {V α : Type} {parse : String → Except String V}
    {keys : String × String} {default : V} {next : V → EnvM α}
    (haccepted : AcceptedIfSet env keys.2 parse) (haccepted' : AcceptedIfSet env' keys.2 parse)
    (hown : env keys.1 = env' keys.1)
    (hgeneric : env keys.2 = env' keys.2 ∨ ∃ text v, env keys.1 = .ok text ∧ parse text = .ok v)
    (hnext : ∀ v, (next v).run env = (next v).run env') :
    let aliased := do
      let generic ← (Env.tryParseOrElse cr parse keys.2 default).question
      next (← (Env.tryParseOrElse cr parse keys.1 generic).question)
    aliased.run env = aliased.run env' := by
  intro aliased
  obtain ⟨generic, hread⟩ := haccepted.exists_settled default
  obtain ⟨generic', hread'⟩ := haccepted'.exists_settled default
  have hrun := (tryParseOrElse_eq_ok hcr keys.2 parse default).mpr hread
  have hrun' := (tryParseOrElse_eq_ok hcr keys.2 parse default).mpr hread'
  have hsame : (Env.tryParseOrElse cr parse keys.1 generic).question.run env =
      (Env.tryParseOrElse cr parse keys.1 generic').question.run env' := by
    rcases hgeneric with heq | ⟨text, v, htext, hv⟩
    · rw [heq, hread', Option.some.injEq] at hread
      rw [hread]
      apply Prog.run_eq_of_asksIn (asksIn_question rfl)
      rintro key rfl
      exact hown
    · -- a valid variable is read as its value, whatever the default
      have hsettled (default : V) : settled parse (some default) (env keys.1) = some v := by
        rw [htext]
        exact toOption_eq_some.mpr hv
      rw [(tryParseOrElse_eq_ok hcr keys.1 parse generic).mpr (hsettled generic),
        (tryParseOrElse_eq_ok hcr keys.1 parse generic').mpr (hown ▸ hsettled generic')]
  rw [Prog.run_bind_of_ok env hrun, Prog.run_bind_of_ok env' hrun', Prog.run_bind, Prog.run_bind,
    hsame]
  simp only [hnext]

theorem sslFromEnv_asksIn (cr : Crates) :
    (sslFromEnv cr).AsksIn fun key => key ≠ HOST.2 ∧ key ≠ PORT.2 := by
  refine Prog.asksIn_bind (asksIn_boolEnv cr (by decide)) fun enabled => ?_
  cases enabled with
  | false => trivial
  | true =>
    refine Prog.asksIn_bind ?_ fun _ => trivial
    refine Prog.asksIn_bind ⟨by decide, fun _ => trivial⟩ fun _ => ?_
    exact Prog.asksIn_bind ⟨by decide, fun _ => trivial⟩ fun _ => trivial

/-- Valid generic variables make no difference where they are overridden. -/
theorem tryFromEnv_run_eq (hcr : cr.DocumentedEnv) (h : DifferBehind env env')
    (hgenerics : GenericsAccepted env) (hgenerics' : GenericsAccepted env') :
    (Config.tryFromEnv cr).run env = (Config.tryFromEnv cr).run env' := by
  have hheaders : env HEADERS = env' HEADERS := h.others _ (by decide) (by decide)
  have hssl : (sslFromEnv cr).run env = (sslFromEnv cr).run env' :=
    Prog.run_eq_of_asksIn (sslFromEnv_asksIn cr) fun key hkey => h.others key hkey.1 hkey.2
  unfold Config.tryFromEnv
  rw [Prog.run_bind_of_ok env (tryParse_run _ _), Prog.run_bind_of_ok env' (tryParse_run _ _),
    hheaders]
  apply aliased_run_congr hcr hgenerics.host hgenerics'.host (h.others _ (by decide) (by decide))
  · exact h.host.imp_right fun ⟨text, htext⟩ => ⟨text, text, htext, rfl⟩
  · intro host
    apply aliased_run_congr hcr hgenerics.port hgenerics'.port
      (h.others _ (by decide) (by decide)) h.port
    intro port
    rw [Prog.run_bind, Prog.run_bind, hssl]
    rfl

/-- The first variable that is set decides exactly where no generic variable is
invalid, or loading has to fail anyway. -/
theorem runs_prioritised_iff (hcr : cr.DocumentedEnv) :
    (∀ c, (Config.tryFromEnv cr).run env = .ok c ↔ Config.Prioritised cr env c) ↔
      (FirstSetLoads cr env → GenericsAccepted env) := by
  simp only [tryFromEnv_eq_ok_iff_prioritised hcr, ← exists_prioritised_iff]
  constructor
  · intro h ⟨c, hc⟩
    exact ((h c).mpr hc).1
  · intro h c
    exact ⟨And.right, fun hc => ⟨h ⟨c, hc⟩, hc⟩⟩

/-- A generic variable that is overridden makes a difference exactly where it is
valid in one environment only. -/
theorem agree_iff_of_differBehind (hcr : cr.DocumentedEnv) (h : DifferBehind env env') :
    Agree ((Config.tryFromEnv cr).run env) ((Config.tryFromEnv cr).run env') ↔
      (FirstSetLoads cr env → (GenericsAccepted env ↔ GenericsAccepted env')) := by
  have hsame : ∀ c, Config.Prioritised cr env c ↔ Config.Prioritised cr env' c :=
    fun c => ⟨h.prioritised, h.symm.prioritised⟩
  rw [agree_iff]
  simp only [tryFromEnv_eq_ok_iff_prioritised hcr, ← exists_prioritised_iff, ← hsame]
  constructor
  · intro hagree ⟨c, hc⟩
    exact ⟨fun hgenerics => ((hagree c).mp ⟨hgenerics, hc⟩).1,
      fun hgenerics => ((hagree c).mpr ⟨hgenerics, hc⟩).1⟩
  · intro hiff c
    exact and_congr_left fun hc => hiff ⟨c, hc⟩

/-- In one environment the first variable that is set decides, and between two
environments an overridden one makes no difference, exactly under these
conditions. Where the generic variables are valid in both, the results are the
same to the error. -/
theorem tryFromEnv_prioritised_iff (hcr : cr.DocumentedEnv) :
    (∀ env, (∀ c, (Config.tryFromEnv cr).run env = .ok c ↔ Config.Prioritised cr env c) ↔
      (FirstSetLoads cr env → GenericsAccepted env)) ∧
    ∀ env env', DifferBehind env env' →
      (Agree ((Config.tryFromEnv cr).run env) ((Config.tryFromEnv cr).run env') ↔
        (FirstSetLoads cr env → (GenericsAccepted env ↔ GenericsAccepted env'))) ∧
      (GenericsAccepted env → GenericsAccepted env' →
        (Config.tryFromEnv cr).run env = (Config.tryFromEnv cr).run env') := by
  refine ⟨fun env => runs_prioritised_iff hcr, fun env env' h => ⟨?_, ?_⟩⟩
  · exact agree_iff_of_differBehind hcr h
  · exact tryFromEnv_run_eq hcr h

/-- A port that the program's own variable overrides makes no difference. -/
theorem tryFromEnv_prioritised_port :
    let env := Environment.of [("HAZEL_SERVER_PORT", .ok "9000"), ("PORT", .ok "80")]
    let env' := Environment.of [("HAZEL_SERVER_PORT", .ok "9000")]
    (∀ c, (Config.tryFromEnv .reference).run env = .ok c ↔
        Config.Prioritised .reference env c) ∧
      (Config.tryFromEnv .reference).run env = (Config.tryFromEnv .reference).run env' := by
  intro env env'
  obtain ⟨halone, hpair⟩ := tryFromEnv_prioritised_iff Crates.reference_documentedEnv
  have hgenerics : GenericsAccepted env := ⟨.inl rfl, .inr ⟨"80", rfl, 80, rfl⟩⟩
  have hgenerics' : GenericsAccepted env' := ⟨.inl rfl, .inl rfl⟩
  have hbehind : DifferBehind env env' := by
    refine ⟨fun key _ hport => ?_, .inl rfl, .inr ⟨"9000", 9000, rfl, rfl⟩⟩
    have hkey : (key == "PORT") = false := beq_eq_false_iff_ne.mpr hport
    simp [env, env', Environment.of, List.lookup_cons, hkey]
  exact ⟨(halone env).mpr fun _ => hgenerics,
    (hpair env env' hbehind).2 hgenerics hgenerics'⟩

/-- A generic variable that is set for something else keeps the server from loading,
although the program's own variable gives the port. -/
theorem tryFromEnv_rejects_overridden_port :
    let own : String × Except VarError String := ("HAZEL_SERVER_PORT", .ok "9000")
    let env := Environment.of [own, ("PORT", .ok "80/tcp")]
    Config.Prioritised .reference env { Config.default with port := 9000 } ∧
      (∃ e, (Config.tryFromEnv .reference).run env = .error e) ∧
      (Config.tryFromEnv .reference).run (Environment.of [own]) =
        .ok { Config.default with port := 9000 } := by
  exact ⟨⟨rfl, rfl, rfl, rfl, nofun⟩, ⟨_, rfl⟩, rfl⟩

end Server

end Hazel
