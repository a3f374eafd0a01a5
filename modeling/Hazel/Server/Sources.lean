import Hazel.Config.Aliases
import Hazel.Server.Start

/-!
# Where the address comes from

A host, a port and whether there is TLS can each be given by the document of the
configuration file, by variables of two names, and for each variable by the process
or by the `.env` file. A process that listens does so where these sources say, each
in its turn. Once a document is found, the variables have no say in the address,
unless its port is 0.
-/

namespace Hazel.Start

open Net Http

/-- The text of a variable: that of the process, or else that of the `.env` file. -/
def Machine.text (m : Machine) (name : String) : Option String :=
  (m.env name).toOption.or (m.dotenv.lookup name)

/-- The first of two variables that has a text gives the value, and the default
where neither has. -/
def Machine.Gives {V : Type} (m : Machine) (keys : String × String)
    (parse : String → Except String V) (default v : V) : Prop :=
  match (m.text keys.1).or (m.text keys.2) with
  | some text => parse text = .ok v
  | none => v = default

def Machine.EnablesTls (m : Machine) : Prop :=
  ∃ text, m.text Server.Ssl.ENABLED = some text ∧ m.cr.truthyRegexIsMatch text = true

/-- Where a host, a port and the decision on TLS come from. -/
inductive Sourced (m : Machine) (host : String) (port : UInt16) (tls : Bool) : Prop where
  | variables (hfile : Config.findDefaultLocation m.sys = none)
    (hhost : m.Gives Server.HOST textFromEnvValue Server.defaultHost host)
    (hport : m.Gives Server.PORT u16FromStr Server.defaultPort port)
    (htls : tls = true ↔ m.EnablesTls) : Sourced m host port tls
  | document {document : List (String × Toml)} {given : UInt16}
    (hfile : m.sys.HasFile m.cr document)
    (hhost : FieldHolds (Setting.given document .host) deserializeString
      (some Server.defaultHost) host)
    (hgiven : FieldHolds (Setting.given document .port) deserializeU16
      (some Server.defaultPort) given)
    (hport : given ≠ 0 → port = given)
    (hzero : given = 0 → m.Gives Server.PORT u16FromStr Server.defaultPort port)
    (htls : tls = true ↔ Setting.given document .ssl ≠ none ∨ m.EnablesTls) :
    Sourced m host port tls

variable {m : Machine}

theorem text_of_loaded_ok {name text : String} (h : m.loaded name = .ok text) :
    m.text name = some text := by
  unfold Machine.loaded at h
  unfold Machine.text
  cases henv : m.env name with
  | ok value =>
    rw [henv] at h
    cases h
    rfl
  | error e =>
    cases hdotenv : m.dotenv.lookup name with
    | none => simp [henv, hdotenv] at h
    | some value =>
      simp only [henv, hdotenv, Except.ok.injEq] at h
      rw [h]
      rfl

theorem text_of_loaded_error {name : String} {e : VarError} (h : m.loaded name = .error e) :
    m.text name = none := by
  unfold Machine.loaded at h
  unfold Machine.text
  cases henv : m.env name with
  | ok value => simp [henv] at h
  | error e' =>
    cases hdotenv : m.dotenv.lookup name with
    | none => rfl
    | some value => simp [henv, hdotenv] at h

/-- What is read with the generic variable as the default of the other one. -/
theorem gives_of_settled {V : Type} {keys : String × String} {parse : String → Except String V}
    {default generic v : V}
    (hgeneric : settled parse (some default) (m.loaded keys.2) = some generic)
    (hown : settled parse (some generic) (m.loaded keys.1) = some v) :
    m.Gives keys parse default v := by
  unfold Machine.Gives
  rcases settled_eq_some.mp hown with ⟨text, htext, hparse⟩ | ⟨hunset, hv⟩
  · rw [text_of_loaded_ok htext]
    exact hparse
  · rw [text_of_loaded_error hunset, Option.none_or]
    cases hv
    rcases settled_eq_some.mp hgeneric with ⟨text, htext, hparse⟩ | ⟨hunset, hv⟩
    · rw [text_of_loaded_ok htext]
      exact hparse
    · rw [text_of_loaded_error hunset]
      exact (Option.some.inj hv).symm

theorem enablesTls_of_settles {ssl : Option Server.Ssl.Config}
    (h : Server.SslSettles m.cr m.loaded ssl) : ssl.isSome = true ↔ m.EnablesTls := by
  unfold Machine.EnablesTls
  rcases settled_eq_some.mp h.1 with ⟨text, htext, hmatch⟩ | ⟨hunset, hfalse⟩
  · rw [text_of_loaded_ok htext, ← Except.ok.inj hmatch]
    simp
  · rw [text_of_loaded_error hunset, ← Option.some.inj hfalse]
    simp

theorem readToString_eq_ok {entry : Entry} {text : String} :
    entry.readToString = .ok text ↔ entry = .file (.ok text) := by
  cases entry <;> simp [Entry.readToString]

/-- An optional field holds something exactly when it is given. -/
theorem isSome_of_holds {α : Type} {value : Option Toml} {deserialize : Toml → Except DeError α}
    {a : Option α} (h : OptionalFieldHolds value deserialize a) :
    a.isSome = true ↔ value ≠ none := by
  by_cases hvalue : value = none
  · rw [h.of_absent hvalue, hvalue]
    simp
  · obtain ⟨b, hb⟩ := h.exists_of_given hvalue
    rw [hb]
    simp [hvalue]

variable (hcr : m.cr.DocumentedEnv) (hstring : m.cr.ReplacesString) (hu16 : m.cr.ReplacesU16)
  (hzero : m.cr.IgnoresZero) (hnone : m.cr.FillsNone)
include hcr hstring hu16 hzero hnone

theorem sourced_of_new {c : Config} (h : (Config.new m.cr m.sys).result = .ok c) :
    Sourced m c.server.host c.server.port c.server.ssl.isSome := by
  rw [new_eq] at h
  cases hfile : Config.findDefaultLocation m.sys with
  | none =>
    simp only [hfile] at h
    have hserver := ((Config.tryFromEnv_eq_ok hcr).mp h).server
    obtain ⟨_, hgenericHost, hhost⟩ := hserver.host
    obtain ⟨_, hgenericPort, hport⟩ := hserver.port
    exact .variables hfile (gives_of_settled hgenericHost hhost)
      (gives_of_settled hgenericPort hport) (enablesTls_of_settles hserver.ssl)
  | some location =>
    simp only [hfile, Config.withFile, Config.fromToml, except_bind_eq_ok, mapError_eq_ok,
      pure, Except.pure, Except.ok.injEq] at h
    obtain ⟨e, he, text, htext, f, ⟨document, hdocument, hf⟩, rfl⟩ := h
    have hgives := (Config.deserialize_eq_ok.mp hf).2
    have hserver := ((Config.tryFromEnv_eq_ok hcr).mp he).server
    obtain ⟨_, hgenericPort, hport⟩ := hserver.port
    have hhost : (e.merge m.cr f).server.host = f.server.host := hstring _ _
    have hmerge : (e.merge m.cr f).server.port =
        if f.server.port = 0 then e.server.port else f.server.port :=
      Server.merge_port hu16 hzero e.server f.server
    have hssl : (e.merge m.cr f).server.ssl = e.server.ssl.or f.server.ssl := hnone _ _ _
    rw [hhost, hmerge, hssl, Option.isSome_or]
    apply Sourced.document ⟨location, text, hfile, readToString_eq_ok.mp htext, hdocument⟩
      hgives.host hgives.port
    · intro hne
      exact if_neg hne
    -- the document's 0 leaves the port that the variables give
    · intro heq
      rw [if_pos heq]
      exact gives_of_settled hgenericPort hport
    · rw [Bool.or_eq_true, enablesTls_of_settles hserver.ssl, isSome_of_holds hgives.ssl, or_comm]

/-- Wherever a process listens, that is what the sources name. -/
theorem main_listens_sourced {addr : SocketAddr} {tls : Bool} {service : Router}
    (h : .listens addr tls service ∈ (main m).events) :
    ∃ host port, Sourced m host port tls ∧ SocketHost host port addr := by
  obtain ⟨c, hready, htls, -⟩ := (listens_main_iff hcr).mp h
  rw [htls]
  exact ⟨_, _, sourced_of_new hcr hstring hu16 hzero hnone hready.config, hready.host⟩

omit hcr hstring hu16 hzero hnone

/-- The machine of `quietMachine` with a configuration file whose port is 0. -/
def filedMachine : Machine :=
  let text := "[server]\nport = 0\n"
  { quietMachine with
    cr := Crates.parsing text [("server", .table [("port", .integer 0)])]
    fs := fun path => if path = "./config.toml" then .file (.ok text) else .missing }

theorem filedMachine_ready : Ready filedMachine quietConfig (.v4 ⟨0, 0, 0, 0⟩ 80) where
  threads := ⟨4, rfl, rfl⟩
  config := rfl
  colorEyre := rfl
  azure := fun _ _ => rfl
  s3 := fun _ _ => rfl
  storage := rfl
  host := quietMachine_ready.host
  pem := fun _ _ => rfl
  bind := rfl

/-- The port is that of the `.env` file. -/
theorem main_listens_sourced_filed :
    ∃ host port, Sourced filedMachine host port false ∧
      SocketHost host port (.v4 ⟨0, 0, 0, 0⟩ 80) :=
  main_listens_sourced (Crates.parsing_documentedEnv _ _) (fun _ _ => rfl)
    Crates.reference_replacesU16 (fun _ => rfl) (fun _ _ _ => rfl)
    ((listens_main_iff (Crates.parsing_documentedEnv _ _)).mpr
      ⟨quietConfig, filedMachine_ready, rfl, rfl⟩)

end Hazel.Start
