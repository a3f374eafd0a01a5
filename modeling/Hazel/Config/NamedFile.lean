import Hazel.Config.Overlay

/-!
# What becomes of a named configuration file

`Config::new` takes the first of the two default locations that exists, and the
file that `HAZEL_CONFIG_FILE` names only where neither does and it is there to
read. Otherwise it falls back to the environment. The warning for a named file
that is missing is never printed: the search has passed over such a file before
`Config::new` looks for it.
-/

namespace Hazel

variable {cr : Crates} {sys : System}

/-- The file at `path` as the layer over the environment. -/
def Config.withFile (cr : Crates) (sys : System) (path : String) : Except Report Config := do
  let config ← (Config.tryFromEnv cr).run sys.env
  let text ← (sys.fs path).readToString.mapError .io
  let file ← Config.fromToml cr text
  pure (config.merge cr file)

/-- The file that is named does not go unheeded. It is named by its contents: a
file of two names is the same file. -/
inductive Honoured (cr : Crates) (sys : System) (path : String) : Prop where
  | usesFile {location : String} (hlocation : Config.findDefaultLocation sys = some location)
    (hfile : sys.fs location = sys.fs path)
    (h : (Config.new cr sys).result = Config.withFile cr sys path) : Honoured cr sys path
  | fails {e : Report} (h : (Config.new cr sys).result = .error e) : Honoured cr sys path
  | warns (hstderr : (Config.new cr sys).stderr = [missingFileWarning path])
    (h : (Config.new cr sys).result = (Config.tryFromEnv cr).run sys.env) : Honoured cr sys path

/-- The default location that the program looks into. -/
def defaultFile (fs : String → Entry) : Option String :=
  ["./config/hazel.toml", "./config.toml"].find? fun location => (fs location).exists

/-- A file that can be read, that is TOML, and whose document loads. -/
def FileLoads (cr : Crates) (entry : Entry) : Prop :=
  ∃ text document, entry.readToString = .ok text ∧ cr.parseToml text = .ok document ∧
    DocumentLoads cr document

theorem Entry.tryExists_of_exists {entry : Entry} (h : entry.exists) :
    entry.tryExists = .ok true := by
  cases entry with
  | missing => cases h
  | directory => rfl
  | file => rfl
  | unreachable => cases h

theorem exists_of_findDefaultLocation {location : String}
    (h : Config.findDefaultLocation sys = some location) : (sys.fs location).exists := by
  unfold Config.findDefaultLocation at h
  split at h
  · cases h
    assumption
  · split at h
    · cases h
      assumption
    · -- neither default location exists
      rcases hvar : sys.env "HAZEL_CONFIG_FILE" with e | path
      · rw [hvar] at h
        cases h
      · rw [hvar, Option.ite_none_right_eq_some] at h
        obtain ⟨hboth, heq⟩ := h
        rw [← Option.some.inj heq]
        exact (Bool.and_eq_true_iff.mp hboth).1

/-- Whatever the search finds is there, so there is never anything to warn of. -/
theorem new_eq (cr : Crates) (sys : System) :
    Config.new cr sys = ⟨[], match Config.findDefaultLocation sys with
      | none => (Config.tryFromEnv cr).run sys.env
      | some location => Config.withFile cr sys location⟩ := by
  unfold Config.new
  cases hlocation : Config.findDefaultLocation sys with
  | none => rfl
  | some location =>
    have hexists := exists_of_findDefaultLocation hlocation
    simp only [Entry.tryExists_of_exists hexists]
    rfl

theorem new_stderr (cr : Crates) (sys : System) : (Config.new cr sys).stderr = [] := by
  rw [new_eq]

/-- The search with a named file. -/
theorem findDefaultLocation_of_named {path : String}
    (hpath : sys.env "HAZEL_CONFIG_FILE" = .ok path) :
    Config.findDefaultLocation sys =
      (defaultFile sys.fs).or (if (sys.fs path).isFile then some path else none) := by
  have hfile : ((sys.fs path).exists && (sys.fs path).isFile) = (sys.fs path).isFile := by
    cases sys.fs path <;> rfl
  unfold Config.findDefaultLocation defaultFile
  rw [hpath]
  simp only [hfile, List.find?_cons, List.find?_nil]
  cases (sys.fs "./config/hazel.toml").exists <;> cases (sys.fs "./config.toml").exists <;> rfl

theorem exists_withFile_eq_ok_iff (hcr : cr.DocumentedEnv) (location : String) :
    (∃ c, Config.withFile cr sys location = .ok c) ↔
      Loads cr sys.env ∧ FileLoads cr (sys.fs location) := by
  simp only [Config.withFile, except_bind_eq_ok, mapError_eq_ok, pure, Except.pure,
    Except.ok.injEq, ← exists_tryFromEnv_eq_ok_iff hcr]
  constructor
  · rintro ⟨_, config, hconfig, text, htext, file, hfile, rfl⟩
    refine ⟨⟨config, hconfig⟩, text, ?_⟩
    simp only [Config.fromToml, except_bind_eq_ok, mapError_eq_ok] at hfile
    obtain ⟨document, hdocument, hfile⟩ := hfile
    exact ⟨document, htext, hdocument, exists_deserialize_eq_ok_iff.mp ⟨file, hfile⟩⟩
  · rintro ⟨⟨config, hconfig⟩, text, document, htext, hdocument, hloads⟩
    obtain ⟨file, hfile⟩ := exists_deserialize_eq_ok_iff.mpr hloads
    exact ⟨_, config, hconfig, text, htext, file, (fromToml_eq_ok hdocument).mpr hfile, rfl⟩

theorem withFile_congr {location path : String} (h : sys.fs location = sys.fs path) :
    Config.withFile cr sys location = Config.withFile cr sys path := by
  unfold Config.withFile
  rw [h]

/-- With nothing to warn of, what is loaded has to come from the file. -/
theorem honoured_iff {path : String} :
    Honoured cr sys path ↔ ∀ c, (Config.new cr sys).result = .ok c →
      ∃ location, Config.findDefaultLocation sys = some location ∧
        sys.fs location = sys.fs path := by
  constructor
  · intro h c hc
    cases h with
    | usesFile hlocation hfile => exact ⟨_, hlocation, hfile⟩
    | fails h =>
      rw [h] at hc
      cases hc
    | warns hstderr =>
      rw [new_stderr] at hstderr
      cases hstderr
  · intro h
    cases hresult : (Config.new cr sys).result with
    | error e => exact .fails hresult
    | ok c =>
      obtain ⟨location, hlocation, hfile⟩ := h c hresult
      apply Honoured.usesFile hlocation hfile
      simp only [new_eq, hlocation]
      exact withFile_congr hfile

/-- A named file is honoured exactly where the default location that is taken
does not load or holds the same, or where there is none and the named one is a
file. In every other environment that loads, the program starts without the
named file and says nothing. -/
theorem new_honours_iff (hcr : cr.DocumentedEnv) {path : String}
    (hpath : sys.env "HAZEL_CONFIG_FILE" = .ok path) :
    Honoured cr sys path ↔
      (Loads cr sys.env →
        match defaultFile sys.fs with
        | some location => FileLoads cr (sys.fs location) → sys.fs location = sys.fs path
        | none => (sys.fs path).isFile) := by
  have hsearch := findDefaultLocation_of_named hpath
  rw [honoured_iff, new_eq]
  cases hdefault : defaultFile sys.fs with
  | some location =>
    rw [hdefault, Option.some_or] at hsearch
    simp only [hsearch, Option.some.injEq, exists_eq_left']
    have hloads : (∃ c, Config.withFile cr sys location = .ok c) ↔
        Loads cr sys.env ∧ FileLoads cr (sys.fs location) :=
      exists_withFile_eq_ok_iff hcr location
    rw [← and_imp, ← hloads, forall_exists_index]
  | none =>
    rw [hdefault, Option.none_or] at hsearch
    by_cases hfile : (sys.fs path).isFile
    · rw [if_pos hfile] at hsearch
      exact iff_of_true (fun _ _ => ⟨path, hsearch, rfl⟩) fun _ => hfile
    · rw [if_neg hfile] at hsearch
      simp only [hsearch, reduceCtorEq, false_and, exists_false, imp_false, hfile,
        ← exists_tryFromEnv_eq_ok_iff hcr, not_exists]

/-- A process in which the variable names `path`, and where files are as `fs`
has them. -/
def System.named (path : String) (fs : String → Entry) : System :=
  ⟨Environment.of [("HAZEL_CONFIG_FILE", .ok path)], fs⟩

theorem new_honours_present_file :
    let fs := fun path => if path = "/etc/hazel.toml" then Entry.file (.ok "") else .missing
    Honoured .reference (System.named "/etc/hazel.toml" fs) "/etc/hazel.toml" := by
  intro fs
  apply (new_honours_iff Crates.reference_documentedEnv rfl).mpr
  exact fun _ => rfl

/-- The named file is missing, and so are the default ones. The program starts on
its defaults without a word. -/
theorem new_drops_missing_file :
    let sys := System.named "/etc/hazel.toml" fun _ => .missing
    (Config.new .reference sys).result = .ok Config.builtIn ∧
      (Config.new .reference sys).stderr = [] ∧ ¬ Honoured .reference sys "/etc/hazel.toml" := by
  intro sys
  refine ⟨rfl, rfl, fun h => ?_⟩
  cases h with
  | usesFile hlocation => cases hlocation
  | fails h => cases h
  | warns hstderr => cases hstderr

end Hazel
