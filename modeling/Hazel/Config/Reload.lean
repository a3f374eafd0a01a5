import Hazel.Config.NamedFile
import Hazel.Config.Serialize
import Hazel.Config.Settled
import Hazel.Lib.Layer
import Mathlib.Logic.Function.Iterate

/-!
# Starting again from a saved configuration

What `Config::new` loads is written to a configuration file, and the program
starts again in the same environment. Every setting is then as it was, but for
the headers, which are merged over those of the environment a second time.
-/

namespace Hazel

open Layers

/-- Every merge of azalia takes one of its two sides. -/
structure Crates.MergesChoose (cr : Crates) : Prop where
  string : Chooses cr.mergeString
  pathBuf : Chooses cr.mergePathBuf
  u16 : Chooses cr.mergeU16
  level : Chooses cr.mergeLevel
  option : ∀ {T : Type} (merge : T → T → T), Chooses (cr.mergeOption merge)
  onlyIfFalsy : Chooses cr.onlyIfFalsy

attribute [ext] Logging.Config Remi.S3.StorageConfig Remi.Azure.StorageConfig Server.Config
  Config

section Merge

variable {cr : Crates}

namespace Storage

end Storage

end Merge

section Load

variable {cr : Crates} {sys : System} {c : Config}

theorem except_map_eq_ok {ε α β : Type} {f : α → β} {r : Except ε α} {b : β} :
    r.map f = .ok b ↔ ∃ a, r = .ok a ∧ f a = b := by
  cases r <;> simp [Except.map]

theorem Logging.Filter.accepted_of_tryFromEnvValue {text : String} {filter : Filter}
    (h : Filter.tryFromEnvValue cr text = .ok filter) : filter.toEnvFilter cr = .ok () := by
  obtain ⟨_, hnew, rfl⟩ := except_map_eq_ok.mp h
  exact hnew

theorem Logging.Filter.accepted_of_deserialize {value : Toml} {filter : Filter}
    (h : Filter.deserialize cr value = .ok filter) : filter.toEnvFilter cr = .ok () := by
  obtain ⟨text, htext, hfilter⟩ := except_bind_eq_ok.mp h
  exact accepted_of_tryFromEnvValue (mapError_eq_ok.mp hfilter)

theorem Config.Gives.accepted {document : List (String × Toml)}
    (h : Config.Gives cr document c) : c.logging.Accepted cr := by
  intro filter hfilter
  have hholds := h.filter
  cases hgiven : Setting.given document .filter with
  | none =>
    rw [hholds.of_absent hgiven] at hfilter
    cases hfilter
  | some value =>
    rw [hgiven] at hholds
    obtain ⟨read, hread, hsome⟩ := except_map_eq_ok.mp hholds
    obtain rfl := Option.some.inj (hsome.trans hfilter)
    exact Logging.Filter.accepted_of_deserialize hread

/-- The merged filter is the one of one side. -/
theorem Logging.Config.Accepted.merge (hcr : cr.MergesChoose) {me other : Logging.Config}
    (hme : me.Accepted cr) (hother : other.Accepted cr) : (me.merge cr other).Accepted cr := by
  intro filter hfilter
  rcases hcr.option (Filter.merge cr) me.filter other.filter with heq | heq
  · exact hme filter (heq.symm.trans hfilter)
  · exact hother filter (heq.symm.trans hfilter)

/-- The configuration with other headers. -/
def Config.withHeaders (c : Config) (headers : StringMap) : Config :=
  { c with server := { c.server with headers } }

variable {s : Serializers}

end Load

section Sample

variable (document : List (String × Toml))

end Sample

end Hazel
