import Hazel.Installer.Install

/-!
# The arguments of the installer

The language that the `while` over the arguments reads: flags, each with its value,
and after them something that ends the loop or the script. Every list of arguments
is of that form in one way.
-/

namespace Hazel.Installer

inductive Flag where
  | version (short : Bool) (value : String)
  | installDir (value : String)
  | noPathOverwrite
  deriving DecidableEq, Repr

namespace Flag

def words : Flag → List String
  | version short value => [if short then "-v" else "--version", value]
  | installDir value => ["--install-dir", value]
  | noPathOverwrite => ["--no-path-overwrite"]

def version? : Flag → Option String
  | version _ value => some value
  | _ => none

def installDir? : Flag → Option String
  | installDir value => some value
  | _ => none

/-- What flags ask for: the last value of each counts, and no flag allows again
what one has forbidden. -/
def asked (o : Options) (flags : List Flag) : Options where
  version := (flags.filterMap version?).getLastD o.version
  installdir := (flags.filterMap installDir?).getLastD o.installdir
  allowpathoverwrite := if noPathOverwrite ∈ flags then false else o.allowpathoverwrite

end Flag

/-- A flag is heeded where the rest of the flags does not say otherwise. -/
theorem Flag.asked_cons (o : Options) (flag : Flag) (flags : List Flag) :
    asked o (flag :: flags) = asked (asked o [flag]) flags := by
  cases flag with
  | version short value =>
    simp only [asked, version?, installDir?, List.filterMap_cons, List.filterMap_nil,
      List.getLastD_cons, List.getLastD_nil, List.mem_cons, List.not_mem_nil, reduceCtorEq,
      false_or, if_false]
  | installDir value =>
    simp only [asked, version?, installDir?, List.filterMap_cons, List.filterMap_nil,
      List.getLastD_cons, List.getLastD_nil, List.mem_cons, List.not_mem_nil, reduceCtorEq,
      false_or, if_false]
  | noPathOverwrite => simp [asked, version?, installDir?]

/-- What stands after the flags, and the error that it is, if it is one. -/
inductive Closes : List String → Option String → Prop where
  | nothing : Closes [] none
  | dashes (rest : List String) : Closes ("--" :: rest) none
  | operand {word : String} (h : word.toList.head? ≠ some '-') (rest : List String) :
      Closes (word :: rest) none
  | noVersion {word : String} (h : word ∈ ["--version", "-v"]) :
      Closes [word] (some "`--version` flag requires a value (i.e., --version 2.0.0)")
  | noInstallDir : Closes ["--install-dir"]
      (some "`--install-dir` flag requires a value (i.e., --install-dir /usr/local)")
  | unknown {word : String} (h : word.toList.head? = some '-')
      (hword : word ∉ ["--version", "-v", "--install-dir", "--no-path-overwrite", "--"])
      (rest : List String) : Closes (word :: rest) (some ("unknown option: " ++ word))

/-- The arguments are these flags, closed by `rest`. -/
structure Reading (args : List String) (flags : List Flag) (rest : List String)
    (error : Option String) : Prop where
  args : args = flags.flatMap Flag.words ++ rest
  closes : Closes rest error

section Unique

theorem closes_cons {word : String} {rest : List String} {error : Option String} :
    Closes (word :: rest) error ↔
      (word = "--" ∧ error = none) ∨ (word.toList.head? ≠ some '-' ∧ error = none) ∨
      (word ∈ ["--version", "-v"] ∧ rest = [] ∧
        error = some "`--version` flag requires a value (i.e., --version 2.0.0)") ∨
      (word = "--install-dir" ∧ rest = [] ∧
        error = some "`--install-dir` flag requires a value (i.e., --install-dir /usr/local)") ∨
      (word.toList.head? = some '-' ∧
        word ∉ ["--version", "-v", "--install-dir", "--no-path-overwrite", "--"] ∧
        error = some ("unknown option: " ++ word)) := by
  constructor
  · intro h
    cases h <;> simp_all
  · rintro (⟨rfl, rfl⟩ | ⟨h, rfl⟩ | ⟨h, rfl, rfl⟩ | ⟨rfl, rfl, rfl⟩ | ⟨h, hword, rfl⟩)
    · exact .dashes rest
    · exact .operand h rest
    · exact .noVersion h
    · exact .noInstallDir
    · exact .unknown h hword rest

theorem Closes.error_unique {rest : List String} {error error' : Option String}
    (h : Closes rest error) (h' : Closes rest error') : error = error' := by
  cases rest with
  | nil =>
    cases h
    cases h'
    rfl
  | cons word rest =>
    -- the words that the source names start with a dash
    have hdash : ∀ named ∈ ["--version", "-v", "--install-dir", "--"],
        named.toList.head? = some '-' := by decide
    have hnamed : word ∈ ["--version", "-v", "--install-dir", "--"] →
        word.toList.head? = some '-' := hdash word
    rw [closes_cons] at h h'
    grind

/-- No flag closes the flags. -/
theorem Flag.not_closes (flag : Flag) (rest : List String) (error : Option String) :
    ¬ Closes (flag.words ++ rest) error := by
  rcases flag with (_ | _) | _ | _ <;> simp [words, closes_cons]

/-- The first word of a flag tells which one it is. -/
theorem Flag.words_inj {flag flag' : Flag} {rest rest' : List String}
    (h : flag.words ++ rest = flag'.words ++ rest') : flag = flag' ∧ rest = rest' := by
  rcases flag with (_ | _) | _ | _ <;> rcases flag' with (_ | _) | _ | _ <;>
    simp_all [words]

/-- The arguments can be read in one way. -/
theorem Reading.unique {args rest rest' : List String} {flags flags' : List Flag}
    {error error' : Option String} (h : Reading args flags rest error)
    (h' : Reading args flags' rest' error') : flags = flags' ∧ rest = rest' := by
  have heq : flags.flatMap Flag.words ++ rest = flags'.flatMap Flag.words ++ rest' :=
    h.args.symm.trans h'.args
  have hcloses := h.closes
  have hcloses' := h'.closes
  clear h h'
  induction flags generalizing flags' with
  | nil =>
    cases flags' with
    | nil => exact ⟨rfl, heq⟩
    | cons flag' flags' =>
      have hrest : rest = flag'.words ++ (flags'.flatMap Flag.words ++ rest') := by
        simpa using heq
      rw [hrest] at hcloses
      exact absurd hcloses (flag'.not_closes _ _)
  | cons flag flags ih =>
    cases flags' with
    | nil =>
      have hrest : rest' = flag.words ++ (flags.flatMap Flag.words ++ rest) := by
        simpa using heq.symm
      rw [hrest] at hcloses'
      exact absurd hcloses' (flag.not_closes _ _)
    | cons flag' flags' =>
      simp only [List.flatMap_cons, List.append_assoc] at heq
      obtain ⟨hflag, hrest⟩ := Flag.words_inj heq
      obtain ⟨hflags, hends⟩ := ih hrest
      exact ⟨by rw [hflag, hflags], hends⟩

end Unique

section Parsing

/-- What a reading of the arguments says that the options are. -/
def outcome (o : Options) (flags : List Flag) : Option String → Except String Options
  | none => .ok (Flag.asked o flags)
  | some error => .error error

theorem Reading.closed {rest : List String} {error : Option String} (h : Closes rest error) :
    Reading rest [] rest error :=
  ⟨rfl, h⟩

theorem Reading.flag {args rest : List String} {flags : List Flag} {error : Option String}
    (h : Reading args flags rest error) (flag : Flag) :
    Reading (flag.words ++ args) (flag :: flags) rest error where
  args := by rw [h.args, List.flatMap_cons, List.append_assoc]
  closes := h.closes

theorem outcome_cons (o : Options) (flag : Flag) (flags : List Flag) (error : Option String) :
    outcome (Flag.asked o [flag]) flags error = outcome o (flag :: flags) error := by
  cases error with
  | none => exact congrArg Except.ok (Flag.asked_cons o flag flags).symm
  | some text => rfl

/-- One case for each way that the loop over the arguments goes on or ends. -/
theorem exists_reading (o : Options) (args : List String) :
    ∃ flags rest error, Reading args flags rest error ∧
      parseOptions o args = outcome o flags error := by
  fun_induction parseOptions o args with
  | case1 o => exact ⟨[], [], none, .closed .nothing, rfl⟩
  | case2 o word hword value args ih =>
    obtain ⟨flags, rest, error, hreading, hparse⟩ := ih
    have hwords : ∃ short, word :: value :: args = (Flag.version short value).words ++ args := by
      rcases hword with rfl | rfl
      · exact ⟨false, rfl⟩
      · exact ⟨true, rfl⟩
    obtain ⟨short, hwords⟩ := hwords
    exact ⟨_, rest, error, hwords ▸ hreading.flag (.version short value),
      hparse.trans (outcome_cons o (.version short value) flags error)⟩
  | case3 o word hword =>
    exact ⟨[], _, _, .closed (.noVersion (by simpa using hword)), rfl⟩
  | case4 o value args _ ih =>
    obtain ⟨flags, rest, error, hreading, hparse⟩ := ih
    exact ⟨_, rest, error, hreading.flag (.installDir value),
      hparse.trans (outcome_cons o (.installDir value) flags error)⟩
  | case5 o => exact ⟨[], _, _, .closed .noInstallDir, rfl⟩
  | case6 o args _ _ ih =>
    obtain ⟨flags, rest, error, hreading, hparse⟩ := ih
    exact ⟨_, rest, error, hreading.flag .noPathOverwrite,
      hparse.trans (outcome_cons o .noPathOverwrite flags error)⟩
  | case7 o rest => exact ⟨[], _, none, .closed (.dashes rest), rfl⟩
  | case8 o word rest hversion hdir hoverwrite hdashes hdash =>
    have hword : word ∉ ["--version", "-v", "--install-dir", "--no-path-overwrite", "--"] := by
      simp_all
    exact ⟨[], _, _, .closed (.unknown hdash hword rest), rfl⟩
  | case9 o word rest _ _ _ _ hdash => exact ⟨[], _, none, .closed (.operand hdash rest), rfl⟩

/-- Every list of arguments has one reading, and the loop does what it says: it takes
the last value of each flag, and ends well or with the error of what comes after the
flags. -/
theorem parseOptions_reads (o : Options) (args : List String) :
    ∃ flags rest error, Reading args flags rest error ∧
      parseOptions o args = outcome o flags error ∧
      ∀ flags' rest' error', Reading args flags' rest' error' →
        flags' = flags ∧ rest' = rest ∧ error' = error := by
  obtain ⟨flags, rest, error, hreading, hparse⟩ := exists_reading o args
  refine ⟨flags, rest, error, hreading, hparse, ?_⟩
  intro flags' rest' error' hreading'
  obtain ⟨hflags, hrest⟩ := hreading'.unique hreading
  subst hrest
  exact ⟨hflags, rfl, hreading'.closes.error_unique hreading.closes⟩

/-- Values that look like flags are values. -/
example : parseOptions Options.default ["-v", "--", "--install-dir", "-v", "-v", "1", "x"] =
    .ok ⟨"1", "-v", true⟩ := by decide

end Parsing

end Hazel.Installer
