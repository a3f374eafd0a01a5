import Hazel.Lib.Interleaving
import Hazel.Lib.Reader
import Hazel.Installer.Verified
import Hazel.Std

/-!
# `.github/workflows/Release.yaml`, and what the installer finds

Each job of the release builds the binary for one target on a runner, by the
script of `.ci` for that runner, and uploads the binary and its checksums twice:
to the directory of the version and to `latest`. The jobs run side by side and
write into one bucket, and a failure of one cancels the others. The installer
asks the bucket for the names that `hazel::binary_url` and `hazel::checksum_url`
make.
-/

namespace Hazel.Release

open Installer Interleavings

/-- `matrix.target`. -/
inductive Target where
  | x86_64UnknownLinuxGnu
  | aarch64UnknownLinuxGnu
  | x86_64AppleDarwin
  | aarch64AppleDarwin
  | x86_64PcWindowsMsvc
  deriving DecidableEq, Repr

/-- A combination of the matrix. -/
structure Job where
  target : Target
  runner : String
  deriving DecidableEq, Repr

def jobs : List Job :=
  [⟨.x86_64UnknownLinuxGnu, "ubuntu-24.04"⟩, ⟨.aarch64UnknownLinuxGnu, "ubuntu-24.04"⟩,
    ⟨.x86_64AppleDarwin, "macos-13"⟩, ⟨.aarch64AppleDarwin, "macos-latest"⟩,
    ⟨.x86_64PcWindowsMsvc, "windows-latest"⟩]

/-- `.ci/linux/release`, `.ci/macos/release` and `.ci/windows/Release.ps1`. -/
inductive Script where
  | linux
  | macos
  | windows
  deriving DecidableEq, Repr

/-- `contains` of workflow expressions, which does not heed letter case. -/
def contains (search item : String) : Bool :=
  decide ((toAsciiLowercase item).toList <:+: (toAsciiLowercase search).toList)

/-- The step that builds: `Unix Build` or `Windows Build`. -/
def Job.script (job : Job) : Script :=
  if job.runner ≠ "windows-latest" then
    if contains job.runner "apple-" then .macos else .linux
  else .windows

/-- `$arch` of the two Unix scripts, by `uname -m` of the runner. -/
def arch (unameM : String) : String :=
  if unameM = "arm64" ∨ unameM = "aarch64" then "aarch64"
  else if unameM = "amd64" ∨ unameM = "x86_64" then "x86_64"
  else ""

/-- The name that a script gives the binary. -/
def Script.binaryName (unameM : String) : Script → String
  | .linux => "hazel-linux-" ++ arch unameM
  | .macos => "hazel-darwin-" ++ arch unameM
  | .windows => "hazel-windows-x86_64.exe"

/-- The machines and the tools of a release. -/
structure Builder where
  /-- `uname -m` on a runner. -/
  unameM : String → String
  /-- What `cargo build --target` makes. -/
  compile : Target → Bytes
  /-- The digest that `shasum -a 256` and `Get-FileHash` print. -/
  sha256 : Bytes → Digest

inductive Contents where
  | binary (contents : Bytes)
  | checksums (text : String)
  deriving DecidableEq

variable (b : Builder)

def Job.binaryName (job : Job) : String := job.script.binaryName (b.unameM job.runner)

def Job.binary (job : Job) : Contents := .binary (b.compile job.target)

/-- The line of the checksums, with the line break of the runner's system. -/
def Job.checksums (job : Job) : Contents :=
  .checksums ((b.sha256 (b.compile job.target)).text ++ "  " ++ job.binaryName b ++
    if job.script = .windows then "\r\n" else "\n")

/-- What the script leaves in `.result`. -/
def Job.files (job : Job) : List (String × Contents) :=
  [(job.binaryName b, job.binary b), (job.binaryName b ++ ".sha256", job.checksums b)]

/-- `path-format` below the prefix of the bucket. -/
def objectPath (directory file : String) : String := "/hazel/" ++ directory ++ "/" ++ file

def Job.upload (job : Job) (directory : String) : List (String × Contents) :=
  (job.files b).map fun file => (objectPath directory file.1, file.2)

/-- The uploads of a job, in order. -/
def program (version : String) (job : Job) : List (String × Contents) :=
  if job ∈ jobs then job.upload b version ++ job.upload b "latest" else []

/-- The objects in the bucket after a run of the release. -/
def bucket (run : List (Job × String × Contents)) : String → Option Contents :=
  written (run.map Prod.snd)

/-- Where the bucket is served. -/
def origin : String := "https://artifacts.noelware.org"

section Names

/-- No runner's label holds `apple-`, so the script for macOS never runs. -/
theorem script_eq {job : Job} (h : job ∈ jobs) :
    job.script = if job.runner = "windows-latest" then .windows else .linux := by
  have hall : ∀ job ∈ jobs, job.script =
      if job.runner = "windows-latest" then .windows else .linux := by decide
  exact hall job h

theorem arch_mem (unameM : String) : arch unameM ∈ ["aarch64", "x86_64", ""] := by
  unfold arch
  split_ifs
  · decide
  · decide
  · decide

/-- The names of the binaries that a release can upload. -/
def binaryNames : List String :=
  ["hazel-linux-aarch64", "hazel-linux-x86_64", "hazel-linux-", "hazel-windows-x86_64.exe"]

theorem binaryName_mem {job : Job} (h : job ∈ jobs) : job.binaryName b ∈ binaryNames := by
  rw [Job.binaryName, script_eq h]
  by_cases hwindows : job.runner = "windows-latest"
  · rw [if_pos hwindows]
    show "hazel-windows-x86_64.exe" ∈ binaryNames
    decide
  · rw [if_neg hwindows]
    have harch := arch_mem (b.unameM job.runner)
    simp only [List.mem_cons, List.not_mem_nil, or_false] at harch
    show "hazel-linux-" ++ arch (b.unameM job.runner) ∈ binaryNames
    rcases harch with harch | harch | harch
    all_goals
      rw [harch]
      decide

/-- A path is split at its last slash in one way. -/
theorem objectPath_inj {directory directory' file file' : String} (hfile : '/' ∉ file.toList)
    (hfile' : '/' ∉ file'.toList) (h : objectPath directory file = objectPath directory' file') :
    directory = directory' ∧ file = file' := by
  have hchars : directory.toList ++ '/' :: file.toList =
      directory'.toList ++ '/' :: file'.toList := by
    simpa [objectPath] using congrArg String.toList h
  obtain ⟨hbefore, hafter⟩ := Readers.append_cons_inj hfile hfile' hchars
  exact ⟨String.toList_injective hbefore, String.toList_injective hafter⟩

end Names

section Runs

variable {b} {version : String} {run : List (Job × String × Contents)}

/-- Whatever is in the bucket is a file of some job, in one of its two
directories. -/
theorem exists_upload (hrun : Interleaves (program b version) run) {path : String}
    {contents : Contents} (h : bucket run path = some contents) :
    ∃ job ∈ jobs, ∃ directory file, path = objectPath directory file ∧
      (file, contents) ∈ job.files b := by
  obtain ⟨⟨job, upload⟩, hmem, hupload⟩ := List.mem_map.mp (mem_of_written h)
  have hprogram := hrun.mem hmem
  unfold program at hprogram
  split_ifs at hprogram with hjob
  · subst hupload
    rcases List.mem_append.mp hprogram with hupload | hupload
    all_goals
      obtain ⟨file, hfile, heq⟩ := List.mem_map.mp hupload
      obtain ⟨hpath, hcontents⟩ := Prod.mk.inj heq
      exact ⟨job, hjob, _, file.1, hpath.symm, hcontents ▸ hfile⟩
  · cases hprogram

end Runs

section Installers

variable {host : Host} {version : String}

theorem stripNewlines_append {s t : String} (hne : t ≠ "") (ht : '\n' ∉ t.toList) :
    Scripts.Script.stripNewlines (s ++ t) = s ++ t := by
  have hlast : ((s ++ t).toList.reverse).dropWhile (· = '\n') = (s ++ t).toList.reverse := by
    rw [String.toList_append, List.reverse_append]
    cases hreverse : t.toList.reverse with
    | nil => exact absurd (String.toList_injective (List.reverse_eq_nil_iff.mp hreverse)) hne
    | cons last rest =>
      have hmem : last ∈ t.toList := List.mem_reverse.mp (hreverse ▸ List.mem_cons_self)
      have hlast : last ≠ '\n' := fun heq => ht (heq ▸ hmem)
      rw [List.cons_append, List.dropWhile_cons_of_neg (by simpa using hlast)]
  rw [Scripts.Script.stripNewlines, hlast, List.reverse_reverse, String.ofList_toList]

theorem osName_mem (host : Host) : (osName host).getD "" ∈ ["darwin", "linux", ""] := by
  unfold osName
  split_ifs
  · decide
  · decide
  · decide

theorem archName_mem {name : String} (h : archName host = some name) :
    name ∈ ["x86_64", "arm64"] := by
  unfold archName at h
  split_ifs at h
  · obtain rfl := Option.some.inj h
    decide
  · obtain rfl := Option.some.inj h
    decide

/-- The name of the object that the installer asks for. -/
def askedName (host : Host) (extension : String) : String :=
  "hazel-" ++ (osName host).getD "" ++ "-" ++ (archName host).getD "" ++ extension

theorem artifactAddress_eq {name : String} (harch : archName host = some name)
    {extension : String} (hextension : extension ∈ ["", ".sha256"]) :
    artifactAddress host version extension =
      origin ++ objectPath version (askedName host extension) := by
  have hname := archName_mem harch
  have hend : name ++ extension ≠ "" ∧ '\n' ∉ (name ++ extension).toList := by
    simp only [List.mem_cons, List.not_mem_nil, or_false] at hname hextension
    rcases hname with rfl | rfl <;> rcases hextension with rfl | rfl <;> decide
  have hsplit : artifactAddress host version extension =
      Scripts.Script.stripNewlines (("https://artifacts.noelware.org/hazel/" ++ version ++
        "/hazel-" ++ (osName host).getD "" ++ "-") ++ (name ++ extension)) := by
    rw [artifactAddress, harch, Option.getD_some]
    congr 1
    apply String.toList_injective
    simp
  rw [hsplit, stripNewlines_append hend.1 hend.2]
  apply String.toList_injective
  simp [origin, objectPath, askedName, harch]

/-- Of all names that the installer can ask for, only two are names of a
release. -/
theorem askedName_eq {name : String} (harch : archName host = some name) {extension : String}
    (hextension : extension ∈ ["", ".sha256"]) {binaryName : String}
    (hbinary : binaryName ∈ binaryNames) :
    (askedName host extension = binaryName → (osName host).getD "" = "linux" ∧
      name = "x86_64" ∧ extension = "" ∧ binaryName = "hazel-linux-x86_64") ∧
    (askedName host extension = binaryName ++ ".sha256" → (osName host).getD "" = "linux" ∧
      name = "x86_64" ∧ extension = ".sha256" ∧ binaryName = "hazel-linux-x86_64") := by
  have hall : ∀ os ∈ ["darwin", "linux", ""], ∀ name ∈ ["x86_64", "arm64"],
      ∀ extension ∈ ["", ".sha256"], ∀ binaryName ∈ binaryNames,
        ("hazel-" ++ os ++ "-" ++ name ++ extension = binaryName → os = "linux" ∧
          name = "x86_64" ∧ extension = "" ∧ binaryName = "hazel-linux-x86_64") ∧
        ("hazel-" ++ os ++ "-" ++ name ++ extension = binaryName ++ ".sha256" → os = "linux" ∧
          name = "x86_64" ∧ extension = ".sha256" ∧ binaryName = "hazel-linux-x86_64") := by
    decide
  unfold askedName
  rw [harch, Option.getD_some]
  exact hall _ (osName_mem host) name (archName_mem harch) extension hextension _ hbinary

theorem slash_not_mem_askedName {name : String} (harch : archName host = some name)
    {extension : String} (hextension : extension ∈ ["", ".sha256"]) :
    '/' ∉ (askedName host extension).toList := by
  have hall : ∀ os ∈ ["darwin", "linux", ""], ∀ name ∈ ["x86_64", "arm64"],
      ∀ extension ∈ ["", ".sha256"],
        '/' ∉ ("hazel-" ++ os ++ "-" ++ name ++ extension).toList := by
    decide
  unfold askedName
  rw [harch, Option.getD_some]
  exact hall _ (osName_mem host) name (archName_mem harch) extension hextension

theorem slash_not_mem_file {job : Job} (hjob : job ∈ jobs) {file : String × Contents}
    (h : file ∈ job.files b) : '/' ∉ file.1.toList := by
  have hall : ∀ name ∈ binaryNames,
      '/' ∉ name.toList ∧ '/' ∉ (name ++ ".sha256").toList := by
    decide
  have hname := hall _ (binaryName_mem b hjob)
  simp only [Job.files, List.mem_cons, List.not_mem_nil, or_false] at h
  rcases h with rfl | rfl
  · exact hname.1
  · exact hname.2

/-- The job's script runs on a Unix machine that calls itself `x86_64`. -/
structure Job.OnX86 (b : Builder) (job : Job) : Prop where
  mem : job ∈ jobs
  unix : job.runner ≠ "windows-latest"
  arch : Release.arch (b.unameM job.runner) = "x86_64"

theorem onX86_iff {job : Job} (hjob : job ∈ jobs) :
    job.binaryName b = "hazel-linux-x86_64" ↔ job.OnX86 b := by
  rw [Job.binaryName, script_eq hjob]
  by_cases hwindows : job.runner = "windows-latest"
  · rw [if_pos hwindows]
    show "hazel-windows-x86_64.exe" = "hazel-linux-x86_64" ↔ _
    exact iff_of_false (by decide) fun h => h.unix hwindows
  · rw [if_neg hwindows]
    have hall : ∀ name ∈ ["aarch64", "x86_64", ""],
        "hazel-linux-" ++ name = "hazel-linux-x86_64" ↔ name = "x86_64" := by decide
    have harch := hall _ (arch_mem (b.unameM job.runner))
    exact ⟨fun h => ⟨hjob, hwindows, harch.mp h⟩, fun h => harch.mpr h.arch⟩

variable {b} {run : List (Job × String × Contents)}

/-- An installer finds what it asks for, of whatever version, only on Linux on
`x86_64`, and then it is what some job built where `uname -m` is `x86_64`, on macOS
too and for whichever target. -/
theorem job_of_found (hrun : Interleaves (program b version) run) {asked name : String}
    (harch : archName host = some name) {extension : String}
    (hextension : extension ∈ ["", ".sha256"]) {path : String}
    (haddress : artifactAddress host asked extension = origin ++ path) {contents : Contents}
    (hfound : bucket run path = some contents) :
    osName host = some "linux" ∧ name = "x86_64" ∧ ∃ job : Job, job.OnX86 b ∧
      contents = if extension = "" then job.binary b else job.checksums b := by
  obtain ⟨job, hjob, directory, file, hpath, hfile⟩ := exists_upload hrun hfound
  have hsame : objectPath asked (askedName host extension) = objectPath directory file := by
    apply String.toList_injective
    have heq : artifactAddress host asked extension =
        origin ++ objectPath asked (askedName host extension) :=
      artifactAddress_eq harch hextension
    rw [haddress, hpath] at heq
    simpa using (congrArg String.toList heq).symm
  obtain ⟨-, hname⟩ := objectPath_inj (slash_not_mem_askedName harch hextension)
    (slash_not_mem_file b hjob hfile) hsame
  have hlinux (h : (osName host).getD "" = "linux") : osName host = some "linux" := by
    cases hos : osName host with
    | none => rw [hos] at h; exact absurd h (by decide)
    | some os => rw [hos] at h; exact congrArg some h
  obtain ⟨hbinary, hchecksums⟩ := askedName_eq harch hextension (binaryName_mem b hjob)
  simp only [Job.files, List.mem_cons, Prod.mk.injEq, List.not_mem_nil, or_false] at hfile
  rcases hfile with ⟨rfl, rfl⟩ | ⟨rfl, rfl⟩
  · obtain ⟨hos, hx86, rfl, hjobName⟩ := hbinary hname
    exact ⟨hlinux hos, hx86, job, (onX86_iff b hjob).mp hjobName, rfl⟩
  · obtain ⟨hos, hx86, rfl, hjobName⟩ := hchecksums hname
    exact ⟨hlinux hos, hx86, job, (onX86_iff b hjob).mp hjobName, rfl⟩

theorem program_eq {job : Job} (h : job.OnX86 b) (version : String) : program b version job =
    [(objectPath version "hazel-linux-x86_64", job.binary b),
      (objectPath version "hazel-linux-x86_64.sha256", job.checksums b),
      (objectPath "latest" "hazel-linux-x86_64", job.binary b),
      (objectPath "latest" "hazel-linux-x86_64.sha256", job.checksums b)] := by
  have hname := (onX86_iff b h.mem).mpr h
  rw [program, if_pos h.mem]
  simp only [Job.upload, Job.files, hname]
  rfl

/-- A release in which `job` uploads after all others. -/
def afterAll (b : Builder) (version : String) (job : Job) : List (Job × String × Contents) :=
  ((jobs.filter (· ≠ job)).flatMap fun other => solo other (program b version other)) ++
    solo job (program b version job)

/-- A release in which `last` uploads after all others, but its checksums even
before those of `sums`. -/
def overtaken (b : Builder) (version : String) (first last : Job) :
    List (Job × String × Contents) :=
  ((jobs.filter fun job => job ≠ first ∧ job ≠ last).flatMap fun job =>
      solo job (program b version job)) ++
    solo last ((program b version last).take 1) ++ solo first (program b version first) ++
    solo last ((program b version last).drop 1)

theorem afterAll_finishes (version : String) (job : Job) :
    Finishes (program b version) (afterAll b version job) := by
  intro other
  have hjobs : jobs.Nodup := by decide
  have hnodup : (jobs.filter (· ≠ job)).Nodup := hjobs.sublist List.filter_sublist
  simp only [afterAll, actionsOf_append]
  rw [actionsOf_flatMap_solo (program b version) hnodup]
  by_cases hother : job = other
  · subst hother
    rw [actionsOf_solo_self, if_neg (by simp), List.nil_append]
  · rw [actionsOf_solo_of_ne hother, List.append_nil]
    by_cases hmem : other ∈ jobs
    · simp [hmem, Ne.symm hother]
    · simp [hmem, program]

/-- Runners as they are: macOS on `latest` is ARM, all others are not. -/
def sampleBuilder : Builder where
  unameM runner := if runner = "macos-latest" then "arm64" else "x86_64"
  compile target := if target = .x86_64UnknownLinuxGnu then [127, 69, 76, 70] else []
  sha256 _ := sampleDigest

theorem overtaken_finishes (version : String) {first last : Job} (hne : first ≠ last) :
    Finishes (program b version) (overtaken b version first last) := by
  intro job
  have hjobs : jobs.Nodup := by decide
  have hnodup : (jobs.filter fun job => job ≠ first ∧ job ≠ last).Nodup :=
    hjobs.sublist List.filter_sublist
  simp only [overtaken, actionsOf_append]
  rw [actionsOf_flatMap_solo (program b version) hnodup]
  by_cases hisLast : last = job
  · subst hisLast
    rw [actionsOf_solo_self, actionsOf_solo_self, actionsOf_solo_of_ne hne, if_neg (by simp),
      List.nil_append, List.append_nil, List.take_append_drop]
  · by_cases hisFirst : first = job
    · subst hisFirst
      rw [actionsOf_solo_self, actionsOf_solo_of_ne hisLast, actionsOf_solo_of_ne hisLast,
        if_neg (by simp), List.nil_append, List.nil_append, List.append_nil]
    · rw [actionsOf_solo_of_ne hisLast, actionsOf_solo_of_ne hisLast,
        actionsOf_solo_of_ne hisFirst]
      by_cases hjob : job ∈ jobs
      · simp [hjob, Ne.symm hisFirst, Ne.symm hisLast]
      · simp [hjob, program]

/-- The checksums of `latest` come after the binary of the version. -/
theorem objectPath_ne {directory directory' file file' : String} (hfile : '/' ∉ file.toList)
    (hfile' : '/' ∉ file'.toList) (h : directory ≠ directory' ∨ file ≠ file') :
    objectPath directory file ≠ objectPath directory' file' := by
  intro heq
  obtain ⟨hdirectory, hname⟩ := objectPath_inj hfile hfile' heq
  exact h.elim (absurd hdirectory) (absurd hname)

theorem bucket_overtaken {version : String} (hversion : version ≠ "latest") {first last : Job}
    (hfirst : first.OnX86 b) (hlast : last.OnX86 b) :
    bucket (overtaken b version first last) (objectPath version "hazel-linux-x86_64") =
        some (first.binary b) ∧
      bucket (overtaken b version first last) (objectPath version "hazel-linux-x86_64.sha256") =
        some (last.checksums b) := by
  have hslash : '/' ∉ "hazel-linux-x86_64".toList := by decide
  have hslash' : '/' ∉ "hazel-linux-x86_64.sha256".toList := by decide
  have hnames : "hazel-linux-x86_64.sha256" ≠ "hazel-linux-x86_64" := by decide
  have hlatest : "latest" ≠ version := Ne.symm hversion
  simp only [bucket, overtaken, solo, program_eq hfirst, program_eq hlast, List.map_append,
    List.map_cons, List.map_nil, List.take_succ_cons, List.take_zero, List.drop_succ_cons,
    List.drop_zero]
  constructor
  · rw [List.append_assoc, List.cons_append]
    apply written_of_last
    simp [objectPath_ne hslash' hslash (.inr hnames), objectPath_ne hslash hslash (.inl hlatest)]
  · apply written_of_last
    simp [objectPath_ne hslash hslash' (.inl hlatest), objectPath_ne hslash' hslash' (.inl hlatest)]

theorem bucket_afterAll {version : String} (hversion : version ≠ "latest") {job : Job}
    (hjob : job.OnX86 b) :
    bucket (afterAll b version job) (objectPath version "hazel-linux-x86_64") =
        some (job.binary b) ∧
      bucket (afterAll b version job) (objectPath version "hazel-linux-x86_64.sha256") =
        some (job.checksums b) := by
  have hslash : '/' ∉ "hazel-linux-x86_64".toList := by decide
  have hslash' : '/' ∉ "hazel-linux-x86_64.sha256".toList := by decide
  have hnames : "hazel-linux-x86_64.sha256" ≠ "hazel-linux-x86_64" := by decide
  have hlatest : "latest" ≠ version := Ne.symm hversion
  simp only [bucket, afterAll, solo, program_eq hjob, List.map_append, List.map_cons,
    List.map_nil]
  constructor
  · apply written_of_last
    simp [objectPath_ne hslash' hslash (.inr hnames), objectPath_ne hslash hslash (.inl hlatest)]
  · rw [List.append_cons]
    apply written_of_last
    simp [objectPath_ne hslash hslash' (.inl hlatest), objectPath_ne hslash' hslash' (.inl hlatest)]

/-- What an installer on Linux on `x86_64` can find once every job has uploaded
everything: the binary of any job whose runner is not on Windows and calls itself
`x86_64`, beside the checksums of the same or of any other of them. The macOS
runner on Intel is one of them. -/
theorem exists_finished_iff {version : String} (hversion : version ≠ "latest")
    (hos : osName host = some "linux") (harch : archName host = some "x86_64")
    {binaryPath checksumsPath : String}
    (hbinary : artifactAddress host version "" = origin ++ binaryPath)
    (hchecksums : artifactAddress host version ".sha256" = origin ++ checksumsPath)
    (binary checksums : Contents) :
    (∃ run, Finishes (program b version) run ∧ bucket run binaryPath = some binary ∧
        bucket run checksumsPath = some checksums) ↔
      ∃ first last : Job, first.OnX86 b ∧ last.OnX86 b ∧ binary = first.binary b ∧
        checksums = last.checksums b := by
  have hasked (extension : String) :
      askedName host extension = "hazel-linux-x86_64" ++ extension := by
    rw [askedName, hos, harch]
    rfl
  have hpath {extension path : String} (hextension : extension ∈ ["", ".sha256"])
      (h : artifactAddress host version extension = origin ++ path) :
      path = objectPath version ("hazel-linux-x86_64" ++ extension) := by
    rw [artifactAddress_eq harch hextension, hasked] at h
    apply String.toList_injective
    simpa using (congrArg String.toList h).symm
  constructor
  · intro ⟨run, hrun, hfoundBinary, hfoundChecksums⟩
    obtain ⟨-, -, first, hfirst, hb⟩ :=
      job_of_found hrun.interleaves harch (by decide) hbinary hfoundBinary
    obtain ⟨-, -, last, hlast, hc⟩ :=
      job_of_found hrun.interleaves harch (by decide) hchecksums hfoundChecksums
    exact ⟨first, last, hfirst, hlast, hb, hc⟩
  · intro ⟨first, last, hfirst, hlast, hb, hc⟩
    obtain rfl := hpath (by decide) hbinary
    obtain rfl := hpath (by decide) hchecksums
    subst hb hc
    by_cases hne : first = last
    · subst hne
      obtain ⟨hb, hc⟩ := bucket_afterAll hversion hfirst
      exact ⟨_, afterAll_finishes version first, hb, hc⟩
    · obtain ⟨hb, hc⟩ := bucket_overtaken hversion hfirst hlast
      exact ⟨_, overtaken_finishes version hne, hb, hc⟩

/-- The build for ARM can be what is installed on `x86_64`. -/
theorem exists_finished_sample :
    (∃ run, Finishes (program sampleBuilder "2.0.0") run ∧
        bucket run (objectPath "2.0.0" (askedName (sampleHost "") "")) =
          some (.binary (sampleBuilder.compile .aarch64UnknownLinuxGnu)) ∧
        bucket run (objectPath "2.0.0" (askedName (sampleHost "") ".sha256")) =
          some (Job.checksums sampleBuilder ⟨.x86_64UnknownLinuxGnu, "ubuntu-24.04"⟩)) ↔
      ∃ first last : Job, first.OnX86 sampleBuilder ∧ last.OnX86 sampleBuilder ∧
        Contents.binary (sampleBuilder.compile .aarch64UnknownLinuxGnu) =
          first.binary sampleBuilder ∧
        Job.checksums sampleBuilder ⟨.x86_64UnknownLinuxGnu, "ubuntu-24.04"⟩ =
          last.checksums sampleBuilder :=
  exists_finished_iff (by decide) (show osName (sampleHost "") = some "linux" from rfl) rfl
    (artifactAddress_eq rfl (by decide)) (artifactAddress_eq rfl (by decide)) _ _

end Installers

end Hazel.Release
