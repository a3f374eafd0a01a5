import Hazel.Lib.Script
import Mathlib.Logic.Function.Basic

/-!
# `distribution/installation-scripts/install.sh`

The installer as a script over the files of the machine. The temporary
directory that `mktemp -d` makes is new, so it is kept apart from the rest of
the file system.
-/

namespace Hazel.Installer

open Scripts Script

abbrev Bytes := List UInt8

inductive Node where
  | file (contents : Bytes)
  | dir
  deriving DecidableEq, Repr

/-- The temporary directory, by the file that was downloaded into it. -/
structure Tmpdir where
  tmploc : Option Bytes
  deriving DecidableEq, Repr

structure Files where
  fs : String → Option Node
  tmpdir : Option Tmpdir

structure Machine where
  files : Files
  /-- The lines printed on the terminal. -/
  output : List String

/-- A SHA-256 digest as the hash tools print it. -/
structure Digest where
  text : String
  length : text.length = 64
  hexadecimal : ∀ c ∈ text.toList, c ∈ "0123456789abcdef".toList

/-- The status of a command that failed. -/
structure Failure where
  status : Nat
  ne_zero : status ≠ 0

/-- A failed `mv`, with what it leaves at both ends: across file systems it copies
and then removes, and can stop anywhere. -/
structure MvFailure extends Failure where
  target : Option Node
  tmploc : Option Bytes

/-- The commands that the installer finds on the machine, and the network. -/
structure Host where
  /-- `uname -s`. -/
  unameS : String
  /-- `uname -m`. -/
  unameM : String
  /-- `command -v`. -/
  commandExists : String → Bool
  /-- `curl -sSL url -o loc`: what it saves. -/
  curl : String → Option Bytes
  /-- `wget -q url -O loc`. -/
  wget : String → Option Bytes
  /-- `curl -fsSL url`: what it prints. -/
  curlFetch : String → Option String
  /-- `jq '.latest.version'`. -/
  jqLatestVersion : String → Except Failure String
  /-- `mktemp -d`. -/
  mktemp : Except Failure String
  /-- The digest that `sha256sum` prints for a file. -/
  sha256sum : Bytes → Digest
  /-- The digest that `shasum -a 256` prints. -/
  shasum : Bytes → Digest
  /-- The status of `grep -q pattern file`. -/
  grep : Files → String → String → Nat
  /-- `mv` of the downloaded file, by its destination. -/
  mv : Files → String → Except MvFailure Unit
  /-- `rm -rf` of the temporary directory, or what a failed one leaves of it. -/
  rm : Files → Except Tmpdir Unit

variable (host : Host)

def say (line : String) : Script Machine Unit :=
  modify fun m => { m with output := m.output ++ [line] }

def error (text : String) : Script Machine Unit := say ("error: " ++ text)

def info (text : String) : Script Machine Unit := say ("info: " ++ text)

def warn (text : String) : Script Machine Unit := say ("warn: " ++ text)

def fatal {α : Type} (text : String) : Script Machine α := do
  say ("fatal: " ++ text)
  exit 1

def os : Script Machine String :=
  if host.unameS = "Darwin" then pure "darwin"
  else if host.unameS = "Linux" then pure "linux"
  else do
    say ("Unsupported operating system: `" ++ host.unameS ++ "`")
    exit 1

def arch : Script Machine String :=
  if host.unameM = "x86_64" ∨ host.unameM = "amd64" then pure "x86_64"
  else if host.unameM = "aarch64" ∨ host.unameM = "arm64" then pure "arm64"
  else do
    say ("Unsupported architecture: `" ++ host.unameM ++ "`")
    exit 1

/-- `binary_url` and `checksum_url` run in a substitution, where a failure of
`os` or `arch` leaves an empty name and goes on. -/
def artifactUrl (version extension : String) : Script Machine String := do
  let arch ← assignAnyway (arch host)
  let os ← assignAnyway (os host)
  pure ("https://artifacts.noelware.org/hazel/" ++ version ++ "/hazel-" ++ os ++ "-" ++ arch ++
    extension)

def binaryUrl (version : String) : Script Machine String := artifactUrl host version ""

def checksumUrl (version : String) : Script Machine String := artifactUrl host version ".sha256"

def saveTmploc (contents : Bytes) : Script Machine Unit :=
  modify fun m => { m with files := { m.files with tmpdir := some ⟨some contents⟩ } }

def download (url loc : String) : Script Machine Unit :=
  if host.commandExists "curl" then
    match host.curl url with
    | some contents => saveTmploc contents
    | none => fatal ("failed to download " ++ url ++ " into " ++ loc)
  else if host.commandExists "wget" then
    match host.wget url with
    | some contents => saveTmploc contents
    | none => fatal ("failed to download " ++ url ++ " into " ++ loc)
  else
    fatal "Failed to download Hazel as `curl` or `wget` was not found on the system"

/-- Without curl, `hazel::command-exists` is called without its argument, and
`set -u` ends the shell. -/
def fetch (url : String) : Script Machine String :=
  if host.commandExists "curl" then
    match host.curlFetch url with
    | some text => pure text
    | none => fatal ("failed to fetch " ++ url)
  else do
    say "$1: unbound variable"
    exit 1

structure Options where
  version : String
  installdir : String
  allowpathoverwrite : Bool
  deriving DecidableEq, Repr

def Options.default : Options where
  version := "latest"
  installdir := "/usr/local"
  allowpathoverwrite := true

/-- The `while` over the arguments, with the message of its `exit 1`. -/
def parseOptions (o : Options) : List String → Except String Options
  | [] => .ok o
  | arg :: rest =>
    if arg = "--version" ∨ arg = "-v" then
      match rest with
      | value :: rest => parseOptions { o with version := value } rest
      | [] => .error "`--version` flag requires a value (i.e., --version 2.0.0)"
    else if arg = "--install-dir" then
      match rest with
      | value :: rest => parseOptions { o with installdir := value } rest
      | [] => .error "`--install-dir` flag requires a value (i.e., --install-dir /usr/local)"
    else if arg = "--no-path-overwrite" then
      parseOptions { o with allowpathoverwrite := false } rest
    else if arg = "--" then .ok o
    else if arg.toList.head? = some '-' then .error ("unknown option: " ++ arg)
    else .ok o

def options (args : List String) : Script Machine Options :=
  match parseOptions Options.default args with
  | .ok o => pure o
  | .error text => do
    error text
    exit 1

def versionsUrl : String := "https://artifacts.noelware.org/hazel/versions.json"

/-- `jq '.latest.version' | tr -d '"'`. -/
def latestVersion (versions : String) : Script Machine String :=
  match host.jqLatestVersion versions with
  | .ok version => pure (String.ofList (version.toList.filter (· ≠ '"')))
  | .error failure => exit failure.status

def resolveVersion (o : Options) : Script Machine String :=
  if o.version = "latest" then do
    info "resolving latest version..."
    let version ← assign (do latestVersion host (← fetch host versionsUrl))
    info ("resolved: " ++ version)
    pure version
  else pure o.version

def mktemp : Script Machine String :=
  match host.mktemp with
  | .ok dir => do
    modify fun m => { m with files := { m.files with tmpdir := some ⟨none⟩ } }
    pure dir
  | .error failure => exit failure.status

/-- `hazel-$(hazel::os)-$(hazel::arch)`: the status of the assignment is that of
the last substitution. -/
def binaryName : Script Machine String := do
  let os ← assignAnyway (os host)
  let arch ← assign (arch host)
  pure ("hazel-" ++ os ++ "-" ++ arch)

/-- A hash tool on the downloaded file; under `pipefail` its failure is that of
the pipeline. -/
def digest (sum : Bytes → Digest) : Script Machine String := do
  let m ← get
  match m.files.tmpdir with
  | some ⟨some contents⟩ => pure (sum contents).text
  | _ => exit 1

/-- `rm -rf "$tmpdir"`. A failure is only warned of. -/
def removeTmpdir (tmpdir : String) : Script Machine Unit := do
  let m ← get
  match host.rm m.files with
  | .ok () => modify fun m => { m with files := { m.files with tmpdir := none } }
  | .error left => do
    modify fun m => { m with files := { m.files with tmpdir := some left } }
    warn ("failed to cleanup [" ++ tmpdir ++ "]; manual intervention is required")

/-- Where `mv` puts a file: in `dest` when that is a directory. -/
def mvTarget (fs : String → Option Node) (dest name : String) : String :=
  if fs dest = some .dir then dest ++ "/" ++ name else dest

/-- The files with something in the place that `mv` puts a file. -/
def moved (fs : String → Option Node) (dest name : String) (target : Option Node)
    (tmploc : Option Bytes) : Files where
  fs := Function.update fs (mvTarget fs dest name) target
  tmpdir := some ⟨tmploc⟩

def mv (dest name : String) : Script Machine Unit := do
  let m ← get
  match m.files.tmpdir with
  | some ⟨some contents⟩ =>
    match host.mv m.files dest with
    | .ok () =>
      modify fun m => { m with files := moved m.files.fs dest name (some (.file contents)) none }
    | .error failure => do
      modify fun m =>
        { m with files := moved m.files.fs dest name failure.target failure.tmploc }
      exit failure.status
  | _ => exit 1

def Options.dest (o : Options) : String := o.installdir ++ "/bin/hazel"

def rule : String := "~~~~~~~~~~~~~~~~~~~~~~~~~~~~~~~~~~~~~~~~~~~~~~~~~"

def mismatch (tmpdir binary server : String) : Script Machine Unit := do
  error "failed to compute checksum for `hazel` binary"
  error rule
  error "generated by system:"
  error binary
  error rule
  error "generated by artifacts server:"
  error server
  removeTmpdir host tmpdir
  fatal "SHA256 checksums do not compute correctly; possibly artifacts server is down?"

/-- The fetched text is the file argument of `grep`. -/
def compare (tmpdir binary server : String) : Script Machine Unit := do
  let m ← get
  if host.grep m.files binary server ≠ 0 then mismatch host tmpdir binary server else pure ()

/-- One of the two blocks, with its hash tool. -/
def verify (sum : Bytes → Digest) (o : Options) (checksumsUrl tmpdir name : String) :
    Script Machine Unit := do
  let binary ← assign (digest sum)
  let server ← assign (fetch host checksumsUrl)
  compare host tmpdir binary server
  mv host o.dest name
  info ("binary is now installed in `" ++ o.dest ++ "`!")

def verifyIfExists (command : String) (sum : Bytes → Digest) (o : Options)
    (checksumsUrl tmpdir name : String) : Script Machine Unit :=
  if host.commandExists command then verify host sum o checksumsUrl tmpdir name else pure ()

/-- What `install` does once the binary is downloaded. -/
def verifyAll (o : Options) (checksumsUrl tmpdir name : String) : Script Machine Unit := do
  verifyIfExists host "sha256sum" host.sha256sum o checksumsUrl tmpdir name
  verifyIfExists host "shasum" host.shasum o checksumsUrl tmpdir name
  removeTmpdir host tmpdir
  fatal "missing either `sha256sum` or `shasum` binaries to compute checksum verification"

def install (args : List String) : Script Machine Unit := do
  let o ← options args
  let version ← resolveVersion host o
  let binaryUrl ← assign (binaryUrl host version)
  let checksumsUrl ← assign (checksumUrl host version)
  info "resolved options:"
  info ("Distribution URL => " ++ binaryUrl)
  info ("   Checksums URL => " ++ checksumsUrl)
  let tmpdir ← assign (mktemp host)
  let name ← binaryName host
  download host binaryUrl (tmpdir ++ "/" ++ name)
  verifyAll host o checksumsUrl tmpdir name

end Hazel.Installer
